import Transclusion.Proofs.Fixup.TopElements
import Transclusion.Proofs.Inclusion.Expanded
import Transclusion.Proofs.Inclusion.Sites
import Transclusion.Proofs.Inclusion.StackDiscipline
/-!
# Base URIs at the boundary of an inclusion

What comes from elsewhere has its base URI recorded when it replaces an include: an element at the
top of the replacement either has the base URI of the place of inclusion, or it is written in the
`xml:base` of the element.  Fix-up sees to this, but it comes before the expansion of what is
included.  So it misses the elements that take the place of a control element at the top of the
included document: these have been compared with that document and not with the place of inclusion.

* `Forest.mem_tops_fill`: an element at the top of a walked forest was there before, or is at the
  top of what replaces a control element at the top.
* `Includer.base_recorded`: base URIs are recorded, but for that of a document with a control
  element at its top.
-/

namespace Transclusion

/-- An element at the top of a walked forest was there before, or it is at the top of the answer to
a control element that is there. -/
theorem Forest.mem_tops_fill {controls : ControlRegistry} {answered : Encounter → Document → Prop}
    {f : Forest} {answers : List Document} (parent first : Nat)
    (h : List.Forall₂ answered (f.encounters controls first) answers) {t : Element}
    (ht : t ∈ (f.fill controls answers).tops) :
    t ∈ f.tops ∨ ∃ x ∈ f.encounters controls first, x.element ∈ f.tops
      ∧ (∃ m, x.id = first + m ∧ ((f.nodes parent first)[m]?).bind (·.parent) = some parent)
      ∧ ∃ answer, answered x answer ∧ t ∈ answer.content.tops := by
  induction f generalizing first answers with
  | nil => cases ht
  | leaf l rest ih =>
    rw [fill, tops_consLeaf] at ht
    obtain before | ⟨x, hx, top, ⟨m, hid, hparent⟩, answer⟩ := ih (first + 1) h ht
    · exact .inl before
    · exact .inr ⟨x, hx, top, ⟨m + 1, by omega, hparent⟩, answer⟩
  | element e content rest _ ih =>
    -- What is found behind the element keeps its place among the siblings.
    have later : ∀ x : Encounter, (∃ m, x.id = first + content.size + 1 + m ∧
          ((rest.nodes parent (first + content.size + 1))[m]?).bind (·.parent) = some parent) →
        ∃ m, x.id = first + m
          ∧ (((element e content rest).nodes parent first)[m]?).bind (·.parent) = some parent := by
      rintro x ⟨m, hid, hparent⟩
      exact ⟨content.size + m + 1, by omega, by rwa [getElem?_nodes_behind]⟩
    cases hget : controls.get? e.name with
    | some control =>
      rw [encounters, hget] at h ⊢
      obtain ⟨answer, others, here, behindHere, rfl⟩ := List.forall₂_cons_left_iff.mp h
      simp only [fill, hget, tops_append, List.mem_append] at ht
      obtain top | behind := ht
      · exact .inr ⟨_, List.mem_cons_self, List.mem_cons_self, ⟨0, rfl, rfl⟩, answer, here, top⟩
      · obtain before | ⟨x, hx, top, place, found⟩ := ih _ behindHere behind
        · exact .inl (List.mem_cons_of_mem e before)
        · refine .inr ⟨x, List.mem_cons_of_mem _ hx, ?_, later x place, found⟩
          exact List.mem_cons_of_mem e top
    | none =>
      rw [encounters, hget] at h ⊢
      simp only [fill, hget, tops, List.mem_cons] at ht
      obtain rfl | behind := ht
      · exact .inl List.mem_cons_self
      · have count := length_encounters controls 0 (first + 1) content
        have behindHere := List.forall₂_drop (content.encounters controls 0).length h
        rw [count, List.drop_left, ← count] at behindHere
        obtain before | ⟨x, hx, top, place, found⟩ := ih _ behindHere behind
        · exact .inl (List.mem_cons_of_mem e before)
        · refine .inr ⟨x, List.mem_append_right _ hx, ?_, later x place, found⟩
          exact List.mem_cons_of_mem e top

theorem Document.tops_ofText (base : Option String) (text : String) :
    (Document.ofText base text).content.tops = [] :=
  Forest.tops_consLeaf (.text text) .nil

namespace Includer

variable {includer : Includer}

/-- An include of a walk that has succeeded has been replaced from the stack of the walk. -/
theorem makes_of_answered {call : Call} {d : Document} {first depth : Nat} {f : Forest}
    {s : UriStack} {answers : List Document} (walked : call.walked? = some (d, first, f))
    (answered : List.Forall₂ (fun x a => (includer.handle depth d).answer x s = .ok (.ok a, s))
      (f.encounters includer.controls first) answers)
    {id : Nat} {e : Element} (hx : ⟨.inclusion, id, e⟩ ∈ f.encounters includer.controls first) :
    includer.Makes (call, s) (.inclusion d id e, s) := by
  obtain ⟨before, after, place⟩ := List.append_of_mem hx
  have earlier := List.forall₂_take before.length answered
  rw [place, List.take_left] at earlier
  exact .encounter walked place
    ((Expanding.mapM_eq_ok_iff fun x _ => includer.balanced_handle _ _ x).mpr ⟨rfl, earlier⟩)

/-- A resolution that succeeds ends with the walk of content that has been fixed up, or it passes on
the text of the document with the include. -/
theorem walk_of_resolve {site : IncludeSite} {parseType : ParseType} {depth : Nat} {c : Document}
    {s s' : UriStack}
    (h : includer.resolve (includer.handle depth) site parseType s = .ok (.ok c, s')) :
    (∃ r t t', includer.Makes (.resolution site parseType, s) (.walk (includer.fixed site r), t)
        ∧ includer.expandAll (includer.handle depth) (includer.fixed site r) t = .ok (.ok c, t'))
      ∨ includer.resolver.readText (request site) = .ok (.ok c) := by
  unfold resolve at h
  obtain ⟨⟨d, around⟩, t, obtained, h⟩ := Expanding.bind_apply_eq_ok_iff.mp h
  dsimp only at h
  -- What is walked last is the selection, if there is a fragment, and the resource otherwise.
  cases identifier : site.attributes.fragment parseType with
  | some fragment =>
    rw [identifier] at h obtained
    dsimp only at h
    obtain ⟨schemes, read, h⟩ := Expanding.lift_bind_eq_ok_iff.mp h
    obtain ⟨⟨result, matched⟩, found, h⟩ := Expanding.lift_bind_eq_ok_iff.mp h
    exact .inl ⟨result, t, s', .selected identifier obtained (mapError_eq_ok_iff.mp read) found, h⟩
  | none =>
    rw [identifier] at h obtained
    cases h
    rw [resource] at obtained
    split at obtained
    · next isText =>
      subst isText
      obtain ⟨d', t, gained, same⟩ := Expanding.bind_apply_eq_ok_iff.mp obtained
      cases same
      rw [text] at gained
      obtain ⟨r, replied, gained⟩ := Expanding.ofReply_bind_eq_ok_iff.mp gained
      split at gained
      · cases gained
        exact .inr replied
      · next external => exact .inl ⟨r, s, s', .text external replied, gained⟩
    split at obtained
    · next notText external =>
      obtain ⟨d', t, gained, same⟩ := Expanding.bind_apply_eq_ok_iff.mp obtained
      cases same
      rw [markup] at gained
      obtain ⟨t, entered, gained⟩ := Expanding.enter_bind_eq_ok_iff.mp gained
      obtain ⟨r, replied, gained⟩ := Expanding.ofReply_bind_eq_ok_iff.mp gained
      obtain ⟨c, t', walked, last⟩ := Expanding.bind_apply_eq_ok_iff.mp gained
      cases last
      exact .inl ⟨r, t, t', .markup notText external entered replied, walked⟩
    · cases obtained

/-- The content of a fallback has been fixed up after its expansion. -/
theorem fixed_of_fallback {handle : Document → ControlHandler Expanding} {site : IncludeSite}
    {id : Nat} {c : Document} {s s' : UriStack}
    (h : includer.fallback handle site id s = .ok (.ok c, s')) :
    ∃ d, c = includer.fixed site d := by
  rw [fallback_eq] at h
  obtain ⟨answers, t, -, last⟩ := Expanding.bind_apply_eq_ok_iff.mp h
  cases last
  exact ⟨_, rfl⟩

/-- What replaces an include is what a resolution or a fallback has given, with its text trimmed
perhaps. -/
theorem makes_of_include {d : Document} {id : Nat} {e : Element} {depth : Nat} {c : Document}
    {s s' : UriStack}
    (h : includer.carryOut depth (.inclusion d id e) s = .ok (.ok c, s')) :
    ∃ call t c' t', includer.Makes (.inclusion d id e, s) (call, t)
      ∧ includer.carryOut depth call t = .ok (.ok c', t') ∧ (c = c' ∨ c = trimmed c') := by
  rw [carryOut, include_] at h
  obtain ⟨a, attributes, h⟩ := Expanding.lift_bind_eq_ok_iff.mp h
  obtain ⟨fallback, child, h⟩ := Expanding.lift_bind_eq_ok_iff.mp h
  unfold replacement at h
  dsimp only at h
  split at h
  · next unsupported =>
    cases fallback with
    | none => cases h
    | some id' => exact ⟨_, s, c, s', .forced attributes child unsupported, h, .inl rfl⟩
  · next supported =>
    rw [Expanding.bind_apply, Expanding.get_apply] at h
    obtain ⟨content, t, gained, last⟩ := Expanding.bind_apply_eq_ok_iff.mp h
    obtain ⟨trimming, -⟩ := Expanding.pure_apply_eq_ok_iff.mp last
    have same : c = content ∨ c = trimmed content := by
      split at trimming
      · exact .inr trimming.symm
      · exact .inl trimming.symm
    rw [Expanding.tryCatch_apply] at gained
    split at gained
    · cases gained
    · next err s₁ attempted =>
      cases fallback with
      | none => cases gained
      | some id' =>
        obtain ⟨_, t', cut, expanded⟩ := Expanding.bind_apply_eq_ok_iff.mp gained
        cases cut
        exact ⟨_, _, content, t, .failed attributes child supported attempted, expanded, same⟩
    · next resolved =>
      cases gained
      exact ⟨_, s, content, t, .attempt attributes child supported, resolved, same⟩

/-- What replaces an include is what has been resolved, with its text trimmed perhaps, or the
content of a fallback. -/
theorem content_of_include {d : Document} {id : Nat} {e : Element} {depth : Nat} {c : Document}
    {s s' : UriStack}
    (h : includer.include_ (includer.handle depth) d id e s = .ok (.ok c, s')) :
    ∃ a, (∃ d', c = includer.fixed ⟨d, id, e, a⟩ d') ∨ (∃ d', c = trimmed d')
      ∨ ∃ t, includer.Makes (.inclusion d id e, s) (.resolution ⟨d, id, e, a⟩ a.parseType, s)
        ∧ includer.resolve (includer.handle depth) ⟨d, id, e, a⟩ a.parseType s
            = .ok (.ok c, t) := by
  obtain ⟨call, t, c', t', makes, carried, same⟩ := makes_of_include h
  cases makes with
  | encounter walked => cases walked
  | @attempt _ _ _ a _ _ attributes child supported =>
    refine ⟨a, .inr ?_⟩
    obtain rfl | rfl := same
    · exact .inr ⟨t', .attempt attributes child supported, carried⟩
    · exact .inl ⟨c', rfl⟩
  | @forced _ _ _ _ a | @failed _ _ _ _ _ a =>
    refine ⟨a, ?_⟩
    obtain rfl | rfl := same
    · exact .inl (fixed_of_fallback carried)
    · exact .inr (.inl ⟨c', rfl⟩)

/-! ### What an element at the top has come through -/

variable (includer)

/-- An element that has come to a place where the base URI is `base` has its own one recorded, if
that is another. What can be missed is the base URI of a document that was walked on the way and has
a control element at its top. -/
def Kept (p : Call × UriStack) (base : Option String) (t : Element) : Prop :=
  t.base ≠ base → t.Recorded ∨ ∃ d s, Relation.ReflTransGen includer.Makes p (.walk d, s)
    ∧ d.base = t.base ∧ ∃ e ∈ d.content.tops, includer.controls.get? e.name ≠ none

variable {includer}

theorem Kept.trans {p q : Call × UriStack} {base : Option String} {t : Element}
    (h : Relation.ReflTransGen includer.Makes p q) (kept : includer.Kept q base t) :
    includer.Kept p base t := by
  intro other
  obtain recorded | ⟨d, s, later, rest⟩ := kept other
  · exact .inl recorded
  · exact .inr ⟨d, s, h.trans later, rest⟩

/-- The base URI at the place of an include. -/
def placeBase (d : Document) (id : Nat) : Option String :=
  d.nodes.base? ((d.nodes.parent? id).getD id)

/-- What stands at the top of a document has its base URI around it. -/
theorem placeBase_of_top {d : Document} {id : Nat} (h : d.nodes.parent? id = some 0) :
    placeBase d id = d.base := by
  rw [placeBase, h]
  rfl

section

variable (on : includer.options.fixupXmlBase = true)

include on

theorem kept_fixed (p : Call × UriStack) (site : IncludeSite) {d : Document} {t : Element}
    (h : t ∈ (includer.fixed site d).content.tops) :
    includer.Kept p (placeBase site.document site.id) t := by
  intro other
  replace h : t ∈ (d.content.mapTop _).tops := h
  rw [Forest.tops_mapTop] at h
  obtain ⟨e, -, rfl⟩ := List.mem_map.mp h
  rw [FixupContext.base_topElement] at other
  exact .inl ((includer.contextOf site).recorded_topElement on _ _ other)

variable {depth : Nat} (inner : ∀ d id e c s s',
  includer.handle depth d .inclusion id e s = .ok (.ok c, s') →
    ∀ t ∈ c.content.tops, includer.Kept (.inclusion d id e, s) (placeBase d id) t)

include inner

/-- What is at the top after a walk of content that has been fixed up, given what is at the top of
the replacements of includes. -/
theorem kept_walk {site : IncludeSite} {r c : Document} {s s' : UriStack}
    (h : includer.expandAll (includer.handle depth) (includer.fixed site r) s = .ok (.ok c, s'))
    {t : Element} (ht : t ∈ c.content.tops) :
    includer.Kept (.walk (includer.fixed site r), s) (placeBase site.document site.id) t := by
  rw [expandAll_eq] at h
  obtain ⟨answers, s₁, answered, last⟩ := Expanding.bind_apply_eq_ok_iff.mp h
  obtain ⟨rfl, -⟩ := Expanding.pure_apply_eq_ok_iff.mp last
  have balanced := fun x (_ : x ∈ (includer.fixed site r).content.encounters includer.controls 1) =>
    includer.balanced_handle depth (includer.fixed site r) x
  obtain ⟨-, each⟩ := (Expanding.mapM_eq_ok_iff balanced).mp answered
  obtain before | ⟨x, hx, top, ⟨m, hid, hparent⟩, answer, answeredHere, there⟩ :=
    Forest.mem_tops_fill 0 1 each ht
  · exact kept_fixed on _ site before
  obtain ⟨control, id, e⟩ := x
  obtain ⟨-, -, hcontrol⟩ := Document.element?_of_encounter hx
  cases control with
  | fallback =>
    cases depth with
    | zero => cases answeredHere
    | succ depth => cases answeredHere
  | inclusion =>
    have makes : includer.Makes (.walk (includer.fixed site r), s)
        (.inclusion (includer.fixed site r) id e, s) := makes_of_answered rfl each hx
    have place : placeBase (includer.fixed site r) id = (includer.fixed site r).base := by
      refine placeBase_of_top ?_
      replace hid : id = m + 1 := hid.trans (Nat.add_comm 1 m)
      rw [NodeList.parent?, Document.nodes_getElem?, hid]
      exact hparent
    have kept := inner _ _ _ _ _ _ answeredHere t there
    intro other
    -- With the base of the content this is the exception, as the include is at the top of it; any
    -- other base has been recorded further in.
    by_cases same : t.base = (includer.fixed site r).base
    · refine .inr ⟨_, s, .refl, same.symm, e, top, ?_⟩
      rw [hcontrol]
      exact Option.some_ne_none _
    · exact Kept.trans (.single makes) (place ▸ kept) same

omit inner

/-- What is at the top of the replacement of an include. -/
theorem kept_handle (plain : includer.resolver.PlainText) (depth : Nat) :
    ∀ d id e c s s', includer.handle depth d .inclusion id e s = .ok (.ok c, s') →
      ∀ t ∈ c.content.tops, includer.Kept (.inclusion d id e, s) (placeBase d id) t := by
  induction depth with
  | zero =>
    intro d id e c s s' h
    cases h
  | succ depth ih =>
    intro d id e c s s' h t ht
    obtain ⟨a, ⟨d', rfl⟩ | ⟨d', rfl⟩ | ⟨s₁, attempt, resolved⟩⟩ := content_of_include h
    · exact kept_fixed on _ ⟨d, id, e, a⟩ ht
    · rw [trimmed, Document.tops_ofText] at ht
      cases ht
    obtain ⟨r, s₂, s₃, walk, walked⟩ | ownText := walk_of_resolve resolved
    · have kept := kept_walk on ih walked ht
      exact Kept.trans (.tail (.single attempt) walk) kept
    · obtain ⟨base, text, rfl⟩ := plain _ _ ownText
      rw [Document.tops_ofText] at ht
      cases ht

end

/-! ### A page that is nothing but an include -/

namespace NestedInclude

def bindings : Bindings := .ofList [("xi", xincludeNamespace)]

/-- An include of `href` on the page `http://h/h`. -/
def includeOf (href : String) : Element :=
  ⟨.prefixed "xi" xincludeNamespace "include", .ofList [(.plain "href", href)], bindings,
    some "http://h/h"⟩

/-- A page that includes `href`. -/
def host (href : String) : Document :=
  ⟨some "http://h/h", .element ⟨.inNamespace none "doc", .empty, bindings, some "http://h/h"⟩
    (.element (includeOf href) .nil .nil) .nil⟩

/-- The page with the include of `a` in writing. -/
def writtenHost : String :=
  "<doc xmlns:xi='http://www.w3.org/2001/XInclude'><xi:include href='a'/></doc>"

/-- The page `a` is an include that falls back, and `b` is an element. -/
def resources : Table String String :=
  .ofList [("http://h/a", "<xi:include xmlns:xi='http://www.w3.org/2001/XInclude' href='missing'>"
      ++ "<xi:fallback><p/></xi:fallback></xi:include>"), ("http://h/b", "<p/>")]

/-- Records base URIs and nothing else. -/
def reader : Includer := ⟨⟨true, false, false, false⟩, .standard, .standard, .memory resources⟩

/-- The stack while the page is expanded. -/
def stack : UriStack := ⟨["http://h/h"]⟩

/-- The element that replaces the include of `a`. -/
def lost : Element := ⟨.inNamespace none "p", .empty, bindings, some "http://h/a"⟩

/-- The element that replaces the include of `b`. -/
def kept : Element :=
  ⟨.inNamespace none "p", .ofList [(.xml "base", "http://h/b")], .empty, some "http://h/b"⟩

theorem include_a : reader.handle 2 (host "a") .inclusion 2 (includeOf "a") stack
    = .ok (.ok ⟨some "http://h/a", .element lost .nil .nil⟩, stack) := by
  have outcome : Expanding.success? (reader.handle 2 (host "a") .inclusion 2 (includeOf "a")) stack
      = some (⟨some "http://h/a", .element lost .nil .nil⟩, stack) := by decide +kernel
  exact Expanding.eq_of_success? outcome

theorem include_b : reader.handle 1 (host "b") .inclusion 2 (includeOf "b") stack
    = .ok (.ok ⟨some "http://h/b", .element kept .nil .nil⟩, stack) := by
  have outcome : Expanding.success? (reader.handle 1 (host "b") .inclusion 2 (includeOf "b")) stack
      = some (⟨some "http://h/b", .element kept .nil .nil⟩, stack) := by decide +kernel
  exact Expanding.eq_of_success? outcome

end NestedInclude

/-! ### Main result -/

open NestedInclude in
/-- The base URI of a page that is nothing but an include is lost: what replaces that include comes
without a record of it. -/
theorem base_lost_of_nested_include :
    Document.read (some "http://h/h") writtenHost = .ok (host "a")
      ∧ reader.handle 2 (host "a") .inclusion 2 (includeOf "a") stack
        = .ok (.ok ⟨some "http://h/a", .element lost .nil .nil⟩, stack)
      ∧ lost.base = some "http://h/a" ∧ placeBase (host "a") 2 = some "http://h/h"
      ∧ lost.attribute? (.xml "base") = none :=
  ⟨eq_ok_of_toOption (by decide +kernel), include_a, rfl, by decide +kernel, rfl⟩

/-- **Base URIs are recorded at the boundary of an inclusion**, whatever is included and however it
is nested: an element at the top of what replaces an include, whose base URI is known and not that
of the place of the include, has it as the value of its `xml:base`, unless it is the base URI of a
document with a control element at its top that was walked for the include. -/
theorem base_recorded {options : Options} (on : options.fixupXmlBase = true)
    (schemes : SchemeRegistry) (resources : Table String String) {depth : Nat} {d c : Document}
    {id : Nat} {e : Element} {s s' : UriStack}
    (h : (⟨options, schemes, .standard, .memory resources⟩ : Includer).handle depth d .inclusion id
      e s = .ok (.ok c, s')) :
    ∀ t ∈ c.content.tops, ∀ base, t.base = some base → placeBase d id ≠ some base →
      t.attribute? (.xml "base") = some base
        ∨ ∃ d' s'', Relation.ReflTransGen
              (⟨options, schemes, .standard, .memory resources⟩ : Includer).Makes
              (.inclusion d id e, s) (.walk d', s'')
            ∧ d'.base = some base
            ∧ ∃ e' ∈ d'.content.tops, ControlRegistry.standard.get? e'.name ≠ none := by
  intro t ht base hbase other
  let includer : Includer := ⟨options, schemes, .standard, .memory resources⟩
  have fixups : includer.options.fixupXmlBase = true := on
  have kept := kept_handle fixups (Resolver.plainText_memory resources) depth d id e c s s' h t ht
  obtain recorded | ⟨d', s'', walked, sameBase, control⟩ := kept (hbase ▸ other.symm)
  · exact .inl (recorded base hbase)
  · exact .inr ⟨d', s'', walked, sameBase.trans hbase, control⟩

open NestedInclude in
theorem base_recorded_on_page :
    reader.handle 1 (host "b") .inclusion 2 (includeOf "b") stack
        = .ok (.ok ⟨some "http://h/b", .element kept .nil .nil⟩, stack)
      ∧ (kept.attribute? (.xml "base") = some "http://h/b"
        ∨ ∃ d s, Relation.ReflTransGen reader.Makes
              (.inclusion (host "b") 2 (includeOf "b"), stack) (.walk d, s)
            ∧ d.base = some "http://h/b"
            ∧ ∃ e ∈ d.content.tops, ControlRegistry.standard.get? e.name ≠ none) :=
  ⟨include_b, base_recorded rfl .standard resources include_b kept List.mem_cons_self "http://h/b"
    rfl (by decide)⟩

end Includer

end Transclusion
