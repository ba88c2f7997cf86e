import Transclusion.Proofs.Fragment.LoopCheck
import Transclusion.Proofs.Inclusion.RecordedBase
/-!
# Invariants of the nodes of an expansion

What holds of every node of a document and of every resource that is read as markup for it, whatever
is done to elements in fix-up, holds of every node of the expansion (`Includer.Stable`).  The nodes
of the expansion come from nowhere else: a scheme selects copies (`Scheme.Keeps`), and otherwise
content is only put into other content.

* `SchemeRegistry.keeps_standard`: the standard schemes keep invariants.
* `Includer.keeps_carryOut`: so does every call of an expansion.
-/

namespace Transclusion

/-- A property of elements and leaves that all texts have, and that no fix-up takes from an element:
neither that of one which is selected, nor that of one at the top of what replaces an include. -/
structure Includer.Stable (includer : Includer) (p : NodeKind → Prop) : Prop where
  text : ∀ s, p (.leaf (.text s))
  apply : ∀ (context : FixupContext) lang e, context.options = includer.options →
    p (.element e) → p (.element (context.apply lang e))
  topElement : ∀ (context : FixupContext) inclusion setId e, context.options = includer.options →
    includer.controls.get? inclusion.name = some .inclusion → p (.element inclusion) →
      p (.element e) → p (.element (context.topElement inclusion setId e))

/-- What holds of what is related to the members of a list holds of the members of the other. -/
theorem forall_mem_right_of_forall₂ {α β : Type} {rel : α → β → Prop} {holds : β → Prop}
    {as : List α} {bs : List β} (h : List.Forall₂ rel as bs)
    (each : ∀ a ∈ as, ∀ b, rel a b → holds b) : ∀ b ∈ bs, holds b := by
  induction h with
  | nil => exact fun _ none_ => nomatch none_
  | cons first _ ih =>
    obtain ⟨here, behind⟩ := List.forall_mem_cons.mp each
    exact List.forall_mem_cons.mpr ⟨here _ first, ih behind⟩

/-! ### Putting content into other content -/

namespace Forest

variable {p : NodeKind → Prop} (text : ∀ s, p (.leaf (.text s)))

include text

theorem AllKinds.fill {f : Forest} (h : f.AllKinds p) (controls : ControlRegistry)
    {answers : List Document} (answered : ∀ a ∈ answers, a.content.AllKinds p) :
    (f.fill controls answers).AllKinds p := by
  have joined : ∀ s t, p (.leaf (.text s)) → p (.leaf (.text t)) → p (.leaf (.text (s ++ t))) :=
    fun _ _ _ _ => text _
  induction f generalizing answers with
  | nil => trivial
  | leaf l rest ih => exact allKinds_consLeaf joined h.1 (ih h.2 answered)
  | element e content rest ihc ih =>
    rw [Forest.fill]
    split
    · have behind := ih h.2.2 fun a ha => answered a (List.mem_of_mem_tail ha)
      refine allKinds_append joined ?_ behind
      cases answers with
      | nil => trivial
      | cons a _ => exact answered a List.mem_cons_self
    · exact ⟨h.1, ihc h.2.1 fun a ha => answered a (List.mem_of_mem_take ha),
        ih h.2.2 fun a ha => answered a (List.mem_of_mem_drop ha)⟩

theorem allKinds_ofText (base : Option String) (s : String) :
    (Document.ofText base s).content.AllKinds p :=
  @allKinds_consLeaf _ (fun _ _ _ _ => text _) (.text s) .nil (text s) trivial

end Forest

/-! ### Schemes -/

/-- The nodes that a scheme selects have what all nodes of the document have. -/
def Scheme.Keeps (includer : Includer) (p : NodeKind → Prop) (scheme : Scheme) : Prop :=
  ∀ bindings context result more matched, context.fixup.options = includer.options →
    context.document.content.AllKinds p →
      scheme.select bindings context = .ok ⟨true, some result, more, matched⟩ →
        result.content.AllKinds p

section

variable {includer : Includer} {p : NodeKind → Prop} (stable : includer.Stable p)

include stable

/-- A copy of what is within a selection. -/
theorem Copied.kept {d : Document} {fixup : FixupContext} {selected : List XPath.NodeRef}
    (options : fixup.options = includer.options) (h : d.content.AllKinds p) {kind : NodeKind}
    (copied : Copied d fixup selected kind) : p kind := by
  cases copied with
  | element _ found => exact Document.element_of_allKinds h found
  | fixedUp _ found =>
    obtain ⟨e, element, rfl⟩ := Option.map_eq_some_iff.mp found
    exact stable.apply _ _ _ options (Document.element_of_allKinds h element)
  | leaf _ found => exact Document.leaf_of_allKinds h found
  | text => exact stable.text _

theorem MarkupScheme.keeps_scheme (s : MarkupScheme) : s.scheme.Keeps includer p := by
  intro bindings context result more matched options h select
  have outcome := s.outcome_select bindings context
  rw [select] at outcome
  cases outcome with
  | found _ copied => exact copied.mono fun _ => Copied.kept stable options h

theorem TextRange.keeps_scheme (r : TextRange) : r.scheme.Keeps includer p := by
  intro bindings context result more matched _ _ select
  replace select : r.select context = .ok ⟨true, some result, more, matched⟩ := select
  rw [TextRange.select] at select
  obtain ⟨text, _, select⟩ := bind_eq_ok_iff.mp select
  obtain ⟨_, _, select⟩ := bind_eq_ok_iff.mp select
  split at select <;> cases select
  exact Forest.allKinds_ofText stable.text _ _

theorem Search.keeps_scheme (s : Search) : s.scheme.Keeps includer p := by
  intro bindings context result more matched _ _ select
  replace select : s.select context = .ok ⟨true, some result, more, matched⟩ := select
  rw [Search.select] at select
  obtain ⟨text, _, select⟩ := bind_eq_ok_iff.mp select
  obtain ⟨_, _, select⟩ := bind_eq_ok_iff.mp select
  split at select <;> cases select
  exact Forest.allKinds_ofText stable.text _ _

theorem SchemeRegistry.keeps_standard : standard.Gives (Scheme.Keeps includer p) :=
  gives_standard (fun b => (MarkupScheme.binding b).keeps_scheme stable)
    (fun pointer => (MarkupScheme.element pointer).keeps_scheme stable)
    (fun pointer => (MarkupScheme.expression pointer).keeps_scheme stable)
    (TextRange.keeps_scheme stable) (Search.keeps_scheme stable)

end

/-! ### Calls -/

namespace Includer

/-- What an expansion of the document `root` reads as markup has a property in all its nodes. -/
def ReadsKinds (includer : Includer) (p : NodeKind → Prop) (root : Document) : Prop :=
  ∀ site parseType s d, includer.Reached root (.resolution site parseType, s) → parseType ≠ .text →
    site.attributes.href ≠ "" → includer.resolver.readXml (request site) = .ok (.ok d) →
      d.content.AllKinds p

/-- An invariant of the nodes that the expansion of the document `root` has to do with. -/
structure Invariant (includer : Includer) (p : NodeKind → Prop) (root : Document) : Prop where
  stable : includer.Stable p
  schemes : includer.schemes.Gives (Scheme.Keeps includer p)
  plain : includer.resolver.PlainText
  reads : includer.ReadsKinds p root

section

variable {includer : Includer} {p : NodeKind → Prop} {root : Document}
  (invariant : includer.Invariant p root)

include invariant

/-- Fix-up keeps the invariant. -/
theorem Invariant.fixed {site : IncludeSite}
    (isInclude : includer.IsInclude site.document site.id site.element)
    (own : site.document.content.AllKinds p) {d : Document} (h : d.content.AllKinds p) :
    (includer.fixed site d).content.AllKinds p :=
  Forest.AllKinds.mapTop h fun e he => invariant.stable.topElement _ _ _ e rfl isInclude.2
    (Document.element_of_allKinds own isInclude.1) he

/-- Narrowing keeps the invariant. -/
theorem Invariant.selected {site : IncludeSite} {parseType : ParseType} {fragment : String}
    {schemes : List Scheme} {d result : Document} {around : Option AncestorSet} {matched : List Nat}
    (read : FragmentId.read includer.schemes parseType fragment = .ok schemes)
    (found : selectWith schemes ⟨d, includer.contextOf site⟩ around fragment
      = .ok (result, matched))
    (h : d.content.AllKinds p) : result.content.AllKinds p := by
  obtain ⟨scheme, hscheme, bindings, more, select, -⟩ := exists_scheme_of_selectFrom found
  exact FragmentId.forall_of_read invariant.schemes read scheme hscheme _ _ _ _ _ rfl h select

variable {depth : Nat} (inner : ∀ d id e s c s', includer.Reached root (.inclusion d id e, s) →
  d.content.AllKinds p → includer.handle depth d .inclusion id e s = .ok (.ok c, s') →
    c.content.AllKinds p)

include inner

/-- A walk keeps the invariant if the answers to the includes do. -/
theorem keeps_walked {call : Call} {d : Document} {first : Nat} {f : Forest} {s t : UriStack}
    {answers : List Document} (walked : call.walked? = some (d, first, f))
    (reached : includer.Reached root (call, s)) (own : d.content.AllKinds p) (h : f.AllKinds p)
    (answered : (f.encounters includer.controls first).mapM (includer.handle depth d).answer s
      = .ok (.ok answers, t)) : (f.fill includer.controls answers).AllKinds p := by
  refine h.fill invariant.stable.text _ ?_
  have balanced := fun x (_ : x ∈ f.encounters includer.controls first) =>
    includer.balanced_handle depth d x
  obtain ⟨-, each⟩ := (Expanding.mapM_eq_ok_iff balanced).mp answered
  refine forall_mem_right_of_forall₂ each fun ⟨control, id, e⟩ hx a answer => ?_
  cases control with
  | fallback =>
    cases depth with
    | zero => cases answer
    | succ depth => cases answer
  | inclusion =>
    exact inner d id e s a s (.tail reached (makes_of_answered walked each hx)) own answer

theorem keeps_expandAll {d c : Document} {s s' : UriStack}
    (reached : includer.Reached root (.walk d, s)) (h : d.content.AllKinds p)
    (expanded : includer.expandAll (includer.handle depth) d s = .ok (.ok c, s')) :
    c.content.AllKinds p := by
  rw [expandAll_eq] at expanded
  obtain ⟨answers, t, answered, last⟩ := Expanding.bind_apply_eq_ok_iff.mp expanded
  cases last
  exact keeps_walked invariant inner rfl reached h h answered

theorem keeps_fallback {site : IncludeSite} {id : Nat} {c : Document} {s s' : UriStack}
    (reached : includer.Reached root (.fallback site id, s))
    (own : site.document.content.AllKinds p)
    (expanded : includer.fallback (includer.handle depth) site id s = .ok (.ok c, s')) :
    c.content.AllKinds p := by
  rw [fallback_eq] at expanded
  obtain ⟨answers, t, answered, last⟩ := Expanding.bind_apply_eq_ok_iff.mp expanded
  cases last
  have content : (fallbackContent site id).AllKinds p := by
    rw [fallbackContent]
    cases found : site.document.subtree? id with
    | none => trivial
    | some t => exact Document.content_of_allKinds own found
  exact invariant.fixed (includer.placed_of_reached reached).1 own
    (keeps_walked invariant inner rfl reached own content answered)

theorem keeps_resource {site : IncludeSite} {parseType : ParseType} {fragment : Option String}
    {d : Document} {around : Option AncestorSet} {s t : UriStack}
    (reached : includer.Reached root (.resolution site parseType, s))
    (own : site.document.content.AllKinds p)
    (obtained : includer.resource (includer.handle depth) site parseType fragment s
      = .ok (.ok (d, around), t)) : d.content.AllKinds p := by
  have fixed := @Invariant.fixed _ _ _ invariant site (includer.placed_of_reached reached) own
  rw [resource] at obtained
  split at obtained
  · next isText =>
    subst isText
    obtain ⟨d', t', gained, same⟩ := Expanding.bind_apply_eq_ok_iff.mp obtained
    cases same
    rw [text] at gained
    obtain ⟨r, replied, gained⟩ := Expanding.ofReply_bind_eq_ok_iff.mp gained
    obtain ⟨base, written, rfl⟩ := invariant.plain _ _ replied
    have plain := Forest.allKinds_ofText invariant.stable.text base written
    split at gained
    · cases gained
      exact plain
    · next external =>
      exact keeps_expandAll invariant inner (.tail reached (.text external replied)) (fixed plain)
        gained
  split at obtained
  · -- A resource that is read as markup has the invariant, and is expanded from there.
    next notText external =>
    obtain ⟨d', t', gained, same⟩ := Expanding.bind_apply_eq_ok_iff.mp obtained
    cases same
    rw [markup] at gained
    obtain ⟨t, entered, gained⟩ := Expanding.enter_bind_eq_ok_iff.mp gained
    obtain ⟨r, replied, gained⟩ := Expanding.ofReply_bind_eq_ok_iff.mp gained
    obtain ⟨c, t', walked, last⟩ := Expanding.bind_apply_eq_ok_iff.mp gained
    cases last
    have read := invariant.reads _ _ _ _ reached notText external replied
    exact keeps_expandAll invariant inner
      (.tail reached (.markup notText external entered replied)) (fixed read) walked
  split at obtained
  · cases obtained
  · cases obtained
    exact own

theorem keeps_resolve {site : IncludeSite} {parseType : ParseType} {c : Document} {s s' : UriStack}
    (reached : includer.Reached root (.resolution site parseType, s))
    (own : site.document.content.AllKinds p)
    (resolved : includer.resolve (includer.handle depth) site parseType s = .ok (.ok c, s')) :
    c.content.AllKinds p := by
  unfold resolve at resolved
  obtain ⟨⟨d, around⟩, t, obtained, narrowed⟩ := Expanding.bind_apply_eq_ok_iff.mp resolved
  have resource := keeps_resource invariant inner reached own obtained
  dsimp only at narrowed
  cases identifier : site.attributes.fragment parseType with
  | none =>
    rw [identifier] at narrowed
    cases narrowed
    exact resource
  | some fragment =>
    rw [identifier] at narrowed obtained
    obtain ⟨schemes, read, narrowed⟩ := Expanding.lift_bind_eq_ok_iff.mp narrowed
    obtain ⟨⟨result, matched⟩, found, narrowed⟩ := Expanding.lift_bind_eq_ok_iff.mp narrowed
    replace read := mapError_eq_ok_iff.mp read
    have selected := invariant.selected read found resource
    exact keeps_expandAll invariant inner (.tail reached (.selected identifier obtained read found))
      (invariant.fixed (includer.placed_of_reached reached) own selected) narrowed

/-- Every call keeps the invariant if the answers to the includes inside it do. -/
theorem keeps_call {call : Call} {c : Document} {s s' : UriStack}
    (reached : includer.Reached root (call, s)) (own : call.document.content.AllKinds p)
    (carried : includer.carryOut depth call s = .ok (.ok c, s')) : c.content.AllKinds p := by
  cases call with
  | walk d => exact keeps_expandAll invariant inner reached own carried
  | fallback site id => exact keeps_fallback invariant inner reached own carried
  | resolution site parseType => exact keeps_resolve invariant inner reached own carried
  | inclusion d id e =>
    -- An include is replaced by what a resolution or a fallback gives, or by the text of that.
    obtain ⟨next, t, c', t', makes, carried', same⟩ := makes_of_include carried
    have replaced : c'.content.AllKinds p := by
      cases makes with
      | encounter walked => cases walked
      | attempt attributes child supported =>
        exact keeps_resolve invariant inner (.tail reached (.attempt attributes child supported))
          own carried'
      | forced attributes child unsupported =>
        exact keeps_fallback invariant inner
          (.tail reached (.forced attributes child unsupported)) own carried'
      | failed attributes child supported attempted =>
        exact keeps_fallback invariant inner
          (.tail reached (.failed attributes child supported attempted)) own carried'
    obtain rfl | rfl := same
    · exact replaced
    · exact Forest.allKinds_ofText invariant.stable.text _ _

omit inner

theorem keeps_handle (depth : Nat) (d : Document) (id : Nat) (e : Element) (s : UriStack)
    (c : Document) (s' : UriStack) (reached : includer.Reached root (.inclusion d id e, s))
    (own : d.content.AllKinds p)
    (replaced : includer.handle depth d .inclusion id e s = .ok (.ok c, s')) :
    c.content.AllKinds p := by
  induction depth generalizing d id e s c s' with
  | zero => cases replaced
  | succ depth ih => exact keeps_call invariant ih reached own replaced

/-- **Every call of an expansion keeps the invariant**: what it gives has it if the document has it
that the call works on. -/
theorem keeps_carryOut (depth : Nat) {call : Call} {c : Document} {s s' : UriStack}
    (reached : includer.Reached root (call, s)) (own : call.document.content.AllKinds p)
    (carried : includer.carryOut depth call s = .ok (.ok c, s')) : c.content.AllKinds p :=
  keeps_call invariant (keeps_handle invariant depth) reached own carried

end

end Includer

end Transclusion
