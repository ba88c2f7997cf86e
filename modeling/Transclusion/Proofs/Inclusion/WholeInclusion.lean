import Mathlib.Data.List.Forall2
import Mathlib.Data.List.Perm.Subperm
import Transclusion.Proofs.Fixup.TopElements
import Transclusion.Proofs.Inclusion.StackDiscipline
import Transclusion.Proofs.Inclusion.Web
/-!
# Inclusion of whole documents

Where every include is one of a whole resource and nothing is fixed up, expansion is recursive
substitution: each include is replaced by the content of the document that it refers to, with the
includes of that document replaced in the same way (`Substituted`).  There is such a substitution
if and only if all that links lead to can be read and no link leads back, and these are the cases
in which expansion succeeds.

* `Web.settles_expandAll`: on every page the expansion either gives the substitution, everything
  that links lead to from there being readable, free of cycles and not on the stack, or meets an
  obstacle: a cycle or a resource that cannot be read.
* `Includer.expandWithin_whole`: what this says of the main document.

The proof is by induction on the depth.  As no URI is twice on the stack, a depth greater than the
number of resources is never used up.
-/

namespace Transclusion

/-! ### Recursive substitution -/

/-- The forest with content in the place of each control element. -/
def Forest.substitute (controls : ControlRegistry) (content : Element → Forest) : Forest → Forest
  | nil => nil
  | leaf l rest => consLeaf l (rest.substitute controls content)
  | element e inside rest =>
    if (controls.get? e.name).isSome then (content e).append (rest.substitute controls content)
    else element e (inside.substitute controls content) (rest.substitute controls content)

/-- Each include of a document has been replaced by the content of the document that it refers to,
in which each include has been replaced in the same way. -/
inductive Substituted (resources : Table String String) : Document → Document → Prop
  | intro {d : Document} {page result : String → Document}
      (held : ∀ uri, d.RefersTo uri → Resolver.Holds resources uri (page uri))
      (inner : ∀ uri, d.RefersTo uri → Substituted resources (page uri) (result uri)) :
      Substituted resources d
        ⟨d.base, d.content.substitute .standard fun e => (result e.target).content⟩

/-- A substitution fills in the same content wherever the same is included. -/
theorem Forest.substitute_eq_fill (controls : ControlRegistry) (answer : Element → Document)
    (first : Nat) (f : Forest) :
    f.substitute controls (fun e => (answer e).content)
      = f.fill controls ((f.encounters controls first).map fun x => answer x.element) := by
  induction f generalizing first with
  | nil => rfl
  | leaf l rest ih =>
    rw [substitute, fill, encounters, ih]
  | element e content rest ihc ihr =>
    cases h : controls.get? e.name with
    | some control =>
      simp only [substitute, fill, encounters, h, Option.isSome_some, if_true, List.map_cons,
        List.head?_cons, Option.map_some, Option.getD_some, List.tail_cons]
      rw [ihr]
    | none =>
      have count := length_encounters controls 0 (first + 1) content
      simp only [substitute, fill, encounters, h, Option.isSome_none, Bool.false_eq_true, if_false,
        List.map_append, count]
      rw [ihc (first + 1), ihr (first + content.size + 1),
        List.take_left' (by rw [List.length_map]), List.drop_left' (by rw [List.length_map])]

section

variable {resources : Table String String}
  (plain : ∀ uri d, Resolver.Holds resources uri d → d.content.WholeIncludesOnly .standard)

/-- The content that includes are replaced by matters only for the includes that there are. -/
theorem Document.substitute_congr {d : Document} (h : d.content.WholeIncludesOnly .standard)
    {result result' : String → Document} (same : ∀ uri, d.RefersTo uri → result uri = result' uri) :
    d.content.substitute .standard (fun e => (result e.target).content)
      = d.content.substitute .standard fun e => (result' e.target).content := by
  rw [Forest.substitute_eq_fill .standard (fun e => result e.target) 1,
    Forest.substitute_eq_fill .standard (fun e => result' e.target) 1]
  congr 1
  refine List.map_congr_left fun x hx => ?_
  exact same _ ((Document.refersTo_iff h).mpr ⟨x, hx, rfl⟩)

include plain

/-- A document has one recursive substitution at most. -/
theorem Substituted.unique {d e e' : Document} (hd : d.content.WholeIncludesOnly .standard)
    (h : Substituted resources d e) (h' : Substituted resources d e') : e = e' := by
  induction h generalizing e' with
  | @intro d page result held inner ih =>
    cases h' with
    | @intro _ page' result' held' inner' =>
      have same : ∀ uri, d.RefersTo uri → result uri = result' uri := by
        intro uri refers
        have page_eq := (held uri refers).unique (held' uri refers)
        refine ih uri refers (plain uri _ (held uri refers)) ?_
        rw [page_eq]
        exact inner' uri refers
      rw [Document.substitute_congr hd same]

/-- The substitution put together from the answers to the includes. -/
theorem substituted_of_answers {d : Document} (hd : d.content.WholeIncludesOnly .standard)
    {answers : List Document}
    (h : List.Forall₂ (fun x e => ∃ r, Resolver.Holds resources x.element.target r
      ∧ Substituted resources r e) (d.content.encounters .standard 1) answers) :
    Substituted resources d ⟨d.base, d.content.fill .standard answers⟩ := by
  have each : ∀ uri, d.RefersTo uri →
      ∃ r e, Resolver.Holds resources uri r ∧ Substituted resources r e := by
    intro uri refers
    obtain ⟨x, hx, rfl⟩ := (Document.refersTo_iff hd).mp refers
    obtain ⟨i, hi, rfl⟩ := List.getElem_of_mem hx
    obtain ⟨r, held, substituted⟩ := h.get hi (h.length_eq ▸ hi)
    exact ⟨r, _, held, substituted⟩
  choose! page result held inner using each
  have filled : (d.content.encounters .standard 1).map (fun x => result x.element.target)
      = answers := by
    have listed := (List.forall₂_and_left _ _).mpr ⟨fun x hx => hx, h⟩
    rw [← List.forall₂_eq_eq_eq, List.forall₂_map_left_iff]
    refine listed.imp fun x e ⟨hx, r, held', substituted⟩ => ?_
    have refers := (Document.refersTo_iff hd).mpr ⟨x, hx, rfl⟩
    have page_eq := (held _ refers).unique held'
    exact (page_eq ▸ inner _ refers).unique plain (plain _ _ held') substituted
  rw [← filled, ← Forest.substitute_eq_fill .standard fun e => result e.target]
  exact .intro held inner

end

/-! ### An include of a whole resource -/

namespace Includer

variable {includer : Includer} {handle : Document → ControlHandler Expanding}

/-- Nothing is inside of a node that is alone in its subtree. -/
theorem fallbackChild?_of_extent {ns : NodeList} {id : Nat} (h : ns.extent id = 1) :
    includer.fallbackChild? ns id = .ok none := by
  have childless : ns.elementChildren id = [] := by
    simp [NodeList.elementChildren, NodeList.children, h]
  rw [fallbackChild?, childless]
  rfl

/-- An include of a whole resource stands for the document that its target is read as. -/
theorem include_whole (off : includer.options.Unchanging) {d : Document} {id : Nat} {e : Element}
    (element : d.nodes.element? id = some e) (whole : e.IncludesWhole)
    (childless : d.nodes.extent id = 1) :
    ∃ r : Request, r.target = e.target ∧ includer.include_ handle d id e = (do
      Expanding.enter r.target
      let expanded ← Expanding.ofReply (includer.resolver.readXml r) >>= includer.expandAll handle
      modify (·.leave)
      return expanded) := by
  obtain ⟨a, attributes, external, isXml, noXpointer, noFragid⟩ := whole
  refine ⟨request ⟨d, id, e, a⟩, target_request element attributes, ?_⟩
  have noFragment : a.fragment .xml = none := by
    rw [IncludeAttributes.fragment, IncludeAttributes.writtenFragment, noXpointer, noFragid]
    rfl
  have replaced : includer.include_ handle d id e
      = includer.replacement handle ⟨d, id, e, a⟩ none := by
    funext s
    rw [include_, Expanding.bind_apply, attributes, Expanding.lift_apply]
    dsimp only
    rw [Expanding.bind_apply, fallbackChild?_of_extent childless, Expanding.lift_apply]
  -- Nothing can be caught without a fallback, and markup is not trimmed.
  have resolved : includer.replacement handle ⟨d, id, e, a⟩ none
      = includer.resolve handle ⟨d, id, e, a⟩ .xml := by
    funext s
    simp only [replacement, isXml, reduceCtorEq, if_false, Expanding.tryCatch_throw]
    rw [Expanding.bind_apply, Expanding.get_apply]
    simp
  have read : includer.resolve handle ⟨d, id, e, a⟩ .xml
      = includer.markup handle ⟨d, id, e, a⟩ := by
    simp [resolve, resource, external, noFragment]
  rw [replaced, resolved, read, markup]
  simp only [fixed_of_unchanging off, bind_assoc]

end Includer

/-! ### What becomes of a page -/

namespace Web

variable {w : Web}

/-- What keeps an expansion from success: a cycle, or a resource that cannot be read. -/
inductive Obstacle (w : Web) : InclusionError → Prop
  | loop {uri : String} (cyclic : w.Cyclic) : Obstacle w (.loop (.document uri))
  | unreadable {uri : String} {fault : ReadFault} (reached : w.Reaches uri) (other : uri ≠ w.uri)
      (missing : ¬ w.Readable uri) : Obstacle w (.unreadable uri fault)

/-- A computation succeeds with a good result and leaves the stack as it was, or it meets an
obstacle. -/
def Settles (w : Web) {α : Type} (x : Expanding α) (s : UriStack) (good : α → Prop) : Prop :=
  (∃ a, x s = .ok (.ok a, s) ∧ good a) ∨ ∃ e s', x s = .ok (.error e, s') ∧ w.Obstacle e

section

variable {α β : Type} {s : UriStack}

theorem settles_pure {good : α → Prop} {a : α} (h : good a) : w.Settles (pure a) s good :=
  .inl ⟨a, rfl, h⟩

theorem Settles.bind {x : Expanding β} {f : β → Expanding α} {good : β → Prop} {good' : α → Prop}
    (hx : w.Settles x s good) (hf : ∀ b, good b → w.Settles (f b) s good') :
    w.Settles (x >>= f) s good' := by
  obtain ⟨b, hb, hgood⟩ | ⟨e, s', he, obstacle⟩ := hx
  · rw [Settles, Expanding.bind_apply, hb]
    exact hf b hgood
  · exact .inr ⟨e, s', by rw [Expanding.bind_apply, he], obstacle⟩

theorem settles_mapM {f : β → Expanding α} {good : β → α → Prop} {xs : List β}
    (h : ∀ x ∈ xs, w.Settles (f x) s (good x)) :
    w.Settles (xs.mapM f) s fun as => List.Forall₂ good xs as := by
  induction xs with
  | nil => exact settles_pure .nil
  | cons x xs ih =>
    rw [List.mapM_cons]
    refine (h x List.mem_cons_self).bind fun a ha => ?_
    refine (ih fun y hy => h y (List.mem_cons_of_mem x hy)).bind fun as has => ?_
    exact settles_pure (.cons ha has)

/-- A URI cannot be entered twice. -/
theorem settles_loop {uri : String} {x : Expanding α} {good : α → Prop} (known : uri ∈ s.uris)
    (cyclic : w.Cyclic) : w.Settles (do Expanding.enter uri; x) s good := by
  have refused : s.enter uri = .error (.loop (.document uri)) := by
    simp [UriStack.enter, UriStack.contains, known]
  exact .inr ⟨_, s, by rw [Expanding.bind_apply, Expanding.enter_apply, refused], .loop cyclic⟩

/-- A computation with a new URI on the stack. -/
theorem Settles.entered {uri : String} {x : Expanding α} {good : α → Prop}
    (hnew : uri ∉ s.uris) (hx : w.Settles x ⟨uri :: s.uris⟩ good) :
    w.Settles (do Expanding.enter uri; let a ← x; modify (·.leave); return a) s good := by
  have entered := UriStack.enter_eq_ok_iff.mpr ⟨hnew, rfl⟩
  rw [Settles, Expanding.bind_apply, Expanding.enter_apply, entered]
  dsimp only
  rw [Expanding.bind_apply]
  obtain ⟨a, settled, hgood⟩ | ⟨e, s', failed, obstacle⟩ := hx
  · rw [settled]
    exact .inl ⟨a, rfl, hgood⟩
  · rw [failed]
    exact .inr ⟨e, s', rfl, obstacle⟩

end

/-- All that links lead to from a URI can be read, is not on the stack, and is on no cycle. -/
def Clear (w : Web) (uri : String) (s : UriStack) : Prop :=
  ∀ target, Relation.TransGen w.Link uri target →
    target ∉ s.uris ∧ w.Readable target ∧ ¬ Relation.TransGen w.Link target target

/-- What is known of the document that replaces an include of `target`. -/
def Replaces (w : Web) (target : String) (s : UriStack) (e : Document) : Prop :=
  (∃ r, Resolver.Holds w.resources target r ∧ Substituted w.resources r e)
    ∧ target ∉ s.uris ∧ w.Readable target ∧ w.Clear target ⟨target :: s.uris⟩

/-- An expansion has come to the page with this URI: the stack holds URIs from which links lead
there, the main one among them, and no others than of resources. -/
structure At (w : Web) (uri : String) (d : Document) (s : UriStack) : Prop where
  page : w.Page uri d
  start : w.uri ∈ s.uris
  leads : ∀ u ∈ s.uris, Relation.ReflTransGen w.Link u uri
  nodup : s.uris.Nodup
  known : ∀ u ∈ s.uris, u ∈ w.uri :: Keyed.identities w.resources.entries

theorem mem_identities_of_holds {resources : Table String String} {uri : String} {d : Document}
    (h : Resolver.Holds resources uri d) : uri ∈ Keyed.identities resources.entries := by
  obtain ⟨content, found, -⟩ := h
  obtain ⟨entry, hentry, -⟩ := Option.map_eq_some_iff.mp found
  have same := List.find?_some hentry
  rw [decide_eq_true_iff] at same
  exact List.mem_map.mpr ⟨entry, List.mem_of_find?_eq_some hentry, same⟩

namespace At

variable {uri : String} {d : Document} {s : UriStack} (h : w.At uri d s)

include h

theorem size_le : s.size ≤ w.resources.size + 1 := by
  have hle := (List.subperm_of_subset h.nodup h.known).length_le
  rw [List.length_cons, Keyed.identities, List.length_map] at hle
  exact hle

theorem reaches {target : String} (refers : d.RefersTo target) : w.Reaches target :=
  Relation.TransGen.tail' (h.leads _ h.start) ⟨d, h.page, refers⟩

/-- A URI on the stack that the page refers to is on a cycle. -/
theorem cyclic {target : String} (refers : d.RefersTo target) (hmem : target ∈ s.uris) :
    w.Cyclic :=
  ⟨uri, h.leads _ h.start, Relation.TransGen.head' ⟨d, h.page, refers⟩ (h.leads target hmem)⟩

/-- Where an expansion comes to when it follows a link. -/
theorem follow {target : String} {r : Document} (refers : d.RefersTo target)
    (hnew : target ∉ s.uris) (held : Resolver.Holds w.resources target r) :
    w.At target r ⟨target :: s.uris⟩ where
  page := by
    have other : target ≠ w.uri := fun same => hnew (same ▸ h.start)
    rw [Page, if_neg other]
    exact held
  start := List.mem_cons_of_mem _ h.start
  leads := by
    intro u hu
    obtain rfl | hu := List.mem_cons.mp hu
    · exact .refl
    · exact (h.leads u hu).tail ⟨d, h.page, refers⟩
  nodup := List.nodup_cons.mpr ⟨hnew, h.nodup⟩
  known := by
    intro u hu
    obtain rfl | hu := List.mem_cons.mp hu
    · exact List.mem_cons_of_mem _ (mem_identities_of_holds held)
    · exact h.known u hu

/-- A page is clear if all that it refers to is, with that on the stack. -/
theorem clear (each : ∀ target, d.RefersTo target →
      target ∉ s.uris ∧ w.Readable target ∧ w.Clear target ⟨target :: s.uris⟩) :
    w.Clear uri s := by
  intro target reached
  obtain ⟨next, ⟨d', page, refers⟩, later⟩ := Relation.TransGen.head'_iff.mp reached
  cases page.unique h.page
  obtain ⟨hnew, readable, clear⟩ := each next refers
  obtain rfl | further := Relation.reflTransGen_iff_eq_or_transGen.mp later
  · exact ⟨hnew, readable, fun cycle => (clear _ cycle).1 List.mem_cons_self⟩
  · obtain ⟨hnew', readable', acyclic⟩ := clear target further
    exact ⟨fun hmem => hnew' (List.mem_cons_of_mem next hmem), readable', acyclic⟩

end At

section

variable {options : Options} (off : options.Unchanging) (schemes : SchemeRegistry)

/-- Expands the documents of a web. -/
def includer (w : Web) (options : Options) (schemes : SchemeRegistry) : Includer :=
  ⟨options, schemes, .standard, .memory w.resources⟩

/-- A resource that links lead to is read. -/
theorem settles_read (s : UriStack) {r : Request} (reached : w.Reaches r.target)
    (other : r.target ≠ w.uri) :
    w.Settles (Expanding.ofReply (.ok (Resolver.memoryXml w.resources r))) s
      fun d => Resolver.Holds w.resources r.target d := by
  cases read : Resolver.memoryXml w.resources r with
  | ok d => exact .inl ⟨d, rfl, Resolver.memoryXml_eq_ok_iff.mp read⟩
  | error e =>
    have missing : ¬ w.Readable r.target := by
      rintro ⟨d, held⟩
      rw [Resolver.memoryXml_eq_ok_iff.mpr held] at read
      cases read
    obtain ⟨fault, rfl⟩ := Resolver.unreadable_of_memoryXml read
    exact .inr ⟨_, s, rfl, .unreadable reached other missing⟩

include off

/-- What becomes of an include, given what becomes of the page that it leads to. -/
theorem At.settles_include {handle : Document → ControlHandler Expanding} {uri : String}
    {d : Document} {s : UriStack} (h : w.At uri d s)
    (hd : d.content.WholeIncludesOnly .standard) {x : Encounter}
    (hx : x ∈ d.content.encounters .standard 1)
    (page : ∀ r, w.At x.element.target r ⟨x.element.target :: s.uris⟩ →
      Resolver.Holds w.resources x.element.target r →
      w.Settles ((w.includer options schemes).expandAll handle r) ⟨x.element.target :: s.uris⟩
        fun e => Substituted w.resources r e
          ∧ w.Clear x.element.target ⟨x.element.target :: s.uris⟩) :
    w.Settles ((w.includer options schemes).include_ handle d x.id x.element) s
      (w.Replaces x.element.target s) := by
  obtain ⟨-, element, whole, childless⟩ := Document.whole_of_encounter hd hx
  have refers := (Document.refersTo_iff hd).mpr ⟨x, hx, rfl⟩
  obtain ⟨r, target, included⟩ :=
    @Includer.include_whole (w.includer options schemes) handle off _ _ _ element whole childless
  rw [included]
  rw [← target] at refers page ⊢
  -- A target on the stack closes a cycle of links, since every page there leads to this one.
  by_cases known : r.target ∈ s.uris
  · exact settles_loop known (h.cyclic refers known)
  have other : r.target ≠ w.uri := fun same => known (same ▸ h.start)
  refine Settles.entered known ((settles_read _ (h.reaches refers) other).bind fun d' held => ?_)
  obtain ⟨e, settled, substituted, clear⟩ | obstacle := page d' (h.follow refers known held) held
  · exact .inl ⟨e, settled, ⟨d', held, substituted⟩, known, ⟨d', held⟩, clear⟩
  · exact .inr obstacle

variable (plain : ∀ uri d, Resolver.Holds w.resources uri d → d.content.WholeIncludesOnly .standard)

include plain

/-- **What becomes of a page**, at a depth that is greater than the number of the resources that are
not on the stack. -/
theorem settles_expandAll {depth : Nat} {uri : String} {d : Document} {s : UriStack}
    (h : w.At uri d s) (hd : d.content.WholeIncludesOnly .standard)
    (deep : w.resources.size + 2 ≤ depth + s.size) :
    w.Settles ((w.includer options schemes).expandAll ((w.includer options schemes).handle depth) d)
      s fun e => Substituted w.resources d e ∧ w.Clear uri s := by
  -- On the depth: it goes down by one for each page, and the stack grows by one.
  induction depth generalizing uri d s with
  | zero =>
    have hle := h.size_le
    omega
  | succ depth ih =>
    have answers : ∀ x ∈ d.content.encounters .standard 1,
        w.Settles (((w.includer options schemes).handle (depth + 1) d).answer x) s
          (w.Replaces x.element.target s) := by
      intro x hx
      have isInclusion := (Document.whole_of_encounter hd hx).1
      obtain ⟨control, id, e⟩ := x
      cases isInclusion
      refine h.settles_include off schemes hd hx fun r there held => ?_
      refine ih there (plain _ r held) ?_
      simp only [UriStack.size, List.length_cons] at deep ⊢
      omega
    rw [Includer.expandAll_eq]
    refine (settles_mapM answers).bind fun answers settled => settles_pure ⟨?_, ?_⟩
    · refine substituted_of_answers plain hd ?_
      exact settled.imp fun _ _ good => good.1
    · refine h.clear fun target refers => ?_
      obtain ⟨x, hx, rfl⟩ := (Document.refersTo_iff hd).mp refers
      obtain ⟨i, hi, rfl⟩ := List.getElem_of_mem hx
      exact (settled.get hi (settled.length_eq ▸ hi)).2

end

/-! ### The main document -/

/-- An expansion begins at the main document. -/
theorem at_main (w : Web) : w.At w.uri w.main ⟨[w.uri]⟩ where
  page := by rw [Page, if_pos rfl]
  start := List.mem_singleton_self _
  leads := by
    intro u hu
    rw [List.mem_singleton.mp hu]
  nodup := List.pairwise_singleton _ _
  known := by
    intro u hu
    rw [List.mem_singleton.mp hu]
    exact List.mem_cons_self

theorem Clear.not_cyclic (h : w.Clear w.uri ⟨[w.uri]⟩) : ¬ w.Cyclic := by
  rintro ⟨uri, there, cycle⟩
  obtain rfl | reached := Relation.reflTransGen_iff_eq_or_transGen.mp there
  · exact (h _ cycle).1 (List.mem_singleton_self _)
  · exact (h _ reached).2.2 cycle

end Web

namespace Includer

/-- The expansion of a document with a base URI starts with that URI on the stack. -/
theorem expandWithin_of_base (includer : Includer) (depth : Nat) {d : Document} {base : String}
    (h : d.base = some base) :
    includer.expandWithin depth d
      = (includer.expandAll (includer.handle depth) d ⟨[Uri.resolve none base]⟩).map (·.1) := by
  have initial : initialStack d = ⟨[Uri.resolve none base]⟩ := by
    rw [initialStack, h]
    rfl
  rw [expandWithin_eq, initial]
  rfl

/-! ### A diamond -/

namespace Diamond

/-- An include of `href` in a document with the base URI `base`. -/
def includeOf (base href : String) : Element :=
  ⟨.prefixed "xi" xincludeNamespace "include", .ofList [(.plain "href", href)],
    .ofList [("xi", xincludeNamespace)], some base⟩

/-- A page that leads to `b` and `c`. -/
def main : Document :=
  ⟨some "http://h/a", .element (.ofName (.plain "a"))
    (.element (includeOf "http://h/a" "b") .nil
      (.element (includeOf "http://h/a" "c") .nil .nil)) .nil⟩

/-- A page that leads to `d` and holds nothing else. -/
def middle (base : String) : Document := ⟨some base, .element (includeOf base "d") .nil .nil⟩

/-- The element of the page `d`. -/
def last : Element := ⟨.inNamespace none "d", .empty, .empty, some "http://h/d"⟩

def written : String := "<xi:include xmlns:xi='http://www.w3.org/2001/XInclude' href='d'/>"

/-- Both `b` and `c` lead to `d`. -/
def resources : Table String String :=
  .ofList [("http://h/b", written), ("http://h/c", written), ("http://h/d", "<d/>")]

def result : Document :=
  ⟨some "http://h/a",
    .element (.ofName (.plain "a")) (.element last .nil (.element last .nil .nil)) .nil⟩

def reader : Includer := ⟨⟨false, false, false, false⟩, .standard, .standard, .memory resources⟩

theorem whole_includeOf (base : String) {href : String}
    (h : String.ofList (Text.trim href.toList) ≠ "") : (includeOf base href).IncludesWhole := by
  have isXml : ParseType.ofMediaType "xml" = .xml := by decide
  exact ⟨_, rfl, h, isXml, rfl, rfl⟩

theorem whole_main : main.content.WholeIncludesOnly .standard :=
  ⟨⟨⟨whole_includeOf _ (by decide), rfl⟩,
    ⟨whole_includeOf _ (by decide), rfl⟩, trivial⟩, trivial⟩

theorem whole_middle (base : String) : (middle base).content.WholeIncludesOnly .standard :=
  ⟨⟨whole_includeOf base (by decide), rfl⟩, trivial⟩

theorem whole_of_holds (uri : String) (d : Document) (h : Resolver.Holds resources uri d) :
    d.content.WholeIncludesOnly .standard := by
  obtain ⟨content, found, read⟩ := h
  have built : resources = ((Table.empty.insert "http://h/b" written).insert "http://h/c"
      written).insert "http://h/d" "<d/>" := rfl
  rw [built, Table.get?_insert, Table.get?_insert, Table.get?_insert, Table.get?_empty] at found
  have named : ∀ a b : String, Keyed.identity a = Keyed.identity b ↔ a = b := fun _ _ => Iff.rfl
  simp only [named] at found
  split at found
  · next same =>
    cases found
    subst same
    have page : Document.read (some "http://h/d") "<d/>"
        = .ok ⟨some "http://h/d", .element last .nil .nil⟩ := eq_ok_of_toOption (by decide +kernel)
    cases page.symm.trans read
    exact ⟨trivial, trivial⟩
  split at found
  · next same =>
    cases found
    subst same
    have page : Document.read (some "http://h/c") written = .ok (middle "http://h/c") :=
      eq_ok_of_toOption (by decide +kernel)
    cases page.symm.trans read
    exact whole_middle _
  split at found
  · next same =>
    cases found
    subst same
    have page : Document.read (some "http://h/b") written = .ok (middle "http://h/b") :=
      eq_ok_of_toOption (by decide +kernel)
    cases page.symm.trans read
    exact whole_middle _
  · cases found

theorem expandWithin_main : reader.expandWithin 4 main = .ok (.ok result) := by
  have outcome : (reader.expandWithin 4 main).toOption.bind (·.toOption) = some result := by
    decide +kernel
  obtain ⟨reply, replied, succeeded⟩ := Option.bind_eq_some_iff.mp outcome
  rw [eq_ok_of_toOption replied, eq_ok_of_toOption succeeded]

end Diamond

/-- **Inclusion of whole documents is recursive substitution**, and what is reported as a loop is
one.  All fix-ups being off, and every include in the main document and in the resources that can be
read being one of a whole resource, expansion succeeds if and only if all that links lead to can be
read and links lead into no cycle; the result is then the one recursive substitution that there is.
If links lead into a cycle and all that they lead to can be read, apart from the main document, then
a loop is reported. -/
theorem expandWithin_whole {options : Options} (off : options.Unchanging)
    (schemes : SchemeRegistry) (resources : Table String String) {main : Document} {base : String}
    (hbase : main.base = some base) (hmain : main.content.WholeIncludesOnly .standard)
    (plain : ∀ uri d, Resolver.Holds resources uri d → d.content.WholeIncludesOnly .standard)
    {depth : Nat} (deep : resources.size < depth) :
    let w : Web := ⟨Uri.resolve none base, main, resources⟩
    let outcome := Includer.expandWithin ⟨options, schemes, .standard, .memory resources⟩ depth main
    ((∃ e, outcome = .ok (.ok e)) ↔ (∀ uri, w.Reaches uri → w.Readable uri) ∧ ¬ w.Cyclic)
      ∧ (∀ e, outcome = .ok (.ok e) → ∀ e', Substituted resources main e' ↔ e' = e)
      ∧ ((∀ uri, w.Reaches uri → uri ≠ w.uri → w.Readable uri) → w.Cyclic →
          ∃ uri, outcome = .ok (.error (.loop (.document uri)))) := by
  intro w outcome
  have bound : w.resources.size + 2 ≤ depth + (⟨[w.uri]⟩ : UriStack).size := by
    show resources.size + 2 ≤ depth + 1
    omega
  have settled := Web.settles_expandAll off schemes plain w.at_main hmain bound
  have outcome_eq := (w.includer options schemes).expandWithin_of_base depth hbase
  -- An expansion of this depth ends with the substitution, or at an obstacle that links lead to.
  obtain ⟨e, succeeded, substituted, clear⟩ | ⟨e, s', failed, obstacle⟩ := settled
  · have isOk : outcome = .ok (.ok e) := by
      refine outcome_eq.trans ?_
      rw [succeeded]
      rfl
    rw [isOk]
    have acyclic := clear.not_cyclic
    refine ⟨⟨?_, ?_⟩, ?_, ?_⟩
    · intro _
      exact ⟨fun uri reached => (clear uri reached).2.1, acyclic⟩
    · intro _
      exact ⟨e, rfl⟩
    · rintro _ ⟨⟩ e'
      exact ⟨fun h => h.unique plain hmain substituted, fun same => same ▸ substituted⟩
    · intro _ cyclic
      exact absurd cyclic acyclic
  · have isError : outcome = .ok (.error e) := by
      refine outcome_eq.trans ?_
      rw [failed]
      rfl
    rw [isError]
    refine ⟨⟨?_, ?_⟩, ?_, ?_⟩
    · rintro ⟨_, ⟨⟩⟩
    · rintro ⟨readable, acyclic⟩
      cases obstacle with
      | loop cyclic => exact absurd cyclic acyclic
      | unreadable reached other missing => exact absurd (readable _ reached) missing
    · rintro _ ⟨⟩
    · intro readable _
      cases obstacle with
      | loop cyclic => exact ⟨_, rfl⟩
      | unreadable reached other missing => exact absurd (readable _ reached other) missing

open Diamond in
/-- Two pages that lead to one and the same page are no loop. -/
theorem expandWithin_whole_diamond :
    reader.expandWithin 4 main = .ok (.ok result) ∧ Substituted resources main result
      ∧ ¬ (⟨"http://h/a", main, resources⟩ : Web).Cyclic := by
  have off : reader.options.Unchanging := ⟨rfl, rfl, rfl⟩
  have uri : Uri.resolve none "http://h/a" = "http://h/a" := by decide +kernel
  obtain ⟨succeeds, substituted, -⟩ := expandWithin_whole off .standard resources rfl whole_main
    whole_of_holds (show resources.size < 4 by decide)
  rw [uri] at succeeds
  exact ⟨expandWithin_main, (substituted _ expandWithin_main _).mpr rfl,
    (succeeds.mp ⟨_, expandWithin_main⟩).2⟩

end Includer

end Transclusion
