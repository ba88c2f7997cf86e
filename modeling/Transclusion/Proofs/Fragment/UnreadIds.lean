import Transclusion.Proofs.Fragment.FallThrough
import Transclusion.Proofs.Fragment.LoopCheck
import Transclusion.Proofs.Markup.Numbering
import Transclusion.Proofs.Markup.Retopped
import Transclusion.Proofs.XPath.UnreadIds
/-!
# Schemes that do not look at the `xml:id`s at the top

When a resource is included under another `xml:id`, the elements at its top are given that id
before anything is selected.  A scheme ignores this (`Scheme.IgnoresTopIds`) if it binds a prefix,
if it points to an element without regard to such ids, or if its expression overlooks them.  Of the
schemes of a fragment identifier only those count that are asked (`Scheme.AllIgnoreTopIds`).

* `selectFrom_agree`: schemes that ignore the ids at the top select the same from both documents,
  but for the `xml:id`s of the elements that they select, or fail with the same error.
-/

namespace Transclusion

/-! ### Elements under another `xml:id` -/

namespace Element

/-- The elements are equal but for the `xml:id`. -/
def SameButId (e e' : Element) : Prop := e'.withoutId = e.withoutId

/-- The element is the same, or it has been given the `xml:id` `id`, where it had one of `ids` or
none. -/
def Renamed (ids : List String) (id : String) (e e' : Element) : Prop :=
  e' = e ∨ e.SameButId e' ∧ e'.id? = some id ∧ ∀ own, e.id? = some own → own ∈ ids

variable {ids : List String} {id : String} {e e' : Element}

theorem SameButId.refl (e : Element) : e.SameButId e := rfl

theorem Renamed.sameButId (h : Renamed ids id e e') : e.SameButId e' := by
  rcases h with rfl | ⟨same, -⟩
  · exact .refl _
  · exact same

theorem SameButId.name (h : e.SameButId e') : e'.name = e.name := name_of_withoutId h

theorem SameButId.apply (h : e.SameButId e') (context : FixupContext) (lang : Option String) :
    (context.apply lang e).SameButId (context.apply lang e') := by
  rw [SameButId, context.withoutId_apply, context.withoutId_apply]
  exact congrArg (context.apply lang) h

theorem SameButId.base (h : e.SameButId e') : e'.base = e.base :=
  show e'.withoutId.base = e.withoutId.base from congrArg Element.base h

end Element

/-! ### Nodes and their subtrees -/

namespace Document

variable {d d' : Document} {i : Nat}

theorem kind?_eq_map (d : Document) (i : Nat) :
    d.nodes.kind? i = (d.subtree? i).map Subtree.kind := by
  rw [NodeList.kind?, nodes_getElem?]
  cases found : d.subtree? i with
  | none =>
    rw [List.getElem?_eq_none (by rw [length_nodeList]; exact subtree?_eq_none_iff.mp found)]
    rfl
  | some t =>
    obtain ⟨q, node⟩ := nodeList_getElem? found
    rw [node]
    rfl

/-- Subtrees that are the same are those of the same element. -/
theorem element?_eq_of_subtree? (same : d'.subtree? i = d.subtree? i) :
    d'.nodes.element? i = d.nodes.element? i := by
  rw [NodeList.element?, NodeList.element?, kind?_eq_map, kind?_eq_map, same]

/-- A node that is no element. -/
theorem element?_eq_none {t : Subtree} (h : d.subtree? i = some t)
    (other : ∀ e, t.kind ≠ .element e) : d.nodes.element? i = none := by
  rw [NodeList.element?, kind?_eq_map, h]
  cases t with
  | element e content => exact absurd rfl (other e)
  | _ => rfl

/-- The `xml:id`s of the elements at the top, which are `ids`, or `id`. -/
def hiddenAtTop (d : Document) (ids : List String) (id : String) : HiddenIds :=
  ⟨fun i => d.nodes.parent? i = some 0, id :: ids⟩

end Document

theorem Forest.Retopped.names_eq {may : Element → Element → Prop} {f f' : Forest}
    (h : Forest.Retopped may f f') (named : ∀ e e', may e e' → e'.name = e.name) :
    f'.names = f.names := by
  induction h with
  | nil => rfl
  | leaf _ ih => exact ih
  | element here _ ih => rw [names_element, names_element, named _ _ here, ih]

/-! ### Schemes -/

open XPath (NodeRef SameRef)

/-- A scheme that is asked under the bindings does not look at the `xml:id`s of the elements at the
top, whether they are `ids` or `id`. -/
inductive Scheme.IgnoresTopIds (ids : List String) (id : String) (d : Document)
    (bindings : List (String × String)) : Scheme → Prop where
  | binding (b : NamespaceBinding) : IgnoresTopIds ids id d bindings b.scheme
  | element (p : ElementPointer) (other : ∀ x ∈ p.id, x ∉ id :: ids) :
      IgnoresTopIds ids id d bindings p.scheme
  | expression (p : ExpressionPointer)
      (overlooks : ∀ e, XPath.Expr.read p.source = .ok e →
        e.Overlooks ⟨d.nodes, .ofList bindings⟩ (d.hiddenAtTop ids id) ⟨.node 0, 1, 1⟩) :
      IgnoresTopIds ids id d bindings p.scheme

/-- The same of each scheme that is asked, from these bindings on. -/
def Scheme.AllIgnoreTopIds (ids : List String) (id : String) (context : SelectionContext)
    (around : Option AncestorSet) : List (String × String) → List Scheme → Prop
  | _, [] => True
  | bindings, scheme :: rest =>
    scheme.IgnoresTopIds ids id context.document bindings
      ∧ (Answer.FallsThrough around (scheme.select bindings context) →
        AllIgnoreTopIds ids id context around
          (bindings ++ Answer.passedOn (scheme.select bindings context)) rest)

theorem Scheme.IgnoresTopIds.copies {ids : List String} {id : String} {d : Document}
    {bindings : List (String × String)} {scheme : Scheme}
    (h : scheme.IgnoresTopIds ids id d bindings) : scheme.Copies := by
  cases h with
  | binding b => exact b.copies_scheme
  | element p => exact p.copies_scheme
  | expression p => exact p.copies_scheme

/-- The same is selected but for the `xml:id`s of the selected elements, and altogether the same
from nodes that are the same with all that is inside them. -/
structure Selection.SameButIds (d d' : Document) (s s' : Selection) : Prop where
  finished : s'.finished = s.finished
  result : Option.Rel (Document.Retopped Element.SameButId) s.result s'.result
  bindings : s'.bindings = s.bindings
  matched : s'.matched = s.matched
  inside : (∀ i ∈ s.matched, d'.subtree? i = d.subtree? i) → s'.result = s.result

/-- The same of the outcome of a search, in which the elements are those at the nodes. -/
structure SameSelection (d d' : Document) (r r' : Document × List Nat) : Prop where
  retopped : Document.Retopped Element.SameButId r.1 r'.1
  matched : r'.2 = r.2
  names : r.1.content.names = r.2.flatMap d.namesAt
  inside : (∀ i ∈ r.2, d'.subtree? i = d.subtree? i) → r'.1 = r.1

/-- Nothing is selected from either document. -/
theorem Selection.sameButIds_self {s : Selection} (none_ : s.result = none) (d d' : Document) :
    s.SameButIds d d' s :=
  ⟨rfl, by rw [none_]; exact .none, rfl, rfl, fun _ => rfl⟩

variable {ids : List String} {id : String} {d d' : Document}
  (h : Document.Retopped (Element.Renamed ids id) d d')

include h

namespace Document.Retopped

theorem sameButIds : d.nodes.SameButIds d'.nodes := by
  refine h.recast.sameButIds fun p i e e' may => ?_
  rcases may with rfl | ⟨-, renamed⟩
  · rfl
  · exact renamed.sameButId

/-- Only the elements at the top have another `xml:id`. -/
theorem sameButHidden : d.nodes.SameButHidden (d.hiddenAtTop ids id) d'.nodes where
  toSameButIds := h.sameButIds
  shown i e e' here there := by
    obtain ⟨none_, -, -⟩ | ⟨p, own, own', parent, found, found', may⟩ := h.recast.element? i
    · cases here.symm.trans none_
    cases here.symm.trans found
    cases there.symm.trans found'
    obtain same | ⟨rfl, same | ⟨-, given, had⟩⟩ := may
    · exact .inl same
    · exact .inl same
    · refine .inr ⟨parent, fun x hx => ?_, fun x hx => ?_⟩
      · exact List.mem_cons_of_mem id (had x hx)
      · cases given.symm.trans hx
        exact List.mem_cons_self

theorem base?_eq : d'.nodes.base? = d.nodes.base? := by
  refine h.recast.base?_eq fun p i e e' may => ?_
  rcases may with rfl | ⟨-, renamed⟩
  · rfl
  · exact renamed.sameButId.base

/-- A node that is the same with all that is inside it is fixed up to the same. -/
theorem fixedElement?_eq (fixup : FixupContext) {i : Nat} (same : d'.subtree? i = d.subtree? i) :
    fixup.element? d'.nodes i = fixup.element? d.nodes i := by
  rw [FixupContext.element?, FixupContext.element?, Document.element?_eq_of_subtree? same,
    h.sameButIds.lang]

/-- What is there to be copied of a node: nothing, an element and its content, or another node. -/
theorem exists_copies (fixup : FixupContext) (i : Nat) :
    d.subtree? i = none ∧ d'.subtree? i = none
      ∨ (∃ t t', d.subtree? i = some t ∧ d'.subtree? i = some t'
          ∧ fixup.element? d.nodes i = none ∧ fixup.element? d'.nodes i = none
          ∧ Forest.Retopped Element.SameButId t.toForest t'.toForest)
      ∨ ∃ t t' e e', d.subtree? i = some t ∧ d'.subtree? i = some t'
          ∧ fixup.element? d.nodes i = some e ∧ fixup.element? d'.nodes i = some e'
          ∧ e.SameButId e' ∧ t'.content = t.content := by
  have related := (h.mono fun _ _ renamed => renamed.sameButId).subtree? Element.SameButId.refl i
  have lang := congrFun h.sameButIds.lang i
  simp only [FixupContext.element?, lang]
  generalize here : d.subtree? i = x, there : d'.subtree? i = y at related
  cases related with
  | none => exact .inl ⟨rfl, rfl⟩
  | some related =>
    refine .inr ?_
    cases related with
    | document content =>
      refine .inl ⟨_, _, rfl, rfl, ?_, ?_, content⟩
      · rw [Document.element?_eq_none here (by rintro e ⟨⟩), Option.map_none]
      · rw [Document.element?_eq_none there (by rintro e ⟨⟩), Option.map_none]
    | leaf l =>
      refine .inl ⟨_, _, rfl, rfl, ?_, ?_, Forest.retopped_self fun e _ => .refl e⟩
      · rw [Document.element?_eq_none here (by rintro e ⟨⟩), Option.map_none]
      · rw [Document.element?_eq_none there (by rintro e ⟨⟩), Option.map_none]
    | element same =>
      refine .inr ⟨_, _, _, _, rfl, rfl, ?_, ?_, same.apply fixup (d.nodes.lang? i), rfl⟩
      · rw [Document.element?_of_subtree? here, Option.map_some]
      · rw [Document.element?_of_subtree? there, Option.map_some]

/-! ### Expressions -/

theorem copyOf_retopped (fixup : FixupContext) {a a' : NodeRef}
    (same : SameRef d.nodes d'.nodes a a') :
    Forest.Retopped Element.SameButId (ExpressionPointer.copyOf ⟨d, fixup⟩ d.nodes a)
      (ExpressionPointer.copyOf ⟨d', fixup⟩ d'.nodes a') := by
  cases same with
  | attribute_ here there pair =>
    have value := (SameRef.attribute_ here there pair).stringValue_eq h.sameButIds
    rw [ExpressionPointer.copyOf, ExpressionPointer.copyOf, value]
    exact Forest.retopped_self fun e _ => .refl e
  | node i =>
    unfold ExpressionPointer.copyOf
    dsimp only
    obtain ⟨here, there⟩ | ⟨t, t', here, there, element, element', same⟩
      | ⟨t, t', e, e', here, there, element, element', same, content⟩ := h.exists_copies fixup i
    · rw [here, there]
      cases fixup.element? d.nodes i <;> cases fixup.element? d'.nodes i <;> exact .nil
    · rw [here, there, element, element']
      exact same
    · rw [here, there, element, element']
      dsimp only
      rw [content]
      exact .element same .nil

/-- The copy of an attribute is the same, and so is that of a node that is the same with all that
is inside it. -/
theorem copyOf_eq (fixup : FixupContext) {a a' : NodeRef} (same : SameRef d.nodes d'.nodes a a')
    (inside : ∀ i, a = .node i → d'.subtree? i = d.subtree? i) :
    ExpressionPointer.copyOf ⟨d', fixup⟩ d'.nodes a'
      = ExpressionPointer.copyOf ⟨d, fixup⟩ d.nodes a := by
  cases same with
  | attribute_ here there pair =>
    have value := (SameRef.attribute_ here there pair).stringValue_eq h.sameButIds
    rw [ExpressionPointer.copyOf, ExpressionPointer.copyOf, value]
  | node i =>
    unfold ExpressionPointer.copyOf
    dsimp only
    rw [inside i rfl, h.fixedElement?_eq fixup (inside i rfl)]

section

variable (fixup : FixupContext) {nodes nodes' : List NodeRef}
  (same : List.Forall₂ (SameRef d.nodes d'.nodes) nodes nodes')

include same

theorem copyAll_base :
    (ExpressionPointer.copyAll ⟨d', fixup⟩ d'.nodes nodes').base
      = (ExpressionPointer.copyAll ⟨d, fixup⟩ d.nodes nodes).base := by
  rw [ExpressionPointer.copyAll, ExpressionPointer.copyAll]
  dsimp only
  rw [h.base]
  cases same with
  | nil => rfl
  | cons first _ =>
    rw [List.head?_cons, List.head?_cons, Option.bind_some, Option.bind_some, first.owner_eq,
      h.base?_eq]

theorem copyAll_retopped :
    Document.Retopped Element.SameButId (ExpressionPointer.copyAll ⟨d, fixup⟩ d.nodes nodes)
      (ExpressionPointer.copyAll ⟨d', fixup⟩ d'.nodes nodes') := by
  refine ⟨h.copyAll_base fixup same, ?_⟩
  rw [ExpressionPointer.copyAll, ExpressionPointer.copyAll]
  dsimp only
  induction same with
  | nil => exact .nil
  | cons first _ ih => exact (h.copyOf_retopped fixup first).append ih

theorem copyAll_eq
    (inside : ∀ i ∈ ExpressionPointer.numbersOf nodes, d'.subtree? i = d.subtree? i) :
    ExpressionPointer.copyAll ⟨d', fixup⟩ d'.nodes nodes'
      = ExpressionPointer.copyAll ⟨d, fixup⟩ d.nodes nodes := by
  have content : (ExpressionPointer.copyAll ⟨d', fixup⟩ d'.nodes nodes').content
      = (ExpressionPointer.copyAll ⟨d, fixup⟩ d.nodes nodes).content := by
    rw [ExpressionPointer.copyAll, ExpressionPointer.copyAll]
    dsimp only
    induction same with
    | nil => rfl
    | @cons a a' nodes nodes' first _ ih =>
      have here : ∀ i, a = .node i → d'.subtree? i = d.subtree? i := by
        rintro i rfl
        exact inside i (ExpressionPointer.mem_numbersOf.mpr List.mem_cons_self)
      have behind : ∀ i ∈ ExpressionPointer.numbersOf nodes, d'.subtree? i = d.subtree? i := by
        intro i selected
        have among := List.mem_cons_of_mem a (ExpressionPointer.mem_numbersOf.mp selected)
        exact inside i (ExpressionPointer.mem_numbersOf.mpr among)
      rw [List.foldr_cons, List.foldr_cons, ih behind, h.copyOf_eq fixup first here]
  exact congrArg₂ Document.mk (h.copyAll_base fixup same) content

omit h in
theorem numbersOf_eq :
    ExpressionPointer.numbersOf nodes' = ExpressionPointer.numbersOf nodes := by
  induction same with
  | nil => rfl
  | cons first _ ih =>
    cases first with
    | node i => exact congrArg (i :: ·) ih
    | attribute_ => exact ih

end

theorem expression_agree (fixup : FixupContext) (p : ExpressionPointer) (bindings : Bindings)
    (overlooks : ∀ e, XPath.Expr.read p.source = .ok e →
      e.Overlooks ⟨d.nodes, bindings⟩ (d.hiddenAtTop ids id) ⟨.node 0, 1, 1⟩) :
    Agree (Selection.SameButIds d d') (p.select bindings ⟨d, fixup⟩)
      (p.select bindings ⟨d', fixup⟩) := by
  unfold ExpressionPointer.select
  dsimp only
  cases read : XPath.Expr.read p.source with
  | error err => exact .error _
  | ok e =>
    have evaluated : Agree (XPath.Value.Same d.nodes d'.nodes) (e.evaluate d 0 bindings)
        (e.evaluate d' 0 bindings) :=
      XPath.Expr.eval_agree h.sameButHidden e (overlooks e read) ⟨.node 0, rfl, rfl⟩
    refine (evaluated.mapError _).bind fun v v' same => ?_
    cases same with
    | nodeSet same =>
      have copies := h.copyAll_retopped fixup same
      have equal := h.copyAll_eq fixup same
      have numbers := numbersOf_eq same
      cases same with
      | nil => exact .ok (Selection.sameButIds_self rfl d d')
      | cons first behind =>
        exact .ok ⟨rfl, .some copies, rfl, numbers, fun inside => congrArg some (equal inside)⟩
    | _ => exact .error _

/-! ### Element pointers -/

theorem locate?_eq (p : ElementPointer) (other : ∀ x ∈ p.id, x ∉ id :: ids) :
    p.locate? d'.nodes = p.locate? d.nodes := by
  have child : ElementPointer.childAt? d'.nodes = ElementPointer.childAt? d.nodes := by
    funext node n
    rw [ElementPointer.childAt?, ElementPointer.childAt?, h.sameButIds.elementChildren_eq]
  rw [ElementPointer.locate?, ElementPointer.locate?, child]
  cases start : p.id with
  | none => rfl
  | some x =>
    dsimp only
    rw [h.sameButHidden.elementWithId?_eq (other x start)]

theorem element_same (fixup : FixupContext) (p : ElementPointer)
    (other : ∀ x ∈ p.id, x ∉ id :: ids) :
    Selection.SameButIds d d' (p.select ⟨d, fixup⟩) (p.select ⟨d', fixup⟩) := by
  unfold ElementPointer.select
  dsimp only
  rw [h.locate?_eq p other]
  cases p.locate? d.nodes with
  | none => exact Selection.sameButIds_self rfl d d'
  | some i =>
    have equal := h.fixedElement?_eq fixup (i := i)
    dsimp only
    obtain ⟨here, there⟩ | ⟨t, t', here, there, element, element', -⟩
      | ⟨t, t', e, e', here, there, element, element', same, content⟩ := h.exists_copies fixup i
    · rw [here, there]
      cases fixup.element? d.nodes i <;> cases fixup.element? d'.nodes i <;>
        exact Selection.sameButIds_self rfl d d'
    · rw [here, there, element, element']
      exact Selection.sameButIds_self rfl d d'
    · rw [here, there, element, element'] at equal
      rw [here, there, element, element']
      dsimp only
      rw [content]
      refine ⟨rfl, .some ⟨same.base, .element same .nil⟩, rfl, rfl, fun inside => ?_⟩
      have kept := inside i List.mem_cons_self
      rw [here, there] at kept
      cases equal kept
      rfl

end Document.Retopped

/-! ### Lists of schemes -/

theorem Scheme.IgnoresTopIds.select_agree {scheme : Scheme} {bindings : List (String × String)}
    (ignores : scheme.IgnoresTopIds ids id d bindings) (fixup : FixupContext) :
    Agree (Selection.SameButIds d d') (scheme.select bindings ⟨d, fixup⟩)
      (scheme.select bindings ⟨d', fixup⟩) := by
  cases ignores with
  | binding b => exact .ok (Selection.sameButIds_self rfl d d')
  | element p other => exact .ok (h.element_same fixup p other)
  | expression p overlooks => exact h.expression_agree fixup p _ overlooks

section

open Answer

variable {a a' : Answer} (same : Agree (Selection.SameButIds d d') a a')
  {around : Option AncestorSet} {result : Document} {matched : List Nat}

omit h
include same

theorem Answer.loops_iff_of_agree : Loops around a' ↔ Loops around a := by
  constructor
  · rintro ⟨set, selection, around, rfl, inside⟩
    cases same with
    | ok same => exact ⟨set, _, around, rfl, same.matched ▸ inside⟩
  · rintro ⟨set, selection, around, rfl, inside⟩
    cases same with
    | ok same => exact ⟨set, _, around, rfl, same.matched.symm ▸ inside⟩

/-- The scheme is done on both sides, and it has selected the same. -/
theorem Answer.finishes_of_agree (finishes : Finishes a result matched) :
    ∃ result', Finishes a' result' matched
      ∧ Document.Retopped Element.SameButId result result'
      ∧ ((∀ i ∈ matched, d'.subtree? i = d.subtree? i) → result' = result) := by
  obtain ⟨more, rfl⟩ := finishes
  cases same with
  | @ok _ s' same =>
    obtain ⟨finished', content, more', matched'⟩ := s'
    obtain ⟨finished, retopped, -, numbers, inside⟩ := same
    dsimp only at finished retopped numbers inside
    subst finished numbers
    cases retopped with
    | some retopped => exact ⟨_, ⟨_, rfl⟩, retopped, fun kept => Option.some.inj (inside kept)⟩

theorem Answer.fallsThrough_of_agree (falls : FallsThrough around a) : FallsThrough around a' := by
  refine ⟨fun loops => falls.1 ((loops_iff_of_agree same).mp loops), ?_⟩
  rintro result' matched' ⟨more', rfl⟩
  cases same with
  | @ok s _ same =>
    obtain ⟨finished, content, more, matched⟩ := s
    obtain ⟨finished, retopped, -, -, -⟩ := same
    dsimp only at finished retopped
    subst finished
    cases retopped with
    | some retopped => exact falls.2 _ _ ⟨_, rfl⟩

theorem Answer.passedOn_of_agree : passedOn a' = passedOn a := by
  cases same with
  | error e => rfl
  | ok same => exact same.bindings

theorem Answer.failure?_of_agree : failure? a' = failure? a := by
  cases same <;> rfl

end

/-- **Schemes that ignore the ids at the top select the same** but for the `xml:id`s of the elements
that they select, from the same nodes, or they fail with the same error. -/
theorem selectFrom_agree {fixup : FixupContext} {around : Option AncestorSet}
    {schemes : List Scheme} {bindings : List (String × String)}
    (ignore : Scheme.AllIgnoreTopIds ids id ⟨d, fixup⟩ around bindings schemes) (fragment : String)
    (failure : Option SelectionError) :
    Agree (SameSelection d d') (selectFrom ⟨d, fixup⟩ around fragment bindings failure schemes)
      (selectFrom ⟨d', fixup⟩ around fragment bindings failure schemes) := by
  -- The first scheme loops, is done or falls through, and it does so on both sides.
  induction schemes generalizing bindings failure with
  | nil => exact .error _
  | cons scheme rest ih =>
    obtain ⟨first, behind⟩ := ignore
    have same := first.select_agree h fixup
    by_cases falls : Answer.FallsThrough around (scheme.select bindings ⟨d, fixup⟩)
    · rw [selectFrom_of_fallsThrough falls,
        selectFrom_of_fallsThrough (Answer.fallsThrough_of_agree same falls),
        Answer.passedOn_of_agree same, Answer.failure?_of_agree same]
      exact ih (behind falls) _
    by_cases loops : Answer.Loops around (scheme.select bindings ⟨d, fixup⟩)
    · rw [selectFrom_of_loops loops,
        selectFrom_of_loops ((Answer.loops_iff_of_agree same).mpr loops)]
      exact .error _
    · obtain ⟨result, matched, finishes⟩ := Answer.finishes_of_not_fallsThrough falls loops
      obtain ⟨result', finishes', retopped, inside⟩ := Answer.finishes_of_agree same finishes
      rw [selectFrom_of_finishes loops finishes, selectFrom_of_finishes
        (fun loops' => loops ((Answer.loops_iff_of_agree same).mp loops')) finishes']
      obtain ⟨more, answer⟩ := finishes
      exact .ok ⟨retopped, rfl, first.copies bindings _ result more matched answer, inside⟩

end Transclusion
