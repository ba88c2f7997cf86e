import Transclusion.Proofs.Fixup.Carried
import Transclusion.Proofs.Fragment.Copies
/-!
# Schemes carry languages along

The elements in what a scheme selects have the languages that they have in the document which they
are selected from, though an element selected is cut off from those around it: fix-up writes its
language down (`Scheme.Carries`).

* `SchemeRegistry.carries_standard`: this holds of the five standard schemes.
* `carried_of_selectWith`: it carries over to a sequence of schemes.
-/

namespace Transclusion

/-! ### Nodes -/

namespace Document

variable (d : Document)

/-- The elements in the subtree of a node, with their languages. -/
def spokenAt (i : Nat) : List (Element × Option String) :=
  (i :: d.nodes.descendants i).filterMap d.spoken?

variable {d} {i : Nat}

theorem spokenAt_of_element {e : Element} {content : Forest}
    (h : d.subtree? i = some (.element e content)) :
    d.spokenAt i = (e, d.nodes.lang? i) :: content.languages (d.nodes.lang? i) := by
  have here : d.spoken? i = some (e, d.nodes.lang? i) := by
    rw [spoken?, element?_of_subtree? h]
    rfl
  rw [spokenAt, List.filterMap_cons_some here, ← languages_inside h]
  rfl

theorem spokenAt_of_not_element {t : Subtree} (h : d.subtree? i = some t)
    (other : d.nodes.element? i = none) :
    d.spokenAt i = t.content.languages (d.nodes.lang? i) := by
  have nothing : d.spoken? i = none := by
    rw [spoken?, other]
    rfl
  rw [spokenAt, List.filterMap_cons_none nothing, ← languages_inside h]

theorem spokenAt_of_size_le (h : d.size ≤ i) : d.spokenAt i = [] := by
  have nothing : d.spoken? i = none := by
    rw [spoken?, NodeList.element?, NodeList.kind?, nodes_getElem?,
      List.getElem?_eq_none (by rwa [length_nodeList])]
    rfl
  rw [spokenAt, List.filterMap_cons_none nothing, NodeList.descendants, extent_eq_zero h]
  rfl

/-- An element that gives itself a language has it. -/
theorem lang?_of_lang? {e : Element} (element : d.nodes.element? i = some e) {l : String}
    (own : e.lang? = some l) : d.nodes.lang? i = some l := by
  rw [NodeList.lang?, List.findSome?_cons, element, Option.bind_some,
    show e.attribute? (.xml "lang") = some l from own]

/-- The first node of a document is not an element, and no leaf has anything inside. -/
theorem languages_of_not_element {t : Subtree} (h : d.subtree? i = some t)
    (other : d.nodes.element? i = none) :
    t.content.languages (d.nodes.lang? i) = t.toForest.languages none := by
  cases t with
  | document d' =>
    have first : i = 0 := by
      by_contra later
      rw [subtree?, if_neg later] at h
      exact Forest.subtree?_ne_document _ _ d' h
    subst first
    rw [NodeList.lang?_document]
    rfl
  | element e content => cases (element?_of_subtree? h).symm.trans other
  | leaf l =>
    rw [Subtree.toForest, Forest.languages_consLeaf]
    rfl

end Document

/-! ### The standard schemes -/

/-- The elements in what a scheme selects carry their languages with them. -/
def Scheme.Carries (scheme : Scheme) : Prop :=
  ∀ bindings context result more matched, context.fixup.options.fixupXmlLang = true →
    scheme.select bindings context = .ok ⟨true, some result, more, matched⟩ →
      List.Forall₂ Carried (matched.flatMap context.document.spokenAt)
        (result.content.languages none)

/-- An element that is fixed up and put around its content. -/
theorem SelectionContext.carried_fixed {context : SelectionContext}
    (on : context.fixup.options.fixupXmlLang = true) {i : Nat} {e' : Element} {t : Subtree}
    (he : context.fixup.element? context.document.nodes i = some e')
    (ht : context.document.subtree? i = some t) :
    List.Forall₂ Carried (context.document.spokenAt i)
      ((Forest.element e' t.content .nil).languages none) := by
  obtain ⟨e, element, rfl⟩ := Option.map_eq_some_iff.mp he
  rw [Document.eq_element_of_element? element ht] at ht
  have own : (context.fixup.apply (context.document.nodes.lang? i) e).lang?
      = (context.document.nodes.lang? i).or (context.fixup.lang.map fun _ => "") := by
    rw [context.fixup.lang?_apply on]
    cases own : e.lang? with
    | none => rfl
    | some l =>
      rw [Document.lang?_of_lang? element own]
      rfl
  rw [Document.spokenAt_of_element ht, Forest.languages, Forest.languages, List.append_nil]
  exact context.fixup.carried_element (context.fixup.name_apply _ e)
    ((context.fixup.base_withLang _ _).trans (context.fixup.base_withBase e)) own t.content
    (.inl rfl)

/-- A text has no elements. -/
theorem Selection.carried_of_ofText {source result : Document} {text : String}
    {more : List (String × String)} {matched : List Nat}
    {f : Nat → List (Element × Option String)}
    (h : Selection.ofText source text = ⟨true, some result, more, matched⟩) :
    List.Forall₂ Carried (matched.flatMap f) (result.content.languages none) := by
  cases h
  rw [Document.ofText, show Forest.consText text .nil = Forest.consLeaf (.text text) .nil from rfl,
    Forest.languages_consLeaf]
  exact .nil

theorem TextRange.carries_scheme (r : TextRange) : r.scheme.Carries := by
  intro bindings context result more matched on h
  have hselect : r.select context = .ok ⟨true, some result, more, matched⟩ := h
  rw [TextRange.select] at hselect
  obtain ⟨text, _, hselect⟩ := bind_eq_ok_iff.mp hselect
  obtain ⟨_, _, hselect⟩ := bind_eq_ok_iff.mp hselect
  split at hselect
  · exact Selection.carried_of_ofText (Except.ok.inj hselect)
  · cases hselect

theorem Search.carries_scheme (s : Search) : s.scheme.Carries := by
  intro bindings context result more matched on h
  have hselect : s.select context = .ok ⟨true, some result, more, matched⟩ := h
  rw [Search.select] at hselect
  obtain ⟨text, _, hselect⟩ := bind_eq_ok_iff.mp hselect
  obtain ⟨_, _, hselect⟩ := bind_eq_ok_iff.mp hselect
  split at hselect
  · exact Selection.carried_of_ofText (Except.ok.inj hselect)
  · cases hselect

theorem NamespaceBinding.carries_scheme (b : NamespaceBinding) : b.scheme.Carries := by
  intro bindings context result more matched on h
  cases h

theorem ElementPointer.carries_scheme (p : ElementPointer) : p.scheme.Carries := by
  intro bindings context result more matched on h
  have hselect : p.select context = ⟨true, some result, more, matched⟩ := Except.ok.inj h
  unfold ElementPointer.select at hselect
  dsimp only at hselect
  split at hselect
  · cases hselect
  · next id _ =>
    split at hselect
    · next e t he ht =>
      cases hselect
      rw [List.flatMap_singleton]
      exact SelectionContext.carried_fixed on he ht
    · cases hselect

namespace ExpressionPointer

variable {context : SelectionContext} (on : context.fixup.options.fixupXmlLang = true)

include on

theorem carried_copyOf_node (i : Nat) :
    List.Forall₂ Carried (context.document.spokenAt i)
      ((copyOf context context.document.nodes (.node i)).languages none) := by
  unfold copyOf
  dsimp only
  cases ht : context.document.subtree? i with
  | none =>
    rw [Document.spokenAt_of_size_le (Document.subtree?_eq_none_iff.mp ht)]
    split <;> first | exact .nil | contradiction
  | some t =>
    cases he : context.fixup.element? context.document.nodes i with
    | some e => exact SelectionContext.carried_fixed on he ht
    | none =>
      have other : context.document.nodes.element? i = none := Option.map_eq_none_iff.mp he
      rw [Document.spokenAt_of_not_element ht other, Document.languages_of_not_element ht other]
      exact forall₂_carried_refl _

theorem carried_copyAll (nodes : List XPath.NodeRef) :
    List.Forall₂ Carried ((numbersOf nodes).flatMap context.document.spokenAt)
      ((copyAll context context.document.nodes nodes).content.languages none) := by
  show List.Forall₂ Carried _ (Forest.languages none (nodes.foldr (fun node copies =>
    (copyOf context context.document.nodes node).append copies) Forest.nil))
  induction nodes with
  | nil => exact .nil
  | cons node nodes ih =>
    rw [List.foldr_cons, Forest.languages_append]
    cases node with
    | node i => exact List.rel_append (carried_copyOf_node on i) ih
    | attribute_ owner index =>
      -- An attribute is copied as a text.
      refine List.rel_append (List.forall₂_nil_left_iff.mpr ?_) ih
      exact Forest.languages_consLeaf none (.text _) .nil

end ExpressionPointer

theorem ExpressionPointer.carries_scheme (p : ExpressionPointer) : p.scheme.Carries := by
  intro bindings context result more matched on h
  have hselect : p.select (.ofList bindings) context = .ok ⟨true, some result, more, matched⟩ := h
  rw [ExpressionPointer.select] at hselect
  obtain ⟨e, _, hselect⟩ := bind_eq_ok_iff.mp hselect
  obtain ⟨value, _, hselect⟩ := bind_eq_ok_iff.mp hselect
  split at hselect
  · cases hselect
  · cases hselect
    exact carried_copyAll on _
  · cases hselect

theorem SchemeRegistry.carries_standard : standard.Gives Scheme.Carries :=
  gives_standard NamespaceBinding.carries_scheme ElementPointer.carries_scheme
    ExpressionPointer.carries_scheme TextRange.carries_scheme Search.carries_scheme

/-- The elements in what schemes select together carry their languages with them. -/
theorem carried_of_selectWith {context : SelectionContext} {around : Option AncestorSet}
    {fragment : String} {schemes : List Scheme} {result : Document} {matched : List Nat}
    (on : context.fixup.options.fixupXmlLang = true) (carries : ∀ scheme ∈ schemes, scheme.Carries)
    (h : selectWith schemes context around fragment = .ok (result, matched)) :
    List.Forall₂ Carried (matched.flatMap context.document.spokenAt)
      (result.content.languages none) := by
  obtain ⟨scheme, hscheme, bindings, more, hselect, -⟩ := exists_scheme_of_selectFrom h
  exact carries scheme hscheme bindings context result more matched on hselect

end Transclusion
