import Transclusion.Fragment.Identifier
import Transclusion.Inclusion.Selection
import Transclusion.Proofs.Markup.Counting
import Transclusion.Proofs.Outcome
/-!
# Schemes select copies

What a scheme selects is put together from copies of the nodes that it has matched, each with all
that is inside it, and apart from that only from texts.  So the names of the elements in the
selected content are those at the matched nodes (`Scheme.Copies`).

* `SchemeRegistry.copies_standard`: this holds of the five standard schemes.
* `names_of_selectWith`: it carries over to a sequence of schemes.
-/

namespace Transclusion

/-- The elements in what a scheme selects are copies of those at the nodes that it has matched. -/
def Scheme.Copies (scheme : Scheme) : Prop :=
  ∀ bindings context result more matched,
    scheme.select bindings context = .ok ⟨true, some result, more, matched⟩ →
      result.content.names = matched.flatMap context.document.namesAt

/-! ### The standard schemes -/

/-- A selected text has no elements. -/
theorem Selection.names_of_ofText {source result : Document} {text : String}
    {more : List (String × String)} {matched : List Nat} {f : Nat → List QName}
    (h : Selection.ofText source text = ⟨true, some result, more, matched⟩) :
    result.content.names = matched.flatMap f := by
  cases h
  exact Document.names_ofText source.base text

theorem TextRange.copies_scheme (r : TextRange) : r.scheme.Copies := by
  intro bindings context result more matched h
  have hselect : r.select context = .ok ⟨true, some result, more, matched⟩ := h
  rw [TextRange.select] at hselect
  obtain ⟨text, _, hselect⟩ := bind_eq_ok_iff.mp hselect
  obtain ⟨_, _, hselect⟩ := bind_eq_ok_iff.mp hselect
  split at hselect
  · exact Selection.names_of_ofText (Except.ok.inj hselect)
  · cases hselect

theorem Search.copies_scheme (s : Search) : s.scheme.Copies := by
  intro bindings context result more matched h
  have hselect : s.select context = .ok ⟨true, some result, more, matched⟩ := h
  rw [Search.select] at hselect
  obtain ⟨text, _, hselect⟩ := bind_eq_ok_iff.mp hselect
  obtain ⟨_, _, hselect⟩ := bind_eq_ok_iff.mp hselect
  split at hselect
  · exact Selection.names_of_ofText (Except.ok.inj hselect)
  · cases hselect

theorem NamespaceBinding.copies_scheme (b : NamespaceBinding) : b.scheme.Copies := by
  intro bindings context result more matched h
  cases h

namespace Document

variable {d : Document} {i : Nat}

/-- The subtree of an element is the element and its content. -/
theorem eq_element_of_element? {e : Element} {t : Subtree} (he : d.nodes.element? i = some e)
    (ht : d.subtree? i = some t) : t = .element e t.content := by
  obtain ⟨q, hq⟩ := nodeList_getElem? ht
  obtain ⟨n, hn, hkind⟩ := NodeList.element?_eq_some_iff.mp he
  rw [nodes_getElem?, hq] at hn
  cases hn
  cases t with
  | document d' => cases hkind
  | leaf l => cases hkind
  | element e' content =>
    cases hkind
    rfl

theorem namesAt_of_subtree? {t : Subtree} (ht : d.subtree? i = some t) :
    d.namesAt i = t.toForest.names := by
  rw [namesAt, ht]
  rfl

/-- An element that is fixed up and put around its content has the names that it had before. -/
theorem names_fixed {context : FixupContext} {e : Element} {t : Subtree}
    (he : context.element? d.nodes i = some e) (ht : d.subtree? i = some t) :
    (Forest.element e t.content .nil).names = d.namesAt i := by
  obtain ⟨e', he', rfl⟩ := Option.map_eq_some_iff.mp he
  rw [namesAt_of_subtree? ht, eq_element_of_element? he' ht, Forest.names_element,
    FixupContext.name_apply]
  rfl

end Document

theorem ElementPointer.copies_scheme (p : ElementPointer) : p.scheme.Copies := by
  intro bindings context result more matched h
  have hselect : p.select context = ⟨true, some result, more, matched⟩ := Except.ok.inj h
  unfold ElementPointer.select at hselect
  dsimp only at hselect
  split at hselect
  · cases hselect
  · next id _ =>
    split at hselect
    · next e t he ht =>
      cases hselect
      rw [List.flatMap_singleton]
      exact Document.names_fixed he ht
    · cases hselect

namespace ExpressionPointer

variable (context : SelectionContext)

theorem names_copyOf_node (id : Nat) :
    (copyOf context context.document.nodes (.node id)).names = context.document.namesAt id := by
  unfold copyOf
  dsimp only
  cases ht : context.document.subtree? id with
  | none =>
    rw [Document.namesAt, ht]
    split
    · next h => cases h
    · next h => cases h
    · rfl
  | some t =>
    cases he : context.fixup.element? context.document.nodes id with
    | none => exact (Document.namesAt_of_subtree? ht).symm
    | some e => exact Document.names_fixed he ht

/-- The elements in the copies are those at the nodes that have been copied, attributes apart. -/
theorem names_copyAll (nodes : List XPath.NodeRef) :
    (copyAll context context.document.nodes nodes).content.names
      = (numbersOf nodes).flatMap context.document.namesAt := by
  show (nodes.foldr (fun node copies =>
    (copyOf context context.document.nodes node).append copies) Forest.nil).names = _
  induction nodes with
  | nil => rfl
  | cons node nodes ih =>
    rw [List.foldr_cons, Forest.names_append, ih]
    cases node with
    | node id =>
      rw [names_copyOf_node]
      rfl
    | attribute_ owner index =>
      rw [copyOf, Forest.names_consText]
      rfl

end ExpressionPointer

theorem ExpressionPointer.copies_scheme (p : ExpressionPointer) : p.scheme.Copies := by
  intro bindings context result more matched h
  have hselect : p.select (.ofList bindings) context = .ok ⟨true, some result, more, matched⟩ := h
  rw [ExpressionPointer.select] at hselect
  obtain ⟨e, _, hselect⟩ := bind_eq_ok_iff.mp hselect
  obtain ⟨value, _, hselect⟩ := bind_eq_ok_iff.mp hselect
  split at hselect
  · cases hselect
  · cases hselect
    exact names_copyAll context _
  · cases hselect

/-! ### Registries -/

/-- Every scheme that can be named has a property. -/
def SchemeRegistry.Gives (registry : SchemeRegistry) (p : Scheme → Prop) : Prop :=
  ∀ name reader data scheme,
    registry.get? name = some reader → reader.read data = .ok scheme → p scheme

/-- Every scheme that can be named selects copies. -/
def SchemeRegistry.Copies (registry : SchemeRegistry) : Prop :=
  ∀ name reader data scheme,
    registry.get? name = some reader → reader.read data = .ok scheme → scheme.Copies

theorem Scheme.property_of_read {p : Scheme → Prop} {α : Type}
    {read : String → Except FragmentError α} {toScheme : α → Scheme} (h : ∀ a, p (toScheme a))
    {data : String} {scheme : Scheme}
    (hread : (do return toScheme (← read data)) = Except.ok scheme) : p scheme := by
  obtain ⟨a, _, ha⟩ := bind_eq_ok_iff.mp hread
  cases ha
  exact h a

/-- The standard registry has the five readers. -/
theorem SchemeRegistry.reader_standard {name : String} {reader : SchemeReader}
    (found : standard.get? name = some reader) :
    reader = .xmlns ∨ reader = .element ∨ reader = .xpath ∨ reader = .text ∨ reader = .search := by
  -- A look-up goes through the insertions that the registry is made of.
  have built : standard = ((((Table.empty.insert "xmlns" SchemeReader.xmlns).insert "element"
      .element).insert "xpath" .xpath).insert "text" .text).insert "search" .search := rfl
  rw [built] at found
  simp only [Table.get?_insert] at found
  split at found
  · cases found
    simp
  split at found
  · cases found
    simp
  split at found
  · cases found
    simp
  split at found
  · cases found
    simp
  split at found
  · cases found
    simp
  · cases found

/-- What holds of the five kinds of schemes holds of all that the standard registry gives. -/
theorem SchemeRegistry.gives_standard {p : Scheme → Prop}
    (binding : ∀ b : NamespaceBinding, p b.scheme) (element : ∀ e : ElementPointer, p e.scheme)
    (expression : ∀ e : ExpressionPointer, p e.scheme) (range : ∀ r : TextRange, p r.scheme)
    (search : ∀ s : Search, p s.scheme) : standard.Gives p := by
  intro name reader data scheme found read
  obtain rfl | rfl | rfl | rfl | rfl := reader_standard found
  · exact Scheme.property_of_read binding read
  · exact Scheme.property_of_read element read
  · exact Scheme.property_of_read expression read
  · exact Scheme.property_of_read range read
  · exact Scheme.property_of_read search read

theorem SchemeRegistry.copies_standard : standard.Copies :=
  gives_standard NamespaceBinding.copies_scheme ElementPointer.copies_scheme
    ExpressionPointer.copies_scheme TextRange.copies_scheme Search.copies_scheme

/-! ### Fragment identifiers -/

theorem SchemeRegistry.Gives.instantiate {registry : SchemeRegistry} {p : Scheme → Prop}
    (gives : registry.Gives p) {name data : String} {parseType : ParseType} {scheme : Scheme}
    (h : registry.instantiate name parseType data = .ok scheme) : p scheme := by
  rw [SchemeRegistry.instantiate] at h
  split at h
  · next reader found =>
    split at h
    · exact gives name reader data scheme found h
    · cases h
  · cases h

namespace FragmentId

section

variable {registry : SchemeRegistry} {parseType : ParseType} {p : Scheme → Prop}
  (instantiates : ∀ name data scheme,
    registry.instantiate name parseType data = .ok scheme → p scheme)

include instantiates

theorem forall_of_single {name data : String} {schemes : List Scheme}
    (h : single registry name parseType data = .ok schemes) : ∀ scheme ∈ schemes, p scheme := by
  obtain ⟨scheme, hscheme, h⟩ := bind_eq_ok_iff.mp h
  cases h
  exact List.forall_mem_singleton.mpr (instantiates name data scheme hscheme)

theorem forall_of_readTerms {fragment : String} {schemes : List Scheme}
    (h : readTerms registry parseType fragment = .ok schemes) : ∀ scheme ∈ schemes, p scheme := by
  rw [readTerms] at h
  obtain ⟨read, hread, h⟩ := bind_eq_ok_iff.mp h
  have each : ∀ scheme ∈ read, p scheme :=
    forall_mem_of_mapM hread fun _ _ scheme hscheme => instantiates _ _ scheme hscheme
  split at h
  · cases h
    exact each
  · cases h

/-- What holds of all schemes of the parse type holds of those of a fragment identifier. -/
theorem forall_of_instantiate {fragment : String} {schemes : List Scheme}
    (h : FragmentId.read registry parseType fragment = .ok schemes) :
    ∀ scheme ∈ schemes, p scheme := by
  unfold FragmentId.read at h
  split at h
  · rw [readXml] at h
    split at h
    · exact forall_of_readTerms instantiates h
    · exact forall_of_single instantiates h
  · rw [readText] at h
    dsimp only at h
    split at h
    · exact forall_of_single instantiates h
    split at h
    · obtain ⟨bounds, _, h⟩ := bind_eq_ok_iff.mp h
      exact forall_of_single instantiates h
    split at h
    · exact forall_of_single instantiates h
    · exact forall_of_readTerms instantiates h
  · cases h

end

/-- What holds of all schemes that a registry gives holds of those of a fragment identifier. -/
theorem forall_of_read {registry : SchemeRegistry} {p : Scheme → Prop} (gives : registry.Gives p)
    {parseType : ParseType} {fragment : String} {schemes : List Scheme}
    (h : FragmentId.read registry parseType fragment = .ok schemes) :
    ∀ scheme ∈ schemes, p scheme :=
  forall_of_instantiate (fun _ _ _ hscheme => gives.instantiate hscheme) h

end FragmentId

/-! ### The check against the nodes around an include -/

/-- A selection is refused if one of its nodes is around the include, and else it is not. -/
theorem AncestorSet.check_cases (set : AncestorSet) (selected : List Nat) :
    set.check selected = .error (.loop .ancestor) ∧ (∃ i ∈ selected, i ∈ set.numbers)
      ∨ set.check selected = .ok () ∧ ∀ i ∈ selected, i ∉ set.numbers := by
  rw [check]
  by_cases meets : selected.any set.contains = true
  · obtain ⟨i, hi, here⟩ := List.any_eq_true.mp meets
    exact .inl ⟨if_pos meets, i, hi, List.contains_iff_mem.mp here⟩
  · refine .inr ⟨if_neg meets, fun i hi here => meets ?_⟩
    exact List.any_eq_true.mpr ⟨i, hi, List.contains_iff_mem.mpr here⟩

/-! ### Selecting with several schemes -/

theorem Selection.answer?_eq_some_iff {s : Selection} {result : Document} {matched : List Nat} :
    s.answer? = some (result, matched) ↔ ∃ more, s = ⟨true, some result, more, matched⟩ := by
  obtain ⟨finished, content, more, matched'⟩ := s
  constructor
  · intro h
    cases finished with
    | false => cases h
    | true =>
      cases content with
      | none => cases h
      | some content =>
        cases h
        exact ⟨more, rfl⟩
  · rintro ⟨more, ⟨⟩⟩
    rfl

/-- A scheme that selects something has passed the check against the nodes around the include. -/
theorem Scheme.select_of_attempt {scheme : Scheme} {bindings : List (String × String)}
    {context : SelectionContext} {around : Option AncestorSet} {selection : Selection}
    (h : scheme.attempt bindings context around = .ok (.ok selection)) :
    scheme.select bindings context = .ok selection
      ∧ ∀ a, around = some a → a.check selection.matched = .ok () := by
  rw [Scheme.attempt] at h
  split at h
  · cases h
  · next selection' hselect =>
    dsimp only at h
    split at h
    · next a =>
      obtain ⟨_, checked, h⟩ := bind_eq_ok_iff.mp h
      cases h
      refine ⟨hselect, fun a' same => ?_⟩
      cases same
      exact checked
    · next none_ =>
      cases h
      exact ⟨hselect, fun a same => absurd same (none_ a)⟩

theorem exists_scheme_of_selectFrom {context : SelectionContext} {around : Option AncestorSet}
    {fragment : String} {bindings : List (String × String)} {failure : Option SelectionError}
    {schemes : List Scheme} {result : Document} {matched : List Nat}
    (h : selectFrom context around fragment bindings failure schemes = .ok (result, matched)) :
    ∃ scheme ∈ schemes, ∃ bindings more,
      scheme.select bindings context = .ok ⟨true, some result, more, matched⟩
        ∧ ∀ a, around = some a → a.check matched = .ok () := by
  induction schemes generalizing bindings failure with
  | nil => cases h
  | cons scheme rest ih =>
    rw [selectFrom] at h
    obtain ⟨attempted, hattempted, h⟩ := bind_eq_ok_iff.mp h
    split at h
    · obtain ⟨later, hlater, found⟩ := ih h
      exact ⟨later, List.mem_cons_of_mem scheme hlater, found⟩
    · split at h
      · next found answer =>
        cases h
        obtain ⟨more, rfl⟩ := Selection.answer?_eq_some_iff.mp answer
        exact ⟨scheme, List.mem_cons_self, bindings, more, Scheme.select_of_attempt hattempted⟩
      · obtain ⟨later, hlater, found⟩ := ih h
        exact ⟨later, List.mem_cons_of_mem scheme hlater, found⟩

/-- The elements in what schemes select together are those at the matched nodes. -/
theorem names_of_selectWith {context : SelectionContext} {around : Option AncestorSet}
    {fragment : String} {schemes : List Scheme} {result : Document} {matched : List Nat}
    (copies : ∀ scheme ∈ schemes, scheme.Copies)
    (h : selectWith schemes context around fragment = .ok (result, matched)) :
    result.content.names = matched.flatMap context.document.namesAt := by
  obtain ⟨scheme, hscheme, bindings, more, hselect, -⟩ := exists_scheme_of_selectFrom h
  exact copies scheme hscheme bindings context result more matched hselect

/-- None of the nodes selected for an include is one that the include is inside of. -/
theorem not_mem_around_of_selectWith {context : SelectionContext} {around : AncestorSet}
    {fragment : String} {schemes : List Scheme} {result : Document} {matched : List Nat}
    (h : selectWith schemes context (some around) fragment = .ok (result, matched)) :
    ∀ i ∈ matched, i ∉ around.numbers := by
  obtain ⟨scheme, -, bindings, more, -, hcheck⟩ := exists_scheme_of_selectFrom h
  obtain ⟨refused, -⟩ | ⟨-, clear⟩ := around.check_cases matched
  · rw [hcheck around rfl] at refused
    cases refused
  · exact clear

end Transclusion
