import Mathlib.Data.List.TakeWhile
import Transclusion.Inclusion.Attributes
import Transclusion.Proofs.Fixup.TopElements
import Transclusion.Proofs.Fragment.LoopCheck
import Transclusion.Proofs.Markup.Excerpt
import Transclusion.Proofs.Text.Trimming
/-!
# Selection without fix-up, and by a bare `xml:id`

What a scheme selects depends on the place of the include only through fix-up: with all fix-ups off
it is the same at every place (`SchemeRegistry.steady_standard`).  A fragment identifier that is an
`xml:id` and nothing else selects the first element with it, unless that encloses the include.

* `selectWith_steady`: the fix-up does not matter to schemes that leave it alone.
* `FragmentId.read_bareId`: how a bare `xml:id` is read.
* `ElementPointer.selectWith_located`: what it selects.
-/

namespace Transclusion

/-! ### Selection without fix-up -/

/-- With all fix-ups off, the scheme selects the same for every place of inclusion. -/
def Scheme.Steady (scheme : Scheme) : Prop :=
  ∀ (bindings : List (String × String)) (d : Document) (fixup fixup' : FixupContext),
    fixup.options.Unchanging → fixup'.options.Unchanging →
      scheme.select bindings ⟨d, fixup⟩ = scheme.select bindings ⟨d, fixup'⟩

theorem ElementPointer.steady_scheme (p : ElementPointer) : p.scheme.Steady := by
  intro bindings d fixup fixup' off off'
  show Except.ok (p.select ⟨d, fixup⟩) = Except.ok (p.select ⟨d, fixup'⟩)
  simp only [select, FixupContext.element?_of_unchanging off,
    FixupContext.element?_of_unchanging off']

theorem ExpressionPointer.steady_scheme (p : ExpressionPointer) : p.scheme.Steady := by
  intro bindings d fixup fixup' off off'
  have copies : ∀ o, copyOf ⟨d, fixup⟩ d.nodes o = copyOf ⟨d, fixup'⟩ d.nodes o := by
    intro o
    cases o with
    | attribute_ owner index => rfl
    | node id =>
      simp only [copyOf, FixupContext.element?_of_unchanging off,
        FixupContext.element?_of_unchanging off']
  show p.select _ ⟨d, fixup⟩ = p.select _ ⟨d, fixup'⟩
  simp only [select, copyAll, copies]

theorem SchemeRegistry.steady_standard : standard.Gives Scheme.Steady :=
  gives_standard (fun _ _ _ _ _ _ _ => rfl) ElementPointer.steady_scheme
    ExpressionPointer.steady_scheme (fun _ _ _ _ _ _ _ => rfl) fun _ _ _ _ _ _ _ => rfl

/-- Steady schemes select the same together. -/
theorem selectWith_steady {schemes : List Scheme} (steady : ∀ scheme ∈ schemes, scheme.Steady)
    (d : Document) {fixup fixup' : FixupContext} (off : fixup.options.Unchanging)
    (off' : fixup'.options.Unchanging) (around : Option AncestorSet) (fragment : String) :
    selectWith schemes ⟨d, fixup⟩ around fragment
      = selectWith schemes ⟨d, fixup'⟩ around fragment := by
  rw [selectWith, selectWith]
  generalize ([] : List (String × String)) = bindings
  generalize (none : Option SelectionError) = failure
  induction schemes generalizing bindings failure with
  | nil => rfl
  | cons scheme rest ih =>
    have first : scheme.attempt bindings ⟨d, fixup⟩ around
        = scheme.attempt bindings ⟨d, fixup'⟩ around := by
      rw [Scheme.attempt, Scheme.attempt,
        steady scheme List.mem_cons_self bindings d fixup fixup' off off']
    have later := ih fun scheme' h => steady scheme' (List.mem_cons_of_mem scheme h)
    simp only [selectFrom, first, later]

/-! ### Bare identifiers -/

/-- An `xml:id` that can be a fragment identifier as it is. -/
structure IsBareId (x : String) : Prop where
  nonempty : x ≠ ""
  plain : ∀ c ∈ x.toList, c ≠ '(' ∧ c ≠ '/' ∧ Text.isSpace c = false

theorem ElementPointer.read_bareId {x : String} (bare : IsBareId x) :
    ElementPointer.read x = .ok ⟨some x, []⟩ := by
  have trimmed : Text.trim x.toList = x.toList :=
    Text.trim_eq_self fun c hc => (bare.plain c hc).2.2
  have noSlash : ∀ c ∈ x.toList, decide (c ≠ '/') = true :=
    fun c hc => decide_eq_true (bare.plain c hc).2.1
  have nonempty : x.toList.isEmpty = false := by
    simp [bare.nonempty]
  simp only [read, trimmed, List.takeWhile_eq_self_iff.mpr noSlash,
    List.dropWhile_eq_nil_iff.mpr noSlash, nonempty, Bool.false_eq_true, if_false,
    String.ofList_toList]

/-- A bare `xml:id` is the data of the scheme `element`. -/
theorem FragmentId.read_bareId {x : String} (bare : IsBareId x) :
    FragmentId.read .standard .xml x = .ok [(⟨some x, []⟩ : ElementPointer).scheme] := by
  have noTerm : x.toList.contains '(' = false := by
    rw [← Bool.not_eq_true, List.contains_iff_mem]
    exact fun h => (bare.plain _ h).1 rfl
  have trimmed : Text.trim x.toList = x.toList :=
    Text.trim_eq_self fun c hc => (bare.plain c hc).2.2
  have registered : SchemeRegistry.standard.get? "element" = some .element := rfl
  rw [FragmentId.read, readXml, noTerm]
  simp only [Bool.false_eq_true, if_false, single, SchemeRegistry.instantiate, registered, trimmed,
    String.ofList_toList]
  show (do return [← (do return (← ElementPointer.read x).scheme)]) = _
  rw [ElementPointer.read_bareId bare]
  rfl

theorem Document.subtree?_of_elementWithId? {d : Document} {x : String} {m : Nat}
    (h : d.nodes.elementWithId? x = some m) :
    ∃ e content, d.subtree? m = some (.element e content) := by
  have here := List.find?_some h
  rw [decide_eq_true_iff] at here
  obtain ⟨e, element, -⟩ := Option.bind_eq_some_iff.mp here
  obtain ⟨t, ht⟩ := Document.exists_subtree? (Document.bounds_of_element? element).2
  exact ⟨e, t.content, ht.trans (congrArg some (Document.eq_element_of_element? element ht))⟩

theorem AncestorSet.check_singleton (a : AncestorSet) (m : Nat) :
    a.check [m] = if m ∈ a.numbers then .error (.loop .ancestor) else .ok () := by
  obtain ⟨refused, here⟩ | ⟨passed, clear⟩ := a.check_cases [m]
  · rw [refused, if_pos (by simpa using here)]
  · rw [passed, if_neg (clear m List.mem_cons_self)]

/-- The attributes of an include that refers to the element with an `xml:id` of its own
document. -/
structure IncludeAttributes.PointsTo (a : IncludeAttributes) (x : String) : Prop where
  own : a.href = ""
  markup : a.parseType = .xml
  pointer : a.xpointer = some x
  bare : IsBareId x

theorem IncludeAttributes.PointsTo.fragment_eq {a : IncludeAttributes} {x : String}
    (points : a.PointsTo x) : a.fragment .xml = some x := by
  rw [fragment, writtenFragment, points.pointer]
  cases a.fragid <;> rfl

namespace ElementPointer

/-- The first element with an `xml:id` is selected unless it encloses the include. -/
theorem selectWith_located {d : Document} {fixup : FixupContext} (off : fixup.options.Unchanging)
    {x : String} {m : Nat} {e : Element} {content : Forest}
    (located : d.nodes.elementWithId? x = some m)
    (subtree : d.subtree? m = some (.element e content))
    (around : AncestorSet) (fragment : String) :
    selectWith [(⟨some x, []⟩ : ElementPointer).scheme] ⟨d, fixup⟩ (some around) fragment
      = (around.check [m]).map fun _ => (Document.excerpt e content, [m]) := by
  have element := Document.element?_of_subtree? subtree
  have selected : (⟨some x, []⟩ : ElementPointer).select ⟨d, fixup⟩
      = .found (Document.excerpt e content) [m] := by
    have there : (⟨some x, []⟩ : ElementPointer).locate? d.nodes = some m := by
      show (d.nodes.elementWithId? x).bind some = some m
      rw [located]
      rfl
    simp only [select, there, FixupContext.element?_of_unchanging off, element, subtree]
    rfl
  rw [selectWith, selectFrom, Scheme.attempt]
  simp only [scheme, selected, Selection.found]
  cases around.check [m] <;> rfl

/-- Nothing is selected where no element has the `xml:id`. -/
theorem selectWith_missing {d : Document} {fixup : FixupContext} {x : String}
    (missing : d.nodes.elementWithId? x = none) (around : Option AncestorSet) (fragment : String) :
    selectWith [(⟨some x, []⟩ : ElementPointer).scheme] ⟨d, fixup⟩ around fragment
      = .error (.noFragment fragment none) := by
  have nowhere : (⟨some x, []⟩ : ElementPointer).locate? d.nodes = none := by
    show (d.nodes.elementWithId? x).bind some = none
    rw [missing]
    rfl
  have nothing : (⟨some x, []⟩ : ElementPointer).select ⟨d, fixup⟩ = .nothing := by
    simp only [select, nowhere]
  rw [selectWith, selectFrom, Scheme.attempt]
  simp only [scheme, nothing]
  cases around <;> rfl

end ElementPointer

end Transclusion
