import Mathlib.Data.Bool.AllAny
import Transclusion.Fragment.ElementPointer
import Transclusion.Proofs.Markup.LexicalScoping
import Transclusion.Proofs.Text.Indices
import Transclusion.Proofs.XPath.PathComposition
/-!
# Child sequences

An element has a position among the element children of its parent, and the positions on the way
down from a node to an element are the child sequence of the element from there
(`NodeList.childSequence`).  Text, comments and instructions between the elements do not count.

* `ElementPointer.foldlM_childAt?_eq_some_iff`: going down by some positions one comes to the
  elements whose child sequence they are, and to no others.
* `ElementPointer.foldlM_childAt?_eq_none_iff`: the way ends where a position is zero, or greater
  than the number of element children.
* `ElementPointer.read_written`: a pointer is read as it is written, unless a position is no index.
* `child_sequences_address_elements`: each element has a child sequence of its own, and no other
  sequence leads anywhere.
-/

namespace Transclusion

open Text
open XPath (mem_descendants_iff_parent)

namespace NodeList

/-- The position of a node among the element children of its parent, counted from 1. -/
def position (ns : NodeList) (i : Nat) : Nat :=
  ((ns.parent? i).map fun p => (ns.elementChildren p).idxOf i + 1).getD 0

/-- The positions on the way from the node `top` down to the node `i`. -/
def childSequence (ns : NodeList) (top i : Nat) : List Nat :=
  (((i :: ns.ancestors i).takeWhile (· ≠ top)).map ns.position).reverse

/-- A node is the first element with an `xml:id`. -/
structure IsFirstWithId (ns : NodeList) (x : String) (i : Nat) : Prop where
  here : (ns.element? i).bind (·.attribute? (.xml "id")) = some x
  before : ∀ j < i, (ns.element? j).bind (·.attribute? (.xml "id")) ≠ some x

variable {d : Document} {i p top : Nat}

theorem childSequence_self (ns : NodeList) (i : Nat) : ns.childSequence i i = [] := by
  simp [childSequence]

/-- The last position on the way is that among the children of the parent. -/
theorem childSequence_of_parent? (h : d.nodes.parent? i = some p) (other : i ≠ top) :
    d.nodes.childSequence top i = d.nodes.childSequence top p ++ [d.nodes.position i] := by
  have above : d.nodes.ancestors i = p :: d.nodes.ancestors p := by
    rw [ancestors, h]
    exact if_pos (inside_of_parent? h).1
  rw [childSequence, above, List.takeWhile_cons_of_pos (by simpa using other), List.map_cons,
    List.reverse_cons, childSequence]

theorem mem_elementChildren :
    i ∈ d.nodes.elementChildren p ↔ d.nodes.parent? i = some p ∧ d.nodes.isElement i = true := by
  rw [elementChildren, List.mem_filter, mem_children]

theorem nodup_elementChildren (ns : NodeList) (p : Nat) : (ns.elementChildren p).Nodup :=
  ((pairwise_children ns p).imp Nat.ne_of_lt).filter _

/-- There are fewer children of a node than nodes in the document. -/
theorem length_elementChildren_lt (d : Document) (p : Nat) :
    (d.nodes.elementChildren p).length < d.size := by
  have inside : (d.nodes.elementChildren p).length ≤ d.nodes.extent p - 1 := by
    refine (List.length_filter_le _ _).trans ((List.length_filter_le _ _).trans ?_)
    rw [List.length_range']
  have pos : 0 < d.size := Nat.succ_pos _
  by_cases here : p < d.size
  · obtain ⟨t, ht⟩ := Document.exists_subtree? here
    have bound := Document.extent_le ht
    rw [Document.extent_eq ht] at inside
    omega
  · rw [Document.extent_eq_zero (Nat.le_of_not_lt here)] at inside
    omega

/-- What has children is the document or an element. -/
theorem isElement_of_parent? (h : d.nodes.parent? i = some p) (other : p ≠ 0) :
    d.nodes.isElement p = true := by
  by_contra noElement
  exact other (Document.eq_zero_of_parent? h (Option.not_isSome_iff_eq_none.mp noElement))

theorem elementWithId?_eq_some_iff {x : String} :
    d.nodes.elementWithId? x = some i ↔ d.nodes.IsFirstWithId x i := by
  rw [elementWithId?, numbers, List.find?_range_eq_some]
  simp only [decide_eq_true_eq, Bool.not_eq_true', decide_eq_false_iff_not, List.mem_range]
  constructor
  · rintro ⟨here, -, before⟩
    exact ⟨here, before⟩
  · rintro ⟨here, before⟩
    obtain ⟨e, element, -⟩ := Option.bind_eq_some_iff.mp here
    exact ⟨here, Document.size_nodes d ▸ (Document.bounds_of_element? element).2, before⟩

end NodeList

namespace ElementPointer

/-! ### Going down -/

section

variable {d : Document} {i n p top : Nat} {steps : List Nat}

/-- The n-th element child is the one with the position n. -/
theorem childAt?_eq_some_iff :
    childAt? d.nodes p n = some i
      ↔ d.nodes.parent? i = some p ∧ d.nodes.isElement i = true ∧ n = d.nodes.position i := by
  have nodup := NodeList.nodup_elementChildren d.nodes p
  constructor
  · intro h
    rw [childAt?] at h
    split at h
    · cases h
    next pos =>
    obtain ⟨bound, rfl⟩ := List.getElem?_eq_some_iff.mp h
    obtain ⟨child, element⟩ := NodeList.mem_elementChildren.mp (List.getElem_mem bound)
    refine ⟨child, element, ?_⟩
    rw [NodeList.position, child, Option.map_some, Option.getD_some, nodup.idxOf_getElem]
    omega
  · rintro ⟨child, element, rfl⟩
    have mem := NodeList.mem_elementChildren.mpr ⟨child, element⟩
    rw [childAt?, NodeList.position, child, Option.map_some, Option.getD_some,
      if_neg (Nat.succ_ne_zero _), Nat.add_sub_cancel, List.getElem?_idxOf mem]

theorem bounds_of_childAt? (h : childAt? d.nodes p n = some i) : 0 < n ∧ n < d.size := by
  have fewer := NodeList.length_elementChildren_lt d p
  rw [childAt?] at h
  split at h
  · cases h
  next pos =>
  have bound := (List.getElem?_eq_some_iff.mp h).1
  omega

theorem childAt?_eq_none_iff (ns : NodeList) :
    childAt? ns p n = none ↔ n = 0 ∨ (ns.elementChildren p).length < n := by
  rw [childAt?]
  split
  · next zero => simp [zero]
  · next pos =>
    rw [List.getElem?_eq_none_iff]
    omega

/-- Going down from a node one comes to the node itself by no positions, and to an element inside it
by its child sequence. -/
theorem foldlM_childAt?_eq_some_iff :
    steps.foldlM (childAt? d.nodes) top = some i ↔ steps = d.nodes.childSequence top i
      ∧ (i = top ∨ i ∈ d.nodes.descendants top ∧ d.nodes.isElement i = true) := by
  have later : ∀ {j}, j ∈ d.nodes.descendants top → top < j :=
    fun inside => (NodeList.mem_descendants.mp inside).1
  -- The last step is that from the parent, so the induction takes the positions from the end.
  induction steps using List.reverseRecOn generalizing i with
  | nil =>
    constructor
    · rintro ⟨⟩
      exact ⟨(NodeList.childSequence_self _ _).symm, .inl rfl⟩
    · rintro ⟨empty, rfl | ⟨inside, -⟩⟩
      · rfl
      · obtain ⟨p, -, child⟩ := mem_descendants_iff_parent.mp inside
        rw [NodeList.childSequence_of_parent? (NodeList.mem_children.mp child)
          (Nat.ne_of_gt (later inside))] at empty
        simp at empty
  | append_singleton steps n ih =>
    have last : (steps ++ [n]).foldlM (childAt? d.nodes) top = some i
        ↔ ∃ p, steps.foldlM (childAt? d.nodes) top = some p ∧ childAt? d.nodes p n = some i := by
      simp [List.foldlM_append, Option.bind_eq_some_iff]
    rw [last]
    constructor
    · rintro ⟨p, down, step⟩
      obtain ⟨rfl, above⟩ := ih.mp down
      obtain ⟨child, element, rfl⟩ := childAt?_eq_some_iff.mp step
      have inside : i ∈ d.nodes.descendants top :=
        mem_descendants_iff_parent.mpr
          ⟨p, above.imp_right And.left, NodeList.mem_children.mpr child⟩
      exact ⟨(NodeList.childSequence_of_parent? child (Nat.ne_of_gt (later inside))).symm,
        .inr ⟨inside, element⟩⟩
    · rintro ⟨sequence, rfl | ⟨inside, element⟩⟩
      · rw [NodeList.childSequence_self] at sequence
        simp at sequence
      · obtain ⟨p, above, child⟩ := mem_descendants_iff_parent.mp inside
        rw [NodeList.mem_children] at child
        rw [NodeList.childSequence_of_parent? child (Nat.ne_of_gt (later inside))] at sequence
        obtain ⟨rfl, position⟩ := List.append_inj' sequence rfl
        refine ⟨p, ih.mpr ⟨rfl, above.imp_right fun within => ⟨within, ?_⟩⟩,
          childAt?_eq_some_iff.mpr ⟨child, element, List.singleton_inj.mp position⟩⟩
        exact NodeList.isElement_of_parent? child (Nat.ne_zero_of_lt (later within))

/-- One comes nowhere if at some node the next position is zero or too great. -/
theorem foldlM_childAt?_eq_none_iff (ns : NodeList) :
    steps.foldlM (childAt? ns) top = none
      ↔ ∃ before n after p, steps = before ++ n :: after
        ∧ before.foldlM (childAt? ns) top = some p
        ∧ (n = 0 ∨ (ns.elementChildren p).length < n) := by
  constructor
  · intro h
    induction steps generalizing top with
    | nil => cases h
    | cons n steps ih =>
      rw [List.foldlM_cons] at h
      cases child : childAt? ns top n with
      | none => exact ⟨[], n, steps, top, rfl, rfl, (childAt?_eq_none_iff ns).mp child⟩
      | some q =>
        rw [child] at h
        obtain ⟨before, m, after, p, rfl, down, stop⟩ := ih h
        refine ⟨n :: before, m, after, p, rfl, ?_, stop⟩
        rw [List.foldlM_cons, child]
        exact down
  · rintro ⟨before, n, after, p, rfl, down, stop⟩
    rw [List.foldlM_append, down]
    show (n :: after).foldlM (childAt? ns) p = none
    rw [List.foldlM_cons, (childAt?_eq_none_iff ns).mpr stop]
    rfl

/-- The positions by which one comes to a node are less than the number of nodes. -/
theorem lt_size_of_foldlM (h : steps.foldlM (childAt? d.nodes) top = some i) :
    ∀ n ∈ steps, n < d.size := by
  induction steps generalizing top with
  | nil => nofun
  | cons n steps ih =>
    rw [List.foldlM_cons] at h
    obtain ⟨p, child, down⟩ := Option.bind_eq_some_iff.mp h
    exact List.forall_mem_cons.mpr ⟨(bounds_of_childAt? child).2, ih down⟩

end

/-! ### Reading -/

/-- The data of the scheme for a pointer: `id/2/1` or `/1/3`. -/
def written (p : ElementPointer) : String :=
  String.ofList ((p.id.getD "").toList ++ p.steps.flatMap fun n => '/' :: (toString n).toList)

/-- A pointer that starts at an `xml:id` without slashes and white space, or goes down from the
document. -/
structure IsWritable (p : ElementPointer) : Prop where
  id : ∀ x, p.id = some x → x ≠ "" ∧ ∀ c ∈ x.toList, c ≠ '/' ∧ isSpace c = false
  steps : p.id = none → p.steps ≠ []

theorem isDigit_of_mem_toString {c : Char} {n : Nat} (h : c ∈ (toString n).toList) :
    c.isDigit = true := by
  have digits : (toString n).toList = Nat.toDigits 10 n := Nat.toList_repr
  rw [digits] at h
  exact Nat.isDigit_of_mem_toDigits (by decide) (by decide) h

/-- A number is read unless it is too great. -/
theorem readIndex?_toString (n : Nat) :
    readIndex? (toString n).toList = if n < indexLimit then some n else none := by
  split
  · next fits => exact readIndex?_eq_some_iff.mpr (writesIndex_toString fits)
  · next large =>
    cases read : readIndex? (toString n).toList with
    | none => rfl
    | some m =>
      have written := readIndex?_eq_some_iff.mp read
      have digits : (toString n).toList = Nat.toDigits 10 n := Nat.toList_repr
      have value := written.value
      rw [digits, Nat.ofDigitChars_toDigits (by decide) (by decide)] at value
      exact absurd (value ▸ written.fits) large

theorem pieces_steps (n : Nat) (steps : List Nat) :
    pieces '/' ((toString n).toList ++ steps.flatMap fun n => '/' :: (toString n).toList)
      = (n :: steps).map fun n => (toString n).toList := by
  have noSlash : ∀ n : Nat, '/' ∉ (toString n).toList :=
    fun n mem => ne_of_isDigit (isDigit_of_mem_toString mem) rfl rfl
  induction steps generalizing n with
  | nil => simpa using pieces_of_not_mem (noSlash n)
  | cons m steps ih =>
    rw [List.flatMap_cons, List.cons_append, pieces_append (noSlash n), ih m]
    rfl

theorem mapM_readIndex?_toString (steps : List Nat) :
    (steps.map fun n => (toString n).toList).mapM readIndex?
      = if ∀ n ∈ steps, n < indexLimit then some steps else none := by
  induction steps with
  | nil => rfl
  | cons n steps ih =>
    rw [List.map_cons, List.mapM_cons, readIndex?_toString, ih]
    simp only [List.forall_mem_cons]
    by_cases first : n < indexLimit
    · by_cases later : ∀ n ∈ steps, n < indexLimit
      · rw [if_pos first, if_pos later, if_pos ⟨first, later⟩]
        rfl
      · rw [if_pos first, if_neg later, if_neg fun h : _ ∧ _ => later h.2]
        rfl
    · rw [if_neg first, if_neg fun h : _ ∧ _ => first h.1]
      rfl

/-- **A pointer is read as it is written** if its positions are indices, and refused otherwise. -/
theorem read_written {p : ElementPointer} (h : p.IsWritable) :
    read p.written = if ∀ n ∈ p.steps, n < indexLimit then .ok p
      else .error (.malformedData "element" (.badPointer p.written)) := by
  obtain ⟨id, steps⟩ := p
  obtain ⟨plain, some_⟩ := h
  dsimp only at plain some_ ⊢
  have idChars : ∀ c ∈ (id.getD "").toList, c ≠ '/' ∧ isSpace c = false := by
    cases id with
    | none => nofun
    | some x => exact (plain x rfl).2
  -- There is no white space to be trimmed.
  have noSpace : ∀ c ∈ (written ⟨id, steps⟩).toList, isSpace c = false := by
    intro c mem
    simp only [written, String.toList_ofList, List.mem_append, List.mem_flatMap, List.mem_cons]
      at mem
    obtain inId | ⟨n, -, rfl | digit⟩ := mem
    · exact (idChars c inId).2
    · rfl
    · exact isSpace_of_isDigit (isDigit_of_mem_toString digit)
  -- The identifier goes up to the first slash, since it has none in it.
  have run : ∀ c ∈ (id.getD "").toList, decide (c ≠ '/') = true :=
    fun c mem => decide_eq_true (idChars c mem).1
  have behind : ∀ c ∈ (steps.flatMap fun n => '/' :: (toString n).toList).head?,
      decide (c ≠ '/') = false := by
    cases steps <;> simp
  have cut := takeWhile_dropWhile_of_run run behind
  have list : (written ⟨id, steps⟩).toList
      = (id.getD "").toList ++ steps.flatMap fun n => '/' :: (toString n).toList :=
    String.toList_ofList
  have nonempty : (written ⟨id, steps⟩).toList.isEmpty = false := by
    rw [list]
    cases id with
    | none =>
      obtain ⟨n, rest, rfl⟩ := List.exists_cons_of_ne_nil (some_ rfl)
      rfl
    | some x => simp [(plain x rfl).1]
  have start : (if (id.getD "").toList.isEmpty then none
      else some (String.ofList (id.getD "").toList)) = id := by
    cases id with
    | none => rfl
    | some x => simp [(plain x rfl).1]
  rw [read, trim_eq_self noSpace]
  simp only [nonempty, Bool.false_eq_true, if_false, String.ofList_toList]
  rw [list, cut.1, cut.2, start]
  cases steps with
  | nil => simp
  | cons n steps =>
    rw [List.flatMap_cons, List.cons_append]
    dsimp only
    rw [pieces_steps, mapM_readIndex?_toString]
    by_cases fits : ∀ m ∈ n :: steps, m < indexLimit
    · rw [if_pos fits, if_pos fits]
    · rw [if_neg fits, if_neg fits]

/-! ### Addresses -/

section

variable {d : Document} {i top : Nat} {id : Option String} {steps : List Nat}

/-- The node at which a pointer starts. -/
def StartsAt (d : Document) : Option String → Nat → Prop
  | some x, top => d.nodes.IsFirstWithId x top
  | none, top => top = 0

/-- A pointer points to a node, and is read as it is written.  A position is less than the number of
nodes, so all are indices unless there are more nodes than indices. -/
def Finds (p : ElementPointer) (d : Document) (i : Nat) : Prop :=
  p.locate? d.nodes = some i ∧ (d.size ≤ indexLimit → read p.written = .ok p)

/-- A pointer is read as it is written, and points to nothing. -/
def FindsNothing (p : ElementPointer) (d : Document) : Prop :=
  read p.written = .ok p ∧ p.locate? d.nodes = none

theorem locate?_eq (start : StartsAt d id top) (steps : List Nat) :
    (⟨id, steps⟩ : ElementPointer).locate? d.nodes = steps.foldlM (childAt? d.nodes) top := by
  cases id with
  | none =>
    obtain rfl : top = 0 := start
    rfl
  | some x =>
    rw [locate?]
    dsimp only
    rw [NodeList.elementWithId?_eq_some_iff.mpr start]
    rfl

/-- The child sequence of an element, from the node at which the pointer starts. -/
theorem finds_childSequence (start : StartsAt d id top)
    (plain : ∀ x, id = some x → x ≠ "" ∧ ∀ c ∈ x.toList, c ≠ '/' ∧ isSpace c = false)
    (below : id = none → i ≠ top)
    (inside : i = top ∨ i ∈ d.nodes.descendants top ∧ d.nodes.isElement i = true) :
    Finds ⟨id, d.nodes.childSequence top i⟩ d i := by
  have down : (d.nodes.childSequence top i).foldlM (childAt? d.nodes) top = some i :=
    foldlM_childAt?_eq_some_iff.mpr ⟨rfl, inside⟩
  refine ⟨(locate?_eq start _).trans down, fun fits => ?_⟩
  have writable : IsWritable ⟨id, d.nodes.childSequence top i⟩ := by
    refine ⟨plain, fun none_ empty => below none_ ?_⟩
    rw [show d.nodes.childSequence top i = [] from empty] at down
    exact (Option.some.inj down).symm
  rw [read_written writable,
    if_pos fun n mem => Nat.lt_of_lt_of_le (lt_size_of_foldlM down n mem) fits]

/-- A sequence that is not that of an element leads nowhere. -/
theorem foldlM_childAt?_eq_none (some_ : steps ≠ [])
    (other : ∀ e, d.nodes.isElement e = true → steps ≠ d.nodes.childSequence 0 e) :
    steps.foldlM (childAt? d.nodes) 0 = none := by
  by_contra found
  obtain ⟨i, down⟩ := Option.ne_none_iff_exists'.mp found
  obtain ⟨rfl, rfl | ⟨-, element⟩⟩ := foldlM_childAt?_eq_some_iff.mp down
  · exact some_ (NodeList.childSequence_self _ _)
  · exact other i element rfl

/-- **Each element has a child sequence of its own, and no other sequence leads anywhere.**  Any
other one comes to a node where the next position is zero or too great; it points to nothing, or is
refused if some position is no index. -/
theorem child_sequences_address_elements (d : Document) :
    let ns := d.nodes
    (∀ e, ns.isElement e = true → Finds ⟨none, ns.childSequence 0 e⟩ d e)
    ∧ (∀ e e', ns.isElement e = true → ns.isElement e' = true →
        ns.childSequence 0 e = ns.childSequence 0 e' → e = e')
    ∧ (∀ steps, steps ≠ [] → (∀ e, ns.isElement e = true → steps ≠ ns.childSequence 0 e) →
        let p : ElementPointer := ⟨none, steps⟩
        (∃ before n after stop, steps = before ++ n :: after
          ∧ (⟨none, before⟩ : ElementPointer).locate? ns = some stop
          ∧ (n = 0 ∨ (ns.elementChildren stop).length < n))
        ∧ ((∀ n ∈ steps, n < indexLimit) → p.FindsNothing d)
        ∧ ∀ n ∈ steps, indexLimit ≤ n →
          read p.written = .error (.malformedData "element" (.badPointer p.written)))
    ∧ ∀ f x, ns.IsFirstWithId x f → x ≠ "" → (∀ c ∈ x.toList, c ≠ '/' ∧ isSpace c = false) →
        ∀ e, ns.isElement e = true → e = f ∨ e ∈ ns.descendants f →
          Finds ⟨some x, ns.childSequence f e⟩ d e := by
  intro ns
  refine ⟨fun e element => ?_, fun e e' element element' same => ?_,
    fun steps some_ other => ?_, fun f x first nonempty plain e element inside => ?_⟩
  · have inside := NodeList.inside_document element
    exact finds_childSequence rfl nofun
      (fun _ => Nat.ne_of_gt (NodeList.mem_descendants.mp inside).1) (.inr ⟨inside, element⟩)
  · -- Going down by the sequence that they share one comes to both.
    have down := foldlM_childAt?_eq_some_iff.mpr
      ⟨rfl, .inr ⟨NodeList.inside_document element, element⟩⟩
    have down' := foldlM_childAt?_eq_some_iff.mpr
      ⟨same, .inr ⟨NodeList.inside_document element', element'⟩⟩
    exact Option.some.inj (down.symm.trans down')
  · have nowhere := foldlM_childAt?_eq_none some_ other
    have writable : IsWritable ⟨none, steps⟩ := ⟨nofun, fun _ => some_⟩
    refine ⟨(foldlM_childAt?_eq_none_iff ns).mp nowhere,
      fun fits => ⟨(read_written writable).trans (if_pos fits), nowhere⟩, fun n mem large => ?_⟩
    exact (read_written writable).trans
      (if_neg fun fits => absurd (fits n mem) (Nat.not_lt.mpr large))
  · exact finds_childSequence first (fun y hy => Option.some.inj hy ▸ ⟨nonempty, plain⟩) nofun
      (inside.imp_right fun within => ⟨within, element⟩)

end

end ElementPointer

/-- `<a>s<b xml:id="i"/><!--c--><b xml:id="j"><c/><d/></b></a>` -/
def tieredPage : Document :=
  let b (id : String) : Element := ⟨.plain "b", .ofList [(.xml "id", id)], .empty, none⟩
  ⟨none, .element (.ofName (.plain "a")) (.leaf (.text "s") (.element (b "i") .nil
    (.leaf (.comment "c") (.element (b "j") (.element (.ofName (.plain "c")) .nil
      (.element (.ofName (.plain "d")) .nil .nil)) .nil)))) .nil⟩

namespace ElementPointer

/-- The last element by `/1/2/2` and by `j/2`, and no element by `/1/0`. -/
theorem child_sequences_address_elements_tieredPage :
    Finds ⟨none, [1, 2, 2]⟩ tieredPage 7 ∧ Finds ⟨some "j", [2]⟩ tieredPage 7
      ∧ FindsNothing ⟨none, [1, 0]⟩ tieredPage := by
  obtain ⟨located, -, others, byId⟩ := child_sequences_address_elements tieredPage
  have first : tieredPage.nodes.IsFirstWithId "j" 5 := ⟨by decide +kernel, by decide +kernel⟩
  have whole : tieredPage.nodes.childSequence 0 7 = [1, 2, 2] := by decide +kernel
  have relative : tieredPage.nodes.childSequence 5 7 = [2] := by decide +kernel
  have zero : (⟨none, [1, 0]⟩ : ElementPointer).locate? tieredPage.nodes = none := by
    decide +kernel
  have plain : ∀ c ∈ "j".toList, c ≠ '/' ∧ isSpace c = false :=
    List.all_iff_forall_prop.mp (by decide)
  refine ⟨whole ▸ located 7 (by decide +kernel), relative ▸ byId 5 "j" first (by decide) plain 7
    (by decide +kernel) (.inr (by decide +kernel)), ?_⟩
  refine (others [1, 0] (by decide) ?_).2.1 (by decide)
  rintro e element same
  have found := (located e element).1
  rw [← same, zero] at found
  cases found

/-- A position that is no index is greater than the number of children, but it is refused. -/
theorem refuses_position_of_indexLimit :
    read "/18446744073709551616"
        = .error (.malformedData "element" (.badPointer "/18446744073709551616"))
      ∧ ¬∀ steps, steps ≠ [] →
        (∀ e, tieredPage.nodes.isElement e = true → steps ≠ tieredPage.nodes.childSequence 0 e) →
          FindsNothing ⟨none, steps⟩ tieredPage := by
  have refused : read "/18446744073709551616"
      = .error (.malformedData "element" (.badPointer "/18446744073709551616")) := by
    decide +kernel
  refine ⟨refused, fun all => ?_⟩
  have written : (⟨none, [indexLimit]⟩ : ElementPointer).written = "/18446744073709551616" := by
    decide +kernel
  have nowhere : (⟨none, [indexLimit]⟩ : ElementPointer).locate? tieredPage.nodes = none := by
    decide +kernel
  have accepted := (all [indexLimit] (by decide) fun e element same => ?_).1
  · rw [written, refused] at accepted
    cases accepted
  · have down := foldlM_childAt?_eq_some_iff.mpr
      ⟨same, .inr ⟨NodeList.inside_document element, element⟩⟩
    cases down.symm.trans nowhere

end ElementPointer

end Transclusion
