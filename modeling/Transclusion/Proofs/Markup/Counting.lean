import Mathlib.Algebra.BigOperators.Intervals
import Mathlib.Algebra.Order.BigOperators.Group.Finset
import Transclusion.Proofs.Markup.Numbering
/-!
# Counting names

How many names of a sort there are in a subtree is a sum over the numbers of its nodes
(`Document.countP_namesAt`).  Therefore subtrees of which none is inside another have no more of
them together than the document, and fewer if they leave one out (`Document.countP_namesAt_lt`).
-/

namespace Transclusion

/-- How many elements of a slice of a list have a property, as a sum over the places. -/
theorem countP_slice {α : Type} (p : α → Bool) (l : List α) (i n : Nat) :
    ((l.drop i).take n).countP p
      = ∑ j ∈ Finset.Ico i (i + n), if (l[j]?).any p then 1 else 0 := by
  induction n with
  | zero => simp
  | succ n ih =>
    have hlast : ((l.drop i)[n]?).toList.countP p = if (l[i + n]?).any p then 1 else 0 := by
      rw [List.getElem?_drop]
      cases l[i + n]? with
      | none => rfl
      | some a => cases h : p a <;> simp [h]
    rw [List.take_add_one, List.countP_append, ih, hlast, ← Nat.add_assoc,
      Finset.sum_Ico_succ_top (Nat.le_add_right i n)]

/-- Sums over disjoint parts of a set are at most the sum over the set. -/
theorem sum_parts_le {ι : Type} (w : Nat → Nat) (part : ι → Finset Nat) (is : List ι)
    (whole : Finset Nat) (disjoint : is.Pairwise fun i j => Disjoint (part i) (part j))
    (hpart : ∀ i ∈ is, part i ⊆ whole) :
    (is.map fun i => ∑ j ∈ part i, w j).sum ≤ ∑ j ∈ whole, w j := by
  induction is generalizing whole with
  | nil => exact Nat.zero_le _
  | cons i is ih =>
    obtain ⟨hfirst, hrest⟩ := List.pairwise_cons.mp disjoint
    have hi := hpart i List.mem_cons_self
    have hremaining : ∀ k ∈ is, part k ⊆ whole \ part i := by
      intro k hk
      refine Finset.subset_sdiff.mpr ⟨hpart k (List.mem_cons_of_mem i hk), ?_⟩
      exact (hfirst k hk).symm
    -- The other parts fit in what the first one leaves of the whole.
    have hle := ih (whole \ part i) hrest hremaining
    have hsplit := Finset.sum_sdiff (f := w) hi
    rw [List.map_cons, List.sum_cons]
    omega

/-! ### Subtrees -/

/-- Neither of two nodes is inside the other, nor are they the same. -/
def NodeList.Apart (ns : NodeList) (i j : Nat) : Prop :=
  i + ns.extent i ≤ j ∨ j + ns.extent j ≤ i

namespace Document

/-- The names of the elements in the subtree of a node, the node itself included. -/
def namesAt (d : Document) (i : Nat) : List QName :=
  ((d.subtree? i).map (·.toForest.names)).getD []

variable {d : Document} {i : Nat}

theorem names_toForest {t : Subtree} (h : d.subtree? i = some t) :
    t.toForest.names = ((d.nodeList.drop i).take t.size).filterMap Node.name? := by
  obtain ⟨q, after, hdrop⟩ := drop_nodeList h
  have hslice : (d.nodeList.drop i).take t.size
      = ⟨t.kind, q, t.size⟩ :: t.content.nodes i (i + 1) := by
    rw [hdrop, List.take_left']
    rw [List.length_cons, Forest.length_nodes, Subtree.size]
  rw [hslice]
  cases t with
  | document d' =>
    rw [List.filterMap_cons_none rfl]
    exact Forest.names_eq_filterMap i (i + 1) d'.content
  | element e content =>
    show e.name :: (content.names ++ []) = e.name :: (content.nodes i (i + 1)).filterMap Node.name?
    rw [← Forest.names_eq_filterMap i (i + 1), List.append_nil]
  | leaf l =>
    rw [List.filterMap_cons_none rfl]
    exact Forest.names_consLeaf l .nil

theorem namesAt_eq_slice (d : Document) (i : Nat) :
    d.namesAt i = ((d.nodeList.drop i).take (d.nodes.extent i)).filterMap Node.name? := by
  rw [namesAt]
  cases h : d.subtree? i with
  | none =>
    rw [extent_eq_zero (subtree?_eq_none_iff.mp h)]
    rfl
  | some t =>
    rw [extent_eq h, ← names_toForest h]
    rfl

/-- The names in a subtree are among those of the document. -/
theorem mem_names_of_mem_namesAt {name : QName} (h : name ∈ d.namesAt i) :
    name ∈ d.content.names := by
  rw [namesAt_eq_slice] at h
  obtain ⟨n, hn, hname⟩ := List.mem_filterMap.mp h
  have hmem := List.mem_of_mem_drop (List.mem_of_mem_take hn)
  rw [Forest.names_eq_filterMap 0 1, List.mem_filterMap]
  obtain rfl | hmem := List.mem_cons.mp hmem
  · cases hname
  · exact ⟨n, hmem, hname⟩

/-- Whether the node with a number has a name of a sort, as a number. -/
def weight (d : Document) (c : QName → Bool) (j : Nat) : Nat :=
  if ((d.nodeList[j]?).any fun n => n.name?.any c) then 1 else 0

theorem countP_namesAt (d : Document) (c : QName → Bool) (i : Nat) :
    (d.namesAt i).countP c = ∑ j ∈ Finset.Ico i (i + d.nodes.extent i), d.weight c j := by
  have hname : (fun n : Node => (n.name?.map c).getD false) = fun n => n.name?.any c := by
    funext n
    cases n.name? <;> rfl
  rw [namesAt_eq_slice, List.countP_filterMap, hname, countP_slice]
  rfl

theorem countP_names (d : Document) (c : QName → Bool) :
    d.content.names.countP c = ∑ j ∈ Finset.range d.size, d.weight c j := by
  have hroot : d.subtree? 0 = some (.document d) := rfl
  have hall := d.countP_namesAt c 0
  rw [extent_eq hroot, Nat.zero_add, ← Finset.range_eq_Ico] at hall
  exact hall

/-- Subtrees that are apart from each other and leave out an element have fewer names of a sort
together than the document has, if the name of that element is of the sort. -/
theorem countP_namesAt_lt {c : QName → Bool} {is : List Nat} {id : Nat} {e : Element}
    (he : d.nodes.element? id = some e) (hc : c e.name) (apart : is.Pairwise d.nodes.Apart)
    (outside : ∀ i ∈ is, ¬ (i ≤ id ∧ id < i + d.nodes.extent i)) :
    (is.flatMap d.namesAt).countP c < d.content.names.countP c := by
  obtain ⟨n, hn, hkind⟩ := NodeList.element?_eq_some_iff.mp he
  rw [nodes_getElem?] at hn
  have hid : id ∈ Finset.range d.size := by
    rw [Finset.mem_range, ← length_nodeList]
    exact (List.getElem?_eq_some_iff.mp hn).1
  have hweight : d.weight c id = 1 := by
    simp [weight, hn, Node.name?, hkind, hc]
  -- The subtrees are parts of the document without the node `id`, which has weight one.
  have hparts := sum_parts_le (d.weight c) (fun i => Finset.Ico i (i + d.nodes.extent i)) is
    ((Finset.range d.size).erase id) (apart.imp ?_) ?_
  · have hall := Finset.add_sum_erase _ (d.weight c) hid
    have heach : (List.map (fun i => (d.namesAt i).countP c) is)
        = is.map fun i => ∑ j ∈ Finset.Ico i (i + d.nodes.extent i), d.weight c j :=
      List.map_congr_left fun i _ => d.countP_namesAt c i
    rw [List.countP_flatMap, countP_names, Function.comp_def, heach]
    omega
  · intro i j hij
    rw [Finset.disjoint_left]
    intro k hk hk'
    rw [Finset.mem_Ico] at hk hk'
    rw [NodeList.Apart] at hij
    omega
  · intro i hi k hk
    rw [Finset.mem_Ico] at hk
    rw [Finset.mem_erase, Finset.mem_range]
    have hne : k ≠ id := by
      rintro rfl
      exact outside i hi hk
    refine ⟨hne, ?_⟩
    cases ht : d.subtree? i with
    | none =>
      rw [extent_eq_zero (subtree?_eq_none_iff.mp ht)] at hk
      omega
    | some t =>
      rw [extent_eq ht] at hk
      have hle := extent_le ht
      omega

end Document

end Transclusion
