import Transclusion.Proofs.XPath.LinkedAxes
/-!
# Axes partition the tree

From every node the axes `self`, `ancestor`, `descendant`, `preceding` and `following` together list
each node of the document once (`partition_of_node`).  From an attribute the node that has it, the
ancestors of that node, and the axes `preceding` and `following` do the same
(`partition_of_attribute`): what is inside the node comes after the attribute.

All of this is seen from the numbers: a node ends where its extent ends, an ancestor ends no earlier
than what is inside it, and a node before another one is its ancestor exactly if it has not ended
there.

* `inAxisOrder_axisNodes`: every axis lists its nodes in document order or, if it is a reverse axis,
  in the opposite order, and so none of them twice.
* `areConverse_following` and its like: axes that lead back.
-/

namespace Transclusion.XPath

open NodeRef (node attribute_)

variable {d : Document} {i j : Nat}

/-! ### Numbers on an axis -/

theorem mem_ancestor :
    j ∈ nodesFrom d.nodes i .ancestor ↔ j < i ∧ i < j + d.nodes.extent j :=
  NodeList.mem_ancestors_iff.trans NodeList.mem_descendants

theorem mem_preceding :
    j ∈ nodesFrom d.nodes i .preceding ↔ j < i ∧ j + d.nodes.extent j ≤ i := by
  show j ∈ ((List.range i).filter (!(d.nodes.ancestors i).contains ·)).reverse ↔ _
  rw [List.mem_reverse, List.mem_filter, List.mem_range, Bool.not_eq_true', ← Bool.not_eq_true,
    List.contains_iff_mem, NodeList.mem_ancestors_iff, NodeList.mem_descendants]
  omega

theorem mem_following (here : i < d.nodes.size) :
    j ∈ nodesFrom d.nodes i .following ↔ i + d.nodes.extent i ≤ j ∧ j < d.nodes.size := by
  have within := NodeList.add_extent_le here
  show j ∈ List.range' _ _ ↔ _
  rw [List.mem_range'_1]
  omega

theorem mem_siblings : j ∈ siblings d.nodes i ↔ ∃ p, d.nodes.parent? i = some p
    ∧ d.nodes.parent? j = some p := by
  rw [siblings]
  cases h : d.nodes.parent? i with
  | none => simp
  | some p => simp [NodeList.mem_children]

theorem mem_siblings_comm : j ∈ siblings d.nodes i ↔ i ∈ siblings d.nodes j := by
  rw [mem_siblings, mem_siblings]
  exact exists_congr fun p => and_comm

/-! ### The order of an axis -/

theorem pairwise_ancestors (d : Document) (i : Nat) :
    (d.nodes.ancestors i).Pairwise (· > ·) := by
  induction i using Nat.strongRecOn with
  | ind i ih =>
    rw [NodeList.ancestors]
    cases hp : d.nodes.parent? i with
    | none => exact .nil
    | some p =>
      have before := (NodeList.inside_of_parent? hp).1
      dsimp only
      rw [if_pos before]
      refine .cons (fun q hq => ?_) (ih p before)
      exact (mem_ancestor.mp hq).1

theorem lt_of_mem_ancestors_self (h : j ∈ d.nodes.ancestors i) : j < i :=
  (mem_ancestor.mp h).1

/-- Numbers in the order of an axis. -/
def Ordered (axis : Axis) : List Nat → Prop :=
  List.Pairwise fun i j => if axis.isReverse then j < i else i < j

theorem pairwise_siblings (d : Document) (i : Nat) :
    (siblings d.nodes i).Pairwise (· < ·) := by
  rw [siblings]
  split
  · exact NodeList.pairwise_children d.nodes _
  · exact .nil

theorem pairwise_reverse_filter {l : List Nat} (ascending : l.Pairwise (· < ·)) (p : Nat → Bool) :
    (l.filter p).reverse.Pairwise (· > ·) :=
  List.pairwise_reverse.mpr (ascending.filter p)

theorem ordered_nodesFrom (d : Document) (i : Nat) (axis : Axis) :
    Ordered axis (nodesFrom d.nodes i axis) := by
  cases axis with
  | self => exact List.pairwise_singleton _ i
  | child => exact NodeList.pairwise_children d.nodes i
  | descendant => exact List.pairwise_lt_range'
  | descendantOrSelf =>
    refine .cons (fun j hj => ?_) List.pairwise_lt_range'
    exact (NodeList.mem_descendants.mp hj).1
  | parent =>
    show (d.nodes.parent? i).toList.Pairwise _
    cases d.nodes.parent? i with
    | none => exact .nil
    | some p => exact List.pairwise_singleton _ p
  | ancestor => exact pairwise_ancestors d i
  | ancestorOrSelf =>
    exact .cons (fun j hj => lt_of_mem_ancestors_self hj) (pairwise_ancestors d i)
  | followingSibling => exact (pairwise_siblings d i).filter _
  | precedingSibling => exact pairwise_reverse_filter (pairwise_siblings d i) _
  | following => exact List.pairwise_lt_range'
  | preceding => exact pairwise_reverse_filter List.pairwise_lt_range _
  | attribute_ | namespace_ => exact .nil

theorem ordered_nodesFromAttribute (d : Document) (i : Nat) (axis : Axis) :
    Ordered axis (nodesFromAttribute d.nodes i axis) := by
  cases axis with
  | parent => exact List.pairwise_singleton _ i
  | ancestor | ancestorOrSelf =>
    exact .cons (fun j hj => lt_of_mem_ancestors_self hj) (pairwise_ancestors d i)
  | following => exact List.pairwise_lt_range'
  | preceding => exact ordered_nodesFrom d i .preceding
  | _ => exact .nil

/-- Nodes and attributes in the order of an axis: in document order, or backwards. -/
def InAxisOrder (axis : Axis) : List NodeRef → Prop :=
  List.Pairwise fun a b => if axis.isReverse then b.before a else a.before b

theorem inAxisOrder_map_node {axis : Axis} {ids : List Nat} (h : Ordered axis ids) :
    InAxisOrder axis (ids.map node) := by
  refine List.pairwise_map.mpr (h.imp fun {i j} order => ?_)
  cases hrev : axis.isReverse <;> simp only [hrev, if_true] at order ⊢ <;>
    exact NodeRef.before_iff.mpr (.inl order)

/-- Every axis lists its nodes and attributes in its own order. -/
theorem inAxisOrder_axisNodes (d : Document) (axis : Axis) (r : NodeRef) :
    InAxisOrder axis (axisNodes d.nodes axis r) := by
  cases r with
  | node i =>
    by_cases attributes : axis = .attribute_
    · subst attributes
      rw [axisNodes]
      cases d.nodes.element? i with
      | none => exact .nil
      | some e =>
        refine List.pairwise_map.mpr (List.pairwise_lt_range.imp fun {k m} less => ?_)
        exact NodeRef.before_iff.mpr (.inr ⟨rfl, Nat.succ_lt_succ less⟩)
    · rw [axisNodes_node attributes]
      exact inAxisOrder_map_node (ordered_nodesFrom d i axis)
  | attribute_ i k =>
    have others := inAxisOrder_map_node (ordered_nodesFromAttribute d i axis)
    cases axis with
    | self | descendantOrSelf => exact List.pairwise_singleton _ _
    | ancestorOrSelf =>
      -- The attribute comes after its element, and that after its ancestors.
      refine .cons (fun b hb => ?_) others
      obtain ⟨j, hj, rfl⟩ := List.mem_map.mp hb
      refine NodeRef.before_iff.mpr ?_
      obtain rfl | above := List.mem_cons.mp hj
      · exact .inr ⟨rfl, Nat.succ_pos k⟩
      · exact .inl (lt_of_mem_ancestors_self above)
    | _ => exact others

theorem InAxisOrder.nodup {axis : Axis} {refs : List NodeRef} (h : InAxisOrder axis refs) :
    refs.Nodup := by
  refine h.imp fun {a b} order same => ?_
  subst same
  cases hrev : axis.isReverse <;> simp only [hrev, if_true] at order <;>
    exact NodeRef.before_irrefl order

/-! ### Axes that lead back -/

/-- What is on the one axis from a node has that node on the other axis. -/
def AreConverse (ns : NodeList) (axis axis' : Axis) : Prop :=
  ∀ i j, i < ns.size → j < ns.size →
    (node j ∈ axisNodes ns axis (node i) ↔ node i ∈ axisNodes ns axis' (node j))

theorem mem_axisNodes {axis : Axis} (other : axis ≠ .attribute_) :
    node j ∈ axisNodes d.nodes axis (node i) ↔ j ∈ nodesFrom d.nodes i axis := by
  rw [axisNodes_node other, List.mem_map]
  constructor
  · rintro ⟨k, hk, same⟩
    cases same
    exact hk
  · intro h
    exact ⟨j, h, rfl⟩

theorem areConverse_of_numbers {axis axis' : Axis} (other : axis ≠ .attribute_)
    (other' : axis' ≠ .attribute_)
    (h : ∀ i j, i < d.nodes.size → j < d.nodes.size →
      (j ∈ nodesFrom d.nodes i axis ↔ i ∈ nodesFrom d.nodes j axis')) :
    AreConverse d.nodes axis axis' := by
  intro i j hi hj
  rw [mem_axisNodes other, mem_axisNodes other']
  exact h i j hi hj

theorem areConverse_following (d : Document) : AreConverse d.nodes .preceding .following := by
  refine areConverse_of_numbers (by decide) (by decide) fun i j hi hj => ?_
  have pos := Document.extent_pos (d.size_nodes ▸ hj)
  rw [mem_preceding, mem_following hj]
  omega

theorem areConverse_descendant (d : Document) : AreConverse d.nodes .ancestor .descendant :=
  areConverse_of_numbers (by decide) (by decide) fun _ _ _ _ => NodeList.mem_ancestors_iff

theorem areConverse_child (d : Document) : AreConverse d.nodes .parent .child := by
  refine areConverse_of_numbers (by decide) (by decide) fun i j _ _ => ?_
  show j ∈ (d.nodes.parent? i).toList ↔ i ∈ d.nodes.children j
  rw [Option.mem_toList, NodeList.mem_children]

theorem areConverse_followingSibling (d : Document) :
    AreConverse d.nodes .precedingSibling .followingSibling := by
  refine areConverse_of_numbers (by decide) (by decide) fun i j _ _ => ?_
  show j ∈ ((siblings d.nodes i).filter (· < i)).reverse ↔ i ∈ (siblings d.nodes j).filter (j < ·)
  rw [List.mem_reverse, List.mem_filter, List.mem_filter, mem_siblings_comm]

/-! ### Partitions -/

/-- These lists have each node of the document once, and nothing else. -/
def Partitions (ns : NodeList) (lists : List (List NodeRef)) : Prop :=
  lists.flatten.Perm (ns.numbers.map node)

theorem partitions_of_numbers {ns : NodeList} (lists : List (List Nat))
    (nodup : ∀ l ∈ lists, l.Nodup) (disjoint : lists.Pairwise List.Disjoint)
    (all : ∀ j, (∃ l ∈ lists, j ∈ l) ↔ j < ns.size) :
    Partitions ns (lists.map (·.map node)) := by
  rw [Partitions, ← List.map_flatten]
  refine List.Perm.map node ((List.perm_ext_iff_of_nodup ?_ List.nodup_range).mpr fun j => ?_)
  · exact List.nodup_flatten.mpr ⟨nodup, disjoint⟩
  · rw [List.mem_flatten, all, List.mem_range]

theorem Ordered.nodup {axis : Axis} {ids : List Nat} (h : Ordered axis ids) : ids.Nodup := by
  refine h.imp fun {i j} order same => ?_
  subst same
  cases hrev : axis.isReverse <;> simp [hrev] at order

/-- **From a node, five axes list each node once.** -/
theorem partition_of_node (here : i < d.nodes.size) :
    Partitions d.nodes ([.self, .ancestor, .descendant, .preceding, .following].map
      (axisNodes d.nodes · (node i))) := by
  have ancestor := fun j => mem_ancestor (d := d) (i := i) (j := j)
  have descendant : ∀ j, j ∈ nodesFrom d.nodes i .descendant
      ↔ i < j ∧ j < i + d.nodes.extent i := fun j => NodeList.mem_descendants
  have preceding := fun j => mem_preceding (d := d) (i := i) (j := j)
  have following := fun j => mem_following (j := j) here
  have self : ∀ j, j ∈ nodesFrom d.nodes i .self ↔ j = i := fun j => List.mem_singleton
  have pos := Document.extent_pos (d.size_nodes ▸ here)
  have within := NodeList.add_extent_le here
  -- What axis a number is on is seen from where it is, and from where its node ends.
  refine partitions_of_numbers ([.self, .ancestor, .descendant, .preceding, .following].map
    (nodesFrom d.nodes i)) ?_ ?_ ?_
  · intro l hl
    obtain ⟨axis, -, rfl⟩ := List.mem_map.mp hl
    exact (ordered_nodesFrom d i axis).nodup
  · simp only [List.map_cons, List.map_nil, List.pairwise_cons, List.mem_cons, List.not_mem_nil,
      or_false, forall_eq_or_imp, forall_eq, List.Disjoint, self, ancestor, descendant, preceding,
      following, IsEmpty.forall_iff, implies_true, List.Pairwise.nil, and_true]
    and_intros <;> intro j <;> omega
  · intro j
    simp only [List.map_cons, List.map_nil, List.mem_cons, List.not_mem_nil, or_false,
      exists_eq_or_imp, exists_eq_left, self, ancestor, descendant, preceding, following]
    omega

/-- **From an attribute, its owner and what is around it list each node once.** -/
theorem partition_of_attribute (here : i < d.nodes.size) (k : Nat) :
    Partitions d.nodes [axisNodes d.nodes .parent (attribute_ i k),
      axisNodes d.nodes .ancestor (node i), axisNodes d.nodes .preceding (attribute_ i k),
      axisNodes d.nodes .following (attribute_ i k)] := by
  have ancestor := fun j => mem_ancestor (d := d) (i := i) (j := j)
  have preceding := fun j => mem_preceding (d := d) (i := i) (j := j)
  have following : ∀ j, j ∈ nodesFromAttribute d.nodes i .following
      ↔ i < j ∧ j < d.nodes.size := by
    intro j
    show j ∈ List.range' _ _ ↔ _
    rw [List.mem_range'_1]
    omega
  have owner : ∀ j, j ∈ [i] ↔ j = i := fun j => List.mem_singleton
  refine partitions_of_numbers [[i], nodesFrom d.nodes i .ancestor,
    nodesFrom d.nodes i .preceding, nodesFromAttribute d.nodes i .following] ?_ ?_ ?_
  · intro l hl
    simp only [List.mem_cons, List.not_mem_nil, or_false] at hl
    obtain rfl | rfl | rfl | rfl := hl
    · exact List.nodup_singleton i
    · exact (ordered_nodesFrom d i .ancestor).nodup
    · exact (ordered_nodesFrom d i .preceding).nodup
    · exact (ordered_nodesFromAttribute d i .following).nodup
  · -- Each axis is an interval of numbers, or the part of one that holds or lacks the ancestors.
    simp only [List.pairwise_cons, List.mem_cons, List.not_mem_nil, or_false, forall_eq_or_imp,
      forall_eq, List.Disjoint, owner, ancestor, preceding, following,
      IsEmpty.forall_iff, implies_true, List.Pairwise.nil, and_true]
    and_intros <;> intro j <;> omega
  · intro j
    simp only [List.mem_cons, List.not_mem_nil, or_false, exists_eq_or_imp, exists_eq_left, owner,
      ancestor, preceding, following]
    omega

/-! ### All axes -/

/-- A step takes its candidates from its axis; the axis of namespaces is refused. -/
theorem candidates_node (env : Environment) (axis : Axis) (r : NodeRef) :
    candidates env axis .node r
      = if axis = .namespace_ then .error .namespaceAxis else .ok (axisNodes env.nodes axis r) := by
  rw [candidates]
  have all : (axisNodes env.nodes axis r).filter (ResolvedTest.accepts env.nodes axis · .node)
      = axisNodes env.nodes axis r := List.filter_eq_self.mpr fun _ _ => rfl
  rw [all]

/-- **Axes partition the tree.**  From every node, and from every attribute, the axes that the tree
is divided into list each node once; opposite axes lead back; every axis lists its nodes in its own
order, and they are the ones that are found along the links of the tree. -/
theorem axes_partition (d : Document) :
    (∀ i < d.nodes.size, Partitions d.nodes
      ([.self, .ancestor, .descendant, .preceding, .following].map
        (axisNodes d.nodes · (node i))))
    ∧ (∀ i k, (attribute_ i k).ExistsIn d.nodes →
      axisNodes d.nodes .parent (attribute_ i k) = [node i]
      ∧ Partitions d.nodes [axisNodes d.nodes .parent (attribute_ i k),
        axisNodes d.nodes .ancestor (node i), axisNodes d.nodes .preceding (attribute_ i k),
        axisNodes d.nodes .following (attribute_ i k)])
    ∧ (AreConverse d.nodes .preceding .following ∧ AreConverse d.nodes .ancestor .descendant
      ∧ AreConverse d.nodes .parent .child
      ∧ AreConverse d.nodes .precedingSibling .followingSibling)
    ∧ (∀ r axis, r.ExistsIn d.nodes →
      InAxisOrder axis (axisNodes d.nodes axis r) ∧ (axisNodes d.nodes axis r).Nodup
      ∧ (∀ bindings, candidates ⟨d.nodes, bindings⟩ axis .node r
        = if axis = .namespace_ then .error .namespaceAxis else .ok (axisNodes d.nodes axis r))
      ∧ (axis ≠ .namespace_ → ∀ refs, d.arena.Lists axis r refs
        ↔ refs = axisNodes d.nodes axis r)) := by
  refine ⟨fun i here => partition_of_node here, fun i k here => ⟨rfl, ?_⟩, ?_,
    fun r axis here => ⟨?_, ?_, fun bindings => ?_, fun other refs => ?_⟩⟩
  · exact partition_of_attribute here.owner_lt k
  · exact ⟨areConverse_following d, areConverse_descendant d, areConverse_child d,
      areConverse_followingSibling d⟩
  · exact inAxisOrder_axisNodes d axis r
  · exact (inAxisOrder_axisNodes d axis r).nodup
  · exact candidates_node ⟨d.nodes, bindings⟩ axis r
  · exact lists_iff here other

/-- `<a>s<b x="1"><c/></b>t</a>` -/
def sectionedPage : Document :=
  let b : Element := ⟨.plain "b", .ofList [(.plain "x", "1")], .empty, none⟩
  ⟨none, .element (.ofName (.plain "a")) (.leaf (.text "s")
    (.element b (.element (.ofName (.plain "c")) .nil .nil) (.leaf (.text "t") .nil))) .nil⟩

/-- Around the element in the middle, and around its attribute. -/
theorem axes_partition_sectionedPage :
    let ns := sectionedPage.nodes
    Partitions ns [[node 3], [node 1, node 0], [node 4], [node 2], [node 5]]
      ∧ Partitions ns [[node 3], [node 1, node 0], [node 2], [node 4, node 5]]
      ∧ (node 2 ∈ axisNodes ns .preceding (node 5) ↔ node 5 ∈ axisNodes ns .following (node 2))
      ∧ sectionedPage.arena.Lists .ancestorOrSelf (attribute_ 3 0)
        [attribute_ 3 0, node 3, node 1, node 0] := by
  intro ns
  obtain ⟨ofNode, ofAttribute, ⟨converse, -⟩, each⟩ := axes_partition sectionedPage
  have here : (attribute_ 3 0).ExistsIn ns := ⟨_, rfl, by decide⟩
  have above : axisNodes ns .ancestor (node 3) = [node 1, node 0] := by decide +kernel
  have before : axisNodes ns .preceding (node 3) = [node 2] := by decide +kernel
  refine ⟨?_, ?_, converse 5 2 (by decide) (by decide), ?_⟩
  · have five := ofNode 3 (by decide)
    simp only [List.map_cons, List.map_nil] at five
    rw [above, before] at five
    exact five
  · have four := (ofAttribute 3 0 here).2
    rw [above] at four
    have same : axisNodes ns .preceding (attribute_ 3 0) = [node 2] := before
    rw [same] at four
    exact four
  · refine ((each (attribute_ 3 0) .ancestorOrSelf here).2.2.2 (by decide) _).mpr ?_
    decide +kernel

end Transclusion.XPath
