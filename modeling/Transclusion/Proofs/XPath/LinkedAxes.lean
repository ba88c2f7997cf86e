import Mathlib.Data.List.Sort
import Transclusion.Proofs.Markup.Arena
import Transclusion.Proofs.XPath.NodeSets
/-!
# Axes along links

The axes list intervals of numbers, and what is left of them.  Where a document is laid out as an
arena there are only links: the nodes on an axis are found by going up or down along them, by the
place of a node among its siblings, and by comparing numbers with the last node that can be reached
inside the node (`Arena.Lists`).

* `Forest.PlacedIn.add_extent_of_topIds`: the last node at the top of a forest ends where the forest
  ends.  So the way from a node to its last child, and on, leads to the last node inside it
  (`Document.exists_way_down`).
* `lists_iff`: from every node and attribute, what is found along the links are the nodes on the
  axis, in the order of the axis.
-/

namespace Transclusion

/-! ### Listing -/

namespace Arena

open XPath
open XPath.NodeRef (node attribute_)

/-- The iterator that goes from a node to its last child. -/
def nextLast (a : Arena) (i : Nat) : Option (Nat × Nat) :=
  (a.children i).getLast?.map fun c => (c, c)

/-- The numbers less than `i` that are not above it, the greatest first. -/
def listBefore (a : Arena) (i : Nat) (above : List Nat) : List Nat :=
  ((List.range a.length).filter fun j => j < i && !above.contains j).reverse

/-- The numbers greater than `i`. -/
def listBehind (a : Arena) (i : Nat) : List Nat := (List.range a.length).filter (i < ·)

/-- What is listed on an axis from a node or an attribute, by way of the links. -/
inductive Lists (a : Arena) : Axis → NodeRef → List NodeRef → Prop where
  | itself (r : NodeRef) : Lists a .self r [r]
  | child (i : Nat) : Lists a .child (node i) ((a.children i).map node)
  | descendant {i : Nat} {inside : List Nat} (h : Yields a.nextDescendant (a.children i) inside) :
      Lists a .descendant (node i) (inside.map node)
  | descendantOrSelf {i : Nat} {inside : List Nat}
      (h : Yields a.nextDescendant (a.children i) inside) :
      Lists a .descendantOrSelf (node i) (node i :: inside.map node)
  | parent (i : Nat) : Lists a .parent (node i) ((a.parent? i).toList.map node)
  | ancestor {i : Nat} {above : List Nat} (h : Yields a.nextAncestor i above) :
      Lists a .ancestor (node i) (above.map node)
  | ancestorOrSelf {i : Nat} {above : List Nat} (h : Yields a.nextAncestor i above) :
      Lists a .ancestorOrSelf (node i) (node i :: above.map node)
  | followingSibling {i p : Nat} (h : a.parent? i = some p) :
      Lists a .followingSibling (node i)
        (((a.children p).drop ((a.children p).idxOf i + 1)).map node)
  | precedingSibling {i p : Nat} (h : a.parent? i = some p) :
      Lists a .precedingSibling (node i)
        (((a.children p).take ((a.children p).idxOf i)).reverse.map node)
  | noFollowingSibling {i : Nat} (h : a.parent? i = none) : Lists a .followingSibling (node i) []
  | noPrecedingSibling {i : Nat} (h : a.parent? i = none) : Lists a .precedingSibling (node i) []
  | following {i : Nat} {way : List Nat} (h : Yields a.nextLast i way) :
      Lists a .following (node i) ((a.listBehind (way.getLast?.getD i)).map node)
  | preceding {i : Nat} {above : List Nat} (h : Yields a.nextAncestor i above) :
      Lists a .preceding (node i) ((a.listBefore i above).map node)
  | attributes {i : Nat} {e : Element} (h : a.kind? i = some (.element e)) :
      Lists a .attribute_ (node i) ((List.range e.attributes.size).map (attribute_ i))
  | noAttributes {i : Nat} (h : ∀ e, a.kind? i ≠ some (.element e)) :
      Lists a .attribute_ (node i) []
  | owner (i k : Nat) : Lists a .parent (attribute_ i k) [node i]
  | aboveOwner {i k : Nat} {above : List Nat} (h : Yields a.nextAncestor i above) :
      Lists a .ancestor (attribute_ i k) (node i :: above.map node)
  | aboveOwnerOrSelf {i k : Nat} {above : List Nat} (h : Yields a.nextAncestor i above) :
      Lists a .ancestorOrSelf (attribute_ i k) (attribute_ i k :: node i :: above.map node)
  | onlyItself (i k : Nat) : Lists a .descendantOrSelf (attribute_ i k) [attribute_ i k]
  | behindOwner (i k : Nat) : Lists a .following (attribute_ i k) ((a.listBehind i).map node)
  | beforeOwner {i k : Nat} {above : List Nat} (h : Yields a.nextAncestor i above) :
      Lists a .preceding (attribute_ i k) ((a.listBefore i above).map node)
  | nothing (i k : Nat) {axis : Axis}
      (h : axis ∈ [.attribute_, .child, .descendant, .followingSibling, .precedingSibling]) :
      Lists a axis (attribute_ i k) []

end Arena

/-! ### The way to the last node -/

theorem Forest.eq_nil_of_topIds {first : Nat} {f : Forest} (h : (f.topIds first).getLast? = none) :
    f = .nil := by
  rw [List.getLast?_eq_none_iff] at h
  cases f with
  | nil => rfl
  | leaf l rest => cases h
  | element e content rest => cases h

/-- The last node at the top of a forest is its first node, or the last of those behind it. -/
theorem Forest.add_extent_of_rest {d : Document} {first after last : Nat} {rest : Forest}
    (extent : first + d.nodes.extent first = after)
    (behind : (rest.topIds after).getLast? = some last →
      last + d.nodes.extent last = after + rest.size)
    (isLast : (first :: rest.topIds after).getLast? = some last) :
    last + d.nodes.extent last = after + rest.size := by
  rw [List.getLast?_cons] at isLast
  cases hrest : (rest.topIds after).getLast? with
  | none =>
    rw [hrest] at isLast
    obtain rfl := Option.some.inj isLast
    rw [eq_nil_of_topIds hrest, size, Option.getD_none, extent, Nat.add_zero]
  | some next =>
    rw [hrest] at isLast
    exact behind (hrest.trans isLast)

/-- The last of the nodes at the top of a forest ends where the forest ends. -/
theorem Forest.PlacedIn.add_extent_of_topIds {d : Document} {parent first last : Nat} {f : Forest}
    (h : f.PlacedIn d parent first) (isLast : (f.topIds first).getLast? = some last) :
    last + d.nodes.extent last = first + f.size := by
  induction f generalizing first with
  | nil => cases isLast
  | leaf l rest ih =>
    rw [add_extent_of_rest (by rw [h.extent_leaf]) (ih h.behind_leaf) isLast, size]
    omega
  | element e content rest _ ih =>
    rw [add_extent_of_rest (by rw [h.extent_element]; rfl) (ih h.behind_element) isLast, size]
    omega

namespace Document

variable {d : Document} {i : Nat}

theorem extent_pos (h : i < d.size) : 1 ≤ d.nodes.extent i := by
  obtain ⟨t, ht⟩ := exists_subtree? h
  rw [extent_eq ht, Subtree.size]
  omega

/-- From a node to its last child, and on, leads a way to the last node inside the node. -/
theorem exists_way_down (h : i < d.size) :
    ∃ way, Yields d.arena.nextLast i way ∧ way.getLast?.getD i + 1 = i + d.nodes.extent i := by
  obtain ⟨t, ht⟩ := exists_subtree? h
  have bound := extent_le ht
  have extent := extent_eq ht
  have children : d.arena.children i = t.content.topIds (i + 1) := by
    rw [children_arena, Forest.PlacedIn.children_eq_topIds ht]
  -- The last child comes after the node, so the numbers on the way ascend and stay in the document.
  induction hn : d.size - i using Nat.strongRecOn generalizing i t with
  | ind n ih =>
    cases isLast : (t.content.topIds (i + 1)).getLast? with
    | none =>
      refine ⟨[], .stop (by rw [Arena.nextLast, children, isLast]; rfl), ?_⟩
      rw [extent, Subtree.size, Forest.eq_nil_of_topIds isLast]
      rfl
    | some last =>
      have isChild : last ∈ d.nodes.children i := by
        rw [← children_arena, children]
        exact List.mem_of_getLast? isLast
      have after := (NodeList.inside_of_parent? (NodeList.mem_children.mp isChild)).1
      have within := NodeList.lt_size_of_parent? (NodeList.mem_children.mp isChild)
      have ends := (Forest.PlacedIn.of_subtree? ht).add_extent_of_topIds isLast
      obtain ⟨u, hu⟩ := exists_subtree? within
      obtain ⟨way, run, stops⟩ := ih (d.size - last) (by omega) within u hu (extent_le hu)
        (extent_eq hu) (by rw [children_arena, Forest.PlacedIn.children_eq_topIds hu]) rfl
      have next : d.arena.nextLast i = some (last, last) := by
        rw [Arena.nextLast, children, isLast]
        rfl
      refine ⟨last :: way, .more next run, ?_⟩
      rw [List.getLast?_cons, Option.getD_some, stops, ends, extent, Subtree.size]
      omega

end Document

/-! ### Siblings and intervals -/

/-- In an ascending list, the numbers before one of them are the ones that are less, and the numbers
behind it are the ones that are greater. -/
theorem split_at_idxOf {l : List Nat} {i : Nat} (ascending : l.Pairwise (· < ·)) (h : i ∈ l) :
    l.take (l.idxOf i) = l.filter (· < i) ∧ l.drop (l.idxOf i + 1) = l.filter (i < ·) := by
  induction l with
  | nil => cases h
  | cons j l ih =>
    obtain ⟨first, behind⟩ := List.pairwise_cons.mp ascending
    obtain rfl | later := List.mem_cons.mp h
    · have notBefore : l.filter (· < i) = [] :=
        List.filter_eq_nil_iff.mpr fun k hk => by have := first k hk; simp; omega
      have allBehind : l.filter (i < ·) = l :=
        List.filter_eq_self.mpr fun k hk => by have := first k hk; simpa using this
      rw [List.idxOf_cons_self]
      simp [notBefore, allBehind]
    · have before := first i later
      obtain ⟨front, rest⟩ := ih behind later
      rw [List.idxOf_cons_ne l (Nat.ne_of_lt before), List.take_succ_cons, List.drop_succ_cons,
        front, rest, List.filter_cons_of_pos (by simpa using before),
        List.filter_cons_of_neg (by simp; omega)]
      exact ⟨rfl, rfl⟩

namespace XPath

open NodeRef (node attribute_)

section

variable {d : Document} {i : Nat}

theorem siblings_of_parent? {p : Nat} (h : d.arena.parent? i = some p) :
    ((d.arena.children p).take ((d.arena.children p).idxOf i)).reverse
        = nodesFrom d.nodes i .precedingSibling
      ∧ (d.arena.children p).drop ((d.arena.children p).idxOf i + 1)
        = nodesFrom d.nodes i .followingSibling := by
  rw [Document.parent?_arena] at h
  obtain ⟨front, rest⟩ :=
    split_at_idxOf (NodeList.pairwise_children d.nodes p) (NodeList.mem_children.mpr h)
  rw [Document.children_arena, front, rest, nodesFrom, nodesFrom, siblings, h]
  exact ⟨rfl, rfl⟩

theorem siblings_eq_nil (h : d.arena.parent? i = none) : siblings d.nodes i = [] := by
  rw [Document.parent?_arena] at h
  rw [siblings, h]

theorem listBehind_eq {last : Nat} :
    d.arena.listBehind last = List.range' (last + 1) (d.nodes.size - (last + 1)) := by
  refine (List.pairwise_lt_range.filter _).eq_of_mem_iff List.pairwise_lt_range' fun j => ?_
  rw [List.mem_filter, List.mem_range, List.mem_range'_1, Document.length_arena,
    Document.size_nodes, decide_eq_true_eq]
  omega

theorem listBefore_eq (h : i < d.size) :
    d.arena.listBefore i (d.nodes.ancestors i) = nodesFrom d.nodes i .preceding := by
  refine congrArg List.reverse ?_
  refine (List.pairwise_lt_range.filter _).eq_of_mem_iff (List.pairwise_lt_range.filter _)
    fun j => ?_
  rw [List.mem_filter, List.mem_filter, List.mem_range, List.mem_range, Document.length_arena,
    Bool.and_eq_true, decide_eq_true_eq]
  constructor
  · rintro ⟨-, before, outside⟩
    exact ⟨before, outside⟩
  · rintro ⟨before, outside⟩
    exact ⟨Nat.lt_trans before h, before, outside⟩

/-! ### Axes -/

/-- What is listed on an axis are the nodes on it. -/
theorem eq_axisNodes_of_lists {axis : Axis} {r : NodeRef} {refs : List NodeRef}
    (here : r.ExistsIn d.nodes) (h : d.arena.Lists axis r refs) :
    refs = axisNodes d.nodes axis r := by
  have within : r.owner < d.size := d.size_nodes ▸ here.owner_lt
  cases h with
  | itself => cases r <;> rfl
  | child i =>
    rw [Document.children_arena]
    rfl
  | descendant run | descendantOrSelf run =>
    obtain rfl := run.unique (Document.yields_descendants within)
    rfl
  | parent i =>
    rw [Document.parent?_arena]
    rfl
  | ancestor run | ancestorOrSelf run | aboveOwner run | aboveOwnerOrSelf run =>
    obtain rfl := run.unique (d.yields_ancestors _)
    rfl
  | followingSibling h =>
    rw [(siblings_of_parent? h).2]
    rfl
  | precedingSibling h =>
    rw [(siblings_of_parent? h).1]
    rfl
  | noFollowingSibling h | noPrecedingSibling h =>
    have none_ := siblings_eq_nil h
    simp [axisNodes, nodesFrom, none_]
  | @following i _ run =>
    -- The way down ends at the last node inside, and the numbers after it are those behind.
    obtain ⟨way, run', stops⟩ := Document.exists_way_down (i := i) within
    obtain rfl := run.unique run'
    rw [listBehind_eq, stops]
    rfl
  | preceding run | beforeOwner run =>
    obtain rfl := run.unique (d.yields_ancestors _)
    exact congrArg (List.map node) (listBefore_eq within)
  | attributes kind =>
    rw [Document.kind?_arena] at kind
    simp [axisNodes, NodeList.element?, kind]
  | @noAttributes i kind =>
    rw [Document.kind?_arena] at kind
    have none_ : d.nodes.element? i = none := by
      rw [NodeList.element?]
      split
      · next e found => exact absurd found (kind e)
      · rfl
    simp [axisNodes, none_]
  | owner | onlyItself => rfl
  | behindOwner i =>
    rw [listBehind_eq]
    rfl
  | nothing i k hmem =>
    simp only [List.mem_cons, List.not_mem_nil, or_false] at hmem
    obtain rfl | rfl | rfl | rfl | rfl := hmem <;> rfl

/-- On every axis but that of namespaces something is listed. -/
theorem exists_lists {axis : Axis} {r : NodeRef} (here : r.ExistsIn d.nodes)
    (other : axis ≠ .namespace_) : ∃ refs, d.arena.Lists axis r refs := by
  have within : r.owner < d.size := d.size_nodes ▸ here.owner_lt
  -- The iterators over descendants and ancestors come to an end, as does the way to the last node.
  have down := Document.yields_descendants within
  have up := d.yields_ancestors r.owner
  obtain ⟨way, last, -⟩ := Document.exists_way_down within
  cases r with
  | node i =>
    cases axis with
    | self => exact ⟨_, .itself _⟩
    | child => exact ⟨_, .child i⟩
    | descendant => exact ⟨_, .descendant down⟩
    | descendantOrSelf => exact ⟨_, .descendantOrSelf down⟩
    | parent => exact ⟨_, .parent i⟩
    | ancestor => exact ⟨_, .ancestor up⟩
    | ancestorOrSelf => exact ⟨_, .ancestorOrSelf up⟩
    | following => exact ⟨_, .following last⟩
    | preceding => exact ⟨_, .preceding up⟩
    | followingSibling =>
      cases h : d.arena.parent? i with
      | none => exact ⟨_, .noFollowingSibling h⟩
      | some p => exact ⟨_, .followingSibling h⟩
    | precedingSibling =>
      cases h : d.arena.parent? i with
      | none => exact ⟨_, .noPrecedingSibling h⟩
      | some p => exact ⟨_, .precedingSibling h⟩
    | attribute_ =>
      by_cases h : ∃ e, d.arena.kind? i = some (.element e)
      · obtain ⟨e, kind⟩ := h
        exact ⟨_, .attributes kind⟩
      · exact ⟨_, .noAttributes fun e kind => h ⟨e, kind⟩⟩
    | namespace_ => exact absurd rfl other
  | attribute_ i k =>
    cases axis with
    | self => exact ⟨_, .itself _⟩
    | parent => exact ⟨_, .owner i k⟩
    | ancestor => exact ⟨_, .aboveOwner up⟩
    | ancestorOrSelf => exact ⟨_, .aboveOwnerOrSelf up⟩
    | descendantOrSelf => exact ⟨_, .onlyItself i k⟩
    | following => exact ⟨_, .behindOwner i k⟩
    | preceding => exact ⟨_, .beforeOwner up⟩
    | attribute_ | child | descendant | followingSibling | precedingSibling =>
      exact ⟨_, .nothing i k (by decide)⟩
    | namespace_ => exact absurd rfl other

/-- **Along the links one comes upon the nodes on an axis**, in the order of the axis. -/
theorem lists_iff {axis : Axis} {r : NodeRef} {refs : List NodeRef} (here : r.ExistsIn d.nodes)
    (other : axis ≠ .namespace_) :
    d.arena.Lists axis r refs ↔ refs = axisNodes d.nodes axis r := by
  constructor
  · exact eq_axisNodes_of_lists here
  · rintro rfl
    obtain ⟨refs, h⟩ := exists_lists here other
    exact eq_axisNodes_of_lists here h ▸ h

end

end XPath

end Transclusion
