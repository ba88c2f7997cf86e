import Transclusion.Proofs.Inclusion.Substitution
import Transclusion.Proofs.Markup.Arena
/-!
# Outermost control elements

Which control elements a walk replaces is said of the document alone: those in the subtree that is
walked that have no other one among their ancestors in it, by their own numbers and in document
order (`Document.OutermostControls`).  The encounters of a walk are defined by recursion on the
forest; that they are the outermost control elements is shown of each forest in its place in the
document (`Forest.PlacedIn.mem_encounters_iff`).

* `Document.outermostControls_walked`: the encounters of the walk of any node.
-/

namespace Transclusion

/-! ### Outermost control elements -/

/-- The encounter is a control element of the document, under its number. -/
structure Encounter.IsIn (x : Encounter) (d : Document) (controls : ControlRegistry) : Prop where
  element : d.nodes.element? x.id = some x.element
  control : controls.get? x.element.name = some x.control

namespace Document

/-- The node is no control element. -/
def Stays (d : Document) (controls : ControlRegistry) (i : Nat) : Prop :=
  ∀ e, d.nodes.element? i = some e → controls.get? e.name = none

/-- These are the control elements in the subtree of a node that are not inside of another one
there, each of them once and in document order. -/
structure OutermostControls (d : Document) (controls : ControlRegistry) (id : Nat)
    (calls : List Encounter) : Prop where
  ascending : calls.Pairwise (·.id < ·.id)
  mem_iff : ∀ x, x ∈ calls ↔ x.id ∈ id :: d.nodes.descendants id ∧ x.IsIn d controls
    ∧ ∀ j ∈ d.nodes.ancestors x.id, j ∈ id :: d.nodes.descendants id → d.Stays controls j

end Document

/-- The encounter is a control element of the document, and among the nodes that contain it none
from this number on is another. -/
structure Encounter.IsOutermost (x : Encounter) (d : Document) (controls : ControlRegistry)
    (first : Nat) : Prop where
  isIn : x.IsIn d controls
  above : ∀ j ∈ d.nodes.ancestors x.id, first ≤ j → d.Stays controls j

namespace NodeList

variable {d : Document} {first i j : Nat}

/-- What contains a node behind a subtree comes behind the subtree as well, or before it. -/
theorem le_of_mem_ancestors (h : j ∈ d.nodes.ancestors i) (after : first ≤ j)
    (behind : first + d.nodes.extent first ≤ i) : first + d.nodes.extent first ≤ j := by
  obtain ⟨before, inside⟩ := mem_descendants.mp (mem_ancestors_iff.mp h)
  by_contra within
  rw [Nat.not_le] at within
  obtain rfl | later := Nat.eq_or_lt_of_le after
  · omega
  · have nested := extent_nested later within
    omega

theorem lt_of_mem_ancestors (h : j ∈ d.nodes.ancestors i) : j < i :=
  (mem_descendants.mp (mem_ancestors_iff.mp h)).1

end NodeList

namespace Encounter

variable {x : Encounter} {d : Document} {controls : ControlRegistry} {first : Nat}

theorem IsIn.ne_of_stays (h : x.IsIn d controls) (stays : d.Stays controls first) :
    x.id ≠ first := by
  intro same
  have unregistered := stays x.element (same ▸ h.element)
  cases unregistered.symm.trans h.control

/-- A node that stays can be left out of what is looked at. -/
theorem isOutermost_succ_iff (stays : d.Stays controls first) :
    x.IsOutermost d controls (first + 1) ↔ x.IsOutermost d controls first := by
  refine ⟨fun h => ⟨h.isIn, fun j hj after => ?_⟩,
    fun h => ⟨h.isIn, fun j hj after => h.above j hj (by omega)⟩⟩
  obtain rfl | later := Nat.eq_or_lt_of_le after
  · exact stays
  · exact h.above j hj later

/-- Behind a subtree, the ancestors that count are behind it, too. -/
theorem isOutermost_behind_iff (first : Nat) (behind : first + d.nodes.extent first ≤ x.id) :
    x.IsOutermost d controls (first + d.nodes.extent first) ↔ x.IsOutermost d controls first := by
  refine ⟨fun h => ⟨h.isIn, fun j hj after => ?_⟩,
    fun h => ⟨h.isIn, fun j hj after => h.above j hj (by omega)⟩⟩
  exact h.above j hj (NodeList.le_of_mem_ancestors hj after behind)

theorem IsIn.isOutermost (h : x.IsIn d controls) : x.IsOutermost d controls x.id := by
  refine ⟨h, fun j hj after => ?_⟩
  have before := NodeList.lt_of_mem_ancestors hj
  exact absurd before (Nat.not_lt.mpr after)

/-- What is inside of a control element is not come upon. -/
theorem IsIn.not_isOutermost_inside (h : x.IsIn d controls) {y : Encounter} (after : x.id < y.id)
    (inside : y.id < x.id + d.nodes.extent x.id) : ¬ y.IsOutermost d controls x.id := by
  intro outermost
  have above := NodeList.mem_ancestors_of_inside after inside
  have stays := outermost.above x.id above (Nat.le_refl _)
  exact h.ne_of_stays stays rfl

/-- A control element is known by its number. -/
theorem IsIn.eq_of_id {y : Encounter} (hx : x.IsIn d controls) (hy : y.IsIn d controls)
    (same : x.id = y.id) : x = y := by
  obtain ⟨control, i, e⟩ := x
  obtain ⟨control', i', e'⟩ := y
  obtain rfl : i = i' := same
  cases hx.element.symm.trans hy.element
  cases hx.control.symm.trans hy.control
  rfl

end Encounter

namespace Forest.PlacedIn

variable {d : Document} {parent first : Nat} {e : Element} {f content : Forest}
  {controls : ControlRegistry}

/-- An element with all that is inside it is found in its place. -/
theorem of_element {id : Nat} (h : d.subtree? id = some (.element e content)) :
    ∃ parent, (element e content nil).PlacedIn d parent id := by
  obtain ⟨q, after, hdrop⟩ := Document.drop_nodeList h
  obtain ⟨pos, within⟩ := Document.bounds_of_element? (Document.element?_of_subtree? h)
  obtain ⟨p, hp⟩ := Document.exists_parent? pos within
  have here : d.nodeList[id]? = some ⟨.element e, q, content.size + 1⟩ := by
    rw [← Nat.add_zero id, ← List.getElem?_drop, hdrop]
    rfl
  rw [NodeList.parent?, Document.nodes_getElem?, here] at hp
  obtain rfl : q = some p := hp
  exact ⟨p, after, by rw [hdrop, nodes, nodes, List.append_nil]; rfl⟩

/-- The encounters of a forest in its place are the control elements there that are not inside of
others. -/
theorem mem_encounters_iff (h : f.PlacedIn d parent first) {x : Encounter} :
    x ∈ f.encounters controls first
      ↔ (first ≤ x.id ∧ x.id < first + f.size) ∧ x.IsOutermost d controls first := by
  induction f generalizing parent first with
  | nil =>
    constructor
    · nofun
    · rintro ⟨⟨after, before⟩, -⟩
      exact absurd before (Nat.not_lt.mpr after)
  | leaf l rest ih =>
    have stays : d.Stays controls first := by
      intro e found
      cases h.element?_leaf.symm.trans found
    rw [encounters, ih h.behind_leaf, size, Encounter.isOutermost_succ_iff stays]
    refine and_congr_left fun outermost => ?_
    have other := outermost.isIn.ne_of_stays stays
    omega
  | element e content rest ihc ihr =>
    have here := h.element?_element
    have extent := h.extent_element
    -- Nothing inside the element is above what is behind it, so both are looked at from `first` on.
    have behind : x ∈ rest.encounters controls (first + content.size + 1)
        ↔ (first + content.size + 1 ≤ x.id ∧ x.id < first + content.size + 1 + rest.size)
          ∧ x.IsOutermost d controls first := by
      rw [ihr h.behind_element]
      refine and_congr_right fun bounds => ?_
      rw [← Encounter.isOutermost_behind_iff first (by omega), extent, ← Nat.add_assoc]
    rw [encounters, size]
    cases registered : controls.get? e.name with
    | some control =>
      have found : (⟨control, first, e⟩ : Encounter).IsIn d controls := ⟨here, registered⟩
      dsimp only
      rw [List.mem_cons, behind]
      constructor
      · rintro (rfl | ⟨bounds, outermost⟩)
        · have inside : first < first + (content.size + rest.size + 1) := by omega
          exact ⟨⟨Nat.le_refl _, inside⟩, found.isOutermost⟩
        · exact ⟨by omega, outermost⟩
      · rintro ⟨bounds, outermost⟩
        -- It is the element itself, or behind it: what is inside has the element above it.
        obtain same | after := Nat.eq_or_lt_of_le bounds.1
        · exact .inl (outermost.isIn.eq_of_id found same.symm)
        · have outside : first + content.size + 1 ≤ x.id := by
            by_contra inside
            exact found.not_isOutermost_inside after (by dsimp only; omega) outermost
          exact .inr ⟨by omega, outermost⟩
    | none =>
      have stays : d.Stays controls first := by
        intro e' found
        cases here.symm.trans found
        exact registered
      dsimp only
      rw [List.mem_append, behind, ihc h.inside, Encounter.isOutermost_succ_iff stays,
        ← or_and_right]
      refine and_congr_left fun outermost => ?_
      have other := outermost.isIn.ne_of_stays stays
      omega

theorem pairwise_encounters (h : f.PlacedIn d parent first) :
    (f.encounters controls first).Pairwise (·.id < ·.id) := by
  induction f generalizing parent first with
  | nil => exact .nil
  | leaf l rest ih => exact ih h.behind_leaf
  | element e content rest ihc ihr =>
    have behind : ∀ x ∈ rest.encounters controls (first + content.size + 1),
        first + content.size + 1 ≤ x.id :=
      fun x hx => (h.behind_element.mem_encounters_iff.mp hx).1.1
    rw [encounters]
    split
    · refine List.pairwise_cons.mpr ⟨fun x hx => ?_, ihr h.behind_element⟩
      have later := behind x hx
      dsimp only
      omega
    · refine List.pairwise_append.mpr ⟨ihc h.inside, ihr h.behind_element, fun x hx y hy => ?_⟩
      have inside := (h.inside.mem_encounters_iff.mp hx).1.2
      have later := behind y hy
      omega

end Forest.PlacedIn

/-! ### Walked subtrees -/

namespace Document

/-- The forest that is walked for a node, and the number of its first node: for the document its
content, and for any other node the node itself. -/
def walked (d : Document) (id : Nat) : Nat × Forest :=
  match d.subtree? id with
  | some (.document d) => (1, d.content)
  | some node => (id, node.toForest)
  | none => (id, .nil)

variable {d : Document} {id : Nat} {controls : ControlRegistry}

theorem walk_eq_walked {m : Type → Type} [Monad m] [LawfulMonad m] (handle : ControlHandler m) :
    d.walk controls handle id
      = (d.walked id).2.walk controls handle (d.walked id).1 >>= fun f => pure ⟨d.base, f⟩ := by
  rw [walk, walked]
  cases h : d.subtree? id with
  | none => simp [Forest.walk]
  | some t =>
    cases t with
    | document d' =>
      rw [subtree?] at h
      split at h
      · cases h
        rfl
      · exact absurd h (Forest.subtree?_ne_document _ _ _)
    | element e content => rfl
    | leaf l => rfl

theorem mem_subtree_iff (here : id < d.size) {j : Nat} :
    j ∈ id :: d.nodes.descendants id ↔ id ≤ j ∧ j < id + d.nodes.extent id := by
  obtain ⟨t, ht⟩ := exists_subtree? here
  have extent := extent_eq ht
  rw [Subtree.size] at extent
  rw [List.mem_cons, NodeList.mem_descendants]
  omega

/-- What is outermost from a node on, and within its subtree, is outermost in the subtree. -/
theorem outermostControls_of_mem_iff {calls : List Encounter} (here : id < d.size)
    (ascending : calls.Pairwise (·.id < ·.id))
    (mem_iff : ∀ x, x ∈ calls ↔ (id ≤ x.id ∧ x.id < id + d.nodes.extent id)
      ∧ x.IsOutermost d controls id) : d.OutermostControls controls id calls := by
  refine ⟨ascending, fun x => ?_⟩
  rw [mem_iff, mem_subtree_iff here]
  refine and_congr_right fun bounds => ?_
  constructor
  · rintro ⟨isIn, above⟩
    exact ⟨isIn, fun j hj inside => above j hj ((mem_subtree_iff here).mp inside).1⟩
  · rintro ⟨isIn, above⟩
    refine ⟨isIn, fun j hj after => above j hj ((mem_subtree_iff here).mpr ⟨after, ?_⟩)⟩
    have before := NodeList.lt_of_mem_ancestors hj
    omega

/-- In the subtree of a node that is no element and has no content there is nothing to come upon. -/
theorem outermostControls_nil (noElement : d.nodes.element? id = none)
    (empty : d.nodes.descendants id = []) : d.OutermostControls controls id [] := by
  refine ⟨.nil, fun x => ⟨nofun, ?_⟩⟩
  rintro ⟨inside, isIn, -⟩
  rw [empty, List.mem_singleton] at inside
  cases noElement.symm.trans (inside ▸ isIn.element)

theorem stays_zero (d : Document) (controls : ControlRegistry) : d.Stays controls 0 := nofun

theorem outermostControls_document (d : Document) (controls : ControlRegistry) :
    d.OutermostControls controls 0 (d.content.encounters controls 1) := by
  have placed := Forest.PlacedIn.of_document d
  have here : 0 < d.size := Nat.succ_pos _
  have extent : d.nodes.extent 0 = d.content.size + 1 := extent_eq (if_pos rfl)
  refine outermostControls_of_mem_iff here placed.pairwise_encounters fun x => ?_
  -- The walk starts behind the document itself, which is no control element.
  rw [placed.mem_encounters_iff, Encounter.isOutermost_succ_iff (d.stays_zero controls), extent]
  refine and_congr_left fun outermost => ?_
  have other := outermost.isIn.ne_of_stays (d.stays_zero controls)
  omega

theorem outermostControls_element {e : Element} {content : Forest}
    (h : d.subtree? id = some (.element e content)) :
    d.OutermostControls controls id ((Forest.element e content .nil).encounters controls id) := by
  obtain ⟨parent, placed⟩ := Forest.PlacedIn.of_element h
  have here := (bounds_of_element? (element?_of_subtree? h)).2
  have extent := placed.extent_element
  have size : (Forest.element e content .nil).size = content.size + 1 := rfl
  refine outermostControls_of_mem_iff here placed.pairwise_encounters fun x => ?_
  rw [placed.mem_encounters_iff, extent, size]

theorem encounters_leaf (l : Leaf) : (Subtree.leaf l).toForest.encounters controls id = [] := by
  cases l with
  | text s =>
    rw [Subtree.toForest, Forest.consLeaf, Forest.consText_of_startsWithText rfl]
    split <;> rfl
  | comment | instruction => rfl

/-- **The encounters of a walk are the outermost control elements** of the subtree. -/
theorem outermostControls_walked (d : Document) (controls : ControlRegistry) (id : Nat) :
    d.OutermostControls controls id
      ((d.walked id).2.encounters controls (d.walked id).1) := by
  rw [walked]
  cases h : d.subtree? id with
  | none =>
    have beyond := subtree?_eq_none_iff.mp h
    refine outermostControls_nil ?_ ?_
    · rw [NodeList.element?, NodeList.kind?, nodes_getElem?,
        List.getElem?_eq_none (by rwa [length_nodeList])]
      rfl
    · rw [NodeList.descendants, extent_eq_zero beyond]
      rfl
  | some t =>
    cases t with
    | document d' =>
      rw [subtree?] at h
      split at h
      · next top =>
        cases h
        rw [top]
        exact d.outermostControls_document controls
      · exact absurd h (Forest.subtree?_ne_document _ _ _)
    | element e content => exact outermostControls_element h
    | leaf l =>
      dsimp only
      rw [encounters_leaf]
      refine outermostControls_nil ?_ ?_
      · obtain ⟨q, hq⟩ := nodeList_getElem? h
        rw [NodeList.element?, NodeList.kind?, nodes_getElem?, hq]
        rfl
      · rw [NodeList.descendants, extent_eq h]
        rfl

end Document

end Transclusion
