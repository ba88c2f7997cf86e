import Transclusion.Proofs.Markup.ArenaBuilder
/-!
# Copies are faithful

Copying adds cells to an arena that are those of the source, renumbered: the numbers of the copied
nodes are shifted, and the nodes at the top have the current node as their parent
(`ArenaBuilder.CopiedFrom`).  The cells that are there already stay as they are, with two
exceptions.  The current node is given further children, and if its last child is a text and the
copied content begins with one, these two become one text.

* `Forest.places_renumbered`: what is copied is the source up to numbers.
* `Builder.copiedFrom_addForest`: adding a forest from its place in a source is copying it.
* `Builder.copiedFrom_node`, `Builder.copiedFrom_children`: so adding a node, or what is in it, is
  copying it, or its children.
-/

namespace Transclusion

/-! ### Forests in other places -/

/-- The place with another number for its parent. -/
def Place.renumber (number : Nat → Nat) (place : Place) : Place :=
  { place with parent := place.parent.map number }

/-- Numbers from `first` on, `count` of them, are shifted to those from `first'` on. -/
def Shifts (number : Nat → Nat) (count first first' : Nat) : Prop :=
  ∀ m < count, number (first + m) = first' + m

namespace Shifts

variable {number : Nat → Nat} {count first first' : Nat} (h : Shifts number count first first')

include h

theorem head (pos : 0 < count) : number first = first' := h 0 pos

/-- The numbers behind the first ones. -/
theorem drop (k : Nat) {rest : Nat} (within : k + rest ≤ count) :
    Shifts number rest (first + k) (first' + k) := by
  intro m hm
  rw [Nat.add_assoc, Nat.add_assoc]
  exact h (k + m) (by omega)

end Shifts

namespace Forest

variable {number : Nat → Nat} {first first' : Nat} {f : Forest}

/-- A forest in another place has the same nodes, the numbers of their parents being renumbered. -/
theorem places_renumbered (parent : Nat) (shift : Shifts number f.size first first') :
    f.places (number parent) first' = (f.places parent first).map (Place.renumber number) := by
  induction f generalizing parent first first' with
  | nil => rfl
  | leaf l rest ih =>
    rw [places_leaf, places_leaf, List.map_cons, ih parent (shift.drop 1 (by rw [size]; omega))]
    rfl
  | element e content rest ihc ihr =>
    have here : number first = first' := shift.head (Nat.succ_pos _)
    have inside := ihc first (shift.drop 1 (by rw [size]; omega))
    have behind := ihr parent (shift.drop (content.size + 1) (by rw [size]; omega))
    rw [here] at inside
    rw [← Nat.add_assoc, ← Nat.add_assoc] at behind
    rw [places_element, places_element, inside, behind, List.map_append, List.map_cons]
    rfl

theorem topIds_renumbered (shift : Shifts number f.size first first') :
    f.topIds first' = (f.topIds first).map number := by
  induction f generalizing first first' with
  | nil => rfl
  | leaf l rest ih =>
    have here : number first = first' := shift.head (Nat.succ_pos _)
    rw [topIds, topIds, List.map_cons, here, ih (shift.drop 1 (by rw [size]; omega))]
  | element e content rest _ ih =>
    have here : number first = first' := shift.head (Nat.succ_pos _)
    have behind := ih (shift.drop (content.size + 1) (by rw [size]; omega))
    rw [← Nat.add_assoc, ← Nat.add_assoc] at behind
    rw [topIds, topIds, List.map_cons, here, behind]

end Forest

/-! ### Forests at the end of an arena -/

section

variable {places : List Place} {current : Nat} {f : Forest}

/-- The parents of the nodes of a forest are the one given and nodes of the forest. -/
theorem Forest.parent_of_mem_places {parent first : Nat} (before : parent < first) {place : Place}
    (h : place ∈ f.places parent first) : ∃ q, place.parent = some q ∧ parent ≤ q := by
  obtain ⟨n, hn, rfl⟩ := List.mem_map.mp h
  obtain ⟨m, hm⟩ := List.mem_iff_getElem?.mp hn
  obtain ⟨q, hq, le, -⟩ := Forest.parent_of_mem_nodes before hm
  exact ⟨q, hq, le⟩

/-- Of the nodes that are there already only the current one is given children. -/
theorem childrenAt_append_places (before : current < places.length) {k : Nat}
    (there : k < places.length) :
    childrenAt (places ++ f.places current places.length) k
      = childrenAt places k ++ if k = current then f.topIds places.length else [] := by
  induction f generalizing places with
  | nil => simp [Forest.places, Forest.nodes, Forest.topIds]
  | leaf l rest ih =>
    have length : (places ++ [Place.mk (.leaf l) (some current)]).length = places.length + 1 :=
      List.length_append
    have behind := @ih (places ++ [Place.mk (.leaf l) (some current)]) (by omega) (by omega)
    rw [length, childrenAt_concat, List.append_assoc, List.append_assoc] at behind
    rw [Forest.places_leaf, Forest.topIds]
    refine behind.trans ?_
    by_cases same : current = k
    · simp [same]
    · simp [same, Ne.symm same]
  | element e content rest _ ih =>
    -- The content goes into the element, which is no node that is there already.
    have elsewhere : ∀ place ∈ content.places places.length (places.length + 1),
        place.parent ≠ some k := by
      intro place hplace child
      obtain ⟨q, hq, le⟩ := Forest.parent_of_mem_places (Nat.lt_succ_self _) hplace
      cases hq.symm.trans child
      omega
    have length : (places ++ [Place.mk (.element e) (some current)]
        ++ content.places places.length (places.length + 1)).length
          = places.length + content.size + 1 := by
      rw [List.length_append, List.length_append, List.length_singleton, Forest.length_places]
      omega
    have behind := @ih (places ++ [Place.mk (.element e) (some current)]
      ++ content.places places.length (places.length + 1)) (by omega) (by omega)
    rw [length, childrenAt_append elsewhere, childrenAt_concat, List.append_assoc,
      List.append_assoc, List.append_assoc] at behind
    rw [Forest.places_element, Forest.topIds]
    refine behind.trans ?_
    by_cases same : current = k
    · simp [same]
    · simp [same, Ne.symm same]

end

/-! ### Grafts -/

/-- The number of a node that is copied: the nodes from `first` on come one after the other from
`next` on, and what is before them becomes the node `current`. -/
def relocate (first current next i : Nat) : Nat :=
  if i < first then current else next + (i - first)

theorem relocate_of_lt {first current next i : Nat} (h : i < first) :
    relocate first current next i = current := if_pos h

theorem relocate_add (first current next m : Nat) :
    relocate first current next (first + m) = next + m := by
  rw [relocate, if_neg (by omega), Nat.add_sub_cancel_left]

theorem shifts_relocate (first current next count : Nat) :
    Shifts (relocate first current next) count first next :=
  fun m _ => relocate_add first current next m

namespace Arena

/-- Nodes of a source are grafted onto an arena below the node `current`: those from `first` on,
`count` of them, where `top` are the ones at the top.  The new nodes come behind the others and are
those of the source in the same order, renumbered.  The current node has the ones at the top for
further children, and else nothing is changed. -/
structure Grafted (source : Arena) (top : List Nat) (first count current : Nat) (a a' : Arena) :
    Prop where
  length : a'.length = a.length + count
  kind? : ∀ k < a.length, a'.kind? k = a.kind? k
  parent? : ∀ k < a.length, a'.parent? k = a.parent? k
  children : ∀ k < a.length, a'.children k
    = a.children k ++ if k = current then top.map (relocate first current a.length) else []
  copied : ∀ m < count, a'.kind? (a.length + m) = source.kind? (first + m)
    ∧ a'.parent? (a.length + m)
      = (source.parent? (first + m)).map (relocate first current a.length)
    ∧ a'.children (a.length + m)
      = (source.children (first + m)).map (relocate first current a.length)

theorem kind?_ofPlaces (places : List Place) (i : Nat) :
    (ofPlaces places).kind? i = (places[i]?).map (·.kind) := by
  rw [kind?, getElem?_ofPlaces, Option.map_map]
  rfl

theorem parent?_ofPlaces (places : List Place) (i : Nat) :
    (ofPlaces places).parent? i = parentAt places i := by
  rw [parent?, getElem?_ofPlaces, parentAt, Option.bind_map]
  rfl

theorem children_ofPlaces {places : List Place} (grown : Grown places) (i : Nat) :
    (ofPlaces places).children i = childrenAt places i := by
  rw [children, getElem?_ofPlaces, Option.map_map]
  cases h : places[i]? with
  | some place => rfl
  | none =>
    have beyond := List.getElem?_eq_none_iff.mp h
    exact (grown.childrenAt_eq_nil (by omega)).symm

end Arena

namespace Forest.PlacedIn

variable {source : Document} {parent first m : Nat} {f : Forest}

theorem getElem?_nodeList (h : f.PlacedIn source parent first) (within : m < f.size) :
    source.nodeList[first + m]? = (f.nodes parent first)[m]? := by
  obtain ⟨after, drop⟩ := h
  rw [← List.getElem?_drop, drop, List.getElem?_append_left (by rwa [length_nodes])]

theorem getElem?_places (h : f.PlacedIn source parent first) (within : m < f.size) :
    source.places[first + m]? = (f.places parent first)[m]? := by
  rw [Document.getElem?_places, h.getElem?_nodeList within, places, List.getElem?_map]

/-- A node whose parent is in the forest is in the forest. -/
theorem lt_of_parent? (h : f.PlacedIn source parent first) (within : m < f.size) {j : Nat}
    (child : source.nodes.parent? j = some (first + m)) : first + m < j ∧ j < first + f.size := by
  obtain ⟨n, hn⟩ : ∃ n, (f.nodes parent first)[m]? = some n :=
    ⟨_, List.getElem?_eq_getElem (by rwa [length_nodes])⟩
  have extent : source.nodes.extent (first + m) = n.extent := by
    rw [NodeList.extent, Document.nodes_getElem?, h.getElem?_nodeList within, hn]
    rfl
  obtain ⟨after, inside⟩ := NodeList.inside_of_parent? child
  have le := extent_le hn
  exact ⟨after, by omega⟩

end Forest.PlacedIn

section

variable {source : Document} {places : List Place} {f : Forest} {parent first current : Nat}
  (placed : f.PlacedIn source parent first) (below : parent < first)

include placed below

/-- The nodes at the end are those of the source, and the parents are renumbered. -/
theorem Forest.PlacedIn.getElem?_append_places {m : Nat} (within : m < f.size) :
    (places ++ f.places current places.length)[places.length + m]?
      = (source.places[first + m]?).map
          (Place.renumber (relocate first current places.length)) := by
  have moved := Forest.places_renumbered parent
    (shifts_relocate first current places.length f.size)
  rw [relocate_of_lt below] at moved
  rw [List.getElem?_append_right (Nat.le_add_right _ _), Nat.add_sub_cancel_left, moved,
    List.getElem?_map, placed.getElem?_places within]

theorem Forest.PlacedIn.parentAt_append_places {m : Nat} (within : m < f.size) :
    parentAt (places ++ f.places current places.length) (places.length + m)
      = (source.nodes.parent? (first + m)).map (relocate first current places.length) := by
  rw [parentAt, placed.getElem?_append_places below within, Document.getElem?_places,
    NodeList.parent?, Document.nodes_getElem?]
  cases source.nodeList[first + m]? <;> rfl

/-- The children of a node at the end are those that it has in the source, renumbered. -/
theorem Forest.PlacedIn.childrenAt_append_places (grown : Grown places)
    (before : current < places.length) {m : Nat} (within : m < f.size) :
    childrenAt (places ++ f.places current places.length) (places.length + m)
      = (source.nodes.children (first + m)).map (relocate first current places.length) := by
  have sorted : ((source.nodes.children (first + m)).map
      (relocate first current places.length)).Pairwise (· < ·) := by
    refine List.pairwise_map.mpr ?_
    refine (NodeList.pairwise_children source.nodes (first + m)).imp_of_mem ?_
    intro i j hi _ lt
    have after := (placed.lt_of_parent? within (NodeList.mem_children.mp hi)).1
    rw [relocate, relocate, if_neg (by omega), if_neg (by omega)]
    omega
  refine (List.pairwise_lt_range.filter _).eq_of_mem_iff sorted fun i => ?_
  -- Both are the nodes with this parent, the one here and the other in the source.
  have length : (places ++ f.places current places.length).length = places.length + f.size := by
    rw [List.length_append, Forest.length_places]
  rw [List.mem_filter, List.mem_range, length, decide_eq_true_eq, List.mem_map]
  constructor
  · rintro ⟨lt, child⟩
    have after := grown.append_places before f i _ child
    obtain ⟨m', rfl⟩ : ∃ m', i = places.length + m' := ⟨i - places.length, by omega⟩
    rw [placed.parentAt_append_places below (by omega)] at child
    obtain ⟨q, hq, same⟩ := Option.map_eq_some_iff.mp child
    refine ⟨first + m', NodeList.mem_children.mpr ?_, relocate_add _ _ _ _⟩
    rw [hq]
    unfold relocate at same
    split at same
    · omega
    · exact congrArg some (by omega)
  · rintro ⟨j, hj, rfl⟩
    have child := NodeList.mem_children.mp hj
    obtain ⟨after, inside⟩ := placed.lt_of_parent? within child
    obtain ⟨m', rfl⟩ : ∃ m', j = first + m' := ⟨j - first, by omega⟩
    rw [relocate_add]
    refine ⟨by omega, ?_⟩
    rw [placed.parentAt_append_places below (by omega), child, Option.map_some, relocate_add]

/-- A forest at the end of an arena is grafted onto it. -/
theorem Forest.PlacedIn.grafted (grown : Grown places) (before : current < places.length) :
    Arena.Grafted source.arena (f.topIds first) first f.size current (.ofPlaces places)
      (.ofPlaces (places ++ f.places current places.length)) := by
  have grown' := grown.append_places before f
  have length := Arena.length_ofPlaces places
  have old : ∀ k < places.length,
      (places ++ f.places current places.length)[k]? = places[k]? := fun k hk =>
    List.getElem?_append_left hk
  constructor
  · rw [length, Arena.length_ofPlaces, List.length_append, Forest.length_places]
  · intro k hk
    rw [Arena.kind?_ofPlaces, Arena.kind?_ofPlaces, old k (length ▸ hk)]
  · intro k hk
    rw [Arena.parent?_ofPlaces, Arena.parent?_ofPlaces, parentAt, parentAt, old k (length ▸ hk)]
  · intro k hk
    rw [Arena.children_ofPlaces grown', Arena.children_ofPlaces grown, length,
      Transclusion.childrenAt_append_places before (length ▸ hk),
      Forest.topIds_renumbered (shifts_relocate first current places.length f.size)]
  · intro m hm
    rw [length]
    refine ⟨?_, ?_, ?_⟩
    · rw [Arena.kind?_ofPlaces, placed.getElem?_append_places below hm, Document.arena,
        Arena.kind?_ofPlaces, Option.map_map]
      rfl
    · rw [Arena.parent?_ofPlaces, placed.parentAt_append_places below hm, Document.parent?_arena]
    · rw [Arena.children_ofPlaces grown', placed.childrenAt_append_places below grown before hm,
        Document.children_arena]

end

/-! ### Copies into a builder -/

namespace ArenaBuilder

/-- The text that becomes of the last child of the current node if that is a text and the copied
content, of which `top` are the nodes at the top, begins with one; with the number of that child. -/
def joined? (b : ArenaBuilder) (source : Arena) (top : List Nat) : Option (Nat × String) :=
  match b.lastText?, top.head?.bind source.kind? with
  | some (last, t), some (.leaf (.text s)) => some (last, t ++ s)
  | _, _ => none

/-- The nodes of a source from `first` on, `count` of them, are copied, where `top` are the ones at
the top.  The same elements are open.  All nodes are grafted onto the arena, but for a text that
joins the one before it. -/
structure CopiedFrom (source : Arena) (top : List Nat) (first count : Nat) (b b' : ArenaBuilder) :
    Prop where
  opened : b'.opened = b.opened
  cells : match b.joined? source top with
    | none => Arena.Grafted source top first count b.current b.cells b'.cells
    | some (last, t) =>
      Arena.Grafted source top.tail (first + 1) (count - 1) b.current
        (b.cells.modify last fun c => { c with kind := .leaf (.text t) }) b'.cells

end ArenaBuilder

namespace Builder

/-- The last text is the sibling that was added last. -/
theorem lastText?_arena (b : Builder) :
    b.arena.lastText? = match b.done with
      | .leaf (.text t) rest => some ((places { b with done := rest }).length, t)
      | _ => none := by
  obtain ⟨base, next, opened, done⟩ := b
  cases done with
  | nil => exact lastText?_nil base next opened
  | element e content rest => exact lastText?_element base next opened rest e content
  | leaf l rest =>
    rw [lastText?_leaf]
    cases l <;> rfl

/-- What is added comes last, unless a text comes behind a text. -/
theorem places_addForest {b : Builder} {f : Forest} (merged : f.isMerged)
    (apart : f.startsWithText = false ∨ b.done.startsWithText = false) :
    (b.addForest f).places
      = b.places ++ f.places (innermost b.base b.opened) b.places.length := by
  have done := done_addForest merged apart
  rw [places, places, done, opened_addForest, base_addForest, Forest.reverse_reverseOnto,
    Forest.places_reverseOnto, List.append_assoc, List.length_append, Forest.length_places,
    Forest.size_reverse]
  rfl

variable {source : Document} {f : Forest} {parent first : Nat}

theorem grafted_addForest (b : Builder) (placed : f.PlacedIn source parent first)
    (below : parent < first) (merged : f.isMerged)
    (apart : f.startsWithText = false ∨ b.done.startsWithText = false) :
    Arena.Grafted source.arena (f.topIds first) first f.size b.arena.current b.arena.cells
      (b.addForest f).arena.cells := by
  rw [b.current_arena, arena, arena, places_addForest merged apart]
  exact placed.grafted below b.grown_places b.innermost_lt

/-- What is copied first. -/
theorem kind?_head (placed : f.PlacedIn source parent first) :
    (f.topIds first).head?.bind source.arena.kind? = match f with
      | .nil => none
      | .leaf l _ => some (.leaf l)
      | .element e _ _ => some (.element e) := by
  cases f with
  | nil => rfl
  | leaf l rest => exact (source.kind?_arena first).trans placed.kind?_leaf
  | element e content rest => exact (source.kind?_arena first).trans placed.kind?_element

theorem joined?_of_apart (b : Builder) (placed : f.PlacedIn source parent first)
    (apart : f.startsWithText = false ∨ b.done.startsWithText = false) :
    b.arena.joined? source.arena (f.topIds first) = none := by
  rw [ArenaBuilder.joined?, lastText?_arena, kind?_head placed]
  obtain ⟨base, next, opened, done⟩ := b
  obtain noText | noText := apart
  · cases f with
    | nil | element => cases done with
      | nil | element => rfl
      | leaf l => cases l <;> rfl
    | leaf l after => cases l with
      | text s => cases noText
      | comment | instruction => cases done with
        | nil | element => rfl
        | leaf l => cases l <;> rfl
  · cases done with
    | nil | element => rfl
    | leaf l rest => cases l with
      | text t => cases noText
      | comment | instruction => rfl

/-- **Adding a forest is copying it** from its place in a source. -/
theorem copiedFrom_addForest (b : Builder) (placed : f.PlacedIn source parent first)
    (below : parent < first) (merged : f.isMerged) :
    ArenaBuilder.CopiedFrom source.arena (f.topIds first) first f.size b.arena
      (b.addForest f).arena := by
  have depth : (b.addForest f).arena.opened = b.arena.opened := by
    rw [arena, arena, opened_addForest, base_addForest]
  refine ⟨depth, ?_⟩
  by_cases apart : f.startsWithText = false ∨ b.done.startsWithText = false
  · rw [b.joined?_of_apart placed apart]
    exact grafted_addForest b placed below merged apart
  · simp only [not_or, Bool.not_eq_false] at apart
    obtain ⟨s, after, rfl⟩ := Forest.exists_text_of_startsWithText apart.1
    obtain ⟨t, rest, done⟩ := Forest.exists_text_of_startsWithText apart.2
    obtain ⟨base, next, opened, _⟩ := b
    obtain rfl := done
    obtain ⟨nonempty, noText, mergedAfter⟩ := Forest.isMerged_text.mp merged
    have joins : ArenaBuilder.joined? (arena ⟨base, next, opened, .leaf (.text t) rest⟩)
        source.arena ((Forest.leaf (.text s) after).topIds first)
          = some ((places ⟨base, next, opened, rest⟩).length, t ++ s) := by
      rw [ArenaBuilder.joined?, lastText?_arena, kind?_head placed]
    -- The first text goes into the one before it, and the others behind that one.
    have added : addForest ⟨base, next, opened, .leaf (.text t) rest⟩ (.leaf (.text s) after)
        = addForest ⟨base, next, opened, .leaf (.text (t ++ s)) rest⟩ after := by
      rw [addForest, addLeaf, addText, if_neg nonempty]
    rw [joins, added]
    have grafted := grafted_addForest ⟨base, next, opened, .leaf (.text (t ++ s)) rest⟩
      placed.behind_leaf (Nat.lt_succ_of_lt below) mergedAfter (.inl noText)
    rw [arena_retext base next opened rest t (t ++ s)] at grafted
    exact grafted

variable {i : Nat} {t : Subtree} (h : source.subtree? i = some t) (merged : source.content.isMerged)

include h merged

/-- Adding the content of a node is copying its children. -/
theorem copiedFrom_children (b : Builder) :
    ArenaBuilder.CopiedFrom source.arena (source.arena.children i) (i + 1)
      (source.nodes.extent i - 1) b.arena (b.addForest t.content).arena := by
  rw [Document.extent_eq h, Subtree.size, Nat.add_sub_cancel, Document.children_arena,
    Forest.PlacedIn.children_eq_topIds h]
  exact b.copiedFrom_addForest (.of_subtree? h) (Nat.lt_succ_self i)
    (Document.isMerged_of_subtree? merged h).1

/-- A node other than the document is placed where it is, as a forest of its own. -/
theorem placedIn_toForest (pos : 0 < i) :
    ∃ parent < i, t.toForest.PlacedIn source parent i ∧ t.toForest.topIds i = [i]
      ∧ t.toForest.size = t.size ∧ t.toForest.isMerged := by
  obtain ⟨q, after, drop⟩ := Document.drop_nodeList h
  have here : i < source.size := by
    by_contra beyond
    rw [Document.subtree?_eq_none_iff.mpr (Nat.le_of_not_lt beyond)] at h
    cases h
  obtain ⟨parent, child⟩ := Document.exists_parent? pos here
  refine ⟨parent, (NodeList.inside_of_parent? child).1, ?_⟩
  have own : q = some parent := by
    have nth : (source.nodeList.drop i)[0]? = some ⟨t.kind, q, t.size⟩ := by
      rw [drop]
      rfl
    rw [List.getElem?_drop, Nat.add_zero] at nth
    rw [NodeList.parent?, Document.nodes_getElem?, nth] at child
    exact child
  subst own
  obtain ⟨mergedContent, notEmpty⟩ := Document.isMerged_of_subtree? merged h
  cases t with
  | document d =>
    rw [Document.subtree?, if_neg pos.ne'] at h
    exact absurd h (Forest.subtree?_ne_document _ _ d)
  | element e content =>
    refine ⟨⟨after, ?_⟩, rfl, ?_, ?_⟩
    · rw [drop]
      simp [Subtree.toForest, Forest.nodes, Subtree.kind, Subtree.size, Subtree.content]
    · simp [Subtree.toForest, Forest.size, Subtree.size, Subtree.content]
    · exact Forest.isMerged_element.mpr ⟨mergedContent, rfl⟩
  | leaf l =>
    have alone : (Forest.leaf l .nil).isMerged := by
      cases l with
      | text s => exact Forest.isMerged_text.mpr ⟨fun empty => notEmpty (by rw [empty]), rfl, rfl⟩
      | comment | instruction => rfl
    have same : Subtree.toForest (.leaf l) = .leaf l .nil := Forest.consLeaf_of_isMerged alone
    rw [same]
    exact ⟨⟨after, drop⟩, rfl, rfl, alone⟩

/-- Adding a node is copying it. -/
theorem copiedFrom_node (pos : 0 < i) (b : Builder) :
    ArenaBuilder.CopiedFrom source.arena [i] i (source.nodes.extent i) b.arena
      (b.addForest t.toForest).arena := by
  obtain ⟨parent, below, placed, top, size, mergedNode⟩ := placedIn_toForest h merged pos
  rw [Document.extent_eq h, ← size, ← top]
  exact b.copiedFrom_addForest placed below mergedNode

end Builder

end Transclusion
