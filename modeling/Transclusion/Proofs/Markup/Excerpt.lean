import Transclusion.Proofs.Markup.Numbering
/-!
# Excerpts

An element of a document, taken out as a document of its own (`Document.excerpt`).  Its nodes are
those of the subtree under other numbers: if the element has the number `offset + 1` in the
document, then the node `i` of the excerpt is the node `i + offset` of the document, and what is
said of a node with reference to its subtree alone is the same of both.

* `Excerpt.element?_eq`, `Excerpt.extent_eq`, `Excerpt.subtree?_eq`: the nodes are the same.
* `Excerpt.elementChildren_eq`, `Excerpt.mem_descendants_iff`: so are children and what is inside.
* `Excerpt.elementWithId?_eq`: an `xml:id` that is found inside the element is found in the excerpt.
-/

namespace Transclusion

/-! ### Numbers that are moved -/

/-- The node with its parent's number raised. -/
def Node.shift (offset : Nat) (n : Node) : Node := { n with parent := n.parent.map (· + offset) }

namespace Forest

/-- The nodes of a forest under higher numbers. -/
theorem nodes_shift (offset parent first : Nat) (f : Forest) :
    f.nodes (parent + offset) (first + offset)
      = (f.nodes parent first).map (Node.shift offset) := by
  induction f generalizing parent first with
  | nil => rfl
  | leaf l rest ih =>
    rw [nodes, nodes, List.map_cons, ← ih, Nat.add_right_comm]
    rfl
  | element e content rest ihc ihr =>
    rw [nodes, nodes, List.cons_append, List.cons_append, List.map_cons, List.map_append, ← ihc,
      ← ihr, Nat.add_right_comm first offset 1, Nat.add_right_comm first offset content.size,
      Nat.add_right_comm (first + content.size) offset 1]
    rfl

/-- A node inside another one is found in the content of that. -/
theorem subtree?_inside {f : Forest} {i : Nat} {t : Subtree} (h : f.subtree? i = some t) {k : Nat}
    (hk : k < t.content.size) : f.subtree? (i + 1 + k) = t.content.subtree? k := by
  induction f generalizing i with
  | nil => cases h
  | leaf l rest ih =>
    rw [subtree?] at h
    split at h
    · cases h
      cases hk
    · next hi =>
      rw [subtree?, if_neg (by omega), show i + 1 + k - 1 = i - 1 + 1 + k by omega]
      exact ih h
  | element e content rest ihc ihr =>
    rw [subtree?] at h
    split at h
    · next hi =>
      cases h
      subst hi
      replace hk : k < content.size := hk
      rw [subtree?, if_neg (by omega), show 0 + 1 + k - 1 = k by omega, if_pos hk]
      rfl
    · next hi =>
      split at h
      · next inside =>
        have hle : i - 1 + 1 + k < content.size := by
          have hle := add_size_le h
          rw [Subtree.size] at hle
          omega
        rw [subtree?, if_neg (by omega), show i + 1 + k - 1 = i - 1 + 1 + k by omega, if_pos hle]
        exact ihc h
      · next outside =>
        rw [subtree?, if_neg (by omega), if_neg (by omega),
          show i + 1 + k - 1 - content.size = i - 1 - content.size + 1 + k by omega]
        exact ihr h

end Forest

/-! ### Excerpts -/

/-- An element with its content as a document of its own. -/
def Document.excerpt (e : Element) (content : Forest) : Document :=
  ⟨e.base, .element e content .nil⟩

/-- The element stands in the document under the number `offset + 1`. -/
structure Excerpt (d : Document) (offset : Nat) (e : Element) (content : Forest) : Prop where
  subtree : d.subtree? (offset + 1) = some (.element e content)

namespace Excerpt

variable {d : Document} {offset i : Nat} {e : Element} {content : Forest}

theorem size_excerpt : (Document.excerpt e content).size = content.size + 2 := by
  simp [Document.excerpt, Document.size, Forest.size]

/-- The excerpt is an excerpt of itself. -/
theorem self (e : Element) (content : Forest) :
    Excerpt (.excerpt e content) 0 e content := ⟨rfl⟩

variable (h : Excerpt d offset e content)

include h

/-- The nodes inside the element. -/
theorem nodeList_inside {k : Nat} (hk : k < content.size) :
    d.nodeList[offset + 2 + k]? = ((content.nodes 1 2)[k]?).map (Node.shift offset) := by
  have inside := Document.nodeList_inside h.subtree hk
  rw [show Subtree.content (.element e content) = content from rfl,
    show offset + 1 = 1 + offset by omega, show 1 + offset + 1 = 2 + offset by omega,
    Forest.nodes_shift, List.getElem?_map] at inside
  rw [Nat.add_comm offset 2]
  exact inside

/-- The nodes behind the first are the same, with their parents' numbers raised. -/
theorem nodeList_behind (hi : 2 ≤ i) (hsize : i < (Document.excerpt e content).size) :
    d.nodeList[i + offset]?
      = ((Document.excerpt e content).nodeList[i]?).map (Node.shift offset) := by
  rw [size_excerpt] at hsize
  obtain ⟨k, rfl⟩ : ∃ k, i = 2 + k := ⟨i - 2, by omega⟩
  have own := (self e content).nodeList_inside (k := k) (by omega)
  have same : Node.shift 0 = id := by
    funext n
    simp [Node.shift]
  rw [same, Option.map_id_fun, id, Nat.zero_add] at own
  rw [own, show 2 + k + offset = offset + 2 + k by omega]
  exact h.nodeList_inside (by omega)

variable (hi : 1 ≤ i) (hsize : i < (Document.excerpt e content).size)

include hi hsize

/-- A node of the excerpt and the node of the document that it stands for. -/
theorem exists_node : ∃ n n', (Document.excerpt e content).nodeList[i]? = some n
    ∧ d.nodeList[i + offset]? = some n' ∧ n'.kind = n.kind ∧ n'.extent = n.extent
    ∧ (2 ≤ i → n'.parent = n.parent.map (· + offset)) := by
  obtain rfl | behind := Nat.eq_or_lt_of_le hi
  · obtain ⟨q, hq⟩ := Document.nodeList_getElem? h.subtree
    rw [Nat.add_comm] at hq
    exact ⟨⟨.element e, some 0, content.size + 1⟩, _, rfl, hq, rfl, rfl, by omega⟩
  · have same := h.nodeList_behind behind hsize
    obtain ⟨n, hn⟩ : ∃ n, (Document.excerpt e content).nodeList[i]? = some n :=
      ⟨_, List.getElem?_eq_getElem (by rwa [Document.length_nodeList])⟩
    rw [hn] at same
    exact ⟨n, _, hn, same, rfl, rfl, fun _ => rfl⟩

theorem kind?_eq : d.nodes.kind? (i + offset) = (Document.excerpt e content).nodes.kind? i := by
  obtain ⟨n, n', hn, hn', kind, -, -⟩ := h.exists_node hi hsize
  rw [NodeList.kind?, NodeList.kind?, Document.nodes_getElem?, Document.nodes_getElem?, hn, hn',
    Option.map_some, Option.map_some, kind]

theorem extent_eq : d.nodes.extent (i + offset) = (Document.excerpt e content).nodes.extent i := by
  obtain ⟨n, n', hn, hn', -, extent, -⟩ := h.exists_node hi hsize
  rw [NodeList.extent, NodeList.extent, Document.nodes_getElem?, Document.nodes_getElem?, hn, hn',
    Option.map_some, Option.map_some, extent]

theorem element?_eq :
    d.nodes.element? (i + offset) = (Document.excerpt e content).nodes.element? i := by
  rw [NodeList.element?, NodeList.element?, h.kind?_eq hi hsize]

theorem subtree?_eq : d.subtree? (i + offset) = (Document.excerpt e content).subtree? i := by
  obtain rfl | behind := Nat.eq_or_lt_of_le hi
  · rw [Nat.add_comm, h.subtree]
    rfl
  · rw [size_excerpt] at hsize
    obtain ⟨k, rfl⟩ : ∃ k, i = 2 + k := ⟨i - 2, by omega⟩
    have hk : k < content.size := by omega
    have own : (Document.excerpt e content).subtree? (2 + k) = content.subtree? k := by
      rw [Document.subtree?, if_neg (by omega), show 2 + k - 1 = 0 + 1 + k by omega]
      exact Forest.subtree?_inside (t := .element e content) rfl hk
    have there := h.subtree
    rw [Document.subtree?, if_neg (by omega), Nat.add_sub_cancel] at there
    rw [own, Document.subtree?, if_neg (by omega),
      show 2 + k + offset - 1 = offset + 1 + k by omega]
    exact Forest.subtree?_inside there hk

omit hi in
theorem parent?_eq (behind : 2 ≤ i) :
    d.nodes.parent? (i + offset)
      = ((Document.excerpt e content).nodes.parent? i).map (· + offset) := by
  obtain ⟨n, n', hn, hn', -, -, parent⟩ := h.exists_node (by omega) hsize
  rw [NodeList.parent?, NodeList.parent?, Document.nodes_getElem?, Document.nodes_getElem?, hn, hn',
    Option.bind_some, Option.bind_some, parent behind]

theorem elementChildren_eq :
    d.nodes.elementChildren (i + offset)
      = ((Document.excerpt e content).nodes.elementChildren i).map (· + offset) := by
  have numbers : List.range' (i + offset + 1) (d.nodes.extent (i + offset) - 1)
      = (List.range' (i + 1) ((Document.excerpt e content).nodes.extent i - 1)).map
          (· + offset) := by
    rw [h.extent_eq hi hsize]
    simp only [Nat.add_comm _ offset, List.map_add_range', Nat.add_assoc]
  obtain ⟨t, ht⟩ := Document.exists_subtree? hsize
  have hle := Document.extent_le ht
  rw [← Document.extent_eq ht] at hle
  have inside : ∀ j ∈ List.range' (i + 1) ((Document.excerpt e content).nodes.extent i - 1),
      2 ≤ j ∧ j < (Document.excerpt e content).size := by
    intro j hj
    rw [List.mem_range'_1] at hj
    omega
  have children : (Document.excerpt e content).nodes.children i
      = (List.range' (i + 1) ((Document.excerpt e content).nodes.extent i - 1)).filter
          fun j => d.nodes.parent? (j + offset) = some (i + offset) := by
    refine List.filter_congr fun j hj => ?_
    rw [h.parent?_eq (inside j hj).2 (inside j hj).1]
    cases (Document.excerpt e content).nodes.parent? j <;> simp
  rw [NodeList.elementChildren, NodeList.elementChildren, NodeList.children, numbers,
    List.filter_map, List.filter_map, children]
  congr 1
  refine List.filter_congr fun j hj => ?_
  have there := inside j (List.mem_filter.mp hj).1
  rw [Function.comp, NodeList.isElement, NodeList.isElement, h.element?_eq (by omega) there.2]

omit hi hsize

/-- The nodes of the excerpt around a node are those around it in the document. -/
theorem mem_descendants_iff {j : Nat} (hi : 1 ≤ i) (hsize : i < (Document.excerpt e content).size) :
    j + offset ∈ d.nodes.descendants (i + offset)
      ↔ j ∈ (Document.excerpt e content).nodes.descendants i := by
  rw [NodeList.mem_descendants, NodeList.mem_descendants, h.extent_eq hi hsize]
  omega

/-- The elements with an `xml:id` are the same. -/
theorem hasId_iff {id : String} (hi : 1 ≤ i) (hsize : i < (Document.excerpt e content).size) :
    (d.nodes.element? (i + offset)).bind (·.attribute? (.xml "id")) = some id
      ↔ ((Document.excerpt e content).nodes.element? i).bind (·.attribute? (.xml "id"))
          = some id := by
  rw [h.element?_eq hi hsize]

/-- The first element with an `xml:id`, if it is in the excerpt. -/
theorem elementWithId?_eq {id : String} (found : d.nodes.elementWithId? id = some (i + offset))
    (hi : 1 ≤ i) (hsize : i < (Document.excerpt e content).size) :
    (Document.excerpt e content).nodes.elementWithId? id = some i := by
  rw [NodeList.elementWithId?, NodeList.numbers, List.find?_range_eq_some] at found ⊢
  obtain ⟨here, -, before⟩ := found
  rw [decide_eq_true_iff, h.hasId_iff hi hsize] at here
  refine ⟨decide_eq_true here, ?_, fun j hj => ?_⟩
  · rwa [List.mem_range, Document.size_nodes]
  · cases j with
    | zero => rfl
    | succ j =>
      have other := before (j + 1 + offset) (by omega)
      simpa only [h.hasId_iff (Nat.succ_pos j) (Nat.lt_trans hj hsize)] using other

/-- An `xml:id` that is nowhere in the document is not in the excerpt. -/
theorem elementWithId?_eq_none {id : String} (missing : d.nodes.elementWithId? id = none) :
    (Document.excerpt e content).nodes.elementWithId? id = none := by
  rw [NodeList.elementWithId?, List.find?_eq_none] at missing ⊢
  intro i hi here
  rw [decide_eq_true_iff] at here
  rw [NodeList.numbers, List.mem_range, Document.size_nodes] at hi
  obtain rfl | hpos := Nat.eq_zero_or_pos i
  · cases here
  · have inside := (h.hasId_iff hpos hi).mpr here
    refine missing (i + offset) ?_ (decide_eq_true inside)
    rw [NodeList.numbers, List.mem_range, Document.size_nodes]
    have hle := Document.extent_le h.subtree
    rw [Subtree.size, show Subtree.content (.element e content) = content from rfl] at hle
    rw [size_excerpt] at hi
    omega

end Excerpt

end Transclusion
