import Transclusion.Proofs.Markup.Names
/-!
# Numbers of nodes

The node with the number `i` stands at place `i` in the list of all nodes, and right behind it the
nodes inside it.  So the nodes from `i` on, as many as the subtree has, are the subtree.

* `Document.drop_nodeList`: the nodes from a number on.
* `NodeList.parent?_inside`: a node inside a subtree has its parent in the subtree.
* `NodeList.mem_ancestors_iff`: the ancestors of a node are the nodes that it is inside of.
-/

namespace Transclusion

/-- What a node is, apart from its content. -/
def Subtree.kind : Subtree → NodeKind
  | document d => .document d.base
  | element e _ => .element e
  | leaf l => .leaf l

/-- The number of nodes in a subtree. -/
def Subtree.size (t : Subtree) : Nat := t.content.size + 1

/-! ### Forests -/

namespace Forest

theorem subtree?_eq_none_iff {f : Forest} {k : Nat} : f.subtree? k = none ↔ f.size ≤ k := by
  induction f generalizing k with
  | nil => simp [subtree?, size]
  | leaf l rest ih =>
    by_cases hk : k = 0
    · simp [subtree?, size, hk]
    · rw [subtree?, if_neg hk, ih, size]
      omega
  | element e content rest ihc ihr =>
    by_cases hk : k = 0
    · simp [subtree?, size, hk]
    · rw [subtree?, if_neg hk, size]
      by_cases inside : k - 1 < content.size
      · rw [if_pos inside, ihc]
        omega
      · rw [if_neg inside, ihr]
        omega

/-- No node of a forest is a document. -/
theorem subtree?_ne_document (f : Forest) (i : Nat) (d : Document) :
    f.subtree? i ≠ some (.document d) := by
  induction f generalizing i with
  | nil => rintro ⟨⟩
  | leaf l rest ih =>
    rw [subtree?]
    split
    · rintro ⟨⟩
    · exact ih (i - 1)
  | element e content rest ihc ihr =>
    rw [subtree?]
    split
    · rintro ⟨⟩
    split
    · exact ihc (i - 1)
    · exact ihr (i - 1 - content.size)

/-- The nodes behind an element come after all that is inside it. -/
theorem getElem?_nodes_behind (e : Element) (content rest : Forest) (parent first m : Nat) :
    ((element e content rest).nodes parent first)[content.size + m + 1]?
      = (rest.nodes parent (first + content.size + 1))[m]? := by
  rw [nodes, List.cons_append, List.getElem?_cons_succ,
    List.getElem?_append_right (by rw [length_nodes]; omega), length_nodes, Nat.add_sub_cancel_left]

/-- From the place of a node on, the list of nodes holds the node, the nodes inside it, and then
others. -/
theorem drop_nodes {f : Forest} {k : Nat} {t : Subtree} (parent first : Nat)
    (h : f.subtree? k = some t) :
    ∃ q after, (f.nodes parent first).drop k
      = ⟨t.kind, some q, t.size⟩ :: t.content.nodes (first + k) (first + k + 1) ++ after := by
  -- Along the cases of a look-up: the node comes first, is inside the first element, or behind it.
  induction f generalizing k parent first with
  | nil => cases h
  | leaf l rest ih =>
    rw [subtree?] at h
    split at h
    · next hk =>
      cases h
      subst hk
      exact ⟨parent, rest.nodes parent (first + 1), rfl⟩
    · next hk =>
      obtain ⟨q, after, hdrop⟩ := ih parent (first + 1) h
      refine ⟨q, after, ?_⟩
      obtain ⟨k, rfl⟩ := Nat.exists_eq_succ_of_ne_zero hk
      rw [nodes, List.drop_succ_cons]
      rw [show first + 1 + (k.succ - 1) = first + k.succ by omega] at hdrop
      exact hdrop
  | element e content rest ihc ihr =>
    rw [subtree?] at h
    split at h
    · next hk =>
      cases h
      subst hk
      exact ⟨parent, rest.nodes parent (first + content.size + 1), rfl⟩
    next hk =>
    obtain ⟨k, rfl⟩ := Nat.exists_eq_succ_of_ne_zero hk
    rw [nodes, List.cons_append, List.drop_succ_cons]
    split at h
    · next inside =>
      obtain ⟨q, after, hdrop⟩ := ihc first (first + 1) h
      refine ⟨q, after ++ rest.nodes parent (first + content.size + 1), ?_⟩
      have hle : k ≤ (content.nodes first (first + 1)).length := by
        rw [length_nodes]
        omega
      rw [List.drop_append_of_le_length hle]
      rw [show first + 1 + (k.succ - 1) = first + k.succ by omega] at hdrop
      have hinner : (content.nodes first (first + 1)).drop k
          = ⟨t.kind, some q, t.size⟩
              :: t.content.nodes (first + k.succ) (first + k.succ + 1) ++ after := hdrop
      rw [hinner, List.append_assoc]
    · next outside =>
      obtain ⟨q, after, hdrop⟩ := ihr parent (first + content.size + 1) h
      refine ⟨q, after, ?_⟩
      rw [List.drop_append, List.drop_eq_nil_of_le (by rw [length_nodes]; omega), List.nil_append,
        length_nodes]
      rw [show first + content.size + 1 + (k.succ - 1 - content.size) = first + k.succ by omega]
        at hdrop
      exact hdrop

/-- The nodes inside a node of a forest are counted in the size of the forest. -/
theorem add_size_le {f : Forest} {k : Nat} {t : Subtree} (h : f.subtree? k = some t) :
    k + t.size ≤ f.size := by
  obtain ⟨q, after, hdrop⟩ := drop_nodes 0 0 h
  have hlength := congrArg List.length hdrop
  rw [List.length_drop, length_nodes, List.length_append, List.length_cons, length_nodes] at hlength
  rw [Subtree.size]
  omega

/-- The parent of a node in a forest is the one given, or a node before it in the forest. -/
theorem parent_of_mem_nodes {f : Forest} {parent first m : Nat} {n : Node} (before : parent < first)
    (h : (f.nodes parent first)[m]? = some n) :
    ∃ q, n.parent = some q ∧ parent ≤ q ∧ q < first + m := by
  induction f generalizing parent first m with
  | nil => cases h
  | leaf l rest ih =>
    cases m with
    | zero =>
      cases h
      exact ⟨parent, rfl, Nat.le_refl parent, before⟩
    | succ m =>
      obtain ⟨q, hq, hle, hlt⟩ := ih (Nat.lt_succ_of_lt before) h
      exact ⟨q, hq, hle, by omega⟩
  | element e content rest ihc ihr =>
    cases m with
    | zero =>
      cases h
      exact ⟨parent, rfl, Nat.le_refl parent, before⟩
    | succ m =>
      rw [nodes, List.cons_append, List.getElem?_cons_succ] at h
      by_cases inside : m < content.size
      · rw [List.getElem?_append_left (by rwa [length_nodes])] at h
        obtain ⟨q, hq, hle, hlt⟩ := ihc (Nat.lt_succ_self first) h
        exact ⟨q, hq, by omega, by omega⟩
      · rw [List.getElem?_append_right (by rw [length_nodes]; omega), length_nodes] at h
        obtain ⟨q, hq, hle, hlt⟩ := ihr (by omega) h
        exact ⟨q, hq, hle, by omega⟩

/-- The nodes inside a node of a forest are in the forest. -/
theorem extent_le {f : Forest} {parent first m : Nat} {n : Node}
    (h : (f.nodes parent first)[m]? = some n) : m + n.extent ≤ f.size := by
  induction f generalizing parent first m with
  | nil => cases h
  | leaf l rest ih =>
    rw [size]
    cases m with
    | zero =>
      cases h
      dsimp only
      omega
    | succ m =>
      have hle := ih h
      omega
  | element e content rest ihc ihr =>
    rw [size]
    cases m with
    | zero =>
      cases h
      dsimp only
      omega
    | succ m =>
      rw [nodes, List.cons_append, List.getElem?_cons_succ] at h
      by_cases inside : m < content.size
      · rw [List.getElem?_append_left (by rwa [length_nodes])] at h
        have hle := ihc h
        omega
      · rw [List.getElem?_append_right (by rw [length_nodes]; omega), length_nodes] at h
        have hle := ihr h
        omega

/-- The parent of a node in a forest is the one given, or a node of the forest that it is inside
of. -/
theorem inside_parent {f : Forest} {parent first m : Nat} {n : Node}
    (h : (f.nodes parent first)[m]? = some n) :
    n.parent = some parent ∨ ∃ k n', n.parent = some (first + k) ∧ k < m
      ∧ (f.nodes parent first)[k]? = some n' ∧ m < k + n'.extent := by
  induction f generalizing parent first m with
  | nil => cases h
  | leaf l rest ih =>
    cases m with
    | zero =>
      cases h
      exact .inl rfl
    | succ m =>
      have later : (rest.nodes parent (first + 1))[m]? = some n := h
      obtain top | ⟨k, n', hparent, before, hk, inside⟩ := ih later
      · exact .inl top
      · exact .inr ⟨k + 1, n', by rw [hparent, Nat.add_right_comm, Nat.add_assoc], by omega, hk,
          by omega⟩
  | element e content rest ihc ihr =>
    cases m with
    | zero =>
      cases h
      exact .inl rfl
    | succ m =>
      by_cases within : m < content.size
      · rw [nodes, List.cons_append, List.getElem?_cons_succ,
          List.getElem?_append_left (by rwa [length_nodes])] at h
        obtain top | ⟨k, n', hparent, before, hk, inside⟩ := ihc h
        · -- At the top of the content, where the parent is the element.
          refine .inr ⟨0, ⟨.element e, some parent, content.size + 1⟩, top, by omega, rfl, ?_⟩
          dsimp only
          omega
        · refine .inr ⟨k + 1, n', by rw [hparent, Nat.add_right_comm, Nat.add_assoc], by omega, ?_,
            by omega⟩
          rw [nodes, List.cons_append, List.getElem?_cons_succ,
            List.getElem?_append_left (by rw [length_nodes]; omega)]
          exact hk
      · obtain ⟨m, rfl⟩ : ∃ m', m = content.size + m' := ⟨m - content.size, by omega⟩
        rw [getElem?_nodes_behind] at h
        obtain top | ⟨k, n', hparent, before, hk, inside⟩ := ihr h
        · exact .inl top
        · refine .inr ⟨content.size + k + 1, n', ?_, by omega, ?_, by omega⟩
          · rw [hparent]
            congr 1
            omega
          · rwa [getElem?_nodes_behind]

end Forest

/-! ### Documents -/

namespace Document

/-- All nodes of a document in document order. -/
def nodeList (d : Document) : List Node :=
  ⟨.document d.base, none, d.size⟩ :: d.content.nodes 0 1

theorem nodes_eq (d : Document) : d.nodes = ⟨d.nodeList.toArray⟩ := rfl

theorem length_nodeList (d : Document) : d.nodeList.length = d.size := by
  rw [nodeList, List.length_cons, Forest.length_nodes, size]

theorem nodes_getElem? (d : Document) (i : Nat) : d.nodes.nodes[i]? = d.nodeList[i]? := by
  rw [nodes_eq, List.getElem?_toArray]

theorem size_nodes (d : Document) : d.nodes.size = d.size := by
  rw [NodeList.size, nodes_eq, List.size_toArray, length_nodeList]

theorem subtree?_eq_none_iff {d : Document} {i : Nat} : d.subtree? i = none ↔ d.size ≤ i := by
  unfold subtree? size
  split
  · next hi => simp [hi]
  · rw [Forest.subtree?_eq_none_iff]
    omega

/-- From number `i` on there come the node `i`, the nodes inside it, and then others. -/
theorem drop_nodeList {d : Document} {i : Nat} {t : Subtree} (h : d.subtree? i = some t) :
    ∃ q after, d.nodeList.drop i = ⟨t.kind, q, t.size⟩ :: t.content.nodes i (i + 1) ++ after := by
  rw [subtree?] at h
  split at h
  · next hi =>
    cases h
    subst hi
    exact ⟨none, [], (List.append_nil _).symm⟩
  · next hi =>
    obtain ⟨k, rfl⟩ := Nat.exists_eq_succ_of_ne_zero hi
    obtain ⟨q, after, hdrop⟩ := Forest.drop_nodes 0 1 h
    rw [show 1 + (k.succ - 1) = k.succ by omega] at hdrop
    exact ⟨some q, after, hdrop⟩

variable {d : Document} {i : Nat} {t : Subtree}

theorem nodeList_getElem? (h : d.subtree? i = some t) :
    ∃ q, d.nodeList[i]? = some ⟨t.kind, q, t.size⟩ := by
  obtain ⟨q, after, hdrop⟩ := drop_nodeList h
  have hhead : (d.nodeList.drop i)[0]? = some ⟨t.kind, q, t.size⟩ := by
    rw [hdrop]
    rfl
  rw [List.getElem?_drop] at hhead
  exact ⟨q, hhead⟩

/-- An element has the number of a node, but not that of the document. -/
theorem bounds_of_element? {e : Element} (h : d.nodes.element? i = some e) :
    1 ≤ i ∧ i < d.size := by
  obtain ⟨n, hn, hkind⟩ := NodeList.element?_eq_some_iff.mp h
  rw [nodes_getElem?] at hn
  constructor
  · refine Nat.pos_of_ne_zero fun hi => ?_
    subst hi
    cases hn
    cases hkind
  · rw [← length_nodeList]
    exact (List.getElem?_eq_some_iff.mp hn).1

theorem element?_of_subtree? {e : Element} {content : Forest}
    (h : d.subtree? i = some (.element e content)) : d.nodes.element? i = some e := by
  obtain ⟨q, hq⟩ := nodeList_getElem? h
  rw [NodeList.element?_eq_some_iff, nodes_getElem?, hq]
  exact ⟨_, rfl, rfl⟩

theorem extent_eq (h : d.subtree? i = some t) : d.nodes.extent i = t.size := by
  obtain ⟨q, hq⟩ := nodeList_getElem? h
  rw [NodeList.extent, nodes_getElem?, hq]
  rfl

theorem nodeList_inside (h : d.subtree? i = some t) {m : Nat} (hm : m < t.content.size) :
    d.nodeList[i + 1 + m]? = (t.content.nodes i (i + 1))[m]? := by
  obtain ⟨q, after, hdrop⟩ := drop_nodeList h
  have hget : (d.nodeList.drop i)[m + 1]? = (t.content.nodes i (i + 1))[m]? := by
    rw [hdrop, List.cons_append, List.getElem?_cons_succ,
      List.getElem?_append_left (by rwa [Forest.length_nodes])]
  rw [List.getElem?_drop, show i + (m + 1) = i + 1 + m by omega] at hget
  exact hget

/-- A number that is in use is that of a node. -/
theorem exists_subtree? (h : i < d.size) : ∃ t, d.subtree? i = some t := by
  cases ht : d.subtree? i with
  | none => exact absurd (subtree?_eq_none_iff.mp ht) (Nat.not_le.mpr h)
  | some t => exact ⟨t, rfl⟩

theorem extent_eq_zero (h : d.size ≤ i) : d.nodes.extent i = 0 := by
  rw [NodeList.extent, nodes_getElem?, List.getElem?_eq_none (by rwa [length_nodeList])]
  rfl

/-- The nodes inside a node have numbers in the document. -/
theorem extent_le (h : d.subtree? i = some t) : i + t.size ≤ d.size := by
  rw [subtree?] at h
  split at h
  · next hi =>
    cases h
    subst hi
    exact Nat.le_of_eq (Nat.zero_add _)
  · next hi =>
    have hle := Forest.add_size_le h
    rw [size]
    omega

end Document

/-! ### Ancestors -/

namespace NodeList

variable {d : Document} {i j : Nat}

/-- The parent of a node inside another one is that one, or inside it as well. -/
theorem parent?_inside (after : i < j) (inside : j < i + d.nodes.extent i) :
    ∃ q, d.nodes.parent? j = some q ∧ i ≤ q ∧ q < j := by
  have hi : i < d.size := by
    refine Nat.lt_of_not_le fun hge => ?_
    rw [Document.extent_eq_zero hge] at inside
    omega
  obtain ⟨t, ht⟩ := Document.exists_subtree? hi
  rw [Document.extent_eq ht, Subtree.size] at inside
  obtain ⟨m, rfl⟩ : ∃ m, j = i + 1 + m := ⟨j - (i + 1), by omega⟩
  have hm : m < t.content.size := by omega
  have hget := Document.nodeList_inside ht hm
  obtain ⟨n, hn⟩ : ∃ n, (t.content.nodes i (i + 1))[m]? = some n :=
    ⟨_, List.getElem?_eq_getElem (by rwa [Forest.length_nodes])⟩
  obtain ⟨q, hq, hle, hlt⟩ := Forest.parent_of_mem_nodes (Nat.lt_succ_self i) hn
  refine ⟨q, ?_, hle, hlt⟩
  rw [parent?, Document.nodes_getElem?, hget, hn]
  exact hq

/-- A node that another one is inside of is among its ancestors. -/
theorem mem_ancestors_of_inside (after : i < j) (inside : j < i + d.nodes.extent i) :
    i ∈ d.nodes.ancestors j := by
  -- Parents come before their children, so the induction goes up along them to `i`.
  induction j using Nat.strongRecOn with
  | ind j ih =>
    obtain ⟨q, hq, hle, hlt⟩ := parent?_inside after inside
    have hancestors : d.nodes.ancestors j = q :: d.nodes.ancestors q := by
      rw [ancestors, hq]
      exact if_pos hlt
    rw [hancestors, List.mem_cons]
    obtain rfl | hiq := Nat.eq_or_lt_of_le hle
    · exact .inl rfl
    · exact .inr (ih q hlt hiq (by omega))

/-- A node is inside its parent. -/
theorem inside_of_parent? {q : Nat} (h : d.nodes.parent? j = some q) :
    q < j ∧ j < q + d.nodes.extent q := by
  obtain ⟨n, hn, hparent⟩ := Option.bind_eq_some_iff.mp h
  rw [Document.nodes_getElem?] at hn
  cases j with
  | zero =>
    cases hn
    cases hparent
  | succ k =>
    replace hn : (d.content.nodes 0 1)[k]? = some n := hn
    have hextent : ∀ i, d.nodes.extent i = ((d.nodeList[i]?).map (·.extent)).getD 0 := by
      intro i
      rw [extent, Document.nodes_getElem?]
    rw [hextent]
    -- The parent is the document itself, or another node of its content.
    obtain top | ⟨k', n', hparent', before, hn', inside⟩ := Forest.inside_parent hn
    · cases top.symm.trans hparent
      have hlt := (List.getElem?_eq_some_iff.mp hn).1
      rw [Forest.length_nodes] at hlt
      refine ⟨Nat.succ_pos k, ?_⟩
      show k + 1 < 0 + d.size
      rw [Document.size]
      omega
    · cases hparent'.symm.trans hparent
      have found : d.nodeList[1 + k']? = some n' := by
        rw [Nat.add_comm]
        exact hn'
      rw [found, Option.map_some, Option.getD_some]
      omega

theorem lt_size_of_parent? {q : Nat} (h : d.nodes.parent? j = some q) : j < d.size := by
  obtain ⟨n, hn, -⟩ := Option.bind_eq_some_iff.mp h
  rw [Document.nodes_getElem?] at hn
  rw [← Document.length_nodeList]
  exact (List.getElem?_eq_some_iff.mp hn).1

/-- The children of a node are the nodes that have it as their parent. -/
theorem mem_children : j ∈ d.nodes.children i ↔ d.nodes.parent? j = some i := by
  rw [children, List.mem_filter, List.mem_range'_1, decide_eq_true_eq]
  refine and_iff_right_of_imp fun h => ?_
  have inside := inside_of_parent? h
  omega

theorem pairwise_children (ns : NodeList) (i : Nat) : (ns.children i).Pairwise (· < ·) :=
  List.Pairwise.filter _ List.pairwise_lt_range'

/-- What is inside a node inside another one is inside that one as well. -/
theorem extent_nested (after : i < j) (inside : j < i + d.nodes.extent i) :
    j + d.nodes.extent j ≤ i + d.nodes.extent i := by
  have hi : i < d.size := by
    refine Nat.lt_of_not_le fun hge => ?_
    rw [Document.extent_eq_zero hge] at inside
    omega
  obtain ⟨t, ht⟩ := Document.exists_subtree? hi
  rw [Document.extent_eq ht, Subtree.size] at inside ⊢
  obtain ⟨m, rfl⟩ : ∃ m, j = i + 1 + m := ⟨j - (i + 1), by omega⟩
  have hm : m < t.content.size := by omega
  obtain ⟨n, hn⟩ : ∃ n, (t.content.nodes i (i + 1))[m]? = some n :=
    ⟨_, List.getElem?_eq_getElem (by rwa [Forest.length_nodes])⟩
  have hextent : d.nodes.extent (i + 1 + m) = n.extent := by
    rw [extent, Document.nodes_getElem?, Document.nodeList_inside ht hm, hn]
    rfl
  have hle := Forest.extent_le hn
  omega

/-- The nodes inside a node have numbers in the document. -/
theorem add_extent_le (h : i < d.nodes.size) : i + d.nodes.extent i ≤ d.nodes.size := by
  rw [Document.size_nodes] at h ⊢
  obtain ⟨t, ht⟩ := Document.exists_subtree? h
  rw [Document.extent_eq ht]
  exact Document.extent_le ht

theorem mem_descendants : j ∈ d.nodes.descendants i ↔ i < j ∧ j < i + d.nodes.extent i := by
  rw [descendants, List.mem_range'_1]
  omega

/-- An element is inside the document. -/
theorem inside_document (element : d.nodes.isElement i = true) : i ∈ d.nodes.descendants 0 := by
  obtain ⟨e, found⟩ := Option.isSome_iff_exists.mp element
  obtain ⟨pos, within⟩ := Document.bounds_of_element? found
  rw [mem_descendants]
  exact ⟨pos, (Nat.zero_add _).symm ▸ within⟩

/-- The ancestors of a node are the nodes that it is inside of. -/
theorem mem_ancestors_iff : i ∈ d.nodes.ancestors j ↔ j ∈ d.nodes.descendants i := by
  rw [mem_descendants]
  constructor
  · intro h
    induction j using Nat.strongRecOn with
    | ind j ih =>
      rw [ancestors] at h
      cases hq : d.nodes.parent? j with
      | none =>
        rw [hq] at h
        cases h
      | some q =>
        obtain ⟨before, inside⟩ := inside_of_parent? hq
        rw [hq] at h
        simp only [before, if_true, List.mem_cons] at h
        obtain rfl | above := h
        · exact ⟨before, inside⟩
        · obtain ⟨after, within⟩ := ih q before above
          have nested := extent_nested after within
          omega
  · rintro ⟨after, inside⟩
    exact mem_ancestors_of_inside after inside

end NodeList

end Transclusion
