import Transclusion.Proofs.Fixup.Attributes
import Transclusion.Proofs.Markup.Excerpt
import Transclusion.Proofs.Markup.Merged
/-!
# Other elements in the same places

A document is recast if its elements are exchanged for others, each in its place, and all else is
left as it is.  What may come in the place of an element can depend on its number and on that of its
parent, so that the elements at the top can be told from the others, and one from all others.

* `Document.Recast.element?` and so on: what is asked of a node by its number.
* `Document.Recast.subtree?_eq`: where no elements are exchanged, the nodes have the same inside
  them.
-/

namespace Transclusion

/-- What may come in the place of an element, given the numbers of its parent and itself. -/
abbrev Casting := Nat → Nat → Element → Element → Prop

/-- A forest below the node `parent`, its first node having the number `first`, is recast. -/
inductive Forest.Recast (may : Casting) : Nat → Nat → Forest → Forest → Prop where
  | nil (parent first : Nat) : Recast may parent first nil nil
  | leaf {parent first : Nat} {l : Leaf} {rest rest' : Forest}
      (behind : Recast may parent (first + 1) rest rest') :
      Recast may parent first (leaf l rest) (leaf l rest')
  | element {parent first : Nat} {e e' : Element} {content content' rest rest' : Forest}
      (here : may parent first e e') (inside : Recast may first (first + 1) content content')
      (behind : Recast may parent (first + content.size + 1) rest rest') :
      Recast may parent first (element e content rest) (element e' content' rest')

/-- What becomes of the node with the number `i`. -/
structure Node.Recast (may : Casting) (i : Nat) (n n' : Node) : Prop where
  parent : n'.parent = n.parent
  extent : n'.extent = n.extent
  kind : (∀ e, n.kind ≠ .element e) ∧ n'.kind = n.kind
    ∨ ∃ p e e', n.parent = some p ∧ n.kind = .element e ∧ n'.kind = .element e' ∧ may p i e e'

namespace Forest

variable {may : Casting} {parent first low m : Nat} {f f' : Forest}

namespace Recast

theorem size_eq (h : Recast may parent first f f') : f'.size = f.size := by
  induction h with
  | nil => rfl
  | leaf _ ih => rw [size, size, ih]
  | element _ _ _ ihi ihb => rw [size, size, ihi, ihb]

theorem node (h : Recast may parent first f f') (m : Nat) :
    Option.Rel (Node.Recast may (first + m)) (f.nodes parent first)[m]?
      (f'.nodes parent first)[m]? := by
  induction h generalizing m with
  | nil => exact .none
  | @leaf parent first l rest rest' _ ih =>
    cases m with
    | zero => exact .some ⟨rfl, rfl, .inl ⟨nofun, rfl⟩⟩
    | succ m =>
      rw [Nat.add_comm m, ← Nat.add_assoc, Nat.add_comm 1 m]
      exact ih m
  | @element parent first e e' content content' rest rest' here inside behind ihi ihb =>
    cases m with
    | zero =>
      refine .some ⟨rfl, ?_, .inr ⟨parent, e, e', rfl, rfl, rfl, here⟩⟩
      exact congrArg (· + 1) inside.size_eq
    | succ m =>
      by_cases hm : m < content.size
      · have hm' : m < content'.size := inside.size_eq ▸ hm
        rw [nodes, nodes, List.cons_append, List.cons_append, List.getElem?_cons_succ,
          List.getElem?_cons_succ, List.getElem?_append_left (by rwa [length_nodes]),
          List.getElem?_append_left (by rwa [length_nodes]), Nat.add_comm m, ← Nat.add_assoc]
        exact ihi m
      · obtain ⟨k, rfl⟩ : ∃ k, m = content.size + k := ⟨m - content.size, by omega⟩
        rw [getElem?_nodes_behind, ← inside.size_eq, getElem?_nodes_behind, inside.size_eq]
        have place : first + content.size + 1 + k = first + (content.size + k + 1) := by omega
        exact place ▸ ihb k

theorem startsWithText_eq (h : Recast may parent first f f') :
    f'.startsWithText = f.startsWithText := by
  cases h with
  | nil | element => rfl
  | @leaf _ _ l => cases l <;> rfl

theorem isMerged (h : Recast may parent first f f') (merged : f.isMerged) : f'.isMerged := by
  induction h with
  | nil => rfl
  | @leaf _ _ l rest rest' behind ih =>
    have later := ih (isMerged_rest merged)
    cases l with
    | text s =>
      obtain ⟨nonempty, noText, -⟩ := isMerged_text.mp merged
      exact isMerged_text.mpr ⟨nonempty, behind.startsWithText_eq.trans noText, later⟩
    | comment | instruction => exact later
  | element _ _ _ ihi ihb =>
    obtain ⟨inside, behind⟩ := isMerged_element.mp merged
    exact isMerged_element.mpr ⟨ihi inside, ihb behind⟩

/-- A forest is the same where no elements are exchanged. -/
theorem eq_of_low (same : ∀ p i e e', low ≤ p → p < i → may p i e e' → e' = e)
    (h : Recast may parent first f f') (below : low ≤ parent) (before : parent < first) :
    f' = f := by
  induction h with
  | nil => rfl
  | leaf _ ih => rw [ih below (by omega)]
  | element here _ _ ihi ihb =>
    rw [same _ _ _ _ below before here, ihi (by omega) (by omega), ihb below (by omega)]

theorem subtree?_eq (same : ∀ p i e e', low ≤ p → p < i → may p i e e' → e' = e)
    (h : Recast may parent first f f') (before : parent < first) {n : Node} {p : Nat}
    (here : (f.nodes parent first)[m]? = some n) (child : n.parent = some p) (below : low ≤ p) :
    f'.subtree? m = f.subtree? m := by
  induction h generalizing m with
  | nil => rfl
  | leaf _ ih =>
    cases m with
    | zero => rfl
    | succ m => exact ih (by omega) here
  | @element parent first e e' content content' rest rest' top inside behind ihi ihb =>
    cases m with
    | zero =>
      cases here
      cases child
      rw [subtree?, subtree?, if_pos rfl, if_pos rfl, same _ _ _ _ below before top,
        inside.eq_of_low same (by omega) (by omega)]
    | succ m =>
      rw [subtree?, subtree?, if_neg m.succ_ne_zero, if_neg m.succ_ne_zero, Nat.succ_sub_one,
        inside.size_eq]
      by_cases hm : m < content.size
      · rw [if_pos hm, if_pos hm]
        rw [nodes, List.cons_append, List.getElem?_cons_succ,
          List.getElem?_append_left (by rwa [length_nodes])] at here
        exact ihi (by omega) here
      · rw [if_neg hm, if_neg hm]
        obtain ⟨k, rfl⟩ : ∃ k, m = content.size + k := ⟨m - content.size, by omega⟩
        rw [getElem?_nodes_behind] at here
        rw [Nat.add_sub_cancel_left]
        exact ihb (by omega) here

theorem refl_of_low (same : ∀ p i e, low ≤ p → p < i → may p i e e) (f : Forest)
    (below : low ≤ parent) (before : parent < first) : Recast may parent first f f := by
  induction f generalizing parent first with
  | nil => exact .nil parent first
  | leaf l rest ih => exact .leaf (ih below (by omega))
  | element e content rest ihc ihr =>
    exact .element (same _ _ _ below before) (ihc (by omega) (by omega)) (ihr below (by omega))

end Recast

/-- Exchanges the element with the number `id`. -/
def changeAt (id : Nat) (change : Element → Element) (first : Nat) : Forest → Forest
  | nil => nil
  | leaf l rest => leaf l (rest.changeAt id change (first + 1))
  | element e content rest =>
    element (if first = id then change e else e) (content.changeAt id change (first + 1))
      (rest.changeAt id change (first + content.size + 1))

theorem recast_changeAt (id : Nat) (change : Element → Element) (parent first : Nat) (f : Forest) :
    Recast (fun _ i e e' => e' = if i = id then change e else e) parent first f
      (f.changeAt id change first) := by
  induction f generalizing parent first with
  | nil => exact .nil parent first
  | leaf l rest ih => exact .leaf (ih parent (first + 1))
  | element e content rest ihc ihr =>
    exact .element rfl (ihc first (first + 1)) (ihr parent (first + content.size + 1))

end Forest

/-! ### Documents -/

/-- A document is recast. -/
structure Document.Recast (may : Casting) (d d' : Document) : Prop where
  base : d'.base = d.base
  content : Forest.Recast may 0 1 d.content d'.content

namespace Document

/-- Exchanges the element with the number `id`. -/
def changeAt (d : Document) (id : Nat) (change : Element → Element) : Document :=
  ⟨d.base, d.content.changeAt id change 1⟩

theorem recast_changeAt (d : Document) (id : Nat) (change : Element → Element) :
    Recast (fun _ i e e' => e' = if i = id then change e else e) d (d.changeAt id change) :=
  ⟨rfl, Forest.recast_changeAt id change 0 1 d.content⟩

namespace Recast

variable {may : Casting} {d d' : Document} (h : Recast may d d')

include h

theorem node (i : Nat) :
    Option.Rel (Node.Recast may i) d.nodes.nodes[i]? d'.nodes.nodes[i]? := by
  rw [nodes_getElem?, nodes_getElem?]
  cases i with
  | zero =>
    have size : d'.size = d.size := congrArg (· + 1) h.content.size_eq
    exact .some ⟨rfl, size, .inl ⟨nofun, congrArg NodeKind.document h.base⟩⟩
  | succ m =>
    rw [Nat.add_comm m 1]
    have behind := h.content.node m
    rwa [nodeList, nodeList, Nat.add_comm 1 m, List.getElem?_cons_succ, List.getElem?_cons_succ,
      Nat.add_comm m 1]

theorem size_eq : d'.nodes.size = d.nodes.size := by
  rw [size_nodes, size_nodes]
  exact congrArg (· + 1) h.content.size_eq

theorem parent?_eq : d'.nodes.parent? = d.nodes.parent? := by
  funext i
  have node := h.node i
  unfold NodeList.parent?
  generalize d.nodes.nodes[i]? = n, d'.nodes.nodes[i]? = n' at node ⊢
  cases node with
  | none => rfl
  | some recast => exact recast.parent

theorem extent_eq : d'.nodes.extent = d.nodes.extent := by
  funext i
  have node := h.node i
  unfold NodeList.extent
  generalize d.nodes.nodes[i]? = n, d'.nodes.nodes[i]? = n' at node ⊢
  cases node with
  | none => rfl
  | some recast => exact recast.extent

/-- What becomes of an element. -/
theorem element? (i : Nat) :
    d.nodes.element? i = none ∧ d'.nodes.element? i = none
        ∧ d'.nodes.kind? i = d.nodes.kind? i
      ∨ ∃ p e e', d.nodes.parent? i = some p ∧ d.nodes.element? i = some e
        ∧ d'.nodes.element? i = some e' ∧ may p i e e' := by
  have node := h.node i
  unfold NodeList.element? NodeList.parent? NodeList.kind?
  generalize d.nodes.nodes[i]? = n, d'.nodes.nodes[i]? = n' at node ⊢
  cases node with
  | none => exact .inl ⟨rfl, rfl, rfl⟩
  | @some n n' recast =>
    obtain ⟨parent, -, ⟨other, kind⟩ | ⟨p, e, e', child, kind, kind', here⟩⟩ := recast
    · refine .inl ?_
      rw [Option.map_some, Option.map_some, kind]
      cases hk : n.kind with
      | document base => exact ⟨rfl, rfl, rfl⟩
      | element e => exact absurd hk (other e)
      | leaf l => exact ⟨rfl, rfl, rfl⟩
    · refine .inr ⟨p, e, e', child, ?_, ?_, here⟩
      · rw [Option.map_some, kind]
      · rw [Option.map_some, kind']

/-- What is read off elements alike is read off the documents alike. -/
theorem map_element?_eq {α : Type} {read : Element → α}
    (alike : ∀ p i e e', may p i e e' → read e' = read e) (i : Nat) :
    (d'.nodes.element? i).map read = (d.nodes.element? i).map read := by
  obtain ⟨here, there, -⟩ | ⟨p, e, e', -, here, there, exchanged⟩ := h.element? i
  · rw [here, there]
  · rw [here, there, Option.map_some, Option.map_some, alike p i e e' exchanged]

theorem leaf?_eq : d'.nodes.leaf? = d.nodes.leaf? := by
  funext i
  have noLeaf : ∀ {d : Document} {e}, d.nodes.element? i = some e → d.nodes.leaf? i = none := by
    intro d e element
    obtain ⟨n, hn, kind⟩ := NodeList.element?_eq_some_iff.mp element
    rw [NodeList.leaf?, NodeList.kind?, hn, Option.map_some, kind]
  obtain ⟨-, -, kind⟩ | ⟨p, e, e', -, here, there, -⟩ := h.element? i
  · rw [NodeList.leaf?, NodeList.leaf?, kind]
  · rw [noLeaf here, noLeaf there]

theorem base?_eq (alike : ∀ p i e e', may p i e e' → e'.base = e.base) :
    d'.nodes.base? = d.nodes.base? := by
  have own : d'.nodes.ownBase? = d.nodes.ownBase? := by
    funext i
    have owner : ∀ {d : Document} {e}, d.nodes.element? i = some e →
        d.nodes.ownBase? i = e.base := by
      intro d e element
      obtain ⟨n, hn, kind⟩ := NodeList.element?_eq_some_iff.mp element
      rw [NodeList.ownBase?, NodeList.kind?, hn, Option.map_some, kind]
    obtain ⟨-, -, kind⟩ | ⟨p, e, e', -, here, there, exchanged⟩ := h.element? i
    · rw [NodeList.ownBase?, NodeList.ownBase?, kind]
    · rw [owner here, owner there, alike p i e e' exchanged]
  funext i
  rw [NodeList.base?, NodeList.base?, h.leaf?_eq, h.parent?_eq, own]

theorem ancestors_eq : d'.nodes.ancestors = d.nodes.ancestors := by
  funext i
  induction i using Nat.strongRecOn with
  | ind i ih =>
    rw [NodeList.ancestors, NodeList.ancestors, h.parent?_eq]
    cases d.nodes.parent? i with
    | none => rfl
    | some p =>
      dsimp only
      split
      · next before => rw [ih p before]
      · rfl

theorem lang?_eq (alike : ∀ p i e e', may p i e e' → e'.lang? = e.lang?) :
    d'.nodes.lang? = d.nodes.lang? := by
  funext i
  rw [NodeList.lang?, NodeList.lang?, h.ancestors_eq]
  congr 1
  funext j
  obtain ⟨here, there, -⟩ | ⟨p, e, e', -, here, there, exchanged⟩ := h.element? j
  · rw [here, there]
  · rw [here, there]
    exact alike p j e e' exchanged

/-- A node is the same with all that is inside it if no elements from there on are exchanged. -/
theorem subtree?_eq {low : Nat} (same : ∀ p i e e', low ≤ p → p < i → may p i e e' → e' = e)
    {i p : Nat} (child : d.nodes.parent? i = some p) (below : low ≤ p) :
    d'.subtree? i = d.subtree? i := by
  obtain ⟨n, hn, parent⟩ := Option.bind_eq_some_iff.mp child
  rw [nodes_getElem?] at hn
  cases i with
  | zero =>
    cases hn
    cases parent
  | succ m =>
    rw [nodeList, List.getElem?_cons_succ] at hn
    exact h.content.subtree?_eq same Nat.zero_lt_one hn parent below

end Recast

end Document

end Transclusion
