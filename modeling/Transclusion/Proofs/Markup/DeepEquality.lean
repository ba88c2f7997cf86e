import Mathlib.Data.List.Forall2
import Mathlib.Data.List.Perm.Subperm
import Transclusion.Proofs.Markup.LastingCopies
import Transclusion.Proofs.Markup.Recast
/-!
# What deep equality says

Two nodes are deeply equal if and only if one of them is the other in another style: with other
prefixes, bindings and base URIs, and with its attributes in another order
(`Forest.deepEqual_iff_recast`).  Tables are compared through what they hold under each key, so that
the order drops out (`Table.sameEntries_iff`).

* `Document.equalAt_iff_children`: nodes are equal if they agree and their children are equal, one
  by one.
* `Document.EqualAt.descendants`: the nodes inside of equal nodes agree, one by one in document
  order.
* `Document.equalAt_means_same_content`: so equality is an equivalence that style does not matter
  to, and equal nodes have the same content.
-/

namespace Transclusion

/-! ### Tables with the same entries -/

namespace Table

variable {κ ι α : Type} [Keyed κ ι]

/-- What a table holds: the keys, in whatever way they are written, with their values. -/
def holdings (t : Table κ α) : List (ι × α) :=
  t.entries.map fun entry => (Keyed.identity entry.1, entry.2)

theorem nodup_holdings (t : Table κ α) : t.holdings.Nodup := by
  have keys : (t.holdings.map Prod.fst).Nodup := by
    rw [holdings, List.map_map]
    exact t.unique
  exact keys.of_map

theorem length_holdings (t : Table κ α) : t.holdings.length = t.size := List.length_map _

variable {s t : Table κ α}

/-- The same holdings are the same entries in another order, with keys written in another way. -/
theorem perm_holdings_iff : s.holdings.Perm t.holdings ↔ ∃ reordered,
    reordered.Perm s.entries ∧ List.Forall₂ (fun entry entry' =>
      Keyed.identity entry'.1 = Keyed.identity entry.1 ∧ entry'.2 = entry.2)
        reordered t.entries := by
  let held : κ × α → ι × α := fun entry => (Keyed.identity entry.1, entry.2)
  have alike : ∀ {xs ys : List (κ × α)}, List.Forall₂ (fun entry entry' =>
      Keyed.identity entry'.1 = Keyed.identity entry.1 ∧ entry'.2 = entry.2) xs ys
        ↔ xs.map held = ys.map held := by
    intro xs ys
    rw [← List.forall₂_eq_eq_eq, List.forall₂_map_left_iff, List.forall₂_map_right_iff]
    simp only [held, Prod.mk.injEq, eq_comm]
  simp only [alike]
  constructor
  · intro perm
    have split : Relation.Comp List.Perm (List.Forall₂ fun entry h => held entry = h) s.entries
        (t.entries.map held) := by
      rw [← List.forall₂_comp_perm_eq_perm_comp_forall₂]
      refine ⟨s.entries.map held, ?_, perm⟩
      rw [List.forall₂_map_right_iff]
      exact List.forall₂_same.mpr fun _ _ => rfl
    obtain ⟨reordered, perm, same⟩ := split
    refine ⟨reordered, perm.symm, ?_⟩
    rw [← List.forall₂_eq_eq_eq, List.forall₂_map_left_iff]
    exact same
  · rintro ⟨reordered, perm, same⟩
    rw [holdings, holdings, ← same]
    exact (perm.map held).symm

variable [DecidableEq ι]

theorem mem_holdings_iff {k : κ} {v : α} :
    (Keyed.identity k, v) ∈ t.holdings ↔ t.get? k = some v := by
  rw [holdings, List.mem_map]
  constructor
  · rintro ⟨entry, there, same⟩
    obtain ⟨key, rfl⟩ := Prod.mk.inj same
    have found := t.get?_of_mem there
    rwa [get?, find?, key] at found
  · intro found
    obtain ⟨k', there, same⟩ := exists_mem_of_get? found
    exact ⟨(k', v), there, Prod.ext same rfl⟩

/-- Tables hold the same if each key has the same value in both of them, or none. -/
theorem perm_holdings_iff_get? :
    s.holdings.Perm t.holdings ↔ ∀ k, t.get? k = s.get? k := by
  rw [List.perm_ext_iff_of_nodup s.nodup_holdings t.nodup_holdings]
  constructor
  · intro same k
    exact Option.ext fun v => by rw [← mem_holdings_iff, ← mem_holdings_iff, same]
  · rintro same ⟨i, v⟩
    -- What is held under `i` is held under a key, so that it can be looked up.
    have keyed : ∀ {t : Table κ α}, (i, v) ∈ t.holdings → ∃ k : κ, i = Keyed.identity k := by
      intro t there
      obtain ⟨entry, -, held⟩ := List.mem_map.mp there
      exact ⟨entry.1, (congrArg Prod.fst held).symm⟩
    constructor
    · intro there
      obtain ⟨k, rfl⟩ := keyed there
      rwa [mem_holdings_iff, same, ← mem_holdings_iff]
    · intro there
      obtain ⟨k, rfl⟩ := keyed there
      rwa [mem_holdings_iff, ← same, ← mem_holdings_iff]

/-- Tables have the same entries if they hold the same, in any order. -/
theorem sameEntries_iff [DecidableEq α] : s.sameEntries t = true ↔ s.holdings.Perm t.holdings := by
  have included : (∀ entry ∈ s.entries, t.get? entry.1 = some entry.2)
      ↔ s.holdings ⊆ t.holdings := by
    simp only [List.subset_def, holdings, List.forall_mem_map, ← mem_holdings_iff (t := t)]
  rw [sameEntries, Bool.and_eq_true, List.all_eq_true, decide_eq_true_eq, ← length_holdings,
    ← length_holdings]
  simp only [decide_eq_true_eq]
  rw [included]
  constructor
  · rintro ⟨length, subset⟩
    exact (s.nodup_holdings.subperm subset).perm_of_length_le length.ge
  · exact fun perm => ⟨perm.length_eq, perm.subset⟩

end Table

/-! ### Elements -/

namespace Element

/-- The same element in another style: the prefixes of names, the order of the attributes, the
bindings and the base URI do not count. -/
structure Restyled (e e' : Element) : Prop where
  name : e'.name.expanded = e.name.expanded
  attributes : ∃ reordered, reordered.Perm e.attributes.entries
    ∧ List.Forall₂ (fun (a a' : QName × String) => a'.1.expanded = a.1.expanded ∧ a'.2 = a.2)
      reordered e'.attributes.entries

variable {e e' e'' : Element}

theorem agrees_iff : e.agrees e' = true ↔ e'.name.expanded = e.name.expanded
    ∧ e.attributes.holdings.Perm e'.attributes.holdings := by
  rw [agrees, Bool.and_eq_true, decide_eq_true_eq, Table.sameEntries_iff, eq_comm]

theorem agrees_iff_restyled : e.agrees e' = true ↔ e.Restyled e' := by
  rw [agrees_iff, Table.perm_holdings_iff]
  exact ⟨fun h => ⟨h.1, h.2⟩, fun h => ⟨h.name, h.attributes⟩⟩

theorem agrees_comm (e e' : Element) : e.agrees e' = e'.agrees e := by
  rw [Bool.eq_iff_iff, agrees_iff, agrees_iff, List.perm_comm, eq_comm]

theorem Restyled.trans (h : e.Restyled e') (h' : e'.Restyled e'') : e.Restyled e'' := by
  rw [← agrees_iff_restyled, agrees_iff] at h h' ⊢
  exact ⟨h'.1.trans h.1, h.2.trans h'.2⟩

end Element

/-! ### Forests -/

/-- Elements come in the places of others that they are in another style. -/
abbrev restyling : Casting := fun _ _ e e' => e.Restyled e'

namespace Forest

variable {f f' f'' : Forest}

theorem deepEqual_comm (f f' : Forest) : f.deepEqual f' = f'.deepEqual f := by
  induction f generalizing f' with
  | nil => cases f' <;> rfl
  | leaf l rest ih =>
    cases f' with
    | nil | element => rfl
    | leaf l' rest' => rw [deepEqual, deepEqual, ih, Bool.decide_congr eq_comm]
  | element e content rest ihc ihr =>
    cases f' with
    | nil | leaf => rfl
    | element e' content' rest' => rw [deepEqual, deepEqual, ihc, ihr, e.agrees_comm]

/-- Forests are deeply equal if one of them is the other in another style. -/
theorem deepEqual_iff_recast (f f' : Forest) (parent first : Nat) :
    f.deepEqual f' = true ↔ Recast restyling parent first f f' := by
  induction f generalizing f' parent first with
  | nil =>
    cases f' with
    | nil => exact iff_of_true rfl (.nil parent first)
    | leaf | element =>
      refine iff_of_false Bool.false_ne_true fun h => ?_
      cases h
  | leaf l rest ih =>
    cases f' with
    | nil | element =>
      refine iff_of_false Bool.false_ne_true fun h => ?_
      cases h
    | leaf l' rest' =>
      rw [deepEqual, Bool.and_eq_true, decide_eq_true_eq, ih rest' parent (first + 1)]
      constructor
      · rintro ⟨rfl, behind⟩
        exact .leaf behind
      · intro h
        cases h with
        | leaf behind => exact ⟨rfl, behind⟩
  | element e content rest ihc ihr =>
    cases f' with
    | nil | leaf =>
      refine iff_of_false Bool.false_ne_true fun h => ?_
      cases h
    | element e' content' rest' =>
      rw [deepEqual, Bool.and_eq_true, Bool.and_eq_true, Element.agrees_iff_restyled,
        ihc content' first (first + 1), ihr rest' parent (first + content.size + 1)]
      constructor
      · rintro ⟨⟨here, inside⟩, behind⟩
        exact .element here inside behind
      · intro h
        cases h with
        | element here inside behind => exact ⟨⟨here, inside⟩, behind⟩

namespace Recast

variable {may may' may'' : Casting} {parent first : Nat}

/-- What is recast twice is recast. -/
theorem trans (both : ∀ p i e e' e'', may p i e e' → may' p i e' e'' → may'' p i e e'')
    (h : Recast may parent first f f') (h' : Recast may' parent first f' f'') :
    Recast may'' parent first f f'' := by
  induction h generalizing f'' with
  | nil =>
    cases h' with
    | nil => exact .nil _ _
  | leaf _ ih =>
    cases h' with
    | leaf behind => exact .leaf (ih behind)
  | element here inside _ ihi ihb =>
    cases h' with
    | element here' inside' behind' =>
      rw [inside.size_eq] at behind'
      exact .element (both _ _ _ _ _ here here') (ihi inside') (ihb behind')

theorem stringValue_eq (h : Recast may parent first f f') : f'.stringValue = f.stringValue := by
  induction h with
  | nil => rfl
  | @leaf _ _ l rest rest' _ ih =>
    cases l with
    | text s => rw [stringValue, stringValue, ih]
    | comment | instruction =>
      show rest'.stringValue = rest.stringValue
      exact ih
  | element _ _ _ ihi ihb => rw [stringValue, stringValue, ihi, ihb]

/-- With a node of a forest, the forest in another style has an equal node under the same number. -/
theorem exists_subtree? (h : Recast restyling parent first f f') {i : Nat} {t : Subtree}
    (there : f.subtree? i = some t) :
    ∃ t', f'.subtree? i = some t' ∧ t.deepEqual t' = true := by
  induction h generalizing i with
  | nil => cases there
  | @leaf _ _ l _ _ _ ih =>
    rw [subtree?] at there ⊢
    split at there
    · next first =>
      cases there
      exact ⟨.leaf l, if_pos first, decide_eq_true rfl⟩
    · next later =>
      rw [if_neg later]
      exact ih there
  | @element _ _ e e' content content' _ _ here inside _ ihi ihb =>
    rw [subtree?] at there ⊢
    -- The contents are of the same size, so the number leads to the same side.
    rw [inside.size_eq]
    split at there
    · next first =>
      cases there
      refine ⟨.element e' content', if_pos first, ?_⟩
      rw [Subtree.deepEqual, Element.agrees_iff_restyled.mpr here,
        (deepEqual_iff_recast _ _ _ _).mpr inside]
      rfl
    · next later =>
      rw [if_neg later]
      split at there
      · next within =>
        rw [if_pos within]
        exact ihi there
      · next beyond =>
        rw [if_neg beyond]
        exact ihb there

end Recast

theorem deepEqual_trans (h : f.deepEqual f' = true) (h' : f'.deepEqual f'' = true) :
    f.deepEqual f'' = true := by
  rw [deepEqual_iff_recast _ _ 0 1] at h h' ⊢
  have both : ∀ (_ _ : Nat) (e e' e'' : Element),
      e.Restyled e' → e'.Restyled e'' → e.Restyled e'' := fun _ _ _ _ _ => Element.Restyled.trans
  exact h.trans both h'

/-- The nodes at the top of a forest. -/
def topNodes : Forest → List Subtree
  | nil => []
  | leaf l rest => .leaf l :: rest.topNodes
  | element e content rest => .element e content :: rest.topNodes

/-- Forests are deeply equal if the nodes at their tops are, one by one. -/
theorem deepEqual_iff_topNodes : f.deepEqual f' = true
    ↔ List.Forall₂ (fun t t' => t.deepEqual t' = true) f.topNodes f'.topNodes := by
  induction f generalizing f' with
  | nil => cases f' <;> simp [deepEqual, topNodes]
  | leaf l rest ih => cases f' <;> simp [deepEqual, topNodes, Subtree.deepEqual, ih]
  | element e content rest _ ih => cases f' <;> simp [deepEqual, topNodes, Subtree.deepEqual, ih]

/-- The nodes at the top of a forest whose nodes stand in a document from the number `first` on. -/
theorem map_subtree?_topIds {d : Document} {first : Nat} {f : Forest}
    (there : ∀ m < f.size, d.subtree? (first + m) = f.subtree? m) :
    (f.topIds first).map d.subtree? = f.topNodes.map some := by
  induction f generalizing first with
  | nil => rfl
  | leaf l rest ih =>
    have behind : ∀ m < rest.size, d.subtree? (first + 1 + m) = rest.subtree? m := by
      intro m hm
      rw [Nat.add_assoc, Nat.add_comm 1 m]
      exact there (m + 1) (Nat.succ_lt_succ hm)
    rw [topIds, topNodes, List.map_cons, List.map_cons, ih behind]
    exact congrArg (· :: _) (there 0 (Nat.succ_pos _))
  | element e content rest _ ih =>
    have behind : ∀ m < rest.size,
        d.subtree? (first + content.size + 1 + m) = rest.subtree? m := by
      intro m hm
      have place : first + content.size + 1 + m = first + (content.size + m + 1) := by omega
      rw [place, there _ (by rw [size]; omega), subtree?, if_neg (by omega), if_neg (by omega)]
      congr 1
      omega
    rw [topIds, topNodes, List.map_cons, List.map_cons, ih behind]
    exact congrArg (· :: _) (there 0 (Nat.succ_pos _))

end Forest

/-! ### Nodes -/

/-- Two nodes agree, apart from what is inside them: elements in their names and attributes, leaves
in all that they are. -/
inductive NodeKind.Agrees : NodeKind → NodeKind → Prop where
  | document (base base' : Option String) : Agrees (.document base) (.document base')
  | element {e e' : Element} (name : e'.name.expanded = e.name.expanded)
      (attributes : ∀ name, e'.attribute? name = e.attribute? name) :
      Agrees (.element e) (.element e')
  | leaf (l : Leaf) : Agrees (.leaf l) (.leaf l)

theorem NodeKind.Agrees.trans {kind kind' kind'' : NodeKind} (h : kind.Agrees kind')
    (h' : kind'.Agrees kind'') : kind.Agrees kind'' := by
  cases h with
  | document base =>
    cases h' with
    | document _ base'' => exact .document base base''
  | element name attributes =>
    cases h' with
    | element name' attributes' =>
      exact .element (name'.trans name) fun k => (attributes' k).trans (attributes k)
  | leaf => exact h'

theorem Element.agrees_iff_kind {e e' : Element} :
    e.agrees e' = true ↔ NodeKind.Agrees (.element e) (.element e') := by
  rw [agrees_iff, Table.perm_holdings_iff_get?]
  constructor
  · exact fun h => .element h.1 h.2
  · intro h
    cases h with
    | element name attributes => exact ⟨name, attributes⟩

namespace Subtree

variable {t t' t'' : Subtree}

/-- Nodes are deeply equal if they agree and what is inside them is. -/
theorem deepEqual_iff :
    t.deepEqual t' = true ↔ t.kind.Agrees t'.kind ∧ t.content.deepEqual t'.content = true := by
  cases t with
  | document d =>
    cases t' with
    | element | leaf => exact iff_of_false Bool.false_ne_true nofun
    | document d' => exact ⟨fun h => ⟨.document _ _, h⟩, And.right⟩
  | element e content =>
    cases t' with
    | document | leaf => exact iff_of_false Bool.false_ne_true nofun
    | element e' content' =>
      rw [deepEqual, Bool.and_eq_true, Element.agrees_iff_kind]
      rfl
  | leaf l =>
    cases t' with
    | document | element => exact iff_of_false Bool.false_ne_true nofun
    | leaf l' =>
      rw [deepEqual, decide_eq_true_eq]
      constructor
      · rintro rfl
        exact ⟨.leaf l, rfl⟩
      · rintro ⟨⟨⟩, -⟩
        rfl

theorem deepEqual_comm (t t' : Subtree) : t.deepEqual t' = t'.deepEqual t := by
  cases t <;> cases t' <;>
    simp only [deepEqual, Forest.deepEqual_comm, Element.agrees_comm, Bool.decide_congr eq_comm]

theorem deepEqual_trans (h : t.deepEqual t' = true) (h' : t'.deepEqual t'' = true) :
    t.deepEqual t'' = true := by
  rw [deepEqual_iff] at h h' ⊢
  exact ⟨h.1.trans h'.1, Forest.deepEqual_trans h.2 h'.2⟩

theorem stringValue_of_deepEqual (equal : t.deepEqual t' = true) :
    t'.stringValue = t.stringValue := by
  obtain ⟨agrees, inside⟩ := deepEqual_iff.mp equal
  have content := ((Forest.deepEqual_iff_recast _ _ 0 1).mp inside).stringValue_eq
  cases t with
  | document d =>
    cases t' with
    | element | leaf => cases agrees
    | document d' => exact content
  | element e inner =>
    cases t' with
    | document | leaf => cases agrees
    | element e' inner' => exact content
  | leaf l =>
    cases t' with
    | document | element => cases agrees
    | leaf l' =>
      cases agrees
      rfl

end Subtree

/-! ### Nodes by their numbers -/

namespace Document

/-- The nodes with these numbers are deeply equal. -/
def EqualAt (d : Document) (i : Nat) (d' : Document) (j : Nat) : Prop :=
  ∃ t t', d.subtree? i = some t ∧ d'.subtree? j = some t' ∧ t.deepEqual t' = true

/-- The nodes with these numbers agree, apart from what is inside them. -/
def AgreesAt (d : Document) (i : Nat) (d' : Document) (j : Nat) : Prop :=
  ∃ kind kind', d.nodes.kind? i = some kind ∧ d'.nodes.kind? j = some kind' ∧ kind.Agrees kind'

/-- The same document in another style. -/
def Restyled (d d' : Document) : Prop :=
  Forest.Recast restyling 0 1 d.content d'.content

variable {d d' d'' : Document} {i j k : Nat}

theorem kind?_of_subtree? {t : Subtree} (h : d.subtree? i = some t) :
    d.nodes.kind? i = some t.kind := by
  obtain ⟨q, hq⟩ := nodeList_getElem? h
  rw [NodeList.kind?, nodes_getElem?, hq]
  rfl

/-- What is inside a node of a document is found in the document. -/
theorem subtree?_inside {t : Subtree} (h : d.subtree? i = some t) {m : Nat}
    (hm : m < t.content.size) : d.subtree? (i + 1 + m) = t.content.subtree? m := by
  rw [subtree?, if_neg (by omega)]
  rw [subtree?] at h
  split at h
  · next first =>
    cases h
    rw [first, Nat.zero_add, Nat.add_sub_cancel_left]
    rfl
  · next later =>
    have place : i + 1 + m - 1 = i - 1 + 1 + m := by omega
    rw [place]
    exact Forest.subtree?_inside h hm

theorem map_subtree?_children {t : Subtree} (h : d.subtree? i = some t) :
    (d.nodes.children i).map d.subtree? = t.content.topNodes.map some := by
  rw [Forest.PlacedIn.children_eq_topIds h]
  exact Forest.map_subtree?_topIds fun m hm => subtree?_inside h hm

theorem stringValue_of_subtree? {t : Subtree} (h : d.subtree? i = some t) :
    d.nodes.stringValue i = t.stringValue := by
  have kind := kind?_of_subtree? h
  cases t with
  | document d' =>
    have noLeaf : d.nodes.leaf? i = none := by
      rw [NodeList.leaf?, kind]
      rfl
    rw [NodeList.stringValue, noLeaf, NodeList.descendants, extent_eq h, Subtree.size,
      Nat.add_sub_cancel]
    exact ((Forest.PlacedIn.of_subtree? h).foldl_text "").trans String.empty_append
  | element e content => exact stringValue_eq h
  | leaf l =>
    have leaf : d.nodes.leaf? i = some l := by
      rw [NodeList.leaf?, kind]
      rfl
    rw [NodeList.stringValue, leaf]
    cases l <;> rfl

theorem equalAt_self (h : i < d.size) : d.EqualAt i d i := by
  obtain ⟨t, ht⟩ := exists_subtree? h
  exact ⟨t, t, ht, ht, t.deepEqual_self⟩

theorem EqualAt.symm (h : d.EqualAt i d' j) : d'.EqualAt j d i := by
  obtain ⟨t, t', ht, ht', equal⟩ := h
  exact ⟨t', t, ht', ht, t.deepEqual_comm t' ▸ equal⟩

theorem EqualAt.trans (h : d.EqualAt i d' j) (h' : d'.EqualAt j d'' k) : d.EqualAt i d'' k := by
  obtain ⟨t, t', ht, ht', equal⟩ := h
  obtain ⟨u, t'', hu, ht'', equal'⟩ := h'
  cases ht'.symm.trans hu
  exact ⟨t, t'', ht, ht'', Subtree.deepEqual_trans equal equal'⟩

/-- The nodes of a document in another style are equal to those of the document. -/
theorem equalAt_of_restyled (style : d.Restyled d') (h : i < d.size) : d.EqualAt i d' i := by
  obtain ⟨t, ht⟩ := exists_subtree? h
  rw [subtree?] at ht
  split at ht
  · next first =>
    cases ht
    exact ⟨.document d, .document d', by rw [subtree?, if_pos first],
      by rw [subtree?, if_pos first], (Forest.deepEqual_iff_recast _ _ 0 1).mpr style⟩
  · next later =>
    obtain ⟨t', ht', same⟩ := style.exists_subtree? ht
    exact ⟨t, t', by rw [subtree?, if_neg later, ht], by rw [subtree?, if_neg later, ht'], same⟩

theorem EqualAt.lt_size (h : d.EqualAt i d' j) : i < d.size ∧ j < d'.size := by
  obtain ⟨t, t', ht, ht', -⟩ := h
  constructor
  · exact Nat.lt_of_not_le fun beyond => by simp [subtree?_eq_none_iff.mpr beyond] at ht
  · exact Nat.lt_of_not_le fun beyond => by simp [subtree?_eq_none_iff.mpr beyond] at ht'

/-- Style does not matter to equality. -/
theorem equalAt_congr {e e' : Document} (style : d.Restyled e) (style' : d'.Restyled e') :
    e.EqualAt i e' j ↔ d.EqualAt i d' j := by
  have size : e.size = d.size := congrArg (· + 1) style.size_eq
  have size' : e'.size = d'.size := congrArg (· + 1) style'.size_eq
  constructor
  · intro h
    obtain ⟨hi, hj⟩ := h.lt_size
    exact ((equalAt_of_restyled style (size ▸ hi)).trans h).trans
      (equalAt_of_restyled style' (size' ▸ hj)).symm
  · intro h
    obtain ⟨hi, hj⟩ := h.lt_size
    exact ((equalAt_of_restyled style hi).symm.trans h).trans (equalAt_of_restyled style' hj)

theorem EqualAt.agreesAt (h : d.EqualAt i d' j) : d.AgreesAt i d' j := by
  obtain ⟨t, t', ht, ht', equal⟩ := h
  exact ⟨t.kind, t'.kind, kind?_of_subtree? ht, kind?_of_subtree? ht',
    (Subtree.deepEqual_iff.mp equal).1⟩

/-- Nodes are equal if they agree and their children are equal, one by one. -/
theorem equalAt_iff_children : d.EqualAt i d' j ↔ d.AgreesAt i d' j
    ∧ List.Forall₂ (fun m m' => d.EqualAt m d' m') (d.nodes.children i) (d'.nodes.children j) := by
  have children : ∀ {t t'}, d.subtree? i = some t → d'.subtree? j = some t' →
      (List.Forall₂ (fun u u' => u.deepEqual u' = true) t.content.topNodes t'.content.topNodes
        ↔ List.Forall₂ (fun m m' => d.EqualAt m d' m') (d.nodes.children i)
          (d'.nodes.children j)) := by
    intro t t' ht ht'
    -- Both sides are brought to the subtrees under the numbers of the children.
    let both : Option Subtree → Option Subtree → Prop := fun o o' =>
      ∃ u u', o = some u ∧ o' = some u' ∧ u.deepEqual u' = true
    have numbered : List.Forall₂ (fun m m' => d.EqualAt m d' m') (d.nodes.children i)
        (d'.nodes.children j) ↔ List.Forall₂ both ((d.nodes.children i).map d.subtree?)
          ((d'.nodes.children j).map d'.subtree?) := by
      rw [List.forall₂_map_left_iff, List.forall₂_map_right_iff]
      rfl
    rw [numbered, map_subtree?_children ht, map_subtree?_children ht', List.forall₂_map_left_iff,
      List.forall₂_map_right_iff]
    simp [both]
  constructor
  · intro h
    refine ⟨h.agreesAt, ?_⟩
    obtain ⟨t, t', ht, ht', equal⟩ := h
    have inside := (Subtree.deepEqual_iff.mp equal).2
    exact (children ht ht').mp (Forest.deepEqual_iff_topNodes.mp inside)
  · rintro ⟨⟨kind, kind', hkind, hkind', agrees⟩, inside⟩
    obtain ⟨t, ht, rfl⟩ := subtree?_of_kind? hkind
    obtain ⟨t', ht', rfl⟩ := subtree?_of_kind? hkind'
    have equal := Forest.deepEqual_iff_topNodes.mpr ((children ht ht').mpr inside)
    exact ⟨t, t', ht, ht', Subtree.deepEqual_iff.mpr ⟨agrees, equal⟩⟩

theorem EqualAt.stringValue_eq (h : d.EqualAt i d' j) :
    d'.nodes.stringValue j = d.nodes.stringValue i := by
  obtain ⟨t, t', ht, ht', equal⟩ := h
  rw [stringValue_of_subtree? ht, stringValue_of_subtree? ht',
    Subtree.stringValue_of_deepEqual equal]

end Document

/-- The nodes of forests in different styles agree, one by one. -/
theorem Forest.Recast.agreesAt {d d' : Document} {f f' : Forest} {parent first : Nat}
    (h : f.Recast restyling parent first f') {top top' i j : Nat} (placed : f.PlacedIn d top i)
    (placed' : f'.PlacedIn d' top' j) : List.Forall₂ (fun m m' => d.AgreesAt m d' m')
      (List.range' i f.size) (List.range' j f'.size) := by
  induction h generalizing top top' i j with
  | nil => exact .nil
  | @leaf _ _ l _ _ _ ih =>
    have here : d.AgreesAt i d' j := ⟨_, _, placed.kind?_leaf, placed'.kind?_leaf, .leaf l⟩
    exact .cons here (ih placed.behind_leaf placed'.behind_leaf)
  | element here _ _ ihi ihb =>
    have same : d.AgreesAt i d' j := ⟨_, _, placed.kind?_element, placed'.kind?_element,
      Element.agrees_iff_kind.mp (Element.agrees_iff_restyled.mpr here)⟩
    have later := ihb placed.behind_element placed'.behind_element
    rw [size, size, List.range'_succ, List.range'_succ, ← List.range'_append_1,
      ← List.range'_append_1, Nat.add_right_comm i 1, Nat.add_right_comm j 1]
    exact .cons same (List.rel_append (ihi placed.inside placed'.inside) later)

namespace Document

variable {d d' : Document} {i j : Nat}

/-- The nodes inside of equal nodes agree, one by one in document order. -/
theorem EqualAt.descendants (h : d.EqualAt i d' j) : List.Forall₂ (fun m m' => d.AgreesAt m d' m')
    (d.nodes.descendants i) (d'.nodes.descendants j) := by
  obtain ⟨t, t', ht, ht', equal⟩ := h
  have inside := (Subtree.deepEqual_iff.mp equal).2
  rw [NodeList.descendants, NodeList.descendants, extent_eq ht, extent_eq ht', Subtree.size,
    Subtree.size, Nat.add_sub_cancel, Nat.add_sub_cancel]
  exact ((Forest.deepEqual_iff_recast _ _ 0 1).mp inside).agreesAt (.of_subtree? ht)
    (.of_subtree? ht')

/-- **Deep equality of nodes is an equivalence, and says what it means.**  It holds of nodes that
agree and whose children are equal, one by one.  Documents can be put into another style, with
attributes in another order, with other prefixes, bindings and base URIs, and the same nodes are
equal as before.  Equal nodes have the same string value and as many nodes inside them, and in
document order these agree one by one: they are of the same kind, and if they are elements, they
have the same name and under each name the same attribute, or none. -/
theorem equalAt_means_same_content :
    (∀ (d : Document) i, i < d.size → d.EqualAt i d i)
    ∧ (∀ (d : Document) i (d' : Document) j, d.EqualAt i d' j → d'.EqualAt j d i)
    ∧ (∀ (d : Document) i (d' : Document) j (d'' : Document) k,
      d.EqualAt i d' j → d'.EqualAt j d'' k → d.EqualAt i d'' k)
    ∧ (∀ (d e d' e' : Document) i j, d.Restyled e → d'.Restyled e' →
      (e.EqualAt i e' j ↔ d.EqualAt i d' j))
    ∧ (∀ (d : Document) i (d' : Document) j, d.EqualAt i d' j ↔ d.AgreesAt i d' j
      ∧ List.Forall₂ (fun m m' => d.EqualAt m d' m') (d.nodes.children i) (d'.nodes.children j))
    ∧ ∀ (d : Document) i (d' : Document) j, d.EqualAt i d' j →
      d'.nodes.stringValue j = d.nodes.stringValue i
      ∧ List.Forall₂ (fun m m' => d.AgreesAt m d' m') (i :: d.nodes.descendants i)
        (j :: d'.nodes.descendants j) := by
  refine ⟨fun d i => equalAt_self, fun d i d' j => EqualAt.symm,
    fun d i d' j d'' k => EqualAt.trans, fun d e d' e' i j style style' => ?_,
    fun d i d' j => equalAt_iff_children, fun d i d' j equal => ?_⟩
  · exact equalAt_congr style style'
  · exact ⟨equal.stringValue_eq, .cons equal.agreesAt equal.descendants⟩

/-- An element in a namespace, with two attributes and a text. -/
def styledPage (nsPrefix : String) (attributes : List (QName × String)) : Document where
  base := none
  content := .element ⟨.prefixed nsPrefix "urn:x" "p", .ofList attributes,
    .ofList [(nsPrefix, "urn:x")], none⟩ (.leaf (.text "t") .nil) .nil

/-- The element with another prefix, and with its attributes the other way round. -/
theorem equalAt_means_same_content_styledPage :
    let d := styledPage "x" [(.plain "a", "1"), (.prefixed "x" "urn:x" "b", "2")]
    let d' := styledPage "y" [(.prefixed "y" "urn:x" "b", "2"), (.plain "a", "1")]
    d.Restyled d' ∧ d.EqualAt 1 d' 1 ∧ d'.EqualAt 1 d 1
      ∧ d'.nodes.stringValue 1 = d.nodes.stringValue 1
      ∧ List.Forall₂ (fun m m' => d.AgreesAt m d' m') [1, 2] [1, 2] := by
  intro d d'
  obtain ⟨-, symm, -, -, -, content⟩ := equalAt_means_same_content
  have style : d.Restyled d' := (Forest.deepEqual_iff_recast _ _ 0 1).mp (by decide)
  have equal : d.EqualAt 1 d' 1 := equalAt_of_restyled style (by decide)
  obtain ⟨text, agree⟩ := content d 1 d' 1 equal
  exact ⟨style, equal, symm d 1 d' 1 equal, text, agree⟩

end Document

end Transclusion
