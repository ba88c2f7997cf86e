import Mathlib.Data.List.Chain
import Mathlib.Data.List.Sort
import Mathlib.Logic.Relation
import Transclusion.Proofs.Markup.Merged
import Transclusion.Proofs.Markup.Numbering
/-!
# Documents as arenas

A document can be laid out as an arena: a list of cells, one for each node at the place that is its
number, with the numbers of its parent and its children written down in the cell. `Arena.WellFormed`
says when such a list is a tree whose numbers ascend in document order.  Descendants and ancestors
are found by iterators that only follow the links (`Arena.nextDescendant`, `Arena.nextAncestor`),
and `Yields` says what an iterator yields until it stops.

* `Document.wellFormed_arena`: the arena of a document without empty texts and neighbouring texts is
  well formed.
* `Arena.WellFormed.exists_document`: every well-formed arena is that of a document.
-/

namespace Transclusion

/-! ### Arenas -/

/-- A node with its links. -/
structure Cell where
  kind : NodeKind
  parent : Option Nat
  children : List Nat
deriving DecidableEq, Repr

abbrev Arena := List Cell

/-- What an iterator yields until it stops. -/
inductive Yields {σ α : Type} (next : σ → Option (α × σ)) : σ → List α → Prop where
  | stop {s : σ} (h : next s = none) : Yields next s []
  | more {s s' : σ} {a : α} {out : List α} (h : next s = some (a, s'))
      (behind : Yields next s' out) : Yields next s (a :: out)

theorem Yields.unique {σ α : Type} {next : σ → Option (α × σ)} {s : σ} {out out' : List α}
    (h : Yields next s out) (h' : Yields next s out') : out = out' := by
  induction h generalizing out' with
  | stop none =>
    cases h' with
    | stop => rfl
    | more some => cases none.symm.trans some
  | more some _ ih =>
    cases h' with
    | stop none => cases none.symm.trans some
    | more some' behind =>
      cases some.symm.trans some'
      rw [ih behind]

namespace Arena

def kind? (a : Arena) (i : Nat) : Option NodeKind := (a[i]?).map (·.kind)

def parent? (a : Arena) (i : Nat) : Option Nat := (a[i]?).bind (·.parent)

def children (a : Arena) (i : Nat) : List Nat := ((a[i]?).map (·.children)).getD []

/-- The iterator over descendants holds a stack of nodes. It yields the node on top and puts the
children of that node in its place, the first one on top. -/
def nextDescendant (a : Arena) : List Nat → Option (Nat × List Nat)
  | [] => none
  | i :: stack => some (i, a.children i ++ stack)

/-- The iterator over ancestors goes from a node to its parent. -/
def nextAncestor (a : Arena) (i : Nat) : Option (Nat × Nat) := (a.parent? i).map fun p => (p, p)

/-- The first node is reached from the second along parents, in one step or more. -/
def Above (a : Arena) : Nat → Nat → Prop := Relation.TransGen fun p i => a.parent? i = some p

def isText (a : Arena) (i : Nat) : Prop := ∃ s, a.kind? i = some (.leaf (.text s))

/-- The cells are a tree, and the numbers of its nodes ascend in document order. -/
structure WellFormed (a : Arena) : Prop where
  /-- The first node is the document, and no other is. -/
  document : ∀ i, (∃ base, a.kind? i = some (.document base)) ↔ i = 0
  root : a.parent? 0 = none
  /-- Every other node has a parent before it, and stands once among the children of that one. -/
  parent : ∀ i, 0 < i → i < a.length → ∃ p, p < i ∧ a.parent? i = some p
    ∧ ∀ q, (a.children q).count i = if q = p then 1 else 0
  /-- All children are nodes. -/
  child : ∀ q, ∀ i ∈ a.children q, 0 < i ∧ i < a.length
  ascending : ∀ q, (a.children q).Pairwise (· < ·)
  /-- The numbers of the nodes inside a node are the ones that follow its own. -/
  descendants : ∀ i, i < a.length → ∃ inside, Yields a.nextDescendant (a.children i) inside
    ∧ inside = List.range' (i + 1) inside.length ∧ ∀ j, j ∈ inside ↔ a.Above i j
  /-- The ancestors of a node are the nodes that it is a descendant of. -/
  ancestors : ∀ i, i < a.length → ∃ outside, Yields a.nextAncestor i outside
    ∧ ∀ m inside, Yields a.nextDescendant (a.children m) inside → (m ∈ outside ↔ i ∈ inside)
  noEmptyText : ∀ i, a.kind? i ≠ some (.leaf (.text ""))
  noNeighbouringTexts : ∀ q, (a.children q).IsChain fun i j => ¬(a.isText i ∧ a.isText j)
  /-- Only the document and elements have children. -/
  leaf : ∀ i l, a.kind? i = some (.leaf l) → a.children i = []

variable {a : Arena}

/-- What is yielded from two stacks on top of each other. -/
theorem yields_append {stack stack' out out' : List Nat} (h : Yields a.nextDescendant stack out)
    (h' : Yields a.nextDescendant stack' out') :
    Yields a.nextDescendant (stack ++ stack') (out ++ out') := by
  induction h with
  | @stop s none =>
    cases s with
    | nil => exact h'
    | cons i stack => cases none
  | @more s s' i out some _ ih =>
    cases s with
    | nil => cases some
    | cons i stack =>
      cases some
      refine .more rfl ?_
      rwa [List.append_assoc] at ih

/-- What is yielded from two stacks on top of each other comes from the one, then from the other. -/
theorem exists_of_yields_append {stack stack' out : List Nat}
    (h : Yields a.nextDescendant (stack ++ stack') out) :
    ∃ first behind, out = first ++ behind ∧ Yields a.nextDescendant stack first
      ∧ Yields a.nextDescendant stack' behind := by
  -- On the run: the iterator works on top of the upper stack until that is empty.
  generalize hwhole : stack ++ stack' = whole at h
  induction h generalizing stack stack' with
  | @stop whole none =>
    cases stack with
    | nil =>
      subst hwhole
      exact ⟨[], [], rfl, .stop rfl, .stop none⟩
    | cons i stack =>
      subst hwhole
      cases none
  | @more whole next j out some h ih =>
    cases stack with
    | nil =>
      subst hwhole
      exact ⟨[], j :: out, rfl, .stop rfl, .more some h⟩
    | cons i stack =>
      subst hwhole
      obtain ⟨rfl, rfl⟩ : i = j ∧ a.children i ++ (stack ++ stack') = next := by
        simpa [nextDescendant] using some
      obtain ⟨first, behind, rfl, hfirst, hbehind⟩ := ih (List.append_assoc _ stack stack')
      exact ⟨_ :: first, behind, rfl, .more rfl hfirst, hbehind⟩

end Arena

/-! ### Places -/

/-- What a node is and where it goes. -/
structure Place where
  kind : NodeKind
  parent : Option Nat
deriving DecidableEq, Repr

/-- The parent of the node with the number `i`. -/
def parentAt (places : List Place) (i : Nat) : Option Nat := (places[i]?).bind (·.parent)

/-- The nodes that go below a node, in ascending order. -/
def childrenAt (places : List Place) (i : Nat) : List Nat :=
  (List.range places.length).filter fun j => parentAt places j = some i

/-- The arena with nodes at these places. -/
def Arena.ofPlaces (places : List Place) : Arena :=
  places.mapIdx fun i place => ⟨place.kind, place.parent, childrenAt places i⟩

/-- The places of the nodes of a forest below the node `parent`, the first one having the number
`first`. -/
def Forest.places (parent first : Nat) (f : Forest) : List Place :=
  (f.nodes parent first).map fun n => ⟨n.kind, n.parent⟩

def Document.places (d : Document) : List Place :=
  ⟨.document d.base, none⟩ :: d.content.places 0 1

/-- The document laid out as an arena. -/
def Document.arena (d : Document) : Arena := .ofPlaces d.places

/-- A document of a single text, laid out as such. -/
def Arena.ofText (base : Option String) (text : String) : Arena :=
  if text = "" then [⟨.document base, none, []⟩]
  else [⟨.document base, none, [1]⟩, ⟨.leaf (.text text), some 0, []⟩]

theorem Document.arena_ofText (base : Option String) (text : String) :
    (Document.ofText base text).arena = .ofText base text := by
  unfold Document.ofText Forest.consText Arena.ofText
  dsimp only
  split <;> rfl

namespace Arena

theorem getElem?_ofPlaces (places : List Place) (i : Nat) :
    (ofPlaces places)[i]?
      = (places[i]?).map fun place => ⟨place.kind, place.parent, childrenAt places i⟩ := by
  rw [ofPlaces, List.getElem?_mapIdx]

theorem length_ofPlaces (places : List Place) : (ofPlaces places).length = places.length :=
  List.length_mapIdx

end Arena

namespace Document

variable {d : Document} {i : Nat}

theorem getElem?_places (d : Document) (i : Nat) :
    d.places[i]? = (d.nodeList[i]?).map fun n => ⟨n.kind, n.parent⟩ := by
  rw [places, nodeList, Forest.places, ← List.getElem?_map]
  rfl

theorem length_arena (d : Document) : d.arena.length = d.size := by
  rw [arena, Arena.length_ofPlaces, places, List.length_cons, Forest.places, List.length_map,
    Forest.length_nodes, size]

theorem kind?_arena (d : Document) (i : Nat) : d.arena.kind? i = d.nodes.kind? i := by
  rw [arena, Arena.kind?, Arena.getElem?_ofPlaces, getElem?_places, NodeList.kind?, nodes_getElem?]
  cases d.nodeList[i]? <;> rfl

theorem parent?_arena (d : Document) (i : Nat) : d.arena.parent? i = d.nodes.parent? i := by
  rw [arena, Arena.parent?, Arena.getElem?_ofPlaces, getElem?_places, NodeList.parent?,
    nodes_getElem?]
  cases d.nodeList[i]? <;> rfl

theorem children_eq_nil (h : d.size ≤ i) : d.nodes.children i = [] := by
  rw [NodeList.children, extent_eq_zero h]
  rfl

theorem children_arena (d : Document) (i : Nat) : d.arena.children i = d.nodes.children i := by
  have parents : ∀ j, parentAt d.places j = d.nodes.parent? j := by
    intro j
    rw [parentAt, getElem?_places, NodeList.parent?, nodes_getElem?]
    cases d.nodeList[j]? <;> rfl
  have length : d.places.length = d.size := by
    rw [← length_arena, arena, Arena.length_ofPlaces]
  have same : childrenAt d.places i = d.nodes.children i := by
    refine (List.pairwise_lt_range.filter _).eq_of_mem_iff (NodeList.pairwise_children d.nodes i)
      fun j => ?_
    rw [List.mem_filter, NodeList.mem_children, parents, List.mem_range, length]
    simp only [decide_eq_true_eq, and_iff_right_iff_imp]
    exact fun h => NodeList.lt_size_of_parent? h
  rw [arena, Arena.children, Arena.getElem?_ofPlaces, Option.map_map, ← same]
  cases h : d.places[i]? with
  | some place => rfl
  | none =>
    have beyond : d.size ≤ i := length ▸ List.getElem?_eq_none_iff.mp h
    rw [same, children_eq_nil beyond]
    rfl

end Document

/-! ### Forests in their places -/

/-- The numbers of the nodes at the top of a forest whose first node has the number `first`. -/
def Forest.topIds (first : Nat) : Forest → List Nat
  | nil => []
  | leaf _ rest => first :: rest.topIds (first + 1)
  | element _ content rest => first :: rest.topIds (first + content.size + 1)

/-- A forest is found in the document below the node `parent`, from the number `first` on. -/
def Forest.PlacedIn (d : Document) (parent first : Nat) (f : Forest) : Prop :=
  ∃ after, d.nodeList.drop first = f.nodes parent first ++ after

namespace Forest.PlacedIn

variable {d : Document} {parent first : Nat} {e : Element} {l : Leaf} {f content rest : Forest}

theorem of_subtree? {i : Nat} {t : Subtree} (h : d.subtree? i = some t) :
    t.content.PlacedIn d i (i + 1) := by
  obtain ⟨q, after, hdrop⟩ := Document.drop_nodeList h
  refine ⟨after, ?_⟩
  rw [← List.drop_drop, hdrop]
  rfl

theorem of_document (d : Document) : d.content.PlacedIn d 0 1 :=
  of_subtree? (i := 0) (t := .document d) rfl

/-- The nodes behind the first one are placed behind it. -/
theorem drop_one {n : Node} {nodes after : List Node}
    (h : d.nodeList.drop first = n :: (nodes ++ after)) :
    d.nodeList.drop (first + 1) = nodes ++ after := by
  rw [← List.drop_drop, h]
  rfl

theorem behind_leaf (h : (leaf l rest).PlacedIn d parent first) :
    rest.PlacedIn d parent (first + 1) := by
  obtain ⟨after, h⟩ := h
  exact ⟨after, drop_one h⟩

theorem inside (h : (element e content rest).PlacedIn d parent first) :
    content.PlacedIn d first (first + 1) := by
  obtain ⟨after, h⟩ := h
  refine ⟨rest.nodes parent (first + content.size + 1) ++ after, ?_⟩
  rw [← List.append_assoc]
  exact drop_one h

theorem behind_element (h : (element e content rest).PlacedIn d parent first) :
    rest.PlacedIn d parent (first + content.size + 1) := by
  obtain ⟨after, h⟩ := h
  refine ⟨after, ?_⟩
  have behind : d.nodeList.drop (first + 1)
      = content.nodes first (first + 1) ++ rest.nodes parent (first + content.size + 1) ++ after :=
    drop_one h
  rw [List.append_assoc, Nat.add_right_comm first content.size] at behind
  rw [Nat.add_right_comm first content.size, ← List.drop_drop, behind,
    List.drop_left' (length_nodes _ _ _)]

/-- The first node of a forest has the first number. -/
theorem getElem?_first {n : Node} {nodes : List Node} (h : f.PlacedIn d parent first)
    (starts : f.nodes parent first = n :: nodes) : d.nodes.nodes[first]? = some n := by
  obtain ⟨after, h⟩ := h
  have nth : (d.nodeList.drop first)[0]? = some n := by
    rw [h, starts]
    rfl
  rwa [Document.nodes_getElem?, ← Nat.add_zero first, ← List.getElem?_drop]

theorem kind?_leaf (h : (leaf l rest).PlacedIn d parent first) :
    d.nodes.kind? first = some (.leaf l) := by
  rw [NodeList.kind?, h.getElem?_first rfl]
  rfl

theorem kind?_element (h : (element e content rest).PlacedIn d parent first) :
    d.nodes.kind? first = some (.element e) := by
  rw [NodeList.kind?, h.getElem?_first rfl]
  rfl

theorem element?_leaf (h : (leaf l rest).PlacedIn d parent first) :
    d.nodes.element? first = none := by
  rw [NodeList.element?, h.kind?_leaf]

theorem element?_element (h : (element e content rest).PlacedIn d parent first) :
    d.nodes.element? first = some e := by
  rw [NodeList.element?, h.kind?_element]

theorem extent_leaf (h : (leaf l rest).PlacedIn d parent first) : d.nodes.extent first = 1 := by
  rw [NodeList.extent, h.getElem?_first rfl]
  rfl

theorem extent_element (h : (element e content rest).PlacedIn d parent first) :
    d.nodes.extent first = content.size + 1 := by
  rw [NodeList.extent, h.getElem?_first rfl]
  rfl

/-- The nodes of a forest that are below `parent` are the ones at its top. -/
theorem filter_parent? (h : f.PlacedIn d parent first) (before : parent < first) :
    (List.range' first f.size).filter (fun j => d.nodes.parent? j = some parent)
      = f.topIds first := by
  induction f generalizing first with
  | nil => rfl
  | leaf l rest ih =>
    have here : d.nodes.parent? first = some parent := by
      rw [NodeList.parent?, h.getElem?_first rfl]
      rfl
    rw [size, List.range'_succ, List.filter_cons_of_pos (by simp [here]),
      ih h.behind_leaf (Nat.lt_succ_of_lt before), topIds]
  | element e content rest _ ih =>
    have here : d.nodes.parent? first = some parent := by
      rw [NodeList.parent?, h.getElem?_first rfl]
      rfl
    have extent : d.nodes.extent first = content.size + 1 := by
      rw [NodeList.extent, h.getElem?_first rfl]
      rfl
    -- What is inside the element has its parent there.
    have inside : (List.range' (first + 1) content.size).filter
        (fun j => d.nodes.parent? j = some parent) = [] := by
      refine List.filter_eq_nil_iff.mpr fun j hj => ?_
      rw [List.mem_range'_1] at hj
      obtain ⟨q, hq, hle, -⟩ := NodeList.parent?_inside (d := d) (i := first) (j := j) (by omega)
        (by omega)
      rw [decide_eq_true_eq, hq]
      rintro ⟨⟩
      omega
    rw [size, List.range'_succ, List.filter_cons_of_pos (by simp [here]), ← List.range'_append_1,
      List.filter_append, inside, List.nil_append, Nat.add_right_comm,
      ih h.behind_element (by omega), topIds]

theorem children_eq_topIds {i : Nat} {t : Subtree} (h : d.subtree? i = some t) :
    d.nodes.children i = t.content.topIds (i + 1) := by
  rw [NodeList.children, Document.extent_eq h, Subtree.size, Nat.add_sub_cancel]
  exact (of_subtree? h).filter_parent? (Nat.lt_succ_self i)

theorem children_of_leaf (h : (leaf l rest).PlacedIn d parent first) :
    d.nodes.children first = [] := by
  rw [NodeList.children, NodeList.extent, h.getElem?_first rfl]
  rfl

theorem children_of_element (h : (element e content rest).PlacedIn d parent first) :
    d.nodes.children first = content.topIds (first + 1) := by
  have extent : d.nodes.extent first = content.size + 1 := by
    rw [NodeList.extent, h.getElem?_first rfl]
    rfl
  rw [NodeList.children, extent, Nat.add_sub_cancel]
  exact h.inside.filter_parent? (Nat.lt_succ_self first)

/-- From the nodes at the top, the iterator over descendants yields all nodes of a forest. -/
theorem yields (h : f.PlacedIn d parent first) :
    Yields d.arena.nextDescendant (f.topIds first) (List.range' first f.size) := by
  induction f generalizing parent first with
  | nil => exact .stop rfl
  | leaf l rest ih =>
    have next : d.arena.nextDescendant (first :: rest.topIds (first + 1))
        = some (first, rest.topIds (first + 1)) := by
      rw [Arena.nextDescendant, Document.children_arena, h.children_of_leaf]
      rfl
    refine .more next ?_
    exact ih h.behind_leaf
  | element e content rest ihc ihr =>
    rw [topIds, size, List.range'_succ, ← List.range'_append_1]
    have next : d.arena.nextDescendant (first :: rest.topIds (first + content.size + 1))
        = some (first, content.topIds (first + 1) ++ rest.topIds (first + content.size + 1)) := by
      rw [Arena.nextDescendant, Document.children_arena, h.children_of_element]
    refine .more next ?_
    have behind := ihr h.behind_element
    rw [Nat.add_right_comm] at behind ⊢
    exact Arena.yields_append (ihc h.inside) behind

end Forest.PlacedIn

/-! ### Documents are well-formed arenas -/

namespace Document

variable {d : Document} {i : Nat}

theorem above_arena {j : Nat} : d.arena.Above i j ↔ i ∈ d.nodes.ancestors j := by
  have ancestors : ∀ {q j}, d.nodes.parent? j = some q →
      d.nodes.ancestors j = q :: d.nodes.ancestors q := by
    intro q j hq
    rw [NodeList.ancestors, hq]
    exact if_pos (NodeList.inside_of_parent? hq).1
  constructor
  · intro h
    induction h with
    | single h =>
      rw [ancestors (parent?_arena d _ ▸ h)]
      exact List.mem_cons_self
    | tail _ h ih =>
      rw [ancestors (parent?_arena d _ ▸ h)]
      exact List.mem_cons_of_mem _ ih
  · intro h
    -- On the number, since a parent has a smaller one.
    induction j using Nat.strongRecOn with
    | ind j ih =>
      cases hq : d.nodes.parent? j with
      | none =>
        rw [NodeList.ancestors, hq] at h
        cases h
      | some q =>
        have link : d.arena.parent? j = some q := parent?_arena d j ▸ hq
        rw [ancestors hq] at h
        obtain rfl | above := List.mem_cons.mp h
        · exact .single link
        · exact .tail (ih q (NodeList.inside_of_parent? hq).1 above) link

theorem yields_ancestors (d : Document) (i : Nat) :
    Yields d.arena.nextAncestor i (d.nodes.ancestors i) := by
  induction i using Nat.strongRecOn with
  | ind i ih =>
    rw [NodeList.ancestors]
    cases hq : d.nodes.parent? i with
    | none =>
      refine .stop ?_
      rw [Arena.nextAncestor, parent?_arena, hq]
      rfl
    | some q =>
      have before := (NodeList.inside_of_parent? hq).1
      dsimp only
      rw [if_pos before]
      refine .more ?_ (ih q before)
      rw [Arena.nextAncestor, parent?_arena, hq]
      rfl

theorem yields_descendants (h : i < d.size) :
    Yields d.arena.nextDescendant (d.arena.children i) (d.nodes.descendants i) := by
  obtain ⟨t, ht⟩ := exists_subtree? h
  rw [children_arena, Forest.PlacedIn.children_eq_topIds ht, NodeList.descendants, extent_eq ht,
    Subtree.size, Nat.add_sub_cancel]
  exact (Forest.PlacedIn.of_subtree? ht).yields

end Document

namespace Forest

/-- All that is inside a merged forest is merged. -/
theorem isMerged_of_subtree? {f : Forest} {k : Nat} {t : Subtree} (merged : f.isMerged)
    (h : f.subtree? k = some t) : t.content.isMerged ∧ t ≠ .leaf (.text "") := by
  induction f generalizing k with
  | nil => cases h
  | leaf l rest ih =>
    rw [subtree?] at h
    split at h
    · cases h
      refine ⟨rfl, ?_⟩
      rintro ⟨⟩
      exact (isMerged_text.mp merged).1 rfl
    · exact ih (isMerged_rest merged) h
  | element e content rest ihc ihr =>
    obtain ⟨inside, behind⟩ := isMerged_element.mp merged
    rw [subtree?] at h
    split at h
    · cases h
      refine ⟨inside, ?_⟩
      rintro ⟨⟩
    · split at h
      · exact ihc inside h
      · exact ihr behind h

namespace PlacedIn

variable {d : Document} {parent first : Nat} {f : Forest}

/-- Where a forest does not start with a text, its first node is none. -/
theorem not_isText_head (h : f.PlacedIn d parent first) (noText : f.startsWithText = false) :
    ∀ j ∈ (f.topIds first).head?, ¬d.arena.isText j := by
  rintro j hj ⟨s, hs⟩
  rw [Document.kind?_arena] at hs
  cases f with
  | nil => cases hj
  | leaf l rest =>
    cases hj
    cases h.kind?_leaf.symm.trans hs
    cases noText
  | element e content rest =>
    cases hj
    cases h.kind?_element.symm.trans hs

/-- Of the nodes at the top of a merged forest no two that follow each other are texts. -/
theorem isChain_topIds (h : f.PlacedIn d parent first) (merged : f.isMerged) :
    (f.topIds first).IsChain fun i j => ¬(d.arena.isText i ∧ d.arena.isText j) := by
  induction f generalizing first with
  | nil => exact .nil
  | leaf l rest ih =>
    refine List.isChain_cons.mpr ⟨?_, ih h.behind_leaf (isMerged_rest merged)⟩
    rintro j hj ⟨⟨s, hs⟩, isText⟩
    rw [Document.kind?_arena] at hs
    cases h.kind?_leaf.symm.trans hs
    exact h.behind_leaf.not_isText_head (isMerged_text.mp merged).2.1 j hj isText
  | element e content rest _ ih =>
    refine List.isChain_cons.mpr ⟨?_, ih h.behind_element (isMerged_element.mp merged).2⟩
    rintro j hj ⟨⟨s, hs⟩, -⟩
    rw [Document.kind?_arena] at hs
    cases h.kind?_element.symm.trans hs

end PlacedIn

end Forest

namespace Document

variable {d : Document} {i : Nat}

theorem subtree?_of_kind? {kind : NodeKind} (h : d.nodes.kind? i = some kind) :
    ∃ t, d.subtree? i = some t ∧ t.kind = kind := by
  obtain ⟨n, hn, rfl⟩ := Option.map_eq_some_iff.mp h
  rw [nodes_getElem?] at hn
  have here : i < d.size := length_nodeList d ▸ (List.getElem?_eq_some_iff.mp hn).1
  obtain ⟨t, ht⟩ := exists_subtree? here
  obtain ⟨q, hq⟩ := nodeList_getElem? ht
  cases hq.symm.trans hn
  exact ⟨t, ht, rfl⟩

/-- All that is inside a merged document is merged. -/
theorem isMerged_of_subtree? {t : Subtree} (merged : d.content.isMerged)
    (h : d.subtree? i = some t) : t.content.isMerged ∧ t ≠ .leaf (.text "") := by
  rw [subtree?] at h
  split at h
  · cases h
    refine ⟨merged, ?_⟩
    rintro ⟨⟩
  · exact Forest.isMerged_of_subtree? merged h

/-- Only the node 0 is a document. -/
theorem kind?_document_iff (d : Document) (i : Nat) :
    (∃ base, d.nodes.kind? i = some (.document base)) ↔ i = 0 := by
  constructor
  · rintro ⟨base, h⟩
    obtain ⟨t, ht, kind⟩ := subtree?_of_kind? h
    by_contra ne
    rw [subtree?, if_neg ne] at ht
    cases t with
    | document d' => exact Forest.subtree?_ne_document _ _ d' ht
    | element e content => cases kind
    | leaf l => cases kind
  · rintro rfl
    exact ⟨d.base, rfl⟩

theorem exists_parent? (pos : 0 < i) (h : i < d.size) : ∃ p, d.nodes.parent? i = some p := by
  have root : d.nodes.extent 0 = d.size := rfl
  obtain ⟨q, hq, -⟩ := NodeList.parent?_inside (d := d) pos (by omega)
  exact ⟨q, hq⟩

/-- **The arena of a merged document is well formed.** -/
theorem wellFormed_arena (merged : d.content.isMerged) : d.arena.WellFormed where
  document i := by
    rw [kind?_arena]
    exact kind?_document_iff d i
  root := by
    rw [parent?_arena]
    rfl
  parent i pos h := by
    rw [length_arena] at h
    obtain ⟨p, hp⟩ := exists_parent? pos h
    refine ⟨p, (NodeList.inside_of_parent? hp).1, by rw [parent?_arena, hp], fun q => ?_⟩
    have nodup : (d.nodes.children q).Nodup :=
      (NodeList.pairwise_children d.nodes q).imp Nat.ne_of_lt
    rw [children_arena, nodup.count]
    simp only [NodeList.mem_children, hp, Option.some.injEq, eq_comm]
  child q i h := by
    rw [children_arena, NodeList.mem_children] at h
    rw [length_arena]
    exact ⟨Nat.zero_lt_of_lt (NodeList.inside_of_parent? h).1, NodeList.lt_size_of_parent? h⟩
  ascending q := by
    rw [children_arena]
    exact NodeList.pairwise_children d.nodes q
  descendants i h := by
    rw [length_arena] at h
    refine ⟨_, yields_descendants h, ?_, fun j => ?_⟩
    · rw [NodeList.descendants, List.length_range']
    · rw [above_arena, NodeList.mem_ancestors_iff]
  ancestors i h := by
    refine ⟨_, yields_ancestors d i, fun m inside hinside => ?_⟩
    -- Behind the last node there are no children, and nothing is inside.
    obtain hm | hm := Nat.lt_or_ge m d.size
    · rw [NodeList.mem_ancestors_iff, (yields_descendants hm).unique hinside]
    · rw [children_arena, children_eq_nil hm] at hinside
      cases hinside.unique (.stop rfl)
      rw [NodeList.mem_ancestors_iff, NodeList.mem_descendants, extent_eq_zero hm]
      simp only [List.not_mem_nil, iff_false]
      omega
  noEmptyText i h := by
    rw [kind?_arena] at h
    obtain ⟨t, ht, kind⟩ := subtree?_of_kind? h
    refine (isMerged_of_subtree? merged ht).2 ?_
    cases t <;> cases kind
    rfl
  noNeighbouringTexts q := by
    rw [children_arena]
    cases ht : d.subtree? q with
    | none =>
      rw [children_eq_nil (subtree?_eq_none_iff.mp ht)]
      exact .nil
    | some t =>
      rw [Forest.PlacedIn.children_eq_topIds ht]
      exact (Forest.PlacedIn.of_subtree? ht).isChain_topIds (isMerged_of_subtree? merged ht).1
  leaf i l h := by
    rw [kind?_arena] at h
    obtain ⟨t, ht, kind⟩ := subtree?_of_kind? h
    rw [children_arena, Forest.PlacedIn.children_eq_topIds ht]
    cases t <;> cases kind
    rfl

/-- A forest is merged if its place in an arena is well formed. -/
theorem isMerged_of_placedIn {parent first : Nat} {f : Forest} (h : f.PlacedIn d parent first)
    (wellFormed : d.arena.WellFormed)
    (apart : (f.topIds first).IsChain fun i j => ¬(d.arena.isText i ∧ d.arena.isText j)) :
    f.isMerged := by
  induction f generalizing parent first with
  | nil => rfl
  | leaf l rest ih =>
    obtain ⟨head, behind⟩ := List.isChain_cons.mp apart
    have merged := ih h.behind_leaf behind
    have here : d.arena.kind? first = some (.leaf l) := d.kind?_arena first ▸ h.kind?_leaf
    cases l with
    | text s =>
      -- A text that another one follows would have it as its next sibling in the arena.
      refine Forest.isMerged_text.mpr ⟨?_, ?_, merged⟩
      · rintro rfl
        exact wellFormed.noEmptyText first here
      · by_contra starts
        obtain ⟨t, after, rfl⟩ :=
          Forest.exists_text_of_startsWithText (Bool.eq_true_of_not_eq_false starts)
        have next : d.arena.kind? (first + 1) = some (.leaf (.text t)) :=
          d.kind?_arena (first + 1) ▸ h.behind_leaf.kind?_leaf
        exact head (first + 1) rfl ⟨⟨s, here⟩, ⟨t, next⟩⟩
    | comment | instruction => exact merged
  | element e content rest ihc ihr =>
    have children : d.arena.children first = content.topIds (first + 1) := by
      rw [children_arena, h.children_of_element]
    exact Forest.isMerged_element.mpr
      ⟨ihc h.inside (children ▸ wellFormed.noNeighbouringTexts first),
        ihr h.behind_element (List.isChain_cons.mp apart).2⟩

/-- The documents whose arenas are well formed are the merged ones. -/
theorem wellFormed_arena_iff : d.arena.WellFormed ↔ d.content.isMerged := by
  refine ⟨fun wellFormed => ?_, wellFormed_arena⟩
  have top : d.arena.children 0 = d.content.topIds 1 := by
    rw [children_arena]
    exact Forest.PlacedIn.children_eq_topIds (t := .document d) rfl
  exact isMerged_of_placedIn (.of_document d) wellFormed (top ▸ wellFormed.noNeighbouringTexts 0)

end Document

/-! ### Well-formed arenas are documents -/

namespace Arena

variable {a : Arena}

/-- The places that the cells of an arena stand for. -/
def places (a : Arena) : List Place := a.map fun c => ⟨c.kind, c.parent⟩

namespace WellFormed

variable (h : a.WellFormed)

include h

theorem mem_children_iff {i j : Nat} : j ∈ a.children i ↔ a.parent? j = some i := by
  constructor
  · intro hj
    obtain ⟨pos, within⟩ := h.child i j hj
    obtain ⟨p, -, hp, count⟩ := h.parent j pos within
    have found := List.count_pos_iff.mpr hj
    rw [count i] at found
    split at found
    · next same => rw [hp, same]
    · cases found
  · intro hj
    have pos : 0 < j := by
      refine Nat.pos_of_ne_zero ?_
      rintro rfl
      cases hj.symm.trans h.root
    obtain ⟨c, hc, -⟩ := Option.bind_eq_some_iff.mp hj
    obtain ⟨p, -, hp, count⟩ := h.parent j pos (List.getElem?_eq_some_iff.mp hc).1
    cases hp.symm.trans hj
    refine List.count_pos_iff.mp ?_
    rw [count i, if_pos rfl]
    exact Nat.one_pos

/-- The links to the children follow from the links to the parents. -/
theorem ofPlaces_places : ofPlaces a.places = a := by
  refine List.ext_getElem? fun i => ?_
  rw [getElem?_ofPlaces, places, List.getElem?_map]
  cases hc : a[i]? with
  | none => rfl
  | some c =>
    have children : a.children i = c.children := by rw [Arena.children, hc]; rfl
    have same : childrenAt a.places i = a.children i := by
      refine (List.pairwise_lt_range.filter _).eq_of_mem_iff (h.ascending i) fun j => ?_
      have parent : parentAt a.places j = a.parent? j := by
        rw [parentAt, places, List.getElem?_map, Arena.parent?, Option.bind_map]
        rfl
      rw [List.mem_filter, h.mem_children_iff, parent, List.mem_range, places, List.length_map,
        decide_eq_true_eq]
      exact and_iff_right_of_imp fun hj =>
        (h.child i j (h.mem_children_iff.mpr hj)).2
    rw [children, places] at same
    rw [Option.map_some, Option.map_some, same]

/-- What the iterator over descendants yields from siblings, if the numbers follow each other, are
the nodes of a forest. -/
theorem exists_forest {n : Nat} {parent first : Nat} {stack : List Nat} (pos : 0 < first)
    (siblings : ∀ i ∈ stack, a.parent? i = some parent) (bound : first + n ≤ a.length)
    (run : Yields a.nextDescendant stack (List.range' first n)) :
    ∃ f : Forest, f.size = n ∧ f.places parent first = (a.places.drop first).take n := by
  -- On how many nodes are yielded: the first sibling, then the nodes inside it, then the others
  -- with what is inside them.
  induction n using Nat.strongRecOn generalizing parent first stack with
  | ind n ih =>
    cases n with
    | zero => exact ⟨.nil, rfl, List.take_zero.symm⟩
    | succ n =>
      rw [List.range'_succ] at run
      cases run with
      | @more _ next _ _ some run =>
      cases stack with
      | nil => cases some
      | cons i stack =>
      cases some
      obtain ⟨parentOfFirst, siblings⟩ := List.forall_mem_cons.mp siblings
      obtain ⟨inside, behind, split, hinside, hbehind⟩ := exists_of_yields_append run
      obtain ⟨k, hk, rfl, rfl⟩ := List.range'_eq_append_iff.mp split
      rw [Nat.mul_one] at hbehind
      obtain ⟨f, size, hf⟩ := ih k (by omega) (Nat.succ_pos first)
        (fun j hj => h.mem_children_iff.mp hj) (by omega) hinside
      obtain ⟨g, size', hg⟩ := ih (n - k) (by omega) (by omega) siblings (by omega) hbehind
      obtain ⟨c, hc⟩ : ∃ c, a[first]? = some c :=
        ⟨_, List.getElem?_eq_getElem (show first < a.length by omega)⟩
      have hparent : c.parent = some parent := by
        rw [Arena.parent?, hc] at parentOfFirst
        exact parentOfFirst
      have later : (a.places.drop (first + 1)).take n
          = f.places first (first + 1) ++ g.places parent (first + 1 + k) := by
        have next := List.take_add (i := k) (j := n - k) (l := a.places.drop (first + 1))
        rw [List.drop_drop, Nat.add_sub_of_le hk] at next
        rw [hf, hg, next]
      have here : a.places.drop first = ⟨c.kind, some parent⟩ :: a.places.drop (first + 1) := by
        have nth : a.places[first]? = some ⟨c.kind, some parent⟩ := by
          rw [places, List.getElem?_map, hc, Option.map_some, hparent]
        obtain ⟨within, nth⟩ := List.getElem?_eq_some_iff.mp nth
        rw [List.drop_eq_getElem_cons within, nth]
      have kind : a.kind? first = some c.kind := by
        rw [Arena.kind?, hc]
        rfl
      rw [here, List.take_succ_cons, later]
      cases hkind : c.kind with
      | document base =>
        have root := (h.document first).mp ⟨base, hkind ▸ kind⟩
        omega
      | element e =>
        refine ⟨.element e f g, by rw [Forest.size]; omega, ?_⟩
        rw [Forest.places, Forest.nodes, size, Nat.add_right_comm first k 1]
        simp [Forest.places]
      | leaf l =>
        -- A leaf has no children, so nothing is yielded before its siblings.
        rw [h.leaf first l (hkind ▸ kind)] at hinside
        have none : k = 0 := by
          simpa using congrArg List.length (hinside.unique (.stop rfl))
        subst none
        obtain rfl : f = .nil := by
          cases f with
          | nil => rfl
          | leaf => cases size
          | element => cases size
        exact ⟨.leaf l g, by rw [Forest.size]; omega, rfl⟩

/-- **Every well-formed arena is that of a document.** -/
theorem exists_document : ∃ d : Document, d.arena = a := by
  obtain ⟨base, hbase⟩ := (h.document 0).mpr rfl
  obtain ⟨c, hc, hkind⟩ := Option.map_eq_some_iff.mp hbase
  have nonempty := (List.getElem?_eq_some_iff.mp hc).1
  obtain ⟨inside, run, numbers, below⟩ := h.descendants 0 nonempty
  -- Parents come before their children, so every node but the root is somewhere inside it.
  have all : ∀ j, j ∈ inside ↔ 0 < j ∧ j < a.length := by
    intro j
    rw [below]
    constructor
    · intro above
      obtain ⟨p, -, hp⟩ := Relation.TransGen.tail'_iff.mp above
      exact h.child p j (h.mem_children_iff.mpr hp)
    · rintro ⟨pos, within⟩
      induction j using Nat.strongRecOn with
      | ind j ih =>
        obtain ⟨p, before, hp, -⟩ := h.parent j pos within
        obtain rfl | ppos := Nat.eq_zero_or_pos p
        · exact .single hp
        · exact .tail (ih p before ppos (Nat.lt_trans before within)) hp
  have length : inside.length + 1 = a.length := by
    rw [numbers] at all
    have last := all (inside.length)
    have behind := all (inside.length + 1)
    simp only [List.mem_range'_1] at last behind
    omega
  rw [numbers] at run
  obtain ⟨f, -, hf⟩ := h.exists_forest Nat.one_pos (fun i hi => h.mem_children_iff.mp hi)
    (by omega) run
  refine ⟨⟨base, f⟩, ?_⟩
  have same : (Document.mk base f).places = a.places := by
    obtain ⟨first, behind, rfl⟩ : ∃ first behind, a = first :: behind := by
      cases a with
      | nil => cases nonempty
      | cons first behind => exact ⟨first, behind, rfl⟩
    obtain rfl : first = c := Option.some.inj hc
    have root : first.parent = none := h.root
    have whole : inside.length = behind.length := by simpa using length
    rw [Document.places, hf]
    have all : (places behind).take inside.length = places behind := by
      rw [whole, places, List.take_of_length_le (List.length_map _).le]
    show _ :: (places behind).take inside.length = _ :: places behind
    rw [all]
    dsimp only
    rw [hkind, root]
  rw [Document.arena, same, h.ofPlaces_places]

end WellFormed

end Arena

end Transclusion
