import Mathlib.Data.List.Forall2
import Transclusion.Proofs.Fixup.Attributes
import Transclusion.Proofs.Inclusion.Substitution
import Transclusion.Proofs.Markup.Excerpt
/-!
# The languages of elements

An element has the language that its own `xml:lang` gives, or else the one around it.
`Forest.languages` lists the elements of a forest with their languages in document order, which is
what the nodes of a document say of them (`Document.languages_eq`).

When a forest is filled, the elements that stay keep the language that they have there, and the
elements of an answer get the language around the control element that they replace
(`Forest.Piece`, `Forest.forall₂_fill`).
-/

namespace Transclusion

/-! ### Lists of elements -/

namespace Forest

/-- The elements in document order, each with its language, in surroundings with the language
`around`. -/
def languages (around : Option String) : Forest → List (Element × Option String)
  | nil => []
  | leaf _ rest => rest.languages around
  | element e content rest =>
    (e, e.langIn around) :: content.languages (e.langIn around) ++ rest.languages around

variable (around : Option String)

@[simp] theorem languages_consLeaf (l : Leaf) (f : Forest) :
    (consLeaf l f).languages around = f.languages around := by
  unfold consLeaf consText
  split
  · split
    · rfl
    · split <;> rfl
  · rfl

@[simp] theorem languages_append (f g : Forest) :
    (f.append g).languages around = f.languages around ++ g.languages around := by
  induction f with
  | nil => rfl
  | leaf l rest ih => rw [append, languages_consLeaf, ih, languages]
  | element e content rest _ ih => rw [append, languages, ih, languages, List.append_assoc]

/-- A forest with a node at its front, the content of which lies behind it. -/
structure Sits (f : Forest) (d : Document) (parent first : Nat) : Prop where
  before : parent < first
  nodes : ∀ m, m < f.size → d.nodeList[first + m]? = (f.nodes parent first)[m]?

end Forest

theorem Document.sits (d : Document) : d.content.Sits d 0 1 where
  before := Nat.zero_lt_one
  nodes m _ := by rw [Nat.add_comm, nodeList, List.getElem?_cons_succ]

theorem Document.sits_of_subtree? {d : Document} {i : Nat} {t : Subtree}
    (h : d.subtree? i = some t) : t.content.Sits d i (i + 1) where
  before := Nat.lt_succ_self i
  nodes _ hm := nodeList_inside h hm

/-! ### Languages of nodes -/

namespace NodeList

variable {d : Document} {i p : Nat} {e : Element}

@[simp] theorem lang?_document (d : Document) : d.nodes.lang? 0 = none := by
  rw [lang?, ancestors]
  rfl

/-- The language of an element, given that around it. -/
theorem lang?_of_element? (element : d.nodes.element? i = some e)
    (parent : d.nodes.parent? i = some p) : d.nodes.lang? i = e.langIn (d.nodes.lang? p) := by
  have ancestors_eq : d.nodes.ancestors i = p :: d.nodes.ancestors p := by
    rw [ancestors, parent]
    exact if_pos (inside_of_parent? parent).1
  rw [lang?, lang?, List.findSome?_cons, element, Option.bind_some, ancestors_eq, Element.langIn,
    Element.lang?]
  cases e.attribute? (.xml "lang") <;> rfl

end NodeList

namespace Forest.Sits

variable {d : Document} {parent first : Nat} {f : Forest}

/-- The first node of a forest. -/
theorem node {k : Node} (h : f.Sits d parent first) (here : (f.nodes parent first)[0]? = some k) :
    d.nodes.nodes[first]? = some k := by
  have hsize : 0 < f.size := by
    rw [← length_nodes parent first]
    exact (List.getElem?_eq_some_iff.mp here).1
  have hget := h.nodes 0 hsize
  rw [Nat.add_zero, here] at hget
  rw [Document.nodes_getElem?, hget]

theorem leaf_rest {l : Leaf} {rest : Forest} (h : (leaf l rest).Sits d parent first) :
    rest.Sits d parent (first + 1) where
  before := Nat.lt_succ_of_lt h.before
  nodes m hm := by
    have hget := h.nodes (m + 1) (by rw [size]; omega)
    rw [show first + 1 + m = first + (m + 1) by omega, hget]
    rfl

section

variable {e : Element} {content rest : Forest} (h : (element e content rest).Sits d parent first)

include h

theorem element? : d.nodes.element? first = some e := by
  rw [NodeList.element?, NodeList.kind?, h.node rfl]
  rfl

theorem parent? : d.nodes.parent? first = some parent := by
  rw [NodeList.parent?, h.node rfl]
  rfl

theorem lang? : d.nodes.lang? first = e.langIn (d.nodes.lang? parent) :=
  NodeList.lang?_of_element? h.element? h.parent?

theorem inside : content.Sits d first (first + 1) where
  before := Nat.lt_succ_self first
  nodes m hm := by
    have hget := h.nodes (m + 1) (by rw [size]; omega)
    rw [show first + 1 + m = first + (m + 1) by omega, hget, Forest.nodes, List.cons_append,
      List.getElem?_cons_succ, List.getElem?_append_left (by rwa [length_nodes])]

theorem behind : rest.Sits d parent (first + content.size + 1) where
  before := by
    have hlt := h.before
    omega
  nodes m hm := by
    have hget := h.nodes (content.size + m + 1) (by rw [size]; omega)
    rw [show first + content.size + 1 + m = first + (content.size + m + 1) by omega, hget,
      getElem?_nodes_behind]

end

end Forest.Sits

namespace Document

variable (d : Document)

/-- The element with the number `i`, and its language. -/
def spoken? (i : Nat) : Option (Element × Option String) :=
  (d.nodes.element? i).map fun e => (e, d.nodes.lang? i)

/-- The numbers of the elements of a document. -/
def elementNumbers : List Nat := d.nodes.numbers.filter d.nodes.isElement

/-- The numbers of the elements in the subtree of a node. -/
def elementsAt (i : Nat) : List Nat := (i :: d.nodes.descendants i).filter d.nodes.isElement

theorem isSome_spoken? (i : Nat) : (d.spoken? i).isSome = d.nodes.isElement i := by
  rw [spoken?, Option.isSome_map, NodeList.isElement]

/-- The elements of a forest that sits in a document. -/
theorem languages_of_sits {f : Forest} {parent first : Nat} (h : f.Sits d parent first) :
    f.languages (d.nodes.lang? parent) = (List.range' first f.size).filterMap d.spoken? := by
  induction f generalizing parent first with
  | nil => rfl
  | leaf l rest ih =>
    have none_ : d.spoken? first = none := by
      rw [spoken?, NodeList.element?, NodeList.kind?, h.node rfl]
      rfl
    rw [Forest.languages, Forest.size, List.range'_succ, List.filterMap_cons_none none_,
      ih h.leaf_rest]
  | element e content rest ihc ihr =>
    have here : d.spoken? first = some (e, e.langIn (d.nodes.lang? parent)) := by
      rw [spoken?, h.element?, h.lang?]
      rfl
    have size : (Forest.element e content rest).size = content.size + rest.size + 1 := rfl
    rw [Forest.languages, size, List.range'_succ, List.filterMap_cons_some here,
      ← List.range'_append_1, List.filterMap_append, ihr h.behind, ← h.lang?, ihc h.inside,
      List.cons_append, Nat.add_right_comm first 1]

/-- The elements of a document and their languages, as the nodes say. -/
theorem languages_eq : d.content.languages none = d.nodes.numbers.filterMap d.spoken? := by
  have nothing : d.spoken? 0 = none := rfl
  have numbers : d.nodes.numbers = 0 :: List.range' 1 d.content.size := by
    rw [NodeList.numbers, size_nodes, size, List.range_eq_range', List.range'_succ]
  rw [numbers, List.filterMap_cons_none nothing, ← d.languages_of_sits d.sits,
    NodeList.lang?_document]

variable {d}

/-- The elements inside a node. -/
theorem languages_inside {i : Nat} {t : Subtree} (h : d.subtree? i = some t) :
    t.content.languages (d.nodes.lang? i) = (d.nodes.descendants i).filterMap d.spoken? := by
  rw [d.languages_of_sits (sits_of_subtree? h), NodeList.descendants, extent_eq h, Subtree.size,
    Nat.add_sub_cancel]

end Document

/-! ### Lists beside the elements -/

/-- A list beside the values of a partial function. -/
theorem forall₂_filterMap_iff {α β γ : Type} {g : α → Option β} {p : β → γ → Prop} {xs : List α}
    {ys : List γ} :
    List.Forall₂ p (xs.filterMap g) ys
      ↔ List.Forall₂ (fun x y => ∃ b, g x = some b ∧ p b y) (xs.filter fun x => (g x).isSome)
          ys := by
  induction xs generalizing ys with
  | nil => simp
  | cons x xs ih =>
    cases hx : g x with
    | none => simp [List.filterMap_cons_none hx, hx, ih]
    | some b => simp [List.filterMap_cons_some hx, hx, List.forall₂_cons_left_iff, ih]

theorem Document.forall₂_languages_iff {d : Document} {τ : Type}
    {p : Element × Option String → τ → Prop} {tags : List τ} :
    List.Forall₂ p (d.content.languages none) tags
      ↔ List.Forall₂ (fun j o => ∃ e, d.nodes.element? j = some e ∧ p (e, d.nodes.lang? j) o)
          d.elementNumbers tags := by
  have each : ∀ j o, (∃ b, d.spoken? j = some b ∧ p b o)
      ↔ ∃ e, d.nodes.element? j = some e ∧ p (e, d.nodes.lang? j) o := by
    intro j o
    rw [spoken?]
    cases d.nodes.element? j <;> simp
  rw [languages_eq, forall₂_filterMap_iff]
  simp only [isSome_spoken?, each]
  rfl

theorem Document.mem_elementNumbers {d : Document} {i : Nat} {e : Element}
    (h : d.nodes.element? i = some e) : i ∈ d.elementNumbers := by
  refine List.mem_filter.mpr ⟨?_, by rw [NodeList.isElement, h]; rfl⟩
  rw [NodeList.numbers, List.mem_range, size_nodes]
  exact (bounds_of_element? h).2

theorem exists_lookup_of_forall₂ {α β : Type} [BEq α] [LawfulBEq α] {r : α → β → Prop}
    {xs : List α} {ys : List β} (h : List.Forall₂ r xs ys) {x : α} (hx : x ∈ xs) :
    ∃ y, (xs.zip ys).lookup x = some y ∧ r x y := by
  induction h with
  | nil => cases hx
  | @cons x' y' xs ys first _ ih =>
    rw [List.zip_cons_cons, List.lookup_cons]
    by_cases here : x = x'
    · subst here
      exact ⟨y', by simp, first⟩
    · have later : (x == x') = false := beq_eq_false_iff_ne.mpr here
      rw [later]
      exact ih ((List.mem_cons.mp hx).resolve_left here)

theorem exists_lookup_eq_of_mem {α β : Type} [BEq α] [LawfulBEq α] {xs : List α} {ys : List β}
    (length : xs.length = ys.length) (unique : xs.Nodup) {y : β} (hy : y ∈ ys) :
    ∃ x ∈ xs, (xs.zip ys).lookup x = some y := by
  induction xs generalizing ys with
  | nil =>
    rw [List.length_nil, eq_comm, List.length_eq_zero_iff] at length
    exact absurd (length ▸ hy) List.not_mem_nil
  | cons x xs ih =>
    cases ys with
    | nil => cases hy
    | cons y' ys =>
      obtain ⟨new, unique⟩ := List.nodup_cons.mp unique
      obtain rfl | later := List.mem_cons.mp hy
      · exact ⟨x, List.mem_cons_self, by simp⟩
      · obtain ⟨x', among, found⟩ := ih (Nat.succ.inj length) unique later
        refine ⟨x', List.mem_cons_of_mem x among, ?_⟩
        have other : (x' == x) = false := beq_eq_false_iff_ne.mpr fun same => new (same ▸ among)
        rw [List.zip_cons_cons, List.lookup_cons, other]
        exact found

/-! ### Filled forests -/

/-- What a filled forest is made of: the elements that stay, with their numbers and languages, and
the answers to control elements, each with the language around it. -/
inductive Piece where
  | kept (number : Nat) (element : Element) (language : Option String)
  | replaced (x : Encounter) (place : Option String)

namespace Forest

variable (controls : ControlRegistry)

/-- The pieces of a filled forest in document order. -/
def pieces (around : Option String) (first : Nat) : Forest → List Piece
  | nil => []
  | leaf _ rest => rest.pieces around (first + 1)
  | element e content rest =>
    match controls.get? e.name with
    | some control =>
      .replaced ⟨control, first, e⟩ around :: rest.pieces around (first + content.size + 1)
    | none =>
      .kept first e (e.langIn around) :: content.pieces (e.langIn around) (first + 1)
        ++ rest.pieces around (first + content.size + 1)

/-- What stands beside the elements of a filled forest, given what stands beside the elements that
stay, by their numbers, and beside those of each answer. -/
def interleave {τ : Type} (own : Nat → τ) (first : Nat) : Forest → List (List τ) → List τ
  | nil, _ => []
  | leaf _ rest, answers => rest.interleave own (first + 1) answers
  | element e content rest, answers =>
    match controls.get? e.name with
    | some _ =>
      answers.head?.getD [] ++ rest.interleave own (first + content.size + 1) answers.tail
    | none =>
      let inside := (content.encounters controls 0).length
      own first :: content.interleave own (first + 1) (answers.take inside)
        ++ rest.interleave own (first + content.size + 1) (answers.drop inside)

variable {controls}

/-- What holds of the pieces holds of all elements of a filled forest. -/
theorem forall₂_fill {τ : Type} {p : Element × Option String → τ → Prop} (own : Nat → τ)
    {f : Forest} {around : Option String} {first : Nat} {answers : List (Document × List τ)}
    (kept : ∀ n e l, .kept n e l ∈ f.pieces controls around first → p (e, l) (own n))
    (answered : List.Forall₂ (fun x a =>
      ∀ place, .replaced x place ∈ f.pieces controls around first →
        List.Forall₂ p (a.1.content.languages place) a.2) (f.encounters controls first) answers) :
    List.Forall₂ p ((f.fill controls (answers.map (·.1))).languages around)
      (f.interleave controls own first (answers.map (·.2))) := by
  induction f generalizing around first answers with
  | nil => exact .nil
  | leaf l rest ih =>
    rw [fill, languages_consLeaf]
    exact ih kept answered
  | element e content rest ihc ihr =>
    cases hget : controls.get? e.name with
    | some control =>
      simp only [pieces, encounters, hget] at kept answered
      obtain ⟨answer, others, here, behind, rfl⟩ := List.forall₂_cons_left_iff.mp answered
      simp only [fill, interleave, hget, languages_append]
      refine List.rel_append (here around List.mem_cons_self) (ihr ?_ ?_)
      · exact fun n e l h => kept n e l (List.mem_cons_of_mem _ h)
      · exact behind.imp fun x a h place hx => h place (List.mem_cons_of_mem _ hx)
    | none =>
      simp only [pieces, encounters, hget] at kept answered
      simp only [fill, interleave, hget, languages, ← List.map_take, ← List.map_drop]
      -- The answers to what is inside the element come first, and then those to what is behind it.
      have count := length_encounters controls 0 (first + 1) content
      have inside := List.forall₂_take (content.encounters controls (first + 1)).length answered
      have behind := List.forall₂_drop (content.encounters controls (first + 1)).length answered
      rw [List.take_left, ← count] at inside
      rw [List.drop_left, ← count] at behind
      refine List.rel_append (.cons (kept first e _ List.mem_cons_self) (ihc ?_ ?_)) (ihr ?_ ?_)
      · exact fun n e l h => kept n e l (List.mem_cons_of_mem _ (List.mem_append_left _ h))
      · exact inside.imp fun x a h place hx =>
          h place (List.mem_cons_of_mem _ (List.mem_append_left _ hx))
      · exact fun n e l h => kept n e l (List.mem_cons_of_mem _ (List.mem_append_right _ h))
      · exact behind.imp fun x a h place hx =>
          h place (List.mem_cons_of_mem _ (List.mem_append_right _ hx))

/-- What stands beside an element that stays is its own. -/
theorem own_mem_interleave {τ : Type} (own : Nat → τ) {f : Forest} {around l : Option String}
    {first n : Nat} {e : Element} (hp : .kept n e l ∈ f.pieces controls around first)
    (tags : List (List τ)) : own n ∈ f.interleave controls own first tags := by
  induction f generalizing around first tags with
  | nil => cases hp
  | leaf l rest ih => exact ih hp tags
  | element e' content rest ihc ihr =>
    rw [pieces] at hp
    rw [interleave]
    cases hget : controls.get? e'.name with
    | some control =>
      rw [hget] at hp
      obtain control | behind := List.mem_cons.mp hp
      · cases control
      · exact List.mem_append_right _ (ihr behind _)
    | none =>
      rw [hget] at hp
      obtain here | behind := List.mem_append.mp hp
      · obtain top | inside := List.mem_cons.mp here
        · cases top
          exact List.mem_append_left _ List.mem_cons_self
        · exact List.mem_append_left _ (List.mem_cons_of_mem _ (ihc inside _))
      · exact List.mem_append_right _ (ihr behind _)

/-- What stands beside the answer to a control element stands beside the filled forest. -/
theorem exists_subset_interleave {τ : Type} (own : Nat → τ) {r : Encounter → List τ → Prop}
    {f : Forest} {first : Nat} {tags : List (List τ)}
    (h : List.Forall₂ r (f.encounters controls first) tags) {x : Encounter}
    (hx : x ∈ f.encounters controls first) :
    ∃ ts, r x ts ∧ ts ⊆ f.interleave controls own first tags := by
  induction f generalizing first tags with
  | nil => cases hx
  | leaf l rest ih => exact ih h hx
  | element e content rest ihc ihr =>
    rw [encounters] at h hx
    rw [interleave]
    cases hget : controls.get? e.name with
    | some control =>
      rw [hget] at h hx
      obtain ⟨ts, others, here, behind, rfl⟩ := List.forall₂_cons_left_iff.mp h
      obtain rfl | later := List.mem_cons.mp hx
      · exact ⟨ts, here, List.subset_append_left ts _⟩
      · obtain ⟨ts', holds, among⟩ := ihr behind later
        exact ⟨ts', holds, List.subset_append_of_subset_right _ among⟩
    | none =>
      rw [hget] at h hx
      have count := length_encounters controls 0 (first + 1) content
      have inside := List.forall₂_take (content.encounters controls (first + 1)).length h
      have behind := List.forall₂_drop (content.encounters controls (first + 1)).length h
      rw [List.take_left, ← count] at inside
      rw [List.drop_left, ← count] at behind
      obtain within | later := List.mem_append.mp hx
      · obtain ⟨ts, holds, among⟩ := ihc inside within
        exact ⟨ts, holds, List.subset_append_of_subset_left _ (List.subset_cons_of_subset _ among)⟩
      · obtain ⟨ts, holds, among⟩ := ihr behind later
        exact ⟨ts, holds, List.subset_append_of_subset_right _ among⟩

end Forest

/-! ### Pieces of documents -/

/-- The language at the place of a node. -/
def placeLang (d : Document) (id : Nat) : Option String :=
  d.nodes.lang? ((d.nodes.parent? id).getD id)

/-- What the nodes of a document say of a piece. -/
def Piece.IsOf (controls : ControlRegistry) (d : Document) : Piece → Prop
  | kept n e l =>
    d.nodes.element? n = some e ∧ controls.get? e.name = none ∧ d.nodes.lang? n = l
  | replaced x place => placeLang d x.id = place

namespace Forest.Sits

variable {controls : ControlRegistry} {d : Document} {parent first : Nat} {f : Forest}
  {piece : Piece}

theorem placeLang_eq {id p : Nat} (h : d.nodes.parent? id = some p) :
    placeLang d id = d.nodes.lang? p := by
  rw [placeLang, h, Option.getD_some]

theorem isOf (h : f.Sits d parent first)
    (hp : piece ∈ f.pieces controls (d.nodes.lang? parent) first) : piece.IsOf controls d := by
  induction f generalizing parent first with
  | nil => cases hp
  | leaf l rest ih => exact ih h.leaf_rest hp
  | element e content rest ihc ihr =>
    rw [pieces, ← h.lang?] at hp
    split at hp
    · obtain rfl | behind := List.mem_cons.mp hp
      · exact placeLang_eq h.parent?
      · exact ihr h.behind behind
    · next notControl =>
      obtain here | behind := List.mem_append.mp hp
      · obtain rfl | inside := List.mem_cons.mp here
        · exact ⟨h.element?, notControl, rfl⟩
        · exact ihc h.inside inside
      · exact ihr h.behind behind

/-- If the elements at the top give themselves a language, then what is around a forest matters to
the control elements at its top only. -/
theorem mem_pieces_of_sealed (h : f.Sits d parent first)
    (sealed_ : ∀ e ∈ f.tops, e.lang?.isSome) {around : Option String}
    (hp : piece ∈ f.pieces controls around first) :
    piece ∈ f.pieces controls (d.nodes.lang? parent) first
      ∨ ∃ x, piece = .replaced x around ∧ d.nodes.parent? x.id = some parent := by
  induction f generalizing first with
  | nil => cases hp
  | leaf l rest ih => exact ih h.leaf_rest sealed_ hp
  | element e content rest _ ih =>
    have later := ih h.behind fun e' h' => sealed_ e' (List.mem_cons_of_mem e h')
    obtain ⟨l, hl⟩ := Option.isSome_iff_exists.mp (sealed_ e List.mem_cons_self)
    -- Whatever is around the element, its own language is what those inside it see.
    have own : ∀ around, e.langIn around = some l := by
      intro around
      rw [Element.langIn, hl]
      rfl
    rw [pieces] at hp ⊢
    cases hget : controls.get? e.name with
    | some control =>
      rw [hget] at hp
      obtain rfl | behind := List.mem_cons.mp hp
      · exact .inr ⟨_, rfl, h.parent?⟩
      · exact (later behind).imp_left (List.mem_cons_of_mem _)
    | none =>
      rw [hget, own] at hp
      rw [own]
      obtain here | behind := List.mem_append.mp hp
      · exact .inl (List.mem_append_left _ here)
      · exact (later behind).imp_left (List.mem_append_right _)

end Forest.Sits

end Transclusion
