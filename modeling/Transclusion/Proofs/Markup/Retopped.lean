import Mathlib.Data.List.Forall2
import Transclusion.Proofs.Fixup.TopElements
import Transclusion.Proofs.Inclusion.Substitution
import Transclusion.Proofs.Markup.Merged
import Transclusion.Proofs.Markup.Recast
/-!
# Other elements at the top

A forest is retopped if the elements at its top are exchanged for others and all else is left, what
is inside these elements included.  Putting forests together, filling in answers and changing the
elements at the top keep forests retopped.

* `Forest.Retopped.fill`: the same answers, filled in.
* `Document.Retopped.subtree?`: what becomes of a node with all that is inside it.
* `Document.Retopped.recast`: a retopped document is recast, so that what is known of recast
  documents is known of it.
-/

namespace Transclusion

/-- The elements at the top of a forest are exchanged. -/
inductive Forest.Retopped (may : Element → Element → Prop) : Forest → Forest → Prop where
  | nil : Retopped may nil nil
  | leaf {l : Leaf} {rest rest' : Forest} (behind : Retopped may rest rest') :
      Retopped may (leaf l rest) (leaf l rest')
  | element {e e' : Element} {content rest rest' : Forest} (here : may e e')
      (behind : Retopped may rest rest') :
      Retopped may (element e content rest) (element e' content rest')

/-- An element with all that is inside it is exchanged, or the elements at the top of a document. -/
inductive Subtree.Retopped (may : Element → Element → Prop) : Subtree → Subtree → Prop where
  | document {base : Option String} {f f' : Forest} (content : Forest.Retopped may f f') :
      Retopped may (document ⟨base, f⟩) (document ⟨base, f'⟩)
  | element {e e' : Element} {content : Forest} (here : may e e') :
      Retopped may (element e content) (element e' content)
  | leaf (l : Leaf) : Retopped may (leaf l) (leaf l)

/-- The elements at the top of a document are exchanged. -/
structure Document.Retopped (may : Element → Element → Prop) (d d' : Document) : Prop where
  base : d'.base = d.base
  content : Forest.Retopped may d.content d'.content

variable {may may' : Element → Element → Prop}

/-! ### Forests -/

namespace Forest

variable {f f' g g' : Forest}

theorem retopped_self (refl : ∀ e ∈ f.tops, may e e) : Retopped may f f := by
  induction f with
  | nil => exact .nil
  | leaf l rest ih => exact .leaf (ih refl)
  | element e content rest _ ih =>
    rw [tops, List.forall_mem_cons] at refl
    exact .element refl.1 (ih refl.2)

namespace Retopped

theorem mono (h : Retopped may f f') (weaker : ∀ e e', may e e' → may' e e') :
    Retopped may' f f' := by
  induction h with
  | nil => exact .nil
  | leaf _ ih => exact .leaf ih
  | element here _ ih => exact .element (weaker _ _ here) ih

theorem mapTop (h : Retopped may f f') {change change' : Element → Element}
    (step : ∀ e e', may e e' → may' (change e) (change' e')) :
    Retopped may' (f.mapTop change) (f'.mapTop change') := by
  induction h with
  | nil => exact .nil
  | leaf _ ih => exact .leaf ih
  | element here _ ih => exact .element (step _ _ here) ih

theorem mapTop_eq (h : Retopped may f f') {change change' : Element → Element}
    (same : ∀ e e', may e e' → change' e' = change e) : f'.mapTop change' = f.mapTop change := by
  induction h with
  | nil => rfl
  | leaf _ ih => rw [Forest.mapTop, Forest.mapTop, ih]
  | element here _ ih => rw [Forest.mapTop, Forest.mapTop, ih, same _ _ here]

theorem startsWithText_eq (h : Retopped may f f') : f'.startsWithText = f.startsWithText := by
  cases h with
  | nil => rfl
  | @leaf l _ _ _ => cases l <;> rfl
  | element => rfl

theorem consText (h : Retopped may f f') (s : String) :
    Retopped may (consText s f) (consText s f') := by
  cases starts : f.startsWithText with
  | true =>
    obtain ⟨t, rest, rfl⟩ := exists_text_of_startsWithText starts
    cases h with
    | leaf behind => exact .leaf behind
  | false =>
    have starts' := h.startsWithText_eq.trans starts
    rw [consText_of_startsWithText starts, consText_of_startsWithText starts']
    split
    · exact h
    · exact .leaf h

theorem consLeaf (h : Retopped may f f') (l : Leaf) :
    Retopped may (consLeaf l f) (consLeaf l f') := by
  cases l with
  | text s => exact h.consText s
  | comment s => exact .leaf h
  | instruction target data => exact .leaf h

theorem append (hf : Retopped may f f') (hg : Retopped may g g') :
    Retopped may (f.append g) (f'.append g') := by
  induction hf with
  | nil => exact hg
  | leaf _ ih => exact ih.consLeaf _
  | element here _ ih => exact .element here ih

/-- Walks come upon the same control elements, apart from the exchange. -/
theorem encounters (h : Retopped may f f') (refl : ∀ e, may e e)
    (named : ∀ e e', may e e' → e'.name = e.name) (controls : ControlRegistry) (first : Nat) :
    List.Forall₂ (fun x x' : Encounter =>
        x'.control = x.control ∧ x'.id = x.id ∧ may x.element x'.element)
      (f.encounters controls first) (f'.encounters controls first) := by
  induction h generalizing first with
  | nil => exact .nil
  | leaf _ ih => exact ih (first + 1)
  | @element e e' content rest rest' here _ ih =>
    rw [Forest.encounters, Forest.encounters, named _ _ here]
    have behind := ih (first + content.size + 1)
    cases controls.get? e.name with
    | some control => exact .cons ⟨rfl, rfl, here⟩ behind
    | none =>
      refine List.rel_append (List.forall₂_same.mpr fun x _ => ?_) behind
      exact ⟨rfl, rfl, refl x.element⟩

/-- Answers that are retopped themselves can be filled in. -/
theorem fill (h : Retopped may f f') (named : ∀ e e', may e e' → e'.name = e.name)
    (controls : ControlRegistry) {answers : List Document}
    (answered : ∀ a ∈ answers, Retopped may a.content a.content) :
    Retopped may (f.fill controls answers) (f'.fill controls answers) := by
  induction h generalizing answers with
  | nil => exact .nil
  | leaf _ ih => exact (ih answered).consLeaf _
  | @element e e' content rest rest' here _ ih =>
    rw [Forest.fill, Forest.fill, named _ _ here]
    cases controls.get? e.name with
    | some control =>
      have behind := ih fun a ha => answered a (List.mem_of_mem_tail ha)
      cases answers with
      | nil => exact behind
      | cons a rest => exact (answered a List.mem_cons_self).append behind
    | none => exact .element here (ih fun a ha => answered a (List.mem_of_mem_drop ha))

theorem subtree? (h : Retopped may f f') (refl : ∀ e, may e e) (m : Nat) :
    Option.Rel (Subtree.Retopped may) (f.subtree? m) (f'.subtree? m) := by
  have unchanged : ∀ content : Forest, ∀ m,
      Option.Rel (Subtree.Retopped may) (content.subtree? m) (content.subtree? m) := by
    intro content m
    cases content.subtree? m with
    | none => exact .none
    | some t =>
      refine .some ?_
      cases t with
      | document d => exact .document (retopped_self fun e _ => refl e)
      | element e content => exact .element (refl e)
      | leaf l => exact .leaf l
  induction h generalizing m with
  | nil => exact .none
  | leaf _ ih =>
    rw [Forest.subtree?, Forest.subtree?]
    split
    · exact .some (.leaf _)
    · exact ih (m - 1)
  | @element e e' content rest rest' here _ ih =>
    rw [Forest.subtree?, Forest.subtree?]
    split
    · exact .some (.element here)
    · split
      · exact unchanged content (m - 1)
      · exact ih _

/-- A retopped forest is recast. -/
theorem recast (h : Retopped may f f') {first : Nat} (positive : 0 < first) :
    Recast (fun p _ e e' => e' = e ∨ p = 0 ∧ may e e') 0 first f f' := by
  induction h generalizing first with
  | nil => exact .nil 0 first
  | leaf _ ih => exact .leaf (ih (by omega))
  | @element e e' content rest rest' here _ ih =>
    have inside : Recast (fun p _ e e' => e' = e ∨ p = 0 ∧ may e e') first (first + 1) content
        content :=
      .refl_of_low (fun p i e (_ : 0 ≤ p) _ => .inl rfl) _ (Nat.zero_le first) (by omega)
    exact .element (.inr ⟨rfl, here⟩) inside (ih (by omega))

end Retopped

end Forest

/-! ### Documents -/

namespace Document.Retopped

variable {d d' : Document}

theorem mono (h : Retopped may d d') (weaker : ∀ e e', may e e' → may' e e') :
    Retopped may' d d' :=
  ⟨h.base, h.content.mono weaker⟩

theorem recast (h : Retopped may d d') :
    Recast (fun p _ e e' => e' = e ∨ p = 0 ∧ may e e') d d' :=
  ⟨h.base, h.content.recast Nat.zero_lt_one⟩

theorem subtree? (h : Retopped may d d') (refl : ∀ e, may e e) (i : Nat) :
    Option.Rel (Subtree.Retopped may) (d.subtree? i) (d'.subtree? i) := by
  rw [Document.subtree?, Document.subtree?]
  split
  · obtain ⟨base, f⟩ := d
    obtain ⟨base', f'⟩ := d'
    cases h.base
    exact .some (.document h.content)
  · exact h.content.subtree? refl (i - 1)

end Document.Retopped

end Transclusion
