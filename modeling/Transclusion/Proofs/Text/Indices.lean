import Mathlib.Data.Nat.Digits.Defs
import Transclusion.Proofs.Text.Trimming
import Transclusion.Text.Index
/-!
# Indices as they are written

Positions and counts are written as decimal digits, perhaps with zeros in front (`WritesIndex`).
Exactly such digits are read, as the number that they stand for (`readIndex?_eq_some_iff`); the
shortest way to write a number is one of them (`writesIndex_toString`).
-/

namespace Transclusion.Text

variable {c : Char} {digits : List Char} {n : Nat}

/-- The decimal digits of a number that is an index. -/
structure WritesIndex (digits : List Char) (n : Nat) : Prop where
  some_ : digits ≠ []
  decimal : ∀ c ∈ digits, c.isDigit = true
  value : Nat.ofDigitChars 10 digits 0 = n
  fits : n < indexLimit

theorem readIndex?_eq_some_iff : readIndex? digits = some n ↔ WritesIndex digits n := by
  have refused : (digits.isEmpty || !digits.all Char.isDigit) = true
      ↔ ¬(digits ≠ [] ∧ ∀ c ∈ digits, c.isDigit = true) := by
    simp only [Bool.or_eq_true, List.isEmpty_iff, Bool.not_eq_true', ← Bool.not_eq_true,
      List.all_eq_true]
    tauto
  unfold readIndex?
  constructor
  · intro read
    split at read
    · cases read
    · next accepted =>
      obtain ⟨some_, decimal⟩ := not_not.mp (refused.not.mp accepted)
      dsimp only at read
      split at read
      · next fits =>
        cases read
        exact ⟨some_, decimal, rfl, fits⟩
      · cases read
  · rintro ⟨some_, decimal, rfl, fits⟩
    rw [if_neg (refused.not.mpr (not_not.mpr ⟨some_, decimal⟩))]
    exact if_pos fits

theorem writesIndex_toString (fits : n < indexLimit) : WritesIndex (toString n).toList n := by
  have written : (toString n).toList = Nat.toDigits 10 n := Nat.toList_repr
  rw [written]
  exact ⟨Nat.toDigits_ne_nil, fun _ => Nat.isDigit_of_mem_toDigits (by decide) (by decide),
    Nat.ofDigitChars_toDigits (by decide) (by decide), fits⟩

/-! ### The characters of numbers -/

theorem isSpace_of_isDigit (h : c.isDigit = true) : isSpace c = false := by
  by_contra space
  have other := forall_isSpace (p := fun c => !c.isDigit) (by decide) (Bool.not_eq_false _ ▸ space)
  simp [h] at other

theorem ne_of_isDigit {d : Char} (h : c.isDigit = true) (other : d.isDigit = false) : c ≠ d := by
  rintro rfl
  rw [h] at other
  cases other

theorem WritesIndex.not_mem (h : WritesIndex digits n) (other : c.isDigit = false) : c ∉ digits :=
  fun mem => ne_of_isDigit (h.decimal c mem) other rfl

theorem WritesIndex.isSpace_eq_false (h : WritesIndex digits n) : ∀ c ∈ digits, isSpace c = false :=
  fun c mem => isSpace_of_isDigit (h.decimal c mem)

end Transclusion.Text
