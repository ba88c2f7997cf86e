/-!
# Written counts

Positions, counts and lengths are written as decimal digits and held in a machine word: a
number of 2^64 or more is no index.
-/

namespace Transclusion.Text

/-- The least number that is no index. -/
def indexLimit : Nat := Nat.pow 2 64

/-- The value of a run of ASCII digits, read after `value`. -/
def digitsValue (value : Nat) (digits : List Char) : Nat :=
  digits.foldl (fun value c => 10 * value + (c.toNat - '0'.toNat)) value

/-- Reads an index: one or more ASCII digits with a value below `indexLimit`. -/
def readIndex? (digits : List Char) : Option Nat :=
  if digits.isEmpty || !digits.all Char.isDigit then none
  else
    let value := digitsValue 0 digits
    if value < indexLimit then some value else none

theorem readIndex?_lt {digits : List Char} {n : Nat} (h : readIndex? digits = some n) :
    n < indexLimit := by
  simp only [readIndex?] at h
  split at h
  · simp at h
  · split at h
    · next small => simp only [Option.some.injEq] at h; omega
    · simp at h

end Transclusion.Text
