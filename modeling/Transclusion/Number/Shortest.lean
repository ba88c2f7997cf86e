import Transclusion.Number.Double
/-!
# The shortest text of a double

The text of a finite double has the fewest significant digits that read back to it; of several
such decimals it is the nearest one, the upper one of two equally near.  It is always written
positionally, without an exponent, and an integer without a decimal point.
-/

namespace Transclusion.Number

/-- The number `digits * 10 ^ exponent`. -/
structure Decimal where
  digits : Nat
  exponent : Int
deriving DecidableEq, Repr

/-- A positive double as the fraction `value / unit`, with the interval from `low / unit` to
`high / unit` of the reals that are rounded to it; its ends belong to it iff `closed`. -/
structure Rounding where
  low : Nat
  value : Nat
  high : Nat
  unit : Nat
  closed : Bool
deriving DecidableEq, Repr

/-- The rounding interval of a positive double: half-way to its neighbours, of which the lower
one is nearer when the mantissa is the least of its scale. -/
def roundingOf (x : Magnitude) : Rounding :=
  let m := x.mantissa
  let down := if m = Nat.pow 2 52 ∧ x.scale ≠ 0 then 1 else 2
  let s := Nat.pow 2 x.scale
  ⟨(4 * m - down) * s, 4 * m * s, (4 * m + 2) * s, Nat.pow 2 1076, m % 2 = 0⟩

/-- Whether the reals rounded to the double contain `num / den`. -/
def Rounding.has (r : Rounding) (num den : Nat) : Bool :=
  let low := r.low * den
  let here := num * r.unit
  let high := r.high * den
  if r.closed then low ≤ here && here ≤ high else low < here && here < high

/-- The fraction `digits * 10 ^ exponent`. -/
def Decimal.fraction (d : Decimal) : Nat × Nat :=
  (d.digits * Nat.pow 10 d.exponent.toNat, Nat.pow 10 (-d.exponent).toNat)

/-- The multiples of `10 ^ exponent` next to the double, below and above. -/
def Rounding.neighbours (r : Rounding) (exponent : Int) : Decimal × Decimal :=
  let below := r.value * Nat.pow 10 (-exponent).toNat / (r.unit * Nat.pow 10 exponent.toNat)
  (⟨below, exponent⟩, ⟨below + 1, exponent⟩)

/-- The multiple of `10 ^ exponent` that is rounded to the double and nearest to it, if any. -/
def Rounding.onGrid? (r : Rounding) (exponent : Int) : Option Decimal :=
  let (below, above) := r.neighbours exponent
  let hit := fun (d : Decimal) => r.has d.fraction.1 d.fraction.2
  match hit below, hit above with
  | false, false => none
  | true, false => some below
  | false, true => some above
  | true, true =>
    -- the double lies below the middle of the two iff below is nearer
    let middle := (2 * below.digits + 1) * Nat.pow 10 exponent.toNat
    if 2 * r.value * Nat.pow 10 (-exponent).toNat < middle * r.unit then some below else some above

/-- The position of the first significant digit: the number of digits before the point, or
minus the number of zeros after it. -/
def Rounding.pointAfter (r : Rounding) : Int :=
  let whole := r.value / r.unit
  if whole ≠ 0 then (Nat.toDigits 10 whole).length
  else
    match (List.range 400).find? fun n => r.unit ≤ r.value * Nat.pow 10 (n + 1) with
    | some zeros => -(zeros : Int)
    | none => 0

/-- Takes a zero off the end of the digits. -/
def Decimal.reduce (d : Decimal) : Decimal :=
  if d.digits % 10 = 0 then ⟨d.digits / 10, d.exponent + 1⟩ else d

/-- The decimal with the fewest digits that reads back to the double: the first hit on finer
and finer grids. Seventeen digits always suffice. -/
def Rounding.shortest (r : Rounding) : Decimal :=
  let point := r.pointAfter
  match (List.range 17).findSome? fun (n : Nat) => r.onGrid? (point - (n + 1)) with
  | some d => d.reduce
  | none => (r.neighbours (point - 17)).1

/-- A decimal written positionally. -/
def Decimal.text (d : Decimal) : String :=
  let digits := Nat.toDigits 10 d.digits
  if 0 ≤ d.exponent then String.ofList (digits ++ List.replicate d.exponent.toNat '0')
  else
    let places := (-d.exponent).toNat
    let padded := List.replicate (places + 1 - digits.length) '0' ++ digits
    let whole := padded.length - places
    String.ofList (padded.take whole ++ '.' :: padded.drop whole)

/-- The text of a number. Zero has no sign, and the other special values have names. -/
def text (x : Float) : String :=
  if x.isNaN then "NaN"
  else if x.isInf then (if isNegative x then "-Infinity" else "Infinity")
  else
    let size := magnitude x
    if size.mantissa = 0 then "0"
    else
      let written := (roundingOf size).shortest.text
      if isNegative x then "-" ++ written else written

end Transclusion.Number
