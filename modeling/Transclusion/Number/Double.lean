/-!
# Doubles as integers

A finite double is `mantissa * 2 ^ (scale - 1074)` with natural numbers `mantissa` and `scale`,
up to its sign.  This module takes a double apart (`magnitude`) and puts one together from an
exact quotient (`nearestQuotient`), so that reading, writing and the remainder can be done in
exact integer arithmetic.
-/

namespace Transclusion.Number

/-- The absolute value `mantissa * 2 ^ (scale - 1074)` of a finite double. -/
structure Magnitude where
  mantissa : Nat
  scale : Nat
deriving DecidableEq, Repr

/-- Whether the sign bit is set, which also tells -0 from 0. -/
def isNegative (x : Float) : Bool := x.toBits >>> 63 = 1

/-- The absolute value of a finite double. -/
def magnitude (x : Float) : Magnitude :=
  let bits := x.toBits.toNat
  let exponent := bits / Nat.pow 2 52 % Nat.pow 2 11
  let fraction := bits % Nat.pow 2 52
  if exponent = 0 then ⟨fraction, 0⟩ else ⟨Nat.pow 2 52 + fraction, exponent - 1⟩

/-- The quotient rounded to the nearest integer, a tie going to the even one. -/
def divideToEven (num den : Nat) : Nat :=
  let quotient := num / den
  let twice := 2 * (num % den)
  if twice < den then quotient
  else if den < twice then quotient + 1
  else quotient + quotient % 2

/-- The scale at which the quotient `num / den` has a mantissa of 53 bits, or 0 if that scale
would be negative. -/
def scaleOf (num den : Nat) : Nat :=
  -- the binary logarithms put the mantissa between 2 ^ 52 and 2 ^ 54
  let guess : Int := (num.log2 : Int) - (den.log2 : Int) - 53 + 1074
  if guess < 0 then
    if num * Nat.pow 2 1074 / den < Nat.pow 2 53 then 0 else 1
  else
    let scale := guess.toNat
    if num * Nat.pow 2 1074 / (den * Nat.pow 2 scale) < Nat.pow 2 53 then scale else scale + 1

/-- The bits of the double nearest to `num / den`, ties to even; a quotient too large for a
double is infinity. -/
def nearestBits (num den : Nat) : Nat :=
  if num = 0 then 0
  else
    let scale := scaleOf num den
    let mantissa := divideToEven (num * Nat.pow 2 1074) (den * Nat.pow 2 scale)
    -- a mantissa of 2 ^ 53 carries into the exponent by itself
    min (scale * Nat.pow 2 52 + mantissa) (2047 * Nat.pow 2 52)

/-- The double nearest to `num / den`. -/
def nearestQuotient (num den : Nat) : Float :=
  Float.ofBits (UInt64.ofNat (nearestBits num den))

/-- The remainder of the division of `x` by `y` toward zero, which is exact and has the sign
of `x`. -/
def remainder (x y : Float) : Float :=
  if x.isNaN || y.isNaN || x.isInf || y == 0 then 0.0 / 0.0
  else if y.isInf then x
  else
    let a := magnitude x
    let b := magnitude y
    let scale := min a.scale b.scale
    let rest := a.mantissa * Nat.pow 2 (a.scale - scale)
      % (b.mantissa * Nat.pow 2 (b.scale - scale))
    let size := nearestQuotient (rest * Nat.pow 2 scale) (Nat.pow 2 1074)
    if isNegative x then -size else size

/-- Rounds to the nearest integer, halves toward positive infinity. -/
def round (x : Float) : Float :=
  if x.isNaN || x.isInf then x else (x + 0.5).floor

/-- The sum of the numbers, from the left; the sum of none is -0. -/
def sum (xs : List Float) : Float := xs.foldl (· + ·) (-0.0)

end Transclusion.Number
