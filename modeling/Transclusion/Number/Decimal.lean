import Transclusion.Number.Double
import Transclusion.Text.Index
/-!
# Decimal numerals

Reading a numeral made of ASCII digits with at most one decimal point.  The value is the double
nearest to the number written, whatever its length.
-/

namespace Transclusion.Number

open Transclusion.Text (digitsValue)

/-- The double nearest to the numeral with these digits before and after the point. -/
def ofDecimal (whole fraction : List Char) : Float :=
  nearestQuotient (digitsValue (digitsValue 0 whole) fraction) (Nat.pow 10 fraction.length)

/-- Reads digits with at most one point among, before or after them; at least one digit is
needed. -/
def readDecimal? (cs : List Char) : Option Float :=
  let whole := cs.takeWhile Char.isDigit
  match cs.dropWhile Char.isDigit with
  | [] => if whole.isEmpty then none else some (ofDecimal whole [])
  | '.' :: fraction =>
    if !fraction.all Char.isDigit || (whole.isEmpty && fraction.isEmpty) then none
    else some (ofDecimal whole fraction)
  | _ => none

end Transclusion.Number
