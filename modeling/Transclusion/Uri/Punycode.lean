import Transclusion.Text.Ranges
/-!
# Punycode

Domain names write labels of other scripts in ASCII.  The text after the last hyphen is a sequence
of numbers, each of which says where a character is to be inserted, and which one, relative to
the insertion before.  A number is written in digits of a base that varies, lowest first; a digit
below a threshold, which depends on the numbers before, is the last one.

`Punycode.decode?` reads the digits one by one, as steps of an `Insertion` under way.
`Punycode.encode` writes a text: what is to be inserted are the characters outside ASCII, by their
code points and equal ones from left to right.
-/

namespace Transclusion.Uri.Punycode

/-- Numbers must stay below this bound. -/
def bound : Nat := Nat.pow 2 32

/-- The value of a digit. -/
def digitOf? (c : Char) : Option Nat :=
  if 'a' ≤ c && c ≤ 'z' then some (c.toNat - 'a'.toNat)
  else if 'A' ≤ c && c ≤ 'Z' then some (c.toNat - 'A'.toNat)
  else if c.isDigit then some (c.toNat - '0'.toNat + 26)
  else none

/-- The threshold of a digit at `position`, which counts in steps of 36. -/
def threshold (bias position : Nat) : Nat :=
  if position ≤ bias then 1 else if bias + 26 ≤ position then 26 else position - bias

theorem threshold_pos (bias position : Nat) : 0 < threshold bias position := by
  unfold threshold
  split
  · omega
  · split <;> omega

theorem threshold_le (bias position : Nat) : threshold bias position ≤ 26 := by
  unfold threshold
  split
  · omega
  · split <;> omega

/-- The bias that fits numbers of the size of `delta`. -/
def biasOf (delta : Nat) : Nat :=
  if 455 < delta then 36 + biasOf (delta / 35) else 36 * delta / (delta + 38)
termination_by delta
decreasing_by exact Nat.div_lt_self (by omega) (by omega)

/-- The bias after the number `delta`, the first one or not, has led to a text of `length`. -/
def adapt (delta length : Nat) (isFirst : Bool) : Nat :=
  let delta := if isFirst then delta / 700 else delta / 2
  biasOf (delta + delta / length)

/-! ### Reading -/

/-- The text so far, and the number that is being read. -/
structure Insertion where
  text : List Char
  /-- The code point inserted last. -/
  code : Nat := 128
  bias : Nat := 72
  /-- The place from which the number counts. -/
  start : Nat := 0
  /-- The place plus the number as far as it has been read. -/
  sum : Nat := 0
  weight : Nat := 1
  position : Nat := 36
deriving Repr

/-- Inserts the character at the end of a number. -/
def Insertion.insert? (s : Insertion) (sum : Nat) : Option Insertion :=
  let length := s.text.length + 1
  let code := s.code + sum / length
  let place := sum % length
  if h : code.isValidChar then
    some {
      text := s.text.insertIdx place (Char.ofNatAux code h)
      code
      bias := adapt (sum - s.start) length (s.start = 0)
      start := place + 1
      sum := place + 1 }
  else none

/-- Reads a digit. -/
def Insertion.step? (s : Insertion) (c : Char) : Option Insertion := do
  let digit ← digitOf? c
  let sum := s.sum + digit * s.weight
  if bound ≤ sum then none
  let threshold := threshold s.bias s.position
  if digit < threshold then s.insert? sum
  else
    let weight := s.weight * (36 - threshold)
    if bound ≤ weight then none
    return { s with sum, weight, position := s.position + 36 }

/-- The text before the last hyphen, and the digits after it. A hyphen with nothing before it is
no separator. -/
def cutDigits (cs : List Char) : List Char × List Char :=
  let digits := (cs.reverse.takeWhile (· ≠ '-')).reverse
  let text := cs.take (cs.length - digits.length - 1)
  if text.isEmpty then ([], cs) else (text, digits)

/-- The text that is written so. The last number must be complete. -/
def decode? (cs : List Char) : Option (List Char) := do
  let (text, digits) := cutDigits cs
  let s ← digits.foldlM Insertion.step? { text }
  if s.position = 36 then some s.text else none

/-! ### Writing -/

/-- The digit with a value. -/
def digit (value : Nat) : Char :=
  if value < 26 then Char.ofNat ('a'.toNat + value) else Char.ofNat ('0'.toNat + value - 26)

/-- A number in digits from `position` on. -/
def digits (bias position number : Nat) : List Char :=
  let least := threshold bias position
  if number < least then [digit number]
  else
    digit (least + (number - least) % (36 - least))
      :: digits bias (position + 36) ((number - least) / (36 - least))
termination_by number
decreasing_by
  have positive : 0 < threshold bias position := threshold_pos bias position
  exact Nat.lt_of_le_of_lt (Nat.div_le_self _ _) (by omega)

/-- Puts a number into an ascending list, unless it is there. -/
def insertCode (code : Nat) : List Nat → List Nat
  | [] => [code]
  | other :: rest =>
    if code < other then code :: other :: rest
    else if code = other then other :: rest
    else other :: insertCode code rest

/-- The code points outside ASCII, in ascending order. -/
def codes (text : List Char) : List Nat :=
  text.foldr (fun c codes => if c.toNat < 128 then codes else insertCode c.toNat codes) []

/-- The places where the characters with the code point are inserted, if all with lower ones are
there; `place` is that of the first character of the text. -/
def places (code place : Nat) : List Char → List Nat
  | [] => []
  | c :: rest =>
    if c.toNat = code then place :: places code (place + 1) rest
    else places code (if c.toNat < code then place + 1 else place) rest

/-- The numbers for insertions of code points at places, into a text of `length` with the last one
before `start`. -/
def writeInsertions (code bias start length : Nat) : List (Nat × Nat) → List Char
  | [] => []
  | (next, place) :: rest =>
    let delta := (next - code) * (length + 1) + place - start
    digits bias 36 delta
      ++ writeInsertions next (adapt delta (length + 1) (start = 0)) (place + 1) (length + 1) rest

/-- The text in ASCII. -/
def encode (text : List Char) : List Char :=
  let kept := text.filter (·.toNat < 128)
  let insertions := (codes text).flatMap fun code => (places code 0 text).map (code, ·)
  (if kept.isEmpty then [] else kept ++ ['-']) ++ writeInsertions 128 72 0 kept.length insertions

end Transclusion.Uri.Punycode
