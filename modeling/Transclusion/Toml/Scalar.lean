import Transclusion.Text.Cut
import Transclusion.Text.Index
/-!
# Scalars of a TOML document

Texts, numbers, dates and times.  Each function reads from the front of the characters and returns
what is left; of numbers, dates and times only the extent counts, not the value.
-/

namespace Transclusion.Toml

open Text

/-- What is left of the characters after something has been read. -/
abbrev Rest := List Char

/-- Reads a given text. -/
def readText? (expected : String) (cs : List Char) : Option Rest :=
  expected.toList.isPrefixOf? cs

/-! ### Characters -/

def isBlankChar (c : Char) : Bool := c = ' ' || c = '\t'

def skipBlanks (cs : List Char) : Rest := cs.dropWhile isBlankChar

/-- Reads a line end. -/
def readLineEnd? : List Char → Option Rest
  | '\n' :: rest => some rest
  | '\r' :: '\n' :: rest => some rest
  | _ => none

/-- Whether a character can stand in a comment or a text: no control character but the tab. -/
def isPlain (c : Char) : Bool := c = '\t' || (' ' ≤ c && c ≠ '\x7f')

/-- Skips a comment. -/
def skipComment (cs : List Char) : Rest :=
  match cs with
  | '#' :: rest => rest.dropWhile isPlain
  | _ => cs

/-- Skips blanks, comments and line ends. -/
def skipLines : Nat → List Char → Rest
  | 0, cs => cs
  | limit + 1, cs =>
    let rest := skipComment (skipBlanks cs)
    match readLineEnd? rest with
    | some rest => skipLines limit rest
    | none => rest

/-! ### Texts -/

/-- The value of hexadecimal digits. -/
def hexValue? (digits : List Char) : Option Nat :=
  digits.foldlM (fun value c =>
    if c.isDigit then some (16 * value + (c.toNat - '0'.toNat))
    else if 'a' ≤ c && c ≤ 'f' then some (16 * value + (c.toNat - 'a'.toNat + 10))
    else if 'A' ≤ c && c ≤ 'F' then some (16 * value + (c.toNat - 'A'.toNat + 10))
    else none) 0

/-- The character with a number. -/
def charOf? (code : Nat) : Option Char :=
  if code < 0xD800 || (0xDFFF < code && code < 0x110000) then some (Char.ofNat code) else none

/-- Reads the number of a character in `count` digits. -/
def readCode? (count : Nat) (cs : List Char) : Option (Char × Rest) := do
  if cs.length < count then none
  return (← charOf? (← hexValue? (cs.take count)), cs.drop count)

/-- Reads what follows a backslash. -/
def readEscape? : List Char → Option (Char × Rest)
  | 'b' :: rest => some ('\x08', rest)
  | 't' :: rest => some ('\t', rest)
  | 'n' :: rest => some ('\n', rest)
  | 'f' :: rest => some ('\x0c', rest)
  | 'r' :: rest => some ('\r', rest)
  | '\x22' :: rest => some ('\x22', rest)
  | '\x5c' :: rest => some ('\x5c', rest)
  | 'u' :: rest => readCode? 4 rest
  | 'U' :: rest => readCode? 8 rest
  | _ => none

/-- Reads a text up to the quote that ends it; `limit` bounds its length. -/
def readQuoted? (quote : Char) (escapes : Bool) : Nat → List Char → Option (List Char × Rest)
  | 0, _ => none
  | limit + 1, cs =>
    match cs with
    | [] => none
    | c :: rest =>
      if c = quote then some ([], rest)
      else if escapes && c = '\x5c' then do
        let (c, rest) ← readEscape? rest
        let (text, rest) ← readQuoted? quote escapes limit rest
        return (c :: text, rest)
      else if isPlain c then do
        let (text, rest) ← readQuoted? quote escapes limit rest
        return (c :: text, rest)
      else none

/-- Skips blanks and line ends. -/
def skipGaps : Nat → List Char → Rest
  | 0, cs => cs
  | limit + 1, cs =>
    let rest := skipBlanks cs
    match readLineEnd? rest with
    | some rest => skipGaps limit rest
    | none => rest

/-- Skips what a backslash at the end of a line joins: the line end with the blanks before it, and
all blanks and line ends after it. -/
def skipJoined? (cs : List Char) : Option Rest := do
  let rest ← readLineEnd? (skipBlanks cs)
  return skipGaps rest.length rest

/-- Skips a text over several lines, up to three quotes that end it. Up to two quotes before these
belong to the text. -/
def skipLong? (quote : Char) (escapes : Bool) : Nat → List Char → Option Rest
  | 0, _ => none
  | limit + 1, cs =>
    match cs with
    | [] => none
    | c :: rest =>
      if c = quote then
        let quotes := (cs.takeWhile (· = quote)).length
        if quotes < 3 then skipLong? quote escapes limit (cs.drop quotes)
        else some (cs.drop (min quotes 5))
      else if escapes && c = '\x5c' then
        match readEscape? rest with
        | some (_, rest) => skipLong? quote escapes limit rest
        | none => do skipLong? quote escapes limit (← skipJoined? rest)
      else if isPlain c then skipLong? quote escapes limit rest
      else do skipLong? quote escapes limit (← readLineEnd? cs)

/-- Skips a text of any kind. -/
def skipString? (cs : List Char) : Option Rest :=
  let limit := cs.length + 1
  match cs with
  | '\x22' :: '\x22' :: '\x22' :: rest => skipLong? '\x22' true limit rest
  | '\x27' :: '\x27' :: '\x27' :: rest => skipLong? '\x27' false limit rest
  | '\x22' :: rest => (readQuoted? '\x22' true limit rest).map (·.2)
  | '\x27' :: rest => (readQuoted? '\x27' false limit rest).map (·.2)
  | _ => none

/-! ### Numbers -/

/-- Skips digits, between which single underscores can stand. Returns the digits too. -/
def readDigits? (isDigit : Char → Bool) : List Char → Option (List Char × Rest)
  | [] => none
  | c :: rest =>
    if isDigit c then some (more [c] rest) else none
where
  more (found : List Char) : List Char → List Char × Rest
    | [] => (found.reverse, [])
    | '_' :: d :: rest =>
      if isDigit d then more (d :: found) rest else (found.reverse, '_' :: d :: rest)
    | c :: rest => if isDigit c then more (c :: found) rest else (found.reverse, c :: rest)

/-- Skips a sign. -/
def skipSign (cs : List Char) : Rest :=
  match cs with
  | '+' :: rest | '-' :: rest => rest
  | _ => cs

/-- Reads the digits of a whole number: a zero alone, or digits that do not start with one. -/
def readWhole? (cs : List Char) : Option (List Char × Rest) :=
  match cs with
  | '0' :: rest => some (['0'], rest)
  | _ => readDigits? Char.isDigit cs

/-- Reads an exponent. -/
def readExponent? (cs : List Char) : Option (Int × Rest) :=
  match cs with
  | 'e' :: rest | 'E' :: rest => do
    let (digits, after) ← readDigits? Char.isDigit (skipSign rest)
    let size : Int := digitsValue 0 digits
    return (if rest.head? = some '-' then -size else size, after)
  | _ => none

/-- The least number that is rounded to infinity: half a step above the largest number of double
precision. -/
def leastInfinite : Nat := Nat.pow 2 1024 - Nat.pow 2 970

/-- Whether `digits`, times ten to the power of `exponent`, is rounded to infinity. Its order of
magnitude decides unless it is that of the least such number. -/
def overflows (digits : List Char) (exponent : Int) : Bool :=
  let significant := digits.dropWhile (· = '0')
  let wholeDigits := significant.length + exponent
  if significant.isEmpty || wholeDigits < 309 then false
  else if 309 < wholeDigits then true
  else
    let value := digitsValue 0 significant
    decide (leastInfinite * Nat.pow 10 (-exponent).toNat ≤ value * Nat.pow 10 exponent.toNat)

/-- Skips a number with a fraction or an exponent. One that is too large has no value, unless it is
negative. -/
def skipFraction? (cs : List Char) : Option Rest := do
  let (whole, rest) ← readWhole? (skipSign cs)
  let (fraction, rest) ← match rest with
    | '.' :: rest => readDigits? Char.isDigit rest
    | _ => some ([], rest)
  let (exponent, rest) ← match rest with
    | 'e' :: _ | 'E' :: _ => readExponent? rest
    | _ => if fraction.isEmpty then none else some (0, rest)
  if cs.head? ≠ some '-' && overflows (whole ++ fraction) (exponent - fraction.length) then none
  return rest

/-- Skips a number with a fraction or an exponent, or one of the special numbers. -/
def skipFloat? (cs : List Char) : Option Rest :=
  let unsigned := skipSign cs
  skipFraction? cs <|> readText? "inf" unsigned <|> readText? "nan" unsigned

/-- The value of digits in a base. -/
def valueIn (base : Nat) (digits : List Char) : Nat :=
  digits.foldl (fun value c => base * value + ((hexValue? [c]).getD 0)) 0

/-- Skips a whole number in a base, which must be less than 2^63. -/
def skipInBase? (base : Nat) (cs : List Char) : Option Rest := do
  let isDigit := fun (c : Char) => match hexValue? [c] with
    | some value => decide (value < base)
    | none => false
  let (digits, rest) ← readDigits? isDigit cs
  if valueIn base digits < Nat.pow 2 63 then some rest else none

/-- Skips a whole number of 64 bits. -/
def skipInteger? (cs : List Char) : Option Rest :=
  match cs with
  | '0' :: 'x' :: rest => skipInBase? 16 rest
  | '0' :: 'o' :: rest => skipInBase? 8 rest
  | '0' :: 'b' :: rest => skipInBase? 2 rest
  | _ => do
    let (digits, rest) ← readWhole? (skipSign cs)
    let limit := if cs.head? = some '-' then Nat.pow 2 63 else Nat.pow 2 63 - 1
    if digitsValue 0 digits ≤ limit then some rest else none

/-! ### Dates and times -/

/-- Reads a number of `count` digits between two bounds. -/
def readField? (count least most : Nat) (cs : List Char) : Option (Nat × Rest) :=
  let digits := cs.take count
  let value := digitsValue 0 digits
  if digits.length = count && digits.all Char.isDigit && least ≤ value && value ≤ most then
    some (value, cs.drop count)
  else none

/-- The number of days of a month. -/
def daysOf (year month : Nat) : Nat :=
  if month = 2 then
    if (year % 4 = 0 && year % 100 ≠ 0) || year % 400 = 0 then 29 else 28
  else if [4, 6, 9, 11].contains month then 30
  else 31

/-- Skips a date. -/
def skipDate? (cs : List Char) : Option Rest := do
  let (year, rest) ← readField? 4 0 9999 cs
  let (month, rest) ← readField? 2 1 12 (← readText? "-" rest)
  let (_, rest) ← readField? 2 1 (daysOf year month) (← readText? "-" rest)
  return rest

/-- Skips a time of day. -/
def skipTime? (cs : List Char) : Option Rest := do
  let (_, rest) ← readField? 2 0 23 cs
  let (_, rest) ← readField? 2 0 59 (← readText? ":" rest)
  let (_, rest) ← readField? 2 0 60 (← readText? ":" rest)
  match rest with
  | '.' :: fraction =>
    let digits := fraction.takeWhile Char.isDigit
    if digits.isEmpty then none else some (fraction.drop digits.length)
  | _ => return rest

/-- Skips an offset from universal time. -/
def skipOffset? (cs : List Char) : Option Rest :=
  match cs with
  | 'Z' :: rest | 'z' :: rest => some rest
  | '+' :: rest | '-' :: rest => do
    let (_, rest) ← readField? 2 0 23 rest
    let (_, rest) ← readField? 2 0 59 (← readText? ":" rest)
    return rest
  | _ => none

/-- Skips a date, a date with a time, or a time. -/
def skipDateTime? (cs : List Char) : Option Rest :=
  match skipDate? cs with
  | none => skipTime? cs
  | some rest =>
    let time? := match rest with
      | 'T' :: rest | 't' :: rest | ' ' :: rest => skipTime? rest
      | _ => none
    match time? with
    | none => some rest
    | some rest => (skipOffset? rest).or (some rest)

end Transclusion.Toml
