import Transclusion.Markup.Error
import Transclusion.Text.Utf8
/-!
# References

In texts and attribute values `&name;` stands for one of five characters and `&#n;` or `&#xh;` for
the character with that number.  There are no other entities.
-/

namespace Transclusion

/-- The character that an entity stands for. -/
def entity? : String → Option Char
  | "lt" => some '<'
  | "gt" => some '>'
  | "amp" => some '&'
  | "apos" => some '\x27'
  | "quot" => some '\x22'
  | _ => none

/-- The value of a digit in a base up to 16. -/
def digitIn? (base : Nat) (c : Char) : Option Nat :=
  let value :=
    if c.isDigit then some (c.toNat - '0'.toNat)
    else if 'a' ≤ c && c ≤ 'f' then some (c.toNat - 'a'.toNat + 10)
    else if 'A' ≤ c && c ≤ 'F' then some (c.toNat - 'A'.toNat + 10)
    else none
  value.filter (· < base)

/-- Reads the digits of a number below 2^32, after `value`. -/
def readCode (base value : Nat) : List Char → Except CharacterFault Nat
  | [] => .ok value
  | c :: rest =>
    match digitIn? base c with
    | none => .error .badDigit
    | some digit =>
      let value := base * value + digit
      if Nat.pow 2 32 ≤ value then .error .tooLarge else readCode base value rest

/-- The character with the number that is written after `#`. -/
def readCharacter (cs : List Char) : Except CharacterFault Char := do
  let (base, digits) := match cs with
    | 'x' :: digits => (16, digits)
    | digits => (10, digits)
  match digits with
  | [] => throw .noDigits
  | c :: _ => if c = '+' || c = '-' then throw .sign
  let code ← readCode base 0 digits
  if code = 0 then throw .zero
  if h : code.isValidChar then return Char.ofNatAux code h else throw (.noCharacter code)

/-- The character that the reference with this name stands for; `start` and `stop` are the offsets
of the name. -/
def readReference (start stop : Nat) (name : List Char) : Except ReferenceFault Char :=
  match name with
  | '#' :: number => (readCharacter number).mapError .character
  | _ =>
    match entity? (String.ofList name) with
    | some c => .ok c
    | none => .error (.unknownEntity start stop (String.ofList name))

/-- A reference under way: where its `&` is, and its name so far, latest character first. -/
structure OpenReference where
  start : Nat
  name : List Char

/-- Resolves the references in a text of `total` bytes from the offset `offset` on. -/
def resolveReferencesFrom (total : Nat) :
    Option OpenReference → Nat → List Char → Except ReferenceFault (List Char)
  | none, _, [] => .ok []
  | some reference, _, [] => .error (.unterminated reference.start total)
  | none, offset, c :: rest =>
    let next := offset + c.utf8Size
    if c = '&' then resolveReferencesFrom total (some ⟨offset, []⟩) next rest
    else do return c :: (← resolveReferencesFrom total none next rest)
  | some reference, offset, c :: rest =>
    let next := offset + c.utf8Size
    if c = '&' then .error (.unterminated reference.start total)
    else if c = ';' then do
      let resolved ← readReference (reference.start + 1) offset reference.name.reverse
      return resolved :: (← resolveReferencesFrom total none next rest)
    else resolveReferencesFrom total (some { reference with name := c :: reference.name }) next rest

/-- The text that a text with references stands for. -/
def resolveReferences (cs : List Char) : Except ReferenceFault (List Char) :=
  resolveReferencesFrom (Text.utf8Length cs) none 0 cs

end Transclusion
