import Transclusion.Markup.Error
import Transclusion.Text.Blank
import Transclusion.Text.Utf8
/-!
# Tags

What stands between the angle brackets of a start tag: a name, which ends at white space, and
attributes, each a key, an equals sign and a value in quotes.  Offsets count bytes from the start
of the name.
-/

namespace Transclusion

open Transclusion.Text

/-- An attribute as it is written, references in the value unresolved. -/
structure RawAttribute where
  key : List Char
  value : List Char
deriving DecidableEq, Repr

/-- The name of a tag. -/
def tagName (tag : List Char) : List Char := tag.takeWhile (!isMarkupSpace ·)

/-- A position in a tag: the offset and what follows. -/
structure TagCursor where
  offset : Nat
  rest : List Char

namespace TagCursor

/-- Moves over the characters that satisfy `p`. -/
def skipWhile (p : Char → Bool) (cursor : TagCursor) : TagCursor :=
  ⟨cursor.offset + utf8Length (cursor.rest.takeWhile p), cursor.rest.dropWhile p⟩

/-- After the name of a tag. -/
def afterName (tag : List Char) : TagCursor := (TagCursor.mk 0 tag).skipWhile (!isMarkupSpace ·)

/-- The key of an attribute: its first character, whatever that is, and all up to white space or
an equals sign. Returns the position of the value's quote or what stands in its place. -/
def readKey (c : Char) (cursor : TagCursor) : Except AttributeFault (List Char × TagCursor) :=
  let inKey := fun c => !(c = '=' || isMarkupSpace c)
  let afterFirst := TagCursor.mk (cursor.offset + c.utf8Size) (cursor.rest.drop 1)
  let equals := (afterFirst.skipWhile inKey).skipWhile isMarkupSpace
  match equals.rest with
  | '=' :: rest =>
    .ok (c :: afterFirst.rest.takeWhile inKey,
      (TagCursor.mk (equals.offset + 1) rest).skipWhile isMarkupSpace)
  | _ => .error (.missingEquals equals.offset)

/-- The value of an attribute. -/
def readValue (cursor : TagCursor) : Except AttributeFault (List Char × TagCursor) :=
  match cursor.rest with
  | [] => .error (.missingValue cursor.offset)
  | quote :: rest =>
    if quote = '\x22' || quote = '\x27' then
      let close := (TagCursor.mk (cursor.offset + 1) rest).skipWhile (· ≠ quote)
      match close.rest with
      | [] => .error (.openQuote close.offset quote)
      | _ :: after => .ok (rest.takeWhile (· ≠ quote), ⟨close.offset + 1, after⟩)
    else .error (.missingQuote cursor.offset)

/-- The next attribute, if there is one, with what follows it. `seen` has the keys so far with
their offsets. -/
def readAttribute? (seen : List (List Char × Nat)) (cursor : TagCursor) :
    Except AttributeFault (Option (RawAttribute × Nat × TagCursor)) :=
  let start := cursor.skipWhile isMarkupSpace
  match start.rest with
  | [] => .ok none
  | c :: _ => do
    let (key, valueAt) ← start.readKey c
    match seen.find? (·.1 = key) with
    | some (_, previous) => throw (.repeated start.offset previous)
    | none => pure ()
    let (value, after) ← valueAt.readValue
    return some (⟨key, value⟩, start.offset, after)

end TagCursor

/-- Reads at most `count` attributes, handing each to `use` as soon as it is read, so that of two
faults the first one written is reported. -/
def readAttributesUpTo {ε α : Type} (fault : AttributeFault → ε) (use : RawAttribute → Except ε α) :
    Nat → List (List Char × Nat) → TagCursor → Except ε (List α)
  | 0, _, _ => .ok []
  | count + 1, seen, cursor =>
    match cursor.readAttribute? seen with
    | .error e => .error (fault e)
    | .ok none => .ok []
    | .ok (some (raw, offset, after)) => do
      let used ← use raw
      return used :: (← readAttributesUpTo fault use count ((raw.key, offset) :: seen) after)

/-- The attributes of a tag. There are fewer of them than characters. -/
def readAttributes {ε α : Type} (fault : AttributeFault → ε) (use : RawAttribute → Except ε α)
    (tag : List Char) : Except ε (List α) :=
  readAttributesUpTo fault use tag.length [] (TagCursor.afterName tag)

end Transclusion
