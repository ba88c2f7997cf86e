import Transclusion.Toml.Item
import Transclusion.Toml.Scalar
/-!
# Reading TOML documents

A TOML document is a sequence of lines, each a comment, the header of a table, or a key with its
value.  `Toml.read?` yields the entries of the table at the top, or nothing if the text is no such
document.
-/

namespace Transclusion.Toml

/-! ### Keys -/

def isBareKeyChar (c : Char) : Bool := c.isAlphanum || c = '-' || c = '_'

/-- Reads a key without dots. -/
def readSimpleKey? (cs : List Char) : Option (String × Rest) := do
  let limit := cs.length + 1
  let (key, rest) ← match cs with
    | '\x22' :: rest => readQuoted? '\x22' true limit rest
    | '\x27' :: rest => readQuoted? '\x27' false limit rest
    | _ =>
      let key := cs.takeWhile isBareKeyChar
      if key.isEmpty then none else some (key, cs.drop key.length)
  return (String.ofList key, rest)

/-- A key with dots: the keys that lead to a table, and the key in it. -/
structure Key where
  path : List String
  last : String
deriving DecidableEq, Repr

/-- Reads a key and the blanks around it; `limit` bounds the number of its parts. -/
def readKey? : Nat → List Char → Option (Key × Rest)
  | 0, _ => none
  | limit + 1, cs => do
    let (first, rest) ← readSimpleKey? (skipBlanks cs)
    match skipBlanks rest with
    | '.' :: rest => do
      let (⟨path, last⟩, rest) ← readKey? limit rest
      return (⟨first :: path, last⟩, rest)
    | rest => return (⟨[], first⟩, rest)

/-- How many parts a key can have. -/
def maxKeyParts : Nat := 79

/-! ### Values -/

/-- How deep arrays and tables in braces can be nested in each other. -/
def maxNesting : Nat := 79

mutual

/-- Reads a value; `limit` bounds how long it is, and `depth` how deep. -/
def readValue? (limit depth : Nat) (cs : List Char) : Option (Item × Rest) :=
  match limit with
  | 0 => none
  | limit + 1 =>
    match cs with
    | '\x22' :: _ | '\x27' :: _ => (skipString? cs).map (.value, ·)
    | '[' :: rest =>
      if depth = 0 then none else (skipElements? limit (depth - 1) rest).map (.value, ·)
    | '\x7b' :: rest =>
      if depth = 0 then none
      else match skipBlanks rest with
        | '\x7d' :: rest => some (.value, rest)
        | rest => (skipPairs? limit (depth - 1) [] rest).map (.value, ·)
    | 't' :: _ => (readText? "true" cs).map (.boolean true, ·)
    | 'f' :: _ => (readText? "false" cs).map (.boolean false, ·)
    | _ => (skipDateTime? cs <|> skipFloat? cs <|> skipInteger? cs).map (.value, ·)

/-- Skips the elements of an array and its end. -/
def skipElements? (limit depth : Nat) (cs : List Char) : Option Rest :=
  match limit with
  | 0 => none
  | limit + 1 =>
    match skipLines cs.length cs with
    | ']' :: rest => some rest
    | cs => do
      let (_, rest) ← readValue? limit depth cs
      match skipLines rest.length rest with
      | ',' :: rest => skipElements? limit depth rest
      | ']' :: rest => some rest
      | _ => none

/-- Skips the keys and values of a table in braces and its end, after those in `entries`. -/
def skipPairs? (limit depth : Nat) (entries : Entries) (cs : List Char) : Option Rest :=
  match limit with
  | 0 => none
  | limit + 1 => do
    let (key, rest) ← readKey? maxKeyParts cs
    let (item, rest) ← readValue? limit depth (skipBlanks (← readText? "=" rest))
    let entries ← entries.addAt .header key.path key.last item
    match skipBlanks rest with
    | ',' :: rest => skipPairs? limit depth entries rest
    | '\x7d' :: rest => some rest
    | _ => none

end

/-! ### Lines -/

/-- The tables so far, and the header that the keys to come belong to. -/
structure Progress where
  entries : Entries
  header : List String

/-- Skips the end of a line, where a comment may stand. -/
def finishLine? (cs : List Char) : Option Rest :=
  match skipComment (skipBlanks cs) with
  | [] => some []
  | rest => readLineEnd? rest

/-- Reads a header and the end of its line. -/
def readHeader? (progress : Progress) (cs : List Char) : Option (Progress × Rest) :=
  match cs with
  | '[' :: '[' :: rest => do
    let (key, rest) ← readKey? maxKeyParts rest
    let rest ← finishLine? (← readText? "]]" rest)
    return (⟨← progress.entries.openNext key.path key.last, key.path ++ [key.last]⟩, rest)
  | '[' :: rest => do
    let (key, rest) ← readKey? maxKeyParts rest
    let rest ← finishLine? (← readText? "]" rest)
    return (⟨← progress.entries.openTable key.path key.last, key.path ++ [key.last]⟩, rest)
  | _ => none

/-- Reads a key, its value and the end of the line. -/
def readPair? (progress : Progress) (cs : List Char) : Option (Progress × Rest) := do
  let (key, rest) ← readKey? maxKeyParts cs
  let (item, rest) ← readValue? (2 * cs.length) maxNesting (skipBlanks (← readText? "=" rest))
  let rest ← finishLine? rest
  let add := fun (origin : TableOrigin) (entries : Entries) =>
    entries.addAt origin key.path key.last item
  return (⟨← progress.entries.change false add progress.header .header, progress.header⟩, rest)

/-- Reads lines, at most `limit` of them. -/
def readLines? : Nat → Progress → List Char → Option Entries
  | 0, _, _ => none
  | limit + 1, progress, cs =>
    match skipLines cs.length cs with
    | [] => some progress.entries
    | '[' :: rest => do
      let (progress, rest) ← readHeader? progress ('[' :: rest)
      readLines? limit progress rest
    | cs => do
      let (progress, rest) ← readPair? progress cs
      readLines? limit progress rest

/-- The entries of the table at the top of a document. A byte order mark before it does not
count. -/
def read? (text : String) : Option Entries :=
  let cs := match text.toList with
    | '\ufeff' :: rest => rest
    | cs => cs
  readLines? (cs.length + 1) ⟨[], []⟩ cs

end Transclusion.Toml
