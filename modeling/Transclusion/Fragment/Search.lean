import Transclusion.Fragment.Integrity
import Transclusion.Fragment.Scheme
/-!
# The scheme `search`

`search(…)` selects a block of lines from a text, between lines that contain given texts:

    search = [anchor [";" start-option]] ["," [anchor [";" end-option]]] *(";" item)
    anchor = [count] delimiter text delimiter
    start-option = "from" / "after" / "trim"
    end-option = "to" / "before" / "trim"
    item = "strip" / an item of an integrity check

The delimiter is any character.  With `strip` the lines lose the white space that they have in
common at their starts.
-/

namespace Transclusion

open Text

/-- What of the line of an anchor belongs to the block. -/
inductive Boundary where
  | inclusive
  | exclusive
  /-- Neither the line nor the blank lines next to it in the block. -/
  | trimmed
deriving DecidableEq, Repr

/-- A line given by a text in it. -/
structure Anchor where
  /-- Which of the lines that contain the text, counted from 1. -/
  count : Nat
  text : List Char
deriving DecidableEq, Repr

structure Search where
  start : Option Anchor
  startBoundary : Boundary
  stop : Option Anchor
  stopBoundary : Boundary
  strip : Bool
  check : IntegrityCheck
deriving DecidableEq, Repr

/-! ### Reading -/

namespace Boundary

/-- The options of each end of the block. -/
def options : SearchEnd → List (String × Boundary)
  | .start => [("from", inclusive), ("after", exclusive), ("trim", trimmed)]
  | .stop => [("to", inclusive), ("before", exclusive), ("trim", trimmed)]

/-- Reads `name` where nothing, a semicolon or a comma follows. -/
def readName? (name : String) (cs : List Char) : Option (List Char) := do
  let rest := trimStart (← name.toList.isPrefixOf? cs)
  match rest with
  | [] | ';' :: _ | ',' :: _ => some rest
  | _ => none

/-- Reads a semicolon and an option. Without one the line belongs to the block. -/
def read (which : SearchEnd) (cs : List Char) : Boundary × List Char :=
  match cs with
  | ';' :: after =>
    let option? := (options which).findSome? fun (name, boundary) =>
      (readName? name (trimStart after)).map ((boundary, ·))
    option?.getD (inclusive, cs)
  | _ => (inclusive, cs)

end Boundary

namespace Anchor

/-- Reads a count. -/
def readCount (digits : List Char) : Except AnchorFault Nat :=
  if digits.isEmpty then .ok 1
  else match readIndex? digits with
    | none => .error .badCount
    | some 0 => .error .zeroCount
    | some count => .ok count

/-- Reads a text between delimiters, and the white space after it. -/
def readText (cs : List Char) : Except AnchorFault (List Char × List Char) :=
  match cs with
  | [] => .error .missing
  | delimiter :: body =>
    match cutAt delimiter body with
    | none => .error .unterminated
    | some ([], _) => .error .empty
    | some (text, rest) => .ok (text, trimStart rest)

/-- Reads an anchor. -/
def read (cs : List Char) : Except AnchorFault (Anchor × List Char) := do
  let count ← readCount (cs.takeWhile Char.isDigit)
  let (text, rest) ← readText (cs.dropWhile Char.isDigit)
  return (⟨count, text⟩, rest)

/-- Reads the anchor of an end of the block and its boundary. -/
def readEnd (which : SearchEnd) (cs : List Char) :
    Except SearchFault ((Option Anchor × Boundary) × List Char) := do
  let (anchor, rest) ← (read cs).mapError (.anchor which)
  let (boundary, rest) := Boundary.read which rest
  return ((some anchor, boundary), rest)

end Anchor

namespace Search

/-- Reads the start of the block, which a comma leaves open. -/
def readStart (cs : List Char) : Except SearchFault ((Option Anchor × Boundary) × List Char) :=
  match cs with
  | ',' :: _ => .ok ((none, .inclusive), cs)
  | _ => Anchor.readEnd .start cs

/-- Reads a comma and the end of the block, either of which may be missing. -/
def readStop (cs : List Char) : Except SearchFault ((Option Anchor × Boundary) × List Char) :=
  match cs with
  | ',' :: rest =>
    match trimStart rest with
    | [] => .ok ((none, .inclusive), [])
    | rest => Anchor.readEnd .stop rest
  | _ => .ok ((none, .inclusive), cs)

/-- Reads an item after the anchors. -/
def readItem (found : Bool × IntegrityCheck) (item : List Char) :
    Except SearchFault (Bool × IntegrityCheck) :=
  let (strip, check) := found
  if trim item = "strip".toList then .ok (true, check)
  else match check.withItem? (trim item) with
    | some check => .ok (strip, check)
    | none => .error .trailing

/-- Reads the items after the anchors. -/
def readItems (cs : List Char) : Except SearchFault (Bool × IntegrityCheck) :=
  match trim cs with
  | [] => .ok (false, .none)
  | ';' :: items => (pieces ';' items).foldlM readItem (false, .none)
  | _ => .error .trailing

/-- Reads a search. -/
def readChars (data : List Char) : Except SearchFault Search := do
  let data := trim data
  if data.isEmpty then throw .noAnchors
  let ((start, startBoundary), rest) ← readStart data
  let ((stop, stopBoundary), rest) ← readStop rest
  let (strip, check) ← readItems rest
  return { start, startBoundary, stop, stopBoundary, strip, check }

/-- Reads the data of the scheme. -/
def read (data : String) : Except FragmentError Search :=
  (readChars data.toList).mapError fun fault => .malformedData "search" (.search fault data)

end Search

/-! ### Selecting -/

/-- The index of the line of an anchor among lines, from the line `first` on. -/
def Anchor.find? (a : Anchor) (ls : List (List Char)) (first : Nat) : Option Nat :=
  let found := (ls.zipIdx.drop first).filter fun (line, _) => containsText a.text line
  (found[a.count - 1]?).map (·.2)

/-- How many characters of white space there are at the start of a line. -/
def indentOf (line : List Char) : Nat :=
  (line.takeWhile fun c => isSpace c && c ≠ '\n').length

/-- The least indentation of the lines that are not blank. -/
def commonIndent (ls : List (List Char)) : Nat :=
  (((ls.filter (!isBlank ·)).map indentOf).min?).getD 0

/-- Takes as many characters off the start of a line, if it has them before its line feed. -/
def dropIndent (width : Nat) (line : List Char) : List Char :=
  if width ≤ (dropEndWhile (· = '\n') line).length then line.drop width else line

namespace Search

/-- The index of the first line of the block. -/
def first? (s : Search) (ls : List (List Char)) : Option Nat :=
  match s.start with
  | none => some 0
  | some anchor => do
    let index ← anchor.find? ls 0
    return if s.startBoundary = .inclusive then index else index + 1

/-- The index after the last line of the block that starts at the line `first`. An end that leaves
no line is not found. -/
def end? (s : Search) (ls : List (List Char)) (first : Nat) : Option Nat :=
  match s.stop with
  | none => some ls.length
  | some anchor => do
    let index ← anchor.find? ls first
    let stop := if s.stopBoundary = .inclusive then index + 1 else index
    if stop ≤ first then none else some stop

/-- The lines of the block without the blank lines that `trim` takes off its ends. -/
def block? (s : Search) (ls : List (List Char)) : Option (List (List Char)) := do
  let first ← s.first? ls
  let stop ← s.end? ls first
  let block := (ls.drop first).take (stop - first)
  let block := if s.startBoundary = .trimmed then block.dropWhile isBlank else block
  return if s.stopBoundary = .trimmed then (block.reverse.dropWhile isBlank).reverse else block

/-- The block of a text. -/
def extract? (s : Search) (text : List Char) : Option (List Char) := do
  let block ← s.block? (lines text)
  let width := if s.strip then commonIndent block else 0
  return (block.map (dropIndent width)).flatten

def select (s : Search) (context : SelectionContext) : Except SelectionError Selection := do
  let text ← context.document.singleText
  (s.check.verify text).mapError .integrity
  match s.extract? text.toList with
  | some selected => return .ofText context.document (String.ofList selected)
  | none => return .nothing

def scheme (s : Search) : Scheme where
  name := "search"
  parseType := .text
  select _ context := s.select context

end Search

end Transclusion
