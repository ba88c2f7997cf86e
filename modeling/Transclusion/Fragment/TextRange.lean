import Transclusion.Fragment.Integrity
import Transclusion.Fragment.Scheme
/-!
# The scheme `text`

`text(char=…)` and `text(line=…)` cut a range of characters or of lines from a text.  Positions
count the units before them; a range `a,b` reaches from `a` to before `b`, and either may be
missing.  A position alone is the empty range there.  Lines are taken with the line feeds that end
them.  Integrity checks of the whole text may follow, each after a semicolon.
-/

namespace Transclusion

open Text

inductive TextUnit where
  | char
  | line
deriving DecidableEq, Repr

namespace TextUnit

def name : TextUnit → String
  | char => "char"
  | line => "line"

/-- A text as a sequence of units. -/
def split : TextUnit → List Char → List (List Char)
  | char, cs => cs.map ([·])
  | line, cs => lines cs

/-- Reads the name of a unit and an equals sign, with white space around the name. -/
def read? (cs : List Char) : Option (TextUnit × List Char) :=
  let cs := trimStart cs
  let afterEquals := fun (unit : TextUnit) => do
    match trimStart (← unit.name.toList.isPrefixOf? cs) with
    | '=' :: rest => some (unit, rest)
    | _ => none
  afterEquals char <|> afterEquals line

end TextUnit

structure TextRange where
  unit : TextUnit
  start : Nat
  /-- The end of the text if there is none. -/
  stop : Option Nat
  check : IntegrityCheck
deriving DecidableEq, Repr

namespace TextRange

/-- Reads a position or a range. -/
def readBounds? (cs : List Char) : Option (Nat × Option Nat) :=
  match cutAt ',' cs with
  | none => do
    let position ← readIndex? cs
    return (position, some position)
  | some (start, stop) => do
    let start ← if start.isEmpty then some 0 else readIndex? start
    let stop ← if stop.isEmpty then some none else (readIndex? stop).map some
    return (start, stop)

/-- The check that is made of items; those of other kinds do not count. -/
def checkOf (items : List (List Char)) : IntegrityCheck :=
  items.foldl (fun check item => (check.withItem? item).getD check) .none

/-- Reads the integrity checks after a range, the semicolon before them included. -/
def readChecks? : List Char → Option IntegrityCheck
  | [] => some .none
  | _ :: items => if items.contains '\n' then none else some (checkOf (pieces ';' items))

/-- Reads the data of the scheme. -/
def read (data : String) : Except FragmentError TextRange :=
  let parts? := do
    let (unit, rest) ← TextUnit.read? data.toList
    let bounds ← readBounds? (trim (rest.takeWhile (· ≠ ';')))
    let check ← readChecks? (rest.dropWhile (· ≠ ';'))
    return (unit, bounds, check)
  match parts? with
  | none => .error (.unparseable data)
  | some (unit, (start, stop), check) =>
    match stop with
    | some stop =>
      if stop < start then .error (.malformedData "text" (.reversedRange stop start))
      else .ok ⟨unit, start, some stop, check⟩
    | none => .ok ⟨unit, start, none, check⟩

/-- The part of a text in the range; none if the range starts after its end, or at its end without
being empty. -/
def slice? (r : TextRange) (text : List Char) : Option (List Char) :=
  let units := r.unit.split text
  if r.stop = some r.start then if r.start ≤ units.length then some [] else none
  else if units.length ≤ r.start then none
  else
    let stop := r.stop.getD units.length
    some ((units.drop r.start).take (stop - r.start)).flatten

def select (r : TextRange) (context : SelectionContext) : Except SelectionError Selection := do
  let text ← context.document.singleText
  (r.check.verify text).mapError .integrity
  match r.slice? text.toList with
  | some selected => return .ofText context.document (String.ofList selected)
  | none => return .nothing

def scheme (r : TextRange) : Scheme where
  name := "text"
  parseType := .text
  select _ context := r.select context

end TextRange

end Transclusion
