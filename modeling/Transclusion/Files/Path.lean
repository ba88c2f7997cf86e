import Transclusion.Text.Cut
import Transclusion.Text.Utf8
/-!
# Paths

Paths of files are sequences of bytes.  The names along a path stand between slashes; empty names
and single dots stay on the spot.
-/

namespace Transclusion

/-- A path of a file. -/
abbrev FilePath := List UInt8

namespace FilePath

def ofString (s : String) : FilePath := Text.utf8Bytes s

/-- The byte of a slash. -/
def slash : UInt8 := 0x2F

/-- The parts of a path between its slashes. -/
def parts : FilePath → List (List UInt8)
  | [] => [[]]
  | b :: rest =>
    if b = slash then [] :: parts rest
    else match parts rest with
      | [] => [[b]]
      | part :: others => (b :: part) :: others

/-- Whether a part of a path stays on the spot. -/
def staysOnSpot (part : List UInt8) : Bool := part = [] || part = ofString "."

/-- Whether a part of a path leads to the directory around. -/
def leadsUp (part : List UInt8) : Bool := part = ofString ".."

def isAbsolute (path : FilePath) : Bool := path.head? = some slash

end FilePath

/-- An absolute path as text without the names that stay on the spot. Two slashes at its start and
one at its end are kept, since they can have a meaning of their own. -/
def normalPath (path : String) : String :=
  let cs := path.toList
  let parts := Text.pieces '/' cs
  let names := parts.filter fun part => !part.isEmpty && part ≠ ['.']
  let slashes := cs.takeWhile (· = '/')
  let opening := if slashes.length = 2 then ['/'] else []
  let closing := if names.isEmpty || parts.getLast? = some [] then ['/'] else []
  String.ofList (opening ++ names.flatMap (fun name => '/' :: name) ++ closing)

end Transclusion
