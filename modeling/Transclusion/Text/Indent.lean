import Transclusion.Text.Blank
import Transclusion.Text.Cut
/-!
# Indentation of texts

`trimIndent` takes from all lines of a text the spaces that the lines which are not blank have in
common at their starts, and the spaces at the ends of lines.
-/

namespace Transclusion.Text

/-- How many spaces a line starts with. -/
def leadingSpaces (line : List Char) : Nat := (line.takeWhile (· = ' ')).length

/-- The least number of spaces that a line which is not blank starts with. -/
def commonSpaces (lines : List (List Char)) : Nat :=
  (((lines.filter (!isBlank ·)).map leadingSpaces).min?).getD 0

/-- A line without `width` of the spaces at its start, if it has so many, and without those at its
end. -/
def trimLine (width : Nat) (line : List Char) : List Char :=
  dropEndWhile (· = ' ') (line.drop (min (leadingSpaces line) width))

/-- A text without common indentation and without spaces at the ends of its lines. -/
def trimIndent (text : List Char) : List Char :=
  let lines := pieces '\n' text
  ['\n'].intercalate (lines.map (trimLine (commonSpaces lines)))

end Transclusion.Text
