import Transclusion.Text.Cut
import Transclusion.Uri.Direction
import Transclusion.Uri.DomainChar
import Transclusion.Uri.Joiner
import Transclusion.Uri.Punycode
/-!
# Labels of domain names

The labels of a domain name stand between dots.  One that starts with `xn--` is a text of another
script in Punycode; it must stand for a text that is spelled in the one way that labels are.  A text
of another script that stands for itself must be spelled so, too, and it is brought into Punycode.
-/

namespace Transclusion.Uri

open Text

/-- What a label starts with that is written in Punycode. -/
def punycodeMark : List Char := ['x', 'n', '-', '-']

/-- Whether a text can be the meaning of a label in Punycode: not one that could be written
without, composed of allowed characters, and with marks and join controls at their places. -/
def isLabelText (text : List Char) : Bool :=
  !isAscii text && text.all isDomainChar && isComposed text
    && !(text.head?.any isMark) && !punycodeMark.isPrefixOf text && joinersFit [] text

/-- What a label of a mapped domain name stands for. -/
def labelText? (label : List Char) : Option (List Char) :=
  if isAscii label then
    match punycodeMark.isPrefixOf? label with
    | some digits => (Punycode.decode? digits).filter isLabelText
    | none => some label
  else (some label).filter isLabelText

/-- A label in ASCII. -/
def asciiLabel (label : List Char) : List Char :=
  if isAscii label then label else punycodeMark ++ Punycode.encode label

/-- A mapped domain name in ASCII, if its labels are well spelled. -/
def asciiDomain? (domain : List Char) : Option (List Char) :=
  let labels := pieces '.' domain
  match labels.mapM labelText? with
  | some texts =>
    if directionsFit texts then some (List.intercalate ['.'] (labels.map asciiLabel)) else none
  | none => none

end Transclusion.Uri
