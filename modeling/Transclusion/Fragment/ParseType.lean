import Transclusion.Text.Blank
/-!
# Parse types

How included content is read: as markup, as text, or not at all.  The parse type is named by a
media type, of which the parameters do not count.
-/

namespace Transclusion

inductive ParseType where
  | xml
  | text
  /-- Only a fallback can stand for content of such a type. -/
  | unsupported
deriving DecidableEq, Repr

namespace ParseType

def name : ParseType → String
  | xml => "xml"
  | text => "text"
  | unsupported => "none"

/-- The parse type of a media type, or of one of the short names `xml` and `text`. -/
def ofMediaType (value : String) : ParseType :=
  let mediaType := Text.trim (value.toList.takeWhile (· ≠ ';'))
  let isXml := ["xml", "application/xml", "text/xml"].contains (String.ofList mediaType)
  if isXml || "+xml".toList.isSuffixOf mediaType then xml
  else if mediaType = "text".toList || "text/".toList.isPrefixOf mediaType then text
  else unsupported

end ParseType

end Transclusion
