/-!
# Options

The options of an expansion: what included content is given so that it does not lose its base URI
and language, and how included text is trimmed.
-/

namespace Transclusion

structure Options where
  /-- Included elements with another base URI get an `xml:base`. -/
  fixupXmlBase : Bool := true
  /-- Included elements get an `xml:lang` so that they do not inherit one. -/
  fixupXmlLang : Bool := true
  /-- Attributes in a namespace are copied from the `xi:include` to the included elements. -/
  copyAttributes : Bool := true
  /-- Included texts lose their common indentation and the spaces at the ends of their lines. -/
  trimText : Bool := false
deriving DecidableEq, Repr, Inhabited

end Transclusion
