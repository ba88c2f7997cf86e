import Transclusion.Fixup.Options
import Transclusion.Toml.Reading
/-!
# Configuration

The options of an expansion can be given by a configuration file, a TOML document with a boolean
for each of them, and by flags on the command line.  Keys that are no options do not count; a flag
only moves its option away from the default.
-/

namespace Transclusion

namespace Options

/-- The value of an option in the entries of a document, or else its default. -/
def flag? (entries : Toml.Entries) (key : String) (byDefault : Bool) : Option Bool :=
  match entries.get? key with
  | none => some byDefault
  | some (.boolean value) => some value
  | some _ => none

/-- The options in a configuration file; nothing if it is no TOML document, or if one of the options
in it is no boolean. -/
def read? (text : String) : Option Options := do
  let entries ← Toml.read? text
  let byDefault : Options := {}
  return {
    fixupXmlBase := ← flag? entries "fixup-xml-base" byDefault.fixupXmlBase
    fixupXmlLang := ← flag? entries "fixup-xml-lang" byDefault.fixupXmlLang
    copyAttributes := ← flag? entries "copy-attributes" byDefault.copyAttributes
    trimText := ← flag? entries "trim-text" byDefault.trimText }

end Options

/-- The flags of the command line. -/
structure Overrides where
  noFixupXmlBase : Bool
  noFixupXmlLang : Bool
  noCopyAttributes : Bool
  trimText : Bool
deriving DecidableEq, Repr, Inhabited

/-- Options with flags applied to them. -/
def Overrides.apply (o : Overrides) (options : Options) : Options where
  fixupXmlBase := options.fixupXmlBase && !o.noFixupXmlBase
  fixupXmlLang := options.fixupXmlLang && !o.noFixupXmlLang
  copyAttributes := options.copyAttributes && !o.noCopyAttributes
  trimText := options.trimText || o.trimText

end Transclusion
