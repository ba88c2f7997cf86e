import Transclusion.Markup.Builder
/-!
# Errors in documents

Why a text is no document.  Errors are causes; `XmlError.message` puts them into words.
-/

namespace Transclusion

/-- Markup that does not close, close in order, or begin like any markup. -/
inductive MarkupFault where
  | unknownMarkup
  | openInstruction
  | openComment
  | openDoctype
  | openCdata
  | openTag
  | mismatchedEnd (expected found : String)
  | unmatchedEnd (found : String)
  | namelessDoctype
deriving DecidableEq, Repr

/-- Attributes that cannot be told apart, with the byte offset from the start of the tag. -/
inductive AttributeFault where
  | missingEquals (offset : Nat)
  | missingValue (offset : Nat)
  | missingQuote (offset : Nat)
  | openQuote (offset : Nat) (quote : Char)
  | repeated (offset previous : Nat)
deriving DecidableEq, Repr

/-- A number that stands for no character. -/
inductive CharacterFault where
  | sign
  | noDigits
  | badDigit
  | tooLarge
  | noCharacter (code : Nat)
  | zero
deriving DecidableEq, Repr

/-- References that cannot be resolved, with byte offsets into the text they are in. -/
inductive ReferenceFault where
  | unknownEntity (start stop : Nat) (name : String)
  | unterminated (start stop : Nat)
  | character (fault : CharacterFault)
deriving DecidableEq, Repr

/-- Why a text is not well-formed. -/
inductive WellFormednessFault where
  | markup (fault : MarkupFault)
  | attributes (fault : AttributeFault)
  | textReference (fault : ReferenceFault)
  | valueReference (fault : ReferenceFault)
  | textOutsideRoot
  | strayEnd
  | repeatedAttribute (name element : String)
deriving DecidableEq, Repr

/-- Why a text is no document. -/
inductive XmlError where
  | malformed (fault : WellFormednessFault) (position : Nat)
  | unexpectedEnd (element : String)
  | unboundPrefix (name : String)
  | noRoot
  | secondRoot
  | tree (error : TreeError)
deriving DecidableEq, Repr

def MarkupFault.message : MarkupFault → String
  | unknownMarkup => "syntax error: unknown or missed symbol in markup"
  | openInstruction =>
    "syntax error: processing instruction or xml declaration not closed: \x60?>\x60 not found "
      ++ "before end of input"
  | openComment => "syntax error: comment not closed: \x60-->\x60 not found before end of input"
  | openDoctype => "syntax error: DOCTYPE not closed: \x60>\x60 not found before end of input"
  | openCdata => "syntax error: CDATA not closed: \x60]]>\x60 not found before end of input"
  | openTag => "syntax error: tag not closed: \x60>\x60 not found before end of input"
  | mismatchedEnd expected found =>
    "ill-formed document: expected \x60</" ++ expected ++ ">\x60, but \x60</" ++ found
      ++ ">\x60 was found"
  | unmatchedEnd found =>
    "ill-formed document: close tag \x60</" ++ found ++ ">\x60 does not match any open tag"
  | namelessDoctype =>
    "ill-formed document: \x60<!DOCTYPE>\x60 declaration does not contain a name of a document type"

def AttributeFault.message : AttributeFault → String
  | missingEquals offset =>
    "position " ++ toString offset
      ++ ": attribute key must be directly followed by \x60=\x60 or space"
  | missingValue offset =>
    "position " ++ toString offset ++ ": \x60=\x60 must be followed by an attribute value"
  | missingQuote offset =>
    "position " ++ toString offset
      ++ ": attribute value must be enclosed in \x60\x22\x60 or \x60\x27\x60"
  | openQuote offset quote =>
    "position " ++ toString offset ++ ": missing closing quote \x60" ++ quote.toString
      ++ "\x60 in attribute value"
  | repeated offset previous =>
    "position " ++ toString offset ++ ": duplicated attribute, previous declaration at position "
      ++ toString previous

def CharacterFault.message : CharacterFault → String
  | sign => "unexpected number sign"
  | noDigits => "cannot parse integer from empty string"
  | badDigit => "invalid digit found in string"
  | tooLarge => "number too large to fit in target type"
  | noCharacter code => "\x60" ++ toString code ++ "\x60 is not a valid codepoint"
  | zero => "0x0 character is not permitted in XML"

def ReferenceFault.message : ReferenceFault → String
  | unknownEntity start stop name =>
    "at " ++ toString start ++ ".." ++ toString stop ++ ": unrecognized entity \x60" ++ name
      ++ "\x60"
  | unterminated start stop =>
    "Error while escaping character at range " ++ toString start ++ ".." ++ toString stop
      ++ ": Cannot find \x27;\x27 after \x27&\x27"
  | character fault => "invalid character reference: " ++ fault.message

def WellFormednessFault.message : WellFormednessFault → String
  | markup fault => fault.message
  | attributes fault => "Attribute error: " ++ fault.message
  | textReference fault => "Invalid text content: " ++ fault.message
  | valueReference fault => "Invalid attribute value: " ++ fault.message
  | textOutsideRoot => "Text outside of the root element"
  | strayEnd => "Unexpected closing tag"
  | repeatedAttribute name element => "Duplicate attribute " ++ name ++ " on <" ++ element ++ ">"

def XmlError.message : XmlError → String
  | malformed fault position =>
    "XML syntax error at byte " ++ toString position ++ ": " ++ fault.message
  | unexpectedEnd element => "Unexpected end of input, expected closing tag </" ++ element ++ ">"
  | unboundPrefix name => "Namespace prefix '" ++ name ++ "' is not declared"
  | noRoot => "Empty XML document: no root element found"
  | secondRoot => "Invalid XML: multiple root elements"
  | tree error => error.message

end Transclusion
