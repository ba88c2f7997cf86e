import Transclusion.Fragment.ParseType
import Transclusion.XPath.Error
/-!
# Errors in fragment identifiers

There are two stages at which a fragment identifier can fail.  It may not be readable, as a whole
or in the data of one of its schemes (`FragmentError`); and a scheme that has been read may be
unable to select from a document (`SelectionError`).  Errors are causes; the `message` functions
put them into words.
-/

namespace Transclusion

/-- One of the two ends of the block of lines that a search selects. -/
inductive SearchEnd where
  | start
  | stop
deriving DecidableEq, Repr

def SearchEnd.name : SearchEnd → String
  | start => "start"
  | stop => "end"

/-- Why an anchor of a search cannot be read. -/
inductive AnchorFault where
  | badCount
  | zeroCount
  | missing
  | unterminated
  | empty
deriving DecidableEq, Repr

/-- Why the data of a search cannot be read. -/
inductive SearchFault where
  | noAnchors
  | anchor (which : SearchEnd) (fault : AnchorFault)
  | trailing
deriving DecidableEq, Repr

/-- Why data cannot be read as that of a scheme. -/
inductive DataFault where
  /-- The data never ends. -/
  | unclosed (rest : String)
  /-- A binding without an equals sign. -/
  | unbound (data : String)
  | badPrefix (data : String)
  | emptyPointer
  | badPointer (data : String)
  | emptyExpression
  | reversedRange (stop start : Nat)
  | badLine (fragment : String)
  | lineZero (fragment : String)
  | search (fault : SearchFault) (data : String)
deriving DecidableEq, Repr

/-- Why a fragment identifier cannot be read. -/
inductive FragmentError where
  /-- There are no fragment identifiers for content of an unsupported type. -/
  | unsupportedType
  | unknownScheme (name : String) (parseType : ParseType)
  | malformedData (scheme : String) (fault : DataFault)
  | unparseable (text : String)
deriving DecidableEq, Repr

/-- A check of a text that failed, with what was found and what was expected. -/
inductive IntegrityFault where
  | length (found expected : Nat)
  | md5 (found expected : String)
deriving DecidableEq, Repr

/-- Why a scheme cannot select from a document. -/
inductive SelectionError where
  | expression (source : String) (error : XPathError)
  /-- The value of the expression is not a set of nodes. -/
  | noNodeSet (source : String) (found : XPath.ValueKind)
  /-- A text is cut from a document that holds something else. -/
  | notText
  /-- A text is cut from a document that holds several nodes. -/
  | notSingle
  | integrity (fault : IntegrityFault)
deriving DecidableEq, Repr

/-! ### In words -/

def AnchorFault.message (which : SearchEnd) : AnchorFault → String
  | badCount => "invalid " ++ which.name ++ " count"
  | zeroCount => which.name ++ " count must be at least 1"
  | missing => which.name ++ " must specify a search string"
  | unterminated => "unterminated " ++ which.name ++ " string"
  | empty => "empty " ++ which.name ++ " string"

def SearchFault.message : SearchFault → String
  | noAnchors => "at least one of start/end required"
  | anchor which fault => fault.message which
  | trailing => "unexpected characters at end"

def DataFault.message : DataFault → String
  | unclosed rest => "end of string in scheme data: " ++ rest
  | unbound data => "expected prefix=uri, found '" ++ data ++ "'"
  | badPrefix data => "invalid prefix in '" ++ data ++ "'"
  | emptyPointer => "empty element scheme data"
  | badPointer data => "invalid element scheme data: " ++ data
  | emptyExpression => "empty expression"
  | reversedRange stop start =>
    "range end " ++ toString stop ++ " precedes start " ++ toString start
  | badLine fragment => "invalid line number in " ++ fragment
  | lineZero fragment => "line numbers start at 1: " ++ fragment
  | search fault data => fault.message ++ ": " ++ data

/-- What is said of data that a scheme cannot interpret. -/
def malformedDataMessage (scheme message : String) : String :=
  "Malformed data for scheme '" ++ scheme ++ "': " ++ message

/-- What is said of a document that is not as a scheme needs it. -/
def objectModelMessage (message : String) : String := "Object model error: " ++ message

def FragmentError.message : FragmentError → String
  | unsupportedType =>
    "XInclude syntax error: only 'text' or 'xml' fragment identifiers are supported"
  | unknownScheme name parseType =>
    "Unknown fragment scheme: " ++ name ++ " (for parse=\x22" ++ parseType.name ++ "\x22)"
  | malformedData scheme fault => malformedDataMessage scheme fault.message
  | unparseable text => "Unparseable fragment identifier: " ++ text

def IntegrityFault.message : IntegrityFault → String
  | length found expected =>
    "Integrity check failed: length is " ++ toString found ++ "; expected " ++ toString expected
  | md5 found expected => "Integrity check failed: md5 is " ++ found ++ "; expected " ++ expected

def SelectionError.message : SelectionError → String
  | expression _ (.type fault) => objectModelMessage fault.message
  | expression source error => malformedDataMessage "xpath" (source ++ ": " ++ error.message)
  | noNodeSet source found =>
    objectModelMessage ("xpath(" ++ source ++ ") matched a " ++ found.name ++ ", not nodes")
  | notText => objectModelMessage "text schemes require a document containing a text node"
  | notSingle =>
    objectModelMessage "text schemes require a document containing a single text node"
  | integrity fault => fault.message

end Transclusion
