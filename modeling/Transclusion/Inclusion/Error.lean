import Transclusion.Fragment.Error
import Transclusion.Markup.Error
import Transclusion.Text.Utf8
/-!
# Errors in inclusion

Why an inclusion fails.  Errors are causes; `InclusionError.message` puts them into words, and
`InclusionError.cause?` tells which other error an error goes back to.
-/

namespace Transclusion

/-- An `xi:include` or `xi:fallback` that is not as it must be. -/
inductive IncludeFault where
  /-- A character outside of printable ASCII in this attribute. -/
  | badCharacter (name : String)
  | severalFallbacks
  /-- Another control element inside of an `xi:include`. -/
  | strayChild (name : String)
  /-- An `xi:fallback` outside of an `xi:include`. -/
  | strayFallback
  /-- What else a handler of control elements finds wrong. -/
  | other (message : String)
deriving DecidableEq, Repr

/-- An inclusion of something in itself. -/
inductive LoopFault where
  /-- The document with this URI is being expanded. -/
  | document (uri : String)
  /-- The fragment encloses the include that refers to it. -/
  | ancestor
  /-- The document as a whole encloses the include that refers to it. -/
  | whole
deriving DecidableEq, Repr

/-- A failure of the operating system, with its number if it has one. -/
structure SystemFault where
  description : String
  number : Option Nat
deriving DecidableEq, Repr

/-- Why a resource cannot be read. -/
inductive ReadFault where
  | notFound
  /-- The URI is not that of a file. -/
  | notFile
  | notAscii
  | unsupportedEncoding (name : String)
  | system (fault : SystemFault)
  | utf8 (fault : Text.Utf8Fault)
  | xml (error : XmlError)
deriving DecidableEq, Repr

/-- Why an inclusion fails. -/
inductive InclusionError where
  | malformed (fault : IncludeFault)
  | fragment (error : FragmentError)
  /-- No scheme selected anything; with the error of the last scheme that failed. -/
  | noFragment (fragment : String) (cause : Option SelectionError)
  | loop (fault : LoopFault)
  /-- There is no fallback for content of this unsupported type. -/
  | noFallback (mediaType : String)
  | unreadable (uri : String) (fault : ReadFault)
  /-- Control elements are already registered under this name. -/
  | registered (name : String)
deriving DecidableEq, Repr

/-- What an error can go back to. -/
inductive ErrorCause where
  | selection (error : SelectionError)
  | xml (error : XmlError)
  | system (fault : SystemFault)
  | utf8 (fault : Text.Utf8Fault)
deriving DecidableEq, Repr

/-! ### In words -/

def IncludeFault.message : IncludeFault → String
  | badCharacter name => "invalid characters in " ++ name ++ " value"
  | severalFallbacks => "xi:include must contain at most one xi:fallback element"
  | strayChild name => "element not allowed as child of xi:include: " ++ name
  | strayFallback => "xi:fallback is only allowed as a child of xi:include"
  | other message => message

def LoopFault.message : LoopFault → String
  | document uri => uri ++ " includes itself"
  | ancestor => "same-document reference selects an ancestor of the xi:include"
  | whole => "same-document xi:include without a fragment identifier includes itself"

def SystemFault.message (fault : SystemFault) : String :=
  match fault.number with
  | some number => fault.description ++ " (os error " ++ toString number ++ ")"
  | none => fault.description

def ReadFault.message : ReadFault → String
  | notFound => "resource not found"
  | notFile => "only file resources can be read"
  | notAscii => "content is not US-ASCII"
  | unsupportedEncoding name => "unsupported encoding '" ++ name ++ "'"
  | system fault => fault.message
  | utf8 fault => fault.message
  | xml error => error.message

namespace InclusionError

def message : InclusionError → String
  | malformed fault => "XInclude syntax error: " ++ fault.message
  | fragment error => error.message
  | noFragment id _ => "Failed to locate fragment: " ++ id
  | loop fault => "XInclude loop detected: " ++ fault.message
  | noFallback mediaType =>
    "Fallback forced (unsupported parse=\x22" ++ mediaType ++ "\x22) but no xi:fallback provided"
  | unreadable uri fault => "Cannot read " ++ uri ++ ": " ++ fault.message
  | registered name => objectModelMessage ("a handler for " ++ name ++ " is already registered")

/-- The error that an error goes back to. -/
def cause? : InclusionError → Option ErrorCause
  | noFragment _ cause => cause.map .selection
  | unreadable _ (.system fault) => some (.system fault)
  | unreadable _ (.utf8 fault) => some (.utf8 fault)
  | unreadable _ (.xml error) => some (.xml error)
  | _ => none

end InclusionError

def ErrorCause.message : ErrorCause → String
  | selection error => error.message
  | xml error => error.message
  | system fault => fault.message
  | utf8 fault => fault.message

end Transclusion
