import Transclusion.Fixup.Context
import Transclusion.Fragment.Error
/-!
# Schemes

A scheme selects from a document.  A fragment identifier invokes schemes by name, each with a text
as its data; a `SchemeRegistry` holds, for each name, how that data is read and for which parse
type.

Schemes are asked in turn: one that is not done can pass on bindings of prefixes to those after it.
-/

namespace Transclusion

/-- What a scheme selects. -/
structure Selection where
  /-- Whether the scheme is done with it. -/
  finished : Bool
  /-- The selected content, which counts if the scheme is done. -/
  result : Option Document
  /-- Bindings of prefixes for the schemes that follow. -/
  bindings : List (String × String)
  /-- The numbers of the nodes that were selected. -/
  matched : List Nat
deriving DecidableEq, Repr

namespace Selection

/-- Nothing is selected. -/
def nothing : Selection := ⟨false, none, [], []⟩

/-- The content selected from these nodes. -/
def found (result : Document) (matched : List Nat) : Selection := ⟨true, some result, [], matched⟩

/-- Nothing is selected, but a prefix is bound. -/
def binding (nsPrefix uri : String) : Selection :=
  ⟨false, none, [(nsPrefix, uri)], []⟩

/-- The selected content and the numbers of the nodes, if the scheme is done. -/
def answer? (s : Selection) : Option (Document × List Nat) :=
  if s.finished then s.result.map fun result => (result, s.matched) else none

/-- A text selected from a document, with the base URI of the document. -/
def ofText (source : Document) (text : String) : Selection := found (.ofText source.base text) []

end Selection

/-- What a scheme selects from: a document, and the fix-up of the elements selected from it. -/
structure SelectionContext where
  document : Document
  fixup : FixupContext

/-- A scheme with its data. It selects under the bindings that the schemes before it have passed
on, of which a later one counts. -/
structure Scheme where
  name : String
  parseType : ParseType
  select : List (String × String) → SelectionContext → Except SelectionError Selection

/-- The text of a document that holds at most a single text. -/
def Document.singleText (d : Document) : Except SelectionError String :=
  match d.content with
  | .nil => .ok ""
  | .leaf (.text text) .nil => .ok text
  | .leaf _ .nil | .element _ _ .nil => .error .notText
  | _ => .error .notSingle

/-- How a registered scheme is read from its data. -/
structure SchemeReader where
  parseType : ParseType
  read : String → Except FragmentError Scheme

/-- The schemes that fragment identifiers can name. -/
abbrev SchemeRegistry := Table String SchemeReader

namespace SchemeRegistry

def names (registry : SchemeRegistry) : List String := registry.entries.map (·.1)

/-- The scheme `name` for content of the parse type, read from `data`. -/
def instantiate (registry : SchemeRegistry) (name : String) (parseType : ParseType)
    (data : String) : Except FragmentError Scheme :=
  match registry.get? name with
  | some reader =>
    if reader.parseType = parseType then reader.read data
    else .error (.unknownScheme name parseType)
  | none => .error (.unknownScheme name parseType)

end SchemeRegistry

end Transclusion
