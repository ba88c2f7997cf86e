import Transclusion.Inclusion.Error
import Transclusion.Markup.Nodes
import Transclusion.Markup.Reading
import Transclusion.Markup.Writing
import Transclusion.Uri.Resolve
/-!
# Resolvers

A resolver answers requests for resources, as markup or as text.  It is told the reference and the
node that the reference stands on, from which follows the URI of the resource (`Request.target`).
The documents that it returns have the URI of the resource as their base URI.

A resolver may also find that it has to wait for a file that has not been read yet: it then stops
the expansion, which can be started again once the file is there (`Halt`).
-/

namespace Transclusion

open Text

/-- Why an expansion stops without an outcome. -/
inductive Halt where
  /-- Inclusions are nested deeper than was allowed. -/
  | tooDeep
  /-- The file at this path has to be read first. -/
  | unread (path : List UInt8)
deriving DecidableEq, Repr

structure Request where
  /-- The document with the reference, and the number of the node that it stands on. -/
  document : Document
  node : Nat
  /-- The reference; it is empty for the document itself. -/
  href : String
  encoding : String
  accept : Option String
  acceptLanguage : Option String
deriving DecidableEq, Repr

/-- The URI of the requested resource. -/
def Request.target (r : Request) : String :=
  Uri.resolve (r.document.nodes.base? r.node) r.href

/-- The answer to a request. -/
abbrev Reply := Except Halt (Except InclusionError Document)

structure Resolver where
  readXml : Request → Reply
  readText : Request → Reply

namespace Resolver

/-- A resource as markup. -/
def parsed (uri content : String) : Except InclusionError Document :=
  (Document.read (some uri) content).mapError fun e => .unreadable uri (.xml e)

/-- A resource as text, with line ends made alike. -/
def ofText (uri : Option String) (content : String) : Document :=
  .ofText uri (String.ofList (unifyLineEnds content.toList))

/-- A document as text: what can be read under its URI, or else the document in writing. -/
def ownText (d : Document) (reread : Option String) : Document :=
  ofText d.base (reread.getD d.write)

/-! ### Resources held in memory -/

/-- The resource with a URI. -/
def lookup (resources : Table String String) (uri : String) : Except InclusionError String :=
  match resources.get? uri with
  | some content => .ok content
  | none => .error (.unreadable uri .notFound)

def memoryXml (resources : Table String String) (r : Request) : Except InclusionError Document := do
  parsed r.target (← lookup resources r.target)

def memoryText (resources : Table String String) (r : Request) :
    Except InclusionError Document := do
  if r.href = "" then return ownText r.document (r.document.base.bind resources.get?)
  else return ofText (some r.target) (← lookup resources r.target)

/-- Reads resources from a table under their URIs. -/
def memory (resources : Table String String) : Resolver where
  readXml r := .ok (memoryXml resources r)
  readText r := .ok (memoryText resources r)

end Resolver

end Transclusion
