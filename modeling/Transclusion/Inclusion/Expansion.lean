import Transclusion.Inclusion.Attributes
import Transclusion.Inclusion.Control
import Transclusion.Inclusion.Resolver
import Transclusion.Inclusion.Selection
import Transclusion.Text.Indent
/-!
# Expansion

Expanding a document replaces each include in it by the content that it refers to:

* the resource is read (`Includer.resource`), fixed up, and the includes in it are expanded; an
  empty reference means the document with the include itself,
* the fragment identifier narrows it, and the selected part is fixed up and expanded in turn
  (`Includer.narrow`),
* if any of this fails, the fallback of the include takes its place (`Includer.fallback`).

The URIs of the documents under expansion are kept on a stack.  The stack is a state that outlives
errors: a fallback starts with the stack that the include started with.

Includes are nested to any depth, and the depth is not known beforehand.  Therefore the expansion
of nested includes counts down a number (`Includer.handle`); when it is used up, the expansion
stops without an outcome.
-/

namespace Transclusion

/-- What it takes to expand documents. -/
structure Includer where
  options : Options
  schemes : SchemeRegistry
  controls : ControlRegistry
  resolver : Resolver

/-- Computations that can fail with the stack they leave, or stop without an outcome. -/
abbrev Expanding := ExceptT InclusionError (StateT UriStack (Except Halt))

/-- Stops without an outcome. -/
def Expanding.halt {α : Type} (halt : Halt) : Expanding α := fun _ => .error halt

/-- Takes over the answer of a resolver. -/
def Expanding.ofReply (reply : Reply) : Expanding Document := fun stack =>
  reply.map fun answer => (answer, stack)

/-- Puts a URI on the stack. -/
def Expanding.enter (uri : String) : Expanding Unit := do
  set (← (← get).enter uri)

/-- An include on its way: its document, its number, itself and its attributes. -/
structure IncludeSite where
  document : Document
  id : Nat
  element : Element
  attributes : IncludeAttributes

namespace Includer

/-- The standard schemes and control elements. -/
def standard (options : Options) (resolver : Resolver) : Includer :=
  ⟨options, .standard, .standard, resolver⟩

section

variable (includer : Includer) (handle : Document → ControlHandler Expanding)

/-- A document with its includes replaced. -/
def expandAll (d : Document) : Expanding Document := d.walk includer.controls (handle d) 0

/-- The number of the fallback among the children of an include. No other control elements are
allowed there, nor a second fallback. -/
def fallbackChild? (ns : NodeList) (id : Nat) : Except InclusionError (Option Nat) :=
  (ns.elementChildren id).foldlM (fun found child =>
    match ns.element? child with
    | none => .ok found
    | some e =>
      if includer.controls.get? e.name = some .fallback then
        if found.isSome then .error (.malformed .severalFallbacks) else .ok (some child)
      else if e.name.isIn xincludeNamespace then .error (.malformed (.strayChild e.name.lexical))
      else .ok found) none

/-- The context that content is moved to. -/
def contextOf (site : IncludeSite) : FixupContext :=
  .ofInclude includer.options site.document.nodes site.id

/-- Content fixed up as replacement of an include. -/
def fixed (site : IncludeSite) (d : Document) : Document :=
  (includer.contextOf site).document site.element site.attributes.setXmlId d

/-- The content of a fallback, with the includes in it expanded, fixed up. -/
def fallback (site : IncludeSite) (id : Nat) : Expanding Document := do
  let d := site.document
  let content := ((d.subtree? id).map (·.content)).getD .nil
  let expanded ← content.walk includer.controls (handle d) (id + 1)
  return includer.fixed site ⟨d.nodes.base? id, expanded⟩

/-- The request for the resource of an include. -/
def request (site : IncludeSite) : Request :=
  let a := site.attributes
  ⟨site.document, site.id, a.href, a.encoding, a.accept, a.acceptLanguage⟩

/-- A resource read as markup and expanded, its URI being on the stack meanwhile. -/
def markup (site : IncludeSite) : Expanding Document := do
  Expanding.enter (request site).target
  let resource ← Expanding.ofReply (includer.resolver.readXml (request site))
  let expanded ← includer.expandAll handle (includer.fixed site resource)
  modify (·.leave)
  return expanded

/-- A resource read as text. -/
def text (site : IncludeSite) : Expanding Document := do
  let resource ← Expanding.ofReply (includer.resolver.readText (request site))
  if site.attributes.href = "" then return resource
  else includer.expandAll handle (includer.fixed site resource)

/-- What an include refers to, and the nodes around the include if that is its own document. -/
def resource (site : IncludeSite) (parseType : ParseType) (fragment : Option String) :
    Expanding (Document × Option AncestorSet) := do
  if parseType = .text then return (← includer.text handle site, none)
  else if site.attributes.href ≠ "" then return (← includer.markup handle site, none)
  else if fragment.isNone then throw (.loop .whole)
  else return (site.document, some (.ofInclude site.document.nodes site.id))

/-- The part of a document that a fragment identifier selects, fixed up and expanded. -/
def narrow (site : IncludeSite) (parseType : ParseType) (fragment : String) (d : Document)
    (around : Option AncestorSet) : Expanding Document := do
  let read := FragmentId.read includer.schemes parseType fragment
  let schemes ← read.mapError InclusionError.fragment
  let (selected, _) ← selectWith schemes ⟨d, includer.contextOf site⟩ around fragment
  includer.expandAll handle (includer.fixed site selected)

/-- The content that an include refers to. -/
def resolve (site : IncludeSite) (parseType : ParseType) : Expanding Document := do
  let fragment := site.attributes.fragment parseType
  let (d, around) ← includer.resource handle site parseType fragment
  match fragment with
  | none => return d
  | some fragment => includer.narrow handle site parseType fragment d around

/-- The text of a document without its indentation. -/
def trimmed (d : Document) : Document :=
  .ofText d.base (String.ofList (Text.trimIndent d.stringValue.toList))

/-- The content that replaces an include whose fallback, if it has one, has the number
`fallback`. -/
def replacement (site : IncludeSite) (fallback : Option Nat) : Expanding Document := do
  let parseType := site.attributes.parseType
  if parseType = .unsupported then
    match fallback with
    | some id => includer.fallback handle site id
    | none => throw (.noFallback site.attributes.parse)
  else
    let before := (← get).size
    let content ← tryCatch (includer.resolve handle site parseType) fun e =>
      match fallback with
      | some id => do
        modify (·.truncate before)
        includer.fallback handle site id
      | none => throw e
    return if parseType = .text && includer.options.trimText then trimmed content else content

/-- Replaces an include. -/
def include_ (d : Document) (id : Nat) (e : Element) : Expanding Document := do
  let attributes ← IncludeAttributes.ofElement e
  let fallback ← includer.fallbackChild? d.nodes id
  includer.replacement handle ⟨d, id, e, attributes⟩ fallback

end

/-- Replaces a control element of a document, with at most `depth` includes inside each other. -/
def handle (includer : Includer) : Nat → Document → ControlHandler Expanding
  | 0, _, _, _, _ => Expanding.halt .tooDeep
  | _ + 1, _, .fallback, _, _ => throw (.malformed .strayFallback)
  | depth + 1, d, .inclusion, id, e => includer.include_ (includer.handle depth) d id e

/-- Expands a document that is not inside of any other. -/
def expanding (includer : Includer) (depth : Nat) (d : Document) : Expanding Document := do
  if let some base := d.base then Expanding.enter (Uri.resolve none base)
  includer.expandAll (includer.handle depth) d

/-- Expands a document with at most `depth` includes inside each other. -/
def expandWithin (includer : Includer) (depth : Nat) (d : Document) : Reply :=
  ((includer.expanding depth d).run .empty).map (·.1)

/-- How deep includes can be nested when nothing else is said. -/
def defaultDepth : Nat := 4096

/-- Expands a document. -/
def expand (includer : Includer) (d : Document) : Reply :=
  includer.expandWithin defaultDepth d

end Includer

end Transclusion
