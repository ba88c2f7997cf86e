import Transclusion.Markup.Event
import Transclusion.Markup.Reference
import Transclusion.Uri.Resolve
/-!
# Reading documents

`Document.read` makes a document of a text.  The events of the text are taken one by one; a
`Reading` holds the document under way and, for every open element, what is in scope on it: its
namespace bindings and its base URI.

A declaration is in scope on its element and inside it.  The base URI of an element is that of the
element around it, or what its `xml:base` refers to from there.
-/

namespace Transclusion

open Transclusion.Text

/-- What is in scope on an open element. -/
structure Scope where
  /-- The name of the element as it is written. -/
  element : String
  bindings : Bindings
  base : Option String
deriving DecidableEq, Repr

/-- A document under way. -/
structure Reading where
  /-- The base URI of the document. -/
  base : Option String
  builder : Builder
  /-- The scopes of the open elements, innermost first. -/
  scopes : List Scope
  seenRoot : Bool
deriving DecidableEq, Repr

/-- The name that a written name stands for where the bindings are in scope. Without a prefix it
is in the default namespace if `useDefault`. -/
def QName.resolve (bindings : Bindings) (useDefault : Bool) (written : String) :
    Except XmlError QName :=
  match cutAt ':' written.toList with
  | some (before, after) =>
    let (nsPrefix, localName) := (String.ofList before, String.ofList after)
    if nsPrefix = "xml" then .ok (.xml localName)
    else match bindings.get? nsPrefix with
      | some uri => .ok (.prefixed nsPrefix uri localName)
      | none => .error (.unboundPrefix nsPrefix)
  | none =>
    if useDefault then .ok (.inNamespace (bindings.get? "") written) else .ok (.plain written)

/-- A namespace declaration. -/
inductive Declaration where
  /-- `xmlns`, of the default namespace. -/
  | ofDefault (uri : String)
  /-- `xmlns:` and a prefix, which may be empty. -/
  | ofPrefix (nsPrefix uri : String)
deriving DecidableEq, Repr

/-- The declaration that an attribute makes, if it is one. -/
def declaration? (key value : String) : Option Declaration :=
  if key = "xmlns" then some (.ofDefault value)
  else (['x', 'm', 'l', 'n', 's', ':'].isPrefixOf? key.toList).map fun nsPrefix =>
    .ofPrefix (String.ofList nsPrefix) value

/-- The bindings after a declaration. Declaring no default namespace removes it. -/
def Bindings.declare (bindings : Bindings) : Declaration → Bindings
  | .ofDefault uri => if uri = "" then bindings.erase "" else bindings.insert "" uri
  | .ofPrefix nsPrefix uri => bindings.insert nsPrefix uri

/-- The bindings on an element with these attributes, `outer` being those around it. -/
def Bindings.within (outer : Bindings) (attributes : List (String × String)) : Bindings :=
  (attributes.filterMap fun (key, value) => declaration? key value).foldl Bindings.declare outer

/-- The attributes proper among these, by their resolved names. `stop` is the offset of the tag's
end. -/
def resolveAttributes (bindings : Bindings) (element : String) (stop : Nat)
    (attributes : List (String × String)) : Except XmlError Attributes :=
  attributes.foldlM (fun (resolved : Attributes) (key, value) => do
    if (declaration? key value).isSome then return resolved
    let name ← QName.resolve bindings false key
    if resolved.contains name then
      throw (.malformed (.repeatedAttribute name.clark element) stop)
    return resolved.insert name value) .empty

/-- The attributes of a tag with their references resolved. -/
def attributesOfTag (tag : List Char) (stop : Nat) : Except XmlError (List (String × String)) :=
  readAttributes (fun fault => .malformed (.attributes fault) 0)
    (fun raw =>
      match resolveReferences raw.value with
      | .ok value => .ok (String.ofList raw.key, String.ofList value)
      | .error fault => .error (.malformed (.valueReference fault) stop))
    tag

namespace Reading

/-- Nothing read yet. -/
def start (base : Option String) : Reading := ⟨base, .start base, [], false⟩

/-- The bindings in scope. -/
def bindings (r : Reading) : Bindings :=
  match r.scopes with
  | scope :: _ => scope.bindings
  | [] => .empty

/-- The base URI in force. -/
def currentBase (r : Reading) : Option String :=
  match r.scopes with
  | scope :: _ => scope.base
  | [] => r.base

/-- The element of a tag that ends at `stop`. -/
def elementOfTag (r : Reading) (tag : List Char) (stop : Nat) : Except XmlError Element := do
  let written := String.ofList (tagName tag)
  let attributes ← attributesOfTag tag stop
  let bindings := Bindings.within r.bindings attributes
  let name ← QName.resolve bindings true written
  let attributes ← resolveAttributes bindings written stop attributes
  let base := match attributes.get? (.xml "base") with
    | some reference => some (Uri.resolve r.currentBase reference)
    | none => r.currentBase
  return ⟨name, attributes, bindings, base⟩

/-- Reads a start tag. -/
def openElement (r : Reading) (tag : List Char) (stop : Nat) : Except XmlError Reading := do
  if r.scopes.isEmpty && r.seenRoot then throw .secondRoot
  let e ← r.elementOfTag tag stop
  return {
    r with
    builder := r.builder.openElement e
    scopes := ⟨String.ofList (tagName tag), e.bindings, e.base⟩ :: r.scopes
    seenRoot := true }

/-- Reads an end tag. -/
def closeElement (r : Reading) (stop : Nat) : Except XmlError Reading :=
  match r.scopes with
  | [] => .error (.malformed .strayEnd stop)
  | _ :: outer =>
    match r.builder.closeElement with
    | .ok builder => .ok { r with builder, scopes := outer }
    | .error e => .error (.tree e)

/-- Reads a text, which outside of the root element must be white space. -/
def addText (r : Reading) (text : List Char) (stop : Nat) : Except XmlError Reading :=
  if r.scopes.isEmpty then
    if isBlank text then .ok r else .error (.malformed .textOutsideRoot stop)
  else .ok { r with builder := r.builder.addText (String.ofList text) }

/-- Reads an event that ends at `stop`. -/
def step (r : Reading) (event : Event) (stop : Nat) : Except XmlError Reading :=
  match event with
  | .start tag => r.openElement tag stop
  | .empty tag => do (← r.openElement tag stop).closeElement stop
  | .close => r.closeElement stop
  | .text raw =>
    match resolveReferences raw with
    | .ok text => r.addText text stop
    | .error fault => .error (.malformed (.textReference fault) stop)
  | .cdata text => r.addText text stop
  | .comment text =>
    .ok { r with builder := r.builder.addLeaf (.comment (String.ofList text)) }
  | .instruction target data =>
    let leaf := Leaf.instruction (String.ofList target) (String.ofList (trimStart data))
    .ok { r with builder := r.builder.addLeaf leaf }
  | .declaration => .ok r

/-- The document that has been read when there are no more events. -/
def finish (r : Reading) : Except XmlError Document :=
  match r.scopes with
  | scope :: _ => .error (.unexpectedEnd scope.element)
  | [] =>
    if r.seenRoot then r.builder.finish.mapError .tree else .error .noRoot

end Reading

/-- The document that a sequence of events makes up. -/
def EventScan.toDocument (base : Option String) (scan : EventScan) : Except XmlError Document := do
  let read ← scan.events.foldlM (fun (r : Reading) e => r.step e.event e.stop) (Reading.start base)
  match scan.fault with
  | some e => throw e
  | none => read.finish

/-- Reads a document with the base URI `base`. -/
def Document.read (base : Option String) (text : String) : Except XmlError Document :=
  (Event.scan text.toList).toDocument base

end Transclusion
