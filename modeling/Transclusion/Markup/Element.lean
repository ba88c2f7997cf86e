import Transclusion.Markup.Name
/-!
# Elements

An element carries its name, its attributes in the order they were written, the namespace
bindings in scope on it, and its base URI.  Attributes in a namespace need a prefix that is bound
to it: setting one declares a prefix where necessary (`Element.bindNamespace`).
-/

namespace Transclusion

/-- Prefixes and the namespaces they stand for; the empty prefix is the default namespace. -/
abbrev Bindings := Table String String

abbrev Attributes := Table QName String

structure Element where
  name : QName
  attributes : Attributes
  bindings : Bindings
  /-- The base URI in force on the element, if it is known. -/
  base : Option String
deriving DecidableEq, Repr, Inhabited

namespace Element

/-- An element without attributes, bindings and base. -/
def ofName (name : QName) : Element := ⟨name, .empty, .empty, none⟩

def attribute? (e : Element) (name : QName) : Option String := e.attributes.get? name

/-- The value of the attribute in no namespace with this local part. -/
def plainAttribute? (e : Element) (localName : String) : Option String :=
  e.attributes.get? (.plain localName)

/-- The n-th prefix that is generated where none is at hand. -/
def generatedPrefix (n : Nat) : String := "ns" ++ toString n

/-- The first generated prefix without a binding: one of the first n + 1 is free if n are bound. -/
def freshPrefix (bindings : Bindings) : String :=
  generatedPrefix <|
    ((List.range (bindings.size + 1)).find? fun n => !bindings.contains (generatedPrefix n)).getD 0

/-- The prefix to declare for a name: the preferred one if it is free, else a generated one. -/
def prefixToDeclare (bindings : Bindings) (preferred : Option String) : String :=
  match preferred with
  | some p => if p ≠ "" && p ≠ "xml" && !bindings.contains p then p else freshPrefix bindings
  | none => freshPrefix bindings

/-- Makes sure that an attribute name in a namespace has a prefix bound to it on the element.
Returns the name with that prefix. A prefix that is bound already is taken before one is
declared, the preferred one first. -/
def bindNamespace (e : Element) (name : QName) : Element × QName :=
  match name.nsUri with
  | none => (e, { name with nsPrefix := none })
  | some uri =>
    if uri = xmlNamespace then (e, { name with nsPrefix := some "xml" })
    else if name.nsPrefix.bind e.bindings.get? = some uri then (e, name)
    else match e.bindings.entries.find? fun binding => binding.1 ≠ "" && binding.2 = uri with
      | some (bound, _) => (e, { name with nsPrefix := some bound })
      | none =>
        let declared := prefixToDeclare e.bindings name.nsPrefix
        ({ e with bindings := e.bindings.insert declared uri },
          { name with nsPrefix := some declared })

/-- Sets an attribute. One that is there keeps its place and the way its name is written. -/
def setAttribute (e : Element) (name : QName) (value : String) : Element :=
  let (e, name) := e.bindNamespace name
  { e with attributes := e.attributes.insert name value }

def removeAttribute (e : Element) (name : QName) : Element :=
  { e with attributes := e.attributes.erase name }

end Element

end Transclusion
