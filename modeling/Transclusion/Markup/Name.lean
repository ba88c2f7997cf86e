import Transclusion.Table
/-!
# Qualified names

The names of elements and attributes.  A name is identified by its namespace and its local part;
the prefix only says how it is preferably written.
-/

namespace Transclusion

/-- The namespace that the prefix `xml` always stands for. -/
def xmlNamespace : String := "http://www.w3.org/XML/1998/namespace"

/-- A qualified name with its preferred prefix, its namespace and its local part. -/
structure QName where
  nsPrefix : Option String
  nsUri : Option String
  localName : String
deriving DecidableEq, Repr, Inhabited

/-- The empty text counts as none. -/
def nonEmpty? (s : String) : Option String := if s = "" then none else some s

namespace QName

/-- A name in no namespace. -/
def plain (localName : String) : QName := ⟨none, none, localName⟩

/-- A name in a namespace, without a preferred prefix. -/
def inNamespace (uri : Option String) (localName : String) : QName :=
  ⟨none, uri.bind nonEmpty?, localName⟩

/-- A name with a preferred prefix. -/
def prefixed (nsPrefix uri localName : String) : QName :=
  ⟨nonEmpty? nsPrefix, nonEmpty? uri, localName⟩

/-- A name such as `xml:base`. -/
def xml (localName : String) : QName := prefixed "xml" xmlNamespace localName

/-- What identifies a name: its namespace and its local part. -/
def expanded (name : QName) : Option String × String := (name.nsUri, name.localName)

instance : Keyed QName (Option String × String) := ⟨expanded⟩

@[simp] theorem identity_eq_expanded (name : QName) : Keyed.identity name = name.expanded := rfl

/-- Whether the name is in the namespace. -/
def isIn (name : QName) (uri : String) : Bool := name.nsUri = some uri

/-- Whether the name has this namespace, or none, and this local part. -/
def isNamed (name : QName) (uri : Option String) (localName : String) : Bool :=
  name.nsUri = uri && name.localName = localName

/-- The name as it is written in a document. -/
def lexical (name : QName) : String :=
  match name.nsPrefix with
  | some nsPrefix => nsPrefix ++ ":" ++ name.localName
  | none => name.localName

/-- The name with its namespace in braces. -/
def clark (name : QName) : String :=
  match name.nsUri with
  | some uri => "\x7b" ++ uri ++ "\x7d" ++ name.localName
  | none => name.localName

end QName

end Transclusion
