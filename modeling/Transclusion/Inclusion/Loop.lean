import Transclusion.Inclusion.Error
import Transclusion.Markup.Nodes
/-!
# Loops

An inclusion must not reach a document or an element that it is inside of.  The URIs of the
documents under expansion form a stack on which no URI occurs twice (`UriStack.enter`).  An include
that refers to its own document adds no URI; what it selects is compared with the elements around
it instead (`AncestorSet.check`).
-/

namespace Transclusion

/-- The URIs of the documents under expansion, innermost first. -/
structure UriStack where
  uris : List String
deriving DecidableEq, Repr, Inhabited

namespace UriStack

def empty : UriStack := ⟨[]⟩

def size (s : UriStack) : Nat := s.uris.length

def isEmpty (s : UriStack) : Bool := s.uris.isEmpty

def contains (s : UriStack) (uri : String) : Bool := s.uris.contains uri

/-- Puts a URI on the stack, unless it is there. -/
def enter (s : UriStack) (uri : String) : Except InclusionError UriStack :=
  if s.contains uri then .error (.loop (.document uri)) else .ok ⟨uri :: s.uris⟩

/-- Takes the innermost URI off the stack. -/
def leave (s : UriStack) : UriStack := ⟨s.uris.tail⟩

/-- The stack when it held only `size` URIs. -/
def truncate (s : UriStack) (size : Nat) : UriStack := ⟨s.uris.drop (s.size - size)⟩

end UriStack

/-- The numbers of an include and of all nodes that it is inside of. -/
structure AncestorSet where
  numbers : List Nat
deriving DecidableEq, Repr

namespace AncestorSet

def ofInclude (ns : NodeList) (id : Nat) : AncestorSet := ⟨id :: ns.ancestors id⟩

def contains (a : AncestorSet) (id : Nat) : Bool := a.numbers.contains id

/-- Refuses a selection that encloses the include. -/
def check (a : AncestorSet) (selected : List Nat) : Except InclusionError Unit :=
  if selected.any a.contains then .error (.loop .ancestor) else .ok ()

end AncestorSet

end Transclusion
