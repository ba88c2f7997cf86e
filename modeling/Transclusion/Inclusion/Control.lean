import Transclusion.Inclusion.Error
import Transclusion.Markup.Nodes
/-!
# Control elements

Control elements are not copied but replaced.  `Forest.walk` copies a forest and asks a handler
for the replacement of each control element in it, in document order; what is inside a control
element is not looked at.  The effects of the handler, such as failure and state, are those of any
monad.
-/

namespace Transclusion

/-- The namespace of control elements. -/
def xincludeNamespace : String := "http://www.w3.org/2001/XInclude"

inductive Control where
  /-- Content to be included. -/
  | inclusion
  /-- Content for an inclusion that fails. -/
  | fallback
deriving DecidableEq, Repr

/-- The names of control elements. -/
abbrev ControlRegistry := Table QName Control

namespace ControlRegistry

/-- `xi:include` and `xi:fallback`. -/
def standard : ControlRegistry :=
  .ofList [(.inNamespace (some xincludeNamespace) "include", .inclusion),
    (.inNamespace (some xincludeNamespace) "fallback", .fallback)]

/-- Registers a name, unless it is registered already. -/
def register (registry : ControlRegistry) (name : QName) (control : Control) :
    Except InclusionError ControlRegistry :=
  if registry.contains name then .error (.registered name.clark)
  else .ok (registry.insert name control)

end ControlRegistry

/-- What answers a control element, given by its number and itself, with a document whose content
replaces it. -/
abbrev ControlHandler (m : Type → Type) := Control → Nat → Element → m Document

section

variable {m : Type → Type} [Monad m] (controls : ControlRegistry) (handle : ControlHandler m)

/-- A forest with its control elements replaced, the first of its nodes having the number
`first`. -/
def Forest.walk (first : Nat) : Forest → m Forest
  | nil => return nil
  | leaf l rest => return consLeaf l (← rest.walk (first + 1))
  | element e content rest => do
    match controls.get? e.name with
    | some control =>
      let replacement ← handle control first e
      return replacement.content.append (← rest.walk (first + content.size + 1))
    | none =>
      let content' ← content.walk (first + 1)
      return element e content' (← rest.walk (first + content.size + 1))

/-- A node of a document, copied as a document of its own with its control elements replaced. -/
def Document.walk (d : Document) (id : Nat) : m Document := do
  match d.subtree? id with
  | some (.document d) => return { d with content := ← d.content.walk controls handle 1 }
  | some node => return { d with content := ← node.toForest.walk controls handle id }
  | none => return { d with content := .nil }

end

end Transclusion
