import Transclusion.Fragment.Scheme
import Transclusion.Text.Cut
import Transclusion.Text.Index
/-!
# The scheme `element`

`element(id)`, `element(id/2/1)` and `element(/1/3)` point to an element: the one with that
`xml:id`, or from it or from the document down to the n-th element child for each of the numbers.
-/

namespace Transclusion

open Text

structure ElementPointer where
  /-- The element to start at; the document if there is none. -/
  id : Option String
  /-- Positions among element children, counted from 1. -/
  steps : List Nat
deriving DecidableEq, Repr

namespace ElementPointer

/-- Reads the data of the scheme; white space around it does not count. -/
def read (data : String) : Except FragmentError ElementPointer :=
  let data := trim data.toList
  let id := data.takeWhile (· ≠ '/')
  let steps? := match data.dropWhile (· ≠ '/') with
    | [] => some []
    | _ :: steps => (pieces '/' steps).mapM readIndex?
  if data.isEmpty then .error (.malformedData "element" .emptyPointer)
  else match steps? with
    | some steps => .ok ⟨if id.isEmpty then none else some (String.ofList id), steps⟩
    | none => .error (.malformedData "element" (.badPointer (String.ofList data)))

/-- The n-th element child of a node, counted from 1. -/
def childAt? (ns : NodeList) (node n : Nat) : Option Nat :=
  if n = 0 then none else (ns.elementChildren node)[n - 1]?

/-- The number of the node that the pointer points to. -/
def locate? (p : ElementPointer) (ns : NodeList) : Option Nat := do
  let start ← match p.id with
    | some id => ns.elementWithId? id
    | none => some 0
  p.steps.foldlM (childAt? ns) start

/-- The element pointed to, with its content and fixed up. -/
def select (p : ElementPointer) (context : SelectionContext) : Selection :=
  let ns := context.document.nodes
  match p.locate? ns with
  | none => .nothing
  | some id =>
    match context.fixup.element? ns id, context.document.subtree? id with
    | some e, some subtree => .found ⟨e.base, .element e subtree.content .nil⟩ [id]
    | _, _ => .nothing

def scheme (p : ElementPointer) : Scheme where
  name := "element"
  parseType := .xml
  select _ context := .ok (p.select context)

end ElementPointer

end Transclusion
