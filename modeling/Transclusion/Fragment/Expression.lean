import Transclusion.Fragment.Scheme
import Transclusion.XPath.Evaluation
/-!
# The scheme `xpath`

`xpath(expression)` selects the nodes that the expression selects from the document, in document
order and each with all that is inside it.  Of an attribute the value is selected, as a text.
-/

namespace Transclusion

/-- An expression as it is written in a fragment identifier; it is read when it is applied. -/
structure ExpressionPointer where
  source : String
deriving DecidableEq, Repr

namespace ExpressionPointer

/-- Takes any data but white space. -/
def read (data : String) : Except FragmentError ExpressionPointer :=
  if Text.isBlank data.toList then .error (.malformedData "xpath" .emptyExpression)
  else .ok ⟨data⟩

/-- What is copied of a selected node. -/
def copyOf (context : SelectionContext) (ns : NodeList) : XPath.NodeRef → Forest
  | .attribute_ owner index =>
    .consText ((XPath.NodeRef.attribute_ owner index).stringValue ns) .nil
  | .node id =>
    match context.fixup.element? ns id, context.document.subtree? id with
    | some e, some subtree => .element e subtree.content .nil
    | none, some subtree => subtree.toForest
    | _, none => .nil

/-- The selected nodes as a document, with the base URI of the first. -/
def copyAll (context : SelectionContext) (ns : NodeList) (nodes : List XPath.NodeRef) : Document :=
  let base := nodes.head?.bind fun first => ns.base? first.owner
  ⟨base.or context.document.base,
    nodes.foldr (fun node copies => (copyOf context ns node).append copies) .nil⟩

/-- The numbers of the selected nodes, attributes apart. -/
def numbersOf (nodes : List XPath.NodeRef) : List Nat :=
  nodes.filterMap fun
    | .node id => some id
    | .attribute_ _ _ => none

def select (p : ExpressionPointer) (bindings : Bindings) (context : SelectionContext) :
    Except SelectionError Selection := do
  let failed := SelectionError.expression p.source
  let e ← (XPath.Expr.read p.source).mapError failed
  let value ← (e.evaluate context.document 0 bindings).mapError failed
  match value with
  | .nodeSet [] => return .nothing
  | .nodeSet nodes =>
    return .found (copyAll context context.document.nodes nodes) (numbersOf nodes)
  | value => throw (.noNodeSet p.source value.kind)

def scheme (p : ExpressionPointer) : Scheme where
  name := "xpath"
  parseType := .xml
  select bindings context := p.select (.ofList bindings) context

end ExpressionPointer

end Transclusion
