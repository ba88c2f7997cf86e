import Transclusion.XPath.Axes
import Transclusion.XPath.Function
import Transclusion.XPath.Parser
/-!
# Evaluation

The value of an expression for a context node, over the nodes of a document and with namespace
bindings for the prefixes in it.

A path goes from a set of nodes to a set of nodes, step by step (`Step.evalAll`): each node of
the set yields the nodes on the axis of the step that satisfy its test and then its predicates, the
positions being counted for each node on its own.  The result is in document order again.
-/

namespace Transclusion.XPath

/-! ### Comparison -/

/-- How two numbers compare. -/
def compareNumbers (op : BinaryOp) (l r : Float) : Bool :=
  match op with
  | .less => l < r
  | .lessOrEqual => l ≤ r
  | .greater => l > r
  | .greaterOrEqual => l ≥ r
  | _ => false

/-- Whether two values that are no sets of nodes are equal: as booleans if one is a boolean, else
as numbers if one is a number, else as texts. -/
def equalAtoms (ns : NodeList) (l r : Value) : Bool :=
  match l, r with
  | .boolean _, _ | _, .boolean _ => l.toBoolean == r.toBoolean
  | .number _, _ | _, .number _ => l.toNumber ns == r.toNumber ns
  | _, _ => l.toText ns == r.toText ns

/-- How two values that are no sets of nodes compare. -/
def compareAtoms (ns : NodeList) (op : BinaryOp) (l r : Value) : Bool :=
  match op with
  | .equal => equalAtoms ns l r
  | .notEqual => !equalAtoms ns l r
  | _ => compareNumbers op (l.toNumber ns) (r.toNumber ns)

/-- How two values compare. A set of nodes compares like any one of its nodes' string values, and
with a boolean like a boolean. -/
def compareValues (ns : NodeList) (op : BinaryOp) (l r : Value) : Bool :=
  let texts := fun (nodes : List NodeRef) =>
    nodes.map fun node => Value.string (node.stringValue ns)
  match l, r with
  | .nodeSet a, .nodeSet b =>
    (texts a).any fun x => (texts b).any fun y => compareAtoms ns op x y
  | .nodeSet _, .boolean _ | .boolean _, .nodeSet _ =>
    compareAtoms ns op (.boolean l.toBoolean) (.boolean r.toBoolean)
  | .nodeSet a, _ => (texts a).any fun x => compareAtoms ns op x r
  | _, .nodeSet b => (texts b).any fun y => compareAtoms ns op l y
  | _, _ => compareAtoms ns op l r

/-- The number that an arithmetic operator yields. -/
def calculate (op : BinaryOp) (l r : Float) : Float :=
  match op with
  | .add => l + r
  | .subtract => l - r
  | .multiply => l * r
  | .divide => l / r
  | _ => Number.remainder l r

def BinaryOp.isArithmetic : BinaryOp → Bool
  | add | subtract | multiply | divide | modulo => true
  | _ => false

/-! ### Expressions -/

/-- What an expression is evaluated over: the nodes of a document and the bindings of prefixes. -/
structure Environment where
  nodes : NodeList
  bindings : Bindings

/-- Whether the value of a predicate keeps the node at a position: a number has to be that
position. -/
def keeps (value : Value) (position : Nat) : Bool :=
  match value with
  | .number n => n == Float.ofNat position
  | value => value.toBoolean

/-- The nodes from the position `position` on that a predicate keeps, out of `size` nodes. -/
def filterFrom (predicate : Context → Except XPathError Value) (size : Nat) :
    Nat → List NodeRef → Except XPathError (List NodeRef)
  | _, [] => .ok []
  | position, node :: rest => do
    let value ← predicate ⟨node, position, size⟩
    let kept ← filterFrom predicate size (position + 1) rest
    return if keeps value position then node :: kept else kept

/-- The nodes that a predicate keeps. -/
def filterNodes (predicate : Context → Except XPathError Value) (nodes : List NodeRef) :
    Except XPathError (List NodeRef) :=
  filterFrom predicate nodes.length 1 nodes

/-- The candidates of a step from one node: the nodes on the axis that satisfy the test. -/
def candidates (env : Environment) (axis : Axis) (test : ResolvedTest) (node : NodeRef) :
    Except XPathError (List NodeRef) :=
  if axis = .namespace_ then .error .namespaceAxis
  else .ok ((axisNodes env.nodes axis node).filter (test.accepts env.nodes axis ·))

/-- The set of what `select` yields for all the nodes. -/
def unionOver (select : NodeRef → Except XPathError (List NodeRef)) (nodes : List NodeRef) :
    Except XPathError (List NodeRef) := do
  return NodeRef.canonical (← nodes.mapM select).flatten

mutual

/-- The value of an expression. -/
def Expr.eval (env : Environment) (context : Context) : Expr → Except XPathError Value
  | .number value => .ok (.number value)
  | .literal text => .ok (.string text)
  | .negate operand => do
    let value ← operand.eval env context
    return .number (-(value.toNumber env.nodes))
  | .binary op left right => do
    let l ← left.eval env context
    if op = .or_ && l.toBoolean then return .boolean true
    if op = .and_ && !l.toBoolean then return .boolean false
    let r ← right.eval env context
    if op = .or_ || op = .and_ then return .boolean r.toBoolean
    else if op.isArithmetic then
      return .number (calculate op (l.toNumber env.nodes) (r.toNumber env.nodes))
    else return .boolean (compareValues env.nodes op l r)
  | .union left right => do
    let l ← (← left.eval env context).toNodes
    let r ← (← right.eval env context).toNodes
    return .nodeSet (NodeRef.canonical (l ++ r))
  | .call name arguments => do
    let f ← Function.select name arguments.length
    let values ← Expr.evalAll env context arguments
    f.apply env.nodes context values
  | .path absolute steps => do
    let start := if absolute then NodeRef.node 0 else context.node
    return .nodeSet (← Step.evalAll env steps [start])
  | .filter primary predicates steps => do
    let nodes ← (← primary.eval env context).toNodes
    let kept ← Expr.filterAll env predicates nodes
    return .nodeSet (← Step.evalAll env steps kept)

/-- The values of arguments, from the first on. -/
def Expr.evalAll (env : Environment) (context : Context) :
    List Expr → Except XPathError (List Value)
  | [] => .ok []
  | e :: rest => do
    let value ← e.eval env context
    return value :: (← Expr.evalAll env context rest)

/-- The nodes that all predicates keep, each applied to what the ones before it have kept. -/
def Expr.filterAll (env : Environment) : List Expr → List NodeRef → Except XPathError (List NodeRef)
  | [], nodes => .ok nodes
  | predicate :: rest, nodes => do
    let kept ← filterNodes (fun context => predicate.eval env context) nodes
    Expr.filterAll env rest kept

/-- The nodes that a step leads to from a set of nodes. -/
def Step.eval (env : Environment) : Step → List NodeRef → Except XPathError (List NodeRef)
  | .mk axis test predicates, nodes => do
    let test ← test.resolve env.bindings
    unionOver (fun node => do
      Expr.filterAll env predicates (← candidates env axis test node)) nodes

/-- The nodes that a path leads to from a set of nodes. -/
def Step.evalAll (env : Environment) : List Step → List NodeRef → Except XPathError (List NodeRef)
  | [], nodes => .ok nodes
  | step :: rest, nodes => do Step.evalAll env rest (← step.eval env nodes)

end

/-! ### Whole expressions -/

/-- The value of an expression with the node `id` of a document as context. -/
def Expr.evaluate (e : Expr) (d : Document) (id : Nat) (bindings : Bindings) :
    Except XPathError Value :=
  e.eval ⟨d.nodes, bindings⟩ ⟨.node id, 1, 1⟩

/-- The nodes that the expression written as `source` selects. -/
def select (source : String) (e : Expr) (d : Document) (id : Nat) (bindings : Bindings) :
    Except XPathError (List NodeRef) := do
  match ← e.evaluate d id bindings with
  | .nodeSet nodes => return nodes
  | value => throw (.type (.result source value.kind))

end Transclusion.XPath
