import Transclusion.XPath.Expr
import Transclusion.XPath.Error
import Transclusion.XPath.NodeRef
/-!
# Axes and node tests

The nodes on each axis from a node, in the order of the axis: document order, or backwards for the
axes that list the nearest node first.  Then the tests that a step makes of these nodes, once their
prefixes have been replaced by namespaces.
-/

namespace Transclusion.XPath

open NodeRef (node attribute_)

/-- The siblings of a node with itself. -/
def siblings (ns : NodeList) (id : Nat) : List Nat :=
  match ns.parent? id with
  | some p => ns.children p
  | none => []

/-- The tree nodes on the axis from the tree node `id`. -/
def nodesFrom (ns : NodeList) (id : Nat) : Axis → List Nat
  | .self => [id]
  | .child => ns.children id
  | .descendant => ns.descendants id
  | .descendantOrSelf => id :: ns.descendants id
  | .parent => (ns.parent? id).toList
  | .ancestor => ns.ancestors id
  | .ancestorOrSelf => id :: ns.ancestors id
  | .followingSibling => (siblings ns id).filter (id < ·)
  | .precedingSibling => ((siblings ns id).filter (· < id)).reverse
  | .following => List.range' (id + ns.extent id) (ns.size - (id + ns.extent id))
  | .preceding =>
    let inside := ns.ancestors id
    ((List.range id).filter (!inside.contains ·)).reverse
  | .attribute_ | .namespace_ => []

/-- The tree nodes on the axis from an attribute of the element `owner`. -/
def nodesFromAttribute (ns : NodeList) (owner : Nat) : Axis → List Nat
  | .parent => [owner]
  | .ancestor | .ancestorOrSelf => owner :: ns.ancestors owner
  | .following => List.range' (owner + 1) (ns.size - (owner + 1))
  | .preceding => nodesFrom ns owner .preceding
  | _ => []

/-- The nodes on an axis from a node, in the order of the axis. -/
def axisNodes (ns : NodeList) (axis : Axis) : NodeRef → List NodeRef
  | .node id =>
    match axis with
    | .attribute_ =>
      match ns.element? id with
      | some e => (List.range e.attributes.size).map (attribute_ id)
      | none => []
    | _ => (nodesFrom ns id axis).map node
  | .attribute_ owner index =>
    let itself := match axis with
      | .self | .descendantOrSelf | .ancestorOrSelf => [attribute_ owner index]
      | _ => []
    itself ++ (nodesFromAttribute ns owner axis).map node

/-- A node test whose prefix has been replaced by a namespace. -/
inductive ResolvedTest where
  | anyName
  | inNamespace (uri : String)
  | named (uri : Option String) (localName : String)
  | node
  | text
  | comment
  | instruction (target : Option String)
deriving DecidableEq, Repr

/-- The namespace of a prefix; `xml` is always bound. -/
def namespaceOf (bindings : Bindings) (nsPrefix : String) : Except XPathError String :=
  if nsPrefix = "xml" then .ok xmlNamespace
  else match bindings.get? nsPrefix with
    | some uri => .ok uri
    | none => .error (.unboundPrefix nsPrefix)

def NodeTest.resolve (bindings : Bindings) : NodeTest → Except XPathError ResolvedTest
  | anyName => .ok .anyName
  | inPrefix nsPrefix => do return .inNamespace (← namespaceOf bindings nsPrefix)
  | named none localName => .ok (.named none localName)
  | named (some nsPrefix) localName => do
    return .named (some (← namespaceOf bindings nsPrefix)) localName
  | node => .ok .node
  | text => .ok .text
  | comment => .ok .comment
  | instruction target => .ok (.instruction target)

/-- Whether a node is of the kind that names on the axis select: attributes on the attribute axis,
elements on all others. -/
def isPrincipal (ns : NodeList) (axis : Axis) : NodeRef → Bool
  | .attribute_ _ _ => axis = .attribute_
  | .node id => axis ≠ .attribute_ && ns.isElement id

/-- Whether a node on the axis satisfies the test. -/
def ResolvedTest.accepts (ns : NodeList) (axis : Axis) (ref : NodeRef) : ResolvedTest → Bool
  | anyName => isPrincipal ns axis ref
  | inNamespace uri =>
    isPrincipal ns axis ref && ((ref.name? ns).map (·.isIn uri)).getD false
  | named uri localName =>
    isPrincipal ns axis ref && ((ref.name? ns).map (·.isNamed uri localName)).getD false
  | node => true
  | text =>
    match ref with
    | .node id => match ns.leaf? id with
      | some (.text _) => true
      | _ => false
    | _ => false
  | comment =>
    match ref with
    | .node id => match ns.leaf? id with
      | some (.comment _) => true
      | _ => false
    | _ => false
  | instruction wanted =>
    match ref with
    | .node id => match ns.leaf? id with
      | some (.instruction target _) => wanted = none || wanted = some target
      | _ => false
    | _ => false

end Transclusion.XPath
