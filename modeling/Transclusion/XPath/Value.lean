import Transclusion.Number.Decimal
import Transclusion.Number.Shortest
import Transclusion.Text.Blank
import Transclusion.XPath.Error
import Transclusion.XPath.NodeRef
/-!
# Values

An expression has one of four types of values.  Every value counts as a boolean, a number and a
text: a set of nodes counts as the string value of its first node, and a text is the number that
it writes, or NaN.
-/

namespace Transclusion.XPath

inductive Value where
  /-- Nodes in document order, each once. -/
  | nodeSet (nodes : List NodeRef)
  | boolean (value : Bool)
  | number (value : Float)
  | string (text : String)
deriving Repr, Inhabited

/-- The number that a text writes: digits with at most one point, perhaps after a minus sign, and
white space around. -/
def numberOfText (s : String) : Float :=
  let cs := Text.dropEndWhile Text.isMarkupSpace (s.toList.dropWhile Text.isMarkupSpace)
  let read := match cs with
    | '-' :: digits => (Number.readDecimal? digits).map (-·)
    | digits => Number.readDecimal? digits
  read.getD (0.0 / 0.0)

namespace Value

def kind : Value → ValueKind
  | nodeSet _ => .nodeSet
  | boolean _ => .boolean
  | number _ => .number
  | string _ => .string

def toBoolean : Value → Bool
  | nodeSet nodes => !nodes.isEmpty
  | boolean value => value
  | number value => value != 0.0 && !value.isNaN
  | string text => text ≠ ""

def toText (ns : NodeList) : Value → String
  | nodeSet nodes =>
    match nodes with
    | first :: _ => first.stringValue ns
    | [] => ""
  | boolean value => if value then "true" else "false"
  | number value => Number.text value
  | string text => text

def toNumber (ns : NodeList) : Value → Float
  | boolean value => if value then 1.0 else 0.0
  | number value => value
  | value => numberOfText (value.toText ns)

/-- The nodes of a value that is a set of nodes. -/
def toNodes : Value → Except XPathError (List NodeRef)
  | nodeSet nodes => .ok nodes
  | value => .error (.type (.operand value.kind))

end Value

end Transclusion.XPath
