/-!
# Expressions

The structure of an expression.  Location paths consist of steps, each with an axis, a test that
selects among the nodes on it, and predicates.  Abbreviations have been written out: `//` is a
step on the axis `descendant-or-self`, `.` and `..` are steps on `self` and `parent`, and `@`
stands for the axis `attribute`.
-/

namespace Transclusion.XPath

inductive BinaryOp where
  | or_
  | and_
  | equal
  | notEqual
  | less
  | lessOrEqual
  | greater
  | greaterOrEqual
  | add
  | subtract
  | multiply
  | divide
  | modulo
deriving DecidableEq, Repr

inductive Axis where
  | ancestor
  | ancestorOrSelf
  | attribute_
  | child
  | descendant
  | descendantOrSelf
  | following
  | followingSibling
  | namespace_
  | parent
  | preceding
  | precedingSibling
  | self
deriving DecidableEq, Repr

/-- The axis with a name. -/
def Axis.ofName? : String → Option Axis
  | "ancestor" => some ancestor
  | "ancestor-or-self" => some ancestorOrSelf
  | "attribute" => some attribute_
  | "child" => some child
  | "descendant" => some descendant
  | "descendant-or-self" => some descendantOrSelf
  | "following" => some following
  | "following-sibling" => some followingSibling
  | "namespace" => some namespace_
  | "parent" => some parent
  | "preceding" => some preceding
  | "preceding-sibling" => some precedingSibling
  | "self" => some self
  | _ => none

/-- Whether the axis lists its nodes backwards, the nearest first. -/
def Axis.isReverse : Axis → Bool
  | ancestor | ancestorOrSelf | preceding | precedingSibling => true
  | _ => false

/-- A test of the nodes on an axis. -/
inductive NodeTest where
  /-- `*` -/
  | anyName
  /-- `prefix:*` -/
  | inPrefix (nsPrefix : String)
  /-- `name` or `prefix:name` -/
  | named (nsPrefix : Option String) (localName : String)
  | node
  | text
  | comment
  /-- A processing instruction, with this target if one is given. -/
  | instruction (target : Option String)
deriving DecidableEq, Repr

mutual

inductive Expr where
  | number (value : Float)
  | literal (text : String)
  | binary (op : BinaryOp) (left right : Expr)
  | negate (operand : Expr)
  | union (left right : Expr)
  | call (function : String) (arguments : List Expr)
  /-- A location path, from the root if it is absolute and else from the context node. -/
  | path (absolute : Bool) (steps : List Step)
  /-- The nodes of `primary` that satisfy the predicates, and the path on from them. -/
  | filter (primary : Expr) (predicates : List Expr) (steps : List Step)

inductive Step where
  | mk (axis : Axis) (test : NodeTest) (predicates : List Expr)

end

/-- A step without predicates. -/
def Step.plain (axis : Axis) (test : NodeTest) : Step := .mk axis test []

/-- What `//` stands for between two steps. -/
def Step.anyDepth : Step := .plain .descendantOrSelf .node

end Transclusion.XPath
