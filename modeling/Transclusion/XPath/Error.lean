/-!
# Errors in expressions

Why an expression cannot be read or has no value.  Errors are causes; `XPathError.message` puts
them into words.
-/

namespace Transclusion

namespace XPath

/-- The four types of values. -/
inductive ValueKind where
  | nodeSet
  | boolean
  | number
  | string
deriving DecidableEq, Repr

def ValueKind.name : ValueKind → String
  | nodeSet => "node-set"
  | boolean => "boolean"
  | number => "number"
  | string => "string"

/-- Punctuation that has to come next. -/
inductive Punctuation where
  | openParen
  | closeParen
  | commaOrCloseParen
  | closeBracket
  | doubleColon
deriving DecidableEq, Repr

def Punctuation.text : Punctuation → String
  | openParen => "'('"
  | closeParen => "')'"
  | commaOrCloseParen => "',' or ')'"
  | closeBracket => "']'"
  | doubleColon => "'::'"

/-- Why a text is no expression. -/
inductive ReadFault where
  | openLiteral
  | expectedVariableName
  | unexpectedCharacter (c : Char)
  | expectedOperator (found : String)
  | expectedLocalName
  | expected (what : Punctuation)
  | expectedExpression
  | expectedNodeTest
  | unknownAxis (name : String)
  | trailingInput
deriving DecidableEq, Repr

def ReadFault.message : ReadFault → String
  | openLiteral => "unterminated string literal"
  | expectedVariableName => "expected a variable name after '$'"
  | unexpectedCharacter c => "unexpected character '" ++ c.toString ++ "'"
  | expectedOperator found => "expected an operator, found '" ++ found ++ "'"
  | expectedLocalName => "expected a local name after ':'"
  | expected what => "expected " ++ what.text
  | expectedExpression => "expected an expression"
  | expectedNodeTest => "expected a node test"
  | unknownAxis name => "unknown axis '" ++ name ++ "'"
  | trailingInput => "unexpected trailing input"

/-- A value of the wrong type. -/
inductive TypeFault where
  /-- Where an operand or argument has to be a set of nodes. -/
  | operand (found : ValueKind)
  /-- Where the value of a whole expression has to be one. -/
  | result (source : String) (found : ValueKind)
deriving DecidableEq, Repr

def TypeFault.message : TypeFault → String
  | operand found => "expected a node-set, found a " ++ found.name
  | result source found => "'" ++ source ++ "' returned a " ++ found.name ++ ", not a node-set"

end XPath

open XPath in
/-- Why an expression has no value. -/
inductive XPathError where
  /-- It cannot be read; positions count characters. -/
  | malformed (fault : ReadFault) (position : Nat)
  | unboundPrefix (name : String)
  | unknownFunction (name : String)
  | arity (function expected : String) (found : Nat)
  | type (fault : TypeFault)
  /-- Variables are not supported. -/
  | variable_ (name : String)
  /-- The namespace axis is not supported. -/
  | namespaceAxis
deriving DecidableEq, Repr

def XPathError.message : XPathError → String
  | malformed fault position =>
    "XPath syntax error at position " ++ toString position ++ ": " ++ fault.message
  | unboundPrefix name => "XPath prefix '" ++ name ++ "' is not bound"
  | unknownFunction name => "Unknown XPath function '" ++ name ++ "'"
  | arity function expected found =>
    "XPath function '" ++ function ++ "' expects " ++ expected ++ " argument(s), got "
      ++ toString found
  | type fault => "XPath type error: " ++ fault.message
  | variable_ name => "Unsupported XPath feature: variable reference $" ++ name
  | namespaceAxis => "Unsupported XPath feature: the namespace axis"

end Transclusion
