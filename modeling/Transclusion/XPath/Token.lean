import Transclusion.Number.Decimal
import Transclusion.Text.Blank
import Transclusion.Text.Word
import Transclusion.XPath.Error
/-!
# Tokens

An expression as a sequence of tokens, each with the number of characters before it.  What a
character means can depend on the token before it: where an operator can stand, `*` multiplies
and a name is an operator; elsewhere `*` and names are tests of nodes, or the names of functions,
node types and axes, which the next character tells.

`tokenize` reads the tokens of a text.  White space between them is skipped.
-/

namespace Transclusion.XPath

open Transclusion.Text

/-- The types of nodes that a test can ask for. -/
inductive NodeType where
  | comment
  | text
  | instruction
  | node
deriving DecidableEq, Repr, Inhabited

namespace NodeType

def name : NodeType → String
  | comment => "comment"
  | text => "text"
  | instruction => "processing-instruction"
  | node => "node"

/-- The node type with a name. -/
def ofName? (name : String) : Option NodeType :=
  [comment, text, instruction, node].find? (·.name = name)

/-- A node type is written as its name. -/
instance : Coe NodeType String := ⟨name⟩

end NodeType

inductive Token where
  | openParen
  | closeParen
  | openBracket
  | closeBracket
  | dot
  | doubleDot
  | at_
  | comma
  | doubleColon
  | slash
  | doubleSlash
  | pipe
  | plus
  | minus
  | multiply
  | equal
  | notEqual
  | less
  | lessOrEqual
  | greater
  | greaterOrEqual
  | and_
  | or_
  | div
  | mod
  | number (value : Float)
  | literal (text : String)
  | variable_ (name : String)
  /-- A name, `*`, or a prefix with `:*`. -/
  | nameTest (name : String)
  | functionName (name : String)
  | nodeType (type : NodeType)
  | axisName (name : String)
deriving Repr, Inhabited

/-- A token and the number of characters before it. -/
structure PlacedToken where
  token : Token
  offset : Nat
deriving Repr, Inhabited

namespace Token

def isOperator : Token → Bool
  | and_ | or_ | mod | div | multiply | slash | doubleSlash | pipe | plus | minus | equal
  | notEqual | less | lessOrEqual | greater | greaterOrEqual => true
  | _ => false

/-- Whether an operator can follow the token: it can end an operand. -/
def endsOperand : Token → Bool
  | at_ | doubleColon | openParen | openBracket | comma => false
  | token => !token.isOperator

/-- The token of a character that is one in every place. -/
def ofChar? (c : Char) : Option Token :=
  match c with
  | '(' => some openParen
  | ')' => some closeParen
  | '[' => some openBracket
  | ']' => some closeBracket
  | '@' => some at_
  | ',' => some comma
  | '|' => some pipe
  | '+' => some plus
  | '-' => some minus
  | '=' => some equal
  | _ => none

/-- The operator with a name. -/
def operatorNamed? (name : String) : Option Token :=
  match name with
  | "and" => some and_
  | "or" => some or_
  | "div" => some div
  | "mod" => some mod
  | _ => none

end Token

/-! ### Names -/

def isNameStart (c : Char) : Bool := isLetter c || c = '_'

def isNameChar (c : Char) : Bool :=
  isLetter c || isNumeral c || c = '_' || c = '-' || c = '.' || c = '·'

/-- The name at the start of a text, and what follows it. -/
def readName? (cs : List Char) : Option (List Char × List Char) :=
  match cs with
  | c :: _ =>
    if isNameStart c then some (cs.takeWhile isNameChar, cs.dropWhile isNameChar) else none
  | [] => none

/-- The name at the start of a text, with a second one after a colon if there is one. -/
def readQualifiedName? (cs : List Char) : Option (List Char × List Char) :=
  match readName? cs with
  | some (name, ':' :: rest) =>
    match readName? rest with
    | some (localName, rest) => some (name ++ ':' :: localName, rest)
    | none => some (name, ':' :: rest)
  | found => found

/-- The token of a name where no operator can stand, by what follows it. Before a parenthesis the
names of the node types are no names of functions. -/
def tokenOfName (name : List Char) (rest : List Char) : Token :=
  let written := String.ofList name
  match rest.dropWhile isMarkupSpace with
  | '(' :: _ =>
    match NodeType.ofName? written with
    | some type => .nodeType type
    | none => .functionName written
  | ':' :: ':' :: _ => .axisName written
  | _ => .nameTest written

/-! ### Reading tokens -/

/-- A fault, and the number of characters from the start of the token to it. -/
structure TokenFault where
  fault : ReadFault
  distance : Nat

/-- Reads a number: digits with at most one point. -/
def readNumber (cs : List Char) : Token × List Char :=
  let whole := cs.takeWhile Char.isDigit
  match cs.dropWhile Char.isDigit with
  | '.' :: rest =>
    (.number (Number.ofDecimal whole (rest.takeWhile Char.isDigit)), rest.dropWhile Char.isDigit)
  | rest => (.number (Number.ofDecimal whole []), rest)

/-- Reads a name as an operator. -/
def readOperatorName (name rest : List Char) : Except TokenFault (Token × List Char) :=
  match Token.operatorNamed? (String.ofList name) with
  | some token => .ok (token, rest)
  | none => .error ⟨.expectedOperator (String.ofList name), 0⟩

/-- Reads the rest of a name test, function name, node type or axis name. -/
def readNameToken (name rest : List Char) : Except TokenFault (Token × List Char) :=
  match rest with
  | ':' :: ':' :: _ => .ok (tokenOfName name rest, rest)
  | ':' :: '*' :: rest => .ok (.nameTest (String.ofList (name ++ [':', '*'])), rest)
  | ':' :: rest =>
    match readName? rest with
    | some (localName, rest) =>
      let name := name ++ ':' :: localName
      .ok (tokenOfName name rest, rest)
    | none => .error ⟨.expectedLocalName, name.length + 1⟩
  | _ => .ok (tokenOfName name rest, rest)

/-- Reads the token that starts with the character `c` and goes on with `rest`. -/
def readToken (operatorAllowed : Bool) (c : Char) (rest : List Char) :
    Except TokenFault (Token × List Char) :=
  match Token.ofChar? c with
  | some token => .ok (token, rest)
  | none =>
    match c, rest with
    | '/', '/' :: rest => .ok (.doubleSlash, rest)
    | '/', rest => .ok (.slash, rest)
    | ':', ':' :: rest => .ok (.doubleColon, rest)
    | '!', '=' :: rest => .ok (.notEqual, rest)
    | '<', '=' :: rest => .ok (.lessOrEqual, rest)
    | '<', rest => .ok (.less, rest)
    | '>', '=' :: rest => .ok (.greaterOrEqual, rest)
    | '>', rest => .ok (.greater, rest)
    | '.', '.' :: rest => .ok (.doubleDot, rest)
    | '$', rest =>
      match readQualifiedName? rest with
      | some (name, rest) => .ok (.variable_ (String.ofList name), rest)
      | none => .error ⟨.expectedVariableName, 0⟩
    | '*', rest => .ok (if operatorAllowed then .multiply else .nameTest "*", rest)
    | c, rest =>
      if c = '.' then
        match rest with
        | d :: _ => if d.isDigit then .ok (readNumber (c :: rest)) else .ok (.dot, rest)
        | [] => .ok (.dot, rest)
      else if c = '\x22' || c = '\x27' then
        match rest.dropWhile (· ≠ c) with
        | _ :: after => .ok (.literal (String.ofList (rest.takeWhile (· ≠ c))), after)
        | [] => .error ⟨.openLiteral, 0⟩
      else if c.isDigit then .ok (readNumber (c :: rest))
      else
        match readName? (c :: rest) with
        | some (name, rest) =>
          if operatorAllowed then readOperatorName name rest else readNameToken name rest
        | none => .error ⟨.unexpectedCharacter c, 0⟩

/-- Reads at most `count` tokens from the offset `offset` on. -/
def tokenizeUpTo : Nat → Bool → Nat → List Char → Except XPathError (List PlacedToken)
  | 0, _, _, _ => .ok []
  | _ + 1, _, _, [] => .ok []
  | count + 1, operatorAllowed, offset, c :: rest =>
    if isMarkupSpace c then tokenizeUpTo count operatorAllowed (offset + 1) rest
    else
      match readToken operatorAllowed c rest with
      | .error e => .error (.malformed e.fault (offset + e.distance))
      | .ok (token, after) => do
        let next := offset + (1 + rest.length - after.length)
        let later ← tokenizeUpTo count token.endsOperand next after
        return ⟨token, offset⟩ :: later

/-- The tokens of an expression. There are no more of them than characters. -/
def tokenize (source : List Char) : Except XPathError (List PlacedToken) :=
  tokenizeUpTo source.length false 0 source

end Transclusion.XPath
