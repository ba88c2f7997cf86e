import Transclusion.Text.Cut
import Transclusion.XPath.Expr
import Transclusion.XPath.Token
/-!
# Reading expressions

The grammar of expressions over tokens, one function for each kind of expression, from the loosest
binding to the tightest:

* `or`, `and`, equality, relation, sum and product, which associate to the left (`readBinary` with
  the levels 6 to 1),
* negation, union and path (`readUnary`, `readUnion`, `readPath`),
* primary expressions with their predicates, and location paths.

Each function reads from the front of the tokens and returns what it leaves.  The first argument
bounds the depth of the calls; `depthFor` is more than any sequence of tokens needs, since a call
either reads a token or goes to a tighter kind of expression.
-/

namespace Transclusion.XPath

/-- What was read, and the tokens left. -/
abbrev WithRest (α : Type) := α × List PlacedToken

/-- The operators of each level of binary expressions. -/
def operatorAt? (level : Nat) (token : Token) : Option BinaryOp :=
  match level, token with
  | 6, .or_ => some .or_
  | 5, .and_ => some .and_
  | 4, .equal => some .equal
  | 4, .notEqual => some .notEqual
  | 3, .less => some .less
  | 3, .lessOrEqual => some .lessOrEqual
  | 3, .greater => some .greater
  | 3, .greaterOrEqual => some .greaterOrEqual
  | 2, .plus => some .add
  | 2, .minus => some .subtract
  | 1, .multiply => some .multiply
  | 1, .div => some .divide
  | 1, .mod => some .modulo
  | _, _ => none

/-- The level of the loosest operators. -/
def topLevel : Nat := 6

/-- The test of a name test's name. -/
def testOfName (name : String) : NodeTest :=
  if name = "*" then .anyName
  else match Text.cutAt ':' name.toList with
    | some (nsPrefix, ['*']) => .inPrefix (String.ofList nsPrefix)
    | some (nsPrefix, localName) => .named (some (String.ofList nsPrefix)) (String.ofList localName)
    | none => .named none name

/-- The test for all nodes of a type. -/
def NodeType.test : NodeType → NodeTest
  | comment => .comment
  | text => .text
  | instruction => .instruction none
  | node => .node

/-- Whether a token is the mark that has to come next. -/
def Punctuation.isMark : Punctuation → Token → Bool
  | openParen, .openParen | closeParen, .closeParen | commaOrCloseParen, .closeParen
  | closeBracket, .closeBracket | doubleColon, .doubleColon => true
  | _, _ => false

/-- Whether a token starts a primary expression. -/
def startsPrimary : Token → Bool
  | .variable_ _ | .openParen | .literal _ | .number _ | .functionName _ => true
  | _ => false

/-- Whether a token starts a step. -/
def startsStep : Token → Bool
  | .dot | .doubleDot | .at_ | .axisName _ | .nameTest _ | .nodeType _ => true
  | _ => false

section

/-! The number of characters of the text is the position of a fault at its end. -/

variable (stop : Nat)

/-- The position of the next token. -/
def position (tokens : List PlacedToken) : Nat :=
  match tokens with
  | t :: _ => t.offset
  | [] => stop

/-- A fault at the next token. -/
def faultAt {α : Type} (tokens : List PlacedToken) (fault : ReadFault) :
    Except XPathError (WithRest α) :=
  .error (.malformed fault (position stop tokens))

/-- Reads a punctuation mark. -/
def expect (what : Punctuation) (tokens : List PlacedToken) : Except XPathError (WithRest Unit) :=
  match tokens with
  | t :: rest =>
    if what.isMark t.token then .ok ((), rest) else faultAt stop tokens (.expected what)
  | [] => faultAt stop tokens (.expected what)

/-- The axis of a step, which is `child` if none is given. -/
def readAxis (tokens : List PlacedToken) : Except XPathError (WithRest Axis) :=
  match tokens with
  | ⟨.at_, _⟩ :: rest => .ok (.attribute_, rest)
  | ⟨.axisName name, offset⟩ :: rest =>
    match Axis.ofName? name with
    | none => .error (.malformed (.unknownAxis name) offset)
    | some axis => do
      let ((), rest) ← expect stop .doubleColon rest
      return (axis, rest)
  | _ => .ok (.child, tokens)

/-- The test of a node type, between its parentheses. -/
def readTypeTest (type : NodeType) (tokens : List PlacedToken) : NodeTest × List PlacedToken :=
  match type, tokens with
  | .instruction, ⟨.literal target, _⟩ :: rest => (.instruction (some target), rest)
  | _, _ => (type.test, tokens)

def readNodeTest (tokens : List PlacedToken) : Except XPathError (WithRest NodeTest) :=
  match tokens with
  | ⟨.nameTest name, _⟩ :: rest => .ok (testOfName name, rest)
  | ⟨.nodeType type, _⟩ :: rest => do
    let ((), rest) ← expect stop .openParen rest
    let (test, rest) := readTypeTest type rest
    let ((), rest) ← expect stop .closeParen rest
    return (test, rest)
  | _ => faultAt stop tokens .expectedNodeTest

mutual

/-- A binary expression with operators of at most this level. -/
def readBinary : Nat → Nat → List PlacedToken → Except XPathError (WithRest Expr)
  | 0, _, tokens => faultAt stop tokens .expectedExpression
  | depth + 1, 0, tokens => readUnary depth tokens
  | depth + 1, level + 1, tokens => do
    let (left, rest) ← readBinary depth level tokens
    readOperators depth level left rest

/-- The operators of the level above `level`, and their right operands, after the operand `left`. -/
def readOperators : Nat → Nat → Expr → List PlacedToken → Except XPathError (WithRest Expr)
  | 0, _, _, tokens => faultAt stop tokens .expectedExpression
  | depth + 1, level, left, tokens =>
    match tokens with
    | [] => .ok (left, [])
    | t :: rest =>
      match operatorAt? (level + 1) t.token with
      | none => .ok (left, tokens)
      | some op => do
        let (right, rest) ← readBinary depth level rest
        readOperators depth level (.binary op left right) rest

/-- A union with any number of minus signs before it. -/
def readUnary : Nat → List PlacedToken → Except XPathError (WithRest Expr)
  | 0, tokens => faultAt stop tokens .expectedExpression
  | depth + 1, tokens =>
    match tokens with
    | ⟨.minus, _⟩ :: rest => do
      let (operand, rest) ← readUnary depth rest
      return (.negate operand, rest)
    | _ => do
      let (left, rest) ← readPath depth tokens
      readUnion depth left rest

/-- The further operands of a union after the operand `left`. -/
def readUnion : Nat → Expr → List PlacedToken → Except XPathError (WithRest Expr)
  | 0, _, tokens => faultAt stop tokens .expectedExpression
  | depth + 1, left, tokens =>
    match tokens with
    | ⟨.pipe, _⟩ :: rest => do
      let (right, rest) ← readPath depth rest
      readUnion depth (.union left right) rest
    | _ => .ok (left, tokens)

/-- A primary expression with predicates and steps, or a location path. -/
def readPath : Nat → List PlacedToken → Except XPathError (WithRest Expr)
  | 0, tokens => faultAt stop tokens .expectedExpression
  | depth + 1, tokens =>
    match tokens with
    | ⟨.slash, _⟩ :: rest =>
      match rest with
      | t :: _ =>
        if startsStep t.token then do
          let (steps, rest) ← readSteps depth rest
          return (.path true steps, rest)
        else .ok (.path true [], rest)
      | [] => .ok (.path true [], rest)
    | ⟨.doubleSlash, _⟩ :: rest => do
      let (steps, rest) ← readSteps depth rest
      return (.path true (.anyDepth :: steps), rest)
    | t :: _ =>
      if startsPrimary t.token then do
        let (primary, rest) ← readPrimary depth tokens
        let (predicates, rest) ← readPredicates depth rest
        let (steps, rest) ← readMoreSteps depth rest
        if predicates.isEmpty && steps.isEmpty then return (primary, rest)
        else return (.filter primary predicates steps, rest)
      else do
        let (steps, rest) ← readSteps depth tokens
        return (.path false steps, rest)
    | [] => do
      let (steps, rest) ← readSteps depth tokens
      return (.path false steps, rest)

/-- A literal, a number, a function call, or an expression in parentheses. -/
def readPrimary : Nat → List PlacedToken → Except XPathError (WithRest Expr)
  | 0, tokens => faultAt stop tokens .expectedExpression
  | depth + 1, tokens =>
    match tokens with
    | ⟨.variable_ name, _⟩ :: _ => .error (.variable_ name)
    | ⟨.openParen, _⟩ :: rest => do
      let (inner, rest) ← readBinary depth topLevel rest
      let ((), rest) ← expect stop .closeParen rest
      return (inner, rest)
    | ⟨.literal text, _⟩ :: rest => .ok (.literal text, rest)
    | ⟨.number value, _⟩ :: rest => .ok (.number value, rest)
    | ⟨.functionName name, _⟩ :: rest => do
      let ((), rest) ← expect stop .openParen rest
      match rest with
      | ⟨.closeParen, _⟩ :: rest => return (.call name [], rest)
      | _ =>
        let (arguments, rest) ← readArguments depth rest
        return (.call name arguments, rest)
    | _ => faultAt stop tokens .expectedExpression

/-- One or more arguments up to the closing parenthesis. -/
def readArguments : Nat → List PlacedToken → Except XPathError (WithRest (List Expr))
  | 0, tokens => faultAt stop tokens .expectedExpression
  | depth + 1, tokens => do
    let (first, rest) ← readBinary depth topLevel tokens
    match rest with
    | ⟨.comma, _⟩ :: rest =>
      let (others, rest) ← readArguments depth rest
      return (first :: others, rest)
    | _ =>
      let ((), rest) ← expect stop .commaOrCloseParen rest
      return ([first], rest)

/-- Any number of predicates in brackets. -/
def readPredicates : Nat → List PlacedToken → Except XPathError (WithRest (List Expr))
  | 0, tokens => faultAt stop tokens .expectedExpression
  | depth + 1, tokens =>
    match tokens with
    | ⟨.openBracket, _⟩ :: rest => do
      let (first, rest) ← readBinary depth topLevel rest
      let ((), rest) ← expect stop .closeBracket rest
      let (others, rest) ← readPredicates depth rest
      return (first :: others, rest)
    | _ => .ok ([], tokens)

/-- One or more steps with slashes between them. -/
def readSteps : Nat → List PlacedToken → Except XPathError (WithRest (List Step))
  | 0, tokens => faultAt stop tokens .expectedExpression
  | depth + 1, tokens => do
    let (step, rest) ← readStep depth tokens
    let (others, rest) ← readMoreSteps depth rest
    return (step :: others, rest)

/-- Any number of steps, each after one slash or two. -/
def readMoreSteps : Nat → List PlacedToken → Except XPathError (WithRest (List Step))
  | 0, tokens => faultAt stop tokens .expectedExpression
  | depth + 1, tokens =>
    match tokens with
    | ⟨.slash, _⟩ :: rest => readSteps depth rest
    | ⟨.doubleSlash, _⟩ :: rest => do
      let (steps, rest) ← readSteps depth rest
      return (.anyDepth :: steps, rest)
    | _ => .ok ([], tokens)

/-- One step. -/
def readStep : Nat → List PlacedToken → Except XPathError (WithRest Step)
  | 0, tokens => faultAt stop tokens .expectedExpression
  | depth + 1, tokens =>
    match tokens with
    | ⟨.dot, _⟩ :: rest => .ok (.plain .self .node, rest)
    | ⟨.doubleDot, _⟩ :: rest => .ok (.plain .parent .node, rest)
    | _ => do
      let (axis, rest) ← readAxis stop tokens
      let (test, rest) ← readNodeTest stop rest
      let (predicates, rest) ← readPredicates depth rest
      return (.mk axis test predicates, rest)

end

/-- A bound on the depth of calls for this many tokens. -/
def depthFor (tokens : Nat) : Nat := 16 * (tokens + 1)

/-- The expression that the tokens make up. -/
def exprOfTokens (tokens : List PlacedToken) : Except XPathError Expr := do
  let (e, rest) ← readBinary stop (depthFor tokens.length) topLevel tokens
  match rest with
  | [] => return e
  | t :: _ => throw (.malformed .trailingInput t.offset)

end

/-- Reads an expression. -/
def Expr.read (source : String) : Except XPathError Expr := do
  let tokens ← tokenize source.toList
  exprOfTokens source.length tokens

end Transclusion.XPath
