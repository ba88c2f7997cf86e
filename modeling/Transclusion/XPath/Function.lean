import Transclusion.Text.Cut
import Transclusion.Text.LowerCase
import Transclusion.XPath.Value
/-!
# Functions

The library of functions.  Each has a name and takes a number of arguments within limits
(`Function.arity`), which is checked before the arguments are evaluated.  `Function.apply` gives
the value of a call from the values of the arguments; some functions take the context node in the
place of an argument that is left out.
-/

namespace Transclusion.XPath

open Transclusion.Text

/-- The node that an expression is evaluated for, and its place among the nodes of its step. -/
structure Context where
  node : NodeRef
  position : Nat
  size : Nat
deriving DecidableEq, Repr

inductive Function where
  | last
  | position
  | count
  | id
  | localName
  | namespaceUri
  | name
  | string
  | concat
  | startsWith
  | contains
  | substringBefore
  | substringAfter
  | substring
  | stringLength
  | normalizeSpace
  | translate
  | boolean
  | not
  | true_
  | false_
  | lang
  | number
  | sum
  | floor
  | ceiling
  | round
deriving DecidableEq, Repr

namespace Function

def ofName? : String → Option Function
  | "last" => some last
  | "position" => some position
  | "count" => some count
  | "id" => some id
  | "local-name" => some localName
  | "namespace-uri" => some namespaceUri
  | "name" => some name
  | "string" => some string
  | "concat" => some concat
  | "starts-with" => some startsWith
  | "contains" => some contains
  | "substring-before" => some substringBefore
  | "substring-after" => some substringAfter
  | "substring" => some substring
  | "string-length" => some stringLength
  | "normalize-space" => some normalizeSpace
  | "translate" => some translate
  | "boolean" => some boolean
  | "not" => some not
  | "true" => some true_
  | "false" => some false_
  | "lang" => some lang
  | "number" => some number
  | "sum" => some sum
  | "floor" => some floor
  | "ceiling" => some ceiling
  | "round" => some round
  | _ => none

/-- How many arguments a function takes: at least, at most if there is a limit, and in words. -/
structure Arity where
  least : Nat
  most : Option Nat
  text : String

def arity : Function → Arity
  | last | position | true_ | false_ => ⟨0, some 0, "0"⟩
  | localName | namespaceUri | name | string | stringLength | normalizeSpace | number =>
    ⟨0, some 1, "0 or 1"⟩
  | count | id | boolean | not | lang | sum | floor | ceiling | round => ⟨1, some 1, "1"⟩
  | startsWith | contains | substringBefore | substringAfter => ⟨2, some 2, "2"⟩
  | substring => ⟨2, some 3, "2 or 3"⟩
  | translate => ⟨3, some 3, "3"⟩
  | concat => ⟨2, none, "2 or more"⟩

def Arity.allows (arity : Arity) (n : Nat) : Bool :=
  arity.least ≤ n && (match arity.most with
    | some most => n ≤ most
    | none => true)

/-- The function with a name, if it takes this many arguments. -/
def select (written : String) (arguments : Nat) : Except XPathError Function :=
  match ofName? written with
  | none => .error (.unknownFunction written)
  | some f =>
    if f.arity.allows arguments then .ok f else .error (.arity written f.arity.text arguments)

/-! ### Texts -/

/-- The texts that are names of elements in a value: the words of its text, or of the string values
of all its nodes. -/
def idsOf (ns : NodeList) (value : Value) : List String :=
  let texts : List String := match value with
    | .nodeSet nodes => nodes.map fun node => node.stringValue ns
    | value => [value.toText ns]
  texts.flatMap fun (s : String) => (words s.toList).map String.ofList

/-- The characters whose positions, counted from 1, are at least `start` and less than `stop`. -/
def slice (s : String) (start stop : Float) : String :=
  String.ofList <| (s.toList.zipIdx.filter fun (_, i) =>
    let p := Float.ofNat (i + 1)
    start ≤ p && p < stop).map (·.1)

/-- The words between white space of markup, with one space between them. -/
def normalized (s : String) : String :=
  let step := fun (pieces : List (List Char)) (c : Char) =>
    if isMarkupSpace c then [] :: pieces
    else match pieces with
      | piece :: others => (c :: piece) :: others
      | [] => [[c]]
  let pieces := (s.toList.foldl step []).filter (!·.isEmpty)
  String.intercalate " " (pieces.reverse.map fun piece => String.ofList piece.reverse)

/-- Replaces the characters of `source` by those at the same places of `target`, and drops those
without a counterpart. -/
def translated (s source target : String) : String :=
  let source := source.toList
  let target := target.toList
  String.ofList <| s.toList.filterMap fun c =>
    match source.findIdx? (· = c) with
    | some i => target[i]?
    | none => some c

/-- Whether a language is the wanted one or a variety of it. -/
def languageIs (language wanted : String) : Bool :=
  let language := (lower language).toList
  let wanted := (lower wanted).toList
  match wanted.isPrefixOf? language with
  | some [] => true
  | some ('-' :: _) => true
  | _ => false

/-! ### Calls -/

section

variable (ns : NodeList) (context : Context)

/-- The text of an argument; the context node's if there is none. -/
def textArgument (argument : Option Value) : String :=
  match argument with
  | some value => value.toText ns
  | none => context.node.stringValue ns

/-- The name of the first node of the argument, or of the context node if there is none. -/
def nameArgument (argument : Option Value) : Except XPathError (Option QName) := do
  match argument with
  | some value =>
    let nodes ← value.toNodes
    return nodes.head?.bind (·.name? ns)
  | none => return context.node.name? ns

/-- The value of a call. -/
def apply (f : Function) (arguments : List Value) : Except XPathError Value := do
  let first := arguments.head?
  let text := fun (i : Nat) => textArgument ns context arguments[i]?
  let numeric := fun (i : Nat) => ((arguments[i]?).map (·.toNumber ns)).getD (0.0 / 0.0)
  let truth := (first.map (·.toBoolean)).getD false
  match f with
  | last => return .number (Float.ofNat context.size)
  | position => return .number (Float.ofNat context.position)
  | count =>
    let nodes ← (first.getD default).toNodes
    return .number (Float.ofNat nodes.length)
  | id =>
    let found := (idsOf ns (first.getD default)).filterMap ns.elementWithId?
    return .nodeSet (NodeRef.canonical (found.map .node))
  | localName => return .string (((← nameArgument ns context first).map (·.localName)).getD "")
  | namespaceUri =>
    return .string (((← nameArgument ns context first).bind (·.nsUri)).getD "")
  | name => return .string (((← nameArgument ns context first).map (·.lexical)).getD "")
  | string => return .string (text 0)
  | concat => return .string (String.join (arguments.map (·.toText ns)))
  | startsWith => return .boolean ((text 1).toList.isPrefixOf (text 0).toList)
  | contains => return .boolean (containsText (text 1).toList (text 0).toList)
  | substringBefore =>
    let cut := cutAtText (text 1).toList (text 0).toList
    return .string ((cut.map fun (before, _) => String.ofList before).getD "")
  | substringAfter =>
    let cut := cutAtText (text 1).toList (text 0).toList
    return .string ((cut.map fun (_, after) => String.ofList after).getD "")
  | substring =>
    let start := Number.round (numeric 1)
    let stop := if arguments.length < 3 then 1.0 / 0.0 else start + Number.round (numeric 2)
    return .string (slice (text 0) start stop)
  | stringLength => return .number (Float.ofNat (text 0).length)
  | normalizeSpace => return .string (normalized (text 0))
  | translate => return .string (translated (text 0) (text 1) (text 2))
  | boolean => return .boolean truth
  | not => return .boolean !truth
  | true_ => return .boolean true
  | false_ => return .boolean false
  | lang =>
    return .boolean (match ns.lang? context.node.owner with
      | some language => languageIs language (text 0)
      | none => false)
  | number =>
    return .number (match first with
      | some value => value.toNumber ns
      | none => numberOfText (context.node.stringValue ns))
  | sum =>
    let nodes ← (first.getD default).toNodes
    return .number (Number.sum (nodes.map fun node => numberOfText (node.stringValue ns)))
  | floor => return .number (numeric 0).floor
  | ceiling => return .number (numeric 0).ceil
  | round => return .number (Number.round (numeric 0))

end

end Function

end Transclusion.XPath
