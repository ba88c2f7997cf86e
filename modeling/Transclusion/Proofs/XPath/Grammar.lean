import Mathlib.Tactic.Common
import Transclusion.XPath.Parser
/-!
# The grammar of expressions

Which sequences of tokens are expressions, and which tree each of them stands for.  A `Phrase` is a
kind of phrase with its tree; `Derives` has one constructor for each production.  Paths, unions and
binary operations grow to the right, so that they associate to the left; the abbreviations `.`,
`..`, `@` and `//` stand for steps and axes that are written out in the tree.  References to
variables are no expressions.

* `operatorAt?_eq_some_iff`, `testOfName_eq_iff`, `Axis.ofName?_eq_some_iff`: the operators, tests
  and axes of the grammar are those that are read.
* `Derives.starts`, `Derives.any_isVariable`: what a phrase starts with, and that it refers to no
  variable.
-/

namespace Transclusion.XPath

/-! ### Operators, tests and axes -/

/-- The operators of each level, from `or` at the level 6 to the products at the level 1. -/
inductive Operates : Nat → Token → BinaryOp → Prop
  | or_ : Operates 6 .or_ .or_
  | and_ : Operates 5 .and_ .and_
  | equal : Operates 4 .equal .equal
  | notEqual : Operates 4 .notEqual .notEqual
  | less : Operates 3 .less .less
  | lessOrEqual : Operates 3 .lessOrEqual .lessOrEqual
  | greater : Operates 3 .greater .greater
  | greaterOrEqual : Operates 3 .greaterOrEqual .greaterOrEqual
  | add : Operates 2 .plus .add
  | subtract : Operates 2 .minus .subtract
  | multiply : Operates 1 .multiply .multiply
  | divide : Operates 1 .div .divide
  | modulo : Operates 1 .mod .modulo

theorem operatorAt?_eq_some_iff {level : Nat} {t : Token} {op : BinaryOp} :
    operatorAt? level t = some op ↔ Operates level t op := by
  constructor
  · intro h
    unfold operatorAt? at h
    split at h <;> cases h <;> constructor
  · rintro ⟨⟩ <;> rfl

/-- The test that a name stands for: `*`, a prefix with `:*`, or a name with or without a prefix. -/
inductive Names : String → NodeTest → Prop
  | anyName : Names "*" .anyName
  | inPrefix {p : String} (noColon : ':' ∉ p.toList) : Names (p ++ ":" ++ "*") (.inPrefix p)
  | qualified {p l : String} (noColon : ':' ∉ p.toList) (other : l ≠ "*") :
      Names (p ++ ":" ++ l) (.named (some p) l)
  | plain {n : String} (noColon : ':' ∉ n.toList) (other : n ≠ "*") : Names n (.named none n)

/-- A name with a colon asks for its prefix, and for its local part unless that is `*`. -/
theorem testOfName_append {p : String} (noColon : ':' ∉ p.toList) (l : String) :
    testOfName (p ++ ":" ++ l) = if l = "*" then .inPrefix p else .named (some p) l := by
  have cut : Text.cutAt ':' (p ++ ":" ++ l).toList = some (p.toList, l.toList) := by
    rw [String.toList_append, String.toList_append, List.append_assoc]
    exact Text.cutAt_append noColon l.toList
  have notAny : p ++ ":" ++ l ≠ "*" := by
    intro same
    rw [same] at cut
    cases cut
  rw [testOfName, if_neg notAny, cut]
  split
  · next before same =>
    obtain ⟨samePrefix, any⟩ := Prod.mk.inj (Option.some.inj same)
    rw [if_pos (String.toList_inj.mp any), ← samePrefix, String.ofList_toList]
  · next before after other same =>
    obtain ⟨samePrefix, sameLocal⟩ := Prod.mk.inj (Option.some.inj same)
    rw [if_neg fun any => other (by rw [← sameLocal, any]; rfl), ← samePrefix, ← sameLocal,
      String.ofList_toList, String.ofList_toList]
  · next none_ => cases none_

theorem testOfName_eq_iff {n : String} {test : NodeTest} : testOfName n = test ↔ Names n test := by
  constructor
  · rintro rfl
    cases cut : Text.cutAt ':' n.toList with
    | none =>
      by_cases any : n = "*"
      · exact any ▸ .anyName
      · rw [testOfName, if_neg any, cut]
        exact .plain (Text.cutAt_eq_none_iff.mp cut) any
    | some parts =>
      obtain ⟨before, after⟩ := parts
      have noColon : ':' ∉ (String.ofList before).toList := by
        rw [String.toList_ofList]
        exact Text.not_mem_of_cutAt cut
      have written : n = String.ofList before ++ ":" ++ String.ofList after := by
        rw [← String.toList_inj, Text.eq_of_cutAt cut]
        simp only [String.toList_append, String.toList_ofList, List.append_assoc]
        rfl
      rw [written, testOfName_append noColon]
      split
      · next any =>
        rw [any]
        exact .inPrefix noColon
      · next other => exact .qualified noColon other
  · intro h
    cases h with
    | anyName => rfl
    | inPrefix noColon => rw [testOfName_append noColon, if_pos rfl]
    | qualified noColon other => rw [testOfName_append noColon, if_neg other]
    | plain noColon other => rw [testOfName, if_neg other, Text.cutAt_eq_none_iff.mpr noColon]

/-- The name of an axis. -/
def Axis.name : Axis → String
  | ancestor => "ancestor"
  | ancestorOrSelf => "ancestor-or-self"
  | attribute_ => "attribute"
  | child => "child"
  | descendant => "descendant"
  | descendantOrSelf => "descendant-or-self"
  | following => "following"
  | followingSibling => "following-sibling"
  | namespace_ => "namespace"
  | parent => "parent"
  | preceding => "preceding"
  | precedingSibling => "preceding-sibling"
  | self => "self"

theorem Axis.ofName?_eq_some_iff {name : String} {axis : Axis} :
    ofName? name = some axis ↔ name = axis.name := by
  constructor
  · intro h
    unfold ofName? at h
    split at h <;> cases h <;> rfl
  · rintro rfl
    cases axis <;> rfl

/-- The axis of a step as it is written. -/
inductive Specifies : Axis → List Token → Prop
  | named (axis : Axis) : Specifies axis [.axisName axis.name, .doubleColon]
  | attribute_ : Specifies .attribute_ [.at_]
  | child : Specifies .child []

/-- The test of a step as it is written. -/
inductive Tests : NodeTest → List Token → Prop
  | name {n : String} {test : NodeTest} (names : Names n test) : Tests test [.nameTest n]
  | type (type : NodeType) : Tests type.test [.nodeType type, .openParen, .closeParen]
  | target (target : String) :
      Tests (.instruction (some target))
        [.nodeType .instruction, .openParen, .literal target, .closeParen]

/-! ### Phrases -/

/-- A kind of phrase, with what a phrase of this kind stands for. -/
inductive Phrase where
  /-- Operands joined by operators of at most this level; at the level 0 there are none. -/
  | binary (level : Nat) (e : Expr)
  | unary (e : Expr)
  | union (e : Expr)
  | path (e : Expr)
  /-- A primary expression with predicates. -/
  | filter (primary : Expr) (predicates : List Expr)
  | primary (e : Expr)
  /-- One or more arguments with commas between them. -/
  | arguments (es : List Expr)
  | location (absolute : Bool) (steps : List Step)
  /-- One or more steps with slashes between them. -/
  | relative (steps : List Step)
  | step (s : Step)
  /-- Any number of predicates, each in its brackets. -/
  | predicates (es : List Expr)

/-- A whole expression. -/
abbrev Phrase.expr (e : Expr) : Phrase := .binary 6 e

/-- A primary expression with predicates, of which there may be none. -/
def Expr.filtered (primary : Expr) : List Expr → Expr
  | [] => primary
  | predicates => .filter primary predicates []

/-- The tokens are a phrase. -/
inductive Derives : Phrase → List Token → Prop
  | unary {e ts} (h : Derives (.unary e) ts) : Derives (.binary 0 e) ts
  | operand {level e ts} (h : Derives (.binary level e) ts) : Derives (.binary (level + 1) e) ts
  | operation {level left right t op ts us} (first : Derives (.binary (level + 1) left) ts)
      (operates : Operates (level + 1) t op) (second : Derives (.binary level right) us) :
      Derives (.binary (level + 1) (.binary op left right)) (ts ++ t :: us)
  | union {e ts} (h : Derives (.union e) ts) : Derives (.unary e) ts
  | negation {e ts} (h : Derives (.unary e) ts) : Derives (.unary (.negate e)) (.minus :: ts)
  | path {e ts} (h : Derives (.path e) ts) : Derives (.union e) ts
  | alternative {left right ts us} (first : Derives (.union left) ts)
      (second : Derives (.path right) us) :
      Derives (.union (.union left right)) (ts ++ .pipe :: us)
  | location {absolute steps ts} (h : Derives (.location absolute steps) ts) :
      Derives (.path (.path absolute steps)) ts
  | filter {e es ts} (h : Derives (.filter e es) ts) : Derives (.path (e.filtered es)) ts
  | filterSlash {e es steps ts us} (first : Derives (.filter e es) ts)
      (second : Derives (.relative steps) us) :
      Derives (.path (.filter e es steps)) (ts ++ .slash :: us)
  | filterDoubleSlash {e es steps ts us} (first : Derives (.filter e es) ts)
      (second : Derives (.relative steps) us) :
      Derives (.path (.filter e es (.anyDepth :: steps))) (ts ++ .doubleSlash :: us)
  | primary {e ts} (h : Derives (.primary e) ts) : Derives (.filter e []) ts
  | predicate {e es p ts us} (first : Derives (.filter e es) ts)
      (second : Derives (.binary 6 p) us) :
      Derives (.filter e (es ++ [p])) (ts ++ .openBracket :: us ++ [.closeBracket])
  | parentheses {e ts} (h : Derives (.binary 6 e) ts) :
      Derives (.primary e) (.openParen :: ts ++ [.closeParen])
  | literal (text : String) : Derives (.primary (.literal text)) [.literal text]
  | number (value : Float) : Derives (.primary (.number value)) [.number value]
  | call (f : String) :
      Derives (.primary (.call f [])) [.functionName f, .openParen, .closeParen]
  | callWith {f es ts} (h : Derives (.arguments es) ts) :
      Derives (.primary (.call f es)) (.functionName f :: .openParen :: ts ++ [.closeParen])
  | argument {e ts} (h : Derives (.binary 6 e) ts) : Derives (.arguments [e]) ts
  | comma {e es ts us} (first : Derives (.binary 6 e) ts) (others : Derives (.arguments es) us) :
      Derives (.arguments (e :: es)) (ts ++ .comma :: us)
  | relative {steps ts} (h : Derives (.relative steps) ts) : Derives (.location false steps) ts
  | root : Derives (.location true []) [.slash]
  | absolute {steps ts} (h : Derives (.relative steps) ts) :
      Derives (.location true steps) (.slash :: ts)
  | anywhere {steps ts} (h : Derives (.relative steps) ts) :
      Derives (.location true (.anyDepth :: steps)) (.doubleSlash :: ts)
  | step {s ts} (h : Derives (.step s) ts) : Derives (.relative [s]) ts
  | slash {steps s ts us} (first : Derives (.relative steps) ts) (second : Derives (.step s) us) :
      Derives (.relative (steps ++ [s])) (ts ++ .slash :: us)
  | doubleSlash {steps s ts us} (first : Derives (.relative steps) ts)
      (second : Derives (.step s) us) :
      Derives (.relative (steps ++ [.anyDepth, s])) (ts ++ .doubleSlash :: us)
  | self : Derives (.step (.plain .self .node)) [.dot]
  | parent : Derives (.step (.plain .parent .node)) [.doubleDot]
  | full {axis test es as ts us} (specifies : Specifies axis as) (tests : Tests test ts)
      (h : Derives (.predicates es) us) : Derives (.step (.mk axis test es)) (as ++ ts ++ us)
  | none : Derives (.predicates []) []
  | another {e es ts us} (first : Derives (.binary 6 e) ts) (others : Derives (.predicates es) us) :
      Derives (.predicates (e :: es)) (.openBracket :: ts ++ .closeBracket :: us)

/-! ### What a phrase starts with -/

/-- Whether a token starts a path. -/
def startsPath : Token → Bool
  | .slash | .doubleSlash => true
  | .variable_ _ => false
  | t => startsStep t || startsPrimary t

/-- The tokens are not empty, and the first one has the property. -/
def StartsWith (p : Token → Prop) : List Token → Prop
  | [] => False
  | t :: _ => p t

theorem StartsWith.append {p : Token → Prop} {ts : List Token} (h : StartsWith p ts)
    (us : List Token) : StartsWith p (ts ++ us) := by
  cases ts with
  | nil => exact h.elim
  | cons t ts => exact h

theorem StartsWith.mono {p q : Token → Prop} {ts : List Token} (h : StartsWith p ts)
    (weaker : ∀ t, p t → q t) : StartsWith q ts := by
  cases ts with
  | nil => exact h.elim
  | cons t ts => exact weaker t h

/-- The tokens start like a phrase of this kind. Predicates may be missing. -/
def Phrase.Starts : Phrase → List Token → Prop
  | .binary _ _ | .unary _ | .arguments _ => StartsWith fun t => t = .minus ∨ startsPath t = true
  | .union _ | .path _ => StartsWith (startsPath · = true)
  | .filter _ _ | .primary _ => StartsWith fun t => startsPrimary t = true ∧ startsPath t = true
  | .location _ _ => StartsWith fun t => startsStep t = true ∨ t = .slash ∨ t = .doubleSlash
  | .relative _ | .step _ => StartsWith (startsStep · = true)
  | .predicates _ => fun _ => True

theorem Tests.starts {test : NodeTest} {ts : List Token} (h : Tests test ts) :
    StartsWith (startsStep · = true) ts := by
  cases h <;> rfl

theorem startsPath_of_startsStep {t : Token} (h : startsStep t = true) : startsPath t = true := by
  cases t <;> first | rfl | cases h

/-- What a phrase starts with, by its kind. -/
theorem Derives.starts {p : Phrase} {ts : List Token} (h : Derives p ts) : p.Starts ts := by
  induction h with
  | unary _ ih | operand _ ih | argument _ ih | path _ ih | primary _ ih | step _ ih => exact ih
  | operation _ _ _ ih | alternative _ _ ih | comma _ _ ih | slash _ _ ih | doubleSlash _ _ ih =>
    exact ih.append _
  | predicate _ _ ih => exact (ih.append _).append _
  | filterSlash _ _ ih | filterDoubleSlash _ _ ih => exact (ih.mono fun _ h => h.2).append _
  | union _ ih => exact ih.mono fun _ => .inr
  | negation => exact .inl rfl
  | location _ ih =>
    refine ih.mono fun t h => ?_
    obtain h | rfl | rfl := h
    · exact startsPath_of_startsStep h
    · rfl
    · rfl
  | filter _ ih => exact ih.mono fun _ h => h.2
  | parentheses | literal | number | call | callWith => exact ⟨rfl, rfl⟩
  | relative _ ih => exact ih.mono fun _ => .inl
  | root | absolute => exact .inr (.inl rfl)
  | anywhere => exact .inr (.inr rfl)
  | self | parent => rfl
  | full specifies tests =>
    cases specifies with
    | named | attribute_ => rfl
    | child => exact tests.starts.append _
  | none | another => trivial

/-! ### Variables -/

/-- Whether the token is a reference to a variable. -/
def Token.isVariable : Token → Bool
  | variable_ _ => true
  | _ => false

theorem Operates.isVariable_eq {level : Nat} {t : Token} {op : BinaryOp} (h : Operates level t op) :
    t.isVariable = false := by
  cases h <;> rfl

theorem Specifies.any_isVariable {axis : Axis} {ts : List Token} (h : Specifies axis ts) :
    ts.any Token.isVariable = false := by
  cases h <;> rfl

theorem Tests.any_isVariable {test : NodeTest} {ts : List Token} (h : Tests test ts) :
    ts.any Token.isVariable = false := by
  cases h <;> rfl

/-- No phrase refers to a variable. -/
theorem Derives.any_isVariable {p : Phrase} {ts : List Token} (h : Derives p ts) :
    ts.any Token.isVariable = false := by
  induction h with
  | operation _ operates _ first second => simp [operates.isVariable_eq, first, second]
  | full specifies tests _ ih => simp [specifies.any_isVariable, tests.any_isVariable, ih]
  | _ => simp [Token.isVariable, *]

end Transclusion.XPath
