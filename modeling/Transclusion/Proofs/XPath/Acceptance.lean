import Transclusion.Proofs.XPath.ReadPhrases
/-!
# Phrases are read

Wherever a phrase stands, it is read as what it stands for, if the token behind it does not go on
with it.  How loosely a token holds on to what is before it is `Token.looseness`.

A phrase that grows to the right, such as a sum, is read by a function that goes on as long as it
can.  Such a phrase takes that function to where it has the phrase as its left operand
(`Accepts`); it stops there if the token behind is loose enough.

* `accepts_of_derives`: every phrase is accepted.
* `exprOfTokens_reads_grammar`: exactly the expressions are read.
-/

namespace Transclusion.XPath

/-- How loosely a token holds on to what is before it: brackets of predicates most closely, then
slashes, the bar, and operators by their levels. Marks that close something do not. -/
def Token.looseness : Token → Nat
  | slash | doubleSlash => 1
  | pipe => 2
  | multiply | div | mod => 3
  | plus | minus => 4
  | less | lessOrEqual | greater | greaterOrEqual => 5
  | equal | notEqual => 6
  | and_ => 7
  | or_ => 8
  | closeParen | closeBracket | comma => 9
  | _ => 0

theorem Operates.looseness_eq {level : Nat} {t : Token} {op : BinaryOp} (h : Operates level t op) :
    t.looseness = level + 2 := by
  cases h <;> rfl

theorem Operates.level_le {level : Nat} {t : Token} {op : BinaryOp} (h : Operates level t op) :
    level ≤ 6 := by
  cases h <;> decide

/-- The next token, if there is one, is at least this loose. -/
def Stops (looseness : Nat) : List PlacedToken → Prop
  | [] => True
  | t :: _ => looseness ≤ t.token.looseness

theorem Stops.mono {m n : Nat} {rest : List PlacedToken} (h : Stops n rest) (le : m ≤ n) :
    Stops m rest := by
  cases rest with
  | nil => trivial
  | cons t rest => exact Nat.le_trans le h

/-- The depth is enough to read the tokens with `margin` calls that read no token themselves. -/
def Enough (margin : Nat) (tokens : List PlacedToken) (depth : Nat) : Prop :=
  16 * tokens.length + margin ≤ depth

namespace Enough

variable {margin depth : Nat} {tokens later : List PlacedToken}

theorem exists_succ (h : Enough (margin + 1) tokens depth) :
    ∃ d, depth = d + 1 ∧ Enough (margin + 1) tokens (d + 1) := by
  unfold Enough at h ⊢
  exact ⟨depth - 1, by omega, by omega⟩

/-- One call deeper the margin is one less. -/
theorem inner (h : Enough (margin + 1) tokens (depth + 1))
    (le : later.length ≤ tokens.length) : Enough margin later depth := by
  unfold Enough at h ⊢
  omega

/-- One call deeper the margin is full again when a token has been read. -/
theorem next (h : Enough (margin + 1) tokens (depth + 1))
    (lt : later.length < tokens.length) : Enough 15 later depth := by
  unfold Enough at h ⊢
  omega

theorem behind {read : List PlacedToken} (h : Enough margin (read ++ later) depth) :
    Enough margin later depth := by
  unfold Enough at h ⊢
  rw [List.length_append] at h
  omega

theorem tail {t : PlacedToken} (h : Enough margin (t :: later) depth) :
    Enough margin later depth := by
  unfold Enough at h ⊢
  rw [List.length_cons] at h
  omega

theorem mono {m : Nat} (h : Enough margin tokens depth) (le : m ≤ margin) :
    Enough m tokens depth := by
  unfold Enough at h ⊢
  omega

end Enough

variable {stop depth : Nat}

/-! ### Where reading stops -/

theorem readOperators_of_stops {level : Nat} {e : Expr} {rest : List PlacedToken}
    (stops : Stops (level + 4) rest) (enough : Enough 1 rest depth) :
    readOperators stop depth level e rest = .ok (e, rest) := by
  obtain ⟨d, rfl, -⟩ := enough.exists_succ
  cases rest with
  | nil => rfl
  | cons t rest =>
    have other : operatorAt? (level + 1) t.token = none := by
      rw [Option.eq_none_iff_forall_ne_some]
      intro op operates
      have looseness := (operatorAt?_eq_some_iff.mp operates).looseness_eq
      have loose : level + 4 ≤ t.token.looseness := stops
      omega
    rw [readOperators, other]

theorem readUnion_of_stops {e : Expr} {rest : List PlacedToken} (stops : Stops 3 rest)
    (enough : Enough 1 rest depth) : readUnion stop depth e rest = .ok (e, rest) := by
  obtain ⟨d, rfl, -⟩ := enough.exists_succ
  unfold readUnion
  split
  · exact absurd (show 3 ≤ 2 from stops) (by decide)
  · rfl

theorem readPredicates_of_stops {rest : List PlacedToken} (stops : Stops 1 rest)
    (enough : Enough 1 rest depth) : readPredicates stop depth rest = .ok ([], rest) := by
  obtain ⟨d, rfl, -⟩ := enough.exists_succ
  unfold readPredicates
  split
  · exact absurd (show 1 ≤ 0 from stops) (by decide)
  · rfl

theorem readMoreSteps_of_stops {rest : List PlacedToken} (stops : Stops 2 rest)
    (enough : Enough 1 rest depth) : readMoreSteps stop depth rest = .ok ([], rest) := by
  obtain ⟨d, rfl, -⟩ := enough.exists_succ
  unfold readMoreSteps
  split
  · exact absurd (show 2 ≤ 1 from stops) (by decide)
  · exact absurd (show 2 ≤ 1 from stops) (by decide)
  · rfl

/-! ### Phrases that are accepted -/

/-- The list that is read, with elements before it. -/
def withBefore {α : Type} (before : List α) (read : Except XPathError (WithRest (List α))) :
    Except XPathError (WithRest (List α)) := do
  let (others, rest) ← read
  return (before ++ others, rest)

theorem withBefore_nil {α : Type} (read : Except XPathError (WithRest (List α))) :
    withBefore [] read = read := by
  cases read <;> rfl

theorem withBefore_withBefore {α : Type} (before between : List α)
    (read : Except XPathError (WithRest (List α))) :
    withBefore before (withBefore between read) = withBefore (before ++ between) read := by
  cases read with
  | error e => rfl
  | ok found =>
    exact congrArg (fun list => Except.ok (list, found.2)) (List.append_assoc _ _ _).symm

/-- Reads a primary expression and its predicates. -/
def readFilter (stop depth : Nat) (tokens : List PlacedToken) :
    Except XPathError (WithRest (Expr × List Expr)) := do
  let (primary, rest) ← readPrimary stop depth tokens
  let (predicates, rest) ← readPredicates stop depth rest
  return ((primary, predicates), rest)

/-- Wherever the tokens stand, they are read as the phrase. -/
def Accepts (stop : Nat) : Phrase → List PlacedToken → Prop
  | .binary 0 e, read => ∀ ⦃rest depth⦄, Stops 3 rest → Enough 5 (read ++ rest) depth →
    readBinary stop depth 0 (read ++ rest) = .ok (e, rest)
  | .binary (level + 1) e, read => ∀ ⦃rest depth⦄, Stops (level + 3) rest →
    Enough (level + 6) (read ++ rest) depth → ∃ depth', Enough 1 rest depth' ∧
      readBinary stop depth (level + 1) (read ++ rest) = readOperators stop depth' level e rest
  | .unary e, read => ∀ ⦃rest depth⦄, Stops 3 rest → Enough 4 (read ++ rest) depth →
    readUnary stop depth (read ++ rest) = .ok (e, rest)
  | .union e, read => ∀ ⦃rest depth⦄, Stops 2 rest → Enough 3 (read ++ rest) depth →
    ∃ depth', Enough 1 rest depth' ∧
      (do let (left, after) ← readPath stop depth (read ++ rest)
          readUnion stop depth left after) = readUnion stop depth' e rest
  | .path e, read => ∀ ⦃rest depth⦄, Stops 2 rest → Enough 3 (read ++ rest) depth →
    readPath stop depth (read ++ rest) = .ok (e, rest)
  | .filter e es, read => ∀ ⦃rest depth⦄, Enough 1 (read ++ rest) depth →
    ∃ depth', Enough 1 rest depth' ∧
      readFilter stop depth (read ++ rest)
        = (do let (predicates, after) ← withBefore es (readPredicates stop depth' rest)
              return ((e, predicates), after))
  | .primary e, read => ∀ ⦃rest depth⦄, Enough 1 (read ++ rest) depth →
    readPrimary stop depth (read ++ rest) = .ok (e, rest)
  | .arguments es, read => ∀ ⦃rest depth place⦄,
    Enough 12 (read ++ ⟨.closeParen, place⟩ :: rest) depth →
    readArguments stop depth (read ++ ⟨.closeParen, place⟩ :: rest) = .ok (es, rest)
  | .location absolute steps, read => ∀ ⦃rest depth⦄, Stops 2 rest → Enough 3 (read ++ rest) depth →
    readPath stop depth (read ++ rest) = .ok (.path absolute steps, rest)
  | .relative steps, read => ∀ ⦃rest depth⦄, Stops 1 rest → Enough 2 (read ++ rest) depth →
    ∃ depth', Enough 1 rest depth' ∧
      readSteps stop depth (read ++ rest) = withBefore steps (readMoreSteps stop depth' rest)
  | .step s, read => ∀ ⦃rest depth⦄, Stops 1 rest → Enough 1 (read ++ rest) depth →
    readStep stop depth (read ++ rest) = .ok (s, rest)
  | .predicates es, read => ∀ ⦃rest depth⦄, Stops 1 rest → Enough 1 (read ++ rest) depth →
    readPredicates stop depth (read ++ rest) = .ok (es, rest)

/-- Binary expressions are read up to a token that is loose enough. -/
theorem readBinary_of_accepts {level : Nat} {e : Expr} {read rest : List PlacedToken}
    (h : Accepts stop (.binary level e) read) (stops : Stops (level + 3) rest)
    (enough : Enough (level + 5) (read ++ rest) depth) :
    readBinary stop depth level (read ++ rest) = .ok (e, rest) := by
  cases level with
  | zero => exact h stops enough
  | succ level =>
    obtain ⟨depth', enough', same⟩ := h (stops.mono (Nat.le_succ _)) enough
    rw [same]
    exact readOperators_of_stops stops enough'

theorem StartsWith.kinds_append {p : Token → Prop} {read : List PlacedToken}
    (h : StartsWith p (kinds read)) (rest : List PlacedToken) :
    StartsWith p (kinds (read ++ rest)) := by
  rw [kinds, List.map_append]
  exact h.append _

/-! ### Operations -/

theorem readUnary_of_starts {tokens : List PlacedToken}
    (starts : StartsWith (startsPath · = true) (kinds tokens)) :
    readUnary stop (depth + 1) tokens = (do
      let (left, rest) ← readPath stop depth tokens
      readUnion stop depth left rest) := by
  cases tokens with
  | nil => exact starts.elim
  | cons t rest =>
    obtain ⟨k, place⟩ := t
    cases k <;> first | rfl | exact absurd starts Bool.false_ne_true

section

variable {level : Nat} {e left right : Expr} {read read' : List PlacedToken} {place : Nat}

theorem accepts_unary (h : Accepts stop (.unary e) read) : Accepts stop (.binary 0 e) read := by
  intro rest depth stops enough
  obtain ⟨d, rfl, enough⟩ := enough.exists_succ
  rw [readBinary]
  exact h stops (enough.inner Nat.le.refl)

theorem accepts_operand (h : Accepts stop (.binary level e) read) :
    Accepts stop (.binary (level + 1) e) read := by
  intro rest depth stops enough
  obtain ⟨d, rfl, enough⟩ := enough.exists_succ
  refine ⟨d, (enough.inner Nat.le.refl).behind.mono (Nat.le_add_left 1 _), ?_⟩
  rw [readBinary, readBinary_of_accepts h stops (enough.inner Nat.le.refl)]
  rfl

theorem accepts_operation {t : PlacedToken} {op : BinaryOp}
    (first : Accepts stop (.binary (level + 1) left) read)
    (operates : Operates (level + 1) t.token op)
    (second : Accepts stop (.binary level right) read') :
    Accepts stop (.binary (level + 1) (.binary op left right)) (read ++ t :: read') := by
  intro rest depth stops enough
  have holds : Stops (level + 3) (t :: (read' ++ rest)) := Nat.le_of_eq operates.looseness_eq.symm
  have low := operates.level_le
  rw [List.append_assoc, List.cons_append] at enough ⊢
  obtain ⟨d, enough', same⟩ := first holds enough
  obtain ⟨d, rfl, enough'⟩ := enough'.exists_succ
  have later : Enough 15 (read' ++ rest) d := enough'.next (by simp)
  refine ⟨d, later.behind.mono (by decide), ?_⟩
  rw [same, readOperators, operatorAt?_eq_some_iff.mpr operates]
  dsimp only
  rw [readBinary_of_accepts second stops (later.mono (by omega))]
  rfl

theorem accepts_union (starts : StartsWith (startsPath · = true) (kinds read))
    (h : Accepts stop (.union e) read) : Accepts stop (.unary e) read := by
  intro rest depth stops enough
  obtain ⟨d, rfl, enough⟩ := enough.exists_succ
  obtain ⟨d', enough', same⟩ := h (stops.mono (by decide)) (enough.inner Nat.le.refl)
  rw [readUnary_of_starts (starts.kinds_append rest), same, readUnion_of_stops stops enough']

theorem accepts_negation (h : Accepts stop (.unary e) read) :
    Accepts stop (.unary (.negate e)) (⟨.minus, place⟩ :: read) := by
  intro rest depth stops enough
  obtain ⟨d, rfl, enough⟩ := enough.exists_succ
  rw [List.cons_append] at enough ⊢
  rw [readUnary, h stops ((enough.next (by simp)).mono (by decide))]
  rfl

theorem accepts_path (h : Accepts stop (.path e) read) : Accepts stop (.union e) read := by
  intro rest depth stops enough
  refine ⟨depth, enough.behind.mono (by decide), ?_⟩
  rw [h stops enough]
  rfl

theorem accepts_alternative (first : Accepts stop (.union left) read)
    (second : Accepts stop (.path right) read') :
    Accepts stop (.union (.union left right)) (read ++ ⟨.pipe, place⟩ :: read') := by
  intro rest depth stops enough
  rw [List.append_assoc, List.cons_append] at enough ⊢
  have holds : Stops 2 (⟨.pipe, place⟩ :: (read' ++ rest)) := Nat.le.refl
  obtain ⟨d, enough', same⟩ := first holds enough
  obtain ⟨d, rfl, enough'⟩ := enough'.exists_succ
  have later : Enough 15 (read' ++ rest) d := enough'.next (by simp)
  refine ⟨d, later.behind.mono (by decide), ?_⟩
  rw [same, readUnion, second stops (later.mono (by decide))]
  rfl

end

/-! ### Steps -/

section

variable {read read' : List PlacedToken} {steps : List Step} {s : Step} {place : Nat}

/-- Steps are read up to a token that is loose enough. -/
theorem readSteps_of_accepts (h : Accepts stop (.relative steps) read) {rest : List PlacedToken}
    (stops : Stops 2 rest) (enough : Enough 2 (read ++ rest) depth) :
    readSteps stop depth (read ++ rest) = .ok (steps, rest) := by
  obtain ⟨d, enough', same⟩ := h (stops.mono (by decide)) enough
  rw [same, readMoreSteps_of_stops stops enough']
  exact congrArg (fun steps => Except.ok (steps, rest)) (List.append_nil steps)

/-- After a step that is accepted, the reading of steps goes on. -/
theorem readSteps_succ (h : Accepts stop (.step s) read) {rest : List PlacedToken}
    (stops : Stops 1 rest) (enough : Enough 1 (read ++ rest) depth) :
    readSteps stop (depth + 1) (read ++ rest) = withBefore [s] (readMoreSteps stop depth rest) := by
  rw [readSteps, h stops enough]
  rfl

theorem accepts_step (h : Accepts stop (.step s) read) : Accepts stop (.relative [s]) read := by
  intro rest depth stops enough
  obtain ⟨d, rfl, enough⟩ := enough.exists_succ
  have enough' : Enough 1 (read ++ rest) d := enough.inner Nat.le.refl
  exact ⟨d, enough'.behind, readSteps_succ h stops enough'⟩

/-- One more step after a separator, which stands for the steps `between`. -/
theorem accepts_separated {separator : PlacedToken} (between : List Step)
    (loose : separator.token.looseness = 1)
    (reads : ∀ depth tokens, readMoreSteps stop (depth + 1) (separator :: tokens)
      = withBefore between (readSteps stop depth tokens))
    (first : Accepts stop (.relative steps) read) (second : Accepts stop (.step s) read') :
    Accepts stop (.relative (steps ++ (between ++ [s]))) (read ++ separator :: read') := by
  intro rest depth stops enough
  have holds : Stops 1 (separator :: (read' ++ rest)) := Nat.le_of_eq loose.symm
  rw [List.append_assoc, List.cons_append] at enough ⊢
  obtain ⟨d, enough', same⟩ := first holds enough
  obtain ⟨d, rfl, enough'⟩ := enough'.exists_succ
  have later : Enough 15 (read' ++ rest) d := enough'.next (by simp)
  obtain ⟨d, rfl, later⟩ := later.exists_succ
  have later' : Enough 14 (read' ++ rest) d := later.inner Nat.le.refl
  refine ⟨d, later'.behind.mono (by decide), ?_⟩
  rw [same, reads, readSteps_succ second stops (later'.mono (by decide)), withBefore_withBefore,
    withBefore_withBefore, List.append_assoc]

theorem accepts_slash (first : Accepts stop (.relative steps) read)
    (second : Accepts stop (.step s) read') :
    Accepts stop (.relative (steps ++ [s])) (read ++ ⟨.slash, place⟩ :: read') :=
  accepts_separated [] rfl (fun _ _ => (withBefore_nil _).symm) first second

theorem accepts_doubleSlash (first : Accepts stop (.relative steps) read)
    (second : Accepts stop (.step s) read') :
    Accepts stop (.relative (steps ++ [.anyDepth, s])) (read ++ ⟨.doubleSlash, place⟩ :: read') :=
  accepts_separated [.anyDepth] rfl (fun _ _ => rfl) first second

theorem accepts_none : Accepts stop (.predicates []) [] :=
  fun _ _ stops enough => readPredicates_of_stops stops enough

theorem readNodeTest_of_tests {test : NodeTest} {ts : List Token} (h : Tests test ts)
    (same : kinds read = ts) (rest : List PlacedToken) :
    readNodeTest stop (read ++ rest) = .ok (test, rest) := by
  cases h with
  | name names =>
    match read, same with
    | [⟨_, _⟩], rfl =>
      exact congrArg (fun test => Except.ok (test, rest)) (testOfName_eq_iff.mpr names)
  | type type =>
    match read, same with
    | [⟨_, _⟩, ⟨_, _⟩, ⟨_, _⟩], rfl => cases type <;> rfl
  | target target =>
    match read, same with
    | [⟨_, _⟩, ⟨_, _⟩, ⟨_, _⟩, ⟨_, _⟩], rfl => rfl

/-- Whether a token starts a test of nodes. -/
def startsTest : Token → Bool
  | .nameTest _ | .nodeType _ => true
  | _ => false

theorem readAxis_of_specifies {axis : Axis} {as : List Token} (h : Specifies axis as)
    (same : kinds read = as) {tokens : List PlacedToken}
    (starts : StartsWith (startsTest · = true) (kinds tokens)) :
    readAxis stop (read ++ tokens) = .ok (axis, tokens) := by
  cases h with
  | named =>
    match read, same with
    | [⟨_, _⟩, ⟨_, _⟩], rfl => cases axis <;> rfl
  | attribute_ =>
    match read, same with
    | [⟨_, _⟩], rfl => rfl
  | child =>
    match read, same with
    | [], rfl =>
      cases tokens with
      | nil => exact starts.elim
      | cons t rest =>
        obtain ⟨k, place⟩ := t
        cases k <;> first | rfl | exact absurd starts Bool.false_ne_true

theorem Tests.startsTest {test : NodeTest} {ts : List Token} (h : Tests test ts) :
    StartsWith (startsTest · = true) ts := by
  cases h <;> rfl

theorem accepts_self : Accepts stop (.step (.plain .self .node)) [⟨.dot, place⟩] := by
  intro rest depth stops enough
  obtain ⟨d, rfl, -⟩ := enough.exists_succ
  rfl

theorem accepts_parent : Accepts stop (.step (.plain .parent .node)) [⟨.doubleDot, place⟩] := by
  intro rest depth stops enough
  obtain ⟨d, rfl, -⟩ := enough.exists_succ
  rfl

theorem readStep_of_readNodeTest {axis : Axis} {test : NodeTest}
    {tokens rest last : List PlacedToken} (axisRead : readAxis stop tokens = .ok (axis, rest))
    (testRead : readNodeTest stop rest = .ok (test, last)) :
    readStep stop (depth + 1) tokens = (do
      let (predicates, rest) ← readPredicates stop depth last
      return (.mk axis test predicates, rest)) := by
  unfold readStep
  split
  · cases axisRead
    cases testRead
  · cases axisRead
    cases testRead
  · rw [axisRead]
    dsimp only [bind, Except.bind]
    rw [testRead]

theorem accepts_full {axis : Axis} {test : NodeTest} {es : List Expr} {read'' : List PlacedToken}
    (specifies : Specifies axis (kinds read)) (tests : Tests test (kinds read'))
    (h : Accepts stop (.predicates es) read'') :
    Accepts stop (.step (.mk axis test es)) (read ++ read' ++ read'') := by
  intro rest depth stops enough
  obtain ⟨d, rfl, enough⟩ := enough.exists_succ
  have notEmpty : read' ≠ [] := by
    rintro rfl
    exact tests.starts.elim
  have shorter : (read'' ++ rest).length < (read ++ read' ++ read'' ++ rest).length := by
    have := List.length_pos_iff.mpr notEmpty
    simp only [List.length_append]
    omega
  have later : Enough 1 (read'' ++ rest) d := (enough.next shorter).mono (by decide)
  rw [List.append_assoc, List.append_assoc,
    readStep_of_readNodeTest (readAxis_of_specifies specifies rfl (tests.startsTest.kinds_append _))
      (readNodeTest_of_tests tests rfl _), h stops later]
  rfl

end

/-! ### Filters -/

/-- An expression is read up to a mark that closes it. -/
theorem readExpr_of_accepts {e : Expr} {read rest : List PlacedToken}
    (h : Accepts stop (.expr e) read) (stops : Stops 9 rest)
    (enough : Enough 11 (read ++ rest) depth) :
    readBinary stop depth topLevel (read ++ rest) = .ok (e, rest) :=
  readBinary_of_accepts h stops enough

section

variable {e p : Expr} {es : List Expr} {read read' : List PlacedToken} {opening closing : Nat}

theorem accepts_primary (h : Accepts stop (.primary e) read) :
    Accepts stop (.filter e []) read := by
  intro rest depth enough
  refine ⟨depth, enough.behind, ?_⟩
  rw [readFilter, h enough, withBefore_nil]
  rfl

/-- A predicate is read up to its closing bracket. -/
theorem readPredicates_succ {rest : List PlacedToken} (h : Accepts stop (.expr p) read)
    (enough : Enough 11 (read ++ ⟨.closeBracket, closing⟩ :: rest) depth) :
    readPredicates stop (depth + 1)
        (⟨.openBracket, opening⟩ :: (read ++ ⟨.closeBracket, closing⟩ :: rest))
      = withBefore [p] (readPredicates stop depth rest) := by
  have holds : Stops 9 (⟨.closeBracket, closing⟩ :: rest) := Nat.le.refl
  rw [readPredicates, readExpr_of_accepts h holds enough]
  rfl

theorem accepts_another (first : Accepts stop (.expr e) read)
    (others : Accepts stop (.predicates es) read') :
    Accepts stop (.predicates (e :: es))
      (⟨.openBracket, opening⟩ :: read ++ ⟨.closeBracket, closing⟩ :: read') := by
  intro rest depth stops enough
  obtain ⟨d, rfl, enough⟩ := enough.exists_succ
  rw [List.append_assoc, List.cons_append, List.cons_append] at enough ⊢
  have later : Enough 15 (read ++ ⟨.closeBracket, closing⟩ :: (read' ++ rest)) d :=
    enough.next (by simp)
  have last : Enough 1 (read' ++ rest) d := later.behind.tail.mono (by decide)
  rw [readPredicates_succ first (later.mono (by decide)), others stops last]
  rfl

theorem accepts_predicate (first : Accepts stop (.filter e es) read)
    (second : Accepts stop (.expr p) read') :
    Accepts stop (.filter e (es ++ [p]))
      (read ++ ⟨.openBracket, opening⟩ :: read' ++ [⟨.closeBracket, closing⟩]) := by
  intro rest depth enough
  simp only [List.append_assoc, List.cons_append, List.nil_append] at enough ⊢
  obtain ⟨d, enough', same⟩ := first enough
  obtain ⟨d, rfl, enough'⟩ := enough'.exists_succ
  have later : Enough 15 (read' ++ ⟨.closeBracket, closing⟩ :: rest) d := enough'.next (by simp)
  refine ⟨d, later.behind.tail.mono (by decide), ?_⟩
  rw [same, readPredicates_succ second (later.mono (by decide)), withBefore_withBefore]

/-- A filter is read up to a token that does not open a predicate. -/
theorem readFilter_of_accepts {rest : List PlacedToken} (h : Accepts stop (.filter e es) read)
    (stops : Stops 1 rest) (enough : Enough 1 (read ++ rest) depth) :
    readFilter stop depth (read ++ rest) = .ok ((e, es), rest) := by
  obtain ⟨d, enough', same⟩ := h enough
  rw [same, readPredicates_of_stops stops enough']
  exact congrArg (fun es => Except.ok ((e, es), rest)) (List.append_nil es)

theorem accepts_parentheses (h : Accepts stop (.expr e) read) :
    Accepts stop (.primary e) (⟨.openParen, opening⟩ :: read ++ [⟨.closeParen, closing⟩]) := by
  intro rest depth enough
  obtain ⟨d, rfl, enough⟩ := enough.exists_succ
  simp only [List.append_assoc, List.cons_append, List.nil_append] at enough ⊢
  have later : Enough 15 (read ++ ⟨.closeParen, closing⟩ :: rest) d := enough.next (by simp)
  have holds : Stops 9 (⟨.closeParen, closing⟩ :: rest) := Nat.le.refl
  rw [readPrimary, readExpr_of_accepts h holds (later.mono (by decide))]
  rfl

theorem accepts_literal (text : String) (place : Nat) :
    Accepts stop (.primary (.literal text)) [⟨.literal text, place⟩] := by
  intro rest depth enough
  obtain ⟨d, rfl, -⟩ := enough.exists_succ
  rfl

theorem accepts_number (value : Float) (place : Nat) :
    Accepts stop (.primary (.number value)) [⟨.number value, place⟩] := by
  intro rest depth enough
  obtain ⟨d, rfl, -⟩ := enough.exists_succ
  rfl

/-! ### Calls -/

variable {f : String} {place : Nat}

theorem accepts_call :
    Accepts stop (.primary (.call f []))
      [⟨.functionName f, place⟩, ⟨.openParen, opening⟩, ⟨.closeParen, closing⟩] := by
  intro rest depth enough
  obtain ⟨d, rfl, -⟩ := enough.exists_succ
  rfl

theorem readPrimary_of_starts {tokens : List PlacedToken}
    (starts : StartsWith (fun t => t = .minus ∨ startsPath t = true) (kinds tokens)) :
    readPrimary stop (depth + 1) (⟨.functionName f, place⟩ :: ⟨.openParen, opening⟩ :: tokens) = (do
      let (arguments, rest) ← readArguments stop depth tokens
      return (.call f arguments, rest)) := by
  cases tokens with
  | nil => exact starts.elim
  | cons t rest =>
    obtain ⟨k, place⟩ := t
    cases k with
    | closeParen => cases starts with
      | inl h => cases h
      | inr h => cases h
    | _ => rfl

theorem accepts_callWith
    (starts : StartsWith (fun t => t = .minus ∨ startsPath t = true) (kinds read))
    (h : Accepts stop (.arguments es) read) :
    Accepts stop (.primary (.call f es))
      (⟨.functionName f, place⟩ :: ⟨.openParen, opening⟩ :: read ++ [⟨.closeParen, closing⟩]) := by
  intro rest depth enough
  obtain ⟨d, rfl, enough⟩ := enough.exists_succ
  simp only [List.append_assoc, List.cons_append, List.nil_append] at enough ⊢
  have later : Enough 15 (read ++ ⟨.closeParen, closing⟩ :: rest) d :=
    enough.next (Nat.lt_add_of_pos_right (by decide : 0 < 2))
  rw [readPrimary_of_starts (starts.kinds_append _), h (later.mono (by decide))]
  rfl

theorem accepts_argument (h : Accepts stop (.expr e) read) :
    Accepts stop (.arguments [e]) read := by
  intro rest depth place enough
  obtain ⟨d, rfl, enough⟩ := enough.exists_succ
  have holds : Stops 9 (⟨.closeParen, place⟩ :: rest) := Nat.le.refl
  rw [readArguments, readExpr_of_accepts h holds (enough.inner Nat.le.refl)]
  rfl

theorem accepts_comma (first : Accepts stop (.expr e) read)
    (others : Accepts stop (.arguments es) read') :
    Accepts stop (.arguments (e :: es)) (read ++ ⟨.comma, place⟩ :: read') := by
  intro rest depth closing enough
  obtain ⟨d, rfl, enough⟩ := enough.exists_succ
  rw [List.append_assoc, List.cons_append] at enough ⊢
  have holds : Stops 9 (⟨.comma, place⟩ :: (read' ++ ⟨.closeParen, closing⟩ :: rest)) := Nat.le.refl
  have later : Enough 15 (read' ++ ⟨.closeParen, closing⟩ :: rest) d := enough.next (by simp; omega)
  rw [readArguments, readExpr_of_accepts first holds (enough.inner Nat.le.refl)]
  dsimp only [bind, Except.bind]
  rw [others (later.mono (by decide))]
  rfl

end

/-! ### Paths -/

section

variable {e : Expr} {es : List Expr} {steps : List Step} {read read' tokens : List PlacedToken}
  {place : Nat} {absolute : Bool}

theorem readPath_of_startsPrimary (starts : StartsWith (startsPrimary · = true) (kinds tokens)) :
    readPath stop (depth + 1) tokens = (do
      let ((primary, predicates), rest) ← readFilter stop depth tokens
      let (steps, rest) ← readMoreSteps stop depth rest
      if predicates.isEmpty && steps.isEmpty then return (primary, rest)
      else return (.filter primary predicates steps, rest)) := by
  unfold readPath readFilter
  split
  · exact absurd starts Bool.false_ne_true
  · exact absurd starts Bool.false_ne_true
  · rw [if_pos (show startsPrimary _ = true from starts)]
    cases readPrimary stop depth _ with
    | error => rfl
    | ok found =>
      dsimp only [bind, Except.bind]
      cases readPredicates stop depth found.2 with
      | error => rfl
      | ok => rfl
  · exact starts.elim

theorem not_startsPrimary_of_startsStep {t : Token} (h : startsStep t = true) :
    ¬startsPrimary t = true := by
  cases t <;> first | exact Bool.false_ne_true | cases h

theorem readPath_of_startsStep (starts : StartsWith (startsStep · = true) (kinds tokens)) :
    readPath stop (depth + 1) tokens = (do
      let (steps, rest) ← readSteps stop depth tokens
      return (.path false steps, rest)) := by
  unfold readPath
  split
  · exact absurd starts Bool.false_ne_true
  · exact absurd starts Bool.false_ne_true
  · rw [if_neg (not_startsPrimary_of_startsStep starts)]
  · rfl

theorem accepts_filter (starts : StartsWith (startsPrimary · = true) (kinds read))
    (h : Accepts stop (.filter e es) read) : Accepts stop (.path (e.filtered es)) read := by
  intro rest depth stops enough
  obtain ⟨d, rfl, enough⟩ := enough.exists_succ
  have enough' : Enough 1 (read ++ rest) d := (enough.inner Nat.le.refl).mono (by decide)
  rw [readPath_of_startsPrimary (starts.kinds_append rest),
    readFilter_of_accepts h (stops.mono (by decide)) enough']
  dsimp only [bind, Except.bind]
  rw [readMoreSteps_of_stops stops enough'.behind]
  cases es <;> rfl

/-- A filter goes on with steps after a separator, which stands for the steps `between`. -/
theorem accepts_filterSeparated {separator : PlacedToken} (between : List Step)
    (loose : separator.token.looseness = 1)
    (reads : ∀ depth tokens, readMoreSteps stop (depth + 1) (separator :: tokens)
      = withBefore between (readSteps stop depth tokens))
    (starts : StartsWith (startsPrimary · = true) (kinds read)) (some_ : steps ≠ [])
    (first : Accepts stop (.filter e es) read) (second : Accepts stop (.relative steps) read') :
    Accepts stop (.path (.filter e es (between ++ steps))) (read ++ separator :: read') := by
  intro rest depth stops enough
  obtain ⟨d, rfl, enough⟩ := enough.exists_succ
  rw [List.append_assoc, List.cons_append] at enough ⊢
  have holds : Stops 1 (separator :: (read' ++ rest)) := Nat.le_of_eq loose.symm
  have enough' : Enough 2 (read ++ separator :: (read' ++ rest)) d := enough.inner Nat.le.refl
  have behind : Enough 2 (separator :: (read' ++ rest)) d := enough'.behind
  obtain ⟨d, rfl, behind⟩ := behind.exists_succ
  have later : Enough 15 (read' ++ rest) d := behind.next (by simp)
  rw [readPath_of_startsPrimary (starts.kinds_append _),
    readFilter_of_accepts first holds (enough'.mono (by decide))]
  dsimp only [bind, Except.bind]
  rw [reads, readSteps_of_accepts second stops (later.mono (by decide))]
  have notEmpty : ¬(es.isEmpty && (between ++ steps).isEmpty) = true := by
    simp [some_]
  exact if_neg notEmpty

theorem accepts_filterSlash (starts : StartsWith (startsPrimary · = true) (kinds read))
    (some_ : steps ≠ []) (first : Accepts stop (.filter e es) read)
    (second : Accepts stop (.relative steps) read') :
    Accepts stop (.path (.filter e es steps)) (read ++ ⟨.slash, place⟩ :: read') :=
  accepts_filterSeparated [] rfl (fun _ _ => (withBefore_nil _).symm) starts some_ first second

theorem accepts_filterDoubleSlash (starts : StartsWith (startsPrimary · = true) (kinds read))
    (some_ : steps ≠ []) (first : Accepts stop (.filter e es) read)
    (second : Accepts stop (.relative steps) read') :
    Accepts stop (.path (.filter e es (.anyDepth :: steps)))
      (read ++ ⟨.doubleSlash, place⟩ :: read') :=
  accepts_filterSeparated [.anyDepth] rfl (fun _ _ => rfl) starts some_ first second

theorem accepts_relative (starts : StartsWith (startsStep · = true) (kinds read))
    (h : Accepts stop (.relative steps) read) : Accepts stop (.location false steps) read := by
  intro rest depth stops enough
  obtain ⟨d, rfl, enough⟩ := enough.exists_succ
  rw [readPath_of_startsStep (starts.kinds_append rest),
    readSteps_of_accepts h stops (enough.inner Nat.le.refl)]
  rfl

theorem accepts_root : Accepts stop (.location true []) [⟨.slash, place⟩] := by
  intro rest depth stops enough
  obtain ⟨d, rfl, -⟩ := enough.exists_succ
  cases rest with
  | nil => rfl
  | cons t rest =>
    obtain ⟨k, place⟩ := t
    cases k <;> first | rfl | exact absurd stops (Nat.not_succ_le_zero 1)

theorem accepts_absolute (starts : StartsWith (startsStep · = true) (kinds read))
    (h : Accepts stop (.relative steps) read) :
    Accepts stop (.location true steps) (⟨.slash, place⟩ :: read) := by
  intro rest depth stops enough
  obtain ⟨d, rfl, enough⟩ := enough.exists_succ
  rw [List.cons_append] at enough ⊢
  have later : Enough 2 (read ++ rest) d := (enough.next (by simp)).mono (by decide)
  have steps_ := readSteps_of_accepts h stops later
  cases read with
  | nil => exact starts.elim
  | cons t read =>
    rw [List.cons_append] at steps_ ⊢
    rw [readPath]
    dsimp only
    rw [if_pos (show startsStep t.token = true from starts), steps_]
    rfl

theorem accepts_anywhere (h : Accepts stop (.relative steps) read) :
    Accepts stop (.location true (.anyDepth :: steps)) (⟨.doubleSlash, place⟩ :: read) := by
  intro rest depth stops enough
  obtain ⟨d, rfl, enough⟩ := enough.exists_succ
  rw [List.cons_append] at enough ⊢
  have later : Enough 2 (read ++ rest) d := (enough.next (by simp)).mono (by decide)
  rw [readPath, readSteps_of_accepts h stops later]
  rfl

end

/-! ### Every phrase is accepted -/

theorem eq_cons_of_kinds {read : List PlacedToken} {t : Token} {ts : List Token}
    (h : kinds read = t :: ts) : ∃ place later, read = ⟨t, place⟩ :: later ∧ kinds later = ts := by
  obtain ⟨⟨_, place⟩, later, rfl, rfl, same⟩ := List.map_eq_cons_iff.mp h
  exact ⟨place, later, rfl, same⟩

theorem eq_append_cons_of_kinds {read : List PlacedToken} {t : Token} {ts us : List Token}
    (h : kinds read = ts ++ t :: us) :
    ∃ first place later,
      read = first ++ ⟨t, place⟩ :: later ∧ kinds first = ts ∧ kinds later = us := by
  obtain ⟨first, later, rfl, same, same'⟩ := List.map_eq_append_iff.mp h
  obtain ⟨place, later, rfl, same''⟩ := eq_cons_of_kinds same'
  exact ⟨first, place, later, rfl, same, same''⟩

theorem eq_concat_of_kinds {read : List PlacedToken} {t : Token} {ts : List Token}
    (h : kinds read = ts ++ [t]) :
    ∃ first place, read = first ++ [⟨t, place⟩] ∧ kinds first = ts := by
  obtain ⟨first, place, later, rfl, same, none_⟩ := eq_append_cons_of_kinds h
  obtain rfl := List.map_eq_nil_iff.mp none_
  exact ⟨first, place, rfl, same⟩

/-- **Every phrase is accepted**, wherever its tokens are placed. -/
theorem accepts_of_derives {p : Phrase} {ts : List Token} (h : Derives p ts) :
    ∀ {read : List PlacedToken}, kinds read = ts → Accepts stop p read := by
  -- The placed tokens are cut where the words of the phrase are, by `kinds`; what is left for each
  -- rule is the lemma about it.
  induction h with
  | unary _ ih => exact fun same => accepts_unary (ih same)
  | operand _ ih => exact fun same => accepts_operand (ih same)
  | operation _ operates _ ih ih' =>
    intro read written
    obtain ⟨first, place, second, rfl, same, same'⟩ := eq_append_cons_of_kinds written
    exact accepts_operation (ih same) operates (ih' same')
  | union h ih =>
    intro read same
    exact accepts_union (same ▸ h.starts) (ih same)
  | negation _ ih =>
    intro read written
    obtain ⟨place, read, rfl, same⟩ := eq_cons_of_kinds written
    exact accepts_negation (ih same)
  | path _ ih => exact fun same => accepts_path (ih same)
  | alternative _ _ ih ih' =>
    intro read written
    obtain ⟨first, place, second, rfl, same, same'⟩ := eq_append_cons_of_kinds written
    exact accepts_alternative (ih same) (ih' same')
  | location _ ih => exact ih
  | filter h ih =>
    intro read same
    exact accepts_filter (same ▸ h.starts.mono fun _ h => h.1) (ih same)
  | filterSlash h h' ih ih' =>
    intro read written
    obtain ⟨first, place, second, rfl, same, same'⟩ := eq_append_cons_of_kinds written
    exact accepts_filterSlash (same ▸ h.starts.mono fun _ h => h.1) h'.relative_ne_nil (ih same)
      (ih' same')
  | filterDoubleSlash h h' ih ih' =>
    intro read written
    obtain ⟨first, place, second, rfl, same, same'⟩ := eq_append_cons_of_kinds written
    exact accepts_filterDoubleSlash (same ▸ h.starts.mono fun _ h => h.1) h'.relative_ne_nil
      (ih same) (ih' same')
  | primary _ ih => exact fun same => accepts_primary (ih same)
  | predicate _ _ ih ih' =>
    intro read written
    obtain ⟨inner, closing, rfl, sameInner⟩ := eq_concat_of_kinds written
    obtain ⟨first, opening, second, rfl, same, same'⟩ := eq_append_cons_of_kinds sameInner
    exact accepts_predicate (ih same) (ih' same')
  | parentheses _ ih =>
    intro read written
    obtain ⟨inner, closing, rfl, sameInner⟩ := eq_concat_of_kinds written
    obtain ⟨opening, inner, rfl, same⟩ := eq_cons_of_kinds sameInner
    exact accepts_parentheses (ih same)
  | literal =>
    intro read same
    match read, same with
    | [⟨_, _⟩], rfl => exact accepts_literal _ _
  | number =>
    intro read same
    match read, same with
    | [⟨_, _⟩], rfl => exact accepts_number _ _
  | call =>
    intro read same
    match read, same with
    | [⟨_, _⟩, ⟨_, _⟩, ⟨_, _⟩], rfl => exact accepts_call
  | callWith h ih =>
    intro read written
    obtain ⟨inner, closing, rfl, sameInner⟩ := eq_concat_of_kinds written
    obtain ⟨place, arguments, rfl, sameArguments⟩ := eq_cons_of_kinds sameInner
    obtain ⟨opening, read, rfl, same⟩ := eq_cons_of_kinds sameArguments
    exact accepts_callWith (same ▸ h.starts) (ih same)
  | argument _ ih => exact fun same => accepts_argument (ih same)
  | comma _ _ ih ih' =>
    intro read written
    obtain ⟨first, place, second, rfl, same, same'⟩ := eq_append_cons_of_kinds written
    exact accepts_comma (ih same) (ih' same')
  | relative h ih =>
    intro read same
    exact accepts_relative (same ▸ h.starts) (ih same)
  | root =>
    intro read same
    match read, same with
    | [⟨_, _⟩], rfl => exact accepts_root
  | absolute h ih =>
    intro read written
    obtain ⟨place, read, rfl, same⟩ := eq_cons_of_kinds written
    exact accepts_absolute (same ▸ h.starts) (ih same)
  | anywhere _ ih =>
    intro read written
    obtain ⟨place, read, rfl, same⟩ := eq_cons_of_kinds written
    exact accepts_anywhere (ih same)
  | step _ ih => exact fun same => accepts_step (ih same)
  | slash _ _ ih ih' =>
    intro read written
    obtain ⟨first, place, second, rfl, same, same'⟩ := eq_append_cons_of_kinds written
    exact accepts_slash (ih same) (ih' same')
  | doubleSlash _ _ ih ih' =>
    intro read written
    obtain ⟨first, place, second, rfl, same, same'⟩ := eq_append_cons_of_kinds written
    exact accepts_doubleSlash (ih same) (ih' same')
  | self =>
    intro read same
    match read, same with
    | [⟨_, _⟩], rfl => exact accepts_self
  | parent =>
    intro read same
    match read, same with
    | [⟨_, _⟩], rfl => exact accepts_parent
  | full specifies tests _ ih =>
    intro read written
    obtain ⟨read, last, rfl, same, sameLast⟩ := List.map_eq_append_iff.mp written
    obtain ⟨first, second, rfl, rfl, rfl⟩ := List.map_eq_append_iff.mp same
    exact accepts_full specifies tests (ih sameLast)
  | none =>
    intro read written
    obtain rfl := List.map_eq_nil_iff.mp written
    exact accepts_none
  | another _ _ ih ih' =>
    intro read written
    obtain ⟨inner, closing, second, rfl, sameInner, same'⟩ := eq_append_cons_of_kinds written
    obtain ⟨opening, first, rfl, same⟩ := eq_cons_of_kinds sameInner
    exact accepts_another (ih same) (ih' same')

/-! ### Whole expressions -/

/-- Tokens that are an expression are read as it. -/
theorem exprOfTokens_of_derives {tokens : List PlacedToken} {e : Expr}
    (h : Derives (.expr e) (kinds tokens)) : exprOfTokens stop tokens = .ok e := by
  have enough : Enough 11 (tokens ++ []) (depthFor tokens.length) := by
    rw [List.append_nil, Enough, depthFor]
    omega
  have accepted : Accepts stop (.expr e) tokens := accepts_of_derives h rfl
  have read := readExpr_of_accepts accepted (show Stops 9 [] from trivial) enough
  rw [List.append_nil] at read
  rw [exprOfTokens, read]
  rfl

theorem exprOfTokens_eq_ok_iff {tokens : List PlacedToken} {e : Expr} :
    exprOfTokens stop tokens = .ok e ↔ Derives (.expr e) (kinds tokens) :=
  ⟨derives_of_exprOfTokens, exprOfTokens_of_derives⟩

/-- **Exactly the expressions are read**, each as the tree it stands for. All other tokens are
refused with an error, among them those that refer to a variable. -/
theorem exprOfTokens_reads_grammar (stop : Nat) (tokens : List PlacedToken) :
    (∀ e, exprOfTokens stop tokens = .ok e ↔ Derives (.expr e) (kinds tokens))
      ∧ ((∃ error, exprOfTokens stop tokens = .error error)
        ↔ ∀ e, ¬Derives (.expr e) (kinds tokens))
      ∧ ((kinds tokens).any Token.isVariable = true →
        ∃ error, exprOfTokens stop tokens = .error error) := by
  have refused (none_ : ∀ e, ¬Derives (.expr e) (kinds tokens)) :
      ∃ error, exprOfTokens stop tokens = .error error := by
    cases h : exprOfTokens stop tokens with
    | ok e => exact absurd (derives_of_exprOfTokens h) (none_ e)
    | error error => exact ⟨error, rfl⟩
  refine ⟨fun e => exprOfTokens_eq_ok_iff, ⟨?_, refused⟩, fun refers => refused fun e derives => ?_⟩
  · rintro ⟨error, failed⟩ e derives
    rw [exprOfTokens_of_derives derives] at failed
    cases failed
  · rw [derives.any_isVariable] at refers
    cases refers

/-- `//a - . - ..` takes the second operand from the first one before the third. -/
example : Derives
    (.expr (.binary .subtract
      (.binary .subtract (.path true [.anyDepth, .plain .child (.named none "a")])
        (.path false [.plain .self .node]))
      (.path false [.plain .parent .node])))
    [.doubleSlash, .nameTest "a", .minus, .dot, .minus, .doubleDot] :=
  derives_of_exprOfTokens (show exprOfTokens 11
    [⟨.doubleSlash, 0⟩, ⟨.nameTest "a", 2⟩, ⟨.minus, 4⟩, ⟨.dot, 6⟩, ⟨.minus, 8⟩, ⟨.doubleDot, 9⟩]
      = .ok _ from rfl)

end Transclusion.XPath
