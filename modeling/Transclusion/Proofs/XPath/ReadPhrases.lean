import Transclusion.Proofs.Outcome
import Transclusion.Proofs.XPath.Grammar
/-!
# What is read is a phrase

Each of the functions that read expressions takes a phrase of its kind off the front of the tokens.
At any depth of calls the functions do so if those one level deeper do (`ReadsPhrases.succ`).

* `readsPhrases`: what is read is a phrase.
* `derives_of_exprOfTokens`: tokens that are read as an expression are that expression.
-/

namespace Transclusion.XPath

/-- The tokens without their places. -/
abbrev kinds (tokens : List PlacedToken) : List Token := tokens.map (·.token)

/-! ### Phrases that are put together -/

/-- The steps go on: there are none, or there are some after one slash or two. -/
inductive Continues : List Step → List Token → Prop
  | done : Continues [] []
  | slash {steps : List Step} {ts : List Token} (h : Derives (.relative steps) ts) :
      Continues steps (.slash :: ts)
  | doubleSlash {steps : List Step} {ts : List Token} (h : Derives (.relative steps) ts) :
      Continues (.anyDepth :: steps) (.doubleSlash :: ts)

/-- If one more step can follow a separator, then any number of steps can. -/
theorem Derives.append_relative {before between : List Step} {ts us : List Token}
    {separator : Token} (join : ∀ s vs, Derives (.step s) vs →
      Derives (.relative (before ++ between ++ [s])) (ts ++ separator :: vs))
    {steps : List Step} (others : Derives (.relative steps) us) :
    Derives (.relative (before ++ between ++ steps)) (ts ++ separator :: us) := by
  generalize h : Phrase.relative steps = p at others
  induction others generalizing steps with
  | step last =>
    cases h
    exact join _ _ last
  | slash _ last ih =>
    cases h
    rw [← List.append_assoc, ← List.cons_append, ← List.append_assoc]
    exact .slash (ih rfl) last
  | doubleSlash _ last ih =>
    cases h
    rw [← List.append_assoc, ← List.cons_append, ← List.append_assoc]
    exact .doubleSlash (ih rfl) last
  | _ => cases h

/-- Steps that go on after others make up one path with them. -/
theorem Derives.append_continues {before steps : List Step} {ts us : List Token}
    (first : Derives (.relative before) ts) (others : Continues steps us) :
    Derives (.relative (before ++ steps)) (ts ++ us) := by
  cases others with
  | done => rwa [List.append_nil, List.append_nil]
  | @slash steps us h =>
    have join (s : Step) (vs : List Token) (last : Derives (.step s) vs) :
        Derives (.relative (before ++ [] ++ [s])) (ts ++ .slash :: vs) := by
      rw [List.append_nil]
      exact .slash first last
    have joined := h.append_relative join
    rwa [List.append_nil] at joined
  | @doubleSlash steps us h =>
    have join (s : Step) (vs : List Token) (last : Derives (.step s) vs) :
        Derives (.relative (before ++ [.anyDepth] ++ [s])) (ts ++ .doubleSlash :: vs) := by
      rw [List.append_assoc]
      exact .doubleSlash first last
    have joined := h.append_relative join
    rwa [List.append_assoc] at joined

/-- A filter with more predicates after it. -/
theorem Derives.append_predicates {e : Expr} {es ps : List Expr} {ts us : List Token}
    (first : Derives (.filter e es) ts) (others : Derives (.predicates ps) us) :
    Derives (.filter e (es ++ ps)) (ts ++ us) := by
  generalize h : Phrase.predicates ps = p at others
  induction others generalizing es ps ts with
  | none =>
    cases h
    rwa [List.append_nil, List.append_nil]
  | @another p ps vs ws next _ _ ih =>
    cases h
    have joined := ih (first.predicate next) rfl
    simpa using joined
  | _ => cases h

theorem Derives.relative_ne_nil {steps : List Step} {ts : List Token}
    (h : Derives (.relative steps) ts) : steps ≠ [] := by
  generalize same : Phrase.relative steps = p at h
  cases h with
  | step | slash | doubleSlash =>
    cases same
    simp
  | _ => cases same

/-- A filter alone, or with the steps that go on after it, is a path. -/
theorem Derives.path_of_filter {e : Expr} {es : List Expr} {steps : List Step} {ts us : List Token}
    (first : Derives (.filter e es) ts) (others : Continues steps us) :
    Derives (.path (if es.isEmpty && steps.isEmpty then e else .filter e es steps)) (ts ++ us) := by
  cases others with
  | done =>
    rw [List.append_nil]
    cases es with
    | nil => exact .filter first
    | cons => exact .filter first
  | slash h =>
    rw [List.isEmpty_eq_false_iff.mpr h.relative_ne_nil, Bool.and_false, if_neg Bool.false_ne_true]
    exact .filterSlash first h
  | doubleSlash h =>
    rw [List.isEmpty_cons, Bool.and_false, if_neg Bool.false_ne_true]
    exact .filterDoubleSlash first h

/-! ### Marks, axes and tests -/

section

variable {stop : Nat} {tokens rest : List PlacedToken}

theorem expect_eq_ok_iff {what : Punctuation} :
    expect stop what tokens = .ok ((), rest)
      ↔ ∃ t, tokens = t :: rest ∧ what.isMark t.token = true := by
  cases tokens with
  | nil => exact ⟨nofun, nofun⟩
  | cons t after =>
    rw [expect]
    split
    · next mark =>
      constructor
      · intro h
        cases h
        exact ⟨t, rfl, mark⟩
      · rintro ⟨_, same, -⟩
        cases same
        rfl
    · next other =>
      refine ⟨nofun, ?_⟩
      rintro ⟨_, same, mark⟩
      cases same
      exact absurd mark other

theorem specifies_of_readAxis {axis : Axis} (h : readAxis stop tokens = .ok (axis, rest)) :
    ∃ read, tokens = read ++ rest ∧ Specifies axis (kinds read) := by
  unfold readAxis at h
  split at h
  · cases h
    exact ⟨[_], rfl, .attribute_⟩
  · split at h
    · cases h
    · next name offset after axis' known =>
      obtain ⟨⟨_, last⟩, colons, h⟩ := bind_eq_ok_iff.mp h
      cases h
      obtain ⟨⟨t, place⟩, rfl, mark⟩ := expect_eq_ok_iff.mp colons
      obtain rfl := Axis.ofName?_eq_some_iff.mp known
      cases t <;> cases mark
      exact ⟨[_, _], rfl, .named axis⟩
  · cases h
    exact ⟨[], rfl, .child⟩

theorem tests_of_readTypeTest {type : NodeType} {test : NodeTest}
    (h : readTypeTest type tokens = (test, rest)) :
    ∃ read, tokens = read ++ rest
      ∧ Tests test (.nodeType type :: .openParen :: kinds read ++ [.closeParen]) := by
  unfold readTypeTest at h
  split at h
  · cases h
    exact ⟨[_], rfl, .target _⟩
  · cases h
    exact ⟨[], rfl, .type type⟩

theorem tests_of_readNodeTest {test : NodeTest} (h : readNodeTest stop tokens = .ok (test, rest)) :
    ∃ read, tokens = read ++ rest ∧ Tests test (kinds read) := by
  unfold readNodeTest at h
  split at h
  · cases h
    exact ⟨[_], rfl, .name (testOfName_eq_iff.mp rfl)⟩
  · next type place after =>
    obtain ⟨⟨_, inner⟩, opens, later⟩ := bind_eq_ok_iff.mp h
    dsimp only at later
    cases typed : readTypeTest type inner with
    | mk test' behind =>
      rw [typed] at later
      obtain ⟨⟨_, last⟩, closes, done⟩ := bind_eq_ok_iff.mp later
      cases done
      obtain ⟨read, rfl, tests⟩ := tests_of_readTypeTest typed
      obtain ⟨⟨t, p⟩, rfl, mark⟩ := expect_eq_ok_iff.mp opens
      obtain ⟨⟨u, q⟩, rfl, mark'⟩ := expect_eq_ok_iff.mp closes
      cases t <;> cases mark
      cases u <;> cases mark'
      refine ⟨⟨.nodeType type, place⟩ :: ⟨.openParen, p⟩ :: read ++ [⟨.closeParen, q⟩], by simp, ?_⟩
      simpa using tests
  · cases h

end

/-! ### The functions that read -/

/-- What has been read between the two positions is a phrase, together with the tokens before it. -/
def Yields (before : List Token) (p : Phrase) (tokens rest : List PlacedToken) : Prop :=
  ∃ read, tokens = read ++ rest ∧ Derives p (before ++ kinds read)

section

variable {before : List Token} {p q : Phrase} {tokens rest : List PlacedToken}

theorem Yields.nothing (h : Derives p before) : Yields before p tokens tokens :=
  ⟨[], rfl, by rwa [kinds, List.map_nil, List.append_nil]⟩

/-- What has been read before counts as read. -/
theorem Yields.prepend {read : List PlacedToken} (h : Yields (before ++ kinds read) p tokens rest) :
    Yields before p (read ++ tokens) rest := by
  obtain ⟨read', rfl, derives⟩ := h
  refine ⟨read ++ read', (List.append_assoc _ _ _).symm, ?_⟩
  rwa [kinds, List.map_append, ← List.append_assoc]

theorem Yields.map (h : Yields before p tokens rest)
    (also : ∀ {ts}, Derives p ts → Derives q ts) : Yields before q tokens rest := by
  obtain ⟨read, rfl, derives⟩ := h
  exact ⟨read, rfl, also derives⟩

end

/-- The functions that read, at this depth of calls, take phrases off the front of the tokens. -/
structure ReadsPhrases (stop depth : Nat) : Prop where
  binary {level : Nat} {tokens rest : List PlacedToken} {e : Expr} :
    readBinary stop depth level tokens = .ok (e, rest) → Yields [] (.binary level e) tokens rest
  operators {level : Nat} {tokens rest : List PlacedToken} {left e : Expr} {before : List Token} :
    readOperators stop depth level left tokens = .ok (e, rest) →
      Derives (.binary (level + 1) left) before → Yields before (.binary (level + 1) e) tokens rest
  unary {tokens rest : List PlacedToken} {e : Expr} :
    readUnary stop depth tokens = .ok (e, rest) → Yields [] (.unary e) tokens rest
  union {tokens rest : List PlacedToken} {left e : Expr} {before : List Token} :
    readUnion stop depth left tokens = .ok (e, rest) →
      Derives (.union left) before → Yields before (.union e) tokens rest
  path {tokens rest : List PlacedToken} {e : Expr} :
    readPath stop depth tokens = .ok (e, rest) → Yields [] (.path e) tokens rest
  primary {tokens rest : List PlacedToken} {e : Expr} :
    readPrimary stop depth tokens = .ok (e, rest) → Yields [] (.primary e) tokens rest
  arguments {tokens rest : List PlacedToken} {es : List Expr} :
    readArguments stop depth tokens = .ok (es, rest) →
      ∃ read close, tokens = read ++ close :: rest ∧ close.token = .closeParen
        ∧ Derives (.arguments es) (kinds read)
  predicates {tokens rest : List PlacedToken} {es : List Expr} :
    readPredicates stop depth tokens = .ok (es, rest) → Yields [] (.predicates es) tokens rest
  steps {tokens rest : List PlacedToken} {steps : List Step} :
    readSteps stop depth tokens = .ok (steps, rest) → Yields [] (.relative steps) tokens rest
  moreSteps {tokens rest : List PlacedToken} {steps : List Step} :
    readMoreSteps stop depth tokens = .ok (steps, rest) →
      ∃ read, tokens = read ++ rest ∧ Continues steps (kinds read)
  step {tokens rest : List PlacedToken} {s : Step} :
    readStep stop depth tokens = .ok (s, rest) → Yields [] (.step s) tokens rest

namespace ReadsPhrases

variable {stop depth : Nat} {tokens rest : List PlacedToken}

/-- Nothing is read when the calls are too deep. -/
theorem zero : ReadsPhrases stop 0 where
  binary h := by cases h
  operators h := by cases h
  unary h := by cases h
  union h := by cases h
  path h := by cases h
  primary h := by cases h
  arguments h := by cases h
  predicates h := by cases h
  steps h := by cases h
  moreSteps h := by cases h
  step h := by cases h

section

variable (ih : ReadsPhrases stop depth)

include ih

theorem binary_succ {level : Nat} {e : Expr}
    (h : readBinary stop (depth + 1) level tokens = .ok (e, rest)) :
    Yields [] (.binary level e) tokens rest := by
  cases level with
  | zero =>
    obtain ⟨read, rfl, derives⟩ := ih.unary h
    exact ⟨read, rfl, .unary derives⟩
  | succ level =>
    rw [readBinary] at h
    obtain ⟨⟨left, after⟩, first, later⟩ := bind_eq_ok_iff.mp h
    obtain ⟨read, rfl, derives⟩ := ih.binary first
    exact (ih.operators later (.operand derives)).prepend

theorem operators_succ {level : Nat} {left e : Expr} {before : List Token}
    (h : readOperators stop (depth + 1) level left tokens = .ok (e, rest))
    (first : Derives (.binary (level + 1) left) before) :
    Yields before (.binary (level + 1) e) tokens rest := by
  unfold readOperators at h
  split at h
  · cases h
    exact .nothing first
  · next t after =>
    split at h
    · cases h
      exact .nothing first
    · next op operates =>
      obtain ⟨⟨right, after'⟩, second, later⟩ := bind_eq_ok_iff.mp h
      obtain ⟨read, rfl, derives⟩ := ih.binary second
      have joined := first.operation (operatorAt?_eq_some_iff.mp operates) derives
      have more : Yields (before ++ kinds (t :: read)) _ after' rest := ih.operators later joined
      exact more.prepend

theorem unary_succ {e : Expr} (h : readUnary stop (depth + 1) tokens = .ok (e, rest)) :
    Yields [] (.unary e) tokens rest := by
  unfold readUnary at h
  split at h
  · obtain ⟨⟨operand, after⟩, inner, later⟩ := bind_eq_ok_iff.mp h
    cases later
    obtain ⟨read, rfl, derives⟩ := ih.unary inner
    exact ⟨_ :: read, rfl, .negation derives⟩
  · obtain ⟨⟨left, after⟩, first, later⟩ := bind_eq_ok_iff.mp h
    obtain ⟨read, rfl, derives⟩ := ih.path first
    exact ((ih.union later (.path derives)).prepend).map .union

theorem union_succ {left e : Expr} {before : List Token}
    (h : readUnion stop (depth + 1) left tokens = .ok (e, rest))
    (first : Derives (.union left) before) : Yields before (.union e) tokens rest := by
  unfold readUnion at h
  split at h
  · next place behind =>
    obtain ⟨⟨right, after⟩, second, later⟩ := bind_eq_ok_iff.mp h
    obtain ⟨read, rfl, derives⟩ := ih.path second
    have more : Yields (before ++ kinds (⟨.pipe, place⟩ :: read)) _ after rest :=
      ih.union later (first.alternative derives)
    exact more.prepend
  · cases h
    exact .nothing first

theorem path_succ {e : Expr} (h : readPath stop (depth + 1) tokens = .ok (e, rest)) :
    Yields [] (.path e) tokens rest := by
  unfold readPath at h
  -- By the first token: a slash, which may stand alone; a double slash; or the start of a filter or
  -- of a step.
  split at h
  · next place after =>
    split at h
    · next t behind =>
      split at h
      · obtain ⟨⟨steps, last⟩, first, later⟩ := bind_eq_ok_iff.mp h
        cases later
        obtain ⟨read, same, derives⟩ := ih.steps first
        exact ⟨⟨.slash, place⟩ :: read, congrArg _ same, .location (.absolute derives)⟩
      · cases h
        exact ⟨[_], rfl, .location .root⟩
    · cases h
      exact ⟨[_], rfl, .location .root⟩
  · next place after =>
    obtain ⟨⟨steps, last⟩, first, later⟩ := bind_eq_ok_iff.mp h
    cases later
    obtain ⟨read, rfl, derives⟩ := ih.steps first
    exact ⟨⟨.doubleSlash, place⟩ :: read, rfl, .location (.anywhere derives)⟩
  · split at h
    · obtain ⟨⟨primary, after⟩, first, later⟩ := bind_eq_ok_iff.mp h
      obtain ⟨⟨predicates, after'⟩, second, later'⟩ := bind_eq_ok_iff.mp later
      obtain ⟨⟨steps, last⟩, third, done⟩ := bind_eq_ok_iff.mp later'
      obtain ⟨read, same, derives⟩ := ih.primary first
      obtain ⟨read', rfl, derives'⟩ := ih.predicates second
      obtain ⟨read'', rfl, continues⟩ := ih.moreSteps third
      have path : Derives (.path
          (if predicates.isEmpty && steps.isEmpty then primary
            else .filter primary predicates steps))
          (kinds read ++ kinds read' ++ kinds read'') :=
        ((Derives.primary derives).append_predicates derives').path_of_filter continues
      rw [same, ← List.append_assoc, ← List.append_assoc]
      dsimp only at done
      split at done
      · next empty =>
        cases done
        rw [if_pos empty] at path
        exact ⟨_, rfl, by simpa using path⟩
      · next notEmpty =>
        cases done
        rw [if_neg notEmpty] at path
        exact ⟨_, rfl, by simpa using path⟩
    · obtain ⟨⟨steps, last⟩, first, later⟩ := bind_eq_ok_iff.mp h
      cases later
      exact (ih.steps first).map fun derives => .location (.relative derives)
  · obtain ⟨⟨steps, last⟩, first, later⟩ := bind_eq_ok_iff.mp h
    cases later
    exact (ih.steps first).map fun derives => .location (.relative derives)

theorem primary_succ {e : Expr} (h : readPrimary stop (depth + 1) tokens = .ok (e, rest)) :
    Yields [] (.primary e) tokens rest := by
  unfold readPrimary at h
  split at h
  · cases h
  · next place after =>
    obtain ⟨⟨inner, after'⟩, first, later⟩ := bind_eq_ok_iff.mp h
    obtain ⟨⟨_, last⟩, closes, done⟩ := bind_eq_ok_iff.mp later
    cases done
    obtain ⟨read, rfl, derives⟩ := ih.binary first
    obtain ⟨⟨t, p⟩, rfl, mark⟩ := expect_eq_ok_iff.mp closes
    cases t <;> cases mark
    refine ⟨⟨.openParen, place⟩ :: read ++ [⟨.closeParen, p⟩], by simp, ?_⟩
    simpa using Derives.parentheses derives
  · cases h
    exact ⟨[_], rfl, .literal _⟩
  · cases h
    exact ⟨[_], rfl, .number _⟩
  · next f place after =>
    obtain ⟨⟨_, after'⟩, opens, later⟩ := bind_eq_ok_iff.mp h
    obtain ⟨⟨t, p⟩, rfl, mark⟩ := expect_eq_ok_iff.mp opens
    cases t <;> cases mark
    dsimp only at later
    split at later
    · cases later
      exact ⟨[_, _, _], rfl, .call f⟩
    · obtain ⟨⟨es, last⟩, first, done⟩ := bind_eq_ok_iff.mp later
      cases done
      obtain ⟨read, ⟨t, q⟩, rfl, close, derives⟩ := ih.arguments first
      obtain rfl : t = .closeParen := close
      refine ⟨⟨.functionName f, place⟩ :: ⟨.openParen, p⟩ :: read ++ [⟨.closeParen, q⟩], by simp,
        ?_⟩
      simpa using Derives.callWith derives
  · cases h

theorem arguments_succ {es : List Expr}
    (h : readArguments stop (depth + 1) tokens = .ok (es, rest)) :
    ∃ read close, tokens = read ++ close :: rest ∧ close.token = .closeParen
      ∧ Derives (.arguments es) (kinds read) := by
  unfold readArguments at h
  obtain ⟨⟨e, after⟩, first, later⟩ := bind_eq_ok_iff.mp h
  obtain ⟨read, rfl, derives⟩ := ih.binary first
  dsimp only at later
  split at later
  · next place behind =>
    obtain ⟨⟨others, last⟩, second, done⟩ := bind_eq_ok_iff.mp later
    cases done
    obtain ⟨read', close, rfl, closes, derives'⟩ := ih.arguments second
    refine ⟨read ++ ⟨.comma, place⟩ :: read', close, by simp, closes, ?_⟩
    rw [kinds, List.map_append]
    exact .comma derives derives'
  · obtain ⟨⟨_, last⟩, closes, done⟩ := bind_eq_ok_iff.mp later
    cases done
    obtain ⟨⟨t, p⟩, rfl, mark⟩ := expect_eq_ok_iff.mp closes
    cases t <;> cases mark
    exact ⟨read, ⟨.closeParen, p⟩, rfl, rfl, .argument derives⟩

theorem predicates_succ {es : List Expr}
    (h : readPredicates stop (depth + 1) tokens = .ok (es, rest)) :
    Yields [] (.predicates es) tokens rest := by
  unfold readPredicates at h
  split at h
  · next place after =>
    obtain ⟨⟨e, after'⟩, first, later⟩ := bind_eq_ok_iff.mp h
    obtain ⟨⟨_, behind⟩, closes, later'⟩ := bind_eq_ok_iff.mp later
    obtain ⟨⟨others, last⟩, second, done⟩ := bind_eq_ok_iff.mp later'
    cases done
    obtain ⟨read, rfl, derives⟩ := ih.binary first
    obtain ⟨⟨t, p⟩, rfl, mark⟩ := expect_eq_ok_iff.mp closes
    cases t <;> cases mark
    obtain ⟨read', rfl, derives'⟩ := ih.predicates second
    refine ⟨⟨.openBracket, place⟩ :: read ++ ⟨.closeBracket, p⟩ :: read', by simp, ?_⟩
    simpa using Derives.another derives derives'
  · cases h
    exact .nothing .none

theorem steps_succ {steps : List Step} (h : readSteps stop (depth + 1) tokens = .ok (steps, rest)) :
    Yields [] (.relative steps) tokens rest := by
  unfold readSteps at h
  obtain ⟨⟨s, after⟩, first, later⟩ := bind_eq_ok_iff.mp h
  obtain ⟨⟨others, last⟩, second, done⟩ := bind_eq_ok_iff.mp later
  cases done
  obtain ⟨read, rfl, derives⟩ := ih.step first
  obtain ⟨read', rfl, continues⟩ := ih.moreSteps second
  refine ⟨read ++ read', (List.append_assoc _ _ _).symm, ?_⟩
  rw [kinds, List.map_append]
  exact (Derives.step derives).append_continues continues

theorem moreSteps_succ {steps : List Step}
    (h : readMoreSteps stop (depth + 1) tokens = .ok (steps, rest)) :
    ∃ read, tokens = read ++ rest ∧ Continues steps (kinds read) := by
  unfold readMoreSteps at h
  split at h
  · obtain ⟨read, rfl, derives⟩ := ih.steps h
    exact ⟨_ :: read, rfl, .slash derives⟩
  · obtain ⟨⟨others, last⟩, first, done⟩ := bind_eq_ok_iff.mp h
    cases done
    obtain ⟨read, rfl, derives⟩ := ih.steps first
    exact ⟨_ :: read, rfl, .doubleSlash derives⟩
  · cases h
    exact ⟨[], rfl, .done⟩

theorem step_succ {s : Step} (h : readStep stop (depth + 1) tokens = .ok (s, rest)) :
    Yields [] (.step s) tokens rest := by
  unfold readStep at h
  split at h
  · cases h
    exact ⟨[_], rfl, .self⟩
  · cases h
    exact ⟨[_], rfl, .parent⟩
  · obtain ⟨⟨axis, after⟩, first, later⟩ := bind_eq_ok_iff.mp h
    obtain ⟨⟨test, after'⟩, second, later'⟩ := bind_eq_ok_iff.mp later
    obtain ⟨⟨es, last⟩, third, done⟩ := bind_eq_ok_iff.mp later'
    cases done
    obtain ⟨read, same, specifies⟩ := specifies_of_readAxis first
    obtain ⟨read', rfl, tests⟩ := tests_of_readNodeTest second
    obtain ⟨read'', rfl, derives⟩ := ih.predicates third
    refine ⟨read ++ read' ++ read'', by rw [same, List.append_assoc, List.append_assoc], ?_⟩
    simp only [kinds, List.map_append]
    exact .full specifies tests derives

/-- Functions that call functions that read phrases read phrases. -/
theorem succ : ReadsPhrases stop (depth + 1) where
  binary := ih.binary_succ
  operators := ih.operators_succ
  unary := ih.unary_succ
  union := ih.union_succ
  path := ih.path_succ
  primary := ih.primary_succ
  arguments := ih.arguments_succ
  predicates := ih.predicates_succ
  steps := ih.steps_succ
  moreSteps := ih.moreSteps_succ
  step := ih.step_succ

end

end ReadsPhrases

/-- **What is read is a phrase**, at any depth of calls. -/
theorem readsPhrases (stop depth : Nat) : ReadsPhrases stop depth := by
  induction depth with
  | zero => exact .zero
  | succ depth ih => exact ih.succ

/-- Tokens that are read as an expression are that expression. -/
theorem derives_of_exprOfTokens {stop : Nat} {tokens : List PlacedToken} {e : Expr}
    (h : exprOfTokens stop tokens = .ok e) : Derives (.expr e) (kinds tokens) := by
  unfold exprOfTokens at h
  obtain ⟨⟨e', rest⟩, read, later⟩ := bind_eq_ok_iff.mp h
  dsimp only at later
  split at later
  · cases later
    obtain ⟨all, rfl, derives⟩ := (readsPhrases stop _).binary read
    rwa [List.append_nil]
  · cases later

end Transclusion.XPath
