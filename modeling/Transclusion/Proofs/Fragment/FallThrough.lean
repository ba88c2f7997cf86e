import Transclusion.Fragment.ElementPointer
import Transclusion.Fragment.Expression
import Transclusion.Fragment.NamespaceBinding
import Transclusion.Proofs.Fragment.Copies
/-!
# Falling through the schemes of a fragment identifier

The schemes of a fragment identifier are asked in turn, each under the bindings of all answers
before its own (`Answer.listOf`).  An answer that neither selects content nor matches a node around
the include falls through to the next scheme; the first that does not decides.

* `Scheme.attempt_of_loops`, `Scheme.attempt_of_not_loops`: what the check makes of an answer.
* `selectFrom_append`: what is left to the schemes behind, when all before them have fallen through.
* `selectFrom_insert`: a scheme that has nothing to say does not change what the others select.
* `selectWith_falls_through`: the outcome of a search, read off the answers.
-/

namespace Transclusion

variable {context : SelectionContext} {around : Option AncestorSet} {fragment : String}
  {bindings : List (String × String)} {failure : Option SelectionError} {scheme : Scheme}
  {schemes before rest : List Scheme} {result : Document} {matched : List Nat}

/-! ### Answers -/

/-- What a scheme says when it is asked: why it fails, or what it selects. -/
abbrev Answer := Except SelectionError Selection

namespace Answer

variable {a : Answer}

/-- The bindings for the schemes behind; a scheme that fails passes on none. -/
def passedOn : Answer → List (String × String)
  | .ok selection => selection.bindings
  | .error _ => []

def failure? : Answer → Option SelectionError
  | .ok _ => none
  | .error e => some e

/-- The error of the last scheme that has failed. -/
def lastFailure (answers : List Answer) : Option SelectionError :=
  (answers.filterMap failure?).getLast?

/-- The scheme is done with this content, from these nodes. -/
def Finishes (a : Answer) (result : Document) (matched : List Nat) : Prop :=
  ∃ bindings, a = .ok ⟨true, some result, bindings, matched⟩

/-- The scheme has matched a node around the include, whether it is done or not. -/
def Loops (around : Option AncestorSet) (a : Answer) : Prop :=
  ∃ set selection, around = some set ∧ a = .ok selection ∧ ∃ i ∈ selection.matched, i ∈ set.numbers

/-- The scheme leaves it to those behind. -/
def FallsThrough (around : Option AncestorSet) (a : Answer) : Prop :=
  ¬Loops around a ∧ ∀ result matched, ¬Finishes a result matched

/-- The answers of schemes that are asked in turn, from these bindings on. -/
def listFrom (context : SelectionContext) (bindings : List (String × String)) :
    List Scheme → List Answer
  | [] => []
  | scheme :: rest =>
    let answer := scheme.select bindings context
    answer :: listFrom context (bindings ++ passedOn answer) rest

/-- The answers of the schemes of a fragment identifier. -/
def listOf (context : SelectionContext) (schemes : List Scheme) : List Answer :=
  listFrom context [] schemes

/-- The answer `a` is the one at place `k`, and all before it fall through. -/
def Reached (around : Option AncestorSet) (answers : List Answer) (k : Nat) (a : Answer) : Prop :=
  answers[k]? = some a ∧ ∀ b ∈ answers.take k, FallsThrough around b

theorem take_listFrom (k : Nat) :
    (listFrom context bindings schemes).take k = listFrom context bindings (schemes.take k) := by
  induction schemes generalizing bindings k with
  | nil => simp [listFrom]
  | cons scheme rest ih =>
    cases k with
    | zero => rfl
    | succ k => simp [listFrom, ih]

/-- A scheme answers under all bindings that the answers before it have passed on. -/
theorem getElem?_listFrom (context : SelectionContext) (bindings : List (String × String)) {k : Nat}
    (h : schemes[k]? = some scheme) :
    (listFrom context bindings schemes)[k]? = some (scheme.select
      (bindings ++ ((listFrom context bindings schemes).take k).flatMap passedOn) context) := by
  induction schemes generalizing bindings k with
  | nil => cases h
  | cons first rest ih =>
    cases k with
    | zero =>
      cases h
      simp [listFrom]
    | succ k =>
      have later := ih (bindings ++ passedOn (first.select bindings context)) h
      simpa [listFrom] using later

theorem length_listFrom : (listFrom context bindings schemes).length = schemes.length := by
  induction schemes generalizing bindings with
  | nil => rfl
  | cons scheme rest ih => simp [listFrom, ih]

theorem finishes_of_not_fallsThrough (decides : ¬FallsThrough around a) (clear : ¬Loops around a) :
    ∃ result matched, Finishes a result matched := by
  by_contra none_
  refine decides ⟨clear, fun result matched h => none_ ⟨result, matched, h⟩⟩

/-- Of some answers all fall through, or there is a first that does not. -/
theorem exists_reached (around : Option AncestorSet) (answers : List Answer) :
    (∀ a ∈ answers, FallsThrough around a)
      ∨ ∃ k a, Reached around answers k a ∧ ¬FallsThrough around a := by
  induction answers with
  | nil => exact .inl nofun
  | cons b answers ih =>
    by_cases first : FallsThrough around b
    · obtain all | ⟨k, a, ⟨here, earlier⟩, decides⟩ := ih
      · exact .inl (List.forall_mem_cons.mpr ⟨first, all⟩)
      · exact .inr ⟨k + 1, a, ⟨here, List.forall_mem_cons.mpr ⟨first, earlier⟩⟩, decides⟩
    · exact .inr ⟨0, b, ⟨rfl, nofun⟩, first⟩

end Answer

open Answer

/-! ### One scheme -/

namespace Scheme

/-- An answer that matches a node around the include ends the search. -/
theorem attempt_of_loops (h : Loops around (scheme.select bindings context)) :
    scheme.attempt bindings context around = .error (.loop .ancestor) := by
  obtain ⟨set, selection, rfl, answer, i, hi, here⟩ := h
  obtain ⟨refused, -⟩ | ⟨-, clear⟩ := set.check_cases selection.matched
  · rw [attempt, answer]
    show (set.check selection.matched >>= fun _ => _) = _
    rw [refused]
    rfl
  · exact absurd here (clear i hi)

/-- Every other answer is taken as it is. -/
theorem attempt_of_not_loops (h : ¬Loops around (scheme.select bindings context)) :
    scheme.attempt bindings context around = .ok (scheme.select bindings context) := by
  rw [attempt]
  cases answer : scheme.select bindings context with
  | error e => rfl
  | ok selection =>
    cases around with
    | none => rfl
    | some set =>
      obtain ⟨-, i, hi, here⟩ | ⟨passed, -⟩ := set.check_cases selection.matched
      · exact absurd ⟨set, selection, rfl, answer, i, hi, here⟩ h
      · show (set.check selection.matched >>= fun _ => _) = _
        rw [passed]
        rfl

end Scheme

theorem selectFrom_of_loops (h : Loops around (scheme.select bindings context)) :
    selectFrom context around fragment bindings failure (scheme :: rest)
      = .error (.loop .ancestor) := by
  rw [selectFrom, Scheme.attempt_of_loops h]
  rfl

theorem selectFrom_of_finishes (clear : ¬Loops around (scheme.select bindings context))
    (h : Finishes (scheme.select bindings context) result matched) :
    selectFrom context around fragment bindings failure (scheme :: rest)
      = .ok (result, matched) := by
  obtain ⟨more, answer⟩ := h
  rw [selectFrom, Scheme.attempt_of_not_loops clear, answer]
  rfl

/-- After an answer that falls through the search goes on with its bindings, or with its error. -/
theorem selectFrom_of_fallsThrough (h : FallsThrough around (scheme.select bindings context)) :
    selectFrom context around fragment bindings failure (scheme :: rest)
      = selectFrom context around fragment (bindings ++ passedOn (scheme.select bindings context))
        ((failure? (scheme.select bindings context)).or failure) rest := by
  rw [selectFrom, Scheme.attempt_of_not_loops h.1]
  obtain ⟨-, unfinished⟩ := h
  revert unfinished
  generalize scheme.select bindings context = a
  intro unfinished
  cases a with
  | error e =>
    rw [passedOn, List.append_nil]
    rfl
  | ok selection =>
    simp only [bind, Except.bind]
    cases answer : selection.answer? with
    | none => rfl
    | some found =>
      obtain ⟨more, same⟩ := Selection.answer?_eq_some_iff.mp answer
      exact absurd ⟨more, congrArg Except.ok same⟩ (unfinished found.1 found.2)

/-! ### All schemes -/

theorem Answer.lastFailure_cons (a : Answer) (answers : List Answer) :
    ((lastFailure answers).or ((failure? a).or failure))
      = (lastFailure (a :: answers)).or failure := by
  rw [lastFailure, lastFailure, List.filterMap_cons]
  cases failure? a with
  | none => rfl
  | some e =>
    rw [List.getLast?_cons]
    cases (answers.filterMap failure?).getLast? <;> rfl

/-- **Schemes that fall through leave the search to those behind**, with all bindings that they have
passed on and the last error. -/
theorem selectFrom_append (fragment : String) (failure : Option SelectionError) (rest : List Scheme)
    (falls : ∀ a ∈ listFrom context bindings before, FallsThrough around a) :
    selectFrom context around fragment bindings failure (before ++ rest)
      = selectFrom context around fragment
        (bindings ++ (listFrom context bindings before).flatMap passedOn)
        ((lastFailure (listFrom context bindings before)).or failure) rest := by
  induction before generalizing bindings failure with
  | nil =>
    simp [listFrom, lastFailure]
  | cons scheme before ih =>
    obtain ⟨first, behind⟩ := List.forall_mem_cons.mp falls
    rw [List.cons_append, selectFrom_of_fallsThrough first, ih _ behind, Answer.lastFailure_cons]
    rw [listFrom, List.flatMap_cons, List.append_assoc]

theorem selectWith_of_fallsThrough (falls : ∀ a ∈ listOf context schemes, FallsThrough around a) :
    selectWith schemes context around fragment
      = .error (.noFragment fragment (lastFailure (listOf context schemes))) := by
  have all := selectFrom_append fragment none [] falls
  rw [List.append_nil, Option.or_none] at all
  rw [selectWith, all]
  rfl

/-- When an answer is reached, the search goes on from its scheme. -/
theorem selectWith_of_reached (fragment : String) {k : Nat} {a : Answer}
    (h : Reached around (listOf context schemes) k a) :
    ∃ bindings failure scheme rest, scheme.select bindings context = a
      ∧ selectWith schemes context around fragment
        = selectFrom context around fragment bindings failure (scheme :: rest) := by
  obtain ⟨here, earlier⟩ := h
  have within : k < schemes.length := by
    have bound := (List.getElem?_eq_some_iff.mp here).1
    rwa [listOf, length_listFrom] at bound
  have answer := getElem?_listFrom context [] (List.getElem?_eq_getElem within)
  rw [take_listFrom] at answer
  rw [listOf, take_listFrom] at earlier
  have goesOn := selectFrom_append fragment none (schemes[k] :: schemes.drop (k + 1)) earlier
  have whole : schemes.take k ++ schemes[k] :: schemes.drop (k + 1) = schemes := by
    rw [List.getElem_cons_drop, List.take_append_drop]
  rw [whole] at goesOn
  exact ⟨_, _, _, _, Option.some.inj (answer.symm.trans here), goesOn⟩

section

variable {k : Nat} {a : Answer}

theorem selectWith_of_reached_loop (reached : Reached around (listOf context schemes) k a)
    (loops : Loops around a) :
    selectWith schemes context around fragment = .error (.loop .ancestor) := by
  obtain ⟨bindings, failure, scheme, rest, rfl, goesOn⟩ := selectWith_of_reached fragment reached
  exact goesOn.trans (selectFrom_of_loops loops)

theorem selectWith_of_reached_end (reached : Reached around (listOf context schemes) k a)
    (clear : ¬Loops around a) (finishes : Finishes a result matched) :
    selectWith schemes context around fragment = .ok (result, matched) := by
  obtain ⟨bindings, failure, scheme, rest, rfl, goesOn⟩ := selectWith_of_reached fragment reached
  exact goesOn.trans (selectFrom_of_finishes clear finishes)

end

/-- What can become of a search. -/
inductive SearchEnds (around : Option AncestorSet) (fragment : String) (answers : List Answer) :
    Except InclusionError (Document × List Nat) → Prop
  | found {k : Nat} {a : Answer} {result : Document} {matched : List Nat}
      (reached : Reached around answers k a) (clear : ¬Loops around a)
      (finishes : Finishes a result matched) :
      SearchEnds around fragment answers (.ok (result, matched))
  | loop {k : Nat} {a : Answer} (reached : Reached around answers k a) (loops : Loops around a) :
      SearchEnds around fragment answers (.error (.loop .ancestor))
  | nothing (falls : ∀ a ∈ answers, FallsThrough around a) :
      SearchEnds around fragment answers (.error (.noFragment fragment (lastFailure answers)))

theorem searchEnds_selectWith (schemes : List Scheme) (context : SelectionContext)
    (around : Option AncestorSet) (fragment : String) :
    SearchEnds around fragment (listOf context schemes)
      (selectWith schemes context around fragment) := by
  obtain all | ⟨k, a, reached, decides⟩ := exists_reached around (listOf context schemes)
  · rw [selectWith_of_fallsThrough all]
    exact .nothing all
  by_cases loops : Loops around a
  · rw [selectWith_of_reached_loop reached loops]
    exact .loop reached loops
  · obtain ⟨result, matched, finishes⟩ := finishes_of_not_fallsThrough decides loops
    rw [selectWith_of_reached_end reached loops finishes]
    exact .found reached loops finishes

/-! ### Schemes that have nothing to say -/

/-- The scheme fails, or it is not done with any content, matches nothing and passes nothing on. -/
def Answer.IsIdle : Answer → Prop
  | .error _ => True
  | .ok selection => (selection.finished = false ∨ selection.result = none)
    ∧ selection.matched = [] ∧ selection.bindings = []

/-- Whatever has been passed on to it, the scheme has nothing to say. -/
def Scheme.IsIdle (context : SelectionContext) (scheme : Scheme) : Prop :=
  ∀ bindings, Answer.IsIdle (scheme.select bindings context)

/-- The two searches end in the same way, but for the cause if nothing is found. -/
inductive SameButCause : Except InclusionError (Document × List Nat) →
    Except InclusionError (Document × List Nat) → Prop
  | same (o : Except InclusionError (Document × List Nat)) : SameButCause o o
  | nothing (fragment : String) (cause cause' : Option SelectionError) :
      SameButCause (.error (.noFragment fragment cause)) (.error (.noFragment fragment cause'))

/-- The schemes select the same from all bindings on, whatever has failed before. -/
def SelectSame (context : SelectionContext) (around : Option AncestorSet) (fragment : String)
    (schemes schemes' : List Scheme) : Prop :=
  ∀ bindings failure failure',
    SameButCause (selectFrom context around fragment bindings failure schemes)
      (selectFrom context around fragment bindings failure' schemes')

theorem SelectSame.cons {schemes' : List Scheme}
    (h : SelectSame context around fragment schemes schemes') (scheme : Scheme) :
    SelectSame context around fragment (scheme :: schemes) (scheme :: schemes') := by
  intro bindings failure failure'
  by_cases falls : FallsThrough around (scheme.select bindings context)
  · rw [selectFrom_of_fallsThrough falls, selectFrom_of_fallsThrough falls]
    exact h _ _ _
  by_cases loops : Loops around (scheme.select bindings context)
  · rw [selectFrom_of_loops loops, selectFrom_of_loops loops]
    exact .same _
  · obtain ⟨result, matched, finishes⟩ := finishes_of_not_fallsThrough falls loops
    rw [selectFrom_of_finishes loops finishes, selectFrom_of_finishes loops finishes]
    exact .same _

theorem selectSame_self (schemes : List Scheme) :
    SelectSame context around fragment schemes schemes := by
  induction schemes with
  | nil => exact fun bindings failure failure' => .nothing fragment failure failure'
  | cons scheme rest ih => exact ih.cons scheme

theorem Answer.IsIdle.fallsThrough {a : Answer} (h : a.IsIdle) (around : Option AncestorSet) :
    FallsThrough around a ∧ passedOn a = [] := by
  cases a with
  | error e =>
    refine ⟨⟨?_, ?_⟩, rfl⟩
    · rintro ⟨set, selection, -, ⟨⟩, -⟩
    · rintro result matched ⟨more, ⟨⟩⟩
  | ok selection =>
    obtain ⟨unfinished, matchesNone, silent⟩ := h
    refine ⟨⟨?_, ?_⟩, silent⟩
    · rintro ⟨set, selection, -, ⟨⟩, i, here, -⟩
      rw [matchesNone] at here
      cases here
    · rintro result matched ⟨more, ⟨⟩⟩
      obtain ⟨⟨⟩⟩ | ⟨⟨⟩⟩ := unfinished

/-- **A scheme that has nothing to say may stand anywhere.** -/
theorem selectFrom_insert (idle : scheme.IsIdle context) (before rest : List Scheme) :
    SelectSame context around fragment (before ++ scheme :: rest) (before ++ rest) := by
  induction before with
  | nil =>
    intro bindings failure failure'
    obtain ⟨falls, silent⟩ := (idle bindings).fallsThrough around
    rw [List.nil_append, List.nil_append, selectFrom_of_fallsThrough falls, silent, List.append_nil]
    exact selectSame_self rest _ _ _
  | cons first before ih => exact ih.cons first

theorem SameButCause.ok_iff {o o' : Except InclusionError (Document × List Nat)}
    (h : SameButCause o o') (r : Document × List Nat) : o = .ok r ↔ o' = .ok r := by
  cases h with
  | same => exact Iff.rfl
  | nothing => exact ⟨nofun, nofun⟩

theorem SameButCause.loop_iff {o o' : Except InclusionError (Document × List Nat)}
    (h : SameButCause o o') (fault : LoopFault) :
    o = .error (.loop fault) ↔ o' = .error (.loop fault) := by
  cases h with
  | same => exact Iff.rfl
  | nothing => exact ⟨nofun, nofun⟩

/-! ### The outcome -/

/-- The schemes behind an answer that decides are not asked. -/
theorem selectWith_take_append {k : Nat} {a : Answer}
    (reached : Reached around (listOf context schemes) k a) (decides : ¬FallsThrough around a)
    (others : List Scheme) :
    selectWith (schemes.take (k + 1) ++ others) context around fragment
      = selectWith schemes context around fragment := by
  have within : k + 1 ≤ schemes.length := by
    have bound := (List.getElem?_eq_some_iff.mp reached.1).1
    rwa [listOf, length_listFrom] at bound
  have start : (listOf context (schemes.take (k + 1) ++ others)).take (k + 1)
      = (listOf context schemes).take (k + 1) := by
    simp only [listOf, take_listFrom]
    rw [List.take_left' (by simp [within])]
  have reached' : Reached around (listOf context (schemes.take (k + 1) ++ others)) k a := by
    obtain ⟨here, earlier⟩ := reached
    rw [← List.getElem?_take_of_lt (Nat.lt_succ_self k), ← start,
      List.getElem?_take_of_lt (Nat.lt_succ_self k)] at here
    refine ⟨here, ?_⟩
    have shorter := congrArg (List.take k) start
    simp only [List.take_take, Nat.min_eq_left (Nat.le_succ k)] at shorter
    rwa [shorter]
  by_cases loops : Loops around a
  · rw [selectWith_of_reached_loop reached' loops, selectWith_of_reached_loop reached loops]
  · obtain ⟨result, matched, finishes⟩ := finishes_of_not_fallsThrough decides loops
    rw [selectWith_of_reached_end reached' loops finishes,
      selectWith_of_reached_end reached loops finishes]

/-- **Schemes fall through to those behind.**  Each scheme is asked under exactly the bindings that
the answers before its own have passed on, in their order.  The first answer that does not fall
through decides: if it matches a node around the include, the search ends in a loop, and otherwise
it has selected the result; the schemes behind do not matter.  If all fall through, nothing is
found, and the cause is the last failure.  A scheme that has nothing to say may be put in anywhere:
what is selected, or that there is a loop, stays as it is. -/
theorem selectWith_falls_through (schemes : List Scheme) (context : SelectionContext)
    (around : Option AncestorSet) (fragment : String) :
    let search := fun schemes => selectWith schemes context around fragment
    let answers := Answer.listOf context schemes
    (answers.length = schemes.length
      ∧ ∀ k (scheme : Scheme), schemes[k]? = some scheme →
        answers[k]? = some (scheme.select ((answers.take k).flatMap Answer.passedOn) context))
    ∧ (∀ result matched, search schemes = .ok (result, matched)
      ↔ ∃ k a, Answer.Reached around answers k a ∧ ¬a.Loops around ∧ a.Finishes result matched)
    ∧ (∀ fault, search schemes = .error (.loop fault)
      ↔ fault = .ancestor ∧ ∃ k a, Answer.Reached around answers k a ∧ a.Loops around)
    ∧ (∀ text cause, search schemes = .error (.noFragment text cause)
      ↔ text = fragment ∧ cause = Answer.lastFailure answers ∧ ∀ a ∈ answers, a.FallsThrough around)
    ∧ (∀ k a others, Answer.Reached around answers k a → ¬a.FallsThrough around →
      search (schemes.take (k + 1) ++ others) = search schemes)
    ∧ ∀ before rest (scheme : Scheme), schemes = before ++ rest → scheme.IsIdle context →
      (∀ r, search (before ++ scheme :: rest) = .ok r ↔ search schemes = .ok r)
      ∧ ∀ fault, search (before ++ scheme :: rest) = .error (.loop fault)
        ↔ search schemes = .error (.loop fault) := by
  intro search answers
  have ends : SearchEnds around fragment answers (search schemes) :=
    searchEnds_selectWith schemes context around fragment
  -- A search ends in one of three ways, which its outcome tells apart; so each part reads off the
  -- ending in one direction, and gives it in the other.
  refine ⟨⟨length_listFrom, ?_⟩, ?_, ?_, ?_, ?_, ?_⟩
  · intro k scheme here
    exact getElem?_listFrom context [] here
  · intro result matched
    constructor
    · intro found
      rw [found] at ends
      cases ends with
      | found reached clear finishes => exact ⟨_, _, reached, clear, finishes⟩
    · rintro ⟨k, a, reached, clear, finishes⟩
      exact selectWith_of_reached_end reached clear finishes
  · intro fault
    constructor
    · intro looped
      rw [looped] at ends
      cases ends with
      | loop reached loops => exact ⟨rfl, _, _, reached, loops⟩
    · rintro ⟨rfl, k, a, reached, loops⟩
      exact selectWith_of_reached_loop reached loops
  · intro text cause
    constructor
    · intro missed
      rw [missed] at ends
      cases ends with
      | nothing falls => exact ⟨rfl, rfl, falls⟩
    · rintro ⟨rfl, rfl, falls⟩
      exact selectWith_of_fallsThrough falls
  · intro k a others reached decides
    exact selectWith_take_append reached decides others
  · rintro before rest scheme rfl idle
    have inserted : SameButCause (search (before ++ scheme :: rest)) (search (before ++ rest)) :=
      selectFrom_insert idle before rest [] none none
    exact ⟨inserted.ok_iff, inserted.loop_iff⟩

/-! ### A page with two paragraphs -/

namespace LabelledPage

/-- `<doc><p xml:id="one"/><p xml:id="two"/></doc>` -/
def page : Document :=
  let p (id : String) (rest : Forest) : Forest :=
    .element ⟨.plain "p", .ofList [(.xml "id", id)], .empty, none⟩ .nil rest
  ⟨none, .element (.ofName (.plain "doc")) (p "one" (p "two" .nil)) .nil⟩

/-- Nothing is fixed up. -/
def setting : SelectionContext := ⟨page, ⟨⟨false, false, false, false⟩, none, none⟩⟩

/-- The second paragraph alone. -/
def second : Document :=
  ⟨none, .element ⟨.plain "p", .ofList [(.xml "id", "two")], .empty, none⟩ .nil .nil⟩

/-- `xpath(//q:p)`, which fails. -/
def unbound : Scheme := (⟨"//q:p"⟩ : ExpressionPointer).scheme

/-- `xmlns(q=urn:q)` -/
def binding : Scheme := (⟨"q", "urn:q"⟩ : NamespaceBinding).scheme

/-- `element(two)` -/
def two : Scheme := (⟨some "two", []⟩ : ElementPointer).scheme

/-- `element(three)`, which is nowhere. -/
def three : Scheme := (⟨some "three", []⟩ : ElementPointer).scheme

end LabelledPage

open LabelledPage in
/-- The first paragraph includes the second one, whatever stands before the scheme that finds it. -/
theorem selectWith_falls_through_labelledPage :
    let around := some (AncestorSet.ofInclude page.nodes 2)
    three.IsIdle setting
      ∧ selectWith [unbound, binding, two] setting around "" = .ok (second, [3])
      ∧ selectWith [unbound, three, binding, two] setting around "" = .ok (second, [3]) := by
  intro around
  have nowhere : ∀ bindings, three.select bindings setting = .ok .nothing :=
    fun _ => congrArg Except.ok (by decide +kernel)
  have idle : three.IsIdle setting := fun bindings => by
    rw [nowhere]
    exact ⟨.inl rfl, rfl, rfl⟩
  have found : selectWith [unbound, binding, two] setting around "" = .ok (second, [3]) :=
    eq_ok_of_toOption (by decide +kernel)
  obtain ⟨-, -, -, -, -, inserted⟩ :=
    selectWith_falls_through [unbound, binding, two] setting around ""
  have same := (inserted [unbound] [binding, two] three rfl idle).1 (second, [3])
  exact ⟨idle, found, same.mpr found⟩

end Transclusion
