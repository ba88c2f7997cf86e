import Mathlib.Data.List.Infix
import Mathlib.Data.List.MinMax
import Transclusion.Proofs.Fragment.RangeCuts
import Transclusion.Proofs.Fragment.SearchGrammar
/-!
# The block that a search selects

An anchor stands for one of the lines that contain its text (`Anchor.Marks`).  The anchors of a
search with their boundaries delimit lines that follow each other (`Search.StartsAt`,
`Search.EndsBefore`); of these, blank ones at the ends may be left out (`Search.Keeps`).  With
`strip` the lines of the block lose what white space they have in common at their starts
(`IsCommonIndent`, `Unindents`).

* `Anchor.find?_eq_some_iff`, `Anchor.find?_eq_none_iff`: which line is found, and when there is
  none.
* `Search.block?_eq_none_iff`, `Search.exists_of_block?`: which lines are in the block, if any.
* `Search.selects_block`: what a search finds in a text.
-/

namespace Transclusion

open Text

variable {α : Type} {ls block : List (List Char)} {line : List Char} {first stop index width : Nat}

/-! ### Lines that contain a text -/

theorem Text.containsText_iff {needle cs : List Char} :
    containsText needle cs = true ↔ needle <:+: cs := by
  induction cs with
  | nil =>
    rw [containsText, cutAtText, List.infix_nil]
    cases needle <;> simp [List.isPrefixOf?]
  | cons d rest ih =>
    rw [List.infix_cons_iff, ← ih, containsText, cutAtText]
    cases start : needle.isPrefixOf? (d :: rest) with
    | some after =>
      have here : needle <+: d :: rest :=
        ⟨after, List.isPrefixOf?_eq_some_iff_append_eq.mp start⟩
      simp [here]
    | none =>
      have notHere : ¬needle <+: d :: rest := fun ⟨after, same⟩ => by
        rw [List.isPrefixOf?_eq_some_iff_append_eq.mpr same] at start
        cases start
      rw [containsText, or_iff_right notHere]
      cases cutAtText needle rest <;> rfl

theorem List.drop_zipIdx (xs : List α) (k n : Nat) :
    (xs.zipIdx k).drop n = (xs.drop n).zipIdx (k + n) := by
  refine List.ext_getElem? fun i => ?_
  rw [List.getElem?_drop, List.getElem?_zipIdx, List.getElem?_zipIdx, List.getElem?_drop,
    Nat.add_assoc]

/-- The index of the member that satisfies `p` after `n` others, when the indices start at `k`. -/
theorem getElem?_filter_zipIdx_eq_some_iff (p : α → Bool) (xs : List α) (k n i : Nat) :
    (((xs.zipIdx k).filter fun x => p x.1)[n]?).map (·.2) = some i
      ↔ ∃ m x, i = k + m ∧ xs[m]? = some x ∧ p x = true ∧ (xs.take m).countP p = n := by
  induction xs generalizing k n with
  | nil => simp
  | cons x xs ih =>
    rw [List.zipIdx_cons, List.filter_cons]
    by_cases here : p x = true
    · rw [if_pos here]
      cases n with
      | zero =>
        constructor
        · intro h
          exact ⟨0, x, (Option.some.inj h).symm, rfl, here, rfl⟩
        · rintro ⟨m, y, rfl, -, -, none_⟩
          cases m with
          | zero => rfl
          | succ m => simp [here] at none_
      | succ n =>
        rw [List.getElem?_cons_succ, ih]
        constructor
        · rintro ⟨m, y, rfl, found, holds, before⟩
          exact ⟨m + 1, y, by omega, found, holds, by simp [here, before]⟩
        · rintro ⟨m, y, rfl, found, holds, before⟩
          cases m with
          | zero => cases before
          | succ m => exact ⟨m, y, by omega, found, holds, by simpa [here] using before⟩
    · rw [if_neg here, ih]
      constructor
      · rintro ⟨m, y, rfl, found, holds, before⟩
        exact ⟨m + 1, y, by omega, found, holds, by simp [here, before]⟩
      · rintro ⟨m, y, rfl, found, holds, before⟩
        cases m with
        | zero =>
          cases found
          exact absurd holds here
        | succ m => exact ⟨m, y, by omega, found, holds, by simpa [here] using before⟩

namespace Anchor

/-- How many of these lines contain the text of the anchor. -/
def occurrences (a : Anchor) (ls : List (List Char)) : Nat := ls.countP fun line => a.text <:+: line

/-- The anchor stands for the line with this index: as many lines with its text as it counts, from
the line `first` on. -/
structure Marks (a : Anchor) (ls : List (List Char)) (first index : Nat) : Prop where
  behind : first ≤ index
  contains : ∃ line, ls[index]? = some line ∧ a.text <:+: line
  counted : a.occurrences ((ls.take index).drop first) + 1 = a.count

variable {a : Anchor} (positive : 1 ≤ a.count)

/-- The lines that an anchor is looked for in. -/
theorem find?_eq (a : Anchor) (ls : List (List Char)) (first : Nat) :
    a.find? ls first = ((((ls.drop first).zipIdx first).filter fun x =>
      decide (a.text <:+: x.1))[a.count - 1]?).map (·.2) := by
  have same : (fun x : List Char × Nat => containsText a.text x.1)
      = fun x => decide (a.text <:+: x.1) :=
    funext fun x => Bool.eq_iff_iff.mpr (by rw [containsText_iff, decide_eq_true_iff])
  rw [find?]
  dsimp only
  rw [List.drop_zipIdx, Nat.zero_add, same]

include positive

theorem find?_eq_some_iff : a.find? ls first = some index ↔ a.Marks ls first index := by
  rw [find?_eq, getElem?_filter_zipIdx_eq_some_iff (fun line => decide (a.text <:+: line))]
  constructor
  · rintro ⟨m, line, rfl, found, contains, before⟩
    rw [List.getElem?_drop] at found
    refine ⟨Nat.le_add_right first m, ⟨line, found, of_decide_eq_true contains⟩, ?_⟩
    rw [occurrences, List.drop_take, Nat.add_sub_cancel_left, before]
    omega
  · rintro ⟨behind, ⟨line, found, contains⟩, counted⟩
    have whole : first + (index - first) = index := Nat.add_sub_cancel' behind
    refine ⟨index - first, line, whole.symm, ?_, decide_eq_true contains, ?_⟩
    · rw [List.getElem?_drop, whole, found]
    · rw [occurrences, List.drop_take] at counted
      omega

theorem find?_eq_none_iff :
    a.find? ls first = none ↔ a.occurrences (ls.drop first) < a.count := by
  have length : (((ls.drop first).zipIdx first).filter fun x => decide (a.text <:+: x.1)).length
      = a.occurrences (ls.drop first) := by
    have lines : (((ls.drop first).zipIdx first).map Prod.fst) = ls.drop first :=
      List.zipIdx_map_fst _ _
    rw [occurrences, ← List.countP_eq_length_filter]
    conv_rhs => rw [← lines, List.countP_map]
    rfl
  rw [find?_eq, Option.map_eq_none_iff, List.getElem?_eq_none_iff, length]
  omega

end Anchor

/-! ### Ends that are read -/

/-- An anchor that counts from 1, with any boundary, or none. -/
inductive IsEnd : Option Anchor → Boundary → Prop
  | open_ : IsEnd none .inclusive
  | given {a : Anchor} {boundary : Boundary} (positive : 1 ≤ a.count) : IsEnd (some a) boundary

namespace Anchor

theorem positive_of_readCount {digits : List Char} {n : Nat} (h : readCount digits = .ok n) :
    1 ≤ n := by
  unfold readCount at h
  split at h
  · cases h
    exact le_rfl
  · revert h
    cases readIndex? digits with
    | none => exact nofun
    | some count =>
      cases count with
      | zero => exact nofun
      | succ count =>
        rintro ⟨⟩
        exact Nat.succ_pos count

theorem isEnd_of_readEnd {which : SearchEnd} {cs : List Char} {found}
    (h : readEnd which cs = .ok found) : IsEnd found.1.1 found.1.2 := by
  obtain ⟨⟨anchor, rest⟩, read, given⟩ := bind_eq_ok_iff.mp h
  cases given
  obtain ⟨count, counted, read⟩ := bind_eq_ok_iff.mp (mapError_eq_ok_iff.mp read)
  obtain ⟨⟨text, after⟩, -, read⟩ := bind_eq_ok_iff.mp read
  cases read
  exact .given (positive_of_readCount counted)

end Anchor

namespace Search

theorem isEnd_of_readStart {cs : List Char} {found} (h : readStart cs = .ok found) :
    IsEnd found.1.1 found.1.2 := by
  unfold readStart at h
  split at h
  · cases h
    exact .open_
  · exact Anchor.isEnd_of_readEnd h

theorem isEnd_of_readStop {cs : List Char} {found} (h : readStop cs = .ok found) :
    IsEnd found.1.1 found.1.2 := by
  unfold readStop at h
  split at h
  · split at h
    · cases h
      exact .open_
    · exact Anchor.isEnd_of_readEnd h
  · cases h
    exact .open_

theorem isEnd_of_read {data : String} {s : Search} (h : read data = .ok s) :
    IsEnd s.start s.startBoundary ∧ IsEnd s.stop s.stopBoundary := by
  have chars := mapError_eq_ok_iff.mp h
  unfold readChars at chars
  dsimp only at chars
  split at chars
  · cases chars
  obtain ⟨first, started, chars⟩ := bind_eq_ok_iff.mp chars
  obtain ⟨last, ended, chars⟩ := bind_eq_ok_iff.mp chars
  obtain ⟨⟨strip, check⟩, -, chars⟩ := bind_eq_ok_iff.mp chars
  cases chars
  exact ⟨isEnd_of_readStart started, isEnd_of_readStop ended⟩

/-! ### The lines between the anchors -/

/-- The line that the lines of the block start at. -/
inductive StartsAt (ls : List (List Char)) : Option Anchor → Boundary → Nat → Prop
  | open_ : StartsAt ls none .inclusive 0
  | at_ {a : Anchor} {index : Nat} (marks : a.Marks ls 0 index) :
      StartsAt ls (some a) .inclusive index
  | behind {a : Anchor} {boundary : Boundary} {index : Nat} (marks : a.Marks ls 0 index)
      (other : boundary ≠ .inclusive) : StartsAt ls (some a) boundary (index + 1)

/-- The line that the lines of the block end before, the last anchor being looked for from the line
`first` on. -/
inductive EndsBefore (ls : List (List Char)) (first : Nat) : Option Anchor → Boundary → Nat → Prop
  | open_ : EndsBefore ls first none .inclusive ls.length
  | behind {a : Anchor} {index : Nat} (marks : a.Marks ls first index) :
      EndsBefore ls first (some a) .inclusive (index + 1)
  | at_ {a : Anchor} {boundary : Boundary} {index : Nat} (marks : a.Marks ls first index)
      (other : boundary ≠ .inclusive) : EndsBefore ls first (some a) boundary index

/-- There is no block: a line for an anchor is missing, or the last one leaves no line. -/
inductive Lacks (s : Search) (ls : List (List Char)) : Prop
  | start {a : Anchor} (given : s.start = some a) (fewer : a.occurrences ls < a.count)
  | stop {a : Anchor} {first : Nat} (starts : StartsAt ls s.start s.startBoundary first)
      (given : s.stop = some a) (fewer : a.occurrences (ls.drop first) < a.count)
  | line {a : Anchor} {first stop : Nat} (starts : StartsAt ls s.start s.startBoundary first)
      (given : s.stop = some a) (ends : EndsBefore ls first s.stop s.stopBoundary stop)
      (nothing : stop ≤ first)

/-- The line behind the boundary of the first anchor. -/
theorem startsAt_some_iff {a : Anchor} {boundary : Boundary} : StartsAt ls (some a) boundary first
    ↔ ∃ index, a.Marks ls 0 index
      ∧ (if boundary = .inclusive then index else index + 1) = first := by
  constructor
  · rintro (_ | marks | ⟨marks, other⟩)
    · exact ⟨first, marks, if_pos rfl⟩
    · exact ⟨_, marks, if_neg other⟩
  · rintro ⟨index, marks, rfl⟩
    split
    · next inclusive =>
      rw [inclusive]
      exact .at_ marks
    · next other => exact .behind marks other

theorem endsBefore_some_iff {a : Anchor} {boundary : Boundary} :
    EndsBefore ls first (some a) boundary stop
      ↔ ∃ index, a.Marks ls first index
        ∧ (if boundary = .inclusive then index + 1 else index) = stop := by
  constructor
  · rintro (_ | marks | ⟨marks, other⟩)
    · exact ⟨_, marks, if_pos rfl⟩
    · exact ⟨stop, marks, if_neg other⟩
  · rintro ⟨index, marks, rfl⟩
    split
    · next inclusive =>
      rw [inclusive]
      exact .behind marks
    · next other => exact .at_ marks other

variable {s : Search}

theorem first?_of_some {a : Anchor} (given : s.start = some a) (ls : List (List Char)) :
    s.first? ls = (a.find? ls 0).map fun index =>
      if s.startBoundary = .inclusive then index else index + 1 := by
  rw [first?, given]
  show a.find? ls 0 >>= _ = _
  cases a.find? ls 0 <;> rfl

theorem end?_of_some {a : Anchor} (given : s.stop = some a) (ls : List (List Char)) (first : Nat) :
    s.end? ls first = ((a.find? ls first).map fun index =>
      if s.stopBoundary = .inclusive then index + 1 else index).bind fun stop =>
        if stop ≤ first then none else some stop := by
  rw [end?, given]
  show a.find? ls first >>= _ = _
  cases a.find? ls first <;> rfl

theorem first?_eq_some_iff (isEnd : IsEnd s.start s.startBoundary) :
    s.first? ls = some first ↔ StartsAt ls s.start s.startBoundary first := by
  cases given : s.start with
  | none =>
    rw [given] at isEnd
    generalize s.startBoundary = boundary at isEnd ⊢
    cases isEnd
    rw [first?, given]
    constructor
    · rintro ⟨⟩
      exact .open_
    · rintro ⟨⟩
      rfl
  | some a =>
    rw [given] at isEnd
    cases isEnd with
    | given positive =>
      rw [first?_of_some given, startsAt_some_iff, Option.map_eq_some_iff]
      simp only [Anchor.find?_eq_some_iff positive]

theorem first?_eq_none_iff (isEnd : IsEnd s.start s.startBoundary) :
    s.first? ls = none ↔ ∃ a, s.start = some a ∧ a.occurrences ls < a.count := by
  cases given : s.start with
  | none =>
    rw [first?, given]
    simp
  | some a =>
    rw [given] at isEnd
    cases isEnd with
    | given positive =>
      rw [first?_of_some given, Option.map_eq_none_iff, Anchor.find?_eq_none_iff positive,
        List.drop_zero]
      simp

theorem end?_eq_some_iff (isEnd : IsEnd s.stop s.stopBoundary) :
    s.end? ls first = some stop
      ↔ EndsBefore ls first s.stop s.stopBoundary stop ∧ (s.stop ≠ none → first < stop) := by
  cases given : s.stop with
  | none =>
    rw [given] at isEnd
    generalize s.stopBoundary = boundary at isEnd ⊢
    cases isEnd
    rw [end?, given]
    constructor
    · rintro ⟨⟩
      exact ⟨.open_, fun given => absurd rfl given⟩
    · rintro ⟨⟨⟩, -⟩
      rfl
  | some a =>
    rw [given] at isEnd
    cases isEnd with
    | given positive =>
      rw [end?_of_some given, endsBefore_some_iff, Option.bind_eq_some_iff]
      simp only [Option.map_eq_some_iff, Anchor.find?_eq_some_iff positive, ite_eq_iff,
        Option.some.injEq, Nat.not_le, reduceCtorEq, and_false, false_or, ne_eq, not_false_eq_true,
        forall_const]
      constructor
      · rintro ⟨_, marks, some_, rfl⟩
        exact ⟨marks, some_⟩
      · rintro ⟨marks, some_⟩
        exact ⟨stop, marks, some_, rfl⟩

theorem end?_eq_none_iff (isEnd : IsEnd s.stop s.stopBoundary) :
    s.end? ls first = none ↔ ∃ a, s.stop = some a ∧ (a.occurrences (ls.drop first) < a.count
      ∨ ∃ stop, EndsBefore ls first s.stop s.stopBoundary stop ∧ stop ≤ first) := by
  cases given : s.stop with
  | none =>
    rw [end?, given]
    simp
  | some a =>
    rw [given] at isEnd
    cases isEnd with
    | given positive =>
      rw [end?_of_some given]
      simp only [Option.some.injEq, exists_eq_left', endsBefore_some_iff,
        ← Anchor.find?_eq_none_iff positive, ← Anchor.find?_eq_some_iff positive]
      cases a.find? ls first <;> simp

/-- There is no block where the search lacks something. -/
theorem block?_eq_none_iff (starts : IsEnd s.start s.startBoundary)
    (ends : IsEnd s.stop s.stopBoundary) : s.block? ls = none ↔ s.Lacks ls := by
  have parts : s.block? ls = none
      ↔ s.first? ls = none ∨ ∃ first, s.first? ls = some first ∧ s.end? ls first = none := by
    rw [block?]
    cases s.first? ls with
    | none => simp
    | some first => cases h : s.end? ls first <;> simp [h]
  rw [parts, first?_eq_none_iff starts]
  simp only [first?_eq_some_iff starts, end?_eq_none_iff ends]
  constructor
  · rintro (⟨a, given, fewer⟩ | ⟨first, starts, a, given, fewer | ⟨stop, ends, nothing⟩⟩)
    · exact .start given fewer
    · exact .stop starts given fewer
    · exact .line starts given ends nothing
  · rintro (⟨given, fewer⟩ | ⟨starts, given, fewer⟩ | ⟨starts, given, ends, nothing⟩)
    · exact .inl ⟨_, given, fewer⟩
    · exact .inr ⟨_, starts, _, given, .inl fewer⟩
    · exact .inr ⟨_, starts, _, given, .inr ⟨_, ends, nothing⟩⟩

end Search

/-! ### Blank lines at the ends -/

/-- The lines that are left out at an end of the block, where `next` is the line next to them: with
`trim` the blank lines, and none without. -/
inductive LeftOut : Boundary → List (List Char) → Option (List Char) → Prop
  | nothing {boundary : Boundary} {next : Option (List Char)} (other : boundary ≠ .trimmed) :
      LeftOut boundary [] next
  | blank {left : List (List Char)} {next : Option (List Char)}
      (blank : ∀ line ∈ left, isBlank line = true) (kept : ∀ line ∈ next, isBlank line = false) :
      LeftOut .trimmed left next

namespace LeftOut

variable {boundary : Boundary} {left : List (List Char)} {next next' : Option (List Char)}

theorem mono (h : LeftOut boundary left next) (fewer : ∀ line ∈ next', line ∈ next) :
    LeftOut boundary left next' := by
  cases h with
  | nothing other => exact .nothing other
  | blank blank kept => exact .blank blank fun line mem => kept line (fewer line mem)

theorem reverse (h : LeftOut boundary left next) : LeftOut boundary left.reverse next := by
  cases h with
  | nothing other => exact .nothing other
  | blank blank kept => exact .blank (fun line mem => blank line (List.mem_reverse.mp mem)) kept

end LeftOut

theorem exists_leftOut (boundary : Boundary) (ls : List (List Char)) :
    ∃ left, ls = left ++ (if boundary = .trimmed then ls.dropWhile isBlank else ls)
      ∧ LeftOut boundary left
          (if boundary = .trimmed then ls.dropWhile isBlank else ls).head? := by
  by_cases trimmed : boundary = .trimmed
  · subst trimmed
    refine ⟨ls.takeWhile isBlank, List.takeWhile_append_dropWhile.symm,
      .blank (fun _ => List.mem_takeWhile_imp) fun line first => ?_⟩
    have kept := List.head?_dropWhile_not isBlank ls
    rw [show (ls.dropWhile isBlank).head? = some line from first] at kept
    exact kept
  · rw [if_neg trimmed]
    exact ⟨[], rfl, .nothing trimmed⟩

namespace Search

/-- The lines between the anchors without the blank lines that are left out at the ends. -/
def Keeps (s : Search) (ls block : List (List Char)) : Prop :=
  ∃ left left', ls = left ++ block ++ left' ∧ LeftOut s.startBoundary left block.head?
    ∧ LeftOut s.stopBoundary left' block.getLast?

/-- The lines of the block. -/
theorem exists_of_block? {s : Search} (starts : IsEnd s.start s.startBoundary)
    (ends : IsEnd s.stop s.stopBoundary) (h : s.block? ls = some block) :
    ∃ first stop, StartsAt ls s.start s.startBoundary first
      ∧ EndsBefore ls first s.stop s.stopBoundary stop ∧ s.Keeps (ls.extract first stop) block := by
  obtain ⟨first, hfirst, h⟩ := Option.bind_eq_some_iff.mp h
  obtain ⟨stop, hstop, h⟩ := Option.bind_eq_some_iff.mp h
  refine ⟨first, stop, (first?_eq_some_iff starts).mp hfirst, ((end?_eq_some_iff ends).mp hstop).1,
    ?_⟩
  rw [List.extract_eq_take_drop]
  dsimp only at h
  generalize (ls.drop first).take (stop - first) = between at h
  obtain ⟨left, whole, out⟩ := exists_leftOut s.startBoundary between
  generalize (if s.startBoundary = .trimmed then between.dropWhile isBlank else between) = kept
    at h whole out
  -- At the end the same is done, with the lines in reverse.
  obtain ⟨left', whole', out'⟩ := exists_leftOut s.stopBoundary kept.reverse
  have same : (if s.stopBoundary = .trimmed then kept.reverse.dropWhile isBlank else kept.reverse)
      = block.reverse := by
    rw [← Option.some.inj h]
    split <;> simp
  rw [same] at whole' out'
  have kept_eq : kept = block ++ left'.reverse := by
    rw [← List.reverse_reverse kept, whole', List.reverse_append, List.reverse_reverse]
  refine ⟨left, left'.reverse, ?_, out.mono fun line mem => ?_, ?_⟩
  · rw [whole, kept_eq, List.append_assoc]
  · rw [kept_eq, List.head?_append, mem]
    rfl
  · rw [List.head?_reverse] at out'
    exact out'.reverse

end Search

/-! ### Common indentation -/

/-- How much white space there is at the start of all lines that are not blank; none if all are. -/
structure IsCommonIndent (block : List (List Char)) (width : Nat) : Prop where
  le : ∀ line ∈ block, isBlank line = false → width ≤ (line.takeWhile isSpace).length
  attained : (∃ line ∈ block, isBlank line = false ∧ (line.takeWhile isSpace).length = width)
    ∨ width = 0 ∧ ∀ line ∈ block, isBlank line = true

/-- A line that loses so much white space at its start; a blank one that has less before its end
stays. -/
inductive Unindents (width : Nat) : List Char → List Char → Prop
  | dropped {indent rest : List Char} (spaces : ∀ c ∈ indent, isSpace c = true)
      (noBreak : '\n' ∉ indent) (length : indent.length = width) :
      Unindents width (indent ++ rest) rest
  | short {body ending : List Char} (spaces : ∀ c ∈ body, isSpace c = true)
      (ended : ending = [] ∨ ending = ['\n']) (length : body.length < width) :
      Unindents width (body ++ ending) (body ++ ending)

/-- The last line is blank, is not ended by a line feed, and holds no more than it loses. -/
def LosesLast (width : Nat) (block : List (List Char)) : Prop :=
  ∃ line ∈ block.getLast?, isBlank line = true ∧ '\n' ∉ line ∧ line.length = width

theorem exists_of_isBlank_eq_false (h : isBlank line = false) :
    ∃ indent c rest, line = indent ++ c :: rest ∧ (∀ c ∈ indent, isSpace c = true)
      ∧ isSpace c = false := by
  refine ⟨line.takeWhile isSpace, ?_⟩
  cases rest : line.dropWhile isSpace with
  | nil =>
    have blank : isBlank line = true :=
      List.all_eq_true.mpr (List.dropWhile_eq_nil_iff.mp rest)
    rw [h] at blank
    cases blank
  | cons c rest' =>
    refine ⟨c, rest', ?_, fun _ => List.mem_takeWhile_imp,
      head?_dropWhile_eq_false c (congrArg List.head? rest)⟩
    rw [← rest, List.takeWhile_append_dropWhile]

section

variable {body ending : List Char} (noBreak : '\n' ∉ body) (ended : ending = [] ∨ ending = ['\n'])

include noBreak ended

theorem dropEndWhile_line : dropEndWhile (· = '\n') (body ++ ending) = body := by
  have kept : body.reverse.dropWhile (fun c => decide (c = '\n')) = body.reverse := by
    cases reversed : body.reverse with
    | nil => rfl
    | cons c rest =>
      refine List.dropWhile_cons_of_neg ?_
      have mem : c ∈ body := List.mem_reverse.mp (reversed ▸ List.mem_cons_self)
      simpa using fun same : c = '\n' => noBreak (same ▸ mem)
  unfold dropEndWhile
  obtain rfl | rfl := ended
  · rw [List.append_nil, kept, List.reverse_reverse]
  · rw [List.reverse_append, List.reverse_singleton, List.singleton_append,
      List.dropWhile_cons_of_pos (by simp), kept, List.reverse_reverse]

/-- White space at the start of a line that is not blank stops before its line feed. -/
theorem indentOf_line (some_ : isBlank (body ++ ending) = false) :
    indentOf (body ++ ending) = ((body ++ ending).takeWhile isSpace).length
      ∧ ((body ++ ending).takeWhile isSpace).length ≤ body.length := by
  have blankEnding : isBlank ending = true := by
    obtain rfl | rfl := ended <;> rfl
  have blankBody : isBlank body = false := by
    rw [isBlank, List.all_append, ← isBlank, ← isBlank, blankEnding, Bool.and_true] at some_
    exact some_
  obtain ⟨indent, c, rest, rfl, spaces, other⟩ := exists_of_isBlank_eq_false blankBody
  have inside : ∀ d ∈ indent, (isSpace d && decide (d ≠ '\n')) = true := by
    intro d mem
    have noFeed : d ≠ '\n' := fun same => noBreak (List.mem_append_left _ (same ▸ mem))
    rw [spaces d mem, Bool.true_and, decide_eq_true noFeed]
  have ends : ∀ d ∈ (c :: (rest ++ ending)).head?, isSpace d = false := by
    rintro _ ⟨⟩
    exact other
  have ends' : ∀ d ∈ (c :: (rest ++ ending)).head?, (isSpace d && decide (d ≠ '\n')) = false := by
    rintro _ ⟨⟩
    rw [other, Bool.false_and]
  have whole : indent ++ c :: rest ++ ending = indent ++ c :: (rest ++ ending) := by simp
  rw [whole, (takeWhile_dropWhile_of_run spaces ends).1, indentOf,
    (takeWhile_dropWhile_of_run inside ends').1, List.length_append]
  exact ⟨rfl, Nat.le_add_right _ _⟩

/-- A line loses its share of the common indentation. -/
theorem unindents_dropIndent
    (share : isBlank (body ++ ending) = false → width ≤ indentOf (body ++ ending)) :
    Unindents width (body ++ ending) (dropIndent width (body ++ ending)) := by
  rw [dropIndent, dropEndWhile_line noBreak ended]
  have blank (h : isBlank (body ++ ending) = true) : ∀ c ∈ body, isSpace c = true :=
    fun c mem => List.all_eq_true.mp h c (List.mem_append_left _ mem)
  split
  · next enough =>
    rw [List.drop_append_of_le_length enough]
    have parts : body ++ ending = body.take width ++ (body.drop width ++ ending) := by
      rw [← List.append_assoc, List.take_append_drop]
    have spaces : ∀ c ∈ body.take width, isSpace c = true := by
      cases some_ : isBlank (body ++ ending) with
      | true => exact fun c mem => blank some_ c (List.mem_of_mem_take mem)
      | false =>
        -- What is dropped is no longer than the white space that the line starts with.
        have shared := (share some_).trans (indentOf_line noBreak ended some_).1.le
        have ofBody : (body ++ ending).take width = body.take width :=
          List.take_append_of_le_length enough
        have ofSpaces : ((body ++ ending).takeWhile isSpace
            ++ (body ++ ending).dropWhile isSpace).take width
              = ((body ++ ending).takeWhile isSpace).take width :=
          List.take_append_of_le_length shared
        have same : body.take width = ((body ++ ending).takeWhile isSpace).take width := by
          rw [← ofBody, ← ofSpaces, List.takeWhile_append_dropWhile]
        exact fun c mem => List.mem_takeWhile_imp (List.mem_of_mem_take (same ▸ mem))
    rw [parts]
    exact .dropped spaces (fun mem => noBreak (List.mem_of_mem_take mem))
      (List.length_take_of_le enough)
  · next few =>
    have some_ : isBlank (body ++ ending) = true := by
      by_contra other
      have some_ := Bool.eq_false_of_not_eq_true other
      obtain ⟨same, le⟩ := indentOf_line noBreak ended some_
      exact few (((share some_).trans same.le).trans le)
    exact .short (blank some_) ended (Nat.lt_of_not_le few)

end

section

variable {cs : List Char} (h : AreLines cs block)

include h

theorem isCommonIndent_commonIndent : IsCommonIndent block (commonIndent block) := by
  have indentation : ∀ line ∈ block, isBlank line = false →
      indentOf line = (line.takeWhile isSpace).length := by
    intro line mem some_
    obtain ⟨body, ending, rfl, noBreak, ended⟩ := h.parts line mem
    exact (indentOf_line noBreak ended some_).1
  obtain ⟨le, attained⟩ := least_nonBlank indentOf block
  refine ⟨fun line mem some_ => ?_, attained.imp_left ?_⟩
  · rw [← indentation line mem some_]
    exact le line mem some_
  · rintro ⟨line, mem, some_, same⟩
    exact ⟨line, mem, some_, (indentation line mem some_).symm.trans same⟩

/-- All lines of a block lose their common indentation. -/
theorem forall₂_unindents : List.Forall₂ (Unindents (commonIndent block)) block
    (block.map (dropIndent (commonIndent block))) := by
  rw [List.forall₂_map_right_iff, List.forall₂_same]
  intro line mem
  have least := (isCommonIndent_commonIndent h).le line mem
  obtain ⟨body, ending, rfl, noBreak, ended⟩ := h.parts line mem
  exact unindents_dropIndent noBreak ended fun some_ =>
    (least some_).trans (indentOf_line noBreak ended some_).1.ge

end

/-- No line feed is lost. -/
theorem count_break_of_unindents {stripped : List (List Char)}
    (each : List.Forall₂ (Unindents width) block stripped) :
    stripped.flatten.count '\n' = block.flatten.count '\n' := by
  induction each with
  | nil => rfl
  | @cons line line' _ _ here _ ih =>
    have same : line'.count '\n' = line.count '\n' := by
      cases here with
      | dropped _ noBreak _ => rw [List.count_append, List.count_eq_zero.mpr noBreak, Nat.zero_add]
      | short => rfl
    rw [List.flatten_cons, List.flatten_cons, List.count_append, List.count_append, same, ih]

/-- The line feed of a line is not among the white space that it loses. -/
theorem Unindents.ended {line line' : List Char} (h : Unindents width (line ++ ['\n']) line')
    (noBreak : '\n' ∉ line) : ∃ left, line' = left ++ ['\n'] ∧ '\n' ∉ left := by
  generalize same : line ++ ['\n'] = whole at h
  cases h with
  | short => exact ⟨line, same.symm, noBreak⟩
  | @dropped indent _ _ noBreak' _ =>
    obtain ⟨left, rfl, rest⟩ | ⟨left, rfl, rest⟩ := List.append_eq_append_iff.mp same
    · cases left with
      | nil => exact ⟨[], rest.symm, List.not_mem_nil⟩
      | cons c left =>
        obtain ⟨rfl, -⟩ := List.cons.inj rest
        exact absurd (List.mem_append_right _ List.mem_cons_self) noBreak'
    · exact ⟨left, rest, fun mem => noBreak (List.mem_append_right _ mem)⟩

/-- The lines that are left are the lines of what they make up, but for a last one of which nothing
is left. -/
theorem lines_flatten_of_unindents {cs : List Char} {stripped : List (List Char)}
    (h : AreLines cs block) (each : List.Forall₂ (Unindents width) block stripped) :
    (¬LosesLast width block → lines stripped.flatten = stripped)
      ∧ (LosesLast width block → lines stripped.flatten = stripped.dropLast) := by
  induction h generalizing stripped with
  | nothing =>
    cases each
    exact ⟨fun _ => rfl, fun _ => rfl⟩
  | @last line some_ noBreak =>
    cases each with
    | @cons _ rest _ _ here behind =>
    cases behind
    rw [List.flatten_singleton]
    -- Only a line without a line feed can vanish: it does if all of it is indentation.
    have loses : LosesLast width [line] ↔ isBlank line = true ∧ line.length = width := by
      simp [LosesLast, noBreak]
    cases here with
    | @dropped indent _ spaces _ length =>
      cases rest with
      | nil =>
        have lost : LosesLast width [indent ++ []] :=
          loses.mpr ⟨List.all_eq_true.mpr (by simpa using spaces), by simpa using length⟩
        exact ⟨fun kept => absurd lost kept, fun _ => rfl⟩
      | cons c rest =>
        have noBreak' : '\n' ∉ c :: rest := fun mem => noBreak (List.mem_append_right _ mem)
        refine ⟨fun _ => lines_of_noBreak (List.cons_ne_nil c rest) noBreak', fun lost => ?_⟩
        have whole := (loses.mp lost).2
        rw [List.length_append, List.length_cons] at whole
        omega
    | @short body ending spaces ended length =>
      refine ⟨fun _ => lines_of_noBreak some_ noBreak, fun lost => ?_⟩
      have whole := (loses.mp lost).2
      obtain rfl | rfl := ended
      · rw [List.length_append, List.length_nil] at whole
        omega
      · exact absurd (List.mem_append_right _ List.mem_cons_self) noBreak
  | @ended line rest ls noBreak behind ih =>
    cases each with
    | @cons _ line' _ stripped here each =>
    obtain ⟨kept, lost⟩ := ih each
    obtain ⟨left, rfl, noBreak'⟩ := here.ended noBreak
    have later : LosesLast width ((line ++ ['\n']) :: ls) ↔ LosesLast width ls := by
      cases ls with
      | nil => simp [LosesLast]
      | cons => simp [LosesLast]
    rw [later, List.flatten_cons, List.append_assoc, List.singleton_append, lines_append noBreak']
    refine ⟨fun h => by rw [kept h], fun h => ?_⟩
    have some_ : stripped ≠ [] := by
      rintro rfl
      cases each
      obtain ⟨_, ⟨⟩, -⟩ := h
    rw [lost h, List.dropLast_cons_of_ne_nil some_]

/-! ### What a search finds -/

namespace Search

/-- The scheme looks for the block. -/
theorem looks (s : Search) (text : String) :
    s.scheme.Looks s.check text (s.extract? text.toList) := by
  intro bindings context single
  show s.select context = _
  rw [select, single]
  show (s.check.verify text).mapError SelectionError.integrity >>= _ = _
  cases s.extract? text.toList <;> rfl

theorem extract?_eq (s : Search) (cs : List Char) : s.extract? cs = (s.block? (lines cs)).map
    fun block => (block.map (dropIndent (if s.strip then commonIndent block else 0))).flatten := by
  rw [extract?]
  cases s.block? (lines cs) <;> rfl

theorem map_dropIndent_zero (block : List (List Char)) : block.map (dropIndent 0) = block :=
  List.map_id'' (fun _ => if_pos (Nat.zero_le _)) block

/-- The lines of a block follow each other in the text. -/
theorem areLines_of_keeps {s : Search} {cs : List Char} (h : AreLines cs ls)
    (keeps : s.Keeps (ls.extract first stop) block) : AreLines block.flatten block := by
  obtain ⟨left, left', between, -, -⟩ := keeps
  have whole : ls = ls.take first ++ left
      ++ (block ++ (left' ++ (ls.drop first).drop (stop - first))) := by
    have parts := List.take_append_drop (stop - first) (ls.drop first)
    rw [← List.extract_eq_take_drop, between] at parts
    conv_lhs => rw [← List.take_append_drop first ls, ← parts]
    simp only [List.append_assoc]
  rw [whole] at h
  exact (areLines_of_append (areLines_of_append h).2).1

/-- **A search selects the block between its anchors.**  A text that fails a check is refused.
Otherwise nothing is found if and only if a line for an anchor is missing or the end leaves no line.
What is found without `strip` are the lines of the block.  With `strip` each line loses the white
space that all lines have in common, or stays if it is blank and has less, so that all line feeds
are kept; the lines are then those of the block, except that nothing may be left of the last
one. -/
theorem selects_block {data : String} {s : Search} (h : read data = .ok s) (text : String) :
    (∀ fault, s.check.verify text = .error fault → ∀ bindings context,
      context.document.singleText = .ok text →
        s.scheme.select bindings context = .error (.integrity fault))
    ∧ (s.check.verify text = .ok () → ∃ ls, AreLines text.toList ls
      ∧ (s.scheme.FindsNothing text ↔ s.Lacks ls)
      ∧ (¬s.Lacks ls → ∃ first stop block, StartsAt ls s.start s.startBoundary first
        ∧ EndsBefore ls first s.stop s.stopBoundary stop ∧ s.Keeps (ls.extract first stop) block
        ∧ (s.strip = false → s.scheme.Finds text block.flatten)
        ∧ (s.strip = true → ∃ width stripped, IsCommonIndent block width
          ∧ List.Forall₂ (Unindents width) block stripped
          ∧ s.scheme.Finds text stripped.flatten
          ∧ stripped.flatten.count '\n' = block.flatten.count '\n'
          ∧ (¬LosesLast width block → lines stripped.flatten = stripped)
          ∧ (LosesLast width block → lines stripped.flatten = stripped.dropLast)))) := by
  obtain ⟨starts, ends⟩ := isEnd_of_read h
  have looks := s.looks text
  rw [extract?_eq] at looks
  refine ⟨fun fault fails bindings context single => ?_, fun passes =>
    ⟨lines text.toList, areLines_lines _, ?_, fun found => ?_⟩⟩
  · rw [looks bindings context single, fails]
    rfl
  · rw [looks.findsNothing_iff, and_iff_right passes, Option.map_eq_none_iff,
      block?_eq_none_iff starts ends]
  · obtain ⟨block, hblock⟩ :=
      Option.ne_none_iff_exists'.mp ((block?_eq_none_iff starts ends).not.mpr found)
    obtain ⟨first, stop, startsAt, endsBefore, keeps⟩ := exists_of_block? starts ends hblock
    rw [hblock, Option.map_some] at looks
    refine ⟨first, stop, block, startsAt, endsBefore, keeps, fun off => ?_, fun on => ?_⟩
    · rw [off, if_neg Bool.false_ne_true, map_dropIndent_zero] at looks
      exact looks.finds_iff.mpr ⟨passes, rfl⟩
    · rw [on, if_pos rfl] at looks
      have areLines := areLines_of_keeps (areLines_lines _) keeps
      have each := forall₂_unindents areLines
      exact ⟨_, _, isCommonIndent_commonIndent areLines, each,
        looks.finds_iff.mpr ⟨passes, rfl⟩, count_break_of_unindents each,
        lines_flatten_of_unindents areLines each⟩

/-- The end string is looked for behind the line of `after`, and blank lines are left out behind
that of `trim`. -/
theorem selects_block_bothEnds :
    let s : Search := ⟨some ⟨1, "one".toList⟩, .trimmed, some ⟨1, "two".toList⟩, .inclusive, true,
      .none⟩
    read "/one/;trim,/two/;strip" = .ok s ∧ s.scheme.FindsNothing "one two\n"
      ∧ ∃ ls first stop block width stripped, AreLines "one\n\n  a\n\n   two".toList ls
        ∧ StartsAt ls s.start s.startBoundary first
        ∧ EndsBefore ls first s.stop s.stopBoundary stop ∧ s.Keeps (ls.extract first stop) block
        ∧ IsCommonIndent block width ∧ List.Forall₂ (Unindents width) block stripped
        ∧ s.scheme.Finds "one\n\n  a\n\n   two" stripped.flatten := by
  intro s
  have read : read "/one/;trim,/two/;strip" = .ok s := by decide
  obtain ⟨ls, areLines, nothing, -⟩ := (selects_block read "one two\n").2 rfl
  obtain rfl := areLines_iff.mp areLines
  have first : (⟨1, "one".toList⟩ : Anchor).Marks (lines "one two\n".toList) 0 0 :=
    ⟨le_rfl, ⟨_, rfl, by decide⟩, by decide⟩
  have lacks : s.Lacks (lines "one two\n".toList) :=
    .stop (.behind first (by decide)) rfl (by decide)
  obtain ⟨ls, areLines, nothing', found⟩ :=
    (selects_block read "one\n\n  a\n\n   two").2 rfl
  have some_ : ¬s.Lacks ls := by
    intro lacks
    have none_ := ((s.looks _).findsNothing_iff.mp (nothing'.mpr lacks)).2
    revert none_
    decide
  obtain ⟨first, stop, block, starts, ends, keeps, -, stripped⟩ := found some_
  obtain ⟨width, stripped, common, each, finds, -⟩ := stripped rfl
  exact ⟨read, nothing.mpr lacks, ls, first, stop, block, width, stripped, areLines, starts, ends,
    keeps, common, each, finds⟩

/-- A block of two lines of which one is left: the last one is blank, has no line feed, and holds no
more than the indentation of the other. -/
theorem strip_drops_blank_line :
    ∃ s ls selected, read "/a/;strip" = .ok s ∧ AreLines "  a\n  ".toList ls
      ∧ StartsAt ls s.start s.startBoundary 0
      ∧ EndsBefore ls 0 s.stop s.stopBoundary ls.length ∧ s.Keeps (ls.extract 0 ls.length) ls
      ∧ s.strip = true ∧ s.scheme.Finds "  a\n  " selected
      ∧ ls.length = 2 ∧ (lines selected).length = 1 := by
  refine ⟨⟨some ⟨1, ['a']⟩, .inclusive, none, .inclusive, true, .none⟩, lines "  a\n  ".toList,
    "a\n".toList, by decide, areLines_lines _, .at_ ⟨le_rfl, ⟨_, rfl, by decide⟩, by decide⟩,
    .open_, ⟨[], [], by decide, .nothing (by decide), .nothing (by decide)⟩, rfl, ?_, by decide,
    by decide⟩
  exact (looks _ _).finds_iff.mpr ⟨rfl, by decide⟩

end Search

end Transclusion
