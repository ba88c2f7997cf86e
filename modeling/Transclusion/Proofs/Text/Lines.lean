import Mathlib.Data.List.Basic
import Transclusion.Text.Blank
import Transclusion.Text.Cut
/-!
# The lines of a text

A text is cut into lines behind each of its line feeds; what is left behind the last one is a line
too, if it is not empty (`AreLines`).  There is one way to cut a text (`areLines_iff`).  The lines
are numbered from 1 (`linesFromTo`).  Lines that follow each other in a text are the lines of what
they make up (`areLines_of_append`).  Of lines that are not blank, one has the least indentation,
however it is measured (`least_nonBlank`).
-/

namespace Transclusion.Text

variable {cs line : List Char} {ls : List (List Char)}

/-- The lines of a text, each with the line feed that ends it. -/
inductive AreLines : List Char → List (List Char) → Prop
  | nothing : AreLines [] []
  | last {line : List Char} (some_ : line ≠ []) (noBreak : '\n' ∉ line) : AreLines line [line]
  | ended {line rest : List Char} {ls : List (List Char)} (noBreak : '\n' ∉ line)
      (behind : AreLines rest ls) : AreLines (line ++ '\n' :: rest) ((line ++ ['\n']) :: ls)

theorem areLines_lines (cs : List Char) : AreLines cs (lines cs) := by
  induction cs with
  | nil => exact .nothing
  | cons c rest ih =>
    unfold lines
    by_cases same : c = '\n'
    · rw [if_pos same, same]
      have noBreak : '\n' ∉ ([] : List Char) := List.not_mem_nil
      exact .ended noBreak ih
    · rw [if_neg same]
      have longer {line : List Char} (noBreak : '\n' ∉ line) : '\n' ∉ c :: line := by
        rw [List.mem_cons, not_or]
        exact ⟨Ne.symm same, noBreak⟩
      revert ih
      generalize lines rest = ls
      intro ih
      cases ih with
      | nothing => exact .last (List.cons_ne_nil c []) (longer List.not_mem_nil)
      | last _ noBreak => exact .last (List.cons_ne_nil c _) (longer noBreak)
      | ended noBreak behind => exact .ended (longer noBreak) behind

theorem lines_of_noBreak (some_ : line ≠ []) (noBreak : '\n' ∉ line) : lines line = [line] := by
  induction line with
  | nil => exact absurd rfl some_
  | cons c line ih =>
    rw [List.mem_cons, not_or] at noBreak
    rw [lines, if_neg (Ne.symm noBreak.1)]
    cases line with
    | nil => rfl
    | cons d line => rw [ih (List.cons_ne_nil d line) noBreak.2]

theorem lines_append (noBreak : '\n' ∉ line) (rest : List Char) :
    lines (line ++ '\n' :: rest) = (line ++ ['\n']) :: lines rest := by
  induction line with
  | nil => exact if_pos rfl
  | cons c line ih =>
    rw [List.mem_cons, not_or] at noBreak
    rw [List.cons_append, lines, if_neg (Ne.symm noBreak.1), ih noBreak.2]
    rfl

theorem areLines_iff : AreLines cs ls ↔ ls = lines cs := by
  constructor
  · intro h
    induction h with
    | nothing => rfl
    | last some_ noBreak => exact (lines_of_noBreak some_ noBreak).symm
    | ended noBreak _ ih => rw [lines_append noBreak, ih]
  · rintro rfl
    exact areLines_lines cs

theorem AreLines.flatten_eq (h : AreLines cs ls) : ls.flatten = cs := by
  rw [areLines_iff.mp h, flatten_lines]

/-- Lines that follow each other in a text are the lines of what they make up. -/
theorem areLines_of_append {ls ls' : List (List Char)} (h : AreLines cs (ls ++ ls')) :
    AreLines ls.flatten ls ∧ AreLines ls'.flatten ls' := by
  induction ls generalizing cs with
  | nil =>
    have whole : cs = ls'.flatten := h.flatten_eq.symm
    exact ⟨.nothing, whole ▸ h⟩
  | cons line ls ih =>
    generalize all : line :: ls ++ ls' = lines at h
    cases h with
    | nothing => cases all
    | last some_ noBreak =>
      obtain ⟨rfl, none_⟩ := List.cons.inj all
      obtain ⟨rfl, rfl⟩ := List.append_eq_nil_iff.mp none_
      rw [List.flatten_singleton]
      exact ⟨.last some_ noBreak, .nothing⟩
    | ended noBreak behind =>
      obtain ⟨rfl, rfl⟩ := List.cons.inj all
      obtain ⟨first, last⟩ := ih behind
      rw [List.flatten_cons, List.append_assoc, List.singleton_append]
      exact ⟨.ended noBreak first, last⟩

/-- A line has a line feed at its end or none, and others nowhere. -/
theorem AreLines.parts (h : AreLines cs ls) : ∀ line ∈ ls, ∃ body ending,
    line = body ++ ending ∧ '\n' ∉ body ∧ (ending = [] ∨ ending = ['\n']) := by
  induction h with
  | nothing => exact nofun
  | last _ noBreak =>
    rw [List.forall_mem_singleton]
    exact ⟨_, [], (List.append_nil _).symm, noBreak, .inl rfl⟩
  | ended noBreak _ ih =>
    exact List.forall_mem_cons.mpr ⟨⟨_, ['\n'], rfl, noBreak, .inr rfl⟩, ih⟩

/-! ### Numbers of lines -/

/-- The lines from one number to another, both included. -/
def linesFromTo (ls : List (List Char)) (first last : Nat) : List Char :=
  ((ls.zipIdx 1).filter fun (_, n) => first ≤ n ∧ n ≤ last).flatMap (·.1)

/-- What has a number in a range, when the numbers start at `k`. -/
theorem map_filter_zipIdx {α : Type} (xs : List α) (k first last : Nat) :
    ((xs.zipIdx k).filter fun (_, n) => first ≤ n ∧ n ≤ last).map (·.1)
      = (xs.take (last + 1 - k)).drop (first - k) := by
  induction xs generalizing k with
  | nil => simp
  | cons x xs ih =>
    rw [List.zipIdx_cons, List.filter_cons]
    by_cases inside : first ≤ k ∧ k ≤ last
    · have count : last + 1 - k = last + 1 - (k + 1) + 1 := by omega
      have skipped : first - k = 0 := by omega
      have skipped' : first - (k + 1) = 0 := by omega
      rw [if_pos (decide_eq_true inside), List.map_cons, ih, count, skipped, skipped',
        List.take_succ_cons, List.drop_zero, List.drop_zero]
    · rw [if_neg (by simpa using inside), ih]
      obtain before | behind : k < first ∨ last < k := by omega
      · have skipped : first - k = first - (k + 1) + 1 := by omega
        rw [skipped]
        cases count : last + 1 - k with
        | zero =>
          have nothing : last + 1 - (k + 1) = 0 := by omega
          simp [nothing]
        | succ m =>
          have fewer : last + 1 - (k + 1) = m := by omega
          rw [fewer, List.take_succ_cons, List.drop_succ_cons]
      · have nothing : last + 1 - k = 0 := by omega
        have nothing' : last + 1 - (k + 1) = 0 := by omega
        simp [nothing, nothing']

theorem linesFromTo_eq (ls : List (List Char)) (first last : Nat) :
    linesFromTo ls first last = (ls.extract (first - 1) last).flatten := by
  rw [linesFromTo, List.flatMap_def, map_filter_zipIdx, Nat.add_sub_cancel, List.drop_take]

/-! ### Lines that are not blank -/

/-- The least width of the lines that are not blank is that of one of them; it is 0 if there are
none. -/
theorem least_nonBlank (width : List Char → Nat) (ls : List (List Char)) :
    let least := (((ls.filter (!isBlank ·)).map width).min?).getD 0
    (∀ line ∈ ls, isBlank line = false → least ≤ width line)
      ∧ ((∃ line ∈ ls, isBlank line = false ∧ width line = least)
        ∨ least = 0 ∧ ∀ line ∈ ls, isBlank line = true) := by
  have mem_iff : ∀ line, line ∈ ls.filter (!isBlank ·) ↔ line ∈ ls ∧ isBlank line = false :=
    fun line => by rw [List.mem_filter, Bool.not_eq_true']
  cases least : ((ls.filter (!isBlank ·)).map width).min? with
  | none =>
    have none_ : ∀ line ∈ ls, isBlank line = true := by
      rw [List.min?_eq_none_iff, List.map_eq_nil_iff, List.filter_eq_nil_iff] at least
      simpa using least
    exact ⟨fun _ _ _ => Nat.zero_le _, .inr ⟨rfl, none_⟩⟩
  | some width =>
    obtain ⟨attained, le⟩ := List.min?_eq_some_iff.mp least
    refine ⟨fun line mem some_ => le _ (List.mem_map_of_mem ((mem_iff line).mpr ⟨mem, some_⟩)),
      .inl ?_⟩
    obtain ⟨line, mem, same⟩ := List.mem_map.mp attained
    obtain ⟨mem, some_⟩ := (mem_iff line).mp mem
    exact ⟨line, mem, some_, same⟩

end Transclusion.Text
