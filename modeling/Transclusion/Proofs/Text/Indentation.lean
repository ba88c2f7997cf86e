import Mathlib.Data.List.DropRight
import Mathlib.Data.List.Forall2
import Mathlib.Data.Nat.PSub
import Mathlib.Order.Bounds.Defs
import Transclusion.Proofs.Text.Lines
import Transclusion.Text.Indent
import Transclusion.Text.Utf8
/-!
# Trimming keeps lines and relative indentation

The indentation that the lines of a text have in common is the largest number of spaces that all
lines which are not blank start with (`isGreatest_commonSpaces`).  Trimming takes it from these
lines, takes the spaces at the end of every line, and nothing else (`Trims`).  So lines that are not
blank are indented as before in relation to each other (`Trims.leadingSpaces_eq`), one of them is
not indented any more (`exists_unindented`), and a trimmed text has nothing left to be trimmed
(`trimIndent_eq_self`).

Widths can be measured in bytes as well, though a line can only be cut between two of its characters
(`behindBytes?`): the spaces that are cut off take a byte each (`trimIndentInBytes?_eq`).

* `trimIndent_keeps_layout`: what trimming does to the lines of a text.
-/

namespace Transclusion.Text

variable {c : Char} {text line trimmed : List Char} {ls : List (List Char)} {n width : Nat}

/-! ### Lines between line feeds -/

theorem pieces_eq_splitOn (c : Char) (cs : List Char) : pieces c cs = cs.splitOn c := by
  induction cs with
  | nil => rfl
  | cons d rest ih =>
    rw [pieces, List.splitOn_cons_eq_if_modifyHead, ih]
    by_cases same : d = c
    · rw [if_pos same, if_pos (beq_iff_eq.mpr same)]
    · rw [if_neg same, if_neg (mt beq_iff_eq.mp same)]
      obtain ⟨piece, others, found⟩ := List.exists_cons_of_ne_nil (List.splitOn_ne_nil c rest)
      rw [found]
      rfl

theorem not_mem_of_mem_splitOn (mem : line ∈ text.splitOn c) : c ∉ line := by
  induction text generalizing line with
  | nil =>
    obtain rfl := List.mem_singleton.mp mem
    exact List.not_mem_nil
  | cons d rest ih =>
    rw [List.splitOn_cons_eq_if_modifyHead] at mem
    by_cases same : d = c
    · rw [if_pos (beq_iff_eq.mpr same)] at mem
      obtain rfl | mem := List.mem_cons.mp mem
      · exact List.not_mem_nil
      · exact ih mem
    · rw [if_neg (mt beq_iff_eq.mp same)] at mem
      obtain ⟨piece, others, found⟩ := List.exists_cons_of_ne_nil (List.splitOn_ne_nil c rest)
      rw [found] at ih mem
      -- The first piece grows by the character in front, all others are pieces of the rest.
      obtain rfl | mem := List.mem_cons.mp mem
      · rw [List.mem_cons, not_or]
        exact ⟨Ne.symm same, ih List.mem_cons_self⟩
      · exact ih (List.mem_cons_of_mem _ mem)

theorem length_splitOn (c : Char) (cs : List Char) :
    (cs.splitOn c).length = cs.count c + 1 := by
  induction cs with
  | nil => rfl
  | cons d rest ih =>
    rw [List.splitOn_cons_eq_if_modifyHead, List.count_cons]
    split
    · rw [List.length_cons, ih]
    · rw [List.length_modifyHead, ih, Nat.add_zero]

/-! ### Spaces at the start of lines -/

theorem leadingSpaces_cons (c : Char) (line : List Char) :
    leadingSpaces (c :: line) = if c = ' ' then leadingSpaces line + 1 else 0 := by
  rw [leadingSpaces, List.takeWhile_cons]
  by_cases space : c = ' '
  · rw [if_pos space, if_pos (decide_eq_true space)]
    rfl
  · rw [if_neg space, if_neg (by simpa using space)]
    rfl

theorem leadingSpaces_eq_zero_iff : leadingSpaces line = 0 ↔ line.head? ≠ some ' ' := by
  cases line with
  | nil => simp [leadingSpaces]
  | cons c line => simp [leadingSpaces_cons]

theorem replicate_isPrefix_iff : List.replicate n ' ' <+: line ↔ n ≤ leadingSpaces line := by
  induction line generalizing n with
  | nil => simp [leadingSpaces]
  | cons c line ih =>
    cases n with
    | zero => simp
    | succ n =>
      rw [List.replicate_succ, List.cons_prefix_cons, ih, leadingSpaces_cons]
      by_cases space : c = ' '
      · simp [space]
      · simp [space, Ne.symm space]

theorem replicate_append_drop (le : n ≤ leadingSpaces line) :
    List.replicate n ' ' ++ line.drop n = line := by
  simpa only [List.length_replicate]
    using List.prefix_iff_eq_append.mp (replicate_isPrefix_iff.mpr le)

theorem leadingSpaces_le_of_isPrefix {start : List Char} (h : start <+: line) :
    leadingSpaces start ≤ leadingSpaces line :=
  replicate_isPrefix_iff.mp ((replicate_isPrefix_iff.mpr le_rfl).trans h)

theorem leadingSpaces_replicate_append (n : Nat) (line : List Char) :
    leadingSpaces (List.replicate n ' ' ++ line) = n + leadingSpaces line := by
  have spaces : ∀ c ∈ List.replicate n ' ', decide (c = ' ') = true := fun c mem =>
    decide_eq_true (List.eq_of_mem_replicate mem)
  rw [leadingSpaces, List.takeWhile_append_of_pos spaces, List.length_append, List.length_replicate,
    leadingSpaces]

/-- The spaces at the start of a line that is not blank stop before the end of the line. -/
theorem leadingSpaces_append (some_ : isBlank line = false) (rest : List Char) :
    leadingSpaces (line ++ rest) = leadingSpaces line := by
  induction line with
  | nil => cases some_
  | cons c line ih =>
    rw [List.cons_append, leadingSpaces_cons, leadingSpaces_cons]
    split
    · next space =>
      subst space
      rw [ih some_]
    · rfl

theorem isBlank_replicate (n : Nat) : isBlank (List.replicate n ' ') = true :=
  List.all_eq_true.mpr fun _ mem => List.eq_of_mem_replicate mem ▸ rfl

/-! ### What lines have in common -/

/-- All lines that are not blank start with so many spaces. -/
def SharedIndent (ls : List (List Char)) (n : Nat) : Prop :=
  ∀ line ∈ ls, isBlank line = false → List.replicate n ' ' <+: line

theorem commonSpaces_of_blank (blank : ∀ line ∈ ls, isBlank line = true) : commonSpaces ls = 0 := by
  have none_ : ls.filter (!isBlank ·) = [] :=
    List.filter_eq_nil_iff.mpr fun line mem => by simp [blank line mem]
  rw [commonSpaces, none_]
  rfl

theorem isLeast_commonSpaces (some_ : ∃ line ∈ ls, isBlank line = false) :
    IsLeast {n | ∃ line ∈ ls, isBlank line = false ∧ leadingSpaces line = n} (commonSpaces ls) := by
  obtain ⟨le, attained | ⟨-, blank⟩⟩ := least_nonBlank leadingSpaces ls
  · refine ⟨attained, ?_⟩
    rintro _ ⟨line, mem, other, rfl⟩
    exact le line mem other
  · obtain ⟨line, mem, other⟩ := some_
    rw [blank line mem] at other
    cases other

theorem isGreatest_commonSpaces (some_ : ∃ line ∈ ls, isBlank line = false) :
    IsGreatest {n | SharedIndent ls n} (commonSpaces ls) := by
  obtain ⟨⟨shortest, mem, other, same⟩, least⟩ := isLeast_commonSpaces some_
  constructor
  · intro line mem other
    exact replicate_isPrefix_iff.mpr (least ⟨line, mem, other, rfl⟩)
  · intro n shared
    rw [← same]
    exact replicate_isPrefix_iff.mp (shared shortest mem other)

/-! ### Trimmed lines -/

/-- A line that loses `width` spaces at its start, or if it is blank perhaps fewer but then all that
it has there, and that loses all spaces at its end. -/
structure Trims (width : Nat) (line trimmed : List Char) : Prop where
  parts : ∃ front back, line = List.replicate front ' ' ++ trimmed ++ List.replicate back ' '
    ∧ front ≤ width ∧ (isBlank line = false → front = width)
    ∧ (front < width → trimmed.head? ≠ some ' ')
  ended : trimmed.getLast? ≠ some ' '

theorem getLast?_dropEndWhile (line : List Char) :
    (dropEndWhile (· = ' ') line).getLast? ≠ some ' ' := by
  intro last
  have some_ : dropEndWhile (· = ' ') line ≠ [] := by
    intro none_
    rw [none_] at last
    cases last
  rw [List.getLast?_eq_some_getLast some_] at last
  exact List.rdropWhile_last_not _ line some_ (decide_eq_true (Option.some.inj last))

theorem trims_trimLine (shared : isBlank line = false → List.replicate width ' ' <+: line) :
    Trims width line (trimLine width line) := by
  let front := min (leadingSpaces line) width
  let rest := line.drop front
  let back := rest.rtakeWhile (· = ' ')
  have whole : List.replicate front ' ' ++ rest = line :=
    replicate_append_drop (Nat.min_le_left (leadingSpaces line) width)
  have ends : trimLine width line ++ back = rest := List.rdropWhile_append_rtakeWhile
  have spaces : back = List.replicate back.length ' ' :=
    List.eq_replicate_of_mem fun c mem =>
      of_decide_eq_true (List.mem_rtakeWhile_imp (p := fun c => decide (c = ' ')) mem)
  refine ⟨⟨front, back.length, ?_, Nat.min_le_right .., fun some_ => ?_, fun fewer => ?_⟩,
    getLast?_dropEndWhile rest⟩
  · rw [← spaces, List.append_assoc, ends, whole]
  · exact Nat.min_eq_right (replicate_isPrefix_iff.mp (shared some_))
  · -- Then all spaces at the start are in `front`, and what is left starts with none.
    have counted := leadingSpaces_replicate_append front rest
    have none_ : leadingSpaces rest = 0 := by
      rw [whole] at counted
      omega
    have start : trimLine width line <+: rest := List.rdropWhile_prefix _ rest
    exact leadingSpaces_eq_zero_iff.mp
      (Nat.le_zero.mp (none_ ▸ leadingSpaces_le_of_isPrefix start))

/-- Each line is trimmed by what it has in common with the others. -/
theorem trims_of_mem (mem : line ∈ ls) :
    Trims (commonSpaces ls) line (trimLine (commonSpaces ls) line) :=
  trims_trimLine fun other => (isGreatest_commonSpaces ⟨line, mem, other⟩).1 line mem other

section Trims

variable (h : Trims width line trimmed)

include h

theorem Trims.mem_of_mem (mem : c ∈ trimmed) : c ∈ line := by
  obtain ⟨⟨front, back, rfl, -⟩, -⟩ := h
  simp [mem]

theorem Trims.isBlank_eq : isBlank trimmed = isBlank line := by
  obtain ⟨⟨front, back, rfl, -⟩, -⟩ := h
  rw [isBlank, isBlank, List.all_append, List.all_append, ← isBlank, ← isBlank, ← isBlank,
    isBlank_replicate, isBlank_replicate, Bool.true_and, Bool.and_true]

/-- The indentation that is left is what a line has more than the others. -/
theorem Trims.leadingSpaces_eq (some_ : isBlank line = false) :
    leadingSpaces line = width + leadingSpaces trimmed := by
  have kept : isBlank trimmed = false := h.isBlank_eq.trans some_
  obtain ⟨⟨front, back, parts, -, all, -⟩, -⟩ := h
  rw [parts, List.append_assoc, leadingSpaces_replicate_append, leadingSpaces_append kept,
    all some_]

/-- A line that has nothing to lose stays as it is. -/
theorem Trims.eq_self (unindented : width = 0) (ended : line.getLast? ≠ some ' ') :
    trimmed = line := by
  obtain ⟨⟨front, back, rfl, le, -⟩, -⟩ := h
  obtain rfl : front = 0 := by omega
  cases back with
  | zero => simp
  | succ back => exact absurd (by simp [List.replicate_succ']) ended

end Trims

/-! ### Trimmed texts -/

theorem splitOn_trimIndent (text : List Char) : (trimIndent text).splitOn '\n'
    = (text.splitOn '\n').map (trimLine (commonSpaces (text.splitOn '\n'))) := by
  rw [trimIndent, pieces_eq_splitOn]
  -- Lines that hold no line feed are cut again where they are put together.
  refine List.splitOn_intercalate '\n' (List.forall_mem_map.mpr fun line mem lineFeed => ?_) ?_
  · exact not_mem_of_mem_splitOn mem ((trims_of_mem mem).mem_of_mem lineFeed)
  · exact mt List.map_eq_nil_iff.mp (List.splitOn_ne_nil _ _)

theorem forall₂_trims (text : List Char) :
    List.Forall₂ (Trims (commonSpaces (text.splitOn '\n')))
      (text.splitOn '\n') ((trimIndent text).splitOn '\n') := by
  rw [splitOn_trimIndent, List.forall₂_map_right_iff, List.forall₂_same]
  exact fun line mem => trims_of_mem mem

theorem exists_trims (mem : trimmed ∈ (trimIndent text).splitOn '\n') :
    ∃ line ∈ text.splitOn '\n', Trims (commonSpaces (text.splitOn '\n')) line trimmed := by
  rw [splitOn_trimIndent] at mem
  obtain ⟨line, inside, rfl⟩ := List.mem_map.mp mem
  exact ⟨line, inside, trims_of_mem inside⟩

theorem count_trimIndent (text : List Char) : (trimIndent text).count '\n' = text.count '\n' := by
  have same := (forall₂_trims text).length_eq
  rw [length_splitOn, length_splitOn] at same
  exact (Nat.succ.inj same).symm

/-- The line with the fewest spaces at its start loses all of them. -/
theorem exists_unindented (some_ : ∃ line ∈ text.splitOn '\n', isBlank line = false) :
    ∃ line ∈ (trimIndent text).splitOn '\n', isBlank line = false ∧ line.head? ≠ some ' ' := by
  obtain ⟨line, mem, other, shortest⟩ := (isLeast_commonSpaces some_).1
  have counted := (trims_of_mem mem).leadingSpaces_eq other
  rw [splitOn_trimIndent]
  exact ⟨_, List.mem_map_of_mem mem, (trims_of_mem mem).isBlank_eq.trans other,
    leadingSpaces_eq_zero_iff.mp (by omega)⟩

theorem commonSpaces_trimIndent (text : List Char) :
    commonSpaces ((trimIndent text).splitOn '\n') = 0 := by
  by_cases blank : ∀ line ∈ text.splitOn '\n', isBlank line = true
  · -- Then no line attains the width, and trimmed lines are blank as well.
    refine commonSpaces_of_blank fun trimmed mem => ?_
    obtain ⟨line, mem, trims⟩ := exists_trims mem
    exact trims.isBlank_eq.trans (blank line mem)
  · have some_ : ∃ line ∈ text.splitOn '\n', isBlank line = false := by simpa using blank
    obtain ⟨line, mem, other, start⟩ := exists_unindented some_
    have le := (isLeast_commonSpaces ⟨line, mem, other⟩).2 ⟨line, mem, other, rfl⟩
    rw [leadingSpaces_eq_zero_iff.mpr start] at le
    exact Nat.le_zero.mp le

/-- A text is left as it is, if its lines have no indentation in common and none ends in a space. -/
theorem trimIndent_eq_self (unindented : commonSpaces (text.splitOn '\n') = 0)
    (ended : ∀ line ∈ text.splitOn '\n', line.getLast? ≠ some ' ') : trimIndent text = text := by
  have same : (trimIndent text).splitOn '\n' = text.splitOn '\n' := by
    rw [splitOn_trimIndent]
    refine (List.map_congr_left fun line mem => ?_).trans (List.map_id _)
    exact (trims_of_mem mem).eq_self unindented (ended line mem)
  calc trimIndent text
      = ['\n'].intercalate ((trimIndent text).splitOn '\n') := (List.intercalate_splitOn '\n').symm
    _ = ['\n'].intercalate (text.splitOn '\n') := by rw [same]
    _ = text := List.intercalate_splitOn '\n'

theorem trimIndent_trimIndent (text : List Char) :
    trimIndent (trimIndent text) = trimIndent text := by
  refine trimIndent_eq_self (commonSpaces_trimIndent text) fun trimmed mem => ?_
  obtain ⟨line, -, trims⟩ := exists_trims mem
  exact trims.ended

/-! ### Offsets in bytes -/

/-- What a text holds behind so many of its bytes: nothing, if it has fewer or if they end inside a
character. -/
def behindBytes? : Nat → List Char → Option (List Char)
  | 0, cs => some cs
  | _ + 1, [] => none
  | n + 1, c :: rest => do behindBytes? (← (n + 1).psub c.utf8Size) rest

/-- How many bytes of a line are spaces at its start: those of the line without those of the
rest. -/
def leadingBytes? (line : List Char) : Option Nat :=
  (utf8Length line).psub (utf8Length (line.dropWhile (· = ' ')))

/-- `trimLine` with a width in bytes. -/
def trimLineInBytes? (width : Nat) (line : List Char) : Option (List Char) := do
  let rest ← behindBytes? (min (← leadingBytes? line) width) line
  return dropEndWhile (· = ' ') rest

/-- `trimIndent` with widths in bytes.  There is no outcome if a width is negative, or if a line is
cut inside a character or behind its end. -/
def trimIndentInBytes? (text : List Char) : Option (List Char) := do
  let ls := pieces '\n' text
  let widths ← (ls.filter (!isBlank ·)).mapM leadingBytes?
  let trimmed ← ls.mapM (trimLineInBytes? (widths.min?.getD 0))
  return ['\n'].intercalate trimmed

theorem foldl_utf8Size (cs : List Char) (n : Nat) :
    cs.foldl (fun total c => total + c.utf8Size) n = n + utf8Length cs := by
  induction cs generalizing n with
  | nil => rfl
  | cons c cs ih =>
    rw [utf8Length, List.foldl_cons, List.foldl_cons, ih, ih]
    omega

theorem utf8Length_append (cs rest : List Char) :
    utf8Length (cs ++ rest) = utf8Length cs + utf8Length rest := by
  rw [utf8Length, List.foldl_append]
  exact foldl_utf8Size rest _

theorem utf8Length_cons (c : Char) (cs : List Char) :
    utf8Length (c :: cs) = c.utf8Size + utf8Length cs := by
  rw [utf8Length, List.foldl_cons, foldl_utf8Size, Nat.zero_add]

/-- A space takes one byte. -/
theorem utf8Length_replicate (n : Nat) : utf8Length (List.replicate n ' ') = n := by
  induction n with
  | zero => rfl
  | succ n ih =>
    have one : Char.utf8Size ' ' = 1 := rfl
    rw [List.replicate_succ, utf8Length_cons, ih, one, Nat.add_comm]

theorem behindBytes?_append (before rest : List Char) :
    behindBytes? (utf8Length before) (before ++ rest) = some rest := by
  induction before with
  | nil =>
    show behindBytes? 0 rest = _
    rw [behindBytes?]
  | cons c before ih =>
    -- A character takes at least one byte, so that the offset is not 0 in front of it.
    obtain ⟨n, size⟩ := Nat.exists_eq_add_one.mpr c.utf8Size_pos
    have length : utf8Length (c :: before) = n + utf8Length before + 1 := by
      rw [utf8Length_cons, size]
      omega
    have left : (n + utf8Length before + 1).psub c.utf8Size = some (utf8Length before) :=
      Nat.psub_eq_some.mpr (by omega)
    rw [length, List.cons_append, behindBytes?, left]
    exact ih

theorem leadingBytes?_eq (line : List Char) : leadingBytes? line = some (leadingSpaces line) := by
  have taken : line.takeWhile (· = ' ') = List.replicate (leadingSpaces line) ' ' :=
    List.eq_replicate_of_mem fun c mem =>
      of_decide_eq_true (List.mem_takeWhile_imp (p := fun c => decide (c = ' ')) mem)
  have length : leadingSpaces line + utf8Length (line.dropWhile (· = ' ')) = utf8Length line := by
    conv_rhs => rw [← List.takeWhile_append_dropWhile (p := (· = ' ')) (l := line),
      utf8Length_append, taken, utf8Length_replicate]
  exact Nat.psub_eq_some.mpr length

theorem trimLineInBytes?_eq (width : Nat) (line : List Char) :
    trimLineInBytes? width line = some (trimLine width line) := by
  let front := min (leadingSpaces line) width
  have behind := behindBytes?_append (List.replicate front ' ') (line.drop front)
  rw [utf8Length_replicate, replicate_append_drop (Nat.min_le_left ..)] at behind
  rw [trimLineInBytes?, leadingBytes?_eq]
  show (do return dropEndWhile (· = ' ') (← behindBytes? front line)) = _
  rw [behind]
  rfl

/-- Spaces take a byte each, so that no width is negative and all lines are cut between
characters. -/
theorem trimIndentInBytes?_eq (text : List Char) :
    trimIndentInBytes? text = some (trimIndent text) := by
  -- Both passes over the lines come to computations that cannot fail.
  rw [trimIndentInBytes?, funext leadingBytes?_eq]
  show (List.mapM (fun line => pure (leadingSpaces line)) _ >>= _) = _
  rw [List.mapM_pure, pure_bind, funext (trimLineInBytes?_eq _)]
  show (List.mapM (fun line => pure (trimLine _ line)) _ >>= _) = _
  rw [List.mapM_pure]
  rfl

/-! ### The layout of a trimmed text -/

/-- **Trimming keeps lines and relative indentation.**  No width is negative and no character is cut
up, whatever the text.  There are as many line feeds as before.  Each line loses the spaces at its
end and, unless it is blank, exactly the largest number of spaces that all lines which are not blank
start with; a blank line loses no more than this at its start, and nothing if there are blank lines
only.  If there is a line that is not blank, then there is one that is not indented any more.
Trimming a second time changes nothing. -/
theorem trimIndent_keeps_layout (text : List Char) :
    trimIndentInBytes? text = some (trimIndent text)
    ∧ (trimIndent text).count '\n' = text.count '\n'
    ∧ (∃ width, List.Forall₂ (Trims width) (text.splitOn '\n') ((trimIndent text).splitOn '\n')
      ∧ ((∃ line ∈ text.splitOn '\n', isBlank line = false) →
        IsGreatest {n | SharedIndent (text.splitOn '\n') n} width)
      ∧ ((∀ line ∈ text.splitOn '\n', isBlank line = true) → width = 0))
    ∧ ((∃ line ∈ text.splitOn '\n', isBlank line = false) →
      ∃ line ∈ (trimIndent text).splitOn '\n', isBlank line = false ∧ line.head? ≠ some ' ')
    ∧ trimIndent (trimIndent text) = trimIndent text :=
  ⟨trimIndentInBytes?_eq text, count_trimIndent text,
    ⟨_, forall₂_trims text, isGreatest_commonSpaces, commonSpaces_of_blank⟩,
    exists_unindented, trimIndent_trimIndent text⟩

/-- Two lines are blank: one has a no-break space between two spaces, the other is a tab. -/
example :
    trimIndent "  \u03b1 \n    b\n \u00a0 \n\t".toList = "\u03b1\n  b\n\u00a0\n\t".toList := by
  decide

end Transclusion.Text
