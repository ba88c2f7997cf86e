import Transclusion.Fragment.Identifier
import Transclusion.Proofs.Fragment.RangeCuts
/-!
# References to lines

`L5-L8` refers to the lines 5 to 8 of a text, counted from 1, and `L5` to one line
(`WritesLines`).  Such a reference is read as the data of the scheme `text`, with the lines before
the first one counted (`FragmentId.read_eq_of_writesLines`).  It finds the lines that it names; but
a last line just before the first one is not refused (`FragmentId.reads_reversedLines`).

* `FragmentId.reads_lines`: which references are accepted and what they find.
-/

namespace Transclusion

open Text

/-- A reference to lines as it is written, with the numbers of the first line and of the last.
There may be white space around the numbers. -/
inductive WritesLines : List Char → Nat → Nat → Prop
  | one {gap digits behind : List Char} {n : Nat} (gapSpaces : ∀ c ∈ gap, isSpace c = true)
      (written : WritesIndex digits n) (behindSpaces : ∀ c ∈ behind, isSpace c = true) :
      WritesLines ('L' :: (gap ++ digits ++ behind)) n n
  | two {gap digits behind between gap' digits' behind' : List Char} {first last : Nat}
      (gapSpaces : ∀ c ∈ gap, isSpace c = true) (written : WritesIndex digits first)
      (behindSpaces : ∀ c ∈ behind, isSpace c = true)
      (betweenSpaces : ∀ c ∈ between, isSpace c = true)
      (gapSpaces' : ∀ c ∈ gap', isSpace c = true) (written' : WritesIndex digits' last)
      (behindSpaces' : ∀ c ∈ behind', isSpace c = true) :
      WritesLines ('L' :: (gap ++ digits ++ behind
        ++ '-' :: (between ++ 'L' :: (gap' ++ digits' ++ behind')))) first last

variable {cs : List Char} {first last : Nat}

theorem WritesLines.starts (h : WritesLines cs first last) : ∃ rest, cs = 'L' :: rest := by
  cases h <;> exact ⟨_, rfl⟩

theorem writesLines_toString (firstFits : first < indexLimit) (lastFits : last < indexLimit) :
    WritesLines ('L' :: ((toString first).toList ++ '-' :: 'L' :: (toString last).toList))
      first last := by
  have noSpaces : ∀ c ∈ ([] : List Char), isSpace c = true := nofun
  simpa using WritesLines.two noSpaces (writesIndex_toString firstFits) noSpaces noSpaces noSpaces
    (writesIndex_toString lastFits) noSpaces

/-! ### Reading references -/

theorem Text.isDigit_of_isSpace {c : Char} (h : isSpace c = true) : Text.isDigit c = false := by
  simpa using forall_isSpace (p := fun c => !Text.isDigit c) (by decide +kernel) h

/-- Decimal digits are those of ASCII among the digits of all scripts. -/
theorem Text.isDigit_of_ascii {c : Char} (h : c.isDigit = true) : Text.isDigit c = true := by
  have bounds : 48 ≤ c.toNat ∧ c.toNat ≤ 57 := by
    simpa [Char.isDigit, UInt32.le_iff_toNat_le] using h
  have ascii : c.toNat < 128 := by omega
  rw [Text.isDigit, if_pos ascii, h]

namespace LineReference

/-- A number is read up to the white space behind it. -/
theorem readLine?_append {gap digits behind rest : List Char} {n : Nat}
    (gapSpaces : ∀ c ∈ gap, isSpace c = true) (written : WritesIndex digits n)
    (behindSpaces : ∀ c ∈ behind, isSpace c = true)
    (other : ∀ c ∈ rest.head?, Text.isDigit c = false) :
    readLine? ('L' :: (gap ++ digits ++ behind ++ rest)) = some (digits, trimStart rest) := by
  obtain ⟨d, ds, rfl⟩ := List.exists_cons_of_ne_nil written.some_
  have start : trimStart (gap ++ d :: ds ++ behind ++ rest) = d :: ds ++ (behind ++ rest) := by
    rw [List.append_assoc, List.append_assoc, trimStart_append gapSpaces]
    exact trimStart_cons (written.isSpace_eq_false d List.mem_cons_self) _
  have ends : ∀ c ∈ (behind ++ rest).head?, Text.isDigit c = false := by
    intro c mem
    cases behind with
    | nil => exact other c mem
    | cons b behind =>
      obtain rfl : b = c := Option.some.inj mem
      exact isDigit_of_isSpace (behindSpaces b List.mem_cons_self)
  obtain ⟨taken, left⟩ := takeWhile_dropWhile_of_run (p := Text.isDigit)
    (fun c mem => isDigit_of_ascii (written.decimal c mem)) ends
  rw [readLine?, start, taken, left, trimStart_append behindSpaces]
  exact if_neg (by simp)

/-- The numbers of a reference are read. -/
theorem exists_read?_of_writesLines (h : WritesLines cs first last) :
    ∃ r, read? cs = some r ∧ readIndex? r.first = some first
      ∧ (r.last = none ∧ last = first ∨ ∃ digits, r.last = some digits
        ∧ readIndex? digits = some last) := by
  cases h with
  | @one gap digits behind _ gapSpaces written behindSpaces =>
    refine ⟨⟨digits, none⟩, ?_, readIndex?_eq_some_iff.mpr written, .inl ⟨rfl, rfl⟩⟩
    have noMore : ∀ c ∈ ([] : List Char).head?, Text.isDigit c = false := nofun
    have line := readLine?_append gapSpaces written behindSpaces noMore
    rw [List.append_nil] at line
    rw [read?, line]
    rfl
  | @two gap digits behind between gap' digits' behind' _ _ gapSpaces written behindSpaces
      betweenSpaces gapSpaces' written' behindSpaces' =>
    refine ⟨⟨digits, some digits'⟩, ?_, readIndex?_eq_some_iff.mpr written,
      .inr ⟨digits', rfl, readIndex?_eq_some_iff.mpr written'⟩⟩
    have noDigit : ∀ c ∈ ('-' :: (between ++ 'L' :: (gap' ++ digits' ++ behind'))).head?,
        Text.isDigit c = false := fun c mem => by cases mem; decide
    have line := readLine?_append gapSpaces written behindSpaces noDigit
    -- The hyphen ends the first number, and white space around it is skipped.
    have hyphen : trimStart ('-' :: (between ++ 'L' :: (gap' ++ digits' ++ behind')))
        = '-' :: (between ++ 'L' :: (gap' ++ digits' ++ behind')) := trimStart_cons (by decide) _
    have start : trimStart (between ++ 'L' :: (gap' ++ digits' ++ behind'))
        = 'L' :: (gap' ++ digits' ++ behind') :=
      (trimStart_append betweenSpaces _).trans (trimStart_cons (by decide) _)
    have noMore : ∀ c ∈ ([] : List Char).head?, Text.isDigit c = false := nofun
    have line' := readLine?_append gapSpaces' written' behindSpaces' noMore
    rw [List.append_nil] at line'
    rw [read?, line, hyphen]
    show (readLine? (trimStart (between ++ 'L' :: (gap' ++ digits' ++ behind')))).bind _ = _
    rw [start, line']
    rfl

theorem bounds_eq {r : LineReference} (fragment : String)
    (firstRead : readIndex? r.first = some first)
    (lastRead : r.last = none ∧ last = first
      ∨ ∃ digits, r.last = some digits ∧ readIndex? digits = some last) :
    r.bounds fragment = if first = 0 then .error (.malformedData "text" (.lineZero fragment))
      else .ok (first, last) := by
  unfold bounds
  rw [firstRead]
  cases first with
  | zero => rfl
  | succ n =>
    dsimp only
    obtain ⟨none_, rfl⟩ | ⟨digits, given, lastRead⟩ := lastRead
    · rw [none_]
      rfl
    · rw [given]
      dsimp only
      rw [lastRead]
      rfl

end LineReference

/-- No unit begins like a reference to lines. -/
theorem TextUnit.read?_letter (rest : List Char) : TextUnit.read? ('L' :: rest) = none := by
  refine Option.eq_none_iff_forall_ne_some.mpr fun (unit, _) h => ?_
  obtain ⟨before, gap, whole, spaces, -⟩ := TextUnit.read?_eq_some_iff.mp h
  cases before with
  | nil => cases unit <;> cases whole
  | cons c before =>
    rw [List.cons_append, List.cons_append, List.cons_append] at whole
    have space := spaces c List.mem_cons_self
    rw [← (List.cons.inj whole).1] at space
    cases space

theorem WritesLines.fits (h : WritesLines cs first last) :
    first < indexLimit ∧ last < indexLimit := by
  cases h with
  | one _ written => exact ⟨written.fits, written.fits⟩
  | two _ written _ _ _ written' => exact ⟨written.fits, written'.fits⟩

namespace FragmentId

/-- A reference to lines is read as the range of the lines after so many others. -/
theorem read_eq_of_writesLines {fragment : String} (h : WritesLines fragment.toList first last) :
    read .standard .text fragment
      = if first = 0 then .error (.malformedData "text" (.lineZero fragment))
        else if last < first - 1 then
          .error (.malformedData "text" (.reversedRange last (first - 1)))
        else .ok [(TextRange.range .line (first - 1) last).scheme] := by
  obtain ⟨r, found, firstRead, lastRead⟩ := LineReference.exists_read?_of_writesLines h
  obtain ⟨rest, start⟩ := h.starts
  have noUnit : TextUnit.read? fragment.toList = none := start ▸ TextUnit.read?_letter rest
  have range : TextRange.read (lineRange first last)
      = if last < first - 1 then .error (.malformedData "text" (.reversedRange last (first - 1)))
        else .ok (TextRange.range .line (first - 1) last) :=
    TextRange.read_written .line (by have := h.fits; omega) h.fits.2
  show readText .standard fragment = _
  unfold readText
  dsimp only
  rw [noUnit, found]
  dsimp only
  rw [if_neg (by simp), LineReference.bounds_eq fragment firstRead lastRead]
  by_cases zero : first = 0
  · rw [if_pos zero, if_pos zero]
    rfl
  · rw [if_neg zero, if_neg zero]
    show ((do return (← TextRange.read (lineRange first last)).scheme) >>= fun s => pure [s]) = _
    rw [range]
    split <;> rfl

/-! ### What references find -/

variable {text : String} {ls : List (List Char)} {selected : List Char}

theorem split_eq_of_areLines (areLines : AreLines text.toList ls) :
    TextUnit.line.split text.toList = ls := (areLines_iff.mp areLines).symm

theorem finds_lines_iff (areLines : AreLines text.toList ls) (counted : 1 ≤ first)
    (ordered : first ≤ last) : (TextRange.range .line (first - 1) last).scheme.Finds text selected
      ↔ first ≤ ls.length ∧ selected = linesFromTo ls first last := by
  rw [TextRange.range_finds_iff, TextRange.isFound_range, split_eq_of_areLines areLines,
    linesFromTo_eq]
  exact and_congr_left' (by omega)

theorem finds_behind_lines_iff (areLines : AreLines text.toList ls) :
    (TextRange.range .line last last).scheme.Finds text selected
      ↔ last ≤ ls.length ∧ selected = [] := by
  have nothing : (ls.extract last last).flatten = [] := by
    rw [List.extract_eq_take_drop, Nat.sub_self]
    rfl
  rw [TextRange.range_finds_iff, TextRange.isFound_range, split_eq_of_areLines areLines, nothing]
  exact and_congr_left' (by omega)

/-- **References to lines find the lines that they name.**  A reference is refused if it counts from
0 or if its last line is two or more before its first; any other is accepted.  If the last line is
not before the first, it finds the lines from the one to the other, both included, as far as the
text has them; it finds nothing if and only if the text has no first line.  If the last line is just
before the first, it finds the empty text between them. -/
theorem reads_lines {fragment : String} (h : WritesLines fragment.toList first last) :
    let scheme := (TextRange.range .line (first - 1) last).scheme
    ((first = 0 ∨ last + 1 < first) →
      ∃ fault, read .standard .text fragment = .error (.malformedData "text" fault))
    ∧ (1 ≤ first → first ≤ last + 1 → read .standard .text fragment = .ok [scheme])
    ∧ ∀ text ls, AreLines text.toList ls → 1 ≤ first →
      (first ≤ last →
        (∀ selected, scheme.Finds text selected
          ↔ first ≤ ls.length ∧ selected = linesFromTo ls first last)
        ∧ (scheme.FindsNothing text ↔ ls.length < first))
      ∧ (first = last + 1 →
        (∀ selected, scheme.Finds text selected ↔ last ≤ ls.length ∧ selected = [])
        ∧ (scheme.FindsNothing text ↔ ls.length < last)) := by
  dsimp only
  rw [read_eq_of_writesLines h]
  refine ⟨fun refused => ?_, fun counted ordered => ?_, fun text ls areLines counted =>
    ⟨fun ordered => ⟨fun _ => finds_lines_iff areLines counted ordered, ?_⟩, fun reversed => ?_⟩⟩
  · by_cases zero : first = 0
    · exact ⟨_, if_pos zero⟩
    · have reversed : last < first - 1 := by omega
      exact ⟨_, (if_neg zero).trans (if_pos reversed)⟩
  · rw [if_neg (by omega), if_neg (by omega)]
  · rw [TextRange.range_findsNothing_iff, TextRange.isFound_range, split_eq_of_areLines areLines]
    omega
  · obtain rfl := reversed
    rw [Nat.add_sub_cancel]
    refine ⟨fun _ => finds_behind_lines_iff areLines, ?_⟩
    rw [TextRange.range_findsNothing_iff, TextRange.isFound_range, split_eq_of_areLines areLines]
    omega

/-- The last two of three lines. -/
theorem reads_lines_of_three :
    WritesLines "L2-L3".toList 2 3
      ∧ (∃ s, read .standard .text "L2-L3" = .ok [s] ∧ s.Finds "a\nb\nc" "b\nc".toList) := by
  have written : WritesLines "L2-L3".toList 2 3 :=
    @writesLines_toString 2 3 (by decide) (by decide)
  obtain ⟨-, accepted, finds⟩ := reads_lines written
  have three := areLines_lines "a\nb\nc".toList
  refine ⟨written, _, accepted (by decide) (by decide), ?_⟩
  exact (((finds _ _ three (by decide)).1 (by decide)).1 _).mpr ⟨by decide, by decide⟩

/-- A last line just before the first is not refused. -/
theorem reads_reversedLines :
    WritesLines "L2-L1".toList 2 1
      ∧ read .standard .text "L2-L1" = .ok [(TextRange.range .line 1 1).scheme] := by
  have written : WritesLines "L2-L1".toList 2 1 :=
    @writesLines_toString 2 1 (by decide) (by decide)
  refine ⟨written, ?_⟩
  rw [read_eq_of_writesLines written]
  rfl

end FragmentId

end Transclusion
