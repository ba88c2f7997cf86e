import Transclusion.Fragment.TextRange
import Transclusion.Proofs.Outcome
import Transclusion.Proofs.Text.Indices
/-!
# The grammar of text ranges

The data of the scheme `text` names a unit and, after an equals sign, a position or a range; checks
may follow after a semicolon.  By the grammar a range has a start, an end, or both
(`WritesBounds`).  What is read is the grammar, and besides it a comma that stands alone for the
whole text (`IsLoneComma`).

* `TextUnit.read?_eq_some_iff`, `TextRange.readBounds?_eq_some_iff`: what the parts are read from.
* `TextRange.read_eq_ok_iff`: from which data which range is read.
* `TextRange.read_loneComma`: a comma alone is accepted and is not in the grammar.
-/

namespace Transclusion

open Text

/-! ### The grammar -/

/-- A position, which is the empty range there, or a range, with its start and its end. -/
inductive WritesBounds : List Char → Nat → Option Nat → Prop
  | position {digits : List Char} {n : Nat} (written : WritesIndex digits n) :
      WritesBounds digits n (some n)
  | onwards {digits : List Char} {n : Nat} (written : WritesIndex digits n) :
      WritesBounds (digits ++ [',']) n none
  | between {digits digits' : List Char} {start stop : Nat} (first : WritesIndex digits start)
      (last : WritesIndex digits' stop) : WritesBounds (digits ++ ',' :: digits') start (some stop)
  | upTo {digits : List Char} {n : Nat} (written : WritesIndex digits n) :
      WritesBounds (',' :: digits) 0 (some n)

/-- A range without a start and without an end. -/
inductive IsLoneComma : List Char → Nat → Option Nat → Prop
  | intro : IsLoneComma [','] 0 none

/-- What may follow a range: nothing, or items after a semicolon, all in one line. -/
inductive WritesChecks : List Char → IntegrityCheck → Prop
  | nothing : WritesChecks [] .none
  | items {items : List Char} (oneLine : '\n' ∉ items) :
      WritesChecks (';' :: items) (TextRange.checkOf (pieces ';' items))

/-- The data of the scheme `text`, with white space around the name of the unit and around the
bounds. -/
inductive WritesRange (bounds : List Char → Nat → Option Nat → Prop) : List Char → TextRange → Prop
  | intro {before gap gap' written after checks : List Char} {unit : TextUnit} {start : Nat}
      {stop : Option Nat} {check : IntegrityCheck}
      (beforeSpaces : ∀ c ∈ before, isSpace c = true) (gapSpaces : ∀ c ∈ gap, isSpace c = true)
      (gapSpaces' : ∀ c ∈ gap', isSpace c = true) (bounded : bounds written start stop)
      (ordered : ∀ last ∈ stop, start ≤ last) (afterSpaces : ∀ c ∈ after, isSpace c = true)
      (checked : WritesChecks checks check) :
      WritesRange bounds
        (before ++ unit.name.toList ++ gap ++ '=' :: (gap' ++ written ++ after ++ checks))
        ⟨unit, start, stop, check⟩

/-! ### Units -/

namespace TextUnit

/-- Reads the name of this unit and an equals sign after white space. -/
def readName? (unit : TextUnit) (cs : List Char) : Option (TextUnit × List Char) := do
  match trimStart (← unit.name.toList.isPrefixOf? cs) with
  | '=' :: rest => some (unit, rest)
  | _ => none

theorem read?_eq (cs : List Char) :
    read? cs = (readName? char (trimStart cs)).or (readName? line (trimStart cs)) :=
  Option.orElse_eq_or

theorem readName?_eq_some_iff {unit unit' : TextUnit} {cs rest : List Char} :
    readName? unit cs = some (unit', rest)
      ↔ unit' = unit ∧ ∃ gap, cs = unit.name.toList ++ gap ++ '=' :: rest
        ∧ ∀ c ∈ gap, isSpace c = true := by
  unfold readName?
  constructor
  · intro read
    obtain ⟨after, named, read⟩ := Option.bind_eq_some_iff.mp read
    split at read
    · next behind =>
      cases read
      refine ⟨rfl, after.takeWhile isSpace, ?_, fun _ => List.mem_takeWhile_imp⟩
      have whole : after = after.takeWhile isSpace ++ '=' :: rest := by
        rw [← behind]
        exact List.takeWhile_append_dropWhile.symm
      rw [List.append_assoc, ← whole]
      exact (List.isPrefixOf?_eq_some_iff_append_eq.mp named).symm
    · cases read
  · rintro ⟨rfl, gap, rfl, spaces⟩
    have equals : trimStart (gap ++ '=' :: rest) = '=' :: rest :=
      (trimStart_append spaces _).trans (trimStart_cons (by decide) rest)
    have named := List.isPrefixOf?_eq_some_iff_append_eq.mpr
      (List.append_assoc unit'.name.toList gap ('=' :: rest)).symm
    rw [named]
    show (match trimStart (gap ++ '=' :: rest) with | '=' :: rest => _ | _ => _) = _
    rw [equals]
    rfl

/-- The names of the units begin with different letters. -/
theorem readName?_char_of_line {cs : List Char} {found : TextUnit × List Char}
    (h : readName? line cs = some found) : readName? char cs = none := by
  refine Option.eq_none_iff_forall_ne_some.mpr fun other h' => ?_
  obtain ⟨-, _, whole, -⟩ := readName?_eq_some_iff.mp h
  obtain ⟨-, _, whole', -⟩ := readName?_eq_some_iff.mp h'
  cases whole.symm.trans whole'

theorem trimStart_name (unit : TextUnit) (cs : List Char) :
    trimStart (unit.name.toList ++ cs) = unit.name.toList ++ cs := by
  cases unit <;> exact trimStart_cons (by decide) _

theorem read?_eq_some_iff {unit : TextUnit} {cs rest : List Char} :
    read? cs = some (unit, rest)
      ↔ ∃ before gap, cs = before ++ unit.name.toList ++ gap ++ '=' :: rest
        ∧ (∀ c ∈ before, isSpace c = true) ∧ ∀ c ∈ gap, isSpace c = true := by
  have named : read? cs = some (unit, rest)
      ↔ readName? unit (trimStart cs) = some (unit, rest) := by
    rw [read?_eq, Option.or_eq_some_iff]
    constructor
    · rintro (h | ⟨-, h⟩)
      · obtain ⟨rfl, -⟩ := readName?_eq_some_iff.mp h
        exact h
      · obtain ⟨rfl, -⟩ := readName?_eq_some_iff.mp h
        exact h
    · intro h
      cases unit with
      | char => exact .inl h
      | line => exact .inr ⟨readName?_char_of_line h, h⟩
  rw [named, readName?_eq_some_iff]
  constructor
  · rintro ⟨-, gap, start, spaces⟩
    refine ⟨cs.takeWhile isSpace, gap, ?_, fun _ => List.mem_takeWhile_imp, spaces⟩
    rw [List.append_assoc, List.append_assoc, ← List.append_assoc unit.name.toList, ← start]
    exact List.takeWhile_append_dropWhile.symm
  · rintro ⟨before, gap, rfl, spaces, spaces'⟩
    refine ⟨rfl, gap, ?_, spaces'⟩
    rw [List.append_assoc, List.append_assoc, trimStart_append spaces, trimStart_name,
      List.append_assoc]

end TextUnit

/-! ### Bounds -/

theorem WritesBounds.characters {written : List Char} {start : Nat} {stop : Option Nat}
    (h : WritesBounds written start stop) : ∀ c ∈ written, c.isDigit = true ∨ c = ',' := by
  cases h with
  | position first => exact fun c mem => .inl (first.decimal c mem)
  | onwards first =>
    exact List.forall_mem_append.mpr
      ⟨fun c mem => .inl (first.decimal c mem), fun c mem => .inr (List.mem_singleton.mp mem)⟩
  | between first last =>
    exact List.forall_mem_append.mpr ⟨fun c mem => .inl (first.decimal c mem),
      List.forall_mem_cons.mpr ⟨.inr rfl, fun c mem => .inl (last.decimal c mem)⟩⟩
  | upTo last => exact List.forall_mem_cons.mpr ⟨.inr rfl, fun c mem => .inl (last.decimal c mem)⟩

theorem not_writesBounds_comma {start : Nat} {stop : Option Nat} :
    ¬WritesBounds [','] start stop := by
  have comma : ',' ∈ [','] := List.mem_singleton_self _
  generalize same : [','] = written
  intro bounded
  cases bounded with
  | position first =>
    subst same
    exact first.not_mem (by decide) comma
  | onwards first => exact first.some_ (List.append_left_eq_self.mp same.symm)
  | between first last =>
    obtain ⟨-, empty⟩ | ⟨_, -, later⟩ := List.append_eq_cons_iff.mp same.symm
    · exact last.some_ (List.cons.inj empty).2
    · cases (List.append_eq_nil_iff.mp later.symm).2
  | upTo last => exact last.some_ (List.cons.inj same).2.symm

namespace TextRange

variable {cs : List Char} {start : Nat} {stop : Option Nat}

/-- The numbers on both sides of a comma, either of which may be missing. -/
theorem readBounds?_of_cut {first last : List Char} (cut : cutAt ',' cs = some (first, last)) :
    readBounds? cs
      = (if first.isEmpty then some 0 else readIndex? first).bind fun start =>
        (if last.isEmpty then some none else (readIndex? last).map some).bind fun stop =>
          some (start, stop) := by
  rw [readBounds?, cut]
  cases first <;> cases last <;> rfl

theorem bounds_of_readBounds? (read : readBounds? cs = some (start, stop)) :
    WritesBounds cs start stop ∨ IsLoneComma cs start stop := by
  cases cut : cutAt ',' cs with
  | none =>
    rw [readBounds?, cut] at read
    obtain ⟨position, found, same⟩ := Option.bind_eq_some_iff.mp read
    cases same
    exact .inl (.position (readIndex?_eq_some_iff.mp found))
  | some parts =>
    obtain ⟨first, last⟩ := parts
    rw [readBounds?_of_cut cut] at read
    obtain ⟨start', readFirst, read⟩ := Option.bind_eq_some_iff.mp read
    obtain ⟨stop', readLast, same⟩ := Option.bind_eq_some_iff.mp read
    cases same
    obtain rfl := eq_of_cutAt cut
    cases first with
    | nil =>
      cases readFirst
      cases last with
      | nil =>
        cases readLast
        exact .inr .intro
      | cons c last =>
        obtain ⟨n, found, rfl⟩ := Option.map_eq_some_iff.mp readLast
        exact .inl (.upTo (readIndex?_eq_some_iff.mp found))
    | cons d first =>
      have written := readIndex?_eq_some_iff.mp readFirst
      cases last with
      | nil =>
        cases readLast
        exact .inl (.onwards written)
      | cons c last =>
        obtain ⟨n, found, rfl⟩ := Option.map_eq_some_iff.mp readLast
        exact .inl (.between written (readIndex?_eq_some_iff.mp found))

/-- Two numbers at a comma, either of which may be missing, are read as such. -/
theorem readBounds?_append {first last : List Char} (noComma : ',' ∉ first)
    (readFirst : (if first.isEmpty then some 0 else readIndex? first) = some start)
    (readLast : (if last.isEmpty then some none else (readIndex? last).map some) = some stop) :
    readBounds? (first ++ ',' :: last) = some (start, stop) := by
  rw [readBounds?_of_cut (cutAt_append noComma last), readFirst, readLast]
  rfl

theorem readBounds?_of_bounds (bounded : WritesBounds cs start stop) :
    readBounds? cs = some (start, stop) := by
  have given {digits : List Char} {n : Nat} (h : WritesIndex digits n) :
      (if digits.isEmpty then some 0 else readIndex? digits) = some n := by
    rw [if_neg (List.isEmpty_iff.not.mpr h.some_)]
    exact readIndex?_eq_some_iff.mpr h
  have given' {digits : List Char} {n : Nat} (h : WritesIndex digits n) :
      (if digits.isEmpty then some none else (readIndex? digits).map some) = some (some n) := by
    rw [if_neg (List.isEmpty_iff.not.mpr h.some_), readIndex?_eq_some_iff.mpr h]
    rfl
  cases bounded with
  | position first =>
    have noComma := cutAt_eq_none_iff.mpr (first.not_mem (c := ',') (by decide))
    rw [readBounds?, noComma]
    dsimp only
    rw [readIndex?_eq_some_iff.mpr first]
    rfl
  | onwards first => exact readBounds?_append (first.not_mem (by decide)) (given first) rfl
  | between first last =>
    exact readBounds?_append (first.not_mem (by decide)) (given first) (given' last)
  | upTo last =>
    have noComma : ',' ∉ ([] : List Char) := List.not_mem_nil
    exact readBounds?_append noComma rfl (given' last)

theorem readBounds?_eq_some_iff : readBounds? cs = some (start, stop)
    ↔ WritesBounds cs start stop ∨ IsLoneComma cs start stop := by
  refine ⟨bounds_of_readBounds?, ?_⟩
  rintro (bounded | alone)
  · exact readBounds?_of_bounds bounded
  · cases alone
    rfl

/-! ### Checks -/

theorem head?_of_writesChecks {checks : List Char} {check : IntegrityCheck}
    (h : WritesChecks checks check) : ∀ c ∈ checks.head?, c = ';' := by
  cases h with
  | nothing => exact nofun
  | items => exact fun c mem => (Option.some.inj mem).symm

theorem readChecks?_eq_some_iff {checks : List Char} {check : IntegrityCheck}
    (first : ∀ c ∈ checks.head?, c = ';') :
    readChecks? checks = some check ↔ WritesChecks checks check := by
  constructor
  · intro read
    cases checks with
    | nil =>
      cases read
      exact .nothing
    | cons c items =>
      obtain rfl := first c rfl
      unfold readChecks? at read
      dsimp only at read
      split at read
      · cases read
      · next oneLine =>
        cases read
        exact .items (by simpa using oneLine)
  · intro written
    cases written with
    | nothing => rfl
    | items oneLine => exact if_neg (by simpa using oneLine)

/-! ### Whole data -/

/-- The unit of data, and the bounds and the checks as they are written. -/
def partsOf? (data : List Char) : Option (TextUnit × List Char × List Char) :=
  (TextUnit.read? data).map fun (unit, rest) =>
    (unit, trim (rest.takeWhile (· ≠ ';')), rest.dropWhile (· ≠ ';'))

theorem first_of_partsOf? {data written checks : List Char} {unit : TextUnit}
    (h : partsOf? data = some (unit, written, checks)) : ∀ c ∈ checks.head?, c = ';' := by
  obtain ⟨⟨_, rest⟩, -, same⟩ := Option.map_eq_some_iff.mp h
  cases same
  intro c mem
  simpa using head?_dropWhile_eq_false c mem

/-- Data is taken apart as it was written. -/
theorem partsOf?_append {before gap gap' written after checks : List Char} (unit : TextUnit)
    (beforeSpaces : ∀ c ∈ before, isSpace c = true) (gapSpaces : ∀ c ∈ gap, isSpace c = true)
    (gapSpaces' : ∀ c ∈ gap', isSpace c = true) (afterSpaces : ∀ c ∈ after, isSpace c = true)
    (characters : ∀ c ∈ written, c.isDigit = true ∨ c = ',')
    (first : ∀ c ∈ checks.head?, c = ';') :
    partsOf? (before ++ unit.name.toList ++ gap ++ '=' :: (gap' ++ written ++ after ++ checks))
      = some (unit, written, checks) := by
  have named : TextUnit.read?
      (before ++ unit.name.toList ++ gap ++ '=' :: (gap' ++ written ++ after ++ checks))
        = some (unit, gap' ++ written ++ after ++ checks) :=
    TextUnit.read?_eq_some_iff.mpr ⟨before, gap, rfl, beforeSpaces, gapSpaces⟩
  have space (c : Char) (h : isSpace c = true) : decide (c ≠ ';') = true := by
    refine decide_eq_true ?_
    rintro rfl
    cases h
  have inside (c : Char) (h : c.isDigit = true ∨ c = ',') :
      decide (c ≠ ';') = true ∧ isSpace c = false := by
    obtain digit | rfl := h
    · exact ⟨decide_eq_true (ne_of_isDigit digit (by decide)), isSpace_of_isDigit digit⟩
    · exact ⟨rfl, rfl⟩
  have noSemicolon : ∀ c ∈ gap' ++ written ++ after, decide (c ≠ ';') = true :=
    List.forall_mem_append.mpr ⟨List.forall_mem_append.mpr
      ⟨fun c mem => space c (gapSpaces' c mem), fun c mem => (inside c (characters c mem)).1⟩,
      fun c mem => space c (afterSpaces c mem)⟩
  have semicolon : ∀ c ∈ checks.head?, decide (c ≠ ';') = false :=
    fun c mem => by simp [first c mem]
  obtain ⟨taken, left⟩ := takeWhile_dropWhile_of_run noSemicolon semicolon
  have trimmed : trim (gap' ++ written ++ after) = written :=
    trim_between gapSpaces' afterSpaces fun c mem => (inside c (characters c mem)).2
  rw [partsOf?, named, Option.map_some]
  dsimp only
  rw [taken, left, trimmed]

/-- A range is written where the parts of the data are those of the range. -/
theorem writesRange_iff {bounds : List Char → Nat → Option Nat → Prop} {data : List Char}
    {r : TextRange} (characters : ∀ cs start stop, bounds cs start stop →
      ∀ c ∈ cs, c.isDigit = true ∨ c = ',') :
    WritesRange bounds data r ↔ ∃ written checks, partsOf? data = some (r.unit, written, checks)
      ∧ bounds written r.start r.stop ∧ (∀ last ∈ r.stop, r.start ≤ last)
      ∧ WritesChecks checks r.check := by
  constructor
  · intro h
    cases h with
    | intro beforeSpaces gapSpaces gapSpaces' bounded ordered afterSpaces checked =>
      exact ⟨_, _, partsOf?_append _ beforeSpaces gapSpaces gapSpaces' afterSpaces
        (characters _ _ _ bounded) (head?_of_writesChecks checked), bounded, ordered, checked⟩
  · rintro ⟨written, checks, parts, bounded, ordered, checked⟩
    obtain ⟨⟨unit, rest⟩, named, same⟩ := Option.map_eq_some_iff.mp parts
    cases same
    obtain ⟨before, gap, rfl, beforeSpaces, gapSpaces⟩ := TextUnit.read?_eq_some_iff.mp named
    obtain ⟨gap', after, around, gapSpaces', afterSpaces⟩ :=
      exists_of_trim (rest.takeWhile (· ≠ ';'))
    have whole : rest = gap' ++ trim (rest.takeWhile (· ≠ ';')) ++ after
        ++ rest.dropWhile (· ≠ ';') := by
      rw [← around]
      exact List.takeWhile_append_dropWhile.symm
    have h : WritesRange bounds (before ++ r.unit.name.toList ++ gap ++ '=' ::
        (gap' ++ trim (rest.takeWhile (· ≠ ';')) ++ after ++ rest.dropWhile (· ≠ ';'))) r :=
      .intro beforeSpaces gapSpaces gapSpaces' bounded ordered afterSpaces checked
    rwa [← whole] at h

/-- What is read of the parts, before the order of the bounds is looked at. -/
def readParts? (data : List Char) : Option (TextUnit × (Nat × Option Nat) × IntegrityCheck) :=
  (partsOf? data).bind fun (unit, written, checks) =>
    (readBounds? written).bind fun bounds =>
      (readChecks? checks).bind fun check => some (unit, bounds, check)

theorem read_eq (data : String) : read data =
    match readParts? data.toList with
    | none => .error (.unparseable data)
    | some (unit, (start, stop), check) =>
      match stop with
      | some stop =>
        if stop < start then .error (.malformedData "text" (.reversedRange stop start))
        else .ok ⟨unit, start, some stop, check⟩
      | none => .ok ⟨unit, start, none, check⟩ := by
  unfold read readParts? partsOf?
  cases TextUnit.read? data.toList <;> rfl

/-- A range is read if its parts are and its end is not before its start. -/
theorem read_eq_ok_iff_parts {data : String} {r : TextRange} :
    read data = .ok r ↔ ∃ written checks,
      partsOf? data.toList = some (r.unit, written, checks)
      ∧ readBounds? written = some (r.start, r.stop) ∧ (∀ last ∈ r.stop, r.start ≤ last)
      ∧ readChecks? checks = some r.check := by
  rw [read_eq]
  constructor
  · intro read
    split at read
    · cases read
    · next unit start stop check found =>
      obtain ⟨⟨unit', written, checks⟩, parts, found⟩ := Option.bind_eq_some_iff.mp found
      obtain ⟨bounds, bounded, found⟩ := Option.bind_eq_some_iff.mp found
      obtain ⟨check', checked, same⟩ := Option.bind_eq_some_iff.mp found
      cases same
      cases stop with
      | none =>
        cases read
        exact ⟨written, checks, parts, bounded, nofun, checked⟩
      | some stop =>
        dsimp only at read
        split at read
        · cases read
        · next ordered =>
          cases read
          refine ⟨written, checks, parts, bounded, fun last mem => ?_, checked⟩
          cases mem
          exact Nat.not_lt.mp ordered
  · obtain ⟨unit, start, stop, check⟩ := r
    rintro ⟨written, checks, parts, bounded, ordered, checked⟩
    have found : readParts? data.toList = some (unit, (start, stop), check) := by
      rw [readParts?, parts, Option.bind_some]
      dsimp only
      rw [bounded, checked]
      rfl
    rw [found]
    cases stop with
    | none => rfl
    | some stop => exact if_neg (Nat.not_lt.mpr (ordered stop rfl))

theorem characters_of_writesBounds (cs : List Char) (start : Nat) (stop : Option Nat)
    (h : WritesBounds cs start stop) : ∀ c ∈ cs, c.isDigit = true ∨ c = ',' :=
  h.characters

theorem characters_of_isLoneComma (cs : List Char) (start : Nat) (stop : Option Nat)
    (h : IsLoneComma cs start stop) : ∀ c ∈ cs, c.isDigit = true ∨ c = ',' := by
  cases h
  exact List.forall_mem_singleton.mpr (.inr rfl)

/-- A range between two positions as it is written, without white space or checks. -/
theorem read_written (unit : TextUnit) {start stop : Nat} (startFits : start < indexLimit)
    (stopFits : stop < indexLimit) :
    read (unit.name ++ "=" ++ toString start ++ "," ++ toString stop)
      = if stop < start then .error (.malformedData "text" (.reversedRange stop start))
        else .ok ⟨unit, start, some stop, .none⟩ := by
  have bounded := WritesBounds.between (writesIndex_toString startFits)
    (writesIndex_toString stopFits)
  have noSpaces : ∀ c ∈ ([] : List Char), isSpace c = true := nofun
  have noChecks : ∀ c ∈ ([] : List Char).head?, c = ';' := nofun
  have parts := partsOf?_append unit noSpaces noSpaces noSpaces noSpaces bounded.characters noChecks
  have written : (unit.name ++ "=" ++ toString start ++ "," ++ toString stop).toList
      = [] ++ unit.name.toList ++ [] ++ '=' :: ([] ++ ((toString start).toList
        ++ ',' :: (toString stop).toList) ++ [] ++ []) := by
    simp
  have found : readParts? (unit.name ++ "=" ++ toString start ++ "," ++ toString stop).toList
      = some (unit, (start, some stop), .none) := by
    rw [readParts?, written, parts, Option.bind_some]
    dsimp only
    rw [readBounds?_of_bounds bounded]
    rfl
  rw [read_eq, found]

/-- A lone comma is not in the grammar. -/
theorem not_writesRange_of_isLoneComma {data : List Char} {r r' : TextRange}
    (alone : WritesRange IsLoneComma data r') : ¬WritesRange WritesBounds data r := by
  intro h
  obtain ⟨_, _, parts, comma, -⟩ := (writesRange_iff characters_of_isLoneComma).mp alone
  obtain ⟨written, _, parts', bounded, -⟩ := (writesRange_iff characters_of_writesBounds).mp h
  have same := parts'.symm.trans parts
  simp only [Option.some.injEq, Prod.mk.injEq] at same
  obtain ⟨-, rfl, -⟩ := same
  generalize r'.start = start, r'.stop = stop at comma
  cases comma
  exact not_writesBounds_comma bounded

/-- **The scheme `text` reads its grammar and one thing more**, a comma alone in the place of a
position or a range, which stands for the whole text and is not in the grammar.  What it reads has
the unit, the start, the end and the checks that are written; nothing else is accepted. -/
theorem read_eq_ok_iff (data : String) (r : TextRange) :
    (read data = .ok r ↔ WritesRange WritesBounds data.toList r
      ∨ WritesRange IsLoneComma data.toList r)
    ∧ ¬(WritesRange WritesBounds data.toList r
      ∧ ∃ r', WritesRange IsLoneComma data.toList r') := by
  refine ⟨?_, fun ⟨h, r', alone⟩ => not_writesRange_of_isLoneComma alone h⟩
  rw [read_eq_ok_iff_parts, writesRange_iff characters_of_writesBounds,
    writesRange_iff characters_of_isLoneComma]
  constructor
  · rintro ⟨written, checks, parts, bounded, ordered, checked⟩
    have checked := (readChecks?_eq_some_iff (first_of_partsOf? parts)).mp checked
    exact (readBounds?_eq_some_iff.mp bounded).imp
      (fun bounded => ⟨written, checks, parts, bounded, ordered, checked⟩)
      (fun bounded => ⟨written, checks, parts, bounded, ordered, checked⟩)
  · rintro (⟨written, checks, parts, bounded, ordered, checked⟩
      | ⟨written, checks, parts, bounded, ordered, checked⟩)
    · exact ⟨written, checks, parts, readBounds?_eq_some_iff.mpr (.inl bounded), ordered,
        (readChecks?_eq_some_iff (first_of_partsOf? parts)).mpr checked⟩
    · exact ⟨written, checks, parts, readBounds?_eq_some_iff.mpr (.inr bounded), ordered,
        (readChecks?_eq_some_iff (first_of_partsOf? parts)).mpr checked⟩

/-- A comma alone is read as the whole text, although the grammar has no such range. -/
theorem read_loneComma : read "char=," = .ok ⟨.char, 0, none, .none⟩
    ∧ ¬∃ r, WritesRange WritesBounds "char=,".toList r := by
  have alone : WritesRange IsLoneComma
      ([] ++ TextUnit.char.name.toList ++ [] ++ '=' :: ([] ++ [','] ++ [] ++ []))
      ⟨.char, 0, none, .none⟩ :=
    .intro nofun nofun nofun .intro nofun nofun .nothing
  exact ⟨by decide, fun ⟨_, h⟩ => not_writesRange_of_isLoneComma alone h⟩

end TextRange

end Transclusion
