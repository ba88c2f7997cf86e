import Mathlib.Data.List.Infix
import Transclusion.Fragment.Identifier
import Transclusion.Proofs.Text.Trimming
/-!
# Written terms are read back

A pointer is written as terms with white space between them, or none.  The data of each term is
either escaped, or stands as it is if it has no circumflex and its parentheses are balanced.  From
such a text exactly the schemes that were written are read, with their data: what is between the
parentheses is read as the data (`Writes.readData?_append`), a term ends at its parenthesis
(`WrittenTerm.readTerm_append`), and no such text is one of the short forms for text
(`readText_of_openParen`).

* `FragmentId.read_writtenTerms`: a pointer is read as it was written.
-/

namespace Transclusion

open Text

/-! ### Data -/

/-- Every parenthesis that closes has one before it that opens, and every one that opens is
closed. -/
def IsBalanced (cs : List Char) : Prop :=
  (∀ before ∈ cs.inits, before.count ')' ≤ before.count '(') ∧ cs.count ')' = cs.count '('

instance (cs : List Char) : Decidable (IsBalanced cs) := inferInstanceAs (Decidable (_ ∧ _))

/-- How data is written in a term: escaped, or as it is. -/
inductive Writes : List Char → List Char → Prop
  | escaped (data : List Char) : Writes (escape data) data
  | plain {data : List Char} (noCircumflex : '^' ∉ data) (balanced : IsBalanced data) :
      Writes data data

theorem readData?_cons {c : Char} (other : isEscaped c = false) (depth : Nat) (rest : List Char) :
    readData? depth (c :: rest) = withFirst c (readData? depth rest) := by
  simp only [isEscaped, Bool.or_eq_false_iff, decide_eq_false_iff_not] at other
  obtain ⟨⟨notOpen, notClose⟩, notCircumflex⟩ := other
  rw [readData?]
  · exact fun _ _ same => absurd same notCircumflex
  · exact notOpen
  · exact fun _ => notClose
  · exact fun _ _ => notClose

theorem readData?_escape (data rest : List Char) :
    readData? 0 (escape data ++ ')' :: rest) = some (data, rest) := by
  induction data with
  | nil =>
    show readData? 0 (')' :: rest) = _
    rw [readData?]
  | cons c data ih =>
    have parts : escape (c :: data) = (if isEscaped c then ['^', c] else [c]) ++ escape data :=
      List.flatMap_cons
    rw [parts]
    cases special : isEscaped c with
    | true =>
      show readData? 0 ('^' :: c :: (escape data ++ ')' :: rest)) = _
      rw [readData?, if_pos special, ih]
      rfl
    | false =>
      show readData? 0 (c :: (escape data ++ ')' :: rest)) = _
      rw [readData?_cons special, ih]
      rfl

/-- Data without circumflexes is read up to the parenthesis that closes it, when `depth` other ones
are open. -/
theorem readData?_plain {cs : List Char} (depth : Nat) (noCircumflex : '^' ∉ cs)
    (enough : ∀ before, before <+: cs → before.count ')' ≤ depth + before.count '(')
    (closed : cs.count ')' = depth + cs.count '(') (rest : List Char) :
    readData? depth (cs ++ ')' :: rest) = some (cs, rest) := by
  -- A parenthesis changes the depth by one, and both conditions hold again at the new depth.
  induction cs generalizing depth with
  | nil =>
    obtain rfl : depth = 0 := closed.symm
    rw [List.nil_append, readData?]
  | cons c cs ih =>
    rw [List.mem_cons, not_or] at noCircumflex
    have inner (before : List Char) (start : before <+: cs) :=
      enough (c :: before) (List.cons_prefix_cons.mpr ⟨rfl, start⟩)
    rw [List.cons_append]
    by_cases opens : c = '('
    · subst opens
      have later := ih (depth + 1) noCircumflex.2
        (fun before start => by simpa [Nat.add_assoc, Nat.add_comm 1] using inner before start)
        (by simpa [Nat.add_assoc, Nat.add_comm 1] using closed)
      rw [readData?, later]
      rfl
    by_cases closes : c = ')'
    · subst closes
      have some_ := inner [] List.nil_prefix
      cases depth with
      | zero => simp at some_
      | succ depth =>
        have later := ih depth noCircumflex.2
          (fun before start => by simpa [Nat.add_right_comm] using inner before start)
          (by simpa [Nat.add_right_comm] using closed)
        rw [readData?, later]
        rfl
    · have other : isEscaped c = false := by
        simp [isEscaped, opens, closes, Ne.symm noCircumflex.1]
      have later := ih depth noCircumflex.2
        (fun before start => by simpa [opens, closes] using inner before start)
        (by simpa [opens, closes] using closed)
      rw [readData?_cons other, later]
      rfl

/-- Data that was written is read back, up to the parenthesis behind it. -/
theorem Writes.readData?_append {body data : List Char} (h : Writes body data) (rest : List Char) :
    readData? 0 (body ++ ')' :: rest) = some (data, rest) := by
  cases h with
  | escaped => exact readData?_escape data rest
  | plain noCircumflex balanced =>
    refine readData?_plain 0 noCircumflex (fun before start => ?_) ?_ rest
    · simpa using balanced.1 before ((List.mem_inits _ _).mpr start)
    · simpa using balanced.2

/-! ### Terms -/

/-- A name, a parenthesis that opens and data that is closed are read as a term. -/
theorem readTerm_eq {cs body data rest : List Char} (named : cs.takeWhile isSchemeNameChar ≠ [])
    (opens : trimStart (cs.dropWhile isSchemeNameChar) = '(' :: body)
    (closed : readData? 0 body = some (data, rest)) :
    readTerm cs = .ok (⟨cs.takeWhile isSchemeNameChar, data⟩, rest) := by
  unfold readTerm
  dsimp only
  split
  · next same =>
    cases opens.symm.trans same
    rw [closed]
  · next other =>
    obtain ⟨c, name, start⟩ := List.exists_cons_of_ne_nil named
    exact absurd opens (other c name body start)

/-- A term as it is written. -/
structure WrittenTerm where
  name : String
  data : String
  /-- White space before the parenthesis. -/
  gap : List Char
  /-- The data as it stands between the parentheses. -/
  body : List Char
  /-- White space after the term. -/
  behind : List Char
  named : name ≠ ""
  nameChars : ∀ c ∈ name.toList, isSchemeNameChar c = true
  gapSpaces : ∀ c ∈ gap, isSpace c = true
  writes : Writes body data.toList
  behindSpaces : ∀ c ∈ behind, isSpace c = true

namespace WrittenTerm

/-- The characters of a term. -/
def write (t : WrittenTerm) : List Char :=
  t.name.toList ++ t.gap ++ '(' :: t.body ++ ')' :: t.behind

/-- What is written. -/
def term (t : WrittenTerm) : Term := ⟨t.name.toList, t.data.toList⟩

theorem not_isSchemeNameChar_of_isSpace {c : Char} (h : isSpace c = true) :
    isSchemeNameChar c = false := by
  have notPlus : c ≠ '+' := by
    rintro rfl
    cases h
  have notColon : c ≠ ':' := by
    rintro rfl
    cases h
  simp [isSchemeNameChar, isWordChar_of_isSpace h, notPlus, notColon]

/-- A term is read up to its closing parenthesis. -/
theorem readTerm_append (t : WrittenTerm) (rest : List Char) :
    readTerm (t.name.toList ++ (t.gap ++ '(' :: (t.body ++ ')' :: rest))) = .ok (t.term, rest) := by
  -- The name ends at the white space or the parenthesis behind it.
  have stops (cs : List Char) :
      ∀ c ∈ (t.gap ++ '(' :: cs).head?, isSchemeNameChar c = false := by
    intro c first
    cases h : t.gap with
    | nil =>
      rw [h] at first
      cases first
      decide
    | cons c' gap =>
      rw [h] at first
      cases first
      exact not_isSchemeNameChar_of_isSpace (t.gapSpaces c (h ▸ List.mem_cons_self))
  have name (cs : List Char) :
      (t.name.toList ++ (t.gap ++ '(' :: cs)).takeWhile isSchemeNameChar = t.name.toList :=
    (takeWhile_dropWhile_of_run t.nameChars (stops cs)).1
  have opens (cs : List Char) :
      trimStart ((t.name.toList ++ (t.gap ++ '(' :: cs)).dropWhile isSchemeNameChar)
        = '(' :: cs := by
    have noSpace : isSpace '(' = false := by decide
    rw [(takeWhile_dropWhile_of_run t.nameChars (stops cs)).2, trimStart_append t.gapSpaces,
      trimStart_cons noSpace]
  have named : (t.name.toList ++ (t.gap ++ '(' :: (t.body ++ ')' :: rest))).takeWhile
      isSchemeNameChar ≠ [] := by
    rw [name]
    exact String.toList_eq_nil_iff.not.mpr t.named
  rw [readTerm_eq named (opens _) (t.writes.readData?_append rest), name]
  rfl

/-- Around a term only white space is removed. -/
theorem trim_write (t : WrittenTerm) {blank : List Char} (spaces : ∀ c ∈ blank, isSpace c = true)
    (rest : List Char) :
    trim (blank ++ (t.write ++ rest))
      = t.name.toList ++ (t.gap ++ '(' :: (t.body ++ ')' :: trimEnd (t.behind ++ rest))) := by
  obtain ⟨c, cs, named⟩ := List.exists_cons_of_ne_nil (String.toList_eq_nil_iff.not.mpr t.named)
  have other : isSpace c = false := by
    have nameChar := t.nameChars c (named ▸ List.mem_cons_self)
    rw [← Bool.not_eq_true]
    intro space
    rw [not_isSchemeNameChar_of_isSpace space] at nameChar
    cases nameChar
  have noSpace : isSpace ')' = false := by decide
  have start : trimStart (t.write ++ rest) = t.write ++ rest := by
    rw [write, named]
    exact trimStart_cons other _
  have written : t.write ++ rest
      = (t.name.toList ++ t.gap ++ '(' :: t.body) ++ ')' :: (t.behind ++ rest) := by
    simp [write]
  rw [trim, trimStart_append spaces, start, written, trimEnd_append_cons noSpace]
  simp

end WrittenTerm

namespace TermScan

variable {cs rest blank : List Char} {t : Term}

theorem of_spaces (spaces : ∀ c ∈ blank, isSpace c = true) : TermScan.of blank = ⟨[], none⟩ := by
  rw [TermScan.of, trim_of_spaces spaces]
  rfl

theorem of_trimEnd (cs : List Char) : TermScan.of (trimEnd cs) = TermScan.of cs := by
  rw [TermScan.of, TermScan.of, trim_trimEnd]

theorem of_readTerm (h : readTerm (trim cs) = .ok (t, rest)) :
    TermScan.of cs = ⟨t :: (TermScan.of rest).terms, (TermScan.of rest).fault⟩ := by
  rw [TermScan.of]
  split
  · next empty =>
    rw [List.isEmpty_iff.mp empty] at h
    cases h
  · split
    · next failed =>
      rw [failed] at h
      cases h
    · next found =>
      rw [found] at h
      cases h
      rfl

/-- The terms of a text are those that were written. -/
theorem of_write (spaces : ∀ c ∈ blank, isSpace c = true) (terms : List WrittenTerm) :
    TermScan.of (blank ++ terms.flatMap WrittenTerm.write)
      = ⟨terms.map WrittenTerm.term, none⟩ := by
  induction terms generalizing blank with
  | nil =>
    rw [List.flatMap_nil, List.append_nil]
    exact of_spaces spaces
  | cons t terms ih =>
    have read : readTerm (trim (blank ++ (t :: terms).flatMap WrittenTerm.write))
        = .ok (t.term, trimEnd (t.behind ++ terms.flatMap WrittenTerm.write)) := by
      rw [List.flatMap_cons, t.trim_write spaces, t.readTerm_append]
    rw [of_readTerm read, of_trimEnd, ih t.behindSpaces]
    rfl

end TermScan

/-! ### Short forms for text -/

/-- What a text has besides the white space at its start. -/
theorem exists_of_trimStart (cs : List Char) :
    ∃ blank, cs = blank ++ trimStart cs ∧ '(' ∉ blank := by
  refine ⟨cs.takeWhile isSpace, List.takeWhile_append_dropWhile.symm, fun mem => ?_⟩
  cases List.mem_takeWhile_imp mem

/-- A word and an equals sign are read only where no parenthesis is before the equals sign. -/
theorem not_before_equals {word cs after rest : List Char} (noParen : '(' ∉ word)
    (first : word.isPrefixOf? (trimStart cs) = some after)
    (second : trimStart after = '=' :: rest) :
    ∃ before, cs = before ++ '=' :: rest ∧ '(' ∉ before := by
  obtain ⟨blank, whole, none_⟩ := exists_of_trimStart cs
  obtain ⟨gap, whole', none_'⟩ := exists_of_trimStart after
  have start := List.isPrefixOf?_eq_some_iff_append_eq.mp first
  refine ⟨blank ++ word ++ gap, ?_, ?_⟩
  · rw [whole, ← start, whole', second]
    simp
  · simp [none_, noParen, none_']

theorem exists_of_readUnit {cs : List Char} (h : (TextUnit.read? cs).isSome = true) :
    ∃ before rest, cs = before ++ '=' :: rest ∧ '(' ∉ before := by
  have noParen (unit : TextUnit) : '(' ∉ unit.name.toList := by
    cases unit <;> decide
  obtain ⟨found, h⟩ := Option.isSome_iff_exists.mp h
  obtain h | ⟨-, h⟩ := Option.or_eq_some_iff.mp (Option.orElse_eq_or.symm.trans h)
  all_goals
    obtain ⟨after, first, later⟩ := Option.bind_eq_some_iff.mp h
    split at later
    · next rest second =>
      obtain ⟨before, whole, none_⟩ := not_before_equals (noParen _) first second
      exact ⟨before, rest, whole, none_⟩
    · cases later

theorem exists_of_afterSearch {cs data : List Char} (h : afterSearch? cs = some data) :
    ∃ before, cs = before ++ '=' :: data ∧ '(' ∉ before := by
  unfold afterSearch? at h
  obtain ⟨after, first, later⟩ := Option.bind_eq_some_iff.mp h
  split at later
  · next second =>
    cases later
    exact not_before_equals (by decide) first second
  · cases later

theorem mem_dropWhile {p : Char → Bool} {c : Char} {cs : List Char} (mem : c ∈ cs)
    (other : p c = false) : c ∈ cs.dropWhile p := by
  rw [← List.takeWhile_append_dropWhile (p := p) (l := cs), List.mem_append] at mem
  obtain mem | mem := mem
  · rw [List.mem_takeWhile_imp mem] at other
    cases other
  · exact mem

namespace LineReference

theorem mem_of_readLine {cs digits rest : List Char} (h : readLine? cs = some (digits, rest))
    (mem : '(' ∈ cs) : '(' ∈ rest := by
  unfold readLine? at h
  split at h
  · next behind =>
    dsimp only at h
    split at h
    · cases h
    · cases h
      have inTail : '(' ∈ behind := by
        simpa using mem
      have noSpace : isSpace '(' = false := by decide
      have noDigit : isDigit '(' = false := by decide
      exact mem_dropWhile (mem_dropWhile (mem_dropWhile inTail noSpace) noDigit) noSpace
  · cases h

/-- A reference to lines has no parenthesis. -/
theorem not_mem_of_read {cs : List Char} {r : LineReference} (h : read? cs = some r) :
    '(' ∉ cs := by
  intro mem
  unfold read? at h
  obtain ⟨⟨first, rest⟩, line, later⟩ := Option.bind_eq_some_iff.mp h
  have behind := mem_of_readLine line mem
  split at later
  · next same =>
    cases same
    cases behind
  · next first' rest' same =>
    cases same
    have inTail : '(' ∈ rest' := by
      simpa using behind
    have noSpace : isSpace '(' = false := by decide
    obtain ⟨⟨last, rest''⟩, line', later'⟩ := Option.bind_eq_some_iff.mp later
    have behind' := mem_of_readLine line' (mem_dropWhile inTail noSpace)
    split at later'
    · next same =>
      cases same
      cases behind'
    · cases later'
  · cases later

end LineReference

/-! ### Identifiers -/

/-- A text does not have both a parenthesis and an equals sign as the first of either. -/
theorem append_openParen_ne {before before' rest rest' : List Char} (noEquals : '=' ∉ before)
    (noParen : '(' ∉ before') : before ++ '(' :: rest ≠ before' ++ '=' :: rest' := by
  intro same
  obtain ⟨between, whole, ends⟩ | ⟨between, whole, ends⟩ := List.append_eq_append_iff.mp same
  · cases between with
    | nil => cases ends
    | cons c between =>
      obtain rfl : '(' = c := (List.cons.inj ends).1
      exact noParen (by simp [whole])
  · cases between with
    | nil => cases ends
    | cons c between =>
      obtain rfl : '=' = c := (List.cons.inj ends).1
      exact noEquals (by simp [whole])

namespace FragmentId

variable {registry : SchemeRegistry} {parseType : ParseType} {before rest : List Char}

/-- A text with a parenthesis before any equals sign is none of the short forms. -/
theorem readText_of_openParen (noEquals : '=' ∉ before) :
    readText registry (String.ofList (before ++ '(' :: rest))
      = readTerms registry .text (String.ofList (before ++ '(' :: rest)) := by
  have noUnit : ¬(TextUnit.read? (before ++ '(' :: rest)).isSome = true := by
    intro h
    obtain ⟨before', rest', same, noParen⟩ := exists_of_readUnit h
    exact append_openParen_ne noEquals noParen same
  have noLine : LineReference.read? (before ++ '(' :: rest) = none := by
    refine Option.eq_none_iff_forall_ne_some.mpr fun r h => ?_
    exact LineReference.not_mem_of_read h (by simp)
  have noSearch : afterSearch? (before ++ '(' :: rest) = none := by
    refine Option.eq_none_iff_forall_ne_some.mpr fun data h => ?_
    obtain ⟨before', same, noParen⟩ := exists_of_afterSearch h
    exact append_openParen_ne noEquals noParen same
  unfold readText
  dsimp only
  rw [String.toList_ofList, if_neg noUnit, noLine, noSearch]

theorem read_of_openParen (supported : parseType ≠ .unsupported) (noEquals : '=' ∉ before) :
    read registry parseType (String.ofList (before ++ '(' :: rest))
      = readTerms registry parseType (String.ofList (before ++ '(' :: rest)) := by
  cases parseType with
  | unsupported => exact absurd rfl supported
  | text => exact readText_of_openParen noEquals
  | xml =>
    have mem : (String.ofList (before ++ '(' :: rest)).toList.contains '(' = true := by
      simp
    exact if_pos mem

/-- The terms that were written invoke the schemes of their names with their data. -/
theorem ofTerms_map {terms : List WrittenTerm} {reader : String → SchemeReader}
    (registered : ∀ t ∈ terms, registry.get? t.name = some (reader t.name)
      ∧ (reader t.name).parseType = parseType) :
    ofTerms registry parseType (terms.map WrittenTerm.term)
      = terms.mapM fun t => (reader t.name).read t.data := by
  induction terms with
  | nil => rfl
  | cons t terms ih =>
    obtain ⟨⟨found, ofType⟩, others⟩ := List.forall_mem_cons.mp registered
    have first : registry.instantiate (String.ofList t.term.name) parseType
        (String.ofList t.term.data) = (reader t.name).read t.data := by
      rw [SchemeRegistry.instantiate, WrittenTerm.term, String.ofList_toList, found,
        String.ofList_toList]
      exact if_pos ofType
    have later := ih others
    unfold ofTerms at later ⊢
    rw [List.map_cons, List.mapM_cons, List.mapM_cons, first, later]

/-- **A pointer is read as it was written**: its terms invoke the registered schemes of their names,
in their order and with exactly their data. The first scheme that cannot be read from its data is
the only reason to fail. -/
theorem read_writtenTerms (registry : SchemeRegistry) (reader : String → SchemeReader)
    {parseType : ParseType} (supported : parseType ≠ .unsupported) {blank : List Char}
    (spaces : ∀ c ∈ blank, isSpace c = true) {terms : List WrittenTerm} (some_ : terms ≠ [])
    (registered : ∀ t ∈ terms, registry.get? t.name = some (reader t.name)
      ∧ (reader t.name).parseType = parseType) :
    read registry parseType (String.ofList (blank ++ terms.flatMap WrittenTerm.write))
      = terms.mapM fun t => (reader t.name).read t.data := by
  obtain ⟨t, others, rfl⟩ := List.exists_cons_of_ne_nil some_
  -- An equals sign before the parenthesis would make this a range.
  have noEquals : '=' ∉ blank ++ (t.name.toList ++ t.gap) := by
    simp only [List.mem_append, not_or]
    refine ⟨fun mem => ?_, fun mem => ?_, fun mem => ?_⟩
    · cases spaces _ mem
    · cases t.nameChars _ mem
    · cases t.gapSpaces _ mem
  have written : blank ++ (t :: others).flatMap WrittenTerm.write
      = blank ++ (t.name.toList ++ t.gap)
        ++ '(' :: (t.body ++ ')' :: t.behind ++ others.flatMap WrittenTerm.write) := by
    simp [WrittenTerm.write]
  have scan := TermScan.of_write spaces (t :: others)
  rw [written] at scan ⊢
  rw [read_of_openParen supported noEquals, readTerms, String.toList_ofList, scan]
  dsimp only
  rw [ofTerms_map registered]
  exact bind_pure _

/-- A term with escaped data, and one whose data needs no escapes. -/
def tablePointer : List WrittenTerm :=
  [{ name := "xmlns", data := "h=urn:(h)", gap := [' '], body := escape "h=urn:(h)".toList
     behind := [], named := by decide, nameChars := List.all_eq_true.mp (by decide)
     gapSpaces := List.all_eq_true.mp rfl, writes := .escaped _, behindSpaces := nofun },
   { name := "xpath", data := "id('a')", gap := [], body := "id('a')".toList
     behind := ['\n'], named := by decide, nameChars := List.all_eq_true.mp (by decide)
     gapSpaces := nofun, writes := .plain (by decide) (by decide)
     behindSpaces := List.all_eq_true.mp rfl }]

theorem read_writtenTerms_tablePointer :
    read .standard .xml " xmlns (h=urn:^(h^))xpath(id('a'))\n" = (do
      let binding ← SchemeReader.xmlns.read "h=urn:(h)"
      let selection ← SchemeReader.xpath.read "id('a')"
      return [binding, selection]) := by
  let reader (name : String) : SchemeReader := if name = "xmlns" then .xmlns else .xpath
  have registered : ∀ t ∈ tablePointer, SchemeRegistry.standard.get? t.name = some (reader t.name)
      ∧ (reader t.name).parseType = .xml := by
    rintro t (_ | ⟨_, _ | ⟨_, ⟨⟩⟩⟩) <;> exact ⟨rfl, rfl⟩
  have written : String.ofList ([' '] ++ tablePointer.flatMap WrittenTerm.write)
      = " xmlns (h=urn:^(h^))xpath(id('a'))\n" := by decide
  have spaces : ∀ c ∈ [' '], isSpace c = true := List.all_eq_true.mp rfl
  have some_ : tablePointer ≠ [] := nofun
  rw [← written, read_writtenTerms .standard reader (by decide) spaces some_ registered]
  rfl

end FragmentId

end Transclusion
