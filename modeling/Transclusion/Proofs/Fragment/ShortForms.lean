import Transclusion.Inclusion.Attributes
import Transclusion.Proofs.Fragment.WrittenTerms
/-!
# Short forms for text as terms

An include writes a short form for text, a range or a search, as the term that it stands for before
it is read as a fragment identifier (`IncludeAttributes.asTerm`).  A short form can also be read
directly.  Both come to the same: data is read back from its term (`FragmentId.readText_term`), and
a search does not mind the white space that is removed from around its data
(`SchemeReader.search_read_trim`), except that it is not quoted in errors.

* `IncludeAttributes.fragment_reads_as_written`: the two ways of reading a fragment identifier.
-/

namespace Transclusion

open Text

/-! ### Kinds of errors -/

/-- What is wrong with a fragment identifier, without the texts that are quoted. -/
inductive FragmentErrorKind where
  | unsupportedType
  | unknownScheme
  | malformedData
  | unparseable
deriving DecidableEq, Repr

def FragmentError.kind : FragmentError → FragmentErrorKind
  | unsupportedType => .unsupportedType
  | unknownScheme _ _ => .unknownScheme
  | malformedData _ _ => .malformedData
  | unparseable _ => .unparseable

/-- Two readings give the same schemes, or fail with errors of the same kind. -/
inductive ReadAlike : Except FragmentError (List Scheme) → Except FragmentError (List Scheme) → Prop
  | schemes (schemes : List Scheme) : ReadAlike (.ok schemes) (.ok schemes)
  | errors {e e' : FragmentError} (same : e.kind = e'.kind) : ReadAlike (.error e) (.error e')

theorem readAlike_self (x : Except FragmentError (List Scheme)) : ReadAlike x x := by
  cases x with
  | ok schemes => exact .schemes schemes
  | error e => exact .errors rfl

/-! ### Terms -/

/-- Escaped data between parentheses is a term with the data. -/
theorem WrittenTerm.exists_escaped {name : String} (named : name ≠ "")
    (nameChars : ∀ c ∈ name.toList, isSchemeNameChar c = true) (data : List Char) :
    ∃ t : WrittenTerm, t.term = ⟨name.toList, data⟩
      ∧ t.write = name.toList ++ '(' :: (escape data ++ [')']) := by
  have writes : Writes (escape data) (String.ofList data).toList := by
    rw [String.toList_ofList]
    exact .escaped data
  let t : WrittenTerm :=
    ⟨name, String.ofList data, [], escape data, [], named, nameChars, List.forall_mem_nil _, writes,
      List.forall_mem_nil _⟩
  refine ⟨t, ?_, ?_⟩
  · simp [t, term]
  · simp [t, write]

namespace FragmentId

/-- Data in a term invokes the scheme of the term alone, as if it stood there without more. -/
theorem readText_term (registry : SchemeRegistry) {name : String} (named : name ≠ "")
    (nameChars : ∀ c ∈ name.toList, isSchemeNameChar c = true) (data : List Char) :
    readText registry (name ++ "(" ++ String.ofList (escape data) ++ ")")
      = single registry name .text (String.ofList data) := by
  obtain ⟨t, term, write⟩ := WrittenTerm.exists_escaped named nameChars data
  have written : name ++ "(" ++ String.ofList (escape data) ++ ")"
      = String.ofList (name.toList ++ '(' :: (escape data ++ [')'])) := by
    apply String.toList_injective
    simp
  have whole : name.toList ++ '(' :: (escape data ++ [')'])
      = [] ++ [t].flatMap WrittenTerm.write := by
    simp [write]
  have noEquals : '=' ∉ name.toList := by
    intro mem
    cases nameChars _ mem
  have scan := TermScan.of_write (List.forall_mem_nil _) [t]
  rw [written, readText_of_openParen noEquals, readTerms, String.toList_ofList, whole, scan]
  show (ofTerms registry .text [t.term] >>= pure) = _
  rw [bind_pure, ofTerms, List.mapM_cons, List.mapM_nil, single, term]
  simp

end FragmentId

/-! ### Searches -/

theorem Search.readChars_trim (data : List Char) : readChars (trim data) = readChars data := by
  rw [readChars, readChars, trim_trim]

/-- White space around the data of a search only shows where an error quotes it. -/
theorem SchemeReader.search_read_trim (data : List Char) :
    (∃ s, search.read (String.ofList (trim data)) = .ok s
        ∧ search.read (String.ofList data) = .ok s)
      ∨ ∃ fault, search.read (String.ofList (trim data))
          = .error (.malformedData "search" (.search fault (String.ofList (trim data))))
        ∧ search.read (String.ofList data)
          = .error (.malformedData "search" (.search fault (String.ofList data))) := by
  simp only [search, Search.read, String.toList_ofList, Search.readChars_trim]
  cases Search.readChars data with
  | ok s => exact .inl ⟨s.scheme, rfl, rfl⟩
  | error fault => exact .inr ⟨fault, rfl, rfl⟩

/-! ### Short forms -/

/-- A reference to lines starts with a letter that no search starts with. -/
theorem LineReference.read?_of_afterSearch {cs data : List Char}
    (h : afterSearch? cs = some data) : read? cs = none := by
  refine Option.eq_none_iff_forall_ne_some.mpr fun r found => ?_
  obtain ⟨⟨first, rest⟩, line, -⟩ := Option.bind_eq_some_iff.mp found
  unfold readLine? at line
  split at line
  · cases h
  · cases line

namespace IncludeAttributes

theorem asTerm_of_range {written : String} (range : (TextUnit.read? written.toList).isSome = true) :
    asTerm written = "text" ++ "(" ++ String.ofList (escape (trim written.toList)) ++ ")" :=
  if_pos range

theorem asTerm_of_search {written : String} {data : List Char}
    (noRange : ¬(TextUnit.read? written.toList).isSome = true)
    (search : afterSearch? written.toList = some data) :
    asTerm written = "search" ++ "(" ++ String.ofList (escape (trim data)) ++ ")" := by
  unfold asTerm
  dsimp only
  rw [if_neg noRange, search]

theorem asTerm_of_other {written : String}
    (noRange : ¬(TextUnit.read? written.toList).isSome = true)
    (noSearch : afterSearch? written.toList = none) : asTerm written = written := by
  unfold asTerm
  dsimp only
  rw [if_neg noRange, noSearch]

/-- What a short form is written as is read as the short form. -/
theorem readAlike_asTerm (written : String) :
    ReadAlike (FragmentId.readText .standard (asTerm written))
      (FragmentId.readText .standard written) := by
  by_cases range : (TextUnit.read? written.toList).isSome = true
  · rw [asTerm_of_range range, FragmentId.readText_term _ (by decide)
      (List.all_eq_true.mp (by decide))]
    rw [FragmentId.readText]
    dsimp only
    rw [if_pos range]
    exact readAlike_self _
  cases search : afterSearch? written.toList with
  | none =>
    rw [asTerm_of_other range search]
    exact readAlike_self _
  | some data =>
    rw [asTerm_of_search range search, FragmentId.readText_term _ (by decide)
      (List.all_eq_true.mp (by decide))]
    rw [FragmentId.readText]
    dsimp only
    rw [if_neg range, LineReference.read?_of_afterSearch search, search]
    show ReadAlike (SchemeReader.search.read _ >>= _) (SchemeReader.search.read _ >>= _)
    obtain ⟨s, trimmed, untrimmed⟩ | ⟨fault, trimmed, untrimmed⟩ :=
      SchemeReader.search_read_trim data
    · rw [trimmed, untrimmed]
      exact .schemes _
    · rw [trimmed, untrimmed]
      exact .errors rfl

/-- **The fragment identifier of an include for text is read as it is written.**  The include may
write a short form as a term; what is read then, and what is read of the text in the attribute
itself, are the same schemes or errors of the same kind. -/
theorem fragment_reads_as_written (a : IncludeAttributes) {written : String}
    (h : a.writtenFragment .text = some written) :
    ∃ fragment, a.fragment .text = some fragment
      ∧ ReadAlike (FragmentId.read .standard .text fragment)
        (FragmentId.read .standard .text written) := by
  refine ⟨asTerm written, ?_, readAlike_asTerm written⟩
  rw [IncludeAttributes.fragment, h]
  rfl

/-- An include of a text with a search that has parentheses, white space and a circumflex. -/
def searching : IncludeAttributes where
  href := "http://h/a"
  xpointer := none
  fragid := some "search = /a(b)^/;trim\n"
  setXmlId := none
  encoding := "UTF-8"
  accept := none
  acceptLanguage := none
  parse := "text"

theorem fragment_reads_as_written_searching :
    searching.fragment .text = some "search(/a^(b^)^^/;trim)"
      ∧ ReadAlike (FragmentId.read .standard .text "search(/a^(b^)^^/;trim)")
        (FragmentId.read .standard .text "search = /a(b)^/;trim\n") := by
  have term : searching.fragment .text = some "search(/a^(b^)^^/;trim)" := by decide +kernel
  have given : searching.writtenFragment .text = some "search = /a(b)^/;trim\n" := rfl
  obtain ⟨fragment, same, alike⟩ := fragment_reads_as_written searching given
  obtain rfl := Option.some.inj (term.symm.trans same)
  exact ⟨term, alike⟩

end IncludeAttributes

end Transclusion
