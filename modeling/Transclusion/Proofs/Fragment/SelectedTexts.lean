import Mathlib.Data.List.Infix
import Transclusion.Proofs.Fragment.FallThrough
import Transclusion.Proofs.Fragment.SearchedBlocks
import Transclusion.Proofs.Fragment.ShortForms
/-!
# What is selected from a text

A fragment identifier for text gives schemes of two kinds, ranges and searches
(`Scheme.IsOfText`).  What these select from a text is a text again, and a range selects a piece of
it without any gap.  Some fragment identifiers give ranges only (`FragmentId.GivesRanges`), among
them the short forms `char=…`, `line=…` and `L1-L2`.

* `ofText_of_selectWith`: what schemes of text select from a text.
* `infix_of_selectWith`: what ranges select from a text.
* `failsOnly_selectWith`: outside of the document with the include, selecting does not fail with a
  loop.
-/

namespace Transclusion

variable {base : Option String} {text fragment written : String} {context : SelectionContext}
  {bindings more : List (String × String)} {result : Document} {matched : List Nat}
  {scheme : Scheme} {schemes : List Scheme}

/-! ### Schemes of text -/

/-- A range or a search. -/
inductive Scheme.IsOfText : Scheme → Prop
  | range (r : TextRange) : IsOfText r.scheme
  | search (s : Search) : IsOfText s.scheme

theorem SchemeRegistry.isOfText_of_instantiate {name data : String}
    (h : standard.instantiate name .text data = .ok scheme) : scheme.IsOfText := by
  rw [instantiate] at h
  split at h
  · next reader found =>
    split at h
    · next ofText =>
      obtain rfl | rfl | rfl | rfl | rfl := reader_standard found
      · cases ofText
      · cases ofText
      · cases ofText
      · exact Scheme.property_of_read .range h
      · exact Scheme.property_of_read .search h
    · cases h
  · cases h

theorem FragmentId.isOfText_of_read (h : read .standard .text fragment = .ok schemes) :
    ∀ scheme ∈ schemes, scheme.IsOfText :=
  forall_of_instantiate (fun _ _ _ => SchemeRegistry.isOfText_of_instantiate) h

/-- What a scheme selects from a text in which it looks for something. -/
theorem Scheme.Looks.eq_ofText {check : IntegrityCheck} {found? : Option (List Char)}
    (looks : scheme.Looks check text found?) (source : context.document = .ofText base text)
    (h : scheme.select bindings context = .ok ⟨true, some result, more, matched⟩) :
    ∃ selected, found? = some selected ∧ result = .ofText base (String.ofList selected) := by
  have single : context.document.singleText = .ok text := by
    rw [source, Document.singleText_ofText]
  obtain ⟨-, selection⟩ := (looks.select_eq_ok_iff single).mp h
  cases found? with
  | none => cases selection
  | some selected =>
    have chosen := congrArg Selection.result selection
    refine ⟨selected, rfl, (Option.some.inj chosen).trans ?_⟩
    rw [source]
    rfl

/-- Schemes of text select texts from texts. -/
theorem Scheme.IsOfText.ofText_of_select (h : scheme.IsOfText)
    (source : context.document = .ofText base text)
    (select : scheme.select bindings context = .ok ⟨true, some result, more, matched⟩) :
    ∃ selected, result = .ofText base selected := by
  cases h with
  | range r =>
    obtain ⟨selected, -, same⟩ := (r.looks text).eq_ofText source select
    exact ⟨_, same⟩
  | search s =>
    obtain ⟨selected, -, same⟩ := (s.looks text).eq_ofText source select
    exact ⟨_, same⟩

/-- Schemes of text do not fix anything up. -/
theorem Scheme.IsOfText.select_fixup (h : scheme.IsOfText) (bindings : List (String × String))
    (d : Document) (fixup fixup' : FixupContext) :
    scheme.select bindings ⟨d, fixup'⟩ = scheme.select bindings ⟨d, fixup⟩ := by
  cases h <;> rfl

theorem selectFrom_fixup (ofText : ∀ scheme ∈ schemes, scheme.IsOfText) (d : Document)
    (fixup fixup' : FixupContext) (around : Option AncestorSet) (fragment : String)
    (bindings : List (String × String)) (failure : Option SelectionError) :
    selectFrom ⟨d, fixup'⟩ around fragment bindings failure schemes
      = selectFrom ⟨d, fixup⟩ around fragment bindings failure schemes := by
  induction schemes generalizing bindings failure with
  | nil => rfl
  | cons scheme rest ih =>
    obtain ⟨first, behind⟩ := List.forall_mem_cons.mp ofText
    rw [selectFrom, selectFrom, Scheme.attempt, Scheme.attempt,
      first.select_fixup bindings d fixup fixup']
    simp only [ih behind]

/-! ### Ranges -/

/-- The units of a range follow each other in the text. -/
theorem TextRange.infix_of_slice? {r : TextRange} {cs selected : List Char}
    (h : r.slice? cs = some selected) : selected <:+: cs := by
  obtain ⟨-, rfl⟩ := slice?_eq_some_iff.mp h
  have units : (r.unit.split cs).extract r.start (r.behind (r.unit.split cs).length)
      <:+: r.unit.split cs := by
    rw [List.extract_eq_take_drop]
    exact (List.take_prefix _ _).isInfix.trans (List.drop_suffix _ _).isInfix
  have whole := units.flatten
  rwa [flatten_split] at whole

/-- The fragment identifier gives ranges and nothing else. -/
def FragmentId.GivesRanges (fragment : String) : Prop :=
  ∀ schemes, read .standard .text fragment = .ok schemes →
    ∀ scheme ∈ schemes, ∃ r : TextRange, scheme = r.scheme

namespace FragmentId

theorem exists_range_of_single {data : String}
    (h : single .standard "text" .text data = .ok schemes) :
    ∀ scheme ∈ schemes, ∃ r : TextRange, scheme = r.scheme := by
  obtain ⟨scheme, hscheme, h⟩ := bind_eq_ok_iff.mp h
  cases h
  have read : SchemeReader.text.read data = .ok scheme := hscheme
  have range : ∃ r : TextRange, scheme = r.scheme :=
    Scheme.property_of_read (p := fun s => ∃ r : TextRange, s = r.scheme) (fun r => ⟨r, rfl⟩) read
  exact List.forall_mem_singleton.mpr range

/-- A range with an equals sign and a reference to lines are ranges. -/
theorem givesRanges_of_short (short : (TextUnit.read? written.toList).isSome = true
    ∨ (LineReference.read? written.toList).isSome = true) : GivesRanges written := by
  intro schemes h
  replace h : readText .standard written = .ok schemes := h
  rw [readText] at h
  dsimp only at h
  split at h
  · exact exists_range_of_single h
  · next other =>
    obtain ⟨reference, found⟩ := Option.isSome_iff_exists.mp (short.resolve_left other)
    rw [found] at h
    obtain ⟨bounds, -, h⟩ := bind_eq_ok_iff.mp h
    exact exists_range_of_single h

/-- An include may write ranges as terms. -/
theorem GivesRanges.asTerm (h : GivesRanges written) :
    GivesRanges (IncludeAttributes.asTerm written) := by
  intro schemes read
  have alike := IncludeAttributes.readAlike_asTerm written
  rw [show readText .standard (IncludeAttributes.asTerm written) = .ok schemes from read] at alike
  generalize same : readText .standard written = direct at alike
  cases alike
  exact h schemes same

end FragmentId

/-! ### Several schemes -/

/-- What schemes of text select from a text is a text. -/
theorem ofText_of_selectWith (ofText : ∀ scheme ∈ schemes, scheme.IsOfText)
    (source : context.document = .ofText base text)
    (h : selectWith schemes context none fragment = .ok (result, matched)) :
    ∃ selected, result = .ofText base selected := by
  obtain ⟨scheme, hscheme, _, _, select, -⟩ := exists_scheme_of_selectFrom h
  exact (ofText scheme hscheme).ofText_of_select source select

/-- What ranges select from a text is in one piece there. -/
theorem infix_of_selectWith (ranges : ∀ scheme ∈ schemes, ∃ r : TextRange, scheme = r.scheme)
    (source : context.document = .ofText base text)
    (h : selectWith schemes context none fragment = .ok (result, matched)) :
    ∃ selected, result = .ofText base selected ∧ selected.toList <:+: text.toList := by
  obtain ⟨scheme, hscheme, _, _, select, -⟩ := exists_scheme_of_selectFrom h
  obtain ⟨r, rfl⟩ := ranges scheme hscheme
  obtain ⟨selected, sliced, rfl⟩ := (r.looks text).eq_ofText source select
  refine ⟨_, rfl, ?_⟩
  rw [String.toList_ofList]
  exact TextRange.infix_of_slice? sliced

/-- When there are no nodes around that must not be matched, schemes only fail in not finding
anything. -/
theorem failsOnly_selectWith (schemes : List Scheme) (context : SelectionContext)
    (fragment : String) :
    FailsOnly (fun e => ∃ cause, e = InclusionError.noFragment fragment cause)
      (selectWith schemes context none fragment) := by
  unfold selectWith
  generalize ([] : List (String × String)) = bindings
  generalize (none : Option SelectionError) = failure
  induction schemes generalizing bindings failure with
  | nil => exact failsOnly_error ⟨failure, rfl⟩
  | cons scheme rest ih =>
    have clear : ¬ Answer.Loops none (scheme.select bindings context) := by
      rintro ⟨set, selection, ⟨⟩, -⟩
    by_cases falls : Answer.FallsThrough none (scheme.select bindings context)
    · rw [selectFrom_of_fallsThrough falls]
      exact ih _ _
    · obtain ⟨result, matched, finishes⟩ := Answer.finishes_of_not_fallsThrough falls clear
      rw [selectFrom_of_finishes clear finishes]
      exact failsOnly_ok _

end Transclusion
