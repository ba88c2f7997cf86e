import Mathlib.Data.List.Chain
import Mathlib.Data.List.Forall2
import Transclusion.Proofs.Fragment.RangeGrammar
import Transclusion.Proofs.Text.Lines
/-!
# Ranges cut a text without loss or overlap

A range is found in a text unless it starts too late (`TextRange.IsFound`), and then it selects the
units from its start to before its end or the end of the text (`TextRange.slice?_eq_some_iff`).
Both are indices of the text, so ranges that meet join without a gap, and the ranges between any
cuts make up the whole text.

* `TextRange.finds_iff`, `TextRange.findsNothing_iff`: what the scheme finds in a text.
* `TextRange.ranges_cut`: the laws of ranges.
-/

namespace Transclusion

open Text

/-! ### What a scheme finds in a text -/

/-- From every document of this text the scheme selects `selected`. -/
def Scheme.Finds (s : Scheme) (text : String) (selected : List Char) : Prop :=
  ∀ bindings context, context.document.singleText = .ok text →
    s.select bindings context = .ok (.ofText context.document (String.ofList selected))

/-- From no document of this text the scheme selects anything. -/
def Scheme.FindsNothing (s : Scheme) (text : String) : Prop :=
  ∀ bindings context, context.document.singleText = .ok text →
    s.select bindings context = .ok .nothing

theorem Document.singleText_ofText (base : Option String) (text : String) :
    (Document.ofText base text).singleText = .ok text := by
  show (⟨base, if text = "" then .nil else .leaf (.text text) .nil⟩ : Document).singleText = _
  split
  · next empty =>
    rw [empty]
    rfl
  · rfl

theorem Selection.ofText_injective {d : Document} {selected selected' : List Char}
    (h : ofText d (String.ofList selected) = ofText d (String.ofList selected')) :
    selected = selected' := by
  have same : Document.ofText d.base (String.ofList selected)
      = Document.ofText d.base (String.ofList selected') :=
    Option.some.inj (congrArg Selection.result h)
  have text := congrArg Document.singleText same
  rw [Document.singleText_ofText, Document.singleText_ofText] at text
  exact String.ofList_injective (Except.ok.inj text)

/-- From a document of this text the scheme selects what it finds there, if the text passes the
check. -/
def Scheme.Looks (s : Scheme) (check : IntegrityCheck) (text : String)
    (found? : Option (List Char)) : Prop :=
  ∀ bindings context, context.document.singleText = .ok text →
    s.select bindings context = (do
      (check.verify text).mapError SelectionError.integrity
      return found?.elim .nothing fun selected =>
        .ofText context.document (String.ofList selected))

namespace Scheme.Looks

variable {s : Scheme} {check : IntegrityCheck} {text : String} {found? : Option (List Char)}
  (looks : s.Looks check text found?)

include looks

theorem select_eq_ok_iff {bindings : List (String × String)} {context : SelectionContext}
    {selection : Selection} (single : context.document.singleText = .ok text) :
    s.select bindings context = .ok selection ↔ check.verify text = .ok ()
      ∧ selection = found?.elim .nothing fun selected =>
          .ofText context.document (String.ofList selected) := by
  rw [looks bindings context single, bind_eq_ok_iff]
  constructor
  · rintro ⟨_, passes, chosen⟩
    exact ⟨mapError_eq_ok_iff.mp passes, (Except.ok.inj chosen).symm⟩
  · rintro ⟨passes, rfl⟩
    exact ⟨(), mapError_eq_ok_iff.mpr passes, rfl⟩

/-- What is selected from a document of nothing but the text. -/
theorem of_ofText (selection : Document → Selection)
    (always : ∀ bindings context, context.document.singleText = .ok text →
      s.select bindings context = .ok (selection context.document)) :
    check.verify text = .ok () ∧ selection (.ofText none text)
      = found?.elim .nothing fun selected =>
          .ofText (.ofText none text) (String.ofList selected) := by
  have single := Document.singleText_ofText none text
  exact (looks.select_eq_ok_iff single).mp (always [] ⟨.ofText none text, ⟨{}, none, none⟩⟩ single)

theorem finds_iff {selected : List Char} :
    s.Finds text selected ↔ check.verify text = .ok () ∧ found? = some selected := by
  constructor
  · intro finds
    obtain ⟨passes, same⟩ := looks.of_ofText (fun d => .ofText d (String.ofList selected)) finds
    refine ⟨passes, ?_⟩
    cases found? with
    | none => cases same
    | some found => exact congrArg some (Selection.ofText_injective same.symm)
  · rintro ⟨passes, rfl⟩ bindings context single
    exact (looks.select_eq_ok_iff single).mpr ⟨passes, rfl⟩

theorem findsNothing_iff :
    s.FindsNothing text ↔ check.verify text = .ok () ∧ found? = none := by
  constructor
  · intro finds
    obtain ⟨passes, same⟩ := looks.of_ofText (fun _ => .nothing) finds
    refine ⟨passes, ?_⟩
    cases found? with
    | none => rfl
    | some found => cases same
  · rintro ⟨passes, rfl⟩ bindings context single
    exact (looks.select_eq_ok_iff single).mpr ⟨passes, rfl⟩

end Scheme.Looks

namespace TextRange

variable {r : TextRange} {text : String} {selected : List Char}

/-- The scheme looks for the range. -/
theorem looks (r : TextRange) (text : String) :
    r.scheme.Looks r.check text (r.slice? text.toList) := by
  intro bindings context single
  show r.select context = _
  rw [select, single]
  show (r.check.verify text).mapError SelectionError.integrity >>= _ = _
  cases r.slice? text.toList <;> rfl

/-- The scheme finds what the range cuts from a text that passes the checks. -/
theorem finds_iff : r.scheme.Finds text selected
    ↔ r.check.verify text = .ok () ∧ r.slice? text.toList = some selected :=
  (r.looks text).finds_iff

theorem findsNothing_iff : r.scheme.FindsNothing text
    ↔ r.check.verify text = .ok () ∧ r.slice? text.toList = none :=
  (r.looks text).findsNothing_iff

/-! ### Indices of a range -/

/-- Whether the range is found in a text of so many units: an empty one also at the end, any other
only before the end. -/
def IsFound (r : TextRange) (total : Nat) : Prop :=
  if r.stop = some r.start then r.start ≤ total else r.start < total

instance (r : TextRange) (total : Nat) : Decidable (r.IsFound total) :=
  inferInstanceAs (Decidable (if r.stop = some r.start then r.start ≤ total else r.start < total))

/-- The index behind the range in a text of so many units. -/
def behind (r : TextRange) (total : Nat) : Nat := min (r.stop.getD total) total

/-- The end of the range, if it has one, is not before its start. -/
def IsOrdered (r : TextRange) : Prop := ∀ stop ∈ r.stop, r.start ≤ stop

theorem isOrdered_of_read {data : String} (h : read data = .ok r) : r.IsOrdered := by
  obtain ⟨_, _, _, _, ordered, _⟩ := read_eq_ok_iff_parts.mp h
  exact ordered

theorem start_le_behind {total : Nat} (ordered : r.IsOrdered) (found : r.IsFound total) :
    r.start ≤ r.behind total := by
  unfold IsFound at found
  unfold behind
  split at found
  · next empty =>
    rw [empty, Option.getD_some]
    omega
  · cases stop : r.stop with
    | none =>
      rw [Option.getD_none]
      omega
    | some last =>
      have := ordered last stop
      rw [Option.getD_some]
      omega

theorem behind_le (r : TextRange) (total : Nat) : r.behind total ≤ total := Nat.min_le_right _ _

/-- An end after the last unit is as good as one at the last unit. -/
theorem extract_min {α : Type} (xs : List α) (start stop : Nat) :
    xs.extract start (min stop xs.length) = xs.extract start stop := by
  rw [List.extract_eq_take_drop, List.extract_eq_take_drop, List.take_eq_take_iff,
    List.length_drop]
  omega

/-- The units from the start of the range to before its end are selected. -/
theorem slice?_eq_some_iff {cs : List Char} :
    r.slice? cs = some selected ↔ r.IsFound (r.unit.split cs).length ∧ selected
      = ((r.unit.split cs).extract r.start (r.behind (r.unit.split cs).length)).flatten := by
  unfold slice? IsFound
  dsimp only
  generalize r.unit.split cs = units
  by_cases empty : r.stop = some r.start
  · have nothing : (units.extract r.start (r.behind units.length)).flatten = [] := by
      rw [behind, extract_min, empty, Option.getD_some, List.extract_eq_take_drop, Nat.sub_self]
      rfl
    rw [if_pos empty, if_pos empty, nothing, ite_eq_iff]
    simp [eq_comm]
  · have same : units.extract r.start (r.behind units.length)
        = (units.drop r.start).take (r.stop.getD units.length - r.start) := by
      rw [behind, extract_min, List.extract_eq_take_drop]
    rw [if_neg empty, if_neg empty, same, ite_eq_iff]
    simp [eq_comm]

theorem slice?_eq_none_iff {cs : List Char} :
    r.slice? cs = none ↔ ¬r.IsFound (r.unit.split cs).length := by
  rw [Option.eq_none_iff_forall_ne_some]
  constructor
  · exact fun none_ found => none_ _ (slice?_eq_some_iff.mpr ⟨found, rfl⟩)
  · exact fun notFound _ h => notFound (slice?_eq_some_iff.mp h).1

/-! ### Ranges between two positions -/

/-- The range of a unit from one position to another, without checks. -/
def range (unit : TextUnit) (start stop : Nat) : TextRange := ⟨unit, start, some stop, .none⟩

variable {unit : TextUnit} {a b c : Nat}

theorem range_finds_iff : (range unit a b).scheme.Finds text selected
    ↔ (range unit a b).IsFound (unit.split text.toList).length
      ∧ selected = ((unit.split text.toList).extract a b).flatten := by
  have passes : (range unit a b).check.verify text = .ok () := rfl
  have same : (unit.split text.toList).extract a
      ((range unit a b).behind (unit.split text.toList).length)
      = (unit.split text.toList).extract a b := extract_min _ _ _
  rw [finds_iff, and_iff_right passes, slice?_eq_some_iff]
  show (range unit a b).IsFound (unit.split text.toList).length ∧ selected
    = ((unit.split text.toList).extract a
      ((range unit a b).behind (unit.split text.toList).length)).flatten ↔ _
  rw [same]

theorem range_findsNothing_iff : (range unit a b).scheme.FindsNothing text
    ↔ ¬(range unit a b).IsFound (unit.split text.toList).length := by
  have passes : (range unit a b).check.verify text = .ok () := rfl
  rw [findsNothing_iff, and_iff_right passes, slice?_eq_none_iff]
  rfl

theorem isFound_range {total : Nat} :
    (range unit a b).IsFound total ↔ (a = b → a ≤ total) ∧ (a ≠ b → a < total) := by
  show (if some b = some a then a ≤ total else a < total) ↔ _
  split <;> grind

theorem extract_append_extract {α : Type} (xs : List α) (before : a ≤ b) (behind : b ≤ c) :
    xs.extract a b ++ xs.extract b c = xs.extract a c := by
  have parts : c - a = (b - a) + (c - b) := by omega
  have first : xs.drop b = (xs.drop a).drop (b - a) := by
    rw [List.drop_drop, Nat.add_sub_cancel' before]
  rw [List.extract_eq_take_drop, List.extract_eq_take_drop, List.extract_eq_take_drop, parts,
    List.take_add, first]

theorem extract_append_drop {α : Type} (xs : List α) (before : a ≤ b) :
    xs.extract a b ++ xs.drop b = xs.drop a := by
  have first : xs.drop b = (xs.drop a).drop (b - a) := by
    rw [List.drop_drop, Nat.add_sub_cancel' before]
  rw [List.extract_eq_take_drop, first, List.take_append_drop]

/-- The ranges between cuts that do not go down make up the text from the first cut on. -/
theorem exists_between_cuts {cuts : List Nat} (increasing : (a :: cuts).IsChain (· ≤ ·))
    (last : (a :: cuts).getLast? = some (unit.split text.toList).length) :
    a ≤ (unit.split text.toList).length ∧ ∃ parts : List (List Char),
      List.Forall₂ (fun (p : Nat × Nat) part => (range unit p.1 p.2).scheme.Finds text part)
        ((a :: cuts).zip cuts) parts
      ∧ parts.flatten = ((unit.split text.toList).drop a).flatten := by
  -- the last cut is within the text, and so is each one before it
  induction cuts generalizing a with
  | nil =>
    obtain rfl : a = (unit.split text.toList).length := Option.some.inj last
    exact ⟨le_rfl, [], .nil, by rw [List.drop_length]⟩
  | cons b cuts ih =>
    rw [List.isChain_cons_cons] at increasing
    obtain ⟨inside, parts, each, whole⟩ := ih increasing.2 (List.getLast?_cons_cons ▸ last)
    have here : (range unit a b).IsFound (unit.split text.toList).length :=
      isFound_range.mpr ⟨fun same => same ▸ inside, fun other => by omega⟩
    refine ⟨increasing.1.trans inside, _ :: parts, .cons (range_finds_iff.mpr ⟨here, rfl⟩) each, ?_⟩
    rw [List.flatten_cons, whole, ← List.flatten_append, extract_append_drop _ increasing.1]

theorem flatten_split (unit : TextUnit) (cs : List Char) : (unit.split cs).flatten = cs := by
  cases unit with
  | char => exact List.flatMap_singleton' cs
  | line => exact flatten_lines cs

theorem flatten_extract_chars (cs : List Char) (start stop : Nat) :
    ((TextUnit.char.split cs).extract start stop).flatten = cs.extract start stop := by
  rw [TextUnit.split, List.extract_eq_take_drop, ← List.map_drop, ← List.map_take,
    List.extract_eq_take_drop]
  exact flatten_split .char _

/-- Whole lines are selected. -/
theorem exists_lines_of_finds (line : r.unit = .line) (ordered : r.IsOrdered)
    (finds : r.scheme.Finds text selected) :
    ∃ before chosen after, AreLines text.toList (before ++ chosen ++ after)
      ∧ before.length = r.start ∧ selected = chosen.flatten := by
  obtain ⟨found, same⟩ := slice?_eq_some_iff.mp (finds_iff.mp finds).2
  rw [line] at found same
  let units := TextUnit.line.split text.toList
  have inside : r.start ≤ units.length := (start_le_behind ordered found).trans (behind_le r _)
  refine ⟨units.take r.start, units.extract r.start (r.behind units.length),
    units.drop (r.behind units.length), areLines_iff.mpr ?_, List.length_take_of_le inside, same⟩
  rw [List.append_assoc, extract_append_drop units (start_le_behind ordered found),
    List.take_append_drop]
  rfl

/-- **Ranges cut a text without loss or overlap.**  Every range between two positions can be
written.  What ranges that meet find is together what the range over both finds, and the ranges
between any cuts from the start to the end of a text make up the text.  A range of characters in a
text finds as many as it is long.  Whatever range is read, it finds nothing if and only if it starts
too late; otherwise it finds the units between two indices of the text, and if these are lines, then
they are whole ones. -/
theorem ranges_cut (text : String) :
    (∀ unit a b, a ≤ b → b < indexLimit →
      read (TextUnit.name unit ++ "=" ++ toString a ++ "," ++ toString b) = .ok (range unit a b))
    ∧ (∀ unit a b c s t, a ≤ b → b ≤ c → (range unit a b).scheme.Finds text s →
      (range unit b c).scheme.Finds text t → (range unit a c).scheme.Finds text (s ++ t))
    ∧ (∀ unit cuts, (0 :: cuts).IsChain (· ≤ ·) →
      (0 :: cuts).getLast? = some (TextUnit.split unit text.toList).length →
      ∃ parts, List.Forall₂ (fun p part => (range unit p.1 p.2).scheme.Finds text part)
        ((0 :: cuts).zip cuts) parts ∧ parts.flatten = text.toList)
    ∧ (∀ a b, a ≤ b → b ≤ text.length →
      ∃ s, (range .char a b).scheme.Finds text s ∧ s.length = b - a)
    ∧ ∀ data r, read data = .ok r → r.check.verify text = .ok () →
      let units := r.unit.split text.toList
      (r.scheme.FindsNothing text ↔ ¬r.IsFound units.length)
      ∧ (r.IsFound units.length → r.start ≤ r.behind units.length
        ∧ r.behind units.length ≤ units.length
        ∧ r.scheme.Finds text (units.extract r.start (r.behind units.length)).flatten)
      ∧ (r.unit = .line → ∀ s, r.scheme.Finds text s →
        ∃ before chosen after, AreLines text.toList (before ++ chosen ++ after)
          ∧ before.length = r.start ∧ s = chosen.flatten) := by
  refine ⟨fun unit a b ordered fits => ?_, fun unit a b c s t before behind first second => ?_,
    fun unit cuts increasing last => ?_, fun a b ordered inside => ?_,
    fun data r read passes => ⟨?_, fun found => ⟨?_, behind_le r _, ?_⟩, fun line s finds => ?_⟩⟩
  · rw [read_written unit (ordered.trans_lt fits) fits, if_neg (Nat.not_lt.mpr ordered)]
    rfl
  · obtain ⟨found, rfl⟩ := range_finds_iff.mp first
    obtain ⟨found', rfl⟩ := range_finds_iff.mp second
    rw [isFound_range] at found found'
    refine range_finds_iff.mpr ⟨isFound_range.mpr ⟨fun same => ?_, fun other => ?_⟩, ?_⟩
    · exact found.1 (by omega)
    · grind
    · rw [← List.flatten_append, extract_append_extract _ before behind]
  · obtain ⟨-, parts, each, whole⟩ := exists_between_cuts increasing last
    exact ⟨parts, each, whole.trans (flatten_split unit text.toList)⟩
  · have total : (TextUnit.char.split text.toList).length = text.length := by
      rw [TextUnit.split, List.length_map, String.length_toList]
    refine ⟨_, range_finds_iff.mpr ⟨isFound_range.mpr ?_, rfl⟩, ?_⟩
    · rw [total]
      exact ⟨fun same => same ▸ inside, fun other => by omega⟩
    · rw [flatten_extract_chars, List.extract_eq_take_drop, List.length_take, List.length_drop,
        String.length_toList]
      omega
  · rw [findsNothing_iff, and_iff_right passes, slice?_eq_none_iff]
  · exact start_le_behind (isOrdered_of_read read) found
  · exact finds_iff.mpr ⟨passes, slice?_eq_some_iff.mpr ⟨found, rfl⟩⟩
  · exact exists_lines_of_finds line (isOrdered_of_read read) finds

/-- Two ranges of a line each, of which the last has no line feed, and the range over both. -/
theorem ranges_cut_twoLines :
    (range .line 0 1).scheme.Finds "a\nbc" "a\n".toList
      ∧ (range .line 1 2).scheme.Finds "a\nbc" "bc".toList
      ∧ (range .line 0 2).scheme.Finds "a\nbc" ("a\n".toList ++ "bc".toList)
      ∧ (range .line 3 4).scheme.FindsNothing "a\nbc" := by
  obtain ⟨-, joins, -, -, each⟩ := ranges_cut "a\nbc"
  have first : (range .line 0 1).scheme.Finds "a\nbc" "a\n".toList :=
    range_finds_iff.mpr ⟨by decide, by decide⟩
  have second : (range .line 1 2).scheme.Finds "a\nbc" "bc".toList :=
    range_finds_iff.mpr ⟨by decide, by decide⟩
  have read : read "line=3,4" = .ok (range .line 3 4) := by decide
  have late : ¬(range .line 3 4).IsFound (TextUnit.line.split "a\nbc".toList).length := by decide
  exact ⟨first, second, joins .line 0 1 2 _ _ (by decide) (by decide) first second,
    (each "line=3,4" (range .line 3 4) read rfl).1.mpr late⟩

end TextRange

end Transclusion
