import Transclusion.Proofs.Markup.Escapes
import Transclusion.Proofs.Text.Trimming
import Transclusion.Markup.Reading
/-!
# Tags that are written

A tag is written as a name and attributes, each with a space before it and its value in quotes.
Names are written with characters that have no meaning in markup (`IsWrittenName`), so that a tag
ends where it was ended (`cutTag_writeTag`), and its name and its attributes are what they were
(`tagName_writeTag`, `attributesOfTag_writeTag`).
-/

namespace Transclusion

open Text

/-- A character without a meaning in markup. -/
def isBare (c : Char) : Bool :=
  !(isMarkupSpace c || ['<', '>', '/', '=', '!', '?', '&', '\x22', '\x27'].contains c)

/-- Something is there, and no character of it has a meaning in markup. -/
structure IsWrittenName (cs : List Char) : Prop where
  nonempty : cs ≠ []
  bare : ∀ c ∈ cs, isBare c = true

theorem isMarkupSpace_of_isBare {c : Char} (h : isBare c = true) : isMarkupSpace c = false := by
  simp only [isBare, Bool.not_eq_true', Bool.or_eq_false_iff] at h
  exact h.1

theorem ne_of_isBare {c : Char} (h : isBare c = true) :
    c ≠ '<' ∧ c ≠ '>' ∧ c ≠ '/' ∧ c ≠ '=' ∧ c ≠ '!' ∧ c ≠ '?' ∧ c ≠ '&' ∧ c ≠ '\x22'
      ∧ c ≠ '\x27' := by
  simp only [isBare, Bool.not_eq_true', Bool.or_eq_false_iff] at h
  simpa using h.2

/-- Attributes with their names and values, as they are written in a tag. -/
def writeAttributes (attributes : List (String × String)) : List Char :=
  attributes.flatMap fun a => writeAttribute a.1 a.2

/-- What stands in a tag. -/
def writeTag (name : List Char) (attributes : List (String × String)) : List Char :=
  name ++ writeAttributes attributes

theorem writeAttribute_eq (name value : String) :
    writeAttribute name value
      = ' ' :: (name.toList ++ '=' :: '\x22' :: (escapeValue value.toList ++ ['\x22'])) := by
  simp [writeAttribute, escapeValue]

/-! ### The end of a tag -/

namespace Event

/-- The text stands in a tag without ending it, its quotes being closed. -/
def StaysInTag (written : List Char) : Prop :=
  ∀ rest, cutTag none (written ++ rest)
    = (cutTag none rest).map fun cut => (written ++ cut.1, cut.2)

namespace StaysInTag

variable {v w : List Char}

theorem nil : StaysInTag [] := by
  intro rest
  rw [List.nil_append]
  cases cutTag none rest <;> rfl

theorem append (hv : StaysInTag v) (hw : StaysInTag w) : StaysInTag (v ++ w) := by
  intro rest
  rw [List.append_assoc, hv, hw]
  cases cutTag none rest <;> simp

theorem char {c : Char} (h : c ≠ '>' ∧ c ≠ '\x22' ∧ c ≠ '\x27') : StaysInTag [c] := by
  intro rest
  rw [List.singleton_append, cutTag]
  simp [h]

theorem bare (h : ∀ c ∈ w, isBare c = true) : StaysInTag w := by
  induction w with
  | nil => exact nil
  | cons c w ih =>
    obtain ⟨here, behind⟩ := List.forall_mem_cons.mp h
    have other := ne_of_isBare here
    exact (char ⟨other.2.1, other.2.2.2.2.2.2.2⟩).append (ih behind)

/-- What follows in a value that is open, up to the quote that closes it. -/
theorem cutTag_value (h : '\x22' ∉ w) (rest : List Char) :
    cutTag (some '\x22') (w ++ '\x22' :: rest)
      = (cutTag none rest).map fun cut => (w ++ '\x22' :: cut.1, cut.2) := by
  induction w with
  | nil => simp [cutTag]
  | cons c w ih =>
    rw [List.mem_cons, not_or] at h
    rw [List.cons_append, cutTag]
    simp [Ne.symm h.1, ih h.2, Function.comp_def]

theorem value (h : '\x22' ∉ w) : StaysInTag ('\x22' :: (w ++ ['\x22'])) := by
  intro rest
  have open_ := cutTag_value h rest
  rw [List.cons_append, List.append_assoc, List.singleton_append, cutTag]
  simp [open_, Function.comp_def]

theorem writeAttribute {name : String} (h : IsWrittenName name.toList) (value : String) :
    StaysInTag (Transclusion.writeAttribute name value) := by
  rw [writeAttribute_eq]
  have key := (bare h.bare).append (char (c := '=') (by decide))
  have whole := ((char (c := ' ') (by decide)).append key).append
    (StaysInTag.value (not_mem_escapeValue value.toList))
  simpa using whole

theorem writeAttributes {attributes : List (String × String)}
    (h : ∀ a ∈ attributes, IsWrittenName a.1.toList) :
    StaysInTag (Transclusion.writeAttributes attributes) := by
  induction attributes with
  | nil => exact nil
  | cons a attributes ih =>
    obtain ⟨here, behind⟩ := List.forall_mem_cons.mp h
    exact (writeAttribute here a.2).append (ih behind)

end StaysInTag

variable {name : List Char} {attributes : List (String × String)}

theorem cutTag_writeTag (named : IsWrittenName name)
    (h : ∀ a ∈ attributes, IsWrittenName a.1.toList) (rest : List Char) :
    cutTag none (writeTag name attributes ++ '>' :: rest)
      = some (writeTag name attributes, rest) := by
  rw [writeTag, (StaysInTag.bare named.bare).append (.writeAttributes h)]
  simp [cutTag]

theorem cutTag_writeTag_empty (named : IsWrittenName name)
    (h : ∀ a ∈ attributes, IsWrittenName a.1.toList) (rest : List Char) :
    cutTag none (writeTag name attributes ++ '/' :: '>' :: rest)
      = some (writeTag name attributes ++ ['/'], rest) := by
  rw [writeTag, (StaysInTag.bare named.bare).append (.writeAttributes h)]
  simp [cutTag]

end Event

/-! ### The name of a tag -/

section

variable {name : List Char} {attributes : List (String × String)}

theorem writeAttributes_eq_nil_or (attributes : List (String × String)) :
    writeAttributes attributes = [] ∨ ∃ rest, writeAttributes attributes = ' ' :: rest := by
  cases attributes with
  | nil => exact .inl rfl
  | cons a attributes =>
    rw [writeAttributes, List.flatMap_cons, writeAttribute_eq, List.cons_append]
    exact .inr ⟨_, rfl⟩

theorem not_isMarkupSpace (named : IsWrittenName name) : ∀ c ∈ name, (!isMarkupSpace c) = true := by
  intro c hc
  rw [isMarkupSpace_of_isBare (named.bare c hc)]
  rfl

/-- A tag that is written is cut behind its name. -/
theorem run_writeTag (named : IsWrittenName name) (attributes : List (String × String)) :
    (writeTag name attributes).takeWhile (!isMarkupSpace ·) = name
      ∧ (writeTag name attributes).dropWhile (!isMarkupSpace ·) = writeAttributes attributes := by
  refine takeWhile_dropWhile_of_run (not_isMarkupSpace named) ?_
  obtain none | ⟨rest, some⟩ := writeAttributes_eq_nil_or attributes
  · simp [none]
  · rw [some]
    intro c first
    cases first
    rfl

theorem tagName_writeTag (named : IsWrittenName name) (attributes : List (String × String)) :
    tagName (writeTag name attributes) = name :=
  (run_writeTag named attributes).1

theorem rest_afterName (named : IsWrittenName name) (attributes : List (String × String)) :
    (TagCursor.afterName (writeTag name attributes)).rest = writeAttributes attributes :=
  (run_writeTag named attributes).2

/-- A tag that is written does not end like that of an element without content. -/
theorem getLast?_writeTag (named : IsWrittenName name)
    (h : ∀ a ∈ attributes, IsWrittenName a.1.toList) :
    (writeTag name attributes).getLast? ≠ some '/' := by
  obtain rfl | ⟨front, a, rfl⟩ := List.eq_nil_or_concat attributes
  · rw [writeTag, writeAttributes, List.flatMap_nil, List.append_nil]
    intro last
    exact (ne_of_isBare (named.bare '/' (List.mem_of_getLast? last))).2.2.1 rfl
  · rw [writeTag, writeAttributes, List.concat_eq_append, List.flatMap_append,
      List.flatMap_singleton, writeAttribute, ← List.append_assoc, ← List.append_assoc,
      List.getLast?_concat]
    decide

end

/-! ### Attributes -/

namespace TagCursor

variable {name : String}

theorem readKey_written {c : Char} {key : List Char} (named : IsWrittenName (c :: key))
    (offset : Nat) (value : List Char) :
    ∃ next, (TagCursor.mk offset (c :: (key ++ '=' :: '\x22' :: value))).readKey c
      = .ok (c :: key, ⟨next, '\x22' :: value⟩) := by
  have inKey : ∀ d ∈ key, (!(d = '=' || isMarkupSpace d)) = true := by
    intro d hd
    have bare := named.bare d (List.mem_cons_of_mem c hd)
    simp [isMarkupSpace_of_isBare bare, (ne_of_isBare bare).2.2.2.1]
  have equals : ∀ d ∈ ('=' :: '\x22' :: value).head?, (!(d = '=' || isMarkupSpace d)) = false := by
    simp
  obtain ⟨run, left⟩ := takeWhile_dropWhile_of_run inKey equals
  simp only [readKey, skipWhile, List.drop_succ_cons, List.drop_zero, run, left]
  exact ⟨_, rfl⟩

theorem readValue_written {value : List Char} (h : '\x22' ∉ value) (offset : Nat)
    (rest : List Char) :
    ∃ next, (TagCursor.mk offset ('\x22' :: (value ++ '\x22' :: rest))).readValue
      = .ok (value, ⟨next, rest⟩) := by
  have inValue : ∀ d ∈ value, decide (d ≠ '\x22') = true := by
    intro d hd
    exact decide_eq_true fun same => h (same ▸ hd)
  have close : ∀ d ∈ ('\x22' :: rest).head?, decide (d ≠ '\x22') = false := by simp
  obtain ⟨run, left⟩ := takeWhile_dropWhile_of_run inValue close
  simp only [readValue, skipWhile, decide_true, Bool.true_or, if_true, run, left]
  exact ⟨_, rfl⟩

/-- An attribute that is written is read. -/
theorem readAttribute?_written (named : IsWrittenName name.toList) (value : String)
    {seen : List (List Char × Nat)} (new : ∀ s ∈ seen, s.1 ≠ name.toList) (offset : Nat)
    (rest : List Char) :
    ∃ start next, (TagCursor.mk offset (writeAttribute name value ++ rest)).readAttribute? seen
      = .ok (some (⟨name.toList, escapeValue value.toList⟩, start, ⟨next, rest⟩)) := by
  obtain ⟨c, key, hname⟩ := List.exists_cons_of_ne_nil named.nonempty
  rw [hname] at named new
  have notSpace := isMarkupSpace_of_isBare (named.bare c List.mem_cons_self)
  obtain ⟨at_, start⟩ : ∃ at_,
      (TagCursor.mk offset (writeAttribute name value ++ rest)).skipWhile isMarkupSpace
        = ⟨at_, c :: (key ++ '=' :: '\x22' :: (escapeValue value.toList ++ '\x22' :: rest))⟩ := by
    refine ⟨_, congrArg (TagCursor.mk _) ?_⟩
    rw [writeAttribute_eq, hname, List.cons_append, List.dropWhile_cons_of_pos (by decide)]
    simp [notSpace]
  obtain ⟨valueAt, readKey⟩ :=
    readKey_written named at_ (escapeValue value.toList ++ '\x22' :: rest)
  obtain ⟨next, readValue⟩ := readValue_written (not_mem_escapeValue value.toList) valueAt rest
  have unseen : seen.find? (fun s => s.1 = c :: key) = none :=
    List.find?_eq_none.mpr fun s hs => by simpa using new s hs
  refine ⟨at_, next, ?_⟩
  rw [readAttribute?, start, hname]
  dsimp only
  rw [readKey]
  simp only [bind, Except.bind, unseen, pure, Except.pure, readValue]

end TagCursor

/-- Attributes that are written are read, each in turn. -/
theorem readAttributesUpTo_written {ε α : Type} {fault : AttributeFault → ε}
    {use : RawAttribute → Except ε α} (read : String × String → α)
    (used : ∀ a, use ⟨a.1.toList, escapeValue a.2.toList⟩ = .ok (read a))
    {attributes : List (String × String)} (named : ∀ a ∈ attributes, IsWrittenName a.1.toList)
    (distinct : (attributes.map (·.1)).Nodup) (count : Nat) (enough : attributes.length ≤ count)
    (seen : List (List Char × Nat)) (new : ∀ a ∈ attributes, ∀ s ∈ seen, s.1 ≠ a.1.toList)
    (offset : Nat) :
    readAttributesUpTo fault use count seen ⟨offset, writeAttributes attributes⟩
      = .ok (attributes.map read) := by
  induction attributes generalizing count seen offset with
  | nil => cases count <;> rfl
  | cons a attributes ih =>
    obtain ⟨count, rfl⟩ : ∃ n, count = n + 1 := ⟨count - 1, by simp at enough; omega⟩
    obtain ⟨here, behind⟩ := List.forall_mem_cons.mp named
    obtain ⟨newHere, newBehind⟩ := List.forall_mem_cons.mp new
    obtain ⟨other, distinct⟩ := List.nodup_cons.mp distinct
    obtain ⟨start, next, hread⟩ := TagCursor.readAttribute?_written here a.2 newHere offset
      (writeAttributes attributes)
    have later := ih behind distinct count (by simpa using enough) ((a.1.toList, start) :: seen)
      (by
        intro b hb s hs
        obtain rfl | hs := List.mem_cons.mp hs
        · intro same
          exact other (List.mem_map.mpr ⟨b, hb, (String.toList_injective same).symm⟩)
        · exact newBehind b hb s hs) next
    rw [readAttributesUpTo, writeAttributes, List.flatMap_cons, ← writeAttributes, hread]
    simp only [used, later, bind, Except.bind, pure, Except.pure, List.map_cons]

theorem length_le_writeAttributes (attributes : List (String × String)) :
    attributes.length ≤ (writeAttributes attributes).length := by
  induction attributes with
  | nil => exact Nat.le_refl 0
  | cons a attributes ih =>
    rw [writeAttributes, List.flatMap_cons, List.length_append, List.length_cons, writeAttribute_eq,
      List.length_cons, ← writeAttributes]
    omega

/-- **The attributes of a tag that is written** are the ones that were written. -/
theorem attributesOfTag_writeTag {name : List Char} {attributes : List (String × String)}
    (named : IsWrittenName name) (h : ∀ a ∈ attributes, IsWrittenName a.1.toList)
    (distinct : (attributes.map (·.1)).Nodup) (stop : Nat) :
    attributesOfTag (writeTag name attributes) stop = .ok attributes := by
  have cursor : TagCursor.afterName (writeTag name attributes)
      = ⟨(TagCursor.afterName (writeTag name attributes)).offset, writeAttributes attributes⟩ :=
    congrArg (TagCursor.mk _) (rest_afterName named attributes)
  have enough : attributes.length ≤ (writeTag name attributes).length := by
    have le := length_le_writeAttributes attributes
    rw [writeTag, List.length_append]
    omega
  rw [attributesOfTag, readAttributes, cursor]
  refine (readAttributesUpTo_written id (fun a => ?_) h distinct _ enough [] (by simp) _).trans ?_
  · dsimp only
    rw [(resolvesTo_escapeValue _).resolve]
    simp
  · rw [List.map_id]

end Transclusion
