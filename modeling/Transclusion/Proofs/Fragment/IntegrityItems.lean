import Mathlib.Data.Bool.AllAny
import Transclusion.Fragment.TextRange
import Transclusion.Proofs.Outcome
import Transclusion.Proofs.Text.Trimming
/-!
# What integrity items demand

An item of an integrity check demands a length or a digest of the text, unless it names an encoding
other than UTF-8 (`Demands`).  Items are read one after the other into one check, which holds a
single length and a single digest.  So what counts is the latest demand of each kind, and of these
not a length that is too great for an index: such a length leaves every text unchecked.

* `withItem?_of_demands`, `withItem?_of_not_demands`: what one item changes.
* `TextRange.passes_checkOf_iff`: what a sequence of items checks.
* `TextRange.verify_checkOf_iff`: which texts pass, and that these are the ones that meet all
  demands if every length is an index and the demands of each kind agree.
-/

namespace Transclusion

open Text

/-! ### Demands -/

/-- What an item asks of a text. -/
inductive Demand where
  | length (count : Nat)
  /-- A digest in lower-case hexadecimal digits. -/
  | md5 (digest : List Char)
deriving DecidableEq, Repr

namespace Demand

inductive Kind where
  | length
  | md5
deriving DecidableEq, Repr

def kind : Demand → Kind
  | length _ => .length
  | md5 _ => .md5

/-- Whether a text is as demanded. The digits of a digest are compared without regard to case. -/
def IsMetBy : Demand → String → Prop
  | length count, text => text.length = count
  | md5 digest, text => (Md5.digest (utf8Bytes text)).toList.map Char.toLower = digest

/-- Whether a check can hold the demand. -/
def Fits : Demand → Prop
  | length count => count < indexLimit
  | md5 _ => True

end Demand

/-- A demand as it is written: its name and one or more digits. -/
inductive States : List Char → Demand → Prop
  | length {digits : List Char} (some_ : digits ≠ []) (decimal : ∀ c ∈ digits, c.isDigit = true) :
      States ("length=".toList ++ digits) (.length (digitsValue 0 digits))
  | md5 {digits : List Char} (some_ : digits ≠ [])
      (hexadecimal : ∀ c ∈ digits, Md5.isHexDigit c = true) :
      States ("md5=".toList ++ digits) (.md5 (digits.map Char.toLower))

/-- The end of an item that names no encoding, or UTF-8. -/
inductive NamesUtf8 : List Char → Prop
  | absent : NamesUtf8 []
  | named {before charset after : List Char} (spaces : ∀ c ∈ before, isSpace c = true)
      (same : charset.map Char.toLower = "utf-8".toList) (spaces' : ∀ c ∈ after, isSpace c = true) :
      NamesUtf8 (',' :: before ++ charset ++ after)

/-- An item demands something of texts in UTF-8. -/
inductive Demands : List Char → Demand → Prop
  | intro {before stated after charset : List Char} {d : Demand}
      (spaces : ∀ c ∈ before, isSpace c = true) (states : States stated d)
      (spaces' : ∀ c ∈ after, isSpace c = true) (applies : NamesUtf8 charset) :
      Demands (before ++ stated ++ after ++ charset) d

/-! ### Characters of items -/

theorem isSpace_of_isHexDigit {c : Char} (h : Md5.isHexDigit c = true) : isSpace c = false := by
  by_contra space
  have other := forall_isSpace (p := fun c => !Md5.isHexDigit c) (by decide)
    (Bool.not_eq_false _ ▸ space)
  simp [h] at other

theorem isSpace_toLower {c : Char} (h : isSpace c.toLower = false) : isSpace c = false := by
  by_contra space
  have lower := forall_isSpace (p := fun c => isSpace c.toLower) (by decide)
    (Bool.not_eq_false _ ▸ space)
  rw [h] at lower
  cases lower

/-- Digests have no upper-case letters. -/
theorem Text.Md5.map_toLower_digest (bytes : List UInt8) :
    (Md5.digest bytes).toList.map Char.toLower = (Md5.digest bytes).toList := by
  have small : ∀ n < 16, (Nat.digitChar n).toLower = Nat.digitChar n := by decide
  have byte (b : UInt8) : ∀ c ∈ Md5.hexByte b, c.toLower = c := by
    have := b.toNat_lt
    simp only [Md5.hexByte, List.forall_mem_cons]
    exact ⟨small _ (by omega), small _ (by omega), nofun⟩
  have all : ∀ c ∈ (Md5.digest bytes).toList, c.toLower = c := by
    intro c mem
    simp only [Md5.digest, String.toList_ofList, List.mem_flatMap] at mem
    obtain ⟨_, _, b, _, mem⟩ := mem
    exact byte b c mem
  exact (List.map_congr_left all).trans (List.map_id _)

/-! ### Reading an item -/

/-- What stands before the comma of an item, and the encoding behind it. -/
def itemParts (item : List Char) : List Char × Option (List Char) :=
  match cutAt ',' item with
  | some (value, charset) => (trim value, some charset)
  | none => (trim item, none)

/-- A demand is written in the characters of the names and in digits. -/
theorem States.forall_mem {p : Char → Prop} {stated : List Char} {d : Demand} (h : States stated d)
    (names : ∀ name ∈ ["length=", "md5="], ∀ c ∈ name.toList, p c)
    (digit : ∀ c, Md5.isHexDigit c = true → p c) : ∀ c ∈ stated, p c := by
  cases h with
  | length _ decimal =>
    exact List.forall_mem_append.mpr
      ⟨names _ (by simp), fun c mem => digit c (by simp [Md5.isHexDigit, decimal c mem])⟩
  | md5 _ hexadecimal =>
    exact List.forall_mem_append.mpr ⟨names _ (by simp), fun c mem => digit c (hexadecimal c mem)⟩

theorem States.plain {stated : List Char} {d : Demand} (h : States stated d) :
    ∀ c ∈ stated, isSpace c = false ∧ c ≠ ',' := by
  have names : ∀ name ∈ ["length=", "md5="], ∀ c ∈ name.toList, isSpace c = false ∧ c ≠ ',' := by
    simp only [List.forall_mem_cons, ← List.all_iff_forall_prop]
    decide
  refine h.forall_mem names fun c hexadecimal => ⟨isSpace_of_isHexDigit hexadecimal, ?_⟩
  rintro rfl
  cases hexadecimal

/-- A demand is found between the white space around it. -/
theorem trim_stated {before stated after : List Char} {d : Demand}
    (spaces : ∀ c ∈ before, isSpace c = true) (states : States stated d)
    (spaces' : ∀ c ∈ after, isSpace c = true) :
    trim (before ++ stated ++ after) = stated ∧ ',' ∉ before ++ stated ++ after := by
  refine ⟨trim_between spaces spaces' fun c mem => (states.plain c mem).1, ?_⟩
  simp only [List.mem_append, not_or]
  exact ⟨⟨not_mem_of_spaces spaces rfl, fun mem => (states.plain _ mem).2 rfl⟩,
    not_mem_of_spaces spaces' rfl⟩

theorem itemParts_stated {before stated after : List Char} {d : Demand}
    (spaces : ∀ c ∈ before, isSpace c = true) (states : States stated d)
    (spaces' : ∀ c ∈ after, isSpace c = true) :
    itemParts (before ++ stated ++ after) = (stated, none) := by
  obtain ⟨trimmed, noComma⟩ := trim_stated spaces states spaces'
  rw [itemParts, cutAt_eq_none_iff.mpr noComma, trimmed]

theorem itemParts_stated_charset {before stated after : List Char} {d : Demand}
    (spaces : ∀ c ∈ before, isSpace c = true) (states : States stated d)
    (spaces' : ∀ c ∈ after, isSpace c = true) (charset : List Char) :
    itemParts (before ++ stated ++ after ++ ',' :: charset) = (stated, some charset) := by
  obtain ⟨trimmed, noComma⟩ := trim_stated spaces states spaces'
  rw [itemParts, cutAt_append noComma]
  dsimp only
  rw [trimmed]

/-- An item is taken apart as it was written. -/
theorem itemParts_append {before stated after charset : List Char} {d : Demand}
    (spaces : ∀ c ∈ before, isSpace c = true) (states : States stated d)
    (spaces' : ∀ c ∈ after, isSpace c = true) (applies : NamesUtf8 charset) :
    ∃ encoding, itemParts (before ++ stated ++ after ++ charset) = (stated, encoding)
      ∧ IntegrityCheck.isChecked encoding = true := by
  cases applies with
  | absent =>
    refine ⟨none, ?_, rfl⟩
    rw [List.append_nil, itemParts_stated spaces states spaces']
  | @named start encoding behind inner same inner' =>
    have noSpace : ∀ c ∈ encoding, isSpace c = false := by
      intro c mem
      have lower : c.toLower ∈ "utf-8".toList := same ▸ List.mem_map_of_mem mem
      have plain : ∀ c ∈ "utf-8".toList, isSpace c = false :=
        List.all_iff_forall_prop.mp (by decide)
      exact isSpace_toLower (plain _ lower)
    refine ⟨some (start ++ encoding ++ behind), ?_, ?_⟩
    · exact itemParts_stated_charset spaces states spaces' _
    · rw [IntegrityCheck.isChecked, trim_between inner inner' noSpace, same]
      rfl

/-- White space at the ends of an item does not matter for its parts. -/
theorem itemParts_trim (item : List Char) :
    (itemParts (trim item)).1 = (itemParts item).1
      ∧ IntegrityCheck.isChecked (itemParts (trim item)).2
        = IntegrityCheck.isChecked (itemParts item).2 := by
  cases cut : cutAt ',' item with
  | none =>
    have noComma : ',' ∉ trim item := by
      obtain ⟨before, after, whole, -⟩ := exists_of_trim item
      have absent : ',' ∉ item := cutAt_eq_none_iff.mp cut
      rw [whole, List.mem_append, List.mem_append] at absent
      exact fun mem => absent (.inl (.inr mem))
    rw [itemParts, itemParts, cut, cutAt_eq_none_iff.mpr noComma]
    exact ⟨trim_trim item, rfl⟩
  | some found =>
    obtain ⟨value, charset⟩ := found
    have noComma : ',' ∉ trimStart value := fun mem =>
      not_mem_of_cutAt cut ((List.dropWhile_sublist _).mem mem)
    -- The comma stays, so one end is trimmed on each side of it.
    have trimmed : trim item = trimStart value ++ ',' :: trimEnd charset := by
      rw [eq_of_cutAt cut, ← trimEnd_append_cons (by decide), trim, trimStart, trimStart,
        List.dropWhile_append]
      split
      · next empty =>
        rw [List.isEmpty_iff.mp empty]
        rfl
      · rfl
    rw [itemParts, itemParts, cut, trimmed, cutAt_append noComma]
    refine ⟨trim_trimStart value, ?_⟩
    show decide ((trim (trimEnd charset)).map Char.toLower = "utf-8".toList) = _
    rw [trim_trimEnd]
    rfl

/-- An item is written as the parts that it is taken apart into. -/
theorem exists_of_itemParts {item value : List Char} {encoding : Option (List Char)}
    (h : itemParts item = (value, encoding)) (checked : IntegrityCheck.isChecked encoding = true) :
    ∃ before after charset, item = before ++ value ++ after ++ charset
      ∧ (∀ c ∈ before, isSpace c = true) ∧ (∀ c ∈ after, isSpace c = true) ∧ NamesUtf8 charset := by
  unfold itemParts at h
  split at h
  · next start charset cut =>
    cases h
    obtain ⟨before, after, whole, spaces, spaces'⟩ := exists_of_trim start
    obtain ⟨before', after', whole', inner, inner'⟩ := exists_of_trim charset
    refine ⟨before, after, ',' :: before' ++ trim charset ++ after', ?_, spaces, spaces',
      .named inner (of_decide_eq_true checked) inner'⟩
    rw [eq_of_cutAt cut, List.cons_append, List.cons_append, ← whole', ← whole]
  · cases h
    obtain ⟨before, after, whole, spaces, spaces'⟩ := exists_of_trim item
    exact ⟨before, after, [], by rw [List.append_nil, ← whole], spaces, spaces', .absent⟩

theorem States.unique {stated : List Char} {d d' : Demand} (h : States stated d)
    (h' : States stated d') : d = d' := by
  generalize same : stated = stated' at h'
  cases h with
  | length =>
    cases h' with
    | length => rw [List.append_cancel_left same]
    | md5 => cases same
  | md5 =>
    cases h' with
    | length => cases same
    | md5 => rw [List.append_cancel_left same]

/-- An item demands at most one thing. -/
theorem Demands.unique {item : List Char} {d d' : Demand} (h : Demands item d)
    (h' : Demands item d') : d = d' := by
  generalize same : item = item' at h'
  obtain ⟨spaces, states, spaces', applies⟩ := h
  obtain ⟨inner, states', inner', applies'⟩ := h'
  obtain ⟨_, parts, -⟩ := itemParts_append spaces states spaces' applies
  obtain ⟨_, parts', -⟩ := itemParts_append inner states' inner' applies'
  rw [same, parts'] at parts
  cases parts
  exact states.unique states'

namespace IntegrityCheck

/-- The check with one more demand. -/
def demanding (check : IntegrityCheck) : Demand → IntegrityCheck
  | .length count => { check with length := if count < indexLimit then some count else .none }
  | .md5 digest => { check with md5 := some (String.ofList digest) }

theorem valueOf?_eq_some_iff {name : String} {p : Char → Bool} {item digits : List Char} :
    valueOf? name p item = some digits
      ↔ item = name.toList ++ digits ∧ digits ≠ [] ∧ ∀ c ∈ digits, p c = true := by
  unfold valueOf?
  split
  · next value start =>
    rw [List.isPrefixOf?_eq_some_iff_append_eq] at start
    subst start
    rw [List.append_cancel_left_eq, ite_eq_iff]
    constructor
    · rintro (⟨-, none_⟩ | ⟨good, same⟩)
      · cases none_
      · cases same
        simp only [Bool.or_eq_true, not_or, Bool.not_eq_true', List.isEmpty_iff,
          Bool.not_eq_false, List.all_eq_true] at good
        exact ⟨rfl, good⟩
    · rintro ⟨rfl, some_, all⟩
      refine .inr ⟨?_, rfl⟩
      simp only [Bool.or_eq_true, not_or, Bool.not_eq_true', List.isEmpty_iff,
        Bool.not_eq_false, List.all_eq_true]
      exact ⟨some_, all⟩
  · next absent =>
    refine ⟨nofun, ?_⟩
    rintro ⟨rfl, -⟩
    rw [List.isPrefixOf?_eq_some_iff_append_eq.mpr rfl] at absent
    cases absent

theorem withItem?_eq (check : IntegrityCheck) (item : List Char) :
    check.withItem? item =
      match valueOf? "length=" Char.isDigit (itemParts item).1,
        valueOf? "md5=" Md5.isHexDigit (itemParts item).1 with
      | some digits, _ =>
        some (if isChecked (itemParts item).2 then { check with length := readIndex? digits }
          else check)
      | _, some digits =>
        some (if isChecked (itemParts item).2 then
          { check with md5 := some (String.ofList (digits.map Char.toLower)) } else check)
      | _, _ => .none := rfl

/-- White space at the ends of an item does not matter. -/
theorem withItem?_trim (check : IntegrityCheck) (item : List Char) :
    check.withItem? (trim item) = check.withItem? item := by
  rw [withItem?_eq, withItem?_eq, (itemParts_trim item).1, (itemParts_trim item).2]

theorem readIndex?_eq {digits : List Char} (some_ : digits ≠ [])
    (decimal : ∀ c ∈ digits, c.isDigit = true) :
    readIndex? digits
      = if digitsValue 0 digits < indexLimit then some (digitsValue 0 digits) else .none := by
  have good : ¬(digits.isEmpty || !digits.all Char.isDigit) = true := by
    simpa [some_] using decimal
  rw [readIndex?, if_neg good]

/-- An item that demands something puts that in the place of the demand of its kind before it. -/
theorem withItem?_of_demands {item : List Char} {d : Demand} (h : Demands item d)
    (check : IntegrityCheck) : check.withItem? item = some (check.demanding d) := by
  obtain ⟨spaces, states, spaces', applies⟩ := h
  obtain ⟨encoding, parts, checked⟩ := itemParts_append spaces states spaces' applies
  rw [withItem?_eq, parts]
  cases states with
  | length some_ decimal =>
    rw [valueOf?_eq_some_iff.mpr ⟨rfl, some_, decimal⟩]
    dsimp only
    rw [if_pos checked, readIndex?_eq some_ decimal]
    rfl
  | md5 some_ hexadecimal =>
    rw [valueOf?_eq_some_iff.mpr ⟨rfl, some_, hexadecimal⟩]
    exact congrArg some (if_pos checked)

/-- An item that demands nothing changes nothing. -/
theorem withItem?_of_not_demands {item : List Char} (none_ : ∀ d, ¬Demands item d)
    (check : IntegrityCheck) : (check.withItem? item).getD check = check := by
  rw [withItem?_eq]
  by_cases checked : isChecked (itemParts item).2 = true
  · obtain ⟨before, after, charset, whole, spaces, spaces', applies⟩ :=
      exists_of_itemParts rfl checked
    have noStatement (d : Demand) : ¬States (itemParts item).1 d := fun states =>
      none_ d (whole ▸ .intro spaces states spaces' applies)
    split
    · next digits found =>
      obtain ⟨same, some_, decimal⟩ := valueOf?_eq_some_iff.mp found
      have states : States (itemParts item).1 (.length (digitsValue 0 digits)) :=
        same ▸ .length some_ decimal
      exact absurd states (noStatement _)
    · next digits found _ =>
      obtain ⟨same, some_, hexadecimal⟩ := valueOf?_eq_some_iff.mp found
      have states : States (itemParts item).1 (.md5 (digits.map Char.toLower)) :=
        same ▸ .md5 some_ hexadecimal
      exact absurd states (noStatement _)
    · rfl
  · split
    · exact if_neg checked
    · exact if_neg checked
    · rfl

/-! ### What a check passes -/

/-- Whether a text is as the demand of this kind has it, if the check holds one. -/
def Passes (check : IntegrityCheck) (text : String) : Demand.Kind → Prop
  | .length => check.verifyLength text = .ok ()
  | .md5 => check.verifyDigest text = .ok ()

variable {check : IntegrityCheck} {text : String} {kind : Demand.Kind} {d : Demand}

theorem verify_eq_ok_iff : check.verify text = .ok () ↔ ∀ kind, check.Passes text kind := by
  unfold verify
  rw [bind_eq_ok_iff]
  constructor
  · rintro ⟨_, length, digest⟩ (_ | _)
    · exact length
    · exact digest
  · exact fun passes => ⟨(), passes .length, passes .md5⟩

theorem passes_none : none.Passes text kind := by
  cases kind <;> rfl

theorem ite_ok_iff {c : Prop} [Decidable c] {fault : IntegrityFault} :
    (if c then .ok () else .error fault : Except IntegrityFault Unit) = .ok () ↔ c := by
  split <;> simp [*]

/-- A demand that fits is checked. -/
theorem passes_demanding_same :
    (check.demanding d).Passes text d.kind ↔ (d.Fits → d.IsMetBy text) := by
  cases d with
  | length count =>
    show verifyLength ⟨if count < indexLimit then some count else .none, check.md5⟩ text = .ok ()
      ↔ (count < indexLimit → text.length = count)
    by_cases fits : count < indexLimit
    · rw [if_pos fits]
      exact ite_ok_iff.trans ⟨fun met _ => met, fun met => met fits⟩
    · rw [if_neg fits]
      exact ⟨fun _ fits' => absurd fits' fits, fun _ => rfl⟩
  | md5 digest =>
    have written : Md5.digest (utf8Bytes text) = String.ofList digest
        ↔ (Md5.digest (utf8Bytes text)).toList.map Char.toLower = digest := by
      rw [Md5.map_toLower_digest, ← String.toList_inj, String.toList_ofList]
    exact (ite_ok_iff.trans written).trans ⟨fun met _ => met, fun met => met trivial⟩

theorem passes_demanding_other (other : d.kind ≠ kind) :
    (check.demanding d).Passes text kind ↔ check.Passes text kind := by
  cases d <;> cases kind <;> first | rfl | exact absurd rfl other

end IntegrityCheck

/-! ### Sequences of items -/

/-- The demand is the latest one of its kind. -/
def IsLatest (items : List (List Char)) (d : Demand) : Prop :=
  ∃ before item after, items = before ++ item :: after ∧ Demands item d
    ∧ ∀ later ∈ after, ∀ d', Demands later d' → d'.kind ≠ d.kind

theorem isLatest_concat {items : List (List Char)} {item : List Char} {d : Demand} :
    IsLatest (items ++ [item]) d
      ↔ Demands item d ∨ IsLatest items d ∧ ∀ d', Demands item d' → d'.kind ≠ d.kind := by
  constructor
  · rintro ⟨before, it, after, whole, demands, latest⟩
    obtain rfl | ⟨after, last, rfl⟩ := List.eq_nil_or_concat' after
    · obtain ⟨-, same⟩ := List.append_inj' whole rfl
      cases same
      exact .inl demands
    · rw [← List.cons_append, ← List.append_assoc] at whole
      obtain ⟨rfl, same⟩ := List.append_inj' whole rfl
      cases same
      refine .inr ⟨⟨before, it, after, rfl, demands, fun later mem => ?_⟩, latest item (by simp)⟩
      exact latest later (List.mem_append_left _ mem)
  · rintro (demands | ⟨⟨before, it, after, rfl, demands, latest⟩, other⟩)
    · exact ⟨items, item, [], rfl, demands, nofun⟩
    · refine ⟨before, it, after ++ [item], by simp, demands, ?_⟩
      exact List.forall_mem_append.mpr ⟨latest, List.forall_mem_singleton.mpr other⟩

theorem IsLatest.exists_mem {items : List (List Char)} {d : Demand} (h : IsLatest items d) :
    ∃ item ∈ items, Demands item d := by
  obtain ⟨before, item, after, rfl, demands, -⟩ := h
  exact ⟨item, by simp, demands⟩

theorem exists_isLatest {items : List (List Char)} {item : List Char} {d : Demand}
    (mem : item ∈ items) (demands : Demands item d) :
    ∃ d', IsLatest items d' ∧ d'.kind = d.kind := by
  induction items using List.reverseRecOn with
  | nil => cases mem
  | append_singleton items last ih =>
    by_cases again : ∃ d', Demands last d' ∧ d'.kind = d.kind
    · obtain ⟨d', demands', same⟩ := again
      exact ⟨d', isLatest_concat.mpr (.inl demands'), same⟩
    · obtain mem | mem := List.mem_append.mp mem
      · obtain ⟨d', latest, same⟩ := ih mem
        refine ⟨d', isLatest_concat.mpr (.inr ⟨latest, fun d'' demands'' same' => ?_⟩), same⟩
        exact again ⟨d'', demands'', same'.trans same⟩
      · obtain rfl := List.mem_singleton.mp mem
        exact absurd ⟨d, demands, rfl⟩ again

/-- A check can hold each of the demands, and those of one kind are the same. -/
structure Compatible (items : List (List Char)) : Prop where
  fits : ∀ item ∈ items, ∀ d, Demands item d → d.Fits
  agree : ∀ item ∈ items, ∀ item' ∈ items, ∀ d d', Demands item d → Demands item' d' →
    d.kind = d'.kind → d = d'

namespace TextRange

variable {text : String}

theorem checkOf_concat (items : List (List Char)) (item : List Char) :
    checkOf (items ++ [item]) = ((checkOf items).withItem? item).getD (checkOf items) := by
  rw [checkOf, List.foldl_append]
  rfl

/-- What a sequence of items checks is the latest demand of each kind, if it fits. -/
theorem passes_checkOf_iff (items : List (List Char)) (kind : Demand.Kind) :
    (checkOf items).Passes text kind
      ↔ ∀ d, IsLatest items d → d.kind = kind → d.Fits → d.IsMetBy text := by
  -- From the end, since a later demand of a kind takes the place of those before it.
  induction items using List.reverseRecOn with
  | nil =>
    refine iff_of_true IntegrityCheck.passes_none ?_
    rintro d ⟨before, item, after, whole, -⟩
    simp at whole
  | append_singleton items item ih =>
    rw [checkOf_concat]
    by_cases some_ : ∃ d, Demands item d
    · obtain ⟨d, demands⟩ := some_
      rw [IntegrityCheck.withItem?_of_demands demands, Option.getD_some]
      by_cases same : d.kind = kind
      · subst same
        rw [IntegrityCheck.passes_demanding_same]
        constructor
        · intro met d' latest sameKind fits
          obtain demands' | ⟨-, other⟩ := isLatest_concat.mp latest
          · rw [demands'.unique demands] at fits ⊢
            exact met fits
          · exact absurd sameKind.symm (other d demands)
        · exact fun met => met d (isLatest_concat.mpr (.inl demands)) rfl
      · rw [IntegrityCheck.passes_demanding_other same, ih]
        constructor
        · intro met d' latest sameKind
          obtain demands' | ⟨latest', -⟩ := isLatest_concat.mp latest
          · exact absurd (demands'.unique demands ▸ sameKind) same
          · exact met d' latest' sameKind
        · intro met d' latest sameKind
          refine met d' (isLatest_concat.mpr (.inr ⟨latest, fun d'' demands' => ?_⟩)) sameKind
          rw [demands'.unique demands, sameKind]
          exact same
    · have none_ : ∀ d, ¬Demands item d := not_exists.mp some_
      rw [IntegrityCheck.withItem?_of_not_demands none_, ih]
      have latest_iff (d : Demand) : IsLatest (items ++ [item]) d ↔ IsLatest items d := by
        rw [isLatest_concat, or_iff_right (none_ d)]
        exact and_iff_left fun d' demands => absurd demands (none_ d')
      simp only [latest_iff]

/-- **Integrity checks are enforced**: a text passes if and only if it meets the latest demand of
each kind, lengths that are no index left out. If each length is an index and the demands of each
kind agree, then it passes if and only if it meets the demands of all items. -/
theorem verify_checkOf_iff (items : List (List Char)) (text : String) :
    ((checkOf items).verify text = .ok () ↔ ∀ d, IsLatest items d → d.Fits → d.IsMetBy text)
      ∧ (Compatible items → ((checkOf items).verify text = .ok ()
        ↔ ∀ item ∈ items, ∀ d, Demands item d → d.IsMetBy text)) := by
  have latest : (checkOf items).verify text = .ok ()
      ↔ ∀ d, IsLatest items d → d.Fits → d.IsMetBy text := by
    rw [IntegrityCheck.verify_eq_ok_iff]
    simp only [passes_checkOf_iff]
    exact ⟨fun met d h => met d.kind d h rfl, fun met kind d h _ => met d h⟩
  refine ⟨latest, fun compatible => latest.trans ⟨fun met item mem d demands => ?_, ?_⟩⟩
  · obtain ⟨d', isLatest, same⟩ := exists_isLatest mem demands
    obtain ⟨item', mem', demands'⟩ := isLatest.exists_mem
    rw [← compatible.agree item' mem' item mem d' d demands' demands same]
    exact met d' isLatest (compatible.fits item' mem' d' demands')
  · intro met d isLatest _
    obtain ⟨item, mem, demands⟩ := isLatest.exists_mem
    exact met item mem d demands

/-- A check of one character, with another one that is unknown. -/
def oneCharacter : List (List Char) :=
  [" length=01 , UTF-8 ".toList, "sha1=0".toList, "length=1".toList]

theorem verify_checkOf_iff_oneCharacter :
    Compatible oneCharacter ∧ ((checkOf oneCharacter).verify "a" = .ok ()
      ↔ ∀ item ∈ oneCharacter, ∀ d, Demands item d → d.IsMetBy "a") := by
  have first : Demands ([' '] ++ ("length=".toList ++ ['0', '1']) ++ [' ']
      ++ (',' :: [' '] ++ "UTF-8".toList ++ [' '])) (.length 1) :=
    .intro (List.all_eq_true.mp rfl) (.length nofun (List.all_eq_true.mp rfl))
      (List.all_eq_true.mp rfl)
      (.named (List.all_eq_true.mp rfl) (by decide) (List.all_eq_true.mp rfl))
  have last : Demands ([] ++ ("length=".toList ++ ['1']) ++ [] ++ []) (.length 1) :=
    .intro nofun (.length nofun (List.all_eq_true.mp rfl)) nofun .absent
  have unknown (d : Demand) : ¬Demands "sha1=0".toList d := by
    intro demands
    cases IntegrityCheck.withItem?_of_demands demands .none
  have only : ∀ item ∈ oneCharacter, ∀ d, Demands item d → d = .length 1 := by
    rintro item (_ | ⟨_, _ | ⟨_, _ | ⟨_, ⟨⟩⟩⟩⟩) d demands
    · exact demands.unique first
    · exact absurd demands (unknown d)
    · exact demands.unique last
  have compatible : Compatible oneCharacter := by
    refine ⟨fun item mem d demands => ?_, fun item mem item' mem' d d' demands demands' _ => ?_⟩
    · rw [only item mem d demands]
      exact (by decide : 1 < indexLimit)
    · rw [only item mem d demands, only item' mem' d' demands']
  exact ⟨compatible, (verify_checkOf_iff oneCharacter "a").2 compatible⟩

/-- A length of 2^64 is not checked, although no text has it. -/
theorem verify_checkOf_greatLength :
    (checkOf ["length=18446744073709551616".toList]).verify "a" = .ok ()
      ∧ ¬∀ item ∈ ["length=18446744073709551616".toList], ∀ d, Demands item d → d.IsMetBy "a" := by
  have demands : Demands ([] ++ ("length=".toList ++ "18446744073709551616".toList) ++ [] ++ [])
      (.length 18446744073709551616) :=
    .intro nofun (.length (by decide) (List.all_eq_true.mp (by decide))) nofun .absent
  refine ⟨by decide, fun met => ?_⟩
  cases met _ (List.mem_singleton_self _) _ demands

end TextRange

end Transclusion
