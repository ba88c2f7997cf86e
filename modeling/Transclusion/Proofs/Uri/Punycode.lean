import Mathlib.Data.List.TakeWhile
import Mathlib.Tactic.Ring
import Transclusion.Uri.Punycode
/-!
# Texts in Punycode

A text is read back from its Punycode.  The numbers in it are the distances from one insertion to
the next, and what has been read after some of them is the text without the characters that come
later: those of higher code points, and of the same one further right (`Insertion.IsReady`).

* `Punycode.foldlM_digits`: the digits of a number are read as an insertion.
* `Punycode.Insertion.foldlM_write_places`: the characters with one code point are inserted from
  left to right.
* `Punycode.foldlM_write_codes`: and those of all code points one after the other.
* `Punycode.decode?_encode`: so the text is read back.
-/

namespace Transclusion.Uri.Punycode

/-! ### Digits -/

theorem digitOf?_digit {value : Nat} (small : value < 36) :
    digitOf? (digit value) = some value := by
  have each : ∀ v < 36, digitOf? (digit v) = some v := by decide
  exact each value small

/-- A number is a last digit, or a digit and a smaller number behind it. -/
theorem digits_cases (bias position number : Nat) :
    (number < threshold bias position ∧ digits bias position number = [digit number])
      ∨ ∃ value rest, threshold bias position ≤ value ∧ value < 36 ∧ rest < number
        ∧ value + rest * (36 - threshold bias position) = number
        ∧ digits bias position number = digit value :: digits bias (position + 36) rest := by
  have least := threshold_pos bias position
  have most := threshold_le bias position
  rw [digits]
  split
  · next last => exact .inl ⟨last, rfl⟩
  · next more =>
    generalize threshold bias position = t at *
    have divided := Nat.mod_add_div' (number - t) (36 - t)
    have small : (number - t) % (36 - t) < 36 - t := Nat.mod_lt _ (by omega)
    have less : (number - t) / (36 - t) ≤ number - t := Nat.div_le_self _ _
    exact .inr ⟨t + (number - t) % (36 - t), (number - t) / (36 - t), by omega, by omega, by omega,
      by omega, rfl⟩

section

variable (s : Insertion) {value : Nat}

/-- A digit below the threshold is the last one. -/
theorem step?_last (last : value < threshold s.bias s.position)
    (fits : s.sum + value * s.weight < bound) :
    s.step? (digit value) = s.insert? (s.sum + value * s.weight) := by
  have small : value < 36 := by
    have most := threshold_le s.bias s.position
    omega
  simp [Insertion.step?, digitOf?_digit small, Nat.not_le.mpr fits, last]

/-- After any other digit the number goes on. -/
theorem step?_more (more : threshold s.bias s.position ≤ value) (small : value < 36)
    (fits : s.sum + value * s.weight < bound)
    (weight : s.weight * (36 - threshold s.bias s.position) < bound) :
    s.step? (digit value) = some { s with
      sum := s.sum + value * s.weight
      weight := s.weight * (36 - threshold s.bias s.position)
      position := s.position + 36 } := by
  simp [Insertion.step?, digitOf?_digit small, Nat.not_le.mpr fits, Nat.not_lt.mpr more,
    Nat.not_le.mpr weight]

/-- The digits of a number are read as an insertion at the place that is so far away. -/
theorem foldlM_digits (number : Nat) (fits : s.sum + number * s.weight < bound)
    (weight : 35 * (number * s.weight) < bound) :
    (digits s.bias s.position number).foldlM Insertion.step? s
      = s.insert? (s.sum + number * s.weight) := by
  induction number using Nat.strongRecOn generalizing s with
  | ind number ih =>
    obtain ⟨last, written⟩ | ⟨value, rest, more, small, less, parts, written⟩ :=
      digits_cases s.bias s.position number
    · rw [written, List.foldlM_cons, step?_last s last fits]
      exact bind_pure _
    · have least := threshold_pos s.bias s.position
      -- What is left counts as much as it did, since the weight has grown.
      have whole : value * s.weight + rest * (s.weight * (36 - threshold s.bias s.position))
          = number * s.weight := by rw [← parts]; ring
      have lighter : s.weight * (36 - threshold s.bias s.position) ≤ 35 * (number * s.weight) := by
        calc s.weight * (36 - threshold s.bias s.position)
            ≤ s.weight * (35 * number) := Nat.mul_le_mul_left _ (by omega)
          _ = 35 * (number * s.weight) := by ring
      rw [written, List.foldlM_cons, step?_more s more small (by omega) (by omega),
        Option.bind_eq_bind, Option.bind_some]
      refine (ih rest less _ ?fits ?weight).trans ?_
      case fits => dsimp only; omega
      case weight => dsimp only; omega
      show s.insert? (s.sum + value * s.weight + rest * _) = _
      rw [Nat.add_assoc, whole]

end

/-- Whatever holds of the digits holds of all that is written for insertions. -/
theorem forall_mem_digits {p : Char → Prop} (each : ∀ value < 36, p (digit value))
    (bias position number : Nat) : ∀ c ∈ digits bias position number, p c := by
  induction number using Nat.strongRecOn generalizing position with
  | ind number ih =>
    obtain ⟨last, written⟩ | ⟨value, rest, -, small, less, -, written⟩ :=
      digits_cases bias position number
    · have most := threshold_le bias position
      rw [written, List.forall_mem_singleton]
      exact each number (by omega)
    · rw [written, List.forall_mem_cons]
      exact ⟨each value small, ih rest less _⟩

theorem forall_mem_writeInsertions {p : Char → Prop} (each : ∀ value < 36, p (digit value))
    (insertions : List (Nat × Nat)) (code bias start length : Nat) :
    ∀ c ∈ writeInsertions code bias start length insertions, p c := by
  induction insertions generalizing code bias start length with
  | nil => exact nofun
  | cons first rest ih =>
    rw [writeInsertions, List.forall_mem_append]
    exact ⟨forall_mem_digits each _ _ _, ih _ _ _ _⟩

/-! ### Insertions -/

theorem insertIdx_append (before after : List Char) (c : Char) :
    (before ++ after).insertIdx before.length c = before ++ c :: after := by
  induction before with
  | nil => exact List.insertIdx_zero
  | cons first rest ih => simpa using ih

namespace Insertion

/-- Between two numbers: the next one counts from the place behind the last insertion. -/
structure IsReady (s : Insertion) : Prop where
  sum : s.sum = s.start
  weight : s.weight = 1
  position : s.position = 36
  start : s.start ≤ s.text.length

/-- What is written from here on. -/
def write (s : Insertion) (insertions : List (Nat × Nat)) : List Char :=
  writeInsertions s.code s.bias s.start s.text.length insertions

/-- An insertion of the code point at the place comes after what has been inserted. -/
def IsBefore (s : Insertion) (code place : Nat) : Prop :=
  s.code < code ∨ s.code = code ∧ s.start ≤ place

/-- How far away the insertion of the code point at the place is: for each code point from the last
one on there are all the places in the text. -/
def sumFor (s : Insertion) (code place : Nat) : Nat :=
  (code - s.code) * (s.text.length + 1) + place

/-- The character has been inserted at the place. -/
def inserted (s : Insertion) (c : Char) (place : Nat) : Insertion where
  text := s.text.insertIdx place c
  code := c.toNat
  bias := adapt (s.sumFor c.toNat place - s.start) (s.text.length + 1) (s.start = 0)
  start := place + 1
  sum := place + 1

variable {s : Insertion} {c : Char} {place : Nat}

theorem start_le_sumFor (ready : s.IsReady) {code : Nat} (later : s.IsBefore code place) :
    s.start ≤ s.sumFor code place := by
  obtain further | ⟨-, behind⟩ := later
  · have low := ready.start
    have all : s.text.length + 1 ≤ (code - s.code) * (s.text.length + 1) :=
      Nat.le_mul_of_pos_left _ (by omega)
    exact Nat.le_trans (by omega) (Nat.le_add_right _ place)
  · exact Nat.le_trans behind (Nat.le_add_left _ _)

theorem sumFor_le (inside : place ≤ s.text.length) (short : s.text.length < 100) :
    s.sumFor c.toNat place < 100 * 0x110000 := by
  have code : c.toNat - s.code ≤ 0x10FFFF := by
    have valid : c.toNat.isValidChar := c.valid
    obtain low | ⟨-, high⟩ := valid <;> omega
  have distance : (c.toNat - s.code) * (s.text.length + 1) ≤ 0x10FFFF * 100 :=
    Nat.mul_le_mul code (by omega)
  have bounded : s.sumFor c.toNat place ≤ 0x10FFFF * 100 + 99 :=
    Nat.add_le_add distance (by omega)
  omega

theorem insert?_sumFor (inside : place ≤ s.text.length) (reached : s.code ≤ c.toNat) :
    s.insert? (s.sumFor c.toNat place) = some (s.inserted c place) := by
  have code : s.code + s.sumFor c.toNat place / (s.text.length + 1) = c.toNat := by
    rw [sumFor, Nat.mul_comm, Nat.mul_add_div (by omega), Nat.div_eq_of_lt (by omega)]
    omega
  have position : s.sumFor c.toNat place % (s.text.length + 1) = place := by
    rw [sumFor, Nat.mul_comm, Nat.mul_add_mod, Nat.mod_eq_of_lt (by omega)]
  have valid : c.toNat.isValidChar := c.valid
  rw [insert?, code, position, dif_pos valid]
  rfl

section

variable (inside : place ≤ s.text.length)

include inside

theorem length_inserted : (s.inserted c place).text.length = s.text.length + 1 :=
  List.length_insertIdx_of_le_length inside c

theorem isReady_inserted : (s.inserted c place).IsReady := by
  refine ⟨rfl, rfl, rfl, ?_⟩
  rw [length_inserted inside]
  exact Nat.succ_le_succ inside

theorem write_cons (insertions : List (Nat × Nat)) :
    s.write ((c.toNat, place) :: insertions)
      = digits s.bias 36 (s.sumFor c.toNat place - s.start)
        ++ (s.inserted c place).write insertions := by
  rw [write, writeInsertions, write, length_inserted inside]
  rfl

/-- The number for an insertion is read as this insertion. -/
theorem foldlM_write_cons (ready : s.IsReady) (later : s.IsBefore c.toNat place)
    (short : s.text.length < 100) (insertions : List (Nat × Nat)) :
    (s.write ((c.toNat, place) :: insertions)).foldlM step? s
      = ((s.inserted c place).write insertions).foldlM step? (s.inserted c place) := by
  have reached : s.code ≤ c.toNat := later.elim Nat.le_of_lt fun same => same.1.le
  have away := start_le_sumFor ready later
  have bounded := sumFor_le (c := c) inside short
  have limit : bound = 0x100000000 := rfl
  have number := foldlM_digits s (s.sumFor c.toNat place - s.start)
  rw [ready.sum, ready.weight, ready.position, Nat.mul_one, Nat.add_sub_of_le away] at number
  rw [write_cons inside, List.foldlM_append, number (by omega) (by omega),
    insert?_sumFor inside reached, Option.bind_eq_bind, Option.bind_some]

end

/-- The characters with one code point are inserted, if all with lower ones are there. -/
theorem foldlM_write_places (ready : s.IsReady) {code : Nat} (before after : List Char)
    (text : s.text = before ++ after.filter (·.toNat < code))
    (later : s.IsBefore code before.length) (short : before.length + after.length ≤ 100)
    (insertions : List (Nat × Nat)) :
    ∃ s' : Insertion, s'.IsReady ∧ s'.text = before ++ after.filter (·.toNat ≤ code)
      ∧ s'.code ≤ code
      ∧ (s.write ((places code before.length after).map (code, ·) ++ insertions)).foldlM step? s
        = (s'.write insertions).foldlM step? s' := by
  induction after generalizing s before with
  | nil => exact ⟨s, ready, text, later.elim Nat.le_of_lt fun same => same.1.le, rfl⟩
  | cons c rest ih =>
    have passed : s.IsBefore code (before ++ [c]).length := by
      rw [List.length_append]
      exact later.imp_right fun same => ⟨same.1, same.2.trans (Nat.le_add_right _ _)⟩
    rw [List.length_cons] at short
    -- The next character is there already, or it is inserted now, or it comes later.
    obtain lower | same | higher := Nat.lt_trichotomy c.toNat code
    · have found := ih ready (before ++ [c]) (by simpa [lower] using text) passed (by simp; omega)
      simpa [places, lower, lower.ne, lower.le] using found
    · subst same
      have there : s.text = before ++ rest.filter (·.toNat < c.toNat) := by simpa using text
      have inside : before.length ≤ s.text.length := by simp [there]
      have notAll : s.text.length < 100 := by
        have some_ := List.length_filter_le (·.toNat < c.toNat) rest
        rw [there, List.length_append]
        omega
      have read := foldlM_write_cons inside ready later notAll
        ((places c.toNat (before.length + 1) rest).map (c.toNat, ·) ++ insertions)
      have grown : (s.inserted c before.length).text
          = before ++ [c] ++ rest.filter (·.toNat < c.toNat) := by
        rw [inserted, there, insertIdx_append, List.append_cons]
      have behind : (s.inserted c before.length).IsBefore c.toNat (before ++ [c]).length := by
        rw [List.length_append]
        exact .inr ⟨rfl, Nat.le_refl _⟩
      have found := ih (isReady_inserted inside) (before ++ [c]) grown behind (by simp; omega)
      simpa [places, read] using found
    · have found := ih ready before (by simpa [higher.le] using text) later (by omega)
      simpa [places, higher.not_gt, higher.ne', higher.not_ge] using found

end Insertion

/-! ### Code points -/

theorem mem_insertCode {code n : Nat} {codes : List Nat} :
    n ∈ insertCode code codes ↔ n = code ∨ n ∈ codes := by
  induction codes with
  | nil => simp [insertCode]
  | cons other rest ih =>
    rw [insertCode]
    split_ifs with less same
    · exact List.mem_cons
    · simp [same]
    · rw [List.mem_cons, ih, List.mem_cons]
      tauto

theorem pairwise_insertCode {code : Nat} {codes : List Nat} (h : codes.Pairwise (· < ·)) :
    (insertCode code codes).Pairwise (· < ·) := by
  induction codes with
  | nil => exact List.pairwise_singleton _ _
  | cons other rest ih =>
    obtain ⟨least, ascending⟩ := List.pairwise_cons.mp h
    rw [insertCode]
    split_ifs with less same
    · refine List.pairwise_cons.mpr ⟨fun n hn => ?_, h⟩
      obtain rfl | behind := List.mem_cons.mp hn
      · exact less
      · exact less.trans (least n behind)
    · exact h
    · refine List.pairwise_cons.mpr ⟨fun n hn => ?_, ih ascending⟩
      obtain rfl | behind := mem_insertCode.mp hn
      · omega
      · exact least n behind

theorem mem_codes {n : Nat} {text : List Char} :
    n ∈ codes text ↔ 128 ≤ n ∧ ∃ c ∈ text, c.toNat = n := by
  induction text with
  | nil => simp [codes]
  | cons c rest ih =>
    rw [codes, List.foldr_cons]
    change n ∈ (if c.toNat < 128 then codes rest else insertCode c.toNat (codes rest)) ↔ _
    split_ifs with ascii
    · rw [ih]
      grind
    · rw [mem_insertCode, ih]
      grind

theorem pairwise_codes (text : List Char) : (codes text).Pairwise (· < ·) := by
  induction text with
  | nil => exact .nil
  | cons c rest ih =>
    rw [codes, List.foldr_cons]
    split
    · exact ih
    · exact pairwise_insertCode ih

/-- The characters of all code points from `low` on are inserted, if all with lower ones are
there. -/
theorem foldlM_write_codes {s : Insertion} (ready : s.IsReady) {text : List Char}
    (short : text.length ≤ 100) {low : Nat} (here : s.text = text.filter (·.toNat < low))
    {codes : List Nat} (ascending : codes.Pairwise (· < ·)) (from_ : ∀ code ∈ codes, low ≤ code)
    (all : ∀ c ∈ text, low ≤ c.toNat → c.toNat ∈ codes)
    (later : ∀ code ∈ codes, s.IsBefore code 0) :
    ∃ s' : Insertion, s'.IsReady ∧ s'.text = text
      ∧ (s.write (codes.flatMap fun code => (places code 0 text).map (code, ·))).foldlM
          Insertion.step? s = some s' := by
  induction codes generalizing s low with
  | nil =>
    refine ⟨s, ready, here.trans (List.filter_eq_self.mpr fun c hc => ?_), rfl⟩
    have below : ¬ low ≤ c.toNat := fun high => List.not_mem_nil (all c hc high)
    simpa using below
  | cons code rest ih =>
    obtain ⟨least, ascending⟩ := List.pairwise_cons.mp ascending
    -- There is no character between the code points that are there and this one.
    have below : s.text = [] ++ text.filter (·.toNat < code) := by
      refine here.trans (List.filter_congr fun c hc => ?_)
      have lowest := from_ code List.mem_cons_self
      have above : low ≤ c.toNat → code ≤ c.toNat := fun high =>
        (List.mem_cons.mp (all c hc high)).elim (·.ge) fun behind => (least _ behind).le
      exact decide_eq_decide.mpr (by omega)
    obtain ⟨s₁, ready₁, text₁, code₁, read⟩ := Insertion.foldlM_write_places ready [] text below
      (later code List.mem_cons_self) (by simpa using short)
      (rest.flatMap fun code => (places code 0 text).map (code, ·))
    have next : s₁.text = text.filter (·.toNat < code + 1) := by
      simpa [Nat.lt_succ_iff] using text₁
    have others : ∀ c ∈ text, code + 1 ≤ c.toNat → c.toNat ∈ rest := by
      intro c hc high
      have lowest := from_ code List.mem_cons_self
      obtain same | behind := List.mem_cons.mp (all c hc (by omega))
      · omega
      · exact behind
    obtain ⟨s', ready', text', behind⟩ := ih ready₁ next ascending least others
      fun other later => .inl (Nat.lt_of_le_of_lt code₁ (least other later))
    rw [List.flatMap_cons]
    exact ⟨s', ready', text', read.trans behind⟩

/-! ### Texts -/

theorem cutDigits_append (kept : List Char) {digits : List Char} (hyphen : '-' ∉ digits) :
    cutDigits ((if kept.isEmpty then [] else kept ++ ['-']) ++ digits) = (kept, digits) := by
  have all : ∀ c ∈ digits.reverse, decide (c ≠ '-') = true := by
    intro c hc
    exact decide_eq_true fun same => hyphen (same ▸ List.mem_reverse.mp hc)
  cases kept with
  | nil =>
    have last : (digits.reverse.takeWhile (· ≠ '-')).reverse = digits := by
      rw [List.takeWhile_eq_self_iff.mpr all, List.reverse_reverse]
    simp only [List.isEmpty_nil, if_true, List.nil_append, cutDigits, last]
    simp
  | cons first rest =>
    have last : ((first :: rest ++ ['-'] ++ digits).reverse.takeWhile (· ≠ '-')).reverse
        = digits := by
      rw [List.reverse_append, List.reverse_append, List.takeWhile_append_of_pos all]
      simp
    have before : (first :: rest ++ ['-'] ++ digits).length - digits.length - 1
        = (first :: rest).length := by
      simp only [List.length_append, List.length_cons, List.length_nil]
      omega
    simp only [List.isEmpty_cons, Bool.false_eq_true, if_false, cutDigits, last, before]
    rw [List.append_assoc, List.take_left]
    rfl

/-- **A text is read back from its Punycode** if it has at most 100 characters. A label has no more
than 63, and the numbers for much longer texts would not stay below their bound. -/
theorem decode?_encode {text : List Char} (short : text.length ≤ 100) :
    decode? (encode text) = some text := by
  let kept := text.filter (·.toNat < 128)
  let s : Insertion := { text := kept }
  let insertions := (codes text).flatMap fun code => (places code 0 text).map (code, ·)
  have ready : s.IsReady := ⟨rfl, rfl, rfl, Nat.zero_le _⟩
  obtain ⟨s', ready', text', read⟩ := foldlM_write_codes ready short rfl (pairwise_codes text)
    (fun code h => (mem_codes.mp h).1) (fun c hc high => mem_codes.mpr ⟨high, c, hc, rfl⟩)
    (fun code h => (mem_codes.mp h).1.lt_or_eq.imp_right fun same => ⟨same, Nat.le_refl 0⟩)
  have hyphen : '-' ∉ s.write insertions := fun among =>
    forall_mem_writeInsertions (p := (· ≠ '-')) (by decide) _ _ _ _ _ _ among rfl
  have encoded : encode text
      = (if kept.isEmpty then [] else kept ++ ['-']) ++ s.write insertions := rfl
  rw [decode?, encoded, cutDigits_append kept hyphen]
  show (s.write insertions).foldlM Insertion.step? s >>= _ = _
  rw [read]
  exact (if_pos ready'.position).trans (congrArg some text')

end Transclusion.Uri.Punycode
