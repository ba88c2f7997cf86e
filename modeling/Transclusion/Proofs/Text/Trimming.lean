import Mathlib.Data.List.DropRight
import Transclusion.Text.Blank
import Transclusion.Text.Word
/-!
# White space at the ends of texts

What is removed from the ends of a text (`exists_of_trim`), what is left when text without white
space stands between white space (`trim_between`), and that white space is not part of words.  A run
of characters of any kind is cut off where it ends (`takeWhile_dropWhile_of_run`).
-/

namespace Transclusion.Text

variable {c : Char} {cs blank rest : List Char}

/-! ### Runs -/

/-- The characters of a run are taken from the start of a text, and the rest is left. -/
theorem takeWhile_dropWhile_of_run {p : Char → Bool} (run : ∀ c ∈ cs, p c = true)
    (behind : ∀ c ∈ rest.head?, p c = false) :
    (cs ++ rest).takeWhile p = cs ∧ (cs ++ rest).dropWhile p = rest := by
  rw [List.takeWhile_append_of_pos run, List.dropWhile_append_of_pos run]
  cases rest with
  | nil => simp
  | cons c rest => simp [behind c rfl]

/-- A run goes on as long as it can. -/
theorem head?_dropWhile_eq_false {p : Char → Bool} :
    ∀ c ∈ (cs.dropWhile p).head?, p c = false := by
  intro c first
  have kept := List.head?_dropWhile_not p cs
  rw [first] at kept
  simpa using kept

/-! ### Trimming -/

theorem trimStart_append (spaces : ∀ c ∈ blank, isSpace c = true) (cs : List Char) :
    trimStart (blank ++ cs) = trimStart cs :=
  List.dropWhile_append_of_pos spaces

theorem trimStart_cons (other : isSpace c = false) (cs : List Char) :
    trimStart (c :: cs) = c :: cs :=
  List.dropWhile_cons_of_neg (by simp [other])

/-- Only the white space behind the last character that is none is removed. -/
theorem trimEnd_append_cons (other : isSpace c = false) (cs rest : List Char) :
    trimEnd (cs ++ c :: rest) = cs ++ c :: trimEnd rest := by
  have kept : (c :: cs.reverse).dropWhile isSpace = c :: cs.reverse := trimStart_cons other _
  unfold trimEnd dropEndWhile
  rw [List.reverse_append, List.reverse_cons, List.append_assoc, List.singleton_append,
    List.dropWhile_append]
  split
  · next empty =>
    rw [kept, List.isEmpty_iff.mp empty]
    simp
  · simp

theorem trim_of_spaces (spaces : ∀ c ∈ blank, isSpace c = true) : trim blank = [] := by
  have start : trimStart blank = [] := List.dropWhile_eq_nil_iff.mpr spaces
  rw [trim, start]
  rfl

theorem mem_of_mem_trimEnd (mem : c ∈ trimEnd cs) : c ∈ cs :=
  List.mem_reverse.mp ((List.dropWhile_sublist _).mem (List.mem_reverse.mp mem))

theorem not_mem_of_spaces (spaces : ∀ c ∈ blank, isSpace c = true) (other : isSpace c = false) :
    c ∉ blank :=
  fun mem => by simp [spaces c mem] at other

theorem trimEnd_trimEnd (cs : List Char) : trimEnd (trimEnd cs) = trimEnd cs := by
  unfold trimEnd dropEndWhile
  rw [List.reverse_reverse, List.dropWhile_idempotent]

/-- It does not matter at which end white space is removed first. -/
theorem trimStart_trimEnd (cs : List Char) : trimStart (trimEnd cs) = trim cs := by
  cases start : trimStart cs with
  | nil =>
    have spaces : ∀ c ∈ cs, isSpace c = true := List.dropWhile_eq_nil_iff.mp start
    have fewer : ∀ c ∈ trimEnd cs, isSpace c = true := fun c mem =>
      spaces c (mem_of_mem_trimEnd mem)
    rw [trim_of_spaces spaces]
    exact List.dropWhile_eq_nil_iff.mpr fewer
  | cons c rest =>
    have other : isSpace c = false := head?_dropWhile_eq_false c (congrArg List.head? start)
    have spaces : ∀ c ∈ cs.takeWhile isSpace, isSpace c = true := fun _ => List.mem_takeWhile_imp
    have whole : cs = cs.takeWhile isSpace ++ c :: rest := by
      rw [← start]
      exact List.takeWhile_append_dropWhile.symm
    have last : trimEnd (c :: rest) = c :: trimEnd rest := trimEnd_append_cons other [] rest
    have ends : trimEnd cs = cs.takeWhile isSpace ++ c :: trimEnd rest :=
      (congrArg trimEnd whole).trans (trimEnd_append_cons other _ rest)
    rw [ends, trimStart_append spaces, trimStart_cons other, trim, start, last]

theorem trim_trimEnd (cs : List Char) : trim (trimEnd cs) = trim cs := by
  rw [trim, trimStart_trimEnd, trim, trimEnd_trimEnd]

theorem trim_append (spaces : ∀ c ∈ blank, isSpace c = true) (rest : List Char) :
    trim (blank ++ rest) = trim rest := by
  rw [trim, trimStart_append spaces, trim]

/-- Text without white space is kept, whatever follows it. -/
theorem trim_append_of_some (some_ : cs ≠ []) (other : ∀ c ∈ cs, isSpace c = false)
    (rest : List Char) : trim (cs ++ rest) = cs ++ trimEnd rest := by
  have start : trimStart (cs ++ rest) = cs ++ rest := by
    obtain ⟨d, ds, rfl⟩ := List.exists_cons_of_ne_nil some_
    exact trimStart_cons (other d List.mem_cons_self) _
  obtain rfl | ⟨ds, d, rfl⟩ := List.eq_nil_or_concat' cs
  · cases some_ rfl
  · rw [trim, start, List.append_assoc, List.append_assoc]
    exact trimEnd_append_cons (other d (by simp)) ds rest

theorem trim_cons (other : isSpace c = false) (rest : List Char) :
    trim (c :: rest) = c :: trimEnd rest := by
  rw [trim, trimStart_cons other]
  exact trimEnd_append_cons other [] rest

theorem trim_trimStart (cs : List Char) : trim (trimStart cs) = trim cs := by
  have once : trimStart (trimStart cs) = trimStart cs := List.dropWhile_idempotent isSpace cs
  rw [trim, once, trim]

theorem trim_trim (cs : List Char) : trim (trim cs) = trim cs :=
  (trim_trimEnd (trimStart cs)).trans (trim_trimStart cs)

/-- White space around other characters is removed. -/
theorem trim_between {before after : List Char} (spaces : ∀ c ∈ before, isSpace c = true)
    (spaces' : ∀ c ∈ after, isSpace c = true) (other : ∀ c ∈ cs, isSpace c = false) :
    trim (before ++ cs ++ after) = cs := by
  obtain rfl | ⟨ds, d, rfl⟩ := List.eq_nil_or_concat' cs
  · rw [List.append_nil]
    exact trim_of_spaces (List.forall_mem_append.mpr ⟨spaces, spaces'⟩)
  · have last : isSpace d = false := other d (by simp)
    have start : trimStart (ds ++ d :: after) = ds ++ d :: after := by
      cases ds with
      | nil => exact trimStart_cons last _
      | cons c ds => exact trimStart_cons (other c (by simp)) _
    have nothing : trimEnd after = [] := by
      rw [trimEnd, dropEndWhile, List.dropWhile_eq_nil_iff.mpr, List.reverse_nil]
      exact fun c mem => spaces' c (List.mem_reverse.mp mem)
    rw [trim, List.append_assoc, trimStart_append spaces, List.append_assoc, List.singleton_append,
      start, trimEnd_append_cons last, nothing]

theorem trim_eq_self (other : ∀ c ∈ cs, isSpace c = false) : trim cs = cs := by
  have trimmed := trim_between (List.forall_mem_nil _) (List.forall_mem_nil _) other
  rwa [List.nil_append, List.append_nil] at trimmed

/-- Only white space is removed. -/
theorem exists_of_trim (cs : List Char) :
    ∃ before after, cs = before ++ trim cs ++ after ∧ (∀ c ∈ before, isSpace c = true)
      ∧ ∀ c ∈ after, isSpace c = true := by
  let behind := (trimStart cs).reverse.takeWhile isSpace
  refine ⟨cs.takeWhile isSpace, behind.reverse, ?_, fun _ => List.mem_takeWhile_imp,
    fun c mem => ?_⟩
  · have inner : trimStart cs = trim cs ++ behind.reverse := by
      rw [trim, trimEnd, dropEndWhile, ← List.reverse_append, List.takeWhile_append_dropWhile,
        List.reverse_reverse]
    rw [List.append_assoc, ← inner]
    exact List.takeWhile_append_dropWhile.symm
  · exact List.mem_takeWhile_imp (List.mem_reverse.mp mem)

/-! ### The characters of white space -/

/-- The code points of white space. -/
def spaceCodes : List Nat :=
  [0x09, 0x0A, 0x0B, 0x0C, 0x0D, 0x20, 0x85, 0xA0, 0x1680, 0x2000, 0x2001, 0x2002, 0x2003, 0x2004,
   0x2005, 0x2006, 0x2007, 0x2008, 0x2009, 0x200A, 0x2028, 0x2029, 0x202F, 0x205F, 0x3000]

/-- What is so for each of the code points is so for all white space. -/
theorem forall_isSpace {p : Char → Bool} (each : ∀ n ∈ spaceCodes, p (Char.ofNat n) = true)
    (h : isSpace c = true) : p c = true := by
  have code : c.toNat ∈ spaceCodes := by
    simp only [isSpace, Bool.or_eq_true, Bool.and_eq_true, decide_eq_true_eq] at h
    simp only [spaceCodes, List.mem_cons, List.not_mem_nil, or_false]
    omega
  rw [← Char.ofNat_toNat c]
  exact each _ code

theorem isWordChar_of_isSpace (h : isSpace c = true) : isWordChar c = false := by
  simpa using forall_isSpace (p := fun c => !isWordChar c) (by decide +kernel) h

end Transclusion.Text
