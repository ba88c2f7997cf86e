/-!
# Cutting texts

Where a text is cut at a character (`cutAt`, `pieces`), at another text (`cutAtText`), or after
each line feed (`lines`).  Nothing is lost by a cut: each operation comes with the lemma that
puts the parts together again.
-/

namespace Transclusion.Text

/-- The parts before and after the first occurrence of `c`. -/
def cutAt (c : Char) : List Char → Option (List Char × List Char)
  | [] => none
  | d :: rest =>
    if d = c then some ([], rest)
    else match cutAt c rest with
      | some (before, after) => some (d :: before, after)
      | none => none

theorem eq_of_cutAt {c : Char} {cs before after : List Char}
    (h : cutAt c cs = some (before, after)) : cs = before ++ c :: after := by
  induction cs generalizing before after with
  | nil => simp [cutAt] at h
  | cons d rest ih =>
    simp only [cutAt] at h
    split at h
    · next same => simp only [Option.some.injEq, Prod.mk.injEq] at h; simp [← h.1, ← h.2, same]
    · split at h
      · next found =>
        simp only [Option.some.injEq, Prod.mk.injEq] at h
        rw [ih found, ← h.1, ← h.2]; rfl
      · simp at h

theorem cutAt_eq_none_iff {c : Char} {cs : List Char} : cutAt c cs = none ↔ c ∉ cs := by
  induction cs with
  | nil => simp [cutAt]
  | cons d rest ih =>
    simp only [cutAt]
    split
    · next same => simp [same]
    · next other =>
      rw [List.mem_cons, not_or, ← ih]
      cases cutAt c rest <;> simp [Ne.symm other]

theorem cutAt_append {c : Char} {cs : List Char} (h : c ∉ cs) (rest : List Char) :
    cutAt c (cs ++ c :: rest) = some (cs, rest) := by
  induction cs with
  | nil => simp [cutAt]
  | cons d cs ih =>
    rw [List.mem_cons, not_or] at h
    rw [List.cons_append, cutAt, if_neg (Ne.symm h.1), ih h.2]

theorem not_mem_of_cutAt {c : Char} {cs before after : List Char}
    (h : cutAt c cs = some (before, after)) : c ∉ before := by
  induction cs generalizing before after with
  | nil => simp [cutAt] at h
  | cons d rest ih =>
    simp only [cutAt] at h
    split at h
    · simp only [Option.some.injEq, Prod.mk.injEq] at h
      simp [← h.1]
    · next other =>
      split at h
      · next found =>
        simp only [Option.some.injEq, Prod.mk.injEq] at h
        rw [← h.1, List.mem_cons, not_or]
        exact ⟨Ne.symm other, ih found⟩
      · simp at h

/-- The pieces between the occurrences of `c`: one more than there are occurrences. -/
def pieces (c : Char) : List Char → List (List Char)
  | [] => [[]]
  | d :: rest =>
    if d = c then [] :: pieces c rest
    else match pieces c rest with
      | [] => [[d]]
      | piece :: others => (d :: piece) :: others

theorem pieces_of_not_mem {c : Char} {cs : List Char} (h : c ∉ cs) : pieces c cs = [cs] := by
  induction cs with
  | nil => rfl
  | cons d cs ih =>
    rw [List.mem_cons, not_or] at h
    rw [pieces, if_neg (Ne.symm h.1), ih h.2]

theorem pieces_append {c : Char} {cs : List Char} (h : c ∉ cs) (rest : List Char) :
    pieces c (cs ++ c :: rest) = cs :: pieces c rest := by
  induction cs with
  | nil => exact if_pos rfl
  | cons d cs ih =>
    rw [List.mem_cons, not_or] at h
    rw [List.cons_append, pieces, if_neg (Ne.symm h.1), ih h.2]

/-- The parts before and after the first occurrence of `needle`; an empty needle occurs at the
start. -/
def cutAtText (needle : List Char) (cs : List Char) : Option (List Char × List Char) :=
  match needle.isPrefixOf? cs with
  | some after => some ([], after)
  | none => match cs with
    | [] => none
    | d :: rest => match cutAtText needle rest with
      | some (before, after) => some (d :: before, after)
      | none => none

/-- Whether `needle` occurs in a text. -/
def containsText (needle cs : List Char) : Bool := (cutAtText needle cs).isSome

/-- The lines of a text, each with the line feed that ends it; no line is empty. -/
def lines : List Char → List (List Char)
  | [] => []
  | c :: rest =>
    if c = '\n' then [c] :: lines rest
    else match lines rest with
      | [] => [[c]]
      | line :: others => (c :: line) :: others

theorem flatten_lines (cs : List Char) : (lines cs).flatten = cs := by
  induction cs with
  | nil => rfl
  | cons c rest ih =>
    simp only [lines]
    split
    · simp [ih]
    · split
      · next none_left => rw [none_left] at ih; simp [← ih]
      · next found => rw [found] at ih; simpa using ih

/-- Line ends as a single line feed: carriage return and line feed, or a carriage return alone,
become one line feed. -/
def unifyLineEnds : List Char → List Char
  | [] => []
  | '\r' :: '\n' :: rest => '\n' :: unifyLineEnds rest
  | '\r' :: rest => '\n' :: unifyLineEnds rest
  | c :: rest => c :: unifyLineEnds rest

end Transclusion.Text
