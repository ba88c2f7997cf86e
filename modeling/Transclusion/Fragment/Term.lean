import Transclusion.Fragment.Error
import Transclusion.Text.Word
/-!
# Scheme terms

A pointer invokes schemes by terms of the form `name(data)`, one after the other and perhaps with
white space between them.  Parentheses in the data are balanced or escaped: a circumflex stands
before a parenthesis or another circumflex that is meant as such.

* `escape` writes data so that it can stand in a term,
* `readData?` reads it back, up to the parenthesis that closes the term,
* `TermScan.of` reads all terms of a text, up to the first that is malformed.
-/

namespace Transclusion

open Text

/-- Whether a character is escaped in data: a parenthesis or a circumflex. -/
def isEscaped (c : Char) : Bool := c = '(' || c = ')' || c = '^'

/-- Data with a circumflex before each of the characters that need one. -/
def escape (data : List Char) : List Char :=
  data.flatMap fun c => if isEscaped c then ['^', c] else [c]

/-- Puts a character in front of data that has been read. -/
def withFirst (c : Char) (read : Option (List Char × List Char)) :
    Option (List Char × List Char) :=
  read.map fun (data, after) => (c :: data, after)

/-- Reads data up to the parenthesis that closes the term, `depth` other ones being open. Returns
the data and what follows the term. -/
def readData? : Nat → List Char → Option (List Char × List Char)
  | _, [] => none
  | depth, '^' :: c :: rest =>
    if isEscaped c then withFirst c (readData? depth rest)
    else withFirst '^' (readData? depth (c :: rest))
  | depth, '(' :: rest => withFirst '(' (readData? (depth + 1) rest)
  | 0, ')' :: rest => some ([], rest)
  | depth + 1, ')' :: rest => withFirst ')' (readData? depth rest)
  | depth, c :: rest => withFirst c (readData? depth rest)

theorem exists_of_withFirst {c : Char} {read : Option (List Char × List Char)}
    {data after : List Char} (h : withFirst c read = some (data, after)) :
    ∃ data', read = some (data', after) := by
  obtain ⟨⟨data', after'⟩, found, same⟩ := Option.map_eq_some_iff.1 h
  simp only [Prod.mk.injEq] at same
  exact ⟨data', same.2 ▸ found⟩

theorem length_lt_of_readData? {depth : Nat} {cs data after : List Char}
    (h : readData? depth cs = some (data, after)) : after.length < cs.length := by
  fun_induction readData? depth cs generalizing data with
  | case1 => simp at h
  | case2 depth c rest escaped ih =>
    obtain ⟨data', found⟩ := exists_of_withFirst h
    have shorter := ih found
    simp only [List.length_cons]; omega
  | case5 rest =>
    simp only [Option.some.injEq, Prod.mk.injEq] at h
    simp [h.2]
  | case3 _ _ _ _ ih | case4 _ _ ih | case6 _ _ ih | case7 _ _ _ _ _ _ _ ih =>
    obtain ⟨data', found⟩ := exists_of_withFirst h
    have shorter := ih found
    simp only [List.length_cons] at shorter ⊢; omega

/-! ### Terms -/

/-- An invocation of a scheme. -/
structure Term where
  name : List Char
  data : List Char
deriving DecidableEq, Repr

/-- Whether a character can stand in the name of a scheme. -/
def isSchemeNameChar (c : Char) : Bool := isWordChar c || c = '+' || c = ':'

/-- Reads a term from the front of a text. -/
def readTerm (cs : List Char) : Except FragmentError (Term × List Char) :=
  let name := cs.takeWhile isSchemeNameChar
  match name, trimStart (cs.dropWhile isSchemeNameChar) with
  | _ :: _, '(' :: body =>
    match readData? 0 body with
    | some (data, rest) => .ok (⟨name, data⟩, rest)
    | none => .error (.malformedData (String.ofList name) (.unclosed (String.ofList body)))
  | _, _ => .error (.unparseable (String.ofList cs))

theorem length_lt_of_readTerm {cs rest : List Char} {term : Term}
    (h : readTerm cs = .ok (term, rest)) : rest.length < cs.length := by
  simp only [readTerm] at h
  split at h
  · next body _ after =>
    split at h
    · next found =>
      simp only [Except.ok.injEq, Prod.mk.injEq] at h
      have shorter := length_lt_of_readData? (h.2 ▸ found)
      have dropped : (trimStart (cs.dropWhile isSchemeNameChar)).length ≤ cs.length :=
        Nat.le_trans (List.dropWhile_sublist _).length_le (List.dropWhile_sublist _).length_le
      rw [after, List.length_cons] at dropped
      omega
    · simp at h
  · simp at h

/-- The terms of a text, and why it has no more. -/
structure TermScan where
  terms : List Term
  fault : Option FragmentError
deriving DecidableEq, Repr

/-- Reads the terms of a text. -/
def TermScan.of (cs : List Char) : TermScan :=
  let rest := trim cs
  if rest.isEmpty then ⟨[], none⟩
  else match _found : readTerm rest with
    | .error fault => ⟨[], some fault⟩
    | .ok (term, rest') =>
      let scan := TermScan.of rest'
      { scan with terms := term :: scan.terms }
termination_by cs.length
decreasing_by
  exact Nat.lt_of_lt_of_le (length_lt_of_readTerm _found) (length_trim_le cs)

end Transclusion
