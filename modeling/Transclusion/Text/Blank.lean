/-!
# White space

The characters of the property White_Space, and the three things that are done with them:

* `trim`, `trimStart` and `trimEnd` remove them from the ends of a text,
* `words` are the maximal runs of other characters,
* `isBlank` says that a text has no other characters.

Texts are handled as lists of characters.
-/

namespace Transclusion.Text

/-- The characters with the property White_Space. -/
def isSpace (c : Char) : Bool :=
  let code := c.toNat
  (0x09 ≤ code && code ≤ 0x0D) || code = 0x20 || code = 0x85 || code = 0xA0 || code = 0x1680
    || (0x2000 ≤ code && code ≤ 0x200A) || code = 0x2028 || code = 0x2029 || code = 0x202F
    || code = 0x205F || code = 0x3000

theorem isSpace_of_isWhitespace {c : Char} (h : c.isWhitespace = true) : isSpace c = true := by
  simp only [Char.isWhitespace, Bool.or_eq_true, decide_eq_true_eq] at h
  rcases h with ((rfl | rfl) | rfl) | rfl <;> decide

/-- The white space of markup and expressions: space, tab, carriage return and line feed. -/
def isMarkupSpace (c : Char) : Bool := c = ' ' || c = '\t' || c = '\r' || c = '\n'

/-- Removes the characters that satisfy `p` from the end. -/
def dropEndWhile (p : Char → Bool) (cs : List Char) : List Char :=
  (cs.reverse.dropWhile p).reverse

/-- Removes white space from the start. -/
def trimStart (cs : List Char) : List Char := cs.dropWhile isSpace

/-- Removes white space from the end. -/
def trimEnd (cs : List Char) : List Char := dropEndWhile isSpace cs

/-- Removes white space from both ends. -/
def trim (cs : List Char) : List Char := trimEnd (trimStart cs)

theorem length_dropEndWhile_le (p : Char → Bool) (cs : List Char) :
    (dropEndWhile p cs).length ≤ cs.length := by
  simpa [dropEndWhile] using (List.dropWhile_sublist p (l := cs.reverse)).length_le

theorem length_trim_le (cs : List Char) : (trim cs).length ≤ cs.length :=
  Nat.le_trans (length_dropEndWhile_le _ _) (List.dropWhile_sublist _).length_le

/-- Whether there is nothing but white space. -/
def isBlank (cs : List Char) : Bool := cs.all isSpace

/-- The words of a text, `word` holding the characters of the current one, latest first. -/
def wordsAfter (word : List Char) : List Char → List (List Char)
  | [] => if word.isEmpty then [] else [word.reverse]
  | c :: rest =>
    if isSpace c then
      if word.isEmpty then wordsAfter [] rest else word.reverse :: wordsAfter [] rest
    else wordsAfter (c :: word) rest

/-- The maximal runs of characters that are not white space. -/
def words (cs : List Char) : List (List Char) := wordsAfter [] cs

end Transclusion.Text
