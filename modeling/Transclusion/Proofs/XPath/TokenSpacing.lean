import Transclusion.Proofs.Outcome
import Transclusion.Proofs.XPath.TokenEnds
/-!
# White space between tokens

The tokens of an expression come from slices of it, its lexemes.  Between the lexemes there is white
space, and they can be written with other white space between them.

`Scan` is the way from the start of a text to its end, one character of white space or one lexeme at
a time, and it is what `tokenize` goes (`tokenizeUpTo_eq_ok_iff`).  A scan of the lexemes with other
gaps between them makes the same steps from one lexeme to the next (`Scan.scansAs_withGaps`): what a
lexeme is read as depends on the token before it, which stays, and on what is seen past the white
space behind it, which is the start of the next lexeme.

* `tokens_independent_of_gaps`: where the lexemes are, and that they can be spaced in any way.
-/

namespace Transclusion.XPath

open Transclusion.Text

/-- A token with the slice that it is read from. -/
structure Lexeme extends PlacedToken where
  text : List Char

namespace Lexeme

/-- The number of characters up to the end of the slice. -/
def stop (lexeme : Lexeme) : Nat := lexeme.offset + lexeme.text.length

/-- The slice stands at the offset, and reading the source from there gives the token and leaves
what is behind the slice. -/
def StandsIn (source : List Char) (operatorAllowed : Bool) (lexeme : Lexeme) : Prop :=
  ∃ c tail rest, lexeme.text = c :: tail ∧ source.drop lexeme.offset = lexeme.text ++ rest
    ∧ readToken operatorAllowed c (tail ++ rest) = .ok (lexeme.token, rest)

end Lexeme

/-- Whether an operator can stand behind lexemes, the last of which decides. -/
def operatorBehind (start : Bool) (lexemes : List Lexeme) : Bool :=
  (lexemes.getLast?.map (·.token.endsOperand)).getD start

/-- Texts one behind the other, with a gap behind each as long as there are gaps. -/
def withGaps : List (List Char) → List (List Char) → List Char
  | [], _ => []
  | text :: texts, [] => text ++ withGaps texts []
  | text :: texts, gap :: gaps => text ++ (gap ++ withGaps texts gaps)

/-- The lexemes of a text that starts at an offset. -/
inductive Scan : Bool → Nat → List Char → List Lexeme → Prop
  | done {operatorAllowed offset} : Scan operatorAllowed offset [] []
  | space {operatorAllowed offset c cs lexemes} (space : isMarkupSpace c = true)
      (later : Scan operatorAllowed (offset + 1) cs lexemes) :
      Scan operatorAllowed offset (c :: cs) lexemes
  | lexeme {operatorAllowed offset c tail rest token lexemes} (other : isMarkupSpace c = false)
      (read : readToken operatorAllowed c (tail ++ rest) = .ok (token, rest))
      (later : Scan token.endsOperand (offset + (tail.length + 1)) rest lexemes) :
      Scan operatorAllowed offset (c :: (tail ++ rest)) (⟨⟨token, offset⟩, c :: tail⟩ :: lexemes)

variable {source cs cs' gap : List Char} {operatorAllowed : Bool} {offset offset' count p : Nat}
  {lexemes lexemes' : List Lexeme} {lexeme : Lexeme} {tokens : List PlacedToken} {c : Char}

/-! ### Scans and tokens -/

theorem scan_of_tokenizeUpTo (enough : cs.length ≤ count)
    (read : tokenizeUpTo count operatorAllowed offset cs = .ok tokens) :
    ∃ lexemes, Scan operatorAllowed offset cs lexemes ∧ lexemes.map (·.toPlacedToken) = tokens := by
  -- Each token takes a character at least, so a count of the length is enough.
  induction count generalizing operatorAllowed offset cs tokens with
  | zero =>
    obtain rfl := List.length_eq_zero_iff.mp (Nat.le_zero.mp enough)
    cases read
    exact ⟨[], .done, rfl⟩
  | succ count ih =>
    cases cs with
    | nil =>
      cases read
      exact ⟨[], .done, rfl⟩
    | cons c cs =>
      have enough' : cs.length ≤ count := Nat.le_of_succ_le_succ enough
      rw [tokenizeUpTo] at read
      by_cases space : isMarkupSpace c = true
      · rw [if_pos space] at read
        obtain ⟨lexemes, scan, same⟩ := ih enough' read
        exact ⟨lexemes, .space space scan, same⟩
      · rw [if_neg space] at read
        split at read
        case h_1 => cases read
        case h_2 token after found =>
          obtain ⟨later, laterRead, read⟩ := bind_eq_ok_iff.mp read
          cases read
          obtain ⟨tail, rfl, -⟩ := readToken_before_gap found
          have next : offset + (1 + (tail ++ after).length - after.length)
              = offset + (tail.length + 1) := by
            rw [List.length_append]
            omega
          rw [next] at laterRead
          have enough'' : after.length ≤ count := by
            rw [List.length_append] at enough'
            omega
          obtain ⟨lexemes, scan, rfl⟩ := ih enough'' laterRead
          exact ⟨_, .lexeme (by simpa using space) found scan, rfl⟩

theorem Scan.tokenizeUpTo_eq (scan : Scan operatorAllowed offset cs lexemes)
    (enough : cs.length ≤ count) :
    tokenizeUpTo count operatorAllowed offset cs = .ok (lexemes.map (·.toPlacedToken)) := by
  induction scan generalizing count with
  | done => cases count <;> rfl
  | space space later ih =>
    obtain ⟨count, rfl⟩ := Nat.exists_eq_add_of_le' (Nat.one_le_of_lt enough)
    rw [tokenizeUpTo, if_pos space]
    exact ih (Nat.le_of_succ_le_succ enough)
  | @lexeme operatorAllowed offset c tail rest token lexemes other read later ih =>
    obtain ⟨count, rfl⟩ := Nat.exists_eq_add_of_le' (Nat.one_le_of_lt enough)
    have next : offset + (1 + (tail ++ rest).length - rest.length)
        = offset + (tail.length + 1) := by
      rw [List.length_append]
      omega
    have enough' : rest.length ≤ count := by
      rw [List.length_cons, List.length_append] at enough
      omega
    rw [tokenizeUpTo, if_neg (by simp [other])]
    simp only [read, next, ih enough']
    rfl

/-- Scans are what reading the tokens of a text is. -/
theorem tokenizeUpTo_eq_ok_iff (enough : cs.length ≤ count) :
    tokenizeUpTo count operatorAllowed offset cs = .ok tokens ↔
      ∃ lexemes, Scan operatorAllowed offset cs lexemes
        ∧ lexemes.map (·.toPlacedToken) = tokens := by
  refine ⟨scan_of_tokenizeUpTo enough, ?_⟩
  rintro ⟨lexemes, scan, rfl⟩
  exact scan.tokenizeUpTo_eq enough

/-! ### Where the lexemes are -/

theorem drop_behind (text : List Char) (here : source.drop offset = text ++ cs) :
    source.drop (offset + text.length) = cs := by
  rw [← List.drop_drop, here, List.drop_left]

namespace Scan

theorem offset_le (scan : Scan operatorAllowed offset cs lexemes) :
    ∀ lexeme ∈ lexemes, offset ≤ lexeme.offset := by
  induction scan with
  | done => simp
  | space _ _ ih => exact fun lexeme mem => Nat.le_of_succ_le (ih lexeme mem)
  | lexeme _ _ _ ih =>
    refine List.forall_mem_cons.mpr ⟨Nat.le_refl _, fun lexeme mem => ?_⟩
    exact Nat.le_of_add_right_le (ih lexeme mem)

theorem text_ne_nil (scan : Scan operatorAllowed offset cs lexemes) :
    ∀ lexeme ∈ lexemes, lexeme.text ≠ [] := by
  induction scan with
  | done => simp
  | space _ _ ih => exact ih
  | lexeme _ _ _ ih => exact List.forall_mem_cons.mpr ⟨List.cons_ne_nil _ _, ih⟩

/-- Each lexeme ends before the next. -/
theorem pairwise_stop_le (scan : Scan operatorAllowed offset cs lexemes) :
    lexemes.Pairwise (fun lexeme next => lexeme.stop ≤ next.offset) := by
  induction scan with
  | done => exact .nil
  | space _ _ ih => exact ih
  | lexeme _ _ later ih => exact .cons later.offset_le ih

theorem pairwise_offset_lt (scan : Scan operatorAllowed offset cs lexemes) :
    lexemes.Pairwise (fun lexeme next => lexeme.offset < next.offset) := by
  refine scan.pairwise_stop_le.imp_of_mem fun {lexeme next} mem _ before => ?_
  have nonempty := List.length_pos_iff.mpr (scan.text_ne_nil lexeme mem)
  unfold Lexeme.stop at before
  omega

/-- Each token is read from where it is, and from its lexeme. -/
theorem standsIn (scan : Scan operatorAllowed offset cs lexemes) (here : source.drop offset = cs)
    {before later : List Lexeme} (split : lexemes = before ++ lexeme :: later) :
    lexeme.StandsIn source (operatorBehind operatorAllowed before) := by
  induction scan generalizing before with
  | done => simp at split
  | @space _ _ c _ _ _ _ ih => exact ih (drop_behind [c] here) split
  | @lexeme operatorAllowed offset c tail rest token lexemes _ read _ ih =>
    cases before with
    | nil =>
      cases split
      exact ⟨c, tail, rest, rfl, here, read⟩
    | cons first before =>
      cases split
      have decided : operatorBehind operatorAllowed (⟨⟨token, offset⟩, c :: tail⟩ :: before)
          = operatorBehind token.endsOperand before := by
        unfold operatorBehind
        rw [List.getLast?_cons]
        cases before.getLast? <;> rfl
      rw [decided]
      exact ih (drop_behind (c :: tail) here) rfl

/-- What is outside of the lexemes is white space. -/
theorem isMarkupSpace_of_outside (scan : Scan operatorAllowed offset cs lexemes)
    (here : source.drop offset = cs) (behind : offset ≤ p) (at_ : source[p]? = some c)
    (outside : ∀ lexeme ∈ lexemes, ¬ (lexeme.offset ≤ p ∧ p < lexeme.stop)) :
    isMarkupSpace c = true := by
  induction scan with
  | @done _ offset =>
    have past : source.length ≤ offset := List.drop_eq_nil_iff.mp here
    rw [List.getElem?_eq_none (by omega)] at at_
    cases at_
  | @space _ offset d cs lexemes space _ ih =>
    by_cases first : p = offset
    · subst first
      rw [← List.head?_drop, here] at at_
      cases at_
      exact space
    · exact ih (drop_behind [d] here) (by omega) outside
  | @lexeme _ offset d tail rest token lexemes _ _ _ ih =>
    obtain ⟨notHere, notLater⟩ := List.forall_mem_cons.mp outside
    refine ih (drop_behind (d :: tail) here) ?_ notLater
    by_contra inside
    exact notHere ⟨behind, by simp [Lexeme.stop]; omega⟩

/-! ### Other gaps -/

/-- White space does not change what a text is scanned as. -/
theorem behind_spaces (spaces : ∀ c ∈ gap, isMarkupSpace c = true)
    (scan : Scan operatorAllowed (offset + gap.length) cs lexemes) :
    Scan operatorAllowed offset (gap ++ cs) lexemes := by
  induction gap generalizing offset with
  | nil => exact scan
  | cons c gap ih =>
    refine .space (spaces c (by simp)) (ih (fun d mem => spaces d (by simp [mem])) ?_)
    rw [List.length_cons] at scan
    rwa [Nat.add_right_comm]

/-- A name sees no further than the first lexeme. -/
theorem tokenOfName_eq (scan : Scan operatorAllowed offset cs lexemes) (name : List Char) :
    tokenOfName name cs = tokenOfName name ((lexemes.map (·.text)).headD []) := by
  induction scan with
  | done => rfl
  | space space _ ih => rw [tokenOfName_cons_of_space space, ih]
  | lexeme other read _ _ => exact tokenOfName_token other read

theorem seenAlike {operatorAllowed' : Bool} (scan : Scan operatorAllowed offset cs lexemes)
    (scan' : Scan operatorAllowed' offset' cs' lexemes')
    (same : lexemes.map (·.text) = lexemes'.map (·.text)) : SeenAlike cs cs' := by
  intro name
  rw [scan.tokenOfName_eq, scan'.tokenOfName_eq, same]

end Scan

/-- Wherever a text starts, its lexemes have the same slices and are the same tokens as these. -/
def ScansAs (operatorAllowed : Bool) (cs : List Char) (lexemes : List Lexeme) : Prop :=
  ∀ offset, ∃ lexemes', Scan operatorAllowed offset cs lexemes'
    ∧ lexemes'.map (·.text) = lexemes.map (·.text)
    ∧ lexemes'.map (·.token) = lexemes.map (·.token)

/-- A lexeme in front of a text that is not read on with it. -/
theorem ScansAs.cons {tail rest : List Char} {token : Token} (other : isMarkupSpace c = false)
    (read : readToken operatorAllowed c (tail ++ rest) = .ok (token, rest))
    (later : Scan token.endsOperand offset' rest lexemes) (gap : StartsWithGap cs)
    (behind : ScansAs token.endsOperand cs lexemes) (offset : Nat) :
    ScansAs operatorAllowed (c :: (tail ++ cs)) (⟨⟨token, offset⟩, c :: tail⟩ :: lexemes) := by
  intro offset
  obtain ⟨lexemes', scan, texts, tokens⟩ := behind (offset + (tail.length + 1))
  obtain ⟨tail', whole, again⟩ := readToken_before_gap read
  cases List.append_cancel_right whole
  have read' := again cs gap (later.seenAlike scan texts.symm)
  refine ⟨⟨⟨token, offset⟩, c :: tail⟩ :: lexemes', .lexeme other read' scan, ?_, ?_⟩
  · rw [List.map_cons, List.map_cons, texts]
  · rw [List.map_cons, List.map_cons, tokens]

theorem ScansAs.behind_spaces (spaces : ∀ c ∈ gap, isMarkupSpace c = true)
    (scans : ScansAs operatorAllowed cs lexemes) :
    ScansAs operatorAllowed (gap ++ cs) lexemes := by
  intro offset
  obtain ⟨lexemes', scan, same⟩ := scans (offset + gap.length)
  exact ⟨lexemes', scan.behind_spaces spaces, same⟩

/-- The lexemes are the same tokens with any white space before and between them. -/
theorem Scan.scansAs_withGaps (scan : Scan operatorAllowed offset cs lexemes) {lead : List Char}
    {gaps : List (List Char)} (leading : ∀ c ∈ lead, isMarkupSpace c = true)
    (between : ∀ gap ∈ gaps, gap ≠ [] ∧ ∀ c ∈ gap, isMarkupSpace c = true)
    (enough : lexemes.length ≤ gaps.length + 1) :
    ScansAs operatorAllowed (lead ++ withGaps (lexemes.map (·.text)) gaps) lexemes := by
  induction scan generalizing lead gaps with
  | done => exact .behind_spaces leading fun offset => ⟨[], .done, rfl, rfl⟩
  | space _ _ ih => exact ih leading between enough
  | @lexeme _ offset c tail rest token lexemes other read later ih =>
    refine .behind_spaces leading ?_
    cases gaps with
    | nil =>
      -- Without a gap this is the last one.
      obtain rfl : lexemes = [] := by simpa using enough
      have none : StartsWithGap [] := by simp [StartsWithGap]
      exact .cons other read later none (fun offset => ⟨[], .done, rfl, rfl⟩) offset
    | cons gap gaps =>
      obtain ⟨⟨nonempty, spaces⟩, between'⟩ := List.forall_mem_cons.mp between
      obtain ⟨d, gap, rfl⟩ := List.exists_cons_of_ne_nil nonempty
      have space : StartsWithGap (d :: gap ++ withGaps (lexemes.map (·.text)) gaps) := by
        simpa [StartsWithGap] using spaces d
      exact .cons other read later space (ih spaces between' (by simpa using enough)) offset

/-- **Tokens do not depend on the white space between them.** Where the tokens of an expression are
read, they are read one behind the other from slices of it that have nothing but white space
outside of them; and the slices, with any white space between them and around them, are read as
the same tokens. -/
theorem tokens_independent_of_gaps (read : tokenize source = .ok tokens) :
    ∃ lexemes : List Lexeme, lexemes.map (·.toPlacedToken) = tokens
      ∧ tokens.Pairwise (fun token next => token.offset < next.offset)
      ∧ (∀ before lexeme later, lexemes = before ++ lexeme :: later →
          lexeme.StandsIn source (operatorBehind false before))
      ∧ lexemes.Pairwise (fun lexeme next => lexeme.stop ≤ next.offset)
      ∧ (∀ p c, source[p]? = some c →
          (∀ lexeme ∈ lexemes, ¬ (lexeme.offset ≤ p ∧ p < lexeme.stop)) →
          c = ' ' ∨ c = '\t' ∨ c = '\r' ∨ c = '\n')
      ∧ ∀ lead gaps, (∀ c ∈ lead, isMarkupSpace c = true) →
          (∀ gap ∈ gaps, gap ≠ [] ∧ ∀ c ∈ gap, isMarkupSpace c = true) →
          lexemes.length ≤ gaps.length + 1 →
          ∃ tokens', tokenize (lead ++ withGaps (lexemes.map (·.text)) gaps) = .ok tokens'
            ∧ tokens'.map (·.token) = tokens.map (·.token) := by
  obtain ⟨lexemes, scan, rfl⟩ := (tokenizeUpTo_eq_ok_iff (Nat.le_refl _)).mp read
  refine ⟨lexemes, rfl, ?_, ?_, scan.pairwise_stop_le, ?_, ?_⟩
  · exact List.pairwise_map.mpr scan.pairwise_offset_lt
  · intro before lexeme later split
    exact scan.standsIn rfl split
  · intro p c at_ outside
    exact isMarkupSpace_iff.mp (scan.isMarkupSpace_of_outside rfl (Nat.zero_le p) at_ outside)
  · intro lead gaps leading between enough
    obtain ⟨lexemes', scan', -, same⟩ := scan.scansAs_withGaps leading between enough 0
    refine ⟨_, (tokenizeUpTo_eq_ok_iff (Nat.le_refl _)).mpr ⟨lexemes', scan', rfl⟩, ?_⟩
    rw [List.map_map, List.map_map]
    exact same

/-- A name is an operator behind another, and a node type before a parenthesis, also on other lines
than these. -/
theorem tokens_independent_of_gaps_lines :
    ∃ lexemes : List Lexeme,
      lexemes.map (·.toPlacedToken) = [⟨.nameTest "div", 0⟩, ⟨.div, 4⟩, ⟨.nodeType .text, 8⟩,
        ⟨.openParen, 12⟩, ⟨.closeParen, 13⟩]
      ∧ ∃ tokens',
        tokenize (withGaps (lexemes.map (·.text)) (List.replicate 4 ['\n'])) = .ok tokens'
        ∧ tokens'.map (·.token) =
          [.nameTest "div", .div, .nodeType .text, .openParen, .closeParen] := by
  obtain ⟨lexemes, same, -, -, -, -, spaced⟩ := tokens_independent_of_gaps
    (show tokenize "div div text()".toList = .ok _ from rfl)
  have count : lexemes.length = 5 := by
    rw [← List.length_map (f := (·.toPlacedToken)), same]
    rfl
  refine ⟨lexemes, same, ?_⟩
  exact spaced [] (List.replicate 4 ['\n']) (by simp) (by simp [isMarkupSpace]) (by simp [count])

end Transclusion.XPath
