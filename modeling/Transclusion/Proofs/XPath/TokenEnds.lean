import Transclusion.Proofs.Text.Trimming
import Transclusion.XPath.Token
/-!
# Where a token ends

A token is read from the start of a text.  Whatever follows it there, it is read in the same way
before white space (`readToken_before_gap`), if a look past the white space finds the same: before a
parenthesis or `::`, a name is not the test that it is elsewhere (`SeenAlike`).
-/

namespace Transclusion.XPath

open Transclusion.Text

variable {c : Char} {cs name rest rest' : List Char} {token : Token} {operatorAllowed : Bool}

/-- White space comes first in what follows a token, or nothing follows it. -/
def StartsWithGap (rest : List Char) : Prop := ∀ c ∈ rest.head?, isMarkupSpace c = true

/-- Names are tokens of the same kinds before one text and the other. -/
def SeenAlike (rest rest' : List Char) : Prop :=
  ∀ name, tokenOfName name rest = tokenOfName name rest'

/-- What is read from the start of a text is read in the same way before a gap. -/
def ReadsBeforeGap (read : List Char → Except TokenFault (Token × List Char)) (cs : List Char)
    (token : Token) (rest : List Char) : Prop :=
  ∃ text, cs = text ++ rest ∧ ∀ rest', StartsWithGap rest' → SeenAlike rest rest' →
    read (text ++ rest') = .ok (token, rest')

theorem ReadsBeforeGap.of_nothing {read : List Char → Except TokenFault (Token × List Char)}
    (h : ∀ rest', StartsWithGap rest' → read rest' = .ok (token, rest')) :
    ReadsBeforeGap read rest token rest :=
  ⟨[], rfl, fun rest' gap _ => h rest' gap⟩

theorem isMarkupSpace_iff : isMarkupSpace c = true ↔ c = ' ' ∨ c = '\t' ∨ c = '\r' ∨ c = '\n' := by
  simp [isMarkupSpace, or_assoc]

theorem StartsWithGap.cases (gap : StartsWithGap rest) :
    rest = [] ∨ ∃ after, rest = ' ' :: after ∨ rest = '\t' :: after ∨ rest = '\r' :: after
      ∨ rest = '\n' :: after := by
  cases rest with
  | nil => exact .inl rfl
  | cons c after =>
    refine .inr ⟨after, ?_⟩
    obtain rfl | rfl | rfl | rfl := isMarkupSpace_iff.mp (gap c rfl) <;> simp

/-! ### Names -/

theorem isNameChar_of_isNameStart (start : isNameStart c = true) : isNameChar c = true := by
  simp only [isNameStart, Bool.or_eq_true] at start
  rcases start with letter | underscore
  · simp [isNameChar, letter]
  · simp [isNameChar, underscore]

theorem StartsWithGap.isNameChar_eq_false (gap : StartsWithGap rest) :
    ∀ c ∈ rest.head?, isNameChar c = false := by
  intro c first
  obtain rfl | rfl | rfl | rfl := isMarkupSpace_iff.mp (gap c first) <;> decide +kernel

theorem readName?_append (start : isNameStart c = true) (inside : ∀ d ∈ cs, isNameChar d = true)
    (behind : ∀ d ∈ rest.head?, isNameChar d = false) :
    readName? (c :: cs ++ rest) = some (c :: cs, rest) := by
  have named : ∀ d ∈ c :: cs, isNameChar d = true :=
    List.forall_mem_cons.mpr ⟨isNameChar_of_isNameStart start, inside⟩
  obtain ⟨run, left⟩ := takeWhile_dropWhile_of_run named behind
  rw [List.cons_append] at run left ⊢
  rw [readName?, if_pos start, run, left]

/-- A name is read up to the first character that is not one of names. -/
theorem exists_of_readName? (read : readName? (c :: cs) = some (name, rest)) :
    ∃ tail, name = c :: tail ∧ cs = tail ++ rest ∧ (∀ d ∈ rest.head?, isNameChar d = false)
      ∧ ∀ rest', (∀ d ∈ rest'.head?, isNameChar d = false) →
        readName? (c :: (tail ++ rest')) = some (c :: tail, rest') := by
  rw [readName?] at read
  split at read
  case isFalse => cases read
  case isTrue start =>
    have letter := isNameChar_of_isNameStart start
    rw [List.takeWhile_cons_of_pos letter, List.dropWhile_cons_of_pos letter] at read
    cases read
    refine ⟨cs.takeWhile isNameChar, rfl, List.takeWhile_append_dropWhile.symm,
      head?_dropWhile_eq_false, fun rest' behind => ?_⟩
    exact readName?_append start (fun _ => List.mem_takeWhile_imp) behind

theorem readName?_before (read : readName? cs = some (name, rest)) :
    cs = name ++ rest ∧ ∀ rest', (∀ d ∈ rest'.head?, isNameChar d = false) →
      readName? (name ++ rest') = some (name, rest') := by
  cases cs with
  | nil => cases read
  | cons c cs =>
    obtain ⟨tail, rfl, rfl, -, again⟩ := exists_of_readName? read
    exact ⟨rfl, again⟩

/-- A name with white space behind it has no second part. -/
theorem readQualifiedName?_of_gap (read : readName? cs = some (name, rest))
    (gap : StartsWithGap rest) : readQualifiedName? cs = some (name, rest) := by
  rw [readQualifiedName?, read]
  obtain rfl | ⟨after, rfl | rfl | rfl | rfl⟩ := gap.cases <;> rfl

theorem readQualifiedName?_before_gap (read : readQualifiedName? cs = some (name, rest)) :
    cs = name ++ rest ∧ ∀ rest', StartsWithGap rest' →
      readQualifiedName? (name ++ rest') = some (name, rest') := by
  have alone (read : readName? cs = some (name, rest)) :
      cs = name ++ rest ∧ ∀ rest', StartsWithGap rest' →
        readQualifiedName? (name ++ rest') = some (name, rest') := by
    obtain ⟨whole, again⟩ := readName?_before read
    exact ⟨whole, fun rest' gap =>
      readQualifiedName?_of_gap (again rest' gap.isNameChar_eq_false) gap⟩
  -- Without a local part the colon is no part of the name, so that it is the first part alone.
  unfold readQualifiedName? at read
  split at read
  · next first found =>
    split at read
    · next localName after localFound =>
      cases read
      obtain ⟨rfl, again⟩ := readName?_before found
      obtain ⟨rfl, localAgain⟩ := readName?_before localFound
      refine ⟨by simp, fun rest' gap => ?_⟩
      have first' := again (':' :: (localName ++ rest')) (by simp; decide +kernel)
      have second := localAgain rest' gap.isNameChar_eq_false
      rw [List.append_assoc, List.cons_append]
      simp only [readQualifiedName?, first', second]
    · cases read
      exact alone found
  · exact alone read

theorem readNameToken_of_gap (gap : StartsWithGap rest) :
    readNameToken name rest = .ok (tokenOfName name rest, rest) := by
  obtain rfl | ⟨after, rfl | rfl | rfl | rfl⟩ := gap.cases <;> rfl

/-- The second part of a name is read behind its colon. -/
theorem readNameToken_colon {localName : List Char} (read : readName? cs = some (localName, rest)) :
    readNameToken name (':' :: cs) =
      .ok (tokenOfName (name ++ ':' :: localName) rest, rest) := by
  unfold readNameToken
  split
  · next h =>
    cases h
    cases read
  · next h =>
    cases h
    cases read
  · next h =>
    cases h
    rw [read]
  · next h => exact absurd rfl (h cs)

/-- The rest of a name test, function name, node type or axis name. -/
theorem readNameToken_before_gap (read : readNameToken name cs = .ok (token, rest)) :
    ReadsBeforeGap (readNameToken name) cs token rest := by
  have alone (rest : List Char) :
      ReadsBeforeGap (readNameToken name) rest (tokenOfName name rest) rest := by
    refine ⟨[], rfl, fun rest' gap alike => ?_⟩
    rw [alike name]
    exact readNameToken_of_gap gap
  unfold readNameToken at read
  split at read
  · cases read
    exact alone _
  · cases read
    exact ⟨[':', '*'], rfl, fun rest' _ _ => rfl⟩
  · split at read
    · next localName _ found =>
      cases read
      obtain ⟨rfl, again⟩ := readName?_before found
      refine ⟨':' :: localName, rfl, fun rest' gap alike => ?_⟩
      rw [alike]
      exact readNameToken_colon (again rest' gap.isNameChar_eq_false)
    · cases read
  · cases read
    exact alone _

/-! ### Numbers -/

theorem StartsWithGap.isDigit_eq_false (gap : StartsWithGap rest) :
    ∀ c ∈ rest.head?, c.isDigit = false := by
  intro c first
  obtain rfl | rfl | rfl | rfl := isMarkupSpace_iff.mp (gap c first) <;> rfl

/-- The text of a number, which starts with a digit or with the point before one. -/
theorem exists_readNumber (start : c.isDigit = true ∨ c = '.')
    (read : readNumber (c :: cs) = (token, rest)) :
    ∃ text ≠ [], c :: cs = text ++ rest ∧ (∀ d ∈ rest.head?, d.isDigit = false)
      ∧ ∀ rest', StartsWithGap rest' → readNumber (text ++ rest') = (token, rest') := by
  have whole := List.takeWhile_append_dropWhile (p := Char.isDigit) (l := c :: cs)
  have digits : ∀ d ∈ (c :: cs).takeWhile Char.isDigit, d.isDigit = true :=
    fun _ => List.mem_takeWhile_imp
  have stops (ds : List Char) : ∀ d ∈ (ds.dropWhile Char.isDigit).head?, d.isDigit = false :=
    head?_dropWhile_eq_false
  unfold readNumber at read
  split at read
  · next after point =>
    cases read
    have fraction := List.takeWhile_append_dropWhile (p := Char.isDigit) (l := after)
    have digits' : ∀ d ∈ after.takeWhile Char.isDigit, d.isDigit = true :=
      fun _ => List.mem_takeWhile_imp
    generalize (c :: cs).takeWhile Char.isDigit = before at *
    generalize after.takeWhile Char.isDigit = behind at *
    refine ⟨before ++ '.' :: behind, by simp, ?_, stops after, fun rest' gap => ?_⟩
    · rw [List.append_assoc, List.cons_append, fraction, ← point, whole]
    · have point' : ∀ d ∈ ('.' :: (behind ++ rest')).head?, d.isDigit = false := by simp
      obtain ⟨run, left⟩ := takeWhile_dropWhile_of_run digits point'
      obtain ⟨run', left'⟩ := takeWhile_dropWhile_of_run digits' gap.isDigit_eq_false
      rw [List.append_assoc, List.cons_append]
      simp only [readNumber, run, left, run', left']
  · next noPoint =>
    cases read
    refine ⟨(c :: cs).takeWhile Char.isDigit, ?_, whole.symm, stops (c :: cs), fun rest' gap => ?_⟩
    · rcases start with digit | rfl
      · simp [digit]
      · exact absurd rfl (noPoint cs)
    · obtain ⟨run, left⟩ := takeWhile_dropWhile_of_run digits gap.isDigit_eq_false
      rw [readNumber, run, left]
      obtain rfl | ⟨after, rfl | rfl | rfl | rfl⟩ := gap.cases <;> rfl

theorem readNumber_before_gap (start : c.isDigit = true ∨ c = '.')
    (read : readNumber (c :: cs) = (token, rest)) :
    ∃ text, cs = text ++ rest ∧ (∀ d ∈ rest.head?, d.isDigit = false)
      ∧ ∀ rest', StartsWithGap rest' → readNumber (c :: (text ++ rest')) = (token, rest') := by
  obtain ⟨text, nonempty, whole, last, again⟩ := exists_readNumber start read
  cases text with
  | nil => exact absurd rfl nonempty
  | cons d text =>
    cases whole
    exact ⟨text, rfl, last, again⟩

/-! ### Tokens -/

/-- The characters that start a sign and are not one in every place. -/
def signStarts : List Char := ['/', ':', '!', '<', '>', '.', '$', '*']

/-- Other characters start literals, numbers and names. -/
theorem readToken_of_not_sign (notChar : Token.ofChar? c = none) (other : c ∉ signStarts) :
    readToken operatorAllowed c cs =
      if c = '\x22' || c = '\x27' then
        match cs.dropWhile (· ≠ c) with
        | _ :: after => .ok (.literal (String.ofList (cs.takeWhile (· ≠ c))), after)
        | [] => .error ⟨.openLiteral, 0⟩
      else if c.isDigit then .ok (readNumber (c :: cs))
      else
        match readName? (c :: cs) with
        | some (name, rest) =>
          if operatorAllowed then readOperatorName name rest else readNameToken name rest
        | none => .error ⟨.unexpectedCharacter c, 0⟩ := by
  simp only [signStarts, List.mem_cons, List.not_mem_nil, or_false, not_or] at other
  unfold readToken
  simp only [notChar]
  split <;> try simp at other
  exact if_neg (by simp [other])

theorem readToken_literal_before_gap (quote : c = '\x22' ∨ c = '\x27')
    (read : readToken operatorAllowed c cs = .ok (token, rest)) :
    ReadsBeforeGap (readToken operatorAllowed c) cs token rest := by
  have notChar : Token.ofChar? c = none := by rcases quote with rfl | rfl <;> rfl
  have other : c ∉ signStarts := by rcases quote with rfl | rfl <;> decide
  have quote' : (decide (c = '\x22') || decide (c = '\x27')) = true := by simpa using quote
  rw [readToken_of_not_sign notChar other, if_pos quote'] at read
  split at read
  case h_2 => cases read
  case h_1 d _ close =>
    cases read
    have whole := List.takeWhile_append_dropWhile (p := fun d => decide (d ≠ c)) (l := cs)
    have inside : ∀ d ∈ cs.takeWhile (· ≠ c), decide (d ≠ c) = true :=
      fun _ => List.mem_takeWhile_imp
    have stops : ∀ d ∈ (cs.dropWhile (· ≠ c)).head?, decide (d ≠ c) = false :=
      head?_dropWhile_eq_false
    rw [close] at whole stops
    obtain rfl : d = c := by simpa using stops d rfl
    refine ⟨cs.takeWhile (· ≠ d) ++ [d], by simpa using whole.symm, fun rest' _ _ => ?_⟩
    generalize cs.takeWhile (· ≠ d) = body at *
    have closed : ∀ e ∈ (d :: rest').head?, decide (e ≠ d) = false := by simp
    obtain ⟨run, left⟩ := takeWhile_dropWhile_of_run inside closed
    rw [readToken_of_not_sign notChar other, if_pos quote', List.append_assoc,
      List.singleton_append, run, left]

theorem readOperatorName_before (read : readOperatorName name cs = .ok (token, rest)) :
    cs = rest ∧ ∀ rest', readOperatorName name rest' = .ok (token, rest') := by
  unfold readOperatorName at read ⊢
  split at read
  · cases read
    exact ⟨rfl, fun _ => rfl⟩
  · cases read

theorem readToken_before_gap_of_not_sign (notChar : Token.ofChar? c = none)
    (other : c ∉ signStarts) (read : readToken operatorAllowed c cs = .ok (token, rest)) :
    ReadsBeforeGap (readToken operatorAllowed c) cs token rest := by
  by_cases quote : c = '\x22' ∨ c = '\x27'
  · exact readToken_literal_before_gap quote read
  have noQuote : ¬ (decide (c = '\x22') || decide (c = '\x27')) = true := by simpa using quote
  simp only [ReadsBeforeGap, readToken_of_not_sign notChar other, if_neg noQuote] at read ⊢
  by_cases digit : c.isDigit = true
  · simp only [if_pos digit, Except.ok.injEq] at read ⊢
    obtain ⟨text, whole, -, again⟩ := readNumber_before_gap (.inl digit) read
    exact ⟨text, whole, fun rest' gap _ => again rest' gap⟩
  simp only [if_neg digit] at read ⊢
  split at read
  case h_2 => cases read
  case h_1 name after found =>
    obtain ⟨tail, rfl, rfl, last, again⟩ := exists_of_readName? found
    cases operatorAllowed with
    | true =>
      obtain ⟨rfl, anywhere⟩ := readOperatorName_before read
      refine ⟨tail, rfl, fun rest' gap _ => ?_⟩
      rw [again rest' gap.isNameChar_eq_false]
      exact anywhere rest'
    | false =>
      obtain ⟨text, rfl, again'⟩ := readNameToken_before_gap read
      refine ⟨tail ++ text, by simp, fun rest' gap alike => ?_⟩
      -- The first part of the name ends where it did, whether a second part follows it or the gap.
      have last' : ∀ d ∈ (text ++ rest').head?, isNameChar d = false := by
        cases text with
        | nil => exact gap.isNameChar_eq_false
        | cons d text => exact last
      rw [List.append_assoc, again _ last']
      exact again' rest' gap alike

theorem readToken_point {d : Char} (noPoint : d ≠ '.') :
    readToken operatorAllowed '.' (d :: cs) =
      .ok (if d.isDigit then readNumber ('.' :: d :: cs) else (.dot, d :: cs)) := by
  unfold readToken
  by_cases digit : d.isDigit = true
  · simp [Token.ofChar?, noPoint, digit]
  · simp [Token.ofChar?, noPoint, digit]

theorem readToken_before_gap_of_point
    (read : readToken operatorAllowed '.' cs = .ok (token, rest)) :
    ReadsBeforeGap (readToken operatorAllowed '.') cs token rest := by
  -- A point alone stays one before a gap, as a gap starts with neither a point nor a digit.
  have dot (rest : List Char) : ReadsBeforeGap (readToken operatorAllowed '.') rest .dot rest := by
    refine .of_nothing fun rest' gap => ?_
    obtain rfl | ⟨after, rfl | rfl | rfl | rfl⟩ := gap.cases <;> rfl
  cases cs with
  | nil =>
    cases read
    exact dot []
  | cons d cs =>
    by_cases point : d = '.'
    · subst point
      cases read
      exact ⟨['.'], rfl, fun _ _ _ => rfl⟩
    rw [readToken_point point] at read
    by_cases digit : d.isDigit = true
    · rw [if_pos digit, Except.ok.injEq] at read
      obtain ⟨text, whole, last, again⟩ := readNumber_before_gap (.inr rfl) read
      cases text with
      | nil =>
        subst whole
        exact absurd (last d rfl) (by simp [digit])
      | cons d' text =>
        cases whole
        refine ⟨d :: text, rfl, fun rest' gap _ => ?_⟩
        rw [List.cons_append, readToken_point point, if_pos digit]
        exact congrArg Except.ok (again rest' gap)
    · rw [if_neg digit] at read
      cases read
      exact dot _

theorem readToken_before_gap_of_sign (notChar : Token.ofChar? c = none) (sign : c ∈ signStarts)
    (read : readToken operatorAllowed c cs = .ok (token, rest)) :
    ReadsBeforeGap (readToken operatorAllowed c) cs token rest := by
  by_cases point : c = '.'
  · subst point
    exact readToken_before_gap_of_point read
  unfold readToken at read
  simp only [notChar] at read
  split at read
  -- Signs of two characters.
  case h_1 | h_3 | h_4 | h_5 | h_7 | h_9 =>
    cases read
    exact ⟨[_], rfl, fun _ _ _ => rfl⟩
  -- White space does not make one character the first of two.
  case h_2 | h_6 | h_8 =>
    cases read
    refine .of_nothing fun rest' gap => ?_
    obtain rfl | ⟨after, rfl | rfl | rfl | rfl⟩ := gap.cases <;> rfl
  case h_10 =>
    split at read
    case h_2 => cases read
    case h_1 found =>
      cases read
      obtain ⟨rfl, again⟩ := readQualifiedName?_before_gap found
      refine ⟨_, rfl, fun rest' gap _ => ?_⟩
      simp only [readToken, notChar, again rest' gap]
  case h_11 =>
    cases read
    exact .of_nothing fun _ _ => rfl
  -- What is left is the first character of two without the second.
  case h_12 =>
    simp only [signStarts, List.mem_cons, List.not_mem_nil, or_false] at sign
    rcases sign with rfl | rfl | rfl | rfl | rfl | rfl | rfl | rfl
    all_goals contradiction

/-- **The end of a token.** Whatever follows a token, the token is read in the same way before white
space, if a look past it finds the same. -/
theorem readToken_before_gap (read : readToken operatorAllowed c cs = .ok (token, rest)) :
    ReadsBeforeGap (readToken operatorAllowed c) cs token rest := by
  cases simple : Token.ofChar? c with
  | some sign =>
    have always (cs : List Char) : readToken operatorAllowed c cs = .ok (sign, cs) := by
      unfold readToken
      rw [simple]
    rw [always] at read
    cases read
    exact .of_nothing fun rest' _ => always rest'
  | none =>
    by_cases sign : c ∈ signStarts
    · exact readToken_before_gap_of_sign simple sign read
    · exact readToken_before_gap_of_not_sign simple sign read

/-! ### What is seen past white space -/

theorem exists_of_readToken_colon (read : readToken operatorAllowed ':' cs = .ok (token, rest)) :
    cs = ':' :: rest := by
  cases cs with
  | nil => cases read
  | cons d cs =>
    by_cases colon : d = ':'
    · subst colon
      cases read
      rfl
    · have none : readName? (':' :: d :: cs) = none := rfl
      simp [readToken, Token.ofChar?, colon, none] at read

theorem tokenOfName_cons_of_space (space : isMarkupSpace c = true) :
    tokenOfName name (c :: cs) = tokenOfName name cs := by
  rw [tokenOfName, tokenOfName, List.dropWhile_cons_of_pos space]

/-- A name does not look further than the next token. -/
theorem tokenOfName_token (other : isMarkupSpace c = false)
    (read : readToken operatorAllowed c (cs ++ rest) = .ok (token, rest)) :
    tokenOfName name (c :: (cs ++ rest)) = tokenOfName name (c :: cs) := by
  have kept (ds : List Char) : (c :: ds).dropWhile isMarkupSpace = c :: ds :=
    List.dropWhile_cons_of_neg (by simp [other])
  by_cases colon : c = ':'
  · subst colon
    have whole : cs ++ rest = [':'] ++ rest := exists_of_readToken_colon read
    cases List.append_cancel_right whole
    rfl
  by_cases paren : c = '('
  · subst paren
    rfl
  · unfold tokenOfName
    simp [kept, colon, paren]

end Transclusion.XPath
