import Transclusion.Fragment.Search
import Transclusion.Proofs.Fragment.IntegrityItems
import Transclusion.Proofs.Text.Indices
/-!
# The grammar of searches

The data of the scheme `search` gives the ends of a block by anchors, each with an option, and items
that follow them (`WritesEnd`, `WritesLast`, `WritesItems`).  What is written by the grammar is
read as it was meant, with one exception: a comma may stand without an end, but not with items
behind it (`Search.HasOpenComma`), which are then taken for an anchor.

What is left to read is always trimmed, so each part is read from the trimmed text of the part
and what follows it, and leaves the latter trimmed.

* `Anchor.readEnd_trim`, `Search.readStop_trim`, `Search.readItems_trim`: what is read of each part.
* `Search.reads_grammar`: what is read of the whole data.
-/

namespace Transclusion

open Text

/-! ### The grammar -/

/-- The count of an anchor, which may be left out. -/
inductive WritesCount : List Char → Nat → Prop
  | one : WritesCount [] 1
  | given {digits : List Char} {n : Nat} (written : WritesIndex digits n) (positive : 1 ≤ n) :
      WritesCount digits n

/-- What may stand around the text of an anchor. -/
structure IsDelimiter (c : Char) : Prop where
  noDigit : c.isDigit = false
  noComma : c ≠ ','
  noSemicolon : c ≠ ';'
  noSpace : isSpace c = false

/-- An anchor and the white space behind it. -/
inductive WritesAnchor : List Char → Anchor → Prop
  | intro {digits text behind : List Char} {count : Nat} {delimiter : Char}
      (counted : WritesCount digits count) (delimits : IsDelimiter delimiter) (some_ : text ≠ [])
      (inside : delimiter ∉ text) (behindSpaces : ∀ c ∈ behind, isSpace c = true) :
      WritesAnchor (digits ++ delimiter :: (text ++ delimiter :: behind)) ⟨count, text⟩

/-- The word for a boundary. -/
def Boundary.word : SearchEnd → Boundary → String
  | .start, inclusive => "from"
  | .start, exclusive => "after"
  | .stop, inclusive => "to"
  | .stop, exclusive => "before"
  | _, trimmed => "trim"

/-- The option of an end, which may be left out. -/
inductive WritesOption (which : SearchEnd) : List Char → Boundary → Prop
  | absent : WritesOption which [] .inclusive
  | given {gap behind : List Char} {boundary : Boundary}
      (gapSpaces : ∀ c ∈ gap, isSpace c = true) (behindSpaces : ∀ c ∈ behind, isSpace c = true) :
      WritesOption which (';' :: (gap ++ (boundary.word which).toList ++ behind)) boundary

/-- An end of the block, which may be left open. -/
inductive WritesEnd (which : SearchEnd) : List Char → Option Anchor → Boundary → Prop
  | open_ : WritesEnd which [] none .inclusive
  | given {cs cs' : List Char} {anchor : Anchor} {boundary : Boundary}
      (anchored : WritesAnchor cs anchor) (option : WritesOption which cs' boundary) :
      WritesEnd which (cs ++ cs') (some anchor) boundary

/-- A comma and the last line of the block, either of which may be left out. -/
inductive WritesLast : List Char → Option Anchor → Boundary → Prop
  | absent : WritesLast [] none .inclusive
  | comma {gap cs : List Char} {anchor : Option Anchor} {boundary : Boundary}
      (gapSpaces : ∀ c ∈ gap, isSpace c = true) (ends : WritesEnd .stop cs anchor boundary) :
      WritesLast (',' :: (gap ++ cs)) anchor boundary

/-- The encoding of a demand, which may be left out. -/
inductive WritesCharset : List Char → Prop
  | absent : WritesCharset []
  | given {charset : List Char} (noSemicolon : ';' ∉ charset) : WritesCharset (',' :: charset)

/-- An item with the white space around it: whether it is `strip`, and what a check is given. -/
inductive WritesItem : List Char → Bool → List (List Char) → Prop
  | strip {gap behind : List Char} (gapSpaces : ∀ c ∈ gap, isSpace c = true)
      (behindSpaces : ∀ c ∈ behind, isSpace c = true) :
      WritesItem (gap ++ "strip".toList ++ behind) true []
  | check {gap stated behind charset : List Char} {d : Demand}
      (gapSpaces : ∀ c ∈ gap, isSpace c = true) (states : States stated d)
      (behindSpaces : ∀ c ∈ behind, isSpace c = true) (named : WritesCharset charset) :
      WritesItem (gap ++ stated ++ behind ++ charset) false [stated ++ charset]

/-- Items, each behind a semicolon. -/
inductive WritesItems : List Char → Bool → List (List Char) → Prop
  | nothing : WritesItems [] false []
  | cons {piece rest : List Char} {strip others : Bool} {items items' : List (List Char)}
      (item : WritesItem piece strip items) (behind : WritesItems rest others items') :
      WritesItems (';' :: (piece ++ rest)) (strip || others) (items ++ items')

/-- Items stand behind a comma that no end follows. -/
def Search.HasOpenComma (last : List Char) (anchor : Option Anchor) (items : List Char) : Prop :=
  last ≠ [] ∧ anchor = none ∧ items ≠ []

variable {which : SearchEnd} {cs cs' rest : List Char} {anchor : Anchor} {boundary : Boundary}

/-! ### Anchors -/

theorem WritesCount.decimal {digits : List Char} {n : Nat} (h : WritesCount digits n) :
    ∀ c ∈ digits, c.isDigit = true := by
  cases h with
  | one => exact nofun
  | given written _ => exact written.decimal

/-- An anchor starts with neither white space nor a comma. -/
theorem WritesAnchor.first (h : WritesAnchor cs anchor) :
    ∃ c rest, cs = c :: rest ∧ isSpace c = false ∧ c ≠ ',' := by
  obtain ⟨counted, delimits, some_, inside, behindSpaces⟩ := h
  cases counted with
  | one => exact ⟨_, _, rfl, delimits.noSpace, delimits.noComma⟩
  | given written positive =>
    obtain ⟨d, ds, rfl⟩ := List.exists_cons_of_ne_nil written.some_
    have digit : d.isDigit = true := written.decimal d List.mem_cons_self
    exact ⟨d, _, rfl, isSpace_of_isDigit digit, ne_of_isDigit digit (by decide)⟩

namespace Anchor

theorem readCount_of_written {digits : List Char} {n : Nat} (h : WritesCount digits n) :
    readCount digits = .ok n := by
  cases h with
  | one => rfl
  | given written positive =>
    rw [readCount, if_neg (List.isEmpty_iff.not.mpr written.some_),
      readIndex?_eq_some_iff.mpr written]
    cases n with
    | zero => cases positive
    | succ n => rfl

theorem read_append {digits text : List Char} {count : Nat} {delimiter : Char}
    (counted : WritesCount digits count) (noDigit : delimiter.isDigit = false) (some_ : text ≠ [])
    (inside : delimiter ∉ text) (rest : List Char) :
    read (digits ++ delimiter :: (text ++ delimiter :: rest))
      = .ok (⟨count, text⟩, trimStart rest) := by
  have ends : ∀ c ∈ (delimiter :: (text ++ delimiter :: rest)).head?, c.isDigit = false :=
    fun c mem => by cases mem; exact noDigit
  obtain ⟨taken, left⟩ := takeWhile_dropWhile_of_run counted.decimal ends
  have found : readText (delimiter :: (text ++ delimiter :: rest))
      = .ok (text, trimStart rest) := by
    obtain ⟨t, ts, rfl⟩ := List.exists_cons_of_ne_nil some_
    rw [readText, cutAt_append inside]
  rw [read, taken, left, readCount_of_written counted, found]
  rfl

/-- An anchor is read up to the white space behind it. -/
theorem read_trim (h : WritesAnchor cs anchor) (rest : List Char) :
    read (trim (cs ++ rest)) = .ok (anchor, trim rest) := by
  obtain ⟨c, more, start, noSpace, -⟩ := h.first
  have kept : trim (cs ++ rest) = trimEnd (cs ++ rest) := by
    rw [start, List.cons_append, trim, trimStart_cons noSpace]
  obtain @⟨digits, text, behind, count, delimiter, counted, delimits, some_, inside,
    behindSpaces⟩ := h
  -- trimming goes no further than the last delimiter, which is no white space
  have ends : trimEnd (digits ++ delimiter :: (text ++ delimiter :: behind) ++ rest)
      = digits ++ delimiter :: (text ++ delimiter :: trimEnd (behind ++ rest)) := by
    have last := trimEnd_append_cons delimits.noSpace (digits ++ delimiter :: text) (behind ++ rest)
    simpa using last
  rw [kept, ends, read_append counted delimits.noDigit some_ inside, trimStart_trimEnd,
    trim_append behindSpaces]

end Anchor

/-! ### Options -/

/-- The letters that items start with. -/
def itemStarts : List Char := ['s', 'l', 'm']

theorem isSpace_of_starts {c : Char} (first : c ∈ itemStarts) : isSpace c = false := by
  have each : ∀ c ∈ itemStarts, isSpace c = false := List.all_iff_forall_prop.mp (by decide)
  exact each c first

/-- What may follow an end, its white space removed: nothing, a comma, or an item. -/
inductive FollowsEnd : List Char → Prop
  | nothing : FollowsEnd []
  | comma (rest : List Char) : FollowsEnd (',' :: rest)
  | item {gap rest : List Char} {c : Char} (gapSpaces : ∀ c ∈ gap, isSpace c = true)
      (first : c ∈ itemStarts) : FollowsEnd (';' :: (gap ++ c :: rest))

namespace Boundary

/-- No option begins like an item. -/
theorem findSome?_of_first {c : Char} (first : c ∈ itemStarts) (which : SearchEnd)
    (rest : List Char) : (options which).findSome? (fun (name, boundary) =>
      (readName? name (c :: rest)).map ((boundary, ·))) = none := by
  simp only [itemStarts, List.mem_cons, List.not_mem_nil, or_false] at first
  obtain rfl | rfl | rfl := first <;> cases which <;> rfl

theorem read_of_followsEnd (follows : FollowsEnd rest) (which : SearchEnd) :
    read which rest = (.inclusive, rest) := by
  cases follows with
  | nothing => rfl
  | comma => rfl
  | @item gap rest c gapSpaces first =>
    rw [read]
    dsimp only
    rw [trimStart_append gapSpaces, trimStart_cons (isSpace_of_starts first),
      findSome?_of_first first]
    rfl

theorem readName?_append (name : String) (follows : FollowsEnd (trimStart rest)) :
    readName? name (name.toList ++ rest) = some (trimStart rest) := by
  have start : name.toList.isPrefixOf? (name.toList ++ rest) = some rest :=
    List.isPrefixOf?_eq_some_iff_append_eq.mpr rfl
  rw [readName?, start, Option.bind_eq_bind, Option.bind_some]
  generalize trimStart rest = left at follows
  cases follows <;> rfl

/-- The word for a boundary is found among the options. -/
theorem findSome?_of_word (which : SearchEnd) (boundary : Boundary)
    (follows : FollowsEnd (trimStart rest)) :
    (options which).findSome? (fun (name, b) =>
      (readName? name ((boundary.word which).toList ++ rest)).map ((b, ·)))
        = some (boundary, trimStart rest) := by
  have found := readName?_append (boundary.word which) follows
  -- the words of an end are no beginnings of each other, so the ones before it are passed over
  cases which <;> cases boundary <;>
    simp only [word, options, List.findSome?_cons] at found ⊢ <;> rw [found] <;> rfl

/-- An option is read up to the white space behind it. -/
theorem read_trim (h : WritesOption which cs boundary) (follows : FollowsEnd (trim rest)) :
    read which (trim (cs ++ rest)) = (boundary, trim rest) := by
  cases h with
  | absent => exact read_of_followsEnd follows which
  | @given gap behind _ gapSpaces behindSpaces =>
    have noSpace : ∀ c ∈ (boundary.word which).toList, isSpace c = false := by
      cases which <;> cases boundary <;> exact List.all_iff_forall_prop.mp (by decide)
    have some_ : (boundary.word which).toList ≠ [] := by
      cases which <;> cases boundary <;> exact List.cons_ne_nil _ _
    have left : trimStart (trimEnd (behind ++ rest)) = trim rest := by
      rw [trimStart_trimEnd, trim_append behindSpaces]
    have found := findSome?_of_word which boundary (left.symm ▸ follows)
    have start : trim (';' :: (gap ++ (boundary.word which).toList ++ behind) ++ rest)
        = ';' :: trimEnd (gap ++ ((boundary.word which).toList ++ (behind ++ rest))) := by
      rw [List.cons_append, trim_cons (by decide), List.append_assoc, List.append_assoc]
    rw [start, read]
    dsimp only
    rw [trimStart_trimEnd, trim_append gapSpaces, trim_append_of_some some_ noSpace, found, left]
    rfl

end Boundary

/-- An end that is given is read up to what follows it. -/
theorem Anchor.readEnd_trim {anchor : Anchor} (anchored : WritesAnchor cs anchor)
    (option : WritesOption which cs' boundary) (follows : FollowsEnd (trim rest)) :
    Anchor.readEnd which (trim (cs ++ cs' ++ rest)) = .ok ((some anchor, boundary), trim rest) := by
  rw [readEnd, List.append_assoc, read_trim anchored]
  show Except.ok ((some anchor, (Boundary.read which (trim (cs' ++ rest))).1),
    (Boundary.read which (trim (cs' ++ rest))).2) = _
  rw [Boundary.read_trim option follows]

/-! ### Items -/

/-- The check with more items. -/
def IntegrityCheck.withItems (check : IntegrityCheck) (items : List (List Char)) : IntegrityCheck :=
  items.foldl (fun check item => (check.withItem? item).getD check) check

variable {strip : Bool} {items : List (List Char)} {piece : List Char}

theorem States.first {stated : List Char} {d : Demand} (h : States stated d) :
    ∃ c rest, stated = c :: rest ∧ c ∈ itemStarts := by
  cases h with
  | length => exact ⟨'l', _, rfl, by decide⟩
  | md5 => exact ⟨'m', _, rfl, by decide⟩

theorem States.noSemicolon {stated : List Char} {d : Demand} (h : States stated d) :
    ';' ∉ stated := by
  have names : ∀ name ∈ ["length=", "md5="], ∀ c ∈ name.toList, c ≠ ';' := by
    simp only [List.forall_mem_cons, ← List.all_iff_forall_prop]
    decide
  have digit (c : Char) (hexadecimal : Md5.isHexDigit c = true) : c ≠ ';' := by
    rintro rfl
    cases hexadecimal
  exact fun mem => h.forall_mem names digit _ mem rfl

/-- Items start with other letters than options. -/
theorem WritesItem.first (h : WritesItem piece strip items) :
    ∃ gap c rest, piece = gap ++ c :: rest ∧ (∀ c ∈ gap, isSpace c = true)
      ∧ c ∈ itemStarts := by
  cases h with
  | @strip gap behind gapSpaces =>
    exact ⟨gap, 's', "trip".toList ++ behind, by simp, gapSpaces, by decide⟩
  | @check gap stated behind charset d gapSpaces states =>
    obtain ⟨c, rest, rfl, first⟩ := states.first
    exact ⟨gap, c, rest ++ behind ++ charset, by simp, gapSpaces, first⟩

theorem WritesItem.not_mem (h : WritesItem piece strip items) : ';' ∉ piece := by
  cases h with
  | strip gapSpaces behindSpaces =>
    simp only [List.mem_append, not_or]
    exact ⟨⟨not_mem_of_spaces gapSpaces rfl, by decide⟩,
      not_mem_of_spaces behindSpaces rfl⟩
  | check gapSpaces states behindSpaces named =>
    simp only [List.mem_append, not_or]
    refine ⟨⟨⟨not_mem_of_spaces gapSpaces rfl, states.noSemicolon⟩,
      not_mem_of_spaces behindSpaces rfl⟩, ?_⟩
    cases named with
    | absent => exact List.not_mem_nil
    | given noSemicolon => exact List.not_mem_cons_of_ne_of_not_mem (by decide) noSemicolon

/-- White space around a demand does not matter. -/
theorem exists_itemParts {gap stated behind charset : List Char} {d : Demand}
    (gapSpaces : ∀ c ∈ gap, isSpace c = true) (states : States stated d)
    (behindSpaces : ∀ c ∈ behind, isSpace c = true) (named : WritesCharset charset) :
    ∃ encoding, itemParts (gap ++ stated ++ behind ++ charset) = (stated, encoding)
      ∧ itemParts (stated ++ charset) = (stated, encoding) := by
  have noSpaces : ∀ c ∈ ([] : List Char), isSpace c = true := nofun
  cases named with
  | absent =>
    have alone := itemParts_stated noSpaces states noSpaces
    refine ⟨none, ?_, ?_⟩
    · rw [List.append_nil, itemParts_stated gapSpaces states behindSpaces]
    · rwa [List.append_nil] at alone ⊢
  | given noSemicolon =>
    have alone := itemParts_stated_charset noSpaces states noSpaces
    refine ⟨some _, itemParts_stated_charset gapSpaces states behindSpaces _, ?_⟩
    simpa using alone _

/-- An item for a check is accepted, whatever its encoding. -/
theorem exists_withItem? {gap stated behind charset : List Char} {d : Demand}
    (gapSpaces : ∀ c ∈ gap, isSpace c = true) (states : States stated d)
    (behindSpaces : ∀ c ∈ behind, isSpace c = true) (named : WritesCharset charset)
    (check : IntegrityCheck) :
    ∃ more, check.withItem? (gap ++ stated ++ behind ++ charset) = some more
      ∧ check.withItem? (stated ++ charset) = some more := by
  obtain ⟨encoding, parts, alone⟩ := exists_itemParts gapSpaces states behindSpaces named
  rw [IntegrityCheck.withItem?_eq, IntegrityCheck.withItem?_eq, parts, alone]
  cases states with
  | length some_ decimal =>
    rw [IntegrityCheck.valueOf?_eq_some_iff.mpr ⟨rfl, some_, decimal⟩]
    exact ⟨_, rfl, rfl⟩
  | md5 some_ hexadecimal =>
    rw [IntegrityCheck.valueOf?_eq_some_iff.mpr ⟨rfl, some_, hexadecimal⟩]
    exact ⟨_, rfl, rfl⟩

namespace Search

theorem readItem_of_written (h : WritesItem piece strip items) (found : Bool × IntegrityCheck) :
    readItem found piece = .ok (found.1 || strip, found.2.withItems items) := by
  cases h with
  | strip gapSpaces behindSpaces =>
    have trimmed : trim (_ ++ "strip".toList ++ _) = "strip".toList :=
      trim_between gapSpaces behindSpaces (List.all_iff_forall_prop.mp (by decide))
    rw [readItem, trimmed, Bool.or_true]
    rfl
  | @check gap stated behind charset _ gapSpaces states behindSpaces named =>
    obtain ⟨more, given, alone⟩ := exists_withItem? gapSpaces states behindSpaces named found.2
    -- what a check accepts is not `strip`, which no check accepts
    have noStrip : trim (gap ++ stated ++ behind ++ charset) ≠ "strip".toList := by
      intro strip
      rw [← IntegrityCheck.withItem?_trim, strip] at given
      cases given
    rw [readItem, if_neg noStrip, IntegrityCheck.withItem?_trim, given, Bool.or_false,
      IntegrityCheck.withItems, List.foldl_cons, alone]
    rfl

theorem readItem_trimEnd (found : Bool × IntegrityCheck) (item : List Char) :
    readItem found (trimEnd item) = readItem found item := by
  rw [readItem, readItem, trim_trimEnd]

/-- Each item is read in its turn; a piece before the items is one of them. -/
theorem foldlM_readItem (h : WritesItems rest strip items) :
    ∀ {piece : List Char} {found found' : Bool × IntegrityCheck}, ';' ∉ piece →
      readItem found piece = .ok found' →
      (pieces ';' (trimEnd (piece ++ rest))).foldlM readItem found
        = .ok (found'.1 || strip, found'.2.withItems items) := by
  -- where the text ends is trimmed, so the piece is set apart: at the last item it is shorter
  induction h with
  | nothing =>
    intro piece found found' noSemicolon read
    have alone : ';' ∉ trimEnd piece := fun mem => noSemicolon (mem_of_mem_trimEnd mem)
    rw [List.append_nil, pieces_of_not_mem alone, List.foldlM_cons, readItem_trimEnd, read,
      Bool.or_false]
    rfl
  | @cons piece' rest strip others items items' item behind ih =>
    intro piece found found' noSemicolon read
    rw [trimEnd_append_cons (by decide), pieces_append noSemicolon, List.foldlM_cons, read]
    have others := ih item.not_mem (readItem_of_written item found')
    rw [Bool.or_assoc] at others
    rw [IntegrityCheck.withItems, List.foldl_append]
    exact others

/-- The items are read to the end. -/
theorem readItems_trim (h : WritesItems rest strip items) :
    readItems (trim rest) = .ok (strip, TextRange.checkOf items) := by
  cases h with
  | nothing => rfl
  | cons item behind =>
    have read := foldlM_readItem behind item.not_mem (readItem_of_written item (false, .none))
    rw [readItems, trim_trim, trim_cons (by decide)]
    show (pieces ';' (trimEnd _)).foldlM readItem (false, .none) = _
    rw [read, Bool.false_or, TextRange.checkOf, List.foldl_append]
    rfl

/-! ### Ends -/

variable {first last : Option Anchor} {firstBoundary lastBoundary : Boundary}

theorem followsEnd_items (h : WritesItems rest strip items) : FollowsEnd (trim rest) := by
  cases h with
  | nothing => exact .nothing
  | cons item behind =>
    obtain ⟨gap, c, more, rfl, gapSpaces, first⟩ := item.first
    rw [trim_cons (by decide), List.append_assoc, List.cons_append,
      trimEnd_append_cons (isSpace_of_starts first)]
    exact .item gapSpaces first

theorem followsEnd_last (ends : WritesLast cs last lastBoundary)
    (h : WritesItems rest strip items) : FollowsEnd (trim (cs ++ rest)) := by
  cases ends with
  | absent => exact followsEnd_items h
  | comma =>
    rw [List.cons_append, trim_cons (by decide)]
    exact .comma _

/-- The start of the block is read up to the comma or the items. -/
theorem readStart_trim (ends : WritesEnd .start cs first firstBoundary)
    (given : cs ≠ [] ∨ ∃ more, rest = ',' :: more) (follows : FollowsEnd (trim rest)) :
    readStart (trim (cs ++ rest)) = .ok ((first, firstBoundary), trim rest) := by
  cases ends with
  | open_ =>
    obtain none_ | ⟨more, rfl⟩ := given
    · cases none_ rfl
    · rw [List.nil_append, trim_cons (by decide)]
      rfl
  | given anchored option =>
    obtain ⟨c, more, rfl, noSpace, noComma⟩ := anchored.first
    rw [← Anchor.readEnd_trim anchored option follows, List.cons_append, List.cons_append,
      trim_cons noSpace]
    unfold readStart
    split
    · next same => cases noComma (List.cons.inj same).1
    · rfl

/-- Behind a comma an anchor is read, unless nothing is left. -/
theorem readStop_comma {gap more : List Char} {c : Char} (gapSpaces : ∀ c ∈ gap, isSpace c = true)
    (left : trim rest = c :: more) :
    readStop (trim (',' :: (gap ++ rest))) = Anchor.readEnd .stop (c :: more) := by
  rw [trim_cons (by decide), readStop, trimStart_trimEnd, trim_append gapSpaces, left]

/-- The end of the block is read up to the items. -/
theorem readStop_trim (ends : WritesLast cs last lastBoundary) (h : WritesItems rest strip items)
    (closed : ¬HasOpenComma cs last rest) :
    readStop (trim (cs ++ rest)) = .ok ((last, lastBoundary), trim rest) := by
  cases ends with
  | absent =>
    rw [List.nil_append]
    cases h with
    | nothing => rfl
    | cons =>
      rw [trim_cons (by decide)]
      rfl
  | comma gapSpaces ends =>
    cases ends with
    | open_ =>
      -- A comma with nothing behind it is read as no end at all.
      have noItems : rest = [] := not_not.mp fun some_ => closed ⟨List.cons_ne_nil _ _, rfl, some_⟩
      rw [noItems, List.append_nil, List.append_nil, trim_cons (by decide), readStop,
        trimStart_trimEnd, trim_of_spaces gapSpaces]
      rfl
    | @given cs cs' _ _ anchored option =>
      have left : ∃ c more, trim (cs ++ cs' ++ rest) = c :: more := by
        obtain ⟨c, more, rfl, noSpace, -⟩ := anchored.first
        exact ⟨c, _, trim_cons noSpace _⟩
      obtain ⟨c, more, left⟩ := left
      rw [List.cons_append, List.append_assoc, readStop_comma gapSpaces left, ← left,
        Anchor.readEnd_trim anchored option (followsEnd_items h)]

/-! ### Searches -/

/-- An item without a semicolon before it is no option. -/
theorem boundary_read_of_starts {c : Char} (first : c ∈ itemStarts) (which : SearchEnd)
    (more : List Char) : Boundary.read which (c :: more) = (.inclusive, c :: more) := by
  simp only [itemStarts, List.mem_cons, List.not_mem_nil, or_false] at first
  obtain rfl | rfl | rfl := first <;> rfl

/-- An item without a semicolon before it is refused. -/
theorem readItems_of_starts {c : Char} (first : c ∈ itemStarts) (more : List Char) :
    readItems (c :: more) = .error .trailing := by
  rw [readItems, trim_cons (isSpace_of_starts first)]
  simp only [itemStarts, List.mem_cons, List.not_mem_nil, or_false] at first
  obtain rfl | rfl | rfl := first <;> rfl

/-- A single item is no anchor: nothing ends the text behind its semicolon. -/
theorem readEnd_of_single (noSemicolon : ';' ∉ piece) (which : SearchEnd) :
    Anchor.readEnd which (';' :: piece) = .error (.anchor which .unterminated) := by
  have unterminated : Anchor.readText (';' :: piece) = .error .unterminated := by
    rw [Anchor.readText, cutAt_eq_none_iff.mpr noSemicolon]
  have noDigits : (';' :: piece).dropWhile Char.isDigit = ';' :: piece := rfl
  have refused : Anchor.read (';' :: piece) = .error .unterminated := by
    rw [Anchor.read, noDigits, unterminated]
    rfl
  rw [Anchor.readEnd, refused]
  rfl

/-- The first of several items is taken for an anchor between semicolons. -/
theorem readEnd_of_several (item : WritesItem piece strip items) (which : SearchEnd)
    {c : Char} {more : List Char} (first : c ∈ itemStarts) (left : trimStart rest = c :: more) :
    Anchor.readEnd which (';' :: (piece ++ ';' :: rest))
      = .ok ((some ⟨1, piece⟩, .inclusive), c :: more) := by
  have some_ : piece ≠ [] := by
    obtain ⟨gap, d, behind, rfl, -⟩ := item.first
    simp
  have anchor := Anchor.read_append .one (by decide) some_ item.not_mem rest
  rw [List.nil_append, left] at anchor
  rw [Anchor.readEnd, anchor]
  show Except.ok ((some _, (Boundary.read which (c :: more)).1),
    (Boundary.read which (c :: more)).2) = _
  rw [boundary_read_of_starts first]

/-- What is left behind an open comma is refused. -/
theorem readItems_of_hasOpenComma (ends : WritesLast cs last lastBoundary)
    (h : WritesItems rest strip items) (open_ : HasOpenComma cs last rest) {found}
    (read : readStop (trim (cs ++ rest)) = .ok found) : readItems found.2 = .error .trailing := by
  obtain ⟨comma, noEnd, some_⟩ := open_
  cases ends with
  | absent => cases comma rfl
  | comma gapSpaces ends =>
    cases ends with
    | given => cases noEnd
    | open_ =>
      cases h with
      | nothing => cases some_ rfl
      | @cons piece rest _ _ _ _ item behind =>
        -- the semicolon before the first item is taken for a delimiter
        have left : trim (';' :: (piece ++ rest)) = ';' :: trimEnd (piece ++ rest) :=
          trim_cons (by decide) _
        rw [List.append_nil, List.cons_append, readStop_comma gapSpaces left] at read
        cases behind with
        | nothing =>
          have alone : ';' ∉ trimEnd piece := fun mem => item.not_mem (mem_of_mem_trimEnd mem)
          rw [List.append_nil, readEnd_of_single alone] at read
          cases read
        | @cons piece' rest' _ _ _ _ item' behind' =>
          obtain ⟨gap, c, more, rfl, gapSpaces', first⟩ := item'.first
          have left : trimStart (trimEnd (gap ++ c :: more ++ rest'))
              = c :: trimEnd (more ++ rest') := by
            rw [trimStart_trimEnd, List.append_assoc, trim_append gapSpaces', List.cons_append,
              trim_cons (isSpace_of_starts first)]
          rw [trimEnd_append_cons (by decide), readEnd_of_several item .stop first left] at read
          cases read
          exact readItems_of_starts first _

/-- The start is read first, and then what is left of the data. -/
theorem readChars_of_starts {before : List Char} (beforeSpaces : ∀ c ∈ before, isSpace c = true)
    (starts : WritesEnd .start cs first firstBoundary)
    (given : cs ≠ [] ∨ ∃ more, rest = ',' :: more) (follows : FollowsEnd (trim rest)) :
    readChars (before ++ (cs ++ rest)) = (do
      let ((stop, stopBoundary), left) ← readStop (trim rest)
      let (strip, check) ← readItems left
      return ⟨first, firstBoundary, stop, stopBoundary, strip, check⟩) := by
  have started := readStart_trim starts given follows
  have some_ : ¬(trim (cs ++ rest)).isEmpty = true := by
    -- no start is read of nothing
    intro empty
    rw [List.isEmpty_iff.mp empty] at started
    cases started
  rw [readChars, trim_append beforeSpaces]
  dsimp only
  rw [if_neg some_, started]
  rfl

/-- **What the grammar writes is read.**  Data that gives the first line, the last line or both,
each with its option, and then items, is read as these ends with their boundaries, whether `strip`
is an item, and the check that the other items give in their order.  Data with items behind a comma
that no end follows is refused, although the grammar has it. -/
theorem reads_grammar {before starting ending itemsPart : List Char}
    (beforeSpaces : ∀ c ∈ before, isSpace c = true)
    (starts : WritesEnd .start starting first firstBoundary)
    (ends : WritesLast ending last lastBoundary) (given : starting ≠ [] ∨ ending ≠ [])
    (behind : WritesItems itemsPart strip items) :
    let data := String.ofList (before ++ (starting ++ (ending ++ itemsPart)))
    (¬HasOpenComma ending last itemsPart → read data
      = .ok ⟨first, firstBoundary, last, lastBoundary, strip, TextRange.checkOf items⟩)
    ∧ (HasOpenComma ending last itemsPart →
      ∃ fault, read data = .error (.malformedData "search" fault)) := by
  dsimp only
  have given' : starting ≠ [] ∨ ∃ more, ending ++ itemsPart = ',' :: more := by
    refine given.imp_right fun some_ => ?_
    cases ends with
    | absent => cases some_ rfl
    | comma => exact ⟨_, rfl⟩
  have chars := readChars_of_starts beforeSpaces starts given' (followsEnd_last ends behind)
  rw [read, String.toList_ofList, chars]
  refine ⟨fun closed => ?_, fun open_ => ?_⟩
  · rw [readStop_trim ends behind closed]
    show ((readItems (trim itemsPart) >>= fun (strip, check) =>
      pure (⟨first, firstBoundary, last, lastBoundary, strip, check⟩ : Search)).mapError _) = _
    rw [readItems_trim behind]
    rfl
  · -- Behind an open comma the items are taken for an end, or what is left of them is refused.
    cases stop : readStop (trim (ending ++ itemsPart)) with
    | error fault => exact ⟨_, rfl⟩
    | ok found =>
      refine ⟨.search .trailing (String.ofList (before ++ (starting ++ (ending ++ itemsPart)))), ?_⟩
      show ((readItems found.2 >>= fun (strip, check) =>
        pure (⟨first, firstBoundary, found.1.1, found.1.2, strip, check⟩ : Search)).mapError _) = _
      rw [readItems_of_hasOpenComma ends behind open_ stop]
      rfl

/-- Both ends with options, and items of both kinds. -/
theorem reads_grammar_bothEnds :
    read " 2/a b/; after, |c| ;trim;strip; length=5,utf-8" = .ok
      ⟨some ⟨2, "a b".toList⟩, .exclusive, some ⟨1, ['c']⟩, .trimmed, true, ⟨some 5, none⟩⟩ := by
  have noSpaces : ∀ c ∈ ([] : List Char), isSpace c = true := nofun
  have space : ∀ c ∈ [' '], isSpace c = true := List.all_eq_true.mp rfl
  have slash : IsDelimiter '/' := ⟨rfl, by decide, by decide, rfl⟩
  have bar : IsDelimiter '|' := ⟨rfl, by decide, by decide, rfl⟩
  have two : WritesCount ['2'] 2 := .given (writesIndex_toString (n := 2) (by decide)) (by decide)
  have starts : WritesEnd .start _ (some ⟨2, "a b".toList⟩) .exclusive :=
    .given (.intro two slash (by decide) (by decide) noSpaces) (.given space noSpaces)
  have ends : WritesLast _ (some ⟨1, ['c']⟩) .trimmed :=
    .comma space (.given (.intro .one bar (by decide) (by decide) space) (.given noSpaces noSpaces))
  have length : States ("length=".toList ++ ['5']) (.length 5) :=
    .length (by decide) (List.all_eq_true.mp rfl)
  have charset : WritesCharset (',' :: "utf-8".toList) := .given (by decide)
  have items : WritesItems _ true ["length=5,utf-8".toList] :=
    .cons (.strip noSpaces noSpaces) (.cons (.check space length noSpaces charset) .nothing)
  exact (reads_grammar space starts ends (.inl (by decide)) items).1 (by simp [HasOpenComma])

/-- Data of the grammar that is refused: an item behind an open comma. -/
theorem read_openComma :
    ∃ starting ending items, WritesEnd .start starting (some ⟨1, ['a']⟩) .inclusive
      ∧ WritesLast ending none .inclusive ∧ WritesItems items true []
      ∧ "/a/,;strip".toList = starting ++ (ending ++ items)
      ∧ read "/a/,;strip" = .error (.malformedData "search"
        (.search (.anchor .stop .unterminated) "/a/,;strip")) := by
  have noSpaces : ∀ c ∈ ([] : List Char), isSpace c = true := nofun
  have slash : IsDelimiter '/' := ⟨rfl, by decide, by decide, rfl⟩
  exact ⟨_, _, _, .given (.intro .one slash (by decide) (by decide) noSpaces) .absent,
    .comma noSpaces .open_, .cons (.strip noSpaces noSpaces) .nothing, rfl, rfl⟩

end Search

end Transclusion
