import Mathlib.Data.Bool.AllAny
import Transclusion.Proofs.Fragment.BareIds
import Transclusion.Proofs.Fragment.FallThrough
import Transclusion.Proofs.Fragment.WrittenTerms
import Transclusion.Proofs.Inclusion.Web
import Transclusion.Proofs.Markup.LexicalScoping
import Transclusion.Proofs.XPath.Acceptance
import Transclusion.Proofs.XPath.TokenSpacing
/-!
# Elements named by `xml:id`

An element can be named by its `xml:id` alone, by a term of the scheme `element`, or by a term of
the scheme `xpath` with a call of the function `id`.  The three are read and evaluated in different
ways, but they come to one selection: the first element with the `xml:id`, fixed up, unless it
encloses the include.

* `Document.base_eq_none_of_read`: an element without a base URI is in a document without one.
* `XPath.Expr.read_idCall`, `XPath.Expr.evaluate_idCall`: the call is read, and selects the first
  element with the `xml:id`.
* `ExpressionPointer.select_idCall`: a pointer with the call gives the same answer as one with the
  `xml:id`.
* `FragmentId.read_elementTerm`, `FragmentId.read_xpathTerm`: how the terms are read.
* `FragmentId.ids_select_alike`: the three select alike.
-/

namespace Transclusion

open Text

/-! ### Base URIs in documents that are read -/

namespace Document

variable {base : Option String} {text : String} {d : Document}

/-- Each element of a document that is read is what some tag stands for where the element is. -/
theorem exists_tag_of_read (h : Document.read base text = .ok d) {i : Nat} {e : Element}
    (element : d.nodes.element? i = some e) : ∃ t, e.IsOfTag (d.around i) t := by
  obtain ⟨r, read, -, -, finished⟩ := EventScan.read_of_toDocument h
  have beside := (Reading.IsScoped.of_run read).elements
  rw [← (Builder.situated_finish finished).2] at beside
  obtain ⟨t, -, e', element', isOfTag⟩ := exists_lookup_of_forall₂
    (Document.forall₂_situated_iff.mp beside) (Document.mem_elementNumbers element)
  cases element.symm.trans element'
  exact ⟨t, isOfTag⟩

/-- A base URI is handed down to all elements. -/
theorem base_eq_none_of_read (h : Document.read base text = .ok d) {i : Nat} {e : Element}
    (element : d.nodes.element? i = some e) (unknown : e.base = none) : d.base = none := by
  -- Parents come before their children, so the induction goes up along the ancestors.
  induction i using Nat.strongRecOn generalizing e with
  | ind i ih =>
    obtain ⟨t, isOfTag⟩ := exists_tag_of_read h element
    have around : (d.around i).base = none := by
      rw [isOfTag.base] at unknown
      split at unknown
      · cases unknown
      · exact unknown
    obtain ⟨pos, within⟩ := bounds_of_element? element
    obtain ⟨p, parent⟩ := exists_parent? pos within
    rw [Document.around, parent, Option.map_some, Option.getD_some, handedDown] at around
    cases outer : d.nodes.element? p with
    | some e' =>
      rw [outer] at around
      exact ih p (NodeList.inside_of_parent? parent).1 outer around
    | none =>
      rw [outer] at around
      exact around

end Document

/-! ### The function `id` -/

theorem Text.wordsAfter_of_no_space {word cs : List Char} (some_ : word ≠ [] ∨ cs ≠ [])
    (other : ∀ c ∈ cs, isSpace c = false) : wordsAfter word cs = [word.reverse ++ cs] := by
  induction cs generalizing word with
  | nil =>
    have word_ : word.isEmpty = false := by
      simpa using some_
    rw [wordsAfter, word_, List.append_nil]
    rfl
  | cons c cs ih =>
    rw [wordsAfter, other c List.mem_cons_self]
    simp only [Bool.false_eq_true, if_false]
    rw [ih (.inl (List.cons_ne_nil c word)) fun d mem => other d (List.mem_cons_of_mem c mem)]
    simp

/-- A text without white space is one word. -/
theorem Text.words_of_no_space {cs : List Char} (some_ : cs ≠ [])
    (other : ∀ c ∈ cs, isSpace c = false) : words cs = [cs] :=
  wordsAfter_of_no_space (.inr some_) other

namespace XPath

/-- A call of the function `id` with a literal. -/
def idCall (x : String) : String := "id('" ++ x ++ "')"

theorem toList_idCall (x : String) : (idCall x).toList
    = 'i' :: (['d'] ++ '(' :: ([] ++ '\x27' :: ((x.toList ++ ['\x27']) ++ ')' :: ([] ++ [])))) := by
  simp [idCall]

theorem readToken_quoted {x : String} (unquoted : '\x27' ∉ x.toList) (operatorAllowed : Bool)
    (rest : List Char) :
    readToken operatorAllowed '\x27' ((x.toList ++ ['\x27']) ++ rest) = .ok (.literal x, rest) := by
  have run : ∀ c ∈ x.toList, decide (c ≠ '\x27') = true :=
    fun c mem => decide_eq_true fun same => unquoted (same ▸ mem)
  have behind : ∀ c ∈ ('\x27' :: rest).head?, decide (c ≠ '\x27') = false := by simp
  obtain ⟨body, after⟩ := takeWhile_dropWhile_of_run run behind
  rw [List.append_assoc, List.singleton_append, readToken_of_not_sign rfl (by decide)]
  simp only [decide_true, Bool.or_true, if_true, after, body, String.ofList_toList]

/-- The tokens of the call. -/
theorem tokenize_idCall {x : String} (unquoted : '\x27' ∉ x.toList) :
    ∃ tokens, tokenize (idCall x).toList = .ok tokens
      ∧ kinds tokens = [.functionName "id", .openParen, .literal x, .closeParen] := by
  have call : ∀ rest, readToken false 'i' (['d'] ++ '(' :: rest)
      = .ok (.functionName "id", '(' :: rest) := fun rest => by
    rfl
  obtain ⟨lexemes, scan, written⟩ : ∃ lexemes, Scan false 0 (idCall x).toList lexemes
      ∧ kinds (lexemes.map (·.toPlacedToken))
        = [.functionName "id", .openParen, .literal x, .closeParen] := by
    rw [toList_idCall]
    exact ⟨_, .lexeme (by decide) (call _) (.lexeme (by decide) rfl
      (.lexeme (by decide) (readToken_quoted unquoted _ _)
        (.lexeme (by decide) rfl .done))), rfl⟩
  exact ⟨_, scan.tokenizeUpTo_eq le_rfl, written⟩

theorem Expr.read_idCall {x : String} (unquoted : '\x27' ∉ x.toList) :
    Expr.read (idCall x) = .ok (.call "id" [.literal x]) := by
  obtain ⟨tokens, read, written⟩ := tokenize_idCall unquoted
  have operand {e : Expr} {ts : List Token} (h : Derives (.primary e) ts) :
      Derives (.expr e) ts :=
    .operand (.operand (.operand (.operand (.operand (.operand (.unary (.union (.path
      (.filter (.primary h))))))))))
  have derives : Derives (.expr (.call "id" [.literal x])) (kinds tokens) := by
    rw [written]
    exact operand (.callWith (.argument (operand (.literal x))))
  rw [Expr.read, read]
  exact exprOfTokens_of_derives derives

/-- The call selects the first element with the `xml:id`. -/
theorem Expr.evaluate_idCall {x : String} (some_ : x ≠ "")
    (other : ∀ c ∈ x.toList, isSpace c = false) (d : Document) (id : Nat) (bindings : Bindings) :
    (Expr.call "id" [.literal x]).evaluate d id bindings
      = .ok (.nodeSet ((d.nodes.elementWithId? x).toList.map .node)) := by
  have word : words x.toList = [x.toList] :=
    words_of_no_space (String.toList_eq_nil_iff.not.mpr some_) other
  have ids : Function.idsOf d.nodes (.string x) = [x] := by
    simp [Function.idsOf, Value.toText, word]
  show Except.ok (Value.nodeSet (NodeRef.canonical
    (((Function.idsOf d.nodes (.string x)).filterMap d.nodes.elementWithId?).map .node))) = _
  rw [ids]
  cases found : d.nodes.elementWithId? x <;> simp [found] <;> rfl

end XPath

/-! ### Pointers -/

/-- An `xml:id` that can stand between parentheses and in single quotes as it is. -/
structure IsPlainId (x : String) : Prop extends IsBareId x where
  unquoted : ∀ c ∈ x.toList, c ≠ ')' ∧ c ≠ '^' ∧ c ≠ '\x27'

namespace ExpressionPointer

open XPath (idCall)

variable {x text : String} {base : Option String} {d : Document} {fixup : FixupContext}
  {bindings : Bindings}

theorem read_idCall (x : String) : read (idCall x) = .ok ⟨idCall x⟩ := by
  have some_ : isBlank (idCall x).toList = false := by
    rw [XPath.toList_idCall]
    rfl
  rw [read, some_]
  rfl

/-- What is selected if the value of the expression is a set of nodes. -/
theorem select_of_nodes {p : ExpressionPointer} {e : XPath.Expr} {nodes : List XPath.NodeRef}
    (read : XPath.Expr.read p.source = .ok e)
    (value : e.evaluate d 0 bindings = .ok (.nodeSet nodes)) :
    p.select bindings ⟨d, fixup⟩ = .ok (if nodes = [] then .nothing
      else .found (copyAll ⟨d, fixup⟩ d.nodes nodes) (numbersOf nodes)) := by
  rw [select, read]
  show (e.evaluate d 0 bindings).mapError (SelectionError.expression p.source) >>= _ = _
  rw [value]
  cases nodes <;> rfl

/-- An element alone is copied with its own base URI. -/
theorem copyAll_element (read : Document.read base text = .ok d) {m : Nat} {e : Element}
    {content : Forest} (subtree : d.subtree? m = some (.element e content)) :
    copyAll ⟨d, fixup⟩ d.nodes [.node m]
      = ⟨e.base, .element (fixup.apply (d.nodes.lang? m) e) content .nil⟩ := by
  have element := Document.element?_of_subtree? subtree
  have own : (d.nodes.base? m).or d.base = e.base := by
    rw [NodeList.base?_of_element? element]
    cases unknown : e.base with
    | none => rw [Document.base_eq_none_of_read read element unknown, Option.or_none]
    | some base => rfl
  show Document.mk ((d.nodes.base? m).or d.base) ((copyOf ⟨d, fixup⟩ d.nodes (.node m)).append .nil)
    = _
  rw [own, copyOf]
  simp only [FixupContext.element?, element, Option.map_some, subtree]
  rfl

/-- **The call of the function selects what the `xml:id` alone does.** -/
theorem select_idCall (plain : IsPlainId x)
    (read : Document.read base text = .ok d) (bindings : Bindings) (fixup : FixupContext) :
    (⟨idCall x⟩ : ExpressionPointer).select bindings ⟨d, fixup⟩
      = .ok ((⟨some x, []⟩ : ElementPointer).select ⟨d, fixup⟩) := by
  have expression := XPath.Expr.read_idCall fun mem => (plain.unquoted _ mem).2.2 rfl
  have value := XPath.Expr.evaluate_idCall plain.nonempty (fun c mem => (plain.plain c mem).2.2) d 0
    bindings
  have located : (⟨some x, []⟩ : ElementPointer).locate? d.nodes = d.nodes.elementWithId? x :=
    Option.bind_fun_some _
  rw [select_of_nodes (p := ⟨idCall x⟩) expression value]
  simp only [ElementPointer.select, located]
  cases found : d.nodes.elementWithId? x with
  | none => rfl
  | some m =>
    obtain ⟨e, content, subtree⟩ := Document.subtree?_of_elementWithId? found
    have element := Document.element?_of_subtree? subtree
    have kept : (fixup.apply (d.nodes.lang? m) e).base = e.base := by
      rw [FixupContext.apply, FixupContext.base_withLang, FixupContext.base_withBase]
    simp only [Option.toList_some, List.map_cons, List.map_nil, reduceCtorEq, if_false,
      copyAll_element read subtree, FixupContext.element?, element, Option.map_some, subtree, kept]
    rfl

end ExpressionPointer

/-! ### Selections -/

/-- An error with another fragment identifier quoted in it. -/
def InclusionError.quoting (fragment : String) : InclusionError → InclusionError
  | noFragment _ cause => noFragment fragment cause
  | error => error

/-- The fragment identifier does not matter to a selection, it is only quoted in an error. -/
theorem selectWith_quoting (schemes : List Scheme) (context : SelectionContext)
    (around : Option AncestorSet) (fragment fragment' : String) :
    (selectWith schemes context around fragment).mapError (·.quoting fragment')
      = selectWith schemes context around fragment' := by
  rw [selectWith, selectWith]
  generalize ([] : List (String × String)) = bindings
  generalize (none : Option SelectionError) = failure
  induction schemes generalizing bindings failure with
  | nil => rfl
  | cons scheme rest ih =>
    -- An attempt is only refused for a loop, and that error quotes nothing.
    have refused : ∀ error, scheme.attempt bindings context around = .error error →
        error.quoting fragment' = error := by
      intro error h
      by_cases loops : Answer.Loops around (scheme.select bindings context)
      · cases (scheme.attempt_of_loops loops).symm.trans h
        rfl
      · cases (Scheme.attempt_of_not_loops loops).symm.trans h
    rw [selectFrom, selectFrom]
    cases tried : scheme.attempt bindings context around with
    | error error => exact congrArg Except.error (refused error tried)
    | ok outcome =>
      cases outcome with
      | error e => exact ih bindings (some e)
      | ok selection =>
        simp only [bind, Except.bind]
        cases selection.answer? with
        | none => exact ih (bindings ++ selection.bindings) failure
        | some found => rfl

/-- A scheme alone selects what another one does that gives the same answer. -/
theorem selectWith_singleton_congr {scheme scheme' : Scheme} {context : SelectionContext}
    (same : scheme.select [] context = scheme'.select [] context) (around : Option AncestorSet)
    (fragment : String) :
    selectWith [scheme] context around fragment = selectWith [scheme'] context around fragment := by
  rw [selectWith, selectWith, selectFrom, selectFrom, Scheme.attempt, Scheme.attempt, same]

namespace FragmentId

/-- What a fragment identifier for markup selects with the standard schemes. -/
def select (fragment : String) (context : SelectionContext) (around : Option AncestorSet) :
    Except InclusionError (Document × List Nat) := do
  let schemes ← (read .standard .xml fragment).mapError InclusionError.fragment
  selectWith schemes context around fragment

variable {x : String}

/-- Without parentheses data is balanced. -/
theorem isBalanced_of_no_parentheses {cs : List Char} (noOpen : '(' ∉ cs) (noClose : ')' ∉ cs) :
    IsBalanced cs := by
  refine ⟨fun before start => ?_, ?_⟩
  · have prefix_ := (List.mem_inits _ _).mp start
    rw [List.count_eq_zero.mpr fun mem => noClose (prefix_.subset mem)]
    exact Nat.zero_le _
  · rw [List.count_eq_zero.mpr noClose, List.count_eq_zero.mpr noOpen]

/-- One pair of parentheses is balanced. -/
theorem isBalanced_enclosed {before inside : List Char} (noClose : ')' ∉ before ++ '(' :: inside)
    (noOpen : '(' ∉ before ++ inside) : IsBalanced ((before ++ '(' :: inside) ++ [')']) := by
  have whole : ((before ++ '(' :: inside) ++ [')']).count ')'
      = ((before ++ '(' :: inside) ++ [')']).count '(' := by
    simp only [List.mem_append, List.mem_cons, not_or] at noClose noOpen
    simp [List.count_append, List.count_eq_zero.mpr noClose.1, List.count_eq_zero.mpr noClose.2.2,
      List.count_eq_zero.mpr noOpen.1, List.count_eq_zero.mpr noOpen.2]
  refine ⟨fun front start => ?_, whole⟩
  obtain rfl | start := List.prefix_concat_iff.mp ((List.mem_inits _ _).mp start)
  · exact le_of_eq whole
  · rw [List.count_eq_zero.mpr fun mem => noClose (start.subset mem)]
    exact Nat.zero_le _

/-- A term alone is read as the scheme of its name. -/
theorem read_term (t : WrittenTerm) (reader : SchemeReader)
    (registered : SchemeRegistry.standard.get? t.name = some reader)
    (ofXml : reader.parseType = .xml) :
    read .standard .xml (String.ofList t.write) = (do return [← reader.read t.data]) := by
  have scan := TermScan.of_write (List.forall_mem_nil _) [t]
  rw [List.nil_append, List.flatMap_singleton] at scan
  let readers : String → SchemeReader := fun _ => reader
  have terms : ofTerms .standard .xml ([t].map WrittenTerm.term)
      = [t].mapM fun t => (readers t.name).read t.data :=
    ofTerms_map (List.forall_mem_singleton.mpr ⟨registered, ofXml⟩)
  have written : t.write = (t.name.toList ++ t.gap) ++ '(' :: (t.body ++ ')' :: t.behind) := by
    simp [WrittenTerm.write]
  have noEquals : '=' ∉ t.name.toList ++ t.gap := by
    rw [List.mem_append, not_or]
    refine ⟨fun mem => ?_, fun mem => ?_⟩
    · cases t.nameChars _ mem
    · cases t.gapSpaces _ mem
  rw [written] at scan ⊢
  rw [read_of_openParen (by decide) noEquals, readTerms, String.toList_ofList, scan]
  dsimp only
  rw [terms, List.mapM_cons]
  cases reader.read t.data <;> rfl

/-- A term of the scheme `element`. -/
def elementTerm (x : String) : String := "element(" ++ x ++ ")"

/-- A term of the scheme `xpath` with a call of the function `id`. -/
def xpathTerm (x : String) : String := "xpath(" ++ XPath.idCall x ++ ")"

theorem read_elementTerm (plain : IsPlainId x) :
    read .standard .xml (elementTerm x) = .ok [(⟨some x, []⟩ : ElementPointer).scheme] := by
  have balanced : IsBalanced x.toList := isBalanced_of_no_parentheses
    (fun mem => (plain.plain _ mem).1 rfl) (fun mem => (plain.unquoted _ mem).1 rfl)
  let t : WrittenTerm :=
    { name := "element", data := x, gap := [], body := x.toList, behind := []
      named := by decide, nameChars := List.all_eq_true.mp (by decide)
      gapSpaces := List.forall_mem_nil _
      writes := .plain (fun mem => (plain.unquoted _ mem).2.1 rfl) balanced
      behindSpaces := List.forall_mem_nil _ }
  have written : String.ofList t.write = elementTerm x := by
    rw [← String.toList_inj]
    simp [t, WrittenTerm.write, elementTerm]
  have data : SchemeReader.element.read x = .ok (⟨some x, []⟩ : ElementPointer).scheme := by
    show (do return (← ElementPointer.read x).scheme) = _
    rw [ElementPointer.read_bareId plain.toIsBareId]
    rfl
  rw [← written, read_term t .element rfl rfl, data]
  rfl

theorem read_xpathTerm (plain : IsPlainId x) :
    read .standard .xml (xpathTerm x) = .ok [(⟨XPath.idCall x⟩ : ExpressionPointer).scheme] := by
  have body : (XPath.idCall x).toList
      = ("id".toList ++ '(' :: (['\x27'] ++ x.toList ++ ['\x27'])) ++ [')'] := by
    simp [XPath.idCall]
  have balanced : IsBalanced (XPath.idCall x).toList := by
    rw [body]
    refine isBalanced_enclosed ?_ ?_
    · simpa using fun mem => (plain.unquoted _ mem).1 rfl
    · simpa using fun mem => (plain.plain _ mem).1 rfl
  have noCircumflex : '^' ∉ (XPath.idCall x).toList := by
    rw [body]
    simpa using fun mem => (plain.unquoted _ mem).2.1 rfl
  let t : WrittenTerm :=
    { name := "xpath", data := XPath.idCall x, gap := [], body := (XPath.idCall x).toList
      behind := [], named := by decide, nameChars := List.all_eq_true.mp (by decide)
      gapSpaces := List.forall_mem_nil _, writes := .plain noCircumflex balanced
      behindSpaces := List.forall_mem_nil _ }
  have written : String.ofList t.write = xpathTerm x := by
    rw [← String.toList_inj]
    simp [t, WrittenTerm.write, xpathTerm]
  have data : SchemeReader.xpath.read (XPath.idCall x)
      = .ok (⟨XPath.idCall x⟩ : ExpressionPointer).scheme := by
    show (do return (← ExpressionPointer.read (XPath.idCall x)).scheme) = _
    rw [ExpressionPointer.read_idCall]
    rfl
  rw [← written, read_term t .xpath rfl rfl, data]
  rfl

theorem select_of_read {fragment : String} {schemes : List Scheme}
    (accepted : read .standard .xml fragment = .ok schemes) (context : SelectionContext)
    (around : Option AncestorSet) :
    select fragment context around = selectWith schemes context around fragment := by
  rw [select, accepted]
  rfl

/-- **The three ways to name an element select alike.**  Each of them is read, as one scheme.  In
every place of inclusion they select the same document from the same nodes, or fail with the same
error, but for the fragment identifier that is quoted in it. -/
theorem ids_select_alike {base : Option String} {text : String} {d : Document}
    (h : Document.read base text = .ok d) (plain : IsPlainId x) :
    (∀ fragment ∈ [x, elementTerm x, xpathTerm x], ∃ scheme,
      read .standard .xml fragment = .ok [scheme])
    ∧ ∀ (fixup : FixupContext) (around : Option AncestorSet),
      (select (elementTerm x) ⟨d, fixup⟩ around).mapError (·.quoting x)
          = select x ⟨d, fixup⟩ around
        ∧ (select (xpathTerm x) ⟨d, fixup⟩ around).mapError (·.quoting x)
          = select x ⟨d, fixup⟩ around := by
  have bare := read_bareId plain.toIsBareId
  have element := read_elementTerm plain
  have xpath := read_xpathTerm plain
  refine ⟨?_, fun fixup around => ⟨?_, ?_⟩⟩
  · simp only [List.mem_cons, List.not_mem_nil, or_false]
    rintro fragment (rfl | rfl | rfl)
    · exact ⟨_, bare⟩
    · exact ⟨_, element⟩
    · exact ⟨_, xpath⟩
  · rw [select_of_read element, select_of_read bare, selectWith_quoting]
  · rw [select_of_read xpath, select_of_read bare, selectWith_quoting]
    exact selectWith_singleton_congr (ExpressionPointer.select_idCall plain h (.ofList []) fixup)
      around x

/-- In `<a><p xml:id='one'>x</p></a>` one paragraph is named, and moved to a place where its base
URI is written down. -/
theorem ids_select_alike_ofOne :
    ∃ d fixup selected,
      Document.read (some "http://h/d") "<a><p xml:id='one'>x</p></a>" = .ok d
      ∧ select "one" ⟨d, fixup⟩ none = .ok (selected, [2])
      ∧ (select "element(one)" ⟨d, fixup⟩ none).mapError (·.quoting "one") = .ok (selected, [2])
      ∧ (select "xpath(id('one'))" ⟨d, fixup⟩ none).mapError (·.quoting "one")
        = .ok (selected, [2]) := by
  let page : Document := ⟨some "http://h/d",
    .element ⟨.plain "a", .empty, .empty, some "http://h/d"⟩
      (.element ⟨.plain "p", .ofList [(.xml "id", "one")], .empty, some "http://h/d"⟩
        (.leaf (.text "x") .nil) .nil) .nil⟩
  let fixup : FixupContext := ⟨⟨true, false, false, false⟩, none, none⟩
  let p : Element := ⟨.plain "p", .ofList [(.xml "id", "one"), (.xml "base", "http://h/d")], .empty,
    some "http://h/d"⟩
  let selected : Document := ⟨some "http://h/d", .element p (.leaf (.text "x") .nil) .nil⟩
  have read_ : Document.read (some "http://h/d") "<a><p xml:id='one'>x</p></a>" = .ok page := by
    decide +kernel
  have plain : IsPlainId "one" := ⟨⟨by decide, List.all_iff_forall_prop.mp (by decide)⟩,
    List.all_iff_forall_prop.mp (by decide)⟩
  have found : select "one" ⟨page, fixup⟩ none = .ok (selected, [2]) := by
    decide +kernel
  obtain ⟨element, xpath⟩ := (ids_select_alike read_ plain).2 fixup none
  exact ⟨page, fixup, selected, read_, found, element.trans found, xpath.trans found⟩

end FragmentId

end Transclusion
