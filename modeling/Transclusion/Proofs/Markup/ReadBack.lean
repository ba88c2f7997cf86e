import Transclusion.Markup.Equality
import Transclusion.Proofs.Markup.Building
import Transclusion.Proofs.Markup.Kinds
import Transclusion.Proofs.Markup.Moves
import Transclusion.Proofs.Markup.Recast
import Transclusion.Proofs.Markup.WrittenElements
import Transclusion.Proofs.Markup.WrittenLeaves
/-!
# Reading what was written

A forest in writing is read node by node, each as one event or, if it is an element with content, as
a start tag, its content, and an end tag.  What is read is the forest recast: with the same names
and attributes in every place, but with the bindings and base URIs that are in scope in the text.

* `Reading.Reads`: what is read of a text from here on, without regard to how far the text has
  come.
* `Reading.reads_write`: a forest in writing is read as if a forest like it were added.
* `Document.read_write_of_writable`: reading undoes writing, where all that is written is read as
  what it was written for.
-/

namespace Transclusion

open Text

/-! ### What is read from here on -/

namespace Reading

/-- What a scan is read as from here on. -/
def outcome (r : Reading) (scan : EventScan) : Except XmlError Document := do
  let read ← scan.events.foldlM (fun (r : Reading) e => r.step e.event e.stop) r
  match scan.fault with
  | some e => throw e
  | none => read.finish

theorem outcome_cons (r : Reading) (event : Event) (stop : Nat) (later : EventScan) :
    r.outcome { later with events := ⟨event, stop⟩ :: later.events }
      = (do (← r.step event stop).outcome later) := by
  simp [outcome, List.foldlM_cons]

/-- Wherever the text `input` stands, it is read as the end of the document `d`, the elements
`opened` being open. -/
def Reads (r : Reading) (opened : List (List Char)) (input : List Char) (d : Document) : Prop :=
  ∀ count offset, input.length ≤ count →
    r.outcome (Event.scanUpTo count opened offset input) = .ok d

/-- Nothing follows, or markup. -/
def IsMarkupAhead (input : List Char) : Prop := ∀ c, input.head? = some c → c = '<'

theorem IsMarkupAhead.nil : IsMarkupAhead [] := fun _ h => nomatch h

namespace Reads

variable {r r' : Reading} {opened : List (List Char)} {input : List Char} {d : Document}

theorem finish (h : r.finish = .ok d) : r.Reads opened [] d := by
  intro count offset _
  cases count <;> exact h

theorem markup {read : Event.Markup} (hread : Event.readMarkup opened input = .ok read)
    (shorter : read.rest.length ≤ input.length)
    (step : ∀ stop, r.step read.event stop = .ok r') (h : r'.Reads read.opened read.rest d) :
    r.Reads opened ('<' :: input) d := by
  intro count offset enough
  obtain _ | count := count
  · cases enough
  · rw [List.length_cons] at enough
    rw [Event.scanUpTo, if_pos rfl, hread]
    refine (outcome_cons ..).trans ?_
    rw [step]
    exact h count _ (by omega)

theorem text {raw : List Char} (nonempty : raw ≠ []) (inText : '<' ∉ raw)
    (ahead : IsMarkupAhead input) (step : ∀ stop, r.step (.text raw) stop = .ok r')
    (h : r'.Reads opened input d) : r.Reads opened (raw ++ input) d := by
  intro count offset enough
  obtain ⟨c, raw, rfl⟩ := List.exists_cons_of_ne_nil nonempty
  have other : ∀ c' ∈ c :: raw, decide (c' ≠ '<') = true := fun c' hc' =>
    decide_eq_true fun same => inText (same ▸ hc')
  have behind : ∀ c' ∈ input.head?, decide (c' ≠ '<') = false := fun c' first => by
    simp [ahead c' first]
  obtain ⟨taken, left⟩ := takeWhile_dropWhile_of_run other behind
  rw [List.cons_append, List.length_cons, List.length_append] at enough
  obtain _ | count := count
  · cases enough
  · rw [List.cons_append] at taken left ⊢
    rw [Event.scanUpTo, if_neg fun same : c = '<' => inText (same ▸ List.mem_cons_self)]
    simp only [taken, left]
    refine (outcome_cons ..).trans ?_
    rw [step]
    exact h count _ (by omega)

end Reads

end Reading

/-! ### Forests -/

/-- What is written for a node is read as the node. -/
def NodeKind.Writable : NodeKind → Prop
  | .document _ => False
  | .element e => e.Writable
  | .leaf l => l.Writable

/-- An element is read with its name and attributes, wherever it is. -/
def SameMarkup : Casting := fun _ _ e e' => e'.name = e.name ∧ e'.attributes = e.attributes

/-- Outside of all elements there is no text, and one element, `seen` telling whether it has come
already. -/
def Forest.isOutermost : Bool → Forest → Bool
  | seen, nil => seen
  | seen, leaf l rest => !l.isText && rest.isOutermost seen
  | seen, element _ _ rest => !seen && rest.isOutermost true

theorem Forest.eq_nil_of_isEmpty {f : Forest} (h : f.isEmpty = true) : f = nil := by
  cases f with
  | nil => rfl
  | leaf | element => cases h

namespace Reading

open Event

/-- A forest can come next. -/
def Takes (r : Reading) (f : Forest) : Prop :=
  if r.scopes = [] then f.isOutermost r.seenRoot = true else r.seenRoot = true

section

variable {r r' : Reading} {outer : Bindings} {e : Element} {opened : List (List Char)}
  {d : Document}

/-- Behind a text, or behind the last node, a merged forest is written as markup. -/
theorem isMarkupAhead_write {f : Forest} (noText : f.startsWithText = false) {after : List Char}
    (ahead : IsMarkupAhead after) : IsMarkupAhead (f.write outer ++ after) := by
  cases f with
  | nil => exact ahead
  | leaf l rest =>
    cases l with
    | text s => cases noText
    | comment s =>
      intro c h
      cases h
      rfl
    | instruction target data =>
      intro c h
      cases h
      rfl
  | element e content rest =>
    intro c h
    cases h
    rfl

/-- The reading after a forest was added, and the element at the top with it. -/
def adding (r : Reading) (f : Forest) : Reading :=
  { r with builder := r.builder.addForest f, seenRoot := true }

/-! ### Tags -/

theorem readMarkup_of_isBare {c : Char} (bare : isBare c = true) (opened : List (List Char))
    (input : List Char) : readMarkup opened (c :: input) = readStart opened (c :: input) := by
  have other := ne_of_isBare bare
  unfold readMarkup
  split
  · next h => cases h
  · next h => cases h; exact absurd rfl other.2.2.2.2.1
  · next h => cases h; exact absurd rfl other.2.2.1
  · next h => cases h; exact absurd rfl other.2.2.2.2.2.1
  · rfl

variable {name : List Char} {attributes : List (String × String)}

theorem readMarkup_writeTag (named : IsWrittenName name) (attributes : List (String × String))
    (opened : List (List Char)) (input : List Char) :
    readMarkup opened (writeTag name attributes ++ input)
      = readStart opened (writeTag name attributes ++ input) := by
  obtain ⟨c, cs, rfl⟩ := List.exists_cons_of_ne_nil named.nonempty
  exact readMarkup_of_isBare (named.bare c List.mem_cons_self) opened _

/-- The start tag of an element with content. -/
theorem readMarkup_start (named : IsWrittenName name)
    (h : ∀ a ∈ attributes, IsWrittenName a.1.toList) (opened : List (List Char))
    (rest : List Char) :
    readMarkup opened (writeTag name attributes ++ '>' :: rest)
      = .ok ⟨.start (writeTag name attributes), name :: opened,
          utf8Length (writeTag name attributes) + 2, rest⟩ := by
  rw [readMarkup_writeTag named, readStart, cutTag_writeTag named h]
  simp only [if_neg (getLast?_writeTag named h), tagName_writeTag named]

/-- The tag of an element without content. -/
theorem readMarkup_empty (named : IsWrittenName name)
    (h : ∀ a ∈ attributes, IsWrittenName a.1.toList) (opened : List (List Char))
    (rest : List Char) :
    readMarkup opened (writeTag name attributes ++ '/' :: '>' :: rest)
      = .ok ⟨.empty (writeTag name attributes), opened,
          utf8Length (writeTag name attributes ++ ['/']) + 2, rest⟩ := by
  rw [readMarkup_writeTag named, readStart, cutTag_writeTag_empty named h]
  simp

theorem closedName_of_isWrittenName (named : IsWrittenName name) : closedName name = name := by
  obtain ⟨c, cs, rfl⟩ := List.exists_cons_of_ne_nil named.nonempty
  have noSpace : ∀ c' ∈ c :: cs, isMarkupSpace c' = false := fun c' hc' =>
    isMarkupSpace_of_isBare (named.bare c' hc')
  have some : (c :: cs).all isMarkupSpace = false := by
    rw [List.all_cons, noSpace c List.mem_cons_self, Bool.false_and]
  have kept : (c :: cs).reverse.dropWhile isMarkupSpace = (c :: cs).reverse := by
    obtain ⟨d, ds, hreverse⟩ := List.exists_cons_of_ne_nil
      (List.reverse_ne_nil_iff.mpr (List.cons_ne_nil c cs))
    have last : d ∈ c :: cs := List.mem_reverse.mp (hreverse ▸ List.mem_cons_self)
    rw [hreverse, List.dropWhile_cons_of_neg (by simp [noSpace d last])]
  rw [closedName, some, if_neg Bool.false_ne_true, dropEndWhile, kept, List.reverse_reverse]

/-- The end tag of the innermost open element. -/
theorem readMarkup_end (named : IsWrittenName name) (opened : List (List Char))
    (rest : List Char) :
    readMarkup (name :: opened) ('/' :: (name ++ '>' :: rest))
      = .ok ⟨.close, opened, utf8Length name + 3, rest⟩ := by
  have cut : cutTag none (name ++ '>' :: rest) = some (name, rest) := by
    rw [StaysInTag.bare named.bare]
    simp [cutTag]
  simp only [readMarkup, readEnd]
  rw [cut]
  simp only [closedName_of_isWrittenName named, if_true]

/-! ### Elements -/

theorem Takes.behind_leaf {l : Leaf} {rest : Forest} (takes : r.Takes (.leaf l rest))
    (b : Builder) : ({ r with builder := b } : Reading).Takes rest := by
  rw [Takes] at takes ⊢
  split
  · next outside =>
    rw [if_pos outside, Forest.isOutermost, Bool.and_eq_true] at takes
    exact takes.2
  · next inside => rwa [if_neg inside] at takes

theorem Takes.first_of_outside {content rest : Forest} (takes : r.Takes (.element e content rest))
    (outside : r.scopes = []) : r.seenRoot = false := by
  rw [Takes, if_pos outside, Forest.isOutermost, Bool.and_eq_true, Bool.not_eq_true'] at takes
  exact takes.1

theorem Takes.behind_element {content rest : Forest} (takes : r.Takes (.element e content rest))
    (f : Forest) : (r.adding f).Takes rest := by
  rw [Takes] at takes ⊢
  split
  · next outside =>
    have outside : r.scopes = [] := outside
    rw [if_pos outside, Forest.isOutermost, Bool.and_eq_true] at takes
    exact takes.2
  · rfl

theorem takes_opening (r : Reading) (e : Element) (scope : Scope) (f : Forest) :
    (r.opening e scope).Takes f := by
  have inside : (r.opening e scope).scopes ≠ [] := List.cons_ne_nil _ _
  rw [Takes, if_neg inside]
  rfl

/-- A text can come next inside an element. -/
theorem step_text {s : String} {rest : Forest} (takes : r.Takes (.leaf (.text s) rest))
    (stop : Nat) :
    r.step (.text (escapeText s.toList)) stop
      = .ok { r with builder := r.builder.addLeaf (.text s) } := by
  have inside : r.scopes.isEmpty = false := by
    cases scopes : r.scopes with
    | nil => rw [Takes, if_pos scopes] at takes; cases takes
    | cons => rfl
  rw [step, (resolvesTo_escapeText s.toList).resolve]
  dsimp only
  rw [addText, inside, String.ofList_toList]
  rfl

/-- Where an element can come next, its start tag opens it. -/
theorem openElement_written (agrees : r.bindings.AgreesWith outer) (writable : e.Writable)
    (first : r.scopes = [] → r.seenRoot = false) :
    ∃ e' scope, e'.name = e.name ∧ e'.attributes = e.attributes
      ∧ scope.bindings.AgreesWith e.bindings
      ∧ ∀ stop, r.openElement (writeTag e.name.lexical.toList (e.writtenAttributes outer)) stop
        = .ok (r.opening e' scope) := by
  obtain ⟨e', read, name, attributes, inside⟩ := elementOfTag_written agrees writable
  refine ⟨e', ⟨e.name.lexical, e'.bindings, e'.base⟩, name, attributes, inside, fun stop => ?_⟩
  have free : (r.scopes.isEmpty && r.seenRoot) = false := by
    cases scopes : r.scopes with
    | nil => rw [first scopes, Bool.and_false]
    | cons scope scopes => rfl
  rw [openElement, free, read, tagName_writeTag writable.name, String.ofList_toList]
  rfl

/-- What was opened is ended: it has been added, with what was added inside it. -/
theorem closeElement_opened (r : Reading) (e : Element) (scope : Scope) (content : Forest)
    (stop : Nat) :
    ((r.opening e scope).adding content).closeElement stop
      = .ok (r.adding (.element e content .nil)) := by
  obtain ⟨b, closed, same⟩ := r.builder.addForest_element e content .nil
  rw [Reading.closeElement]
  simp only [adding, opening]
  rw [closed, same]
  rfl

/-- An element without content is read as its tag. -/
theorem reads_empty {e' : Element} {scope : Scope} (writable : e.Writable)
    (opens : ∀ stop, r.openElement (writeTag e.name.lexical.toList (e.writtenAttributes outer)) stop
      = .ok (r.opening e' scope)) {after : List Char}
    (h : (r.adding (.element e' .nil .nil)).Reads opened after d) :
    r.Reads opened (e.writeStart outer ++ (['/', '>'] ++ after)) d := by
  have keys := Element.isWrittenName_writtenAttributes outer writable
  rw [Element.writeStart_eq, List.cons_append]
  refine Reads.markup (readMarkup_empty writable.name keys opened after) ?_ (fun stop => ?_) h
  · simp only [List.length_append, List.length_cons]
    omega
  · show (do (← r.openElement _ stop).closeElement stop) = _
    rw [opens]
    exact closeElement_opened r e' scope .nil stop

/-- An element with content is read as a start tag, its content, and an end tag. -/
theorem reads_start {e' : Element} {scope : Scope} (writable : e.Writable)
    (opens : ∀ stop, r.openElement (writeTag e.name.lexical.toList (e.writtenAttributes outer)) stop
      = .ok (r.opening e' scope)) {content : Forest} {written after : List Char}
    (reads : ∀ {after d}, IsMarkupAhead after
      → ((r.opening e' scope).adding content).Reads (e.name.lexical.toList :: opened) after d
      → (r.opening e' scope).Reads (e.name.lexical.toList :: opened) (written ++ after) d)
    (h : (r.adding (.element e' content .nil)).Reads opened after d) :
    r.Reads opened (e.writeStart outer ++ '>' :: (written ++ '<' :: '/' :: (e.name.lexical.toList
      ++ '>' :: after))) d := by
  have keys := Element.isWrittenName_writtenAttributes outer writable
  have ended : ((r.opening e' scope).adding content).Reads (e.name.lexical.toList :: opened)
      ('<' :: '/' :: (e.name.lexical.toList ++ '>' :: after)) d := by
    refine Reads.markup (readMarkup_end writable.name opened after) ?_ (fun stop => ?_) h
    · simp only [List.length_append, List.length_cons]
      omega
    · exact closeElement_opened r e' scope content stop
  have inside := reads (fun c hc => by cases hc; rfl) ended
  rw [Element.writeStart_eq, List.cons_append]
  refine Reads.markup (readMarkup_start writable.name keys opened _) ?_ opens inside
  simp only [List.length_append, List.length_cons]
  omega

/-- An element is read as if one with the same name and attributes were added, if its content is. -/
theorem reads_element {content : Forest} (agrees : r.bindings.AgreesWith outer)
    (writable : e.Writable) (first : r.scopes = [] → r.seenRoot = false)
    (opened : List (List Char)) (i : Nat)
    (inside : ∀ r' : Reading, r'.bindings.AgreesWith e.bindings → r'.Takes content
      → ∃ content', content.Recast SameMarkup i (i + 1) content' ∧ ∀ {after d},
        IsMarkupAhead after → (r'.adding content').Reads (e.name.lexical.toList :: opened) after d
        → r'.Reads (e.name.lexical.toList :: opened) (content.write e.bindings ++ after) d) :
    ∃ e' content', (e'.name = e.name ∧ e'.attributes = e.attributes)
      ∧ content.Recast SameMarkup i (i + 1) content'
      ∧ ∀ {after d}, (r.adding (.element e' content' .nil)).Reads opened after d
        → r.Reads opened ((Forest.element e content .nil).write outer ++ after) d := by
  obtain ⟨e', scope, name, attributes, known, opens⟩ := openElement_written agrees writable first
  obtain ⟨content', recast, reads⟩ := inside (r.opening e' scope) known (takes_opening ..)
  refine ⟨e', content', ⟨name, attributes⟩, recast, fun {after d} h => ?_⟩
  cases empty : content.isEmpty with
  | true =>
    obtain rfl := Forest.eq_nil_of_isEmpty empty
    cases recast
    simpa [Forest.write, Forest.isEmpty] using reads_empty writable opens h
  | false =>
    simpa [Forest.write, empty] using reads_start writable opens reads h

end

/-- A forest in writing is read as if a forest with the same names and attributes were added. -/
theorem reads_write {f : Forest} (writable : f.AllKinds NodeKind.Writable) (merged : f.isMerged)
    {r : Reading} {outer : Bindings} (agrees : r.bindings.AgreesWith outer) (takes : r.Takes f)
    (opened : List (List Char)) (parent first : Nat) :
    ∃ f', f.Recast SameMarkup parent first f' ∧ ∀ {after d}, IsMarkupAhead after
      → (r.adding f').Reads opened after d → r.Reads opened (f.write outer ++ after) d := by
  induction f generalizing r outer opened parent first with
  | nil =>
    -- Nothing is left to come, so the root is not still expected.
    have seen : r.seenRoot = true := by
      rw [Takes] at takes
      split at takes <;> exact takes
    have same : r.adding .nil = r := by
      rw [adding, ← seen]
      rfl
    exact ⟨.nil, .nil parent first, fun _ h => same ▸ h⟩
  | leaf l rest ih =>
    obtain ⟨rest', behind, reads⟩ := ih (r := { r with builder := r.builder.addLeaf l })
      writable.2 (Forest.isMerged_rest merged) agrees (takes.behind_leaf _) opened parent
      (first + 1)
    refine ⟨.leaf l rest', .leaf behind, fun {after d} ahead h => ?_⟩
    have later := @reads after d ahead h
    rw [Forest.write, List.append_assoc]
    cases text : l.isText with
    | false =>
      obtain ⟨inside, event, length, written, read, step⟩ :=
        Leaf.readMarkup_write writable.1 text
      rw [written, List.cons_append]
      exact Reads.markup (read opened _) (by simp) (step r) later
    | true =>
      obtain ⟨s, rfl⟩ := Leaf.exists_of_isText text
      obtain ⟨nonempty, noText, -⟩ := Forest.isMerged_text.mp merged
      -- Texts are merged, so that what follows a text is markup, and the text ends there.
      refine Reads.text (escapeText_ne_nil (mt String.toList_eq_nil_iff.mp nonempty))
        (not_mem_escapeText s.toList) (isMarkupAhead_write noText ahead) (fun stop => ?_) later
      exact step_text takes stop
  | element e content rest ihc ih =>
    obtain ⟨writable, inside, behind⟩ := writable
    obtain ⟨mergedInside, mergedBehind⟩ := Forest.isMerged_element.mp merged
    obtain ⟨e', content', same, recast, here⟩ := reads_element agrees writable
      takes.first_of_outside opened first fun r' agrees' takes' =>
        ihc inside mergedInside agrees' takes' _ first (first + 1)
    obtain ⟨rest', behind', reads⟩ := ih (r := r.adding (.element e' content' .nil)) behind
      mergedBehind agrees (takes.behind_element _) opened parent (first + content.size + 1)
    refine ⟨.element e' content' rest', .element same recast behind', fun {after d} ahead h => ?_⟩
    have later := @reads after d ahead h
    have one : (Forest.element e content rest).write outer
        = (Forest.element e content .nil).write outer ++ rest.write outer := by
      simp [Forest.write]
    rw [one, List.append_assoc]
    exact here later

theorem scan_of_isMarkupAhead {input : List Char} (ahead : IsMarkupAhead input) :
    scan input = scanUpTo input.length [] 0 input := by
  cases input with
  | nil => rfl
  | cons c input =>
    obtain rfl := ahead c rfl
    rfl

end Reading

/-! ### Documents -/

theorem Forest.startsWithText_of_isOutermost {f : Forest} {seen : Bool}
    (h : f.isOutermost seen = true) : f.startsWithText = false := by
  cases f with
  | nil | element => rfl
  | leaf l rest =>
    cases l with
    | text s => cases h
    | comment | instruction => rfl

/-- With the same names and attributes everywhere, forests are deeply equal. -/
theorem Forest.Recast.deepEqual {parent first : Nat} {f f' : Forest}
    (h : f.Recast SameMarkup parent first f') : f'.deepEqual f = true := by
  induction h with
  | nil => rfl
  | leaf _ ih => rw [Forest.deepEqual, ih, decide_eq_true rfl, Bool.and_self]
  | element here _ _ ihi ihb =>
    rw [Forest.deepEqual, ihi, ihb, Element.agrees, here.1, here.2, Table.sameEntries_self,
      decide_eq_true rfl]
    rfl

/-- A document in writing is read with the same names and attributes in all places. -/
theorem Document.read_write_of_writable (base : Option String) {d : Document}
    (writable : d.content.AllKinds NodeKind.Writable) (merged : d.content.isMerged)
    (outermost : d.content.isOutermost false = true) :
    ∃ d', Document.read base d.write = .ok d'
      ∧ Document.Recast SameMarkup ⟨base, d.content⟩ d' := by
  have agrees : (Reading.start base).bindings.AgreesWith .empty := ⟨rfl, fun _ _ _ _ h => h⟩
  obtain ⟨f', recast, reads⟩ := Reading.reads_write writable merged agrees outermost [] 0 1
  have finished : ((Reading.start base).adding f').finish = .ok ⟨base, f'⟩ := by
    have built := Builder.finish_addForest base (recast.isMerged merged)
    exact congrArg (Except.mapError XmlError.tree) built
  have read := reads .nil (.finish finished)
  have noText := Forest.startsWithText_of_isOutermost outermost
  have ahead : Reading.IsMarkupAhead (d.content.write .empty ++ []) :=
    Reading.isMarkupAhead_write noText .nil
  rw [List.append_nil] at read ahead
  refine ⟨⟨base, f'⟩, ?_, rfl, recast⟩
  rw [Document.read, Document.write, String.toList_ofList, Reading.scan_of_isMarkupAhead ahead]
  exact read _ 0 (Nat.le_refl _)

end Transclusion
