import Transclusion.Proofs.Markup.ReadDocuments
/-!
# Open elements of a reading

A reading holds a scope for every element that its builder has open, so that the builder is never
asked to close an element when none is open, nor to finish when one is.  How many are open is what
the events so far leave open (`Event.LeavesOpen`), and a document is only read from events that
leave nothing open (`Event.Balanced`).

* `Event.LeavesOpen.follows`: what one event does to the number of open elements.
* `Reading.failsOnly_step`: no event is refused by the builder.
* `EventScan.reads_in_step`: all of this for any events at all, with the shape of the document.
-/

namespace Transclusion

open Event

/-! ### Events that are balanced -/

namespace Event

/-- Every start is closed by an end behind it, and every end closes a start. -/
inductive Balanced : List Event → Prop where
  | nil : Balanced []
  | other {event : Event} {behind : List Event} (noStart : ∀ tag, event ≠ .start tag)
      (noEnd : event ≠ .close) (rest : Balanced behind) : Balanced (event :: behind)
  | pair (tag : List Char) {inside behind : List Event} (content : Balanced inside)
      (rest : Balanced behind) : Balanced (.start tag :: (inside ++ .close :: behind))

/-- All starts but this many are closed, and every end closes a start. -/
inductive LeavesOpen : Nat → List Event → Prop where
  | none {events : List Event} (all : Balanced events) : LeavesOpen 0 events
  | start {n : Nat} {before : List Event} (outer : LeavesOpen n before) (tag : List Char)
      {inside : List Event} (content : Balanced inside) :
      LeavesOpen (n + 1) (before ++ .start tag :: inside)

variable {events later : List Event} {n : Nat}

theorem Balanced.append (h : Balanced events) (h' : Balanced later) :
    Balanced (events ++ later) := by
  induction h with
  | nil => exact h'
  | other noStart noEnd _ ih => exact .other noStart noEnd ih
  | pair tag content _ _ ih =>
    rw [List.cons_append, List.append_assoc, List.cons_append]
    exact .pair tag content ih

theorem LeavesOpen.append (h : LeavesOpen n events) (h' : Balanced later) :
    LeavesOpen n (events ++ later) := by
  cases h with
  | none all => exact .none (all.append h')
  | start outer tag content =>
    rw [List.append_assoc, List.cons_append]
    exact .start outer tag (content.append h')

theorem LeavesOpen.opens (h : LeavesOpen n events) (tag : List Char) :
    LeavesOpen (n + 1) (events ++ [.start tag]) := .start h tag .nil

theorem LeavesOpen.closes (h : LeavesOpen (n + 1) events) :
    LeavesOpen n (events ++ [.close]) := by
  cases h with
  | start outer tag content =>
    -- The end goes with the last start that is open.
    have closed := outer.append (.pair tag content .nil)
    rwa [List.append_assoc, List.cons_append]

theorem LeavesOpen.balanced (h : LeavesOpen 0 events) : Balanced events := by
  cases h with
  | none all => exact all

open Reading in
/-- **There is a scope for everything that is open**: this is kept by each event. -/
theorem LeavesOpen.follows {r r' : Reading} {event : Event} {stop : Nat}
    (h : LeavesOpen r.scopes.length events) (step : r.Follows stop event r') :
    LeavesOpen r'.scopes.length (events ++ [event]) := by
  cases step with
  | start opens =>
    obtain ⟨-, e, -, rfl⟩ := opening_of_openElement opens
    exact h.opens _
  | empty opens closes =>
    obtain ⟨-, e, -, rfl⟩ := opening_of_openElement opens
    obtain ⟨scope, b, inside, -⟩ := closing_of_closeElement closes
    obtain ⟨-, same⟩ := List.cons.inj inside
    rw [← same]
    exact h.append (.other nofun nofun .nil)
  | close closes =>
    obtain ⟨scope, b, inside, -⟩ := closing_of_closeElement closes
    rw [inside] at h
    exact h.closes
  | aside untagged noEnd added =>
    refine h.append (.other ?_ noEnd .nil)
    rintro tag rfl
    cases untagged

end Event

/-! ### Errors of the builder -/

/-- An error of the text, not of the builder. -/
def XmlError.IsOfText (e : XmlError) : Prop := ∀ error, e ≠ .tree error

theorem failsOnly_readAttributesUpTo {ε α : Type} {p : ε → Prop} {fault : AttributeFault → ε}
    {use : RawAttribute → Except ε α} (faults : ∀ f, p (fault f))
    (uses : ∀ raw, FailsOnly p (use raw)) (count : Nat) (seen : List (List Char × Nat))
    (cursor : TagCursor) : FailsOnly p (readAttributesUpTo fault use count seen cursor) := by
  induction count generalizing seen cursor with
  | zero => exact failsOnly_ok []
  | succ count ih =>
    rw [readAttributesUpTo]
    split
    · exact failsOnly_error (faults _)
    · exact failsOnly_ok []
    · refine (uses _).bind fun used _ => ?_
      exact (ih _ _).bind fun rest _ => failsOnly_ok _

theorem failsOnly_attributesOfTag (tag : List Char) (stop : Nat) :
    FailsOnly XmlError.IsOfText (attributesOfTag tag stop) := by
  refine failsOnly_readAttributesUpTo (fun _ => by rintro _ ⟨⟩) (fun raw => ?_) _ _ _
  split
  · exact failsOnly_ok _
  · exact failsOnly_error (by rintro _ ⟨⟩)

theorem QName.failsOnly_resolve (bindings : Bindings) (useDefault : Bool) (written : String) :
    FailsOnly XmlError.IsOfText (resolve bindings useDefault written) := by
  rw [resolve]
  split
  · split
    · exact failsOnly_ok _
    · split
      · exact failsOnly_ok _
      · exact failsOnly_error (by rintro _ ⟨⟩)
  · split <;> exact failsOnly_ok _

theorem failsOnly_resolveAttributes (bindings : Bindings) (element : String) (stop : Nat)
    (attributes : List (String × String)) :
    FailsOnly XmlError.IsOfText (resolveAttributes bindings element stop attributes) := by
  rw [resolveAttributes_eq]
  refine failsOnly_foldlM (fun _ => True) trivial (fun _ _ _ _ _ => trivial) fun table a _ => ?_
  rw [resolveAttribute]
  split
  · exact failsOnly_ok _
  · refine (QName.failsOnly_resolve _ _ _).bind fun name _ => ?_
    dsimp only
    split
    · exact failsOnly_error (by rintro _ ⟨⟩)
    · exact failsOnly_ok _

namespace Reading

variable {r : Reading} {tag : List Char} {stop : Nat}

theorem failsOnly_openElement : FailsOnly XmlError.IsOfText (r.openElement tag stop) := by
  rw [openElement]
  dsimp only
  split
  · exact failsOnly_error (by rintro _ ⟨⟩)
  · rw [elementOfTag]
    refine FailsOnly.bind ?_ fun e _ => failsOnly_ok _
    refine (failsOnly_attributesOfTag tag stop).bind fun attributes _ => ?_
    refine (QName.failsOnly_resolve _ _ _).bind fun name _ => ?_
    exact (failsOnly_resolveAttributes _ _ _ _).bind fun resolved _ => failsOnly_ok _

theorem failsOnly_closeElement (depth : r.scopes.length = r.builder.opened.length) :
    FailsOnly XmlError.IsOfText (r.closeElement stop) := by
  rw [closeElement]
  split
  · exact failsOnly_error (by rintro _ ⟨⟩)
  · next scope outer inside =>
    -- Where there is a scope, there is an element to close.
    cases opened : r.builder.opened with
    | nil =>
      rw [inside, opened] at depth
      cases depth
    | cons top rest =>
      rw [Builder.closeElement, opened]
      exact failsOnly_ok _

theorem failsOnly_addText {text : List Char} :
    FailsOnly XmlError.IsOfText (r.addText text stop) := by
  rw [addText]
  split
  · split
    · exact failsOnly_ok _
    · exact failsOnly_error (by rintro _ ⟨⟩)
  · exact failsOnly_ok _

/-- **No event is refused by the builder**, as long as there is a scope for each open element. -/
theorem failsOnly_step (depth : r.scopes.length = r.builder.opened.length) (event : Event) :
    FailsOnly XmlError.IsOfText (r.step event stop) := by
  unfold step
  split
  · exact failsOnly_openElement
  · refine failsOnly_openElement.bind fun opened opens => failsOnly_closeElement ?_
    obtain ⟨-, e, -, rfl⟩ := opening_of_openElement opens
    exact congrArg (· + 1) depth
  · exact failsOnly_closeElement depth
  · split
    · exact failsOnly_addText
    · exact failsOnly_error (by rintro _ ⟨⟩)
  · exact failsOnly_addText
  · exact failsOnly_ok _
  · exact failsOnly_ok _
  · exact failsOnly_ok _

theorem isRooted_of_run {base : Option String} {events : List PlacedEvent}
    (h : run base events = .ok r) : r.IsRooted :=
  kept_of_run (isRooted_start base) (fun _ _ _ _ hr moves => hr.moves moves) h

/-- After some events, what is open are the starts that are not closed. -/
theorem leavesOpen_of_run {base : Option String} {events : List PlacedEvent}
    (h : run base events = .ok r) :
    LeavesOpen r.scopes.length (events.map (·.event)) := by
  have atStart : LeavesOpen (start base).scopes.length [] := .none .nil
  refine foldlM_keeps_so_far (fun (before : List PlacedEvent) (r : Reading) =>
    LeavesOpen r.scopes.length (before.map (·.event))) atStart ?_ h
  intro before e r r' soFar step
  rw [List.map_append]
  exact soFar.follows (follows_of_step step)

theorem failsOnly_run (base : Option String) (events : List PlacedEvent) :
    FailsOnly XmlError.IsOfText (run base events) :=
  failsOnly_foldlM IsRooted (isRooted_start base)
    (fun _ _ _ h step => kept_of_step (fun _ _ hr moves => hr.moves moves) step h)
    fun _ e h => failsOnly_step h.depth e.event

theorem failsOnly_finish (depth : r.scopes.length = r.builder.opened.length) :
    FailsOnly XmlError.IsOfText r.finish := by
  rw [finish]
  split
  · exact failsOnly_error (by rintro _ ⟨⟩)
  · next outside =>
    split
    · rw [outside] at depth
      rw [Builder.finish, List.eq_nil_of_length_eq_zero depth.symm]
      exact failsOnly_ok _
    · exact failsOnly_error (by rintro _ ⟨⟩)

end Reading

/-! ### One element at the top -/

namespace Forest.PlacedIn

variable {d : Document} {parent first : Nat} {f : Forest}

/-- What `isOutermost` says of the nodes at the top of a forest. -/
theorem one_of_isOutermost (h : f.PlacedIn d parent first) {seen : Bool}
    (outermost : f.isOutermost seen = true) :
    ((f.topIds first).filter d.nodes.isElement).length = (if seen then 0 else 1)
      ∧ ∀ i ∈ f.topIds first, ∀ l ∈ d.nodes.leaf? i, l.isText = false := by
  induction f generalizing first seen with
  | nil =>
    obtain rfl : seen = true := outermost
    exact ⟨rfl, List.forall_mem_nil _⟩
  | leaf l rest ih =>
    rw [isOutermost, Bool.and_eq_true, Bool.not_eq_true'] at outermost
    obtain ⟨one, noText⟩ := ih h.behind_leaf outermost.2
    have noElement : d.nodes.isElement first = false := by
      rw [NodeList.isElement, NodeList.element?, h.kind?_leaf]
      rfl
    refine ⟨?_, List.forall_mem_cons.mpr ⟨fun l' found => ?_, noText⟩⟩
    · rwa [topIds, List.filter_cons_of_neg (by simp [noElement])]
    · rw [NodeList.leaf?, h.kind?_leaf] at found
      cases found
      exact outermost.1
  | element e content rest _ ih =>
    rw [isOutermost, Bool.and_eq_true, Bool.not_eq_true'] at outermost
    -- This is the first element, and behind it there is no other.
    obtain ⟨rfl, behind⟩ := outermost
    obtain ⟨one, noText⟩ := ih h.behind_element behind
    have isElement : d.nodes.isElement first = true := by
      rw [NodeList.isElement, NodeList.element?, h.kind?_element]
      rfl
    refine ⟨?_, List.forall_mem_cons.mpr ⟨fun l found => ?_, noText⟩⟩
    · rw [topIds, List.filter_cons_of_pos isElement, List.length_cons, one]
      rfl
    · rw [NodeList.leaf?, h.kind?_element] at found
      cases found

end Forest.PlacedIn

/-- The document has one element at its top, and no text beside it. -/
structure Document.SingleRooted (d : Document) : Prop where
  root : ∃ i, d.nodes.elementChildren 0 = [i]
  noText : ∀ i ∈ d.nodes.children 0, ∀ s, d.nodes.leaf? i ≠ some (.text s)

theorem Document.singleRooted_of_isOutermost {d : Document}
    (h : d.content.isOutermost false = true) : d.SingleRooted := by
  have top : d.nodes.children 0 = d.content.topIds 1 :=
    Forest.PlacedIn.children_eq_topIds (i := 0) (t := .document d) rfl
  obtain ⟨one, noText⟩ := (Forest.PlacedIn.of_document d).one_of_isOutermost h
  rw [← top] at one noText
  refine ⟨List.length_eq_one_iff.mp one, fun i child s text => ?_⟩
  cases noText i child _ text

/-! ### Readings of any events -/

/-- The scan of some events, after which there may be a fault in the markup. -/
def EventScan.ofEvents (events : List PlacedEvent) (fault : Option (WellFormednessFault × Nat)) :
    EventScan :=
  ⟨events, fault.map fun (fault, position) => .malformed fault position⟩

/-- **A reading and its builder go in step**, whatever the events are: after any of them there are
as many scopes as open elements, namely one for each start that is not closed; the builder refuses
nothing; and what is read has one element at the top, with no text beside it, and all that was
started has been closed. -/
theorem EventScan.reads_in_step (base : Option String) (events : List PlacedEvent)
    (fault : Option (WellFormednessFault × Nat)) :
    (∀ before r, before <+: events → Reading.run base before = .ok r →
        r.scopes.length = r.builder.depth
          ∧ LeavesOpen r.builder.depth (before.map (·.event)))
      ∧ (∀ error, (ofEvents events fault).toDocument base ≠ .error (.tree error))
      ∧ ∀ d, (ofEvents events fault).toDocument base = .ok d →
        d.SingleRooted ∧ Balanced (events.map (·.event)) := by
  refine ⟨fun before r _ h => ?_, fun error h => ?_, fun d h => ?_⟩
  · have depth : r.scopes.length = r.builder.depth := (Reading.isRooted_of_run h).depth
    refine ⟨depth, ?_⟩
    rw [← depth]
    exact Reading.leavesOpen_of_run h
  · have ofText : FailsOnly XmlError.IsOfText ((ofEvents events fault).toDocument base) := by
      refine (Reading.failsOnly_run base events).bind fun r read => ?_
      cases fault with
      | some fault => exact failsOnly_error (by rintro _ ⟨⟩)
      | none => exact Reading.failsOnly_finish (Reading.isRooted_of_run read).depth
    exact ofText _ h error rfl
  · obtain ⟨r, read, outside, seen, finished⟩ := read_of_toDocument h
    have rooted := Reading.isRooted_of_run read
    have open_ := Reading.leavesOpen_of_run read
    rw [outside] at open_
    exact ⟨Document.singleRooted_of_isOutermost (rooted.isOutermost_of_finish seen finished),
      open_.balanced⟩

/-- The events of `<a><b/>x</a><!---->`. -/
def EventScan.nestedTags : List PlacedEvent :=
  [⟨.start ['a'], 3⟩, ⟨.empty ['b'], 7⟩, ⟨.text ['x'], 8⟩, ⟨.close, 12⟩, ⟨.comment [], 19⟩]

/-- One element is open before the end in these events, and none behind it. -/
theorem EventScan.reads_in_step_nestedTags :
    (∃ r, Reading.run none (nestedTags.take 3) = .ok r ∧ r.scopes.length = 1
        ∧ r.builder.depth = 1)
      ∧ ∃ d, (ofEvents nestedTags none).toDocument none = .ok d ∧ d.SingleRooted
        ∧ Balanced (nestedTags.map (·.event)) := by
  obtain ⟨open_, -, read⟩ := reads_in_step none nestedTags none
  obtain ⟨inside, -⟩ := open_ (nestedTags.take 3) _ (List.take_prefix 3 _) rfl
  exact ⟨⟨_, rfl, inside, rfl⟩, _, rfl, read _ rfl⟩

end Transclusion
