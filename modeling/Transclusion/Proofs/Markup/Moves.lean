import Mathlib.Logic.Relation
import Transclusion.Markup.Reading
import Transclusion.Proofs.Outcome
/-!
# The moves of a reading

Reading an event opens an element, closes one, adds a text or a leaf, or does nothing; the tag of an
element without content opens and closes it (`Reading.moves_of_step`).  So what holds of an empty
reading and is kept by each of these moves holds of the reading that a document is made of
(`Document.exists_kept_of_read`).  `Reading.Follows` says which of the moves an event of each kind
is made of.
-/

namespace Transclusion

open Text

namespace Event

/-- The tag of an event, if it is one of a start. -/
def tag? : Event → Option (List Char)
  | start tag => some tag
  | empty tag => some tag
  | _ => none

/-- The comment or instruction that an event is kept as. -/
def leaf? : Event → Option Leaf
  | comment raw => some (.comment (String.ofList raw))
  | instruction target data =>
    some (.instruction (String.ofList target) (String.ofList (trimStart data)))
  | _ => none

end Event

namespace Reading

/-- The reading after an element was opened. -/
def opening (r : Reading) (e : Element) (scope : Scope) : Reading :=
  { r with
    builder := r.builder.openElement e
    scopes := scope :: r.scopes
    seenRoot := true }

/-- What is done in reading an event that ends at `stop`: an element is opened where one can be, or
closed, or a text is added inside of elements, or a leaf. -/
inductive Moves (event : Event) (stop : Nat) : Reading → Reading → Prop
  | opening {r : Reading} {tag : List Char} {e : Element} (tagged : event.tag? = some tag)
      (first : r.scopes = [] → r.seenRoot = false) (read : r.elementOfTag tag stop = .ok e) :
      Moves event stop r (r.opening e ⟨String.ofList (tagName tag), e.bindings, e.base⟩)
  | closing {r : Reading} {scope : Scope} {scopes : List Scope} {b : Builder}
      (inside : r.scopes = scope :: scopes) (closed : r.builder.closeElement = .ok b) :
      Moves event stop r { r with builder := b, scopes }
  | text {r : Reading} (s : String) (inside : r.scopes ≠ []) :
      Moves event stop r { r with builder := r.builder.addText s }
  | leaf {r : Reading} {l : Leaf} (kept : event.leaf? = some l) :
      Moves event stop r { r with builder := r.builder.addLeaf l }

variable {event : Event} {tag : List Char} {stop : Nat} {r r' : Reading}

theorem opening_of_openElement (h : r.openElement tag stop = .ok r') :
    (r.scopes = [] → r.seenRoot = false) ∧ ∃ e, r.elementOfTag tag stop = .ok e
      ∧ r' = r.opening e ⟨String.ofList (tagName tag), e.bindings, e.base⟩ := by
  rw [openElement] at h
  dsimp only at h
  split at h
  · cases h
  · next free =>
    obtain ⟨e, read, h⟩ := bind_eq_ok_iff.mp h
    cases h
    refine ⟨fun outside => ?_, e, read, rfl⟩
    simpa [outside] using free

theorem closing_of_closeElement (h : r.closeElement stop = .ok r') :
    ∃ scope b, r.scopes = scope :: r'.scopes ∧ r.builder.closeElement = .ok b
      ∧ r' = { r with builder := b, scopes := r'.scopes } := by
  rw [closeElement] at h
  split at h
  · cases h
  · next inside =>
    split at h
    · next closed =>
      cases h
      exact ⟨_, _, inside, closed, rfl⟩
    · cases h

theorem text_of_addText {text : List Char} (h : r.addText text stop = .ok r') :
    r' = r ∨ r.scopes ≠ [] ∧ r' = { r with builder := r.builder.addText (String.ofList text) } := by
  rw [addText] at h
  split at h
  · split at h
    · cases h
      exact .inl rfl
    · cases h
  · next inside =>
    cases h
    exact .inr ⟨fun outside => inside (by rw [outside]; rfl), rfl⟩

theorem moves_openElement (tagged : event.tag? = some tag) (h : r.openElement tag stop = .ok r') :
    Moves event stop r r' := by
  obtain ⟨first, e, read, rfl⟩ := opening_of_openElement h
  exact .opening tagged first read

theorem moves_closeElement (h : r.closeElement stop = .ok r') : Moves event stop r r' := by
  obtain ⟨scope, b, inside, closed, same⟩ := closing_of_closeElement h
  rw [same]
  exact .closing inside closed

theorem moves_addText {text : List Char} (h : r.addText text stop = .ok r') :
    Relation.ReflTransGen (Moves event stop) r r' := by
  obtain rfl | ⟨inside, rfl⟩ := text_of_addText h
  · exact .refl
  · exact .single (.text _ inside)

/-- **What reading an event does**: a tag without content opens an element and closes it, and any
other event does at most one thing. -/
theorem moves_of_step (h : r.step event stop = .ok r') :
    Relation.ReflTransGen (Moves event stop) r r' := by
  unfold Reading.step at h
  split at h
  · exact .single (moves_openElement rfl h)
  · obtain ⟨opened, opens, closes⟩ := bind_eq_ok_iff.mp h
    exact .tail (.single (moves_openElement rfl opens)) (moves_closeElement closes)
  · exact .single (moves_closeElement h)
  · split at h
    · exact moves_addText h
    · cases h
  · exact moves_addText h
  · cases h
    exact .single (.leaf rfl)
  · cases h
    exact .single (.leaf rfl)
  · cases h
    exact .refl

/-- What is kept by all moves is kept in reading an event. -/
theorem kept_of_step {kept : Reading → Prop}
    (moves : ∀ r r', kept r → Moves event stop r r' → kept r')
    (h : r.step event stop = .ok r') (hr : kept r) : kept r' := by
  have chain := moves_of_step h
  clear h
  induction chain with
  | refl => exact hr
  | tail _ here ih => exact moves _ _ ih here

/-- **What reading each kind of event does** to the open elements: the tag of a start opens one,
that of an element without content opens and closes it, an end closes one, and all else adds no more
than a leaf. -/
inductive Follows (stop : Nat) (r : Reading) : Event → Reading → Prop where
  | start {tag : List Char} {r' : Reading} (opens : r.openElement tag stop = .ok r') :
      Follows stop r (.start tag) r'
  | empty {tag : List Char} {opened r' : Reading} (opens : r.openElement tag stop = .ok opened)
      (closes : opened.closeElement stop = .ok r') : Follows stop r (.empty tag) r'
  | close {r' : Reading} (closes : r.closeElement stop = .ok r') : Follows stop r .close r'
  | aside {event : Event} {b : Builder} (untagged : event.tag? = none) (noEnd : event ≠ .close)
      (added : b = r.builder ∨ ∃ l, b = r.builder.addLeaf l) :
      Follows stop r event { r with builder := b }

theorem follows_addText {text : List Char} (untagged : event.tag? = none) (noEnd : event ≠ .close)
    (h : r.addText text stop = .ok r') : Follows stop r event r' := by
  obtain rfl | ⟨-, rfl⟩ := text_of_addText h
  · exact .aside untagged noEnd (.inl rfl)
  · exact .aside untagged noEnd (.inr ⟨.text _, rfl⟩)

theorem follows_of_step (h : r.step event stop = .ok r') : Follows stop r event r' := by
  unfold Reading.step at h
  split at h
  · exact .start h
  · obtain ⟨opened, opens, closes⟩ := bind_eq_ok_iff.mp h
    exact .empty opens closes
  · exact .close h
  · split at h
    · exact follows_addText rfl nofun h
    · cases h
  · exact follows_addText rfl nofun h
  · cases h
    exact .aside rfl nofun (.inr ⟨_, rfl⟩)
  · cases h
    exact .aside rfl nofun (.inr ⟨_, rfl⟩)
  · cases h
    exact .aside rfl nofun (.inl rfl)

/-- The reading after some events, from the start of a text. -/
def run (base : Option String) (events : List PlacedEvent) : Except XmlError Reading :=
  events.foldlM (fun r e => r.step e.event e.stop) (start base)

end Reading

/-- What is left when a document has been read: no fault, and no element that is open. -/
theorem EventScan.read_of_toDocument {base : Option String} {scan : EventScan} {d : Document}
    (h : scan.toDocument base = .ok d) :
    ∃ r, Reading.run base scan.events = .ok r ∧ r.scopes = [] ∧ r.seenRoot = true
      ∧ r.builder.finish = .ok d := by
  unfold EventScan.toDocument at h
  obtain ⟨last, read, h⟩ := bind_eq_ok_iff.mp h
  refine ⟨last, read, ?_⟩
  split at h
  · cases h
  · rw [Reading.finish] at h
    split at h
    · cases h
    · next outside =>
      split at h
      · next seen => exact ⟨outside, seen, mapError_eq_ok_iff.mp h⟩
      · cases h

/-- What holds at the start of a text, and is kept by all moves, holds after some events. -/
theorem Reading.kept_of_run {base : Option String} {events : List PlacedEvent} {r : Reading}
    {kept : Reading → Prop} (start : kept (Reading.start base))
    (moves : ∀ e ∈ events, ∀ r r', kept r → Reading.Moves e.event e.stop r r' → kept r')
    (h : Reading.run base events = .ok r) : kept r :=
  foldlM_keeps kept start (fun _ e _ hr he step => Reading.kept_of_step (moves e he) step hr) h

/-- What holds at the start of a text, and is kept by all moves, holds at the end of a text that is
read as a document. No element is open then. -/
theorem Document.exists_kept_of_read {base : Option String} {text : String} {d : Document}
    {kept : Reading → Prop} (start : kept (Reading.start base))
    (moves : ∀ e ∈ (Event.scan text.toList).events, ∀ r r', kept r →
      Reading.Moves e.event e.stop r r' → kept r')
    (h : Document.read base text = .ok d) :
    ∃ r, kept r ∧ r.scopes = [] ∧ r.seenRoot = true ∧ r.builder.finish = .ok d := by
  obtain ⟨r, read, outside⟩ := EventScan.read_of_toDocument h
  exact ⟨r, Reading.kept_of_run start moves read, outside⟩

end Transclusion
