import Transclusion.Proofs.Markup.ReadNames
/-!
# Documents that are read

What a document looks like that has been read.  If the names in its text are QNames, then all names
in it stand for their namespaces where they are (`Document.isBound_of_read`).  Whatever its text is,
it has one element at the top, with no text beside it (`Document.isOutermost_of_read`).  So it can
be written and read again.
-/

namespace Transclusion

/-! ### Kinds of nodes -/

/-- An element with all names bound and no attribute written like a declaration, or a leaf that can
be written. -/
def NodeKind.IsBound : NodeKind → Prop
  | .document _ => False
  | .element e => e.IsBound ∧ e.NoXmlns
  | .leaf l => l.Writable

theorem Forest.allKinds_reverseOnto {p : NodeKind → Prop} {f g : Forest} (hf : f.AllKinds p)
    (hg : g.AllKinds p) : (f.reverseOnto g).AllKinds p := by
  induction f generalizing g with
  | nil => exact hg
  | leaf l rest ih => exact ih hf.2 ⟨hf.1, hg⟩
  | element e content rest _ ih => exact ih hf.2.2 ⟨hf.1, hf.2.1, hg⟩

namespace Builder

/-- All nodes that a builder holds are of a kind with the property. -/
structure AllKinds (p : NodeKind → Prop) (b : Builder) : Prop where
  done : b.done.AllKinds p
  opened : ∀ o ∈ b.opened, p (.element o.element) ∧ o.before.AllKinds p

namespace AllKinds

variable {p : NodeKind → Prop} {b b' : Builder}

theorem openElement (h : b.AllKinds p) {e : Element} (he : p (.element e)) :
    (b.openElement e).AllKinds p :=
  ⟨trivial, List.forall_mem_cons.mpr ⟨⟨he, h.done⟩, h.opened⟩⟩

theorem closeElement (h : b.AllKinds p) (closed : b.closeElement = .ok b') : b'.AllKinds p := by
  rw [Builder.closeElement] at closed
  split at closed
  · cases closed
  · next top outer opened =>
    cases closed
    obtain ⟨⟨element, before⟩, around⟩ := List.forall_mem_cons.mp (opened ▸ h.opened)
    exact ⟨⟨element, Forest.allKinds_reverseOnto h.done trivial, before⟩, around⟩

variable (texts : ∀ s, p (.leaf (.text s)))

include texts

theorem addText (h : b.AllKinds p) (s : String) : (b.addText s).AllKinds p := by
  rw [Builder.addText]
  split
  · exact h
  · split
    · next t rest done =>
      have before := h.done
      rw [done] at before
      exact ⟨⟨texts _, before.2⟩, h.opened⟩
    · exact ⟨⟨texts s, h.done⟩, h.opened⟩

theorem addLeaf (h : b.AllKinds p) {l : Leaf} (hl : p (.leaf l)) : (b.addLeaf l).AllKinds p := by
  cases l with
  | text s => exact addText texts h s
  | comment s => exact ⟨⟨hl, h.done⟩, h.opened⟩
  | instruction target data => exact ⟨⟨hl, h.done⟩, h.opened⟩

end AllKinds

/-- A move of a reading adds an element or a leaf, or only a text. -/
theorem AllKinds.moves {p : NodeKind → Prop} (texts : ∀ s, p (.leaf (.text s))) {event : Event}
    {stop : Nat} {r r' : Reading} (h : r.builder.AllKinds p)
    (elements : ∀ tag e, event.tag? = some tag → r.elementOfTag tag stop = .ok e → p (.element e))
    (leaves : ∀ l, event.leaf? = some l → p (.leaf l)) (moves : Reading.Moves event stop r r') :
    r'.builder.AllKinds p := by
  cases moves with
  | opening tagged first read => exact h.openElement (elements _ _ tagged read)
  | closing inside closed => exact h.closeElement closed
  | text s => exact h.addText texts s
  | leaf kept => exact h.addLeaf texts (leaves _ kept)

theorem AllKinds.finish {p : NodeKind → Prop} {b : Builder} (h : b.AllKinds p) {d : Document}
    (finished : b.finish = .ok d) : d.content.AllKinds p := by
  rw [Builder.finish] at finished
  split at finished
  · cases finished
    exact Forest.allKinds_reverseOnto h.done trivial
  · cases finished

end Builder

namespace Reading

/-- All names so far stand for their namespaces, and the prefixes in scope are in order. -/
structure IsBound (r : Reading) : Prop where
  scopes : ∀ scope ∈ r.scopes, scope.bindings.WellFormed
  nodes : r.builder.AllKinds NodeKind.IsBound

variable {r r' : Reading}

theorem IsBound.bindings (h : r.IsBound) : r.bindings.WellFormed := by
  rw [Reading.bindings]
  split
  · next scope _ scopes => exact h.scopes scope (scopes ▸ List.mem_cons_self)
  · exact ⟨fun _ none_ => (nomatch none_), Option.some_ne_none _ ∘ Eq.symm⟩

theorem IsBound.moves (h : r.IsBound) {e : PlacedEvent} (named : e.HasQNames)
    (leaf : e.event.LeafWritable) (moves : Moves e.event e.stop r r') : r'.IsBound := by
  have bound (tag : List Char) (element : Element) (tagged : e.event.tag? = some tag)
      (read : r.elementOfTag tag e.stop = .ok element) : element.IsBound ∧ element.NoXmlns :=
    isBound_elementOfTag h.bindings tagged named read
  refine ⟨?_, h.nodes.moves (fun _ => trivial) bound (fun _ => leaf.writable) moves⟩
  cases moves with
  | opening tagged first read =>
    exact List.forall_mem_cons.mpr ⟨(bound _ _ tagged read).1.bindings, h.scopes⟩
  | closing inside closed => exact (List.forall_mem_cons.mp (inside ▸ h.scopes)).2
  | text | leaf => exact h.scopes

end Reading

/-- In a document that is read from a text with QNames, every name stands for its namespace. -/
theorem Document.isBound_of_read {base : Option String} {text : String} {d : Document}
    (named : HasQNames text) (h : Document.read base text = .ok d) :
    d.content.AllKinds NodeKind.IsBound := by
  have start : (Reading.start base).IsBound :=
    ⟨fun _ none_ => (nomatch none_), trivial, fun _ none_ => nomatch none_⟩
  obtain ⟨r, bound, -, -, finished⟩ := exists_kept_of_read start (fun e he r r' hr moves =>
    Reading.IsBound.moves hr (named e he) (Event.leafWritable_scan _ e he) moves) h
  exact bound.nodes.finish finished

/-! ### One element at the top -/

namespace Forest

/-- Of two forests in a row, at most one of which has the element at the top, the first may be
reversed. -/
theorem isOutermost_reverseOnto {f g : Forest} {inFirst inSecond : Bool}
    (hf : f.isOutermost inFirst = true) (hg : g.isOutermost inSecond = true)
    (one : (inFirst || inSecond) = true) :
    (f.reverseOnto g).isOutermost (inFirst && inSecond) = true := by
  induction f generalizing g inFirst inSecond with
  | nil =>
    obtain rfl : inFirst = true := hf
    rw [Bool.true_and]
    exact hg
  | leaf l rest ih =>
    rw [isOutermost, Bool.and_eq_true] at hf
    refine ih hf.2 ?_ one
    rw [isOutermost, hf.1, hg]
    rfl
  | element e content rest _ ih =>
    rw [isOutermost, Bool.and_eq_true, Bool.not_eq_true'] at hf
    obtain ⟨rfl, behind⟩ := hf
    obtain rfl : inSecond = true := one
    have later := @ih (.element e content g) true false behind (by rw [isOutermost, hg]; rfl) rfl
    exact later

end Forest

namespace Reading

/-- Outside of all elements there is no text, and as many elements as have been seen. -/
structure IsRooted (r : Reading) : Prop where
  depth : r.scopes.length = r.builder.opened.length
  outside : r.builder.opened = [] → r.builder.done.isOutermost (!r.seenRoot) = true
  inside : ∀ o ∈ r.builder.opened.getLast?, r.seenRoot = true ∧ o.before.isOutermost true = true

variable {event : Event} {stop : Nat} {r r' : Reading}

theorem IsRooted.moves (h : r.IsRooted) (moves : Moves event stop r r') : r'.IsRooted := by
  obtain ⟨depth, outside, inside⟩ := h
  cases moves with
  | @opening tag e tagged first read =>
    refine ⟨congrArg (· + 1) depth, nofun, fun o ho => ⟨rfl, ?_⟩⟩
    cases opened : r.builder.opened with
    | nil =>
      -- Nothing is open, so this element is the root, and there was none before it.
      have notSeen := first (List.eq_nil_of_length_eq_zero (by rw [depth, opened]; rfl))
      have done := outside opened
      rw [notSeen] at done
      simp only [Reading.opening, Builder.openElement, opened] at ho
      cases ho
      exact done
    | cons top outer =>
      refine (inside o ?_).2
      simp only [Reading.opening, Builder.openElement] at ho
      rwa [opened, List.getLast?_cons_cons, ← opened] at ho
  | @closing scope scopes b here closed =>
    rw [Builder.closeElement] at closed
    split at closed
    · cases closed
    · next top outer opened =>
      cases closed
      rw [here, opened] at depth
      rw [opened] at inside
      refine ⟨Nat.succ.inj depth, ?_, fun o ho => inside o ?_⟩
      · -- It was the root that has been closed.
        rintro rfl
        obtain ⟨seen, before⟩ := inside top rfl
        simp only [seen]
        exact before
      · cases outer with
        | nil => cases ho
        | cons next outer => rwa [List.getLast?_cons_cons]
  | text s here =>
    have added := r.builder.addText_opened s r.builder.opened
    have same : (r.builder.addText s).opened = r.builder.opened := congrArg (·.opened) added
    refine ⟨by rw [same]; exact depth, fun none_ => ?_, fun o ho => inside o (same ▸ ho)⟩
    refine absurd (List.eq_nil_of_length_eq_zero ?_) here
    rw [depth, ← same, none_]
    rfl
  | @leaf l kept =>
    have noText := Event.isText_of_leaf? kept
    have added : r.builder.addLeaf l = { r.builder with
        next := r.builder.next + 1
        done := .leaf l r.builder.done } := by
      cases l with
      | text s => cases noText
      | comment | instruction => rfl
    rw [added]
    refine ⟨depth, fun none_ => ?_, inside⟩
    have before := outside none_
    show (Forest.leaf l r.builder.done).isOutermost (!r.seenRoot) = true
    rw [Forest.isOutermost, noText, before]
    rfl

theorem isRooted_start (base : Option String) : (start base).IsRooted :=
  ⟨rfl, fun _ => rfl, fun _ none_ => nomatch none_⟩

/-- At the end of a text, what is outside of all elements is the document. -/
theorem IsRooted.isOutermost_of_finish (h : r.IsRooted) (seen : r.seenRoot = true) {d : Document}
    (finished : r.builder.finish = .ok d) : d.content.isOutermost false = true := by
  rw [Builder.finish] at finished
  split at finished
  · next opened =>
    cases finished
    have done := h.outside opened
    rw [seen] at done
    exact Forest.isOutermost_reverseOnto done (g := .nil) rfl rfl
  · cases finished

end Reading

/-- A document that is read has one element at its top and no text beside it. -/
theorem Document.isOutermost_of_read {base : Option String} {text : String} {d : Document}
    (h : Document.read base text = .ok d) : d.content.isOutermost false = true := by
  obtain ⟨r, rooted, -, seen, finished⟩ := exists_kept_of_read (Reading.isRooted_start base)
    (fun _ _ _ _ hr moves => Reading.IsRooted.moves hr moves) h
  exact rooted.isOutermost_of_finish seen finished

end Transclusion
