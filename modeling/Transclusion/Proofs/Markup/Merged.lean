import Transclusion.Proofs.Markup.Moves
/-!
# Merged forests

In a merged forest no text is empty and no two texts stand side by side.  `Forest.consLeaf` and
`Forest.append` keep forests merged, and so do the steps of a builder, which holds its siblings in
reverse order (`Forest.isMerged_reverseOnto`).

* `Forest.append_assoc`: however forests are put together, the same texts are merged.
* `Builder.Made`: the builders that the steps lead to.
* `Document.Produced`: the documents that can be come by: read, made of a text, or built.
* `Document.Produced.isMerged`: all of these are merged.
-/

namespace Transclusion

namespace Forest

/-- Whether the first node is a text. -/
def startsWithText : Forest → Bool
  | leaf (.text _) _ => true
  | _ => false

theorem isMerged_text {s : String} {rest : Forest} :
    (leaf (.text s) rest).isMerged ↔ s ≠ "" ∧ rest.startsWithText = false ∧ rest.isMerged := by
  cases rest with
  | nil => simp [isMerged, startsWithText]
  | leaf l after => cases l <;> simp [isMerged, startsWithText]
  | element e content after => simp [isMerged, startsWithText]

theorem isMerged_element {e : Element} {content rest : Forest} :
    (element e content rest).isMerged ↔ content.isMerged ∧ rest.isMerged := by
  simp [isMerged]

/-- What a merged forest that starts with a leaf looks like behind the leaf. -/
theorem isMerged_rest {l : Leaf} {rest : Forest} (h : (leaf l rest).isMerged) : rest.isMerged := by
  cases l with
  | text s => exact (isMerged_text.mp h).2.2
  | comment s => exact h
  | instruction target data => exact h

theorem isMerged_consText {f : Forest} (s : String) (h : f.isMerged) : (consText s f).isMerged := by
  unfold consText
  split
  · next t rest =>
    obtain ⟨ht, hrest⟩ := isMerged_text.mp h
    exact isMerged_text.mpr ⟨by simp [ht], hrest⟩
  · next hf =>
    split
    · exact h
    · next hs =>
      refine isMerged_text.mpr ⟨hs, ?_, h⟩
      unfold startsWithText
      split
      · next t rest => exact absurd rfl (hf t rest)
      · rfl

theorem isMerged_consLeaf {f : Forest} (l : Leaf) (h : f.isMerged) : (consLeaf l f).isMerged := by
  cases l with
  | text s => exact isMerged_consText s h
  | comment s => exact h
  | instruction target data => exact h

theorem isMerged_append {f g : Forest} (hf : f.isMerged) (hg : g.isMerged) :
    (f.append g).isMerged := by
  induction f with
  | nil => exact hg
  | leaf l rest ih => exact isMerged_consLeaf l (ih (isMerged_rest hf))
  | element e content rest _ ih =>
    obtain ⟨hcontent, hrest⟩ := isMerged_element.mp hf
    exact isMerged_element.mpr ⟨hcontent, ih hrest⟩

theorem consText_of_startsWithText {f : Forest} (h : f.startsWithText = false) (s : String) :
    consText s f = if s = "" then f else leaf (.text s) f := by
  unfold consText
  split
  · cases h
  · rfl

theorem exists_text_of_startsWithText {f : Forest} (h : f.startsWithText = true) :
    ∃ t rest, f = leaf (.text t) rest := by
  unfold startsWithText at h
  split at h
  · exact ⟨_, _, rfl⟩
  · cases h

/-- Two texts in front of a forest become one. -/
theorem consText_consText (s t : String) (f : Forest) :
    consText s (consText t f) = consText (s ++ t) f := by
  cases h : f.startsWithText with
  | true =>
    obtain ⟨u, rest, rfl⟩ := exists_text_of_startsWithText h
    simp [consText, String.append_assoc]
  | false =>
    rw [consText_of_startsWithText h, consText_of_startsWithText h]
    by_cases ht : t = ""
    · rw [if_pos ht, consText_of_startsWithText h, ht, String.append_empty]
    · rw [if_neg ht, if_neg (by simp [ht]), consText]

theorem consText_empty (f : Forest) : consText "" f = f := by
  cases h : f.startsWithText with
  | true =>
    obtain ⟨t, rest, rfl⟩ := exists_text_of_startsWithText h
    rw [consText, String.empty_append]
  | false => rw [consText_of_startsWithText h, if_pos rfl]

theorem consText_append (s : String) (f g : Forest) :
    (consText s f).append g = consText s (f.append g) := by
  cases h : f.startsWithText with
  | true =>
    obtain ⟨t, rest, rfl⟩ := exists_text_of_startsWithText h
    exact (consText_consText s t (rest.append g)).symm
  | false =>
    rw [consText_of_startsWithText h]
    split
    · next empty => rw [empty, consText_empty]
    · rfl

theorem consLeaf_append (l : Leaf) (f g : Forest) :
    (consLeaf l f).append g = consLeaf l (f.append g) := by
  cases l with
  | text s => exact consText_append s f g
  | comment | instruction => rfl

/-- It does not matter which of three forests are put together first. -/
theorem append_assoc (f g h : Forest) : (f.append g).append h = f.append (g.append h) := by
  induction f with
  | nil => rfl
  | leaf l rest ih => rw [append, append, ← ih, consLeaf_append]
  | element e content rest _ ih => rw [append, append, append, ih]

theorem startsWithText_mapTop (change : Element → Element) (f : Forest) :
    (f.mapTop change).startsWithText = f.startsWithText := by
  cases f with
  | nil => rfl
  | leaf l rest => cases l <;> rfl
  | element e content rest => rfl

theorem isMerged_mapTop (change : Element → Element) {f : Forest} (h : f.isMerged) :
    (f.mapTop change).isMerged := by
  induction f with
  | nil => exact h
  | leaf l rest ih =>
    have hrest := ih (isMerged_rest h)
    cases l with
    | text s =>
      obtain ⟨hs, hnot, -⟩ := isMerged_text.mp h
      exact isMerged_text.mpr ⟨hs, by rw [startsWithText_mapTop, hnot], hrest⟩
    | comment s => exact hrest
    | instruction target data => exact hrest
  | element e content rest _ ih =>
    obtain ⟨hcontent, hrest⟩ := isMerged_element.mp h
    exact isMerged_element.mpr ⟨hcontent, ih hrest⟩

/-- Putting a leaf in front of a forest in which it has nothing to merge with. -/
theorem consLeaf_of_isMerged {l : Leaf} {rest : Forest} (h : (leaf l rest).isMerged) :
    consLeaf l rest = leaf l rest := by
  cases l with
  | text s =>
    obtain ⟨hs, hnot, -⟩ := isMerged_text.mp h
    show consText s rest = _
    unfold consText
    split
    · cases hnot
    · rw [if_neg hs]
  | comment s => rfl
  | instruction target data => rfl

/-! ### Reversal -/

theorem isMerged_reverseOnto {f g : Forest} (hf : f.isMerged) (hg : g.isMerged)
    (apart : f.startsWithText = false ∨ g.startsWithText = false) :
    (f.reverseOnto g).isMerged := by
  induction f generalizing g with
  | nil => exact hg
  | leaf l rest ih =>
    have hrest := isMerged_rest hf
    cases l with
    | text s =>
      obtain ⟨hs, hnot, -⟩ := isMerged_text.mp hf
      have hgnot : g.startsWithText = false := apart.resolve_left nofun
      exact ih hrest (isMerged_text.mpr ⟨hs, hgnot, hg⟩) (.inl hnot)
    | comment s => exact ih hrest hg (.inr rfl)
    | instruction target data => exact ih hrest hg (.inr rfl)
  | element e content rest _ ih =>
    obtain ⟨hcontent, hrest⟩ := isMerged_element.mp hf
    exact ih hrest (isMerged_element.mpr ⟨hcontent, hg⟩) (.inr rfl)

theorem isMerged_reverse {f : Forest} (h : f.isMerged) : f.reverse.isMerged :=
  isMerged_reverseOnto h rfl (.inr rfl)

end Forest

/-! ### Builders -/

namespace Builder

open Forest

/-- The builders that steps from an empty one lead to. -/
inductive Made : Builder → Prop
  | start (base : Option String) : Made (start base)
  | openElement {b : Builder} (e : Element) (made : Made b) : Made (b.openElement e)
  | closeElement {b b' : Builder} (made : Made b) (closed : b.closeElement = .ok b') : Made b'
  | addText {b : Builder} (s : String) (made : Made b) : Made (b.addText s)
  | addLeaf {b : Builder} (l : Leaf) (made : Made b) : Made (b.addLeaf l)
  | addForest {b : Builder} (f : Forest) (made : Made b) : Made (b.addForest f)

/-- All siblings that a builder holds are merged. -/
structure IsMerged (b : Builder) : Prop where
  done : b.done.isMerged
  before : ∀ o ∈ b.opened, o.before.isMerged

theorem isMerged_openElement {b : Builder} (e : Element) (h : b.IsMerged) :
    (b.openElement e).IsMerged :=
  ⟨rfl, List.forall_mem_cons.mpr ⟨h.done, h.before⟩⟩

theorem isMerged_closeElement {b b' : Builder} (h : b.IsMerged) (closed : b.closeElement = .ok b') :
    b'.IsMerged := by
  rw [Builder.closeElement] at closed
  split at closed
  · cases closed
  · next top outer hopened =>
    cases closed
    obtain ⟨htop, houter⟩ := List.forall_mem_cons.mp (hopened ▸ h.before)
    exact ⟨isMerged_element.mpr ⟨isMerged_reverse h.done, htop⟩, houter⟩

theorem isMerged_addText {b : Builder} (s : String) (h : b.IsMerged) : (b.addText s).IsMerged := by
  rw [Builder.addText]
  split
  · exact h
  · next hs =>
    split
    · next t rest hdone =>
      obtain ⟨-, hrest⟩ := isMerged_text.mp (hdone ▸ h.done)
      exact ⟨isMerged_text.mpr ⟨by simp [hs], hrest⟩, h.before⟩
    · next hdone =>
      refine ⟨isMerged_text.mpr ⟨hs, ?_, h.done⟩, h.before⟩
      unfold startsWithText
      split
      · next t rest hd => exact absurd hd (hdone t rest)
      · rfl

theorem isMerged_addLeaf {b : Builder} (l : Leaf) (h : b.IsMerged) : (b.addLeaf l).IsMerged := by
  cases l with
  | text s => exact isMerged_addText s h
  | comment s => exact ⟨h.done, h.before⟩
  | instruction target data => exact ⟨h.done, h.before⟩

theorem isMerged_addForest {b : Builder} (f : Forest) (h : b.IsMerged) :
    (b.addForest f).IsMerged := by
  induction f generalizing b with
  | nil => exact h
  | leaf l rest ih => exact ih (isMerged_addLeaf l h)
  | element e content rest ihc ihr =>
    -- The content of an element is added to an empty builder, and then closed.
    have inner := ihc (b := ⟨b.base, b.next + 1, [], .nil⟩) ⟨rfl, nofun⟩
    exact ihr ⟨isMerged_element.mpr ⟨isMerged_reverse inner.done, h.done⟩, h.before⟩

theorem Made.isMerged {b : Builder} (made : b.Made) : b.IsMerged := by
  induction made with
  | start base => exact ⟨rfl, nofun⟩
  | openElement e _ ih => exact isMerged_openElement e ih
  | closeElement _ closed ih => exact isMerged_closeElement ih closed
  | addText s _ ih => exact isMerged_addText s ih
  | addLeaf l _ ih => exact isMerged_addLeaf l ih
  | addForest f _ ih => exact isMerged_addForest f ih

theorem isMerged_finish {b : Builder} {d : Document} (h : b.IsMerged)
    (finished : b.finish = .ok d) : d.content.isMerged := by
  rw [Builder.finish] at finished
  split at finished
  · cases finished
    exact isMerged_reverse h.done
  · cases finished

end Builder

/-! ### Documents that are read -/

/-- Every move of a reading is a step of the builder. -/
theorem Reading.made_of_moves {event : Event} {stop : Nat} {r r' : Reading} (made : r.builder.Made)
    (moves : Moves event stop r r') : r'.builder.Made := by
  cases moves with
  | opening => exact made.openElement _
  | closing _ closed => exact made.closeElement closed
  | text s => exact made.addText s
  | leaf => exact made.addLeaf _

theorem Document.exists_made_of_read {base : Option String} {text : String} {d : Document}
    (h : Document.read base text = .ok d) : ∃ b : Builder, b.Made ∧ b.finish = .ok d := by
  have start : (Reading.start base).builder.Made := .start base
  obtain ⟨r, made, -, -, finished⟩ := exists_kept_of_read start
    (fun _ _ _ _ made moves => Reading.made_of_moves made moves) h
  exact ⟨r.builder, made, finished⟩

/-- The documents that can be come by. -/
inductive Document.Produced : Document → Prop
  | read {base : Option String} {text : String} {d : Document}
      (h : Document.read base text = .ok d) : Produced d
  | ofText (base : Option String) (text : String) : Produced (.ofText base text)
  | built {b : Builder} {d : Document} (made : b.Made) (finished : b.finish = .ok d) : Produced d

theorem Document.isMerged_ofText (base : Option String) (text : String) :
    (Document.ofText base text).content.isMerged :=
  Forest.isMerged_consText (f := .nil) text rfl

theorem Document.Produced.isMerged {d : Document} (produced : d.Produced) : d.content.isMerged := by
  cases produced with
  | read h =>
    obtain ⟨b, made, finished⟩ := Document.exists_made_of_read h
    exact Builder.isMerged_finish made.isMerged finished
  | ofText base text => exact Document.isMerged_ofText base text
  | built made finished => exact Builder.isMerged_finish made.isMerged finished

end Transclusion
