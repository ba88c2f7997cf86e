import Transclusion.Proofs.Markup.Merged
/-!
# Forests that are added to a builder

Adding a forest to a builder is adding its nodes one by one: an element is opened, its content is
added, and it is ended (`Builder.addForest_element`).  A merged forest is added as it is, so that a
builder makes a document of it if nothing else is added (`Builder.finish_addForest`).
-/

namespace Transclusion

namespace Forest

/-- Reversing twice leads back. -/
theorem reverse_reverseOnto (f g : Forest) : (f.reverseOnto g).reverse = g.reverseOnto f := by
  induction f generalizing g with
  | nil => rfl
  | leaf l rest ih => exact ih (leaf l g)
  | element e content rest _ ih => exact ih (element e content g)

end Forest

namespace Builder

open Forest

theorem addText_opened (b : Builder) (s : String) (opened : List OpenElement) :
    ({ b with opened := opened }).addText s = { b.addText s with opened := opened } := by
  rw [Builder.addText, Builder.addText]
  split
  · rfl
  · dsimp only
    split <;> rfl

theorem addLeaf_opened (b : Builder) (l : Leaf) (opened : List OpenElement) :
    ({ b with opened := opened }).addLeaf l = { b.addLeaf l with opened := opened } := by
  cases l with
  | text s => exact b.addText_opened s opened
  | comment | instruction => rfl

/-- What is added goes to the siblings at hand, whatever is open around them. -/
theorem addForest_opened (b : Builder) (f : Forest) (opened : List OpenElement) :
    ({ b with opened := opened }).addForest f = { b.addForest f with opened := opened } := by
  induction f generalizing b with
  | nil => rfl
  | leaf l rest ih => rw [Builder.addForest, Builder.addForest, addLeaf_opened, ih]
  | element e content rest _ ih =>
    let inner := (Builder.mk b.base (b.next + 1) [] .nil).addForest content
    exact ih ⟨b.base, inner.next, b.opened, .element e inner.done.reverse b.done⟩

theorem base_addForest (b : Builder) (f : Forest) : (b.addForest f).base = b.base := by
  induction f generalizing b with
  | nil => rfl
  | leaf l rest ih =>
    rw [Builder.addForest, ih]
    cases l with
    | text s =>
      rw [Builder.addLeaf, Builder.addText]
      split
      · rfl
      · split <;> rfl
    | comment | instruction => rfl
  | element e content rest _ ih =>
    rw [Builder.addForest]
    exact ih _

/-- Adding an element opens it, adds its content, and ends it. -/
theorem addForest_element (b : Builder) (e : Element) (content rest : Forest) :
    ∃ b₁, ((b.openElement e).addForest content).closeElement = .ok b₁
      ∧ b.addForest (.element e content rest) = b₁.addForest rest := by
  have inner := addForest_opened ⟨b.base, b.next + 1, [], .nil⟩ content (⟨e, b.done⟩ :: b.opened)
  refine ⟨_, ?_, rfl⟩
  have same : b.openElement e = { Builder.mk b.base (b.next + 1) [] .nil with
      opened := ⟨e, b.done⟩ :: b.opened } := rfl
  rw [same, inner, Builder.closeElement]
  dsimp only
  rw [base_addForest]

theorem addLeaf_consLeaf (b : Builder) (l : Leaf) :
    b.addForest (.consLeaf l .nil) = b.addLeaf l := by
  cases l with
  | text s =>
    rw [Forest.consLeaf, Forest.consText]
    · split
      · next empty =>
        rw [Builder.addLeaf, Builder.addText, if_pos empty]
        rfl
      · rfl
    · intro s rest none_
      cases none_
  | comment | instruction => rfl

theorem opened_addForest (b : Builder) (f : Forest) : (b.addForest f).opened = b.opened := by
  have same := congrArg Builder.opened (b.addForest_opened f b.opened)
  exact same

/-- The nodes of a merged forest are added as they are, unless a text comes behind a text. -/
theorem done_addForest {b : Builder} {f : Forest} (merged : f.isMerged)
    (apart : f.startsWithText = false ∨ b.done.startsWithText = false) :
    (b.addForest f).done = f.reverseOnto b.done := by
  induction f generalizing b with
  | nil => rfl
  | leaf l rest ih =>
    have behind := isMerged_rest merged
    cases l with
    | text s =>
      obtain ⟨nonempty, other, -⟩ := isMerged_text.mp merged
      have before : b.done.startsWithText = false := apart.resolve_left nofun
      have added : (b.addText s).done = leaf (.text s) b.done := by
        rw [Builder.addText, if_neg nonempty]
        split
        · next done => rw [done] at before; cases before
        · rfl
      rw [addForest, addLeaf, ih behind (.inl other), added, reverseOnto]
    | comment | instruction => exact ih behind (.inr rfl)
  | element e content rest ihc ih =>
    obtain ⟨inside, behind⟩ := isMerged_element.mp merged
    have added := ihc (b := ⟨b.base, b.next + 1, [], .nil⟩) inside (.inr rfl)
    rw [addForest, ih behind (.inr rfl), reverseOnto, added, reverse_reverseOnto, reverseOnto]

/-- A builder to which nothing but a merged forest was added makes a document of it. -/
theorem finish_addForest (base : Option String) {f : Forest} (merged : f.isMerged) :
    ((start base).addForest f).finish = .ok ⟨base, f⟩ := by
  have done := done_addForest (b := start base) merged (.inr rfl)
  rw [finish, opened_addForest, base_addForest, done]
  show Except.ok (Document.mk base (f.reverseOnto .nil).reverse) = _
  rw [reverse_reverseOnto, reverseOnto]

end Builder

end Transclusion
