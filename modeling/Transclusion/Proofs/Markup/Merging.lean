import Transclusion.Proofs.Markup.Building
/-!
# Merging texts

A forest can be put together as it is, with texts side by side and empty texts in it, and its texts
be merged afterwards.  What comes out is what `Forest.append` and a builder make on the way:

* `Forest.merge_concat`: putting two forests side by side and merging is merging each and appending.
* `Builder.addForest_append`: adding two forests to a builder is adding what they append to.
* `Builder.closeElement_addForest`: an element that is opened, filled and closed is added as such.
-/

namespace Transclusion

namespace Forest

/-- One forest beside the other, as they are. -/
def concat : Forest → Forest → Forest
  | nil, after => after
  | leaf l rest, after => leaf l (rest.concat after)
  | element e content rest, after => element e content (rest.concat after)

/-- The forest with its empty texts dropped and neighbouring texts merged, in all contents. -/
def merge : Forest → Forest
  | nil => nil
  | leaf l rest => consLeaf l rest.merge
  | element e content rest => element e content.merge rest.merge

theorem isMerged_merge (f : Forest) : f.merge.isMerged := by
  induction f with
  | nil => rfl
  | leaf l rest ih => exact isMerged_consLeaf l ih
  | element e content rest ihc ihr => exact isMerged_element.mpr ⟨ihc, ihr⟩

/-- Where there is nothing to merge, nothing changes. -/
theorem merge_of_isMerged {f : Forest} (h : f.isMerged) : f.merge = f := by
  induction f with
  | nil => rfl
  | leaf l rest ih => rw [merge, ih (isMerged_rest h), consLeaf_of_isMerged h]
  | element e content rest ihc ihr =>
    obtain ⟨inside, behind⟩ := isMerged_element.mp h
    rw [merge, ihc inside, ihr behind]

theorem merge_consLeaf (l : Leaf) (f : Forest) : (consLeaf l f).merge = consLeaf l f.merge := by
  cases l with
  | comment | instruction => rfl
  | text s =>
    rw [consLeaf, consLeaf]
    cases h : f.startsWithText with
    | true =>
      obtain ⟨t, rest, rfl⟩ := exists_text_of_startsWithText h
      exact (consText_consText s t rest.merge).symm
    | false =>
      rw [consText_of_startsWithText h]
      split
      · next empty => rw [empty, consText_empty]
      · rfl

theorem merge_append (f g : Forest) : (f.append g).merge = f.merge.append g.merge := by
  induction f with
  | nil => rfl
  | leaf l rest ih => rw [append, merge_consLeaf, merge, ih, consLeaf_append]
  | element e content rest _ ih => rw [append, merge, merge, ih, append]

theorem merge_concat (f g : Forest) : (f.concat g).merge = f.merge.append g.merge := by
  induction f with
  | nil => rfl
  | leaf l rest ih => rw [concat, merge, merge, ih, consLeaf_append]
  | element e content rest _ ih => rw [concat, merge, merge, ih, append]

end Forest

namespace Builder

open Forest

section

variable {b : Builder} {s : String} (nonempty : s ≠ "")

include nonempty

theorem addText_of_text {t : String} {rest : Forest} (h : b.done = leaf (.text t) rest) :
    b.addText s = { b with done := leaf (.text (t ++ s)) rest } := by
  rw [addText, if_neg nonempty, h]

theorem addText_of_noText (h : b.done.startsWithText = false) :
    b.addText s = { b with next := b.next + 1, done := leaf (.text s) b.done } := by
  rw [addText, if_neg nonempty]
  split
  · next done =>
    rw [done] at h
    cases h
  · rfl

end

theorem addText_empty (b : Builder) : b.addText "" = b := if_pos rfl

/-- Two texts in a row are one. -/
theorem addText_addText (b : Builder) (s t : String) :
    (b.addText s).addText t = b.addText (s ++ t) := by
  by_cases hs : s = ""
  · rw [hs, String.empty_append, addText_empty]
  by_cases ht : t = ""
  · rw [ht, String.append_empty, addText_empty]
  have whole : s ++ t ≠ "" := by simp [hs]
  -- The first text goes to the one before it, if there is one, and the second to the first.
  cases h : b.done.startsWithText with
  | true =>
    obtain ⟨u, rest, done⟩ := exists_text_of_startsWithText h
    rw [addText_of_text hs done, addText_of_text ht rfl, addText_of_text whole done,
      String.append_assoc]
  | false => rw [addText_of_noText hs h, addText_of_text ht rfl, addText_of_noText whole h]

theorem addForest_consText (b : Builder) (s : String) (f : Forest) :
    b.addForest (consText s f) = (b.addText s).addForest f := by
  cases h : f.startsWithText with
  | true =>
    obtain ⟨t, rest, rfl⟩ := exists_text_of_startsWithText h
    rw [addForest, addLeaf, addText_addText]
    rfl
  | false =>
    rw [consText_of_startsWithText h]
    split
    · next empty => rw [empty, addText_empty]
    · rfl

theorem addForest_consLeaf (b : Builder) (l : Leaf) (f : Forest) :
    b.addForest (consLeaf l f) = (b.addLeaf l).addForest f := by
  cases l with
  | text s => exact b.addForest_consText s f
  | comment | instruction => rfl

theorem addForest_append (b : Builder) (f g : Forest) :
    b.addForest (f.append g) = (b.addForest f).addForest g := by
  induction f generalizing b with
  | nil => rfl
  | leaf l rest ih => rw [append, addForest_consLeaf, ih, addForest]
  | element e content rest _ ih =>
    rw [append, addForest, addForest]
    exact ih _

/-- Opening an element, adding its content and closing it adds the element. -/
theorem closeElement_addForest (b : Builder) (e : Element) (content : Forest) :
    ((b.openElement e).addForest content).closeElement
      = .ok (b.addForest (.element e content .nil)) := by
  obtain ⟨b₁, closed, added⟩ := b.addForest_element e content .nil
  rw [closed, added]
  rfl

/-- What is added to an empty builder is merged. -/
theorem finish_addForest_merge (base : Option String) (f : Forest) :
    ((start base).addForest f).finish = .ok ⟨base, f.merge⟩ := by
  have same : ∀ b : Builder, b.addForest f = b.addForest f.merge := by
    induction f with
    | nil => exact fun _ => rfl
    | leaf l rest ih =>
      intro b
      rw [merge, addForest_consLeaf, addForest, ih]
    | element e content rest ihc ihr =>
      intro b
      rw [merge, addForest, addForest, ihc, ihr]
  rw [same, finish_addForest base f.isMerged_merge]

end Builder

end Transclusion
