import Transclusion.Proofs.Markup.Numbering
/-!
# Forests of which every node has a property

The property is one of the kind of a node, so of what it holds itself.  It is kept when forests are
put together if it is one of two texts run together whenever it is one of both of them.  If all
nodes of the content of a document have it, then the document gives no other node for a number
(`Document.kind_of_allKinds`).
-/

namespace Transclusion

namespace Forest

/-- All nodes, at any depth, are of a kind with the property. -/
def AllKinds (p : NodeKind → Prop) : Forest → Prop
  | nil => True
  | leaf l rest => p (.leaf l) ∧ rest.AllKinds p
  | element e content rest => p (.element e) ∧ content.AllKinds p ∧ rest.AllKinds p

variable {p : NodeKind → Prop}

theorem allKinds_iff (parent first : Nat) (f : Forest) :
    f.AllKinds p ↔ ∀ n ∈ f.nodes parent first, p n.kind := by
  induction f generalizing parent first with
  | nil => simp [AllKinds, nodes]
  | leaf l rest ih => simp [AllKinds, nodes, ih parent (first + 1)]
  | element e content rest ihc ihr =>
    simp [AllKinds, nodes, ihc first (first + 1), ihr parent (first + content.size + 1),
      or_imp, forall_and]

/-- Nodes of a forest are elements and leaves. -/
theorem allKinds_of_forall (element : ∀ e, p (.element e)) (leaf : ∀ l, p (.leaf l)) (f : Forest) :
    f.AllKinds p := by
  induction f with
  | nil => trivial
  | leaf l rest ih => exact ⟨leaf l, ih⟩
  | element e content rest ihc ihr => exact ⟨element e, ihc, ihr⟩

theorem AllKinds.mono {q : NodeKind → Prop} {f : Forest} (h : f.AllKinds p)
    (weaker : ∀ kind, p kind → q kind) : f.AllKinds q := by
  induction f with
  | nil => trivial
  | leaf l rest ih => exact ⟨weaker _ h.1, ih h.2⟩
  | element e content rest ihc ih => exact ⟨weaker _ h.1, ihc h.2.1, ih h.2.2⟩

theorem AllKinds.mapTop {f : Forest} (h : f.AllKinds p) {change : Element → Element}
    (kept : ∀ e, p (.element e) → p (.element (change e))) : (f.mapTop change).AllKinds p := by
  induction f with
  | nil => trivial
  | leaf l rest ih => exact ⟨h.1, ih h.2⟩
  | element e content rest _ ih => exact ⟨kept e h.1, h.2.1, ih h.2.2⟩

/-- What all nodes have, those inside of one of them have. -/
theorem AllKinds.content {f : Forest} (h : f.AllKinds p) {i : Nat} {t : Subtree}
    (found : f.subtree? i = some t) : t.content.AllKinds p := by
  induction f generalizing i with
  | nil => cases found
  | leaf l rest ih =>
    rw [subtree?] at found
    split at found
    · cases found
      trivial
    · exact ih h.2 found
  | element e content rest ihc ih =>
    rw [subtree?] at found
    split at found
    · cases found
      exact h.2.1
    · split at found
      · exact ihc h.2.1 found
      · exact ih h.2.2 found

section

variable (joined : ∀ s t, p (.leaf (.text s)) → p (.leaf (.text t)) → p (.leaf (.text (s ++ t))))

include joined

theorem allKinds_consLeaf {l : Leaf} {f : Forest} (hl : p (.leaf l)) (hf : f.AllKinds p) :
    (consLeaf l f).AllKinds p := by
  unfold consLeaf
  split
  · next s =>
    unfold consText
    split
    · next t rest => exact ⟨joined s t hl hf.1, hf.2⟩
    · split
      · exact hf
      · exact ⟨hl, hf⟩
  · exact ⟨hl, hf⟩

theorem allKinds_append {f g : Forest} (hf : f.AllKinds p) (hg : g.AllKinds p) :
    (f.append g).AllKinds p := by
  induction f with
  | nil => exact hg
  | leaf l rest ih => exact allKinds_consLeaf joined hf.1 (ih hf.2)
  | element e content rest _ ih => exact ⟨hf.1, hf.2.1, ih hf.2.2⟩

end

end Forest

namespace Document

variable {p : NodeKind → Prop} {d : Document} (h : d.content.AllKinds p)

include h

theorem kind_of_allKinds {i : Nat} {kind : NodeKind} (found : d.nodes.kind? i = some kind)
    (inner : ∀ base, kind ≠ .document base) : p kind := by
  obtain ⟨n, hn, rfl⟩ := Option.map_eq_some_iff.mp found
  cases i with
  | zero =>
    cases hn
    exact absurd rfl (inner d.base)
  | succ i =>
    rw [nodes_getElem?] at hn
    exact (Forest.allKinds_iff 0 1 d.content).mp h n (List.mem_of_getElem? hn)

theorem element_of_allKinds {i : Nat} {e : Element} (found : d.nodes.element? i = some e) :
    p (.element e) := by
  obtain ⟨n, hn, kind⟩ := NodeList.element?_eq_some_iff.mp found
  refine kind_of_allKinds h (i := i) ?_ nofun
  rw [NodeList.kind?, hn, ← kind]
  rfl

theorem leaf_of_allKinds {i : Nat} {l : Leaf} (found : d.nodes.leaf? i = some l) : p (.leaf l) := by
  refine kind_of_allKinds h (i := i) ?_ nofun
  rw [NodeList.leaf?] at found
  split at found
  · next kind =>
    cases found
    exact kind
  · cases found

theorem content_of_allKinds {i : Nat} {t : Subtree} (found : d.subtree? i = some t) :
    t.content.AllKinds p := by
  rw [subtree?] at found
  split at found
  · cases found
    exact h
  · exact Forest.AllKinds.content h found

end Document

end Transclusion
