import Transclusion.Fixup.Context
import Transclusion.Proofs.Markup.GivenPrefixes
/-!
# The names of the elements in a forest

`Forest.names` lists the names of all elements of a forest in document order.  Putting forests
together puts the lists together (`Forest.names_append`), and fix-up changes attributes only
(`FixupContext.names_document`), so that the names which can occur in a composed document are known
from its parts.

* `Document.mem_names_iff`: these are the names of the elements among the nodes of a document.
-/

namespace Transclusion

namespace Forest

/-- The names of the elements of a forest, at any depth, in document order. -/
def names : Forest → List QName
  | nil => []
  | leaf _ rest => rest.names
  | element e content rest => e.name :: content.names ++ rest.names

@[simp] theorem names_nil : nil.names = [] := rfl

@[simp] theorem names_leaf (l : Leaf) (rest : Forest) : (leaf l rest).names = rest.names := rfl

@[simp] theorem names_element (e : Element) (content rest : Forest) :
    (element e content rest).names = e.name :: (content.names ++ rest.names) := rfl

@[simp] theorem names_consText (s : String) (f : Forest) : (consText s f).names = f.names := by
  unfold consText
  split
  · rfl
  · split <;> rfl

@[simp] theorem names_consLeaf (l : Leaf) (f : Forest) : (consLeaf l f).names = f.names := by
  cases l with
  | text s => exact names_consText s f
  | comment s => rfl
  | instruction target data => rfl

@[simp] theorem names_append (f g : Forest) : (f.append g).names = f.names ++ g.names := by
  induction f with
  | nil => rfl
  | leaf l rest ih => rw [append, names_consLeaf, ih, names_leaf]
  | element e content rest _ ih => simp [append, ih]

theorem names_mapTop {change : Element → Element} (h : ∀ e, (change e).name = e.name)
    (f : Forest) : (f.mapTop change).names = f.names := by
  induction f with
  | nil => rfl
  | leaf l rest ih => exact ih
  | element e content rest _ ih => simp [mapTop, h, ih]

end Forest

@[simp] theorem Document.names_ofText (base : Option String) (text : String) :
    (Document.ofText base text).content.names = [] :=
  Forest.names_consText text .nil

/-! ### Names of nodes -/

/-- The name of a node that is an element. -/
def Node.name? (n : Node) : Option QName :=
  match n.kind with
  | .element e => some e.name
  | _ => none

theorem Forest.names_eq_filterMap (parent first : Nat) (f : Forest) :
    f.names = (f.nodes parent first).filterMap Node.name? := by
  induction f generalizing parent first with
  | nil => rfl
  | leaf l rest ih =>
    have unnamed : Node.name? ⟨.leaf l, some parent, 1⟩ = none := rfl
    rw [names_leaf, nodes, List.filterMap_cons_none unnamed]
    exact ih parent (first + 1)
  | element e content rest ihc ihr =>
    simp [nodes, Node.name?, ← ihc first (first + 1), ← ihr parent (first + content.size + 1)]

theorem NodeList.element?_eq_some_iff {ns : NodeList} {i : Nat} {e : Element} :
    ns.element? i = some e ↔ ∃ n, ns.nodes[i]? = some n ∧ n.kind = .element e := by
  have hkind : ns.element? i = some e ↔ ns.kind? i = some (.element e) := by
    rw [element?]
    split
    · next e' he => simp [he]
    · next hne => exact ⟨nofun, fun h => absurd h (hne e)⟩
  rw [hkind, kind?, Option.map_eq_some_iff]

/-- The names of a document are those of the elements among its nodes. -/
theorem Document.mem_names_iff {d : Document} {name : QName} :
    name ∈ d.content.names ↔ ∃ i e, d.nodes.element? i = some e ∧ e.name = name := by
  rw [Forest.names_eq_filterMap 0 1, List.mem_filterMap]
  constructor
  · rintro ⟨n, hn, hname⟩
    obtain ⟨i, hi⟩ := List.mem_iff_getElem?.mp hn
    rw [Node.name?] at hname
    split at hname
    · next e hkind =>
      refine ⟨i + 1, e, NodeList.element?_eq_some_iff.mpr ⟨n, ?_, hkind⟩, Option.some.inj hname⟩
      simpa [Document.nodes] using hi
    · cases hname
  · rintro ⟨i, e, he, rfl⟩
    obtain ⟨n, hn, hkind⟩ := NodeList.element?_eq_some_iff.mp he
    have hmem := List.mem_of_getElem? (by simpa [Document.nodes] using hn)
    obtain rfl | hmem := List.mem_cons.mp hmem
    · cases hkind
    · exact ⟨n, hmem, by rw [Node.name?, hkind]⟩

/-! ### Fix-up -/

namespace Element

@[simp] theorem name_bindNamespace (e : Element) (name : QName) :
    (e.bindNamespace name).1.name = e.name := by
  obtain ⟨p, b, -, bind⟩ := e.bindNamespace_eq name
  rw [bind]

@[simp] theorem name_setAttribute (e : Element) (name : QName) (value : String) :
    (e.setAttribute name value).name = e.name := name_bindNamespace e name

@[simp] theorem name_withId (e : Element) (id : Option String) : (e.withId id).name = e.name := by
  unfold withId
  split
  · rfl
  · rfl
  · exact name_setAttribute e _ _

@[simp] theorem name_withCopiedAttribute (e : Element) (entry : QName × String) :
    (e.withCopiedAttribute entry).name = e.name := by
  rw [withCopiedAttribute]
  split
  · split
    · rfl
    · exact name_setAttribute e _ _
  · rfl

@[simp] theorem name_withCopied (e inclusion : Element) (setId : Option String) :
    (e.withCopied inclusion setId).name = e.name := by
  have hfold : ∀ (entries : List (QName × String)) (e : Element),
      (entries.foldl withCopiedAttribute e).name = e.name := by
    intro entries
    induction entries with
    | nil => intro e; rfl
    | cons entry entries ih =>
      intro e
      rw [List.foldl_cons, ih, name_withCopiedAttribute]
  rw [withCopied, hfold, name_withId]

end Element

namespace FixupContext

variable (context : FixupContext)

@[simp] theorem name_withBase (e : Element) : (context.withBase e).name = e.name := by
  rw [withBase]
  repeat' split
  all_goals simp

@[simp] theorem name_withLang (lang : Option String) (e : Element) :
    (context.withLang lang e).name = e.name := by
  unfold withLang
  repeat' split
  all_goals simp

@[simp] theorem name_apply (lang : Option String) (e : Element) :
    (context.apply lang e).name = e.name := by
  rw [apply, name_withLang, name_withBase]

theorem name_topElement (inclusion : Element) (setId : Option String) (e : Element) :
    (context.topElement inclusion setId e).name = e.name := by
  rw [topElement]
  split <;> simp

/-- Fix-up keeps the names of all elements. -/
@[simp] theorem names_document (inclusion : Element) (setId : Option String) (d : Document) :
    (context.document inclusion setId d).content.names = d.content.names :=
  Forest.names_mapTop (context.name_topElement inclusion setId) d.content

end FixupContext

end Transclusion
