import Transclusion.Inclusion.Expansion
import Transclusion.Proofs.Markup.GivenPrefixes
/-!
# Fix-up of the elements at the top

What fix-up does to the elements at the top of included content, and when it does nothing.

* `FixupContext.recorded_topElement`: an element whose base URI is not that of the context has it
  recorded in an `xml:base`.
* `Includer.fixed_of_unchanging`: with all fix-ups off, content is included as it is.
-/

namespace Transclusion

/-! ### Elements at the top -/

namespace Forest

/-- The elements at the top, without those inside them. -/
def tops : Forest → List Element
  | nil => []
  | leaf _ rest => rest.tops
  | element e _ rest => e :: rest.tops

theorem tops_consLeaf (l : Leaf) (f : Forest) : (consLeaf l f).tops = f.tops := by
  unfold consLeaf consText
  split
  · split
    · rfl
    · split <;> rfl
  · rfl

theorem tops_append (f g : Forest) : (f.append g).tops = f.tops ++ g.tops := by
  induction f with
  | nil => rfl
  | leaf l rest ih => rw [append, tops_consLeaf, ih, tops]
  | element e content rest _ ih => rw [append, tops, ih, tops, List.cons_append]

theorem tops_mapTop (change : Element → Element) (f : Forest) :
    (f.mapTop change).tops = f.tops.map change := by
  induction f with
  | nil => rfl
  | leaf l rest ih => rw [mapTop, tops, ih, tops]
  | element e content rest _ ih => rw [mapTop, tops, ih, tops, List.map_cons]

end Forest

/-! ### Recording the base URI -/

namespace Element

theorem base_setAttribute (e : Element) (name : QName) (value : String) :
    (e.setAttribute name value).base = e.base := by
  obtain ⟨p, b, -, set⟩ := e.setAttribute_eq name value
  rw [set]

/-- Attributes in the XML namespace need no binding. -/
theorem attribute?_setAttribute_xml (e : Element) (name name' value : String) :
    (e.setAttribute (.xml name) value).attribute? (.xml name')
      = if name = name' then some value else e.attribute? (.xml name') := by
  have same : (QName.xml name).expanded = (QName.xml name').expanded ↔ name = name' := by
    simp [QName.expanded, QName.xml, QName.prefixed]
  show (e.attributes.insert (.xml name) value).get? (.xml name') = _
  rw [Table.get?_insert]
  simp only [QName.identity_eq_expanded, same]
  rfl

theorem base_withId (e : Element) (id : Option String) : (e.withId id).base = e.base := by
  unfold withId
  split
  · rfl
  · rfl
  · exact base_setAttribute ..

theorem base_withCopied (e inclusion : Element) (setId : Option String) :
    (e.withCopied inclusion setId).base = e.base := by
  unfold withCopied
  rw [← base_withId e setId]
  generalize e.withId setId = e'
  induction inclusion.attributes.entries generalizing e' with
  | nil => rfl
  | cons entry entries ih =>
    rw [List.foldl_cons, ih, withCopiedAttribute]
    split
    · split
      · rfl
      · exact base_setAttribute ..
    · rfl

/-- The base URI is written in the `xml:base`. -/
def Recorded (e : Element) : Prop :=
  ∀ base, e.base = some base → e.attribute? (.xml "base") = some base

end Element

namespace FixupContext

variable (context : FixupContext)

theorem base_withLang (lang : Option String) (e : Element) :
    (context.withLang lang e).base = e.base := by
  unfold withLang
  split
  · split
    · exact Element.base_setAttribute ..
    · exact Element.base_setAttribute ..
    · rfl
  · rfl

theorem attribute?_withLang (lang : Option String) (e : Element) {name : String}
    (other : name ≠ "lang") :
    (context.withLang lang e).attribute? (.xml name) = e.attribute? (.xml name) := by
  unfold withLang
  split
  · split
    · rw [Element.attribute?_setAttribute_xml, if_neg other.symm]
    · rw [Element.attribute?_setAttribute_xml, if_neg other.symm]
    · rfl
  · rfl

theorem base_withBase (e : Element) : (context.withBase e).base = e.base := by
  unfold withBase
  split
  · split
    · exact Element.base_setAttribute ..
    · rfl
  · rfl

theorem base_topElement (inclusion : Element) (setId : Option String) (e : Element) :
    (context.topElement inclusion setId e).base = e.base := by
  rw [topElement, apply, base_withLang, base_withBase]
  split
  · exact Element.base_withCopied ..
  · rfl

theorem attribute?_withBase (on : context.options.fixupXmlBase = true) {e : Element} {base : String}
    (hbase : e.base = some base) (other : e.base ≠ context.base) :
    (context.withBase e).attribute? (.xml "base") = some base := by
  have differs : (context.options.fixupXmlBase && e.base ≠ context.base) = true := by
    rw [on, Bool.true_and, decide_eq_true_iff]
    exact other
  rw [withBase, if_pos differs, hbase]
  dsimp only
  rw [Element.attribute?_setAttribute_xml, if_pos rfl]

/-- The base URI of an element at the top is recorded unless it is that of the context. -/
theorem recorded_topElement (on : context.options.fixupXmlBase = true) (inclusion : Element)
    (setId : Option String) {e : Element} (other : e.base ≠ context.base) :
    (context.topElement inclusion setId e).Recorded := by
  intro base hbase
  rw [base_topElement] at hbase
  rw [topElement, apply, attribute?_withLang _ _ _ (by decide)]
  -- The copied attributes come first, so that no `xml:base` among them could replace this one.
  split
  · have copied := e.base_withCopied inclusion setId
    exact context.attribute?_withBase on (copied.trans hbase) (copied ▸ other)
  · exact context.attribute?_withBase on hbase other

end FixupContext

/-! ### No fix-up at all -/

theorem Forest.mapTop_eq_self {change : Element → Element} (h : ∀ e, change e = e) (f : Forest) :
    f.mapTop change = f := by
  induction f with
  | nil => rfl
  | leaf l rest ih => rw [mapTop, ih]
  | element e content rest _ ih => rw [mapTop, ih, h]

/-- All fix-ups are off. -/
structure Options.Unchanging (options : Options) : Prop where
  base : options.fixupXmlBase = false
  lang : options.fixupXmlLang = false
  attributes : options.copyAttributes = false

namespace FixupContext

variable {context : FixupContext} (off : context.options.Unchanging)

include off

theorem apply_of_unchanging (lang : Option String) (e : Element) : context.apply lang e = e := by
  simp [apply, withBase, withLang, off.base, off.lang]

theorem element?_of_unchanging (ns : NodeList) (id : Nat) :
    context.element? ns id = ns.element? id := by
  have same : context.apply (ns.lang? id) = fun e => e :=
    funext (apply_of_unchanging off (ns.lang? id))
  rw [element?, same]
  exact Option.map_id'

theorem document_of_unchanging (inclusion : Element) (setId : Option String) (d : Document) :
    context.document inclusion setId d = d := by
  have same : ∀ e, context.topElement inclusion setId e = e := by
    intro e
    rw [topElement, off.attributes]
    exact apply_of_unchanging off _ e
  rw [document, Forest.mapTop_eq_self same]

end FixupContext

theorem Includer.fixed_of_unchanging {includer : Includer} (off : includer.options.Unchanging)
    (site : IncludeSite) (d : Document) : includer.fixed site d = d :=
  FixupContext.document_of_unchanging (show (includer.contextOf site).options.Unchanging from off) _
    _ d

end Transclusion
