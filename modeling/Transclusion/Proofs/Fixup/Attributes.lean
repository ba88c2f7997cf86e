import Transclusion.Proofs.Fixup.TopElements
import Transclusion.Proofs.Markup.Names
import Transclusion.Proofs.Table
/-!
# Single attributes under fix-up

What becomes of one attribute when another one is set, and of all attributes but one when that one
is set or removed.

* `Element.attribute?_setAttribute`: an attribute that is set changes no other one.
* `FixupContext.lang?_topElement`: the language that fix-up gives to an element at the top.
* `FixupContext.withoutId_topElement`: but for its `xml:id`, an element is fixed up in the same way
  whatever `xml:id` it is given.
-/

namespace Transclusion

/-! ### Setting an attribute -/

namespace Element

theorem expanded_bindNamespace (e : Element) (name : QName) :
    (e.bindNamespace name).2.expanded = name.expanded := by
  obtain ⟨p, b, -, bind⟩ := e.bindNamespace_eq name
  rw [bind]
  rfl

theorem attributes_bindNamespace (e : Element) (name : QName) :
    (e.bindNamespace name).1.attributes = e.attributes := by
  obtain ⟨p, b, -, bind⟩ := e.bindNamespace_eq name
  rw [bind]

/-- An attribute that is set changes no other one. -/
theorem attribute?_setAttribute (e : Element) (name name' : QName) (value : String) :
    (e.setAttribute name value).attribute? name'
      = if name.expanded = name'.expanded then some value else e.attribute? name' := by
  show (Table.insert (e.bindNamespace name).1.attributes (e.bindNamespace name).2 value).get? name'
    = _
  rw [Table.get?_insert, QName.identity_eq_expanded, QName.identity_eq_expanded,
    expanded_bindNamespace, attributes_bindNamespace]
  rfl

theorem attribute?_removeAttribute_of_ne (e : Element) {name name' : QName}
    (other : name'.expanded ≠ name.expanded) :
    (e.removeAttribute name).attribute? name' = e.attribute? name' :=
  Table.get?_erase_of_ne _ other

/-- No attribute is copied under a name of the XML namespace. -/
theorem ne_xml_of_copiedName? {name copied : QName} (h : copiedName? name = some copied)
    (localName : String) : copied.expanded ≠ (QName.xml localName).expanded := by
  have inXml : (QName.xml localName).nsUri = some xmlNamespace := rfl
  intro same
  have uri : copied.nsUri = some xmlNamespace := (congrArg Prod.fst same).trans inXml
  rw [copiedName?] at h
  split at h
  · cases h
  · next uri' hname =>
    split at h
    · cases h
    · next notXml =>
      split at h
      · cases h
        cases uri
      · cases h
        exact notXml (Option.some.inj (hname.symm.trans uri))

theorem xml_ne {a b : String} (other : a ≠ b) : (QName.xml a).expanded ≠ (QName.xml b).expanded :=
  fun same => other (congrArg Prod.snd same)

theorem attribute?_withId_of_ne (e : Element) (setId : Option String) {name : String}
    (other : name ≠ "id") : (e.withId setId).attribute? (.xml name) = e.attribute? (.xml name) := by
  unfold withId
  split
  · rfl
  · exact e.attribute?_removeAttribute_of_ne (xml_ne other)
  · rw [attribute?_setAttribute, if_neg (xml_ne other.symm)]

/-- What is copied from an include leaves the attributes of the XML namespace as they are. -/
theorem attribute?_copied (entries : List (QName × String)) (e : Element) (name : String) :
    (entries.foldl withCopiedAttribute e).attribute? (.xml name) = e.attribute? (.xml name) := by
  induction entries generalizing e with
  | nil => rfl
  | cons entry entries ih =>
    rw [List.foldl_cons, ih, withCopiedAttribute]
    split
    · next copied hcopied =>
      split
      · rfl
      · rw [attribute?_setAttribute, if_neg (ne_xml_of_copiedName? hcopied name)]
    · rfl

theorem attribute?_withCopied (e inclusion : Element) (setId : Option String) (name : String) :
    (e.withCopied inclusion setId).attribute? (.xml name)
      = (e.withId setId).attribute? (.xml name) :=
  attribute?_copied _ _ name

/-- The attributes of an include that are copied. -/
def copied (e : Element) : List (QName × String) :=
  e.attributes.entries.filter fun entry => (copiedName? entry.1).isSome

theorem withCopied_eq (e inclusion : Element) (setId : Option String) :
    e.withCopied inclusion setId = inclusion.copied.foldl withCopiedAttribute (e.withId setId) := by
  rw [withCopied, copied]
  generalize inclusion.attributes.entries = entries, e.withId setId = x
  induction entries generalizing x with
  | nil => rfl
  | cons entry entries ih =>
    cases h : copiedName? entry.1 with
    | some name =>
      rw [List.filter_cons_of_pos (by rw [h]; rfl), List.foldl_cons, List.foldl_cons, ih]
    | none =>
      have ignored : withCopiedAttribute x entry = x := by rw [withCopiedAttribute, h]
      rw [List.filter_cons_of_neg (by rw [h]; exact Bool.false_ne_true), List.foldl_cons, ignored,
        ih]

/-- Whether an attribute is copied depends on its namespace. -/
theorem isSome_copiedName?_congr {name name' : QName} (same : name'.nsUri = name.nsUri) :
    (copiedName? name').isSome = (copiedName? name).isSome := by
  unfold copiedName?
  rw [same]
  cases name.nsUri with
  | none => rfl
  | some uri =>
    dsimp only
    split
    · rfl
    split <;> rfl

theorem copied_setPlain (e : Element) (localName value : String) :
    (e.setAttribute (.plain localName) value).copied = e.copied := by
  have bound : e.bindNamespace (.plain localName) = (e, .plain localName) := rfl
  simp only [copied, setAttribute, bound]
  refine Table.filter_insertEntry _ fun entry same => ?_
  exact isSome_copiedName?_congr (congrArg Prod.fst same)

theorem copied_removeAttribute (e : Element) {name : QName} (notCopied : copiedName? name = none) :
    (e.removeAttribute name).copied = e.copied := by
  refine e.attributes.filter_erase fun entry same => ?_
  rw [isSome_copiedName?_congr (congrArg Prod.fst same), notCopied]
  rfl

/-- The language that an element gives itself. -/
def lang? (e : Element) : Option String := e.attribute? (.xml "lang")

/-- The language of an element in surroundings with the language `around`. -/
def langIn (e : Element) (around : Option String) : Option String := e.lang?.or around

end Element

/-! ### The language at the top -/

namespace FixupContext

variable (context : FixupContext)

theorem attribute?_withBase_of_ne (e : Element) {name : String} (other : name ≠ "base") :
    (context.withBase e).attribute? (.xml name) = e.attribute? (.xml name) := by
  unfold withBase
  split
  · split
    · rw [Element.attribute?_setAttribute, if_neg (Element.xml_ne other.symm)]
    · rfl
  · rfl

/-- Fix-up gives an element without an `xml:lang` the language that it had; if that was none, it
says so where there is one. -/
theorem lang?_apply (on : context.options.fixupXmlLang = true) (language : Option String)
    (e : Element) :
    (context.apply language e).lang?
      = e.lang?.or (language.or (context.lang.map fun _ => "")) := by
  have based : (context.withBase e).lang? = e.lang? :=
    context.attribute?_withBase_of_ne e (by decide)
  rw [apply, ← based]
  unfold withLang
  rw [on, Bool.true_and, show ∀ e : Element, e.attribute? (.xml "lang") = e.lang? from fun _ => rfl]
  cases own : (context.withBase e).lang? with
  | some l => exact own
  | none =>
    have set : ∀ l, ((context.withBase e).setAttribute (.xml "lang") l).lang? = some l := by
      intro l
      rw [Element.lang?, Element.attribute?_setAttribute, if_pos rfl]
    cases language with
    | some l => exact set l
    | none =>
      cases context.lang with
      | some l => exact set ""
      | none => exact own

theorem lang?_topElement (on : context.options.fixupXmlLang = true) (inclusion : Element)
    (setId : Option String) (e : Element) :
    (context.topElement inclusion setId e).lang?
      = e.lang?.or (context.lang.map fun _ => "") := by
  have copied : (if context.options.copyAttributes then e.withCopied inclusion setId else e).lang?
      = e.lang? := by
    split
    · exact (e.attribute?_withCopied inclusion setId "lang").trans
        (e.attribute?_withId_of_ne setId (by decide))
    · rfl
  rw [topElement, lang?_apply context on, copied]
  show (e.lang?.or (e.lang?.or _)) = _
  cases e.lang? <;> rfl

end FixupContext

/-! ### Elements but for their `xml:id` -/

namespace Element

/-- The element without its `xml:id`. -/
def withoutId (e : Element) : Element := e.removeAttribute (.xml "id")

theorem withoutId_withoutId (e : Element) : e.withoutId.withoutId = e.withoutId := by
  simp only [withoutId, removeAttribute, Table.erase_erase]

theorem bindNamespace_withoutId (e : Element) (name : QName) :
    e.withoutId.bindNamespace name
      = ((e.bindNamespace name).1.withoutId, (e.bindNamespace name).2) := by
  unfold bindNamespace withoutId removeAttribute
  cases name.nsUri with
  | none => rfl
  | some uri =>
    dsimp only
    split
    · rfl
    split
    · rfl
    split <;> rfl

theorem withoutId_setAttribute_of_ne (e : Element) {name : QName} (value : String)
    (other : name.expanded ≠ (QName.xml "id").expanded) :
    (e.setAttribute name value).withoutId = e.withoutId.setAttribute name value := by
  have key : Keyed.identity (e.bindNamespace name).2 ≠ Keyed.identity (QName.xml "id") := by
    rw [QName.identity_eq_expanded, expanded_bindNamespace]
    exact other
  simp only [setAttribute, bindNamespace_withoutId]
  simp only [withoutId, removeAttribute, Table.erase_insert_of_ne _ value key]

theorem withoutId_setId (e : Element) (value : String) :
    (e.setAttribute (.xml "id") value).withoutId = e.withoutId := by
  have bound : e.bindNamespace (.xml "id")
      = (e, { QName.xml "id" with nsPrefix := some "xml" }) := rfl
  simp only [setAttribute, bound, withoutId, removeAttribute]
  exact congrArg (fun attributes => { e with attributes }) (Table.erase_insert_same _ value rfl)

theorem withoutId_withId (e : Element) (setId : Option String) :
    (e.withId setId).withoutId = e.withoutId := by
  unfold withId
  split
  · rfl
  · exact e.withoutId_withoutId
  · exact e.withoutId_setId _

theorem contains_withoutId (e : Element) {name : QName}
    (other : name.expanded ≠ (QName.xml "id").expanded) :
    e.withoutId.attributes.contains name = e.attributes.contains name :=
  Table.contains_erase_of_ne _ other

theorem withoutId_copied (entries : List (QName × String)) (e : Element) :
    (entries.foldl withCopiedAttribute e).withoutId
      = entries.foldl withCopiedAttribute e.withoutId := by
  induction entries generalizing e with
  | nil => rfl
  | cons entry entries ih =>
    rw [List.foldl_cons, List.foldl_cons, ih]
    congr 1
    rw [withCopiedAttribute, withCopiedAttribute]
    split
    · next copied hcopied =>
      have other := ne_xml_of_copiedName? hcopied "id"
      rw [contains_withoutId e other]
      split
      · rfl
      · exact e.withoutId_setAttribute_of_ne _ other
    · rfl

theorem withoutId_withCopied (e inclusion : Element) (setId : Option String) :
    (e.withCopied inclusion setId).withoutId = e.withoutId.withCopied inclusion none := by
  rw [withCopied, withoutId_copied, withoutId_withId]
  rfl

end Element

namespace FixupContext

variable (context : FixupContext)

theorem withoutId_apply (language : Option String) (e : Element) :
    (context.apply language e).withoutId = context.apply language e.withoutId := by
  have based : ∀ e : Element, (context.withBase e).withoutId = context.withBase e.withoutId := by
    intro e
    have base : e.withoutId.base = e.base := rfl
    rw [withBase, withBase, base]
    split
    · split
      · exact e.withoutId_setAttribute_of_ne _ (Element.xml_ne (by decide))
      · rfl
    · rfl
  have lang : ∀ e : Element, e.withoutId.attribute? (.xml "lang") = e.attribute? (.xml "lang") :=
    fun e => e.attribute?_removeAttribute_of_ne (Element.xml_ne (by decide))
  rw [apply, apply]
  unfold withLang
  rw [← based, lang]
  split
  · split
    · exact Element.withoutId_setAttribute_of_ne _ _ (Element.xml_ne (by decide))
    · exact Element.withoutId_setAttribute_of_ne _ _ (Element.xml_ne (by decide))
    · rfl
  · rfl

/-- But for its `xml:id`, an element is fixed up in the same way whatever `xml:id` it is given. -/
theorem withoutId_topElement (inclusion : Element) (setId : Option String) (e : Element) :
    (context.topElement inclusion setId e).withoutId
      = context.topElement inclusion none e.withoutId := by
  have lang : e.withoutId.attribute? (.xml "lang") = e.attribute? (.xml "lang") :=
    e.attribute?_removeAttribute_of_ne (Element.xml_ne (by decide))
  rw [topElement, topElement, withoutId_apply, lang]
  split
  · rw [Element.withoutId_withCopied]
  · rfl

/-! ### What fix-up keeps -/

section

variable {p : Element → Prop}
  (xml : ∀ e, ∀ l ∈ ["base", "lang", "id"], ∀ value, p e → p (e.setAttribute (.xml l) value))

include xml

/-- What is kept when the base URI and the language of an element are set. -/
theorem keeps_apply (language : Option String) {e : Element} (h : p e) :
    p (context.apply language e) := by
  have base : p (context.withBase e) := by
    unfold withBase
    split
    · split
      · exact xml _ "base" (by decide) _ h
      · exact h
    · exact h
  unfold apply withLang
  split
  · split
    · exact xml _ "lang" (by decide) _ base
    · exact xml _ "lang" (by decide) _ base
    · exact base
  · exact base

/-- What is kept besides when the attributes of an include are copied. -/
theorem keeps_topElement {inclusion : Element}
    (removed : ∀ e, p e → p (e.removeAttribute (.xml "id")))
    (copied : context.options.copyAttributes = true → ∀ a ∈ inclusion.attributes.entries,
      ∀ name ∈ Element.copiedName? a.1, ∀ e, e.attribute? name = none → p e →
        p (e.setAttribute name a.2))
    (setId : Option String) {e : Element} (h : p e) :
    p (context.topElement inclusion setId e) := by
  have withId : p (e.withId setId) := by
    unfold Element.withId
    split
    · exact h
    · exact removed e h
    · exact xml _ "id" (by decide) _ h
  -- Copies are made one by one, each where the attribute is absent still.
  have each : context.options.copyAttributes = true →
      ∀ entries : List (QName × String), (∀ a ∈ entries, a ∈ inclusion.attributes.entries) →
        ∀ e, p e → p (entries.foldl Element.withCopiedAttribute e) := by
    intro on entries
    induction entries with
    | nil => exact fun _ _ he => he
    | cons a entries ih =>
      intro among e he
      obtain ⟨here, behind⟩ := List.forall_mem_cons.mp among
      refine ih behind _ ?_
      unfold Element.withCopiedAttribute
      split
      · next name hname =>
        split
        · exact he
        · next absent =>
          rw [Bool.not_eq_true, Table.contains_eq_isSome, Option.isSome_eq_false_iff,
            Option.isNone_iff_eq_none] at absent
          exact copied on a here name hname e absent he
      · exact he
  unfold topElement
  dsimp only
  split
  · next on => exact context.keeps_apply xml _ (each on _ (fun _ ha => ha) _ withId)
  · exact context.keeps_apply xml _ h

end

end FixupContext

end Transclusion
