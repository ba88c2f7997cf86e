import Transclusion.Proofs.Markup.ReadDocuments
/-!
# Names in the scope of their elements

Whatever the text is, the names that are read agree with the bindings of their elements, QNames or
not (`QName.IsAnchored`): a name in a namespace has a prefix that is bound to it, or is the name of
an element in the default namespace.  There is one exception.  An attribute that is written with a
colon and no prefix before it, such as `:b`, takes the default namespace, although it has no prefix
then.

* `QName.isAnchored_of_resolve`: what a name is resolved to agrees with the bindings.
* `Document.hasNames_of_read`: what holds of all names that are resolved holds of all names that are
  read.
* `Document.isAnchored_of_read`: so all names in a document are anchored, with that exception.
-/

namespace Transclusion

open Text

/-! ### Names -/

namespace QName

/-- A name of an element, or of an attribute, that agrees with the bindings in scope. -/
structure IsAnchored (bindings : Bindings) (ofElement : Bool) (name : QName) : Prop where
  inNamespace : ∀ uri, name.nsUri = some uri → uri ≠ xmlNamespace →
    (ofElement = true ∧ name.nsPrefix = none ∧ bindings.get? "" = some uri)
      ∨ ∃ p, p ≠ "" ∧ name.nsPrefix = some p ∧ bindings.get? p = some uri
  inNone : name.nsUri = none → name.nsPrefix = none →
    ofElement = false ∨ ∀ uri, bindings.get? "" = some uri → uri = ""

/-- A name without a prefix that is in the default namespace. -/
def TakesDefault (bindings : Bindings) (name : QName) : Prop :=
  name.nsPrefix = none ∧ ∃ uri, name.nsUri = some uri ∧ bindings.get? "" = some uri

/-- What a name is whatever the text: anchored, or the name of an attribute in the default
namespace. -/
def IsAnchoredOrDefault (bindings : Bindings) (ofElement : Bool) (name : QName) : Prop :=
  name.IsAnchored bindings ofElement ∨ ofElement = false ∧ name.TakesDefault bindings

theorem nonEmpty?_eq_some_iff {s t : String} : nonEmpty? s = some t ↔ s ≠ "" ∧ s = t := by
  rw [nonEmpty?]
  split <;> simp [*]

theorem nonEmpty?_eq_none_iff {s : String} : nonEmpty? s = none ↔ s = "" := by
  rw [nonEmpty?]
  split <;> simp [*]

variable {bindings : Bindings} {useDefault : Bool} {written : String} {name : QName}

theorem isAnchored_xml (localName : String) : (xml localName).IsAnchored bindings useDefault :=
  ⟨fun _ same other => absurd (Option.some.inj same).symm other, nofun⟩

theorem isAnchored_prefixed {p uri localName : String} (named : p ≠ "")
    (found : bindings.get? p = some uri) :
    (prefixed p uri localName).IsAnchored bindings useDefault := by
  have nsPrefix : nonEmpty? p = some p := if_neg named
  constructor
  · intro uri' same _
    obtain ⟨-, rfl⟩ := nonEmpty?_eq_some_iff.mp same
    exact .inr ⟨p, named, nsPrefix, found⟩
  · intro _ unprefixed
    exact absurd (nsPrefix.symm.trans unprefixed) (Option.some_ne_none _)

theorem isAnchored_attribute {name : QName} (inNone : name.nsUri = none) :
    name.IsAnchored bindings false := by
  constructor
  · intro uri same _
    exact absurd (inNone.symm.trans same) (Option.some_ne_none uri).symm
  · exact fun _ _ => .inl rfl

/-- The name of an element without a prefix is in the default namespace. -/
theorem isAnchored_default {name : QName} (unprefixed : name.nsPrefix = none)
    (inDefault : name.nsUri = (bindings.get? "").bind nonEmpty?) :
    name.IsAnchored bindings true := by
  constructor
  · intro uri same _
    rw [inDefault] at same
    obtain ⟨uri', found, same⟩ := Option.bind_eq_some_iff.mp same
    obtain ⟨-, rfl⟩ := nonEmpty?_eq_some_iff.mp same
    exact .inl ⟨rfl, unprefixed, found⟩
  · intro none_ _
    refine .inr fun uri found => ?_
    rw [inDefault, found] at none_
    exact nonEmpty?_eq_none_iff.mp none_

/-- A name that is resolved agrees with the bindings, if it is not that of an attribute with a colon
and no prefix before it. -/
theorem isAnchored_of_resolve (h : resolve bindings useDefault written = .ok name) :
    name.IsAnchored bindings useDefault
      ∨ useDefault = false ∧ written.toList.head? = some ':' ∧ name.TakesDefault bindings := by
  unfold resolve at h
  split at h
  · next before after cut =>
    dsimp only at h
    split at h
    · cases h
      exact .inl (isAnchored_xml _)
    · split at h
      · next uri found =>
        cases h
        -- An empty prefix is looked up like any other, and so finds the default namespace.
        by_cases named : String.ofList before = ""
        · rw [named] at found ⊢
          cases useDefault with
          | true => exact .inl (isAnchored_default rfl (by rw [found]; rfl))
          | false =>
            by_cases empty : uri = ""
            · subst empty
              exact .inl (isAnchored_attribute rfl)
            · have start : before = [] := String.ofList_eq_empty_iff.mp named
              refine .inr ⟨rfl, ?_, rfl, uri, if_neg empty, found⟩
              rw [eq_of_cutAt cut, start]
              rfl
        · exact .inl (isAnchored_prefixed named found)
      · cases h
  · split at h
    · next isDefault =>
      cases h
      subst isDefault
      exact .inl (isAnchored_default rfl rfl)
    · next isAttribute =>
      cases h
      rw [Bool.not_eq_true] at isAttribute
      subst isAttribute
      exact .inl (isAnchored_attribute rfl)

end QName

/-! ### Elements -/

/-- An element with the property for its own name and for those of its attributes, or a leaf. -/
def NodeKind.HasNames (p : Bindings → Bool → QName → Prop) : NodeKind → Prop
  | .element e => p e.bindings true e.name ∧ ∀ a ∈ e.attributes.entries, p e.bindings false a.1
  | _ => True

/-- The names in a tag are only resolved to names with the property. -/
def PlacedEvent.Resolves (p : Bindings → Bool → QName → Prop) (e : PlacedEvent) : Prop :=
  ∀ tag ∈ e.event.tag?,
    (∀ bindings name, QName.resolve bindings true (String.ofList (tagName tag)) = .ok name →
      p bindings true name)
    ∧ ∀ attributes ∈ (attributesOfTag tag e.stop).toOption, ∀ a ∈ attributes, ∀ bindings name,
      QName.resolve bindings false a.1 = .ok name → p bindings false name

variable {p : Bindings → Bool → QName → Prop}

theorem Reading.hasNames_elementOfTag {r : Reading} {event : Event} {tag : List Char} {stop : Nat}
    {e : Element} (tagged : event.tag? = some tag)
    (resolves : PlacedEvent.Resolves p ⟨event, stop⟩) (h : r.elementOfTag tag stop = .ok e) :
    (NodeKind.element e).HasNames p := by
  obtain ⟨own, others⟩ := resolves tag tagged
  rw [elementOfTag] at h
  obtain ⟨attributes, read, h⟩ := bind_eq_ok_iff.mp h
  obtain ⟨name, nameRead, h⟩ := bind_eq_ok_iff.mp h
  obtain ⟨resolved, attributesRead, h⟩ := bind_eq_ok_iff.mp h
  cases h
  have each := others attributes (by rw [read]; rfl)
  exact ⟨own _ _ nameRead,
    forall_of_resolveAttributes (fun a ha _ name resolves => each a ha _ name resolves)
      attributesRead⟩

/-- What holds of all names that are resolved in a text holds of all names that are read from it,
with the bindings of their elements. -/
theorem Document.hasNames_of_read {base : Option String} {text : String} {d : Document}
    (resolves : ∀ e ∈ (Event.scan text.toList).events, e.Resolves p)
    (h : Document.read base text = .ok d) : d.content.AllKinds (NodeKind.HasNames p) := by
  have start : (Reading.start base).builder.AllKinds (NodeKind.HasNames p) := ⟨trivial, nofun⟩
  obtain ⟨r, kept, -, -, finished⟩ := exists_kept_of_read start (fun e he r r' hr moves =>
    Builder.AllKinds.moves (fun _ => trivial) hr
      (fun tag _ tagged => Reading.hasNames_elementOfTag tagged (resolves e he))
      (fun _ _ => trivial) moves) h
  exact kept.finish finished

/-! ### Documents -/

/-- No attribute in a tag is written with a colon and no prefix before it. -/
def PlacedEvent.HasNoEmptyPrefix (e : PlacedEvent) : Prop :=
  ∀ tag ∈ e.event.tag?, ∀ attributes ∈ (attributesOfTag tag e.stop).toOption,
    ∀ a ∈ attributes, a.1.toList.head? ≠ some ':'

/-- No attribute in a text is written with a colon and no prefix before it. -/
def HasNoEmptyPrefix (text : String) : Prop :=
  ∀ e ∈ (Event.scan text.toList).events, e.HasNoEmptyPrefix

instance (text : String) : Decidable (HasNoEmptyPrefix text) :=
  inferInstanceAs (Decidable (∀ e ∈ (Event.scan text.toList).events, ∀ tag ∈ e.event.tag?,
    ∀ attributes ∈ (attributesOfTag tag e.stop).toOption, ∀ a ∈ attributes,
      a.1.toList.head? ≠ some ':'))

theorem PlacedEvent.resolves_orDefault (e : PlacedEvent) :
    e.Resolves QName.IsAnchoredOrDefault := by
  have resolved {bindings ofElement written name}
      (h : QName.resolve bindings ofElement written = .ok name) :
      name.IsAnchoredOrDefault bindings ofElement :=
    (QName.isAnchored_of_resolve h).imp_right fun ⟨isAttribute, _, takesDefault⟩ =>
      ⟨isAttribute, takesDefault⟩
  exact fun tag _ => ⟨fun _ _ => resolved, fun _ _ _ _ _ _ => resolved⟩

theorem PlacedEvent.HasNoEmptyPrefix.resolves {e : PlacedEvent} (h : e.HasNoEmptyPrefix) :
    e.Resolves QName.IsAnchored := by
  intro tag tagged
  constructor
  · intro bindings name resolves
    obtain anchored | ⟨isAttribute, -⟩ := QName.isAnchored_of_resolve resolves
    · exact anchored
    · cases isAttribute
  · intro attributes read a ha bindings name resolves
    obtain anchored | ⟨-, start, -⟩ := QName.isAnchored_of_resolve resolves
    · exact anchored
    · exact absurd start (h tag tagged attributes read a ha)

namespace Document

/-- **Names that are read agree with the bindings of their elements**: each element name, and each
attribute name unless it was written with a colon and no prefix before it, which makes it a name in
the default namespace. -/
theorem isAnchored_of_read {base : Option String} {text : String} {d : Document}
    (h : Document.read base text = .ok d) {i : Nat} {e : Element}
    (found : d.nodes.element? i = some e) :
    e.name.IsAnchored e.bindings true
      ∧ (∀ a ∈ e.attributes.entries,
        a.1.IsAnchored e.bindings false ∨ a.1.TakesDefault e.bindings)
      ∧ (HasNoEmptyPrefix text → ∀ a ∈ e.attributes.entries, a.1.IsAnchored e.bindings false) := by
  have always := hasNames_of_read (fun e _ => e.resolves_orDefault) h
  obtain ⟨own, attributes⟩ := element_of_allKinds always found
  refine ⟨?_, fun a ha => (attributes a ha).imp_right And.right, fun noEmptyPrefix => ?_⟩
  · obtain anchored | ⟨isAttribute, -⟩ := own
    · exact anchored
    · cases isAttribute
  · have anchored := hasNames_of_read (fun e he => (noEmptyPrefix e he).resolves) h
    exact (element_of_allKinds anchored found).2

/-- An element in a default namespace, with one attribute that has a prefix and one that has not. -/
def twoAttributes : Element :=
  ⟨.inNamespace (some "urn:d") "a", .ofList [(.prefixed "p" "urn:p" "b", "1"), (.plain "c", "2")],
    .ofList [("", "urn:d"), ("p", "urn:p")], none⟩

theorem isAnchored_of_read_twoAttributes :
    Document.read none "<a xmlns='urn:d' xmlns:p='urn:p' p:b='1' c='2'/>"
        = .ok ⟨none, .element twoAttributes .nil .nil⟩
      ∧ twoAttributes.name.IsAnchored twoAttributes.bindings true
      ∧ ∀ a ∈ twoAttributes.attributes.entries, a.1.IsAnchored twoAttributes.bindings false := by
  have read : Document.read none "<a xmlns='urn:d' xmlns:p='urn:p' p:b='1' c='2'/>"
      = .ok ⟨none, .element twoAttributes .nil .nil⟩ := eq_ok_of_toOption (by decide +kernel)
  obtain ⟨own, -, attributes⟩ := isAnchored_of_read read (i := 1) (e := twoAttributes) rfl
  exact ⟨read, own, attributes (by decide +kernel)⟩

/-- An attribute in the default namespace. -/
def inDefaultNamespace : QName := .inNamespace (some "urn:d") "b"

/-- With a colon before it the name of an attribute takes the default namespace. -/
theorem not_isAnchored_emptyPrefix :
    Document.read none "<a xmlns='urn:d' :b='1'/>"
        = .ok ⟨none, .element ⟨.inNamespace (some "urn:d") "a",
          .ofList [(inDefaultNamespace, "1")], .ofList [("", "urn:d")], none⟩ .nil .nil⟩
      ∧ ¬inDefaultNamespace.IsAnchored (.ofList [("", "urn:d")]) false := by
  refine ⟨eq_ok_of_toOption (by decide +kernel), fun anchored => ?_⟩
  obtain ⟨isElement, -⟩ | ⟨p, -, prefixed, -⟩ := anchored.inNamespace "urn:d" rfl (by decide)
  · cases isElement
  · cases prefixed

end Document

end Transclusion
