import Transclusion.Proofs.Fixup.BoundNames
/-!
# Edits of attributes

An element is edited by setting and removing attributes and by making sure that names have prefixes
(`AttributeEdit`).  Whatever is done to it in this way, one edit after the other
(`Element.edited`), an element whose names have prefixes bound to their namespaces stays one
(`Element.PrefixesBound`): bindings only come to the end of those that are there.

There is one exception.  A preferred prefix is taken over if it stands for the namespace of the
name, even if it is the empty one, which stands for the default namespace (`Bindings.TakesEmpty`).
An attribute with that prefix is written without any, and so in no namespace.

* `Element.isPrefixed_bindNamespace_iff`: a name is given a usable prefix but in this case.
* `Element.keptBy_after`, `Element.PrefixesBound.after`: what a single edit keeps.
* `Element.keptBy_edited`, `Element.PrefixesBound.edited`: what a whole run of edits keeps.
* `Element.edits_keep_names_bound`: so names stay bound after any other run, and setting an
  attribute changes no other one.
-/

namespace Transclusion

/-! ### Bindings that come -/

namespace Bindings

/-- The prefix stands for the namespace; no namespace counts as the empty one.  The prefix `xml`
stands for its namespace without being bound. -/
def Binds (b : Bindings) (p : String) (uri : Option String) : Prop :=
  b.get? p = some (uri.getD "") ∨ p = "xml" ∧ uri = some xmlNamespace

instance (b : Bindings) (p : String) (uri : Option String) : Decidable (b.Binds p uri) :=
  inferInstanceAs (Decidable (_ ∨ _))

/-- The prefix `xml` is bound to its namespace if at all, and `xmlns` is not bound. -/
structure Reserves (b : Bindings) : Prop where
  xml : ∀ uri, b.get? "xml" = some uri → uri = xmlNamespace
  xmlns : b.get? "xmlns" = none

/-- Bindings come to the end of those that are there, and the default namespace stays. -/
structure Grows (b b' : Bindings) : Prop where
  entries : b.entries <+: b'.entries
  default : b'.get? "" = b.get? ""

theorem get?_insert_of_ne (b : Bindings) {p q : String} (other : p ≠ q) (uri : String) :
    (b.insert p uri).get? q = b.get? q := by
  rw [Table.get?_insert]
  exact if_neg other

namespace Grows

variable {b b' b'' : Bindings}

theorem refl (b : Bindings) : b.Grows b := ⟨List.prefix_rfl, rfl⟩

theorem trans (h : b.Grows b') (h' : b'.Grows b'') : b.Grows b'' :=
  ⟨h.entries.trans h'.entries, h'.default.trans h.default⟩

theorem get? (h : b.Grows b') {p uri : String} (found : b.get? p = some uri) :
    b'.get? p = some uri :=
  Table.get?_of_grown h.entries found

theorem binds (h : b.Grows b') {p : String} {uri : Option String} (binds : b.Binds p uri) :
    b'.Binds p uri :=
  binds.imp_left h.get?

/-- A prefix that was free can be bound, but for the empty one. -/
theorem insert {p : String} (free : b.get? p = none) (nonempty : p ≠ "") (uri : String) :
    b.Grows (b.insert p uri) := by
  constructor
  · rw [Table.entries_insert_of_get?_eq_none free]
    exact List.prefix_append _ _
  · exact b.get?_insert_of_ne nonempty uri

end Grows

/-- The prefixes that have a meaning already cannot be used otherwise. -/
theorem Reserves.of_binds {b : Bindings} (h : b.Reserves) {p : String} {uri : Option String}
    (binds : b.Binds p uri) : p ≠ "xmlns" ∧ (p = "xml" → uri.getD "" = xmlNamespace) := by
  constructor
  · rintro rfl
    obtain bound | ⟨isXml, -⟩ := binds
    · rw [h.xmlns] at bound
      cases bound
    · exact absurd isXml (by decide)
  · rintro rfl
    obtain bound | ⟨-, rfl⟩ := binds
    · exact h.xml _ bound
    · rfl

end Bindings

namespace Element

/-- A prefix that is declared was free, and is neither the empty one nor one that has a meaning
already. -/
theorem prefixToDeclare_free (b : Bindings) (preferred : Option String) :
    b.get? (prefixToDeclare b preferred) = none ∧ prefixToDeclare b preferred ≠ ""
      ∧ prefixToDeclare b preferred ≠ "xml"
      ∧ (preferred ≠ some "xmlns" → prefixToDeclare b preferred ≠ "xmlns") := by
  obtain ⟨free, ⟨p, rfl, same, nonempty, notXml⟩ | ⟨n, same⟩⟩ := prefixToDeclare_cases b preferred
  · rw [same] at free ⊢
    exact ⟨free, nonempty, notXml, fun notXmlns isXmlns => notXmlns (congrArg some isXmlns)⟩
  · rw [same] at free ⊢
    obtain ⟨notXml, notXmlns⟩ := generatedPrefix_ne n
    exact ⟨free, (isNamePart_generatedPrefix n).ne_empty, notXml, fun _ => notXmlns⟩

end Element

/-! ### Names of attributes -/

/-- An attribute that is in a namespace has a prefix that stands for it. -/
def QName.IsPrefixed (b : Bindings) (name : QName) : Prop :=
  name.nsUri ≠ none → ∃ p ∈ name.nsPrefix, p ≠ "" ∧ b.Binds p name.nsUri

instance (b : Bindings) (name : QName) : Decidable (name.IsPrefixed b) :=
  inferInstanceAs (Decidable (_ → _))

/-- The empty prefix, which the name prefers, is taken for one that stands for its namespace: that
is the default namespace. -/
def Bindings.TakesEmpty (b : Bindings) (name : QName) : Prop :=
  name.nsPrefix = some "" ∧ name.nsUri ≠ none ∧ name.nsUri ≠ some xmlNamespace
    ∧ b.get? "" = name.nsUri

instance (b : Bindings) (name : QName) : Decidable (b.TakesEmpty name) :=
  inferInstanceAs (Decidable (_ ∧ _))

/-- The default namespace stays where bindings come. -/
theorem Bindings.Grows.takesEmpty_iff {b b' : Bindings} (h : b.Grows b') (name : QName) :
    b'.TakesEmpty name ↔ b.TakesEmpty name := by
  rw [Bindings.TakesEmpty, Bindings.TakesEmpty, h.default]

/-- However a name is made, its preferred prefix is not the empty one. -/
theorem QName.nsPrefix_ne_empty (p uri l : String) (uri? : Option String) :
    (plain l).nsPrefix ≠ some "" ∧ (inNamespace uri? l).nsPrefix ≠ some ""
      ∧ (prefixed p uri l).nsPrefix ≠ some "" :=
  ⟨nofun, nofun, nonEmpty?_ne p⟩

/-- A name that is written as what it is: the XML namespace has the prefix `xml`, and no namespace
has none. -/
structure QName.IsWrittenPlainly (name : QName) : Prop where
  xml : name.nsUri = some xmlNamespace → name.nsPrefix = some "xml"
  inNone : name.nsUri = none → name.nsPrefix = none

namespace Bindings.Gives

open Element

variable {b b' : Bindings} {name : QName} {p : Option String} (gives : b.Gives name p b')

include gives

theorem grows : b.Grows b' := by
  cases gives with
  | unprefixed | xml | preferred | bound => exact .refl b
  | declared _ _ _ =>
    obtain ⟨free, nonempty, -⟩ := prefixToDeclare_free b name.nsPrefix
    exact .insert free nonempty _

theorem reserves (notXmlns : name.nsPrefix ≠ some "xmlns") (h : b.Reserves) : b'.Reserves := by
  cases gives with
  | unprefixed | xml | preferred | bound => exact h
  | declared _ _ _ =>
    obtain ⟨-, -, notXml, other⟩ := prefixToDeclare_free b name.nsPrefix
    constructor
    · intro uri found
      rw [b.get?_insert_of_ne notXml] at found
      exact h.xml uri found
    · rw [b.get?_insert_of_ne (other notXmlns)]
      exact h.xmlns

/-- A name in a namespace is given a prefix that stands for it, unless that is the empty one. -/
theorem isPrefixed (usable : ¬ b.TakesEmpty name) :
    QName.IsPrefixed b' { name with nsPrefix := p } := by
  intro namespaced
  have found : ∀ {b : Bindings} {q uri}, name.nsUri = some uri → b.get? q = some uri →
      b.Binds q name.nsUri := fun inUri found => .inl (inUri ▸ found)
  cases gives with
  | unprefixed inNone => exact absurd inNone namespaced
  | xml inXml => exact ⟨"xml", rfl, by decide, .inr ⟨rfl, inXml⟩⟩
  | @preferred q uri inUri notXml preferred bound =>
    refine ⟨q, rfl, ?_, found inUri bound⟩
    rintro rfl
    refine usable ⟨preferred, namespaced, ?_, bound.trans inUri.symm⟩
    rw [inUri]
    exact fun same => notXml (Option.some.inj same)
  | @bound q uri inUri _ nonempty' bound => exact ⟨q, rfl, nonempty', found inUri bound⟩
  | @declared uri inUri _ _ =>
    refine ⟨_, rfl, (prefixToDeclare_free b name.nsPrefix).2.1, found inUri ?_⟩
    rw [Table.get?_insert, if_pos rfl]

theorem isWrittenPlainly : QName.IsWrittenPlainly { name with nsPrefix := p } := by
  constructor
  · intro inXml
    cases gives with
    | unprefixed inNone => exact absurd (inNone.symm.trans inXml) (Option.some_ne_none _).symm
    | xml => rfl
    | preferred inUri notXml | bound inUri notXml | declared inUri notXml =>
      exact absurd (Option.some.inj (inUri.symm.trans inXml)) notXml
  · intro inNone
    cases gives with
    | unprefixed => rfl
    | xml inUri | preferred inUri | bound inUri | declared inUri =>
      exact absurd (inNone.symm.trans inUri) (Option.some_ne_none _).symm

end Bindings.Gives

namespace Element

theorem bindNamespace_of_takesEmpty {e : Element} {name : QName}
    (takes : e.bindings.TakesEmpty name) : e.bindNamespace name = (e, name) := by
  obtain ⟨empty, namespaced, notXml, default⟩ := takes
  obtain ⟨uri, inUri⟩ := Option.ne_none_iff_exists'.mp namespaced
  rw [inUri] at notXml default
  unfold bindNamespace
  rw [inUri]
  dsimp only
  rw [if_neg fun same => notXml (congrArg some same), if_pos]
  rw [empty]
  exact default

/-- A name in a namespace is given a prefix that stands for it, but where the empty prefix is taken
for one. -/
theorem isPrefixed_bindNamespace_iff (e : Element) (name : QName) :
    (e.bindNamespace name).2.IsPrefixed (e.bindNamespace name).1.bindings
      ↔ ¬ e.bindings.TakesEmpty name := by
  constructor
  · intro isPrefixed takes
    rw [bindNamespace_of_takesEmpty takes] at isPrefixed
    obtain ⟨p, nsPrefix, nonempty, -⟩ := isPrefixed takes.2.1
    exact nonempty (Option.some.inj (nsPrefix.symm.trans takes.1))
  · intro usable
    obtain ⟨p, b, gives, bind⟩ := e.bindNamespace_eq name
    rw [bind]
    exact gives.isPrefixed usable

end Element

/-! ### Elements with bound names -/

namespace Element

/-- The names of an element and of its attributes have prefixes that stand for their namespaces. An
element, other than an attribute, may be in a namespace without a prefix. -/
structure PrefixesBound (e : Element) : Prop where
  name : ∀ p ∈ e.name.nsPrefix, e.bindings.Binds p e.name.nsUri
  attributes : ∀ a ∈ e.attributes.entries, a.1.IsPrefixed e.bindings

instance (e : Element) : Decidable e.PrefixesBound :=
  decidable_of_iff
    ((∀ p ∈ e.name.nsPrefix, e.bindings.Binds p e.name.nsUri)
      ∧ ∀ a ∈ e.attributes.entries, a.1.IsPrefixed e.bindings)
    ⟨fun ⟨h₁, h₂⟩ => ⟨h₁, h₂⟩, fun ⟨h₁, h₂⟩ => ⟨h₁, h₂⟩⟩

/-- The names of the attributes, as they are written. -/
def attributeNames (e : Element) : List QName := e.attributes.entries.map (·.1)

/-- The names of attributes stay as they are written when one is set, and a new one comes last. -/
theorem attributeNames_setAttribute (e : Element) (name : QName) (value : String) :
    (e.setAttribute name value).attributeNames
      = if e.attributes.contains name then e.attributeNames
        else e.attributeNames ++ [(e.bindNamespace name).2] := by
  obtain ⟨p, b, -, bind⟩ := e.bindNamespace_eq name
  rw [attributeNames, setAttribute, bind]
  exact e.attributes.keys_insert _ value

theorem attributeNames_removeAttribute (e : Element) (name : QName) :
    (e.removeAttribute name).attributeNames
      = e.attributeNames.filter fun other => other.expanded ≠ name.expanded := by
  rw [attributeNames, attributeNames, List.filter_map]
  rfl

theorem attribute?_removeAttribute_self (e : Element) (name : QName) :
    (e.removeAttribute name).attribute? name = none :=
  Table.get?_erase_self _ _

end Element

/-! ### Single edits -/

/-- What can be done to the attributes of an element and their prefixes. -/
inductive AttributeEdit
  | set (name : QName) (value : String)
  | remove (name : QName)
  | bind (name : QName)
deriving DecidableEq, Repr

namespace AttributeEdit

/-- Names that are to be given prefixes do not prefer `xmlns`, and for none that is set the empty
prefix is taken for one. -/
def Allowed (b : Bindings) : AttributeEdit → Prop
  | set name _ => name.nsPrefix ≠ some "xmlns" ∧ ¬ b.TakesEmpty name
  | bind name => name.nsPrefix ≠ some "xmlns"
  | remove _ => True

instance (b : Bindings) : DecidablePred (Allowed b)
  | set _ _ => inferInstanceAs (Decidable (_ ∧ _))
  | bind _ => inferInstanceAs (Decidable (_ ≠ _))
  | remove _ => inferInstanceAs (Decidable True)

/-- Edits that were allowed stay so where bindings have come. -/
theorem Allowed.mono {b b' : Bindings} {edit : AttributeEdit} (h : edit.Allowed b)
    (grows : b.Grows b') : edit.Allowed b' := by
  cases edit with
  | set name value => exact ⟨h.1, fun takes => h.2 ((grows.takesEmpty_iff name).mp takes)⟩
  | remove name => exact h
  | bind name => exact h

/-- The edit sets or removes the attribute. -/
def Touches (name : QName) : AttributeEdit → Prop
  | set other _ | remove other => other.expanded = name.expanded
  | bind _ => False

/-- The edit removes the attribute. -/
def Removes (name : QName) : AttributeEdit → Prop
  | remove other => other.expanded = name.expanded
  | set _ _ | bind _ => False

end AttributeEdit

namespace Element

/-- The element after an edit. -/
def after (e : Element) : AttributeEdit → Element
  | .set name value => e.setAttribute name value
  | .remove name => e.removeAttribute name
  | .bind name => (e.bindNamespace name).1

/-- What is kept of an element where attributes are edited. -/
structure KeptBy (e e' : Element) : Prop where
  name : e'.name = e.name
  base : e'.base = e.base
  bindings : e.bindings.Grows e'.bindings

namespace KeptBy

variable {e e' e'' : Element}

theorem refl (e : Element) : e.KeptBy e := ⟨rfl, rfl, .refl _⟩

theorem trans (h : e.KeptBy e') (h' : e'.KeptBy e'') : e.KeptBy e'' :=
  ⟨h'.name.trans h.name, h'.base.trans h.base, h.bindings.trans h'.bindings⟩

/-- The name of the element stays bound. -/
theorem binds_name (h : e.KeptBy e')
    (bound : ∀ p ∈ e.name.nsPrefix, e.bindings.Binds p e.name.nsUri) :
    ∀ p ∈ e'.name.nsPrefix, e'.bindings.Binds p e'.name.nsUri := by
  rw [h.name]
  exact fun p hp => h.bindings.binds (bound p hp)

end KeptBy

variable (e : Element) (edit : AttributeEdit)

theorem keptBy_after : e.KeptBy (e.after edit) := by
  cases edit with
  | set name value =>
    obtain ⟨p, b, gives, set⟩ := e.setAttribute_eq name value
    rw [after, set]
    exact ⟨rfl, rfl, gives.grows⟩
  | remove name => exact ⟨rfl, rfl, .refl _⟩
  | bind name =>
    obtain ⟨p, b, gives, bind⟩ := e.bindNamespace_eq name
    rw [after, bind]
    exact ⟨rfl, rfl, gives.grows⟩

variable {e edit}

theorem reserves_after (allowed : edit.Allowed e.bindings) (h : e.bindings.Reserves) :
    (e.after edit).bindings.Reserves := by
  cases edit with
  | set name value =>
    obtain ⟨p, b, gives, set⟩ := e.setAttribute_eq name value
    rw [after, set]
    exact gives.reserves allowed.1 h
  | remove name => exact h
  | bind name =>
    obtain ⟨p, b, gives, bind⟩ := e.bindNamespace_eq name
    rw [after, bind]
    exact gives.reserves allowed h

/-- An attribute in a namespace keeps its prefix, and one that is set is given one. -/
theorem PrefixesBound.after (h : e.PrefixesBound) (allowed : edit.Allowed e.bindings) :
    (e.after edit).PrefixesBound := by
  have kept := e.keptBy_after edit
  have old : ∀ a ∈ e.attributes.entries, a.1.IsPrefixed (e.after edit).bindings := by
    intro a ha namespaced
    obtain ⟨p, nsPrefix, nonempty, binds⟩ := h.attributes a ha namespaced
    exact ⟨p, nsPrefix, nonempty, kept.bindings.binds binds⟩
  refine ⟨kept.binds_name h.name, ?_⟩
  cases edit with
  | set name value =>
    obtain ⟨p, b, gives, set⟩ := e.setAttribute_eq name value
    rw [Element.after, set] at old ⊢
    exact Table.forall_keys_insert old (gives.isPrefixed allowed.2) value
  | remove name => exact fun a ha => old a (List.mem_of_mem_filter ha)
  | bind name =>
    rw [Element.after, attributes_bindNamespace]
    exact old

/-- What holds of names however they are given prefixes holds of all that are set. -/
theorem forall_names_after {q : QName → Prop}
    (given : ∀ {b b' : Bindings} {name p}, b.Gives name p b' → q { name with nsPrefix := p })
    (h : ∀ name ∈ e.attributeNames, q name) : ∀ name ∈ (e.after edit).attributeNames, q name := by
  cases edit with
  | set name value =>
    rw [after, attributeNames_setAttribute]
    split
    · exact h
    · obtain ⟨p, b, gives, bind⟩ := e.bindNamespace_eq name
      rw [bind]
      exact List.forall_mem_append.mpr ⟨h, List.forall_mem_singleton.mpr (given gives)⟩
  | remove name =>
    rw [after, attributeNames_removeAttribute]
    exact fun name hname => h name (List.mem_of_mem_filter hname)
  | bind name =>
    rw [after, attributeNames, attributes_bindNamespace]
    exact h

theorem attribute?_after {name : QName} (untouched : ¬ edit.Touches name) :
    (e.after edit).attribute? name = e.attribute? name := by
  cases edit with
  | set other value =>
    rw [after, attribute?_setAttribute]
    exact if_neg untouched
  | remove other => exact e.attribute?_removeAttribute_of_ne (Ne.symm untouched)
  | bind other => rw [after, attribute?, attributes_bindNamespace, attribute?]

/-- Names that are not removed stay in their order, and others come behind them. -/
theorem attributeNames_after {kept : QName → Bool}
    (notRemoved : ∀ name, kept name → ¬ edit.Removes name) :
    e.attributeNames.filter kept <+: (e.after edit).attributeNames.filter kept := by
  cases edit with
  | set name value =>
    rw [after, attributeNames_setAttribute]
    split
    · exact List.prefix_rfl
    · exact (List.prefix_append _ _).filter kept
  | remove name =>
    rw [after, attributeNames_removeAttribute, List.filter_filter]
    refine (List.filter_congr fun other _ => ?_).symm ▸ List.prefix_rfl
    cases hkept : kept other with
    | false => rfl
    | true => simpa using Ne.symm (notRemoved other hkept)
  | bind name =>
    rw [after, attributeNames, attributeNames, attributes_bindNamespace]

/-! ### Runs of edits -/

/-- The element after one edit and the next. -/
def edited (e : Element) (edits : List AttributeEdit) : Element := edits.foldl after e

variable (e)

theorem keptBy_edited (edits : List AttributeEdit) : e.KeptBy (e.edited edits) := by
  induction edits generalizing e with
  | nil => exact .refl e
  | cons edit edits ih => exact (e.keptBy_after edit).trans (ih (e.after edit))

variable {e} {edits : List AttributeEdit}

/-- The edits that follow an edit are allowed of the element after it. -/
theorem allowed_after {edit : AttributeEdit}
    (allowed : ∀ next ∈ edit :: edits, next.Allowed e.bindings) :
    edit.Allowed e.bindings ∧ ∀ next ∈ edits, next.Allowed (e.after edit).bindings := by
  obtain ⟨here, behind⟩ := List.forall_mem_cons.mp allowed
  exact ⟨here, fun next later => (behind next later).mono (e.keptBy_after edit).bindings⟩

theorem reserves_edited (allowed : ∀ edit ∈ edits, edit.Allowed e.bindings)
    (h : e.bindings.Reserves) : (e.edited edits).bindings.Reserves := by
  induction edits generalizing e with
  | nil => exact h
  | cons edit edits ih =>
    obtain ⟨here, behind⟩ := allowed_after allowed
    exact ih behind (reserves_after here h)

theorem PrefixesBound.edited (h : e.PrefixesBound)
    (allowed : ∀ edit ∈ edits, edit.Allowed e.bindings) : (e.edited edits).PrefixesBound := by
  induction edits generalizing e with
  | nil => exact h
  | cons edit edits ih =>
    obtain ⟨here, behind⟩ := allowed_after allowed
    exact ih (h.after here) behind

theorem forall_names_edited {q : QName → Prop}
    (given : ∀ {b b' : Bindings} {name p}, b.Gives name p b' → q { name with nsPrefix := p })
    (h : ∀ name ∈ e.attributeNames, q name) : ∀ name ∈ (e.edited edits).attributeNames, q name := by
  induction edits generalizing e with
  | nil => exact h
  | cons edit edits ih => exact ih (forall_names_after given h)

/-- Attributes that are neither set nor removed keep their values. -/
theorem attribute?_edited {name : QName} (untouched : ∀ edit ∈ edits, ¬ edit.Touches name) :
    (e.edited edits).attribute? name = e.attribute? name := by
  induction edits generalizing e with
  | nil => rfl
  | cons edit edits ih =>
    obtain ⟨here, behind⟩ := List.forall_mem_cons.mp untouched
    exact (ih behind).trans (attribute?_after here)

theorem attributeNames_edited {kept : QName → Bool}
    (notRemoved : ∀ edit ∈ edits, ∀ name, kept name → ¬ edit.Removes name) :
    e.attributeNames.filter kept <+: (e.edited edits).attributeNames.filter kept := by
  induction edits generalizing e with
  | nil => exact List.prefix_rfl
  | cons edit edits ih =>
    obtain ⟨here, behind⟩ := List.forall_mem_cons.mp notRemoved
    exact (attributeNames_after here).trans (ih behind)

/-- Attributes in a namespace are not written as declarations where `xmlns` is not bound, nor with
`xml` outside of its namespace. -/
theorem PrefixesBound.reserved (h : e.PrefixesBound) (reserves : e.bindings.Reserves) :
    ∀ name ∈ e.attributeNames, name.nsUri ≠ none →
      name.nsPrefix ≠ some "xmlns"
        ∧ (name.nsPrefix = some "xml" → name.nsUri = some xmlNamespace) := by
  intro name hname namespaced
  obtain ⟨a, ha, rfl⟩ := List.mem_map.mp hname
  obtain ⟨p, nsPrefix, -, binds⟩ := h.attributes a ha namespaced
  obtain ⟨uri, inUri⟩ := Option.ne_none_iff_exists'.mp namespaced
  obtain ⟨notXmlns, xml⟩ := reserves.of_binds binds
  rw [Option.mem_def.mp nsPrefix, inUri]
  rw [inUri] at xml
  exact ⟨fun same => notXmlns (Option.some.inj same),
    fun same => congrArg some (xml (Option.some.inj same))⟩

/-- An element that is in its default namespace. -/
def defaultElement : Element where
  name := .inNamespace (some "urn:d") "a"
  attributes := .empty
  bindings := .ofList [("", "urn:d")]
  base := none

/-- An element that binds `xml` to another namespace, and has no name with it. -/
def rebindingElement : Element where
  name := .plain "p"
  attributes := .empty
  bindings := .ofList [("xml", "urn:x")]
  base := none

/-- Of preferred prefixes that are bound already, none is refused: an attribute that is set in the
default namespace keeps the empty prefix, and one in a namespace that `xml` is bound to keeps `xml`.
Neither can be written. -/
theorem unusable_prefix_kept :
    defaultElement.PrefixesBound ∧ defaultElement.bindings.Reserves
      ∧ (defaultElement.setAttribute ⟨some "", some "urn:d", "b"⟩ "1").attributes.entries
        = [(⟨some "", some "urn:d", "b"⟩, "1")]
      ∧ ¬ (defaultElement.setAttribute ⟨some "", some "urn:d", "b"⟩ "1").PrefixesBound
      ∧ rebindingElement.PrefixesBound
      ∧ (rebindingElement.setAttribute (.prefixed "xml" "urn:x" "a") "1").attributeNames
        = [⟨some "xml", some "urn:x", "a"⟩] :=
  ⟨by decide +kernel, ⟨nofun, by decide +kernel⟩, by decide +kernel, by decide +kernel,
    by decide +kernel, by decide +kernel⟩

/-- However the attributes of an element are edited, its name and its attributes stay bound, and no
binding is lost, as long as the empty prefix is not taken for one.  Each attribute that is set has
its value, and the others keep theirs; they stay in their order. -/
theorem edits_keep_names_bound (allowed : ∀ edit ∈ edits, edit.Allowed e.bindings)
    (bound : e.PrefixesBound) :
    e.KeptBy (e.edited edits) ∧ (e.edited edits).PrefixesBound
      ∧ (∀ name, ((e.edited edits).bindNamespace name).2.IsPrefixed
          ((e.edited edits).bindNamespace name).1.bindings ↔ ¬ e.bindings.TakesEmpty name)
      ∧ (e.bindings.Reserves → (e.edited edits).bindings.Reserves
        ∧ ∀ name ∈ (e.edited edits).attributeNames, name.nsUri ≠ none →
          name.nsPrefix ≠ some "xmlns"
            ∧ (name.nsPrefix = some "xml" → name.nsUri = some xmlNamespace))
      ∧ ((∀ name ∈ e.attributeNames, name.IsWrittenPlainly) →
        ∀ name ∈ (e.edited edits).attributeNames, name.IsWrittenPlainly)
      ∧ ((e.edited edits).attributeNames.map QName.expanded).Nodup
      ∧ (∀ name value, ((e.edited edits).setAttribute name value).attribute? name = some value
        ∧ ((e.edited edits).setAttribute name value).attributeNames
          = if (e.edited edits).attributes.contains name then (e.edited edits).attributeNames
            else (e.edited edits).attributeNames ++ [((e.edited edits).bindNamespace name).2])
      ∧ (∀ name, ((e.edited edits).removeAttribute name).attribute? name = none)
      ∧ (∀ name, (∀ edit ∈ edits, ¬ edit.Touches name) →
        (e.edited edits).attribute? name = e.attribute? name)
      ∧ (∀ kept : QName → Bool,
        (∀ edit ∈ edits, ∀ name, kept name → ¬ edit.Removes name) →
          e.attributeNames.filter kept <+: (e.edited edits).attributeNames.filter kept)
      ∧ ∃ n, freshPrefix (e.edited edits).bindings = generatedPrefix n
        ∧ (e.edited edits).bindings.get? (generatedPrefix n) = none
        ∧ ∀ m < n, (e.edited edits).bindings.get? (generatedPrefix m) ≠ none := by
  have boundAfter := bound.edited allowed
  have kept := e.keptBy_edited edits
  refine ⟨kept, boundAfter, ?usable, ?reserved, ?plain, ?unique, ?set, ?removed, ?untouched, ?order,
    freshPrefix_eq _⟩
  case usable =>
    intro name
    rw [isPrefixed_bindNamespace_iff, kept.bindings.takesEmpty_iff]
  case reserved =>
    intro reserves
    have reservesAfter := reserves_edited allowed reserves
    exact ⟨reservesAfter, boundAfter.reserved reservesAfter⟩
  case plain => exact forall_names_edited Bindings.Gives.isWrittenPlainly
  case unique =>
    rw [attributeNames, List.map_map]
    exact (e.edited edits).attributes.unique
  case set =>
    intro name value
    refine ⟨?_, attributeNames_setAttribute _ name value⟩
    rw [attribute?_setAttribute, if_pos rfl]
  case removed => exact attribute?_removeAttribute_self _
  case untouched => exact fun name => attribute?_edited
  case order => exact fun kept => attributeNames_edited

/-- An element `p:doc` with an attribute `q:a`; the first prefix that is generated is bound. -/
def prefixedElement : Element where
  name := .prefixed "p" "urn:p" "doc"
  attributes := .ofList [(.prefixed "q" "urn:q" "a", "1")]
  bindings := .ofList [("p", "urn:p"), ("q", "urn:q"), ("ns0", "urn:n")]
  base := none

/-- A name whose prefix stands for something else, one that is there under another prefix, and one
whose prefix is free. -/
def mixedEdits : List AttributeEdit :=
  [.set (.prefixed "p" "urn:other" "b") "2", .set (.inNamespace (some "urn:q") "a") "3",
    .bind (.prefixed "r" "urn:r" "c"), .remove (.plain "d")]

theorem edits_keep_names_bound_mixed :
    (∀ edit ∈ mixedEdits, edit.Allowed prefixedElement.bindings) ∧ prefixedElement.PrefixesBound
      ∧ (prefixedElement.edited mixedEdits).PrefixesBound
      ∧ (prefixedElement.edited mixedEdits).attributes.entries
        = [(.prefixed "q" "urn:q" "a", "3"), (.prefixed "ns1" "urn:other" "b", "2")]
      ∧ (prefixedElement.edited mixedEdits).bindings.entries
        = [("p", "urn:p"), ("q", "urn:q"), ("ns0", "urn:n"), ("ns1", "urn:other"),
          ("r", "urn:r")] := by
  have allowed : ∀ edit ∈ mixedEdits, edit.Allowed prefixedElement.bindings := by decide +kernel
  have bound : prefixedElement.PrefixesBound := by decide +kernel
  exact ⟨allowed, bound, (edits_keep_names_bound allowed bound).2.1, by decide +kernel,
    by decide +kernel⟩

end Element

end Transclusion
