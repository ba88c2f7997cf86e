import Mathlib.Data.List.TakeWhile
import Transclusion.Proofs.Markup.Moves
import Transclusion.Proofs.Markup.RoundTrip
/-!
# Names that are read

If the names in a text are all QNames, and none of its attributes declares the prefix `xml` or
`xmlns` (`HasQNames`), then every name that is read stands for its namespace by the bindings of its
own element.  Whatever the text is, the comments and instructions that are read can be written so
that they end where they ended in it.

* `QName.isBound_of_resolve`: a QName that is resolved stands for its namespace.
* `Reading.isBound_elementOfTag`: so do all names of an element.
-/

namespace Transclusion

open Text

/-! ### Names -/

/-- A name of one part, or of two with a colon between them. -/
def IsQName (written : String) : Prop :=
  match cutAt ':' written.toList with
  | none => IsNamePart written
  | some (before, after) => IsNamePart (String.ofList before) ∧ IsNamePart (String.ofList after)

instance (written : String) : Decidable (IsQName written) := by
  unfold IsQName
  split <;> infer_instance

theorem QName.isBound_of_resolve {bindings : Bindings} (wellFormed : bindings.WellFormed)
    {useDefault : Bool} {written : String} {name : QName} (qname : IsQName written)
    (h : resolve bindings useDefault written = .ok name) : name.IsBound bindings useDefault := by
  unfold IsQName at qname
  unfold resolve at h
  split at h
  · next before after cut =>
    rw [cut] at qname
    obtain ⟨prefixPart, localPart⟩ := qname
    dsimp only at h
    split at h
    · cases h
      exact .of_xml localPart
    · next notXml =>
      split at h
      · next uri found =>
        cases h
        have named : nonEmpty? (String.ofList before) = some (String.ofList before) :=
          if_neg prefixPart.ne_empty
        rw [prefixed, named]
        -- Well-formed bindings have none for `xmlns`.
        refine .of_prefixed localPart ⟨prefixPart, fun reserved => ?_⟩ notXml found
        rw [reserved, wellFormed.get?_eq_none (by decide)] at found
        cases found
      · cases h
  · next cut =>
    rw [cut] at qname
    split at h
    · next isDefault =>
      cases h
      refine .of_unprefixed qname ?_
      rw [if_pos isDefault]
      cases found : bindings.get? "" with
      | none => rfl
      | some uri => exact if_neg fun empty => wellFormed.default (found.trans (congrArg some empty))
    · next isAttribute =>
      cases h
      exact .of_unprefixed qname (if_neg isAttribute).symm

/-- A name without a prefix is its local part as it is written. -/
theorem QName.localName_of_resolve {bindings : Bindings} {useDefault : Bool} {written : String}
    {name : QName} (qname : IsQName written) (h : resolve bindings useDefault written = .ok name)
    (unprefixed : name.nsPrefix = none) : name.localName = written := by
  unfold IsQName at qname
  unfold resolve at h
  split at h
  · next before after cut =>
    rw [cut] at qname
    dsimp only at h
    split at h
    · cases h
      cases unprefixed
    · split at h
      · cases h
        exact absurd ((if_neg qname.1.ne_empty).symm.trans unprefixed) (Option.some_ne_none _)
      · cases h
  · split at h <;> cases h <;> rfl

/-! ### Tags -/

/-- An attribute named by a QName that does not declare one of the prefixes `xml` and `xmlns`. -/
structure IsQNameKey (key : String) : Prop where
  qname : IsQName key
  notXml : key ≠ "xmlns:xml"
  notXmlns : key ≠ "xmlns:xmlns"

instance (key : String) : Decidable (IsQNameKey key) :=
  decidable_of_iff (IsQName key ∧ key ≠ "xmlns:xml" ∧ key ≠ "xmlns:xmlns")
    ⟨fun ⟨h₁, h₂, h₃⟩ => ⟨h₁, h₂, h₃⟩, fun ⟨h₁, h₂, h₃⟩ => ⟨h₁, h₂, h₃⟩⟩

/-- The names in a tag are QNames. -/
def PlacedEvent.HasQNames (e : PlacedEvent) : Prop :=
  ∀ tag ∈ e.event.tag?, IsQName (String.ofList (tagName tag))
    ∧ ∀ attributes ∈ (attributesOfTag tag e.stop).toOption, ∀ a ∈ attributes, IsQNameKey a.1

/-- The names of the elements and attributes in a text are QNames. -/
def HasQNames (text : String) : Prop :=
  ∀ e ∈ (Event.scan text.toList).events, e.HasQNames

instance (text : String) : Decidable (HasQNames text) :=
  inferInstanceAs (Decidable (∀ e ∈ (Event.scan text.toList).events,
    ∀ tag ∈ e.event.tag?, IsQName (String.ofList (tagName tag))
      ∧ ∀ attributes ∈ (attributesOfTag tag e.stop).toOption, ∀ a ∈ attributes, IsQNameKey a.1))

namespace Bindings.WellFormed

theorem declare {bindings : Bindings} (h : bindings.WellFormed) {key value : String}
    (named : IsQNameKey key) {declaration : Declaration}
    (declares : declaration? key value = some declaration) :
    (bindings.declare declaration).WellFormed := by
  rw [declaration?] at declares
  split at declares
  · cases declares
    rw [Bindings.declare]
    split
    · exact h.eraseDefault
    · next nonempty => exact h.insertDefault nonempty
  · obtain ⟨p, isPrefixed, rfl⟩ := Option.map_eq_some_iff.mp declares
    replace isPrefixed := List.isPrefixOf?_eq_some_iff_append_eq.mp isPrefixed
    have written : key = "xmlns:" ++ String.ofList p := by
      rw [← String.toList_inj, ← isPrefixed, String.toList_append, String.toList_ofList]
      simp
    -- The key is a qualified name, so that what is behind the colon is one part of a name.
    have cut : cutAt ':' key.toList = some ("xmlns".toList, p) := by
      rw [← isPrefixed]
      rfl
    have part := named.qname
    rw [IsQName, cut] at part
    refine h.insert ⟨part.2, fun isXml => ?_, fun isXmlns => ?_⟩ value
    · exact named.notXml (by rw [written, isXml]; rfl)
    · exact named.notXmlns (by rw [written, isXmlns]; rfl)

theorem within {outer : Bindings} (h : outer.WellFormed) {attributes : List (String × String)}
    (named : ∀ a ∈ attributes, IsQNameKey a.1) : (Bindings.within outer attributes).WellFormed := by
  unfold Bindings.within
  induction attributes generalizing outer with
  | nil => exact h
  | cons a attributes ih =>
    obtain ⟨here, behind⟩ := List.forall_mem_cons.mp named
    rw [List.filterMap_cons]
    split
    · exact ih h behind
    · next declares => exact ih (h.declare here declares) behind

end Bindings.WellFormed

/-- The name of an attribute that stands for its namespace and is not written like a declaration. -/
def QName.NamesAttribute (bindings : Bindings) (name : QName) : Prop :=
  name.IsBound bindings false ∧ (name.nsPrefix = none → name.localName ≠ "xmlns")

/-- What holds of the name that each attribute is resolved to, holds of all names that are kept. -/
theorem forall_of_resolveAttributes {p : QName → Prop} {bindings : Bindings} {element : String}
    {stop : Nat} {attributes : List (String × String)} {resolved : Attributes}
    (each : ∀ a ∈ attributes, declaration? a.1 a.2 = none →
      ∀ name, QName.resolve bindings false a.1 = .ok name → p name)
    (h : resolveAttributes bindings element stop attributes = .ok resolved) :
    ∀ a ∈ resolved.entries, p a.1 := by
  rw [resolveAttributes_eq] at h
  refine foldlM_keeps (fun resolved : Attributes => ∀ a ∈ resolved.entries, p a.1)
    (fun _ none_ => by cases none_) ?_ h
  intro table a table' kept ha step
  rw [resolveAttribute] at step
  split at step
  · cases step
    exact kept
  · next undeclared =>
    obtain ⟨name, resolves, step⟩ := bind_eq_ok_iff.mp step
    dsimp only at step
    split at step
    · cases step
    · cases step
      have holds := each a ha (Option.not_isSome_iff_eq_none.mp undeclared) name resolves
      exact Table.forall_keys_insert kept holds a.2

theorem namesAttribute_of_resolveAttributes {bindings : Bindings} (wellFormed : bindings.WellFormed)
    {element : String} {stop : Nat} {attributes : List (String × String)} {resolved : Attributes}
    (named : ∀ a ∈ attributes, IsQNameKey a.1)
    (h : resolveAttributes bindings element stop attributes = .ok resolved) :
    ∀ a ∈ resolved.entries, a.1.NamesAttribute bindings := by
  refine forall_of_resolveAttributes (fun a ha undeclared name resolves => ?_) h
  have qname := (named a ha).qname
  refine ⟨QName.isBound_of_resolve wellFormed qname resolves, fun unprefixed same => ?_⟩
  rw [QName.localName_of_resolve qname resolves unprefixed] at same
  rw [declaration?, if_pos same] at undeclared
  cases undeclared

namespace Reading

variable {r : Reading} {tag : List Char} {stop : Nat} {e : Element}

theorem isBound_elementOfTag (wellFormed : r.bindings.WellFormed) {event : Event}
    (tagged : event.tag? = some tag) (named : PlacedEvent.HasQNames ⟨event, stop⟩)
    (h : r.elementOfTag tag stop = .ok e) : e.IsBound ∧ e.NoXmlns := by
  obtain ⟨tagNamed, keys⟩ := named tag tagged
  rw [elementOfTag] at h
  obtain ⟨attributes, read, h⟩ := bind_eq_ok_iff.mp h
  obtain ⟨name, nameRead, h⟩ := bind_eq_ok_iff.mp h
  obtain ⟨resolved, attributesRead, h⟩ := bind_eq_ok_iff.mp h
  cases h
  replace keys := keys attributes (by rw [read]; rfl)
  have within := wellFormed.within keys
  have each := namesAttribute_of_resolveAttributes within keys attributesRead
  exact ⟨⟨QName.isBound_of_resolve within tagNamed nameRead, fun a ha => (each a ha).1, within⟩,
    fun a ha => (each a ha).2⟩

end Reading

/-! ### Comments and instructions -/

/-- A comment or an instruction, as it is kept, ends where it ended in the text. -/
def Event.LeafWritable : Event → Prop
  | comment raw => (Leaf.comment (String.ofList raw)).Writable
  | instruction target data =>
    (Leaf.instruction (String.ofList target) (String.ofList (trimStart data))).Writable
  | _ => True

namespace Event

theorem leafWritable_ofInstruction {content : List Char} (absent : ¬ ['?', '>'] <:+: content)
    (head : content.head? ≠ some '>') : (ofInstruction content).LeafWritable := by
  rw [ofInstruction]
  split
  · trivial
  next notXml =>
    have start : content.takeWhile (!isMarkupSpace ·) <+: content := List.takeWhile_prefix _
    have named : ∀ c ∈ content.takeWhile (!isMarkupSpace ·), isMarkupSpace c = false := by
      intro c hc
      simpa using List.mem_takeWhile_imp hc
    generalize content.takeWhile (!isMarkupSpace ·) = target at *
    have stop : trimStart (content.drop target.length) <:+ content :=
      (List.dropWhile_suffix _).trans (List.drop_suffix _ _)
    have other : String.ofList target ≠ "xml" := fun isXml =>
      notXml (by simpa using congrArg String.toList isXml)
    refine Leaf.writable_instruction ?_ other ?_ ?_ ?_ ?_ <;> rw [String.toList_ofList]
    · exact named
    · intro first
      obtain ⟨rest, same⟩ := start
      refine head ?_
      rw [← same, List.head?_append, first, Option.some_or]
    · exact fun found => absent (found.trans start.isInfix)
    · exact fun found => absent (found.trans stop.isInfix)
    · exact head?_dropWhile_eq_false

theorem leafWritable_readDeclaration {opened : List (List Char)} {input : List Char} {read : Markup}
    (h : readDeclaration opened input = .ok read) : read.event.LeafWritable := by
  unfold readDeclaration at h
  split at h
  · split at h
    · split at h <;> cases h
      trivial
    · cases h
  · split at h
    · split at h
      · next cut =>
        cases h
        refine Leaf.writable_comment ?_
        rw [String.toList_ofList]
        exact (not_infix_of_cutAtText (List.cons_ne_nil _ _) cut).2
      · cases h
    · cases h
  · split at h
    · split at h
      · split at h
        · cases h
        · split at h <;> cases h
          trivial
      · cases h
    · cases h
  · cases h

theorem leafWritable_readMarkup {opened : List (List Char)} {input : List Char} {read : Markup}
    (h : readMarkup opened input = .ok read) : read.event.LeafWritable := by
  unfold readMarkup at h
  split at h
  · cases h
  · exact leafWritable_readDeclaration h
  · rw [readEnd] at h
    split at h
    · cases h
    · dsimp only at h
      split at h
      · cases h
      · split at h <;> cases h
        trivial
  · rw [readInstruction] at h
    split at h
    · next content rest cut =>
      split at h <;> cases h
      next notClosed =>
        obtain ⟨⟨after, same⟩, absent⟩ := not_infix_of_cutAtText (List.cons_ne_nil _ _) cut
        refine leafWritable_ofInstruction absent fun first => notClosed ?_
        rw [← same, List.head?_append, first, Option.some_or]
    · cases h
  · rw [readStart] at h
    split at h
    · cases h
    · dsimp only at h
      split at h <;> cases h <;> trivial

theorem leafWritable_scanUpTo (count : Nat) (opened : List (List Char)) (offset : Nat)
    (input : List Char) :
    ∀ e ∈ (scanUpTo count opened offset input).events, e.event.LeafWritable := by
  induction count generalizing opened offset input with
  | zero => exact List.forall_mem_nil _
  | succ count ih =>
    cases input with
    | nil => exact List.forall_mem_nil _
    | cons c input =>
      rw [scanUpTo]
      split
      · split
        · exact List.forall_mem_nil _
        · next read hread =>
          exact List.forall_mem_cons.mpr ⟨leafWritable_readMarkup hread, ih _ _ _⟩
      · exact List.forall_mem_cons.mpr ⟨trivial, ih _ _ _⟩

/-- The comments and instructions of a text can be written so that they end where they ended. -/
theorem leafWritable_scan (input : List Char) : ∀ e ∈ (scan input).events, e.event.LeafWritable :=
  leafWritable_scanUpTo _ _ _ _

theorem LeafWritable.writable {event : Event} (h : event.LeafWritable) {l : Leaf}
    (kept : event.leaf? = some l) : l.Writable := by
  cases event <;> cases kept <;> exact h

theorem isText_of_leaf? {event : Event} {l : Leaf} (kept : event.leaf? = some l) :
    l.isText = false := by
  cases event <;> cases kept <;> rfl

end Event

end Transclusion
