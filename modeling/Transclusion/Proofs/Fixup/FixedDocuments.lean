import Transclusion.Proofs.Fixup.AttributeEdits
import Transclusion.Proofs.Inclusion.Walking
import Transclusion.Proofs.Markup.Retopped
/-!
# Documents that are fixed up

Fix-up only adds, and adds once.  All nodes of a document stay in their places, and only elements at
the top become others, which have all that they had before but for an `xml:id`, an `xml:base` and an
`xml:lang` (`Element.ExtendedBy`).  What is fixed up already stays as it is.

* `Element.extendedBy_topElement`: what an element at the top becomes.
* `FixupContext.topElement_topElement`: it does not become anything else the next time.
* `FixupContext.rebuild_eq`: building the document that is fixed up never fails.
* `FixupContext.fixup_only_adds`: so fix-up succeeds, only adds, and adds once.
-/

namespace Transclusion

/-! ### What is kept of an element -/

namespace Element

/-- Whether the attribute is none of those that fix-up sets: `xml:id`, `xml:base` and `xml:lang`. -/
def isOrdinary (entry : QName × String) : Bool :=
  ["id", "base", "lang"].all fun l => entry.1.expanded ≠ (QName.xml l).expanded

/-- An element is extended if it keeps its name and its base URI, bindings only come to those that
it has, and attributes only come behind the ordinary ones that it has. -/
structure ExtendedBy (e e' : Element) : Prop where
  kept : e.KeptBy e'
  attributes : e.attributes.entries.filter isOrdinary <+: e'.attributes.entries.filter isOrdinary

namespace ExtendedBy

variable {e e' : Element}

theorem refl (e : Element) : e.ExtendedBy e := ⟨.refl e, List.prefix_rfl⟩

theorem not_isOrdinary {l : String} (known : l ∈ ["base", "lang", "id"]) {entry : QName × String}
    (same : Keyed.identity entry.1 = Keyed.identity (QName.xml l)) : isOrdinary entry = false := by
  have set : ∀ l ∈ ["base", "lang", "id"], (["id", "base", "lang"].all fun l' =>
      (QName.xml l).expanded ≠ (QName.xml l').expanded) = false := by decide
  rw [isOrdinary, ← QName.identity_eq_expanded, same]
  exact set l known

theorem setXml (l : String) (known : l ∈ ["base", "lang", "id"]) (value : String)
    (h : e.ExtendedBy e') : e.ExtendedBy (e'.setAttribute (.xml l) value) := by
  refine ⟨h.kept.trans (e'.keptBy_after (.set (.xml l) value)), ?_⟩
  obtain ⟨p, b, -, set⟩ := e'.setAttribute_eq (.xml l) value
  rw [set]
  have filtered := Table.filter_insertEntry e'.attributes.entries (v := value)
    (k := { QName.xml l with nsPrefix := p }) fun entry => not_isOrdinary known
  exact filtered.symm ▸ h.attributes

theorem removeId (h : e.ExtendedBy e') : e.ExtendedBy (e'.removeAttribute (.xml "id")) := by
  refine ⟨h.kept.trans (e'.keptBy_after (.remove (.xml "id"))), ?_⟩
  have filtered := e'.attributes.filter_erase (k := QName.xml "id") fun entry =>
    not_isOrdinary (by decide)
  exact filtered.symm ▸ h.attributes

theorem setNew {name : QName} (absent : e'.attribute? name = none) (value : String)
    (h : e.ExtendedBy e') : e.ExtendedBy (e'.setAttribute name value) := by
  refine ⟨h.kept.trans (e'.keptBy_after (.set name value)), h.attributes.trans ?_⟩
  obtain ⟨p, b, -, set⟩ := e'.setAttribute_eq name value
  rw [set]
  -- The prefix does not count for what is found.
  have absent : e'.attributes.get? { name with nsPrefix := p } = none := absent
  rw [Table.entries_insert_of_get?_eq_none absent]
  exact (List.prefix_append _ _).filter _

end ExtendedBy

end Element

/-- An element at the top of included content is extended, if it is changed at all. -/
theorem FixupContext.extendedBy_topElement (context : FixupContext) (inclusion : Element)
    (setId : Option String) (e : Element) :
    e.ExtendedBy (context.topElement inclusion setId e) :=
  context.keeps_topElement (fun _ l known value h => h.setXml l known value) (fun _ h => h.removeId)
    (fun _ _ _ _ _ _ absent h => h.setNew absent _) setId (.refl e)

/-! ### Fixing up again -/

namespace Element

variable {e : Element}

/-- Setting an attribute of the XML namespace to the value that it has changes nothing. -/
theorem setAttribute_xml_same {l value : String} (h : e.attribute? (.xml l) = some value) :
    e.setAttribute (.xml l) value = e := by
  have set : e.setAttribute (.xml l) value
      = { e with attributes := e.attributes.insert (.xml l) value } := rfl
  rw [set, Table.insert_of_get? h]

theorem removeAttribute_absent {name : QName} (h : e.attribute? name = none) :
    e.removeAttribute name = e := by
  rw [removeAttribute, Table.erase_of_get?_eq_none h]

/-- Whether the `xml:id` is what it is to be. -/
def HasId (e : Element) (setId : Option String) : Prop :=
  ∀ id ∈ setId, e.attribute? (.xml "id") = nonEmpty? id

theorem HasId.withId_eq {setId : Option String} (h : e.HasId setId) : e.withId setId = e := by
  unfold withId
  split
  · rfl
  · exact removeAttribute_absent (h "" rfl)
  · next id nonempty =>
    refine setAttribute_xml_same ((h id rfl).trans ?_)
    exact if_neg nonempty

theorem hasId_withId (e : Element) (setId : Option String) : (e.withId setId).HasId setId := by
  rintro id ⟨⟩
  by_cases empty : id = ""
  · subst empty
    exact e.attribute?_removeAttribute_self (.xml "id")
  · have set : e.withId (some id) = e.setAttribute (.xml "id") id := by
      unfold withId
      split
      · next none_ => cases none_
      · next isEmpty => exact absurd (Option.some.inj isEmpty) empty
      · next same => rw [Option.some.inj same]
    rw [set, attribute?_setAttribute, if_pos rfl]
    exact (if_neg empty).symm

/-- All attributes that are copied from an include are there. -/
def HasCopied (e inclusion : Element) : Prop :=
  ∀ a ∈ inclusion.attributes.entries, ∀ name ∈ copiedName? a.1, e.attribute? name ≠ none

/-- An attribute that is there is so after another one is set. -/
theorem attribute?_setAttribute_ne_none {name name' : QName} {value : String}
    (h : e.attribute? name' ≠ none) : (e.setAttribute name value).attribute? name' ≠ none := by
  rw [attribute?_setAttribute]
  split
  · exact Option.some_ne_none value
  · exact h

theorem withCopiedAttribute_eq {entry : QName × String}
    (h : ∀ name ∈ copiedName? entry.1, e.attribute? name ≠ none) :
    e.withCopiedAttribute entry = e := by
  unfold withCopiedAttribute
  split
  · next name copied =>
    exact if_pos (by rw [Table.contains_eq_isSome, Option.isSome_iff_ne_none]; exact h name copied)
  · rfl

theorem HasCopied.withCopied_eq {inclusion : Element} {setId : Option String}
    (h : e.HasCopied inclusion) (hasId : e.HasId setId) : e.withCopied inclusion setId = e := by
  rw [withCopied, hasId.withId_eq]
  unfold HasCopied at h
  generalize inclusion.attributes.entries = entries at h
  induction entries with
  | nil => rfl
  | cons entry entries ih =>
    obtain ⟨here, behind⟩ := List.forall_mem_cons.mp h
    rw [List.foldl_cons, withCopiedAttribute_eq here, ih behind]

/-- An attribute that is there stays when one is copied, and the one that is copied is there. -/
theorem attribute?_withCopiedAttribute_ne_none (entry : QName × String) {name : QName}
    (h : e.attribute? name ≠ none ∨ name ∈ copiedName? entry.1) :
    (e.withCopiedAttribute entry).attribute? name ≠ none := by
  unfold withCopiedAttribute
  split
  · next copied hcopied =>
    split
    · next there =>
      rw [Table.contains_eq_isSome, Option.isSome_iff_ne_none] at there
      refine h.elim id fun same => ?_
      cases hcopied.symm.trans same
      exact there
    · refine h.elim attribute?_setAttribute_ne_none fun same => ?_
      cases hcopied.symm.trans same
      rw [attribute?_setAttribute, if_pos rfl]
      exact Option.some_ne_none _
  · next notCopied => exact h.elim id fun same => by cases notCopied.symm.trans same

theorem hasCopied_withCopied (e inclusion : Element) (setId : Option String) :
    (e.withCopied inclusion setId).HasCopied inclusion := by
  have kept : ∀ (entries : List (QName × String)) (e : Element) (name : QName),
      e.attribute? name ≠ none ∨ (∃ a ∈ entries, name ∈ copiedName? a.1) →
        (entries.foldl withCopiedAttribute e).attribute? name ≠ none := by
    intro entries
    induction entries with
    | nil => exact fun e name h => h.resolve_right nofun
    | cons entry entries ih =>
      intro e name h
      refine ih _ name ?_
      obtain there | ⟨a, ha, copies⟩ := h
      · exact .inl (attribute?_withCopiedAttribute_ne_none entry (.inl there))
      · obtain rfl | behind := List.mem_cons.mp ha
        · exact .inl (attribute?_withCopiedAttribute_ne_none a (.inr copies))
        · exact .inr ⟨a, behind, copies⟩
  exact fun a ha name copies => kept _ _ name (.inr ⟨a, ha, copies⟩)

end Element

namespace FixupContext

variable (context : FixupContext)

/-- What is done about the base URI and the language keeps what was copied before. -/
theorem hasCopied_apply (language : Option String) {e inclusion : Element}
    (h : e.HasCopied inclusion) : (context.apply language e).HasCopied inclusion :=
  context.keeps_apply (p := fun e => e.HasCopied inclusion)
    (fun _ _ _ _ h a ha name copies => Element.attribute?_setAttribute_ne_none (h a ha name copies))
    language h

theorem hasId_apply (language : Option String) {e : Element} {setId : Option String}
    (h : e.HasId setId) : (context.apply language e).HasId setId := by
  intro id hid
  rw [apply, context.attribute?_withLang _ _ (by decide),
    context.attribute?_withBase_of_ne _ (by decide)]
  exact h id hid

/-- A base URI that is recorded, if it is to be, is not recorded again. -/
theorem withBase_eq {e : Element}
    (h : context.options.fixupXmlBase = true → e.base ≠ context.base → e.Recorded) :
    context.withBase e = e := by
  unfold withBase
  split
  · next differs =>
    rw [Bool.and_eq_true, decide_eq_true_iff] at differs
    split
    · next base hbase => exact Element.setAttribute_xml_same (h differs.1 differs.2 base hbase)
    · rfl
  · rfl

/-- A language that is given, if it is to be, is not given again. -/
theorem withLang_eq {e : Element}
    (h : context.options.fixupXmlLang = true → e.lang? = none → context.lang = none) :
    context.withLang e.lang? e = e := by
  unfold withLang
  split
  · next missing =>
    rw [Bool.and_eq_true, Option.isNone_iff_eq_none] at missing
    obtain ⟨on, (own : e.lang? = none)⟩ := missing
    rw [own, h on own]
  · rfl

/-- **What is fixed up already stays as it is.** -/
theorem topElement_topElement (inclusion : Element) (setId : Option String) (e : Element) :
    context.topElement inclusion setId (context.topElement inclusion setId e)
      = context.topElement inclusion setId e := by
  -- What has been done to the element is what there would be to do.
  have recorded : context.options.fixupXmlBase = true →
      (context.topElement inclusion setId e).base ≠ context.base →
        (context.topElement inclusion setId e).Recorded := by
    intro on other
    rw [base_topElement] at other
    exact context.recorded_topElement on inclusion setId other
  have given : context.options.fixupXmlLang = true →
      (context.topElement inclusion setId e).lang? = none → context.lang = none := by
    intro on none_
    rw [context.lang?_topElement on, Option.or_eq_none_iff, Option.map_eq_none_iff] at none_
    exact none_.2
  have copied : context.options.copyAttributes = true →
      (context.topElement inclusion setId e).withCopied inclusion setId
        = context.topElement inclusion setId e := by
    intro on
    have hasId : (e.withCopied inclusion setId).HasId setId := by
      intro id hid
      rw [Element.attribute?_withCopied]
      exact e.hasId_withId setId id hid
    have copies := e.hasCopied_withCopied inclusion setId
    rw [topElement, on]
    exact (context.hasCopied_apply _ copies).withCopied_eq (context.hasId_apply _ hasId)
  generalize context.topElement inclusion setId e = e' at recorded given copied ⊢
  have uncopied : (if context.options.copyAttributes then e'.withCopied inclusion setId else e')
      = e' := by
    split
    · next on => exact copied on
    · rfl
  rw [topElement, uncopied, apply, context.withBase_eq recorded]
  exact context.withLang_eq given

end FixupContext

/-! ### Building the document that is fixed up -/

namespace Forest

/-- Adds the nodes of a forest to a builder, with other elements at the top. -/
def rebuildOnto (change : Element → Element) (b : Builder) : Forest → Except TreeError Builder
  | nil => .ok b
  | leaf l rest => rest.rebuildOnto change (b.addLeaf l)
  | element e content rest => do
    let inside ← (b.openElement (change e)).append content
    let b ← inside.closeElement
    rest.rebuildOnto change b

theorem rebuildOnto_eq (change : Element → Element) (b : Builder) (f : Forest) :
    f.rebuildOnto change b = b.append (f.mapTop change) := by
  induction f generalizing b with
  | nil => rfl
  | leaf l rest ih => exact ih (b.addLeaf l)
  | element e content rest _ ih =>
    rw [rebuildOnto, mapTop, Builder.append]
    congr 1
    funext inside
    congr 1
    funext b
    exact ih b

end Forest

namespace FixupContext

variable (context : FixupContext) (inclusion : Element) (setId : Option String)

/-- The document that is fixed up, built step by step: the elements at the top are opened as what
they become, and all else is copied. -/
def rebuild (d : Document) : Except TreeError Document := do
  let b ← d.content.rebuildOnto (context.topElement inclusion setId) (.start d.base)
  b.finish

/-- No step of building the document fails. -/
theorem rebuild_eq {d : Document} (merged : d.content.isMerged) :
    context.rebuild inclusion setId d = .ok (context.document inclusion setId d) := by
  rw [rebuild, Forest.rebuildOnto_eq, Builder.append_eq]
  exact Builder.finish_addForest d.base
    (Forest.isMerged_mapTop (context.topElement inclusion setId) merged)

end FixupContext

/-! ### Arenas with other elements at the top -/

/-- Two arenas have the same nodes, but for other elements at the top. -/
structure Arena.Retopped (may : Element → Element → Prop) (a a' : Arena) : Prop where
  length : a'.length = a.length
  parent? : ∀ i, a'.parent? i = a.parent? i
  children : ∀ i, a'.children i = a.children i
  top : ∀ i e, a.parent? i = some 0 → a.kind? i = some (.element e) →
    ∃ e', a'.kind? i = some (.element e') ∧ may e e'
  kind? : ∀ i, (a.parent? i = some 0 → ∀ e, a.kind? i ≠ some (.element e)) →
    a'.kind? i = a.kind? i

theorem NodeList.kind?_of_element? {ns : NodeList} {i : Nat} {e : Element}
    (h : ns.element? i = some e) : ns.kind? i = some (.element e) := by
  unfold NodeList.element? at h
  split at h
  · next kind => rwa [← Option.some.inj h]
  · cases h

/-- Where the elements at the top are exchanged, all nodes stay in their places. -/
theorem Document.Retopped.arena {may : Element → Element → Prop} {d d' : Document}
    (h : Document.Retopped may d d') (refl : ∀ e, may e e) :
    Arena.Retopped may d.arena d'.arena where
  length := by
    rw [length_arena, length_arena, ← size_nodes, ← size_nodes]
    exact h.recast.size_eq
  parent? i := by rw [parent?_arena, parent?_arena, h.recast.parent?_eq]
  children i := by
    rw [children_arena, children_arena, NodeList.children, NodeList.children,
      h.recast.parent?_eq, h.recast.extent_eq]
  top i e child kind := by
    rw [parent?_arena] at child
    rw [kind?_arena] at kind ⊢
    have own : d.nodes.element? i = some e := by rw [NodeList.element?, kind]
    obtain ⟨none_, -⟩ | ⟨p, e₁, e', -, here, there, same⟩ := h.recast.element? i
    · cases own.symm.trans none_
    · cases own.symm.trans here
      refine ⟨e', NodeList.kind?_of_element? there, ?_⟩
      obtain rfl | ⟨-, exchanged⟩ := same
      · exact refl _
      · exact exchanged
  kind? i below := by
    rw [parent?_arena, kind?_arena] at below
    rw [kind?_arena, kind?_arena]
    obtain ⟨-, -, same⟩ | ⟨p, e, e', child, here, there, same⟩ := h.recast.element? i
    · exact same
    · have kind := NodeList.kind?_of_element? here
      obtain rfl | ⟨rfl, -⟩ := same
      · exact (NodeList.kind?_of_element? there).trans kind.symm
      · exact absurd kind (below child e)

theorem Forest.retopped_mapTop (change : Element → Element) (f : Forest) :
    Retopped (fun e e' => e' = change e) f (f.mapTop change) := by
  induction f with
  | nil => exact .nil
  | leaf l rest ih => exact .leaf ih
  | element e content rest _ ih => exact .element rfl ih

namespace FixupContext

variable (context : FixupContext) (inclusion : Element) (setId : Option String)

theorem retopped_document (d : Document) :
    Document.Retopped Element.ExtendedBy d (context.document inclusion setId d) :=
  ⟨rfl, (Forest.retopped_mapTop _ d.content).mono fun e _ same =>
    same ▸ context.extendedBy_topElement inclusion setId e⟩

theorem document_document (d : Document) :
    context.document inclusion setId (context.document inclusion setId d)
      = context.document inclusion setId d :=
  congrArg (Document.mk d.base) <|
    (Forest.retopped_mapTop (context.topElement inclusion setId) d.content).mapTop_eq
      fun e _ same => same ▸ context.topElement_topElement inclusion setId e

/-- **Fix-up only adds, and adds once.**  Building the document that is fixed up succeeds.  All its
nodes are those of the document before, in the same places, but for elements at the top, which are
extended.  With all fix-ups off nothing is changed, and nothing is changed the second time. -/
theorem fixup_only_adds {d : Document} (wellFormed : d.arena.WellFormed) :
    ∃ d', context.rebuild inclusion setId d = .ok d' ∧ d' = context.document inclusion setId d
      ∧ d'.arena.WellFormed ∧ Arena.Retopped Element.ExtendedBy d.arena d'.arena
      ∧ (context.options.Unchanging → d' = d)
      ∧ context.rebuild inclusion setId d' = .ok d' := by
  have merged := Document.wellFormed_arena_iff.mp wellFormed
  have mergedAfter : (context.document inclusion setId d).content.isMerged :=
    Forest.isMerged_mapTop (context.topElement inclusion setId) merged
  refine ⟨_, context.rebuild_eq inclusion setId merged, rfl,
    Document.wellFormed_arena mergedAfter,
    (context.retopped_document inclusion setId d).arena Element.ExtendedBy.refl,
    fun off => document_of_unchanging off inclusion setId d, ?_⟩
  rw [context.rebuild_eq inclusion setId mergedAfter, document_document]

/-- An include in German at a page of its own, with an attribute to copy. -/
def germanContext : FixupContext := ⟨{}, some "urn:page", some "de"⟩

def markingInclude : Element where
  name := .plain "include"
  attributes := .ofList [(.prefixed "m" "urn:m" "mark", "1")]
  bindings := .ofList [("m", "urn:m")]
  base := none

/-- A note with a text in it behind a comment. -/
def noteDocument : Document where
  base := some "urn:note"
  content := .leaf (.comment "c")
    (.element ⟨.plain "note", .ofList [(.plain "a", "2")], .ofList [("m", "urn:other")],
      some "urn:note"⟩ (.leaf (.text "t") .nil) .nil)

theorem fixup_only_adds_note :
    noteDocument.arena.WellFormed
      ∧ Arena.Retopped Element.ExtendedBy noteDocument.arena
        (germanContext.document markingInclude (some "n") noteDocument).arena
      ∧ (germanContext.document markingInclude (some "n") noteDocument).content.tops.map
          (·.attributes.entries)
        = [[(.plain "a", "2"), (.xml "id", "n"), (.prefixed "ns0" "urn:m" "mark", "1"),
          (.xml "base", "urn:note"), (.xml "lang", "")]] := by
  have wellFormed : noteDocument.arena.WellFormed := Document.wellFormed_arena (by decide)
  obtain ⟨d', -, rfl, -, retopped, -⟩ :=
    germanContext.fixup_only_adds markingInclude (some "n") wellFormed
  exact ⟨wellFormed, retopped, by decide +kernel⟩

end FixupContext

end Transclusion
