import Transclusion.Proofs.Fragment.NamedElements
import Transclusion.Proofs.Inclusion.Ending
import Transclusion.Proofs.Inclusion.FailedInclude
import Transclusion.Proofs.Inclusion.RenamedTops
import Transclusion.Proofs.Markup.LastingCopies
/-!
# Includes with a `set-xml-id`

The elements at the top of what replaces an include are given the `xml:id` that its `set-xml-id`
names.  The elements at the top of a resource are given it as well, before a part of the resource is
selected: they cannot be found under their own `xml:id`s then, but under the new one.

A fragment identifier whose schemes ignore the `xml:id`s at the top selects the same with and
without `set-xml-id`.  Then the include fails with the same error both times, or it is replaced by
the same content but for the `xml:id`s at its top (`Document.SameUnder`).

* `Includer.alike_markup`: the resource, expanded, is the same under another `xml:id`.
* `Includer.alike_narrow`: the same is selected from it.
* `Includer.selection_ignores_setXmlId`: what replaces an include with and without `set-xml-id`.
-/

namespace Transclusion

/-! ### Fix-up under another `xml:id` -/

namespace FixupContext

variable (context : FixupContext) (inclusion : Element)

theorem id?_apply (lang : Option String) (e : Element) : (context.apply lang e).id? = e.id? :=
  (context.attribute?_withLang lang _ (by decide)).trans
    (context.attribute?_withBase_of_ne e (by decide))

/-- Without a `set-xml-id`, elements keep their `xml:id`. -/
theorem id?_topElement_none (e : Element) :
    (context.topElement inclusion none e).id? = e.id? := by
  rw [topElement, id?_apply]
  split
  · exact e.attribute?_withCopied inclusion none "id"
  · rfl

theorem id?_topElement (on : context.options.copyAttributes = true) {v : String} (nonempty : v ≠ "")
    (e : Element) : (context.topElement inclusion (some v) e).id? = some v := by
  have set : e.withId (some v) = e.setAttribute (.xml "id") v := by
    unfold Element.withId
    split
    · next h => cases h
    · next h => exact absurd (Option.some.inj h) nonempty
    · next h => rw [Option.some.inj h]
  have copied := e.attribute?_withCopied inclusion (some v) "id"
  rw [topElement, id?_apply, if_pos on]
  rw [set, Element.attribute?_setAttribute_xml, if_pos rfl] at copied
  exact copied

/-- Two elements that are equal but for the `xml:id` are fixed up to such, whichever `xml:id`s they
are given. -/
theorem sameButId_topElement {e e' : Element} (same : e.SameButId e')
    (setId setId' : Option String) :
    (context.topElement inclusion setId e).SameButId (context.topElement inclusion setId' e') := by
  rw [Element.SameButId, withoutId_topElement, withoutId_topElement]
  exact congrArg (context.topElement inclusion none) same

end FixupContext

/-! ### Documents with the `xml:id` at their top -/

/-- The `xml:id`s of the elements at the top. -/
def Document.topIds (d : Document) : List String := d.content.tops.filterMap Element.id?

/-- The document with the elements at its top not having any `xml:id`. -/
def Document.withoutTopIds (d : Document) : Document := ⟨d.base, d.content.mapTop Element.withoutId⟩

/-- The element has been given the `xml:id` `v`. -/
def Element.IsGiven (v : String) (e e' : Element) : Prop := e.SameButId e' ∧ e'.id? = some v

/-- Two documents are equal, and so deeply equal, but for the `xml:id`s of the elements at their
top. In the second one that is `v`. -/
structure Document.SameUnder (v : String) (r r' : Document) : Prop where
  equal : r'.withoutTopIds = r.withoutTopIds
  deepEqual : r'.withoutTopIds.content.deepEqual r.withoutTopIds.content
  ids : ∀ e ∈ r'.content.tops, e.id? = some v

theorem Forest.Retopped.forall_mem_tops {may : Element → Element → Prop} {f f' : Forest}
    (h : Retopped may f f') {p : Element → Prop} (each : ∀ e e', may e e' → p e') :
    ∀ e ∈ f'.tops, p e := by
  induction h with
  | nil => exact nofun
  | leaf _ ih => exact ih
  | element here _ ih =>
    rw [tops, List.forall_mem_cons]
    exact ⟨each _ _ here, ih⟩

theorem Document.Retopped.sameUnder {v : String} {r r' : Document}
    (h : Document.Retopped (Element.IsGiven v) r r') : Document.SameUnder v r r' := by
  have content : r'.content.mapTop Element.withoutId = r.content.mapTop Element.withoutId :=
    h.content.mapTop_eq fun _ _ given => given.1
  have equal : r'.withoutTopIds = r.withoutTopIds := by
    rw [Document.withoutTopIds, Document.withoutTopIds, h.base, content]
  exact ⟨equal, equal ▸ Forest.deepEqual_self _, h.content.forall_mem_tops fun _ _ given => given.2⟩

/-! ### Includes without their `set-xml-id` -/

/-- The element without its `set-xml-id`. -/
def Element.withoutSetId (e : Element) : Element := e.removeAttribute (.plain "set-xml-id")

/-- The include as if it had no `set-xml-id`. -/
def IncludeSite.withoutSetId (site : IncludeSite) : IncludeSite :=
  { site with attributes := { site.attributes with setXmlId := none } }

namespace IncludeAttributes

theorem plainAttribute?_withoutSetId (e : Element) {name : String} (other : name ≠ "set-xml-id") :
    e.withoutSetId.plainAttribute? name = e.plainAttribute? name :=
  e.attribute?_removeAttribute_of_ne fun same => other (congrArg Prod.snd same)

theorem setXmlId_withoutSetId (e : Element) :
    e.withoutSetId.plainAttribute? "set-xml-id" = none := by
  show ((e.attributes.erase _).find? _).map _ = none
  rw [Option.map_eq_none_iff, Table.find?, List.find?_eq_none]
  intro entry kept
  simpa using (List.mem_filter.mp kept).2

/-- All else that the include says stays. -/
theorem ofElement_withoutSetId (e : Element) :
    ofElement e.withoutSetId = (ofElement e).map fun a => { a with setXmlId := none } := by
  have printed : ∀ name, name ≠ "set-xml-id" →
      printable e.withoutSetId name = printable e name := by
    intro name other
    rw [printable, printable, plainAttribute?_withoutSetId e other]
  unfold ofElement
  rw [printed "accept" (by decide), printed "accept-language" (by decide), setXmlId_withoutSetId]
  simp only [ne_eq, String.reduceEq, not_false_eq_true, plainAttribute?_withoutSetId]
  cases printable e "accept" with
  | error err => rfl
  | ok accept => cases printable e "accept-language" <;> rfl

end IncludeAttributes

theorem Element.copied_withoutSetId (e : Element) : e.withoutSetId.copied = e.copied :=
  e.copied_removeAttribute rfl

/-- Documents that differ in the `set-xml-id` of one element are twins. -/
theorem Document.twins_withoutSetId (d : Document) (id : Nat) :
    Twins id d (d.changeAt id .withoutSetId) := by
  refine (d.recast_changeAt id .withoutSetId).twins ?_ ?_
  · rintro - i e _ rfl
    split
    · exact ⟨rfl, rfl, e.attribute?_removeAttribute_of_ne nofun⟩
    · exact ⟨rfl, rfl, rfl⟩
  · rintro p i e _ low before rfl
    rw [if_neg (by omega)]

namespace Includer

open Expanding

variable {includer : Includer} {handle : Document → ControlHandler Expanding} {v : String}

/-! ### Fix-up with and without a `set-xml-id` -/

section

variable {site : IncludeSite} (on : includer.options.copyAttributes = true) (nonempty : v ≠ "")
  (setId : site.attributes.setXmlId = some v)

include on nonempty setId

theorem isGiven_topElement {e e' : Element} (same : e.SameButId e') :
    Element.IsGiven v ((includer.contextOf site).topElement site.element none e)
      ((includer.contextOf site).topElement site.element site.attributes.setXmlId e') := by
  refine ⟨(includer.contextOf site).sameButId_topElement site.element same _ _, ?_⟩
  rw [setId]
  exact (includer.contextOf site).id?_topElement site.element on nonempty e'

/-- A resource is fixed up to the same but for the `xml:id`s at its top. -/
theorem renamed_fixed (resource : Document) :
    Document.Retopped (Element.Renamed resource.topIds v)
      (includer.fixed site.withoutSetId resource) (includer.fixed site resource) := by
  have unchanged : Forest.Retopped (fun e e' => e' = e ∧ e ∈ resource.content.tops)
      resource.content resource.content := Forest.retopped_self fun e he => ⟨rfl, he⟩
  refine ⟨rfl, unchanged.mapTop ?_⟩
  rintro _ e ⟨rfl, top⟩
  obtain ⟨same, given⟩ := isGiven_topElement on nonempty setId (Element.SameButId.refl e)
  refine .inr ⟨same, given, fun own had => ?_⟩
  have kept : e.id? = some own :=
    ((includer.contextOf site).id?_topElement_none site.element e).symm.trans had
  exact List.mem_filterMap.mpr ⟨e, top, kept⟩

/-- What is selected is fixed up to the same but for the `xml:id`s at its top. -/
theorem isGiven_fixed {c c' : Document} (h : Document.Retopped Element.SameButId c c') :
    Document.Retopped (Element.IsGiven v) (includer.fixed site.withoutSetId c)
      (includer.fixed site c') :=
  ⟨h.base, h.content.mapTop fun _ _ same => isGiven_topElement on nonempty setId same⟩

end

/-! ### The resource -/

/-- The resource of the include expands to this document, be there a `set-xml-id` or not. -/
def ExpandsTo (includer : Includer) (site : IncludeSite) (depth : Nat) (r : Document) : Prop :=
  ∃ s t, includer.markup (includer.handle depth) site.withoutSetId s = .ok (.ok r, t)

/-- What an include obtains from a resource has nothing to do with the `xml:id`s at its top, be they
as written or `v`: neither do the schemes of the fragment identifier look at them, in the expanded
resource, nor do the includes in the resource that refer to it, or these take the same anyway. -/
structure IgnoresTopIds (includer : Includer) (site : IncludeSite) (fragment v : String)
    (depth : Nat) (resource : Document) : Prop where
  schemes : ∀ schemes r, FragmentId.read includer.schemes .xml fragment = .ok schemes →
    includer.ExpandsTo site depth r →
      Scheme.AllIgnoreTopIds resource.topIds v ⟨r, includer.contextOf site⟩ none [] schemes
  includes : ∀ i e e' a, includer.IsInclude (includer.fixed site.withoutSetId resource) i e →
    (includer.fixed site resource).nodes.element? i = some e' →
      IncludeAttributes.ofElement e = .ok a → a.href = "" →
        let bare : IncludeSite := ⟨includer.fixed site.withoutSetId resource, i, e, a⟩
        let given : IncludeSite := ⟨includer.fixed site resource, i, e', a⟩
        includer.OwnIgnoresTopIds resource.topIds v bare
          ∨ includer.ownContent given a.parseType = includer.ownContent bare a.parseType

section

variable {site : IncludeSite} {fragment : String} (on : includer.options.copyAttributes = true)
  (nonempty : v ≠ "") (setId : site.attributes.setXmlId = some v)

include on nonempty setId

/-- The expanded resource is the same but for the `xml:id`s at its top. -/
theorem alike_markup (byTarget : includer.resolver.ByTarget) {depth : Nat}
    (ignores : ∀ resource, includer.resolver.readXml (request site) = .ok (.ok resource) →
      includer.IgnoresTopIds site fragment v depth resource) :
    Alike (fun r r' => ∃ resource, includer.IgnoresTopIds site fragment v depth resource
          ∧ Document.Retopped (Element.Renamed resource.topIds v) r r')
      (includer.markup (includer.handle depth) site.withoutSetId)
      (includer.markup (includer.handle depth) site) := by
  refine alike_bind_same fun _ => alike_ofReply_bind fun resource read => ?_
  have ignored := ignores resource read
  have fixed := renamed_fixed on nonempty setId resource
  have takes := takesSame_of_renamed fixed ignored.includes
  refine (alike_expandAll fixed byTarget takes depth).bind fun r r' renamed => ?_
  exact alike_bind_same fun _ => alike_pure ⟨resource, ignored, renamed⟩

/-! ### The selection -/

/-- The same is selected but for the `xml:id`s at its top, which are `v` in the one case. -/
theorem alike_narrow {ids : List String} {r r' : Document}
    (h : Document.Retopped (Element.Renamed ids v) r r')
    (ignore : ∀ schemes, FragmentId.read includer.schemes .xml fragment = .ok schemes →
      Scheme.AllIgnoreTopIds ids v ⟨r, includer.contextOf site⟩ none [] schemes)
    (free : r.content.Free includer.controls) :
    Alike (Document.Retopped (Element.IsGiven v))
      (includer.narrow handle site.withoutSetId .xml fragment r none)
      (includer.narrow handle site .xml fragment r' none) := by
  refine alike_lift_bind (agree_self (fun _ => rfl) _) fun schemes _ read _ same => ?_
  subst same
  have selected := selectFrom_agree h (ignore schemes (mapError_eq_ok_iff.mp read)) fragment none
  refine alike_lift_bind selected fun found found' _ _ same => ?_
  obtain ⟨c, matched⟩ := found
  obtain ⟨c', matched'⟩ := found'
  have given := isGiven_fixed on nonempty setId same.retopped
  have named : ∀ e e', Element.IsGiven v e e' → e'.name = e.name := fun e e' given => given.1.name
  -- There is nothing to be replaced in what is selected from an expanded document.
  have clear := includer.free_fixed site.withoutSetId (free_of_names same.names free)
  have clear' : (includer.fixed site c').content.Free includer.controls := by
    rwa [Forest.Free, given.content.names_eq named]
  show Alike _ (includer.expandAll handle _) (includer.expandAll handle _)
  rw [expandAll_eq, expandAll_eq, clear.encounters, clear'.encounters]
  exact alike_pure ⟨given.base, given.content.fill named includer.controls (List.forall_mem_nil _)⟩

/-- An include of a part of a resource obtains the same but for the `xml:id`s at its top. -/
theorem alike_resolve (byTarget : includer.resolver.ByTarget) (plain : includer.resolver.PlainText)
    (external : site.attributes.href ≠ "") (narrows : site.attributes.fragment .xml = some fragment)
    {depth : Nat} (ignores : ∀ resource,
      includer.resolver.readXml (request site) = .ok (.ok resource) →
        includer.IgnoresTopIds site fragment v depth resource) :
    Alike (Document.Retopped (Element.IsGiven v))
      (includer.resolve (includer.handle depth) site.withoutSetId .xml)
      (includer.resolve (includer.handle depth) site .xml) := by
  have attempt : ∀ site' : IncludeSite, site'.attributes.href ≠ "" →
      site'.attributes.fragment .xml = some fragment →
        includer.resolve (includer.handle depth) site' .xml
          = includer.markup (includer.handle depth) site' >>= fun r =>
              includer.narrow (includer.handle depth) site' .xml fragment r none := by
    intro site' external narrows
    simp [resolve, resource, external, narrows]
  rw [attempt site external narrows, attempt site.withoutSetId external narrows]
  have expanded : (includer.markup (includer.handle depth) site.withoutSetId).Yields fun d =>
      d.content.Expanded includer.controls :=
    ⟨includer.givesExpanded_markup (includer.givesExpanded_handle plain depth) site.withoutSetId⟩
  have resources := (alike_markup on nonempty setId byTarget ignores).yields expanded.reached
  refine resources.bind fun r r' related => ?_
  obtain ⟨⟨resource, ignored, renamed⟩, full, reached⟩ := related
  exact alike_narrow on nonempty setId renamed
    (fun schemes read => ignored.schemes schemes r read reached) full.free

/-- The content of a fallback is the same but for the `xml:id`s at its top. -/
theorem alike_fallback (c : Nat) :
    Alike (Document.Retopped (Element.IsGiven v))
      (includer.fallback handle site.withoutSetId c) (includer.fallback handle site c) := by
  rw [fallback_eq, fallback_eq]
  refine alike_bind_same fun answers => alike_pure (isGiven_fixed on nonempty setId ?_)
  exact ⟨rfl, Forest.retopped_self fun e _ => .refl e⟩

end

/-- Includes of markup that are resolved alike and have fallbacks that are alike are replaced
alike. -/
theorem alike_replacement {rel : Document → Document → Prop} (site site' : IncludeSite)
    (markup : site.attributes.parseType = .xml) (markup' : site'.attributes.parseType = .xml)
    (resolved : Alike rel (includer.resolve handle site .xml) (includer.resolve handle site' .xml))
    {fallback : Option Nat} (fallsBack : ∀ c ∈ fallback,
      Alike rel (includer.fallback handle site c) (includer.fallback handle site' c)) :
    Alike rel (includer.replacement handle site fallback)
      (includer.replacement handle site' fallback) := by
  unfold replacement
  dsimp only
  rw [markup, markup', if_neg nofun, if_neg nofun]
  refine alike_bind_same fun before => ?_
  refine (resolved.tryCatch fun e => ?_).bind fun r r' same => alike_pure same
  cases fallback with
  | none => exact ⟨fun s => .ok ⟨.error e, rfl⟩⟩
  | some c => exact alike_bind_same fun _ => fallsBack c rfl

/-! ### A target that is renamed -/

namespace RenamedTarget

def bindings : Bindings := .ofList [("xi", xincludeNamespace)]

/-- An include of a part of a resource, which is to have the `xml:id` two. -/
def includeOf (pointer : String) : Element :=
  ⟨.prefixed "xi" xincludeNamespace "include",
    .ofList [(.plain "href", "http://h/a"), (.plain "xpointer", pointer),
      (.plain "set-xml-id", "two")], bindings, none⟩

def attributesOf (pointer : String) : IncludeAttributes :=
  ⟨"http://h/a", some pointer, none, some "two", "UTF-8", none, none, "xml"⟩

/-- A page with such an include. -/
def page (pointer : String) : Document :=
  ⟨none, .element ⟨.inNamespace none "doc", .empty, bindings, none⟩
    (.element (includeOf pointer) .nil .nil) .nil⟩

/-- The page with an include of the element with the `xml:id` one in writing. -/
def writtenPage : String :=
  "<doc xmlns:xi='http://www.w3.org/2001/XInclude'>"
    ++ "<xi:include href='http://h/a' xpointer='one' set-xml-id='two'/></doc>"

/-- A resource that includes an element of its own. -/
def writtenResource : String :=
  "<p xml:id='one' xmlns:xi='http://www.w3.org/2001/XInclude'><q xml:id='inner'/>"
    ++ "<xi:include xpointer='inner'/></p>"

/-- Copies the attributes of includes and fixes up nothing else. -/
def reader : Includer :=
  standard ⟨false, false, true, false⟩ (.memory (.ofList [("http://h/a", writtenResource)]))

/-- An element of the resource with an `xml:id`. -/
def part (name x : String) : Element :=
  ⟨.inNamespace none name, .ofList [(.xml "id", x)], bindings, some "http://h/a"⟩

def ownInclude : Element :=
  ⟨.prefixed "xi" xincludeNamespace "include", .ofList [(.plain "xpointer", "inner")], bindings,
    some "http://h/a"⟩

def readResource : Document :=
  ⟨some "http://h/a", .element (part "p" "one")
    (.element (part "q" "inner") .nil (.element ownInclude .nil .nil)) .nil⟩

def expandedResource : Document :=
  ⟨some "http://h/a", .element (part "p" "one")
    (.element (part "q" "inner") .nil (.element (part "q" "inner") .nil .nil)) .nil⟩

/-- Points to the inner element. -/
def pointer : String := "xpath(id('inner'))"

/-- The inner element with some `xml:id`. -/
def inner (x : String) : Document := ⟨some "http://h/a", .element (part "q" x) .nil .nil⟩

/-- The include in the resource does not look at the `xml:id` of the element around it. -/
theorem ownInclude_ignores {i : Nat} {e : Element} {a : IncludeAttributes}
    (isInclude : reader.IsInclude readResource i e)
    (attributes : IncludeAttributes.ofElement e = .ok a) :
    reader.OwnIgnoresTopIds ["one"] "two" ⟨readResource, i, e, a⟩ := by
  have only : ∀ i < 4, ∀ e ∈ readResource.nodes.element? i,
      reader.controls.get? e.name = some .inclusion → i = 3 ∧ e = ownInclude := by decide +kernel
  have around : ∀ j < 4, readResource.nodes.parent? j = some 0 →
      j ∈ (AncestorSet.ofInclude readResource.nodes 3).numbers := by decide +kernel
  have own : FragmentId.read .standard .xml "inner"
      = .ok [(⟨some "inner", []⟩ : ElementPointer).scheme] := rfl
  obtain ⟨element, control⟩ := isInclude
  obtain ⟨rfl, rfl⟩ := only i (Document.bounds_of_element? element).2 e element control
  have read : IncludeAttributes.ofElement ownInclude
      = .ok ⟨"", some "inner", none, none, "UTF-8", none, none, "xml"⟩ := rfl
  cases read.symm.trans attributes
  refine ⟨nofun, fun fragment schemes narrows found => ?_, fun j e element top => ?_⟩
  · cases narrows
    cases own.symm.trans found
    exact ⟨.element ⟨some "inner", []⟩ (by decide), fun _ => trivial⟩
  · exact around j (Document.bounds_of_element? element).2 top

end RenamedTarget

/-! ### Main result -/

open RenamedTarget in
/-- An element at the top of the resource is not found under its `xml:id` if the include has a
`set-xml-id`, but it is found without. -/
theorem target_lost_under_setXmlId :
    Document.read none writtenPage = .ok (page "one")
      ∧ IncludeAttributes.ofElement (includeOf "one") = .ok (attributesOf "one")
      ∧ reader.include_ (reader.handle 1) (page "one") 2 (includeOf "one") .empty
          = .ok (.error (.noFragment "one" none), .empty)
      ∧ reader.include_ (reader.handle 1) ((page "one").changeAt 2 .withoutSetId) 2
          (includeOf "one").withoutSetId .empty = .ok (.ok expandedResource, .empty) :=
  ⟨eq_ok_of_toOption (by decide +kernel), rfl, by decide +kernel,
    Expanding.eq_of_success? (by decide +kernel)⟩

/-- **What a fragment identifier selects does not depend on `set-xml-id`**, as long as nothing looks
at the `xml:id`s at the top of the resource. Let an include refer to a part of a resource and have
the `set-xml-id` `v`, which is not empty; let the schemes of its fragment identifier ignore the
`xml:id`s of the elements at the top of the resource, and let the includes in the resource and in
the fallback that refer to their own documents take the same with and without it. Then the include
fails with the same error with and without its `set-xml-id`, or it succeeds both times, and it
leaves the same stack; and what replaces it is the same but for the `xml:id`s of the elements at
the top, which are all `v` if it has its `set-xml-id`. -/
theorem selection_ignores_setXmlId (on : includer.options.copyAttributes = true)
    (byTarget : includer.resolver.ByTarget) (plain : includer.resolver.PlainText) {d : Document}
    {id : Nat} {e : Element} {a : IncludeAttributes} {fragment : String}
    (attributes : IncludeAttributes.ofElement e = .ok a) (external : a.href ≠ "")
    (markup : a.parseType = .xml) (narrows : a.fragment .xml = some fragment)
    (setId : a.setXmlId = some v) (nonempty : v ≠ "")
    {depth : Nat} (ignores : ∀ resource,
      includer.resolver.readXml (request ⟨d, id, e, a⟩) = .ok (.ok resource) →
        includer.IgnoresTopIds ⟨d, id, e, a⟩ fragment v depth resource)
    (takes : ∀ c, includer.fallbackChild? d.nodes id = .ok (some c) →
      includer.TakesSame (· ∈ d.nodes.descendants c) d (d.changeAt id .withoutSetId)) :
    Alike (Document.SameUnder v)
      (includer.include_ (includer.handle depth) (d.changeAt id .withoutSetId) id e.withoutSetId)
      (includer.include_ (includer.handle depth) d id e) := by
  have twins := d.twins_withoutSetId id
  have attributes' : IncludeAttributes.ofElement e.withoutSetId
      = .ok { a with setXmlId := none } := by
    rw [IncludeAttributes.ofElement_withoutSetId, attributes]
    rfl
  rw [includer.include_of_attributes attributes, includer.include_of_attributes attributes',
    twins.fallbackChild?_eq]
  refine alike_lift_bind (agree_self (fun _ => rfl) _) fun fallback _ child _ same => ?_
  subst same
  -- First from the changed document to the include as it stands, then from none to `v`.
  let bare : IncludeSite :=
    ⟨d.changeAt id .withoutSetId, id, e.withoutSetId, { a with setXmlId := none }⟩
  have resolved : Alike (Document.Retopped (Element.IsGiven v))
      (includer.resolve (includer.handle depth) bare .xml)
      (includer.resolve (includer.handle depth) ⟨d, id, e, a⟩ .xml) := by
    have obtained : includer.resolve (includer.handle depth) bare .xml
        = includer.resolve (includer.handle depth) (IncludeSite.withoutSetId ⟨d, id, e, a⟩) .xml :=
      resolve_external_twins byTarget twins id e.copied_withoutSetId
        (a := { a with setXmlId := none }) external .xml
    rw [obtained]
    exact alike_resolve on nonempty setId byTarget plain external narrows ignores
  have fallsBack : ∀ c ∈ fallback, Alike (Document.Retopped (Element.IsGiven v))
      (includer.fallback (includer.handle depth) bare c)
      (includer.fallback (includer.handle depth) ⟨d, id, e, a⟩ c) := by
    rintro c rfl
    have expanded : includer.fallback (includer.handle depth) bare c
        = includer.fallback (includer.handle depth) (IncludeSite.withoutSetId ⟨d, id, e, a⟩) c :=
      fallback_eq_of_twins byTarget twins child (takes c child) depth e.copied_withoutSetId rfl
    rw [expanded]
    exact alike_fallback on nonempty setId c
  exact (alike_replacement bare ⟨d, id, e, a⟩ markup markup resolved fallsBack).mono
    fun r r' given => given.sameUnder

open RenamedTarget in
theorem selection_ignores_setXmlId_inner :
    reader.include_ (reader.handle 1) ((page pointer).changeAt 2 .withoutSetId) 2
        (includeOf pointer).withoutSetId .empty = .ok (.ok (inner "inner"), .empty)
      ∧ reader.include_ (reader.handle 1) (page pointer) 2 (includeOf pointer) .empty
          = .ok (.ok (inner "two"), .empty)
      ∧ Document.SameUnder "two" (inner "inner") (inner "two") := by
  have bare : reader.include_ (reader.handle 1) ((page pointer).changeAt 2 .withoutSetId) 2
      (includeOf pointer).withoutSetId .empty = .ok (.ok (inner "inner"), .empty) :=
    Expanding.eq_of_success? (by decide +kernel)
  have given : reader.include_ (reader.handle 1) (page pointer) 2 (includeOf pointer) .empty
      = .ok (.ok (inner "two"), .empty) := Expanding.eq_of_success? (by decide +kernel)
  have read : reader.resolver.readXml (request ⟨page pointer, 2, includeOf pointer,
      attributesOf pointer⟩) = .ok (.ok readResource) :=
    congrArg Except.ok (eq_ok_of_toOption (by decide +kernel))
  have unchanged : reader.fixed (IncludeSite.withoutSetId ⟨page pointer, 2, includeOf pointer,
      attributesOf pointer⟩) readResource = readResource := by decide +kernel
  have plain : IsPlainId "inner" :=
    ⟨⟨by decide, List.all_iff_forall_prop.mp (by decide)⟩,
      List.all_iff_forall_prop.mp (by decide)⟩
  have others : ∀ w ∈ (Text.words "inner".toList).map String.ofList,
      w ∉ ["two", "one"] := by decide
  have written : FragmentId.xpathTerm "inner" = pointer := by decide
  have call : FragmentId.read .standard .xml pointer
      = .ok [(⟨XPath.idCall "inner"⟩ : ExpressionPointer).scheme] :=
    written ▸ FragmentId.read_xpathTerm plain
  have alike : Alike (Document.SameUnder "two")
      (reader.include_ (reader.handle 1) ((page pointer).changeAt 2 .withoutSetId) 2
        (includeOf pointer).withoutSetId)
      (reader.include_ (reader.handle 1) (page pointer) 2 (includeOf pointer)) := by
    refine selection_ignores_setXmlId rfl (Resolver.byTarget_memory _)
      (Resolver.plainText_memory _) (a := attributesOf pointer) rfl (by decide) (by decide +kernel)
      rfl rfl (by decide) (fun resource found => ?_) (fun c child => ?_)
    · cases read.symm.trans found
      refine ⟨fun schemes r found _ => ?_, fun i e e' a isInclude _ attributes _ => Or.inl ?_⟩
      · cases call.symm.trans found
        refine ⟨.expression ⟨XPath.idCall "inner"⟩ fun e read => ?_, fun _ => trivial⟩
        cases (XPath.Expr.read_idCall (by decide)).symm.trans read
        exact XPath.Expr.overlooks_idCall others
      · rw [unchanged] at isInclude ⊢
        exact ownInclude_ignores isInclude attributes
    · have noFallback : reader.fallbackChild? (page pointer).nodes 2 = .ok none := rfl
      cases noFallback.symm.trans child
  have outcomes := alike.agree .empty
  rw [bare, given] at outcomes
  cases outcomes with
  | ok same =>
    cases same.1 with
    | ok related => exact ⟨bare, given, related⟩

end Includer

end Transclusion
