import Transclusion.Proofs.Fragment.UnreadIds
import Transclusion.Proofs.Inclusion.Mirroring
import Transclusion.Proofs.Inclusion.Twins
import Transclusion.Proofs.Markup.Arena
/-!
# Documents under another `xml:id`

The elements at the top of a resource can be given an `xml:id` before its includes are expanded.
An include in the resource that refers to the resource itself selects from the elements as they are
then.  It takes the same in either case, if its schemes ignore these `xml:id`s and it is inside all
elements at the top: it cannot select those, and what is inside them has not changed
(`Includer.OwnIgnoresTopIds`).

* `Includer.takesSame_of_renamed`: such includes take the same.
* `Includer.alike_expandAll`: a document under another `xml:id` expands to the same.
-/

namespace Transclusion

/-! ### Elements under another `xml:id` -/

namespace Element

variable {e e' : Element} (same : e.SameButId e')

include same

theorem SameButId.plainAttribute?_eq (name : String) :
    e'.plainAttribute? name = e.plainAttribute? name := by
  have other : (QName.plain name).expanded ≠ (QName.xml "id").expanded := nofun
  have read : ∀ x : Element, x.withoutId.plainAttribute? name = x.plainAttribute? name :=
    fun x => x.attribute?_removeAttribute_of_ne other
  rw [← read e', same, read]

theorem SameButId.copied : e'.copied = e.copied := by
  have notCopied : copiedName? (.xml "id") = none := rfl
  have read : ∀ x : Element, x.withoutId.copied = x.copied :=
    fun x => x.copied_removeAttribute notCopied
  rw [← read e', same, read]

/-- An include does not look at its own `xml:id`. -/
theorem SameButId.sameInclude : SameInclude e e' where
  name := same.name
  attributes := by
    simp only [IncludeAttributes.ofElement, IncludeAttributes.printable, same.plainAttribute?_eq]
  copied := same.copied

end Element

namespace Document.Retopped

variable {ids : List String} {v : String} {d d' : Document}
  (h : Document.Retopped (Element.Renamed ids v) d d')

include h

/-- From what is inside the elements at the top on, the documents cannot be told apart. -/
theorem twins : Twins 1 d d' := by
  refine h.recast.twins ?_ ?_
  · rintro p i e e' (rfl | ⟨-, renamed⟩)
    · exact ⟨rfl, rfl, rfl⟩
    · have same := renamed.sameButId
      exact ⟨same.name, same.base, Element.lang?_of_withoutId same⟩
  · rintro p i e e' inside - (rfl | ⟨rfl, -⟩)
    · rfl
    · omega

/-- A node other than the document and the elements at its top is the same with all that is inside
it. -/
theorem subtree?_eq {j : Nat} (pos : 0 < j)
    (other : ∀ e, d.nodes.element? j = some e → d.nodes.parent? j ≠ some 0) :
    d'.subtree? j = d.subtree? j := by
  have related := (h.mono fun _ _ renamed => renamed.sameButId).subtree? Element.SameButId.refl j
  generalize here : d.subtree? j = x, there : d'.subtree? j = y at related
  cases related with
  | none => rfl
  | some related =>
    cases related with
    | leaf l => rfl
    | document content =>
      rw [Document.subtree?, if_neg (by omega)] at here
      exact absurd here (Forest.subtree?_ne_document _ _ _)
    | @element e _ content _ =>
      have within := (Document.bounds_of_element? (Document.element?_of_subtree? here)).2
      obtain ⟨p, parent⟩ := Document.exists_parent? pos within
      have inside : 1 ≤ p := by
        refine Nat.pos_of_ne_zero fun top => ?_
        subst top
        exact other e (Document.element?_of_subtree? here) parent
      rw [← here, ← there, h.twins.inside j p parent inside]

end Document.Retopped

namespace Includer

open Expanding

variable {includer : Includer} {ids : List String} {v : String} {d d' : Document}

/-! ### Includes that refer to the resource -/

/-- An include that refers to its own document does not look at the `xml:id`s of the elements at the
top: neither do its schemes, and it is inside of all these elements, so that it cannot select them.
An include by text is not one of them, since it has all of its document before it. -/
structure OwnIgnoresTopIds (includer : Includer) (ids : List String) (v : String)
    (site : IncludeSite) : Prop where
  markup : site.attributes.parseType ≠ .text
  schemes : ∀ fragment schemes,
    site.attributes.fragment site.attributes.parseType = some fragment →
      FragmentId.read includer.schemes site.attributes.parseType fragment = .ok schemes →
        Scheme.AllIgnoreTopIds ids v ⟨site.document, includer.contextOf site⟩
          (some (.ofInclude site.document.nodes site.id)) [] schemes
  inside : ∀ j e, site.document.nodes.element? j = some e →
    site.document.nodes.parent? j = some 0 →
      j ∈ (AncestorSet.ofInclude site.document.nodes site.id).numbers

section

variable (h : Document.Retopped (Element.Renamed ids v) d d')

include h

theorem ownContent_eq_of_ignores {i : Nat} {e e' : Element} {a : IncludeAttributes}
    (element : d.nodes.element? i = some e)
    (ignores : includer.OwnIgnoresTopIds ids v ⟨d, i, e, a⟩) :
    includer.ownContent ⟨d', i, e', a⟩ a.parseType
      = includer.ownContent ⟨d, i, e, a⟩ a.parseType := by
  obtain ⟨markup, ignore, around⟩ := ignores
  unfold ownContent
  dsimp only
  cases narrows : a.fragment a.parseType with
  | none => rw [if_neg markup, if_neg markup]
  | some fragment =>
    dsimp only
    rw [if_neg markup, if_neg markup]
    refine congrArg Except.ok ?_
    have ancestors : AncestorSet.ofInclude d'.nodes i = .ofInclude d.nodes i := by
      rw [AncestorSet.ofInclude, AncestorSet.ofInclude, h.sameButIds.ancestors]
    rw [selected, selected, ancestors, h.twins.contextOf_eq includer i e e' a a]
    cases read : FragmentId.read includer.schemes a.parseType fragment with
    | error err => rfl
    | ok schemes =>
      have agree := selectFrom_agree h (ignore fragment schemes narrows read) fragment none
      show (selectWith schemes _ _ _ >>= fun r => pure r.1) = selectWith schemes _ _ _ >>= _
      unfold selectWith
      generalize found : selectFrom _ _ fragment [] none schemes = r,
        selectFrom ⟨d', _⟩ _ fragment [] none schemes = r' at agree
      cases agree with
      | error err => rfl
      | @ok r r' same =>
        refine congrArg Except.ok (same.inside fun j selected => ?_)
        -- The check against loops excludes the elements around the include, the document as well.
        have clear := not_mem_around_of_selectWith found j selected
        refine h.subtree?_eq (Nat.pos_of_ne_zero fun root => clear ?_) fun own top parent =>
          clear (around j own top parent)
        subst root
        have isElement := Option.isSome_iff_exists.mpr ⟨e, element⟩
        exact AncestorSet.mem_ofInclude.mpr (.inr (NodeList.inside_document isElement))

/-- Includes that refer to their own document take the same from a document under another `xml:id`,
if they ignore this. -/
theorem takesSame_of_renamed (ignore : ∀ i e e' a, includer.IsInclude d i e →
      d'.nodes.element? i = some e' → IncludeAttributes.ofElement e = .ok a → a.href = "" →
        includer.OwnIgnoresTopIds ids v ⟨d, i, e, a⟩
          ∨ includer.ownContent ⟨d', i, e', a⟩ a.parseType
            = includer.ownContent ⟨d, i, e, a⟩ a.parseType) :
    includer.TakesSame (1 ≤ ·) d d' := by
  intro i e e' a _ isInclude element' attributes own
  obtain ignores | same := ignore i e e' a isInclude element' attributes own
  · exact ownContent_eq_of_ignores h isInclude.1 ignores
  · exact same

/-! ### Expansion -/

/-- A document expands to the same but for the `xml:id`s at its top, if its includes that refer to
it take the same. -/
theorem alike_expandAll (byTarget : includer.resolver.ByTarget)
    (takes : includer.TakesSame (1 ≤ ·) d d') (depth : Nat) :
    Alike (Document.Retopped (Element.Renamed ids v)) (includer.expandAll (includer.handle depth) d)
      (includer.expandAll (includer.handle depth) d') := by
  have kept : ∀ e, Element.Renamed ids v e e := fun e => .inl rfl
  have named : ∀ e e', Element.Renamed ids v e e' → e'.name = e.name :=
    fun e e' renamed => renamed.sameButId.name
  obtain ⟨length, paired⟩ := List.forall₂_iff_zip.mp
    (h.content.encounters kept named includer.controls 1)
  -- The two documents are twins, so that the includes in them are replaced by the same one by one.
  have answers : (d'.content.encounters includer.controls 1).mapM (includer.handle depth d').answer
      = (d.content.encounters includer.controls 1).mapM (includer.handle depth d).answer := by
    refine mapM_eq_of_forall₂ (List.forall₂_iff_zip.mpr ⟨length, ?_⟩)
    rintro ⟨control, i, e⟩ ⟨control', i', e'⟩ pair
    obtain ⟨rfl, rfl, renamed⟩ := paired pair
    obtain ⟨here, there⟩ := List.of_mem_zip pair
    obtain ⟨inside, element, control⟩ := Document.element?_of_encounter here
    have element' := (Document.element?_of_encounter there).2.1
    refine answer_twins byTarget h.twins takes (fun _ low => low) ?_ depth inside element element'
      renamed.sameButId.sameInclude control
    intro j k low below
    have after := (NodeList.mem_descendants.mp below).1
    omega
  rw [expandAll_eq, expandAll_eq, answers]
  refine alike_bind_same fun answers => alike_pure ⟨h.base, ?_⟩
  exact h.content.fill named includer.controls fun a _ => Forest.retopped_self fun e _ => kept e

end

end Includer

end Transclusion
