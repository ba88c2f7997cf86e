import Transclusion.Proofs.Inclusion.InPlace
import Transclusion.Proofs.Markup.Recast
/-!
# Documents that an expansion cannot tell apart

An include is replaced by looking at its attributes, at the base URI and the language of its parent,
at the names of its children and at what is inside its fallback.  Two documents that agree in these
from a number on are twins (`Twins`): their includes are replaced by the same, provided that those
which refer to their own document take the same from both (`Includer.TakesSame`).

* `Includer.answer_twins`: the includes of twins have the same outcome, errors and stack included.
-/

namespace Transclusion

/-! ### Includes that say the same -/

/-- Two elements say the same as includes. -/
structure SameInclude (e e' : Element) : Prop where
  name : e'.name = e.name
  attributes : IncludeAttributes.ofElement e' = IncludeAttributes.ofElement e
  copied : e'.copied = e.copied

theorem SameInclude.refl (e : Element) : SameInclude e e := ⟨rfl, rfl, rfl⟩

/-- The nodes of two documents with their numbers are alike: they have the same places, names, base
URIs and languages. From the number `first` on, what is inside them is the same. -/
structure Twins (first : Nat) (d d' : Document) : Prop where
  parent : ∀ i, d'.nodes.parent? i = d.nodes.parent? i
  extent : ∀ i, d'.nodes.extent i = d.nodes.extent i
  base : ∀ i, d'.nodes.base? i = d.nodes.base? i
  lang : ∀ i, d'.nodes.lang? i = d.nodes.lang? i
  name : ∀ i, (d'.nodes.element? i).map (·.name) = (d.nodes.element? i).map (·.name)
  inside : ∀ i p, d.nodes.parent? i = some p → first ≤ p → d'.subtree? i = d.subtree? i

/-- Documents are twins if one is the other recast by elements that have the same name, base URI and
language. -/
theorem Document.Recast.twins {may : Casting} {first : Nat} {d d' : Document}
    (h : Document.Recast may d d')
    (alike : ∀ p i e e', may p i e e' → e'.name = e.name ∧ e'.base = e.base ∧ e'.lang? = e.lang?)
    (same : ∀ p i e e', first ≤ p → p < i → may p i e e' → e' = e) : Twins first d d' where
  parent i := congrFun h.parent?_eq i
  extent i := congrFun h.extent_eq i
  base i := congrFun (h.base?_eq fun p i e e' may => (alike p i e e' may).2.1) i
  lang i := congrFun (h.lang?_eq fun p i e e' may => (alike p i e e' may).2.2) i
  name := h.map_element?_eq fun p i e e' may => (alike p i e e' may).1
  inside _ _ child below := h.subtree?_eq same child below

namespace Twins

variable {first : Nat} {d d' : Document} (h : Twins first d d')

include h

theorem isElement_eq (i : Nat) : d'.nodes.isElement i = d.nodes.isElement i := by
  have name := congrArg Option.isSome (h.name i)
  rwa [Option.isSome_map, Option.isSome_map] at name

theorem elementChildren_eq (i : Nat) :
    d'.nodes.elementChildren i = d.nodes.elementChildren i := by
  have isElement : d'.nodes.isElement = d.nodes.isElement := funext h.isElement_eq
  rw [NodeList.elementChildren, NodeList.elementChildren, NodeList.children, NodeList.children,
    h.extent, isElement]
  simp only [h.parent]

/-- The fallback of an include is found by the names of its children. -/
theorem fallbackChild?_eq (includer : Includer) (i : Nat) :
    includer.fallbackChild? d'.nodes i = includer.fallbackChild? d.nodes i := by
  rw [Includer.fallbackChild?, Includer.fallbackChild?, h.elementChildren_eq]
  congr 1
  funext found child
  have name := h.name child
  cases he : d.nodes.element? child with
  | none =>
    rw [he, Option.map_none, Option.map_eq_none_iff] at name
    rw [name]
  | some e =>
    rw [he, Option.map_some, Option.map_eq_some_iff] at name
    obtain ⟨e', he', same⟩ := name
    rw [he']
    dsimp only
    rw [same]

theorem contextOf_eq (includer : Includer) (i : Nat) (e e' : Element) (a a' : IncludeAttributes) :
    includer.contextOf ⟨d', i, e', a'⟩ = includer.contextOf ⟨d, i, e, a⟩ := by
  simp only [Includer.contextOf, FixupContext.ofInclude, h.parent, h.base, h.lang]

/-- Content is fixed up in the same way. -/
theorem fixed_eq (includer : Includer) (i : Nat) {e e' : Element} (same : e'.copied = e.copied)
    {a a' : IncludeAttributes} (setId : a'.setXmlId = a.setXmlId) (c : Document) :
    includer.fixed ⟨d', i, e', a'⟩ c = includer.fixed ⟨d, i, e, a⟩ c := by
  rw [Includer.fixed, Includer.fixed, h.contextOf_eq includer i e e' a a']
  have top : (includer.contextOf ⟨d, i, e, a⟩).topElement e' a'.setXmlId
      = (includer.contextOf ⟨d, i, e, a⟩).topElement e a.setXmlId := by
    funext x
    rw [FixupContext.topElement, FixupContext.topElement, Element.withCopied_eq,
      Element.withCopied_eq, same, setId]
  rw [FixupContext.document, FixupContext.document]
  exact congrArg (fun change => (⟨c.base, c.content.mapTop change⟩ : Document)) top

end Twins

/-- What is inside a node inside another one is inside that one. -/
theorem NodeList.mem_descendants_trans {d : Document} {i j c : Nat}
    (inside : c ∈ d.nodes.descendants i) (inner : j ∈ d.nodes.descendants c) :
    j ∈ d.nodes.descendants i := by
  rw [mem_descendants] at inside inner ⊢
  have nested := extent_nested inside.1 inside.2
  omega

theorem NodeList.mem_descendants_of_parent? {d : Document} {i c : Nat}
    (parent : d.nodes.parent? c = some i) : c ∈ d.nodes.descendants i :=
  mem_descendants.mpr (inside_of_parent? parent)

/-- A sequence of computations is known from each of them. -/
theorem Expanding.mapM_eq_of_forall₂ {α β γ : Type} {f : β → Expanding α} {g : γ → Expanding α}
    {xs : List β} {ys : List γ} (h : List.Forall₂ (fun x y => g y = f x) xs ys) :
    ys.mapM g = xs.mapM f := by
  induction h with
  | nil => rfl
  | cons first _ ih => rw [List.mapM_cons, List.mapM_cons, first, ih]

namespace Includer

open Expanding

variable {includer : Includer} {handle : Document → ControlHandler Expanding}

/-! ### What an include takes from its own document -/

theorem narrow_eq_fixed (site : IncludeSite) (parseType : ParseType) (fragment : String)
    (d : Document) (around : Option AncestorSet) :
    includer.narrow handle site parseType fragment d around
      = liftM (includer.selected site parseType fragment d around) >>= fun r =>
          includer.expandAll handle (includer.fixed site r) := by
  rw [narrow, selected]
  simp only [lift_bind, bind_assoc]
  rfl

/-- What is taken from the own document is fixed up and expanded, unless it is all of its text. -/
theorem resolve_own_fixed {site : IncludeSite} {parseType : ParseType}
    (own : site.attributes.href = "") :
    includer.resolve handle site parseType
      = Expanding.ofReply (includer.ownContent site parseType) >>= fun d =>
          if (site.attributes.fragment parseType).isNone then pure d
          else includer.expandAll handle (includer.fixed site d) := by
  unfold resolve resource ownContent
  by_cases isText : parseType = .text
  · cases site.attributes.fragment parseType with
    | none => simp [isText, text, own]
    | some fragment => simp [isText, text, own, narrow_eq_fixed, ofReply_map_bind]
  · cases site.attributes.fragment parseType with
    | none =>
      simp [isText, own]
      rfl
    | some fragment =>
      simp [isText, own, narrow_eq_fixed]
      rfl

/-- The includes among these numbers that refer to their own document take the same from two
documents. -/
def TakesSame (includer : Includer) (among : Nat → Prop) (d d' : Document) : Prop :=
  ∀ i e e' a, among i → includer.IsInclude d i e → d'.nodes.element? i = some e' →
    IncludeAttributes.ofElement e = .ok a → a.href = "" →
      includer.ownContent ⟨d', i, e', a⟩ a.parseType = includer.ownContent ⟨d, i, e, a⟩ a.parseType

/-! ### The includes of twins -/

/-- What a fallback is expanded from comes upon control elements inside the fallback. -/
theorem mem_descendants_of_encounter {site : IncludeSite} {c : Nat} {x : Encounter}
    (hx : x ∈ (fallbackContent site c).encounters includer.controls (c + 1)) :
    x.id ∈ site.document.nodes.descendants c := by
  rw [fallbackContent] at hx
  cases ht : site.document.subtree? c with
  | none =>
    rw [ht] at hx
    cases hx
  | some t =>
    rw [ht] at hx
    obtain ⟨m, n, hm, -, hid, -, -⟩ := Forest.node_of_encounter c (c + 1) hx
    rw [NodeList.mem_descendants, Document.extent_eq ht, Subtree.size]
    change m < t.content.size at hm
    omega

section

variable (byTarget : includer.resolver.ByTarget) {first : Nat} {d d' : Document}
  (h : Twins first d d')

include byTarget h

/-- An include of a resource is resolved in the same way. -/
theorem resolve_external_twins (i : Nat) {e e' : Element} (same : e'.copied = e.copied)
    {a : IncludeAttributes} (external : a.href ≠ "") (parseType : ParseType) :
    includer.resolve handle ⟨d', i, e', a⟩ parseType
      = includer.resolve handle ⟨d, i, e, a⟩ parseType := by
  have target : (request ⟨d', i, e', a⟩).target = (request ⟨d, i, e, a⟩).target := by
    simp only [Request.target, request, h.base]
  have replies := byTarget (request ⟨d, i, e, a⟩) d' i external target
  have xml : includer.resolver.readXml (request ⟨d', i, e', a⟩)
      = includer.resolver.readXml (request ⟨d, i, e, a⟩) := replies.1
  have plain : includer.resolver.readText (request ⟨d', i, e', a⟩)
      = includer.resolver.readText (request ⟨d, i, e, a⟩) := replies.2
  have fixed : ∀ c, includer.fixed ⟨d', i, e', a⟩ c = includer.fixed ⟨d, i, e, a⟩ c :=
    h.fixed_eq includer i same rfl
  have narrows : ∀ fragment r around,
      includer.narrow handle ⟨d', i, e', a⟩ parseType fragment r around
        = includer.narrow handle ⟨d, i, e, a⟩ parseType fragment r around := by
    intro fragment r around
    simp only [narrow, h.contextOf_eq includer i e e' a a, fixed]
  have texts : includer.text handle ⟨d', i, e', a⟩ = includer.text handle ⟨d, i, e, a⟩ := by
    simp only [text, fixed, plain]
  have documents : includer.markup handle ⟨d', i, e', a⟩
      = includer.markup handle ⟨d, i, e, a⟩ := by
    simp only [markup, fixed, target, xml]
  simp only [resolve, resource, texts, documents, narrows, ne_eq, external, not_false_eq_true,
    if_true]

omit byTarget in
/-- A fallback that holds the same is expanded in the same way, if the control elements in it are
answered alike. -/
theorem fallback_twins {c : Nat} (answered : ∀ x : Encounter, x.id ∈ d.nodes.descendants c →
      d.nodes.element? x.id = some x.element → d'.nodes.element? x.id = some x.element →
        includer.controls.get? x.element.name = some x.control →
          (handle d').answer x = (handle d).answer x)
    {i : Nat} {e e' : Element} (same : e'.copied = e.copied) {a a' : IncludeAttributes}
    (setId : a'.setXmlId = a.setXmlId) (inside : d'.subtree? c = d.subtree? c) :
    includer.fallback handle ⟨d', i, e', a'⟩ c = includer.fallback handle ⟨d, i, e, a⟩ c := by
  have content : fallbackContent ⟨d', i, e', a'⟩ c = fallbackContent ⟨d, i, e, a⟩ c := by
    simp only [fallbackContent, inside]
  have answers : ((fallbackContent ⟨d, i, e, a⟩ c).encounters includer.controls (c + 1)).mapM
        (handle d').answer
      = ((fallbackContent ⟨d, i, e, a⟩ c).encounters includer.controls (c + 1)).mapM
        (handle d).answer := by
    refine mapM_eq_of_forall₂ (List.forall₂_same.mpr fun x hx => ?_)
    have walked : (Call.fallback ⟨d, i, e, a⟩ c).walked?
        = some (d, c + 1, fallbackContent ⟨d, i, e, a⟩ c) := rfl
    have walked' : (Call.fallback ⟨d', i, e', a'⟩ c).walked?
        = some (d', c + 1, fallbackContent ⟨d, i, e, a⟩ c) := by rw [← content]; rfl
    have there := includer.element?_of_encounter walked hx
    have there' := includer.element?_of_encounter walked' hx
    exact answered x (mem_descendants_of_encounter hx) there.2.1 there'.2.1 there.2.2
  simp only [fallback_eq, content, answers, h.base, h.fixed_eq includer i same setId]

theorem replacement_twins {among : Nat → Prop} (takes : includer.TakesSame among d d') {i : Nat}
    (answered : ∀ x : Encounter, x.id ∈ d.nodes.descendants i →
      d.nodes.element? x.id = some x.element → d'.nodes.element? x.id = some x.element →
        includer.controls.get? x.element.name = some x.control →
          (handle d').answer x = (handle d).answer x)
    (late : first ≤ i) (here : among i) {e e' : Element} (isInclude : includer.IsInclude d i e)
    (element' : d'.nodes.element? i = some e') (same : SameInclude e e') {a : IncludeAttributes}
    (attributes : IncludeAttributes.ofElement e = .ok a) {fallback : Option Nat}
    (child : ∀ c ∈ fallback, d.nodes.parent? c = some i) :
    includer.replacement handle ⟨d', i, e', a⟩ fallback
      = includer.replacement handle ⟨d, i, e, a⟩ fallback := by
  have resolved : includer.resolve handle ⟨d', i, e', a⟩ a.parseType
      = includer.resolve handle ⟨d, i, e, a⟩ a.parseType := by
    -- Only an include in its own document can see a difference between the two documents.
    by_cases own : a.href = ""
    · rw [resolve_own_fixed own, resolve_own_fixed own,
        takes i e e' a here isInclude element' attributes own]
      simp only [h.fixed_eq includer i same.copied (a := a) rfl]
    · exact resolve_external_twins byTarget h i same.copied own a.parseType
  have fallsBack : ∀ c ∈ fallback, includer.fallback handle ⟨d', i, e', a⟩ c
      = includer.fallback handle ⟨d, i, e, a⟩ c := by
    intro c hc
    have parent := child c hc
    refine fallback_twins h (fun x inner => answered x ?_) same.copied rfl
      (h.inside c i parent late)
    exact NodeList.mem_descendants_trans (NodeList.mem_descendants_of_parent? parent) inner
  unfold replacement
  dsimp only
  rw [resolved]
  cases fallback with
  | none => rfl
  | some c => simp only [fallsBack c rfl]

end

/-- **The includes of twins are replaced by the same**, at every depth: they have the same outcome,
with the same errors and the same stack. -/
theorem answer_twins (byTarget : includer.resolver.ByTarget) {first : Nat} {d d' : Document}
    (h : Twins first d d') {among : Nat → Prop} (takes : includer.TakesSame among d d')
    (low : ∀ i, among i → first ≤ i)
    (closed : ∀ i j, among i → j ∈ d.nodes.descendants i → among j) (depth : Nat)
    {control : Control} {i : Nat} {e e' : Element} (here : among i)
    (element : d.nodes.element? i = some e) (element' : d'.nodes.element? i = some e')
    (same : SameInclude e e') (named : includer.controls.get? e.name = some control) :
    (includer.handle depth d').answer ⟨control, i, e'⟩
      = (includer.handle depth d).answer ⟨control, i, e⟩ := by
  -- On the depth: the includes in the fallback of a twin are twins, one level further down.
  induction depth generalizing control i e e' with
  | zero => rfl
  | succ depth ih =>
    cases control with
    | fallback => rfl
    | inclusion =>
      show includer.include_ _ d' i e' = includer.include_ _ d i e
      rw [include_, include_, same.attributes, h.fallbackChild?_eq]
      funext s
      rw [bind_apply, bind_apply, lift_apply]
      cases attributes : IncludeAttributes.ofElement e with
      | error err => rfl
      | ok a =>
        dsimp only
        rw [bind_apply, bind_apply, lift_apply]
        cases child : includer.fallbackChild? d.nodes i with
        | error err => rfl
        | ok fallback =>
          dsimp only
          rw [replacement_twins byTarget h takes _ (low i here) here ⟨element, named⟩ element' same
            attributes]
          · rintro c ⟨⟩
            have among := (List.mem_filter.mp (includer.mem_of_fallbackChild? child)).1
            exact of_decide_eq_true (List.mem_filter.mp among).2
          · intro x inner element element' named'
            exact ih (closed i x.id here inner) element element' (.refl _) named'

/-- The fallback of an include that is the same from the include on is expanded in the same way, if
the includes in it that refer to their own document take the same. -/
theorem fallback_eq_of_twins (byTarget : includer.resolver.ByTarget) {d d' : Document} {id c : Nat}
    (h : Twins id d d') (child : includer.fallbackChild? d.nodes id = .ok (some c))
    (takes : includer.TakesSame (· ∈ d.nodes.descendants c) d d') (depth : Nat) {e e' : Element}
    (same : e'.copied = e.copied) {a a' : IncludeAttributes} (setId : a'.setXmlId = a.setXmlId) :
    includer.fallback (includer.handle depth) ⟨d', id, e', a'⟩ c
      = includer.fallback (includer.handle depth) ⟨d, id, e, a⟩ c := by
  have among := (List.mem_filter.mp (includer.mem_of_fallbackChild? child)).1
  have parent : d.nodes.parent? c = some id := of_decide_eq_true (List.mem_filter.mp among).2
  refine fallback_twins h (fun x inner element element' named => ?_) same setId
    (h.inside c id parent le_rfl)
  refine answer_twins byTarget h takes ?_ ?_ depth inner element element' (.refl _) named
  · intro i inner
    have after := (NodeList.inside_of_parent? parent).1
    have behind := (NodeList.mem_descendants.mp inner).1
    omega
  · exact fun i j => NodeList.mem_descendants_trans

end Includer

end Transclusion
