import Transclusion.Files.Resolver
import Transclusion.Proofs.Fragment.BareIds
import Transclusion.Proofs.Inclusion.Depth
import Transclusion.Proofs.Inclusion.Mirroring
import Transclusion.Proofs.Inclusion.Web
import Transclusion.Proofs.Markup.Merged
/-!
# Expansion in place

An include that refers to an element of its own document by its `xml:id` selects a copy of the
element, and the copy is expanded as a document of its own.  The element can be expanded where it
stands as well.  Nothing being fixed up, both come to the same as long as the includes inside the
element that refer to their own document take the same from the copy as from the document
(`Includer.Confined`).

* `Includer.mirrored_handle`: an include of the copy is replaced as the one that it is a copy of.
* `Includer.expands_as_target`: what the include is replaced by.

The proof is by induction on the depth, with one case for each way in which an include can obtain
its content.
-/

namespace Transclusion

/-! ### Replies -/

/-- Requests for the document itself apart, the replies depend on the URI of the resource and on
what is asked for, but not on the place of the reference. -/
def Resolver.ByTarget (resolver : Resolver) : Prop :=
  ∀ (r : Request) (d : Document) (id : Nat), r.href ≠ "" →
    ({ r with document := d, node := id } : Request).target = r.target →
      resolver.readXml { r with document := d, node := id } = resolver.readXml r
        ∧ resolver.readText { r with document := d, node := id } = resolver.readText r

theorem Resolver.byTarget_memory (resources : Table String String) :
    (memory resources).ByTarget := by
  intro r d id external same
  simp only [memory, memoryXml, memoryText, same, if_neg external, and_self]

theorem Resolver.byTarget_files (system : FileSystem) : (files system).ByTarget := by
  intro r d id external same
  simp only [files, fileXml, fileText, same, if_neg external, and_self]

/-! ### Numbers that are moved -/

/-- The control element with its number raised. -/
def Encounter.shift (offset : Nat) (x : Encounter) : Encounter := { x with id := x.id + offset }

theorem Forest.encounters_shift (controls : ControlRegistry) (offset first : Nat) (f : Forest) :
    f.encounters controls (first + offset)
      = (f.encounters controls first).map (Encounter.shift offset) := by
  induction f generalizing first with
  | nil => rfl
  | leaf l rest ih => rw [encounters, encounters, ← ih, Nat.add_right_comm]
  | element e content rest ihc ihr =>
    rw [encounters, encounters, Nat.add_right_comm first offset 1,
      Nat.add_right_comm first offset content.size,
      Nat.add_right_comm (first + content.size) offset 1, ihc, ihr]
    cases controls.get? e.name with
    | some control => rfl
    | none => exact List.map_append.symm

namespace Includer

open Expanding

variable {includer : Includer} {handle : Document → ControlHandler Expanding}

/-! ### What an include takes -/

/-- The part of a document that a fragment identifier selects. -/
def selected (includer : Includer) (site : IncludeSite) (parseType : ParseType) (fragment : String)
    (d : Document) (around : Option AncestorSet) : Except InclusionError Document := do
  let schemes ← (FragmentId.read includer.schemes parseType fragment).mapError .fragment
  let (result, _) ← selectWith schemes ⟨d, includer.contextOf site⟩ around fragment
  return result

/-- What an include takes from its own document, the includes in it not being expanded: its text,
or the part that a fragment identifier selects. -/
def ownContent (includer : Includer) (site : IncludeSite) (parseType : ParseType) : Reply :=
  match site.attributes.fragment parseType with
  | none =>
    if parseType = .text then includer.resolver.readText (request site)
    else .ok (.error (.loop .whole))
  | some fragment =>
    if parseType = .text then
      (includer.resolver.readText (request site)).map fun read =>
        read.bind fun d => includer.selected site parseType fragment d none
    else
      .ok (includer.selected site parseType fragment site.document
        (some (.ofInclude site.document.nodes site.id)))

section

variable (off : includer.options.Unchanging)

include off

theorem narrow_eq (site : IncludeSite) (parseType : ParseType) (fragment : String) (d : Document)
    (around : Option AncestorSet) :
    includer.narrow handle site parseType fragment d around
      = liftM (includer.selected site parseType fragment d around)
          >>= includer.expandAll handle := by
  rw [narrow, selected]
  simp only [fixed_of_unchanging off, lift_bind, bind_assoc]
  rfl

/-- What is taken from the own document is expanded, unless it is all of its text. -/
theorem resolve_own {site : IncludeSite} {parseType : ParseType}
    (own : site.attributes.href = "") :
    includer.resolve handle site parseType
      = Expanding.ofReply (includer.ownContent site parseType) >>= fun d =>
          if (site.attributes.fragment parseType).isNone then pure d
          else includer.expandAll handle d := by
  unfold resolve resource ownContent
  by_cases isText : parseType = .text
  · cases site.attributes.fragment parseType with
    | none => simp [isText, text, own]
    | some fragment => simp [isText, text, own, narrow_eq off, ofReply_map_bind]
  · cases site.attributes.fragment parseType with
    | none =>
      simp [isText, own]
      rfl
    | some fragment =>
      simp [isText, own, narrow_eq off]
      rfl

variable (steady : includer.schemes.Gives Scheme.Steady)

include steady

theorem selected_congr (site site' : IncludeSite) (parseType : ParseType) (fragment : String)
    (d : Document) (around : Option AncestorSet) :
    includer.selected site parseType fragment d around
      = includer.selected site' parseType fragment d around := by
  rw [selected, selected]
  cases read : FragmentId.read includer.schemes parseType fragment with
  | error e => rfl
  | ok schemes =>
    have each := FragmentId.forall_of_read steady read
    have same : selectWith schemes ⟨d, includer.contextOf site⟩ around fragment
        = selectWith schemes ⟨d, includer.contextOf site'⟩ around fragment :=
      selectWith_steady each d off off around fragment
    show (selectWith schemes ⟨d, includer.contextOf site⟩ around fragment >>= _) = _
    rw [same]
    rfl

/-- An include of a resource is resolved in the same way wherever it stands. -/
theorem resolve_external (byTarget : includer.resolver.ByTarget) {d d' : Document} {id id' : Nat}
    {e : Element} {a : IncludeAttributes} (element : d.nodes.element? id = some e)
    (element' : d'.nodes.element? id' = some e) (attributes : IncludeAttributes.ofElement e = .ok a)
    (external : a.href ≠ "") (parseType : ParseType) :
    includer.resolve handle ⟨d, id, e, a⟩ parseType
      = includer.resolve handle ⟨d', id', e, a⟩ parseType := by
  have target : (request ⟨d, id, e, a⟩).target = (request ⟨d', id', e, a⟩).target :=
    (target_request element attributes).trans (target_request element' attributes).symm
  have replies := byTarget (request ⟨d', id', e, a⟩) d id external target
  have xml : includer.resolver.readXml (request ⟨d, id, e, a⟩)
      = includer.resolver.readXml (request ⟨d', id', e, a⟩) := replies.1
  have plain : includer.resolver.readText (request ⟨d, id, e, a⟩)
      = includer.resolver.readText (request ⟨d', id', e, a⟩) := replies.2
  have narrows : ∀ fragment r around,
      includer.narrow handle ⟨d, id, e, a⟩ parseType fragment r around
        = includer.narrow handle ⟨d', id', e, a⟩ parseType fragment r around := by
    intro fragment r around
    rw [narrow_eq off, narrow_eq off, selected_congr off steady _ ⟨d', id', e, a⟩]
  have texts : includer.text handle ⟨d, id, e, a⟩ = includer.text handle ⟨d', id', e, a⟩ := by
    simp only [text, fixed_of_unchanging off, plain]
  have documents : includer.markup handle ⟨d, id, e, a⟩
      = includer.markup handle ⟨d', id', e, a⟩ := by
    simp only [markup, fixed_of_unchanging off, target, xml]
  simp only [resolve, resource, texts, documents, narrows, ne_eq, external, not_false_eq_true,
    if_true]

end

/-! ### Fallbacks of an excerpt -/

section

variable {d : Document} {offset i : Nat} {E : Element} {content : Forest}
  (h : Excerpt d offset E content)

include h

/-- An include of an excerpt and the one that it is a copy of have the same fallback. -/
theorem fallbackChild?_of_excerpt (hi : 1 ≤ i) (hsize : i < (Document.excerpt E content).size) :
    includer.fallbackChild? d.nodes (i + offset)
      = (includer.fallbackChild? (Document.excerpt E content).nodes i).map
          (Option.map (· + offset)) := by
  have same : ∀ c ∈ (Document.excerpt E content).nodes.elementChildren i,
      d.nodes.element? (c + offset) = (Document.excerpt E content).nodes.element? c := by
    intro c hc
    obtain ⟨e, he⟩ := Option.isSome_iff_exists.mp (List.mem_filter.mp hc).2
    obtain ⟨hpos, hlt⟩ := Document.bounds_of_element? he
    exact h.element?_eq hpos hlt
  rw [fallbackChild?, fallbackChild?, h.elementChildren_eq hi hsize, List.foldlM_map]
  refine foldlM_semiconj (Option.map (· + offset)) (fun found c hc => ?_) none
  rw [same c hc]
  cases (Document.excerpt E content).nodes.element? c with
  | none => rfl
  | some e =>
    dsimp only
    split
    · cases found <;> rfl
    · split <;> rfl

end

/-! ### Includes inside an element -/

section

variable {d : Document} {offset i : Nat} {E : Element} {content : Forest}

/-- The includes inside an element that refer to their own document take the same from the excerpt
as from the document, where the element has the number `offset + 1`. -/
def Confined (includer : Includer) (d : Document) (offset : Nat) (E : Element) (content : Forest) :
    Prop :=
  ∀ i e a, includer.IsInclude (.excerpt E content) i e → IncludeAttributes.ofElement e = .ok a →
    a.href = "" →
      (includer.ownContent ⟨d, i + offset, e, a⟩ a.parseType).map Except.toOption
        = (includer.ownContent ⟨.excerpt E content, i, e, a⟩ a.parseType).map Except.toOption

/-- The answers to the control elements of the excerpt mirror those in the document. -/
def Mirrored (includer : Includer) (handle : Document → ControlHandler Expanding) (d : Document)
    (offset : Nat) (E : Element) (content : Forest) : Prop :=
  ∀ x : Encounter, (Document.excerpt E content).nodes.element? x.id = some x.element →
    includer.controls.get? x.element.name = some x.control →
      ∀ s, ((handle d).answer (x.shift offset)).MirroredBy
        ((handle (.excerpt E content)).answer x) s

/-- A walk of what is inside the element mirrors the walk in the document. -/
theorem mirroredBy_encounters (mirrored : includer.Mirrored handle d offset E content)
    {first : Nat} {f : Forest} (inside : ∀ x ∈ f.encounters includer.controls first,
      (Document.excerpt E content).nodes.element? x.id = some x.element
        ∧ includer.controls.get? x.element.name = some x.control) (s : UriStack) :
    ((f.encounters includer.controls (first + offset)).mapM (handle d).answer).MirroredBy
      ((f.encounters includer.controls first).mapM (handle (.excerpt E content)).answer) s := by
  rw [Forest.encounters_shift, List.mapM_map]
  exact mirroredBy_mapM fun x hx => mirrored x (inside x hx).1 (inside x hx).2

variable (h : Excerpt d offset E content) (off : includer.options.Unchanging)

include h off

theorem mirroredBy_fallback (mirrored : includer.Mirrored handle d offset E content) {c : Nat}
    {e e' : Element} (a : IncludeAttributes)
    (child : (Document.excerpt E content).nodes.element? c = some e') (s : UriStack) :
    (includer.fallback handle ⟨d, i + offset, e, a⟩ (c + offset)).MirroredBy
      (includer.fallback handle ⟨.excerpt E content, i, e, a⟩ c) s := by
  obtain ⟨hpos, hlt⟩ := Document.bounds_of_element? child
  have there : d.nodes.element? (c + offset) = some e' := by
    rw [h.element?_eq hpos hlt, child]
  have same : fallbackContent ⟨d, i + offset, e, a⟩ (c + offset)
      = fallbackContent ⟨.excerpt E content, i, e, a⟩ c := by
    simp only [fallbackContent, h.subtree?_eq hpos hlt]
  rw [fallback_eq, fallback_eq, same, Nat.add_right_comm c offset 1]
  have walked : (Call.fallback ⟨.excerpt E content, i, e, a⟩ c).walked?
      = some (.excerpt E content, c + 1, fallbackContent ⟨.excerpt E content, i, e, a⟩ c) := rfl
  refine (mirroredBy_encounters mirrored (fun x hx => ?_) s).bind fun answers s => ?_
  · exact (includer.element?_of_encounter walked hx).2
  · simp only [fixed_of_unchanging off, NodeList.base?_of_element? there,
      NodeList.base?_of_element? child]
    exact mirroredBy_self _

variable (steady : includer.schemes.Gives Scheme.Steady) (byTarget : includer.resolver.ByTarget)
  (confined : includer.Confined d offset E content)

include steady byTarget confined

theorem mirroredBy_resolve {e : Element} {a : IncludeAttributes}
    (isInclude : includer.IsInclude (.excerpt E content) i e)
    (attributes : IncludeAttributes.ofElement e = .ok a) (s : UriStack) :
    (includer.resolve handle ⟨d, i + offset, e, a⟩ a.parseType).MirroredBy
      (includer.resolve handle ⟨.excerpt E content, i, e, a⟩ a.parseType) s := by
  by_cases own : a.href = ""
  · rw [resolve_own off own, resolve_own off own]
    have taken := confined i e a isInclude attributes own
    exact (mirroredBy_ofReply taken).bind fun r s => mirroredBy_self _
  · obtain ⟨hpos, hlt⟩ := Document.bounds_of_element? isInclude.1
    have there : d.nodes.element? (i + offset) = some e := by
      rw [h.element?_eq hpos hlt, isInclude.1]
    rw [resolve_external off steady byTarget there isInclude.1 attributes own]
    exact mirroredBy_self _

variable (mirrored : includer.Mirrored handle d offset E content)
  (balanced : ∀ d x, ((handle d).answer x).Balanced)

include mirrored balanced

theorem mirroredBy_replacement {e : Element} {a : IncludeAttributes}
    (isInclude : includer.IsInclude (.excerpt E content) i e)
    (attributes : IncludeAttributes.ofElement e = .ok a) {fallback : Option Nat}
    (child : ∀ c ∈ fallback, ∃ e', (Document.excerpt E content).nodes.element? c = some e')
    (s : UriStack) :
    (includer.replacement handle ⟨d, i + offset, e, a⟩ (fallback.map (· + offset))).MirroredBy
      (includer.replacement handle ⟨.excerpt E content, i, e, a⟩ fallback) s := by
  have fallsBack : ∀ c ∈ fallback, ∀ s,
      (includer.fallback handle ⟨d, i + offset, e, a⟩ (c + offset)).MirroredBy
        (includer.fallback handle ⟨.excerpt E content, i, e, a⟩ c) s := by
    intro c hc s
    obtain ⟨e', he'⟩ := child c hc
    exact mirroredBy_fallback h off mirrored a he' s
  have resolved : (includer.resolve handle ⟨d, i + offset, e, a⟩ a.parseType).MirroredBy
      (includer.resolve handle ⟨.excerpt E content, i, e, a⟩ a.parseType) s :=
    mirroredBy_resolve h off steady byTarget confined isInclude attributes s
  unfold replacement
  dsimp only
  by_cases unsupported : a.parseType = .unsupported
  · rw [if_pos unsupported, if_pos unsupported]
    cases fallback with
    | none => exact mirroredBy_throw _ _
    | some c => exact fallsBack c rfl s
  · rw [if_neg unsupported, if_neg unsupported]
    -- Attempts end on the stack they start from, so cutting it back for a fallback does nothing.
    refine mirroredBy_get_bind.mpr (MirroredBy.bind ?_ fun r s => mirroredBy_self _)
    cases fallback with
    | none =>
      rw [Option.map_none]
      dsimp only
      rw [tryCatch_throw, tryCatch_throw]
      exact resolved
    | some c =>
      exact resolved.orElse (includer.balanced_resolve balanced _ _)
        (includer.balanced_resolve balanced _ _) (fallsBack c rfl s)

theorem mirroredBy_include {e : Element}
    (isInclude : includer.IsInclude (.excerpt E content) i e) (s : UriStack) :
    (includer.include_ handle d (i + offset) e).MirroredBy
      (includer.include_ handle (.excerpt E content) i e) s := by
  obtain ⟨hpos, hlt⟩ := Document.bounds_of_element? isInclude.1
  rw [include_, include_]
  refine mirroredBy_lift_bind fun a attributes => ?_
  rw [fallbackChild?_of_excerpt h hpos hlt, lift_map_bind]
  refine mirroredBy_lift_bind fun fallback found => ?_
  refine mirroredBy_replacement h off steady byTarget confined mirrored balanced isInclude
    attributes (fun c hc => ?_) s
  cases hc
  have among := includer.mem_of_fallbackChild? found
  exact Option.isSome_iff_exists.mp (List.mem_filter.mp among).2

omit mirrored balanced

/-- **The includes of an excerpt are replaced as those that they are copies of**. -/
theorem mirrored_handle (depth : Nat) :
    includer.Mirrored (includer.handle depth) d offset E content := by
  induction depth with
  | zero => exact fun x _ _ s => mirroredBy_halt _ _
  | succ depth ih =>
    rintro ⟨control, i, e⟩ element control' s
    cases control with
    | fallback => exact mirroredBy_throw _ _
    | inclusion =>
      exact mirroredBy_include h off steady byTarget confined ih (includer.balanced_handle depth)
        ⟨element, control'⟩ s

end

/-! ### Includes that point to an element -/

section

variable {d : Document} {e : Element} {a : IncludeAttributes} {x : String}
  (off : includer.options.Unchanging) (standard : includer.schemes = .standard)
  (points : a.PointsTo x) (id : Nat)

include points

theorem ownContent_eq :
    includer.ownContent ⟨d, id, e, a⟩ a.parseType
      = .ok (includer.selected ⟨d, id, e, a⟩ .xml x d (some (.ofInclude d.nodes id))) := by
  rw [ownContent, points.markup]
  simp [points.fragment_eq]

include standard

theorem ownContent_missing (missing : d.nodes.elementWithId? x = none) :
    includer.ownContent ⟨d, id, e, a⟩ a.parseType = .ok (.error (.noFragment x none)) := by
  rw [ownContent_eq points, selected, standard, FragmentId.read_bareId points.bare]
  show Except.ok (selectWith _ _ _ _ >>= _) = _
  rw [ElementPointer.selectWith_missing missing]
  rfl

include off

theorem ownContent_located {m : Nat} {E : Element} {content : Forest}
    (located : d.nodes.elementWithId? x = some m)
    (subtree : d.subtree? m = some (.element E content)) :
    includer.ownContent ⟨d, id, e, a⟩ a.parseType
      = .ok (((AncestorSet.ofInclude d.nodes id).check [m]).map
          fun _ => Document.excerpt E content) := by
  rw [ownContent_eq points, selected, standard, FragmentId.read_bareId points.bare]
  show Except.ok (selectWith _ _ _ _ >>= _) = _
  rw [ElementPointer.selectWith_located off located subtree]
  cases (AncestorSet.ofInclude d.nodes id).check [m] <;> rfl

end

section

variable {d : Document} {offset : Nat} {E : Element} {content : Forest}
  (h : Excerpt d offset E content) (off : includer.options.Unchanging)
  (standard : includer.schemes = .standard)

include h off standard

/-- An element is confined if each include in it that refers to its own document points to an
`xml:id` that is first found inside the element, or nowhere at all. -/
theorem confined_of_pointsTo
    (inside : ∀ i e a, includer.IsInclude (.excerpt E content) i e →
      IncludeAttributes.ofElement e = .ok a → a.href = "" →
        ∃ x, a.PointsTo x ∧ ∀ m, d.nodes.elementWithId? x = some m →
          offset < m ∧ m ≤ offset + content.size + 1) :
    includer.Confined d offset E content := by
  intro i e a isInclude attributes own
  obtain ⟨hi, hsize⟩ := Document.bounds_of_element? isInclude.1
  obtain ⟨x, points, within⟩ := inside i e a isInclude attributes own
  -- What is not found in the document is not found in the copy; what is found inside the element is
  -- found there under its own number.
  cases located : d.nodes.elementWithId? x with
  | none =>
    rw [ownContent_missing standard points _ located,
      ownContent_missing standard points _ (h.elementWithId?_eq_none located)]
  | some m =>
    obtain ⟨after, before⟩ := within m located
    obtain ⟨j, rfl⟩ : ∃ j, m = j + offset := ⟨m - offset, by omega⟩
    have hj : 1 ≤ j := by omega
    have hjsize : j < (Document.excerpt E content).size := by
      rw [Excerpt.size_excerpt]
      omega
    obtain ⟨E', content', subtree⟩ := Document.subtree?_of_elementWithId? located
    rw [ownContent_located off standard points _ located subtree,
      ownContent_located off standard points _ (h.elementWithId?_eq located hj hjsize)
        ((h.subtree?_eq hj hjsize).symm.trans subtree)]
    have around : j + offset ∈ (AncestorSet.ofInclude d.nodes (i + offset)).numbers
        ↔ j ∈ (AncestorSet.ofInclude (Document.excerpt E content).nodes i).numbers := by
      rw [AncestorSet.mem_ofInclude, AncestorSet.mem_ofInclude, h.mem_descendants_iff hj hjsize,
        Nat.add_right_cancel_iff]
    simp only [AncestorSet.check_singleton, around]

end

/-! ### From the copy to the include -/

theorem walk_element {d : Document} {i : Nat} {E : Element} {content : Forest}
    (subtree : d.subtree? i = some (.element E content)) :
    d.walk includer.controls (handle d) i
      = ((Forest.element E content .nil).encounters includer.controls i).mapM (handle d).answer
          >>= fun answers =>
            pure ⟨d.base, (Forest.element E content .nil).fill includer.controls answers⟩ := by
  rw [Document.walk, subtree]
  simp [Subtree.toForest, Forest.walk_eq_fill]

/-- What an element is replaced by can be put in the place of another one as it is. -/
theorem fill_append_nil (controls : ControlRegistry) (E : Element) (content : Forest)
    (answers : List Document) :
    ((Forest.element E content .nil).fill controls answers).append .nil
      = (Forest.element E content .nil).fill controls answers := by
  rw [Forest.fill]
  cases controls.get? E.name with
  | some control => exact Forest.append_assoc _ _ _
  | none => rfl

/-- An include of markup is replaced by what it is resolved to. -/
theorem replacement_of_resolve (site : IncludeSite) (markup : site.attributes.parseType = .xml)
    {fallback : Option Nat} {r : Document} {s s' : UriStack}
    (resolved : includer.resolve handle site .xml s = .ok (.ok r, s')) :
    includer.replacement handle site fallback s = .ok (.ok r, s') := by
  simp only [replacement, markup, reduceCtorEq, if_false, decide_false, Bool.false_and,
    Bool.false_eq_true]
  rw [bind_apply, get_apply]
  dsimp only
  rw [bind_apply, tryCatch_apply, resolved]
  rfl

variable {d : Document} {offset : Nat} {E : Element} {content : Forest}

/-- The excerpt is expanded as the element is where it stands. -/
theorem expandAll_excerpt (h : Excerpt d offset E content) (off : includer.options.Unchanging)
    (steady : includer.schemes.Gives Scheme.Steady) (byTarget : includer.resolver.ByTarget)
    (confined : includer.Confined d offset E content) {depth : Nat} {s s' : UriStack}
    {answers : List Document}
    (answered : ((Forest.element E content .nil).encounters includer.controls (offset + 1)).mapM
      (includer.handle depth d).answer s = .ok (.ok answers, s')) :
    includer.expandAll (includer.handle depth) (.excerpt E content) s
      = .ok (.ok ⟨E.base, (Forest.element E content .nil).fill includer.controls answers⟩, s') := by
  have mirrored := mirrored_handle h off steady byTarget confined depth
  have walks := mirroredBy_encounters mirrored
    (fun x hx => (Document.element?_of_encounter (d := .excerpt E content) hx).2) s
  rw [Nat.add_comm] at answered
  rw [expandAll_eq]
  exact bind_apply_eq_ok_iff.mpr ⟨answers, s', walks.succeeds answers s' answered, rfl⟩

/-- What an include is replaced by, if what it takes from its own document expands. -/
theorem handle_of_ownContent (off : includer.options.Unchanging) {id : Nat} {e : Element}
    {a : IncludeAttributes} {x : String} {fallback : Option Nat}
    (attributes : IncludeAttributes.ofElement e = .ok a)
    (child : includer.fallbackChild? d.nodes id = .ok fallback) (points : a.PointsTo x)
    {taken r : Document} (takes : includer.ownContent ⟨d, id, e, a⟩ .xml = .ok (.ok taken))
    {depth : Nat} {s s' : UriStack}
    (expanded : includer.expandAll (includer.handle depth) taken s = .ok (.ok r, s')) :
    includer.handle (depth + 1) d .inclusion id e s = .ok (.ok r, s') := by
  have resolved : includer.resolve (includer.handle depth) ⟨d, id, e, a⟩ .xml s
      = .ok (.ok r, s') := by
    rw [resolve_own off points.own, takes, points.fragment_eq]
    exact expanded
  have replaced : includer.replacement (includer.handle depth) ⟨d, id, e, a⟩ fallback s
      = .ok (.ok r, s') := replacement_of_resolve ⟨d, id, e, a⟩ points.markup resolved
  rw [handle, include_]
  exact lift_bind_eq_ok_iff.mpr
    ⟨a, attributes, lift_bind_eq_ok_iff.mpr ⟨fallback, child, replaced⟩⟩

/-- The place of an include is taken by the content that replaces it. -/
theorem walk_of_handle {id : Nat} {e : Element} (isInclude : includer.IsInclude d id e)
    {r : Document} {s s' : UriStack} (replaced : handle d .inclusion id e s = .ok (.ok r, s')) :
    d.walk includer.controls (handle d) id s
      = .ok (.ok ⟨d.base, r.content.append .nil⟩, s') := by
  obtain ⟨tree, subtree⟩ := Document.exists_subtree? isInclude.lt_size
  rw [Document.eq_element_of_element? isInclude.1 subtree] at subtree
  have alone : (Forest.element e tree.content .nil).encounters includer.controls id
      = [⟨.inclusion, id, e⟩] := by
    simp [Forest.encounters, isInclude.2]
  have filled : (Forest.element e tree.content .nil).fill includer.controls [r]
      = r.content.append .nil := by
    rw [Forest.fill, isInclude.2]
    rfl
  have answered : [(⟨.inclusion, id, e⟩ : Encounter)].mapM (handle d).answer s
      = .ok (.ok [r], s') := by
    rw [List.mapM_cons, List.mapM_nil]
    exact bind_apply_eq_ok_iff.mpr ⟨r, s', replaced, rfl⟩
  rw [walk_element subtree, alone]
  refine bind_apply_eq_ok_iff.mpr ⟨[r], s', answered, ?_⟩
  rw [filled]
  rfl

/-! ### References inside an element -/

namespace NestedReference

def bindings : Bindings := .ofList [("xi", xincludeNamespace)]

/-- An element whose `xml:id` is its name. -/
def named (x : String) : Element :=
  ⟨.inNamespace none x, .ofList [(.xml "id", x)], bindings, none⟩

/-- An include of the element with an `xml:id`. -/
def includeOf (x : String) : Element :=
  ⟨.prefixed "xi" xincludeNamespace "include", .ofList [(.plain "xpointer", x)], bindings, none⟩

def attributesOf (x : String) : IncludeAttributes :=
  ⟨"", some x, none, none, "UTF-8", none, none, "xml"⟩

def page (content : Forest) : Document :=
  ⟨none, .element ⟨.inNamespace none "doc", .empty, bindings, none⟩ content .nil⟩

/-- A page with an include of `b`, in which there is an include of `a` from outside of it. -/
def outer : Document :=
  page (.element (named "a") .nil (.element (named "b") (.element (includeOf "a") .nil .nil)
    (.element (includeOf "b") .nil .nil)))

/-- The page with `a` outside of `b` in writing. -/
def writtenOuter : String :=
  "<doc xmlns:xi='http://www.w3.org/2001/XInclude'><a xml:id='a'/>"
    ++ "<b xml:id='b'><xi:include xpointer='a'/></b><xi:include xpointer='b'/></doc>"

/-- The content of a `b` in which there are `a` and an include of it. -/
def pair : Forest := .element (named "a") .nil (.element (includeOf "a") .nil .nil)

/-- A page with an include of that `b`. -/
def inner : Document := page (.element (named "b") pair (.element (includeOf "b") .nil .nil))

/-- Fixes up nothing. -/
def reader : Includer := standard ⟨false, false, false, false⟩ (.memory .empty)

/-- What becomes of `b` on the first page. -/
def withOne : Document :=
  ⟨none, .element (named "b") (.element (named "a") .nil .nil) .nil⟩

/-- What becomes of `b` on the second page. -/
def withTwo : Document :=
  ⟨none, .element (named "b") (.element (named "a") .nil (.element (named "a") .nil .nil)) .nil⟩

theorem pointsTo_attributesOf {x : String} (bare : IsBareId x) : (attributesOf x).PointsTo x where
  own := rfl
  markup := by
    show ParseType.ofMediaType "xml" = .xml
    decide
  pointer := rfl
  bare := bare

theorem isBareId_a : IsBareId "a" where
  nonempty := by decide
  plain c hc := by
    obtain rfl : c = 'a' := List.mem_singleton.mp hc
    decide

theorem isBareId_b : IsBareId "b" where
  nonempty := by decide
  plain c hc := by
    obtain rfl : c = 'b' := List.mem_singleton.mp hc
    decide

theorem include_b_outer : reader.handle 2 outer .inclusion 5 (includeOf "b") .empty
    = .ok (.error (.noFragment "a" none), .empty) := by
  decide +kernel

theorem confined_pair : reader.Confined inner 1 (named "b") pair := by
  refine confined_of_pointsTo ⟨rfl⟩ ⟨rfl, rfl, rfl⟩ rfl fun i e a isInclude attributes own => ?_
  have bound := isInclude.lt_size
  obtain ⟨element, control⟩ := isInclude
  have size : (Document.excerpt (named "b") pair).size = 4 := rfl
  obtain rfl | rfl | rfl | rfl : i = 0 ∨ i = 1 ∨ i = 2 ∨ i = 3 := by omega
  · cases element
  · cases element
    exact absurd control (by decide)
  · cases element
    exact absurd control (by decide)
  · cases element
    have read : IncludeAttributes.ofElement (includeOf "a") = .ok (attributesOf "a") := rfl
    cases read.symm.trans attributes
    refine ⟨"a", pointsTo_attributesOf isBareId_a, fun m located => ?_⟩
    have here : inner.nodes.elementWithId? "a" = some 3 := by decide
    cases here.symm.trans located
    decide

end NestedReference

/-! ### Main result -/

open NestedReference in
/-- An include in an element can refer to another element outside of it, which is found where the
element stands, but not from a copy of it. -/
theorem reference_lost_in_copy :
    Document.read none writtenOuter = .ok outer
      ∧ outer.nodes.elementWithId? "b" = some 3 ∧ 3 ∉ outer.nodes.ancestors 5
      ∧ outer.walk .standard (reader.handle 1 outer) 3 .empty = .ok (.ok withOne, .empty)
      ∧ ∀ depth, 2 ≤ depth → reader.handle depth outer .inclusion 5 (includeOf "b") .empty
          = .ok (.error (.noFragment "a" none), .empty) := by
  refine ⟨eq_ok_of_toOption (by decide +kernel), by decide +kernel, by decide +kernel,
    by decide +kernel, fun depth hdepth => ?_⟩
  have deepening := reader.deepening_handle (Resolver.answers_memory .empty) outer
    ⟨.inclusion, 5, includeOf "b"⟩ 2 depth hdepth
  exact deepening.eq_of_ok include_b_outer

/-- **An include brings in its target as that expands in place**. With all fix-ups off, let an
include refer by an `xml:id` to an element of its own document that it is not inside of, and let the
includes in that element take the same from a copy of it as from the document. If the element
expands where it stands, then the include expands to the same. -/
theorem expands_as_target (includer : Includer) (off : includer.options.Unchanging)
    (standard : includer.schemes = .standard) (byTarget : includer.resolver.ByTarget)
    {d : Document} {id offset : Nat} {e E : Element} {content : Forest} {a : IncludeAttributes}
    {x : String} {fallback : Option Nat} (isInclude : includer.IsInclude d id e)
    (attributes : IncludeAttributes.ofElement e = .ok a)
    (child : includer.fallbackChild? d.nodes id = .ok fallback) (points : a.PointsTo x)
    (located : d.nodes.elementWithId? x = some (offset + 1))
    (outside : offset + 1 ∉ d.nodes.ancestors id) (target : Excerpt d offset E content)
    (confined : includer.Confined d offset E content) {depth : Nat} {c : Document}
    {s s' : UriStack}
    (inPlace : d.walk includer.controls (includer.handle depth d) (offset + 1) s
      = .ok (.ok c, s')) :
    ∃ depth' ≤ depth + 1,
      d.walk includer.controls (includer.handle depth' d) id s = .ok (.ok c, s') := by
  obtain rfl | other := eq_or_ne id (offset + 1)
  · exact ⟨depth, Nat.le_succ depth, inPlace⟩
  rw [walk_element target.subtree] at inPlace
  obtain ⟨answers, t, answered, last⟩ := bind_apply_eq_ok_iff.mp inPlace
  obtain ⟨rfl, rfl⟩ := pure_apply_eq_ok_iff.mp last
  have steady : includer.schemes.Gives Scheme.Steady := standard ▸ SchemeRegistry.steady_standard
  have expanded := expandAll_excerpt target off steady byTarget confined answered
  -- The include is not inside of its target, so that it is no loop.
  have clear : (AncestorSet.ofInclude d.nodes id).check [offset + 1] = .ok () := by
    rw [AncestorSet.check_singleton, if_neg]
    exact fun h => (List.mem_cons.mp h).elim (fun same => other same.symm) outside
  have taken : includer.ownContent ⟨d, id, e, a⟩ .xml = .ok (.ok (.excerpt E content)) := by
    rw [← points.markup, ownContent_located off standard points id located target.subtree, clear]
    rfl
  have replaced := handle_of_ownContent off attributes child points taken expanded
  have walked := walk_of_handle isInclude replaced
  rw [fill_append_nil] at walked
  exact ⟨depth + 1, Nat.le_refl _, walked⟩

open NestedReference in
theorem expands_as_target_inner :
    inner.walk .standard (reader.handle 1 inner) 2 .empty = .ok (.ok withTwo, .empty)
      ∧ ∃ depth ≤ 2,
        inner.walk .standard (reader.handle depth inner) 5 .empty = .ok (.ok withTwo, .empty) := by
  have inPlace : inner.walk .standard (reader.handle 1 inner) 2 .empty
      = .ok (.ok withTwo, .empty) := by decide +kernel
  have isInclude : reader.IsInclude inner 5 (includeOf "b") := ⟨by decide, by decide⟩
  have located : inner.nodes.elementWithId? "b" = some 2 := by decide
  have outside : 2 ∉ inner.nodes.ancestors 5 := by decide +kernel
  exact ⟨inPlace, expands_as_target reader ⟨rfl, rfl, rfl⟩ rfl (Resolver.byTarget_memory .empty)
    isInclude rfl rfl (pointsTo_attributesOf isBareId_b) located outside ⟨rfl⟩ confined_pair
    inPlace⟩

end Includer

end Transclusion
