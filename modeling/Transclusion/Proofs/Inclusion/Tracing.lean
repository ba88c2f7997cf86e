import Transclusion.Proofs.Inclusion.Calls
import Transclusion.Proofs.Markup.Languages
/-!
# Tracing an expansion

An expansion that keeps a record of where each element of its result has come from (`Origin`): from
which document, through which includes, and whether from a fallback.  Every function of an expansion
has a counterpart that does the same and carries the origins along; leaving the origins out, the
two are equal (`Includer.document_traceHandle`).

An origin also tells whether the element is exposed.  Included content is fixed up for its new place
before the includes in it are expanded.  So what replaces a control element at the top of it has
been fixed up for the included document, and not for the place where it goes.
-/

namespace Transclusion

/-- Where an element has come from. -/
structure Origin where
  /-- The document as it was read, or the one that is being expanded. -/
  document : Document
  /-- The number of the element in it. -/
  number : Nat
  /-- The numbers of the includes that it has come through, the outermost first. -/
  route : List Nat
  /-- One of these includes was replaced by its fallback. -/
  inFallback : Bool
  /-- One of these includes was replaced by what it refers to. -/
  resolved : Bool
  /-- It has taken the place of a control element at the top of content that had been fixed up, or
  it is inside of what has. -/
  exposed : Bool
deriving DecidableEq, Inhabited

namespace Origin

/-- The element itself. -/
def element? (o : Origin) : Option Element := o.document.nodes.element? o.number

/-- The language that the element had there. -/
def lang? (o : Origin) : Option String := o.document.nodes.lang? o.number

/-- The origin of what has come through one more include. -/
def through (id : Nat) (o : Origin) : Origin := { o with route := id :: o.route }

def asFallback (o : Origin) : Origin := { o with inFallback := true }

def asResolved (o : Origin) : Origin := { o with resolved := true }

def expose (o : Origin) : Origin := { o with exposed := true }

end Origin

/-- A document with the origins of its elements, in document order. -/
structure Traced where
  document : Document
  origins : List Origin
deriving DecidableEq

namespace Traced

/-- A document as it is read. -/
def ofSource (d : Document) : Traced :=
  ⟨d, d.elementNumbers.map fun i => ⟨d, i, [], false, false, false⟩⟩

/-- The origin of the element with the number `i`. -/
def originAt (t : Traced) (i : Nat) : Origin :=
  ((t.document.elementNumbers.zip t.origins).lookup i).getD default

/-- The origins of the elements in the subtree of a node. -/
def originsAt (t : Traced) (i : Nat) : List Origin := (t.document.elementsAt i).map t.originAt

/-- Changes the origins one by one. -/
def mapOrigins (change : Origin → Origin) (t : Traced) : Traced :=
  ⟨t.document, t.origins.map change⟩

/-- What holds of the elements and their origins holds of each element and its origin. -/
theorem originAt_of_forall₂ {t : Traced} {p : Element × Option String → Origin → Prop}
    (h : List.Forall₂ p (t.document.content.languages none) t.origins) {i : Nat} {e : Element}
    (element : t.document.nodes.element? i = some e) :
    p (e, t.document.nodes.lang? i) (t.originAt i) := by
  obtain ⟨o, found, e', element', holds⟩ :=
    exists_lookup_of_forall₂ (Document.forall₂_languages_iff.mp h)
      (Document.mem_elementNumbers element)
  cases element.symm.trans element'
  rw [originAt, found]
  exact holds

/-- Every origin is that of an element. -/
theorem exists_originAt {t : Traced} {p : Element × Option String → Origin → Prop}
    (h : List.Forall₂ p (t.document.content.languages none) t.origins) {o : Origin}
    (ho : o ∈ t.origins) :
    ∃ j e, t.document.nodes.element? j = some e ∧ t.originAt j = o := by
  have unique : t.document.elementNumbers.Nodup := List.nodup_range.filter _
  obtain ⟨j, among, found⟩ :=
    exists_lookup_eq_of_mem (Document.forall₂_languages_iff.mp h).length_eq unique ho
  obtain ⟨e, element⟩ := Option.isSome_iff_exists.mp (List.mem_filter.mp among).2
  exact ⟨j, e, element, by rw [originAt, found]; rfl⟩

end Traced

namespace Includer

variable (includer : Includer)

section

variable (trace : Traced → Encounter → Expanding Traced)

/-- The answers to the control elements of a forest. The elements of an answer are exposed if
`exposing` says so of the control element. -/
def traceAnswers (t : Traced) (first : Nat) (f : Forest) (exposing : Encounter → Bool) :
    Expanding (List Traced) :=
  (f.encounters includer.controls first).mapM fun x => do
    let answer ← trace t x
    return if exposing x then answer.mapOrigins .expose else answer

/-- A forest in a document, filled with answers. -/
def filled (t : Traced) (first : Nat) (f : Forest) (answers : List Traced)
    (finish : Forest → Document) : Traced :=
  ⟨finish (f.fill includer.controls (answers.map (·.document))),
    f.interleave includer.controls t.originAt first (answers.map (·.origins))⟩

/-- A document with its includes replaced; if it has been fixed up, what replaces those at its top
is exposed. -/
def traceAll (fixedUp : Bool) (t : Traced) : Expanding Traced := do
  let d := t.document
  let answers ← includer.traceAnswers trace t 1 d.content fun x =>
    fixedUp && d.nodes.parent? x.id = some 0
  return includer.filled t 1 d.content answers fun f => ⟨d.base, f⟩

/-- Content fixed up as replacement of an include. -/
def traceFixed (site : IncludeSite) (t : Traced) : Traced :=
  ⟨includer.fixed site t.document, t.origins⟩

/-- The content of a fallback. -/
def traceFallback (site : IncludeSite) (t : Traced) (id : Nat) : Expanding Traced := do
  let content := fallbackContent site id
  let answers ← includer.traceAnswers trace t (id + 1) content fun _ => false
  let expanded := includer.filled t (id + 1) content answers fun f =>
    includer.fixed site ⟨site.document.nodes.base? id, f⟩
  return expanded.mapOrigins .asFallback

/-- A resource read as markup. If no part of it is to be selected, it is in its last form. -/
def traceMarkup (site : IncludeSite) (last : Bool) : Expanding Traced := do
  Expanding.enter (request site).target
  let resource ← Expanding.ofReply (includer.resolver.readXml (request site))
  let expanded ← includer.traceAll trace last (includer.traceFixed site (.ofSource resource))
  modify (·.leave)
  return expanded

/-- A resource read as text. -/
def traceText (site : IncludeSite) (last : Bool) : Expanding Traced := do
  let resource ← Expanding.ofReply (includer.resolver.readText (request site))
  if site.attributes.href = "" then return .ofSource resource
  else includer.traceAll trace last (includer.traceFixed site (.ofSource resource))

/-- What an include refers to; the document with the include is `t`. -/
def traceResource (site : IncludeSite) (t : Traced) (parseType : ParseType)
    (fragment : Option String) : Expanding (Traced × Option AncestorSet) := do
  if parseType = .text then return (← includer.traceText trace site fragment.isNone, none)
  else if site.attributes.href ≠ "" then
    return (← includer.traceMarkup trace site fragment.isNone, none)
  else if fragment.isNone then throw (.loop .whole)
  else return (t, some (.ofInclude site.document.nodes site.id))

/-- The part of a document that a fragment identifier selects. -/
def traceNarrow (site : IncludeSite) (parseType : ParseType) (fragment : String) (t : Traced)
    (around : Option AncestorSet) : Expanding Traced := do
  let read := FragmentId.read includer.schemes parseType fragment
  let schemes ← read.mapError InclusionError.fragment
  let (result, matched) ← selectWith schemes ⟨t.document, includer.contextOf site⟩ around fragment
  includer.traceAll trace true (includer.traceFixed site ⟨result, matched.flatMap t.originsAt⟩)

/-- The content that an include refers to. -/
def traceResolve (site : IncludeSite) (t : Traced) (parseType : ParseType) : Expanding Traced := do
  let fragment := site.attributes.fragment parseType
  let (d, around) ← includer.traceResource trace site t parseType fragment
  match fragment with
  | none => return d
  | some fragment => includer.traceNarrow trace site parseType fragment d around

/-- What an include refers to, as replacement of it. -/
def traceResolved (site : IncludeSite) (t : Traced) (parseType : ParseType) :
    Expanding Traced := do
  let content ← includer.traceResolve trace site t parseType
  return content.mapOrigins .asResolved

/-- The content that replaces an include. -/
def traceReplacement (site : IncludeSite) (t : Traced) (fallback : Option Nat) :
    Expanding Traced := do
  let parseType := site.attributes.parseType
  if parseType = .unsupported then
    match fallback with
    | some id => includer.traceFallback trace site t id
    | none => throw (.noFallback site.attributes.parse)
  else
    let before := (← get).size
    let content ← tryCatch (includer.traceResolved trace site t parseType) fun e =>
      match fallback with
      | some id => do
        modify (·.truncate before)
        includer.traceFallback trace site t id
      | none => throw e
    return if parseType = .text && includer.options.trimText then ⟨trimmed content.document, []⟩
      else content

/-- Replaces an include. -/
def traceInclude (t : Traced) (id : Nat) (e : Element) : Expanding Traced := do
  let attributes ← IncludeAttributes.ofElement e
  let fallback ← includer.fallbackChild? t.document.nodes id
  let content ← includer.traceReplacement trace ⟨t.document, id, e, attributes⟩ t fallback
  return content.mapOrigins (.through id)

end

/-- Replaces a control element of a document. -/
def traceHandle (includer : Includer) : Nat → Traced → Encounter → Expanding Traced
  | 0, _, _ => Expanding.halt .tooDeep
  | _ + 1, _, ⟨.fallback, _, _⟩ => throw (.malformed .strayFallback)
  | depth + 1, t, ⟨.inclusion, id, e⟩ => includer.traceInclude (includer.traceHandle depth) t id e

/-- What holds of the elements that stay, and of those of the answers in their places, holds of all
elements of a filled forest. -/
theorem forall₂_filled {controls : ControlRegistry} {p : Element × Option String → Origin → Prop}
    {t : Traced} {parent first : Nat} {f : Forest} (sits : f.Sits t.document parent first)
    (kept : ∀ n e l, .kept n e l ∈ f.pieces controls (t.document.nodes.lang? parent) first →
      p (e, l) (t.originAt n)) {answers : List Traced}
    (answered : List.Forall₂ (fun x a =>
        List.Forall₂ p (a.document.content.languages (placeLang t.document x.id)) a.origins)
      (f.encounters controls first) answers) :
    List.Forall₂ p
      ((f.fill controls (answers.map (·.document))).languages (t.document.nodes.lang? parent))
      (f.interleave controls t.originAt first (answers.map (·.origins))) := by
  have paired : List.Forall₂ (fun x (a : Document × List Origin) => ∀ place,
        .replaced x place ∈ f.pieces controls (t.document.nodes.lang? parent) first →
          List.Forall₂ p (a.1.content.languages place) a.2)
      (f.encounters controls first) (answers.map fun a => (a.document, a.origins)) := by
    refine List.forall₂_map_right_iff.mpr (answered.imp fun x a ha place hp => ?_)
    obtain rfl : placeLang t.document x.id = place := sits.isOf hp
    exact ha
  have filled := Forest.forall₂_fill t.originAt kept paired
  simpa only [List.map_map, Function.comp_def] using filled

/-! ### What is traced -/

theorem document_tryCatch (x : Expanding Traced) (f : InclusionError → Expanding Traced) :
    Traced.document <$> tryCatch x f
      = tryCatch (Traced.document <$> x) fun e => Traced.document <$> f e := by
  funext s
  simp only [← bind_pure_comp, Expanding.bind_apply, Expanding.tryCatch_apply]
  rcases x s with halt | ⟨e | a, s'⟩
  · rfl
  · rfl
  · rfl

/-- Sequences of traced computations. -/
theorem document_bind {x : Expanding Traced} {y : Expanding Document}
    {f : Traced → Expanding Traced} {g : Document → Expanding Document}
    (first : Traced.document <$> x = y) (next : ∀ t, Traced.document <$> f t = g t.document) :
    Traced.document <$> (x >>= f) = y >>= g := by
  rw [← first, map_bind, bind_map_left]
  exact bind_congr next

section

variable {includer} {trace : Traced → Encounter → Expanding Traced}
  {handle : Document → ControlHandler Expanding}
  (same : ∀ t x, Traced.document <$> trace t x = (handle t.document).answer x)

include same

/-- The answers are those that are filled in. -/
theorem traceAnswers_bind {α : Type} (t : Traced) (first : Nat) (f : Forest)
    (exposing : Encounter → Bool) (g : List Document → Expanding α) :
    (includer.traceAnswers trace t first f exposing >>= fun answers =>
        g (answers.map (·.document)))
      = (f.encounters includer.controls first).mapM (handle t.document).answer >>= g := by
  rw [traceAnswers]
  induction f.encounters includer.controls first generalizing g with
  | nil => simp
  | cons x xs ih =>
    have unexposed : ∀ answer : Traced,
        (if exposing x then answer.mapOrigins .expose else answer).document = answer.document := by
      intro answer
      split <;> rfl
    simp only [List.mapM_cons, bind_assoc, pure_bind, List.map_cons, unexposed, ← same,
      map_eq_pure_bind]
    congr 1
    funext answer
    exact ih fun rest => g (answer.document :: rest)

theorem document_traceAll (fixedUp : Bool) (t : Traced) :
    Traced.document <$> includer.traceAll trace fixedUp t
      = includer.expandAll handle t.document := by
  simp only [traceAll, map_bind, map_pure, expandAll_eq]
  exact traceAnswers_bind same t 1 t.document.content _ fun answers =>
    pure (⟨t.document.base, t.document.content.fill includer.controls answers⟩ : Document)

theorem document_traceFallback (site : IncludeSite) {t : Traced} (own : t.document = site.document)
    (id : Nat) :
    Traced.document <$> includer.traceFallback trace site t id
      = includer.fallback handle site id := by
  simp only [traceFallback, map_bind, map_pure, fallback_eq, ← own]
  exact traceAnswers_bind same t (id + 1) _ _ fun answers => pure (includer.fixed site
    ⟨t.document.nodes.base? id, (fallbackContent site id).fill includer.controls answers⟩)

theorem document_traceMarkup (site : IncludeSite) (last : Bool) :
    Traced.document <$> includer.traceMarkup trace site last = includer.markup handle site := by
  rw [traceMarkup, markup, map_bind]
  refine bind_congr fun _ => ?_
  rw [map_bind]
  refine bind_congr fun r => ?_
  exact document_bind (document_traceAll same last _) fun t => by simp

theorem document_traceText (site : IncludeSite) (last : Bool) :
    Traced.document <$> includer.traceText trace site last = includer.text handle site := by
  rw [traceText, text, map_bind]
  refine bind_congr fun r => ?_
  split
  · rfl
  · exact document_traceAll same last (includer.traceFixed site (.ofSource r))

theorem document_traceNarrow (site : IncludeSite) (parseType : ParseType) (fragment : String)
    (t : Traced) (around : Option AncestorSet) :
    Traced.document <$> includer.traceNarrow trace site parseType fragment t around
      = includer.narrow handle site parseType fragment t.document around := by
  rw [traceNarrow, narrow, map_bind]
  refine bind_congr fun schemes => ?_
  rw [map_bind]
  refine bind_congr fun ⟨result, matched⟩ => ?_
  exact document_traceAll same true _

theorem document_traceResource (site : IncludeSite) {t : Traced}
    (own : t.document = site.document) (parseType : ParseType) (fragment : Option String) :
    (fun r => (r.1.document, r.2)) <$> includer.traceResource trace site t parseType fragment
      = includer.resource handle site parseType fragment := by
  rw [traceResource, resource]
  split
  · rw [← document_traceText same site fragment.isNone]
    simp
  split
  · rw [← document_traceMarkup same site fragment.isNone]
    simp
  split
  · rfl
  · rw [map_pure, own]

theorem document_traceResolve (site : IncludeSite) {t : Traced}
    (own : t.document = site.document) (parseType : ParseType) :
    Traced.document <$> includer.traceResolve trace site t parseType
      = includer.resolve handle site parseType := by
  rw [traceResolve, resolve, ← document_traceResource same site own, map_bind, bind_map_left]
  refine bind_congr fun ⟨d, around⟩ => ?_
  cases site.attributes.fragment parseType with
  | none => rfl
  | some fragment => exact document_traceNarrow same site parseType fragment d around

theorem document_traceResolved (site : IncludeSite) {t : Traced}
    (own : t.document = site.document) (parseType : ParseType) :
    Traced.document <$> includer.traceResolved trace site t parseType
      = includer.resolve handle site parseType := by
  rw [traceResolved, map_bind, ← document_traceResolve same site own, map_eq_pure_bind]
  rfl

theorem document_traceReplacement (site : IncludeSite) {t : Traced}
    (own : t.document = site.document) (fallback : Option Nat) :
    Traced.document <$> includer.traceReplacement trace site t fallback
      = includer.replacement handle site fallback := by
  unfold traceReplacement replacement
  dsimp only
  split
  · cases fallback with
    | none => rfl
    | some id => exact document_traceFallback same site own id
  · rw [map_bind]
    refine bind_congr fun before => ?_
    refine document_bind ?_ fun content => by split <;> rfl
    rw [document_tryCatch, document_traceResolved same site own]
    congr 1
    funext e
    cases fallback with
    | none => rfl
    | some id => rw [map_bind, document_traceFallback same site own]

theorem document_traceInclude (t : Traced) (id : Nat) (e : Element) :
    Traced.document <$> includer.traceInclude trace t id e
      = includer.include_ handle t.document id e := by
  rw [traceInclude, include_, map_bind]
  refine bind_congr fun attributes => ?_
  rw [map_bind]
  refine bind_congr fun fallback => ?_
  rw [map_bind, ← document_traceReplacement same ⟨t.document, id, e, attributes⟩ rfl fallback,
    map_eq_pure_bind]
  rfl

end

/-- **Tracing changes nothing**: but for the origins, a traced expansion is the expansion. -/
theorem document_traceHandle (depth : Nat) (t : Traced) (x : Encounter) :
    Traced.document <$> includer.traceHandle depth t x
      = (includer.handle depth t.document).answer x := by
  induction depth generalizing t x with
  | zero => rfl
  | succ depth ih =>
    obtain ⟨control, id, e⟩ := x
    cases control with
    | fallback => rfl
    | inclusion => exact document_traceInclude ih t id e

/-- The walk of a document that is not inside of any other, traced. -/
def traceExpansion (depth : Nat) (d : Document) : Expanding Traced :=
  includer.traceAll (includer.traceHandle depth) false (.ofSource d)

theorem document_traceExpansion (depth : Nat) (d : Document) :
    Traced.document <$> includer.traceExpansion depth d
      = includer.expandAll (includer.handle depth) d :=
  document_traceAll (includer.document_traceHandle depth) false (.ofSource d)

/-- An expansion that succeeds does so with the origins. -/
theorem exists_trace {depth : Nat} {d r : Document} {s s' : UriStack}
    (h : includer.expandAll (includer.handle depth) d s = .ok (.ok r, s')) :
    ∃ origins, includer.traceExpansion depth d s = .ok (.ok ⟨r, origins⟩, s') := by
  rw [← document_traceExpansion, ← bind_pure_comp] at h
  obtain ⟨t, s₁, traced, last⟩ := Expanding.bind_apply_eq_ok_iff.mp h
  obtain ⟨rfl, rfl⟩ := Expanding.pure_apply_eq_ok_iff.mp last
  exact ⟨t.origins, traced⟩

end Includer

end Transclusion
