import Transclusion.Proofs.Inclusion.FailedInclude
import Transclusion.Proofs.Inclusion.KeptLanguage
/-!
# Languages of fallbacks

The children of a fallback that take the place of an include are fixed up as if they came from
elsewhere: what is around the fallback counts for nothing.  A child that gives itself a language
keeps it.  Any other one is marked as having none if there is a language around the include
(`fallbackLang`), though it is a part of the same document and has had that language all along.

* `Includer.ComesUpon`: the includes that an expansion comes upon in the document itself, those
  inside of fallbacks that it goes on with included.
* `Includer.fallback_language`: the language of each child of a fallback in the result.
-/

namespace Transclusion

/-! ### Other surroundings -/

/-- The second element is the first one in other surroundings, perhaps fixed up once more: a
language that it gives itself stays, and if it has none it has none there either. -/
structure Settled (a b : Element × Option String) : Prop where
  given : ∀ l, a.1.lang? = some l → b.1.lang? = some l ∧ b.2 = some l
  none_ : a.2 = none → b.1.lang? = none ∧ b.2 = none

namespace Forest

theorem settled_languages (f : Forest) {before after : Option String}
    (outside : before = none → after = none) :
    List.Forall₂ Settled (f.languages before) (f.languages after) := by
  induction f generalizing before after with
  | nil => exact .nil
  | leaf l rest ih => exact ih outside
  | element e content rest ihc ihr =>
    have inside : e.langIn before = none → e.langIn after = none := by
      rw [Element.langIn, Element.langIn]
      cases e.lang? with
      | some l => rintro ⟨⟩
      | none => exact outside
    refine .cons ⟨fun l given => ⟨given, ?_⟩, fun none_ => ⟨?_, inside none_⟩⟩
      (List.rel_append (ihc inside) (ihr outside))
    · rw [Element.langIn, given]
      rfl
    · exact (Option.or_eq_none_iff.mp none_).1

theorem mapTop_consLeaf (change : Element → Element) (l : Leaf) (f : Forest) :
    (consLeaf l f).mapTop change = consLeaf l (f.mapTop change) := by
  unfold consLeaf
  cases l with
  | text s =>
    show (consText s f).mapTop change = consText s (f.mapTop change)
    unfold consText
    rcases f with _ | ⟨_ | _ | _, rest⟩ | ⟨e, content, rest⟩
    · dsimp only [mapTop]
      split <;> rfl
    · rfl
    · dsimp only [mapTop]
      split <;> rfl
    · dsimp only [mapTop]
      split <;> rfl
    · dsimp only [mapTop]
      split <;> rfl
  | comment s => rfl
  | instruction target data => rfl

theorem mapTop_append (change : Element → Element) (f g : Forest) :
    (f.append g).mapTop change = (f.mapTop change).append (g.mapTop change) := by
  induction f with
  | nil => rfl
  | leaf l rest ih => rw [append, mapTop_consLeaf, ih, mapTop, append]
  | element e content rest _ ih => rw [append, mapTop, ih, mapTop, append]

/-- Content that is fixed up for a place without a language if there has been none around it. -/
theorem settled_mapTop {context : FixupContext} (on : context.options.fixupXmlLang = true)
    (inclusion : Element) (setId : Option String) (f : Forest) {before : Option String}
    (outside : before = none → context.lang = none) :
    List.Forall₂ Settled (f.languages before)
      ((f.mapTop (context.topElement inclusion setId)).languages context.lang) := by
  induction f with
  | nil => exact .nil
  | leaf l rest ih => exact ih
  | element e content rest _ ih =>
    have own := context.lang?_topElement on inclusion setId e
    rw [mapTop, languages, languages]
    refine List.rel_append ?_ ih
    rw [Element.langIn, Element.langIn, own]
    cases given : e.lang? with
    | some l =>
      refine .cons ⟨fun l' given' => ?_, fun none_ => ?_⟩ (content.settled_languages fun h => h)
      · cases given.symm.trans given'
        exact ⟨own.trans (by rw [given]; rfl), rfl⟩
      · cases none_
    | none =>
      -- An element with no language of its own is marked with the empty one where there is another.
      have marked : ((none : Option String).or (context.lang.map fun _ => "")).or context.lang
          = context.lang.map fun _ => "" := by
        cases context.lang <;> rfl
      rw [marked]
      have inside : before = none → (context.lang.map fun _ => "") = none := fun h => by
        rw [outside h]
        rfl
      refine .cons ⟨fun l given' => ?_, fun none_ => ?_⟩ (content.settled_languages inside)
      · cases given.symm.trans given'
      · exact ⟨own.trans (by rw [given]; exact inside none_), inside none_⟩

end Forest

/-! ### Children of fallbacks -/

/-- The language of a child of the fallback of an include, after it has taken the place of that: the
one that it gives itself, or none, which has to be said if there is one around the include. -/
def fallbackLang (d : Document) (id : Nat) (e : Element) : Option String :=
  e.lang?.or ((placeLang d id).map fun _ => "")

/-- An element is a child of the fallback of an include. -/
structure IsFallbackChild (controls : ControlRegistry) (d : Document) (id i : Nat) (e : Element) :
    Prop where
  element : d.nodes.element? i = some e
  fallback : ∃ c f, d.nodes.parent? i = some c ∧ d.nodes.element? c = some f
    ∧ controls.get? f.name = some .fallback ∧ d.nodes.parent? c = some id

/-- What has come from the document `d` through fallbacks alone; of the children of fallbacks the
language is known. -/
def Origin.Replaces (controls : ControlRegistry) (d : Document) (a : Element × Option String)
    (o : Origin) : Prop :=
  o.resolved = false → o.document = d ∧ ∀ id e, IsFallbackChild controls d id o.number e →
    a.1.lang? = fallbackLang d id e ∧ a.2 = fallbackLang d id e

namespace Origin.Replaces

variable {controls : ControlRegistry} {d : Document} {a b : Element × Option String} {o : Origin}

theorem of_settled (h : Replaces controls d a o) (settled : Settled a b) :
    Replaces controls d b o := by
  intro unresolved
  obtain ⟨own, children⟩ := h unresolved
  refine ⟨own, fun id e child => ?_⟩
  obtain ⟨given, language⟩ := children id e child
  cases known : fallbackLang d id e with
  | some l => exact settled.given l (given.trans known)
  | none => exact settled.none_ (language.trans known)

theorem of_resolved (resolved : o.resolved = true) : Replaces controls d a o :=
  fun unresolved => absurd (resolved.symm.trans unresolved) nofun

end Origin.Replaces

namespace Forest.Sits

variable {controls : ControlRegistry} {d : Document} {parent first n : Nat} {f : Forest}
  {e : Element} {around l : Option String}

/-- An element that stays at the top, or one inside an element that stays. -/
theorem parent_of_kept (h : f.Sits d parent first)
    (hp : .kept n e l ∈ f.pieces controls around first) :
    d.nodes.parent? n = some parent ∨ ∃ p e', d.nodes.parent? n = some p
      ∧ d.nodes.element? p = some e' ∧ controls.get? e'.name = none := by
  induction f generalizing parent first around with
  | nil => cases hp
  | leaf l rest ih => exact ih h.leaf_rest hp
  | element e' content rest ihc ihr =>
    rw [pieces] at hp
    split at hp
    · obtain control | later := List.mem_cons.mp hp
      · cases control
      · exact ihr h.behind later
    · next notControl =>
      obtain here | behind := List.mem_append.mp hp
      · obtain top | inside := List.mem_cons.mp here
        · cases top
          exact .inl h.parent?
        · obtain top | deeper := ihc h.inside inside
          · exact .inr ⟨first, e', top, h.element?, notControl⟩
          · exact .inr deeper
      · exact ihr h.behind behind

/-- Nothing that stays is a child of a fallback, unless its parent is one. -/
theorem not_isFallbackChild_of_kept (h : f.Sits d parent first)
    (outside : ∀ e', d.nodes.element? parent = some e' → controls.get? e'.name ≠ some .fallback)
    (hp : .kept n e l ∈ f.pieces controls around first) {id : Nat} {e₁ : Element} :
    ¬ IsFallbackChild controls d id n e₁ := by
  rintro ⟨-, c, f', parent', element, isFallback, -⟩
  obtain top | ⟨p, e', deeper, element', notControl⟩ := h.parent_of_kept hp
  · cases top.symm.trans parent'
    exact outside f' element isFallback
  · cases deeper.symm.trans parent'
    cases element.symm.trans element'
    exact absurd (isFallback.symm.trans notControl) nofun

/-- A child that is no control element stays. -/
theorem kept_of_child (h : f.Sits d parent first) (child : d.nodes.parent? n = some parent)
    (element : d.nodes.element? n = some e) (ordinary : controls.get? e.name = none)
    (low : first ≤ n) (high : n < first + f.size) :
    ∃ l, .kept n e l ∈ f.pieces controls around first := by
  induction f generalizing first with
  | nil =>
    rw [size] at high
    omega
  | leaf l rest ih =>
    obtain rfl | behind := Nat.eq_or_lt_of_le low
    · rw [NodeList.element?, NodeList.kind?, h.node rfl] at element
      cases element
    · rw [size] at high
      exact ih h.leaf_rest behind (by omega)
  | element e' content rest _ ihr =>
    rw [pieces]
    obtain rfl | after := Nat.eq_or_lt_of_le low
    · cases h.element?.symm.trans element
      rw [ordinary]
      exact ⟨_, List.mem_append_left _ List.mem_cons_self⟩
    · rw [size] at high
      by_cases inside : n ≤ first + content.size
      · -- What is inside the element has that, or what is inside it, as its parent.
        obtain ⟨m, rfl⟩ : ∃ m, n = first + 1 + m := ⟨n - (first + 1), by omega⟩
        have place := h.inside.nodes m (by omega)
        obtain ⟨k, hk, hparent⟩ := Option.bind_eq_some_iff.mp child
        rw [Document.nodes_getElem?, place] at hk
        obtain ⟨q, hq, above, -⟩ := parent_of_mem_nodes (Nat.lt_succ_self first) hk
        cases hq.symm.trans hparent
        have before := h.before
        omega
      · obtain ⟨l, stays⟩ := ihr h.behind (by omega) (by omega)
        cases controls.get? e'.name with
        | some control => exact ⟨l, List.mem_cons_of_mem _ stays⟩
        | none => exact ⟨l, List.mem_append_right _ stays⟩

end Forest.Sits

/-! ### What replaces includes -/

theorem NodeList.lang?_parent_eq_none {d : Document} {i p : Nat}
    (parent : d.nodes.parent? i = some p) (h : d.nodes.lang? i = none) :
    d.nodes.lang? p = none := by
  have ancestors_eq : d.nodes.ancestors i = p :: d.nodes.ancestors p := by
    rw [ancestors, parent]
    exact if_pos (inside_of_parent? parent).1
  rw [lang?, List.findSome?_cons, ancestors_eq] at h
  split at h
  · cases h
  · exact h

/-- If there is no language on a child of an include, then there is none around that. -/
theorem placeLang_eq_none {d : Document} {id c : Nat} (parent : d.nodes.parent? c = some id)
    (h : d.nodes.lang? c = none) : placeLang d id = none := by
  have here := NodeList.lang?_parent_eq_none parent h
  cases above : d.nodes.parent? id with
  | none => rw [placeLang, above, Option.getD_none, here]
  | some p => rw [Forest.Sits.placeLang_eq above, NodeList.lang?_parent_eq_none above here]

namespace Traced

theorem originAt_ofSource {d : Document} {i : Nat} {e : Element}
    (element : d.nodes.element? i = some e) :
    (ofSource d).originAt i = ⟨d, i, [], false, false, false⟩ := by
  have beside : List.Forall₂ (fun i o => o = (⟨d, i, [], false, false, false⟩ : Origin))
      d.elementNumbers (ofSource d).origins :=
    List.forall₂_map_right_iff.mpr (List.forall₂_same.mpr fun _ _ => rfl)
  obtain ⟨o, found, rfl⟩ :=
    exists_lookup_of_forall₂ beside (Document.mem_elementNumbers element)
  rw [originAt, show (ofSource d).document = d from rfl, found]
  rfl

/-- Of all elements in surroundings with the language `around` it is known what they replace. -/
def Replaces (controls : ControlRegistry) (d : Document) (around : Option String) (t : Traced) :
    Prop :=
  List.Forall₂ (Origin.Replaces controls d) (t.document.content.languages around) t.origins

/-- A text has no elements. -/
theorem replaces_text (controls : ControlRegistry) (d : Document) (around : Option String)
    (base : Option String) (text : String) :
    Replaces controls d around ⟨.ofText base text, []⟩ :=
  List.forall₂_nil_right_iff.mpr (Forest.languages_consLeaf around (.text text) .nil)

theorem Replaces.mapOrigins {controls : ControlRegistry} {d : Document} {around : Option String}
    {t : Traced} (h : t.Replaces controls d around) {change : Origin → Origin}
    (same : ∀ o, (change o).document = o.document ∧ (change o).number = o.number
      ∧ (change o).resolved = o.resolved) : (t.mapOrigins change).Replaces controls d around := by
  refine List.forall₂_map_right_iff.mpr (h.imp fun a o replaces unresolved => ?_)
  obtain ⟨document, number, resolved⟩ := same o
  rw [document, number]
  exact replaces (resolved.symm.trans unresolved)

end Traced

namespace Includer

open Expanding

variable {includer : Includer} {d : Document}

/-- An element that stays is no child of a fallback, and is where it was. -/
theorem replaces_kept {parent first n : Nat} {f : Forest} {e : Element} {l : Option String}
    (sits : f.Sits d parent first)
    (outside : ∀ e', d.nodes.element? parent = some e' →
      includer.controls.get? e'.name ≠ some .fallback)
    (hp : .kept n e l ∈ f.pieces includer.controls (d.nodes.lang? parent) first) :
    Origin.Replaces includer.controls d (e, l) ((Traced.ofSource d).originAt n) := by
  obtain ⟨element, -, -⟩ := sits.isOf hp
  rw [Traced.originAt_ofSource element]
  exact fun _ =>
    ⟨rfl, fun id e₁ child => absurd child (sits.not_isFallbackChild_of_kept outside hp)⟩

/-- The content of a fallback, filled with answers and fixed up. -/
theorem replaces_fixed {id c : Nat} (parent : d.nodes.parent? c = some id)
    (context : FixupContext) (on : context.options.fixupXmlLang = true)
    (place : context.lang = placeLang d id) (inclusion : Element) (setId : Option String)
    {first : Nat} {f : Forest} (sits : f.Sits d c first) {answers : List Traced}
    (answered : List.Forall₂ (fun x a => a.Replaces includer.controls d (placeLang d x.id))
      (f.encounters includer.controls first) answers) :
    List.Forall₂ (Origin.Replaces includer.controls d)
      (((f.fill includer.controls (answers.map (·.document))).mapTop
        (context.topElement inclusion setId)).languages context.lang)
      (f.interleave includer.controls (Traced.ofSource d).originAt first
        (answers.map (·.origins))) := by
  have outside : d.nodes.lang? c = none → context.lang = none := fun h =>
    place.trans (placeLang_eq_none parent h)
  -- On the siblings, which are all fixed up. The elements inside one of them are not, and are as
  -- they were in their own surroundings.
  induction f generalizing first answers with
  | nil => exact .nil
  | leaf l rest ih =>
    rw [Forest.fill, Forest.mapTop_consLeaf, Forest.languages_consLeaf]
    exact ih sits.leaf_rest answered
  | element e content rest _ ih =>
    cases hget : includer.controls.get? e.name with
    | some control =>
      simp only [Forest.encounters, hget] at answered
      obtain ⟨answer, others, here, behind, rfl⟩ := List.forall₂_cons_left_iff.mp answered
      simp only [Forest.fill, Forest.interleave, hget, List.map_cons, List.head?_cons,
        Option.map_some, Option.getD_some, List.tail_cons, Forest.mapTop_append,
        Forest.languages_append]
      -- The answer is one for this place, and being fixed up once more settles nothing otherwise.
      refine List.rel_append ?_ (ih sits.behind behind)
      have around : placeLang d first = d.nodes.lang? c := Forest.Sits.placeLang_eq sits.parent?
      exact forall₂_of_forall₂ (fun _ _ _ settled replaces => replaces.of_settled settled)
        (answer.document.content.settled_mapTop on inclusion setId
          fun h => outside (around.symm.trans h)) here
    | none =>
      simp only [Forest.encounters, hget] at answered
      simp only [Forest.fill, Forest.interleave, hget, Forest.mapTop, Forest.languages,
        ← List.map_take, ← List.map_drop]
      have count := Forest.length_encounters includer.controls 0 (first + 1) content
      have inside := List.forall₂_take
        (content.encounters includer.controls (first + 1)).length answered
      have behind := List.forall₂_drop
        (content.encounters includer.controls (first + 1)).length answered
      rw [List.take_left, ← count] at inside
      rw [List.drop_left, ← count] at behind
      have own := context.lang?_topElement on inclusion setId e
      have language : (context.topElement inclusion setId e).langIn context.lang
          = fallbackLang d id e := by
        rw [Element.langIn, own, fallbackLang, ← place]
        cases e.lang? <;> cases context.lang <;> rfl
      refine List.rel_append (.cons (fun _ => ?_) ?_) (ih sits.behind behind)
      · rw [Traced.originAt_ofSource sits.element?]
        refine ⟨rfl, fun id' e' child => ?_⟩
        obtain ⟨c', -, above, -, -, above'⟩ := child.fallback
        cases sits.parent?.symm.trans above
        cases parent.symm.trans above'
        cases sits.element?.symm.trans child.element
        exact ⟨own.trans (by rw [fallbackLang, place]), language⟩
      · -- What is inside the element is as it was in its own surroundings.
        have ordinary : ∀ e', d.nodes.element? first = some e' →
            includer.controls.get? e'.name ≠ some .fallback := by
          intro e' element isFallback
          cases sits.element?.symm.trans element
          cases isFallback.symm.trans hget
        have filled := forall₂_filled (t := .ofSource d) sits.inside
          (fun n e' l hp => replaces_kept sits.inside ordinary hp) inside
        refine forall₂_of_forall₂ (fun _ _ _ settled replaces => replaces.of_settled settled)
          (Forest.settled_languages _ fun h => ?_) filled
        rw [language]
        rw [Traced.ofSource, sits.lang?, Element.langIn, Option.or_eq_none_iff] at h
        rw [fallbackLang, h.1, ← place, outside h.2]
        rfl

/-- A traced computation gives content for the place of the include with the number `id`, of which
it is known what it replaces. -/
def GivesReplacing (includer : Includer) (d : Document) (id : Nat) (x : Expanding Traced) : Prop :=
  x.Yields fun t => t.Replaces includer.controls d (placeLang d id)

section

variable (on : includer.options.fixupXmlLang = true) {trace : Traced → Encounter → Expanding Traced}
  (hh : ∀ x, GivesReplacing includer d x.id (trace (.ofSource d) x))

include hh

theorem ensures_answers_replace (first : Nat) (f : Forest) (s : UriStack) :
    (includer.traceAnswers trace (.ofSource d) first f fun _ => false).Ensures s
      (fun answers _ => List.Forall₂ (fun x a => a.Replaces includer.controls d (placeLang d x.id))
        (f.encounters includer.controls first) answers) fun _ _ => True := by
  refine ensures_mapM_forall₂ fun x _ s => ?_
  rw [ensures_bind]
  exact ((hh x).ensures s).mono (fun a _ ha => ha) fun _ _ he => he

include on

theorem givesReplacing_traceFallback {id c : Nat} (parent : d.nodes.parent? c = some id)
    (e : Element) (a : IncludeAttributes) :
    GivesReplacing includer d id (includer.traceFallback trace ⟨d, id, e, a⟩ (.ofSource d) c) := by
  refine ⟨fun s => ?_⟩
  rw [traceFallback, ensures_bind]
  refine (ensures_answers_replace hh (c + 1) _ s).mono (fun answers s' answered => ?_)
    fun _ _ he => he
  rw [ensures_pure]
  refine Traced.Replaces.mapOrigins ?_ fun _ => ⟨rfl, rfl, rfl⟩
  exact replaces_fixed parent (includer.contextOf ⟨d, id, e, a⟩) on rfl e a.setXmlId
    (fallbackContent_sits ⟨d, id, e, a⟩ c) answered

theorem givesReplacing_traceReplacement {id : Nat} (e : Element) (a : IncludeAttributes)
    (resolved : GivesKept (fun _ => True) (placeLang d id)
      (includer.traceResolve trace ⟨d, id, e, a⟩ (.ofSource d) a.parseType)) {fallback : Option Nat}
    (child : ∀ c ∈ fallback, d.nodes.parent? c = some id) :
    GivesReplacing includer d id
      (includer.traceReplacement trace ⟨d, id, e, a⟩ (.ofSource d) fallback) := by
  have fallsBack : ∀ c ∈ fallback, GivesReplacing includer d id
      (includer.traceFallback trace ⟨d, id, e, a⟩ (.ofSource d) c) :=
    fun c hc => givesReplacing_traceFallback on hh (child c hc) e a
  unfold traceReplacement
  dsimp only
  generalize a.parseType = parseType at resolved ⊢
  have attempted : GivesReplacing includer d id
      (includer.traceResolved trace ⟨d, id, e, a⟩ (.ofSource d) parseType) :=
    resolved.map fun _ kept => List.forall₂_map_right_iff.mpr
      (kept.2.imp fun _ _ _ => Origin.Replaces.of_resolved rfl)
  split
  · cases fallback with
    | none => exact yields_throw
    | some c => exact fallsBack c rfl
  · refine yields_get.bind fun _ _ => (attempted.tryCatch fun _ => ?_).map fun t replaces => ?_
    · cases fallback with
      | none => exact yields_throw
      | some c => exact yields_modify.bind fun _ _ => fallsBack c rfl
    · split
      · exact Traced.replaces_text ..
      · exact replaces

theorem givesReplacing_traceInclude (id : Nat) (e : Element)
    (resolved : ∀ a, GivesKept (fun _ => True) (placeLang d id)
      (includer.traceResolve trace ⟨d, id, e, a⟩ (.ofSource d) a.parseType)) :
    GivesReplacing includer d id (includer.traceInclude trace (.ofSource d) id e) := by
  refine yields_lift.bind fun a _ => yields_lift.bind fun fallback child => ?_
  have parent : ∀ c ∈ fallback, d.nodes.parent? c = some id := by
    rintro c ⟨⟩
    have among := (List.mem_filter.mp (includer.mem_of_fallbackChild? child)).1
    exact of_decide_eq_true (List.mem_filter.mp among).2
  exact (givesReplacing_traceReplacement on hh e a (resolved a) parent).map fun t replaces =>
    replaces.mapOrigins fun _ => ⟨rfl, rfl, rfl⟩

variable (carries : includer.schemes.Gives Scheme.Carries) (plain : includer.resolver.PlainText)

omit hh

include carries plain

/-- What replaces an include, by way of fallbacks alone. -/
theorem givesReplacing_traceHandle (depth : Nat) (x : Encounter) :
    GivesReplacing includer d x.id (includer.traceHandle depth (.ofSource d) x) := by
  induction depth generalizing x with
  | zero => exact yields_halt
  | succ depth ih =>
    obtain ⟨control, id, e⟩ := x
    cases control with
    | fallback => exact yields_throw
    | inclusion =>
      have kept : ∀ t x, t.Keeps (fun _ => True) none →
          GivesKept (fun _ => True) (placeLang t.document x.id) (includer.traceHandle depth t x) :=
        givesKept_traceHandle on (fun _ _ _ => trivial) plain carries depth
      refine givesReplacing_traceInclude on ih id e fun a => ?_
      exact givesKept_traceResolve on kept (fun _ _ _ => trivial) plain carries ⟨d, id, e, a⟩
        (Traced.keeps_ofSource trivial) a.parseType

/-- The elements of an expanded document. -/
theorem replaces_traceExpansion {depth : Nat} {t : Traced} {s s' : UriStack}
    (traced : includer.traceExpansion depth d s = .ok (.ok t, s')) :
    t.Replaces includer.controls d none := by
  have given : (includer.traceExpansion depth d).Ensures s
      (fun t _ => t.Replaces includer.controls d none) fun _ _ => True := by
    rw [traceExpansion, traceAll, ensures_bind]
    have each : ∀ x, GivesReplacing includer d x.id (includer.traceHandle depth (.ofSource d) x) :=
      givesReplacing_traceHandle on carries plain depth
    refine (ensures_answers_replace each 1 d.content s).mono (fun answers _ answered => ?_)
      fun _ _ he => he
    rw [ensures_pure]
    have root : d.nodes.element? 0 = none := rfl
    have filled := forall₂_filled (t := .ofSource d) d.sits (fun n e l hp => replaces_kept d.sits
      (fun e' element => absurd (element.symm.trans root) (Option.some_ne_none e')) hp) answered
    rwa [show (Traced.ofSource d).document.nodes.lang? 0 = none from NodeList.lang?_document d]
      at filled
  exact (ensures_iff.mp given).1 t s' traced

end

/-! ### Includes that an expansion comes upon -/

/-- The include is replaced by its fallback `c`, and by all of it. -/
structure ReplacedByFallback (includer : Includer) (depth : Nat) (d : Document) (s : UriStack)
    (id : Nat) (e : Element) (a : IncludeAttributes) (c : Nat) : Prop where
  attributes : IncludeAttributes.ofElement e = .ok a
  child : includer.fallbackChild? d.nodes id = .ok (some c)
  falls : includer.FallsBack (includer.handle depth) ⟨d, id, e, a⟩ s
  whole : a.parseType = .text → includer.options.trimText = false

/-- The expansion of `d` comes upon an include, with a number of includes that may be inside each
other from there on: in the document, or in a fallback that it goes on with. -/
inductive ComesUpon (includer : Includer) (depth : Nat) (d : Document) (s : UriStack) :
    Nat → Nat → Element → Prop where
  | walk {id : Nat} {e : Element}
      (found : ⟨.inclusion, id, e⟩ ∈ d.content.encounters includer.controls 1) :
      ComesUpon includer depth d s depth id e
  | fallback {n id id' c : Nat} {e e' : Element} {a : IncludeAttributes}
      (outer : ComesUpon includer depth d s (n + 1) id e)
      (replaced : includer.ReplacedByFallback n d s id e a c)
      (found : ⟨.inclusion, id', e'⟩
        ∈ (fallbackContent ⟨d, id, e, a⟩ c).encounters includer.controls (c + 1)) :
      ComesUpon includer depth d s n id' e'

theorem balanced_of_map {α β : Type} {x : Expanding α} {f : α → β} (h : (f <$> x).Balanced) :
    x.Balanced := by
  intro s
  have mapped := h s
  rw [map_eq_pure_bind, ensures_bind] at mapped
  exact mapped

theorem balanced_traceHandle (depth : Nat) (t : Traced) (x : Encounter) :
    (includer.traceHandle depth t x).Balanced := by
  have plain := includer.balanced_handle depth t.document x
  rw [← includer.document_traceHandle depth t x] at plain
  exact balanced_of_map plain

theorem traceAnswers_hidden (trace : Traced → Encounter → Expanding Traced) (t : Traced)
    (first : Nat) (f : Forest) :
    includer.traceAnswers trace t first f (fun _ => false)
      = (f.encounters includer.controls first).mapM (trace t) := by
  simp [traceAnswers]

theorem error_of_map {x : Expanding Traced} {s s' : UriStack} {err : InclusionError}
    (h : (Traced.document <$> x) s = .ok (.error err, s')) : x s = .ok (.error err, s') := by
  rw [map_eq_pure_bind, bind_apply] at h
  split at h
  · cases h
  · next e t outcome =>
    cases h
    exact outcome
  · cases h

theorem traceInclude_eq {trace : Traced → Encounter → Expanding Traced} {t : Traced} {id : Nat}
    {e : Element} {a : IncludeAttributes} {fallback : Option Nat}
    (attributes : IncludeAttributes.ofElement e = .ok a)
    (child : includer.fallbackChild? t.document.nodes id = .ok fallback) :
    includer.traceInclude trace t id e
      = (includer.traceReplacement trace ⟨t.document, id, e, a⟩ t fallback >>= fun r =>
          pure (r.mapOrigins (.through id))) := by
  funext s
  rw [traceInclude, bind_apply, lift_apply, attributes]
  dsimp only
  rw [bind_apply, lift_apply, child]

/-- An include that is replaced by its fallback, traced. -/
theorem traceReplacement_of_replaced {depth id c : Nat} {s : UriStack} {e : Element}
    {a : IncludeAttributes} (replaced : includer.ReplacedByFallback depth d s id e a c) :
    includer.traceReplacement (includer.traceHandle depth) ⟨d, id, e, a⟩ (.ofSource d) (some c) s
      = includer.traceFallback (includer.traceHandle depth) ⟨d, id, e, a⟩ (.ofSource d) c s := by
  obtain ⟨-, -, falls, whole⟩ := replaced
  unfold traceReplacement
  rw [FallsBack] at falls
  dsimp only at falls ⊢
  generalize a.parseType = parseType at falls whole ⊢
  by_cases unsupported : parseType = .unsupported
  · rw [if_pos unsupported]
  · obtain ⟨err, s', failed⟩ := falls.resolve_left unsupported
    have same : Traced.document <$> includer.traceResolved (includer.traceHandle depth)
          ⟨d, id, e, a⟩ (.ofSource d) parseType
        = includer.resolve (includer.handle depth) ⟨d, id, e, a⟩ parseType :=
      document_traceResolved (includer.document_traceHandle depth) ⟨d, id, e, a⟩ rfl parseType
    have balanced : (includer.traceResolved (includer.traceHandle depth) ⟨d, id, e, a⟩
        (.ofSource d) parseType).Balanced := by
      refine balanced_of_map (f := Traced.document) ?_
      rw [same]
      exact includer.balanced_resolve (includer.balanced_handle depth) _ _
    have traced := error_of_map ((congrFun same s).trans failed)
    have attempted := orElse_of_error (f := includer.traceFallback (includer.traceHandle depth)
      ⟨d, id, e, a⟩ (.ofSource d) c) balanced traced
    have untrimmed : (decide (parseType = .text) && includer.options.trimText) = false := by
      by_cases text : parseType = .text
      · rw [whole text, Bool.and_false]
      · rw [decide_eq_false text, Bool.false_and]
    rw [if_neg unsupported, untrimmed, bind_apply, get_apply]
    simp only [Bool.false_eq_true, if_false, bind_pure]
    exact attempted

/-- A traced document has an element of `d` that has come through fallbacks alone. -/
def HasElement (d : Document) (i : Nat) (t : Traced) : Prop :=
  ∃ o ∈ t.origins, o.document = d ∧ o.number = i ∧ o.resolved = false

/-- The outcome of a fallback that is filled. -/
theorem outcome_of_replaced {depth id c : Nat} {s : UriStack} {e : Element} {a : IncludeAttributes}
    (replaced : includer.ReplacedByFallback depth d s id e a c) {t : Traced}
    (outcome : includer.traceHandle (depth + 1) (.ofSource d) ⟨.inclusion, id, e⟩ s
      = .ok (.ok t, s)) :
    ∃ answers : List Traced, List.Forall₂
        (fun x answer => includer.traceHandle depth (.ofSource d) x s = .ok (.ok answer, s))
        ((fallbackContent ⟨d, id, e, a⟩ c).encounters includer.controls (c + 1)) answers
      ∧ ∀ i, (∃ o ∈ (fallbackContent ⟨d, id, e, a⟩ c).interleave includer.controls
          (Traced.ofSource d).originAt (c + 1) (answers.map (·.origins)),
          o.document = d ∧ o.number = i ∧ o.resolved = false) → HasElement d i t := by
  have child : includer.fallbackChild? (Traced.ofSource d).document.nodes id = .ok (some c) :=
    replaced.child
  rw [traceHandle, traceInclude_eq replaced.attributes child] at outcome
  obtain ⟨r, s₁, content, last⟩ := bind_apply_eq_ok_iff.mp outcome
  obtain ⟨rfl, rfl⟩ := pure_apply_eq_ok_iff.mp last
  have filled := (traceReplacement_of_replaced replaced).symm.trans content
  rw [traceFallback, traceAnswers_hidden] at filled
  obtain ⟨answers, s₂, answered, last⟩ := bind_apply_eq_ok_iff.mp filled
  obtain ⟨rfl, rfl⟩ := pure_apply_eq_ok_iff.mp last
  obtain ⟨-, each⟩ := (mapM_eq_ok_iff fun x _ => balanced_traceHandle depth _ x).mp answered
  refine ⟨answers, each, ?_⟩
  rintro i ⟨o, among, has⟩
  exact ⟨o.asFallback.through id, List.mem_map_of_mem (List.mem_map_of_mem among), has⟩

/-- An expansion that succeeds has an outcome for each include that it comes upon, and what has
replaced that is in the result. -/
theorem exists_outcome {depth : Nat} {s s' : UriStack} {t : Traced}
    (traced : includer.traceExpansion depth d s = .ok (.ok t, s')) {n id : Nat} {e : Element}
    (comes : includer.ComesUpon depth d s n id e) :
    ∃ answer, includer.traceHandle n (.ofSource d) ⟨.inclusion, id, e⟩ s = .ok (.ok answer, s)
      ∧ ∀ i, HasElement d i answer → HasElement d i t := by
  have among : ∀ {n first : Nat} {f : Forest} {answers : List Traced}, List.Forall₂
        (fun x answer => includer.traceHandle n (.ofSource d) x s = .ok (.ok answer, s))
        (f.encounters includer.controls first) answers →
      ∀ x ∈ f.encounters includer.controls first, ∃ answer,
        includer.traceHandle n (.ofSource d) x s = .ok (.ok answer, s)
          ∧ answer.origins ⊆ f.interleave includer.controls (Traced.ofSource d).originAt first
            (answers.map (·.origins)) := by
    intro n first f answers each x hx
    have tagged : List.Forall₂ (fun x ts => ∃ answer : Traced, ts = answer.origins
          ∧ includer.traceHandle n (.ofSource d) x s = .ok (.ok answer, s))
        (f.encounters includer.controls first) (answers.map (·.origins)) :=
      List.forall₂_map_right_iff.mpr (each.imp fun _ answer outcome => ⟨answer, rfl, outcome⟩)
    obtain ⟨_, ⟨answer, rfl, outcome⟩, within⟩ :=
      Forest.exists_subset_interleave (Traced.ofSource d).originAt tagged hx
    exact ⟨answer, outcome, within⟩
  -- On how the include is come upon: by the walk of the document, or in a fallback that replaces
  -- one that is come upon before.
  induction comes with
  | @walk id e found =>
    rw [traceExpansion, traceAll] at traced
    simp only [Bool.false_and, traceAnswers_hidden] at traced
    obtain ⟨answers, s₁, answered, last⟩ := bind_apply_eq_ok_iff.mp traced
    obtain ⟨rfl, rfl⟩ := pure_apply_eq_ok_iff.mp last
    obtain ⟨-, each⟩ := (mapM_eq_ok_iff fun x _ => balanced_traceHandle depth _ x).mp answered
    obtain ⟨answer, outcome, within⟩ := among each _ found
    refine ⟨answer, outcome, ?_⟩
    rintro i ⟨o, ho, has⟩
    exact ⟨o, within ho, has⟩
  | @fallback n id id' c e e' a _ replaced found ih =>
    obtain ⟨outer, outcome, later⟩ := ih
    obtain ⟨answers, each, filled⟩ := outcome_of_replaced replaced outcome
    obtain ⟨answer, outcome', within⟩ := among each _ found
    refine ⟨answer, outcome', ?_⟩
    rintro i ⟨o, ho, has⟩
    exact later i (filled i ⟨o, within ho, has⟩)

/-- The fallback of an include is an element of that name. -/
theorem element?_of_fallbackChild? {ns : NodeList} {id child : Nat}
    (h : includer.fallbackChild? ns id = .ok (some child)) :
    ∃ e, ns.element? child = some e ∧ includer.controls.get? e.name = some .fallback := by
  rw [fallbackChild?] at h
  -- What the fold over the children has found so far is a fallback.
  refine foldlM_keeps (fun o : Option Nat => ∀ c, o = some c →
    ∃ e, ns.element? c = some e ∧ includer.controls.get? e.name = some .fallback) ?_ ?_ h child rfl
  · intro c hc
    cases hc
  intro o c o' ho _ step c' hc'
  split at step
  · cases step
    exact ho c' hc'
  next e element =>
  split at step
  · next isFallback =>
    split at step
    · cases step
    · cases step
      cases hc'
      exact ⟨e, element, isFallback⟩
  split at step
  · cases step
  · cases step
    exact ho c' hc'

/-- The node with the number `j` is a copy of the element `i` of the document `d` that has come
through fallbacks alone. -/
structure IsCopy (d : Document) (i : Nat) (t : Traced) (j : Nat) (e : Element) : Prop where
  element : t.document.nodes.element? j = some e
  document : (t.originAt j).document = d
  number : (t.originAt j).number = i
  unresolved : (t.originAt j).resolved = false

/-! ### A page in English -/

namespace EnglishPage

def bindings : Bindings := .ofList [("xi", xincludeNamespace)]

def includeMissing : Element :=
  ⟨.prefixed "xi" xincludeNamespace "include", .ofList [(.plain "href", "http://h/missing")],
    bindings, none⟩

/-- An English page with an include, the fallback of which has this element. -/
def page (e : Element) : Document :=
  ⟨none, .element ⟨.inNamespace none "doc", .ofList [(.xml "lang", "en")], bindings, none⟩
    (.element includeMissing
      (.element ⟨.prefixed "xi" xincludeNamespace "fallback", .empty, bindings, none⟩
        (.element e .nil .nil) .nil) .nil) .nil⟩

/-- An element with these attributes. -/
def withAttributes (attributes : Attributes) : Element :=
  ⟨.inNamespace none "p", attributes, bindings, none⟩

/-- The page with an element that says nothing of its language, in writing. -/
def writtenPage : String :=
  "<doc xml:lang='en' xmlns:xi='http://www.w3.org/2001/XInclude'>"
    ++ "<xi:include href='http://h/missing'><xi:fallback><p/></xi:fallback></xi:include></doc>"

/-- The page with this element in the place of the include. -/
def result (e : Element) : Document :=
  ⟨none, .element ⟨.inNamespace none "doc", .ofList [(.xml "lang", "en")], bindings, none⟩
    (.element e .nil .nil) .nil⟩

/-- Records languages and nothing else. -/
def reader : Includer := ⟨⟨false, true, false, false⟩, .standard, .standard, .memory .empty⟩

def attributes : IncludeAttributes :=
  ⟨"http://h/missing", none, none, none, "UTF-8", none, none, "xml"⟩

def german : Element := withAttributes (.ofList [(.xml "lang", "de")])

theorem expandAll_german : reader.expandAll (reader.handle 1) (page german) .empty
    = .ok (.ok (result german), .empty) :=
  Expanding.eq_of_success? (by decide +kernel)

theorem comesUpon_page (e : Element) :
    reader.ComesUpon 1 (page e) .empty 1 2 includeMissing :=
  .walk (List.mem_singleton.mpr rfl)

theorem replaced_page {e : Element}
    (missing : reader.resolve (reader.handle 0) ⟨page e, 2, includeMissing, attributes⟩ .xml .empty
      = .ok (.error (.unreadable "http://h/missing" .notFound), ⟨["http://h/missing"]⟩)) :
    reader.ReplacedByFallback 0 (page e) .empty 2 includeMissing attributes 3 := by
  have isXml : attributes.parseType = .xml := by decide +kernel
  exact ⟨rfl, rfl, .inr ⟨_, _, isXml ▸ missing⟩, fun text => absurd (isXml.symm.trans text) nofun⟩

end EnglishPage

/-! ### Main result -/

open EnglishPage in
/-- The child of a fallback is in English where it is written, and in no language in the result. -/
theorem fallback_loses_language :
    Document.read none writtenPage = .ok (page (withAttributes .empty))
      ∧ reader.expandWithin 1 (page (withAttributes .empty))
        = .ok (.ok (result (withAttributes (.ofList [(.xml "lang", "")]))))
      ∧ reader.ReplacedByFallback 0 (page (withAttributes .empty)) .empty 2 includeMissing
          attributes 3
      ∧ (page (withAttributes .empty)).nodes.element? 4 = some (withAttributes .empty)
      ∧ (page (withAttributes .empty)).nodes.lang? 4 = some "en"
      ∧ (result (withAttributes (.ofList [(.xml "lang", "")]))).nodes.lang? 2 = some "" := by
  refine ⟨eq_ok_of_toOption (by decide +kernel), ?_, replaced_page (by decide +kernel),
    by decide +kernel, by decide +kernel, by decide +kernel⟩
  have walked : reader.carryOut 1 (.walk (page (withAttributes .empty))) .empty
      = .ok (.ok (result (withAttributes (.ofList [(.xml "lang", "")]))), .empty) :=
    Expanding.eq_of_success? (by decide +kernel)
  rw [expandWithin_eq, show initialStack (page (withAttributes .empty)) = .empty from rfl, walked]
  rfl

/-- **The language of fallback content.** An include of a document, perhaps inside of a fallback
that the expansion goes on with, is replaced by its fallback. Each child element of the fallback
that is no control element has a copy in the result, which has the language that the element gives
itself, or else none; that has to be said if there is a language around the include. So it keeps its
language only if it gives itself one, or had no language in the first place. -/
theorem fallback_language {includer : Includer} (on : includer.options.fixupXmlLang = true)
    (carries : includer.schemes.Gives Scheme.Carries) (plain : includer.resolver.PlainText)
    {depth : Nat} {d r : Document} {s s' : UriStack}
    (h : includer.expandAll (includer.handle depth) d s = .ok (.ok r, s')) {n id c i : Nat}
    {e x : Element} {a : IncludeAttributes} (comes : includer.ComesUpon depth d s (n + 1) id e)
    (replaced : includer.ReplacedByFallback n d s id e a c)
    (child : d.nodes.parent? i = some c) (element : d.nodes.element? i = some x)
    (ordinary : includer.controls.get? x.name = none) :
    ∃ origins, includer.traceExpansion depth d s = .ok (.ok ⟨r, origins⟩, s')
      ∧ (∃ j x', IsCopy d i ⟨r, origins⟩ j x')
      ∧ ∀ j x', IsCopy d i ⟨r, origins⟩ j x' →
        (x'.name = x.name ∧ x'.base = x.base)
          ∧ r.nodes.lang? j = x.lang?.or ((placeLang d id).map fun _ => "")
          ∧ (r.nodes.lang? j = d.nodes.lang? i
            ↔ x.lang?.isSome ∨ d.nodes.lang? i = (placeLang d id).map fun _ => "") := by
  obtain ⟨origins, traced⟩ := exists_trace _ h
  have replaces := replaces_traceExpansion on carries plain traced
  refine ⟨origins, traced, ?_, fun j x' copy => ?_⟩
  · -- The element stays in its fallback, and what is there is in the result.
    obtain ⟨answer, outcome, later⟩ := exists_outcome traced comes
    obtain ⟨answers, -, filled⟩ := outcome_of_replaced replaced outcome
    have sits := fallbackContent_sits ⟨d, id, e, a⟩ c
    obtain ⟨after, inside⟩ := NodeList.inside_of_parent? child
    have bound : i < c + 1 + (fallbackContent ⟨d, id, e, a⟩ c).size := by
      obtain ⟨t, subtree⟩ := Document.exists_subtree? (i := c) (d := d)
        (by have := (Document.bounds_of_element? element).2; omega)
      rw [Document.extent_eq subtree, Subtree.size] at inside
      have content : fallbackContent ⟨d, id, e, a⟩ c = t.content := by
        rw [fallbackContent, subtree]
        rfl
      rw [content]
      omega
    obtain ⟨l, stays⟩ : ∃ l, .kept i x l
        ∈ (fallbackContent ⟨d, id, e, a⟩ c).pieces includer.controls none (c + 1) :=
      sits.kept_of_child child element ordinary after bound
    have among := Forest.own_mem_interleave (Traced.ofSource d).originAt stays
      (answers.map (·.origins))
    rw [Traced.originAt_ofSource element] at among
    obtain ⟨o, ho, own, number, unresolved⟩ := later i (filled i ⟨_, among, rfl, rfl, rfl⟩)
    obtain ⟨j, x', element', rfl⟩ := Traced.exists_originAt replaces ho
    exact ⟨j, x', element', own, number, unresolved⟩
  · -- Where a copy comes from tells its language; its name and its base are kept by every walk.
    obtain ⟨element', own, number, unresolved⟩ := copy
    obtain ⟨f, fallback, isFallback⟩ := element?_of_fallbackChild? replaced.child
    have among := (List.mem_filter.mp (includer.mem_of_fallbackChild? replaced.child)).1
    have parent : d.nodes.parent? c = some id := of_decide_eq_true (List.mem_filter.mp among).2
    have isChild : IsFallbackChild includer.controls d id i x :=
      ⟨element, c, f, child, fallback, isFallback, parent⟩
    have language : r.nodes.lang? j = fallbackLang d id x :=
      ((Traced.originAt_of_forall₂ replaces element' unresolved).2 id x (number ▸ isChild)).2
    have each : ∀ t x, t.Keeps (fun _ => True) none →
        GivesKept (fun _ => True) (placeLang t.document x.id) (includer.traceHandle depth t x) :=
      givesKept_traceHandle on (fun _ _ _ => trivial) plain carries depth
    have walked : (includer.traceExpansion depth d).Ensures s _ _ :=
      ensures_traceAll each (Traced.keeps_ofSource trivial) false s
    have kept := (((ensures_iff.mp walked).1 _ _ traced).1).originAt element'
    obtain ⟨x₁, element₁, name, base⟩ := kept.element
    rw [Origin.element?, own, number, element] at element₁
    cases element₁
    refine ⟨⟨name, base⟩, language, ?_⟩
    rw [language, fallbackLang, NodeList.lang?_of_element? element child, Element.langIn]
    cases x.lang? with
    | some l => simp
    | none => simp [eq_comm]

open EnglishPage in
theorem fallback_language_german :
    ∃ origins, reader.traceExpansion 1 (page german) .empty
        = .ok (.ok ⟨result german, origins⟩, .empty)
      ∧ (∃ j x', IsCopy (page german) 4 ⟨result german, origins⟩ j x')
      ∧ ∀ j x', IsCopy (page german) 4 ⟨result german, origins⟩ j x' →
        (result german).nodes.lang? j = some "de" := by
  have on : reader.options.fixupXmlLang = true := rfl
  have child : (page german).nodes.parent? 4 = some 3 := rfl
  obtain ⟨origins, traced, copied, each⟩ := fallback_language on SchemeRegistry.carries_standard
    (Resolver.plainText_memory .empty) expandAll_german (comesUpon_page german)
    (replaced_page (by decide +kernel)) child
    rfl (by decide +kernel)
  exact ⟨origins, traced, copied, fun j x' copy => (each j x' copy).2.1⟩

end Includer

end Transclusion
