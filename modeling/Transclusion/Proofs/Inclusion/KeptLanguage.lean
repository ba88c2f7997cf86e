import Transclusion.Proofs.Fragment.CarriedSelections
import Transclusion.Proofs.Inclusion.Expanded
import Transclusion.Proofs.Inclusion.Tracing
/-!
# Languages at the boundary of an inclusion

Included content does not take on the language of the place where it goes: an element keeps the
language that it had where it comes from, and if it had none it may be marked as having none.  For
content that is compared with that place this is the work of fix-up.  Content is fixed up before the
includes in it are expanded, though; so what replaces a control element at its top has been compared
with the included document only, and without a language of its own it takes on whichever there is
(`Origin.exposed`).

* `Traced.Keeps`: all elements of a traced document keep their languages in some surroundings.
* `Includer.givesKept_traceHandle`: what replaces an include keeps them where it goes.
* `Includer.language_kept`: so do all elements of an expanded document.
-/

namespace Transclusion

/-! ### Elements and their origins -/

/-- An element with its language has come from the place that is said, and has kept its language, or
is marked as having none. Nothing is said of the language of what has come from a fallback, nor of
what is exposed and had none. -/
structure Origin.Kept (sources : Document → Prop) (a : Element × Option String) (o : Origin) :
    Prop where
  source : sources o.document
  element : ∃ e, o.element? = some e ∧ a.1.name = e.name ∧ a.1.base = e.base
  language : o.inFallback = true ∨ a.2 = o.lang?
    ∨ o.lang? = none ∧ (a.2 = some "" ∨ o.exposed = true)

namespace Origin.Kept

variable {sources : Document → Prop} {a b : Element × Option String} {o : Origin}

theorem of_carried (h : Kept sources a o) (carried : Carried a b) : Kept sources b o where
  source := h.source
  element := by
    obtain ⟨e, he, name, base⟩ := h.element
    exact ⟨e, he, carried.name.trans name, carried.base.trans base⟩
  language := by
    obtain inFallback | same | ⟨none_, marked⟩ := h.language
    · exact .inl inFallback
    · obtain same' | ⟨none_, marked⟩ := carried.language
      · exact .inr (.inl (same'.trans same))
      · exact .inr (.inr ⟨same ▸ none_, .inl marked⟩)
    · obtain same' | ⟨-, marked'⟩ := carried.language
      · exact .inr (.inr ⟨none_, marked.imp_left same'.trans⟩)
      · exact .inr (.inr ⟨none_, .inl marked'⟩)

theorem through (h : Kept sources a o) (id : Nat) : Kept sources a (o.through id) :=
  ⟨h.source, h.element, h.language⟩

theorem asResolved (h : Kept sources a o) : Kept sources a o.asResolved :=
  ⟨h.source, h.element, h.language⟩

theorem expose (h : Kept sources a o) : Kept sources a o.expose :=
  ⟨h.source, h.element, h.language.imp_right
    (Or.imp_right fun ⟨none_, marked⟩ => ⟨none_, marked.imp_right fun _ => rfl⟩)⟩

end Origin.Kept

/-- The second element is the first one in other surroundings: a language that it has without them
stays. -/
structure Moved (a b : Element × Option String) : Prop where
  same : b.1 = a.1
  language : ∀ l, a.2 = some l → b.2 = some l

theorem Forest.moved_languages (f : Forest) (around : Option String) :
    List.Forall₂ Moved (f.languages none) (f.languages around) := by
  induction f generalizing around with
  | nil => exact .nil
  | leaf l rest ih => exact ih around
  | element e content rest ihc ihr =>
    rw [languages, languages, Element.langIn, Element.langIn]
    cases e.lang? with
    | some l =>
      exact .cons ⟨rfl, fun _ h => h⟩
        (List.rel_append (List.forall₂_same.mpr fun _ _ => ⟨rfl, fun _ h => h⟩) (ihr around))
    | none =>
      refine .cons ⟨rfl, ?_⟩ (List.rel_append (ihc around) (ihr around))
      rintro l ⟨⟩

/-- What is exposed keeps a language that it has of its own. -/
theorem Origin.Kept.of_moved {sources : Document → Prop} {a b : Element × Option String}
    {o : Origin} (h : Kept sources a o) (moved : Moved a b) : Kept sources b o.expose where
  source := h.source
  element := by
    rw [moved.same]
    exact h.element
  language := by
    obtain inFallback | same | ⟨none_, -⟩ := h.language
    · exact .inl inFallback
    · cases hl : o.lang? with
      | none => exact .inr (.inr ⟨hl, .inr rfl⟩)
      | some l => exact .inr (.inl ((moved.language l (same.trans hl)).trans hl.symm))
    · exact .inr (.inr ⟨none_, .inr rfl⟩)

/-- Of what has come from a fallback no language is said. -/
theorem Origin.Kept.asFallback {sources : Document → Prop} {a b : Element × Option String}
    {o : Origin} (h : Kept sources b o) (moved : Moved a b) : Kept sources a o.asFallback :=
  ⟨h.source, moved.same ▸ h.element, .inl rfl⟩

/-- Relations between lists of the same length compose. -/
theorem forall₂_of_forall₂ {α β γ : Type} {r : α → β → Prop} {p : α → γ → Prop} {q : β → γ → Prop}
    (compose : ∀ a b c, r a b → p a c → q b c) {as : List α} {bs : List β} {cs : List γ}
    (h : List.Forall₂ r as bs) (h' : List.Forall₂ p as cs) : List.Forall₂ q bs cs := by
  induction h generalizing cs with
  | nil =>
    cases h'
    exact .nil
  | cons first _ ih =>
    obtain ⟨c, rest, hc, others, rfl⟩ := List.forall₂_cons_left_iff.mp h'
    exact .cons (compose _ _ _ first hc) (ih others)

/-! ### Traced documents -/

namespace Traced

variable (sources : Document → Prop)

/-- The elements of a document keep their languages in surroundings with the language `around`. -/
def Keeps (around : Option String) (t : Traced) : Prop :=
  List.Forall₂ (Origin.Kept sources) (t.document.content.languages around) t.origins

variable {sources} {t : Traced}

/-- What is known of the origin of an element. -/
theorem Keeps.originAt (h : t.Keeps sources none) {i : Nat} {e : Element}
    (element : t.document.nodes.element? i = some e) :
    (t.originAt i).Kept sources (e, t.document.nodes.lang? i) :=
  originAt_of_forall₂ h element

theorem Keeps.originsAt (h : t.Keeps sources none) (i : Nat) :
    List.Forall₂ (Origin.Kept sources) (t.document.spokenAt i) (t.originsAt i) := by
  rw [Document.spokenAt, Traced.originsAt, forall₂_filterMap_iff, List.forall₂_map_right_iff,
    Document.elementsAt]
  simp only [Document.isSome_spoken?]
  refine List.forall₂_same.mpr fun j hj => ?_
  obtain ⟨e, element⟩ := Option.isSome_iff_exists.mp (List.mem_filter.mp hj).2
  refine ⟨(e, t.document.nodes.lang? j), ?_, h.originAt element⟩
  rw [Document.spoken?, element]
  rfl

theorem keeps_ofSource {d : Document} (source : sources d) : (ofSource d).Keeps sources none := by
  refine Document.forall₂_languages_iff.mpr ?_
  rw [ofSource, List.forall₂_map_right_iff]
  refine List.forall₂_same.mpr fun j hj => ?_
  obtain ⟨e, element⟩ := Option.isSome_iff_exists.mp (List.mem_filter.mp hj).2
  exact ⟨e, element, source, ⟨e, element, rfl, rfl⟩, .inr (.inl rfl)⟩

/-- A text has no elements. -/
theorem keeps_text (base : Option String) (text : String) (around : Option String) :
    Keeps sources around ⟨.ofText base text, []⟩ :=
  List.forall₂_nil_right_iff.mpr (Forest.languages_consLeaf around (.text text) .nil)

theorem keeps_ofSource_text (base : Option String) (text : String) (around : Option String) :
    (ofSource (.ofText base text)).Keeps sources around := by
  have nothing : (Document.ofText base text).elementNumbers = [] := by
    have listed : List.Forall₂ (fun (_ : Element × Option String) (_ : Nat) => True)
        ((Document.ofText base text).content.languages none)
        (Document.ofText base text).elementNumbers := by
      refine Document.forall₂_languages_iff.mpr (List.forall₂_same.mpr fun j hj => ?_)
      obtain ⟨e, element⟩ := Option.isSome_iff_exists.mp (List.mem_filter.mp hj).2
      exact ⟨e, element, trivial⟩
    rw [show (Document.ofText base text).content.languages none = [] from
      Forest.languages_consLeaf none (.text text) .nil] at listed
    exact List.forall₂_nil_left_iff.mp listed
  rw [ofSource, nothing]
  exact keeps_text base text around

theorem Keeps.through {around : Option String} (h : t.Keeps sources around) (id : Nat) :
    (t.mapOrigins (.through id)).Keeps sources around :=
  List.forall₂_map_right_iff.mpr (h.imp fun _ _ kept => kept.through id)

theorem Keeps.asResolved {around : Option String} (h : t.Keeps sources around) :
    (t.mapOrigins .asResolved).Keeps sources around :=
  List.forall₂_map_right_iff.mpr (h.imp fun _ _ kept => kept.asResolved)

theorem Keeps.expose {around : Option String} (h : t.Keeps sources around) :
    (t.mapOrigins .expose).Keeps sources around :=
  List.forall₂_map_right_iff.mpr (h.imp fun _ _ kept => kept.expose)

/-- What is exposed can go anywhere. -/
theorem Keeps.exposed (h : t.Keeps sources none) (around : Option String) :
    (t.mapOrigins .expose).Keeps sources around :=
  List.forall₂_map_right_iff.mpr <| forall₂_of_forall₂ (fun _ _ _ moved kept => kept.of_moved moved)
    (t.document.content.moved_languages around) h

end Traced

/-! ### Sequences -/

/-- Each result of a sequence of computations is what is ensured of its own one. -/
theorem Expanding.ensures_mapM_forall₂ {α β : Type} {f : β → Expanding α} {xs : List β}
    {holds : β → α → Prop} {failed : InclusionError → UriStack → Prop} {s : UriStack}
    (h : ∀ x ∈ xs, ∀ s, (f x).Ensures s (fun a _ => holds x a) failed) :
    (xs.mapM f).Ensures s (fun as _ => List.Forall₂ holds xs as) failed := by
  induction xs generalizing s with
  | nil => exact .nil
  | cons x xs ih =>
    simp only [List.mapM_cons, ensures_bind, ensures_pure]
    refine (h x List.mem_cons_self s).mono (fun a s' ha => ?_) fun _ _ he => he
    refine (ih fun y hy => h y (List.mem_cons_of_mem x hy)).mono ?_ fun _ _ he => he
    exact fun as _ has => .cons ha has

namespace Includer

open Expanding

variable {includer : Includer} {sources : Document → Prop}

theorem fallbackContent_sits (site : IncludeSite) (id : Nat) :
    (fallbackContent site id).Sits site.document id (id + 1) := by
  unfold fallbackContent
  cases h : site.document.subtree? id with
  | none => exact ⟨Nat.lt_succ_self id, fun m hm => absurd hm (Nat.not_lt_zero m)⟩
  | some t => exact Document.sits_of_subtree? h

/-- A traced computation gives documents whose elements keep their languages on their own and in
surroundings with the language `around`. -/
def GivesKept (sources : Document → Prop) (around : Option String) (x : Expanding Traced) : Prop :=
  x.Yields fun t => t.Keeps sources none ∧ t.Keeps sources around

section

variable {trace : Traced → Encounter → Expanding Traced}
  (hh : ∀ t x, t.Keeps sources none → GivesKept sources (placeLang t.document x.id) (trace t x))
  {t : Traced} (keeps : t.Keeps sources none)

include hh keeps

/-- The answers keep their languages in the places where they go; if they are exposed, then
everywhere. -/
theorem ensures_traceAnswers (first : Nat) (f : Forest) (exposing : Encounter → Bool)
    (s : UriStack) :
    (includer.traceAnswers trace t first f exposing).Ensures s
      (fun answers _ => List.Forall₂ (fun x a => a.Keeps sources (placeLang t.document x.id)
          ∧ (exposing x = true → ∀ around, a.Keeps sources around))
        (f.encounters includer.controls first) answers) fun _ _ => True := by
  refine ensures_mapM_forall₂ fun x _ s => ?_
  rw [ensures_bind]
  refine ((hh t x keeps).ensures s).mono (fun a s' ha => ?_) fun _ _ he => he
  rw [ensures_pure]
  split
  · exact ⟨ha.2.expose, fun _ around => ha.1.exposed around⟩
  · next hidden => exact ⟨ha.2, fun exposing => absurd exposing hidden⟩

omit hh

/-- A forest that sits in the document, filled with answers that keep their languages. -/
theorem keeps_filled {parent first : Nat} {f : Forest} (sits : f.Sits t.document parent first)
    {answers : List Traced}
    (answered : List.Forall₂ (fun x a => a.Keeps sources (placeLang t.document x.id))
      (f.encounters includer.controls first) answers) :
    List.Forall₂ (Origin.Kept sources)
      ((f.fill includer.controls (answers.map (·.document))).languages
        (t.document.nodes.lang? parent))
      (f.interleave includer.controls t.originAt first (answers.map (·.origins))) := by
  refine forall₂_filled sits (fun n e l hp => ?_) answered
  obtain ⟨element, -, rfl⟩ := sits.isOf hp
  exact keeps.originAt element

include hh

/-- A walk keeps languages. If the elements at the top have been given languages, it keeps them in
other surroundings too. -/
theorem ensures_traceAll (fixedUp : Bool) (s : UriStack) :
    (includer.traceAll trace fixedUp t).Ensures s
      (fun r _ => r.Keeps sources none ∧ (fixedUp = true → ∀ around : Option String,
        (around.isSome → ∀ e ∈ t.document.content.tops, e.lang?.isSome) → r.Keeps sources around))
      fun _ _ => True := by
  rw [traceAll, ensures_bind]
  refine (ensures_traceAnswers hh keeps 1 t.document.content _ s).mono (fun answers s' h => ?_)
    fun _ _ he => he
  rw [ensures_pure]
  have plain := keeps_filled keeps t.document.sits (h.imp fun _ _ ha => ha.1)
  rw [NodeList.lang?_document] at plain
  refine ⟨plain, fun last around sealed_ => ?_⟩
  cases around with
  | none => exact plain
  | some l =>
    have sealed' := sealed_ rfl
    have paired : List.Forall₂ (fun x (a : Document × List Origin) => ∀ place,
          .replaced x place ∈ t.document.content.pieces includer.controls (some l) 1 →
            List.Forall₂ (Origin.Kept sources) (a.1.content.languages place) a.2)
        (t.document.content.encounters includer.controls 1)
        (answers.map fun a => (a.document, a.origins)) := by
      refine List.forall₂_map_right_iff.mpr (h.imp fun x a ha place hp => ?_)
      -- At the top an answer is exposed; elsewhere the place is within the document.
      obtain inside | ⟨x', same, top⟩ := t.document.sits.mem_pieces_of_sealed sealed' hp
      · obtain rfl : placeLang t.document x.id = place := t.document.sits.isOf inside
        exact ha.1
      · cases same
        refine ha.2 ?_ (some l)
        rw [last, top]
        rfl
    have filled := Forest.forall₂_fill t.originAt (fun n e l' hp => ?_) paired
    · simpa only [List.map_map, Function.comp_def, Traced.Keeps, Includer.filled] using filled
    · obtain inside | ⟨x', same, -⟩ := t.document.sits.mem_pieces_of_sealed sealed' hp
      · obtain ⟨element, -, rfl⟩ := t.document.sits.isOf inside
        exact keeps.originAt element
      · cases same

end

/-! ### Calls -/

section

variable (on : includer.options.fixupXmlLang = true)

include on

theorem keeps_traceFixed (site : IncludeSite) {t : Traced} (keeps : t.Keeps sources none)
    {around : Option String} (outside : around = none ∨ around = placeLang site.document site.id) :
    (includer.traceFixed site t).Keeps sources around :=
  forall₂_of_forall₂ (fun _ _ _ carried kept => kept.of_carried carried)
    ((includer.contextOf site).carried_document on site.element site.attributes.setXmlId t.document
      outside) keeps

variable {trace : Traced → Encounter → Expanding Traced}
  (hh : ∀ t x, t.Keeps sources none → GivesKept sources (placeLang t.document x.id) (trace t x))

include hh

/-- Content that is fixed up and walked for the last time keeps its languages where it goes. -/
theorem ensures_traceAll_fixed (site : IncludeSite) {t : Traced} (keeps : t.Keeps sources none)
    (last : Bool) (s : UriStack) :
    (includer.traceAll trace last (includer.traceFixed site t)).Ensures s
      (fun r _ => r.Keeps sources none
        ∧ (last = true → r.Keeps sources (placeLang site.document site.id))) fun _ _ => True := by
  have fixedUp := keeps_traceFixed on site keeps (.inl rfl)
  refine (ensures_traceAll hh fixedUp last s).mono (fun r s' h => ?_) fun _ _ he => he
  refine ⟨h.1, fun isLast => h.2 isLast _ fun placed => ?_⟩
  exact (includer.contextOf site).isSome_lang?_of_mem_tops on _ _ _ placed

variable (reads : ∀ r d, includer.resolver.readXml r = .ok (.ok d) → sources d)
  (plain : includer.resolver.PlainText)

include reads plain

theorem ensures_traceResource (site : IncludeSite) {t : Traced} (keeps : t.Keeps sources none)
    (parseType : ParseType) (fragment : Option String) (s : UriStack) :
    (includer.traceResource trace site t parseType fragment).Ensures s
      (fun r _ => r.1.Keeps sources none
        ∧ (fragment.isNone = true → r.1.Keeps sources (placeLang site.document site.id)))
      fun _ _ => True := by
  rw [traceResource]
  split
  · rw [ensures_bind, traceText]
    simp only [ensures_bind, ensures_ofReply]
    refine ⟨fun d read => ?_, fun _ _ => trivial⟩
    obtain ⟨base, text, rfl⟩ := plain _ d read
    split
    · exact ⟨Traced.keeps_ofSource_text .., fun _ => Traced.keeps_ofSource_text ..⟩
    · exact ensures_traceAll_fixed on hh site (Traced.keeps_ofSource_text ..) _ s
  split
  · rw [ensures_bind, traceMarkup]
    simp only [ensures_bind, ensures_enter, ensures_ofReply, ensures_modify, ensures_pure]
    refine ⟨fun s' _ => ⟨fun d read => ?_, fun _ _ => trivial⟩, fun _ _ => trivial⟩
    exact ensures_traceAll_fixed on hh site (Traced.keeps_ofSource (reads _ d read)) _ s'
  split
  · trivial
  · next given => exact ⟨keeps, fun isNone => absurd isNone given⟩

variable (carries : includer.schemes.Gives Scheme.Carries)

include carries

theorem givesKept_traceResolve (site : IncludeSite) {t : Traced} (keeps : t.Keeps sources none)
    (parseType : ParseType) :
    GivesKept sources (placeLang site.document site.id)
      (includer.traceResolve trace site t parseType) := by
  refine ⟨fun s => ?_⟩
  rw [traceResolve, ensures_bind]
  refine (ensures_traceResource on hh reads plain site keeps parseType _ s).mono ?_
    fun _ _ he => he
  rintro ⟨d, around⟩ s' ⟨kept, placed⟩
  cases identifier : site.attributes.fragment parseType with
  | none =>
    rw [identifier] at placed
    exact ⟨kept, placed rfl⟩
  | some fragment =>
    dsimp only
    rw [traceNarrow]
    simp only [ensures_bind, ensures_lift]
    refine ⟨fun schemes read => ?_, fun _ _ => trivial⟩
    refine ⟨fun ⟨result, matched⟩ found => ?_, fun _ _ => trivial⟩
    have each := FragmentId.forall_of_read carries (mapError_eq_ok_iff.mp read)
    have origins : List.Forall₂ (Origin.Kept sources) (matched.flatMap d.document.spokenAt)
        (matched.flatMap d.originsAt) :=
      List.rel_flatMap (List.forall₂_same.mpr fun _ _ => rfl) fun i j same => by
        subst same
        exact kept.originsAt i
    have selected : Traced.Keeps sources none ⟨result, matched.flatMap d.originsAt⟩ :=
      forall₂_of_forall₂ (fun _ _ _ carried kept => kept.of_carried carried)
        (carried_of_selectWith on each found) origins
    refine (ensures_traceAll_fixed on hh site selected true s').mono (fun r _ h => ?_)
      fun _ _ he => he
    exact ⟨h.1, h.2 rfl⟩

omit carries reads plain

theorem givesKept_traceFallback (site : IncludeSite) {t : Traced}
    (own : t.document = site.document) (keeps : t.Keeps sources none) (id : Nat) :
    GivesKept sources (placeLang site.document site.id)
      (includer.traceFallback trace site t id) := by
  refine ⟨fun s => ?_⟩
  rw [traceFallback, ensures_bind]
  refine (ensures_traceAnswers hh keeps (id + 1) _ _ s).mono (fun answers s' h => ?_)
    fun _ _ he => he
  rw [ensures_pure]
  have sits := fallbackContent_sits site id
  rw [← own] at sits
  have filled := keeps_filled keeps sits (h.imp fun _ _ ha => ha.1)
  -- Of the filled content only the elements count, since their languages are left open.
  let content := (fallbackContent site id).fill includer.controls (answers.map (·.document))
  have moved := (content.moved_languages (t.document.nodes.lang? id)).flip
  have flagged : (includer.filled t (id + 1) (fallbackContent site id) answers fun f =>
      ⟨site.document.nodes.base? id, f⟩).mapOrigins .asFallback |>.Keeps sources none :=
    List.forall₂_map_right_iff.mpr <| forall₂_of_forall₂
      (fun a b o (moved : Moved b a) (kept : Origin.Kept sources a o) => kept.asFallback moved)
      moved filled
  exact ⟨keeps_traceFixed on site flagged (.inl rfl), keeps_traceFixed on site flagged (.inr rfl)⟩

include reads plain carries

theorem givesKept_traceResolved (site : IncludeSite) {t : Traced} (keeps : t.Keeps sources none)
    (parseType : ParseType) :
    GivesKept sources (placeLang site.document site.id)
      (includer.traceResolved trace site t parseType) :=
  (givesKept_traceResolve on hh reads plain carries site keeps parseType).map fun _ kept =>
    ⟨kept.1.asResolved, kept.2.asResolved⟩

theorem givesKept_traceReplacement (site : IncludeSite) {t : Traced}
    (own : t.document = site.document) (keeps : t.Keeps sources none) (fallback : Option Nat) :
    GivesKept sources (placeLang site.document site.id)
      (includer.traceReplacement trace site t fallback) := by
  have fallsBack := givesKept_traceFallback on hh site own keeps
  unfold traceReplacement
  generalize site.attributes.parseType = parseType
  dsimp only
  split
  · cases fallback with
    | none => exact yields_throw
    | some id => exact fallsBack id
  · have resolved := givesKept_traceResolved on hh reads plain carries site keeps parseType
    refine yields_get.bind fun _ _ => (resolved.tryCatch fun _ => ?_).map fun r kept => ?_
    · cases fallback with
      | none => exact yields_throw
      | some id => exact yields_modify.bind fun _ _ => fallsBack id
    · split
      · exact ⟨Traced.keeps_text .., Traced.keeps_text ..⟩
      · exact kept

theorem givesKept_traceInclude {t : Traced} (keeps : t.Keeps sources none) (id : Nat)
    (e : Element) :
    GivesKept sources (placeLang t.document id) (includer.traceInclude trace t id e) :=
  yields_lift.bind fun a _ => yields_lift.bind fun fallback _ =>
    (givesKept_traceReplacement on hh reads plain carries ⟨t.document, id, e, a⟩ rfl keeps
      fallback).map fun _ kept => ⟨kept.1.through id, kept.2.through id⟩

omit hh

/-- What replaces an include keeps its languages where it goes. -/
theorem givesKept_traceHandle (depth : Nat) (t : Traced) (x : Encounter)
    (keeps : t.Keeps sources none) :
    GivesKept sources (placeLang t.document x.id) (includer.traceHandle depth t x) := by
  induction depth generalizing t x with
  | zero => exact yields_halt
  | succ depth ih =>
    obtain ⟨control, id, e⟩ := x
    cases control with
    | fallback => exact yields_throw
    | inclusion => exact givesKept_traceInclude on ih reads plain carries keeps id e

end

/-! ### A page that is nothing but an include -/

namespace NestedLanguage

def bindings : Bindings := .ofList [("xi", xincludeNamespace)]

/-- An include of `http://h/` and a name. -/
def includeOf (name : String) : Element :=
  ⟨.prefixed "xi" xincludeNamespace "include", .ofList [(.plain "href", "http://h/" ++ name)],
    bindings, none⟩

/-- An English page with an include. -/
def host (name : String) : Document :=
  ⟨none, .element ⟨.inNamespace none "doc", .ofList [(.xml "lang", "en")], bindings, none⟩
    (.element (includeOf name) .nil .nil) .nil⟩

/-- The page with the include of `a` in writing. -/
def writtenHost : String :=
  "<doc xml:lang='en' xmlns:xi='http://www.w3.org/2001/XInclude'>"
    ++ "<xi:include href='http://h/a'/></doc>"

/-- The page `a` is an include of `b`, and `b` is an element without a language. -/
def resources : Table String String :=
  .ofList [("http://h/a", "<xi:include xmlns:xi='http://www.w3.org/2001/XInclude' href='b'/>"),
    ("http://h/b", "<p/>")]

/-- Records languages and nothing else. -/
def reader : Includer := ⟨⟨false, true, false, false⟩, .standard, .standard, .memory resources⟩

/-- The page `b`. -/
def source : Document :=
  ⟨some "http://h/b",
    .element ⟨.inNamespace none "p", .empty, .empty, some "http://h/b"⟩ .nil .nil⟩

/-- The page with the element of `b`, which has these attributes. -/
def result (attributes : Attributes) : Document :=
  ⟨none, .element ⟨.inNamespace none "doc", .ofList [(.xml "lang", "en")], bindings, none⟩
    (.element ⟨.inNamespace none "p", attributes, .empty, some "http://h/b"⟩ .nil .nil) .nil⟩

/-- The origin of `doc` in the result, and that of `p`. -/
def origins (name : String) (p : Origin) : List Origin :=
  [⟨host name, 1, [], false, false, false⟩, p]

theorem expandAll_b : reader.expandAll (reader.handle 1) (host "b") .empty
    = .ok (.ok (result (.ofList [(.xml "lang", "")])), .empty) := by
  have outcome : Expanding.success? (reader.expandAll (reader.handle 1) (host "b")) .empty
      = some (result (.ofList [(.xml "lang", "")]), .empty) := by decide +kernel
  exact Expanding.eq_of_success? outcome

theorem traceExpansion_a : reader.traceExpansion 2 (host "a") .empty
    = .ok (.ok ⟨result .empty, origins "a" ⟨source, 1, [2, 1], false, true, true⟩⟩, .empty) := by
  have outcome : Expanding.success? (reader.traceExpansion 2 (host "a")) .empty
      = some (⟨result .empty, origins "a" ⟨source, 1, [2, 1], false, true, true⟩⟩, .empty) := by
    decide +kernel
  exact Expanding.eq_of_success? outcome

end NestedLanguage

/-! ### Main result -/

open NestedLanguage in
/-- The language of a page leaks into what it includes by way of another page that is nothing but an
include: the element of the page `b` has no language there and is English in the result. -/
theorem language_leaks_through_nested_include :
    Document.read none writtenHost = .ok (host "a")
      ∧ reader.expandWithin 2 (host "a") = .ok (.ok (result .empty))
      ∧ reader.traceExpansion 2 (host "a") .empty
        = .ok (.ok ⟨result .empty, origins "a" ⟨source, 1, [2, 1], false, true, true⟩⟩, .empty)
      ∧ source.nodes.lang? 1 = none ∧ (result .empty).nodes.lang? 2 = some "en" := by
  refine ⟨eq_ok_of_toOption (by decide +kernel), ?_, traceExpansion_a, by decide +kernel,
    by decide +kernel⟩
  have walked : reader.carryOut 2 (.walk (host "a")) .empty = .ok (.ok (result .empty), .empty) :=
    Expanding.eq_of_success? (by decide +kernel)
  rw [expandWithin_eq, show initialStack (host "a") = .empty from rfl, walked]
  rfl

/-- **Included elements keep their languages.** Every element of an expanded document has come from
the document itself or from a resource that was read as markup. In the result it has the language
that it had there, or none had it there and the result says so; except for what has come from a
fallback, and except that an element without a language can take one on if it has come through a
control element at the top of included content. -/
theorem language_kept {options : Options} (on : options.fixupXmlLang = true)
    (controls : ControlRegistry) (resources : Table String String) {depth : Nat} {d r : Document}
    {s s' : UriStack}
    (h : (⟨options, .standard, controls, .memory resources⟩ : Includer).expandAll
        ((⟨options, .standard, controls, .memory resources⟩ : Includer).handle depth) d s
      = .ok (.ok r, s')) :
    ∃ origins,
      (⟨options, .standard, controls, .memory resources⟩ : Includer).traceExpansion depth d s
          = .ok (.ok ⟨r, origins⟩, s')
        ∧ ∀ j e, r.nodes.element? j = some e →
          let o := (⟨r, origins⟩ : Traced).originAt j
          (o.document = d ∨ ∃ request, Resolver.memoryXml resources request = .ok o.document)
            ∧ (∃ e', o.element? = some e' ∧ e.name = e'.name ∧ e.base = e'.base)
            ∧ (o.inFallback = true ∨ r.nodes.lang? j = o.lang?
              ∨ o.lang? = none ∧ (r.nodes.lang? j = some "" ∨ o.exposed = true)) := by
  obtain ⟨origins, traced⟩ := exists_trace _ h
  refine ⟨origins, traced, fun j e element => ?_⟩
  let includer : Includer := ⟨options, .standard, controls, .memory resources⟩
  -- The documents that origins are in: the one that is expanded, and those that are read as markup.
  let sources : Document → Prop :=
    fun d' => d' = d ∨ ∃ request, Resolver.memoryXml resources request = .ok d'
  have fixups : includer.options.fixupXmlLang = true := on
  have reads : ∀ request d', includer.resolver.readXml request = .ok (.ok d') → sources d' :=
    fun request d' read => .inr ⟨request, Except.ok.inj read⟩
  have replaced := givesKept_traceHandle fixups reads (Resolver.plainText_memory resources)
    SchemeRegistry.carries_standard depth
  have walked : (includer.traceExpansion depth d).Ensures s _ _ :=
    ensures_traceAll replaced (Traced.keeps_ofSource (.inl rfl)) false s
  have keeps := ((ensures_iff.mp walked).1 _ _ traced).1
  have kept := Traced.Keeps.originAt keeps element
  exact ⟨kept.source, kept.element, kept.language⟩

open NestedLanguage in
theorem language_kept_on_page :
    reader.expandAll (reader.handle 1) (host "b") .empty
        = .ok (.ok (result (.ofList [(.xml "lang", "")])), .empty)
      ∧ ∃ origins, reader.traceExpansion 1 (host "b") .empty
          = .ok (.ok ⟨result (.ofList [(.xml "lang", "")]), origins⟩, .empty)
        ∧ ∀ j e, (result (.ofList [(.xml "lang", "")])).nodes.element? j = some e →
          let o := (⟨result (.ofList [(.xml "lang", "")]), origins⟩ : Traced).originAt j
          (o.document = host "b" ∨ ∃ request, Resolver.memoryXml resources request = .ok o.document)
            ∧ (∃ e', o.element? = some e' ∧ e.name = e'.name ∧ e.base = e'.base)
            ∧ (o.inFallback = true
              ∨ (result (.ofList [(.xml "lang", "")])).nodes.lang? j = o.lang?
              ∨ o.lang? = none ∧ ((result (.ofList [(.xml "lang", "")])).nodes.lang? j = some ""
                ∨ o.exposed = true)) :=
  ⟨expandAll_b, language_kept rfl .standard resources expandAll_b⟩

end Includer

end Transclusion
