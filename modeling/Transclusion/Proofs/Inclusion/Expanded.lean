import Transclusion.Files.Resolver
import Transclusion.Fragment.Registry
import Transclusion.Proofs.Inclusion.Calls
import Transclusion.Proofs.Markup.Merged
import Transclusion.Proofs.Markup.Names
/-!
# Expanded documents

What an expansion returns has no control element in it and no texts that could be merged
(`Forest.Expanded`).  A replacement is put into a document without being looked at again, so this
must hold of every replacement, in whichever way it has come about; it does because all content that
a call returns has been walked, except for texts.

* `Includer.givesExpanded_carryOut`: every call that succeeds gives an expanded document.
* `Includer.expandWithin_of_expanded`: an expanded document is its own expansion.
-/

namespace Transclusion

/-! ### Expanded forests -/

namespace Forest

variable {controls : ControlRegistry}

/-- There is no control element in a forest. -/
def Free (controls : ControlRegistry) (f : Forest) : Prop :=
  ∀ name ∈ f.names, controls.get? name = none

/-- A forest as expansions leave it. -/
structure Expanded (controls : ControlRegistry) (f : Forest) : Prop where
  merged : f.isMerged
  free : f.Free controls

theorem free_element {e : Element} {content rest : Forest} :
    (element e content rest).Free controls
      ↔ controls.get? e.name = none ∧ content.Free controls ∧ rest.Free controls := by
  simp only [Free, names_element, List.forall_mem_cons, List.forall_mem_append]

theorem expanded_nil : nil.Expanded controls := ⟨rfl, nofun⟩

theorem expanded_element {e : Element} {content rest : Forest} :
    (element e content rest).Expanded controls
      ↔ controls.get? e.name = none ∧ content.Expanded controls ∧ rest.Expanded controls := by
  constructor
  · rintro ⟨merged, free⟩
    obtain ⟨hcontent, hrest⟩ := isMerged_element.mp merged
    obtain ⟨hname, hfree, hfree'⟩ := free_element.mp free
    exact ⟨hname, ⟨hcontent, hfree⟩, ⟨hrest, hfree'⟩⟩
  · rintro ⟨hname, hcontent, hrest⟩
    exact ⟨isMerged_element.mpr ⟨hcontent.merged, hrest.merged⟩,
      free_element.mpr ⟨hname, hcontent.free, hrest.free⟩⟩

theorem Expanded.consLeaf {f : Forest} (h : f.Expanded controls) (l : Leaf) :
    (consLeaf l f).Expanded controls :=
  ⟨isMerged_consLeaf l h.merged, by
    rw [Free, names_consLeaf]
    exact h.free⟩

theorem Expanded.append {f g : Forest} (hf : f.Expanded controls) (hg : g.Expanded controls) :
    (f.append g).Expanded controls := by
  refine ⟨isMerged_append hf.merged hg.merged, ?_⟩
  rw [Free, names_append]
  exact List.forall_mem_append.mpr ⟨hf.free, hg.free⟩

/-- Filling in expanded answers makes any forest an expanded one. -/
theorem expanded_fill (f : Forest) {answers : List Document}
    (h : ∀ a ∈ answers, a.content.Expanded controls) :
    (f.fill controls answers).Expanded controls := by
  induction f generalizing answers with
  | nil => exact expanded_nil
  | leaf l rest ih => exact (ih h).consLeaf l
  | element e content rest ihc ihr =>
    rw [fill]
    split
    · have hrest := ihr fun a ha => h a (List.mem_of_mem_tail ha)
      refine Expanded.append ?_ hrest
      cases answers with
      | nil => exact expanded_nil
      | cons a _ => exact h a List.mem_cons_self
    · next hname =>
      -- No control element, so that it stays and the answers go inside it and behind it.
      refine expanded_element.mpr ⟨hname, ihc fun a ha => ?_, ihr fun a ha => ?_⟩
      · exact h a (List.mem_of_mem_take ha)
      · exact h a (List.mem_of_mem_drop ha)

/-- A walk of a forest without control elements asks for nothing. -/
theorem Free.encounters {f : Forest} (h : f.Free controls) (first : Nat) :
    f.encounters controls first = [] := by
  induction f generalizing first with
  | nil => rfl
  | leaf l rest ih => exact ih h (first + 1)
  | element e content rest ihc ihr =>
    obtain ⟨hname, hcontent, hrest⟩ := free_element.mp h
    simp [Forest.encounters, hname, ihc hcontent, ihr hrest]

theorem Expanded.fill {f : Forest} (h : f.Expanded controls) (answers : List Document) :
    f.fill controls answers = f := by
  induction f generalizing answers with
  | nil => rfl
  | leaf l rest ih =>
    have hrest : rest.Expanded controls := ⟨isMerged_rest h.merged, h.free⟩
    rw [Forest.fill, ih hrest, consLeaf_of_isMerged h.merged]
  | element e content rest ihc ihr =>
    obtain ⟨hname, hcontent, hrest⟩ := expanded_element.mp h
    simp [Forest.fill, hname, ihc hcontent, ihr hrest]

end Forest

theorem Document.expanded_ofText (controls : ControlRegistry) (base : Option String)
    (text : String) : (Document.ofText base text).content.Expanded controls :=
  ⟨Document.isMerged_ofText base text, by
    rw [Forest.Free, Document.names_ofText]
    exact nofun⟩

/-- What is read as text is a single text, or nothing. -/
def Resolver.PlainText (resolver : Resolver) : Prop :=
  ∀ r d, resolver.readText r = .ok (.ok d) → ∃ base text, d = .ofText base text

theorem Resolver.plainText_memory (resources : Table String String) :
    (memory resources).PlainText := by
  intro r d h
  simp only [memory, Except.ok.injEq] at h
  rw [memoryText] at h
  split at h
  · cases h
    exact ⟨_, _, rfl⟩
  · obtain ⟨content, _, h⟩ := bind_eq_ok_iff.mp h
    cases h
    exact ⟨_, _, rfl⟩

theorem Resolver.plainText_files (system : FileSystem) : (files system).PlainText := by
  intro r d h
  change fileText system r = Except.ok (Except.ok d) at h
  rw [fileText] at h
  split at h
  · split at h
    · obtain ⟨found, _, h⟩ := bind_eq_ok_ok_iff.mp h
      cases h
      exact ⟨_, _, rfl⟩
    · cases h
      exact ⟨_, _, rfl⟩
  · obtain ⟨bytes, _, h⟩ := bind_eq_ok_ok_iff.mp h
    obtain ⟨text, _, h⟩ := bind_eq_ok_ok_iff.mp h
    cases h
    exact ⟨_, _, rfl⟩

/-! ### Calls -/

namespace Includer

open Expanding

variable (includer : Includer)

theorem expanded_fixed (site : IncludeSite) {d : Document}
    (h : d.content.Expanded includer.controls) :
    (includer.fixed site d).content.Expanded includer.controls := by
  refine ⟨Forest.isMerged_mapTop _ h.merged, ?_⟩
  unfold Forest.Free fixed
  rw [FixupContext.names_document]
  exact h.free

/-- Every success of a computation is an expanded document. -/
def GivesExpanded (x : Expanding Document) : Prop :=
  ∀ s, x.Ensures s (fun d _ => d.content.Expanded includer.controls) fun _ _ => True

theorem givesExpanded_throw (e : InclusionError) : includer.GivesExpanded (throw e) :=
  fun _ => trivial

theorem givesExpanded_bind {α : Type} {x : Expanding α} {f : α → Expanding Document}
    (h : ∀ a, includer.GivesExpanded (f a)) : includer.GivesExpanded (x >>= f) := by
  intro s
  rw [ensures_bind]
  exact ensures_iff.mpr ⟨fun a s' _ => h a s', fun _ _ _ => trivial⟩

section

variable {handle : Document → ControlHandler Expanding}
  (hh : ∀ d x, includer.GivesExpanded ((handle d).answer x))

include hh

/-- A forest filled with the answers to its encounters is expanded. -/
theorem givesExpanded_walk (d : Document) (xs : List Encounter) (f : Forest)
    (finish : Forest → Document)
    (hfinish : ∀ g, g.Expanded includer.controls → (finish g).content.Expanded includer.controls) :
    includer.GivesExpanded (xs.mapM (handle d).answer >>= fun answers =>
      pure (finish (f.fill includer.controls answers))) := by
  intro s
  rw [ensures_bind]
  have answered : (xs.mapM (handle d).answer).Ensures s
      (fun answers _ => (∀ a ∈ answers, a.content.Expanded includer.controls) ∧ True)
      fun _ _ => True := by
    refine ensures_mapM trivial fun x _ s _ => ?_
    exact (hh d x s).mono (fun _ _ ha => ⟨ha, trivial⟩) fun _ _ he => he
  refine answered.mono (fun answers _ ha => ?_) fun _ _ he => he
  exact hfinish _ (Forest.expanded_fill f ha.1)

theorem givesExpanded_expandAll (d : Document) :
    includer.GivesExpanded (includer.expandAll handle d) := by
  rw [expandAll_eq]
  exact includer.givesExpanded_walk hh d _ d.content (fun g => ⟨d.base, g⟩) fun _ h => h

theorem givesExpanded_fallback (site : IncludeSite) (id : Nat) :
    includer.GivesExpanded (includer.fallback handle site id) := by
  rw [fallback_eq]
  exact includer.givesExpanded_walk hh site.document _ (fallbackContent site id)
    (fun g => includer.fixed site ⟨site.document.nodes.base? id, g⟩)
    fun _ h => includer.expanded_fixed site h

theorem givesExpanded_markup (site : IncludeSite) :
    includer.GivesExpanded (includer.markup handle site) := by
  rw [markup]
  refine includer.givesExpanded_bind fun _ => includer.givesExpanded_bind fun resource => ?_
  intro s
  simp only [ensures_bind, ensures_modify, ensures_pure]
  exact includer.givesExpanded_expandAll hh _ s

theorem givesExpanded_text (plain : includer.resolver.PlainText) (site : IncludeSite) :
    includer.GivesExpanded (includer.text handle site) := by
  intro s
  rw [text]
  simp only [ensures_bind, ensures_ofReply]
  refine ⟨fun d read => ?_, fun _ _ => trivial⟩
  split
  · obtain ⟨base, text, rfl⟩ := plain _ d read
    exact Document.expanded_ofText _ base text
  · exact includer.givesExpanded_expandAll hh _ s

/-- What an include refers to is expanded, unless it is the document with the include itself. -/
theorem ensures_resource (plain : includer.resolver.PlainText) (site : IncludeSite)
    (parseType : ParseType) (fragment : Option String) (s : UriStack) :
    (includer.resource handle site parseType fragment).Ensures s
      (fun r _ => r.1.content.Expanded includer.controls
        ∨ fragment.isSome ∧ parseType ≠ .text ∧ site.attributes.href = ""
          ∧ r = (site.document, some (.ofInclude site.document.nodes site.id)))
      fun _ _ => True := by
  rw [resource]
  split
  · rw [ensures_bind]
    exact (includer.givesExpanded_text hh plain site s).mono (fun _ _ h => .inl h) fun _ _ h => h
  split
  · rw [ensures_bind]
    exact (includer.givesExpanded_markup hh site s).mono (fun _ _ h => .inl h) fun _ _ h => h
  split
  · trivial
  · next notText own given =>
    refine .inr ⟨?_, notText, not_not.mp own, rfl⟩
    cases fragment with
    | none => exact absurd rfl given
    | some _ => rfl

theorem givesExpanded_resolve (plain : includer.resolver.PlainText) (site : IncludeSite)
    (parseType : ParseType) : includer.GivesExpanded (includer.resolve handle site parseType) := by
  intro s
  rw [resolve, ensures_bind]
  refine (includer.ensures_resource hh plain site parseType _ s).mono ?_ fun _ _ h => h
  rintro ⟨d, around⟩ s' h
  cases hfragment : site.attributes.fragment parseType with
  | none =>
    obtain expanded | ⟨given, -⟩ := h
    · exact expanded
    · rw [hfragment] at given
      cases given
  | some fragment =>
    exact includer.givesExpanded_bind
      (fun _ => includer.givesExpanded_bind fun _ => includer.givesExpanded_expandAll hh _) s'

theorem givesExpanded_replacement (plain : includer.resolver.PlainText) (site : IncludeSite)
    (fallback : Option Nat) :
    includer.GivesExpanded (includer.replacement handle site fallback) := by
  unfold replacement
  dsimp only
  split
  · cases fallback with
    | none => exact includer.givesExpanded_throw _
    | some id => exact includer.givesExpanded_fallback hh site id
  · refine includer.givesExpanded_bind fun before => ?_
    intro s
    rw [ensures_bind, ensures_tryCatch]
    -- A trimmed text is a single text again.
    have returned : ∀ d : Document, d.content.Expanded includer.controls →
        (if site.attributes.parseType = .text && includer.options.trimText then trimmed d
          else d).content.Expanded includer.controls := by
      intro d h
      split
      · exact Document.expanded_ofText _ _ _
      · exact h
    refine (includer.givesExpanded_resolve hh plain site _ s).mono (fun d _ h => returned d h) ?_
    intro e s' _
    cases fallback with
    | none => trivial
    | some id =>
      simp only [ensures_bind, ensures_modify]
      exact (includer.givesExpanded_fallback hh site id _).mono (fun d _ h => returned d h)
        fun _ _ h => h

theorem givesExpanded_include (plain : includer.resolver.PlainText) (d : Document) (id : Nat)
    (e : Element) : includer.GivesExpanded (includer.include_ handle d id e) :=
  includer.givesExpanded_bind fun _ => includer.givesExpanded_bind fun _ =>
    includer.givesExpanded_replacement hh plain _ _

end

theorem givesExpanded_handle (plain : includer.resolver.PlainText) (depth : Nat) (d : Document)
    (x : Encounter) : includer.GivesExpanded ((includer.handle depth d).answer x) := by
  induction depth generalizing d x with
  | zero => exact fun _ => trivial
  | succ depth ih =>
    obtain ⟨control, id, e⟩ := x
    cases control with
    | fallback => exact includer.givesExpanded_throw _
    | inclusion => exact includer.givesExpanded_include ih plain d id e

/-- Every call that succeeds gives an expanded document. -/
theorem givesExpanded_carryOut (plain : includer.resolver.PlainText) (depth : Nat) (call : Call) :
    includer.GivesExpanded (includer.carryOut depth call) := by
  have hh := includer.givesExpanded_handle plain depth
  cases call with
  | walk d => exact includer.givesExpanded_expandAll hh d
  | inclusion d id e => exact includer.givesExpanded_include hh plain d id e
  | resolution site parseType => exact includer.givesExpanded_resolve hh plain site parseType
  | fallback site id => exact includer.givesExpanded_fallback hh site id

/-! ### Whole expansions -/

/-- What an expansion returns is expanded. -/
theorem expanded_of_expandWithin (plain : includer.resolver.PlainText) {depth : Nat}
    {d e : Document} (h : includer.expandWithin depth d = .ok (.ok e)) :
    e.content.Expanded includer.controls := by
  obtain ⟨s, hs⟩ := includer.carried_of_expandWithin h
  exact (ensures_iff.mp (includer.givesExpanded_carryOut plain depth (.walk d) _)).1 e s hs

/-- An expanded document is its own expansion. -/
theorem expandWithin_of_expanded {d : Document} (h : d.content.Expanded includer.controls)
    (depth : Nat) : includer.expandWithin depth d = .ok (.ok d) := by
  rw [expandWithin_eq]
  show ((includer.expandAll (includer.handle depth) d) (initialStack d)).map (·.1) = _
  rw [expandAll_eq, h.free.encounters]
  show Except.ok (Except.ok (⟨d.base, d.content.fill includer.controls []⟩ : Document)) = _
  rw [h.fill]

end Includer

/-! ### Documents without control elements -/

/-- There is an `xi:include` or an `xi:fallback` in a document, at any depth. -/
def Document.HasControl (d : Document) : Prop :=
  ∃ i e, d.nodes.element? i = some e
    ∧ (e.name.isNamed (some xincludeNamespace) "include"
      ∨ e.name.isNamed (some xincludeNamespace) "fallback")

theorem ControlRegistry.get?_standard_eq_none_iff {name : QName} :
    standard.get? name = none
      ↔ ¬ (name.isNamed (some xincludeNamespace) "include"
        ∨ name.isNamed (some xincludeNamespace) "fallback") := by
  have built : standard
      = (Table.empty.insert (.inNamespace (some xincludeNamespace) "include") .inclusion).insert
          (.inNamespace (some xincludeNamespace) "fallback") .fallback := rfl
  have named : ∀ localName,
      Keyed.identity (QName.inNamespace (some xincludeNamespace) localName) = Keyed.identity name
        ↔ name.isNamed (some xincludeNamespace) localName := by
    intro localName
    show (some xincludeNamespace, localName) = (name.nsUri, name.localName) ↔ _
    rw [Prod.mk.injEq, QName.isNamed, Bool.and_eq_true, decide_eq_true_iff, decide_eq_true_iff]
    exact and_congr eq_comm eq_comm
  rw [built, Table.get?_insert, Table.get?_insert,
    if_congr (named _) rfl (if_congr (named _) rfl rfl)]
  by_cases isFallback : name.isNamed (some xincludeNamespace) "fallback" <;>
    by_cases isInclude : name.isNamed (some xincludeNamespace) "include" <;>
      simp [isFallback, isInclude]

theorem Document.free_iff_not_hasControl {d : Document} :
    d.content.Free .standard ↔ ¬ d.HasControl := by
  constructor
  · rintro free ⟨i, e, he, control⟩
    have hname := free e.name (Document.mem_names_iff.mpr ⟨i, e, he, rfl⟩)
    exact ControlRegistry.get?_standard_eq_none_iff.mp hname control
  · intro none_ name hname
    obtain ⟨i, e, he, rfl⟩ := Document.mem_names_iff.mp hname
    exact ControlRegistry.get?_standard_eq_none_iff.mpr fun control => none_ ⟨i, e, he, control⟩

namespace Includer

/-! ### A page with a fallback -/

namespace FallbackPage

/-- An include that refers to its own page, with a text as its fallback. -/
def page : Document :=
  ⟨none, .element (.ofName (.plain "a"))
    (.element (.ofName (.inNamespace (some xincludeNamespace) "include"))
      (.element (.ofName (.inNamespace (some xincludeNamespace) "fallback"))
        (.leaf (.text "b") .nil) .nil) .nil) .nil⟩

/-- The page with the text in place of the include. -/
def result : Document :=
  ⟨none, .element (.ofName (.plain "a")) (.leaf (.text "b") .nil) .nil⟩

/-- Expands pages when there is nothing to be read. -/
def reader : Includer := ⟨⟨true, true, true, false⟩, .standard, .standard, .memory .empty⟩

theorem expandWithin_page : reader.expandWithin 1 page = .ok (.ok result) := rfl

theorem produced_result : result.Produced :=
  .built (.closeElement (.addText "b" (.openElement (.ofName (.plain "a")) (.start none))) rfl) rfl

theorem not_hasControl_result : ¬ result.HasControl :=
  Document.free_iff_not_hasControl.mp (List.forall_mem_singleton.mpr rfl)

end FallbackPage

/-! ### Main results -/

/-- **No control element survives an expansion**, whichever schemes there are and whatever there is
to be read. -/
theorem no_control_survives (options : Options) (schemes : SchemeRegistry)
    (resources : Table String String) {depth : Nat} {d e : Document}
    (h : (⟨options, schemes, .standard, .memory resources⟩ : Includer).expandWithin depth d
      = .ok (.ok e)) : ¬ e.HasControl := by
  have expanded := expanded_of_expandWithin _ (Resolver.plainText_memory resources) h
  exact Document.free_iff_not_hasControl.mp expanded.free

open FallbackPage in
theorem no_control_survives_on_page :
    reader.expandWithin 1 page = .ok (.ok result) ∧ ¬ result.HasControl :=
  ⟨expandWithin_page, no_control_survives _ _ _ expandWithin_page⟩

/-- **Expansion is the identity on documents without includes**, for every document that can be come
by.  So it is idempotent, provided that what is read as text is a single text, which holds of memory
and of files (`Resolver.plainText_memory`, `Resolver.plainText_files`). -/
theorem expandWithin_identity_idempotent (options : Options) (schemes : SchemeRegistry)
    (resolver : Resolver) :
    (∀ depth d, d.Produced → ¬ d.HasControl →
        (⟨options, schemes, .standard, resolver⟩ : Includer).expandWithin depth d = .ok (.ok d))
      ∧ (resolver.PlainText → ∀ depth depth' d e,
          (⟨options, schemes, .standard, resolver⟩ : Includer).expandWithin depth d = .ok (.ok e) →
          (⟨options, schemes, .standard, resolver⟩ : Includer).expandWithin depth' e
            = .ok (.ok e)) := by
  constructor
  · intro depth d produced none_
    have expanded : d.content.Expanded .standard :=
      ⟨produced.isMerged, Document.free_iff_not_hasControl.mpr none_⟩
    exact expandWithin_of_expanded _ expanded depth
  · intro plain depth depth' d e h
    exact expandWithin_of_expanded _ (expanded_of_expandWithin _ plain h) depth'

open FallbackPage in
theorem expandWithin_identity_idempotent_on_page :
    reader.expandWithin 0 result = .ok (.ok result)
      ∧ reader.expandWithin 1 result = .ok (.ok result) := by
  have both := expandWithin_identity_idempotent ⟨true, true, true, false⟩ .standard (.memory .empty)
  exact ⟨both.1 0 result produced_result not_hasControl_result,
    both.2 (Resolver.plainText_memory .empty) 1 1 page result expandWithin_page⟩

end Includer

end Transclusion
