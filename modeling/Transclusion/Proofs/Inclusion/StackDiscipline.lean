import Mathlib.Data.List.Forall2
import Transclusion.Proofs.Inclusion.Calls
/-!
# The discipline of the stack

Every call of an expansion leaves the stack as it was if it succeeds; if it fails, it leaves the
stack that it started from with further URIs on top (`Expanding.Balanced`).  No URI ever occurs
twice.  So all includes of a document start from one and the same stack, and so do their fallbacks:
what has become of one include is nothing that a later one could see.

* `Includer.balanced_carryOut`: every call is balanced, at every depth.
* `Includer.stack_of_makes`: a call starts from the stack of the call that makes it, but for the
  walk of a resource, which starts with the URI of the resource on top.
* `Includer.stack_discipline`: both, for all calls that an expansion gets to.
-/

namespace Transclusion

/-! ### Stacks -/

namespace UriStack

/-- The stack `inner` has come from `outer` by entering further URIs. -/
structure Below (outer inner : UriStack) : Prop where
  suffix : outer.uris <:+ inner.uris
  nodup : outer.uris.Nodup → inner.uris.Nodup

theorem Below.refl (s : UriStack) : s.Below s := ⟨List.suffix_refl _, id⟩

theorem Below.trans {s t u : UriStack} (h : s.Below t) (h' : t.Below u) : s.Below u :=
  ⟨h.suffix.trans h'.suffix, h'.nodup ∘ h.nodup⟩

theorem enter_eq_ok_iff {s s' : UriStack} {uri : String} :
    s.enter uri = .ok s' ↔ uri ∉ s.uris ∧ s' = ⟨uri :: s.uris⟩ := by
  by_cases h : uri ∈ s.uris <;> simp [enter, contains, h, eq_comm]

theorem below_of_enter {s s' : UriStack} {uri : String} (h : s.enter uri = .ok s') :
    s.Below s' := by
  obtain ⟨hnew, rfl⟩ := enter_eq_ok_iff.mp h
  exact ⟨List.suffix_cons uri s.uris, fun hs => List.nodup_cons.mpr ⟨hnew, hs⟩⟩

theorem leave_of_enter {s s' : UriStack} {uri : String} (h : s.enter uri = .ok s') :
    s'.leave = s := by
  obtain ⟨-, rfl⟩ := enter_eq_ok_iff.mp h
  rfl

/-- Cutting a stack down brings back the one that it has come from. -/
theorem Below.truncate {s s' : UriStack} (h : s.Below s') : s'.truncate s.size = s := by
  obtain ⟨entered, he⟩ := h.suffix
  unfold UriStack.truncate size
  rw [← he, List.length_append, Nat.add_sub_cancel, List.drop_left]

end UriStack

/-! ### Balanced computations -/

namespace Expanding

variable {α β : Type}

/-- A success leaves the stack as it was, a failure leaves it with further URIs on top. -/
def Balanced (x : Expanding α) : Prop :=
  ∀ s, x.Ensures s (fun _ s' => s' = s) fun _ s' => s.Below s'

theorem balanced_pure (a : α) : (pure a : Expanding α).Balanced := fun _ => rfl

theorem balanced_throw (e : InclusionError) : (throw e : Expanding α).Balanced :=
  fun s => UriStack.Below.refl s

theorem balanced_halt (halt : Halt) : (Expanding.halt halt : Expanding α).Balanced :=
  fun _ => trivial

theorem balanced_lift (x : Except InclusionError α) : (liftM x : Expanding α).Balanced := by
  intro s
  simp [UriStack.Below.refl]

theorem balanced_ofReply (reply : Reply) : (ofReply reply).Balanced := by
  intro s
  simp [UriStack.Below.refl]

theorem Balanced.bind {x : Expanding β} {f : β → Expanding α} (hx : x.Balanced)
    (hf : ∀ b, (f b).Balanced) : (x >>= f).Balanced := by
  intro s
  rw [ensures_bind]
  refine (hx s).mono ?_ fun _ _ he => he
  rintro b s' rfl
  exact hf b s'

theorem balanced_mapM {f : β → Expanding α} {xs : List β} (hf : ∀ x ∈ xs, (f x).Balanced) :
    (xs.mapM f).Balanced := by
  induction xs with
  | nil => exact balanced_pure []
  | cons x xs ih =>
    rw [List.mapM_cons]
    have hrest := ih fun y hy => hf y (List.mem_cons_of_mem x hy)
    exact (hf x List.mem_cons_self).bind fun a => hrest.bind fun as => balanced_pure (a :: as)

theorem Balanced.eq_of_ok {x : Expanding α} (hx : x.Balanced) {s s' : UriStack} {a : α}
    (h : x s = .ok (.ok a, s')) : s' = s :=
  (ensures_iff.mp (hx s)).1 a s' h

theorem Balanced.below_of_error {x : Expanding α} (hx : x.Balanced) {s s' : UriStack}
    {e : InclusionError} (h : x s = .ok (.error e, s')) : s.Below s' :=
  (ensures_iff.mp (hx s)).2 e s' h

/-- A sequence of balanced computations succeeds if all of them do, from the same stack. -/
theorem mapM_eq_ok_iff {f : β → Expanding α} {xs : List β} (hf : ∀ x ∈ xs, (f x).Balanced)
    {s s' : UriStack} {as : List α} :
    xs.mapM f s = .ok (.ok as, s')
      ↔ s' = s ∧ List.Forall₂ (fun x a => f x s = .ok (.ok a, s)) xs as := by
  induction xs generalizing as s' with
  | nil =>
    rw [List.forall₂_nil_left_iff]
    constructor
    · rintro ⟨⟩
      exact ⟨rfl, rfl⟩
    · rintro ⟨rfl, rfl⟩
      rfl
  | cons x xs ih =>
    have hx := hf x List.mem_cons_self
    have hxs : ∀ rest t, xs.mapM f s = .ok (.ok rest, t)
        ↔ t = s ∧ List.Forall₂ (fun x a => f x s = .ok (.ok a, s)) xs rest :=
      fun rest t => ih fun y hy => hf y (List.mem_cons_of_mem x hy)
    rw [List.mapM_cons, List.forall₂_cons_left_iff]
    constructor
    · intro h
      obtain ⟨a, t, first, next⟩ := bind_apply_eq_ok_iff.mp h
      cases hx.eq_of_ok first
      obtain ⟨rest, t, others, last⟩ := bind_apply_eq_ok_iff.mp next
      obtain ⟨rfl, each⟩ := (hxs rest t).mp others
      cases last
      exact ⟨rfl, a, rest, first, each, rfl⟩
    · rintro ⟨rfl, a, rest, first, each, rfl⟩
      have others := (hxs rest s').mpr ⟨rfl, each⟩
      exact bind_apply_eq_ok_iff.mpr
        ⟨a, s', first, bind_apply_eq_ok_iff.mpr ⟨rest, s', others, rfl⟩⟩

/-- Putting a URI on the stack, and taking it off again after a success. -/
theorem balanced_enter_leave (uri : String) {x : Expanding α} (hx : x.Balanced) :
    (do enter uri; let a ← x; modify (·.leave); return a : Expanding α).Balanced := by
  intro s
  simp only [ensures_bind, ensures_enter, ensures_modify, ensures_pure]
  refine ⟨fun s' hs' => ?_, fun _ _ => UriStack.Below.refl s⟩
  refine (hx s').mono ?_ fun e s'' he => (UriStack.below_of_enter hs').trans he
  rintro a _ rfl
  exact UriStack.leave_of_enter hs'

end Expanding

/-! ### Calls -/

namespace Includer

open Expanding

variable (includer : Includer) {handle : Document → ControlHandler Expanding}

section

variable (hh : ∀ d x, ((handle d).answer x).Balanced)

include hh

theorem balanced_expandAll (d : Document) : (includer.expandAll handle d).Balanced := by
  rw [expandAll_eq]
  exact (balanced_mapM fun x _ => hh d x).bind fun _ => balanced_pure _

theorem balanced_fallback (site : IncludeSite) (id : Nat) :
    (includer.fallback handle site id).Balanced := by
  rw [fallback_eq]
  exact (balanced_mapM fun x _ => hh site.document x).bind fun _ => balanced_pure _

theorem balanced_markup (site : IncludeSite) : (includer.markup handle site).Balanced := by
  have hread : (do
      let resource ← Expanding.ofReply (includer.resolver.readXml (request site))
      includer.expandAll handle (includer.fixed site resource)).Balanced :=
    (balanced_ofReply _).bind fun d => includer.balanced_expandAll hh (includer.fixed site d)
  have h := balanced_enter_leave (request site).target hread
  simpa only [markup, bind_assoc] using h

theorem balanced_text (site : IncludeSite) : (includer.text handle site).Balanced := by
  rw [text]
  refine (balanced_ofReply _).bind fun d => ?_
  split
  · exact balanced_pure d
  · exact includer.balanced_expandAll hh _

theorem balanced_resource (site : IncludeSite) (parseType : ParseType)
    (fragment : Option String) :
    (includer.resource handle site parseType fragment).Balanced := by
  rw [resource]
  split
  · exact (includer.balanced_text hh site).bind fun _ => balanced_pure _
  split
  · exact (includer.balanced_markup hh site).bind fun _ => balanced_pure _
  split
  · exact balanced_throw _
  · exact balanced_pure _

theorem balanced_narrow (site : IncludeSite) (parseType : ParseType) (fragment : String)
    (d : Document) (around : Option AncestorSet) :
    (includer.narrow handle site parseType fragment d around).Balanced :=
  (balanced_lift _).bind fun _ => (balanced_lift _).bind fun _ => includer.balanced_expandAll hh _

theorem balanced_resolve (site : IncludeSite) (parseType : ParseType) :
    (includer.resolve handle site parseType).Balanced := by
  rw [resolve]
  refine (includer.balanced_resource hh site parseType _).bind fun ⟨d, around⟩ => ?_
  cases site.attributes.fragment parseType with
  | none => exact balanced_pure d
  | some fragment => exact includer.balanced_narrow hh site parseType fragment d around

/-- A failure is cut down to the stack that there was before, from which the fallback starts. -/
theorem balanced_replacement (site : IncludeSite) (fallback : Option Nat) :
    (includer.replacement handle site fallback).Balanced := by
  unfold replacement
  dsimp only
  split
  · cases fallback with
    | none => exact balanced_throw _
    | some id => exact includer.balanced_fallback hh site id
  · intro s
    simp only [ensures_bind, ensures_get, ensures_tryCatch, ensures_pure]
    -- The failure has left the stack below, so that cutting down brings it back.
    have resolved := includer.balanced_resolve hh site site.attributes.parseType s
    refine resolved.mono (fun _ _ h => h) fun e s' below => ?_
    cases fallback with
    | none => exact below
    | some id =>
      simp only [ensures_bind, ensures_modify, below.truncate]
      exact includer.balanced_fallback hh site id s

theorem balanced_include (d : Document) (id : Nat) (e : Element) :
    (includer.include_ handle d id e).Balanced := by
  rw [include_]
  refine (balanced_lift _).bind fun attributes => (balanced_lift _).bind fun fallback => ?_
  exact includer.balanced_replacement hh ⟨d, id, e, attributes⟩ fallback

end

theorem balanced_handle (depth : Nat) (d : Document) (x : Encounter) :
    ((includer.handle depth d).answer x).Balanced := by
  induction depth generalizing d x with
  | zero => exact balanced_halt _
  | succ depth ih =>
    obtain ⟨control, id, e⟩ := x
    cases control with
    | fallback => exact balanced_throw _
    | inclusion => exact includer.balanced_include ih d id e

/-- Every call is balanced. -/
theorem balanced_carryOut (depth : Nat) (call : Call) :
    (includer.carryOut depth call).Balanced := by
  have hh := includer.balanced_handle depth
  cases call with
  | walk d => exact includer.balanced_expandAll hh d
  | inclusion d id e => exact includer.balanced_include hh d id e
  | resolution site parseType => exact includer.balanced_resolve hh site parseType
  | fallback site id => exact includer.balanced_fallback hh site id

/-- A call starts from the stack of the call that makes it. Only the walk of a resource that was
read as markup starts with the URI of the resource on top, which was not on the stack before. -/
theorem stack_of_makes {call next : Call} {s s' : UriStack}
    (makes : includer.Makes (call, s) (next, s')) :
    s' = s ∨ ∃ site parseType d, call = .resolution site parseType ∧ parseType ≠ .text
      ∧ includer.resolver.readXml (request site) = .ok (.ok d)
      ∧ next = .walk (includer.fixed site d) ∧ s.enter (request site).target = .ok s' := by
  cases makes with
  | encounter walked place answered =>
    exact .inl ((balanced_mapM fun x _ => includer.balanced_handle _ _ x).eq_of_ok answered)
  | attempt => exact .inl rfl
  | forced => exact .inl rfl
  | failed _ _ _ attempted =>
    exact .inl ((includer.balanced_carryOut _ _).below_of_error attempted).truncate
  | markup notText _ entered read =>
    exact .inr ⟨_, _, _, rfl, notText, read, rfl, entered⟩
  | text => exact .inl rfl
  | selected _ obtained =>
    refine .inl (Balanced.eq_of_ok ?_ obtained)
    exact includer.balanced_resource (includer.balanced_handle _) _ _ _

theorem below_of_makes {call next : Call} {s s' : UriStack}
    (makes : includer.Makes (call, s) (next, s')) : s.Below s' := by
  obtain rfl | ⟨_, _, _, _, _, _, _, entered⟩ := includer.stack_of_makes makes
  · exact UriStack.Below.refl s'
  · exact UriStack.below_of_enter entered

/-- The stack of a call has the initial one below. -/
theorem below_of_reached {d : Document} {call : Call} {s : UriStack}
    (reached : includer.Reached d (call, s)) : (initialStack d).Below s := by
  rw [Reached] at reached
  generalize hp : (call, s) = p at reached
  induction reached generalizing call s with
  | refl =>
    obtain ⟨-, rfl⟩ := Prod.mk.inj hp
    exact UriStack.Below.refl _
  | tail _ makes ih =>
    subst hp
    exact (ih rfl).trans (includer.below_of_makes makes)

theorem nodup_initialStack (d : Document) : (initialStack d).uris.Nodup := by
  rw [initialStack]
  cases d.base <;> simp

/-- **The discipline of the stack**, for every call that an expansion gets to: no URI occurs twice
on the stack that it starts from; its success leaves that stack as it was and its failure leaves it
below; and the includes of a walk as well as the fallback of an include start from the stack that
the walk or the include has started from. -/
theorem stack_discipline (d : Document) {call : Call} {s : UriStack}
    (reached : includer.Reached d (call, s)) :
    s.uris.Nodup
      ∧ (∀ depth content s', includer.carryOut depth call s = .ok (.ok content, s') → s' = s)
      ∧ (∀ depth e s', includer.carryOut depth call s = .ok (.error e, s') →
          s.uris <:+ s'.uris ∧ s'.uris.Nodup)
      ∧ (∀ d' id e s', includer.Makes (call, s) (.inclusion d' id e, s') → s' = s)
      ∧ ∀ site id s', includer.Makes (call, s) (.fallback site id, s') → s' = s := by
  have unique : s.uris.Nodup := (includer.below_of_reached reached).nodup (nodup_initialStack d)
  refine ⟨unique, ?_, ?_, ?_, ?_⟩
  · intro depth content s' h
    exact (includer.balanced_carryOut depth call).eq_of_ok h
  · intro depth e s' h
    have below := (includer.balanced_carryOut depth call).below_of_error h
    exact ⟨below.suffix, below.nodup unique⟩
  · intro d' id e s' makes
    obtain same | ⟨_, _, _, _, _, _, isWalk, _⟩ := includer.stack_of_makes makes
    · exact same
    · cases isWalk
  · intro site id s' makes
    obtain same | ⟨_, _, _, _, _, _, isWalk, _⟩ := includer.stack_of_makes makes
    · exact same
    · cases isWalk

/-! ### Nested pages -/

namespace NestedPages

/-- An include of `href` on the page `base`. -/
def includeOf (base href : String) : Element :=
  ⟨.prefixed "xi" xincludeNamespace "include", .ofList [(.plain "href", href)], .empty,
    some base⟩

/-- A page that includes `b`. -/
def pageA : Document :=
  ⟨some "http://h/a",
    .element (.ofName (.plain "a")) (.element (includeOf "http://h/a" "b") .nil .nil) .nil⟩

/-- A page that includes `c`, with a fallback. -/
def pageB : Document :=
  ⟨some "http://h/b", .element (.ofName (.plain "b"))
    (.element (includeOf "http://h/b" "c")
      (.element (.ofName (.inNamespace (some xincludeNamespace) "fallback")) .nil .nil) .nil) .nil⟩

/-- The include in `pageA`. -/
def siteA : IncludeSite :=
  ⟨pageA, 2, includeOf "http://h/a" "b", ⟨"b", none, none, none, "UTF-8", none, none, "xml"⟩⟩

/-- The include in `pageB`. -/
def siteB : IncludeSite :=
  ⟨pageB, 2, includeOf "http://h/b" "c", ⟨"c", none, none, none, "UTF-8", none, none, "xml"⟩⟩

/-- Reads `pageB` and nothing else. -/
def onlyPageB : Resolver where
  readXml r :=
    .ok (if r.target = "http://h/b" then .ok pageB else .error (.unreadable r.target .notFound))
  readText r := .ok (.error (.unreadable r.target .notFound))

/-- Expands both pages. -/
def reader : Includer := standard ⟨false, false, false, false⟩ onlyPageB

/-- The stack while `pageB` is expanded. -/
def inside : UriStack := ⟨["http://h/b", "http://h/a"]⟩

/-- The stack that the attempt to read `c` leaves. -/
def afterFailure : UriStack := ⟨["http://h/c", "http://h/b", "http://h/a"]⟩

/-- Where the pages stand, and what their includes refer to. -/
theorem uris : initialStack pageA = ⟨["http://h/a"]⟩ ∧ (request siteA).target = "http://h/b"
    ∧ (request siteB).target = "http://h/c" := by
  decide +kernel

theorem reached_pageB : reader.Reached pageA (.walk pageB, inside) := by
  obtain ⟨start, target, -⟩ := uris
  have entered : (initialStack pageA).enter (request siteA).target = .ok inside := by
    rw [start, target]
    exact UriStack.enter_eq_ok_iff.mpr ⟨by decide, rfl⟩
  have read : reader.resolver.readXml (request siteA) = .ok (.ok pageB) := by
    show Except.ok (if _ = _ then _ else _) = _
    rw [target, if_pos rfl]
  have outer : reader.Makes (.walk pageA, initialStack pageA)
      (.inclusion pageA 2 siteA.element, initialStack pageA) := .first reader rfl rfl
  have attempt : reader.Makes (.inclusion pageA 2 siteA.element, initialStack pageA)
      (.resolution siteA .xml, initialStack pageA) := .attempt rfl rfl nofun
  have walk : reader.Makes (.resolution siteA .xml, initialStack pageA)
      (.walk (reader.fixed siteA pageB), inside) := .markup (by decide) (by decide) entered read
  exact .tail (.tail (.single outer) attempt) walk

theorem attempt_siteB : reader.carryOut 0 (.resolution siteB .xml) inside
    = .ok (.error (.unreadable "http://h/c" .notFound), afterFailure) := by
  obtain ⟨-, -, target⟩ := uris
  have entered : inside.enter (request siteB).target = .ok afterFailure := by
    rw [target]
    exact UriStack.enter_eq_ok_iff.mpr ⟨by decide, rfl⟩
  have unread : onlyPageB.readXml (request siteB)
      = .ok (.error (.unreadable "http://h/c" .notFound)) := by
    show Except.ok (if _ = _ then _ else _) = _
    rw [target, if_neg (by decide)]
  have marked : reader.markup (reader.handle 0) siteB inside
      = .ok (.error (.unreadable "http://h/c" .notFound), afterFailure) := by
    rw [markup, Expanding.bind_apply, Expanding.enter_apply, entered]
    show ((Expanding.ofReply (onlyPageB.readXml (request siteB)) >>= _) _) = _
    rw [Expanding.bind_apply, unread]
    rfl
  show reader.resolve _ _ _ _ = _
  rw [resolve, Expanding.bind_apply, resource, if_neg (by decide), if_pos (by decide),
    Expanding.bind_apply, marked]

theorem reached_fallback : reader.Reached pageA (.fallback siteB 3, inside) := by
  have inner : reader.Makes (.walk pageB, inside) (.inclusion pageB 2 siteB.element, inside) :=
    .first reader rfl rfl
  have failed : reader.Makes (.inclusion pageB 2 siteB.element, inside)
      (.fallback siteB 3, afterFailure.truncate inside.size) :=
    .failed rfl rfl (by decide) attempt_siteB
  exact (reached_pageB.tail inner).tail failed

end NestedPages

open NestedPages in
/-- The fallback of an include on a page inside of another one, after the page that it refers to
could not be read. -/
theorem stack_discipline_nested_pages :
    reader.Reached pageA (.fallback siteB 3, inside) ∧ inside.uris.Nodup
      ∧ ∀ depth content s', reader.carryOut depth (.fallback siteB 3) inside
          = .ok (.ok content, s') → s' = inside := by
  have discipline := reader.stack_discipline pageA reached_fallback
  exact ⟨reached_fallback, discipline.1, discipline.2.1⟩

end Includer

end Transclusion
