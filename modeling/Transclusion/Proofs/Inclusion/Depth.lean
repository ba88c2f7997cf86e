import Transclusion.Proofs.Inclusion.Calls
/-!
# Depth

With more depth a call has the outcome that it had with less, if it had one
(`Includer.deepening_carryOut`); what it lacks at a depth is an outcome, never another one.  So a
call either has an outcome from some depth on, or runs out of every depth (`Expanding.Endless`).

This is shown for computations given at every depth, `x : Nat → Expanding α`, one rule for each way
of putting them together.  For the endless ones the rules say which part it is that never ends:

* `Expanding.exists_endless_of_bind`, `Expanding.exists_endless_of_tryCatch`: the first part, or
  what follows its outcome.
* `Expanding.exists_endless_of_mapM`: one of a sequence, those before it having succeeded.
-/

namespace Transclusion

namespace Expanding

variable {α β : Type}

/-- A computation has run out of depth. -/
def OutOfDepth (x : Expanding α) (s : UriStack) : Prop := x s = .error .tooDeep

/-- Where `x` has not run out of depth it has an outcome, and `y` has the same. -/
def Approximates (x y : Expanding α) : Prop :=
  ∀ s, x.OutOfDepth s ∨ ∃ outcome, x s = .ok outcome ∧ y s = .ok outcome

/-- More depth keeps the outcomes that there are. -/
def Deepening (x : Nat → Expanding α) : Prop := ∀ m n, m ≤ n → (x m).Approximates (x n)

/-- No depth is enough. -/
def Endless (x : Nat → Expanding α) (s : UriStack) : Prop := ∀ n, (x n).OutOfDepth s

/-! ### Running out of depth -/

theorem outOfDepth_bind {x : Expanding β} {f : β → Expanding α} {s : UriStack} :
    (x >>= f).OutOfDepth s
      ↔ x.OutOfDepth s ∨ ∃ b s', x s = .ok (.ok b, s') ∧ (f b).OutOfDepth s' := by
  unfold OutOfDepth
  rw [bind_apply]
  rcases x s with halt | ⟨e | b, s'⟩
  · simp
  · simp
  · constructor
    · intro h
      exact .inr ⟨b, s', rfl, h⟩
    · rintro (deep | ⟨_, _, same, h⟩)
      · cases deep
      · cases same
        exact h

theorem outOfDepth_tryCatch {x : Expanding α} {f : InclusionError → Expanding α} {s : UriStack} :
    (tryCatch x f).OutOfDepth s
      ↔ x.OutOfDepth s ∨ ∃ e s', x s = .ok (.error e, s') ∧ (f e).OutOfDepth s' := by
  unfold OutOfDepth
  rw [tryCatch_apply]
  rcases x s with halt | ⟨e | a, s'⟩
  · simp
  · constructor
    · intro h
      exact .inr ⟨e, s', rfl, h⟩
    · rintro (deep | ⟨_, _, same, h⟩)
      · cases deep
      · cases same
        exact h
  · simp

theorem not_outOfDepth {x : Expanding α} {s : UriStack}
    {outcome : Except InclusionError α × UriStack} (h : x s = .ok outcome) : ¬ x.OutOfDepth s := by
  rw [OutOfDepth, h]
  nofun

theorem Approximates.eq_of_ok {x y : Expanding α} (h : x.Approximates y) {s : UriStack}
    {outcome : Except InclusionError α × UriStack} (hx : x s = .ok outcome) :
    y s = .ok outcome := by
  obtain deep | ⟨outcome', hx', hy⟩ := h s
  · exact absurd deep (not_outOfDepth hx)
  · rw [hx] at hx'
    cases hx'
    exact hy

theorem Approximates.outOfDepth {x y : Expanding α} (h : x.Approximates y) {s : UriStack}
    (hy : y.OutOfDepth s) : x.OutOfDepth s := by
  obtain deep | ⟨outcome, -, hy'⟩ := h s
  · exact deep
  · exact absurd hy (not_outOfDepth hy')

/-! ### Approximation -/

/-- What has an outcome without regard to depth. -/
theorem approximates_self {x : Expanding α} (h : ∀ s, ∃ outcome, x s = .ok outcome) :
    x.Approximates x := by
  intro s
  obtain ⟨outcome, hx⟩ := h s
  exact .inr ⟨outcome, hx, hx⟩

theorem approximates_pure (a : α) : (pure a : Expanding α).Approximates (pure a) :=
  approximates_self fun s => ⟨(.ok a, s), rfl⟩

theorem approximates_throw (e : InclusionError) :
    (throw e : Expanding α).Approximates (throw e) :=
  approximates_self fun s => ⟨(.error e, s), rfl⟩

theorem approximates_lift (x : Except InclusionError α) :
    (liftM x : Expanding α).Approximates (liftM x) :=
  approximates_self fun s => ⟨(x, s), rfl⟩

theorem approximates_get : (get : Expanding UriStack).Approximates get :=
  approximates_self fun s => ⟨(.ok s, s), rfl⟩

theorem approximates_modify (f : UriStack → UriStack) :
    (modify f : Expanding Unit).Approximates (modify f) :=
  approximates_self fun s => ⟨(.ok (), f s), rfl⟩

theorem approximates_enter (uri : String) : (enter uri).Approximates (enter uri) := by
  refine approximates_self fun s => ?_
  rw [enter_apply]
  rcases s.enter uri with e | s' <;> exact ⟨_, rfl⟩

theorem approximates_ofReply {reply : Reply} (h : ∃ answer, reply = .ok answer) :
    (ofReply reply).Approximates (ofReply reply) := by
  obtain ⟨answer, rfl⟩ := h
  exact approximates_self fun s => ⟨(answer, s), rfl⟩

theorem Approximates.bind {x y : Expanding β} {f g : β → Expanding α} (hx : x.Approximates y)
    (hf : ∀ b, (f b).Approximates (g b)) : (x >>= f).Approximates (y >>= g) := by
  intro s
  obtain deep | ⟨⟨e | b, s'⟩, hxs, hys⟩ := hx s
  · exact .inl (outOfDepth_bind.mpr (.inl deep))
  · exact .inr ⟨(.error e, s'), by rw [bind_apply, hxs], by rw [bind_apply, hys]⟩
  · rw [OutOfDepth]
    rw [bind_apply, bind_apply, hxs, hys]
    exact hf b s'

theorem Approximates.tryCatch {x y : Expanding α} {f g : InclusionError → Expanding α}
    (hx : x.Approximates y) (hf : ∀ e, (f e).Approximates (g e)) :
    (tryCatch x f).Approximates (tryCatch y g) := by
  intro s
  obtain deep | ⟨⟨e | a, s'⟩, hxs, hys⟩ := hx s
  · exact .inl (outOfDepth_tryCatch.mpr (.inl deep))
  · rw [OutOfDepth]
    rw [tryCatch_apply, tryCatch_apply, hxs, hys]
    exact hf e s'
  · exact .inr ⟨(.ok a, s'), by rw [tryCatch_apply, hxs], by rw [tryCatch_apply, hys]⟩

theorem approximates_mapM {f g : β → Expanding α} {xs : List β}
    (hf : ∀ b ∈ xs, (f b).Approximates (g b)) : (xs.mapM f).Approximates (xs.mapM g) := by
  induction xs with
  | nil => exact approximates_pure []
  | cons b xs ih =>
    rw [List.mapM_cons, List.mapM_cons]
    have hrest := ih fun c hc => hf c (List.mem_cons_of_mem b hc)
    exact (hf b List.mem_cons_self).bind fun a => hrest.bind fun as => approximates_pure (a :: as)

/-! ### Endless computations -/

section

variable {x : Nat → Expanding β}

theorem deepening_mapM {f : Nat → β → Expanding α} {xs : List β}
    (hf : ∀ b ∈ xs, Deepening fun n => f n b) : Deepening fun n => xs.mapM (f n) :=
  fun m n hmn => approximates_mapM fun b hb => hf b hb m n hmn

/-- What is not endless has an outcome. -/
theorem exists_outcome (hx : Deepening x) {s : UriStack} (h : ¬ Endless x s) :
    ∃ n outcome, x n s = .ok outcome := by
  obtain ⟨n, hn⟩ := Classical.not_forall.mp h
  obtain deep | ⟨outcome, ok, -⟩ := hx n n (Nat.le_refl n) s
  · exact absurd deep hn
  · exact ⟨n, outcome, ok⟩

/-- At any depth a computation runs out or has the outcome that it has at another depth. -/
theorem Deepening.outOfDepth_or_eq (hx : Deepening x) {s : UriStack} {m : Nat}
    {outcome : Except InclusionError β × UriStack} (h : x m s = .ok outcome) (n : Nat) :
    (x n).OutOfDepth s ∨ x n s = .ok outcome := by
  obtain hmn | hnm := Nat.le_total m n
  · exact .inr ((hx m n hmn).eq_of_ok h)
  · obtain deep | ⟨outcome', hn, hm⟩ := hx n m hnm s
    · exact .inl deep
    · rw [h] at hm
      cases hm
      exact .inr hn

/-- Running out of depth from some depth on is running out of every depth. -/
theorem endless_of_le (hx : Deepening x) {s : UriStack} {m : Nat}
    (h : ∀ n, m ≤ n → (x n).OutOfDepth s) : Endless x s := by
  intro n
  obtain hmn | hnm := Nat.le_total m n
  · exact h n hmn
  · exact (hx n m hnm).outOfDepth (h m (Nat.le_refl m))

/-- If a sequence of two parts never ends, then one of the parts does not. -/
theorem exists_endless_of_bind {f : Nat → β → Expanding α} (hx : Deepening x)
    (hf : ∀ b, Deepening fun n => f n b) {s : UriStack} (h : Endless (fun n => x n >>= f n) s) :
    Endless x s
      ∨ ∃ m b s', x m s = .ok (.ok b, s') ∧ Endless (fun n => f n b) s' := by
  by_cases endless : Endless x s
  · exact .inl endless
  obtain ⟨m, ⟨result, s'⟩, hm⟩ := exists_outcome hx endless
  have later : ∀ n, m ≤ n → x n s = .ok (result, s') := fun n hmn => (hx m n hmn).eq_of_ok hm
  cases result with
  | error e =>
    have outcome : (x m >>= f m) s = .ok (.error e, s') := by rw [bind_apply, hm]
    exact absurd (h m) (not_outOfDepth outcome)
  | ok b =>
    -- From depth `m` on the first part has this outcome, so it is the second part that falls short.
    refine .inr ⟨m, b, s', hm, endless_of_le (hf b) (m := m) fun n hmn => ?_⟩
    have hn : (x n >>= f n) s = .error .tooDeep := h n
    rwa [bind_apply, later n hmn] at hn

/-- If neither a computation nor what becomes of its failure ends, then one of the two does not. -/
theorem exists_endless_of_tryCatch {f : Nat → InclusionError → Expanding β} (hx : Deepening x)
    (hf : ∀ e, Deepening fun n => f n e) {s : UriStack}
    (h : Endless (fun n => tryCatch (x n) (f n)) s) :
    Endless x s
      ∨ ∃ m e s', x m s = .ok (.error e, s') ∧ Endless (fun n => f n e) s' := by
  by_cases endless : Endless x s
  · exact .inl endless
  obtain ⟨m, ⟨result, s'⟩, hm⟩ := exists_outcome hx endless
  have later : ∀ n, m ≤ n → x n s = .ok (result, s') := fun n hmn => (hx m n hmn).eq_of_ok hm
  cases result with
  | error e =>
    -- From depth `m` on the computation fails, so it is what becomes of it that falls short.
    refine .inr ⟨m, e, s', hm, endless_of_le (hf e) (m := m) fun n hmn => ?_⟩
    have hn : MonadExcept.tryCatch (x n) (f n) s = .error .tooDeep := h n
    rwa [tryCatch_apply, later n hmn] at hn
  | ok b =>
    have outcome : MonadExcept.tryCatch (x m) (f m) s = .ok (.ok b, s') := by
      rw [tryCatch_apply, hm]
    exact absurd (h m) (not_outOfDepth outcome)

end

/-- If a list of computations never comes to an end, then there is one that does not, and those
before it succeed. -/
theorem exists_endless_of_mapM {f : Nat → β → Expanding α} {xs : List β}
    (hf : ∀ b ∈ xs, Deepening fun n => f n b) {s : UriStack}
    (h : Endless (fun n => xs.mapM (f n)) s) :
    ∃ before b after m as s', xs = before ++ b :: after
      ∧ before.mapM (f m) s = .ok (.ok as, s') ∧ Endless (fun n => f n b) s' := by
  induction xs generalizing s with
  | nil => exact absurd (h 0) (not_outOfDepth rfl)
  | cons b xs ih =>
    simp only [List.mapM_cons] at h
    have hb := hf b List.mem_cons_self
    have hrest : ∀ c ∈ xs, Deepening fun n => f n c := fun c hc => hf c (List.mem_cons_of_mem b hc)
    have hpure : ∀ a as, Deepening fun _ => (pure (a :: as) : Expanding (List α)) :=
      fun a as m n hmn => approximates_pure (a :: as)
    have hfollow : ∀ a, Deepening fun n => xs.mapM (f n) >>= fun as => pure (a :: as) :=
      fun a m n hmn => (deepening_mapM hrest m n hmn).bind fun as => hpure a as m n hmn
    obtain endless | ⟨m, a, s', hm, hthen⟩ := exists_endless_of_bind hb hfollow h
    · exact ⟨[], b, xs, 0, [], s, rfl, rfl, endless⟩
    obtain endless | ⟨_, _, _, _, ended⟩ :=
      exists_endless_of_bind (deepening_mapM hrest) (hpure a) hthen
    · obtain ⟨before, c, after, m', as, s'', rfl, answered, hc⟩ := ih hrest endless
      refine ⟨b :: before, c, after, max m m', a :: as, s'', rfl, ?_, hc⟩
      -- at the greater depth both `b` and the list behind it have the outcomes that they had
      have hbm : f (max m m') b s = .ok (.ok a, s') :=
        (hb m (max m m') (Nat.le_max_left m m')).eq_of_ok hm
      have hbefore : ∀ c ∈ before, Deepening fun n => f n c :=
        fun c hc => hrest c (List.mem_append_left _ hc)
      have hm' : before.mapM (f (max m m')) s' = .ok (.ok as, s'') :=
        (deepening_mapM hbefore m' (max m m') (Nat.le_max_right m m')).eq_of_ok answered
      rw [List.mapM_cons, bind_apply, hbm]
      dsimp only
      rw [bind_apply, hm']
      rfl
    · exact absurd (ended 0) (not_outOfDepth rfl)

end Expanding

/-! ### Calls -/

/-- A resolver answers every request, if only with an error. -/
structure Resolver.Answers (resolver : Resolver) : Prop where
  xml : ∀ r, ∃ answer, resolver.readXml r = .ok answer
  text : ∀ r, ∃ answer, resolver.readText r = .ok answer

theorem Resolver.answers_memory (resources : Table String String) : (memory resources).Answers :=
  ⟨fun r => ⟨memoryXml resources r, rfl⟩, fun r => ⟨memoryText resources r, rfl⟩⟩

namespace Includer

open Expanding

variable (includer : Includer)

section

variable {handle handle' : Document → ControlHandler Expanding}
  (hh : ∀ d x, ((handle d).answer x).Approximates ((handle' d).answer x))

include hh

theorem approximates_expandAll (d : Document) :
    (includer.expandAll handle d).Approximates (includer.expandAll handle' d) := by
  rw [expandAll_eq, expandAll_eq]
  exact (approximates_mapM fun x _ => hh d x).bind fun answers => approximates_pure _

theorem approximates_fallback (site : IncludeSite) (id : Nat) :
    (includer.fallback handle site id).Approximates (includer.fallback handle' site id) := by
  rw [fallback_eq, fallback_eq]
  exact (approximates_mapM fun x _ => hh site.document x).bind fun answers => approximates_pure _

theorem approximates_narrow (site : IncludeSite) (parseType : ParseType) (fragment : String)
    (d : Document) (around : Option AncestorSet) :
    (includer.narrow handle site parseType fragment d around).Approximates
      (includer.narrow handle' site parseType fragment d around) := by
  unfold narrow
  refine (approximates_lift _).bind fun schemes => (approximates_lift _).bind fun selected => ?_
  exact includer.approximates_expandAll hh _

variable (answers : includer.resolver.Answers)

include answers

theorem approximates_markup (site : IncludeSite) :
    (includer.markup handle site).Approximates (includer.markup handle' site) := by
  unfold markup
  refine (approximates_enter _).bind fun _ => ?_
  refine (approximates_ofReply (answers.xml _)).bind fun resource => ?_
  refine (includer.approximates_expandAll hh _).bind fun expanded => ?_
  exact (approximates_modify _).bind fun _ => approximates_pure expanded

theorem approximates_text (site : IncludeSite) :
    (includer.text handle site).Approximates (includer.text handle' site) := by
  unfold text
  refine (approximates_ofReply (answers.text _)).bind fun resource => ?_
  split
  · exact approximates_pure resource
  · exact includer.approximates_expandAll hh _

theorem approximates_resource (site : IncludeSite) (parseType : ParseType)
    (fragment : Option String) :
    (includer.resource handle site parseType fragment).Approximates
      (includer.resource handle' site parseType fragment) := by
  unfold resource
  split
  · exact (includer.approximates_text hh answers site).bind fun d => approximates_pure (d, none)
  split
  · exact (includer.approximates_markup hh answers site).bind fun d => approximates_pure (d, none)
  split
  · exact approximates_throw _
  · exact approximates_pure _

theorem approximates_resolve (site : IncludeSite) (parseType : ParseType) :
    (includer.resolve handle site parseType).Approximates
      (includer.resolve handle' site parseType) := by
  rw [resolve]
  refine (includer.approximates_resource hh answers site parseType _).bind fun ⟨d, around⟩ => ?_
  cases site.attributes.fragment parseType with
  | none => exact approximates_pure d
  | some fragment => exact includer.approximates_narrow hh site parseType fragment d around

theorem approximates_replacement (site : IncludeSite) (fallback : Option Nat) :
    (includer.replacement handle site fallback).Approximates
      (includer.replacement handle' site fallback) := by
  unfold replacement
  dsimp only
  split
  · cases fallback with
    | none => exact approximates_throw _
    | some id => exact includer.approximates_fallback hh site id
  · refine approximates_get.bind fun before => ?_
    refine Approximates.bind ?_ fun content => approximates_pure _
    refine (includer.approximates_resolve hh answers site _).tryCatch fun e => ?_
    cases fallback with
    | none => exact approximates_throw e
    | some id =>
      exact (approximates_modify _).bind fun _ => includer.approximates_fallback hh site id

theorem approximates_include (d : Document) (id : Nat) (e : Element) :
    (includer.include_ handle d id e).Approximates (includer.include_ handle' d id e) := by
  rw [include_]
  refine (approximates_lift _).bind fun attributes => (approximates_lift _).bind fun fallback => ?_
  exact includer.approximates_replacement hh answers _ fallback

end

variable (answers : includer.resolver.Answers)

include answers

theorem deepening_handle (d : Document) (x : Encounter) :
    Deepening fun n => (includer.handle n d).answer x := by
  intro m
  induction m generalizing d x with
  | zero => exact fun n _ s => .inl rfl
  | succ m ih =>
    intro n hmn
    cases n with
    | zero => omega
    | succ n =>
      obtain ⟨control, id, e⟩ := x
      have hh := fun d x => ih d x n (by omega)
      cases control with
      | fallback => exact approximates_throw _
      | inclusion => exact includer.approximates_include hh answers d id e

/-- **More depth keeps all outcomes**, for every call. -/
theorem deepening_carryOut (call : Call) : Deepening fun n => includer.carryOut n call := by
  intro m n hmn
  have hh := fun d x => includer.deepening_handle answers d x m n hmn
  cases call with
  | walk d => exact includer.approximates_expandAll hh d
  | inclusion d id e => exact includer.approximates_include hh answers d id e
  | resolution site parseType => exact includer.approximates_resolve hh answers site parseType
  | fallback site id => exact includer.approximates_fallback hh site id

end Includer

end Transclusion
