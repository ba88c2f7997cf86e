import Mathlib.Logic.Function.Iterate
import Mathlib.Tactic.Choose
import Transclusion.Proofs.Inclusion.Depth
import Transclusion.Proofs.Outcome
/-!
# Expansions that never end

A call diverges if no depth is enough for it (`Includer.Diverges`).  A call that diverges makes a
call that diverges (`Includer.exists_makes_of_diverges`), since otherwise all that it asks for would
have an outcome from some depth on.  Conversely, a call diverges if it is in a set of calls each of
which makes a call in the set (`Includer.diverges_of_progress`): every round through the set takes
one include inside another.

* `Includer.diverges_iff_exists_chain`: a call diverges exactly if there is an endless chain of
  calls that starts with it.
-/

namespace Transclusion

namespace Expanding

variable {α β : Type}

theorem exists_endless_of_lift {x : Except InclusionError β} {f : Nat → β → Expanding α}
    {s : UriStack} (h : Endless (fun n => (liftM x : Expanding β) >>= f n) s) :
    ∃ b, x = .ok b ∧ Endless (fun n => f n b) s := by
  cases x with
  | error e => exact absurd (h 0) (not_outOfDepth rfl)
  | ok b => exact ⟨b, rfl, h⟩

theorem exists_endless_of_ofReply {reply : Reply} (answered : ∃ answer, reply = .ok answer)
    {f : Nat → Document → Expanding α} {s : UriStack}
    (h : Endless (fun n => ofReply reply >>= f n) s) :
    ∃ d, reply = .ok (.ok d) ∧ Endless (fun n => f n d) s := by
  obtain ⟨e | d, rfl⟩ := answered
  · exact absurd (h 0) (not_outOfDepth rfl)
  · exact ⟨d, rfl, h⟩

theorem exists_endless_of_enter {uri : String} {f : Nat → Unit → Expanding α} {s : UriStack}
    (h : Endless (fun n => enter uri >>= f n) s) :
    ∃ s', s.enter uri = .ok s' ∧ Endless (fun n => f n ()) s' := by
  cases hs : s.enter uri with
  | error e =>
    have failed : (enter uri >>= f 0) s = .ok (.error e, s) := by rw [bind_apply, enter_apply, hs]
    exact absurd (h 0) (not_outOfDepth failed)
  | ok s' =>
    refine ⟨s', rfl, fun n => ?_⟩
    have hn : (enter uri >>= f n) s = .error .tooDeep := h n
    rwa [bind_apply, enter_apply, hs] at hn

theorem endless_of_get {f : Nat → UriStack → Expanding α} {s : UriStack}
    (h : Endless (fun n => (get : Expanding UriStack) >>= f n) s) : Endless (fun n => f n s) s := h

/-- If what follows a computation does not take any depth, then the computation does not end. -/
theorem endless_of_bind {x : Nat → Expanding β} {f : β → Expanding α} {s : UriStack}
    (hf : ∀ b s, ¬ (f b).OutOfDepth s) (h : Endless (fun n => x n >>= f) s) : Endless x s := by
  intro n
  obtain deep | ⟨b, s', -, deep⟩ := outOfDepth_bind.mp (h n)
  · exact deep
  · exact absurd deep (hf b s')

theorem endless_of_bind_pure {x : Nat → Expanding β} {f : β → α} {s : UriStack}
    (h : Endless (fun n => x n >>= fun b => pure (f b)) s) : Endless x s :=
  endless_of_bind (fun _ _ => not_outOfDepth rfl) h

end Expanding

namespace Includer

open Expanding

variable (includer : Includer)

/-- No depth is enough for a call. -/
def Diverges (p : Call × UriStack) : Prop := Endless (fun n => includer.carryOut n p.1) p.2

variable (answers : includer.resolver.Answers)

/-! ### A call that diverges makes one that diverges -/

include answers

theorem exists_makes_of_diverges_walked {call : Call} {d : Document} {first : Nat} {f : Forest}
    {s : UriStack} (walked : call.walked? = some (d, first, f))
    (diverges : includer.Diverges (call, s)) :
    ∃ next, includer.Makes (call, s) next ∧ includer.Diverges next := by
  obtain ⟨finish, hcall⟩ := includer.carryOut_of_walked? walked
  simp only [Diverges, hcall] at diverges
  -- Of the encounters one is never answered, and those before it are.
  obtain ⟨before, x, after, m, contents, s', place, answered, endless⟩ :=
    exists_endless_of_mapM (fun x _ => includer.deepening_handle answers d x)
      (endless_of_bind_pure diverges)
  obtain ⟨control, id, e⟩ := x
  cases control with
  | fallback => exact absurd (endless 1) (not_outOfDepth rfl)
  | inclusion =>
    exact ⟨(.inclusion d id e, s'), .encounter walked place answered, fun n => endless (n + 1)⟩

theorem exists_makes_of_diverges_inclusion {d : Document} {id : Nat} {e : Element} {s : UriStack}
    (diverges : includer.Diverges (.inclusion d id e, s)) :
    ∃ next, includer.Makes (.inclusion d id e, s) next ∧ includer.Diverges next := by
  have hinclude : Endless (fun n => includer.include_ (includer.handle n) d id e) s := diverges
  unfold include_ at hinclude
  obtain ⟨a, attributes, hinclude⟩ := exists_endless_of_lift hinclude
  obtain ⟨fallback, child, hreplacement⟩ := exists_endless_of_lift hinclude
  unfold replacement at hreplacement
  dsimp only at hreplacement
  split at hreplacement
  · next unsupported =>
    cases fallback with
    | none => exact absurd (hreplacement 0) (not_outOfDepth rfl)
    | some id' =>
      exact ⟨(.fallback ⟨d, id, e, a⟩ id', s), .forced attributes child unsupported, hreplacement⟩
  · next supported =>
    have hattempt := endless_of_bind_pure (endless_of_get hreplacement)
    have hh := fun m n hmn d x => includer.deepening_handle answers d x m n hmn
    -- Either the attempt never ends, or it fails and the fallback never ends.
    obtain endless | ⟨m, err, s', attempted, hfallback⟩ := by
      refine exists_endless_of_tryCatch ?_ ?_ hattempt
      · exact fun m n hmn => includer.approximates_resolve (hh m n hmn) answers _ _
      · intro err m n hmn
        cases fallback with
        | none => exact approximates_throw err
        | some id' =>
          refine (approximates_modify _).bind fun _ => ?_
          exact includer.approximates_fallback (hh m n hmn) _ id'
    · exact ⟨(.resolution ⟨d, id, e, a⟩ a.parseType, s), .attempt attributes child supported,
        endless⟩
    · cases fallback with
      | none => exact absurd (hfallback 0) (not_outOfDepth rfl)
      | some id' =>
        exact ⟨(.fallback ⟨d, id, e, a⟩ id', s'.truncate s.size),
          .failed attributes child supported attempted, hfallback⟩

omit answers in
theorem exists_makes_of_endless_narrow {site : IncludeSite} {parseType : ParseType}
    {fragment : String} {d : Document} {around : Option AncestorSet} {depth : Nat}
    {s s' : UriStack} (identifier : site.attributes.fragment parseType = some fragment)
    (obtained : includer.resource (includer.handle depth) site parseType (some fragment) s
      = .ok (.ok (d, around), s'))
    (endless : Endless
      (fun n => includer.narrow (includer.handle n) site parseType fragment d around) s') :
    ∃ next, includer.Makes (.resolution site parseType, s) next ∧ includer.Diverges next := by
  unfold narrow at endless
  obtain ⟨schemes, read, endless⟩ := exists_endless_of_lift endless
  obtain ⟨⟨result, matched⟩, found, endless⟩ := exists_endless_of_lift endless
  exact ⟨_, .selected identifier obtained (mapError_eq_ok_iff.mp read) found, endless⟩

theorem exists_makes_of_endless_resource {site : IncludeSite} {parseType : ParseType}
    {fragment : Option String} {s : UriStack}
    (endless : Endless (fun n => includer.resource (includer.handle n) site parseType fragment) s) :
    ∃ next, includer.Makes (.resolution site parseType, s) next ∧ includer.Diverges next := by
  -- Replies do not depend on the depth, so what never comes to an end is the walk behind one.
  unfold resource at endless
  split at endless
  · next isText =>
    subst isText
    have htext := endless_of_bind_pure endless
    unfold text at htext
    obtain ⟨d, read, htext⟩ := exists_endless_of_ofReply (answers.text _) htext
    split at htext
    · exact absurd (htext 0) (not_outOfDepth rfl)
    · next external => exact ⟨_, .text external read, htext⟩
  split at endless
  · next notText external =>
    have hmarkup := endless_of_bind_pure endless
    unfold markup at hmarkup
    obtain ⟨s', entered, hmarkup⟩ := exists_endless_of_enter hmarkup
    obtain ⟨d, read, hmarkup⟩ := exists_endless_of_ofReply (answers.xml _) hmarkup
    have hwalk := endless_of_bind (fun _ _ => not_outOfDepth rfl) hmarkup
    exact ⟨_, .markup notText external entered read, hwalk⟩
  split at endless
  · exact absurd (endless 0) (not_outOfDepth rfl)
  · exact absurd (endless 0) (not_outOfDepth rfl)

theorem exists_makes_of_diverges_resolution {site : IncludeSite} {parseType : ParseType}
    {s : UriStack} (diverges : includer.Diverges (.resolution site parseType, s)) :
    ∃ next, includer.Makes (.resolution site parseType, s) next ∧ includer.Diverges next := by
  have hresolve : Endless (fun n => includer.resolve (includer.handle n) site parseType) s :=
    diverges
  have hh := fun m n hmn d x => includer.deepening_handle answers d x m n hmn
  unfold resolve at hresolve
  -- Either the resource is never obtained, or it is and its narrowing never ends.
  obtain endless | ⟨depth, ⟨d, around⟩, s', obtained, hnarrow⟩ := by
    refine exists_endless_of_bind ?_ ?_ hresolve
    · exact fun m n hmn => includer.approximates_resource (hh m n hmn) answers _ _ _
    · rintro ⟨d, around⟩ m n hmn
      cases site.attributes.fragment parseType with
      | none => exact approximates_pure d
      | some fragment => exact includer.approximates_narrow (hh m n hmn) _ _ _ _ _
  · exact includer.exists_makes_of_endless_resource answers endless
  · dsimp only at hnarrow
    cases identifier : site.attributes.fragment parseType with
    | none =>
      rw [identifier] at hnarrow
      exact absurd (hnarrow 0) (not_outOfDepth rfl)
    | some fragment =>
      rw [identifier] at obtained hnarrow
      exact includer.exists_makes_of_endless_narrow identifier obtained hnarrow

/-- A call that diverges makes a call that diverges. -/
theorem exists_makes_of_diverges {p : Call × UriStack} (diverges : includer.Diverges p) :
    ∃ next, includer.Makes p next ∧ includer.Diverges next := by
  obtain ⟨call, s⟩ := p
  cases call with
  | walk d => exact includer.exists_makes_of_diverges_walked answers rfl diverges
  | inclusion d id e => exact includer.exists_makes_of_diverges_inclusion answers diverges
  | resolution site parseType => exact includer.exists_makes_of_diverges_resolution answers diverges
  | fallback site id => exact includer.exists_makes_of_diverges_walked answers rfl diverges

/-! ### Chains of calls -/

/-- A walk runs out of depth `n + 1` if the replacement of an include in it runs out of depth `n`,
and in any case of depth 0. -/
theorem outOfDepth_of_makes_walked {call next : Call} {d : Document} {first n : Nat} {f : Forest}
    {s s' : UriStack} (walked : call.walked? = some (d, first, f))
    (makes : includer.Makes (call, s) (next, s'))
    (deep : ∀ m, n = m + 1 → (includer.carryOut m next).OutOfDepth s') :
    (includer.carryOut n call).OutOfDepth s := by
  cases makes with
  | @encounter _ d' first' id depth f' e before after contents _ _ walked' place answered =>
    obtain ⟨finish, hcall⟩ := includer.carryOut_of_walked? walked'
    rw [hcall, place, List.mapM_append]
    refine outOfDepth_bind.mpr (.inl ?_)
    have hx : ((includer.handle n d').answer ⟨.inclusion, id, e⟩).OutOfDepth s' := by
      cases n with
      | zero => rfl
      | succ m => exact deep m rfl
    have hbefore : Deepening fun n => before.mapM (includer.handle n d').answer :=
      deepening_mapM fun x _ => includer.deepening_handle answers d' x
    -- At depth `n` the encounters before the include may fall short, or are answered as before.
    obtain deep | again := hbefore.outOfDepth_or_eq answered n
    · exact outOfDepth_bind.mpr (.inl deep)
    · refine outOfDepth_bind.mpr (.inr ⟨contents, s', again, ?_⟩)
      rw [List.mapM_cons]
      exact outOfDepth_bind.mpr (.inl (outOfDepth_bind.mpr (.inl hx)))
  | attempt => cases walked
  | forced => cases walked
  | failed => cases walked
  | markup => cases walked
  | text => cases walked
  | selected => cases walked

/-- The replacement of an include runs out of depth with the attempt or the fallback. -/
theorem outOfDepth_of_makes_inclusion {d : Document} {id : Nat} {e : Element} {next : Call}
    {s s' : UriStack} {n : Nat} (makes : includer.Makes (.inclusion d id e, s) (next, s'))
    (deep : (includer.carryOut n next).OutOfDepth s') :
    (includer.carryOut n (.inclusion d id e)).OutOfDepth s := by
  show (includer.include_ (includer.handle n) d id e).OutOfDepth s
  cases makes with
  | encounter walked => cases walked
  | attempt attributes child supported =>
    rw [includer.include_eq_replacement attributes child]
    unfold replacement
    dsimp only
    rw [if_neg supported]
    refine outOfDepth_bind.mpr (.inr ⟨s, s, rfl, ?_⟩)
    exact outOfDepth_bind.mpr (.inl (outOfDepth_tryCatch.mpr (.inl deep)))
  | forced attributes child unsupported =>
    rw [includer.include_eq_replacement attributes child]
    rw [replacement]
    dsimp only
    rw [if_pos unsupported]
    exact deep
  | failed attributes child supported attempted =>
    rw [includer.include_eq_replacement attributes child]
    rw [replacement]
    dsimp only
    rw [if_neg supported]
    refine outOfDepth_bind.mpr (.inr ⟨s, s, rfl, ?_⟩)
    refine outOfDepth_bind.mpr (.inl (outOfDepth_tryCatch.mpr ?_))
    -- At depth `n` the attempt may fall short, or fails as before.
    obtain deep' | again := (includer.deepening_carryOut answers _).outOfDepth_or_eq attempted n
    · exact .inl deep'
    · exact .inr ⟨_, _, again, outOfDepth_bind.mpr (.inr ⟨(), _, rfl, deep⟩)⟩

/-- A resolution runs out of depth with the walk of what it has read or selected. -/
theorem outOfDepth_of_makes_resolution {site : IncludeSite} {parseType : ParseType} {next : Call}
    {s s' : UriStack} {n : Nat} (makes : includer.Makes (.resolution site parseType, s) (next, s'))
    (deep : (includer.carryOut n next).OutOfDepth s') :
    (includer.carryOut n (.resolution site parseType)).OutOfDepth s := by
  show (includer.resolve (includer.handle n) site parseType).OutOfDepth s
  rw [resolve]
  cases makes with
  | encounter walked => cases walked
  | @markup _ _ d _ _ notText external entered read =>
    refine outOfDepth_bind.mpr (.inl ?_)
    rw [resource, if_neg notText, if_pos external]
    refine outOfDepth_bind.mpr (.inl ?_)
    rw [markup]
    have hentered : enter (request site).target s = .ok (.ok (), s') := by
      rw [enter_apply, entered]
    have hread : ofReply (includer.resolver.readXml (request site)) s' = .ok (.ok d, s') := by
      rw [ofReply_apply, read]
      rfl
    refine outOfDepth_bind.mpr (.inr ⟨(), s', hentered, ?_⟩)
    refine outOfDepth_bind.mpr (.inr ⟨d, s', hread, ?_⟩)
    exact outOfDepth_bind.mpr (.inl deep)
  | @text _ d _ external read =>
    refine outOfDepth_bind.mpr (.inl ?_)
    rw [resource, if_pos rfl]
    refine outOfDepth_bind.mpr (.inl ?_)
    rw [text]
    have hread : ofReply (includer.resolver.readText (request site)) s = .ok (.ok d, s) := by
      rw [ofReply_apply, read]
      rfl
    refine outOfDepth_bind.mpr (.inr ⟨d, s, hread, ?_⟩)
    rw [if_neg external]
    exact deep
  | @selected _ _ fragment depth d result around schemes matched _ _ identifier obtained read
      found =>
    rw [identifier]
    have hh := fun m n hmn d x => includer.deepening_handle answers d x m n hmn
    have hresource : Deepening fun n =>
        includer.resource (includer.handle n) site parseType (some fragment) :=
      fun m n hmn => includer.approximates_resource (hh m n hmn) answers _ _ _
    obtain deep' | again := hresource.outOfDepth_or_eq obtained n
    · exact outOfDepth_bind.mpr (.inl deep')
    · refine outOfDepth_bind.mpr (.inr ⟨(d, around), s', again, ?_⟩)
      show (includer.narrow _ site parseType fragment d around).OutOfDepth s'
      rw [narrow]
      dsimp only
      have hread : (liftM ((FragmentId.read includer.schemes parseType fragment).mapError
          InclusionError.fragment) : Expanding _) s' = .ok (.ok schemes, s') := by
        rw [lift_apply, read]
        rfl
      have hfound : (liftM (selectWith schemes ⟨d, includer.contextOf site⟩ around fragment) :
          Expanding _) s' = .ok (.ok (result, matched), s') := by
        rw [lift_apply, found]
      refine outOfDepth_bind.mpr (.inr ⟨schemes, s', hread, ?_⟩)
      exact outOfDepth_bind.mpr (.inr ⟨(result, matched), s', hfound, deep⟩)

/-- Calls each of which makes another one among them diverge. -/
theorem diverges_of_progress (among : Call × UriStack → Prop)
    (progress : ∀ p, among p → ∃ next, includer.Makes p next ∧ among next) {p : Call × UriStack}
    (hp : among p) : includer.Diverges p := by
  -- a walk needs one depth more than the replacement that it asks for; a replacement and a
  -- resolution need the depth of the walk that they lead to
  have step : ∀ n, (∀ m, n = m + 1 → ∀ p, among p → (includer.carryOut m p.1).OutOfDepth p.2) →
      ∀ p, among p → (includer.carryOut n p.1).OutOfDepth p.2 := by
    intro n ih
    have walked : ∀ call s d first f, among (call, s) → call.walked? = some (d, first, f) →
        (includer.carryOut n call).OutOfDepth s := by
      intro call s d first f hp hwalked
      obtain ⟨⟨next, s'⟩, makes, hnext⟩ := progress _ hp
      exact includer.outOfDepth_of_makes_walked answers hwalked makes fun m hm => ih m hm _ hnext
    have resolution : ∀ site parseType s, among (.resolution site parseType, s) →
        (includer.carryOut n (.resolution site parseType)).OutOfDepth s := by
      intro site parseType s hp
      obtain ⟨⟨next, s'⟩, makes, hnext⟩ := progress _ hp
      refine includer.outOfDepth_of_makes_resolution answers makes ?_
      cases makes with
      | encounter hwalked => cases hwalked
      | markup => exact walked _ _ _ _ _ hnext rfl
      | text => exact walked _ _ _ _ _ hnext rfl
      | selected => exact walked _ _ _ _ _ hnext rfl
    rintro ⟨call, s⟩ hp
    cases call with
    | walk d => exact walked _ s _ _ _ hp rfl
    | fallback site id => exact walked _ s _ _ _ hp rfl
    | resolution site parseType => exact resolution site parseType s hp
    | inclusion d id e =>
      obtain ⟨⟨next, s'⟩, makes, hnext⟩ := progress _ hp
      refine includer.outOfDepth_of_makes_inclusion answers makes ?_
      cases makes with
      | encounter hwalked => cases hwalked
      | attempt => exact resolution _ _ _ hnext
      | forced => exact walked _ _ _ _ _ hnext rfl
      | failed => exact walked _ _ _ _ _ hnext rfl
  intro n
  induction n generalizing p with
  | zero => exact step 0 nofun p hp
  | succ n ih =>
    refine step (n + 1) (fun m hm q hq => ?_) p hp
    obtain rfl : n = m := by omega
    exact ih hq

/-- **A call diverges exactly if there is an endless chain of calls** that starts with it. -/
theorem diverges_iff_exists_chain {p : Call × UriStack} :
    includer.Diverges p
      ↔ ∃ chain : Nat → Call × UriStack, chain 0 = p
          ∧ ∀ n, includer.Makes (chain n) (chain (n + 1)) := by
  constructor
  · intro diverges
    have next : ∀ q : {q // includer.Diverges q}, ∃ r : {r // includer.Diverges r},
        includer.Makes q.1 r.1 := by
      rintro ⟨q, hq⟩
      obtain ⟨r, makes, hr⟩ := includer.exists_makes_of_diverges answers hq
      exact ⟨⟨r, hr⟩, makes⟩
    -- A call to go on with is chosen for every call that diverges.
    choose follow makes using next
    refine ⟨fun n => (follow^[n] ⟨p, diverges⟩).1, rfl, fun n => ?_⟩
    show includer.Makes (follow^[n] ⟨p, diverges⟩).1 (follow^[n + 1] ⟨p, diverges⟩).1
    rw [Function.iterate_succ_apply']
    exact makes _
  · rintro ⟨chain, rfl, makes⟩
    refine includer.diverges_of_progress answers (fun q => ∃ n, q = chain n) ?_ ⟨0, rfl⟩
    rintro q ⟨n, rfl⟩
    exact ⟨chain (n + 1), makes n, n + 1, rfl⟩

end Includer

end Transclusion
