import Transclusion.Proofs.Inclusion.StackDiscipline
import Transclusion.Proofs.Outcome
/-!
# Computations that mirror others

One computation is mirrored by another one if that succeeds where it does, with the same result and
the same stack, and fails where it does, though perhaps with another error and another stack
(`Expanding.MirroredBy`).  Nothing is asked of the second one where the first stops without an
outcome.  A fallback does not look at the error, and it starts from the stack before, so that two
includes mirror each other if their resolutions and their fallbacks do
(`Expanding.MirroredBy.orElse`).

Two computations are alike if they have the same outcome from every stack, errors included, but for
their results, which are related (`Expanding.Alike`).
-/

namespace Transclusion

namespace Expanding

variable {α β : Type} {s : UriStack}

/-- Started from the stack `s`, `y` has the success that `x` has, and fails if `x` does. -/
structure MirroredBy (x y : Expanding α) (s : UriStack) : Prop where
  succeeds : ∀ a s', x s = .ok (.ok a, s') → y s = .ok (.ok a, s')
  fails : ∀ e s', x s = .ok (.error e, s') → ∃ e' s'', y s = .ok (.error e', s'')

theorem mirroredBy_self (x : Expanding α) : x.MirroredBy x s :=
  ⟨fun _ _ h => h, fun e s' h => ⟨e, s', h⟩⟩

theorem mirroredBy_throw (e e' : InclusionError) :
    (throw e : Expanding α).MirroredBy (throw e') s :=
  ⟨nofun, fun _ _ _ => ⟨e', s, rfl⟩⟩

theorem mirroredBy_halt (halt : Halt) (y : Expanding α) : (Expanding.halt halt).MirroredBy y s :=
  ⟨nofun, nofun⟩

/-- Replies that give the same document, or fail both. -/
theorem mirroredBy_ofReply {reply reply' : Reply}
    (h : reply.map Except.toOption = reply'.map Except.toOption) :
    (ofReply reply).MirroredBy (ofReply reply') s := by
  rcases reply with halt | e | d <;> rcases reply' with halt' | e' | d' <;> cases h
  · exact ⟨nofun, nofun⟩
  · exact mirroredBy_throw e e'
  · exact mirroredBy_self _

theorem MirroredBy.bind {x y : Expanding β} {f g : β → Expanding α} (h : x.MirroredBy y s)
    (hfg : ∀ b s, (f b).MirroredBy (g b) s) : (x >>= f).MirroredBy (y >>= g) s := by
  obtain ⟨succeeds, fails⟩ := h
  constructor
  · intro a s' hx
    obtain ⟨b, t, first, next⟩ := bind_apply_eq_ok_iff.mp hx
    exact bind_apply_eq_ok_iff.mpr ⟨b, t, succeeds b t first, (hfg b t).succeeds a s' next⟩
  · intro e s' hx
    rw [bind_apply] at hx ⊢
    rcases hxs : x s with halt | ⟨e | b, t⟩
    · rw [hxs] at hx
      cases hx
    · obtain ⟨e', t', hy⟩ := fails e t hxs
      rw [hy]
      exact ⟨e', t', rfl⟩
    · rw [hxs] at hx
      rw [succeeds b t hxs]
      exact (hfg b t).fails e s' hx

theorem mirroredBy_lift_bind {x : Except InclusionError β} {f g : β → Expanding α}
    (h : ∀ b, x = .ok b → (f b).MirroredBy (g b) s) :
    ((liftM x : Expanding β) >>= f).MirroredBy ((liftM x : Expanding β) >>= g) s := by
  cases x with
  | error e => exact mirroredBy_throw e e
  | ok b => exact h b rfl

theorem mirroredBy_get_bind {f g : UriStack → Expanding α} :
    ((get : Expanding UriStack) >>= f).MirroredBy ((get : Expanding UriStack) >>= g) s
      ↔ (f s).MirroredBy (g s) s :=
  ⟨fun h => ⟨h.succeeds, h.fails⟩, fun h => ⟨h.succeeds, h.fails⟩⟩

theorem mirroredBy_mapM {f g : β → Expanding α} {xs : List β}
    (h : ∀ x ∈ xs, ∀ s, (f x).MirroredBy (g x) s) : (xs.mapM f).MirroredBy (xs.mapM g) s := by
  induction xs generalizing s with
  | nil => exact mirroredBy_self _
  | cons x xs ih =>
    rw [List.mapM_cons, List.mapM_cons]
    refine (h x List.mem_cons_self s).bind fun a s => ?_
    exact (ih fun y hy => h y (List.mem_cons_of_mem x hy)).bind fun as s => mirroredBy_self _

/-- What a failure leaves is cut down to the stack before, so that a fallback starts from that. -/
theorem orElse_of_error {x f : Expanding α} {s' : UriStack} {e : InclusionError} (hx : x.Balanced)
    (failed : x s = .ok (.error e, s')) :
    (tryCatch x fun _ => do modify (·.truncate s.size); f) s = f s := by
  rw [tryCatch_apply, failed]
  show f (s'.truncate s.size) = f s
  rw [(hx.below_of_error failed).truncate]

/-- Attempts that mirror each other, with fallbacks that do. -/
theorem MirroredBy.orElse {x y f g : Expanding α} (h : x.MirroredBy y s) (hx : x.Balanced)
    (hy : y.Balanced) (hfg : f.MirroredBy g s) :
    (tryCatch x fun _ => do modify (·.truncate s.size); f).MirroredBy
      (tryCatch y fun _ => do modify (·.truncate s.size); g) s := by
  rcases hxs : x s with halt | ⟨e | a, t⟩
  · constructor <;> intro _ _ outcome <;> rw [tryCatch_apply, hxs] at outcome <;> cases outcome
  · obtain ⟨e', t', hys⟩ := h.fails e t hxs
    constructor
    · rw [orElse_of_error hx hxs, orElse_of_error hy hys]
      exact hfg.succeeds
    · rw [orElse_of_error hx hxs, orElse_of_error hy hys]
      exact hfg.fails
  · constructor <;> rw [tryCatch_apply, tryCatch_apply, hxs, h.succeeds a t hxs]
    · exact fun _ _ same => same
    · exact nofun

/-! ### Computations that are alike -/

/-- Two computations stop alike, fail with the same error, or their results are related; and they
leave the same stack. -/
structure Alike (rel : α → β → Prop) (x : Expanding α) (y : Expanding β) : Prop where
  agree : ∀ s, Agree (fun o o' => Agree rel o.1 o'.1 ∧ o'.2 = o.2) (x s) (y s)

section

variable {α' β' : Type} {rel : α → β → Prop} {rel' : α' → β' → Prop}

theorem alike_self {rel : α → α → Prop} (refl : ∀ a, rel a a) (x : Expanding α) : Alike rel x x :=
  ⟨fun s => agree_self (fun o => ⟨agree_self refl o.1, rfl⟩) (x s)⟩

theorem alike_pure {a : α} {b : β} (related : rel a b) : Alike rel (pure a) (pure b) :=
  ⟨fun _ => .ok ⟨.ok related, rfl⟩⟩

theorem Alike.mono {rel₁ : α → β → Prop} {x : Expanding α} {y : Expanding β} (h : Alike rel x y)
    (weaker : ∀ a b, rel a b → rel₁ a b) : Alike rel₁ x y :=
  ⟨fun s => (h.agree s).mono fun _ _ same => ⟨same.1.mono weaker, same.2⟩⟩

theorem Alike.bind {x : Expanding α} {y : Expanding β} (h : Alike rel x y)
    {f : α → Expanding α'} {g : β → Expanding β'}
    (next : ∀ a b, rel a b → Alike rel' (f a) (g b)) : Alike rel' (x >>= f) (y >>= g) := by
  refine ⟨fun s => ?_⟩
  have outcomes := h.agree s
  rw [bind_apply, bind_apply]
  generalize x s = o, y s = o' at outcomes
  cases outcomes with
  | error halt => exact .error halt
  | @ok o o' same =>
    obtain ⟨r, t⟩ := o
    obtain ⟨r', t'⟩ := o'
    obtain ⟨agree, rfl⟩ := same
    cases agree with
    | error e => exact .ok ⟨.error e, rfl⟩
    | ok related => exact (next _ _ related).agree t'

/-- What comes after the same computation is known for its results. -/
theorem alike_bind_same {x : Expanding α} {f : α → Expanding α'} {g : α → Expanding β'}
    (next : ∀ a, Alike rel' (f a) (g a)) : Alike rel' (x >>= f) (x >>= g) :=
  (alike_self (fun _ => rfl) x).bind fun a _ same => same ▸ next a

theorem alike_lift_bind {x : Except InclusionError α} {y : Except InclusionError β}
    (h : Agree rel x y) {f : α → Expanding α'} {g : β → Expanding β'}
    (next : ∀ a b, x = .ok a → y = .ok b → rel a b → Alike rel' (f a) (g b)) :
    Alike rel' ((liftM x : Expanding α) >>= f) ((liftM y : Expanding β) >>= g) := by
  cases h with
  | error e => exact ⟨fun s => .ok ⟨.error e, rfl⟩⟩
  | ok related => exact next _ _ rfl rfl related

theorem alike_ofReply_bind {reply : Reply} {f : Document → Expanding α} {g : Document → Expanding β}
    (next : ∀ d, reply = .ok (.ok d) → Alike rel (f d) (g d)) :
    Alike rel (ofReply reply >>= f) (ofReply reply >>= g) := by
  rcases reply with halt | e | d
  · exact ⟨fun s => .error halt⟩
  · exact ⟨fun s => .ok ⟨.error e, rfl⟩⟩
  · exact next d rfl

theorem Alike.tryCatch {x : Expanding α} {y : Expanding β} (h : Alike rel x y)
    {f : InclusionError → Expanding α} {g : InclusionError → Expanding β}
    (other : ∀ e, Alike rel (f e) (g e)) : Alike rel (tryCatch x f) (tryCatch y g) := by
  refine ⟨fun s => ?_⟩
  have outcomes := h.agree s
  rw [tryCatch_apply, tryCatch_apply]
  generalize x s = o, y s = o' at outcomes
  cases outcomes with
  | error halt => exact .error halt
  | @ok o o' same =>
    obtain ⟨r, t⟩ := o
    obtain ⟨r', t'⟩ := o'
    obtain ⟨agree, rfl⟩ := same
    cases agree with
    | error e => exact (other e).agree t'
    | ok related => exact .ok ⟨.ok related, rfl⟩

/-- What every result of the first one satisfies is known of related results. -/
theorem Alike.yields {x : Expanding α} {y : Expanding β} (h : Alike rel x y) {holds : α → Prop}
    (given : x.Yields holds) : Alike (fun a b => rel a b ∧ holds a) x y := by
  refine ⟨fun s => ?_⟩
  have outcomes := h.agree s
  have satisfied := (ensures_iff.mp (given.ensures s)).1
  generalize x s = o, y s = o' at outcomes satisfied
  cases outcomes with
  | error halt => exact .error halt
  | @ok o o' same =>
    obtain ⟨r, t⟩ := o
    obtain ⟨r', t'⟩ := o'
    obtain ⟨agree, rfl⟩ := same
    cases agree with
    | error e => exact .ok ⟨.error e, rfl⟩
    | ok related => exact .ok ⟨.ok ⟨related, satisfied _ _ rfl⟩, rfl⟩

end

end Expanding

end Transclusion
