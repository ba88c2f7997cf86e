import Transclusion.Inclusion.Expansion
import Transclusion.Proofs.Inclusion.Substitution
/-!
# What computations of an expansion do

A computation of type `Expanding` is a function of the stack that it starts from.  The equations
`Expanding.bind_apply` and so on say what each way of putting computations together does there, and
`Expanding.Ensures` states what holds afterwards: of the result and the stack after a success, of
the error and the stack after a failure.  A computation that stops without an outcome ensures
anything.

* `Expanding.ensures_bind` and its like reduce this to the parts of a computation.
* `Expanding.ensures_mapM` is the rule for a sequence of computations with an invariant.
-/

namespace Transclusion

namespace Expanding

variable {α β : Type}

/-! ### Equations -/

theorem bind_apply (x : Expanding α) (f : α → Expanding β) (s : UriStack) :
    (x >>= f) s = match x s with
      | .error halt => .error halt
      | .ok (.error e, s') => .ok (.error e, s')
      | .ok (.ok a, s') => f a s' := by
  show Except.bind (x s) _ = _
  rcases x s with halt | ⟨e | a, s'⟩ <;> rfl

theorem pure_apply_eq_ok_iff {a b : α} {s s' : UriStack} :
    (pure a : Expanding α) s = .ok (.ok b, s') ↔ a = b ∧ s = s' := by
  show Except.ok (Except.ok a, s) = _ ↔ _
  simp

theorem bind_apply_eq_ok_iff {x : Expanding α} {f : α → Expanding β} {s s' : UriStack} {b : β} :
    (x >>= f) s = .ok (.ok b, s')
      ↔ ∃ a t, x s = .ok (.ok a, t) ∧ f a t = .ok (.ok b, s') := by
  rw [bind_apply]
  rcases x s with halt | ⟨e | a, t⟩
  · simp
  · simp
  · constructor
    · intro h
      exact ⟨a, t, rfl, h⟩
    · rintro ⟨_, _, ⟨⟩, h⟩
      exact h

theorem tryCatch_apply (x : Expanding α) (f : InclusionError → Expanding α) (s : UriStack) :
    tryCatch x f s = match x s with
      | .error halt => .error halt
      | .ok (.error e, s') => f e s'
      | .ok (.ok a, s') => .ok (.ok a, s') := by
  show Except.bind (x s) _ = _
  rcases x s with halt | ⟨e | a, s'⟩ <;> rfl

/-- To pass on every error is to catch none. -/
theorem tryCatch_throw (x : Expanding α) : (tryCatch x fun e => throw e) = x := by
  funext s
  rw [tryCatch_apply]
  rcases x s with halt | ⟨e | a, s'⟩ <;> rfl

theorem lift_apply (x : Except InclusionError α) (s : UriStack) :
    (liftM x : Expanding α) s = .ok (x, s) := rfl

theorem lift_bind (x : Except InclusionError β) (f : β → Except InclusionError α) :
    (liftM (x >>= f) : Expanding α) = (liftM x : Expanding β) >>= fun b => liftM (f b) := by
  cases x <;> rfl

theorem lift_map_bind {γ : Type} (x : Except InclusionError γ) (k : γ → β) (f : β → Expanding α) :
    ((liftM (x.map k) : Expanding β) >>= f) = (liftM x : Expanding γ) >>= fun c => f (k c) := by
  cases x <;> rfl

/-- What leaves every result as it is need not be done. -/
theorem lift_bind_eq_self {x : Except InclusionError α} {f : α → Expanding α}
    (h : ∀ a, x = .ok a → f a = pure a) : (liftM x : Expanding α) >>= f = liftM x := by
  cases x with
  | error e => rfl
  | ok a =>
    funext s
    show f a s = _
    rw [h a rfl]
    rfl

theorem get_apply (s : UriStack) : (get : Expanding UriStack) s = .ok (.ok s, s) := rfl

theorem ofReply_apply (reply : Reply) (s : UriStack) :
    ofReply reply s = reply.map fun answer => (answer, s) := rfl

/-- A reply of which more is asked. -/
theorem ofReply_map_bind (reply : Reply) (f : Document → Except InclusionError Document) :
    ofReply (reply.map fun read => read.bind f) = ofReply reply >>= fun d => liftM (f d) := by
  rcases reply with halt | e | d <;> rfl

/-- Only what is done to the document of a reply matters. -/
theorem ofReply_bind_congr {reply : Reply} {f g : Document → Expanding β}
    (h : ∀ d, reply = .ok (.ok d) → f d = g d) : ofReply reply >>= f = ofReply reply >>= g := by
  rcases reply with halt | e | d
  · rfl
  · rfl
  · funext s
    show f d s = g d s
    rw [h d rfl]

theorem enter_apply (uri : String) (s : UriStack) :
    enter uri s = match s.enter uri with
      | .ok s' => .ok (.ok (), s')
      | .error e => .ok (.error e, s) := by
  simp only [enter, bind_apply, get_apply, lift_apply]
  rcases s.enter uri with e | s' <;> rfl

theorem lift_bind_eq_ok_iff {x : Except InclusionError α} {f : α → Expanding β}
    {s s' : UriStack} {b : β} :
    ((liftM x : Expanding α) >>= f) s = .ok (.ok b, s')
      ↔ ∃ a, x = .ok a ∧ f a s = .ok (.ok b, s') := by
  rw [bind_apply, lift_apply]
  rcases x with e | a <;> simp

theorem ofReply_bind_eq_ok_iff {reply : Reply} {f : Document → Expanding β} {s s' : UriStack}
    {b : β} :
    (ofReply reply >>= f) s = .ok (.ok b, s')
      ↔ ∃ d, reply = .ok (.ok d) ∧ f d s = .ok (.ok b, s') := by
  rw [bind_apply, ofReply_apply]
  rcases reply with halt | e | d <;> simp [Except.map]

theorem enter_bind_eq_ok_iff {uri : String} {f : Unit → Expanding β} {s s' : UriStack} {b : β} :
    (enter uri >>= f) s = .ok (.ok b, s')
      ↔ ∃ t, s.enter uri = .ok t ∧ f () t = .ok (.ok b, s') := by
  rw [bind_apply, enter_apply]
  rcases s.enter uri with e | t <;> simp

/-- The result and the stack after a success. -/
def success? (x : Expanding α) (s : UriStack) : Option (α × UriStack) :=
  match x s with
  | .ok (.ok a, s') => some (a, s')
  | _ => none

theorem eq_of_success? {x : Expanding α} {s s' : UriStack} {a : α}
    (h : x.success? s = some (a, s')) : x s = .ok (.ok a, s') := by
  rw [success?] at h
  split at h
  · next a' s'' hx =>
    cases h
    exact hx
  · cases h

/-! ### Postconditions -/

/-- What holds after a computation that starts from the stack `s`: `ok` of its result and the stack
that it leaves, `failed` of its error and that stack. -/
def Ensures (x : Expanding α) (s : UriStack) (ok : α → UriStack → Prop)
    (failed : InclusionError → UriStack → Prop) : Prop :=
  match x s with
  | .error _ => True
  | .ok (.error e, s') => failed e s'
  | .ok (.ok a, s') => ok a s'

variable {s : UriStack} {ok : α → UriStack → Prop} {failed : InclusionError → UriStack → Prop}

theorem ensures_iff {x : Expanding α} :
    x.Ensures s ok failed ↔
      (∀ a s', x s = .ok (.ok a, s') → ok a s') ∧
        ∀ e s', x s = .ok (.error e, s') → failed e s' := by
  rw [Ensures]
  rcases x s with halt | ⟨e | a, s'⟩ <;> simp +contextual

theorem Ensures.mono {x : Expanding α} {ok' : α → UriStack → Prop}
    {failed' : InclusionError → UriStack → Prop} (h : x.Ensures s ok failed)
    (hok : ∀ a s', ok a s' → ok' a s') (hfailed : ∀ e s', failed e s' → failed' e s') :
    x.Ensures s ok' failed' := by
  rw [ensures_iff] at h ⊢
  exact ⟨fun a s' hx => hok a s' (h.1 a s' hx), fun e s' hx => hfailed e s' (h.2 e s' hx)⟩

@[simp] theorem ensures_pure {a : α} : (pure a : Expanding α).Ensures s ok failed ↔ ok a s :=
  Iff.rfl

@[simp] theorem ensures_throw {e : InclusionError} :
    (throw e : Expanding α).Ensures s ok failed ↔ failed e s := Iff.rfl

@[simp] theorem ensures_halt {halt : Halt} :
    (Expanding.halt halt : Expanding α).Ensures s ok failed := trivial

@[simp] theorem ensures_get {ok : UriStack → UriStack → Prop} :
    (get : Expanding UriStack).Ensures s ok failed ↔ ok s s := Iff.rfl

@[simp] theorem ensures_modify {f : UriStack → UriStack} {ok : Unit → UriStack → Prop} :
    (modify f : Expanding Unit).Ensures s ok failed ↔ ok () (f s) := Iff.rfl

@[simp] theorem ensures_lift {x : Except InclusionError α} :
    (liftM x : Expanding α).Ensures s ok failed ↔
      (∀ a, x = .ok a → ok a s) ∧ ∀ e, x = .error e → failed e s := by
  rcases x with e | a <;> simp [Ensures, lift_apply]

@[simp] theorem ensures_ofReply {reply : Reply} {ok : Document → UriStack → Prop} :
    (ofReply reply).Ensures s ok failed ↔
      (∀ d, reply = .ok (.ok d) → ok d s) ∧ ∀ e, reply = .ok (.error e) → failed e s := by
  rcases reply with halt | e | d <;> simp [Ensures, ofReply_apply, Except.map]

@[simp] theorem ensures_enter {uri : String} {ok : Unit → UriStack → Prop} :
    (enter uri).Ensures s ok failed ↔
      (∀ s', s.enter uri = .ok s' → ok () s') ∧ ∀ e, s.enter uri = .error e → failed e s := by
  simp only [Ensures, enter_apply]
  rcases s.enter uri with e | s' <;> simp

@[simp] theorem ensures_bind {x : Expanding β} {f : β → Expanding α} :
    (x >>= f).Ensures s ok failed
      ↔ x.Ensures s (fun b s' => (f b).Ensures s' ok failed) failed := by
  simp only [Ensures, bind_apply]
  rcases x s with halt | ⟨e | b, s'⟩ <;> rfl

@[simp] theorem ensures_tryCatch {x : Expanding α} {f : InclusionError → Expanding α} :
    (tryCatch x f).Ensures s ok failed ↔
      x.Ensures s ok fun e s' => (f e).Ensures s' ok failed := by
  simp only [Ensures, tryCatch_apply]
  rcases x s with halt | ⟨e | a, s'⟩ <;> rfl

/-- A sequence of computations keeps what each of them keeps. -/
theorem ensures_mapM {f : β → Expanding α} {xs : List β} {holds : α → Prop}
    {kept : UriStack → Prop} (hs : kept s)
    (h : ∀ x ∈ xs, ∀ s, kept s → (f x).Ensures s (fun a s' => holds a ∧ kept s') failed) :
    (xs.mapM f).Ensures s (fun as s' => (∀ a ∈ as, holds a) ∧ kept s') failed := by
  induction xs generalizing s with
  | nil => simpa using hs
  | cons x xs ih =>
    simp only [List.mapM_cons, ensures_bind, ensures_pure]
    refine (h x List.mem_cons_self s hs).mono (fun a s' ha => ?_) fun _ _ he => he
    refine (ih ha.2 fun y hy => h y (List.mem_cons_of_mem x hy)).mono ?_ fun _ _ he => he
    intro as s'' has
    exact ⟨List.forall_mem_cons.mpr ⟨ha.1, has.1⟩, has.2⟩

/-- Every result of the computation satisfies `holds`, whatever stack it starts from. -/
structure Yields (x : Expanding α) (holds : α → Prop) : Prop where
  ensures : ∀ s, x.Ensures s (fun a _ => holds a) fun _ _ => True

variable {holds : α → Prop} {holds' : β → Prop}

theorem yields_pure {a : α} (h : holds a) : (pure a : Expanding α).Yields holds := ⟨fun _ => h⟩

theorem yields_throw {e : InclusionError} : (throw e : Expanding α).Yields holds :=
  ⟨fun _ => trivial⟩

theorem yields_halt {halt : Halt} : (Expanding.halt halt : Expanding α).Yields holds :=
  ⟨fun _ => trivial⟩

theorem yields_get : (get : Expanding UriStack).Yields fun _ => True := ⟨fun _ => trivial⟩

theorem yields_modify {f : UriStack → UriStack} :
    (modify f : Expanding Unit).Yields fun _ => True := ⟨fun _ => trivial⟩

theorem yields_lift {x : Except InclusionError α} :
    (liftM x : Expanding α).Yields fun a => x = .ok a :=
  ⟨fun _ => ensures_lift.mpr ⟨fun _ h => h, fun _ _ => trivial⟩⟩

theorem Yields.bind {x : Expanding α} {f : α → Expanding β} (given : x.Yields holds)
    (next : ∀ a, holds a → (f a).Yields holds') : (x >>= f).Yields holds' :=
  ⟨fun s => ensures_bind.mpr ((given.ensures s).mono (fun a s' h => (next a h).ensures s')
    fun _ _ h => h)⟩

/-- The results are those that the computation comes to from some stack. -/
theorem Yields.reached {x : Expanding α} (given : x.Yields holds) :
    x.Yields fun a => holds a ∧ ∃ s t, x s = .ok (.ok a, t) := by
  refine ⟨fun s => ensures_iff.mpr ⟨fun a t outcome => ?_, fun _ _ _ => trivial⟩⟩
  exact ⟨(ensures_iff.mp (given.ensures s)).1 a t outcome, s, t, outcome⟩

theorem Yields.map {x : Expanding α} {f : α → β} (given : x.Yields holds)
    (kept : ∀ a, holds a → holds' (f a)) : (x >>= fun a => pure (f a)).Yields holds' :=
  given.bind fun a h => yields_pure (kept a h)

theorem Yields.tryCatch {x : Expanding α} {f : InclusionError → Expanding α}
    (given : x.Yields holds) (other : ∀ e, (f e).Yields holds) :
    (tryCatchThe InclusionError x f).Yields holds :=
  ⟨fun s => ensures_tryCatch.mpr ((given.ensures s).mono (fun _ _ h => h)
    fun e s' _ => (other e).ensures s')⟩

end Expanding

end Transclusion
