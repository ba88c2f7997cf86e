import Mathlib.Data.List.Induction
import Mathlib.Tactic.Common
/-!
# Outcomes of computations that can fail

What is known of the parts of a computation in `Except` from its success: both parts of a sequence
have succeeded (`bind_eq_ok_iff`), and so has every step of a fold, so that it keeps what each step
keeps (`foldlM_keeps`), also where that depends on the steps so far (`foldlM_keeps_so_far`).  A
computation that fails does so in one of its parts, with an error of that part (`FailsOnly`).  Two
computations agree if they fail with the same error or succeed with
results that are related (`Agree`); sequences of computations that agree do so too.
-/

namespace Transclusion

variable {ε ε' α β : Type}

theorem bind_eq_ok_iff {x : Except ε α} {f : α → Except ε β} {b : β} :
    x >>= f = .ok b ↔ ∃ a, x = .ok a ∧ f a = .ok b := by
  cases x with
  | error e => exact ⟨nofun, nofun⟩
  | ok a => exact ⟨fun h => ⟨a, rfl, h⟩, fun ⟨_, ha, h⟩ => by cases ha; exact h⟩

/-- The same for computations that can also stop for another reason. -/
theorem bind_eq_ok_ok_iff {x : ExceptT ε (Except ε') α} {f : α → ExceptT ε (Except ε') β} {b : β} :
    x >>= f = Except.ok (Except.ok b)
      ↔ ∃ a, x = Except.ok (Except.ok a) ∧ f a = Except.ok (Except.ok b) := by
  rcases x with e | e | a
  · exact ⟨nofun, nofun⟩
  · exact ⟨nofun, nofun⟩
  · exact ⟨fun h => ⟨a, rfl, h⟩, fun ⟨_, ha, h⟩ => by cases ha; exact h⟩

theorem mapError_eq_ok_iff {x : Except ε α} {f : ε → ε'} {a : α} :
    x.mapError f = .ok a ↔ x = .ok a := by
  cases x with
  | error e => exact ⟨nofun, nofun⟩
  | ok a' => simp [Except.mapError]

theorem eq_ok_of_toOption {x : Except ε α} {a : α} (h : x.toOption = some a) : x = .ok a := by
  cases x with
  | error e => cases h
  | ok a' => rw [Option.some.inj h]

/-- A fold that succeeds keeps what each of its steps keeps. -/
theorem foldlM_keeps {f : β → α → Except ε β} (kept : β → Prop) {xs : List α} {b b' : β}
    (hb : kept b) (step : ∀ b x b', kept b → x ∈ xs → f b x = .ok b' → kept b')
    (h : xs.foldlM f b = .ok b') : kept b' := by
  induction xs generalizing b with
  | nil =>
    cases h
    exact hb
  | cons x xs ih =>
    rw [List.foldlM_cons, bind_eq_ok_iff] at h
    obtain ⟨next, hnext, hrest⟩ := h
    have hkept := step b x next hb List.mem_cons_self hnext
    exact ih hkept (fun b y b' hb hy => step b y b' hb (List.mem_cons_of_mem x hy)) hrest

/-- The same for what depends on the steps so far. -/
theorem foldlM_keeps_so_far {f : β → α → Except ε β} (kept : List α → β → Prop) {b b' : β}
    (start : kept [] b)
    (step : ∀ before x b b', kept before b → f b x = .ok b' → kept (before ++ [x]) b')
    {xs : List α} (h : xs.foldlM f b = .ok b') : kept xs b' := by
  induction xs using List.reverseRecOn generalizing b' with
  | nil =>
    cases h
    exact start
  | append_singleton xs x ih =>
    rw [List.foldlM_append] at h
    obtain ⟨last, before, h⟩ := bind_eq_ok_iff.mp h
    rw [List.foldlM_cons] at h
    obtain ⟨next, here, h⟩ := bind_eq_ok_iff.mp h
    cases h
    exact step xs x last _ (ih before) here

/-- Two folds whose steps agree along a map agree along it. -/
theorem foldlM_semiconj {γ : Type} {f : β → α → Except ε β} {g : γ → α → Except ε γ} (k : β → γ)
    {xs : List α} (step : ∀ b, ∀ x ∈ xs, g (k b) x = (f b x).map k) (b : β) :
    xs.foldlM g (k b) = (xs.foldlM f b).map k := by
  induction xs generalizing b with
  | nil => rfl
  | cons x xs ih =>
    have later := ih fun b y hy => step b y (List.mem_cons_of_mem x hy)
    rw [List.foldlM_cons, List.foldlM_cons, step b x List.mem_cons_self]
    cases f b x with
    | error e => rfl
    | ok b' => exact later b'

/-- The results of a list exist, if those of its members do. -/
theorem exists_mapM_iff {f : α → Except ε β} {xs : List α} :
    (∃ ys, xs.mapM f = .ok ys) ↔ ∀ x ∈ xs, ∃ y, f x = .ok y := by
  induction xs with
  | nil => exact ⟨fun _ => nofun, fun _ => ⟨[], rfl⟩⟩
  | cons x xs ih =>
    rw [List.forall_mem_cons, ← ih]
    constructor
    · rintro ⟨ys, h⟩
      rw [List.mapM_cons] at h
      obtain ⟨y, hy, h⟩ := bind_eq_ok_iff.mp h
      obtain ⟨rest, hrest, -⟩ := bind_eq_ok_iff.mp h
      exact ⟨⟨y, hy⟩, rest, hrest⟩
    · rintro ⟨⟨y, hy⟩, rest, hrest⟩
      refine ⟨y :: rest, ?_⟩
      rw [List.mapM_cons, hy, hrest]
      rfl

/-- Among the results of a list are those of its members. -/
theorem mem_mapM_iff {f : α → Except ε β} {xs : List α} {ys : List β} {y : β}
    (h : xs.mapM f = .ok ys) : y ∈ ys ↔ ∃ x ∈ xs, f x = .ok y := by
  induction xs generalizing ys with
  | nil =>
    cases h
    simp
  | cons x xs ih =>
    rw [List.mapM_cons] at h
    obtain ⟨first, hfirst, h⟩ := bind_eq_ok_iff.mp h
    obtain ⟨rest, hrest, h⟩ := bind_eq_ok_iff.mp h
    cases h
    simp [ih hrest, hfirst, eq_comm]

/-- What is known of each result is known of all results of a list. -/
theorem forall_mem_of_mapM {f : α → Except ε β} {holds : β → Prop} {xs : List α} {ys : List β}
    (h : xs.mapM f = .ok ys) (each : ∀ x ∈ xs, ∀ y, f x = .ok y → holds y) :
    ∀ y ∈ ys, holds y := by
  intro y hy
  obtain ⟨x, hx, found⟩ := (mem_mapM_iff h).mp hy
  exact each x hx y found

/-! ### Errors -/

/-- All errors that a computation may fail with have the property. -/
def FailsOnly (p : ε → Prop) (x : Except ε α) : Prop := ∀ e, x = .error e → p e

section

variable {p : ε → Prop}

theorem failsOnly_ok (a : α) : FailsOnly p (.ok a : Except ε α) := nofun

theorem failsOnly_error {e : ε} (h : p e) : FailsOnly p (.error e : Except ε α) := by
  rintro _ ⟨⟩
  exact h

theorem FailsOnly.bind {x : Except ε α} {f : α → Except ε β} (h : FailsOnly p x)
    (next : ∀ a, x = .ok a → FailsOnly p (f a)) : FailsOnly p (x >>= f) := by
  cases x with
  | error e => exact failsOnly_error (h e rfl)
  | ok a => exact next a rfl

/-- A fold fails in one of its steps, after steps that have kept what each step keeps. -/
theorem failsOnly_foldlM {f : β → α → Except ε β} (kept : β → Prop) {xs : List α} {b : β}
    (hb : kept b) (step : ∀ b x b', kept b → f b x = .ok b' → kept b')
    (each : ∀ b x, kept b → FailsOnly p (f b x)) : FailsOnly p (xs.foldlM f b) := by
  induction xs generalizing b with
  | nil => exact failsOnly_ok b
  | cons x xs ih =>
    rw [List.foldlM_cons]
    exact (each b x hb).bind fun next h => ih (step b x next hb h)

end

/-! ### Computations that agree -/

/-- Two computations fail with the same error, or their results are related. -/
inductive Agree (rel : α → β → Prop) : Except ε α → Except ε β → Prop where
  | ok {a : α} {b : β} (related : rel a b) : Agree rel (.ok a) (.ok b)
  | error (e : ε) : Agree rel (.error e) (.error e)

section

variable {α' β' : Type} {rel : α → β → Prop} {rel' : α' → β' → Prop} {x : Except ε α}
  {y : Except ε β}

theorem agree_self {rel : α → α → Prop} (refl : ∀ a, rel a a) (x : Except ε α) : Agree rel x x := by
  cases x with
  | error e => exact .error e
  | ok a => exact .ok (refl a)

theorem Agree.mono {rel' : α → β → Prop} (h : Agree rel x y) (weaker : ∀ a b, rel a b → rel' a b) :
    Agree rel' x y := by
  cases h with
  | ok related => exact .ok (weaker _ _ related)
  | error e => exact .error e

theorem Agree.bind (h : Agree rel x y) {f : α → Except ε α'} {g : β → Except ε β'}
    (next : ∀ a b, rel a b → Agree rel' (f a) (g b)) : Agree rel' (x >>= f) (y >>= g) := by
  cases h with
  | ok related => exact next _ _ related
  | error e => exact .error e

/-- The second parts need only agree from results of the first ones. -/
theorem Agree.bind_of_ok (h : Agree rel x y) {f : α → Except ε α'} {g : β → Except ε β'}
    (next : ∀ a b, x = .ok a → rel a b → Agree rel' (f a) (g b)) :
    Agree rel' (x >>= f) (y >>= g) := by
  cases h with
  | ok related => exact next _ _ rfl related
  | error e => exact .error e

theorem Agree.mapError (h : Agree rel x y) (f : ε → ε') :
    Agree rel (x.mapError f) (y.mapError f) := by
  cases h with
  | ok related => exact .ok related
  | error e => exact .error (f e)

theorem agree_ite {c : Prop} [Decidable c] {x' : Except ε α} {y' : Except ε β}
    (yes : c → Agree rel x y) (no : ¬c → Agree rel x' y') :
    Agree rel (if c then x else x') (if c then y else y') := by
  split
  · next h => exact yes h
  · next h => exact no h

theorem agree_mapM {f : α → Except ε α'} {g : β → Except ε β'} {xs : List α} {ys : List β}
    (h : List.Forall₂ rel xs ys) (each : ∀ a b, rel a b → Agree rel' (f a) (g b)) :
    Agree (List.Forall₂ rel') (xs.mapM f) (ys.mapM g) := by
  induction h with
  | nil => exact .ok .nil
  | cons first _ ih =>
    rw [List.mapM_cons, List.mapM_cons]
    refine (each _ _ first).bind fun a b related => ?_
    exact ih.bind fun as bs rest => .ok (.cons related rest)

end

end Transclusion
