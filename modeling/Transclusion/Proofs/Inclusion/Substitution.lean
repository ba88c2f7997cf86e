import Transclusion.Inclusion.Control
/-!
# A walk as a substitution

A walk asks its handler for one document after the other and then puts their content into the
forest.  `Forest.encounters` lists the control elements that the handler is asked about, and
`Forest.fill` puts the answers in their places.

* `Forest.walk_eq_fill`: over every lawful monad a walk is `mapM` over the encounters followed by
  `fill`.

So what is to be shown of all walks is shown of lists of handler calls.
-/

namespace Transclusion

/-- A control element that a walk comes upon, with its number. -/
structure Encounter where
  control : Control
  id : Nat
  element : Element
deriving DecidableEq, Repr

/-- The answer of a handler to a control element. -/
def ControlHandler.answer {m : Type → Type} (handle : ControlHandler m) (x : Encounter) :
    m Document :=
  handle x.control x.id x.element

namespace Forest

variable (controls : ControlRegistry)

/-- The control elements of a forest that are not inside of others, in document order. -/
def encounters (first : Nat) : Forest → List Encounter
  | nil => []
  | leaf _ rest => rest.encounters (first + 1)
  | element e content rest =>
    match controls.get? e.name with
    | some control => ⟨control, first, e⟩ :: rest.encounters (first + content.size + 1)
    | none => content.encounters (first + 1) ++ rest.encounters (first + content.size + 1)

/-- The forest with its control elements replaced, each by the content of the next answer. -/
def fill : Forest → List Document → Forest
  | nil, _ => nil
  | leaf l rest, answers => consLeaf l (rest.fill answers)
  | element e content rest, answers =>
    match controls.get? e.name with
    | some _ => ((answers.head?.map (·.content)).getD nil).append (rest.fill answers.tail)
    | none =>
      let inside := (content.encounters controls 0).length
      element e (content.fill (answers.take inside)) (rest.fill (answers.drop inside))

theorem length_encounters (first first' : Nat) (f : Forest) :
    (f.encounters controls first).length = (f.encounters controls first').length := by
  induction f generalizing first first' with
  | nil => rfl
  | leaf l rest ih => exact ih (first + 1) (first' + 1)
  | element e content rest ihc ihr =>
    have hc := ihc (first + 1) (first' + 1)
    have hr := ihr (first + content.size + 1) (first' + content.size + 1)
    cases h : controls.get? e.name <;> simp [encounters, h, hc, hr]

end Forest

/-- What follows a `mapM` only needs to be known for lists of the right length. -/
theorem bind_mapM_congr {m : Type → Type} [Monad m] [LawfulMonad m] {α β γ : Type}
    {f : α → m β} {g g' : List β → m γ} {l : List α}
    (h : ∀ bs, bs.length = l.length → g bs = g' bs) : l.mapM f >>= g = l.mapM f >>= g' := by
  induction l generalizing g g' with
  | nil => simp [h [] rfl]
  | cons a l ih =>
    simp only [List.mapM_cons, bind_assoc, pure_bind]
    congr 1
    funext b
    exact ih fun bs hbs => h (b :: bs) (by simp [hbs])

/-- **A walk is a substitution**: the handler is asked about the encounters in document order, and
then its answers are filled in. -/
theorem Forest.walk_eq_fill {m : Type → Type} [Monad m] [LawfulMonad m]
    (controls : ControlRegistry) (handle : ControlHandler m) (first : Nat) (f : Forest) :
    f.walk controls handle first
      = (f.encounters controls first).mapM handle.answer >>= fun answers =>
          pure (f.fill controls answers) := by
  induction f generalizing first with
  | nil => simp [walk, encounters, fill]
  | leaf l rest ih => simp [walk, encounters, fill, ih]
  | element e content rest ihc ihr =>
    cases h : controls.get? e.name with
    | some control => simp [walk, encounters, fill, h, ihr, ControlHandler.answer]
    | none =>
      simp only [walk, encounters, fill, h, List.mapM_append, ihc, ihr, bind_assoc, pure_bind]
      refine bind_mapM_congr (m := m) fun inside hinside => ?_
      congr 1
      funext after
      -- the answers to what is inside the element come first, as many as it has encounters
      simp [length_encounters controls 0 (first + 1), ← hinside]

end Transclusion
