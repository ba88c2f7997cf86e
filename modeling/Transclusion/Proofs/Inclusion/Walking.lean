import Transclusion.Proofs.Inclusion.OutermostControls
import Transclusion.Proofs.Markup.Merging
/-!
# Walking is substitution

What a walk puts in the places of control elements is said by a substitution that leaves all texts
as they are (`Forest.splice`), after which the texts are merged.  A handler can keep a state and
fail, so that a walk ends with the first call that fails, or with all calls answered
(`ControlHandler.Answers`).

`Document.copy` is the same walk with a builder at hand, to which the copy is added step by step.
These steps could fail, but never do (`Forest.copyInto_eq`).

* `Forest.merge_fill`: filling in answers is substituting them, up to merging texts.
* `Handling.outcome_mapM`: a row of calls is answered up to the first that fails.
* `Document.walk_substitutes`: what a walk does, for all documents, registries and handlers.
-/

namespace Transclusion

/-! ### Substitution -/

namespace Forest

variable {controls : ControlRegistry}

/-- The forest with the content for its number in the place of each control element, all texts left
as they are; `first` is the number of the first node. -/
def splice (controls : ControlRegistry) (content : Nat → Forest) (first : Nat) : Forest → Forest
  | nil => nil
  | leaf l rest => leaf l (rest.splice controls content (first + 1))
  | element e inside rest =>
    let behind := rest.splice controls content (first + inside.size + 1)
    match controls.get? e.name with
    | some _ => (content first).concat behind
    | none => element e (inside.splice controls content (first + 1)) behind

/-- **Filling in answers is substituting them**, up to merging texts. -/
theorem merge_fill {content : Nat → Forest} {f : Forest} {first : Nat} {answers : List Document}
    (answered : (f.encounters controls first).map (fun x => content x.id)
      = answers.map (·.content)) :
    (f.fill controls answers).merge = (f.splice controls content first).merge := by
  induction f generalizing first answers with
  | nil => rfl
  | leaf l rest ih => rw [fill, splice, merge_consLeaf, merge, ih answered]
  | element e inside rest ihc ihr =>
    rw [encounters] at answered
    rw [fill, splice]
    cases registered : controls.get? e.name with
    | some control =>
      rw [registered, List.map_cons] at answered
      cases answers with
      | nil => cases answered
      | cons a answers =>
        obtain ⟨here, behind⟩ := List.cons.inj answered
        dsimp only at here
        rw [merge_concat, merge_append, here, ← ihr behind]
        rfl
    | none =>
      rw [registered, List.map_append] at answered
      obtain ⟨inner, outer, rfl, inAnswered, outAnswered⟩ :=
        List.map_eq_append_iff.mp answered.symm
      -- The content takes as many answers as it has encounters, and what follows takes the others.
      have length : (inside.encounters controls 0).length = inner.length := by
        have asked := congrArg List.length inAnswered
        rw [List.length_map, List.length_map] at asked
        rw [length_encounters controls 0 (first + 1), asked]
      dsimp only
      rw [length, List.take_left, List.drop_left, merge, merge, ihc inAnswered.symm,
        ihr outAnswered.symm]

/-- What is filled with merged answers is merged. -/
theorem isMerged_fill {f : Forest} {answers : List Document}
    (merged : ∀ a ∈ answers, a.content.isMerged) : (f.fill controls answers).isMerged := by
  induction f generalizing answers with
  | nil => rfl
  | leaf l rest ih => exact isMerged_consLeaf l (ih merged)
  | element e inside rest ihc ihr =>
    rw [fill]
    split
    · cases answers with
      | nil => exact isMerged_append rfl (ihr merged)
      | cons a answers =>
        obtain ⟨here, behind⟩ := List.forall_mem_cons.mp merged
        exact isMerged_append here (ihr behind)
    · exact isMerged_element.mpr ⟨ihc fun a ha => merged a (List.mem_of_mem_take ha),
        ihr fun a ha => merged a (List.mem_of_mem_drop ha)⟩

end Forest

/-! ### Copying into a builder -/

/-- Adds the nodes of a forest one by one. -/
def Builder.append (b : Builder) : Forest → Except TreeError Builder
  | .nil => .ok b
  | .leaf l rest => (b.addLeaf l).append rest
  | .element e content rest => do
    let inside ← (b.openElement e).append content
    let b ← inside.closeElement
    b.append rest

theorem Builder.append_eq (b : Builder) (f : Forest) : b.append f = .ok (b.addForest f) := by
  induction f generalizing b with
  | nil => rfl
  | leaf l rest ih => exact ih (b.addLeaf l)
  | element e content rest ihc ihr =>
    rw [append, ihc]
    show ((b.openElement e).addForest content).closeElement >>= _ = _
    rw [closeElement_addForest]
    exact ihr _

section

variable {m : Type → Type} [Monad m] (controls : ControlRegistry) (handle : ControlHandler m)

/-- Adds a copy of a forest to a builder, control elements being replaced by what the handler
answers. -/
def Forest.copyInto (b : Builder) (first : Nat) : Forest → ExceptT TreeError m Builder
  | nil => return b
  | leaf l rest => rest.copyInto (b.addLeaf l) (first + 1)
  | element e content rest =>
    match controls.get? e.name with
    | some control => do
      let replacement ← ExceptT.lift (handle control first e)
      let b ← ExceptT.mk (pure (b.append replacement.content))
      rest.copyInto b (first + content.size + 1)
    | none => do
      let inside ← content.copyInto (b.openElement e) (first + 1)
      let b ← ExceptT.mk (pure inside.closeElement)
      rest.copyInto b (first + content.size + 1)

/-- A node of a document, copied with a builder. -/
def Document.copy (d : Document) (id : Nat) : ExceptT TreeError m Document := do
  let b ← (d.walked id).2.copyInto controls handle (.start d.base) (d.walked id).1
  ExceptT.mk (pure b.finish)

variable [LawfulMonad m]

omit [LawfulMonad m] in
theorem TreeError.ok_pure {α : Type} (a : α) :
    (ExceptT.mk (pure (.ok a)) : ExceptT TreeError m α) = pure a := rfl

theorem TreeError.lift_pure {α : Type} (a : α) :
    (ExceptT.lift (pure a : m α) : ExceptT TreeError m α) = pure a := by
  refine ExceptT.ext ?_
  simp

theorem TreeError.lift_bind {α β : Type} (x : m α) (f : α → m β) :
    (ExceptT.lift (x >>= f) : ExceptT TreeError m β)
      = ExceptT.lift x >>= fun a => ExceptT.lift (f a) := by
  refine ExceptT.ext ?_
  simp

open TreeError in
/-- **The builder refuses nothing**: copying with it is walking, and then adding what comes out. -/
theorem Forest.copyInto_eq (b : Builder) (first : Nat) (f : Forest) :
    f.copyInto controls handle b first
      = ExceptT.lift (f.walk controls handle first >>= fun g => pure (b.addForest g)) := by
  induction f generalizing b first with
  | nil => simp [copyInto, walk, Builder.addForest]
  | leaf l rest ih => simp [copyInto, walk, ih, Builder.addForest_consLeaf]
  | element e content rest ihc ihr =>
    cases registered : controls.get? e.name with
    | some control =>
      simp only [copyInto, walk, registered, Builder.append_eq, ok_pure, pure_bind, ihr,
        lift_bind, bind_assoc, Builder.addForest_append]
    | none =>
      -- What has been added inside the element is closed at once.
      simp only [copyInto, walk, registered, ihc, ihr, lift_bind, bind_assoc, lift_pure, pure_bind,
        Builder.closeElement_addForest, ok_pure]
      rfl

open TreeError in
/-- Copying a node with a builder is walking it, and merging what comes out. -/
theorem Document.copy_eq (d : Document) (id : Nat) :
    d.copy controls handle id
      = ExceptT.lift ((d.walked id).2.walk controls handle (d.walked id).1 >>= fun f =>
          pure ⟨d.base, f.merge⟩) := by
  simp only [copy, Forest.copyInto_eq, lift_bind, bind_assoc, lift_pure, pure_bind,
    Builder.finish_addForest_merge, ok_pure]

end

/-! ### Handlers with a state -/

/-- Computations that keep a state and can fail. -/
abbrev Handling (ε σ : Type) : Type → Type := ExceptT ε (StateM σ)

namespace Handling

variable {ε σ α β : Type}

/-- What comes out of a computation from a state: a result or an error, and the state that it
leaves. -/
def outcome (x : Handling ε σ α) (s : σ) : Except ε α × σ := x.run.run s

theorem outcome_bind (x : Handling ε σ α) (f : α → Handling ε σ β) (s : σ) :
    outcome (x >>= f) s = match outcome x s with
      | (.ok a, s') => outcome (f a) s'
      | (.error e, s') => (.error e, s') := by
  show ExceptT.bindCont f (outcome x s).1 (outcome x s).2 = _
  rcases outcome x s with ⟨e | a, s'⟩ <;> rfl

theorem outcome_map (x : Handling ε σ α) (f : α → β) (s : σ) :
    outcome (x >>= fun a => pure (f a)) s = ((outcome x s).1.map f, (outcome x s).2) := by
  rw [outcome_bind]
  rcases outcome x s with ⟨e | a, s'⟩ <;> rfl

/-- A computation without a builder does not fail with an error of the builder. -/
theorem outcome_lift (x : Handling ε σ α) (s : σ) :
    outcome (ExceptT.lift x : ExceptT TreeError (Handling ε σ) α).run s
      = ((outcome x s).1.map Except.ok, (outcome x s).2) := by
  rw [ExceptT.run_lift, ← bind_pure_comp]
  exact outcome_map x Except.ok s

end Handling

section

open Handling

variable {ε σ : Type}

/-- The handler answers these calls one after the other, starting in the first state and ending in
the last. -/
inductive ControlHandler.Answers (handle : ControlHandler (Handling ε σ)) :
    σ → List (Encounter × Document) → σ → Prop where
  | nil (s : σ) : Answers handle s [] s
  | cons {s s₁ s' : σ} {x : Encounter} {reply : Document} {rest : List (Encounter × Document)}
      (call : outcome (handle.answer x) s = (.ok reply, s₁)) (behind : Answers handle s₁ rest s') :
      Answers handle s ((x, reply) :: rest) s'

variable {handle : ControlHandler (Handling ε σ)}

/-- Calls are made up to the first that fails: either all are answered, or one fails, and then the
error is its error and the state the one that it leaves. -/
theorem Handling.outcome_mapM (handle : ControlHandler (Handling ε σ)) (calls : List Encounter)
    (s : σ) :
    (∃ answered s', answered.map (·.1) = calls ∧ handle.Answers s answered s'
        ∧ outcome (calls.mapM handle.answer) s = (.ok (answered.map (·.2)), s'))
      ∨ ∃ answered x after s₁ error s', calls = answered.map (·.1) ++ x :: after
        ∧ handle.Answers s answered s₁ ∧ outcome (handle.answer x) s₁ = (.error error, s')
        ∧ outcome (calls.mapM handle.answer) s = (.error error, s') := by
  induction calls generalizing s with
  | nil => exact .inl ⟨[], s, rfl, .nil s, rfl⟩
  | cons x calls ih =>
    rw [List.mapM_cons]
    rcases call : outcome (handle.answer x) s with ⟨error | reply, s₁⟩
    · -- The first call fails, and no other one is made.
      refine .inr ⟨[], x, calls, s, error, s₁, rfl, .nil s, call, ?_⟩
      rw [outcome_bind, call]
    · rw [outcome_bind, call]
      dsimp only
      rw [outcome_bind]
      rcases ih s₁ with ⟨answered, s', rfl, answers, all⟩
        | ⟨answered, y, after, s₂, error, s', rfl, answers, fails, all⟩
      · refine .inl ⟨(x, reply) :: answered, s', rfl, .cons call answers, ?_⟩
        rw [all]
        rfl
      · refine .inr ⟨(x, reply) :: answered, y, after, s₂, error, s', rfl, .cons call answers,
          fails, ?_⟩
        rw [all]

/-- What was answered to the call with a number. -/
def contentFor (answered : List (Encounter × Document)) (i : Nat) : Forest :=
  ((answered.find? fun a => a.1.id = i).map (·.2.content)).getD .nil

/-- Numbers ascend, so an answer is found by the number of its call. -/
theorem find?_answered {answered : List (Encounter × Document)}
    (ascending : (answered.map (·.1)).Pairwise (·.id < ·.id)) {a : Encounter × Document}
    (ha : a ∈ answered) : answered.find? (fun b => b.1.id = a.1.id) = some a := by
  induction answered with
  | nil => cases ha
  | cons b rest ih =>
    obtain ⟨first, behind⟩ := List.pairwise_cons.mp ascending
    obtain rfl | later := List.mem_cons.mp ha
    · exact List.find?_cons_of_pos (by simp)
    · have other := first a.1 (List.mem_map_of_mem later)
      rw [List.find?_cons_of_neg (by simpa using Nat.ne_of_lt other)]
      exact ih behind later

theorem map_contentFor {answered : List (Encounter × Document)}
    (ascending : (answered.map (·.1)).Pairwise (·.id < ·.id)) :
    (answered.map (·.1)).map (fun x => contentFor answered x.id)
      = (answered.map (·.2)).map (·.content) := by
  rw [List.map_map, List.map_map]
  refine List.map_congr_left fun a ha => ?_
  rw [Function.comp_apply, contentFor, find?_answered ascending ha]
  rfl

/-- The subtree of a node with these contents in the places of its control elements, as it is. -/
def Document.spliced (d : Document) (controls : ControlRegistry) (content : Nat → Forest)
    (id : Nat) : Forest :=
  (d.walked id).2.splice controls content (d.walked id).1

section

variable (d : Document) (id : Nat) (controls : ControlRegistry)
  (handle : ControlHandler (Handling ε σ)) (s : σ)

theorem Document.outcome_walk :
    outcome (d.walk controls handle id) s
      = let calls := (d.walked id).2.encounters controls (d.walked id).1
        let called := outcome (calls.mapM handle.answer) s
        (called.1.map fun answers => ⟨d.base, (d.walked id).2.fill controls answers⟩,
          called.2) := by
  rw [walk_eq_walked, outcome_map, Forest.walk_eq_fill, outcome_map]
  dsimp only
  rcases outcome _ s with ⟨error | answers, s'⟩ <;> rfl

theorem Document.outcome_copy :
    outcome (d.copy controls handle id).run s
      = let calls := (d.walked id).2.encounters controls (d.walked id).1
        let called := outcome (calls.mapM handle.answer) s
        (called.1.map fun answers =>
          .ok ⟨d.base, ((d.walked id).2.fill controls answers).merge⟩, called.2) := by
  rw [copy_eq, outcome_lift, outcome_map, Forest.walk_eq_fill, outcome_map]
  dsimp only
  rcases outcome _ s with ⟨error | answers, s'⟩ <;> rfl

/-- **Walking is substitution.**  A walk calls its handler for the outermost control elements of the
subtree, in document order and with their own numbers.  If all calls are answered, the result is the
subtree with the answers in the places of the control elements, and then texts are merged.  If a
call fails, the walk fails with its error and in its state, and no call behind it is made.

This is so whatever the answers are if the copy is made with a builder, which refuses nothing; a
walk without one takes it that texts are merged in the answers, as they are in all documents that
are built. -/
theorem Document.walk_substitutes :
    ∃ calls, d.OutermostControls controls id calls
      ∧ ((∃ answered s', answered.map (·.1) = calls ∧ handle.Answers s answered s'
            ∧ outcome (d.copy controls handle id).run s
              = (.ok (.ok ⟨d.base, (d.spliced controls (contentFor answered) id).merge⟩), s')
            ∧ ((∀ a ∈ answered, a.2.content.isMerged) →
              outcome (d.walk controls handle id) s
                = (.ok ⟨d.base, (d.spliced controls (contentFor answered) id).merge⟩, s')))
        ∨ ∃ answered x after s₁ error s', calls = answered.map (·.1) ++ x :: after
            ∧ handle.Answers s answered s₁ ∧ outcome (handle.answer x) s₁ = (.error error, s')
            ∧ outcome (d.copy controls handle id).run s = (.error error, s')
            ∧ outcome (d.walk controls handle id) s = (.error error, s')) := by
  have outermost := d.outermostControls_walked controls id
  refine ⟨_, outermost, ?_⟩
  rw [outcome_walk, outcome_copy]
  dsimp only
  rcases Handling.outcome_mapM handle ((d.walked id).2.encounters controls (d.walked id).1) s with
    ⟨answered, s', calls, answers, all⟩
    | ⟨answered, x, after, s₁, error, s', calls, answers, fails, all⟩
  · have filled : ((d.walked id).2.fill controls (answered.map (·.2))).merge
        = (d.spliced controls (contentFor answered) id).merge := by
      refine Forest.merge_fill ?_
      have ascending := outermost.ascending
      rw [← calls] at ascending ⊢
      exact map_contentFor ascending
    rw [all]
    refine .inl ⟨answered, s', calls, answers, ?_, fun merged => ?_⟩
    · rw [Except.map, filled]
    · -- A walk merges texts on its way, so that there are none left to merge.
      have replies : ∀ a ∈ answered.map (·.2), a.content.isMerged :=
        List.forall_mem_map.mpr merged
      rw [Except.map, ← filled, Forest.merge_of_isMerged (Forest.isMerged_fill replies)]
  · rw [all]
    exact .inr ⟨answered, x, after, s₁, error, s', calls, answers, fails, rfl, rfl⟩

end

/-- Texts that answers bring together become one: two control elements between texts, a counting
handler, and the numbers of the control elements as its answers. -/
example :
    let control := Element.ofName (.inNamespace (some xincludeNamespace) "fallback")
    let d : Document :=
      ⟨none, .leaf (.text "a") (.element control .nil (.element control .nil
        (.leaf (.text "b") .nil)))⟩
    let handle : ControlHandler (Handling String Nat) := fun _ id _ => do
      modify (· + 1)
      return .ofText none (toString id)
    outcome (d.walk .standard handle 0) 5 = (.ok ⟨none, .leaf (.text "a23b") .nil⟩, 7) := by
  rfl

end

end Transclusion
