import Transclusion.Markup.Reference
import Transclusion.Markup.Writing
import Transclusion.Proofs.Outcome
/-!
# Escapes

What is written for a text or an attribute value, read again with its references resolved, is that
text or value (`resolveReferences_escapeText`, `resolveReferences_escapeValue`).  It holds none of
the characters that would end it (`not_mem_escapeText`, `not_mem_escapeValue`).
-/

namespace Transclusion

/-- A text as it is written. -/
def escapeText (cs : List Char) : List Char := cs.flatMap escapeTextChar

/-- An attribute value as it is written. -/
def escapeValue (cs : List Char) : List Char := cs.flatMap escapeAttributeChar

/-! ### References -/

/-- The text that is written resolves to the other one, at whatever offset it stands. -/
def ResolvesTo (written cs : List Char) : Prop :=
  ∀ total offset, resolveReferencesFrom total none offset written = .ok cs

namespace ResolvesTo

variable {written cs : List Char}

theorem nil : ResolvesTo [] [] := fun _ _ => rfl

theorem cons {c : Char} (h : ResolvesTo written cs) (plain : c ≠ '&') :
    ResolvesTo (c :: written) (c :: cs) := by
  intro total offset
  rw [resolveReferencesFrom, if_neg plain, h]
  rfl

/-- The characters up to the semicolon are the name of a reference. -/
theorem resolveReferencesFrom_name (h : ResolvesTo written cs) {name : List Char} {c : Char}
    {start total : Nat} (noMark : '&' ∉ name) (noEnd : ';' ∉ name) (read : List Char) (offset : Nat)
    (named : ∀ stop, readReference (start + 1) stop (read.reverse ++ name) = .ok c) :
    resolveReferencesFrom total (some ⟨start, read⟩) offset (name ++ ';' :: written)
      = .ok (c :: cs) := by
  induction name generalizing read offset with
  | nil =>
    rw [List.append_nil] at named
    rw [List.nil_append, resolveReferencesFrom, if_neg (by decide), if_pos rfl, named, h]
    rfl
  | cons d name ih =>
    rw [List.mem_cons, not_or] at noMark noEnd
    rw [List.cons_append, resolveReferencesFrom, if_neg (Ne.symm noMark.1),
      if_neg (Ne.symm noEnd.1)]
    refine ih noMark.2 noEnd.2 (d :: read) _ fun stop => ?_
    rw [List.reverse_cons, List.append_assoc]
    exact named stop

theorem reference (h : ResolvesTo written cs) (name : List Char) {c : Char}
    (noMark : '&' ∉ name) (noEnd : ';' ∉ name)
    (named : ∀ start stop, readReference start stop name = .ok c) :
    ResolvesTo ('&' :: name ++ ';' :: written) (c :: cs) := by
  intro total offset
  rw [List.cons_append, resolveReferencesFrom, if_pos rfl]
  exact h.resolveReferencesFrom_name noMark noEnd [] _ (named (offset + 1))

theorem resolve (h : ResolvesTo written cs) : resolveReferences written = .ok cs := h _ _

end ResolvesTo

/-! ### Texts and values -/

theorem resolvesTo_escapeText (cs : List Char) : ResolvesTo (escapeText cs) cs := by
  induction cs with
  | nil => exact .nil
  | cons c cs ih =>
    rw [escapeText, List.flatMap_cons, escapeTextChar]
    split
    · next h => exact h ▸ ih.reference "amp".toList (by decide) (by decide) fun _ _ => rfl
    split
    · next h => exact h ▸ ih.reference "lt".toList (by decide) (by decide) fun _ _ => rfl
    split
    · next h => exact h ▸ ih.reference "gt".toList (by decide) (by decide) fun _ _ => rfl
    split
    · next h => exact h ▸ ih.reference "#xD".toList (by decide) (by decide) fun _ _ => rfl
    · next plain _ _ _ => exact ih.cons plain

theorem resolvesTo_escapeValue (cs : List Char) : ResolvesTo (escapeValue cs) cs := by
  induction cs with
  | nil => exact .nil
  | cons c cs ih =>
    rw [escapeValue, List.flatMap_cons, escapeAttributeChar]
    split
    · next h => exact h ▸ ih.reference "amp".toList (by decide) (by decide) fun _ _ => rfl
    split
    · next h => exact h ▸ ih.reference "lt".toList (by decide) (by decide) fun _ _ => rfl
    split
    · next h => exact h ▸ ih.reference "quot".toList (by decide) (by decide) fun _ _ => rfl
    split
    · next h => exact h ▸ ih.reference "#xA".toList (by decide) (by decide) fun _ _ => rfl
    split
    · next h => exact h ▸ ih.reference "#x9".toList (by decide) (by decide) fun _ _ => rfl
    split
    · next h => exact h ▸ ih.reference "#xD".toList (by decide) (by decide) fun _ _ => rfl
    · next plain _ _ _ _ _ => exact ih.cons plain

/-- Markup that follows a text ends it. -/
theorem not_mem_escapeText (cs : List Char) : '<' ∉ escapeText cs := by
  rw [escapeText, List.mem_flatMap]
  rintro ⟨c, -, h⟩
  rw [escapeTextChar] at h
  split at h
  · exact absurd h (by decide)
  split at h
  · exact absurd h (by decide)
  split at h
  · exact absurd h (by decide)
  split at h
  · exact absurd h (by decide)
  · next other _ _ => exact other (List.mem_singleton.mp h).symm

/-- The quote that follows a value ends it. -/
theorem not_mem_escapeValue (cs : List Char) : '\x22' ∉ escapeValue cs := by
  rw [escapeValue, List.mem_flatMap]
  rintro ⟨c, -, h⟩
  rw [escapeAttributeChar] at h
  split at h
  · exact absurd h (by decide)
  split at h
  · exact absurd h (by decide)
  split at h
  · exact absurd h (by decide)
  split at h
  · exact absurd h (by decide)
  split at h
  · exact absurd h (by decide)
  split at h
  · exact absurd h (by decide)
  · next other _ _ _ => exact other (List.mem_singleton.mp h).symm

theorem escapeText_ne_nil {cs : List Char} (h : cs ≠ []) : escapeText cs ≠ [] := by
  obtain ⟨c, cs, rfl⟩ := List.exists_cons_of_ne_nil h
  have nonempty : escapeTextChar c ≠ [] := by
    unfold escapeTextChar
    repeat' split
    all_goals simp
  rw [escapeText, List.flatMap_cons]
  exact List.append_ne_nil_of_left_ne_nil nonempty _

end Transclusion
