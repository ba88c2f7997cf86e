import Transclusion.Proofs.Text.Indentation
import Transclusion.Proofs.Uri.Punycode
import Transclusion.Uri.Label
/-!
# Domain names in ASCII

A domain name has one form in ASCII: a label of another script is brought into Punycode, from which
it is read back as the same text (`labelText?_asciiLabel`).  So the form in ASCII is a domain name
with that form itself (`asciiDomain?_of_asciiDomain?`): a host that has been brought into the form
in which it is written is not changed again.
-/

namespace Transclusion.Uri

open Text

/-! ### Labels -/

/-- Whatever holds of the digits, of the hyphen and of the ASCII characters of a label holds of all
characters of its form in ASCII. -/
theorem forall_mem_asciiLabel {p : Char → Prop} (each : ∀ value < 36, p (Punycode.digit value))
    (hyphen : p '-') {label : List Char} (kept : ∀ c ∈ label, c.toNat < 128 → p c) :
    ∀ c ∈ asciiLabel label, p c := by
  unfold asciiLabel
  split
  · next ascii =>
    intro c hc
    exact kept c hc (of_decide_eq_true (List.all_eq_true.mp ascii c hc))
  · have mark : ∀ c ∈ punycodeMark, p c := by
      have x : p 'x' := each 23 (by decide)
      have n : p 'n' := each 13 (by decide)
      simp [punycodeMark, x, n, hyphen]
    have ascii : ∀ c ∈ label.filter (·.toNat < 128), p c := by
      intro c hc
      obtain ⟨among, low⟩ := List.mem_filter.mp hc
      exact kept c among (of_decide_eq_true low)
    have insertions := Punycode.forall_mem_writeInsertions each
    rw [List.forall_mem_append, Punycode.encode, List.forall_mem_append]
    refine ⟨mark, ?_, insertions _ _ _ _ _⟩
    split
    · exact nofun
    · rw [List.forall_mem_append, List.forall_mem_singleton]
      exact ⟨ascii, hyphen⟩

theorem isAscii_asciiLabel (label : List Char) : isAscii (asciiLabel label) = true := by
  rw [isAscii, List.all_eq_true]
  exact forall_mem_asciiLabel (by decide) (by decide) fun c _ low => decide_eq_true low

theorem asciiLabel_asciiLabel (label : List Char) :
    asciiLabel (asciiLabel label) = asciiLabel label :=
  if_pos (isAscii_asciiLabel label)

/-- The form of a label in ASCII stands for the same text. -/
theorem labelText?_asciiLabel {label text : List Char} (short : label.length ≤ 100)
    (h : labelText? label = some text) : labelText? (asciiLabel label) = some text := by
  by_cases ascii : isAscii label
  · rwa [asciiLabel, if_pos ascii]
  · have mark : ∀ digits, punycodeMark.isPrefixOf? (punycodeMark ++ digits) = some digits :=
      fun _ => rfl
    have written := isAscii_asciiLabel label
    rw [asciiLabel, if_neg ascii] at written ⊢
    rw [labelText?, if_pos written, mark]
    dsimp only
    rw [Punycode.decode?_encode short]
    rwa [labelText?, if_neg ascii] at h

/-- The forms of labels in ASCII stand for the same texts. -/
theorem mapM_asciiLabel {labels texts : List (List Char)}
    (short : ∀ label ∈ labels, label.length ≤ 100) (h : labels.mapM labelText? = some texts) :
    (labels.map asciiLabel).mapM labelText? = some texts := by
  induction labels generalizing texts with
  | nil => exact h
  | cons label rest ih =>
    obtain ⟨here, behind⟩ := List.forall_mem_cons.mp short
    simp only [List.mapM_cons, Option.bind_eq_bind, Option.bind_eq_some_iff, List.map_cons] at h ⊢
    obtain ⟨text, first, others, found, all⟩ := h
    exact ⟨text, labelText?_asciiLabel here first, others, ih behind found, all⟩

/-! ### Domain names -/

theorem asciiDomain?_eq_some_iff {domain ascii : List Char} :
    asciiDomain? domain = some ascii ↔ ∃ texts,
      (pieces '.' domain).mapM labelText? = some texts ∧ directionsFit texts = true
        ∧ List.intercalate ['.'] ((pieces '.' domain).map asciiLabel) = ascii := by
  unfold asciiDomain?
  dsimp only
  cases (pieces '.' domain).mapM labelText? <;> simp

/-- The dots in the form of a domain name in ASCII are those between its labels. -/
theorem pieces_asciiDomain (domain : List Char) :
    pieces '.' (List.intercalate ['.'] ((pieces '.' domain).map asciiLabel))
      = (pieces '.' domain).map asciiLabel := by
  have noDot : ∀ label ∈ (pieces '.' domain).map asciiLabel, '.' ∉ label := by
    intro label mem dot
    obtain ⟨own, among, rfl⟩ := List.mem_map.mp mem
    rw [pieces_eq_splitOn] at among
    have other : ∀ c ∈ own, c.toNat < 128 → c ≠ '.' := by
      rintro c hc - rfl
      exact not_mem_of_mem_splitOn among hc
    exact forall_mem_asciiLabel (p := (· ≠ '.')) (by decide) (by decide) other '.' dot rfl
  have some_ : (pieces '.' domain).map asciiLabel ≠ [] := by
    rw [Ne, List.map_eq_nil_iff, pieces_eq_splitOn]
    exact List.splitOn_ne_nil '.' domain
  rw [pieces_eq_splitOn]
  exact List.splitOn_intercalate '.' noDot some_

/-- **A domain name in ASCII is its own form in ASCII**, if its labels are not too long. -/
theorem asciiDomain?_of_asciiDomain? {domain ascii : List Char}
    (short : ∀ label ∈ pieces '.' domain, label.length ≤ 100)
    (h : asciiDomain? domain = some ascii) : asciiDomain? ascii = some ascii := by
  obtain ⟨texts, found, fit, rfl⟩ := asciiDomain?_eq_some_iff.mp h
  have again : asciiLabel ∘ asciiLabel = asciiLabel := funext asciiLabel_asciiLabel
  refine asciiDomain?_eq_some_iff.mpr ⟨texts, ?_, fit, ?_⟩
  · rw [pieces_asciiDomain]
    exact mapM_asciiLabel short found
  · rw [pieces_asciiDomain, List.map_map, again]

end Transclusion.Uri
