import Mathlib.Data.List.Nodup
import Transclusion.Table
/-!
# Tables

What is found in a table under a key: the entry with that key, of which there is only one.  Then
tables of which a key is left out, and how inserting and erasing go together.
-/

namespace Transclusion.Table

variable {κ ι α : Type} [Keyed κ ι]

@[ext] theorem ext_entries {s t : Table κ α} (h : s.entries = t.entries) : s = t := by
  cases s
  cases t
  cases h
  rfl

variable [DecidableEq ι]

/-! ### Entries -/

theorem get?_of_mem (t : Table κ α) {entry : κ × α} (h : entry ∈ t.entries) :
    t.get? entry.1 = some entry.2 := by
  have exists_ : (t.find? entry.1).isSome := by
    rw [find?, List.find?_isSome]
    exact ⟨entry, h, decide_eq_true rfl⟩
  obtain ⟨found, hfound⟩ := Option.isSome_iff_exists.mp exists_
  rw [find?] at hfound
  have key : Keyed.identity found.1 = Keyed.identity entry.1 := by
    simpa using List.find?_some hfound
  have same : found = entry :=
    List.inj_on_of_nodup_map t.unique (List.mem_of_find?_eq_some hfound) h key
  rw [get?, find?, hfound, same, Option.map_some]

theorem exists_mem_of_get? {t : Table κ α} {k : κ} {v : α} (h : t.get? k = some v) :
    ∃ k', (k', v) ∈ t.entries ∧ Keyed.identity k' = Keyed.identity k := by
  obtain ⟨⟨k', v'⟩, found, rfl⟩ := Option.map_eq_some_iff.mp h
  exact ⟨k', List.mem_of_find?_eq_some found, by simpa using List.find?_some found⟩

theorem contains_eq_isSome (t : Table κ α) (k : κ) : t.contains k = (t.get? k).isSome := by
  rw [contains, get?, Option.isSome_map]

theorem get?_eq_none_iff {t : Table κ α} {k : κ} :
    t.get? k = none ↔ ∀ entry ∈ t.entries, Keyed.identity entry.1 ≠ Keyed.identity k := by
  rw [get?, Option.map_eq_none_iff, find?, List.find?_eq_none]
  simp only [decide_eq_true_eq, ne_eq]

theorem sameEntries_self [DecidableEq α] (t : Table κ α) : t.sameEntries t = true := by
  rw [sameEntries, decide_eq_true rfl, Bool.true_and, List.all_eq_true]
  exact fun entry h => decide_eq_true (t.get?_of_mem h)

/-- A new key comes last. -/
theorem entries_insert_of_get?_eq_none {t : Table κ α} {k : κ} (h : t.get? k = none) (v : α) :
    (t.insert k v).entries = t.entries ++ [(k, v)] := by
  rw [get?_eq_none_iff] at h
  show insertEntry k v t.entries = t.entries ++ [(k, v)]
  generalize t.entries = entries at h
  induction entries with
  | nil => rfl
  | cons first rest ih =>
    obtain ⟨here, behind⟩ := List.forall_mem_cons.mp h
    rw [insertEntry, if_neg here, ih behind]
    rfl

/-- What holds of all keys, and of the one that is inserted, holds of all keys then. -/
theorem forall_keys_insert {p : κ → Prop} {t : Table κ α} {k : κ}
    (h : ∀ entry ∈ t.entries, p entry.1) (hk : p k) (v : α) :
    ∀ entry ∈ (t.insert k v).entries, p entry.1 := by
  show ∀ entry ∈ insertEntry k v t.entries, p entry.1
  revert h
  induction t.entries with
  | nil => exact fun _ => List.forall_mem_singleton.mpr hk
  | cons first rest ih =>
    intro h
    obtain ⟨here, behind⟩ := List.forall_mem_cons.mp h
    rw [insertEntry]
    split
    · exact List.forall_mem_cons.mpr ⟨here, behind⟩
    · exact List.forall_mem_cons.mpr ⟨here, ih behind⟩

/-- The keys stay as they are written, and a new one comes last. -/
theorem keys_insert (t : Table κ α) (k : κ) (v : α) :
    (t.insert k v).entries.map Prod.fst
      = if t.contains k then t.entries.map Prod.fst else t.entries.map Prod.fst ++ [k] := by
  rw [contains_eq_isSome]
  cases found : t.get? k with
  | none =>
    rw [entries_insert_of_get?_eq_none found, List.map_append]
    rfl
  | some v' =>
    obtain ⟨k', entry, same⟩ := exists_mem_of_get? found
    show (insertEntry k v t.entries).map Prod.fst = t.entries.map Prod.fst
    generalize t.entries = entries at entry
    induction entries with
    | nil => cases entry
    | cons first rest ih =>
      rw [insertEntry]
      split
      · rfl
      · next other =>
        obtain rfl | behind := List.mem_cons.mp entry
        · exact absurd same other
        · rw [List.map_cons, ih behind, List.map_cons]

/-- A value that is there can be put in again. -/
theorem insert_of_get? {t : Table κ α} {k : κ} {v : α} (h : t.get? k = some v) :
    t.insert k v = t := by
  ext1
  show insertEntry k v t.entries = t.entries
  rw [get?, find?] at h
  generalize t.entries = entries at h
  induction entries with
  | nil => cases h
  | cons first rest ih =>
    rw [insertEntry]
    by_cases here : Keyed.identity first.1 = Keyed.identity k
    · rw [List.find?_cons, decide_eq_true here] at h
      obtain rfl := Option.some.inj h
      exact if_pos here
    · rw [List.find?_cons, decide_eq_false here] at h
      rw [if_neg here, ih h]

/-- What is found is found when further keys come behind. -/
theorem get?_of_grown {s t : Table κ α} (grown : s.entries <+: t.entries) {k : κ} {v : α}
    (found : s.get? k = some v) : t.get? k = some v := by
  obtain ⟨k', entry, same⟩ := exists_mem_of_get? found
  have there := t.get?_of_mem (grown.subset entry)
  rw [get?, find?] at there ⊢
  rwa [← same]

/-! ### Leaving out a key -/

theorem get?_erase_self (t : Table κ α) (k : κ) : (t.erase k).get? k = none :=
  get?_eq_none_iff.mpr fun entry h => by simpa using (List.mem_filter.mp h).2

theorem erase_of_get?_eq_none {t : Table κ α} {k : κ} (h : t.get? k = none) : t.erase k = t := by
  ext1
  exact List.filter_eq_self.mpr fun entry he => decide_eq_true (get?_eq_none_iff.mp h entry he)

/-- Inserting under a key that is left out changes nothing of the rest. -/
theorem erase_insert_same (t : Table κ α) {k k' : κ} (v : α)
    (same : Keyed.identity k' = Keyed.identity k) : (t.insert k' v).erase k = t.erase k := by
  ext1
  show (insertEntry k' v t.entries).filter _ = t.entries.filter _
  induction t.entries with
  | nil => simp [insertEntry, same]
  | cons first rest ih =>
    obtain ⟨k₀, v₀⟩ := first
    by_cases here : Keyed.identity k₀ = Keyed.identity k'
    · simp [insertEntry, here, same]
    · simp only [insertEntry, here, if_false, List.filter_cons, ih]

theorem erase_insert_of_ne (t : Table κ α) {k k' : κ} (v : α)
    (other : Keyed.identity k' ≠ Keyed.identity k) :
    (t.insert k' v).erase k = (t.erase k).insert k' v := by
  ext1
  show (insertEntry k' v t.entries).filter _ = insertEntry k' v (t.entries.filter _)
  induction t.entries with
  | nil => simp [insertEntry, other]
  | cons first rest ih =>
    obtain ⟨k₀, v₀⟩ := first
    by_cases here : Keyed.identity k₀ = Keyed.identity k'
    · simp [insertEntry, here, other]
    · by_cases leftOut : Keyed.identity k₀ = Keyed.identity k
      · simpa [insertEntry, leftOut, Ne.symm other] using ih
      · simpa [insertEntry, here, leftOut] using ih

theorem erase_erase (t : Table κ α) (k : κ) : (t.erase k).erase k = t.erase k := by
  ext1
  show (t.entries.filter _).filter _ = t.entries.filter _
  rw [List.filter_filter]
  simp only [Bool.and_self]

theorem find?_erase_of_ne (t : Table κ α) {k k' : κ}
    (other : Keyed.identity k' ≠ Keyed.identity k) : (t.erase k).find? k' = t.find? k' := by
  show (t.entries.filter _).find? _ = t.entries.find? _
  rw [List.find?_filter]
  refine congrArg (List.find? · t.entries) (funext fun entry => ?_)
  by_cases here : Keyed.identity entry.1 = Keyed.identity k'
  · simp [here, other]
  · simp [here]

theorem get?_erase_of_ne (t : Table κ α) {k k' : κ}
    (other : Keyed.identity k' ≠ Keyed.identity k) : (t.erase k).get? k' = t.get? k' := by
  rw [get?, get?, find?_erase_of_ne t other]

theorem contains_erase_of_ne (t : Table κ α) {k k' : κ}
    (other : Keyed.identity k' ≠ Keyed.identity k) : (t.erase k).contains k' = t.contains k' := by
  rw [contains, contains, find?_erase_of_ne t other]

/-- Entries are left out with others of the same key. -/
theorem filter_insertEntry (entries : List (κ × α)) {k : κ} {v : α} {kept : κ × α → Bool}
    (leftOut : ∀ entry, Keyed.identity entry.1 = Keyed.identity k → kept entry = false) :
    (insertEntry k v entries).filter kept = entries.filter kept := by
  induction entries with
  | nil => simp [insertEntry, leftOut (k, v) rfl]
  | cons first rest ih =>
    by_cases here : Keyed.identity first.1 = Keyed.identity k
    · rw [insertEntry, if_pos here, List.filter_cons_of_neg, List.filter_cons_of_neg]
      · rw [leftOut first here]
        exact Bool.false_ne_true
      · rw [leftOut (first.1, v) here]
        exact Bool.false_ne_true
    · rw [insertEntry, if_neg here, List.filter_cons, List.filter_cons, ih]

theorem filter_erase (t : Table κ α) {k : κ} {kept : κ × α → Bool}
    (leftOut : ∀ entry, Keyed.identity entry.1 = Keyed.identity k → kept entry = false) :
    (t.erase k).entries.filter kept = t.entries.filter kept := by
  show (t.entries.filter _).filter kept = t.entries.filter kept
  rw [List.filter_filter]
  refine List.filter_congr fun entry _ => ?_
  by_cases here : Keyed.identity entry.1 = Keyed.identity k
  · simp [leftOut entry here]
  · simp [here]

end Transclusion.Table
