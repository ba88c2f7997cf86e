/-!
# Ordered tables

A finite map that remembers the order in which its keys were first inserted.  Two keys are the
same when their identities are equal (`Keyed.identity`), so that a qualified name, for instance,
is found whatever its prefix.  Inserting under a key that is there already changes the value
only: the old key and its place stay.  So no key is there twice, which is a part of the type.
-/

namespace Transclusion

/-- A type whose values count as the same key when their identities are equal. -/
class Keyed (κ : Type) (ι : outParam Type) where
  identity : κ → ι

instance : Keyed String String := ⟨id⟩

variable {κ ι α : Type} [Keyed κ ι]

/-- The identities of the keys in a list of entries. -/
def Keyed.identities (entries : List (κ × α)) : List ι :=
  entries.map fun entry => Keyed.identity entry.1

/-- Keys and values in the order of insertion. -/
structure Table (κ : Type) {ι : Type} (α : Type) [Keyed κ ι] where
  entries : List (κ × α)
  /-- No key is there twice. -/
  unique : (Keyed.identities entries).Nodup
deriving DecidableEq, Repr

namespace Table

def empty : Table κ α := ⟨[], List.nodup_nil⟩

instance : Inhabited (Table κ α) := ⟨empty⟩

def size (t : Table κ α) : Nat := t.entries.length

variable [DecidableEq ι]

/-- The entries with one more, in the place of the entry with the same key if there is one. -/
def insertEntry (k : κ) (v : α) : List (κ × α) → List (κ × α)
  | [] => [(k, v)]
  | (k', v') :: rest =>
    if Keyed.identity k' = Keyed.identity k then (k', v) :: rest
    else (k', v') :: insertEntry k v rest

/-- The keys stay, in their order, and a new one comes last. -/
theorem identities_insertEntry (k : κ) (v : α) (entries : List (κ × α)) :
    Keyed.identities (insertEntry k v entries)
      = if Keyed.identity k ∈ Keyed.identities entries then Keyed.identities entries
        else Keyed.identities entries ++ [Keyed.identity k] := by
  induction entries with
  | nil => rfl
  | cons first rest ih =>
    obtain ⟨k₀, v₀⟩ := first
    by_cases same : Keyed.identity k₀ = Keyed.identity k
    · simp [insertEntry, Keyed.identities, same]
    · simp only [Keyed.identities] at ih
      by_cases present : Keyed.identity k ∈ rest.map fun entry => Keyed.identity entry.1 <;>
        simp [insertEntry, Keyed.identities, same, Ne.symm same, ih, present]

private theorem nodup_insertEntry (k : κ) (v : α) {entries : List (κ × α)}
    (unique : (Keyed.identities entries).Nodup) :
    (Keyed.identities (insertEntry k v entries)).Nodup := by
  rw [identities_insertEntry]
  split
  · exact unique
  · next absent =>
    rw [List.nodup_append]
    refine ⟨unique, by simp, ?_⟩
    intro i present j last same
    rw [List.mem_singleton] at last
    exact absent (last ▸ same ▸ present)

def insert (t : Table κ α) (k : κ) (v : α) : Table κ α :=
  ⟨insertEntry k v t.entries, nodup_insertEntry k v t.unique⟩

/-- The entry with the key `k`. -/
def find? (t : Table κ α) (k : κ) : Option (κ × α) :=
  t.entries.find? fun entry => Keyed.identity entry.1 = Keyed.identity k

def get? (t : Table κ α) (k : κ) : Option α := (t.find? k).map (·.2)

def contains (t : Table κ α) (k : κ) : Bool := (t.find? k).isSome

/-- The table without the key `k`; the other entries keep their order. -/
def erase (t : Table κ α) (k : κ) : Table κ α :=
  ⟨t.entries.filter fun entry => Keyed.identity entry.1 ≠ Keyed.identity k,
    t.unique.sublist (List.filter_sublist.map _)⟩

/-- The table of a list of entries, of which a later one replaces an earlier one's value. -/
def ofList (entries : List (κ × α)) : Table κ α :=
  entries.foldl (fun t entry => t.insert entry.1 entry.2) empty

/-- The same keys with the same values, in any order. -/
def sameEntries [DecidableEq α] (s t : Table κ α) : Bool :=
  s.size = t.size && s.entries.all fun entry => t.get? entry.1 = some entry.2

@[simp] theorem get?_empty (k : κ) : (empty : Table κ α).get? k = none := rfl

private theorem find?_insertEntry (k k' : κ) (v : α) (entries : List (κ × α)) :
    ((insertEntry k v entries).find? fun entry =>
        decide (Keyed.identity entry.1 = Keyed.identity k')).map (·.2)
      = if Keyed.identity k = Keyed.identity k' then some v
        else (entries.find? fun entry =>
          decide (Keyed.identity entry.1 = Keyed.identity k')).map (·.2) := by
  induction entries with
  | nil =>
    by_cases h : Keyed.identity k = Keyed.identity k' <;> simp [insertEntry, h]
  | cons first rest ih =>
    obtain ⟨k₀, v₀⟩ := first
    by_cases same : Keyed.identity k₀ = Keyed.identity k
    · simp only [insertEntry, same, if_true, List.find?_cons]
      by_cases h : Keyed.identity k = Keyed.identity k' <;> simp [h]
    · simp only [insertEntry, same, if_false, List.find?_cons]
      by_cases h : Keyed.identity k₀ = Keyed.identity k'
      · have other : Keyed.identity k ≠ Keyed.identity k' := fun e => same (h.trans e.symm)
        simp [h, other]
      · simp only [h, decide_false]
        exact ih

theorem get?_insert (t : Table κ α) (k k' : κ) (v : α) :
    (t.insert k v).get? k'
      = if Keyed.identity k = Keyed.identity k' then some v else t.get? k' :=
  find?_insertEntry k k' v t.entries

end Table

end Transclusion
