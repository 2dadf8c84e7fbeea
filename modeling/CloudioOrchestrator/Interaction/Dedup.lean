import Mathlib.Data.List.Nodup
import Mathlib.Data.List.Perm.Subperm

/-! # Deduplication by key

A provider that holds at most one record under each key: a request under a key
that is taken changes nothing. What bounds the keys bounds the records.
-/

namespace Interaction

/-- The records of a provider, each under a key of its own. -/
structure Registry (κ α : Type) where
  records : List (κ × α)
  nodup : (records.map Prod.fst).Nodup

namespace Registry

variable {κ α : Type}

def empty : Registry κ α :=
  ⟨[], List.nodup_nil⟩

variable [DecidableEq κ]

/-- Enter a record, unless its key is taken. -/
def enter (registry : Registry κ α) (key : κ) (record : α) : Registry κ α :=
  if htaken : key ∈ registry.records.map Prod.fst then registry
  else ⟨(key, record) :: registry.records, by
    rw [List.map_cons, List.nodup_cons]
    exact ⟨htaken, registry.nodup⟩⟩

theorem mem_enter {registry : Registry κ α} {key : κ} {record : α} {entry : κ × α}
    (hentry : entry ∈ (registry.enter key record).records) :
    entry = (key, record) ∨ entry ∈ registry.records := by
  unfold enter at hentry
  split at hentry
  · exact .inr hentry
  · exact List.mem_cons.mp hentry

omit [DecidableEq κ] in
/-- The records of a kind are no more than the keys they may have. -/
theorem length_filter_le (registry : Registry κ α) (kind : κ × α → Bool) (allowed : List κ)
    (hallowed : ∀ entry ∈ registry.records, kind entry = true → entry.1 ∈ allowed) :
    (registry.records.filter kind).length ≤ allowed.length := by
  have hnodup : ((registry.records.filter kind).map Prod.fst).Nodup :=
    registry.nodup.sublist (List.filter_sublist.map _)
  have hsubset : (registry.records.filter kind).map Prod.fst ⊆ allowed := by
    intro key hkey
    obtain ⟨entry, hentry, rfl⟩ := List.mem_map.mp hkey
    rw [List.mem_filter] at hentry
    exact hallowed entry hentry.1 hentry.2
  have hlength := (List.subperm_of_subset hnodup hsubset).length_le
  rwa [List.length_map] at hlength

end Registry

end Interaction
