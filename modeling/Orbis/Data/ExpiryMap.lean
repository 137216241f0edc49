import Mathlib.Data.List.AList
import Mathlib.Data.List.MinMax

/-!
# Maps with deadlines

A finite map from keys to deadlines.  Entries whose deadline has passed are swept, and the entry
with the least deadline is the one to give up when there is no room.
-/

namespace Orbis.Data

abbrev ExpiryMap (κ : Type) := AList fun _ : κ => ℕ

namespace ExpiryMap

variable {κ : Type}

def size (m : ExpiryMap κ) : ℕ := m.entries.length

def sweep (m : ExpiryMap κ) (now : ℕ) : ExpiryMap κ :=
  ⟨m.entries.filter fun entry => now < entry.2, m.nodupKeys.sublist List.filter_sublist⟩

/-- The first key with the least deadline. -/
def oldest (m : ExpiryMap κ) : Option κ := (m.entries.argmin (·.2)).map Sigma.fst

theorem size_sweep_le (m : ExpiryMap κ) (now : ℕ) : (m.sweep now).size ≤ m.size :=
  List.length_filter_le ..

variable [DecidableEq κ]

theorem size_insert_le (m : ExpiryMap κ) (k : κ) (deadline : ℕ) :
    size (m.insert k deadline) ≤ m.size + 1 := by
  have hsub : (List.kerase k m.entries).length ≤ m.entries.length :=
    (List.kerase_sublist k m.entries).length_le
  simpa [size, AList.entries_insert] using hsub

theorem lookup_sweep {m : ExpiryMap κ} {k : κ} {deadline now : ℕ} :
    (m.sweep now).lookup k = some deadline ↔ m.lookup k = some deadline ∧ now < deadline := by
  rw [← Option.mem_def, ← Option.mem_def, AList.mem_lookup_iff, AList.mem_lookup_iff]
  simp [sweep]

end ExpiryMap

end Orbis.Data
