import Mathlib.Algebra.BigOperators.Group.List.Basic
import Mathlib.Data.List.AList

/-!
# Finite maps

Finite maps are association lists without repeated keys.  This file adds the list of values,
says how sums over it are computed from lookups, and adds the sub-map of the entries that pass
a test.
-/

namespace Orbis.Data

variable {κ β A : Type*}

def values (m : AList fun _ : κ => β) : List β := m.entries.map (·.2)

@[simp] theorem values_empty : values (∅ : AList fun _ : κ => β) = [] := rfl

theorem keys_length (m : AList fun _ : κ => β) : m.keys.length = m.entries.length := by
  simp [AList.keys, List.keys]

theorem keys_perm_of_subset {γ : Type*} {m : AList fun _ : κ => β} {m' : AList fun _ : κ => γ}
    (hsub : ∀ k ∈ m, k ∈ m') (hlen : m.entries.length = m'.entries.length) :
    m.keys.Perm m'.keys := by
  refine (List.subperm_of_subset m.keys_nodup fun k hk => hsub k hk).perm_of_length_le ?_
  rw [keys_length, keys_length, hlen]

variable [DecidableEq κ]

theorem mem_of_lookup {β : κ → Type*} {m : AList β} {k : κ} {b : β k} (h : m.lookup k = some b) :
    k ∈ m :=
  AList.lookup_isSome.mp (by rw [h, Option.isSome_some])

theorem exists_lookup {β : κ → Type*} {m : AList β} {k : κ} (h : k ∈ m) :
    ∃ b, m.lookup k = some b :=
  Option.isSome_iff_exists.mp (AList.lookup_isSome.mpr h)

theorem keys_perm_of_lookup {m : AList fun _ : κ => β} {l : List κ} (hnd : l.Nodup)
    (hsub : ∀ k b, m.lookup k = some b → k ∈ l) (hall : ∀ k ∈ l, k ∈ m) : m.keys.Perm l := by
  refine (List.perm_ext_iff_of_nodup m.keys_nodup hnd).mpr fun k => ⟨fun hk => ?_, hall k⟩
  obtain ⟨b, hb⟩ := exists_lookup hk
  exact hsub k b hb

theorem mem_iff_of_lookup_eq {β : κ → Type*} {m m' : AList β} {k : κ}
    (h : m'.lookup k = m.lookup k) : k ∈ m' ↔ k ∈ m := by
  rw [← AList.lookup_isSome, ← AList.lookup_isSome, h]

theorem lookup_of_mem_entries {m : AList fun _ : κ => β} {e : Sigma fun _ : κ => β}
    (h : e ∈ m.entries) : m.lookup e.1 = some e.2 :=
  AList.mem_lookup_iff.mpr h

theorem mem_values {m : AList fun _ : κ => β} {b : β} :
    b ∈ values m ↔ ∃ k, m.lookup k = some b := by
  constructor
  · intro h
    obtain ⟨e, he, rfl⟩ := List.mem_map.mp h
    exact ⟨e.1, lookup_of_mem_entries he⟩
  · rintro ⟨k, hk⟩
    exact List.mem_map.mpr ⟨⟨k, b⟩, AList.mem_lookup_iff.mp hk, rfl⟩

def retain (keep : κ → β → Bool) (m : AList fun _ : κ => β) : AList fun _ : κ => β :=
  ⟨m.entries.filter fun e => keep e.1 e.2, m.nodupKeys.sublist List.filter_sublist⟩

theorem lookup_retain {keep : κ → β → Bool} {m : AList fun _ : κ => β} {k : κ} {b : β} :
    (retain keep m).lookup k = some b ↔ m.lookup k = some b ∧ keep k b = true := by
  constructor
  · intro h
    have hmem := List.mem_filter.mp (AList.mem_lookup_iff.mp h)
    exact ⟨AList.mem_lookup_iff.mpr hmem.1, hmem.2⟩
  · rintro ⟨h, hkeep⟩
    exact AList.mem_lookup_iff.mpr (List.mem_filter.mpr ⟨AList.mem_lookup_iff.mp h, hkeep⟩)

/-- Values in the order of any list of exactly the map's keys. -/
theorem values_perm_map_of_lookup {m : AList fun _ : κ => β} {ks : List κ} {f : κ → β}
    (hks : m.keys.Perm ks) (hf : ∀ k ∈ ks, m.lookup k = some (f k)) :
    (values m).Perm (ks.map f) := by
  have hvalues : values m = m.keys.map f := by
    simp only [values, AList.keys, List.keys, List.map_map]
    refine List.map_congr_left fun e he => ?_
    have hk : e.1 ∈ ks := hks.mem_iff.mp (List.mem_map_of_mem he)
    have hlookup : some (f e.1) = some e.2 := (hf e.1 hk).symm.trans (lookup_of_mem_entries he)
    exact (Option.some.inj hlookup).symm
  rw [hvalues]
  exact hks.map f

/-! ## Lists of keyed pairs -/

section

variable {l : List (κ × β)} {a : κ × β}

theorem filter_key_of_nodup (hnd : (l.map (·.1)).Nodup) (ha : a ∈ l) :
    l.filter (·.1 = a.1) = [a] := by
  induction l with
  | nil => cases ha
  | cons b l ih =>
    obtain ⟨hb, hnd⟩ := List.nodup_cons.mp hnd
    rcases List.mem_cons.mp ha with rfl | ha
    · have hnone : l.filter (·.1 = a.1) = [] := by
        apply List.filter_eq_nil_iff.mpr
        intro c hc
        simpa using fun heq : c.1 = a.1 => hb (List.mem_map.mpr ⟨c, hc, heq⟩)
      rw [List.filter_cons_of_pos (by simp), hnone]
    · have hne : b.1 ≠ a.1 := fun heq => hb (List.mem_map.mpr ⟨a, ha, heq.symm⟩)
      rw [List.filter_cons_of_neg (by simpa using hne), ih hnd ha]

theorem find?_key_of_nodup (hnd : (l.map (·.1)).Nodup) (ha : a ∈ l) :
    l.find? (·.1 = a.1) = some a := by
  rw [← List.head?_filter, filter_key_of_nodup hnd ha]
  rfl

end

end Orbis.Data
