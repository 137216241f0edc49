import Mathlib.Data.Finset.Card
import Mathlib.Data.List.Destutter
import Mathlib.Data.List.Sort

/-!
# Sorting and removing adjacent repetitions

`sortDedup` sorts a list and then drops every element equal to its predecessor.  Programs use
it to detect repetitions: the length stays the same exactly when there are none.
-/

namespace Orbis.Data

variable {α : Type*} [LinearOrder α]

def sortDedup (l : List α) : List α := (l.insertionSort (· ≤ ·)).destutter (· ≠ ·)

theorem length_sortDedup_le (l : List α) : (sortDedup l).length ≤ l.length :=
  calc (sortDedup l).length
      ≤ (l.insertionSort (· ≤ ·)).length := (List.destutter_sublist _ _).length_le
    _ = l.length := List.length_insertionSort _ l

theorem mem_of_mem_sortDedup {l : List α} {a : α} (h : a ∈ sortDedup l) : a ∈ l :=
  (List.mem_insertionSort _).mp ((List.destutter_sublist _ _).subset h)

/-- What is left is strictly increasing. -/
theorem nodup_sortDedup (l : List α) : (sortDedup l).Nodup := by
  have hne : (sortDedup l).IsChain (· ≠ ·) := List.isChain_destutter _ _
  have hle : (sortDedup l).Pairwise (· ≤ ·) :=
    (List.pairwise_insertionSort (· ≤ ·) l).sublist (List.destutter_sublist _ _)
  have hlt : (sortDedup l).IsChain (· < ·) := by
    have hchain := hle.isChain
    rw [List.isChain_iff_getElem] at hne hchain ⊢
    exact fun i hi => lt_of_le_of_ne (hchain i hi) (hne i hi)
  exact (List.isChain_iff_pairwise.mp hlt).imp fun hab => hab.ne

theorem idxOf?_getElem_of_nodup {l : List α} (hnd : l.Nodup) {i : ℕ} (hi : i < l.length) :
    l.idxOf? l[i] = some i := by
  apply List.idxOf?_eq_some_iff.mpr
  refine ⟨hi, rfl, fun j hj heq => ?_⟩
  have hsame : j = i := hnd.getElem_inj_iff.mp heq
  omega

/-- A list without repetitions that has as many elements as a set it lies in has all of them. -/
theorem mem_of_nodup_of_card_le {l : List α} {S : Finset α} (hnd : l.Nodup)
    (hsub : ∀ a ∈ l, a ∈ S) (hcard : S.card ≤ l.length) {a : α} (ha : a ∈ S) : a ∈ l := by
  rw [← List.toFinset_card_of_nodup hnd] at hcard
  have hsub' : l.toFinset ⊆ S := fun b hb => hsub b (List.mem_toFinset.mp hb)
  rw [← Finset.eq_of_subset_of_card_le hsub' hcard] at ha
  exact List.mem_toFinset.mp ha

theorem sortDedup_of_nodup {l : List α} (h : l.Nodup) :
    sortDedup l = l.insertionSort (· ≤ ·) := by
  have hnd : (l.insertionSort (· ≤ ·)).Nodup := (List.perm_insertionSort _ l).nodup_iff.mpr h
  exact List.destutter_of_isChain _ _ hnd.isChain

theorem nodup_of_sortDedup_length {l : List α} (h : (sortDedup l).length = l.length) :
    l.Nodup := by
  have hperm : (l.insertionSort (· ≤ ·)).Perm l := List.perm_insertionSort _ l
  have hself : sortDedup l = l.insertionSort (· ≤ ·) :=
    (List.destutter_sublist _ _).eq_of_length (by rw [hperm.length_eq]; exact h)
  exact hperm.nodup_iff.mp (hself ▸ nodup_sortDedup l)

theorem sortDedup_length_eq_iff {l : List α} : (sortDedup l).length = l.length ↔ l.Nodup := by
  refine ⟨nodup_of_sortDedup_length, fun h => ?_⟩
  rw [sortDedup_of_nodup h, List.length_insertionSort]

theorem sortDedup_perm {l : List α} (h : l.Nodup) : (sortDedup l).Perm l := by
  rw [sortDedup_of_nodup h]
  exact List.perm_insertionSort _ l

theorem sortDedup_congr {l l' : List α} (hl : l.Nodup) (h : l.Perm l') :
    sortDedup l = sortDedup l' := by
  rw [sortDedup_of_nodup hl, sortDedup_of_nodup (h.nodup_iff.mp hl)]
  refine List.Perm.eq_of_pairwise' (r := (· ≤ ·)) (List.pairwise_insertionSort _ l)
    (List.pairwise_insertionSort _ l') ?_
  exact (List.perm_insertionSort _ l).trans (h.trans (List.perm_insertionSort _ l').symm)

end Orbis.Data
