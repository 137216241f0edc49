import Mathlib.LinearAlgebra.Lagrange
import Orbis.Algebra.PowerSum

/-!
# Interpolation at zero

The weights `zeroWeight v ids i` are the Lagrange basis polynomials of the nodes
`v i, i ∈ ids`, evaluated at zero.  They turn the values of any coefficient list that is not
longer than the node list into its constant coefficient, also when the coefficients are
module elements.  The file also relates the weights to the numerator and denominator loop
that programs use to compute them.
-/

open Polynomial

namespace Orbis.Algebra

variable {ι F A : Type*} [DecidableEq ι] [Field F] [AddCommGroup A] [Module F A]

/-- `∏ v j / (v j - v i)` over the nodes `j ≠ i` of the list. -/
def zeroWeight (v : ι → F) (ids : List ι) (i : ι) : F :=
  ((ids.filter (· ≠ i)).map fun j => v j / (v j - v i)).prod

theorem zeroWeight_perm (v : ι → F) {ids ids' : List ι} (h : ids.Perm ids') (i : ι) :
    zeroWeight v ids i = zeroWeight v ids' i :=
  ((h.filter _).map _).prod_eq

theorem zeroWeight_eq_eval_basis (v : ι → F) {ids : List ι} (hnd : ids.Nodup) (i : ι) :
    zeroWeight v ids i = (Lagrange.basis ids.toFinset v i).eval 0 := by
  have herase : ids.toFinset.erase i = (ids.filter (· ≠ i)).toFinset := by
    ext j
    simp [and_comm]
  rw [Lagrange.basis, eval_prod, herase, List.prod_toFinset _ (hnd.filter _), zeroWeight]
  congr 1
  refine List.map_congr_left fun j _ => ?_
  rw [Lagrange.basisDivisor, eval_mul, eval_C, eval_sub, eval_X, eval_C, zero_sub,
    ← neg_sub (v j) (v i), inv_neg, neg_mul_neg, div_eq_inv_mul]

/-- The moments of the weights: the weighted sum of `v i ^ k` is the value of `X ^ k` at zero. -/
theorem sum_zeroWeight_mul_pow {v : ι → F} {ids : List ι} (hnd : ids.Nodup)
    (hv : Set.InjOn v {i | i ∈ ids}) {k : ℕ} (hk : k < ids.length) :
    (ids.map fun i => zeroWeight v ids i * v i ^ k).sum = 0 ^ k := by
  have hinj : Set.InjOn v (ids.toFinset : Set ι) := by
    simpa using hv
  have hcard : ids.toFinset.card = ids.length := List.toFinset_card_of_nodup hnd
  have hdeg : (X ^ k : F[X]).degree < (ids.toFinset.card : WithBot ℕ) := by
    rw [hcard]
    exact lt_of_le_of_lt (degree_X_pow_le k) (by exact_mod_cast hk)
  have hinterp := congrArg (eval 0) (Lagrange.eq_interpolate hinj hdeg)
  rw [Lagrange.interpolate_apply, eval_finsetSum, ← List.sum_toFinset _ hnd] at *
  simp only [eval_pow, eval_X, eval_mul, eval_C] at hinterp
  rw [hinterp]
  refine Finset.sum_congr rfl fun i _ => ?_
  rw [zeroWeight_eq_eval_basis v hnd, mul_comm]

theorem sum_zeroWeight_smul_powerSum {v : ι → F} {ids : List ι} (hnd : ids.Nodup)
    (hv : Set.InjOn v {i | i ∈ ids}) {as : List A} (hlen : as.length ≤ ids.length) :
    (ids.map fun i => zeroWeight v ids i • powerSum as (v i)).sum = powerSum as (0 : F) := by
  have hmoment : ∀ k ∈ Finset.range as.length,
      (∑ i ∈ ids.toFinset, zeroWeight v ids i * v i ^ k) = 0 ^ k := by
    intro k hk
    rw [List.sum_toFinset _ hnd]
    exact sum_zeroWeight_mul_pow hnd hv (lt_of_lt_of_le (Finset.mem_range.mp hk) hlen)
  calc (ids.map fun i => zeroWeight v ids i • powerSum as (v i)).sum
      = ∑ i ∈ ids.toFinset, zeroWeight v ids i • powerSum as (v i) :=
        (List.sum_toFinset _ hnd).symm
    _ = ∑ i ∈ ids.toFinset, ∑ k ∈ Finset.range as.length,
          (zeroWeight v ids i * v i ^ k) • as.getD k 0 := by
        simp only [powerSum_eq_sum, Finset.smul_sum, mul_smul]
    _ = ∑ k ∈ Finset.range as.length,
          (∑ i ∈ ids.toFinset, zeroWeight v ids i * v i ^ k) • as.getD k 0 := by
        rw [Finset.sum_comm]
        simp only [Finset.sum_smul]
    _ = ∑ k ∈ Finset.range as.length, (0 : F) ^ k • as.getD k 0 :=
        Finset.sum_congr rfl fun k hk => by rw [hmoment k hk]
    _ = powerSum as (0 : F) := (powerSum_eq_sum as 0).symm

/-- Scalars that are committed to by the values of a coefficient list interpolate to a scalar
committed to by its constant coefficient. -/
theorem interpolate_eval_zero_smul {S : Finset ι} {v r : ι → F} {as : List A} {g : A}
    (hv : Set.InjOn v S) (hlen : as.length ≤ S.card)
    (hr : ∀ i ∈ S, r i • g = powerSum as (v i)) :
    (Lagrange.interpolate S v r).eval 0 • g = powerSum as (0 : F) := by
  have hnd : S.toList.Nodup := S.nodup_toList
  have hv' : Set.InjOn v {i | i ∈ S.toList} := by simpa using hv
  have hlen' : as.length ≤ S.toList.length := by rwa [Finset.length_toList]
  rw [← sum_zeroWeight_smul_powerSum hnd hv' hlen', ← List.sum_toFinset _ hnd, S.toList_toFinset,
    Lagrange.interpolate_apply, eval_finsetSum, Finset.sum_smul]
  refine Finset.sum_congr rfl fun i hi => ?_
  rw [zeroWeight_eq_eval_basis v hnd, S.toList_toFinset, eval_mul, eval_C, mul_comm, mul_smul,
    hr i hi]

/-! ## The numerator and denominator loop -/

/-- The loop that multiplies up a numerator and a denominator over the nodes other than `i`. -/
def ratioLoop (num den : ι → F) (i : ι) (ids : List ι) : F × F :=
  ids.foldl (fun s j => if j = i then s else (s.1 * num j, s.2 * den j)) (1, 1)

theorem ratioLoop_eq (num den : ι → F) (i : ι) (ids : List ι) :
    ratioLoop num den i ids =
      (((ids.filter (· ≠ i)).map num).prod, ((ids.filter (· ≠ i)).map den).prod) := by
  have hgen : ∀ s : F × F,
      ids.foldl (fun s j => if j = i then s else (s.1 * num j, s.2 * den j)) s =
        (s.1 * ((ids.filter (· ≠ i)).map num).prod,
          s.2 * ((ids.filter (· ≠ i)).map den).prod) := by
    induction ids with
    | nil => simp
    | cons j ids ih =>
      intro s
      by_cases hj : j = i
      · simpa [hj] using ih s
      · simpa [hj, mul_assoc] using ih (s.1 * num j, s.2 * den j)
  simpa [ratioLoop] using hgen (1, 1)

theorem ratioLoop_snd_ne_zero {num den : ι → F} {i : ι} {ids : List ι}
    (h : ∀ j ∈ ids, j ≠ i → den j ≠ 0) : (ratioLoop num den i ids).2 ≠ 0 := by
  rw [ratioLoop_eq]
  refine List.prod_ne_zero fun hmem => ?_
  obtain ⟨j, hj, hzero⟩ := List.mem_map.mp hmem
  obtain ⟨hj, hne⟩ := List.mem_filter.mp hj
  exact h j hj (by simpa using hne) hzero

theorem ratioLoop_div (num den : ι → F) (i : ι) (ids : List ι) :
    (ratioLoop num den i ids).1 * ((ratioLoop num den i ids).2)⁻¹ =
      ((ids.filter (· ≠ i)).map fun j => num j / den j).prod := by
  rw [ratioLoop_eq, ← div_eq_mul_inv]
  simpa using (Multiset.prod_map_div (m := (ids.filter (· ≠ i) : Multiset ι))
    (f := num) (g := den)).symm

/-- Both sign conventions of the loop give the weight. -/
theorem ratioLoop_div_eq_zeroWeight (v : ι → F) (i : ι) (ids : List ι) :
    (ratioLoop (fun j => v j) (fun j => v j - v i) i ids).1 *
        ((ratioLoop (fun j => v j) (fun j => v j - v i) i ids).2)⁻¹ = zeroWeight v ids i :=
  ratioLoop_div _ _ i ids

theorem ratioLoop_neg_div_eq_zeroWeight (v : ι → F) (i : ι) (ids : List ι) :
    (ratioLoop (fun j => -v j) (fun j => v i - v j) i ids).1 *
        ((ratioLoop (fun j => -v j) (fun j => v i - v j) i ids).2)⁻¹ = zeroWeight v ids i := by
  rw [ratioLoop_div, zeroWeight]
  congr 1
  refine List.map_congr_left fun j _ => ?_
  rw [← neg_sub (v j) (v i), neg_div_neg_eq]

end Orbis.Algebra
