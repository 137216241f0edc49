import Mathlib.Algebra.Polynomial.Eval.Degree

/-!
# Coefficient lists evaluated over a module

A polynomial is often kept as the list of its coefficients, lowest power first, and the
coefficients need not be scalars: a list of group elements is evaluated at a scalar in the
same way.  `powerSum as x` is `a₀ + x • a₁ + x² • a₂ + …` for coefficients in any module.
The lemmas say how evaluation meets the operations on coefficient lists, and that the usual
running-power loop computes it.
-/

open Polynomial

namespace Orbis.Algebra

variable {R A : Type*} [CommRing R] [AddCommGroup A] [Module R A]

/-- `a₀ + x • a₁ + x² • a₂ + …` for the coefficient list `[a₀, a₁, a₂, …]`. -/
def powerSum : List A → R → A
  | [], _ => 0
  | a :: as, x => a + x • powerSum as x

@[simp] theorem powerSum_nil (x : R) : powerSum ([] : List A) x = 0 := rfl

@[simp] theorem powerSum_cons (a : A) (as : List A) (x : R) :
    powerSum (a :: as) x = a + x • powerSum as x := rfl

theorem powerSum_zero_right (as : List A) : powerSum as (0 : R) = as.headD 0 := by
  cases as <;> simp

theorem powerSum_eq_sum (as : List A) (x : R) :
    powerSum as x = ∑ k ∈ Finset.range as.length, x ^ k • as.getD k 0 := by
  induction as with
  | nil => simp
  | cons a as ih =>
    rw [powerSum_cons, ih, List.length_cons, Finset.sum_range_succ', Finset.smul_sum, add_comm]
    simp [pow_succ', mul_smul]

theorem powerSum_map_smul (c : R) (as : List A) (x : R) :
    powerSum (as.map (c • ·)) x = c • powerSum as x := by
  induction as with
  | nil => simp
  | cons a as ih => simp [ih, smul_comm c x]

theorem powerSum_map_smul_right (as : List R) (g : A) (x : R) :
    powerSum (as.map (· • g)) x = powerSum as x • g := by
  induction as with
  | nil => simp
  | cons a as ih => simp [ih, add_smul, mul_smul]

theorem powerSum_zipWith_add {as bs : List A} (h : as.length = bs.length) (x : R) :
    powerSum (List.zipWith (· + ·) as bs) x = powerSum as x + powerSum bs x := by
  induction as generalizing bs with
  | nil =>
    have hb : bs = [] := List.length_eq_zero_iff.mp h.symm
    simp [hb]
  | cons a as ih =>
    cases bs with
    | nil => simp at h
    | cons b bs =>
      simp only [List.length_cons, add_left_inj] at h
      simp only [List.zipWith_cons_cons, powerSum_cons, ih h, smul_add]
      exact add_add_add_comm _ _ _ _

theorem length_foldl_zipWith_add (ls : List (List A)) (init : List A)
    (h : ∀ l ∈ ls, l.length = init.length) :
    (ls.foldl (List.zipWith (· + ·)) init).length = init.length := by
  induction ls generalizing init with
  | nil => rfl
  | cons l ls ih =>
    have hl : (List.zipWith (· + ·) init l).length = init.length := by
      simp [h l (by simp)]
    rw [List.foldl_cons, ih _ fun m hm => by rw [hl, h m (by simp [hm])], hl]

theorem powerSum_foldl_zipWith_add (ls : List (List A)) (init : List A) (x : R)
    (h : ∀ l ∈ ls, l.length = init.length) :
    powerSum (ls.foldl (List.zipWith (· + ·)) init) x =
      powerSum init x + (ls.map (powerSum · x)).sum := by
  induction ls generalizing init with
  | nil => simp
  | cons l ls ih =>
    have hinit : init.length = l.length := (h l (by simp)).symm
    have hl : (List.zipWith (· + ·) init l).length = init.length := by simp [hinit]
    rw [List.foldl_cons, ih _ fun m hm => by rw [hl, h m (by simp [hm])],
      powerSum_zipWith_add hinit, List.map_cons, List.sum_cons, add_assoc]

theorem powerSum_replicate_zero (n : ℕ) (x : R) :
    powerSum (List.replicate n (0 : A)) x = 0 := by
  induction n with
  | zero => rfl
  | succ n ih => simp [List.replicate_succ, ih]

theorem powerSum_eq_zero {as : List A} (h : ∀ a ∈ as, a = 0) (x : R) : powerSum as x = 0 := by
  induction as with
  | nil => rfl
  | cons a as ih =>
    rw [powerSum_cons, h a (by simp), ih fun b hb => h b (by simp [hb]), smul_zero, add_zero]

/-- Vanishing coefficients at the end do not count. -/
theorem powerSum_take {as : List A} {t : ℕ} (h : ∀ a ∈ as.drop t, a = 0) (x : R) :
    powerSum (as.take t) x = powerSum as x := by
  induction as generalizing t with
  | nil => simp
  | cons a as ih =>
    cases t with
    | zero => exact (powerSum_eq_zero h x).symm
    | succ t => simpa using congrArg (a + x • ·) (ih h)

/-- The running-power loop: `result` accumulates the sum, `xPower` the next power. -/
theorem foldl_powerSum (as : List A) (x result0 : R) (result : A) :
    (as.foldl (fun s a => (s.1 + s.2 • a, s.2 * x)) (result, result0)).1 =
      result + result0 • powerSum as x := by
  induction as generalizing result result0 with
  | nil => simp
  | cons a as ih =>
    rw [List.foldl_cons, ih, powerSum_cons, smul_add, mul_smul, add_assoc]

theorem foldl_zipWith_add_map {ι κ : Type*} (l : List ι) (ks : List κ) (g₀ : κ → A)
    (g : ι → κ → A) :
    (l.map fun j => ks.map (g j)).foldl (List.zipWith (· + ·)) (ks.map g₀) =
      ks.map fun k => g₀ k + (l.map fun j => g j k).sum := by
  induction l generalizing g₀ with
  | nil => simp
  | cons j l ih =>
    have hhead : List.zipWith (· + ·) (ks.map g₀) (ks.map (g j)) =
        ks.map fun k => g₀ k + g j k := by
      rw [List.zipWith_map, List.zipWith_self]
    rw [List.map_cons, List.foldl_cons, hhead, ih]
    simp only [List.map_cons, List.sum_cons, add_assoc]

theorem powerSum_coeff {p : R[X]} {t : ℕ} (h : p.degree < t) (x : R) :
    powerSum ((List.range t).map p.coeff) x = p.eval x := by
  have hsum : powerSum ((List.range t).map p.coeff) x =
      ∑ k ∈ Finset.range t, p.coeff k * x ^ k := by
    rw [powerSum_eq_sum, List.length_map, List.length_range]
    refine Finset.sum_congr rfl fun k hk => ?_
    have hk' : k < t := Finset.mem_range.mp hk
    simp [hk', mul_comm]
  rw [hsum]
  by_cases hp : p = 0
  · simp [hp]
  · exact (eval_eq_sum_range' ((natDegree_lt_iff_degree_lt hp).mpr h) x).symm

end Orbis.Algebra
