import Orbis.Algebra.Interpolation
import Orbis.Crypto.Codec

/-!
# Combining public shares

Re-encryption and the ownership check both add up the shares of a threshold of members with
the Lagrange weights at zero.  The loops run over positions of the share list, so that the
weights are those of the positions' identifiers.
-/

namespace Orbis.Crypto

open Orbis.Algebra Orbis.Data

variable {F E : Type} [Field F]

/-- Every index is in range and occurs once; `name` is what the errors call an index. -/
def checkIndices (name : String) (n : ℕ) : List ℕ → List ℕ → Except CryptoError Unit
  | _, [] => .ok ()
  | seen, idx :: rest =>
    if idx < 1 ∨ idx > asU32 n then
      .error (.elGamalError s!"Invalid {name}: {idx} (must be in range [1, {n}])")
    else if idx ∈ seen then .error (.elGamalError s!"Duplicate {name}: {idx}")
    else checkIndices name n (idx :: seen) rest

def node (indices : List ℕ) (j : ℕ) : F := ((indices.getD j 0 : ℕ) : F)

section

variable [DecidableEq F] [AddCommGroup E] [Module F E]

def positionWeight (indices : List ℕ) (i : ℕ) : Except CryptoError F :=
  let numDen := ratioLoop (node (F := F) indices) (fun j => node indices j - node indices i) i
    (List.range indices.length)
  match inverse numDen.2 with
  | none => .error (.elGamalError
      "Division by zero in Lagrange interpolation - this should not happen after validation")
  | some denInv => .ok (numDen.1 * denInv)

variable (F) in
def combine (name : String) (shares : List (PubShare E)) (n : ℕ) : Except CryptoError E := do
  checkIndices name n [] (shares.map (·.i))
  shares.zipIdx.foldlM (fun result share => do
    let term ← (positionWeight (F := F) (shares.map (·.i)) share.2).map (· • share.1.v)
    pure (result + term)) 0

end

/-! ## What is checked -/

variable {n : ℕ} {name : String} {indices : List ℕ}

theorem checkIndices_eq_ok_iff {seen : List ℕ} : checkIndices name n seen indices = .ok () ↔
      indices.Nodup ∧ (∀ i ∈ indices, 1 ≤ i ∧ i ≤ asU32 n) ∧ ∀ i ∈ indices, i ∉ seen := by
  induction indices generalizing seen with
  | nil => simp [checkIndices]
  | cons i rest ih =>
    unfold checkIndices
    by_cases hrange : i < 1 ∨ i > asU32 n
    · simp only [hrange, if_true, reduceCtorEq, false_iff]
      rintro ⟨-, hall, -⟩
      have := hall i List.mem_cons_self
      omega
    by_cases hseen : i ∈ seen
    · simp only [hrange, hseen, if_true, if_false, reduceCtorEq, false_iff]
      rintro ⟨-, -, hnew⟩
      exact hnew i List.mem_cons_self hseen
    simp only [hrange, hseen, if_false, ih, List.nodup_cons, List.forall_mem_cons]
    constructor
    · rintro ⟨hnd, hall, hnew⟩
      refine ⟨⟨fun hi => hnew i hi List.mem_cons_self, hnd⟩, ⟨by omega, hall⟩, not_false, ?_⟩
      exact fun j hj hold => hnew j hj (List.mem_cons_of_mem i hold)
    · rintro ⟨⟨hi, hnd⟩, ⟨-, hall⟩, -, hnew⟩
      refine ⟨hnd, hall, fun j hj hold => ?_⟩
      rcases List.mem_cons.mp hold with rfl | hold
      · exact hi hj
      · exact hnew j hj hold

/-! ## What is computed -/

theorem node_eq {j : ℕ} (h : j < indices.length) :
    node (F := F) indices j = ((indices[j] : ℕ) : F) := by
  simp [node, h]

variable (F) in
def shareWeight (shares : List (PubShare E)) (share : PubShare E × ℕ) : F :=
  zeroWeight (node (shares.map (·.i))) (List.range shares.length) share.2

variable {shares : List (PubShare E)}

theorem node_of_mem_zipIdx {share : PubShare E × ℕ} (h : share ∈ shares.zipIdx) :
    share.2 < shares.length ∧ share.1 ∈ shares ∧
      node (F := F) (shares.map (·.i)) share.2 = (share.1.i : F) := by
  have hget := List.mem_zipIdx_iff_getElem?.mp h
  obtain ⟨hlt, heq⟩ := List.getElem?_eq_some_iff.mp hget
  refine ⟨hlt, List.mem_of_getElem? hget, ?_⟩
  have hlt' : share.2 < (shares.map (·.i)).length := by rwa [List.length_map]
  rw [node_eq hlt', List.getElem_map, heq]

section PrimeOrder

variable [Curve E]

theorem index_lt_order (hord : n < order E)
    (hcheck : checkIndices name n [] (shares.map (·.i)) = .ok ()) :
    ∀ i ∈ shares.map (·.i), i < order E := by
  intro i hi
  have hle : asU32 n ≤ n := Nat.mod_le _ _
  have := (checkIndices_eq_ok_iff.mp hcheck).2.1 i hi
  omega

variable [AddCommGroup E] [Module F E] [PrimeOrder F E]

variable (E) in
theorem node_injOn (hnd : indices.Nodup) (hord : ∀ i ∈ indices, i < order E) :
    Set.InjOn (node (F := F) indices) {j | j ∈ List.range indices.length} := by
  intro i hi j hj hij
  have hi' : i < indices.length := List.mem_range.mp hi
  have hj' : j < indices.length := List.mem_range.mp hj
  rw [node_eq hi', node_eq hj'] at hij
  have hsame : indices[i] = indices[j] :=
    natCast_injOn F E (hord _ (List.getElem_mem hi')) (hord _ (List.getElem_mem hj')) hij
  exact (List.Nodup.getElem_inj_iff hnd).mp hsame

variable (E) in
theorem positionWeight_eq [DecidableEq F] (hnd : indices.Nodup) (hord : ∀ i ∈ indices, i < order E)
    {i : ℕ}
    (hi : i < indices.length) : positionWeight (F := F) indices i =
      .ok (zeroWeight (node indices) (List.range indices.length) i) := by
  have hden : (ratioLoop (node (F := F) indices) (fun j => node indices j - node indices i) i
      (List.range indices.length)).2 ≠ 0 := by
    apply ratioLoop_snd_ne_zero
    intro j hj hne hzero
    exact hne (node_injOn E hnd hord hj (List.mem_range.mpr hi) (sub_eq_zero.mp hzero))
  have hweight := ratioLoop_div_eq_zeroWeight (node (F := F) indices) i
    (List.range indices.length)
  unfold positionWeight inverse
  simp only [hden, if_false]
  exact congrArg Except.ok hweight

variable (hord : n < order E) (hcheck : checkIndices name n [] (shares.map (·.i)) = .ok ())
include hord hcheck

theorem sum_shareWeight_smul {A : Type} [AddCommGroup A]
    [Module F A] {as : List A} (hlen : as.length ≤ shares.length) :
    (shares.zipIdx.map fun share => shareWeight F shares share •
      powerSum as (share.1.i : F)).sum = powerSum as (0 : F) := by
  have hnd := (checkIndices_eq_ok_iff.mp hcheck).1
  have hord' := index_lt_order hord hcheck
  have hinj := node_injOn (F := F) E hnd hord'
  rw [List.length_map] at hinj
  have hpositions : shares.zipIdx.map (·.2) = List.range shares.length := by
    rw [List.zipIdx_map_snd, List.range_eq_range']
  have hsum := sum_zeroWeight_smul_powerSum List.nodup_range hinj
    (by rw [List.length_range]; exact hlen : as.length ≤ (List.range shares.length).length)
  rw [← hsum, ← hpositions, List.map_map]
  congr 1
  apply List.map_congr_left
  intro share hshare
  rw [Function.comp_apply, (node_of_mem_zipIdx hshare).2.2, shareWeight, hpositions]

variable [DecidableEq F]

theorem combine_eq : combine F name shares n =
      .ok ((shares.zipIdx.map fun share => shareWeight F shares share • share.1.v).sum) := by
  have hnd := (checkIndices_eq_ok_iff.mp hcheck).1
  have hord' := index_lt_order hord hcheck
  have hterm : ∀ share ∈ shares.zipIdx,
      (positionWeight (F := F) (shares.map (·.i)) share.2).map (· • share.1.v) =
        .ok (shareWeight F shares share • share.1.v) := by
    intro share hshare
    have hlt := (node_of_mem_zipIdx (F := F) hshare).1
    rw [positionWeight_eq E hnd hord' (by rwa [List.length_map]), List.length_map]
    rfl
  unfold combine
  rw [hcheck, ok_bind, foldlM_ok_of_forall hterm, foldl_add_eq_add_sum, zero_add]

theorem combine_values {as : List E} (hlen : as.length ≤ shares.length)
    (hvalue : ∀ share ∈ shares, share.v = powerSum as (share.i : F)) :
    combine F name shares n = .ok (powerSum as (0 : F)) := by
  rw [combine_eq hord hcheck, ← sum_shareWeight_smul (F := F) hord hcheck hlen]
  congr 2
  apply List.map_congr_left
  intro share hshare
  rw [hvalue share.1 (node_of_mem_zipIdx (F := F) hshare).2.1]

/-- Shares that multiply one point by what the public values commit to combine to the point
times what the public constant coefficient commits to. -/
theorem combine_of_committed {as : List E} (hlen : as.length ≤ shares.length) {x : F} {base : E}
    (hkey : powerSum as (0 : F) = x • (generator : E)) (hshare : ∀ share ∈ shares, ∃ s : F,
      powerSum as (share.i : F) = s • (generator : E) ∧ share.v = s • base) :
    combine F name shares n = .ok (x • base) := by
  classical
  choose! s hpublic hvalue using hshare
  have hscalar : (shares.zipIdx.map fun share => shareWeight F shares share * s share.1).sum =
      x := by
    apply smul_generator_injective E
    simp only
    rw [← hkey, ← sum_shareWeight_smul (F := F) hord hcheck hlen, List.sum_smul, List.map_map]
    congr 1
    apply List.map_congr_left
    intro share hmem
    rw [Function.comp_apply, mul_smul, hpublic share.1 (node_of_mem_zipIdx (F := F) hmem).2.1]
  rw [combine_eq hord hcheck, ← hscalar, List.sum_smul, List.map_map]
  congr 2
  apply List.map_congr_left
  intro share hmem
  rw [Function.comp_apply, mul_smul, hvalue share.1 (node_of_mem_zipIdx (F := F) hmem).2.1]

end PrimeOrder

end Orbis.Crypto
