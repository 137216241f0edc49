import Orbis.Crypto.Dkg.Calls

/-!
# The results of a node

What the three result functions return: over a selected dealer set for the receiving roles, and
over all dealers otherwise.
-/

namespace Orbis.Crypto.Dkg.DKGNode

open Orbis.Algebra Orbis.Data

variable {F E : Type} [Field F]

theorem evalPolynomial_eq_powerSum (node : DKGNode F E) (x : ℕ) :
    node.evalPolynomial x = powerSum node.polynomialCoeffs (x : F) := by
  unfold evalPolynomial
  split
  · next h => simp [List.isEmpty_iff.mp h]
  · exact evalPolyAt_eq_powerSum _ _

/-! ## Over a dealer set -/

variable [DecidableEq F]

/-- Every participant's weight can be computed. -/
def Weighted (F : Type) [Field F] [DecidableEq F] (participants : List ℕ) : Prop :=
  ∀ p ∈ participants,
    lagrangeAtZero F p participants = .ok (zeroWeight (Nat.cast : ℕ → F) participants p)

variable {node : DKGNode F E} {participants : List ℕ}

theorem weightedShare_eq_ok {p : ℕ} {term : F} : node.weightedShare participants p = .ok term ↔
      lagrangeAtZero F p participants = .ok (zeroWeight (Nat.cast : ℕ → F) participants p) ∧
        ∃ v, node.reshareShareFor p = .ok v ∧
          term = zeroWeight (Nat.cast : ℕ → F) participants p * v := by
  unfold weightedShare
  constructor
  · intro h
    obtain ⟨lambda, hlambda, h⟩ := bind_eq_ok.mp h
    obtain ⟨v, hv, h⟩ := bind_eq_ok.mp h
    have hw := (eq_zeroWeight_of_lagrangeAtZero hlambda).2
    exact ⟨hw ▸ hlambda, v, hv, hw ▸ (Except.ok.inj h).symm⟩
  · rintro ⟨hlambda, v, hv, rfl⟩
    simp [hlambda, hv, pure, Except.pure]

theorem secretShareOver_eq_ok {share : PriShare F}
    (h : node.secretShareOver participants = .ok share) : Weighted F participants ∧ ∃ value : ℕ → F,
      (∀ p ∈ participants, node.reshareShareFor p = .ok (value p)) ∧
        share = ⟨node.receiveId, (participants.map fun p =>
          zeroWeight (Nat.cast : ℕ → F) participants p * value p).sum⟩ := by
  obtain ⟨v, hv, hshare⟩ := bind_eq_ok.mp h
  obtain ⟨term, hterm, hsum⟩ := foldlM_add_ok hv
  have hparts : ∀ p ∈ participants, ∃ v, node.reshareShareFor p = .ok v ∧
      term p = zeroWeight (Nat.cast : ℕ → F) participants p * v :=
    fun p hp => (weightedShare_eq_ok.mp (hterm p hp)).2
  choose! value hvalue hmul using hparts
  refine ⟨fun p hp => (weightedShare_eq_ok.mp (hterm p hp)).1, value, hvalue, ?_⟩
  rw [← Except.ok.inj hshare, hsum, zero_add, List.map_congr_left hmul]

theorem secretShareOver_of_values {value : ℕ → F} (hw : Weighted F participants)
    (hvalue : ∀ p ∈ participants, node.reshareShareFor p = .ok (value p)) :
    node.secretShareOver participants = .ok ⟨node.receiveId, (participants.map fun p =>
      zeroWeight (Nat.cast : ℕ → F) participants p * value p).sum⟩ := by
  have hterm : ∀ p ∈ participants, node.weightedShare participants p =
      .ok (zeroWeight (Nat.cast : ℕ → F) participants p * value p) :=
    fun p hp => weightedShare_eq_ok.mpr ⟨hw p hp, value p, hvalue p hp, rfl⟩
  rw [secretShareOver, foldlM_ok_of_forall hterm, foldl_add_eq_add_sum, zero_add]
  rfl

variable {commitment : ℕ → PolynomialCommitment E}

variable [AddCommGroup E] [Module F E]

theorem aggregatePublicKeyOver_of_commitments (hw : Weighted F participants)
    (hc : ∀ p ∈ participants, node.reshareCommitmentFor p = .ok (commitment p)) :
    node.aggregatePublicKeyOver participants = .ok (participants.map fun p =>
      zeroWeight (Nat.cast : ℕ → F) participants p • (commitment p).constantTerm).sum := by
  have hterm : ∀ p ∈ participants, node.weightedConstantTerm participants p =
      .ok (zeroWeight (Nat.cast : ℕ → F) participants p • (commitment p).constantTerm) := by
    intro p hp
    simp [weightedConstantTerm, hw p hp, hc p hp, pure, Except.pure]
  rw [aggregatePublicKeyOver, foldlM_ok_of_forall hterm, foldl_add_eq_add_sum, zero_add]

/-- The weighted coefficients of the selected commitments, added position by position. -/
def weightedPolynomial (participants : List ℕ) (numCoeffs : ℕ)
    (commitment : ℕ → PolynomialCommitment E) : PubPoly E :=
  ⟨(participants.map fun p =>
    (commitment p).coefficients.map (zeroWeight (Nat.cast : ℕ → F) participants p • ·)).foldl
      (List.zipWith (· + ·)) (List.replicate numCoeffs 0)⟩

theorem weightedCoefficients_eq_ok {n p : ℕ} {terms : List E} :
    node.weightedCoefficients participants n p = .ok terms ↔
      lagrangeAtZero F p participants = .ok (zeroWeight (Nat.cast : ℕ → F) participants p) ∧
        ∃ c, node.reshareCommitmentFor p = .ok c ∧ c.coefficients.length = n ∧
          terms = c.coefficients.map (zeroWeight (Nat.cast : ℕ → F) participants p • ·) := by
  unfold weightedCoefficients
  constructor
  · intro h
    obtain ⟨lambda, hlambda, h⟩ := bind_eq_ok.mp h
    obtain ⟨c, hc, h⟩ := bind_eq_ok.mp h
    split at h
    · cases h
    · next hlen =>
        have hw := (eq_zeroWeight_of_lagrangeAtZero hlambda).2
        exact ⟨hw ▸ hlambda, c, hc, not_not.mp hlen, hw ▸ (Except.ok.inj h).symm⟩
  · rintro ⟨hlambda, c, hc, hlen, rfl⟩
    simp [hlambda, hc, hlen, pure, Except.pure]

theorem publicPolynomialOver_eq_ok {poly : PubPoly E}
    (h : node.publicPolynomialOver participants = .ok poly) :
    Weighted F participants ∧ ∃ commitment numCoeffs,
      (∀ p ∈ participants, node.reshareCommitmentFor p = .ok (commitment p) ∧
        (commitment p).coefficients.length = numCoeffs) ∧
      poly = weightedPolynomial (F := F) participants numCoeffs commitment := by
  obtain ⟨first, -, h⟩ := bind_eq_ok.mp h
  obtain ⟨agg, hagg, hpoly⟩ := bind_eq_ok.mp h
  have hterms : ∀ p ∈ participants, ∃ terms,
      node.weightedCoefficients participants first.coefficients.length p = .ok terms :=
    exists_terms_of_foldlM_ok hagg
  have hparts : ∀ p ∈ participants, ∃ c, node.reshareCommitmentFor p = .ok c ∧
      c.coefficients.length = first.coefficients.length ∧
      node.weightedCoefficients participants first.coefficients.length p =
        .ok (c.coefficients.map (zeroWeight (Nat.cast : ℕ → F) participants p • ·)) := by
    intro p hp
    obtain ⟨terms, hp⟩ := hterms p hp
    obtain ⟨-, c, hc, hlen, rfl⟩ := weightedCoefficients_eq_ok.mp hp
    exact ⟨c, hc, hlen, hp⟩
  choose! commitment hc hlen hterm using hparts
  refine ⟨fun p hp => (weightedCoefficients_eq_ok.mp (hterm p hp)).1, commitment,
    first.coefficients.length, fun p hp => ⟨hc p hp, hlen p hp⟩, ?_⟩
  rw [foldlM_ok_of_forall hterm] at hagg
  rw [← Except.ok.inj hpoly, ← Except.ok.inj hagg]
  rfl

theorem publicPolynomialOver_of_commitments {numCoeffs : ℕ} (hne : participants ≠ [])
    (hw : Weighted F participants)
    (hc : ∀ p ∈ participants, node.reshareCommitmentFor p = .ok (commitment p) ∧
      (commitment p).coefficients.length = numCoeffs) : node.publicPolynomialOver participants =
      .ok (weightedPolynomial (F := F) participants numCoeffs commitment) := by
  obtain ⟨p₀, rest, hcons⟩ := List.exists_cons_of_ne_nil hne
  have hfirst : participants.headD 0 ∈ participants := by simp [hcons]
  obtain ⟨hc₀, hlen₀⟩ := hc _ hfirst
  have hterm : ∀ p ∈ participants, node.weightedCoefficients participants numCoeffs p =
      .ok ((commitment p).coefficients.map
        (zeroWeight (Nat.cast : ℕ → F) participants p • ·)) := fun p hp =>
    weightedCoefficients_eq_ok.mpr ⟨hw p hp, commitment p, (hc p hp).1, (hc p hp).2, rfl⟩
  simp only [publicPolynomialOver, hc₀, ok_bind, hlen₀, foldlM_ok_of_forall hterm]
  rfl

omit [DecidableEq F] in
/-- The public polynomial takes, at every point, the weighted sum of the commitments' values. -/
theorem powerSum_weightedPolynomial {numCoeffs : ℕ}
    (hlen : ∀ p ∈ participants, (commitment p).coefficients.length = numCoeffs) (x : F) :
    powerSum (weightedPolynomial (F := F) participants numCoeffs commitment).commits x =
      (participants.map fun p => zeroWeight (Nat.cast : ℕ → F) participants p •
        powerSum (commitment p).coefficients x).sum := by
  unfold weightedPolynomial
  rw [powerSum_foldl_zipWith_add, powerSum_replicate_zero, zero_add, List.map_map]
  · simp only [Function.comp_def, powerSum_map_smul]
  · intro l hl
    obtain ⟨p, hp, rfl⟩ := List.mem_map.mp hl
    simp [hlen p hp]

/-! ## Over all dealers -/

omit [Field F] [DecidableEq F] [AddCommGroup E] [Module F E] in
theorem isReshareReceiver_of_standard (h : node.role = .standard) :
    node.isReshareReceiver = false := by
  simp [isReshareReceiver, h]

omit [AddCommGroup E] [Module F E] in
theorem computeSecretShare_standard (hrole : node.role = .standard) {share : PriShare F} :
    node.computeSecretShare = .ok share ↔
      node.receivedShares.entries.length = node.totalNodes - 1 ∧ node.polynomialCoeffs ≠ [] ∧
        share = ⟨node.id, node.evalPolynomial node.id + (values node.receivedShares).sum⟩ := by
  have hnot : node.role ≠ .dealer := by simp [hrole]
  unfold computeSecretShare
  simp only [hnot, if_false, isReshareReceiver_of_standard hrole, Bool.false_eq_true]
  split
  · next h => simp [h]
  split
  · next h => simp [List.isEmpty_iff.mp h]
  · next hlen hcoeffs =>
      rw [List.isEmpty_iff] at hcoeffs
      simp [not_not.mp hlen, hcoeffs, foldl_add_eq_add_sum, eq_comm]

theorem computeAggregatePublicKey_of_commitments (hrole : node.isReshareReceiver = false)
    (hlen : node.receivedCommitments.entries.length = node.totalNodes - 1)
    (hown : node.commitment.coefficients ≠ []) :
    node.computeAggregatePublicKey = .ok (node.commitment.constantTerm +
      ((values node.receivedCommitments).map (·.constantTerm)).sum) := by
  simp [computeAggregatePublicKey, hrole, hlen, hown, foldl_add_eq_add_sum]

theorem computePublicPolynomial_eq_ok (hrole : node.isReshareReceiver = false) {poly : PubPoly E} :
    node.computePublicPolynomial = .ok poly ↔
      node.receivedCommitments.entries.length = node.totalNodes - 1 ∧
        node.commitment.coefficients ≠ [] ∧
        (∀ c ∈ values node.receivedCommitments,
          c.coefficients.length = node.commitment.coefficients.length) ∧
        poly = ⟨((values node.receivedCommitments).map (·.coefficients)).foldl
          (List.zipWith (· + ·)) node.commitment.coefficients⟩ := by
  unfold computePublicPolynomial
  simp only [hrole, Bool.false_eq_true, if_false]
  split
  · next h => simp [h]
  split
  · next h => simp [List.isEmpty_iff.mp h]
  next hlen hown =>
    rw [List.isEmpty_iff] at hown
    split
    · next e he =>
        have hbad : e.2.coefficients.length ≠ node.commitment.coefficients.length := by
          simpa using List.find?_some he
        have hmem : e.2 ∈ values node.receivedCommitments :=
          List.mem_map_of_mem (List.mem_of_find?_eq_some he)
        have hnot : ¬∀ c ∈ values node.receivedCommitments,
            c.coefficients.length = node.commitment.coefficients.length :=
          fun hall => hbad (hall e.2 hmem)
        simp [hnot]
    · next hnone =>
        have hall : ∀ c ∈ values node.receivedCommitments,
            c.coefficients.length = node.commitment.coefficients.length := by
          intro c hc
          obtain ⟨e, he, rfl⟩ := List.mem_map.mp hc
          simpa using List.find?_eq_none.mp hnone e he
        simp only [Except.ok.injEq, not_not.mp hlen, ne_eq, hown, not_false_eq_true, true_and,
          eq_comm (a := poly)]
        exact ⟨fun h => ⟨hall, h⟩, fun h => h.2⟩

end Orbis.Crypto.Dkg.DKGNode
