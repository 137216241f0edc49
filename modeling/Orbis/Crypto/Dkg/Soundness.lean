import Orbis.Crypto.Dkg.Results

/-!
# A node's share matches its public polynomial

Whatever calls a node receives, and whatever their arguments, every share it holds was checked
against the dealer's commitment at the identifier under which the node received at that moment.
The share it computes is therefore the discrete logarithm of its public polynomial at its index,
as long as that identifier does not change under shares that are already stored.  A polynomial
generation in reshare mode can change it.
-/

namespace Orbis.Crypto.Dkg.DKGNode

open Orbis.Algebra Orbis.Data Orbis.Transition

variable {F E : Type} [Field F] [AddCommGroup E] [Module F E] [Curve E]

/-- The invariant: the node's own commitment is to its own polynomial, every stored share is
committed at the receive identifier, and a standard node receives under its own identifier. -/
structure Sound (node : DKGNode F E) : Prop where
  ownCommitment : node.commitment = commit node.polynomialCoeffs
  sharesCommitted : ∀ k v, node.receivedShares.lookup k = some v →
    ∃ c, node.receivedCommitments.lookup k = some c ∧
      powerSum c.coefficients (node.receiveId : F) = v • (generator : E)
  standardReceiveId : node.role = .standard → node.receiveId = node.id

/-- An accepted generation in reshare mode keeps the receive identifier, or it comes before
any share is stored on a node whose result is taken at the new identifier.  Every other call
keeps it. -/
def KeepsReceiveId (node : DKGNode F E) : Call F E → Prop
  | .generatePolynomial (.reshare _ participatingIds newThreshold newTotalNodes newNodeId) _ =>
    node.AcceptsReshare participatingIds newThreshold newTotalNodes →
      newNodeId.getD node.id = node.receiveId ∨
        (node.role ≠ .standard ∧ node.receivedShares = ∅)
  | _ => True

theorem sound_of_new {id threshold totalNodes sessionId : ℕ} {role : DkgRole}
    {node : DKGNode F E} (h : DKGNode.new id threshold totalNodes sessionId role = .ok node) :
    node.Sound := by
  obtain ⟨-, rfl⟩ := new_eq_ok.mp h
  constructor
  · rfl
  · intro k v hv
    cases hv
  · intro _
    rfl

namespace Sound

variable {node : DKGNode F E}

variable (h : node.Sound)
include h

theorem fillPolynomial (constantTerm : F) (rng : ℕ → F) :
    (node.fillPolynomial constantTerm rng).Sound :=
  ⟨rfl, h.sharesCommitted, h.standardReceiveId⟩

/-- Changing the receive identifier is harmless when it stays the same or nothing is stored. -/
theorem reshareFields (participatingIds : List ℕ) (newThreshold newTotalNodes : ℕ)
    {newNodeId : Option ℕ}
    (hkeep : newNodeId.getD node.id = node.receiveId ∨
      (node.role ≠ .standard ∧ node.receivedShares = ∅)) :
    Sound { node with
      effectiveThreshold := newThreshold
      effectiveTotalNodes := newTotalNodes
      selectedReshareParticipants := some participatingIds
      effectiveReceiveId := newNodeId } := by
  constructor
  · exact h.ownCommitment
  · intro k v hv
    rcases hkeep with hsame | ⟨-, hempty⟩
    · obtain ⟨c, hc, heval⟩ := h.sharesCommitted k v hv
      refine ⟨c, hc, ?_⟩
      change powerSum c.coefficients ((newNodeId.getD node.id : ℕ) : F) = _
      rw [hsame, heval]
    · change node.receivedShares.lookup k = some v at hv
      rw [hempty, AList.lookup_empty] at hv
      cases hv
  · intro hstandard
    rcases hkeep with hsame | ⟨hrole, -⟩
    · exact hsame.trans (h.standardReceiveId hstandard)
    · exact absurd hstandard hrole

theorem generatePolynomial {mode : DkgMode F} {rng : ℕ → F}
    (hkeep : node.KeepsReceiveId (.generatePolynomial mode rng)) :
    (node.generatePolynomial mode rng).1.Sound := by
  cases mode with
  | fresh | refresh =>
    unfold DKGNode.generatePolynomial
    split
    · exact h
    · exact h.fillPolynomial _ _
  | reshare oldShare participatingIds newThreshold newTotalNodes newNodeId =>
    by_cases hacc : node.AcceptsReshare participatingIds newThreshold newTotalNodes
    · rw [generatePolynomial_reshare_of_accepts hacc]
      exact (h.reshareFields participatingIds newThreshold newTotalNodes
        (hkeep hacc)).fillPolynomial _ _
    · obtain ⟨e, he⟩ :=
        generatePolynomial_reshare_of_not_accepts hacc oldShare newNodeId rng
      rw [he]
      exact h

theorem receiveCommitment (fromId : ℕ) (commitment : PolynomialCommitment E) :
    (node.receiveCommitment fromId commitment).1.Sound := by
  by_cases hacc : node.AcceptsCommitment fromId commitment
  swap
  · obtain ⟨e, he⟩ := receiveCommitment_of_not_accepts hacc
    rw [he]
    exact h
  rw [receiveCommitment_of_accepts hacc]
  refine ⟨h.ownCommitment, ?_, h.standardReceiveId⟩
  intro k v hv
  obtain ⟨c, hc, heval⟩ := h.sharesCommitted k v hv
  -- The new key was absent, so it is not the key of a commitment that a share rests on.
  have hne : k ≠ fromId := by
    rintro rfl
    rw [AList.lookup_eq_none.mpr hacc.fresh] at hc
    cases hc
  exact ⟨c, (AList.lookup_insert_ne hne).trans hc, heval⟩

theorem receiveShare [DecidableEq E] (share : DistributedShare F) :
    (node.receiveShare share).1.Sound := by
  by_cases hacc : node.AcceptsShare share
  swap
  · obtain ⟨complaints, e, he⟩ := receiveShare_of_not_accepts hacc
    rw [he]
    exact ⟨h.ownCommitment, h.sharesCommitted, h.standardReceiveId⟩
  rw [receiveShare_of_accepts hacc]
  refine ⟨h.ownCommitment, ?_, h.standardReceiveId⟩
  intro k v hv
  change (node.receivedShares.insert share.fromId share.value).lookup k = some v at hv
  by_cases hk : k = share.fromId
  · subst hk
    rw [AList.lookup_insert] at hv
    obtain ⟨c, hc, hverify⟩ := hacc.verified
    refine ⟨c, hc, ?_⟩
    rw [← Option.some.inj hv]
    change powerSum c.coefficients (node.receiveId : F) = _
    rw [← hacc.toId]
    exact PolynomialCommitment.verifyShare_iff.mp hverify
  · rw [AList.lookup_insert_ne hk] at hv
    exact h.sharesCommitted k v hv

theorem selectReshareParticipants (participantIds : List ℕ) :
    (node.selectReshareParticipants participantIds).1.Sound := by
  by_cases hacc : node.AcceptsSelection participantIds
  · rw [selectReshareParticipants_of_accepts hacc]
    exact ⟨h.ownCommitment, h.sharesCommitted, h.standardReceiveId⟩
  · obtain ⟨e, he⟩ := selectReshareParticipants_of_not_accepts hacc
    rw [he]
    exact h

theorem call [DecidableEq E] {c : Call F E} (hkeep : node.KeepsReceiveId c) :
    (node.call c).1.Sound := by
  cases c with
  | generatePolynomial mode rng => exact h.generatePolynomial hkeep
  | selectReshareParticipants participantIds => exact h.selectReshareParticipants participantIds
  | receiveCommitment fromId commitment => exact h.receiveCommitment fromId commitment
  | receiveShare share => exact h.receiveShare share

theorem runCalls [DecidableEq E] {calls : List (Call F E)}
    (hkeep : Along (fun node c => (node.call c).1) KeepsReceiveId node calls) :
    (node.runCalls calls).Sound :=
  run_invariant (fun _ _ hguard hinv => hinv.call hguard) hkeep h

/-! ## Sound nodes compute matching results -/

theorem reshareShareFor_committed {p : ℕ} {v : F} {c : PolynomialCommitment E}
    (hv : node.reshareShareFor p = .ok v) (hc : node.reshareCommitmentFor p = .ok c) :
    powerSum c.coefficients (node.receiveId : F) = v • (generator : E) := by
  unfold reshareShareFor at hv
  unfold reshareCommitmentFor at hc
  by_cases hown : node.role = .dealerReceiver ∧ p = node.id
  · rw [if_pos hown] at hv hc
    split at hv
    · cases hv
    split at hc
    · cases hc
    rw [← Except.ok.inj hv, ← Except.ok.inj hc, h.ownCommitment, powerSum_commit,
      evalPolynomial_eq_powerSum]
  · rw [if_neg hown] at hv hc
    cases hshare : node.receivedShares.lookup p with
    | none => simp [hshare] at hv
    | some v' =>
      obtain ⟨c', hlookup, heval⟩ := h.sharesCommitted p v' hshare
      simp only [hshare] at hv
      simp only [hlookup] at hc
      rw [← Except.ok.inj hv, ← Except.ok.inj hc, heval]

variable {share : PriShare F} {poly : PubPoly E}

theorem matches_over [DecidableEq F] {participants : List ℕ}
    (hshare : node.secretShareOver participants = .ok share)
    (hpoly : node.publicPolynomialOver participants = .ok poly) :
    share.v • (generator : E) = poly.eval F share.i ∧
      node.aggregatePublicKeyOver participants = .ok (poly.eval F 0) := by
  obtain ⟨hw, value, hvalue, rfl⟩ := secretShareOver_eq_ok hshare
  obtain ⟨-, commitment, numCoeffs, hc, rfl⟩ := publicPolynomialOver_eq_ok hpoly
  have hlen : ∀ p ∈ participants, (commitment p).coefficients.length = numCoeffs :=
    fun p hp => (hc p hp).2
  constructor
  · rw [PubPoly.eval_eq_powerSum, powerSum_weightedPolynomial hlen, List.sum_smul, List.map_map]
    congr 1
    refine List.map_congr_left fun p hp => ?_
    rw [h.reshareShareFor_committed (hvalue p hp) (hc p hp).1, Function.comp_apply, mul_smul]
  · rw [aggregatePublicKeyOver_of_commitments hw fun p hp => (hc p hp).1,
      PubPoly.eval_eq_powerSum, Nat.cast_zero, powerSum_weightedPolynomial hlen]
    simp only [PolynomialCommitment.constantTerm_eq_powerSum (F := F)]

theorem matches_standard [DecidableEq F] (hrole : node.role = .standard)
    (hshare : node.computeSecretShare = .ok share)
    (hpoly : node.computePublicPolynomial = .ok poly) :
    share.v • (generator : E) = poly.eval F share.i ∧
      node.computeAggregatePublicKey = .ok (poly.eval F 0) := by
  have hnot := isReshareReceiver_of_standard hrole
  obtain ⟨hshares, -, rfl⟩ := (computeSecretShare_standard hrole).mp hshare
  obtain ⟨hcommitments, hown, hlen, rfl⟩ := (computePublicPolynomial_eq_ok hnot).mp hpoly
  have hlen' : ∀ l ∈ (values node.receivedCommitments).map (·.coefficients),
      l.length = node.commitment.coefficients.length := by
    intro l hl
    obtain ⟨c, hc, rfl⟩ := List.mem_map.mp hl
    exact hlen c hc
  -- As many shares as commitments, and every share has one: the dealers are the same.
  have hkeys : node.receivedShares.keys.Perm node.receivedCommitments.keys := by
    refine keys_perm_of_subset (fun k hk => ?_) (hshares.trans hcommitments.symm)
    obtain ⟨v, hv⟩ := exists_lookup hk
    obtain ⟨c, hc, -⟩ := h.sharesCommitted k v hv
    exact mem_of_lookup hc
  have hcommitted : ∀ k ∈ node.receivedShares.keys, ∃ v c,
      node.receivedShares.lookup k = some v ∧ node.receivedCommitments.lookup k = some c ∧
        powerSum c.coefficients (node.id : F) = v • (generator : E) := by
    intro k hk
    obtain ⟨v, hv⟩ := exists_lookup hk
    obtain ⟨c, hc, heval⟩ := h.sharesCommitted k v hv
    exact ⟨v, c, hv, hc, h.standardReceiveId hrole ▸ heval⟩
  choose! v c hv hc heval using hcommitted
  have hvalues : (values node.receivedShares).Perm (node.receivedShares.keys.map v) :=
    values_perm_map_of_lookup (List.Perm.refl _) hv
  have hcvalues : (values node.receivedCommitments).Perm (node.receivedShares.keys.map c) :=
    values_perm_map_of_lookup hkeys.symm hc
  constructor
  · rw [PubPoly.eval_eq_powerSum, powerSum_foldl_zipWith_add _ _ _ hlen', add_smul,
      evalPolynomial_eq_powerSum, ← powerSum_commit, ← h.ownCommitment, List.map_map,
      hvalues.sum_eq, (hcvalues.map _).sum_eq, List.sum_smul, List.map_map, List.map_map]
    congr 2
    exact List.map_congr_left fun k hk => (heval k hk).symm
  · rw [computeAggregatePublicKey_of_commitments hnot hcommitments hown,
      PubPoly.eval_eq_powerSum, Nat.cast_zero, powerSum_foldl_zipWith_add _ _ _ hlen',
      List.map_map, PolynomialCommitment.constantTerm_eq_powerSum (F := F)]
    simp only [PolynomialCommitment.constantTerm_eq_powerSum (F := F), Function.comp_def]

theorem matches_results [DecidableEq F] (hshare : node.computeSecretShare = .ok share)
    (hpoly : node.computePublicPolynomial = .ok poly) :
    share.v • (generator : E) = poly.eval F share.i ∧
      node.computeAggregatePublicKey = .ok (poly.eval F 0) := by
  by_cases hrole : node.role = .standard
  · exact h.matches_standard hrole hshare hpoly
  by_cases hdealer : node.role = .dealer
  · simp [computeSecretShare, hdealer] at hshare
  have hreceiver : node.isReshareReceiver = true := by
    cases hr : node.role <;> simp_all [isReshareReceiver]
  simp only [computeSecretShare, hdealer, if_false, hreceiver, if_true] at hshare
  simp only [computePublicPolynomial, hreceiver, if_true] at hpoly
  simp only [computeAggregatePublicKey, hreceiver, if_true]
  obtain ⟨participants, hparticipants, hshare⟩ := bind_eq_ok.mp hshare
  rw [hparticipants, ok_bind] at hpoly ⊢
  exact h.matches_over hshare hpoly

end Sound

variable [DecidableEq F] [DecidableEq E]

/-- In every run that never moves the receive identifier under stored shares, a node that
computes a share and a public polynomial computes matching ones, and the aggregate key is the
polynomial's constant term. -/
theorem results_match_of_keepsReceiveId {id threshold totalNodes sessionId : ℕ} {role : DkgRole}
    {node : DKGNode F E} (hnew : DKGNode.new id threshold totalNodes sessionId role = .ok node)
    {calls : List (Call F E)}
    (hkeep : Along (fun node c => (node.call c).1) KeepsReceiveId node calls)
    {share : PriShare F} {poly : PubPoly E}
    (hshare : (node.runCalls calls).computeSecretShare = .ok share)
    (hpoly : (node.runCalls calls).computePublicPolynomial = .ok poly) :
    share.v • (generator : E) = poly.eval F share.i ∧
      (node.runCalls calls).computeAggregatePublicKey = .ok (poly.eval F 0) :=
  ((sound_of_new hnew).runCalls hkeep).matches_results hshare hpoly

/-- A dealer-receiver whose identifier moves from 1 to 2 with its generation in reshare mode, before
the other dealer's share arrives. -/
def orderlyCalls : List (Call F7 F7) :=
  [.generatePolynomial (.reshare 3 [1, 2] 2 2 (some 2)) fun _ => 0,
    .receiveCommitment 2 ⟨[1, 1]⟩,
    .receiveShare { fromId := 2, toId := 2, value := 3, nonce := [], sessionId := 0 }]

theorem results_match_of_keepsReceiveId_orderly :
    ∃ node : DKGNode F7 F7, DKGNode.new 1 1 2 0 .dealerReceiver = .ok node ∧
      (node.runCalls orderlyCalls).computeSecretShare = .ok ⟨2, 3⟩ ∧
        (3 : F7) • (generator : F7) = PubPoly.eval F7 ⟨[5, 6]⟩ 2 ∧
          (node.runCalls orderlyCalls).computeAggregatePublicKey =
            .ok (PubPoly.eval F7 ⟨[5, 6]⟩ 0) := by
  have hnew : ∃ node : DKGNode F7 F7, DKGNode.new 1 1 2 0 .dealerReceiver = .ok node ∧
      (node.role ≠ .standard ∧ node.receivedShares = ∅) ∧
      (node.runCalls orderlyCalls).computeSecretShare = .ok ⟨2, 3⟩ ∧
        (node.runCalls orderlyCalls).computePublicPolynomial = .ok ⟨[5, 6]⟩ := by
    refine ⟨_, rfl, ⟨by decide, rfl⟩, ?_, ?_⟩
    all_goals decide +kernel
  obtain ⟨node, hnew, hempty, hshare, hpoly⟩ := hnew
  have hkeep : Along (fun node c => (node.call c).1) KeepsReceiveId node orderlyCalls :=
    ⟨fun _ => .inr hempty, trivial, trivial, trivial⟩
  exact ⟨node, hnew, hshare, results_match_of_keepsReceiveId hnew hkeep hshare hpoly⟩

/-- A dealer-receiver that accepts a share under its old identifier 1 before the generation in
reshare mode moves it to the new identifier 2. -/
def movedCalls : List (Call F7 F7) :=
  [.receiveCommitment 2 ⟨[1, 1]⟩,
    .receiveShare { fromId := 2, toId := 1, value := 2, nonce := [], sessionId := 0 },
    .generatePolynomial (.reshare 3 [1, 2] 2 2 (some 2)) fun _ => 0]

/-- The node computes share `4` at index 2, but its public polynomial takes the value `3`
there. -/
theorem share_mismatch_of_moved :
    ∃ node : DKGNode F7 F7, DKGNode.new 1 1 2 0 .dealerReceiver = .ok node ∧
      (node.runCalls movedCalls).computeSecretShare = .ok ⟨2, 4⟩ ∧
        (node.runCalls movedCalls).computePublicPolynomial = .ok ⟨[5, 6]⟩ ∧
          (4 : F7) • (generator : F7) ≠ PubPoly.eval F7 ⟨[5, 6]⟩ 2 := by
  refine ⟨_, rfl, ?_, ?_, ?_⟩
  all_goals decide +kernel

end Orbis.Crypto.Dkg.DKGNode
