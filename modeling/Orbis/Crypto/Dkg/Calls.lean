import Orbis.Crypto.Dkg.Node
import Orbis.Transition.Run

/-!
# What a call does to a node

For each call the exact condition under which it is accepted, and the node it leaves.  Later
files use only these lemmas and never unfold the calls.
-/

namespace Orbis.Crypto.Dkg

open Orbis.Algebra Orbis.Data

/-! ## Participant sets and weights -/

variable {ids : List ℕ}

theorem canonicalizeParticipantIds_eq_ok {l : List ℕ} {totalNodes : ℕ} :
    canonicalizeParticipantIds ids totalNodes = .ok l ↔
      ids ≠ [] ∧ ids.Nodup ∧ (∀ id ∈ ids, id ≠ 0 ∧ id ≤ asU32 totalNodes) ∧
        l = sortDedup ids := by
  unfold canonicalizeParticipantIds
  by_cases hnil : ids = []
  · simp [hnil]
  by_cases hnd : ids.Nodup
  swap
  · simp [hnil, hnd, sortDedup_length_eq_iff]
  have hlen : (sortDedup ids).length = ids.length := sortDedup_length_eq_iff.mpr hnd
  have hmem : ∀ id, id ∈ sortDedup ids ↔ id ∈ ids := fun id => (sortDedup_perm hnd).mem_iff
  simp only [List.isEmpty_iff, hnil, if_false, hlen, ne_eq, not_true_eq_false, not_false_eq_true,
    hnd, true_and]
  cases hfind : (sortDedup ids).find? fun id => decide (id = 0 ∨ id > asU32 totalNodes) with
  | some id =>
    have hbad : id = 0 ∨ id > asU32 totalNodes := by simpa using List.find?_some hfind
    have hin : id ∈ ids := (hmem id).mp (List.mem_of_find?_eq_some hfind)
    have hnot : ¬∀ id ∈ ids, ¬id = 0 ∧ id ≤ asU32 totalNodes := by
      intro hall
      have := hall id hin
      omega
    simp [hnot]
  | none =>
    have hall : ∀ id ∈ ids, ¬id = 0 ∧ id ≤ asU32 totalNodes := by
      intro id hid
      have := List.find?_eq_none.mp hfind id ((hmem id).mpr hid)
      simp only [decide_eq_true_eq] at this
      omega
    simp only [Except.ok.injEq, eq_comm (a := l)]
    exact ⟨fun h => ⟨hall, h⟩, fun h => h.2⟩

section

variable {F : Type} [Field F]

private theorem ratioLoop_sortDedup (id : ℕ) (hnd : ids.Nodup) :
    (ratioLoop (fun j : ℕ => -(j : F)) (fun j => (id : F) - j) id (sortDedup ids)).1 *
        (ratioLoop (fun j : ℕ => -(j : F)) (fun j => (id : F) - j) id (sortDedup ids)).2⁻¹ =
      zeroWeight (Nat.cast : ℕ → F) ids id := by
  rw [← zeroWeight_perm _ (sortDedup_perm hnd)]
  exact ratioLoop_neg_div_eq_zeroWeight (Nat.cast : ℕ → F) id (sortDedup ids)

variable [DecidableEq F]

theorem eq_zeroWeight_of_lagrangeAtZero {id : ℕ} {lambda : F}
    (h : lagrangeAtZero F id ids = .ok lambda) :
    ids.Nodup ∧ lambda = zeroWeight (Nat.cast : ℕ → F) ids id := by
  unfold lagrangeAtZero at h
  by_cases hnd : ids.Nodup
  swap
  · simp [sortDedup_length_eq_iff, hnd] at h
  refine ⟨hnd, ?_⟩
  simp only [sortDedup_length_eq_iff.mpr hnd, ne_eq, not_true_eq_false, if_false, inverse] at h
  split at h
  · cases h
  · next inv hinv =>
      split at hinv
      · cases hinv
      · cases hinv
        exact (Except.ok.inj h).symm.trans (ratioLoop_sortDedup id hnd)

theorem lagrangeAtZero_eq_ok {id : ℕ} (hnd : ids.Nodup) (hne : ∀ j ∈ ids, j ≠ id → (j : F) ≠ id) :
    lagrangeAtZero F id ids = .ok (zeroWeight (Nat.cast : ℕ → F) ids id) := by
  have hden : (ratioLoop (fun j : ℕ => -(j : F)) (fun j => (id : F) - j) id (sortDedup ids)).2
      ≠ 0 := by
    refine ratioLoop_snd_ne_zero fun j hj hji => ?_
    have hjids : j ∈ ids := (sortDedup_perm hnd).mem_iff.mp hj
    exact sub_ne_zero.mpr (hne j hjids hji).symm
  simp only [lagrangeAtZero, sortDedup_length_eq_iff.mpr hnd, ne_eq, not_true_eq_false, if_false,
    inverse, hden, ratioLoop_sortDedup id hnd]

end

/-! ## The calls -/

inductive Call (F E : Type) where
  | generatePolynomial (mode : DkgMode F) (rng : ℕ → F)
  | selectReshareParticipants (participantIds : List ℕ)
  | receiveCommitment (fromId : ℕ) (commitment : PolynomialCommitment E)
  | receiveShare (share : DistributedShare F)

namespace DKGNode

variable {F E : Type} [Field F] [AddCommGroup E] [Module F E] [Curve E]

def call [DecidableEq E] (node : DKGNode F E) : Call F E → DKGNode F E × Except CryptoError Unit
  | .generatePolynomial mode rng => node.generatePolynomial mode rng
  | .selectReshareParticipants participantIds => node.selectReshareParticipants participantIds
  | .receiveCommitment fromId commitment => node.receiveCommitment fromId commitment
  | .receiveShare share => node.receiveShare share

/-- Run a list of calls, the failing ones included. -/
def runCalls [DecidableEq E] (node : DKGNode F E) (calls : List (Call F E)) : DKGNode F E :=
  Transition.run (fun node c => (node.call c).1) node calls

/-- Run a list of calls and stop at the first one that fails. -/
def runAll [DecidableEq E]
    (node : DKGNode F E) (calls : List (Call F E)) : Except CryptoError (DKGNode F E) :=
  calls.foldlM (fun node c => match node.call c with
    | (node, .ok ()) => .ok node
    | (_, .error e) => .error e) node

variable {node : DKGNode F E}

omit [Field F] [AddCommGroup E] [Module F E] [Curve E] in
theorem new_eq_ok {id threshold totalNodes sessionId : ℕ} {role : DkgRole} :
    DKGNode.new id threshold totalNodes sessionId role = .ok node ↔
      (id ≠ 0 ∧ threshold ≠ 0 ∧
        (role ≠ .receiver → id ≤ asU32 totalNodes ∧ threshold ≤ totalNodes)) ∧
      node = blank id threshold totalNodes sessionId role := by
  unfold DKGNode.new
  by_cases hrole : role = .receiver
  · simp only [hrole, ne_eq, not_true_eq_false, false_and, if_false, false_implies, and_true]
    split
    · next h => simp [h]
    split
    · next h => simp [h]
    · next hid hthreshold => simp [hid, hthreshold, eq_comm]
  · simp only [ne_eq, hrole, not_false_eq_true, true_and, forall_const]
    split
    · next h => simp [h]
    split
    · next h => simp [Nat.not_le.mpr h]
    split
    · next h => simp [Nat.not_le.mpr h]
    split
    · next h => simp [h]
    · next hid hrange hle hthreshold =>
        simp [hid, hthreshold, Nat.le_of_not_lt hrange, Nat.le_of_not_lt hle, eq_comm]

structure AcceptsShare [DecidableEq E]
    (node : DKGNode F E) (share : DistributedShare F) : Prop where
  role : node.role ≠ .dealer
  fromId_pos : share.fromId ≠ 0
  fromId_le : share.fromId ≤ asU32 node.totalNodes
  not_self : node.role.dealsToItself → share.fromId ≠ node.id
  fresh : share.fromId ∉ node.receivedShares
  toId : share.toId = node.receiveId
  sessionId : share.sessionId = node.sessionId
  verified : ∃ commitment, node.receivedCommitments.lookup share.fromId = some commitment ∧
    commitment.verifyShare share.toId share.value = true

variable {share : DistributedShare F}

theorem receiveShare_of_accepts [DecidableEq E]
    (h : node.AcceptsShare share) : node.receiveShare share =
      ({ node with receivedShares := node.receivedShares.insert share.fromId share.value },
        .ok ()) := by
  obtain ⟨commitment, hlookup, hverify⟩ := h.verified
  have hrange : ¬(share.fromId = 0 ∨ share.fromId > asU32 node.totalNodes) := by
    have := h.fromId_pos
    have := h.fromId_le
    omega
  have hself : ¬(node.role.dealsToItself = true ∧ share.fromId = node.id) :=
    fun hs => h.not_self hs.1 hs.2
  simp [receiveShare, h.role, hrange, hself, h.fresh, h.toId, h.sessionId, hlookup,
    h.toId ▸ hverify]

/-- A share that is not accepted changes at most the complaints. -/
theorem receiveShare_of_not_accepts [DecidableEq E] (h : ¬node.AcceptsShare share) :
    ∃ complaints e, node.receiveShare share = ({ node with complaints }, .error e) := by
  unfold receiveShare
  simp only [refuse]
  split
  · exact ⟨_, _, rfl⟩
  split
  · exact ⟨_, _, rfl⟩
  split
  · exact ⟨_, _, rfl⟩
  split
  · exact ⟨_, _, rfl⟩
  split
  · exact ⟨_, _, rfl⟩
  split
  · exact ⟨_, _, rfl⟩
  next hrole hrange hself hfresh hto hsession =>
    split
    · exact ⟨_, _, rfl⟩
    next commitment hlookup =>
      split
      · next hverify =>
          refine absurd ⟨hrole, ?_, ?_, ?_, hfresh, not_not.mp hto, not_not.mp hsession,
            commitment, hlookup, hverify⟩ h
          · omega
          · omega
          · exact fun hs hid => hself ⟨hs, hid⟩
      · exact ⟨_, _, rfl⟩

structure AcceptsCommitment (node : DKGNode F E) (fromId : ℕ)
    (commitment : PolynomialCommitment E) : Prop where
  fromId_pos : fromId ≠ 0
  fromId_le : fromId ≤ asU32 node.totalNodes
  not_self : node.role.dealsToItself → fromId ≠ node.id
  nonempty : commitment.coefficients ≠ []
  fresh : fromId ∉ node.receivedCommitments

variable {commitment : PolynomialCommitment E}

omit [Field F] [AddCommGroup E] [Module F E] [Curve E] in
theorem receiveCommitment_of_accepts {fromId : ℕ} (h : node.AcceptsCommitment fromId commitment) :
    node.receiveCommitment fromId commitment =
      ({ node with receivedCommitments := node.receivedCommitments.insert fromId commitment },
        .ok ()) := by
  have hrange : ¬(fromId = 0 ∨ fromId > asU32 node.totalNodes) := by
    have := h.fromId_pos
    have := h.fromId_le
    omega
  have hself : ¬(node.role.dealsToItself = true ∧ fromId = node.id) :=
    fun hs => h.not_self hs.1 hs.2
  simp [receiveCommitment, hrange, hself, h.nonempty, h.fresh]

omit [Field F] [AddCommGroup E] [Module F E] [Curve E] in
theorem receiveCommitment_of_not_accepts {fromId : ℕ}
    (h : ¬node.AcceptsCommitment fromId commitment) :
    ∃ e, node.receiveCommitment fromId commitment = (node, .error e) := by
  unfold receiveCommitment
  simp only [refuse]
  split
  · exact ⟨_, rfl⟩
  split
  · exact ⟨_, rfl⟩
  split
  · exact ⟨_, rfl⟩
  split
  · exact ⟨_, rfl⟩
  next hrange hself hnonempty hfresh =>
    refine absurd ⟨?_, ?_, ?_, by simpa using hnonempty, hfresh⟩ h
    · omega
    · omega
    · exact fun hs hid => hself ⟨hs, hid⟩

structure AcceptsReshare (node : DKGNode F E) (participatingIds : List ℕ)
    (newThreshold newTotalNodes : ℕ) : Prop where
  role : node.role ≠ .receiver
  participates : node.id ∈ participatingIds
  enough : node.threshold ≤ participatingIds.length
  newThreshold_pos : newThreshold ≠ 0
  newThreshold_le : newThreshold ≤ newTotalNodes

variable {participatingIds : List ℕ}

theorem generatePolynomial_reshare_of_accepts {newThreshold newTotalNodes : ℕ}
    (h : node.AcceptsReshare participatingIds newThreshold newTotalNodes) (oldShare : F)
    (newNodeId : Option ℕ) (rng : ℕ → F) : node.generatePolynomial
        (.reshare oldShare participatingIds newThreshold newTotalNodes newNodeId) rng =
      ({ node with
          effectiveThreshold := newThreshold
          effectiveTotalNodes := newTotalNodes
          selectedReshareParticipants := some participatingIds
          effectiveReceiveId := newNodeId }.fillPolynomial oldShare rng, .ok ()) := by
  have henough : ¬participatingIds.length < node.threshold := by
    have := h.enough
    omega
  have hnew : ¬(newThreshold = 0 ∨ newThreshold > newTotalNodes) := by
    have := h.newThreshold_pos
    have := h.newThreshold_le
    omega
  simp [generatePolynomial, h.role, h.participates, henough, hnew]

theorem generatePolynomial_reshare_of_not_accepts {newThreshold newTotalNodes : ℕ}
    (h : ¬node.AcceptsReshare participatingIds newThreshold newTotalNodes) (oldShare : F)
    (newNodeId : Option ℕ) (rng : ℕ → F) : ∃ e, node.generatePolynomial
      (.reshare oldShare participatingIds newThreshold newTotalNodes newNodeId) rng =
        (node, .error e) := by
  unfold generatePolynomial
  simp only [refuse]
  split
  · exact ⟨_, rfl⟩
  split
  · exact ⟨_, rfl⟩
  split
  · exact ⟨_, rfl⟩
  split
  · exact ⟨_, rfl⟩
  next hrole hmem henough hnew =>
    refine absurd ⟨hrole, not_not.mp hmem, ?_, ?_, ?_⟩ h
    · omega
    · omega
    · omega

theorem generatePolynomial_of_error {mode : DkgMode F} {rng : ℕ → F}
    {e : CryptoError} (h : (node.generatePolynomial mode rng).2 = .error e) :
    (node.generatePolynomial mode rng).1 = node := by
  cases mode <;> grind [generatePolynomial, refuse]

structure AcceptsSelection (node : DKGNode F E) (participantIds : List ℕ) : Prop where
  role : node.role ≠ .standard
  nonempty : participantIds ≠ []
  nodup : participantIds.Nodup
  range : ∀ id ∈ participantIds, id ≠ 0 ∧ id ≤ asU32 node.totalNodes
  enough : node.threshold ≤ participantIds.length

variable {participantIds : List ℕ}

omit [Field F] [AddCommGroup E] [Module F E] [Curve E] in
theorem selectReshareParticipants_of_accepts (h : node.AcceptsSelection participantIds) :
    node.selectReshareParticipants participantIds =
      ({ node with selectedReshareParticipants := some (sortDedup participantIds) }, .ok ()) := by
  have hok : canonicalizeParticipantIds participantIds node.totalNodes =
      .ok (sortDedup participantIds) :=
    canonicalizeParticipantIds_eq_ok.mpr ⟨h.nonempty, h.nodup, h.range, rfl⟩
  have henough : ¬(sortDedup participantIds).length < node.threshold := by
    have := h.enough
    rw [sortDedup_length_eq_iff.mpr h.nodup]
    omega
  simp [selectReshareParticipants, h.role, hok, henough]

omit [Field F] [AddCommGroup E] [Module F E] [Curve E] in
theorem selectReshareParticipants_of_not_accepts (h : ¬node.AcceptsSelection participantIds) :
    ∃ e, node.selectReshareParticipants participantIds = (node, .error e) := by
  unfold selectReshareParticipants
  simp only [refuse]
  split
  · exact ⟨_, rfl⟩
  split
  · exact ⟨_, rfl⟩
  next hrole _ ids hids =>
    obtain ⟨hnonempty, hnd, hrange, rfl⟩ := canonicalizeParticipantIds_eq_ok.mp hids
    split
    · exact ⟨_, rfl⟩
    · next henough =>
        rw [sortDedup_length_eq_iff.mpr hnd] at henough
        exact absurd ⟨hrole, hnonempty, hnd, hrange, by omega⟩ h

end DKGNode

end Orbis.Crypto.Dkg
