import Orbis.Crypto.Dkg.Fresh
import Orbis.Node.Dkg.Commitment
import Orbis.Node.RingState

/-!
# Refreshing a ring

In a refresh every member deals a polynomial with constant term zero.  A member adds the share
and the public polynomial it computes to the stored ones and stores the result under the same
ring key.  The sessions below take any messages; what a member accepts keeps the ring key and
its index, over any number of rounds.
-/

open Polynomial

namespace Orbis.Node.Dkg

open Orbis.Algebra Orbis.Crypto Orbis.Crypto.Dkg Orbis.Data Orbis.Transition
open RingShareBundle (Storage Stored loadByRingKey ofParts stored_save)

variable {F E : Type} [Field F] [AddCommGroup E]

/-! ## Combining with the stored bundle -/

variable (F) in
/-- The candidate that replaces the stored bundle.  The index is the stored one. -/
def buildRefreshRingBundle [Repr32 F] (combinePubPoly : Bytes → Bytes → Except String Bytes)
    (storage : Storage) (ringPkHex : String) (finalShareBytes pubPolyBytes : Bytes)
    (nowSecs : UInt64) : Except DkgError RingShareBundle := do
  let oldBundle ← (loadByRingKey storage ringPkHex).mapError fun e =>
    DkgError.storage s!"Refresh: failed to load old share bundle: {e}"
  let oldPri : PriShare F ← (oldBundle.priShare F).mapError fun e =>
    DkgError.deserialization s!"Refresh: failed to deserialize old share: {e}"
  let deltaPri : PriShare F ← (PriShare.fromBytes finalShareBytes).mapError
    (DkgError.ofDecode "Refresh: failed to deserialize delta share")
  let newPri : PriShare F := ⟨oldPri.i, oldPri.v + deltaPri.v⟩
  match hexDecode oldBundle.publicPolynomial with
  | none => .error (.deserialization "Refresh: failed to decode old polynomial hex")
  | some oldPolyBytes => do
      let newPolyBytes ← (combinePubPoly oldPolyBytes pubPolyBytes).mapError fun e =>
        DkgError.crypto s!"Refresh: failed to combine polynomials: {e}"
      pure ⟨newPri.toBytes, hexEncode newPolyBytes, nowSecs⟩

variable (E) in
def combinePubPoly [Repr32 E] (old delta : Bytes) : Except String Bytes :=
  (PubPoly.combineBytes (E := E) old delta).mapError (·.message)

variable [Module F E]

/-- The end of a refresh session: the results of the node are combined with the stored bundle,
and the combined key must still be the one the ring is stored under. -/
def finishRefresh [DecidableEq F] [Repr32 F] [Repr32 E]
    (showKey : E → String) (storage : Storage) (storageKey : String)
    (nowSecs : UInt64) (node : DKGNode F E) : Except DkgError RingShareBundle := do
  let finalShare ← node.computeSecretShare.mapError
    (DkgError.ofCrypto "Failed to compute secret share")
  let _ ← node.computeAggregatePublicKey.mapError
    (DkgError.ofCrypto "Failed to compute aggregate public key")
  let pubPoly ← node.computePublicPolynomial.mapError
    (DkgError.ofCrypto "Failed to compute public polynomial")
  let stagedBundle ← buildRefreshRingBundle F (combinePubPoly E) storage storageKey
    finalShare.toBytes pubPoly.toBytes nowSecs
  match hexDecode stagedBundle.publicPolynomial with
  | none => .error (.deserialization "Refresh: failed to decode staged public polynomial")
  | some stagedPubPolyBytes => do
      let stagedPubPoly : PubPoly E ← (PubPoly.fromBytes stagedPubPolyBytes).mapError
        (DkgError.ofDecode "Refresh: failed to deserialize staged public polynomial")
      let stagedPk := showKey (stagedPubPoly.eval F 0)
      if stagedPk ≠ storageKey then
        .error (.crypto (s!"Refresh: staged ring public key {stagedPk} does not match the " ++
          s!"ring's existing key {storageKey}; aborting refresh before staging"))
      else
        pure stagedBundle

/-! ## Sessions and rounds -/

/-- What can happen to a member in a refresh session, in any order. -/
inductive RefreshEvent (F : Type) where
  | generatePolynomial (rng : ℕ → F)
  | commitmentMessage (fromNodeId : ℕ) (commitment : Bytes)
  | shareMessage (fromNodeId toNodeId : ℕ) (shareValue nonce : Bytes)

variable [Curve E]

/-- A message that is refused changes nothing but the complaints. -/
def refreshStep [DecidableEq E] [Repr32 F] [Repr32 E]
    (node : DKGNode F E) : RefreshEvent F → DKGNode F E
  | .generatePolynomial rng =>
    -- All callers generate only while there is no commitment yet.
    if node.commitment.coefficients.isEmpty then (node.generatePolynomial .refresh rng).1
    else node
  | .commitmentMessage fromNodeId commitment =>
    match prepareCommitmentMessage node node.threshold true fromNodeId commitment with
    | .error _ => node
    | .ok polynomialCommitment => (node.receiveCommitment fromNodeId polynomialCommitment).1
  | .shareMessage fromNodeId toNodeId shareValue nonce =>
    if toNodeId ≠ node.id then node
    else
      match Fr.fromBytes shareValue with
      | .error _ => node
      | .ok value =>
        (node.receiveShare ⟨fromNodeId, toNodeId, value, nonce, node.sessionId⟩).1

/-- The public data of a ring: the key it is stored under is the text of its public key. -/
structure RingInfo (E : Type) where
  threshold : ℕ
  totalNodes : ℕ
  ringKey : String
  showKey : E → String

/-- One member's part in a refresh ceremony.  A candidate is stored only when the health check
promotes it. -/
structure RefreshRound (F : Type) where
  sessionId : ℕ
  events : List (RefreshEvent F)
  nowSecs : UInt64
  promoted : Bool

namespace RefreshRound

/-- The member's node at the end of the session. -/
def session [DecidableEq E] [Repr32 F] [Repr32 E]
    (ring : RingInfo E) (id : ℕ) (round : RefreshRound F) :
    Except CryptoError (DKGNode F E) := do
  let node ← DKGNode.new id ring.threshold ring.totalNodes round.sessionId .standard
  pure (run refreshStep node round.events)

def candidate [DecidableEq F] [DecidableEq E] [Repr32 F] [Repr32 E]
    (ring : RingInfo E) (id : ℕ) (storage : Storage) (round : RefreshRound F) :
    Except DkgError RingShareBundle := do
  let node ← (round.session ring id).mapError (DkgError.ofCrypto "Failed to create DKG node")
  finishRefresh ring.showKey storage ring.ringKey round.nowSecs node

/-- The member's storage after the ceremony. -/
def apply [DecidableEq F] [DecidableEq E] [Repr32 F] [Repr32 E]
    (ring : RingInfo E) (id : ℕ) (storage : Storage) (round : RefreshRound F) : Storage :=
  match round.candidate ring id storage with
  | .ok bundle => if round.promoted then bundle.saveByRingKey storage ring.ringKey else storage
  | .error _ => storage

end RefreshRound

/-! ## What a session accepts -/

/-- The state of a member during a refresh: everything it holds has constant term zero and as
many coefficients as the threshold. -/
structure Refreshing (ring : RingInfo E) (id : ℕ) (node : DKGNode F E) : Prop where
  sound : node.Sound
  role : node.role = .standard
  id_eq : node.id = id
  id_pos : 1 ≤ id
  id_le : id ≤ asU32 ring.totalNodes
  threshold_eq : node.threshold = ring.threshold
  effectiveThreshold_eq : node.effectiveThreshold = ring.threshold
  threshold_pos : 1 ≤ ring.threshold
  threshold_le : ring.threshold ≤ ring.totalNodes
  totalNodes_eq : node.totalNodes = ring.totalNodes
  own : node.polynomialCoeffs = [] ∨
    ∃ rest, node.polynomialCoeffs = 0 :: rest ∧ rest.length + 1 = ring.threshold
  received : ∀ k c, node.receivedCommitments.lookup k = some c →
    (∃ rest, c.coefficients = 0 :: rest) ∧ c.coefficients.length = ring.threshold ∧
      ring.threshold ≤ maxCommitmentCoefficients
  senders : ∀ k ∈ node.receivedCommitments, k ∈ others ring.totalNodes id

namespace Refreshing

variable {ring : RingInfo E} {id : ℕ} {node : DKGNode F E}

theorem of_new {sessionId : ℕ}
    (h : DKGNode.new id ring.threshold ring.totalNodes sessionId .standard = .ok node) :
    Refreshing ring id node := by
  have hsound := DKGNode.sound_of_new h
  obtain ⟨⟨hid, hthreshold, hrange⟩, rfl⟩ := DKGNode.new_eq_ok.mp h
  have hbounds := hrange (by simp)
  refine ⟨hsound, rfl, rfl, ?_, hbounds.1, rfl, rfl, ?_, hbounds.2, rfl, .inl rfl, ?_, ?_⟩
  · omega
  · omega
  · intro k c hc
    cases hc
  · intro k hk
    cases hk

section

variable (h : Refreshing ring id node)
include h

theorem generatePolynomial (rng : ℕ → F) :
    Refreshing ring id (node.generatePolynomial .refresh rng).1 := by
  have hgen : (node.generatePolynomial .refresh rng).1 = node.fillPolynomial 0 rng := by
    simp [DKGNode.generatePolynomial, h.role]
  have hlen : ((List.range' 1 (node.effectiveThreshold - 1)).map rng).length + 1 =
      ring.threshold := by
    have := h.threshold_pos
    rw [List.length_map, List.length_range', h.effectiveThreshold_eq]
    omega
  rw [hgen]
  exact { h with
    sound := h.sound.fillPolynomial 0 rng
    own := .inr ⟨_, rfl, hlen⟩ }

theorem receiveCommitment {fromNodeId : ℕ} {commitment : PolynomialCommitment E}
    (hprep : Prepared node ring.threshold true fromNodeId commitment) :
    Refreshing ring id (node.receiveCommitment fromNodeId commitment).1 := by
  have hsound := h.sound.receiveCommitment fromNodeId commitment
  rw [DKGNode.receiveCommitment_of_accepts hprep.accepted] at hsound ⊢
  have hasU32 : asU32 node.totalNodes ≤ node.totalNodes := Nat.mod_le _ _
  have hfrom : fromNodeId ∈ others ring.totalNodes id := by
    have hpos := hprep.accepted.fromId_pos
    have hle := hprep.accepted.fromId_le
    have hself := hprep.accepted.not_self (by simp [h.role, DkgRole.dealsToItself])
    rw [h.id_eq] at hself
    rw [h.totalNodes_eq] at hasU32 hle
    apply mem_others.mpr
    omega
  refine { h with sound := hsound, received := ?_, senders := ?_ }
  · intro k c hc
    change (node.receivedCommitments.insert fromNodeId commitment).lookup k = some c at hc
    by_cases hk : k = fromNodeId
    · subst hk
      rw [AList.lookup_insert] at hc
      rw [← Option.some.inj hc]
      exact ⟨hprep.zeroConstant rfl, hprep.length, hprep.bounded⟩
    · rw [AList.lookup_insert_ne hk] at hc
      exact h.received k c hc
  · intro k hk
    rcases (AList.mem_insert node.receivedCommitments).mp hk with rfl | hk
    · exact hfrom
    · exact h.senders k hk

theorem receiveShare [DecidableEq E] (share : DistributedShare F) :
    Refreshing ring id (node.receiveShare share).1 := by
  have hsound := h.sound.receiveShare share
  by_cases hacc : node.AcceptsShare share
  · rw [DKGNode.receiveShare_of_accepts hacc] at hsound ⊢
    exact { h with sound := hsound }
  · obtain ⟨complaints, e, he⟩ := DKGNode.receiveShare_of_not_accepts hacc
    rw [he] at hsound ⊢
    exact { h with sound := hsound }

theorem refreshStep [DecidableEq E] [Repr32 F] [Repr32 E] (event : RefreshEvent F) :
    Refreshing ring id (refreshStep node event) := by
  cases event with
  | generatePolynomial rng =>
    simp only [Dkg.refreshStep]
    split
    · exact h.generatePolynomial rng
    · exact h
  | commitmentMessage fromNodeId commitment =>
    simp only [Dkg.refreshStep]
    split
    · exact h
    · next polynomialCommitment hprep =>
        rw [h.threshold_eq] at hprep
        exact h.receiveCommitment (prepared_of_eq_ok hprep)
  | shareMessage fromNodeId toNodeId shareValue nonce =>
    simp only [Dkg.refreshStep]
    split
    · exact h
    split
    · exact h
    · exact h.receiveShare _

end

theorem of_session [DecidableEq E] [Repr32 F] [Repr32 E]
    {round : RefreshRound F} (h : round.session ring id = .ok node) :
    Refreshing ring id node := by
  obtain ⟨start, hnew, h⟩ := bind_eq_ok.mp h
  cases h
  exact run_induction (fun _ event hinv => hinv.refreshStep event) (of_new hnew) _

end Refreshing

/-! ## A member that has heard from everyone -/

/-- The member holds the commitment and the share of every other member and has dealt. -/
structure Complete (node : DKGNode F E) : Prop where
  shares : node.receivedShares.entries.length = node.totalNodes - 1
  commitments : node.receivedCommitments.entries.length = node.totalNodes - 1
  dealt : node.polynomialCoeffs ≠ []

/-- The commitment that a member holds of dealer `j`, itself included. -/
def dealtBy (node : DKGNode F E) (j : ℕ) : PolynomialCommitment E :=
  if j = node.id then node.commitment else (node.receivedCommitments.lookup j).getD ⟨[]⟩

/-- The public polynomial of the session adds up what everyone dealt. -/
structure IsDelta [DecidableEq F] (ring : RingInfo E) (id : ℕ) (node : DKGNode F E) (value : F)
    (delta : PubPoly E) : Prop where
  share : node.computeSecretShare = .ok ⟨id, value⟩
  key : node.computeAggregatePublicKey = .ok (delta.eval F 0)
  poly : node.computePublicPolynomial = .ok delta
  length : delta.commits.length = ring.threshold
  committed : value • (generator : E) = powerSum delta.commits (id : F)
  sum : ∀ x : F, powerSum delta.commits x =
    ∑ j ∈ Finset.Icc 1 ring.totalNodes, powerSum (dealtBy node j).coefficients x

namespace Refreshing

variable {ring : RingInfo E} {id : ℕ} {node : DKGNode F E}

variable (h : Refreshing ring id node)
include h

theorem id_le_totalNodes : id ≤ ring.totalNodes :=
  h.id_le.trans (Nat.mod_le _ _)

theorem keys_perm (hc : Complete node) :
    node.receivedCommitments.keys.Perm (others ring.totalNodes id) := by
  have hsub : node.receivedCommitments.keys.Subperm (others ring.totalNodes id) :=
    List.subperm_of_subset node.receivedCommitments.keys_nodup fun k hk => h.senders k hk
  apply hsub.perm_of_length_le
  rw [length_others h.id_pos h.id_le_totalNodes, keys_length, hc.commitments, h.totalNodes_eq]

theorem own_commitment (hc : Complete node) :
    (∃ rest, node.commitment.coefficients = 0 :: rest) ∧
      node.commitment.coefficients.length = ring.threshold := by
  rcases h.own with hnil | ⟨rest, hrest, hlen⟩
  · exact absurd hnil hc.dealt
  · rw [h.sound.ownCommitment, hrest]
    constructor
    · exact ⟨rest.map (· • generator), by simp [commit]⟩
    · simp [commit, hlen]

theorem lookup_other (hc : Complete node) {j : ℕ} (hj : j ∈ others ring.totalNodes id) :
    node.receivedCommitments.lookup j = some (dealtBy node j) := by
  have hmem : j ∈ node.receivedCommitments := (h.keys_perm hc).mem_iff.mpr hj
  obtain ⟨c, hlookup⟩ := exists_lookup hmem
  have hne : j ≠ node.id := by
    rw [h.id_eq]
    exact (mem_others.mp hj).2.2
  rw [dealtBy, if_neg hne, hlookup]
  rfl

theorem dealtBy_spec (hc : Complete node) {j : ℕ} (hj : j ∈ Finset.Icc 1 ring.totalNodes) :
    (∃ rest, (dealtBy node j).coefficients = 0 :: rest) ∧
      (dealtBy node j).coefficients.length = ring.threshold := by
  have hrange := Finset.mem_Icc.mp hj
  by_cases hself : j = id
  · rw [dealtBy, if_pos (hself.trans h.id_eq.symm)]
    exact h.own_commitment hc
  · have hother : j ∈ others ring.totalNodes id := by
      apply mem_others.mpr
      omega
    have hspec := h.received j _ (h.lookup_other hc hother)
    exact ⟨hspec.1, hspec.2.1⟩

theorem threshold_small (hc : Complete node) :
    ring.threshold ≤ maxCommitmentCoefficients := by
  by_cases hn : ring.totalNodes ≤ 1
  · have := h.threshold_le
    rw [maxCommitmentCoefficients]
    omega
  · have hlen := hc.commitments
    rw [h.totalNodes_eq] at hlen
    have hne : node.receivedCommitments.entries ≠ [] := by
      intro hnil
      rw [hnil, List.length_nil] at hlen
      omega
    have hentry := lookup_of_mem_entries (List.head_mem hne)
    exact (h.received _ _ hentry).2.2

theorem exists_isDelta [DecidableEq F] (hc : Complete node) :
    ∃ value delta, IsDelta ring id node value delta := by
  have hown := h.own_commitment hc
  have hnot := DKGNode.isReshareReceiver_of_standard h.role
  have hlen : ∀ c ∈ values node.receivedCommitments,
      c.coefficients.length = node.commitment.coefficients.length := by
    intro c hmem
    obtain ⟨k, hk⟩ := mem_values.mp hmem
    rw [hown.2, (h.received k c hk).2.1]
  have hne : node.commitment.coefficients ≠ [] := by
    obtain ⟨rest, hrest⟩ := hown.1
    rw [hrest]
    exact List.cons_ne_nil 0 rest
  have hlen' : ∀ l ∈ (values node.receivedCommitments).map (·.coefficients),
      l.length = node.commitment.coefficients.length := by
    intro l hl
    obtain ⟨c, hmem, rfl⟩ := List.mem_map.mp hl
    exact hlen c hmem
  have hshare := (DKGNode.computeSecretShare_standard h.role).mpr ⟨hc.shares, hc.dealt, rfl⟩
  have hpoly := (DKGNode.computePublicPolynomial_eq_ok hnot).mpr
    ⟨hc.commitments, hne, hlen, rfl⟩
  rw [h.id_eq] at hshare
  have hmatch := h.sound.matches_results hshare hpoly
  have hvalues : (values node.receivedCommitments).Perm
      ((others ring.totalNodes id).map (dealtBy node)) :=
    values_perm_map_of_lookup (h.keys_perm hc) fun j hj => h.lookup_other hc hj
  have hself : dealtBy node id = node.commitment := by
    rw [dealtBy, if_pos h.id_eq.symm]
  refine ⟨_, _, hshare, hmatch.2, hpoly, ?_, ?_, fun x => ?_⟩
  · rw [length_foldl_zipWith_add _ _ hlen', hown.2]
  · rw [← PubPoly.eval_eq_powerSum]
    exact hmatch.1
  · rw [powerSum_foldl_zipWith_add _ _ _ hlen', List.map_map, (hvalues.map _).sum_eq, ← hself,
      List.map_map, ← add_sum_others h.id_pos h.id_le_totalNodes]
    rfl

theorem delta_zero [DecidableEq F] (hc : Complete node) {value : F} {delta : PubPoly E}
    (hd : IsDelta ring id node value delta) :
    powerSum delta.commits (0 : F) = 0 := by
  rw [hd.sum]
  apply Finset.sum_eq_zero
  intro j hj
  obtain ⟨rest, hrest⟩ := (h.dealtBy_spec hc hj).1
  rw [powerSum_zero_right, hrest]
  rfl

end Refreshing

/-! ## One round -/

variable [DecidableEq F] [DecidableEq E] [Repr32 F] [Repr32 E]

section

variable [LawfulRepr32 F] [LawfulRepr32 E]

omit [DecidableEq F] [Module F E] [DecidableEq E] [Curve E] in
theorem buildRefreshRingBundle_of_stored {storage : Storage} {ringKey : String}
    {share delta : PriShare F} {poly deltaPoly : PubPoly E}
    (hstored : Stored storage ringKey share poly) (hdelta : delta.i < 2 ^ 32)
    (hlen : poly.commits.length = deltaPoly.commits.length)
    (hsmall : deltaPoly.commits.length < 2 ^ 32) (nowSecs : UInt64) :
    buildRefreshRingBundle F (combinePubPoly E) storage ringKey delta.toBytes deltaPoly.toBytes
        nowSecs =
      .ok (ofParts ⟨share.i, share.v + delta.v⟩
        (⟨List.zipWith (· + ·) poly.commits deltaPoly.commits⟩ : PubPoly E) nowSecs) := by
  obtain ⟨bundle, polyBytes, hload, hpri, hhex, hpoly⟩ := hstored
  have hcombine := PubPoly.combineBytes_of_ok hpoly (PubPoly.fromBytes_toBytes hsmall) hlen
  simp only [buildRefreshRingBundle, hload, hpri, hhex, combinePubPoly, hcombine,
    PriShare.fromBytes_toBytes hdelta, mapError_ok, ok_bind]
  rfl

namespace RefreshRound

variable {ring : RingInfo E} {id : ℕ} {round : RefreshRound F} {storage : Storage}

/-- The member heard from everyone and its candidate was promoted. -/
def Completes (ring : RingInfo E) (id : ℕ) (round : RefreshRound F) : Prop :=
  round.promoted = true ∧ ∃ node, round.session ring id = .ok node ∧ Complete node

/-- A complete session has a candidate: the sums of the shares and of the polynomials. -/
theorem candidate_of_complete {node : DKGNode F E} (hsession : round.session ring id = .ok node)
    (hc : Complete node) {value share : F} {delta poly : PubPoly E}
    (hd : IsDelta ring id node value delta) (hstored : Stored storage ring.ringKey ⟨id, share⟩ poly)
    (hlen : poly.commits.length = ring.threshold)
    (hkey : ring.showKey (powerSum poly.commits (0 : F)) = ring.ringKey) :
    round.candidate ring id storage =
      .ok (ofParts ⟨id, share + value⟩
        (⟨List.zipWith (· + ·) poly.commits delta.commits⟩ : PubPoly E) round.nowSecs) := by
  have h := Refreshing.of_session hsession
  have hid : id < 2 ^ 32 := lt_of_le_of_lt h.id_le (Nat.mod_lt _ (by decide))
  have hmax := h.threshold_small hc
  have hlen' : poly.commits.length = delta.commits.length := hlen.trans hd.length.symm
  have hsmall : delta.commits.length < 2 ^ 32 := by
    rw [hd.length]
    rw [maxCommitmentCoefficients] at hmax
    omega
  have hbuild := buildRefreshRingBundle_of_stored hstored (show (⟨id, value⟩ : PriShare F).i < _
    from hid) hlen' hsmall round.nowSecs
  have hdecode : PubPoly.fromBytes
      (⟨List.zipWith (· + ·) poly.commits delta.commits⟩ : PubPoly E).toBytes =
      .ok (⟨List.zipWith (· + ·) poly.commits delta.commits⟩ : PubPoly E) := by
    apply PubPoly.fromBytes_toBytes
    rw [List.length_zipWith]
    omega
  -- The delta's constant term is zero, so the combined key is the stored one.
  have hstaged : ring.showKey
      ((⟨List.zipWith (· + ·) poly.commits delta.commits⟩ : PubPoly E).eval F 0) =
        ring.ringKey := by
    rw [PubPoly.eval_eq_powerSum, Nat.cast_zero, powerSum_zipWith_add hlen',
      h.delta_zero hc hd, add_zero, hkey]
  rw [candidate, hsession, mapError_ok, ok_bind, finishRefresh, hd.share, mapError_ok, ok_bind,
    hd.key, mapError_ok, ok_bind, hd.poly, mapError_ok, ok_bind, hbuild, ok_bind]
  simp only [ofParts, hexDecode_hexEncode, hdecode, mapError_ok, ok_bind, hstaged, ne_eq,
    not_true_eq_false, if_false]
  rfl

omit [LawfulRepr32 F] [LawfulRepr32 E] in
theorem apply_of_not_completes (h : ¬Completes ring id round) :
    round.apply ring id storage = storage := by
  unfold apply
  split
  swap
  · rfl
  next bundle hcandidate =>
    obtain ⟨node, hsession, hfinish⟩ := bind_eq_ok.mp hcandidate
    have hsession := mapError_eq_ok.mp hsession
    obtain ⟨share, hshare, hfinish⟩ := bind_eq_ok.mp hfinish
    obtain ⟨-, -, hfinish⟩ := bind_eq_ok.mp hfinish
    obtain ⟨poly, hpoly, -⟩ := bind_eq_ok.mp hfinish
    have hinv := Refreshing.of_session hsession
    have hshare := (DKGNode.computeSecretShare_standard hinv.role).mp (mapError_eq_ok.mp hshare)
    have hpoly := (DKGNode.computePublicPolynomial_eq_ok
      (DKGNode.isReshareReceiver_of_standard hinv.role)).mp (mapError_eq_ok.mp hpoly)
    rw [if_neg]
    intro hpromoted
    exact h ⟨hpromoted, node, hsession, hshare.1, hpoly.1, hshare.2.1⟩

end RefreshRound

/-! ## Any number of rounds -/

/-- What a member's storage holds, relative to the secret of the ring. -/
structure Holds (ring : RingInfo E) (secret : F) (id : ℕ) (storage : Storage) (share : F)
    (poly : PubPoly E) : Prop where
  stored : Stored storage ring.ringKey (⟨id, share⟩ : PriShare F) poly
  length : poly.commits.length = ring.threshold
  committed : share • (generator : E) = powerSum poly.commits (id : F)
  key : powerSum poly.commits (0 : F) = secret • (generator : E)

namespace Holds

variable {ring : RingInfo E} {secret : F} {id : ℕ} {storage : Storage} {share : F}
  {poly : PubPoly E} {round : RefreshRound F}

/-- A round that completes adds what everyone dealt to the stored polynomial. -/
theorem apply_of_completes (h : Holds ring secret id storage share poly)
    (hkey : ring.showKey (secret • (generator : E)) = ring.ringKey) {node : DKGNode F E}
    (hpromoted : round.promoted = true) (hsession : round.session ring id = .ok node)
    (hc : Complete node) :
    ∃ share' poly', Holds ring secret id (round.apply ring id storage) share' poly' ∧
      ∀ x : F, powerSum poly'.commits x = powerSum poly.commits x +
        ∑ j ∈ Finset.Icc 1 ring.totalNodes, powerSum (dealtBy node j).coefficients x := by
  have hinv := Refreshing.of_session hsession
  obtain ⟨value, delta, hd⟩ := hinv.exists_isDelta hc
  have hcandidate := RefreshRound.candidate_of_complete hsession hc hd h.stored h.length
    (h.key ▸ hkey)
  have hlen : poly.commits.length = delta.commits.length := h.length.trans hd.length.symm
  have hlen' : (List.zipWith (· + ·) poly.commits delta.commits).length = ring.threshold := by
    have hdelta := hd.length
    rw [List.length_zipWith]
    omega
  refine ⟨share + value, ⟨List.zipWith (· + ·) poly.commits delta.commits⟩,
    ⟨?_, hlen', ?_, ?_⟩, fun x => ?_⟩
  · rw [RefreshRound.apply, hcandidate]
    simp only [hpromoted, if_true]
    apply stored_save
    · exact lt_of_le_of_lt hinv.id_le (Nat.mod_lt _ (by decide))
    · have hmax := hinv.threshold_small hc
      rw [maxCommitmentCoefficients] at hmax
      change (List.zipWith (· + ·) poly.commits delta.commits).length < 2 ^ 24
      omega
  · rw [powerSum_zipWith_add hlen, add_smul, h.committed, hd.committed]
  · rw [powerSum_zipWith_add hlen, hinv.delta_zero hc hd, add_zero, h.key]
  · rw [powerSum_zipWith_add hlen, hd.sum]

theorem apply (h : Holds ring secret id storage share poly)
    (hkey : ring.showKey (secret • (generator : E)) = ring.ringKey) :
    ∃ share' poly', Holds ring secret id (round.apply ring id storage) share' poly' := by
  by_cases hcompletes : round.Completes ring id
  · obtain ⟨hpromoted, node, hsession, hc⟩ := hcompletes
    obtain ⟨share', poly', h', -⟩ := h.apply_of_completes hkey hpromoted hsession hc
    exact ⟨share', poly', h'⟩
  · rw [RefreshRound.apply_of_not_completes hcompletes]
    exact ⟨share, poly, h⟩

end Holds

def storageAfter (ring : RingInfo E) (id : ℕ) (storage : Storage)
    (rounds : List (ℕ → RefreshRound F)) : Storage :=
  run (fun storage round => (round id).apply ring id storage) storage rounds

/-- Two members completed the same ceremonies, and in each of them they hold the same
commitment of every dealer. -/
def SameGeneration (ring : RingInfo E) (rounds : List (ℕ → RefreshRound F)) (i j : ℕ) : Prop :=
  ∀ round ∈ rounds, ((round i).Completes ring i ↔ (round j).Completes ring j) ∧
    ∀ node node' : DKGNode F E, (round i).session ring i = .ok node →
      (round j).session ring j = .ok node' → (round i).Completes ring i →
        ∀ k ∈ Finset.Icc 1 ring.totalNodes, dealtBy node k = dealtBy node' k

section

variable {ring : RingInfo E} {secret : F}
  (hkey : ring.showKey (secret • (generator : E)) = ring.ringKey)
include hkey

theorem holds_storageAfter {id : ℕ} {storage : Storage} {share : F} {poly : PubPoly E}
    (h : Holds ring secret id storage share poly) (rounds : List (ℕ → RefreshRound F)) :
    ∃ share' poly', Holds ring secret id (storageAfter ring id storage rounds) share' poly' := by
  induction rounds generalizing storage share poly with
  | nil => exact ⟨share, poly, h⟩
  | cons round rounds ih =>
    have hstep : ∃ share' poly',
        Holds ring secret id ((round id).apply ring id storage) share' poly' := h.apply hkey
    obtain ⟨share', poly', h'⟩ := hstep
    exact ih h'

theorem holds_sameGeneration {i j : ℕ} {storage storage' : Storage} {share share' : F}
    {poly poly' : PubPoly E} {rounds : List (ℕ → RefreshRound F)}
    (hi : Holds ring secret i storage share poly) (hj : Holds ring secret j storage' share' poly')
    (heq : ∀ x : F, powerSum poly.commits x = powerSum poly'.commits x)
    (hsame : SameGeneration ring rounds i j) :
    ∃ share₁ poly₁ share₂ poly₂,
      Holds ring secret i (storageAfter ring i storage rounds) share₁ poly₁ ∧
        Holds ring secret j (storageAfter ring j storage' rounds) share₂ poly₂ ∧
          ∀ x : F, powerSum poly₁.commits x = powerSum poly₂.commits x := by
  induction rounds generalizing storage storage' share share' poly poly' with
  | nil => exact ⟨share, poly, share', poly', hi, hj, heq⟩
  | cons round rounds ih =>
    obtain ⟨hiff, hdealt⟩ := hsame round (by simp)
    have htail : SameGeneration ring rounds i j := fun r hr => hsame r (by simp [hr])
    by_cases hcompletes : (round i).Completes ring i
    · obtain ⟨hp₁, node₁, hs₁, hc₁⟩ := hcompletes
      obtain ⟨hp₂, node₂, hs₂, hc₂⟩ := hiff.mp ⟨hp₁, node₁, hs₁, hc₁⟩
      obtain ⟨share₁, poly₁, h₁, heq₁⟩ := hi.apply_of_completes hkey hp₁ hs₁ hc₁
      obtain ⟨share₂, poly₂, h₂, heq₂⟩ := hj.apply_of_completes hkey hp₂ hs₂ hc₂
      have hvalues : ∀ x : F, powerSum poly₁.commits x = powerSum poly₂.commits x := by
        intro x
        rw [heq₁, heq₂, heq]
        congr 1
        apply Finset.sum_congr rfl
        intro k hk
        rw [hdealt node₁ node₂ hs₁ hs₂ ⟨hp₁, node₁, hs₁, hc₁⟩ k hk]
      exact ih h₁ h₂ hvalues htail
    · have hcompletes' : ¬(round j).Completes ring j := fun h => hcompletes (hiff.mpr h)
      have h₁ : (round i).apply ring i storage = storage :=
        RefreshRound.apply_of_not_completes hcompletes
      have h₂ : (round j).apply ring j storage' = storage' :=
        RefreshRound.apply_of_not_completes hcompletes'
      have hrec := ih hi hj heq htail
      simp only [storageAfter, run_cons, h₁, h₂] at hrec ⊢
      exact hrec

end

/-- The public polynomial of a ring with secret polynomial `f`. -/
noncomputable def publicPolynomial (E : Type) [AddCommGroup E] [Module F E] [Curve E]
    (threshold : ℕ) (f : F[X]) : PubPoly E :=
  ⟨(commit ((List.range threshold).map f.coeff)).coefficients⟩

omit [DecidableEq F] [DecidableEq E] [Repr32 F] [Repr32 E] [LawfulRepr32 F] [LawfulRepr32 E] in
theorem powerSum_publicPolynomial {threshold : ℕ} {f : F[X]} (hdeg : f.degree < threshold)
    (x : F) : powerSum (publicPolynomial E threshold f).commits x = f.eval x • (generator : E) := by
  rw [publicPolynomial, powerSum_commit, powerSum_coeff hdeg]

/-- A ring whose members store the values of `f`, and any sequence of refresh ceremonies with
arbitrary messages.  After it every member holds a share at its own index that its public
polynomial commits to, the polynomial's constant term is still the ring key, any threshold of
members of one generation interpolates to the original secret, and a member that has heard from
everyone in a further session has a candidate. -/
theorem refresh_preserves_key [PrimeOrder F E] (ring : RingInfo E)
    (horder : ring.totalNodes < order E) {f : F[X]} (hdeg : f.degree < ring.threshold)
    (hkey : ring.ringKey = ring.showKey (f.eval 0 • (generator : E))) {stores : ℕ → Storage}
    (hstores : ∀ i ∈ Finset.Icc 1 ring.totalNodes,
      Stored (stores i) ring.ringKey (⟨i, f.eval (i : F)⟩ : PriShare F)
        (publicPolynomial E ring.threshold f))
    (rounds : List (ℕ → RefreshRound F)) :
    ∃ (share : ℕ → F) (poly : ℕ → PubPoly E),
      (∀ i ∈ Finset.Icc 1 ring.totalNodes,
        Stored (storageAfter ring i (stores i) rounds) ring.ringKey (⟨i, share i⟩ : PriShare F)
            (poly i) ∧
          share i • (generator : E) = (poly i).eval F i ∧
          (poly i).eval F 0 = f.eval 0 • (generator : E) ∧
          ∀ (round : RefreshRound F) (node : DKGNode F E), round.session ring i = .ok node →
            Complete node → ∃ bundle,
              round.candidate ring i (storageAfter ring i (stores i) rounds) = .ok bundle) ∧
      ∀ S ⊆ Finset.Icc 1 ring.totalNodes, ring.threshold ≤ S.card →
        (∀ i ∈ S, ∀ j ∈ S, SameGeneration ring rounds i j) →
          (Lagrange.interpolate S (fun i : ℕ => (i : F)) share).eval 0 = f.eval 0 := by
  have hstart : ∀ i ∈ Finset.Icc 1 ring.totalNodes, Holds ring (f.eval 0) i (stores i)
      (f.eval (i : F)) (publicPolynomial E ring.threshold f) := by
    intro i hi
    refine ⟨hstores i hi, ?_, ?_, ?_⟩
    · simp [publicPolynomial, commit]
    · rw [powerSum_publicPolynomial hdeg]
    · rw [powerSum_publicPolynomial hdeg]
  have hend : ∀ i ∈ Finset.Icc 1 ring.totalNodes, ∃ share poly,
      Holds ring (f.eval 0) i (storageAfter ring i (stores i) rounds) share poly :=
    fun i hi => holds_storageAfter hkey.symm (hstart i hi) rounds
  have : Inhabited (PubPoly E) := ⟨⟨[]⟩⟩
  choose! share poly hholds using hend
  refine ⟨share, poly, fun i hi => ⟨(hholds i hi).stored, ?_, ?_, ?_⟩, fun S hS hcard hsame => ?_⟩
  · rw [PubPoly.eval_eq_powerSum, (hholds i hi).committed]
  · rw [PubPoly.eval_eq_powerSum, Nat.cast_zero, (hholds i hi).key]
  · intro round node hsession hc
    obtain ⟨value, delta, hd⟩ := (Refreshing.of_session hsession).exists_isDelta hc
    exact ⟨_, RefreshRound.candidate_of_complete hsession hc hd (hholds i hi).stored
      (hholds i hi).length ((hholds i hi).key ▸ hkey.symm)⟩
  · rcases S.eq_empty_or_nonempty with rfl | ⟨i₀, hi₀⟩
    · have hzero : f.degree < (0 : ℕ) := hdeg.trans_le (by exact_mod_cast hcard)
      have hbot : f.degree = ⊥ := Nat.WithBot.lt_zero_iff.mp (by simpa using hzero)
      simp [degree_eq_bot.mp hbot]
    -- All members of the set hold the values of the polynomial of one of them.
    have hvalues : ∀ i ∈ S, ∀ x : F, powerSum (poly i).commits x =
        powerSum (poly i₀).commits x := by
      intro i hi x
      obtain ⟨_, poly₁, _, poly₂, h₁, h₂, heq⟩ := holds_sameGeneration hkey.symm
        (hstart i (hS hi)) (hstart i₀ (hS hi₀)) (fun _ => rfl) (hsame i hi i₀ hi₀)
      rw [((hholds i (hS hi)).stored.unique h₁.stored).2,
        ((hholds i₀ (hS hi₀)).stored.unique h₂.stored).2, heq]
    have hinj : Set.InjOn (fun i : ℕ => (i : F)) S :=
      (natCast_injOn F E).mono fun i hi => (Finset.mem_Icc.mp (hS hi)).2.trans_lt horder
    have hlen : (poly i₀).commits.length ≤ S.card := (hholds i₀ (hS hi₀)).length.trans_le hcard
    have hcommitted : ∀ i ∈ S, share i • (generator : E) = powerSum (poly i₀).commits (i : F) := by
      intro i hi
      rw [(hholds i (hS hi)).committed, hvalues i hi]
    have hsecret := interpolate_eval_zero_smul hinj hlen hcommitted
    rw [(hholds i₀ (hS hi₀)).key] at hsecret
    exact smul_left_injective F (PrimeOrder.generator_ne_zero (F := F) (E := E)) hsecret

end

/-! A ring of two members with threshold two, and a ceremony in which member 1 deals `x` and
member 2 deals `2 * x`. -/

def twoMembers : RingInfo F7 where
  threshold := 2
  totalNodes := 2
  ringKey := hexEncode (toRepr (3 : F7))
  showKey point := hexEncode (toRepr point)

def twoMembersRound (i : ℕ) : RefreshRound F7 where
  sessionId := 0
  events :=
    if i = 1 then
      [.generatePolynomial fun _ => 1, .commitmentMessage 2 (pointsBytes [(0 : F7), 2]),
        .shareMessage 2 1 (toRepr (2 : F7)) []]
    else
      [.commitmentMessage 1 (pointsBytes [(0 : F7), 1]), .generatePolynomial fun _ => 2,
        .shareMessage 1 2 (toRepr (2 : F7)) []]
  nowSecs := 7
  promoted := true

theorem twoMembersRound_complete : ∀ i ∈ Finset.Icc 1 2, ∃ node : DKGNode F7 F7,
    (twoMembersRound i).session twoMembers i = .ok node ∧ Complete node ∧
      ∀ k ∈ Finset.Icc 1 2, dealtBy node k = ⟨[0, (k : F7)]⟩ := by
  intro i hi
  rcases (show i = 1 ∨ i = 2 by have := Finset.mem_Icc.mp hi; omega) with rfl | rfl
  all_goals
    refine ⟨_, rfl, ⟨?_, ?_, ?_⟩, ?_⟩
    all_goals decide +kernel

theorem sameGeneration_twoMembers {i j : ℕ} (hi : i ∈ Finset.Icc 1 2) (hj : j ∈ Finset.Icc 1 2) :
    SameGeneration twoMembers [twoMembersRound] i j := by
  obtain ⟨node, hsession, hc, hdealt⟩ := twoMembersRound_complete i hi
  obtain ⟨node', hsession', hc', hdealt'⟩ := twoMembersRound_complete j hj
  intro round hround
  rw [List.mem_singleton.mp hround]
  refine ⟨⟨fun _ => ⟨rfl, node', hsession', hc'⟩, fun _ => ⟨rfl, node, hsession, hc⟩⟩, ?_⟩
  intro node₁ node₂ h₁ h₂ _ k hk
  rw [← Except.ok.inj (hsession.symm.trans h₁), ← Except.ok.inj (hsession'.symm.trans h₂),
    hdealt k hk, hdealt' k hk]

/-- The members store the values of `x + 3`. -/
noncomputable def twoMembersStore (i : ℕ) : Storage :=
  (ofParts (⟨i, (X + C 3 : F7[X]).eval (i : F7)⟩ : PriShare F7)
    (publicPolynomial F7 2 (X + C 3 : F7[X])) 0).saveByRingKey ∅ twoMembers.ringKey

theorem refresh_preserves_key_two :
    ∃ (share : ℕ → F7) (poly : ℕ → PubPoly F7),
      (∀ i ∈ Finset.Icc 1 2,
        Stored (storageAfter twoMembers i (twoMembersStore i) [twoMembersRound]) twoMembers.ringKey
            (⟨i, share i⟩ : PriShare F7) (poly i) ∧
          SameGeneration twoMembers [twoMembersRound] i 1 ∧
          share i • (generator : F7) = (poly i).eval F7 i ∧ (poly i).eval F7 0 = 3) ∧
        (Lagrange.interpolate (Finset.Icc 1 2) (fun i : ℕ => (i : F7)) share).eval 0 = 3 := by
  have hdeg : (X + C 3 : F7[X]).degree < (2 : ℕ) := by
    rw [degree_X_add_C]
    decide
  have hzero : (X + C 3 : F7[X]).eval 0 = 3 := by simp
  have hone : (3 : F7) • (generator : F7) = 3 := by decide
  have hkey : twoMembers.ringKey =
      twoMembers.showKey ((X + C 3 : F7[X]).eval 0 • (generator : F7)) := by
    rw [hzero, hone]
    rfl
  have hstores : ∀ i ∈ Finset.Icc 1 twoMembers.totalNodes,
      Stored (twoMembersStore i) twoMembers.ringKey
        (⟨i, (X + C 3 : F7[X]).eval (i : F7)⟩ : PriShare F7)
        (publicPolynomial F7 2 (X + C 3 : F7[X])) := by
    intro i hi
    apply stored_save
    · have hle : i ≤ 2 := (Finset.mem_Icc.mp hi).2
      change i < 2 ^ 32
      omega
    · simp [publicPolynomial, commit]
  obtain ⟨share, poly, hholds, hrecover⟩ := refresh_preserves_key twoMembers (by decide) hdeg hkey
    hstores [twoMembersRound]
  refine ⟨share, poly, fun i hi => ?_, ?_⟩
  · obtain ⟨hstored, hcommitted, hpublic, -⟩ := hholds i hi
    rw [hzero, hone] at hpublic
    exact ⟨hstored, sameGeneration_twoMembers hi (by decide), hcommitted, hpublic⟩
  · rw [← hzero]
    exact hrecover _ (Finset.Subset.refl _) (by decide) fun i hi j hj =>
      sameGeneration_twoMembers hi hj

end Orbis.Node.Dkg
