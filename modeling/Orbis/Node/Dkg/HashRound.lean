import Orbis.Node.Dkg.Frames
import Orbis.Transition.Triple

/-!
# Commitment hashes and commitments

What the handlers of an attempt do to the hashes and commitments that a node has received: an
invariant, and a relation that every step of every handler is within.  The two are for any inputs,
so they hold whatever the other members send.

A commitment whose hash is missing is parked in a step of its own.  `onTime` is the set of dealers
for which no such step comes after the hash has been recorded; nothing is known about the parked
commitments of the others.
-/

namespace Orbis.Node.Dkg

open Orbis.Crypto Orbis.Crypto.Dkg Orbis.Data Orbis.Transition

variable {F E : Type}

/-! ## Steps that do not concern commitments -/

structure SameCommitments (s s' : Session F E) : Prop where
  kind : s'.kind = s.kind
  id : s'.node.id = s.node.id
  totalNodes : s'.node.totalNodes = s.node.totalNodes
  role : s'.node.role = s.node.role
  sessionId : s'.node.sessionId = s.node.sessionId
  receivedHashes : s'.receivedHashes = s.receivedHashes
  pendingCommitments : s'.pendingCommitments = s.pendingCommitments
  receivedCommitments : s'.node.receivedCommitments = s.node.receivedCommitments
  commitmentsReceived : s'.commitmentsReceived = s.commitmentsReceived
  broadcast : s.ownHashBroadcastComplete → s'.ownHashBroadcastComplete
  processed : ∀ contribution, .contribution contribution ∈ s'.processed →
    .contribution contribution ∈ s.processed

/-- No commitment is signed. -/
def Unrevealed (s s' : Session F E) : Prop :=
  ∀ contribution, .signed contribution ∈ s'.history → contribution.payload.phase = .commitments →
    .signed contribution ∈ s.history

theorem SameCommitments.refl (s : Session F E) : SameCommitments s s :=
  ⟨rfl, rfl, rfl, rfl, rfl, rfl, rfl, rfl, rfl, fun h => h, fun _ h => h⟩

theorem SameInbox.sameCommitments {s s' : Session F E} (h : SameInbox s s') :
    SameCommitments s s' :=
  ⟨h.kind, h.node.id, h.node.totalNodes, h.node.role, h.node.sessionId, h.receivedHashes,
    h.pendingCommitments, h.node.receivedCommitments, h.commitmentsReceived, h.broadcast,
    fun _ hc => h.processed ▸ hc⟩

theorem SameCommitments.dealingChanges [Field F] [DecidableEq F] [AddCommGroup E] [Module F E]
    [Curve E] : DealingChanges (SameCommitments (F := F) (E := E)) :=
  SameInbox.dealingChanges.mono fun _ _ => SameInbox.sameCommitments

/-- Only the complaints and the shares of the node change. -/
theorem SameCommitments.receiveShare [Field F] [AddCommGroup E] [Module F E] [DecidableEq E]
    [Curve E] (s : Session F E) (share : DistributedShare F) :
    SameCommitments s (s.receiveShare share).1 := by
  unfold Session.receiveShare
  by_cases hacc : s.node.AcceptsShare share
  · rw [DKGNode.receiveShare_of_accepts hacc]
    exact ⟨rfl, rfl, rfl, rfl, rfl, rfl, rfl, rfl, rfl, fun h => h, fun _ h => h⟩
  · obtain ⟨complaints, e, he⟩ := DKGNode.receiveShare_of_not_accepts hacc
    rw [he]
    exact ⟨rfl, rfl, rfl, rfl, rfl, rfl, rfl, rfl, rfl, fun h => h, fun _ h => h⟩

theorem SameCommitments.shareChanges [Field F] [AddCommGroup E] [Module F E] [DecidableEq E]
    [Curve E] : ShareChanges (SameCommitments (F := F) (E := E)) where
  claimMessage s messageId := by
    unfold Session.claimTransportMessage
    split
    · exact .refl s
    split
    · exact .refl s
    · exact ⟨rfl, rfl, rfl, rfl, rfl, rfl, rfl, rfl, rfl, fun h => h, fun _ h => h⟩
  finishMessage s messageId success hid := by
    refine ⟨rfl, rfl, rfl, rfl, rfl, rfl, rfl, rfl, rfl, fun h => h, fun contribution hmem => ?_⟩
    simp only [Session.finishTransportMessage] at hmem
    split at hmem
    · rcases List.mem_append.mp hmem with hmem | hmem
      · exact hmem
      · exact absurd (List.mem_singleton.mp hmem).symm (hid contribution)
    · exact hmem
  receiveShare := .receiveShare
  recordReceivedShare s dealerId := by
    unfold Session.recordReceivedShare
    split
    · exact .refl s
    · exact ⟨rfl, rfl, rfl, rfl, rfl, rfl, rfl, rfl, rfl, fun h => h, fun _ h => h⟩
  storePendingShare s pending := by
    unfold Session.storePendingShare
    split
    · exact .refl s
    · exact ⟨rfl, rfl, rfl, rfl, rfl, rfl, rfl, rfl, rfl, fun h => h, fun _ h => h⟩
  participantSet s reshare fromNodeId selectedDealers hreshare :=
    (SameInbox.updateReshare hreshare (handleReshareParticipantSet_same ..)).sameCommitments

theorem unrevealed_of_eq {s s' : Session F E} (h : s'.history = s.history) : Unrevealed s s' :=
  fun _ hc _ => h ▸ hc

theorem unrevealed_append {s s' : Session F E} {acts : List Act}
    (h : s'.history = s.history ++ acts)
    (hacts : ∀ contribution, .signed contribution ∈ acts →
      contribution.payload.phase ≠ .commitments) : Unrevealed s s' := by
  intro contribution hmem hphase
  rw [h] at hmem
  rcases List.mem_append.mp hmem with hmem | hmem
  · exact hmem
  · exact absurd hphase (hacts contribution hmem)

theorem unrevealed_dealingChanges [Field F] [DecidableEq F] [AddCommGroup E] [Module F E] [Curve E]
    : DealingChanges (Unrevealed (F := F) (E := E)) where
  refl _ := unrevealed_of_eq rfl
  claimTransition s event := by
    have hacts : ∀ contribution, .signed contribution ∈
        (transition (s.snapshot event) event).commands.map Act.issued →
        contribution.payload.phase ≠ .commitments := by simp
    unfold Session.claimTransition
    simp only
    split
    · exact unrevealed_append rfl hacts
    · exact unrevealed_append rfl hacts
  looks s _ := by
    have hacts : ∀ contribution, .signed contribution ∈ [Act.looked s.phase] →
        contribution.payload.phase ≠ .commitments := by simp
    exact unrevealed_append rfl hacts
  updatePhase s phase := by
    have hacts : ∀ contribution, .signed contribution ∈ [Act.started phase] →
        contribution.payload.phase ≠ .commitments := by simp
    exact unrevealed_append rfl hacts
  abort _ := unrevealed_of_eq rfl
  generatePolynomial s rng := by
    unfold Session.generatePolynomial
    split
    · split
      · exact unrevealed_of_eq rfl
      · exact unrevealed_of_eq rfl
    · exact unrevealed_of_eq rfl
  shareAck _ _ _ _ _ := unrevealed_of_eq rfl
  ackValidShare _ _ _ _ := unrevealed_of_eq rfl
  sign s contribution hphase := by
    have hacts : ∀ c, .signed c ∈ [Act.signed contribution] → c.payload.phase ≠ .commitments := by
      intro c hc
      cases List.mem_singleton.mp hc
      exact hphase
    exact unrevealed_append rfl hacts
  recordPublicContribution s contribution := by
    unfold Session.recordPublicContribution
    split
    · split <;> exact unrevealed_of_eq rfl
    · exact unrevealed_of_eq rfl
  cachePrivateMessage s share := by
    unfold Session.cachePrivateMessage
    split <;> exact unrevealed_of_eq rfl

theorem unrevealed_shareChanges [Field F] [AddCommGroup E] [Module F E] [DecidableEq E] [Curve E]
    : ShareChanges (Unrevealed (F := F) (E := E)) where
  claimMessage s messageId := by
    unfold Session.claimTransportMessage
    split
    · exact unrevealed_of_eq rfl
    split <;> exact unrevealed_of_eq rfl
  finishMessage _ _ _ _ := unrevealed_of_eq rfl
  receiveShare _ _ := unrevealed_of_eq rfl
  recordReceivedShare s dealerId := by
    unfold Session.recordReceivedShare
    split <;> exact unrevealed_of_eq rfl
  storePendingShare s pending := by
    unfold Session.storePendingShare
    split <;> exact unrevealed_of_eq rfl
  participantSet _ _ _ _ _ := unrevealed_of_eq rfl

/-! ## The invariant and the relation -/

/-- The node may reveal its own commitment. -/
structure RevealReady (s : Session F E) : Prop where
  broadcast : s.ownHashBroadcastComplete
  hashes : ∀ d, 1 ≤ d → d ≤ s.node.totalNodes → d ≠ s.node.id → d ∈ s.receivedHashes

variable (onTime : Set ℕ)

/-- No commitment of these dealers is parked after its hash has been recorded. -/
def ParksOnTime (s s' : Session F E) : Prop :=
  ∀ d ∈ onTime, d ∈ s.receivedHashes → d ∈ s'.pendingCommitments → d ∈ s.pendingCommitments

/-- What is left of a contribution that has been handled. -/
def Handled (s : Session F E) (contribution : PublicContribution) : Prop :=
  let d := contribution.origin.nodeId
  match contribution.payload with
  | .commitmentHash commitmentHash =>
    s.receivedHashes.lookup d = some commitmentHash ∧ (d ∈ onTime → d ∉ s.pendingCommitments)
  | .commitment _ => d ∈ s.node.receivedCommitments ∨ d ∈ s.pendingCommitments
  | _ => True

/-- Contributions of the node itself are not handled. -/
def HandledRemote (s : Session F E) (contribution : PublicContribution) : Prop :=
  ¬s.localIsOrigin contribution.origin → Handled onTime s contribution

structure Bound [Repr32 E] [Sha256] (s : Session F E) : Prop where
  member : s.kind.isFresh → s.node.role ≠ .receiver ∧ 1 ≤ s.node.id ∧ s.node.id ≤ s.node.totalNodes
  counted : s.commitmentsReceived = s.node.receivedCommitments.entries.length
  hashes : s.kind.isFresh → ∀ d ∈ s.receivedHashes, 1 ≤ d ∧ d ≤ s.node.totalNodes ∧ d ≠ s.node.id
  matched : s.kind.isFresh → ∀ d c, s.node.receivedCommitments.lookup d = some c →
    s.receivedHashes.lookup d =
      some (freshCommitmentHash s.node.sessionId d (pointsBytes c.coefficients))
  revealed : s.kind.isFresh → ∀ contribution, .signed contribution ∈ s.history →
    contribution.payload.phase = .commitments → RevealReady s
  handled : ∀ contribution, .contribution contribution ∈ s.processed →
    HandledRemote onTime s contribution

structure Grows (s s' : Session F E) : Prop where
  kind : s'.kind = s.kind
  id : s'.node.id = s.node.id
  totalNodes : s'.node.totalNodes = s.node.totalNodes
  role : s'.node.role = s.node.role
  sessionId : s'.node.sessionId = s.node.sessionId
  hashes : ∀ d h, s.receivedHashes.lookup d = some h → s'.receivedHashes.lookup d = some h
  received : ∀ d c, s.node.receivedCommitments.lookup d = some c →
    s'.node.receivedCommitments.lookup d = some c
  parked : ∀ d bytes, s.pendingCommitments.lookup d = some bytes →
    s'.pendingCommitments.lookup d = some bytes ∨ d ∈ s'.node.receivedCommitments
  broadcast : s.ownHashBroadcastComplete → s'.ownHashBroadcastComplete
  onTime : ParksOnTime onTime s s'

variable {onTime}

namespace Grows

variable {s s' s'' : Session F E}

theorem mem_hashes (h : Grows onTime s s') {d : ℕ} (hd : d ∈ s.receivedHashes) :
    d ∈ s'.receivedHashes := by
  obtain ⟨b, hb⟩ := exists_lookup hd
  exact mem_of_lookup (h.hashes d b hb)

theorem mem_received (h : Grows onTime s s') {d : ℕ} (hd : d ∈ s.node.receivedCommitments) :
    d ∈ s'.node.receivedCommitments := by
  obtain ⟨c, hc⟩ := exists_lookup hd
  exact mem_of_lookup (h.received d c hc)

theorem mem_parked (h : Grows onTime s s') {d : ℕ} (hd : d ∈ s.pendingCommitments) :
    d ∈ s'.pendingCommitments ∨ d ∈ s'.node.receivedCommitments := by
  obtain ⟨bytes, hbytes⟩ := exists_lookup hd
  exact (h.parked d bytes hbytes).imp_left mem_of_lookup

theorem refl (s : Session F E) : Grows onTime s s :=
  ⟨rfl, rfl, rfl, rfl, rfl, fun _ _ h => h, fun _ _ h => h, fun _ _ h => .inl h, fun h => h,
    fun _ _ _ h => h⟩

theorem trans (h : Grows onTime s s') (h' : Grows onTime s' s'') : Grows onTime s s'' where
  kind := h'.kind.trans h.kind
  id := h'.id.trans h.id
  totalNodes := h'.totalNodes.trans h.totalNodes
  role := h'.role.trans h.role
  sessionId := h'.sessionId.trans h.sessionId
  hashes d b hb := h'.hashes d b (h.hashes d b hb)
  received d c hc := h'.received d c (h.received d c hc)
  parked d bytes hd := by
    rcases h.parked d bytes hd with hd | hd
    · exact h'.parked d bytes hd
    · exact .inr (h'.mem_received hd)
  broadcast hb := h'.broadcast (h.broadcast hb)
  onTime d hd hhash hpending :=
    h.onTime d hd hhash (h'.onTime d hd (h.mem_hashes hhash) hpending)

theorem revealReady (h : Grows onTime s s') (hready : RevealReady s) : RevealReady s' where
  broadcast := h.broadcast hready.broadcast
  hashes d hpos hle hne := by
    rw [h.totalNodes] at hle
    rw [h.id] at hne
    exact h.mem_hashes (hready.hashes d hpos hle hne)

variable {contribution : PublicContribution}

theorem handled (h : Grows onTime s s') (hc : Handled onTime s contribution) :
    Handled onTime s' contribution := by
  unfold Handled at hc ⊢
  cases hpayload : contribution.payload with
  | commitmentHash commitmentHash =>
    simp only [hpayload] at hc ⊢
    refine ⟨h.hashes _ _ hc.1, fun hd hpending => hc.2 hd ?_⟩
    exact h.onTime _ hd (mem_of_lookup hc.1) hpending
  | commitment commitment =>
    simp only [hpayload] at hc ⊢
    rcases hc with hc | hc
    · exact .inl (h.mem_received hc)
    · exact (h.mem_parked hc).symm
  | _ => trivial

theorem handledRemote (h : Grows onTime s s') (hc : HandledRemote onTime s contribution) :
    HandledRemote onTime s' contribution := by
  intro hlocal
  apply h.handled (hc _)
  simpa only [Session.localIsOrigin, h.role, h.id] using hlocal

end Grows

variable [Repr32 E] [Sha256]

variable (onTime) in
def hashRound [Field F] [DecidableEq F] [AddCommGroup E] [Module F E] [DecidableEq E] [Curve E]
    [Repr32 F] : Interference (Session F E) (Session F E) where
  proj := id
  invariant := Bound onTime
  allowed := ParksOnTime onTime
  rely := Grows onTime
  guar := Grows onTime
  refl := .refl
  trans := .trans

/-! ## Single steps -/

section Steps

variable {s s' : Session F E}

omit [Repr32 E] [Sha256] in
theorem SameCommitments.grows (h : SameCommitments s s') : Grows onTime s s' where
  kind := h.kind
  id := h.id
  totalNodes := h.totalNodes
  role := h.role
  sessionId := h.sessionId
  hashes d b hb := by rwa [h.receivedHashes]
  received d c hc := by rwa [h.receivedCommitments]
  parked d bytes hd := .inl (by rwa [h.pendingCommitments])
  broadcast := h.broadcast
  onTime d _ _ hpending := by rwa [h.pendingCommitments] at hpending

variable (hs : Bound onTime s)
include hs

/-- What is left to show for a step that is within the relation. -/
theorem Bound.of_grows (h : Grows onTime s s')
    (hcounted : s'.commitmentsReceived = s'.node.receivedCommitments.entries.length)
    (hhashes : s.kind.isFresh → ∀ d ∈ s'.receivedHashes, d ∉ s.receivedHashes →
      1 ≤ d ∧ d ≤ s.node.totalNodes ∧ d ≠ s.node.id)
    (hmatched : s.kind.isFresh → ∀ d c, s'.node.receivedCommitments.lookup d = some c →
      s.node.receivedCommitments.lookup d = some c ∨ s'.receivedHashes.lookup d =
        some (freshCommitmentHash s.node.sessionId d (pointsBytes c.coefficients)))
    (hrevealed : s.kind.isFresh → ¬Unrevealed s s' → RevealReady s)
    (hhandled : ∀ contribution, .contribution contribution ∈ s'.processed →
      .contribution contribution ∈ s.processed ∨ HandledRemote onTime s' contribution) :
    Bound onTime s' where
  member hfresh := by
    rw [h.role, h.id, h.totalNodes]
    exact hs.member (h.kind ▸ hfresh)
  counted := hcounted
  hashes hfresh d hd := by
    rw [h.kind] at hfresh
    rw [h.id, h.totalNodes]
    by_cases hold : d ∈ s.receivedHashes
    · exact hs.hashes hfresh d hold
    · exact hhashes hfresh d hd hold
  matched hfresh d c hc := by
    rw [h.kind] at hfresh
    rw [h.sessionId]
    rcases hmatched hfresh d c hc with hold | hnew
    · exact h.hashes _ _ (hs.matched hfresh d c hold)
    · exact hnew
  revealed hfresh contribution hmem hphase := by
    rw [h.kind] at hfresh
    apply h.revealReady
    by_cases hquiet : Unrevealed s s'
    · exact hs.revealed hfresh contribution (hquiet contribution hmem hphase) hphase
    · exact hrevealed hfresh hquiet
  handled contribution hmem := by
    rcases hhandled contribution hmem with hold | hnew
    · exact h.handledRemote (hs.handled contribution hold)
    · exact hnew

/-- A step that does not concern the commitments of others may only sign the node's own commitment
when it may be revealed. -/
theorem SameCommitments.bound (h : SameCommitments s s')
    (hrevealed : s.kind.isFresh → ¬Unrevealed s s' → RevealReady s) : Bound onTime s' := by
  apply hs.of_grows h.grows
  · rw [h.commitmentsReceived, h.receivedCommitments, hs.counted]
  · intro _ d hd hnot
    rw [h.receivedHashes] at hd
    exact absurd hd hnot
  · intro _ d c hc
    rw [h.receivedCommitments] at hc
    exact .inl hc
  · exact hrevealed
  · exact fun contribution hmem => .inl (h.processed contribution hmem)

theorem recordCommitmentHash_bound {d : ℕ} (hpos : 1 ≤ d) (hle : d ≤ s.node.totalNodes)
    (hne : d ≠ s.node.id) (commitmentHash : Bytes)
    (honTime : ParksOnTime onTime s (s.recordCommitmentHash d commitmentHash).1) :
    Bound onTime (s.recordCommitmentHash d commitmentHash).1 ∧
      Grows onTime s (s.recordCommitmentHash d commitmentHash).1 ∧
      ∀ a, (s.recordCommitmentHash d commitmentHash).2 = .ok a →
        (s.recordCommitmentHash d commitmentHash).1.receivedHashes.lookup d =
          some commitmentHash := by
  unfold Session.recordCommitmentHash at honTime ⊢
  by_cases hfresh : s.kind.isFresh
  · simp only [hfresh, not_true_eq_false, if_false] at honTime ⊢
    cases hlookup : s.receivedHashes.lookup d with
    | some existing =>
      refine ⟨hs, .refl s, fun a ha => ?_⟩
      by_cases heq : existing = commitmentHash
      · rw [hlookup, heq]
      · simp [heq] at ha
    | none =>
      have hnew : ∀ d' b, s.receivedHashes.lookup d' = some b → d' ≠ d := by
        rintro d' b hb rfl
        rw [hlookup] at hb
        cases hb
      simp only [hlookup] at honTime ⊢
      have hgrows : Grows onTime s
          { s with receivedHashes := s.receivedHashes.insert d commitmentHash } := by
        refine ⟨rfl, rfl, rfl, rfl, rfl, fun d' b hb => ?_, fun _ _ h => h, fun _ _ h => .inl h,
          fun h => h, honTime⟩
        rw [AList.lookup_insert_ne (hnew d' b hb), hb]
      refine ⟨?_, hgrows, fun a _ => AList.lookup_insert _⟩
      apply hs.of_grows hgrows hs.counted
      · intro _ d' hd' hnot
        rcases AList.mem_insert _ |>.mp hd' with rfl | hold
        · exact ⟨hpos, hle, hne⟩
        · exact absurd hold hnot
      · exact fun _ d' c hc => .inl hc
      · exact fun _ hquiet => absurd (unrevealed_of_eq rfl) hquiet
      · exact fun contribution hmem => .inl hmem
  · rw [if_pos hfresh]
    exact ⟨hs, .refl s, fun a ha => by cases ha⟩

theorem parkCommitment_bound (d : ℕ) (commitment : Bytes)
    (honTime : ParksOnTime onTime s (s.parkCommitment d commitment)) :
    Bound onTime (s.parkCommitment d commitment) ∧
      Grows onTime s (s.parkCommitment d commitment) ∧
      d ∈ (s.parkCommitment d commitment).pendingCommitments := by
  unfold Session.parkCommitment at honTime ⊢
  by_cases hparked : d ∈ s.pendingCommitments
  · simp only [hparked, if_true]
    exact ⟨hs, .refl s, trivial⟩
  · simp only [hparked, if_false] at honTime ⊢
    have hgrows : Grows onTime s
        { s with pendingCommitments := s.pendingCommitments.insert d commitment } := by
      refine ⟨rfl, rfl, rfl, rfl, rfl, fun _ _ h => h, fun _ _ h => h, fun d' bytes hd' => ?_,
        fun h => h, honTime⟩
      have hne : d' ≠ d := by
        rintro rfl
        exact hparked (mem_of_lookup hd')
      exact .inl ((AList.lookup_insert_ne hne).trans hd')
    refine ⟨?_, hgrows, AList.mem_insert _ |>.mpr (.inl rfl)⟩
    apply hs.of_grows hgrows hs.counted
    · exact fun _ d' hd' hnot => absurd hd' hnot
    · exact fun _ d' c hc => .inl hc
    · exact fun _ hquiet => absurd (unrevealed_of_eq rfl) hquiet
    · exact fun contribution hmem => .inl hmem

theorem unparkCommitment_bound {d : ℕ} (hreceived : d ∈ s.node.receivedCommitments) :
    Bound onTime { s with pendingCommitments := s.pendingCommitments.erase d } ∧
      Grows onTime s { s with pendingCommitments := s.pendingCommitments.erase d } := by
  have hgrows : Grows onTime s
      { s with pendingCommitments := s.pendingCommitments.erase d } := by
    refine ⟨rfl, rfl, rfl, rfl, rfl, fun _ _ h => h, fun _ _ h => h, fun d' bytes hd' => ?_,
      fun h => h, fun d' _ _ hd' => (AList.mem_erase.mp hd').2⟩
    by_cases heq : d' = d
    · exact .inr (heq ▸ hreceived)
    · exact .inl ((AList.lookup_erase_ne heq).trans hd')
  refine ⟨?_, hgrows⟩
  apply hs.of_grows hgrows hs.counted
  · exact fun _ d' hd' hnot => absurd hd' hnot
  · exact fun _ d' c hc => .inl hc
  · exact fun _ hquiet => absurd (unrevealed_of_eq rfl) hquiet
  · exact fun contribution hmem => .inl hmem

/-- The commitment has the hash that the dealer sent before. -/
def Fits (d : ℕ) (c : PolynomialCommitment E) (s : Session F E) : Prop :=
  s.kind.isFresh → s.receivedHashes.lookup d =
    some (freshCommitmentHash s.node.sessionId d (pointsBytes c.coefficients))

theorem receiveCommitment_bound {d : ℕ} {c : PolynomialCommitment E} (hfits : Fits d c s) :
    Bound onTime (s.receiveCommitment d c).1 ∧ Grows onTime s (s.receiveCommitment d c).1 ∧
      ∀ needToGenerate, (s.receiveCommitment d c).2 = .ok needToGenerate →
        d ∈ (s.receiveCommitment d c).1.node.receivedCommitments ∧
          (needToGenerate → ¬(s.receiveCommitment d c).1.kind.isFresh) := by
  unfold Session.receiveCommitment
  dsimp only
  split
  · exact ⟨hs, .refl s, fun a ha => by cases ha⟩
  by_cases hacc : s.node.AcceptsCommitment d c
  · rw [DKGNode.receiveCommitment_of_accepts hacc]
    have hnew : ∀ d' c', s.node.receivedCommitments.lookup d' = some c' → d' ≠ d := by
      rintro d' c' hc' rfl
      exact hacc.fresh (mem_of_lookup hc')
    dsimp only
    refine ⟨?_, ?_, fun needToGenerate hneed => ⟨AList.mem_insert _ |>.mpr (.inl rfl), ?_⟩⟩
    case refine_2 =>
      refine ⟨rfl, rfl, rfl, rfl, rfl, fun _ _ h => h, fun d' c' hc' => ?_, fun _ _ h => .inl h,
        fun h => h, fun _ _ _ h => h⟩
      exact (AList.lookup_insert_ne (hnew d' c' hc')).trans hc'
    case refine_3 =>
      intro htrue
      simp only [Except.ok.injEq] at hneed
      rw [← hneed, decide_eq_true_eq] at htrue
      exact htrue.1
    apply hs.of_grows
    · refine ⟨rfl, rfl, rfl, rfl, rfl, fun _ _ h => h, fun d' c' hc' => ?_, fun _ _ h => .inl h,
        fun h => h, fun _ _ _ h => h⟩
      exact (AList.lookup_insert_ne (hnew d' c' hc')).trans hc'
    · rw [AList.entries_insert_of_notMem hacc.fresh, List.length_cons, hs.counted]
    · exact fun _ d' hd' hnot => absurd hd' hnot
    · intro hfresh d' c' hc'
      by_cases heq : d' = d
      · subst heq
        rw [AList.lookup_insert] at hc'
        cases hc'
        exact .inr (hfits hfresh)
      · rw [AList.lookup_insert_ne heq] at hc'
        exact .inl hc'
    · exact fun _ hquiet => absurd (unrevealed_of_eq rfl) hquiet
    · exact fun contribution hmem => .inl hmem
  · obtain ⟨e, he⟩ := DKGNode.receiveCommitment_of_not_accepts hacc
    rw [he]
    exact ⟨hs, .refl s, fun a ha => by cases ha⟩

theorem finishContribution_bound (contribution : PublicContribution) {success : Bool}
    (hhandled : success → HandledRemote onTime s contribution) :
    Bound onTime (s.finishTransportMessage (.contribution contribution) success) ∧
      Grows onTime s (s.finishTransportMessage (.contribution contribution) success) := by
  have hgrows : Grows onTime s
      (s.finishTransportMessage (.contribution contribution) success) :=
    ⟨rfl, rfl, rfl, rfl, rfl, fun _ _ h => h, fun _ _ h => h, fun _ _ h => .inl h, fun h => h,
      fun _ _ _ h => h⟩
  refine ⟨?_, hgrows⟩
  apply hs.of_grows hgrows hs.counted
  · exact fun _ d' hd' hnot => absurd hd' hnot
  · exact fun _ d' c hc => .inl hc
  · exact fun _ hquiet => absurd (unrevealed_of_eq rfl) hquiet
  · intro other hmem
    simp only [Session.finishTransportMessage] at hmem
    split at hmem
    next hsuccess =>
      rcases List.mem_append.mp hmem with hmem | hmem
      · exact .inl hmem
      · cases List.mem_singleton.mp hmem
        exact .inr (hgrows.handledRemote (hhandled hsuccess.1))
    next => exact .inl hmem

/-- A node that has as many hashes as there are other members has the hash of each of them. -/
theorem revealReady_of_shouldReveal [Field F] [DecidableEq F] [AddCommGroup E] [Module F E]
    (hfresh : s.kind.isFresh) {event : DkgEvent}
    (h : (s.snapshot event).shouldRevealCommitment) : RevealReady s := by
  rw [SessionSnapshot.shouldRevealCommitment, decide_eq_true_eq] at h
  obtain ⟨-, -, -, -, hbroadcast, hlen⟩ := h
  have hcount : s.node.totalNodes - 1 ≤ s.receivedHashes.entries.length := hlen
  obtain ⟨-, hpos, hle⟩ := hs.member hfresh
  refine ⟨hbroadcast, fun d hd hdle hne => ?_⟩
  refine mem_of_nodup_of_card_le s.receivedHashes.keys_nodup (fun k hk => ?_) ?_
    (Finset.mem_erase.mpr ⟨hne, Finset.mem_Icc.mpr ⟨hd, hdle⟩⟩)
  · obtain ⟨hk1, hk2, hk3⟩ := hs.hashes hfresh k hk
    exact Finset.mem_erase.mpr ⟨hk3, Finset.mem_Icc.mpr ⟨hk1, hk2⟩⟩
  · rw [Finset.card_erase_of_mem (Finset.mem_Icc.mpr ⟨hpos, hle⟩), Nat.card_Icc, keys_length]
    omega

end Steps

/-! ## Rules for the handlers -/

variable [Field F] [DecidableEq F] [AddCommGroup E] [Module F E] [DecidableEq E] [Curve E]
  [Repr32 F]

section Rules

variable {α : Type} {fact : Session F E → Prop}

omit [Field F] [DecidableEq F] [AddCommGroup E] [Module F E] [DecidableEq E] [Curve E] [Repr32 F]
  [Repr32 E] [Sha256] in
theorem triple_claiming {τ : Type} {I : Interference (Session F E) τ} {pre processed : τ → Prop}
    {messageId : MessageId} (hpost : ∀ p : Prop, I.Stable fun x => pre x ∧ (p → processed x))
    (hclaim : I.Triple pre (locked fun (_ : Env F) (s : Session F E) =>
        ((s.claimTransportMessage messageId).1, .ok (s.claimTransportMessage messageId).2))
      fun claim x => pre x ∧ (claim = .alreadyProcessed → processed x)) (polls : ℕ) :
    I.Triple pre (claimMessage messageId polls)
      fun claimed x => pre x ∧ (claimed = false → processed x) := by
  have hround : ∀ retry : HandlerM F E Bool,
      I.Triple pre retry (fun claimed x => pre x ∧ (claimed = false → processed x)) →
        I.Triple pre (claimRound messageId retry)
          fun claimed x => pre x ∧ (claimed = false → processed x) := by
    intro retry hretry
    refine hclaim.bind fun claim => ?_
    cases claim with
    | claimed => exact Interference.Triple.pure (fun _ _ h => ⟨h.1, by simp⟩) (hpost _)
    | alreadyProcessed =>
      exact Interference.Triple.pure (fun _ _ h => ⟨h.1, fun _ => h.2 rfl⟩) (hpost _)
    | alreadyProcessing => exact hretry.mono (fun _ _ h => h.1) fun _ _ _ h => h
  induction polls with
  | zero => exact hround _ (Interference.Triple.throw _)
  | succ polls ih => exact hround _ ih

variable {pre : Session F E → Prop} {post : α → Session F E → Prop}

theorem triple_locked {f : Env F → Session F E → Session F E × Except DkgError α}
    (hpre : (hashRound onTime).Stable pre) (hpost : ∀ a, (hashRound onTime).Stable (post a))
    (h : ∀ w s, Bound onTime s → pre s → ParksOnTime onTime s (f w s).1 →
      Bound onTime (f w s).1 ∧ Grows onTime s (f w s).1 ∧
        ∀ a, (f w s).2 = .ok a → post a (f w s).1) :
    (hashRound onTime).Triple pre (locked f) post := by
  apply Interference.Triple.atomically hpre hpost
  intro w s hs hfact hallowed
  have hlift : ∀ r : Session F E × Except DkgError α, ParksOnTime onTime s r.1 →
      (ParksOnTime onTime s r.1 → Bound onTime r.1 ∧ Grows onTime s r.1 ∧
        ∀ a, r.2 = .ok a → post a r.1) →
      ∃ y : Session F E, y = r.1 ∧ Bound onTime y ∧ Grows onTime s y ∧
        ∀ a, r.2 = .ok a → post a y := fun r hr hstep => ⟨r.1, rfl, hstep hr⟩
  apply hlift _ hallowed
  split
  · exact h w s hs hfact
  · exact fun _ => ⟨hs, .refl s, fun a ha => by cases ha⟩

theorem triple_inspect {f : Session F E → α} (hpre : (hashRound onTime).Stable pre)
    (hpost : ∀ a, (hashRound onTime).Stable (post a))
    (h : ∀ s, Bound onTime s → pre s → post (f s) s) :
    (hashRound onTime).Triple pre (inspect f) post := by
  apply triple_locked hpre hpost
  intro w s hs hfact _
  refine ⟨hs, .refl s, fun a ha => ?_⟩
  cases ha
  exact h s hs hfact

/-- Steps that neither concern the commitments of others nor sign the node's own. -/
structure Quiet (s s' : Session F E) : Prop where
  same : SameCommitments s s'
  unrevealed : Unrevealed s s'

omit [DecidableEq E] [Repr32 F] [Repr32 E] [Sha256] in
theorem Quiet.dealingChanges : DealingChanges (Quiet (F := F) (E := E)) :=
  SameCommitments.dealingChanges.both unrevealed_dealingChanges fun _ _ => Quiet.mk

omit [Repr32 F] [Repr32 E] [Sha256] in
theorem Quiet.shareSteps :
    ShareSteps (Quiet (F := F) (E := E)) (Task.Keeps (ω := Env F) Quiet) where
  toDealingSteps := dealingChanges.steps
  claimMessage s messageId := ⟨SameCommitments.shareChanges.claimMessage s messageId,
    unrevealed_shareChanges.claimMessage s messageId⟩
  finishMessage s messageId success hid :=
    ⟨SameCommitments.shareChanges.finishMessage s messageId success hid,
      unrevealed_shareChanges.finishMessage s messageId success hid⟩
  receiveShare s share := ⟨SameCommitments.shareChanges.receiveShare s share,
    unrevealed_shareChanges.receiveShare s share⟩
  recordReceivedShare s dealerId := ⟨SameCommitments.shareChanges.recordReceivedShare s dealerId,
    unrevealed_shareChanges.recordReceivedShare s dealerId⟩
  storePendingShare s pending := ⟨SameCommitments.shareChanges.storePendingShare s pending,
    unrevealed_shareChanges.storePendingShare s pending⟩
  participantSet s reshare fromNodeId selectedDealers hreshare :=
    ⟨SameCommitments.shareChanges.participantSet s reshare fromNodeId selectedDealers hreshare,
      unrevealed_shareChanges.participantSet s reshare fromNodeId selectedDealers hreshare⟩

theorem triple_quiet {p : HandlerM F E α} (h : p.run.Keeps Quiet)
    (hstable : (hashRound onTime).Stable fact) :
    (hashRound onTime).Triple fact p fun _ => fact := by
  apply Interference.Outcome.triple
  apply Interference.Outcome.frame h hstable
  intro s s' hs hfact hquiet _
  have hgrows : Grows onTime s s' := hquiet.same.grows
  have hbound : Bound onTime s' :=
    hquiet.same.bound hs fun _ hnot => absurd hquiet.unrevealed hnot
  exact ⟨s', rfl, hbound, hgrows, hstable s s' hs hfact hgrows⟩

theorem triple_reveals {p : HandlerM F E α} (h : p.run.Keeps SameCommitments)
    (hready : ∀ s, fact s → s.kind.isFresh → RevealReady s)
    (hstable : (hashRound onTime).Stable fact) :
    (hashRound onTime).Triple fact p fun _ => fact := by
  apply Interference.Outcome.triple
  apply Interference.Outcome.frame h hstable
  intro s s' hs hfact hsame _
  have hgrows : Grows onTime s s' := hsame.grows
  have hbound : Bound onTime s' := hsame.bound hs fun hfresh _ => hready s hfact hfresh
  exact ⟨s', rfl, hbound, hgrows, hstable s s' hs hfact hgrows⟩

theorem triple_onlyIf {condition : Bool} {body : HandlerM F E Unit}
    (hstable : (hashRound onTime).Stable fact)
    (h : condition → (hashRound onTime).Triple fact body fun _ => fact) :
    (hashRound onTime).Triple fact (onlyIf condition body) fun _ => fact := by
  cases condition with
  | false => exact Interference.Triple.pure (fun _ _ hfact => hfact) hstable
  | true => exact h rfl

end Rules

/-! ## What is stable -/

section Stable

theorem stable_not_isFresh : (hashRound (F := F) (E := E) onTime).Stable fun s => ¬s.kind.isFresh :=
  fun _ _ _ hnot hgrows hfresh => hnot (hgrows.kind ▸ hfresh)

theorem stable_mem_hashes (d : ℕ) :
    (hashRound (F := F) (E := E) onTime).Stable fun s => d ∈ s.receivedHashes :=
  fun _ _ _ hd hgrows => hgrows.mem_hashes hd

theorem stable_mem_received (d : ℕ) :
    (hashRound (F := F) (E := E) onTime).Stable fun s => d ∈ s.node.receivedCommitments :=
  fun _ _ _ hd hgrows => hgrows.mem_received hd

theorem stable_fits (d : ℕ) (c : PolynomialCommitment E) :
    (hashRound (F := F) onTime).Stable (Fits d c) := by
  intro s s' _ hfits hgrows hfresh
  rw [hgrows.kind] at hfresh
  rw [hgrows.sessionId]
  exact hgrows.hashes _ _ (hfits hfresh)

theorem stable_revealReady :
    (hashRound (F := F) (E := E) onTime).Stable fun s => s.kind.isFresh → RevealReady s := by
  intro s s' _ hready hgrows hfresh
  rw [hgrows.kind] at hfresh
  exact hgrows.revealReady (hready hfresh)

theorem stable_handledRemote (contribution : PublicContribution) :
    (hashRound (F := F) (E := E) onTime).Stable fun s => HandledRemote onTime s contribution :=
  fun _ _ _ hhandled hgrows => hgrows.handledRemote hhandled

end Stable

end Orbis.Node.Dkg
