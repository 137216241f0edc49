import Orbis.Node.Dkg.Steps

/-!
# What the phases leave alone

The phases generate the polynomial, sign, send and select; they do not touch what has been received
from others.
-/

namespace Orbis.Node.Dkg

open Orbis.Crypto Orbis.Crypto.Dkg Orbis.Data Orbis.Transition

variable {F E : Type}

/-! ## The cryptographic node -/

structure SameReceived (node node' : DKGNode F E) : Prop where
  id : node'.id = node.id
  threshold : node'.threshold = node.threshold
  totalNodes : node'.totalNodes = node.totalNodes
  role : node'.role = node.role
  sessionId : node'.sessionId = node.sessionId
  receivedShares : node'.receivedShares = node.receivedShares
  receivedCommitments : node'.receivedCommitments = node.receivedCommitments

theorem SameReceived.refl (node : DKGNode F E) : SameReceived node node :=
  ⟨rfl, rfl, rfl, rfl, rfl, rfl, rfl⟩

/-- Only a reshare changes the identifier under which shares are received. -/
structure Dealt (newNodeId : Option ℕ) (node node' : DKGNode F E) : Prop where
  same : SameReceived node node'
  receiveId : node'.receiveId = node.receiveId ∨ node'.receiveId = newNodeId.getD node.id

theorem Dealt.refl (newNodeId : Option ℕ) (node : DKGNode F E) : Dealt newNodeId node node :=
  ⟨.refl node, .inl rfl⟩

theorem generatePolynomial_reshare_dealt [Field F] [AddCommGroup E] [Module F E] [Curve E]
    (node : DKGNode F E) (oldShare : F)
    (participatingIds : List ℕ) (newThreshold newTotalNodes : ℕ) (newNodeId : Option ℕ)
    (rng : ℕ → F) : Dealt newNodeId node (node.generatePolynomial
      (.reshare oldShare participatingIds newThreshold newTotalNodes newNodeId) rng).1 := by
  by_cases hacc : node.AcceptsReshare participatingIds newThreshold newTotalNodes
  · rw [DKGNode.generatePolynomial_reshare_of_accepts hacc]
    exact ⟨⟨rfl, rfl, rfl, rfl, rfl, rfl, rfl⟩, .inr rfl⟩
  · obtain ⟨e, he⟩ := DKGNode.generatePolynomial_reshare_of_not_accepts hacc oldShare newNodeId rng
    rw [he]
    exact .refl _ node

theorem generatePolynomial_same [Field F] [AddCommGroup E] [Module F E] [Curve E]
    (node : DKGNode F E) (isFresh : Bool) (rng : ℕ → F) :
    SameReceived node (node.generatePolynomial (if isFresh then .fresh else .refresh) rng).1 ∧
      (node.generatePolynomial (if isFresh then .fresh else .refresh) rng).1.receiveId =
        node.receiveId := by
  unfold DKGNode.generatePolynomial
  by_cases hrole : node.role = .receiver
  · rw [if_pos hrole]
    exact ⟨.refl node, rfl⟩
  · rw [if_neg hrole]
    cases isFresh <;> exact ⟨⟨rfl, rfl, rfl, rfl, rfl, rfl, rfl⟩, rfl⟩

/-! ## The reshare part -/

structure SameReshare (r r' : ReshareSession F E) : Prop where
  node : Dealt r.params.newNodeId r.node r'.node
  newNodeId : r'.params.newNodeId = r.params.newNodeId

section

variable (r : ReshareSession F E)

theorem SameReshare.refl : SameReshare r r := ⟨.refl _ _, rfl⟩

theorem reshare_generatePolynomial_same [Field F] [AddCommGroup E] [Module F E] [Curve E]
    (rng : ℕ → F) :
    SameReshare r (r.generatePolynomial rng).1 := by
  unfold ReshareSession.generatePolynomial
  simp only
  split
  · exact .refl r
  · exact ⟨generatePolynomial_reshare_dealt .., rfl⟩

theorem ackValidShare_same (dealerId : ℕ) :
    SameReshare r (r.ackValidShare dealerId).1 := by
  unfold ReshareSession.ackValidShare
  split
  · exact .refl r
  split
  · exact .refl r
  split
  · exact .refl r
  split
  · exact .refl r
  · simp only
    split
    · exact ⟨.refl _ _, rfl⟩
    · exact ⟨.refl _ _, rfl⟩

theorem applySelection_same (selected : List ℕ) :
    SameReshare r (r.applySelection selected).1 := by
  rcases r.applySelection_eq selected with heq | ⟨-, heq⟩
  · rw [heq]
    exact .refl r
  · rw [heq]
    exact ⟨⟨⟨rfl, rfl, rfl, rfl, rfl, rfl, rfl⟩, .inl rfl⟩, rfl⟩

theorem handleReshareParticipantSet_same (fromNodeId : ℕ)
    (selected : List ℕ) : SameReshare r (r.handleReshareParticipantSet fromNodeId selected).1 := by
  unfold ReshareSession.handleReshareParticipantSet
  split
  · exact .refl r
  · exact .refl r
  · exact applySelection_same r selected

theorem handleReshareShareAck_same (receiverNodeId dealerId : ℕ) :
    SameReshare r (r.handleReshareShareAck receiverNodeId dealerId).1 := by
  rcases r.handleReshareShareAck_eq receiverNodeId dealerId with heq | ⟨-, heq⟩
  · rw [heq]
    exact .refl r
  · rw [heq]
    unfold ReshareSession.freezeSelection
    split
    · have h := applySelection_same (r.recordAck receiverNodeId dealerId)
        ((r.recordAck receiverNodeId dealerId).completeDealers.take r.node.threshold)
      exact ⟨h.node, h.newNodeId⟩
    · exact ⟨.refl _ _, rfl⟩

end

/-! ## The session -/

/-- What has been received from others, and where shares are received. -/
structure SameInbox (s s' : Session F E) : Prop where
  kind : s'.kind = s.kind
  node : SameReceived s.node s'.node
  commitmentsReceived : s'.commitmentsReceived = s.commitmentsReceived
  sharesReceived : s'.sharesReceived = s.sharesReceived
  receivedHashes : s'.receivedHashes = s.receivedHashes
  pendingShares : s'.pendingShares = s.pendingShares
  pendingCommitments : s'.pendingCommitments = s.pendingCommitments
  receivedShares : s'.receivedShares = s.receivedShares
  processed : s'.processed = s.processed
  broadcast : s.ownHashBroadcastComplete → s'.ownHashBroadcastComplete
  ownReceiverId : s'.ownReceiverId = s.ownReceiverId
  receiveId : s'.node.receiveId = s.node.receiveId ∨
    ∀ j, s'.ownReceiverId = .ok j → s'.node.receiveId = j
  live : s'.live → s.live

namespace SameInbox

theorem refl (s : Session F E) : SameInbox s s :=
  ⟨rfl, .refl _, rfl, rfl, rfl, rfl, rfl, rfl, rfl, id, rfl, .inl rfl, id⟩

/-- A change of the phase, of what is sent and of the history. -/
theorem of_eq {s s' : Session F E} {phase : DkgPhase} {begun : Bool}
    {contributions : AList fun _ : PublicPhase => PublicContribution}
    {outbound : List (DistributedShare F)} {history : List Act}
    (h : s' = { s with
      phase := phase
      begun := begun
      publicContributions := contributions
      outboundPrivateMessages := outbound
      history := history }) : SameInbox s s' := by
  subst h
  exact ⟨rfl, .refl _, rfl, rfl, rfl, rfl, rfl, rfl, rfl, id, rfl, .inl rfl, id⟩

theorem abort (s : Session F E) : SameInbox s { s with live := false } :=
  ⟨rfl, .refl _, rfl, rfl, rfl, rfl, rfl, rfl, rfl, id, rfl, .inl rfl, by simp⟩

theorem updateReshare {s : Session F E} {reshare : ReshareState F} (hs : s.reshare = some reshare)
    {r : ReshareSession F E} (h : SameReshare (s.toReshareSession reshare) r) :
    SameInbox s (s.updateReshare r) := by
  have hnew : r.params.newNodeId = reshare.params.newNodeId := h.newNodeId
  have hown : (s.updateReshare r).ownReceiverId = s.ownReceiverId := by
    simp only [Session.ownReceiverId, Session.updateReshare, hs, hnew]
  refine ⟨rfl, h.node.same, rfl, rfl, rfl, rfl, rfl, rfl, rfl, id, hown, ?_, id⟩
  rcases h.node.receiveId with heq | heq
  · exact .inl heq
  · right
    intro j hj
    rw [hown] at hj
    simp only [Session.ownReceiverId, hs] at hj
    cases hid : reshare.params.newNodeId with
    | none => simp [hid] at hj
    | some newNodeId =>
      simp only [hid, Except.ok.injEq] at hj
      simpa [Session.toReshareSession, Session.updateReshare, hid, hj] using heq

theorem generatePolynomial [Field F] [AddCommGroup E] [Module F E] [Curve E]
    (s : Session F E) (rng : ℕ → F) :
    SameInbox s (s.generatePolynomial rng).1 := by
  unfold Session.generatePolynomial
  by_cases hkind : s.kind.isReshare
  · rw [if_pos hkind]
    cases hreshare : s.reshare with
    | none => exact .refl s
    | some reshare => exact updateReshare hreshare (reshare_generatePolynomial_same _ rng)
  · rw [if_neg hkind]
    obtain ⟨hnode, hreceive⟩ := generatePolynomial_same s.node s.kind.isFresh rng
    refine ⟨rfl, hnode, rfl, rfl, rfl, rfl, rfl, rfl, rfl, id, ?_, .inl hreceive, id⟩
    simp only [Session.ownReceiverId, hnode.id]

theorem claimTransition [Field F] [DecidableEq F] [AddCommGroup E] [Module F E]
    (s : Session F E) (event : DkgEvent) :
    SameInbox s (s.claimTransition event).1 := by
  unfold Session.claimTransition
  simp only
  split <;> exact of_eq rfl

theorem recordPublicContribution (s : Session F E) (contribution : PublicContribution) :
    SameInbox s (s.recordPublicContribution contribution).1 := by
  unfold Session.recordPublicContribution
  split
  · split
    · exact .refl s
    · exact abort s
  · exact of_eq rfl

theorem cachePrivateMessage [DecidableEq F] (s : Session F E) (share : DistributedShare F) :
    SameInbox s (s.cachePrivateMessage share) := by
  unfold Session.cachePrivateMessage
  split
  · exact .refl s
  · exact of_eq rfl

theorem beginTransport (s : Session F E) : SameInbox s s.beginTransport.1 := by
  unfold Session.beginTransport
  split
  · exact .refl s
  split
  · exact .refl s
  · exact of_eq rfl

theorem dealingChanges [Field F] [DecidableEq F] [AddCommGroup E] [Module F E] [Curve E]
    : DealingChanges (SameInbox (F := F) (E := E)) where
  refl := refl
  claimTransition := claimTransition
  looks _ _ := of_eq rfl
  updatePhase _ _ := of_eq rfl
  abort := abort
  generatePolynomial := generatePolynomial
  shareAck _ _ _ _ hreshare := updateReshare hreshare (handleReshareShareAck_same ..)
  ackValidShare _ _ _ hreshare := updateReshare hreshare (ackValidShare_same ..)
  sign _ _ _ := of_eq rfl
  recordPublicContribution := recordPublicContribution
  cachePrivateMessage := cachePrivateMessage

theorem beginChanges : BeginChanges (SameInbox (F := F) (E := E)) where
  sign _ _ := of_eq rfl
  beginTransport := beginTransport
  broadcastComplete _ :=
    ⟨rfl, .refl _, rfl, rfl, rfl, rfl, rfl, rfl, rfl, fun _ => rfl, rfl, .inl rfl, id⟩

end SameInbox

end Orbis.Node.Dkg
