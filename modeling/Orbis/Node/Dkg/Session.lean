import Orbis.Node.Dkg.ReshareSession
import Orbis.Node.Dkg.StateMachine
import Orbis.Transition.Task

/-!
# The session of an attempt

The state a node keeps for one attempt of a ceremony, and what its handlers do to it while they
hold the session lock.  A session is created when the attempt is activated.  Left out are the
binding and the signatures of report evidence, the refresh candidate, deadlines and metrics, and
the contributions of others that the transport retains for repair.
-/

namespace Orbis.Node.Dkg

open Orbis.Crypto Orbis.Crypto.Dkg Orbis.Data Orbis.Transition

/-! ## Messages -/

inductive CommitteeScope where
  | current
  | next
deriving DecidableEq, Repr

structure ParticipantRef where
  scope : CommitteeScope
  nodeId : ℕ
deriving DecidableEq, Repr

inductive PublicPhase where
  | commitmentHashes
  | commitments
  | commitmentAudit
  | refreshHealthCheck
  | reshareParticipantSet
deriving DecidableEq, Repr

/-- The report evidence that comes with a commitment is left out, and of the statement of a health
check all but its session. -/
inductive PublicPayload where
  | commitmentHash (commitmentHash : Bytes)
  | commitment (commitment : Bytes)
  | commitmentAudit (revealed : List Bytes)
  | refreshHealthCheckResult (sessionId : ℕ) (signature : Option String)
  | reshareParticipantSet (selectedDealers : List ℕ)
deriving DecidableEq

def PublicPayload.phase : PublicPayload → PublicPhase
  | commitmentHash _ => .commitmentHashes
  | commitment _ => .commitments
  | commitmentAudit _ => .commitmentAudit
  | refreshHealthCheckResult _ _ => .refreshHealthCheck
  | reshareParticipantSet _ => .reshareParticipantSet

/-- The signed bytes are a function of these fields and of the attempt. -/
structure PublicContribution where
  origin : ParticipantRef
  signedAt : ℕ
  payload : PublicPayload
deriving DecidableEq

/-- A private delivery; `evidence` is the dealer's commitment in the signed report evidence. -/
structure ShareDelivery where
  fromNodeId : ℕ
  toNodeId : ℕ
  shareValue : Bytes
  nonce : Bytes
  evidence : Option Bytes
deriving DecidableEq

/-- The identifiers are hashes of these fields. -/
inductive MessageId where
  | share (fromNodeId toNodeId : ℕ) (shareValue nonce : Bytes)
  | contribution (contribution : PublicContribution)
  | shareAck (receiverNodeId dealerId : ℕ)
deriving DecidableEq

def ShareDelivery.messageId (delivery : ShareDelivery) : MessageId :=
  .share delivery.fromNodeId delivery.toNodeId delivery.shareValue delivery.nonce

def dkgCommitmentHashDomain : Bytes := utf8Bytes "orbis-dkg-commitment-hash-v1"

def freshCommitmentHash [Sha256] (sessionId fromNodeId : ℕ) (commitment : Bytes) : Bytes :=
  sha256 (dkgCommitmentHashDomain ++ leBytes 16 sessionId ++ leBytes 4 fromNodeId ++
    commitment)

/-! ## The state -/

structure PendingShare (F : Type) where
  share : DistributedShare F
  evidence : Option Bytes

/-- The part of a session that only a reshare has. -/
structure ReshareState (F : Type) where
  params : ReshareParams F
  routedNewIds : List ℕ
  isSelector : Bool
  validShareDealers : List ℕ
  shareAcks : AList fun _ : ℕ => List ℕ
  dealerCompletionOrder : List ℕ
  selectedDealers : Option (List ℕ)

/-- What an attempt has done, for statements about its run; no handler reads it. -/
inductive Act where
  /-- The starter of the first phase has found this phase, and goes on. -/
  | looked (phase : DkgPhase)
  | started (phase : DkgPhase)
  | issued (command : DkgCommand)
  | signed (contribution : PublicContribution)
deriving DecidableEq

structure Session (F E : Type) where
  kind : SessionKind
  node : DKGNode F E
  phase : DkgPhase
  commitmentsReceived : ℕ
  sharesReceived : ℕ
  receivedHashes : AList fun _ : ℕ => Bytes
  ownHashBroadcastComplete : Bool
  pendingShares : AList fun _ : ℕ => PendingShare F
  pendingCommitments : AList fun _ : ℕ => Bytes
  /-- The dealers whose shares have been accepted and counted. -/
  receivedShares : List ℕ
  reshare : Option (ReshareState F)
  peerIds : List String
  /-- The members of the current committee that have a route. -/
  routes : List ℕ
  activeDealers : List ℕ
  activated : Bool
  begun : Bool
  processing : List MessageId
  processed : List MessageId
  /-- The retained contributions of this node. -/
  publicContributions : AList fun _ : PublicPhase => PublicContribution
  outboundPrivateMessages : List (DistributedShare F)
  /-- Whether the attempt still owns the session. -/
  live : Bool
  history : List Act

inductive MessageProcessingClaim where
  | claimed
  | alreadyProcessed
  | alreadyProcessing
deriving DecidableEq, Repr

namespace Session

variable {F E : Type}

def new (kind : SessionKind) (node : DKGNode F E) (reshare : Option (ReshareState F))
    (peerIds : List String) (routes activeDealers : List ℕ) : Session F E where
  kind
  node
  phase := .initializing
  commitmentsReceived := 0
  sharesReceived := 0
  receivedHashes := ∅
  ownHashBroadcastComplete := false
  pendingShares := ∅
  pendingCommitments := ∅
  receivedShares := []
  reshare
  peerIds
  routes
  activeDealers
  activated := true
  begun := false
  processing := []
  processed := []
  publicContributions := ∅
  outboundPrivateMessages := []
  live := true
  history := []

def hasPolynomial (session : Session F E) : Bool := !session.node.commitment.coefficients.isEmpty

def expectedCommitmentSize (session : Session F E) : ℕ :=
  match session.reshare with
  | some reshare => reshare.params.newThreshold
  | none => session.node.threshold

/-- Receivers are not in the current committee. -/
def localIsOrigin (session : Session F E) (origin : ParticipantRef) : Bool :=
  origin.scope = .current ∧ session.node.role ≠ .receiver ∧ origin.nodeId = session.node.id

def record (session : Session F E) (acts : List Act) : Session F E :=
  { session with history := session.history ++ acts }

/-! ## Reshare

The reshare part runs the functions of `ReshareSession`. -/

def toReshareSession (session : Session F E) (reshare : ReshareState F) :
    ReshareSession F E where
  node := session.node
  isPet := session.kind = .resharePet
  params := reshare.params
  activeDealers := session.activeDealers
  routedNewIds := reshare.routedNewIds
  isSelector := reshare.isSelector
  validShareDealers := reshare.validShareDealers
  shareAcks := reshare.shareAcks
  dealerCompletionOrder := reshare.dealerCompletionOrder
  selectedDealers := reshare.selectedDealers
  pendingShares := ∅
  handlers := []

def updateReshare (session : Session F E) (r : ReshareSession F E) : Session F E :=
  { session with
    node := r.node
    reshare := some
      { params := r.params
        routedNewIds := r.routedNewIds
        isSelector := r.isSelector
        validShareDealers := r.validShareDealers
        shareAcks := r.shareAcks
        dealerCompletionOrder := r.dealerCompletionOrder
        selectedDealers := r.selectedDealers } }

def selectedDealers (session : Session F E) : Option (List ℕ) :=
  session.reshare.bind (·.selectedDealers)

/-! ## Polynomials and phases -/

variable [Field F] [AddCommGroup E] [Module F E] [Curve E]

def generatePolynomial (session : Session F E) (rng : ℕ → F) :
    Session F E × Except DkgError Unit :=
  if session.kind.isReshare then
    match session.reshare with
    | none =>
      (session, .error (.generic "Reshare session is missing reshare_params — this is a bug"))
    | some reshare =>
      let (r, result) := (session.toReshareSession reshare).generatePolynomial rng
      (session.updateReshare r, result)
  else
    let (node, result) := session.node.generatePolynomial
      (if session.kind.isFresh then .fresh else .refresh) rng
    ({ session with node }, result.mapError (.ofCrypto "Failed to generate polynomial"))

/-- Every path that needs the polynomial generates it only when there is none yet. -/
def ensurePolynomial (session : Session F E) (rng : ℕ → F) :
    Session F E × Except DkgError Unit :=
  if session.hasPolynomial then (session, .ok ()) else session.generatePolynomial rng

def transitionPhase (session : Session F E) (phase : DkgPhase) : Session F E :=
  { session with phase }

/-- `update_phase_for_attempt`: the phase is not compared with the one that is left. -/
def updatePhase (session : Session F E) (phase : DkgPhase) : Session F E :=
  (session.transitionPhase phase).record [.started phase]

def snapshot [DecidableEq F] (session : Session F E) (event : DkgEvent) : SessionSnapshot where
  kind := session.kind
  phase := session.phase
  role := session.node.role
  totalNodes := session.node.totalNodes
  hasPolynomial := session.hasPolynomial
  commitmentHashesReceived := session.receivedHashes.entries.length
  hashBroadcastComplete := session.ownHashBroadcastComplete
  commitmentsReceived := session.commitmentsReceived
  sharesReceived := session.sharesReceived
  reshareSelectedDealers := session.selectedDealers.isSome
  secretShareAvailable := event.evaluatesPhase4 ∧ session.node.computeSecretShare.isOk
  aggregatePublicKeyAvailable :=
    event.evaluatesPhase4 ∧ session.node.computeAggregatePublicKey.isOk

def claimTransition [DecidableEq F] (session : Session F E) (event : DkgEvent) :
    Session F E × List DkgCommand :=
  let t := transition (session.snapshot event) event
  ((match t.nextPhase with
    | some phase => session.transitionPhase phase
    | none => session).record (t.commands.map .issued), t.commands)

/-! ## Commitment hashes and commitments -/

/-- The node's own hash; the polynomial is generated first if there is none. -/
def prepareOwnHash [Repr32 E] [Sha256] (session : Session F E) (rng : ℕ → F) :
    Session F E × Except DkgError Bytes :=
  if ¬session.kind.isFresh then
    (session, .error (.protocolError "Commitment hash pre-round is only valid for Fresh DKG"))
  else if session.node.role = .receiver then
    (session, .error (.protocolError "Fresh DKG receiver cannot broadcast a commitment hash"))
  else
    match session.ensurePolynomial rng with
    | (session, .error e) => (session, .error e)
    | (session, .ok ()) =>
      (session, .ok (freshCommitmentHash session.node.sessionId session.node.id
        (pointsBytes session.node.commitment.coefficients)))

def prepareOwnCommitment [Repr32 E] (session : Session F E) (rng : ℕ → F) :
    Session F E × Except DkgError Bytes :=
  match session.ensurePolynomial rng with
  | (session, .error e) => (session, .error e)
  | (session, .ok ()) => (session, .ok (pointsBytes session.node.commitment.coefficients))

/-- The first hash of a dealer is kept. -/
def recordCommitmentHash (session : Session F E) (fromNodeId : ℕ) (commitmentHash : Bytes) :
    Session F E × Except DkgError Unit :=
  if ¬session.kind.isFresh then
    (session, .error (.protocolError "CommitmentHash is only valid for Fresh DKG sessions"))
  else
    match session.receivedHashes.lookup fromNodeId with
    | some existing =>
      (session,
        if existing = commitmentHash then .ok ()
        else
          .error (.commitmentVerificationFailed
            s!"Fresh commitment hash mismatch from node {fromNodeId}"))
    | none =>
      ({ session with
          receivedHashes := session.receivedHashes.insert fromNodeId commitmentHash }, .ok ())

/-- The first commitment that waits for its hash is kept. -/
def parkCommitment (session : Session F E) (fromNodeId : ℕ) (commitment : Bytes) : Session F E :=
  if fromNodeId ∈ session.pendingCommitments then session
  else
    { session with
      pendingCommitments := session.pendingCommitments.insert fromNodeId commitment }

/-- The commitment reaches the node and is counted.  The result says whether the node's own
polynomial was missing and has to be generated. -/
def receiveCommitment (session : Session F E) (fromNodeId : ℕ)
    (commitment : PolynomialCommitment E) : Session F E × Except DkgError Bool :=
  let generates : Bool := session.node.role ≠ .receiver
  if session.kind.isFresh ∧ generates ∧ ¬session.hasPolynomial then
    (session, .error (.protocolError
      "Fresh commitment arrived before local commitment hash was prepared"))
  else
    match session.node.receiveCommitment fromNodeId commitment with
    | (_, .error e) => (session, .error (.ofCrypto "Failed to receive commitment" e))
    | (node, .ok ()) =>
      ({ session with node, commitmentsReceived := session.commitmentsReceived + 1 },
        .ok (¬session.kind.isFresh ∧ generates ∧ ¬session.hasPolynomial))

/-! ## Shares -/

def receiveShare [DecidableEq E] (session : Session F E) (share : DistributedShare F) :
    Session F E × Except CryptoError Unit :=
  let (node, result) := session.node.receiveShare share
  ({ session with node }, result)

def recordReceivedShare (session : Session F E) (dealerId : ℕ) : Session F E :=
  if dealerId ∈ session.receivedShares then session
  else
    { session with
      receivedShares := session.receivedShares ++ [dealerId]
      sharesReceived := session.sharesReceived + 1 }

/-- The first share that waits for its dealer's commitment is kept. -/
def storePendingShare (session : Session F E) (pending : PendingShare F) : Session F E :=
  if pending.share.fromId ∈ session.pendingShares then session
  else
    { session with
      pendingShares := session.pendingShares.insert pending.share.fromId pending }

def takePendingShare (session : Session F E) (fromNodeId : ℕ) :
    Session F E × Option (PendingShare F) :=
  ({ session with pendingShares := session.pendingShares.erase fromNodeId },
    session.pendingShares.lookup fromNodeId)

/-! ## The transport -/

def beginTransport (session : Session F E) : Session F E × Except DkgError Bool :=
  if ¬session.activated then
    (session, .error (.invalidState "begin received before transport activation"))
  else if session.begun then (session, .ok false)
  else ({ session with begun := true }, .ok true)

def claimTransportMessage (session : Session F E) (messageId : MessageId) :
    Session F E × MessageProcessingClaim :=
  if messageId ∈ session.processed then (session, .alreadyProcessed)
  else if messageId ∈ session.processing then (session, .alreadyProcessing)
  else ({ session with processing := session.processing ++ [messageId] }, .claimed)

def finishTransportMessage (session : Session F E) (messageId : MessageId) (success : Bool) :
    Session F E :=
  { session with
    processing := session.processing.filter (· ≠ messageId)
    processed :=
      if success ∧ messageId ∉ session.processed then session.processed ++ [messageId]
      else session.processed }

/-- A contribution of this node that differs from the one it retained ends the attempt. -/
def recordPublicContribution (session : Session F E) (contribution : PublicContribution) :
    Session F E × Except DkgError Unit :=
  match session.publicContributions.lookup contribution.payload.phase with
  | some existing =>
    if existing = contribution then (session, .ok ())
    else
      ({ session with live := false },
        .error (.protocolError "conflicting duplicate public contribution"))
  | none =>
    ({ session with
        publicContributions :=
          session.publicContributions.insert contribution.payload.phase contribution },
      .ok ())

/-- The message identifier is derived from the whole share, so that a repeated share is the same
message. -/
def cachePrivateMessage [DecidableEq F]
    (session : Session F E) (share : DistributedShare F) : Session F E :=
  if share ∈ session.outboundPrivateMessages then session
  else
    { session with outboundPrivateMessages := session.outboundPrivateMessages ++ [share] }

/-! ## Failed generations -/

def oldShare (session : Session F E) : Option F := session.reshare.bind (·.params.oldShare)

def takeOldShare (session : Session F E) : Session F E :=
  { session with
    reshare := session.reshare.map fun reshare =>
      { reshare with params := { reshare.params with oldShare := none } } }

variable {session : Session F E}

omit [Field F] [AddCommGroup E] [Module F E] [Curve E] in
theorem takeOldShare_of_eq_none (h : session.oldShare = none) : session.takeOldShare = session := by
  cases hreshare : session.reshare with
  | none =>
    rw [takeOldShare, hreshare, Option.map_none, ← hreshare]
  | some reshare =>
    rw [oldShare, hreshare, Option.bind_some] at h
    rw [takeOldShare, hreshare, Option.map_some, ← h, ← hreshare]

theorem generatePolynomial_of_oldShare_eq_none (hkind : session.kind.isReshare)
    (hparams : session.reshare.isSome) (hold : session.oldShare = none) (rng : ℕ → F) :
    session.generatePolynomial rng =
      (session, .error (.generic "Reshare: Receiver nodes cannot generate a polynomial")) := by
  obtain ⟨reshare, hreshare⟩ := Option.isSome_iff_exists.mp hparams
  rw [oldShare, hreshare, Option.bind_some] at hold
  rw [generatePolynomial, if_pos hkind, hreshare]
  simp only [ReshareSession.generatePolynomial, toReshareSession, hold, ReshareSession.fail]
  rw [updateReshare, ← hreshare]

theorem takeOldShare_of_failed {rng : ℕ → F} {e : DkgError}
    (h : (session.generatePolynomial rng).2 = .error e) :
    (session.generatePolynomial rng).1 =
      if session.kind.isReshare then session.takeOldShare else session := by
  split
  next hkind =>
    cases hreshare : session.reshare with
    | none =>
      have hnone : session.oldShare = none := by rw [oldShare, hreshare, Option.bind_none]
      rw [takeOldShare_of_eq_none hnone, generatePolynomial, if_pos hkind, hreshare]
    | some reshare =>
      cases hold : reshare.params.oldShare with
      | none =>
        have hnone : session.oldShare = none := by rw [oldShare, hreshare, Option.bind_some, hold]
        rw [takeOldShare_of_eq_none hnone,
          generatePolynomial_of_oldShare_eq_none hkind (by rw [hreshare]; rfl) hnone]
      | some oldShare =>
        simp only [generatePolynomial, hkind, if_true, hreshare, ReshareSession.generatePolynomial,
          toReshareSession, hold] at h ⊢
        obtain ⟨e', he', -⟩ := mapError_eq_error.mp h
        rw [DKGNode.generatePolynomial_of_error he', takeOldShare, hreshare]
        rfl
  next hkind =>
    simp only [generatePolynomial, hkind] at h ⊢
    obtain ⟨e', he', -⟩ := mapError_eq_error.mp h
    simp [DKGNode.generatePolynomial_of_error he']

/-- A generation that fails changes at most one thing: in a reshare the old share has been taken
out.  Without an old share a later call does what a first call does, whatever is put right in
between.  With one every later call fails, unless the old share is put back. -/
theorem failed_generation_takes_old_share {rng : ℕ → F} {e : DkgError}
    (h : (session.generatePolynomial rng).2 = .error e) :
    (session.generatePolynomial rng).1 =
        (if session.kind.isReshare then session.takeOldShare else session) ∧
      ((session.kind.isReshare → session.oldShare = none) → ∀ repair : Session F E → Session F E,
        (repair (session.generatePolynomial rng).1).generatePolynomial =
          (repair session).generatePolynomial) ∧
      (session.kind.isReshare → ∀ repaired : Session F E, repaired.kind = session.kind →
        repaired.reshare.isSome →
        repaired.oldShare = (session.generatePolynomial rng).1.oldShare → ∀ rng',
          (repaired.generatePolynomial rng').2 =
            .error (.generic "Reshare: Receiver nodes cannot generate a polynomial")) := by
  have htaken := takeOldShare_of_failed h
  refine ⟨htaken, fun hnone repair => ?_, fun hkind repaired hsame hparams hold rng' => ?_⟩
  · have hsession : (session.generatePolynomial rng).1 = session := by
      rw [htaken]
      split
      next hkind => exact takeOldShare_of_eq_none (hnone hkind)
      · rfl
    rw [hsession]
  · rw [htaken, if_pos hkind] at hold
    have hnone : repaired.oldShare = none := by
      rw [hold, oldShare, takeOldShare]
      cases session.reshare <;> rfl
    rw [generatePolynomial_of_oldShare_eq_none (hsame ▸ hkind) hparams hnone]

/-- A dealer of a reshare, active or not. -/
def dealing (participatingIds : List ℕ) : Session F7 F7 :=
  .new .reshare (.blank 2 1 2 0 .dealer)
    (some ⟨⟨some 3, participatingIds, 1, 1, none⟩, [], false, [], ∅, [], none⟩) [] [] []

theorem failed_generation_takes_old_share_inactive :
    (((dealing [1]).generatePolynomial fun _ => 0).1.generatePolynomial fun _ => 0).2 =
      .error (.generic "Reshare: Receiver nodes cannot generate a polynomial") := by
  have hfailed : ((dealing [1]).generatePolynomial fun _ => 0).2 = .error (.ofCrypto
      "Failed to generate polynomial" (.dkgError "Node not in participating_ids for resharing")) :=
    rfl
  exact (failed_generation_takes_old_share hfailed).2.2 rfl
    ((dealing [1]).generatePolynomial fun _ => 0).1 rfl rfl rfl _

/-- The node is not among the participants.  When it is, the call that has failed before fails
again, and a first call succeeds. -/
theorem failed_generation_not_retried : ∃ repair : Session F7 F7 → Session F7 F7,
    repair (dealing [1]) = dealing [2] ∧
      ((dealing [1]).generatePolynomial fun _ => 0).2.isOk = false ∧
      ((dealing [1]).generatePolynomial fun _ => 0).1.oldShare = none ∧
      ((repair ((dealing [1]).generatePolynomial fun _ => 0).1).generatePolynomial
        fun _ => 0).2.isOk = false ∧
      ((repair (dealing [1])).generatePolynomial fun _ => 0).2 = .ok () := by
  refine ⟨fun session => { session with reshare := session.reshare.map fun reshare =>
    { reshare with params := { reshare.params with participatingIds := [2] } } }, rfl, ?_⟩
  decide +kernel

end Session

end Orbis.Node.Dkg
