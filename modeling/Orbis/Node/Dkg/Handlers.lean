import Orbis.Node.Dkg.Session

/-!
# The handlers of an attempt

What a node does when an attempt begins, when a public contribution, a private share or a share
acknowledgement arrives, and what the phases do that these start.  A handler is a `Task`: every
step is one closure that runs under the session lock, or one call to the outside (the bulletin,
another node, the local storage) that can fail.

The functions call each other in a circle through the commands of the state machine.  An event can
only issue some of the commands (`command_of_event`), so each function below is given what it needs
to run the commands that can occur there.
-/

namespace Orbis.Node.Dkg

open Orbis.Crypto Orbis.Crypto.Dkg Orbis.Data Orbis.Transition

/-- What a step gets from outside: the coefficients and nonces it draws, the time, and the error
of a call that fails. -/
structure Env (F : Type) where
  rng : ℕ → F
  nonce : ℕ → Bytes
  now : ℕ
  outage : Option DkgError

abbrev HandlerM (F E : Type) := ExceptT DkgError (Task (Env F) (Session F E))

section

variable {F E α : Type}

/-- `with_attempt_state_mut`: one step under the lock, unless the attempt has ended. -/
def locked (f : Env F → Session F E → Session F E × Except DkgError α) : HandlerM F E α :=
  ExceptT.mk (Task.atomically fun w s =>
    if s.live then f w s
    else
      let id := s.node.sessionId
      (s, .error (.sessionNotFound s!"DKG session {id} not found")))

def inspect (f : Session F E → α) : HandlerM F E α := locked fun _ s => (s, .ok (f s))

def update (f : Session F E → Session F E) : HandlerM F E Unit := locked fun _ s => (f s, .ok ())

def onlyIf (condition : Bool) (body : HandlerM F E Unit) : HandlerM F E Unit :=
  if condition then body else pure ()

def ofResult (result : Except DkgError α) : HandlerM F E α := ExceptT.mk (pure result)

def external : HandlerM F E Unit :=
  ExceptT.mk (Task.atomically fun w s =>
    (s, match w.outage with
      | some e => .error e
      | none => .ok ()))

end

section

variable {F E : Type} [Field F] [DecidableEq F] [AddCommGroup E] [Module F E] [DecidableEq E]
  [Curve E] [Repr32 F] [Repr32 E] [Sha256]

/-! ## Public contributions of this node -/

/-- The committee in which this node speaks. -/
def contributionOrigin (session : Session F E) (payload : PublicPayload) :
    Except DkgError ParticipantRef :=
  let usesNextIdentity : Bool := match payload with
    | .reshareParticipantSet _ => true
    | .commitmentAudit _ => session.kind.isReshare
    | _ => false
  if usesNextIdentity then
    match session.reshare.bind (·.params.newNodeId) with
    | some nextNodeId => .ok ⟨.next, nextNodeId⟩
    | none =>
      .error (.unauthorized "only a next-committee receiver may publish the participant set")
  else .ok ⟨.current, session.node.id⟩

/-- The signature covers the time. -/
def signContribution (payload : PublicPayload) (origin : ParticipantRef) :
    HandlerM F E PublicContribution :=
  locked fun w s =>
    let contribution : PublicContribution := ⟨origin, w.now, payload⟩
    (s.record [.signed contribution], .ok contribution)

/-- The preflight of the node's own contribution and its way to the leader are calls to the
outside. -/
def submitPublicContribution (payload : PublicPayload) : HandlerM F E Unit := do
  let origin ← locked fun _ s =>
    if ¬s.activated then
      (s, .error (.protocolError "public contribution generated before attempt activation"))
    else (s, contributionOrigin s payload)
  let contribution ← signContribution payload origin
  external
  locked fun _ s => s.recordPublicContribution contribution
  external

/-! ## Commands -/

def driveEvent (run : DkgCommand → HandlerM F E Unit) (event : DkgEvent) : HandlerM F E Unit := do
  let commands ← locked fun _ s => let (s, commands) := s.claimTransition event; (s, .ok commands)
  commands.forM run

def abortAttempt : HandlerM F E Unit := update fun s => { s with live := false }

/-- The computation and the storage of the result are calls to the outside.  After a refresh the
phase only changes when the health check promotes the candidate. -/
def completePhase4 : HandlerM F E Unit := do
  let kind ← inspect (·.kind)
  tryCatch external fun e => do
    abortAttempt
    throw e
  onlyIf (kind ≠ .refresh) (update (·.updatePhase .phase4Complete))

def runCompletion : DkgCommand → HandlerM F E Unit
  | .completePhase4 => completePhase4
  | _ => throw (.protocolError "State machine requested a command that the event cannot issue")

/-- The set, if the acknowledgement has frozen it. -/
def recordShareAck (receiverNodeId dealerId : ℕ) : HandlerM F E (Option (List ℕ)) :=
  locked fun _ s =>
    match s.reshare with
    | none =>
      (s, .error (.generic "Reshare ack received for session without reshare_params"))
    | some reshare =>
      let (r, result) :=
        (s.toReshareSession reshare).handleReshareShareAck receiverNodeId dealerId
      (s.updateReshare r, result.map fun _ =>
        if reshare.selectedDealers.isNone then r.selectedDealers else none)

/-- `handle_reshare_share_ack`.  The set is broadcast by the acknowledgement that freezes it. -/
def handleReshareShareAck (receiverNodeId dealerId : ℕ) : HandlerM F E Unit := do
  let frozen ← recordShareAck receiverNodeId dealerId
  match frozen with
  | none => pure ()
  | some selectedDealers => do
      submitPublicContribution (.reshareParticipantSet selectedDealers)
      driveEvent runCompletion .reshareParticipantSetAccepted

/-- `record_and_ack_valid_reshare_share`.  The acknowledgement to another node is delivered in the
background. -/
def ackValidReshareShare (dealerId : ℕ) : HandlerM F E Unit := do
  let rest ← locked fun _ s =>
    if ¬s.kind.isReshare then (s, .ok [])
    else
      match s.reshare with
      | none =>
        (s, .error (.generic "Reshare session is missing reshare_params while acking share"))
      | some reshare =>
        let (r, result) := (s.toReshareSession reshare).ackValidShare dealerId
        (s.updateReshare r, result.map fun _ => r.handlers)
  match rest with
  | [.shareAck receiverNodeId dealerId] => handleReshareShareAck receiverNodeId dealerId
  | _ => pure ()

/-- `execute_post_phase2_commands`. -/
def runPostPhase2 : DkgCommand → HandlerM F E Unit
  | .ackValidReshareShare dealerId => ackValidReshareShare dealerId
  | .completePhase4 => completePhase4
  | .initiatePhase2Shares =>
    throw (.protocolError "Post-Phase-2 state machine path tried to re-enter Phase 2")
  | .revealCommitment =>
    throw (.protocolError "Post-Phase-2 state machine path tried to reveal a commitment")

/-! ## Phase 2 -/

def Session.generateShares (session : Session F E) (rng : ℕ → F) (nonce : ℕ → Bytes) :
    Session F E × Except DkgError (List (DistributedShare F)) :=
  match session.ensurePolynomial rng with
  | (session, .error e) => (session, .error e)
  | (session, .ok ()) =>
    (session,
      (session.node.generateShares nonce).mapError (.ofCrypto "Failed to generate shares"))

/-- A dealer of a reshare evaluates its own share itself. -/
def Session.deliversTo (session : Session F E) (toId : ℕ) : Bool :=
  if session.kind.isReshare then session.reshare.bind (·.params.newNodeId) ≠ some toId
  else toId ≠ session.node.id

def Session.hasRoute (session : Session F E) (toId : ℕ) : Bool :=
  if session.kind.isReshare then session.reshare.any (toId ∈ ·.routedNewIds)
  else toId ∈ session.routes

/-- The routes are read together with the shares. -/
def retainShare (before : Session F E) (share : DistributedShare F) : HandlerM F E Unit :=
  let toId := share.toId
  if ¬before.deliversTo toId then pure ()
  else if ¬before.hasRoute toId then
    throw (.protocolError
      s!"Missing peer mapping for node_id {toId}; refusing to route private share")
  else update (·.cachePrivateMessage share)

/-- The shares, and the session they were read from. -/
def prepareShares : HandlerM F E (List (DistributedShare F) × Session F E) :=
  locked fun w s =>
    let (s, result) := s.generateShares w.rng w.nonce
    (s, result.map fun shares => (shares, s))

def initiatePhase2Shares : HandlerM F E Unit := do
  let (shares, before) ← prepareShares
  update (·.updatePhase .phase2Shares)
  external
  if before.peerIds.isEmpty then do
    abortAttempt
    throw (.insufficientPeers 0 0 before.node.threshold)
  else if ¬before.activated then
    throw (.protocolError "private shares generated before transport attempt activation")
  else do
    shares.forM (retainShare before)
    external
    driveEvent runPostPhase2 (.phase2SharesDistributed before.node.id)

/-! ## Phases 0 and 1 -/

/-- The commands of an event other than a recorded commitment hash. -/
def runAfterReveal : DkgCommand → HandlerM F E Unit
  | .initiatePhase2Shares => initiatePhase2Shares
  | .ackValidReshareShare dealerId => ackValidReshareShare dealerId
  | .completePhase4 => completePhase4
  | .revealCommitment =>
    throw (.protocolError "State machine requested a command that the event cannot issue")

def checkAndTriggerPhase2 : HandlerM F E Unit := driveEvent runAfterReveal .commitmentRecorded

def checkAndTriggerPhase4 : HandlerM F E Unit := driveEvent runAfterReveal .readinessChanged

/-- The phase is looked at, the commitment is prepared and the phase is written in separate
steps. -/
def initiatePhase1Commitments : HandlerM F E Unit := do
  let alreadyStarted : Bool ← locked fun _ s =>
    if s.phase = .phase2Shares ∨ s.phase = .phase4Completing ∨ s.phase = .phase4Complete then
      (s, .ok true)
    else (s.record [.looked s.phase], .ok false)
  if alreadyStarted then pure ()
  else do
    let isReshareReceiver : Bool ← inspect fun s => s.kind.isReshare ∧ s.node.role = .receiver
    if isReshareReceiver then pure ()
    else do
      let tooEarly : Bool ← inspect fun s => s.kind.isFresh ∧
        (s.phase = .initializing ∨ s.phase = .phase0CommitmentHashes)
      if tooEarly then
        throw (.protocolError
          "Fresh DKG commitments can only be revealed after commitment hashes are complete")
      else do
        let (commitment, deals) ← locked fun w s =>
          let (s, result) := s.prepareOwnCommitment w.rng
          (s, result.map fun bytes => (bytes, (s.kind.isReshare ∧ s.node.role ≠ .receiver : Bool)))
        update (·.updatePhase .phase1Commitments)
        external
        submitPublicContribution (.commitment commitment)
        if deals then initiatePhase2Shares else checkAndTriggerPhase2

def runCommand : DkgCommand → HandlerM F E Unit
  | .revealCommitment => do
      initiatePhase1Commitments
      checkAndTriggerPhase2
  | command => runAfterReveal command

def initiatePhase0CommitmentHashes : HandlerM F E Unit := do
  let commitmentHash ← locked fun w s => s.prepareOwnHash w.rng
  update (·.updatePhase .phase0CommitmentHashes)
  submitPublicContribution (.commitmentHash commitmentHash)
  update fun s => { s with ownHashBroadcastComplete := true }
  driveEvent runCommand .commitmentHashRecorded

/-- `on_begin` and `begin_cryptographic_attempt`. -/
def onBegin : HandlerM F E Unit := do
  let begun ← locked fun _ s => s.beginTransport
  onlyIf begun do
    let kind ← inspect (·.kind)
    if kind.isFresh then initiatePhase0CommitmentHashes else initiatePhase1Commitments

/-! ## Shares -/

def shareEvidenceProvesFailure (toNodeId : ℕ) (shareValue evidence : Bytes) : Bool :=
  if evidence.isEmpty ∨ evidence.length % g1CompressedSize ≠ 0 then true
  else
    match (readPoints (fun _ e => e) 0 (evidence.length / g1CompressedSize) evidence :
        Except CryptoError (List E)), (Fr.fromBytes shareValue : Except CryptoError F) with
    | .ok coefficients, .ok value =>
      !(⟨coefficients⟩ : PolynomialCommitment E).verifyShare toNodeId value
    | _, _ => true

/-- Fresh sessions carry no evidence; its signatures are checked outside. -/
def verifyShareEvidence (evidence : Option Bytes) : HandlerM F E (Option Bytes) := do
  external
  locked fun _ s =>
    (s, if s.kind.isFresh then .ok none
      else
        match evidence with
        | some evidence => .ok (some evidence)
        | none => .error (.unauthorized "PSS DKG share is missing signed report evidence"))

/-- A rejected share that the evidence proves bad is reported, and is not an error. -/
def rejectShare (toNodeId : ℕ) (shareValue : Bytes) (evidence : Option Bytes) (e : DkgError) :
    HandlerM F E Bool :=
  if evidence.any (shareEvidenceProvesFailure (F := F) (E := E) toNodeId shareValue) then pure false
  else throw e

def receiveFailed (e : CryptoError) : DkgError :=
  let text := e.message
  .shareVerificationFailed s!"Failed to receive share: {text}"

/-- Shares are addressed by the number in the committee that receives them. -/
def Session.ownReceiverId (session : Session F E) : Except DkgError ℕ :=
  match session.reshare with
  | some reshare =>
    match reshare.params.newNodeId with
    | some newNodeId => .ok newNodeId
    | none =>
      .error (.shareVerificationFailed
        "Reshare share received but this node is a pure Dealer with no new-committee assignment")
  | none => .ok session.node.id

/-- The end of `accept_share_message`.  The node's answer, the queueing of an early share and the
recording of an accepted one are separate steps. -/
def receiveOrQueueShare (delivery : ShareDelivery) (value : F) (evidence : Option Bytes) :
    HandlerM F E Bool := do
  let (share, outcome) ← locked fun _ s =>
    let share : DistributedShare F :=
      ⟨delivery.fromNodeId, delivery.toNodeId, value, delivery.nonce, s.node.sessionId⟩
    let (s, outcome) := s.receiveShare share
    (s, .ok (share, outcome))
  match outcome with
  | .ok () => do
      update (·.recordReceivedShare delivery.fromNodeId)
      pure true
  | .error (.commitmentMissing missing) =>
    if missing = delivery.fromNodeId then do
      update (·.storePendingShare ⟨share, evidence⟩)
      pure false
    else
      rejectShare delivery.toNodeId delivery.shareValue evidence
        (receiveFailed (.commitmentMissing missing))
  | .error e => rejectShare delivery.toNodeId delivery.shareValue evidence (receiveFailed e)

/-- The result says whether the share was accepted. -/
def acceptShareMessage (delivery : ShareDelivery) : HandlerM F E Bool := do
  let ourNodeId ← locked fun _ s => (s, s.ownReceiverId)
  if delivery.toNodeId ≠ ourNodeId then
    let toNodeId := delivery.toNodeId
    throw (.shareVerificationFailed
      s!"Share intended for node {toNodeId}, but we are node {ourNodeId}")
  else do
    let ignored : Bool ← inspect fun s =>
      s.kind = .reshare ∧ s.selectedDealers.any (delivery.fromNodeId ∉ ·)
    if ignored then pure false
    else
      match (Fr.fromBytes delivery.shareValue : Except CryptoError F) with
      | .error e => do
          let evidence ← verifyShareEvidence delivery.evidence
          rejectShare delivery.toNodeId delivery.shareValue evidence
            (.ofDecode "Failed to deserialize share value" e)
      | .ok value => do
          let evidence ← verifyShareEvidence delivery.evidence
          receiveOrQueueShare delivery value evidence

/-- Run the handler of a claimed message and release the claim with its outcome.  The release
does not fail when the attempt has ended. -/
def finishing {α : Type} (messageId : MessageId) (body : HandlerM F E α) : HandlerM F E α :=
  ExceptT.mk (do
    let result ← body.run
    Task.atomically fun _ s =>
      (if s.live then s.finishTransportMessage messageId result.isOk else s, ())
    pure result)

/-- Whether the message has been claimed now; otherwise it has been processed before. -/
def claimRound (messageId : MessageId) (retry : HandlerM F E Bool) : HandlerM F E Bool := do
  let claim ← locked fun _ s =>
    let (s, claim) := s.claimTransportMessage messageId
    (s, .ok claim)
  match claim with
  | .claimed => pure true
  | .alreadyProcessed => pure false
  | .alreadyProcessing => retry

/-- A message that is being processed is polled; `polls` is how often before the deadline. -/
def claimMessage (messageId : MessageId) : ℕ → HandlerM F E Bool
  | 0 =>
    claimRound messageId (throw (.networkCommunication
      "timed out waiting for a concurrent claim on a message to finish"))
  | polls + 1 => claimRound messageId (claimMessage messageId polls)

def acceptTransportShare (polls : ℕ) (delivery : ShareDelivery) : HandlerM F E Bool := do
  let claimed ← claimMessage delivery.messageId polls
  if claimed then finishing delivery.messageId (acceptShareMessage delivery)
  else inspect fun s => (delivery.fromNodeId ∈ s.receivedShares : Bool)

def driveAcceptedShare (fromNodeId : ℕ) : HandlerM F E Unit :=
  driveEvent runAfterReveal (.shareRecorded fromNodeId)

/-- `accept_private_delivery` and `drive_private_completion`; the acknowledgement is sent between
the two. -/
def handleShareDelivery (polls : ℕ) (delivery : ShareDelivery) : HandlerM F E Unit := do
  let shouldDrive ← acceptTransportShare polls delivery
  onlyIf shouldDrive (driveAcceptedShare delivery.fromNodeId)

/-! ## Commitments -/

inductive PreparedCommitment (E : Type) where
  | waitingForHash
  | ready (commitment : PolynomialCommitment E) (isReshare : Bool)

def hashMismatch (fromNodeId : ℕ) : DkgError :=
  .commitmentVerificationFailed
    s!"Fresh commitment from node {fromNodeId} does not match its commitment hash"

/-- The session is read once; all checks are made against what was read. -/
def prepareCommitment (fromNodeId : ℕ) (commitment : Bytes) (expectedHashOverride : Option Bytes) :
    HandlerM F E (PreparedCommitment E) := do
  ofResult (checkCommitmentLength commitment)
  let before ← inspect id
  let expectedHash := expectedHashOverride <|> before.receivedHashes.lookup fromNodeId
  ofResult (checkCoefficientCount before.expectedCommitmentSize commitment)
  ofResult (require (¬before.kind.isFresh ∨ expectedHash.all
    (· = freshCommitmentHash before.node.sessionId fromNodeId commitment))
      (hashMismatch fromNodeId))
  external
  let polynomialCommitment ←
    ofResult (decodeCommitment before.node before.kind.isRefresh fromNodeId commitment)
  if before.kind.isFresh ∧ expectedHash.isNone then pure .waitingForHash
  else pure (.ready polynomialCommitment before.kind.isReshare)

/-- `receive_and_record_share` on a share that was queued; a failure is only logged. -/
def replayShare (pending : PendingShare F) : HandlerM F E Unit :=
  tryCatch
    (do
      let outcome ← locked fun _ s =>
        let (s, outcome) := s.receiveShare pending.share
        (s, .ok outcome)
      match outcome with
      | .ok () => do
          update (·.recordReceivedShare pending.share.fromId)
          driveAcceptedShare pending.share.fromId
      | .error e => throw (receiveFailed e))
    fun _ => pure ()

/-- The first commitment of a refresh or reshare also makes this node deal, unless another path has
generated the polynomial since the commitment was counted. -/
def startLazily : HandlerM F E Unit := do
  let generated : Bool ← locked fun w s =>
    if s.hasPolynomial then (s, .ok false)
    else
      let (s, result) := s.generatePolynomial w.rng
      (s, result.map fun _ => true)
  onlyIf generated do
    let _ ← inspect (·.peerIds)
    initiatePhase1Commitments

/-- The end of `handle_commitment_message`, after the commitment has been counted. -/
def afterCommitment (fromNodeId : ℕ) (needToGenerate isReshare : Bool) : HandlerM F E Unit := do
  onlyIf needToGenerate startLazily
  let peerIds ← inspect (·.peerIds)
  onlyIf (!peerIds.isEmpty) checkAndTriggerPhase2
  onlyIf isReshare checkAndTriggerPhase4
  let pending ← locked fun _ s =>
    let (s, pending) := s.takePendingShare fromNodeId
    (s, .ok pending)
  match pending with
  | some pending => replayShare pending
  | none => pure ()

def handleCommitmentMessage (fromNodeId : ℕ) (commitment : Bytes) : HandlerM F E Unit := do
  let prepared ← prepareCommitment fromNodeId commitment none
  match prepared with
  | .waitingForHash => update (·.parkCommitment fromNodeId commitment)
  | .ready polynomialCommitment isReshare => do
      let needToGenerate ← locked fun _ s => s.receiveCommitment fromNodeId polynomialCommitment
      afterCommitment fromNodeId needToGenerate isReshare

/-! ## Commitment hashes -/

def preflightCommitmentHash (fromNodeId : ℕ) (commitmentHash : Bytes) : HandlerM F E Unit := do
  let (existing, pending) ← locked fun _ s =>
    if ¬s.kind.isFresh then
      (s, .error (.protocolError "CommitmentHash is only valid for Fresh DKG sessions"))
    else
      (s, .ok (s.receivedHashes.lookup fromNodeId, s.pendingCommitments.lookup fromNodeId))
  ofResult (require (existing.all (· = commitmentHash)) (.commitmentVerificationFailed
    s!"Fresh commitment hash mismatch from node {fromNodeId}"))
  match pending with
  | some commitment => do
      let _ ← prepareCommitment fromNodeId commitment (some commitmentHash)
      pure ()
  | none => pure ()

/-- The parked commitment is only removed once it has been handled. -/
def replayCommitment (fromNodeId : ℕ) : Option Bytes → HandlerM F E Unit
  | some commitment => do
      handleCommitmentMessage fromNodeId commitment
      update fun s => { s with pendingCommitments := s.pendingCommitments.erase fromNodeId }
  | none => pure ()

def handleCommitmentHashMessage (fromNodeId : ℕ) (commitmentHash : Bytes) :
    HandlerM F E Unit := do
  preflightCommitmentHash fromNodeId commitmentHash
  locked fun _ s => s.recordCommitmentHash fromNodeId commitmentHash
  let pending ← inspect (·.pendingCommitments.lookup fromNodeId)
  replayCommitment fromNodeId pending
  let _ ← inspect (·.peerIds)
  driveEvent runCommand .commitmentHashRecorded

/-! ## Reshare messages -/

def handleReshareParticipantSet (fromNodeId : ℕ) (selectedDealerIds : List ℕ) :
    HandlerM F E Unit := do
  let accepted : Bool ← locked fun _ s =>
    match s.reshare with
    | none =>
      (s, .error (.invalidInput "ReshareParticipantSet received for non-reshare session"))
    | some reshare =>
      let (r, result) := (s.toReshareSession reshare).handleReshareParticipantSet fromNodeId
        selectedDealerIds
      (s.updateReshare r, result.map fun _ =>
        (reshare.selectedDealers.isNone ∧ r.selectedDealers.isSome : Bool))
  onlyIf accepted (driveEvent runAfterReveal .reshareParticipantSetAccepted)

/-! ## Audits and health checks -/

/-- What has been revealed is compared with what was received, and only reported. -/
def handleCommitmentAuditMessage : HandlerM F E Unit := do
  let isFresh ← inspect (·.kind.isFresh)
  if isFresh then
    throw (.protocolError "CommitmentAudit is only valid for Refresh/Reshare DKG sessions")
  else external

/-- `handle_result`; what becomes of the candidate is in `Completion`. -/
def handleResult (fromNodeId sessionId : ℕ) : HandlerM F E Unit :=
  if fromNodeId ≠ 1 then
    throw (.unauthorized s!"RefreshHealthCheckResult must come from node 1, got {fromNodeId}")
  else do
    let routed ← inspect (·.node.sessionId)
    if sessionId ≠ routed then
      throw (.unauthorized (s!"Refresh health-check statement session_id {sessionId}" ++
        s!" does not match routed session {routed}"))
    else external

/-! ## Dispatch -/

/-- The origin is a member of the committee it speaks for, and may speak in this phase of this
kind of session. -/
def Session.permits (session : Session F E) (contribution : PublicContribution) : Bool :=
  let origin := contribution.origin
  let inCurrent : Bool := origin.scope = .current ∧ 1 ≤ origin.nodeId ∧
    origin.nodeId ≤ session.node.totalNodes
  match contribution.payload.phase with
  | .commitmentHashes => session.kind.isFresh ∧ inCurrent
  | .commitments =>
    inCurrent ∧ (session.kind.isReshare → origin.nodeId ∈ session.activeDealers)
  | .commitmentAudit =>
    if session.kind.isReshare then origin.scope = .next ∧ 1 ≤ origin.nodeId ∧
      session.reshare.any (origin.nodeId ≤ ·.params.newTotalNodes)
    else session.kind.isRefresh ∧ inCurrent
  | .refreshHealthCheck => session.kind = .refresh ∧ inCurrent
  | .reshareParticipantSet => session.kind.isReshare ∧ origin = ⟨.next, 1⟩

def dispatchOnce (contribution : PublicContribution) : HandlerM F E Unit := do
  let localIsOrigin ← inspect (·.localIsOrigin contribution.origin)
  if localIsOrigin then pure ()
  else
    match contribution.payload with
    | .commitmentHash commitmentHash =>
      handleCommitmentHashMessage contribution.origin.nodeId commitmentHash
    | .commitment commitment => handleCommitmentMessage contribution.origin.nodeId commitment
    | .commitmentAudit _ => handleCommitmentAuditMessage
    | .refreshHealthCheckResult sessionId _ => handleResult contribution.origin.nodeId sessionId
    | .reshareParticipantSet selectedDealers =>
      if contribution.origin ≠ ⟨.next, 1⟩ then
        throw (.unauthorized
          "reshare participant set must originate from next-committee selector 1")
      else handleReshareParticipantSet contribution.origin.nodeId selectedDealers

/-- A contribution that is being processed is polled without a deadline; `polls` is how often. -/
def dispatchPublicContribution (polls : ℕ) (contribution : PublicContribution) :
    HandlerM F E Unit := do
  let claimed ← claimMessage (.contribution contribution) polls
  onlyIf claimed (finishing (.contribution contribution) (dispatchOnce contribution))

/-- Only a contribution whose signature and origin have been verified is dispatched. -/
def handleContribution (polls : ℕ) (contribution : PublicContribution) : HandlerM F E Unit := do
  let permitted ← inspect (·.permits contribution)
  if permitted then dispatchPublicContribution polls contribution
  else
    throw (.unauthorized "public contribution origin is not permitted for this ceremony phase")

/-- `on_reshare_share_ack`, after the sender has been checked to be the receiver it names. -/
def onReshareShareAck (polls receiverNodeId dealerId : ℕ) : HandlerM F E Unit := do
  let claimed ← claimMessage (.shareAck receiverNodeId dealerId) polls
  onlyIf claimed
    (finishing (.shareAck receiverNodeId dealerId) (handleReshareShareAck receiverNodeId dealerId))

/-! ## Runs of an attempt -/

inductive Input where
  | begin
  | contribution (polls : ℕ) (contribution : PublicContribution)
  | share (polls : ℕ) (delivery : ShareDelivery)
  | shareAck (polls receiverNodeId dealerId : ℕ)
deriving DecidableEq

def handler : Input → Task (Env F) (Session F E) (Except DkgError Unit)
  | .begin => onBegin.run
  | .contribution polls contribution => (handleContribution polls contribution).run
  | .share polls delivery => (handleShareDelivery polls delivery).run
  | .shareAck polls receiverNodeId dealerId =>
    (onReshareShareAck polls receiverNodeId dealerId).run

abbrev Attempt (F E : Type) := Pool Input (Env F) (Session F E) (Except DkgError Unit)

abbrev Schedule (F : Type) := List (Move Input (Env F))

/-- The attempt after the schedule, from a session in which no handler has been started. -/
def runAttempt (session : Session F E) (schedule : Schedule F) : Attempt F E :=
  run (Pool.step handler) (Pool.empty session) schedule

end

/-! ## A committee of two

The first of two members, with threshold one, over the field of seven elements; the other member's
commitment is to the constant polynomial 2. -/

namespace Pair

def quiet : Env F7 where
  rng _ := 3
  nonce _ := []
  now := 0
  outage := none

/-- The handler takes its next steps, and no call to the outside fails. -/
def steps (k count : ℕ) : Schedule F7 := List.replicate count (.resume k quiet)

def session (kind : SessionKind) : Session F7 F7 :=
  .new kind (.blank 1 1 2 7 .standard) none ["a", "b"] [1, 2] []

def peerCommitment : PublicContribution := ⟨⟨.current, 2⟩, 0, .commitment (pointsBytes [(2 : F7)])⟩

def peerShare : ShareDelivery := ⟨2, 1, Repr32.toRepr (2 : F7), [], none⟩

def peerCommitmentHash [Sha256] : PublicContribution :=
  ⟨⟨.current, 2⟩, 0, .commitmentHash (freshCommitmentHash 7 2 (pointsBytes [(2 : F7)]))⟩

end Pair

end Orbis.Node.Dkg
