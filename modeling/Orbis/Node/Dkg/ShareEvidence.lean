import Orbis.Node.Dkg.FrozenSelection
import Orbis.Node.Dkg.Handlers
import Orbis.Node.Reporting.DkgShare

/-!
# Signed commitments and shares of a session

In a refresh or a reshare the dealers sign what they deal.  A receiver checks the signatures and
the binding to its session before it looks at the share, keeps the signed commitments it has
accepted, and reports a share that is proved bad by what its dealer signed.
-/

namespace Orbis.Node.Evidence

open Orbis.Crypto Orbis.Crypto.Dkg Orbis.Data Orbis.Transition Orbis.Node.Reporting
open Orbis.Node.Transport (AttemptId CeremonyId SessionKind)
open Orbis.Node.Dkg (DkgError receiveFailed prepareCommitmentWith prepareCommitmentWith_eq_ok
  length_of_checkCommitmentLength of_decodeCommitment)

/-! ## The binding to a session -/

structure DkgReportEvidenceBinding where
  ringId : String
  ringPk : String
  ringStateSha256 : String
  chainId : String
  protocolVersion : UInt64
  requestId : String
  originProtocol : String
  currentNodeKeys : List String
  receiverNodeKeys : List String
deriving DecidableEq

/-- What the binding reads of an attempt. -/
structure EvidenceSession where
  ceremonyId : CeremonyId
  kind : SessionKind
  ringId : String
  peerNodeKeys : List String
  protocolVersion : UInt64

/-- The next committee is sorted when the session is created. -/
def sortReceivers : SessionKind → SessionKind
  | .reshare ringPkHex newPeerNodeKeys newThreshold bulletinPostId =>
    .reshare ringPkHex (newPeerNodeKeys.insertionSort (· ≤ ·)) newThreshold bulletinPostId
  | .resharePet ringId newPeerNodeKeys newThreshold =>
    .resharePet ringId (newPeerNodeKeys.insertionSort (· ≤ ·)) newThreshold
  | kind => kind

namespace EvidenceSession

/-- The session that a Prepare creates; the keys of the current committee are in the order of the
message. -/
def ofInit (ceremonyId : CeremonyId) (kind : SessionKind) (ringId : String)
    (peerNodeKeys : List String) (protocolVersion : UInt64) : EvidenceSession where
  ceremonyId := ceremonyId
  kind := sortReceivers kind
  ringId := ringId
  peerNodeKeys :=
    match kind with
    | .reshare _ newPeerNodeKeys _ _ | .resharePet _ newPeerNodeKeys _ => newPeerNodeKeys
    | _ => peerNodeKeys
  protocolVersion := protocolVersion

variable (session : EvidenceSession)

def receiverNodeKeys : List String :=
  match session.kind with
  | .fresh | .freshPet _ => []
  | .refresh _ | .refreshPet _ => session.peerNodeKeys
  | .reshare _ newPeerNodeKeys _ _ | .resharePet _ newPeerNodeKeys _ => newPeerNodeKeys

/-- The label of the protocol and the ring; nothing in a fresh session. -/
def origin : Option (String × String) :=
  match session.kind with
  | .fresh | .freshPet _ => none
  | .refresh _ | .refreshPet _ => some ("pss_refresh", session.ringId)
  | .reshare _ _ _ bulletinPostId =>
    some ("pss_reshare", if session.ringId = "" then bulletinPostId else session.ringId)
  | .resharePet _ _ _ => some ("pss_reshare", session.ringId)

/-- What the ring and the session make of the binding. -/
def bindingOf [Sha256] (originProtocol ringId chainId : String) (ring : RingPayload) :
    DkgReportEvidenceBinding where
  ringId := ringId
  ringPk := ring.ringPk
  ringStateSha256 := Orbis.Node.ringStateSha256 ring
  chainId := chainId
  protocolVersion := session.protocolVersion
  requestId := toString session.ceremonyId.toNat
  originProtocol := originProtocol
  currentNodeKeys := ring.peerNodeKeys
  receiverNodeKeys := session.receiverNodeKeys

end EvidenceSession

def readError : ReadError → DkgError
  | .notFound message => .bulletin message
  | .malformed message => .deserialization message

/-- It is computed once for an attempt and then kept. -/
def evidenceBinding [Sha256] (session : EvidenceSession) (bulletin : Bulletin) :
    Except DkgError (Option DkgReportEvidenceBinding) :=
  match session.origin with
  | none => .ok none
  | some (originProtocol, ringId) => do
      require (ringId ≠ "")
        (.invalidState "PSS DKG report evidence requires an authoritative ring ID")
      let ring ← (bulletin.ring ringId).mapError readError
      pure (some (session.bindingOf originProtocol ringId bulletin.chainId ring))

/-! ## Building -/

structure DkgEvidenceBuildContext where
  binding : DkgReportEvidenceBinding
  signingKeyHex : String
  sessionNonce : Bytes
  attemptId : AttemptId

section

variable [NodeSigning]

def signStatementWithKey (signingKeyHex : String) (message : Bytes) : Except DkgError Bytes :=
  (NodeSigning.sign signingKeyHex message).mapError fun error =>
    .crypto s!"Failed to sign DKG evidence: {error}"

/-- The receiver is the key at the share's place in the list of receivers; `now` is the clock's
reading. -/
def buildShareEvidenceWithContext (nodeKey : String) (context : DkgEvidenceBuildContext)
    (fromNodeId toNodeId : ℕ) (shareValue nonce : Bytes)
    (commitmentEvidence : SignedDkgCommitment) (now : UInt64) :
    Except DkgError SignedDkgShare := do
  let binding := context.binding
  let receiverNodeKey ← okOr binding.receiverNodeKeys[toNodeId - 1]?
    (.invalidState s!"DKG share to_node_id {toNodeId} is outside the receiver committee")
  let statement : DkgShareStatement :=
    { domain := dkgShareDomain
      chainId := binding.chainId
      ringId := binding.ringId
      ringPk := binding.ringPk
      ringStateSha256 := binding.ringStateSha256
      protocolVersion := binding.protocolVersion
      requestId := binding.requestId
      signedAt := now
      responderNodeKey := nodeKey
      receiverNodeKey := receiverNodeKey
      originProtocol := binding.originProtocol
      accusedCommitteeScope := .current
      signingCommitteeScope := .current
      fromNodeId := fromNodeId
      toNodeId := toNodeId
      commitmentStatement := commitmentEvidence.statement
      commitmentSignature := commitmentEvidence.signature
      shareValue := shareValue
      nonce := nonce
      cryptoBackend := dkgBackend }
  let signature ← signStatementWithKey context.signingKeyHex statement.canonicalBytes
  pure ⟨statement, signature⟩

/-! ## Verifying -/

/-- The session, the dealer and the commitment of a message.  Neither the attempt nor the nonce nor
the time of the statement is looked at. -/
def CommitmentMatches (binding : DkgReportEvidenceBinding) (fromNodeId : ℕ) (commitment : Bytes)
    (statement : DkgCommitmentStatement) : Prop :=
  statement.domain = dkgCommitmentDomain ∧ statement.chainId = binding.chainId ∧
    statement.ringId = binding.ringId ∧ statement.ringPk = binding.ringPk ∧
    statement.ringStateSha256 = binding.ringStateSha256 ∧
    statement.protocolVersion = binding.protocolVersion ∧
    statement.requestId = binding.requestId ∧
    statement.originProtocol = binding.originProtocol ∧
    statement.accusedCommitteeScope = .current ∧ statement.signingCommitteeScope = .current ∧
    statement.fromNodeId = fromNodeId ∧ statement.commitment = commitment ∧
    statement.cryptoBackend = dkgBackend

instance (binding : DkgReportEvidenceBinding) (fromNodeId : ℕ) (commitment : Bytes)
    (statement : DkgCommitmentStatement) :
    Decidable (CommitmentMatches binding fromNodeId commitment statement) := by
  unfold CommitmentMatches
  infer_instance

def validateCommitmentStatement (binding : DkgReportEvidenceBinding) (fromNodeId : ℕ)
    (commitment : Bytes) (statement : DkgCommitmentStatement) : Except DkgError Unit := do
  require (CommitmentMatches binding fromNodeId commitment statement)
    (.unauthorized "DKG commitment evidence does not match this session")
  require (trim statement.responderNodeKey ≠ "")
    (.unauthorized "DKG commitment evidence responder cannot be empty")
  let expected ← okOr (nodeKeyForCanonicalNodeId fromNodeId binding.currentNodeKeys)
    (.unauthorized
      s!"DKG commitment from_node_id {fromNodeId} is outside the current committee")
  require (statement.responderNodeKey = expected)
    (.unauthorized "DKG commitment evidence responder does not match from_node_id")

structure ShareMessage where
  fromNodeId : ℕ
  toNodeId : ℕ
  shareValue : Bytes
  nonce : Bytes
  reportEvidence : Option SignedDkgShare

def ShareMatches (binding : DkgReportEvidenceBinding) (message : ShareMessage)
    (statement : DkgShareStatement) : Prop :=
  statement.domain = dkgShareDomain ∧ statement.chainId = binding.chainId ∧
    statement.ringId = binding.ringId ∧ statement.ringPk = binding.ringPk ∧
    statement.ringStateSha256 = binding.ringStateSha256 ∧
    statement.protocolVersion = binding.protocolVersion ∧
    statement.requestId = binding.requestId ∧
    statement.originProtocol = binding.originProtocol ∧
    statement.accusedCommitteeScope = .current ∧ statement.signingCommitteeScope = .current ∧
    statement.fromNodeId = message.fromNodeId ∧ statement.toNodeId = message.toNodeId ∧
    statement.shareValue = message.shareValue ∧ statement.nonce = message.nonce ∧
    statement.cryptoBackend = dkgBackend

instance (binding : DkgReportEvidenceBinding) (message : ShareMessage)
    (statement : DkgShareStatement) : Decidable (ShareMatches binding message statement) := by
  unfold ShareMatches
  infer_instance

/-- The nested commitment is compared with itself, so that the dealer chooses it freely. -/
def validateShareStatement (binding : DkgReportEvidenceBinding) (message : ShareMessage)
    (statement : DkgShareStatement) : Except DkgError Unit := do
  let toNodeId := message.toNodeId
  require (ShareMatches binding message statement)
    (.unauthorized "DKG share evidence does not match this session")
  let receiverNodeKey ← okOr binding.receiverNodeKeys[toNodeId - 1]?
    (.unauthorized s!"DKG share to_node_id {toNodeId} is outside the receiver committee")
  require (statement.receiverNodeKey = receiverNodeKey)
    (.unauthorized "DKG share evidence receiver does not match to_node_id")
  validateCommitmentStatement binding message.fromNodeId statement.commitmentStatement.commitment
    statement.commitmentStatement
  require (statement.commitmentStatement.responderNodeKey = statement.responderNodeKey ∧
      statement.commitmentStatement.signedAt ≤ statement.signedAt)
    (.unauthorized "DKG share evidence has invalid nested commitment binding")

def verifyCommitmentEvidence (binding : Option DkgReportEvidenceBinding) (fromNodeId : ℕ)
    (commitment : Bytes) (evidence : Option SignedDkgCommitment) :
    Except DkgError (Option SignedDkgCommitment) :=
  match binding with
  | none => .ok none
  | some binding => do
      let evidence ← okOr evidence
        (.unauthorized "PSS DKG commitment is missing signed report evidence")
      validateCommitmentStatement binding fromNodeId commitment evidence.statement
      (NodeSigning.verify evidence.statement.responderNodeKey evidence.statement.canonicalBytes
        evidence.signature).mapError fun error =>
          .unauthorized s!"invalid DKG commitment evidence signature: {error}"
      pure (some evidence)

def verifyShareEvidence (binding : Option DkgReportEvidenceBinding) (message : ShareMessage) :
    Except DkgError (Option SignedDkgShare) :=
  match binding with
  | none => .ok none
  | some binding => do
      let evidence ← okOr message.reportEvidence
        (.unauthorized "PSS DKG share is missing signed report evidence")
      let statement := evidence.statement
      validateShareStatement binding message statement
      (NodeSigning.verify statement.responderNodeKey statement.commitmentStatement.canonicalBytes
        statement.commitmentSignature).mapError fun error =>
          .unauthorized s!"invalid nested DKG commitment signature: {error}"
      (NodeSigning.verify statement.responderNodeKey statement.canonicalBytes
        evidence.signature).mapError fun error =>
          .unauthorized s!"invalid DKG share evidence signature: {error}"
      pure (some evidence)

/-! What a signed message has shown when it passes. -/

structure VerifiedCommitment (binding : DkgReportEvidenceBinding) (fromNodeId : ℕ)
    (commitment : SignedDkgCommitment) : Prop where
  matches_session : CommitmentMatches binding fromNodeId commitment.statement.commitment
    commitment.statement
  named : trim commitment.statement.responderNodeKey ≠ ""
  responder : nodeKeyForCanonicalNodeId fromNodeId binding.currentNodeKeys =
    some commitment.statement.responderNodeKey
  signed : NodeSigning.verify commitment.statement.responderNodeKey
    commitment.statement.canonicalBytes commitment.signature = .ok ()

variable {binding : DkgReportEvidenceBinding}

theorem verifiedCommitment_of_validate {fromNodeId : ℕ} {commitment : Bytes}
    {evidence : SignedDkgCommitment}
    (h : validateCommitmentStatement binding fromNodeId commitment evidence.statement = .ok ())
    (hsigned : NodeSigning.verify evidence.statement.responderNodeKey
      evidence.statement.canonicalBytes evidence.signature = .ok ()) :
    VerifiedCommitment binding fromNodeId evidence ∧
      evidence.statement.commitment = commitment := by
  unfold validateCommitmentStatement at h
  obtain ⟨hmatches, h⟩ := require_bind_eq_ok.mp h
  obtain ⟨hnamed, h⟩ := require_bind_eq_ok.mp h
  obtain ⟨expected, hexpected, h⟩ := bind_eq_ok.mp h
  have hresponder := require_eq_ok.mp h
  have hbytes : evidence.statement.commitment = commitment := by
    obtain ⟨-, -, -, -, -, -, -, -, -, -, -, hbytes, -⟩ := hmatches
    exact hbytes
  refine ⟨⟨?_, hnamed, ?_, hsigned⟩, hbytes⟩
  · rw [hbytes]
    exact hmatches
  · rw [hresponder]
    exact okOr_eq_ok.mp hexpected

structure VerifiedShare (binding : DkgReportEvidenceBinding) (message : ShareMessage)
    (evidence : SignedDkgShare) : Prop where
  matches_session : ShareMatches binding message evidence.statement
  receiver : binding.receiverNodeKeys[message.toNodeId - 1]? =
    some evidence.statement.receiverNodeKey
  nested : VerifiedCommitment binding message.fromNodeId evidence.statement.nestedCommitment
  responder_eq : evidence.statement.commitmentStatement.responderNodeKey =
    evidence.statement.responderNodeKey
  signedAt_le : evidence.statement.commitmentStatement.signedAt ≤ evidence.statement.signedAt
  signed : NodeSigning.verify evidence.statement.responderNodeKey evidence.statement.canonicalBytes
    evidence.signature = .ok ()

theorem verifiedShare_of_verify {message : ShareMessage} {evidence : SignedDkgShare}
    (h : verifyShareEvidence (some binding) message = .ok (some evidence)) :
    VerifiedShare binding message evidence := by
  obtain ⟨received, -, h⟩ := bind_eq_ok.mp h
  obtain ⟨_, hvalid, h⟩ := bind_eq_ok.mp h
  obtain ⟨_, hnested, h⟩ := bind_eq_ok.mp h
  obtain ⟨_, hsigned, h⟩ := bind_eq_ok.mp h
  have hsame : received = evidence := Option.some.inj (Except.ok.inj h)
  subst hsame
  unfold validateShareStatement at hvalid
  obtain ⟨hmatches, hvalid⟩ := require_bind_eq_ok.mp hvalid
  obtain ⟨receiverNodeKey, hreceiver, hvalid⟩ := bind_eq_ok.mp hvalid
  obtain ⟨hkey, hvalid⟩ := require_bind_eq_ok.mp hvalid
  obtain ⟨_, hcommitment, hvalid⟩ := bind_eq_ok.mp hvalid
  obtain ⟨hresponder, htime⟩ := require_eq_ok.mp hvalid
  have hnested' : NodeSigning.verify received.statement.commitmentStatement.responderNodeKey
      received.statement.commitmentStatement.canonicalBytes
      received.statement.commitmentSignature = .ok () := by
    rw [hresponder]
    exact mapError_eq_ok.mp hnested
  have hverified : VerifiedCommitment binding message.fromNodeId
      received.statement.nestedCommitment :=
    (verifiedCommitment_of_validate hcommitment hnested').1
  exact ⟨hmatches, hkey ▸ okOr_eq_ok.mp hreceiver, hverified, hresponder, htime,
    mapError_eq_ok.mp hsigned⟩

end

/-! ## The receiver -/

/-- Of an attempt's state, what is read or written around the evidence.  The record of the shares
that were accepted and the phases are left out. -/
structure ShareReceiver (F E : Type) where
  node : DKGNode F E
  receivedCommitments : AList fun _ : ℕ => SignedDkgCommitment
  pendingShares : AList fun _ : ℕ => DistributedShare F × Option SignedDkgShare
  /-- The reports that were queued or relayed. -/
  reports : List DealerEvidence

/-- What does not change while the attempt lasts. -/
structure ReceiverConfig where
  binding : Option DkgReportEvidenceBinding
  ourNodeId : Except DkgError ℕ
  expectedCoeffCount : ℕ
  isRefresh : Bool

section

variable {F E : Type} [Field F] [AddCommGroup E] [Module F E] [DecidableEq E] [Curve E] [Repr32 F]
  [Repr32 E] [NodeSigning]

namespace ShareReceiver

/-- A share that its evidence proves bad is reported; otherwise the error is returned. -/
def rejectShare (receiver : ShareReceiver F E) (evidence : Option SignedDkgShare) (e : DkgError) :
    ShareReceiver F E × Except DkgError Bool :=
  match evidence with
  | some evidence =>
    if shareEvidenceProvesFailure F E evidence.statement then
      ({ receiver with reports := receiver.reports ++ [.dkgShare evidence] }, .ok false)
    else (receiver, .error e)
  | none => (receiver, .error e)

/-- A share that arrives before its commitment waits, unless one waits already. -/
def storePendingShare (receiver : ShareReceiver F E) (share : DistributedShare F)
    (evidence : Option SignedDkgShare) : ShareReceiver F E :=
  if share.fromId ∈ receiver.pendingShares then receiver
  else
    { receiver with
      pendingShares := receiver.pendingShares.insert share.fromId (share, evidence) }

/-- `ignored`: the dealer was not selected. -/
def acceptShareMessage (config : ReceiverConfig) (receiver : ShareReceiver F E) (ignored : Bool)
    (message : ShareMessage) : ShareReceiver F E × Except DkgError Bool :=
  match config.ourNodeId with
  | .error e => (receiver, .error e)
  | .ok ourNodeId =>
    let toNodeId := message.toNodeId
    if toNodeId ≠ ourNodeId then
      (receiver, .error (.shareVerificationFailed
        s!"Share intended for node {toNodeId}, but we are node {ourNodeId}"))
    else if ignored then (receiver, .ok false)
    else
      match (Fr.fromBytes message.shareValue : Except CryptoError F),
          verifyShareEvidence config.binding message with
      | _, .error e => (receiver, .error e)
      | .error e, .ok evidence =>
        receiver.rejectShare evidence (.ofDecode "Failed to deserialize share value" e)
      | .ok value, .ok evidence =>
        let share : DistributedShare F :=
          ⟨message.fromNodeId, toNodeId, value, message.nonce, receiver.node.sessionId⟩
        match receiver.node.receiveShare share with
        | (node, .ok ()) => ({ receiver with node }, .ok true)
        | (node, .error (.commitmentMissing missing)) =>
          if missing = message.fromNodeId then
            ({ receiver with node }.storePendingShare share evidence, .ok false)
          else
            { receiver with node }.rejectShare evidence
              (receiveFailed (.commitmentMissing missing))
        | (node, .error e) => { receiver with node }.rejectShare evidence (receiveFailed e)

/-- `receive_and_record_share` on a share that waited; its error is only logged. -/
def replayShare (receiver : ShareReceiver F E) (share : DistributedShare F)
    (evidence : Option SignedDkgShare) : ShareReceiver F E :=
  match receiver.node.receiveShare share with
  | (node, .ok ()) => { receiver with node }
  | (node, .error e) => ({ receiver with node }.rejectShare evidence (receiveFailed e)).1

/-- `prepare_commitment_message` in a refresh or a reshare; `probe` is the node as it was read. -/
def prepareCommitment (config : ReceiverConfig) (probe : DKGNode F E) (fromNodeId : ℕ)
    (commitment : Bytes) (evidence : Option SignedDkgCommitment) :
    Except DkgError (PolynomialCommitment E × Option SignedDkgCommitment) :=
  prepareCommitmentWith (verifyCommitmentEvidence config.binding fromNodeId commitment evidence)
    probe config.expectedCoeffCount config.isRefresh fromNodeId commitment

/-- The commitment and its evidence are recorded in one step, after it was prepared against what may
have been an earlier node.  Then a share that waited is replayed. -/
def handleCommitmentMessage (config : ReceiverConfig) (receiver : ShareReceiver F E)
    (probe : DKGNode F E) (fromNodeId : ℕ) (commitment : Bytes)
    (evidence : Option SignedDkgCommitment) : ShareReceiver F E × Except DkgError Unit :=
  match prepareCommitment config probe fromNodeId commitment evidence with
  | .error e => (receiver, .error e)
  | .ok (polynomialCommitment, verified) =>
    match receiver.node.receiveCommitment fromNodeId polynomialCommitment with
    | (_, .error e) => (receiver, .error (.ofCrypto "Failed to receive commitment" e))
    | (node, .ok ()) =>
      let receivedCommitments := match verified with
        | some signed => receiver.receivedCommitments.insert fromNodeId signed
        | none => receiver.receivedCommitments
      let receiver := { receiver with node, receivedCommitments }
      match receiver.pendingShares.lookup fromNodeId with
      | none => (receiver, .ok ())
      | some (share, evidence) =>
        ({ receiver with pendingShares := receiver.pendingShares.erase fromNodeId }.replayShare
          share evidence, .ok ())

end ShareReceiver

/-- What can happen to a receiver.  `own` is any other change of its node. -/
inductive ReceiverInput (F E : Type) where
  | commitment (probe : DKGNode F E) (fromNodeId : ℕ) (commitment : Bytes)
      (evidence : Option SignedDkgCommitment)
  | share (ignored : Bool) (message : ShareMessage)
  | own (node : DKGNode F E)

namespace ShareReceiver

def step (config : ReceiverConfig) (receiver : ShareReceiver F E) :
    ReceiverInput F E → ShareReceiver F E
  | .commitment probe fromNodeId commitment evidence =>
    (receiver.handleCommitmentMessage config probe fromNodeId commitment evidence).1
  | .share ignored message => (receiver.acceptShareMessage config ignored message).1
  | .own node => { receiver with node }

end ShareReceiver

end

section

namespace ShareReceiver

variable {F E : Type} {receiver : ShareReceiver F E} {config : ReceiverConfig}
  {binding : DkgReportEvidenceBinding} {message : ShareMessage} {evidence : SignedDkgShare}
  {commitment : PolynomialCommitment E}

/-! ### What a receiver keeps -/

/-- No commitment is changed and no report is taken back. -/
structure KeepsRecords (receiver receiver' : ShareReceiver F E) : Prop where
  accepted : receiver'.node.receivedCommitments = receiver.node.receivedCommitments
  received : receiver'.receivedCommitments = receiver.receivedCommitments
  reports : receiver.reports ⊆ receiver'.reports

/-- Nor is a share taken from those that wait. -/
structure Keeps (receiver receiver' : ShareReceiver F E) : Prop
    extends KeepsRecords receiver receiver' where
  waiting : ∀ id entry, receiver.pendingShares.lookup id = some entry →
    receiver'.pendingShares.lookup id = some entry

theorem Keeps.storePendingShare {receiver' : ShareReceiver F E} (h : receiver.Keeps receiver')
    (share : DistributedShare F) (evidence : Option SignedDkgShare) :
    receiver.Keeps (receiver'.storePendingShare share evidence) := by
  unfold ShareReceiver.storePendingShare
  split
  · exact h
  next hnone =>
    refine ⟨⟨h.accepted, h.received, h.reports⟩, fun id entry hwaits => ?_⟩
    have hwaits' := h.waiting id entry hwaits
    have hid : id ≠ share.fromId := by
      rintro rfl
      exact hnone (AList.lookup_isSome.mp (by rw [hwaits']; rfl))
    exact (AList.lookup_insert_ne hid).trans hwaits'

theorem storePendingShare_eq_iff {share : DistributedShare F} {evidence : Option SignedDkgShare} :
    receiver.storePendingShare share evidence = receiver ↔
      share.fromId ∈ receiver.pendingShares := by
  unfold storePendingShare
  split
  next hmem => exact iff_of_true rfl hmem
  next hmem =>
    refine iff_of_false ?_ hmem
    intro h
    have hpending : receiver.pendingShares.insert share.fromId (share, evidence) =
        receiver.pendingShares := congrArg ShareReceiver.pendingShares h
    rw [← hpending] at hmem
    exact hmem (AList.mem_insert _ |>.mpr (.inl rfl))

/-! ### Every accepted commitment is kept with its signature -/

variable [Field F] [AddCommGroup E] [Module F E] [DecidableEq E] [Curve E]

theorem receiveShare_of_commitmentMissing {node : DKGNode F E} {share : DistributedShare F}
    {missing : ℕ} (h : (node.receiveShare share).2 = .error (.commitmentMissing missing)) :
    node.receiveShare share = (node, .error (.commitmentMissing missing)) ∧
      missing = share.fromId := by
  unfold DKGNode.receiveShare DKGNode.refuse at h ⊢
  simp only at h ⊢
  split_ifs at h ⊢
  all_goals try cases h
  split at h
  · cases h
    exact ⟨rfl, rfl⟩
  · split at h <;> cases h

variable [Repr32 F] [Repr32 E]

theorem Keeps.rejectShare {receiver' : ShareReceiver F E} (h : receiver.Keeps receiver')
    (evidence : Option SignedDkgShare) (e : DkgError) :
    receiver.Keeps (receiver'.rejectShare evidence e).1 := by
  unfold ShareReceiver.rejectShare
  split
  · split
    · exact ⟨⟨h.accepted, h.received, List.subset_append_of_subset_left _ h.reports⟩, h.waiting⟩
    · exact h
  · exact h

/-- A share that is rejected is reported or fails. -/
theorem rejectShare_ne {node : DKGNode F E} {evidence : Option SignedDkgShare} {e : DkgError} :
    { receiver with node }.rejectShare evidence e ≠ (receiver, .ok false) := by
  unfold rejectShare
  intro h
  split at h
  · split at h
    · have hreports := congrArg (fun outcome => outcome.1.reports.length) h
      simp at hreports
    · cases (Prod.mk.inj h).2
  · cases (Prod.mk.inj h).2

variable [NodeSigning]

/-- What became of a share: it was reported, it waits for its dealer's commitment, or it fits the
one that was accepted. -/
inductive Settled (message : ShareMessage) (evidence : SignedDkgShare)
    (receiver : ShareReceiver F E) : Prop where
  | reported (h : .dkgShare evidence ∈ receiver.reports)
  | waits {value : F} {sessionId : ℕ}
      (hnone : message.fromNodeId ∉ receiver.node.receivedCommitments)
      (hvalue : Fr.fromBytes message.shareValue = .ok value)
      (hwaits : receiver.pendingShares.lookup message.fromNodeId = some
        (⟨message.fromNodeId, message.toNodeId, value, message.nonce, sessionId⟩, some evidence))
  | fits {commitment : PolynomialCommitment E} {value : F}
      (haccepted : receiver.node.receivedCommitments.lookup message.fromNodeId = some commitment)
      (hvalue : Fr.fromBytes message.shareValue = .ok value)
      (hfits : commitment.verifyShare message.toNodeId value = true)

variable (hfailure : shareEvidenceProvesFailure F E evidence.statement = true)
include hfailure

end ShareReceiver

end

/-! ## Dealers that were not selected -/

open Orbis.Node.Dkg (ReshareSession ReshareParams)

section

variable {F E : Type} [Repr32 F]

/-- The session leaves a share at its first look exactly if it ignores the dealer. -/
theorem acceptShareMessage_eq_iff_ignored {s : ReshareSession F E} {fromNodeId toNodeId : ℕ}
    (hown : s.params.newNodeId = some toNodeId) (shareValue nonce : Bytes) :
    s.acceptShareMessage fromNodeId toNodeId shareValue nonce = (s, .ok ()) ↔
      ¬s.isPet ∧ s.selectedDealers.any (fromNodeId ∉ ·) := by
  simp only [ReshareSession.acceptShareMessage, hown, ne_eq, not_true_eq_false, if_false]
  split
  next hignored => exact iff_of_true rfl hignored
  next hignored =>
    refine iff_of_false ?_ hignored
    intro h
    split at h
    · cases (Prod.mk.inj h).2
    · have hhandlers := congrArg (fun outcome => outcome.1.handlers.length) h
      simp [ReshareSession.push] at hhandlers

variable [Field F] [AddCommGroup E] [Module F E] [DecidableEq E] [Curve E] [Repr32 E] [NodeSigning]

namespace ShareReceiver

/-- The message would wait for its dealer's commitment, for which another one waits already. -/
def Repeats (config : ReceiverConfig) (receiver : ShareReceiver F E) (message : ShareMessage) :
    Prop :=
  message.fromNodeId ∈ receiver.pendingShares ∧
    ∃ value evidence, Fr.fromBytes message.shareValue = .ok value ∧
      verifyShareEvidence config.binding message = .ok evidence ∧
      (receiver.node.receiveShare ⟨message.fromNodeId, message.toNodeId, value, message.nonce,
        receiver.node.sessionId⟩).2 = .error (.commitmentMissing message.fromNodeId)

/-- A share that is looked at leaves no trace exactly if it repeats one that waits. -/
theorem acceptShareMessage_eq_iff {receiver : ShareReceiver F E} {config : ReceiverConfig}
    {message : ShareMessage} (hconfig : config.ourNodeId = .ok message.toNodeId) :
    receiver.acceptShareMessage config false message = (receiver, .ok false) ↔
      receiver.Repeats config message := by
  unfold acceptShareMessage Repeats
  simp only [hconfig, ne_eq, not_true_eq_false, if_false, Bool.false_eq_true]
  cases hverified : verifyShareEvidence config.binding message with
  | error e => simp
  | ok evidence =>
    cases hvalue : (Fr.fromBytes message.shareValue : Except CryptoError F) with
    | error e =>
      have hrejected : receiver.rejectShare evidence (.ofDecode "Failed to deserialize share value"
        e) ≠ (receiver, .ok false) := rejectShare_ne
      simpa using hrejected
    | ok value =>
      simp only [Except.ok.injEq, exists_and_left, exists_eq_left']
      cases hreceive : receiver.node.receiveShare ⟨message.fromNodeId, message.toNodeId, value,
          message.nonce, receiver.node.sessionId⟩ with
      | mk node result =>
      cases result with
      | ok _ => simp
      | error e =>
        cases e with
        | commitmentMissing missing =>
          obtain ⟨hsame, rfl⟩ := receiveShare_of_commitmentMissing (congrArg Prod.snd hreceive)
          obtain rfl := (Prod.mk.inj (hsame.symm.trans hreceive)).1
          simp [storePendingShare_eq_iff]
        | _ => exact iff_of_false rejectShare_ne (by simp)

end ShareReceiver

/-- A share that arrives after a selection without its dealer is dropped by a main reshare and by no
other: a PET reshare hands it on, and then leaves no trace of it only if another share of the
dealer waits already. -/
theorem unselected_share_dropped {s : ReshareSession F E} {selected : List ℕ}
    (hselected : s.selectedDealers = some selected) (events : List (ReshareSession.Event F))
    {message : ShareMessage} (hdealer : message.fromNodeId ∉ selected)
    (hown : (run ReshareSession.step s events).params.newNodeId = some message.toNodeId)
    {config : ReceiverConfig} (hconfig : config.ourNodeId = .ok message.toNodeId)
    (receiver : ShareReceiver F E) :
    let s' := run ReshareSession.step s events
    (s'.acceptShareMessage message.fromNodeId message.toNodeId message.shareValue message.nonce =
        (s', .ok ()) ↔ s'.isPet = false) ∧
      (receiver.acceptShareMessage config
        (¬s'.isPet ∧ s'.selectedDealers.any (message.fromNodeId ∉ ·)) message =
          (receiver, .ok false) ↔ s'.isPet = false ∨ receiver.Repeats config message) := by
  intro s'
  have hstep : ∀ (s : ReshareSession F E) (event : ReshareSession.Event F),
      s.selectedDealers = some selected → (s.step event).selectedDealers = some selected :=
    fun _ event h => ReshareSession.selectedDealers_step h event
  have hstays : s'.selectedDealers = some selected := run_induction hstep hselected events
  have hignored : (¬s'.isPet ∧ s'.selectedDealers.any (message.fromNodeId ∉ ·)) ↔
      s'.isPet = false := by
    simp [hstays, hdealer]
  refine ⟨(acceptShareMessage_eq_iff_ignored hown _ _).trans hignored, ?_⟩
  by_cases hmain : s'.isPet = false
  · rw [decide_eq_true (hignored.mpr hmain)]
    simp [ShareReceiver.acceptShareMessage, hconfig, hmain]
  · rw [decide_eq_false (mt hignored.mp hmain), ShareReceiver.acceptShareMessage_eq_iff hconfig]
    simp [hmain]

end

/-! New member 2 takes no part in the old committee, in which both members deal. -/

def dealtBy (dealer : ℕ) : List (ReshareSession.Event F7) :=
  [.commitmentMessage dealer (pointsBytes [(2 : F7)]), .resume 0 fun _ => 0,
    .shareMessage dealer 2 (toRepr (2 : F7)) [], .resume 0 fun _ => 0, .resume 0 fun _ => 0]

/-- The session when dealer 1 has been selected. -/
def selectedOne (isPet : Bool) : ReshareSession F7 F7 :=
  run ReshareSession.step (.start (.blank 2 1 2 0 .receiver) isPet ⟨none, [1, 2], 1, 2, some 2⟩
    [1, 2] [1, 2] false) (dealtBy 1 ++ [.participantSet 1 [1]])

theorem unselected_share_dropped_late :
    (selectedOne false).acceptShareMessage 2 2 (toRepr (2 : F7)) [] =
      (selectedOne false, .ok ()) := by
  let : NodeSigning := NodeSigning.echo
  have hselected : (selectedOne false).selectedDealers = some [1] := by decide +kernel
  have hown : (selectedOne false).params.newNodeId = some 2 := by decide +kernel
  let message : ShareMessage := ⟨2, 2, toRepr (2 : F7), [], none⟩
  let config : ReceiverConfig := ⟨none, .ok message.toNodeId, 1, false⟩
  have hdealer : message.fromNodeId ∉ [1] := by decide
  have hconfig : config.ourNodeId = .ok message.toNodeId := rfl
  exact (unselected_share_dropped hselected [] hdealer hown hconfig
    ⟨(selectedOne false).node, ∅, ∅, []⟩).1.mpr (by decide +kernel)

/-- The PET reshare takes the share of dealer 2 and acknowledges it. -/
theorem unselected_share_taken_by_pet :
    let late isPet := run ReshareSession.step (selectedOne isPet) (dealtBy 2)
    (selectedOne true).selectedDealers = some [1] ∧ 2 ∈ (late true).node.receivedShares ∧
      2 ∈ (late true).validShareDealers ∧ 2 ∉ (late false).node.receivedShares := by
  decide +kernel

end Orbis.Node.Evidence
