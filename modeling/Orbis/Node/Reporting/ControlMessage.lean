import Orbis.Node.Reporting.Confirmation

/-!
# Reports about control messages

Three faults of a signed control message can be reported: a Prepare that names a wrong leader or
wrong routes, two acknowledgements that differ, and a repair page over the size limit.  The
accused's own signatures are the evidence.  A validator recomputes what was signed from the
reported artifact and compares it with the bulletin as it stands at validation.
-/

namespace Orbis.Node.Reporting

open Orbis.Crypto Orbis.Data Orbis.Node.Transport
open Orbis.Node.Dkg (ParticipantRef)

/-! ## The statement -/

inductive DkgControlMessageFaultKind where
  | leaderPrepareFault
  | ackEquivocation
  | oversizedRepairPage
deriving DecidableEq

structure ControlMessageArtifact where
  signature : Bytes
  data : Bytes
  signedAt : UInt64
deriving DecidableEq

structure DkgControlMessageFaultStatement where
  domain : String
  chainId : String
  ringId : String
  ringPk : String
  ringStateSha256 : String
  protocolVersion : UInt64
  requestId : String
  signedAt : UInt64
  responderNodeKey : String
  originProtocol : String
  accusedCommitteeScope : CommitteeScope
  signingCommitteeScope : CommitteeScope
  attemptId : AttemptId
  messageKind : String
  faultKind : DkgControlMessageFaultKind
  artifactA : ControlMessageArtifact
  artifactB : Option ControlMessageArtifact
deriving DecidableEq

def dkgControlMessageFaultDomain : String := "orbis-dkg-control-message-fault-v1"

def controlMessageFaultLabel : String := "DKG control-message fault"

def to32 (bytes : Bytes) : Option Bytes32 :=
  if h : bytes.length = 32 then some ⟨bytes, h⟩ else none

namespace DkgControlMessageFaultStatement

variable (statement : DkgControlMessageFaultStatement)

def prologue : InvalidCryptoStatementPrologue where
  label := controlMessageFaultLabel
  domain := statement.domain
  expectedDomain := dkgControlMessageFaultDomain
  chainId := statement.chainId
  ringId := statement.ringId
  ringPk := statement.ringPk
  ringStateSha256 := statement.ringStateSha256
  requestId := statement.requestId
  signedAt := statement.signedAt
  responderNodeKey := statement.responderNodeKey
  checkAnchor := true

/-- An equivocating dealer of a reshare may be of either committee. -/
def expectedAccusedScope : Option CommitteeScope :=
  if statement.originProtocol = "pss_reshare" then
    if statement.faultKind = .ackEquivocation then none else some .pendingNew
  else some .current

end DkgControlMessageFaultStatement

/-! ## Validation -/

section

variable [Sha256]

/-- The checks that do not depend on the kind of the fault.  They return the ceremony and the
committee the accused is in. -/
def validateControlStatement (envelope : ReportEnvelope) (context : ReportValidationContext)
    (ring : RingPayload) (statement : DkgControlMessageFaultStatement) :
    Except ReportingError (CeremonyId × CommitteeView) := do
  validateInvalidCryptoStatementPrologue envelope context statement.prologue
  let origin := statement.originProtocol
  require (isValidInvalidCryptoDkgOrigin origin)
    (.invalidReport s!"unsupported DKG control-message fault origin protocol {origin}")
  require (statement.signingCommitteeScope = .current)
    (.unauthorized "DKG control-message fault reports must use the current signing committee")
  require (∀ scope ∈ statement.expectedAccusedScope, statement.accusedCommitteeScope = scope)
    (.unauthorized
      "DKG control-message fault accused committee scope does not match origin protocol")
  let effective ← validateReportRouteVersionAtObservedAt envelope ring context.routesVersion
  let claimed := statement.protocolVersion
  require (claimed = effective)
    (.unauthorized ("DKG control-message fault protocol version " ++ toString claimed ++
      " does not match effective ring version " ++ toString effective))
  let signingCommittee ← validateRingAndMembershipForScopes envelope ring
    statement.accusedCommitteeScope .current controlMessageFaultLabel
  validateNodeRoutes envelope context
  validateLocalSigner envelope context signingCommittee controlMessageFaultLabel
  let accusedCommittee ← committeeForScope ring statement.accusedCommitteeScope
  require (statement.responderNodeKey ∈ accusedCommittee.peerNodeKeys)
    (.unauthorized "control-message fault accused is not in the claimed committee")
  let ceremonyId ← okOr (parseU128 statement.requestId)
    (.invalidReport "DKG control-message fault request_id is not a ceremony ID")
  pure (ceremonyId, accusedCommittee)

end

/-- Routes that cannot be resolved contradict nothing. -/
def committeeRoutesContradictVera [AddressSyntax] (bulletin : Bulletin)
    (claimed : CommitteeConfig) (expectedNodeKeys : List String) : Bool :=
  if claimed.nodeKeys.toFinset ≠ expectedNodeKeys.toFinset then true
  else
    match resolveNodeRoutes bulletin expectedNodeKeys with
    | .error _ => false
    | .ok resolved =>
      (claimed.nodeKeys.zip claimed.peerRoutes).any fun (nodeKey, route) =>
        ((resolved.find? fun r => r.nodeKey = nodeKey).map NodeRoute.peerId) ≠ some route

section

variable [Sha256] [NodeSigning]

/-- A control message's signature, whose errors name the kind of evidence. -/
def verifyControlArtifact (label nodeKey : String) (ceremonyId : CeremonyId)
    (attemptId : AttemptId) (messageKind : String) (digest : Bytes32)
    (artifact : ControlMessageArtifact) : Except ReportingError Unit :=
  (NodeSigning.verify nodeKey
    (controlAckSigningBytes ceremonyId attemptId messageKind digest artifact.signedAt)
    artifact.signature).mapError fun error =>
      .unauthorized s!"invalid {label} signature: {error}"

/-- Two acknowledgements of one kind with different digests. -/
def validateAckEquivocation (statement : DkgControlMessageFaultStatement)
    (ceremonyId : CeremonyId) : Except ReportingError Unit := do
  let kind := statement.messageKind
  require (kind ∈ ["prepared", "activated", "begun"])
    (.invalidReport s!"unsupported DKG control-ack message kind {kind}")
  let artifactB ← okOr statement.artifactB
    (.invalidReport "ack-equivocation evidence requires two artifacts")
  let digestA ← okOr (to32 statement.artifactA.data)
    (.invalidReport "ack-equivocation artifact_a digest must be 32 bytes")
  let digestB ← okOr (to32 artifactB.data)
    (.invalidReport "ack-equivocation artifact_b digest must be 32 bytes")
  require (digestA ≠ digestB)
    (.unauthorized "ack-equivocation artifacts claim the identical digest")
  require (statement.signedAt = max statement.artifactA.signedAt artifactB.signedAt)
    (.unauthorized "ack-equivocation statement signed_at does not match its artifacts")
  [(digestA, statement.artifactA), (digestB, artifactB)].forM fun (digest, artifact) =>
    verifyControlArtifact "ack-equivocation" statement.responderNodeKey ceremonyId
      statement.attemptId kind digest artifact

/-- A repair page that is larger than the limit, as it was submitted. -/
def validateOversizedRepairPage [LawfulSha256] [Serde PublicPhase]
    [Serde (Option ParticipantRef)] [Serde DkgControlMessage]
    (statement : DkgControlMessageFaultStatement) (ceremonyId : CeremonyId) :
    Except ReportingError Unit := do
  require statement.artifactB.isNone
    (.invalidReport "oversized-repair-page evidence must contain exactly one artifact")
  require (statement.messageKind = "public_phase_response")
    (.invalidReport
      "oversized-repair-page evidence must target the PublicPhaseResponse message")
  require (maxPublicRepairPageBytes < statement.artifactA.data.length)
    (.unauthorized "reported repair page is independently verifiable as within the size limit")
  let message : DkgControlMessage ←
    (decode statement.artifactA.data maxPublicOriginEvidenceBytes).mapError .invalidReport
  match message with
  | .publicPhaseResponse response => do
      require (response.ceremonyId = ceremonyId ∧ response.attemptId = statement.attemptId)
        (.unauthorized "oversized-repair-page evidence does not target the claimed attempt")
      require (publicRepairPageDigest response.toRepairPage = response.pageDigest)
        (.unauthorized
          "oversized-repair-page evidence content does not match its own page_digest")
      let embedded ← okOr response.reportSignature
        (.unauthorized "oversized-repair-page evidence has no report signature")
      require (embedded.signedAt = statement.artifactA.signedAt ∧
          statement.signedAt = statement.artifactA.signedAt)
        (.unauthorized "oversized-repair-page statement signed_at does not match its artifact")
      -- The signature that is verified is the artifact's, not the embedded one.
      verifyControlArtifact "oversized-repair-page" statement.responderNodeKey
        response.ceremonyId response.attemptId "public_phase_response" response.pageDigest
        statement.artifactA
  | _ =>
    .error (.invalidReport
      "oversized-repair-page evidence does not decode as a PublicPhaseResponse")

variable [LawfulSha256] [AddressSyntax] [Serde SessionKind] [Serde PrepareSession]

/-- Whether the routes that a Prepare claims contradict the bulletin: those of the current
committee and, if the accused is accused as a member of the pending one, those of the next. -/
def prepareRoutesContradictVera (bulletin : Bulletin) (ring : RingPayload)
    (scope : CommitteeScope) (accusedCommittee : CommitteeView) (prepare : PrepareSession) :
    Except ReportingError Bool := do
  let current :=
    committeeRoutesContradictVera bulletin prepare.committees.current ring.peerNodeKeys
  match scope with
  | .current => pure current
  | .pendingNew => do
      let next ← okOr prepare.committees.next
        (.invalidReport "leader-prepare-fault Reshare Prepare omits the next committee")
      pure (current ||
        committeeRoutesContradictVera bulletin next accusedCommittee.peerNodeKeys)

/-- A Prepare of a leader that is not the canonical one, or with routes that contradict the
bulletin at validation. -/
def validateLeaderPrepareFault (bulletin : Bulletin) (ring : RingPayload)
    (statement : DkgControlMessageFaultStatement) (ceremonyId : CeremonyId)
    (accusedCommittee : CommitteeView) : Except ReportingError Unit := do
  require statement.artifactB.isNone
    (.invalidReport "leader-prepare-fault evidence must contain exactly one artifact")
  require (statement.messageKind = "prepare")
    (.invalidReport "leader-prepare-fault evidence must target the Prepare message")
  let prepare : PrepareSession ←
    (decode statement.artifactA.data maxPublicOriginEvidenceBytes).mapError .invalidReport
  require (prepare.ceremonyId = ceremonyId ∧ prepare.attemptId = statement.attemptId)
    (.unauthorized "leader-prepare-fault evidence does not target the claimed attempt")
  require (prepare.leaderNodeKey = statement.responderNodeKey)
    (.unauthorized
      "leader-prepare-fault Prepare is not self-consistently attributed to the accused")
  let recomputed ← (configDigest prepare).mapError .invalidReport
  require (recomputed = prepare.configDigest)
    (.unauthorized "leader-prepare-fault Prepare content does not match its own config_digest")
  require (statement.signedAt = statement.artifactA.signedAt)
    (.unauthorized "leader-prepare-fault statement signed_at does not match its artifact")
  verifyControlArtifact "leader-prepare-fault" statement.responderNodeKey prepare.ceremonyId
    prepare.attemptId "prepare" recomputed statement.artifactA
  let noncanonicalLeader := prepare.canonicalLeaderNodeKey ≠ some prepare.leaderNodeKey
  let routesContradictVera ←
    (if noncanonicalLeader then pure false
    else prepareRoutesContradictVera bulletin ring statement.accusedCommitteeScope
      accusedCommittee prepare : Except ReportingError Bool)
  require (noncanonicalLeader ∨ routesContradictVera)
    (.unauthorized "Prepare content does not prove a leader-prepare fault")

variable [Serde PublicPhase] [Serde (Option ParticipantRef)] [Serde DkgControlMessage]

def validateDkgControlMessageFaultEvidence (envelope : ReportEnvelope)
    (context : ReportValidationContext) (statement : DkgControlMessageFaultStatement)
    (ring : RingPayload) : Except ReportingError Unit := do
  let (ceremonyId, accusedCommittee) ← validateControlStatement envelope context ring statement
  match statement.faultKind with
  | .leaderPrepareFault =>
    validateLeaderPrepareFault context.bulletin ring statement ceremonyId accusedCommittee
  | .ackEquivocation => validateAckEquivocation statement ceremonyId
  | .oversizedRepairPage => validateOversizedRepairPage statement ceremonyId

end

/-! ## What an accepted statement satisfies -/

section

variable [Sha256] {envelope : ReportEnvelope} {context : ReportValidationContext}
  {ring : RingPayload} {statement : DkgControlMessageFaultStatement} {ceremonyId : CeremonyId}
  {accusedCommittee : CommitteeView}

theorem validateControlStatement_eq_ok
    (h : validateControlStatement envelope context ring statement =
      .ok (ceremonyId, accusedCommittee)) :
    statement.responderNodeKey = envelope.accusedNodeKey ∧
      committeeForScope ring statement.accusedCommitteeScope = .ok accusedCommittee ∧
      parseU128 statement.requestId = some ceremonyId := by
  unfold validateControlStatement at h
  obtain ⟨_, hprologue, h⟩ := bind_eq_ok.mp h
  iterate 8 obtain ⟨_, -, h⟩ := bind_eq_ok.mp h
  obtain ⟨committee, hcommittee, h⟩ := bind_eq_ok.mp h
  obtain ⟨_, -, h⟩ := bind_eq_ok.mp h
  obtain ⟨_, hceremony, h⟩ := bind_eq_ok.mp h
  cases h
  unfold validateInvalidCryptoStatementPrologue at hprologue
  iterate 5 obtain ⟨_, -, hprologue⟩ := bind_eq_ok.mp hprologue
  exact ⟨require_eq_ok.mp hprologue, hcommittee, okOr_eq_ok.mp hceremony⟩

variable [NodeSigning]

theorem validateAckEquivocation_eq_ok (h : validateAckEquivocation statement ceremonyId = .ok ()) :
    ∃ artifactB digestA digestB, statement.messageKind ∈ ["prepared", "activated", "begun"] ∧
      statement.artifactB = some artifactB ∧ to32 statement.artifactA.data = some digestA ∧
      to32 artifactB.data = some digestB ∧ digestA ≠ digestB ∧
      NodeSigning.verify statement.responderNodeKey
        (controlAckSigningBytes ceremonyId statement.attemptId statement.messageKind digestA
          statement.artifactA.signedAt) statement.artifactA.signature = .ok () ∧
      NodeSigning.verify statement.responderNodeKey
        (controlAckSigningBytes ceremonyId statement.attemptId statement.messageKind digestB
          artifactB.signedAt) artifactB.signature = .ok () := by
  unfold validateAckEquivocation at h
  obtain ⟨_, hkind, h⟩ := bind_eq_ok.mp h
  obtain ⟨artifactB, hartifactB, h⟩ := bind_eq_ok.mp h
  obtain ⟨digestA, hdigestA, h⟩ := bind_eq_ok.mp h
  obtain ⟨digestB, hdigestB, h⟩ := bind_eq_ok.mp h
  obtain ⟨_, hne, h⟩ := bind_eq_ok.mp h
  obtain ⟨_, -, h⟩ := bind_eq_ok.mp h
  obtain ⟨_, hverifyA, h⟩ := bind_eq_ok.mp h
  obtain ⟨_, hverifyB, -⟩ := bind_eq_ok.mp h
  exact ⟨artifactB, digestA, digestB, require_eq_ok.mp hkind, okOr_eq_ok.mp hartifactB,
    okOr_eq_ok.mp hdigestA, okOr_eq_ok.mp hdigestB, require_eq_ok.mp hne,
    mapError_eq_ok.mp hverifyA, mapError_eq_ok.mp hverifyB⟩

variable [LawfulSha256]

theorem validateOversizedRepairPage_eq_ok [Serde PublicPhase] [Serde (Option ParticipantRef)]
    [Serde DkgControlMessage] :
    validateOversizedRepairPage statement ceremonyId = .ok () ↔
      statement.artifactB.isNone ∧ statement.messageKind = "public_phase_response" ∧
      maxPublicRepairPageBytes < statement.artifactA.data.length ∧
      ∃ response embedded,
        decode statement.artifactA.data maxPublicOriginEvidenceBytes =
          .ok (DkgControlMessage.publicPhaseResponse response) ∧
        (response.ceremonyId = ceremonyId ∧ response.attemptId = statement.attemptId) ∧
        publicRepairPageDigest response.toRepairPage = response.pageDigest ∧
        response.reportSignature = some embedded ∧
        (embedded.signedAt = statement.artifactA.signedAt ∧
          statement.signedAt = statement.artifactA.signedAt) ∧
        NodeSigning.verify statement.responderNodeKey
          (controlAckSigningBytes response.ceremonyId response.attemptId "public_phase_response"
            response.pageDigest statement.artifactA.signedAt)
          statement.artifactA.signature = .ok () := by
  unfold validateOversizedRepairPage
  rw [require_bind_eq_ok, require_bind_eq_ok, require_bind_eq_ok, bind_eq_ok]
  refine and_congr_right fun _ => and_congr_right fun _ => and_congr_right fun _ => ?_
  constructor
  · rintro ⟨message, hdecode, h⟩
    cases message with
    | prepare _ | other => cases h
    | publicPhaseResponse response =>
      obtain ⟨hattempt, h⟩ := require_bind_eq_ok.mp h
      obtain ⟨hdigest, h⟩ := require_bind_eq_ok.mp h
      obtain ⟨embedded, hembedded, h⟩ := bind_eq_ok.mp h
      obtain ⟨htimes, h⟩ := require_bind_eq_ok.mp h
      exact ⟨response, embedded, mapError_eq_ok.mp hdecode, hattempt, hdigest,
        okOr_eq_ok.mp hembedded, htimes, mapError_eq_ok.mp h⟩
  · rintro ⟨response, embedded, hdecode, hattempt, hdigest, hembedded, htimes, h⟩
    refine ⟨_, mapError_eq_ok.mpr hdecode, require_bind_eq_ok.mpr ⟨hattempt, ?_⟩⟩
    refine require_bind_eq_ok.mpr ⟨hdigest, bind_eq_ok.mpr ⟨embedded, okOr_eq_ok.mpr hembedded, ?_⟩⟩
    exact require_bind_eq_ok.mpr ⟨htimes, mapError_eq_ok.mpr h⟩
theorem validateLeaderPrepareFault_eq_ok [AddressSyntax] [Serde SessionKind]
    [Serde PrepareSession] {bulletin : Bulletin}
    (h : validateLeaderPrepareFault bulletin ring statement ceremonyId accusedCommittee =
      .ok ()) :
    ∃ prepare digest,
      decode statement.artifactA.data maxPublicOriginEvidenceBytes = .ok prepare ∧
      configDigest prepare = .ok digest ∧
      NodeSigning.verify statement.responderNodeKey
        (controlAckSigningBytes prepare.ceremonyId prepare.attemptId "prepare" digest
          statement.artifactA.signedAt) statement.artifactA.signature = .ok () ∧
      (prepare.canonicalLeaderNodeKey ≠ some prepare.leaderNodeKey ∨
        prepareRoutesContradictVera bulletin ring statement.accusedCommitteeScope
          accusedCommittee prepare = .ok true) := by
  unfold validateLeaderPrepareFault at h
  obtain ⟨_, -, h⟩ := bind_eq_ok.mp h
  obtain ⟨_, -, h⟩ := bind_eq_ok.mp h
  obtain ⟨prepare, hdecode, h⟩ := bind_eq_ok.mp h
  obtain ⟨_, -, h⟩ := bind_eq_ok.mp h
  obtain ⟨_, -, h⟩ := bind_eq_ok.mp h
  obtain ⟨digest, hdigest, h⟩ := bind_eq_ok.mp h
  obtain ⟨_, -, h⟩ := bind_eq_ok.mp h
  obtain ⟨_, -, h⟩ := bind_eq_ok.mp h
  obtain ⟨_, hverify, h⟩ := bind_eq_ok.mp h
  obtain ⟨contradict, hcontradict, h⟩ := bind_eq_ok.mp h
  refine ⟨prepare, digest, mapError_eq_ok.mp hdecode, mapError_eq_ok.mp hdigest,
    mapError_eq_ok.mp hverify, ?_⟩
  rcases require_eq_ok.mp h with hleader | hroutes
  · exact .inl hleader
  · by_cases hleader : prepare.canonicalLeaderNodeKey ≠ some prepare.leaderNodeKey
    · exact .inl hleader
    · rw [if_neg hleader, hroutes] at hcontradict
      exact .inr hcontradict

end

/-! ## Three members to evaluate with

The first member is accused by the second and the third validates.  A fourth node may join. -/

namespace Trio

def peer (digit : Char) : String := String.ofList (List.replicate 64 digit)

def payload : RingPayload where
  ringPk := "pk"
  newPeerNodeKeys := none
  newThreshold := none
  peerNodeKeys := ["a", "b", "c"]
  threshold := 2
  pssInterval := 3600
  blockNumberNonce := 0
  policyId := none
  trustedAuthRelayDids := none
  upgradeInfo := ⟨0, none, none⟩
  reporting := ⟨⟨1, 1, 1, 1⟩, [], 3⟩
  requiresPet := false
  petPk := none

def nodeInfo (nodeKey : String) : Except ReadError NodeInfo :=
  if nodeKey = "a" then .ok ⟨peer 'a'⟩
  else if nodeKey = "b" then .ok ⟨peer 'b'⟩
  else if nodeKey = "c" then .ok ⟨peer 'c'⟩
  else if nodeKey = "d" then .ok ⟨peer 'd'⟩
  else .error (.notFound "no record")

def bulletin (ring : RingPayload) : Bulletin where
  chainId := "chain"
  ring ringId := if ringId = "ring" then .ok ring else .error (.notFound "no ring")
  nodeInfo := nodeInfo

def context (ring : RingPayload) : ReportValidationContext where
  localNodeKey := "c"
  requesterPeerHex := some (peer 'b')
  localPeerHex := peer 'c'
  bulletin := bulletin ring
  routesVersion := 0
  now := 1000

theorem reviews {ring : RingPayload} {requestId : String} (hid : requestId ≠ "")
    (hpk : ring.ringPk ≠ "") (hthreshold : ring.threshold = 2)
    (hupgrade : ring.upgradeInfo = ⟨0, none, none⟩)
    (hkeys : ring.peerNodeKeys.Perm ["a", "b", "c"]) :
    Reviews (context ring) ring "b" ⟨"ring", "a", peer 'a', 990, requestId⟩ where
  ring_eq := rfl
  finalized := hpk
  threshold := hthreshold.ge
  enough := by
    rw [hthreshold, hkeys.length_eq]
    decide
  accused_mem := hkeys.mem_iff.mpr (show "a" ∈ ["a", "b", "c"] by decide)
  reporter_mem := hkeys.mem_iff.mpr (by decide)
  reporter_ne := show "b" ≠ "a" by decide
  signer_mem := hkeys.mem_iff.mpr (show "c" ∈ ["a", "b", "c"] by decide)
  signer_ne := show "c" ≠ "a" by decide
  accusedRoute := rfl
  reporterRoute := ⟨⟨peer 'b'⟩, rfl, show extractNodePart (peer 'b') = peer 'b' by decide +kernel⟩
  named := by
    have hpeer : peer 'a' ≠ "" := by decide
    show ∀ name ∈ ["chain", "ring", "b", "a", peer 'a', requestId], name ≠ ""
    simp [hpeer, hid]
  version := by
    rw [hupgrade]
    rfl
  begun := show (990 : UInt64) ≤ 1000 by decide
  alive := show (1000 : UInt64).toNat ≤ (990 : UInt64).toNat + reportTtlSecs by decide
  bounded := show (990 : UInt64).toNat + reportTtlSecs < 2 ^ 64 by decide

def attemptId : AttemptId := Bytes32.repeated 0

section

variable [Sha256]

def envelope (ring : RingPayload) : ReportEnvelope where
  domain := reportDomain
  reportType := invalidCryptoResponseReportType
  chainId := "chain"
  ringId := "ring"
  ringPk := "pk"
  ringStateSha256 := ringStateSha256 ring
  reporterNodeKey := "b"
  accusedNodeKey := "a"
  accusedPeerId := peer 'a'
  observedAt := 990
  expiresAt := 1110
  sessionId := "7"

/-- About a message that was signed in the same second. -/
def statement (ring : RingPayload) (faultKind : DkgControlMessageFaultKind)
    (messageKind : String) (artifactA : ControlMessageArtifact) :
    DkgControlMessageFaultStatement where
  domain := dkgControlMessageFaultDomain
  chainId := "chain"
  ringId := "ring"
  ringPk := "pk"
  ringStateSha256 := ringStateSha256 ring
  protocolVersion := 0
  requestId := "7"
  signedAt := 1000
  responderNodeKey := "a"
  originProtocol := "pss_refresh"
  accusedCommitteeScope := .current
  signingCommitteeScope := .current
  attemptId := attemptId
  messageKind := messageKind
  faultKind := faultKind
  artifactA := artifactA
  artifactB := none

end

end Trio

end Orbis.Node.Reporting
