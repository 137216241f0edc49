import Orbis.Node.Bulletin
import Orbis.Node.Identity
import Orbis.Node.Transport.Wire

/-!
# Validation of fault reports

A report accuses a node; the members of the signing committee validate it, each against the
bulletin as it reads it, before they sign.  Here is what every report about a faulty response has
in common: the envelope, the statement's binding to it, the ring and the membership, and the
routes of the nodes.
-/

namespace Orbis.Node.Reporting

open Orbis.Crypto Orbis.Data

inductive ReportingError where
  | invalidReport (message : String)
  | unauthorized (message : String)
  | targetReachable
  | healthProbeInconclusive
  | expired
  | unsupportedReportType (name : String)
  | bulletin (message : String)
  | signing (message : String)
  | serialization (message : String)
  | capacityReached
deriving DecidableEq

inductive CommitteeScope where
  | current
  | pendingNew
deriving DecidableEq

def CommitteeScope.tag : CommitteeScope → UInt8
  | current => 1
  | pendingNew => 2

/-! ## The bulletin, as a validator reads it -/

/-- Only the route of a node's record is read. -/
structure NodeInfo where
  peerId : String
deriving DecidableEq

inductive ReadError where
  | notFound (message : String)
  | malformed (message : String)
deriving DecidableEq

def ReadError.toReportingError : ReadError → ReportingError
  | notFound message => .bulletin message
  | malformed message => .invalidReport message

structure Bulletin where
  chainId : String
  ring : String → Except ReadError RingPayload
  nodeInfo : String → Except ReadError NodeInfo

def effectiveVersion (info : UpgradeInfo) (currentTime : UInt64) : Except String UInt64 :=
  match info.nextVersion, info.activationTime with
  | none, none => .ok info.currentVersion
  | some nextVersion, some activationTime => do
      let currentVersion := info.currentVersion
      require (currentVersion < nextVersion)
        s!"next_version {nextVersion} must be greater than current_version {currentVersion}"
      require (activationTime ≠ 0) "activation_time must be positive"
      pure (if activationTime ≤ currentTime then nextVersion else currentVersion)
  | _, _ => .error "next_version and activation_time must both be set or both be absent"

/-! ## Routes -/

/-- What the standard library trims. -/
def isWhitespace (c : Char) : Bool :=
  let n := c.toNat
  (9 ≤ n && n ≤ 13) || n = 0x20 || n = 0x85 || n = 0xA0 || n = 0x1680 ||
    (0x2000 ≤ n && n ≤ 0x200A) || n = 0x2028 || n = 0x2029 || n = 0x202F || n = 0x205F ||
    n = 0x3000

def trim (text : String) : String :=
  String.ofList ((text.toList.dropWhile isWhitespace).rdropWhile isWhitespace)

/-- Which texts after the `@` are addresses: `ip:port` or `hostname:port`. -/
class AddressSyntax where
  isValidAddress : String → Bool

namespace Plain

scoped instance : AddressSyntax := ⟨fun _ => false⟩

end Plain

def maxPeerIdLength : ℕ := 256

def expectedHexNodeIdLength : ℕ := 64

/-- The part after the first `@`, if there is one. -/
def addressPart (peerId : String) : Option String :=
  match peerId.toList.dropWhile (· ≠ '@') with
  | [] => none
  | _ :: address => some (String.ofList address)

section

variable [AddressSyntax]

def validatePeerId (peerId : String) : Except String Unit := do
  let length := (utf8Bytes peerId).length
  require (peerId ≠ "") "Peer ID cannot be empty"
  require (length ≤ maxPeerIdLength)
    s!"Peer ID too long: {length} bytes, maximum is {maxPeerIdLength}"
  let nodeId := extractNodePart peerId
  let nodeIdLength := (utf8Bytes nodeId).length
  require (nodeIdLength = expectedHexNodeIdLength)
    s!"Invalid node ID length: {nodeIdLength} chars, expected {expectedHexNodeIdLength}"
  let shown := String.ofList (nodeId.toList.take 20)
  require (nodeId.toList.all fun c => (hexValue c).isSome)
    ("Node ID contains invalid characters: Node ID must contain only hexadecimal characters " ++
      "(0-9, a-f, A-F), got: " ++ shown)
  match addressPart peerId with
  | none => pure ()
  | some address => do
      require (address ≠ "") "Invalid peer ID format: Socket address after '@' cannot be empty"
      require (AddressSyntax.isValidAddress address)
        ("Invalid socket address in peer ID: Cannot parse '" ++ address ++
          "' as a valid address (expected ip:port or hostname:port)")

def canonicalizePeerId (peerId : String) : Except String String := do
  validatePeerId peerId
  let nodeId := lowercase (extractNodePart peerId)
  match addressPart peerId with
  | some address => pure (nodeId ++ "@" ++ address)
  | none => pure nodeId

structure NodeRoute where
  nodeKey : String
  peerId : String
deriving DecidableEq

def resolveNodeRoute (bulletin : Bulletin) (nodeKey : String) : Except String NodeRoute := do
  let info ← (bulletin.nodeInfo nodeKey).mapError fun
    | .notFound e => s!"NodeInfo for node {nodeKey} not found: {e}"
    | .malformed e => s!"NodeInfo for node {nodeKey} is malformed: {e}"
  let peerId := trim info.peerId
  require (peerId ≠ "") s!"NodeInfo for node {nodeKey} has an empty peer_id"
  let peerId ← (canonicalizePeerId peerId).mapError fun e =>
    s!"NodeInfo for node {nodeKey} has invalid peer_id: {e}"
  pure ⟨nodeKey, peerId⟩

/-- The loop of `resolve_node_routes`; `routes` are those resolved before. -/
def resolveNodeRoutesFrom (bulletin : Bulletin) :
    List NodeRoute → List String → Except String (List NodeRoute)
  | routes, [] => .ok routes
  | routes, nodeKey :: nodeKeys => do
      require (trim nodeKey ≠ "") "peer_node_keys contains an empty node key"
      require (nodeKey ∉ routes.map NodeRoute.nodeKey) s!"duplicate peer_node_key: {nodeKey}"
      let route ← resolveNodeRoute bulletin nodeKey
      let peerPart := extractNodePart route.peerId
      require (peerPart ∉ routes.map fun route => extractNodePart route.peerId)
        ("duplicate resolved peer_id node part for peer_node_key " ++ nodeKey ++ ": " ++ peerPart)
      resolveNodeRoutesFrom bulletin (routes ++ [route]) nodeKeys

def resolveNodeRoutes (bulletin : Bulletin) (peerNodeKeys : List String) :
    Except String (List NodeRoute) :=
  resolveNodeRoutesFrom bulletin [] peerNodeKeys

end

/-! ## The envelope -/

def reportDomain : String := "orbis-mpc-fault-report"

def invalidCryptoResponseReportType : String := "invalid_crypto_response"

def reportTtlSecs : ℕ := 120

def chainBlockGraceSecs : ℕ := 10

/-- The evidence, which the envelope carries in a canonical encoding, is passed beside it. -/
structure ReportEnvelope where
  domain : String
  reportType : String
  chainId : String
  ringId : String
  ringPk : String
  ringStateSha256 : String
  reporterNodeKey : String
  accusedNodeKey : String
  accusedPeerId : String
  observedAt : UInt64
  expiresAt : UInt64
  sessionId : String
deriving DecidableEq

namespace ReportEnvelope

variable (envelope : ReportEnvelope)

def requiredFields : List (String × String) :=
  [("report_type", envelope.reportType), ("chain_id", envelope.chainId),
    ("ring_id", envelope.ringId), ("ring_pk", envelope.ringPk),
    ("ring_state_sha256", envelope.ringStateSha256),
    ("reporter_node_key", envelope.reporterNodeKey),
    ("accused_node_key", envelope.accusedNodeKey), ("accused_peer_id", envelope.accusedPeerId),
    ("session_id", envelope.sessionId)]

def validateShape (now : UInt64) : Except ReportingError Unit := do
  require (envelope.domain = reportDomain)
    (.invalidReport ("unexpected domain " ++ envelope.domain))
  require (envelope.observedAt ≤ now) (.invalidReport "observed_at cannot be in the future")
  require (envelope.observedAt ≤ envelope.expiresAt ∧
      envelope.expiresAt.toNat - envelope.observedAt.toNat = reportTtlSecs)
    (.invalidReport "invalid report validity window")
  require (now ≤ envelope.expiresAt) .expired
  envelope.requiredFields.forM fun (label, value) =>
    require (value ≠ "") (.invalidReport s!"{label} cannot be empty")
  require (envelope.reporterNodeKey ≠ envelope.accusedNodeKey)
    (.invalidReport "reporter and accused node must differ")

end ReportEnvelope

/-- The peer of the connection a report came on, if it is another node's, and the local one are
given by their hexadecimal texts. -/
structure ReportValidationContext where
  localNodeKey : String
  requesterPeerHex : Option String
  localPeerHex : String
  bulletin : Bulletin
  routesVersion : UInt64
  now : UInt64

/-! ## Ring and membership -/

structure CommitteeView where
  peerNodeKeys : List String
  threshold : ℕ
deriving DecidableEq

def committeeForScope (ring : RingPayload) :
    CommitteeScope → Except ReportingError CommitteeView
  | .current => .ok ⟨ring.peerNodeKeys, ring.threshold⟩
  | .pendingNew => do
      require (¬(ring.newPeerNodeKeys.isNone ∧ ring.newThreshold.isNone))
        (.unauthorized "pending-new committee scope requires a pending reshare")
      pure ⟨ring.newPeerNodeKeys.getD ring.peerNodeKeys, ring.newThreshold.getD ring.threshold⟩

def validateReportRouteVersionAtObservedAt (envelope : ReportEnvelope) (ring : RingPayload)
    (routeVersion : UInt64) : Except ReportingError UInt64 := do
  let effective ← (effectiveVersion ring.upgradeInfo envelope.observedAt).mapError .invalidReport
  let ringId := envelope.ringId
  require (effective = routeVersion)
    (.unauthorized s!"report protocol version {routeVersion} is not effective for ring {ringId}")
  pure effective

def validateRingAndMembershipForScopes [Sha256] (envelope : ReportEnvelope) (ring : RingPayload)
    (accusedCommitteeScope signingCommitteeScope : CommitteeScope) (reportLabel : String) :
    Except ReportingError CommitteeView := do
  require (ring.ringPk ≠ "") (.unauthorized s!"{reportLabel} reports require a finalized ring")
  require (ring.ringPk = envelope.ringPk) (.unauthorized "report ring public key is stale")
  require (ringStateSha256 ring = envelope.ringStateSha256)
    (.unauthorized "report ring-state digest is stale")
  let accusedCommittee ← committeeForScope ring accusedCommitteeScope
  let signingCommittee ← committeeForScope ring signingCommitteeScope
  require (2 ≤ signingCommittee.threshold)
    (.unauthorized s!"{reportLabel} reporting requires ring threshold >= 2")
  require (signingCommittee.threshold ≤ signingCommittee.peerNodeKeys.length)
    (.unauthorized s!"{reportLabel} reporting threshold exceeds signing committee size")
  require (¬(envelope.accusedNodeKey ∈ signingCommittee.peerNodeKeys ∧
      signingCommittee.peerNodeKeys.length - 1 < signingCommittee.threshold))
    (.unauthorized "ring threshold cannot be met while excluding the accused node")
  let reporter := envelope.reporterNodeKey
  require (reporter ∈ signingCommittee.peerNodeKeys)
    (.unauthorized s!"reporter node {reporter} is not in the signing committee")
  let accused := envelope.accusedNodeKey
  require (accused ∈ accusedCommittee.peerNodeKeys)
    (.unauthorized s!"accused node {accused} is not in the accused committee")
  pure signingCommittee

def validateNodeRoutes (envelope : ReportEnvelope) (context : ReportValidationContext) :
    Except ReportingError Unit := do
  let accused ← (context.bulletin.nodeInfo envelope.accusedNodeKey).mapError
    ReadError.toReportingError
  require (accused.peerId = envelope.accusedPeerId)
    (.unauthorized "accused peer ID no longer matches NodeInfo")
  let reporter ← (context.bulletin.nodeInfo envelope.reporterNodeKey).mapError
    ReadError.toReportingError
  require (extractNodePart reporter.peerId =
      context.requesterPeerHex.getD context.localPeerHex)
    (.unauthorized "report coordinator peer does not match reporter NodeInfo")

def validateLocalSigner (envelope : ReportEnvelope) (context : ReportValidationContext)
    (signingCommittee : CommitteeView) (reportLabel : String) : Except ReportingError Unit := do
  require (context.localNodeKey ≠ envelope.accusedNodeKey)
    (.unauthorized s!"the accused node cannot sign its own {reportLabel} report")
  require (context.localNodeKey ∈ signingCommittee.peerNodeKeys)
    (.unauthorized s!"local signer is not in the {reportLabel} report ring")

/-! ## The statement's binding -/

structure InvalidCryptoStatementPrologue where
  label : String
  domain : String
  expectedDomain : String
  chainId : String
  ringId : String
  ringPk : String
  ringStateSha256 : String
  requestId : String
  signedAt : UInt64
  responderNodeKey : String
  checkAnchor : Bool

/-- The envelope's window starts a fixed time before the evidence was signed. -/
def validateEvidenceAnchor (signedAt observedAt : UInt64) : Except ReportingError Unit :=
  require (chainBlockGraceSecs ≤ signedAt.toNat ∧
      observedAt.toNat = signedAt.toNat - chainBlockGraceSecs)
    (.unauthorized "report envelope is not anchored to the evidence timestamp")

def validateInvalidCryptoStatementPrologue (envelope : ReportEnvelope)
    (context : ReportValidationContext) (statement : InvalidCryptoStatementPrologue) :
    Except ReportingError Unit := do
  let label := statement.label
  let domain := statement.domain
  require (domain = statement.expectedDomain)
    (.invalidReport s!"unexpected {label} domain {domain}")
  require (statement.chainId = envelope.chainId ∧ envelope.chainId = context.bulletin.chainId)
    (.unauthorized s!"{label} chain ID does not match report chain ID")
  require (statement.ringId = envelope.ringId ∧ statement.ringPk = envelope.ringPk ∧
      statement.ringStateSha256 = envelope.ringStateSha256)
    (.unauthorized s!"{label} ring binding does not match report envelope")
  require (statement.requestId = envelope.sessionId)
    (.unauthorized s!"{label} request_id does not match report session_id")
  (if statement.checkAnchor then
    validateEvidenceAnchor statement.signedAt envelope.observedAt
  else .ok ())
  require (statement.responderNodeKey = envelope.accusedNodeKey)
    (.unauthorized s!"{label} responder does not match accused node")

def isValidInvalidCryptoDkgOrigin (originProtocol : String) : Bool :=
  originProtocol = "pss_refresh" || originProtocol = "pss_reshare"

/-- `ReportRegistry::validate` of an envelope that carries evidence of a faulty response;
`validateEvidence` is the validation of that kind of evidence against the ring. -/
def validateReport (envelope : ReportEnvelope) (context : ReportValidationContext)
    (validateEvidence : RingPayload → Except ReportingError Unit) :
    Except ReportingError Unit := do
  envelope.validateShape context.now
  require (envelope.reportType = invalidCryptoResponseReportType)
    (.unsupportedReportType envelope.reportType)
  let ring ← (context.bulletin.ring envelope.ringId).mapError ReadError.toReportingError
  validateEvidence ring

/-- `str::parse::<u128>`: decimal digits, perhaps after a plus sign. -/
def parseU128 (text : String) : Option Transport.CeremonyId :=
  let digits := match text.toList with
    | '+' :: rest => rest
    | chars => chars
  if digits ≠ [] ∧ digits.all Char.isDigit then
    let value := digits.foldl (fun acc c => 10 * acc + (c.toNat - 48)) 0
    if value < 2 ^ 128 then some (BitVec.ofNat 128 value) else none
  else none

theorem validateReport_eq_ok {envelope : ReportEnvelope} {context : ReportValidationContext}
    {validateEvidence : RingPayload → Except ReportingError Unit} :
    validateReport envelope context validateEvidence = .ok () ↔
      envelope.validateShape context.now = .ok () ∧
        envelope.reportType = invalidCryptoResponseReportType ∧
        ∃ ring, context.bulletin.ring envelope.ringId = .ok ring ∧
          validateEvidence ring = .ok () := by
  unfold validateReport
  simp only [bind_eq_ok, require_eq_ok, mapError_eq_ok]
  constructor
  · rintro ⟨_, hshape, _, htype, h⟩
    exact ⟨hshape, htype, h⟩
  · rintro ⟨hshape, htype, h⟩
    exact ⟨_, hshape, (), htype, h⟩

theorem evidence_of_validateReport {envelope : ReportEnvelope} {context : ReportValidationContext}
    {validateEvidence : RingPayload → Except ReportingError Unit}
    (h : validateReport envelope context validateEvidence = .ok ()) :
    ∃ ring, context.bulletin.ring envelope.ringId = .ok ring ∧ validateEvidence ring = .ok () :=
  (validateReport_eq_ok.mp h).2.2

end Orbis.Node.Reporting
