import Orbis.Node.Reporting.ControlMessage
import Orbis.Node.Reporting.InlineDocument

/-!
# Reports about relayed requests

A node that relays a request signs a statement that it has checked the caller's access itself.
If a member finds the access denied it reports the relayer, and the others repeat the check at an
anchor of the policy's history that the reporter names, a short time before or after the
statement was signed.
-/

namespace Orbis.Node.Reporting

open Orbis.Crypto Orbis.Data Orbis.Node.Transport
open Orbis.Node.Sign (KeyDerivation)

/-! ## Access checks -/

structure ValidWindow where
  start : UInt64
  stop : UInt64
deriving DecidableEq

structure AccessCheckRequest where
  policyId : String
  resource : String
  objectId : String
  permission : String
  tier : Option String
  timestamp : Option UInt64
  validWindow : Option ValidWindow
deriving DecidableEq

/-- The chain on which policies are kept: the time of every block, and the verdict of a policy as
of a block. -/
structure PolicyHistory where
  blockTime : ℕ → Except String UInt64
  acpVerifyAccess : (height : ℕ) → (policyId resource objectId permission actorId : String) →
    Except String Bool

def parseU64 (text : String) : Option ℕ :=
  let digits := match text.toList with
    | '+' :: rest => rest
    | chars => chars
  if digits ≠ [] ∧ digits.all Char.isDigit then
    let value := digits.foldl (fun acc c => 10 * acc + (c.toNat - 48)) 0
    if value < 2 ^ 64 then some value else none
  else none

/-- An anchor is the text of a block height. -/
def parseAnchorHeight (anchor : String) : Except String ℕ := do
  let height ← okOr (parseU64 anchor)
    ("Invalid request: invalid block-height anchor " ++ anchor)
  require (height ≠ 0) "Invalid request: block-height anchor must be greater than zero"
  pure height

namespace PolicyHistory

variable (policies : PolicyHistory)

/-- The window is compared with the timestamp of the request, not with the block's. -/
def verifyAt (height : ℕ) (request : AccessCheckRequest) (subject : String) :
    Except String Bool :=
  let verdict := policies.acpVerifyAccess height request.policyId request.resource
    request.objectId request.permission subject
  match request.validWindow, request.timestamp with
  | some window, some timestamp =>
    if timestamp < window.start ∨ window.stop < timestamp then .ok false else verdict
  | some _, none =>
    .error "Invalid request: valid_window provided but timestamp is missing"
  | none, some _ =>
    .error "Invalid request: timestamp provided but valid_window is missing"
  | none, none => verdict

def checkAt (request : AccessCheckRequest) (subject anchor : String) : Except String Bool := do
  let height ← parseAnchorHeight anchor
  policies.verifyAt height request subject

def anchorTime (anchor : String) : Except String UInt64 := do
  let height ← parseAnchorHeight anchor
  policies.blockTime height

end PolicyHistory

def absDiff (a b : UInt64) : ℕ := (a.toNat - b.toNat) + (b.toNat - a.toNat)

def relayCheckMaxDriftSecs : ℕ := 30

/-! ## The relayer's statement -/

def relayRequestDomain : String := "orbis-relay-request-v1"

def unauthorizedRequestReportType : String := "unauthorized_request"

structure RelayRequestStatement where
  domain : String
  chainId : String
  ringId : String
  ringPk : String
  ringStateSha256 : String
  protocolVersion : UInt64
  requestId : String
  signedAt : UInt64
  userSignedAt : UInt64
  relayerNodeKey : String
  originProtocol : String
  accusedCommitteeScope : CommitteeScope
  signingCommitteeScope : CommitteeScope
  fromNodeId : ℕ
  actorId : String
  objectId : String
  validWindowStart : Option UInt64
  validWindowEnd : Option UInt64
  timestamp : Option UInt64
  documentInline : Bool
deriving DecidableEq

namespace RelayRequestStatement

variable (statement : RelayRequestStatement)

def canonicalBytes : Bytes :=
  putStr statement.domain ++ putStr statement.chainId ++ putStr statement.ringId ++
    putStr statement.ringPk ++ putStr statement.ringStateSha256 ++
    putU64 statement.protocolVersion ++ putStr statement.requestId ++ putU64 statement.signedAt ++
    putU64 statement.userSignedAt ++ putStr statement.relayerNodeKey ++
    putStr statement.originProtocol ++ [statement.accusedCommitteeScope.tag] ++
    [statement.signingCommitteeScope.tag] ++ putU32 statement.fromNodeId ++
    putStr statement.actorId ++ putStr statement.objectId ++
    putOpt putU64 statement.validWindowStart ++ putOpt putU64 statement.validWindowEnd ++
    putOpt putU64 statement.timestamp ++ putBool statement.documentInline

def prologue : InvalidCryptoStatementPrologue where
  label := "relay request"
  domain := statement.domain
  expectedDomain := relayRequestDomain
  chainId := statement.chainId
  ringId := statement.ringId
  ringPk := statement.ringPk
  ringStateSha256 := statement.ringStateSha256
  requestId := statement.requestId
  signedAt := statement.signedAt
  responderNodeKey := statement.relayerNodeKey
  checkAnchor := true

end RelayRequestStatement

structure UnauthorizedRequestPayload where
  statement : RelayRequestStatement
  relaySignature : Bytes
  checkedAtAnchor : String

structure RelayStatementInputs where
  ring : RingPayload
  ringId : String
  protocolVersion : UInt64
  chainId : String
  requestId : String
  originProtocol : String
  relayerNodeKey : String
  actorId : String
  objectId : String
  userSignedAt : UInt64
  acpTimestamp : Option UInt64
  validWindow : Option ValidWindow
  documentInline : Bool

/-- `build_signed_relay_statement`, without the signature. -/
def buildRelayStatement [Sha256] (inputs : RelayStatementInputs) (signedAt : UInt64) :
    Except ReportingError RelayRequestStatement := do
  let relayer := inputs.relayerNodeKey
  let ringId := inputs.ringId
  let fromNodeId ← okOr (determineSessionNodeId relayer inputs.ring.peerNodeKeys)
    (.invalidReport ("relayer node key " ++ relayer ++ " is not in ring " ++ ringId ++
      "; cannot build relay request evidence"))
  pure
    { domain := relayRequestDomain
      chainId := inputs.chainId
      ringId := ringId
      ringPk := inputs.ring.ringPk
      ringStateSha256 := ringStateSha256 inputs.ring
      protocolVersion := inputs.protocolVersion
      requestId := inputs.requestId
      signedAt := signedAt
      userSignedAt := inputs.userSignedAt
      relayerNodeKey := relayer
      originProtocol := inputs.originProtocol
      accusedCommitteeScope := .current
      signingCommitteeScope := .current
      fromNodeId := fromNodeId
      actorId := inputs.actorId
      objectId := inputs.objectId
      validWindowStart := inputs.validWindow.map ValidWindow.start
      validWindowEnd := inputs.validWindow.map ValidWindow.stop
      timestamp := inputs.acpTimestamp
      documentInline := inputs.documentInline }

/-! ## Validation -/

/-- The policies are read as of a block, the documents and key derivations as they are on the
bulletin at validation. -/
structure RelayValidationContext extends ResponseValidationContext where
  keyDerivations : String → Except ReadError KeyDerivation
  policies : PolicyHistory

def validateRelayRequestStatementShape (envelope : ReportEnvelope)
    (context : ReportValidationContext) (statement : RelayRequestStatement) :
    Except ReportingError Unit := do
  validateInvalidCryptoStatementPrologue envelope context statement.prologue
  let origin := statement.originProtocol
  require (origin = "pre" ∨ origin = "sign")
    (.invalidReport s!"unsupported relay request origin protocol {origin}")
  require (statement.accusedCommitteeScope = .current ∧ statement.signingCommitteeScope = .current)
    (.unauthorized "relay request reports must use current accused and signing scopes")
  require (statement.fromNodeId ≠ 0)
    (.invalidReport "relay request from_node_id must be non-zero")
  require (trim statement.actorId ≠ "")
    (.invalidReport "relay request actor_id cannot be empty")
  require (trim statement.objectId ≠ "")
    (.invalidReport "relay request object_id cannot be empty")
  require (statement.validWindowStart.isSome = statement.validWindowEnd.isSome)
    (.invalidReport "relay request valid_window bounds must both be present or both absent")
  let signedAt := statement.signedAt
  let userSignedAt := statement.userSignedAt
  require (absDiff signedAt userSignedAt ≤ relayCheckMaxDriftSecs)
    (.invalidReport ("relay request signed_at " ++ toString signedAt ++
      " drifts from caller signed_at " ++ toString userSignedAt ++ " by more than " ++
      toString relayCheckMaxDriftSecs ++ "s"))

def relayValidWindow (statement : RelayRequestStatement) :
    Except ReportingError (Option ValidWindow) :=
  match statement.validWindowStart, statement.validWindowEnd with
  | some start, some stop => .ok (some ⟨start, stop⟩)
  | none, none => .ok none
  | _, _ =>
    .error
      (.invalidReport "relay request valid_window bounds must both be present or both absent")

section

variable [Sha256] [Json Pre.Secret] [Json Pre.EncryptionProof] [Json PetTag]
  [Json TagKnowledgeProof]

/-- The access request of the relayed request, from the document or key derivation it names. -/
def relayAccessRequest (context : RelayValidationContext) (statement : RelayRequestStatement)
    (validWindow : Option ValidWindow) : Except ReportingError AccessCheckRequest :=
  let origin := statement.originProtocol
  if origin = "pre" then
    if statement.documentInline then do
      let evidence ← requireInlineDocumentEvidence context.toResponseValidationContext
        statement.ringId statement.objectId statement.timestamp
      pure ⟨evidence.policyId, evidence.resource, statement.objectId, evidence.permission,
        evidence.tier, statement.timestamp, validWindow⟩
    else do
      rejectUnexpectedInlineDocumentEvidence context.toResponseValidationContext
      let document ← (context.documents statement.objectId).mapError ReadError.toReportingError
      pure ⟨document.policyId, document.resource, statement.objectId, document.permission,
        document.tier, document.timestamp, validWindow⟩
  else if origin = "sign" then do
    let derivation ← (context.keyDerivations statement.objectId).mapError
      ReadError.toReportingError
    pure ⟨derivation.policyId, derivation.resource, statement.objectId, derivation.permission,
      none, statement.timestamp, validWindow⟩
  else .error (.invalidReport s!"unsupported relay request origin protocol {origin}")

def requireRelayedRequestUnauthorized (context : RelayValidationContext)
    (statement : RelayRequestStatement) (checkedAtAnchor : String) :
    Except ReportingError Unit := do
  let anchorTime ← (context.policies.anchorTime checkedAtAnchor).mapError .bulletin
  let signedAt := statement.signedAt
  require (absDiff anchorTime signedAt ≤ relayCheckMaxDriftSecs)
    (.invalidReport ("relay request anchor time " ++ toString anchorTime ++
      " drifts from signed_at " ++ toString signedAt ++ " by more than " ++
      toString relayCheckMaxDriftSecs ++ "s"))
  let validWindow ← relayValidWindow statement
  let request ← relayAccessRequest context statement validWindow
  let authorized ← (context.policies.checkAt request statement.actorId checkedAtAnchor).mapError
    .bulletin
  require (¬authorized)
    (.unauthorized "relayed request was authorized at the captured anchor")

/-- `ReportRegistry::validate` of an envelope that carries a relayer's statement. -/
def validateUnauthorizedRequest [NodeSigning]
    (envelope : ReportEnvelope) (context : RelayValidationContext)
    (payload : UnauthorizedRequestPayload) : Except ReportingError Unit := do
  let base := context.toReportValidationContext
  let statement := payload.statement
  envelope.validateShape context.now
  require (envelope.reportType = unauthorizedRequestReportType)
    (.unsupportedReportType envelope.reportType)
  validateRelayRequestStatementShape envelope base statement
  let ring ← (context.bulletin.ring envelope.ringId).mapError ReadError.toReportingError
  let effective ← validateReportRouteVersionAtObservedAt envelope ring context.routesVersion
  let claimed := statement.protocolVersion
  require (claimed = effective)
    (.unauthorized ("relay request protocol version " ++ toString claimed ++
      " does not match effective ring version " ++ toString effective))
  let signingCommittee ← validateRingAndMembershipForScopes envelope ring
    statement.accusedCommitteeScope statement.signingCommitteeScope "unauthorized-request"
  validateNodeRoutes envelope base
  validateLocalSigner envelope base signingCommittee "unauthorized-request"
  let accusedCommittee ← committeeForScope ring statement.accusedCommitteeScope
  let expected ← okOr
    (determineSessionNodeId envelope.accusedNodeKey accusedCommittee.peerNodeKeys)
    (.unauthorized "relayer is not in the accused committee node-id map")
  let fromNodeId := statement.fromNodeId
  require (fromNodeId = expected)
    (.unauthorized
      s!"relay request from_node_id {fromNodeId} does not match relayer node_id {expected}")
  (NodeSigning.verify envelope.accusedNodeKey statement.canonicalBytes
    payload.relaySignature).mapError fun error =>
      .unauthorized s!"invalid relay request signature: {error}"
  requireRelayedRequestUnauthorized context statement payload.checkedAtAnchor

/-! ## What a confirmed report proves -/

/-- The access was denied as of a block near the time at which the statement was signed. -/
theorem denied_of_unauthorized {context : RelayValidationContext}
    {statement : RelayRequestStatement} {anchor : String}
    (h : requireRelayedRequestUnauthorized context statement anchor = .ok ()) :
    ∃ height time validWindow request, context.policies.blockTime height = .ok time ∧
      absDiff time statement.signedAt ≤ relayCheckMaxDriftSecs ∧
      relayValidWindow statement = .ok validWindow ∧
      relayAccessRequest context statement validWindow = .ok request ∧
      context.policies.verifyAt height request statement.actorId = .ok false := by
  unfold requireRelayedRequestUnauthorized at h
  obtain ⟨time, htime, h⟩ := bind_eq_ok.mp h
  obtain ⟨_, hdrift, h⟩ := bind_eq_ok.mp h
  obtain ⟨validWindow, hwindow, h⟩ := bind_eq_ok.mp h
  obtain ⟨request, hrequest, h⟩ := bind_eq_ok.mp h
  obtain ⟨authorized, hcheck, h⟩ := bind_eq_ok.mp h
  have htime' := mapError_eq_ok.mp htime
  have hcheck' := mapError_eq_ok.mp hcheck
  unfold PolicyHistory.anchorTime at htime'
  unfold PolicyHistory.checkAt at hcheck'
  obtain ⟨height, hheight, htime'⟩ := bind_eq_ok.mp htime'
  rw [hheight, ok_bind] at hcheck'
  have hdenied : authorized = false := Bool.eq_false_iff.mpr (require_eq_ok.mp h)
  rw [hdenied] at hcheck'
  exact ⟨height, time, validWindow, request, htime', require_eq_ok.mp hdrift, hwindow, hrequest,
    hcheck'⟩

/-! ## Honest relayers -/

inductive RelaySource where
  | pre (document : DocumentPayload)
  | sign (derivation : KeyDerivation)

namespace RelaySource

def accessRequest (inputs : RelayStatementInputs) : RelaySource → AccessCheckRequest
  | pre document => ⟨document.policyId, document.resource, inputs.objectId, document.permission,
      document.tier, document.timestamp, inputs.validWindow⟩
  | sign derivation => ⟨derivation.policyId, derivation.resource, inputs.objectId,
      derivation.permission, none, inputs.acpTimestamp, inputs.validWindow⟩

/-- The request that the services of the two protocols relay: a document that came with the request
under its identifier, a posted one, or a posted key derivation. -/
def Describes (posted : String → Option DocumentPayload)
    (derivations : String → Option KeyDerivation) (inputs : RelayStatementInputs) :
    RelaySource → Prop
  | pre document =>
    inputs.originProtocol = "pre" ∧ inputs.ringId = document.ringId ∧
      inputs.acpTimestamp = document.timestamp ∧
      if inputs.documentInline then generateDocumentId document = .ok inputs.objectId
      else posted inputs.objectId = some document
  | sign derivation =>
    inputs.originProtocol = "sign" ∧ inputs.documentInline = false ∧
      derivations inputs.objectId = some derivation

/-- The bytes whose hash is the identifier of a document that came with the request. -/
def Hashes (hashed : Set Bytes) : RelaySource → Prop
  | pre document => ∀ bytes, documentIdBytes document = .ok bytes →
      bytes ∈ hashed ∧ bytes.length < 2 ^ 32
  | sign _ => True

end RelaySource

/-- A statement that a relayer signed after its own access check, as of block `checkedAt`, allowed
the request. -/
structure HonestRelay (policies : PolicyHistory) (posted : String → Option DocumentPayload)
    (derivations : String → Option KeyDerivation) (statement : RelayRequestStatement) where
  source : RelaySource
  inputs : RelayStatementInputs
  checkedAt : ℕ
  described : source.Describes posted derivations inputs
  allowed : policies.verifyAt checkedAt (source.accessRequest inputs) inputs.actorId = .ok true
  built : buildRelayStatement inputs statement.signedAt = .ok statement

/-- What the validator reads is what the relayer read: documents and key derivations on the
bulletin do not change, and the document that came with the report does not collide with the
relayer's. -/
structure RelaySourcesFixed (hashed : Set Bytes) (posted : String → Option DocumentPayload)
    (derivations : String → Option KeyDerivation) (context : RelayValidationContext)
    (statement : RelayRequestStatement) : Prop where
  collisionFree : Set.InjOn sha256 hashed
  inline_mem : ∀ document ∈ context.inlineDocument, ∀ bytes,
    documentIdBytes (document.toPayload statement.ringId statement.timestamp) = .ok bytes →
      bytes ∈ hashed
  posted_eq : ∀ id document document', posted id = some document →
    context.documents id = .ok document' → document' = document
  derivation_eq : ∀ id derivation derivation', derivations id = some derivation →
    context.keyDerivations id = .ok derivation' → derivation' = derivation

section

variable {policies : PolicyHistory} {posted : String → Option DocumentPayload}
  {derivations : String → Option KeyDerivation} {statement : RelayRequestStatement}
  {hashed : Set Bytes} {context : RelayValidationContext}

omit [Json Pre.Secret] [Json Pre.EncryptionProof] [Json PetTag] [Json TagKnowledgeProof] in
/-- The fields of the statement that an access check reads. -/
theorem buildRelayStatement_eq_ok {inputs : RelayStatementInputs} {signedAt : UInt64}
    (h : buildRelayStatement inputs signedAt = .ok statement) :
    statement.ringId = inputs.ringId ∧ statement.originProtocol = inputs.originProtocol ∧
      statement.actorId = inputs.actorId ∧ statement.objectId = inputs.objectId ∧
      statement.timestamp = inputs.acpTimestamp ∧
      statement.documentInline = inputs.documentInline ∧
      relayValidWindow statement = .ok inputs.validWindow := by
  unfold buildRelayStatement at h
  obtain ⟨fromNodeId, -, h⟩ := bind_eq_ok.mp h
  rw [← Except.ok.inj h]
  refine ⟨rfl, rfl, rfl, rfl, rfl, rfl, ?_⟩
  unfold relayValidWindow
  cases inputs.validWindow with
  | none | some window => rfl

/-- The validator checks the access that the relayer checked. -/
theorem HonestRelay.accessRequest_eq (relay : HonestRelay policies posted derivations statement)
    (hhashes : relay.source.Hashes hashed)
    (hfixed : RelaySourcesFixed hashed posted derivations context statement)
    {validWindow : Option ValidWindow} {request : AccessCheckRequest}
    (hwindow : relayValidWindow statement = .ok validWindow)
    (hrequest : relayAccessRequest context statement validWindow = .ok request) :
    request = relay.source.accessRequest relay.inputs := by
  obtain ⟨hring, horigin, -, hobject, htimestamp, hinline, hwindow'⟩ :=
    buildRelayStatement_eq_ok relay.built
  obtain rfl : relay.inputs.validWindow = validWindow :=
    Except.ok.inj (hwindow'.symm.trans hwindow)
  have hdescribed := relay.described
  unfold relayAccessRequest at hrequest
  cases hsource : relay.source with
  | pre document =>
    rw [hsource] at hdescribed hhashes
    obtain ⟨hpre, hringId, hacp, hdocument⟩ := hdescribed
    rw [horigin, hpre, if_pos rfl] at hrequest
    rw [← hinline] at hdocument
    split_ifs at hrequest hdocument with hflag
    · obtain ⟨evidence, hevidence, hrequest⟩ := bind_eq_ok.mp hrequest
      rw [hobject] at hevidence
      obtain ⟨bytes, hbytes, hbytes'⟩ := sameBytes_of_requireInline hfixed.collisionFree
        hfixed.inline_mem (fun bytes hbytes => (hhashes bytes hbytes).1) hdocument hevidence
      obtain ⟨decoded, hdecoded, hdecoded'⟩ :=
        same_of_documentIdBytes hbytes hbytes' (hhashes bytes hbytes').2
      have hsame := samePolicy_of_decoded hdecoded hdecoded'
      cases hrequest
      simp only [RelaySource.accessRequest, AccessCheckRequest.mk.injEq, and_true]
      exact ⟨hsame.policyId, hsame.resource, hobject, hsame.permission, hsame.tier,
        hsame.timestamp⟩
    · obtain ⟨_, -, hrequest⟩ := bind_eq_ok.mp hrequest
      obtain ⟨document', hread, hrequest⟩ := bind_eq_ok.mp hrequest
      rw [hobject] at hread
      obtain rfl := hfixed.posted_eq _ _ _ hdocument (mapError_eq_ok.mp hread)
      cases hrequest
      simp only [RelaySource.accessRequest, hobject]
  | sign derivation =>
    rw [hsource] at hdescribed
    obtain ⟨hsign, -, hderivation⟩ := hdescribed
    rw [horigin, hsign, if_neg (by decide), if_pos rfl] at hrequest
    obtain ⟨derivation', hread, hrequest⟩ := bind_eq_ok.mp hrequest
    rw [hobject] at hread
    obtain rfl := hfixed.derivation_eq _ _ _ hderivation (mapError_eq_ok.mp hread)
    cases hrequest
    simp only [RelaySource.accessRequest, hobject, htimestamp]

/-- An honest relayer is not convicted if the actor that it has found allowed is not denied as of a
block within the drift of the statement. -/
theorem honest_relayer_not_convicted [NodeSigning] {envelope : ReportEnvelope}
    {payload : UnauthorizedRequestPayload}
    (relay : HonestRelay context.policies posted derivations payload.statement)
    (hhashes : relay.source.Hashes hashed)
    (hfixed : RelaySourcesFixed hashed posted derivations context payload.statement)
    (hstable : ∀ height time, context.policies.blockTime height = .ok time →
      absDiff time payload.statement.signedAt ≤ relayCheckMaxDriftSecs →
      context.policies.verifyAt height (relay.source.accessRequest relay.inputs)
        relay.inputs.actorId ≠ .ok false) :
    validateUnauthorizedRequest envelope context payload ≠ .ok () := by
  intro h
  unfold validateUnauthorizedRequest at h
  iterate 13 obtain ⟨_, -, h⟩ := bind_eq_ok.mp h
  obtain ⟨height, time, validWindow, request, htime, hdrift, hwindow, hrequest, hdenied⟩ :=
    denied_of_unauthorized h
  have hactor := (buildRelayStatement_eq_ok relay.built).2.2.1
  rw [relay.accessRequest_eq hhashes hfixed hwindow hrequest, hactor] at hdenied
  exact hstable height time htime hdrift hdenied

end

end

/-! ## A relay to evaluate with

The first member relays a sign request at block 10, is reported by the second, and the third
validates. -/

namespace Relay

open scoped ByteSum Echo

local instance : Json Pre.Secret := ⟨fun _ _ => .error "no document"⟩

local instance : Json Pre.EncryptionProof := ⟨fun _ _ => .error "no document"⟩

local instance : Json PetTag := ⟨fun _ _ => .error "no document"⟩

local instance : Json TagKnowledgeProof := ⟨fun _ _ => .error "no document"⟩

/-- The actor's access ends after block `last`. -/
def policies (last : ℕ) : PolicyHistory where
  blockTime height := .ok (if height ≤ 10 then 1000 else if height = 11 then 1005 else 2000)
  acpVerifyAccess height _ _ _ _ _ := .ok (height ≤ last)

def derivation : KeyDerivation := ⟨"derivation", "policy", "resource", "sign"⟩

def derivations (id : String) : Option KeyDerivation := if id = "key" then some derivation else none

def inputs : RelayStatementInputs where
  ring := Trio.payload
  ringId := "ring"
  protocolVersion := 0
  chainId := "chain"
  requestId := "7"
  originProtocol := "sign"
  relayerNodeKey := "a"
  actorId := "actor"
  objectId := "key"
  userSignedAt := 1000
  acpTimestamp := none
  validWindow := none
  documentInline := false

def statement : RelayRequestStatement where
  domain := relayRequestDomain
  chainId := "chain"
  ringId := "ring"
  ringPk := "pk"
  ringStateSha256 := ringStateSha256 Trio.payload
  protocolVersion := 0
  requestId := "7"
  signedAt := 1000
  userSignedAt := 1000
  relayerNodeKey := "a"
  originProtocol := "sign"
  accusedCommitteeScope := .current
  signingCommitteeScope := .current
  fromNodeId := 1
  actorId := "actor"
  objectId := "key"
  validWindowStart := none
  validWindowEnd := none
  timestamp := none
  documentInline := false

def honest (last : ℕ) (h : 10 ≤ last) :
    HonestRelay (policies last) (fun _ => none) derivations statement where
  source := .sign derivation
  inputs := inputs
  checkedAt := 10
  described := ⟨rfl, rfl, rfl⟩
  allowed := congrArg Except.ok (decide_eq_true h)
  built := by decide +kernel

def payload (anchor : String) : UnauthorizedRequestPayload := ⟨statement, utf8Bytes "a", anchor⟩

def envelope : ReportEnvelope :=
  { Trio.envelope Trio.payload with reportType := unauthorizedRequestReportType }

def context (last : ℕ) : RelayValidationContext where
  toReportValidationContext := { Trio.context Trio.payload with now := 1006 }
  documents _ := .error (.notFound "no document")
  store := ⟨∅, ∅⟩
  inlineDocument := none
  keyDerivations id := okOr (derivations id) (.notFound "no key derivation")
  policies := policies last

/-- The reporter names the same block, but the access is revoked long after the statement was
signed. -/
theorem honest_relayer_not_convicted_eleven :
    validateUnauthorizedRequest envelope (context 11) (payload "11") ≠ .ok () := by
  have hfixed : RelaySourcesFixed ∅ (fun _ => none) derivations (context 11) statement := by
    refine ⟨Set.injOn_empty _, ?_, ?_, ?_⟩
    · intro document h
      cases h
    · intro id document document' h
      cases h
    · intro id derivation derivation' h h'
      have hsame := okOr_eq_ok.mp h'
      rw [h] at hsame
      exact (Option.some.inj hsame).symm
  refine honest_relayer_not_convicted (honest 11 (by decide)) trivial hfixed ?_
  intro height time htime hdrift hdenied
  have hlate : ¬height ≤ 11 := of_decide_eq_false (Except.ok.inj hdenied)
  have htime' : time = 2000 := by
    rw [← Except.ok.inj htime, if_neg (by omega), if_neg (by omega)]
  have hnear : absDiff 2000 1000 ≤ relayCheckMaxDriftSecs := htime' ▸ hdrift
  exact absurd hnear (by decide)

/-- The access is revoked with block 11, five seconds after the statement was signed, and the
reporter names that block. -/
theorem honest_relayer_convicted :
    (policies 10).verifyAt 10 ((RelaySource.sign derivation).accessRequest inputs) "actor" =
      .ok true ∧
    buildRelayStatement inputs 1000 = .ok statement ∧
    validateUnauthorizedRequest envelope (context 10) (payload "11") = .ok () := by
  refine ⟨rfl, by decide +kernel, by decide +kernel⟩

end Relay

end Orbis.Node.Reporting
