import Orbis.Node.Reporting.Confirmation

/-!
# Reports about dealt shares

A dealer of a refresh or a reshare signs its commitment and, around it, every share it deals.  Two
reports rest on these signatures: a share that does not verify against the commitment signed with
it, and two different commitments of one attempt.
-/

namespace Orbis.Node.Reporting

open Orbis.Crypto Orbis.Data
open Orbis.Node.Transport (AttemptId)

/-! ## The statements -/

def dkgCommitmentDomain : String := "orbis-dkg-commitment-v1"

def dkgShareDomain : String := "orbis-dkg-share-v1"

def dkgBackend : String := "dkg/jubjub"

structure DkgCommitmentStatement where
  domain : String
  chainId : String
  ringId : String
  ringPk : String
  ringStateSha256 : String
  protocolVersion : UInt64
  requestId : String
  signedAt : UInt64
  responderNodeKey : String
  originProtocol : String
  accusedCommitteeScope : CommitteeScope
  signingCommitteeScope : CommitteeScope
  fromNodeId : ℕ
  commitment : Bytes
  /-- Drawn by the dealer once for an attempt. -/
  sessionNonce : Bytes
  attemptId : AttemptId
  cryptoBackend : String
deriving DecidableEq

namespace DkgCommitmentStatement

def canonicalBytes (s : DkgCommitmentStatement) : Bytes :=
  putStr s.domain ++ putStr s.chainId ++ putStr s.ringId ++ putStr s.ringPk ++
    putStr s.ringStateSha256 ++ putU64 s.protocolVersion ++ putStr s.requestId ++
    putU64 s.signedAt ++ putStr s.responderNodeKey ++ putStr s.originProtocol ++
    [s.accusedCommitteeScope.tag] ++ [s.signingCommitteeScope.tag] ++ putU32 s.fromNodeId ++
    putBytes s.commitment ++ putBytes s.sessionNonce ++ putBytes s.attemptId.val ++
    putStr s.cryptoBackend

/-- Two commitments of one dealer for one attempt under one nonce. -/
def provesEquivocationWith (self other : DkgCommitmentStatement) : Bool :=
  self.attemptId = other.attemptId && self.sessionNonce = other.sessionNonce &&
    self.fromNodeId = other.fromNodeId && self.commitment ≠ other.commitment

/-- In a report of equivocation. -/
def prologue (statement : DkgCommitmentStatement) (checkAnchor : Bool) :
    InvalidCryptoStatementPrologue where
  label := "DKG equivocation commitment"
  domain := statement.domain
  expectedDomain := dkgCommitmentDomain
  chainId := statement.chainId
  ringId := statement.ringId
  ringPk := statement.ringPk
  ringStateSha256 := statement.ringStateSha256
  requestId := statement.requestId
  signedAt := statement.signedAt
  responderNodeKey := statement.responderNodeKey
  checkAnchor := checkAnchor

end DkgCommitmentStatement

structure SignedDkgCommitment where
  statement : DkgCommitmentStatement
  signature : Bytes
deriving DecidableEq

structure DkgShareStatement where
  domain : String
  chainId : String
  ringId : String
  ringPk : String
  ringStateSha256 : String
  protocolVersion : UInt64
  requestId : String
  signedAt : UInt64
  responderNodeKey : String
  receiverNodeKey : String
  originProtocol : String
  accusedCommitteeScope : CommitteeScope
  signingCommitteeScope : CommitteeScope
  fromNodeId : ℕ
  toNodeId : ℕ
  commitmentStatement : DkgCommitmentStatement
  commitmentSignature : Bytes
  shareValue : Bytes
  nonce : Bytes
  cryptoBackend : String
deriving DecidableEq

namespace DkgShareStatement

def canonicalBytes (s : DkgShareStatement) : Bytes :=
  putStr s.domain ++ putStr s.chainId ++ putStr s.ringId ++ putStr s.ringPk ++
    putStr s.ringStateSha256 ++ putU64 s.protocolVersion ++ putStr s.requestId ++
    putU64 s.signedAt ++ putStr s.responderNodeKey ++ putStr s.receiverNodeKey ++
    putStr s.originProtocol ++ [s.accusedCommitteeScope.tag] ++ [s.signingCommitteeScope.tag] ++
    putU32 s.fromNodeId ++ putU32 s.toNodeId ++ putBytes s.commitmentStatement.canonicalBytes ++
    putBytes s.commitmentSignature ++ putBytes s.shareValue ++ putBytes s.nonce ++
    putStr s.cryptoBackend

def prologue (statement : DkgShareStatement) : InvalidCryptoStatementPrologue where
  label := "DKG share"
  domain := statement.domain
  expectedDomain := dkgShareDomain
  chainId := statement.chainId
  ringId := statement.ringId
  ringPk := statement.ringPk
  ringStateSha256 := statement.ringStateSha256
  requestId := statement.requestId
  signedAt := statement.signedAt
  responderNodeKey := statement.responderNodeKey
  checkAnchor := true

/-- The commitment that the dealer signed the share with. -/
def nestedCommitment (statement : DkgShareStatement) : SignedDkgCommitment :=
  ⟨statement.commitmentStatement, statement.commitmentSignature⟩

end DkgShareStatement

structure SignedDkgShare where
  statement : DkgShareStatement
  signature : Bytes
deriving DecidableEq

inductive DealerEvidence where
  | dkgShare (share : SignedDkgShare)
  | dkgEquivocation (commitmentA commitmentB : SignedDkgCommitment)
deriving DecidableEq

namespace DealerEvidence

/-- What is reported with it.  Equivocation is dated by the later of the two signatures. -/
def observation (accusedPeerId : String) : DealerEvidence → InvalidCryptoResponseObservation
  | dkgShare share =>
    ⟨share.statement.ringId, share.statement.responderNodeKey, accusedPeerId,
      saturatingSubSecs share.statement.signedAt chainBlockGraceSecs, share.statement.requestId⟩
  | dkgEquivocation commitmentA commitmentB =>
    ⟨commitmentA.statement.ringId, commitmentA.statement.responderNodeKey, accusedPeerId,
      saturatingSubSecs (max commitmentA.statement.signedAt commitmentB.statement.signedAt)
        chainBlockGraceSecs,
      commitmentA.statement.requestId⟩

end DealerEvidence

/-! ## The fault -/

section

variable (F E : Type) [Field F] [AddCommGroup E] [Module F E] [DecidableEq E] [Curve E] [Repr32 F]
  [Repr32 E]

def groupPointSize : ℕ := 32

variable {E} in
def deserializeWireCommitment (bytes : Bytes) : Except String (PolynomialCommitment E) := do
  let length := bytes.length
  let size := groupPointSize
  require (bytes ≠ []) "commitment cannot be empty"
  require (length % size = 0) s!"commitment length {length} is not a multiple of {size}"
  let coefficients ← readPoints
    (fun index e => s!"coefficient {index}: " ++ e.message) 0 (length / size) bytes
  pure ⟨coefficients⟩

/-- `share_evidence_proves_failure`.  A commitment or share that cannot be decoded is itself the
fault. -/
def shareEvidenceProvesFailure (statement : DkgShareStatement) : Bool :=
  match (deserializeWireCommitment statement.commitmentStatement.commitment :
      Except String (PolynomialCommitment E)), (Fr.fromBytes statement.shareValue :
      Except CryptoError F) with
  | .ok commitment, .ok shareValue => !commitment.verifyShare statement.toNodeId shareValue
  | _, _ => true

def requireDkgShareVerificationFailure (statement : DkgShareStatement) :
    Except ReportingError Unit :=
  match (deserializeWireCommitment statement.commitmentStatement.commitment :
      Except String (PolynomialCommitment E)) with
  | .error _ => .ok ()
  | .ok commitment =>
    match (Fr.fromBytes statement.shareValue : Except CryptoError F) with
    | .error _ => .ok ()
    | .ok shareValue =>
      require (¬commitment.verifyShare statement.toNodeId shareValue)
        (.unauthorized "reported DKG share verifies successfully")

/-- The receiver and the registry decide alike whether a statement proves a fault. -/
theorem requireDkgShareVerificationFailure_eq_ok {statement : DkgShareStatement} :
    requireDkgShareVerificationFailure F E statement = .ok () ↔
      shareEvidenceProvesFailure F E statement = true := by
  unfold requireDkgShareVerificationFailure shareEvidenceProvesFailure
  cases (deserializeWireCommitment statement.commitmentStatement.commitment :
      Except String (PolynomialCommitment E)) with
  | error _ => simp
  | ok commitment =>
    cases (Fr.fromBytes statement.shareValue : Except CryptoError F) with
    | error _ => simp
    | ok shareValue => simp [require_eq_ok]

end

/-! ## Validation -/

/-- The nested commitment repeats the share's binding. -/
def DkgShareStatement.BindsCommitment (statement : DkgShareStatement) : Prop :=
  statement.commitmentStatement.chainId = statement.chainId ∧
    statement.commitmentStatement.ringId = statement.ringId ∧
    statement.commitmentStatement.ringPk = statement.ringPk ∧
    statement.commitmentStatement.ringStateSha256 = statement.ringStateSha256 ∧
    statement.commitmentStatement.protocolVersion = statement.protocolVersion ∧
    statement.commitmentStatement.requestId = statement.requestId ∧
    statement.commitmentStatement.responderNodeKey = statement.responderNodeKey ∧
    statement.commitmentStatement.originProtocol = statement.originProtocol ∧
    statement.commitmentStatement.accusedCommitteeScope = statement.accusedCommitteeScope ∧
    statement.commitmentStatement.signingCommitteeScope = statement.signingCommitteeScope ∧
    statement.commitmentStatement.fromNodeId = statement.fromNodeId ∧
    statement.commitmentStatement.cryptoBackend = statement.cryptoBackend

instance (statement : DkgShareStatement) : Decidable statement.BindsCommitment := by
  unfold DkgShareStatement.BindsCommitment
  infer_instance

/-- The texts name the statement that holds the commitment. -/
def validateCommitmentLength (label : String) (commitment : Bytes) :
    Except ReportingError Unit := do
  let length := commitment.length
  let size := groupPointSize
  require (commitment ≠ []) (.invalidReport s!"{label} cannot be empty")
  require (length % size = 0)
    (.invalidReport s!"{label} length {length} is not a multiple of {size}")

def validateDkgCommitmentStatementShape (statement : DkgShareStatement) :
    Except ReportingError Unit := do
  let commitment := statement.commitmentStatement
  let domain := commitment.domain
  require (domain = dkgCommitmentDomain)
    (.invalidReport s!"unexpected DKG commitment domain {domain}")
  require statement.BindsCommitment
    (.unauthorized "DKG commitment binding does not match DKG share statement")
  require (commitment.signedAt ≤ statement.signedAt)
    (.unauthorized "DKG commitment was signed after the DKG share")
  validateCommitmentLength "DKG commitment" commitment.commitment

def backendMismatch (label backend : String) : ReportingError :=
  .unauthorized (label ++ " crypto backend " ++ backend ++ " does not match local backend " ++
    dkgBackend)

def validateDkgShareStatementShape (envelope : ReportEnvelope) (statement : DkgShareStatement)
    (responseSignature : Bytes) (context : ReportValidationContext) :
    Except ReportingError Unit := do
  validateInvalidCryptoStatementPrologue envelope context statement.prologue
  let origin := statement.originProtocol
  require (isValidInvalidCryptoDkgOrigin origin)
    (.invalidReport s!"unsupported DKG share origin protocol {origin}")
  require (statement.accusedCommitteeScope = .current ∧ statement.signingCommitteeScope = .current)
    (.unauthorized "DKG share reports must use current accused and signing scopes")
  require (statement.fromNodeId ≠ 0 ∧ statement.toNodeId ≠ 0)
    (.invalidReport "DKG share node IDs must be non-zero")
  require (trim statement.receiverNodeKey ≠ "")
    (.invalidReport "DKG share receiver_node_key cannot be empty")
  require (statement.cryptoBackend = dkgBackend)
    (backendMismatch "DKG share" statement.cryptoBackend)
  require (statement.shareValue ≠ []) (.invalidReport "DKG share value cannot be empty")
  require (statement.commitmentSignature ≠ [])
    (.invalidReport "DKG commitment signature cannot be empty")
  require (responseSignature ≠ []) (.invalidReport "DKG share signature cannot be empty")
  validateDkgCommitmentStatementShape statement

def validateEquivocationCommitmentShape (envelope : ReportEnvelope)
    (context : ReportValidationContext) (commitment : DkgCommitmentStatement) (signature : Bytes)
    (checkAnchor : Bool) : Except ReportingError Unit := do
  validateInvalidCryptoStatementPrologue envelope context (commitment.prologue checkAnchor)
  let origin := commitment.originProtocol
  require (isValidInvalidCryptoDkgOrigin origin)
    (.invalidReport s!"unsupported DKG equivocation origin protocol {origin}")
  require (commitment.accusedCommitteeScope = .current ∧
      commitment.signingCommitteeScope = .current)
    (.unauthorized "DKG equivocation reports must use current accused and signing scopes")
  require (commitment.fromNodeId ≠ 0)
    (.invalidReport "DKG equivocation from_node_id must be non-zero")
  require (commitment.cryptoBackend = dkgBackend)
    (backendMismatch "DKG equivocation" commitment.cryptoBackend)
  validateCommitmentLength "DKG equivocation commitment" commitment.commitment
  require (signature ≠ [])
    (.invalidReport "DKG equivocation commitment signature cannot be empty")

/-- Shares of a reshare go to the next committee. -/
def receiverScope (originProtocol : String) : CommitteeScope :=
  if originProtocol = "pss_reshare" then .pendingNew else .current

section

variable (F E : Type) [Field F] [DecidableEq F] [AddCommGroup E] [Module F E] [DecidableEq E]
  [Curve E] [Repr32 F] [Repr32 E] [Sha256] [NodeSigning]

def validateDkgShareEvidence (envelope : ReportEnvelope) (context : ReportValidationContext)
    (ring : RingPayload) (statement : DkgShareStatement) (responseSignature : Bytes) :
    Except ReportingError Unit := do
  validateDkgShareStatementShape envelope statement responseSignature context
  let effective ← validateReportRouteVersionAtObservedAt envelope ring context.routesVersion
  let claimed := statement.protocolVersion
  require (claimed = effective)
    (.unauthorized ("DKG share protocol version " ++ toString claimed ++
      " does not match effective ring version " ++ toString effective))
  let signingCommittee ← validateRingAndMembershipForScopes envelope ring
    statement.accusedCommitteeScope statement.signingCommitteeScope "DKG invalid-share"
  validateNodeRoutes envelope context
  validateLocalSigner envelope context signingCommittee "DKG invalid-share"
  let accusedCommittee ← committeeForScope ring statement.accusedCommitteeScope
  let expectedFrom ← okOr
    (determineSessionNodeId envelope.accusedNodeKey accusedCommittee.peerNodeKeys)
    (.unauthorized "accused node is not in the DKG share node-id map")
  let fromNodeId := statement.fromNodeId
  require (fromNodeId = expectedFrom)
    (.unauthorized
      s!"DKG share from_node_id {fromNodeId} does not match accused node_id {expectedFrom}")
  let receiverCommittee ← committeeForScope ring (receiverScope statement.originProtocol)
  let toNodeId := statement.toNodeId
  -- The receiver is looked up by its place in the list, not in the sorted list.
  let expectedReceiver ← okOr receiverCommittee.peerNodeKeys[toNodeId - 1]?
    (.unauthorized s!"DKG share to_node_id {toNodeId} is outside the receiver committee")
  require (statement.receiverNodeKey = expectedReceiver)
    (.unauthorized "DKG share receiver node key does not match to_node_id")
  (NodeSigning.verify envelope.accusedNodeKey statement.commitmentStatement.canonicalBytes
    statement.commitmentSignature).mapError fun error =>
      .unauthorized s!"invalid DKG commitment signature: {error}"
  (NodeSigning.verify envelope.accusedNodeKey statement.canonicalBytes
    responseSignature).mapError fun error =>
      .unauthorized s!"invalid DKG share signature: {error}"
  requireDkgShareVerificationFailure F E statement

def validateDkgEquivocationEvidence (envelope : ReportEnvelope)
    (context : ReportValidationContext) (ring : RingPayload)
    (commitmentA commitmentB : SignedDkgCommitment) : Except ReportingError Unit := do
  validateEquivocationCommitmentShape envelope context commitmentA.statement
    commitmentA.signature false
  validateEquivocationCommitmentShape envelope context commitmentB.statement
    commitmentB.signature false
  validateEvidenceAnchor (max commitmentA.statement.signedAt commitmentB.statement.signedAt)
    envelope.observedAt
  let effective ← validateReportRouteVersionAtObservedAt envelope ring context.routesVersion
  require (commitmentA.statement.protocolVersion = effective ∧
      commitmentB.statement.protocolVersion = effective)
    (.unauthorized
      s!"DKG equivocation protocol version does not match effective ring version {effective}")
  let signingCommittee ← validateRingAndMembershipForScopes envelope ring .current .current
    "DKG equivocation"
  validateNodeRoutes envelope context
  validateLocalSigner envelope context signingCommittee "DKG equivocation"
  let accusedCommittee ← committeeForScope ring .current
  let expectedFrom ← okOr
    (determineSessionNodeId envelope.accusedNodeKey accusedCommittee.peerNodeKeys)
    (.unauthorized "accused node is not in the DKG equivocation node-id map")
  require (commitmentA.statement.fromNodeId = expectedFrom ∧
      commitmentB.statement.fromNodeId = expectedFrom)
    (.unauthorized
      s!"DKG equivocation from_node_id does not match accused node_id {expectedFrom}")
  (NodeSigning.verify envelope.accusedNodeKey commitmentA.statement.canonicalBytes
    commitmentA.signature).mapError fun error =>
      .unauthorized s!"invalid DKG equivocation commitment_a signature: {error}"
  (NodeSigning.verify envelope.accusedNodeKey commitmentB.statement.canonicalBytes
    commitmentB.signature).mapError fun error =>
      .unauthorized s!"invalid DKG equivocation commitment_b signature: {error}"
  require (commitmentA.statement.provesEquivocationWith commitmentB.statement)
    (.unauthorized "reported commitments are not equivocation")

def validateDealerEvidence (envelope : ReportEnvelope) (context : ReportValidationContext)
    (evidence : DealerEvidence) (ring : RingPayload) : Except ReportingError Unit :=
  match evidence with
  | .dkgShare share => validateDkgShareEvidence F E envelope context ring share.statement
      share.signature
  | .dkgEquivocation commitmentA commitmentB =>
    validateDkgEquivocationEvidence envelope context ring commitmentA commitmentB

end

end Orbis.Node.Reporting
