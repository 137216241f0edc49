import Orbis.Crypto.Pre.EndToEnd
import Orbis.Crypto.Sign.Recovery
import Orbis.Node.PolyHistory
import Orbis.Node.Reporting.Common
import Orbis.Node.Sign.Responder

/-!
# Reports about re-encryption and sign responses

A member signs a statement about every share it returns.  If the share does not verify, the
statement is the evidence: a validator verifies the share again, under the polynomial it has stored
itself and under those it has retired a short time ago.  A response that verifies under any of
them is no fault.
-/

namespace Orbis.Node.Reporting

open Orbis.Crypto Orbis.Crypto.Sign Orbis.Data
open Orbis.Node.Sign (deserializeCommitments)

/-! ## The statements -/

def preReencryptResponseDomain : String := "orbis-pre-reencrypt-response-v1"

def signResponseDomain : String := "orbis-sign-response-v1"

/-- The names of the two schemes. -/
def preBackend : String := "elgamal/jubjub"

def signBackend : String := "threshold-frost-jubjub"

structure PreReencryptResponseStatement where
  domain : String
  chainId : String
  ringId : String
  ringPk : String
  ringStateSha256 : String
  protocolVersion : UInt64
  requestId : String
  signedAt : UInt64
  responderNodeKey : String
  originProtocol : String
  objectId : String
  rdrPk : Bytes
  derivation : Option Bytes
  fromNodeId : ℕ
  share : Bytes
  challenge : Bytes
  proof : Bytes
  cryptoBackend : String
  timestamp : Option UInt64
  documentInline : Bool
deriving DecidableEq

def PreReencryptResponseStatement.canonicalBytes (s : PreReencryptResponseStatement) : Bytes :=
  putStr s.domain ++ putStr s.chainId ++ putStr s.ringId ++ putStr s.ringPk ++
    putStr s.ringStateSha256 ++ putU64 s.protocolVersion ++ putStr s.requestId ++
    putU64 s.signedAt ++ putStr s.responderNodeKey ++ putStr s.originProtocol ++
    putStr s.objectId ++ putBytes s.rdrPk ++ putOpt putBytes s.derivation ++
    putU32 s.fromNodeId ++ putBytes s.share ++ putBytes s.challenge ++ putBytes s.proof ++
    putStr s.cryptoBackend ++ putOpt putU64 s.timestamp ++ putBool s.documentInline

structure SignResponseStatement where
  domain : String
  chainId : String
  ringId : String
  ringPk : String
  ringStateSha256 : String
  protocolVersion : UInt64
  requestId : String
  signedAt : UInt64
  responderNodeKey : String
  originProtocol : String
  accusedCommitteeScope : CommitteeScope
  signingCommitteeScope : CommitteeScope
  fromNodeId : ℕ
  message : Bytes
  signingCommitments : Bytes
  derivation : Option Bytes
  metadata : Option Bytes
  sigShare : Bytes
  cryptoBackend : String
deriving DecidableEq

def SignResponseStatement.canonicalBytes (s : SignResponseStatement) : Bytes :=
  putStr s.domain ++ putStr s.chainId ++ putStr s.ringId ++ putStr s.ringPk ++
    putStr s.ringStateSha256 ++ putU64 s.protocolVersion ++ putStr s.requestId ++
    putU64 s.signedAt ++ putStr s.responderNodeKey ++ putStr s.originProtocol ++
    [s.accusedCommitteeScope.tag] ++ [s.signingCommitteeScope.tag] ++ putU32 s.fromNodeId ++
    putBytes s.message ++ putBytes s.signingCommitments ++ putOpt putBytes s.derivation ++
    putOpt putBytes s.metadata ++ putBytes s.sigShare ++ putStr s.cryptoBackend

/-- The prologue of both statements is checked against the envelope. -/
def PreReencryptResponseStatement.prologue (statement : PreReencryptResponseStatement) :
    InvalidCryptoStatementPrologue where
  label := "PRE response"
  domain := statement.domain
  expectedDomain := preReencryptResponseDomain
  chainId := statement.chainId
  ringId := statement.ringId
  ringPk := statement.ringPk
  ringStateSha256 := statement.ringStateSha256
  requestId := statement.requestId
  signedAt := statement.signedAt
  responderNodeKey := statement.responderNodeKey
  checkAnchor := true

def SignResponseStatement.prologue (statement : SignResponseStatement) :
    InvalidCryptoStatementPrologue where
  label := "Sign response"
  domain := statement.domain
  expectedDomain := signResponseDomain
  chainId := statement.chainId
  ringId := statement.ringId
  ringPk := statement.ringPk
  ringStateSha256 := statement.ringStateSha256
  requestId := statement.requestId
  signedAt := statement.signedAt
  responderNodeKey := statement.responderNodeKey
  checkAnchor := true

inductive ResponseEvidence where
  | pre (statement : PreReencryptResponseStatement) (responseSignature : Bytes)
  | sign (statement : SignResponseStatement) (responseSignature : Bytes)
deriving DecidableEq

namespace ResponseEvidence

def ringPk : ResponseEvidence → String
  | pre statement _ => statement.ringPk
  | sign statement _ => statement.ringPk

def signedAt : ResponseEvidence → UInt64
  | pre statement _ => statement.signedAt
  | sign statement _ => statement.signedAt

def ringId : ResponseEvidence → String
  | pre statement _ => statement.ringId
  | sign statement _ => statement.ringId

/-- Of the document that was re-encrypted. -/
def timestamp : ResponseEvidence → Option UInt64
  | pre statement _ => statement.timestamp
  | sign _ _ => none

end ResponseEvidence

/-! ## What a validator reads -/

/-- A document that was not on the bulletin, as the reporter passes it on. -/
structure ReportedDocumentEvidence where
  document : String
  proof : String
  policyId : String
  resource : String
  permission : String
  tier : Option String
  petTag : Option String
  petTagProof : Option String
deriving DecidableEq

def ReportedDocumentEvidence.toPayload (evidence : ReportedDocumentEvidence) (ringId : String)
    (timestamp : Option UInt64) : DocumentPayload where
  ringId := ringId
  document := evidence.document
  proof := evidence.proof
  policyId := evidence.policyId
  resource := evidence.resource
  permission := evidence.permission
  tier := evidence.tier
  timestamp := timestamp
  petTag := evidence.petTag
  petTagProof := evidence.petTagProof

/-- Beside what every validation reads: the documents on the bulletin, the local store of ring
shares, and the document that came with the report. -/
structure ResponseValidationContext extends ReportValidationContext where
  documents : String → Except ReadError DocumentPayload
  store : RingStore
  inlineDocument : Option ReportedDocumentEvidence

section

variable [Sha256] [Json Pre.Secret] [Json Pre.EncryptionProof] [Json PetTag]
  [Json TagKnowledgeProof]

def requireInlineDocumentEvidence (context : ResponseValidationContext)
    (ringId objectId : String) (timestamp : Option UInt64) :
    Except ReportingError ReportedDocumentEvidence := do
  let evidence ← okOr context.inlineDocument
    (.invalidReport
      "statement marks the request inline but no inline document evidence was provided")
  let expectedObjectId ← (generateDocumentId (evidence.toPayload ringId timestamp)).mapError
    fun e => .invalidReport s!"inline document evidence is malformed: {e}"
  require (expectedObjectId = objectId)
    (.invalidReport "inline document evidence does not match object_id")
  pure evidence

def rejectUnexpectedInlineDocumentEvidence (context : ResponseValidationContext) :
    Except ReportingError Unit :=
  require context.inlineDocument.isNone
    (.invalidReport
      "statement does not mark the request inline but inline document evidence was provided")

def deserializeSecret (documentJson : String) : Except String Pre.Secret :=
  (Json.fromStr false documentJson).mapError
    ("Deserialization error: Failed to deserialize secret: " ++ ·)

/-- The ciphertext that the response is about. -/
def reportedSecret (context : ResponseValidationContext)
    (statement : PreReencryptResponseStatement) : Except ReportingError Pre.Secret :=
  if statement.documentInline then do
    let evidence ← requireInlineDocumentEvidence context statement.ringId statement.objectId
      statement.timestamp
    (deserializeSecret evidence.document).mapError .invalidReport
  else do
    rejectUnexpectedInlineDocumentEvidence context
    let document ← (context.documents statement.objectId).mapError ReadError.toReportingError
    require (document.ringId = statement.ringId)
      (.unauthorized "PRE response object is not bound to the report ring")
    (deserializeSecret document.document).mapError .invalidReport

end

section

variable (E : Type) [Repr32 E]

def decodeRingPkHex (ringPkHex : String) : Except String E :=
  match hexDecode ringPkHex with
  | none => .error "Invalid ring_pk_hex"
  | some bytes =>
    (Element.fromBytes bytes).mapError fun e => "Failed to deserialize ring_pk: " ++ e.message

def loadFromRingPkHex (store : RingStore) (ringPkHex : String) :
    Except String RingShareBundle := do
  let ringPk ← decodeRingPkHex E ringPkHex
  RingShareBundle.load store.bundles ringPk

def recentFromRingPkHex (store : RingStore) (ringPkHex : String) (now : UInt64) : List String :=
  match decodeRingPkHex E ringPkHex with
  | .error _ => []
  | .ok ringPk => store.retired.recent (RingShareBundle.ringKeyOf ringPk) now

/-- A history entry that cannot be read is skipped. -/
def readPolynomial (text : String) : Option (PubPoly E) := do
  let bytes ← hexDecode text
  (PubPoly.fromBytes bytes).toOption

def candidatePublicPolynomials (context : ResponseValidationContext) (ringPkHex : String) :
    Except ReportingError (List (PubPoly E)) := do
  let bundle ← (loadFromRingPkHex E context.store ringPkHex).mapError .invalidReport
  let bytes ← okOr (hexDecode bundle.publicPolynomial)
    (.invalidReport "Invalid public polynomial hex")
  let current ← (PubPoly.fromBytes bytes).mapError fun e =>
    .invalidReport ("failed to deserialize public polynomial: " ++ e.message)
  pure (current ::
    (recentFromRingPkHex E context.store ringPkHex context.now).filterMap (readPolynomial E))

end

/-! ## Validation -/

section

variable (F E : Type) [Field F] [DecidableEq F] [AddCommGroup E] [Module F E] [DecidableEq E]
  [Curve E] [Repr32 F] [Repr32 E] [ScalarHash F] [Blake2bScalarHash F] [Sha256] [NodeSigning]
  [Json Pre.Secret] [Json Pre.EncryptionProof] [Json PetTag] [Json TagKnowledgeProof]

/-- A share that cannot be decoded is itself the fault. -/
def requireSignShareVerificationFailure (context : ResponseValidationContext)
    (statement : SignResponseStatement) : Except ReportingError Unit := do
  let candidates ← candidatePublicPolynomials E context statement.ringPk
  match (Fr.fromBytes statement.sigShare : Except CryptoError F) with
  | .error _ => pure ()
  | .ok sigShare => do
      let commitments : Commitments E ←
        (deserializeCommitments statement.signingCommitments).mapError fun e =>
          .invalidReport ("failed to deserialize Sign commitments: " ++ e.text)
      require (¬candidates.any fun pubPoly =>
          (verifyShare statement.message pubPoly ⟨statement.fromNodeId, sigShare⟩ commitments
            statement.derivation statement.metadata).isOk)
        (.unauthorized ("reported Sign share verifies successfully under the current or a " ++
          "recently retired ring polynomial"))

/-- So are a share, a challenge or a proof that cannot be decoded. -/
def requirePreProofVerificationFailure (context : ResponseValidationContext)
    (statement : PreReencryptResponseStatement) : Except ReportingError Unit := do
  let secret ← reportedSecret context statement
  let rdrPk : E ← (Element.fromBytes statement.rdrPk).mapError fun e =>
    .invalidReport ("failed to deserialize reader public key: " ++ e.message)
  let encCmt : E ← (Element.fromBytes secret.encCmt).mapError fun e =>
    .invalidReport ("failed to deserialize encrypted commitment: " ++ e.message)
  match (Element.fromBytes statement.share : Except CryptoError E),
      (Fr.fromBytes statement.challenge : Except CryptoError F),
      (Fr.fromBytes statement.proof : Except CryptoError F) with
  | .ok share, .ok challenge, .ok proof => do
      let candidates ← candidatePublicPolynomials E context statement.ringPk
      require (¬candidates.any fun pubPoly =>
          (Pre.verify rdrPk pubPoly encCmt ⟨⟨statement.fromNodeId, share⟩, challenge, proof⟩
            statement.derivation).isOk)
        (.unauthorized ("reported PRE proof verifies successfully under the current or a " ++
          "recently retired ring polynomial"))
  | _, _, _ => pure ()

def validatePreReencryptResponseStatementShape (envelope : ReportEnvelope)
    (context : ReportValidationContext) (statement : PreReencryptResponseStatement)
    (responseSignature : Bytes) : Except ReportingError Unit := do
  validateInvalidCryptoStatementPrologue envelope context statement.prologue
  let origin := statement.originProtocol
  require (origin = "pre")
    (.invalidReport s!"unsupported PRE response origin protocol {origin}")
  require (trim statement.objectId ≠ "")
    (.invalidReport "PRE response object_id cannot be empty")
  require (statement.cryptoBackend = preBackend)
    (.unauthorized ("PRE response crypto backend " ++ statement.cryptoBackend ++
      " does not match local backend " ++ preBackend))
  require (responseSignature ≠ []) (.invalidReport "PRE response signature cannot be empty")

def isValidInvalidCryptoSignOrigin (originProtocol : String) : Bool :=
  originProtocol = "sign" || originProtocol = "pss_refresh" || originProtocol = "pss_reshare" ||
    originProtocol = "report"

def validateSignResponseStatementShape (envelope : ReportEnvelope)
    (context : ReportValidationContext) (statement : SignResponseStatement)
    (responseSignature : Bytes) : Except ReportingError Unit := do
  validateInvalidCryptoStatementPrologue envelope context statement.prologue
  let origin := statement.originProtocol
  require (isValidInvalidCryptoSignOrigin origin)
    (.invalidReport s!"unsupported Sign response origin protocol {origin}")
  require (statement.cryptoBackend = signBackend)
    (.unauthorized ("Sign response crypto backend " ++ statement.cryptoBackend ++
      " does not match local backend " ++ signBackend))
  require (statement.message ≠ []) (.invalidReport "Sign response message cannot be empty")
  require (statement.sigShare ≠ []) (.invalidReport "Sign response sig_share cannot be empty")
  require (responseSignature ≠ []) (.invalidReport "Sign response signature cannot be empty")

def validatePreEvidence (envelope : ReportEnvelope) (context : ResponseValidationContext)
    (ring : RingPayload) (statement : PreReencryptResponseStatement)
    (responseSignature : Bytes) : Except ReportingError Unit := do
  let base := context.toReportValidationContext
  validatePreReencryptResponseStatementShape envelope base statement responseSignature
  let effective ← validateReportRouteVersionAtObservedAt envelope ring context.routesVersion
  let claimed := statement.protocolVersion
  require (claimed = effective)
    (.unauthorized ("PRE response protocol version " ++ toString claimed ++
      " does not match effective ring version " ++ toString effective))
  let signingCommittee ← validateRingAndMembershipForScopes envelope ring .current .current
    "PRE invalid-proof"
  validateNodeRoutes envelope base
  validateLocalSigner envelope base signingCommittee "PRE invalid-proof"
  let expected ← okOr (determineSessionNodeId envelope.accusedNodeKey ring.peerNodeKeys)
    (.unauthorized "accused node is not in the current ring node-id map")
  let fromNodeId := statement.fromNodeId
  require (fromNodeId = expected)
    (.unauthorized
      s!"PRE response from_node_id {fromNodeId} does not match accused node_id {expected}")
  (NodeSigning.verify envelope.accusedNodeKey statement.canonicalBytes
    responseSignature).mapError fun error =>
      .unauthorized s!"invalid PRE response signature: {error}"
  requirePreProofVerificationFailure F E context statement

def validateSignEvidence (envelope : ReportEnvelope) (context : ResponseValidationContext)
    (ring : RingPayload) (statement : SignResponseStatement)
    (responseSignature : Bytes) : Except ReportingError Unit := do
  let base := context.toReportValidationContext
  validateSignResponseStatementShape envelope base statement responseSignature
  let effective ← validateReportRouteVersionAtObservedAt envelope ring context.routesVersion
  let claimed := statement.protocolVersion
  require (claimed = effective)
    (.unauthorized ("Sign response protocol version " ++ toString claimed ++
      " does not match effective ring version " ++ toString effective))
  let signingCommittee ← validateRingAndMembershipForScopes envelope ring
    statement.accusedCommitteeScope statement.signingCommitteeScope "Sign invalid-response"
  validateNodeRoutes envelope base
  validateLocalSigner envelope base signingCommittee "Sign invalid-response"
  let accusedCommittee ← committeeForScope ring statement.accusedCommitteeScope
  let expected ← okOr
    (determineSessionNodeId envelope.accusedNodeKey accusedCommittee.peerNodeKeys)
    (.unauthorized "accused node is not in the Sign response node-id map")
  let fromNodeId := statement.fromNodeId
  require (fromNodeId = expected)
    (.unauthorized
      s!"Sign response from_node_id {fromNodeId} does not match accused node_id {expected}")
  (NodeSigning.verify envelope.accusedNodeKey statement.canonicalBytes
    responseSignature).mapError fun error =>
      .unauthorized s!"invalid Sign response signature: {error}"
  requireSignShareVerificationFailure F E context statement

def validateResponseEvidence (envelope : ReportEnvelope) (context : ResponseValidationContext)
    (evidence : ResponseEvidence) (ring : RingPayload) : Except ReportingError Unit :=
  match evidence with
  | .pre statement responseSignature =>
    validatePreEvidence F E envelope context ring statement responseSignature
  | .sign statement responseSignature =>
    validateSignEvidence F E envelope context ring statement responseSignature

end

/-! ## What a confirmed report proves -/

section

variable {F E : Type} [Field F] [AddCommGroup E] [Module F E] [Curve E] [Repr32 F] [Repr32 E]
  [ScalarHash F] {envelope : ReportEnvelope} {context : ResponseValidationContext}

variable {statement : PreReencryptResponseStatement} {responseSignature : Bytes}

/-- A share that decodes and is confirmed as a fault verifies under no candidate. -/
theorem not_verified_of_signFailure [DecidableEq F] [DecidableEq E]
    {statement : SignResponseStatement} {sigShare : F}
    {commitments : Commitments E}
    (hshare : Fr.fromBytes statement.sigShare = .ok sigShare)
    (hcommitments : deserializeCommitments statement.signingCommitments = .ok commitments)
    (h : requireSignShareVerificationFailure F E context statement = .ok ()) :
    ∃ candidates, candidatePublicPolynomials E context statement.ringPk = .ok candidates ∧
      ∀ pubPoly ∈ candidates,
        verifyShare statement.message pubPoly ⟨statement.fromNodeId, sigShare⟩ commitments
          statement.derivation statement.metadata ≠ .ok () := by
  obtain ⟨candidates, hcandidates, h⟩ := bind_eq_ok.mp h
  refine ⟨candidates, hcandidates, ?_⟩
  simp only [hshare, hcommitments, mapError_ok, ok_bind] at h
  intro pubPoly hmem hverify
  refine require_eq_ok.mp h (List.any_eq_true.mpr ⟨pubPoly, hmem, ?_⟩)
  rw [hverify]
  rfl

variable [Sha256]

theorem failure_of_validateSignEvidence [DecidableEq F] [DecidableEq E] [NodeSigning]
    {ring : RingPayload} {statement : SignResponseStatement}
    (h : validateSignEvidence F E envelope context ring statement responseSignature = .ok ()) :
    requireSignShareVerificationFailure F E context statement = .ok () := by
  unfold validateSignEvidence at h
  iterate 10 obtain ⟨_, -, h⟩ := bind_eq_ok.mp h
  exact h

variable [Json Pre.Secret] [Json Pre.EncryptionProof] [Json PetTag] [Json TagKnowledgeProof]
  [Blake2bScalarHash F]

theorem failure_of_validatePreEvidence [NodeSigning] {ring : RingPayload}
    (h : validatePreEvidence F E envelope context ring statement responseSignature = .ok ()) :
    requirePreProofVerificationFailure F E context statement = .ok () := by
  unfold validatePreEvidence at h
  iterate 9 obtain ⟨_, -, h⟩ := bind_eq_ok.mp h
  exact h

/-- A reply that decodes and is confirmed as a fault verifies under no candidate, for the
ciphertext that the validator read. -/
theorem not_verified_of_preFailure {reply : Pre.ReencryptReply F E} {rdrPk : E}
    (hrdr : Element.fromBytes statement.rdrPk = .ok rdrPk)
    (hindex : statement.fromNodeId = reply.share.i)
    (hshare : Element.fromBytes statement.share = .ok reply.share.v)
    (hchallenge : Fr.fromBytes statement.challenge = .ok reply.challenge)
    (hproof : Fr.fromBytes statement.proof = .ok reply.proof)
    (h : requirePreProofVerificationFailure F E context statement = .ok ()) :
    ∃ secret encCmt candidates, reportedSecret context statement = .ok secret ∧
      Element.fromBytes secret.encCmt = .ok encCmt ∧
      candidatePublicPolynomials E context statement.ringPk = .ok candidates ∧
      ∀ pubPoly ∈ candidates, Pre.verify rdrPk pubPoly encCmt reply statement.derivation ≠
        .ok () := by
  obtain ⟨secret, hsecret, h⟩ := bind_eq_ok.mp h
  simp only [hrdr, mapError_ok, ok_bind] at h
  obtain ⟨encCmt, hencCmt, h⟩ := bind_eq_ok.mp h
  simp only [hshare, hchallenge, hproof] at h
  obtain ⟨candidates, hcandidates, h⟩ := bind_eq_ok.mp h
  refine ⟨secret, encCmt, candidates, hsecret, mapError_eq_ok.mp hencCmt, hcandidates, ?_⟩
  intro pubPoly hmem hverify
  refine require_eq_ok.mp h (List.any_eq_true.mpr ⟨pubPoly, hmem, ?_⟩)
  rw [hindex, hverify]
  rfl

end

/-! ## Candidates -/

section

variable {E : Type} [Repr32 E] {context : ResponseValidationContext} {ringPk : E}

theorem load_of_active {store : RingStore} {text : String}
    (h : store.Active (RingShareBundle.ringKeyOf ringPk) text) :
    ∃ bundle, RingShareBundle.load store.bundles ringPk = .ok bundle ∧
      bundle.publicPolynomial = text := by
  obtain ⟨bundle, hload, htext⟩ := h
  refine ⟨bundle, ?_, htext⟩
  unfold RingShareBundle.loadByRingKey at hload
  unfold RingShareBundle.load
  cases hlookup : store.bundles.lookup (RingShareBundle.ringKeyOf ringPk) with
  | none => simp [hlookup] at hload
  | some bytes => simpa only [hlookup] using hload

def Encodes (text : String) (poly : PubPoly E) : Prop := readPolynomial E text = some poly

theorem mem_candidates {ringPkHex text : String} {poly : PubPoly E}
    {candidates : List (PubPoly E)} (hring : decodeRingPkHex E ringPkHex = .ok ringPk)
    (htext : Encodes text poly)
    (hknown : context.store.Active (RingShareBundle.ringKeyOf ringPk) text ∨
      text ∈ context.store.retired.recent (RingShareBundle.ringKeyOf ringPk) context.now)
    (h : candidatePublicPolynomials E context ringPkHex = .ok candidates) : poly ∈ candidates := by
  unfold candidatePublicPolynomials at h
  obtain ⟨bundle, hbundle, h⟩ := bind_eq_ok.mp h
  obtain ⟨bytes, hbytes, h⟩ := bind_eq_ok.mp h
  obtain ⟨current, hcurrent, h⟩ := bind_eq_ok.mp h
  cases h
  rcases hknown with hactive | hrecent
  · -- The active polynomial is the first candidate.
    obtain ⟨bundle', hload, htext'⟩ := load_of_active hactive
    have hsame := mapError_eq_ok.mp hbundle
    unfold loadFromRingPkHex at hsame
    rw [hring, ok_bind, hload] at hsame
    cases hsame
    unfold Encodes readPolynomial at htext
    rw [← htext', okOr_eq_ok.mp hbytes] at htext
    have hcurrent' := mapError_eq_ok.mp hcurrent
    rw [Option.bind_eq_bind, Option.bind_some, hcurrent'] at htext
    rw [Option.some.inj htext]
    exact List.mem_cons_self
  · refine List.mem_cons_of_mem _ (List.mem_filterMap.mpr ⟨text, ?_, htext⟩)
    unfold recentFromRingPkHex
    rw [hring]
    exact hrecent

end

end Orbis.Node.Reporting
