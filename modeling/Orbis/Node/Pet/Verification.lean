import Orbis.Node.Pet.Generation

/-!
# Verification of the ownership check

One routine checks a certificate for the coordinator, for every decrypting member and for the
admission of a re-encryption request.  Admission then checks a threshold of decryption
statements against the certificate's aggregate points and compares the combined share with the
blinded distance to the target.
-/

namespace Orbis.Node.Pet

open Orbis.Crypto Orbis.Crypto.Pet Orbis.Data
open RingShareBundle (Storage loadByPetRingKey)

/-! ## Contributions -/

/-- Why a contribution is refused: either it cannot be laid at its signer's door, or its signed
content is invalid. -/
inductive ContributionFault where
  | notAttributable (error : PetError)
  | invalid (error : PetError)
deriving DecidableEq

def ContributionFault.error : ContributionFault → PetError
  | notAttributable error => error
  | invalid error => error

abbrev ContributionCheckOutcome (α : Type) := Except ContributionFault α

def ContributionCheckOutcome.intoResult {α : Type} (outcome : ContributionCheckOutcome α) :
    Except PetError α :=
  outcome.mapError ContributionFault.error

/-- The fields that bind a signed statement to its ring. -/
structure SignedContext where
  domain : String
  chainId : String
  ringId : String
  ringPk : String
  ringStateSha256 : String
  protocolVersion : UInt64
deriving DecidableEq

def SignedContext.matches (signed : SignedContext) (domain : String)
    (context : PetBlindContext) : Bool :=
  signed.domain = domain ∧ signed.chainId = context.chainId ∧ signed.ringId = context.ringId ∧
    signed.ringPk = context.ringPk ∧ signed.ringStateSha256 = context.ringStateSha256 ∧
    signed.protocolVersion = context.protocolVersion

def PetBlindRevealStatement.signedContext (statement : PetBlindRevealStatement) : SignedContext :=
  ⟨statement.domain, statement.chainId, statement.ringId, statement.ringPk,
    statement.ringStateSha256, statement.protocolVersion⟩

def PetBlindDecryptStatement.signedContext (statement : PetBlindDecryptStatement) :
    SignedContext :=
  ⟨statement.domain, statement.chainId, statement.ringId, statement.ringPk,
    statement.ringStateSha256, statement.protocolVersion⟩

variable {F E : Type} [Field F] [DecidableEq F] [AddCommGroup E] [Module F E] [DecidableEq E]
  [Curve E] [Repr32 F] [Repr32 E] [ScalarHash F] [Blake2bScalarHash F] [Sha256] [NodeSigning]

/-- The four parts of a reveal, or nothing if one of them is not an encoding. -/
def decodeReveal (statement : PetBlindRevealStatement) : Option (BlindingReply F E) := do
  let blindedR ← (Element.fromBytes statement.blindedR).toOption
  let blindedDiff ← (Element.fromBytes statement.blindedDiff).toOption
  let challenge ← (Fr.fromBytes statement.challenge).toOption
  let proof ← (Fr.fromBytes statement.proof).toOption
  pure ⟨blindedR, blindedDiff, challenge, proof⟩

variable (F) in
/-- The signer's identity and signature, the opening of its commitment and its proof. -/
def verifyOneReveal (statement : PetBlindRevealStatement) (responseSignature : Bytes)
    (ringPayload : RingPayload) (tag : PetTag) (targetFingerprint : E)
    (expectedCommitment selectionDigest : Bytes) : ContributionCheckOutcome (E × E) := do
  let id := statement.fromNodeId
  let nodeKey ← okOr (nodeKeyForId id ringPayload.peerNodeKeys)
    (.notAttributable (.crypto s!"reveal from_node_id {id} is not in the ring committee"))
  require (nodeKey = statement.responderNodeKey) (.notAttributable (.crypto
    s!"reveal responder_node_key does not match the resolved committee identity for node {id}"))
  (NodeSigning.verify nodeKey statement.canonicalBytes responseSignature).mapError fun e =>
    .notAttributable (.crypto s!"invalid reveal signature from node {id}: {e}")
  require (statement.commitment = expectedCommitment) (.notAttributable (.crypto
    s!"reveal commitment for node {id} does not match the selected list"))
  require (statement.selectionDigest = selectionDigest) (.notAttributable (.crypto
    s!"reveal selection_digest for node {id} does not match the selected list"))
  require (petBlindCommitHash statement.attemptId statement.contextDigest id statement.commitSalt
      statement.blindedR statement.blindedDiff = expectedCommitment)
    (.invalid (.crypto s!"reveal from node {id} does not open its own commitment"))
  let reply : BlindingReply F E ← okOr (decodeReveal statement)
    (.invalid (.deserialization s!"failed to decode reveal fields from node {id}"))
  let blindTranscriptDigest := petBlindProofTranscriptDigest statement.attemptId
    statement.contextDigest selectionDigest id expectedCommitment
  (verifyBlindingCorrectness tag targetFingerprint reply blindTranscriptDigest).mapError fun e =>
    let text := e.message
    .invalid (.crypto s!"blinding-correctness proof failed for node {id}: {text}")
  pure (reply.blindedR, reply.blindedDiff)

/-! ## Certificates -/

/-- Every node is selected once, with a digest of 32 bytes. -/
def checkSelected (duplicate : ℕ → PetError) (badLength : PetError) :
    List ℕ → List (ℕ × Bytes) → Except PetError Unit
  | _, [] => .ok ()
  | seen, (nodeId, bytes) :: rest => do
      require (nodeId ∉ seen) (duplicate nodeId)
      require (bytes.length = 32) badLength
      checkSelected duplicate badLength (nodeId :: seen) rest

structure Aggregate (E : Type) where
  r : Option E
  diff : Option E
  seen : List ℕ

/-- The first point starts the sum. -/
def addPoint (sum : Option E) (point : E) : Option E :=
  match sum with
  | some acc => some (acc + point)
  | none => some point

variable (F) in
def aggregateReveals (certificate : PetBlindCertificate) (ringPayload : RingPayload)
    (tag : PetTag) (targetFingerprint : E) (blindContext : PetBlindContext)
    (selectionDigest : Bytes) :
    Aggregate E → List PetBlindSignedReveal → Except PetError (Aggregate E)
  | aggregate, [] => .ok aggregate
  | aggregate, reveal :: rest => do
      let statement := reveal.statement
      let id := statement.fromNodeId
      require (statement.signedContext.matches petBlindRevealResponseDomain blindContext)
        (.protocolError "PET reveal certificate binding mismatch")
      require (statement.attemptId = certificate.attemptId)
        (.crypto "reveal attempt_id does not match the certificate")
      require (statement.contextDigest = certificate.contextDigest)
        (.crypto "reveal context_digest does not match the certificate")
      require (id ∉ aggregate.seen) (.crypto s!"duplicate reveal for node {id}")
      let expected ← okOr (certificate.allCommitments.find? (·.1 = id))
        (.crypto s!"reveal from node {id} is not present in the selected list")
      let (blindedR, blindedDiff) ← (verifyOneReveal F statement reveal.responseSignature
        ringPayload tag targetFingerprint expected.2 selectionDigest).intoResult
      aggregateReveals certificate ringPayload tag targetFingerprint blindContext selectionDigest
        ⟨addPoint aggregate.r blindedR, addPoint aggregate.diff blindedDiff,
          id :: aggregate.seen⟩ rest

def CertificateMatches (certificate : PetBlindCertificate) (ringPayload : RingPayload)
    (blindContext : PetBlindContext) : Prop :=
  blindContext.publicPolynomialDigest = petPublicPolynomialDigest certificate.publicPolynomial ∧
    certificate.contextDigest = blindContext.contextDigest ∧
    certificate.attemptId = blindContext.attemptId ∧ blindContext.ringPk = ringPayload.ringPk ∧
    blindContext.ringStateSha256 = ringStateSha256 ringPayload ∧
    ringPayload.petPk = some blindContext.petPk ∧ ringPayload.requiresPet = true ∧
    blindContext.cryptoBackend = Crypto.Pet.name

instance (certificate : PetBlindCertificate) (ringPayload : RingPayload)
    (blindContext : PetBlindContext) :
    Decidable (CertificateMatches certificate ringPayload blindContext) := by
  unfold CertificateMatches
  infer_instance

variable (F) in
/-- The blinded ephemeral point and the blinded distance of all reveals together. -/
def buildAndVerifyPetBlindCertificate (certificate : PetBlindCertificate)
    (ringPayload : RingPayload) (tag : PetTag) (targetFingerprint : E)
    (blindContext : PetBlindContext) : Except PetError (E × E) := do
  let _ : PubPoly E ← decode F certificate.publicPolynomial ringPayload.threshold
    blindContext.petPk
  require (CertificateMatches certificate ringPayload blindContext)
    (.protocolError "PET certificate generation or context mismatch")
  let threshold := ringPayload.threshold
  let selected := certificate.allCommitments.length
  let revealed := certificate.reveals.length
  require (selected = threshold) (.crypto
    s!"certificate selected list has {selected} entries, ring threshold is {threshold}")
  require (revealed = threshold)
    (.crypto s!"certificate has {revealed} reveals, ring threshold is {threshold}")
  checkSelected
    (fun nodeId => .crypto s!"duplicate node id {nodeId} in certificate selected list")
    (.deserialization "certificate commitment is not 32 bytes") [] certificate.allCommitments
  let selectionDigest := petBlindSelectionDigest certificate.attemptId certificate.contextDigest
    certificate.allCommitments
  let aggregate ← aggregateReveals F certificate ringPayload tag targetFingerprint blindContext
    selectionDigest ⟨none, none, []⟩ certificate.reveals
  let aggregateR ← okOr aggregate.r (.crypto "certificate has no reveals")
  let aggregateDiff ← okOr aggregate.diff (.crypto "certificate has no reveals")
  require (aggregateR ≠ 0) (.crypto ("certificate's aggregate ephemeral point is the identity " ++
    "— a corrupted or colluding blinding set"))
  pure (aggregateR, aggregateDiff)

/-! ## Decryption statements -/

/-- The three parts of a decryption share, or nothing if one of them is not an encoding. -/
def decodeDecrypt (statement : PetBlindDecryptStatement) : Option (PetCheckReply F E) := do
  let partialPoint ← (Element.fromBytes statement.partialPoint).toOption
  let challenge ← (Fr.fromBytes statement.challenge).toOption
  let proof ← (Fr.fromBytes statement.proof).toOption
  pure ⟨⟨statement.fromNodeId, partialPoint⟩, challenge, proof⟩

/-- What a decryption statement has to repeat. -/
structure ExpectedDecrypt where
  contextDigest : Bytes
  certificateDigest : Bytes
  attemptId : String
  aggregateR : Bytes
  aggregateDiff : Bytes

variable (F) in
def verifyOneDecrypt (statement : PetBlindDecryptStatement) (responseSignature : Bytes)
    (ringPayload : RingPayload) (pubPoly : PubPoly E) (expected : ExpectedDecrypt)
    (blindContext : PetBlindContext) : ContributionCheckOutcome (PubShare E) := do
  let id := statement.fromNodeId
  require (statement.signedContext.matches petBlindDecryptResponseDomain blindContext)
    (.notAttributable (.protocolError "PET decrypt statement binding mismatch"))
  require (statement.attemptId = expected.attemptId)
    (.notAttributable (.crypto "decrypt statement attempt_id does not match the certificate"))
  require (statement.contextDigest = expected.contextDigest)
    (.notAttributable (.crypto "decrypt statement context_digest does not match this attempt"))
  require (statement.certificateDigest = expected.certificateDigest) (.notAttributable
    (.crypto "decrypt statement certificate_digest does not match the certificate"))
  require (statement.aggregateR = expected.aggregateR ∧
      statement.aggregateDiff = expected.aggregateDiff) (.notAttributable (.crypto
    "decrypt statement aggregate points do not match the certificate's own reconstruction"))
  let nodeKey ← okOr (nodeKeyForId id ringPayload.peerNodeKeys)
    (.notAttributable (.crypto s!"decrypt from_node_id {id} is not in the ring committee"))
  require (nodeKey = statement.responderNodeKey) (.notAttributable (.crypto
    s!"decrypt responder_node_key does not match the resolved committee identity for node {id}"))
  (NodeSigning.verify nodeKey statement.canonicalBytes responseSignature).mapError fun e =>
    .notAttributable (.crypto s!"invalid decrypt signature from node {id}: {e}")
  require (petPublicPolynomialDigest statement.publicPolynomial =
      blindContext.publicPolynomialDigest)
    (.invalid (.crypto "signed PET reply substitutes the certified polynomial"))
  let reply : PetCheckReply F E ← okOr (decodeDecrypt statement)
    (.invalid (.deserialization s!"failed to decode decrypt fields from node {id}"))
  -- The decryption share is of the aggregate point in place of the tag's own.
  (verifyPartialPetCheck pubPoly ⟨expected.aggregateR, []⟩ reply).mapError fun e =>
    let text := e.message
    .invalid (.crypto
      s!"decrypt share from node {id} failed its per-share proof verification: {text}")
  pure ⟨id, reply.share.v⟩

variable (F) in
def collectDecrypts (ringPayload : RingPayload) (pubPoly : PubPoly E) (expected : ExpectedDecrypt)
    (blindContext : PetBlindContext) :
    List ℕ → List PetBlindSignedDecrypt → Except PetError (List (PubShare E))
  | _, [] => .ok []
  | seen, signed :: rest => do
      let share ← (verifyOneDecrypt F signed.statement signed.responseSignature ringPayload
        pubPoly expected blindContext).mapError fun _ => .mismatch
      require (share.i ∉ seen) .mismatch
      let shares ← collectDecrypts ringPayload pubPoly expected blindContext (share.i :: seen) rest
      pure (share :: shares)

variable (F) in
/-- The part of the admission check after the request itself was verified. -/
def verifyEvidence (storage : Storage) (ringId : String) (ringPayload : RingPayload)
    (tag : PetTag) (petPkHex : String) (targetFingerprint : E) (blindContext : PetBlindContext)
    (evidence : PetBlindEvidence) : Except PetError Unit := do
  let certificate := evidence.certificate
  let (aggregateR, aggregateDiff) ← (buildAndVerifyPetBlindCertificate F certificate ringPayload
    tag targetFingerprint blindContext).mapError fun _ => .mismatch
  let threshold := ringPayload.threshold
  let n := ringPayload.peerNodeKeys.length
  require (threshold ≤ evidence.decryptResponses.length)
    (.insufficientShares evidence.decryptResponses.length threshold)
  let bundle ← (loadByPetRingKey storage ringId).mapError fun e =>
    .storage s!"Failed to load PET share bundle: {e}"
  let pubPoly : PubPoly E ← matchBundle F bundle certificate.publicPolynomial threshold petPkHex
  let expected : ExpectedDecrypt := ⟨blindContext.contextDigest, certificate.certificateDigest,
    certificate.attemptId, toRepr aggregateR, toRepr aggregateDiff⟩
  let shares ← collectDecrypts F ringPayload pubPoly expected blindContext []
    (evidence.decryptResponses.take threshold)
  let combined ← (combinePetCheckShares F shares threshold n).mapError fun e =>
    let text := e.message
    .crypto s!"Failed to combine PET decrypt shares: {text}"
  require (toRepr combined = toRepr aggregateDiff) .mismatch

/-! ## Requests -/

structure AccessCheckRequest where
  policyId : String
  resource : String
  objectId : String
  permission : String
  tier : Option String
  timestamp : Option UInt64
  validWindow : Option ValidWindow
deriving DecidableEq

/-- What the node asks of other components: the chain it is on, the live ring of a route, and
the policy engine. -/
structure PetCoordinator where
  chainId : String
  version : UInt64
  readRing : String → Except String RingPayload
  authz : AccessCheckRequest → String → Except String Bool
  petStorage : Storage

/-- The permission is the document's, on the audit target in place of the document. -/
def checkPetPermission (authz : AccessCheckRequest → String → Except String Bool)
    (document : DocumentPayload) (auditTargetObjectId actorId : String)
    (validWindow : Option ValidWindow) : Except PetError Unit := do
  let isAuthorized ← (authz ⟨document.policyId, document.resource, auditTargetObjectId,
    document.permission, document.tier, document.timestamp, validWindow⟩ actorId).mapError fun e =>
      .acp s!"Error in PET Authz request: {e}"
  require (isAuthorized = true) .mismatch

/-- A text of these digits has as many bytes as characters. -/
def isRingStateDigest (text : String) : Bool :=
  text.toList.length = 64 && text.toList.all fun c =>
    (48 ≤ c.toNat && c.toNat ≤ 57) || (97 ≤ c.toNat && c.toNat ≤ 102)

def buildCiphertextContext [Json PetTag] (ringPkHex : String) (document : DocumentPayload)
    (salt petPkHex : Option String) : Except PetError CiphertextContext := do
  let ringPk ← okOr (hexDecode ringPkHex) (.invalidInput "Invalid ring_pk hex encoding")
  let petTag ← (buildPetTagBinding document petPkHex).mapError fun e =>
    .invalidInput s!"PET tag binding: {e}"
  pure ⟨ringPk, document.policyId, document.resource, document.permission, document.tier,
    document.timestamp, salt, petTag⟩

def tagProofDigest (ephemeralPoint maskedFingerprint petPk : Bytes) (ringId : String)
    (ciphertextContext : CiphertextContext) (secret : Pre.Secret)
    (payloadProof : Pre.EncryptionProof) : Bytes :=
  sha256 (utf8Bytes "orbis-pet-tag-proof-v1" ++ putBytes ephemeralPoint ++
    putBytes maskedFingerprint ++ putBytes petPk ++ putStr ringId ++
    putBytes (canonicalEncode ciphertextContext) ++ putBytes secret.encCmt ++
    putBytes secret.nonce ++ putBytes secret.encryptedData ++ putBytes payloadProof.challenge ++
    putBytes payloadProof.response)

variable [Json Pre.Secret] [Json Pre.EncryptionProof] [Json PetTag] [Json TagKnowledgeProof]

variable (F E) in
/-- The tag of the document, with its proof of knowledge, against the live ring. -/
def verifyPetCheckRequest (coordinator : PetCoordinator) (ctx : PetCheckContext) :
    Except PetError (PetTag × String × Bytes × RingPayload) := do
  let ringId := ctx.document.ringId
  let ringPayload ← (coordinator.readRing ringId).mapError .protocolError
  require (ringPayload.threshold ≠ 0 ∧ ringPayload.threshold ≤ ringPayload.peerNodeKeys.length)
    (.invalidState "invalid PET ring threshold")
  require (isRingStateDigest ctx.ringStateSha256) (.invalidInput "invalid PET ring-state digest")
  require (ctx.ringStateSha256 = ringStateSha256 ringPayload) .generationMismatch
  require (ringPayload.requiresPet = true)
    (.protocolError s!"ring {ringId} does not require a PET check")
  (checkDocumentIdBinding ctx.objectId ctx.document).mapError fun e =>
    .invalidInput s!"document does not match object_id: {e}"
  let petPkHex ← okOr ringPayload.petPk
    (.invalidState s!"ring {ringId} requires PET but its checking key has not finalized")
  let petPkBytes ← okOr (hexDecode petPkHex) (.invalidInput "Invalid pet_pk hex encoding")
  let tagJson ← okOr ctx.document.petTag
    (.invalidInput "document has no pet_tag but ring requires PET")
  let tagProofJson ← okOr ctx.document.petTagProof
    (.invalidInput "document has no pet_tag_proof but ring requires PET")
  let tag : PetTag ← (Json.fromStr false tagJson).mapError fun e =>
    .deserialization s!"Failed to deserialize tag: Parsing Error: {e}"
  let tagProof : TagKnowledgeProof ← (Json.fromStr false tagProofJson).mapError fun e =>
    .deserialization s!"Failed to deserialize tag proof: Parsing Error: {e}"
  let secret : Pre.Secret ← (Json.fromStr false ctx.document.document).mapError fun e =>
    .deserialization s!"Failed to deserialize secret: {e}"
  let payloadProof : Pre.EncryptionProof ← (Json.fromStr false ctx.document.proof).mapError
    fun e => .deserialization s!"Failed to deserialize proof: Parsing Error: {e}"
  let ciphertextContext ← buildCiphertextContext ringPayload.ringPk ctx.document ctx.salt
    (some petPkHex)
  let digest := tagProofDigest tag.ephemeralPoint tag.maskedFingerprint petPkBytes ringId
    ciphertextContext secret payloadProof
  (verifyTagKnowledge F E tag tagProof digest).mapError fun e =>
    let text := e.message
    .crypto s!"Tag-knowledge proof verification failed: {text}"
  pure (tag, petPkHex, digest, ringPayload)

/-- What a re-encryption request brings to the admission check. -/
structure AdmissionRequest where
  document : DocumentPayload
  salt : Option String
  objectId : String
  documentInline : Bool
  auditTargetObjectId : String
  actorId : String
  validWindow : Option ValidWindow

/-- The context is rebuilt from the request; the ring state is the one that the first reveal
names. -/
def AdmissionRequest.checkContext (request : AdmissionRequest) (expectedRingState : String)
    (certificate : PetBlindCertificate) : PetCheckContext :=
  ⟨expectedRingState, certificate.publicPolynomial, request.document, request.salt,
    request.objectId, request.documentInline, request.auditTargetObjectId, request.validWindow⟩

variable (F E) in
def verifyPetAdmission (coordinator : PetCoordinator) (request : AdmissionRequest)
    (ringPayload : RingPayload) (evidence : PetBlindEvidence) : Except PetError Unit := do
  checkPetPermission coordinator.authz request.document request.auditTargetObjectId
    request.actorId request.validWindow
  let expectedRingState ← okOr (evidence.certificate.reveals.head?.map
    (·.statement.ringStateSha256)) (.invalidInput "PET certificate has no reveals")
  require (expectedRingState = ringStateSha256 ringPayload) .generationMismatch
  let ctx := request.checkContext expectedRingState evidence.certificate
  let (tag, petPkHex, _, _) ← verifyPetCheckRequest F E coordinator ctx
  let blindContext := buildPetBlindContext coordinator.chainId ringPayload petPkHex
    coordinator.version Crypto.Pet.name ctx request.actorId evidence.coordinatorNodeKey
    evidence.certificate.attemptId
  require (blindContext.contextDigest = evidence.certificate.contextDigest) .mismatch
  let targetFingerprint : E := ownerFingerprint F (utf8Bytes request.auditTargetObjectId)
  verifyEvidence F coordinator.petStorage request.document.ringId ringPayload tag petPkHex
    targetFingerprint blindContext evidence

end Orbis.Node.Pet
