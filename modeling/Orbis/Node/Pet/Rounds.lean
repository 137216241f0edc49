import Orbis.Node.Pet.Verification

/-!
# The rounds of the ownership check

What a member answers in each round, once the request itself was verified, and a coordinator
that runs the rounds.  Random draws and clock readings are arguments; the store that keeps a
blinding between the first two rounds is not part of this file, so a member's pending blinding
is passed on directly.
-/

namespace Orbis.Node.Pet

open Orbis.Crypto Orbis.Crypto.Pet Orbis.Data
open RingShareBundle (Storage loadByPetRingKey)

structure Responder where
  nodeKey : String
  signingKeyHex : String
  petStorage : Storage

/-- What every round verifies for itself before it answers. -/
structure VerifiedRequest (E : Type) where
  tag : PetTag
  petPkHex : String
  ringPayload : RingPayload
  ctx : PetCheckContext
  blindContext : PetBlindContext
  targetFingerprint : E

structure PendingBlinding (F : Type) where
  z : F
  commitSalt : Bytes
  nodeId : ℕ
  contextDigest : Bytes
  commitment : Bytes

variable {F E : Type} [Field F] [DecidableEq F] [AddCommGroup E] [Module F E] [DecidableEq E]
  [Curve E] [Repr32 F] [Repr32 E] [ScalarHash F] [Blake2bScalarHash F] [Sha256] [NodeSigning]

namespace Responder

/-- The generation and the member's share of it. -/
def member (responder : Responder) (request : VerifiedRequest E) (bundle : RingShareBundle) :
    Except PetError (PriShare F) := do
  let _ : PubPoly E ← matchBundle F bundle request.ctx.publicPolynomial
    request.ringPayload.threshold request.petPkHex
  memberShare E bundle responder.nodeKey request.ringPayload

/-- Commit to the blinding `z`.  Only the points of the proof are used here; the proof itself
needs the selection. -/
def handleCommitRequest (responder : Responder) (request : VerifiedRequest E) (z w : F)
    (commitSalt : Bytes) : Except PetError (PendingBlinding F) := do
  let contextDigest := request.blindContext.contextDigest
  let bundle ← (loadByPetRingKey responder.petStorage request.ctx.document.ringId).mapError
    fun e => .storage s!"Failed to load share bundle: {e}"
  let share : PriShare F ← responder.member request bundle
  let preliminary ← (proveBlindingCorrectness w z request.tag request.targetFingerprint
    (List.replicate 32 0)).mapError fun e =>
      let text := e.message
      .crypto s!"Failed to compute blinding points: {text}"
  let commitment := petBlindCommitHash request.blindContext.attemptId contextDigest share.i
    commitSalt (toRepr preliminary.blindedR) (toRepr preliminary.blindedDiff)
  pure ⟨z, commitSalt, share.i, contextDigest, commitment⟩

/-- Open the commitment for the selected members. -/
def handleRevealRequest (responder : Responder) (request : VerifiedRequest E)
    (allCommitments : List (ℕ × Bytes)) (pending : PendingBlinding F) (w : F)
    (signedAt : UInt64) : Except PetError PetBlindSignedReveal := do
  let context := request.blindContext
  let bundle ← (loadByPetRingKey responder.petStorage request.ctx.document.ringId).mapError
    .storage
  let share : PriShare F ← responder.member request bundle
  let threshold := request.ringPayload.threshold
  let selected := allCommitments.length
  require (selected = threshold) (.protocolError
    s!"reveal selected list has {selected} entries, ring threshold is {threshold}")
  checkSelected (fun nodeId => .protocolError s!"duplicate node id {nodeId} in selected list")
    (.deserialization "selected-list commitment is not 32 bytes") [] allCommitments
  let contextDigest := context.contextDigest
  require (pending.nodeId = share.i) .generationMismatch
  require (pending.contextDigest = contextDigest) (.protocolError
    "reveal-phase context does not match the commit-phase context")
  require (allCommitments.filter (·.1 = pending.nodeId) = [(pending.nodeId, pending.commitment)])
    (.protocolError "selected list does not contain this node's original commitment exactly once")
  let selectionDigest := petBlindSelectionDigest context.attemptId contextDigest allCommitments
  let blindTranscriptDigest := petBlindProofTranscriptDigest context.attemptId contextDigest
    selectionDigest pending.nodeId pending.commitment
  let reply ← (proveBlindingCorrectness w pending.z request.tag request.targetFingerprint
    blindTranscriptDigest).mapError fun e =>
      let text := e.message
      .crypto s!"Failed to compute blinding-correctness proof: {text}"
  let statement : PetBlindRevealStatement := ⟨petBlindRevealResponseDomain, context.chainId,
    context.ringId, context.ringPk, context.ringStateSha256, context.protocolVersion,
    context.attemptId, contextDigest, selectionDigest, responder.nodeKey, pending.nodeId,
    pending.commitment, toRepr reply.blindedR, toRepr reply.blindedDiff, pending.commitSalt,
    toRepr reply.challenge, toRepr reply.proof, signedAt⟩
  let responseSignature ← (NodeSigning.sign responder.signingKeyHex
    statement.canonicalBytes).mapError fun e => .crypto s!"failed to sign PET reveal: {e}"
  pure ⟨statement, responseSignature⟩

/-- Apply the member's key share to the certificate's aggregate point. -/
def handleDecryptRequest (responder : Responder) (request : VerifiedRequest E)
    (certificate : PetBlindCertificate) (ri : F) (signedAt : UInt64) :
    Except PetError PetBlindSignedDecrypt := do
  let context := request.blindContext
  let contextDigest := context.contextDigest
  require (certificate.attemptId = context.attemptId ∧ certificate.contextDigest = contextDigest)
    (.protocolError "certificate does not match this decrypt request's attempt/context")
  let (aggregateR, aggregateDiff) ← buildAndVerifyPetBlindCertificate F certificate
    request.ringPayload request.tag request.targetFingerprint context
  let bundle ← (loadByPetRingKey responder.petStorage request.ctx.document.ringId).mapError
    fun e => .storage s!"Failed to load share bundle: {e}"
  let share : PriShare F ← responder.member request bundle
  let publicPolynomialBytes ← okOr (hexDecode bundle.publicPolynomial)
    (.deserialization "Failed to decode stored PET public polynomial")
  let reply : PetCheckReply F E ← (partialPetCheck ri share.v share.i
    ⟨toRepr aggregateR, []⟩).mapError fun e =>
      let text := e.message
      .crypto s!"Failed to compute PET decrypt share: {text}"
  let statement : PetBlindDecryptStatement := ⟨petBlindDecryptResponseDomain, context.chainId,
    context.ringId, context.ringPk, context.ringStateSha256, context.protocolVersion,
    context.attemptId, contextDigest, certificate.certificateDigest, responder.nodeKey, share.i,
    toRepr aggregateR, toRepr aggregateDiff, toRepr reply.share.v, toRepr reply.challenge,
    toRepr reply.proof, signedAt, publicPolynomialBytes⟩
  let responseSignature ← (NodeSigning.sign responder.signingKeyHex
    statement.canonicalBytes).mapError fun e => .crypto s!"failed to sign PET decrypt share: {e}"
  pure ⟨statement, responseSignature⟩

end Responder

/-! ## A run of the rounds -/

structure Blinder (F : Type) where
  responder : Responder
  nodeId : ℕ
  z : F
  commitNonce : F
  commitSalt : Bytes
  revealNonce : F
  signedAt : UInt64

structure Decryptor (F : Type) where
  responder : Responder
  nodeId : ℕ
  nonce : F
  signedAt : UInt64

def Blinder.commit (blinder : Blinder F) (request : VerifiedRequest E) :
    Except PetError (PendingBlinding F) :=
  blinder.responder.handleCommitRequest request blinder.z blinder.commitNonce blinder.commitSalt

def Blinder.reveal (blinder : Blinder F) (request : VerifiedRequest E)
    (allCommitments : List (ℕ × Bytes)) : Except PetError PetBlindSignedReveal := do
  let pending ← blinder.commit request
  blinder.responder.handleRevealRequest request allCommitments pending blinder.revealNonce
    blinder.signedAt

def Decryptor.decrypt (decryptor : Decryptor F) (request : VerifiedRequest E)
    (certificate : PetBlindCertificate) : Except PetError PetBlindSignedDecrypt :=
  decryptor.responder.handleDecryptRequest request certificate decryptor.nonce decryptor.signedAt

/-- The members selected by their commitments reveal in any order; any members decrypt. -/
def runRounds (request : VerifiedRequest E) (selected revealed : List (Blinder F))
    (decryptors : List (Decryptor F)) : Except PetError PetBlindEvidence := do
  let allCommitments ← selected.mapM fun blinder => do
    let pending ← blinder.commit request
    pure (pending.nodeId, pending.commitment)
  let reveals ← revealed.mapM fun blinder => blinder.reveal request allCommitments
  let certificate : PetBlindCertificate := ⟨request.ctx.publicPolynomial,
    request.blindContext.attemptId, request.blindContext.contextDigest, allCommitments, reveals⟩
  let decryptResponses ← decryptors.mapM fun decryptor => decryptor.decrypt request certificate
  pure ⟨certificate, decryptResponses, request.blindContext.coordinatorNodeKey⟩

end Orbis.Node.Pet
