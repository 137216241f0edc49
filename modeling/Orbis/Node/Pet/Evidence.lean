import Orbis.Node.Bulletin

/-!
# Statements and certificates of the ownership check

A check runs in three rounds: members commit to a blinding, the selected ones reveal it, and
members decrypt the blinded tag.  The signed reveals form a certificate, which the decryption
statements are bound to.  All digests hash length-prefixed fields under a domain.
-/

namespace Orbis.Node.Pet

open Orbis.Crypto Orbis.Data

inductive PetError where
  | acp (message : String)
  | mismatch
  | generationMismatch
  | serialization (message : String)
  | deserialization (message : String)
  | crypto (message : String)
  | insufficientShares (got need : ℕ)
  | invalidInput (message : String)
  | invalidState (message : String)
  | protocolError (message : String)
  | storage (message : String)
deriving DecidableEq

def petBlindContextDomain : String := "orbis-pet-blind-context-v2"

def petBlindCommitDomain : String := "orbis-pet-blind-commit-v2"

def petBlindSelectionDomain : String := "orbis-pet-blind-selection-v2"

def petBlindProofTranscriptDomain : String := "orbis-pet-blind-proof-transcript-v2"

def petBlindRevealResponseDomain : String := "orbis-pet-blind-reveal-response-v2"

def petBlindDecryptResponseDomain : String := "orbis-pet-blind-decrypt-response-v2"

def petBlindCertificateDomain : String := "orbis-pet-blind-certificate-v2"

structure PetBlindContext where
  chainId : String
  protocolVersion : UInt64
  cryptoBackend : String
  ringId : String
  ringPk : String
  ringStateSha256 : String
  petPk : String
  publicPolynomialDigest : Bytes
  objectId : String
  salt : Option String
  timestamp : Option UInt64
  documentInline : Bool
  auditTargetObjectId : String
  actorId : String
  validWindowStart : Option UInt64
  validWindowEnd : Option UInt64
  coordinatorNodeKey : String
  attemptId : String
deriving DecidableEq

structure PetBlindRevealStatement where
  domain : String
  chainId : String
  ringId : String
  ringPk : String
  ringStateSha256 : String
  protocolVersion : UInt64
  attemptId : String
  contextDigest : Bytes
  selectionDigest : Bytes
  responderNodeKey : String
  fromNodeId : ℕ
  commitment : Bytes
  blindedR : Bytes
  blindedDiff : Bytes
  commitSalt : Bytes
  challenge : Bytes
  proof : Bytes
  signedAt : UInt64
deriving DecidableEq

structure PetBlindSignedReveal where
  statement : PetBlindRevealStatement
  responseSignature : Bytes
deriving DecidableEq

structure PetBlindDecryptStatement where
  domain : String
  chainId : String
  ringId : String
  ringPk : String
  ringStateSha256 : String
  protocolVersion : UInt64
  attemptId : String
  contextDigest : Bytes
  certificateDigest : Bytes
  responderNodeKey : String
  fromNodeId : ℕ
  aggregateR : Bytes
  aggregateDiff : Bytes
  partialPoint : Bytes
  challenge : Bytes
  proof : Bytes
  signedAt : UInt64
  publicPolynomial : Bytes
deriving DecidableEq

structure PetBlindSignedDecrypt where
  statement : PetBlindDecryptStatement
  responseSignature : Bytes
deriving DecidableEq

structure PetBlindCertificate where
  publicPolynomial : Bytes
  attemptId : String
  contextDigest : Bytes
  allCommitments : List (ℕ × Bytes)
  reveals : List PetBlindSignedReveal
deriving DecidableEq

structure PetBlindEvidence where
  certificate : PetBlindCertificate
  decryptResponses : List PetBlindSignedDecrypt
  coordinatorNodeKey : String
deriving DecidableEq

/-! ## Canonical encodings -/

def PetBlindContext.canonicalBytes (context : PetBlindContext) : Bytes :=
  putStr context.chainId ++ putU64 context.protocolVersion ++ putStr context.cryptoBackend ++
    putStr context.ringId ++ putStr context.ringPk ++ putStr context.ringStateSha256 ++
    putStr context.petPk ++ context.publicPolynomialDigest ++ putStr context.objectId ++
    putOpt putStr context.salt ++ putOpt putU64 context.timestamp ++
    putBool context.documentInline ++ putStr context.auditTargetObjectId ++
    putStr context.actorId ++ putOpt putU64 context.validWindowStart ++
    putOpt putU64 context.validWindowEnd ++ putStr context.coordinatorNodeKey ++
    putStr context.attemptId

def PetBlindRevealStatement.canonicalBytes (statement : PetBlindRevealStatement) : Bytes :=
  putStr statement.domain ++ putStr statement.chainId ++ putStr statement.ringId ++
    putStr statement.ringPk ++ putStr statement.ringStateSha256 ++
    putU64 statement.protocolVersion ++ putStr statement.attemptId ++ statement.contextDigest ++
    statement.selectionDigest ++ putStr statement.responderNodeKey ++
    putU32 statement.fromNodeId ++ putBytes statement.commitment ++ putBytes statement.blindedR ++
    putBytes statement.blindedDiff ++ statement.commitSalt ++ putBytes statement.challenge ++
    putBytes statement.proof ++ putU64 statement.signedAt

def PetBlindDecryptStatement.canonicalBytes (statement : PetBlindDecryptStatement) : Bytes :=
  putStr statement.domain ++ putStr statement.chainId ++ putStr statement.ringId ++
    putStr statement.ringPk ++ putStr statement.ringStateSha256 ++
    putU64 statement.protocolVersion ++ putStr statement.attemptId ++ statement.contextDigest ++
    statement.certificateDigest ++ putStr statement.responderNodeKey ++
    putU32 statement.fromNodeId ++ putBytes statement.aggregateR ++
    putBytes statement.aggregateDiff ++ putBytes statement.partialPoint ++
    putBytes statement.challenge ++ putBytes statement.proof ++ putU64 statement.signedAt ++
    putBytes statement.publicPolynomial

def PetBlindCertificate.canonicalBytes (certificate : PetBlindCertificate) : Bytes :=
  putStr petBlindCertificateDomain ++ putBytes certificate.publicPolynomial ++
    putStr certificate.attemptId ++ certificate.contextDigest ++
    putU32 (asU32 certificate.allCommitments.length) ++
    (certificate.allCommitments.flatMap fun c => putU32 c.1 ++ putBytes c.2) ++
    putU32 (asU32 certificate.reveals.length) ++
    certificate.reveals.flatMap fun reveal =>
      putBytes reveal.statement.canonicalBytes ++ putBytes reveal.responseSignature

/-! ## Digests -/

section

variable [Sha256]

def PetBlindContext.contextDigest (context : PetBlindContext) : Bytes :=
  sha256 (putStr petBlindContextDomain ++ context.canonicalBytes)

def PetBlindCertificate.certificateDigest (certificate : PetBlindCertificate) : Bytes :=
  sha256 certificate.canonicalBytes

def petPublicPolynomialDigest (bytes : Bytes) : Bytes :=
  sha256 (utf8Bytes "orbis-pet-public-polynomial-v2" ++ 0 :: beBytes 8 bytes.length ++ bytes)

/-- What a member commits to before it knows who was selected. -/
def petBlindCommitHash (attemptId : String) (contextDigest : Bytes) (nodeId : ℕ)
    (commitSalt blindedR blindedDiff : Bytes) : Bytes :=
  sha256 (putStr petBlindCommitDomain ++ putStr attemptId ++ contextDigest ++ putU32 nodeId ++
    commitSalt ++ putBytes blindedR ++ putBytes blindedDiff)

/-- The selected commitments are sorted, so that their order does not matter. -/
def petBlindSelectionDigest (attemptId : String) (contextDigest : Bytes)
    (commitments : List (ℕ × Bytes)) : Bytes :=
  let sorted := commitments.insertionSort fun a b => a.1 ≤ b.1
  sha256 (putStr petBlindSelectionDomain ++ putStr attemptId ++ contextDigest ++
    putU32 (asU32 sorted.length) ++ sorted.flatMap fun c => putU32 c.1 ++ c.2)

def petBlindProofTranscriptDigest (attemptId : String) (contextDigest selectionDigest : Bytes)
    (nodeId : ℕ) (commitment : Bytes) : Bytes :=
  sha256 (putStr petBlindProofTranscriptDomain ++ putStr attemptId ++ contextDigest ++
    selectionDigest ++ putU32 nodeId ++ commitment)

end

/-! ## The context of an attempt -/

structure ValidWindow where
  start : UInt64
  stop : UInt64
deriving DecidableEq

/-- What every participant re-verifies.  The token is only read by the authentication of a
request that comes from a peer. -/
structure PetCheckContext where
  ringStateSha256 : String
  publicPolynomial : Bytes
  document : DocumentPayload
  salt : Option String
  objectId : String
  documentInline : Bool
  auditTargetObjectId : String
  validWindow : Option ValidWindow
deriving DecidableEq

def buildPetBlindContext [Sha256] (chainId : String) (ringPayload : RingPayload)
    (petPkHex : String) (protocolVersion : UInt64) (cryptoBackend : String)
    (ctx : PetCheckContext) (actorId coordinatorNodeKey attemptId : String) : PetBlindContext where
  chainId := chainId
  protocolVersion := protocolVersion
  cryptoBackend := cryptoBackend
  ringId := ctx.document.ringId
  ringPk := ringPayload.ringPk
  ringStateSha256 := ringStateSha256 ringPayload
  petPk := petPkHex
  publicPolynomialDigest := petPublicPolynomialDigest ctx.publicPolynomial
  objectId := ctx.objectId
  salt := ctx.salt
  timestamp := ctx.document.timestamp
  documentInline := ctx.documentInline
  auditTargetObjectId := ctx.auditTargetObjectId
  actorId := actorId
  validWindowStart := ctx.validWindow.map (·.start)
  validWindowEnd := ctx.validWindow.map (·.stop)
  coordinatorNodeKey := coordinatorNodeKey
  attemptId := attemptId

end Orbis.Node.Pet
