import Orbis.Crypto.Sign.Scheme

/-!
# Signing messages

The messages between a signing coordinator and the ring members, and the errors of both sides.
-/

namespace Orbis.Node.Sign

open Orbis.Crypto Orbis.Data

inductive SignError where
  | unauthorized (message : String)
  | serialization (message : String)
  | deserialization (message : String)
  | crypto (message : String)
  | verificationFailed (message : String)
  | recoveryFailed (message : String)
  | storage (message : String)
  | insufficientShares (got need : ℕ)
  | timeout (message : String)
  | invalidInput (message : String)
  | nonceState (message : String)
  | protocolError (message : String)
  | reshareInProgress
  | generic (message : String)
deriving DecidableEq

def SignError.text : SignError → String
  | unauthorized message => s!"Unauthorized: {message}"
  | serialization message => s!"Serialization error: {message}"
  | deserialization message => s!"Deserialization error: {message}"
  | crypto message => s!"Cryptographic operation error: {message}"
  | verificationFailed message => s!"Verification failed: {message}"
  | recoveryFailed message => s!"Recovery failed: {message}"
  | storage message => s!"Local storage error: {message}"
  | insufficientShares got need => s!"Insufficient shares: got {got}, need {need}"
  | timeout message => s!"Timeout waiting for responses: {message}"
  | invalidInput message => s!"Invalid input: {message}"
  | nonceState message => s!"Nonce state error: {message}"
  | protocolError message => s!"Protocol error: {message}"
  | reshareInProgress => "Ring reshare in progress, try again shortly"
  | generic message => s!"Sign error: {message}"

/-- The derivation entry on the bulletin that a policy request names. -/
structure KeyDerivation where
  derivation : String
  policyId : String
  resource : String
  permission : String
deriving DecidableEq

/-- Why a message may be signed.  A statement or report envelope is kept as its canonical
encoding, or as the error of encoding it. -/
inductive SignContext where
  | bulletin (objectId : String)
  | policy (derivationId : String) (keyDerivation : KeyDerivation)
  | ringReshareUpdate (statement : Except SignError Bytes)
  | refreshHealthCheck (statement : Except SignError Bytes)
  | report (envelope : Bytes)

structure NonceRequest where
  requestId : String
  fromNodeId : ℕ
  ringPk : Bytes
  context : SignContext

structure SignRequest where
  requestId : String
  fromNodeId : ℕ
  message : Bytes
  allCommitments : Bytes
  context : SignContext

inductive SignMessage where
  | nonceRequest (request : NonceRequest)
  | nonceResponse (requestId : String) (fromNodeId : ℕ) (nonceCommitment : Bytes)
  | signRequest (request : SignRequest)
  | signResponse (requestId : String) (fromNodeId : ℕ) (sigShare : Bytes) (signedAt : ℕ)
      (responseSignature : Bytes)
  | error (requestId error : String)

/-- A message with the peer that the transport authenticated. -/
structure AuthenticatedSignMessage where
  senderPeerHex : String
  message : SignMessage

variable [Sha256]

/-- Length-prefixed fields under a domain. -/
def encodeMetadata (policyId resource permission : String) : Bytes :=
  let field (text : String) : Bytes := leBytes 8 (utf8Bytes text).length ++ utf8Bytes text
  sha256 (utf8Bytes "orbis-sign-jubjub-metadata-v1" ++ field policyId ++ field resource ++
    field permission)

end Orbis.Node.Sign
