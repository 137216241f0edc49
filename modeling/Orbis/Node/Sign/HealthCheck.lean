import Mathlib.Data.String.Basic
import Orbis.Node.Sign.Messages

/-!
# The statement of a refresh health check

After a refresh the first member collects a threshold signature over a statement about the new
shares.  The statement is signed in a canonical encoding under a domain of its own.
-/

namespace Orbis.Node.Sign

open Orbis.Crypto Orbis.Data

def refreshHealthCheckDomain : String := "orbis-pss-refresh-healthcheck-v1"

structure RefreshHealthCheckStatement where
  domain : String
  sessionId : ℕ
  ringPk : String
  publicPolynomialSha256 : String
  peerNodeKeysSha256 : String
  threshold : ℕ
  totalParticipants : ℕ
deriving DecidableEq

def writeLenPrefixedBytes (bytes : Bytes) : Bytes := leBytes 4 (asU32 bytes.length) ++ bytes

def writeLenPrefixedStr (text : String) : Bytes := writeLenPrefixedBytes (utf8Bytes text)

/-- The reason of a failed hexadecimal decoding is left out. -/
def decodeSha256Hex (label value : String) : Except SignError Bytes :=
  match hexDecode value with
  | none => .error (.deserialization s!"Failed to decode {label} hex")
  | some bytes =>
    let length := bytes.length
    if length ≠ 32 then
      .error (.invalidInput s!"{label} must decode to 32 bytes, got {length}")
    else .ok bytes

def refreshHealthCheckMessage (statement : RefreshHealthCheckStatement) :
    Except SignError Bytes := do
  let publicPolynomialSha256 ←
    decodeSha256Hex "public_polynomial_sha256" statement.publicPolynomialSha256
  let peerNodeKeysSha256 ← decodeSha256Hex "peer_node_keys_sha256" statement.peerNodeKeysSha256
  pure (writeLenPrefixedStr statement.domain ++ leBytes 16 statement.sessionId ++
    writeLenPrefixedStr statement.ringPk ++ writeLenPrefixedBytes publicPolynomialSha256 ++
    writeLenPrefixedBytes peerNodeKeysSha256 ++ leBytes 4 statement.threshold ++
    leBytes 4 statement.totalParticipants)

/-- The order of the keys does not matter. -/
def refreshHealthCheckPeerNodeKeysSha256 [Sha256] (peerNodeKeys : List String) : String :=
  hexEncode (sha256 (leBytes 4 (asU32 peerNodeKeys.length) ++
    (peerNodeKeys.insertionSort (· ≤ ·)).flatMap writeLenPrefixedStr))

/-- A signature is a point and a scalar. -/
def signatureFromBytes {F E : Type} [Repr32 F] [Repr32 E] (bytes : Bytes) :
    Except CryptoError (Crypto.Sign.SchnorrSignature F E) :=
  if bytes.length ≠ 64 then .error .invalidSignature
  else do
    let rPoint : E ← Element.fromBytes (bytes.take 32)
    let z : F ← Fr.fromBytes (bytes.drop 32)
    pure ⟨rPoint, z⟩

end Orbis.Node.Sign
