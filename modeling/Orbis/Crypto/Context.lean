import Orbis.Crypto.Codec

/-!
# Transcripts bound into ciphertexts and reader signatures

The contexts are encoded field by field with length prefixes and presence bytes, and hashed
under a domain.
-/

namespace Orbis.Crypto

open Orbis.Data

def beBytes (n value : ℕ) : Bytes := (leBytes n value).reverse

/-- Bytes after their length. -/
def putBytes (bytes : Bytes) : Bytes := beBytes 4 (asU32 bytes.length) ++ bytes

def putStr (text : String) : Bytes := putBytes (utf8Bytes text)

/-- An absent value is one zero byte. -/
def putOpt {α : Type} (put : α → Bytes) : Option α → Bytes
  | none => [0]
  | some a => 1 :: put a

/-- The ownership tag a payload was encrypted for. -/
structure PetTagBinding where
  ringId : String
  petPk : Bytes
  ephemeralPoint : Bytes
  maskedFingerprint : Bytes
deriving DecidableEq

structure CiphertextContext where
  ringPk : Bytes
  policyId : String
  resource : String
  permission : String
  tier : Option String
  timestamp : Option UInt64
  salt : Option String
  petTag : Option PetTagBinding
deriving DecidableEq

def putPetTag (binding : PetTagBinding) : Bytes :=
  putStr binding.ringId ++ putBytes binding.petPk ++ putBytes binding.ephemeralPoint ++
    putBytes binding.maskedFingerprint

def putU64 (n : UInt64) : Bytes := beBytes 8 n.toNat

def canonicalEncode (context : CiphertextContext) : Bytes :=
  putBytes context.ringPk ++ putStr context.policyId ++ putStr context.resource ++
    putStr context.permission ++ putOpt putStr context.tier ++ putOpt putU64 context.timestamp ++
    putOpt putStr context.salt ++ putOpt putPetTag context.petTag

structure ValidWindowBinding where
  start : UInt64
  stop : UInt64
deriving DecidableEq

structure ReaderAuthorizationContext where
  chainId : String
  ringPk : Bytes
  jwtIssuer : String
  jwtSubject : Option String
  resolvedActor : String
  jwtId : String
  jwtIssuedTime : UInt64
  jwtExpirationTime : UInt64
  jwtNotBefore : Option UInt64
  objectId : String
  recipientPk : Bytes
  derivation : Option Bytes
  salt : Option String
  validWindow : Option ValidWindowBinding
  auditTargetObjectId : Option String
deriving DecidableEq

def canonicalEncodeReaderAuthorization (context : ReaderAuthorizationContext) : Bytes :=
  putStr context.chainId ++ putBytes context.ringPk ++ putStr context.jwtIssuer ++
    putOpt putStr context.jwtSubject ++ putStr context.resolvedActor ++ putStr context.jwtId ++
    putU64 context.jwtIssuedTime ++ putU64 context.jwtExpirationTime ++
    putOpt putU64 context.jwtNotBefore ++ putStr context.objectId ++
    putBytes context.recipientPk ++ putOpt putBytes context.derivation ++
    putOpt putStr context.salt ++
    putOpt (fun window : ValidWindowBinding => putU64 window.start ++ putU64 window.stop)
      context.validWindow ++
    putOpt putStr context.auditTargetObjectId

section

variable [Sha256]

/-- The associated data of the ciphertext. -/
def contextDigest (context : CiphertextContext) (encCmt : Bytes) : Bytes :=
  sha256 (utf8Bytes "orbis-context-v1" ++ canonicalEncode context ++ putBytes encCmt)

def ciphertextDigest (nonce encryptedData : Bytes) : Bytes :=
  sha256 (utf8Bytes "orbis-ciphertext-v1" ++ nonce ++ encryptedData)

def readerAuthorizationContextDigest (context : ReaderAuthorizationContext) : Bytes :=
  sha256 (utf8Bytes "orbis-reader-authorization-context-v1" ++
    canonicalEncodeReaderAuthorization context)

end

end Orbis.Crypto
