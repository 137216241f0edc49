import Orbis.Crypto.Combine
import Orbis.Crypto.Context

/-!
# Threshold proxy re-encryption

A document is encrypted to the ring key.  Each member re-encrypts its part of the shared point
for a reader, with a proof; the reader combines the parts and decrypts.  Key derivation and the
authenticated cipher are third-party crates and stay abstract; random draws are arguments.
-/

namespace Orbis.Crypto

open Orbis.Algebra Orbis.Data

/-! ## Third-party primitives -/

/-- Authenticated encryption: key, nonce, associated data and message. -/
class Aes256Gcm where
  encrypt : (key nonce aad msg : Bytes) → Option Bytes
  decrypt : (key nonce aad ciphertext : Bytes) → Option Bytes

/-- Decryption inverts encryption, and a ciphertext has at least its authentication tag. -/
class LawfulAes256Gcm [Aes256Gcm] : Prop where
  decrypt_encrypt : ∀ {key nonce aad msg ciphertext : Bytes},
    Aes256Gcm.encrypt key nonce aad msg = some ciphertext →
      Aes256Gcm.decrypt key nonce aad ciphertext = some msg
  ciphertext_ne_nil : ∀ {key nonce aad msg ciphertext : Bytes},
    Aes256Gcm.encrypt key nonce aad msg = some ciphertext → ciphertext ≠ []

/-- HKDF with SHA-256 and without salt, expanded to 32 bytes. -/
class HkdfSha256 where
  expand : (keyMaterial info : Bytes) → Bytes

namespace Pre

structure Secret where
  encCmt : Bytes
  encryptedData : Bytes
  nonce : Bytes
deriving DecidableEq

structure EncryptionProof where
  challenge : Bytes
  response : Bytes
deriving DecidableEq

structure ReaderAuthorizationSignature where
  challenge : Bytes
  response : Bytes
deriving DecidableEq

structure ReencryptReply (F E : Type) where
  share : PubShare E
  challenge : F
  proof : F
deriving DecidableEq

variable {F E : Type} [Field F] [DecidableEq F] [AddCommGroup E] [Module F E] [DecidableEq E]
  [Curve E] [Repr32 F] [Repr32 E] [ScalarHash F] [Blake2bScalarHash F] [Sha256] [HkdfSha256]
  [Aes256Gcm]

/-! ## Keys and points -/

def deriveCapabilityScalar (derivation : Bytes) : F :=
  hashToScalar (utf8Bytes "elgamal-jubjub-derivation-v1" ++ derivation)

variable (F) in
def derivePublicKey (dkgPk : E) (derivation : Bytes) : E :=
  (deriveCapabilityScalar derivation : F) • dkgPk

def deriveKeyFromPoint (point : E) : Bytes :=
  HkdfSha256.expand (toRepr point) (utf8Bytes "elgamal-jubjub-aes-key-v1")

def decompressPoint : Bytes → Except CryptoError E := decodeGroupElement "point"

/-! ## Reader authorization -/

def readerAuthorizationChallenge (rdrPk r1 : E) (contextDigest : Bytes) : F :=
  hashToScalar (utf8Bytes "orbis-jubjub-reader-authorization-v1" ++ toRepr rdrPk ++ toRepr r1 ++
    contextDigest)

def signReaderAuthorization (k rdrSk : F) (rdrPk : E) (context : ReaderAuthorizationContext) :
    ReaderAuthorizationSignature :=
  let c : F := readerAuthorizationChallenge rdrPk (k • generator)
    (readerAuthorizationContextDigest context)
  ⟨toRepr c, toRepr (k + c * rdrSk)⟩

variable (F) in
def verifyReaderAuthorization (rdrPk : E) (context : ReaderAuthorizationContext)
    (signature : ReaderAuthorizationSignature) : Except CryptoError Unit :=
  if rdrPk = 0 then
    .error (.elGamalError "Invalid reader public key: cannot be zero point")
  else do
    let challenge : F ←
      decodeProofScalar "reader-authorization-signature challenge" signature.challenge
    let response : F ←
      decodeProofScalar "reader-authorization-signature response" signature.response
    let r1 : E := response • generator - challenge • rdrPk
    let recomputed : F := readerAuthorizationChallenge rdrPk r1
      (readerAuthorizationContextDigest context)
    if toRepr challenge ≠ toRepr recomputed then
      .error (.elGamalError "Reader authorization signature verification failed")
    else pure ()

/-! ## Re-encryption -/

/-- The proof's challenge binds the index, the public inputs and the proof points. -/
def reencryptChallenge (idx : ℕ) (rdrPk encCmt effectiveCmt : E) (proofPoints : List E) : F :=
  blake2bToScalar (utf8Bytes "elgamal-jubjub-reencrypt-challenge-v1" ++ leBytes 4 idx ++
    toRepr rdrPk ++ toRepr encCmt ++ toRepr effectiveCmt ++ proofPoints.flatMap toRepr)

/-- The proof of equality uses nonce `ri`. -/
def reencryptInternal (ri : F) (idx : ℕ) (dkgSki : F) (rdrPk encCmt : E)
    (derivationScalar : Option F) : Except CryptoError (E × F × F) :=
  if rdrPk = 0 then .error (.elGamalError "Invalid reader public key: cannot be zero point")
  else if encCmt = 0 then .error (.elGamalError "Invalid commitment: cannot be zero point")
  else
    let effectiveSki := match derivationScalar with
      | some d => d * dkgSki
      | none => dkgSki
    let xrG := rdrPk + encCmt
    let xncSki := effectiveSki • xrG
    let effectiveCmt : E := effectiveSki • generator
    let chlgi : F := reencryptChallenge idx rdrPk encCmt effectiveCmt
      [xncSki, ri • xrG, ri • generator]
    .ok (xncSki, chlgi, ri + chlgi * effectiveSki)

def zeroScalarError : CryptoError :=
  .elGamalError "Derivation produced zero scalar: use different derivation bytes"

/-- The derivation is the one in the signed context. -/
def reencrypt (ri : F) (share : PriShare F) (scrt : Secret) (rdrPk : E)
    (context : ReaderAuthorizationContext) (signature : ReaderAuthorizationSignature) :
    Except CryptoError (ReencryptReply F E) :=
  let idx := share.i
  if scrt.encCmt.isEmpty then .error (.elGamalError "Empty commitment in secret")
  else if idx = 0 then
    .error (.elGamalError s!"Invalid share index: {idx} (must not be 0)")
  else do
    verifyReaderAuthorization F rdrPk context signature
    let encCmt ← decompressPoint scrt.encCmt
    let derivationScalar : Option F := context.derivation.map deriveCapabilityScalar
    if derivationScalar = some 0 then .error zeroScalarError
    else do
      let (xncSki, chlgi, proofi) ← reencryptInternal ri idx share.v rdrPk encCmt derivationScalar
      pure ⟨⟨idx, xncSki⟩, chlgi, proofi⟩

def verifyInternal (idx : ℕ) (rdrPk encCmt xncSki : E) (chlgi proofi : F) (effectiveCmt : E) :
    Except CryptoError Unit :=
  let xrG := rdrPk + encCmt
  let uiHat := proofi • xrG - chlgi • xncSki
  let hiHat : E := proofi • generator - chlgi • effectiveCmt
  let chlg : F := reencryptChallenge idx rdrPk encCmt effectiveCmt [xncSki, uiHat, hiHat]
  if toRepr chlg ≠ toRepr chlgi then
    .error (.elGamalError "Cryptographic verification failed")
  else .ok ()

variable (F) in
def effectiveCmt (dkgCmt : PubPoly E) (derivation : Option Bytes) (idx : ℕ) : E :=
  match derivation with
  | some derivation => (deriveCapabilityScalar derivation : F) • dkgCmt.eval F idx
  | none => dkgCmt.eval F idx

def verify (rdrPk : E) (dkgCmt : PubPoly E) (encCmt : E) (reply : ReencryptReply F E)
    (derivation : Option Bytes) : Except CryptoError Unit :=
  verifyInternal reply.share.i rdrPk encCmt reply.share.v reply.challenge reply.proof
    (effectiveCmt F dkgCmt derivation reply.share.i)

/-! ## Recovery -/

variable (F) in
/-- The first `t` shares are used. -/
def recoverCommit (shares : List (PubShare E)) (t n : ℕ) : Except CryptoError (Option E) := do
  let result ← combine F "share index" (shares.take t) n
  pure (some result)

variable (F) in
def recover (xncSki : List (PubShare E)) (t n : ℕ) : Except CryptoError (Option E) :=
  if t = 0 then .error (.elGamalError "Threshold must be greater than zero")
  else if t > n then .error (.elGamalError s!"Threshold {t} exceeds total shares {n}")
  else if xncSki.length < t then .ok none
  else recoverCommit F xncSki t n

/-! ## Encryption -/

def encryptionProofChallenge (encCmt r1 : E) (contextDigest ciphertextDigest : Bytes) : F :=
  hashToScalar (utf8Bytes "orbis-jubjub-policy-binding-proof-v1" ++ toRepr encCmt ++ toRepr r1 ++
    contextDigest ++ ciphertextDigest)

/-- The key that is encrypted to. -/
def encryptionKey (dkgPk : E) (derivation : Option Bytes) : Except CryptoError E :=
  match derivation with
  | none => .ok dkgPk
  | some derivation =>
    let d : F := deriveCapabilityScalar derivation
    if d = 0 then .error zeroScalarError
    else if d • dkgPk = 0 then
      .error (.elGamalError "Derived public key is the identity element")
    else .ok (d • dkgPk)

/-- The draws are the encryption scalar `r`, the cipher nonce and the proof nonce `k`. -/
def encryptSecret (r : F) (nonce : Bytes) (k : F) (dkgPk : E) (data : Bytes)
    (derivation : Option Bytes) (context : CiphertextContext) :
    Except CryptoError (E × Secret × EncryptionProof) :=
  if dkgPk = 0 then .error (.elGamalError "Invalid dkg_pk: cannot be the identity element")
  else do
    let encCmt : E := r • generator
    let effectivePk ← encryptionKey (F := F) dkgPk derivation
    let aesKey := deriveKeyFromPoint (r • effectivePk)
    let encCmtBytes := toRepr encCmt
    let contextDigest := contextDigest context encCmtBytes
    match Aes256Gcm.encrypt aesKey nonce contextDigest data with
    | none => .error (.elGamalError "Encryption failed")
    | some ciphertext =>
      let challenge : F := encryptionProofChallenge encCmt (k • generator) contextDigest
        (ciphertextDigest nonce ciphertext)
      pure (encCmt, ⟨encCmtBytes, ciphertext, nonce⟩,
        ⟨toRepr challenge, toRepr (k + challenge * r)⟩)

variable (F E) in
def verifyEncryption (proof : EncryptionProof) (context : CiphertextContext) (secret : Secret) :
    Except CryptoError Unit :=
  let length := secret.encCmt.length
  if length ≠ 32 then
    .error (.elGamalError s!"Invalid enc_cmt length: expected 32, got {length}")
  else do
    let encCmt : E ← (Element.fromBytes secret.encCmt).mapError fun e =>
      .elGamalError ("Failed to deserialize enc_cmt: " ++ e.debug)
    if encCmt = 0 then
      .error (.elGamalError "Invalid enc_cmt: cannot be the identity element")
    else if secret.nonce.length ≠ 12 then
      .error (.elGamalError "Invalid nonce length: must be exactly 12 bytes")
    else if secret.encryptedData.isEmpty then .error (.elGamalError "Empty encrypted data")
    else do
      let challenge : F ← decodeProofScalar "challenge" proof.challenge
      let response : F ← decodeProofScalar "response" proof.response
      let r1 : E := response • generator - challenge • encCmt
      let recomputed : F := encryptionProofChallenge encCmt r1
        (contextDigest context secret.encCmt)
        (ciphertextDigest secret.nonce secret.encryptedData)
      if toRepr challenge ≠ toRepr recomputed then
        .error (.elGamalError "Encryption proof verification failed")
      else pure ()

def decryptSecret (effectivePk xncCmt : E) (rdrSk : F) (secret : Secret)
    (context : CiphertextContext) : Except CryptoError Bytes :=
  if secret.nonce.length ≠ 12 then
    .error (.elGamalError "Invalid nonce length: must be exactly 12 bytes")
  else if secret.encryptedData.isEmpty then .error (.elGamalError "Empty encrypted data")
  else if secret.encCmt.isEmpty then .error (.elGamalError "Empty commitment")
  else
    let sharedPoint := xncCmt - rdrSk • effectivePk
    match Aes256Gcm.decrypt (deriveKeyFromPoint sharedPoint) secret.nonce
        (contextDigest context secret.encCmt) secret.encryptedData with
    | none => .error (.elGamalError "Decryption failed - authentication failed")
    | some plaintext => .ok plaintext

end Pre

end Orbis.Crypto
