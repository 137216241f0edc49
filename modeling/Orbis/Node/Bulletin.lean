import Orbis.Crypto.Pet
import Orbis.Crypto.Pre.Dealer

/-!
# Records on the bulletin

The ring and document records that nodes read, the digest of a ring's state and the identifier
of a document.  Both hash a canonical encoding of the record, so that every node computes them
itself.
-/

namespace Orbis.Node

open Orbis.Crypto Orbis.Data

/-! ## Rings -/

structure UpgradeInfo where
  currentVersion : UInt64
  nextVersion : Option UInt64
  activationTime : Option UInt64
deriving DecidableEq

structure DemeritConfig where
  nodeOfflineDemerits : UInt64
  resetIntervalSeconds : UInt64
  invalidCryptoResponseDemerits : UInt64
  unauthorizedRequestDemerits : UInt64
deriving DecidableEq

structure ReportingConfig where
  demeritConfig : DemeritConfig
  backupNodeKeys : List String
  kickThreshold : UInt64
deriving DecidableEq

structure RingPayload where
  ringPk : String
  newPeerNodeKeys : Option (List String)
  newThreshold : Option ℕ
  peerNodeKeys : List String
  threshold : ℕ
  pssInterval : UInt64
  blockNumberNonce : UInt64
  policyId : Option String
  trustedAuthRelayDids : Option (List String)
  upgradeInfo : UpgradeInfo
  reporting : ReportingConfig
  requiresPet : Bool
  petPk : Option String
deriving DecidableEq

def putU32 (n : ℕ) : Bytes := beBytes 4 n

def putBool (b : Bool) : Bytes := [if b then 1 else 0]

def putStrVec (texts : List String) : Bytes :=
  putU32 (asU32 texts.length) ++ texts.flatMap putStr

def putDemeritConfig (config : DemeritConfig) : Bytes :=
  putU64 config.nodeOfflineDemerits ++ putU64 config.resetIntervalSeconds ++
    putU64 config.invalidCryptoResponseDemerits ++ putU64 config.unauthorizedRequestDemerits

def putReportingConfig (config : ReportingConfig) : Bytes :=
  putDemeritConfig config.demeritConfig ++ putStrVec config.backupNodeKeys ++
    putU64 config.kickThreshold

/-- The ownership check's key and whether it is required are not part of it. -/
def canonicalRingStateBytes (payload : RingPayload) : Bytes :=
  putStr payload.ringPk ++ putStrVec payload.peerNodeKeys ++ putU32 payload.threshold ++
    putOpt putStrVec payload.newPeerNodeKeys ++ putOpt putU32 payload.newThreshold ++
    putU64 payload.pssInterval ++ putU64 payload.blockNumberNonce ++
    putOpt putStr payload.policyId ++ putBool payload.trustedAuthRelayDids.isSome ++
    putStrVec (payload.trustedAuthRelayDids.getD []) ++ putU64 payload.upgradeInfo.currentVersion ++
    putOpt putU64 payload.upgradeInfo.nextVersion ++
    putOpt putU64 payload.upgradeInfo.activationTime ++ putReportingConfig payload.reporting

def ringStateSha256 [Sha256] (payload : RingPayload) : String :=
  hexEncode (sha256 (canonicalRingStateBytes payload))

/-! ## Documents -/

/-- The ciphertext, the proofs and the tag are kept as JSON texts. -/
structure DocumentPayload where
  ringId : String
  document : String
  proof : String
  policyId : String
  resource : String
  permission : String
  tier : Option String
  timestamp : Option UInt64
  petTag : Option String
  petTagProof : Option String
deriving DecidableEq

/-- The JSON reader; if `strict`, unknown fields are an error. -/
class Json (α : Type) where
  fromStr : (strict : Bool) → String → Except String α

/-- What the strict reader accepts, the other reads to the same value. -/
class LawfulJson (α : Type) [Json α] : Prop where
  fromStr_of_strict : ∀ {text : String} {a : α},
    Json.fromStr true text = .ok a → Json.fromStr false text = .ok a

variable [Sha256] [Json Pre.Secret] [Json Pre.EncryptionProof] [Json PetTag]
  [Json TagKnowledgeProof]

def strictFromStr {α : Type} [Json α] (text : String) : Except String α :=
  (Json.fromStr true text).mapError ("Serialization error: " ++ ·)

/-- Without a tag nothing is written, not even a presence byte. -/
def putOptionalPetTag (petTag petTagProof : Option String) : Except String Bytes :=
  match petTag, petTagProof with
  | none, none => .ok []
  | some tag, some proof => do
      let tag : PetTag ← strictFromStr tag
      let proof : TagKnowledgeProof ← strictFromStr proof
      pure (putBytes tag.ephemeralPoint ++ putBytes tag.maskedFingerprint ++
        putBytes proof.challenge ++ putBytes proof.response)
  | _, _ =>
    .error "Serialization error: pet_tag and pet_tag_proof must be present or absent together"

/-- What the identifier hashes. -/
def documentIdBytes (document : DocumentPayload) : Except String Bytes := do
  let secret : Pre.Secret ← strictFromStr document.document
  let proof : Pre.EncryptionProof ← strictFromStr document.proof
  let tag ← putOptionalPetTag document.petTag document.petTagProof
  pure (putStr "orbis/document/v1" ++ putStr document.ringId ++
    putBytes secret.encCmt ++ putBytes secret.encryptedData ++ putBytes secret.nonce ++
    putBytes proof.challenge ++ putBytes proof.response ++ putStr document.policyId ++
    putStr document.resource ++ putStr document.permission ++ putOpt putStr document.tier ++
    putOpt putU64 document.timestamp ++ tag)

/-- The identifier hashes the decoded values, so that it does not depend on their JSON texts. -/
def generateDocumentId (document : DocumentPayload) : Except String String := do
  let bytes ← documentIdBytes document
  pure (hexEncode (sha256 bytes))

theorem documentIdBytes_of_generateDocumentId {document : DocumentPayload} {id : String}
    (h : generateDocumentId document = .ok id) :
    ∃ bytes, documentIdBytes document = .ok bytes ∧ id = hexEncode (sha256 bytes) := by
  obtain ⟨bytes, hbytes, h⟩ := bind_eq_ok.mp h
  exact ⟨bytes, hbytes, (Except.ok.inj h).symm⟩

omit [Sha256] in
/-- Documents of one ring with the same hashed bytes have the same commitment, if its length is
the same. -/
theorem encCmt_eq_of_documentIdBytes {document document' : DocumentPayload}
    {secret secret' : Pre.Secret} {bytes : Bytes}
    (h : documentIdBytes document = .ok bytes) (h' : documentIdBytes document' = .ok bytes)
    (hring : document.ringId = document'.ringId)
    (hsecret : strictFromStr document.document = .ok secret)
    (hsecret' : strictFromStr document'.document = .ok secret')
    (hlength : secret.encCmt.length = secret'.encCmt.length) : secret.encCmt = secret'.encCmt := by
  unfold documentIdBytes at h h'
  simp only [hsecret, hsecret', ok_bind] at h h'
  obtain ⟨proof, -, h⟩ := bind_eq_ok.mp h
  obtain ⟨tag, -, h⟩ := bind_eq_ok.mp h
  obtain ⟨proof', -, h'⟩ := bind_eq_ok.mp h'
  obtain ⟨tag', -, h'⟩ := bind_eq_ok.mp h'
  have heq := Except.ok.inj (h.trans h'.symm)
  simp only [hring, List.append_assoc] at heq
  have hrest := List.append_cancel_left (List.append_cancel_left heq)
  have hput := (List.append_inj hrest (by simp [putBytes, beBytes, hlength])).1
  exact (List.append_inj hput (by simp [beBytes])).2

def checkDocumentIdBinding (objectId : String) (document : DocumentPayload) :
    Except String Unit := do
  let expected ← (generateDocumentId document).mapError
    ("Invalid input: malformed document: " ++ ·)
  if expected ≠ objectId then
    .error s!"Unauthorized: supplied document does not match object_id '{objectId}'"
  else pure ()

theorem bytes_of_checkDocumentIdBinding {objectId : String} {document : DocumentPayload}
    (h : checkDocumentIdBinding objectId document = .ok ()) :
    ∃ bytes, documentIdBytes document = .ok bytes ∧ objectId = hexEncode (sha256 bytes) := by
  obtain ⟨expected, hexpected, h⟩ := bind_eq_ok.mp h
  obtain ⟨bytes, hbytes, hid⟩ := documentIdBytes_of_generateDocumentId (mapError_eq_ok.mp hexpected)
  split at h
  · cases h
  · next hsame => exact ⟨bytes, hbytes, (not_not.mp hsame).symm.trans hid⟩

/-- What the identifier of a key derivation hashes. -/
def keyDerivationIdBytes (ringId derivation policyId resource permission : String) : Bytes :=
  putStr "orbis/key_derivation/v1" ++ putStr ringId ++ putStr derivation ++ putStr policyId ++
    putStr resource ++ putStr permission

/-- The reason of a failed hexadecimal decoding is left out. -/
def buildPetTagBinding (document : DocumentPayload) (petPkHex : Option String) :
    Except String (Option PetTagBinding) :=
  match document.petTag with
  | none => .ok none
  | some tagJson =>
    match petPkHex with
    | none =>
      .error "Invalid state: document has a PET tag but the ring has no PET checking key"
    | some petPkHex => do
        let tag : PetTag ← (Json.fromStr false tagJson).mapError fun e =>
          "Deserialization error: Failed to deserialize PET tag: Parsing Error: " ++ e
        match hexDecode petPkHex with
        | none => .error "Invalid input: Invalid pet_pk hex encoding"
        | some petPk =>
          pure (some ⟨document.ringId, petPk, tag.ephemeralPoint, tag.maskedFingerprint⟩)

/-! Readers to evaluate with: every text is one document. -/

namespace PlainDocument

scoped instance : Json Pre.Secret := ⟨fun _ _ => .ok ⟨[1], [2], [3]⟩⟩

scoped instance : Json Pre.EncryptionProof := ⟨fun _ _ => .ok ⟨[4], [5]⟩⟩

end PlainDocument

end Orbis.Node
