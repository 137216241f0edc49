import Orbis.Node.Reporting.PreSign

/-!
# Documents that come with a report

A document that is not on the bulletin is passed on by the reporter and is bound to the signed
statement by its identifier only.  The identifier hashes the fields of the document one after
another, each after its length, so that it determines them unless the hash collides.
-/

namespace Orbis.Node.Reporting

open Orbis.Crypto Orbis.Data Orbis.Node.Transport

/-! ## The hashed fields -/

/-- The fields of a document after its ring that are hashed. -/
abbrev HashedFields := Bytes × Bytes × Bytes × Bytes × Bytes × String × String × String ×
  Option String × Option UInt64

def HashedFields.put (fields : HashedFields) : Bytes :=
  let (encCmt, data, nonce, challenge, response, policyId, resource, permission, tier,
    timestamp) := fields
  putBytes encCmt ++ (putBytes data ++ (putBytes nonce ++ (putBytes challenge ++
    (putBytes response ++ (putStr policyId ++ (putStr resource ++ (putStr permission ++
      (putOpt putStr tier ++ putOpt putU64 timestamp))))))))

/-- Every length is in the range of its prefix. -/
def HashedFields.Fits (fields : HashedFields) : Prop :=
  let (encCmt, data, nonce, challenge, response, policyId, resource, permission, tier,
    timestamp) := fields
  encCmt.length < 2 ^ 32 ∧ data.length < 2 ^ 32 ∧ nonce.length < 2 ^ 32 ∧
    challenge.length < 2 ^ 32 ∧ response.length < 2 ^ 32 ∧ (utf8Bytes policyId).length < 2 ^ 32 ∧
    (utf8Bytes resource).length < 2 ^ 32 ∧ (utf8Bytes permission).length < 2 ^ 32 ∧
    (∀ text ∈ tier, (utf8Bytes text).length < 2 ^ 32) ∧ ∀ time ∈ timestamp, True

theorem fits_of_length_put {fields : HashedFields} (h : fields.put.length < 2 ^ 32) :
    fields.Fits := by
  obtain ⟨encCmt, data, nonce, challenge, response, policyId, resource, permission, tier,
    timestamp⟩ := fields
  simp only [HashedFields.put, putStr, putBytes, List.length_append, length_beBytes] at h
  refine ⟨by omega, by omega, by omega, by omega, by omega, by omega, by omega, by omega, ?_,
    fun _ _ => trivial⟩
  rintro text rfl
  simp only [putOpt, putStr, putBytes, List.length_cons, List.length_append] at h
  omega

theorem hashedFields_eq {fields fields' : HashedFields} {s t : Bytes}
    (hfields : fields.Fits) (hfields' : fields'.Fits)
    (heq : fields.put ++ s = fields'.put ++ t) : fields = fields' ∧ s = t := by
  have hfree := prefixFree_putBytes.append (prefixFree_putBytes.append (prefixFree_putBytes.append
    (prefixFree_putBytes.append (prefixFree_putBytes.append (prefixFree_putStr.append
      (prefixFree_putStr.append (prefixFree_putStr.append
        ((prefixFree_putOpt prefixFree_putStr).append
          (prefixFree_putOpt prefixFree_putU64)))))))))
  exact hfree hfields hfields' heq

/-! ## Decoded documents -/

structure DecodedDocument where
  ringId : String
  fields : HashedFields
  tag : Option (PetTag × TagKnowledgeProof)

def decodePetTag [Json PetTag] [Json TagKnowledgeProof] (petTag petTagProof : Option String) :
    Except String (Option (PetTag × TagKnowledgeProof)) :=
  match petTag, petTagProof with
  | none, none => .ok none
  | some tag, some proof => do
      let tag : PetTag ← strictFromStr tag
      let proof : TagKnowledgeProof ← strictFromStr proof
      pure (some (tag, proof))
  | _, _ =>
    .error "Serialization error: pet_tag and pet_tag_proof must be present or absent together"

def decodeDocument [Json Pre.Secret] [Json Pre.EncryptionProof] [Json PetTag]
    [Json TagKnowledgeProof] (document : DocumentPayload) : Except String DecodedDocument := do
  let secret : Pre.Secret ← strictFromStr document.document
  let proof : Pre.EncryptionProof ← strictFromStr document.proof
  let tag ← decodePetTag document.petTag document.petTagProof
  pure ⟨document.ringId, (secret.encCmt, secret.encryptedData, secret.nonce, proof.challenge,
    proof.response, document.policyId, document.resource, document.permission, document.tier,
    document.timestamp), tag⟩

def putTag (t : PetTag × TagKnowledgeProof) : Bytes :=
  putBytes t.1.ephemeralPoint ++ (putBytes t.1.maskedFingerprint ++
    (putBytes t.2.challenge ++ putBytes t.2.response))

def TagFits (t : PetTag × TagKnowledgeProof) : Prop :=
  t.1.ephemeralPoint.length < 2 ^ 32 ∧ t.1.maskedFingerprint.length < 2 ^ 32 ∧
    t.2.challenge.length < 2 ^ 32 ∧ t.2.response.length < 2 ^ 32

theorem prefixFree_putTag : PrefixFreeOn TagFits putTag := by
  have hfree := prefixFree_putBytes.append (prefixFree_putBytes.append
    (prefixFree_putBytes.append prefixFree_putBytes))
  rintro ⟨⟨point, masked⟩, challenge, response⟩
    ⟨⟨point', masked'⟩, challenge', response'⟩ h h' s t heq
  obtain ⟨hsame, hrest⟩ := @hfree (point, masked, challenge, response)
    (point', masked', challenge', response') h h' s t heq
  cases hsame
  exact ⟨rfl, hrest⟩

namespace DecodedDocument

def bytes (document : DecodedDocument) : Bytes :=
  putStr "orbis/document/v1" ++ (putStr document.ringId ++ (document.fields.put ++
    document.tag.toList.flatMap putTag))

/-- Every field is shorter than `2 ^ 32` bytes. -/
def Fits (document : DecodedDocument) : Prop :=
  (utf8Bytes document.ringId).length < 2 ^ 32 ∧ document.fields.Fits ∧ ∀ t ∈ document.tag, TagFits t

theorem fits_of_length {document : DecodedDocument} (h : document.bytes.length < 2 ^ 32) :
    document.Fits := by
  simp only [bytes, List.length_append, putStr, putBytes] at h
  refine ⟨by omega, fits_of_length_put (by omega), fun t ht => ?_⟩
  rw [Option.mem_def.mp ht, Option.toList_some, List.flatMap_singleton] at h
  simp only [putTag, putBytes, List.length_append] at h
  exact ⟨by omega, by omega, by omega, by omega⟩

theorem putTag_ne_nil (t : PetTag × TagKnowledgeProof) : putTag t ≠ [] := by
  intro h
  have hlength := congrArg List.length h
  simp only [putTag, putBytes, List.length_append, length_beBytes, List.length_nil] at hlength
  omega

/-- Nothing marks that there is a tag, but nothing follows it. -/
theorem bytes_injOn {document document' : DecodedDocument} (hfits : document.Fits)
    (hfits' : document'.Fits) (h : document.bytes = document'.bytes) : document = document' := by
  obtain ⟨ringId, fields, tag⟩ := document
  obtain ⟨ringId', fields', tag'⟩ := document'
  obtain ⟨hring, hrest⟩ := prefixFree_putStr hfits.1 hfits'.1 (List.append_cancel_left h)
  obtain ⟨hfields, htags⟩ := hashedFields_eq hfits.2.1 hfits'.2.1 hrest
  simp only at hring hfields
  have htag : tag = tag' := by
    cases tag with
    | none =>
      cases tag' with
      | none => rfl
      | some t' => exact absurd (htags.trans (List.flatMap_singleton ..)).symm (putTag_ne_nil t')
    | some t =>
      cases tag' with
      | none => exact absurd ((List.flatMap_singleton ..).symm.trans htags) (putTag_ne_nil t)
      | some t' =>
        simp only [Option.toList_some, List.flatMap_singleton] at htags
        rw [prefixFree_putTag.injOn (hfits.2.2 t rfl) (hfits'.2.2 t' rfl) htags]
  rw [hring, hfields, htag]

end DecodedDocument

variable [Json PetTag] [Json TagKnowledgeProof]

theorem putOptionalPetTag_eq (petTag petTagProof : Option String) :
    putOptionalPetTag petTag petTagProof =
      (decodePetTag petTag petTagProof).map (·.toList.flatMap putTag) := by
  match petTag, petTagProof with
  | none, none | none, some _ | some _, none => rfl
  | some tag, some proof =>
    simp only [putOptionalPetTag, decodePetTag]
    cases (strictFromStr tag : Except String PetTag) with
    | error e => rfl
    | ok tag =>
      cases (strictFromStr proof : Except String TagKnowledgeProof) with
      | error e => rfl
      | ok proof =>
        simp only [ok_bind, List.append_assoc]
        exact congrArg Except.ok (List.flatMap_singleton ..).symm

variable [Json Pre.Secret] [Json Pre.EncryptionProof]

theorem documentIdBytes_eq (document : DocumentPayload) :
    documentIdBytes document = (decodeDocument document).map DecodedDocument.bytes := by
  unfold documentIdBytes decodeDocument
  rw [putOptionalPetTag_eq]
  cases (strictFromStr document.document : Except String Pre.Secret) with
  | error e => rfl
  | ok secret =>
    cases (strictFromStr document.proof : Except String Pre.EncryptionProof) with
    | error e => rfl
    | ok proof =>
      cases decodePetTag document.petTag document.petTagProof with
      | error e => rfl
      | ok tag =>
        refine congrArg Except.ok ?_
        simp only [DecodedDocument.bytes, HashedFields.put, List.append_assoc]

variable {document : DocumentPayload}

theorem documentIdBytes_eq_ok {bytes : Bytes} (h : documentIdBytes document = .ok bytes) :
    ∃ decoded, decodeDocument document = .ok decoded ∧ bytes = decoded.bytes := by
  rw [documentIdBytes_eq] at h
  cases hdecoded : decodeDocument document with
  | error e => cases hdecoded ▸ h
  | ok decoded =>
    rw [hdecoded] at h
    exact ⟨decoded, rfl, (Except.ok.inj h).symm⟩

variable {document' : DocumentPayload}

/-- The same bytes are hashed only for documents that decode to the same values. -/
theorem same_of_documentIdBytes {bytes : Bytes} (h : documentIdBytes document = .ok bytes)
    (h' : documentIdBytes document' = .ok bytes) (hlength : bytes.length < 2 ^ 32) :
    ∃ decoded, decodeDocument document = .ok decoded ∧ decodeDocument document' = .ok decoded := by
  obtain ⟨decoded, hdecoded, rfl⟩ := documentIdBytes_eq_ok h
  obtain ⟨decoded', hdecoded', heq⟩ := documentIdBytes_eq_ok h'
  obtain rfl := DecodedDocument.bytes_injOn (DecodedDocument.fits_of_length hlength)
    (DecodedDocument.fits_of_length (heq ▸ hlength)) heq
  exact ⟨decoded, hdecoded, hdecoded'⟩

/-- What an access check reads of a document. -/
structure SamePolicy (document document' : DocumentPayload) : Prop where
  policyId : document.policyId = document'.policyId
  resource : document.resource = document'.resource
  permission : document.permission = document'.permission
  tier : document.tier = document'.tier
  timestamp : document.timestamp = document'.timestamp

variable {decoded : DecodedDocument}

theorem decodeDocument_eq_ok (h : decodeDocument document = .ok decoded) :
    decoded.fields.2.2.2.2.2 = (document.policyId, document.resource, document.permission,
        document.tier, document.timestamp) ∧
      decodePetTag document.petTag document.petTagProof = .ok decoded.tag := by
  obtain ⟨secret, -, h⟩ := bind_eq_ok.mp h
  obtain ⟨proof, -, h⟩ := bind_eq_ok.mp h
  obtain ⟨tag, htag, h⟩ := bind_eq_ok.mp h
  cases h
  exact ⟨rfl, htag⟩

theorem samePolicy_of_decoded (h : decodeDocument document = .ok decoded)
    (h' : decodeDocument document' = .ok decoded) : SamePolicy document document' := by
  have hsame := (decodeDocument_eq_ok h).1.symm.trans (decodeDocument_eq_ok h').1
  simp only [Prod.mk.injEq] at hsame
  obtain ⟨hpolicy, hresource, hpermission, htier, htimestamp⟩ := hsame
  exact ⟨hpolicy, hresource, hpermission, htier, htimestamp⟩

variable [Sha256]

/-- The identifier commits to every field of the decoded document, and is none of a key
derivation. -/
theorem document_id_commits {hashed : Set Bytes} (hfree : Set.InjOn sha256 hashed)
    {document document' : DocumentPayload} {decoded decoded' : DecodedDocument}
    (hdecoded : decodeDocument document = .ok decoded)
    (hdecoded' : decodeDocument document' = .ok decoded') (hfits : decoded.Fits)
    (hfits' : decoded'.Fits) :
    (documentIdBytes document = documentIdBytes document' → decoded = decoded') ∧
      (∀ ringId derivation policyId resource permission, documentIdBytes document ≠
        .ok (keyDerivationIdBytes ringId derivation policyId resource permission)) ∧
      ∀ objectId, decoded.bytes ∈ hashed → decoded'.bytes ∈ hashed →
        checkDocumentIdBinding objectId document = .ok () →
        checkDocumentIdBinding objectId document' = .ok () → decoded = decoded' := by
  rw [documentIdBytes_eq, documentIdBytes_eq, hdecoded, hdecoded']
  refine ⟨fun heq => ?_, fun ringId derivation policyId resource permission heq => ?_, ?_⟩
  · exact DecodedDocument.bytes_injOn hfits hfits' (Except.ok.inj heq)
  · -- The domains differ.
    have hbytes := Except.ok.inj heq
    simp only [DecodedDocument.bytes, keyDerivationIdBytes, List.append_assoc] at hbytes
    exact absurd (prefixFree_putStr (by decide) (by decide) hbytes).1 (by decide)
  · intro objectId hmem hmem' hcheck hcheck'
    obtain ⟨bytes, hbytes, hid⟩ := bytes_of_checkDocumentIdBinding hcheck
    obtain ⟨bytes', hbytes', hid'⟩ := bytes_of_checkDocumentIdBinding hcheck'
    rw [documentIdBytes_eq, hdecoded] at hbytes
    rw [documentIdBytes_eq, hdecoded'] at hbytes'
    cases hbytes
    cases hbytes'
    have hdigest := hexEncode_injective (hid.symm.trans hid')
    exact DecodedDocument.bytes_injOn hfits hfits' (hfree hmem hmem' hdigest)

/-! ## The document of the statement -/

theorem sameBytes_of_requireInline {hashed : Set Bytes} {context : ResponseValidationContext}
    {ringId objectId : String} {timestamp : Option UInt64} {evidence : ReportedDocumentEvidence}
    (hfree : Set.InjOn sha256 hashed) (hinline : ∀ document ∈ context.inlineDocument, ∀ bytes,
      documentIdBytes (document.toPayload ringId timestamp) = .ok bytes → bytes ∈ hashed)
    (hown : ∀ bytes, documentIdBytes document = .ok bytes → bytes ∈ hashed)
    (hid : generateDocumentId document = .ok objectId)
    (h : requireInlineDocumentEvidence context ringId objectId timestamp = .ok evidence) :
    ∃ bytes, documentIdBytes (evidence.toPayload ringId timestamp) = .ok bytes ∧
      documentIdBytes document = .ok bytes := by
  unfold requireInlineDocumentEvidence at h
  obtain ⟨_, hpresent, h⟩ := bind_eq_ok.mp h
  obtain ⟨id, hid', h⟩ := bind_eq_ok.mp h
  obtain ⟨hmatch, h⟩ := require_bind_eq_ok.mp h
  cases h
  obtain ⟨bytes, hbytes, rfl⟩ := documentIdBytes_of_generateDocumentId (mapError_eq_ok.mp hid')
  obtain ⟨bytes', hbytes', heq⟩ := documentIdBytes_of_generateDocumentId hid
  have hdigest : sha256 bytes = sha256 bytes' := by
    apply hexEncode_injective
    rw [hmatch, heq]
  have hmem := hinline evidence (okOr_eq_ok.mp hpresent) bytes hbytes
  obtain rfl : bytes = bytes' := hfree hmem (hown bytes' hbytes') hdigest
  exact ⟨bytes, hbytes, hbytes'⟩

end Orbis.Node.Reporting

/-! ## A document with and without a tag -/

namespace Orbis.Node.Reporting.Tagging

open Orbis.Crypto Orbis.Data

open scoped ByteSum PlainDocument

local instance : Json PetTag := ⟨fun _ _ => .ok ⟨[6], [7]⟩⟩

local instance : Json TagKnowledgeProof := ⟨fun _ _ => .ok ⟨[8], [9]⟩⟩

def bare : DocumentPayload :=
  ⟨"ring", "secret", "proof", "policy", "resource", "read", none, none, none, none⟩

def tagged : DocumentPayload := { bare with petTag := some "tag", petTagProof := some "tag proof" }

def bareDecoded : DecodedDocument :=
  ⟨"ring", ([1], [2], [3], [4], [5], "policy", "resource", "read", none, none), none⟩

def taggedDecoded : DecodedDocument :=
  { bareDecoded with tag := some (⟨[6], [7]⟩, ⟨[8], [9]⟩) }

theorem document_id_commits_tagged : documentIdBytes bare ≠ documentIdBytes tagged ∧
    ∀ objectId, checkDocumentIdBinding objectId bare = .ok () →
      checkDocumentIdBinding objectId tagged ≠ .ok () := by
  have hfree : Set.InjOn sha256 {bareDecoded.bytes, taggedDecoded.bytes} :=
    Set.injOn_pair.mpr fun h => absurd h (by decide +kernel)
  have hcommits := document_id_commits hfree (rfl : decodeDocument bare = .ok bareDecoded)
    (rfl : decodeDocument tagged = .ok taggedDecoded)
    (DecodedDocument.fits_of_length (by decide))
    (DecodedDocument.fits_of_length (by decide))
  have hne : bareDecoded ≠ taggedDecoded := fun h => nomatch congrArg DecodedDocument.tag h
  exact ⟨fun h => hne (hcommits.1 h), fun objectId h h' => hne
    (hcommits.2.2 objectId (Set.mem_insert ..) (Set.mem_insert_of_mem _ rfl) h h')⟩

end Orbis.Node.Reporting.Tagging
