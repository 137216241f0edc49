import Orbis.Crypto.Pre.EndToEnd
import Orbis.Node.Transport.Wire

/-!
# What an encryption proof and a reader's signature bind

Both contexts are encoded field by field, so that an encoding and what follows it determine the
context.  An encoding of one kind can also be one of the other, but the two are hashed under
different domains.  So all that verifies with one encryption proof, or with one signature of a
reader, is the same in all fields, unless a hash collides.
-/

namespace Orbis.Node.Binding

open Orbis.Crypto Orbis.Crypto.Pre Orbis.Data Orbis.Node.Transport

/-! ## The encodings -/

abbrev Short (bytes : Bytes) : Prop := bytes.length < 2 ^ 32

abbrev ShortText (text : String) : Prop := Short (utf8Bytes text)

/-- Every length is in the range of its prefix. -/
def FitsTag (tag : PetTagBinding) : Prop :=
  ShortText tag.ringId ∧ Short tag.petPk ∧ Short tag.ephemeralPoint ∧ Short tag.maskedFingerprint

def FitsContext (context : CiphertextContext) : Prop :=
  Short context.ringPk ∧ ShortText context.policyId ∧ ShortText context.resource ∧
    ShortText context.permission ∧ (∀ tier ∈ context.tier, ShortText tier) ∧
    (∀ salt ∈ context.salt, ShortText salt) ∧ ∀ tag ∈ context.petTag, FitsTag tag

def FitsReader (context : ReaderAuthorizationContext) : Prop :=
  ShortText context.chainId ∧ Short context.ringPk ∧ ShortText context.jwtIssuer ∧
    (∀ subject ∈ context.jwtSubject, ShortText subject) ∧ ShortText context.resolvedActor ∧
    ShortText context.jwtId ∧ ShortText context.objectId ∧ Short context.recipientPk ∧
    (∀ derivation ∈ context.derivation, Short derivation) ∧
    (∀ salt ∈ context.salt, ShortText salt) ∧
    ∀ target ∈ context.auditTargetObjectId, ShortText target

theorem prefixFree_putOptU64 : PrefixFreeOn (fun _ => True) (putOpt putU64) :=
  (prefixFree_putOpt prefixFree_putU64).mono fun _ _ _ _ => trivial

theorem prefixFree_putPetTag : PrefixFreeOn FitsTag putPetTag := by
  have hfields := (prefixFree_putStr.append (prefixFree_putBytes.append
    (prefixFree_putBytes.append prefixFree_putBytes))).comp (q := FitsTag)
    (f := fun tag => (tag.ringId, tag.petPk, tag.ephemeralPoint, tag.maskedFingerprint))
    (fun _ h => h) (by rintro ⟨⟩ ⟨⟩ - - heq; cases heq; rfl)
  refine hfields.congr fun tag => ?_
  simp only [putPetTag, List.append_assoc]

theorem prefixFree_canonicalEncode : PrefixFreeOn FitsContext canonicalEncode := by
  have htext := prefixFree_putOpt prefixFree_putStr
  have hfields := (prefixFree_putBytes.append (prefixFree_putStr.append (prefixFree_putStr.append
    (prefixFree_putStr.append (htext.append (prefixFree_putOptU64.append (htext.append
      (prefixFree_putOpt prefixFree_putPetTag)))))))).comp (q := FitsContext)
    (f := fun c => (c.ringPk, c.policyId, c.resource, c.permission, c.tier, c.timestamp, c.salt,
      c.petTag))
    (by
      rintro c ⟨hring, hpolicy, hresource, hpermission, htier, hsalt, htag⟩
      exact ⟨hring, hpolicy, hresource, hpermission, htier, trivial, hsalt, htag⟩)
    (by rintro ⟨⟩ ⟨⟩ - - heq; cases heq; rfl)
  refine hfields.congr fun context => ?_
  simp only [canonicalEncode, List.append_assoc]

theorem prefixFree_canonicalEncodeReaderAuthorization :
    PrefixFreeOn FitsReader canonicalEncodeReaderAuthorization := by
  have htext := prefixFree_putOpt prefixFree_putStr
  have hwindow : PrefixFreeOn (fun _ => True) (putOpt fun window : ValidWindowBinding =>
      putU64 window.start ++ putU64 window.stop) :=
    (prefixFree_putOpt ((prefixFree_putU64.append prefixFree_putU64).comp (q := fun _ => True)
      (f := fun window : ValidWindowBinding => (window.start, window.stop))
      (fun _ _ => ⟨trivial, trivial⟩) (by rintro ⟨⟩ ⟨⟩ - - heq; cases heq; rfl))).mono
      fun _ _ _ _ => trivial
  have hfields := (prefixFree_putStr.append (prefixFree_putBytes.append (prefixFree_putStr.append
    (htext.append (prefixFree_putStr.append (prefixFree_putStr.append (prefixFree_putU64.append
      (prefixFree_putU64.append (prefixFree_putOptU64.append (prefixFree_putStr.append
        (prefixFree_putBytes.append ((prefixFree_putOpt prefixFree_putBytes).append (htext.append
          (hwindow.append htext)))))))))))))).comp (q := FitsReader)
    (f := fun c => (c.chainId, c.ringPk, c.jwtIssuer, c.jwtSubject, c.resolvedActor, c.jwtId,
      c.jwtIssuedTime, c.jwtExpirationTime, c.jwtNotBefore, c.objectId, c.recipientPk,
      c.derivation, c.salt, c.validWindow, c.auditTargetObjectId))
    (by
      rintro c ⟨hchain, hring, hissuer, hsubject, hactor, hid, hobject, hreader, hderivation, hsalt,
        htarget⟩
      exact ⟨hchain, hring, hissuer, hsubject, hactor, hid, trivial, trivial, trivial, hobject,
        hreader, hderivation, hsalt, trivial, htarget⟩)
    (by rintro ⟨⟩ ⟨⟩ - - heq; cases heq; rfl)
  refine hfields.congr fun context => ?_
  simp only [canonicalEncodeReaderAuthorization, List.append_assoc]

/-! ## What is hashed -/

def contextPreimage (context : CiphertextContext) (encCmt : Bytes) : Bytes :=
  utf8Bytes "orbis-context-v1" ++ canonicalEncode context ++ putBytes encCmt

def readerPreimage (context : ReaderAuthorizationContext) : Bytes :=
  utf8Bytes "orbis-reader-authorization-context-v1" ++ canonicalEncodeReaderAuthorization context

theorem contextPreimage_ne_readerPreimage (context : CiphertextContext) (encCmt : Bytes)
    (reader : ReaderAuthorizationContext) :
    contextPreimage context encCmt ≠ readerPreimage reader := by
  intro heq
  have hsixth := congrArg (·[6]?) heq
  simp only [contextPreimage, readerPreimage, List.append_assoc] at hsixth
  rw [List.getElem?_append_left (by decide), List.getElem?_append_left (by decide)] at hsixth
  exact absurd hsixth (by decide)

theorem ofRepr_of_decodeProofScalar {F : Type} [Repr32 F] {name : String} {bytes : Bytes} {c : F}
    (h : decodeProofScalar name bytes = .ok c) : ofRepr bytes = some c := by
  unfold decodeProofScalar at h
  simp only at h
  split at h
  · cases h
  · exact ofRepr_of_decode32 (mapError_eq_ok.mp h)

/-- Parts of 32 bytes each are the same if all of them together are. -/
theorem parts_eq {domain a a' b b' s t : Bytes} (ha : a.length = 32) (ha' : a'.length = 32)
    (hb : b.length = 32) (hb' : b'.length = 32)
    (h : domain ++ a ++ b ++ s = domain ++ a' ++ b' ++ t) : a = a' ∧ s = t := by
  simp only [List.append_assoc] at h
  obtain ⟨hfirst, hrest⟩ := List.append_inj (List.append_cancel_left h) (ha.trans ha'.symm)
  exact ⟨hfirst, (List.append_inj hrest (hb.trans hb'.symm)).2⟩

section

variable {F E : Type} [Field F] [AddCommGroup E] [Module F E] [DecidableEq E]
  [Curve E] [Repr32 F] [Repr32 E] [ScalarHash F] [Sha256]

/-- The commitment to the nonce, as a verifier recomputes it from challenge and response. -/
def nonceCommitment (challenge response : Bytes) (point : E) : E :=
  ((ofRepr response).getD 0 : F) • generator - ((ofRepr challenge).getD 0 : F) • point

variable (F) in
/-- The bytes that a verifier hashes to the challenge. -/
def readerTranscript (rdrPk : E) (context : ReaderAuthorizationContext)
    (signature : ReaderAuthorizationSignature) : Bytes :=
  utf8Bytes "orbis-jubjub-reader-authorization-v1" ++ toRepr rdrPk ++
    toRepr (nonceCommitment (F := F) signature.challenge signature.response rdrPk) ++
    readerAuthorizationContextDigest context

variable (F E) in
def encryptionTranscript (proof : EncryptionProof) (context : CiphertextContext)
    (secret : Secret) : Bytes :=
  let encCmt : E := (ofRepr secret.encCmt).getD 0
  utf8Bytes "orbis-jubjub-policy-binding-proof-v1" ++ toRepr encCmt ++
    toRepr (nonceCommitment (F := F) proof.challenge proof.response encCmt) ++
    contextDigest context secret.encCmt ++ ciphertextDigest secret.nonce secret.encryptedData

variable [LawfulRepr32 F]

theorem hash_readerTranscript {rdrPk : E} {context : ReaderAuthorizationContext}
    {signature : ReaderAuthorizationSignature}
    (h : verifyReaderAuthorization F rdrPk context signature = .ok ()) :
    hashToScalar (readerTranscript F rdrPk context signature) =
      ((ofRepr signature.challenge).getD 0 : F) := by
  unfold verifyReaderAuthorization at h
  split at h
  · cases h
  obtain ⟨challenge, hchallenge, h⟩ := bind_eq_ok.mp h
  obtain ⟨response, hresponse, h⟩ := bind_eq_ok.mp h
  simp only at h
  split at h
  · cases h
  next heq =>
    rw [readerTranscript, nonceCommitment, ofRepr_of_decodeProofScalar hchallenge,
      ofRepr_of_decodeProofScalar hresponse]
    exact (toRepr_injective (not_not.mp heq)).symm

theorem hash_encryptionTranscript {proof : EncryptionProof} {context : CiphertextContext}
    {secret : Secret} (h : verifyEncryption F E proof context secret = .ok ()) :
    secret.encCmt.length = 32 ∧ hashToScalar (encryptionTranscript F E proof context secret) =
      ((ofRepr proof.challenge).getD 0 : F) := by
  unfold verifyEncryption at h
  simp only at h
  split at h
  · cases h
  next hlength =>
    refine ⟨not_not.mp hlength, ?_⟩
    obtain ⟨encCmt, hencCmt, h⟩ := bind_eq_ok.mp h
    have hrepr := ofRepr_of_decode32 (mapError_eq_ok.mp hencCmt)
    split at h
    · cases h
    split at h
    · cases h
    split at h
    · cases h
    obtain ⟨challenge, hchallenge, h⟩ := bind_eq_ok.mp h
    obtain ⟨response, hresponse, h⟩ := bind_eq_ok.mp h
    split at h
    · cases h
    next heq =>
      rw [encryptionTranscript, hrepr, nonceCommitment, ofRepr_of_decodeProofScalar hchallenge,
        ofRepr_of_decodeProofScalar hresponse]
      exact (toRepr_injective (not_not.mp heq)).symm

variable [LawfulRepr32 E] [LawfulSha256]

variable (hashed challenged : Set Bytes)

variable (F) in
/-- The signature serves the request; what is hashed for it is among the hashed bytes. -/
structure ServesReader (signature : ReaderAuthorizationSignature) (rdrPk : E)
    (context : ReaderAuthorizationContext) : Prop where
  fits : FitsReader context
  verified : verifyReaderAuthorization F rdrPk context signature = .ok ()
  transcript : readerTranscript F rdrPk context signature ∈ challenged
  preimage : readerPreimage context ∈ hashed

variable (F E) in
structure ServesDocument (proof : EncryptionProof) (context : CiphertextContext)
    (secret : Secret) : Prop where
  fits : FitsContext context
  verified : verifyEncryption F E proof context secret = .ok ()
  transcript : encryptionTranscript F E proof context secret ∈ challenged
  preimage : contextPreimage context secret.encCmt ∈ hashed

/-- The encodings determine their contexts, and the two kinds are hashed to different ends.  Where
the hashes do not collide, a signature serves one key and one request, and an encryption proof one
context. -/
theorem contexts_bind_fields :
    (∀ context other, FitsContext context → FitsContext other →
      canonicalEncode context = canonicalEncode other → context = other) ∧
    (∀ context other, FitsReader context → FitsReader other →
      canonicalEncodeReaderAuthorization context = canonicalEncodeReaderAuthorization other →
        context = other) ∧
    (∀ context encCmt reader, contextPreimage context encCmt ≠ readerPreimage reader) ∧
    (Set.InjOn sha256 hashed → Set.InjOn (hashToScalar : Bytes → F) challenged →
      (∀ signature (rdrPk rdrPk' : E) context context',
        ServesReader F hashed challenged signature rdrPk context →
        ServesReader F hashed challenged signature rdrPk' context' →
          rdrPk = rdrPk' ∧ context = context') ∧
      ∀ proof context context' secret secret',
        ServesDocument F E hashed challenged proof context secret →
        ServesDocument F E hashed challenged proof context' secret' → context = context') := by
  refine ⟨fun _ _ h h' => prefixFree_canonicalEncode.injOn h h',
    fun _ _ h h' => prefixFree_canonicalEncodeReaderAuthorization.injOn h h',
    contextPreimage_ne_readerPreimage, fun hsha hscalar => ⟨?_, ?_⟩⟩
  · intro signature rdrPk rdrPk' context context' h h'
    have htranscript := hscalar h.transcript h'.transcript
      ((hash_readerTranscript h.verified).trans (hash_readerTranscript h'.verified).symm)
    obtain ⟨hkey, hdigest⟩ := parts_eq (LawfulRepr32.length_toRepr _) (LawfulRepr32.length_toRepr _)
      (LawfulRepr32.length_toRepr _) (LawfulRepr32.length_toRepr _) htranscript
    refine ⟨toRepr_injective hkey, ?_⟩
    exact prefixFree_canonicalEncodeReaderAuthorization.injOn h.fits h'.fits
      (List.append_cancel_left (hsha h.preimage h'.preimage hdigest))
  · intro proof context context' secret secret' h h'
    obtain ⟨hlength, hhash⟩ := hash_encryptionTranscript h.verified
    obtain ⟨hlength', hhash'⟩ := hash_encryptionTranscript h'.verified
    have htranscript := hscalar h.transcript h'.transcript (hhash.trans hhash'.symm)
    unfold encryptionTranscript at htranscript
    simp only [List.append_assoc _ _ (ciphertextDigest _ _)] at htranscript
    have hdigests := (parts_eq (LawfulRepr32.length_toRepr _) (LawfulRepr32.length_toRepr _)
      (LawfulRepr32.length_toRepr _) (LawfulRepr32.length_toRepr _) htranscript).2
    have hdigest := (List.append_inj hdigests ((LawfulSha256.length_sha256 _).trans
      (LawfulSha256.length_sha256 _).symm)).1
    have hpreimage : contextPreimage context secret.encCmt =
        contextPreimage context' secret'.encCmt := hsha h.preimage h'.preimage hdigest
    unfold contextPreimage at hpreimage
    rw [List.append_assoc, List.append_assoc] at hpreimage
    exact (prefixFree_canonicalEncode h.fits h'.fits (List.append_cancel_left hpreimage)).1

end

open scoped Transport.Plain

/-- A reader's signature does not serve the request with another salt. -/
theorem contexts_bind_fields_salt :
    let signature := signReaderAuthorization (1 : F7) 3 (3 : F7) toyReaderContext
    verifyReaderAuthorization F7 (3 : F7) toyReaderContext signature = .ok () ∧
      verifyReaderAuthorization F7 (3 : F7) { toyReaderContext with salt := some "b" } signature ≠
        .ok () := by
  intro signature
  have hverified : verifyReaderAuthorization F7 (3 : F7) toyReaderContext signature = .ok () := by
    decide +kernel
  refine ⟨hverified, fun h => ?_⟩
  let other := { toyReaderContext with salt := some "b" }
  have hsha : Set.InjOn sha256 {readerPreimage toyReaderContext, readerPreimage other} :=
    Set.injOn_pair.mpr fun h => absurd h (by decide +kernel)
  have hscalar : Set.InjOn (hashToScalar : Bytes → F7) {readerTranscript F7 (3 : F7)
      toyReaderContext signature, readerTranscript F7 (3 : F7) other signature} :=
    Set.injOn_pair.mpr fun h => absurd h (by decide +kernel)
  have hfits : FitsReader toyReaderContext ∧ FitsReader other := by
    unfold FitsReader
    decide +kernel
  have hserved := (contexts_bind_fields (F := F7) (E := F7) _ _).2.2.2 hsha hscalar
  exact absurd (hserved.1 signature 3 3 toyReaderContext other
    ⟨hfits.1, hverified, .inl rfl, .inl rfl⟩ ⟨hfits.2, h, .inr rfl, .inr rfl⟩).2 (by decide)

/-- An encoding of a context is also one of a request. -/
theorem encodings_coincide : ∃ context reader, FitsContext context ∧ FitsReader reader ∧
    canonicalEncode context = canonicalEncodeReaderAuthorization reader := by
  refine ⟨⟨[], "", "", "", none, none, none, some ⟨"", List.replicate 270 0, [], []⟩⟩,
    ⟨"", [], "", none, "", String.ofList ([0, 0, 0, 0, 0, 1, 14].map Char.ofNat ++
      List.replicate 249 (Char.ofNat 0)), 0, 0, none, "", [], none, none, none, none⟩, ?_⟩
  unfold FitsContext FitsReader FitsTag
  decide +kernel

end Orbis.Node.Binding
