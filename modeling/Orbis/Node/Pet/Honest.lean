import Orbis.Node.Pet.Certificate
import Orbis.Node.Pet.Rounds

/-!
# Honest attempts

An attempt fixes a sharing of the checking key, the request, the tag and the target.  Members that
hold their shares of it answer every round, and what they answer passes every check.
-/

namespace Orbis.Node.Pet

open Orbis.Algebra Orbis.Crypto Orbis.Crypto.Pet Orbis.Data
open RingShareBundle (Storage loadByPetRingKey)

/-- The coefficients of the sharing, the request, and the points of the tag and the target. -/
structure Attempt (F E : Type) where
  coeffs : List F
  ring : RingPayload
  ctx : PetCheckContext
  chainId : String
  version : UInt64
  actorId : String
  coordinatorNodeKey : String
  attemptId : String
  R : E
  fingerprint : E
  target : E

variable {F E : Type} [Field F] [AddCommGroup E] [Module F E] [Curve E] [Repr32 E]

namespace Attempt

def key (a : Attempt F E) : F := powerSum a.coeffs (0 : F)

def keyShare (a : Attempt F E) (nodeId : ℕ) : F := powerSum a.coeffs (nodeId : F)

def masked (a : Attempt F E) : E := a.fingerprint + a.key • a.R

def tag (a : Attempt F E) : PetTag := tagOf a.key a.R a.fingerprint

def petPkHex (a : Attempt F E) : String := hexEncode (toRepr (a.key • (generator : E)))

/-- The ring has the sharing's threshold and key, and neither the key nor a point of the tag is
trivial.  The public polynomial fits into its encoding. -/
structure Valid (a : Attempt F E) : Prop where
  threshold : a.ring.threshold = a.coeffs.length
  pos : 0 < a.coeffs.length
  fits : a.coeffs.length ≤ maxThreshold
  members : a.ring.peerNodeKeys.length < 2 ^ 32
  order : a.ring.peerNodeKeys.length < order E
  key_ne : a.key ≠ 0
  R_ne : a.R ≠ 0
  masked_ne : a.masked ≠ 0
  petPk : a.ring.petPk = some a.petPkHex
  requiresPet : a.ring.requiresPet = true
  polynomial : a.ctx.publicPolynomial = (publicPolynomial E a.coeffs).toBytes

/-- The node stores this generation of the ring's checking key. -/
def Stores (a : Attempt F E) (storage : Storage) (bundle : RingShareBundle) : Prop :=
  loadByPetRingKey storage a.ctx.document.ringId = .ok bundle ∧
    bundle.publicPolynomial = hexEncode (publicPolynomial E a.coeffs).toBytes

variable {a : Attempt F E} {blinder : Blinder F} {selected : List (Blinder F)}

theorem Valid.decode [DecidableEq E] [LawfulRepr32 E] [PrimeOrder F E] (h : a.Valid) :
    decode F a.ctx.publicPolynomial a.ring.threshold a.petPkHex =
      .ok (publicPolynomial E a.coeffs) := by
  rw [h.polynomial, h.threshold]
  exact decode_publicPolynomial h.pos h.fits h.key_ne

theorem Valid.matchBundle [DecidableEq E] [LawfulRepr32 E] [PrimeOrder F E]
    (h : a.Valid) {storage : Storage} {bundle : RingShareBundle}
    (hstores : a.Stores storage bundle) :
    matchBundle F bundle a.ctx.publicPolynomial a.ring.threshold a.petPkHex =
      .ok (publicPolynomial E a.coeffs) := by
  rw [h.polynomial, h.threshold]
  exact matchBundle_publicPolynomial h.pos h.fits h.key_ne hstores.2

variable [Sha256]

def blindContext (a : Attempt F E) : PetBlindContext :=
  buildPetBlindContext a.chainId a.ring a.petPkHex a.version Crypto.Pet.name a.ctx a.actorId
    a.coordinatorNodeKey a.attemptId

def request (a : Attempt F E) : VerifiedRequest E :=
  ⟨a.tag, a.petPkHex, a.ring, a.ctx, a.blindContext, a.target⟩

/-! ## The first two rounds -/

def diffPoint (a : Attempt F E) : E := a.masked - a.target

def commitment (a : Attempt F E) (blinder : Blinder F) : Bytes :=
  petBlindCommitHash a.attemptId a.blindContext.contextDigest blinder.nodeId blinder.commitSalt
    (toRepr (blinder.z • a.R)) (toRepr (blinder.z • a.diffPoint))

def allCommitments (a : Attempt F E) (selected : List (Blinder F)) : List (ℕ × Bytes) :=
  selected.map fun blinder => (blinder.nodeId, a.commitment blinder)

theorem length_commitment [LawfulSha256]
    (blinder : Blinder F) : (a.commitment blinder).length = 32 :=
  LawfulSha256.length_sha256 _

theorem nodup_allCommitments (hnd : (selected.map (·.nodeId)).Nodup) :
    ((a.allCommitments selected).map (·.1)).Nodup := by
  unfold allCommitments
  rwa [List.map_map]

theorem mem_allCommitments (hmem : blinder ∈ selected) :
    (blinder.nodeId, a.commitment blinder) ∈ a.allCommitments selected :=
  List.mem_map.mpr ⟨blinder, hmem, rfl⟩

theorem checkSelected_allCommitments [LawfulSha256]
    {duplicate : ℕ → PetError} {badLength : PetError}
    (hnd : (selected.map (·.nodeId)).Nodup) :
    checkSelected duplicate badLength [] (a.allCommitments selected) = .ok () := by
  apply checkSelected_of_nodup (nodup_allCommitments hnd) fun _ _ => List.not_mem_nil
  exact List.forall_mem_map.mpr fun blinder _ => length_commitment blinder

def selectionDigest (a : Attempt F E) (selected : List (Blinder F)) : Bytes :=
  petBlindSelectionDigest a.attemptId a.blindContext.contextDigest (a.allCommitments selected)

def pending (a : Attempt F E) (blinder : Blinder F) : PendingBlinding F :=
  ⟨blinder.z, blinder.commitSalt, blinder.nodeId, a.blindContext.contextDigest,
    a.commitment blinder⟩

def blindTranscriptDigest (a : Attempt F E) (selected : List (Blinder F)) (blinder : Blinder F) :
    Bytes :=
  petBlindProofTranscriptDigest a.attemptId a.blindContext.contextDigest
    (a.selectionDigest selected) blinder.nodeId (a.commitment blinder)

variable [Blake2bScalarHash F]

def blinding (a : Attempt F E) (selected : List (Blinder F)) (blinder : Blinder F) :
    BlindingReply F E :=
  honestBlinding blinder.revealNonce blinder.z a.R a.diffPoint
    (a.blindTranscriptDigest selected blinder)

theorem Valid.proveBlinding [DecidableEq E] [LawfulRepr32 E]
    (h : a.Valid) (w : F) {z : F} (hz : z ≠ 0) (digest : Bytes) :
    proveBlindingCorrectness w z a.request.tag a.request.targetFingerprint digest =
      .ok (honestBlinding w z a.R a.diffPoint digest) :=
  proveBlindingCorrectness_eq h.R_ne h.masked_ne w hz digest

variable [Repr32 F]

def revealStatement (a : Attempt F E) (selected : List (Blinder F)) (blinder : Blinder F) :
    PetBlindRevealStatement where
  domain := petBlindRevealResponseDomain
  chainId := a.chainId
  ringId := a.ctx.document.ringId
  ringPk := a.ring.ringPk
  ringStateSha256 := ringStateSha256 a.ring
  protocolVersion := a.version
  attemptId := a.attemptId
  contextDigest := a.blindContext.contextDigest
  selectionDigest := a.selectionDigest selected
  responderNodeKey := blinder.responder.nodeKey
  fromNodeId := blinder.nodeId
  commitment := a.commitment blinder
  blindedR := toRepr (a.blinding selected blinder).blindedR
  blindedDiff := toRepr (a.blinding selected blinder).blindedDiff
  commitSalt := blinder.commitSalt
  challenge := toRepr (a.blinding selected blinder).challenge
  proof := toRepr (a.blinding selected blinder).proof
  signedAt := blinder.signedAt

variable [NodeSigning]

/-- The node is the ring's member `nodeId`, signs with its key and holds its share. -/
structure Holds (a : Attempt F E) (responder : Responder) (nodeId : ℕ) : Prop where
  nodeKey : nodeKeyForId nodeId a.ring.peerNodeKeys = some responder.nodeKey
  signs : SigningPair responder.signingKeyHex responder.nodeKey
  stores : ∃ bundle, a.Stores responder.petStorage bundle ∧
    bundle.shareBytes = (⟨nodeId, a.keyShare nodeId⟩ : PriShare F).toBytes

section Rounds

variable [DecidableEq E] [LawfulRepr32 F] [LawfulRepr32 E]

theorem verifyOneReveal_revealStatement (h : a.Valid)
    (hholds : a.Holds blinder.responder blinder.nodeId) (hz : blinder.z ≠ 0) {signature : Bytes}
    (hverify : NodeSigning.verify blinder.responder.nodeKey
      (a.revealStatement selected blinder).canonicalBytes signature = .ok ()) :
    verifyOneReveal F (a.revealStatement selected blinder) signature a.ring a.tag a.target
        (a.commitment blinder) (a.selectionDigest selected) =
      .ok (blinder.z • a.R, blinder.z • a.diffPoint) := by
  have hdecode : decodeReveal (a.revealStatement selected blinder) =
      some (a.blinding selected blinder) := decodeReveal_toRepr rfl rfl rfl rfl
  have hproof : verifyBlindingCorrectness a.tag a.target (a.blinding selected blinder)
      (a.blindTranscriptDigest selected blinder) = .ok () :=
    verifyBlindingCorrectness_honestBlinding h.R_ne h.masked_ne hz
  refine bind_eq_ok.mpr ⟨_, okOr_eq_ok.mpr hholds.nodeKey, ?_⟩
  refine require_bind_eq_ok.mpr ⟨rfl, ?_⟩
  refine bind_eq_ok.mpr ⟨(), mapError_eq_ok.mpr hverify, ?_⟩
  refine require_bind_eq_ok.mpr ⟨rfl, ?_⟩
  refine require_bind_eq_ok.mpr ⟨rfl, ?_⟩
  refine require_bind_eq_ok.mpr ⟨rfl, ?_⟩
  refine bind_eq_ok.mpr ⟨_, okOr_eq_ok.mpr hdecode, ?_⟩
  exact bind_eq_ok.mpr ⟨(), mapError_eq_ok.mpr hproof, rfl⟩

variable [PrimeOrder F E]

omit [Blake2bScalarHash F] in
theorem Holds.member (h : a.Valid) {responder : Responder} {nodeId : ℕ}
    (hholds : a.Holds responder nodeId) :
    ∃ bundle, a.Stores responder.petStorage bundle ∧
      responder.member a.request bundle = .ok (⟨nodeId, a.keyShare nodeId⟩ : PriShare F) := by
  obtain ⟨bundle, hstores, hshare⟩ := hholds.stores
  refine ⟨bundle, hstores, ?_⟩
  unfold Responder.member
  rw [show matchBundle F bundle a.request.ctx.publicPolynomial a.request.ringPayload.threshold
    a.request.petPkHex = _ from h.matchBundle hstores, ok_bind]
  exact memberShare_publicPolynomial h.pos h.fits hstores.2 h.members hholds.nodeKey hshare

theorem commit_eq (h : a.Valid) (hholds : a.Holds blinder.responder blinder.nodeId)
    (hz : blinder.z ≠ 0) : blinder.commit a.request = .ok (a.pending blinder) := by
  obtain ⟨bundle, hstores, hmember⟩ := hholds.member h
  have hload : loadByPetRingKey blinder.responder.petStorage a.request.ctx.document.ringId =
      .ok bundle := hstores.1
  unfold Blinder.commit Responder.handleCommitRequest
  rw [hload, mapError_ok, ok_bind, hmember, ok_bind, h.proveBlinding _ hz, mapError_ok, ok_bind]
  rfl

theorem reveal_eq [LawfulSha256] (h : a.Valid) (hholds : a.Holds blinder.responder blinder.nodeId)
    (hz : blinder.z ≠ 0) (hcount : selected.length = a.coeffs.length)
    (hnd : (selected.map (·.nodeId)).Nodup) (hmem : blinder ∈ selected) :
    ∃ signature, blinder.reveal a.request (a.allCommitments selected) =
        .ok ⟨a.revealStatement selected blinder, signature⟩ ∧
      NodeSigning.verify blinder.responder.nodeKey
        (a.revealStatement selected blinder).canonicalBytes signature = .ok () := by
  obtain ⟨bundle, hstores, hmember⟩ := hholds.member h
  obtain ⟨signature, hsign, hverify⟩ :=
    hholds.signs (a.revealStatement selected blinder).canonicalBytes
  have hload : loadByPetRingKey blinder.responder.petStorage a.request.ctx.document.ringId =
      .ok bundle := hstores.1
  have hlength : (a.allCommitments selected).length = a.request.ringPayload.threshold := by
    rw [allCommitments, List.length_map, hcount]
    exact h.threshold.symm
  have honce : (a.allCommitments selected).filter (·.1 = (a.pending blinder).nodeId) =
      [((a.pending blinder).nodeId, (a.pending blinder).commitment)] :=
    filter_key_of_nodup (nodup_allCommitments hnd) (mem_allCommitments hmem)
  have hnode : (a.pending blinder).nodeId =
      (⟨blinder.nodeId, a.keyShare blinder.nodeId⟩ : PriShare F).i := rfl
  have hcontext : (a.pending blinder).contextDigest = a.request.blindContext.contextDigest := rfl
  have hprove := h.proveBlinding blinder.revealNonce hz (a.blindTranscriptDigest selected blinder)
  refine ⟨signature, ?_, hverify⟩
  unfold Blinder.reveal Responder.handleRevealRequest
  simp only
  rw [commit_eq h hholds hz, ok_bind, hload, mapError_ok, ok_bind, hmember, ok_bind,
    require_bind hlength, checkSelected_allCommitments hnd, ok_bind, require_bind hnode,
    require_bind hcontext, require_bind honce]
  exact bind_eq_ok.mpr ⟨_, mapError_eq_ok.mpr hprove,
    bind_eq_ok.mpr ⟨signature, mapError_eq_ok.mpr hsign, rfl⟩⟩

/-- The certificate of reveals with the given signatures. -/
def certificate (a : Attempt F E) (selected revealed : List (Blinder F))
    (signature : Blinder F → Bytes) : PetBlindCertificate :=
  ⟨a.ctx.publicPolynomial, a.attemptId, a.blindContext.contextDigest, a.allCommitments selected,
    revealed.map fun blinder => ⟨a.revealStatement selected blinder, signature blinder⟩⟩

def totalBlinding (selected : List (Blinder F)) : F := (selected.map (·.z)).sum

/-- The members of the first two rounds: a threshold of different members, with blindings that
are not zero and do not cancel, who reveal in some order. -/
structure Selected (a : Attempt F E) (selected revealed : List (Blinder F)) : Prop where
  count : selected.length = a.coeffs.length
  nodup : (selected.map (·.nodeId)).Nodup
  holds : ∀ blinder ∈ selected, a.Holds blinder.responder blinder.nodeId
  z_ne : ∀ blinder ∈ selected, blinder.z ≠ 0
  total_ne : totalBlinding selected ≠ 0
  perm : revealed.Perm selected

variable {revealed : List (Blinder F)} {signature : Blinder F → Bytes}

/-- The certificate check succeeds, with the multiples of the tag's point and of its distance by
the sum of the blindings. -/
theorem buildAndVerify_certificate [LawfulSha256]
    (h : a.Valid) (hsel : a.Selected selected revealed)
    (hverify : ∀ blinder ∈ selected, NodeSigning.verify blinder.responder.nodeKey
      (a.revealStatement selected blinder).canonicalBytes (signature blinder) = .ok ()) :
    buildAndVerifyPetBlindCertificate F (a.certificate selected revealed signature) a.ring a.tag
        a.target a.blindContext =
      .ok (totalBlinding selected • a.R, totalBlinding selected • a.diffPoint) := by
  set cert := a.certificate selected revealed signature
  have hmem : ∀ blinder ∈ revealed, blinder ∈ selected := fun _ hb => hsel.perm.mem_iff.mp hb
  have hsumR : (cert.reveals.map revealedR).sum = totalBlinding selected • a.R := by
    rw [totalBlinding, ← (hsel.perm.map _).sum_eq, List.sum_smul, List.map_map,
      show cert.reveals = revealed.map _ from rfl, List.map_map]
    congr 1
    exact List.map_congr_left fun blinder _ => revealedR_eq (Element.fromBytes_toRepr _)
  have hsumDiff : (cert.reveals.map revealedDiff).sum = totalBlinding selected • a.diffPoint := by
    rw [totalBlinding, ← (hsel.perm.map _).sum_eq, List.sum_smul, List.map_map,
      show cert.reveals = revealed.map _ from rfl, List.map_map]
    congr 1
    exact List.map_congr_left fun blinder _ => revealedDiff_eq (Element.fromBytes_toRepr _)
  have hmatches : CertificateMatches cert a.ring a.blindContext :=
    ⟨rfl, rfl, rfl, rfl, rfl, h.petPk, h.requiresPet, rfl⟩
  have hselected : cert.allCommitments.length = a.ring.threshold := by
    rw [h.threshold, ← hsel.count]
    exact List.length_map _
  have hrevealed : cert.reveals.length = a.ring.threshold := by
    rw [h.threshold, ← hsel.count, ← hsel.perm.length_eq]
    exact List.length_map _
  have hlength : ∀ c ∈ cert.allCommitments, c.2.length = 32 :=
    List.forall_mem_map.mpr fun blinder _ => length_commitment blinder
  have hreveals : (cert.reveals.map (·.statement.fromNodeId)).Nodup := by
    rw [show cert.reveals = revealed.map _ from rfl, List.map_map]
    exact (hsel.perm.map (·.nodeId)).nodup_iff.mpr hsel.nodup
  have hchecked : ∀ reveal ∈ cert.reveals, RevealChecked F cert a.ring a.tag a.target
      a.blindContext (a.selectionDigest selected) reveal := by
    intro reveal hreveal
    obtain ⟨blinder, hblinder, rfl⟩ := List.mem_map.mp hreveal
    have hin := hmem blinder hblinder
    have hfind : cert.allCommitments.find? (·.1 = blinder.nodeId) =
        some (blinder.nodeId, a.commitment blinder) :=
      find?_key_of_nodup (nodup_allCommitments hsel.nodup) (mem_allCommitments hin)
    have hmatch : (a.revealStatement selected blinder).signedContext.matches
        petBlindRevealResponseDomain a.blindContext = true :=
      decide_eq_true ⟨rfl, rfl, rfl, rfl, rfl, rfl⟩
    exact ⟨hmatch, rfl, rfl, _, _, hfind, verifyOneReveal_revealStatement h (hsel.holds _ hin)
      (hsel.z_ne _ hin) (hverify _ hin)⟩
  have hne : (cert.reveals.map revealedR).sum ≠ (0 : E) := by
    rw [hsumR]
    exact smul_ne_zero hsel.total_ne h.R_ne
  rw [← hsumR, ← hsumDiff]
  exact buildAndVerifyPetBlindCertificate_of_checked h.decode hmatches hselected
    (nodup_allCommitments hsel.nodup) hlength hrevealed hreveals hchecked hne

/-! ## Decryption -/

def decryption (a : Attempt F E) (total : F) (decryptor : Decryptor F) : PetCheckReply F E :=
  honestCheck decryptor.nonce (a.keyShare decryptor.nodeId) decryptor.nodeId (total • a.R)

def decryptStatement (a : Attempt F E) (certificate : PetBlindCertificate) (total : F)
    (decryptor : Decryptor F) : PetBlindDecryptStatement where
  domain := petBlindDecryptResponseDomain
  chainId := a.chainId
  ringId := a.ctx.document.ringId
  ringPk := a.ring.ringPk
  ringStateSha256 := ringStateSha256 a.ring
  protocolVersion := a.version
  attemptId := a.attemptId
  contextDigest := a.blindContext.contextDigest
  certificateDigest := certificate.certificateDigest
  responderNodeKey := decryptor.responder.nodeKey
  fromNodeId := decryptor.nodeId
  aggregateR := toRepr (total • a.R)
  aggregateDiff := toRepr (total • a.diffPoint)
  partialPoint := toRepr (a.decryption total decryptor).share.v
  challenge := toRepr (a.decryption total decryptor).challenge
  proof := toRepr (a.decryption total decryptor).proof
  signedAt := decryptor.signedAt
  publicPolynomial := a.ctx.publicPolynomial

variable {cert : PetBlindCertificate} {total : F} {decryptor : Decryptor F}

theorem decrypt_eq (h : a.Valid) (hholds : a.Holds decryptor.responder decryptor.nodeId)
    (htotal : total ≠ 0) (hattempt : cert.attemptId = a.attemptId)
    (hcontext : cert.contextDigest = a.blindContext.contextDigest)
    (hcert : buildAndVerifyPetBlindCertificate F cert a.ring a.tag a.target a.blindContext =
      .ok (total • a.R, total • a.diffPoint)) :
    ∃ signature, decryptor.decrypt a.request cert =
        .ok ⟨a.decryptStatement cert total decryptor, signature⟩ ∧
      NodeSigning.verify decryptor.responder.nodeKey
        (a.decryptStatement cert total decryptor).canonicalBytes signature = .ok () := by
  obtain ⟨bundle, hstores, hmember⟩ := hholds.member h
  obtain ⟨signature, hsign, hverify⟩ :=
    hholds.signs (a.decryptStatement cert total decryptor).canonicalBytes
  have hpoly : hexDecode bundle.publicPolynomial = some a.ctx.publicPolynomial := by
    rw [hstores.2, hexDecode_hexEncode, h.polynomial]
  have hcheck : partialPetCheck decryptor.nonce (a.keyShare decryptor.nodeId) decryptor.nodeId
      ⟨toRepr (total • a.R), []⟩ = .ok (a.decryption total decryptor) :=
    partialPetCheck_eq (smul_ne_zero htotal h.R_ne) _ _ _ _
  refine ⟨signature, ?_, hverify⟩
  refine require_bind_eq_ok.mpr ⟨⟨hattempt, hcontext⟩, ?_⟩
  refine bind_eq_ok.mpr ⟨_, hcert, ?_⟩
  refine bind_eq_ok.mpr ⟨bundle, mapError_eq_ok.mpr hstores.1, ?_⟩
  refine bind_eq_ok.mpr ⟨_, hmember, ?_⟩
  refine bind_eq_ok.mpr ⟨_, okOr_eq_ok.mpr hpoly, ?_⟩
  refine bind_eq_ok.mpr ⟨_, mapError_eq_ok.mpr hcheck, ?_⟩
  exact bind_eq_ok.mpr ⟨signature, mapError_eq_ok.mpr hsign, rfl⟩

omit [PrimeOrder F E] in
theorem verifyOneDecrypt_decryptStatement (h : a.Valid)
    (hholds : a.Holds decryptor.responder decryptor.nodeId) (htotal : total ≠ 0)
    {signature : Bytes}
    (hverify : NodeSigning.verify decryptor.responder.nodeKey
      (a.decryptStatement cert total decryptor).canonicalBytes signature = .ok ()) :
    verifyOneDecrypt F (a.decryptStatement cert total decryptor) signature a.ring
        (publicPolynomial E a.coeffs) ⟨a.blindContext.contextDigest, cert.certificateDigest,
          a.attemptId, toRepr (total • a.R), toRepr (total • a.diffPoint)⟩ a.blindContext =
      .ok ⟨decryptor.nodeId, a.keyShare decryptor.nodeId • (total • a.R)⟩ := by
  have hmatch : (a.decryptStatement cert total decryptor).signedContext.matches
      petBlindDecryptResponseDomain a.blindContext = true :=
    decide_eq_true ⟨rfl, rfl, rfl, rfl, rfl, rfl⟩
  have hdecode : decodeDecrypt (a.decryptStatement cert total decryptor) =
      some (a.decryption total decryptor) := decodeDecrypt_toRepr rfl rfl rfl rfl
  have hproof : verifyPartialPetCheck (publicPolynomial E a.coeffs) ⟨toRepr (total • a.R), []⟩
      (a.decryption total decryptor) = .ok () :=
    verifyPartialPetCheck_honestCheck (smul_ne_zero htotal h.R_ne) (eval_publicPolynomial _ _)
  refine require_bind_eq_ok.mpr ⟨hmatch, ?_⟩
  refine require_bind_eq_ok.mpr ⟨rfl, ?_⟩
  refine require_bind_eq_ok.mpr ⟨rfl, ?_⟩
  refine require_bind_eq_ok.mpr ⟨rfl, ?_⟩
  refine require_bind_eq_ok.mpr ⟨⟨rfl, rfl⟩, ?_⟩
  refine bind_eq_ok.mpr ⟨_, okOr_eq_ok.mpr hholds.nodeKey, ?_⟩
  refine require_bind_eq_ok.mpr ⟨rfl, ?_⟩
  refine bind_eq_ok.mpr ⟨(), mapError_eq_ok.mpr hverify, ?_⟩
  refine require_bind_eq_ok.mpr ⟨rfl, ?_⟩
  refine bind_eq_ok.mpr ⟨_, okOr_eq_ok.mpr hdecode, ?_⟩
  exact bind_eq_ok.mpr ⟨(), mapError_eq_ok.mpr hproof, rfl⟩

end Rounds

end Attempt

end Orbis.Node.Pet
