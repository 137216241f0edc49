import Orbis.Node.Pet.Honest

/-!
# The decision of the ownership check

Honest rounds end in evidence whose combined decryption share is the tag's point times the
checking key and the sum of the blindings, and the evidence is accepted exactly if the tag hides
the target.  Evidence of any origin that is accepted, and whose proofs are for true relations, is
for the tag's own fingerprint.
-/

namespace Orbis.Node.Pet

open Orbis.Algebra Orbis.Crypto Orbis.Crypto.Pet Orbis.Data
open RingShareBundle (Storage loadByPetRingKey)

section Decision

variable {F E : Type} [Field F] [AddCommGroup E] [Module F E] [DecidableEq E] [Curve E] [Repr32 F]
  [Repr32 E] [Blake2bScalarHash F] [Sha256] [NodeSigning]

namespace Attempt

/-- The members of the last round: at least a threshold of different members. -/
structure Decrypting (a : Attempt F E) (decryptors : List (Decryptor F)) : Prop where
  enough : a.coeffs.length ≤ decryptors.length
  nodup : (decryptors.map (·.nodeId)).Nodup
  holds : ∀ decryptor ∈ decryptors, a.Holds decryptor.responder decryptor.nodeId

/-- What the decryption statements of a certificate have to repeat. -/
def expectedDecrypt (a : Attempt F E) (certificate : PetBlindCertificate) (total : F) :
    ExpectedDecrypt :=
  ⟨a.blindContext.contextDigest, certificate.certificateDigest, a.attemptId,
    toRepr (total • a.R), toRepr (total • a.diffPoint)⟩

def evidence (a : Attempt F E) (cert : PetBlindCertificate) (total : F)
    (decryptors : List (Decryptor F)) (signature : Decryptor F → Bytes) : PetBlindEvidence :=
  ⟨cert, decryptors.map fun d => ⟨a.decryptStatement cert total d, signature d⟩,
    a.coordinatorNodeKey⟩

section Rounds

variable [LawfulRepr32 F] [LawfulRepr32 E] [PrimeOrder F E] {a : Attempt F E}
  {selected revealed : List (Blinder F)} {decryptors : List (Decryptor F)}

theorem Selected.signed [LawfulSha256] (h : a.Valid) (hsel : a.Selected selected revealed) :
    ∃ signature : Blinder F → Bytes, ∀ blinder ∈ selected,
      blinder.reveal a.request (a.allCommitments selected) =
        .ok ⟨a.revealStatement selected blinder, signature blinder⟩ ∧
      NodeSigning.verify blinder.responder.nodeKey
        (a.revealStatement selected blinder).canonicalBytes (signature blinder) = .ok () := by
  have hreveal : ∀ blinder ∈ selected, ∃ signature,
      blinder.reveal a.request (a.allCommitments selected) =
        .ok ⟨a.revealStatement selected blinder, signature⟩ ∧
      NodeSigning.verify blinder.responder.nodeKey
        (a.revealStatement selected blinder).canonicalBytes signature = .ok () :=
    fun blinder hmem => reveal_eq h (hsel.holds _ hmem) (hsel.z_ne _ hmem) hsel.count hsel.nodup
      hmem
  choose! signature hsignature using hreveal
  exact ⟨signature, hsignature⟩

theorem runRounds_eq [LawfulSha256] (h : a.Valid) (hsel : a.Selected selected revealed)
    (hdec : a.Decrypting decryptors) :
    ∃ cert signature,
      runRounds a.request selected revealed decryptors =
        .ok (a.evidence cert (totalBlinding selected) decryptors signature) ∧
      cert.publicPolynomial = a.ctx.publicPolynomial ∧ cert.attemptId = a.attemptId ∧
      cert.contextDigest = a.blindContext.contextDigest ∧
      (∃ reveal, cert.reveals.head? = some reveal ∧
        reveal.statement.ringStateSha256 = ringStateSha256 a.ring) ∧
      (∀ reveal ∈ cert.reveals, BlindingRelation F a.tag a.target reveal) ∧
      buildAndVerifyPetBlindCertificate F cert a.ring a.tag a.target a.blindContext =
        .ok (totalBlinding selected • a.R, totalBlinding selected • a.diffPoint) ∧
      ∀ decryptor ∈ decryptors, NodeSigning.verify decryptor.responder.nodeKey
        (a.decryptStatement cert (totalBlinding selected) decryptor).canonicalBytes
          (signature decryptor) = .ok () := by
  obtain ⟨revealSignature, hreveal⟩ := hsel.signed h
  have hcert := buildAndVerify_certificate h hsel fun b hb => (hreveal b hb).2
  set cert := a.certificate selected revealed revealSignature
  have hdecrypt : ∀ decryptor ∈ decryptors, ∃ signature,
      decryptor.decrypt a.request cert =
        .ok ⟨a.decryptStatement cert (totalBlinding selected) decryptor, signature⟩ ∧
      NodeSigning.verify decryptor.responder.nodeKey
        (a.decryptStatement cert (totalBlinding selected) decryptor).canonicalBytes signature =
          .ok () :=
    fun d hd => decrypt_eq h (hdec.holds d hd) hsel.total_ne rfl rfl hcert
  choose! signature hsignature using hdecrypt
  have hcommitments : (selected.mapM fun blinder => do
      let pending ← blinder.commit a.request
      pure (pending.nodeId, pending.commitment)) = .ok (a.allCommitments selected) := by
    apply mapM_ok_of_forall
    intro blinder hmem
    rw [commit_eq h (hsel.holds _ hmem) (hsel.z_ne _ hmem), ok_bind]
    rfl
  have hreveals : (revealed.mapM fun blinder =>
      blinder.reveal a.request (a.allCommitments selected)) = .ok cert.reveals :=
    mapM_ok_of_forall fun b hb => (hreveal b (hsel.perm.mem_iff.mp hb)).1
  have hresponses := mapM_ok_of_forall fun d hd => (hsignature d hd).1
  have hhead : ∃ reveal, cert.reveals.head? = some reveal ∧
      reveal.statement.ringStateSha256 = ringStateSha256 a.ring := by
    cases hrevealed : revealed with
    | nil =>
      have hlen := hsel.perm.length_eq
      rw [hrevealed, hsel.count, List.length_nil] at hlen
      exact absurd hlen.symm h.pos.ne'
    | cons blinder rest =>
      refine ⟨⟨a.revealStatement selected blinder, revealSignature blinder⟩, ?_, rfl⟩
      rw [show cert.reveals = revealed.map _ from rfl, hrevealed]
      rfl
  have hrelated : ∀ reveal ∈ cert.reveals, BlindingRelation F a.tag a.target reveal := by
    intro reveal hmem
    obtain ⟨blinder, -, rfl⟩ := List.mem_map.mp hmem
    exact ⟨a.R, a.masked, blinder.z, Element.fromBytes_toRepr _, Element.fromBytes_toRepr _,
      Element.fromBytes_toRepr _, Element.fromBytes_toRepr _⟩
  refine ⟨cert, signature, ?_, rfl, rfl, rfl, hhead, hrelated, hcert,
    fun d hd => (hsignature d hd).2⟩
  refine bind_eq_ok.mpr ⟨_, hcommitments, ?_⟩
  refine bind_eq_ok.mpr ⟨_, hreveals, ?_⟩
  exact bind_eq_ok.mpr ⟨_, hresponses, rfl⟩

variable {cert : PetBlindCertificate} {signature : Decryptor F → Bytes}

omit [DecidableEq E] [NodeSigning] [LawfulRepr32 F] [PrimeOrder F E] in
theorem decryptionRelation_evidence {total : F} :
    ∀ signed ∈ (a.evidence cert total decryptors signature).decryptResponses,
      DecryptionRelation F (publicPolynomial E a.coeffs) signed := by
  intro signed hmem
  obtain ⟨d, -, rfl⟩ := List.mem_map.mp hmem
  exact ⟨a.keyShare d.nodeId, total • a.R, eval_publicPolynomial _ _, Element.fromBytes_toRepr _,
    Element.fromBytes_toRepr _⟩

theorem combined_evidence [DecidableEq F] (h : a.Valid) (hdec : a.Decrypting decryptors) {total : F}
    (htotal : total ≠ 0)
    (hsignature : ∀ decryptor ∈ decryptors, NodeSigning.verify decryptor.responder.nodeKey
      (a.decryptStatement cert total decryptor).canonicalBytes (signature decryptor) = .ok ()) :
    ∃ shares,
      collectDecrypts F a.ring (publicPolynomial E a.coeffs) (a.expectedDecrypt cert total)
          a.blindContext []
          ((a.evidence cert total decryptors signature).decryptResponses.take a.ring.threshold) =
        .ok shares ∧
      combinePetCheckShares F shares a.ring.threshold a.ring.peerNodeKeys.length =
        .ok ((a.key * total) • a.R) := by
  set share : PetBlindSignedDecrypt → PubShare E := fun s =>
    ⟨s.statement.fromNodeId, a.keyShare s.statement.fromNodeId • (total • a.R)⟩
  set used := decryptors.take a.ring.threshold
  set signed := (a.evidence cert total decryptors signature).decryptResponses.take a.ring.threshold
  have hsub : ∀ d ∈ used, d ∈ decryptors := fun d hd => List.mem_of_mem_take hd
  have hsigned : signed =
      used.map fun d => ⟨a.decryptStatement cert total d, signature d⟩ := List.map_take.symm
  have hids : (signed.map share).map (·.i) = used.map (·.nodeId) := by
    rw [hsigned, List.map_map, List.map_map]
    rfl
  have hnd : ((signed.map share).map (·.i)).Nodup := by
    rw [hids]
    exact hdec.nodup.sublist ((List.take_sublist _ _).map _)
  have hcollect : collectDecrypts F a.ring (publicPolynomial E a.coeffs)
      (a.expectedDecrypt cert total) a.blindContext [] signed = .ok (signed.map share) := by
    apply collectDecrypts_of_verified [] _ (by rwa [List.map_map] at hnd)
      fun _ _ => List.not_mem_nil
    intro s hs
    rw [hsigned] at hs
    obtain ⟨d, hd, rfl⟩ := List.mem_map.mp hs
    exact verifyOneDecrypt_decryptStatement h (hdec.holds d (hsub d hd)) htotal
      (hsignature d (hsub d hd))
  have hrange : ∀ s ∈ signed.map share, 1 ≤ s.i ∧ s.i ≤ a.ring.peerNodeKeys.length := by
    intro s hs
    have hid : s.i ∈ used.map (·.nodeId) := hids ▸ List.mem_map_of_mem hs
    obtain ⟨d, hd, hdid⟩ := List.mem_map.mp hid
    rw [← hdid]
    exact nodeKeyForId_range (hdec.holds d (hsub d hd)).nodeKey
  have henough : a.ring.threshold ≤ (signed.map share).length := by
    rw [List.length_map, hsigned, List.length_map, List.length_take, h.threshold]
    have := hdec.enough
    omega
  have hvalue : ∀ s ∈ signed.map share, ∃ k : F,
      powerSum (publicPolynomial E a.coeffs).commits (s.i : F) = k • (generator : E) ∧
        s.v = k • (total • a.R) := by
    intro s hs
    obtain ⟨d, -, rfl⟩ := List.mem_map.mp hs
    refine ⟨a.keyShare d.statement.fromNodeId, ?_, rfl⟩
    rw [← PubPoly.eval_eq_powerSum, eval_publicPolynomial]
    rfl
  refine ⟨signed.map share, hcollect, ?_⟩
  have hkey : powerSum (publicPolynomial E a.coeffs).commits (0 : F) =
      a.key • (generator : E) := powerSum_map_smul_right _ _ _
  have hlen : (publicPolynomial E a.coeffs).commits.length ≤ a.ring.threshold := by
    rw [h.threshold]
    exact (List.length_map _).le
  rw [mul_smul]
  exact combinePetCheckShares_eq h.members h.order hnd hrange henough hlen hkey hvalue

/-- The evidence of the rounds is accepted exactly if the tag hides the target. -/
theorem verifyEvidence_iff [DecidableEq F]
    (h : a.Valid) (hdec : a.Decrypting decryptors) {total : F}
    (htotal : total ≠ 0) (hpoly : cert.publicPolynomial = a.ctx.publicPolynomial)
    (hattempt : cert.attemptId = a.attemptId)
    (hcert : buildAndVerifyPetBlindCertificate F cert a.ring a.tag a.target a.blindContext =
      .ok (total • a.R, total • a.diffPoint))
    (hsignature : ∀ decryptor ∈ decryptors, NodeSigning.verify decryptor.responder.nodeKey
      (a.decryptStatement cert total decryptor).canonicalBytes (signature decryptor) = .ok ())
    {storage : Storage} {bundle : RingShareBundle} (hstores : a.Stores storage bundle) :
    verifyEvidence F storage a.ctx.document.ringId a.ring a.tag a.petPkHex a.target a.blindContext
        (a.evidence cert total decryptors signature) = .ok () ↔ a.fingerprint = a.target := by
  obtain ⟨shares, hshares, hcombined⟩ := combined_evidence h hdec htotal hsignature
  have henough : a.ring.threshold ≤
      (a.evidence cert total decryptors signature).decryptResponses.length := by
    rw [evidence, List.length_map, h.threshold]
    exact hdec.enough
  have hmatch : matchBundle F bundle cert.publicPolynomial a.ring.threshold a.petPkHex =
      .ok (publicPolynomial E a.coeffs) := by
    rw [hpoly]
    exact h.matchBundle hstores
  have hexpected : (⟨a.blindContext.contextDigest, cert.certificateDigest, cert.attemptId,
      toRepr (total • a.R), toRepr (total • a.diffPoint)⟩ : ExpectedDecrypt) =
      a.expectedDecrypt cert total := by
    rw [hattempt]
    rfl
  rw [← hexpected] at hshares
  rw [verifyEvidence_eq_require hcert henough hstores.1 hmatch hshares hcombined, require_eq_ok,
    mul_smul, toRepr_injective.eq_iff]
  exact blinded_eq_iff htotal

end Rounds

variable [Json Pre.Secret] [Json Pre.EncryptionProof] [Json PetTag] [Json TagKnowledgeProof]

/-- The node that admits a re-encryption request is on the attempt's chain and stores its
generation, and everything it checks before the evidence passes. -/
structure Admits [ScalarHash F]
    (a : Attempt F E) (coordinator : PetCoordinator) (request : AdmissionRequest) :
    Prop where
  chainId : coordinator.chainId = a.chainId
  version : coordinator.version = a.version
  actorId : request.actorId = a.actorId
  ctx : a.ctx = ⟨ringStateSha256 a.ring, a.ctx.publicPolynomial, request.document, request.salt,
    request.objectId, request.documentInline, request.auditTargetObjectId, request.validWindow⟩
  target : a.target = ownerFingerprint F (utf8Bytes request.auditTargetObjectId)
  permitted : checkPetPermission coordinator.authz request.document request.auditTargetObjectId
    request.actorId request.validWindow = .ok ()
  verified : ∃ digest live,
    verifyPetCheckRequest F E coordinator a.ctx = .ok (a.tag, a.petPkHex, digest, live)
  stores : ∃ bundle, a.Stores coordinator.petStorage bundle

theorem verifyPetAdmission_eq [DecidableEq F] [ScalarHash F]
    {a : Attempt F E} {coordinator : PetCoordinator}
    {request : AdmissionRequest} (hadmits : a.Admits coordinator request)
    {evidence : PetBlindEvidence} {reveal : PetBlindSignedReveal}
    (hhead : evidence.certificate.reveals.head? = some reveal)
    (hstate : reveal.statement.ringStateSha256 = ringStateSha256 a.ring)
    (hpoly : evidence.certificate.publicPolynomial = a.ctx.publicPolynomial)
    (hattempt : evidence.certificate.attemptId = a.attemptId)
    (hcontext : evidence.certificate.contextDigest = a.blindContext.contextDigest)
    (hcoordinator : evidence.coordinatorNodeKey = a.coordinatorNodeKey) :
    verifyPetAdmission F E coordinator request a.ring evidence =
      verifyEvidence F coordinator.petStorage a.ctx.document.ringId a.ring a.tag a.petPkHex
        a.target a.blindContext evidence := by
  obtain ⟨digest, live, hverified⟩ := hadmits.verified
  have hctx : request.checkContext (ringStateSha256 a.ring) evidence.certificate = a.ctx := by
    rw [hadmits.ctx, AdmissionRequest.checkContext, hpoly]
  have hring : request.document.ringId = a.ctx.document.ringId := by
    rw [hadmits.ctx]
  have hblind : buildPetBlindContext coordinator.chainId a.ring a.petPkHex coordinator.version
      Crypto.Pet.name a.ctx request.actorId evidence.coordinatorNodeKey
      evidence.certificate.attemptId = a.blindContext := by
    rw [hadmits.chainId, hadmits.version, hadmits.actorId, hcoordinator, hattempt]
    rfl
  unfold verifyPetAdmission
  rw [hadmits.permitted, ok_bind, hhead, Option.map_some, okOr_some, ok_bind, hstate,
    require_bind rfl]
  simp only [hctx, hverified, ok_bind, hblind]
  rw [require_bind hcontext.symm, hring, hadmits.target]

end Attempt

variable [LawfulRepr32 F] [LawfulRepr32 E] [LawfulSha256] [PrimeOrder F E]
  [Json Pre.Secret] [Json Pre.EncryptionProof] [Json PetTag] [Json TagKnowledgeProof]

variable [DecidableEq F] [ScalarHash F]

variable (F E) in
/-- Honest rounds of any threshold of members give a certificate that passes and decryption shares
that combine to the tag's point times the key and the sum of the blindings, whichever members
decrypt; the evidence is accepted, by the admission check too, exactly if the tag hides the
target.  Conversely admitted evidence of any origin whose relations hold is for the fingerprint
that the tag hides. -/
theorem pet_decision_correct :
    (∀ (a : Attempt F E) (selected revealed : List (Blinder F)) (decryptors : List (Decryptor F)),
      a.Valid → a.Selected selected revealed → a.Decrypting decryptors →
      ∃ evidence shares, runRounds a.request selected revealed decryptors = .ok evidence ∧
        buildAndVerifyPetBlindCertificate F evidence.certificate a.ring a.tag a.target
            a.blindContext =
          .ok (Attempt.totalBlinding selected • a.R,
            Attempt.totalBlinding selected • (a.masked - a.target)) ∧
        collectDecrypts F a.ring (publicPolynomial E a.coeffs)
            (a.expectedDecrypt evidence.certificate (Attempt.totalBlinding selected))
            a.blindContext [] (evidence.decryptResponses.take a.ring.threshold) = .ok shares ∧
        combinePetCheckShares F shares a.ring.threshold a.ring.peerNodeKeys.length =
          .ok ((a.key * Attempt.totalBlinding selected) • a.R) ∧
        (∀ storage bundle, a.Stores storage bundle →
          (verifyEvidence F storage a.ctx.document.ringId a.ring a.tag a.petPkHex a.target
            a.blindContext evidence = .ok () ↔ a.fingerprint = a.target)) ∧
        ∀ coordinator request, a.Admits coordinator request →
          (verifyPetAdmission F E coordinator request a.ring evidence = .ok () ↔
            a.fingerprint = a.target)) ∧
    ∀ (coordinator : PetCoordinator) (request : AdmissionRequest) (ring : RingPayload)
      (evidence : PetBlindEvidence) (x : F) (R fingerprint : E) (pubPoly : PubPoly E)
      (petPkHex : String) (keyBytes : Bytes),
      ring.peerNodeKeys.length < order E → ring.petPk = some petPkHex →
      hexDecode petPkHex = some keyBytes →
      Element.fromBytes keyBytes = .ok (x • (generator : E)) →
      PubPoly.fromBytes evidence.certificate.publicPolynomial = .ok pubPoly →
      (∀ json tag, request.document.petTag = some json → Json.fromStr false json = .ok tag →
        tag = tagOf x R fingerprint ∧ ∀ reveal ∈ evidence.certificate.reveals,
          BlindingRelation F tag
            (ownerFingerprint F (utf8Bytes request.auditTargetObjectId) : E) reveal) →
      (∀ signed ∈ evidence.decryptResponses, DecryptionRelation F pubPoly signed) →
      verifyPetAdmission F E coordinator request ring evidence = .ok () →
      fingerprint = ownerFingerprint F (utf8Bytes request.auditTargetObjectId) := by
  constructor
  · intro a selected revealed decryptors hvalid hsel hdec
    obtain ⟨cert, signature, hrun, hpoly, hattempt, hcontext, ⟨reveal, hhead, hstate⟩, -, hcert,
      hsignature⟩ := Attempt.runRounds_eq hvalid hsel hdec
    obtain ⟨shares, hshares, hcombined⟩ :=
      Attempt.combined_evidence hvalid hdec hsel.total_ne hsignature
    have haccept : ∀ storage bundle, a.Stores storage bundle →
        (verifyEvidence F storage a.ctx.document.ringId a.ring a.tag a.petPkHex a.target
          a.blindContext (a.evidence cert (Attempt.totalBlinding selected) decryptors signature) =
            .ok () ↔ a.fingerprint = a.target) := fun storage bundle hstores =>
      Attempt.verifyEvidence_iff hvalid hdec hsel.total_ne hpoly hattempt hcert hsignature hstores
    refine ⟨_, shares, hrun, hcert, hshares, hcombined, haccept, ?_⟩
    intro coordinator request hadmits
    obtain ⟨bundle, hstores⟩ := hadmits.stores
    rw [Attempt.verifyPetAdmission_eq hadmits hhead hstate hpoly hattempt hcontext rfl]
    exact haccept _ bundle hstores
  · intro coordinator request ring evidence x R fingerprint pubPoly petPkHex keyBytes hord hpetPk
      hhex hkey hpoly htag hdecryption h
    obtain ⟨json, tag, hex, context, hjson, hparse, hevidence, hctx⟩ := verifyPetAdmission_eq_ok h
    obtain ⟨rfl, hblinding⟩ := htag json tag hjson hparse
    -- The certificate is only accepted under the ring's own key.
    obtain ⟨points, -, -, -, hpoints, -⟩ := verifyEvidence_eq_ok hevidence
    obtain ⟨-, hmatches, -⟩ := buildAndVerifyPetBlindCertificate_eq_ok hpoints
    have hsame : some petPkHex = some hex := by
      rw [← hctx, ← hpetPk]
      exact hmatches.2.2.2.2.2.1
    obtain rfl := Option.some.inj hsame
    exact fingerprint_of_verifyEvidence hord hhex hkey hpoly hblinding hdecryption hevidence

end Decision

/-! A two-of-three sharing over the group of order seven.  The digest is the sum of the bytes, a
signature repeats the signer's key, and every text is read as the value at hand. -/

section Toy

open scoped ByteSum Echo PlainDocument

theorem signingPair_self (key : String) : SigningPair key key :=
  fun _ => ⟨utf8Bytes key, rfl, if_pos rfl⟩

/-- No certificate is accepted for this tag, although its point is not the identity and it hides
the target: its masked fingerprint is the identity. -/
theorem no_certificate_of_masked_identity :
    (1 : F7) ≠ 0 ∧ tagOf (3 : F7) (1 : F7) 4 = ⟨toRepr (1 : F7), toRepr (4 + 3 • 1 : F7)⟩ ∧
      ∀ certificate ring context (points : F7 × F7),
        buildAndVerifyPetBlindCertificate F7 certificate ring (tagOf (3 : F7) (1 : F7) 4) 4
          context ≠ .ok points := by
  refine ⟨by decide, by decide +kernel, ?_⟩
  intro certificate ring context points h
  obtain ⟨masked, hmasked, hne⟩ := masked_ne_zero_of_certificate h
  have hzero : Element.fromBytes (tagOf (3 : F7) (1 : F7) 4).maskedFingerprint =
      .ok (0 : F7) := by
    decide +kernel
  exact hne (Except.ok.inj (hmasked.symm.trans hzero))

def toyTarget : F7 := ownerFingerprint F7 (utf8Bytes "audit")

local instance : Json PetTag := ⟨fun _ _ => .ok (tagOf (3 : F7) 2 toyTarget)⟩

local instance : Json TagKnowledgeProof :=
  ⟨fun _ _ => .ok ⟨toRepr (2 : F7), toRepr (4 : F7)⟩⟩

def toyRing : RingPayload :=
  ⟨"", none, none, ["a", "b", "c"], 2, 0, 0, none, none, ⟨0, none, none⟩, ⟨⟨0, 0, 0, 0⟩, [], 0⟩,
    true, some (hexEncode (toRepr (3 : F7)))⟩

def toyDocument : DocumentPayload :=
  ⟨"ring", "secret", "proof", "policy", "resource", "read", none, none, some "tag",
    some "tag proof"⟩

def toyCoeffs : List F7 := [3, 1]

def toyContext : PetCheckContext :=
  ⟨ringStateSha256 toyRing, (publicPolynomial F7 toyCoeffs).toBytes, toyDocument, none,
    (generateDocumentId toyDocument).toOption.getD "", true, "audit", none⟩

def toyAttempt : Attempt F7 F7 :=
  ⟨toyCoeffs, toyRing, toyContext, "chain", 1, "actor", "a", "attempt", 2, toyTarget, toyTarget⟩

def toyBundle (nodeId : ℕ) : RingShareBundle :=
  ⟨(⟨nodeId, toyAttempt.keyShare nodeId⟩ : PriShare F7).toBytes,
    hexEncode (publicPolynomial F7 toyCoeffs).toBytes, 0⟩

def toyResponder (nodeKey : String) (nodeId : ℕ) : Responder :=
  ⟨nodeKey, nodeKey, (∅ : Storage).insert "ring" (toyBundle nodeId).toBytes⟩

def toyCoordinator : PetCoordinator :=
  ⟨"chain", 1, fun _ => .ok toyRing, fun _ _ => .ok true,
    (∅ : Storage).insert "ring" (toyBundle 1).toBytes⟩

def toyRequest : AdmissionRequest :=
  ⟨toyDocument, none, toyContext.objectId, true, "audit", "actor", none⟩

def toySelected : List (Blinder F7) :=
  [⟨toyResponder "b" 2, 2, 2, 1, [6], 3, 0⟩, ⟨toyResponder "a" 1, 1, 4, 5, [7], 1, 0⟩]

def toyDecryptors : List (Decryptor F7) :=
  [⟨toyResponder "c" 3, 3, 1, 0⟩, ⟨toyResponder "a" 1, 1, 2, 0⟩, ⟨toyResponder "b" 2, 2, 3, 0⟩]

theorem toyAttempt_valid : toyAttempt.Valid where
  threshold := rfl
  pos := by decide
  fits := by decide
  members := by decide
  order := by decide
  key_ne := by decide
  R_ne := by decide
  masked_ne := by decide +kernel
  petPk := by decide +kernel
  requiresPet := rfl
  polynomial := rfl

theorem toyStores (nodeId : ℕ) :
    toyAttempt.Stores ((∅ : Storage).insert "ring" (toyBundle nodeId).toBytes)
      (toyBundle nodeId) := by
  refine ⟨?_, rfl⟩
  show loadByPetRingKey _ "ring" = _
  rw [loadByPetRingKey, AList.lookup_insert]
  apply RingShareBundle.fromBytes_toBytes
  · rw [toyBundle, PriShare.length_toBytes]
    decide
  · rw [toyBundle, length_utf8Bytes_hexEncode, PubPoly.length_toBytes]
    decide

theorem toyResponder_holds {nodeKey : String} {nodeId : ℕ}
    (hkey : nodeKeyForId nodeId toyRing.peerNodeKeys = some nodeKey) :
    toyAttempt.Holds (toyResponder nodeKey nodeId) nodeId where
  nodeKey := hkey
  signs := signingPair_self nodeKey
  stores := ⟨toyBundle nodeId, toyStores nodeId, rfl⟩

theorem toySelected_selected : toyAttempt.Selected toySelected toySelected.reverse where
  count := rfl
  nodup := by decide
  holds := by
    intro blinder hmem
    rcases List.mem_pair.mp hmem with rfl | rfl
    · exact toyResponder_holds (by decide +kernel)
    · exact toyResponder_holds (by decide +kernel)
  z_ne := by decide
  total_ne := by decide
  perm := List.reverse_perm _

theorem toyDecryptors_decrypting : toyAttempt.Decrypting toyDecryptors where
  enough := by decide
  nodup := by decide
  holds := by
    intro decryptor hmem
    simp only [toyDecryptors, List.mem_cons, List.not_mem_nil, or_false] at hmem
    rcases hmem with rfl | rfl | rfl
    · exact toyResponder_holds (by decide +kernel)
    · exact toyResponder_holds (by decide +kernel)
    · exact toyResponder_holds (by decide +kernel)

theorem toyCoordinator_admits : toyAttempt.Admits toyCoordinator toyRequest where
  chainId := rfl
  version := rfl
  actorId := rfl
  ctx := rfl
  target := rfl
  permitted := rfl
  verified := by
    have heval : (verifyPetCheckRequest F7 F7 toyCoordinator toyContext).toOption.map
        (fun r => (r.1, r.2.1)) = some (toyAttempt.tag, toyAttempt.petPkHex) := by
      decide +kernel
    obtain ⟨⟨tag, petPkHex, digest, live⟩, hresult, heq⟩ := Option.map_eq_some_iff.mp heval
    cases heq
    exact ⟨digest, live, toOption_eq_some.mp hresult⟩
  stores := ⟨toyBundle 1, toyStores 1⟩

/-- The evidence of the rounds is admitted, and what the second part says about it is that the tag
hides the target. -/
theorem pet_decision_correct_two : ∃ evidence,
    runRounds toyAttempt.request toySelected toySelected.reverse toyDecryptors = .ok evidence ∧
    verifyPetAdmission F7 F7 toyCoordinator toyRequest toyRing evidence = .ok () ∧
    toyAttempt.fingerprint = ownerFingerprint F7 (utf8Bytes toyRequest.auditTargetObjectId) := by
  obtain ⟨honest, converse⟩ := pet_decision_correct F7 F7
  obtain ⟨evidence, shares, hrun, -, -, -, -, hadmission⟩ :=
    honest toyAttempt toySelected toySelected.reverse toyDecryptors toyAttempt_valid
      toySelected_selected toyDecryptors_decrypting
  have haccept := (hadmission toyCoordinator toyRequest toyCoordinator_admits).mpr rfl
  obtain ⟨cert, signature, hrun', hpoly, -, -, -, hrelated, -⟩ :=
    Attempt.runRounds_eq toyAttempt_valid toySelected_selected toyDecryptors_decrypting
  obtain rfl := Except.ok.inj (hrun.symm.trans hrun')
  refine ⟨_, hrun, haccept, ?_⟩
  refine converse toyCoordinator toyRequest toyRing _ 3 2 toyTarget
    (publicPolynomial F7 toyCoeffs) (hexEncode (toRepr (3 : F7))) (toRepr (3 : F7)) (by decide) rfl
    (hexDecode_hexEncode _) (by decide +kernel) ?_ ?_ Attempt.decryptionRelation_evidence haccept
  · show PubPoly.fromBytes cert.publicPolynomial = _
    rw [hpoly]
    exact PubPoly.fromBytes_toBytes (by decide)
  · rintro json tag - hparse
    cases hparse
    exact ⟨rfl, hrelated⟩

end Toy

end Orbis.Node.Pet
