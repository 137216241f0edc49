import Orbis.Crypto.Pet
import Orbis.Crypto.Pre.EndToEnd

/-!
# Proofs of equality

A re-encryption share, a decryption share and a blinding each come with a proof that one scalar
links two bases to two points.  The verifier recomputes the first message of the proof and accepts
if the challenge is the hash of it.  Two accepted proofs with one first message and different
challenges are answers of a prover that was rewound, with another hash in between.
-/

namespace Orbis.Crypto

open Orbis.Algebra Orbis.Data

/-! ## One scalar for two bases -/

section

variable {F E : Type} [Field F] [AddCommGroup E] [Module F E]

/-- Two bases, and the points that are claimed to be their multiples by one scalar. -/
structure EqualityStatement (E : Type) where
  bases : E × E
  points : E × E

namespace EqualityStatement

/-- The claimed relation. -/
def Links (s : EqualityStatement E) (x : F) : Prop :=
  s.points.1 = x • s.bases.1 ∧ s.points.2 = x • s.bases.2

/-- What a verifier recomputes from challenge and response. -/
def firstMessage (s : EqualityStatement E) (challenge proof : F) : E × E :=
  (proof • s.bases.1 - challenge • s.points.1, proof • s.bases.2 - challenge • s.points.2)

theorem Links.firstMessage_eq {s : EqualityStatement E} {x : F} (h : s.Links x) (k c : F) :
    s.firstMessage c (k + c * x) = (k • s.bases.1, k • s.bases.2) := by
  rw [firstMessage, h.1, h.2, response_sub_challenge, response_sub_challenge]

theorem exists_links {s : EqualityStatement E} {c c' z z' : F} (hne : c ≠ c')
    (h : s.firstMessage c z = s.firstMessage c' z') : ∃ x : F, s.Links x := by
  obtain ⟨hfst, hsnd⟩ := Prod.mk.inj h
  exact ⟨_, eq_smul_of_same_commitment hne hfst, eq_smul_of_same_commitment hne hsnd⟩

end EqualityStatement

end

variable {F E : Type} [Field F] [AddCommGroup E] [Module F E]

/-! ## Re-encryption -/

namespace Pre

variable [ScalarHash F]

theorem effectiveCmt_eq (dkgCmt : PubPoly E) (derivation : Option Bytes) (idx : ℕ) :
    effectiveCmt F dkgCmt derivation idx = (derivedScalar derivation : F) • dkgCmt.eval F idx := by
  unfold effectiveCmt
  cases derivation with
  | none => rw [derivedScalar, one_smul]
  | some bytes => rfl

variable [Curve E]

variable (F) in
def reencryptStatement (rdrPk : E) (dkgCmt : PubPoly E) (encCmt : E) (derivation : Option Bytes)
    (share : PubShare E) : EqualityStatement E :=
  ⟨(rdrPk + encCmt, generator), (share.v, effectiveCmt F dkgCmt derivation share.i)⟩

variable [Repr32 F] [Repr32 E]

def AcceptedUnder (oracle : Blake2bScalarHash F) (rdrPk : E) (dkgCmt : PubPoly E) (encCmt : E)
    (derivation : Option Bytes) (reply : ReencryptReply F E) : Prop :=
  letI := oracle
  verify rdrPk dkgCmt encCmt reply derivation = .ok ()

end Pre

/-! ## Ownership checks -/

namespace Pet

def blindingStatement (rPoint masked target blindedR blindedDiff : E) : EqualityStatement E :=
  ⟨(rPoint, masked - target), (blindedR, blindedDiff)⟩

variable [Repr32 F] [Repr32 E] [DecidableEq E]

def BlindingAcceptedUnder (oracle : Blake2bScalarHash F) (tag : PetTag) (targetFingerprint : E)
    (blindTranscriptDigest : Bytes) (reply : BlindingReply F E) : Prop :=
  letI := oracle
  verifyBlindingCorrectness tag targetFingerprint reply blindTranscriptDigest = .ok ()

variable [Curve E]

variable (F) in
def checkStatement (pubPoly : PubPoly E) (rPoint : E) (share : PubShare E) : EqualityStatement E :=
  ⟨(rPoint, generator), (share.v, pubPoly.eval F share.i)⟩

def AcceptedUnder (oracle : Blake2bScalarHash F) (pubPoly : PubPoly E) (tag : PetTag)
    (reply : PetCheckReply F E) : Prop :=
  letI := oracle
  verifyPartialPetCheck pubPoly tag reply = .ok ()

end Pet

/-! ## Acceptance -/

variable [DecidableEq E] [Curve E] [Repr32 F] [Repr32 E] [ScalarHash F]

variable (F E) in
/-- A proof is accepted exactly if its challenge is the hash of the first message recomputed from
it. -/
structure ProofsRecompute [Blake2bScalarHash F] : Prop where
  reencrypt : ∀ (rdrPk encCmt : E) (dkgCmt : PubPoly E) (derivation : Option Bytes)
    (share : PubShare E) (c z : F),
    Pre.verify rdrPk dkgCmt encCmt ⟨share, c, z⟩ derivation = .ok () ↔
      let message :=
        (Pre.reencryptStatement F rdrPk dkgCmt encCmt derivation share).firstMessage c z
      toRepr c = toRepr (Pre.reencryptChallenge share.i rdrPk encCmt
        (Pre.effectiveCmt F dkgCmt derivation share.i) [share.v, message.1, message.2] : F)
  check : ∀ (pubPoly : PubPoly E) (tag : PetTag) (share : PubShare E) (c z : F),
    Pet.verifyPartialPetCheck pubPoly tag ⟨share, c, z⟩ = .ok () ↔
      ∃ rPoint : E, decodeGroupElement "ephemeral_point" tag.ephemeralPoint = .ok rPoint ∧
        let message := (Pet.checkStatement F pubPoly rPoint share).firstMessage c z
        toRepr c = toRepr (Pet.petCheckProofChallenge share.i rPoint (pubPoly.eval F share.i)
          share.v [message.1, message.2] : F)
  blinding : ∀ (tag : PetTag) (target : E) (digest : Bytes) (blindedR blindedDiff : E) (c z : F),
    Pet.verifyBlindingCorrectness tag target ⟨blindedR, blindedDiff, c, z⟩ digest = .ok () ↔
      ∃ rPoint masked : E, decodeGroupElement "ephemeral_point" tag.ephemeralPoint = .ok rPoint ∧
        decodeGroupElement "masked_fingerprint" tag.maskedFingerprint = .ok masked ∧
        blindedR ≠ 0 ∧
        let message :=
          (Pet.blindingStatement rPoint masked target blindedR blindedDiff).firstMessage c z
        toRepr c = toRepr (Pet.blindingProofChallenge rPoint (masked - target) blindedR blindedDiff
          message.1 message.2 digest : F)

theorem proofsRecompute [Blake2bScalarHash F] : ProofsRecompute F E where
  reencrypt rdrPk encCmt dkgCmt derivation share c z := by
    unfold Pre.verify Pre.verifyInternal
    simp only [ite_eq_right_iff, reduceCtorEq, imp_false, not_not]
    exact eq_comm
  check pubPoly tag share c z := by
    unfold Pet.verifyPartialPetCheck
    simp only [bind_eq_ok, pure, Except.pure, ite_eq_right_iff, reduceCtorEq, imp_false, not_not]
    rfl
  blinding tag target digest blindedR blindedDiff c z := by
    unfold Pet.verifyBlindingCorrectness
    simp only [bind_eq_ok]
    constructor
    · rintro ⟨rPoint, hpoint, masked, hmasked, h⟩
      split at h
      · cases h
      next hne =>
        simp only [pure, Except.pure, ite_eq_right_iff, reduceCtorEq, imp_false, not_not] at h
        exact ⟨rPoint, masked, hpoint, hmasked, hne, h⟩
    · rintro ⟨rPoint, masked, hpoint, hmasked, hne, h⟩
      refine ⟨rPoint, hpoint, masked, hmasked, ?_⟩
      rw [if_neg hne]
      exact if_neg (not_not.mpr h)

/-! ## Completeness -/

variable (F E) in
/-- Every proof that is made for a true statement is accepted, with every nonce. -/
structure ProofsComplete [DecidableEq F] [Blake2bScalarHash F] [Sha256] : Prop where
  reencrypt : ∀ (ri : F) (share : PriShare F) (scrt : Pre.Secret) (rdrPk encCmt : E)
    (context : ReaderAuthorizationContext) (signature : Pre.ReaderAuthorizationSignature)
    (reply : Pre.ReencryptReply F E) (dkgCmt : PubPoly E),
    Pre.decompressPoint scrt.encCmt = .ok encCmt →
    dkgCmt.eval F share.i = share.v • (generator : E) →
    Pre.reencrypt ri share scrt rdrPk context signature = .ok reply →
    Pre.verify rdrPk dkgCmt encCmt reply context.derivation = .ok ()
  check : ∀ (ri share : F) (nodeId : ℕ) (tag : PetTag) (reply : PetCheckReply F E)
    (pubPoly : PubPoly E), pubPoly.eval F nodeId = share • (generator : E) →
    Pet.partialPetCheck ri share nodeId tag = .ok reply →
    Pet.verifyPartialPetCheck pubPoly tag reply = .ok ()
  blinding : ∀ (w z : F) (tag : PetTag) (target : E) (digest : Bytes) (reply : BlindingReply F E),
    Pet.proveBlindingCorrectness w z tag target digest = .ok reply →
    Pet.verifyBlindingCorrectness tag target reply digest = .ok ()

theorem proofsComplete [DecidableEq F] [Blake2bScalarHash F] [Sha256] [LawfulRepr32 E] :
    ProofsComplete F E where
  reencrypt ri share scrt rdrPk encCmt context signature reply dkgCmt hcmt hshare h := by
    obtain ⟨hdecoded, hne⟩ := decodeGroupElement_eq_ok hcmt
    rw [Pre.reencrypt_eq_ok (toRepr_of_fromBytes hdecoded).symm hne h]
    exact Pre.verify_honestReply_of_eval hshare
  check ri share nodeId tag reply pubPoly hshare h := by
    obtain ⟨rPoint, hpoint, h⟩ := bind_eq_ok.mp h
    cases h
    have hlinks : (Pet.checkStatement F pubPoly rPoint ⟨nodeId, share • rPoint⟩).Links share :=
      ⟨rfl, hshare⟩
    refine (proofsRecompute.check ..).mpr ⟨rPoint, hpoint, ?_⟩
    rw [hlinks.firstMessage_eq, hshare]
    rfl
  blinding w z tag target digest reply h := by
    obtain ⟨rPoint, hpoint, h⟩ := bind_eq_ok.mp h
    obtain ⟨masked, hmasked, h⟩ := bind_eq_ok.mp h
    simp only at h
    split at h
    · cases h
    next hne =>
      cases h
      have hlinks : (Pet.blindingStatement rPoint masked target (z • rPoint)
          (z • (masked - target))).Links z := ⟨rfl, rfl⟩
      refine (proofsRecompute.blinding ..).mpr ⟨rPoint, masked, hpoint, hmasked, hne, ?_⟩
      rw [hlinks.firstMessage_eq]
      rfl

/-! ## Special soundness -/

variable (F E) in
/-- From two accepted proofs of one statement with the same first message and different challenges
the scalar is extracted.  For the first two it is the share that is committed to at the index, and
for the blinding it is not zero. -/
structure ProofsSound : Prop where
  reencrypt : ∀ (oracle oracle' : Blake2bScalarHash F) (rdrPk : E) (dkgCmt : PubPoly E)
    (encCmt : E) (derivation : Option Bytes) (share : PubShare E) (c c' z z' : F),
    Pre.AcceptedUnder oracle rdrPk dkgCmt encCmt derivation ⟨share, c, z⟩ →
    Pre.AcceptedUnder oracle' rdrPk dkgCmt encCmt derivation ⟨share, c', z'⟩ →
    let s := Pre.reencryptStatement F rdrPk dkgCmt encCmt derivation share
    s.firstMessage c z = s.firstMessage c' z' → c ≠ c' →
    ∃ x : F, s.Links x ∧
      ∀ k : F, dkgCmt.eval F share.i = k • generator → x = Pre.derivedScalar derivation * k
  check : ∀ (oracle oracle' : Blake2bScalarHash F) (pubPoly : PubPoly E) (tag : PetTag)
    (share : PubShare E) (rPoint : E) (c c' z z' : F),
    decodeGroupElement "ephemeral_point" tag.ephemeralPoint = .ok rPoint →
    Pet.AcceptedUnder oracle pubPoly tag ⟨share, c, z⟩ →
    Pet.AcceptedUnder oracle' pubPoly tag ⟨share, c', z'⟩ →
    let s := Pet.checkStatement F pubPoly rPoint share
    s.firstMessage c z = s.firstMessage c' z' → c ≠ c' →
    ∃ x : F, s.Links x ∧ ∀ k : F, pubPoly.eval F share.i = k • generator → x = k
  blinding : ∀ (oracle oracle' : Blake2bScalarHash F) (tag : PetTag) (target : E)
    (digest : Bytes) (rPoint masked blindedR blindedDiff : E) (c c' z z' : F),
    decodeGroupElement "ephemeral_point" tag.ephemeralPoint = .ok rPoint →
    decodeGroupElement "masked_fingerprint" tag.maskedFingerprint = .ok masked →
    Pet.BlindingAcceptedUnder oracle tag target digest ⟨blindedR, blindedDiff, c, z⟩ →
    Pet.BlindingAcceptedUnder oracle' tag target digest ⟨blindedR, blindedDiff, c', z'⟩ →
    let s := Pet.blindingStatement rPoint masked target blindedR blindedDiff
    s.firstMessage c z = s.firstMessage c' z' → c ≠ c' → ∃ x : F, s.Links x ∧ x ≠ 0

theorem proofsSound [PrimeOrder F E] : ProofsSound F E where
  reencrypt _ _ _ _ _ derivation share _ _ _ _ _ _ hsame hne := by
    obtain ⟨x, hlinks⟩ := EqualityStatement.exists_links hne hsame
    refine ⟨x, hlinks, fun k hk => smul_generator_injective E ?_⟩
    have hcommitted : Pre.effectiveCmt F _ derivation share.i = x • generator := hlinks.2
    rw [Pre.effectiveCmt_eq, hk, smul_smul] at hcommitted
    exact hcommitted.symm
  check _ _ _ _ _ _ _ _ _ _ _ _ _ hsame hne := by
    obtain ⟨x, hlinks⟩ := EqualityStatement.exists_links hne hsame
    exact ⟨x, hlinks, fun k hk => smul_generator_injective E (hlinks.2.symm.trans hk)⟩
  blinding oracle _ _ _ _ _ _ _ _ _ _ _ _ _ _ haccepted _ hsame hne := by
    obtain ⟨x, hlinks⟩ := EqualityStatement.exists_links hne hsame
    refine ⟨x, hlinks, ?_⟩
    rintro rfl
    let := oracle
    obtain ⟨-, -, -, -, hnonzero, -⟩ := (proofsRecompute.blinding ..).mp haccepted
    exact hnonzero (hlinks.1.trans (zero_smul F _))

/-- The three proofs are complete and specially sound. -/
theorem share_proofs_complete_and_sound [DecidableEq F] [Blake2bScalarHash F] [Sha256]
    [LawfulRepr32 E] [PrimeOrder F E] :
    ProofsComplete F E ∧ ProofsRecompute F E ∧ ProofsSound F E :=
  ⟨proofsComplete, proofsRecompute, proofsSound⟩

/-! A member with the share three, over the group of order seven, answers two challenges. -/

open scoped ByteSum

theorem share_proofs_complete_and_sound_rewound :
    ∃ x : F7, (Pre.reencryptStatement F7 (1 : F7) ⟨[3]⟩ 1 none ⟨1, 6⟩).Links x ∧
      ∀ k : F7, PubPoly.eval F7 ⟨[3]⟩ 1 = k • (generator : F7) →
        x = Pre.derivedScalar none * k := by
  have hfirst : Pre.AcceptedUnder ⟨fun _ => 1⟩ (1 : F7) ⟨[3]⟩ 1 none ⟨⟨1, 6⟩, (1 : F7), 5⟩ := rfl
  have hsecond : Pre.AcceptedUnder ⟨fun _ => 2⟩ (1 : F7) ⟨[3]⟩ 1 none ⟨⟨1, 6⟩, (2 : F7), 1⟩ := rfl
  exact share_proofs_complete_and_sound.2.2.reencrypt _ _ 1 ⟨[3]⟩ 1 none ⟨1, 6⟩ 1 2 5 1 hfirst
    hsecond (by decide +kernel) (by decide)

end Orbis.Crypto
