import Orbis.Crypto.Combine

/-!
# Ownership tags

A tag `(R, T)` hides a fingerprint `T - x • R` under the ring's checking key.  Members multiply
the tag by their key shares, with a proof of equality, and blind it together with the distance
to a target, with another one.  Random draws are arguments.
-/

namespace Orbis.Crypto

open Orbis.Algebra Orbis.Data

structure PetTag where
  ephemeralPoint : Bytes
  maskedFingerprint : Bytes
deriving DecidableEq

structure TagKnowledgeProof where
  challenge : Bytes
  response : Bytes
deriving DecidableEq

structure PetCheckReply (F E : Type) where
  share : PubShare E
  challenge : F
  proof : F
deriving DecidableEq

structure BlindingReply (F E : Type) where
  blindedR : E
  blindedDiff : E
  challenge : F
  proof : F
deriving DecidableEq

namespace Pet

def name : String := "pet/jubjub"

variable {F E : Type} [Field F] [AddCommGroup E] [Module F E] [Curve E]

variable (F) in
def ownerFingerprint [ScalarHash F] (ownerId : Bytes) : E :=
  (hashToScalar (utf8Bytes "orbis-jubjub-pet-fingerprint-v1" ++ ownerId) : F) • generator

/-! ## Knowledge of the tag's randomness -/

variable [Repr32 E]

def tagKnowledgeProofChallenge [ScalarHash F]
    (ephemeralPoint r1 : E) (tagTranscriptDigest : Bytes) : F :=
  hashToScalar (utf8Bytes "orbis-jubjub-pet-tag-knowledge-proof-v1" ++ toRepr ephemeralPoint ++
    toRepr r1 ++ tagTranscriptDigest)

variable [DecidableEq E]

variable (F E) in
def verifyTagKnowledge [Repr32 F] [ScalarHash F]
    (tag : PetTag) (proof : TagKnowledgeProof) (tagTranscriptDigest : Bytes) :
    Except CryptoError Unit := do
  let ephemeralPoint : E ← decodeGroupElement "ephemeral_point" tag.ephemeralPoint
  let challenge : F ← decodeProofScalar "tag-knowledge-proof challenge" proof.challenge
  let response : F ← decodeProofScalar "tag-knowledge-proof response" proof.response
  let r1 : E := response • generator - challenge • ephemeralPoint
  let recomputed : F := tagKnowledgeProofChallenge ephemeralPoint r1 tagTranscriptDigest
  if toRepr challenge ≠ toRepr recomputed then
    .error (.elGamalError "Tag knowledge proof verification failed")
  else pure ()

/-! ## Decryption shares -/

variable [Blake2bScalarHash F]

/-- The challenge binds the member, its public share and the proof points. -/
def petCheckProofChallenge (nodeId : ℕ) (rPoint publicShare partialPoint : E)
    (proofPoints : List E) : F :=
  blake2bToScalar (utf8Bytes "orbis-jubjub-pet-check-dleq-proof-v1" ++ leBytes 4 nodeId ++
    toRepr rPoint ++ toRepr publicShare ++ toRepr partialPoint ++ proofPoints.flatMap toRepr)

/-- The proof of equality uses nonce `ri`. -/
def partialPetCheck (ri share : F) (nodeId : ℕ) (tag : PetTag) :
    Except CryptoError (PetCheckReply F E) := do
  let rPoint : E ← decodeGroupElement "ephemeral_point" tag.ephemeralPoint
  let partialPoint := share • rPoint
  let challenge : F := petCheckProofChallenge nodeId rPoint (share • generator) partialPoint
    [ri • rPoint, ri • generator]
  pure ⟨⟨nodeId, partialPoint⟩, challenge, ri + challenge * share⟩

def verifyPartialPetCheck [Repr32 F]
    (pubPoly : PubPoly E) (tag : PetTag) (reply : PetCheckReply F E) :
    Except CryptoError Unit := do
  let rPoint : E ← decodeGroupElement "ephemeral_point" tag.ephemeralPoint
  let publicShare := pubPoly.eval F reply.share.i
  let uiHat := reply.proof • rPoint - reply.challenge • reply.share.v
  let hiHat := reply.proof • generator - reply.challenge • publicShare
  let recomputed : F := petCheckProofChallenge reply.share.i rPoint publicShare reply.share.v
    [uiHat, hiHat]
  if toRepr reply.challenge ≠ toRepr recomputed then
    .error (.elGamalError "PET check share verification failed")
  else pure ()

variable (F) in
/-- The first `threshold` shares are used. -/
def combinePetCheckShares [DecidableEq F] (shares : List (PubShare E)) (threshold n : ℕ) :
    Except CryptoError E :=
  let got := shares.length
  if got < threshold then
    .error (.elGamalError s!"Insufficient PET check shares: got {got}, need {threshold}")
  else combine F "PET check share index" (shares.take threshold) n

/-! ## Blinding -/

/-- The distance and its multiple may be the identity. -/
def blindingProofChallenge (rPoint diffPoint blindedR blindedDiff uPoint vPoint : E)
    (blindTranscriptDigest : Bytes) : F :=
  blake2bToScalar (utf8Bytes "orbis-jubjub-pet-blind-proof-v1" ++
    [rPoint, diffPoint, blindedR, blindedDiff, uPoint, vPoint].flatMap toRepr ++
    blindTranscriptDigest)

/-- The proof of equality uses nonce `w`. -/
def proveBlindingCorrectness (w z : F) (tag : PetTag) (targetFingerprint : E)
    (blindTranscriptDigest : Bytes) : Except CryptoError (BlindingReply F E) := do
  let rPoint : E ← decodeGroupElement "ephemeral_point" tag.ephemeralPoint
  let maskedFingerprint : E ← decodeGroupElement "masked_fingerprint" tag.maskedFingerprint
  let diffPoint := maskedFingerprint - targetFingerprint
  let blindedR := z • rPoint
  let blindedDiff := z • diffPoint
  if blindedR = 0 then .error (.elGamalError "Invalid blinding scalar: z_i cannot be zero")
  else do
    let challenge : F := blindingProofChallenge rPoint diffPoint blindedR blindedDiff
      (w • rPoint) (w • diffPoint) blindTranscriptDigest
    pure ⟨blindedR, blindedDiff, challenge, w + challenge * z⟩

def verifyBlindingCorrectness [Repr32 F]
    (tag : PetTag) (targetFingerprint : E) (reply : BlindingReply F E)
    (blindTranscriptDigest : Bytes) : Except CryptoError Unit := do
  let rPoint : E ← decodeGroupElement "ephemeral_point" tag.ephemeralPoint
  let maskedFingerprint : E ← decodeGroupElement "masked_fingerprint" tag.maskedFingerprint
  let diffPoint := maskedFingerprint - targetFingerprint
  if reply.blindedR = 0 then
    .error (.elGamalError
      "Invalid blinding contribution: blinded_r cannot be the identity element")
  else do
    let u := reply.proof • rPoint - reply.challenge • reply.blindedR
    let v := reply.proof • diffPoint - reply.challenge • reply.blindedDiff
    let recomputed : F := blindingProofChallenge rPoint diffPoint reply.blindedR reply.blindedDiff
      u v blindTranscriptDigest
    if toRepr reply.challenge ≠ toRepr recomputed then
      .error (.elGamalError "Blinding-correctness proof verification failed")
    else pure ()

/-! ## Honest contributions -/

/-- The tag of a fingerprint under the checking key `x`, with ephemeral point `R`. -/
def tagOf (x : F) (R fingerprint : E) : PetTag := ⟨toRepr R, toRepr (fingerprint + x • R)⟩

def honestCheck (ri share : F) (nodeId : ℕ) (rPoint : E) : PetCheckReply F E :=
  let challenge : F := petCheckProofChallenge nodeId rPoint (share • generator) (share • rPoint)
    [ri • rPoint, ri • generator]
  ⟨⟨nodeId, share • rPoint⟩, challenge, ri + challenge * share⟩

def honestBlinding (w z : F) (rPoint diffPoint : E) (blindTranscriptDigest : Bytes) :
    BlindingReply F E :=
  let challenge : F := blindingProofChallenge rPoint diffPoint (z • rPoint) (z • diffPoint)
    (w • rPoint) (w • diffPoint) blindTranscriptDigest
  ⟨z • rPoint, z • diffPoint, challenge, w + challenge * z⟩

section Lawful

omit [DecidableEq E] [Curve E] [Repr32 E] [Blake2bScalarHash F] in
/-- With blinding `z` the comparison accepts the tag's fingerprint and no other. -/
theorem blinded_eq_iff {x z : F} {R fingerprint target : E} (hz : z ≠ 0) :
    x • (z • R) = z • (fingerprint + x • R - target) ↔ fingerprint = target := by
  have hsplit : z • (fingerprint + x • R - target) =
      z • (fingerprint - target) + x • (z • R) := by
    rw [← smul_comm z x R, ← smul_add]
    congr 1
    abel
  rw [hsplit, right_eq_add, smul_eq_zero_iff_right hz, sub_eq_zero]

omit [DecidableEq E] [Repr32 E] [Blake2bScalarHash F] in
/-- Members that hold the values of a sharing of `x` combine any threshold of their decryption
shares to `x` times the tag's point. -/
theorem combinePetCheckShares_eq [DecidableEq F]
    [PrimeOrder F E] {shares : List (PubShare E)} {threshold n : ℕ}
    (hn : n < 2 ^ 32) (hord : n < order E) (hnd : (shares.map (·.i)).Nodup)
    (hrange : ∀ share ∈ shares, 1 ≤ share.i ∧ share.i ≤ n) (henough : threshold ≤ shares.length)
    {as : List E} (hlen : as.length ≤ threshold) {x : F} {base : E}
    (hkey : powerSum as (0 : F) = x • (generator : E))
    (hshare : ∀ share ∈ shares, ∃ s : F,
      powerSum as (share.i : F) = s • (generator : E) ∧ share.v = s • base) :
    combinePetCheckShares F shares threshold n = .ok (x • base) := by
  have hsub : (shares.take threshold).Sublist shares := List.take_sublist _ _
  have hcheck : checkIndices "PET check share index" n [] ((shares.take threshold).map (·.i)) =
      .ok () := by
    apply checkIndices_eq_ok_iff.mpr
    refine ⟨hnd.sublist (hsub.map _), ?_, by simp⟩
    intro i hi
    obtain ⟨share, hmem, rfl⟩ := List.mem_map.mp hi
    rw [asU32_of_lt hn]
    exact hrange share (hsub.subset hmem)
  have hcount : as.length ≤ (shares.take threshold).length := by
    rw [List.length_take]
    omega
  unfold combinePetCheckShares
  simp only
  rw [if_neg (by omega)]
  exact combine_of_committed hord hcheck hcount hkey fun share hmem =>
    hshare share (hsub.subset hmem)

variable [LawfulRepr32 E]

theorem partialPetCheck_eq {rPoint : E} (hr : rPoint ≠ 0) (ri share : F) (nodeId : ℕ)
    (masked : Bytes) :
    partialPetCheck ri share nodeId ⟨toRepr rPoint, masked⟩ =
      .ok (honestCheck ri share nodeId rPoint) := by
  unfold partialPetCheck
  simp only [decodeGroupElement_toRepr _ hr, ok_bind]
  rfl

theorem verifyPartialPetCheck_honestCheck [Repr32 F] {rPoint : E} (hr : rPoint ≠ 0) {ri share : F}
    {nodeId : ℕ} {masked : Bytes} {pubPoly : PubPoly E}
    (hshare : pubPoly.eval F nodeId = share • (generator : E)) :
    verifyPartialPetCheck pubPoly ⟨toRepr rPoint, masked⟩
      (honestCheck ri share nodeId rPoint) = .ok () := by
  unfold verifyPartialPetCheck
  simp only [decodeGroupElement_toRepr _ hr, ok_bind, honestCheck, hshare, response_sub_challenge,
    ne_eq, not_true_eq_false, if_false]
  rfl

omit [Curve E] in
theorem proveBlindingCorrectness_eq {rPoint masked target : E} (hr : rPoint ≠ 0)
    (hmasked : masked ≠ 0) (w : F) {z : F} (hz : z ≠ 0) (digest : Bytes) :
    proveBlindingCorrectness w z ⟨toRepr rPoint, toRepr masked⟩ target digest =
      .ok (honestBlinding w z rPoint (masked - target) digest) := by
  unfold proveBlindingCorrectness
  simp only [decodeGroupElement_toRepr _ hr, decodeGroupElement_toRepr _ hmasked, ok_bind,
    smul_ne_zero hz hr, if_false]
  rfl

omit [Curve E] in
theorem verifyBlindingCorrectness_honestBlinding [Repr32 F]
    {rPoint masked target : E} (hr : rPoint ≠ 0)
    (hmasked : masked ≠ 0) {w z : F} (hz : z ≠ 0) {digest : Bytes} :
    verifyBlindingCorrectness ⟨toRepr rPoint, toRepr masked⟩ target
      (honestBlinding w z rPoint (masked - target) digest) digest = .ok () := by
  unfold verifyBlindingCorrectness
  simp only [decodeGroupElement_toRepr _ hr, decodeGroupElement_toRepr _ hmasked, ok_bind,
    honestBlinding, smul_ne_zero hz hr, if_false, response_sub_challenge, ne_eq,
    not_true_eq_false]
  rfl

end Lawful

end Pet

end Orbis.Crypto
