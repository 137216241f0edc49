import Orbis.Crypto.Pre.Dealer

/-!
# From encryption to decryption

The derivation multiplies the ring's secret by one scalar.  Every operation uses that scalar,
so that encrypting, re-encrypting with any large enough set of shares and decrypting give back
the document.
-/

namespace Orbis.Crypto.Pre

open Orbis.Algebra Orbis.Data

section Dealer

variable {F E : Type} [Field F] [AddCommGroup E] [Module F E] [DecidableEq E] [Repr32 E]
  [ScalarHash F]

/-! ## Proofs of knowledge -/

variable {context : ReaderAuthorizationContext}

theorem verify_signReaderAuthorization [Curve E] [Repr32 F] [Sha256] [LawfulRepr32 F] {k rdrSk : F}
    (hpk : rdrSk • (generator : E) ≠ 0) :
    verifyReaderAuthorization F (rdrSk • (generator : E)) context
      (signReaderAuthorization k rdrSk (rdrSk • (generator : E)) context) = .ok () := by
  unfold verifyReaderAuthorization signReaderAuthorization
  simp only [hpk, if_false, decodeProofScalar_toRepr, ok_bind, response_sub_challenge, ne_eq,
    not_true_eq_false]
  rfl

/-! ## The derived secret -/

/-- What a derivation multiplies the ring's secret by. -/
def derivedScalar : Option Bytes → F
  | none => 1
  | some derivation => deriveCapabilityScalar derivation

variable {derivation : Option Bytes}

omit [Repr32 E] in
theorem encryptionKey_eq [DecidableEq F]
    {dkgPk : E} (hder : (derivedScalar derivation : F) ≠ 0) (hpk : dkgPk ≠ 0) :
    encryptionKey (F := F) dkgPk derivation = .ok ((derivedScalar derivation : F) • dkgPk) := by
  unfold encryptionKey
  cases derivation with
  | none => simp only [derivedScalar, one_smul]
  | some bytes =>
    have hne : (deriveCapabilityScalar bytes : F) • dkgPk ≠ 0 := smul_ne_zero hder hpk
    have hd : (deriveCapabilityScalar bytes : F) ≠ 0 := hder
    simp only [hd, hne, if_false]
    rfl

theorem decompressPoint_toRepr [LawfulRepr32 E] {point : E} (h : point ≠ 0) :
    decompressPoint (toRepr point) = .ok point :=
  decodeGroupElement_toRepr _ h

/-! ## Re-encryption -/

variable [Curve E] [Blake2bScalarHash F]

/-- The proof with which member `idx` answers, for its derived share `x`. -/
def honestReply (ri : F) (idx : ℕ) (rdrPk encCmt : E) (x : F) : ReencryptReply F E :=
  let base := rdrPk + encCmt
  let c : F := reencryptChallenge idx rdrPk encCmt (x • generator)
    [x • base, ri • base, ri • generator]
  ⟨⟨idx, x • base⟩, c, ri + c * x⟩

variable {ri : F} {rdrPk encCmt : E}

theorem reencryptInternal_eq {idx : ℕ} {ski : F} (hrdr : rdrPk ≠ 0) (henc : encCmt ≠ 0) :
    reencryptInternal ri idx ski rdrPk encCmt (derivation.map deriveCapabilityScalar) =
      .ok ((honestReply ri idx rdrPk encCmt (derivedScalar derivation * ski)).share.v,
        (honestReply ri idx rdrPk encCmt (derivedScalar derivation * ski)).challenge,
        (honestReply ri idx rdrPk encCmt (derivedScalar derivation * ski)).proof) := by
  unfold reencryptInternal honestReply
  cases derivation with
  | none => simp only [hrdr, henc, if_false, Option.map_none, derivedScalar, one_mul]
  | some bytes => simp only [hrdr, henc, if_false, Option.map_some, derivedScalar]

variable {share : PriShare F} {reply : ReencryptReply F E} {scrt : Secret}
  {signature : ReaderAuthorizationSignature}

variable [Repr32 F]

omit [DecidableEq E] in
/-- The reply for a share verifies under every polynomial that has the share's value at its
index. -/
theorem verify_honestReply_of_eval {idx : ℕ} {x : F} {dkgCmt : PubPoly E}
    (h : dkgCmt.eval F idx = x • generator) : verify rdrPk dkgCmt encCmt
      (honestReply ri idx rdrPk encCmt (derivedScalar derivation * x)) derivation = .ok () := by
  have hcmt : effectiveCmt F dkgCmt derivation idx =
      (derivedScalar derivation * x) • (generator : E) := by
    unfold effectiveCmt
    cases derivation with
    | none => rw [h, derivedScalar, one_mul]
    | some bytes =>
      simp only [derivedScalar]
      rw [h, mul_smul]
  unfold verify
  simp only [honestReply, hcmt]
  unfold verifyInternal
  simp only [response_sub_challenge, ne_eq, not_true_eq_false, if_false]

variable [DecidableEq F] [Sha256]

/-- A produced reply is the honest one, for the secret's commitment. -/
theorem reencrypt_eq_ok [LawfulRepr32 E] (hcmt : scrt.encCmt = toRepr encCmt) (henc : encCmt ≠ 0)
    (h : reencrypt ri share scrt rdrPk context signature = .ok reply) :
    reply = honestReply ri share.i rdrPk encCmt (derivedScalar context.derivation * share.v) := by
  unfold reencrypt at h
  simp only at h
  split at h
  · cases h
  · split at h
    · cases h
    · obtain ⟨_, hauth, h⟩ := bind_eq_ok.mp h
      have hrdr : rdrPk ≠ 0 := by
        intro hzero
        simp [verifyReaderAuthorization, hzero] at hauth
      rw [hcmt, decompressPoint_toRepr henc, ok_bind] at h
      split at h
      · cases h
      · rw [reencryptInternal_eq hrdr henc, ok_bind] at h
        exact (Except.ok.inj h).symm

theorem encCmt_of_reencrypt (h : reencrypt ri share scrt rdrPk context signature = .ok reply) :
    ∃ encCmt : E, Element.fromBytes scrt.encCmt = .ok encCmt ∧ encCmt ≠ 0 := by
  unfold reencrypt at h
  simp only at h
  split at h
  · cases h
  · split at h
    · cases h
    · obtain ⟨_, -, h⟩ := bind_eq_ok.mp h
      obtain ⟨encCmt, hencCmt, -⟩ := bind_eq_ok.mp h
      exact ⟨encCmt, decodeGroupElement_eq_ok hencCmt⟩

theorem reencrypt_of_signed [PrimeOrder F E] [LawfulRepr32 F] [LawfulRepr32 E] {k rdrSk : F}
    (hcmt : scrt.encCmt = toRepr encCmt) (henc : encCmt ≠ 0) (hidx : share.i ≠ 0) (hrdr : rdrSk ≠ 0)
    (hder : (derivedScalar context.derivation : F) ≠ 0) :
    reencrypt ri share scrt (rdrSk • (generator : E)) context
        (signReaderAuthorization k rdrSk (rdrSk • (generator : E)) context) =
      .ok (honestReply ri share.i (rdrSk • generator) encCmt
        (derivedScalar context.derivation * share.v)) := by
  have hpk : rdrSk • (generator : E) ≠ 0 := smul_generator_ne_zero E hrdr
  have hnonempty : (toRepr encCmt).isEmpty = false := by
    rw [List.isEmpty_eq_false_iff, ← List.length_pos_iff, LawfulRepr32.length_toRepr]
    decide
  have hscalar : ¬context.derivation.map (deriveCapabilityScalar (F := F)) = some 0 := by
    intro hzero
    obtain ⟨bytes, hbytes, hd⟩ := Option.map_eq_some_iff.mp hzero
    rw [hbytes] at hder
    exact hder hd
  unfold reencrypt
  simp only [hcmt, hnonempty, hidx, hscalar, Bool.false_eq_true, if_false,
    verify_signReaderAuthorization hpk, decompressPoint_toRepr henc, ok_bind,
    reencryptInternal_eq hpk henc]
  rfl

/-! ## Recovery -/

omit [DecidableEq E] [Repr32 F] [Repr32 E] [ScalarHash F] [Blake2bScalarHash F] [Sha256] in
/-- Shares that are the values of one coefficient list recover its constant coefficient, whichever
`t` shares come first. -/
theorem recover_values [PrimeOrder F E] {shares : List (PubShare E)} (as : List E) {t n : ℕ}
    (hlen : as.length ≤ t) (ht : 0 < t) (htn : t ≤ n) (hn : n < 2 ^ 32) (hord : n < order E)
    (hnd : (shares.map (·.i)).Nodup) (hrange : ∀ share ∈ shares, 1 ≤ share.i ∧ share.i ≤ n)
    (henough : t ≤ shares.length)
    (hvalue : ∀ share ∈ shares, share.v = powerSum as (share.i : F)) :
    recover F shares t n = .ok (some (powerSum as (0 : F))) := by
  have hsub : (shares.take t).Sublist shares := List.take_sublist t shares
  have hcheck : checkIndices "share index" n [] ((shares.take t).map (·.i)) = .ok () := by
    apply checkIndices_eq_ok_iff.mpr
    refine ⟨hnd.sublist (hsub.map _), ?_, by simp⟩
    intro i hi
    obtain ⟨share, hshare, rfl⟩ := List.mem_map.mp hi
    rw [asU32_of_lt hn]
    exact hrange share (hsub.subset hshare)
  have hcount : as.length ≤ (shares.take t).length := by
    rw [List.length_take]
    omega
  have hcombine : combine F "share index" (shares.take t) n = .ok (powerSum as (0 : F)) :=
    combine_values hord hcheck hcount fun share hshare => hvalue share (hsub.subset hshare)
  unfold recover recoverCommit
  rw [if_neg (by omega), if_neg (by omega), if_neg (by omega), hcombine, ok_bind]
  rfl

/-! ## Encryption and decryption -/

variable {nonce data : Bytes}

variable [HkdfSha256] [Aes256Gcm]

omit [Blake2bScalarHash F] in
theorem verifyEncryption_encryptSecret [PrimeOrder F E] [LawfulRepr32 F] [LawfulRepr32 E]
    [LawfulAes256Gcm] {r k : F} {dkgPk : E} {context : CiphertextContext} {secret : Secret}
    {proof : EncryptionProof} (hr : r ≠ 0) (hnonce : nonce.length = 12)
    (h : encryptSecret r nonce k dkgPk data derivation context = .ok (encCmt, secret, proof)) :
    verifyEncryption F E proof context secret = .ok () := by
  have hcmt : r • (generator : E) ≠ 0 := smul_generator_ne_zero E hr
  unfold encryptSecret at h
  split at h
  · cases h
  · obtain ⟨effectivePk, -, h⟩ := bind_eq_ok.mp h
    simp only at h
    split at h
    · cases h
    · next ciphertext hcipher =>
        have hne : ciphertext.isEmpty = false :=
          List.isEmpty_eq_false_iff.mpr (LawfulAes256Gcm.ciphertext_ne_nil hcipher)
        simp only [pure, Except.pure, Except.ok.injEq, Prod.mk.injEq] at h
        obtain ⟨-, rfl, rfl⟩ := h
        unfold verifyEncryption
        simp only [LawfulRepr32.length_toRepr, ne_eq, not_true_eq_false, if_false,
          Element.fromBytes_toRepr, mapError_ok, ok_bind, hcmt, hnonce, hne, Bool.false_eq_true,
          decodeProofScalar_toRepr, response_sub_challenge]
        rfl

omit [DecidableEq F] [DecidableEq E] [Curve E] [Repr32 F] [ScalarHash F] [Blake2bScalarHash F] in
theorem decryptSecret_eq [LawfulAes256Gcm] {key : E} {r rdrSk : F} {ciphertext encCmt : Bytes}
    {context : CiphertextContext} (hnonce : nonce.length = 12) (hcmt : encCmt ≠ [])
    (hcipher : Aes256Gcm.encrypt (deriveKeyFromPoint (r • key)) nonce
      (contextDigest context encCmt) data = some ciphertext) :
    decryptSecret key ((rdrSk + r) • key) rdrSk ⟨encCmt, ciphertext, nonce⟩ context =
      .ok data := by
  have hshared : (rdrSk + r) • key - rdrSk • key = r • key := by
    rw [add_smul, add_sub_cancel_left]
  have hne : ciphertext.isEmpty = false :=
    List.isEmpty_eq_false_iff.mpr (LawfulAes256Gcm.ciphertext_ne_nil hcipher)
  have hne' : encCmt.isEmpty = false := List.isEmpty_eq_false_iff.mpr hcmt
  unfold decryptSecret
  simp only [hnonce, hne, hne', hshared, LawfulAes256Gcm.decrypt_encrypt hcipher, ne_eq,
    not_true_eq_false, Bool.false_eq_true, if_false]

/-- Encrypt to a shared ring key, let any members re-encrypt for a reader, recover and decrypt. -/
theorem reencrypted_secret_decrypts [PrimeOrder F E] [LawfulRepr32 E] [LawfulAes256Gcm]
    {coeffs : List F} {t n : ℕ} {r k rdrSk : F} {nonce data ciphertext : Bytes}
    {derivation : Option Bytes} {context : CiphertextContext} (hlen : coeffs.length ≤ t)
    (ht : 0 < t) (htn : t ≤ n) (hn : n < 2 ^ 32) (hord : n < order E)
    (hkey : powerSum coeffs (0 : F) ≠ 0) (hder : (derivedScalar derivation : F) ≠ 0)
    (hr : r ≠ 0) (hnonce : nonce.length = 12)
    (hcipher : Aes256Gcm.encrypt
      (deriveKeyFromPoint
        (r • (derivedScalar derivation : F) • powerSum coeffs (0 : F) • (generator : E))) nonce
      (contextDigest context (toRepr (r • (generator : E)))) data = some ciphertext) :
    ∃ encCmt secret proof,
      encryptSecret r nonce k (powerSum coeffs (0 : F) • (generator : E)) data derivation
          context = .ok (encCmt, secret, proof) ∧
      ∀ replies : List (ReencryptReply F E), t ≤ replies.length →
        (replies.map (·.share.i)).Nodup →
        (∀ reply ∈ replies, 1 ≤ reply.share.i ∧ reply.share.i ≤ n) →
        (∀ reply ∈ replies, ∃ ri readerContext signature,
          readerContext.derivation = derivation ∧
          reencrypt ri ⟨reply.share.i, powerSum coeffs (reply.share.i : F)⟩ secret
            (rdrSk • (generator : E)) readerContext signature = .ok reply) →
        (∀ reply ∈ replies, verify (rdrSk • (generator : E))
          ⟨coeffs.map (· • (generator : E))⟩ encCmt reply derivation = .ok ()) ∧
        recover F (replies.map (·.share)) t n =
          .ok (some ((derivedScalar derivation * powerSum coeffs (0 : F)) •
            (rdrSk • (generator : E) + encCmt))) ∧
        decryptSecret
            ((derivedScalar derivation : F) • powerSum coeffs (0 : F) • (generator : E))
            ((derivedScalar derivation * powerSum coeffs (0 : F)) •
              (rdrSk • (generator : E) + encCmt)) rdrSk secret context = .ok data := by
  have hpk : powerSum coeffs (0 : F) • (generator : E) ≠ 0 := smul_generator_ne_zero E hkey
  have hcmt : r • (generator : E) ≠ 0 := smul_generator_ne_zero E hr
  unfold encryptSecret
  rw [if_neg hpk, encryptionKey_eq hder hpk, ok_bind]
  simp only [hcipher]
  refine ⟨_, _, _, rfl, ?_⟩
  intro replies henough hnd hrange hproduced
  have hreply : ∀ reply ∈ replies, ∃ ri, reply = honestReply ri reply.share.i
      (rdrSk • (generator : E)) (r • generator)
      (derivedScalar derivation * powerSum coeffs (reply.share.i : F)) := by
    intro reply hmem
    obtain ⟨ri, readerContext, signature, hcontext, hok⟩ := hproduced reply hmem
    have heq := reencrypt_eq_ok rfl hcmt hok
    rw [hcontext] at heq
    exact ⟨ri, heq⟩
  set base := rdrSk • (generator : E) + r • (generator : E) with hbase
  set d : F := derivedScalar derivation
  refine ⟨?_, ?_, ?_⟩
  · intro reply hmem
    obtain ⟨ri, heq⟩ := hreply reply hmem
    rw [heq]
    apply verify_honestReply_of_eval
    rw [PubPoly.eval_eq_powerSum, powerSum_map_smul_right]
  · have hvalue : ∀ share ∈ replies.map (·.share),
        share.v = powerSum (coeffs.map (· • (d • base))) (share.i : F) := by
      intro share hshare
      obtain ⟨reply, hmem, rfl⟩ := List.mem_map.mp hshare
      obtain ⟨ri, heq⟩ := hreply reply hmem
      rw [powerSum_map_smul_right, smul_smul, mul_comm]
      exact congrArg (fun reply : ReencryptReply F E => reply.share.v) heq
    have hlen' : (coeffs.map (· • (d • base))).length ≤ t := by rwa [List.length_map]
    have hnd' : ((replies.map (·.share)).map (·.i)).Nodup := by
      rw [List.map_map]
      exact hnd
    rw [recover_values (coeffs.map (· • (d • base))) hlen' ht htn hn hord hnd'
      (by simpa using hrange) (by rwa [List.length_map]) hvalue, powerSum_map_smul_right, smul_smul,
      mul_comm]
  · have hpoint : (d * powerSum coeffs (0 : F)) • base =
        (rdrSk + r) • (d • powerSum coeffs (0 : F) • (generator : E)) := by
      rw [hbase, ← add_smul, smul_smul, smul_smul, smul_smul]
      congr 1
      ring
    have hne : toRepr (r • (generator : E)) ≠ [] := by
      rw [← List.length_pos_iff, LawfulRepr32.length_toRepr]
      decide
    rw [hpoint]
    exact decryptSecret_eq hnonce hne hcipher

end Dealer

/-! A two-of-three sharing over the group of order seven, with a cipher that writes its key and
associated data in front of the message. -/

section Toy

local instance : Sha256 := ⟨fun bytes => bytes⟩

local instance : HkdfSha256 := ⟨fun keyMaterial info => keyMaterial ++ info⟩

local instance : Aes256Gcm where
  encrypt key nonce aad msg := some ((1 :: key ++ nonce ++ aad) ++ msg)
  decrypt key nonce aad ciphertext :=
    if (1 :: key ++ nonce ++ aad).isPrefixOf ciphertext then
      some (ciphertext.drop (1 :: key ++ nonce ++ aad).length)
    else none

local instance : LawfulAes256Gcm where
  decrypt_encrypt := by
    intro key nonce aad msg ciphertext h
    cases h
    have hprefix : (1 :: key ++ nonce ++ aad).isPrefixOf ((1 :: key ++ nonce ++ aad) ++ msg) :=
      List.isPrefixOf_iff_prefix.mpr (List.prefix_append _ _)
    show (if (1 :: key ++ nonce ++ aad).isPrefixOf ((1 :: key ++ nonce ++ aad) ++ msg) then
      some (((1 :: key ++ nonce ++ aad) ++ msg).drop (1 :: key ++ nonce ++ aad).length)
      else none) = some msg
    rw [if_pos hprefix, List.drop_left]
  ciphertext_ne_nil := by
    intro key nonce aad msg ciphertext h
    cases h
    exact List.cons_ne_nil _ _

def toyContext : CiphertextContext := ⟨[], "policy", "resource", "read", none, none, none, none⟩

def toyReaderContext : ReaderAuthorizationContext :=
  ⟨"chain", [], "issuer", none, "actor", "id", 0, 1, none, "object", [], some [1], none, none, none⟩

def toyCoeffs : List F7 := [2, 3]

def toyEncrypted : Except CryptoError (F7 × Secret × EncryptionProof) :=
  encryptSecret (2 : F7) (List.replicate 12 0) 1
    (powerSum toyCoeffs (0 : F7) • (generator : F7)) [4, 5] (some [1]) toyContext

def toyReencrypt (secret : Secret) (i : ℕ) : Except CryptoError (ReencryptReply F7 F7) :=
  reencrypt 1 ⟨i, powerSum toyCoeffs (i : F7)⟩ secret ((3 : F7) • (generator : F7)) toyReaderContext
    (signReaderAuthorization (1 : F7) 3 ((3 : F7) • (generator : F7)) toyReaderContext)

/-- Members three and one answer, in that order. -/
def toyReplies (secret : Secret) : List (ReencryptReply F7 F7) :=
  [3, 1].filterMap fun i => (toyReencrypt secret i).toOption

theorem reencrypt_of_signed_toy : toyReencrypt ⟨toRepr (2 : F7), [], []⟩ 3 =
    .ok (honestReply 1 3 ((3 : F7) • generator) 2
      (derivedScalar (some [1]) * powerSum toyCoeffs (3 : F7))) :=
  reencrypt_of_signed rfl (by decide) (by decide) (by decide) (by decide +kernel)

theorem verifyEncryption_encryptSecret_toy : ∃ encCmt secret proof,
    toyEncrypted = .ok (encCmt, secret, proof) ∧
      verifyEncryption F7 F7 proof toyContext secret = .ok () := by
  obtain ⟨⟨encCmt, secret, proof⟩, h⟩ : ∃ encrypted, toyEncrypted = .ok encrypted := ⟨_, rfl⟩
  exact ⟨encCmt, secret, proof, h, verifyEncryption_encryptSecret (by decide) rfl h⟩

theorem reencrypted_secret_decrypts_two : ∃ encCmt secret proof,
    toyEncrypted = .ok (encCmt, secret, proof) ∧
    (toyReplies secret).map (·.share.i) = [3, 1] ∧
    recover F7 ((toyReplies secret).map (·.share)) 2 3 =
      .ok (some (((derivedScalar (some [1]) : F7) * powerSum toyCoeffs (0 : F7)) •
        ((3 : F7) • (generator : F7) + encCmt))) ∧
    decryptSecret ((derivedScalar (some [1]) : F7) • powerSum toyCoeffs (0 : F7) • (generator : F7))
      (((derivedScalar (some [1]) : F7) * powerSum toyCoeffs (0 : F7)) •
        ((3 : F7) • (generator : F7) + encCmt)) (3 : F7) secret toyContext = .ok [4, 5] := by
  have hder : (derivedScalar (some [1]) : F7) ≠ 0 := by decide +kernel
  have hnonce : (List.replicate 12 0 : Bytes).length = 12 := rfl
  have hcipher : Aes256Gcm.encrypt
      (deriveKeyFromPoint ((2 : F7) • (derivedScalar (some [1]) : F7) •
        powerSum toyCoeffs (0 : F7) • (generator : F7))) (List.replicate 12 0)
      (contextDigest toyContext (toRepr ((2 : F7) • (generator : F7)))) [4, 5] = some _ := rfl
  obtain ⟨encCmt, secret, proof, hencrypt, hreplies⟩ :=
    reencrypted_secret_decrypts (t := 2) (n := 3) (k := (1 : F7)) (by decide) (by decide)
      (by decide) (by decide) (by decide) (by decide) hder (by decide) hnonce hcipher
  have heval : toyEncrypted.toOption.map (fun e : F7 × Secret × EncryptionProof =>
      ((toyReplies e.2.1).map (·.share.i),
      decide (∀ reply ∈ toyReplies e.2.1, toyReencrypt e.2.1 reply.share.i = .ok reply))) =
      some ([3, 1], true) := by
    decide +kernel
  have hencrypted : toyEncrypted = .ok (encCmt, secret, proof) := hencrypt
  simp only [hencrypted, Except.toOption, Option.map_some, Option.some.injEq, Prod.mk.injEq,
    decide_eq_true_eq] at heval
  obtain ⟨hindices, hproduced⟩ := heval
  have hcount : (toyReplies secret).length = 2 := by
    rw [← List.length_map (·.share.i), hindices]
    rfl
  have hrange : ∀ reply ∈ toyReplies secret, 1 ≤ reply.share.i ∧ reply.share.i ≤ 3 := by
    intro reply hreply
    have hmem : reply.share.i ∈ [3, 1] := hindices ▸ List.mem_map_of_mem hreply
    revert hmem
    generalize reply.share.i = i
    intro hmem
    simp only [List.mem_cons, List.not_mem_nil, or_false] at hmem
    omega
  obtain ⟨-, hrecover, hdecrypt⟩ := hreplies (toyReplies secret) hcount.ge
    (by rw [hindices]; decide) hrange
    (fun reply hreply => ⟨1, toyReaderContext, _, rfl, hproduced reply hreply⟩)
  exact ⟨encCmt, secret, proof, hencrypted, hindices, hrecover, hdecrypt⟩

end Toy

end Orbis.Crypto.Pre
