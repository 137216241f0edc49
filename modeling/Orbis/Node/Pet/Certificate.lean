import Orbis.Data.FiniteMap
import Orbis.Node.Pet.Verification

/-!
# What a certificate and the statements bound to it establish

If every reveal multiplies the tag and its distance to the target by one scalar, the aggregate
points of an accepted certificate are the two multiples by the sum of these scalars, and the sum
is not zero.  If every decryption statement multiplies the aggregate point by the committed key
share, the combined share is the aggregate point times the checking key.
-/

namespace Orbis.Node.Pet

open Orbis.Algebra Orbis.Crypto Orbis.Crypto.Pet Orbis.Data
open RingShareBundle (Storage loadByPetRingKey)

variable {F E : Type} [Repr32 F] [Repr32 E]

/-! ## One reveal -/

variable {reply : BlindingReply F E}

theorem decodeReveal_eq_some {statement : PetBlindRevealStatement}
    (h : decodeReveal statement = some reply) :
    Element.fromBytes statement.blindedR = .ok reply.blindedR ∧
      Element.fromBytes statement.blindedDiff = .ok reply.blindedDiff := by
  obtain ⟨blindedR, hr, h⟩ := Option.bind_eq_some_iff.mp h
  obtain ⟨blindedDiff, hdiff, h⟩ := Option.bind_eq_some_iff.mp h
  obtain ⟨challenge, -, h⟩ := Option.bind_eq_some_iff.mp h
  obtain ⟨proof, -, h⟩ := Option.bind_eq_some_iff.mp h
  cases h
  exact ⟨toOption_eq_some.mp hr, toOption_eq_some.mp hdiff⟩

variable {statement : PetBlindDecryptStatement}

theorem decodeDecrypt_eq_some {reply : PetCheckReply F E}
    (h : decodeDecrypt statement = some reply) :
    Element.fromBytes statement.partialPoint = .ok reply.share.v := by
  obtain ⟨partialPoint, hpoint, h⟩ := Option.bind_eq_some_iff.mp h
  obtain ⟨challenge, -, h⟩ := Option.bind_eq_some_iff.mp h
  obtain ⟨proof, -, h⟩ := Option.bind_eq_some_iff.mp h
  cases h
  exact toOption_eq_some.mp hpoint

theorem decodeReveal_toRepr [LawfulRepr32 F] [LawfulRepr32 E] {statement : PetBlindRevealStatement}
    (hr : statement.blindedR = toRepr reply.blindedR)
    (hdiff : statement.blindedDiff = toRepr reply.blindedDiff)
    (hchallenge : statement.challenge = toRepr reply.challenge)
    (hproof : statement.proof = toRepr reply.proof) : decodeReveal statement = some reply := by
  unfold decodeReveal
  rw [hr, hdiff, hchallenge, hproof, Element.fromBytes_toRepr, Element.fromBytes_toRepr,
    Fr.fromBytes_toRepr, Fr.fromBytes_toRepr]
  rfl

theorem decodeDecrypt_toRepr [LawfulRepr32 F] [LawfulRepr32 E] {reply : PetCheckReply F E}
    (hid : statement.fromNodeId = reply.share.i)
    (hpoint : statement.partialPoint = toRepr reply.share.v)
    (hchallenge : statement.challenge = toRepr reply.challenge)
    (hproof : statement.proof = toRepr reply.proof) : decodeDecrypt statement = some reply := by
  unfold decodeDecrypt
  rw [hid, hpoint, hchallenge, hproof, Element.fromBytes_toRepr, Fr.fromBytes_toRepr,
    Fr.fromBytes_toRepr]
  rfl

variable {points : E × E}

variable [Field F] [AddCommGroup E] [Module F E] [Blake2bScalarHash F]

/-- An accepted reveal carries the returned points, and the tag it is for is not the identity. -/
theorem verifyOneReveal_eq_ok [DecidableEq E] [Sha256] [NodeSigning]
    {statement : PetBlindRevealStatement} {signature : Bytes}
    {ring : RingPayload} {tag : PetTag} {target : E} {commitment selection : Bytes}
    (h : verifyOneReveal F statement signature ring tag target commitment selection =
      .ok points) : Element.fromBytes statement.blindedR = .ok points.1 ∧
      Element.fromBytes statement.blindedDiff = .ok points.2 ∧
      ∃ masked : E, Element.fromBytes tag.maskedFingerprint = .ok masked ∧ masked ≠ 0 := by
  obtain ⟨nodeKey, -, h⟩ := bind_eq_ok.mp h
  iterate 5 obtain ⟨_, -, h⟩ := bind_eq_ok.mp h
  obtain ⟨reply, hreply, h⟩ := bind_eq_ok.mp h
  obtain ⟨_, hproof, h⟩ := bind_eq_ok.mp h
  cases h
  obtain ⟨hr, hdiff⟩ := decodeReveal_eq_some (okOr_eq_ok.mp hreply)
  obtain ⟨rPoint, -, hproof⟩ := bind_eq_ok.mp (mapError_eq_ok.mp hproof)
  obtain ⟨masked, hmasked, -⟩ := bind_eq_ok.mp hproof
  exact ⟨hr, hdiff, masked, decodeGroupElement_eq_ok hmasked⟩

/-! ## The aggregate points -/

omit [Repr32 E] in
theorem addPoint_eq (sum : Option E) (point : E) :
    addPoint sum point = some (sum.getD 0 + point) := by
  cases sum <;> simp [addPoint]

def revealedR (reveal : PetBlindSignedReveal) : E :=
  (Element.fromBytes reveal.statement.blindedR).toOption.getD 0

def revealedDiff (reveal : PetBlindSignedReveal) : E :=
  (Element.fromBytes reveal.statement.blindedDiff).toOption.getD 0

variable {reveal : PetBlindSignedReveal}

theorem revealedR_eq {point : E} (h : Element.fromBytes reveal.statement.blindedR = .ok point) :
    revealedR reveal = point := by
  rw [revealedR, h]
  rfl

theorem revealedDiff_eq {point : E}
    (h : Element.fromBytes reveal.statement.blindedDiff = .ok point) :
    revealedDiff reveal = point := by
  rw [revealedDiff, h]
  rfl

variable [DecidableEq E] [Sha256] [NodeSigning]

variable (F) in
/-- The checks of one reveal other than that its node was not seen before. -/
structure RevealChecked (certificate : PetBlindCertificate) (ring : RingPayload) (tag : PetTag)
    (target : E) (context : PetBlindContext) (selection : Bytes) (reveal : PetBlindSignedReveal) :
    Prop where
  binding : reveal.statement.signedContext.matches petBlindRevealResponseDomain context = true
  attempt : reveal.statement.attemptId = certificate.attemptId
  contextDigest : reveal.statement.contextDigest = certificate.contextDigest
  verified : ∃ selected points,
    certificate.allCommitments.find? (·.1 = reveal.statement.fromNodeId) = some selected ∧
      verifyOneReveal F reveal.statement reveal.responseSignature ring tag target selected.2
        selection = .ok points

section Aggregate

variable {certificate : PetBlindCertificate} {ring : RingPayload} {tag : PetTag} {target : E}
  {context : PetBlindContext} {selection : Bytes}

variable {aggregate result : Aggregate E}

theorem aggregateReveals_cons_eq_ok {rest : List PetBlindSignedReveal}
    (h : aggregateReveals F certificate ring tag target context selection aggregate
      (reveal :: rest) = .ok result) :
    RevealChecked F certificate ring tag target context selection reveal ∧
      reveal.statement.fromNodeId ∉ aggregate.seen ∧
      ∃ points : E × E, Element.fromBytes reveal.statement.blindedR = .ok points.1 ∧
        Element.fromBytes reveal.statement.blindedDiff = .ok points.2 ∧
        aggregateReveals F certificate ring tag target context selection
          ⟨addPoint aggregate.r points.1, addPoint aggregate.diff points.2,
            reveal.statement.fromNodeId :: aggregate.seen⟩ rest = .ok result := by
  obtain ⟨_, hbinding, h⟩ := bind_eq_ok.mp h
  obtain ⟨_, hattempt, h⟩ := bind_eq_ok.mp h
  obtain ⟨_, hcontext, h⟩ := bind_eq_ok.mp h
  obtain ⟨_, hseen, h⟩ := bind_eq_ok.mp h
  obtain ⟨selected, hselected, h⟩ := bind_eq_ok.mp h
  obtain ⟨points, hpoints, h⟩ := bind_eq_ok.mp h
  have hverified := mapError_eq_ok.mp hpoints
  obtain ⟨hr, hdiff, -⟩ := verifyOneReveal_eq_ok hverified
  exact ⟨⟨require_eq_ok.mp hbinding, require_eq_ok.mp hattempt, require_eq_ok.mp hcontext,
    selected, points, okOr_eq_ok.mp hselected, hverified⟩, require_eq_ok.mp hseen, points, hr,
    hdiff, h⟩

variable {reveals : List PetBlindSignedReveal}

/-- Checked reveals of different nodes are aggregated. -/
theorem aggregateReveals_of_checked (aggregate : Aggregate E) (hchecked : ∀ reveal ∈ reveals,
      RevealChecked F certificate ring tag target context selection reveal)
    (hnd : (reveals.map (·.statement.fromNodeId)).Nodup)
    (hnew : ∀ reveal ∈ reveals, reveal.statement.fromNodeId ∉ aggregate.seen) :
    ∃ result, aggregateReveals F certificate ring tag target context selection aggregate reveals =
      .ok result := by
  induction reveals generalizing aggregate with
  | nil => exact ⟨aggregate, rfl⟩
  | cons reveal rest ih =>
    have hreveal := hchecked reveal List.mem_cons_self
    obtain ⟨selected, points, hselected, hverified⟩ := hreveal.verified
    obtain ⟨hid, hnd⟩ := List.nodup_cons.mp hnd
    unfold aggregateReveals
    simp only
    rw [require_bind hreveal.binding, require_bind hreveal.attempt,
      require_bind hreveal.contextDigest, require_bind (hnew reveal List.mem_cons_self),
      hselected, okOr_some, ok_bind, hverified]
    exact ih _ (fun other hother => hchecked other (List.mem_cons_of_mem reveal hother)) hnd
      (forall_new_cons hid hnew)

theorem aggregateReveals_eq_ok
    (h : aggregateReveals F certificate ring tag target context selection aggregate reveals =
      .ok result) : result.r.getD 0 = aggregate.r.getD 0 + (reveals.map revealedR).sum ∧
      result.diff.getD 0 = aggregate.diff.getD 0 + (reveals.map revealedDiff).sum := by
  induction reveals generalizing aggregate with
  | nil =>
    cases h
    simp
  | cons reveal rest ih =>
    obtain ⟨-, -, points, hr, hdiff, hrest⟩ := aggregateReveals_cons_eq_ok h
    obtain ⟨hsumR, hsumDiff⟩ := ih hrest
    rw [hsumR, hsumDiff, addPoint_eq, addPoint_eq, List.map_cons, List.map_cons, List.sum_cons,
      List.sum_cons, revealedR_eq hr, revealedDiff_eq hdiff, Option.getD_some, Option.getD_some,
      add_assoc, add_assoc]
    exact ⟨rfl, rfl⟩

theorem checked_of_aggregateReveals
    (h : aggregateReveals F certificate ring tag target context selection aggregate reveals =
      .ok result) :
    ∀ reveal ∈ reveals, RevealChecked F certificate ring tag target context selection reveal := by
  induction reveals generalizing aggregate with
  | nil => exact fun _ hmem => absurd hmem List.not_mem_nil
  | cons reveal rest ih =>
    obtain ⟨hchecked, -, points, -, -, hrest⟩ := aggregateReveals_cons_eq_ok h
    intro other hmem
    rcases List.mem_cons.mp hmem with rfl | hmem
    · exact hchecked
    · exact ih hrest other hmem

theorem aggregateReveals_isSome
    (hsome : reveals ≠ [] ∨ (aggregate.r.isSome ∧ aggregate.diff.isSome))
    (h : aggregateReveals F certificate ring tag target context selection aggregate reveals =
      .ok result) : result.r.isSome ∧ result.diff.isSome := by
  induction reveals generalizing aggregate with
  | nil =>
    cases h
    exact hsome.resolve_left fun hne => hne rfl
  | cons reveal rest ih =>
    obtain ⟨-, -, points, -, -, hrest⟩ := aggregateReveals_cons_eq_ok h
    apply ih (Or.inr _) hrest
    simp [addPoint_eq]

/-! ## The certificate -/

variable (F) in
/-- What the proof of a reveal is for: one scalar on the tag's point and on its distance to the
target. -/
def BlindingRelation (tag : PetTag) (target : E) (reveal : PetBlindSignedReveal) : Prop :=
  ∃ (rPoint masked : E) (z : F), Element.fromBytes tag.ephemeralPoint = .ok rPoint ∧
    Element.fromBytes tag.maskedFingerprint = .ok masked ∧
    Element.fromBytes reveal.statement.blindedR = .ok (z • rPoint) ∧
    Element.fromBytes reveal.statement.blindedDiff = .ok (z • (masked - target))

omit [Sha256] [NodeSigning] in
theorem checkSelected_of_nodup {duplicate : ℕ → PetError} {badLength : PetError} {seen : List ℕ}
    {selected : List (ℕ × Bytes)} (hnd : (selected.map (·.1)).Nodup)
    (hnew : ∀ c ∈ selected, c.1 ∉ seen) (hlength : ∀ c ∈ selected, c.2.length = 32) :
    checkSelected duplicate badLength seen selected = .ok () := by
  induction selected generalizing seen with
  | nil => rfl
  | cons c rest ih =>
    obtain ⟨hid, hnd⟩ := List.nodup_cons.mp hnd
    rw [checkSelected, require_bind (hnew c List.mem_cons_self),
      require_bind (hlength c List.mem_cons_self)]
    exact ih hnd (forall_new_cons hid hnew) fun d hd => hlength d (List.mem_cons_of_mem c hd)

/-- What an accepted certificate has passed, and its aggregate points. -/
theorem buildAndVerifyPetBlindCertificate_eq_ok
    (h : buildAndVerifyPetBlindCertificate F certificate ring tag target context = .ok points) :
    (∃ polynomial : PubPoly E,
        decode F certificate.publicPolynomial ring.threshold context.petPk = .ok polynomial) ∧
      CertificateMatches certificate ring context ∧
      certificate.reveals.length = ring.threshold ∧
      (∀ reveal ∈ certificate.reveals, RevealChecked F certificate ring tag target context
        (petBlindSelectionDigest certificate.attemptId certificate.contextDigest
          certificate.allCommitments) reveal) ∧
      points.1 ≠ 0 ∧ points.1 = (certificate.reveals.map revealedR).sum ∧
      points.2 = (certificate.reveals.map revealedDiff).sum := by
  obtain ⟨polynomial, hdecode, h⟩ := bind_eq_ok.mp h
  obtain ⟨_, hmatches, h⟩ := bind_eq_ok.mp h
  obtain ⟨_, -, h⟩ := bind_eq_ok.mp h
  obtain ⟨_, hcount, h⟩ := bind_eq_ok.mp h
  obtain ⟨_, -, h⟩ := bind_eq_ok.mp h
  obtain ⟨result, hresult, h⟩ := bind_eq_ok.mp h
  obtain ⟨aggregateR, hr, h⟩ := bind_eq_ok.mp h
  obtain ⟨aggregateDiff, hdiff, h⟩ := bind_eq_ok.mp h
  obtain ⟨_, hne, h⟩ := bind_eq_ok.mp h
  cases h
  obtain ⟨hsumR, hsumDiff⟩ := aggregateReveals_eq_ok hresult
  rw [okOr_eq_ok.mp hr, Option.getD_some, Option.getD_none, zero_add] at hsumR
  rw [okOr_eq_ok.mp hdiff, Option.getD_some, Option.getD_none, zero_add] at hsumDiff
  exact ⟨⟨polynomial, hdecode⟩, require_eq_ok.mp hmatches, require_eq_ok.mp hcount,
    checked_of_aggregateReveals hresult, require_eq_ok.mp hne, hsumR, hsumDiff⟩

/-- The aggregate points are the tag's point and its distance times one scalar, which is not
zero. -/
theorem aggregate_of_related {rPoint masked : E}
    (hr : Element.fromBytes tag.ephemeralPoint = .ok rPoint)
    (hmasked : Element.fromBytes tag.maskedFingerprint = .ok masked)
    (hrelated : ∀ reveal ∈ certificate.reveals, BlindingRelation F tag target reveal)
    (h : buildAndVerifyPetBlindCertificate F certificate ring tag target context = .ok points) :
    ∃ z : F, z ≠ 0 ∧ points = (z • rPoint, z • (masked - target)) := by
  have hscalar : ∀ reveal ∈ certificate.reveals, ∃ z : F, revealedR reveal = z • rPoint ∧
      revealedDiff reveal = z • (masked - target) := by
    intro reveal hreveal
    obtain ⟨rPoint', masked', z, hr', hmasked', hblindedR, hblindedDiff⟩ := hrelated reveal hreveal
    obtain rfl : rPoint' = rPoint := Except.ok.inj (hr'.symm.trans hr)
    obtain rfl : masked' = masked := Except.ok.inj (hmasked'.symm.trans hmasked)
    exact ⟨z, revealedR_eq hblindedR, revealedDiff_eq hblindedDiff⟩
  choose! z hzR hzDiff using hscalar
  obtain ⟨-, -, -, -, hne, hsumR, hsumDiff⟩ := buildAndVerifyPetBlindCertificate_eq_ok h
  have hmapR : certificate.reveals.map revealedR =
      (certificate.reveals.map z).map (· • rPoint) := by
    rw [List.map_map]
    exact List.map_congr_left hzR
  have hmapDiff : certificate.reveals.map revealedDiff =
      (certificate.reveals.map z).map (· • (masked - target)) := by
    rw [List.map_map]
    exact List.map_congr_left hzDiff
  rw [hmapR, ← List.sum_smul] at hsumR
  rw [hmapDiff, ← List.sum_smul] at hsumDiff
  refine ⟨(certificate.reveals.map z).sum, ?_, Prod.ext hsumR hsumDiff⟩
  intro hzero
  rw [hsumR, hzero, zero_smul] at hne
  exact hne rfl

/-- A certificate for the ring passes if its reveals are checked, come from different nodes and
do not cancel. -/
theorem buildAndVerifyPetBlindCertificate_of_checked {polynomial : PubPoly E}
    (hdecode : decode F certificate.publicPolynomial ring.threshold context.petPk =
      .ok polynomial)
    (hmatches : CertificateMatches certificate ring context)
    (hselected : certificate.allCommitments.length = ring.threshold)
    (hnd : (certificate.allCommitments.map (·.1)).Nodup)
    (hlength : ∀ c ∈ certificate.allCommitments, c.2.length = 32)
    (hrevealed : certificate.reveals.length = ring.threshold)
    (hreveals : (certificate.reveals.map (·.statement.fromNodeId)).Nodup)
    (hchecked : ∀ reveal ∈ certificate.reveals,
      RevealChecked F certificate ring tag target context
        (petBlindSelectionDigest certificate.attemptId certificate.contextDigest
          certificate.allCommitments) reveal)
    (hne : (certificate.reveals.map revealedR).sum ≠ (0 : E)) :
    buildAndVerifyPetBlindCertificate F certificate ring tag target context =
      .ok ((certificate.reveals.map revealedR).sum,
        (certificate.reveals.map revealedDiff).sum) := by
  obtain ⟨result, hresult⟩ := aggregateReveals_of_checked ⟨none, none, []⟩ hchecked hreveals
    (fun _ _ => List.not_mem_nil)
  have hnonempty : certificate.reveals ≠ [] := by
    rw [← List.length_pos_iff, hrevealed]
    exact Nat.pos_of_ne_zero (decode_eq_ok hdecode).1
  obtain ⟨hsumR, hsumDiff⟩ := aggregateReveals_eq_ok hresult
  obtain ⟨hr, hdiff⟩ := aggregateReveals_isSome (Or.inl hnonempty) hresult
  obtain ⟨aggregateR, hr⟩ := Option.isSome_iff_exists.mp hr
  obtain ⟨aggregateDiff, hdiff⟩ := Option.isSome_iff_exists.mp hdiff
  rw [hr, Option.getD_some, Option.getD_none, zero_add] at hsumR
  rw [hdiff, Option.getD_some, Option.getD_none, zero_add] at hsumDiff
  unfold buildAndVerifyPetBlindCertificate
  simp only
  rw [hdecode, ok_bind, require_bind hmatches, require_bind hselected, require_bind hrevealed,
    checkSelected_of_nodup hnd (fun _ _ => List.not_mem_nil) hlength, ok_bind, hresult, ok_bind,
    hr, okOr_some, ok_bind, hdiff, okOr_some, ok_bind, hsumR, hsumDiff, require_bind hne]
  rfl

/-- No certificate is accepted for a tag whose masked fingerprint is the identity. -/
theorem masked_ne_zero_of_certificate
    (h : buildAndVerifyPetBlindCertificate F certificate ring tag target context = .ok points) :
    ∃ masked : E, Element.fromBytes tag.maskedFingerprint = .ok masked ∧ masked ≠ 0 := by
  obtain ⟨⟨polynomial, hdecode⟩, -, hcount, hchecked, -⟩ :=
    buildAndVerifyPetBlindCertificate_eq_ok h
  have hnonempty : certificate.reveals ≠ [] := by
    rw [← List.length_pos_iff, hcount]
    exact Nat.pos_of_ne_zero (decode_eq_ok hdecode).1
  obtain ⟨reveal, hmem⟩ := List.exists_mem_of_ne_nil _ hnonempty
  obtain ⟨selected, points, -, hverified⟩ := (hchecked reveal hmem).verified
  exact (verifyOneReveal_eq_ok hverified).2.2

end Aggregate

/-! ## Decryption statements -/

variable [Curve E]

variable (F) in
/-- What the proof of a decryption share is for: the key share that the polynomial commits to, on
the aggregate point. -/
def DecryptionRelation (pubPoly : PubPoly E) (signed : PetBlindSignedDecrypt) : Prop :=
  ∃ (s : F) (base : E), pubPoly.eval F signed.statement.fromNodeId = s • (generator : E) ∧
    Element.fromBytes signed.statement.aggregateR = .ok base ∧
    Element.fromBytes signed.statement.partialPoint = .ok (s • base)

section Decrypt

variable {ring : RingPayload} {pubPoly : PubPoly E} {expected : ExpectedDecrypt}
  {context : PetBlindContext}

theorem verifyOneDecrypt_eq_ok {signature : Bytes} {share : PubShare E}
    (h : verifyOneDecrypt F statement signature ring pubPoly expected context = .ok share) :
    share.i = statement.fromNodeId ∧ statement.aggregateR = expected.aggregateR ∧
      Element.fromBytes statement.partialPoint = .ok share.v := by
  iterate 4 obtain ⟨_, -, h⟩ := bind_eq_ok.mp h
  obtain ⟨_, haggregate, h⟩ := bind_eq_ok.mp h
  obtain ⟨nodeKey, -, h⟩ := bind_eq_ok.mp h
  iterate 3 obtain ⟨_, -, h⟩ := bind_eq_ok.mp h
  obtain ⟨reply, hreply, h⟩ := bind_eq_ok.mp h
  obtain ⟨_, -, h⟩ := bind_eq_ok.mp h
  cases h
  exact ⟨rfl, (require_eq_ok.mp haggregate).1, decodeDecrypt_eq_some (okOr_eq_ok.mp hreply)⟩

variable {signed : List PetBlindSignedDecrypt}

theorem collectDecrypts_eq_ok {seen : List ℕ} {shares : List (PubShare E)}
    (h : collectDecrypts F ring pubPoly expected context seen signed = .ok shares) :
    shares.length = signed.length ∧ ∀ share ∈ shares, ∃ s ∈ signed,
      verifyOneDecrypt F s.statement s.responseSignature ring pubPoly expected context =
        .ok share := by
  induction signed generalizing seen shares with
  | nil =>
    cases h
    simp
  | cons s rest ih =>
    obtain ⟨share, hshare, h⟩ := bind_eq_ok.mp h
    obtain ⟨_, -, h⟩ := bind_eq_ok.mp h
    obtain ⟨shares, hshares, h⟩ := bind_eq_ok.mp h
    cases h
    obtain ⟨hlen, hrest⟩ := ih hshares
    refine ⟨by rw [List.length_cons, List.length_cons, hlen], ?_⟩
    intro other hother
    rcases List.mem_cons.mp hother with rfl | hother
    · exact ⟨s, List.mem_cons_self, mapError_eq_ok.mp hshare⟩
    · obtain ⟨t, ht, hverified⟩ := hrest other hother
      exact ⟨t, List.mem_cons_of_mem s ht, hverified⟩

/-- Accepted statements of different nodes are collected in order. -/
theorem collectDecrypts_of_verified {share : PetBlindSignedDecrypt → PubShare E} (seen : List ℕ)
    (hverified : ∀ s ∈ signed,
      verifyOneDecrypt F s.statement s.responseSignature ring pubPoly expected context =
        .ok (share s)) (hnd : (signed.map fun s => (share s).i).Nodup)
    (hnew : ∀ s ∈ signed, (share s).i ∉ seen) :
    collectDecrypts F ring pubPoly expected context seen signed = .ok (signed.map share) := by
  induction signed generalizing seen with
  | nil => rfl
  | cons s rest ih =>
    obtain ⟨hid, hnd⟩ := List.nodup_cons.mp hnd
    have hrest : collectDecrypts F ring pubPoly expected context ((share s).i :: seen) rest =
        .ok (rest.map share) :=
      ih _ (fun t ht => hverified t (List.mem_cons_of_mem s ht)) hnd (forall_new_cons hid hnew)
    unfold collectDecrypts
    rw [hverified s List.mem_cons_self, mapError_ok, ok_bind,
      require_bind (hnew s List.mem_cons_self), hrest, ok_bind]
    rfl

end Decrypt

/-! ## Acceptance -/

variable [DecidableEq F]

section Acceptance

variable {ring : RingPayload} {context : PetBlindContext} {evidence : PetBlindEvidence} {x : F}
  {R fingerprint target : E} {keyBytes : Bytes} {pubPoly : PubPoly E}

variable {shares : List (PubShare E)} {storage : Storage} {ringId petPkHex : String}

/-- Once everything before it has passed, only the final comparison is left. -/
theorem verifyEvidence_eq_require {tag : PetTag} {bundle : RingShareBundle} {combined : E}
    (hpoints : buildAndVerifyPetBlindCertificate F evidence.certificate ring tag target context =
      .ok points) (henough : ring.threshold ≤ evidence.decryptResponses.length)
    (hbundle : loadByPetRingKey storage ringId = .ok bundle)
    (hmatch : matchBundle F bundle evidence.certificate.publicPolynomial ring.threshold petPkHex =
      .ok pubPoly) (hshares : collectDecrypts F ring pubPoly ⟨context.contextDigest,
        evidence.certificate.certificateDigest, evidence.certificate.attemptId,
        toRepr points.1, toRepr points.2⟩ context []
      (evidence.decryptResponses.take ring.threshold) = .ok shares)
    (hcombined : combinePetCheckShares F shares ring.threshold ring.peerNodeKeys.length =
      .ok combined) : verifyEvidence F storage ringId ring tag petPkHex target context evidence =
      require (toRepr combined = toRepr points.2) .mismatch := by
  unfold verifyEvidence
  simp only [hpoints, mapError_ok, ok_bind]
  rw [require_bind henough, hbundle, mapError_ok, ok_bind, hmatch, ok_bind, hshares, ok_bind,
    hcombined, mapError_ok, ok_bind]

variable [LawfulRepr32 E]

theorem verifyEvidence_eq_ok {tag : PetTag}
    (h : verifyEvidence F storage ringId ring tag petPkHex target context evidence = .ok ()) :
    ∃ points : E × E, ∃ polynomial : PubPoly E, ∃ shares combined,
      buildAndVerifyPetBlindCertificate F evidence.certificate ring tag target context =
        .ok points ∧
      ring.threshold ≤ evidence.decryptResponses.length ∧
      decode F evidence.certificate.publicPolynomial ring.threshold petPkHex = .ok polynomial ∧
      collectDecrypts F ring polynomial ⟨context.contextDigest,
          evidence.certificate.certificateDigest, evidence.certificate.attemptId,
          toRepr points.1, toRepr points.2⟩ context []
        (evidence.decryptResponses.take ring.threshold) = .ok shares ∧
      combinePetCheckShares F shares ring.threshold ring.peerNodeKeys.length = .ok combined ∧
      combined = points.2 := by
  obtain ⟨points, hpoints, h⟩ := bind_eq_ok.mp h
  obtain ⟨_, henough, h⟩ := bind_eq_ok.mp h
  obtain ⟨bundle, -, h⟩ := bind_eq_ok.mp h
  obtain ⟨polynomial, hmatch, h⟩ := bind_eq_ok.mp h
  obtain ⟨shares, hshares, h⟩ := bind_eq_ok.mp h
  obtain ⟨combined, hcombined, h⟩ := bind_eq_ok.mp h
  exact ⟨points, polynomial, shares, combined, mapError_eq_ok.mp hpoints, require_eq_ok.mp henough,
    matchBundle_eq_ok hmatch, hshares, mapError_eq_ok.mp hcombined,
    toRepr_injective (require_eq_ok.mp h)⟩

variable [PrimeOrder F E]

/-- Combined shares of related statements are the aggregate point times the key, whichever
threshold of them is used. -/
theorem combined_of_related {expected : ExpectedDecrypt} {base combined : E}
    {signed : List PetBlindSignedDecrypt} (hord : ring.peerNodeKeys.length < order E)
    (hlen : pubPoly.commits.length = ring.threshold)
    (hkey : powerSum pubPoly.commits (0 : F) = x • (generator : E))
    (hbase : expected.aggregateR = toRepr base)
    (hrelated : ∀ s ∈ signed, DecryptionRelation F pubPoly s)
    (hshares : collectDecrypts F ring pubPoly expected context [] signed = .ok shares)
    (hcombined : combinePetCheckShares F shares ring.threshold ring.peerNodeKeys.length =
      .ok combined) : combined = x • base := by
  unfold combinePetCheckShares at hcombined
  simp only at hcombined
  split at hcombined
  · cases hcombined
  next henough =>
  obtain ⟨_, hcheck, -⟩ := bind_eq_ok.mp hcombined
  have hcount : pubPoly.commits.length ≤ (shares.take ring.threshold).length := by
    rw [List.length_take, hlen]
    omega
  have hvalue : ∀ share ∈ shares.take ring.threshold, ∃ s : F,
      powerSum pubPoly.commits (share.i : F) = s • (generator : E) ∧ share.v = s • base := by
    intro share hshare
    obtain ⟨s, hs, hverified⟩ :=
      (collectDecrypts_eq_ok hshares).2 share (List.mem_of_mem_take hshare)
    obtain ⟨hid, haggregate, hpoint⟩ := verifyOneDecrypt_eq_ok hverified
    obtain ⟨k, base', hpublic, hbase', hpartial⟩ := hrelated s hs
    rw [haggregate, hbase, Element.fromBytes_toRepr] at hbase'
    obtain rfl := Except.ok.inj hbase'
    rw [PubPoly.eval_eq_powerSum] at hpublic
    rw [hid]
    exact ⟨k, hpublic, Except.ok.inj (hpoint.symm.trans hpartial)⟩
  have heq := combine_of_committed hord hcheck hcount hkey hvalue
  exact Except.ok.inj (hcombined.symm.trans heq)

/-- Evidence with the relations of its proofs is accepted for the tag's own fingerprint only. -/
theorem fingerprint_of_verifyEvidence (hord : ring.peerNodeKeys.length < order E)
    (hhex : hexDecode petPkHex = some keyBytes)
    (hkey : Element.fromBytes keyBytes = .ok (x • (generator : E)))
    (hpoly : PubPoly.fromBytes evidence.certificate.publicPolynomial = .ok pubPoly)
    (hblinding : ∀ reveal ∈ evidence.certificate.reveals,
      BlindingRelation F (tagOf x R fingerprint) target reveal)
    (hdecryption : ∀ signed ∈ evidence.decryptResponses, DecryptionRelation F pubPoly signed)
    (h : verifyEvidence F storage ringId ring (tagOf x R fingerprint) petPkHex target context
      evidence = .ok ()) : fingerprint = target := by
  obtain ⟨points, polynomial, shares, combined, hpoints, -, hdecode, hshares, hcombined,
    haccept⟩ := verifyEvidence_eq_ok h
  obtain ⟨-, hpoly', hlen, keyBytes', key, hhex', hkey', hconstant⟩ := decode_eq_ok hdecode
  obtain rfl : pubPoly = polynomial := Except.ok.inj (hpoly.symm.trans hpoly')
  obtain rfl : keyBytes = keyBytes' := Option.some.inj (hhex.symm.trans hhex')
  obtain rfl : x • (generator : E) = key := Except.ok.inj (hkey.symm.trans hkey')
  obtain ⟨z, hz, rfl⟩ := aggregate_of_related (Element.fromBytes_toRepr R)
    (Element.fromBytes_toRepr (fingerprint + x • R)) hblinding hpoints
  have heq : combined = x • (z • R) :=
    combined_of_related hord hlen hconstant rfl
      (fun s hs => hdecryption s (List.mem_of_mem_take hs)) hshares hcombined
  exact (blinded_eq_iff hz).mp (heq.symm.trans haccept)

variable [Json Pre.Secret] [Json Pre.EncryptionProof] [Json PetTag] [Json TagKnowledgeProof]

variable {coordinator : PetCoordinator}

omit [DecidableEq F] [Blake2bScalarHash F] [NodeSigning] in
omit [LawfulRepr32 E] [PrimeOrder F E] in
/-- The ring requires the check under the returned key, the document has the identifier of the
request, and the verified tag is the document's. -/
theorem verifyPetCheckRequest_eq_ok [ScalarHash F]
    {ctx : PetCheckContext} {tag : PetTag} {digest : Bytes}
    {live : RingPayload}
    (h : verifyPetCheckRequest F E coordinator ctx = .ok (tag, petPkHex, digest, live)) :
    live.requiresPet = true ∧ live.petPk = some petPkHex ∧
      generateDocumentId ctx.document = .ok ctx.objectId ∧
      ∃ json, ctx.document.petTag = some json ∧ Json.fromStr false json = .ok tag := by
  obtain ⟨ring, -, h⟩ := bind_eq_ok.mp h
  iterate 3 obtain ⟨_, -, h⟩ := bind_eq_ok.mp h
  obtain ⟨hrequires, h⟩ := require_bind_eq_ok.mp h
  obtain ⟨_, hbinding, h⟩ := bind_eq_ok.mp h
  obtain ⟨petPk, hpetPk, h⟩ := bind_eq_ok.mp h
  obtain ⟨petPkBytes, -, h⟩ := bind_eq_ok.mp h
  obtain ⟨json, hjson, h⟩ := bind_eq_ok.mp h
  obtain ⟨proofJson, -, h⟩ := bind_eq_ok.mp h
  obtain ⟨tag', htag, h⟩ := bind_eq_ok.mp h
  obtain ⟨tagProof, -, h⟩ := bind_eq_ok.mp h
  obtain ⟨secret, -, h⟩ := bind_eq_ok.mp h
  obtain ⟨payloadProof, -, h⟩ := bind_eq_ok.mp h
  obtain ⟨ciphertextContext, -, h⟩ := bind_eq_ok.mp h
  obtain ⟨_, -, h⟩ := bind_eq_ok.mp h
  cases h
  obtain ⟨expected, hexpected, hsame⟩ := bind_eq_ok.mp (mapError_eq_ok.mp hbinding)
  split at hsame
  · cases hsame
  next heq =>
    obtain rfl := not_not.mp heq
    exact ⟨hrequires, okOr_eq_ok.mp hpetPk, mapError_eq_ok.mp hexpected, json, okOr_eq_ok.mp hjson,
      mapError_eq_ok.mp htag⟩

omit [LawfulRepr32 E] [PrimeOrder F E] in
theorem verifyPetAdmission_eq_ok [ScalarHash F] {request : AdmissionRequest}
    (h : verifyPetAdmission F E coordinator request ring evidence = .ok ()) :
    ∃ json tag petPkHex context, request.document.petTag = some json ∧
      Json.fromStr false json = .ok tag ∧
      verifyEvidence F coordinator.petStorage request.document.ringId ring tag petPkHex
        (ownerFingerprint F (utf8Bytes request.auditTargetObjectId) : E) context evidence =
          .ok () ∧ context.petPk = petPkHex := by
  obtain ⟨_, -, h⟩ := bind_eq_ok.mp h
  obtain ⟨ringState, -, h⟩ := bind_eq_ok.mp h
  obtain ⟨_, -, h⟩ := bind_eq_ok.mp h
  obtain ⟨⟨tag, petPkHex, digest, live⟩, hrequest, h⟩ := bind_eq_ok.mp h
  obtain ⟨_, -, h⟩ := bind_eq_ok.mp h
  obtain ⟨-, -, -, json, hjson, htag⟩ := verifyPetCheckRequest_eq_ok hrequest
  exact ⟨json, tag, petPkHex, _, hjson, htag, h, rfl⟩

end Acceptance

end Orbis.Node.Pet
