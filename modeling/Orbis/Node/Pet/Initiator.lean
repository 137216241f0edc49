import Orbis.Node.Pet.Certificate

/-!
# The initiator's collection of reveals

The node that starts a check verifies every answer as it arrives and assembles the certificate
from what it accepted.  The answer's own attempt identifier and context digest go into the
statement as they are; only the certificate check compares them with the attempt's.
-/

namespace Orbis.Node.Pet

open Orbis.Crypto Orbis.Crypto.Pet Orbis.Data

structure CommitResponse where
  contextDigest : Bytes
  fromNodeId : ℕ
  commitment : Bytes

structure RevealResponse where
  attemptId : String
  contextDigest : Bytes
  selectionDigest : Bytes
  fromNodeId : ℕ
  commitment : Bytes
  blindedR : Bytes
  blindedDiff : Bytes
  commitSalt : Bytes
  challenge : Bytes
  proof : Bytes
  signedAt : UInt64
  responseSignature : Bytes

/-- What a peer answers; requests and the answers of the last round are `other`. -/
inductive PetMessage where
  | commitResponse (response : CommitResponse)
  | revealResponse (response : RevealResponse)
  | other

/-! ## Commitments -/

/-- The accepted node and commitment.  `expectedNodeId` is the member that the request was sent
to. -/
def verifyCommitResponse (message : PetMessage) (ringPayload : RingPayload)
    (expectedContextDigest : Bytes) (expectedNodeId : ℕ) (seen : List ℕ) : Option (ℕ × Bytes) :=
  match message with
  | .commitResponse response =>
    if response.fromNodeId ≠ expectedNodeId then none
    else if response.fromNodeId ∈ seen then none
    else if nodeKeyForId response.fromNodeId ringPayload.peerNodeKeys = none then none
    else if response.contextDigest ≠ expectedContextDigest then none
    else if response.commitment.length ≠ 32 then none
    else some (response.fromNodeId, response.commitment)
  | _ => none

/-- The commitments in the order of arrival, until there are enough. -/
def collectCommits (ringPayload : RingPayload) (expectedContextDigest : Bytes) :
    List (ℕ × Bytes) → List (ℕ × PetMessage) → List (ℕ × Bytes)
  | commitments, [] => commitments
  | commitments, (expectedNodeId, message) :: rest =>
    if ringPayload.threshold ≤ commitments.length then commitments
    else
      match verifyCommitResponse message ringPayload expectedContextDigest expectedNodeId
        (commitments.map (·.1)) with
      | some commitment =>
        collectCommits ringPayload expectedContextDigest (commitments ++ [commitment]) rest
      | none => collectCommits ringPayload expectedContextDigest commitments rest

def selectCommitments (commitments : List (ℕ × Bytes)) : List (ℕ × Bytes) :=
  commitments.insertionSort fun a b => a.1 ≤ b.1

variable {commitment : ℕ × Bytes} {message : PetMessage} {ringPayload : RingPayload}

theorem verifyCommitResponse_eq_some {digest : Bytes} {nodeId : ℕ} {seen : List ℕ}
    (h : verifyCommitResponse message ringPayload digest nodeId seen = some commitment) :
    commitment.1 ∉ seen ∧ commitment.2.length = 32 := by
  unfold verifyCommitResponse at h
  split at h
  · simp only [Option.ite_none_left_eq_some, Option.some.injEq] at h
    obtain ⟨-, hseen, -, -, hlength, rfl⟩ := h
    exact ⟨hseen, not_not.mp hlength⟩
  · cases h

/-- The selected list: one digest of 32 bytes for each node. -/
structure Selectable (commitments : List (ℕ × Bytes)) : Prop where
  nodup : (commitments.map (·.1)).Nodup
  length : ∀ c ∈ commitments, c.2.length = 32

variable {commitments : List (ℕ × Bytes)}

theorem Selectable.append (h : Selectable commitments) (hnew : commitment.1 ∉ commitments.map (·.1))
    (hlength : commitment.2.length = 32) : Selectable (commitments ++ [commitment]) where
  nodup := by
    rw [List.map_append, List.nodup_append]
    refine ⟨h.nodup, List.nodup_singleton _, ?_⟩
    intro a ha b hb heq
    rw [heq, List.mem_singleton.mp hb] at ha
    exact hnew ha
  length := by
    intro c hc
    rcases List.mem_append.mp hc with hc | hc
    · exact h.length c hc
    · rwa [List.mem_singleton.mp hc]

theorem selectable_collectCommits {digest : Bytes} {messages : List (ℕ × PetMessage)}
    (h : Selectable commitments) (hcount : commitments.length ≤ ringPayload.threshold) :
    Selectable (collectCommits ringPayload digest commitments messages) ∧
      (collectCommits ringPayload digest commitments messages).length ≤ ringPayload.threshold := by
  induction messages generalizing commitments with
  | nil => exact ⟨h, hcount⟩
  | cons message rest ih =>
    unfold collectCommits
    split
    · exact ⟨h, hcount⟩
    next hfew =>
      split
      next commitment haccepted =>
        obtain ⟨hnew, hlength⟩ := verifyCommitResponse_eq_some haccepted
        refine ih (h.append hnew hlength) ?_
        rw [List.length_append, List.length_singleton]
        omega
      next => exact ih h hcount

/-- Whatever the members answer to the first request, the list that is selected passes the check
that the responders and the verifiers of a certificate make, and is at most as long as the
threshold. -/
theorem selected_commitments_pass_check (digest : Bytes) (messages : List (ℕ × PetMessage))
    (duplicate : ℕ → PetError) (badLength : PetError) :
    let selected := selectCommitments (collectCommits ringPayload digest [] messages)
    checkSelected duplicate badLength [] selected = .ok () ∧
      selected.length ≤ ringPayload.threshold := by
  intro selected
  obtain ⟨h, hcount⟩ : Selectable (collectCommits ringPayload digest [] messages) ∧ _ :=
    selectable_collectCommits ⟨List.nodup_nil, fun _ hc => nomatch hc⟩ (Nat.zero_le _)
  have hperm : selected.Perm (collectCommits ringPayload digest [] messages) :=
    List.perm_insertionSort ..
  refine ⟨checkSelected_of_nodup ((hperm.map _).nodup_iff.mpr h.nodup)
    (fun _ _ => List.not_mem_nil) fun c hc => h.length c (hperm.mem_iff.mp hc), ?_⟩
  rw [hperm.length_eq]
  exact hcount

/-! ## The certificate -/

section Reveals

variable {F E : Type} [Field F] [AddCommGroup E] [Module F E] [DecidableEq E] [Repr32 E] [Sha256]
  {ringId : String} {ring : RingPayload} {tag : PetTag} {target : E}
  {allCommitments : List (ℕ × Bytes)} {selection : Bytes} {context : PetBlindContext}

def assembleCertificate (publicPolynomial : Bytes) (blindContext : PetBlindContext)
    (allCommitments : List (ℕ × Bytes)) (reveals : List PetBlindSignedReveal) :
    PetBlindCertificate :=
  ⟨publicPolynomial, blindContext.attemptId, blindContext.contextDigest, allCommitments, reveals⟩

/-- The selection that members are asked to reveal for. -/
def selectionDigestOf (blindContext : PetBlindContext) (allCommitments : List (ℕ × Bytes)) :
    Bytes :=
  petBlindSelectionDigest blindContext.attemptId blindContext.contextDigest allCommitments

variable (F E) in
/-- The context is for this ring, its checking key and this public polynomial. -/
structure ContextFits (publicPolynomial : Bytes) (ring : RingPayload) (context : PetBlindContext) :
    Prop where
  decoded : ∃ polynomial : PubPoly E,
    decode F publicPolynomial ring.threshold context.petPk = .ok polynomial
  polynomialDigest : context.publicPolynomialDigest = petPublicPolynomialDigest publicPolynomial
  ringPk : context.ringPk = ring.ringPk
  ringState : context.ringStateSha256 = ringStateSha256 ring
  petPk : ring.petPk = some context.petPk
  requiresPet : ring.requiresPet = true
  backend : context.cryptoBackend = Crypto.Pet.name

theorem certificateMatches_iff {publicPolynomial : Bytes} {ring : RingPayload}
    {context : PetBlindContext} {allCommitments : List (ℕ × Bytes)}
    {reveals : List PetBlindSignedReveal} :
    ((∃ polynomial : PubPoly E,
        decode F publicPolynomial ring.threshold context.petPk = .ok polynomial) ∧
      CertificateMatches (assembleCertificate publicPolynomial context allCommitments reveals)
        ring context) ↔ ContextFits F E publicPolynomial ring context := by
  constructor
  · rintro ⟨hdecoded, hdigest, -, -, hring, hstate, hpetPk, hrequires, hbackend⟩
    exact ⟨hdecoded, hdigest, hring, hstate, hpetPk, hrequires, hbackend⟩
  · intro h
    exact ⟨h.decoded, h.polynomialDigest, rfl, rfl, h.ringPk, h.ringState, h.petPk, h.requiresPet,
      h.backend⟩

/-! ## Reveals -/

variable [Repr32 F] [Blake2bScalarHash F] [NodeSigning]

structure InvalidRevealObservation where
  ringId : String
  accusedNodeKey : String
  accusedPeerId : String
  blindContext : PetBlindContext
  statement : PetBlindRevealStatement
  responseSignature : Bytes
deriving DecidableEq

inductive PetRevealResponseVerification where
  | verified (reveal : PetBlindSignedReveal)
  | invalidProof (observation : InvalidRevealObservation)
  | rejected
deriving DecidableEq

/-- The statement that the responder must have signed. -/
def RevealResponse.statement (response : RevealResponse) (nodeKey : String)
    (selectionDigest : Bytes) (blindContext : PetBlindContext) : PetBlindRevealStatement where
  domain := petBlindRevealResponseDomain
  chainId := blindContext.chainId
  ringId := blindContext.ringId
  ringPk := blindContext.ringPk
  ringStateSha256 := blindContext.ringStateSha256
  protocolVersion := blindContext.protocolVersion
  attemptId := response.attemptId
  contextDigest := response.contextDigest
  selectionDigest := selectionDigest
  responderNodeKey := nodeKey
  fromNodeId := response.fromNodeId
  commitment := response.commitment
  blindedR := response.blindedR
  blindedDiff := response.blindedDiff
  commitSalt := response.commitSalt
  challenge := response.challenge
  proof := response.proof
  signedAt := response.signedAt

variable (F) in
/-- The nodes seen so far are those of the accepted reveals. -/
def verifyRevealResponse (message : PetMessage) (ringId : String) (ringPayload : RingPayload)
    (accusedPeerId : String) (tag : PetTag) (targetFingerprint : E)
    (allCommitments : List (ℕ × Bytes)) (selectionDigest : Bytes) (blindContext : PetBlindContext)
    (seen : List ℕ) : PetRevealResponseVerification :=
  match message with
  | .revealResponse response =>
    if response.fromNodeId ∈ seen then .rejected
    else
      match nodeKeyForId response.fromNodeId ringPayload.peerNodeKeys with
      | none => .rejected
      | some nodeKey =>
        if response.selectionDigest ≠ selectionDigest then .rejected
        else
          match allCommitments.find? (·.1 = response.fromNodeId) with
          | none => .rejected
          | some (_, expectedCommitment) =>
            let statement := response.statement nodeKey selectionDigest blindContext
            match verifyOneReveal F statement response.responseSignature ringPayload tag
                targetFingerprint expectedCommitment selectionDigest with
            | .ok _ => .verified ⟨statement, response.responseSignature⟩
            | .error (.invalid _) => .invalidProof ⟨ringId, nodeKey, accusedPeerId,
                blindContext, statement, response.responseSignature⟩
            | .error (.notAttributable _) => .rejected
  | _ => .rejected

variable (F) in
/-- The accepted reveals in the order of arrival, until there are enough.  A message comes with
the peer that sent it. -/
def collectReveals (ringId : String) (ringPayload : RingPayload) (tag : PetTag)
    (targetFingerprint : E) (allCommitments : List (ℕ × Bytes)) (selectionDigest : Bytes)
    (blindContext : PetBlindContext) :
    List PetBlindSignedReveal → List (String × PetMessage) → List PetBlindSignedReveal
  | reveals, [] => reveals
  | reveals, (peerId, message) :: rest =>
    if ringPayload.threshold ≤ reveals.length then reveals
    else
      match verifyRevealResponse F message ringId ringPayload peerId tag targetFingerprint
          allCommitments selectionDigest blindContext
          (reveals.map (·.statement.fromNodeId)) with
      | .verified reveal => collectReveals ringId ringPayload tag targetFingerprint
          allCommitments selectionDigest blindContext (reveals ++ [reveal]) rest
      | _ => collectReveals ringId ringPayload tag targetFingerprint allCommitments
          selectionDigest blindContext reveals rest

variable (F) in
/-- What the initiator has checked of an accepted reveal. -/
structure LiveChecked (ring : RingPayload) (tag : PetTag) (target : E)
    (allCommitments : List (ℕ × Bytes)) (selection : Bytes) (context : PetBlindContext)
    (reveal : PetBlindSignedReveal) : Prop where
  binding : reveal.statement.signedContext.matches petBlindRevealResponseDomain context = true
  verified : ∃ selected points,
    allCommitments.find? (·.1 = reveal.statement.fromNodeId) = some selected ∧
      verifyOneReveal F reveal.statement reveal.responseSignature ring tag target selected.2
        selection = .ok points

theorem verifyRevealResponse_eq_verified {peerId : String} {seen : List ℕ}
    {reveal : PetBlindSignedReveal}
    (h : verifyRevealResponse F message ringId ring peerId tag target allCommitments selection
      context seen = .verified reveal) :
    LiveChecked F ring tag target allCommitments selection context reveal ∧
      reveal.statement.fromNodeId ∉ seen := by
  unfold verifyRevealResponse at h
  split at h
  next response =>
    split at h
    · cases h
    next hseen =>
    split at h
    · cases h
    next nodeKey hnodeKey =>
    split at h
    · cases h
    split at h
    · cases h
    next id expected hfind =>
    simp only at h
    split at h
    next points hpoints =>
      cases h
      exact ⟨⟨decide_eq_true ⟨rfl, rfl, rfl, rfl, rfl, rfl⟩, (id, expected), points, hfind,
        hpoints⟩, hseen⟩
    next => cases h
    next => cases h
  next => cases h

variable (F) in
/-- The reveals collected so far are checked and come from different nodes. -/
structure Collected (ring : RingPayload) (tag : PetTag) (target : E)
    (allCommitments : List (ℕ × Bytes)) (selection : Bytes) (context : PetBlindContext)
    (reveals : List PetBlindSignedReveal) : Prop where
  checked : ∀ reveal ∈ reveals,
    LiveChecked F ring tag target allCommitments selection context reveal
  nodup : (reveals.map (·.statement.fromNodeId)).Nodup

variable {reveals : List PetBlindSignedReveal}

theorem collected_collectReveals {messages : List (String × PetMessage)}
    (h : Collected F ring tag target allCommitments selection context reveals) :
    Collected F ring tag target allCommitments selection context
      (collectReveals F ringId ring tag target allCommitments selection context reveals
        messages) := by
  induction messages generalizing reveals with
  | nil => exact h
  | cons message rest ih =>
    unfold collectReveals
    split
    · exact h
    · split
      next reveal haccepted =>
        obtain ⟨hchecked, hnew⟩ := verifyRevealResponse_eq_verified haccepted
        apply ih
        constructor
        · intro other hmem
          rcases List.mem_append.mp hmem with hmem | hmem
          · exact h.checked other hmem
          · rwa [List.mem_singleton.mp hmem]
        · rw [List.map_append, List.nodup_append]
          refine ⟨h.nodup, List.nodup_singleton _, ?_⟩
          intro a ha b hb heq
          rw [heq, List.mem_singleton.mp hb] at ha
          exact hnew ha
      next => exact ih h

theorem Collected.length_le
    (h : Collected F ring tag target allCommitments selection context reveals) :
    reveals.length ≤ allCommitments.length := by
  have hsub : reveals.map (·.statement.fromNodeId) ⊆ allCommitments.map (·.1) := by
    intro id hid
    obtain ⟨reveal, hmem, rfl⟩ := List.mem_map.mp hid
    obtain ⟨selected, points, hfind, -⟩ := (h.checked reveal hmem).verified
    have heq : selected.1 = reveal.statement.fromNodeId := by
      simpa using List.find?_some hfind
    exact List.mem_map.mpr ⟨selected, List.mem_of_find?_eq_some hfind, heq⟩
  have hle := (List.subperm_of_subset h.nodup hsub).length_le
  rwa [List.length_map, List.length_map] at hle

/-! ## The certificate of what was collected -/

/-- Reveals that were accepted one by one make an accepted certificate exactly if they do not
cancel, each repeats the attempt's identifier and context digest, and the context is the ring's. -/
theorem certificate_of_accepted_reveals_iff {ringId : String} {ring : RingPayload} {tag : PetTag}
    {target : E} {context : PetBlindContext} {publicPolynomial : Bytes}
    {allCommitments : List (ℕ × Bytes)} {messages : List (String × PetMessage)}
    {reveals : List PetBlindSignedReveal} (hselectable : Selectable allCommitments)
    (hselected : allCommitments.length = ring.threshold)
    (hcollect : collectReveals F ringId ring tag target allCommitments
      (selectionDigestOf context allCommitments) context [] messages = reveals)
    (hall : ring.threshold ≤ reveals.length) :
    (∃ points, buildAndVerifyPetBlindCertificate F
        (assembleCertificate publicPolynomial context allCommitments reveals) ring tag target
        context = .ok points) ↔
      ContextFits F E publicPolynomial ring context ∧
        (∀ reveal ∈ reveals, reveal.statement.attemptId = context.attemptId ∧
          reveal.statement.contextDigest = context.contextDigest) ∧
        (reveals.map revealedR).sum ≠ (0 : E) := by
  have hcollected : Collected F ring tag target allCommitments
      (selectionDigestOf context allCommitments) context reveals := by
    rw [← hcollect]
    exact collected_collectReveals ⟨fun _ hmem => absurd hmem List.not_mem_nil, List.nodup_nil⟩
  have hrevealed : reveals.length = ring.threshold :=
    le_antisymm (hselected ▸ hcollected.length_le) hall
  constructor
  · rintro ⟨points, h⟩
    obtain ⟨hdecode, hmatches, -, hchecked, hne, hsum, -⟩ :=
      buildAndVerifyPetBlindCertificate_eq_ok h
    refine ⟨certificateMatches_iff.mp ⟨hdecode, hmatches⟩, ?_, hsum ▸ hne⟩
    intro reveal hmem
    exact ⟨(hchecked reveal hmem).attempt, (hchecked reveal hmem).contextDigest⟩
  · rintro ⟨hfits, hrepeats, hne⟩
    obtain ⟨⟨polynomial, hdecode⟩, hmatches⟩ := certificateMatches_iff.mpr hfits
    refine ⟨_, buildAndVerifyPetBlindCertificate_of_checked hdecode hmatches hselected
      hselectable.nodup hselectable.length hrevealed hcollected.nodup ?_ hne⟩
    intro reveal hmem
    have hlive := hcollected.checked reveal hmem
    exact ⟨hlive.binding, (hrepeats reveal hmem).1, (hrepeats reveal hmem).2, hlive.verified⟩

end Reveals

/-! A ring of two members, both of which have to answer.  The second one answers for an attempt of
its choice. -/

section Toy

open scoped ByteSum Echo

def pairRing : RingPayload :=
  ⟨"", none, none, ["a", "b"], 2, 0, 0, none, none, ⟨0, none, none⟩, ⟨⟨0, 0, 0, 0⟩, [], 0⟩, true,
    some (hexEncode (toRepr (3 : F7)))⟩

def pairPolynomial : Bytes := (publicPolynomial F7 [(3 : F7), 1]).toBytes

def pairContext : PetBlindContext :=
  buildPetBlindContext "chain" pairRing (hexEncode (toRepr (3 : F7))) 1 Crypto.Pet.name
    ⟨ringStateSha256 pairRing, pairPolynomial,
      ⟨"ring", "", "", "", "", "", none, none, none, none⟩, none, "object", true, "audit", none⟩
    "actor" "b" "attempt"

/-- The tag's points are two and three, and its distance to the target one is two. -/
def pairTag : PetTag := tagOf (3 : F7) (2 : F7) 4

def pairCommitment (id : ℕ) (attemptId : String) : Bytes :=
  petBlindCommitHash attemptId pairContext.contextDigest id [6] (toRepr (2 • 2 : F7))
    (toRepr (2 • 2 : F7))

def pairSelection (second : String) : List (ℕ × Bytes) :=
  [(1, pairCommitment 1 "attempt"), (2, pairCommitment 2 second)]

def pairDigest (second : String) : Bytes := selectionDigestOf pairContext (pairSelection second)

def pairMessage (second : String) (id : ℕ) (attemptId nodeKey : String) : PetMessage :=
  let reply : BlindingReply F7 F7 := honestBlinding 3 2 2 2 (petBlindProofTranscriptDigest attemptId
    pairContext.contextDigest (pairDigest second) id (pairCommitment id attemptId))
  .revealResponse ⟨attemptId, pairContext.contextDigest, pairDigest second, id,
    pairCommitment id attemptId, toRepr reply.blindedR, toRepr reply.blindedDiff, [6],
    toRepr reply.challenge, toRepr reply.proof, 0, utf8Bytes nodeKey⟩

def pairReveals (second : String) : List PetBlindSignedReveal :=
  collectReveals F7 "ring" pairRing pairTag (1 : F7) (pairSelection second) (pairDigest second)
    pairContext [] [("peer b", pairMessage second 2 second "b"),
      ("peer a", pairMessage second 1 "attempt" "a")]

theorem certificate_of_accepted_reveals_pair : ∃ points,
    buildAndVerifyPetBlindCertificate F7
      (assembleCertificate pairPolynomial pairContext (pairSelection "attempt")
        (pairReveals "attempt")) pairRing pairTag (1 : F7) pairContext = .ok points := by
  have hselectable : Selectable (pairSelection "attempt") :=
    ⟨by decide +kernel, by decide +kernel⟩
  have hall : pairRing.threshold ≤ (pairReveals "attempt").length := by decide +kernel
  refine (certificate_of_accepted_reveals_iff hselectable rfl rfl hall).mpr ⟨?_, ?_, ?_⟩
  · have hdecode : (decode F7 pairPolynomial pairRing.threshold pairContext.petPk :
        Except PetError (PubPoly F7)) = .ok (publicPolynomial F7 [(3 : F7), 1]) := by
      decide +kernel
    exact ⟨⟨_, hdecode⟩, rfl, rfl, rfl, rfl, rfl, rfl⟩
  · decide +kernel
  · decide +kernel

/-- The second member committed to its reveal under another attempt's identifier.  Its reveal is
accepted, and the certificate is not, although the blinded point is not the identity. -/
theorem certificate_rejected_of_other_attempt :
    (pairReveals "other").length = pairRing.threshold ∧
      ((pairReveals "other").map revealedR).sum ≠ (0 : F7) ∧
      buildAndVerifyPetBlindCertificate F7
          (assembleCertificate pairPolynomial pairContext (pairSelection "other")
            (pairReveals "other")) pairRing pairTag (1 : F7) pairContext =
        .error (.crypto "reveal attempt_id does not match the certificate") := by
  decide +kernel

end Toy

end Orbis.Node.Pet
