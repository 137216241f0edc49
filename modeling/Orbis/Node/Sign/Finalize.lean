import Orbis.Crypto.Sign.Recovery
import Orbis.Node.Sign.Coordinator

/-!
# Finalized signatures

Whatever the peers answer, the commitments collected in round one and the shares collected in
round two belong to different nodes, and the signing set has no more members than the
threshold.  Enough verified shares are therefore the shares of the whole signing set.
-/

namespace Orbis.Node.Sign

open Orbis.Crypto Orbis.Crypto.Sign Orbis.Data

/-! ## Collected items -/

section Collect

variable {α : Type} {ring : RingConfig} {handler : ResponseHandler α} {id : α → ℕ} {P : α → Prop}

/-- A handler contributes an item of the expected node only, once, and marks the node. -/
structure Lawful (id : α → ℕ) (P : α → Prop) (handler : ResponseHandler α) : Prop where
  grows : ∀ message expected seen, seen ⊆ (handler message expected seen).2
  item : ∀ message expected seen a, (handler message expected seen).1 = some a →
    id a = expected ∧ id a ∉ seen ∧ id a ∈ (handler message expected seen).2 ∧ P a

/-- The items come from different nodes, all of them seen. -/
structure Collected (id : α → ℕ) (P : α → Prop) (acc : List α × List ℕ) : Prop where
  nodup : (acc.1.map id).Nodup
  seen : ∀ a ∈ acc.1, id a ∈ acc.2
  valid : ∀ a ∈ acc.1, P a

/-- Members of the ring are numbered from one. -/
def InRing (ring : RingConfig) (id : α → ℕ) (P : α → Prop) (a : α) : Prop :=
  id a ≤ ring.peerNodeKeys.length ∧ P a

variable {seen : List ℕ} {response : AuthenticatedSignMessage}

theorem Lawful.process_item (h : Lawful id P handler) {a : α}
    (ha : (processResponse ring handler response seen).1 = some a) :
    id a ∉ seen ∧ id a ∈ (processResponse ring handler response seen).2 ∧
      InRing ring id P a := by
  unfold processResponse at ha ⊢
  cases hid : determineRingNodeIdFromPeerId response.senderPeerHex ring with
  | none => simp [hid] at ha
  | some expected =>
    simp only [hid] at ha ⊢
    obtain ⟨hexpected, hnew, hseen, hvalid⟩ := h.item _ _ _ _ ha
    have hle := determineRingNodeIdFromPeerId_le hid
    exact ⟨hnew, hseen, hexpected ▸ hle, hvalid⟩

variable {acc : List α × List ℕ}

theorem Collected.seen_mono (h : Collected id P acc) (hsub : acc.2 ⊆ seen) :
    Collected id P (acc.1, seen) :=
  ⟨h.nodup, fun a ha => hsub (h.seen a ha), h.valid⟩

theorem Collected.push (h : Collected id P acc) {a : α} (hsub : acc.2 ⊆ seen) (hnew : id a ∉ acc.2)
    (hseen : id a ∈ seen) (hvalid : P a) : Collected id P (acc.1 ++ [a], seen) := by
  refine ⟨?_, ?_, ?_⟩
  · rw [List.map_append, List.map_singleton]
    apply List.Nodup.append h.nodup (List.nodup_singleton _)
    intro i hi hi'
    obtain ⟨b, hb, rfl⟩ := List.mem_map.mp hi
    exact hnew (List.mem_singleton.mp hi' ▸ h.seen b hb)
  · intro b hb
    rcases List.mem_append.mp hb with hb | hb
    · exact hsub (h.seen b hb)
    · rw [List.mem_singleton.mp hb]
      exact hseen
  · intro b hb
    rcases List.mem_append.mp hb with hb | hb
    · exact h.valid b hb
    · rw [List.mem_singleton.mp hb]
      exact hvalid

theorem Collected.processed (hlaw : Lawful id P handler) (h : Collected id (InRing ring id P) acc)
    {found : Option α} (hproc : processResponse ring handler response acc.2 = (found, seen)) :
    Collected id (InRing ring id P) (acc.1 ++ found.toList, seen) := by
  have hgrows : acc.2 ⊆ (processResponse ring handler response acc.2).2 := by
    unfold processResponse
    split
    · exact List.Subset.refl _
    · exact hlaw.grows _ _ _
  rw [hproc] at hgrows
  cases found with
  | none =>
    rw [Option.toList_none, List.append_nil]
    exact h.seen_mono hgrows
  | some a =>
    have hfound : (processResponse ring handler response acc.2).1 = some a := by rw [hproc]
    obtain ⟨hnew, hseen, hvalid⟩ := hlaw.process_item hfound
    rw [hproc] at hseen
    exact h.push hgrows hnew hseen hvalid

theorem Collected.arrivals (hlaw : Lawful id P handler) (minNeeded : ℕ)
    (arrivals : List (Option AuthenticatedSignMessage)) (successful : ℕ) (acc : List α × List ℕ)
    (h : Collected id (InRing ring id P) acc) :
    Collected id (InRing ring id P)
      (collectArrivals ring handler minNeeded successful acc arrivals) := by
  induction arrivals generalizing successful acc with
  | nil => exact h
  | cons arrival rest ih =>
    cases arrival with
    | none => exact ih successful acc h
    | some response =>
      unfold collectArrivals
      cases hproc : processResponse ring handler response acc.2 with
      | mk found seen =>
        have hnext := h.processed hlaw hproc
        cases found with
        | none =>
          rw [Option.toList_none, List.append_nil] at hnext
          exact ih successful _ hnext
        | some a =>
          simp only
          split
          · exact hnext
          · exact ih _ _ hnext

theorem Collected.stored (hlaw : Lawful id P handler) (responses : List AuthenticatedSignMessage)
    (acc : List α × List ℕ) (h : Collected id (InRing ring id P) acc) :
    Collected id (InRing ring id P) (collectStored ring handler acc responses) := by
  induction responses generalizing acc with
  | nil => exact h
  | cons response rest ih =>
    unfold collectStored
    cases hproc : processResponse ring handler response acc.2 with
    | mk found seen =>
      have hnext := h.processed hlaw hproc
      cases found with
      | none =>
        rw [Option.toList_none, List.append_nil] at hnext
        exact ih _ hnext
      | some a => exact ih _ hnext

theorem Collected.round (hlaw : Lawful id P handler) {start : List α × List ℕ} {round : Round}
    {missing : SignError} (h : Collected id (InRing ring id P) start)
    (hround : collectRound ring handler start round missing = .ok acc) :
    Collected id (InRing ring id P) acc := by
  unfold collectRound at hround
  cases hstored : round.stored with
  | none => simp [hstored] at hround
  | some responses =>
    simp only [hstored, Except.ok.injEq] at hround
    rw [← hround]
    apply Collected.stored hlaw
    split
    · exact Collected.arrivals hlaw _ _ _ _ h
    · exact h

end Collect

section Sessions

variable {F E : Type} {commitments : Commitments E}

/-! ## The two rounds -/

theorem parsePeerNonceResponse_lawful [Repr32 E] :
    Lawful (fun c : ℕ × FrostNonceCommitment E => c.1) (fun _ => True) parsePeerNonceResponse := by
  constructor
  · intro message expected seen
    unfold parsePeerNonceResponse
    split
    · split_ifs
      · exact List.Subset.refl seen
      · exact List.Subset.refl seen
      · split <;> exact List.subset_cons_self _ _
    · exact List.Subset.refl seen
  · intro message expected seen c hc
    unfold parsePeerNonceResponse at hc ⊢
    split at hc
    · split_ifs at hc ⊢ with hid hseen
      split at hc
      · cases hc
      · simp only [Option.some.injEq] at hc
        subst hc
        simp only [List.mem_cons, true_or, and_true]
        exact ⟨not_not.mp hid, hseen⟩
    · cases hc

/-- The selection loop keeps different identifiers and stops at the threshold. -/
theorem selection_loop {threshold : ℕ} (commitments selected : Commitments E)
    (hnd : (selected.map (·.1)).Nodup) (hlen : selected.length ≤ threshold) :
    let result := commitments.foldl (fun selected c =>
      if selected.length = threshold then selected
      else if selected.any (·.1 = c.1) then selected
      else selected ++ [c]) selected
    (result.map (·.1)).Nodup ∧ result.length ≤ threshold ∧
      ∀ c ∈ result, c ∈ selected ∨ c ∈ commitments := by
  induction commitments generalizing selected with
  | nil => exact ⟨hnd, hlen, fun c hc => .inl hc⟩
  | cons c rest ih =>
    simp only [List.foldl_cons]
    split
    · obtain ⟨hnd', hlen', hmem⟩ := ih selected hnd hlen
      exact ⟨hnd', hlen', fun d hd => (hmem d hd).imp_right (List.mem_cons_of_mem c)⟩
    · next hne =>
        split
        · obtain ⟨hnd', hlen', hmem⟩ := ih selected hnd hlen
          exact ⟨hnd', hlen', fun d hd => (hmem d hd).imp_right (List.mem_cons_of_mem c)⟩
        · next hnew =>
            have hpush : ((selected ++ [c]).map (·.1)).Nodup := by
              rw [List.map_append, List.map_singleton]
              apply List.Nodup.append hnd (List.nodup_singleton _)
              intro i hi hi'
              obtain ⟨d, hd, rfl⟩ := List.mem_map.mp hi
              apply hnew
              simp only [List.any_eq_true, decide_eq_true_eq]
              exact ⟨d, hd, List.mem_singleton.mp hi'⟩
            have hbound : (selected ++ [c]).length ≤ threshold := by
              rw [List.length_append, List.length_singleton]
              omega
            obtain ⟨hnd', hlen', hmem⟩ := ih (selected ++ [c]) hpush hbound
            refine ⟨hnd', hlen', fun d hd => ?_⟩
            rcases hmem d hd with hd | hd
            · rcases List.mem_append.mp hd with hd | hd
              · exact .inl hd
              · exact .inr (List.mem_singleton.mp hd ▸ List.mem_cons_self)
            · exact .inr (List.mem_cons_of_mem c hd)

theorem selectSigningCommitments_members {selected : Commitments E} {threshold : ℕ}
    {preferred : Option ℕ} (hpos : 0 < threshold)
    (h : selectSigningCommitments commitments threshold preferred = .ok selected) :
    (selected.map (·.1)).Nodup ∧ selected.length ≤ threshold ∧
      ∀ c ∈ selected, c ∈ commitments := by
  unfold selectSigningCommitments at h
  split at h
  · cases h
  · have hresult := Except.ok.inj h
    set first := (preferred.bind fun id => commitments.find? (·.1 = id)) with hfirst
    have hstart : (first.toList.map (·.1)).Nodup ∧ first.toList.length ≤ threshold := by
      cases first with
      | none => simp
      | some c => exact ⟨by simp, hpos⟩
    obtain ⟨hnd, hlen, hmem⟩ := selection_loop commitments first.toList hstart.1 hstart.2
    have hperm := canonical_perm (commitments.foldl (fun selected c =>
      if selected.length = threshold then selected
      else if selected.any (·.1 = c.1) then selected
      else selected ++ [c]) first.toList)
    rw [← hresult]
    refine ⟨(hperm.map _).nodup_iff.mpr hnd, hperm.length_eq ▸ hlen, fun c hc => ?_⟩
    rcases hmem c (hperm.mem_iff.mp hc) with hc | hc
    · obtain ⟨id, -, hfind⟩ := Option.bind_eq_some_iff.mp (hfirst ▸ Option.mem_toList.mp hc)
      exact List.mem_of_find?_eq_some hfind
    · exact hc

theorem Session.nodeId_le (s : Session F E) : s.nodeId ≤ s.ring.peerNodeKeys.length := by
  unfold nodeId
  cases h : s.nodeIdOpt with
  | none => exact Nat.zero_le _
  | some id => exact determineSessionNodeId_le h

variable [Field F] [AddCommGroup E] [Module F E] [Curve E] [Repr32 E]

/-- The commitments of round one belong to different members. -/
theorem collectNonces_members {requestId : String} {ring : RingConfig} {nodeId : ℕ}
    {selfInList : Bool} {share : Option (PriShare F)} {nonces : F × F}
    {outcome : ResponseInitOutcome} {round : Round} {state : Option (FrostSigningState F)}
    (hnode : nodeId ≤ ring.peerNodeKeys.length)
    (h : collectNonces requestId ring nodeId selfInList share nonces outcome round =
      .ok (commitments, state)) :
    (commitments.map (·.1)).Nodup ∧ ∀ c ∈ commitments, c.1 ≤ ring.peerNodeKeys.length := by
  unfold collectNonces at h
  cases outcome with
  | alreadyExists | limitReached => cases h
  | created =>
    obtain ⟨acc, hacc, hrest⟩ := bind_eq_ok.mp h
    have hstart : ∀ own : Option (FrostNonceCommitment E × FrostSigningState F),
        Collected (fun c : ℕ × FrostNonceCommitment E => c.1)
          (InRing ring (fun c => c.1) fun _ => True)
          (own.toList.map fun nonce => (nodeId, nonce.1), own.toList.map fun _ => nodeId) := by
      intro own
      cases own with
      | none => exact ⟨by simp, by simp, by simp⟩
      | some nonce => exact ⟨by simp, by simp, by simp [InRing, hnode]⟩
    have hcollected := (hstart _).round parsePeerNonceResponse_lawful hacc
    have hperm : acc.1.Perm commitments := by
      have heq : canonical acc.1 = commitments := congrArg Prod.fst (Except.ok.inj hrest)
      exact heq ▸ (canonical_perm acc.1).symm
    refine ⟨(hperm.map _).nodup_iff.mp hcollected.nodup, ?_⟩
    intro c hc
    exact (hcollected.valid c (hperm.mem_iff.mpr hc)).1

variable {round : CommitmentRound F E} {material : SigningMaterial F E}

/-- The signing set has at most as many members as the threshold, and they are different. -/
theorem Session.collectSigningCommitments_members {s : Session F E} (hpos : 0 < s.ring.threshold)
    (h : s.collectSigningCommitments material = .ok round) :
    (round.signingCommitments.map (·.1)).Nodup ∧
      round.signingCommitments.length ≤ s.ring.threshold ∧
      ∀ c ∈ round.signingCommitments, c.1 ≤ s.ring.peerNodeKeys.length := by
  obtain ⟨⟨commitments, state⟩, hcollect, hrest⟩ := bind_eq_ok.mp h
  obtain ⟨selected, hselect, hround⟩ := bind_eq_ok.mp hrest
  obtain ⟨-, hmembers⟩ := collectNonces_members s.nodeId_le hcollect
  obtain ⟨hnd, hlen, hmem⟩ := selectSigningCommitments_members hpos hselect
  rw [← Except.ok.inj hround]
  exact ⟨hnd, hlen, fun c hc => hmembers c (hmem c hc)⟩

variable [DecidableEq F] [DecidableEq E] [ScalarHash F]

omit [Curve E] [Repr32 E] in
theorem verifyPk_eq
    (h : effectiveKey F material.pubPoly material.derivation material.metadata ≠ 0) :
    verifyPk material =
      .ok (effectiveKey F material.pubPoly material.derivation material.metadata) := by
  unfold verifyPk
  cases hd : material.derivation with
  | none => rfl
  | some derivation =>
    rw [hd] at h
    have hscaled : (deriveSignScalar derivation material.metadata : F) •
        material.pubPoly.eval F 0 ≠ 0 := h
    have hroot : material.pubPoly.eval F 0 ≠ 0 := fun hzero => hscaled (by rw [hzero, smul_zero])
    have hscalar : (deriveSignScalar derivation material.metadata : F) ≠ 0 :=
      fun hzero => hscaled (by rw [hzero, zero_smul])
    simp only [derivePublicKey, hroot, hscalar, hscaled, if_false, mapError_ok]
    rfl

theorem computeLocalSignatureShare_verified {message : Bytes} {share : PubShare F}
    (h : computeLocalSignatureShare material round message = some share) :
    verifyShare message material.pubPoly share round.signingCommitments material.derivation
      material.metadata = .ok () := by
  unfold computeLocalSignatureShare at h
  split at h
  · cases h
  · split at h
    · cases h
    · split at h
      · cases h
      · split at h
        · cases h
        · next hverify =>
            rw [← Option.some.inj h]
            exact hverify

variable [Repr32 F]

theorem verifyPeerSignatureResponse_lawful (material : SigningMaterial F E)
    (signingCommitments : Commitments E) (message : Bytes) :
    Lawful (fun share : PubShare F => share.i)
      (fun share => verifyShare message material.pubPoly share signingCommitments
        material.derivation material.metadata = .ok ())
      (verifyPeerSignatureResponse material signingCommitments message) := by
  constructor
  · intro response expected seen
    unfold verifyPeerSignatureResponse
    split
    · split_ifs
      · exact List.Subset.refl seen
      · exact List.Subset.refl seen
      · split
        · exact List.subset_cons_self _ _
        · split <;> exact List.subset_cons_self _ _
    · exact List.Subset.refl seen
  · intro response expected seen share hshare
    unfold verifyPeerSignatureResponse at hshare ⊢
    split at hshare
    · split_ifs at hshare ⊢ with hid hseen
      split at hshare
      · cases hshare
      · split at hshare
        · cases hshare
        · next hverify =>
            simp only [Option.some.injEq] at hshare
            subst hshare
            simp only [hverify, List.mem_cons, true_or, and_true]
            exact ⟨not_not.mp hid, hseen⟩
    · cases hshare

/-! ## A whole session -/

namespace Session

/-- The verified shares belong to different nodes and verify over the signing set. -/
theorem shares_verified {s : Session F E} {own : Option (PubShare F)} {shares : List (PubShare F)}
    (hown : ∀ share, own = some share → verifyShare s.message material.pubPoly share
      round.signingCommitments material.derivation material.metadata = .ok ())
    (hmembers : ∀ c ∈ round.signingCommitments, c.1 ≤ s.ring.peerNodeKeys.length)
    (h : collectNetworkSignatureShares s.requestId s.ring s.message material
      round.signingCommitments own.toList s.signRound = .ok shares) :
    (shares.map (·.i)).Nodup ∧ ∀ share ∈ shares, verifyShare s.message material.pubPoly share
      round.signingCommitments material.derivation material.metadata = .ok () := by
  obtain ⟨acc, hacc, hshares⟩ := bind_eq_ok.mp h
  have hstart : Collected (fun share : PubShare F => share.i)
      (InRing s.ring (fun share => share.i) fun share => verifyShare s.message material.pubPoly
        share round.signingCommitments material.derivation material.metadata = .ok ())
      (own.toList, own.toList.map (·.i)) := by
    cases own with
    | none => exact ⟨by simp, by simp, by simp⟩
    | some share =>
      have hverify := hown share rfl
      obtain ⟨point, hpoint, -⟩ := bind_eq_ok.mp hverify
      obtain ⟨commitment, hcommitment, -⟩ := bind_eq_ok.mp hpoint
      have hle := hmembers _ (mem_of_commitmentOf hcommitment)
      exact ⟨by simp, by simp, by simpa [InRing] using ⟨hle, hverify⟩⟩
  have hcollected := hstart.round (verifyPeerSignatureResponse_lawful _ _ _) hacc
  rw [← Except.ok.inj hshares]
  exact ⟨hcollected.nodup, fun share hshare => (hcollected.valid share hshare).2⟩

/-- Whatever the peers answer: once enough shares are verified over the signing set, recovery
returns a signature that verifies under the effective key, and the session returns it. -/
theorem enough_shares_sign [Sha256]
    [PrimeOrder F E] (s : Session F E) {material : SigningMaterial F E}
    {signingCommitments : Commitments E} {shares : List (PubShare F)}
    (hpos : 0 < s.ring.threshold) (hsize : s.ring.peerNodeKeys.length < order E)
    (hdeg : ∀ a ∈ material.pubPoly.commits.drop s.ring.threshold, a = 0)
    (hgather : s.gatherShares = .ok (material, signingCommitments, shares))
    (henough : s.ring.threshold ≤ shares.length) :
    ∃ signature,
      recover shares s.ring.threshold
          (effectiveKey F material.pubPoly material.derivation material.metadata) s.message
          signingCommitments = .ok (some signature) ∧
      verify (effectiveKey F material.pubPoly material.derivation material.metadata) s.message
          signature = .ok () ∧
      s.initiateSigningInner = .ok (signResponseBytes signature) := by
  obtain ⟨material', hmaterial, hrest⟩ := bind_eq_ok.mp hgather
  obtain ⟨round, hround, hrest⟩ := bind_eq_ok.mp hrest
  obtain ⟨shares', hcollect, hpure⟩ := bind_eq_ok.mp hrest
  obtain ⟨rfl, rfl, rfl⟩ : material' = material ∧ round.signingCommitments = signingCommitments ∧
      shares' = shares := by
    simpa [pure, Except.pure] using hpure
  obtain ⟨hnd, hlen, hmembers⟩ := collectSigningCommitments_members hpos hround
  obtain ⟨hshares, hverified⟩ := shares_verified
    (fun share hshare => computeLocalSignatureShare_verified hshare) hmembers hcollect
  have hord : ∀ c ∈ round.signingCommitments, c.1 < order E :=
    fun c hc => lt_of_le_of_lt (hmembers c hc) hsize
  obtain ⟨signature, hrecover, hverify⟩ :=
    recover_all_verifies hnd hord hverified hdeg hpos henough hlen hshares
  refine ⟨signature, hrecover, hverify, ?_⟩
  have hpk := effectiveKey_ne_zero hnd hord hverified (by omega)
  unfold initiateSigningInner finalizeSignature
  rw [hgather, ok_bind]
  simp only
  rw [if_neg (by omega), verifyPk_eq hpk, ok_bind, hrecover, mapError_ok, ok_bind]
  simp only [hverify, mapError_ok]
  rfl

end Session

end Sessions

namespace Session

/-! A ring of two members with threshold two, over the group of order seven.  The second member
answers honestly in both rounds. -/

local instance : Sha256 := ⟨fun bytes => bytes⟩

def twoMemberMaterial : SigningMaterial F7 F7 :=
  ⟨⟨[1, 2]⟩, some ⟨1, 3⟩, some (utf8Bytes "path"),
    some (encodeMetadata "policy" "resource" "permission")⟩

def twoMemberCommitments : Commitments F7 := [(1, ⟨2, 3⟩), (2, ⟨4, 5⟩)]

def secondMemberShare : F7 :=
  match sign ⟨2, 5⟩ [7] twoMemberMaterial.pubPoly (some ⟨4, 5, 2⟩) twoMemberCommitments
      twoMemberMaterial.derivation twoMemberMaterial.metadata with
  | .ok share => share.v
  | .error _ => 0

def twoMemberSession : Session F7 F7 where
  nodeKey := "a"
  peerIdHex := "p"
  requestId := "r"
  ring := ⟨["p", "q"], ["a", "b"], 2⟩
  message := [7]
  context := .policy "d" ⟨"path", "policy", "resource", "permission"⟩
  excludedNodeKeys := []
  loaded := .ok (twoMemberMaterial.pubPoly, twoMemberMaterial.localDistKeyShare)
  nonces := (2, 3)
  initOutcome := .created
  nonceInitOutcome := .created
  nonceRound :=
    ⟨[some ⟨"q", .nonceResponse "nonce-r" 2 (FrostNonceCommitment.toBytes (E := F7) ⟨4, 5⟩)⟩],
      some []⟩
  signRound := ⟨[some ⟨"q", .signResponse "r" 2 (toRepr secondMemberShare) 0 []⟩], some []⟩
  reshareInProgress := false

theorem enough_shares_sign_two : ∃ (material : SigningMaterial F7 F7)
    (signingCommitments : Commitments F7) (shares : List (PubShare F7))
    (signature : SchnorrSignature F7 F7),
    twoMemberSession.gatherShares = .ok (material, signingCommitments, shares) ∧
    shares.length = 2 ∧
    verify (effectiveKey F7 material.pubPoly material.derivation material.metadata) [7]
      signature = .ok () ∧
    twoMemberSession.initiateSigningInner = .ok (signResponseBytes signature) := by
  have heval : (twoMemberSession.gatherShares.toOption.map fun r =>
      (r.1.pubPoly.commits, r.2.2.length)) = some ([1, 2], 2) := by
    decide +kernel
  cases hgather : twoMemberSession.gatherShares with
  | error e => simp [hgather, Except.toOption] at heval
  | ok r =>
    obtain ⟨material, signingCommitments, shares⟩ := r
    simp only [hgather, Except.toOption, Option.map_some, Option.some.injEq,
      Prod.mk.injEq] at heval
    obtain ⟨signature, -, hverify, hresult⟩ := enough_shares_sign twoMemberSession (by decide)
      (by decide) (by rw [heval.1]; decide) hgather (by rw [heval.2]; decide)
    exact ⟨material, signingCommitments, shares, signature, rfl, heval.2, hverify, hresult⟩

end Session

end Orbis.Node.Sign
