import Orbis.Crypto.Sign.Scheme
import Orbis.Data.FiniteMap

/-!
# Recovered signatures

A verified share commits to its signer's summand of the verification equation, with the
interpolation weight over the identifiers in the commitment list.  The summands of the whole
list add up to the equation's right-hand side.
-/

namespace Orbis.Crypto.Sign

open Orbis.Algebra Orbis.Data

variable {F E : Type} {pk : E} {allCommitments : Commitments E} {c : ℕ × FrostNonceCommitment E}
  {shares : List (PubShare F)} {participantIds : List ℕ}

/-! ## Commitments and shares by identifier -/

theorem canonical_perm (allCommitments : Commitments E) :
    (canonical allCommitments).Perm allCommitments :=
  List.perm_insertionSort _ _

theorem bindingFactorOf_eq {idx : ℕ} {f : ℕ → F} (h : idx ∈ allCommitments.map (·.1)) :
    bindingFactorOf ((canonical allCommitments).map fun c => (c.1, f c.1)) idx = .ok (f idx) := by
  have hmem : idx ∈ (canonical allCommitments).map (·.1) :=
    ((canonical_perm allCommitments).map _).mem_iff.mpr h
  unfold bindingFactorOf
  cases hfind : ((canonical allCommitments).map fun c => (c.1, f c.1)).find? (·.1 = idx) with
  | none =>
    obtain ⟨c, hc, rfl⟩ := List.mem_map.mp hmem
    have := List.find?_eq_none.mp hfind (c.1, f c.1) (List.mem_map.mpr ⟨c, hc, rfl⟩)
    simp at this
  | some factor =>
    have hidx : factor.1 = idx := by simpa using List.find?_some hfind
    obtain ⟨c, -, rfl⟩ := List.mem_map.mp (List.mem_of_find?_eq_some hfind)
    simp only at hidx
    rw [hidx]

theorem commitmentOf_eq (hnd : (allCommitments.map (·.1)).Nodup) (hc : c ∈ allCommitments) :
    commitmentOf allCommitments c.1 = .ok c.2 := by
  simp only [commitmentOf, find?_key_of_nodup hnd hc]

theorem mem_of_commitmentOf {idx : ℕ} {commitment : FrostNonceCommitment E}
    (h : commitmentOf allCommitments idx = .ok commitment) :
    (idx, commitment) ∈ allCommitments := by
  unfold commitmentOf at h
  cases hfind : allCommitments.find? (·.1 = idx) with
  | none => simp [hfind] at h
  | some c =>
    have hid : c.1 = idx := by simpa using List.find?_some hfind
    have hc := List.mem_of_find?_eq_some hfind
    simp only [hfind, Except.ok.injEq] at h
    rwa [← hid, ← h]

theorem checkShareIds_ok {seen seen' : List ℕ}
    (h : checkShareIds participantIds seen shares = .ok seen') :
    (shares.map (·.i)).Nodup ∧ (∀ share ∈ shares, share.i ∈ participantIds ∧ share.i ∉ seen) := by
  induction shares generalizing seen with
  | nil => simp
  | cons share shares ih =>
    unfold checkShareIds at h
    split at h
    · cases h
    · next hmem =>
        split at h
        · cases h
        · next hseen =>
            obtain ⟨hnd, hrest⟩ := ih h
            refine ⟨List.nodup_cons.mpr ⟨fun hdup => ?_, hnd⟩, ?_⟩
            · obtain ⟨other, hother, heq⟩ := List.mem_map.mp hdup
              exact (hrest other hother).2 (by simp [heq])
            · intro other hother
              rcases List.mem_cons.mp hother with rfl | hother
              · exact ⟨not_not.mp hmem, hseen⟩
              · have := hrest other hother
                exact ⟨this.1, fun hold => this.2 (by simp [hold])⟩

theorem checkShareIds_of_nodup (seen : List ℕ) (hnd : (shares.map (·.i)).Nodup)
    (hmem : ∀ share ∈ shares, share.i ∈ participantIds ∧ share.i ∉ seen) :
    ∃ seen', checkShareIds participantIds seen shares = .ok seen' ∧
      seen'.length = seen.length + shares.length := by
  induction shares generalizing seen with
  | nil => exact ⟨seen, rfl, rfl⟩
  | cons share shares ih =>
    obtain ⟨hhead, hnd⟩ := List.nodup_cons.mp hnd
    obtain ⟨hin, hnew⟩ := hmem share (by simp)
    have hrest : ∀ other ∈ shares, other.i ∈ participantIds ∧ other.i ∉ share.i :: seen :=
      fun other hother => ⟨(hmem other (by simp [hother])).1,
        forall_new_cons hhead (fun other hother => (hmem other hother).2) other hother⟩
    obtain ⟨seen', hok, hlen⟩ := ih _ hnd hrest
    refine ⟨seen', ?_, ?_⟩
    · simp only [checkShareIds, hin, hnew, not_true_eq_false, if_false, hok]
    · simp only [hlen, List.length_cons]
      omega

theorem answered_perm (hnd : (allCommitments.map (·.1)).Nodup) (hshares : (shares.map (·.i)).Nodup)
    (hmem : ∀ share ∈ shares, share.i ∈ allCommitments.map (·.1)) :
    ((allCommitments.filter fun c => c.1 ∈ shares.map (·.i)).map (·.1)).Perm
      (shares.map (·.i)) := by
  have hsub : (allCommitments.filter fun c => c.1 ∈ shares.map (·.i)).Sublist allCommitments :=
    List.filter_sublist
  apply (List.perm_ext_iff_of_nodup (hnd.sublist (hsub.map _)) hshares).mpr
  intro i
  constructor
  · intro hi
    obtain ⟨c, hc, rfl⟩ := List.mem_map.mp hi
    simpa using (List.mem_filter.mp hc).2
  · intro hi
    obtain ⟨share, hshare, rfl⟩ := List.mem_map.mp hi
    obtain ⟨c, hc, hid⟩ := List.mem_map.mp (hmem share hshare)
    refine List.mem_map.mpr ⟨c, List.mem_filter.mpr ⟨hc, ?_⟩, hid⟩
    simpa [hid] using hi

/-- The commitments of participants without a share. -/
def missing (allCommitments : Commitments E) (shares : List (PubShare F)) : Commitments E :=
  allCommitments.filter fun c => c.1 ∉ shares.map (·.i)

variable [Field F] [AddCommGroup E] [Module F E]

/-! ## Weights and derived keys -/

theorem lagrangeCoefficient_eq [DecidableEq F] [Curve E] [PrimeOrder F E]
    {ids : List ℕ} (hord : ∀ i ∈ ids, i < order E) {idx : ℕ}
    (hidx : idx ∈ ids) :
    lagrangeCoefficient F idx ids = .ok (zeroWeight (fun j : ℕ => (j : F)) ids idx) := by
  have hden : (ratioLoop (fun j : ℕ => (j : F)) (fun j => (j : F) - idx) idx ids).2 ≠ 0 := by
    apply ratioLoop_snd_ne_zero
    intro j hj hne hzero
    exact hne (natCast_injOn F E (hord j hj) (hord idx hidx) (sub_eq_zero.mp hzero))
  unfold lagrangeCoefficient inverse
  simp only [hden, if_false]
  rw [← ratioLoop_div_eq_zeroWeight (fun j : ℕ => (j : F)) idx ids]

variable [ScalarHash F]

theorem effective_smul (derivation metadata : Option Bytes) (x : F) (point : E) :
    effective F derivation metadata (x • point) =
      (effective F derivation metadata x : F) • point := by
  cases derivation with
  | none => rfl
  | some derivation => exact smul_smul _ _ _

theorem effective_eq_smul (derivation metadata : Option Bytes) :
    ∃ d : F, ∀ point : E, effective F derivation metadata point = d • point := by
  cases derivation with
  | none => exact ⟨1, fun point => (one_smul F point).symm⟩
  | some derivation => exact ⟨deriveSignScalar derivation metadata, fun _ => rfl⟩

/-! ## The group commitment -/

variable [Repr32 E]

def rho (allCommitments : Commitments E) (pk : E) (msg : Bytes) (idx : ℕ) : F :=
  hashToScalar (bindingTranscript idx pk msg (canonical allCommitments))

variable (F) in
def nonceTerm (allCommitments : Commitments E) (pk : E) (msg : Bytes)
    (c : ℕ × FrostNonceCommitment E) : E :=
  c.2.hidingPoint + (rho allCommitments pk msg c.1 : F) • c.2.bindingPoint

theorem foldl_pair {α β : Type} [AddCommMonoid α] (terms : List (α × β)) (acc : α × List β) :
    terms.foldl (fun acc term => (acc.1 + term.1, acc.2 ++ [term.2])) acc =
      (acc.1 + (terms.map (·.1)).sum, acc.2 ++ terms.map (·.2)) := by
  induction terms generalizing acc with
  | nil => simp
  | cons term terms ih => simp [ih, add_assoc]

variable [DecidableEq E]

theorem computeGroupCommitment_eq (hnd : (allCommitments.map (·.1)).Nodup) (hpk : pk ≠ 0)
    (msg : Bytes) :
    computeGroupCommitment (F := F) allCommitments pk msg =
      .ok ((allCommitments.map (nonceTerm F allCommitments pk msg)).sum,
        (canonical allCommitments).map fun c => (c.1, rho allCommitments pk msg c.1)) := by
  have hperm := canonical_perm allCommitments
  have hchain : ((canonical allCommitments).map (·.1)).IsChain (· ≠ ·) :=
    List.Pairwise.isChain ((hperm.map _).nodup_iff.mpr hnd)
  have hterm : ∀ c ∈ canonical allCommitments,
      commitmentTerm (F := F) pk msg (canonical allCommitments) c =
        .ok (nonceTerm F allCommitments pk msg c, (c.1, rho allCommitments pk msg c.1)) := by
    intro c _
    simp [commitmentTerm, computeBindingFactor, hpk, nonceTerm, rho, pure, Except.pure]
  unfold computeGroupCommitment
  simp only [hchain, not_true_eq_false, if_false]
  rw [foldlM_ok_of_forall hterm, foldl_pair]
  simp only [List.map_map, Function.comp_def, zero_add, List.nil_append]
  rw [(hperm.map _).sum_eq]

/-! ## Recovery -/

variable {t : ℕ} {sig : SchnorrSignature F E}

theorem recover_enough {msg : Bytes}
    (h : recover shares t pk msg allCommitments = .ok (some sig)) : 0 < t ∧ t ≤ shares.length := by
  unfold recover at h
  split at h
  · cases h
  · split at h
    · cases h
    · omega

section

variable (hnd : (allCommitments.map (·.1)).Nodup)
include hnd

theorem recover_eq_some {msg : Bytes} (hpk : pk ≠ 0)
    (h : recover shares t pk msg allCommitments = .ok (some sig)) : (shares.map (·.i)).Nodup ∧
      (∀ share ∈ shares, share.i ∈ allCommitments.map (·.1)) ∧
      sig = ⟨(allCommitments.map (nonceTerm F allCommitments pk msg)).sum,
        (shares.map (·.v)).sum⟩ := by
  unfold recover at h
  split at h
  · cases h
  · split at h
    · cases h
    · obtain ⟨seen, hseen, hrest⟩ := bind_eq_ok.mp h
      obtain ⟨hshares, hmem⟩ := checkShareIds_ok hseen
      split at hrest
      · cases hrest
      · rw [computeGroupCommitment_eq hnd hpk, ok_bind, foldl_add_eq_add_sum, zero_add] at hrest
        have hsig := Option.some.inj (Except.ok.inj hrest)
        exact ⟨hshares, fun share hshare => (hmem share hshare).1, hsig.symm⟩

theorem recover_of_nodup (hshares : (shares.map (·.i)).Nodup)
    (hmem : ∀ share ∈ shares, share.i ∈ allCommitments.map (·.1)) (msg : Bytes) (ht : t ≠ 0)
    (hlen : t ≤ shares.length) (hpk : pk ≠ 0) :
    ∃ sig, recover shares t pk msg allCommitments = .ok (some sig) := by
  obtain ⟨seen, hseen, hcount⟩ := checkShareIds_of_nodup [] hshares
    fun share hshare => ⟨hmem share hshare, by simp⟩
  have hcount' : ¬seen.length < t := by
    simp only [List.length_nil] at hcount
    omega
  unfold recover
  rw [if_neg ht, if_neg (by omega), hseen, ok_bind, if_neg hcount',
    computeGroupCommitment_eq hnd hpk, ok_bind]
  exact ⟨_, rfl⟩

end

variable [DecidableEq F] [Curve E]

/-! ## Honest shares -/

/-- A partial signature verifies under every polynomial of the same group key that has the share's
value at its index. -/
theorem verifyShare_of_sign {share : PriShare F} {msg : Bytes} {pubPoly poly : PubPoly E}
    {signingState : FrostSigningState F} {allCommitments : Commitments E}
    {derivation metadata : Option Bytes} {sigShare : PubShare F}
    (hkey : poly.eval F 0 = pubPoly.eval F 0) (hshare : poly.eval F share.i = share.v • generator)
    (h : sign share msg pubPoly (some signingState) allCommitments derivation metadata =
      .ok sigShare) :
    sigShare.i = share.i ∧
      verifyShare msg poly sigShare allCommitments derivation metadata = .ok () := by
  have heffective : effectiveKey F poly derivation metadata =
      effectiveKey F pubPoly derivation metadata := by
    unfold effectiveKey
    rw [hkey]
  unfold sign at h
  simp only at h
  split at h
  · cases h
  · obtain ⟨commitment, hcommitment, h⟩ := bind_eq_ok.mp h
    split at h
    · cases h
    · next hnonces =>
        split at h
        · cases h
        · split at h
          · cases h
          · next hpk =>
              obtain ⟨group, hgroup, h⟩ := bind_eq_ok.mp h
              obtain ⟨rho, hrho, h⟩ := bind_eq_ok.mp h
              obtain ⟨lambda, hlambda, h⟩ := bind_eq_ok.mp h
              cases h
              obtain ⟨hhiding, hbinding⟩ := not_or.mp hnonces
              refine ⟨rfl, ?_⟩
              have hequation : ∀ c : F, (signingState.hidingNonce +
                  rho * signingState.bindingNonce +
                    lambda * effective F derivation metadata share.v * c) • (generator : E) =
                  signingState.hidingNonce • generator +
                    rho • signingState.bindingNonce • (generator : E) +
                    (lambda * c) • effective F derivation metadata share.v • (generator : E) := by
                intro c
                rw [add_smul, add_smul, smul_smul, smul_smul, mul_right_comm]
              unfold verifyShare verificationPoint
              simp only [hcommitment, ok_bind, heffective, if_neg hpk, hgroup, hrho, hlambda,
                not_not.mp hhiding, not_not.mp hbinding, hshare, effective_smul]
              rw [pure_bind, if_neg (not_not.mpr (hequation _))]
              rfl

/-- A partial signature that is released verifies, whatever commitments the coordinator lists. -/
theorem released_share_verifies {share : PriShare F} {msg : Bytes} {pubPoly : PubPoly E}
    {signingState : Option (FrostSigningState F)} {allCommitments : Commitments E}
    {derivation metadata : Option Bytes} {sigShare : PubShare F}
    (hshare : pubPoly.eval F share.i = share.v • generator)
    (h : sign share msg pubPoly signingState allCommitments derivation metadata = .ok sigShare) :
    verifyShare msg pubPoly sigShare allCommitments derivation metadata = .ok () := by
  cases signingState with
  | none => cases h
  | some signingState => exact (verifyShare_of_sign rfl hshare h).2

/-! ## The summands of the verification equation -/

variable (F) in
def challenge (allCommitments : Commitments E) (pk : E) (msg : Bytes) : F :=
  computeChallenge (allCommitments.map (nonceTerm F allCommitments pk msg)).sum pk msg

variable (F) in
/-- What the partial signature of one participant commits to. -/
def summand (msg : Bytes) (pubPoly : PubPoly E) (allCommitments : Commitments E)
    (derivation metadata : Option Bytes) (c : ℕ × FrostNonceCommitment E) : E :=
  let pk := effectiveKey F pubPoly derivation metadata
  nonceTerm F allCommitments pk msg c +
    (zeroWeight (fun j : ℕ => (j : F)) (allCommitments.map (·.1)) c.1 *
      challenge F allCommitments pk msg) • effective F derivation metadata (pubPoly.eval F c.1)

section PrimeOrder

variable [PrimeOrder F E] {msg : Bytes} {pubPoly : PubPoly E} {derivation metadata : Option Bytes}
  (hnd : (allCommitments.map (·.1)).Nodup) (hord : ∀ c ∈ allCommitments, c.1 < order E)
include hnd hord

variable (msg) in
theorem verificationPoint_eq (hpk : effectiveKey F pubPoly derivation metadata ≠ 0)
    (hc : c ∈ allCommitments) :
    verificationPoint F msg pubPoly allCommitments derivation metadata c.1 =
      .ok (summand F msg pubPoly allCommitments derivation metadata c) := by
  have hmem : c.1 ∈ allCommitments.map (·.1) := List.mem_map_of_mem hc
  have hord' : ∀ i ∈ allCommitments.map (·.1), i < order E := by
    simpa using fun i commitment hi => hord (i, commitment) hi
  unfold verificationPoint
  simp only [commitmentOf_eq hnd hc, ok_bind]
  rw [if_neg hpk, computeGroupCommitment_eq hnd hpk, ok_bind, bindingFactorOf_eq hmem, ok_bind,
    lagrangeCoefficient_eq hord' hmem, ok_bind]
  rfl

/-- A share that verifies opens its signer's summand. -/
theorem verified_share {share : PubShare F}
    (h : verifyShare msg pubPoly share allCommitments derivation metadata = .ok ()) :
    effectiveKey F pubPoly derivation metadata ≠ 0 ∧
      ∃ c ∈ allCommitments, c.1 = share.i ∧
        share.v • (generator : E) = summand F msg pubPoly allCommitments derivation metadata c := by
  obtain ⟨point, hpoint, hcheck⟩ := bind_eq_ok.mp h
  obtain ⟨commitment, hcommitment, hrest⟩ := bind_eq_ok.mp hpoint
  have hmem := mem_of_commitmentOf hcommitment
  have hpk : effectiveKey F pubPoly derivation metadata ≠ 0 := by
    intro hzero
    simp [hzero] at hrest
  have heq := verificationPoint_eq msg hnd hord hpk hmem
  rw [heq] at hpoint
  refine ⟨hpk, _, hmem, rfl, ?_⟩
  by_contra hne
  rw [← Except.ok.inj hpoint] at hcheck
  simp [hne] at hcheck

omit [DecidableEq F] [DecidableEq E] in
theorem sum_summand {t : ℕ} (hdeg : ∀ a ∈ pubPoly.commits.drop t, a = 0)
    (ht : t ≤ allCommitments.length) :
    (allCommitments.map (summand F msg pubPoly allCommitments derivation metadata)).sum =
      (allCommitments.map (nonceTerm F allCommitments
        (effectiveKey F pubPoly derivation metadata) msg)).sum +
      challenge F allCommitments (effectiveKey F pubPoly derivation metadata) msg •
        effectiveKey F pubPoly derivation metadata := by
  obtain ⟨d, hd⟩ := effective_eq_smul (F := F) (E := E) derivation metadata
  set pk := effectiveKey F pubPoly derivation metadata with hpk
  set c := challenge F allCommitments pk msg
  set ids := allCommitments.map (·.1) with hids
  have hv : Set.InjOn (fun j : ℕ => (j : F)) {i | i ∈ ids} := by
    intro i hi j hj hij
    obtain ⟨a, ha, rfl⟩ := List.mem_map.mp hi
    obtain ⟨b, hb, rfl⟩ := List.mem_map.mp hj
    exact natCast_injOn F E (hord a ha) (hord b hb) hij
  have hlen : (pubPoly.commits.take t).length ≤ ids.length := by
    simp only [hids, List.length_take, List.length_map]
    omega
  have hzero := sum_zeroWeight_smul_powerSum (A := E) hnd hv hlen
  simp only [powerSum_take hdeg] at hzero
  have hkey : pk = d • powerSum pubPoly.commits (0 : F) := by
    rw [hpk, effectiveKey, hd, PubPoly.eval_eq_powerSum, Nat.cast_zero]
  have hterm : ∀ a ∈ allCommitments,
      summand F msg pubPoly allCommitments derivation metadata a =
        nonceTerm F allCommitments pk msg a +
          (c * d) • (zeroWeight (fun j : ℕ => (j : F)) ids a.1 •
            powerSum pubPoly.commits (a.1 : F)) := by
    intro a _
    show nonceTerm F allCommitments pk msg a + (zeroWeight _ ids a.1 * c) • effective F _ _ _ = _
    rw [hd, PubPoly.eval_eq_powerSum, smul_smul, smul_smul]
    congr 2
    ring
  rw [List.map_congr_left hterm, List.sum_map_add, hkey]
  congr 1
  rw [smul_smul, ← hzero, List.smul_sum, hids, List.map_map, List.map_map]
  rfl

end PrimeOrder

/-! ## Recovered signatures -/

omit [DecidableEq F] in
theorem verify_ok_iff (hpk : pk ≠ 0) (msg : Bytes) (sig : SchnorrSignature F E) :
    verify pk msg sig = .ok () ↔ sig.z • (generator : E) =
      sig.rPoint + (computeChallenge sig.rPoint pk msg : F) • pk := by
  simp [verify, hpk]

section PrimeOrder

variable [PrimeOrder F E] {msg : Bytes} {pubPoly : PubPoly E} {derivation metadata : Option Bytes}

section

variable (hnd : (allCommitments.map (·.1)).Nodup) (hord : ∀ c ∈ allCommitments, c.1 < order E)
include hnd hord

variable (msg) in
/-- The summands depend on the identifier only. -/
theorem exists_point (hpk : effectiveKey F pubPoly derivation metadata ≠ 0) :
    ∃ point : ℕ → E, ∀ c ∈ allCommitments,
      summand F msg pubPoly allCommitments derivation metadata c = point c.1 := by
  refine ⟨fun i =>
    (verificationPoint F msg pubPoly allCommitments derivation metadata i).toOption.getD 0, ?_⟩
  intro c hc
  simp [verificationPoint_eq msg hnd hord hpk hc, Except.toOption]

variable (hverified : ∀ share ∈ shares,
  verifyShare msg pubPoly share allCommitments derivation metadata = .ok ())

include hverified

theorem sum_answered (hshares : (shares.map (·.i)).Nodup)
    (hmem : ∀ share ∈ shares, share.i ∈ allCommitments.map (·.1)) {point : ℕ → E}
    (hpoint : ∀ c ∈ allCommitments,
      summand F msg pubPoly allCommitments derivation metadata c = point c.1) :
    ((allCommitments.filter fun c => c.1 ∈ shares.map (·.i)).map
        (summand F msg pubPoly allCommitments derivation metadata)).sum =
      (shares.map (·.v)).sum • (generator : E) := by
  have hopen : ∀ share ∈ shares, point share.i = share.v • (generator : E) := by
    intro share hshare
    obtain ⟨-, c, hc, hid, heq⟩ := verified_share hnd hord (hverified share hshare)
    rw [heq, hpoint c hc, hid]
  calc ((allCommitments.filter fun c => c.1 ∈ shares.map (·.i)).map
          (summand F msg pubPoly allCommitments derivation metadata)).sum
      = ((allCommitments.filter fun c => c.1 ∈ shares.map (·.i)).map fun c => point c.1).sum := by
        rw [List.map_congr_left fun c hc => hpoint c (List.mem_of_mem_filter hc)]
    _ = (((allCommitments.filter fun c => c.1 ∈ shares.map (·.i)).map (·.1)).map point).sum := by
        rw [List.map_map]
        rfl
    _ = ((shares.map (·.i)).map point).sum :=
        ((answered_perm hnd hshares hmem).map point).sum_eq
    _ = (shares.map fun share => share.v • (generator : E)).sum := by
        rw [List.map_map]
        exact congrArg List.sum (List.map_congr_left hopen)
    _ = (shares.map (·.v)).sum • (generator : E) := by
        rw [List.sum_smul, List.map_map]
        rfl

/-- The verification equation of a recovered signature, up to the participants whose share is
missing. -/
theorem recovered_equation (hdeg : ∀ a ∈ pubPoly.commits.drop t, a = 0)
    (hpk : effectiveKey F pubPoly derivation metadata ≠ 0)
    (hrec : recover shares t (effectiveKey F pubPoly derivation metadata) msg allCommitments =
      .ok (some sig)) {point : ℕ → E} (hpoint : ∀ c ∈ allCommitments,
      summand F msg pubPoly allCommitments derivation metadata c = point c.1) :
    sig.z • (generator : E) + ((missing allCommitments shares).map fun c => point c.1).sum =
      sig.rPoint +
        (computeChallenge sig.rPoint (effectiveKey F pubPoly derivation metadata) msg : F) •
          effectiveKey F pubPoly derivation metadata := by
  obtain ⟨-, hlen⟩ := recover_enough hrec
  obtain ⟨hshares, hmem, rfl⟩ := recover_eq_some hnd hpk hrec
  have hcount : t ≤ allCommitments.length := by
    have hle := (List.subperm_of_subset hshares (List.forall_mem_map.mpr hmem)).length_le
    simp only [List.length_map] at hle
    omega
  have hmissing : ((missing allCommitments shares).map fun c => point c.1).sum =
      ((missing allCommitments shares).map
        (summand F msg pubPoly allCommitments derivation metadata)).sum := by
    have hsame : ∀ c ∈ missing allCommitments shares, point c.1 =
        summand F msg pubPoly allCommitments derivation metadata c :=
      fun c hc => (hpoint c (List.mem_of_mem_filter hc)).symm
    rw [List.map_congr_left hsame]
  have hsplit := ((List.filter_append_perm (fun c => decide (c.1 ∈ shares.map (·.i)))
    allCommitments).map (summand F msg pubPoly allCommitments derivation metadata)).sum_eq
  rw [List.map_append, List.sum_append,
    sum_answered hnd hord hverified hshares hmem hpoint] at hsplit
  rw [hmissing]
  refine Eq.trans ?_ (hsplit.trans (sum_summand hnd hord hdeg hcount))
  simp only [missing, decide_not]

theorem effectiveKey_ne_zero (hpos : 0 < shares.length) :
    effectiveKey F pubPoly derivation metadata ≠ 0 := by
  obtain ⟨share, hshare⟩ := List.exists_mem_of_length_pos hpos
  exact (verified_share hnd hord (hverified share hshare)).1

/-- Verified shares of all listed participants give a valid signature. -/
theorem recover_all_verifies (hdeg : ∀ a ∈ pubPoly.commits.drop t, a = 0) (hpos : 0 < t)
    (hlen : t ≤ shares.length) (hcount : allCommitments.length ≤ t)
    (hshares : (shares.map (·.i)).Nodup) :
    ∃ sig, recover shares t (effectiveKey F pubPoly derivation metadata) msg allCommitments =
        .ok (some sig) ∧
      verify (effectiveKey F pubPoly derivation metadata) msg sig = .ok () := by
  have hpk := effectiveKey_ne_zero hnd hord hverified (by omega)
  have hmem : ∀ share ∈ shares, share.i ∈ allCommitments.map (·.1) := by
    intro share hshare
    obtain ⟨-, c, hc, hid, -⟩ := verified_share hnd hord (hverified share hshare)
    exact List.mem_map.mpr ⟨c, hc, hid⟩
  have hsub : shares.map (·.i) ⊆ allCommitments.map (·.1) := List.forall_mem_map.mpr hmem
  have hperm : (shares.map (·.i)).Perm (allCommitments.map (·.1)) := by
    apply (List.subperm_of_subset hshares hsub).perm_of_length_le
    simp only [List.length_map]
    omega
  have hnone : missing allCommitments shares = [] := by
    apply List.filter_eq_nil_iff.mpr
    intro c hc
    have hanswered : c.1 ∈ shares.map (·.i) := hperm.mem_iff.mpr (List.mem_map_of_mem hc)
    simpa using hanswered
  obtain ⟨sig, hsig⟩ := recover_of_nodup hnd hshares hmem msg hpos.ne' hlen hpk
  obtain ⟨point, hpoint⟩ := exists_point msg hnd hord hpk
  have heq := recovered_equation hnd hord hverified hdeg hpk hsig hpoint
  rw [hnone, List.map_nil, List.sum_nil, add_zero] at heq
  exact ⟨sig, hsig, (verify_ok_iff hpk msg sig).mpr heq⟩

end

/-- `recover` accepts any `t` of the listed participants, also when the commitment list is longer.
The recovered signature is then valid exactly if what the missing partial signatures would
commit to adds up to the identity; in particular if none is missing. -/
theorem recover_verifies_iff {shares : List (PubShare F)} {t : ℕ} {sig : SchnorrSignature F E}
    (hnd : (allCommitments.map (·.1)).Nodup) (hord : ∀ c ∈ allCommitments, c.1 < order E)
    (hdeg : ∀ a ∈ pubPoly.commits.drop t, a = 0)
    (hverified : ∀ share ∈ shares,
      verifyShare msg pubPoly share allCommitments derivation metadata = .ok ())
    (hrec : recover shares t (effectiveKey F pubPoly derivation metadata) msg allCommitments =
      .ok (some sig)) :
    ∃ point : ℕ → E,
      (∀ c ∈ allCommitments,
        verificationPoint F msg pubPoly allCommitments derivation metadata c.1 =
          .ok (point c.1)) ∧
      (verify (effectiveKey F pubPoly derivation metadata) msg sig = .ok () ↔
        ((missing allCommitments shares).map fun c => point c.1).sum = 0) := by
  obtain ⟨hpos, hlen⟩ := recover_enough hrec
  have hpk := effectiveKey_ne_zero hnd hord hverified (lt_of_lt_of_le hpos hlen)
  obtain ⟨point, hpoint⟩ := exists_point msg hnd hord hpk
  refine ⟨point, fun c hc => ?_, ?_⟩
  · rw [verificationPoint_eq msg hnd hord hpk hc, hpoint c hc]
  · rw [verify_ok_iff hpk,
      ← recovered_equation hnd hord hverified hdeg hpk hrec hpoint]
    exact left_eq_add

end PrimeOrder

/-! Two signers over the group of order seven, with a constant polynomial. -/

def twoCommitments : Commitments F7 := [(1, ⟨2, 3⟩), (2, ⟨4, 5⟩)]

def firstShare : PubShare F7 :=
  (sign ⟨1, 1⟩ [7] ⟨[(1 : F7)]⟩ (some ⟨2, 3, 1⟩) twoCommitments none none).toOption.getD ⟨0, 0⟩

def secondShare : PubShare F7 :=
  (sign ⟨2, 1⟩ [7] ⟨[(1 : F7)]⟩ (some ⟨4, 5, 2⟩) twoCommitments none none).toOption.getD ⟨0, 0⟩

/-- The list is not sorted, and two of its entries are the coordinator's. -/
def hostileCommitments : Commitments F7 :=
  [(4, ⟨0, 6⟩), (1, (generateNonces ⟨1, (1 : F7)⟩ 2 3).1), (0, ⟨5, 5⟩)]

theorem released_share_verifies_hostile : ∃ sigShare,
    sign ⟨1, 1⟩ [7] ⟨[(1 : F7)]⟩ (some (generateNonces (E := F7) ⟨1, (1 : F7)⟩ 2 3).2)
      hostileCommitments none none = .ok sigShare ∧
    verifyShare [7] ⟨[(1 : F7)]⟩ sigShare hostileCommitments none none = .ok () := by
  refine ⟨_, rfl, ?_⟩
  exact released_share_verifies rfl (Eq.refl (sign ⟨1, 1⟩ [7] ⟨[(1 : F7)]⟩
    (some (generateNonces (E := F7) ⟨1, (1 : F7)⟩ 2 3).2) hostileCommitments none none))

theorem recover_verifies_two : ∃ sig : SchnorrSignature F7 F7,
    recover [firstShare, secondShare] 1 (effectiveKey F7 ⟨[(1 : F7)]⟩ none none) [7]
      twoCommitments = .ok (some sig) ∧
    verify (effectiveKey F7 ⟨[(1 : F7)]⟩ none none) [7] sig = .ok () := by
  have hdeg : ∀ a ∈ (⟨[1]⟩ : PubPoly F7).commits.drop 1, a = 0 := by decide
  have hverified : ∀ share ∈ [firstShare, secondShare],
      verifyShare [7] ⟨[(1 : F7)]⟩ share twoCommitments none none = .ok () := by decide +kernel
  refine ⟨_, rfl, ?_⟩
  obtain ⟨point, -, hiff⟩ := recover_verifies_iff (by decide) (by decide) hdeg hverified rfl
  apply hiff.mpr
  rfl

/-- One share is enough for the threshold, but the group commitment covers two signers. -/
theorem recover_rejected_of_missing : ∃ sig : SchnorrSignature F7 F7,
    verifyShare [7] ⟨[1]⟩ firstShare twoCommitments none none = .ok () ∧
    recover [firstShare] 1 (effectiveKey F7 ⟨[(1 : F7)]⟩ none none) [7] twoCommitments =
      .ok (some sig) ∧
    verify (effectiveKey F7 ⟨[(1 : F7)]⟩ none none) [7] sig = .error .invalidSignature := by
  refine ⟨_, by decide +kernel, rfl, by decide +kernel⟩

end Orbis.Crypto.Sign
