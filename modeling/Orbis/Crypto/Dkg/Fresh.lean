import Orbis.Crypto.Dkg.Delivery

/-!
# A fresh key generation

Every member deals a random polynomial of degree below the threshold.  Whatever the polynomials
and the order in which a member receives the messages of the others, its share is the value of
the sum of all polynomials at its identifier, and all members agree on the public polynomial.
-/

open Polynomial

namespace Orbis.Crypto.Dkg

open Orbis.Algebra Orbis.Data

variable {F E : Type} [Field F]

namespace DKGNode

/-! ## The messages of one dealer -/

/-- What a dealer sends that concerns the member `toId`: its commitment and that member's
share. -/
def messagesTo (dealer : DKGNode F E) (nonce : ℕ → List UInt8) (toId : ℕ) : List (Call F E) :=
  match dealer.generateShares nonce with
  | .error _ => []
  | .ok shares =>
    .receiveCommitment dealer.id dealer.commitment ::
      (shares.filter (·.toId = toId)).map .receiveShare

private theorem filter_range'_eq {m k : ℕ} (hpos : 1 ≤ k) (hle : k ≤ m) :
    (List.range' 1 m).filter (· = k) = [k] := by
  have hmem : k ∈ List.range' 1 m := by
    rw [List.mem_range'_1]
    omega
  have hcount : (List.range' 1 m).count k = 1 :=
    List.count_eq_one_of_mem List.nodup_range' hmem
  rw [List.filter_eq, hcount]
  rfl

theorem messagesTo_eq {dealer : DKGNode F E} (hrole : dealer.role ≠ .receiver)
    (hcoeffs : dealer.polynomialCoeffs ≠ []) (nonce : ℕ → List UInt8) {toId : ℕ}
    (hpos : 1 ≤ toId) (hle : toId ≤ asU32 dealer.effectiveTotalNodes) :
    dealer.messagesTo nonce toId =
      [.receiveCommitment dealer.id dealer.commitment,
        .receiveShare ⟨dealer.id, toId, powerSum dealer.polynomialCoeffs (toId : F), nonce toId,
          dealer.sessionId⟩] := by
  unfold messagesTo generateShares
  simp only [hrole, if_false, List.isEmpty_iff, hcoeffs]
  rw [List.filter_map]
  have hfilter : (List.range' 1 (asU32 dealer.effectiveTotalNodes)).filter
      ((fun share : DistributedShare F => decide (share.toId = toId)) ∘ fun toId =>
        ⟨dealer.id, toId, dealer.evalPolynomial toId, nonce toId, dealer.sessionId⟩) =
      [toId] := filter_range'_eq hpos hle
  rw [hfilter, ← evalPolynomial_eq_powerSum]
  rfl

omit [Field F] in
theorem received_blank (id threshold totalNodes sessionId : ℕ) (role : DkgRole) :
    (blank id threshold totalNodes sessionId role : DKGNode F E).Received [] := by
  constructor
  · intro k c
    simp [blank, AList.lookup_empty]
  · intro k v
    simp [blank, AList.lookup_empty]

theorem fillPolynomial_coeffs [AddCommGroup E] [Module F E] [Curve E]
    (node : DKGNode F E) (rng : ℕ → F)
    (hpos : 1 ≤ node.effectiveThreshold) :
    (node.fillPolynomial (rng 0) rng).polynomialCoeffs =
      (List.range node.effectiveThreshold).map rng := by
  obtain ⟨t, ht⟩ := Nat.exists_eq_add_of_le' hpos
  simp [fillPolynomial, ht, List.range_eq_range', List.range'_succ]

end DKGNode

open DKGNode

/-! ## The ceremony -/

variable [AddCommGroup E] [Module F E] [Curve E]

/-- A member that has been created and has dealt its polynomial. -/
def startFresh [DecidableEq E] (threshold totalNodes sessionId : ℕ) (rng : ℕ → F) (id : ℕ) :
    Except CryptoError (DKGNode F E) := do
  let node ← DKGNode.new id threshold totalNodes sessionId .standard
  node.runAll [.generatePolynomial .fresh rng]

/-- A member that receives the messages `before` and `after` its own polynomial generation. -/
def runFresh [DecidableEq E] (threshold totalNodes sessionId : ℕ) (rng : ℕ → F) (id : ℕ)
    (before after : List (Call F E)) : Except CryptoError (DKGNode F E) := do
  let node ← DKGNode.new id threshold totalNodes sessionId .standard
  node.runAll (before ++ .generatePolynomial .fresh rng :: after)

def others (totalNodes id : ℕ) : List ℕ := (List.range' 1 totalNodes).filter (· != id)

/-- The messages of all other dealers to member `id`. -/
def inbox (totalNodes : ℕ) (dealers : ℕ → DKGNode F E) (nonce : ℕ → ℕ → List UInt8)
    (id : ℕ) : List (Call F E) :=
  (others totalNodes id).flatMap fun j => (dealers j).messagesTo (nonce j) id

section

variable {threshold totalNodes sessionId : ℕ}

theorem mem_others {id j : ℕ} :
    j ∈ others totalNodes id ↔ 1 ≤ j ∧ j ≤ totalNodes ∧ j ≠ id := by
  rw [others, List.mem_filter, List.mem_range'_1]
  simp
  omega

theorem nodup_others (id : ℕ) : (others totalNodes id).Nodup :=
  List.Nodup.filter _ List.nodup_range'

theorem cons_others_perm {id : ℕ} (hpos : 1 ≤ id) (hle : id ≤ totalNodes) :
    (id :: others totalNodes id).Perm (List.range' 1 totalNodes) := by
  have hmem : id ∈ List.range' 1 totalNodes := by
    rw [List.mem_range'_1]
    omega
  rw [others, ← List.Nodup.erase_eq_filter List.nodup_range' id]
  exact (List.perm_cons_erase hmem).symm

theorem length_others {id : ℕ} (hpos : 1 ≤ id) (hle : id ≤ totalNodes) :
    (others totalNodes id).length = totalNodes - 1 := by
  have hlen := (cons_others_perm hpos hle).length_eq
  rw [List.length_cons, List.length_range'] at hlen
  omega

theorem sum_range'_eq {M : Type} [AddCommMonoid M] (n : ℕ) (g : ℕ → M) :
    ((List.range' 1 n).map g).sum = ∑ j ∈ Finset.Icc 1 n, g j := by
  rw [← List.sum_toFinset g List.nodup_range']
  congr 1
  ext j
  rw [List.mem_toFinset, List.mem_range'_1, Finset.mem_Icc]
  omega

theorem add_sum_others {M : Type} [AddCommMonoid M] {id : ℕ} (hpos : 1 ≤ id)
    (hle : id ≤ totalNodes) (g : ℕ → M) :
    g id + ((others totalNodes id).map g).sum = ∑ j ∈ Finset.Icc 1 totalNodes, g j := by
  rw [← sum_range'_eq, ← ((cons_others_perm hpos hle).map g).sum_eq, List.map_cons,
    List.sum_cons]

variable (hthreshold : 1 ≤ threshold) (hle : threshold ≤ totalNodes) (hsize : totalNodes < 2 ^ 32)
include hthreshold hle hsize

omit [Field F] [AddCommGroup E] [Module F E] [Curve E] in
theorem new_standard {id : ℕ} (hid : 1 ≤ id ∧ id ≤ totalNodes) :
    DKGNode.new id threshold totalNodes sessionId .standard =
      .ok (blank id threshold totalNodes sessionId .standard : DKGNode F E) := by
  refine new_eq_ok.mpr ⟨⟨?_, ?_, fun _ => ⟨?_, hle⟩⟩, rfl⟩
  · omega
  · omega
  · rw [asU32_of_lt hsize]
    omega

theorem startFresh_eq_ok [DecidableEq E] (rng : ℕ → F) {id : ℕ} (hid : 1 ≤ id ∧ id ≤ totalNodes) :
    startFresh threshold totalNodes sessionId rng id =
      .ok ((blank id threshold totalNodes sessionId .standard : DKGNode F E).fillPolynomial
        (rng 0) rng) := by
  rw [startFresh, new_standard hthreshold hle hsize hid]
  rfl

theorem inbox_eq_exchange [DecidableEq E]
    (f : ℕ → F[X]) (nonce : ℕ → ℕ → List UInt8) {dealers : ℕ → DKGNode F E}
    (hdealers : ∀ j, 1 ≤ j ∧ j ≤ totalNodes →
      startFresh threshold totalNodes sessionId (f j).coeff j = .ok (dealers j))
    {id : ℕ} (hid : 1 ≤ id ∧ id ≤ totalNodes) :
    inbox totalNodes dealers nonce id =
      exchange (others totalNodes id)
        (fun j => commit ((List.range threshold).map (f j).coeff))
        (fun j => powerSum ((List.range threshold).map (f j).coeff) (id : F))
        (fun j => nonce j id) id sessionId := by
  refine List.flatMap_congr fun j hj => ?_
  obtain ⟨hj₁, hj₂, -⟩ := mem_others.mp hj
  have hdealer := hdealers j ⟨hj₁, hj₂⟩
  rw [startFresh_eq_ok hthreshold hle hsize _ ⟨hj₁, hj₂⟩] at hdealer
  have hcoeffs : (dealers j).polynomialCoeffs = (List.range threshold).map (f j).coeff := by
    rw [← Except.ok.inj hdealer]
    exact fillPolynomial_coeffs (blank j threshold totalNodes sessionId .standard) _ hthreshold
  have hcommitment : (dealers j).commitment = commit (dealers j).polynomialCoeffs := by
    rw [← Except.ok.inj hdealer]
    rfl
  have hne : (dealers j).polynomialCoeffs ≠ [] := by
    rw [← Except.ok.inj hdealer]
    simp [DKGNode.fillPolynomial]
  have hrole : (dealers j).role ≠ .receiver := by
    rw [← Except.ok.inj hdealer]
    simp [DKGNode.fillPolynomial, blank]
  have hto : id ≤ asU32 (dealers j).effectiveTotalNodes := by
    rw [← Except.ok.inj hdealer]
    change id ≤ asU32 totalNodes
    rw [asU32_of_lt hsize]
    omega
  have hfrom : (dealers j).id = j := by rw [← Except.ok.inj hdealer]; rfl
  have hsession : (dealers j).sessionId = sessionId := by rw [← Except.ok.inj hdealer]; rfl
  rw [messagesTo_eq hrole hne (nonce j) hid.1 hto, hcommitment, hcoeffs, hfrom, hsession]

omit [Field F] in
omit hle hsize in
theorem coeffs_ne_nil (g : ℕ → F) : (List.range threshold).map g ≠ [] := by
  rw [ne_eq, List.map_eq_nil_iff, List.range_eq_nil]
  omega

/-- A member runs through its whole inbox and ends with its own polynomial and everything it
was sent. -/
theorem exists_runFresh [DecidableEq E] (f : ℕ → F[X]) (nonce : ℕ → List UInt8) {id : ℕ}
    (hid : 1 ≤ id ∧ id ≤ totalNodes) {before after : List (Call F E)}
    (hdel : IsDelivery (exchange (others totalNodes id)
      (fun j => commit ((List.range threshold).map (f j).coeff))
      (fun j => powerSum ((List.range threshold).map (f j).coeff) (id : F)) nonce id sessionId)
      (before ++ after)) :
    ∃ node : DKGNode F E,
      runFresh threshold totalNodes sessionId (f id).coeff id before after = .ok node ∧
        node.Received (before ++ after) ∧ node.role = .standard ∧ node.id = id ∧
        node.totalNodes = totalNodes ∧
        node.polynomialCoeffs = (List.range threshold).map (f id).coeff ∧
        node.commitment = commit ((List.range threshold).map (f id).coeff) := by
  set start : DKGNode F E := blank id threshold totalNodes sessionId .standard with hstart
  have hready : start.ReadyFor (others totalNodes id)
      (fun j => commit ((List.range threshold).map (f j).coeff))
      (fun j => powerSum ((List.range threshold).map (f j).coeff) (id : F)) id sessionId := by
    refine ⟨by simp [hstart, blank], nodup_others id, ?_, ?_, ?_, ?_, rfl⟩
    · intro k hk
      obtain ⟨hk₁, hk₂, -⟩ := mem_others.mp hk
      change k ≠ 0 ∧ k ≤ asU32 totalNodes
      rw [asU32_of_lt hsize]
      omega
    · intro _ hmem
      exact (mem_others.mp hmem).2.2 rfl
    · exact fun k _ => commit_ne_nil (coeffs_ne_nil hthreshold _)
    · intro k _
      exact powerSum_commit _ _
  obtain ⟨node₁, hrun₁, hrec₁, hsame₁⟩ := exists_runAll_of_delivery hdel hready
    (received_blank id threshold totalNodes sessionId .standard)
    (show before ++ after = [] ++ before ++ after by simp) (fun _ _ => rfl)
  set node₂ := node₁.fillPolynomial ((f id).coeff 0) (f id).coeff with hnode₂
  have hgen : node₁.call (.generatePolynomial .fresh (f id).coeff) = (node₂, .ok ()) := by
    have hrole : node₁.role = .standard := hsame₁.role
    simp [DKGNode.call, DKGNode.generatePolynomial, hrole, hnode₂]
  have hrec₂ : node₂.Received before := ⟨hrec₁.commitments, hrec₁.shares⟩
  have hready₂ : node₂.ReadyFor _ _ _ id sessionId := (hready.of_same hsame₁).congr rfl rfl rfl rfl
  have hto₂ : node₂.receiveId = id := hsame₁.receiveId
  obtain ⟨node, hrun, hrec, hsame⟩ := exists_runAll_of_delivery hdel hready₂ hrec₂
    (show before ++ after = before ++ after ++ [] by simp) (fun _ _ => hto₂)
  have hcoeffs : node₂.polynomialCoeffs = (List.range threshold).map (f id).coeff := by
    have ht₁ : node₁.effectiveThreshold = threshold := hsame₁.effectiveThreshold
    rw [hnode₂, fillPolynomial_coeffs _ _ (by rw [ht₁]; exact hthreshold), ht₁]
  refine ⟨node, ?_, hrec, hsame.role.trans hsame₁.role, hsame.id.trans hsame₁.id,
    hsame.totalNodes.trans hsame₁.totalNodes, hsame.polynomialCoeffs.trans hcoeffs, ?_⟩
  · rw [runFresh, new_standard hthreshold hle hsize hid, ok_bind, runAll_append, hrun₁, ok_bind,
      runAll_cons_of_ok hgen, hrun]
  · rw [hsame.commitment, ← hcoeffs]
    rfl

end

/-! ## What the members compute -/

section

variable {threshold totalNodes sessionId id : ℕ} {f : ℕ → F[X]} {nonce : ℕ → List UInt8}
  {node : DKGNode F E} {order : List (Call F E)}

noncomputable def groupPolynomial (totalNodes : ℕ) (f : ℕ → F[X]) : F[X] :=
  ∑ j ∈ Finset.Icc 1 totalNodes, f j

theorem degree_groupPolynomial_lt (hf : ∀ j, (f j).degree < threshold) :
    (groupPolynomial totalNodes f).degree < threshold := by
  refine (degree_sum_le _ _).trans_lt ?_
  exact (Finset.sup_lt_iff (WithBot.bot_lt_coe threshold)).mpr fun j _ => hf j

structure Finished (threshold totalNodes sessionId id : ℕ) (f : ℕ → F[X])
    (nonce : ℕ → List UInt8) (order : List (Call F E)) (node : DKGNode F E) : Prop where
  range : 1 ≤ id ∧ id ≤ totalNodes
  delivery : IsDelivery (exchange (others totalNodes id)
    (fun j => commit ((List.range threshold).map (f j).coeff))
    (fun j => powerSum ((List.range threshold).map (f j).coeff) (id : F)) nonce id sessionId) order
  received : node.Received order
  role : node.role = .standard
  id_eq : node.id = id
  totalNodes_eq : node.totalNodes = totalNodes
  coeffs_eq : node.polynomialCoeffs = (List.range threshold).map (f id).coeff
  commitment_eq : node.commitment = commit ((List.range threshold).map (f id).coeff)

namespace Finished

variable (h : Finished threshold totalNodes sessionId id f nonce order node)
include h

theorem shares_length :
    node.receivedShares.entries.length = node.totalNodes - 1 := by
  have hkeys := (h.received.keys_of_delivery h.delivery (nodup_others id)).2
  rw [← keys_length, hkeys.length_eq, length_others h.range.1 h.range.2, h.totalNodes_eq]

theorem commitments_length :
    node.receivedCommitments.entries.length = node.totalNodes - 1 := by
  have hkeys := (h.received.keys_of_delivery h.delivery (nodup_others id)).1
  rw [← keys_length, hkeys.length_eq, length_others h.range.1 h.range.2, h.totalNodes_eq]

theorem shares_perm :
    (values node.receivedShares).Perm ((others totalNodes id).map fun j =>
      powerSum ((List.range threshold).map (f j).coeff) (id : F)) :=
  values_perm_map_of_lookup (h.received.keys_of_delivery h.delivery (nodup_others id)).2
    fun _ hk => (h.received.lookup_of_delivery h.delivery hk).2

theorem commitments_perm :
    (values node.receivedCommitments).Perm ((others totalNodes id).map fun j =>
      commit ((List.range threshold).map (f j).coeff)) :=
  values_perm_map_of_lookup (h.received.keys_of_delivery h.delivery (nodup_others id)).1
    fun _ hk => (h.received.lookup_of_delivery h.delivery hk).1

variable (hthreshold : 1 ≤ threshold)
include hthreshold

theorem commitment_ne_nil : node.commitment.coefficients ≠ [] := by
  rw [h.commitment_eq]
  exact commit_ne_nil (coeffs_ne_nil hthreshold _)

theorem computePublicPolynomial_eq [DecidableEq F] :
    node.computePublicPolynomial = .ok ⟨(commit (E := E)
      ((List.range threshold).map (groupPolynomial totalNodes f).coeff)).coefficients⟩ := by
  refine (computePublicPolynomial_eq_ok (isReshareReceiver_of_standard h.role)).mpr
    ⟨h.commitments_length, ?_, ?_, ?_⟩
  · exact h.commitment_ne_nil hthreshold
  · intro c hc
    obtain ⟨j, -, rfl⟩ := List.mem_map.mp (h.commitments_perm.mem_iff.mp hc)
    rw [h.commitment_eq]
    simp [commit]
  · -- Position by position the coefficients add up, and the order of the dealers is
    -- irrelevant in each sum.
    have hlists : (values node.receivedCommitments).map (·.coefficients) =
        (node.receivedCommitments.keys).map fun j =>
          (List.range threshold).map fun k => (f j).coeff k • (generator : E) := by
      simp only [values, AList.keys, List.keys, List.map_map]
      refine List.map_congr_left fun e he => ?_
      have hkeys := (h.received.keys_of_delivery h.delivery (nodup_others id)).1
      have hk : e.1 ∈ others totalNodes id := hkeys.mem_iff.mp (List.mem_map_of_mem he)
      have hlookup := (h.received.lookup_of_delivery h.delivery hk).1
      rw [lookup_of_mem_entries he] at hlookup
      rw [Function.comp_apply, Option.some.inj hlookup]
      simp [commit]
    have hkeys := (h.received.keys_of_delivery h.delivery (nodup_others id)).1
    rw [hlists, h.commitment_eq]
    simp only [commit, List.map_map, Function.comp_def]
    rw [foldl_zipWith_add_map]
    congr 1
    refine List.map_congr_left fun k _ => ?_
    rw [(hkeys.map _).sum_eq, add_sum_others h.range.1 h.range.2 fun j =>
      (f j).coeff k • (generator : E), groupPolynomial, finsetSum_coeff, Finset.sum_smul]

variable (hf : ∀ j, (f j).degree < threshold)
include hf

theorem computeSecretShare_eq [DecidableEq F] :
    node.computeSecretShare = .ok ⟨id, (groupPolynomial totalNodes f).eval (id : F)⟩ := by
  refine (computeSecretShare_standard h.role).mpr ⟨h.shares_length, ?_, ?_⟩
  · rw [h.coeffs_eq]
    exact coeffs_ne_nil hthreshold _
  · have hsum : node.evalPolynomial node.id + (values node.receivedShares).sum =
        (groupPolynomial totalNodes f).eval (id : F) := by
      rw [evalPolynomial_eq_powerSum, h.coeffs_eq, h.id_eq, h.shares_perm.sum_eq,
        add_sum_others h.range.1 h.range.2 fun j =>
          powerSum ((List.range threshold).map (f j).coeff) (id : F),
        groupPolynomial, eval_finsetSum]
      exact Finset.sum_congr rfl fun j _ => powerSum_coeff (hf j) _
    rw [hsum, h.id_eq]

theorem computeAggregatePublicKey_eq [DecidableEq F] :
    node.computeAggregatePublicKey =
      .ok ((groupPolynomial totalNodes f).eval 0 • (generator : E)) := by
  have hterm : ∀ j, (commit (E := E) ((List.range threshold).map (f j).coeff)).constantTerm =
      (f j).eval 0 • (generator : E) := by
    intro j
    rw [PolynomialCommitment.constantTerm_eq_powerSum (F := F), powerSum_commit,
      powerSum_coeff (hf j)]
  rw [computeAggregatePublicKey_of_commitments (isReshareReceiver_of_standard h.role)
    h.commitments_length (h.commitment_ne_nil hthreshold), (h.commitments_perm.map _).sum_eq,
    List.map_map, h.commitment_eq]
  simp only [Function.comp_def, hterm]
  rw [add_sum_others h.range.1 h.range.2 fun j => (f j).eval 0 • (generator : E),
    groupPolynomial, eval_finsetSum, Finset.sum_smul]

end Finished

end

theorem interpolate_eval_zero [PrimeOrder F E] {g : F[X]} {S : Finset ℕ}
    (hS : ∀ i ∈ S, i < order E) (hdeg : g.degree < S.card) :
    (Lagrange.interpolate S (fun i : ℕ => (i : F)) fun i => g.eval (i : F)).eval 0 =
      g.eval 0 := by
  have hinj : Set.InjOn (fun i : ℕ => (i : F)) S := (natCast_injOn F E).mono hS
  rw [← Lagrange.eq_interpolate_of_eval_eq _ hinj hdeg fun i _ => rfl]

variable [DecidableEq F] [DecidableEq E]

/-- A fresh ceremony among `totalNodes` members with arbitrary polynomials `f j` of degree
below the threshold.  Each member gets the other members' messages in any order, some of them
before its own generation: every call succeeds, the shares are the values of the sum of all
polynomials, all members compute the same key and public polynomial, the public polynomial
matches the shares, and any threshold of them interpolates to the group secret. -/
theorem freshDkg_correct [PrimeOrder F E] {threshold totalNodes : ℕ} (hthreshold : 1 ≤ threshold)
    (hle : threshold ≤ totalNodes) (hsize : totalNodes < 2 ^ 32) (horder : totalNodes < order E)
    (f : ℕ → F[X]) (hf : ∀ j, (f j).degree < threshold) (sessionId : ℕ)
    (nonce : ℕ → ℕ → List UInt8) :
    ∃ dealers : ℕ → DKGNode F E,
      (∀ j ∈ Finset.Icc 1 totalNodes,
        startFresh threshold totalNodes sessionId (f j).coeff j = .ok (dealers j)) ∧
      ∀ before after : ℕ → List (Call F E),
        (∀ i ∈ Finset.Icc 1 totalNodes,
          IsDelivery (inbox totalNodes dealers nonce i) (before i ++ after i)) →
        ∃ (nodes : ℕ → DKGNode F E) (share : ℕ → F) (poly : PubPoly E),
          (∀ i ∈ Finset.Icc 1 totalNodes,
            runFresh threshold totalNodes sessionId (f i).coeff i (before i) (after i) =
                .ok (nodes i) ∧
              share i = (groupPolynomial totalNodes f).eval (i : F) ∧
              (nodes i).computeSecretShare = .ok ⟨i, share i⟩ ∧
              (nodes i).computeAggregatePublicKey =
                .ok ((groupPolynomial totalNodes f).eval 0 • (generator : E)) ∧
              (nodes i).computePublicPolynomial = .ok poly ∧
              poly.eval F i = share i • (generator : E)) ∧
          ∀ S ⊆ Finset.Icc 1 totalNodes, threshold ≤ S.card →
            (Lagrange.interpolate S (fun i : ℕ => (i : F)) share).eval 0 =
              (groupPolynomial totalNodes f).eval 0 := by
  have hstart : ∀ j, 1 ≤ j ∧ j ≤ totalNodes → ∃ dealer : DKGNode F E,
      startFresh threshold totalNodes sessionId (f j).coeff j = .ok dealer :=
    fun j hj => ⟨_, startFresh_eq_ok hthreshold hle hsize _ hj⟩
  choose! dealers hdealers using hstart
  refine ⟨dealers, fun j hj => hdealers j (Finset.mem_Icc.mp hj), fun before after hdel => ?_⟩
  have hrun : ∀ i, 1 ≤ i ∧ i ≤ totalNodes → ∃ node : DKGNode F E,
      runFresh threshold totalNodes sessionId (f i).coeff i (before i) (after i) = .ok node ∧
        Finished threshold totalNodes sessionId i f (fun j => nonce j i) (before i ++ after i)
          node := by
    intro i hi
    have hdel' := hdel i (Finset.mem_Icc.mpr hi)
    rw [inbox_eq_exchange hthreshold hle hsize f nonce hdealers hi] at hdel'
    obtain ⟨node, hok, hrec, hrole, hid, htotal, hcoeffs, hcommitment⟩ :=
      exists_runFresh hthreshold hle hsize f (fun j => nonce j i) hi hdel'
    exact ⟨node, hok, hi, hdel', hrec, hrole, hid, htotal, hcoeffs, hcommitment⟩
  choose! nodes hok hfinished using hrun
  have hdeg : (groupPolynomial totalNodes f).degree < threshold := degree_groupPolynomial_lt hf
  refine ⟨nodes, fun i => (groupPolynomial totalNodes f).eval (i : F),
    ⟨(commit ((List.range threshold).map (groupPolynomial totalNodes f).coeff)).coefficients⟩,
    fun i hi => ?_, fun S hS hcard => ?_⟩
  · have hi' := Finset.mem_Icc.mp hi
    have hfin := hfinished i hi'
    refine ⟨hok i hi', rfl, hfin.computeSecretShare_eq hthreshold hf,
      hfin.computeAggregatePublicKey_eq hthreshold hf,
      hfin.computePublicPolynomial_eq hthreshold, ?_⟩
    rw [PubPoly.eval_eq_powerSum, powerSum_commit, powerSum_coeff hdeg]
  · apply interpolate_eval_zero (E := E)
    · exact fun i hi => lt_of_le_of_lt (Finset.mem_Icc.mp (hS hi)).2 horder
    · exact hdeg.trans_le (by exact_mod_cast hcard)

theorem freshDkg_correct_two :
    ∃ dealers nodes : ℕ → DKGNode F7 F7, ∀ i ∈ Finset.Icc 1 2,
      IsDelivery (inbox 2 dealers (fun _ _ => []) i) (inbox 2 dealers (fun _ _ => []) i) ∧
        runFresh 2 2 0 (X : F7[X]).coeff i [] (inbox 2 dealers (fun _ _ => []) i) =
          .ok (nodes i) ∧
        (nodes i).computeSecretShare =
          .ok ⟨i, (groupPolynomial 2 fun _ => (X : F7[X])).eval (i : F7)⟩ := by
  have hdeg : ∀ _ : ℕ, (X : F7[X]).degree < (2 : ℕ) := by
    intro _
    rw [degree_X]
    decide
  obtain ⟨dealers, hdealers, hcorrect⟩ := freshDkg_correct (E := F7) (by decide) (le_refl 2)
    (by decide) (by decide) (fun _ => (X : F7[X])) hdeg 0 fun _ _ => []
  have hdel : ∀ i ∈ Finset.Icc 1 2, IsDelivery (inbox 2 dealers (fun _ _ => []) i)
      ([] ++ inbox 2 dealers (fun _ _ => []) i) := by
    intro i hi
    rw [List.nil_append, inbox_eq_exchange (by decide) (le_refl 2) (by decide)
      (fun _ => (X : F7[X])) _ (fun j hj => hdealers j (Finset.mem_Icc.mpr hj))
      (Finset.mem_Icc.mp hi)]
    exact isDelivery_exchange
  obtain ⟨nodes, share, poly, hnodes, -⟩ := hcorrect (fun _ => []) _ hdel
  refine ⟨dealers, nodes, fun i hi => ⟨hdel i hi, (hnodes i hi).1, ?_⟩⟩
  rw [(hnodes i hi).2.2.1, (hnodes i hi).2.1]

end Orbis.Crypto.Dkg
