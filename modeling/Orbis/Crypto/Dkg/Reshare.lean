import Orbis.Crypto.Dkg.Fresh

/-!
# Resharing a secret

Old members deal sub-polynomials whose constant term is their old share; new members weight the
contributions of a selected dealer set.  A new member may be a plain receiver or an old member
that moves to a new identifier, and it may hear from more dealers than are selected.  All new
shares lie on one polynomial with the old secret as its constant term.
-/

open Polynomial

namespace Orbis.Crypto.Dkg

open Orbis.Algebra Orbis.Data DKGNode

variable {F E : Type} [Field F]

/-- The two committees, the old sharing, the polynomials dealt by the old members, the dealer
lists they deal under and the selected dealer set. -/
structure ResharePlan (F : Type) [Field F] where
  threshold : ℕ
  totalNodes : ℕ
  newThreshold : ℕ
  newTotalNodes : ℕ
  sessionId : ℕ
  old : F[X]
  dealt : ℕ → F[X]
  participating : ℕ → List ℕ
  selected : List ℕ
  threshold_pos : 1 ≤ threshold
  threshold_le : threshold ≤ totalNodes
  totalNodes_lt : totalNodes < 2 ^ 32
  newThreshold_pos : 1 ≤ newThreshold
  newThreshold_le : newThreshold ≤ newTotalNodes
  newTotalNodes_lt : newTotalNodes < 2 ^ 32
  old_degree : old.degree < threshold
  dealt_degree : ∀ d, (dealt d).degree < newThreshold
  dealt_zero : ∀ d, (dealt d).eval 0 = old.eval (d : F)
  participates : ∀ d, 1 ≤ d ∧ d ≤ totalNodes → d ∈ participating d
  participating_enough : ∀ d, 1 ≤ d ∧ d ≤ totalNodes → threshold ≤ (participating d).length
  selected_nodup : selected.Nodup
  selected_range : ∀ d ∈ selected, 1 ≤ d ∧ d ≤ totalNodes
  selected_enough : threshold ≤ selected.length

/-- How a new member takes part: as a pure receiver with its own threshold parameter, or as the
old member with the given identifier. -/
inductive Member where
  | receiver (threshold : ℕ)
  | dealerReceiver (oldId : ℕ)

variable [AddCommGroup E] [Module F E] [Curve E]

namespace ResharePlan

variable (plan : ResharePlan F)

/-- The generation call of the old member `d`. -/
def generation (newId : Option ℕ) (d : ℕ) : Call F E :=
  .generatePolynomial (.reshare (plan.old.eval (d : F)) (plan.participating d)
    plan.newThreshold plan.newTotalNodes newId) (plan.dealt d).coeff

def startDealer [DecidableEq E] (role : DkgRole) (newId : Option ℕ) (d : ℕ) :
    Except CryptoError (DKGNode F E) := do
  let node ← DKGNode.new d plan.threshold plan.totalNodes plan.sessionId role
  node.runAll [plan.generation newId d]

/-- The identifier with which the new member `j` is created. -/
def initialId (j : ℕ) : Member → ℕ
  | .receiver _ => j
  | .dealerReceiver oldId => oldId

def ValidMember : Member → Prop
  | .receiver threshold => 1 ≤ threshold ∧ threshold ≤ plan.selected.length
  | .dealerReceiver oldId => 1 ≤ oldId ∧ oldId ≤ plan.totalNodes

/-- The dealers a member receives from: not from itself. -/
def senders (heard : List ℕ) : Member → List ℕ
  | .receiver _ => heard
  | .dealerReceiver oldId => heard.filter (· != oldId)

/-- The new member `j`: messages before its own generation, between generation and selection,
and after the selection.  A pure receiver has no generation of its own. -/
def runMember [DecidableEq E]
    (j : ℕ) (member : Member) (early mid : List (Call F E)) (selection : List ℕ)
    (late : List (Call F E)) : Except CryptoError (DKGNode F E) :=
  match member with
  | .receiver threshold => do
      let node ← DKGNode.new j threshold plan.totalNodes plan.sessionId .receiver
      node.runAll (early ++ (mid ++ .selectReshareParticipants selection :: late))
  | .dealerReceiver oldId => do
      let node ← DKGNode.new oldId plan.threshold plan.totalNodes plan.sessionId .dealerReceiver
      node.runAll (early ++ plan.generation (some j) oldId ::
        (mid ++ .selectReshareParticipants selection :: late))

/-- The messages of the heard dealers to the new member `j`. -/
def inbox (dealers : ℕ → DKGNode F E) (nonce : ℕ → ℕ → List UInt8) (senders : List ℕ) (j : ℕ) :
    List (Call F E) :=
  senders.flatMap fun d => (dealers d).messagesTo (nonce d) j

noncomputable def combined : F[X] :=
  (plan.selected.map fun d =>
    C (zeroWeight (Nat.cast : ℕ → F) plan.selected d) * plan.dealt d).sum

def coeffs (d : ℕ) : List F := (List.range plan.newThreshold).map (plan.dealt d).coeff

/-! ## The combined polynomial -/

theorem eval_combined (x : F) :
    plan.combined.eval x = (plan.selected.map fun d =>
      zeroWeight (Nat.cast : ℕ → F) plan.selected d * (plan.dealt d).eval x).sum := by
  rw [combined, eval_listSum, List.map_map]
  simp [Function.comp_def]

theorem coeff_combined (k : ℕ) :
    plan.combined.coeff k = (plan.selected.map fun d =>
      zeroWeight (Nat.cast : ℕ → F) plan.selected d * (plan.dealt d).coeff k).sum := by
  rw [combined, ← lcoeff_apply, map_list_sum, List.map_map]
  simp [Function.comp_def]

theorem degree_combined_lt : plan.combined.degree < plan.newThreshold := by
  rw [degree_lt_iff_coeff_zero]
  intro k hk
  rw [coeff_combined]
  apply List.sum_eq_zero
  intro x hx
  obtain ⟨d, -, rfl⟩ := List.mem_map.mp hx
  have hcoeff : (plan.dealt d).coeff k = 0 :=
    (degree_lt_iff_coeff_zero _ _).mp (plan.dealt_degree d) k hk
  rw [hcoeff, mul_zero]

theorem length_coeffs (d : ℕ) : (plan.coeffs d).length = plan.newThreshold := by
  simp [coeffs]

theorem coeffs_ne_nil (d : ℕ) : plan.coeffs d ≠ [] :=
  Dkg.coeffs_ne_nil plan.newThreshold_pos _

theorem powerSum_coeffs (d : ℕ) (x : F) : powerSum (plan.coeffs d) x = (plan.dealt d).eval x :=
  powerSum_coeff (plan.dealt_degree d) x

section

variable (E) [PrimeOrder F E] (hold : plan.totalNodes < order E)
include hold

theorem selected_injOn : Set.InjOn (Nat.cast : ℕ → F) {d | d ∈ plan.selected} := by
  refine (natCast_injOn F E).mono fun d hd => ?_
  exact lt_of_le_of_lt (plan.selected_range d hd).2 hold

/-- The new polynomial keeps the secret: the selected old shares are interpolated. -/
theorem combined_eval_zero : plan.combined.eval 0 = plan.old.eval 0 := by
  have hlen : ((List.range plan.threshold).map plan.old.coeff).length ≤ plan.selected.length := by
    simpa using plan.selected_enough
  have hinterp := sum_zeroWeight_smul_powerSum plan.selected_nodup
    (plan.selected_injOn E hold) hlen
  simp only [powerSum_coeff plan.old_degree, smul_eq_mul] at hinterp
  rw [eval_combined, ← hinterp]
  simp only [plan.dealt_zero]

end

/-! ## What the dealers send -/

variable {d : ℕ}

omit [AddCommGroup E] [Module F E] [Curve E] in
theorem new_dealer {role : DkgRole} (hd : 1 ≤ d ∧ d ≤ plan.totalNodes) :
    DKGNode.new d plan.threshold plan.totalNodes plan.sessionId role =
      .ok (blank d plan.threshold plan.totalNodes plan.sessionId role : DKGNode F E) := by
  have hthreshold := plan.threshold_pos
  refine new_eq_ok.mpr ⟨⟨?_, ?_, fun _ => ⟨?_, plan.threshold_le⟩⟩, rfl⟩
  · omega
  · omega
  · rw [asU32_of_lt plan.totalNodes_lt]
    omega

omit [AddCommGroup E] [Module F E] [Curve E] in
theorem acceptsReshare {node : DKGNode F E} (hd : 1 ≤ d ∧ d ≤ plan.totalNodes) (hid : node.id = d)
    (hthreshold : node.threshold = plan.threshold) (hrole : node.role ≠ .receiver) :
    node.AcceptsReshare (plan.participating d) plan.newThreshold plan.newTotalNodes := by
  have hpos := plan.newThreshold_pos
  refine ⟨hrole, hid ▸ plan.participates d hd, hthreshold ▸ plan.participating_enough d hd,
    ?_, plan.newThreshold_le⟩
  omega

def afterGeneration (node : DKGNode F E) (newId : Option ℕ) (d : ℕ) : DKGNode F E :=
  { node with
    effectiveThreshold := plan.newThreshold
    effectiveTotalNodes := plan.newTotalNodes
    selectedReshareParticipants := some (plan.participating d)
    effectiveReceiveId := newId
    polynomialCoeffs := plan.coeffs d
    commitment := commit (plan.coeffs d) }

/-- The dealt coefficients are those of the sub-polynomial: its constant term is the old
share. -/
theorem call_generation [DecidableEq E] {node : DKGNode F E} {newId : Option ℕ}
    (hacc : node.AcceptsReshare (plan.participating d) plan.newThreshold plan.newTotalNodes) :
    node.call (plan.generation newId d) = (plan.afterGeneration node newId d, .ok ()) := by
  have hconst : plan.old.eval (d : F) = (plan.dealt d).coeff 0 := by
    rw [coeff_zero_eq_eval_zero, plan.dealt_zero]
  have hfill := fillPolynomial_coeffs
    { node with
      effectiveThreshold := plan.newThreshold
      effectiveTotalNodes := plan.newTotalNodes
      selectedReshareParticipants := some (plan.participating d)
      effectiveReceiveId := newId } (plan.dealt d).coeff plan.newThreshold_pos
  rw [generation, DKGNode.call, generatePolynomial_reshare_of_accepts hacc, hconst]
  unfold DKGNode.fillPolynomial afterGeneration coeffs at *
  simp only at hfill ⊢
  rw [hfill]

theorem startDealer_eq_ok [DecidableEq E]
    {role : DkgRole} (hrole : role ≠ .receiver) (newId : Option ℕ)
    (hd : 1 ≤ d ∧ d ≤ plan.totalNodes) : plan.startDealer role newId d = .ok (plan.afterGeneration
      (blank d plan.threshold plan.totalNodes plan.sessionId role : DKGNode F E) newId d) := by
  have hacc : (blank d plan.threshold plan.totalNodes plan.sessionId role :
      DKGNode F E).AcceptsReshare (plan.participating d) plan.newThreshold plan.newTotalNodes :=
    plan.acceptsReshare hd rfl rfl hrole
  rw [startDealer, plan.new_dealer hd, ok_bind, runAll_cons_of_ok (plan.call_generation hacc)]
  rfl

variable {dealers : ℕ → DKGNode F E} {newId : ℕ → Option ℕ} {role : ℕ → DkgRole}

theorem inbox_eq_exchange [DecidableEq E] (hrole : ∀ d, role d ≠ .receiver)
    (hdealers : ∀ d, 1 ≤ d ∧ d ≤ plan.totalNodes →
      plan.startDealer (role d) (newId d) d = .ok (dealers d)) (nonce : ℕ → ℕ → List UInt8)
    {senders : List ℕ} (hsenders : ∀ d ∈ senders, 1 ≤ d ∧ d ≤ plan.totalNodes) {j : ℕ}
    (hj : 1 ≤ j ∧ j ≤ plan.newTotalNodes) :
    inbox dealers nonce senders j = exchange senders (fun d => commit (plan.coeffs d))
      (fun d => (plan.dealt d).eval (j : F)) (fun d => nonce d j) j plan.sessionId := by
  refine List.flatMap_congr fun d hd => ?_
  have hdealer := hdealers d (hsenders d hd)
  rw [plan.startDealer_eq_ok (hrole d) _ (hsenders d hd)] at hdealer
  rw [← Except.ok.inj hdealer]
  have hto : j ≤ asU32 plan.newTotalNodes := by
    rw [asU32_of_lt plan.newTotalNodes_lt]
    omega
  rw [messagesTo_eq (hrole d) (plan.coeffs_ne_nil d) (nonce d) hj.1 hto]
  simp only [afterGeneration, blank, plan.powerSum_coeffs]

/-! ## The run of a new member -/

section

variable {senders : List ℕ} {commitment : ℕ → PolynomialCommitment E} {value : ℕ → F}
  {nonce : ℕ → List UInt8} {j sessionId : ℕ} {node : DKGNode F E}
  {order done mid late : List (Call F E)} {selection : List ℕ}

/-- From the point where a node can receive its shares, the rest of the delivery with the
selection somewhere in between succeeds. -/
theorem exists_runAll_select [DecidableEq E]
    (hready : node.ReadyFor senders commitment value j sessionId)
    (hdel : IsDelivery (exchange senders commitment value nonce j sessionId) order)
    (hrec : node.Received done) (horder : order = done ++ mid ++ late)
    (hto : node.receiveId = j) (hsel : node.AcceptsSelection selection) :
    ∃ node', node.runAll (mid ++ .selectReshareParticipants selection :: late) = .ok node' ∧
      node'.Received order ∧
      SameButReceived { node with selectedReshareParticipants := some (sortDedup selection) }
        node' := by
  obtain ⟨node₁, hrun₁, hrec₁, hsame₁⟩ := exists_runAll_of_delivery hdel hready hrec horder
    (fun _ _ => hto)
  have hsel₁ : node₁.AcceptsSelection selection :=
    ⟨hsame₁.role ▸ hsel.role, hsel.nonempty, hsel.nodup, hsame₁.totalNodes ▸ hsel.range,
      hsame₁.threshold ▸ hsel.enough⟩
  set node₂ : DKGNode F E :=
    { node₁ with selectedReshareParticipants := some (sortDedup selection) } with hnode₂
  have hcall : node₁.call (.selectReshareParticipants selection) = (node₂, .ok ()) :=
    selectReshareParticipants_of_accepts hsel₁
  have hrec₂ : node₂.Received (done ++ mid) := ⟨hrec₁.commitments, hrec₁.shares⟩
  have hready₂ : node₂.ReadyFor senders commitment value j sessionId :=
    (hready.of_same hsame₁).congr rfl rfl rfl rfl
  have hto₂ : node₂.receiveId = j := hsame₁.receiveId.trans hto
  obtain ⟨node', hrun, hrec', hsame'⟩ := exists_runAll_of_delivery hdel hready₂ hrec₂
    (show order = done ++ mid ++ late ++ [] by simp [horder]) (fun _ _ => hto₂)
  refine ⟨node', ?_, by rw [horder]; exact hrec', ?_⟩
  · rw [runAll_append, hrun₁, ok_bind, runAll_cons_of_ok hcall, hrun]
  · refine SameButReceived.trans ?_ hsame'
    exact { hsame₁ with selected := rfl }

end

/-- The state of the new member `j` at the end: it is a receiving node at index `j`, it has the
selected set, and it holds what every selected dealer gave it. -/
structure MemberDone (j : ℕ) (node : DKGNode F E) : Prop where
  role : node.isReshareReceiver = true
  receiveId : node.receiveId = j
  totalNodes : node.totalNodes = plan.totalNodes
  selected : ∃ selection : List ℕ, selection.Perm plan.selected ∧
    node.selectedReshareParticipants = some (sortDedup selection)
  share : ∀ d ∈ plan.selected, node.reshareShareFor d = .ok ((plan.dealt d).eval (j : F))
  commitment : ∀ d ∈ plan.selected, node.reshareCommitmentFor d = .ok (commit (plan.coeffs d))

theorem selected_ne_nil : plan.selected ≠ [] := by
  have hpos := plan.threshold_pos
  have henough := plan.selected_enough
  intro hnil
  simp [hnil] at henough
  omega

omit [AddCommGroup E] [Module F E] [Curve E] in
theorem acceptsSelection {node : DKGNode F E} {selection : List ℕ}
    (hperm : selection.Perm plan.selected) (hrole : node.role ≠ .standard)
    (htotal : node.totalNodes = plan.totalNodes)
    (hthreshold : node.threshold ≤ plan.selected.length) : node.AcceptsSelection selection := by
  refine ⟨hrole, ?_, hperm.nodup_iff.mpr plan.selected_nodup, ?_, ?_⟩
  · intro hnil
    rw [hnil] at hperm
    exact plan.selected_ne_nil (List.perm_nil.mp hperm.symm)
  · intro d hd
    have hrange := plan.selected_range d (hperm.mem_iff.mp hd)
    rw [htotal, asU32_of_lt plan.totalNodes_lt]
    omega
  · rw [hperm.length_eq]
    exact hthreshold

theorem readyFor {node : DKGNode F E} {senders : List ℕ} {j : ℕ} (hnd : senders.Nodup)
    (hsenders : ∀ d ∈ senders, 1 ≤ d ∧ d ≤ plan.totalNodes) (hrole : node.role ≠ .dealer)
    (hself : node.role.dealsToItself → node.id ∉ senders)
    (htotal : node.totalNodes = plan.totalNodes) (hsession : node.sessionId = plan.sessionId) :
    node.ReadyFor senders (fun d => commit (plan.coeffs d))
      (fun d => (plan.dealt d).eval (j : F)) j plan.sessionId := by
  refine ⟨hrole, hnd, ?_, hself, ?_, ?_, hsession.symm⟩
  · intro d hd
    have hrange := hsenders d hd
    rw [htotal, asU32_of_lt plan.totalNodes_lt]
    omega
  · exact fun d _ => commit_ne_nil (plan.coeffs_ne_nil d)
  · intro d _
    rw [powerSum_commit, plan.powerSum_coeffs]

section

variable {heard : List ℕ} (hnd : heard.Nodup)
  (hheard : ∀ d ∈ heard, 1 ≤ d ∧ d ≤ plan.totalNodes) (hsub : ∀ d ∈ plan.selected, d ∈ heard)
  {nonce : ℕ → List UInt8} {j : ℕ} {early mid late : List (Call F E)}
  {selection : List ℕ} (hperm : selection.Perm plan.selected)
include hnd hheard hsub hperm

theorem exists_runReceiver [DecidableEq E] {threshold : ℕ} (hj : 1 ≤ j)
    (hthreshold : 1 ≤ threshold ∧ threshold ≤ plan.selected.length)
    (hdel : IsDelivery (exchange heard (fun d => commit (plan.coeffs d))
      (fun d => (plan.dealt d).eval (j : F)) nonce j plan.sessionId) (early ++ mid ++ late)) :
    ∃ node : DKGNode F E, plan.runMember j (.receiver threshold) early mid selection late =
      .ok node ∧ plan.MemberDone j node := by
  set start : DKGNode F E := blank j threshold plan.totalNodes plan.sessionId .receiver
  have hnew : DKGNode.new j threshold plan.totalNodes plan.sessionId .receiver = .ok start := by
    refine new_eq_ok.mpr ⟨⟨?_, ?_, fun h => absurd rfl h⟩, rfl⟩
    · omega
    · omega
  have hready : start.ReadyFor heard (fun d => commit (plan.coeffs d))
      (fun d => (plan.dealt d).eval (j : F)) j plan.sessionId :=
    plan.readyFor hnd hheard (by simp [start, blank]) (by simp [start, blank,
      DkgRole.dealsToItself]) rfl rfl
  have hsel : start.AcceptsSelection selection :=
    plan.acceptsSelection hperm (by simp [start, blank]) rfl hthreshold.2
  obtain ⟨node, hrun, hrec, hsame⟩ := exists_runAll_select hready hdel
    (received_blank j threshold plan.totalNodes plan.sessionId .receiver)
    (show early ++ mid ++ late = [] ++ (early ++ mid) ++ late by simp) rfl hsel
  have hrole : node.role = .receiver := hsame.role
  refine ⟨node, ?_, ?_, hsame.receiveId, hsame.totalNodes, ⟨selection, hperm, hsame.selected⟩,
    ?_, ?_⟩
  · simp only [runMember, hnew, ok_bind]
    rw [← hrun, List.append_assoc]
  · simp [isReshareReceiver, hrole]
  · intro d hd
    simp [reshareShareFor, hrole, (hrec.lookup_of_delivery hdel (hsub d hd)).2]
  · intro d hd
    simp [reshareCommitmentFor, hrole, (hrec.lookup_of_delivery hdel (hsub d hd)).1]

theorem exists_runDealerReceiver [DecidableEq E]
    {oldId : ℕ} (hold : 1 ≤ oldId ∧ oldId ≤ plan.totalNodes)
    (hearly : ∀ share, .receiveShare share ∈ early → oldId = j)
    (hdel : IsDelivery (exchange (heard.filter (· != oldId)) (fun d => commit (plan.coeffs d))
      (fun d => (plan.dealt d).eval (j : F)) nonce j plan.sessionId) (early ++ mid ++ late)) :
    ∃ node : DKGNode F E, plan.runMember j (.dealerReceiver oldId) early mid selection late =
      .ok node ∧ plan.MemberDone j node := by
  set start : DKGNode F E :=
    blank oldId plan.threshold plan.totalNodes plan.sessionId .dealerReceiver
  have hready : start.ReadyFor (heard.filter (· != oldId)) (fun d => commit (plan.coeffs d))
      (fun d => (plan.dealt d).eval (j : F)) j plan.sessionId := by
    apply plan.readyFor (hnd.filter _)
    · exact fun d hd => hheard d (List.mem_filter.mp hd).1
    · simp [start, blank]
    · intro _ hmem
      simp [start, blank] at hmem
    · rfl
    · rfl
  obtain ⟨node₁, hrun₁, hrec₁, hsame₁⟩ := exists_runAll_of_delivery hdel hready
    (received_blank oldId plan.threshold plan.totalNodes plan.sessionId .dealerReceiver)
    (show early ++ mid ++ late = [] ++ early ++ (mid ++ late) by simp) hearly
  -- The generation moves the node to its new identifier and keeps what has been received.
  have hrole₁ : node₁.role = .dealerReceiver := hsame₁.role
  have hacc : node₁.AcceptsReshare (plan.participating oldId) plan.newThreshold
      plan.newTotalNodes :=
    plan.acceptsReshare hold hsame₁.id hsame₁.threshold (by simp [hrole₁])
  set node₂ : DKGNode F E := plan.afterGeneration node₁ (some j) oldId with hnode₂
  have hready₂ : node₂.ReadyFor (heard.filter (· != oldId)) (fun d => commit (plan.coeffs d))
      (fun d => (plan.dealt d).eval (j : F)) j plan.sessionId :=
    (hready.of_same hsame₁).congr rfl rfl rfl rfl
  have hsel : node₂.AcceptsSelection selection := by
    apply plan.acceptsSelection hperm
    · change node₁.role ≠ .standard
      simp [hrole₁]
    · exact hsame₁.totalNodes
    · change node₁.threshold ≤ plan.selected.length
      rw [hsame₁.threshold]
      exact plan.selected_enough
  obtain ⟨node, hrun, hrec, hsame⟩ := exists_runAll_select hready₂ hdel
    ⟨hrec₁.commitments, hrec₁.shares⟩
    (show early ++ mid ++ late = [] ++ early ++ mid ++ late by simp) rfl hsel
  have hrole : node.role = .dealerReceiver := hsame.role.trans hrole₁
  have hid : node.id = oldId := hsame.id.trans hsame₁.id
  have hreceive : node.receiveId = j := hsame.receiveId
  have hcoeffs : node.polynomialCoeffs = plan.coeffs oldId := hsame.polynomialCoeffs
  have hcommitment : node.commitment = commit (plan.coeffs oldId) := hsame.commitment
  have hne := plan.coeffs_ne_nil oldId
  have hlookup : ∀ d ∈ plan.selected, d ≠ oldId →
      node.receivedCommitments.lookup d = some (commit (plan.coeffs d)) ∧
        node.receivedShares.lookup d = some ((plan.dealt d).eval (j : F)) := by
    intro d hd hne
    apply hrec.lookup_of_delivery hdel
    exact List.mem_filter.mpr ⟨hsub d hd, by simpa using hne⟩
  refine ⟨node, ?_, ?_, hreceive, hsame.totalNodes.trans hsame₁.totalNodes,
    ⟨selection, hperm, hsame.selected⟩, ?_, ?_⟩
  · simp only [runMember, plan.new_dealer hold, ok_bind]
    rw [runAll_append, hrun₁, ok_bind, runAll_cons_of_ok (plan.call_generation hacc), ← hrun]
  · simp [isReshareReceiver, hrole]
  · intro d hd
    by_cases hown : d = oldId
    · simp [reshareShareFor, hrole, hid, hown, hcoeffs, hne, evalPolynomial_eq_powerSum,
        hreceive, plan.powerSum_coeffs]
    · simp [reshareShareFor, hid, hown, (hlookup d hd hown).2]
  · intro d hd
    by_cases hown : d = oldId
    · simp [reshareCommitmentFor, hrole, hid, hown, hcommitment, commit, hne]
    · simp [reshareCommitmentFor, hid, hown, (hlookup d hd hown).1]

end

/-! ## What the new members compute -/

namespace MemberDone

variable {plan} {j : ℕ} {node : DKGNode F E}

/-- The dealer set over which the results are computed is the selected one, sorted. -/
theorem reshareParticipants_eq (h : plan.MemberDone j node) :
    ∃ participants : List ℕ, participants.Perm plan.selected ∧
      node.reshareParticipants = .ok participants := by
  obtain ⟨selection, hperm, hselected⟩ := h.selected
  have hnd : selection.Nodup := hperm.nodup_iff.mpr plan.selected_nodup
  have hsorted : (sortDedup selection).Perm plan.selected := (sortDedup_perm hnd).trans hperm
  have hnd' : (sortDedup selection).Nodup := hsorted.nodup_iff.mpr plan.selected_nodup
  refine ⟨sortDedup (sortDedup selection), (sortDedup_perm hnd').trans hsorted, ?_⟩
  simp only [DKGNode.reshareParticipants, hselected, h.totalNodes]
  refine canonicalizeParticipantIds_eq_ok.mpr ⟨?_, hnd', ?_, rfl⟩
  · intro hnil
    rw [hnil] at hsorted
    exact plan.selected_ne_nil (List.perm_nil.mp hsorted.symm)
  · intro d hd
    have hrange := plan.selected_range d (hsorted.mem_iff.mp hd)
    rw [asU32_of_lt plan.totalNodes_lt]
    omega

variable [PrimeOrder F E] (hold : plan.totalNodes < order E)
include hold

omit node in
theorem weighted [DecidableEq F] {participants : List ℕ} (hperm : participants.Perm plan.selected) :
    Weighted F participants := by
  intro d hd
  apply lagrangeAtZero_eq_ok (hperm.nodup_iff.mpr plan.selected_nodup)
  intro k hk hkd heq
  exact hkd (plan.selected_injOn E hold (hperm.mem_iff.mp hk) (hperm.mem_iff.mp hd) heq)

theorem computeSecretShare_eq [DecidableEq F] (h : plan.MemberDone j node) :
    node.computeSecretShare = .ok ⟨j, plan.combined.eval (j : F)⟩ := by
  obtain ⟨participants, hperm, hparticipants⟩ := h.reshareParticipants_eq
  have hnot : node.role ≠ .dealer := by
    intro hdealer
    have hreceiver := h.role
    simp [isReshareReceiver, hdealer] at hreceiver
  have hshare := secretShareOver_of_values (weighted (E := E) hold hperm)
    (fun d hd => h.share d (hperm.mem_iff.mp hd))
  simp only [computeSecretShare, hnot, if_false, h.role, if_true, hparticipants, ok_bind, hshare,
    h.receiveId]
  rw [plan.eval_combined, (hperm.map _).sum_eq]
  simp only [zeroWeight_perm _ hperm]

theorem computeAggregatePublicKey_eq [DecidableEq F] (h : plan.MemberDone j node) :
    node.computeAggregatePublicKey = .ok (plan.old.eval 0 • (generator : E)) := by
  obtain ⟨participants, hperm, hparticipants⟩ := h.reshareParticipants_eq
  have hkey := aggregatePublicKeyOver_of_commitments (weighted (E := E) hold hperm)
    (fun d hd => h.commitment d (hperm.mem_iff.mp hd))
  simp only [computeAggregatePublicKey, h.role, if_true, hparticipants, ok_bind, hkey]
  rw [← plan.combined_eval_zero E hold, plan.eval_combined, (hperm.map _).sum_eq, List.sum_smul,
    List.map_map]
  simp only [zeroWeight_perm _ hperm, PolynomialCommitment.constantTerm_eq_powerSum (F := F),
    powerSum_commit, plan.powerSum_coeffs, Function.comp_def, mul_smul]

theorem computePublicPolynomial_eq [DecidableEq F] (h : plan.MemberDone j node) :
    node.computePublicPolynomial = .ok ⟨(commit (E := E)
      ((List.range plan.newThreshold).map plan.combined.coeff)).coefficients⟩ := by
  obtain ⟨participants, hperm, hparticipants⟩ := h.reshareParticipants_eq
  have hne : participants ≠ [] := by
    intro hnil
    rw [hnil] at hperm
    exact plan.selected_ne_nil (List.perm_nil.mp hperm.symm)
  have hpoly := publicPolynomialOver_of_commitments hne (weighted (E := E) hold hperm)
    (fun d hd => ⟨h.commitment d (hperm.mem_iff.mp hd),
      show (commit (E := E) (plan.coeffs d)).coefficients.length = plan.newThreshold by
        simp [commit, plan.length_coeffs]⟩)
  simp only [computePublicPolynomial, h.role, if_true, hparticipants, ok_bind, hpoly]
  have hzero : List.replicate plan.newThreshold (0 : E) =
      (List.range plan.newThreshold).map fun _ => 0 := by
    simp [List.map_const']
  simp only [weightedPolynomial, commit, coeffs, List.map_map, Function.comp_def, hzero]
  rw [foldl_zipWith_add_map]
  congr 2
  refine List.map_congr_left fun k _ => ?_
  rw [zero_add, (hperm.map _).sum_eq, plan.coeff_combined, List.sum_smul, List.map_map]
  simp only [zeroWeight_perm _ hperm, Function.comp_def, mul_smul]

end MemberDone

/-- What the new member `j` goes through: it hears from at least the selected dealers, each
share after its dealer's commitment and, when the member moves to a new identifier, after its
own generation; the selection comes anywhere after that generation. -/
structure ValidRun (dealers : ℕ → DKGNode F E) (nonce : ℕ → ℕ → List UInt8) (j : ℕ)
    (member : Member) (heard : List ℕ) (early mid : List (Call F E)) (selection : List ℕ)
    (late : List (Call F E)) : Prop where
  valid : plan.ValidMember member
  heard_nodup : heard.Nodup
  heard_range : ∀ d ∈ heard, 1 ≤ d ∧ d ≤ plan.totalNodes
  heard_selected : ∀ d ∈ plan.selected, d ∈ heard
  selection_perm : selection.Perm plan.selected
  early_shares : ∀ share, .receiveShare share ∈ early → initialId j member = j
  delivery : IsDelivery (inbox dealers nonce (senders heard member) j) (early ++ mid ++ late)

theorem exists_runMember [DecidableEq E] (hrole : ∀ d, role d ≠ .receiver)
    (hdealers : ∀ d, 1 ≤ d ∧ d ≤ plan.totalNodes →
      plan.startDealer (role d) (newId d) d = .ok (dealers d)) {nonce : ℕ → ℕ → List UInt8} {j : ℕ}
    (hj : 1 ≤ j ∧ j ≤ plan.newTotalNodes) {member : Member} {heard selection : List ℕ}
    {early mid late : List (Call F E)}
    (h : plan.ValidRun dealers nonce j member heard early mid selection late) :
    ∃ node : DKGNode F E, plan.runMember j member early mid selection late = .ok node ∧
      plan.MemberDone j node := by
  have hsenders : ∀ d ∈ senders heard member, 1 ≤ d ∧ d ≤ plan.totalNodes := by
    intro d hd
    apply h.heard_range
    cases member with
    | receiver threshold => exact hd
    | dealerReceiver oldId => exact (List.mem_filter.mp hd).1
  have hdel := h.delivery
  rw [plan.inbox_eq_exchange hrole hdealers nonce hsenders hj] at hdel
  cases member with
  | receiver threshold =>
    exact plan.exists_runReceiver h.heard_nodup h.heard_range h.heard_selected
      h.selection_perm hj.1 h.valid hdel
  | dealerReceiver oldId =>
    exact plan.exists_runDealerReceiver h.heard_nodup h.heard_range h.heard_selected
      h.selection_perm h.valid h.early_shares hdel

/-- Resharing keeps the secret.  Whatever the old sharing, the selected dealers, the committees,
the sub-polynomials, the members' roles and old identifiers and the delivery orders: the new
shares lie on one polynomial `g` of degree below the new threshold with the old secret at zero,
the aggregate key is unchanged, all members compute one public polynomial that matches their
shares, and any new threshold of shares recovers the secret. -/
theorem reshare_correct [DecidableEq F] [DecidableEq E]
    [PrimeOrder F E] (hold : plan.totalNodes < order E)
    (hnew : plan.newTotalNodes < order E) {role : ℕ → DkgRole}
    (hrole : ∀ d, role d = .dealer ∨ role d = .dealerReceiver) (newId : ℕ → Option ℕ)
    (nonce : ℕ → ℕ → List UInt8) :
    ∃ dealers : ℕ → DKGNode F E,
      (∀ d ∈ Finset.Icc 1 plan.totalNodes,
        plan.startDealer (role d) (newId d) d = .ok (dealers d)) ∧
      ∀ (member : ℕ → Member) (heard selection : ℕ → List ℕ)
        (early mid late : ℕ → List (Call F E)),
        (∀ j ∈ Finset.Icc 1 plan.newTotalNodes, plan.ValidRun dealers nonce j (member j)
          (heard j) (early j) (mid j) (selection j) (late j)) →
        ∃ (nodes : ℕ → DKGNode F E) (share : ℕ → F) (poly : PubPoly E) (g : F[X]),
          g.degree < plan.newThreshold ∧ g.eval 0 = plan.old.eval 0 ∧
          (∀ j ∈ Finset.Icc 1 plan.newTotalNodes,
            plan.runMember j (member j) (early j) (mid j) (selection j) (late j) =
                .ok (nodes j) ∧
              share j = g.eval (j : F) ∧
              (nodes j).computeSecretShare = .ok ⟨j, share j⟩ ∧
              (nodes j).computeAggregatePublicKey =
                .ok (plan.old.eval 0 • (generator : E)) ∧
              (nodes j).computePublicPolynomial = .ok poly ∧
              poly.eval F j = share j • (generator : E)) ∧
          ∀ S ⊆ Finset.Icc 1 plan.newTotalNodes, plan.newThreshold ≤ S.card →
            (Lagrange.interpolate S (fun j : ℕ => (j : F)) share).eval 0 =
              plan.old.eval 0 := by
  have hnot : ∀ d, role d ≠ .receiver := by
    intro d
    rcases hrole d with h | h <;> simp [h]
  have hstart : ∀ d, 1 ≤ d ∧ d ≤ plan.totalNodes → ∃ dealer : DKGNode F E,
      plan.startDealer (role d) (newId d) d = .ok dealer :=
    fun d hd => ⟨_, plan.startDealer_eq_ok (hnot d) (newId d) hd⟩
  choose! dealers hdealers using hstart
  refine ⟨dealers, fun d hd => hdealers d (Finset.mem_Icc.mp hd), ?_⟩
  intro member heard selection early mid late hvalid
  have hrun : ∀ j, 1 ≤ j ∧ j ≤ plan.newTotalNodes → ∃ node : DKGNode F E,
      plan.runMember j (member j) (early j) (mid j) (selection j) (late j) = .ok node ∧
        plan.MemberDone j node :=
    fun j hj => plan.exists_runMember hnot hdealers hj (hvalid j (Finset.mem_Icc.mpr hj))
  choose! nodes hok hdone using hrun
  refine ⟨nodes, fun j => plan.combined.eval (j : F),
    ⟨(commit ((List.range plan.newThreshold).map plan.combined.coeff)).coefficients⟩,
    plan.combined, plan.degree_combined_lt, plan.combined_eval_zero E hold,
    fun j hj => ?_, fun S hS hcard => ?_⟩
  · have hj' := Finset.mem_Icc.mp hj
    have hmember := hdone j hj'
    refine ⟨hok j hj', rfl, hmember.computeSecretShare_eq hold,
      hmember.computeAggregatePublicKey_eq hold, hmember.computePublicPolynomial_eq hold, ?_⟩
    rw [PubPoly.eval_eq_powerSum, powerSum_commit, powerSum_coeff plan.degree_combined_lt]
  · rw [← plan.combined_eval_zero E hold]
    apply interpolate_eval_zero (E := E)
    · exact fun j hj => lt_of_le_of_lt (Finset.mem_Icc.mp (hS hj)).2 hnew
    · exact plan.degree_combined_lt.trans_le (by exact_mod_cast hcard)

/-- Three old members share the secret `1`; the first and the third one's dealings are selected for
a new committee of two. -/
noncomputable def handover : ResharePlan F7 where
  threshold := 2
  totalNodes := 3
  newThreshold := 2
  newTotalNodes := 2
  sessionId := 0
  old := X + C 1
  dealt := fun d => X + C ((d : F7) + 1)
  participating := fun _ => [1, 2, 3]
  selected := [1, 3]
  threshold_pos := by decide
  threshold_le := by decide
  totalNodes_lt := by decide
  newThreshold_pos := by decide
  newThreshold_le := le_refl 2
  newTotalNodes_lt := by decide
  old_degree := by
    rw [degree_X_add_C]
    decide
  dealt_degree := fun _ => by
    rw [degree_X_add_C]
    decide
  dealt_zero := fun _ => by simp
  participates := fun d hd => by
    simp only [List.mem_cons, List.not_mem_nil, or_false]
    omega
  participating_enough := fun _ _ => by decide
  selected_nodup := by decide
  selected_range := by decide
  selected_enough := le_refl 2

/-- The first new member only receives; the second is the first old member, under a new
identifier. -/
def handoverMember (j : ℕ) : Member := if j = 1 then .receiver 1 else .dealerReceiver 1

/-- All three dealings are heard, before two of them are selected. -/
theorem reshare_correct_handover :
    ∃ dealers nodes : ℕ → DKGNode F7 F7, ∃ g : F7[X], g.eval 0 = 1 ∧
      ∀ j ∈ Finset.Icc 1 2,
        handover.ValidRun dealers (fun _ _ => []) j (handoverMember j) [1, 2, 3] []
          (inbox dealers (fun _ _ => []) (senders [1, 2, 3] (handoverMember j)) j) [3, 1] [] ∧
        handover.runMember j (handoverMember j) []
          (inbox dealers (fun _ _ => []) (senders [1, 2, 3] (handoverMember j)) j) [3, 1] [] =
            .ok (nodes j) ∧
        (nodes j).computeSecretShare = .ok ⟨j, g.eval (j : F7)⟩ := by
  obtain ⟨dealers, hdealers, hcorrect⟩ := handover.reshare_correct (E := F7) (by decide)
    (by decide) (fun _ => Or.inr rfl) (fun _ => some 2) fun _ _ => []
  have hrange : ∀ d ∈ [1, 2, 3], 1 ≤ d ∧ d ≤ handover.totalNodes := by decide
  have hvalid : ∀ j ∈ Finset.Icc 1 2,
      handover.ValidRun dealers (fun _ _ => []) j (handoverMember j) [1, 2, 3] []
        (inbox dealers (fun _ _ => []) (senders [1, 2, 3] (handoverMember j)) j) [3, 1] [] := by
    intro j hj
    have hsenders : ∀ d ∈ senders [1, 2, 3] (handoverMember j),
        1 ≤ d ∧ d ≤ handover.totalNodes := by
      intro d hd
      refine hrange d ?_
      unfold handoverMember at hd
      split at hd
      · exact hd
      · exact (List.mem_filter.mp hd).1
    have hselected : ∀ d ∈ handover.selected, d ∈ [1, 2, 3] := by decide
    have hperm : [3, 1].Perm handover.selected := by decide
    refine ⟨?_, by decide, hrange, hselected, hperm, by simp, ?_⟩
    · unfold handoverMember
      split
      · exact ⟨le_refl 1, by decide⟩
      · exact ⟨le_refl 1, by decide⟩
    · rw [List.nil_append, List.append_nil, handover.inbox_eq_exchange (fun _ => by simp)
        (fun d hd => hdealers d (Finset.mem_Icc.mpr hd)) _ hsenders (Finset.mem_Icc.mp hj)]
      exact isDelivery_exchange
  obtain ⟨nodes, share, poly, g, -, hzero, hnodes, -⟩ :=
    hcorrect handoverMember (fun _ => [1, 2, 3]) (fun _ => [3, 1]) (fun _ => []) _ (fun _ => [])
      hvalid
  refine ⟨dealers, nodes, g, hzero.trans (by simp [handover]), fun j hj => ⟨hvalid j hj,
    (hnodes j hj).1, ?_⟩⟩
  rw [(hnodes j hj).2.2.1, (hnodes j hj).2.1]

end ResharePlan

end Orbis.Crypto.Dkg
