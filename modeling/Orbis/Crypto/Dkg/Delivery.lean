import Orbis.Crypto.Dkg.Soundness

/-!
# Delivering the dealers' messages

A dealer broadcasts its commitment and sends each member a share.  The messages of a set of
dealers may be delivered in any order in which every share comes after its dealer's commitment.
A node that is ready to receive them accepts every one, and afterwards holds exactly what was
sent, whatever the order was.
-/

namespace Orbis.Crypto.Dkg

open Orbis.Algebra Orbis.Data

variable {F E : Type}

namespace Call

def commitmentSender : Call F E → Option ℕ
  | .receiveCommitment fromId _ => some fromId
  | _ => none

def shareSender : Call F E → Option ℕ
  | .receiveShare share => some share.fromId
  | _ => none

end Call

/-- The messages addressed to `toId`: one commitment and one share from each sender. -/
def exchange (senders : List ℕ) (commitment : ℕ → PolynomialCommitment E) (value : ℕ → F)
    (nonce : ℕ → List UInt8) (toId sessionId : ℕ) : List (Call F E) :=
  senders.flatMap fun k =>
    [.receiveCommitment k (commitment k), .receiveShare ⟨k, toId, value k, nonce k, sessionId⟩]

/-- An order in which the messages may arrive. -/
structure IsDelivery (inbox order : List (Call F E)) : Prop where
  perm : order.Perm inbox
  shareAfterCommitment : ∀ pre share post, order = pre ++ .receiveShare share :: post →
    ∃ commitment, .receiveCommitment share.fromId commitment ∈ pre

section

variable {senders : List ℕ} {commitment : ℕ → PolynomialCommitment E} {value : ℕ → F}
  {nonce : ℕ → List UInt8} {toId sessionId : ℕ}

theorem mem_exchange {c : Call F E} :
    c ∈ exchange senders commitment value nonce toId sessionId ↔
      ∃ k ∈ senders, c = .receiveCommitment k (commitment k) ∨
        c = .receiveShare ⟨k, toId, value k, nonce k, sessionId⟩ := by
  simp [exchange]

variable {c : PolynomialCommitment E}

theorem receiveCommitment_mem_exchange {k : ℕ} :
    .receiveCommitment k c ∈ exchange senders commitment value nonce toId sessionId ↔
      k ∈ senders ∧ c = commitment k := by
  rw [mem_exchange]
  constructor
  · rintro ⟨k', hk', h | h⟩
    · cases h
      exact ⟨hk', rfl⟩
    · cases h
  · rintro ⟨hk, rfl⟩
    exact ⟨k, hk, Or.inl rfl⟩

variable {share : DistributedShare F}

theorem receiveShare_mem_exchange :
    .receiveShare share ∈ exchange senders commitment value nonce toId sessionId ↔
      share.fromId ∈ senders ∧
        share = ⟨share.fromId, toId, value share.fromId, nonce share.fromId, sessionId⟩ := by
  rw [mem_exchange]
  constructor
  · rintro ⟨k, hk, h | h⟩
    · cases h
    · cases h
      exact ⟨hk, rfl⟩
  · rintro ⟨hk, hshare⟩
    exact ⟨share.fromId, hk, Or.inr (congrArg _ hshare)⟩

theorem filterMap_commitmentSender_exchange :
    (exchange senders commitment value nonce toId sessionId).filterMap Call.commitmentSender =
      senders := by
  induction senders with
  | nil => rfl
  | cons k senders ih => simpa [exchange, List.filterMap_cons, Call.commitmentSender] using ih

theorem filterMap_shareSender_exchange :
    (exchange senders commitment value nonce toId sessionId).filterMap Call.shareSender =
      senders := by
  induction senders with
  | nil => rfl
  | cons k senders ih => simpa [exchange, List.filterMap_cons, Call.shareSender] using ih

/-- Sender after sender, each with its commitment first. -/
theorem isDelivery_exchange :
    IsDelivery (exchange senders commitment value nonce toId sessionId)
      (exchange senders commitment value nonce toId sessionId) := by
  refine ⟨List.Perm.refl _, ?_⟩
  induction senders with
  | nil =>
    intro pre share post h
    simp [exchange] at h
  | cons k senders ih =>
    intro pre share post h
    rcases pre with _ | ⟨a, _ | ⟨b, pre⟩⟩
    · cases h
    · cases h
      exact ⟨commitment k, by simp⟩
    · obtain ⟨c, hc⟩ := ih pre share post (List.cons.inj (List.cons.inj h).2).2
      exact ⟨c, by simp [hc]⟩

variable {order : List (Call F E)}

variable {pre post : List (Call F E)}

/-- A key that occurs once in the order has not occurred before. -/
private theorem not_mem_before {key : Call F E → Option ℕ} (hnd : (order.filterMap key).Nodup)
    {c c' : Call F E} {k : ℕ} (horder : order = pre ++ c :: post) (hc : key c = some k)
    (hc' : key c' = some k) : c' ∉ pre := by
  intro hmem
  simp only [horder, List.filterMap_append, List.filterMap_cons, hc] at hnd
  have hpre : k ∈ pre.filterMap key := List.mem_filterMap.mpr ⟨c', hmem, hc'⟩
  exact (List.nodup_append.mp hnd).2.2 k hpre k (by simp) rfl

theorem IsDelivery.commitment_fresh (hnd : senders.Nodup)
    (h : IsDelivery (exchange senders commitment value nonce toId sessionId) order) {k : ℕ}
    {c' : PolynomialCommitment E} (horder : order = pre ++ .receiveCommitment k c :: post) :
    .receiveCommitment k c' ∉ pre := by
  have hperm := h.perm.filterMap Call.commitmentSender
  rw [filterMap_commitmentSender_exchange] at hperm
  exact not_mem_before (hperm.nodup_iff.mpr hnd) horder rfl rfl

theorem IsDelivery.share_fresh (hnd : senders.Nodup)
    (h : IsDelivery (exchange senders commitment value nonce toId sessionId) order)
    {share' : DistributedShare F} (horder : order = pre ++ .receiveShare share :: post)
    (hfrom : share'.fromId = share.fromId) : .receiveShare share' ∉ pre := by
  have hperm := h.perm.filterMap Call.shareSender
  rw [filterMap_shareSender_exchange] at hperm
  exact not_mem_before (hperm.nodup_iff.mpr hnd) horder rfl (congrArg some hfrom)

end

namespace DKGNode

variable {calls : List (Call F E)}

theorem runAll_cons_of_ok [Field F] [AddCommGroup E] [Module F E] [DecidableEq E] [Curve E]
    {node node' : DKGNode F E} {c : Call F E}
    (h : node.call c = (node', .ok ())) : node.runAll (c :: calls) = node'.runAll calls := by
  simp [runAll, List.foldlM_cons, h]

theorem runAll_append [Field F] [AddCommGroup E] [Module F E] [DecidableEq E] [Curve E]
    {node : DKGNode F E} {calls' : List (Call F E)} :
    node.runAll (calls ++ calls') = node.runAll calls >>= fun node => node.runAll calls' := by
  simp [runAll, List.foldlM_append]

/-! ## What a node has received -/

/-- The node's maps hold exactly the messages in the list. -/
structure Received (node : DKGNode F E) (calls : List (Call F E)) : Prop where
  commitments : ∀ k c, node.receivedCommitments.lookup k = some c ↔
    .receiveCommitment k c ∈ calls
  shares : ∀ k v, node.receivedShares.lookup k = some v ↔
    ∃ share, .receiveShare share ∈ calls ∧ share.fromId = k ∧ share.value = v

/-- Two nodes that differ at most in what they have received. -/
structure SameButReceived (node node' : DKGNode F E) : Prop where
  id : node'.id = node.id
  threshold : node'.threshold = node.threshold
  totalNodes : node'.totalNodes = node.totalNodes
  role : node'.role = node.role
  effectiveThreshold : node'.effectiveThreshold = node.effectiveThreshold
  effectiveReceiveId : node'.effectiveReceiveId = node.effectiveReceiveId
  polynomialCoeffs : node'.polynomialCoeffs = node.polynomialCoeffs
  commitment : node'.commitment = node.commitment
  selected : node'.selectedReshareParticipants = node.selectedReshareParticipants
  sessionId : node'.sessionId = node.sessionId

namespace SameButReceived

variable {node node' node'' : DKGNode F E}

theorem refl (node : DKGNode F E) : node.SameButReceived node := by
  constructor <;> rfl

theorem trans (h : node.SameButReceived node') (h' : node'.SameButReceived node'') :
    node.SameButReceived node'' where
  id := h'.id.trans h.id
  threshold := h'.threshold.trans h.threshold
  totalNodes := h'.totalNodes.trans h.totalNodes
  role := h'.role.trans h.role
  effectiveThreshold := h'.effectiveThreshold.trans h.effectiveThreshold
  effectiveReceiveId := h'.effectiveReceiveId.trans h.effectiveReceiveId
  polynomialCoeffs := h'.polynomialCoeffs.trans h.polynomialCoeffs
  commitment := h'.commitment.trans h.commitment
  selected := h'.selected.trans h.selected
  sessionId := h'.sessionId.trans h.sessionId

theorem receiveId (h : node.SameButReceived node') : node'.receiveId = node.receiveId := by
  rw [DKGNode.receiveId, DKGNode.receiveId, h.effectiveReceiveId, h.id]

end SameButReceived

theorem Received.insertCommitment {node : DKGNode F E} (h : node.Received calls) {k : ℕ}
    (c : PolynomialCommitment E) (hfresh : k ∉ node.receivedCommitments) :
    Received { node with receivedCommitments := node.receivedCommitments.insert k c }
      (calls ++ [.receiveCommitment k c]) := by
  have hnone : ∀ c', .receiveCommitment k c' ∉ calls := fun c' hc' =>
    hfresh (mem_of_lookup ((h.commitments k c').mpr hc'))
  constructor
  · intro k' c'
    by_cases hk : k' = k
    · subst hk
      simp [AList.lookup_insert, hnone, eq_comm]
    · simp [AList.lookup_insert_ne hk, h.commitments, hk]
  · intro k' v
    simpa using h.shares k' v

theorem Received.insertShare {node : DKGNode F E} (h : node.Received calls)
    (share : DistributedShare F) (hfresh : share.fromId ∉ node.receivedShares) :
    Received { node with
      receivedShares := node.receivedShares.insert share.fromId share.value }
      (calls ++ [.receiveShare share]) := by
  have hnone : ∀ share', .receiveShare share' ∈ calls → share'.fromId ≠ share.fromId := by
    intro share' hmem hfrom
    have hlookup := (h.shares share.fromId share'.value).mpr ⟨share', hmem, hfrom, rfl⟩
    exact hfresh (mem_of_lookup hlookup)
  constructor
  · intro k' c'
    simpa using h.commitments k' c'
  · intro k' v
    change (node.receivedShares.insert share.fromId share.value).lookup k' = some v ↔ _
    by_cases hk : k' = share.fromId
    · subst hk
      rw [AList.lookup_insert, Option.some.injEq]
      constructor
      · rintro rfl
        exact ⟨share, by simp, rfl, rfl⟩
      · rintro ⟨share', hmem, hfrom, hvalue⟩
        rcases List.mem_append.mp hmem with hmem | hmem
        · exact absurd hfrom (hnone share' hmem)
        · cases List.mem_singleton.mp hmem
          exact hvalue
    · rw [AList.lookup_insert_ne hk, h.shares]
      constructor
      · rintro ⟨share', hmem, hrest⟩
        exact ⟨share', List.mem_append_left _ hmem, hrest⟩
      · rintro ⟨share', hmem, hfrom, hvalue⟩
        rcases List.mem_append.mp hmem with hmem | hmem
        · exact ⟨share', hmem, hfrom, hvalue⟩
        · cases List.mem_singleton.mp hmem
          exact absurd hfrom.symm hk

/-! ## Every message of a delivery is accepted -/

variable [Field F] [AddCommGroup E] [Module F E] [Curve E]

/-- The node may receive from the senders, and what they send is committed to. -/
structure ReadyFor (node : DKGNode F E) (senders : List ℕ)
    (commitment : ℕ → PolynomialCommitment E) (value : ℕ → F) (toId sessionId : ℕ) : Prop where
  role : node.role ≠ .dealer
  nodup : senders.Nodup
  range : ∀ k ∈ senders, k ≠ 0 ∧ k ≤ asU32 node.totalNodes
  not_self : node.role.dealsToItself → node.id ∉ senders
  nonempty : ∀ k ∈ senders, (commitment k).coefficients ≠ []
  committed : ∀ k ∈ senders,
    powerSum (commitment k).coefficients (toId : F) = value k • (generator : E)
  sessionId : sessionId = node.sessionId

section

variable {senders : List ℕ} {commitment : ℕ → PolynomialCommitment E} {value : ℕ → F}
  {nonce : ℕ → List UInt8} {toId sessionId : ℕ} {node node' : DKGNode F E}

theorem ReadyFor.congr (h : node.ReadyFor senders commitment value toId sessionId)
    (hid : node'.id = node.id) (hrole : node'.role = node.role)
    (htotal : node'.totalNodes = node.totalNodes) (hsession : node'.sessionId = node.sessionId) :
    node'.ReadyFor senders commitment value toId sessionId :=
  ⟨hrole ▸ h.role, h.nodup, htotal ▸ h.range, by rw [hrole, hid]; exact h.not_self, h.nonempty,
    h.committed, h.sessionId.trans hsession.symm⟩

theorem ReadyFor.of_same (h : node.ReadyFor senders commitment value toId sessionId)
    (hsame : node.SameButReceived node') :
    node'.ReadyFor senders commitment value toId sessionId :=
  h.congr hsame.id hsame.role hsame.totalNodes hsame.sessionId

variable {order pre post : List (Call F E)}
  (hdel : IsDelivery (exchange senders commitment value nonce toId sessionId) order)
include hdel

section

variable (h : node.ReadyFor senders commitment value toId sessionId)
  (hrec : node.Received pre)
include h hrec

theorem ReadyFor.acceptsCommitment {k : ℕ}
    (horder : order = pre ++ .receiveCommitment k (commitment k) :: post)
    (hk : k ∈ senders) : node.AcceptsCommitment k (commitment k) where
  fromId_pos := (h.range k hk).1
  fromId_le := (h.range k hk).2
  not_self := fun hself heq => h.not_self hself (heq ▸ hk)
  nonempty := h.nonempty k hk
  fresh := by
    intro hmem
    obtain ⟨c, hc⟩ := exists_lookup hmem
    exact hdel.commitment_fresh h.nodup horder ((hrec.commitments k c).mp hc)

theorem ReadyFor.acceptsShare [DecidableEq E] {share : DistributedShare F}
    (horder : order = pre ++ .receiveShare share :: post)
    (hto : node.receiveId = toId) : node.AcceptsShare share := by
  have hmem : .receiveShare share ∈ order := by rw [horder]; simp
  obtain ⟨hk, hshare⟩ := receiveShare_mem_exchange.mp (hdel.perm.mem_iff.mp hmem)
  have htoId : share.toId = toId := congrArg (·.toId) hshare
  have hvalue : share.value = value share.fromId := congrArg (·.value) hshare
  have hsession : share.sessionId = sessionId := congrArg (·.sessionId) hshare
  refine ⟨h.role, (h.range _ hk).1, (h.range _ hk).2, ?_, ?_, htoId.trans hto.symm,
    hsession.trans h.sessionId, ?_⟩
  · exact fun hself heq => h.not_self hself (heq ▸ hk)
  · intro hin
    obtain ⟨v, hv⟩ := exists_lookup hin
    obtain ⟨share', hmem', hfrom, -⟩ := (hrec.shares _ v).mp hv
    exact hdel.share_fresh h.nodup horder hfrom hmem'
  · -- The dealer's commitment is among the messages that came before.
    obtain ⟨c, hc⟩ := hdel.shareAfterCommitment pre share post horder
    have hcin : .receiveCommitment share.fromId c ∈ order := by rw [horder]; simp [hc]
    obtain ⟨-, rfl⟩ := receiveCommitment_mem_exchange.mp (hdel.perm.mem_iff.mp hcin)
    refine ⟨_, (hrec.commitments _ _).mpr hc, ?_⟩
    rw [PolynomialCommitment.verifyShare_iff, htoId, hvalue]
    exact h.committed _ hk

theorem exists_call_of_delivery [DecidableEq E] {m : Call F E}
    (horder : order = pre ++ m :: post)
    (hto : ∀ share, m = .receiveShare share → node.receiveId = toId) :
    ∃ node', node.call m = (node', .ok ()) ∧ node'.Received (pre ++ [m]) ∧
      node.SameButReceived node' := by
  have hmem : m ∈ order := by rw [horder]; simp
  obtain ⟨k, hk, rfl | rfl⟩ := mem_exchange.mp (hdel.perm.mem_iff.mp hmem)
  · have hacc := h.acceptsCommitment hdel hrec horder hk
    exact ⟨_, receiveCommitment_of_accepts hacc, hrec.insertCommitment _ hacc.fresh,
      by constructor <;> rfl⟩
  · have hacc := h.acceptsShare hdel hrec horder (hto _ rfl)
    exact ⟨_, receiveShare_of_accepts hacc, hrec.insertShare _ hacc.fresh,
      by constructor <;> rfl⟩

theorem exists_runAll_of_delivery [DecidableEq E] {msgs : List (Call F E)}
    (horder : order = pre ++ msgs ++ post)
    (hto : ∀ share, .receiveShare share ∈ msgs → node.receiveId = toId) :
    ∃ node', node.runAll msgs = .ok node' ∧ node'.Received (pre ++ msgs) ∧
      node.SameButReceived node' := by
  induction msgs generalizing node pre with
  | nil => exact ⟨node, rfl, by simpa using hrec, .refl node⟩
  | cons m msgs ih =>
    have hsplit : order = pre ++ m :: (msgs ++ post) := by simp [horder]
    obtain ⟨node₁, hcall, hrec₁, hsame₁⟩ := exists_call_of_delivery hdel h hrec hsplit
      (fun share hm => hto share (by simp [hm]))
    have hto₁ : ∀ share, .receiveShare share ∈ msgs → node₁.receiveId = toId := by
      intro share hs
      rw [hsame₁.receiveId]
      exact hto share (by simp [hs])
    obtain ⟨node', hrun, hrec', hsame'⟩ :=
      ih (h.of_same hsame₁) hrec₁ (by simp [horder]) hto₁
    refine ⟨node', ?_, by simpa using hrec', hsame₁.trans hsame'⟩
    rw [runAll_cons_of_ok hcall, hrun]

end

omit [Field F] [AddCommGroup E] [Module F E] [Curve E] in
/-- After the whole delivery the maps hold the senders' messages and nothing else. -/
theorem Received.lookup_of_delivery (hrec : node.Received order) {k : ℕ} (hk : k ∈ senders) :
    node.receivedCommitments.lookup k = some (commitment k) ∧
      node.receivedShares.lookup k = some (value k) := by
  constructor
  · rw [hrec.commitments, hdel.perm.mem_iff]
    exact receiveCommitment_mem_exchange.mpr ⟨hk, rfl⟩
  · rw [hrec.shares]
    refine ⟨⟨k, toId, value k, nonce k, sessionId⟩, ?_, rfl, rfl⟩
    rw [hdel.perm.mem_iff]
    exact receiveShare_mem_exchange.mpr ⟨hk, rfl⟩

omit [Field F] [AddCommGroup E] [Module F E] [Curve E] in
theorem Received.keys_of_delivery (hrec : node.Received order) (hnd : senders.Nodup) :
    node.receivedCommitments.keys.Perm senders ∧ node.receivedShares.keys.Perm senders := by
  constructor
  · refine keys_perm_of_lookup hnd (fun k c hc => ?_)
      fun k hk => mem_of_lookup (hrec.lookup_of_delivery hdel hk).1
    have hmem := hdel.perm.mem_iff.mp ((hrec.commitments k c).mp hc)
    exact (receiveCommitment_mem_exchange.mp hmem).1
  · refine keys_perm_of_lookup hnd (fun k v hv => ?_)
      fun k hk => mem_of_lookup (hrec.lookup_of_delivery hdel hk).2
    obtain ⟨share, hmem, rfl, -⟩ := (hrec.shares k v).mp hv
    exact (receiveShare_mem_exchange.mp (hdel.perm.mem_iff.mp hmem)).1

end

end DKGNode

end Orbis.Crypto.Dkg
