import Orbis.Node.Dkg.Frames
import Orbis.Transition.Triple

/-!
# Where an early share is

A share that arrives before the commitment of its dealer is parked, and whoever receives the
commitment takes the parked share out and replays it.  Between the steps of these handlers the share
is with neither the node nor the parked shares.  The ledger says, for one delivery of one dealer,
what every handler still has to do; the invariant says that the share is always somewhere.
-/

namespace Orbis.Node.Dkg

open Orbis.Crypto Orbis.Crypto.Dkg Orbis.Data Orbis.Transition

inductive Duty where
  | nothing
  /-- The node has accepted the share; it is to be recorded. -/
  | record
  /-- The share has been taken out of the parked ones; it is to be handed to the node. -/
  | replay
  /-- The commitment has been received; the parked share is to be taken out. -/
  | drain
deriving DecidableEq

structure Ledger (F E : Type) where
  session : Session F E
  duty : ℕ → Duty

variable {F E : Type} (delivery : ShareDelivery) (value : F)

/-- The share of the delivery, as the node gets it. -/
def delivered (s : Session F E) : DistributedShare F :=
  ⟨delivery.fromNodeId, delivery.toNodeId, value, delivery.nonce, s.node.sessionId⟩

/-- What is checked before the commitment is looked for. -/
structure Addressed (s : Session F E) : Prop where
  role : s.node.role ≠ .dealer
  pos : delivery.fromNodeId ≠ 0
  le : delivery.fromNodeId ≤ asU32 s.node.totalNodes
  not_self : s.node.role.dealsToItself → delivery.fromNodeId ≠ s.node.id
  toId : delivery.toNodeId = s.node.receiveId
  own : s.ownReceiverId = .ok delivery.toNodeId

/-- The node has the share, it is parked, or a handler has taken it out. -/
def Kept (x : Ledger F E) : Prop :=
  delivery.fromNodeId ∈ x.session.node.receivedShares ∨
    delivery.fromNodeId ∈ x.session.pendingShares ∨ ∃ k, x.duty k = .replay

structure Accounted [Field F] [AddCommGroup E] [Module F E] [DecidableEq E] [Curve E]
    (x : Ledger F E) : Prop where
  live : x.session.live
  selected : ¬(x.session.kind = .reshare ∧
    x.session.selectedDealers.any (delivery.fromNodeId ∉ ·))
  verifies : ∀ c, x.session.node.receivedCommitments.lookup delivery.fromNodeId = some c →
    c.verifyShare delivery.toNodeId value = true
  accepted : ∀ v, x.session.node.receivedShares.lookup delivery.fromNodeId = some v →
    v = value ∧ (delivery.fromNodeId ∈ x.session.receivedShares ∨ ∃ k, x.duty k = .record)
  pending : ∀ p, x.session.pendingShares.lookup delivery.fromNodeId = some p →
    p.share = delivered delivery value x.session ∧ Addressed delivery x.session ∧
      (delivery.fromNodeId ∈ x.session.node.receivedCommitments → ∃ k, x.duty k = .drain)
  keyed : ∀ e p, x.session.pendingShares.lookup e = some p → p.share.fromId = e
  processed : delivery.messageId ∈ x.session.processed → Kept delivery x

/-- The steps of the schedules that are considered: the attempt goes on, the dealer is not left out
by the selection, the share fits the dealer's commitment, and it is not parked while the node has
that commitment. -/
structure Orderly [Field F] [AddCommGroup E] [Module F E] [DecidableEq E] [Curve E]
    (s s' : Session F E) : Prop where
  live : s'.live
  selected : ¬(s'.kind = .reshare ∧ s'.selectedDealers.any (delivery.fromNodeId ∉ ·))
  verifies : ∀ c, s'.node.receivedCommitments.lookup delivery.fromNodeId = some c →
    c.verifyShare delivery.toNodeId value = true
  inTime : delivery.fromNodeId ∈ s'.pendingShares →
    delivery.fromNodeId ∈ s.node.receivedCommitments → delivery.fromNodeId ∈ s.pendingShares

/-- Where shares are received. -/
structure SamePlace (s s' : Session F E) : Prop where
  role : s'.node.role = s.node.role
  totalNodes : s'.node.totalNodes = s.node.totalNodes
  id : s'.node.id = s.node.id
  sessionId : s'.node.sessionId = s.node.sessionId
  ownReceiverId : s'.ownReceiverId = s.ownReceiverId
  receiveId : s'.node.receiveId = s.node.receiveId ∨
    ∀ j, s'.ownReceiverId = .ok j → s'.node.receiveId = j

structure Persists (x y : Ledger F E) : Prop where
  place : SamePlace x.session y.session
  received : delivery.fromNodeId ∈ x.session.node.receivedCommitments →
    delivery.fromNodeId ∈ y.session.node.receivedCommitments
  processed : delivery.messageId ∈ x.session.processed →
    delivery.messageId ∈ y.session.processed
  kept : Kept delivery x → Kept delivery y

/-- The share stays accounted for. -/
def Carries [Field F] [AddCommGroup E] [Module F E] [DecidableEq E] [Curve E]
    (x y : Ledger F E) : Prop := Accounted delivery value y ∧ Persists delivery x y

/-- Steps that do not concern the share or its dealer. -/
structure Untouched (s s' : Session F E) : Prop extends SamePlace s s' where
  shares : s'.node.receivedShares.lookup delivery.fromNodeId =
    s.node.receivedShares.lookup delivery.fromNodeId
  commitments : s'.node.receivedCommitments.lookup delivery.fromNodeId =
    s.node.receivedCommitments.lookup delivery.fromNodeId
  pending : s'.pendingShares.lookup delivery.fromNodeId =
    s.pendingShares.lookup delivery.fromNodeId
  recorded : delivery.fromNodeId ∈ s'.receivedShares ↔ delivery.fromNodeId ∈ s.receivedShares
  processed : delivery.messageId ∈ s'.processed ↔ delivery.messageId ∈ s.processed
  keyed : ∀ e p, s'.pendingShares.lookup e = some p →
    s.pendingShares.lookup e = some p ∨ p.share.fromId = e

variable {delivery value} {s s' s'' : Session F E} {duty : ℕ → Duty} {k : ℕ}

theorem SamePlace.refl (s : Session F E) : SamePlace s s := ⟨rfl, rfl, rfl, rfl, rfl, .inl rfl⟩

theorem SamePlace.trans (h : SamePlace s s') (h' : SamePlace s' s'') : SamePlace s s'' where
  role := h'.role.trans h.role
  totalNodes := h'.totalNodes.trans h.totalNodes
  id := h'.id.trans h.id
  sessionId := h'.sessionId.trans h.sessionId
  ownReceiverId := h'.ownReceiverId.trans h.ownReceiverId
  receiveId := by
    rcases h'.receiveId with heq | hown
    · rcases h.receiveId with heq' | hown'
      · exact .inl (heq.trans heq')
      · refine .inr fun j hj => ?_
        rw [heq]
        exact hown' j (h'.ownReceiverId ▸ hj)
    · exact .inr hown

theorem SamePlace.delivered (h : SamePlace s s') :
    delivered delivery value s' = Dkg.delivered delivery value s := by
  simp only [Dkg.delivered, h.sessionId]

theorem SamePlace.addressed (h : SamePlace s s') (ha : Addressed delivery s) :
    Addressed delivery s' where
  role := by rw [h.role]; exact ha.role
  pos := ha.pos
  le := by rw [h.totalNodes]; exact ha.le
  not_self := by rw [h.role, h.id]; exact ha.not_self
  toId := by
    rcases h.receiveId with heq | hown
    · rw [heq]
      exact ha.toId
    · exact (hown _ (h.ownReceiverId.trans ha.own)).symm
  own := h.ownReceiverId.trans ha.own

theorem Persists.refl (x : Ledger F E) : Persists delivery x x :=
  ⟨.refl _, fun h => h, fun h => h, fun h => h⟩

theorem Persists.trans {x y z : Ledger F E} (h : Persists delivery x y)
    (h' : Persists delivery y z) : Persists delivery x z :=
  ⟨h.place.trans h'.place, fun hx => h'.received (h.received hx),
    fun hx => h'.processed (h.processed hx), fun hx => h'.kept (h.kept hx)⟩

namespace Untouched

theorem refl (s : Session F E) : Untouched delivery s s :=
  ⟨.refl s, rfl, rfl, rfl, Iff.rfl, Iff.rfl, fun _ _ h => .inl h⟩

theorem kept (h : Untouched delivery s s') (hkept : Kept delivery ⟨s, duty⟩) :
    Kept delivery ⟨s', duty⟩ := by
  rcases hkept with hx | hx | hx
  · exact .inl ((mem_iff_of_lookup_eq h.shares).mpr hx)
  · exact .inr (.inl ((mem_iff_of_lookup_eq h.pending).mpr hx))
  · exact .inr (.inr hx)

theorem persists (h : Untouched delivery s s') : Persists delivery ⟨s, duty⟩ ⟨s', duty⟩ where
  place := h.toSamePlace
  received := (mem_iff_of_lookup_eq h.commitments).mpr
  processed := h.processed.mpr
  kept := h.kept

theorem accounted [Field F] [AddCommGroup E] [Module F E] [DecidableEq E] [Curve E]
    (h : Untouched delivery s s') (ho : Orderly delivery value s s')
    (hx : Accounted delivery value ⟨s, duty⟩) : Accounted delivery value ⟨s', duty⟩ where
  live := ho.live
  selected := ho.selected
  verifies := ho.verifies
  accepted v hv := by
    obtain ⟨hvalue, hrecorded⟩ := hx.accepted v (h.shares ▸ hv)
    exact ⟨hvalue, hrecorded.imp_left h.recorded.mpr⟩
  pending p hp := by
    obtain ⟨hshare, haddressed, hdrain⟩ := hx.pending p (h.pending ▸ hp)
    refine ⟨?_, h.addressed haddressed, fun hc => ?_⟩
    · rw [hshare]
      exact h.delivered.symm
    · exact hdrain ((mem_iff_of_lookup_eq h.commitments).mp hc)
  keyed e p hp := by
    rcases h.keyed e p hp with hold | hnew
    · exact hx.keyed e p hold
    · exact hnew
  processed hmem := h.kept (hx.processed (h.processed.mp hmem))

theorem carries [Field F] [AddCommGroup E] [Module F E] [DecidableEq E] [Curve E]
    (h : Untouched delivery s s') (ho : Orderly delivery value s s')
    (hx : Accounted delivery value ⟨s, duty⟩) :
    Carries delivery value ⟨s, duty⟩ ⟨s', duty⟩ :=
  ⟨h.accounted ho hx, h.persists⟩

theorem of_sameInbox (h : SameInbox s s') : Untouched delivery s s' where
  role := h.node.role
  totalNodes := h.node.totalNodes
  id := h.node.id
  sessionId := h.node.sessionId
  ownReceiverId := h.ownReceiverId
  receiveId := h.receiveId
  shares := by rw [h.node.receivedShares]
  commitments := by rw [h.node.receivedCommitments]
  pending := by rw [h.pendingShares]
  recorded := by rw [h.receivedShares]
  processed := by rw [h.processed]
  keyed e p hp := .inl (by rwa [h.pendingShares] at hp)

theorem receiveShare_of_not_accepts [Field F] [AddCommGroup E] [Module F E] [DecidableEq E]
    [Curve E] {share : DistributedShare F}
    (h : ¬s.node.AcceptsShare share) :
    Untouched delivery s (s.receiveShare share).1 ∧ (s.receiveShare share).2 ≠ .ok () := by
  obtain ⟨complaints, e, he⟩ := DKGNode.receiveShare_of_not_accepts h
  unfold Session.receiveShare
  rw [he]
  exact ⟨⟨⟨rfl, rfl, rfl, rfl, rfl, .inl rfl⟩, rfl, rfl, rfl, Iff.rfl, Iff.rfl,
    fun _ _ h => .inl h⟩, nofun⟩

theorem receiveShare [Field F] [AddCommGroup E] [Module F E] [DecidableEq E] [Curve E]
    {share : DistributedShare F} (hne : share.fromId ≠ delivery.fromNodeId) :
    Untouched delivery s (s.receiveShare share).1 := by
  by_cases hacc : s.node.AcceptsShare share
  · unfold Session.receiveShare
    rw [DKGNode.receiveShare_of_accepts hacc]
    exact ⟨⟨rfl, rfl, rfl, rfl, rfl, .inl rfl⟩, AList.lookup_insert_ne hne.symm, rfl, rfl, Iff.rfl,
      Iff.rfl, fun _ _ h => .inl h⟩
  · exact (receiveShare_of_not_accepts hacc).1

theorem recordReceivedShare {e : ℕ} (hne : e ≠ delivery.fromNodeId) :
    Untouched delivery s (s.recordReceivedShare e) := by
  unfold Session.recordReceivedShare
  split
  · exact refl s
  · refine ⟨⟨rfl, rfl, rfl, rfl, rfl, .inl rfl⟩, rfl, rfl, rfl, ?_, Iff.rfl, fun _ _ h => .inl h⟩
    simp [hne.symm]

theorem storePendingShare {p : PendingShare F} (hne : p.share.fromId ≠ delivery.fromNodeId) :
    Untouched delivery s (s.storePendingShare p) := by
  unfold Session.storePendingShare
  split
  · exact refl s
  · refine ⟨⟨rfl, rfl, rfl, rfl, rfl, .inl rfl⟩, rfl, rfl, AList.lookup_insert_ne hne.symm, Iff.rfl,
      Iff.rfl, fun e p' hp' => ?_⟩
    by_cases heq : e = p.share.fromId
    · subst heq
      rw [AList.lookup_insert] at hp'
      cases hp'
      exact .inr rfl
    · rw [AList.lookup_insert_ne heq] at hp'
      exact .inl hp'

theorem takePendingShare {e : ℕ} (hne : e ≠ delivery.fromNodeId) :
    Untouched delivery s (s.takePendingShare e).1 := by
  refine ⟨⟨rfl, rfl, rfl, rfl, rfl, .inl rfl⟩, rfl, rfl, AList.lookup_erase_ne hne.symm, Iff.rfl,
    Iff.rfl, fun e' p hp => .inl ?_⟩
  have hmem := AList.mem_erase.mp (mem_of_lookup hp)
  exact (AList.lookup_erase_ne hmem.1).symm.trans hp

theorem receiveCommitment {e : ℕ} (hne : e ≠ delivery.fromNodeId) (c : PolynomialCommitment E) :
    Untouched delivery s (s.receiveCommitment e c).1 := by
  unfold Session.receiveCommitment
  dsimp only
  split
  · exact refl s
  by_cases hacc : s.node.AcceptsCommitment e c
  · rw [DKGNode.receiveCommitment_of_accepts hacc]
    exact ⟨⟨rfl, rfl, rfl, rfl, rfl, .inl rfl⟩, rfl, AList.lookup_insert_ne hne.symm, rfl, Iff.rfl,
      Iff.rfl, fun _ _ h => .inl h⟩
  · obtain ⟨error, he⟩ := DKGNode.receiveCommitment_of_not_accepts hacc
    rw [he]
    exact refl s

theorem elsewhere {receivedHashes pendingCommitments : AList fun _ : ℕ => Bytes}
    {processing : List MessageId} :
    Untouched delivery s { s with receivedHashes, pendingCommitments, processing } :=
  ⟨⟨rfl, rfl, rfl, rfl, rfl, .inl rfl⟩, rfl, rfl, rfl, Iff.rfl, Iff.rfl, fun _ _ h => .inl h⟩

theorem recordCommitmentHash (e : ℕ) (commitmentHash : Bytes) :
    Untouched delivery s (s.recordCommitmentHash e commitmentHash).1 := by
  unfold Session.recordCommitmentHash
  split
  · exact refl s
  split
  · exact refl s
  · exact elsewhere

theorem parkCommitment (e : ℕ) (commitment : Bytes) :
    Untouched delivery s (s.parkCommitment e commitment) := by
  unfold Session.parkCommitment
  split
  · exact refl s
  · exact elsewhere

theorem unparkCommitment (e : ℕ) : Untouched delivery s
    { s with pendingCommitments := s.pendingCommitments.erase e } :=
  elsewhere

theorem claimTransportMessage (messageId : MessageId) :
    Untouched delivery s (s.claimTransportMessage messageId).1 := by
  unfold Session.claimTransportMessage
  split
  · exact refl s
  split
  · exact refl s
  · exact elsewhere

theorem finishTransportMessage {messageId : MessageId} (hne : messageId ≠ delivery.messageId)
    (success : Bool) : Untouched delivery s (s.finishTransportMessage messageId success) := by
  refine ⟨⟨rfl, rfl, rfl, rfl, rfl, .inl rfl⟩, rfl, rfl, rfl, Iff.rfl, ?_, fun _ _ h => .inl h⟩
  simp only [Session.finishTransportMessage]
  split
  · simp [hne.symm]
  · exact Iff.rfl

end Untouched

/-! ## The steps of the share -/

theorem Kept.update (h : Kept delivery ⟨s, duty⟩) (hk : duty k ≠ .replay) (t : Duty)
    (hshares : s'.node.receivedShares = s.node.receivedShares)
    (hpending : s'.pendingShares = s.pendingShares) :
    Kept delivery ⟨s', Function.update duty k t⟩ := by
  rcases h with hmem | hmem | hreplay
  · exact .inl (hshares ▸ hmem)
  · exact .inr (.inl (hpending ▸ hmem))
  · exact .inr (.inr (exists_update (P := (· = Duty.replay)) hreplay (absurd · hk)))

variable [Field F] [AddCommGroup E] [Module F E] [DecidableEq E] [Curve E]

/-- The commitment is looked for last. -/
theorem addressed_of_commitmentMissing {missing : ℕ}
    (hown : s.ownReceiverId = .ok delivery.toNodeId)
    (h : (s.receiveShare (delivered delivery value s)).2 = .error (.commitmentMissing missing)) :
    Addressed delivery s := by
  have hnode : (s.node.receiveShare (delivered delivery value s)).2 =
      .error (.commitmentMissing missing) := h
  simp only [DKGNode.receiveShare, DKGNode.refuse] at hnode
  split at hnode
  · cases hnode
  split at hnode
  · cases hnode
  split at hnode
  · cases hnode
  split at hnode
  · cases hnode
  split at hnode
  · cases hnode
  next hrole hrange hself _ hto =>
    have hrange' : ¬(delivery.fromNodeId = 0 ∨ delivery.fromNodeId > asU32 s.node.totalNodes) :=
      hrange
    refine ⟨hrole, by omega, by omega, fun hs hid => hself ⟨hs, hid⟩, not_not.mp hto, hown⟩

theorem accepts_of_addressed (hx : Accounted delivery value ⟨s, duty⟩)
    (haddressed : Addressed delivery s)
    (hreceived : delivery.fromNodeId ∈ s.node.receivedCommitments)
    (hnew : delivery.fromNodeId ∉ s.node.receivedShares) :
    s.node.AcceptsShare (delivered delivery value s) := by
  obtain ⟨c, hc⟩ := exists_lookup hreceived
  exact ⟨haddressed.role, haddressed.pos, haddressed.le, haddressed.not_self, hnew,
    haddressed.toId, rfl, c, hc, hx.verifies c hc⟩

section Steps

variable (hx : Accounted delivery value ⟨s, duty⟩)

include hx

theorem receiveShare_accounted (hacc : s.node.AcceptsShare (delivered delivery value s))
    (hk : duty k ≠ .drain)
    (ho : Orderly delivery value s (s.receiveShare (delivered delivery value s)).1) :
    (s.receiveShare (delivered delivery value s)).2 = .ok () ∧
      delivery.fromNodeId ∈ (s.receiveShare (delivered delivery value s)).1.node.receivedShares ∧
      Carries delivery value ⟨s, duty⟩ ⟨(s.receiveShare (delivered delivery value s)).1,
        Function.update duty k .record⟩ := by
  have heq : s.receiveShare (delivered delivery value s) = ({ s with node := { s.node with
      receivedShares := s.node.receivedShares.insert delivery.fromNodeId value } }, .ok ()) := by
    unfold Session.receiveShare
    rw [DKGNode.receiveShare_of_accepts hacc]
    rfl
  rw [heq] at ho ⊢
  have hmem : delivery.fromNodeId ∈ s.node.receivedShares.insert delivery.fromNodeId value :=
    (AList.mem_insert _).mpr (.inl rfl)
  have hplace : SamePlace s { s with node := { s.node with
      receivedShares := s.node.receivedShares.insert delivery.fromNodeId value } } :=
    ⟨rfl, rfl, rfl, rfl, rfl, .inl rfl⟩
  refine ⟨rfl, hmem, ⟨ho.live, ho.selected, ho.verifies, ?_, ?_, hx.keyed, fun _ => .inl hmem⟩,
    hplace, fun h => h, fun h => h, fun _ => .inl hmem⟩
  · intro v hv
    have hv' : (s.node.receivedShares.insert delivery.fromNodeId value).lookup
        delivery.fromNodeId = some v := hv
    rw [AList.lookup_insert] at hv'
    exact ⟨(Option.some.inj hv').symm, .inr ⟨k, Function.update_self ..⟩⟩
  · intro p hp
    obtain ⟨hshare, haddressed, hdrain⟩ := hx.pending p hp
    exact ⟨hshare, hplace.addressed haddressed,
      fun hc => exists_update (P := (· = Duty.drain)) (hdrain hc) (absurd · hk)⟩

/-- The share has reached the node before; there is nothing left to do for it. -/
theorem drop_accounted (hmem : delivery.fromNodeId ∈ s.node.receivedShares)
    (hk : duty k = .replay) (h : Untouched delivery s s') (ho : Orderly delivery value s s') :
    Carries delivery value ⟨s, duty⟩ ⟨s', Function.update duty k .nothing⟩ := by
  have hmem' := (mem_iff_of_lookup_eq h.shares).mpr hmem
  have hx' := h.accounted ho hx
  refine ⟨⟨ho.live, ho.selected, ho.verifies, ?_, ?_, hx'.keyed, fun _ => .inl hmem'⟩,
    h.toSamePlace, h.persists.received, h.processed.mpr, fun _ => .inl hmem'⟩
  · intro v hv
    obtain ⟨hvalue, hrecorded⟩ := hx'.accepted v hv
    exact ⟨hvalue, hrecorded.imp_right fun hrecord => exists_update (P := (· = Duty.record)) hrecord
      (by simp [hk])⟩
  · intro p hp
    obtain ⟨hshare, haddressed, hdrain⟩ := hx'.pending p hp
    exact ⟨hshare, haddressed,
      fun hc => exists_update (P := (· = Duty.drain)) (hdrain hc) (by simp [hk])⟩

theorem recordReceivedShare_accounted (hk : duty k = .record)
    (ho : Orderly delivery value s (s.recordReceivedShare delivery.fromNodeId)) :
    Carries delivery value ⟨s, duty⟩ ⟨s.recordReceivedShare delivery.fromNodeId,
      Function.update duty k .nothing⟩ := by
  have hrecorded : delivery.fromNodeId ∈
      (s.recordReceivedShare delivery.fromNodeId).receivedShares := by
    unfold Session.recordReceivedShare
    split
    · assumption
    · simp
  have hsame : ∃ receivedShares sharesReceived, s.recordReceivedShare delivery.fromNodeId =
      { s with receivedShares := receivedShares, sharesReceived := sharesReceived } := by
    unfold Session.recordReceivedShare
    split
    · exact ⟨s.receivedShares, s.sharesReceived, rfl⟩
    · exact ⟨_, _, rfl⟩
  obtain ⟨receivedShares, sharesReceived, heq⟩ := hsame
  rw [heq] at ho hrecorded ⊢
  have hplace : SamePlace s { s with
      receivedShares := receivedShares, sharesReceived := sharesReceived } :=
    ⟨rfl, rfl, rfl, rfl, rfl, .inl rfl⟩
  have hk' : duty k ≠ .replay := by simp [hk]
  refine ⟨⟨ho.live, ho.selected, ho.verifies, ?_, ?_, hx.keyed,
    fun h => (hx.processed h).update hk' _ rfl rfl⟩, hplace, fun h => h, fun h => h,
    fun h => h.update hk' _ rfl rfl⟩
  · exact fun v hv => ⟨(hx.accepted v hv).1, .inl hrecorded⟩
  · intro p hp
    obtain ⟨hshare, haddressed, hdrain⟩ := hx.pending p hp
    exact ⟨hshare, hplace.addressed haddressed,
      fun hc => exists_update (P := (· = Duty.drain)) (hdrain hc) (by simp [hk])⟩

/-- A share is only parked when its dealer's commitment is not there, so nobody has to take it
out. -/
theorem storePendingShare_accounted (haddressed : Addressed delivery s) (evidence : Option Bytes)
    (ho : Orderly delivery value s
      (s.storePendingShare ⟨delivered delivery value s, evidence⟩)) :
    Carries delivery value ⟨s, duty⟩
        ⟨s.storePendingShare ⟨delivered delivery value s, evidence⟩, duty⟩ ∧
      Kept delivery ⟨s.storePendingShare ⟨delivered delivery value s, evidence⟩, duty⟩ := by
  unfold Session.storePendingShare at ho ⊢
  by_cases hparked : delivery.fromNodeId ∈ s.pendingShares
  · have hif : (delivered delivery value s).fromId ∈ s.pendingShares := hparked
    simp only [hif, if_true]
    exact ⟨⟨hx, .refl _⟩, .inr (.inl hparked)⟩
  · have hif : (delivered delivery value s).fromId ∉ s.pendingShares := hparked
    simp only [hif, if_false] at ho ⊢
    have hmem : delivery.fromNodeId ∈ s.pendingShares.insert
        (delivered delivery value s).fromId ⟨delivered delivery value s, evidence⟩ :=
      (AList.mem_insert _).mpr (.inl rfl)
    have hmissing : delivery.fromNodeId ∉ s.node.receivedCommitments :=
      fun hc => hparked (ho.inTime hmem hc)
    have hplace : ∀ pendingShares, SamePlace s { s with pendingShares := pendingShares } :=
      fun _ => ⟨rfl, rfl, rfl, rfl, rfl, .inl rfl⟩
    refine ⟨⟨⟨ho.live, ho.selected, ho.verifies, hx.accepted, ?_, ?_, fun _ => .inr (.inl hmem)⟩,
      hplace _, fun h => h, fun h => h, fun _ => .inr (.inl hmem)⟩, .inr (.inl hmem)⟩
    · intro p hp
      have hp' : (s.pendingShares.insert delivery.fromNodeId
          (⟨delivered delivery value s, evidence⟩ : PendingShare F)).lookup delivery.fromNodeId =
            some p := hp
      rw [AList.lookup_insert] at hp'
      cases hp'
      exact ⟨rfl, (hplace _).addressed haddressed, fun hc => absurd hc hmissing⟩
    · intro e p hp
      by_cases heq : e = (delivered delivery value s).fromId
      · subst heq
        have hp' := (AList.lookup_insert s.pendingShares).symm.trans hp
        cases hp'
        rfl
      · exact hx.keyed e p ((AList.lookup_insert_ne heq).symm.trans hp)

omit [Field F] [AddCommGroup E] [Module F E] [DecidableEq E] [Curve E] in
omit hx in
theorem receiveCommitment_of_error {e : ℕ} {c : PolynomialCommitment E} {error : DkgError}
    (h : (s.receiveCommitment e c).2 = .error error) : (s.receiveCommitment e c).1 = s := by
  unfold Session.receiveCommitment at h ⊢
  dsimp only at h ⊢
  split
  · rfl
  next hprepared =>
    rw [if_neg hprepared] at h
    by_cases hacc : s.node.AcceptsCommitment e c
    · rw [DKGNode.receiveCommitment_of_accepts hacc] at h
      cases h
    · obtain ⟨refusal, he⟩ := DKGNode.receiveCommitment_of_not_accepts hacc
      rw [he]

/-- Whoever receives the commitment has to take the parked share out. -/
theorem receiveCommitment_accounted (hk : duty k = .nothing) {c : PolynomialCommitment E}
    {needToGenerate : Bool}
    (hok : (s.receiveCommitment delivery.fromNodeId c).2 = .ok needToGenerate)
    (ho : Orderly delivery value s (s.receiveCommitment delivery.fromNodeId c).1) :
    Carries delivery value ⟨s, duty⟩ ⟨(s.receiveCommitment delivery.fromNodeId c).1,
        Function.update duty k .drain⟩ ∧
      delivery.fromNodeId ∈
        (s.receiveCommitment delivery.fromNodeId c).1.node.receivedCommitments := by
  have heq : (s.receiveCommitment delivery.fromNodeId c).1 = { s with
      node := { s.node with receivedCommitments :=
        s.node.receivedCommitments.insert delivery.fromNodeId c }
      commitmentsReceived := s.commitmentsReceived + 1 } := by
    unfold Session.receiveCommitment at hok ⊢
    dsimp only at hok ⊢
    split at hok
    · cases hok
    next hprepared =>
      rw [if_neg hprepared]
      by_cases hacc : s.node.AcceptsCommitment delivery.fromNodeId c
      · rw [DKGNode.receiveCommitment_of_accepts hacc]
      · obtain ⟨e, he⟩ := DKGNode.receiveCommitment_of_not_accepts hacc
        rw [he] at hok
        cases hok
  rw [heq] at ho ⊢
  have hplace : SamePlace s { s with
      node := { s.node with receivedCommitments :=
        s.node.receivedCommitments.insert delivery.fromNodeId c }
      commitmentsReceived := s.commitmentsReceived + 1 } := ⟨rfl, rfl, rfl, rfl, rfl, .inl rfl⟩
  have hmem : delivery.fromNodeId ∈ s.node.receivedCommitments.insert delivery.fromNodeId c :=
    (AList.mem_insert _).mpr (.inl rfl)
  have hk' : duty k ≠ .replay := by simp [hk]
  refine ⟨⟨⟨ho.live, ho.selected, ho.verifies, ?_, ?_, hx.keyed,
    fun h => (hx.processed h).update hk' _ rfl rfl⟩, hplace, fun _ => hmem, fun h => h,
    fun h => h.update hk' _ rfl rfl⟩, hmem⟩
  · intro v hv
    obtain ⟨hvalue, hrecorded⟩ := hx.accepted v hv
    exact ⟨hvalue, hrecorded.imp_right fun hrecord => exists_update (P := (· = Duty.record)) hrecord
      (by simp [hk])⟩
  · intro p hp
    obtain ⟨hshare, haddressed, -⟩ := hx.pending p hp
    exact ⟨hshare, hplace.addressed haddressed, fun _ => ⟨k, Function.update_self ..⟩⟩

theorem takePendingShare_accounted (hk : duty k = .drain)
    (ho : Orderly delivery value s (s.takePendingShare delivery.fromNodeId).1) :
    Carries delivery value ⟨s, duty⟩ ⟨(s.takePendingShare delivery.fromNodeId).1,
      Function.update duty k
        (if delivery.fromNodeId ∈ s.pendingShares then .replay else .nothing)⟩ := by
  have hplace : SamePlace s (s.takePendingShare delivery.fromNodeId).1 :=
    ⟨rfl, rfl, rfl, rfl, rfl, .inl rfl⟩
  have hkept : Kept delivery ⟨s, duty⟩ → Kept delivery
      ⟨(s.takePendingShare delivery.fromNodeId).1, Function.update duty k
        (if delivery.fromNodeId ∈ s.pendingShares then .replay else .nothing)⟩ := by
    rintro (hmem | hmem | hreplay)
    · exact .inl hmem
    · have hmem' : delivery.fromNodeId ∈ s.pendingShares := hmem
      rw [if_pos hmem']
      exact .inr (.inr ⟨k, Function.update_self ..⟩)
    · exact .inr (.inr (exists_update (P := (· = Duty.replay)) hreplay (by simp [hk])))
  refine ⟨⟨ho.live, ho.selected, ho.verifies, ?_, ?_, ?_, fun h => hkept (hx.processed h)⟩,
    hplace, fun h => h, fun h => h, hkept⟩
  · intro v hv
    obtain ⟨hvalue, hrecorded⟩ := hx.accepted v hv
    exact ⟨hvalue, hrecorded.imp_right fun hrecord => exists_update (P := (· = Duty.record)) hrecord
      (by simp [hk])⟩
  · intro p hp
    exact absurd rfl (AList.mem_erase.mp (mem_of_lookup hp)).1
  · intro e p hp
    have hmem := AList.mem_erase.mp (mem_of_lookup hp)
    exact hx.keyed e p ((AList.lookup_erase_ne hmem.1).symm.trans hp)

theorem finishTransportMessage_accounted {success : Bool}
    (hkept : success → Kept delivery ⟨s, duty⟩)
    (ho : Orderly delivery value s (s.finishTransportMessage delivery.messageId success)) :
    Carries delivery value ⟨s, duty⟩
        ⟨s.finishTransportMessage delivery.messageId success, duty⟩ ∧
      (success → delivery.messageId ∈
        (s.finishTransportMessage delivery.messageId success).processed) := by
  have hplace : SamePlace s (s.finishTransportMessage delivery.messageId success) :=
    ⟨rfl, rfl, rfl, rfl, rfl, .inl rfl⟩
  refine ⟨⟨⟨ho.live, ho.selected, ho.verifies, hx.accepted, fun p hp => ?_, hx.keyed,
    fun hmem => ?_⟩, hplace, fun h => h, fun hmem => ?_, fun h => h⟩, fun hsuccess => ?_⟩
  · obtain ⟨hshare, haddressed, hdrain⟩ := hx.pending p hp
    exact ⟨hshare, hplace.addressed haddressed, hdrain⟩
  · by_cases hold : delivery.messageId ∈ s.processed
    · exact hx.processed hold
    · by_cases hsuccess : success
      · exact hkept hsuccess
      · simp [Session.finishTransportMessage, hsuccess, hold] at hmem
  · have hmem' : delivery.messageId ∈ s.processed := hmem
    simp [Session.finishTransportMessage, hmem']
  · by_cases hold : delivery.messageId ∈ s.processed
    · simp [Session.finishTransportMessage, hold]
    · simp [Session.finishTransportMessage, hold, hsuccess]

end Steps

end Orbis.Node.Dkg
