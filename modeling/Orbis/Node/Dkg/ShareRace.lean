import Orbis.Node.Dkg.CommitReveal
import Orbis.Node.Dkg.ShareLedger

/-!
# A share and its commitment in any order

The triples of the handlers for the ledger of one share, and what follows for every run: once the
handlers of the dealer's messages have finished, the share has been accepted and recorded.  This
needs that the share is not parked after the commitment has been received; the last section has a
run in which it is.
-/

namespace Orbis.Node.Dkg

open Orbis.Crypto Orbis.Crypto.Dkg Orbis.Data Orbis.Transition

def Input.isFrom (d : ℕ) : Input → Prop
  | .contribution _ c => c.origin.nodeId = d
  | .share _ delivery => delivery.fromNodeId = d
  | _ => False

instance (d : ℕ) : DecidablePred (Input.isFrom d)
  | .begin => .isFalse fun h => h
  | .contribution _ c => inferInstanceAs (Decidable (c.origin.nodeId = d))
  | .share _ delivery => inferInstanceAs (Decidable (delivery.fromNodeId = d))
  | .shareAck .. => .isFalse fun h => h

section

variable {F E : Type} [Field F] [AddCommGroup E] [Module F E] [DecidableEq E] [Curve E]

variable (delivery : ShareDelivery) (value : F)

def shareRound : Shared (Session F E) (Ledger F E) where
  proj := Ledger.session
  invariant := Accounted delivery value
  allowed := Orderly delivery value

/-- A handler changes only its own duty, and only if it handles a message of the dealer. -/
def dutyContract (input : Input) (k : ℕ) : Contract (Ledger F E) where
  rely x y := y.duty k = x.duty k ∧ Persists delivery x y
  guar x y := (∀ j, j ≠ k → y.duty j = x.duty j) ∧
    (¬input.isFrom delivery.fromNodeId → y.duty k = x.duty k) ∧ Persists delivery x y
  refl x := ⟨rfl, .refl x⟩
  trans h h' := ⟨h'.1.trans h.1, h.2.trans h'.2⟩

def watch (input : Input) (k : ℕ) : Interference (Session F E) (Ledger F E) :=
  ⟨shareRound delivery value, dutyContract delivery input k⟩

variable {delivery value} {input : Input} {k : ℕ}

/-! ## What is stable -/

theorem stable_duty (t : Duty) :
    (watch (E := E) delivery value input k).Stable fun x => x.duty k = t :=
  fun _ _ _ hx hrely => hrely.1.trans hx

variable (E) in
/-- The handler has nothing to do for the share. -/
abbrev NoDuty (k : ℕ) (x : Ledger F E) : Prop := x.duty k = .nothing

theorem stable_noDuty : (watch (E := E) delivery value input k).Stable (NoDuty E k) :=
  stable_duty .nothing

theorem stable_received :
    (watch (E := E) delivery value input k).Stable fun x =>
      delivery.fromNodeId ∈ x.session.node.receivedCommitments :=
  fun _ _ _ hx hrely => hrely.2.received hx

theorem stable_kept : (watch (E := E) delivery value input k).Stable (Kept delivery) :=
  fun _ _ _ hx hrely => hrely.2.kept hx

theorem stable_processed :
    (watch (E := E) delivery value input k).Stable fun x =>
      delivery.messageId ∈ x.session.processed :=
  fun _ _ _ hx hrely => hrely.2.processed hx

theorem stable_ownReceiverId (j : ℕ) :
    (watch (E := E) delivery value input k).Stable fun x => x.session.ownReceiverId = .ok j :=
  fun _ _ _ hx hrely => hrely.2.place.ownReceiverId.trans hx

variable (delivery value) in
/-- What the node's answer to the share says. -/
structure Answered (k : ℕ) (r : DistributedShare F × Except CryptoError Unit)
    (x : Ledger F E) : Prop where
  share : r.1 = delivered delivery value x.session
  accepted : r.2 = .ok () → x.duty k = .record ∧ Kept delivery x
  missing : ∀ d, r.2 = .error (.commitmentMissing d) →
    NoDuty E k x ∧ Addressed delivery x.session

theorem stable_answered (r : DistributedShare F × Except CryptoError Unit) :
    (watch (E := E) delivery value input k).Stable (Answered delivery value k r) := by
  intro x y _ hx hrely
  refine ⟨hx.share.trans hrely.2.place.delivered.symm, fun hok => ?_, fun d hmissing => ?_⟩
  · obtain ⟨hduty, hkept⟩ := hx.accepted hok
    exact ⟨hrely.1.trans hduty, hrely.2.kept hkept⟩
  · obtain ⟨hduty, haddressed⟩ := hx.missing d hmissing
    exact ⟨hrely.1.trans hduty, hrely.2.place.addressed haddressed⟩

variable (delivery value) in
/-- The share has been taken out, and the node has what it needs to accept it. -/
structure Replayable (k : ℕ) (pending : PendingShare F) (x : Ledger F E) : Prop where
  duty : x.duty k = .replay
  share : pending.share = delivered delivery value x.session
  addressed : Addressed delivery x.session
  received : delivery.fromNodeId ∈ x.session.node.receivedCommitments

theorem stable_replayable (pending : PendingShare F) :
    (watch (E := E) delivery value input k).Stable (Replayable delivery value k pending) :=
  fun _ _ _ h hrely => ⟨hrely.1.trans h.duty, h.share.trans hrely.2.place.delivered.symm,
    hrely.2.place.addressed h.addressed, hrely.2.received h.received⟩

/-! ## Rules -/

section Rules

variable {α : Type} {fact : Ledger F E → Prop}

variable {f : Env F → Session F E → Session F E × Except DkgError α} {post : α → Ledger F E → Prop}

/-- One step under the lock: the handler's new duty is `t`. -/
theorem outcome_locked {pre err : Ledger F E → Prop}
    (hpre : (watch delivery value input k).Stable pre)
    (hpost : ∀ a, (watch delivery value input k).Stable (post a))
    (herr : (watch delivery value input k).Stable err)
    (h : ∀ w s duty, Accounted delivery value ⟨s, duty⟩ → pre ⟨s, duty⟩ →
      Orderly delivery value s (f w s).1 → ∃ t, (t = duty k ∨ input.isFrom delivery.fromNodeId) ∧
        Carries delivery value ⟨s, duty⟩ ⟨(f w s).1, Function.update duty k t⟩ ∧
        (∀ a, (f w s).2 = .ok a → post a ⟨(f w s).1, Function.update duty k t⟩) ∧
        ∀ e, (f w s).2 = .error e → err ⟨(f w s).1, Function.update duty k t⟩) :
    (watch delivery value input k).Outcome pre (locked f) post err := by
  apply Interference.Ends.atomically hpre hpost fun _ => herr
  rintro w ⟨s, duty⟩ hx hfact hallowed
  have hlive : s.live := hx.live
  have heq : (if s.live then f w s else
      let id := s.node.sessionId
      (s, .error (.sessionNotFound s!"DKG session {id} not found"))) = f w s := if_pos hlive
  have hallowed' : Orderly delivery value s (f w s).1 := heq ▸ hallowed
  obtain ⟨t, ht, ⟨hy, hpersists⟩, hok, herror⟩ := h w s duty hx hfact hallowed'
  have hguar : (watch delivery value input k).guar ⟨s, duty⟩
      ⟨(f w s).1, Function.update duty k t⟩ := by
    refine ⟨fun j hj => Function.update_of_ne hj .., fun hnot => ?_, hpersists⟩
    rcases ht with rfl | hfrom
    · exact Function.update_self ..
    · exact absurd hfrom hnot
  refine ⟨⟨(f w s).1, Function.update duty k t⟩, ?_, hy, hguar, ?_⟩
  · exact (congrArg Prod.fst heq).symm
  · exact ⟨fun a ha => hok a ((congrArg Prod.snd heq).symm.trans ha),
      fun e he => herror e ((congrArg Prod.snd heq).symm.trans he)⟩

/-- Steps that do not concern the share. -/
theorem outcome_untouched {p : HandlerM F E α} (h : p.run.Keeps (Untouched delivery))
    (hstable : (watch delivery value input k).Stable fact) :
    (watch delivery value input k).Outcome fact p (fun _ => fact) fact := by
  apply Interference.Outcome.frame h hstable
  rintro ⟨s, duty⟩ s' hx hfact huntouched hallowed
  obtain ⟨hy, hpersists⟩ := huntouched.carries hallowed hx
  exact ⟨⟨s', duty⟩, rfl, hy, ⟨fun _ _ => rfl, fun _ => rfl, hpersists⟩,
    hstable _ _ hx hfact ⟨rfl, hpersists⟩⟩

theorem triple_untouched {p : HandlerM F E α} (h : p.run.Keeps (Untouched delivery))
    (hstable : (watch delivery value input k).Stable fact) :
    (watch delivery value input k).Triple fact p fun _ => fact :=
  (outcome_untouched h hstable).triple

theorem triple_locked_untouched (hpre : (watch delivery value input k).Stable fact)
    (hpost : ∀ a, (watch delivery value input k).Stable (post a))
    (h : ∀ w s, Untouched delivery s (f w s).1)
    (hresult : ∀ w s duty a, Accounted delivery value ⟨s, duty⟩ → fact ⟨s, duty⟩ →
      (f w s).2 = .ok a → fact ⟨(f w s).1, duty⟩ → post a ⟨(f w s).1, duty⟩) :
    (watch delivery value input k).Triple fact (locked f) post := by
  apply outcome_locked hpre hpost Interference.stable_true
  intro w s duty hx hfact ho
  refine ⟨duty k, .inl rfl, ?_⟩
  rw [Function.update_eq_self]
  have hcarries := (h w s).carries ho hx
  exact ⟨hcarries,
    fun a ha => hresult w s duty a hx hfact ha (hpre _ _ hx hfact ⟨rfl, hcarries.2⟩),
    fun _ _ => trivial⟩

end Rules

/-! ## Where a run starts and ends -/

theorem accounted_new {kind : SessionKind} {node : DKGNode F E}
    {id threshold totalNodes sessionId : ℕ} {role : DkgRole}
    (hnode : DKGNode.new id threshold totalNodes sessionId role = .ok node)
    {reshare : Option (ReshareState F)}
    (hselected : ∀ r, reshare = some r → r.selectedDealers = none)
    (peerIds : List String) (routes activeDealers : List ℕ) :
    Accounted delivery value
      ⟨Session.new kind node reshare peerIds routes activeDealers, fun _ => .nothing⟩ := by
  obtain ⟨-, rfl⟩ := DKGNode.new_eq_ok.mp hnode
  have hempty : ∀ {α : Type} (d : ℕ) (a : α), (∅ : AList fun _ : ℕ => α).lookup d ≠ some a := by
    simp
  refine ⟨rfl, ?_, ?_, ?_, ?_, ?_, fun hmem => by cases hmem⟩
  · rintro ⟨-, hexcluded⟩
    cases reshare with
    | none => cases hexcluded
    | some r => simp [Session.selectedDealers, Session.new, hselected r rfl] at hexcluded
  · exact fun c hc => absurd hc (hempty _ c)
  · exact fun v hv => absurd hv (hempty _ v)
  · exact fun p hp => absurd hp (hempty _ p)
  · exact fun e p hp => absurd hp (hempty e p)

/-- When every handler of a message of the dealer has finished without an error, no handler has a
duty. -/
theorem duties_done {x₀ z : Ledger F E} {pool : Attempt F E} (hinv : Accounted delivery value x₀)
    (hstart : ∀ k, x₀.duty k = .nothing)
    (hreached : pool.Reached (shareRound delivery value) (dutyContract delivery)
      (fun input k _ x => x.duty k = .nothing ∧
        ((∃ polls, input = .share polls delivery) → delivery.messageId ∈ x.session.processed))
      x₀ z)
    (hsteps : Relation.ReflTransGen (fun x y => ∃ i k t, pool.tasks[k]? = some (i, t) ∧
      (dutyContract delivery i k).guar x y) x₀ z)
    (hfinished : ∀ entry ∈ pool.tasks, entry.1.isFrom delivery.fromNodeId →
      entry.2.result = some (.ok ())) (k : ℕ) : z.duty k = .nothing := by
  cases hget : pool.tasks[k]? with
  | none =>
    have hk : pool.tasks.length ≤ k := List.getElem?_eq_none_iff.mp hget
    exact (hreached.unstarted hinv hk .begin).1.trans (hstart k)
  | some entry =>
    obtain ⟨input, t⟩ := entry
    by_cases hfrom : input.isFrom delivery.fromNodeId
    · have ht : t.result = some (.ok ()) := hfinished _ (List.mem_of_getElem? hget) hfrom
      have hresult : pool.result k = some (input, .ok ()) := by
        simp only [Pool.result, hget, Option.bind_some, ht, Option.map_some]
      exact (hreached.finished hresult).1
    · -- Only the handler itself could have taken a duty.
      clear hreached
      induction hsteps with
      | refl => exact hstart k
      | tail _ hstep ih =>
        obtain ⟨i, j, t', hget', hother, hown, -⟩ := hstep
        by_cases hjk : k = j
        · subst hjk
          rw [hget] at hget'
          cases hget'
          exact (hown hfrom).trans ih
        · exact (hother k hjk).trans ih

instance (s s' : Session F E) : Decidable (Orderly delivery value s s') :=
  decidable_of_iff
    (s'.live ∧ ¬(s'.kind = .reshare ∧ s'.selectedDealers.any (delivery.fromNodeId ∉ ·)) ∧
      ((s'.node.receivedCommitments.lookup delivery.fromNodeId).all
        fun c => c.verifyShare delivery.toNodeId value) ∧
      (delivery.fromNodeId ∈ s'.pendingShares →
        delivery.fromNodeId ∈ s.node.receivedCommitments → delivery.fromNodeId ∈ s.pendingShares))
    (by
      rw [Option.all_eq_true]
      exact ⟨fun ⟨hlive, hselected, hverifies, hinTime⟩ => ⟨hlive, hselected, hverifies, hinTime⟩,
        fun h => ⟨h.live, h.selected, h.verifies, h.inTime⟩⟩)

/-! ## Deliveries -/

omit [DecidableEq E] in
theorem untouched_steps [DecidableEq F] : DealingSteps (Untouched (F := F) (E := E) delivery)
    (Task.Keeps (ω := Env F) (Untouched delivery)) :=
  (SameInbox.dealingChanges.mono fun _ _ => Untouched.of_sameInbox).steps

variable {evidence : Option Bytes}

theorem rejectShare_eq_throw [Repr32 F] [Repr32 E] {toNodeId : ℕ} {shareValue : Bytes}
    (h : evidence.any (shareEvidenceProvesFailure (F := F) (E := E) toNodeId shareValue) = false)
    (e : DkgError) : rejectShare (F := F) (E := E) toNodeId shareValue evidence e = throw e := by
  unfold rejectShare
  rw [if_neg (by simp [h])]

theorem triple_verifyShareEvidence [DecidableEq F] {fact : Ledger F E → Prop}
    (hstable : (watch delivery value input k).Stable fact) (evidence : Option Bytes) :
    (watch delivery value input k).Triple fact (verifyShareEvidence evidence)
      fun r x => (r = none ∨ r = evidence) ∧ fact x := by
  refine (triple_untouched untouched_steps.external hstable).bind fun _ => ?_
  refine triple_locked_untouched hstable
    (fun r x y hx hfact hrely => ⟨hfact.1, hstable x y hx hfact.2 hrely⟩)
    (fun _ s => .refl s) fun _ s duty r _ _ hr hfact => ⟨?_, hfact⟩
  dsimp only at hr
  split at hr
  · cases hr
    exact .inl rfl
  · cases evidence with
    | none => cases hr
    | some evidence =>
      cases hr
      exact .inr rfl

/-- A delivery that is not claimed has been processed. -/
theorem triple_claimDelivery (polls : ℕ) :
    (watch delivery value input k).Triple (NoDuty E k) (claimMessage delivery.messageId polls)
      fun claimed x => NoDuty E k x ∧
        (claimed = false → delivery.messageId ∈ x.session.processed) := by
  have hpost : ∀ p : Prop, (watch (E := E) delivery value input k).Stable fun x =>
      NoDuty E k x ∧ (p → delivery.messageId ∈ x.session.processed) :=
    fun _ => stable_noDuty.and stable_processed.imp
  refine triple_claiming hpost (triple_locked_untouched stable_noDuty (fun _ => hpost _)
    (fun _ s => .claimTransportMessage _) fun _ s duty claim _ _ hclaim hduty => ⟨hduty, ?_⟩) polls
  rintro rfl
  unfold Session.claimTransportMessage at hclaim ⊢
  by_cases hmem : delivery.messageId ∈ s.processed
  · simp only [hmem, if_true]
  · by_cases hprocessing : delivery.messageId ∈ s.processing
    · simp [hmem, hprocessing] at hclaim
    · simp [hmem, hprocessing] at hclaim

theorem triple_finishDelivery {body : HandlerM F E Bool}
    (h : (watch delivery value input k).Triple (NoDuty E k) body
      fun _ x => NoDuty E k x ∧ Kept delivery x) :
    (watch delivery value input k).Triple (NoDuty E k) (finishing delivery.messageId body)
      fun _ x => NoDuty E k x ∧
        delivery.messageId ∈ x.session.processed := by
  apply Interference.Triple.afterwards h fun _ => stable_noDuty.and stable_processed
  rintro r ⟨s, duty⟩ hx hbody hallowed
  have hlive : s.live := hx.live
  have heq : (if s.live then s.finishTransportMessage delivery.messageId r.isOk else s) =
      s.finishTransportMessage delivery.messageId r.isOk := if_pos hlive
  have ho : Orderly delivery value s (s.finishTransportMessage delivery.messageId r.isOk) :=
    heq ▸ hallowed
  have hkept : r.isOk → Kept delivery (⟨s, duty⟩ : Ledger F E) := by
    intro hok
    cases r with
    | ok a => exact (hbody a rfl).2
    | error e => cases hok
  obtain ⟨⟨hy, hpersists⟩, hprocessed⟩ := finishTransportMessage_accounted hx hkept ho
  refine ⟨⟨s.finishTransportMessage delivery.messageId r.isOk, duty⟩, heq.symm, hy,
    ⟨fun _ _ => rfl, fun _ => rfl, hpersists⟩, fun a ha => ⟨(hbody a ha).1, hprocessed ?_⟩⟩
  rw [ha]
  rfl

theorem triple_finishing_other {α : Type} {messageId : MessageId}
    (hne : messageId ≠ delivery.messageId) {body : HandlerM F E α} {fact : Ledger F E → Prop}
    (h : (watch delivery value input k).Triple fact body fun _ => fact)
    (hstable : (watch delivery value input k).Stable fact) :
    (watch delivery value input k).Triple fact (finishing messageId body) fun _ => fact := by
  apply Interference.Triple.afterwards h fun _ => hstable
  rintro r ⟨s, duty⟩ hx hbody hallowed
  have huntouched : Untouched delivery s
      (if s.live then s.finishTransportMessage messageId r.isOk else s) := by
    split
    · exact .finishTransportMessage hne _
    · exact .refl s
  obtain ⟨hy, hpersists⟩ := huntouched.carries hallowed hx
  exact ⟨⟨_, duty⟩, rfl, hy, ⟨fun _ _ => rfl, fun _ => rfl, hpersists⟩,
    fun a ha => hstable _ _ hx (hbody a ha) ⟨rfl, hpersists⟩⟩

section Own

variable (hfrom : input.isFrom delivery.fromNodeId)

include hfrom

theorem outcome_recordReceivedShare {err : Ledger F E → Prop}
    (herr : (watch delivery value input k).Stable err) :
    (watch delivery value input k).Outcome (fun x => x.duty k = .record)
      (update (·.recordReceivedShare delivery.fromNodeId)) (fun _ => NoDuty E k)
      err := by
  apply outcome_locked (stable_duty .record) (fun _ => stable_duty .nothing) herr
  rintro w s duty hx hduty ho
  exact ⟨.nothing, .inr hfrom, recordReceivedShare_accounted hx hduty ho,
    fun _ _ => Function.update_self .., fun e he => by cases he⟩

theorem triple_recordReceivedShare :
    (watch (E := E) delivery value input k).Triple (fun x => x.duty k = .record ∧ Kept delivery x)
      (update (·.recordReceivedShare delivery.fromNodeId))
      fun _ x => NoDuty E k x ∧ Kept delivery x :=
  Interference.Triple.carry (outcome_recordReceivedShare hfrom Interference.stable_true)
    stable_kept fun _ _ _ hkept hguar => hguar.2.2.kept hkept

/-- The share that was taken out reaches the node, or it has reached it before. -/
theorem outcome_receiveReplayed (pending : PendingShare F) :
    (watch (E := E) delivery value input k).Outcome (Replayable delivery value k pending)
      (locked fun _ s =>
        let (s, outcome) := s.receiveShare pending.share
        (s, .ok outcome))
      (fun outcome x => pending.share.fromId = delivery.fromNodeId ∧
        (outcome = .ok () → x.duty k = .record) ∧ ∀ e, outcome = .error e → NoDuty E k x)
      (NoDuty E k) := by
  obtain ⟨share, evidence⟩ := pending
  apply outcome_locked (stable_replayable _)
    (fun outcome x y _ h hrely => ⟨h.1, fun hok => hrely.1.trans (h.2.1 hok),
      fun e he => hrely.1.trans (h.2.2 e he)⟩) stable_noDuty
  intro w s duty hx hreplay ho
  have hduty : duty k = .replay := hreplay.duty
  have hshare : share = delivered delivery value s := hreplay.share
  subst hshare
  by_cases hmem : delivery.fromNodeId ∈ s.node.receivedShares
  · have hnot : ¬s.node.AcceptsShare (delivered delivery value s) := fun hacc => hacc.fresh hmem
    obtain ⟨huntouched, hne⟩ := Untouched.receiveShare_of_not_accepts hnot
    refine ⟨.nothing, .inr hfrom, drop_accounted hx hmem hduty huntouched ho,
      fun outcome houtcome => ?_, fun _ _ => Function.update_self ..⟩
    cases houtcome
    exact ⟨rfl, fun hok => absurd hok hne, fun _ _ => Function.update_self ..⟩
  · have hacc : s.node.AcceptsShare (delivered delivery value s) :=
      accepts_of_addressed hx hreplay.addressed hreplay.received hmem
    obtain ⟨hok, -, hcarries⟩ := receiveShare_accounted hx hacc (k := k) (by simp [hduty]) ho
    refine ⟨.record, .inr hfrom, hcarries, fun outcome houtcome => ?_, fun e he => by cases he⟩
    refine ⟨rfl, fun _ => Function.update_self .., fun e he => ?_⟩
    cases houtcome
    cases hok.symm.trans he

variable [Repr32 F] [Repr32 E]

theorem triple_receiveOrQueueShare
    (hevidence : evidence.any (shareEvidenceProvesFailure (F := F) (E := E) delivery.toNodeId
      delivery.shareValue) = false) : (watch (E := E) delivery value input k).Triple
      (fun x => NoDuty E k x ∧ x.session.ownReceiverId = .ok delivery.toNodeId)
      (receiveOrQueueShare delivery value evidence)
      fun _ x => NoDuty E k x ∧ Kept delivery x := by
  have hanswer : (watch (E := E) delivery value input k).Triple
      (fun x => NoDuty E k x ∧ x.session.ownReceiverId = .ok delivery.toNodeId)
      (locked fun _ s =>
        let share : DistributedShare F :=
          ⟨delivery.fromNodeId, delivery.toNodeId, value, delivery.nonce, s.node.sessionId⟩
        ((s.receiveShare share).1, .ok (share, (s.receiveShare share).2)))
      (Answered delivery value k) := by
    apply outcome_locked (stable_noDuty.and (stable_ownReceiverId _)) stable_answered
      Interference.stable_true
    rintro w s duty hx ⟨hduty, hown⟩ ho
    have hnothing : duty k = .nothing := hduty
    by_cases hacc : s.node.AcceptsShare (delivered delivery value s)
    · obtain ⟨hok, hmem, hcarries⟩ :=
        receiveShare_accounted hx hacc (k := k) (by simp [hnothing]) ho
      refine ⟨.record, .inr hfrom, hcarries, fun r hr => ?_, fun _ _ => trivial⟩
      cases hr
      refine ⟨hcarries.2.place.delivered.symm, fun _ => ⟨Function.update_self .., .inl hmem⟩,
        fun d hd => ?_⟩
      cases hok.symm.trans hd
    · obtain ⟨huntouched, hne⟩ := Untouched.receiveShare_of_not_accepts hacc
      have hcarries := huntouched.carries ho hx
      refine ⟨duty k, .inl rfl, ?_⟩
      rw [Function.update_eq_self]
      refine ⟨hcarries, fun r hr => ?_, fun _ _ => trivial⟩
      cases hr
      refine ⟨hcarries.2.place.delivered.symm, fun hok => absurd hok hne,
        fun d hd => ⟨hnothing, ?_⟩⟩
      exact hcarries.2.place.addressed (addressed_of_commitmentMissing hown hd)
  refine hanswer.bind fun r => ?_
  obtain ⟨share, outcome⟩ := r
  dsimp only
  split
  next =>
    refine (Interference.Triple.mono (triple_recordReceivedShare hfrom)
      (fun _ _ h => h.accepted rfl) fun _ _ _ h => h).bind fun _ => ?_
    exact Interference.Triple.pure (fun _ _ h => h) (stable_noDuty.and stable_kept)
  next missing =>
    split
    next =>
      have hstore : (watch (E := E) delivery value input k).Triple
          (Answered delivery value k (share, .error (.commitmentMissing missing)))
          (update (·.storePendingShare ⟨share, evidence⟩))
          fun _ x => NoDuty E k x ∧ Kept delivery x := by
        apply outcome_locked (stable_answered _) (fun _ => stable_noDuty.and stable_kept)
          Interference.stable_true
        rintro w s duty hx hanswered ho
        obtain ⟨hduty, haddressed⟩ := hanswered.missing missing rfl
        have hshare : share = delivered delivery value s := hanswered.share
        subst hshare
        obtain ⟨hcarries, hkept⟩ := storePendingShare_accounted hx haddressed evidence ho
        refine ⟨duty k, .inl rfl, ?_⟩
        rw [Function.update_eq_self]
        exact ⟨hcarries, fun _ _ => ⟨hduty, hkept⟩, fun _ _ => trivial⟩
      exact hstore.bind fun _ =>
        Interference.Triple.pure (fun _ _ h => h) (stable_noDuty.and stable_kept)
    next =>
      rw [rejectShare_eq_throw hevidence]
      exact Interference.Triple.throw _
  next =>
    rw [rejectShare_eq_throw hevidence]
    exact Interference.Triple.throw _

variable [DecidableEq F]

variable (hvalue : (Fr.fromBytes delivery.shareValue : Except CryptoError F) = .ok value)
  (hevidence : delivery.evidence.any (shareEvidenceProvesFailure (F := F) (E := E)
    delivery.toNodeId delivery.shareValue) = false)

include hvalue hevidence

theorem triple_acceptShareMessage :
    (watch delivery value input k).Triple (NoDuty E k) (acceptShareMessage delivery)
      fun _ x => NoDuty E k x ∧ Kept delivery x := by
  have hown : (watch delivery value input k).Triple (NoDuty E k) (locked
      fun _ s => (s, s.ownReceiverId))
      fun j x => NoDuty E k x ∧ x.session.ownReceiverId = .ok j :=
    triple_locked_untouched stable_noDuty
      (fun j => stable_noDuty.and (stable_ownReceiverId j)) (fun _ s => .refl s)
      fun _ s duty j _ _ hj hduty => ⟨hduty, hj⟩
  refine hown.bind fun ourNodeId => ?_
  split
  · exact Interference.Triple.throw _
  next hto =>
    rw [← not_not.mp hto]
    have hfact : (watch (E := E) delivery value input k).Stable fun x =>
        NoDuty E k x ∧ x.session.ownReceiverId = .ok delivery.toNodeId :=
      stable_noDuty.and (stable_ownReceiverId _)
    have hignored : (watch (E := E) delivery value input k).Triple
        (fun x => NoDuty E k x ∧ x.session.ownReceiverId = .ok delivery.toNodeId)
        (inspect fun s => (s.kind = .reshare ∧
          s.selectedDealers.any (delivery.fromNodeId ∉ ·) : Bool))
        fun ignored x => ignored = false ∧ NoDuty E k x ∧
          x.session.ownReceiverId = .ok delivery.toNodeId := by
      refine triple_locked_untouched hfact
        (fun ignored x y hx h hrely => ⟨h.1, hfact x y hx h.2 hrely⟩) (fun _ s => .refl s)
        fun _ s duty ignored hx _ hignored h => ⟨?_, h⟩
      cases hignored
      simpa using hx.selected
    refine hignored.bind fun ignored => ?_
    cases ignored with
    | true =>
      exact Interference.Triple.pure (fun _ _ h => by cases h.1)
        (stable_noDuty.and stable_kept)
    | false =>
      rw [if_neg (by simp), hvalue]
      refine (Interference.Triple.mono (triple_verifyShareEvidence hfact delivery.evidence)
        (fun _ _ h => h.2) fun _ _ _ h => h).bind fun r => ?_
      by_cases hr : r = none ∨ r = delivery.evidence
      · have hany : r.any (shareEvidenceProvesFailure (F := F) (E := E) delivery.toNodeId
            delivery.shareValue) = false := by
          rcases hr with rfl | rfl
          · rfl
          · exact hevidence
        exact (triple_receiveOrQueueShare hfrom hany).mono (fun _ _ h => h.2) fun _ _ _ h => h
      · intro x hx h
        exact absurd h.1 hr

theorem triple_handleShareDelivery (polls : ℕ) :
    (watch delivery value input k).Triple (NoDuty E k) (handleShareDelivery polls delivery)
      fun _ x => NoDuty E k x ∧
        delivery.messageId ∈ x.session.processed := by
  have hstable : (watch (E := E) delivery value input k).Stable fun x =>
      NoDuty E k x ∧ delivery.messageId ∈ x.session.processed :=
    stable_noDuty.and stable_processed
  have haccept : (watch delivery value input k).Triple (NoDuty E k)
      (acceptTransportShare polls delivery) fun _ x => NoDuty E k x ∧
        delivery.messageId ∈ x.session.processed := by
    refine (triple_claimDelivery polls).bind fun claimed => ?_
    cases claimed with
    | true =>
      exact (triple_finishDelivery (triple_acceptShareMessage hfrom hvalue hevidence)).mono
        (fun _ _ h => h.1) fun _ _ _ h => h
    | false =>
      exact (triple_untouched (untouched_steps.inspect _) hstable).mono
        (fun _ _ h => ⟨h.1, h.2 rfl⟩) fun _ _ _ h => h
  exact haccept.bind fun _ =>
    triple_untouched (untouched_steps.onlyIf (untouched_steps.driveAcceptedShare _)) hstable

end Own

/-! ## Deliveries of other dealers -/

theorem keeps_rejectShare [Repr32 F] [Repr32 E]
    (toNodeId : ℕ) (shareValue : Bytes) (evidence : Option Bytes)
    (e : DkgError) :
    (rejectShare (F := F) (E := E) toNodeId shareValue evidence e).run.Keeps
      (Untouched delivery) := by
  unfold rejectShare
  split <;> trivial

variable [DecidableEq F]

omit [DecidableEq E] in
theorem keeps_verifyShareEvidence (evidence : Option Bytes) :
    (verifyShareEvidence (F := F) (E := E) evidence).run.Keeps (Untouched delivery) :=
  untouched_steps.bind_ok untouched_steps.external fun _ =>
    untouched_steps.locked fun _ s => .refl s

section Others

variable [Repr32 F] [Repr32 E] {fact : Ledger F E → Prop}
  (hstable : (watch delivery value input k).Stable fact) {other : ShareDelivery}
  (hne : other.fromNodeId ≠ delivery.fromNodeId)

include hstable hne

theorem triple_receiveOrQueueShare_other (v : F) (evidence : Option Bytes) :
    (watch delivery value input k).Triple fact (receiveOrQueueShare other v evidence)
      fun _ => fact := by
  have hanswer : (watch delivery value input k).Triple fact
      (locked fun _ s =>
        let share : DistributedShare F :=
          ⟨other.fromNodeId, other.toNodeId, v, other.nonce, s.node.sessionId⟩
        ((s.receiveShare share).1, .ok (share, (s.receiveShare share).2)))
      fun r x => r.1.fromId = other.fromNodeId ∧ fact x := by
    refine triple_locked_untouched hstable
      (fun r x y hx h hrely => ⟨h.1, hstable x y hx h.2 hrely⟩) (fun _ s => .receiveShare hne)
      fun _ s duty r _ _ hr hfact => ⟨?_, hfact⟩
    cases hr
    rfl
  refine hanswer.bind fun r => ?_
  obtain ⟨share, outcome⟩ := r
  have hkept : ∀ {p : HandlerM F E Bool},
      (share.fromId = other.fromNodeId → p.run.Keeps (Untouched delivery)) →
        (watch delivery value input k).Triple
          (fun x => share.fromId = other.fromNodeId ∧ fact x) p fun _ => fact := by
    intro p hp x hx h
    exact triple_untouched (hp h.1) hstable x hx h.2
  apply hkept
  intro hshare
  dsimp only
  split
  · exact untouched_steps.bind_ok
      (untouched_steps.update fun s => .recordReceivedShare hne) fun _ => untouched_steps.done _
  · split
    · exact untouched_steps.bind_ok
        (untouched_steps.update fun s => .storePendingShare (hshare ▸ hne))
        fun _ => untouched_steps.done _
    · exact keeps_rejectShare _ _ _ _
  · exact keeps_rejectShare _ _ _ _

theorem triple_handleShareDelivery_other (polls : ℕ) :
    (watch delivery value input k).Triple fact (handleShareDelivery polls other)
      fun _ => fact := by
  have hid : other.messageId ≠ delivery.messageId := by
    intro heq
    simp only [ShareDelivery.messageId, MessageId.share.injEq] at heq
    exact hne heq.1
  have haccept : (watch delivery value input k).Triple fact (acceptShareMessage other)
      fun _ => fact := by
    refine (triple_untouched (untouched_steps.locked fun _ s => .refl s) hstable).bind
      fun ourNodeId => ?_
    split
    · exact Interference.Triple.throw _
    refine (triple_untouched (untouched_steps.inspect _) hstable).bind fun ignored => ?_
    split
    · exact Interference.Triple.pure (fun _ _ h => h) hstable
    split
    · exact triple_untouched (untouched_steps.bind_ok (keeps_verifyShareEvidence _) fun _ =>
        keeps_rejectShare _ _ _ _) hstable
    · exact (triple_untouched (keeps_verifyShareEvidence _) hstable).bind fun evidence =>
        triple_receiveOrQueueShare_other hstable hne _ evidence
  have htransport : (watch delivery value input k).Triple fact (acceptTransportShare polls other)
      fun _ => fact := by
    refine (triple_untouched (untouched_steps.claiming
      (fun s => .claimTransportMessage _) polls) hstable).bind fun claimed => ?_
    split
    · exact triple_finishing_other hid haccept hstable
    · exact triple_untouched (untouched_steps.inspect _) hstable
  exact htransport.bind fun _ =>
    triple_untouched (untouched_steps.onlyIf (untouched_steps.driveAcceptedShare _)) hstable

end Others

/-! ## Commitments -/

section Replay

variable (hfrom : input.isFrom delivery.fromNodeId)

include hfrom

theorem triple_replayShare (pending : PendingShare F) :
    (watch (E := E) delivery value input k).Triple (Replayable delivery value k pending)
      (replayShare pending) fun _ => NoDuty E k := by
  -- A failure after the share has been recorded is only logged.
  have houtcome : (watch (E := E) delivery value input k).Outcome
      (Replayable delivery value k pending) (replayShare pending)
      (fun _ => NoDuty E k) (NoDuty E k) := by
    refine Interference.Ends.tryCatch ((outcome_receiveReplayed hfrom pending).bind
      fun outcome => ?_) fun _ => Interference.Ends.pure (fun _ _ h => h) stable_noDuty
    split
    next =>
      by_cases hid : pending.share.fromId = delivery.fromNodeId
      · rw [hid]
        refine (Interference.Outcome.mono (outcome_recordReceivedShare hfrom stable_noDuty)
          (fun _ _ h => h.2.1 rfl) (fun _ _ _ h => h) fun _ _ h => h).bind fun _ => ?_
        exact outcome_untouched (untouched_steps.driveAcceptedShare _) stable_noDuty
      · exact fun x _ h => absurd h.1 hid
    next e => exact Interference.Ends.throw (fun _ _ h => h.2.2 e rfl) stable_noDuty
  exact houtcome.triple

theorem triple_drain :
    (watch (E := E) delivery value input k).Triple
      (fun x => x.duty k = .drain ∧ delivery.fromNodeId ∈ x.session.node.receivedCommitments)
      (do
        let pending ← locked fun _ s =>
          let (s, pending) := s.takePendingShare delivery.fromNodeId
          (s, .ok pending)
        match pending with
        | some pending => replayShare pending
        | none => pure ()) fun _ => NoDuty E k := by
  have htake : (watch (E := E) delivery value input k).Triple
      (fun x => x.duty k = .drain ∧ delivery.fromNodeId ∈ x.session.node.receivedCommitments)
      (locked fun _ s =>
        let (s, pending) := s.takePendingShare delivery.fromNodeId
        (s, .ok pending)) fun pending x =>
          (∀ p, pending = some p → Replayable delivery value k p x) ∧
            (pending = none → NoDuty E k x) := by
    apply outcome_locked ((stable_duty .drain).and stable_received)
      (fun pending x y hx h hrely => ⟨fun p hp => stable_replayable p x y hx (h.1 p hp) hrely,
        fun hnone => hrely.1.trans (h.2 hnone)⟩) Interference.stable_true
    rintro w s duty hx ⟨hduty, hreceived⟩ ho
    have hcarries := takePendingShare_accounted hx hduty ho
    refine ⟨_, .inr hfrom, hcarries, fun pending hpending => ?_, fun e he => trivial⟩
    have heq : s.pendingShares.lookup delivery.fromNodeId = pending := Except.ok.inj hpending
    refine ⟨fun p hp => ?_, fun hnone => ?_⟩
    · rw [hp] at heq
      obtain ⟨hshare, haddressed, -⟩ := hx.pending p heq
      refine ⟨?_, hshare.trans hcarries.2.place.delivered.symm,
        hcarries.2.place.addressed haddressed, hreceived⟩
      dsimp only
      rw [Function.update_self, if_pos (mem_of_lookup heq)]
    · rw [hnone] at heq
      dsimp only [NoDuty]
      rw [Function.update_self, if_neg (AList.lookup_eq_none.mp heq)]
  refine htake.bind fun pending => ?_
  cases pending with
  | some pending =>
    exact (triple_replayShare hfrom pending).mono (fun _ _ h => h.1 pending rfl) fun _ _ _ h => h
  | none => exact Interference.Triple.pure (fun _ _ h => h.2 rfl) stable_noDuty

end Replay

variable {e : ℕ}

theorem triple_drain_other {fact : Ledger F E → Prop}
    (hstable : (watch delivery value input k).Stable fact) (hne : e ≠ delivery.fromNodeId) :
    (watch delivery value input k).Triple fact
      (do
        let pending ← locked fun _ s =>
          let (s, pending) := s.takePendingShare e
          (s, .ok pending)
        match pending with
        | some pending => replayShare pending
        | none => pure ()) fun _ => fact := by
  have htake : (watch delivery value input k).Triple fact
      (locked fun _ s =>
        let (s, pending) := s.takePendingShare e
        (s, .ok pending)) fun pending x =>
          (∀ p, pending = some p → p.share.fromId = e) ∧ fact x := by
    refine triple_locked_untouched hstable
      (fun pending x y hx h hrely => ⟨h.1, hstable x y hx h.2 hrely⟩)
      (fun _ s => .takePendingShare hne) fun _ s duty pending hx _ hpending hfact => ⟨?_, hfact⟩
    rintro p rfl
    exact hx.keyed e p (Except.ok.inj hpending)
  refine htake.bind fun pending => ?_
  cases pending with
  | some pending =>
    by_cases hid : pending.share.fromId = e
    · have hreplay : (watch delivery value input k).Triple fact (replayShare pending)
          fun _ => fact :=
        triple_untouched (untouched_steps.replaying (fun s => .receiveShare (hid ▸ hne))
          fun s => .recordReceivedShare (hid ▸ hne)) hstable
      exact hreplay.mono (fun _ _ h => h.2) fun _ _ _ h => h
    · exact fun x _ h => absurd (h.1 pending rfl) hid
  | none => exact Interference.Triple.pure (fun _ _ h => h.2) hstable

variable [Repr32 E]

omit [DecidableEq E] in
theorem keeps_initiatePhase1_untouched :
    (initiatePhase1Commitments (F := F) (E := E)).run.Keeps (Untouched delivery) :=
  (SameInbox.dealingChanges.keeps_initiatePhase1Commitments SameInbox.beginChanges.sign).mono
    fun _ _ => Untouched.of_sameInbox

omit [DecidableEq E] in
theorem keeps_driveHashRecorded_untouched :
    (driveEvent (F := F) (E := E) runCommand .commitmentHashRecorded).run.Keeps
      (Untouched delivery) :=
  (SameInbox.dealingChanges.keeps_driveHashRecorded SameInbox.beginChanges.sign).mono
    fun _ _ => Untouched.of_sameInbox

omit [DecidableEq E] in
theorem keeps_startLazily_untouched :
    (startLazily (F := F) (E := E)).run.Keeps (Untouched delivery) := by
  refine untouched_steps.bind_ok (untouched_steps.locked fun w s => ?_) fun _ =>
    untouched_steps.onlyIf (untouched_steps.bind_ok (untouched_steps.inspect _) fun _ =>
      keeps_initiatePhase1_untouched)
  by_cases hpolynomial : s.hasPolynomial
  · simpa [hpolynomial] using Untouched.refl s
  · simpa [hpolynomial] using Untouched.of_sameInbox (SameInbox.generatePolynomial s w.rng)

/-- Up to the step that takes the parked share out, nothing concerns the share. -/
theorem triple_afterCommitment_of_drain {pre : Ledger F E → Prop} {post : Unit → Ledger F E → Prop}
    (hstable : (watch delivery value input k).Stable pre) (needToGenerate isReshare : Bool)
    (hdrain : (watch delivery value input k).Triple pre
      (do
        let pending ← locked fun _ s =>
          let (s, pending) := s.takePendingShare e
          (s, .ok pending)
        match pending with
        | some pending => replayShare pending
        | none => pure ()) post) :
    (watch delivery value input k).Triple pre (afterCommitment e needToGenerate isReshare)
      post := by
  have hsteps : DealingSteps (Untouched (F := F) (E := E) delivery)
      (Task.Keeps (ω := Env F) (Untouched delivery)) := untouched_steps
  refine (triple_untouched (hsteps.onlyIf keeps_startLazily_untouched) hstable).bind fun _ => ?_
  refine (triple_untouched (hsteps.inspect _) hstable).bind fun _ => ?_
  refine (triple_untouched (hsteps.onlyIf hsteps.checkAndTriggerPhase2) hstable).bind fun _ => ?_
  exact (triple_untouched (hsteps.onlyIf hsteps.checkAndTriggerPhase4) hstable).bind fun _ => hdrain

variable [Sha256]

theorem triple_handleCommitmentMessage_duty
    (hfrom : e = delivery.fromNodeId → input.isFrom delivery.fromNodeId) (bytes : Bytes) :
    (watch delivery value input k).Triple (NoDuty E k) (handleCommitmentMessage e bytes)
      fun _ => NoDuty E k := by
  refine (triple_untouched (untouched_steps.prepareCommitment e bytes none) stable_noDuty).bind
    fun prepared => ?_
  cases prepared with
  | waitingForHash =>
    exact triple_untouched (untouched_steps.update fun s => .parkCommitment e bytes) stable_noDuty
  | ready c isReshare =>
    by_cases heq : e = delivery.fromNodeId
    · subst heq
      have hreceive : (watch delivery value input k).Triple (NoDuty E k)
          (locked fun _ s => s.receiveCommitment delivery.fromNodeId c) fun _ x =>
            x.duty k = .drain ∧
              delivery.fromNodeId ∈ x.session.node.receivedCommitments := by
        apply outcome_locked stable_noDuty (fun _ => (stable_duty .drain).and stable_received)
          Interference.stable_true
        intro w s duty hx hduty ho
        cases hresult : (s.receiveCommitment delivery.fromNodeId c).2 with
        | ok needToGenerate =>
          obtain ⟨hcarries, hmem⟩ := receiveCommitment_accounted hx hduty hresult ho
          exact ⟨.drain, .inr (hfrom rfl), hcarries,
            fun _ _ => ⟨Function.update_self .., hmem⟩, fun _ _ => trivial⟩
        | error error =>
          have hsame := receiveCommitment_of_error hresult
          refine ⟨duty k, .inl rfl, ?_⟩
          rw [Function.update_eq_self, hsame]
          exact ⟨⟨hx, .refl _⟩, fun a ha => (by cases ha), fun _ _ => trivial⟩
      exact hreceive.bind fun needToGenerate =>
        triple_afterCommitment_of_drain ((stable_duty .drain).and stable_received)
          needToGenerate isReshare (triple_drain (hfrom rfl))
    · refine (triple_untouched (untouched_steps.locked fun _ s => .receiveCommitment heq c)
        stable_noDuty).bind fun needToGenerate => ?_
      exact triple_afterCommitment_of_drain stable_noDuty needToGenerate isReshare
        (triple_drain_other stable_noDuty heq)

/-! ## Runs -/

theorem triple_handleCommitmentHashMessage_duty
    (hfrom : e = delivery.fromNodeId → input.isFrom delivery.fromNodeId) (commitmentHash : Bytes) :
    (watch delivery value input k).Triple (NoDuty E k)
      (handleCommitmentHashMessage e commitmentHash) fun _ => NoDuty E k := by
  refine (triple_untouched (untouched_steps.preflightCommitmentHash e commitmentHash)
    stable_noDuty).bind fun _ => ?_
  refine (triple_untouched (untouched_steps.locked fun _ s => .recordCommitmentHash e
    commitmentHash) stable_noDuty).bind fun _ => ?_
  refine (triple_untouched (untouched_steps.inspect _) stable_noDuty).bind fun pending => ?_
  refine Interference.Triple.bind ?_ fun _ =>
    (triple_untouched (untouched_steps.inspect _) stable_noDuty).bind fun _ =>
      triple_untouched keeps_driveHashRecorded_untouched stable_noDuty
  cases pending with
  | some bytes =>
    exact (triple_handleCommitmentMessage_duty hfrom bytes).bind fun _ =>
      triple_untouched (untouched_steps.update fun s => .unparkCommitment e) stable_noDuty
  | none => exact Interference.Triple.pure (fun _ _ h => h) stable_noDuty

theorem triple_handleContribution_duty {contribution : PublicContribution}
    (hfrom : contribution.origin.nodeId = delivery.fromNodeId →
      input.isFrom delivery.fromNodeId) (polls : ℕ) :
    (watch delivery value input k).Triple (NoDuty E k) (handleContribution polls contribution)
      fun _ => NoDuty E k := by
  have hid : MessageId.contribution contribution ≠ delivery.messageId := by
    simp [ShareDelivery.messageId]
  have hdispatch : (watch delivery value input k).Triple (NoDuty E k) (dispatchOnce contribution)
      fun _ => NoDuty E k := by
    refine (triple_untouched (untouched_steps.inspect _) stable_noDuty).bind fun localIsOrigin => ?_
    split
    · exact Interference.Triple.pure (fun _ _ h => h) stable_noDuty
    split
    · exact triple_handleCommitmentHashMessage_duty hfrom _
    · exact triple_handleCommitmentMessage_duty hfrom _
    · exact triple_untouched untouched_steps.handleCommitmentAuditMessage stable_noDuty
    · exact triple_untouched (untouched_steps.handleResult _ _) stable_noDuty
    · split
      · exact Interference.Triple.throw _
      · exact triple_untouched (untouched_steps.accepting fun s reshare hreshare =>
          .of_sameInbox (SameInbox.updateReshare hreshare (handleReshareParticipantSet_same ..)))
          stable_noDuty
  refine (triple_untouched (untouched_steps.inspect _) stable_noDuty).bind fun permitted => ?_
  split
  · refine (triple_untouched (untouched_steps.claiming
      (fun s => .claimTransportMessage _) polls) stable_noDuty).bind fun claimed => ?_
    cases claimed with
    | true => exact triple_finishing_other hid hdispatch stable_noDuty
    | false => exact Interference.Triple.pure (fun _ _ h => h) stable_noDuty
  · exact Interference.Triple.throw _

variable (delivery) in
def Admitted (input : Input) : Prop :=
  ∀ polls other, input = .share polls other → other.fromNodeId = delivery.fromNodeId →
    other = delivery

/-- Every handler ends without a duty, and the one of the delivery has processed it. -/
theorem triples_watch [Repr32 F]
    (hvalue : (Fr.fromBytes delivery.shareValue : Except CryptoError F) = .ok value)
    (hevidence : delivery.evidence.any (shareEvidenceProvesFailure (F := F) (E := E)
      delivery.toNodeId delivery.shareValue) = false) :
    Triples (shareRound (E := E) delivery value) (dutyContract delivery) handler
      (fun _ k x => x.duty k = .nothing)
      (fun input k _ x => x.duty k = .nothing ∧
        ((∃ polls, input = .share polls delivery) → delivery.messageId ∈ x.session.processed))
      (Admitted delivery) where
  interference hjk hguar := ⟨hguar.1 _ hjk.symm, hguar.2.2⟩
  stable _ _ := stable_duty .nothing
  triple input k hadmitted := by
    cases input with
    | begin =>
      have hbegin : (onBegin (F := F) (E := E)).run.Keeps (Untouched delivery) := by
        refine Task.Keeps.mono ?_ fun _ _ => Untouched.of_sameInbox
        have hc := SameInbox.dealingChanges (F := F) (E := E)
        have hb := SameInbox.beginChanges (F := F) (E := E)
        exact hc.keeps_onBegin hb (hc.keeps_initiatePhase1Commitments hb.sign)
          (hc.keeps_driveHashRecorded hb.sign)
      exact (triple_untouched hbegin stable_noDuty).mono (fun _ _ h => h) fun _ _ _ h =>
        ⟨h, by rintro ⟨_, ⟨⟩⟩⟩
    | contribution polls contribution =>
      have hfrom : contribution.origin.nodeId = delivery.fromNodeId →
          (Input.contribution polls contribution).isFrom delivery.fromNodeId := fun h => h
      exact (triple_handleContribution_duty hfrom polls).mono (fun _ _ h => h)
        fun _ _ _ h => ⟨h, by rintro ⟨_, ⟨⟩⟩⟩
    | share polls other =>
      by_cases heq : other.fromNodeId = delivery.fromNodeId
      · have hother : other = delivery := hadmitted polls other rfl heq
        subst hother
        have hfrom : (Input.share polls other).isFrom other.fromNodeId := rfl
        exact (triple_handleShareDelivery hfrom hvalue hevidence polls).mono (fun _ _ h => h)
          fun _ _ _ h => ⟨h.1, fun _ => h.2⟩
      · refine (triple_handleShareDelivery_other stable_noDuty heq polls).mono (fun _ _ h => h)
          fun _ _ _ h => ⟨h, ?_⟩
        rintro ⟨_, ⟨⟩⟩
        exact absurd rfl heq
    | shareAck polls receiverNodeId dealerId =>
      have hid : MessageId.shareAck receiverNodeId dealerId ≠ delivery.messageId := by
        simp [ShareDelivery.messageId]
      have hack : (onReshareShareAck (F := F) (E := E) polls receiverNodeId dealerId).run.Keeps
          (Untouched delivery) :=
        untouched_steps.bind_ok (untouched_steps.claiming
          (fun s => .claimTransportMessage _) polls) fun _ => untouched_steps.onlyIf
            (untouched_steps.finishing (untouched_steps.handleReshareShareAck _ _)
              fun s success => .finishTransportMessage hid success)
      exact (triple_untouched hack stable_noDuty).mono (fun _ _ h => h) fun _ _ _ h =>
        ⟨h, by rintro ⟨_, ⟨⟩⟩⟩

section Result

variable [LawfulRepr32 E]

/-- For every schedule in which the share is not parked while the node has the commitment, whatever
else happens in it. -/
theorem share_recorded_of_orderly [Repr32 F]
    {id threshold totalNodes sessionId : ℕ} {role : DkgRole}
    {node : DKGNode F E}
    (hnode : DKGNode.new id threshold totalNodes sessionId role = .ok node)
    {kind : SessionKind} (hrole : kind.isFresh → role ≠ .receiver)
    {reshare : Option (ReshareState F)}
    (hselected : ∀ r, reshare = some r → r.selectedDealers = none)
    {peerIds : List String} {routes activeDealers : List ℕ}
    (hvalue : (Fr.fromBytes delivery.shareValue : Except CryptoError F) = .ok value)
    (hevidence : delivery.evidence.any (shareEvidenceProvesFailure (F := F) (E := E)
      delivery.toNodeId delivery.shareValue) = false)
    {schedule : Schedule F}
    (hdeliveries : ∀ polls other, .start (.share polls other) ∈ schedule →
      other.fromNodeId = delivery.fromNodeId → other = delivery)
    (hobeys : Pool.Obeys handler (Orderly delivery value)
      (Pool.empty (.new kind node reshare peerIds routes activeDealers)) schedule)
    (hfinished : ∀ entry ∈
      (runAttempt (.new kind node reshare peerIds routes activeDealers) schedule).tasks,
      entry.1.isFrom delivery.fromNodeId → entry.2.result = some (.ok ()))
    {j k polls polls' signedAt : ℕ} {scope : CommitteeScope} {commitment : Bytes}
    (hshare : (runAttempt (.new kind node reshare peerIds routes activeDealers) schedule).result j =
      some (.share polls delivery, .ok ()))
    (hcommitment :
      (runAttempt (.new kind node reshare peerIds routes activeDealers) schedule).result k =
        some (.contribution polls'
          ⟨⟨scope, delivery.fromNodeId⟩, signedAt, .commitment commitment⟩, .ok ()))
    (hother : role = .receiver ∨ delivery.fromNodeId ≠ id)
    (hhash : delivery.fromNodeId ∉ (runAttempt
      (.new kind node reshare peerIds routes activeDealers) schedule).state.pendingCommitments) :
    let s := (runAttempt (.new kind node reshare peerIds routes activeDealers) schedule).state
    delivery.fromNodeId ∈ s.receivedShares ∧
      s.node.receivedShares.lookup delivery.fromNodeId = some value ∧
      delivery.fromNodeId ∉ s.pendingShares := by
  have hbound : Bound ∅ (Session.new kind node reshare peerIds routes activeDealers) :=
    bound_new hnode hrole reshare peerIds routes activeDealers
  have hinv : Accounted delivery value
      ⟨Session.new kind node reshare peerIds routes activeDealers, fun _ => .nothing⟩ :=
    accounted_new hnode hselected peerIds routes activeDealers
  have hblank := (DKGNode.new_eq_ok.mp hnode).2
  generalize hsession : Session.new kind node reshare peerIds routes activeDealers = session
    at hbound hinv hobeys hfinished hshare hcommitment hhash ⊢
  intro s
  -- The commitment has been received, since it does not wait for its hash.
  have hreceived : delivery.fromNodeId ∈ s.node.receivedCommitments := by
    have hany : Pool.Obeys handler (ParksOnTime ∅) (Pool.empty session) ([] ++ schedule) :=
      along_of_forall (fun _ _ d hd => absurd hd (Set.notMem_empty d)) _ _
    obtain ⟨-, hgrows, hsettled⟩ : Bound ∅ s ∧ Grows ∅ session s ∧ _ := run_bound hbound hany
    have hremote : ¬s.localIsOrigin ⟨scope, delivery.fromNodeId⟩ := by
      intro hlocal
      simp only [Session.localIsOrigin, decide_eq_true_eq] at hlocal
      have hown : s.node.role = role ∧ s.node.id = id := by
        rw [hgrows.role, hgrows.id, ← hsession, Session.new, hblank]
        exact ⟨rfl, rfl⟩
      rcases hother with hreceiver | hne
      · exact hlocal.2.1 (hown.1.trans hreceiver)
      · exact hne (hlocal.2.2.trans hown.2)
    rcases hsettled k _ hcommitment hremote with h | h
    · exact h
    · exact absurd h hhash
  obtain ⟨z, hz, hsteps⟩ := (Pool.reached_empty hinv).run (triples_watch hvalue hevidence) hinv
    (fun _ _ => rfl) (fun i hi polls other heq hid => hdeliveries polls other (heq ▸ hi) hid) hobeys
  have hduty : ∀ k, z.duty k = .nothing := duties_done hinv (fun _ => rfl) hz hsteps hfinished
  have hstate : z.session = s := hz.state
  have hprocessed : delivery.messageId ∈ z.session.processed := (hz.finished hshare).2 ⟨polls, rfl⟩
  have haccounted : Accounted delivery value z := hz.invariant
  rw [← hstate] at hreceived ⊢
  have hpending : delivery.fromNodeId ∉ z.session.pendingShares := by
    intro hmem
    obtain ⟨p, hp⟩ := exists_lookup hmem
    obtain ⟨k, hk⟩ := (haccounted.pending p hp).2.2 hreceived
    rw [hduty k] at hk
    cases hk
  rcases haccounted.processed hprocessed with hmem | hmem | ⟨k, hk⟩
  · obtain ⟨v, hv⟩ := exists_lookup hmem
    obtain ⟨rfl, hrecorded | ⟨k, hk⟩⟩ := haccounted.accepted v hv
    · exact ⟨hrecorded, hv, hpending⟩
    · rw [hduty k] at hk
      cases hk
  · exact absurd hmem hpending
  · rw [hduty k] at hk
    cases hk

end Result

end

/-! ## A share that is parked late -/

namespace Pair

open scoped ByteSum

/-- The hash round is over; the other member's share (handler 2) takes its first steps, then its
commitment (handler 3), then the share again. -/
def shareFirst (first : ℕ) : Schedule F7 :=
  [.start .begin] ++ steps 0 12 ++ [.start (.contribution 0 peerCommitmentHash)] ++ steps 1 40 ++
    [.start (.share 0 peerShare), .start (.contribution 0 peerCommitment)] ++ steps 2 first ++
    steps 3 60 ++ steps 2 40

theorem share_recorded_of_parked_in_time :
    let attempt := runAttempt (session .fresh) (shareFirst 7)
    Pool.Obeys handler (Orderly peerShare 2) (Pool.empty (session .fresh)) (shareFirst 7) ∧
      attempt.result 2 = some (.share 0 peerShare, .ok ()) ∧
      attempt.result 3 = some (.contribution 0 peerCommitment, .ok ()) ∧
      2 ∈ attempt.state.receivedShares ∧ 2 ∉ attempt.state.pendingShares := by
  have hobeys : Pool.Obeys handler (Orderly peerShare 2) (Pool.empty (session .fresh))
      (shareFirst 7) := by decide +kernel
  have hfinished : ∀ entry ∈ (runAttempt (session .fresh) (shareFirst 7)).tasks,
      entry.1.isFrom peerShare.fromNodeId → entry.2.result = some (.ok ()) := by decide +kernel
  have hshare : (runAttempt (session .fresh) (shareFirst 7)).result 2 =
      some (.share 0 peerShare, .ok ()) := by decide +kernel
  have hcommitment : (runAttempt (session .fresh) (shareFirst 7)).result 3 =
      some (.contribution 0 peerCommitment, .ok ()) := by decide +kernel
  have hhash : peerShare.fromNodeId ∉
      (runAttempt (session .fresh) (shareFirst 7)).state.pendingCommitments := by decide +kernel
  have hdeliveries : ∀ polls other, .start (.share polls other) ∈ shareFirst 7 →
      other.fromNodeId = peerShare.fromNodeId → other = peerShare := by
    intro polls other hmem _
    have hsteps (k count : ℕ) : Move.start (.share polls other) ∉ steps k count := by
      simp only [steps, List.mem_replicate, reduceCtorEq, and_false, not_false_eq_true]
    simp only [shareFirst, List.mem_append, List.mem_cons, hsteps, Move.start.injEq, reduceCtorEq,
      Input.share.injEq, List.not_mem_nil, or_false, false_or] at hmem
    exact hmem.2
  have hnode : (DKGNode.new 1 1 2 7 .standard : Except CryptoError (DKGNode F7 F7)) =
      .ok (.blank 1 1 2 7 .standard) := rfl
  have hvalue : (Fr.fromBytes peerShare.shareValue : Except CryptoError F7) = .ok 2 := by
    decide +kernel
  unfold session at hobeys hfinished hshare hcommitment hhash ⊢
  unfold peerCommitment at hcommitment ⊢
  obtain ⟨hrecorded, -, hpending⟩ :=
    share_recorded_of_orderly hnode (by decide) (by simp) hvalue rfl
    hdeliveries hobeys hfinished hshare hcommitment (.inr (by decide)) hhash
  exact ⟨hobeys, hshare, hcommitment, hrecorded, hpending⟩

/-- The node has answered that the commitment is missing when the commitment is received and no
parked share is found; the share is parked after that and acknowledged, and nobody looks for it
again. -/
theorem share_stranded_of_parked_late :
    let attempt := runAttempt (session .fresh) (shareFirst 6)
    attempt.result 2 = some (.share 0 peerShare, .ok ()) ∧
      attempt.result 3 = some (.contribution 0 peerCommitment, .ok ()) ∧
      attempt.state.node.receivedCommitments.keys = [2] ∧
      attempt.state.pendingShares.keys = [2] ∧ attempt.state.receivedShares = [] ∧
      peerShare.messageId ∈ attempt.state.processed := by
  decide +kernel

end Pair

end Orbis.Node.Dkg
