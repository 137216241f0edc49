import Orbis.Node.Dkg.ShareLedger
import Orbis.Transition.Guard

/-!
# A share delivery that is cancelled

The connection that brings a share can be lost at any step of its handler, and the dealer then sends
the same bytes again.  While the handler's body runs it holds a guard that releases the claim on the
message; the guard is disarmed before the handler waits for the lock to release the claim itself.
The release by the guard is a task of its own; a delivery that comes before it is polling.
-/

namespace Orbis.Node.Dkg

open Orbis.Crypto Orbis.Crypto.Dkg Orbis.Data Orbis.Transition

section

variable {F E : Type}

/-- `TransportMessageClaimGuard::drop`. -/
def releaseClaim (messageId : MessageId) (s : Session F E) : Session F E :=
  if s.live then s.finishTransportMessage messageId false else s

/-- `accept_transport_share` with the guard it holds. -/
def acceptTransportShareGuarded [Field F] [AddCommGroup E] [Module F E] [DecidableEq E] [Curve E]
    [Repr32 F] [Repr32 E] (polls : ℕ) (delivery : ShareDelivery) :
    Guarded (Env F) (Session F E) (Except DkgError Bool) := do
  let claim ← .under id (claimMessage delivery.messageId polls).run
  match claim with
  | .ok true => do
      let result ← .under (releaseClaim delivery.messageId) (acceptShareMessage delivery).run
      .under id (Task.atomically fun _ s =>
        (if s.live then s.finishTransportMessage delivery.messageId result.isOk else s, ()))
      pure result
  | .ok false => .under id (inspect fun s => (delivery.fromNodeId ∈ s.receivedShares : Bool)).run
  | .error e => pure (.error e)

theorem task_acceptTransportShareGuarded [Field F] [AddCommGroup E] [Module F E] [DecidableEq E]
    [Curve E] [Repr32 F] [Repr32 E] (polls : ℕ) (delivery : ShareDelivery) :
    (acceptTransportShareGuarded polls delivery : Guarded (Env F) (Session F E) _).task =
      (acceptTransportShare polls delivery).run := by
  have hrun : (acceptTransportShare polls delivery : HandlerM F E Bool).run =
      (claimMessage delivery.messageId polls).run >>= ExceptT.bindCont fun claimed =>
        if claimed then finishing delivery.messageId (acceptShareMessage delivery)
        else inspect fun s => (delivery.fromNodeId ∈ s.receivedShares : Bool) := rfl
  rw [hrun, acceptTransportShareGuarded, Guarded.task_bind, Guarded.task_under]
  congr 1
  funext claim
  match claim with
  | .ok true =>
    change (_ >>= _ : Guarded _ _ _).task = _
    rw [Guarded.task_bind, Guarded.task_under]
    rfl
  | .ok false => exact Guarded.task_under _ _
  | .error e => rfl

/-! ## One step -/

section Rules

variable {α : Type} {calm : ℕ → Env F → Prop} {P : ℕ → Session F E → Prop} {n : ℕ}
  {s : Session F E} {release : Session F E → Session F E}

theorem runs_locked {f : Env F → Session F E → Session F E × Except DkgError α}
    {Q : ℕ → Except DkgError α → Session F E → Prop} (hlive : s.live) (hP : P n (release s))
    (h : ∀ w, Q (n + 1) (f w s).2 (f w s).1) :
    (Guarded.under release (locked f).run).Runs calm P Q n s := by
  refine ⟨hP, fun w _ => ?_⟩
  simp only [hlive, if_true]
  exact h w

theorem runs_external {Q : ℕ → Except DkgError Unit → Session F E → Prop} (hP : P n (release s))
    (hok : ∀ w, calm n w → w.outage = none → Q (n + 1) (.ok ()) s)
    (houtage : ∀ w e, calm n w → w.outage = some e → Q (n + 1) (.error e) s) :
    (Guarded.under release (external : HandlerM F E Unit).run).Runs calm P Q n s := by
  refine ⟨hP, fun w hw => ?_⟩
  cases hw' : w.outage with
  | none =>
    simp only [hw']
    exact hok w hw hw'
  | some e =>
    simp only [hw']
    exact houtage w e hw hw'

end Rules

/-! ## One delivery -/

variable (delivery : ShareDelivery) (value : F)

/-- A share for this node, of a dealer that is not left out. -/
structure Admissible (s : Session F E) : Prop where
  live : s.live
  own : s.ownReceiverId = .ok delivery.toNodeId
  selected : ¬(s.kind = .reshare ∧ s.selectedDealers.any (delivery.fromNodeId ∉ ·))
  evidence : s.kind.isFresh ∨ delivery.evidence.isSome

/-- A valid share of a dealer whose commitment the node has; it has not been handled before. -/
structure Deliverable [Field F] [AddCommGroup E] [Module F E] [DecidableEq E] [Curve E]
    (s : Session F E) : Prop extends Admissible delivery s where
  accepts : s.node.AcceptsShare (delivered delivery value s)
  unclaimed : delivery.messageId ∉ s.processing
  unprocessed : delivery.messageId ∉ s.processed
  unrecorded : delivery.fromNodeId ∉ s.receivedShares

/-- The session while the delivery is being handled. -/
def claimedBy (s : Session F E) : Session F E :=
  { s with processing := s.processing ++ [delivery.messageId] }

/-- The session when the node has taken the share. -/
def takenBy (s : Session F E) : Session F E :=
  { s with node := { s.node with
    receivedShares := s.node.receivedShares.insert delivery.fromNodeId value } }

/-- The session when the share has been recorded and the claim has not been released. -/
def recordedBy (s : Session F E) : Session F E :=
  { takenBy delivery value (claimedBy delivery s) with
    receivedShares := s.receivedShares ++ [delivery.fromNodeId]
    sharesReceived := s.sharesReceived + 1 }

variable {delivery value} {s : Session F E} {calm : ℕ → Env F → Prop}
  {P : ℕ → Session F E → Prop} {n : ℕ}

theorem releaseClaim_claimedBy (hlive : s.live) (hunclaimed : delivery.messageId ∉ s.processing) :
    releaseClaim delivery.messageId (claimedBy delivery s) = s := by
  have hfilter : (s.processing ++ [delivery.messageId]).filter (· ≠ delivery.messageId) =
      s.processing := by
    rw [List.filter_append, List.filter_eq_self.mpr, List.filter_eq_nil_iff.mpr, List.append_nil]
    · simp
    · intro m hm
      simpa using ne_of_mem_of_not_mem hm hunclaimed
  have hlive' : (claimedBy delivery s).live := hlive
  rw [releaseClaim, if_pos hlive']
  simp only [Session.finishTransportMessage, claimedBy, hfilter, Bool.false_eq_true, false_and,
    if_false]

variable {Q : ℕ → Except DkgError Bool → Session F E → Prop}

theorem runs_claimMessage (hlive : s.live) (hunclaimed : delivery.messageId ∉ s.processing)
    (hunprocessed : delivery.messageId ∉ s.processed) (hP : P n s)
    (hQ : Q (n + 1) (.ok true) (claimedBy delivery s)) (polls : ℕ) :
    (Guarded.under id (claimMessage delivery.messageId polls).run).Runs calm P Q n s := by
  have hclaim : s.claimTransportMessage delivery.messageId = (claimedBy delivery s, .claimed) := by
    simp only [Session.claimTransportMessage, hunprocessed, hunclaimed, if_false, claimedBy]
  have hround (retry : HandlerM F E Bool) :
      (Guarded.under id (claimRound delivery.messageId retry).run).Runs calm P Q n s := by
    refine Guarded.Runs.bind_ok (runs_locked hlive hP fun w => ?_)
    rw [hclaim]
    exact hQ
  cases polls with
  | zero | succ polls => exact hround _

variable [Field F] [AddCommGroup E] [Module F E] [DecidableEq E] [Curve E] [Repr32 F] [Repr32 E]

/-- The body of the handler up to where the share reaches the node. -/
theorem runs_acceptShareMessage (hs : Admissible delivery s)
    (hvalue : (Fr.fromBytes delivery.shareValue : Except CryptoError F) = .ok value)
    {release : Session F E → Session F E}
    (hbefore : ∀ m, n ≤ m → m ≤ n + 2 → P m (release s))
    (houtage : ∀ w e, calm (n + 2) w → w.outage = some e → Q (n + 3) (.error e) s)
    (hrest : (∃ w, calm (n + 2) w ∧ w.outage = none) → P (n + 3) (release s) ∧
      ∀ evidence, (Guarded.under release
        (receiveOrQueueShare delivery value evidence).run).Runs calm P Q (n + 4) s) :
    (Guarded.under release (acceptShareMessage delivery).run).Runs calm P Q n s := by
  refine Guarded.Runs.bind_ok (runs_locked hs.live (hbefore _ (by omega) (by omega)) fun w => ?_)
  simp only [hs.own, ne_eq, not_true_eq_false, if_false]
  refine Guarded.Runs.bind_ok (runs_locked hs.live (hbefore _ (by omega) (by omega)) fun w => ?_)
  simp only [hs.selected, decide_false, Bool.false_eq_true, if_false, hvalue]
  -- The evidence is looked at, and then the share reaches the node.
  refine Guarded.Runs.bind_ok (Guarded.Runs.bind_ok
    (runs_external (hbefore _ (by omega) (by omega)) (fun w hw hnone => ?_) houtage))
  obtain ⟨hcalled, hrest⟩ := hrest ⟨w, hw, hnone⟩
  refine runs_locked hs.live hcalled fun _ => ?_
  by_cases hfresh : s.kind.isFresh
  · simp only [hfresh, if_true]
    exact hrest none
  · obtain ⟨evidence, he⟩ := Option.isSome_iff_exists.mp (hs.evidence.resolve_left hfresh)
    simp only [hfresh, Bool.false_eq_true, if_false, he]
    exact hrest (some evidence)

/-- A message that nobody has claimed: the claim is the first step, the call to the outside the
fourth, and the share reaches the node in the sixth. -/
theorem runs_acceptTransportShare (hs : Admissible delivery s)
    (hunclaimed : delivery.messageId ∉ s.processing)
    (hunprocessed : delivery.messageId ∉ s.processed)
    (hvalue : (Fr.fromBytes delivery.shareValue : Except CryptoError F) = .ok value)
    (hbefore : ∀ m ≤ 3, P m s)
    (houtage : ∀ w e, calm 3 w → w.outage = some e → P 4 (claimedBy delivery s) ∧ Q 5 (.error e) s)
    (hrest : (∃ w, calm 3 w ∧ w.outage = none) → P 4 s ∧ ∀ evidence,
      (Guarded.under (releaseClaim delivery.messageId)
        (receiveOrQueueShare delivery value evidence).run).Runs calm P (fun m r s' =>
          P m s' ∧ Q (m + 1) r (if s'.live then
            s'.finishTransportMessage delivery.messageId r.isOk else s')) 5
        (claimedBy delivery s)) (polls : ℕ) :
    (acceptTransportShareGuarded polls delivery).Runs calm P Q 0 s := by
  have hrelease := releaseClaim_claimedBy hs.live hunclaimed
  have hadmissible : Admissible delivery (claimedBy delivery s) :=
    ⟨hs.live, hs.own, hs.selected, hs.evidence⟩
  refine Guarded.Runs.bind
    (runs_claimMessage hs.live hunclaimed hunprocessed (hbefore 0 (by omega)) ?_ polls)
  refine Guarded.Runs.bind (runs_acceptShareMessage hadmissible hvalue ?_ ?_ ?_)
  · intro m _ hm
    rw [hrelease]
    exact hbefore m hm
  · intro w e hw he
    obtain ⟨hP, hQ⟩ := houtage w e hw he
    refine ⟨hP, fun w _ => ?_⟩
    change Q 5 (.error e) (releaseClaim delivery.messageId (claimedBy delivery s))
    rwa [hrelease]
  · intro hcalm
    obtain ⟨hcalled, hrest⟩ := hrest hcalm
    rw [hrelease]
    exact ⟨hcalled, fun evidence => (hrest evidence).mono fun m r s' h => ⟨h.1, fun w _ => h.2⟩⟩

theorem runs_receiveOrQueueShare (hlive : s.live)
    (haccepts : s.node.AcceptsShare (delivered delivery value s))
    {release : Session F E → Session F E} (hbefore : P n (release s))
    (htaken : P (n + 1) (release (takenBy delivery value s)))
    (hok : Q (n + 2) (.ok true) ((takenBy delivery value s).recordReceivedShare
      delivery.fromNodeId)) (evidence : Option Bytes) :
    (Guarded.under release (receiveOrQueueShare delivery value evidence).run).Runs calm P Q n
      s := by
  have hreceive : s.receiveShare (delivered delivery value s) =
      (takenBy delivery value s, .ok ()) := by
    rw [Session.receiveShare, DKGNode.receiveShare_of_accepts haccepts]
    rfl
  rw [delivered] at hreceive
  refine Guarded.Runs.bind_ok (runs_locked hlive hbefore fun w => ?_)
  simp only [hreceive]
  refine Guarded.Runs.bind_ok (runs_locked hlive htaken fun w => ?_)
  exact hok

/-- A delivery of a message that has been processed only looks whether the share is recorded. -/
theorem runs_acceptTransportShare_of_processed (hlive : s.live)
    (hprocessed : delivery.messageId ∈ s.processed) (hP : ∀ m, P m s)
    (hQ : Q 2 (.ok (delivery.fromNodeId ∈ s.receivedShares : Bool)) s) (polls : ℕ) :
    (acceptTransportShareGuarded polls delivery).Runs calm P Q 0 s := by
  have hclaim : s.claimTransportMessage delivery.messageId = (s, .alreadyProcessed) := by
    rw [Session.claimTransportMessage, if_pos hprocessed]
  have hround (retry : HandlerM F E Bool) : (Guarded.under id
      (claimRound delivery.messageId retry).run).Runs calm P
        (fun m r s' => m = 1 ∧ r = .ok false ∧ s' = s) 0 s := by
    refine Guarded.Runs.bind_ok (runs_locked hlive (hP 0) fun w => ?_)
    rw [hclaim]
    exact ⟨rfl, rfl, rfl⟩
  have hpolled : (Guarded.under id (claimMessage delivery.messageId polls).run).Runs calm P
      (fun m r s' => m = 1 ∧ r = .ok false ∧ s' = s) 0 s := by
    cases polls with
    | zero | succ polls => exact hround _
  refine Guarded.Runs.bind (hpolled.mono ?_)
  rintro _ _ _ ⟨rfl, rfl, rfl⟩
  exact runs_locked hlive (hP 1) fun w => hQ

/-! ## The second delivery -/

variable (delivery) in
/-- The delivery is accepted, if no call to the outside fails. -/
def Accepted (s : Session F E) : Prop :=
  ∀ (polls : ℕ) (answer : ℕ → Env F), (∀ k, (answer k).outage = none) →
    let again := (acceptTransportShare polls delivery).run.complete answer s
    again.2 = .ok true ∧ delivery.fromNodeId ∈ again.1.receivedShares ∧
      delivery.messageId ∈ again.1.processed ∧ delivery.messageId ∉ again.1.processing

variable (delivery) in
/-- The delivery is not accepted, whatever the environment answers. -/
def Refused (s : Session F E) : Prop :=
  ∀ (polls : ℕ) (answer : ℕ → Env F),
    ((acceptTransportShare polls delivery).run.complete answer s).2 ≠ .ok true

omit [Field F] [AddCommGroup E] [Module F E] [DecidableEq E] [Curve E] [Repr32 F] [Repr32 E] in
theorem mem_processed_finishTransportMessage (messageId : MessageId) (s : Session F E) :
    messageId ∈ (s.finishTransportMessage messageId true).processed := by
  simp only [Session.finishTransportMessage, true_and]
  split
  · exact List.mem_append_right _ List.mem_cons_self
  · next h => exact not_not.mp h

theorem accepted_of_runs
    (h : ∀ polls, (acceptTransportShareGuarded polls delivery).Runs (fun _ w => w.outage = none)
      (fun _ _ => True) (fun _ r s' => r = .ok true ∧ delivery.fromNodeId ∈ s'.receivedShares ∧
        delivery.messageId ∈ s'.processed ∧ delivery.messageId ∉ s'.processing) 0 s) :
    Accepted delivery s := by
  intro polls answer hcalm
  obtain ⟨_, hcomplete⟩ := (h polls).complete hcalm
  rw [task_acceptTransportShareGuarded] at hcomplete
  exact hcomplete

theorem refused_of_runs
    (h : ∀ polls, (acceptTransportShareGuarded polls delivery).Runs (fun _ _ => True)
      (fun _ _ => True) (fun _ r _ => r ≠ .ok true) 0 s) : Refused delivery s := by
  intro polls answer
  obtain ⟨_, hcomplete⟩ := (h polls).complete fun _ => trivial
  rw [task_acceptTransportShareGuarded] at hcomplete
  exact hcomplete

theorem Accepted.not_refused (h : Accepted delivery s) : ¬Refused delivery s := by
  intro hrefused
  let calmly : Env F := ⟨fun _ => 0, fun _ => [], 0, none⟩
  exact hrefused 0 (fun _ => calmly) (h 0 (fun _ => calmly) fun _ => rfl).1

omit [Repr32 F] [Repr32 E] in
theorem recordReceivedShare_takenBy (hs : Deliverable delivery value s) :
    (takenBy delivery value (claimedBy delivery s)).recordReceivedShare delivery.fromNodeId =
      recordedBy delivery value s := by
  have hunrecorded : delivery.fromNodeId ∉
      (takenBy delivery value (claimedBy delivery s)).receivedShares := hs.unrecorded
  rw [Session.recordReceivedShare, if_neg hunrecorded]
  rfl

/-- The whole of a delivery that is valid. -/
theorem runs_of_deliverable (hs : Deliverable delivery value s)
    (hvalue : (Fr.fromBytes delivery.shareValue : Except CryptoError F) = .ok value)
    (hbefore : ∀ m ≤ 3, P m s)
    (houtage : ∀ w e, calm 3 w → w.outage = some e → P 4 (claimedBy delivery s) ∧ Q 5 (.error e) s)
    (hrest : (∃ w, calm 3 w ∧ w.outage = none) → P 4 s ∧ P 5 s ∧
      P 6 (takenBy delivery value s) ∧ P 7 (recordedBy delivery value s) ∧ Q 8 (.ok true)
        ((recordedBy delivery value s).finishTransportMessage delivery.messageId true))
    (polls : ℕ) : (acceptTransportShareGuarded polls delivery).Runs calm P Q 0 s := by
  refine runs_acceptTransportShare hs.toAdmissible hs.unclaimed hs.unprocessed hvalue hbefore
    houtage (fun hcalm => ?_) polls
  obtain ⟨hcalled, hreached, htaken, hrecorded, hok⟩ := hrest hcalm
  have hlive : (claimedBy delivery s).live := hs.live
  have haccepts : (claimedBy delivery s).node.AcceptsShare
    (delivered delivery value (claimedBy delivery s)) := hs.accepts
  refine ⟨hcalled, runs_receiveOrQueueShare hlive haccepts ?_ ?_ ?_⟩
  · rwa [releaseClaim_claimedBy hs.live hs.unclaimed]
  · have hlive : (takenBy delivery value s).live := hs.live
    have hrelease := releaseClaim_claimedBy hlive hs.unclaimed
    change P 6 (releaseClaim delivery.messageId (claimedBy delivery (takenBy delivery value s)))
    rwa [hrelease]
  · have hlive : (recordedBy delivery value s).live := hs.live
    rw [recordReceivedShare_takenBy hs, if_pos hlive]
    exact ⟨hrecorded, hok⟩

theorem accepted_of_deliverable (hs : Deliverable delivery value s)
    (hvalue : (Fr.fromBytes delivery.shareValue : Except CryptoError F) = .ok value) :
    Accepted delivery s := by
  refine accepted_of_runs (runs_of_deliverable hs hvalue (fun _ _ => trivial) ?_ fun _ => ?_)
  · intro w e hcalm he
    rw [hcalm] at he
    cases he
  · exact ⟨trivial, trivial, trivial, trivial, rfl, List.mem_append_right _ List.mem_cons_self,
      mem_processed_finishTransportMessage _ _, by simp [Session.finishTransportMessage]⟩

theorem accepted_of_processed (hlive : s.live) (hprocessed : delivery.messageId ∈ s.processed)
    (hrecorded : delivery.fromNodeId ∈ s.receivedShares)
    (hreleased : delivery.messageId ∉ s.processing) : Accepted delivery s :=
  accepted_of_runs (runs_acceptTransportShare_of_processed hlive hprocessed (fun _ => trivial)
    ⟨by rw [decide_eq_true hrecorded], hrecorded, hprocessed, hreleased⟩)

/-- Nobody releases the claim. -/
theorem refused_of_claimed (hlive : s.live) (hclaimed : delivery.messageId ∈ s.processing)
    (hunprocessed : delivery.messageId ∉ s.processed) : Refused delivery s := by
  have hclaim : s.claimTransportMessage delivery.messageId = (s, .alreadyProcessing) := by
    rw [Session.claimTransportMessage, if_neg hunprocessed, if_pos hclaimed]
  apply refused_of_runs
  intro polls
  have hpolled : ∀ n, (Guarded.under id (claimMessage delivery.messageId polls).run).Runs
      (fun _ (_ : Env F) => True) (fun _ _ => True) (fun _ r _ => ∃ e, r = .error e) n s := by
    induction polls with
    | zero =>
      intro n
      refine Guarded.Runs.bind_ok (runs_locked hlive trivial fun w => ?_)
      rw [hclaim]
      exact ⟨_, rfl⟩
    | succ polls ih =>
      intro n
      refine Guarded.Runs.bind_ok (runs_locked hlive trivial fun w => ?_)
      rw [hclaim]
      exact ih _
  refine Guarded.Runs.bind ((hpolled 0).mono ?_)
  rintro n _ s' ⟨e, rfl⟩ h
  cases h

/-- The node takes the share for a duplicate. -/
theorem refused_of_taken (hs : Admissible delivery s)
    (hunclaimed : delivery.messageId ∉ s.processing)
    (hunprocessed : delivery.messageId ∉ s.processed)
    (hvalue : (Fr.fromBytes delivery.shareValue : Except CryptoError F) = .ok value)
    (htaken : delivery.fromNodeId ∈ s.node.receivedShares) : Refused delivery s := by
  refine refused_of_runs (runs_acceptTransportShare hs hunclaimed hunprocessed hvalue
    (fun _ _ => trivial) (fun _ _ _ _ => ⟨trivial, by simp⟩) fun _ => ⟨trivial, fun evidence => ?_⟩)
  have hlive : (claimedBy delivery s).live := hs.live
  have hreceive : ∃ text, (claimedBy delivery s).node.receiveShare ⟨delivery.fromNodeId,
      delivery.toNodeId, value, delivery.nonce, (claimedBy delivery s).node.sessionId⟩ =
        ((claimedBy delivery s).node, .error (.dkgError text)) := by
    have htaken' : delivery.fromNodeId ∈ (claimedBy delivery s).node.receivedShares := htaken
    unfold DKGNode.receiveShare DKGNode.refuse
    simp only [htaken', if_true]
    split_ifs <;> exact ⟨_, rfl⟩
  obtain ⟨text, hreceive⟩ := hreceive
  refine Guarded.Runs.bind_ok (runs_locked hlive trivial fun w => ?_)
  simp only [Session.receiveShare, hreceive]
  unfold rejectShare
  split
  · exact ⟨trivial, by simp⟩
  · exact ⟨trivial, by simp⟩

/-! ## Where the delivery is dropped -/

/-- The delivery is dropped when it waits to record the share, or to release its claim.  Its fourth
step is the call to the outside; a delivery whose call fails has nothing to record. -/
def Interrupts (answers : List (Env F)) : Prop :=
  if ((answers[3]?).bind Env.outage).isSome then answers.length = 4
  else answers.length = 6 ∨ answers.length = 7

instance (answers : List (Env F)) : Decidable (Interrupts answers) := by
  unfold Interrupts
  infer_instance

section

variable (hs : Deliverable delivery value s)
  (hvalue : (Fr.fromBytes delivery.shareValue : Except CryptoError F) = .ok value)
include hs hvalue

/-- The call to the outside fails, and the claim is released in the fifth step. -/
theorem runs_of_outage (polls : ℕ) : (acceptTransportShareGuarded polls delivery).Runs
    (fun m w => m = 3 → w.outage.isSome)
    (fun m s' => if m = 4 then Refused delivery s' else Accepted delivery s')
    (fun m _ s' => 5 ≤ m ∧ Accepted delivery s') 0 s := by
  have hagain := accepted_of_deliverable hs hvalue
  refine runs_of_deliverable hs hvalue (fun m hm => ?_)
    (fun _ _ _ _ => ⟨?_, le_rfl, hagain⟩) ?_ polls
  · rwa [if_neg (by omega)]
  · exact refused_of_claimed hs.live (List.mem_append_right _ List.mem_cons_self) hs.unprocessed
  · rintro ⟨w, hw, hnone⟩
    have hsome := hw rfl
    rw [hnone] at hsome
    cases hsome

/-- The node has taken the share after six steps, it is recorded after seven, and the claim is
released in the eighth. -/
theorem runs_of_called (polls : ℕ) : (acceptTransportShareGuarded polls delivery).Runs
    (fun m w => m = 3 → w.outage = none)
    (fun m s' => if m = 6 ∨ m = 7 then Refused delivery s' else Accepted delivery s')
    (fun m _ s' => 8 ≤ m ∧ Accepted delivery s') 0 s := by
  have hagain := accepted_of_deliverable hs hvalue
  refine runs_of_deliverable hs hvalue (fun m hm => ?_) (fun w e hw he => ?_) (fun _ => ?_) polls
  · rwa [if_neg (by omega)]
  · rw [hw rfl] at he
    cases he
  · have htaken : Refused delivery (takenBy delivery value s) :=
      refused_of_taken ⟨hs.live, hs.own, hs.selected, hs.evidence⟩ hs.unclaimed hs.unprocessed
        hvalue ((AList.mem_insert _).mpr (.inl rfl))
    have hrecorded : Refused delivery (recordedBy delivery value s) :=
      refused_of_claimed hs.live (List.mem_append_right _ List.mem_cons_self) hs.unprocessed
    have hfinished : Accepted delivery ((recordedBy delivery value s).finishTransportMessage
        delivery.messageId true) :=
      accepted_of_processed hs.live (mem_processed_finishTransportMessage _ _)
        (List.mem_append_right _ List.mem_cons_self) (by simp [Session.finishTransportMessage])
    exact ⟨hagain, hagain, htaken, hrecorded, le_rfl, hfinished⟩

/-- Wherever a delivery is dropped, the same bytes are accepted when they are delivered again
exactly if it was not waiting to record the share or to release its claim.  Otherwise they never
are. -/
theorem share_accepted_of_retry (polls : ℕ) (answers : List (Env F)) :
    let s' := (acceptTransportShareGuarded polls delivery).cancelled s answers
    (Accepted delivery s' ↔ ¬Interrupts answers) ∧ (Interrupts answers → Refused delivery s') := by
  intro s'
  have houtcome : if Interrupts answers then Refused delivery s' else Accepted delivery s' := by
    unfold Interrupts
    by_cases hfails : ((answers[3]?).bind Env.outage).isSome
    · simp only [hfails, if_true]
      have hcalm : ∀ k w, answers[k]? = some w → 0 + k = 3 → w.outage.isSome := by
        intro k w hk hthree
        obtain rfl : k = 3 := by omega
        rwa [hk] at hfails
      have hdropped := (runs_of_outage hs hvalue polls).cancelled
        (fun n m _ s' h hle => by rw [if_neg (by omega)]; exact h.2) hcalm
      rwa [Nat.zero_add] at hdropped
    · simp only [hfails, Bool.false_eq_true, if_false]
      have hcalm : ∀ k w, answers[k]? = some w → 0 + k = 3 → w.outage = none := by
        intro k w hk hthree
        obtain rfl : k = 3 := by omega
        rw [hk] at hfails
        exact Option.not_isSome_iff_eq_none.mp hfails
      have hdropped := (runs_of_called hs hvalue polls).cancelled
        (fun n m _ s' h hle => by rw [if_neg (by omega)]; exact h.2) hcalm
      rwa [Nat.zero_add] at hdropped
  by_cases hinterrupts : Interrupts answers
  · rw [if_pos hinterrupts] at houtcome
    exact ⟨iff_of_false (fun h => h.not_refused houtcome) (not_not.mpr hinterrupts),
      fun _ => houtcome⟩
  · rw [if_neg hinterrupts] at houtcome
    exact ⟨iff_of_true houtcome hinterrupts, fun h => absurd h hinterrupts⟩

end

end

/-! ## Where a delivery is cancelled -/

namespace Pair

def committed : Session F7 F7 :=
  { session .fresh with
    node := ((DKGNode.blank 1 1 2 7 .standard).receiveCommitment 2 ⟨[2]⟩).1 }

/-- The other member's share is cancelled after the steps, and delivered again. -/
def redelivered (count : ℕ) : Session F7 F7 × Except DkgError Bool :=
  (acceptTransportShare 1 peerShare).run.complete (Function.const ℕ quiet)
    ((acceptTransportShareGuarded 1 peerShare).cancelled committed (List.replicate count quiet))

/-- The delivery is cancelled when it waits for the node to take the share. -/
theorem share_accepted_of_cancelled_early :
    (redelivered 5).2 = .ok true ∧ 2 ∈ (redelivered 5).1.receivedShares ∧
      peerShare.messageId ∈ (redelivered 5).1.processed := by
  have hs : Deliverable peerShare 2 committed :=
    { live := rfl
      own := rfl
      selected := by decide
      evidence := .inl rfl
      accepts := ⟨by decide, by decide, by decide, by decide, by decide, rfl, rfl,
        ⟨[2]⟩, by decide +kernel, by decide +kernel⟩
      unclaimed := by decide
      unprocessed := by decide
      unrecorded := by decide }
  have hvalue : (Fr.fromBytes peerShare.shareValue : Except CryptoError F7) = .ok 2 := by
    decide +kernel
  have hcalm : ∀ k : ℕ, (Function.const ℕ quiet k).outage = none := fun _ => rfl
  obtain ⟨hresult, hrecorded, hprocessed, -⟩ := (share_accepted_of_retry hs hvalue 1
    (List.replicate 5 quiet)).1.mpr (by decide) 1 _ hcalm
  unfold redelivered
  exact ⟨hresult, hrecorded, hprocessed⟩

/-- Cancelled when it waits to record the share, the delivery leaves a node that has the share and
takes it for a duplicate.  Cancelled when it waits to release the claim, it leaves a claim that
nobody releases. -/
theorem share_rejected_of_cancelled_late :
    (redelivered 6).2 = .error (.shareVerificationFailed
        "Failed to receive share: Dkg error: Duplicate share from node 2") ∧
      2 ∉ (redelivered 6).1.receivedShares ∧
      (redelivered 7).2 = .error (.networkCommunication
        "timed out waiting for a concurrent claim on a message to finish") ∧
      peerShare.messageId ∈ (redelivered 7).1.processing := by
  decide +kernel

end Pair

end Orbis.Node.Dkg
