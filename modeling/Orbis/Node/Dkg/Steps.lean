import Orbis.Node.Dkg.Handlers

/-!
# What the steps of the handlers can do

A property `P` of handlers that sequencing keeps, and that holds of all handlers whose steps are
within a relation `rel`, holds of the handlers of an attempt if `rel` contains the changes that the
single steps make.  `DealingSteps`, `ShareSteps` and `AttemptSteps` list these changes: those of the
phases after the first, those that also handle shares and acknowledgements, and all.  What a phase
starts and what it signs or sends are listed together, since a property can depend on both.

The `Changes` lists are the same for the property that every step is within `rel`.
-/

namespace Orbis.Node.Dkg

open Orbis.Crypto Orbis.Crypto.Dkg Orbis.Data Orbis.Transition

variable {F E : Type} {rel : Session F E → Session F E → Prop}

section Locked

variable {α : Type}

theorem keeps_locked {f : Env F → Session F E → Session F E × Except DkgError α}
    (hrefl : ∀ s, rel s s) (h : ∀ w s, rel s (f w s).1) : (locked f).run.Keeps rel := by
  refine Task.keeps_atomically fun w s => ?_
  by_cases hlive : s.live
  · simpa only [if_pos hlive] using h w s
  · simpa only [if_neg hlive] using hrefl s

theorem keeps_external (hrefl : ∀ s, rel s s) : (external (F := F) (E := E)).run.Keeps rel :=
  Task.keeps_atomically fun _ s => hrefl s

variable (rel) in
theorem composes_within : Task.Composes (Task.Keeps (ω := Env F) rel) := Task.composes_keeps

end Locked

variable [Field F] [AddCommGroup E] [Module F E] [Curve E]

/-! ## The own dealing -/

theorem generateShares_fst (s : Session F E) (rng : ℕ → F) (nonce : ℕ → Bytes) :
    (s.generateShares rng nonce).1 = (s.ensurePolynomial rng).1 := by
  unfold Session.generateShares
  rcases s.ensurePolynomial rng with ⟨s', r⟩
  cases r <;> rfl

theorem prepareOwnCommitment_fst [Repr32 E] (s : Session F E) (rng : ℕ → F) :
    (s.prepareOwnCommitment rng).1 = (s.ensurePolynomial rng).1 := by
  unfold Session.prepareOwnCommitment
  rcases s.ensurePolynomial rng with ⟨s', r⟩
  cases r <;> rfl

theorem prepareOwnHash_fst [Repr32 E] [Sha256] (s : Session F E) (rng : ℕ → F) :
    (s.prepareOwnHash rng).1 = s ∨ (s.prepareOwnHash rng).1 = (s.ensurePolynomial rng).1 := by
  unfold Session.prepareOwnHash
  split
  · exact .inl rfl
  split
  · exact .inl rfl
  · rcases s.ensurePolynomial rng with ⟨s', r⟩
    cases r <;> exact .inr rfl

variable [DecidableEq F] {P : ∀ {α : Type}, Task (Env F) (Session F E) α → Prop}

/-! ## The phases after the first -/

variable (rel P) in
structure DealingSteps : Prop extends Task.Composes P where
  frame : ∀ {α : Type} {t : Task (Env F) (Session F E) α}, t.Keeps rel → P t
  refl : ∀ s, rel s s
  claimTransition : ∀ s event, rel s (s.claimTransition event).1
  abort : ∀ s, rel s { s with live := false }
  complete : ∀ s, rel s (s.updatePhase .phase4Complete)
  ackValidShare : ∀ s reshare dealerId, s.reshare = some reshare →
    rel s (s.updateReshare ((s.toReshareSession reshare).ackValidShare dealerId).1)
  shareAck : ∀ receiverNodeId dealerId,
    P (driveEvent (F := F) (E := E) runCompletion .reshareParticipantSetAccepted).run →
    P (handleReshareShareAck (F := F) (E := E) receiverNodeId dealerId).run
  phase2 : (∀ localNodeId,
      P (driveEvent (F := F) (E := E) runPostPhase2 (.phase2SharesDistributed localNodeId)).run) →
    P (initiatePhase2Shares (F := F) (E := E)).run

namespace DealingSteps

variable {α : Type} (h : DealingSteps rel P)

include h

theorem locked {f : Env F → Session F E → Session F E × Except DkgError α}
    (hf : ∀ w s, rel s (f w s).1) : P (locked f).run :=
  h.frame (keeps_locked h.refl hf)

theorem inspect (f : Session F E → α) : P (inspect f).run := h.locked fun _ s => h.refl s

theorem update {f : Session F E → Session F E} (hf : ∀ s, rel s (f s)) : P (update f).run :=
  h.locked fun _ s => hf s

theorem external : P (external (F := F) (E := E)).run := h.frame (keeps_external h.refl)

theorem onlyIf {condition : Bool} {body : HandlerM F E Unit} (hbody : P body.run) :
    P (onlyIf condition body).run := by
  cases condition with
  | false => exact h.done _
  | true => exact hbody

theorem finishing {messageId : MessageId} {body : HandlerM F E α} (hbody : P body.run)
    (hfinish : ∀ s success, rel s (s.finishTransportMessage messageId success)) :
    P (finishing messageId body).run := by
  refine h.bind hbody fun result => h.bind (h.frame (Task.keeps_atomically fun w s => ?_))
    fun _ => h.done _
  by_cases hlive : s.live
  · simpa only [if_pos hlive] using hfinish s _
  · simpa only [if_neg hlive] using h.refl s

theorem driveEvent {run : DkgCommand → HandlerM F E Unit} (hrun : ∀ command, P (run command).run)
    (event : DkgEvent) : P (driveEvent run event).run :=
  h.bind_ok (h.locked fun _ s => h.claimTransition s event) fun _ =>
    h.forM fun command _ => hrun command

theorem abortAttempt : P (abortAttempt (F := F) (E := E)).run := h.update h.abort

theorem handleCommitmentAuditMessage :
    P (handleCommitmentAuditMessage (F := F) (E := E)).run := by
  refine h.bind_ok (h.inspect _) fun isFresh => ?_
  split
  · exact h.done _
  · exact h.external

theorem handleResult (fromNodeId sessionId : ℕ) :
    P (handleResult (F := F) (E := E) fromNodeId sessionId).run := by
  unfold Dkg.handleResult
  split
  · exact h.done _
  · refine h.bind_ok (h.inspect _) fun routed => ?_
    split
    · exact h.done _
    · exact h.external

theorem completePhase4 : P (completePhase4 (F := F) (E := E)).run := by
  refine h.bind_ok (h.inspect _) fun kind => ?_
  refine h.bind_ok (h.tryCatch h.external fun e => ?_) fun _ => h.onlyIf (h.update h.complete)
  exact h.bind_ok h.abortAttempt fun _ => h.done _

theorem runCompletion (command : DkgCommand) :
    P (runCompletion (F := F) (E := E) command).run := by
  cases command with
  | completePhase4 => exact h.completePhase4
  | _ => exact h.done _

theorem handleReshareShareAck (receiverNodeId dealerId : ℕ) :
    P (handleReshareShareAck (F := F) (E := E) receiverNodeId dealerId).run :=
  h.shareAck _ _ (h.driveEvent h.runCompletion _)

theorem ackValidReshareShare (dealerId : ℕ) :
    P (ackValidReshareShare (F := F) (E := E) dealerId).run := by
  refine h.bind_ok (h.locked fun w s => ?_) fun rest => ?_
  · by_cases hkind : s.kind.isReshare
    · cases hreshare : s.reshare with
      | none => simpa [hkind, hreshare] using h.refl s
      | some reshare =>
        simpa [hkind, hreshare] using h.ackValidShare s reshare dealerId hreshare
    · simpa [hkind] using h.refl s
  · split
    · exact h.handleReshareShareAck _ _
    · exact h.done _

theorem runPostPhase2 (command : DkgCommand) :
    P (runPostPhase2 (F := F) (E := E) command).run := by
  cases command with
  | ackValidReshareShare dealerId => exact h.ackValidReshareShare dealerId
  | completePhase4 => exact h.completePhase4
  | initiatePhase2Shares | revealCommitment => exact h.done _

theorem initiatePhase2Shares : P (initiatePhase2Shares (F := F) (E := E)).run :=
  h.phase2 fun _ => h.driveEvent h.runPostPhase2 _

theorem runAfterReveal (command : DkgCommand) :
    P (runAfterReveal (F := F) (E := E) command).run := by
  cases command with
  | initiatePhase2Shares => exact h.initiatePhase2Shares
  | ackValidReshareShare dealerId => exact h.ackValidReshareShare dealerId
  | completePhase4 => exact h.completePhase4
  | revealCommitment => exact h.done _

theorem checkAndTriggerPhase2 : P (checkAndTriggerPhase2 (F := F) (E := E)).run :=
  h.driveEvent h.runAfterReveal _

theorem checkAndTriggerPhase4 : P (checkAndTriggerPhase4 (F := F) (E := E)).run :=
  h.driveEvent h.runAfterReveal _

theorem driveAcceptedShare (fromNodeId : ℕ) :
    P (driveAcceptedShare (F := F) (E := E) fromNodeId).run :=
  h.driveEvent h.runAfterReveal _

theorem prepareCommitment [DecidableEq E] [Repr32 E] [Sha256]
    (fromNodeId : ℕ) (commitment : Bytes) (expected : Option Bytes) :
    P (prepareCommitment (F := F) (E := E) fromNodeId commitment expected).run := by
  refine h.bind_ok (h.done _) fun _ => h.bind_ok (h.inspect _) fun before => ?_
  refine h.bind_ok (h.done _) fun _ => h.bind_ok (h.done _) fun _ => ?_
  refine h.bind_ok h.external fun _ => h.bind_ok (h.done _) fun polynomialCommitment => ?_
  split <;> exact h.done _

theorem preflightCommitmentHash [DecidableEq E] [Repr32 E] [Sha256]
    (fromNodeId : ℕ) (commitmentHash : Bytes) :
    P (preflightCommitmentHash (F := F) (E := E) fromNodeId commitmentHash).run := by
  refine h.bind_ok (h.locked fun w s => ?_) fun r => ?_
  · split <;> exact h.refl s
  obtain ⟨existing, pending⟩ := r
  refine h.bind_ok (h.done _) fun _ => ?_
  cases pending with
  | some commitment => exact h.bind_ok (h.prepareCommitment _ _ _) fun _ => h.done _
  | none => exact h.done _

theorem claiming {messageId : MessageId}
    (hclaim : ∀ s : Session F E, rel s (s.claimTransportMessage messageId).1) (polls : ℕ) :
    P (Dkg.claimMessage (F := F) (E := E) messageId polls).run := by
  have hround : ∀ retry : HandlerM F E Bool, P retry.run → P (claimRound messageId retry).run := by
    intro retry hretry
    refine h.bind_ok (h.locked fun _ s => hclaim s) fun claim => ?_
    cases claim with
    | claimed | alreadyProcessed => exact h.done _
    | alreadyProcessing => exact hretry
  induction polls with
  | zero => exact hround _ (h.done _)
  | succ polls ih => exact hround _ ih

theorem replaying [DecidableEq E] {pending : PendingShare F}
    (hreceive : ∀ s : Session F E, rel s (s.receiveShare pending.share).1)
    (hrecord : ∀ s : Session F E, rel s (s.recordReceivedShare pending.share.fromId)) :
    P (replayShare (E := E) pending).run := by
  refine h.tryCatch ?_ fun _ => h.done _
  refine h.bind_ok (h.locked fun _ s => hreceive s) fun outcome => ?_
  split
  · exact h.bind_ok (h.update hrecord) fun _ => h.driveAcceptedShare _
  · exact h.done _

theorem accepting {fromNodeId : ℕ} {selectedDealerIds : List ℕ}
    (hset : ∀ (s : Session F E) (reshare : ReshareState F), s.reshare = some reshare →
      rel s (s.updateReshare ((s.toReshareSession reshare).handleReshareParticipantSet fromNodeId
        selectedDealerIds).1)) :
    P (handleReshareParticipantSet (F := F) (E := E) fromNodeId selectedDealerIds).run := by
  refine h.bind_ok (h.locked fun _ s => ?_) fun _ => h.onlyIf (h.driveEvent h.runAfterReveal _)
  cases hreshare : s.reshare with
  | none => exact h.refl s
  | some reshare => exact hset s reshare hreshare

end DealingSteps

/-! ## Handlers whose steps are within a relation -/

variable (rel) in
/-- The changes of the phases after the first. -/
structure DealingChanges : Prop where
  refl : ∀ s, rel s s
  claimTransition : ∀ s event, rel s (s.claimTransition event).1
  looks : ∀ s, ¬(s.phase = .phase2Shares ∨ s.phase = .phase4Completing ∨
    s.phase = .phase4Complete) → rel s (s.record [.looked s.phase])
  updatePhase : ∀ s phase, rel s (s.updatePhase phase)
  abort : ∀ s, rel s { s with live := false }
  generatePolynomial : ∀ s rng, rel s (s.generatePolynomial rng).1
  shareAck : ∀ s reshare receiverNodeId dealerId, s.reshare = some reshare →
    rel s (s.updateReshare
      ((s.toReshareSession reshare).handleReshareShareAck receiverNodeId dealerId).1)
  ackValidShare : ∀ s reshare dealerId, s.reshare = some reshare →
    rel s (s.updateReshare ((s.toReshareSession reshare).ackValidShare dealerId).1)
  sign : ∀ s contribution, contribution.payload.phase ≠ .commitments →
    rel s (s.record [.signed contribution])
  recordPublicContribution : ∀ s contribution, rel s (s.recordPublicContribution contribution).1
  cachePrivateMessage : ∀ s share, rel s (s.cachePrivateMessage share)

theorem DealingChanges.both {rel' rel'' : Session F E → Session F E → Prop}
    (h : DealingChanges rel) (h' : DealingChanges rel')
    (himp : ∀ s s', rel s s' → rel' s s' → rel'' s s') : DealingChanges rel'' where
  refl s := himp _ _ (h.refl s) (h'.refl s)
  claimTransition s event := himp _ _ (h.claimTransition s event) (h'.claimTransition s event)
  looks s hphase := himp _ _ (h.looks s hphase) (h'.looks s hphase)
  updatePhase s phase := himp _ _ (h.updatePhase s phase) (h'.updatePhase s phase)
  abort s := himp _ _ (h.abort s) (h'.abort s)
  generatePolynomial s rng := himp _ _ (h.generatePolynomial s rng) (h'.generatePolynomial s rng)
  shareAck s _ _ _ hreshare := himp _ _ (h.shareAck s _ _ _ hreshare) (h'.shareAck s _ _ _ hreshare)
  ackValidShare s _ _ hreshare :=
    himp _ _ (h.ackValidShare s _ _ hreshare) (h'.ackValidShare s _ _ hreshare)
  sign s _ hphase := himp _ _ (h.sign s _ hphase) (h'.sign s _ hphase)
  recordPublicContribution s contribution :=
    himp _ _ (h.recordPublicContribution s contribution)
      (h'.recordPublicContribution s contribution)
  cachePrivateMessage s share :=
    himp _ _ (h.cachePrivateMessage s share) (h'.cachePrivateMessage s share)

theorem DealingChanges.mono {rel' : Session F E → Session F E → Prop} (h : DealingChanges rel)
    (himp : ∀ s s', rel s s' → rel' s s') : DealingChanges rel' :=
  h.both h fun s s' hrel _ => himp s s' hrel

namespace DealingChanges

variable (h : DealingChanges rel)

include h

theorem ensurePolynomial (s : Session F E) (rng : ℕ → F) : rel s (s.ensurePolynomial rng).1 := by
  unfold Session.ensurePolynomial
  split
  · exact h.refl s
  · exact h.generatePolynomial s rng

theorem keeps_update {f : Session F E → Session F E} (hf : ∀ s, rel s (f s)) :
    (update f).run.Keeps rel :=
  keeps_locked h.refl fun _ s => hf s

theorem keeps_inspect {α : Type} (f : Session F E → α) : (inspect f).run.Keeps rel :=
  keeps_locked h.refl fun _ s => h.refl s

theorem keeps_submitPublicContribution {payload : PublicPayload}
    (hsign : ∀ s origin now, rel s (s.record [.signed ⟨origin, now, payload⟩])) :
    (submitPublicContribution payload).run.Keeps rel := by
  have hc := composes_within rel
  refine hc.bind_ok (keeps_locked h.refl fun w s => ?_) fun origin => ?_
  · by_cases hactive : s.activated
    · simpa [hactive] using h.refl s
    · simpa [hactive] using h.refl s
  refine hc.bind_ok (keeps_locked h.refl fun w s => hsign s origin w.now) fun contribution => ?_
  refine hc.bind_ok (keeps_external h.refl) fun _ => ?_
  exact hc.bind_ok (keeps_locked h.refl fun w s => h.recordPublicContribution s contribution)
    fun _ => keeps_external h.refl

theorem keeps_handleReshareShareAck (receiverNodeId dealerId : ℕ)
    (hdrive : (driveEvent (F := F) (E := E) runCompletion
      .reshareParticipantSetAccepted).run.Keeps rel) :
    (handleReshareShareAck (F := F) (E := E) receiverNodeId dealerId).run.Keeps rel := by
  have hc := composes_within rel
  refine hc.bind_ok (keeps_locked h.refl fun w s => ?_) fun frozen => ?_
  · cases hreshare : s.reshare with
    | none => exact h.refl s
    | some reshare => exact h.shareAck s reshare receiverNodeId dealerId hreshare
  · cases frozen with
    | none => exact hc.done _
    | some selectedDealers =>
      refine hc.bind_ok (h.keeps_submitPublicContribution fun s origin now => ?_) fun _ => hdrive
      exact h.sign s _ (by simp [PublicPayload.phase])

theorem keeps_retainShare (before : Session F E) (share : DistributedShare F) :
    (retainShare before share).run.Keeps rel := by
  unfold retainShare
  dsimp only
  split
  · trivial
  split
  · trivial
  · exact h.keeps_update fun s => h.cachePrivateMessage s share

theorem keeps_initiatePhase2Shares
    (hdrive : ∀ localNodeId, (driveEvent (F := F) (E := E) runPostPhase2
      (.phase2SharesDistributed localNodeId)).run.Keeps rel) :
    (initiatePhase2Shares (F := F) (E := E)).run.Keeps rel := by
  have hc := composes_within rel
  refine hc.bind_ok (keeps_locked h.refl fun w s => ?_) fun r => ?_
  · have hstep := h.ensurePolynomial s w.rng
    rw [← generateShares_fst s w.rng w.nonce] at hstep
    exact hstep
  obtain ⟨shares, before⟩ := r
  refine hc.bind_ok (h.keeps_update fun s => h.updatePhase s _) fun _ => ?_
  refine hc.bind_ok (keeps_external h.refl) fun _ => ?_
  split
  · exact hc.bind_ok (h.keeps_update h.abort) fun _ => hc.done _
  split
  · exact hc.done _
  · refine hc.bind_ok (hc.forM fun share _ => h.keeps_retainShare before share) fun _ => ?_
    exact hc.bind_ok (keeps_external h.refl) fun _ => hdrive _

theorem steps : DealingSteps rel (Task.Keeps rel) where
  toComposes := Task.composes_keeps
  frame := id
  refl := h.refl
  claimTransition := h.claimTransition
  abort := h.abort
  complete s := h.updatePhase s _
  ackValidShare := h.ackValidShare
  shareAck := h.keeps_handleReshareShareAck
  phase2 := h.keeps_initiatePhase2Shares

/-- The first phase also signs the node's commitment. -/
theorem keeps_initiatePhase1Commitments [Repr32 E]
    (hsign : ∀ s contribution, rel s (s.record [.signed contribution])) :
    (initiatePhase1Commitments (F := F) (E := E)).run.Keeps rel := by
  have hc := composes_within rel
  refine hc.bind_ok (keeps_locked h.refl fun w s => ?_) fun alreadyStarted => ?_
  · split
    · exact h.refl s
    next hphase => exact h.looks s hphase
  split
  · exact hc.done _
  refine hc.bind_ok (h.keeps_inspect _) fun isReshareReceiver => ?_
  split
  · exact hc.done _
  refine hc.bind_ok (h.keeps_inspect _) fun tooEarly => ?_
  split
  · exact hc.done _
  refine hc.bind_ok (keeps_locked h.refl fun w s => ?_) fun r => ?_
  · have hstep := h.ensurePolynomial s w.rng
    rw [← prepareOwnCommitment_fst s w.rng] at hstep
    exact hstep
  obtain ⟨commitment, deals⟩ := r
  refine hc.bind_ok (h.keeps_update fun s => h.updatePhase s _) fun _ => ?_
  refine hc.bind_ok (keeps_external h.refl) fun _ => ?_
  refine hc.bind_ok (h.keeps_submitPublicContribution fun s origin now => hsign s _) fun _ => ?_
  split
  · exact h.steps.initiatePhase2Shares
  · exact h.steps.checkAndTriggerPhase2

theorem keeps_driveHashRecorded [Repr32 E]
    (hsign : ∀ s contribution, rel s (s.record [.signed contribution])) :
    (driveEvent (F := F) (E := E) runCommand .commitmentHashRecorded).run.Keeps rel := by
  refine h.steps.driveEvent (fun command => ?_) _
  cases command with
  | revealCommitment =>
    exact Task.composes_keeps.bind_ok (h.keeps_initiatePhase1Commitments hsign) fun _ =>
      h.steps.checkAndTriggerPhase2
  | initiatePhase2Shares => exact h.steps.runAfterReveal .initiatePhase2Shares
  | ackValidReshareShare dealerId => exact h.steps.runAfterReveal (.ackValidReshareShare dealerId)
  | completePhase4 => exact h.steps.runAfterReveal .completePhase4

end DealingChanges

variable (rel) in
/-- The changes of the attempt's begin, and the signature under a commitment. -/
structure BeginChanges : Prop where
  sign : ∀ s contribution, rel s (s.record [.signed contribution])
  beginTransport : ∀ s, rel s s.beginTransport.1
  broadcastComplete : ∀ s, rel s { s with ownHashBroadcastComplete := true }

theorem DealingChanges.keeps_onBegin [Repr32 E] [Sha256]
    (h : DealingChanges rel) (hbegin : BeginChanges rel)
    (hphase1 : (initiatePhase1Commitments (F := F) (E := E)).run.Keeps rel)
    (hdrive : (driveEvent (F := F) (E := E) runCommand .commitmentHashRecorded).run.Keeps rel) :
    (onBegin (F := F) (E := E)).run.Keeps rel := by
  have hc := composes_within rel
  refine hc.bind_ok (keeps_locked h.refl fun _ s => hbegin.beginTransport s) fun begun =>
    h.steps.onlyIf (hc.bind_ok (h.keeps_inspect _) fun kind => ?_)
  split
  · refine hc.bind_ok (keeps_locked h.refl fun w s => ?_) fun commitmentHash => ?_
    · rcases prepareOwnHash_fst s w.rng with heq | heq
      · rw [heq]
        exact h.refl s
      · rw [heq]
        exact h.ensurePolynomial s w.rng
    refine hc.bind_ok (h.keeps_update fun s => h.updatePhase s _) fun _ => ?_
    refine hc.bind_ok (h.keeps_submitPublicContribution fun s _ _ => hbegin.sign s _) fun _ => ?_
    exact hc.bind_ok (h.keeps_update hbegin.broadcastComplete) fun _ => hdrive
  · exact hphase1

variable [DecidableEq E]

/-! ## Shares and acknowledgements -/

variable (rel) in
structure ShareChanges : Prop where
  claimMessage : ∀ s messageId, rel s (s.claimTransportMessage messageId).1
  finishMessage : ∀ s messageId success, (∀ contribution, messageId ≠ .contribution contribution) →
    rel s (s.finishTransportMessage messageId success)
  receiveShare : ∀ s share, rel s (s.receiveShare share).1
  recordReceivedShare : ∀ s dealerId, rel s (s.recordReceivedShare dealerId)
  storePendingShare : ∀ s pending, rel s (s.storePendingShare pending)
  participantSet : ∀ s reshare fromNodeId selectedDealers, s.reshare = some reshare →
    rel s (s.updateReshare ((s.toReshareSession reshare).handleReshareParticipantSet fromNodeId
      selectedDealers).1)

variable (rel P) in
structure ShareSteps : Prop extends DealingSteps rel P, ShareChanges rel

namespace ShareSteps

variable (h : ShareSteps rel P)

include h

theorem claim (messageId : MessageId) (polls : ℕ) :
    P (Dkg.claimMessage (F := F) (E := E) messageId polls).run :=
  h.claiming (fun s => h.claimMessage s messageId) polls

theorem verifyShareEvidence (evidence : Option Bytes) :
    P (verifyShareEvidence (F := F) (E := E) evidence).run :=
  h.bind_ok h.external fun _ => h.locked fun _ s => h.refl s

theorem replayShare (pending : PendingShare F) : P (replayShare (E := E) pending).run :=
  h.replaying (fun s => h.receiveShare s _) fun s => h.recordReceivedShare s _

theorem onReshareShareAck (polls receiverNodeId dealerId : ℕ) :
    P (onReshareShareAck (F := F) (E := E) polls receiverNodeId dealerId).run :=
  h.bind_ok (h.claim _ _) fun _ => h.onlyIf
    (h.finishing (h.handleReshareShareAck _ _) fun s success =>
      h.finishMessage s _ success (by simp))

theorem handleReshareParticipantSet (fromNodeId : ℕ) (selectedDealerIds : List ℕ) :
    P (handleReshareParticipantSet (F := F) (E := E) fromNodeId selectedDealerIds).run :=
  h.accepting fun s reshare hreshare => h.participantSet s reshare _ _ hreshare

variable [Repr32 F] [Repr32 E]

theorem rejectShare (toNodeId : ℕ) (shareValue : Bytes) (evidence : Option Bytes) (e : DkgError) :
    P (rejectShare (F := F) (E := E) toNodeId shareValue evidence e).run := by
  unfold Dkg.rejectShare
  split <;> exact h.done _

theorem receiveOrQueueShare (delivery : ShareDelivery) (value : F) (evidence : Option Bytes) :
    P (receiveOrQueueShare (E := E) delivery value evidence).run := by
  refine h.bind_ok (h.locked fun _ s => h.receiveShare s _) fun r => ?_
  obtain ⟨share, outcome⟩ := r
  dsimp only
  split
  · exact h.bind_ok (h.update fun s => h.recordReceivedShare s _) fun _ => h.done _
  · split
    · exact h.bind_ok (h.update fun s => h.storePendingShare s _) fun _ => h.done _
    · exact h.rejectShare _ _ _ _
  · exact h.rejectShare _ _ _ _

theorem acceptShareMessage (delivery : ShareDelivery) :
    P (acceptShareMessage (F := F) (E := E) delivery).run := by
  refine h.bind_ok (h.locked fun _ s => h.refl s) fun ourNodeId => ?_
  split
  · exact h.done _
  refine h.bind_ok (h.inspect _) fun ignored => ?_
  split
  · exact h.done _
  split
  · exact h.bind_ok (h.verifyShareEvidence _) fun _ => h.rejectShare _ _ _ _
  · exact h.bind_ok (h.verifyShareEvidence _) fun _ => h.receiveOrQueueShare _ _ _

theorem acceptTransportShare (polls : ℕ) (delivery : ShareDelivery) :
    P (acceptTransportShare (F := F) (E := E) polls delivery).run := by
  refine h.bind_ok (h.claim _ _) fun claimed => ?_
  split
  · exact h.finishing (h.acceptShareMessage delivery) fun s success =>
      h.finishMessage s _ success (by simp [ShareDelivery.messageId])
  · exact h.inspect _

theorem handleShareDelivery (polls : ℕ) (delivery : ShareDelivery) :
    P (handleShareDelivery (F := F) (E := E) polls delivery).run :=
  h.bind_ok (h.acceptTransportShare polls delivery) fun _ => h.onlyIf (h.driveAcceptedShare _)

end ShareSteps

/-! ## All handlers -/

variable [Repr32 E] [Sha256]

variable (rel) in
structure CommitmentChanges : Prop where
  finishContribution : ∀ s contribution success,
    rel s (s.finishTransportMessage (.contribution contribution) success)
  generatePolynomial : ∀ s rng, rel s (s.generatePolynomial rng).1
  recordCommitmentHash : ∀ s fromNodeId commitmentHash,
    rel s (s.recordCommitmentHash fromNodeId commitmentHash).1
  parkCommitment : ∀ s fromNodeId commitment, rel s (s.parkCommitment fromNodeId commitment)
  unparkCommitment : ∀ s fromNodeId,
    rel s { s with pendingCommitments := s.pendingCommitments.erase fromNodeId }
  receiveCommitment : ∀ s fromNodeId commitment, rel s (s.receiveCommitment fromNodeId commitment).1
  takePendingShare : ∀ s fromNodeId, rel s (s.takePendingShare fromNodeId).1

variable (rel P) in
structure AttemptSteps : Prop extends ShareSteps rel P, CommitmentChanges rel where
  phase1 : P (initiatePhase2Shares (F := F) (E := E)).run →
    P (checkAndTriggerPhase2 (F := F) (E := E)).run →
    P (initiatePhase1Commitments (F := F) (E := E)).run
  begins : P (initiatePhase1Commitments (F := F) (E := E)).run →
    P (driveEvent (F := F) (E := E) runCommand .commitmentHashRecorded).run →
    P (onBegin (F := F) (E := E)).run

namespace AttemptSteps

variable (h : AttemptSteps rel P)

include h

theorem initiatePhase1Commitments : P (initiatePhase1Commitments (F := F) (E := E)).run :=
  h.phase1 h.initiatePhase2Shares h.checkAndTriggerPhase2

theorem runCommand (command : DkgCommand) : P (runCommand (F := F) (E := E) command).run := by
  cases command with
  | revealCommitment =>
    exact h.bind_ok h.initiatePhase1Commitments fun _ => h.checkAndTriggerPhase2
  | initiatePhase2Shares => exact h.runAfterReveal .initiatePhase2Shares
  | ackValidReshareShare dealerId => exact h.runAfterReveal (.ackValidReshareShare dealerId)
  | completePhase4 => exact h.runAfterReveal .completePhase4

theorem onBegin : P (onBegin (F := F) (E := E)).run :=
  h.begins h.initiatePhase1Commitments (h.driveEvent h.runCommand _)

theorem startLazily : P (startLazily (F := F) (E := E)).run := by
  refine h.bind_ok (h.locked fun w s => ?_) fun _ =>
    h.onlyIf (h.bind_ok (h.inspect _) fun _ => h.initiatePhase1Commitments)
  by_cases hpolynomial : s.hasPolynomial
  · simpa [hpolynomial] using h.refl s
  · simpa [hpolynomial] using h.generatePolynomial s w.rng

theorem afterCommitment (fromNodeId : ℕ) (needToGenerate isReshare : Bool) :
    P (afterCommitment (F := F) (E := E) fromNodeId needToGenerate isReshare).run := by
  refine h.bind_ok (h.onlyIf h.startLazily) fun _ => h.bind_ok (h.inspect _) fun _ => ?_
  refine h.bind_ok (h.onlyIf h.checkAndTriggerPhase2) fun _ => ?_
  refine h.bind_ok (h.onlyIf h.checkAndTriggerPhase4) fun _ => ?_
  refine h.bind_ok (h.locked fun _ s => h.takePendingShare s fromNodeId) fun pending => ?_
  cases pending with
  | some pending => exact h.replayShare pending
  | none => exact h.done _

theorem handleCommitmentMessage (fromNodeId : ℕ) (commitment : Bytes) :
    P (handleCommitmentMessage (F := F) (E := E) fromNodeId commitment).run := by
  refine h.bind_ok (h.prepareCommitment _ _ _) fun prepared => ?_
  cases prepared with
  | waitingForHash => exact h.update fun s => h.parkCommitment s fromNodeId commitment
  | ready polynomialCommitment isReshare =>
    exact h.bind_ok (h.locked fun _ s => h.receiveCommitment s fromNodeId polynomialCommitment)
      fun _ => h.afterCommitment _ _ _

theorem handleCommitmentHashMessage (fromNodeId : ℕ) (commitmentHash : Bytes) :
    P (handleCommitmentHashMessage (F := F) (E := E) fromNodeId commitmentHash).run := by
  refine h.bind_ok (h.preflightCommitmentHash _ _) fun _ => ?_
  refine h.bind_ok (h.locked fun _ s => h.recordCommitmentHash s _ _) fun _ => ?_
  refine h.bind_ok (h.inspect _) fun pending => h.bind_ok ?_ fun _ =>
    h.bind_ok (h.inspect _) fun _ => h.driveEvent h.runCommand _
  cases pending with
  | some commitment =>
    exact h.bind_ok (h.handleCommitmentMessage _ _) fun _ =>
      h.update fun s => h.unparkCommitment s fromNodeId
  | none => exact h.done _

theorem handleContribution (polls : ℕ) (contribution : PublicContribution) :
    P (handleContribution (F := F) (E := E) polls contribution).run := by
  refine h.bind_ok (h.inspect _) fun permitted => ?_
  split
  · refine h.bind_ok (h.claim _ _) fun claimed =>
      h.onlyIf (h.finishing ?_ fun s success => h.finishContribution s contribution success)
    refine h.bind_ok (h.inspect _) fun localIsOrigin => ?_
    split
    · exact h.done _
    split
    · exact h.handleCommitmentHashMessage _ _
    · exact h.handleCommitmentMessage _ _
    · exact h.handleCommitmentAuditMessage
    · exact h.handleResult _ _
    · split
      · exact h.done _
      · exact h.handleReshareParticipantSet _ _
  · exact h.done _

theorem handler [Repr32 F] (input : Input) : P (handler (F := F) (E := E) input) := by
  cases input with
  | begin => exact h.onBegin
  | contribution polls contribution => exact h.handleContribution polls contribution
  | share polls delivery => exact h.handleShareDelivery polls delivery
  | shareAck polls receiverNodeId dealerId =>
    exact h.onReshareShareAck polls receiverNodeId dealerId

end AttemptSteps

theorem attemptSteps_keeps (hdealing : DealingChanges rel) (hshare : ShareChanges rel)
    (hcommitment : CommitmentChanges rel) (hbegin : BeginChanges rel) :
    AttemptSteps rel (Task.Keeps rel) where
  toDealingSteps := hdealing.steps
  toShareChanges := hshare
  toCommitmentChanges := hcommitment
  phase1 _ _ := hdealing.keeps_initiatePhase1Commitments hbegin.sign
  begins := hdealing.keeps_onBegin hbegin

end Orbis.Node.Dkg
