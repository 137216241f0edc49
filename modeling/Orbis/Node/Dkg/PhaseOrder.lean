import Orbis.Node.Dkg.Frames

/-!
# The order of the phases

The state machine only claims a phase that comes after the one it finds, and issues the command of
a phase together with it.  The phase starters write their phase some steps after they have looked at
it, and a departing dealer completes without looking.  If nobody moves the phase in between, it only
moves forward and every command is issued at most once; a starter that has been overtaken goes back,
and the command of the later phase is issued again.

The counters that the phases wait for count different dealers, in whatever order the steps are
taken.
-/

namespace Orbis.Node.Dkg

open Orbis.Crypto Orbis.Crypto.Dkg Orbis.Data Orbis.Transition

section

variable {F E : Type}

/-! ## Transitions -/

section Transition

variable {snapshot : SessionSnapshot} {event : DkgEvent} {command : DkgCommand} {phase : DkgPhase}

/-- The command of a phase is issued at most once by a transition, and only by one that enters the
phase. -/
theorem count_commands_le (h : command.entered = some phase) :
    (transition snapshot event).commands.count command ≤
      if (transition snapshot event).nextPhase = some phase then 1 else 0 := by
  have hshape := transition_shape snapshot event
  generalize transition snapshot event = t at hshape
  cases hshape with
  | stays hreveal hphase2 hphase4 =>
    cases command with
    | ackValidReshareShare dealerId => cases h
    | revealCommitment => simp [List.count_eq_zero_of_not_mem hreveal]
    | initiatePhase2Shares => simp [List.count_eq_zero_of_not_mem hphase2]
    | completePhase4 => simp [List.count_eq_zero_of_not_mem hphase4]
  | reveals hreveal hevent | shares hshares hevent =>
    cases command <;> simp_all [DkgCommand.entered]
  | completes hcompletes hreveal hphase2 hphase4 =>
    cases command with
    | ackValidReshareShare dealerId => cases h
    | revealCommitment => simp [List.count_eq_zero_of_not_mem hreveal]
    | initiatePhase2Shares => simp [List.count_eq_zero_of_not_mem hphase2]
    | completePhase4 =>
      simp_all [DkgCommand.entered, List.count_eq_zero_of_not_mem hphase4]
  | departs hrole => cases command <;> simp_all [DkgCommand.entered]

/-- A phase that is entered comes after the one that is left, but for the end of a departing
dealer. -/
theorem lt_of_nextPhase (h : (transition snapshot event).nextPhase = some phase) :
    snapshot.phase < phase ∨ snapshot.role = .dealer ∧ phase = .phase4Completing ∧
      (transition snapshot event).commands = [.completePhase4] := by
  have hshape := transition_shape snapshot event
  generalize transition snapshot event = t at hshape h
  cases hshape with
  | stays hreveal hphase2 hphase4 => cases h
  | reveals hreveal hevent =>
    cases h
    left
    rw [phase_of_shouldRevealCommitment hreveal]
    decide
  | shares hshares hevent =>
    cases h
    exact .inl (phase_of_shouldInitiatePhase2 hshares)
  | completes hcompletes hreveal hphase2 hphase4 =>
    cases h
    exact .inl (phase_of_shouldCompletePhase4 hcompletes)
  | departs hrole =>
    cases h
    exact .inr ⟨hrole, rfl, rfl⟩

end Transition

/-! ## Steps -/

/-- What an act shows the starter of a phase: the starter of the first phase looks; that of the
second follows a claim, or the start of the first phase; a departing dealer has started the
second. -/
def Act.shows : DkgPhase → Act → Option DkgPhase
  | .phase1Commitments, .looked phase => some phase
  | .phase2Shares, .issued .initiatePhase2Shares => some .phase2Shares
  | .phase2Shares, .started .phase1Commitments => some .phase1Commitments
  | .phase4Completing, .started .phase2Shares => some .phase2Shares
  | _, _ => none

/-- The phase in which a starter has last seen the attempt.  The hashes are the first to be started,
after the attempt has begun. -/
def lastSeen (phase : DkgPhase) (history : List Act) : Option DkgPhase :=
  if phase = .phase0CommitmentHashes then some .initializing
  else history.reverse.findSome? (Act.shows phase)

/-- Nobody has moved the phase since the starter that writes it, or the dealer that departs, has
seen it. -/
structure Undisturbed (s s' : Session F E) : Prop where
  started : ∀ phase ≠ .phase4Complete, s'.history = s.history ++ [.started phase] →
    lastSeen phase s.history = some s.phase
  departs : s.node.role = .dealer → s'.history = s.history ++ [.issued .completePhase4] →
    lastSeen .phase4Completing s.history = some s.phase

instance (s s' : Session F E) : Decidable (Undisturbed s s') :=
  decidable_of_iff
    ((∀ phase ≠ .phase4Complete, s'.history = s.history ++ [.started phase] →
        lastSeen phase s.history = some s.phase) ∧
      (s.node.role = .dealer → s'.history = s.history ++ [.issued .completePhase4] →
        lastSeen .phase4Completing s.history = some s.phase))
    ⟨fun h => ⟨h.1, h.2⟩, fun h => ⟨h.1, h.2⟩⟩

structure Ordered (s : Session F E) : Prop where
  /-- The command of a phase has been issued at most once, and only if the phase was entered. -/
  issued : ∀ command phase, command.entered = some phase →
    s.history.count (.issued command) ≤ if phase ≤ s.phase then 1 else 0
  looked : ∀ phase, .looked phase ∈ s.history → phase ≤ .phase1Commitments

/-- A starter that looks goes on only before the phase that follows its own. -/
theorem Ordered.le_of_lastSeen {s : Session F E} (hs : Ordered s) {phase found : DkgPhase}
    (h : lastSeen phase s.history = some found) :
    found ≤ phase ∧ (phase = .phase4Completing → found < phase) := by
  unfold lastSeen at h
  split at h
  next hphase =>
    cases h
    subst hphase
    decide
  · obtain ⟨act, hmem, hshows⟩ := List.exists_of_findSome?_eq_some h
    unfold Act.shows at hshows
    split at hshows
    · cases hshows
      exact ⟨hs.looked _ (List.mem_reverse.mp hmem), fun h => by cases h⟩
    · cases hshows
      decide
    · cases hshows
      decide
    · cases hshows
      decide
    · cases hshows

def InOrder (s s' : Session F E) : Prop :=
  Undisturbed s s' → Ordered s → s.phase ≤ s'.phase ∧ Ordered s'

theorem InOrder.of_append {s s' : Session F E} (hphase : s'.phase = s.phase) {acts : List Act}
    (hhistory : s'.history = s.history ++ acts) (hissued : ∀ command, .issued command ∉ acts)
    (hlooked : ∀ phase, .looked phase ∈ acts → phase ≤ .phase1Commitments) : InOrder s s' := by
  intro _ hs
  refine ⟨hphase.ge, fun command phase hentered => ?_, fun phase hmem => ?_⟩
  · rw [hhistory, List.count_append, List.count_eq_zero_of_not_mem (hissued command), hphase]
    exact hs.issued command phase hentered
  · rw [hhistory] at hmem
    exact (List.mem_append.mp hmem).elim (hs.looked phase) (hlooked phase)

theorem InOrder.of_eq {s s' : Session F E} (hphase : s'.phase = s.phase)
    (hhistory : s'.history = s.history) : InOrder s s' := by
  refine .of_append hphase (hhistory.trans (List.append_nil _).symm) ?_ ?_ <;> simp

theorem InOrder.looks (s : Session F E) (hphase : ¬(s.phase = .phase2Shares ∨
    s.phase = .phase4Completing ∨ s.phase = .phase4Complete)) :
    InOrder s (s.record [.looked s.phase]) := by
  have hle : s.phase ≤ .phase1Commitments := by
    revert hphase
    generalize s.phase = phase
    revert phase
    decide
  refine .of_append rfl rfl (by simp) fun phase hmem => ?_
  cases List.mem_singleton.mp hmem
  exact hle

theorem count_issued (history : List Act) (commands : List DkgCommand) (command : DkgCommand) :
    (history ++ commands.map Act.issued).count (.issued command) =
      history.count (.issued command) + commands.count command := by
  have hinjective : Function.Injective Act.issued := by
    intro a b h
    cases h
    rfl
  rw [List.count_append, List.count_map_of_injective _ _ hinjective]

theorem InOrder.updatePhase (s : Session F E) (phase : DkgPhase) :
    InOrder s (s.updatePhase phase) := by
  intro hundisturbed hs
  have hle : s.phase ≤ phase := by
    by_cases hlast : phase = .phase4Complete
    · subst hlast
      generalize s.phase = phase
      revert phase
      decide
    · exact (hs.le_of_lastSeen (hundisturbed.started phase hlast rfl)).1
  have hhistory : (s.updatePhase phase).history = s.history ++ [.started phase] := rfl
  refine ⟨hle, fun command entered hentered => ?_, fun found hmem => ?_⟩
  · have hbefore := hs.issued command entered hentered
    have hphase : (s.updatePhase phase).phase = phase := rfl
    have hnone : Act.issued command ∉ [Act.started phase] := by simp
    rw [hhistory, List.count_append, List.count_eq_zero_of_not_mem hnone, hphase]
    by_cases hentered : entered ≤ s.phase
    · rw [if_pos hentered] at hbefore
      rw [if_pos (hentered.trans hle)]
      exact hbefore
    · rw [if_neg hentered] at hbefore
      omega
  · rw [hhistory] at hmem
    exact hs.looked found (by simpa using hmem)

theorem InOrder.recordPublicContribution (s : Session F E) (contribution : PublicContribution) :
    InOrder s (s.recordPublicContribution contribution).1 := by
  unfold Session.recordPublicContribution
  split
  · split
    · exact .of_eq rfl rfl
    · exact .of_eq rfl rfl
  · exact .of_eq rfl rfl

theorem InOrder.beginChanges : BeginChanges (InOrder (F := F) (E := E)) where
  sign _ _ := .of_append rfl rfl (by simp) (by simp)
  beginTransport s := by
    unfold Session.beginTransport
    split
    · exact .of_eq rfl rfl
    split <;> exact .of_eq rfl rfl
  broadcastComplete _ := .of_eq rfl rfl

variable [Field F] [AddCommGroup E] [Module F E]

theorem claimTransition_phase [DecidableEq F] (s : Session F E) (event : DkgEvent) :
    (s.claimTransition event).1.phase =
      (transition (s.snapshot event) event).nextPhase.getD s.phase := by
  unfold Session.claimTransition
  simp only
  split
  · next phase hnext => rw [hnext]; rfl
  · next hnext => rw [hnext]; rfl

theorem claimTransition_history [DecidableEq F] (s : Session F E) (event : DkgEvent) :
    (s.claimTransition event).1.history =
      s.history ++ (transition (s.snapshot event) event).commands.map .issued := by
  unfold Session.claimTransition
  simp only
  split <;> rfl

theorem InOrder.claimTransition [DecidableEq F] (s : Session F E) (event : DkgEvent) :
    InOrder s (s.claimTransition event).1 := by
  intro hundisturbed hs
  have hlt : ∀ phase, (transition (s.snapshot event) event).nextPhase = some phase →
      s.phase < phase := by
    intro phase hnext
    rcases lt_of_nextPhase hnext with h | ⟨hrole, rfl, hcommands⟩
    · exact h
    · apply (hs.le_of_lastSeen (hundisturbed.departs hrole ?_)).2 rfl
      rw [claimTransition_history, hcommands]
      rfl
  refine ⟨?_, fun command phase hentered => ?_, fun phase hmem => ?_⟩
  · rw [claimTransition_phase]
    cases hnext : (transition (s.snapshot event) event).nextPhase with
    | none => exact le_rfl
    | some entered => exact (hlt entered hnext).le
  · have hbefore := hs.issued command phase hentered
    have hnow : (transition (s.snapshot event) event).commands.count command ≤ _ :=
      count_commands_le hentered
    rw [claimTransition_history, claimTransition_phase, count_issued]
    cases hnext : (transition (s.snapshot event) event).nextPhase with
    | none =>
      rw [hnext, if_neg (by simp)] at hnow
      rw [Option.getD_none]
      omega
    | some entered =>
      rw [hnext] at hnow
      rw [Option.getD_some]
      have hphase := hlt entered hnext
      by_cases hsame : entered = phase
      · -- The phase has not been entered before, so the command has not been issued before.
        subst hsame
        rw [if_neg hphase.not_ge] at hbefore
        rw [if_pos rfl] at hnow
        rw [if_pos le_rfl]
        omega
      · rw [if_neg (by simpa using hsame)] at hnow
        by_cases hle : phase ≤ s.phase
        · rw [if_pos hle] at hbefore
          rw [if_pos (hle.trans hphase.le)]
          omega
        · rw [if_neg hle] at hbefore
          omega
  · rw [claimTransition_history] at hmem
    exact hs.looked phase (by simpa using hmem)

variable [Curve E]

theorem InOrder.generatePolynomial (s : Session F E) (rng : ℕ → F) :
    InOrder s (s.generatePolynomial rng).1 := by
  unfold Session.generatePolynomial
  split
  · split
    · exact .of_eq rfl rfl
    · exact .of_eq rfl rfl
  · exact .of_eq rfl rfl

theorem InOrder.dealingChanges [DecidableEq F] : DealingChanges (InOrder (F := F) (E := E)) where
  refl _ := .of_eq rfl rfl
  claimTransition := .claimTransition
  looks := .looks
  updatePhase := .updatePhase
  abort _ := .of_eq rfl rfl
  generatePolynomial := .generatePolynomial
  shareAck _ _ _ _ _ := .of_eq rfl rfl
  ackValidShare _ _ _ _ := .of_eq rfl rfl
  sign _ _ _ := .of_append rfl rfl (by simp) (by simp)
  recordPublicContribution := .recordPublicContribution
  cachePrivateMessage s share := by
    unfold Session.cachePrivateMessage
    split <;> exact .of_eq rfl rfl

theorem InOrder.commitmentChanges : CommitmentChanges (InOrder (F := F) (E := E)) where
  finishContribution _ _ _ := .of_eq rfl rfl
  generatePolynomial := .generatePolynomial
  recordCommitmentHash s fromNodeId commitmentHash := by
    unfold Session.recordCommitmentHash
    split
    · exact .of_eq rfl rfl
    split <;> exact .of_eq rfl rfl
  parkCommitment s fromNodeId commitment := by
    unfold Session.parkCommitment
    split <;> exact .of_eq rfl rfl
  unparkCommitment _ _ := .of_eq rfl rfl
  receiveCommitment s fromNodeId commitment := by
    unfold Session.receiveCommitment
    simp only
    split
    · exact .of_eq rfl rfl
    split <;> exact .of_eq rfl rfl
  takePendingShare _ _ := .of_eq rfl rfl

variable [DecidableEq E]

theorem InOrder.shareChanges : ShareChanges (InOrder (F := F) (E := E)) where
  claimMessage s messageId := by
    unfold Session.claimTransportMessage
    split
    · exact .of_eq rfl rfl
    split <;> exact .of_eq rfl rfl
  finishMessage _ _ _ _ := .of_eq rfl rfl
  receiveShare _ _ := .of_eq rfl rfl
  recordReceivedShare s dealerId := by
    unfold Session.recordReceivedShare
    split <;> exact .of_eq rfl rfl
  storePendingShare s pending := by
    unfold Session.storePendingShare
    split <;> exact .of_eq rfl rfl
  participantSet _ _ _ _ _ := .of_eq rfl rfl

/-! ## Runs -/

theorem handler_inOrder [DecidableEq F] [Repr32 F] [Repr32 E] [Sha256] (input : Input) :
    (handler (F := F) (E := E) input).Keeps InOrder :=
  (attemptSteps_keeps InOrder.dealingChanges InOrder.shareChanges InOrder.commitmentChanges
    InOrder.beginChanges).handler input

/-- For every schedule in which nobody moves the phase between what a starter has seen and its
write, whichever handlers are started and however their steps are interleaved otherwise: `before` is
any part of it from its beginning. -/
theorem phases_in_order [DecidableEq F] [Repr32 F] [Repr32 E] [Sha256]
    {kind : SessionKind} {node : DKGNode F E}
    {reshare : Option (ReshareState F)} {peerIds : List String} {routes activeDealers : List ℕ}
    {before after : Schedule F}
    (hundisturbed : Pool.Obeys handler Undisturbed
      (Pool.empty (.new kind node reshare peerIds routes activeDealers)) (before ++ after)) :
    (runAttempt (.new kind node reshare peerIds routes activeDealers) before).state.phase ≤
        (runAttempt (.new kind node reshare peerIds routes activeDealers)
          (before ++ after)).state.phase ∧
      ∀ command ∈ [DkgCommand.revealCommitment, .initiatePhase2Shares, .completePhase4],
        (runAttempt (.new kind node reshare peerIds routes activeDealers)
          (before ++ after)).state.history.count (.issued command) ≤ 1 := by
  generalize hs : Session.new kind node reshare peerIds routes activeDealers = s at hundisturbed ⊢
  obtain ⟨hbefore, hafter⟩ := along_append.mp hundisturbed
  have hrefl : ∀ s : Session F E, InOrder s s := fun _ => .of_eq rfl rfl
  have hordered : Ordered s := by
    subst hs
    constructor <;> simp [Session.new]
  obtain ⟨hkeeps, hmid⟩ := (Pool.keeps_empty s).run hrefl (fun i _ => handler_inOrder i)
    (fun _ _ hguard hrel hord => (hrel hguard hord).2) hbefore hordered
  have hstep : ∀ phase, ∀ s s' : Session F E, Undisturbed s s' → InOrder s s' →
      phase ≤ s.phase ∧ Ordered s → phase ≤ s'.phase ∧ Ordered s' :=
    fun phase s s' hguard hrel h => ⟨h.1.trans (hrel hguard h.2).1, (hrel hguard h.2).2⟩
  obtain ⟨-, hphase, hend⟩ := hkeeps.run hrefl (fun i _ => handler_inOrder i)
    (hstep (runAttempt s before).state.phase) hafter ⟨le_rfl, hmid⟩
  rw [← run_append] at hphase hend
  refine ⟨hphase, fun command hcommand => ?_⟩
  have hle : ∀ phase, command.entered = some phase →
      (runAttempt s (before ++ after)).state.history.count (.issued command) ≤ 1 := by
    intro phase hentered
    exact (hend.issued command phase hentered).trans (by split <;> omega)
  simp only [List.mem_cons, List.not_mem_nil, or_false] at hcommand
  rcases hcommand with rfl | rfl | rfl
  · exact hle _ rfl
  · exact hle _ rfl
  · exact hle _ rfl

/-! ## The counters -/

/-- Each counter is the number of the dealers it stands for, and no dealer is there twice. -/
structure Counted (s : Session F E) : Prop where
  commitments : s.commitmentsReceived = s.node.receivedCommitments.keys.length
  shares : s.sharesReceived = s.receivedShares.length
  distinct : s.receivedShares.Nodup

def Counts (s s' : Session F E) : Prop := Counted s → Counted s'

namespace Counts

omit [Field F] [AddCommGroup E] [Module F E] [DecidableEq E] [Curve E] in
theorem of_eq {s s' : Session F E} (hcommitments : s'.commitmentsReceived = s.commitmentsReceived)
    (hheld : s'.node.receivedCommitments = s.node.receivedCommitments)
    (hshares : s'.sharesReceived = s.sharesReceived)
    (hreceived : s'.receivedShares = s.receivedShares) : Counts s s' := by
  intro h
  refine ⟨?_, ?_, ?_⟩
  · rw [hcommitments, hheld, h.commitments]
  · rw [hshares, hreceived, h.shares]
  · rw [hreceived]
    exact h.distinct

omit [Field F] [AddCommGroup E] [Module F E] [DecidableEq E] [Curve E] in
theorem of_sameInbox {s s' : Session F E} (h : SameInbox s s') : Counts s s' :=
  of_eq h.commitmentsReceived h.node.receivedCommitments h.sharesReceived h.receivedShares

theorem receiveShare (s : Session F E) (share : DistributedShare F) :
    Counts s (s.receiveShare share).1 := by
  refine of_eq rfl ?_ rfl rfl
  by_cases hacc : s.node.AcceptsShare share
  · simp only [Session.receiveShare, DKGNode.receiveShare_of_accepts hacc]
  · obtain ⟨complaints, e, he⟩ := DKGNode.receiveShare_of_not_accepts hacc
    simp only [Session.receiveShare, he]

omit [Field F] [AddCommGroup E] [Module F E] [DecidableEq E] [Curve E] in
/-- A dealer is counted with its first share. -/
theorem recordReceivedShare (s : Session F E) (dealerId : ℕ) :
    Counts s (s.recordReceivedShare dealerId) := by
  intro h
  unfold Session.recordReceivedShare
  split
  · exact h
  next hnew =>
    refine ⟨h.commitments, ?_, ?_⟩
    · simp only [h.shares, List.length_append, List.length_singleton]
    · rw [List.nodup_append_comm, List.singleton_append]
      exact List.nodup_cons.mpr ⟨hnew, h.distinct⟩

omit [Field F] [AddCommGroup E] [Module F E] [DecidableEq E] [Curve E] in
/-- The node refuses the second commitment of a dealer. -/
theorem receiveCommitment (s : Session F E) (fromNodeId : ℕ) (c : PolynomialCommitment E) :
    Counts s (s.receiveCommitment fromNodeId c).1 := by
  intro h
  unfold Session.receiveCommitment
  dsimp only
  split
  · exact h
  by_cases hacc : s.node.AcceptsCommitment fromNodeId c
  · rw [DKGNode.receiveCommitment_of_accepts hacc]
    refine ⟨?_, h.shares, h.distinct⟩
    simp only [h.commitments, AList.keys_insert, List.length_cons,
      List.erase_of_not_mem (AList.mem_keys.not.mp hacc.fresh)]
  · obtain ⟨error, he⟩ := DKGNode.receiveCommitment_of_not_accepts hacc
    rw [he]
    exact h

theorem shareChanges : ShareChanges (Counts (F := F) (E := E)) where
  claimMessage s messageId := by
    unfold Session.claimTransportMessage
    split
    · exact id
    split <;> exact of_eq rfl rfl rfl rfl
  finishMessage _ _ _ _ := of_eq rfl rfl rfl rfl
  receiveShare := receiveShare
  recordReceivedShare := recordReceivedShare
  storePendingShare s pending := by
    unfold Session.storePendingShare
    split <;> exact of_eq rfl rfl rfl rfl
  participantSet _ _ _ _ hreshare :=
    of_sameInbox (.updateReshare hreshare (handleReshareParticipantSet_same ..))

omit [DecidableEq E] in
theorem commitmentChanges : CommitmentChanges (Counts (F := F) (E := E)) where
  finishContribution _ _ _ := of_eq rfl rfl rfl rfl
  generatePolynomial s rng := of_sameInbox (.generatePolynomial s rng)
  recordCommitmentHash s fromNodeId commitmentHash := by
    unfold Session.recordCommitmentHash
    split
    · exact id
    split <;> exact of_eq rfl rfl rfl rfl
  parkCommitment s fromNodeId commitment := by
    unfold Session.parkCommitment
    split <;> exact of_eq rfl rfl rfl rfl
  unparkCommitment _ _ := of_eq rfl rfl rfl rfl
  receiveCommitment := receiveCommitment
  takePendingShare _ _ := of_eq rfl rfl rfl rfl

theorem handler [DecidableEq F] [Repr32 F] [Repr32 E] [Sha256]
    (input : Input) : (handler (F := F) (E := E) input).Keeps Counts := by
  have hdealing := SameInbox.dealingChanges.mono fun _ _ => of_sameInbox (F := F) (E := E)
  have hbegin : BeginChanges (Counts (F := F) (E := E)) :=
    ⟨fun _ _ => of_eq rfl rfl rfl rfl, fun s => of_sameInbox (.beginTransport s),
      fun _ => of_eq rfl rfl rfl rfl⟩
  exact (attemptSteps_keeps hdealing shareChanges commitmentChanges hbegin).handler input

end Counts

variable [DecidableEq F] [Repr32 F] [Repr32 E]

/-- For every schedule.  The thresholds of the phases are compared with numbers of different
dealers. -/
theorem counters_count_distinct_dealers [Sha256]
    {id threshold totalNodes sessionId : ℕ} {role : DkgRole}
    {node : DKGNode F E} (hnode : DKGNode.new id threshold totalNodes sessionId role = .ok node)
    (kind : SessionKind) (reshare : Option (ReshareState F)) (peerIds : List String)
    (routes activeDealers : List ℕ) (schedule : Schedule F) :
    let s := (runAttempt (.new kind node reshare peerIds routes activeDealers) schedule).state
    s.commitmentsReceived = s.node.receivedCommitments.keys.toFinset.card ∧
      s.receivedShares.Nodup ∧ s.sharesReceived = s.receivedShares.length ∧
      ∀ event, ((s.snapshot event).shouldInitiatePhase2 →
          ∃ expected, (s.snapshot event).phase1ExpectedCommitments = some expected ∧
            expected ≤ s.node.receivedCommitments.keys.toFinset.card) ∧
        ((s.snapshot event).shouldCompletePhase4 →
          (s.snapshot event).shouldAckValidReshareShare = false →
            (s.snapshot event).phase4ExpectedShares ≤ s.receivedShares.toFinset.card) := by
  intro s
  have hstart : Counted (Session.new kind node reshare peerIds routes activeDealers) := by
    rw [(DKGNode.new_eq_ok.mp hnode).2]
    exact ⟨rfl, rfl, List.nodup_nil⟩
  have hany : Pool.Obeys handler (fun _ _ => True)
      (Pool.empty (Session.new kind node reshare peerIds routes activeDealers)) schedule :=
    along_of_forall (fun _ _ => trivial) _ _
  obtain ⟨-, hcounted⟩ : _ ∧ Counted s := (Pool.keeps_empty _).run (fun _ h => h)
    (fun i _ => Counts.handler i) (fun _ _ _ hrel h => hrel h) hany hstart
  have hcommitments : s.commitmentsReceived = s.node.receivedCommitments.keys.toFinset.card := by
    rw [hcounted.commitments, List.toFinset_card_of_nodup s.node.receivedCommitments.keys_nodup]
  refine ⟨hcommitments, hcounted.distinct, hcounted.shares,
    fun event => ⟨fun h => ?_, fun h hack => ?_⟩⟩
  · simp only [SessionSnapshot.shouldInitiatePhase2] at h
    split at h
    · cases h
    split at h
    · cases h
    split at h
    · cases h
    split at h
    · cases h
    cases hexpected : (s.snapshot event).phase1ExpectedCommitments with
    | none =>
      rw [hexpected] at h
      cases h
    | some expected =>
      rw [hexpected, Option.any_some, decide_eq_true_eq] at h
      exact ⟨expected, rfl, h.trans_eq hcommitments⟩
  · rw [List.toFinset_card_of_nodup hcounted.distinct, ← hcounted.shares]
    simp only [SessionSnapshot.shouldCompletePhase4, hack] at h
    split at h
    · cases h
    · simp only [Bool.false_eq_true, if_false, decide_eq_true_eq] at h
      exact h.1

end

/-! ## A starter that is overtaken -/

namespace Pair

open scoped ByteSum

/-- The node has published its own hash, the other member's hash has been handled, and the starter
of the first phase has looked at the phase and not yet written it. -/
def revealing : Schedule F7 :=
  [.start .begin] ++ steps 0 8 ++ [.start (.contribution 0 peerCommitmentHash)] ++ steps 1 9 ++
    steps 0 4

/-- Each handler is run to its end before the next message arrives. -/
def oneByOne : Schedule F7 :=
  steps 0 20 ++ [.start (.contribution 0 peerCommitment)] ++ steps 2 25 ++
    [.start (.share 0 peerShare)] ++ steps 3 25

theorem phases_in_order_one_by_one :
    Pool.Obeys handler Undisturbed (Pool.empty (session .fresh)) (revealing ++ oneByOne) ∧
      (runAttempt (session .fresh) revealing).state.phase ≤
        (runAttempt (session .fresh) (revealing ++ oneByOne)).state.phase ∧
      ∀ command ∈ [DkgCommand.revealCommitment, .initiatePhase2Shares, .completePhase4],
        (runAttempt (session .fresh) (revealing ++ oneByOne)).state.history.count
          (.issued command) ≤ 1 := by
  have h : Pool.Obeys handler Undisturbed (Pool.empty (session .fresh))
      (revealing ++ oneByOne) := by
    decide +kernel
  unfold session at h ⊢
  exact ⟨h, phases_in_order h⟩

theorem counters_count_distinct_dealers_one_by_one :
    let s := (runAttempt (session .fresh) (revealing ++ oneByOne)).state
    s.commitmentsReceived = s.node.receivedCommitments.keys.toFinset.card ∧
      s.receivedShares.Nodup ∧ s.sharesReceived = s.receivedShares.length := by
  have hnode : (DKGNode.new 1 1 2 7 .standard : Except CryptoError (DKGNode F7 F7)) =
      .ok (.blank 1 1 2 7 .standard) := rfl
  have h := counters_count_distinct_dealers hnode .fresh none ["a", "b"] [1, 2] []
    (revealing ++ oneByOne)
  unfold session
  exact ⟨h.1, h.2.1, h.2.2.1⟩

/-- The other member's commitment is the last one and starts the second phase. -/
def overtaken : Schedule F7 :=
  revealing ++ [.start (.contribution 0 peerCommitment)] ++ steps 2 8

theorem phase_moves_back_of_overtaken :
    (runAttempt (session .fresh) overtaken).state.phase = .phase2Shares ∧
      (runAttempt (session .fresh) (overtaken ++ steps 0 4)).state.phase = .phase1Commitments ∧
      (runAttempt (session .fresh) (overtaken ++ steps 0 11)).state.history.count
        (.issued .initiatePhase2Shares) = 2 := by
  decide +kernel

end Pair

end Orbis.Node.Dkg
