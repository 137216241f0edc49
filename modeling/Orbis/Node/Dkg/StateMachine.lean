import Orbis.Crypto.Dkg.Node

/-!
# The state machine of an attempt

The pure part of the coordinator: from a snapshot of the session and an event it says which phase
comes next and which commands are to be run once the session lock is released.
-/

namespace Orbis.Node.Dkg

open Orbis.Crypto.Dkg

inductive DkgPhase where
  | initializing
  | phase0CommitmentHashes
  | phase1Commitments
  | phase2Shares
  | phase4Completing
  | phase4Complete
deriving DecidableEq, Repr

namespace DkgPhase

def rank : DkgPhase → ℕ
  | initializing => 0
  | phase0CommitmentHashes => 1
  | phase1Commitments => 2
  | phase2Shares => 3
  | phase4Completing => 4
  | phase4Complete => 5

instance : LinearOrder DkgPhase :=
  LinearOrder.lift' rank fun p q h => by cases p <;> cases q <;> simp_all [rank]

instance : Fintype DkgPhase where
  elems := {initializing, phase0CommitmentHashes, phase1Commitments, phase2Shares,
    phase4Completing, phase4Complete}
  complete phase := by cases phase <;> decide

end DkgPhase

/-- The kinds differ in the polynomial that is dealt and in who deals to whom; the ring keys and
storage keys they carry are left out. -/
inductive SessionKind where
  | fresh
  | freshPet
  | refresh
  | refreshPet
  | reshare
  | resharePet
deriving DecidableEq, Repr

namespace SessionKind

def isFresh (kind : SessionKind) : Bool := kind = fresh ∨ kind = freshPet

def isRefresh (kind : SessionKind) : Bool := kind = refresh ∨ kind = refreshPet

def isReshare (kind : SessionKind) : Bool := kind = reshare ∨ kind = resharePet

end SessionKind

inductive DkgEvent where
  | commitmentHashRecorded
  | commitmentRecorded
  | shareRecorded (fromNodeId : ℕ)
  | reshareParticipantSetAccepted
  | phase2SharesDistributed (localNodeId : ℕ)
  | readinessChanged
deriving DecidableEq, Repr

def DkgEvent.evaluatesPhase4 : DkgEvent → Bool
  | shareRecorded _ | reshareParticipantSetAccepted | readinessChanged => true
  | _ => false

/-- What is run outside the lock. -/
inductive DkgCommand where
  | revealCommitment
  | initiatePhase2Shares
  | ackValidReshareShare (dealerId : ℕ)
  | completePhase4
deriving DecidableEq, Repr

/-- The phase that is entered together with the command. -/
def DkgCommand.entered : DkgCommand → Option DkgPhase
  | revealCommitment => some .phase1Commitments
  | initiatePhase2Shares => some .phase2Shares
  | ackValidReshareShare _ => none
  | completePhase4 => some .phase4Completing

structure Transition where
  nextPhase : Option DkgPhase
  commands : List DkgCommand

/-- The fields that only go into log lines are left out. -/
structure SessionSnapshot where
  kind : SessionKind
  phase : DkgPhase
  role : DkgRole
  totalNodes : ℕ
  hasPolynomial : Bool
  commitmentHashesReceived : ℕ
  hashBroadcastComplete : Bool
  commitmentsReceived : ℕ
  sharesReceived : ℕ
  reshareSelectedDealers : Bool
  secretShareAvailable : Bool
  aggregatePublicKeyAvailable : Bool

namespace SessionSnapshot

def phase1ExpectedCommitments (snapshot : SessionSnapshot) : Option ℕ :=
  if snapshot.kind.isReshare then none
  else
    some (match snapshot.role with
      | .receiver => snapshot.totalNodes
      | _ => snapshot.totalNodes - 1)

def phase4ExpectedShares (snapshot : SessionSnapshot) : ℕ :=
  match snapshot.role with
  | .receiver => snapshot.totalNodes
  | _ => snapshot.totalNodes - 1

def shouldInitiatePhase2 (snapshot : SessionSnapshot) : Bool :=
  if snapshot.kind.isFresh ∧
      (snapshot.phase = .initializing ∨ snapshot.phase = .phase0CommitmentHashes) then false
  else if snapshot.phase = .phase2Shares ∨ snapshot.phase = .phase4Completing ∨
      snapshot.phase = .phase4Complete then false
  else if snapshot.role ≠ .receiver ∧ ¬snapshot.hasPolynomial then false
  else if snapshot.role = .receiver then false
  else snapshot.phase1ExpectedCommitments.any (· ≤ snapshot.commitmentsReceived)

def shouldRevealCommitment (snapshot : SessionSnapshot) : Bool :=
  snapshot.kind.isFresh ∧ snapshot.phase = .phase0CommitmentHashes ∧ snapshot.role ≠ .receiver ∧
    snapshot.hasPolynomial ∧ snapshot.hashBroadcastComplete ∧
    snapshot.totalNodes - 1 ≤ snapshot.commitmentHashesReceived

def shouldAckValidReshareShare (snapshot : SessionSnapshot) : Bool :=
  snapshot.kind.isReshare ∧ (snapshot.role = .receiver ∨ snapshot.role = .dealerReceiver)

def shouldCompletePhase4 (snapshot : SessionSnapshot) : Bool :=
  if snapshot.phase = .phase4Completing ∨ snapshot.phase = .phase4Complete then false
  else if snapshot.shouldAckValidReshareShare then
    snapshot.reshareSelectedDealers ∧ snapshot.secretShareAvailable ∧
      snapshot.aggregatePublicKeyAvailable
  else
    snapshot.phase4ExpectedShares ≤ snapshot.sharesReceived ∧ snapshot.secretShareAvailable ∧
      snapshot.aggregatePublicKeyAvailable

end SessionSnapshot

/-- `push_phase4_if_ready`, after the commands that are already there. -/
def phase4IfReady (snapshot : SessionSnapshot) (commands : List DkgCommand) : Transition :=
  if snapshot.shouldCompletePhase4 then
    ⟨some .phase4Completing, commands ++ [.completePhase4]⟩
  else ⟨none, commands⟩

def transition (snapshot : SessionSnapshot) : DkgEvent → Transition
  | .commitmentHashRecorded =>
    if snapshot.shouldRevealCommitment then ⟨some .phase1Commitments, [.revealCommitment]⟩
    else ⟨none, []⟩
  | .commitmentRecorded =>
    if snapshot.shouldInitiatePhase2 then ⟨some .phase2Shares, [.initiatePhase2Shares]⟩
    else ⟨none, []⟩
  | .shareRecorded fromNodeId =>
    phase4IfReady snapshot
      (if snapshot.shouldAckValidReshareShare then [.ackValidReshareShare fromNodeId] else [])
  | .reshareParticipantSetAccepted => phase4IfReady snapshot []
  | .readinessChanged => phase4IfReady snapshot []
  | .phase2SharesDistributed localNodeId =>
    -- A departing dealer is done, whatever its phase.
    { nextPhase := if snapshot.role = .dealer then some .phase4Completing else none
      commands :=
        (if snapshot.role = .dealerReceiver then [.ackValidReshareShare localNodeId] else []) ++
          (if snapshot.role = .dealer then [.completePhase4] else []) }

/-! ## What a transition can be -/

variable {snapshot : SessionSnapshot} {event : DkgEvent}

theorem phase_of_shouldInitiatePhase2 (h : snapshot.shouldInitiatePhase2) :
    snapshot.phase < .phase2Shares := by
  unfold SessionSnapshot.shouldInitiatePhase2 at h
  cases hp : snapshot.phase <;> simp_all <;> decide

theorem phase_of_shouldRevealCommitment (h : snapshot.shouldRevealCommitment) :
    snapshot.phase = .phase0CommitmentHashes := by
  simp only [SessionSnapshot.shouldRevealCommitment, decide_eq_true_eq] at h
  exact h.2.1

theorem phase_of_shouldCompletePhase4 (h : snapshot.shouldCompletePhase4) :
    snapshot.phase < .phase4Completing := by
  unfold SessionSnapshot.shouldCompletePhase4 at h
  cases hp : snapshot.phase <;> simp_all <;> decide

/-- The phase stays and no command that is tied to a phase is issued, or one of the three is
issued together with the phase it is tied to. -/
inductive Transition.Shape (snapshot : SessionSnapshot) (event : DkgEvent) : Transition → Prop
  | stays {commands : List DkgCommand} (hreveal : .revealCommitment ∉ commands)
      (hphase2 : .initiatePhase2Shares ∉ commands) (hphase4 : .completePhase4 ∉ commands) :
      Shape snapshot event ⟨none, commands⟩
  | reveals (h : snapshot.shouldRevealCommitment) (hevent : event = .commitmentHashRecorded) :
      Shape snapshot event ⟨some .phase1Commitments, [.revealCommitment]⟩
  | shares (h : snapshot.shouldInitiatePhase2) (hevent : event = .commitmentRecorded) :
      Shape snapshot event ⟨some .phase2Shares, [.initiatePhase2Shares]⟩
  | completes {commands : List DkgCommand} (h : snapshot.shouldCompletePhase4)
      (hreveal : .revealCommitment ∉ commands) (hphase2 : .initiatePhase2Shares ∉ commands)
      (hphase4 : .completePhase4 ∉ commands) :
      Shape snapshot event ⟨some .phase4Completing, commands ++ [.completePhase4]⟩
  | departs (hrole : snapshot.role = .dealer) :
      Shape snapshot event ⟨some .phase4Completing, [.completePhase4]⟩

theorem phase4IfReady_shape {commands : List DkgCommand} (hreveal : .revealCommitment ∉ commands)
    (hphase2 : .initiatePhase2Shares ∉ commands) (hphase4 : .completePhase4 ∉ commands) :
    Transition.Shape snapshot event (phase4IfReady snapshot commands) := by
  unfold phase4IfReady
  split
  next h => exact .completes h hreveal hphase2 hphase4
  next => exact .stays hreveal hphase2 hphase4

theorem transition_shape (snapshot : SessionSnapshot) (event : DkgEvent) :
    Transition.Shape snapshot event (transition snapshot event) := by
  cases event with
  | commitmentHashRecorded =>
    by_cases h : snapshot.shouldRevealCommitment
    · rw [transition, if_pos h]
      exact .reveals h rfl
    · rw [transition, if_neg h]
      exact .stays (by simp) (by simp) (by simp)
  | commitmentRecorded =>
    by_cases h : snapshot.shouldInitiatePhase2
    · rw [transition, if_pos h]
      exact .shares h rfl
    · rw [transition, if_neg h]
      exact .stays (by simp) (by simp) (by simp)
  | shareRecorded fromNodeId =>
    apply phase4IfReady_shape <;> split <;> simp
  | reshareParticipantSetAccepted | readinessChanged => apply phase4IfReady_shape <;> simp
  | phase2SharesDistributed localNodeId =>
    cases hrole : snapshot.role with
    | dealer =>
      simp only [transition, hrole, reduceCtorEq, if_true, if_false, List.nil_append]
      exact .departs hrole
    | dealerReceiver =>
      simp only [transition, hrole, reduceCtorEq, if_true, if_false, List.append_nil]
      exact .stays (by simp) (by simp) (by simp)
    | standard | receiver =>
      simp only [transition, hrole, reduceCtorEq, if_false, List.append_nil]
      exact .stays (by simp) (by simp) (by simp)

theorem shouldReveal_of_mem (h : .revealCommitment ∈ (transition snapshot event).commands) :
    snapshot.shouldRevealCommitment := by
  generalize htransition : transition snapshot event = t at h
  have hshape := transition_shape snapshot event
  rw [htransition] at hshape
  cases hshape with
  | stays hreveal hphase2 hphase4 => exact absurd h hreveal
  | reveals hreveal hevent => exact hreveal
  | shares hshares hevent => simp at h
  | completes hcompletes hreveal hphase2 hphase4 =>
    rcases List.mem_append.mp h with h | h
    · exact absurd h hreveal
    · simp at h
  | departs hrole => simp at h

end Orbis.Node.Dkg
