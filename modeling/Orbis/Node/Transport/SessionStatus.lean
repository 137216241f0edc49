import Orbis.Node.Transport.Wire

/-!
# The status of a ring's key generation

The leader keeps the sessions of the ceremonies and, for a while, records of fresh ceremonies that
have failed.  The session id of a fresh ceremony is derived from the ring, so all attempts of a ring
share one id.  A status query looks for a record first and for a session then.

Records and sessions are kept in maps with a lock each; an event is one access.  A pass of the
worker that removes what is too old holds the lock of the sessions, and is one event.
-/

namespace Orbis.Node.Transport

open Orbis.Crypto Orbis.Data Orbis.Node.Dkg Orbis.Transition

inductive DkgFailureStage where
  | preparing
  | commitmentHashes
  | commitments
  | shareExchange
  | unknown
deriving DecidableEq

def DkgFailureStage.asStr : DkgFailureStage → String
  | preparing => "preparing"
  | commitmentHashes => "commitment_hashes"
  | commitments => "commitments"
  | shareExchange => "share_exchange"
  | unknown => "unknown"

structure MissingDkgParticipant where
  nodeId : ℕ
  nodeKey : String
deriving DecidableEq

/-- `failedAt` is in seconds since the epoch. -/
structure FailedDkgSessionRecord where
  sessionId : CeremonyId
  ringId : String
  attemptId : Option AttemptId
  stage : DkgFailureStage
  missing : List MissingDkgParticipant
  reason : String
  failedAt : ℤ
deriving DecidableEq

/-- The parts of a session that the worker and the status query read.  Instants are in seconds. -/
structure DkgSession where
  attemptId : AttemptId
  kind : SessionKind
  ringId : String
  phase : DkgPhase
  phaseStartedAt : ℕ
  createdAt : ℕ
  hardDeadline : Option ℕ
deriving DecidableEq

structure SessionStore where
  states : CeremonyId → Option DkgSession
  failedSessions : CeremonyId → Option (FailedDkgSessionRecord × ℕ)

def dkgAttemptTimeout : ℕ := 15 * 60

def dkgCompletedSessionTtl : ℕ := 600

def dkgFailedSessionRecordTtl : ℕ := 10 * 60

def SessionKind.isFresh : SessionKind → Bool
  | fresh | freshPet _ => true
  | _ => false

namespace SessionStore

def empty : SessionStore := ⟨fun _ => none, fun _ => none⟩

def setState (s : SessionStore) (id : CeremonyId) (session : Option DkgSession) : SessionStore :=
  { s with states := Function.update s.states id session }

/-! ## Events -/

/-- `limitReached` if there are as many sessions as a node may have. -/
def createSession (s : SessionStore) (id : CeremonyId) (session : DkgSession)
    (limitReached : Bool) :
    SessionStore :=
  match s.states id with
  | some _ => s
  | none => if limitReached then s else s.setState id (some session)

def withAttemptStateMut (s : SessionStore) (attempt : AttemptKey) (f : DkgSession → DkgSession) :
    SessionStore :=
  match s.states attempt.ceremonyId with
  | none => s
  | some session =>
    if session.attemptId ≠ attempt.attemptId then s
    else s.setState attempt.ceremonyId (some (f session))

def transitionPhase (phase : DkgPhase) (now : ℕ) (session : DkgSession) : DkgSession :=
  if session.phase = phase then session else { session with phase := phase, phaseStartedAt := now }

def recordFailedSession (s : SessionStore) (record : FailedDkgSessionRecord) (now : ℕ) :
    SessionStore :=
  { s with
    failedSessions := Function.update s.failedSessions record.sessionId (some (record, now)) }

/-- An attempt is completed, aborted, or given up while it is prepared. -/
def removeAttempt (s : SessionStore) (attempt : AttemptKey) : SessionStore :=
  match s.states attempt.ceremonyId with
  | none => s
  | some session =>
    if session.attemptId = attempt.attemptId then s.setState attempt.ceremonyId none else s

def retainedTooLong (now : ℕ) (session : DkgSession) : Bool :=
  session.phase = .phase4Complete && dkgCompletedSessionTtl ≤ now - session.phaseStartedAt

def pastDeadline (now : ℕ) (session : DkgSession) : Bool :=
  session.phase ≠ .phase4Complete &&
    session.hardDeadline.getD (session.createdAt + dkgAttemptTimeout) ≤ now

def failureStage : DkgPhase → DkgFailureStage
  | .phase0CommitmentHashes => .commitmentHashes
  | .phase1Commitments => .commitments
  | .phase2Shares => .shareExchange
  | _ => .unknown

def deadlineRecord (id : CeremonyId) (session : DkgSession) (missing : List MissingDkgParticipant)
    (clock : ℤ) : FailedDkgSessionRecord where
  sessionId := id
  ringId := session.ringId
  attemptId := some session.attemptId
  stage := failureStage session.phase
  missing := missing
  reason := "attempt reached the 15-minute hard deadline without completing"
  failedAt := clock

/-- One pass of `expiration_worker`.  `missing` is what the rounds of the sessions miss. -/
def expire (s : SessionStore) (now : ℕ) (clock : ℤ)
    (missing : CeremonyId → List MissingDkgParticipant) : SessionStore where
  states id := (s.states id).filter fun session =>
    !retainedTooLong now session && !pastDeadline now session
  failedSessions id :=
    let failed :=
      match s.states id with
      | some session =>
        if pastDeadline now session && session.kind.isFresh then
          some (deadlineRecord id session (missing id) clock, now)
        else s.failedSessions id
      | none => s.failedSessions id
    failed.filter fun entry => now - entry.2 < dkgFailedSessionRecordTtl

inductive Event where
  | create (id : CeremonyId) (session : DkgSession) (limitReached : Bool)
  | configure (attempt : AttemptKey) (hardDeadline : ℕ)
  | updatePhase (attempt : AttemptKey) (phase : DkgPhase) (now : ℕ)
  | recordFailed (record : FailedDkgSessionRecord) (now : ℕ)
  | remove (attempt : AttemptKey)
  | expire (now : ℕ) (clock : ℤ) (missing : CeremonyId → List MissingDkgParticipant)

def step (s : SessionStore) : Event → SessionStore
  | .create id session limitReached => s.createSession id session limitReached
  | .configure attempt hardDeadline =>
    s.withAttemptStateMut attempt fun session =>
      { session with hardDeadline := some hardDeadline }
  | .updatePhase attempt phase now => s.withAttemptStateMut attempt (transitionPhase phase now)
  | .recordFailed record now => s.recordFailedSession record now
  | .remove attempt => s.removeAttempt attempt
  | .expire now clock missing => s.expire now clock missing

/-! ## Queries -/

end SessionStore

inductive DkgSessionStatusValue where
  | inProgress
  | completed
  | failed
  | notFound
deriving DecidableEq

structure SessionStatusResponse where
  sessionId : Option CeremonyId
  status : DkgSessionStatusValue
  stage : String
  missing : List (ℕ × String)
  reason : String
  failedAt : Option ℤ
deriving DecidableEq

def hashLabel (label : String) : Bytes :=
  leBytes 4 (asU32 (utf8Bytes label).length) ++ utf8Bytes label

def hashLabeledBytes (label : String) (bytes : Bytes) : Bytes :=
  hashLabel label ++ (leBytes 4 (asU32 bytes.length) ++ bytes)

def hashLabeledStr (label value : String) : Bytes := hashLabeledBytes label (utf8Bytes value)

def deriveFreshDkgSessionId [Sha256] (ringId : String) : CeremonyId :=
  .ofNat 128 (leValue ((sha256 (utf8Bytes "orbis-pss-session-v1" ++ hashLabeledStr "kind" "fresh" ++
    hashLabeledStr "ring_id" ringId)).take 16))

def failedResponse (id : CeremonyId) (record : FailedDkgSessionRecord) : SessionStatusResponse where
  sessionId := some id
  status := .failed
  stage := record.stage.asStr
  missing := record.missing.map fun p => (p.nodeId, p.nodeKey)
  reason := record.reason
  failedAt := if record.failedAt < 0 then none else some record.failedAt

def phaseResponse (id : CeremonyId) (phase : DkgPhase) : SessionStatusResponse where
  sessionId := some id
  status := if phase = .phase4Complete then .completed else .inProgress
  stage := ""
  missing := []
  reason := ""
  failedAt := none

/-- `coordinate_dkg_session_status`, once the ring has been read.  The records are those of the
first, the sessions those of the second store: other events may come between the two accesses. -/
def sessionStatus [Sha256] (s s' : SessionStore) (ringId : String) : SessionStatusResponse :=
  let id := deriveFreshDkgSessionId ringId
  match s.failedSessions id with
  | some (record, _) => failedResponse id record
  | none =>
    match s'.states id with
    | some session => phaseResponse id session.phase
    | none => ⟨none, .notFound, "", [], "", none⟩

namespace SessionStore

/-! ## Histories -/

section

variable (id : CeremonyId)

/-- An attempt of the ceremony is started only when no record of it is left, and its failure is
recorded only when its session is gone. -/
def Event.Timely (s : SessionStore) : Event → Prop
  | .create id' _ limitReached =>
    id' = id → limitReached = false → s.states id = none → s.failedSessions id = none
  | .recordFailed record _ => record.sessionId = id → s.states id = none
  | _ => True

/-- A record and a session of the ceremony are not there together. -/
def Apart (s : SessionStore) : Prop := s.failedSessions id = none ∨ s.states id = none

variable {id} {s s' : SessionStore}

theorem states_setState {other : CeremonyId} {session : Option DkgSession} :
    (s.setState other session).states id = none ↔
      if id = other then session = none else s.states id = none := by
  by_cases heq : id = other <;> simp [setState, heq]

theorem apart_createSession (h : Apart id s) (other : CeremonyId) (session : DkgSession)
    (limitReached : Bool) : Apart id (s.createSession other session limitReached) ↔
      (Event.create other session limitReached).Timely id s := by
  unfold createSession Event.Timely
  cases hstate : s.states other with
  | some existing =>
    refine iff_of_true h ?_
    rintro rfl - hnone
    exact absurd (hstate.symm.trans hnone) (Option.some_ne_none existing)
  | none =>
    cases limitReached with
    | true => simpa using h
    | false =>
      simp only [Bool.false_eq_true, ↓reduceIte]
      rw [Apart, states_setState]
      by_cases heq : id = other
      · subst heq
        simp [setState, hstate]
      · simpa [heq, Ne.symm heq, setState, Apart] using h

theorem apart_withAttemptStateMut (h : Apart id s) (attempt : AttemptKey)
    (f : DkgSession → DkgSession) : Apart id (s.withAttemptStateMut attempt f) := by
  unfold withAttemptStateMut
  cases hsession : s.states attempt.ceremonyId with
  | none => exact h
  | some session =>
    simp only
    split_ifs
    · exact h
    · refine h.imp_right fun hnone => states_setState.mpr ?_
      split_ifs with heq
      · exact absurd (hsession.symm.trans (heq ▸ hnone)) (Option.some_ne_none session)
      · exact hnone

theorem apart_removeAttempt (h : Apart id s) (attempt : AttemptKey) :
    Apart id (s.removeAttempt attempt) := by
  unfold removeAttempt
  cases s.states attempt.ceremonyId with
  | none => exact h
  | some session =>
    simp only
    split_ifs
    · refine h.imp_right fun hnone => states_setState.mpr ?_
      split_ifs
      · rfl
      · exact hnone
    · exact h

theorem apart_expire (h : Apart id s) (now : ℕ) (clock : ℤ)
    (missing : CeremonyId → List MissingDkgParticipant) :
    Apart id (s.expire now clock missing) := by
  cases hstate : s.states id with
  | none => exact .inr (by simp [expire, hstate])
  | some session =>
    have hnone : s.failedSessions id = none := h.resolve_right (by simp [hstate])
    -- A session whose failure is recorded is removed in the same pass.
    cases hdue : pastDeadline now session with
    | true => exact .inr (by simp [expire, hstate, hdue])
    | false => exact .inl (by simp [expire, hstate, hdue, hnone])

theorem apart_step (h : Apart id s) (event : Event) :
    Apart id (s.step event) ↔ event.Timely id s := by
  cases event with
  | create other session limitReached => exact apart_createSession h other session limitReached
  | configure attempt hardDeadline => exact iff_of_true (apart_withAttemptStateMut h _ _) trivial
  | updatePhase attempt phase now => exact iff_of_true (apart_withAttemptStateMut h _ _) trivial
  | recordFailed record now =>
    by_cases heq : record.sessionId = id
    · simp [step, recordFailedSession, Apart, Event.Timely, heq]
    · simpa [step, recordFailedSession, Apart, Event.Timely, heq, Ne.symm heq] using h
  | remove attempt => exact iff_of_true (apart_removeAttempt h attempt) trivial
  | expire now clock missing => exact iff_of_true (apart_expire h now clock missing) trivial

variable (id) in
/-- What an answer says of the ceremony is so in the store. -/
structure Truthful (answer : DkgSessionStatusValue) (s : SessionStore) : Prop where
  failed : answer = .failed → s.states id = none
  inProgress : answer = .inProgress ↔
    ∃ session, s.states id = some session ∧ session.phase ≠ .phase4Complete
  completed : answer = .completed ↔
    ∃ session, s.states id = some session ∧ session.phase = .phase4Complete

variable [Sha256] {ringId : String}

theorem truthful_of_no_record (h : s.failedSessions (deriveFreshDkgSessionId ringId) = none) :
    Truthful (deriveFreshDkgSessionId ringId) (sessionStatus s s' ringId).status s' := by
  cases hstate : s'.states (deriveFreshDkgSessionId ringId) with
  | none =>
    have hstatus : (sessionStatus s s' ringId).status = .notFound := by
      simp only [sessionStatus, h, hstate]
    constructor <;> simp [hstatus, hstate]
  | some session =>
    have hstatus : (sessionStatus s s' ringId).status =
        if session.phase = .phase4Complete then .completed else .inProgress := by
      simp only [sessionStatus, h, hstate, phaseResponse]
    by_cases hphase : session.phase = .phase4Complete <;>
      constructor <;> simp [hstatus, hstate, hphase]

theorem truthful_iff_of_record {entry : FailedDkgSessionRecord × ℕ}
    (h : s.failedSessions (deriveFreshDkgSessionId ringId) = some entry) :
    Truthful (deriveFreshDkgSessionId ringId) (sessionStatus s s' ringId).status s ↔
      s.states (deriveFreshDkgSessionId ringId) = none := by
  have hstatus : (sessionStatus s s' ringId).status = .failed := by
    simp only [sessionStatus, h, failedResponse]
  refine ⟨fun htrue => htrue.failed hstatus, fun hnone => ?_⟩
  constructor <;> simp [hstatus, hnone]

theorem truthful_iff_apart : Truthful (deriveFreshDkgSessionId ringId)
    (sessionStatus s s ringId).status s ↔ Apart (deriveFreshDkgSessionId ringId) s := by
  cases hfailed : s.failedSessions (deriveFreshDkgSessionId ringId) with
  | none => exact iff_of_true (truthful_of_no_record hfailed) (.inl hfailed)
  | some entry =>
    rw [truthful_iff_of_record hfailed, Apart, hfailed]
    simp

variable (ringId)

/-- At every moment of a history the answer to a status query is true of the newest attempt exactly
if the history is timely.  Then a query during which other events happen gives an answer that is
true at a moment of the query. -/
theorem session_status_truthful (history : List Event) :
    ((∀ seen, seen <+: history →
        Truthful (deriveFreshDkgSessionId ringId)
          (sessionStatus (run step empty seen) (run step empty seen) ringId).status
          (run step empty seen)) ↔
      Along step (fun s event => event.Timely (deriveFreshDkgSessionId ringId) s) empty history) ∧
    (Along step (fun s event => event.Timely (deriveFreshDkgSessionId ringId) s) empty history →
      ∀ between, ∃ during, during <+: between ∧
        Truthful (deriveFreshDkgSessionId ringId)
          (sessionStatus (run step empty history) (run step empty (history ++ between))
            ringId).status
          (run step empty (history ++ during))) := by
  have hseen :
      Along step (fun s event => event.Timely (deriveFreshDkgSessionId ringId) s) empty history ↔
        ∀ seen, seen <+: history → Apart (deriveFreshDkgSessionId ringId) (run step empty seen) :=
    @along_iff_forall_seen _ _ step _ (Apart (deriveFreshDkgSessionId ringId))
      (fun _ event h => apart_step h event) empty (.inl rfl) history
  refine ⟨?_, fun htimely between => ?_⟩
  · rw [hseen]
    exact forall₂_congr fun _ _ => truthful_iff_apart
  · have hapart := hseen.mp htimely history (List.prefix_refl _)
    cases hfailed : (run step empty history).failedSessions (deriveFreshDkgSessionId ringId) with
    | none => exact ⟨between, List.prefix_refl _, truthful_of_no_record hfailed⟩
    | some entry =>
      refine ⟨[], List.nil_prefix, ?_⟩
      rw [List.append_nil, truthful_iff_of_record hfailed]
      exact hapart.resolve_left (by simp [hfailed])

end

end SessionStore

namespace Retry

open SessionStore
open scoped Plain

def ceremonyId : CeremonyId := deriveFreshDkgSessionId "ring"

def attempt (n : UInt8) : AttemptKey := ⟨ceremonyId, .repeated n⟩

def session (n : UInt8) (now : ℕ) : DkgSession :=
  ⟨(attempt n).attemptId, .fresh, "ring", .initializing, now, now, none⟩

def barrierFailure : FailedDkgSessionRecord where
  sessionId := ceremonyId
  ringId := "ring"
  attemptId := some (attempt 1).attemptId
  stage := .preparing
  missing := [⟨2, "b"⟩]
  reason := "prepare barrier failed"
  failedAt := 1000

/-- The first attempt is removed before its failure is recorded, and the second one is started when
the record has expired. -/
def begun : List Event :=
  [.create ceremonyId (session 1 0) false, .configure (attempt 1) 900, .remove (attempt 1),
    .recordFailed barrierFailure 10, .expire 700 1700 fun _ => [],
    .create ceremonyId (session 2 710) false, .configure (attempt 2) 1600,
    .updatePhase (attempt 2) .phase0CommitmentHashes 720,
    .updatePhase (attempt 2) .phase1Commitments 730]

theorem session_status_truthful_begun :
    (sessionStatus (run step empty begun) (run step empty begun) "ring").status = .inProgress := by
  have htimely : Along step (fun s event => event.Timely ceremonyId s) empty begun :=
    ⟨fun _ _ _ => rfl, trivial, trivial, fun _ => by decide +kernel, trivial,
      fun _ _ _ => by decide +kernel, trivial, trivial, trivial, trivial⟩
  have htrue := (session_status_truthful "ring" begun).1.mpr htimely begun (List.prefix_refl _)
  exact htrue.inProgress.mpr
    ⟨{ session 2 710 with
        phase := .phase1Commitments, phaseStartedAt := 730, hardDeadline := some 1600 },
      by decide +kernel, by decide⟩

/-- The preparation of the first attempt fails, which is recorded; the second attempt is started a
minute later. -/
def retried : List Event :=
  [.create ceremonyId (session 1 0) false, .configure (attempt 1) 900,
    .recordFailed barrierFailure 10, .remove (attempt 1), .expire 60 1050 fun _ => [],
    .create ceremonyId (session 2 70) false, .configure (attempt 2) 970,
    .updatePhase (attempt 2) .phase0CommitmentHashes 80]

def finished : List Event := retried ++ [.updatePhase (attempt 2) .phase4Complete 90]

/-- The second attempt is reported as failed, while it is in progress and when it is complete. -/
theorem retry_reported_failed :
    ((run step empty retried).states ceremonyId).map DkgSession.phase =
        some .phase0CommitmentHashes ∧
      (sessionStatus (run step empty retried) (run step empty retried) "ring").status = .failed ∧
      ((run step empty finished).states ceremonyId).map DkgSession.phase = some .phase4Complete ∧
      (sessionStatus (run step empty finished) (run step empty finished) "ring").status =
        .failed := by
  decide +kernel

end Retry

end Orbis.Node.Transport
