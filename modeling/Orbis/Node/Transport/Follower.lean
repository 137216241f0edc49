import Orbis.Node.Transport.Lifecycle
import Orbis.Node.Transport.SignedControl

/-!
# Followers

What a node does when a leader's Prepare, Activate, Begin or Abort arrives.  A request is compared
with the session of its ceremony, and acknowledged after the session has taken the transition.  A
ceremony for a ring that exists claims the ring's slot before its session is created.  A reshare
that is ready to be signed is marked.  Sessions are removed by an abort, at the end of an attempt
and when they expire; the slot and the markers of the attempt are cleared in later steps.

Sessions, slots and markers are kept in maps with a lock each, so every step here is one access to
one of them.  A restart is an expiry of all sessions.
-/

namespace Orbis.Node.Transport

open Orbis.Crypto Orbis.Data Orbis.Node.Dkg Orbis.Transition

/-- The lifecycle of a session, and the ring whose slot its kind claims. -/
structure Session where
  lifecycle : TransportLifecycle
  ringKey : Option String
deriving DecidableEq

def Session.attempt (session : Session) : Option AttemptKey := session.lifecycle.attempt

/-- One exact update of a ring by a reshare. -/
structure ReshareSignatureReadyKey where
  ringKey : String
  attempt : AttemptKey
  ringId : String
  currentRingSha256 : String
  finalizedRingSha256 : String
deriving DecidableEq

/-- Of the markers the keys are kept.  `log`, `created` and `ended` record the acknowledgements that
were signed, the attempts that got a session, and those whose session was removed, with whether it
was completed; no handler reads them. -/
structure Follower where
  sessions : CeremonyId → Option Session
  ringsPss : AList fun _ : String => AttemptKey
  ready : List ReshareSignatureReadyKey
  log : List SignedControl
  created : List AttemptKey
  ended : List (AttemptKey × Bool)

/-- What a step gets from outside: the time, and the error of a call that fails. -/
structure Answer where
  now : UInt64
  outage : Option DkgError

abbrev FollowerM := ExceptT DkgError (Task Answer Follower)

/-- What is sent back. -/
inductive ControlReply where
  | acknowledged (kind : AckKind) (attempt : AttemptKey) (digest : Bytes32)
      (reportSignature : ControlSignature)
  | abort (attempt : AttemptKey) (reason : String)
deriving DecidableEq

/-- A ceremony for a ring that exists has the ring's slot. -/
def SessionKind.ringKey : SessionKind → Option String
  | fresh => none
  | freshPet ringId | refreshPet ringId | resharePet ringId _ _ => some ringId
  | refresh ringPkHex | reshare ringPkHex _ _ _ => some ringPkHex

def PrepareSession.attempt (prepare : PrepareSession) : AttemptKey :=
  ⟨prepare.ceremonyId, prepare.attemptId⟩

def AckKind.control (kind : AckKind) (attempt : AttemptKey) (digest : Bytes32)
    (signature : ControlSignature) : SignedControl :=
  ⟨attempt.ceremonyId, attempt.attemptId, kind.label, digest, signature.signedAt,
    signature.signature, kind.fits_label⟩

def SignedControl.attempt (control : SignedControl) : AttemptKey :=
  ⟨control.ceremonyId, control.attemptId⟩

namespace Follower

def idle : Follower := ⟨fun _ => none, ∅, [], [], [], []⟩

def set (s : Follower) (ceremonyId : CeremonyId) (session : Option Session) : Follower :=
  { s with sessions := Function.update s.sessions ceremonyId session }

@[simp] theorem sessions_set_self (s : Follower) (ceremonyId : CeremonyId)
    (session : Option Session) : (s.set ceremonyId session).sessions ceremonyId = session :=
  Function.update_self ..

theorem sessions_set_of_ne {ceremonyId other : CeremonyId} (h : other ≠ ceremonyId) (s : Follower)
    (session : Option Session) : (s.set ceremonyId session).sessions other = s.sessions other :=
  Function.update_of_ne h ..

def reserve (s : Follower) (attempt : AttemptKey) (ringKey : Option String) : Follower :=
  { s.set attempt.ceremonyId (some ⟨.reserved attempt, ringKey⟩) with
    created := attempt :: s.created }

def record (s : Follower) (control : SignedControl) : Follower :=
  { s with log := s.log ++ [control] }

def drop (s : Follower) (ceremonyId : CeremonyId) (session : Session) (completed : Bool) :
    Follower :=
  { s.set ceremonyId none with
    ended := session.attempt.toList.map (fun attempt => (attempt, completed)) ++ s.ended }

def Live (s : Follower) (attempt : AttemptKey) : Prop :=
  (s.sessions attempt.ceremonyId).bind Session.attempt = some attempt

instance (s : Follower) (attempt : AttemptKey) : Decidable (s.Live attempt) :=
  inferInstanceAs (Decidable (_ = _))

def transportConfiguration (ceremonyId : CeremonyId) (s : Follower) :
    Option (AttemptKey × Bytes32) := do
  let session ← s.sessions ceremonyId
  let attempt ← session.attempt
  let configured ← session.lifecycle.transport
  pure (attempt, configured.configDigest)

/-- The committee digest and whether the attempt is activated are left out. -/
def transportInfo (ceremonyId : CeremonyId) (s : Follower) : Option (AttemptKey × String) := do
  let session ← s.sessions ceremonyId
  let attempt ← session.attempt
  let configured ← session.lifecycle.transport
  pure (attempt, configured.leaderNodeKey)

def transportLeaderRoute (ceremonyId : CeremonyId) (s : Follower) : Option String := do
  let session ← s.sessions ceremonyId
  let configured ← session.lifecycle.transport
  pure configured.leaderPeerRoute

/-- `with_attempt_state`, with the error that its callers make of a failure. -/
def withAttemptState {α : Type} (attempt : AttemptKey) (f : Session → α) (s : Follower) :
    Except DkgError α :=
  let id := attempt.ceremonyId.toNat
  match s.sessions attempt.ceremonyId with
  | none => .error (.sessionNotFound s!"DKG session {id} not found")
  | some session =>
    if session.attempt ≠ some attempt then .error (.staleAttempt id) else .ok (f session)

/-! ## Steps -/

def ofResult {α : Type} (result : Except DkgError α) : FollowerM α := ExceptT.mk (pure result)

def inspect {α : Type} (f : Follower → α) : FollowerM α :=
  ExceptT.mk (Task.atomically fun _ s => (s, .ok (f s)))

def external : FollowerM Unit :=
  ExceptT.mk (Task.atomically fun w s =>
    (s, match w.outage with
      | some e => .error e
      | none => .ok ()))

/-- `with_state_mut`: a transition of one session. -/
def withStateMut {α : Type} (ceremonyId : CeremonyId)
    (f : TransportLifecycle → TransportLifecycle × α) (missing : α) : FollowerM α :=
  ExceptT.mk (Task.atomically fun _ s =>
    match s.sessions ceremonyId with
    | none => (s, .ok missing)
    | some session =>
      (s.set ceremonyId (some { session with lifecycle := (f session.lifecycle).1 }),
        .ok (f session.lifecycle).2))

/-- The node cannot be created or the limit of sessions is reached: `refused`. -/
inductive CreateSessionOutcome where
  | created
  | alreadyExists
  | refused (error : DkgError)

def createSession (attempt : AttemptKey) (ringKey : Option String) :
    FollowerM CreateSessionOutcome :=
  ExceptT.mk (Task.atomically fun w s =>
    match s.sessions attempt.ceremonyId with
    | some _ => (s, .ok .alreadyExists)
    | none =>
      match w.outage with
      | some e => (s, .ok (.refused e))
      | none => (s.reserve attempt ringKey, .ok .created))

/-! ## Slots -/

inductive RingPssClaimOutcome where
  | claimed
  | alreadyClaimedBySameSession
  | conflict (activeSessionId : CeremonyId)

def claimRingPssAttempt (ringKey : String) (attempt : AttemptKey) :
    FollowerM RingPssClaimOutcome :=
  ExceptT.mk (Task.atomically fun _ s =>
    match s.ringsPss.lookup ringKey with
    | none => ({ s with ringsPss := s.ringsPss.insert ringKey attempt }, .ok .claimed)
    | some existing =>
      (s, .ok (if existing = attempt then .alreadyClaimedBySameSession
        else .conflict existing.ceremonyId)))

/-- The slot is released if its owner passes the test. -/
def unmarkRingPss (ringKey : String) (owner : AttemptKey → Bool) : FollowerM Unit :=
  ExceptT.mk (Task.atomically fun _ s =>
    if (s.ringsPss.lookup ringKey).any owner then
      ({ s with ringsPss := s.ringsPss.erase ringKey }, .ok ())
    else (s, .ok ()))

def unmarkRingPssForAttempt (ringKey : String) (attempt : AttemptKey) : FollowerM Unit :=
  unmarkRingPss ringKey fun owner => owner = attempt

def unmarkRingPssIfMatches (ringKey : String) (sessionId : CeremonyId) : FollowerM Unit :=
  unmarkRingPss ringKey fun owner => owner.ceremonyId = sessionId

/-! ## Markers -/

def retainReady (keep : ReshareSignatureReadyKey → Bool) : FollowerM Unit :=
  ExceptT.mk (Task.atomically fun _ s => ({ s with ready := s.ready.filter keep }, .ok ()))

/-- The attempt is looked up again after the marker is set. -/
def markReshareSignatureReadyForAttempt (key : ReshareSignatureReadyKey) : FollowerM Bool := do
  let before ← inspect (withAttemptState key.attempt fun _ => ())
  match before with
  | .error _ => pure false
  | .ok () => do
      ExceptT.mk (Task.atomically fun _ s =>
        ({ s with ready := key :: s.ready.filter (· ≠ key) }, .ok ()))
      let after ← inspect (withAttemptState key.attempt fun _ => ())
      match after with
      | .ok () => pure true
      | .error _ => do
          retainReady (· ≠ key)
          pure false

/-! ## Removal -/

/-- Removes the session of the ceremony if it passes the test. -/
def removeIf (ceremonyId : CeremonyId) (test : Session → Bool) (completed : Bool) :
    FollowerM (Option Session) :=
  ExceptT.mk (Task.atomically fun _ s =>
    match s.sessions ceremonyId with
    | none => (s, .ok none)
    | some session =>
      if test session then (s.drop ceremonyId session completed, .ok (some session))
      else (s, .ok none))

def releaseSlotOf (ceremonyId : CeremonyId) (session : Session) : FollowerM Unit :=
  match session.ringKey, session.attempt with
  | some ringKey, some attempt => unmarkRingPssForAttempt ringKey attempt
  | some ringKey, none => unmarkRingPssIfMatches ringKey ceremonyId
  | none, _ => pure ()

/-- The markers of a completed attempt stay. -/
def finishRemovedSession (ceremonyId : CeremonyId) (session : Session) (completed : Bool) :
    FollowerM Unit := do
  releaseSlotOf ceremonyId session
  if completed then pure () else retainReady fun key => session.attempt ≠ some key.attempt

def removeSession (ceremonyId : CeremonyId) (test : Session → Bool) (completed : Bool) :
    FollowerM Unit := do
  let removed ← removeIf ceremonyId test completed
  match removed with
  | none => pure ()
  | some session => finishRemovedSession ceremonyId session completed

def removeTransportAttempt (attempt : AttemptKey) (completed : Bool) : FollowerM Unit :=
  removeSession attempt.ceremonyId (fun session => session.attempt = some attempt) completed

/-- A leader gives up its own preparation. -/
def abortTransportPreparation (ceremonyId : CeremonyId) (attemptId : AttemptId) : FollowerM Unit :=
  removeSession ceremonyId
    (fun session => session.lifecycle.attemptId.all fun configured => configured = attemptId) false

/-- The worker that removes sessions at their deadline.  It clears the slot and the markers of the
session's attempt as the other removals do. -/
def expireSession (ceremonyId : CeremonyId) : FollowerM Unit :=
  removeSession ceremonyId (fun _ => true) false

/-! ## Handlers -/

def controlSenderError : DkgError := .unauthorized "control sender is not canonical leader"

def validateLeaderSender (ceremonyId : CeremonyId) (sender : Bytes) : FollowerM Unit := do
  let info ← inspect (transportInfo ceremonyId)
  let _ ← ofResult (okOr info (.sessionNotFound (toString ceremonyId.toNat)))
  let route ← inspect (transportLeaderRoute ceremonyId)
  let route ← ofResult (okOr route (.invalidState "leader route is missing"))
  ofResult (require (peerMatchesRoute sender route) controlSenderError)

def validateLeaderSenderForAttempt (attempt : AttemptKey) (sender : Bytes) : FollowerM Unit := do
  let session ← inspect (withAttemptState attempt fun session => session.lifecycle.transport)
  let configured ← ofResult session
  let configured ← ofResult (okOr configured (.invalidState "leader route is missing"))
  ofResult (require (peerMatchesRoute sender configured.leaderPeerRoute) controlSenderError)

/-- The checks of a Prepare that do not look at the session.  They return the leader's route. -/
def validatePrepare [Sha256] [LawfulSha256] [Serde SessionKind] (sender : Bytes)
    (prepare : PrepareSession) : Except DkgError String := do
  require (prepare.canonicalLeaderNodeKey = some prepare.leaderNodeKey)
    (.unauthorized "Prepare names an unauthorized leader")
  let leaderRoute ← okOr prepare.leaderRoute (.invalidInput "Prepare omits leader route")
  require (peerMatchesRoute sender leaderRoute)
    (.unauthorized "Prepare sender is not canonical leader")
  let expected ← (configDigest prepare).mapError .serialization
  require (expected = prepare.configDigest)
    (.unauthorized "Prepare configuration digest mismatch")
  pure leaderRoute

def claimSlot (attempt : AttemptKey) (ringKey : Option String) : FollowerM Unit :=
  match ringKey with
  | none => pure ()
  | some ringKey => do
      let outcome ← claimRingPssAttempt ringKey attempt
      match outcome with
      | .claimed | .alreadyClaimedBySameSession => pure ()
      | .conflict activeSessionId =>
        let active := activeSessionId.toNat
        let sessionId := attempt.ceremonyId.toNat
        throw (.unauthorized (s!"Ring {ringKey} already has conflicting in-progress PSS session " ++
          s!"{active} (got {sessionId})"))

def unclaimSlot (attempt : AttemptKey) (ringKey : Option String) : FollowerM Unit :=
  match ringKey with
  | none => pure ()
  | some ringKey => unmarkRingPssForAttempt ringKey attempt

/-- The slot is released again if no session can be created. -/
def createOrRelease (attempt : AttemptKey) (ringKey : Option String) : FollowerM Unit := do
  let outcome ← createSession attempt ringKey
  match outcome with
  | .created | .alreadyExists => pure ()
  | .refused e => do
      unclaimSlot attempt ringKey
      throw e

/-- The initiation is checked against the bulletin, the ring's slot is claimed for the attempt, and
a session is created unless the ceremony has one. -/
def handleSessionInit (attempt : AttemptKey) (kind : SessionKind) : FollowerM Unit := do
  external
  claimSlot attempt kind.ringKey
  let sessionExists ← inspect fun s => (s.sessions attempt.ceremonyId).isSome
  if sessionExists then pure () else createOrRelease attempt kind.ringKey

section

variable [Sha256] [NodeSigning] (signingKeyHex nodeKey : String)

/-- Signs and records an acknowledgement; the signing key may be unreadable. -/
def sign (kind : AckKind) (attempt : AttemptKey) (digest : Bytes32) : FollowerM ControlReply :=
  ExceptT.mk (Task.atomically fun w s =>
    match w.outage with
    | some e => (s, .error e)
    | none =>
      match signControlMessage signingKeyHex nodeKey w.now attempt.ceremonyId attempt.attemptId
        kind.label digest with
      | .error error => (s, .error (.crypto s!"Failed to sign DKG evidence: {error}"))
      | .ok signature =>
        (s.record (kind.control attempt digest signature),
          .ok (.acknowledged kind attempt digest signature)))

/-- A Prepare for a configured session is acknowledged if it is the same. -/
def acknowledgeConfigured (prepare : PrepareSession) : FollowerM (Option ControlReply) := do
  let configuration ← inspect (transportConfiguration prepare.ceremonyId)
  match configuration with
  | none => pure none
  | some (attempt, digest) =>
    if attempt = prepare.attempt ∧ digest = prepare.configDigest then do
      let reply ← sign signingKeyHex nodeKey .prepared prepare.attempt prepare.configDigest
      pure (some reply)
    else throw (.protocolError "Prepare conflicts with the configured transport attempt")

/-- The topic is subscribed to before the session is configured. -/
def configure (prepare : PrepareSession) (leaderRoute : String) : FollowerM ControlReply := do
  external
  let outcome ← withStateMut prepare.ceremonyId
    (TransportLifecycle.configureTransport prepare.attempt
      ⟨prepare.configDigest, prepare.leaderNodeKey, leaderRoute⟩) .missingSession
  match outcome with
  | .conflictingAttempt | .missingSession =>
    let name := outcome.name
    throw (.protocolError s!"cannot configure transport attempt: {name}")
  | .configured | .alreadyConfigured =>
    sign signingKeyHex nodeKey .prepared prepare.attempt prepare.configDigest

variable [LawfulSha256] [Serde SessionKind]

/-- The configuration is looked up before and after the steps that wait for the bulletin. -/
def prepareParticipant (sender : Bytes) (prepare : PrepareSession) : FollowerM ControlReply := do
  let leaderRoute ← ofResult (validatePrepare sender prepare)
  let reply ← acknowledgeConfigured signingKeyHex nodeKey prepare
  match reply with
  | some reply => pure reply
  | none => do
      external
      handleSessionInit prepare.attempt prepare.kind
      let reply ← acknowledgeConfigured signingKeyHex nodeKey prepare
      match reply with
      | some reply => pure reply
      | none => configure signingKeyHex nodeKey prepare leaderRoute

variable [Serde (List ParticipantRef)]

def onActivate (sender : Bytes) (attempt : AttemptKey) (digest : Bytes32)
    (activeDealers : List ParticipantRef) : FollowerM ControlReply := do
  validateLeaderSender attempt.ceremonyId sender
  let configuration ← inspect (transportConfiguration attempt.ceremonyId)
  let (configured, configDigest) ← ofResult (okOr configuration
    (.sessionNotFound (toString attempt.ceremonyId.toNat)))
  ofResult (do
    let mismatch : DkgError :=
      .unauthorized "activation digest or dealer set does not match prepared attempt"
    require (configured.attemptId = attempt.attemptId) mismatch
    let expected ← (activationDigest configDigest activeDealers).mapError .protocolError
    require (expected = digest) mismatch)
  let outcome ← withStateMut attempt.ceremonyId
    (TransportLifecycle.activateTransport attempt.attemptId digest activeDealers) .missingSession
  match outcome with
  | .staleAttempt | .missingSession => throw (.protocolError "activate for stale attempt")
  | .activated | .alreadyActivated => sign signingKeyHex nodeKey .activated attempt digest

omit [LawfulSha256] [Serde SessionKind] [Serde (List ParticipantRef)] in
def onBegin (sender : Bytes) (attempt : AttemptKey) (digest : Bytes32) :
    FollowerM ControlReply := do
  validateLeaderSender attempt.ceremonyId sender
  let outcome ← withStateMut attempt.ceremonyId
    (TransportLifecycle.beginTransport attempt.attemptId digest) .missingSession
  match outcome with
  | .notActivated => throw (.invalidState "begin received before transport activation")
  | .staleAttempt | .missingSession => throw (.protocolError "begin for stale attempt")
  | .begun | .alreadyBegun => sign signingKeyHex nodeKey .begun attempt digest

def onAbort (sender : Bytes) (attempt : AttemptKey) (reason : String) :
    FollowerM ControlReply := do
  validateLeaderSenderForAttempt attempt sender
  removeTransportAttempt attempt false
  pure (.abort attempt reason)

/-- What arrives at a follower, and what it does by itself: a reshare that is ready is marked, old
markers are dropped, and a slot is released or a session removed when an attempt ends. -/
inductive Input where
  | prepare (sender : Bytes) (prepare : PrepareSession)
  | activate (sender : Bytes) (attempt : AttemptKey) (digest : Bytes32)
      (activeDealers : List ParticipantRef)
  | begin (sender : Bytes) (attempt : AttemptKey) (digest : Bytes32)
  | abort (sender : Bytes) (attempt : AttemptKey) (reason : String)
  | markReady (key : ReshareSignatureReadyKey)
  | dropReady (keys : List ReshareSignatureReadyKey)
  | release (ringKey : String) (attempt : AttemptKey)
  | finish (attempt : AttemptKey) (completed : Bool)
  | abortPreparation (ceremonyId : CeremonyId) (attemptId : AttemptId)
  | expire (ceremonyId : CeremonyId)

/-- A handler that sends nothing back. -/
def silently {α : Type} (p : FollowerM α) : FollowerM (Option ControlReply) := do
  let _ ← p
  pure none

def reply (p : FollowerM ControlReply) : FollowerM (Option ControlReply) := do
  let answer ← p
  pure (some answer)

def handle : Input → FollowerM (Option ControlReply)
  | .prepare sender prepare => reply (prepareParticipant signingKeyHex nodeKey sender prepare)
  | .activate sender attempt digest activeDealers =>
    reply (onActivate signingKeyHex nodeKey sender attempt digest activeDealers)
  | .begin sender attempt digest => reply (onBegin signingKeyHex nodeKey sender attempt digest)
  | .abort sender attempt reason => reply (onAbort sender attempt reason)
  | .markReady key => silently (markReshareSignatureReadyForAttempt key)
  | .dropReady keys => silently (retainReady (· ∉ keys))
  | .release ringKey attempt => silently (unmarkRingPssForAttempt ringKey attempt)
  | .finish attempt completed => silently (removeTransportAttempt attempt completed)
  | .abortPreparation ceremonyId attemptId =>
    silently (abortTransportPreparation ceremonyId attemptId)
  | .expire ceremonyId => silently (expireSession ceremonyId)

def handler (input : Input) : Task Answer Follower (Except DkgError (Option ControlReply)) :=
  (handle signingKeyHex nodeKey input).run

/-- What a schedule makes of a follower that has no session. -/
def pool (schedule : List (Move Input Answer)) :
    Pool Input Answer Follower (Except DkgError (Option ControlReply)) :=
  Transition.run (Pool.step (handler signingKeyHex nodeKey)) (Pool.empty idle) schedule

def after (schedule : List (Move Input Answer)) : Follower :=
  (pool signingKeyHex nodeKey schedule).state

end

/-! ## What holds of the steps that no acknowledgement depends on -/

/-- A property of handlers that sequencing keeps, and that all steps have but those that sign or
take a transition of a session. -/
structure Routine (P : ∀ {α : Type}, FollowerM α → Prop) : Prop where
  result : ∀ {α : Type} (result : Except DkgError α), P (ofResult result)
  bind : ∀ {α β : Type} {p : FollowerM α} {f : α → FollowerM β}, P p → (∀ a, P (f a)) → P (p >>= f)
  frame : ∀ {α : Type} {f : Answer → Follower → Follower × Except DkgError α},
    (∀ w s, (f w s).1.sessions = s.sessions ∧ (f w s).1.log = s.log ∧
      (f w s).1.created = s.created) → P (ExceptT.mk (Task.atomically f))
  createSession : ∀ attempt ringKey, P (createSession attempt ringKey)
  removeIf : ∀ ceremonyId test completed, P (removeIf ceremonyId test completed)

namespace Routine

variable {P : ∀ {α : Type}, FollowerM α → Prop} (h : Routine P)
include h

theorem pure {α : Type} (a : α) : P (pure a : FollowerM α) := h.result (.ok a)

theorem throw {α : Type} (e : DkgError) : P (throw e : FollowerM α) := h.result (.error e)

theorem inspect {α : Type} (f : Follower → α) : P (inspect f) := h.frame fun _ _ => ⟨rfl, rfl, rfl⟩

theorem external : P external := h.frame fun _ _ => ⟨rfl, rfl, rfl⟩

theorem unmarkRingPss (ringKey : String) (owner : AttemptKey → Bool) :
    P (unmarkRingPss ringKey owner) := by
  refine h.frame fun w s => ?_
  split <;> exact ⟨rfl, rfl, rfl⟩

theorem retainReady (keep : ReshareSignatureReadyKey → Bool) : P (retainReady keep) :=
  h.frame fun _ _ => ⟨rfl, rfl, rfl⟩

theorem finishRemovedSession (ceremonyId : CeremonyId) (session : Session) (completed : Bool) :
    P (finishRemovedSession ceremonyId session completed) := by
  refine h.bind ?_ fun _ => ?_
  · unfold releaseSlotOf
    split
    · exact h.unmarkRingPss _ _
    · exact h.unmarkRingPss _ _
    · exact h.pure ()
  · cases completed with
    | true => exact h.pure ()
    | false => exact h.retainReady _

theorem removeSession (ceremonyId : CeremonyId) (test : Session → Bool) (completed : Bool) :
    P (removeSession ceremonyId test completed) := by
  refine h.bind (h.removeIf ceremonyId test completed) fun removed => ?_
  cases removed with
  | none => exact h.pure ()
  | some session => exact h.finishRemovedSession ceremonyId session completed

theorem markReady (key : ReshareSignatureReadyKey) :
    P (markReshareSignatureReadyForAttempt key) := by
  refine h.bind (h.inspect _) fun before => ?_
  cases before with
  | error e => exact h.pure false
  | ok _ =>
    refine h.bind (h.frame fun _ _ => ⟨rfl, rfl, rfl⟩) fun _ => h.bind (h.inspect _) fun after => ?_
    cases after with
    | ok _ => exact h.pure true
    | error e => exact h.bind (h.retainReady _) fun _ => h.pure false

theorem validateLeaderSender (ceremonyId : CeremonyId) (sender : Bytes) :
    P (validateLeaderSender ceremonyId sender) :=
  h.bind (h.inspect _) fun _ => h.bind (h.result _) fun _ =>
    h.bind (h.inspect _) fun _ => h.bind (h.result _) fun _ => h.result _

theorem claimSlot (attempt : AttemptKey) (ringKey : Option String) :
    P (claimSlot attempt ringKey) := by
  cases ringKey with
  | none => exact h.pure ()
  | some ringKey =>
    refine h.bind (h.frame fun w s => ?_) fun outcome => ?_
    · split <;> exact ⟨rfl, rfl, rfl⟩
    · cases outcome with
      | claimed | alreadyClaimedBySameSession => exact h.pure ()
      | conflict active => exact h.throw _

theorem createOrRelease (attempt : AttemptKey) (ringKey : Option String) :
    P (createOrRelease attempt ringKey) := by
  refine h.bind (h.createSession attempt ringKey) fun outcome => ?_
  cases outcome with
  | created | alreadyExists => exact h.pure ()
  | refused e =>
    refine h.bind ?_ fun _ => h.throw e
    cases ringKey with
    | none => exact h.pure ()
    | some ringKey => exact h.unmarkRingPss _ _

theorem handleSessionInit (attempt : AttemptKey) (kind : SessionKind) :
    P (handleSessionInit attempt kind) := by
  refine h.bind h.external fun _ => h.bind (h.claimSlot attempt kind.ringKey) fun _ =>
    h.bind (h.inspect _) fun sessionExists => ?_
  cases sessionExists with
  | true => exact h.pure ()
  | false => exact h.createOrRelease attempt kind.ringKey

variable [Sha256] [NodeSigning] (signingKeyHex nodeKey : String) [LawfulSha256]
  [Serde SessionKind]

theorem prepareParticipant
    (hack : ∀ prepare, P (acknowledgeConfigured signingKeyHex nodeKey prepare))
    (hconfigure : ∀ prepare leaderRoute, P (configure signingKeyHex nodeKey prepare leaderRoute))
    (sender : Bytes) (prepare : PrepareSession) :
    P (prepareParticipant signingKeyHex nodeKey sender prepare) := by
  refine h.bind (h.result _) fun leaderRoute => h.bind (hack prepare) fun reply => ?_
  cases reply with
  | some reply => exact h.pure _
  | none =>
    refine h.bind h.external fun _ => h.bind (h.handleSessionInit _ _) fun _ =>
      h.bind (hack prepare) fun reply => ?_
    cases reply with
    | some reply => exact h.pure _
    | none => exact hconfigure prepare leaderRoute

/-- All that a follower does, if the handlers that acknowledge have the property. -/
theorem handle [Serde (List ParticipantRef)]
    (hack : ∀ prepare, P (acknowledgeConfigured signingKeyHex nodeKey prepare))
    (hconfigure : ∀ prepare leaderRoute, P (configure signingKeyHex nodeKey prepare leaderRoute))
    {input : Input}
    (hactivate : ∀ sender attempt digest activeDealers,
      input = .activate sender attempt digest activeDealers →
        P (onActivate signingKeyHex nodeKey sender attempt digest activeDealers))
    (hbegin : ∀ sender attempt digest, P (onBegin signingKeyHex nodeKey sender attempt digest)) :
    P (handle signingKeyHex nodeKey input) := by
  have hreply : ∀ {p : FollowerM ControlReply}, P p → P (reply p) :=
    fun hp => h.bind hp fun _ => h.pure _
  have hsilent : ∀ {α : Type} {p : FollowerM α}, P p → P (silently p) :=
    fun hp => h.bind hp fun _ => h.pure _
  cases input with
  | prepare sender prepare =>
    exact hreply (h.prepareParticipant signingKeyHex nodeKey hack hconfigure sender prepare)
  | activate sender attempt digest activeDealers => exact hreply (hactivate _ _ _ _ rfl)
  | begin sender attempt digest => exact hreply (hbegin sender attempt digest)
  | abort sender attempt reason =>
    exact hreply (h.bind (h.bind (h.inspect _) fun _ => h.bind (h.result _) fun _ =>
      h.bind (h.result _) fun _ => h.result _) fun _ =>
        h.bind (h.removeSession _ _ false) fun _ => h.pure _)
  | markReady key => exact hsilent (h.markReady key)
  | dropReady keys => exact hsilent (h.retainReady _)
  | release ringKey attempt => exact hsilent (h.unmarkRingPss ringKey _)
  | finish attempt completed => exact hsilent (h.removeSession _ _ completed)
  | abortPreparation ceremonyId attemptId | expire ceremonyId =>
    exact hsilent (h.removeSession _ _ false)

end Routine

/-! ## What a step does to a session -/

section

variable [Sha256] [LawfulSha256] [Serde (List ParticipantRef)]

/-- What a handler's step can do to the session of a ceremony. -/
inductive SessionStep (input : Input) (ceremonyId : CeremonyId) :
    Option Session → Option Session → Prop where
  | same (session : Option Session) : SessionStep input ceremonyId session session
  | created (attempt : AttemptKey) (ringKey : Option String) :
    SessionStep input ceremonyId none (some ⟨.reserved attempt, ringKey⟩)
  | removed (session : Session) : SessionStep input ceremonyId (some session) none
  | configured (session : Session) (attempt : AttemptKey) (transport : ConfiguredTransport) :
    SessionStep input ceremonyId (some session)
      (some { session with
        lifecycle := (session.lifecycle.configureTransport attempt transport).1 })
  /-- The dealers were compared with their digest before. -/
  | activated (session : Session) {sender : Bytes} {attempt : AttemptKey}
    {digest configDigest : Bytes32} {dealers : List ParticipantRef}
    (input_eq : input = .activate sender attempt digest dealers)
    (ceremony_eq : attempt.ceremonyId = ceremonyId)
    (digest_eq : activationDigest configDigest dealers = .ok digest) :
    SessionStep input ceremonyId (some session) (some { session with
      lifecycle := (session.lifecycle.activateTransport attempt.attemptId digest dealers).1 })
  | begun (session : Session) (attemptId : AttemptId) (digest : Bytes32) :
    SessionStep input ceremonyId (some session)
      (some { session with lifecycle := (session.lifecycle.beginTransport attemptId digest).1 })

/-- A step of a follower, session by session. -/
def Steps (input : Input) (s s' : Follower) : Prop :=
  ∀ ceremonyId, SessionStep input ceremonyId (s.sessions ceremonyId) (s'.sessions ceremonyId)

variable {input : Input} {s : Follower} {α : Type}

theorem Steps.refl (s : Follower) : Steps input s s := fun _ => .same _

theorem Steps.set {ceremonyId : CeremonyId} {session : Option Session}
    (h : SessionStep input ceremonyId (s.sessions ceremonyId) session) :
    Steps input s (s.set ceremonyId session) := by
  intro other
  by_cases heq : other = ceremonyId
  · subst heq
    rwa [sessions_set_self]
  · rw [sessions_set_of_ne heq]
    exact .same _

theorem routine_steps : Routine fun p => p.run.Keeps (Steps input) where
  result _ := trivial
  bind hp hf := Task.composes_keeps.bind_ok hp hf
  frame h := Task.keeps_atomically fun w s ceremonyId => by
    rw [(h w s).1]
    exact .same _
  createSession attempt ringKey := by
    refine Task.keeps_atomically fun w s => ?_
    split
    · exact .refl s
    next hnone =>
      split
      · exact .refl s
      · refine Steps.set ?_
        rw [hnone]
        exact .created attempt ringKey
  removeIf ceremonyId test completed := by
    refine Task.keeps_atomically fun w s => ?_
    split
    · exact .refl s
    next session hsession =>
      split_ifs
      · refine Steps.set ?_
        rw [hsession]
        exact .removed session
      · exact .refl s

theorem steps_withStateMut {ceremonyId : CeremonyId}
    {f : TransportLifecycle → TransportLifecycle × α} {missing : α}
    (h : ∀ session : Session, SessionStep input ceremonyId (some session)
      (some { session with lifecycle := (f session.lifecycle).1 })) :
    (withStateMut ceremonyId f missing).run.Keeps (Steps input) := by
  refine Task.keeps_atomically fun w s => ?_
  split
  · exact .refl s
  next session hsession =>
    apply Steps.set
    rw [hsession]
    exact h session

theorem steps_bind_result {β : Type} {r : Except DkgError α} {f : α → FollowerM β}
    (h : ∀ a, r = .ok a → (f a).run.Keeps (Steps input)) :
    (ofResult r >>= f).run.Keeps (Steps input) := by
  cases r with
  | ok a => exact h a rfl
  | error e => trivial

variable [NodeSigning] (signingKeyHex nodeKey : String)

theorem steps_sign (kind : AckKind) (attempt : AttemptKey) (digest : Bytes32) :
    (sign signingKeyHex nodeKey kind attempt digest).run.Keeps (Steps input) := by
  refine Task.keeps_atomically fun w s => ?_
  split
  · exact .refl s
  · split <;> exact .refl _

theorem steps_acknowledgeConfigured (prepare : PrepareSession) :
    (acknowledgeConfigured signingKeyHex nodeKey prepare).run.Keeps (Steps input) := by
  refine routine_steps.bind (routine_steps.inspect _) fun configuration => ?_
  split
  · trivial
  · split_ifs
    · exact routine_steps.bind (steps_sign _ _ _ _ _) fun _ => trivial
    · trivial

theorem steps_configure (prepare : PrepareSession) (leaderRoute : String) :
    (configure signingKeyHex nodeKey prepare leaderRoute).run.Keeps (Steps input) := by
  refine routine_steps.bind routine_steps.external fun _ => routine_steps.bind
    (steps_withStateMut fun session => .configured session _ _) fun outcome => ?_
  cases outcome with
  | conflictingAttempt | missingSession => trivial
  | configured | alreadyConfigured => exact steps_sign _ _ _ _ _

theorem steps_onBegin (sender : Bytes) (attempt : AttemptKey) (digest : Bytes32) :
    (onBegin signingKeyHex nodeKey sender attempt digest).run.Keeps (Steps input) := by
  refine routine_steps.bind (routine_steps.validateLeaderSender _ _) fun _ => routine_steps.bind
    (steps_withStateMut fun session => .begun session _ _) fun outcome => ?_
  cases outcome with
  | notActivated | staleAttempt | missingSession => trivial
  | begun | alreadyBegun => exact steps_sign _ _ _ _ _

theorem steps_onActivate {sender : Bytes} {attempt : AttemptKey} {digest : Bytes32}
    {dealers : List ParticipantRef} (hinput : input = .activate sender attempt digest dealers) :
    (onActivate signingKeyHex nodeKey sender attempt digest dealers).run.Keeps (Steps input) := by
  refine routine_steps.bind (routine_steps.validateLeaderSender _ _) fun _ =>
    routine_steps.bind (routine_steps.inspect _) fun configuration =>
    routine_steps.bind (routine_steps.result _) fun configured => ?_
  refine steps_bind_result fun _ hcheck => ?_
  obtain ⟨-, hcheck⟩ := require_bind_eq_ok.mp hcheck
  obtain ⟨expected, hexpected, hsame⟩ := bind_eq_ok.mp hcheck
  obtain rfl := require_eq_ok.mp hsame
  refine routine_steps.bind (steps_withStateMut fun session =>
    .activated session hinput rfl (mapError_eq_ok.mp hexpected)) fun outcome => ?_
  cases outcome with
  | staleAttempt | missingSession => trivial
  | activated | alreadyActivated => exact steps_sign _ _ _ _ _

variable [Serde SessionKind]

theorem steps_handler (input : Input) :
    (handler signingKeyHex nodeKey input).Keeps (Steps input) :=
  routine_steps.handle signingKeyHex nodeKey (steps_acknowledgeConfigured _ _)
    (steps_configure _ _) (fun _ _ _ _ => steps_onActivate _ _) (steps_onBegin _ _)

end

end Follower

end Orbis.Node.Transport
