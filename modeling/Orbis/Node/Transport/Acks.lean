import Orbis.Node.Transport.Follower
import Orbis.Transition.Triple

/-!
# One digest for each acknowledgement

The session of an attempt gets each of its digests once, so a follower signs one digest for each
acknowledgement while the session is there.  The sessions are all it remembers: while no attempt
gets a second session, all acknowledgements of one kind for one attempt have the same digest, in
whatever order the requests arrive and however their handlers interleave.
-/

namespace Orbis.Node.Transport

open Orbis.Crypto Orbis.Data Orbis.Node.Dkg Orbis.Transition

namespace Follower

/-- No attempt gets a second session. -/
def NoSecondSession (_ s' : Follower) : Prop := s'.created.Nodup

instance (s s' : Follower) : Decidable (NoSecondSession s s') :=
  inferInstanceAs (Decidable (List.Nodup _))

/-- The digests that the session of an attempt had.  They outlive the session. -/
abbrev Ledger := AckKind → AttemptKey → Option Bytes32

def Ledger.Extends (ledger ledger' : Ledger) : Prop :=
  ∀ kind attempt digest, ledger kind attempt = some digest → ledger' kind attempt = some digest

namespace Ledger

variable {ledger : Ledger} {attempt other : AttemptKey} {digests : AckKind → Option Bytes32}

def set (ledger : Ledger) (attempt : AttemptKey) (digests : AckKind → Option Bytes32) : Ledger :=
  fun kind => Function.update (ledger kind) attempt (digests kind)

theorem set_self (kind : AckKind) : ledger.set attempt digests kind attempt = digests kind :=
  Function.update_self ..

theorem set_of_ne (h : other ≠ attempt) (kind : AckKind) :
    ledger.set attempt digests kind other = ledger kind other :=
  Function.update_of_ne h ..

theorem extends_set
    (h : ∀ kind digest, ledger kind attempt = some digest → digests kind = some digest) :
    ledger.Extends (ledger.set attempt digests) := by
  intro kind other digest hdigest
  by_cases heq : other = attempt
  · rw [heq] at hdigest ⊢
    rw [set_self]
    exact h kind digest hdigest
  · rw [set_of_ne heq]
    exact hdigest

end Ledger

structure Tracked where
  follower : Follower
  ledger : Ledger

/-- Only attempts that got a session have digests; what was signed is one of them. -/
structure Sound (x : Tracked) : Prop where
  session : ∀ ceremonyId session, x.follower.sessions ceremonyId = some session →
    ∃ attempt ∈ x.follower.created, attempt.ceremonyId = ceremonyId ∧
      session.attempt = some attempt ∧
        ∀ kind, x.ledger kind attempt = session.lifecycle.digest kind
  unborn : ∀ attempt, attempt ∉ x.follower.created → ∀ kind, x.ledger kind attempt = none
  signed : ∀ control ∈ x.follower.log, ∃ kind : AckKind, control.messageKind = kind.label ∧
    x.ledger kind control.attempt = some control.digest

theorem sound_idle : Sound ⟨idle, fun _ _ => none⟩ where
  session _ _ h := nomatch h
  unborn _ _ _ := rfl
  signed _ h := nomatch h

namespace Sound

variable {x : Tracked} {ceremonyId : CeremonyId} {session : Session}

/-- Slots and markers play no part. -/
theorem frame (h : Sound x) {s : Follower} (hsessions : s.sessions = x.follower.sessions)
    (hlog : s.log = x.follower.log) (hcreated : s.created = x.follower.created) :
    Sound ⟨s, x.ledger⟩ := by
  obtain ⟨hsession, hunborn, hsigned⟩ := h
  rw [← hsessions, ← hcreated] at hsession
  rw [← hcreated] at hunborn
  rw [← hlog] at hsigned
  exact ⟨hsession, hunborn, hsigned⟩

theorem ledger_eq (h : Sound x) (hsession : x.follower.sessions ceremonyId = some session)
    {attempt : AttemptKey} (hattempt : session.attempt = some attempt) (kind : AckKind) :
    x.ledger kind attempt = session.lifecycle.digest kind := by
  obtain ⟨owner, -, -, howner, hledger⟩ := h.session _ _ hsession
  rw [hattempt] at howner
  rw [Option.some.inj howner]
  exact hledger kind

theorem attempt_eq (h : Sound x) (hsession : x.follower.sessions ceremonyId = some session)
    {attemptId : AttemptId} (hid : session.lifecycle.attemptId = some attemptId) :
    session.attempt = some ⟨ceremonyId, attemptId⟩ := by
  obtain ⟨owner, -, hceremony, howner, -⟩ := h.session _ _ hsession
  have hattempt : session.lifecycle.attempt = some owner := howner
  rw [TransportLifecycle.attemptId, hattempt] at hid
  rw [howner, ← hceremony, ← Option.some.inj hid]

theorem remove (h : Sound x) (ceremonyId : CeremonyId) :
    Sound ⟨x.follower.set ceremonyId none, x.ledger⟩ := by
  refine ⟨fun other session hsession => ?_, h.unborn, h.signed⟩
  by_cases hother : other = ceremonyId
  · simp only [hother, sessions_set_self, reduceCtorEq] at hsession
  · simp only [sessions_set_of_ne hother] at hsession
    exact h.session other session hsession

theorem reserve (h : Sound x) {attempt : AttemptKey} (hfresh : attempt ∉ x.follower.created)
    (ringKey : Option String) : Sound ⟨x.follower.reserve attempt ringKey, x.ledger⟩ := by
  refine ⟨fun other session hsession => ?_, fun other hother => ?_, h.signed⟩
  · by_cases heq : other = attempt.ceremonyId
    · simp only [heq, Follower.reserve, sessions_set_self] at hsession
      cases hsession
      refine ⟨attempt, List.mem_cons_self, heq.symm, rfl, fun kind => ?_⟩
      rw [h.unborn attempt hfresh kind]
      cases kind <;> rfl
    · simp only [Follower.reserve, sessions_set_of_ne heq] at hsession
      obtain ⟨owner, hmem, howner⟩ := h.session other session hsession
      exact ⟨owner, List.mem_cons_of_mem _ hmem, howner⟩
  · exact h.unborn other fun hmem => hother (List.mem_cons_of_mem _ hmem)

/-- A transition of a session: the ledger gets the digests that are new. -/
theorem grow (h : Sound x) (hsession : x.follower.sessions ceremonyId = some session)
    {lifecycle : TransportLifecycle} (hgrows : session.lifecycle.Grows lifecycle) :
    ∃ ledger', Sound ⟨x.follower.set ceremonyId (some { session with lifecycle }), ledger'⟩ ∧
      Ledger.Extends x.ledger ledger' := by
  obtain ⟨attempt, hmem, hceremony, hattempt, hledger⟩ := h.session _ _ hsession
  have hextends : Ledger.Extends x.ledger (Ledger.set x.ledger attempt lifecycle.digest) := by
    apply Ledger.extends_set
    intro kind digest hdigest
    rw [hledger] at hdigest
    exact hgrows.digest kind digest hdigest
  refine ⟨_, ⟨fun other other' hother => ?_, fun other hother kind => ?_,
    fun control hcontrol => ?_⟩, hextends⟩
  · by_cases heq : other = ceremonyId
    · simp only [heq, sessions_set_self] at hother
      cases hother
      exact ⟨attempt, hmem, hceremony.trans heq.symm, hgrows.attempt attempt hattempt,
        Ledger.set_self⟩
    · simp only [sessions_set_of_ne heq] at hother
      obtain ⟨owner, hmem', hceremony', howner, hledger'⟩ := h.session other other' hother
      have hne : owner ≠ attempt := by
        rintro rfl
        exact heq (hceremony'.symm.trans hceremony)
      exact ⟨owner, hmem', hceremony', howner,
        fun kind => (Ledger.set_of_ne hne kind).trans (hledger' kind)⟩
  · have hne : other ≠ attempt := by
      rintro rfl
      exact hother hmem
    exact (Ledger.set_of_ne hne kind).trans (h.unborn other hother kind)
  · obtain ⟨kind, hkind, hdigest⟩ := h.signed control hcontrol
    exact ⟨kind, hkind, hextends kind _ _ hdigest⟩

theorem record (h : Sound x) {kind : AckKind} {control : SignedControl}
    (hkind : control.messageKind = kind.label)
    (hdigest : x.ledger kind control.attempt = some control.digest) :
    Sound ⟨x.follower.record control, x.ledger⟩ := by
  refine ⟨h.session, h.unborn, fun other hother => ?_⟩
  rcases List.mem_append.mp hother with hmem | hmem
  · exact h.signed other hmem
  · rw [List.mem_singleton.mp hmem]
    exact ⟨kind, hkind, hdigest⟩

/-- Two acknowledgements of one kind for one attempt have one digest. -/
theorem digest_eq (h : Sound x) {control control' : SignedControl} (hmem : control ∈ x.follower.log)
    (hmem' : control' ∈ x.follower.log) (hkind : control.messageKind = control'.messageKind)
    (hattempt : control.attempt = control'.attempt) : control.digest = control'.digest := by
  obtain ⟨kind, hlabel, hdigest⟩ := h.signed control hmem
  obtain ⟨kind', hlabel', hdigest'⟩ := h.signed control' hmem'
  have hkinds : kind = kind' := by
    apply AckKind.label_injective
    rw [← hlabel, ← hlabel', hkind]
  rw [hkinds, hattempt, hdigest'] at hdigest
  exact (Option.some.inj hdigest).symm

end Sound

/-! ## Triples -/

def shared : Shared Follower Tracked := ⟨Tracked.follower, Sound, NoSecondSession⟩

/-- Digests stay in the ledger. -/
def contract : Contract Tracked where
  rely x y := Ledger.Extends x.ledger y.ledger
  guar x y := Ledger.Extends x.ledger y.ledger
  refl _ _ _ _ h := h
  trans hxy hyz kind attempt digest h := hyz kind attempt digest (hxy kind attempt digest h)

abbrev interference : Interference Follower Tracked := ⟨shared, contract⟩

theorem stable_ledger (kind : AckKind) (attempt : AttemptKey) (digest : Bytes32) :
    interference.Stable fun x => x.ledger kind attempt = some digest :=
  fun _ _ _ h hrely => hrely kind attempt digest h

section

open Interference

variable {α : Type}

theorem triple_transportConfiguration (ceremonyId : CeremonyId) :
    interference.Triple (fun _ => True) (inspect (transportConfiguration ceremonyId)) fun r x =>
      ∀ attempt digest, r = some (attempt, digest) → x.ledger .prepared attempt = some digest := by
  refine Triple.atomically stable_true
    (fun _ x y _ h hrely attempt digest hr => hrely _ _ _ (h attempt digest hr))
    fun w x hsound _ _ => ⟨x, rfl, hsound, contract.refl x, ?_⟩
  rintro r hr attempt digest rfl
  obtain ⟨session, hsession, hr⟩ := Option.bind_eq_some_iff.mp (Except.ok.inj hr)
  obtain ⟨owner, howner, hr⟩ := Option.bind_eq_some_iff.mp hr
  obtain ⟨configured, hconfigured, hr⟩ := Option.bind_eq_some_iff.mp hr
  cases hr
  rw [hsound.ledger_eq hsession howner, TransportLifecycle.digest, hconfigured]
  rfl

/-- A transition whose outcome says that the session has the digest of the request. -/
theorem triple_withStateMut (attempt : AttemptKey) (kind : AckKind) (digest : Bytes32)
    (done : α → Prop) {f : TransportLifecycle → TransportLifecycle × α} {missing : α}
    (hgrows : ∀ session, TransportLifecycle.Grows session (f session).1) (hmissing : ¬ done missing)
    (hdone : ∀ session, done (f session).2 →
      (f session).1.attemptId = some attempt.attemptId ∧ (f session).1.digest kind = some digest) :
    interference.Triple (fun _ => True) (withStateMut attempt.ceremonyId f missing) fun r x =>
      done r → x.ledger kind attempt = some digest := by
  refine Triple.atomically stable_true (fun r => (stable_ledger kind attempt digest).imp) ?_
  intro w x hsound _ _
  cases hsession : x.follower.sessions attempt.ceremonyId with
  | none =>
    refine ⟨x, by simp only [shared, hsession], hsound, contract.refl x, fun r hr hd => ?_⟩
    simp only [shared, hsession, Except.ok.injEq] at hr
    exact absurd (hr ▸ hd) hmissing
  | some session =>
    obtain ⟨ledger', hsound', hextends⟩ := hsound.grow hsession (hgrows session.lifecycle)
    refine ⟨_, by simp only [shared, hsession], hsound', hextends, fun r hr hd => ?_⟩
    simp only [shared, hsession, Except.ok.injEq] at hr
    obtain ⟨hid, hdigest⟩ := hdone session.lifecycle (hr ▸ hd)
    have hstored := sessions_set_self x.follower attempt.ceremonyId
      (some { session with lifecycle := (f session.lifecycle).1 })
    exact (hsound'.ledger_eq hstored (hsound'.attempt_eq hstored hid) kind).trans hdigest

theorem triple_createSession (attempt : AttemptKey) (ringKey : Option String) :
    interference.Triple (fun _ => True) (createSession attempt ringKey) fun _ _ => True := by
  refine Triple.atomically stable_true (fun _ => stable_true) fun w x hsound _ hallowed => ?_
  cases hsession : x.follower.sessions attempt.ceremonyId with
  | some session =>
    exact ⟨x, by simp only [shared, hsession], hsound, contract.refl x, fun _ _ => trivial⟩
  | none =>
    cases houtage : w.outage with
    | some e =>
      exact ⟨x, by simp only [shared, hsession], hsound, contract.refl x,
        fun _ _ => trivial⟩
    | none =>
      simp only [shared, hsession, houtage] at hallowed
      have hfresh := (List.nodup_cons.mp hallowed).1
      exact ⟨⟨x.follower.reserve attempt ringKey, x.ledger⟩,
        by simp only [shared, hsession], hsound.reserve hfresh ringKey,
        contract.refl x, fun _ _ => trivial⟩

theorem triple_removeIf (ceremonyId : CeremonyId) (test : Session → Bool) (completed : Bool) :
    interference.Triple (fun _ => True) (removeIf ceremonyId test completed) fun _ _ => True := by
  refine Triple.atomically stable_true (fun _ => stable_true) fun w x hsound _ _ => ?_
  cases hsession : x.follower.sessions ceremonyId with
  | none => exact ⟨x, by simp only [shared, hsession], hsound, contract.refl x, fun _ _ => trivial⟩
  | some session =>
    cases htest : test session with
    | false =>
      exact ⟨x, by simp [shared, hsession, htest], hsound, contract.refl x,
        fun _ _ => trivial⟩
    | true =>
      exact ⟨⟨x.follower.drop ceremonyId session completed, x.ledger⟩,
        by simp only [shared, hsession, htest, ↓reduceIte],
        (hsound.remove ceremonyId).frame rfl rfl rfl, contract.refl x, fun _ _ => trivial⟩

/-- The steps that neither sign nor take a transition keep every digest. -/
theorem routine_triple :
    Routine fun p => interference.Triple (fun _ => True) p fun _ _ => True where
  result result := by
    cases result with
    | ok a => exact Triple.pure (fun _ _ _ => trivial) stable_true
    | error e => exact Triple.throw e
  bind hp hf := hp.bind hf
  frame h := by
    refine Triple.atomically stable_true (fun _ => stable_true) fun w x hsound _ _ => ?_
    obtain ⟨hsessions, hlog, hcreated⟩ := h w x.follower
    exact ⟨⟨_, x.ledger⟩, rfl, hsound.frame hsessions hlog hcreated, contract.refl x,
      fun _ _ => trivial⟩
  createSession := triple_createSession
  removeIf := triple_removeIf

variable [Sha256] [NodeSigning] (signingKeyHex nodeKey : String)

theorem triple_sign (kind : AckKind) (attempt : AttemptKey) (digest : Bytes32) :
    interference.Triple (fun x => x.ledger kind attempt = some digest)
      (sign signingKeyHex nodeKey kind attempt digest) fun _ _ => True := by
  refine Triple.atomically (stable_ledger kind attempt digest) (fun _ => stable_true) ?_
  intro w x hsound hdigest _
  cases houtage : w.outage with
  | some e =>
    exact ⟨x, rfl, hsound, contract.refl x, fun _ _ => trivial⟩
  | none =>
    cases hsign : signControlMessage signingKeyHex nodeKey w.now attempt.ceremonyId
      attempt.attemptId kind.label digest with
    | error e =>
      exact ⟨x, rfl, hsound, contract.refl x,
        fun _ _ => trivial⟩
    | ok signature =>
      exact ⟨⟨x.follower.record (kind.control attempt digest signature), x.ledger⟩, rfl,
        hsound.record rfl hdigest, contract.refl x, fun _ _ => trivial⟩

theorem triple_acknowledgeConfigured (prepare : PrepareSession) :
    interference.Triple (fun _ => True) (acknowledgeConfigured signingKeyHex nodeKey prepare)
      fun _ _ => True := by
  refine (triple_transportConfiguration _).bind fun configuration => ?_
  match configuration with
  | none => exact Triple.pure (fun _ _ _ => trivial) stable_true
  | some (attempt, digest) =>
    simp only
    split_ifs with hsame
    · have hsign := triple_sign signingKeyHex nodeKey .prepared attempt digest
      rw [← hsame.1, ← hsame.2]
      refine Triple.bind (hsign.mono (fun _ _ hledger => hledger attempt digest rfl)
        fun _ _ _ h => h) fun _ => routine_triple.pure _
    · exact Triple.throw _

theorem triple_configure (prepare : PrepareSession) (leaderRoute : String) :
    interference.Triple (fun _ => True) (configure signingKeyHex nodeKey prepare leaderRoute)
      fun _ _ => True := by
  refine routine_triple.external.bind fun _ => Triple.bind (triple_withStateMut
    prepare.attempt .prepared prepare.configDigest
    (fun outcome => outcome ≠ .conflictingAttempt ∧ outcome ≠ .missingSession)
    (TransportLifecycle.configureTransport_grows _ _) (fun h => h.2 rfl) fun session h => ?_)
    fun outcome => ?_
  · obtain ⟨hattempt, hdigest⟩ := TransportLifecycle.configureTransport_configured h.1
    exact ⟨by rw [TransportLifecycle.attemptId, hattempt]; rfl, hdigest⟩
  · have hsign := triple_sign signingKeyHex nodeKey .prepared prepare.attempt prepare.configDigest
    cases outcome with
    | conflictingAttempt | missingSession => exact Triple.throw _
    | configured | alreadyConfigured =>
      exact hsign.mono (fun _ _ h => h (by decide)) fun _ _ _ h => h

variable [LawfulSha256]

theorem triple_onActivate [Serde (List ParticipantRef)] (sender : Bytes) (attempt : AttemptKey)
    (digest : Bytes32) (activeDealers : List ParticipantRef) :
    interference.Triple (fun _ => True)
      (onActivate signingKeyHex nodeKey sender attempt digest activeDealers) fun _ _ => True := by
  refine (routine_triple.validateLeaderSender _ _).bind fun _ =>
    (routine_triple.inspect _).bind fun _ => ?_
  refine Triple.bind_result fun _ _ => Triple.bind_result fun _ _ => ?_
  refine Triple.bind (triple_withStateMut attempt .activated digest
    (fun outcome => outcome ≠ .staleAttempt ∧ outcome ≠ .missingSession)
    (TransportLifecycle.activateTransport_grows _ _ _) (fun h => h.2 rfl)
    fun session h => TransportLifecycle.activateTransport_activated h.1) fun outcome => ?_
  have hsign := triple_sign signingKeyHex nodeKey .activated attempt digest
  cases outcome with
  | staleAttempt | missingSession => exact Triple.throw _
  | activated | alreadyActivated => exact hsign.mono (fun _ _ h => h (by decide)) fun _ _ _ h => h

omit [LawfulSha256] in
theorem triple_onBegin (sender : Bytes) (attempt : AttemptKey) (digest : Bytes32) :
    interference.Triple (fun _ => True) (onBegin signingKeyHex nodeKey sender attempt digest)
      fun _ _ => True := by
  refine (routine_triple.validateLeaderSender _ _).bind fun _ => ?_
  refine Triple.bind (triple_withStateMut attempt .begun digest
    (fun outcome => outcome ≠ .staleAttempt ∧ outcome ≠ .notActivated ∧
      outcome ≠ .missingSession)
    (TransportLifecycle.beginTransport_grows _ _) (fun h => h.2.2 rfl)
    fun session h => TransportLifecycle.beginTransport_begun h.1 h.2.1) fun outcome => ?_
  have hsign := triple_sign signingKeyHex nodeKey .begun attempt digest
  cases outcome with
  | notActivated | staleAttempt | missingSession => exact Triple.throw _
  | begun | alreadyBegun => exact hsign.mono (fun _ _ h => h (by decide)) fun _ _ _ h => h

end

section Runs

variable [Sha256] [LawfulSha256] [NodeSigning] [Serde SessionKind] [Serde (List ParticipantRef)]
  (signingKeyHex nodeKey : String)

theorem triple_handle (input : Input) :
    interference.Triple (fun _ => True) (handle signingKeyHex nodeKey input) fun _ _ => True :=
  routine_triple.handle signingKeyHex nodeKey (triple_acknowledgeConfigured signingKeyHex nodeKey)
    (triple_configure signingKeyHex nodeKey)
    (fun sender attempt digest activeDealers _ =>
      triple_onActivate signingKeyHex nodeKey sender attempt digest activeDealers)
    (triple_onBegin signingKeyHex nodeKey)

theorem triples :
    Triples shared (fun _ _ => contract) (handler signingKeyHex nodeKey) (fun _ _ _ => True)
      (fun _ _ _ _ => True) fun _ => True where
  interference _ h := h
  stable _ _ := Interference.stable_true
  triple input _ _ := triple_handle signingKeyHex nodeKey input

theorem sound_after {schedule : List (Move Input Answer)}
    (h : (Pool.empty idle).Obeys (handler signingKeyHex nodeKey) NoSecondSession schedule) :
    ∃ ledger, Sound ⟨after signingKeyHex nodeKey schedule, ledger⟩ := by
  obtain ⟨z, hz, -⟩ := (Pool.reached_empty sound_idle).run (triples signingKeyHex nodeKey)
    sound_idle (fun _ _ => trivial) (fun _ _ => trivial) h
  have hstate : z.follower = after signingKeyHex nodeKey schedule := hz.state
  refine ⟨z.ledger, ?_⟩
  rw [← hstate]
  exact hz.invariant

end Runs

end Follower

end Orbis.Node.Transport
