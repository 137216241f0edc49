import Orbis.Node.Transport.RingSlots

/-!
# Aborts

A leader's Abort removes the session of its attempt, and then the slot and the markers.  The leader
is authenticated by the route of the configured session, so an Abort of an attempt whose session is
not configured yet is refused, and the session stays.  If the session is configured when the Abort
arrives, or there is none, the attempt is cleared, as long as no session of the attempt is created
after that.
-/

namespace Orbis.Node.Transport

open Orbis.Crypto Orbis.Data Orbis.Node.Dkg Orbis.Transition

namespace Follower

/-- The attempt gets no session. -/
def NoNewSession (attempt : AttemptKey) (s s' : Follower) : Prop :=
  s'.Live attempt → s.Live attempt

instance (attempt : AttemptKey) (s s' : Follower) : Decidable (NoNewSession attempt s s') :=
  inferInstanceAs (Decidable (_ → _))

structure Cleared (attempt : AttemptKey) (s : Follower) : Prop where
  session : ¬ s.Live attempt
  slot : ∀ ringKey, s.ringsPss.lookup ringKey ≠ some attempt
  marker : ∀ key ∈ s.ready, key.attempt ≠ attempt

/-- A session of the attempt is configured, and the sender is at the route of its leader. -/
def Authorized (sender : Bytes) (attempt : AttemptKey) (s : Follower) : Prop :=
  ∀ session ∈ s.sessions attempt.ceremonyId, session.attempt = some attempt →
    ∃ transport ∈ session.lifecycle.transport,
      peerMatchesRoute sender transport.leaderPeerRoute = true

instance (sender : Bytes) (attempt : AttemptKey) (s : Follower) :
    Decidable (Authorized sender attempt s) :=
  inferInstanceAs (Decidable (∀ session ∈ s.sessions attempt.ceremonyId, _))

/-! ## The session -/

section

open Interference

variable [Sha256] [LawfulSha256] [Serde (List ParticipantRef)] {sender : Bytes}
  {attempt : AttemptKey} {s s' : Follower} {input : Input}

/-- A session keeps its configuration. -/
theorem transport_of_step {ceremonyId : CeremonyId} {session session' : Session}
    {transport : ConfiguredTransport}
    (h : SessionStep input ceremonyId (some session) (some session'))
    (htransport : session.lifecycle.transport = some transport) :
    session'.lifecycle.transport = some transport := by
  obtain ⟨lifecycle, ringKey⟩ := session
  change lifecycle.transport = some transport at htransport
  cases h with
  | same => exact htransport
  | configured =>
    simp only [TransportLifecycle.configureTransport, htransport]
    split_ifs <;> exact htransport
  | activated =>
    simp only [TransportLifecycle.activateTransport]
    split_ifs
    · exact htransport
    · cases lifecycle <;> exact htransport
  | begun =>
    simp only [TransportLifecycle.beginTransport]
    split_ifs
    · exact htransport
    · cases lifecycle with
      | activated =>
        dsimp only
        split_ifs <;> exact htransport
      | _ => exact htransport

theorem Authorized.step (h : Authorized sender attempt s) (hstep : Steps input s s')
    (hnew : NoNewSession attempt s s') : Authorized sender attempt s' := by
  intro session' hsession' hattempt'
  have hlive : s.Live attempt := hnew (Option.bind_eq_some_iff.mpr ⟨session', hsession', hattempt'⟩)
  obtain ⟨session, hsession, hattempt⟩ := Option.bind_eq_some_iff.mp hlive
  obtain ⟨transport, htransport, hmatches⟩ := h session hsession hattempt
  have hone := hstep attempt.ceremonyId
  rw [hsession, Option.mem_def.mp hsession'] at hone
  exact ⟨transport, transport_of_step hone htransport, hmatches⟩

omit [Sha256] [LawfulSha256] [Serde (List ParticipantRef)] in
theorem authorized_of_ended (h : ¬ s.Live attempt) : Authorized sender attempt s :=
  fun session hsession hattempt =>
    absurd (Option.bind_eq_some_iff.mpr ⟨session, hsession, hattempt⟩) h

def abortContract (attempt : AttemptKey) : Contract Follower where
  rely := NoNewSession attempt
  guar := NoNewSession attempt
  refl _ := id
  trans hxy hyz := hxy ∘ hyz

/-- The steps that are considered create no session of the attempt. -/
abbrev aborts (sender : Bytes) (attempt : AttemptKey) : Interference Follower Follower :=
  ⟨⟨id, Authorized sender attempt, NoNewSession attempt⟩, abortContract attempt⟩

omit [Sha256] [LawfulSha256] [Serde (List ParticipantRef)] in
theorem stable_ended : (aborts sender attempt).Stable fun s => ¬ s.Live attempt :=
  fun _ _ _ hended hrely hlive => hended (hrely hlive)

/-- All handlers keep what is stable. -/
theorem outcome_any {α : Type} {fact : Follower → Prop} {p : FollowerM α}
    (hkeeps : p.run.Keeps fun s s' => ∃ input, Steps input s s')
    (hfact : (aborts sender attempt).Stable fact) :
    (aborts sender attempt).Outcome fact p (fun _ => fact) fact := by
  refine Outcome.frame hkeeps hfact fun s s' hs hx hrel hallowed => ?_
  obtain ⟨input, hstep⟩ := hrel
  exact ⟨s', rfl, hs.step hstep hallowed, hallowed, hfact s s' hs hx hallowed⟩

theorem ended_removeTransportAttempt (completed : Bool) :
    (aborts sender attempt).Outcome (fun _ => True) (removeTransportAttempt attempt completed)
      (fun _ s => ¬ s.Live attempt) fun s => ¬ s.Live attempt := by
  have hremove : (aborts sender attempt).Outcome (fun _ => True)
      (removeIf attempt.ceremonyId (fun session => session.attempt = some attempt) completed)
      (fun _ s => ¬ s.Live attempt) fun s => ¬ s.Live attempt := by
    refine Ends.atomically stable_true (fun _ => stable_ended) (fun _ => stable_ended)
      fun w s hs _ hallowed => ?_
    suffices hended : ¬ Live _ attempt from
      ⟨_, rfl, authorized_of_ended hended, hallowed, fun _ _ => hended, fun _ _ => hended⟩
    unfold Live
    cases hsession : s.sessions attempt.ceremonyId with
    | none => simp [hsession]
    | some session =>
      by_cases hattempt : session.attempt = some attempt
      · simp [hsession, hattempt, drop]
      · simp [hsession, hattempt]
  refine hremove.bind fun removed => outcome_any ?_ stable_ended
  cases removed with
  | none => trivial
  | some session =>
    have hsteps : (finishRemovedSession attempt.ceremonyId session completed).run.Keeps
        (Steps (.dropReady [])) := routine_steps.finishRemovedSession _ session completed
    exact hsteps.mono fun _ _ h => ⟨_, h⟩

omit [Sha256] [LawfulSha256] [Serde (List ParticipantRef)] in
/-- The leader's Abort is only refused if there is no session of the attempt. -/
theorem ended_validateLeaderSender :
    (aborts sender attempt).Outcome (fun _ => True) (validateLeaderSenderForAttempt attempt sender)
      (fun _ _ => True) fun s => ¬ s.Live attempt := by
  have hread : (aborts sender attempt).Outcome (fun _ => True)
      (inspect (withAttemptState attempt fun session => session.lifecycle.transport))
      (fun r s => (¬ s.Live attempt ∧ ∃ e, r = .error e) ∨ ∃ transport, r = .ok (some transport) ∧
        peerMatchesRoute sender transport.leaderPeerRoute = true)
      fun s => ¬ s.Live attempt := by
    refine Ends.atomically stable_true (fun _ => ?_) (fun _ => stable_ended)
      fun w s hs _ hallowed => ⟨s, rfl, hs, hallowed, ?_, fun _ h => nomatch h⟩
    · rintro x y hx (⟨hended, he⟩ | hmatches) hrely
      · exact .inl ⟨stable_ended x y hx hended hrely, he⟩
      · exact .inr hmatches
    · rintro r ⟨⟩
      unfold withAttemptState
      cases hsession : s.sessions attempt.ceremonyId with
      | none =>
        refine .inl ⟨by simp [Live, hsession], ?_⟩
        simp only [id, hsession]
        exact ⟨_, rfl⟩
      | some session =>
        by_cases hattempt : session.attempt = some attempt
        · obtain ⟨transport, htransport, hmatches⟩ := hs session hsession hattempt
          exact .inr ⟨transport, by simp [hsession, hattempt, Option.mem_def.mp htransport],
            hmatches⟩
        · refine .inl ⟨by simp [Live, hsession, hattempt], ?_⟩
          simp [hsession, hattempt]
  refine hread.bind fun r s hs hr => ?_
  rcases hr with ⟨hended, e, rfl⟩ | ⟨transport, rfl, hmatches⟩
  · exact (Ends.throw (fun _ _ h => h) stable_ended :
      (aborts sender attempt).Outcome (fun s => ¬ s.Live attempt) (throw e : FollowerM Unit)
        (fun _ _ => True) fun s => ¬ s.Live attempt) s hs hended
  · have hpure : (aborts sender attempt).Outcome (fun _ => True) (pure () : FollowerM Unit)
        (fun _ _ => True) fun s => ¬ s.Live attempt := Ends.pure (fun _ _ _ => trivial) stable_true
    have hrequire : require (peerMatchesRoute sender transport.leaderPeerRoute = true)
        controlSenderError = .ok () := require_eq_ok.mpr hmatches
    change Task.Safe _ _ _ _ (ofResult (require
      (peerMatchesRoute sender transport.leaderPeerRoute = true) controlSenderError)).run s
    rw [hrequire]
    exact hpure s hs trivial

theorem ended_onAbort (reason : String) :
    (aborts sender attempt).Outcome (fun _ => True) (onAbort sender attempt reason)
      (fun _ s => ¬ s.Live attempt) fun s => ¬ s.Live attempt :=
  ended_validateLeaderSender.bind fun _ => (ended_removeTransportAttempt false).bind fun _ =>
    Ends.pure (fun _ _ h => h) stable_ended

end

section

variable [Sha256] [LawfulSha256] [NodeSigning] [Serde SessionKind] [Serde (List ParticipantRef)]
  (signingKeyHex nodeKey : String)

/-- A handler that starts as number `n` or later and aborts the attempt ends without a session. -/
def Aborted (sender : Bytes) (attempt : AttemptKey) (n : ℕ) (input : Input) (k : ℕ)
    (s : Follower) : Prop :=
  n ≤ k → (∃ reason, input = .abort sender attempt reason) → ¬ s.Live attempt

theorem safe_handler {sender : Bytes} {attempt : AttemptKey} (n : ℕ) (input : Input) (k : ℕ)
    {s : Follower} (hs : Authorized sender attempt s) :
    (handler signingKeyHex nodeKey input).Safe id (NoNewSession attempt)
      (aborts sender attempt).contract (fun _ s => Aborted sender attempt n input k s) s := by
  by_cases hinput : ∃ reason, input = .abort sender attempt reason
  · obtain ⟨reason, rfl⟩ := hinput
    have habort : (aborts sender attempt).Outcome (fun _ => True)
        (handle signingKeyHex nodeKey (.abort sender attempt reason))
        (fun _ s => ¬ s.Live attempt) fun s => ¬ s.Live attempt :=
      (ended_onAbort reason).bind fun _ => Interference.Ends.pure (fun _ _ h => h) stable_ended
    refine (habort s hs trivial).weaken ?_
    rintro r s' ⟨-, hok, herror⟩ - -
    cases r with
    | ok reply => exact hok reply rfl
    | error e => exact herror e rfl
  · have hany : (aborts sender attempt).Outcome (fun _ => True)
        (handle signingKeyHex nodeKey input) (fun _ _ => True) fun _ => True :=
      outcome_any ((steps_handler signingKeyHex nodeKey input).mono fun _ _ h => ⟨input, h⟩)
        Interference.stable_true
    exact (hany s hs trivial).weaken fun _ _ _ _ habort => absurd habort hinput

/-- However the Abort ends, there is no session of the attempt then. -/
theorem session_ended {before rest : List (Move Input Answer)} {sender : Bytes}
    {attempt : AttemptKey} {reason : String}
    (hnew : (pool signingKeyHex nodeKey before).Obeys (handler signingKeyHex nodeKey)
      (NoNewSession attempt) (.start (.abort sender attempt reason) :: rest))
    (hauthorized : Authorized sender attempt (after signingKeyHex nodeKey before))
    (hquiet : Quiet (pool signingKeyHex nodeKey
      (before ++ .start (.abort sender attempt reason) :: rest)) attempt.ceremonyId) :
    ¬ (after signingKeyHex nodeKey (before ++ .start (.abort sender attempt reason) :: rest)).Live
      attempt := by
  have hkeeps : (pool signingKeyHex nodeKey before).Keeps fun s s' => ∃ input, Steps input s s' :=
    ((Pool.keeps_empty idle).run (fun s => ⟨.dropReady [], .refl s⟩)
      (fun input _ => (steps_handler signingKeyHex nodeKey input).mono fun _ _ h => ⟨input, h⟩)
      (fun _ _ (_ : True) _ (_ : True) => trivial) (along_of_forall (fun _ _ => trivial) _ _)
      trivial).1
  have hsafe : (pool signingKeyHex nodeKey before).SafeAt id (NoNewSession attempt)
      (fun _ _ => (aborts sender attempt).contract)
      (fun input k _ => Aborted sender attempt (pool signingKeyHex nodeKey before).tasks.length
        input k) (after signingKeyHex nodeKey before) (after signingKeyHex nodeKey before) := by
    refine ⟨rfl, fun _ _ _ => (aborts sender attempt).contract.refl _, fun k i t hget => ?_⟩
    -- The handlers that are there when the Abort arrives only have to bear with it.
    have hlt : k < (pool signingKeyHex nodeKey before).tasks.length :=
      (List.getElem?_eq_some_iff.mp hget).1
    refine (outcome_any (p := ExceptT.mk t) (hkeeps k i t hget) Interference.stable_true _
      hauthorized trivial).weaken fun _ _ _ hle => absurd hlt (Nat.not_lt.mpr hle)
  have hcompatible : Compatible id (NoNewSession attempt)
      (fun _ _ => (aborts sender attempt).contract) (handler signingKeyHex nodeKey)
      (fun input k _ => Aborted sender attempt (pool signingKeyHex nodeKey before).tasks.length
        input k) (after signingKeyHex nodeKey before) fun _ => True :=
    ⟨fun _ h => h, fun input k _ _ hrely => safe_handler signingKeyHex nodeKey _ input k
      (hrely hauthorized).1⟩
  obtain ⟨z, hz, -⟩ := hsafe.run hcompatible (fun _ _ => trivial) hnew
  have hstarted : ((pool signingKeyHex nodeKey before).step (handler signingKeyHex nodeKey)
      (.start (.abort sender attempt reason))).tasks[
        (pool signingKeyHex nodeKey before).tasks.length]? =
      some (.abort sender attempt reason,
        handler signingKeyHex nodeKey (.abort sender attempt reason)) := by
    simp [Pool.step]
  obtain ⟨t, ht⟩ := Pool.input_run hstarted rest
  rw [Quiet, pool, run_append] at hquiet
  have hdone := hquiet _ (List.mem_of_getElem? ht) rfl
  have hstate : z = after signingKeyHex nodeKey
      (before ++ .start (.abort sender attempt reason) :: rest) := by
    rw [after, pool, run_append]
    exact hz.state
  cases t with
  | done r =>
    rw [← hstate]
    exact hz.started _ _ _ ht z ((aborts sender attempt).contract.refl z) le_rfl ⟨reason, rfl⟩
  | step act next => cases hdone

/-- An Abort of the leader of a configured session clears its attempt, once the handlers of the
ceremony have finished. -/
theorem abort_clears_attempt {before rest : List (Move Input Answer)} {sender : Bytes}
    {attempt : AttemptKey} {reason : String}
    (hauthorized : Authorized sender attempt (after signingKeyHex nodeKey before))
    (hseated : (Pool.empty idle).Obeys (handler signingKeyHex nodeKey) Seated
      (before ++ .start (.abort sender attempt reason) :: rest))
    (hnew : (pool signingKeyHex nodeKey before).Obeys (handler signingKeyHex nodeKey)
      (NoNewSession attempt) (.start (.abort sender attempt reason) :: rest))
    (hquiet : Quiet (pool signingKeyHex nodeKey
      (before ++ .start (.abort sender attempt reason) :: rest)) attempt.ceremonyId)
    (hcompleted : (attempt, true) ∉ (after signingKeyHex nodeKey
      (before ++ .start (.abort sender attempt reason) :: rest)).ended) :
    Cleared attempt
      (after signingKeyHex nodeKey (before ++ .start (.abort sender attempt reason) :: rest)) := by
  have hended := session_ended signingKeyHex nodeKey hnew hauthorized hquiet
  obtain ⟨x, hx⟩ := audited_pool signingKeyHex nodeKey hseated
  have hstate : x.follower = after signingKeyHex nodeKey
      (before ++ .start (.abort sender attempt reason) :: rest) := hx.follower
  rw [← hstate] at hended hcompleted ⊢
  refine ⟨hended, fun ringKey hslot => ?_, fun key hkey heq => ?_⟩
  · rcases hx.accounted.slot ringKey attempt hslot with hlive | howed
    · exact hended hlive
    · exact absurd howed (hx.not_owed_of_quiet hquiet)
  · subst heq
    rcases hx.accounted.marker key hkey with hlive | hdone | howed | howed
    · exact hended hlive
    · exact hcompleted hdone
    · exact absurd howed (hx.not_owed_of_quiet hquiet)
    · exact absurd howed (hx.not_owed_of_quiet hquiet)

end

end Follower

namespace Pair

open scoped Plain Echo

def abort : Follower.Input := .abort [0xaa] first "again"

/-- The leader aborts the refresh. -/
theorem abort_clears_refresh :
    Follower.Cleared first
      (Follower.after "key" "b"
        (refreshed ++ .start abort :: List.replicate 4 (.resume 1 undisturbed))) := by
  have hseated : (Pool.empty Follower.idle).Obeys (Follower.handler "key" "b") Follower.Seated
      (refreshed ++ .start abort :: List.replicate 4 (.resume 1 undisturbed)) := by
    decide +kernel
  have hnew : (Follower.pool "key" "b" refreshed).Obeys (Follower.handler "key" "b")
      (Follower.NoNewSession first) (.start abort :: List.replicate 4 (.resume 1 undisturbed)) := by
    decide +kernel
  have hauthorized : Follower.Authorized [0xaa] first (Follower.after "key" "b" refreshed) := by
    decide +kernel
  have hquiet : Follower.Quiet (Follower.pool "key" "b"
      (refreshed ++ .start abort :: List.replicate 4 (.resume 1 undisturbed)))
      first.ceremonyId := by
    decide +kernel
  have hcompleted : (first, true) ∉ (Follower.after "key" "b"
      (refreshed ++ .start abort :: List.replicate 4 (.resume 1 undisturbed))).ended := by
    decide +kernel
  exact Follower.abort_clears_attempt "key" "b" hauthorized hseated hnew hquiet hcompleted

/-- The refresh claims the slot and creates its session, but cannot subscribe to its topic.  Then
the leader aborts. -/
def unsubscribed : List (Move Follower.Input Answer) :=
  .start (prepare (.refresh "pk") zeros) :: List.replicate 7 (.resume 0 undisturbed) ++
    .resume 0 unreachable :: .start abort :: [.resume 1 undisturbed]

/-- The Abort of an attempt that is not configured is refused; its session and its slot stay after
all handlers have finished. -/
theorem abort_refused_before_configuration :
    ((Follower.pool "key" "b" unsubscribed).result 1).map Prod.snd =
        some (.error (.invalidState "leader route is missing")) ∧
      (∀ entry ∈ (Follower.pool "key" "b" unsubscribed).tasks, entry.2.result.isSome) ∧
      (Follower.after "key" "b" unsubscribed).Live first ∧
      (Follower.after "key" "b" unsubscribed).ringsPss.lookup "pk" = some first := by
  decide +kernel

end Pair

end Orbis.Node.Transport
