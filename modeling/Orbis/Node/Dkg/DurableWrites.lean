import Orbis.Node.Dkg.Completion
import Orbis.Transition.Check

/-!
# What an attempt writes when it has been removed

The handlers that end an attempt write a bundle right after a step in which they saw that the
attempt is live, and not in that step.  Once the attempt has been removed, nothing is written any
more, provided that no removal falls between such a step and its write; the last section has runs
in which it does.
-/

namespace Orbis.Node.Dkg.Completion

open Orbis.Crypto Orbis.Crypto.Dkg Orbis.Data Orbis.Transition

section

variable {F E α β : Type}

/-- `checked` says whether the attempt was live at the last step. -/
abbrev WritesOnCheck (p : CompletionM F E α) (checked : Bool) : Prop :=
  p.run.ActsOnCheck live storage checked

/-! ## Steps -/

variable {f : Completion F E → Completion F E × Except DkgError α}

theorem storage_locked (h : ∀ s, (f s).1.storage = s.storage) (s : Completion F E) (e : DkgError) :
    (if s.live then f s else (s, .error e)).1.storage = s.storage := by
  split
  · exact h s
  · rfl

theorem live_locked (f : Completion F E → Completion F E × Except DkgError α)
    (s : Completion F E) (e : DkgError) (hlive : s.live = false) :
    (if s.live then f s else (s, .error e)).1.live = false := by
  simp [hlive]

theorem writesOnCheck_locked (h : ∀ s, (f s).1.storage = s.storage) :
    WritesOnCheck (locked f) false :=
  Task.actsOnCheck_atomically (.inr fun _ s => storage_locked h s _) fun _ s => live_locked f s _

/-- What follows a step under the lock may write: without the attempt the step fails. -/
theorem writesOnCheck_locked_bind {k : α → CompletionM F E β} (h : ∀ s, (f s).1.storage = s.storage)
    (hk : ∀ a, WritesOnCheck (k a) true) : WritesOnCheck (locked f >>= k) false := by
  apply Task.actsOnCheck_atomically_bind (fun _ s => storage_locked h s _)
    fun _ s => live_locked f s _
  intro w s
  cases hlive : s.live with
  | true =>
    simp only [if_true]
    cases (f s).2 with
    | ok a => exact hk a
    | error e => trivial
  | false => trivial

theorem writesOnCheck_outside (f : Surroundings → LocalStorage → Except DkgError α) :
    WritesOnCheck (outside f : CompletionM F E α) false :=
  Task.actsOnCheck_atomically (.inr fun _ _ => rfl) fun _ _ h => h

theorem writesOnCheck_writeStorage (what : String) (f : LocalStorage → LocalStorage) :
    WritesOnCheck (writeStorage what f : CompletionM F E Unit) true := by
  apply Task.actsOnCheck_atomically (.inl rfl)
  intro w s hlive
  split <;> exact hlive

theorem writesOnCheck_removeAttempt : WritesOnCheck (removeAttempt : CompletionM F E Unit) false :=
  Task.actsOnCheck_atomically (.inr fun _ _ => rfl) fun _ _ _ => rfl

theorem WritesOnCheck.tryCatch {p : CompletionM F E α} {handle : DkgError → CompletionM F E α}
    (hp : WritesOnCheck p false) (hhandle : ∀ e, WritesOnCheck (handle e) false) :
    WritesOnCheck (tryCatch p handle) false :=
  Task.composes_actsOnCheck.tryCatch hp hhandle

theorem WritesOnCheck.ignoreError {p : CompletionM F E Unit} (hp : WritesOnCheck p false) :
    WritesOnCheck (ignoreError p) false :=
  hp.tryCatch fun _ => Task.composes_actsOnCheck.done _

/-! ## Handlers -/

theorem writesOnCheck_markComplete : WritesOnCheck (markComplete : CompletionM F E Unit) false :=
  writesOnCheck_locked fun _ => rfl

theorem writesOnCheck_persist (what : String) (f : LocalStorage → LocalStorage) :
    WritesOnCheck (do
      writeStorage what f
      markComplete
      removeAttempt : CompletionM F E Unit) true :=
  (writesOnCheck_writeStorage what f).bind_ok fun _ =>
    writesOnCheck_markComplete.bind_ok fun _ => writesOnCheck_removeAttempt

theorem writesOnCheck_promoteCandidate (candidate : RefreshHealthCheckCandidate) :
    WritesOnCheck (promoteCandidate candidate : CompletionM F E Unit) true :=
  (writesOnCheck_writeStorage _ _).bind_ok fun _ =>
    (writesOnCheck_locked fun _ => rfl).bind_ok fun _ => writesOnCheck_removeAttempt

theorem writesOnCheck_rollbackCandidate :
    WritesOnCheck (rollbackCandidate : CompletionM F E Unit) false :=
  (writesOnCheck_locked fun _ => rfl).ignoreError.bind_ok fun _ => writesOnCheck_removeAttempt

theorem writesOnCheck_validateResultScope (sessionId : ℕ)
    (result : PendingRefreshHealthCheckResult) :
    WritesOnCheck (validateResultScope sessionId result : CompletionM F E Unit) false :=
  Task.composes_actsOnCheck.bind_ok (Task.composes_actsOnCheck.done _) fun _ =>
    writesOnCheck_locked fun _ => rfl

end

section

variable {F E : Type} [Field F] [AddCommGroup E] [Module F E] [Repr32 F] [Repr32 E]

theorem writesOnCheck_completeRefreshPet [DecidableEq F] (showKey : E → String) (ringId : String) :
    WritesOnCheck (completeRefreshPet showKey ringId : CompletionM F E Unit) false := by
  apply (writesOnCheck_locked fun _ => rfl).bind_ok
  rintro ⟨finalShare, aggregatePk, pubPoly⟩
  apply (writesOnCheck_outside _).bind_ok
  intro newBundle
  exact writesOnCheck_locked_bind (fun _ => rfl) fun _ => writesOnCheck_persist _ _

variable [DecidableEq E]

theorem writesOnCheck_completeResharePetPhase4 [DecidableEq F] (ringId : String) :
    WritesOnCheck (completeResharePetPhase4 ringId : CompletionM F E Unit) false := by
  apply (writesOnCheck_locked fun _ => rfl).bind_ok
  intro role
  split
  · exact writesOnCheck_markComplete.bind_ok fun _ => writesOnCheck_removeAttempt
  · apply (writesOnCheck_locked fun _ => rfl).bind_ok
    rintro ⟨finalShare, aggregatePk, pubPoly⟩
    apply (writesOnCheck_outside _).bind_ok
    intro nowSecs
    exact writesOnCheck_locked_bind (fun _ => rfl) fun _ => writesOnCheck_persist _ _

variable [Curve E] [Sha256] [ScalarHash F]

theorem writesOnCheck_applyResult (sessionId : ℕ) (result : PendingRefreshHealthCheckResult) :
    WritesOnCheck (applyResult sessionId result : CompletionM F E Unit) false := by
  apply (writesOnCheck_validateResultScope sessionId result).bind_ok
  intro _
  apply writesOnCheck_locked_bind fun _ => rfl
  intro candidate
  cases candidate with
  | none =>
    have hqueue : ∀ s : Completion F E, (queueResult result s).storage = s.storage := by
      intro s
      unfold queueResult
      split <;> rfl
    exact (writesOnCheck_locked hqueue).mono true
  | some candidate =>
    dsimp only
    split
    · exact writesOnCheck_promoteCandidate candidate
    · exact writesOnCheck_rollbackCandidate.mono true

theorem writesOnCheck_runSelector (sessionId : ℕ) (candidate : RefreshHealthCheckCandidate) :
    WritesOnCheck (runSelector sessionId candidate : CompletionM F E Unit) false := by
  unfold runSelector
  split
  · exact writesOnCheck_rollbackCandidate.bind_ok fun _ => Task.composes_actsOnCheck.done _
  · apply (writesOnCheck_outside _).bind_ok
    intro signature
    apply (writesOnCheck_outside _).bind_ok
    intro published
    cases published with
    | some e =>
      exact (writesOnCheck_applyResult sessionId _).bind_ok fun _ =>
        Task.composes_actsOnCheck.done _
    | none => exact writesOnCheck_applyResult sessionId _

variable [DecidableEq F]

theorem writesOnCheck_completeRefresh (showKey : E → String) (sessionId : ℕ)
    (storageKey : String) :
    WritesOnCheck (completeRefresh showKey sessionId storageKey : CompletionM F E Unit) false := by
  apply (writesOnCheck_locked fun _ => rfl).bind_ok
  rintro ⟨nodeId, threshold, finalShare, aggregatePk, pubPoly⟩
  apply (writesOnCheck_outside _).bind_ok
  rintro ⟨bundle, stagedPk⟩
  apply (writesOnCheck_locked fun _ => rfl).bind_ok
  rintro ⟨peerIds, peerNodeKeys⟩
  dsimp only
  split
  · exact Task.composes_actsOnCheck.done _
  · apply (writesOnCheck_locked fun _ => rfl).bind_ok
    intro _
    have hdrain : WritesOnCheck (applyPendingResultIfPresent sessionId : CompletionM F E Unit)
        false := by
      apply (writesOnCheck_locked fun _ => rfl).bind_ok
      intro result
      cases result with
      | none => exact Task.composes_actsOnCheck.done _
      | some result => exact writesOnCheck_applyResult sessionId result
    apply hdrain.bind_ok
    intro _
    split
    · exact (writesOnCheck_runSelector sessionId _).ignoreError
    · exact Task.composes_actsOnCheck.done _

theorem writesOnCheck_handler (showKey : E → String) (sessionId : ℕ) (input : Input) :
    WritesOnCheck (handler showKey sessionId input : CompletionM F E Unit) false := by
  have horAbort : ∀ {p : CompletionM F E Unit}, WritesOnCheck p false →
      WritesOnCheck (orAbort p) false := fun hp =>
    hp.tryCatch fun _ =>
      writesOnCheck_removeAttempt.bind_ok fun _ => Task.composes_actsOnCheck.done _
  cases input with
  | refresh storageKey => exact horAbort (writesOnCheck_completeRefresh ..)
  | refreshPet ringId => exact horAbort (writesOnCheck_completeRefreshPet ..)
  | resharePet ringId => exact horAbort (writesOnCheck_completeResharePetPhase4 ..)
  | result result => exact writesOnCheck_applyResult ..
  | remove => exact writesOnCheck_removeAttempt

/-! ## After the removal -/

/-- Whenever the attempt is removed, no handler is between its last check and its write. -/
def RemovedIdle (showKey : E → String) (s : Completion F E)
    (schedule : List (Move Input Surroundings)) : Prop :=
  (Pool.empty s).ReleasedIdle live storage
    (fun input => (handler showKey s.node.sessionId input).run) schedule

/-- For every interleaving: what has happened up to the removal determines the storage. -/
theorem nothing_written_of_removed (showKey : E → String) (s : Completion F E)
    {before : List (Move Input Surroundings)} (hidle : RemovedIdle showKey s before)
    (hremoved : (runEnd showKey s before).state.live = false)
    (after : List (Move Input Surroundings)) :
    (runEnd showKey s (before ++ after)).state.storage =
      (runEnd showKey s before).state.storage :=
  Pool.view_run_of_released (writesOnCheck_handler showKey s.node.sessionId) s hidle hremoved

end

namespace Pair

open scoped ByteSum

/-- The attempt is aborted before the completion of a refresh of the checking key has begun. -/
def abortedEarly : List (Move Input Surroundings) :=
  [.start (.refreshPet "ring"), .start .remove] ++ steps 1 1

theorem nothing_written_of_aborted_early :
    RemovedIdle showKey (member 0) abortedEarly ∧
      (runEnd showKey (member 0) (abortedEarly ++ steps 0 9)).state.storage =
        (member 0).storage := by
  have hidle : RemovedIdle showKey (member 0) abortedEarly := by
    refine ⟨fun htrue hfalse => absurd htrue (Bool.eq_false_iff.mp hfalse), ?_, ?_, trivial⟩
    · exact fun htrue hfalse => absurd htrue (Bool.eq_false_iff.mp hfalse)
    · intro _ _ entry hentry
      rcases List.mem_pair.mp hentry with rfl | rfl
      · intro _ s
        dsimp only
        split <;> rfl
      · trivial
  exact ⟨hidle, nothing_written_of_removed showKey (member 0) hidle rfl (steps 0 9)⟩

/-- The completion of a reshare of the checking key has seen that the attempt is live. -/
def resharePetOvertaken : List (Move Input Surroundings) :=
  [.start (.resharePet "ring")] ++ steps 0 4 ++ [.start .remove] ++ steps 1 1

def refreshPetOvertaken : List (Move Input Surroundings) :=
  [.start (.refreshPet "ring")] ++ steps 0 3 ++ [.start .remove] ++ steps 1 1

/-- A removal between the last check and the write: the bundle is written for an attempt that is
no longer there. -/
theorem written_of_removed_between :
    (runEnd showKey (member 5) resharePetOvertaken).state.live = false ∧
      (runEnd showKey (member 5) resharePetOvertaken).state.storage.pendingResharePetBundles.lookup
        "ring" = none ∧
      ((runEnd showKey (member 5) (resharePetOvertaken ++
        steps 0 1)).state.storage.pendingResharePetBundles.lookup "ring").isSome ∧
      (runEnd showKey (member 0) refreshPetOvertaken).state.live = false ∧
      (runEnd showKey (member 0) refreshPetOvertaken).state.storage.petRingKeys.lookup "ring" =
        some (bundle 0).toBytes ∧
      (runEnd showKey (member 0) (refreshPetOvertaken ++
        steps 0 1)).state.storage.petRingKeys.lookup "ring" = some (bundle 9).toBytes := by
  decide +kernel

end Pair

end Orbis.Node.Dkg.Completion
