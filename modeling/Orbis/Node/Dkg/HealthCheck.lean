import Orbis.Node.Dkg.Completion
import Orbis.Transition.Triple

/-!
# A health-check result and its candidate in any order

The result of a refresh health check can arrive before the candidate is staged.  It then waits in
the session, and the handler that stages the candidate takes it out and applies it.  Once the
handlers have finished, the result has been applied to the candidate and the attempt has ended.
This needs that the result is not put aside after the candidate has been staged; the last section
has a run in which it is.
-/

namespace Orbis.Node.Dkg.Completion

open Orbis.Crypto Orbis.Crypto.Dkg Orbis.Data Orbis.Transition

/-! ## Auxiliary data -/

/-- How far a handler is with the result. -/
inductive Progress where
  | nothing
  /-- It has staged the candidate and not yet looked for a result. -/
  | staged
  /-- It has taken out the result that waited. -/
  | inHand
  /-- It has read the candidate and will end the attempt. -/
  | applying
  /-- Its write of the bundle has failed. -/
  | failed
deriving DecidableEq

namespace Progress

def hasResult : Progress → Prop
  | inHand | applying | failed => True
  | nothing | staged => False

def applies : Progress → Prop
  | applying | failed => True
  | nothing | staged | inHand => False

end Progress

/-- The state with auxiliary data that no handler reads. -/
structure Followed (F E : Type) where
  state : Completion F E
  progress : ℕ → Progress
  /-- The candidate that was staged, if any. -/
  staged : Option RefreshHealthCheckCandidate
  /-- Whether a result has been put aside or is being applied. -/
  arrived : Prop

section

variable {F E : Type} [Field F] [AddCommGroup E] [Module F E] [DecidableEq E] [Curve E] [Repr32 F]
  [Repr32 E] [Sha256] [ScalarHash F]

variable (F E) in
/-- What the storage is once the result has been applied to the candidate: the bundle is promoted
if the signature in the result verifies for it, and dropped otherwise. -/
def settledStorage (result : PendingRefreshHealthCheckResult) (storage : LocalStorage)
    (candidate : RefreshHealthCheckCandidate) : LocalStorage :=
  if shouldPromote F E candidate result then
    storage.saveByRingKey candidate.ringKey candidate.bundle
  else storage

def Followed.Promoted (result : PendingRefreshHealthCheckResult) (storage : LocalStorage)
    (x : Followed F E) : Prop :=
  ∃ c, x.staged = some c ∧ shouldPromote F E c result ∧
    x.state.storage = storage.saveByRingKey c.ringKey c.bundle

/-- What is known of the session of a member other than the selector.  The handler that stages the
candidate is the first one. -/
structure Tracked (result : PendingRefreshHealthCheckResult) (storage : LocalStorage)
    (x : Followed F E) : Prop where
  member : x.state.node.id ≠ 1
  pending : ∀ p, x.state.pendingResult = some p → p = result
  candidate : ∀ c, x.state.candidate = some c → x.staged = some c
  /-- A candidate and a result are both there only until the result is taken out. -/
  together : x.state.live → x.state.candidate.isSome → x.state.pendingResult.isSome →
    x.progress 0 = .staged
  cleared : x.state.live → x.staged.isSome → x.state.candidate = none →
    ∃ j, (x.progress j).applies
  kept : x.state.live → x.arrived → x.state.pendingResult.isSome ∨ ∃ j, (x.progress j).hasResult
  stored : x.state.storage = storage ∨ x.Promoted result storage
  ended : x.state.live = false → ∀ c, x.staged = some c →
    x.state.storage = settledStorage F E result storage c ∨ ∃ j, x.progress j = .failed

/-- What every handler does to the auxiliary data. -/
structure Later (result : PendingRefreshHealthCheckResult) (storage : LocalStorage)
    (x y : Followed F E) : Prop where
  gone : x.state.live = false → y.state.live = false
  staged : ∀ c, x.staged = some c → y.staged = some c
  arrived : x.arrived → y.arrived
  promoted : x.Promoted result storage → y.Promoted result storage

/-- The result is put aside only while there is no candidate. -/
def QueuesBeforeStaging (s s' : Completion F E) : Prop :=
  s.pendingResult.isSome = false → s'.pendingResult.isSome = true → s.candidate.isSome = false

instance (s s' : Completion F E) : Decidable (QueuesBeforeStaging s s') :=
  inferInstanceAs (Decidable (_ → _ → _))

section

variable (result : PendingRefreshHealthCheckResult) (storage : LocalStorage)

theorem Later.refl (x : Followed F E) : Later result storage x x := ⟨id, fun _ => id, id, id⟩

theorem Later.trans {x y z : Followed F E} (h : Later result storage x y)
    (h' : Later result storage y z) : Later result storage x z :=
  ⟨h'.gone ∘ h.gone, fun c => h'.staged c ∘ h.staged c, h'.arrived ∘ h.arrived,
    h'.promoted ∘ h.promoted⟩

theorem Later.of_chain {x z : Followed F E}
    (h : Relation.ReflTransGen (Later result storage) x z) : Later result storage x z := by
  induction h with
  | refl => exact Later.refl ..
  | tail _ hstep ih => exact ih.trans _ _ hstep

def healthCheck : Shared (Completion F E) (Followed F E) where
  proj := Followed.state
  invariant := Tracked result storage
  allowed := QueuesBeforeStaging

/-- A handler moves only its own progress, and only the first one stages. -/
def progressContract [DecidableEq F] (k : ℕ) : Contract (Followed F E) where
  rely x y := Later result storage x y ∧ y.progress k = x.progress k ∧
    (k = 0 → y.staged = x.staged)
  guar x y := Later result storage x y ∧ (∀ j, j ≠ k → y.progress j = x.progress j) ∧
    (k ≠ 0 → y.staged = x.staged)
  refl _ := ⟨Later.refl .., rfl, fun _ => rfl⟩
  trans h h' := ⟨h.1.trans _ _ h'.1, h'.2.1.trans h.2.1, fun hk => (h'.2.2 hk).trans (h.2.2 hk)⟩

def follow [DecidableEq F] (k : ℕ) : Interference (Completion F E) (Followed F E) :=
  ⟨healthCheck result storage, progressContract result storage k⟩

end

variable {result : PendingRefreshHealthCheckResult} {storage : LocalStorage} {x y : Followed F E}
  {k : ℕ}

@[simp] theorem follow_proj [DecidableEq F] : (follow result storage k).proj x = x.state := rfl

/-! ## Steps

What each step does to the auxiliary data, and that it keeps what is known of the session. -/

def Followed.move (x : Followed F E) (s : Completion F E) (k : ℕ) (p : Progress) : Followed F E :=
  { x with state := s, progress := Function.update x.progress k p }

omit [Field F] [AddCommGroup E] [Module F E] [DecidableEq E] [Curve E] [Repr32 F] [Repr32 E]
  [Sha256] [ScalarHash F] in
theorem Followed.move_progress_self (x : Followed F E) (s : Completion F E) (p : Progress) :
    (x.move s k p).progress k = p := Function.update_self ..

def Followed.withStorage (x : Followed F E) (f : LocalStorage → LocalStorage) : Followed F E :=
  { x with state := { x.state with storage := f x.state.storage } }

/-- Everything stays as it is, or only the handler's own progress and the arrival change. -/
theorem guar_of_storage [DecidableEq F] (hgone : x.state.live = false → y.state.live = false)
    (hstaged : y.staged = x.staged) (harrived : x.arrived → y.arrived)
    (hstorage : y.state.storage = x.state.storage)
    (hprogress : ∀ j, j ≠ k → y.progress j = x.progress j) :
    (follow result storage k).guar x y := by
  refine ⟨⟨hgone, fun c hc => hstaged.trans hc, harrived, ?_⟩, hprogress, fun _ => hstaged⟩
  rintro ⟨c, hc, hpromote, hsaved⟩
  exact ⟨c, hstaged.trans hc, hpromote, hstorage.trans hsaved⟩

/-- The handler has nothing but, possibly, the result. -/
def Ready (k : ℕ) (x : Followed F E) : Prop := x.progress k = .nothing ∨ x.progress k = .inHand

omit [Sha256] in
theorem saveByRingKey_saveByRingKey (storage : LocalStorage) (ringKey : String)
    (bundle : RingShareBundle) :
    (storage.saveByRingKey ringKey bundle).saveByRingKey ringKey bundle =
      storage.saveByRingKey ringKey bundle := by
  simp only [LocalStorage.saveByRingKey, RingShareBundle.saveByRingKey, AList.insert_insert]

omit [Field F] [AddCommGroup E] [Module F E] [DecidableEq E] [Curve E] [Repr32 F] [Repr32 E]
  [Sha256] [ScalarHash F] in
theorem Ready.ne (h : Ready k x) : x.progress k ≠ .staged ∧ x.progress k ≠ .failed := by
  rcases h with h | h <;> rw [h] <;> decide

namespace Tracked

variable (h : Tracked result storage x)
include h

theorem together_update (hk : x.progress k ≠ .staged) (p : Progress) (hlive : x.state.live)
    (hcandidate : x.state.candidate.isSome) (hpending : x.state.pendingResult.isSome) :
    Function.update x.progress k p 0 = .staged := by
  have hzero := h.together hlive hcandidate hpending
  have hne : 0 ≠ k := by
    rintro rfl
    exact hk hzero
  exact (Function.update_of_ne hne ..).trans hzero

theorem ended_update (hk : x.progress k ≠ .failed) (p : Progress) (hlive : x.state.live = false)
    (c : RefreshHealthCheckCandidate) (hc : x.staged = some c) :
    x.state.storage = settledStorage F E result storage c ∨
      ∃ j, Function.update x.progress k p j = .failed :=
  (h.ended hlive c hc).imp_right fun hfailed =>
    exists_update (P := (· = Progress.failed)) hfailed fun hp => absurd hp hk

theorem read (hk : Ready k x) :
    Tracked result storage { x.move x.state k .applying with arrived := True } where
  member := h.member
  pending := h.pending
  candidate := h.candidate
  together := h.together_update hk.ne.1 _
  cleared hlive hstaged hnone :=
    exists_update (h.cleared hlive hstaged hnone) fun _ => trivial
  kept _ _ := .inr ⟨k, by simp [Followed.move, Progress.hasResult]⟩
  stored := h.stored
  ended := h.ended_update hk.ne.2 _

theorem queue (hk : Ready k x)
    (hqueues : QueuesBeforeStaging x.state (queueResult result x.state)) :
    Tracked result storage { x.move (queueResult result x.state) k .nothing with
      arrived := True } := by
  have hsame : queueResult result x.state =
      { x.state with pendingResult := (queueResult result x.state).pendingResult } := by
    unfold queueResult
    split <;> rfl
  have hpending : (queueResult result x.state).pendingResult.isSome := by
    unfold queueResult
    split
    · assumption
    · rfl
  refine ⟨?_, ?_, ?_, ?_, ?_, fun _ _ => .inl hpending, ?_, ?_⟩
  · rw [Followed.move, hsame]
    exact h.member
  · intro p hp
    simp only [Followed.move, queueResult] at hp
    split at hp
    · exact h.pending p hp
    · exact (Option.some.inj hp).symm
  · intro c hc
    rw [Followed.move, hsame] at hc
    exact h.candidate c hc
  · intro hlive hcandidate _
    rw [Followed.move, hsame] at hlive hcandidate
    -- The candidate is there, so nothing new was put aside.
    have hwaits : x.state.pendingResult.isSome = true := by
      by_contra hnone
      have := hqueues (Bool.eq_false_iff.mpr hnone) hpending
      rw [show x.state.candidate.isSome = true from hcandidate] at this
      cases this
    exact h.together_update hk.ne.1 _ hlive hcandidate hwaits
  · intro hlive hstaged hnone
    rw [Followed.move, hsame] at hlive hnone
    refine exists_update (h.cleared hlive hstaged hnone) fun hp => ?_
    rcases hk with hk | hk <;> rw [hk] at hp <;> exact hp
  · refine h.stored.imp (fun hs => ?_) ?_
    · rw [Followed.move, hsame]
      exact hs
    · rintro ⟨c, hc, hpromote, hsaved⟩
      exact ⟨c, hc, hpromote, by rw [Followed.move, hsame]; exact hsaved⟩
  · intro hlive c hc
    rw [Followed.move, hsame] at hlive ⊢
    exact h.ended_update hk.ne.2 _ hlive c hc

theorem save {c : RefreshHealthCheckCandidate}
    (hc : x.staged = some c) (hpromote : shouldPromote F E c result) :
    (x.withStorage (·.saveByRingKey c.ringKey c.bundle)).Promoted result storage ∧
      Tracked result storage (x.withStorage (·.saveByRingKey c.ringKey c.bundle)) := by
  have hsaved : (x.withStorage (·.saveByRingKey c.ringKey c.bundle)).Promoted result storage := by
    refine ⟨c, hc, hpromote, ?_⟩
    rcases h.stored with hs | ⟨c', hc', -, hs⟩
    · rw [← hs]
      rfl
    · obtain rfl : c' = c := Option.some.inj (hc'.symm.trans hc)
      rw [← saveByRingKey_saveByRingKey storage c'.ringKey c'.bundle, ← hs]
      rfl
  refine ⟨hsaved, h.member, h.pending, h.candidate, h.together, h.cleared, h.kept, .inr hsaved, ?_⟩
  intro _ c' hc'
  obtain ⟨c, hc, hpromote, hs⟩ := hsaved
  obtain rfl : c = c' := Option.some.inj (hc.symm.trans hc')
  rw [settledStorage, if_pos hpromote]
  exact .inl hs

theorem fail (hk : x.progress k = .applying) :
    Tracked result storage (x.move x.state k .failed) where
  member := h.member
  pending := h.pending
  candidate := h.candidate
  together := h.together_update (by rw [hk]; decide) _
  cleared hlive hstaged hnone :=
    exists_update (h.cleared hlive hstaged hnone) fun _ => trivial
  kept hlive harrived := (h.kept hlive harrived).imp_right fun hresult =>
    exists_update hresult fun _ => trivial
  stored := h.stored
  ended _ _ _ := .inr ⟨k, Function.update_self ..⟩

theorem clear (hk : x.progress k = .applying) (phase : DkgPhase) :
    Tracked result storage { x with state := { x.state with candidate := none, phase } } where
  member := h.member
  pending := h.pending
  candidate c hc := by cases hc
  together _ hcandidate := by cases hcandidate
  cleared _ _ _ := ⟨k, by rw [show x.progress k = .applying from hk]; trivial⟩
  kept := h.kept
  stored := h.stored
  ended := h.ended

theorem remove (hsettled : ∀ c, x.staged = some c →
      x.state.storage = settledStorage F E result storage c ∨ ∃ j, x.progress j = .failed) :
    Tracked result storage { x with state := { x.state with live := false } } where
  member := h.member
  pending := h.pending
  candidate := h.candidate
  together hlive := by cases hlive
  cleared hlive := by cases hlive
  kept hlive := by cases hlive
  stored := h.stored
  ended _ := hsettled

theorem stage (hlive : x.state.live) (hnone : x.staged = none)
    (hzero : x.progress 0 = .nothing) (c : RefreshHealthCheckCandidate) :
    Tracked result storage
      { x.move { x.state with candidate := some c } 0 .staged with staged := some c } where
  member := h.member
  pending := h.pending
  candidate _ hc := hc
  together _ _ _ := by simp [Followed.move]
  cleared _ _ hcandidate := by cases hcandidate
  kept hlive harrived := (h.kept hlive harrived).imp_right fun hresult =>
    exists_update hresult fun hp => by rw [hzero] at hp; exact hp
  stored := by
    refine h.stored.imp_right ?_
    rintro ⟨c', hc', -⟩
    rw [hnone] at hc'
    cases hc'
  ended hgone := by
    rw [show x.state.live = false from hgone] at hlive
    cases hlive

theorem drain (hzero : x.progress 0 = .staged) {p : Progress}
    (hp : x.state.pendingResult.isSome → p = .inHand) :
    Tracked result storage (x.move { x.state with pendingResult := none } 0 p) where
  member := h.member
  pending q hq := by cases hq
  candidate := h.candidate
  together _ _ hpending := by cases hpending
  cleared hlive hstaged hnone := exists_update (h.cleared hlive hstaged hnone) fun hq => by
    rw [hzero] at hq
    exact hq.elim
  kept hlive harrived := by
    refine .inr ?_
    rcases h.kept hlive harrived with hpending | hresult
    · exact ⟨0, by simp [Followed.move, hp hpending, Progress.hasResult]⟩
    · exact exists_update hresult fun hq => by
        rw [hzero] at hq
        exact hq.elim
  stored := h.stored
  ended := h.ended_update (by rw [hzero]; decide) _

end Tracked

theorem settled_of_promoted (h : x.Promoted result storage) (c : RefreshHealthCheckCandidate)
    (hc : x.staged = some c) : x.state.storage = settledStorage F E result storage c := by
  obtain ⟨c', hc', hpromote, hs⟩ := h
  obtain rfl : c' = c := Option.some.inj (hc'.symm.trans hc)
  rw [settledStorage, if_pos hpromote, hs]

/-! ## Assertions -/

def Gone (x : Followed F E) : Prop := x.state.live = false

/-- How a handler with the result ends: the attempt has ended, or the result was put aside. -/
def Applies (k : ℕ) (x : Followed F E) : Prop :=
  Gone x ∧ x.progress k ≠ .failed ∨ x.arrived ∧ x.progress k = .nothing

def Fails (k : ℕ) (e : DkgError) (x : Followed F E) : Prop :=
  Gone x ∧ x.progress k ≠ .failed ∨ x.progress k = .failed ∧ ∃ text, e = .storage text

def Applying (k : ℕ) (c : RefreshHealthCheckCandidate) (x : Followed F E) : Prop :=
  x.progress k = .applying ∧ x.staged = some c

def Unstaged (x : Followed F E) : Prop := x.staged = none ∧ x.progress 0 = .nothing

variable [DecidableEq F]

theorem stable_progress (P : Progress → Prop) :
    (follow (F := F) (E := E) result storage k).Stable fun x => P (x.progress k) := by
  intro x y _ hx hrely
  rw [hrely.2.1]
  exact hx

theorem stable_gone : (follow (F := F) (E := E) result storage k).Stable Gone :=
  fun _ _ _ hx hrely => hrely.1.gone hx

theorem stable_arrived : (follow (F := F) (E := E) result storage k).Stable Followed.arrived :=
  fun _ _ _ hx hrely => hrely.1.arrived hx

theorem stable_promoted : (follow (F := F) (E := E) result storage k).Stable
    (Followed.Promoted result storage) :=
  fun _ _ _ hx hrely => hrely.1.promoted hx

theorem stable_ready : (follow (F := F) (E := E) result storage k).Stable (Ready k) :=
  stable_progress fun p => p = .nothing ∨ p = .inHand

theorem stable_applies : (follow (F := F) (E := E) result storage k).Stable (Applies k) :=
  (stable_gone.and (stable_progress (· ≠ .failed))).or
    (stable_arrived.and (stable_progress (· = .nothing)))

theorem stable_fails (e : DkgError) :
    (follow (F := F) (E := E) result storage k).Stable (Fails k e) :=
  (stable_gone.and (stable_progress (· ≠ .failed))).or
    ((stable_progress (· = .failed)).and (Interference.stable_const _))

theorem stable_applying (c : RefreshHealthCheckCandidate) :
    (follow (F := F) (E := E) result storage k).Stable (Applying k c) :=
  (stable_progress (· = .applying)).and fun _ _ _ hx hrely => hrely.1.staged c hx

theorem stable_unstaged : (follow (F := F) (E := E) result storage 0).Stable Unstaged :=
  Interference.Stable.and (fun _ _ _ hx hrely => (hrely.2.2 rfl).trans hx)
    (stable_progress (· = .nothing))

/-! ## The handlers -/

variable {α : Type} {pre : Followed F E → Prop} {post : α → Followed F E → Prop}
  {failed : DkgError → Followed F E → Prop}

section

variable (hpre : (follow result storage k).Stable pre)
  (hfailed : ∀ e, (follow result storage k).Stable (failed e))
include hpre hfailed

theorem ends_locked {f : Completion F E → Completion F E × Except DkgError α}
    (hpost : ∀ a, (follow result storage k).Stable (post a))
    (hgone : ∀ e x, pre x → Gone x → failed e x)
    (h : ∀ x, Tracked result storage x → pre x → x.state.live = true →
      QueuesBeforeStaging x.state (f x.state).1 →
      ∃ y, y.state = (f x.state).1 ∧ Tracked result storage y ∧
        (follow result storage k).guar x y ∧ (∀ a, (f x.state).2 = .ok a → post a y) ∧
        ∀ e, (f x.state).2 = .error e → failed e y) :
    (follow result storage k).Ends pre (locked f) post failed := by
  refine Interference.Ends.atomically hpre hpost hfailed fun w x hinv hx hallowed => ?_
  by_cases hlive : x.state.live = true
  · simp only [follow_proj, hlive, if_true] at hallowed ⊢
    exact h x hinv hx hlive hallowed
  · simp only [follow_proj, hlive]
    refine ⟨x, rfl, hinv, guar_of_storage id rfl id rfl fun _ _ => rfl, fun a ha => ?_,
      fun e _ => hgone e x hx (Bool.eq_false_iff.mpr hlive)⟩
    cases ha

theorem ends_withAttemptState {f : Completion F E → Except DkgError α}
    (hpost : ∀ a, (follow result storage k).Stable (post a))
    (hgone : ∀ e x, pre x → Gone x → failed e x)
    (hok : ∀ a x, Tracked result storage x → pre x → f x.state = .ok a → post a x)
    (herror : ∀ e x, pre x → f x.state = .error e → failed e x) :
    (follow result storage k).Ends pre (withAttemptState f) post failed :=
  ends_locked hpre hfailed hpost hgone fun x hinv hx _ _ =>
    ⟨x, rfl, hinv, guar_of_storage id rfl id rfl fun _ _ => rfl, fun a ha => hok a x hinv hx ha,
      fun e he => herror e x hx he⟩

theorem ends_outside {f : Surroundings → LocalStorage → Except DkgError α}
    (herror : ∀ e x, pre x → failed e x) :
    (follow result storage k).Ends pre (outside f) (fun _ => pre) failed :=
  Interference.Ends.atomically hpre (fun _ => hpre) hfailed fun _ x hinv hx _ =>
    ⟨x, rfl, hinv, guar_of_storage id rfl id rfl fun _ _ => rfl, fun _ _ => hx,
      fun e _ => herror e x hx⟩

def Followed.removed (x : Followed F E) : Followed F E :=
  { x with state := { x.state with live := false } }

theorem ends_removeAttempt {post : Followed F E → Prop}
    (hpost : (follow result storage k).Stable post)
    (hsettled : ∀ x, Tracked result storage x → pre x → ∀ c, x.staged = some c →
      x.state.storage = settledStorage F E result storage c ∨ ∃ j, x.progress j = .failed)
    (h : ∀ x, pre x → post x.removed) :
    (follow result storage k).Ends pre removeAttempt (fun _ => post) failed :=
  Interference.Ends.atomically hpre (fun _ => hpost) hfailed fun _ x hinv hx _ =>
    ⟨x.removed, rfl, Tracked.remove hinv (hsettled x hinv hx),
      guar_of_storage (fun _ => rfl) rfl id rfl fun _ _ => rfl, fun _ _ => h x hx,
      fun e he => by cases he⟩

end

variable {c : RefreshHealthCheckCandidate}

theorem ends_promoteCandidate (hpromote : shouldPromote F E c result) :
    (follow result storage k).Ends (Applying k c) (promoteCandidate (F := F) (E := E) c)
      (fun _ => Applies k) (Fails k) := by
  have hstable : (follow (F := F) (E := E) result storage k).Stable fun x =>
      Applying k c x ∧ x.Promoted result storage := (stable_applying c).and stable_promoted
  have hwrite : (follow result storage k).Ends (Applying k c)
      (writeStorage (F := F) (E := E) "Refresh health check: failed to promote staged bundle"
        (·.saveByRingKey c.ringKey c.bundle))
      (fun _ x => Applying k c x ∧ x.Promoted result storage) (Fails k) := by
    refine Interference.Ends.atomically (stable_applying c) (fun _ => hstable) stable_fails ?_
    intro w x hinv hx _
    change ∃ y : Followed F E, y.state = _ ∧ _
    cases hw : w.storageError with
    | some e =>
      refine ⟨x.move x.state k .failed, rfl, Tracked.fail hinv hx.1,
        guar_of_storage id rfl id rfl fun j hj => Function.update_of_ne hj .., ?_, ?_⟩
      · intro a ha
        cases ha
      · intro e' he
        cases he
        exact .inr ⟨Function.update_self .., _, rfl⟩
    | none =>
      obtain ⟨hsaved, hinv'⟩ := Tracked.save hinv hx.2 hpromote
      refine ⟨x.withStorage (·.saveByRingKey c.ringKey c.bundle), rfl, hinv',
        ⟨⟨id, fun _ => id, id, fun _ => hsaved⟩, fun _ _ => rfl, fun _ => rfl⟩, ?_, ?_⟩
      · exact fun _ _ => ⟨hx, hsaved⟩
      · intro e he
        cases he
  have hclear : (follow result storage k).Ends
      (fun x => Applying k c x ∧ x.Promoted result storage)
      (withAttemptStateMut (F := F) (E := E) fun s =>
        { s with candidate := none, phase := .phase4Complete })
      (fun _ x => Applying k c x ∧ x.Promoted result storage) (Fails k) := by
    refine ends_locked hstable stable_fails (fun _ => hstable) ?_ ?_
    · intro e x hx hgone
      exact .inl ⟨hgone, by rw [hx.1.1]; decide⟩
    · intro x hinv hx _ _
      exact ⟨_, rfl, hinv.clear hx.1.1 .phase4Complete,
        guar_of_storage id rfl id rfl fun _ _ => rfl, fun _ _ => hx, fun e he => by cases he⟩
  unfold promoteCandidate
  refine hwrite.bind fun _ => hclear.bind fun _ => ?_
  refine ends_removeAttempt hstable stable_fails stable_applies ?_ ?_
  · exact fun x _ hx c' hc' => .inl (settled_of_promoted hx.2 c' hc')
  · intro x hx
    exact .inl ⟨rfl, by rw [Followed.removed, hx.1.1]; decide⟩

theorem ends_rollbackCandidate (hpromote : shouldPromote F E c result = false) :
    (follow result storage k).Ends (Applying k c) (rollbackCandidate (F := F) (E := E))
      (fun _ => Applies k) (Fails k) := by
  have hclear : (follow result storage k).Ends (Applying k c)
      (withAttemptStateMut (F := F) (E := E) fun s => { s with candidate := none })
      (fun _ => Applying k c) (fun _ => Applying k c) := by
    refine ends_locked (stable_applying c) (fun _ => stable_applying c)
      (fun _ => stable_applying c) (fun _ _ hx _ => hx) ?_
    intro x hinv hx _ _
    exact ⟨_, rfl, hinv.clear hx.1 x.state.phase, guar_of_storage id rfl id rfl fun _ _ => rfl,
      fun _ _ => hx, fun e he => by cases he⟩
  unfold rollbackCandidate ignoreError
  refine (hclear.tryCatch fun _ =>
    Interference.Ends.pure (fun _ _ hx => hx) (stable_applying c)).bind fun _ => ?_
  refine ends_removeAttempt (stable_applying c) stable_fails stable_applies ?_ ?_
  · intro x hinv hx c' hc'
    obtain rfl : c = c' := Option.some.inj (hx.2.symm.trans hc')
    rcases hinv.stored with hs | hs
    · rw [settledStorage, if_neg (by rw [hpromote]; decide)]
      exact .inl hs
    · exact .inl (settled_of_promoted hs c hc')
  · intro x hx
    exact .inl ⟨rfl, by rw [Followed.removed, hx.1]; decide⟩

variable {sessionId : ℕ}

theorem ends_applyResult (hscope : checkResultScope sessionId result = .ok ()) :
    (follow result storage k).Ends (Ready k) (applyResult (F := F) (E := E) sessionId result)
      (fun _ => Applies k) (Fails k) := by
  have hgone : ∀ e (x : Followed F E), Ready k x → Gone x → Fails k e x := by
    intro e x hx hgone
    exact .inl ⟨hgone, hx.ne.2⟩
  have hvalid : (follow result storage k).Ends (Ready k)
      (validateResultScope (F := F) (E := E) sessionId result) (fun _ => Ready k) (Fails k) := by
    unfold validateResultScope
    rw [hscope]
    refine ends_withAttemptState stable_ready stable_fails (fun _ => stable_ready) hgone ?_ ?_
    · exact fun _ _ _ hx _ => hx
    · intro e x _ he
      cases he
  -- Reading a candidate is the step from which on the handler will end the attempt.
  have hread : (follow result storage k).Ends (Ready k)
      (withAttemptState (F := F) (E := E) fun s => .ok s.candidate)
      (fun candidate => candidate.elim (Ready k) (Applying k)) (Fails k) := by
    refine ends_locked stable_ready stable_fails ?_ hgone ?_
    · rintro (_ | c)
      · exact stable_ready
      · exact stable_applying c
    · intro x hinv hx _ _
      cases hc : x.state.candidate with
      | none =>
        refine ⟨x, rfl, hinv, guar_of_storage id rfl id rfl fun _ _ => rfl, ?_, ?_⟩
        · intro a ha
          obtain rfl : x.state.candidate = a := Except.ok.inj ha
          rw [hc]
          exact hx
        · intro e he
          cases he
      | some c =>
        refine ⟨{ x.move x.state k .applying with arrived := True }, rfl, hinv.read hx,
          guar_of_storage id rfl (fun _ => trivial) rfl
            fun j hj => Function.update_of_ne hj .., ?_, ?_⟩
        · intro a ha
          obtain rfl : x.state.candidate = a := Except.ok.inj ha
          rw [hc]
          exact ⟨Function.update_self .., hinv.candidate c hc⟩
        · intro e he
          cases he
  unfold applyResult
  refine hvalid.bind fun _ => hread.bind fun candidate => ?_
  cases candidate with
  | none =>
    refine ends_locked stable_ready stable_fails (fun _ => stable_applies) hgone ?_
    intro x hinv hx _ hqueues
    refine ⟨_, rfl, hinv.queue hx hqueues, guar_of_storage ?_ rfl (fun _ => trivial) ?_
      fun j hj => Function.update_of_ne hj .., ?_, ?_⟩
    · intro hgone
      simp only [Followed.move, queueResult]
      split <;> exact hgone
    · simp only [Followed.move, queueResult]
      split <;> rfl
    · exact fun _ _ => .inr ⟨trivial, Function.update_self ..⟩
    · intro e he
      cases he
  | some c =>
    dsimp only
    split
    next hpromote => exact ends_promoteCandidate hpromote
    next hpromote => exact ends_rollbackCandidate (Bool.eq_false_iff.mpr hpromote)

/-- How the handler that stages the candidate ends. -/
def StagedOrGone (k : ℕ) (x : Followed F E) : Prop :=
  Gone x ∧ x.progress k ≠ .failed ∨ x.staged.isSome ∧ x.progress k = .nothing

def FailsOrUnstaged (e : DkgError) (x : Followed F E) : Prop := Fails 0 e x ∨ Unstaged x

theorem stable_isSome_staged :
    (follow (F := F) (E := E) result storage k).Stable fun x => x.staged.isSome := by
  intro x y _ hx hrely
  obtain ⟨c, hc⟩ := Option.isSome_iff_exists.mp hx
  exact Option.isSome_iff_exists.mpr ⟨c, hrely.1.staged c hc⟩

theorem stable_stagedOrGone :
    (follow (F := F) (E := E) result storage k).Stable (StagedOrGone k) :=
  (stable_gone.and (stable_progress (· ≠ .failed))).or
    (stable_isSome_staged.and (stable_progress (· = .nothing)))

theorem stable_failsOrUnstaged (e : DkgError) :
    (follow (F := F) (E := E) result storage 0).Stable (FailsOrUnstaged e) :=
  (stable_fails e).or stable_unstaged

theorem ends_applyPendingResultIfPresent (hscope : checkResultScope sessionId result = .ok ()) :
    (follow result storage 0).Ends (fun x => x.progress 0 = .staged ∧ x.staged.isSome)
      (applyPendingResultIfPresent (F := F) (E := E) sessionId) (fun _ => StagedOrGone 0)
      FailsOrUnstaged := by
  have hstable (p : Progress) : (follow (F := F) (E := E) result storage 0).Stable fun x =>
      x.progress 0 = p ∧ x.staged.isSome := (stable_progress (· = p)).and stable_isSome_staged
  have hdrain : (follow result storage 0).Ends
      (fun x => x.progress 0 = .staged ∧ x.staged.isSome)
      (locked (F := F) (E := E) fun s => ({ s with pendingResult := none }, .ok s.pendingResult))
      (fun waiting x => (waiting = none ∧ x.progress 0 = .nothing ∨
        waiting = some result ∧ x.progress 0 = .inHand) ∧ x.staged.isSome) FailsOrUnstaged := by
    refine ends_locked (hstable .staged) stable_failsOrUnstaged ?_ ?_ ?_
    · intro waiting
      exact (((Interference.stable_const _).and (stable_progress (· = .nothing))).or
        ((Interference.stable_const _).and (stable_progress (· = .inHand)))).and
          stable_isSome_staged
    · intro e x hx hgone
      exact .inl (.inl ⟨hgone, by rw [hx.1]; decide⟩)
    · intro x hinv hx _ _
      cases hp : x.state.pendingResult with
      | none =>
        refine ⟨x.move { x.state with pendingResult := none } 0 .nothing, rfl,
          hinv.drain hx.1 (by simp [hp]), guar_of_storage id rfl id rfl
            fun j hj => Function.update_of_ne hj .., ?_, ?_⟩
        · intro waiting hwaiting
          cases hwaiting
          exact ⟨.inl ⟨rfl, x.move_progress_self ..⟩, hx.2⟩
        · intro e he
          cases he
      | some p =>
        refine ⟨x.move { x.state with pendingResult := none } 0 .inHand, rfl,
          hinv.drain hx.1 (fun _ => rfl), guar_of_storage id rfl id rfl
            fun j hj => Function.update_of_ne hj .., ?_, ?_⟩
        · intro waiting hwaiting
          cases hwaiting
          exact ⟨.inr ⟨congrArg some (hinv.pending p hp), x.move_progress_self ..⟩, hx.2⟩
        · intro e he
          cases he
  unfold applyPendingResultIfPresent
  refine hdrain.bind fun waiting => ?_
  cases waiting with
  | none =>
    refine Interference.Ends.pure ?_ stable_stagedOrGone
    rintro x - ⟨⟨-, hp⟩ | ⟨hnone, -⟩, hstaged⟩
    · exact .inr ⟨hstaged, hp⟩
    · cases hnone
  | some waiting =>
    have happly : (follow result storage 0).Ends
        (fun x => waiting = result ∧ Ready 0 x ∧ x.staged.isSome)
        (applyResult (F := F) (E := E) sessionId waiting)
        (fun _ x => Applies 0 x ∧ x.staged.isSome) fun e x => Fails 0 e x ∧ x.staged.isSome := by
      refine Interference.Ends.assume fun hwaiting => ?_
      subst hwaiting
      refine (ends_applyResult hscope).carry stable_isSome_staged fun x y _ hx hguar => ?_
      obtain ⟨c, hc⟩ := Option.isSome_iff_exists.mp hx
      exact Option.isSome_iff_exists.mpr ⟨c, hguar.1.staged c hc⟩
    refine happly.mono ?_ ?_ ?_
    · rintro x - ⟨⟨hnone, -⟩ | ⟨hsome, hp⟩, hstaged⟩
      · cases hnone
      · exact ⟨Option.some.inj hsome, .inr hp, hstaged⟩
    · rintro _ x - ⟨happlies, hstaged⟩
      exact happlies.imp_right fun h => ⟨hstaged, h.2⟩
    · exact fun _ _ _ h => .inl h.1

theorem ends_stage (c : RefreshHealthCheckCandidate) :
    (follow result storage 0).Ends Unstaged
      (withAttemptStateMut (F := F) (E := E) fun s => { s with candidate := some c })
      (fun _ x => x.progress 0 = .staged ∧ x.staged.isSome) FailsOrUnstaged := by
  refine ends_locked stable_unstaged stable_failsOrUnstaged
    (fun _ => (stable_progress (· = .staged)).and stable_isSome_staged)
    (fun _ _ hx _ => .inr hx) ?_
  intro x hinv hx hlive _
  refine ⟨{ x.move { x.state with candidate := some c } 0 .staged with staged := some c }, rfl,
    hinv.stage hlive hx.1 hx.2 c, ⟨⟨id, ?_, id, ?_⟩, ?_, fun hzero => absurd rfl hzero⟩, ?_, ?_⟩
  · intro c' hc'
    rw [hx.1] at hc'
    cases hc'
  · rintro ⟨c', hc', -⟩
    rw [hx.1] at hc'
    cases hc'
  · exact fun j hj => Function.update_of_ne hj ..
  · exact fun _ _ => ⟨by simp [Followed.move], rfl⟩
  · intro e he
    cases he

theorem ends_completeRefresh (showKey : E → String) (storageKey : String)
    (hscope : checkResultScope sessionId result = .ok ()) : (follow result storage 0).Ends Unstaged
      (completeRefresh (F := F) showKey sessionId storageKey) (fun _ => StagedOrGone 0)
      FailsOrUnstaged := by
  have hgone : ∀ e (x : Followed F E), Unstaged x → Gone x → FailsOrUnstaged e x :=
    fun _ _ hx _ => .inr hx
  have hnode : (follow result storage 0).Ends Unstaged
      (withAttemptState (F := F) (E := E) fun s => do
        let results ← phase4Results s.node
        pure (s.node.id, s.node.threshold, results))
      (fun a x => a.1 ≠ 1 ∧ Unstaged x) FailsOrUnstaged := by
    refine ends_withAttemptState stable_unstaged stable_failsOrUnstaged
      (fun a => (Interference.stable_const _).and stable_unstaged) hgone
      ?_ fun _ _ hx _ => .inr hx
    intro a x hinv hx ha
    obtain ⟨results, -, ha⟩ := bind_eq_ok.mp ha
    cases ha
    exact ⟨hinv.member, hx⟩
  unfold completeRefresh
  refine hnode.bind ?_
  rintro ⟨nodeId, threshold, finalShare, aggregatePk, pubPoly⟩
  refine Interference.Ends.assume fun hmember => ?_
  refine (ends_outside stable_unstaged stable_failsOrUnstaged fun _ _ hx => .inr hx).bind ?_
  rintro ⟨bundle, stagedPk⟩
  refine (ends_withAttemptState stable_unstaged stable_failsOrUnstaged (fun _ => stable_unstaged)
    hgone (fun _ _ _ hx _ => hx) fun _ _ hx _ => .inr hx).bind ?_
  rintro ⟨peerIds, peerNodeKeys⟩
  dsimp only
  split
  · exact Interference.Ends.throw (fun _ _ hx => .inr hx) (stable_failsOrUnstaged _)
  · refine (ends_stage _).bind fun _ => (ends_applyPendingResultIfPresent hscope).bind fun _ => ?_
    exact Interference.Ends.pure (fun _ _ hx => hx) stable_stagedOrGone

/-- A completion that fails has not staged its candidate, or has found the attempt ended, or could
not write the bundle. -/
theorem ends_orAbort {p : CompletionM F E Unit}
    (h : (follow result storage 0).Ends Unstaged p (fun _ => StagedOrGone 0) FailsOrUnstaged) :
    (follow result storage 0).Ends Unstaged (orAbort p) (fun _ => StagedOrGone 0) (Fails 0) := by
  refine h.tryCatch fun e => ?_
  have hremove : (follow result storage 0).Ends (FailsOrUnstaged e)
      (removeAttempt (F := F) (E := E)) (fun _ => Fails 0 e) (Fails 0) := by
    refine ends_removeAttempt (stable_failsOrUnstaged e) stable_fails (stable_fails e) ?_ ?_
    · rintro x hinv ((⟨hgone, -⟩ | ⟨hfailed, -⟩) | ⟨hnone, -⟩) c hc
      · exact hinv.ended hgone c hc
      · exact .inr ⟨0, hfailed⟩
      · rw [hnone] at hc
        cases hc
    · rintro x ((⟨-, hp⟩ | hfailed) | ⟨-, hp⟩)
      · exact .inl ⟨rfl, hp⟩
      · exact .inr hfailed
      · exact .inl ⟨rfl, by rw [Followed.removed, hp]; decide⟩
  refine hremove.bind fun _ => ?_
  exact Interference.Ends.throw (fun _ _ hx => hx) (stable_fails e)

/-! ## Schedules -/

/-- How the handler of an input ends if it does not fail. -/
def EndsWell (input : Input) (k : ℕ) (x : Followed F E) : Prop :=
  match input with
  | .refresh _ => StagedOrGone k x
  | _ => Applies k x

variable (result storage) in
/-- The handlers of the pool, of which the first is the one that stages, are safe. -/
abbrev SafePool (x₀ : Followed F E)
    (pool : Pool Input Surroundings (Completion F E) (Except DkgError Unit)) (x : Followed F E) :
    Prop :=
  Pool.SafeAt Followed.state QueuesBeforeStaging
    (fun _ k => (follow result storage k).contract)
    (fun input k r y => Tracked result storage y ∧ (∀ a, r = .ok a → EndsWell input k y) ∧
      ∀ e, r = .error e → Fails k e y) x₀ pool x

variable (result) in
theorem compatible_result (showKey : E → String)
    (hscope : checkResultScope sessionId result = .ok ()) {x₀ : Followed F E}
    (hinv : Tracked result storage x₀) (hnothing : ∀ k, x₀.progress k = .nothing) :
    Compatible Followed.state QueuesBeforeStaging
      (fun (_ : Input) k => (follow result storage k).contract)
      (fun input => (handler (F := F) showKey sessionId input).run)
      (fun input k r y => Tracked result storage y ∧ (∀ a, r = .ok a → EndsWell input k y) ∧
        ∀ e, r = .error e → Fails k e y) x₀ (· = .result result) := by
  refine ⟨?_, ?_⟩
  · intro _ _ j k x y hjk hguar hx
    obtain ⟨hy, hlater, hprogress, hstaged⟩ := hguar hx
    exact ⟨hy, hlater, hprogress k (Ne.symm hjk), fun hk => hstaged (by omega)⟩
  · rintro _ k x rfl hrely
    obtain ⟨hx, -, hprogress, -⟩ := hrely hinv
    exact ends_applyResult hscope x hx (.inl (hprogress.trans (hnothing k)))

def Followed.start (s : Completion F E) : Followed F E := ⟨s, fun _ => .nothing, none, False⟩

/-- A member other than the selector, before its completion.  The selector receives no result: it
applies its own in the task that stages the candidate. -/
structure AwaitsResult (s : Completion F E) : Prop where
  member : s.node.id ≠ 1
  candidate : s.candidate = none
  pending : s.pendingResult = none

variable {s : Completion F E}

omit [DecidableEq F] in
theorem AwaitsResult.tracked (h : AwaitsResult s) :
    Tracked result s.storage (Followed.start s) where
  member := h.member
  pending p hp := by cases h.pending.symm.trans hp
  candidate c hc := by cases h.candidate.symm.trans hc
  together _ hcandidate := by
    rw [show (Followed.start s).state.candidate = none from h.candidate] at hcandidate
    cases hcandidate
  cleared _ hstaged := by cases hstaged
  kept _ harrived := harrived.elim
  stored := .inl rfl
  ended _ _ hc := by cases hc

/-- The handlers of a member: the completion of the refresh, and the result any number of times. -/
def resultSchedule (storageKey : String) (result : PendingRefreshHealthCheckResult)
    (rest : List (Move Input Surroundings)) : List (Move Input Surroundings) :=
  .start (.refresh storageKey) :: .start (.result result) :: rest

/-- No result is put aside after the candidate has been staged. -/
def QueuedInTime (showKey : E → String) (s : Completion F E)
    (schedule : List (Move Input Surroundings)) : Prop :=
  (Pool.empty s).Obeys (fun input => (handler showKey s.node.sessionId input).run)
    QueuesBeforeStaging schedule

instance (showKey : E → String) (s : Completion F E) (schedule : List (Move Input Surroundings)) :
    Decidable (QueuedInTime showKey s schedule) :=
  inferInstanceAs (Decidable (Pool.Obeys ..))

theorem safePool_first (showKey : E → String) (hs : AwaitsResult s) (storageKey : String)
    (hscope : checkResultScope s.node.sessionId result = .ok ()) :
    SafePool result s.storage (Followed.start s)
      (runEnd showKey s [.start (.refresh storageKey)]) (Followed.start s) := by
  refine ⟨rfl, fun k _ _ => (follow result s.storage k).contract.refl _, ?_⟩
  intro k i t hget
  cases k with
  | zero =>
    cases hget
    exact ends_orAbort (ends_completeRefresh showKey storageKey hscope) _ hs.tracked ⟨rfl, rfl⟩
  | succ k => cases hget

/-- Every schedule of results keeps the handlers safe, and what has been staged stays staged. -/
theorem safePool_run (showKey : E → String) (hs : AwaitsResult s)
    (hscope : checkResultScope s.node.sessionId result = .ok ())
    {pool : Pool Input Surroundings (Completion F E) (Except DkgError Unit)}
    (hpool : SafePool result s.storage (Followed.start s) pool x)
    (hinv : Tracked result s.storage x) {schedule : List (Move Input Surroundings)}
    (honly : ∀ i, .start i ∈ schedule → i = .result result)
    (hqueued : pool.Obeys (fun input => (handler showKey s.node.sessionId input).run)
      QueuesBeforeStaging schedule) : ∃ z, SafePool result s.storage (Followed.start s)
        (run (Pool.step fun input => (handler showKey s.node.sessionId input).run) pool schedule)
        z ∧ Tracked result s.storage z ∧ ∀ c, x.staged = some c → z.staged = some c := by
  have hstart : Tracked result s.storage (Followed.start s) := hs.tracked
  obtain ⟨z, hz, hxz⟩ :=
    hpool.run (compatible_result result showKey hscope hstart fun _ => rfl) honly hqueued
  have hchain : Tracked result s.storage z ∧
      Relation.ReflTransGen (Later result s.storage) x z := by
    refine (healthCheck result s.storage).chain ?_ hinv hxz
    rintro x y hx ⟨_, k, _, -, hguar⟩
    exact ⟨(hguar hx).1, (hguar hx).2.1⟩
  exact ⟨z, hz, hchain.1, (Later.of_chain _ _ hchain.2).staged⟩

section

variable {x₀ : Followed F E}
  {pool : Pool Input Surroundings (Completion F E) (Except DkgError Unit)}

theorem SafePool.endsWell (h : SafePool result storage x₀ pool x)
    (hfinished : ∀ k < pool.tasks.length, (pool.result k).isSome)
    (hwritten : ∀ k i text, pool.result k ≠ some (i, .error (.storage text)))
    {i : Input} {t : Task Surroundings (Completion F E) (Except DkgError Unit)}
    (hk : pool.tasks[k]? = some (i, t)) :
    Gone x ∧ x.progress k ≠ .failed ∨ EndsWell i k x := by
  have hlt := (List.getElem?_eq_some_iff.mp hk).1
  obtain ⟨⟨i', r⟩, hr⟩ := Option.isSome_iff_exists.mp (hfinished k hlt)
  obtain ⟨rfl, rfl⟩ := Prod.mk.inj (Option.some.inj ((Pool.tasks_of_result hr).symm.trans hk))
  obtain ⟨-, hok, herror⟩ := h.started k i' _ hk x ((follow result storage k).contract.refl x)
  cases r with
  | ok a => exact .inr (hok a rfl)
  | error e =>
    rcases herror e rfl with hgone | ⟨-, text, rfl⟩
    · exact .inl hgone
    · exact absurd hr (hwritten k i' text)

/-- Once the handlers have finished and no write has failed, nothing is under way. -/
theorem SafePool.idle (h : SafePool result storage x₀ pool x)
    (hnothing : ∀ k, x₀.progress k = .nothing) (hinv : Tracked result storage x₀)
    (hfinished : ∀ k < pool.tasks.length, (pool.result k).isSome)
    (hwritten : ∀ k i text, pool.result k ≠ some (i, .error (.storage text))) (k : ℕ) :
    x.progress k ≠ .failed ∧ (x.state.live = true → x.progress k = .nothing) := by
  have hends : Gone x ∧ x.progress k ≠ .failed ∨ x.progress k = .nothing := by
    cases hk : pool.tasks[k]? with
    | some entry =>
      obtain ⟨i, t⟩ := entry
      rcases h.endsWell hfinished hwritten hk with hgone | hwell
      · exact .inl hgone
      · cases i <;> exact hwell.imp_right And.right
    | none =>
      have hsame := (h.unstarted k (List.getElem?_eq_none_iff.mp hk) .remove hinv).2.2.1
      exact .inr (hsame.trans (hnothing k))
  rcases hends with ⟨hgone, hp⟩ | hp
  · exact ⟨hp, fun hlive => by cases hgone.symm.trans hlive⟩
  · exact ⟨by rw [hp]; decide, fun _ => hp⟩

end

omit [DecidableEq F] in
/-- With nothing under way, a candidate that was staged and a result that has arrived do not leave
the attempt open. -/
theorem Tracked.gone (h : Tracked result storage x) (hstaged : x.staged.isSome)
    (harrived : x.arrived) (hnothing : ∀ k, x.progress k = .nothing) : Gone x := by
  by_contra hlive
  have hlive : x.state.live = true := by simpa [Gone] using hlive
  have hpending : x.state.pendingResult.isSome := by
    rcases h.kept hlive harrived with hpending | ⟨j, hj⟩
    · exact hpending
    · rw [hnothing j] at hj
      exact hj.elim
  have hcandidate : x.state.candidate.isSome := by
    by_contra hnone
    obtain ⟨j, hj⟩ := h.cleared hlive hstaged (by simpa using hnone)
    rw [hnothing j] at hj
    exact hj
  have hzero := h.together hlive hcandidate hpending
  rw [hnothing 0] at hzero
  cases hzero

/-- For every interleaving of the completion of a refresh with the arrival of the result: once the
handlers have finished, and no write has failed, the attempt has ended, and the result has been
applied to the candidate that was staged. -/
theorem result_applied (showKey : E → String) {s : Completion F E} (hs : AwaitsResult s)
    {storageKey : String} {result : PendingRefreshHealthCheckResult}
    (hscope : checkResultScope s.node.sessionId result = .ok ())
    {rest : List (Move Input Surroundings)}
    (honly : ∀ i, .start i ∈ rest → i = .result result)
    (hqueued : QueuedInTime showKey s (resultSchedule storageKey result rest))
    (hfinished : ∀ k < (runEnd showKey s (resultSchedule storageKey result rest)).tasks.length,
      ((runEnd showKey s (resultSchedule storageKey result rest)).result k).isSome)
    (hwritten : ∀ k i text, (runEnd showKey s (resultSchedule storageKey result rest)).result k ≠
      some (i, .error (.storage text))) :
    (runEnd showKey s (resultSchedule storageKey result rest)).state.live = false ∧
      ∀ before after candidate, resultSchedule storageKey result rest = before ++ after →
        (runEnd showKey s before).state.candidate = some candidate →
        (runEnd showKey s (resultSchedule storageKey result rest)).state.storage =
          settledStorage F E result s.storage candidate := by
  have hinv : Tracked result s.storage (Followed.start s) := hs.tracked
  have hfirst := safePool_first showKey hs storageKey hscope
  have honly' : ∀ i, .start i ∈ Move.start (.result result) :: rest → i = .result result := by
    intro i hi
    rcases List.mem_cons.mp hi with hi | hi
    · cases hi
      rfl
    · exact honly i hi
  have hended : (runEnd showKey s (resultSchedule storageKey result rest)).state.live = false := by
    obtain ⟨z, hz, hz', -⟩ := safePool_run showKey hs hscope hfirst hinv honly' hqueued.2
    have hz : SafePool result s.storage (Followed.start s)
        (runEnd showKey s (resultSchedule storageKey result rest)) z := hz
    obtain ⟨t, hrefresh⟩ : ∃ t, (runEnd showKey s
        (resultSchedule storageKey result rest)).tasks[0]? = some (.refresh storageKey, t) :=
      Pool.input_run rfl (.start (.result result) :: rest)
    obtain ⟨t', hresult⟩ : ∃ t, (runEnd showKey s
        (resultSchedule storageKey result rest)).tasks[1]? = some (.result result, t) :=
      Pool.input_run rfl rest
    have hgone : Gone z := by
      rcases hz.endsWell hfinished hwritten hrefresh with hgone | hgone | hstaged
      · exact hgone.1
      · exact hgone.1
      rcases hz.endsWell hfinished hwritten hresult with hgone | hgone | harrived
      · exact hgone.1
      · exact hgone.1
      by_contra hlive
      refine hlive (hz'.gone hstaged.1 harrived.1 fun k => ?_)
      exact (hz.idle (fun _ => rfl) hinv hfinished hwritten k).2 (by simpa [Gone] using hlive)
    rw [← hz.state]
    exact hgone
  refine ⟨hended, ?_⟩
  intro before after candidate hsplit hcandidate
  cases before with
  | nil => cases hs.candidate.symm.trans hcandidate
  | cons move before =>
    obtain ⟨rfl, hrest⟩ := List.cons.inj hsplit
    rw [hrest] at honly'
    have hqueued' := hqueued.2
    rw [hrest] at hqueued'
    obtain ⟨hbefore, hafter⟩ := along_append.mp hqueued'
    obtain ⟨x, hx, hx', -⟩ := safePool_run showKey hs hscope hfirst hinv
      (fun i hi => honly' i (List.mem_append_left after hi)) hbefore
    obtain ⟨z, hz, hz', hstaged⟩ := safePool_run showKey hs hscope hx hx'
      (fun i hi => honly' i (List.mem_append_right before hi)) hafter
    rw [← run_append] at hz
    have hz : SafePool result s.storage (Followed.start s)
        (runEnd showKey s (resultSchedule storageKey result rest)) z := by
      rw [hsplit]
      exact hz
    have hc : z.staged = some candidate := by
      refine hstaged candidate (hx'.candidate candidate ?_)
      rw [hx.state]
      exact hcandidate
    rw [← hz.state] at hended ⊢
    rcases hz'.ended hended candidate hc with hs | ⟨j, hj⟩
    · exact hs
    · exact absurd hj (hz.idle (fun _ => rfl) hinv hfinished hwritten j).1

end

/-! ## Runs of the second member -/

namespace Pair

open scoped ByteSum

/-- The result arrives first, and the completion has staged its candidate. -/
def resultFirst : List (Move Input Surroundings) :=
  resultSchedule ringKey failedResult (steps 1 3 ++ steps 0 4)

def resultFirstEnd : List (Move Input Surroundings) :=
  resultSchedule ringKey failedResult (steps 1 3 ++ steps 0 4 ++ steps 0 5)

theorem run_result_first :
    QueuedInTime showKey (member 0) resultFirstEnd ∧
      (runEnd showKey (member 0) resultFirst).state.candidate = some candidate ∧
      (runEnd showKey (member 0) resultFirstEnd).tasks.length = 2 ∧
      (runEnd showKey (member 0) resultFirstEnd).result 0 = some (.refresh ringKey, .ok ()) ∧
      (runEnd showKey (member 0) resultFirstEnd).result 1 =
        some (.result failedResult, .ok ()) := by
  decide +kernel

theorem result_applied_of_result_first :
    (runEnd showKey (member 0) resultFirstEnd).state.live = false ∧
      (runEnd showKey (member 0) resultFirstEnd).state.storage =
        settledStorage F7 F7 failedResult (member 0).storage candidate := by
  obtain ⟨hqueued, hstaged, hlength, hrefresh, hresult⟩ := run_result_first
  have hmember : AwaitsResult (member 0) := ⟨by decide, rfl, rfl⟩
  have honly : ∀ i, Move.start i ∈ steps 1 3 ++ steps 0 4 ++ steps 0 5 →
      i = .result failedResult := by
    intro i hi
    simp [steps] at hi
  have hfinished : ∀ k < (runEnd showKey (member 0) resultFirstEnd).tasks.length,
      ((runEnd showKey (member 0) resultFirstEnd).result k).isSome := by
    rw [hlength]
    intro k hk
    interval_cases k
    · rw [hrefresh]
      rfl
    · rw [hresult]
      rfl
  have hwritten : ∀ k i text, (runEnd showKey (member 0) resultFirstEnd).result k ≠
      some (i, .error (.storage text)) := by
    intro k i text hk
    have hlt := (List.getElem?_eq_some_iff.mp (Pool.tasks_of_result hk)).1
    rw [hlength] at hlt
    interval_cases k
    · cases hrefresh.symm.trans hk
    · cases hresult.symm.trans hk
  have hsplit : resultFirstEnd = resultFirst ++ steps 0 5 := by
    simp only [resultFirstEnd, resultFirst, resultSchedule, List.cons_append]
  unfold resultFirstEnd at *
  obtain ⟨hended, hsettled⟩ :=
    result_applied showKey hmember rfl honly hqueued hfinished hwritten
  exact ⟨hended, hsettled resultFirst (steps 0 5) candidate hsplit hstaged⟩

/-- The completion has looked for a result before the result is put aside. -/
def resultBetween : List (Move Input Surroundings) :=
  resultSchedule ringKey failedResult (steps 1 2 ++ steps 0 5 ++ steps 1 1)

/-- Both handlers have finished without an error.  The candidate and the result are both there, and
no step is left that applies it. -/
theorem result_stranded :
    (runEnd showKey (member 0) resultBetween).result 0 = some (.refresh ringKey, .ok ()) ∧
      (runEnd showKey (member 0) resultBetween).result 1 = some (.result failedResult, .ok ()) ∧
      (runEnd showKey (member 0) resultBetween).state.live = true ∧
      (runEnd showKey (member 0) resultBetween).state.candidate = some candidate ∧
      (runEnd showKey (member 0) resultBetween).state.pendingResult = some failedResult := by
  decide +kernel

end Pair

end Orbis.Node.Dkg.Completion
