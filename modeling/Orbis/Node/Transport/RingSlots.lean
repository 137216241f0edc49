import Orbis.Node.Transport.Follower
import Orbis.Transition.Triple

/-!
# Slots and markers

A ceremony for a ring claims the ring's slot before its session is created, and the slot is released
after the session was removed.  In between a handler is in charge of the slot: it will create the
session or release the slot.  In the same way a handler is in charge of the markers of an attempt
whose session it removed.

The initialisation of an attempt that finds the session of another attempt of its ceremony creates
none, and leaves the slot it claimed.  As long as the slot and the session of a ceremony belong to
the same attempt and the same ring, no slot is left behind once all handlers have finished.
-/

namespace Orbis.Node.Transport

open Orbis.Crypto Orbis.Data Orbis.Node.Dkg Orbis.Transition

namespace Follower

/-- The slot and the session of a ceremony belong to the same attempt and the same ring. -/
def Seated (_ s' : Follower) : Prop :=
  ∀ e ∈ s'.ringsPss.entries, ∀ session ∈ s'.sessions e.2.ceremonyId,
    session.attempt = some e.2 ∧ session.ringKey = some e.1

instance (s s' : Follower) : Decidable (Seated s s') :=
  inferInstanceAs (Decidable (∀ e ∈ s'.ringsPss.entries, _))

variable {session : Session} {s' : Follower}

theorem Seated.of_slot {s : Follower} (h : Seated s s') {ringKey : String} {owner : AttemptKey}
    (hslot : s'.ringsPss.lookup ringKey = some owner)
    (hsession : s'.sessions owner.ceremonyId = some session) :
    session.attempt = some owner ∧ session.ringKey = some ringKey :=
  h ⟨ringKey, owner⟩ (AList.mem_lookup_iff.mp hslot) session hsession

inductive Duty where
  | slot (ringKey : String) (attempt : AttemptKey)
  | marker (key : ReshareSignatureReadyKey)
  | markers (attempt : AttemptKey)
deriving DecidableEq

def Duty.attempt : Duty → AttemptKey
  | slot _ attempt | markers attempt => attempt
  | marker key => key.attempt

structure Watched where
  follower : Follower
  duties : ℕ → List Duty

namespace Watched

def Owed (x : Watched) (duty : Duty) : Prop := ∃ k, duty ∈ x.duties k

/-- The handler `k` has made a step. -/
def owe (x : Watched) (s : Follower) (k : ℕ) (duties : List Duty) : Watched :=
  ⟨s, Function.update x.duties k duties⟩

variable {x : Watched} {s : Follower} {k : ℕ} {duty : Duty} {duties : List Duty}

theorem duties_owe : (x.owe s k duties).duties k = duties := Function.update_self ..

theorem duties_owe_of_ne {j : ℕ} (h : j ≠ k) : (x.owe s k duties).duties j = x.duties j :=
  Function.update_of_ne h ..

theorem owe_owe {duties' : List Duty} :
    (x.owe s k duties).owe s' k duties' = x.owe s' k duties' := by
  unfold owe
  rw [Function.update_idem]

theorem owed_owe (h : duty ∈ duties) : (x.owe s k duties).Owed duty :=
  ⟨k, by rwa [duties_owe]⟩

theorem Owed.owe (h : x.Owed duty) (hkept : duty ∈ x.duties k → duty ∈ duties) :
    (x.owe s k duties).Owed duty := by
  obtain ⟨j, hj⟩ := h
  by_cases hjk : j = k
  · rw [hjk] at hj
    exact owed_owe (hkept hj)
  · exact ⟨j, by rwa [duties_owe_of_ne hjk]⟩

/-- The marker has a session, is one of a completed attempt, or is in some handler's charge. -/
def Held (x : Watched) (key : ReshareSignatureReadyKey) : Prop :=
  x.follower.Live key.attempt ∨ (key.attempt, true) ∈ x.follower.ended ∨
    x.Owed (.marker key) ∨ x.Owed (.markers key.attempt)

theorem Held.owe {key : ReshareSignatureReadyKey} (h : x.Held key)
    (hlive : x.follower.Live key.attempt → s.Live key.attempt)
    (hended : ∀ entry ∈ x.follower.ended, entry ∈ s.ended)
    (hkept : ∀ duty ∈ x.duties k, duty ∈ duties) : (x.owe s k duties).Held key := by
  rcases h with h | h | h | h
  · exact .inl (hlive h)
  · exact .inr (.inl (hended _ h))
  · exact .inr (.inr (.inl (h.owe (hkept _))))
  · exact .inr (.inr (.inr (h.owe (hkept _))))

end Watched

/-! ## Every slot and every marker is accounted for -/

/-- A session has an attempt of its ceremony, and a slot whose ceremony has a session is the
session's.  Whatever has no session is in some handler's charge; the markers of a completed attempt
may stay. -/
structure Accounted (x : Watched) : Prop where
  session : ∀ ceremonyId session, x.follower.sessions ceremonyId = some session →
    ∃ attempt, session.attempt = some attempt ∧ attempt.ceremonyId = ceremonyId
  seat : ∀ ringKey attempt, x.follower.ringsPss.lookup ringKey = some attempt →
    ∀ session, x.follower.sessions attempt.ceremonyId = some session →
      session.attempt = some attempt ∧ session.ringKey = some ringKey
  slot : ∀ ringKey attempt, x.follower.ringsPss.lookup ringKey = some attempt →
    x.follower.Live attempt ∨ x.Owed (.slot ringKey attempt)
  marker : ∀ key ∈ x.follower.ready, x.Held key

theorem accounted_idle : Accounted ⟨idle, fun _ => []⟩ where
  session _ _ h := nomatch h
  seat _ _ h := nomatch h
  slot _ _ h := nomatch h
  marker _ h := nomatch h

/-- The duty of a ceremony's initialisation. -/
def claimed (attempt : AttemptKey) (ringKey : Option String) : List Duty :=
  ringKey.toList.map fun ringKey => .slot ringKey attempt

def Settled (s : Follower) : Duty → Prop
  | .slot ringKey attempt => s.ringsPss.lookup ringKey = some attempt → s.Live attempt
  | .marker key => key ∈ s.ready → s.Live key.attempt
  | .markers attempt => ∀ key ∈ s.ready, key.attempt ≠ attempt

variable {attempt : AttemptKey}

theorem live_of_session {s : Follower} (hsession : s.sessions attempt.ceremonyId = some session)
    (hattempt : session.attempt = some attempt) : s.Live attempt := by
  unfold Live
  rw [hsession]
  exact hattempt

namespace Accounted

variable {x : Watched} {s : Follower} {k : ℕ} {duties : List Duty}

/-- Duties are dropped when they are settled. -/
theorem discharge (h : Accounted x)
    (hsettled : ∀ duty ∈ x.duties k, duty ∉ duties → Settled x.follower duty) :
    Accounted (x.owe x.follower k duties) := by
  refine ⟨h.session, h.seat, fun ringKey attempt hslot => ?_, fun key hkey => ?_⟩
  · rcases h.slot ringKey attempt hslot with hlive | howed
    · exact .inl hlive
    · by_cases hdrop : Duty.slot ringKey attempt ∈ x.duties k ∧ Duty.slot ringKey attempt ∉ duties
      · exact .inl (hsettled _ hdrop.1 hdrop.2 hslot)
      · exact .inr (howed.owe fun hmem => by_contra fun hnot => hdrop ⟨hmem, hnot⟩)
  · rcases h.marker key hkey with hlive | hended | howed | howed
    · exact .inl hlive
    · exact .inr (.inl hended)
    · by_cases hdrop : Duty.marker key ∈ x.duties k ∧ Duty.marker key ∉ duties
      · exact .inl (hsettled _ hdrop.1 hdrop.2 hkey)
      · exact .inr (.inr (.inl (howed.owe fun hmem => by_contra fun hnot => hdrop ⟨hmem, hnot⟩)))
    · by_cases hdrop : Duty.markers key.attempt ∈ x.duties k ∧ Duty.markers key.attempt ∉ duties
      · exact absurd rfl (hsettled _ hdrop.1 hdrop.2 key hkey)
      · exact .inr (.inr (.inr (howed.owe fun hmem => by_contra fun hnot => hdrop ⟨hmem, hnot⟩)))

/-- A step that keeps the attempts and the rings of the sessions, and does not add to the slots and
the markers. -/
theorem shrink (h : Accounted x)
    (hsessions : ∀ ceremonyId, (s.sessions ceremonyId).map (fun session =>
      (session.attempt, session.ringKey)) = (x.follower.sessions ceremonyId).map fun session =>
      (session.attempt, session.ringKey))
    (hslots : ∀ ringKey attempt, s.ringsPss.lookup ringKey = some attempt →
      x.follower.ringsPss.lookup ringKey = some attempt)
    (hready : ∀ key ∈ s.ready, key ∈ x.follower.ready) (hended : s.ended = x.follower.ended) :
    Accounted (x.owe s k (x.duties k)) := by
  have hsession : ∀ ceremonyId session, s.sessions ceremonyId = some session →
      ∃ session', x.follower.sessions ceremonyId = some session' ∧
        session'.attempt = session.attempt ∧ session'.ringKey = session.ringKey := by
    intro ceremonyId session hs
    have heq := hsessions ceremonyId
    rw [hs, Option.map_some] at heq
    obtain ⟨session', hs', hpair⟩ := Option.map_eq_some_iff.mp heq.symm
    exact ⟨session', hs', (Prod.mk.inj hpair).1, (Prod.mk.inj hpair).2⟩
  have hlive : ∀ attempt, x.follower.Live attempt → s.Live attempt := by
    intro attempt hlive
    obtain ⟨session', hs', hattempt⟩ := Option.bind_eq_some_iff.mp hlive
    have heq := hsessions attempt.ceremonyId
    rw [hs', Option.map_some] at heq
    obtain ⟨session, hs, hpair⟩ := Option.map_eq_some_iff.mp heq
    exact live_of_session hs ((Prod.mk.inj hpair).1.trans hattempt)
  refine ⟨fun ceremonyId session hs => ?_, fun ringKey attempt hslot session hs => ?_,
    fun ringKey attempt hslot => ?_, fun key hkey => ?_⟩
  · obtain ⟨session', hs', hattempt, -⟩ := hsession ceremonyId session hs
    rw [← hattempt]
    exact h.session ceremonyId session' hs'
  · obtain ⟨session', hs', hattempt, hring⟩ := hsession _ session hs
    rw [← hattempt, ← hring]
    exact h.seat ringKey attempt (hslots ringKey attempt hslot) session' hs'
  · exact (h.slot ringKey attempt (hslots ringKey attempt hslot)).imp (hlive attempt) (.owe · id)
  · refine (h.marker key (hready key hkey)).owe (hlive key.attempt) ?_ fun _ => id
    rw [hended]
    exact fun _ => id

theorem claim (h : Accounted x) {ringKey : String}
    (hseat : ∀ session, x.follower.sessions attempt.ceremonyId = some session →
      session.attempt = some attempt ∧ session.ringKey = some ringKey) : Accounted (x.owe
      { x.follower with ringsPss := x.follower.ringsPss.insert ringKey attempt } k
      (.slot ringKey attempt :: x.duties k)) := by
  refine ⟨h.session, fun other owner hslot => ?_, fun other owner hslot => ?_, fun key hkey => ?_⟩
  · by_cases heq : other = ringKey
    · rw [heq, Watched.owe, AList.lookup_insert] at hslot
      rw [heq, ← Option.some.inj hslot]
      exact hseat
    · rw [Watched.owe, AList.lookup_insert_ne heq] at hslot
      exact h.seat other owner hslot
  · by_cases heq : other = ringKey
    · rw [heq, Watched.owe, AList.lookup_insert] at hslot
      rw [heq, ← Option.some.inj hslot]
      exact .inr (Watched.owed_owe List.mem_cons_self)
    · rw [Watched.owe, AList.lookup_insert_ne heq] at hslot
      exact (h.slot other owner hslot).imp_right (.owe · (List.mem_cons_of_mem _))
  · exact (h.marker key hkey).owe id (fun _ => id) fun _ => List.mem_cons_of_mem _

theorem mark (h : Accounted x) (key : ReshareSignatureReadyKey) :
    Accounted (x.owe
      { x.follower with ready := key :: x.follower.ready.filter (· ≠ key) } k
      (.marker key :: x.duties k)) := by
  refine ⟨h.session, h.seat, fun ringKey attempt hslot => ?_, fun other hother => ?_⟩
  · exact (h.slot ringKey attempt hslot).imp_right (.owe · (List.mem_cons_of_mem _))
  · rcases List.mem_cons.mp hother with heq | hmem
    · rw [heq]
      exact .inr (.inr (.inl (Watched.owed_owe List.mem_cons_self)))
    · exact (h.marker other (List.mem_of_mem_filter hmem)).owe id (fun _ => id)
        fun _ => List.mem_cons_of_mem _

theorem reserve (h : Accounted x) {ringKey : Option String}
    (hnone : x.follower.sessions attempt.ceremonyId = none)
    (hseated : Seated x.follower (x.follower.reserve attempt ringKey)) :
    Accounted (x.owe (x.follower.reserve attempt ringKey) k (x.duties k)) := by
  have hself : (x.follower.reserve attempt ringKey).sessions attempt.ceremonyId =
      some ⟨.reserved attempt, ringKey⟩ := sessions_set_self ..
  have hother : ∀ other, other ≠ attempt.ceremonyId →
      (x.follower.reserve attempt ringKey).sessions other = x.follower.sessions other :=
    fun other hne => sessions_set_of_ne hne ..
  have hlive : ∀ owner, x.follower.Live owner →
      (x.follower.reserve attempt ringKey).Live owner := by
    intro owner hlive
    by_cases heq : owner.ceremonyId = attempt.ceremonyId
    · rw [Live, heq, hnone] at hlive
      cases hlive
    · rw [Live, hother _ heq]
      exact hlive
  refine ⟨fun other session hsession => ?_, fun key owner howner session hsession => ?_,
    fun key owner howner => ?_, fun key hkey => ?_⟩
  · by_cases heq : other = attempt.ceremonyId
    · rw [heq, Watched.owe, hself] at hsession
      cases hsession
      exact ⟨attempt, rfl, heq.symm⟩
    · rw [Watched.owe, hother _ heq] at hsession
      exact h.session other session hsession
  · exact hseated.of_slot howner hsession
  · exact (h.slot key owner howner).imp (hlive owner) (.owe · id)
  · exact (h.marker key hkey).owe (hlive key.attempt) (fun _ => id) fun _ => id

/-- What is left to do after a session was removed. -/
def removal (session : Session) (completed : Bool) : List Duty :=
  session.attempt.toList.flatMap fun attempt =>
    session.ringKey.toList.map (fun ringKey => .slot ringKey attempt) ++
      if completed then [] else [.markers attempt]

theorem removal_eq (h : session.attempt = some attempt) {completed : Bool} :
    removal session completed =
      claimed attempt session.ringKey ++ if completed then [] else [.markers attempt] := by
  rw [removal, h]
  exact List.flatMap_singleton ..

theorem drop (h : Accounted x) {ceremonyId : CeremonyId}
    (hsession : x.follower.sessions ceremonyId = some session) (completed : Bool) :
    Accounted (x.owe (x.follower.drop ceremonyId session completed) k
      (removal session completed ++ x.duties k)) := by
  obtain ⟨attempt, hattempt, hceremony⟩ := h.session ceremonyId session hsession
  have hself : (x.follower.drop ceremonyId session completed).sessions ceremonyId = none :=
    sessions_set_self ..
  have hother : ∀ other, other ≠ ceremonyId →
      (x.follower.drop ceremonyId session completed).sessions other =
        x.follower.sessions other :=
    fun other hne => sessions_set_of_ne hne ..
  have hlive : ∀ owner, owner ≠ attempt → x.follower.Live owner →
      (x.follower.drop ceremonyId session completed).Live owner := by
    intro owner hne hlive
    by_cases heq : owner.ceremonyId = ceremonyId
    · rw [Live, heq, hsession] at hlive
      exact absurd (Option.some.inj (hlive.symm.trans hattempt)) hne
    · rw [Live, hother _ heq]
      exact hlive
  refine ⟨fun other session' hsession' => ?_, fun key owner howner session' hsession' => ?_,
    fun key owner howner => ?_, fun key hkey => ?_⟩
  · by_cases heq : other = ceremonyId
    · rw [heq, Watched.owe, hself] at hsession'
      cases hsession'
    · rw [Watched.owe, hother _ heq] at hsession'
      exact h.session other session' hsession'
  · by_cases heq : owner.ceremonyId = ceremonyId
    · rw [heq, Watched.owe, hself] at hsession'
      cases hsession'
    · rw [Watched.owe, hother _ heq] at hsession'
      exact h.seat key owner howner session' hsession'
  · by_cases heq : owner = attempt
    · have hkey : session.ringKey = some key := by
        refine (h.seat key owner howner session ?_).2
        rw [heq, hceremony]
        exact hsession
      refine .inr (Watched.owed_owe (List.mem_append_left _ ?_))
      rw [removal_eq hattempt, hkey, heq]
      exact List.mem_cons_self
    · exact (h.slot key owner howner).imp (hlive owner heq) (.owe · (List.mem_append_right _))
  · by_cases heq : key.attempt = attempt
    · cases completed with
      | true =>
        refine .inr (.inl (List.mem_append_left _ ?_))
        rw [hattempt, heq]
        exact List.mem_cons_self
      | false =>
        refine .inr (.inr (.inr (Watched.owed_owe (List.mem_append_left _ ?_))))
        rw [removal_eq hattempt, heq]
        exact List.mem_append_right _ List.mem_cons_self
    · exact (h.marker key hkey).owe (hlive key.attempt heq) (fun _ => List.mem_append_right _)
        fun _ => List.mem_append_right _

end Accounted

/-! ## Contracts -/

def Input.ceremonyId : Input → Option CeremonyId
  | .prepare _ request => some request.ceremonyId
  | .activate _ attempt _ _ | .begin _ attempt _ | .abort _ attempt _ | .release _ attempt
  | .finish attempt _ => some attempt.ceremonyId
  | .markReady key => some key.attempt.ceremonyId
  | .dropReady _ => none
  | .abortPreparation ceremonyId _ | .expire ceremonyId => some ceremonyId

/-- A Prepare and a release name the attempt for which they act. -/
def Input.Names : Input → AttemptKey → Prop
  | .prepare _ request, attempt => request.attempt = attempt
  | .release _ owner, attempt => owner = attempt
  | _, _ => False

theorem Input.Names.ceremonyId {input : Input} (h : input.Names attempt) :
    input.ceremonyId = some attempt.ceremonyId := by
  cases input with
  | prepare sender request | release ringKey owner =>
    exact congrArg (some ∘ AttemptKey.ceremonyId) h
  | activate | begin | abort | markReady | dropReady | finish | abortPreparation | expire =>
    exact h.elim

/-- The duty is about the handler's ceremony. -/
def Input.Handles (input : Input) (duty : Duty) : Prop :=
  input.ceremonyId = some duty.attempt.ceremonyId

/-- The handler may release the slots of the attempt: it is about the attempt's ceremony, and acts
for the attempt, or a session of the attempt has ended. -/
def MayRelease (input : Input) (s : Follower) (attempt : AttemptKey) : Prop :=
  input.ceremonyId = some attempt.ceremonyId ∧
    (input.Names attempt ∨ ∃ completed, (attempt, completed) ∈ s.ended)

theorem Input.Names.mayRelease {input : Input} (h : input.Names attempt) (s : Follower) :
    MayRelease input s attempt := ⟨h.ceremonyId, .inl h⟩

/-- A slot is taken from its owner by being released. -/
def Releases (input : Input) (s s' : Follower) : Prop :=
  ∀ ringKey attempt, s.ringsPss.lookup ringKey = some attempt →
    s'.ringsPss.lookup ringKey = some attempt ∨
      s'.ringsPss.lookup ringKey = none ∧ MayRelease input s attempt

def slotShared : Shared Follower Watched := ⟨Watched.follower, Accounted, Seated⟩

/-- The others leave the duties of a handler alone.  Its duties are about its ceremony. -/
def slotContract (input : Input) (k : ℕ) : Contract Watched where
  rely x y := y.duties k = x.duties k ∧ x.follower.ended ⊆ y.follower.ended
  guar x y := (∀ j, j ≠ k → y.duties j = x.duties j) ∧ x.follower.ended ⊆ y.follower.ended ∧
    Releases input x.follower y.follower ∧
    ∀ duty ∈ y.duties k, duty ∈ x.duties k ∨ input.Handles duty
  refl _ := ⟨rfl, List.Subset.refl _⟩
  trans hxy hyz := ⟨hyz.1.trans hxy.1, List.Subset.trans hxy.2 hyz.2⟩

abbrev slots (input : Input) (k : ℕ) : Interference Follower Watched :=
  ⟨slotShared, slotContract input k⟩

def Owes (k : ℕ) (duties : List Duty) (x : Watched) : Prop := x.duties k = duties

/-- A handler without duties has none afterwards. -/
abbrev Clean {α : Type} (input : Input) (k : ℕ) (p : FollowerM α) : Prop :=
  (slots input k).Outcome (Owes k []) p (fun _ => Owes k []) (Owes k [])

section

open Interference

variable {α : Type} {input : Input} {k : ℕ} {duties : List Duty}

theorem stable_owes : (slots input k).Stable (Owes k duties) :=
  fun _ _ _ h hrely => hrely.1.trans h

theorem stable_mayRelease (attempt : AttemptKey) :
    (slots input k).Stable fun x => MayRelease input x.follower attempt := by
  intro x y _ h hrely
  refine h.imp_right (Or.imp_right fun hended => ?_)
  obtain ⟨completed, hmem⟩ := hended
  exact ⟨completed, hrely.2 hmem⟩

variable {f : Answer → Follower → Follower × Except DkgError α} {post : α → Watched → Prop}
  {err : Watched → Prop}

theorem releases_of_eq {s : Follower} (h : s'.ringsPss = s.ringsPss) : Releases input s s' := by
  intro ringKey attempt hslot
  rw [h]
  exact .inl hslot

/-- What a step of a handler respects, after which it has the duties `next`. -/
structure Acts (input : Input) (k : ℕ) (x : Watched) (s : Follower) (next : List Duty) : Prop where
  ended : x.follower.ended ⊆ s.ended
  releases : Releases input x.follower s
  accounted : Accounted (x.owe s k next)
  handles : ∀ duty ∈ next, duty ∈ x.duties k ∨ input.Handles duty

theorem Acts.refl {x : Watched} (h : Accounted x) : Acts input k x x.follower (x.duties k) :=
  ⟨List.Subset.refl _, releases_of_eq rfl,
    h.shrink (fun _ => rfl) (fun _ _ => id) (fun _ => id) rfl, fun _ => .inl⟩

/-- Duties are dropped when they are settled. -/
theorem Acts.discharge {x : Watched} {s : Follower} {next : List Duty}
    (h : Acts input k x s (x.duties k)) (hduties : x.duties k = duties) (hsub : next ⊆ duties)
    (hsettled : ∀ duty ∈ duties, duty ∉ next → Settled s duty) : Acts input k x s next := by
  rw [← hduties] at hsub hsettled
  have hdrop : Accounted ((x.owe s k (x.duties k)).owe s k next) := by
    apply h.accounted.discharge
    rw [Watched.duties_owe]
    exact hsettled
  rw [Watched.owe_owe] at hdrop
  exact ⟨h.ended, h.releases, hdrop, fun _ hmem => .inl (hsub hmem)⟩

theorem outcome_step {pre : Watched → Prop} (hpre : (slots input k).Stable pre)
    (hpost : ∀ a, (slots input k).Stable (post a)) (herr : (slots input k).Stable err)
    (h : ∀ w x, Accounted x → pre x → Seated x.follower (f w x.follower).1 →
      ∃ next, Acts input k x (f w x.follower).1 next ∧
        (∀ a, (f w x.follower).2 = .ok a → post a (x.owe (f w x.follower).1 k next)) ∧
        ∀ e, (f w x.follower).2 = .error e → err (x.owe (f w x.follower).1 k next)) :
    (slots input k).Outcome pre (ExceptT.mk (Task.atomically f)) post err := by
  refine Ends.atomically hpre hpost (fun _ => herr) fun w x hinv hx hallowed => ?_
  obtain ⟨next, hacts, hok, herror⟩ := h w x hinv hx hallowed
  refine ⟨_, rfl, hacts.accounted, ⟨fun j hj => Watched.duties_owe_of_ne hj, hacts.ended,
    hacts.releases, ?_⟩, hok, herror⟩
  rw [Watched.duties_owe]
  exact hacts.handles

/-- A step that does not fail. -/
theorem outcome_act (next : α → List Duty)
    (h : ∀ w x, Accounted x → x.duties k = duties → Seated x.follower (f w x.follower).1 →
      ∃ a, (f w x.follower).2 = .ok a ∧ Acts input k x (f w x.follower).1 (next a)) :
    (slots input k).Outcome (Owes k duties) (ExceptT.mk (Task.atomically f))
      (fun a => Owes k (next a)) (Owes k []) := by
  refine outcome_step stable_owes (fun _ => stable_owes) stable_owes fun w x hinv hx hseated => ?_
  obtain ⟨a, ha, hacts⟩ := h w x hinv hx hseated
  refine ⟨next a, hacts, fun b hb => ?_, fun e he => ?_⟩
  · cases ha.symm.trans hb
    exact Watched.duties_owe
  · cases ha.symm.trans he

/-- A step that changes nothing; duties that are settled are dropped. -/
theorem outcome_read {f : Answer → Follower → Except DkgError α}
    (next : Except DkgError α → List Duty) (hsub : ∀ result, next result ⊆ duties)
    (h : ∀ w x, Accounted x → x.duties k = duties → ∀ duty ∈ duties,
      duty ∉ next (f w x.follower) → Settled x.follower duty) (herr : (slots input k).Stable err)
    (hfailed : ∀ e x, Owes k (next (.error e)) x → err x) : (slots input k).Outcome (Owes k duties)
      (ExceptT.mk (Task.atomically fun w s => (s, f w s)))
      (fun a => Owes k (next (.ok a))) err := by
  refine outcome_step stable_owes (fun _ => stable_owes) herr fun w x hinv hx _ => ?_
  refine ⟨next (f w x.follower), (Acts.refl hinv).discharge hx (hsub _) (h w x hinv hx),
    fun a ha => ?_, fun e he => ?_⟩
  · exact Watched.duties_owe.trans (congrArg next ha)
  · exact hfailed e _ (Watched.duties_owe.trans (congrArg next he))

theorem outcome_idle (f : Answer → Follower → Except DkgError α) :
    Clean input k (ExceptT.mk (Task.atomically fun w s => (s, f w s))) :=
  outcome_read (fun _ => []) (fun _ => List.Subset.refl _)
    (fun _ _ _ _ _ hmem => absurd hmem List.not_mem_nil) stable_owes fun _ _ h => h

theorem outcome_pure (a : α) :
    (slots input k).Outcome (Owes k duties) (pure a : FollowerM α) (fun _ => Owes k duties)
      (Owes k []) :=
  Ends.pure (fun _ _ h => h) stable_owes

theorem outcome_throw (e : DkgError) :
    (slots input k).Outcome (Owes k []) (throw e : FollowerM α) post (Owes k []) :=
  Ends.throw (fun _ _ h => h) stable_owes

theorem outcome_ofResult (result : Except DkgError α) :
    Clean input k (ofResult result) := by
  cases result with
  | ok a => exact outcome_pure a
  | error e => exact outcome_throw e

/-- A transition of a session keeps its attempt. -/
theorem outcome_withStateMut (ceremonyId : CeremonyId)
    {f : TransportLifecycle → TransportLifecycle × α} (missing : α)
    (hgrows : ∀ lifecycle, TransportLifecycle.Grows lifecycle (f lifecycle).1) :
    Clean input k (withStateMut ceremonyId f missing) := by
  refine outcome_act (fun _ => []) fun w x hinv hx _ => ?_
  rw [← hx]
  cases hsession : x.follower.sessions ceremonyId with
  | none => exact ⟨missing, rfl, .refl hinv⟩
  | some session =>
    obtain ⟨attempt, hattempt, -⟩ := hinv.session ceremonyId session hsession
    have hkept : Session.attempt { session with lifecycle := (f session.lifecycle).1 } =
        session.attempt := by
      rw [hattempt]
      exact (hgrows session.lifecycle).attempt attempt hattempt
    refine ⟨_, rfl, List.Subset.refl _, releases_of_eq rfl, ?_, fun _ => .inl⟩
    refine hinv.shrink (fun other => ?_) (fun _ _ => id) (fun _ => id) rfl
    by_cases heq : other = ceremonyId
    · simp only [heq, sessions_set_self, hsession, Option.map_some, hkept]
    · simp only [sessions_set_of_ne heq]

theorem outcome_quiet
    (h : ∀ w s, (f w s).1.sessions = s.sessions ∧ (f w s).1.ringsPss = s.ringsPss ∧
      (f w s).1.ready = s.ready ∧ (f w s).1.ended = s.ended) :
    Clean input k (ExceptT.mk (Task.atomically f)) := by
  refine outcome_step stable_owes (fun _ => stable_owes) stable_owes fun w x hinv hx _ => ?_
  obtain ⟨hsessions, hslots, hready, hended⟩ := h w x.follower
  refine ⟨x.duties k, ⟨by rw [hended]; exact List.Subset.refl _, releases_of_eq hslots, ?_,
    fun _ => .inl⟩, fun _ _ => Watched.duties_owe.trans hx, fun _ _ => Watched.duties_owe.trans hx⟩
  refine hinv.shrink (fun _ => by rw [hsessions]) (fun _ _ => ?_) (fun _ => ?_) hended
  · rw [hslots]
    exact id
  · rw [hready]
    exact id

/-! ## Claims and releases -/

/-- The slot is taken from the owner that passes the test. -/
theorem outcome_unmarkRingPss {ringKey : String} {owner : AttemptKey → Bool} {next : List Duty}
    {fact : Watched → Prop} (hfact : (slots input k).Stable fact)
    (hrelease : ∀ x, fact x → ∀ attempt, owner attempt → MayRelease input x.follower attempt)
    (hsub : next ⊆ duties) (hnext : ∀ duty ∈ duties, duty ∉ next →
      ∃ attempt, duty = .slot ringKey attempt ∧ owner attempt) :
    (slots input k).Outcome (fun x => Owes k duties x ∧ fact x)
      (unmarkRingPss ringKey owner) (fun _ => Owes k next) (Owes k []) := by
  refine outcome_step (stable_owes.and hfact) (fun _ => stable_owes) stable_owes ?_
  rintro w x hinv ⟨hx, hx'⟩ -
  -- What was claimed by an attempt that passes the test is claimed no longer.
  have hgone : ∀ s : Follower,
      (∀ attempt, owner attempt → s.ringsPss.lookup ringKey ≠ some attempt) →
      Acts input k x s (x.duties k) → Acts input k x s next := by
    refine fun s hfree hs => hs.discharge hx hsub fun duty hmem hnot => ?_
    obtain ⟨attempt, rfl, howner⟩ := hnext duty hmem hnot
    exact fun hslot => absurd hslot (hfree attempt howner)
  by_cases hany : (x.follower.ringsPss.lookup ringKey).any owner = true
  · simp only [hany, ↓reduceIte]
    refine ⟨next, hgone _ ?_ ⟨List.Subset.refl _, fun other attempt hslot => ?_, ?_, fun _ => .inl⟩,
      fun _ _ => Watched.duties_owe, fun _ h => nomatch h⟩
    · intro attempt _ hslot
      rw [AList.lookup_erase] at hslot
      cases hslot
    · by_cases heq : other = ringKey
      · rw [heq] at hslot ⊢
        rw [hslot] at hany
        exact .inr ⟨AList.lookup_erase .., hrelease x hx' attempt hany⟩
      · exact .inl ((AList.lookup_erase_ne heq).trans hslot)
    · refine hinv.shrink (fun _ => rfl) (fun other attempt hslot => ?_) (fun _ => id) rfl
      by_cases heq : other = ringKey
      · rw [heq, AList.lookup_erase] at hslot
        cases hslot
      · rwa [AList.lookup_erase_ne heq] at hslot
  · simp only [hany, Bool.false_eq_true, ↓reduceIte]
    refine ⟨next, hgone _ (fun attempt howner hslot => ?_) (.refl hinv),
      fun _ _ => Watched.duties_owe, fun _ h => nomatch h⟩
    rw [hslot] at hany
    exact hany howner

theorem outcome_claimRingPssAttempt {ringKey : String} (hnames : input.Names attempt) :
    (slots input k).Outcome (Owes k []) (claimRingPssAttempt ringKey attempt)
      (fun outcome => Owes k (match outcome with
        | .claimed | .alreadyClaimedBySameSession => [.slot ringKey attempt]
        | .conflict _ => [])) (Owes k []) := by
  refine outcome_act _ fun w x hinv hx hseated => ?_
  have hhandles : ∀ duty ∈ [Duty.slot ringKey attempt], duty ∈ x.duties k ∨ input.Handles duty := by
    intro duty hmem
    rw [List.mem_singleton.mp hmem]
    exact .inr hnames.ceremonyId
  cases hslot : x.follower.ringsPss.lookup ringKey with
  | none =>
    simp only [hslot] at hseated ⊢
    refine ⟨_, rfl, List.Subset.refl _, fun other owner howner => ?_, ?_, hhandles⟩
    · have hne : other ≠ ringKey := by
        rintro rfl
        rw [hslot] at howner
        cases howner
      exact .inl ((AList.lookup_insert_ne hne).trans howner)
    · rw [← hx]
      exact hinv.claim fun session => hseated.of_slot (AList.lookup_insert _)
  | some existing =>
    simp only
    by_cases hsame : existing = attempt
    · refine ⟨_, congrArg Except.ok (if_pos hsame), List.Subset.refl _, releases_of_eq rfl,
        hinv.discharge ?_, hhandles⟩
      rw [hx]
      exact fun _ hmem => nomatch hmem
    · exact ⟨_, congrArg Except.ok (if_neg hsame), hx ▸ .refl hinv⟩

variable {ringKey : Option String}

theorem mem_claimed {duty : Duty} (h : duty ∈ claimed attempt ringKey) :
    ∃ key, ringKey = some key ∧ duty = .slot key attempt := by
  obtain ⟨key, hkey, heq⟩ := List.mem_map.mp h
  exact ⟨key, Option.mem_toList.mp hkey, heq.symm⟩

/-- A slot whose owner's ceremony has a session needs no handler. -/
theorem settled_claimed {x : Watched} (h : Accounted x) {duty : Duty}
    (hmem : duty ∈ claimed attempt ringKey)
    (hsession : x.follower.sessions attempt.ceremonyId = some session) :
    Settled x.follower duty := by
  obtain ⟨key, -, rfl⟩ := mem_claimed hmem
  exact fun hslot => live_of_session hsession (h.seat key attempt hslot session hsession).1

theorem outcome_claimSlot (hnames : input.Names attempt) :
    (slots input k).Outcome (Owes k []) (claimSlot attempt ringKey)
      (fun _ => Owes k (claimed attempt ringKey)) (Owes k []) := by
  cases ringKey with
  | none => exact outcome_pure ()
  | some ringKey =>
    refine (outcome_claimRingPssAttempt hnames).bind fun outcome => ?_
    cases outcome with
    | claimed | alreadyClaimedBySameSession => exact outcome_pure ()
    | conflict active => exact outcome_throw _

theorem outcome_sessionExists (attempt : AttemptKey) (ringKey : Option String) :
    (slots input k).Outcome (Owes k (claimed attempt ringKey))
      (inspect fun s => (s.sessions attempt.ceremonyId).isSome)
      (fun sessionExists : Bool => Owes k (if sessionExists then [] else claimed attempt ringKey))
      (Owes k []) := by
  refine outcome_read (fun result : Except DkgError Bool => match result with
    | .ok sessionExists => if sessionExists then [] else claimed attempt ringKey
    | .error _ => []) (fun result => ?_) (fun w x hinv hx duty hmem hnot => ?_) stable_owes
    fun _ _ h => h
  · match result with
    | .error _ | .ok true => exact List.nil_subset _
    | .ok false => exact List.Subset.refl _
  cases hsession : x.follower.sessions attempt.ceremonyId with
  | some session => exact settled_claimed hinv hmem hsession
  | none =>
    simp only [hsession, Option.isSome_none, Bool.false_eq_true, ↓reduceIte] at hnot
    exact absurd hmem hnot

theorem outcome_createSession (attempt : AttemptKey) (ringKey : Option String) :
    (slots input k).Outcome (Owes k (claimed attempt ringKey)) (createSession attempt ringKey)
      (fun outcome => Owes k (match outcome with
        | .created | .alreadyExists => []
        | .refused _ => claimed attempt ringKey)) (Owes k []) := by
  refine outcome_act _ fun w x hinv hx hseated => ?_
  cases hsession : x.follower.sessions attempt.ceremonyId with
  | some session =>
    exact ⟨_, rfl, (Acts.refl hinv).discharge hx (List.nil_subset _)
      fun duty hmem _ => settled_claimed hinv hmem hsession⟩
  | none =>
    cases houtage : w.outage with
    | some e => exact ⟨_, rfl, hx ▸ .refl hinv⟩
    | none =>
      simp only [hsession, houtage] at hseated ⊢
      have hreserved := hinv.reserve hsession hseated (k := k)
      refine ⟨_, rfl, Acts.discharge ⟨List.Subset.refl _, releases_of_eq rfl, hreserved,
        fun _ => .inl⟩ hx (List.nil_subset _) fun duty hmem _ => ?_⟩
      exact settled_claimed hreserved hmem (sessions_set_self ..)

theorem outcome_unclaimSlot (hnames : input.Names attempt) :
    (slots input k).Outcome (Owes k (claimed attempt ringKey))
      (unclaimSlot attempt ringKey) (fun _ => Owes k []) (Owes k []) := by
  cases ringKey with
  | none => exact outcome_pure ()
  | some ringKey =>
    refine (outcome_unmarkRingPss stable_true (fun _ _ owner howner => ?_) (List.nil_subset _)
      fun duty hmem _ => ?_).mono (fun _ _ h => ⟨h, trivial⟩) (fun _ _ _ h => h) fun _ _ h => h
    · rw [of_decide_eq_true howner]
      exact hnames.mayRelease _
    · obtain ⟨key, hkey, hduty⟩ := mem_claimed hmem
      cases hkey
      exact ⟨attempt, hduty, decide_eq_true rfl⟩

theorem outcome_handleSessionInit {kind : SessionKind} (hnames : input.Names attempt) :
    Clean input k (handleSessionInit attempt kind) := by
  refine (outcome_idle _).bind fun _ => (outcome_claimSlot hnames).bind fun _ => ?_
  refine (outcome_sessionExists attempt kind.ringKey).bind fun sessionExists => ?_
  cases sessionExists with
  | true => exact outcome_pure ()
  | false =>
    refine (outcome_createSession attempt kind.ringKey).bind fun outcome => ?_
    cases outcome with
    | created | alreadyExists => exact outcome_pure ()
    | refused e => exact (outcome_unclaimSlot hnames).bind fun _ => outcome_throw e

/-! ## Removals and markers -/

theorem outcome_retainReady {keep : ReshareSignatureReadyKey → Bool} {next : List Duty}
    (hsub : next ⊆ duties) (hnext : ∀ duty ∈ duties, duty ∉ next → ∀ s : Follower,
      (∀ key ∈ s.ready, keep key = true) → Settled s duty) :
    (slots input k).Outcome (Owes k duties) (retainReady keep) (fun _ => Owes k next)
      (Owes k []) := by
  refine outcome_act (fun _ => next) fun w x hinv hx _ => ⟨_, rfl, Acts.discharge
    ⟨List.Subset.refl _, releases_of_eq rfl, ?_, fun _ => .inl⟩ hx hsub fun duty hmem hnot => ?_⟩
  · exact hinv.shrink (fun _ => rfl) (fun _ _ => id) (fun _ => List.mem_of_mem_filter) rfl
  · exact hnext duty hmem hnot _ fun key hkey => (List.mem_filter.mp hkey).2

theorem attempt_of_removal {completed : Bool} (h : session.attempt = some attempt) {duty : Duty}
    (hmem : duty ∈ Accounted.removal session completed) : duty.attempt = attempt := by
  rw [Accounted.removal_eq h] at hmem
  rcases List.mem_append.mp hmem with hslot | hmarkers
  · obtain ⟨key, -, rfl⟩ := mem_claimed hslot
    rfl
  · cases completed with
    | true => cases hmarkers
    | false =>
      rw [List.mem_singleton.mp hmarkers]
      rfl

variable {ceremonyId : CeremonyId}

theorem outcome_removeIf (hinput : input.ceremonyId = some ceremonyId) (test : Session → Bool)
    (completed : Bool) : (slots input k).Outcome (Owes k []) (removeIf ceremonyId test completed)
      (fun removed x => match removed with
        | none => Owes k [] x
        | some session => ∃ attempt, session.attempt = some attempt ∧
            Owes k (Accounted.removal session completed) x ∧
            MayRelease input x.follower attempt) (Owes k []) := by
  refine outcome_step stable_owes (fun removed => ?_) stable_owes fun w x hinv hx _ => ?_
  · cases removed with
    | none => exact stable_owes
    | some session =>
      rintro y z hy ⟨attempt, hattempt, howes, hmay⟩ hrely
      exact ⟨attempt, hattempt, hrely.1.trans howes, stable_mayRelease attempt y z hy hmay hrely⟩
  have hsame : Acts input k x x.follower [] := hx ▸ .refl hinv
  cases hsession : x.follower.sessions ceremonyId with
  | none =>
    refine ⟨[], hsame, fun _ h => ?_, fun _ h => nomatch h⟩
    cases h
    exact Watched.duties_owe
  | some session =>
    cases htest : test session with
    | false =>
      simp only [htest, Bool.false_eq_true, ↓reduceIte]
      refine ⟨[], hsame, fun _ h => ?_, fun _ h => nomatch h⟩
      cases h
      exact Watched.duties_owe
    | true =>
      simp only [htest, ↓reduceIte]
      obtain ⟨attempt, hattempt, hceremony⟩ := hinv.session ceremonyId session hsession
      refine ⟨_, ⟨fun _ => List.mem_append_right _, releases_of_eq rfl,
        hinv.drop hsession completed,
        fun duty hmem => ?_⟩, fun _ h => ?_, fun _ h => nomatch h⟩
      · refine (List.mem_append.mp hmem).symm.imp_right fun hmem => ?_
        rw [Input.Handles, attempt_of_removal hattempt hmem, hceremony]
        exact hinput
      cases h
      refine ⟨attempt, hattempt, Watched.duties_owe.trans ?_, hceremony ▸ hinput,
        .inr ⟨completed, ?_⟩⟩
      · rw [hx, List.append_nil]
      · refine List.mem_append_left _ ?_
        rw [hattempt]
        exact List.mem_cons_self

theorem outcome_releaseSlotOf (hattempt : session.attempt = some attempt) {rest : List Duty} :
    (slots input k).Outcome
      (fun x => Owes k (claimed attempt session.ringKey ++ rest) x ∧
        MayRelease input x.follower attempt)
      (releaseSlotOf ceremonyId session) (fun _ => Owes k rest) (Owes k []) := by
  unfold releaseSlotOf
  rw [hattempt]
  cases session.ringKey with
  | none => exact Ends.pure (fun _ _ h => h.1) stable_owes
  | some ringKey =>
    refine outcome_unmarkRingPss (stable_mayRelease attempt) (fun x hmay owner howner => ?_)
      (List.subset_append_right _ _) fun duty hmem hnot => ?_
    · rw [of_decide_eq_true howner]
      exact hmay
    · rcases List.mem_append.mp hmem with hslot | hrest
      · obtain ⟨key, hkey, hduty⟩ := mem_claimed hslot
        cases hkey
        exact ⟨attempt, hduty, decide_eq_true rfl⟩
      · exact absurd hrest hnot

theorem outcome_removeSession (hinput : input.ceremonyId = some ceremonyId) (test : Session → Bool)
    (completed : Bool) :
    Clean input k (removeSession ceremonyId test completed) := by
  refine (outcome_removeIf hinput test completed).bind fun removed => ?_
  cases removed with
  | none => exact outcome_pure ()
  | some session =>
    rintro x hx ⟨attempt, hattempt, howes, hmay⟩
    rw [Accounted.removal_eq hattempt] at howes
    refine ((outcome_releaseSlotOf hattempt).bind fun _ => ?_) x hx ⟨howes, hmay⟩
    cases completed with
    | true => exact outcome_pure ()
    | false =>
      refine outcome_retainReady (List.nil_subset _) fun duty hmem _ s hkept => ?_
      rw [List.mem_singleton.mp hmem]
      intro key hkey heq
      have hne := of_decide_eq_true (hkept key hkey)
      rw [hattempt, heq] at hne
      exact hne rfl

theorem live_of_withAttemptState {s : Follower} {f : Session → α} {a : α}
    (h : s.withAttemptState attempt f = .ok a) : s.Live attempt := by
  unfold withAttemptState at h
  cases hsession : s.sessions attempt.ceremonyId with
  | none => simp only [hsession, reduceCtorEq] at h
  | some session =>
    by_cases hne : session.attempt ≠ some attempt
    · simp only [hsession, if_pos hne, reduceCtorEq] at h
    · exact live_of_session hsession (not_not.mp hne)

theorem outcome_markReady {key : ReshareSignatureReadyKey}
    (hinput : input.ceremonyId = some key.attempt.ceremonyId) :
    Clean input k (markReshareSignatureReadyForAttempt key) := by
  refine (outcome_idle _).bind fun before => ?_
  cases before with
  | error e => exact outcome_pure false
  | ok _ =>
    have hmark : (slots input k).Outcome (Owes k []) (ExceptT.mk (Task.atomically fun _ s =>
        ({ s with ready := key :: s.ready.filter (· ≠ key) }, .ok ())) : FollowerM Unit)
        (fun _ => Owes k [.marker key]) (Owes k []) := by
      refine outcome_act (fun _ => [.marker key]) fun w x hinv hx _ =>
        ⟨_, rfl, List.Subset.refl _, releases_of_eq rfl, ?_, fun duty hmem => ?_⟩
      · rw [← hx]
        exact hinv.mark key
      · rw [List.mem_singleton.mp hmem]
        exact .inr hinput
    have hlook : (slots input k).Outcome (Owes k [.marker key])
        (inspect (withAttemptState key.attempt fun _ => ()))
        (fun result => Owes k (if result.isOk then [] else [.marker key])) (Owes k []) := by
      refine outcome_read (fun result : Except DkgError (Except DkgError Unit) =>
        match result with
        | .ok looked => if looked.isOk then [] else [.marker key]
        | .error _ => []) (fun result => ?_) (fun w x hinv hx duty hmem hnot => ?_) stable_owes
        fun _ _ h => h
      · match result with
        | .error _ | .ok (.ok _) => exact List.nil_subset _
        | .ok (.error _) => exact List.Subset.refl _
      rw [List.mem_singleton.mp hmem] at hnot ⊢
      cases hlive : x.follower.withAttemptState key.attempt fun _ => () with
      | ok _ => exact fun _ => live_of_withAttemptState hlive
      | error e =>
        simp only [hlive, Except.isOk, Except.toBool, Bool.false_eq_true, ↓reduceIte,
          List.mem_singleton, not_true_eq_false] at hnot
    refine hmark.bind fun _ => hlook.bind fun after => ?_
    cases after with
    | ok _ => exact outcome_pure true
    | error e =>
      refine Outcome.bind (outcome_retainReady (List.nil_subset _) fun duty hmem _ s hkept => ?_)
        fun _ => outcome_pure false
      rw [List.mem_singleton.mp hmem]
      intro hkey
      exact absurd rfl (of_decide_eq_true (hkept key hkey))

/-! ## Handlers -/

theorem outcome_validateLeaderSender (ceremonyId : CeremonyId) (sender : Bytes) :
    Clean input k (validateLeaderSender ceremonyId sender) :=
  (outcome_idle _).bind fun _ => (outcome_ofResult _).bind fun _ => (outcome_idle _).bind fun _ =>
    (outcome_ofResult _).bind fun _ => outcome_ofResult _

theorem outcome_validateLeaderSenderForAttempt (attempt : AttemptKey) (sender : Bytes) :
    Clean input k (validateLeaderSenderForAttempt attempt sender) :=
  (outcome_idle _).bind fun _ => (outcome_ofResult _).bind fun _ => (outcome_ofResult _).bind
    fun _ => outcome_ofResult _

theorem outcome_onAbort {sender : Bytes} {reason : String}
    (hinput : input.ceremonyId = some attempt.ceremonyId) :
    Clean input k (onAbort sender attempt reason) :=
  (outcome_validateLeaderSenderForAttempt attempt sender).bind fun _ =>
    (outcome_removeSession hinput _ false).bind fun _ => outcome_pure _

variable [Sha256] [NodeSigning] (signingKeyHex nodeKey : String)

theorem outcome_sign (kind : AckKind) (attempt : AttemptKey) (digest : Bytes32) :
    Clean input k (sign signingKeyHex nodeKey kind attempt digest) := by
  refine outcome_quiet fun w s => ?_
  cases w.outage with
  | some e => exact ⟨rfl, rfl, rfl, rfl⟩
  | none =>
    cases signControlMessage signingKeyHex nodeKey w.now attempt.ceremonyId attempt.attemptId
      kind.label digest with
    | error e | ok signature => exact ⟨rfl, rfl, rfl, rfl⟩

theorem outcome_acknowledgeConfigured (prepare : PrepareSession) :
    Clean input k (acknowledgeConfigured signingKeyHex nodeKey prepare) := by
  refine (outcome_idle _).bind fun configuration => ?_
  match configuration with
  | none => exact outcome_pure none
  | some (attempt, digest) =>
    simp only
    split_ifs with hsame
    · exact (outcome_sign signingKeyHex nodeKey _ _ _).bind fun _ => outcome_pure _
    · exact outcome_throw _

theorem outcome_configure (prepare : PrepareSession) (leaderRoute : String) :
    Clean input k (configure signingKeyHex nodeKey prepare leaderRoute) := by
  refine (outcome_idle _).bind fun _ => Outcome.bind (outcome_withStateMut _ _
    (TransportLifecycle.configureTransport_grows _ _)) fun outcome => ?_
  cases outcome with
  | conflictingAttempt | missingSession => exact outcome_throw _
  | configured | alreadyConfigured => exact outcome_sign signingKeyHex nodeKey _ _ _

theorem outcome_onBegin (sender : Bytes) (attempt : AttemptKey) (digest : Bytes32) :
    Clean input k (onBegin signingKeyHex nodeKey sender attempt digest) := by
  refine (outcome_validateLeaderSender _ _).bind fun _ => Outcome.bind (outcome_withStateMut _ _
    (TransportLifecycle.beginTransport_grows _ _)) fun outcome => ?_
  cases outcome with
  | notActivated | staleAttempt | missingSession => exact outcome_throw _
  | begun | alreadyBegun => exact outcome_sign signingKeyHex nodeKey _ _ _

variable [LawfulSha256]

theorem outcome_onActivate [Serde (List ParticipantRef)] (sender : Bytes) (attempt : AttemptKey)
    (digest : Bytes32) (activeDealers : List ParticipantRef) :
    Clean input k (onActivate signingKeyHex nodeKey sender attempt digest activeDealers) := by
  refine (outcome_validateLeaderSender _ _).bind fun _ => (outcome_idle _).bind fun _ => ?_
  refine (outcome_ofResult _).bind fun _ => (outcome_ofResult _).bind fun _ => ?_
  refine Outcome.bind (outcome_withStateMut _ _ (TransportLifecycle.activateTransport_grows _ _ _))
    fun outcome => ?_
  cases outcome with
  | staleAttempt | missingSession => exact outcome_throw _
  | activated | alreadyActivated => exact outcome_sign signingKeyHex nodeKey _ _ _

variable [Serde SessionKind]

theorem outcome_prepareParticipant {sender : Bytes} {prepare : PrepareSession}
    (hnames : input.Names prepare.attempt) :
    Clean input k (prepareParticipant signingKeyHex nodeKey sender prepare) := by
  refine (outcome_ofResult _).bind fun leaderRoute => ?_
  refine (outcome_acknowledgeConfigured signingKeyHex nodeKey prepare).bind fun reply => ?_
  cases reply with
  | some reply => exact outcome_pure _
  | none =>
    refine (outcome_idle _).bind fun _ => ?_
    refine (outcome_handleSessionInit hnames).bind fun _ => ?_
    refine (outcome_acknowledgeConfigured signingKeyHex nodeKey prepare).bind fun reply => ?_
    cases reply with
    | some reply => exact outcome_pure _
    | none => exact outcome_configure signingKeyHex nodeKey prepare leaderRoute

variable [Serde (List ParticipantRef)]

theorem outcome_handle :
    Clean input k (handle signingKeyHex nodeKey input) := by
  have hthen : ∀ {α : Type} {p : FollowerM α} {f : α → Option ControlReply},
      Clean input k p → Clean input k (do let a ← p; pure (f a)) :=
    fun hp => hp.bind fun _ => outcome_pure _
  cases input with
  | prepare sender request =>
    exact hthen (outcome_prepareParticipant signingKeyHex nodeKey rfl)
  | activate sender attempt digest activeDealers =>
    exact hthen (outcome_onActivate signingKeyHex nodeKey sender attempt digest activeDealers)
  | begin sender attempt digest =>
    exact hthen (outcome_onBegin signingKeyHex nodeKey sender attempt digest)
  | abort sender attempt reason => exact hthen (outcome_onAbort rfl)
  | markReady key => exact hthen (outcome_markReady rfl)
  | dropReady keys =>
    refine hthen (outcome_retainReady (List.nil_subset _) fun _ hmem => ?_)
    exact absurd hmem List.not_mem_nil
  | release ringKey attempt =>
    refine hthen ((outcome_unmarkRingPss stable_true (fun _ _ owner howner => ?_)
      (List.nil_subset _) fun _ hmem => ?_).mono (fun _ _ h => ⟨h, trivial⟩) (fun _ _ _ h => h)
      fun _ _ h => h)
    · have hnames : (Input.release ringKey attempt).Names owner := (of_decide_eq_true howner).symm
      exact hnames.mayRelease _
    · exact absurd hmem List.not_mem_nil
  | finish attempt completed => exact hthen (outcome_removeSession rfl _ completed)
  | abortPreparation ceremonyId attemptId | expire ceremonyId =>
    exact hthen (outcome_removeSession rfl _ false)

end

/-! ## Runs -/

def Quiet (pool : Pool Input Answer Follower (Except DkgError (Option ControlReply)))
    (ceremonyId : CeremonyId) : Prop :=
  ∀ entry ∈ pool.tasks, entry.1.ceremonyId = some ceremonyId → entry.2.result.isSome

instance (pool : Pool Input Answer Follower (Except DkgError (Option ControlReply)))
    (ceremonyId : CeremonyId) : Decidable (Quiet pool ceremonyId) :=
  inferInstanceAs (Decidable (∀ entry ∈ pool.tasks, _))

def unwatched (s : Follower) : Watched := ⟨s, fun _ => []⟩

/-- All handlers keep the accounts, and the duties that are left are those of running handlers. -/
structure Audited (pool : Pool Input Answer Follower (Except DkgError (Option ControlReply)))
    (x : Watched) : Prop where
  accounted : Accounted x
  safe : pool.SafeAt slotShared.proj Seated (fun input k => (slots input k).contract)
    (fun _ k _ y => Accounted y ∧ Owes k [] y) (unwatched idle) x
  handles : ∀ k, ∀ duty ∈ x.duties k, ∃ entry, pool.tasks[k]? = some entry ∧ entry.1.Handles duty

namespace Audited

variable {pool : Pool Input Answer Follower (Except DkgError (Option ControlReply))} {x : Watched}

theorem follower (h : Audited pool x) : x.follower = pool.state := h.safe.state

theorem duties_of_finished (h : Audited pool x) {k : ℕ}
    {entry : Input × Task Answer Follower (Except DkgError (Option ControlReply))}
    (hget : pool.tasks[k]? = some entry) (hfinished : entry.2.result.isSome) : x.duties k = [] := by
  obtain ⟨input, t⟩ := entry
  cases t with
  | step act next => cases hfinished
  | done result =>
    have hdone := h.safe.started k input _ hget x ((slots input k).contract.refl x)
    exact hdone.2

theorem not_owed_of_quiet (h : Audited pool x) {duty : Duty}
    (hquiet : Quiet pool duty.attempt.ceremonyId) : ¬ x.Owed duty := by
  rintro ⟨k, hmem⟩
  obtain ⟨entry, hget, hhandles⟩ := h.handles k duty hmem
  rw [h.duties_of_finished hget (hquiet entry (List.mem_of_getElem? hget) hhandles)] at hmem
  cases hmem

/-- Once the handlers of its ceremony have finished, the owner of a slot has a session. -/
theorem session_of_slot (h : Audited pool x) {ringKey : String} {owner : AttemptKey}
    (hslot : pool.state.ringsPss.lookup ringKey = some owner)
    (hquiet : Quiet pool owner.ceremonyId) :
    ∃ session, pool.state.sessions owner.ceremonyId = some session ∧
      session.attempt = some owner ∧ session.ringKey = some ringKey := by
  rw [← h.follower] at hslot ⊢
  have hlive : x.follower.Live owner :=
    (h.accounted.slot ringKey owner hslot).resolve_right (h.not_owed_of_quiet hquiet)
  obtain ⟨session, hsession, -⟩ := Option.bind_eq_some_iff.mp hlive
  exact ⟨session, hsession, h.accounted.seat ringKey owner hslot session hsession⟩

end Audited

section

variable [Sha256] [LawfulSha256] [NodeSigning] [Serde SessionKind] [Serde (List ParticipantRef)]
  (signingKeyHex nodeKey : String)

theorem slots_compatible :
    Compatible slotShared.proj Seated (fun input k => (slots input k).contract)
      (handler signingKeyHex nodeKey) (fun _ k _ y => Accounted y ∧ Owes k [] y)
      (unwatched idle) fun _ => True := by
  refine compatible_of_outcome (S := slotShared) (fun hjk hguar => ?_)
    (fun _ _ => stable_owes) (fun input k _ => ?_) accounted_idle fun _ _ => rfl
  · exact ⟨hguar.1 _ (Ne.symm hjk), hguar.2.1⟩
  · exact outcome_handle signingKeyHex nodeKey

theorem audited_pool {schedule : List (Move Input Answer)}
    (hobeys : (Pool.empty idle).Obeys (handler signingKeyHex nodeKey) Seated schedule) :
    ∃ x, Audited (pool signingKeyHex nodeKey schedule) x := by
  obtain ⟨x, hsafe, hchain⟩ := (Pool.safeAt_empty (unwatched idle)).run
    (slots_compatible signingKeyHex nodeKey) (fun _ _ => trivial) hobeys
  have hinv : Accounted x ∧ ∀ k, ∀ duty ∈ x.duties k, ∃ entry,
      (pool signingKeyHex nodeKey schedule).tasks[k]? = some entry ∧ entry.1.Handles duty := by
    clear hsafe
    induction hchain with
    | refl => exact ⟨accounted_idle, fun _ _ hmem => nomatch hmem⟩
    | tail _ hstep ih =>
      obtain ⟨input, k, t, hget, hguar⟩ := hstep
      obtain ⟨haccounted, hothers, -, -, howns⟩ := hguar ih.1
      refine ⟨haccounted, fun j duty hmem => ?_⟩
      by_cases hjk : j = k
      · rw [hjk] at hmem ⊢
        rcases howns duty hmem with hold | hhandles
        · exact ih.2 k duty hold
        · exact ⟨_, hget, hhandles⟩
      · rw [hothers j hjk] at hmem
        exact ih.2 j duty hmem
  exact ⟨x, hinv.1, hsafe, hinv.2⟩

/-- A slot is taken from its owner only by being released, by a handler of the owner's ceremony that
acts for the owner or after a session of the owner has ended.  Once the handlers of its ceremony
have finished, the owner of a slot has a session for the ring; so a ring without a session has a
free slot. -/
structure SlotsSound (pool : Pool Input Answer Follower (Except DkgError (Option ControlReply))) :
    Prop where
  exclusive : ∀ k answer next, next = pool.step (handler signingKeyHex nodeKey) (.resume k answer) →
    Seated pool.state next.state →
    ∀ ringKey owner, pool.state.ringsPss.lookup ringKey = some owner →
      next.state.ringsPss.lookup ringKey = some owner ∨
        next.state.ringsPss.lookup ringKey = none ∧
          ∃ entry, pool.tasks[k]? = some entry ∧ MayRelease entry.1 pool.state owner
  live : ∀ ringKey owner, pool.state.ringsPss.lookup ringKey = some owner →
    Quiet pool owner.ceremonyId →
    ∃ session, pool.state.sessions owner.ceremonyId = some session ∧
      session.attempt = some owner ∧ session.ringKey = some ringKey
  free : ∀ ringKey, (∀ ceremonyId, Quiet pool ceremonyId) →
    (∀ ceremonyId, ∀ session ∈ pool.state.sessions ceremonyId, session.ringKey ≠ some ringKey) →
    pool.state.ringsPss.lookup ringKey = none

/-- Slots are exclusive and do not leak. -/
theorem ring_slots_sound (schedule : List (Move Input Answer))
    (hobeys : (Pool.empty idle).Obeys (handler signingKeyHex nodeKey) Seated schedule) :
    SlotsSound signingKeyHex nodeKey (pool signingKeyHex nodeKey schedule) := by
  obtain ⟨x, hx⟩ := audited_pool signingKeyHex nodeKey hobeys
  refine ⟨?_, fun ringKey owner hslot hquiet => hx.session_of_slot hslot hquiet,
    fun ringKey hquiet hnone => ?_⟩
  · rintro k answer _ rfl hseated ringKey owner hslot
    obtain ⟨z, hz, hstep⟩ :=
      hx.safe.resume (slots_compatible signingKeyHex nodeKey) k answer hseated
    rw [← hz.state]
    rw [← hx.follower] at hslot ⊢
    rcases hstep with rfl | ⟨input, t, hget, hguar⟩
    · exact .inl hslot
    · obtain ⟨-, -, -, hreleases, -⟩ := hguar hx.accounted
      refine (hreleases ringKey owner hslot).imp_right fun hreleased => ?_
      exact ⟨hreleased.1, _, hget, hreleased.2⟩
  · cases hslot : (pool signingKeyHex nodeKey schedule).state.ringsPss.lookup ringKey with
    | none => rfl
    | some owner =>
      obtain ⟨session, hsession, -, hkey⟩ := hx.session_of_slot hslot (hquiet owner.ceremonyId)
      exact absurd hkey (hnone owner.ceremonyId session hsession)

end

end Follower

/-! ## A pair of nodes -/

namespace Pair

open scoped Plain Echo

scoped instance pairDealers : Serde (List ParticipantRef) := .known []

def zeros : Bytes32 := .repeated 0

def ones : Bytes32 := .repeated 1

def committee : CommitteeConfig where
  nodeKeys := ["a", "b"]
  peerRoutes := ["aa", "bb"]
  nodeIdAssignments := [⟨"a", 1⟩, ⟨"b", 2⟩].toAList
  threshold := 2
  fits := by decide +kernel

theorem fits_names : FitsU64 "a" ∧ (∀ policy ∈ (none : Option String), FitsU64 policy) ∧
    FitsU64 "ring" := by
  decide +kernel

def ceremony (kind : SessionKind) (attemptId : AttemptId) (configDigest : Bytes32) :
    PrepareSession where
  ceremonyId := 7
  attemptId := attemptId
  configDigest := configDigest
  topicId := zeros
  leaderNodeKey := "a"
  committees := ⟨committee, none⟩
  kind := kind
  pssInterval := 3600
  policyId := none
  ringId := "ring"
  reportSignature := none
  fits := fits_names

def prepare (kind : SessionKind) (attemptId : AttemptId) : Follower.Input :=
  .prepare [0xaa] (ceremony kind attemptId
    (match configDigest (ceremony kind attemptId zeros) with
      | .ok digest => digest
      | .error _ => zeros))

def undisturbed : Answer := ⟨1000, none⟩

def unreachable : Answer := ⟨1000, some (.networkCommunication "unreachable")⟩

def refreshed : List (Move Follower.Input Answer) :=
  .start (prepare (.refresh "pk") zeros) :: List.replicate 10 (.resume 0 undisturbed)

def first : AttemptKey := ⟨7, zeros⟩

def second : AttemptKey := ⟨7, ones⟩

/-- The refresh owns the slot of its ring, and has a session. -/
theorem ring_slots_sound_refreshed :
    (Follower.pool "key" "b" refreshed).state.ringsPss.lookup "pk" = some first ∧
      ∃ session,
        (Follower.pool "key" "b" refreshed).state.sessions first.ceremonyId = some session ∧
        session.attempt = some first ∧ session.ringKey = some "pk" := by
  have hslot : (Follower.pool "key" "b" refreshed).state.ringsPss.lookup "pk" =
      some first := by
    decide +kernel
  have hobeys : (Pool.empty Follower.idle).Obeys (Follower.handler "key" "b") Follower.Seated
      refreshed := by
    decide +kernel
  have hsound := Follower.ring_slots_sound "key" "b" refreshed hobeys
  exact ⟨hslot, hsound.live "pk" first hslot (by decide +kernel)⟩

/-- The first attempt has no ring, and fails after its session was created.  The second attempt of
the same ceremony is for a ring: it claims the slot, and finds the session of the first.  Then the
session expires. -/
def retried : List (Move Follower.Input Answer) :=
  .start (prepare .fresh zeros) :: List.replicate 6 (.resume 0 undisturbed) ++
    .resume 0 unreachable ::
    .start (prepare (.freshPet "ring") ones) :: List.replicate 8 (.resume 1 undisturbed) ++
    .start (.expire 7) :: List.replicate 2 (.resume 2 undisturbed)

/-- The handler of a Prepare is cancelled after it has claimed the slot. -/
def cancelled : List (Move Follower.Input Answer) :=
  .start (prepare (.refresh "pk") zeros) :: List.replicate 4 (.resume 0 undisturbed)

/-- A slot whose owner has no session, after a handler was cancelled, and after all handlers have
finished. -/
theorem slot_without_session :
    ((Follower.after "key" "b" cancelled).ringsPss.lookup "pk" = some first ∧
      (Follower.after "key" "b" cancelled).sessions 7 = none) ∧
    (Follower.after "key" "b" retried).ringsPss.lookup "ring" = some second ∧
      (Follower.after "key" "b" retried).sessions 7 = none ∧
      ∀ entry ∈ (Follower.pool "key" "b" retried).tasks, entry.2.result.isSome := by
  decide +kernel

end Pair

end Orbis.Node.Transport
