import Orbis.Node.ReshareHistory

/-!
# Finalized and cancelled reshares

The bulletin ends an announced reshare by installing the new committee and threshold, or by taking
the announcement back.  Both ends leave a ring that announces nothing, and a member that waits, or
starts again, tells them apart by committee and threshold alone.  For announcements that change
one of the two, and find nothing pending of an earlier one, this is enough: a staged bundle becomes
active only if the reshare it was staged for was finalized.
-/

namespace Orbis.Node

open Orbis.Data Orbis.Transition

inductive Resolution where
  | finalized
  | cancelled
deriving DecidableEq

namespace Resolution

def payload (announced : RingPayload) : Resolution → RingPayload
  | finalized =>
    { announced with
      peerNodeKeys := announced.effectiveNewPeerNodeKeys
      threshold := announced.effectiveNewThreshold
      newPeerNodeKeys := none
      newThreshold := none }
  | cancelled => { announced with newPeerNodeKeys := none, newThreshold := none }

/-- The end leaves the committee and the threshold of this ring; the rest of a ring may change
later. -/
def Leaves (announced : RingPayload) (resolution : Resolution) (found : RingPayload) : Prop :=
  found.peerNodeKeys = (resolution.payload announced).peerNodeKeys ∧
    found.threshold = (resolution.payload announced).threshold

end Resolution

/-- The announcement changes the committee, as a set, or the threshold. -/
def RingPayload.Moves (announced : RingPayload) : Prop :=
  announced.peerNodeKeys.Perm announced.effectiveNewPeerNodeKeys →
    announced.threshold ≠ announced.effectiveNewThreshold

/-- A bundle that was dealt for the announced committee and threshold. -/
def PendingReshareBundle.DealtFor (announced : RingPayload)
    (pending : PendingReshareBundle) : Prop :=
  pending.expects announced.effectiveNewPeerNodeKeys announced.effectiveNewThreshold

/-- One announcement, its end, and what happens at a member until the next announcement. -/
structure Announcement where
  announced : RingPayload
  resolution : Resolution
  events : List (StorageFaults × RingEvent)

def Announcement.Stages (a : Announcement) (slot : Slot) (pending : PendingReshareBundle) : Prop :=
  ∃ faults, (faults, RingEvent.stage slot pending) ∈ a.events

/-- An event of a member of both committees: what it stages is dealt for the announced reshare, a
wait holds what was staged for it, and a ring that announces nothing is the one which the end
leaves.  Key generations and refreshes may come in between. -/
def RingEvent.Follows (m : RingMember) (a : Announcement) : RingEvent → Prop
  | .promote _ _ => True
  | .index => True
  | .stage _ pending => pending.DealtFor a.announced
  | .confirm outcome polls _ _ =>
    (∃ info staged, outcome = .continuingCommittee info staged ∧
      info.expectedNewCommittee.Perm a.announced.effectiveNewPeerNodeKeys ∧
      info.expectedNewThreshold = a.announced.effectiveNewThreshold ∧
      ∀ bundle, staged = some bundle → ∃ q, a.Stages .main q ∧ q.bundle = bundle) ∧
    ∀ found, Dkg.awaitFinalized polls = some (some found) → a.resolution.Leaves a.announced found
  | .restart bulletin =>
    ∀ found, bulletin m.ringId = some found → found.isReshare = false →
      a.resolution.Leaves a.announced found
  | .check _ payload => payload.peerNodeKeys.contains m.nodeKey = true

/-! ## Telling the ends apart -/

section

variable {m : RingMember} {found : RingPayload} {a : Announcement}

/-- Only the finalized reshare leaves the announced committee and threshold. -/
theorem Resolution.eq_finalized {announced : RingPayload} {resolution : Resolution}
    (hmoves : announced.Moves) (hleaves : resolution.Leaves announced found)
    (hcommittee : found.peerNodeKeys.Perm announced.effectiveNewPeerNodeKeys)
    (hthreshold : found.threshold = announced.effectiveNewThreshold) : resolution = .finalized := by
  cases resolution with
  | finalized => rfl
  | cancelled =>
    obtain ⟨hkeys, hold⟩ := hleaves
    rw [hkeys] at hcommittee
    exact absurd (hold.symm.trans hthreshold) (hmoves hcommittee)

variable {event : RingEvent} (h : event.Follows m a)
include h

theorem RingEvent.Follows.leaves (hreads : event.Reads m found) :
    a.resolution.Leaves a.announced found := by
  cases event with
  | confirm outcome polls live petPolls => exact h.2 found hreads
  | restart bulletin => exact h found hreads.1 hreads.2
  | _ => exact hreads.elim

/-- A wait of the member promotes a bundle of its reshare, and only after the finalized one. -/
theorem RingEvent.Follows.finalized_of_confirmed (hmoves : a.announced.Moves)
    (hreads : event.Reads m found) {info : Dkg.ReshareReadinessInfo} {bundle : RingShareBundle}
    (hholds : event.Holds info bundle) (hexpected : info.matchesPayload found) :
    a.resolution = .finalized ∧ ∃ q, a.Stages .main q ∧ q.bundle = bundle := by
  have hleaves := h.leaves hreads
  cases event with
  | confirm outcome polls live petPolls =>
    obtain ⟨⟨info', staged, rfl, hcommittee, hthreshold, hstaged⟩, -⟩ := h
    obtain ⟨rfl, hbundle⟩ := hholds
    simp only [Dkg.ReshareReadinessInfo.matchesPayload, Bool.and_eq_true, decide_eq_true_eq,
      peerNodeKeysMatch_iff] at hexpected
    exact ⟨Resolution.eq_finalized hmoves hleaves (hexpected.1.trans hcommittee)
      (hexpected.2.trans hthreshold), hstaged bundle hbundle⟩
  | _ => exact hholds.elim

/-- A pending bundle is promoted only after the finalized reshare. -/
theorem RingEvent.Follows.eq_finalized_of_moved (hmoves : a.announced.Moves)
    (hreads : event.Reads m found) {q : PendingReshareBundle} (hdealt : q.DealtFor a.announced)
    (hexpected : q.expects found.peerNodeKeys found.threshold) : a.resolution = .finalized := by
  simp only [PendingReshareBundle.DealtFor, PendingReshareBundle.expects, Bool.and_eq_true,
    decide_eq_true_eq, peerNodeKeysMatch_iff] at hdealt hexpected
  exact Resolution.eq_finalized hmoves (h.leaves hreads) (hexpected.1.trans hdealt.1.symm)
    (hexpected.2.trans hdealt.2.symm)

end

/-! ## Histories -/

/-- The announced reshare changes something, and all events up to the next announcement follow
it. -/
structure Announcement.Obeyed (m : RingMember) (a : Announcement) : Prop where
  moves : a.announced.Moves
  follows : ∀ e ∈ a.events, e.2.Follows m a

/-- Whatever is pending was staged for the announced reshare. -/
structure PendingFrom (m : RingMember) (a : Announcement) (s : LocalStorage) : Prop where
  index : Pss.IndexApart m.entry s.ringIndex
  pending : ∀ slot q, s.pendingAt slot (m.key slot) = some q → a.Stages slot q

section

variable {m : RingMember} {a : Announcement} {s : LocalStorage}

theorem PendingFrom.apply (h : PendingFrom m a s) {faults : StorageFaults} {event : RingEvent}
    (hmem : (faults, event) ∈ a.events) : PendingFrom m a (event.apply m faults s) := by
  refine ⟨indexApart_apply h.index faults event, fun slot q hq => ?_⟩
  have hkept (hpending : (event.apply m faults s).pendingAt slot (m.key slot) =
      s.pendingAt slot (m.key slot) ∨ (event.apply m faults s).pendingAt slot (m.key slot) = none) :
      a.Stages slot q := by
    rcases hpending with hsame | hnone
    · exact h.pending slot q (hsame ▸ hq)
    · rw [hnone] at hq
      cases hq
  cases event.slotChange m faults h.index slot with
  | kept active pending => exact hkept pending
  | staged q' event_eq active pending =>
    subst event_eq
    obtain rfl : q' = q := Option.some.inj (pending.symm.trans hq)
    exact ⟨faults, hmem⟩
  | promoted bundle event_eq active pending => exact hkept (.inl pending)
  | confirmed payload info bundle main reads holds expected active pending cleared
  | moved payload q' reads waits expected active pending cleared | deleted deletes active pending =>
    exact hkept pending

theorem PendingFrom.runRing (h : PendingFrom m a s) {events : List (StorageFaults × RingEvent)}
    (hevents : events ⊆ a.events) : PendingFrom m a (runRing m s events) := by
  unfold Node.runRing
  induction events generalizing s with
  | nil => exact h
  | cons e events ih =>
    obtain ⟨hfirst, hrest⟩ := List.cons_subset.mp hevents
    exact ih (h.apply hfirst) hrest

/-- An event that is not the end of a key generation or a refresh keeps an active bundle, or puts a
bundle of the finalized reshare in its place. -/
theorem PendingFrom.active_apply (h : PendingFrom m a s) (hobeyed : a.Obeyed m)
    {faults : StorageFaults} {event : RingEvent} (hmem : (faults, event) ∈ a.events)
    (hreshare : ∀ slot bundle, event ≠ .promote slot bundle) (slot : Slot) :
    (event.apply m faults s).activeAt slot (m.key slot) = s.activeAt slot (m.key slot) ∨
      a.resolution = .finalized ∧ ∃ q, a.Stages slot q ∧
        (event.apply m faults s).activeAt slot (m.key slot) = some q.bundle.toBytes := by
  have hfollows := hobeyed.follows _ hmem
  cases event.slotChange m faults h.index slot with
  | kept active pending | staged q event_eq active pending => exact .inl active
  | promoted bundle event_eq active pending => exact absurd event_eq (hreshare slot bundle)
  | confirmed payload info bundle main reads holds expected active pending cleared =>
    subst main
    obtain ⟨hfinalized, q, hq, rfl⟩ :=
      hfollows.finalized_of_confirmed hobeyed.moves reads holds expected
    exact .inr ⟨hfinalized, q, hq, active⟩
  | moved payload q reads waits expected active pending cleared =>
    obtain ⟨faults', hstages⟩ := h.pending slot q waits
    have hdealt : q.DealtFor a.announced := hobeyed.follows _ hstages
    exact .inr ⟨hfollows.eq_finalized_of_moved hobeyed.moves reads hdealt expected,
      q, ⟨faults', hstages⟩, active⟩
  | deleted deletes active pending =>
    -- A member of both committees never leaves, and the scheduler sees it in the ring.
    cases event with
    | confirm outcome polls live petPolls =>
      obtain ⟨⟨info, staged, rfl, -⟩, -⟩ := hfollows
      exact deletes.elim
    | check pssActive payload =>
      have hmember : payload.peerNodeKeys.contains m.nodeKey = true := hfollows
      simp only [RingEvent.apply, hmember, Bool.true_or, if_true, true_or]
    | _ => exact deletes.elim

end

/-- What a member does from one announcement to the next. -/
def runAnnounced (m : RingMember) (s : LocalStorage) (a : Announcement) : LocalStorage :=
  runRing m s a.events

def NothingPending (m : RingMember) (s : LocalStorage) : Prop :=
  ∀ slot, s.pendingAt slot (m.key slot) = none

theorem indexApart_runAnnounced {m : RingMember} {s : LocalStorage}
    (h : Pss.IndexApart m.entry s.ringIndex) (announcements : List Announcement) :
    Pss.IndexApart m.entry (run (runAnnounced m) s announcements).ringIndex := by
  let Inv (s : LocalStorage) : Prop := Pss.IndexApart m.entry s.ringIndex
  have hevent (s : LocalStorage) (e : StorageFaults × RingEvent) (h : Inv s) :
      Inv (e.2.apply m e.1 s) := indexApart_apply h e.1 e.2
  have hstep (s : LocalStorage) (a : Announcement) (h : Inv s) : Inv (runAnnounced m s a) :=
    run_induction hevent h a.events
  exact run_induction hstep h announcements

/-- The bulletin announces one reshare after the other, also the same one again, and ends each of
them.  Every announcement changes the committee or the threshold, and nothing is pending when it is
made.  Then, whatever happens at a member of both committees and with any errors of the storage: an
event other than the end of a key generation or a refresh leaves an active bundle as it is, or the
announced reshare was finalized and the new active bundle was staged for it. -/
theorem finalized_or_active_kept (m : RingMember) {s : LocalStorage}
    (hindex : Pss.IndexApart m.entry s.ringIndex) {before after : List Announcement}
    {a : Announcement} (hobeyed : ∀ a' ∈ before ++ a :: after, a'.Obeyed m)
    (hclear : Along (runAnnounced m) (fun s _ => NothingPending m s) s (before ++ a :: after))
    {first rest : List (StorageFaults × RingEvent)} {faults : StorageFaults} {event : RingEvent}
    (hevents : a.events = first ++ (faults, event) :: rest)
    (hreshare : ∀ slot bundle, event ≠ .promote slot bundle) (slot : Slot) :
    let s' := runRing m (run (runAnnounced m) s before) first
    (event.apply m faults s').activeAt slot (m.key slot) = s'.activeAt slot (m.key slot) ∨
      a.resolution = .finalized ∧ ∃ q, a.Stages slot q ∧
        (event.apply m faults s').activeAt slot (m.key slot) = some q.bundle.toBytes := by
  have hnone : NothingPending m (run (runAnnounced m) s before) := (along_append.mp hclear).2.1
  have hstart : PendingFrom m a (run (runAnnounced m) s before) := by
    refine ⟨indexApart_runAnnounced hindex before, fun slot q hq => ?_⟩
    rw [hnone slot] at hq
    cases hq
  have hsubset : first ⊆ a.events := by
    rw [hevents]
    exact List.subset_append_left _ _
  have hmem : (faults, event) ∈ a.events := by simp [hevents]
  exact (hstart.runRing hsubset).active_apply (hobeyed a (by simp)) hmem hreshare slot

namespace RingMember.Pair

/-- The first member stays, with the second one or with a third one in its place. -/
def announced (committee : List String) : RingPayload :=
  { payload ["n1", "n2"] false with newPeerNodeKeys := some committee }

def startedAfter (found : RingPayload) : RingEvent := .restart fun _ => some found

def stagedFor (committee : List String) : List (StorageFaults × RingEvent) :=
  [(.none, .index), (.none, .promote .main (bundle 1)),
    (.none, .stage .main ⟨bundle 2, "ring", committee, 1⟩)]

/-- The reshare to the third member is cancelled; the start after it removes the staged bundle. -/
def cancelled : Announcement where
  announced := announced ["n1", "n3"]
  resolution := .cancelled
  events := stagedFor ["n1", "n3"] ++
    [(.none, startedAfter (Resolution.cancelled.payload (announced ["n1", "n3"])))]

/-- It is announced again and finalized. -/
def again : Announcement where
  announced := announced ["n1", "n3"]
  resolution := .finalized
  events := [(.none, .stage .main ⟨bundle 3, "ring", ["n1", "n3"], 1⟩),
    (.none, startedAfter (Resolution.finalized.payload (announced ["n1", "n3"])))]

theorem obeyed : ∀ a ∈ [cancelled, again], a.Obeyed (member false) := by
  have hmoves : (announced ["n1", "n3"]).Moves := by
    intro hperm
    exact absurd hperm (by decide +kernel)
  have hdealt (q : PendingReshareBundle) (hcommittee : q.expectedNewCommittee = ["n1", "n3"])
      (hthreshold : q.expectedNewThreshold = 1) : q.DealtFor (announced ["n1", "n3"]) := by
    simp [PendingReshareBundle.DealtFor, PendingReshareBundle.expects, hcommittee, hthreshold,
      peerNodeKeysMatch_iff, RingPayload.effectiveNewPeerNodeKeys,
      RingPayload.effectiveNewThreshold, announced, payload]
  have hstarted (a : Announcement) : (startedAfter (a.resolution.payload a.announced)).Follows
      (member false) a := by
    intro found hfound hreshare
    cases hfound
    exact ⟨rfl, rfl⟩
  simp only [List.forall_mem_cons, List.not_mem_nil, false_imp_iff, implies_true, and_true]
  refine ⟨⟨hmoves, ?_⟩, ⟨hmoves, ?_⟩⟩
  · simp only [cancelled, stagedFor, List.cons_append, List.nil_append, List.forall_mem_cons]
    exact ⟨trivial, trivial, hdealt _ rfl rfl, hstarted cancelled, nofun⟩
  · simp only [again, List.forall_mem_cons]
    exact ⟨hdealt _ rfl rfl, hstarted again, nofun⟩

/-- The start after the cancelled reshare keeps the active bundle; the one after the second
announcement puts in its place what was staged for that one. -/
theorem active_kept_of_cancelled :
    let s := runRing (member false) .empty (stagedFor ["n1", "n3"])
    let s' := (startedAfter (Resolution.cancelled.payload cancelled.announced)).apply
      (member false) .none s
    s.activeAt .main "rk" = some (bundle 1).toBytes ∧
      s'.activeAt .main "rk" = s.activeAt .main "rk" ∧
      (run (runAnnounced (member false)) .empty [cancelled, again]).activeAt .main "rk" =
        some (bundle 3).toBytes := by
  have hclear : Along (runAnnounced (member false)) (fun s _ => NothingPending (member false) s)
      .empty ([] ++ cancelled :: [again]) := by
    refine ⟨fun slot => ?_, fun slot => ?_, trivial⟩ <;> cases slot <;> decide +kernel
  have hevents : cancelled.events = stagedFor ["n1", "n3"] ++ [(.none,
      startedAfter (Resolution.cancelled.payload cancelled.announced))] := rfl
  have hkept := finalized_or_active_kept (member false) (indexApart_empty _) obeyed hclear hevents
    nofun .main
  refine ⟨by decide +kernel, hkept.resolve_right fun h => ?_, by decide +kernel⟩
  exact Resolution.noConfusion h.1

/-- A reshare that keeps committee and threshold is cancelled, and its staged bundle becomes active:
by the wait of the member, and by a start of the node. -/
theorem promoted_of_cancelled :
    let found := Resolution.cancelled.payload (announced ["n1", "n2"])
    let s := runRing (member false) .empty (stagedFor ["n1", "n2"])
    let waited := RingEvent.confirm (.continuingCommittee ⟨["n1", "n2"], 1⟩ (some (bundle 2)))
      [⟨true, some (announced ["n1", "n2"])⟩, ⟨true, some found⟩] true []
    (announced ["n1", "n2"]).isReshare = true ∧
      s.activeAt .main "rk" = some (bundle 1).toBytes ∧
      (waited.apply (member false) .none s).activeAt .main "rk" = some (bundle 2).toBytes ∧
      ((startedAfter found).apply (member false) .none s).activeAt .main "rk" =
        some (bundle 2).toBytes := by
  decide +kernel

end RingMember.Pair

end Orbis.Node
