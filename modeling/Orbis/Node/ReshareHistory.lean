import Orbis.Node.Pss

/-!
# Histories of one ring at one node

Everything that changes the four slots of a ring, in any order and with any failure of the
storage: new active bundles from a key generation or a refresh, staged bundles, the end of a wait
for the bulletin, starts of the node, and visits of the scheduler.  The first part says once what
an event can do to a slot.

Two results about whole histories follow.  A start of the node never replaces an active bundle by
one that was staged before, if the removal of pending bundles never fails and no new bundle becomes
active while an older one is pending.  A member that was removed keeps no bundle, if nothing is
pending when it leaves as a dealer.
-/

namespace Orbis.Node

open Orbis.Data Orbis.Transition
open Dkg (BulletinPoll ReshareCleanupOutcome ReshareReadinessInfo ConfirmationWait awaitFinalized
  waitForReshareBulletinFinalized finishContinuingCommittee finishDepartingDealer)

/-- A ring, as a node that is or was a member knows it. -/
structure RingMember where
  nodeKey : String
  ringKey : String
  ringId : String
  requiresPet : Bool

namespace RingMember

def entry (m : RingMember) : RingIndexEntry := ⟨m.ringKey, m.ringId⟩

def key (m : RingMember) : Slot → String := Pss.keyOf m.entry

@[simp] theorem key_main (m : RingMember) : m.key .main = m.ringKey := rfl

@[simp] theorem key_pet (m : RingMember) : m.key .pet = m.ringId := rfl

end RingMember

inductive RingEvent where
  /-- A key generation or a refresh stores its result. -/
  | promote (slot : Slot) (bundle : RingShareBundle)
  | index
  /-- A reshare stages its result, as `prepare_reshare_update` does; that it could not be written is
  only logged. -/
  | stage (slot : Slot) (pending : PendingReshareBundle)
  | confirm (outcome : ReshareCleanupOutcome) (polls : List BulletinPoll) (live : Bool)
      (petPolls : List BulletinPoll)
  | restart (bulletin : String → Option RingPayload)
  /-- The scheduler has read the ring from the bulletin. -/
  | check (pssActive : Bool) (payload : RingPayload)

namespace RingEvent

def wait (m : RingMember) (outcome : ReshareCleanupOutcome) (polls : List BulletinPoll)
    (live : Bool) (petPolls : List BulletinPoll) : ConfirmationWait :=
  ⟨some m.ringKey, some m.ringId, outcome, polls, live, petPolls⟩

/-- An existing entry gets the new identifier. -/
def addIndexEntry (m : RingMember) (index : List RingIndexEntry) : List RingIndexEntry :=
  if index.any (·.ringPkStr = m.ringKey) then
    index.map fun entry => if entry.ringPkStr = m.ringKey then m.entry else entry
  else index ++ [m.entry]

def apply (m : RingMember) (faults : StorageFaults) (event : RingEvent) (s : LocalStorage) :
    LocalStorage :=
  match event with
  | promote slot bundle =>
    match faults.set (slot.activeKey (m.key slot)) with
    | .ok () => s.saveActive slot (m.key slot) bundle
    | .error _ => s
  | index => { s with ringIndex := addIndexEntry m s.ringIndex }
  | stage slot pending =>
    match faults.set (slot.pendingKey (m.key slot)) with
    | .ok () => s.savePendingAt slot (m.key slot) pending
    | .error _ => s
  | confirm outcome polls live petPolls =>
    (waitForReshareBulletinFinalized faults m.nodeKey (wait m outcome polls live petPolls)
      s).storage
  | restart bulletin =>
    match Pss.reconcilePendingReshares faults bulletin s with
    | .ok logged => logged.storage
    | .error _ => s
  | check pssActive payload =>
    if payload.peerNodeKeys.contains m.nodeKey || payload.isReshare then s
    else
      (Pss.reconcileFinalizedRemovedMember faults pssActive m.entry payload.requiresPet
        s).1.storage

end RingEvent

/-! ## What an event does to a slot -/

/-- The payload that an event has found on the bulletin, no longer announcing a reshare. -/
def RingEvent.Reads (m : RingMember) (payload : RingPayload) : RingEvent → Prop
  | .confirm _ polls _ _ => awaitFinalized polls = some (some payload)
  | .restart bulletin => bulletin m.ringId = some payload ∧ payload.isReshare = false
  | _ => False

/-- The bundle that a wait of a member holds in memory, with what it is for. -/
def RingEvent.Holds (info : ReshareReadinessInfo) (bundle : RingShareBundle) : RingEvent → Prop
  | .confirm (.continuingCommittee info' staged) _ _ _ => info' = info ∧ staged = some bundle
  | _ => False

/-- The ends of a membership. -/
def RingEvent.Deletes : RingEvent → Prop
  | .confirm .departingDealer _ _ _ => True
  | .check _ _ => True
  | _ => False

/-- All that one event can do to one slot. -/
inductive SlotChange (m : RingMember) (faults : StorageFaults) (event : RingEvent) (slot : Slot)
    (s s' : LocalStorage) : Prop where
  | kept (active : s'.activeAt slot (m.key slot) = s.activeAt slot (m.key slot))
      (pending : s'.pendingAt slot (m.key slot) = s.pendingAt slot (m.key slot) ∨
        s'.pendingAt slot (m.key slot) = none)
  | staged (q : PendingReshareBundle) (event_eq : event = .stage slot q)
      (active : s'.activeAt slot (m.key slot) = s.activeAt slot (m.key slot))
      (pending : s'.pendingAt slot (m.key slot) = some q)
  | promoted (bundle : RingShareBundle) (event_eq : event = .promote slot bundle)
      (active : s'.activeAt slot (m.key slot) = some bundle.toBytes)
      (pending : s'.pendingAt slot (m.key slot) = s.pendingAt slot (m.key slot))
  /-- A wait promotes the main bundle that it holds. -/
  | confirmed (payload : RingPayload) (info : ReshareReadinessInfo) (bundle : RingShareBundle)
      (main : slot = .main) (reads : event.Reads m payload) (holds : event.Holds info bundle)
      (expected : info.matchesPayload payload)
      (active : s'.activeAt slot (m.key slot) = some bundle.toBytes)
      (pending : s'.pendingAt slot (m.key slot) = s.pendingAt slot (m.key slot) ∨
        s'.pendingAt slot (m.key slot) = none)
      (cleared : PendingReshareBundle.clear faults slot (m.key slot) = .ok () →
        s'.pendingAt slot (m.key slot) = none)
  /-- The pending bundle becomes the active one. -/
  | moved (payload : RingPayload) (q : PendingReshareBundle) (reads : event.Reads m payload)
      (waits : s.pendingAt slot (m.key slot) = some q)
      (expected : q.expects payload.peerNodeKeys payload.threshold)
      (active : s'.activeAt slot (m.key slot) = some q.bundle.toBytes)
      (pending : s'.pendingAt slot (m.key slot) = s.pendingAt slot (m.key slot) ∨
        s'.pendingAt slot (m.key slot) = none)
      (cleared : PendingReshareBundle.clear faults slot (m.key slot) = .ok () →
        s'.pendingAt slot (m.key slot) = none)
  | deleted (deletes : event.Deletes) (active : s'.activeAt slot (m.key slot) = none)
      (pending : s'.pendingAt slot (m.key slot) = s.pendingAt slot (m.key slot) ∨
        s'.pendingAt slot (m.key slot) = none)

namespace SlotChange

variable {m : RingMember} {faults : StorageFaults} {slot : Slot} {s s' : LocalStorage}

variable {event : RingEvent}

theorem of_eq (h : s' = s) : SlotChange m faults event slot s s' :=
  .kept (by rw [h]) (.inl (by rw [h]))

theorem of_promote (slot' : Slot) (bundle : RingShareBundle) :
    SlotChange m faults (.promote slot' bundle) slot s
      (RingEvent.apply m faults (.promote slot' bundle) s) := by
  simp only [RingEvent.apply]
  split
  · by_cases hslot : slot' = slot
    · subst hslot
      exact .promoted bundle rfl (by simp) (by simp)
    · exact .kept (by simp [Ne.symm hslot]) (.inl (by simp))
  · exact of_eq rfl

theorem of_stage (slot' : Slot) (q : PendingReshareBundle) :
    SlotChange m faults (.stage slot' q) slot s (RingEvent.apply m faults (.stage slot' q) s) := by
  simp only [RingEvent.apply]
  split
  · by_cases hslot : slot' = slot
    · subst hslot
      exact .staged q rfl (by simp) (by simp)
    · exact .kept (by simp) (.inl (by simp [Ne.symm hslot]))
  · exact of_eq rfl

theorem of_restart {bulletin : String → Option RingPayload}
    (hindex : Pss.IndexApart m.entry s.ringIndex) :
    SlotChange m faults (.restart bulletin) slot s
      (RingEvent.apply m faults (.restart bulletin) s) := by
  simp only [RingEvent.apply]
  split
  case h_1 logged hlogged =>
    have hrec := Pss.reconcilePendingReshares_reconciled hindex slot hlogged
    rcases hrec.active with hactive | ⟨q, ring, hring, hreshare, hq, hexpects, hactive, hclear⟩
    · exact .kept hactive hrec.pending
    · exact .moved ring q ⟨hring, hreshare⟩ hq hexpects hactive hrec.pending hclear
  case h_2 => exact of_eq rfl

theorem of_shrinks (hdeletes : event.Deletes) (h : Shrinks s s') :
    SlotChange m faults event slot s s' := by
  rcases h.active slot (m.key slot) with hactive | hactive
  · exact .kept hactive (h.pending slot (m.key slot))
  · exact .deleted hdeletes hactive (h.pending slot (m.key slot))

theorem of_check (pssActive : Bool) (payload : RingPayload) :
    SlotChange m faults (.check pssActive payload) slot s
      (RingEvent.apply m faults (.check pssActive payload) s) := by
  simp only [RingEvent.apply]
  split
  · exact of_eq rfl
  · exact of_shrinks trivial (Pss.reconcileFinalizedRemovedMember_shrinks ..)

theorem of_discard {mid : LocalStorage} (hmain : Cleared faults .main m.ringKey s mid)
    (hpet : s' = mid ∨ Cleared faults .pet m.ringId mid s') :
    SlotChange m faults event slot s s' := by
  rcases hpet with rfl | hpet
  · exact .kept (hmain.activeAt slot _) (hmain.pendingAt slot _)
  · exact .kept ((hpet.activeAt slot _).trans (hmain.activeAt slot _))
      ((hmain.shrinks.trans hpet.shrinks).pending slot _)

variable {info : ReshareReadinessInfo}

theorem of_promoteMain {payload : RingPayload} {bundle : RingShareBundle}
    (hreads : event.Reads m payload) (hholds : event.Holds info bundle)
    (hexpected : info.matchesPayload payload)
    (h : Cleared faults .main m.ringKey (s.saveActive .main m.ringKey bundle) s') :
    SlotChange m faults event slot s s' := by
  cases slot with
  | main =>
    refine .confirmed payload info bundle rfl hreads hholds hexpected ?_ ?_ h.pendingAt_self
    · exact (h.activeAt .main m.ringKey).trans (by simp)
    · simpa using h.pendingAt .main m.ringKey
  | pet =>
    refine .kept ?_ (.inl ?_)
    · exact (h.activeAt .pet _).trans (by simp)
    · exact (h.pendingAt_of_ne (by simp)).trans LocalStorage.pendingAt_saveActive

theorem of_promoteBoth {payload : RingPayload} {bundle : RingShareBundle} {q : PendingReshareBundle}
    {mid : LocalStorage} (hreads : event.Reads m payload) (hholds : event.Holds info bundle)
    (hexpected : info.matchesPayload payload) (hq : s.pendingAt .pet m.ringId = some q)
    (hexpects : q.expects payload.peerNodeKeys payload.threshold)
    (hmain : Cleared faults .main m.ringKey
      ((s.saveActive .main m.ringKey bundle).saveActive .pet m.ringId q.bundle) mid)
    (hpet : Cleared faults .pet m.ringId mid s') : SlotChange m faults event slot s s' := by
  cases slot with
  | main =>
    have hpending : s'.pendingAt .main m.ringKey = mid.pendingAt .main m.ringKey :=
      hpet.pendingAt_of_ne (by simp)
    refine .confirmed payload info bundle rfl hreads hholds hexpected ?_ ?_ fun hok => ?_
    · exact (hpet.activeAt .main _).trans ((hmain.activeAt .main _).trans (by simp))
    · have := hmain.pendingAt .main m.ringKey
      rw [← hpending] at this
      simpa using this
    · exact hpending.trans (hmain.pendingAt_self hok)
  | pet =>
    have hpending : mid.pendingAt .pet m.ringId = s.pendingAt .pet m.ringId :=
      (hmain.pendingAt_of_ne (by simp)).trans (by simp)
    refine .moved payload q hreads hq hexpects ?_ ?_ hpet.pendingAt_self
    · exact (hpet.activeAt .pet _).trans ((hmain.activeAt .pet _).trans (by simp))
    · have := hpet.pendingAt .pet m.ringId
      rw [hpending] at this
      exact this

theorem of_confirm (outcome : ReshareCleanupOutcome) (polls : List BulletinPoll) (live : Bool)
    (petPolls : List BulletinPoll) :
    SlotChange m faults (.confirm outcome polls live petPolls) slot s
      (RingEvent.apply m faults (.confirm outcome polls live petPolls) s) := by
  simp only [RingEvent.apply, waitForReshareBulletinFinalized, RingEvent.wait]
  cases hpolls : awaitFinalized polls with
  | none => exact of_eq rfl
  | some finalized =>
    cases live with
    | false => exact of_eq rfl
    | true =>
      cases outcome with
      | departingDealer => exact of_shrinks trivial (Dkg.finishDepartingDealer_shrinks ..)
      | continuingCommittee info staged =>
        simp only [Bool.not_true, Bool.false_eq_true, if_false]
        generalize hafter : (finishContinuingCommittee faults m.ringKey (some m.ringId) info
          staged petPolls finalized s).storage = after
        rcases Dkg.finishContinuingCommittee_cases hafter with hsame | ⟨mid, hmain, hpet⟩ |
          ⟨payload, bundle, rfl, hexpected, hstaged, hmain | ⟨q, mid, hq, hexpects, hmain, hpet⟩⟩
        · exact of_eq hsame
        · exact of_discard hmain hpet
        · exact of_promoteMain hpolls ⟨rfl, hstaged⟩ hexpected hmain
        · exact of_promoteBoth hpolls ⟨rfl, hstaged⟩ hexpected hq hexpects hmain hpet

end SlotChange

/-- Every event changes every slot of the ring in one of these ways. -/
theorem RingEvent.slotChange (m : RingMember) (faults : StorageFaults) (event : RingEvent)
    {s : LocalStorage} (hindex : Pss.IndexApart m.entry s.ringIndex) (slot : Slot) :
    SlotChange m faults event slot s (event.apply m faults s) := by
  cases event with
  | promote slot' bundle => exact SlotChange.of_promote slot' bundle
  | index =>
    exact .kept (LocalStorage.activeAt_ringIndex _) (.inl (LocalStorage.pendingAt_ringIndex _))
  | stage slot' pending => exact SlotChange.of_stage slot' pending
  | confirm outcome polls live petPolls => exact SlotChange.of_confirm outcome polls live petPolls
  | restart bulletin => exact SlotChange.of_restart hindex
  | check pssActive payload => exact SlotChange.of_check pssActive payload

/-! ## Runs -/

def runRing (m : RingMember) (s : LocalStorage) (history : List (StorageFaults × RingEvent)) :
    LocalStorage :=
  run (fun s (e : StorageFaults × RingEvent) => e.2.apply m e.1 s) s history

theorem RingEvent.index_apply (m : RingMember) (faults : StorageFaults) (event : RingEvent)
    (s : LocalStorage) :
    ∀ entry ∈ (event.apply m faults s).ringIndex, entry ∈ s.ringIndex ∨ entry = m.entry := by
  have hsame {s' : LocalStorage} (h : s'.ringIndex = s.ringIndex) :
      ∀ entry ∈ s'.ringIndex, entry ∈ s.ringIndex ∨ entry = m.entry :=
    fun _ hmem => .inl (h ▸ hmem)
  have hshrinks {s' : LocalStorage} (h : Shrinks s s') :
      ∀ entry ∈ s'.ringIndex, entry ∈ s.ringIndex ∨ entry = m.entry :=
    fun entry hmem => .inl (h.index entry hmem)
  cases event with
  | promote slot bundle =>
    apply hsame
    simp only [apply]
    split
    · exact LocalStorage.ringIndex_saveActive
    · rfl
  | index =>
    intro entry hmem
    simp only [apply, addIndexEntry] at hmem
    split at hmem
    · obtain ⟨other, hother, rfl⟩ := List.mem_map.mp hmem
      split
      · exact .inr rfl
      · exact .inl hother
    · simpa using hmem
  | stage slot pending =>
    apply hsame
    simp only [apply]
    split
    · exact LocalStorage.ringIndex_savePendingAt
    · rfl
  | confirm outcome polls live petPolls =>
    simp only [apply, waitForReshareBulletinFinalized, wait]
    cases awaitFinalized polls with
    | none => exact hsame rfl
    | some finalized =>
      cases live with
      | false => exact hsame rfl
      | true =>
        cases outcome with
        | departingDealer => exact hshrinks (Dkg.finishDepartingDealer_shrinks ..)
        | continuingCommittee info staged =>
          exact hsame (Dkg.ringIndex_finishContinuingCommittee ..)
  | restart bulletin =>
    apply hsame
    simp only [apply]
    split
    case h_1 logged hlogged => exact Pss.ringIndex_reconcilePendingReshares hlogged
    case h_2 => rfl
  | check pssActive payload =>
    apply hshrinks
    simp only [apply]
    split
    · exact .refl s
    · exact Pss.reconcileFinalizedRemovedMember_shrinks ..

theorem indexApart_apply {m : RingMember} {s : LocalStorage}
    (h : Pss.IndexApart m.entry s.ringIndex) (faults : StorageFaults) (event : RingEvent) :
    Pss.IndexApart m.entry (event.apply m faults s).ringIndex := by
  intro entry hmem
  rcases event.index_apply m faults s entry hmem with hold | hnew
  · exact h entry hold
  · exact .inl hnew

/-! ## Starts never move a ring back -/

/-- The storage, and when the slots of the ring have changed last. -/
structure Dated where
  storage : LocalStorage
  now : ℕ
  stagedAt : Slot → ℕ
  promotedAt : Slot → ℕ

namespace Dated

def start (s : LocalStorage) : Dated := ⟨s, 0, fun _ => 0, fun _ => 0⟩

def step (m : RingMember) (d : Dated) (e : StorageFaults × RingEvent) : Dated :=
  let after := e.2.apply m e.1 d.storage
  { storage := after
    now := d.now + 1
    stagedAt := fun slot =>
      if after.pendingAt slot (m.key slot) = d.storage.pendingAt slot (m.key slot) then
        d.stagedAt slot
      else d.now
    promotedAt := fun slot =>
      if after.activeAt slot (m.key slot) = d.storage.activeAt slot (m.key slot) then
        d.promotedAt slot
      else d.now }

/-- A pending bundle is at least as new as the active one. -/
structure Ordered (m : RingMember) (d : Dated) : Prop where
  index : Pss.IndexApart m.entry d.storage.ringIndex
  past : ∀ slot, d.promotedAt slot ≤ d.now
  newer : ∀ slot q, d.storage.pendingAt slot (m.key slot) = some q →
    d.storage.activeAt slot (m.key slot) ≠ none → d.promotedAt slot ≤ d.stagedAt slot

end Dated

/-- Pending bundles that are to be removed are removed, and a key generation or a refresh stores its
result only while nothing is pending. -/
def Careful (m : RingMember) (s : LocalStorage) (e : StorageFaults × RingEvent) : Prop :=
  (∀ slot, PendingReshareBundle.clear e.1 slot (m.key slot) = .ok ()) ∧
    ∀ slot bundle, e.2 = .promote slot bundle → s.pendingAt slot (m.key slot) = none

namespace Dated

/-- After a careful event that changes the active bundle nothing is pending, or nothing active. -/
theorem pending_eq_none_of_changed {m : RingMember} {faults : StorageFaults} {event : RingEvent}
    {slot : Slot} {s s' : LocalStorage} (h : SlotChange m faults event slot s s')
    (hcareful : Careful m s (faults, event))
    (hchanged : s'.activeAt slot (m.key slot) ≠ s.activeAt slot (m.key slot)) :
    s'.pendingAt slot (m.key slot) = none ∨ s'.activeAt slot (m.key slot) = none := by
  cases h with
  | kept active pending | staged q event_eq active pending => exact absurd active hchanged
  | promoted bundle event_eq active pending =>
    exact .inl (pending.trans (hcareful.2 slot bundle event_eq))
  | confirmed payload info bundle main reads holds expected active pending cleared
  | moved payload q reads waits expected active pending cleared =>
    exact .inl (cleared (hcareful.1 slot))
  | deleted deletes active pending => exact .inr active

theorem Ordered.step {m : RingMember} {d : Dated} (h : Ordered m d) {e : StorageFaults × RingEvent}
    (hcareful : Careful m d.storage e) : Ordered m (d.step m e) := by
  refine ⟨indexApart_apply h.index e.1 e.2, fun slot => ?_, fun slot q hq hactive => ?_⟩
  · have := h.past slot
    simp only [Dated.step]
    split <;> omega
  · have hchange := e.2.slotChange m e.1 h.index slot
    have hpast := h.past slot
    simp only [Dated.step] at hq hactive ⊢
    split
    case isTrue hsame =>
      -- The active bundle is the one before, and the pending one is new or the one before.
      split
      case isTrue hsame' => exact h.newer slot q (hsame' ▸ hq) (hsame ▸ hactive)
      case isFalse => exact hpast
    case isFalse hchanged =>
      rcases pending_eq_none_of_changed hchange hcareful hchanged with hnone | hnone
      · rw [hnone] at hq
        cases hq
      · exact absurd hnone hactive

end Dated

/-- In every careful history, if a start of the node replaces an active bundle, then by one that was
not staged before the active one was stored. -/
theorem restart_never_rewinds (m : RingMember) {s : LocalStorage}
    (hindex : Pss.IndexApart m.entry s.ringIndex)
    (hpending : ∀ slot, s.pendingAt slot (m.key slot) = none)
    {history : List (StorageFaults × RingEvent)}
    (hcareful : Along (Dated.step m) (fun d e => Careful m d.storage e) (Dated.start s) history)
    (faults : StorageFaults) (bulletin : String → Option RingPayload) (slot : Slot)
    (hactive : (run (Dated.step m) (Dated.start s) history).storage.activeAt slot (m.key slot) ≠
      none)
    (hchanged : ((RingEvent.restart bulletin).apply m faults
        (run (Dated.step m) (Dated.start s) history).storage).activeAt slot (m.key slot) ≠
      (run (Dated.step m) (Dated.start s) history).storage.activeAt slot (m.key slot)) :
    ∃ q, (run (Dated.step m) (Dated.start s) history).storage.pendingAt slot (m.key slot) = some q ∧
      ((RingEvent.restart bulletin).apply m faults
        (run (Dated.step m) (Dated.start s) history).storage).activeAt slot (m.key slot) =
          some q.bundle.toBytes ∧
      (run (Dated.step m) (Dated.start s) history).promotedAt slot ≤
        (run (Dated.step m) (Dated.start s) history).stagedAt slot := by
  have hstart : Dated.Ordered m (Dated.start s) := by
    refine ⟨hindex, fun _ => Nat.le_refl 0, fun slot q hq => ?_⟩
    rw [show (Dated.start s).storage = s from rfl, hpending slot] at hq
    cases hq
  have hordered : Dated.Ordered m (run (Dated.step m) (Dated.start s) history) :=
    run_invariant (fun _ _ hcareful h => h.step hcareful) hcareful hstart
  generalize run (Dated.step m) (Dated.start s) history = d at *
  cases (RingEvent.restart bulletin).slotChange m faults hordered.index slot with
  | kept active pending | staged q event_eq active pending => exact absurd active hchanged
  | promoted bundle event_eq active pending => cases event_eq
  | confirmed payload info bundle main reads holds expected active pending cleared =>
    exact holds.elim
  | moved payload q reads waits expected active pending cleared =>
    exact ⟨q, waits, active, hordered.newer slot q waits hactive⟩
  | deleted deletes active pending => exact deletes.elim

/-! ## A member that was removed keeps nothing -/

/-- The cleanup of a member that is not in the committee on the bulletin, without an error of the
storage: as a dealer that leaves, or by the scheduler. -/
def RingEvent.Removes (m : RingMember) (faults : StorageFaults) (s : LocalStorage) :
    RingEvent → Prop
  | .confirm outcome polls live petPolls =>
    outcome = .departingDealer ∧ live = true ∧
      (∃ payload, awaitFinalized polls = some (some payload) ∧
        payload.peerNodeKeys.contains m.nodeKey = false ∧
        payload.requiresPet = m.requiresPet) ∧
      (waitForReshareBulletinFinalized faults m.nodeKey (wait m outcome polls live petPolls)
        s).errors = []
  | .check pssActive payload =>
    pssActive = false ∧ payload.isReshare = false ∧
      payload.peerNodeKeys.contains m.nodeKey = false ∧
      payload.requiresPet = m.requiresPet ∧
      (Pss.reconcileFinalizedRemovedMember faults pssActive m.entry payload.requiresPet s).2 =
        .ok () ∧
      (Pss.reconcileFinalizedRemovedMember faults pssActive m.entry payload.requiresPet
        s).1.errors = []
  | _ => False

def RingEvent.UsesPet : RingEvent → Prop
  | .promote slot _ => slot = .pet
  | .stage slot _ => slot = .pet
  | _ => False

/-- A ring without a checking key never has a bundle of one. -/
theorem pet_eq_none_of_unused {m : RingMember} {s : LocalStorage}
    (hindex : Pss.IndexApart m.entry s.ringIndex)
    (hempty : s.activeAt .pet m.ringId = none ∧ s.pendingAt .pet m.ringId = none)
    {history : List (StorageFaults × RingEvent)} (hunused : ∀ e ∈ history, ¬e.2.UsesPet) :
    (runRing m s history).activeAt .pet m.ringId = none ∧
      (runRing m s history).pendingAt .pet m.ringId = none := by
  induction history generalizing s with
  | nil => exact hempty
  | cons e history ih =>
    obtain ⟨hfirst, hrest⟩ := List.forall_mem_cons.mp hunused
    refine ih (indexApart_apply hindex e.1 e.2) ?_ hrest
    have hkept (p : Option PendingReshareBundle)
        (h : p = s.pendingAt .pet m.ringId ∨ p = none) : p = none := h.elim (·.trans hempty.2) id
    cases e.2.slotChange m e.1 hindex .pet with
    | kept active pending => exact ⟨active.trans hempty.1, hkept _ pending⟩
    | staged q event_eq active pending | promoted bundle event_eq active pending =>
      rw [event_eq] at hfirst
      exact absurd rfl hfirst
    | confirmed payload info bundle main reads holds expected active pending cleared => cases main
    | moved payload q reads waits expected active pending cleared =>
      rw [m.key_pet, hempty.2] at waits
      cases waits
    | deleted deletes active pending => exact ⟨active, hkept _ pending⟩

/-- The cleanup itself: without an error nothing is left of the main key, nor of the checking key
if the ring has one.  A dealer that leaves does not look at pending bundles. -/
theorem RingEvent.Removes.slots {m : RingMember} {faults : StorageFaults} {s : LocalStorage}
    {event : RingEvent} (h : event.Removes m faults s)
    (hpending : ∀ outcome polls live petPolls, event = .confirm outcome polls live petPolls →
      ∀ slot, s.pendingAt slot (m.key slot) = none)
    {slot : Slot} (hslot : slot = .main ∨ m.requiresPet = true) :
    (event.apply m faults s).activeAt slot (m.key slot) = none ∧
      (event.apply m faults s).pendingAt slot (m.key slot) = none := by
  cases event with
  | confirm outcome polls live petPolls =>
    obtain ⟨rfl, rfl, ⟨payload, hpolls, hexcluded, hpet⟩, herrors⟩ := h
    have hnone := hpending _ _ _ _ rfl slot
    simp only [waitForReshareBulletinFinalized, wait, hpolls, Bool.not_true, Bool.false_eq_true,
      if_false] at herrors
    simp only [apply, waitForReshareBulletinFinalized, wait, hpolls, Bool.not_true,
      Bool.false_eq_true, if_false]
    obtain ⟨hmain, hpetNone⟩ := Dkg.finishDepartingDealer_deletes hexcluded herrors
    refine ⟨?_, ?_⟩
    · cases slot with
      | main => exact hmain
      | pet => exact hpetNone (hpet.trans (hslot.resolve_left nofun))
    · rcases (Dkg.finishDepartingDealer_shrinks m.nodeKey m.ringKey m.ringId
        (some payload)).pending slot (m.key slot) with hsame | hgone
      · exact hsame.trans hnone
      · exact hgone
  | check pssActive payload =>
    obtain ⟨rfl, hreshare, hexcluded, hpet, hok, herrors⟩ := h
    simp only [apply, hexcluded, hreshare, Bool.or_self, Bool.false_eq_true, if_false]
    rw [← hpet] at hslot
    exact Pss.reconcileFinalizedRemovedMember_removes (Prod.ext rfl hok) herrors slot hslot
  | _ => exact h.elim

/-- After every history of the ring, a cleanup without an error leaves none of the four bundles. -/
theorem nothing_kept_of_removed (m : RingMember) {s : LocalStorage}
    (hindex : Pss.IndexApart m.entry s.ringIndex)
    (hempty : s.activeAt .pet m.ringId = none ∧ s.pendingAt .pet m.ringId = none)
    {history : List (StorageFaults × RingEvent)}
    (hpet : ∀ e ∈ history, e.2.UsesPet → m.requiresPet = true) {faults : StorageFaults}
    {event : RingEvent} (hremoves : event.Removes m faults (runRing m s history))
    (hpending : ∀ outcome polls live petPolls, event = .confirm outcome polls live petPolls →
      ∀ slot, (runRing m s history).pendingAt slot (m.key slot) = none) (slot : Slot) :
    (event.apply m faults (runRing m s history)).activeAt slot (m.key slot) = none ∧
      (event.apply m faults (runRing m s history)).pendingAt slot (m.key slot) = none := by
  by_cases hslot : slot = .main ∨ m.requiresPet = true
  · exact hremoves.slots hpending hslot
  · obtain ⟨hmain, hrequires⟩ := not_or.mp hslot
    obtain rfl : slot = .pet := by
      cases slot with
      | main => exact absurd rfl hmain
      | pet => rfl
    have hunused : ∀ e ∈ history ++ [(faults, event)], ¬e.2.UsesPet := by
      intro e he huses
      rcases List.mem_append.mp he with he | he
      · exact hrequires (hpet e he huses)
      · obtain rfl := List.mem_singleton.mp he
        cases event with
        | promote slot bundle | stage slot pending => exact hremoves.elim
        | _ => exact huses.elim
    have hafter := pet_eq_none_of_unused hindex hempty hunused
    rwa [runRing, run_append] at hafter

/-! ## The first member of a ring of two -/

namespace RingMember.Pair

def member (requiresPet : Bool) : RingMember := ⟨"n1", "rk", "ring", requiresPet⟩

theorem indexApart_empty (entry : RingIndexEntry) :
    Pss.IndexApart entry LocalStorage.empty.ringIndex := by
  intro other hmem
  cases hmem

/-- The ring with its first two members, or without the first one. -/
def payload (committee : List String) (requiresPet : Bool) : RingPayload where
  ringPk := "rk"
  newPeerNodeKeys := none
  newThreshold := none
  peerNodeKeys := committee
  threshold := 1
  pssInterval := 0
  blockNumberNonce := 0
  policyId := none
  trustedAuthRelayDids := none
  upgradeInfo := ⟨0, none, none⟩
  reporting := ⟨⟨0, 0, 0, 0⟩, [], 0⟩
  requiresPet
  petPk := none

def bundle (generation : UInt64) : RingShareBundle := ⟨[1], "p", generation⟩

def pending (generation : UInt64) : PendingReshareBundle :=
  ⟨bundle generation, "ring", ["n1", "n2"], 1⟩

/-- No pending bundle can be removed. -/
def busy : StorageFaults where
  read := fun _ => none
  change := fun key _ =>
    match key with
    | .pendingReshareBundle _ => some "busy"
    | _ => none

def confirmed : RingEvent :=
  .confirm (.continuingCommittee ⟨["n1", "n2"], 1⟩ (some (bundle 2)))
    [⟨true, some (payload ["n1", "n2"] false)⟩] true []

def restarted : RingEvent := .restart fun _ => some (payload ["n1", "n2"] false)

/-- A reshare is staged and confirmed, and its pending copy removed or not; then a refresh. -/
def refreshedAfter (faults : StorageFaults) : List (StorageFaults × RingEvent) :=
  [(.none, .index), (.none, .stage .main (pending 2)), (faults, confirmed),
    (.none, .promote .main (bundle 3))]

/-- The copy of the reshare could not be removed, and the next start puts it over the refresh. -/
theorem restart_rewinds_refresh :
    let d := run (Dated.step (member false)) (Dated.start .empty) (refreshedAfter busy)
    d.storage.activeAt .main "rk" = some (bundle 3).toBytes ∧
      (restarted.apply (member false) .none d.storage).activeAt .main "rk" =
        some (bundle 2).toBytes ∧
      d.stagedAt .main = 1 ∧ d.promotedAt .main = 3 := by
  decide +kernel

/-- A reshare over an active bundle, before its wait has ended. -/
def stagedOver : List (StorageFaults × RingEvent) :=
  [(.none, .index), (.none, .promote .main (bundle 1)), (.none, .stage .main (pending 2))]

theorem restart_never_rewinds_staged :
    let d := run (Dated.step (member false)) (Dated.start .empty) stagedOver
    ∃ q, d.storage.pendingAt .main "rk" = some q ∧
      (restarted.apply (member false) .none d.storage).activeAt .main "rk" =
        some q.bundle.toBytes ∧
      d.promotedAt .main ≤ d.stagedAt .main := by
  have hclear (slot : Slot) : PendingReshareBundle.clear .none slot ((member false).key slot) =
      .ok () := by
    cases slot <;> rfl
  have hcareful : Along (Dated.step (member false)) (fun d e => Careful (member false) d.storage e)
      (Dated.start .empty) stagedOver := by
    refine ⟨⟨hclear, nofun⟩, ⟨hclear, ?_⟩, ⟨hclear, nofun⟩, trivial⟩
    intro slot bundle h
    cases h
    rfl
  exact restart_never_rewinds (member false) (indexApart_empty _)
    (fun slot => by cases slot <;> rfl) hcareful
    .none _ .main (by decide +kernel) (by decide +kernel)

def generated : List (StorageFaults × RingEvent) :=
  [(.none, .index), (.none, .promote .main (bundle 1)), (.none, .promote .pet (bundle 1))]

/-- Both bundles of an attempt that timed out are pending when the member leaves. -/
def timedOutBefore : List (StorageFaults × RingEvent) :=
  generated ++ [(.none, .stage .main (pending 2)), (.none, .stage .pet (pending 2))]

def left : RingEvent :=
  .confirm .departingDealer [⟨true, some (payload ["n2"] true)⟩] true []

theorem nothing_kept_of_left :
    let s := left.apply (member true) .none (runRing (member true) .empty generated)
    (s.activeAt .main "rk" = none ∧ s.pendingAt .main "rk" = none) ∧
      s.activeAt .pet "ring" = none ∧ s.pendingAt .pet "ring" = none := by
  have hremoves : left.Removes (member true) .none (runRing (member true) .empty generated) := by
    refine ⟨rfl, rfl, ⟨_, rfl, ?_, ?_⟩, ?_⟩ <;> decide +kernel
  have hnone (slot : Slot) : (runRing (member true) .empty generated).pendingAt slot
      ((member true).key slot) = none := by
    cases slot <;> rfl
  have hkept := nothing_kept_of_removed (member true) (indexApart_empty _) ⟨rfl, rfl⟩
    (fun _ _ _ => rfl) hremoves fun _ _ _ _ _ => hnone
  exact ⟨hkept .main, hkept .pet⟩

/-- The dealer that leaves deletes its active bundles and its index entry without an error, and
keeps both pending ones. -/
theorem pending_kept_of_left :
    left.Removes (member true) .none (runRing (member true) .empty timedOutBefore) ∧
      (left.apply (member true) .none
        (runRing (member true) .empty timedOutBefore)).ringIndex = [] ∧
      (left.apply (member true) .none (runRing (member true) .empty timedOutBefore)).pendingAt .main
        "rk" = some (pending 2) ∧
      (left.apply (member true) .none (runRing (member true) .empty timedOutBefore)).pendingAt .pet
        "ring" = some (pending 2) := by
  refine ⟨⟨rfl, rfl, ⟨_, rfl, ?_, ?_⟩, ?_⟩, ?_⟩ <;> decide +kernel

end RingMember.Pair

end Orbis.Node
