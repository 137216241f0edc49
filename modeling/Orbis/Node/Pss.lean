import Orbis.Node.Dkg.Commitment
import Orbis.Node.Dkg.ReshareCleanup

/-!
# The scheduler

At its start a node looks once at every pending bundle on its disk.  Later its scheduler finds out
that the node is no longer a member of a ring, if the ceremony that removed it did not.
-/

namespace Orbis.Node.Pss

open Orbis.Data
open Dkg (DkgError)

/-! ## The start of a node -/

/-- A pending bundle is promoted or discarded, and then removed. -/
def reconcileSlot (faults : StorageFaults) (slot : Slot) (key : String) (payload : RingPayload)
    (pending : Option PendingReshareBundle) (logged : Logged) : Logged :=
  match pending with
  | none => logged
  | some pending =>
    if pending.expects payload.peerNodeKeys payload.threshold then
      match faults.set (slot.activeKey key) with
      | .error error => { logged with errors := logged.errors ++ [error] }
      | .ok () =>
        Logged.tryClear
          { logged with storage := logged.storage.saveActive slot key pending.bundle } faults
          slot key
    else logged.tryClear faults slot key

/-- A bundle that cannot be read is taken to be absent. -/
def pendingOf (faults : StorageFaults) (slot : Slot) (key : String) (storage : LocalStorage) :
    Option PendingReshareBundle :=
  match PendingReshareBundle.load faults slot key storage with
  | .ok pending => pending
  | .error _ => none

/-- Nothing is done if the bulletin cannot be read, or while it still announces a reshare. -/
def reconcileEntry (faults : StorageFaults) (bulletin : String → Option RingPayload)
    (logged : Logged) (entry : RingIndexEntry) : Logged :=
  let mainPending := pendingOf faults .main entry.ringPkStr logged.storage
  let petPending := pendingOf faults .pet entry.bulletinPostId logged.storage
  if mainPending.isNone && petPending.isNone then logged
  else
    match bulletin entry.bulletinPostId with
    | none => logged
    | some payload =>
      if payload.isReshare then logged
      else
        reconcileSlot faults .pet entry.bulletinPostId payload petPending
          (reconcileSlot faults .main entry.ringPkStr payload mainPending logged)

def readRingIndex (faults : StorageFaults) (storage : LocalStorage) :
    Except DkgError (List RingIndexEntry) :=
  match faults.read .ringIndex with
  | some error => .error (.storage s!"PSS: failed to read RingIndex: {error}")
  | none => .ok storage.ringIndex

def reconcilePendingReshares (faults : StorageFaults) (bulletin : String → Option RingPayload)
    (storage : LocalStorage) : Except DkgError Logged := do
  let ringIndex ← readRingIndex faults storage
  pure (ringIndex.foldl (reconcileEntry faults bulletin) ⟨storage, []⟩)

/-! ## A member that was removed -/

def removeRingIndexEntry (faults : StorageFaults) (entry : RingIndexEntry)
    (storage : LocalStorage) : Except DkgError LocalStorage := do
  let ringIndex ← readRingIndex faults storage
  match faults.set .ringIndex with
  | .error error =>
    .error (.storage s!"PSS: failed to write RingIndex after pending cleanup: {error}")
  | .ok () =>
    .ok { storage with
      ringIndex := ringIndex.filter fun candidate =>
        candidate.ringPkStr ≠ entry.ringPkStr ∨
          candidate.bulletinPostId ≠ entry.bulletinPostId }

/-- The active bundle is deleted first, and an error there ends the cleanup. -/
def removeSlot (faults : StorageFaults) (slot : Slot) (key : String) (what : String)
    (logged : Logged) : Logged × Except DkgError Unit :=
  match faults.set (slot.activeKey key) with
  | .error error =>
    (logged, .error (.storage s!"PSS: failed to securely remove {what}: {error}"))
  | .ok () =>
    (Logged.tryClear { logged with storage := logged.storage.deleteActive slot key } faults slot
      key, .ok ())

/-- The bundles of the main key, and of the checking key if the ring has one. -/
def removeBundles (faults : StorageFaults) (entry : RingIndexEntry) (requiresPet : Bool)
    (storage : LocalStorage) : Logged × Except DkgError Unit :=
  let main := removeSlot faults .main entry.ringPkStr "stale finalized ring bundle" ⟨storage, []⟩
  if main.2.isOk && requiresPet then
    removeSlot faults .pet entry.bulletinPostId "stale finalized PET ring bundle" main.1
  else main

/-- Nothing is done while a ceremony of the ring is active. -/
def reconcileFinalizedRemovedMember (faults : StorageFaults) (pssActive : Bool)
    (entry : RingIndexEntry) (requiresPet : Bool) (storage : LocalStorage) :
    Logged × Except DkgError Unit :=
  if pssActive then (⟨storage, []⟩, .ok ())
  else
    match removeBundles faults entry requiresPet storage with
    | (logged, .error e) => (logged, .error e)
    | (logged, .ok ()) =>
      match removeRingIndexEntry faults entry logged.storage with
      | .error e => (logged, .error e)
      | .ok storage => ({ logged with storage }, .ok ())

/-! ## What the start of a node does -/

section

variable {faults : StorageFaults} {slot slot' : Slot} {key key' : String} {payload : RingPayload}
  {pending : Option PendingReshareBundle} {logged : Logged} {s s' s'' : LocalStorage}
  {bulletin : String → Option RingPayload} {entry : RingIndexEntry}

theorem reconcileSlot_cases (faults : StorageFaults) (slot : Slot) (key : String)
    (payload : RingPayload) (pending : Option PendingReshareBundle) (logged : Logged) :
    (reconcileSlot faults slot key payload pending logged).storage = logged.storage ∨
      Cleared faults slot key logged.storage
        (reconcileSlot faults slot key payload pending logged).storage ∨
      ∃ q, pending = some q ∧ q.expects payload.peerNodeKeys payload.threshold ∧
        Cleared faults slot key (logged.storage.saveActive slot key q.bundle)
          (reconcileSlot faults slot key payload pending logged).storage := by
  unfold reconcileSlot
  cases pending with
  | none => exact .inl rfl
  | some q =>
    dsimp only
    split
    case isTrue hexpects =>
      cases faults.set (slot.activeKey key) with
      | error error => exact .inl rfl
      | ok _ => exact .inr (.inr ⟨q, rfl, hexpects, Logged.cleared_tryClear ..⟩)
    case isFalse => exact .inr (.inl (Logged.cleared_tryClear ..))

theorem ringIndex_reconcileSlot :
    (reconcileSlot faults slot key payload pending logged).storage.ringIndex =
      logged.storage.ringIndex := by
  rcases reconcileSlot_cases faults slot key payload pending logged with h | h | ⟨q, -, -, h⟩
  · rw [h]
  · exact h.ringIndex
  · exact h.ringIndex.trans LocalStorage.ringIndex_saveActive

theorem reconcileSlot_frame (hne : slot' ≠ slot ∨ key' ≠ key) :
    (reconcileSlot faults slot key payload pending logged).storage.activeAt slot' key' =
        logged.storage.activeAt slot' key' ∧
      (reconcileSlot faults slot key payload pending logged).storage.pendingAt slot' key' =
        logged.storage.pendingAt slot' key' := by
  have hother : ¬(slot' = slot ∧ key' = key) := fun h => hne.elim (· h.1) (· h.2)
  rcases reconcileSlot_cases faults slot key payload pending logged with h | h | ⟨q, -, -, h⟩
  · rw [h]
    exact ⟨rfl, rfl⟩
  · exact ⟨h.activeAt slot' key', h.pendingAt_of_ne hother⟩
  · rw [h.activeAt slot' key', h.pendingAt_of_ne hother, LocalStorage.activeAt_saveActive,
      if_neg hother]
    exact ⟨rfl, LocalStorage.pendingAt_saveActive⟩

/-- A start of the node, seen at one key: the pending bundle stays or goes, and the active bundle
stays or is replaced by the pending one, for what the bulletin has. -/
structure Reconciled (faults : StorageFaults) (slot : Slot) (key : String)
    (payload : Option RingPayload) (s s' : LocalStorage) : Prop where
  pending : s'.pendingAt slot key = s.pendingAt slot key ∨ s'.pendingAt slot key = none
  active : s'.activeAt slot key = s.activeAt slot key ∨ ∃ q ring, payload = some ring ∧
    ring.isReshare = false ∧ s.pendingAt slot key = some q ∧
    q.expects ring.peerNodeKeys ring.threshold ∧ s'.activeAt slot key = some q.bundle.toBytes ∧
    (PendingReshareBundle.clear faults slot key = .ok () → s'.pendingAt slot key = none)

theorem Reconciled.of_same {payload : Option RingPayload}
    (hactive : s'.activeAt slot key = s.activeAt slot key)
    (hpending : s'.pendingAt slot key = s.pendingAt slot key) :
    Reconciled faults slot key payload s s' :=
  ⟨.inl hpending, .inl hactive⟩

theorem Reconciled.trans {payload : Option RingPayload}
    (h : Reconciled faults slot key payload s s') (h' : Reconciled faults slot key payload s' s'') :
    Reconciled faults slot key payload s s'' := by
  have hpending : s''.pendingAt slot key = s.pendingAt slot key ∨
      s''.pendingAt slot key = none := by
    rcases h'.pending with hp | hp
    · rw [hp]
      exact h.pending
    · exact .inr hp
  refine ⟨hpending, ?_⟩
  rcases h'.active with hsame | ⟨q, ring, hring, hreshare, hq, hexpects, hactive, hclear⟩
  · rw [hsame]
    refine h.active.imp_right ?_
    rintro ⟨q, ring, hring, hreshare, hq, hexpects, hactive, hclear⟩
    refine ⟨q, ring, hring, hreshare, hq, hexpects, hactive, fun hok => ?_⟩
    rcases h'.pending with hp | hp
    · rw [hp, hclear hok]
    · exact hp
  · rcases h.pending with hp | hp
    · exact .inr ⟨q, ring, hring, hreshare, hp.symm.trans hq, hexpects, hactive, hclear⟩
    · rw [hp] at hq
      cases hq

/-- One bundle, that of the slot or none. -/
theorem reconcileSlot_reconciled (faults : StorageFaults) (hreshare : payload.isReshare = false)
    (hpending : pending = none ∨ pending = logged.storage.pendingAt slot key) :
    Reconciled faults slot key (some payload) logged.storage
      (reconcileSlot faults slot key payload pending logged).storage := by
  rcases reconcileSlot_cases faults slot key payload pending logged with
    h | h | ⟨q, hq, hexpects, h⟩
  · rw [h]
    exact .of_same rfl rfl
  · exact ⟨h.pendingAt slot key, .inl (h.activeAt slot key)⟩
  · rw [hq] at hpending
    refine ⟨?_, .inr ⟨q, payload, rfl, hreshare, ?_, hexpects, ?_, h.pendingAt_self⟩⟩
    · simpa using h.pendingAt slot key
    · exact (hpending.resolve_left nofun).symm
    · simpa using h.activeAt slot key

theorem pendingOf_cases (faults : StorageFaults) (slot : Slot) (key : String)
    (storage : LocalStorage) :
    pendingOf faults slot key storage = none ∨
      pendingOf faults slot key storage = storage.pendingAt slot key := by
  unfold pendingOf
  split
  next h => exact .inr (PendingReshareBundle.pendingAt_of_load h).symm
  next => exact .inl rfl

def keyOf (entry : RingIndexEntry) (slot : Slot) : String :=
  match slot with
  | .main => entry.ringPkStr
  | .pet => entry.bulletinPostId

theorem reconcileEntry_reconciled (entry : RingIndexEntry) (slot : Slot) :
    Reconciled faults slot (keyOf entry slot) (bulletin entry.bulletinPostId) logged.storage
      (reconcileEntry faults bulletin logged entry).storage := by
  unfold reconcileEntry
  dsimp only
  split
  · exact .of_same rfl rfl
  · cases hread : bulletin entry.bulletinPostId with
    | none => exact .of_same rfl rfl
    | some payload =>
      dsimp only
      split
      · exact .of_same rfl rfl
      · rename_i hreshare
        have hreshare : payload.isReshare = false := Bool.eq_false_iff.mpr hreshare
        cases slot with
        | main =>
          have hmain := reconcileSlot_reconciled faults hreshare
            (pendingOf_cases faults .main entry.ringPkStr logged.storage)
          have hslots : Slot.main ≠ .pet ∨ entry.ringPkStr ≠ entry.bulletinPostId := .inl nofun
          exact hmain.trans
            (.of_same (reconcileSlot_frame hslots).1 (reconcileSlot_frame hslots).2)
        | pet =>
          obtain ⟨hactive, hpending⟩ :
              (reconcileSlot faults .main entry.ringPkStr payload
                (pendingOf faults .main entry.ringPkStr logged.storage) logged).storage.activeAt
                  .pet entry.bulletinPostId =
                logged.storage.activeAt .pet entry.bulletinPostId ∧ _ :=
            reconcileSlot_frame (.inl nofun)
          refine Reconciled.trans (.of_same hactive hpending)
            (reconcileSlot_reconciled faults hreshare ?_)
          rw [keyOf, hpending]
          exact pendingOf_cases faults .pet entry.bulletinPostId logged.storage

theorem reconcileEntry_frame {entry : RingIndexEntry} {slot : Slot} {key : String}
    (hne : key ≠ keyOf entry slot) :
    (reconcileEntry faults bulletin logged entry).storage.activeAt slot key =
        logged.storage.activeAt slot key ∧
      (reconcileEntry faults bulletin logged entry).storage.pendingAt slot key =
        logged.storage.pendingAt slot key := by
  have hmain : slot ≠ .main ∨ key ≠ entry.ringPkStr := by
    cases slot with
    | main => exact .inr hne
    | pet => exact .inl nofun
  have hpet : slot ≠ .pet ∨ key ≠ entry.bulletinPostId := by
    cases slot with
    | main => exact .inl nofun
    | pet => exact .inr hne
  unfold reconcileEntry
  dsimp only
  split
  · exact ⟨rfl, rfl⟩
  · split
    · exact ⟨rfl, rfl⟩
    · split
      · exact ⟨rfl, rfl⟩
      · rw [(reconcileSlot_frame hpet).1, (reconcileSlot_frame hpet).2,
          (reconcileSlot_frame hmain).1, (reconcileSlot_frame hmain).2]
        exact ⟨rfl, rfl⟩

theorem ringIndex_reconcileEntry :
    (reconcileEntry faults bulletin logged entry).storage.ringIndex = logged.storage.ringIndex := by
  unfold reconcileEntry
  dsimp only
  split
  · rfl
  · split
    · rfl
    · split
      · rfl
      · rw [ringIndex_reconcileSlot, ringIndex_reconcileSlot]

variable {storage : LocalStorage}

theorem ringIndex_reconcilePendingReshares
    (h : reconcilePendingReshares faults bulletin storage = .ok logged) :
    logged.storage.ringIndex = storage.ringIndex := by
  unfold reconcilePendingReshares readRingIndex at h
  split at h <;> cases h
  suffices hfold : ∀ (index : List RingIndexEntry) (before : Logged),
      (index.foldl (reconcileEntry faults bulletin) before).storage.ringIndex =
        before.storage.ringIndex from hfold storage.ringIndex ⟨storage, []⟩
  intro index
  induction index with
  | nil => exact fun _ => rfl
  | cons other index ih => exact fun before => (ih _).trans ringIndex_reconcileEntry

/-- An index in which no other ring has the keys of this one. -/
def IndexApart (entry : RingIndexEntry) (index : List RingIndexEntry) : Prop :=
  ∀ other ∈ index, other = entry ∨
    other.ringPkStr ≠ entry.ringPkStr ∧ other.bulletinPostId ≠ entry.bulletinPostId

theorem reconcilePendingReshares_reconciled {entry : RingIndexEntry}
    (hindex : IndexApart entry storage.ringIndex) (slot : Slot)
    (h : reconcilePendingReshares faults bulletin storage = .ok logged) :
    Reconciled faults slot (keyOf entry slot) (bulletin entry.bulletinPostId) storage
      logged.storage := by
  unfold reconcilePendingReshares readRingIndex at h
  split at h
  · cases h
  · cases h
    suffices hfold : ∀ (index : List RingIndexEntry) (before : Logged), IndexApart entry index →
        Reconciled faults slot (keyOf entry slot) (bulletin entry.bulletinPostId) before.storage
          (index.foldl (reconcileEntry faults bulletin) before).storage from
      hfold storage.ringIndex ⟨storage, []⟩ hindex
    intro index
    induction index with
    | nil => exact fun _ _ => .of_same rfl rfl
    | cons other index ih =>
      intro before hapart
      obtain ⟨hother, hrest⟩ := List.forall_mem_cons.mp hapart
      refine Reconciled.trans ?_ (ih _ hrest)
      rcases hother with rfl | ⟨hmain, hpet⟩
      · exact reconcileEntry_reconciled other slot
      · have hne : keyOf entry slot ≠ keyOf other slot := by
          cases slot with
          | main => exact hmain.symm
          | pet => exact hpet.symm
        obtain ⟨hactive, hpending⟩ := reconcileEntry_frame hne
        exact .of_same hactive hpending

/-! ## What the removal of a member does -/

theorem removeSlot_shrinks (faults : StorageFaults) (slot : Slot) (key what : String)
    (logged : Logged) :
    Shrinks logged.storage (removeSlot faults slot key what logged).1.storage := by
  unfold removeSlot
  split
  · exact .refl _
  · refine (Shrinks.deleteActive logged.storage slot key).trans ?_
    exact (Logged.cleared_tryClear ⟨_, logged.errors⟩ faults slot key).shrinks

variable {after : Logged}

theorem removeSlot_removes {what : String}
    (h : removeSlot faults slot key what logged = (after, .ok ())) (herrors : after.errors = []) :
    logged.errors = [] ∧ after.storage.activeAt slot key = none ∧
      after.storage.pendingAt slot key = none := by
  unfold removeSlot at h
  split at h <;> cases h
  obtain ⟨hbefore, hstorage⟩ := Logged.attempt_of_errors herrors
  refine ⟨hbefore, ?_, ?_⟩
  · rw [(Logged.cleared_tryClear ..).activeAt]
    simp
  · rw [Logged.tryClear, hstorage]
    simp

theorem removeRingIndexEntry_eq {after : LocalStorage}
    (h : removeRingIndexEntry faults entry storage = .ok after) :
    ∃ index, (∀ entry ∈ index, entry ∈ storage.ringIndex) ∧
      after = { storage with ringIndex := index } := by
  unfold removeRingIndexEntry readRingIndex at h
  obtain ⟨ringIndex, hread, h⟩ := bind_eq_ok.mp h
  split at hread <;> cases hread
  split at h <;> cases h
  exact ⟨_, fun _ => List.mem_of_mem_filter, rfl⟩

theorem removeBundles_shrinks (faults : StorageFaults) (entry : RingIndexEntry)
    (requiresPet : Bool) (storage : LocalStorage) :
    Shrinks storage (removeBundles faults entry requiresPet storage).1.storage := by
  have hmain := removeSlot_shrinks faults .main entry.ringPkStr "stale finalized ring bundle"
    ⟨storage, []⟩
  unfold removeBundles
  dsimp only
  split
  · exact hmain.trans (removeSlot_shrinks ..)
  · exact hmain

theorem removeBundles_removes {requiresPet : Bool}
    (h : removeBundles faults entry requiresPet storage = (after, .ok ()))
    (herrors : after.errors = []) (slot : Slot) (hslot : slot = .main ∨ requiresPet = true) :
    after.storage.activeAt slot (keyOf entry slot) = none ∧
      after.storage.pendingAt slot (keyOf entry slot) = none := by
  unfold removeBundles at h
  rcases hremove : removeSlot faults .main entry.ringPkStr "stale finalized ring bundle"
    ⟨storage, []⟩ with ⟨main, result⟩
  cases result with
  | error e =>
    simp only [hremove, Except.isOk, Except.toBool, Bool.false_and, Bool.false_eq_true,
      if_false] at h
    cases h
  | ok _ =>
    simp only [hremove, Except.isOk, Except.toBool, Bool.true_and] at h
    cases hpet : requiresPet with
    | true =>
      simp only [hpet, if_true] at h
      obtain ⟨hmainErrors, hpet⟩ := removeSlot_removes h herrors
      obtain ⟨-, hactive, hpending⟩ := removeSlot_removes hremove hmainErrors
      -- What is done for the checking key only takes away.
      have hshrinks := removeSlot_shrinks faults .pet entry.bulletinPostId
        "stale finalized PET ring bundle" main
      rw [h] at hshrinks
      cases slot with
      | main =>
        refine ⟨?_, ?_⟩
        · rcases hshrinks.active .main entry.ringPkStr with heq | hnone
          · exact heq.trans hactive
          · exact hnone
        · rcases hshrinks.pending .main entry.ringPkStr with heq | hnone
          · exact heq.trans hpending
          · exact hnone
      | pet => exact hpet
    | false =>
      simp only [hpet, Bool.false_eq_true, if_false] at h
      cases h
      obtain rfl : slot = .main := hslot.resolve_right (by simp [hpet])
      exact (removeSlot_removes hremove herrors).2

theorem reconcileFinalizedRemovedMember_shrinks (faults : StorageFaults) (pssActive : Bool)
    (entry : RingIndexEntry) (requiresPet : Bool) (storage : LocalStorage) :
    Shrinks storage
      (reconcileFinalizedRemovedMember faults pssActive entry requiresPet storage).1.storage := by
  unfold reconcileFinalizedRemovedMember
  split
  · exact .refl storage
  · have hbundles := removeBundles_shrinks faults entry requiresPet storage
    split
    case h_1 logged e heq =>
      rw [heq] at hbundles
      exact hbundles
    case h_2 logged heq =>
      rw [heq] at hbundles
      split
      · exact hbundles
      · rename_i after hafter
        obtain ⟨index, hindex, rfl⟩ := removeRingIndexEntry_eq hafter
        exact hbundles.trans (.ringIndex hindex)

theorem reconcileFinalizedRemovedMember_removes {requiresPet : Bool}
    (h : reconcileFinalizedRemovedMember faults false entry requiresPet storage = (after, .ok ()))
    (herrors : after.errors = []) (slot : Slot) (hslot : slot = .main ∨ requiresPet = true) :
    after.storage.activeAt slot (keyOf entry slot) = none ∧
      after.storage.pendingAt slot (keyOf entry slot) = none := by
  simp only [reconcileFinalizedRemovedMember, Bool.false_eq_true, if_false] at h
  split at h
  case h_1 => cases h
  case h_2 logged hremove =>
    split at h <;> cases h
    rename_i hindex
    obtain ⟨index, -, rfl⟩ := removeRingIndexEntry_eq hindex
    obtain ⟨hactive, hpending⟩ := removeBundles_removes hremove herrors slot hslot
    exact ⟨(LocalStorage.activeAt_ringIndex index).trans hactive,
      (LocalStorage.pendingAt_ringIndex index).trans hpending⟩

end

end Orbis.Node.Pss
