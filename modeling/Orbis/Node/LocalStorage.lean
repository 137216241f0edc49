import Mathlib.Data.String.Basic
import Orbis.Node.Bulletin
import Orbis.Node.RingState

/-!
# The local storage of a node

For every ring a node stores its share, and for a ring that requires the ownership check its
share of the checking key.  Beside each of the two there is a slot for the result of a reshare
that the bulletin has not confirmed yet.  The main slots are keyed by the ring key, the slots of
the checking key by the ring identifier.  Every operation on the storage can fail.  The encoding
of pending bundles, the time at which a ring was indexed and the history of retired polynomials
are left out.
-/

namespace Orbis.Node

open Orbis.Data
open RingShareBundle (Storage)

/-! ## Committees -/

/-- The same committee, in any order. -/
def peerNodeKeysMatch (a b : List String) : Bool :=
  a.length = b.length ∧ a.insertionSort (· ≤ ·) = b.insertionSort (· ≤ ·)

theorem peerNodeKeysMatch_iff {a b : List String} : peerNodeKeysMatch a b ↔ a.Perm b := by
  simp only [peerNodeKeysMatch, decide_eq_true_eq]
  constructor
  · rintro ⟨-, hsorted⟩
    calc a.Perm (a.insertionSort (· ≤ ·)) := (List.perm_insertionSort _ a).symm
      _ = b.insertionSort (· ≤ ·) := hsorted
      List.Perm _ b := List.perm_insertionSort _ b
  · intro h
    refine ⟨h.length_eq, ?_⟩
    apply List.Perm.eq_of_pairwise' (r := (· ≤ ·)) (List.pairwise_insertionSort _ a)
      (List.pairwise_insertionSort _ b)
    exact (List.perm_insertionSort _ a).trans (h.trans (List.perm_insertionSort _ b).symm)

namespace RingPayload

def effectiveNewPeerNodeKeys (payload : RingPayload) : List String :=
  payload.newPeerNodeKeys.getD payload.peerNodeKeys

def effectiveNewThreshold (payload : RingPayload) : ℕ :=
  payload.newThreshold.getD payload.threshold

/-- A committee transition has been announced and is neither finalized nor cancelled. -/
def isReshare (payload : RingPayload) : Bool :=
  payload.newPeerNodeKeys.isSome || payload.newThreshold.isSome

end RingPayload

/-! ## Slots -/

/-- The result of a reshare until the bulletin confirms it. -/
structure PendingReshareBundle where
  bundle : RingShareBundle
  bulletinPostId : String
  expectedNewCommittee : List String
  expectedNewThreshold : ℕ
deriving DecidableEq

/-- The committee and the threshold are the ones that this bundle was dealt for. -/
def PendingReshareBundle.expects (pending : PendingReshareBundle) (committee : List String)
    (threshold : ℕ) : Bool :=
  peerNodeKeysMatch committee pending.expectedNewCommittee &&
    threshold = pending.expectedNewThreshold

structure RingIndexEntry where
  ringPkStr : String
  bulletinPostId : String
deriving DecidableEq

abbrev PendingStorage := AList fun _ : String => PendingReshareBundle

structure LocalStorage where
  ringKeys : Storage
  petRingKeys : Storage
  pendingReshareBundles : PendingStorage
  pendingResharePetBundles : PendingStorage
  ringIndex : List RingIndexEntry
deriving DecidableEq

namespace LocalStorage

def empty : LocalStorage := ⟨∅, ∅, ∅, ∅, []⟩

def saveByRingKey (storage : LocalStorage) (ringKey : String) (bundle : RingShareBundle) :
    LocalStorage :=
  { storage with ringKeys := bundle.saveByRingKey storage.ringKeys ringKey }

def saveByPetRingKey (storage : LocalStorage) (ringId : String) (bundle : RingShareBundle) :
    LocalStorage :=
  { storage with petRingKeys := storage.petRingKeys.insert ringId bundle.toBytes }

def savePending (storage : LocalStorage) (ringKey : String) (pending : PendingReshareBundle) :
    LocalStorage :=
  { storage with pendingReshareBundles := storage.pendingReshareBundles.insert ringKey pending }

def savePendingPet (storage : LocalStorage) (ringId : String) (pending : PendingReshareBundle) :
    LocalStorage :=
  { storage with
    pendingResharePetBundles := storage.pendingResharePetBundles.insert ringId pending }

def deleteRingKey (storage : LocalStorage) (ringKey : String) : LocalStorage :=
  { storage with ringKeys := storage.ringKeys.erase ringKey }

def deletePetRingKey (storage : LocalStorage) (ringId : String) : LocalStorage :=
  { storage with petRingKeys := storage.petRingKeys.erase ringId }

def clearPending (storage : LocalStorage) (ringKey : String) : LocalStorage :=
  { storage with pendingReshareBundles := storage.pendingReshareBundles.erase ringKey }

def clearPendingPet (storage : LocalStorage) (ringId : String) : LocalStorage :=
  { storage with pendingResharePetBundles := storage.pendingResharePetBundles.erase ringId }

end LocalStorage

/-! ## The two kinds of keys -/

/-- The main key of a ring, and its checking key. -/
inductive Slot where
  | main
  | pet
deriving DecidableEq

namespace LocalStorage

variable (storage : LocalStorage)

def activeAt (slot : Slot) (key : String) : Option Bytes :=
  match slot with
  | .main => storage.ringKeys.lookup key
  | .pet => storage.petRingKeys.lookup key

def pendingAt (slot : Slot) (key : String) : Option PendingReshareBundle :=
  match slot with
  | .main => storage.pendingReshareBundles.lookup key
  | .pet => storage.pendingResharePetBundles.lookup key

def saveActive (slot : Slot) (key : String) (bundle : RingShareBundle) : LocalStorage :=
  match slot with
  | .main => storage.saveByRingKey key bundle
  | .pet => storage.saveByPetRingKey key bundle

def savePendingAt (slot : Slot) (key : String) (pending : PendingReshareBundle) : LocalStorage :=
  match slot with
  | .main => storage.savePending key pending
  | .pet => storage.savePendingPet key pending

def deleteActive (slot : Slot) (key : String) : LocalStorage :=
  match slot with
  | .main => storage.deleteRingKey key
  | .pet => storage.deletePetRingKey key

def clearPendingAt (slot : Slot) (key : String) : LocalStorage :=
  match slot with
  | .main => storage.clearPending key
  | .pet => storage.clearPendingPet key

variable {storage} {slot slot' : Slot} {key key' : String} {bundle : RingShareBundle}
  {pending : PendingReshareBundle}

theorem lookup_insert_eq_ite {β : Type} (m : AList fun _ : String => β) (key key' : String)
    (b : β) : (m.insert key b).lookup key' = if key' = key then some b else m.lookup key' := by
  split
  case isTrue h => rw [h, AList.lookup_insert]
  case isFalse h => exact AList.lookup_insert_ne h

theorem lookup_erase_eq_ite {β : Type} (m : AList fun _ : String => β) (key key' : String) :
    (m.erase key).lookup key' = if key' = key then none else m.lookup key' := by
  split
  case isTrue h => rw [h, AList.lookup_erase]
  case isFalse h => exact AList.lookup_erase_ne h

@[simp] theorem activeAt_saveActive :
    (storage.saveActive slot key bundle).activeAt slot' key' =
      if slot' = slot ∧ key' = key then some bundle.toBytes else storage.activeAt slot' key' := by
  cases slot <;> cases slot' <;>
    simp [saveActive, activeAt, saveByRingKey, saveByPetRingKey, RingShareBundle.saveByRingKey,
      lookup_insert_eq_ite]

@[simp] theorem pendingAt_saveActive :
    (storage.saveActive slot key bundle).pendingAt slot' key' = storage.pendingAt slot' key' := by
  cases slot <;> cases slot' <;> rfl

@[simp] theorem activeAt_savePendingAt :
    (storage.savePendingAt slot key pending).activeAt slot' key' = storage.activeAt slot' key' := by
  cases slot <;> cases slot' <;> rfl

@[simp] theorem pendingAt_savePendingAt :
    (storage.savePendingAt slot key pending).pendingAt slot' key' =
      if slot' = slot ∧ key' = key then some pending else storage.pendingAt slot' key' := by
  cases slot <;> cases slot' <;>
    simp [savePendingAt, pendingAt, savePending, savePendingPet, lookup_insert_eq_ite]

@[simp] theorem activeAt_deleteActive :
    (storage.deleteActive slot key).activeAt slot' key' =
      if slot' = slot ∧ key' = key then none else storage.activeAt slot' key' := by
  cases slot <;> cases slot' <;>
    simp [deleteActive, activeAt, deleteRingKey, deletePetRingKey, lookup_erase_eq_ite]

@[simp] theorem pendingAt_deleteActive :
    (storage.deleteActive slot key).pendingAt slot' key' = storage.pendingAt slot' key' := by
  cases slot <;> cases slot' <;> rfl

@[simp] theorem activeAt_clearPendingAt :
    (storage.clearPendingAt slot key).activeAt slot' key' = storage.activeAt slot' key' := by
  cases slot <;> cases slot' <;> rfl

@[simp] theorem pendingAt_clearPendingAt :
    (storage.clearPendingAt slot key).pendingAt slot' key' =
      if slot' = slot ∧ key' = key then none else storage.pendingAt slot' key' := by
  cases slot <;> cases slot' <;>
    simp [clearPendingAt, pendingAt, clearPending, clearPendingPet, lookup_erase_eq_ite]

@[simp] theorem ringIndex_saveActive :
    (storage.saveActive slot key bundle).ringIndex = storage.ringIndex := by
  cases slot <;> rfl

@[simp] theorem ringIndex_savePendingAt :
    (storage.savePendingAt slot key pending).ringIndex = storage.ringIndex := by
  cases slot <;> rfl

@[simp] theorem activeAt_ringIndex (index : List RingIndexEntry) :
    ({ storage with ringIndex := index } : LocalStorage).activeAt slot key =
      storage.activeAt slot key := by
  cases slot <;> rfl

@[simp] theorem pendingAt_ringIndex (index : List RingIndexEntry) :
    ({ storage with ringIndex := index } : LocalStorage).pendingAt slot key =
      storage.pendingAt slot key := by
  cases slot <;> rfl

end LocalStorage

/-! ## Failures -/

inductive LocalStorageKeys where
  | ringKey (ringKey : String)
  | petRingKey (ringId : String)
  | pendingReshareBundle (ringKey : String)
  | pendingResharePetBundle (ringId : String)
  | ringIndex
deriving DecidableEq

namespace Slot

def activeKey (slot : Slot) (key : String) : LocalStorageKeys :=
  match slot with
  | .main => .ringKey key
  | .pet => .petRingKey key

def pendingKey (slot : Slot) (key : String) : LocalStorageKeys :=
  match slot with
  | .main => .pendingReshareBundle key
  | .pet => .pendingResharePetBundle key

end Slot

/-- The errors of the storage during one run of a function: of reads, and of the tries to write or
to delete.  Every function that is modelled here writes or deletes a key in one place only. -/
structure StorageFaults where
  read : LocalStorageKeys → Option String
  change : LocalStorageKeys → ℕ → Option String

namespace StorageFaults

def none : StorageFaults := ⟨fun _ => Option.none, fun _ _ => Option.none⟩

variable (faults : StorageFaults)

/-- A write or a deletion that is tried once. -/
def set (key : LocalStorageKeys) : Except String Unit :=
  match faults.change key 0 with
  | some error => .error error
  | Option.none => .ok ()

def departedKeyDeleteRetryAttempts : ℕ := 3

def deleteWithRetries (key : LocalStorageKeys) : Except String Unit :=
  let tries := (List.range departedKeyDeleteRetryAttempts).map (faults.change key)
  if tries.all Option.isSome then .error (tries.getLast?.join.getD "") else .ok ()

end StorageFaults

namespace PendingReshareBundle

/-- `PendingReshareBundle::clear` and `clear_pet`. -/
def clear (faults : StorageFaults) (slot : Slot) (key : String) : Except String Unit :=
  (faults.deleteWithRetries (slot.pendingKey key)).mapError fun error =>
    match slot with
    | .main => s!"Failed to clear PendingReshareBundle: {error}"
    | .pet => s!"Failed to clear PET PendingReshareBundle: {error}"

/-- `PendingReshareBundle::load` and `load_pet`. -/
def load (faults : StorageFaults) (slot : Slot) (key : String) (storage : LocalStorage) :
    Except String (Option PendingReshareBundle) :=
  match slot, faults.read (slot.pendingKey key) with
  | .main, some error => .error s!"Failed to read PendingReshareBundle: {error}"
  | .pet, some error => .error s!"Failed to read PET PendingReshareBundle: {error}"
  | slot, none => .ok (storage.pendingAt slot key)

theorem pendingAt_of_load {faults : StorageFaults} {slot : Slot} {key : String}
    {storage : LocalStorage} {pending : Option PendingReshareBundle}
    (h : load faults slot key storage = .ok pending) : storage.pendingAt slot key = pending := by
  unfold load at h
  split at h
  · cases h
  · cases h
  · exact Except.ok.inj h

end PendingReshareBundle

/-- What a function has done to the storage, and the errors that it has only logged. -/
structure Logged where
  storage : LocalStorage
  errors : List String
deriving DecidableEq

namespace Logged

/-- A change of the storage whose error is logged. -/
def attempt (logged : Logged) (result : Except String Unit)
    (change : LocalStorage → LocalStorage) : Logged :=
  match result with
  | .ok () => { logged with storage := change logged.storage }
  | .error error => { logged with errors := logged.errors ++ [error] }

theorem attempt_of_errors {logged : Logged} {result : Except String Unit}
    {change : LocalStorage → LocalStorage} (h : (logged.attempt result change).errors = []) :
    logged.errors = [] ∧ (logged.attempt result change).storage = change logged.storage := by
  cases result with
  | ok _ => exact ⟨h, rfl⟩
  | error error => exact absurd h (by simp [attempt])

def tryClear (logged : Logged) (faults : StorageFaults) (slot : Slot) (key : String) : Logged :=
  logged.attempt (PendingReshareBundle.clear faults slot key) (·.clearPendingAt slot key)

end Logged

def Cleared (faults : StorageFaults) (slot : Slot) (key : String) (s s' : LocalStorage) : Prop :=
  s' = s.clearPendingAt slot key ∨ PendingReshareBundle.clear faults slot key ≠ .ok () ∧ s' = s

theorem Logged.cleared_tryClear (logged : Logged) (faults : StorageFaults) (slot : Slot)
    (key : String) :
    Cleared faults slot key logged.storage (logged.tryClear faults slot key).storage := by
  unfold tryClear attempt
  split
  case h_1 => exact .inl rfl
  case h_2 error herror => exact .inr ⟨by simp [herror], rfl⟩

namespace Cleared

variable {faults : StorageFaults} {slot : Slot} {key : String} {s s' : LocalStorage}

variable (h : Cleared faults slot key s s')
include h

theorem activeAt (slot' : Slot) (key' : String) :
    s'.activeAt slot' key' = s.activeAt slot' key' := by
  rcases h with rfl | ⟨-, rfl⟩
  · exact LocalStorage.activeAt_clearPendingAt
  · rfl

theorem ringIndex : s'.ringIndex = s.ringIndex := by
  rcases h with rfl | ⟨-, rfl⟩
  · cases slot <;> rfl
  · rfl

theorem pendingAt (slot' : Slot) (key' : String) :
    s'.pendingAt slot' key' = s.pendingAt slot' key' ∨ s'.pendingAt slot' key' = none := by
  rcases h with rfl | ⟨-, rfl⟩
  · rw [LocalStorage.pendingAt_clearPendingAt]
    split
    · exact .inr rfl
    · exact .inl rfl
  · exact .inl rfl

theorem pendingAt_of_ne {slot' : Slot} {key' : String}
    (hne : ¬(slot' = slot ∧ key' = key)) : s'.pendingAt slot' key' = s.pendingAt slot' key' := by
  rcases h with rfl | ⟨-, rfl⟩
  · rw [LocalStorage.pendingAt_clearPendingAt, if_neg hne]
  · rfl

theorem pendingAt_self
    (hok : PendingReshareBundle.clear faults slot key = .ok ()) : s'.pendingAt slot key = none := by
  rcases h with rfl | ⟨hfails, -⟩
  · simp
  · exact absurd hok hfails

end Cleared

/-- Nothing new is stored. -/
structure Shrinks (s s' : LocalStorage) : Prop where
  active : ∀ slot key, s'.activeAt slot key = s.activeAt slot key ∨ s'.activeAt slot key = none
  pending : ∀ slot key,
    s'.pendingAt slot key = s.pendingAt slot key ∨ s'.pendingAt slot key = none
  index : ∀ entry ∈ s'.ringIndex, entry ∈ s.ringIndex

namespace Shrinks

variable {s s' s'' : LocalStorage}

theorem refl (s : LocalStorage) : Shrinks s s :=
  ⟨fun _ _ => .inl rfl, fun _ _ => .inl rfl, fun _ h => h⟩

theorem trans (h : Shrinks s s') (h' : Shrinks s' s'') : Shrinks s s'' := by
  refine ⟨fun slot key => ?_, fun slot key => ?_, fun e he => h.index e (h'.index e he)⟩
  · rcases h'.active slot key with heq | hnone
    · rw [heq]
      exact h.active slot key
    · exact .inr hnone
  · rcases h'.pending slot key with heq | hnone
    · rw [heq]
      exact h.pending slot key
    · exact .inr hnone

theorem ringIndex {index : List RingIndexEntry} (h : ∀ entry ∈ index, entry ∈ s.ringIndex) :
    Shrinks s { s with ringIndex := index } :=
  ⟨fun _ _ => .inl (LocalStorage.activeAt_ringIndex index),
    fun _ _ => .inl (LocalStorage.pendingAt_ringIndex index), h⟩

theorem deleteActive (s : LocalStorage) (slot : Slot) (key : String) :
    Shrinks s (s.deleteActive slot key) := by
  have hindex : (s.deleteActive slot key).ringIndex = s.ringIndex := by cases slot <;> rfl
  refine ⟨fun slot' key' => ?_, fun _ _ => .inl LocalStorage.pendingAt_deleteActive,
    fun _ h => hindex ▸ h⟩
  rw [LocalStorage.activeAt_deleteActive]
  split
  · exact .inr rfl
  · exact .inl rfl

end Shrinks

theorem Cleared.shrinks {faults : StorageFaults} {slot : Slot} {key : String}
    {s s' : LocalStorage} (h : Cleared faults slot key s s') : Shrinks s s' :=
  ⟨fun slot' key' => .inl (h.activeAt slot' key'), h.pendingAt, fun _ he => h.ringIndex ▸ he⟩

end Orbis.Node
