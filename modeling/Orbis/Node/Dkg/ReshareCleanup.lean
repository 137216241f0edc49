import Orbis.Node.LocalStorage

/-!
# The end of a reshare

A member of the new committee stages its bundle and waits until the bulletin no longer announces
the reshare.  Then it promotes the staged bundle, if committee and threshold are the expected ones,
or discards it.  A dealer that leaves waits for the same and deletes its material.  The wait is a
list of polls, whose end is the deadline.  The session that is completed or aborted in the end, its
claim on the ring and the messages of logged warnings are left out.
-/

namespace Orbis.Node.Dkg

/-- One poll: whether the attempt is still there, and the payload, if it could be read. -/
structure BulletinPoll where
  live : Bool
  read : Option RingPayload

structure ReshareReadinessInfo where
  expectedNewCommittee : List String
  expectedNewThreshold : ℕ
deriving DecidableEq

inductive ReshareCleanupOutcome where
  | departingDealer
  /-- With the bundle that is staged in memory. -/
  | continuingCommittee (info : ReshareReadinessInfo) (staged : Option RingShareBundle)

structure ConfirmationWait where
  ringKey : Option String
  bulletinPostId : Option String
  outcome : ReshareCleanupOutcome
  polls : List BulletinPoll
  /-- Whether the attempt is there after the wait. -/
  live : Bool
  /-- While the local bundle of the checking key is waited for. -/
  petPolls : List BulletinPoll

/-- A bundle of the checking key is on the disk for the transition that the payload announces: what
the leader waits for, and what every signer of the bulletin update checks. -/
def petReady (faults : StorageFaults) (ringId : String) (payload : RingPayload)
    (storage : LocalStorage) : Bool :=
  match PendingReshareBundle.load faults .pet ringId storage with
  | .ok (some pending) =>
    peerNodeKeysMatch pending.expectedNewCommittee payload.effectiveNewPeerNodeKeys &&
      pending.expectedNewThreshold = payload.effectiveNewThreshold
  | _ => false

/-! ## Waiting -/

/-- `none` if the attempt has ended, `some none` at the deadline. -/
def awaitFinalized : List BulletinPoll → Option (Option RingPayload)
  | [] => some none
  | poll :: polls =>
    if !poll.live then none
    else
      match poll.read with
      | some payload =>
        if payload.newPeerNodeKeys.isNone && payload.newThreshold.isNone then
          some (some payload)
        else awaitFinalized polls
      | none => awaitFinalized polls

/-- The bulletin is read once more before the bundle is used.  A poll that finds no bundle on the
disk does nothing, so the polls are those since the disk has changed last: they read one storage. -/
def waitForLocalPetBundle (faults : StorageFaults) (ringId : String) (info : ReshareReadinessInfo)
    (confirmed : RingPayload) (storage : LocalStorage) :
    List BulletinPoll → Option PendingReshareBundle
  | [] => none
  | poll :: polls =>
    if !poll.live then none
    else
      match PendingReshareBundle.load faults .pet ringId storage with
      | .error _ => none
      | .ok none => waitForLocalPetBundle faults ringId info confirmed storage polls
      | .ok (some pending) =>
        if pending.bulletinPostId = ringId ∧
            peerNodeKeysMatch pending.expectedNewCommittee info.expectedNewCommittee ∧
            pending.expectedNewThreshold = info.expectedNewThreshold then
          match poll.read with
          | some payload => if payload = confirmed then some pending else none
          | none => waitForLocalPetBundle faults ringId info confirmed storage polls
        else waitForLocalPetBundle faults ringId info confirmed storage polls

/-! ## A dealer that leaves -/

/-- All errors of the deletion are storage errors; these are their texts. -/
def removeRingIndexEntry (faults : StorageFaults) (ringKey : String) (storage : LocalStorage) :
    Except String LocalStorage :=
  match faults.read .ringIndex with
  | some error => .error s!"Failed to read Reshare Dealer: RingIndex: {error}"
  | none =>
    if storage.ringIndex.isEmpty then .ok storage
    else
      match faults.set .ringIndex with
      | .error error => .error s!"Reshare Dealer: failed to write updated RingIndex: {error}"
      | .ok () =>
        .ok { storage with ringIndex := storage.ringIndex.filter (·.ringPkStr ≠ ringKey) }

/-- The entry of the ring is removed from the index before the bundle it points to. -/
def deleteDepartedRingMaterial (faults : StorageFaults) (ringKey : String)
    (storage : LocalStorage) : Logged :=
  match removeRingIndexEntry faults ringKey storage with
  | .error error => ⟨storage, [error]⟩
  | .ok storage =>
    Logged.attempt ⟨storage, []⟩
      ((faults.deleteWithRetries (.ringKey ringKey)).mapError fun error =>
        "Reshare Dealer: failed to delete finalized departed share bundle for " ++
          s!"ring {ringKey}: {error}")
      (·.deleteRingKey ringKey)

def finishDepartingDealer (faults : StorageFaults) (nodeKey key : String)
    (ringIdForPet : Option String) (finalized : Option RingPayload) (storage : LocalStorage) :
    Logged :=
  match finalized with
  | some payload =>
    if payload.peerNodeKeys.contains nodeKey then ⟨storage, []⟩
    else
      let logged := deleteDepartedRingMaterial faults key storage
      match payload.requiresPet, ringIdForPet with
      | true, some ringId =>
        logged.attempt (faults.deleteWithRetries (.petRingKey ringId))
          (·.deletePetRingKey ringId)
      | _, _ => logged
  | none => ⟨storage, []⟩

/-! ## A member of the new committee -/

/-- Committee and threshold are the expected ones.  A finalized and a cancelled reshare are told
apart in no other way. -/
def ReshareReadinessInfo.matchesPayload (info : ReshareReadinessInfo) (payload : RingPayload) :
    Bool :=
  peerNodeKeysMatch payload.peerNodeKeys info.expectedNewCommittee &&
    payload.threshold = info.expectedNewThreshold

/-- The checking key follows the main key, and only after the main bundle has been written.  A copy
on the disk whose bundle could not be promoted is kept for the next start. -/
def promoteStaged (faults : StorageFaults) (key : String) (staged : Option RingShareBundle)
    (pendingPet : Option (String × PendingReshareBundle)) (storage : LocalStorage) : Logged :=
  match staged with
  | none => ⟨storage, ["no staged bundle was found to promote"]⟩
  | some bundle =>
    match faults.set (.ringKey key) with
    | .error error => ⟨storage, [s!"Failed to store RingShareBundle: {error}"]⟩
    | .ok () =>
      let promoted : Logged := ⟨storage.saveByRingKey key bundle, []⟩
      match pendingPet with
      | none => promoted.tryClear faults .main key
      | some (ringId, pending) =>
        match faults.set (.petRingKey ringId) with
        | .error error =>
          Logged.tryClear { promoted with
            errors := [s!"Failed to store PET RingShareBundle: {error}"] } faults .main key
        | .ok () =>
          let promoted : Logged :=
            ⟨promoted.storage.saveByPetRingKey ringId pending.bundle, []⟩
          (promoted.tryClear faults .main key).tryClear faults .pet ringId

def finishContinuingCommittee (faults : StorageFaults) (key : String)
    (ringIdForPet : Option String) (info : ReshareReadinessInfo) (staged : Option RingShareBundle)
    (petPolls : List BulletinPoll) (finalized : Option RingPayload) (storage : LocalStorage) :
    Logged :=
  match finalized with
  | none => ⟨storage, []⟩
  | some payload =>
    if info.matchesPayload payload then
      if payload.requiresPet then
        match ringIdForPet with
        | none => ⟨storage, []⟩
        | some ringId =>
          match waitForLocalPetBundle faults ringId info payload storage petPolls with
          | none => ⟨storage, []⟩
          | some pending => promoteStaged faults key staged (some (ringId, pending)) storage
      else promoteStaged faults key staged none storage
    else
      let logged := Logged.tryClear ⟨storage, []⟩ faults .main key
      match payload.requiresPet, ringIdForPet with
      | true, some ringId => logged.tryClear faults .pet ringId
      | _, _ => logged

/-- Nothing is done for an attempt that has ended. -/
def waitForReshareBulletinFinalized (faults : StorageFaults) (nodeKey : String)
    (wait : ConfirmationWait) (storage : LocalStorage) : Logged :=
  let finalized :=
    match wait.bulletinPostId with
    | some _ => awaitFinalized wait.polls
    | none => some none
  match finalized, wait.ringKey with
  | some finalized, some key =>
    if !wait.live then ⟨storage, []⟩
    else
      match wait.outcome with
      | .departingDealer =>
        finishDepartingDealer faults nodeKey key wait.bulletinPostId finalized storage
      | .continuingCommittee info staged =>
        finishContinuingCommittee faults key wait.bulletinPostId info staged wait.petPolls
          finalized storage
  | _, _ => ⟨storage, []⟩

/-! ## What the functions do -/

section

variable {faults : StorageFaults} {storage : LocalStorage}

variable {info : ReshareReadinessInfo} {pending : PendingReshareBundle} {ringId : String}

/-- The bundle that is waited for is the one on the disk, and it was dealt for what is expected. -/
theorem of_waitForLocalPetBundle {confirmed : RingPayload} {polls : List BulletinPoll}
    (h : waitForLocalPetBundle faults ringId info confirmed storage polls = some pending) :
    storage.pendingAt .pet ringId = some pending ∧
      peerNodeKeysMatch pending.expectedNewCommittee info.expectedNewCommittee ∧
      pending.expectedNewThreshold = info.expectedNewThreshold := by
  induction polls with
  | nil => cases h
  | cons poll polls ih =>
    unfold waitForLocalPetBundle at h
    split at h
    · cases h
    split at h
    · cases h
    · exact ih h
    next q hload =>
      split at h
      next hexpected =>
        split at h
        · split at h
          · cases h
            exact ⟨PendingReshareBundle.pendingAt_of_load hload, hexpected.2⟩
          · cases h
        · exact ih h
      · exact ih h

variable {staged : Option RingShareBundle} {after : LocalStorage}

/-- A bundle is promoted, with that of the checking key or without, and the copies on the disk are
removed; or nothing happens. -/
theorem promoteStaged_cases {key : String} {pendingPet : Option (String × PendingReshareBundle)}
    (h : (promoteStaged faults key staged pendingPet storage).storage = after) : after = storage ∨
      ∃ bundle, staged = some bundle ∧
        (Cleared faults .main key (storage.saveActive .main key bundle) after ∨
          ∃ ringId pending mid, pendingPet = some (ringId, pending) ∧
            Cleared faults .main key
              ((storage.saveActive .main key bundle).saveActive .pet ringId pending.bundle) mid ∧
            Cleared faults .pet ringId mid after) := by
  subst h
  unfold promoteStaged
  cases staged with
  | none => exact .inl rfl
  | some bundle =>
    dsimp only
    cases faults.set (.ringKey key) with
    | error error => exact .inl rfl
    | ok _ =>
      refine .inr ⟨bundle, rfl, ?_⟩
      cases pendingPet with
      | none => exact .inl (Logged.cleared_tryClear ..)
      | some pair =>
        obtain ⟨ringId, pending⟩ := pair
        dsimp only
        cases faults.set (.petRingKey ringId) with
        | error error => exact .inl (Logged.cleared_tryClear ..)
        | ok _ =>
          exact .inr ⟨ringId, pending, _, rfl, Logged.cleared_tryClear ..,
            Logged.cleared_tryClear ..⟩

theorem expects_of_matchesPayload {payload : RingPayload} (hmatches : info.matchesPayload payload)
    (hcommittee : peerNodeKeysMatch pending.expectedNewCommittee info.expectedNewCommittee)
    (hthreshold : pending.expectedNewThreshold = info.expectedNewThreshold) :
    pending.expects payload.peerNodeKeys payload.threshold := by
  simp only [ReshareReadinessInfo.matchesPayload, Bool.and_eq_true, decide_eq_true_eq,
    peerNodeKeysMatch_iff] at hmatches hcommittee
  simp only [PendingReshareBundle.expects, Bool.and_eq_true, decide_eq_true_eq,
    peerNodeKeysMatch_iff]
  exact ⟨hmatches.1.trans hcommittee.symm, hmatches.2.trans hthreshold.symm⟩

/-- What a member of the new committee does after its wait: nothing; or it discards the copies on
the disk, for another committee or threshold; or it promotes what is expected. -/
theorem finishContinuingCommittee_cases {key : String} {petPolls : List BulletinPoll}
    {finalized : Option RingPayload}
    (h : (finishContinuingCommittee faults key (some ringId) info staged petPolls finalized
      storage).storage = after) : after = storage ∨
      (∃ mid, Cleared faults .main key storage mid ∧
        (after = mid ∨ Cleared faults .pet ringId mid after)) ∨
      ∃ payload bundle, finalized = some payload ∧ info.matchesPayload payload ∧
        staged = some bundle ∧
        (Cleared faults .main key (storage.saveActive .main key bundle) after ∨
          ∃ pending mid, storage.pendingAt .pet ringId = some pending ∧
            pending.expects payload.peerNodeKeys payload.threshold ∧
            Cleared faults .main key
              ((storage.saveActive .main key bundle).saveActive .pet ringId pending.bundle) mid ∧
            Cleared faults .pet ringId mid after) := by
  cases finalized with
  | none => exact .inl h.symm
  | some payload =>
    simp only [finishContinuingCommittee] at h
    split at h
    case isTrue hmatches =>
      split at h
      case isTrue hpet =>
        split at h
        case h_1 => exact .inl h.symm
        case h_2 pending hpending =>
          obtain ⟨hdisk, hcommittee, hthreshold⟩ := of_waitForLocalPetBundle hpending
          have hexpects := expects_of_matchesPayload hmatches hcommittee hthreshold
          rcases promoteStaged_cases h with hsame | ⟨bundle, hstaged, hmain | ⟨_, _, mid, heq, hc⟩⟩
          · exact .inl hsame
          · exact .inr (.inr ⟨payload, bundle, rfl, hmatches, hstaged, .inl hmain⟩)
          · cases heq
            exact .inr (.inr ⟨payload, bundle, rfl, hmatches, hstaged,
              .inr ⟨pending, mid, hdisk, hexpects, hc⟩⟩)
      case isFalse hpet =>
        rcases promoteStaged_cases h with hsame | ⟨bundle, hstaged, hmain | ⟨_, _, _, hnone, _⟩⟩
        · exact .inl hsame
        · exact .inr (.inr ⟨payload, bundle, rfl, hmatches, hstaged, .inl hmain⟩)
        · cases hnone
    case isFalse hmatches =>
      refine .inr (.inl ⟨_, Logged.cleared_tryClear ⟨storage, []⟩ faults .main key, ?_⟩)
      split at h
      · subst h
        rename_i heq
        cases heq
        exact .inr (Logged.cleared_tryClear ..)
      · exact .inl h.symm

theorem ringIndex_finishContinuingCommittee (faults : StorageFaults) (key ringId : String)
    (info : ReshareReadinessInfo) (staged : Option RingShareBundle) (petPolls : List BulletinPoll)
    (finalized : Option RingPayload) (storage : LocalStorage) :
    (finishContinuingCommittee faults key (some ringId) info staged petPolls finalized
      storage).storage.ringIndex = storage.ringIndex := by
  generalize hafter : (finishContinuingCommittee faults key (some ringId) info staged petPolls
    finalized storage).storage = after
  rcases finishContinuingCommittee_cases hafter with rfl | ⟨mid, hmain, rfl | hpet⟩ |
    ⟨_, _, _, _, _, hmain | ⟨_, mid, _, _, hmain, hpet⟩⟩
  · rfl
  · exact hmain.ringIndex
  · exact hpet.ringIndex.trans hmain.ringIndex
  · exact hmain.ringIndex.trans LocalStorage.ringIndex_saveActive
  · rw [hpet.ringIndex, hmain.ringIndex, LocalStorage.ringIndex_saveActive,
      LocalStorage.ringIndex_saveActive]

variable {ringKey : String}

theorem deleteDepartedRingMaterial_shrinks (faults : StorageFaults) (ringKey : String) :
    Shrinks storage (deleteDepartedRingMaterial faults ringKey storage).storage := by
  unfold deleteDepartedRingMaterial
  split
  case h_1 => exact .refl storage
  case h_2 mid hmid =>
    have hindex : Shrinks storage mid := by
      unfold removeRingIndexEntry at hmid
      split at hmid
      · cases hmid
      · split at hmid
        · cases hmid
          exact .refl storage
        · split at hmid <;> cases hmid
          exact .ringIndex fun _ => List.mem_of_mem_filter
    refine hindex.trans ?_
    unfold Logged.attempt
    split
    · exact .deleteActive mid .main ringKey
    · exact .refl mid

theorem deleteDepartedRingMaterial_deletes
    (h : (deleteDepartedRingMaterial faults ringKey storage).errors = []) :
    (deleteDepartedRingMaterial faults ringKey storage).storage.activeAt .main ringKey = none := by
  unfold deleteDepartedRingMaterial at h ⊢
  cases hindex : removeRingIndexEntry faults ringKey storage with
  | error error =>
    rw [hindex] at h
    cases h
  | ok mid =>
    rw [hindex] at h
    rw [(Logged.attempt_of_errors h).2]
    change (mid.deleteActive .main ringKey).activeAt .main ringKey = none
    simp

theorem finishDepartingDealer_shrinks (nodeKey ringKey ringId : String)
    (finalized : Option RingPayload) :
    Shrinks storage
      (finishDepartingDealer faults nodeKey ringKey (some ringId) finalized storage).storage := by
  unfold finishDepartingDealer
  split
  · split
    · exact .refl storage
    · refine (deleteDepartedRingMaterial_shrinks faults ringKey).trans ?_
      dsimp only
      split
      · unfold Logged.attempt
        split
        · exact .deleteActive _ .pet _
        · exact .refl _
      · exact .refl _
  · exact .refl storage

theorem finishDepartingDealer_deletes {nodeKey : String} {payload : RingPayload}
    (hexcluded : payload.peerNodeKeys.contains nodeKey = false)
    (herrors : (finishDepartingDealer faults nodeKey ringKey (some ringId) (some payload)
      storage).errors = []) :
    (finishDepartingDealer faults nodeKey ringKey (some ringId) (some payload)
        storage).storage.activeAt .main ringKey = none ∧
      (payload.requiresPet = true →
        (finishDepartingDealer faults nodeKey ringKey (some ringId) (some payload)
          storage).storage.activeAt .pet ringId = none) := by
  simp only [finishDepartingDealer, hexcluded, Bool.false_eq_true, if_false] at herrors ⊢
  cases hpet : payload.requiresPet with
  | false =>
    simp only [hpet] at herrors ⊢
    exact ⟨deleteDepartedRingMaterial_deletes herrors, nofun⟩
  | true =>
    simp only [hpet] at herrors ⊢
    obtain ⟨hmain, hstorage⟩ := Logged.attempt_of_errors herrors
    rw [hstorage]
    have hdelete (s : LocalStorage) : s.deletePetRingKey ringId = s.deleteActive .pet ringId := rfl
    refine ⟨?_, fun _ => ?_⟩
    · rw [hdelete, LocalStorage.activeAt_deleteActive]
      exact deleteDepartedRingMaterial_deletes hmain
    · rw [hdelete]
      simp

end

end Orbis.Node.Dkg
