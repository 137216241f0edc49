import Orbis.Node.Transport.RingSlots

/-!
# Committees and dealers

A committee is accepted if it has as many routes and assignments as keys and its identifiers are
`1, …, n`.  The keys are not compared with each other.  If none is listed twice, every identifier
belongs to one member and has a route, and the digest of a configuration determines all of it; if
one is listed twice, an identifier can belong to a key that is not listed.

An Activate is compared with the digest of the list it carries.  The digest refuses repeated
dealers and dealers of the next committee; the list is not compared with the committee, and so the
dealers of a session are members only as far as leaders send no others.

Outside of a configuration, members are numbered by the sorted order of their keys, in several
places of the program; the numberings agree.
-/

namespace Orbis.Node.Transport

open Orbis.Crypto Orbis.Data Orbis.Node.Dkg Orbis.Transition

namespace CommitteeConfig

variable {committee other : CommitteeConfig} {label : String}

def participant (committee : CommitteeConfig) (scope : CommitteeScope) (nodeKey : String) :
    Option ParticipantRef :=
  (committee.nodeIdAssignments.lookup nodeKey).map fun nodeId => ⟨scope, nodeId.toNat⟩

/-- All that have an identifier. -/
def participants (committee : CommitteeConfig) (scope : CommitteeScope) : List ParticipantRef :=
  committee.nodeIdAssignments.entries.map fun entry => ⟨scope, entry.2.toNat⟩

/-- The identifiers `1, …, n` are assigned to the listed keys, each to one of them. -/
structure Canonical (committee : CommitteeConfig) : Prop where
  keys : ∀ key, key ∈ committee.nodeIdAssignments ↔ key ∈ committee.nodeKeys
  bijOn : Set.BijOn (fun key => (committee.nodeIdAssignments.lookup key).map UInt32.toNat)
    {key | key ∈ committee.nodeKeys} (some '' Set.Icc 1 committee.nodeKeys.length)

section

variable (hvalid : committee.validate label = .ok ())
include hvalid

theorem exists_entry {nodeId : ℕ} :
    (∃ entry ∈ committee.nodeIdAssignments.entries, entry.2.toNat = nodeId) ↔
      1 ≤ nodeId ∧ nodeId ≤ committee.nodeKeys.length := by
  obtain ⟨-, -, hids, -⟩ := validate_eq_ok hvalid
  rw [← List.mem_map (f := fun entry : (_ : String) × UInt32 => entry.2.toNat), ← List.mem_toFinset,
    ← hids, List.mem_toFinset, List.mem_range'_1]
  omega

/-- As many identifiers as assignments: no two keys have one. -/
theorem nodup_ids :
    (committee.nodeIdAssignments.entries.map fun entry => entry.2.toNat).Nodup := by
  obtain ⟨-, ⟨-, hcount⟩, hids, -⟩ := validate_eq_ok hvalid
  have hcard := congrArg Finset.card hids
  rw [List.toFinset_card_of_nodup List.nodup_range', List.length_range', List.card_toFinset,
    hcount] at hcard
  have hlength : (committee.nodeIdAssignments.entries.map fun entry => entry.2.toNat).length =
      committee.nodeIdAssignments.keys.length := by
    simp [AList.keys, List.keys]
  have hself := (List.dedup_sublist _).eq_of_length (hcard.symm.trans hlength.symm)
  exact hself ▸ List.nodup_dedup _

theorem keys_of_validate (hnd : committee.nodeKeys.Nodup) (key : String) :
    key ∈ committee.nodeIdAssignments ↔ key ∈ committee.nodeKeys := by
  obtain ⟨-, ⟨-, hcount⟩, -, hassigned⟩ := validate_eq_ok hvalid
  refine ⟨fun hkey => ?_, hassigned key⟩
  apply mem_of_nodup_of_card_le (S := committee.nodeIdAssignments.keys.toFinset) hnd
  · exact fun key hkey => List.mem_toFinset.mpr (AList.mem_keys.mpr (hassigned key hkey))
  · rw [hcount]
    exact List.toFinset_card_le _
  · exact List.mem_toFinset.mpr (AList.mem_keys.mpr hkey)

omit hvalid in
theorem nodup_of_keys_subset
    (hcount : committee.nodeKeys.length = committee.nodeIdAssignments.keys.length)
    (hkeys : ∀ key ∈ committee.nodeIdAssignments, key ∈ committee.nodeKeys) :
    committee.nodeKeys.Nodup := by
  have hnodup := committee.nodeIdAssignments.keys_nodup
  exact ((List.subperm_of_subset hnodup hkeys).perm_of_length_le hcount.le).nodup_iff.mp hnodup

theorem canonical_of_validate (hnd : committee.nodeKeys.Nodup) : committee.Canonical := by
  have hkeys := keys_of_validate hvalid hnd
  have hlookup : ∀ key ∈ committee.nodeKeys, ∃ nodeId,
      committee.nodeIdAssignments.lookup key = some nodeId ∧
        ⟨key, nodeId⟩ ∈ committee.nodeIdAssignments.entries := by
    intro key hkey
    obtain ⟨nodeId, hnodeId⟩ := exists_lookup ((hkeys key).mpr hkey)
    exact ⟨nodeId, hnodeId, AList.mem_lookup_iff.mp hnodeId⟩
  refine ⟨hkeys, fun key hkey => ?_, fun key hkey key' hkey' heq => ?_, ?_⟩
  · obtain ⟨nodeId, hnodeId, hentry⟩ := hlookup key hkey
    exact ⟨nodeId.toNat, (exists_entry hvalid).mp ⟨_, hentry, rfl⟩, by simp [hnodeId]⟩
  · obtain ⟨nodeId, hnodeId, hentry⟩ := hlookup key hkey
    obtain ⟨nodeId', hnodeId', hentry'⟩ := hlookup key' hkey'
    simp only [hnodeId, hnodeId', Option.map_some, Option.some.injEq] at heq
    exact congrArg Sigma.fst (List.inj_on_of_nodup_map (nodup_ids hvalid) hentry hentry' heq)
  · rintro _ ⟨nodeId, hnodeId, rfl⟩
    obtain ⟨⟨key, id⟩, hentry, rfl⟩ := (exists_entry hvalid).mpr hnodeId
    have hlookup := AList.mem_lookup_iff.mpr hentry
    have hkey := mem_of_lookup hlookup
    exact ⟨key, (hkeys key).mp hkey, by simp [Option.mem_def.mp hlookup]⟩

end

theorem canonical_iff_nodup (hvalid : committee.validate label = .ok ()) :
    committee.Canonical ↔ committee.nodeKeys.Nodup := by
  refine ⟨fun h => ?_, canonical_of_validate hvalid⟩
  obtain ⟨-, ⟨-, hcount⟩, -⟩ := validate_eq_ok hvalid
  exact nodup_of_keys_subset hcount fun key hkey => (h.keys key).mp hkey

theorem members_congr (hkeys : committee.nodeKeys = other.nodeKeys)
    (hroutes : committee.peerRoutes = other.peerRoutes)
    (hlookup : ∀ key ∈ committee.nodeKeys,
      committee.nodeIdAssignments.lookup key = other.nodeIdAssignments.lookup key) :
    committee.members = other.members := by
  unfold CommitteeConfig.members
  rw [← hkeys, ← hroutes]
  have hmem : ∀ member ∈ committee.nodeKeys.zip committee.peerRoutes,
      member.1 ∈ committee.nodeKeys := fun member hmember => (List.of_mem_zip hmember).1
  generalize committee.nodeKeys.zip committee.peerRoutes = members at hmem
  induction members with
  | nil => rfl
  | cons member members ih =>
    obtain ⟨nodeKey, peerRoute⟩ := member
    obtain ⟨hmember, hrest⟩ := List.forall_mem_cons.mp hmem
    rw [List.mapM_cons, List.mapM_cons, ih hrest]
    simp only [hlookup _ hmember]

/-- A key that is listed twice leaves an identifier to a key that is not listed, and the hashed
bytes do not name that key. -/
theorem exists_same_preimage (hvalid : committee.validate label = .ok ())
    (hdup : ¬committee.nodeKeys.Nodup) :
    ∃ other : CommitteeConfig, other.validate label = .ok () ∧
      other.preimage = committee.preimage ∧ ¬AgreesOn Set.univ committee other := by
  obtain ⟨key, hkey, hunlisted⟩ :
      ∃ key ∈ committee.nodeIdAssignments, key ∉ committee.nodeKeys := by
    by_contra! hlisted
    exact hdup (nodup_of_keys_subset (validate_eq_ok hvalid).2.1.2 hlisted)
  obtain ⟨fresh, hfresh⟩ := Infinite.exists_notMem_finset committee.nodeIdAssignments.keys.toFinset
  rw [List.mem_toFinset, ← AList.mem_keys] at hfresh
  obtain ⟨nodeId, before, after, -, hentries, herase⟩ := List.exists_of_kerase hkey
  -- The identifier of `key` goes to a key that nobody has.
  let other : CommitteeConfig := { committee with
    nodeIdAssignments := (committee.nodeIdAssignments.erase key).insert fresh nodeId }
  have hother : other.nodeIdAssignments.entries = ⟨fresh, nodeId⟩ :: (before ++ after) :=
    (AList.entries_insert_of_notMem fun hmem => hfresh (AList.mem_erase.mp hmem).2).trans
      (congrArg _ herase)
  have hassigned : ∀ listed ∈ committee.nodeKeys,
      other.nodeIdAssignments.lookup listed = committee.nodeIdAssignments.lookup listed := by
    intro listed hlisted
    have hmem := (validate_eq_ok hvalid).2.2.2 listed hlisted
    have hne : listed ≠ fresh := fun heq => hfresh (heq ▸ hmem)
    have hne' : listed ≠ key := fun heq => hunlisted (heq ▸ hlisted)
    rw [AList.lookup_insert_ne hne, AList.lookup_erase_ne hne']
  refine ⟨other, ?_, ?_, fun hagrees => ?_⟩
  · simp only [validate, require_bind_eq_ok, require_eq_ok] at hvalid ⊢
    obtain ⟨hempty, hsize, ⟨hroutes, hcount⟩, hthreshold, hids, hall⟩ := hvalid
    refine ⟨hempty, hsize, ⟨hroutes, ?_⟩, hthreshold, ?_, fun listed hlisted => ?_⟩
    · rw [keys_length, hentries] at hcount
      rw [keys_length, hother]
      rw [List.length_append, List.length_cons, ← add_assoc, ← List.length_append] at hcount
      exact hcount
    · rw [hentries] at hids
      rw [hother]
      refine hids.trans (List.toFinset_eq_of_perm _ _ ?_)
      simp only [List.map_append, List.map_cons]
      exact List.perm_middle
    · exact (mem_iff_of_lookup_eq (hassigned listed hlisted)).mpr (hall listed hlisted)
  · unfold preimage
    rw [show other.members = committee.members from members_congr rfl rfl hassigned]
  · have hsame := hagrees.nodeId fresh trivial
    rw [AList.lookup_insert, AList.lookup_eq_none.mpr hfresh] at hsame
    cases hsame

theorem Agrees.on_univ (h : committee.Agrees other) (hcanonical : committee.Canonical)
    (hcanonical' : other.Canonical) : AgreesOn Set.univ committee other := by
  refine ⟨h.claim, h.threshold, fun key _ => ?_⟩
  by_cases hkey : key ∈ committee.nodeKeys
  · exact h.nodeId key hkey
  · have hkeys : committee.nodeKeys = other.nodeKeys := congrArg Prod.fst h.claim
    rw [AList.lookup_eq_none.mpr fun hmem => hkey ((hcanonical.keys key).mp hmem),
      AList.lookup_eq_none.mpr fun hmem => hkey (hkeys ▸ (hcanonical'.keys key).mp hmem)]

end CommitteeConfig

namespace CeremonyConfig

variable (committees : CeremonyConfig)

def committee : CommitteeScope → Option CommitteeConfig
  | .current => some committees.current
  | .next => committees.next

def nodeKey (participant : ParticipantRef) : Option String := do
  let committee ← committees.committee participant.scope
  let entry ← committee.nodeIdAssignments.entries.find? fun entry =>
    entry.2.toNat = participant.nodeId
  pure entry.1

def route (participant : ParticipantRef) : Option String := do
  let committee ← committees.committee participant.scope
  let key ← committees.nodeKey participant
  let index ← committee.nodeKeys.idxOf? key
  committee.peerRoutes[index]?

variable {committees} {committee : CommitteeConfig} {scope : CommitteeScope} {label : String}

theorem isSome_route (hscope : committees.committee scope = some committee)
    (hvalid : committee.validate label = .ok ()) (hnd : committee.nodeKeys.Nodup) {nodeId : ℕ}
    (hnodeId : 1 ≤ nodeId ∧ nodeId ≤ committee.nodeKeys.length) :
    (committees.route ⟨scope, nodeId⟩).isSome := by
  obtain ⟨-, ⟨hroutes, -⟩, -⟩ := CommitteeConfig.validate_eq_ok hvalid
  obtain ⟨entry, hentry, hid⟩ := (CommitteeConfig.exists_entry hvalid).mpr hnodeId
  have hfound : (committee.nodeIdAssignments.entries.find? fun entry =>
      entry.2.toNat = nodeId).isSome :=
    List.find?_isSome.mpr ⟨entry, hentry, by simpa using hid⟩
  obtain ⟨found, hfind⟩ := Option.isSome_iff_exists.mp hfound
  have hkey : found.1 ∈ committee.nodeKeys :=
    (CommitteeConfig.keys_of_validate hvalid hnd found.1).mp
      (AList.mem_keys.mpr (List.mem_keys_of_mem (List.mem_of_find?_eq_some hfind)))
  obtain ⟨index, hindex⟩ := Option.isSome_iff_exists.mp (List.isSome_idxOf?.mpr hkey)
  have hlt : index < committee.peerRoutes.length := by
    rw [← hroutes]
    exact (List.idxOf?_eq_some_iff.mp hindex).1
  simp [route, nodeKey, hscope, hfind, hindex, hlt]

end CeremonyConfig

section

variable [Sha256] [LawfulSha256] [Serde SessionKind]

theorem valid_of_configDigest {prepare : PrepareSession} {digest : Bytes32}
    (h : configDigest prepare = .ok digest) {scope : CommitteeScope} {committee : CommitteeConfig}
    (hscope : prepare.committees.committee scope = some committee) :
    ∃ label, committee.validate label = .ok () := by
  obtain ⟨bytes, hbytes, -⟩ := configDigest_eq_ok h
  obtain ⟨_, hvalid, -⟩ := bind_eq_ok.mp hbytes
  obtain ⟨hcurrent, hnext⟩ := CeremonyConfig.validate_eq_ok hvalid
  cases scope with
  | current =>
    cases hscope
    exact ⟨_, hcurrent⟩
  | next => exact ⟨_, hnext committee hscope⟩

/-- Prepares with one digest have the same configuration if the committees of one list no key
twice. -/
theorem rel_of_nodup [SelfDelimiting SessionKind] {prepare other : PrepareSession}
    {digest : Bytes32} {hashed : Set Bytes} (hfree : Set.InjOn sha256 hashed)
    (hprepare : ∀ bytes, prepare.configPreimage = .ok bytes → bytes ∈ hashed)
    (hother : ∀ bytes, other.configPreimage = .ok bytes → bytes ∈ hashed)
    (h : configDigest prepare = .ok digest) (h' : configDigest other = .ok digest)
    (hnd : ∀ scope, ∀ committee ∈ prepare.committees.committee scope, committee.nodeKeys.Nodup) :
    prepare.Agrees other ∧ ∀ scope, Option.Rel (CommitteeConfig.AgreesOn Set.univ)
      (prepare.committees.committee scope) (other.committees.committee scope) := by
  have hagrees := agrees_of_configDigest hfree hprepare hother h h'
  have hall : ∀ scope committee committee', committee.Agrees committee' →
      prepare.committees.committee scope = some committee →
      other.committees.committee scope = some committee' →
      CommitteeConfig.AgreesOn Set.univ committee committee' := by
    intro scope committee committee' hsame hscope hscope'
    obtain ⟨_, hvalid⟩ := valid_of_configDigest h hscope
    obtain ⟨_, hvalid'⟩ := valid_of_configDigest h' hscope'
    have hkeys : committee.nodeKeys = committee'.nodeKeys := congrArg Prod.fst hsame.claim
    have hnd := hnd scope committee hscope
    exact hsame.on_univ (CommitteeConfig.canonical_of_validate hvalid hnd)
      (CommitteeConfig.canonical_of_validate hvalid' (hkeys ▸ hnd))
  refine ⟨hagrees, fun scope => ?_⟩
  cases scope with
  | current => exact .some (hall .current _ _ hagrees.current rfl rfl)
  | next =>
    have hnext := hagrees.next
    have hall := hall .next
    simp only [CeremonyConfig.committee] at hall ⊢
    generalize prepare.committees.next = next at *
    generalize other.committees.next = next' at *
    cases hnext with
    | none => exact .none
    | some hsame => exact .some (hall _ _ hsame rfl rfl)

omit [Sha256] [LawfulSha256] in
theorem PrepareSession.exists_same_preimage {prepare : PrepareSession} {bytes : Bytes}
    (h : prepare.configPreimage = .ok bytes) {scope : CommitteeScope} {committee : CommitteeConfig}
    (hscope : prepare.committees.committee scope = some committee)
    (hdup : ¬committee.nodeKeys.Nodup) :
    ∃ other : PrepareSession, other.configPreimage = .ok bytes ∧
      ¬Option.Rel (CommitteeConfig.AgreesOn Set.univ) (prepare.committees.committee scope)
        (other.committees.committee scope) := by
  obtain ⟨_, hvalid, -⟩ := bind_eq_ok.mp h
  obtain ⟨hcurrent, hnext⟩ := CeremonyConfig.validate_eq_ok hvalid
  cases scope with
  | current =>
    cases hscope
    obtain ⟨other, hother, hsame, hdiffers⟩ := CommitteeConfig.exists_same_preimage hcurrent hdup
    refine ⟨{ prepare with committees.current := other }, ?_, fun hrel => ?_⟩
    · rw [← h]
      simp only [configPreimage, CeremonyConfig.validate, hsame, hother, hcurrent]
    · cases hrel with
      | some hagrees => exact hdiffers hagrees
  | next =>
    change prepare.committees.next = some committee at hscope
    have hmember := hnext committee hscope
    obtain ⟨other, hother, hsame, hdiffers⟩ := CommitteeConfig.exists_same_preimage hmember hdup
    refine ⟨{ prepare with committees.next := some other }, ?_, fun hrel => ?_⟩
    · rw [← h]
      simp only [configPreimage, CeremonyConfig.validate, CommitteeConfig.preimageOpt, hscope,
        hsame, hother, hmember]
    · simp only [CeremonyConfig.committee, hscope] at hrel
      cases hrel with
      | some hagrees => exact hdiffers hagrees

/-- An accepted committee assigns `1, …, n` to its members and has a route for each exactly when it
lists no key twice. The digest of a Prepare determines the configuration exactly when none of its
committees lists a key twice. -/
theorem configuration_determined [SelfDelimiting SessionKind] :
    (∀ {committees : CeremonyConfig} {scope : CommitteeScope} {committee : CommitteeConfig}
        {label : String}, committees.committee scope = some committee →
      committee.validate label = .ok () →
      ((committee.Canonical ∧ ∀ nodeId, 1 ≤ nodeId ∧ nodeId ≤ committee.nodeKeys.length →
        (committees.route ⟨scope, nodeId⟩).isSome) ↔ committee.nodeKeys.Nodup)) ∧
    ∀ {prepare : PrepareSession} {digest : Bytes32}, configDigest prepare = .ok digest →
      ((∀ (other : PrepareSession) (hashed : Set Bytes), Set.InjOn sha256 hashed →
          (∀ bytes, prepare.configPreimage = .ok bytes → bytes ∈ hashed) →
          (∀ bytes, other.configPreimage = .ok bytes → bytes ∈ hashed) →
          configDigest other = .ok digest →
          prepare.Agrees other ∧ ∀ scope, Option.Rel (CommitteeConfig.AgreesOn Set.univ)
            (prepare.committees.committee scope) (other.committees.committee scope)) ↔
        ∀ scope, ∀ committee ∈ prepare.committees.committee scope, committee.nodeKeys.Nodup) := by
  refine ⟨fun {committees scope committee label} hscope hvalid => ?_, fun {prepare digest} h => ?_⟩
  · rw [CommitteeConfig.canonical_iff_nodup hvalid, and_iff_left_iff_imp]
    exact fun hnd nodeId hnodeId => CeremonyConfig.isSome_route hscope hvalid hnd hnodeId
  · refine ⟨fun hall scope committee hscope => ?_,
      fun hnd other hashed hfree hprepare hother h' => ?_⟩
    · by_contra hdup
      obtain ⟨bytes, hbytes, hdigest⟩ := configDigest_eq_ok h
      obtain ⟨other, hother, hdiffers⟩ :=
        PrepareSession.exists_same_preimage hbytes (Option.mem_def.mp hscope) hdup
      have hone : ∀ bytes', (.ok bytes : Except String Bytes) = .ok bytes' →
          bytes' ∈ ({bytes} : Set Bytes) :=
        fun _ heq => (Except.ok.inj heq).symm
      refine hdiffers ((hall other {bytes} (Set.injOn_singleton _ _) (hbytes ▸ hone)
        (hother ▸ hone) ?_).2 scope)
      rw [configDigest, hother, ← h, configDigest, hbytes]
    · exact rel_of_nodup hfree hprepare hother h h' hnd

end

/-! ## Dealers -/

namespace Follower

def transportActiveDealers (ceremonyId : CeremonyId) (s : Follower) :
    Option (List ParticipantRef) :=
  (s.sessions ceremonyId).map fun session =>
    (session.lifecycle.activation.map ActivatedTransport.activeDealers).getD []

end Follower

def CeremonyConfig.participants (committees : CeremonyConfig) : List ParticipantRef :=
  committees.current.participants .current ++
    (committees.next.map fun next => next.participants .next).getD []

/-- `activeDealers` are the dealers of the session, if there is one. -/
def expectedPublicOrigins (activeDealers : Option (List ParticipantRef)) (prepare : PrepareSession)
    (phase : PublicPhase) : Finset ParticipantRef :=
  if phase = .refreshHealthCheck then
    (prepare.committees.current.participant .current prepare.leaderNodeKey).toFinset
  else if phase = .reshareParticipantSet then {⟨.next, 1⟩}
  else if prepare.kind.isReshare ∧ phase = .commitmentAudit then
    ((prepare.committees.next.map fun next => next.participants .next).getD []).toFinset
  else if prepare.kind.isReshare ∧ phase = .commitments then (activeDealers.getD []).toFinset
  else (prepare.committees.current.participants .current).toFinset

namespace Follower

/-- A list that was sent in an Activate for the attempt, and that its digest does not refuse. -/
structure Dealt (schedule : List (Move Input Answer)) (attempt : AttemptKey)
    (dealers : List ParticipantRef) : Prop where
  sent : ∃ sender digest, .start (.activate sender attempt digest dealers) ∈ schedule
  nodup : dealers.Nodup
  current : ∀ dealer ∈ dealers, dealer.scope = .current

/-- The dealers of a lifecycle, if it is activated, were dealt for its attempt. -/
def Enlisted (schedule : List (Move Input Answer)) (ceremonyId : CeremonyId)
    (lifecycle : TransportLifecycle) : Prop :=
  ∀ activation, lifecycle.activation = some activation → ∃ attemptId,
    lifecycle.attemptId = some attemptId ∧
      Dealt schedule ⟨ceremonyId, attemptId⟩ activation.activeDealers

def AllEnlisted (schedule : List (Move Input Answer)) (s : Follower) : Prop :=
  ∀ ceremonyId session, s.sessions ceremonyId = some session →
    Enlisted schedule ceremonyId session.lifecycle

section

variable {schedule : List (Move Input Answer)} {ceremonyId : CeremonyId}
  {lifecycle : TransportLifecycle}

theorem Enlisted.configureTransport (h : Enlisted schedule ceremonyId lifecycle)
    (attempt : AttemptKey) (transport : ConfiguredTransport) :
    Enlisted schedule ceremonyId (lifecycle.configureTransport attempt transport).1 := by
  unfold TransportLifecycle.configureTransport
  split_ifs
  · exact h
  · split
    · exact h
    · rintro _ ⟨⟩

theorem Enlisted.activateTransport (h : Enlisted schedule ceremonyId lifecycle)
    {attemptId : AttemptId} (digest : Bytes32) {dealers : List ParticipantRef}
    (hdealt : Dealt schedule ⟨ceremonyId, attemptId⟩ dealers) :
    Enlisted schedule ceremonyId (lifecycle.activateTransport attemptId digest dealers).1 := by
  unfold TransportLifecycle.activateTransport
  split_ifs with hstale
  · exact h
  · split
    · rintro _ ⟨⟩
      exact ⟨attemptId, not_not.mp hstale, hdealt⟩
    all_goals exact h

theorem Enlisted.beginTransport (h : Enlisted schedule ceremonyId lifecycle)
    (attemptId : AttemptId) (digest : Bytes32) :
    Enlisted schedule ceremonyId (lifecycle.beginTransport attemptId digest).1 := by
  unfold TransportLifecycle.beginTransport
  split_ifs
  · exact h
  · split
    · split_ifs <;> exact h
    all_goals exact h

end

variable [Sha256] [LawfulSha256] [Serde (List ParticipantRef)]

/-- The digest of a list refuses repeated dealers and those of the next committee. -/
theorem dealt_of_activationDigest {configDigest digest : Bytes32} {dealers : List ParticipantRef}
    (h : activationDigest configDigest dealers = .ok digest) :
    dealers.Nodup ∧ ∀ dealer ∈ dealers, dealer.scope = .current := by
  obtain ⟨⟨hlength, hcurrent⟩, -⟩ := require_bind_eq_ok.mp h
  have hnd := nodup_of_sortDedup_length hlength
  exact ⟨hnd, fun dealer hdealer => hcurrent dealer ((sortDedup_perm hnd).mem_iff.mpr hdealer)⟩

theorem AllEnlisted.step {schedule : List (Move Input Answer)} {input : Input} {s s' : Follower}
    (hinput : .start input ∈ schedule) (hstep : Steps input s s') (h : AllEnlisted schedule s) :
    AllEnlisted schedule s' := by
  intro ceremonyId session' hsession'
  have hold := h ceremonyId
  have hone := hstep ceremonyId
  rw [hsession'] at hone
  generalize s.sessions ceremonyId = before at hold hone
  cases hone with
  | same => exact hold session' rfl
  | created attempt ringKey => rintro _ ⟨⟩
  | configured session attempt transport => exact (hold session rfl).configureTransport attempt _
  | activated session input_eq ceremony_eq digest_eq =>
    subst input_eq ceremony_eq
    obtain ⟨hnd, hcurrent⟩ := dealt_of_activationDigest digest_eq
    exact (hold session rfl).activateTransport _ ⟨⟨_, _, hinput⟩, hnd, hcurrent⟩
  | begun session attemptId digest => exact (hold session rfl).beginTransport attemptId digest

variable [NodeSigning] (signingKeyHex nodeKey : String) [Serde SessionKind]

theorem allEnlisted_after (schedule : List (Move Input Answer)) :
    AllEnlisted schedule (after signingKeyHex nodeKey schedule) := by
  have hhandler : ∀ input, .start input ∈ schedule →
      (handler signingKeyHex nodeKey input).Keeps
        fun s s' => AllEnlisted schedule s → AllEnlisted schedule s' := by
    intro input hinput
    exact (steps_handler signingKeyHex nodeKey input).mono fun _ _ hstep h => h.step hinput hstep
  exact ((Pool.keeps_empty idle).run (fun _ h => h) hhandler
    (fun _ _ (_ : True) hrel h => hrel h) (along_of_forall (fun _ _ => trivial) _ _)
    fun _ _ hsession => nomatch hsession).2

/-- The dealers of a session are those of an Activate for its attempt.  They are distinct members of
the committee, at least a threshold, and only participants are expected as origins, exactly when
that Activate names at least a threshold of numbers that are at most the size of the committee. -/
theorem activated_dealers_are_members {schedule : List (Move Input Answer)}
    {prepare : PrepareSession} {label : String}
    (hvalid : prepare.committees.current.validate label = .ok ())
    {session : Session} {activation : ActivatedTransport}
    (hsession : (after signingKeyHex nodeKey schedule).sessions prepare.ceremonyId = some session)
    (hattempt : session.attempt = some prepare.attempt)
    (hactive : session.lifecycle.activation = some activation) :
    ∃ sender digest dealers,
      .start (.activate sender prepare.attempt digest dealers) ∈ schedule ∧
      activation.activeDealers = dealers ∧
      ((activation.activeDealers.Nodup ∧
          (∀ dealer ∈ activation.activeDealers,
            dealer ∈ prepare.committees.current.participants .current) ∧
          prepare.committees.current.threshold.toNat ≤ activation.activeDealers.length ∧
          (prepare.kind.isReshare → ∀ origin ∈ expectedPublicOrigins
            (transportActiveDealers prepare.ceremonyId (after signingKeyHex nodeKey schedule))
            prepare .commitments, origin ∈ prepare.committees.participants)) ↔
        prepare.committees.current.threshold.toNat ≤ dealers.length ∧
          ∀ dealer ∈ dealers,
            dealer.nodeId ∈ Set.Icc 1 prepare.committees.current.nodeKeys.length) := by
  obtain ⟨attemptId, hid, hdealt⟩ := allEnlisted_after signingKeyHex nodeKey schedule _ _ hsession
    activation hactive
  have hid' : session.lifecycle.attemptId = some prepare.attemptId :=
    congrArg (Option.map AttemptKey.attemptId) hattempt
  rw [hid] at hid'
  cases hid'
  obtain ⟨sender, digest, hsent⟩ := hdealt.sent
  have hmember : ∀ dealer ∈ activation.activeDealers,
      (dealer ∈ prepare.committees.current.participants .current ↔
        dealer.nodeId ∈ Set.Icc 1 prepare.committees.current.nodeKeys.length) := by
    rintro ⟨scope, nodeId⟩ hdealer
    obtain rfl : scope = .current := hdealt.current _ hdealer
    rw [Set.mem_Icc, ← CommitteeConfig.exists_entry hvalid]
    simp [CommitteeConfig.participants]
  refine ⟨sender, digest, _, hsent, rfl, ?_, ?_⟩
  · rintro ⟨-, hall, hthreshold, -⟩
    exact ⟨hthreshold, fun dealer hdealer => (hmember dealer hdealer).mp (hall dealer hdealer)⟩
  · rintro ⟨hthreshold, hall⟩
    have hall := fun dealer hdealer => (hmember dealer hdealer).mpr (hall dealer hdealer)
    refine ⟨hdealt.nodup, hall, hthreshold, fun hkind origin horigin => ?_⟩
    simp only [expectedPublicOrigins, transportActiveDealers, hsession, hactive, hkind,
      reduceCtorEq, and_false, and_self, ↓reduceIte, Option.map_some, Option.getD_some,
      List.mem_toFinset] at horigin
    exact List.mem_append_left _ (hall origin horigin)

end Follower

/-! ## Numberings -/

/-- `node_index_in`; the committee is sorted. -/
def nodeIndexIn (sortedCommittee : List String) (ourNodeKey : String) : Except Dkg.DkgError ℕ :=
  match sortedCommittee.idxOf? ourNodeKey with
  | some index => .ok (asU32 (index + 1))
  | none => .error (.invalidInput s!"node '{ourNodeKey}' not found in sorted committee")

section Numbering

variable {keys sorted : List String} (hnd : keys.Nodup)
  (hplain : ∀ key ∈ keys, '@' ∉ key.toList) (hsort : keys.insertionSort (· ≤ ·) = sorted)

include hnd hplain hsort

theorem sortDedup_nodeParts : sortDedup (keys.map extractNodePart) = sorted := by
  have hparts : keys.map extractNodePart = keys :=
    (List.map_congr_left fun key hkey => extractNodePart_of_plain (hplain key hkey)).trans
      (List.map_id _)
  rw [hparts, sortDedup_of_nodup hnd, hsort]

theorem determineSessionNodeId_getElem {i : ℕ} (hi : i < sorted.length) :
    determineSessionNodeId sorted[i] keys = some (asU32 (i + 1)) := by
  have hsorted : sorted.Nodup := hsort ▸ (List.perm_insertionSort _ keys).nodup_iff.mpr hnd
  have hkey : sorted[i] ∈ keys := by
    rw [← List.mem_insertionSort (· ≤ ·), hsort]
    exact List.getElem_mem hi
  unfold determineSessionNodeId
  simp only
  rw [sortDedup_nodeParts hnd hplain hsort, extractNodePart_of_plain (hplain _ hkey),
    idxOf?_getElem_of_nodup hsorted hi, Option.map_some]

end Numbering

/-- Every way to number the members of a committee gives the place of the key in the sorted order,
for every order in which the keys are listed. -/
theorem numberings_agree {keys : List String} (hnd : keys.Nodup)
    (hplain : ∀ key ∈ keys, '@' ∉ key.toList) (hlen : keys.length < 2 ^ 32) :
    ∃ number : String → ℕ, Set.BijOn number {key | key ∈ keys} (Set.Icc 1 keys.length) ∧
      ∀ keys' : List String, keys'.Perm keys →
        (∀ key ∈ keys, determineSessionNodeId key keys' = some (number key) ∧
          nodeIndexIn (keys'.insertionSort (· ≤ ·)) key = .ok (number key) ∧
          nodeKeyForId (number key) keys' = some key ∧
          nodeKeyForCanonicalNodeId (number key) keys' = some key) ∧
        canonicalNodeIdAssignmentsFromNodeKeys keys' =
          .ok ((keys'.insertionSort (· ≤ ·)).map fun key => (key, number key)) ∧
        ∀ nodeId ∉ Set.Icc 1 keys.length,
          nodeKeyForId nodeId keys' = none ∧ nodeKeyForCanonicalNodeId nodeId keys' = none := by
  have hsame : ∀ keys' : List String, keys'.Perm keys →
      keys'.insertionSort (· ≤ ·) = keys.insertionSort (· ≤ ·) := by
    intro keys' hperm
    have hnd' : keys'.Nodup := hperm.nodup_iff.mpr hnd
    rw [← sortDedup_of_nodup hnd, ← sortDedup_of_nodup hnd', sortDedup_congr hnd' hperm]
  have hsorted := (List.perm_insertionSort (· ≤ ·) keys).nodup_iff.mpr hnd
  have hlength := List.length_insertionSort (· ≤ ·) keys
  have hmem : ∀ key, key ∈ keys ↔ key ∈ keys.insertionSort (· ≤ ·) :=
    fun key => (List.mem_insertionSort _).symm
  generalize keys.insertionSort (· ≤ ·) = sorted at hsame hsorted hlength hmem
  refine ⟨fun key => sorted.idxOf key + 1, ⟨?_, ?_, ?_⟩, fun keys' hperm => ?_⟩
  · intro key hkey
    have hlt := List.idxOf_lt_length_of_mem ((hmem key).mp hkey)
    simp only [Set.mem_Icc]
    omega
  · intro key hkey key' hkey' heq
    exact (List.idxOf_inj ((hmem key).mp hkey)).mp (Nat.succ.inj heq)
  · intro nodeId hnodeId
    rw [Set.mem_Icc] at hnodeId
    have hi : nodeId - 1 < sorted.length := by omega
    refine ⟨sorted[nodeId - 1], (hmem _).mpr (List.getElem_mem hi), ?_⟩
    simp only [hsorted.idxOf_getElem]
    omega
  have hsort := hsame keys' hperm
  have hnd' : keys'.Nodup := hperm.nodup_iff.mpr hnd
  have hplain' : ∀ key ∈ keys', '@' ∉ key.toList := fun key hkey =>
    hplain key (hperm.mem_iff.mp hkey)
  have hlen' : keys'.length < 2 ^ 32 := hperm.length_eq ▸ hlen
  refine ⟨fun key hkey => ?_, ?_, fun nodeId hnodeId => ?_⟩
  · obtain ⟨i, hi, rfl⟩ := List.mem_iff_getElem.mp ((hmem key).mp hkey)
    have hcast : asU32 (i + 1) = i + 1 := asU32_of_lt (by omega)
    simp only [hsorted.idxOf_getElem, hsort]
    refine ⟨?_, ?_, ?_, ?_⟩
    · rw [determineSessionNodeId_getElem hnd' hplain' hsort hi, hcast]
    · rw [nodeIndexIn, idxOf?_getElem_of_nodup hsorted hi]
      exact congrArg Except.ok hcast
    · rw [nodeKeyForId, if_neg (by omega), sortDedup_nodeParts hnd' hplain' hsort,
        Nat.add_sub_cancel, List.getElem?_eq_getElem hi]
    · apply nodeKeyForCanonicalNodeId_of_getElem? hlen' hnd' (by omega)
      rw [hsort, Nat.add_sub_cancel, List.getElem?_eq_getElem hi]
  · obtain ⟨assignments, hassignments⟩ := exists_canonicalNodeIdAssignments hnd'
    rw [hassignments, (nodup_of_canonicalNodeIdAssignments hassignments).2, hsort]
    congr 1
    apply List.ext_getElem (by simp)
    intro i hi _
    rw [List.length_map, List.length_zipIdx] at hi
    simp only [List.getElem_map, List.getElem_zipIdx, hsorted.idxOf_getElem, Nat.zero_add]
    rw [asU32_of_lt (by omega)]
  · rw [Set.mem_Icc, ← hperm.length_eq] at hnodeId
    refine ⟨Option.eq_none_iff_forall_ne_some.mpr fun key hkey => ?_,
      Option.eq_none_iff_forall_ne_some.mpr fun key hkey => ?_⟩
    · exact hnodeId (nodeKeyForId_range hkey)
    · obtain ⟨-, hzero, hget⟩ := getElem?_of_nodeKeyForCanonicalNodeId hlen' hkey
      obtain ⟨hlt, -⟩ := List.getElem?_eq_some_iff.mp hget
      rw [List.length_insertionSort] at hlt
      omega

theorem numberings_agree_three :
    ∃ number : String → ℕ, Set.BijOn number {key | key ∈ ["c", "a", "b"]} (Set.Icc 1 3) ∧
      determineSessionNodeId "a" ["b", "c", "a"] = some (number "a") := by
  have hnodup : ["c", "a", "b"].Nodup := by decide
  obtain ⟨number, hbij, h⟩ := numberings_agree hnodup (by decide) (by decide)
  exact ⟨number, hbij, ((h ["b", "c", "a"] (by decide)).1 "a" (by decide)).1⟩

/-- With `2 ^ 32` members, the number of the last one wraps around to zero. -/
theorem number_of_last_wraps :
    ∃ keys : List String, keys.Nodup ∧ (∀ key ∈ keys, '@' ∉ key.toList) ∧
      ∃ key ∈ keys, determineSessionNodeId key keys = some 0 := by
  have hmany : ∀ n, ∃ keys : List String, keys.Nodup ∧ (∀ key ∈ keys, '@' ∉ key.toList) ∧
      keys.length = n := by
    intro n
    refine ⟨(List.range n).map fun k => String.ofList (List.replicate k 'a'), ?_, ?_, by simp⟩
    · refine List.Nodup.map (fun j k h => ?_) List.nodup_range
      have hlength := congrArg (fun key => key.toList.length) h
      simpa using hlength
    · intro key hkey
      obtain ⟨k, -, rfl⟩ := List.mem_map.mp hkey
      simp [List.mem_replicate]
  obtain ⟨keys, hnd, hplain, hlen⟩ := hmany (2 ^ 32)
  have hlast : 2 ^ 32 - 1 < (keys.insertionSort (· ≤ ·)).length := by
    rw [List.length_insertionSort, hlen]
    omega
  refine ⟨keys, hnd, hplain, _, (List.mem_insertionSort _).mp (List.getElem_mem hlast), ?_⟩
  rw [determineSessionNodeId_getElem hnd hplain rfl hlast]
  rfl

/-! ## Two members -/

namespace Pair

open scoped Plain Echo

local instance memberDealers : Serde (List ParticipantRef) :=
  .known [([1], [⟨.current, 1⟩, ⟨.current, 2⟩]), ([2], [⟨.current, 99⟩])]

/-- The digest does not cover the field that holds it. -/
theorem configuration_determined_pair :
    committee.Canonical ∧
      (ceremony .fresh zeros zeros).Agrees (ceremony .fresh zeros ones) := by
  obtain ⟨hcommittee, hprepare⟩ := configuration_determined
  have hscope : (⟨committee, none⟩ : CeremonyConfig).committee .current = some committee := rfl
  have hvalid : committee.validate "current" = .ok () := by decide +kernel
  obtain ⟨digest, hdigest⟩ : ∃ digest, configDigest (ceremony .fresh zeros zeros) = .ok digest :=
    ⟨_, rfl⟩
  have hdigest' : configDigest (ceremony .fresh zeros ones) = .ok digest := hdigest
  have hfree : Set.InjOn sha256
      {bytes | (ceremony .fresh zeros zeros).configPreimage = .ok bytes} := by
    rintro bytes hbytes bytes' hbytes' -
    exact Except.ok.inj (hbytes.symm.trans hbytes')
  refine ⟨((hcommittee hscope hvalid).mpr (by decide)).1,
    ((hprepare hdigest).mpr ?_ (ceremony .fresh zeros ones) _ hfree (fun _ h => h) (fun _ h => h)
      hdigest').1⟩
  · rintro scope members hmembers
    cases scope <;> cases hmembers
    decide

/-- `a` is listed twice, and `name` is not listed. -/
def doubled (name : String) : CommitteeConfig :=
  { committee with
    nodeKeys := ["a", "a"]
    nodeIdAssignments := [⟨"a", 1⟩, ⟨name, 2⟩].toAList
    fits := by decide +kernel }

def naming (name : String) : PrepareSession :=
  { ceremony .fresh zeros zeros with committees := ⟨doubled name, none⟩ }

/-- The committee is accepted, the second identifier has no route, and the hashed bytes do not say
whose it is. -/
theorem identifier_of_unlisted_key :
    (doubled "b").validate "current" = .ok () ∧
      (naming "b").committees.route ⟨.current, 2⟩ = none ∧
      (naming "b").configPreimage = (naming "c").configPreimage ∧
      (naming "b").configPreimage.toOption.isSome ∧
      (doubled "b").nodeIdAssignments.lookup "b" = some 2 ∧
      (doubled "c").nodeIdAssignments.lookup "b" = none := by
  decide +kernel

/-- A reshare among the two. -/
def reshareWith (configDigest : Bytes32) : PrepareSession :=
  { ceremony (.reshare "pk" ["a", "b"] 2 "post") zeros configDigest with
    committees := ⟨committee, some committee⟩ }

def reshareDigest : Bytes32 := (configDigest (reshareWith zeros)).toOption.getD zeros

/-- The reshare is prepared, and then activated with the dealers. -/
def activated (dealers : List ParticipantRef) : List (Move Follower.Input Answer) :=
  .start (.prepare [0xaa] (reshareWith reshareDigest)) ::
    List.replicate 10 (.resume 0 undisturbed) ++
    .start (.activate [0xaa] first ((activationDigest reshareDigest dealers).toOption.getD zeros)
      dealers) :: List.replicate 5 (.resume 1 undisturbed)

/-- The leader names a node that nobody knows, and the Activate is acknowledged. -/
theorem stranger_activated :
    Follower.transportActiveDealers 7 (Follower.after "key" "b" (activated [⟨.current, 99⟩])) =
        some [⟨.current, 99⟩] ∧
      (Follower.after "key" "b" (activated [⟨.current, 99⟩])).log.map SignedControl.messageKind =
        ["prepared", "activated"] ∧
      1 < committee.threshold ∧
      ⟨.current, 99⟩ ∈ expectedPublicOrigins (some [⟨.current, 99⟩]) (reshareWith reshareDigest)
        .commitments ∧
      ⟨.current, 99⟩ ∉ (reshareWith reshareDigest).committees.participants := by
  decide +kernel

theorem activated_dealers_are_members_both :
    ∃ session activation,
      (Follower.after "key" "b" (activated [⟨.current, 1⟩, ⟨.current, 2⟩])).sessions
        (reshareWith reshareDigest).ceremonyId = some session ∧
      session.lifecycle.activation = some activation ∧
      ∀ dealer ∈ activation.activeDealers, dealer ∈ committee.participants .current := by
  have hrun : ((Follower.after "key" "b" (activated [⟨.current, 1⟩, ⟨.current, 2⟩])).sessions
      (reshareWith reshareDigest).ceremonyId).bind
        (fun session => session.lifecycle.activation.map fun _ => session.attempt) =
      some (some (reshareWith reshareDigest).attempt) := by
    decide +kernel
  obtain ⟨session, hsession, hrun⟩ := Option.bind_eq_some_iff.mp hrun
  obtain ⟨activation, hactive, hattempt⟩ := Option.map_eq_some_iff.mp hrun
  have hvalid : committee.validate "current" = .ok () := by decide +kernel
  obtain ⟨sender, digest, dealers, hsent, -, hiff⟩ :=
    Follower.activated_dealers_are_members "key" "b" hvalid hsession hattempt hactive
  refine ⟨session, activation, hsession, hactive, (hiff.mpr ?_).2.1⟩
  have hdealers : dealers = [⟨.current, 1⟩, ⟨.current, 2⟩] := by
    simp only [activated, List.cons_append, List.mem_cons, List.mem_append, List.mem_replicate,
      reduceCtorEq, and_false, false_or, or_false, Move.start.injEq, Follower.Input.activate.injEq]
      at hsent
    exact hsent.2.2.2
  subst hdealers
  decide +kernel

end Pair

end Orbis.Node.Transport
