import Orbis.Node.Reporting.ControlMessage
import Orbis.Node.Transport.SignedControl

/-!
# Reports about a leader's Prepare

A Prepare claims a leader, committees and routes.  It is signed against the bulletin of that
moment and judged against the bulletin at validation, under a scope that the reporter chooses.
As long as the ring's committees and the records of their members are those at signing, no
statement around a truthful Prepare is accepted.  If the announced reshare was finalized in
between, the committee that was current at signing is not the current one any more.
-/

namespace Orbis.Node.Reporting

open Orbis.Crypto Orbis.Data Orbis.Node.Transport
open Orbis.Node.Dkg (ParticipantRef)

theorem fits_prepare : FitsU64 "prepare" := by decide

variable {committee : CommitteeView}

section

variable [AddressSyntax]

/-- The committee has exactly these members, with the routes of their records. -/
structure Records (bulletin : Bulletin) (claimed : CommitteeConfig) (nodeKeys : List String) :
    Prop where
  keys : claimed.nodeKeys.toFinset = nodeKeys.toFinset
  routes : ∃ resolved, resolveNodeRoutes bulletin nodeKeys = .ok resolved ∧
    ∀ member ∈ claimed.nodeKeys.zip claimed.peerRoutes,
      (resolved.find? fun route => route.nodeKey = member.1).map NodeRoute.peerId = some member.2

/-- The leader is the canonical one, and the committees are those of the ring, the next one that
of the announced reshare. -/
structure Truthful (bulletin : Bulletin) (ring : RingPayload) (prepare : PrepareSession) :
    Prop where
  leader : prepare.canonicalLeaderNodeKey = some prepare.leaderNodeKey
  current : Records bulletin prepare.committees.current ring.peerNodeKeys
  next : ∀ next ∈ prepare.committees.next,
    Records bulletin next (ring.newPeerNodeKeys.getD ring.peerNodeKeys)

/-- The committees of the ring and the records of their members are the same. -/
structure SameRecords (bulletin : Bulletin) (ring : RingPayload) (bulletin' : Bulletin)
    (ring' : RingPayload) : Prop where
  current : ring'.peerNodeKeys = ring.peerNodeKeys
  next : ring'.newPeerNodeKeys.getD ring'.peerNodeKeys =
    ring.newPeerNodeKeys.getD ring.peerNodeKeys
  nodeInfo : ∀ nodeKey, nodeKey ∈ ring.peerNodeKeys ∨
    nodeKey ∈ ring.newPeerNodeKeys.getD ring.peerNodeKeys →
      bulletin'.nodeInfo nodeKey = bulletin.nodeInfo nodeKey

variable {bulletin bulletin' : Bulletin} {nodeKeys : List String}

theorem resolveNodeRoutesFrom_congr
    (h : ∀ nodeKey ∈ nodeKeys, bulletin'.nodeInfo nodeKey = bulletin.nodeInfo nodeKey)
    (routes : List NodeRoute) : resolveNodeRoutesFrom bulletin' routes nodeKeys =
      resolveNodeRoutesFrom bulletin routes nodeKeys := by
  induction nodeKeys generalizing routes with
  | nil => rfl
  | cons nodeKey nodeKeys ih =>
    have hroute : resolveNodeRoute bulletin' nodeKey = resolveNodeRoute bulletin nodeKey := by
      unfold resolveNodeRoute
      rw [h nodeKey List.mem_cons_self]
    have hrest := ih fun key hkey => h key (List.mem_cons_of_mem nodeKey hkey)
    simp only [resolveNodeRoutesFrom, hroute, hrest]

variable {claimed : CommitteeConfig}

theorem Records.congr (h : Records bulletin claimed nodeKeys)
    (hinfo : ∀ nodeKey ∈ nodeKeys, bulletin'.nodeInfo nodeKey = bulletin.nodeInfo nodeKey) :
    Records bulletin' claimed nodeKeys := by
  obtain ⟨resolved, hresolved, hroutes⟩ := h.routes
  exact ⟨h.keys, resolved, (resolveNodeRoutesFrom_congr hinfo []).trans hresolved, hroutes⟩

/-- Only the claims about members and routes are compared with the bulletin. -/
theorem committeeRoutesContradictVera_of_records {other : CommitteeConfig}
    (h : Records bulletin claimed nodeKeys) (hclaim : other.claim = claimed.claim) :
    committeeRoutesContradictVera bulletin other nodeKeys = false := by
  obtain ⟨hkeys, hroutes⟩ := Prod.mk.inj hclaim
  obtain ⟨resolved, hresolved, hall⟩ := h.routes
  unfold committeeRoutesContradictVera
  rw [hkeys, hroutes, if_neg (not_not.mpr h.keys), hresolved]
  simp only [List.any_eq_false, decide_eq_true_eq, not_not]
  exact hall

theorem prepareRoutesContradictVera_ne {ring ring' : RingPayload}
    {prepare reported : PrepareSession} {scope : CommitteeScope}
    (htruthful : Truthful bulletin ring prepare) (hsame : SameRecords bulletin ring bulletin' ring')
    (hclaim : reported.claim = prepare.claim)
    (hscope : committeeForScope ring' scope = .ok committee) :
    prepareRoutesContradictVera bulletin' ring' scope committee reported ≠ .ok true := by
  obtain ⟨-, -, hcurrent, hnext⟩ : _ ∧ _ ∧ _ ∧ _ := by
    simpa only [PrepareSession.claim, Prod.mk.injEq] using hclaim
  have hcurrentFalse : committeeRoutesContradictVera bulletin' reported.committees.current
      ring'.peerNodeKeys = false := by
    rw [hsame.current]
    exact committeeRoutesContradictVera_of_records
      (htruthful.current.congr fun key hkey => hsame.nodeInfo key (.inl hkey)) hcurrent
  unfold prepareRoutesContradictVera
  rw [hcurrentFalse]
  cases scope with
  | current =>
    intro h
    cases h
  | pendingNew =>
    intro h
    obtain ⟨next, hsome, h⟩ := bind_eq_ok.mp h
    rw [okOr_eq_ok.mp hsome] at hnext
    obtain ⟨signedNext, hsigned, hclaimNext⟩ := Option.map_eq_some_iff.mp hnext.symm
    have hrecords := (htruthful.next signedNext hsigned).congr fun key hkey =>
      hsame.nodeInfo key (.inr hkey)
    obtain ⟨_, -, hcommittee⟩ := bind_eq_ok.mp hscope
    cases hcommittee
    rw [hsame.next, committeeRoutesContradictVera_of_records hrecords hclaimNext.symm] at h
    cases h

end

section

variable [Sha256] [LawfulSha256] [Serde SessionKind]

/-- The byte strings that are hashed when a report about a Prepare is validated. -/
inductive PrepareHashed [Serde PrepareSession] (statement : DkgControlMessageFaultStatement) :
    Bytes → Prop
  | config {prepare : PrepareSession} {bytes : Bytes}
      (h : decode statement.artifactA.data maxPublicOriginEvidenceBytes = .ok prepare)
      (hbytes : prepare.configPreimage = .ok bytes) : PrepareHashed statement bytes
  | control {prepare : PrepareSession} {digest : Bytes32}
      (h : decode statement.artifactA.data maxPublicOriginEvidenceBytes = .ok prepare)
      (hdigest : configDigest prepare = .ok digest) :
      PrepareHashed statement (controlAckPreimage prepare.ceremonyId prepare.attemptId "prepare"
        digest statement.artifactA.signedAt)

variable [NodeSigning] [AddressSyntax] [Serde PrepareSession] [Serde PublicPhase]
  [Serde (Option ParticipantRef)] [Serde DkgControlMessage]

/-- A Prepare that was truthful when it was signed is not a leader fault, whatever the statement
around its signature says, as long as the ring's committees and their members' records are at
validation what they were at signing. -/
theorem truthful_prepare_rejected [SelfDelimiting SessionKind] {signed : NodeSignatures}
    {envelope : ReportEnvelope} (hforge : signed.Unforgeable envelope.accusedNodeKey)
    {context : ReportValidationContext} {statement : DkgControlMessageFaultStatement}
    (hkind : statement.faultKind = .leaderPrepareFault) {bulletin : Bulletin} {ring : RingPayload}
    {prepare : PrepareSession} (htruthful : Truthful bulletin ring prepare)
    (hsigned : ∀ control ∈ signed.controls, control.messageKind = "prepare" →
      control.signature = statement.artifactA.signature →
        configDigest prepare = .ok control.digest)
    (hsame : ∀ ring', context.bulletin.ring envelope.ringId = .ok ring' →
      SameRecords bulletin ring context.bulletin ring')
    {hashed : Set Bytes} (hfree : Set.InjOn sha256 hashed)
    (hcontrols : ∀ control ∈ signed.controls, control.preimage ∈ hashed)
    (hprepare : ∀ bytes, prepare.configPreimage = .ok bytes → bytes ∈ hashed)
    (hreport : ∀ bytes, PrepareHashed statement bytes → bytes ∈ hashed) :
    validateReport envelope context (validateDkgControlMessageFaultEvidence envelope context
      statement) ≠ .ok () := by
  intro haccepted
  obtain ⟨ring', hring', hevidence⟩ := evidence_of_validateReport haccepted
  obtain ⟨⟨ceremonyId, accusedCommittee⟩, hstatement, hevidence⟩ := bind_eq_ok.mp hevidence
  rw [hkind] at hevidence
  obtain ⟨hresponder, hcommittee, -⟩ := validateControlStatement_eq_ok hstatement
  obtain ⟨reported, digest, hdecode, hdigest, hverify, hfault⟩ :=
    validateLeaderPrepareFault_eq_ok hevidence
  rw [hresponder] at hverify
  have hmem := hforge.control_of_verify hfree hcontrols fits_prepare
    (hreport _ (.control hdecode hdigest)) hverify
  have hclaim : reported.claim = prepare.claim :=
    (agrees_of_configDigest hfree (fun bytes hbytes => hreport bytes (.config hdecode hbytes))
      hprepare hdigest (hsigned _ hmem rfl rfl)).claim_eq
  rcases hfault with hleader | hroutes
  · apply hleader
    have hkey : reported.leaderNodeKey = prepare.leaderNodeKey := congrArg Prod.fst hclaim
    rw [PrepareSession.canonicalLeaderNodeKey_eq hclaim, htruthful.leader, hkey]
  · exact prepareRoutesContradictVera_ne htruthful (hsame ring' hring') hclaim hcommittee hroutes

end

/-! ## The Prepare of a reshare that adds a node -/

namespace Trio

theorem toList_peer (digit : Char) : (peer digit).toList = List.replicate 64 digit :=
  String.toList_ofList

variable {digit : Char}

theorem extractNodePart_peer (h : digit ≠ '@') : extractNodePart (peer digit) = peer digit := by
  unfold extractNodePart
  rw [toList_peer, List.takeWhile_eq_self_iff.mpr]
  · rfl
  · intro c hc
    rw [List.eq_of_mem_replicate hc]
    exact decide_eq_true h

theorem canonicalizePeerId_peer [AddressSyntax] (h : digit ≠ '@') (hhex : (hexValue digit).isSome)
    (hlower : digit.toLower = digit) (hlength : (utf8Bytes (peer digit)).length = 64)
    (hne : peer digit ≠ "") : canonicalizePeerId (peer digit) = .ok (peer digit) := by
  have haddress : addressPart (peer digit) = none := by
    unfold addressPart
    rw [toList_peer, List.dropWhile_eq_nil_iff.mpr]
    intro c hc
    rw [List.eq_of_mem_replicate hc]
    exact decide_eq_true h
  have hlowercase : lowercase (peer digit) = peer digit := by
    unfold lowercase
    rw [toList_peer, List.map_replicate, hlower]
    rfl
  have hdigits : (peer digit).toList.all (fun c => (hexValue c).isSome) = true := by
    rw [toList_peer, List.all_replicate, hhex]
    rfl
  have hvalid : validatePeerId (peer digit) = .ok () := by
    unfold validatePeerId
    simp only [extractNodePart_peer h, hlength, hdigits, haddress]
    rw [require_bind hne, require_bind (by decide), require_bind (by decide), require_bind trivial]
    rfl
  unfold canonicalizePeerId
  rw [hvalid, ok_bind, extractNodePart_peer h, hlowercase, haddress]
  rfl

theorem resolveNodeRoute_peer [AddressSyntax] {bulletin : Bulletin} {nodeKey : String}
    (hinfo : bulletin.nodeInfo nodeKey = .ok ⟨peer digit⟩) (hmem : digit ∈ ['a', 'b', 'c', 'd']) :
    resolveNodeRoute bulletin nodeKey = .ok ⟨nodeKey, peer digit⟩ := by
  have hdigit : digit ≠ '@' ∧ (hexValue digit).isSome ∧ digit.toLower = digit ∧
      ((List.replicate 64 digit).dropWhile isWhitespace).rdropWhile isWhitespace =
        List.replicate 64 digit ∧
      (utf8Bytes (peer digit)).length = 64 ∧ peer digit ≠ "" := by
    simp only [List.mem_cons, List.not_mem_nil, or_false] at hmem
    rcases hmem with rfl | rfl | rfl | rfl <;> decide +kernel
  obtain ⟨hat, hhex, hlower, hblank, hlength, hne⟩ := hdigit
  have htrim : trim (peer digit) = peer digit := by
    unfold trim
    rw [toList_peer, hblank]
    rfl
  unfold resolveNodeRoute
  rw [hinfo, mapError_ok, ok_bind]
  simp only [htrim]
  rw [require_bind hne, canonicalizePeerId_peer hat hhex hlower hlength hne]
  rfl

theorem resolveNodeRoutesFrom_cons [AddressSyntax] {bulletin : Bulletin} {routes : List NodeRoute}
    {nodeKey : String} {nodeKeys : List String} (hne : trim nodeKey ≠ "")
    (hnew : nodeKey ∉ routes.map NodeRoute.nodeKey)
    (hinfo : bulletin.nodeInfo nodeKey = .ok ⟨peer digit⟩) (hmem : digit ∈ ['a', 'b', 'c', 'd'])
    (hpart : peer digit ∉ routes.map fun route => extractNodePart route.peerId) :
    resolveNodeRoutesFrom bulletin routes (nodeKey :: nodeKeys) =
      resolveNodeRoutesFrom bulletin (routes ++ [⟨nodeKey, peer digit⟩]) nodeKeys := by
  have hat : digit ≠ '@' := by
    rintro rfl
    simp at hmem
  rw [resolveNodeRoutesFrom, require_bind hne, require_bind hnew,
    resolveNodeRoute_peer hinfo hmem, ok_bind]
  simp only [extractNodePart_peer hat]
  rw [require_bind hpart]

open scoped Plain

local instance prepareMessages : Serde DkgControlMessage := .known []

def announced : RingPayload :=
  { payload with newPeerNodeKeys := some ["a", "b", "c", "d"], newThreshold := some 2 }

def finalized : RingPayload := { payload with peerNodeKeys := ["a", "b", "c", "d"] }

def currentCommittee : CommitteeConfig where
  nodeKeys := ["a", "b", "c"]
  peerRoutes := [peer 'a', peer 'b', peer 'c']
  nodeIdAssignments := [⟨"a", 1⟩, ⟨"b", 2⟩, ⟨"c", 3⟩].toAList
  threshold := 2
  fits := by decide

def nextCommittee : CommitteeConfig where
  nodeKeys := ["a", "b", "c", "d"]
  peerRoutes := [peer 'a', peer 'b', peer 'c', peer 'd']
  nodeIdAssignments := [⟨"a", 1⟩, ⟨"b", 2⟩, ⟨"c", 3⟩, ⟨"d", 4⟩].toAList
  threshold := 2
  fits := by decide

/-- The digest does not cover the field that holds it. -/
def prepareWith (configDigest : Bytes32) : PrepareSession where
  ceremonyId := 7
  attemptId := attemptId
  configDigest := configDigest
  topicId := attemptId
  leaderNodeKey := "a"
  committees := ⟨currentCommittee, some nextCommittee⟩
  kind := .reshare "pk" ["a", "b", "c", "d"] 2 "ring"
  pssInterval := 3600
  policyId := none
  ringId := "ring"
  reportSignature := none
  fits := by decide

def prepareDigest : Bytes32 :=
  match configDigest (prepareWith attemptId) with
  | .ok digest => digest
  | .error _ => attemptId

def prepare : PrepareSession := prepareWith prepareDigest

local instance preparePrepare : Serde PrepareSession := .known [(utf8Bytes "prepare", prepare)]

def prepareControl : SignedControl where
  ceremonyId := 7
  attemptId := attemptId
  messageKind := "prepare"
  digest := prepareDigest
  signedAt := 1000
  signature := [1]
  fits := fits_prepare

local instance prepareSigning : NodeSigning :=
  recordedSignatures [("a", prepareControl.signingBytes, [1])]

def prepareSignatures : NodeSignatures := .ofControls [prepareControl]

/-- The reporter labels it a refresh. -/
def prepareStatement (ring : RingPayload) : DkgControlMessageFaultStatement :=
  statement ring .leaderPrepareFault "prepare" ⟨[1], utf8Bytes "prepare", 1000⟩

def prepareBytes : Bytes :=
  match prepare.configPreimage with
  | .ok bytes => bytes
  | .error _ => []

theorem resolve_members (nodeKeys : List String) :
    resolveNodeRoutesFrom (bulletin announced) [] ("a" :: "b" :: "c" :: nodeKeys) =
      resolveNodeRoutesFrom (bulletin announced)
        [⟨"a", peer 'a'⟩, ⟨"b", peer 'b'⟩, ⟨"c", peer 'c'⟩] nodeKeys := by
  have hne : peer 'b' ≠ peer 'a' ∧ peer 'c' ≠ peer 'a' ∧ peer 'c' ≠ peer 'b' := by decide +kernel
  obtain ⟨hba, hca, hcb⟩ := hne
  have ha : extractNodePart (peer 'a') = peer 'a' := extractNodePart_peer (by decide)
  have hb : extractNodePart (peer 'b') = peer 'b' := extractNodePart_peer (by decide)
  rw [resolveNodeRoutesFrom_cons (by decide) (by decide) rfl (by decide) (by simp),
    resolveNodeRoutesFrom_cons (by decide) (by decide) rfl (by decide) (by simp [ha, hba]),
    resolveNodeRoutesFrom_cons (by decide) (by decide) rfl (by decide)
      (by simp [ha, hb, hca, hcb])]
  rfl

theorem resolve_next :
    resolveNodeRoutes (bulletin announced) ["a", "b", "c", "d"] =
      .ok [⟨"a", peer 'a'⟩, ⟨"b", peer 'b'⟩, ⟨"c", peer 'c'⟩, ⟨"d", peer 'd'⟩] := by
  have hne : peer 'd' ≠ peer 'a' ∧ peer 'd' ≠ peer 'b' ∧ peer 'd' ≠ peer 'c' := by decide
  obtain ⟨hda, hdb, hdc⟩ := hne
  have hparts : ∀ digit ∈ ['a', 'b', 'c'], extractNodePart (peer digit) = peer digit :=
    fun digit hmem => extractNodePart_peer (by rintro rfl; simp at hmem)
  unfold resolveNodeRoutes
  rw [resolve_members, resolveNodeRoutesFrom_cons (by decide) (by decide) rfl (by decide)
    (by simp [hparts, hda, hdb, hdc])]
  rfl

theorem prepare_truthful : Truthful (bulletin announced) announced prepare where
  leader := by decide
  current := ⟨by decide +kernel, _, resolve_members [], by decide +kernel⟩
  next := by
    rintro _ ⟨⟩
    exact ⟨by decide +kernel, _, resolve_next, by decide +kernel⟩

def prepareHashes : List Bytes := [prepareBytes, prepareControl.preimage]

theorem prepareHashes_injOn : Set.InjOn sha256 {bytes | bytes ∈ prepareHashes} := by
  have h : ∀ x ∈ prepareHashes, ∀ y ∈ prepareHashes, sha256 x = sha256 y → x = y := by
    decide +kernel
  exact fun x hx y hy => h x hx y hy

theorem prepareUnforgeable : prepareSignatures.Unforgeable "a" :=
  unforgeable_ofControls "a" [prepareControl]

theorem configDigest_prepare : configDigest prepare = .ok prepareDigest := by decide +kernel

/-- While the reshare is announced the report is rejected. -/
theorem truthful_prepare_rejected_announced :
    validateReport (envelope announced) (context announced)
      (validateDkgControlMessageFaultEvidence (envelope announced) (context announced)
        (prepareStatement announced)) ≠ .ok () := by
  have hpreimage : prepare.configPreimage = .ok prepareBytes := by decide +kernel
  have htext : (utf8Bytes "prepare").rdropWhile (· = 0x20) = utf8Bytes "prepare" := by
    decide +kernel
  have hdecode : decode (utf8Bytes "prepare") maxPublicOriginEvidenceBytes = .ok prepare :=
    Serde.known_fromSlice_padded htext (List.find?_cons_of_pos (by simp)) 0
  have hreported : ∀ reported,
      decode (utf8Bytes "prepare") maxPublicOriginEvidenceBytes = .ok reported →
        reported = prepare := by
    intro reported h
    exact (Except.ok.inj (hdecode.symm.trans h)).symm
  refine truthful_prepare_rejected prepareUnforgeable rfl prepare_truthful ?_ ?_
    prepareHashes_injOn ?_ ?_ ?_
  · rintro _ (_ | ⟨_, ⟨⟩⟩) - -
    exact configDigest_prepare
  · intro ring' hring'
    cases hring'
    exact ⟨rfl, rfl, fun _ _ => rfl⟩
  · rintro _ (_ | ⟨_, ⟨⟩⟩)
    exact List.mem_cons_of_mem _ List.mem_cons_self
  · intro bytes hbytes
    cases hpreimage.symm.trans hbytes
    exact List.mem_cons_self
  · rintro _ (⟨h, hbytes⟩ | ⟨h, hdigest⟩)
    · rw [hreported _ h] at hbytes
      cases hpreimage.symm.trans hbytes
      exact List.mem_cons_self
    · rw [hreported _ h] at hdigest ⊢
      cases configDigest_prepare.symm.trans hdigest
      exact List.mem_cons_of_mem _ List.mem_cons_self

/-- Once it is finalized, the leader of the same Prepare is convicted. -/
theorem convicted_of_finalized_reshare :
    Truthful (bulletin announced) announced prepare ∧
      prepareSignatures.Unforgeable "a" ∧
      (∀ control ∈ prepareSignatures.controls, configDigest prepare = .ok control.digest) ∧
      Set.InjOn sha256 {bytes | bytes ∈ prepareHashes} ∧
      validateReport (envelope finalized) (context finalized)
        (validateDkgControlMessageFaultEvidence (envelope finalized) (context finalized)
          (prepareStatement finalized)) = .ok () := by
  refine ⟨prepare_truthful, prepareUnforgeable, ?_, prepareHashes_injOn, by decide +kernel⟩
  rintro _ (_ | ⟨_, ⟨⟩⟩)
  exact configDigest_prepare

end Trio

end Orbis.Node.Reporting
