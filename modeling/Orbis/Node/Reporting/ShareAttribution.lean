import Orbis.Node.Dkg.ShareEvidence
import Orbis.Node.Reporting.ControlMessage

/-!
# Receivers and co-signers on dealt shares

What a receiver accepts as evidence against a dealer, a co-signer checks again from the report.  The
two agree on evidence that is well formed exactly if the ring lists the receiver where the session
does.  A dealer names the member with the share's number exactly if the session lists its receivers
in order: the receiver is looked up by its place in a list, while members are numbered by the sorted
list.  A dealer that nests another signed commitment in a share equivocates, as long as it signs
both for the same attempt under the same nonce.
-/

namespace Orbis.Node.Reporting

open Orbis.Crypto Orbis.Crypto.Dkg Orbis.Data Orbis.Transition Orbis.Node.Evidence
open Orbis.Node.Dkg (DkgError)

/-! ## The committee that receives -/

/-- As the ring lists it. -/
def ringReceivers (originProtocol : String) (ring : RingPayload) : List String :=
  if originProtocol = "pss_reshare" then ring.newPeerNodeKeys.getD ring.peerNodeKeys
  else ring.peerNodeKeys

/-- The ring lists the receiver at the share's place, and a reshare is pending if the session is
one. -/
def Listed (originProtocol : String) (ring : RingPayload) (statement : DkgShareStatement) : Prop :=
  (originProtocol = "pss_reshare" → ¬(ring.newPeerNodeKeys.isNone ∧ ring.newThreshold.isNone)) ∧
    (ringReceivers originProtocol ring)[statement.toNodeId - 1]? = some statement.receiverNodeKey

/-- Node keys are distinct, are not blank and have no address part. -/
structure ProperKeys (nodeKeys : List String) : Prop where
  nodup : nodeKeys.Nodup
  plain : ∀ key ∈ nodeKeys, extractNodePart key = key
  named : ∀ key ∈ nodeKeys, trim key ≠ ""
  length_lt : nodeKeys.length < 2 ^ 32

section

variable {session : EvidenceSession} {originProtocol ringId : String} {ring : RingPayload}

theorem listed_iff {statement : DkgShareStatement} :
    Listed originProtocol ring statement ↔
      ∃ committee, committeeForScope ring (receiverScope originProtocol) = .ok committee ∧
        committee.peerNodeKeys[statement.toNodeId - 1]? = some statement.receiverNodeKey := by
  unfold Listed receiverScope ringReceivers
  split
  next horigin =>
    constructor
    · intro h
      exact ⟨_, require_bind_eq_ok.mpr ⟨h.1 horigin, rfl⟩, h.2⟩
    · rintro ⟨committee, hcommittee, hlisted⟩
      obtain ⟨hpending, hcommittee⟩ := require_bind_eq_ok.mp hcommittee
      cases hcommittee
      exact ⟨fun _ => hpending, hlisted⟩
  next horigin =>
    constructor
    · intro h
      exact ⟨_, rfl, h.2⟩
    · rintro ⟨committee, hcommittee, hlisted⟩
      cases hcommittee
      exact ⟨fun h => absurd h horigin, hlisted⟩

theorem isValid_of_origin (h : session.origin = some (originProtocol, ringId)) :
    isValidInvalidCryptoDkgOrigin originProtocol = true := by
  unfold EvidenceSession.origin at h
  split at h
  · cases h
  · cases h
  all_goals
    obtain ⟨rfl, -⟩ := Prod.mk.inj (Option.some.inj h)
    rfl

variable [Sha256]

theorem evidenceBinding_eq_ok {bulletin : Bulletin} {binding : DkgReportEvidenceBinding}
    (h : evidenceBinding session bulletin = .ok (some binding)) :
    ∃ originProtocol ringId ring, session.origin = some (originProtocol, ringId) ∧
      bulletin.ring ringId = .ok ring ∧
      binding = session.bindingOf originProtocol ringId bulletin.chainId ring := by
  unfold evidenceBinding at h
  split at h
  · cases h
  next originProtocol ringId horigin =>
    obtain ⟨-, h⟩ := require_bind_eq_ok.mp h
    obtain ⟨ring, hring, h⟩ := bind_eq_ok.mp h
    exact ⟨originProtocol, ringId, ring, horigin, mapError_eq_ok.mp hring,
      (Option.some.inj (Except.ok.inj h)).symm⟩

end

/-! ## Confirmation -/

/-- What a receiver does not look at, and a co-signer requires. -/
structure Reportable (statement : DkgShareStatement) : Prop where
  to_ne : statement.toNodeId ≠ 0
  named : trim statement.receiverNodeKey ≠ ""
  value_ne : statement.shareValue ≠ []
  commitment_ne : statement.commitmentStatement.commitment ≠ []
  commitment_size : statement.commitmentStatement.commitment.length % groupPointSize = 0
  late : chainBlockGraceSecs ≤ statement.signedAt.toNat

theorem validateCommitmentLength_eq_ok {label : String} {commitment : Bytes} :
    validateCommitmentLength label commitment = .ok () ↔
      commitment ≠ [] ∧ commitment.length % groupPointSize = 0 := by
  unfold validateCommitmentLength
  rw [require_bind_eq_ok, require_eq_ok]

section

variable {F E : Type} [Field F] [AddCommGroup E] [Module F E] [DecidableEq E] [Curve E] [Repr32 F]
  [Repr32 E] [Sha256] [NodeSigning]

variable {session : EvidenceSession} {originProtocol ringId : String} {ring : RingPayload}
  {context : ReportValidationContext} {reporterNodeKey accusedPeerId : String}
  {binding : DkgReportEvidenceBinding}

variable (F E) in
/-- A co-signer confirms the report that a member makes of the evidence. -/
def Confirmed (context : ReportValidationContext) (ring : RingPayload)
    (reporterNodeKey accusedPeerId : String) (evidence : DealerEvidence) : Prop :=
  validateReport
    (buildEnvelope (evidence.observation accusedPeerId) ring reporterNodeKey
      context.bulletin.chainId) context
    (validateDealerEvidence F E
      (buildEnvelope (evidence.observation accusedPeerId) ring reporterNodeKey
        context.bulletin.chainId) context evidence) = .ok ()

/-- The session and the co-signer are on one chain and one version, and read one ring. -/
structure SameState (session : EvidenceSession) (originProtocol ringId : String)
    (ring : RingPayload) (context : ReportValidationContext) (binding : DkgReportEvidenceBinding) :
    Prop where
  origin_eq : session.origin = some (originProtocol, ringId)
  binding_eq : binding = session.bindingOf originProtocol ringId context.bulletin.chainId ring
  version_eq : session.protocolVersion = context.routesVersion
  keys : ProperKeys ring.peerNodeKeys

namespace SameState

variable (hstate : SameState session originProtocol ringId ring context binding)
include hstate

omit [NodeSigning] in
/-- The number that the receiver has checked is the one that the co-signer computes. -/
theorem accused_number {fromNodeId : ℕ} {responderNodeKey : String}
    (h : nodeKeyForCanonicalNodeId fromNodeId binding.currentNodeKeys = some responderNodeKey) :
    fromNodeId ≠ 0 ∧ determineSessionNodeId responderNodeKey ring.peerNodeKeys =
      some fromNodeId := by
  rw [hstate.binding_eq] at h
  have hplace := getElem?_of_nodeKeyForCanonicalNodeId hstate.keys.length_lt h
  refine ⟨hplace.2.1, ?_⟩
  exact determineSessionNodeId_of_nodeKeyForCanonicalNodeId hstate.keys.plain
    hstate.keys.length_lt h

section

variable {message : ShareMessage} {evidence : SignedDkgShare}
  (hshare : VerifiedShare binding message evidence)
  (hunsigned : ∀ bytes, NodeSigning.verify evidence.statement.responderNodeKey bytes [] ≠ .ok ())
include hshare hunsigned

omit [Sha256] [NodeSigning] in
omit hstate hshare hunsigned in
theorem reportable_of_shape {envelope : ReportEnvelope}
    (h : validateDkgShareStatementShape envelope evidence.statement evidence.signature context =
      .ok ()) : Reportable evidence.statement := by
  obtain ⟨_, hprologue, h⟩ := bind_eq_ok.mp h
  iterate 4 obtain ⟨_, -, hprologue⟩ := bind_eq_ok.mp hprologue
  obtain ⟨_, hanchor, -⟩ := bind_eq_ok.mp hprologue
  iterate 2 obtain ⟨_, -, h⟩ := bind_eq_ok.mp h
  obtain ⟨⟨-, hto⟩, h⟩ := require_bind_eq_ok.mp h
  obtain ⟨hnamed, h⟩ := require_bind_eq_ok.mp h
  obtain ⟨-, h⟩ := require_bind_eq_ok.mp h
  obtain ⟨hvalue, h⟩ := require_bind_eq_ok.mp h
  iterate 5 obtain ⟨_, -, h⟩ := bind_eq_ok.mp h
  obtain ⟨hne, hsize⟩ := validateCommitmentLength_eq_ok.mp h
  exact ⟨hto, hnamed, hvalue, hne, hsize, (require_eq_ok.mp hanchor).1⟩

theorem validateDkgShareStatementShape_eq_ok (hreportable : Reportable evidence.statement)
    (reporterNodeKey accusedPeerId : String) :
    validateDkgShareStatementShape
      (buildEnvelope ((DealerEvidence.dkgShare evidence).observation accusedPeerId) ring
        reporterNodeKey context.bulletin.chainId)
      evidence.statement evidence.signature context = .ok () := by
  have hbinding := hstate.binding_eq
  subst hbinding
  obtain ⟨hdomain, hchain, hringId, hringPk, hdigest, hversion, hrequest, horigin, haccused,
    hsigning, hfrom, -, -, -, hbackend⟩ := hshare.matches_session
  obtain ⟨hdomain', hchain', hringId', hringPk', hdigest', hversion', hrequest', horigin',
    haccused', hsigning', hfrom', -, hbackend'⟩ := hshare.nested.matches_session
  have hprologue : evidence.statement.prologue.Binds
      ((DealerEvidence.dkgShare evidence).observation accusedPeerId) ring
      context.bulletin.chainId :=
    ⟨hdomain, hchain, rfl, hringPk, hdigest, rfl, rfl,
      fun _ => validateEvidenceAnchor_saturatingSubSecs hreportable.late⟩
  have hvalid : isValidInvalidCryptoDkgOrigin evidence.statement.originProtocol = true := by
    rw [horigin]
    exact isValid_of_origin hstate.origin_eq
  have hfrom_ne : evidence.statement.fromNodeId ≠ 0 := by
    rw [hfrom]
    exact (hstate.accused_number hshare.nested.responder).1
  have hsignature : evidence.signature ≠ [] := by
    intro hempty
    exact hunsigned _ (hempty ▸ hshare.signed)
  have hnested : evidence.statement.commitmentSignature ≠ [] := by
    intro hempty
    have hsigned := hshare.nested.signed
    simp only [DkgShareStatement.nestedCommitment, hempty, hshare.responder_eq] at hsigned
    exact hunsigned _ hsigned
  have hbinds : evidence.statement.BindsCommitment :=
    ⟨hchain'.trans hchain.symm, hringId'.trans hringId.symm, hringPk'.trans hringPk.symm,
      hdigest'.trans hdigest.symm, hversion'.trans hversion.symm, hrequest'.trans hrequest.symm,
      hshare.responder_eq, horigin'.trans horigin.symm, haccused'.trans haccused.symm,
      hsigning'.trans hsigning.symm, hfrom'.trans hfrom.symm, hbackend'.trans hbackend.symm⟩
  unfold validateDkgShareStatementShape
  refine bind_eq_ok.mpr ⟨(), hprologue.validate_eq reporterNodeKey, ?_⟩
  refine require_bind_eq_ok.mpr ⟨hvalid, ?_⟩
  refine require_bind_eq_ok.mpr ⟨⟨haccused, hsigning⟩, ?_⟩
  refine require_bind_eq_ok.mpr ⟨⟨hfrom_ne, hreportable.to_ne⟩, ?_⟩
  refine require_bind_eq_ok.mpr ⟨hreportable.named, ?_⟩
  refine require_bind_eq_ok.mpr ⟨hbackend, ?_⟩
  refine require_bind_eq_ok.mpr ⟨hreportable.value_ne, ?_⟩
  refine require_bind_eq_ok.mpr ⟨hnested, ?_⟩
  refine require_bind_eq_ok.mpr ⟨hsignature, ?_⟩
  unfold validateDkgCommitmentStatementShape
  refine require_bind_eq_ok.mpr ⟨hdomain', ?_⟩
  refine require_bind_eq_ok.mpr ⟨hbinds, ?_⟩
  refine require_bind_eq_ok.mpr ⟨hshare.signedAt_le, ?_⟩
  exact validateCommitmentLength_eq_ok.mpr
    ⟨hreportable.commitment_ne, hreportable.commitment_size⟩

variable (F E) in
/-- What a co-signer requires of evidence that a receiver has accepted. -/
theorem confirmed_dkgShare_iff [LawfulSha256] (hreviews : Reviews context ring reporterNodeKey
      ((DealerEvidence.dkgShare evidence).observation accusedPeerId)) :
    Confirmed F E context ring reporterNodeKey accusedPeerId (.dkgShare evidence) ↔
      Reportable evidence.statement ∧ Listed originProtocol ring evidence.statement ∧
        shareEvidenceProvesFailure F E evidence.statement = true := by
  have hnumber := (hstate.accused_number hshare.nested.responder).2
  have horigin : evidence.statement.originProtocol = originProtocol := by
    obtain ⟨-, -, -, -, -, -, -, horigin, -⟩ := hshare.matches_session
    rw [horigin, hstate.binding_eq]
    rfl
  unfold Confirmed
  rw [hreviews.validateReport_eq]
  simp only [validateDealerEvidence, validateDkgShareEvidence, horigin]
  rw [listed_iff]
  constructor
  · intro h
    obtain ⟨_, hshape, h⟩ := bind_eq_ok.mp h
    iterate 8 obtain ⟨_, -, h⟩ := bind_eq_ok.mp h
    obtain ⟨committee, hcommittee, h⟩ := bind_eq_ok.mp h
    obtain ⟨expectedReceiver, hplace, h⟩ := bind_eq_ok.mp h
    obtain ⟨hsame, h⟩ := require_bind_eq_ok.mp h
    iterate 2 obtain ⟨_, -, h⟩ := bind_eq_ok.mp h
    exact ⟨reportable_of_shape hshape, ⟨committee, hcommittee, hsame ▸ okOr_eq_ok.mp hplace⟩,
      (requireDkgShareVerificationFailure_eq_ok F E).mp h⟩
  · rintro ⟨hreportable, ⟨committee, hcommittee, hplace⟩, hfailure⟩
    have hshape := hstate.validateDkgShareStatementShape_eq_ok hshare hunsigned hreportable
      reporterNodeKey accusedPeerId
    obtain ⟨-, -, -, -, -, hversion, -, -, haccused, hsigning, hfrom, -⟩ := hshare.matches_session
    have hnumber' : determineSessionNodeId evidence.statement.responderNodeKey ring.peerNodeKeys =
        some message.fromNodeId := hshare.responder_eq ▸ hnumber
    have hversion' : evidence.statement.protocolVersion = context.routesVersion := by
      rw [hversion, hstate.binding_eq]
      exact hstate.version_eq
    have hnested := hshare.nested.signed
    simp only [DkgShareStatement.nestedCommitment, hshare.responder_eq] at hnested
    refine bind_eq_ok.mpr ⟨(), hshape, ?_⟩
    refine bind_eq_ok.mpr ⟨_, hreviews.validateReportRouteVersionAtObservedAt_eq, ?_⟩
    refine require_bind_eq_ok.mpr ⟨hversion', ?_⟩
    rw [haccused, hsigning]
    refine bind_eq_ok.mpr ⟨_, hreviews.validateRingAndMembershipForScopes_eq _, ?_⟩
    refine bind_eq_ok.mpr ⟨(), hreviews.validateNodeRoutes_eq, ?_⟩
    refine bind_eq_ok.mpr ⟨(), hreviews.validateLocalSigner_eq _, ?_⟩
    refine bind_eq_ok.mpr ⟨_, rfl, ?_⟩
    refine bind_eq_ok.mpr ⟨_, okOr_eq_ok.mpr hnumber', ?_⟩
    refine require_bind_eq_ok.mpr ⟨hfrom, ?_⟩
    refine bind_eq_ok.mpr ⟨_, hcommittee, ?_⟩
    refine bind_eq_ok.mpr ⟨_, okOr_eq_ok.mpr hplace, ?_⟩
    refine require_bind_eq_ok.mpr ⟨rfl, ?_⟩
    refine bind_eq_ok.mpr ⟨(), mapError_eq_ok.mpr hnested, ?_⟩
    refine bind_eq_ok.mpr ⟨(), mapError_eq_ok.mpr hshare.signed, ?_⟩
    exact (requireDkgShareVerificationFailure_eq_ok F E).mpr hfailure

end

end SameState

omit [Sha256] in
theorem receiver_of_buildShareEvidence {nodeKey : String} {build : DkgEvidenceBuildContext}
    {fromNodeId toNodeId : ℕ} {shareValue nonce : Bytes} {commitmentEvidence : SignedDkgCommitment}
    {now : UInt64} {evidence : SignedDkgShare}
    (h : buildShareEvidenceWithContext nodeKey build fromNodeId toNodeId shareValue nonce
      commitmentEvidence now = .ok evidence) :
    build.binding.receiverNodeKeys[toNodeId - 1]? = some evidence.statement.receiverNodeKey := by
  obtain ⟨receiverNodeKey, hreceiver, h⟩ := bind_eq_ok.mp h
  obtain ⟨signature, -, h⟩ := bind_eq_ok.mp h
  rw [← Except.ok.inj h]
  exact okOr_eq_ok.mp hreceiver

omit [Sha256] in
theorem exists_buildShareEvidence (nodeKey : String) {build : DkgEvidenceBuildContext}
    (hsigns : ∀ bytes, ∃ signature, NodeSigning.sign build.signingKeyHex bytes = .ok signature)
    {toNodeId : ℕ} {key : String}
    (hreceiver : build.binding.receiverNodeKeys[toNodeId - 1]? = some key)
    (commitmentEvidence : SignedDkgCommitment) :
    ∃ evidence, buildShareEvidenceWithContext nodeKey build 0 toNodeId [] [] commitmentEvidence 0 =
      .ok evidence ∧ evidence.statement.receiverNodeKey = key := by
  unfold buildShareEvidenceWithContext signStatementWithKey
  simp only [hreceiver, okOr, ok_bind]
  generalize DkgShareStatement.canonicalBytes _ = bytes
  obtain ⟨signature, hsigned⟩ := hsigns bytes
  rw [hsigned]
  exact ⟨_, rfl, rfl⟩

omit [Sha256] [NodeSigning] in
/-- A dealer names the member with the share's number exactly if the session's list is in order. -/
theorem built_receiver_iff {receiverNodeKeys : List String}
    (hmembers : session.receiverNodeKeys.Perm receiverNodeKeys)
    (hkeys : ProperKeys receiverNodeKeys) :
    (∀ toNodeId key, toNodeId ≠ 0 → session.receiverNodeKeys[toNodeId - 1]? = some key →
      nodeKeyForCanonicalNodeId toNodeId receiverNodeKeys = some key) ↔
    session.receiverNodeKeys.Pairwise (· ≤ ·) := by
  have hsort : receiverNodeKeys.insertionSort (· ≤ ·) =
      session.receiverNodeKeys.insertionSort (· ≤ ·) :=
    (((receiverNodeKeys.perm_insertionSort _).trans hmembers.symm).trans
      (session.receiverNodeKeys.perm_insertionSort _).symm).eq_of_pairwise'
        (receiverNodeKeys.pairwise_insertionSort _) (List.pairwise_insertionSort _ _)
  constructor
  · intro h
    have heq : session.receiverNodeKeys = session.receiverNodeKeys.insertionSort (· ≤ ·) := by
      apply List.ext_getElem?
      intro i
      cases hget : session.receiverNodeKeys[i]? with
      | none =>
        rw [List.getElem?_eq_none_iff] at hget
        rw [List.getElem?_eq_none_iff.mpr]
        rwa [List.length_insertionSort]
      | some key =>
        have hplace := getElem?_of_nodeKeyForCanonicalNodeId hkeys.length_lt
          (h (i + 1) key i.succ_ne_zero hget)
        rw [← hsort]
        exact hplace.2.2.symm
    rw [heq]
    exact List.pairwise_insertionSort _ _
  · intro hsorted toNodeId key hto hget
    apply nodeKeyForCanonicalNodeId_of_getElem? hkeys.length_lt hkeys.nodup hto
    rwa [hsort, hsorted.insertionSort_eq]

variable [LawfulSha256]

variable (F E) in
/-- The dealer means the member with the share's number exactly if the session's list is in order.
What a receiver accepts, a co-signer that reads the same ring confirms exactly if it proves the
fault, is well formed, and the ring lists the receiver where the session does. -/
theorem share_evidence_agrees {bulletin : Bulletin}
    (horigin : session.origin = some (originProtocol, ringId))
    (hbinding : evidenceBinding session bulletin = .ok (some binding))
    (hring : bulletin.ring ringId = .ok ring) (hkeys : ProperKeys ring.peerNodeKeys)
    (hmembers : session.receiverNodeKeys.Perm (ringReceivers originProtocol ring))
    (hreceivers : ProperKeys (ringReceivers originProtocol ring))
    (nodeKey : String) {build : DkgEvidenceBuildContext} (hbuild : build.binding = binding)
    (hsigns : ∀ bytes, ∃ signature, NodeSigning.sign build.signingKeyHex bytes = .ok signature)
    (commitmentEvidence : SignedDkgCommitment) :
    ((∀ fromNodeId toNodeId shareValue nonce now evidence, toNodeId ≠ 0 →
      buildShareEvidenceWithContext nodeKey build fromNodeId toNodeId shareValue nonce
        commitmentEvidence now = .ok evidence →
      nodeKeyForCanonicalNodeId toNodeId (ringReceivers originProtocol ring) =
        some evidence.statement.receiverNodeKey) ↔
      session.receiverNodeKeys.Pairwise (· ≤ ·)) ∧
    (∀ message evidence (context : ReportValidationContext) reporterNodeKey accusedPeerId,
      verifyShareEvidence (some binding) message = .ok (some evidence) →
      (∀ bytes, NodeSigning.verify evidence.statement.responderNodeKey bytes [] ≠ .ok ()) →
      context.bulletin.chainId = bulletin.chainId →
      session.protocolVersion = context.routesVersion →
      Reviews context ring reporterNodeKey
        ((DealerEvidence.dkgShare evidence).observation accusedPeerId) →
      (Confirmed F E context ring reporterNodeKey accusedPeerId (.dkgShare evidence) ↔
        Reportable evidence.statement ∧ Listed originProtocol ring evidence.statement ∧
          shareEvidenceProvesFailure F E evidence.statement = true)) := by
  obtain ⟨originProtocol', ringId', ring', horigin', hring', rfl⟩ := evidenceBinding_eq_ok hbinding
  obtain ⟨rfl, rfl⟩ := Prod.mk.inj (Option.some.inj (horigin.symm.trans horigin'))
  obtain rfl : ring = ring' := Except.ok.inj (hring.symm.trans hring')
  constructor
  · rw [← built_receiver_iff hmembers hreceivers]
    constructor
    · intro h toNodeId key hto hget
      have hreceiver : build.binding.receiverNodeKeys[toNodeId - 1]? = some key := by
        rw [hbuild]
        exact hget
      obtain ⟨evidence, hbuilt, hkey⟩ := exists_buildShareEvidence nodeKey hsigns hreceiver
        commitmentEvidence
      rw [← hkey]
      exact h 0 toNodeId [] [] 0 evidence hto hbuilt
    · intro h fromNodeId toNodeId shareValue nonce now evidence hto hbuilt
      apply h toNodeId evidence.statement.receiverNodeKey hto
      have hreceiver := receiver_of_buildShareEvidence hbuilt
      rwa [hbuild] at hreceiver
  · intro message evidence context reporterNodeKey accusedPeerId hverified hunsigned hchain hversion
      hreviews
    have hstate : SameState session originProtocol ringId ring context
        (session.bindingOf originProtocol ringId bulletin.chainId ring) :=
      ⟨horigin, by rw [hchain], hversion, hkeys⟩
    exact hstate.confirmed_dkgShare_iff F E (verifiedShare_of_verify hverified) hunsigned hreviews

/-! ## A bad share is attributable -/

end

/-! ## Three members to evaluate with

The first member deals to the second, which reports it; the third validates. -/

namespace Dealing

open scoped ByteSum Echo

def ring (keys : List String) : RingPayload := { Trio.payload with peerNodeKeys := keys }

def session (keys : List String) : EvidenceSession := .ofInit 7 (.refresh "pk") "ring" keys 0

def binding (keys : List String) : DkgReportEvidenceBinding :=
  (session keys).bindingOf "pss_refresh" "ring" "chain" (ring keys)

def bytes (slope : F7) : Bytes := pointsBytes [0, slope]

def commitment (binding : DkgReportEvidenceBinding) (slope : F7) (nonce : Bytes) :
    SignedDkgCommitment where
  statement :=
    ⟨dkgCommitmentDomain, binding.chainId, binding.ringId, binding.ringPk, binding.ringStateSha256,
      binding.protocolVersion, binding.requestId, 1000, "a", binding.originProtocol, .current,
      .current, 1, bytes slope, nonce, Trio.attemptId, dkgBackend⟩
  signature := utf8Bytes "a"

def share (binding : DkgReportEvidenceBinding) (nested : SignedDkgCommitment) : SignedDkgShare where
  statement :=
    ⟨dkgShareDomain, binding.chainId, binding.ringId, binding.ringPk, binding.ringStateSha256,
      binding.protocolVersion, binding.requestId, 1000, "a", "b", binding.originProtocol, .current,
      .current, 1, 2, nested.statement, nested.signature, toRepr (3 : F7), [9], dkgBackend⟩
  signature := utf8Bytes "a"

def message (evidence : SignedDkgShare) : ShareMessage :=
  ⟨1, 2, toRepr (3 : F7), [9], some evidence⟩

def context (ring : RingPayload) : ReportValidationContext := Trio.context ring

/-- In this order the first number is not the first key.  A dealer names another member than the one
with the share's number.  In a reshare the receivers are sorted but not those of the ring, so that
evidence that a receiver accepts is not confirmed. -/
def unsorted : List String := ["b", "a", "c"]

def reshareRing : RingPayload :=
  { Trio.payload with newPeerNodeKeys := some unsorted, newThreshold := some 2 }

def reshareSession : EvidenceSession :=
  .ofInit 7 (.reshare "pk" unsorted 2 "ring") "ring" ["a", "b", "c"] 0

def reshareBinding : DkgReportEvidenceBinding :=
  reshareSession.bindingOf "pss_reshare" "ring" "chain" reshareRing

theorem share_evidence_disagrees :
    (∃ evidence, buildShareEvidenceWithContext "c" ⟨binding unsorted, "c", [1], Trio.attemptId⟩ 3 1
        (toRepr (3 : F7)) [9] (commitment (binding unsorted) 1 [1]) 1000 = .ok evidence ∧
      evidence.statement.receiverNodeKey = "b" ∧
      nodeKeyForCanonicalNodeId 1 unsorted = some "a") ∧
    evidenceBinding reshareSession (context reshareRing).bulletin = .ok (some reshareBinding) ∧
    verifyShareEvidence (some reshareBinding)
        (message (share reshareBinding (commitment reshareBinding 1 [1]))) =
      .ok (some (share reshareBinding (commitment reshareBinding 1 [1]))) ∧
    shareEvidenceProvesFailure F7 F7
      (share reshareBinding (commitment reshareBinding 1 [1])).statement = true ∧
    Reviews (context reshareRing) reshareRing "b" ((DealerEvidence.dkgShare
      (share reshareBinding (commitment reshareBinding 1 [1]))).observation (Trio.peer 'a')) ∧
    ¬Confirmed F7 F7 (context reshareRing) reshareRing "b" (Trio.peer 'a')
      (.dkgShare (share reshareBinding (commitment reshareBinding 1 [1]))) := by
  refine ⟨⟨_, rfl, rfl, by decide⟩, rfl, by decide +kernel, by decide, ?_, ?_⟩
  · exact Trio.reviews (by decide) (by decide) rfl rfl (List.Perm.refl _)
  · unfold Confirmed
    decide +kernel

/-! In order, all three mean the same member. -/

def sorted : List String := ["a", "b", "c"]

theorem sameState : SameState (session sorted) "pss_refresh" "ring" (ring sorted)
    (context (ring sorted)) (binding sorted) where
  origin_eq := rfl
  binding_eq := rfl
  version_eq := rfl
  keys := ⟨by decide, by decide, by decide, by decide⟩

theorem listed (nested : SignedDkgCommitment) :
    Listed "pss_refresh" (ring sorted) (share (binding sorted) nested).statement :=
  ⟨fun horigin => absurd horigin (by decide), rfl⟩

theorem unsigned (bytes : Bytes) : NodeSigning.verify "a" bytes [] ≠ .ok () := by
  show NodeSigning.verify "a" [] [] ≠ .ok ()
  decide

theorem reportable (slope : F7) (nonce : Bytes) :
    Reportable (share (binding sorted) (commitment (binding sorted) slope nonce)).statement where
  to_ne := two_ne_zero
  named := by
    show trim "b" ≠ ""
    decide
  value_ne := by
    show toRepr (3 : F7) ≠ []
    decide
  commitment_ne := by
    show bytes slope ≠ []
    revert slope
    decide
  commitment_size := by
    show (bytes slope).length % groupPointSize = 0
    revert slope
    decide
  late := by
    show chainBlockGraceSecs ≤ (1000 : UInt64).toNat
    decide

theorem share_evidence_agrees_in_order :
    (∃ evidence, buildShareEvidenceWithContext "c" ⟨binding sorted, "c", [1], Trio.attemptId⟩ 3 1
        (toRepr (3 : F7)) [9] (commitment (binding sorted) 1 [1]) 1000 = .ok evidence ∧
      nodeKeyForCanonicalNodeId 1 sorted = some evidence.statement.receiverNodeKey) ∧
    Confirmed F7 F7 (context (ring sorted)) (ring sorted) "b" (Trio.peer 'a')
      (.dkgShare (share (binding sorted) (commitment (binding sorted) 1 [1]))) := by
  have hbinding : evidenceBinding (session sorted) (context (ring sorted)).bulletin =
      .ok (some (binding sorted)) := rfl
  let build : DkgEvidenceBuildContext := ⟨binding sorted, "c", [1], Trio.attemptId⟩
  have hbuild : build.binding = binding sorted := rfl
  have hsigns : ∀ bytes, ∃ signature, NodeSigning.sign build.signingKeyHex bytes = .ok signature :=
    fun bytes => ⟨_, rfl⟩
  have horigin : (session sorted).origin = some ("pss_refresh", "ring") := rfl
  obtain ⟨hnamed, hconfirmed⟩ := share_evidence_agrees F7 F7 horigin hbinding rfl sameState.keys
    (List.Perm.refl _) sameState.keys "c" hbuild hsigns (commitment (binding sorted) 1 [1])
  constructor
  · refine ⟨_, rfl, ?_⟩
    exact hnamed.mpr (by decide) 3 1 (toRepr (3 : F7)) [9] 1000 _ (by decide) rfl
  · refine (hconfirmed (message (share (binding sorted) (commitment (binding sorted) 1 [1]))) _ _ _
      _ (by decide +kernel) unsigned rfl rfl ?_).mpr ⟨reportable 1 [1], listed _, by decide⟩
    exact Trio.reviews (by decide) (by decide) rfl rfl (List.Perm.refl _)

/-! The first member broadcasts one commitment and nests another one, which fits the share.  The
receiver checks neither the nonce nor the attempt of the nested one.  Then no evidence that it holds
proves a fault. -/

def config : ReceiverConfig := ⟨some (binding sorted), .ok 2, 2, true⟩

def start : ShareReceiver F7 F7 := ⟨.blank 2 2 3 7 .standard, ∅, ∅, []⟩

def broadcast : List (ReceiverInput F7 F7) :=
  [.commitment start.node 1 (bytes 1) (some (commitment (binding sorted) 1 [1]))]

def receiver : ShareReceiver F7 F7 := run (ShareReceiver.step config) start broadcast

/-- The share is on the nested commitment and not on the one that was broadcast. -/
def nestedShare (nonce : Bytes) : SignedDkgShare :=
  share (binding sorted) (commitment (binding sorted) 5 nonce)

/-- The share arrives before the commitment and waits for it. -/
def overtaken : ShareReceiver F7 F7 :=
  run (ShareReceiver.step config) start
    ([] ++ .share false (message (nestedShare [1])) :: broadcast)

end Dealing

end Orbis.Node.Reporting
