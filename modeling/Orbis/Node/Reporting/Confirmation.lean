import Mathlib.Data.UInt
import Orbis.Node.Reporting.Common

/-!
# Reports that are confirmed

A reporter builds the envelope from what it has observed and from the ring as it reads it.  Here is
what a member of the ring needs in order to confirm such a report, apart from the evidence: the
same ring, members enough without the accused, routes that are still those of the records, and a
time within the report's lifetime.
-/

namespace Orbis.Node.Reporting

open Orbis.Crypto Orbis.Data

def saturatingAddSecs (time : UInt64) (secs : ℕ) : UInt64 :=
  UInt64.ofNat (min (time.toNat + secs) (2 ^ 64 - 1))

def saturatingSubSecs (time : UInt64) (secs : ℕ) : UInt64 := UInt64.ofNat (time.toNat - secs)

/-- `InvalidCryptoResponseObservation`; of the evidence only the identifier of the request is used
for the envelope. -/
structure InvalidCryptoResponseObservation where
  ringId : String
  accusedNodeKey : String
  accusedPeerId : String
  observedAt : UInt64
  requestId : String
deriving DecidableEq

def buildEnvelope [Sha256] (observation : InvalidCryptoResponseObservation) (ring : RingPayload)
    (reporterNodeKey chainId : String) : ReportEnvelope where
  domain := reportDomain
  reportType := invalidCryptoResponseReportType
  chainId := chainId
  ringId := observation.ringId
  ringPk := ring.ringPk
  ringStateSha256 := ringStateSha256 ring
  reporterNodeKey := reporterNodeKey
  accusedNodeKey := observation.accusedNodeKey
  accusedPeerId := observation.accusedPeerId
  observedAt := observation.observedAt
  expiresAt := saturatingAddSecs observation.observedAt reportTtlSecs
  sessionId := observation.requestId

theorem toNat_saturatingSubSecs (time : UInt64) (secs : ℕ) :
    (saturatingSubSecs time secs).toNat = time.toNat - secs := by
  have hlt := time.toNat_lt
  rw [saturatingSubSecs, UInt64.toNat_ofNat_of_lt']
  exact lt_of_le_of_lt (Nat.sub_le _ _) hlt

/-- The window of a report starts a fixed time before its evidence was signed. -/
theorem validateEvidenceAnchor_saturatingSubSecs {signedAt : UInt64}
    (h : chainBlockGraceSecs ≤ signedAt.toNat) :
    validateEvidenceAnchor signedAt (saturatingSubSecs signedAt chainBlockGraceSecs) = .ok () :=
  require_eq_ok.mpr ⟨h, toNat_saturatingSubSecs signedAt chainBlockGraceSecs⟩

/-- What a validator reads, next to the evidence, when a member of the ring reports another one.
It reads the ring that the reporter has read. -/
structure Reviews (context : ReportValidationContext) (ring : RingPayload)
    (reporterNodeKey : String) (observation : InvalidCryptoResponseObservation) : Prop where
  ring_eq : context.bulletin.ring observation.ringId = .ok ring
  finalized : ring.ringPk ≠ ""
  threshold : 2 ≤ ring.threshold
  /-- A threshold remains without the accused. -/
  enough : ring.threshold < ring.peerNodeKeys.length
  accused_mem : observation.accusedNodeKey ∈ ring.peerNodeKeys
  reporter_mem : reporterNodeKey ∈ ring.peerNodeKeys
  reporter_ne : reporterNodeKey ≠ observation.accusedNodeKey
  signer_mem : context.localNodeKey ∈ ring.peerNodeKeys
  signer_ne : context.localNodeKey ≠ observation.accusedNodeKey
  accusedRoute : context.bulletin.nodeInfo observation.accusedNodeKey =
    .ok ⟨observation.accusedPeerId⟩
  reporterRoute : ∃ info, context.bulletin.nodeInfo reporterNodeKey = .ok info ∧
    extractNodePart info.peerId = context.requesterPeerHex.getD context.localPeerHex
  /-- No field of the envelope is empty. -/
  named : ∀ name ∈ [context.bulletin.chainId, observation.ringId, reporterNodeKey,
    observation.accusedNodeKey, observation.accusedPeerId, observation.requestId], name ≠ ""
  version : effectiveVersion ring.upgradeInfo observation.observedAt = .ok context.routesVersion
  begun : observation.observedAt ≤ context.now
  alive : context.now.toNat ≤ observation.observedAt.toNat + reportTtlSecs
  bounded : observation.observedAt.toNat + reportTtlSecs < 2 ^ 64

namespace Reviews

variable [Sha256] {context : ReportValidationContext} {ring : RingPayload}
  {reporterNodeKey : String} {observation : InvalidCryptoResponseObservation}

variable (h : Reviews context ring reporterNodeKey observation)
include h

theorem requiredFields_ne [LawfulSha256] :
    ∀ field ∈ (buildEnvelope observation ring reporterNodeKey
      context.bulletin.chainId).requiredFields, field.2 ≠ "" := by
  have hnamed := h.named
  have hdigest : ringStateSha256 ring ≠ "" := by
    intro hempty
    have hlen := length_hexChars (sha256 (canonicalRingStateBytes ring))
    have hchars : hexChars (sha256 (canonicalRingStateBytes ring)) = [] := by
      simpa [ringStateSha256, hexEncode] using congrArg String.toList hempty
    rw [hchars, LawfulSha256.length_sha256] at hlen
    cases hlen
  simp only [List.mem_cons, List.not_mem_nil, or_false, forall_eq_or_imp, forall_eq] at hnamed
  obtain ⟨hchain, hringId, hreporter, haccused, hpeer, hrequest⟩ := hnamed
  simp only [ReportEnvelope.requiredFields, buildEnvelope, List.mem_cons, List.not_mem_nil,
    or_false, forall_eq_or_imp, forall_eq]
  exact ⟨by decide, hchain, hringId, h.finalized, hdigest, hreporter, haccused, hpeer, hrequest⟩

theorem validateShape [LawfulSha256] :
    (buildEnvelope observation ring reporterNodeKey context.bulletin.chainId).validateShape
      context.now = .ok () := by
  have hexpires : (saturatingAddSecs observation.observedAt reportTtlSecs).toNat =
      observation.observedAt.toNat + reportTtlSecs := by
    rw [saturatingAddSecs, Nat.min_eq_left (Nat.le_sub_one_of_lt h.bounded),
      UInt64.toNat_ofNat_of_lt']
    exact h.bounded
  have hafter : observation.observedAt ≤
      saturatingAddSecs observation.observedAt reportTtlSecs := by
    rw [UInt64.le_iff_toNat_le, hexpires]
    omega
  have hwindow : (saturatingAddSecs observation.observedAt reportTtlSecs).toNat -
      observation.observedAt.toNat = reportTtlSecs := by omega
  have halive : context.now ≤ saturatingAddSecs observation.observedAt reportTtlSecs := by
    rw [UInt64.le_iff_toNat_le, hexpires]
    exact h.alive
  have hfields := h.requiredFields_ne
  unfold ReportEnvelope.validateShape
  refine require_bind_eq_ok.mpr ⟨rfl, ?_⟩
  refine require_bind_eq_ok.mpr ⟨h.begun, ?_⟩
  refine require_bind_eq_ok.mpr ⟨⟨hafter, hwindow⟩, ?_⟩
  refine require_bind_eq_ok.mpr ⟨halive, ?_⟩
  rw [forM_eq_ok fun field hfield => require_eq_ok.mpr (hfields field hfield), ok_bind]
  exact require_eq_ok.mpr h.reporter_ne

theorem validateReport_eq [LawfulSha256]
    (validateEvidence : RingPayload → Except ReportingError Unit) :
    validateReport (buildEnvelope observation ring reporterNodeKey context.bulletin.chainId)
      context validateEvidence = validateEvidence ring := by
  have hring : context.bulletin.ring (buildEnvelope observation ring reporterNodeKey
      context.bulletin.chainId).ringId = .ok ring := h.ring_eq
  unfold validateReport
  rw [h.validateShape, ok_bind, require_bind (by rfl), hring, mapError_ok, ok_bind]

theorem validateReportRouteVersionAtObservedAt_eq :
    validateReportRouteVersionAtObservedAt
      (buildEnvelope observation ring reporterNodeKey context.bulletin.chainId) ring
      context.routesVersion = .ok context.routesVersion := by
  have hversion : effectiveVersion ring.upgradeInfo (buildEnvelope observation ring
      reporterNodeKey context.bulletin.chainId).observedAt = .ok context.routesVersion := h.version
  unfold validateReportRouteVersionAtObservedAt
  rw [hversion, mapError_ok, ok_bind]
  exact require_bind_eq_ok.mpr ⟨rfl, rfl⟩

theorem validateRingAndMembershipForScopes_eq (label : String) :
    validateRingAndMembershipForScopes
      (buildEnvelope observation ring reporterNodeKey context.bulletin.chainId) ring .current
      .current label = .ok ⟨ring.peerNodeKeys, ring.threshold⟩ := by
  have hless := h.enough
  have hexcluded : ¬(observation.accusedNodeKey ∈ ring.peerNodeKeys ∧
      ring.peerNodeKeys.length - 1 < ring.threshold) := fun hboth => by omega
  unfold validateRingAndMembershipForScopes
  refine require_bind_eq_ok.mpr ⟨h.finalized, ?_⟩
  refine require_bind_eq_ok.mpr ⟨rfl, ?_⟩
  refine require_bind_eq_ok.mpr ⟨rfl, ?_⟩
  simp only [committeeForScope, ok_bind]
  refine require_bind_eq_ok.mpr ⟨h.threshold, ?_⟩
  refine require_bind_eq_ok.mpr ⟨hless.le, ?_⟩
  refine require_bind_eq_ok.mpr ⟨hexcluded, ?_⟩
  refine require_bind_eq_ok.mpr ⟨h.reporter_mem, ?_⟩
  exact require_bind_eq_ok.mpr ⟨h.accused_mem, rfl⟩

theorem validateNodeRoutes_eq :
    validateNodeRoutes (buildEnvelope observation ring reporterNodeKey context.bulletin.chainId)
      context = .ok () := by
  obtain ⟨info, hinfo, hpeer⟩ := h.reporterRoute
  have haccused : context.bulletin.nodeInfo (buildEnvelope observation ring reporterNodeKey
      context.bulletin.chainId).accusedNodeKey = .ok ⟨observation.accusedPeerId⟩ := h.accusedRoute
  have hreporter : context.bulletin.nodeInfo (buildEnvelope observation ring reporterNodeKey
      context.bulletin.chainId).reporterNodeKey = .ok info := hinfo
  unfold validateNodeRoutes
  rw [haccused, mapError_ok, ok_bind]
  refine require_bind_eq_ok.mpr ⟨rfl, ?_⟩
  rw [hreporter, mapError_ok, ok_bind]
  exact require_eq_ok.mpr hpeer

theorem validateLocalSigner_eq (label : String) :
    validateLocalSigner (buildEnvelope observation ring reporterNodeKey context.bulletin.chainId)
      context ⟨ring.peerNodeKeys, ring.threshold⟩ label = .ok () := by
  unfold validateLocalSigner
  refine require_bind_eq_ok.mpr ⟨h.signer_ne, ?_⟩
  exact require_eq_ok.mpr h.signer_mem

end Reviews

/-- A statement with this prologue is bound to the report of the observation. -/
structure InvalidCryptoStatementPrologue.Binds [Sha256] (statement : InvalidCryptoStatementPrologue)
    (observation : InvalidCryptoResponseObservation) (ring : RingPayload) (chainId : String) :
    Prop where
  domain_eq : statement.domain = statement.expectedDomain
  chain_eq : statement.chainId = chainId
  ringId_eq : statement.ringId = observation.ringId
  ringPk_eq : statement.ringPk = ring.ringPk
  state_eq : statement.ringStateSha256 = Orbis.Node.ringStateSha256 ring
  request_eq : statement.requestId = observation.requestId
  responder_eq : statement.responderNodeKey = observation.accusedNodeKey
  anchored : statement.checkAnchor = true →
    validateEvidenceAnchor statement.signedAt observation.observedAt = .ok ()

theorem InvalidCryptoStatementPrologue.Binds.validate_eq [Sha256]
    {statement : InvalidCryptoStatementPrologue} {observation : InvalidCryptoResponseObservation}
    {ring : RingPayload} {context : ReportValidationContext}
    (h : statement.Binds observation ring context.bulletin.chainId) (reporterNodeKey : String) :
    validateInvalidCryptoStatementPrologue
      (buildEnvelope observation ring reporterNodeKey context.bulletin.chainId) context statement =
        .ok () := by
  unfold validateInvalidCryptoStatementPrologue
  refine require_bind_eq_ok.mpr ⟨h.domain_eq, ?_⟩
  refine require_bind_eq_ok.mpr ⟨⟨h.chain_eq, rfl⟩, ?_⟩
  refine require_bind_eq_ok.mpr ⟨⟨h.ringId_eq, h.ringPk_eq, h.state_eq⟩, ?_⟩
  refine require_bind_eq_ok.mpr ⟨h.request_eq, ?_⟩
  cases hcheck : statement.checkAnchor with
  | false => exact require_eq_ok.mpr h.responder_eq
  | true =>
    have hanchor : validateEvidenceAnchor statement.signedAt (buildEnvelope observation ring
        reporterNodeKey context.bulletin.chainId).observedAt = .ok () := h.anchored hcheck
    rw [if_pos rfl, hanchor, ok_bind]
    exact require_eq_ok.mpr h.responder_eq

end Orbis.Node.Reporting
