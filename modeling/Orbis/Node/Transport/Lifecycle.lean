import Orbis.Node.Identity
import Orbis.Node.Transport.Wire

/-!
# The transport of a session

A session is reserved for an attempt when it is created.  A Prepare configures its transport, an
Activate freezes the dealers, and a Begin starts the cryptographic work.  Each transition is taken
at most once in a session; a repeated request is acknowledged if it has the digest of the first.
-/

namespace Orbis.Node.Transport

open Orbis.Crypto Orbis.Data Orbis.Node.Dkg

structure ConfiguredTransport where
  configDigest : Bytes32
  leaderNodeKey : String
  leaderPeerRoute : String
deriving DecidableEq

structure ActivatedTransport where
  activationDigest : Bytes32
  activeDealers : List ParticipantRef
deriving DecidableEq

inductive TransportLifecycle where
  | unset
  | reserved (attempt : AttemptKey)
  | configured (attempt : AttemptKey) (transport : ConfiguredTransport)
  | activated (attempt : AttemptKey) (transport : ConfiguredTransport)
      (activation : ActivatedTransport)
  | begun (attempt : AttemptKey) (transport : ConfiguredTransport)
      (activation : ActivatedTransport)
deriving DecidableEq

inductive TransportConfigureOutcome where
  | configured
  | alreadyConfigured
  | conflictingAttempt
  | missingSession
deriving DecidableEq

def TransportConfigureOutcome.name : TransportConfigureOutcome → String
  | configured => "Configured"
  | alreadyConfigured => "AlreadyConfigured"
  | conflictingAttempt => "ConflictingAttempt"
  | missingSession => "MissingSession"

inductive TransportActivationOutcome where
  | activated
  | alreadyActivated
  | staleAttempt
  | missingSession
deriving DecidableEq

inductive TransportBeginOutcome where
  | begun
  | alreadyBegun
  | notActivated
  | staleAttempt
  | missingSession
deriving DecidableEq

namespace TransportLifecycle

def attempt : TransportLifecycle → Option AttemptKey
  | unset => none
  | reserved attempt | configured attempt _ | activated attempt _ _ | begun attempt _ _ =>
    some attempt

def attemptId (lifecycle : TransportLifecycle) : Option AttemptId :=
  lifecycle.attempt.map AttemptKey.attemptId

def transport : TransportLifecycle → Option ConfiguredTransport
  | configured _ transport | activated _ transport _ | begun _ transport _ => some transport
  | unset | reserved _ => none

def activation : TransportLifecycle → Option ActivatedTransport
  | activated _ _ activation | begun _ _ activation => some activation
  | unset | reserved _ | configured _ _ => none

def configureTransport (attempt : AttemptKey) (transport : ConfiguredTransport)
    (lifecycle : TransportLifecycle) : TransportLifecycle × TransportConfigureOutcome :=
  if ∃ existing ∈ lifecycle.attempt, existing ≠ attempt then (lifecycle, .conflictingAttempt)
  else
    match lifecycle.transport with
    | some existing =>
      (lifecycle,
        if existing.configDigest = transport.configDigest then .alreadyConfigured
        else .conflictingAttempt)
    | none => (configured attempt transport, .configured)

def activateTransport (attemptId : AttemptId) (activationDigest : Bytes32)
    (activeDealers : List ParticipantRef) (lifecycle : TransportLifecycle) :
    TransportLifecycle × TransportActivationOutcome :=
  if lifecycle.attemptId ≠ some attemptId then (lifecycle, .staleAttempt)
  else
    match lifecycle with
    | configured attempt transport =>
      (activated attempt transport ⟨activationDigest, activeDealers⟩, .activated)
    | activated _ _ activation | begun _ _ activation =>
      (lifecycle,
        if activation.activationDigest = activationDigest ∧
            activation.activeDealers = activeDealers then .alreadyActivated
        else .staleAttempt)
    | unset | reserved _ => (lifecycle, .staleAttempt)

def beginTransport (attemptId : AttemptId) (activationDigest : Bytes32)
    (lifecycle : TransportLifecycle) : TransportLifecycle × TransportBeginOutcome :=
  if lifecycle.attemptId ≠ some attemptId then (lifecycle, .staleAttempt)
  else
    match lifecycle with
    | activated attempt transport activation =>
      if activation.activationDigest ≠ activationDigest then (lifecycle, .staleAttempt)
      else (begun attempt transport activation, .begun)
    | begun _ _ activation =>
      (lifecycle,
        if activation.activationDigest = activationDigest then .alreadyBegun else .staleAttempt)
    | unset | reserved _ | configured _ _ => (lifecycle, .notActivated)

end TransportLifecycle

/-! ## Leaders and dealers -/

def peerMatchesRoute (peer : Bytes) (route : String) : Bool :=
  hexEncode peer = lowercase (extractNodePart route)

def PrepareSession.leaderRoute (prepare : PrepareSession) : Option String := do
  let committee ← prepare.leaderCommittee
  let index ← committee.nodeKeys.idxOf? prepare.leaderNodeKey
  committee.peerRoutes[index]?

/-- The current committee comes before the next. -/
def participantRank (participant : ParticipantRef) : ℕ ×ₗ ℕ :=
  toLex (if participant.scope = .current then 0 else 1, participant.nodeId)

theorem participantRank_injective : Function.Injective participantRank := by
  rintro ⟨scope, nodeId⟩ ⟨scope', nodeId'⟩ heq
  obtain ⟨hscope, hnode⟩ := Prod.mk.inj (toLex.injective heq)
  cases scope <;> cases scope' <;> simp_all

instance : LinearOrder ParticipantRef := LinearOrder.lift' participantRank participantRank_injective

/-- The dealers are hashed in their order. -/
def activationDigest [Sha256] [LawfulSha256] [Serde (List ParticipantRef)] (configDigest : Bytes32)
    (activeDealers : List ParticipantRef) : Except String Bytes32 := do
  let canonical := sortDedup activeDealers
  require (canonical.length = activeDealers.length ∧
      ∀ participant ∈ canonical, participant.scope = .current)
    "activation dealer set must contain unique current-committee participants"
  pure (digest32 (utf8Bytes "orbis-dkg-activation-v1" ++ configDigest.val ++ toVec canonical))

/-! ## Digests of a session -/

inductive AckKind where
  | prepared
  | activated
  | begun
deriving DecidableEq

namespace AckKind

def label : AckKind → String
  | prepared => "prepared"
  | activated => "activated"
  | begun => "begun"

theorem fits_label (kind : AckKind) : FitsU64 kind.label := by
  cases kind <;> decide

theorem label_injective : Function.Injective label := by
  intro kind kind' h
  cases kind <;> cases kind' <;> first | rfl | exact absurd h (by decide)

theorem exists_label {label : String} (h : label ∈ ["prepared", "activated", "begun"]) :
    ∃ kind : AckKind, kind.label = label := by
  simp only [List.mem_cons, List.not_mem_nil, or_false] at h
  rcases h with rfl | rfl | rfl
  · exact ⟨prepared, rfl⟩
  · exact ⟨activated, rfl⟩
  · exact ⟨begun, rfl⟩

end AckKind

namespace TransportLifecycle

variable {lifecycle : TransportLifecycle}

/-- The digest that an acknowledgement of the session has. -/
def digest (lifecycle : TransportLifecycle) : AckKind → Option Bytes32
  | .prepared => lifecycle.transport.map ConfiguredTransport.configDigest
  | .activated | .begun => lifecycle.activation.map ActivatedTransport.activationDigest

/-- A session keeps its attempt and the digests it has. -/
structure Grows (lifecycle lifecycle' : TransportLifecycle) : Prop where
  attempt : ∀ attempt, lifecycle.attempt = some attempt → lifecycle'.attempt = some attempt
  digest : ∀ kind digest, lifecycle.digest kind = some digest → lifecycle'.digest kind = some digest

theorem Grows.refl (lifecycle : TransportLifecycle) : Grows lifecycle lifecycle :=
  ⟨fun _ h => h, fun _ _ h => h⟩

theorem configureTransport_grows (attempt : AttemptKey) (transport : ConfiguredTransport)
    (lifecycle : TransportLifecycle) :
    Grows lifecycle (lifecycle.configureTransport attempt transport).1 := by
  unfold configureTransport
  split_ifs with hother
  · exact .refl _
  · push Not at hother
    cases lifecycle with
    | unset =>
      refine ⟨fun _ h => ?_, fun kind _ h => by cases kind <;> cases h⟩
      cases h
    | reserved existing =>
      refine ⟨fun _ h => ?_, fun kind _ h => by cases kind <;> cases h⟩
      rw [← hother _ h]
      rfl
    | configured _ _ | activated _ _ _ | begun _ _ _ => exact .refl _

/-- A session that is configured has the digest of the request. -/
theorem configureTransport_configured {attempt : AttemptKey} {transport : ConfiguredTransport}
    (h : (lifecycle.configureTransport attempt transport).2 ≠ .conflictingAttempt) :
    (lifecycle.configureTransport attempt transport).1.attempt = some attempt ∧
      (lifecycle.configureTransport attempt transport).1.digest .prepared =
        some transport.configDigest := by
  revert h
  unfold configureTransport
  split_ifs with hother
  · exact fun h => absurd rfl h
  · push Not at hother
    intro h
    cases lifecycle with
    | unset | reserved _ => exact ⟨rfl, rfl⟩
    | configured existing _ | activated existing _ _ | begun existing _ _ =>
      exact ⟨congrArg some (hother existing rfl),
        congrArg some (by_contra fun hne => h (if_neg hne))⟩

theorem activateTransport_grows (attemptId : AttemptId) (activationDigest : Bytes32)
    (activeDealers : List ParticipantRef) (lifecycle : TransportLifecycle) :
    Grows lifecycle (lifecycle.activateTransport attemptId activationDigest activeDealers).1 := by
  unfold activateTransport
  split_ifs
  · exact .refl _
  · cases lifecycle with
    | configured attempt transport =>
      refine ⟨fun _ h => h, fun kind digest h => ?_⟩
      cases kind with
      | prepared => exact h
      | activated | begun => cases h
    | unset | reserved _ | activated _ _ _ | begun _ _ _ => exact .refl _

theorem activateTransport_activated {attemptId : AttemptId} {activationDigest : Bytes32}
    {activeDealers : List ParticipantRef}
    (h : (lifecycle.activateTransport attemptId activationDigest activeDealers).2 ≠
      .staleAttempt) :
    (lifecycle.activateTransport attemptId activationDigest activeDealers).1.attemptId =
        some attemptId ∧
      (lifecycle.activateTransport attemptId activationDigest activeDealers).1.digest .activated =
        some activationDigest := by
  revert h
  unfold activateTransport
  split_ifs with hstale
  · exact fun h => absurd rfl h
  · have hattempt : lifecycle.attemptId = some attemptId := not_not.mp hstale
    intro h
    cases lifecycle with
    | unset | reserved _ => exact absurd rfl h
    | configured _ _ => exact ⟨hattempt, rfl⟩
    | activated _ _ activation | begun _ _ activation =>
      have hsame : activation.activationDigest = activationDigest ∧
          activation.activeDealers = activeDealers := by_contra fun hne => h (if_neg hne)
      exact ⟨hattempt, congrArg some hsame.1⟩

theorem beginTransport_grows (attemptId : AttemptId) (activationDigest : Bytes32)
    (lifecycle : TransportLifecycle) :
    Grows lifecycle (lifecycle.beginTransport attemptId activationDigest).1 := by
  unfold beginTransport
  split_ifs
  · exact .refl _
  · cases lifecycle with
    | activated attempt transport activation =>
      simp only
      split_ifs
      · exact .refl _
      · exact ⟨fun _ h => h, fun kind digest h => by cases kind <;> exact h⟩
    | unset | reserved _ | configured _ _ | begun _ _ _ => exact .refl _

theorem beginTransport_begun {attemptId : AttemptId} {activationDigest : Bytes32}
    (hstale : (lifecycle.beginTransport attemptId activationDigest).2 ≠ .staleAttempt)
    (hactive : (lifecycle.beginTransport attemptId activationDigest).2 ≠ .notActivated) :
    (lifecycle.beginTransport attemptId activationDigest).1.attemptId = some attemptId ∧
      (lifecycle.beginTransport attemptId activationDigest).1.digest .begun =
        some activationDigest := by
  revert hstale hactive
  unfold beginTransport
  split_ifs with hother
  · exact fun h => absurd rfl h
  · have hattempt : lifecycle.attemptId = some attemptId := not_not.mp hother
    intro hstale hactive
    cases lifecycle with
    | unset | reserved _ | configured _ _ => exact absurd rfl hactive
    | activated _ _ activation =>
      simp only at hstale ⊢
      split_ifs at hstale ⊢ with hdigest
      · exact absurd rfl hstale
      · exact ⟨hattempt, congrArg some (not_not.mp hdigest)⟩
    | begun _ _ activation =>
      exact ⟨hattempt, congrArg some (by_contra fun hne => hstale (if_neg hne))⟩

end TransportLifecycle

end Orbis.Node.Transport
