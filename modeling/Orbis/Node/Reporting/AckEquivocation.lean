import Orbis.Node.Reporting.LeaderPrepare
import Orbis.Node.Transport.Acks

/-!
# Reports about acknowledgements that differ

Two acknowledgements of one kind for one attempt with different digests convict the follower that
signed them.  A follower compares a request with its session only, so it signs one digest for each
acknowledgement of an attempt as long as the attempt has one session.
-/

namespace Orbis.Node.Reporting

open Orbis.Crypto Orbis.Data Orbis.Node.Transport Orbis.Transition
open Orbis.Node.Dkg (ParticipantRef)

section

variable [Sha256]

/-- The byte strings that are hashed when a report about acknowledgements is validated. -/
inductive AckHashed (statement : DkgControlMessageFaultStatement) : Bytes → Prop
  | first {ceremonyId : CeremonyId} {digest : Bytes32}
      (hceremony : parseU128 statement.requestId = some ceremonyId)
      (hdigest : to32 statement.artifactA.data = some digest) :
      AckHashed statement (controlAckPreimage ceremonyId statement.attemptId
        statement.messageKind digest statement.artifactA.signedAt)
  | second {ceremonyId : CeremonyId} {artifact : ControlMessageArtifact} {digest : Bytes32}
      (hceremony : parseU128 statement.requestId = some ceremonyId)
      (hartifact : statement.artifactB = some artifact)
      (hdigest : to32 artifact.data = some digest) :
      AckHashed statement (controlAckPreimage ceremonyId statement.attemptId
        statement.messageKind digest artifact.signedAt)

variable [LawfulSha256] [NodeSigning] [AddressSyntax] [Serde SessionKind] [Serde PrepareSession]
  [Serde PublicPhase] [Serde (Option ParticipantRef)] [Serde DkgControlMessage]

theorem agreeing_acks_rejected {signed : NodeSignatures} {follower : String}
    (hforge : signed.Unforgeable follower)
    (hagree : ∀ control ∈ signed.controls, ∀ control' ∈ signed.controls,
      control.messageKind ∈ ["prepared", "activated", "begun"] →
      control.messageKind = control'.messageKind → control.attempt = control'.attempt →
      control.digest = control'.digest)
    {envelope : ReportEnvelope} {context : ReportValidationContext}
    {statement : DkgControlMessageFaultStatement} (haccused : envelope.accusedNodeKey = follower)
    (hkind : statement.faultKind = .ackEquivocation) {hashed : Set Bytes}
    (hfree : Set.InjOn sha256 hashed)
    (hcontrols : ∀ control ∈ signed.controls, control.preimage ∈ hashed)
    (hreport : ∀ bytes, AckHashed statement bytes → bytes ∈ hashed) :
    validateReport envelope context (validateDkgControlMessageFaultEvidence envelope context
      statement) ≠ .ok () := by
  intro haccepted
  obtain ⟨ring, -, hevidence⟩ := evidence_of_validateReport haccepted
  obtain ⟨⟨ceremonyId, accusedCommittee⟩, hstatement, hevidence⟩ := bind_eq_ok.mp hevidence
  rw [hkind] at hevidence
  obtain ⟨hresponder, -, hceremony⟩ := validateControlStatement_eq_ok hstatement
  obtain ⟨artifactB, digestA, digestB, hlabel, hartifact, hdigestA, hdigestB, hne, hverifyA,
    hverifyB⟩ := validateAckEquivocation_eq_ok hevidence
  rw [hresponder, haccused] at hverifyA hverifyB
  have hfits : FitsU64 statement.messageKind := by
    obtain ⟨kind, hname⟩ := AckKind.exists_label hlabel
    rw [← hname]
    exact kind.fits_label
  -- Both messages are among those that the node signed.
  have hmemA := hforge.control_of_verify hfree hcontrols hfits
    (hreport _ (.first hceremony hdigestA)) hverifyA
  have hmemB := hforge.control_of_verify hfree hcontrols hfits
    (hreport _ (.second hceremony hartifact hdigestB)) hverifyB
  exact hne (hagree _ hmemA _ hmemB hlabel rfl rfl)

variable [Serde (List ParticipantRef)]

/-- A follower none of whose attempts gets a second session signs one digest for each
acknowledgement of an attempt, and no report about acknowledgements that differ is accepted
against it. -/
theorem acks_never_equivocate {signingKeyHex nodeKey : String}
    {schedule : List (Move Follower.Input Answer)}
    (hobeys : (Pool.empty Follower.idle).Obeys (Follower.handler signingKeyHex nodeKey)
      Follower.NoSecondSession schedule) :
    (∀ control ∈ (Follower.after signingKeyHex nodeKey schedule).log,
      ∀ control' ∈ (Follower.after signingKeyHex nodeKey schedule).log,
      control.messageKind = control'.messageKind → control.attempt = control'.attempt →
        control.digest = control'.digest) ∧
    ∀ {signed : NodeSignatures}, signed.Unforgeable nodeKey →
      (∀ control ∈ signed.controls, control.messageKind ∈ ["prepared", "activated", "begun"] →
        control ∈ (Follower.after signingKeyHex nodeKey schedule).log) →
      ∀ {envelope : ReportEnvelope} (context : ReportValidationContext)
        {statement : DkgControlMessageFaultStatement}, envelope.accusedNodeKey = nodeKey →
      statement.faultKind = .ackEquivocation →
      ∀ {hashed : Set Bytes}, Set.InjOn sha256 hashed →
      (∀ control ∈ signed.controls, control.preimage ∈ hashed) →
      (∀ bytes, AckHashed statement bytes → bytes ∈ hashed) →
      validateReport envelope context (validateDkgControlMessageFaultEvidence envelope context
        statement) ≠ .ok () := by
  obtain ⟨ledger, hsound⟩ := Follower.sound_after signingKeyHex nodeKey hobeys
  refine ⟨fun control hmem control' hmem' => hsound.digest_eq hmem hmem', ?_⟩
  intro signed hforge hlog envelope context statement haccused hkind hashed hfree hcontrols hreport
  refine agreeing_acks_rejected hforge ?_ haccused hkind hfree hcontrols hreport
  intro control hmem control' hmem' hlabel hsame hattempt
  exact hsound.digest_eq (hlog control hmem hlabel) (hlog control' hmem' (hsame ▸ hlabel)) hsame
    hattempt

end

/-! ## The same attempt twice -/

namespace Trio

open scoped Plain

local instance ackMessages : Serde DkgControlMessage := .known []

local instance ackPrepares : Serde PrepareSession := .known []

local instance ackDealers : Serde (List ParticipantRef) := .known []

def otherTopic : Bytes32 := .repeated 1

/-- A refresh; the digest does not cover the field that holds it. -/
def refreshWith (topicId configDigest : Bytes32) : PrepareSession :=
  { prepareWith configDigest with
    topicId := topicId, committees := ⟨currentCommittee, none⟩, kind := .refresh "pk" }

def refreshDigest (topicId : Bytes32) : Bytes32 :=
  match configDigest (refreshWith topicId attemptId) with
  | .ok digest => digest
  | .error _ => attemptId

def refresh (topicId : Bytes32) : PrepareSession := refreshWith topicId (refreshDigest topicId)

def attemptKey : AttemptKey := ⟨7, attemptId⟩

def prepared (topicId : Bytes32) (signature : Bytes) : SignedControl :=
  AckKind.prepared.control attemptKey (refreshDigest topicId) ⟨"b", 1000, signature⟩

def dealers : List ParticipantRef := [⟨.current, 1⟩, ⟨.current, 2⟩]

def activatedDigest : Bytes32 :=
  match activationDigest (refreshDigest attemptId) dealers with
  | .ok digest => digest
  | .error _ => attemptId

/-- What the follower signs in the course of one attempt. -/
def acknowledged : List SignedControl :=
  [prepared attemptId [1],
    AckKind.activated.control attemptKey activatedDigest ⟨"b", 1000, [3]⟩,
    AckKind.begun.control attemptKey activatedDigest ⟨"b", 1000, [4]⟩]

def bothPrepared : List SignedControl := [prepared attemptId [1], prepared otherTopic [2]]

def leaderPeer : Bytes := List.replicate 32 0xaa

def undisturbed : Answer := ⟨1000, none⟩

def preparation : List (Move Follower.Input Answer) :=
  .start (.prepare leaderPeer (refresh attemptId)) :: List.replicate 10 (.resume 0 undisturbed)

/-- The leader prepares the attempt twice, activates it and starts it. -/
def begun : List (Move Follower.Input Answer) :=
  preparation ++
    .start (.prepare leaderPeer (refresh attemptId)) :: List.replicate 3 (.resume 1 undisturbed) ++
    .start (.activate leaderPeer attemptKey activatedDigest dealers) ::
      List.replicate 5 (.resume 2 undisturbed) ++
    .start (.begin leaderPeer attemptKey activatedDigest) ::
      List.replicate 4 (.resume 3 undisturbed)

/-- The leader aborts, and prepares the attempt again with another topic. -/
def reprepared : List (Move Follower.Input Answer) :=
  preparation ++
    .start (.abort leaderPeer attemptKey "again") :: List.replicate 4 (.resume 1 undisturbed) ++
    .start (.prepare leaderPeer (refresh otherTopic)) :: List.replicate 10 (.resume 2 undisturbed)

/-- The leader reports the two acknowledgements to the third member. -/
def ackEnvelope : ReportEnvelope :=
  { envelope payload with
    reporterNodeKey := "a"
    accusedNodeKey := "b"
    accusedPeerId := peer 'b' }

def ackContext : ReportValidationContext :=
  { context payload with requesterPeerHex := some (peer 'a') }

def ackStatement : DkgControlMessageFaultStatement :=
  { statement payload .ackEquivocation "prepared" ⟨[1], (refreshDigest attemptId).val, 1000⟩ with
    responderNodeKey := "b"
    artifactB := some ⟨[2], (refreshDigest otherTopic).val, 1000⟩ }

def ackHashes : List Bytes := (bothPrepared ++ acknowledged).map SignedControl.preimage

theorem ackHashes_injOn : Set.InjOn sha256 {bytes | bytes ∈ ackHashes} := by
  have h : ∀ x ∈ ackHashes, ∀ y ∈ ackHashes, sha256 x = sha256 y → x = y := by decide +kernel
  exact fun x hx y hy => h x hx y hy

theorem ackHashes_of_report {bytes : Bytes} (h : AckHashed ackStatement bytes) :
    bytes ∈ ackHashes := by
  have hseven : parseU128 "7" = some 7 := by decide
  cases h with
  | first hceremony hdigest =>
    cases hseven.symm.trans hceremony
    cases hdigest
    exact List.mem_cons_self
  | second hceremony hartifact hdigest =>
    cases hseven.symm.trans hceremony
    cases hartifact
    cases hdigest
    exact List.mem_cons_of_mem _ List.mem_cons_self

section

local instance begunSigning : NodeSigning := recordedControls "b" acknowledged

/-- A follower that has acknowledged an attempt from its preparation to its start. -/
theorem acks_never_equivocate_begun :
    (Follower.after "key" "b" begun).log = prepared attemptId [1] :: acknowledged ∧
      (∀ control ∈ (Follower.after "key" "b" begun).log,
        ∀ control' ∈ (Follower.after "key" "b" begun).log,
        control.messageKind = control'.messageKind → control.attempt = control'.attempt →
          control.digest = control'.digest) ∧
      validateReport ackEnvelope ackContext
        (validateDkgControlMessageFaultEvidence ackEnvelope ackContext ackStatement) ≠ .ok () := by
  have hobeys : (Pool.empty Follower.idle).Obeys (Follower.handler "key" "b")
      Follower.NoSecondSession begun := by decide +kernel
  have hlog : (Follower.after "key" "b" begun).log = prepared attemptId [1] :: acknowledged := by
    decide +kernel
  refine ⟨hlog, (acks_never_equivocate hobeys).1, ?_⟩
  refine (acks_never_equivocate hobeys).2 (unforgeable_ofControls "b" acknowledged) ?_
    ackContext rfl rfl ackHashes_injOn ?_ fun _ => ackHashes_of_report
  · intro control hmem _
    rw [hlog]
    exact List.mem_cons_of_mem _ hmem
  · intro control hmem
    exact List.mem_map_of_mem (List.mem_append_right _ hmem)

end

local instance ackSigning : NodeSigning := recordedControls "b" bothPrepared

/-- After an abort the follower prepares the same attempt again with another digest, and is
convicted by its two acknowledgements. -/
theorem convicted_of_reprepared_attempt :
    (Follower.after "key" "b" reprepared).log = bothPrepared ∧
      (NodeSignatures.ofControls bothPrepared).Unforgeable "b" ∧
      Set.InjOn sha256 {bytes | bytes ∈ ackHashes} ∧
      validateReport ackEnvelope ackContext
        (validateDkgControlMessageFaultEvidence ackEnvelope ackContext ackStatement) = .ok () := by
  refine ⟨by decide +kernel, unforgeable_ofControls "b" bothPrepared, ackHashes_injOn, ?_⟩
  decide +kernel

end Trio

end Orbis.Node.Reporting
