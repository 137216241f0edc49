import Orbis.Node.Identity
import Orbis.Node.Transport.Wire

/-!
# What a node signed

A node signs its control messages with its node key, over a digest of their fields, and other
statements over their own bytes.  Signatures are unforgeable: one that verifies was made by the
node.  If in addition no two byte strings that were hashed collide, then a verified control
message is one the node signed, with all its fields.
-/

namespace Orbis.Node.Transport

open Orbis.Crypto Orbis.Data Orbis.Node.Dkg

structure SignedControl where
  ceremonyId : CeremonyId
  attemptId : AttemptId
  messageKind : String
  digest : Bytes32
  signedAt : UInt64
  signature : Bytes
  fits : FitsU64 messageKind
deriving DecidableEq

def SignedControl.preimage (control : SignedControl) : Bytes :=
  controlAckPreimage control.ceremonyId control.attemptId control.messageKind control.digest
    control.signedAt

section

variable [Sha256]

def SignedControl.signingBytes (control : SignedControl) : Bytes :=
  controlAckSigningBytes control.ceremonyId control.attemptId control.messageKind control.digest
    control.signedAt

/-- The node's control messages, and the other statements it signed.  Statements start with a
domain and are signed unhashed; none of them has the length of a digest. -/
structure NodeSignatures where
  controls : Set SignedControl
  statements : Set (Bytes × Bytes)
  length_ne : ∀ signed ∈ statements, signed.1.length ≠ 32

/-- Whatever verifies under the node key was signed by the node. -/
def NodeSignatures.Unforgeable [NodeSigning] (signed : NodeSignatures) (nodeKey : String) :
    Prop :=
  ∀ message signature, NodeSigning.verify nodeKey message signature = .ok () →
    (∃ control ∈ signed.controls, control.signingBytes = message ∧
      control.signature = signature) ∨ (message, signature) ∈ signed.statements

theorem NodeSignatures.Unforgeable.control_of_verify [LawfulSha256] [NodeSigning]
    {signed : NodeSignatures} {nodeKey messageKind : String} (h : signed.Unforgeable nodeKey)
    {hashed : Set Bytes} (hfree : Set.InjOn sha256 hashed)
    (hsigned : ∀ control ∈ signed.controls, control.preimage ∈ hashed) {ceremonyId : CeremonyId}
    {attemptId : AttemptId} {digest : Bytes32} {signedAt : UInt64} {signature : Bytes}
    (hfits : FitsU64 messageKind)
    (hhashed : controlAckPreimage ceremonyId attemptId messageKind digest signedAt ∈ hashed)
    (hverify : NodeSigning.verify nodeKey
      (controlAckSigningBytes ceremonyId attemptId messageKind digest signedAt) signature =
        .ok ()) :
    ⟨ceremonyId, attemptId, messageKind, digest, signedAt, signature, hfits⟩ ∈ signed.controls := by
  rcases h _ _ hverify with ⟨control, hmem, hbytes, hsignature⟩ | hstatement
  · have hpreimage := hfree (hsigned control hmem) hhashed hbytes
    obtain ⟨h1, h2, h3, h4, h5⟩ := controlAckPreimage_injective control.fits hfits hpreimage
    obtain ⟨_, _, _, _, _, _, _⟩ := control
    subst h1 h2 h3 h4 h5 hsignature
    exact hmem
  · exact absurd (LawfulSha256.length_sha256 _) (signed.length_ne _ hstatement)

end

/-! ## Signing -/

section

variable [Sha256] [NodeSigning]

def signControlMessage (signingKeyHex nodeKey : String) (now : UInt64) (ceremonyId : CeremonyId)
    (attemptId : AttemptId) (messageKind : String) (digest : Bytes32) :
    Except String ControlSignature := do
  let signature ← NodeSigning.sign signingKeyHex
    (controlAckSigningBytes ceremonyId attemptId messageKind digest now)
  pure ⟨nodeKey, now, signature⟩

/-- The page with its digest and the leader's signature. -/
def signPublicPhaseResponse [LawfulSha256] [Serde PublicPhase] [Serde (Option ParticipantRef)]
    (signingKeyHex nodeKey : String) (now : UInt64) (page : RepairPage) :
    Except String PublicPhaseResponse := do
  let pageDigest := publicRepairPageDigest page
  let reportSignature ← signControlMessage signingKeyHex nodeKey now page.ceremonyId
    page.attemptId "public_phase_response" pageDigest
  pure { page with pageDigest, reportSignature := some reportSignature }

end

/-- Signatures to evaluate with: exactly those in a list of node keys, messages and signatures. -/
@[reducible] def recordedSignatures (made : List (String × Bytes × Bytes)) : NodeSigning where
  sign _ message :=
    match made.find? fun entry => entry.2.1 = message with
    | some entry => .ok entry.2.2
    | none => .error "not signed"
  verify publicKeyHex message signature :=
    if (publicKeyHex, message, signature) ∈ made then .ok () else .error "signature mismatch"

section

variable [Sha256]

/-- A node that signed these control messages and nothing else. -/
def NodeSignatures.ofControls (controls : List SignedControl) : NodeSignatures where
  controls := {control | control ∈ controls}
  statements := ∅
  length_ne := fun _ h => absurd h (Set.notMem_empty _)

/-- The signatures of a node's control messages. -/
@[reducible] def recordedControls (nodeKey : String) (controls : List SignedControl) :
    NodeSigning :=
  recordedSignatures (controls.map fun control =>
    (nodeKey, control.signingBytes, control.signature))

theorem unforgeable_ofControls (nodeKey : String) (controls : List SignedControl) :
    @NodeSignatures.Unforgeable _ (recordedControls nodeKey controls) (.ofControls controls)
      nodeKey := by
  intro message signature hverify
  left
  by_cases hmade : (nodeKey, message, signature) ∈ controls.map fun control =>
      (nodeKey, control.signingBytes, control.signature)
  · obtain ⟨control, hmem, heq⟩ := List.mem_map.mp hmade
    cases heq
    exact ⟨control, hmem, rfl, rfl⟩
  · exact absurd ((if_neg hmade).symm.trans hverify) (by simp)

end

end Orbis.Node.Transport
