import Orbis.Crypto.Codec
import Orbis.Crypto.Dkg.Calls

/-!
# Commitment messages

A dealer's commitment arrives as the concatenation of its encoded coefficients.  The checks a
node makes before it hands the commitment to its key generation node are here; the hash that
precedes a commitment in a fresh session, and the signed evidence for reports, are not.
-/

namespace Orbis.Node.Dkg

open Orbis.Crypto Orbis.Crypto.Dkg Orbis.Data

inductive DkgError where
  | unauthorized (message : String)
  | serialization (message : String)
  | deserialization (message : String)
  | networkCommunication (message : String)
  | crypto (message : String)
  | storage (message : String)
  | bulletin (message : String)
  | sessionNotFound (message : String)
  | staleAttempt (ceremonyId : ℕ)
  | protocolError (message : String)
  | invalidInput (message : String)
  | commitmentVerificationFailed (message : String)
  | shareVerificationFailed (message : String)
  | invalidState (message : String)
  | insufficientPeers (successful total threshold : ℕ)
  | generic (message : String)
deriving DecidableEq, Repr

def DkgError.ofCrypto (what : String) (e : CryptoError) : DkgError :=
  let text := e.message
  .crypto s!"{what}: {text}"

def DkgError.ofDecode (what : String) (e : CryptoError) : DkgError :=
  let text := e.message
  .deserialization s!"{what}: {text}"

def g1CompressedSize : ℕ := 32

def maxCommitmentCoefficients : ℕ := 256

variable {F E : Type} [AddCommGroup E] [DecidableEq E] [Repr32 E]

def badCoefficient (i : ℕ) (e : CryptoError) : DkgError :=
  let text := e.message
  .deserialization s!"Failed to deserialize commitment coefficient {i}: {text}"

def checkCommitmentLength (commitment : Bytes) : Except DkgError Unit :=
  let length := commitment.length
  let size := g1CompressedSize
  let numCoefficients := length / size
  let most := maxCommitmentCoefficients
  if commitment.isEmpty then
    .error (.commitmentVerificationFailed "Commitment cannot be empty")
  else if length % size ≠ 0 then
    .error (.commitmentVerificationFailed
      (s!"Invalid commitment length: {length} bytes is not a multiple of {size} " ++
        "(G1 compressed size)"))
  else if numCoefficients > most then
    .error (.commitmentVerificationFailed
      s!"Too many commitment coefficients: {numCoefficients} exceeds maximum {most}")
  else .ok ()

def checkCoefficientCount (expectedCoeffCount : ℕ) (commitment : Bytes) : Except DkgError Unit :=
  let numCoefficients := commitment.length / g1CompressedSize
  if numCoefficients ≠ expectedCoeffCount then
    .error (.commitmentVerificationFailed
      (s!"Invalid number of commitment coefficients: got {numCoefficients}, " ++
        s!"expected {expectedCoeffCount}"))
  else .ok ()

/-- The last check probes a copy of the node. -/
def decodeCommitment (node : DKGNode F E) (isRefresh : Bool) (fromNodeId : ℕ)
    (commitment : Bytes) : Except DkgError (PolynomialCommitment E) := do
  let coefficients ← readPoints badCoefficient 0 (commitment.length / g1CompressedSize) commitment
  let polynomialCommitment : PolynomialCommitment E := ⟨coefficients⟩
  if isRefresh ∧ ¬polynomialCommitment.constantTermIsIdentity then
    .error (.commitmentVerificationFailed
      (s!"Refresh commitment from node {fromNodeId} has a non-identity constant term " ++
        "(a nonzero delta at x=0 would shift the ring key)"))
  else
    match (node.receiveCommitment fromNodeId polynomialCommitment).2 with
    | .error e => .error (.ofCrypto "Failed to receive commitment" e)
    | .ok () => .ok polynomialCommitment

/-- `prepare_commitment_message`; `verified` is the check of what came with the commitment. -/
def prepareCommitmentWith {α : Type} (verified : Except DkgError α) (node : DKGNode F E)
    (expectedCoeffCount : ℕ) (isRefresh : Bool) (fromNodeId : ℕ) (commitment : Bytes) :
    Except DkgError (PolynomialCommitment E × α) := do
  checkCommitmentLength commitment
  checkCoefficientCount expectedCoeffCount commitment
  let verified ← verified
  let polynomialCommitment ← decodeCommitment node isRefresh fromNodeId commitment
  pure (polynomialCommitment, verified)

def prepareCommitmentMessage (node : DKGNode F E) (expectedCoeffCount : ℕ) (isRefresh : Bool)
    (fromNodeId : ℕ) (commitment : Bytes) : Except DkgError (PolynomialCommitment E) := do
  let prepared ← prepareCommitmentWith (.ok ()) node expectedCoeffCount isRefresh fromNodeId
    commitment
  pure prepared.1

theorem length_of_checkCommitmentLength {commitment : Bytes}
    (h : checkCommitmentLength commitment = .ok ()) :
    (commitment ≠ [] ∧ commitment.length % g1CompressedSize = 0) ∧
      commitment.length / g1CompressedSize ≤ maxCommitmentCoefficients := by
  unfold checkCommitmentLength at h
  simp only at h
  split_ifs at h with hempty hmultiple hmost
  exact ⟨⟨fun hnil => hempty (List.isEmpty_iff.mpr hnil), not_not.mp hmultiple⟩, not_lt.mp hmost⟩

theorem eq_of_checkCoefficientCount {expectedCoeffCount : ℕ} {commitment : Bytes}
    (h : checkCoefficientCount expectedCoeffCount commitment = .ok ()) :
    commitment.length / g1CompressedSize = expectedCoeffCount := by
  unfold checkCoefficientCount at h
  simp only at h
  split_ifs at h with hcount
  exact not_not.mp hcount

/-- The points are read, and in a refresh the first one is the identity. -/
theorem of_decodeCommitment {node : DKGNode F E} {isRefresh : Bool} {d : ℕ}
    {bytes : Bytes} {c : PolynomialCommitment E}
    (h : decodeCommitment node isRefresh d bytes = .ok c) :
    readPoints badCoefficient 0 (bytes.length / g1CompressedSize) bytes = .ok c.coefficients ∧
      (isRefresh → c.constantTermIsIdentity) ∧ node.AcceptsCommitment d c := by
  unfold decodeCommitment at h
  obtain ⟨coefficients, hread, h⟩ := bind_eq_ok.mp h
  simp only at h
  split at h
  · cases h
  next hzero =>
    split at h
    · cases h
    next hreceive =>
      cases h
      refine ⟨hread, fun hrefresh => ?_, ?_⟩
      · by_contra hne
        exact hzero ⟨hrefresh, hne⟩
      · by_contra hnot
        obtain ⟨e, he⟩ := DKGNode.receiveCommitment_of_not_accepts hnot
        rw [he] at hreceive
        cases hreceive

theorem prepareCommitmentWith_eq_ok {α : Type} {verified : Except DkgError α} {node : DKGNode F E}
    {expectedCoeffCount fromNodeId : ℕ} {isRefresh : Bool} {bytes : Bytes}
    {result : PolynomialCommitment E × α}
    (h : prepareCommitmentWith verified node expectedCoeffCount isRefresh fromNodeId bytes =
      .ok result) :
    checkCommitmentLength bytes = .ok () ∧ checkCoefficientCount expectedCoeffCount bytes = .ok () ∧
      verified = .ok result.2 ∧
      decodeCommitment node isRefresh fromNodeId bytes = .ok result.1 := by
  obtain ⟨_, hlength, h⟩ := bind_eq_ok.mp h
  obtain ⟨_, hcount, h⟩ := bind_eq_ok.mp h
  obtain ⟨a, hverified, h⟩ := bind_eq_ok.mp h
  obtain ⟨c, hdecode, h⟩ := bind_eq_ok.mp h
  cases h
  exact ⟨hlength, hcount, hverified, hdecode⟩

/-- What the checks establish about a commitment that passes them. -/
structure Prepared (node : DKGNode F E) (expectedCoeffCount : ℕ) (isRefresh : Bool)
    (fromNodeId : ℕ) (commitment : PolynomialCommitment E) : Prop where
  length : commitment.coefficients.length = expectedCoeffCount
  bounded : expectedCoeffCount ≤ maxCommitmentCoefficients
  zeroConstant : isRefresh → ∃ rest, commitment.coefficients = 0 :: rest
  accepted : node.AcceptsCommitment fromNodeId commitment

theorem prepared_of_eq_ok {node : DKGNode F E} {expectedCoeffCount fromNodeId : ℕ}
    {isRefresh : Bool} {bytes : Bytes} {commitment : PolynomialCommitment E}
    (h : prepareCommitmentMessage node expectedCoeffCount isRefresh fromNodeId bytes =
      .ok commitment) :
    Prepared node expectedCoeffCount isRefresh fromNodeId commitment := by
  unfold prepareCommitmentMessage at h
  obtain ⟨result, hresult, h⟩ := bind_eq_ok.mp h
  cases h
  obtain ⟨hlength, hcount, -, hdecode⟩ := prepareCommitmentWith_eq_ok hresult
  obtain ⟨hread, hzero, haccepts⟩ := of_decodeCommitment hdecode
  have hcount := eq_of_checkCoefficientCount hcount
  exact ⟨(readPoints_length hread).trans hcount,
    hcount ▸ (length_of_checkCommitmentLength hlength).2, fun hrefresh =>
      PolynomialCommitment.constantTermIsIdentity_iff.mp (hzero hrefresh), haccepts⟩

end Orbis.Node.Dkg
