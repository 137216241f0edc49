import Orbis.Node.Identity
import Orbis.Node.Pet.Evidence
import Orbis.Node.RingState

/-!
# Generations of the checking key

A refresh replaces the sharing of the checking key but not the key.  Every attempt is bound to
one public polynomial, which must have the ring's threshold and key and be the one that a node
stores.  What the hexadecimal decoder says about a bad text is left out.
-/

namespace Orbis.Node.Pet

open Orbis.Algebra Orbis.Crypto Orbis.Data

def maxPolynomialBytes : ℕ := 64 * 1024

def PetError.message : PetError → String
  | acp message => s!"ACP error: {message}"
  | mismatch => "PET check failed: tag does not match the audit target"
  | generationMismatch => "PET generation changed; retry with a fresh attempt"
  | serialization message => s!"Serialization error: {message}"
  | deserialization message => s!"Deserialization error: {message}"
  | crypto message => s!"Cryptographic operation error: {message}"
  | insufficientShares got need => s!"Insufficient PET check shares: got {got}, need {need}"
  | invalidInput message => s!"Invalid input: {message}"
  | invalidState message => s!"Invalid state: {message}"
  | protocolError message => s!"Protocol error: {message}"
  | storage message => s!"Local storage error: {message}"

def coefficientCount (bytes : Bytes) : Except PetError ℕ := do
  require (4 ≤ bytes.length) (.invalidInput "truncated PET polynomial")
  let count := leValue (bytes.take 4)
  require (count ≠ 0 ∧ bytes.length ≤ maxPolynomialBytes ∧ bytes.length = count * 32 + 4)
    (.invalidInput "invalid PET polynomial encoded length")
  pure count

variable {F E : Type} [Field F] [AddCommGroup E] [Module F E] [DecidableEq E] [Repr32 E]

variable (F) in
def decode (bytes : Bytes) (threshold : ℕ) (petPkHex : String) : Except PetError (PubPoly E) := do
  let count ← coefficientCount bytes
  require (count = threshold)
    (.invalidInput "PET polynomial degree does not match the ring threshold")
  let polynomial : PubPoly E ← (PubPoly.fromBytes bytes).mapError fun e =>
    .deserialization e.message
  require (polynomial.toBytes = bytes) (.invalidInput "noncanonical PET polynomial")
  let keyBytes ← okOr (hexDecode petPkHex) (.deserialization "")
  let key : E ← (Element.fromBytes keyBytes).mapError fun e => .deserialization e.message
  require (key ≠ 0 ∧ toRepr key = keyBytes ∧ polynomial.eval F 0 = key)
    (.invalidInput "PET polynomial has a different checking key")
  pure polynomial

variable (F) in
/-- A bad stored polynomial is told apart from one of another generation. -/
def matchBundle (bundle : RingShareBundle) (expected : Bytes) (threshold : ℕ) (petPk : String) :
    Except PetError (PubPoly E) := do
  require (threshold ≠ 0) (.invalidInput "zero PET threshold")
  let expectedCount ← coefficientCount expected
  let polynomial ← decode F expected expectedCount petPk
  let stored ← okOr (hexDecode bundle.publicPolynomial) (.storage "")
  let storedCount ← (coefficientCount stored).mapError fun e => .storage e.message
  let _ : PubPoly E ← (decode F stored storedCount petPk).mapError fun e => .storage e.message
  require (expectedCount = threshold ∧ stored = expected) .generationMismatch
  pure polynomial

variable (E) in
/-- The stored share belongs to the member and to the stored polynomial. -/
def memberShare [Curve E] [Repr32 F]
    (bundle : RingShareBundle) (nodeKey : String) (ring : RingPayload) :
    Except PetError (PriShare F) := do
  let share : PriShare F ← (PriShare.fromBytes bundle.shareBytes).mapError fun e =>
    .storage ("invalid PET share: " ++ e.message)
  require (determineSessionNodeId nodeKey ring.peerNodeKeys = some share.i) .generationMismatch
  let bytes ← okOr (hexDecode bundle.publicPolynomial) (.storage "")
  let _ ← (coefficientCount bytes).mapError fun e => .storage e.message
  let commitment : PolynomialCommitment E ← (PolynomialCommitment.fromBytes bytes).mapError
    fun e => .storage e.message
  require (commitment.verifyShare share.i share.v)
    (.storage "PET share does not match its stored polynomial")
  pure share

/-! ## What is decoded -/

theorem coefficientCount_eq_ok {bytes : Bytes} {count : ℕ}
    (h : coefficientCount bytes = .ok count) :
    count = leValue (bytes.take 4) ∧ count ≠ 0 ∧ bytes.length ≤ maxPolynomialBytes := by
  obtain ⟨_, -, h⟩ := bind_eq_ok.mp h
  obtain ⟨_, hcheck, h⟩ := bind_eq_ok.mp h
  obtain ⟨hne, hmax, -⟩ := require_eq_ok.mp hcheck
  cases h
  exact ⟨rfl, hne, hmax⟩

variable {polynomial : PubPoly E}

/-- A decoded polynomial has the ring's threshold, and its constant coefficient is the key. -/
theorem decode_eq_ok {bytes : Bytes} {threshold : ℕ} {petPkHex : String}
    (h : decode F bytes threshold petPkHex = .ok polynomial) :
    threshold ≠ 0 ∧ PubPoly.fromBytes bytes = .ok polynomial ∧
      polynomial.commits.length = threshold ∧
      ∃ keyBytes key, hexDecode petPkHex = some keyBytes ∧ Element.fromBytes keyBytes = .ok key ∧
        powerSum polynomial.commits (0 : F) = key := by
  obtain ⟨count, hcount, h⟩ := bind_eq_ok.mp h
  obtain ⟨_, hthreshold, h⟩ := bind_eq_ok.mp h
  obtain ⟨poly, hpoly, h⟩ := bind_eq_ok.mp h
  obtain ⟨_, -, h⟩ := bind_eq_ok.mp h
  obtain ⟨keyBytes, hkeyBytes, h⟩ := bind_eq_ok.mp h
  obtain ⟨key, hkey, h⟩ := bind_eq_ok.mp h
  obtain ⟨_, hchecked, h⟩ := bind_eq_ok.mp h
  cases h
  obtain ⟨hvalue, hne, -⟩ := coefficientCount_eq_ok hcount
  have hthreshold := require_eq_ok.mp hthreshold
  have hread := mapError_eq_ok.mp hpoly
  obtain ⟨-, -, heval⟩ := require_eq_ok.mp hchecked
  rw [PubPoly.eval_eq_powerSum, Nat.cast_zero] at heval
  refine ⟨hthreshold ▸ hne, hread, ?_, keyBytes, key, okOr_eq_ok.mp hkeyBytes,
    mapError_eq_ok.mp hkey, heval⟩
  obtain ⟨commits, hcommits, hmk⟩ := bind_eq_ok.mp hread
  cases hmk
  rw [length_of_readCounted hcommits, ← hvalue, hthreshold]

variable {bundle : RingShareBundle}

theorem matchBundle_eq_ok {expected : Bytes} {threshold : ℕ} {petPk : String}
    (h : matchBundle F bundle expected threshold petPk = .ok polynomial) :
    decode F expected threshold petPk = .ok polynomial := by
  obtain ⟨_, -, h⟩ := bind_eq_ok.mp h
  obtain ⟨expectedCount, -, h⟩ := bind_eq_ok.mp h
  obtain ⟨poly, hdecode, h⟩ := bind_eq_ok.mp h
  obtain ⟨stored, -, h⟩ := bind_eq_ok.mp h
  obtain ⟨storedCount, -, h⟩ := bind_eq_ok.mp h
  obtain ⟨_, -, h⟩ := bind_eq_ok.mp h
  obtain ⟨_, hsame, h⟩ := bind_eq_ok.mp h
  cases h
  rw [← (require_eq_ok.mp hsame).1]
  exact hdecode

/-! ## A sharing of the checking key -/

variable [Curve E]

variable (E) in
def publicPolynomial (coeffs : List F) : PubPoly E := ⟨coeffs.map (· • (generator : E))⟩

omit [DecidableEq E] [Repr32 E] in
theorem eval_publicPolynomial (coeffs : List F) (i : ℕ) :
    (publicPolynomial E coeffs).eval F i = powerSum coeffs (i : F) • (generator : E) := by
  rw [PubPoly.eval_eq_powerSum, publicPolynomial, powerSum_map_smul_right]

variable [LawfulRepr32 E]

/-- More coefficients than this do not fit into an encoded polynomial. -/
def maxThreshold : ℕ := 2047

variable {coeffs : List F}

variable (hpos : 0 < coeffs.length) (hmax : coeffs.length ≤ maxThreshold)
include hpos hmax

omit [DecidableEq E] in
theorem coefficientCount_publicPolynomial :
    coefficientCount (publicPolynomial E coeffs).toBytes = .ok coeffs.length := by
  have hcommits : (publicPolynomial E coeffs).commits.length = coeffs.length := List.length_map _
  have hlen := PubPoly.length_toBytes (publicPolynomial E coeffs)
  have hcount : leValue ((publicPolynomial E coeffs).toBytes.take 4) = coeffs.length := by
    rw [← hcommits]
    apply leValue_take_countedBytes
    unfold maxThreshold at hmax
    omega
  rw [hcommits] at hlen
  unfold coefficientCount
  simp only [hcount]
  rw [require_bind (by omega), require_bind]
  · rfl
  · unfold maxThreshold at hmax
    unfold maxPolynomialBytes
    omega

theorem decode_publicPolynomial [PrimeOrder F E] (hkey : powerSum coeffs (0 : F) ≠ 0) :
    decode F (publicPolynomial E coeffs).toBytes coeffs.length
        (hexEncode (toRepr (powerSum coeffs (0 : F) • (generator : E)))) =
      .ok (publicPolynomial E coeffs) := by
  have hread : PubPoly.fromBytes (publicPolynomial E coeffs).toBytes =
      .ok (publicPolynomial E coeffs) := by
    apply PubPoly.fromBytes_toBytes
    unfold publicPolynomial maxThreshold at *
    rw [List.length_map]
    omega
  have heval : (publicPolynomial E coeffs).eval F 0 =
      powerSum coeffs (0 : F) • (generator : E) := by
    rw [eval_publicPolynomial, Nat.cast_zero]
  unfold decode
  rw [coefficientCount_publicPolynomial hpos hmax, ok_bind, require_bind rfl, hread, mapError_ok,
    ok_bind, require_bind rfl, hexDecode_hexEncode, okOr_some, ok_bind, Element.fromBytes_toRepr,
    mapError_ok, ok_bind, require_bind ⟨smul_generator_ne_zero E hkey, rfl, heval⟩]
  rfl

theorem matchBundle_publicPolynomial [PrimeOrder F E] (hkey : powerSum coeffs (0 : F) ≠ 0)
    (hbundle : bundle.publicPolynomial = hexEncode (publicPolynomial E coeffs).toBytes) :
    matchBundle F bundle (publicPolynomial E coeffs).toBytes coeffs.length
        (hexEncode (toRepr (powerSum coeffs (0 : F) • (generator : E)))) =
      .ok (publicPolynomial E coeffs) := by
  unfold matchBundle
  rw [require_bind hpos.ne', coefficientCount_publicPolynomial hpos hmax, ok_bind,
    decode_publicPolynomial hpos hmax hkey, ok_bind, hbundle, hexDecode_hexEncode, okOr_some,
    ok_bind, coefficientCount_publicPolynomial hpos hmax, mapError_ok, ok_bind,
    decode_publicPolynomial hpos hmax hkey, mapError_ok, ok_bind, require_bind ⟨rfl, rfl⟩]
  rfl

theorem memberShare_publicPolynomial [Repr32 F] [LawfulRepr32 F]
    (hbundle : bundle.publicPolynomial = hexEncode (publicPolynomial E coeffs).toBytes)
    {ring : RingPayload} {nodeKey : String} {nodeId : ℕ} (hring : ring.peerNodeKeys.length < 2 ^ 32)
    (hnode : nodeKeyForId nodeId ring.peerNodeKeys = some nodeKey)
    (hshare : bundle.shareBytes = (⟨nodeId, powerSum coeffs (nodeId : F)⟩ : PriShare F).toBytes) :
    memberShare E bundle nodeKey ring = .ok ⟨nodeId, powerSum coeffs (nodeId : F)⟩ := by
  have hid : nodeId < 2 ^ 32 := lt_of_le_of_lt (nodeKeyForId_range hnode).2 hring
  have hread : (PolynomialCommitment.fromBytes (publicPolynomial E coeffs).toBytes) =
      .ok (commit (E := E) coeffs) := by
    unfold PolynomialCommitment.fromBytes PubPoly.toBytes
    rw [readCounted_countedBytes, ok_bind]
    · rfl
    · unfold publicPolynomial maxThreshold at *
      rw [List.length_map]
      omega
  have hverify : (commit (E := E) coeffs).verifyShare nodeId (powerSum coeffs (nodeId : F)) =
      true := by
    rw [PolynomialCommitment.verifyShare_iff, powerSum_commit]
  have hsession := determineSessionNodeId_of_nodeKeyForId hring hnode
  unfold memberShare
  rw [hshare, PriShare.fromBytes_toBytes hid, mapError_ok, ok_bind, require_bind hsession, hbundle,
    hexDecode_hexEncode, okOr_some, ok_bind, coefficientCount_publicPolynomial hpos hmax,
    mapError_ok, ok_bind, hread, mapError_ok, ok_bind, require_bind hverify]
  rfl

end Orbis.Node.Pet
