import Orbis.Crypto.Common
import Orbis.Data.Bytes
import Orbis.Data.Fold

/-!
# Encodings and hashes

Scalars and group elements have canonical 32-byte encodings, given by the curve crate.  Shares
and public polynomials are built from them with little-endian integers.  The hashes are
arbitrary functions of the hashed bytes.
-/

namespace Orbis.Crypto

open Orbis.Algebra Orbis.Data

/-- The curve crate's encoding of a scalar or a group element. -/
class Repr32 (A : Type) where
  toRepr : A → Bytes
  ofRepr : Bytes → Option A

/-- Encodings have 32 bytes and are canonical: decoding accepts exactly the encodings. -/
class LawfulRepr32 (A : Type) [Repr32 A] : Prop where
  length_toRepr : ∀ a : A, (Repr32.toRepr a).length = 32
  ofRepr_toRepr : ∀ a : A, Repr32.ofRepr (Repr32.toRepr a) = some a
  toRepr_of_ofRepr : ∀ (bytes : Bytes) (a : A), Repr32.ofRepr bytes = some a →
    Repr32.toRepr a = bytes

export Repr32 (toRepr ofRepr)

/-- `from_bytes` of both types: exactly 32 bytes that the crate's decoder accepts. -/
def decode32 {A : Type} [Repr32 A] (lengthError invalidError : String) (bytes : Bytes) :
    Except CryptoError A :=
  if bytes.length ≠ 32 then .error (.parseError lengthError)
  else
    match ofRepr bytes with
    | some a => .ok a
    | none => .error (.parseError invalidError)

def Fr.fromBytes {F : Type} [Repr32 F] : Bytes → Except CryptoError F :=
  decode32 "Jubjub scalar encoding must contain exactly 32 bytes"
    "Non-canonical Jubjub scalar encoding"

def Element.fromBytes {E : Type} [Repr32 E] : Bytes → Except CryptoError E :=
  decode32 "Jubjub point encoding must contain exactly 32 bytes"
    "Invalid prime-order Jubjub point encoding"

theorem decode32_toRepr {A : Type} [Repr32 A] [LawfulRepr32 A] (lengthError invalidError : String)
    (a : A) : decode32 lengthError invalidError (toRepr a) = .ok a := by
  simp [decode32, LawfulRepr32.length_toRepr, LawfulRepr32.ofRepr_toRepr]

theorem Fr.fromBytes_toRepr {F : Type} [Repr32 F] [LawfulRepr32 F] (s : F) :
    Fr.fromBytes (toRepr s) = .ok s := decode32_toRepr _ _ s

theorem Element.fromBytes_toRepr {E : Type} [Repr32 E] [LawfulRepr32 E] (p : E) :
    Element.fromBytes (toRepr p) = .ok p := decode32_toRepr _ _ p

theorem toRepr_injective {A : Type} [Repr32 A] [LawfulRepr32 A] :
    Function.Injective (toRepr : A → Bytes) := by
  intro a b h
  have hdecode : (ofRepr (toRepr a) : Option A) = ofRepr (toRepr b) := by rw [h]
  rw [LawfulRepr32.ofRepr_toRepr, LawfulRepr32.ofRepr_toRepr] at hdecode
  exact Option.some.inj hdecode

theorem ofRepr_of_decode32 {A : Type} [Repr32 A] {lengthError invalidError : String} {bytes : Bytes}
    {a : A} (h : decode32 lengthError invalidError bytes = .ok a) : ofRepr bytes = some a := by
  unfold decode32 at h
  split at h
  · cases h
  split at h
  · next heq =>
      cases h
      exact heq
  · cases h

theorem toRepr_of_fromBytes {E : Type} [Repr32 E] [LawfulRepr32 E] {bytes : Bytes} {p : E}
    (h : Element.fromBytes bytes = .ok p) : toRepr p = bytes :=
  LawfulRepr32.toRepr_of_ofRepr bytes p (ofRepr_of_decode32 h)

/-! ## Parts of proofs

The errors name the part. -/

/-- A group element other than the identity. -/
def decodeGroupElement {E : Type} [AddCommGroup E] [DecidableEq E] [Repr32 E] (name : String)
    (bytes : Bytes) : Except CryptoError E :=
  let length := bytes.length
  if length ≠ 32 then
    .error (.elGamalError s!"Invalid {name} length: expected 32, got {length}")
  else do
    let point ← (Element.fromBytes bytes).mapError fun e =>
      .elGamalError ("failed to decompress " ++ name ++ ": " ++ e.debug)
    if point = 0 then
      .error (.elGamalError s!"Invalid {name}: cannot be the identity element")
    else pure point

def decodeProofScalar {F : Type} [Repr32 F] (name : String) (bytes : Bytes) :
    Except CryptoError F :=
  let length := bytes.length
  if length ≠ 32 then
    .error (.elGamalError s!"Invalid {name} length: expected 32, got {length}")
  else
    (Fr.fromBytes bytes).mapError fun e =>
      .elGamalError ("Failed to deserialize " ++ name ++ ": " ++ e.debug)

theorem decodeGroupElement_toRepr {E : Type} [AddCommGroup E] [DecidableEq E] [Repr32 E]
    [LawfulRepr32 E] (name : String) {point : E} (h : point ≠ 0) :
    decodeGroupElement name (toRepr point) = .ok point := by
  unfold decodeGroupElement
  simp only [LawfulRepr32.length_toRepr, ne_eq, not_true_eq_false, if_false,
    Element.fromBytes_toRepr, mapError_ok, ok_bind, h]
  rfl

theorem decodeGroupElement_eq_ok {E : Type} [AddCommGroup E] [DecidableEq E] [Repr32 E]
    {name : String} {bytes : Bytes} {point : E} (h : decodeGroupElement name bytes = .ok point) :
    Element.fromBytes bytes = .ok point ∧ point ≠ 0 := by
  unfold decodeGroupElement at h
  simp only at h
  split at h
  · cases h
  · obtain ⟨p, hp, h⟩ := bind_eq_ok.mp h
    split at h
    · cases h
    · next hne =>
        cases h
        exact ⟨mapError_eq_ok.mp hp, hne⟩

theorem decodeProofScalar_toRepr {F : Type} [Repr32 F] [LawfulRepr32 F] (name : String) (x : F) :
    decodeProofScalar name (toRepr x) = .ok x := by
  unfold decodeProofScalar
  simp only [LawfulRepr32.length_toRepr, ne_eq, not_true_eq_false, if_false,
    Fr.fromBytes_toRepr, mapError_ok]

/-! The scalars modulo seven take one byte, filled up with zeros. -/

namespace F7

def bytes (x : F7) : Bytes := UInt8.ofNat (ZMod.val (n := 7) x) :: List.replicate 31 0

instance : Repr32 F7 where
  toRepr := bytes
  ofRepr repr := ((List.range 7).map (Nat.cast : ℕ → F7)).find? fun x => bytes x = repr

instance : LawfulRepr32 F7 where
  length_toRepr := by decide
  ofRepr_toRepr := by decide
  toRepr_of_ofRepr := by
    intro repr x h
    have hfound := List.find?_some h
    exact of_decide_eq_true hfound

end F7

/-! ## Hashes -/

/-- SHA-512 followed by reduction modulo the group order. -/
class ScalarHash (F : Type) where
  hashToScalar : Bytes → F

export ScalarHash (hashToScalar)

/-- BLAKE2b-512 followed by reduction modulo the group order. -/
class Blake2bScalarHash (F : Type) where
  blake2bToScalar : Bytes → F

export Blake2bScalarHash (blake2bToScalar)

/-- On the group of order seven: the sum of the bytes. -/
instance : ScalarHash F7 := ⟨fun bytes => (((bytes.map UInt8.toNat).sum : ℕ) : F7)⟩

instance : Blake2bScalarHash F7 := ⟨hashToScalar⟩

class Sha256 where
  sha256 : Bytes → Bytes

export Sha256 (sha256)

class LawfulSha256 [Sha256] : Prop where
  length_sha256 : ∀ bytes : Bytes, (sha256 bytes).length = 32

/-- A digest to evaluate with: the sum of the bytes. -/
@[reducible] def Sha256.byteSum : Sha256 :=
  ⟨fun bytes => List.replicate 31 0 ++ [UInt8.ofNat (bytes.map UInt8.toNat).sum]⟩

namespace ByteSum

scoped instance : Sha256 := .byteSum

scoped instance : LawfulSha256 := ⟨fun _ => rfl⟩

end ByteSum

/-! ## Shares -/

namespace PriShare

variable {F : Type} [Repr32 F]

def toBytes (share : PriShare F) : Bytes := leBytes 4 share.i ++ toRepr share.v

def fromBytes (bytes : Bytes) : Except CryptoError (PriShare F) :=
  if bytes.length < 4 then .error (.dkgError "PriShare bytes too short")
  else do
    let v ← Fr.fromBytes (bytes.drop 4)
    pure ⟨leValue (bytes.take 4), v⟩

theorem fromBytes_toBytes [LawfulRepr32 F] {share : PriShare F} (h : share.i < 2 ^ 32) :
    fromBytes share.toBytes = .ok share := by
  have hlen : ¬(leBytes 4 share.i ++ toRepr share.v).length < 4 := by
    rw [List.length_append, length_leBytes]
    omega
  have htake : (leBytes 4 share.i ++ toRepr share.v).take 4 = leBytes 4 share.i := by
    rw [List.take_left' (length_leBytes 4 share.i)]
  have hdrop : (leBytes 4 share.i ++ toRepr share.v).drop 4 = toRepr share.v := by
    rw [List.drop_left' (length_leBytes 4 share.i)]
  have hvalue : leValue (leBytes 4 share.i) = share.i := leValue_leBytes (by omega)
  rw [fromBytes, toBytes, if_neg hlen, htake, hdrop, Fr.fromBytes_toRepr, hvalue]
  rfl

theorem length_toBytes [LawfulRepr32 F] (share : PriShare F) : share.toBytes.length = 36 := by
  rw [toBytes, List.length_append, length_leBytes, LawfulRepr32.length_toRepr]

end PriShare

/-! ## Public polynomials -/

section

variable {E : Type} [Repr32 E]

/-- Decode `count` consecutive 32-byte slices, the first of which is the `i`-th; `fail` makes
the caller's error for a slice. -/
def readPoints {ε : Type} (fail : ℕ → CryptoError → ε) : ℕ → ℕ → Bytes → Except ε (List E)
  | _, 0, _ => .ok []
  | i, count + 1, bytes => do
      let point ← (Element.fromBytes (bytes.take 32)).mapError (fail i)
      let points ← readPoints fail (i + 1) count (bytes.drop 32)
      pure (point :: points)

def pointsBytes (points : List E) : Bytes := points.flatMap toRepr

variable {points : List E}

theorem readPoints_length {ε : Type} {fail : ℕ → CryptoError → ε} {i count : ℕ} {bytes : Bytes}
    (h : readPoints fail i count bytes = .ok points) : points.length = count := by
  induction count generalizing i bytes points with
  | zero =>
    cases h
    rfl
  | succ count ih =>
    obtain ⟨point, -, h⟩ := bind_eq_ok.mp h
    obtain ⟨rest, hrest, h⟩ := bind_eq_ok.mp h
    cases h
    rw [List.length_cons, ih hrest]

theorem readPoints_pointsBytes [LawfulRepr32 E] {ε : Type} (fail : ℕ → CryptoError → ε) (i : ℕ)
    (points : List E) : readPoints fail i points.length (pointsBytes points) = .ok points := by
  induction points generalizing i with
  | nil => rfl
  | cons point points ih =>
    have hlen : (toRepr point).length = 32 := LawfulRepr32.length_toRepr point
    have htake : (toRepr point ++ pointsBytes points).take 32 = toRepr point := by
      rw [List.take_left' hlen]
    have hdrop : (toRepr point ++ pointsBytes points).drop 32 = pointsBytes points := by
      rw [List.drop_left' hlen]
    change readPoints fail i (points.length + 1) (toRepr point ++ pointsBytes points) = _
    rw [readPoints, htake, hdrop, Element.fromBytes_toRepr, ih]
    rfl

/-- Only one encoding is read as a list of points. -/
theorem pointsBytes_of_readPoints [LawfulRepr32 E] {ε : Type} {fail : ℕ → CryptoError → ε}
    {i count : ℕ} {bytes : Bytes} (h : readPoints fail i count bytes = .ok points)
    (hlen : bytes.length = 32 * count) : pointsBytes points = bytes := by
  induction count generalizing i bytes points with
  | zero =>
    cases h
    exact (List.eq_nil_of_length_eq_zero hlen).symm
  | succ count ih =>
    rw [readPoints] at h
    obtain ⟨point, hpoint, h⟩ := bind_eq_ok.mp h
    obtain ⟨rest, hrest, h⟩ := bind_eq_ok.mp h
    cases h
    have htail : (bytes.drop 32).length = 32 * count := by
      rw [List.length_drop]
      omega
    have hhead : toRepr point = bytes.take 32 := toRepr_of_fromBytes (mapError_eq_ok.mp hpoint)
    change toRepr point ++ pointsBytes rest = bytes
    rw [ih hrest htail, hhead, List.take_append_drop]

theorem length_pointsBytes [LawfulRepr32 E] (points : List E) :
    (pointsBytes points).length = 32 * points.length := by
  induction points with
  | nil => rfl
  | cons point points ih =>
    change (toRepr point ++ pointsBytes points).length = _
    rw [List.length_append, ih, LawfulRepr32.length_toRepr, List.length_cons]
    omega

/-- The points after their number. -/
def countedBytes (points : List E) : Bytes :=
  leBytes 4 (asU32 points.length) ++ pointsBytes points

/-- The errors name what is decoded.  The expected length cannot overflow a 64-bit `usize`: the
count has 32 bits. -/
def readCounted (name : String) (bytes : Bytes) : Except CryptoError (List E) :=
  let count := leValue (bytes.take 4)
  let expectedLen := count * 32 + 4
  let got := bytes.length
  if bytes.length < 4 then .error (.dkgError s!"{name} bytes too short")
  else if bytes.length < expectedLen then
    .error (.dkgError s!"{name} bytes too short: expected {expectedLen}, got {got}")
  else if bytes.length ≠ expectedLen then
    .error (.dkgError s!"{name} bytes length mismatch: expected {expectedLen}, got {got}")
  else readPoints (fun _ e => e) 0 count (bytes.drop 4)

theorem length_countedBytes [LawfulRepr32 E] (points : List E) :
    (countedBytes points).length = 32 * points.length + 4 := by
  rw [countedBytes, List.length_append, length_leBytes, length_pointsBytes]
  omega

theorem leValue_take_countedBytes (h : points.length < 2 ^ 32) :
    leValue ((countedBytes points).take 4) = points.length := by
  rw [countedBytes, List.take_left' (length_leBytes 4 _), asU32_of_lt h]
  exact leValue_leBytes (by omega)

theorem readCounted_countedBytes [LawfulRepr32 E] (name : String) (h : points.length < 2 ^ 32) :
    readCounted name (countedBytes points) = .ok points := by
  have hlen := length_countedBytes points
  have hdrop : (countedBytes points).drop 4 = pointsBytes points := by
    rw [countedBytes, List.drop_left' (length_leBytes 4 _)]
  have hmin : ¬(countedBytes points).length < 4 := by omega
  have hshort : ¬(countedBytes points).length < points.length * 32 + 4 := by omega
  have hexact : ¬(countedBytes points).length ≠ points.length * 32 + 4 := by omega
  simp only [readCounted, leValue_take_countedBytes h, if_neg hmin, if_neg hshort, if_neg hexact,
    hdrop, readPoints_pointsBytes]

theorem length_of_readCounted {name : String} {bytes : Bytes}
    (h : readCounted name bytes = .ok points) : points.length = leValue (bytes.take 4) := by
  unfold readCounted at h
  simp only at h
  split at h
  · cases h
  split at h
  · cases h
  split at h
  · cases h
  exact readPoints_length h

namespace PolynomialCommitment

def fromBytes (bytes : Bytes) : Except CryptoError (PolynomialCommitment E) := do
  let coefficients ← readCounted "PolynomialCommitment" bytes
  pure ⟨coefficients⟩

end PolynomialCommitment

namespace PubPoly

def toBytes (poly : PubPoly E) : Bytes := countedBytes poly.commits

def fromBytes (bytes : Bytes) : Except CryptoError (PubPoly E) := do
  let commits ← readCounted "PubPoly" bytes
  pure ⟨commits⟩

theorem length_toBytes [LawfulRepr32 E] (poly : PubPoly E) :
    poly.toBytes.length = 32 * poly.commits.length + 4 :=
  length_countedBytes poly.commits

theorem fromBytes_toBytes [LawfulRepr32 E] {poly : PubPoly E} (h : poly.commits.length < 2 ^ 32) :
    fromBytes poly.toBytes = .ok poly := by
  rw [fromBytes, toBytes, readCounted_countedBytes _ h, ok_bind]
  rfl

/-- `combine_pub_poly_bytes`. -/
def combineBytes [AddCommGroup E] (a b : Bytes) : Except CryptoError Bytes := do
  let polyA : PubPoly E ← fromBytes a
  let polyB : PubPoly E ← fromBytes b
  let lengthA := polyA.commits.length
  let lengthB := polyB.commits.length
  if polyA.commits.length ≠ polyB.commits.length then
    .error (.dkgError s!"combine_pub_poly_bytes: length mismatch ({lengthA} vs {lengthB})")
  else
    pure (toBytes (⟨List.zipWith (· + ·) polyA.commits polyB.commits⟩ : PubPoly E))

theorem combineBytes_of_ok [AddCommGroup E] {a b : Bytes} {polyA polyB : PubPoly E}
    (ha : fromBytes a = .ok polyA) (hb : fromBytes b = .ok polyB)
    (hlen : polyA.commits.length = polyB.commits.length) :
    combineBytes (E := E) a b =
      .ok (toBytes (⟨List.zipWith (· + ·) polyA.commits polyB.commits⟩ : PubPoly E)) := by
  have hne : ¬polyA.commits.length ≠ polyB.commits.length := not_not.mpr hlen
  simp only [combineBytes, ha, hb, ok_bind, if_neg hne]
  rfl

end PubPoly

end

end Orbis.Crypto
