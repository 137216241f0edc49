import Mathlib.Algebra.Field.ZMod
import Mathlib.Algebra.Module.Torsion.Field

/-!
# The group and its scalars

The curve arithmetic is a third-party crate.  All the cryptography of this development is
stated over a prime-order group `E` written additively, its scalar field `F`, and a generator.
Scalars made from integers (`Fr::from`) are casts, so two identifiers give the same scalar
exactly when they agree modulo the group order.
-/

namespace Orbis.Crypto

inductive CryptoError where
  | dkgError (message : String)
  | elGamalError (message : String)
  | serializationError
  | invalidSignatureShare
  | invalidSignature
  | signingError (message : String)
  | parseError (message : String)
  | commitmentMissing (id : ℕ)
deriving DecidableEq, Repr

/-- The text of an error; the serializer's own reason is left out. -/
def CryptoError.message : CryptoError → String
  | dkgError message => s!"Dkg error: {message}"
  | elGamalError message => s!"ElGamal error: {message}"
  | serializationError => "Serialization error"
  | invalidSignatureShare => "Invalid Signature Share"
  | invalidSignature => "Invalid Signature"
  | signingError message => s!"Signing error: {message}"
  | parseError message => s!"Parsing Error: {message}"
  | commitmentMissing id => s!"Commitment missing for node {id}"

def CryptoError.debug : CryptoError → String
  | dkgError message => s!"DKGError(\"{message}\")"
  | elGamalError message => s!"ElGamalError(\"{message}\")"
  | serializationError => "SerializationError"
  | invalidSignatureShare => "InvalidSignatureShare"
  | invalidSignature => "InvalidSignature"
  | signingError message => s!"SigningError(\"{message}\")"
  | parseError message => s!"ParseError(\"{message}\")"
  | commitmentMissing id => s!"CommitmentMissing({id})"

/-- Truncation by an `as u32` cast. -/
def asU32 (n : ℕ) : ℕ := n % 2 ^ 32

theorem asU32_of_lt {n : ℕ} (h : n < 2 ^ 32) : asU32 n = n := Nat.mod_eq_of_lt h

class Curve (E : Type) where
  generator : E
  order : ℕ

export Curve (generator order)

/-- `E` is a group of prime order with scalar field `F`, and the generator is not the identity. -/
class PrimeOrder (F E : Type) [Field F] [AddCommGroup E] [Module F E] [Curve E] : Prop where
  prime_order : (order E).Prime
  charP : CharP F (order E)
  generator_ne_zero : (generator : E) ≠ 0

section

variable (F E : Type) [Field F] [AddCommGroup E] [Module F E] [Curve E] [PrimeOrder F E]

theorem natCast_injOn : Set.InjOn (Nat.cast : ℕ → F) {i | i < order E} := by
  have := PrimeOrder.charP (F := F) (E := E)
  exact CharP.natCast_injOn_Iio F (order E)

variable {F} in
theorem smul_generator_ne_zero {x : F} (hx : x ≠ 0) : x • (generator : E) ≠ 0 :=
  smul_ne_zero hx (PrimeOrder.generator_ne_zero F)

variable {F} in
theorem smul_generator_injective : Function.Injective fun x : F => x • (generator : E) :=
  smul_left_injective F (PrimeOrder.generator_ne_zero F)

end

/-- The verifier of a proof of knowledge recomputes the prover's commitment, over any base. -/
theorem response_sub_challenge {F E : Type} [Field F] [AddCommGroup E] [Module F E] (k c x : F)
    (base : E) : (k + c * x) • base - c • (x • base) = k • base := by
  rw [add_smul, mul_smul, add_sub_cancel_right]

/-- Responses to two challenges for one commitment give the scalar that links the point to the
base. -/
theorem eq_smul_of_same_commitment {F E : Type} [Field F] [AddCommGroup E] [Module F E]
    {z z' c c' : F} {base point : E} (hne : c ≠ c')
    (h : z • base - c • point = z' • base - c' • point) :
    point = ((c - c')⁻¹ * (z - z')) • base := by
  have hsub : (c - c') • point = (z - z') • base := by
    rw [sub_eq_sub_iff_add_eq_add] at h
    rw [sub_smul, sub_smul, sub_eq_sub_iff_add_eq_add, add_comm, ← h]
  rw [mul_smul, ← hsub, inv_smul_smul₀ (sub_ne_zero.mpr hne)]

/-- `Fr::inverse`. -/
def inverse {F : Type} [Field F] [DecidableEq F] (x : F) : Option F :=
  if x = 0 then none else some x⁻¹

/-! ## A group of order seven

A small instance on which every function of the development evaluates: the inverse is a power,
so it reduces by computation. -/

/-- The integers modulo seven. -/
def F7 : Type := ZMod 7

namespace F7

instance : CommRing F7 := inferInstanceAs (CommRing (ZMod 7))

/-- A numeral is the cast, without a proof that it is at least two. -/
instance (n : ℕ) : OfNat F7 (n + 2) := ⟨((n + 2 : ℕ) : F7)⟩

instance : DecidableEq F7 := inferInstanceAs (DecidableEq (ZMod 7))

instance : Fintype F7 := inferInstanceAs (Fintype (ZMod 7))

instance : Inv F7 := ⟨fun x => x * x * x * x * x⟩

instance : Field F7 where
  exists_pair_ne := ⟨0, 1, by decide⟩
  mul_inv_cancel := by decide
  inv_zero := by decide
  nnqsmul := _
  nnqsmul_def := fun _ _ => rfl
  qsmul := _
  qsmul_def := fun _ _ => rfl

instance : Curve F7 := ⟨1, 7⟩

instance : PrimeOrder F7 F7 where
  prime_order := by decide
  charP := inferInstanceAs (CharP (ZMod 7) 7)
  generator_ne_zero := by decide

end F7

end Orbis.Crypto
