import Orbis.Algebra.PowerSum
import Orbis.Crypto.Curve

/-!
# Public polynomials and polynomial commitments

The types shared by key generation, signing and re-encryption, and the evaluation loop they
use.  Evaluation is the coefficient sum `powerSum` at the identifier's scalar.
-/

namespace Orbis.Crypto

open Orbis.Algebra

structure PriShare (F : Type) where
  i : ℕ
  v : F
deriving DecidableEq, Repr

structure PubShare (P : Type) where
  i : ℕ
  v : P
deriving DecidableEq, Repr

structure DistributedShare (F : Type) where
  fromId : ℕ
  toId : ℕ
  value : F
  nonce : List UInt8
  sessionId : ℕ
deriving DecidableEq

structure PubPoly (E : Type) where
  commits : List E
deriving DecidableEq

structure PolynomialCommitment (E : Type) where
  coefficients : List E
deriving DecidableEq, Inhabited

variable {F E A : Type} [Field F] [AddCommGroup A] [Module F A] [AddCommGroup E] [Module F E]

/-- `eval_poly_at`: the result starts at the first coefficient and the power at `x`.  The
callers return the identity themselves when there is no coefficient. -/
def evalPolyAt (coeffs : List A) (x : F) : A :=
  match coeffs with
  | [] => 0
  | coeff :: coeffs =>
    (coeffs.foldl (fun s c => (s.1 + s.2 • c, s.2 * x)) (coeff, x)).1

theorem evalPolyAt_eq_powerSum (coeffs : List A) (x : F) :
    evalPolyAt coeffs x = powerSum coeffs x := by
  cases coeffs with
  | nil => rfl
  | cons coeff coeffs => exact foldl_powerSum coeffs x x coeff

namespace PubPoly

variable (F) in
def eval (poly : PubPoly E) (i : ℕ) : E :=
  if poly.commits.isEmpty then 0 else evalPolyAt poly.commits (i : F)

theorem eval_eq_powerSum (poly : PubPoly E) (i : ℕ) :
    poly.eval F i = powerSum poly.commits (i : F) := by
  unfold eval
  split
  · next h => simp [List.isEmpty_iff.mp h]
  · exact evalPolyAt_eq_powerSum _ _

end PubPoly

namespace PolynomialCommitment

variable (F) in
def eval (commitment : PolynomialCommitment E) (x : ℕ) : E :=
  if commitment.coefficients.isEmpty then 0 else evalPolyAt commitment.coefficients (x : F)

theorem eval_eq_powerSum (commitment : PolynomialCommitment E) (x : ℕ) :
    commitment.eval F x = powerSum commitment.coefficients (x : F) := by
  unfold eval
  split
  · next h => simp [List.isEmpty_iff.mp h]
  · exact evalPolyAt_eq_powerSum _ _

/-- `coefficients[0]`; stored commitments are never empty. -/
def constantTerm (commitment : PolynomialCommitment E) : E := commitment.coefficients.headD 0

theorem constantTerm_eq_powerSum (commitment : PolynomialCommitment E) :
    commitment.constantTerm = powerSum commitment.coefficients (0 : F) :=
  (powerSum_zero_right _).symm

variable [DecidableEq E]

/-- A refresh polynomial must commit to the constant term zero. -/
def constantTermIsIdentity (commitment : PolynomialCommitment E) : Bool :=
  commitment.coefficients.head?.any (· = 0)

theorem constantTermIsIdentity_iff {commitment : PolynomialCommitment E} :
    commitment.constantTermIsIdentity = true ↔
      ∃ rest, commitment.coefficients = 0 :: rest := by
  unfold constantTermIsIdentity
  cases commitment.coefficients <;> simp

variable [Curve E]

/-- The committed value at the share's index is compared with the share times the generator. -/
def verifyShare (commitment : PolynomialCommitment E) (shareId : ℕ) (shareValue : F) : Bool :=
  commitment.eval F shareId = shareValue • (generator : E)

theorem verifyShare_iff {commitment : PolynomialCommitment E} {shareId : ℕ} {shareValue : F} :
    commitment.verifyShare shareId shareValue = true ↔
      powerSum commitment.coefficients (shareId : F) = shareValue • (generator : E) := by
  rw [verifyShare, decide_eq_true_iff, eval_eq_powerSum]

end PolynomialCommitment

/-- The commitment to a coefficient list: every coefficient times the generator. -/
def commit [Curve E] (coeffs : List F) : PolynomialCommitment E :=
  ⟨coeffs.map (· • (generator : E))⟩

theorem commit_ne_nil [Curve E] {coeffs : List F} (h : coeffs ≠ []) :
    (commit (E := E) coeffs).coefficients ≠ [] := fun hnil => h (List.map_eq_nil_iff.mp hnil)

theorem powerSum_commit [Curve E] (coeffs : List F) (x : F) :
    powerSum (commit (E := E) coeffs).coefficients x = powerSum coeffs x • (generator : E) :=
  powerSum_map_smul_right coeffs generator x

end Orbis.Crypto
