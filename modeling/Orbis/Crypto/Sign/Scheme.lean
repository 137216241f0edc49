import Orbis.Algebra.Interpolation
import Orbis.Crypto.Codec

/-!
# Threshold signatures

Two-round Schnorr signatures over shares of the signing key.  The hash to scalars is an
arbitrary function of the transcript; the transcripts are the source's.
-/

namespace Orbis.Crypto

open Orbis.Algebra Orbis.Data

namespace Sign

structure SchnorrSignature (F E : Type) where
  rPoint : E
  z : F
deriving DecidableEq

structure FrostNonceCommitment (E : Type) where
  hidingPoint : E
  bindingPoint : E
deriving DecidableEq

structure FrostSigningState (F : Type) where
  hidingNonce : F
  bindingNonce : F
  participantIndex : ℕ

/-- The commitments of the signing participants, with their identifiers. -/
abbrev Commitments (E : Type) := List (ℕ × FrostNonceCommitment E)

variable {F E : Type} [Field F] [DecidableEq F] [AddCommGroup E] [Module F E] [DecidableEq E]
  [Curve E] [Repr32 F] [Repr32 E] [ScalarHash F]

def FrostNonceCommitment.toBytes (commitment : FrostNonceCommitment E) : Bytes :=
  toRepr commitment.hidingPoint ++ toRepr commitment.bindingPoint

def FrostNonceCommitment.fromBytes (bytes : Bytes) :
    Except CryptoError (FrostNonceCommitment E) :=
  if bytes.length ≠ 64 then .error .invalidSignatureShare
  else do
    let hidingPoint ← Element.fromBytes (bytes.take 32)
    let bindingPoint ← Element.fromBytes (bytes.drop 32)
    pure ⟨hidingPoint, bindingPoint⟩

def FrostSigningState.toBytes (state : FrostSigningState F) : Bytes :=
  leBytes 4 state.participantIndex ++ toRepr state.hidingNonce ++ toRepr state.bindingNonce

def FrostSigningState.fromBytes (bytes : Bytes) : Except CryptoError (FrostSigningState F) :=
  if bytes.length ≠ 68 then .error .invalidSignatureShare
  else do
    let hidingNonce ← Fr.fromBytes ((bytes.drop 4).take 32)
    let bindingNonce ← Fr.fromBytes (bytes.drop 36)
    pure ⟨hidingNonce, bindingNonce, leValue (bytes.take 4)⟩

/-! ## Transcripts -/

/-- The binding factor's transcript covers the group key, the message and all commitments. -/
def bindingTranscript (participantId : ℕ) (groupPublicKey : E) (msg : Bytes)
    (allCommitments : Commitments E) : Bytes :=
  utf8Bytes "FROST-jubjub-binding" ++ leBytes 4 participantId ++ toRepr groupPublicKey ++
    leBytes 8 msg.length ++ msg ++ leBytes 4 (asU32 allCommitments.length) ++
    allCommitments.flatMap fun c => leBytes 4 c.1 ++ c.2.toBytes

def computeBindingFactor (participantId : ℕ) (groupPublicKey : E) (msg : Bytes)
    (allCommitments : Commitments E) : Except CryptoError F :=
  if groupPublicKey = 0 then .error .invalidSignature
  else .ok (hashToScalar (bindingTranscript participantId groupPublicKey msg allCommitments))

/-- Sorted by participant. -/
def canonical (allCommitments : Commitments E) : Commitments E :=
  allCommitments.insertionSort fun a b => a.1 ≤ b.1

/-- One participant's term of the group commitment, and its binding factor. -/
def commitmentTerm (groupPublicKey : E) (msg : Bytes) (allCommitments : Commitments E)
    (c : ℕ × FrostNonceCommitment E) : Except CryptoError (E × (ℕ × F)) := do
  let rho ← computeBindingFactor c.1 groupPublicKey msg allCommitments
  pure (c.2.hidingPoint + rho • c.2.bindingPoint, (c.1, rho))

/-- The group commitment and all binding factors. -/
def computeGroupCommitment (allCommitments : Commitments E) (groupPublicKey : E) (msg : Bytes) :
    Except CryptoError (E × List (ℕ × F)) :=
  let sorted := canonical allCommitments
  if ¬(sorted.map (·.1)).IsChain (· ≠ ·) then .error .invalidSignatureShare
  else
    sorted.foldlM (fun acc c => do
      let term ← commitmentTerm groupPublicKey msg sorted c
      pure (acc.1 + term.1, acc.2 ++ [term.2])) (0, [])

def computeChallenge (rPoint aggregatePk : E) (msg : Bytes) : F :=
  hashToScalar (utf8Bytes "FROST-jubjub-challenge" ++ toRepr rPoint ++ toRepr aggregatePk ++ msg)

variable (F) in
def lagrangeCoefficient (idx : ℕ) (participantIds : List ℕ) : Except CryptoError F :=
  let numDen := ratioLoop (fun j : ℕ => (j : F)) (fun j => (j : F) - idx) idx participantIds
  match inverse numDen.2 with
  | none => .error .invalidSignatureShare
  | some denInv => .ok (numDen.1 * denInv)

/-! ## Derived keys -/

/-- A presence byte separates absent from empty metadata. -/
def deriveSignScalar (derivation : Bytes) (metadata : Option Bytes) : F :=
  hashToScalar (utf8Bytes "sign-jubjub-derivation-v1" ++ leBytes 8 derivation.length ++
    derivation ++ match metadata with
    | none => [0]
    | some metadata => 1 :: leBytes 8 metadata.length ++ metadata)

def derivePublicKey (dkgPk : E) (derivation : Bytes) (metadata : Option Bytes) :
    Except CryptoError E :=
  let d : F := deriveSignScalar derivation metadata
  if dkgPk = 0 then .error .invalidSignature
  else if d = 0 then .error (.signingError "Zero derivation scalar")
  else if d • dkgPk = 0 then .error .invalidSignature
  else .ok (d • dkgPk)

variable (F) in
/-- A point of the root key, moved to the derived key. -/
def effective (derivation metadata : Option Bytes) (point : E) : E :=
  match derivation with
  | some derivation => (deriveSignScalar derivation metadata : F) • point
  | none => point

variable (F) in
/-- The group key that the signature is checked under. -/
def effectiveKey (pubPoly : PubPoly E) (derivation metadata : Option Bytes) : E :=
  effective F derivation metadata (pubPoly.eval F 0)

/-! ## Signing -/

/-- The two nonces are hedged draws from the system's generator, any scalars here. -/
def generateNonces (share : PriShare F) (d e : F) :
    FrostNonceCommitment E × FrostSigningState F :=
  (⟨d • generator, e • generator⟩, ⟨d, e, share.i⟩)

def bindingFactorOf (bindingFactors : List (ℕ × F)) (idx : ℕ) : Except CryptoError F :=
  match bindingFactors.find? (·.1 = idx) with
  | some factor => .ok factor.2
  | none => .error .invalidSignatureShare

def commitmentOf (allCommitments : Commitments E) (idx : ℕ) :
    Except CryptoError (FrostNonceCommitment E) :=
  match allCommitments.find? (·.1 = idx) with
  | some c => .ok c.2
  | none => .error .invalidSignatureShare

def zeroDerivation (derivation metadata : Option Bytes) : Bool :=
  derivation.any fun derivation => (deriveSignScalar derivation metadata : F) = 0

def sign (share : PriShare F) (msg : Bytes) (pubPoly : PubPoly E)
    (signingState : Option (FrostSigningState F)) (allCommitments : Commitments E)
    (derivation metadata : Option Bytes) : Except CryptoError (PubShare F) :=
  match signingState with
  | none => .error .invalidSignatureShare
  | some signingState =>
    let idx := share.i
    if idx ≠ signingState.participantIndex then .error .invalidSignatureShare
    else do
      let ourCommitment ← commitmentOf allCommitments idx
      if ourCommitment.hidingPoint ≠ signingState.hidingNonce • (generator : E) ∨
          ourCommitment.bindingPoint ≠ signingState.bindingNonce • (generator : E) then
        .error (.signingError
          "Commitment mismatch: coordinator may have tampered with our nonce commitment")
      else if zeroDerivation (F := F) derivation metadata then
        .error (.signingError "Zero derivation scalar")
      else
        let effectivePk := effectiveKey F pubPoly derivation metadata
        if effectivePk = 0 then .error .invalidSignature
        else do
          let group ← computeGroupCommitment allCommitments effectivePk msg
          let rho ← bindingFactorOf group.2 idx
          let c : F := computeChallenge group.1 effectivePk msg
          let lambda ← lagrangeCoefficient F idx (allCommitments.map (·.1))
          pure ⟨idx, signingState.hidingNonce + rho * signingState.bindingNonce +
            lambda * effective F derivation metadata share.v * c⟩

variable (F) in
/-- What a partial signature of participant `idx` must commit to. -/
def verificationPoint (msg : Bytes) (pubPoly : PubPoly E) (allCommitments : Commitments E)
    (derivation metadata : Option Bytes) (idx : ℕ) : Except CryptoError E := do
  let commitment ← commitmentOf allCommitments idx
  let effectivePk := effectiveKey F pubPoly derivation metadata
  if effectivePk = 0 then .error .invalidSignature
  else do
    let group ← computeGroupCommitment allCommitments effectivePk msg
    let rho : F ← bindingFactorOf group.2 idx
    let c : F := computeChallenge group.1 effectivePk msg
    let lambda ← lagrangeCoefficient F idx (allCommitments.map (·.1))
    pure (commitment.hidingPoint + rho • commitment.bindingPoint +
      (lambda * c) • effective F derivation metadata (pubPoly.eval F idx))

def verifyShare (msg : Bytes) (pubPoly : PubPoly E) (sigShare : PubShare F)
    (allCommitments : Commitments E) (derivation metadata : Option Bytes) :
    Except CryptoError Unit := do
  let rhs ← verificationPoint F msg pubPoly allCommitments derivation metadata sigShare.i
  if sigShare.v • (generator : E) ≠ rhs then .error .invalidSignatureShare else pure ()

/-- No share outside the participants and no share twice; returns the identifiers seen. -/
def checkShareIds (participantIds : List ℕ) :
    List ℕ → List (PubShare F) → Except CryptoError (List ℕ)
  | seen, [] => .ok seen
  | seen, share :: shares =>
    if share.i ∉ participantIds then .error .invalidSignatureShare
    else if share.i ∈ seen then .error .invalidSignatureShare
    else checkShareIds participantIds (share.i :: seen) shares

def recover (shares : List (PubShare F)) (t : ℕ) (groupPublicKey : E) (msg : Bytes)
    (allCommitments : Commitments E) : Except CryptoError (Option (SchnorrSignature F E)) :=
  if t = 0 then .error .invalidSignature
  else if shares.length < t then .ok none
  else do
    let seen ← checkShareIds (allCommitments.map (·.1)) [] shares
    if seen.length < t then pure none
    else do
      let z := (shares.map (·.v)).foldl (· + ·) 0
      let group ← computeGroupCommitment (F := F) allCommitments groupPublicKey msg
      pure (some ⟨group.1, z⟩)

def verify (pk : E) (msg : Bytes) (sig : SchnorrSignature F E) : Except CryptoError Unit :=
  if pk = 0 then .error .invalidSignature
  else
    let c : F := computeChallenge sig.rPoint pk msg
    if sig.z • (generator : E) ≠ sig.rPoint + c • pk then .error .invalidSignature else .ok ()

end Sign

end Orbis.Crypto
