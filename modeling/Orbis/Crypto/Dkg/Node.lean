import Orbis.Algebra.Interpolation
import Orbis.Crypto.Common
import Orbis.Data.FiniteMap
import Orbis.Data.Fold
import Orbis.Data.SortDedup

/-!
# The key generation node

One participant of the distributed key generation, with the four roles it can have and the
three modes in which it deals.  A call that changes the node returns the new node together
with the result; a call that fails returns the node as the source leaves it.  Randomness is a
parameter: `rng k` is the `k`-th coefficient drawn.  The order in which the maps are traversed
is that of their entries; all sums over them are independent of it.
-/

namespace Orbis.Crypto.Dkg

open Orbis.Algebra Orbis.Data

/-- Only meaningful for resharing; fresh and refresh sessions use `standard`. -/
inductive DkgRole where
  | standard
  | dealer
  | receiver
  | dealerReceiver
deriving DecidableEq, Repr

/-- Whether the node deals to the committee it is itself in, so that nothing comes from its
own identifier. -/
def DkgRole.dealsToItself (role : DkgRole) : Bool :=
  role = .standard ∨ role = .dealerReceiver

inductive DkgMode (F : Type) where
  | fresh
  | refresh
  | reshare (oldShare : F) (participatingIds : List ℕ) (newThreshold newTotalNodes : ℕ)
      (newNodeId : Option ℕ)

structure DKGNode (F E : Type) where
  id : ℕ
  threshold : ℕ
  totalNodes : ℕ
  role : DkgRole
  effectiveTotalNodes : ℕ
  effectiveThreshold : ℕ
  effectiveReceiveId : Option ℕ
  polynomialCoeffs : List F
  commitment : PolynomialCommitment E
  receivedShares : AList fun _ : ℕ => F
  receivedCommitments : AList fun _ : ℕ => PolynomialCommitment E
  selectedReshareParticipants : Option (List ℕ)
  sessionId : ℕ
  complaints : AList fun _ : ℕ => List ℕ

/-! ## Participant sets and Lagrange weights -/

def canonicalizeParticipantIds (participantIds : List ℕ) (totalNodes : ℕ) :
    Except CryptoError (List ℕ) :=
  if participantIds.isEmpty then
    .error (.dkgError "Reshare participant set cannot be empty")
  else
    let ids := sortDedup participantIds
    if ids.length ≠ participantIds.length then
      .error (.dkgError "Reshare participant set contains duplicates")
    else
      match ids.find? fun id => id = 0 ∨ id > asU32 totalNodes with
      | some id =>
        .error (.dkgError
          s!"Invalid reshare participant id {id} (must be between 1 and {totalNodes})")
      | none => .ok ids

section

variable (F : Type) [Field F] [DecidableEq F]

/-- `∏ (0 - j) / (i - j)` over the participants `j ≠ i`. -/
def lagrangeAtZero (id : ℕ) (participatingIds : List ℕ) : Except CryptoError F :=
  let ids := sortDedup participatingIds
  if ids.length ≠ participatingIds.length then
    .error (.dkgError "participating_ids contains duplicates")
  else
    let numDen := ratioLoop (fun j : ℕ => -(j : F)) (fun j => (id : F) - j) id ids
    match inverse numDen.2 with
    | none =>
      .error (.dkgError
        "Lagrange denominator is zero — check participating_ids for duplicates")
    | some inv => .ok (numDen.1 * inv)

end

namespace DKGNode

variable {F E : Type} [Field F] [DecidableEq F] [AddCommGroup E] [Module F E] [DecidableEq E]
  [Curve E]

/-- A call that is refused: the node is unchanged. -/
def refuse (node : DKGNode F E) (message : String) : DKGNode F E × Except CryptoError Unit :=
  (node, .error (.dkgError message))

def blank (id threshold totalNodes sessionId : ℕ) (role : DkgRole) : DKGNode F E where
  id := id
  threshold := threshold
  totalNodes := totalNodes
  role := role
  effectiveTotalNodes := totalNodes
  effectiveThreshold := threshold
  effectiveReceiveId := none
  polynomialCoeffs := []
  commitment := ⟨[]⟩
  receivedShares := ∅
  receivedCommitments := ∅
  selectedReshareParticipants := none
  sessionId := sessionId
  complaints := ∅

instance : Inhabited (DKGNode F E) := ⟨blank 0 0 0 0 .standard⟩

/-- For receivers `totalNodes` is the size of the old committee, which the node's own
identifier and its threshold may exceed. -/
def new (id threshold totalNodes sessionId : ℕ) (role : DkgRole) :
    Except CryptoError (DKGNode F E) :=
  if id = 0 then
    .error (.dkgError "Invalid node id: 0")
  else if role ≠ .receiver ∧ id > asU32 totalNodes then
    .error (.dkgError s!"Invalid node id: {id} (must be between 1 and {totalNodes})")
  else if role ≠ .receiver ∧ threshold > totalNodes then
    .error (.dkgError "Threshold cannot exceed total nodes")
  else if threshold = 0 then
    .error (.dkgError "Threshold must be at least 1")
  else
    .ok (blank id threshold totalNodes sessionId role)

/-- The identifier under which shares are received and the secret share is computed. -/
def receiveId (node : DKGNode F E) : ℕ := node.effectiveReceiveId.getD node.id

/-! ## Dealing -/

/-- The end of `generate_polynomial`: draw the coefficients above the constant term and commit
to all of them. -/
def fillPolynomial (node : DKGNode F E) (constantTerm : F) (rng : ℕ → F) : DKGNode F E :=
  let coeffs := constantTerm :: (List.range' 1 (node.effectiveThreshold - 1)).map rng
  { node with polynomialCoeffs := coeffs, commitment := commit coeffs }

def generatePolynomial (node : DKGNode F E) (mode : DkgMode F) (rng : ℕ → F) :
    DKGNode F E × Except CryptoError Unit :=
  if node.role = .receiver then
    node.refuse "Receiver role cannot generate a polynomial"
  else
    match mode with
    | .fresh => (node.fillPolynomial (rng 0) rng, .ok ())
    | .refresh => (node.fillPolynomial 0 rng, .ok ())
    | .reshare oldShare participatingIds newThreshold newTotalNodes newNodeId =>
      let threshold := node.threshold
      let got := participatingIds.length
      if node.id ∉ participatingIds then
        node.refuse "Node not in participating_ids for resharing"
      else if participatingIds.length < node.threshold then
        node.refuse
          s!"Reshare requires at least {threshold} participants (threshold), got {got}"
      else if newThreshold = 0 ∨ newThreshold > newTotalNodes then
        node.refuse
          s!"Invalid new threshold {newThreshold} for new committee of size {newTotalNodes}"
      else
        -- The selected set and the receive identifier are overwritten here, also when
        -- they have been set before.
        ({ node with
            effectiveThreshold := newThreshold
            effectiveTotalNodes := newTotalNodes
            selectedReshareParticipants := some participatingIds
            effectiveReceiveId := newNodeId }.fillPolynomial oldShare rng, .ok ())

def evalPolynomial (node : DKGNode F E) (x : ℕ) : F :=
  if node.polynomialCoeffs.isEmpty then 0 else evalPolyAt node.polynomialCoeffs (x : F)

/-- One share for every member of the (new) committee; `nonce toId` are the bytes drawn. -/
def generateShares (node : DKGNode F E) (nonce : ℕ → List UInt8) :
    Except CryptoError (List (DistributedShare F)) :=
  if node.role = .receiver then
    .error (.dkgError "Receiver role cannot generate shares")
  else if node.polynomialCoeffs.isEmpty then
    .error (.dkgError "Must call generate_polynomial first")
  else
    .ok ((List.range' 1 (asU32 node.effectiveTotalNodes)).map fun toId =>
      { fromId := node.id
        toId
        value := node.evalPolynomial toId
        nonce := nonce toId
        sessionId := node.sessionId })

/-! ## Receiving -/

def selectReshareParticipants (node : DKGNode F E) (participantIds : List ℕ) :
    DKGNode F E × Except CryptoError Unit :=
  if node.role = .standard then
    node.refuse "select_reshare_participants is only valid for reshare roles"
  else
    match canonicalizeParticipantIds participantIds node.totalNodes with
    | .error e => (node, .error e)
    | .ok ids =>
      let dealers := ids.length
      let threshold := node.threshold
      if ids.length < node.threshold then
        node.refuse s!"Reshare participant set has {dealers} dealers, below threshold {threshold}"
      else
        ({ node with selectedReshareParticipants := some ids }, .ok ())

def receiveShare (node : DKGNode F E) (share : DistributedShare F) :
    DKGNode F E × Except CryptoError Unit :=
  let fromId := share.fromId
  let totalNodes := node.totalNodes
  if node.role = .dealer then
    node.refuse "Dealer role does not receive shares"
  else if share.fromId = 0 ∨ share.fromId > asU32 node.totalNodes then
    node.refuse s!"Invalid from_id: {fromId} (must be between 1 and {totalNodes})"
  else if node.role.dealsToItself ∧ share.fromId = node.id then
    node.refuse "Invalid from_id: cannot receive share from self"
  else if share.fromId ∈ node.receivedShares then
    node.refuse s!"Duplicate share from node {fromId}"
  else if share.toId ≠ node.receiveId then
    node.refuse "Share not intended for this node"
  else if share.sessionId ≠ node.sessionId then
    node.refuse "Share from different session - possible replay attack"
  else
    match node.receivedCommitments.lookup share.fromId with
    | none => (node, .error (.commitmentMissing share.fromId))
    | some commitment =>
      if commitment.verifyShare share.toId share.value then
        ({ node with receivedShares := node.receivedShares.insert share.fromId share.value },
          .ok ())
      else
        let accused := (node.complaints.lookup node.id).getD [] ++ [share.fromId]
        ({ node with complaints := node.complaints.insert node.id accused },
          .error (.dkgError "Share verification failed"))

def receiveCommitment (node : DKGNode F E) (fromId : ℕ) (commitment : PolynomialCommitment E) :
    DKGNode F E × Except CryptoError Unit :=
  if fromId = 0 ∨ fromId > asU32 node.totalNodes then
    node.refuse s!"Invalid node id: {fromId}"
  else if node.role.dealsToItself ∧ fromId = node.id then
    node.refuse "Cannot receive commitment from self"
  else if commitment.coefficients.isEmpty then
    node.refuse "Commitment has no coefficients"
  else if fromId ∈ node.receivedCommitments then
    node.refuse s!"Duplicate commitment from node {fromId}"
  else
    ({ node with receivedCommitments := node.receivedCommitments.insert fromId commitment },
      .ok ())

/-! ## Results -/

def isReshareReceiver (node : DKGNode F E) : Bool :=
  node.role = .receiver ∨ node.role = .dealerReceiver

def reshareParticipants (node : DKGNode F E) : Except CryptoError (List ℕ) :=
  match node.selectedReshareParticipants with
  | some ids => canonicalizeParticipantIds ids node.totalNodes
  | none =>
    .error (.dkgError
      "Reshare participant set not yet selected — call select_reshare_participants first")

def reshareCommitmentFor (node : DKGNode F E) (participantId : ℕ) :
    Except CryptoError (PolynomialCommitment E) :=
  if node.role = .dealerReceiver ∧ participantId = node.id then
    if node.commitment.coefficients.isEmpty then
      .error (.dkgError "Local commitment not generated: call generate_polynomial first")
    else
      .ok node.commitment
  else
    match node.receivedCommitments.lookup participantId with
    | some commitment => .ok commitment
    | none => .error (.dkgError s!"Missing commitment from selected dealer {participantId}")

/-- The share value that `participantId` contributes to the new secret share. -/
def reshareShareFor (node : DKGNode F E) (participantId : ℕ) : Except CryptoError F :=
  if node.role = .dealerReceiver ∧ participantId = node.id then
    if node.polynomialCoeffs.isEmpty then
      .error (.dkgError
        "Local polynomial not generated: call generate_polynomial before compute_secret_share")
    else
      .ok (node.evalPolynomial node.receiveId)
  else
    match node.receivedShares.lookup participantId with
    | some shareValue => .ok shareValue
    | none => .error (.dkgError s!"Missing reshare share from selected dealer {participantId}")

def weightedShare (node : DKGNode F E) (participants : List ℕ) (participantId : ℕ) :
    Except CryptoError F := do
  let lambda ← lagrangeAtZero F participantId participants
  let shareValue ← node.reshareShareFor participantId
  pure (lambda * shareValue)

/-- The new secret share over an explicit dealer set. -/
def secretShareOver (node : DKGNode F E) (participants : List ℕ) :
    Except CryptoError (PriShare F) := do
  let secretShare ← participants.foldlM (fun secretShare participantId => do
    let term ← node.weightedShare participants participantId
    pure (secretShare + term)) 0
  pure ⟨node.receiveId, secretShare⟩

def computeSecretShare (node : DKGNode F E) : Except CryptoError (PriShare F) :=
  if node.role = .dealer then
    .error (.dkgError "Dealer role does not compute a secret share")
  else if node.isReshareReceiver then do
    let participants ← node.reshareParticipants
    node.secretShareOver participants
  else
    let expected := node.totalNodes - 1
    let received := node.receivedShares.entries.length
    if received ≠ expected then
      .error (.dkgError s!"Missing shares: received {received}, expected {expected}")
    else if node.polynomialCoeffs.isEmpty then
      .error (.dkgError
        "Local polynomial not generated: call generate_polynomial before compute_secret_share")
    else
      .ok ⟨node.id, (values node.receivedShares).foldl (· + ·) (node.evalPolynomial node.id)⟩

def weightedConstantTerm (node : DKGNode F E) (participants : List ℕ) (participantId : ℕ) :
    Except CryptoError E := do
  let lambda ← lagrangeAtZero F participantId participants
  let commitment ← node.reshareCommitmentFor participantId
  pure (lambda • commitment.constantTerm)

def aggregatePublicKeyOver (node : DKGNode F E) (participants : List ℕ) :
    Except CryptoError E :=
  participants.foldlM (fun aggregatePk participantId => do
    let term ← node.weightedConstantTerm participants participantId
    pure (aggregatePk + term)) 0

def missingCommitments (received expected : ℕ) : CryptoError :=
  .dkgError s!"Missing commitments: received {received}, expected {expected}"

def localCommitmentMissing : CryptoError :=
  .dkgError "Local commitment not generated: call generate_polynomial first"

def computeAggregatePublicKey (node : DKGNode F E) : Except CryptoError E :=
  if node.isReshareReceiver then do
    let participants ← node.reshareParticipants
    node.aggregatePublicKeyOver participants
  else
    let expected := node.totalNodes - 1
    let received := node.receivedCommitments.entries.length
    if received ≠ expected then
      .error (missingCommitments received expected)
    else if node.commitment.coefficients.isEmpty then
      .error localCommitmentMissing
    else
      .ok (((values node.receivedCommitments).map (·.constantTerm)).foldl (· + ·)
        node.commitment.constantTerm)

def inconsistentLength (id expected got : ℕ) : CryptoError :=
  .dkgError s!"Commitment from node {id} has inconsistent length: expected {expected}, got {got}"

def weightedCoefficients (node : DKGNode F E) (participants : List ℕ) (numCoeffs : ℕ)
    (participantId : ℕ) : Except CryptoError (List E) := do
  let lambda ← lagrangeAtZero F participantId participants
  let commitment ← node.reshareCommitmentFor participantId
  if commitment.coefficients.length ≠ numCoeffs then
    .error (inconsistentLength participantId numCoeffs commitment.coefficients.length)
  else
    pure (commitment.coefficients.map (lambda • ·))

/-- The public polynomial over an explicit dealer set.  Canonical participant lists are not
empty, so the first participant exists. -/
def publicPolynomialOver (node : DKGNode F E) (participants : List ℕ) :
    Except CryptoError (PubPoly E) := do
  let first ← node.reshareCommitmentFor (participants.headD 0)
  let numCoeffs := first.coefficients.length
  let agg ← participants.foldlM (fun agg participantId => do
    let terms ← node.weightedCoefficients participants numCoeffs participantId
    pure (List.zipWith (· + ·) agg terms)) (List.replicate numCoeffs 0)
  pure ⟨agg⟩

def computePublicPolynomial (node : DKGNode F E) : Except CryptoError (PubPoly E) :=
  if node.isReshareReceiver then do
    let participants ← node.reshareParticipants
    node.publicPolynomialOver participants
  else
    let expected := node.totalNodes - 1
    let received := node.receivedCommitments.entries.length
    if received ≠ expected then
      .error (missingCommitments received expected)
    else if node.commitment.coefficients.isEmpty then
      .error localCommitmentMissing
    else
      let numCoeffs := node.commitment.coefficients.length
      match node.receivedCommitments.entries.find? fun e =>
          e.2.coefficients.length ≠ numCoeffs with
      | some e => .error (inconsistentLength e.1 numCoeffs e.2.coefficients.length)
      | none =>
        .ok ⟨((values node.receivedCommitments).map (·.coefficients)).foldl
          (List.zipWith (· + ·)) node.commitment.coefficients⟩

end DKGNode

end Orbis.Crypto.Dkg
