import Orbis.Node.Identity
import Orbis.Node.Sign.Messages

/-!
# The signing coordinator

The coordinator collects nonce commitments, fixes a signing set, collects partial signatures
over it and finalizes the signature.  What the peers answer, in which order and by when, is
arbitrary.  The reports on bad answers are left out: they do not change what is collected.
-/

namespace Orbis.Node.Sign

open Orbis.Crypto Orbis.Crypto.Sign Orbis.Data

/-! ## Collecting responses -/

inductive ResponseInitOutcome where
  | created
  | alreadyExists
  | limitReached
deriving DecidableEq

/-- The answers to one round of requests: those of the tasks that finished before the deadline, in
that order, with `none` for a task without an answer; and those kept by the response manager. -/
structure Round where
  arrivals : List (Option AuthenticatedSignMessage)
  stored : Option (List AuthenticatedSignMessage)

/-- Processing a message of an expected node, given the nodes seen: what it contributes, and the
nodes seen afterwards. -/
abbrev ResponseHandler (α : Type) := SignMessage → ℕ → List ℕ → Option α × List ℕ

section Collect

variable {α : Type} (ring : RingConfig) (handler : ResponseHandler α)

/-- A sender outside the ring is skipped. -/
def processResponse (response : AuthenticatedSignMessage) (seenNodeIds : List ℕ) :
    Option α × List ℕ :=
  match determineRingNodeIdFromPeerId response.senderPeerHex ring with
  | none => (none, seenNodeIds)
  | some expectedNodeId => handler response.message expectedNodeId seenNodeIds

/-- The loop over finished tasks stops at the number of responses needed. -/
def collectArrivals (minNeeded : ℕ) : ℕ → List α × List ℕ →
    List (Option AuthenticatedSignMessage) → List α × List ℕ
  | _, acc, [] => acc
  | successful, acc, none :: rest => collectArrivals minNeeded successful acc rest
  | successful, acc, some response :: rest =>
    match processResponse ring handler response acc.2 with
    | (none, seen) => collectArrivals minNeeded successful (acc.1, seen) rest
    | (some item, seen) =>
      if successful + 1 ≥ minNeeded then (acc.1 ++ [item], seen)
      else collectArrivals minNeeded (successful + 1) (acc.1 ++ [item], seen) rest

/-- All stored responses are processed. -/
def collectStored : List α × List ℕ → List AuthenticatedSignMessage → List α × List ℕ
  | acc, [] => acc
  | acc, response :: rest =>
    match processResponse ring handler response acc.2 with
    | (none, seen) => collectStored (acc.1, seen) rest
    | (some item, seen) => collectStored (acc.1 ++ [item], seen) rest

/-- Both passes, starting from what the coordinator contributes itself. -/
def collectRound (start : List α × List ℕ) (round : Round) (missing : SignError) :
    Except SignError (List α × List ℕ) :=
  let minNeeded := ring.threshold - start.1.length
  let arrived :=
    if minNeeded > 0 then collectArrivals ring handler minNeeded 0 start round.arrivals else start
  match round.stored with
  | none => .error missing
  | some responses => .ok (collectStored ring handler arrived responses)

end Collect

variable {F E : Type} [Field F] [DecidableEq F] [AddCommGroup E] [Module F E] [DecidableEq E]
  [Curve E] [Repr32 F] [Repr32 E] [ScalarHash F] [Sha256]

/-! ## Round one -/

/-- A bad encoding counts as seen. -/
def parsePeerNonceResponse : ResponseHandler (ℕ × FrostNonceCommitment E) :=
  fun response expectedNodeId seenNodeIds =>
    match response with
    | .nonceResponse _ fromNodeId nonceCommitment =>
      if fromNodeId ≠ expectedNodeId then (none, seenNodeIds)
      else if fromNodeId ∈ seenNodeIds then (none, seenNodeIds)
      else
        match FrostNonceCommitment.fromBytes nonceCommitment with
        | .error _ => (none, fromNodeId :: seenNodeIds)
        | .ok commitment => (some (fromNodeId, commitment), fromNodeId :: seenNodeIds)
    | _ => (none, seenNodeIds)

/-- The coordinator's own nonces, when it is in the ring and holds a share. -/
def ownNonces (selfInList : Bool) (localDistKeyShare : Option (PriShare F)) (nonces : F × F) :
    Option (FrostNonceCommitment E × FrostSigningState F) :=
  if selfInList then localDistKeyShare.map fun share => generateNonces share nonces.1 nonces.2
  else none

def collectNonces (requestId : String) (ring : RingConfig) (nodeId : ℕ) (selfInList : Bool)
    (localDistKeyShare : Option (PriShare F)) (nonces : F × F) (outcome : ResponseInitOutcome)
    (round : Round) : Except SignError (Commitments E × Option (FrostSigningState F)) :=
  let own : Option (FrostNonceCommitment E × FrostSigningState F) :=
    ownNonces selfInList localDistKeyShare nonces
  match outcome with
  | .alreadyExists =>
    .error (.protocolError
      s!"Nonce response state already exists for request nonce-{requestId}")
  | .limitReached => .error (.protocolError "Nonce response limit exceeded")
  | .created => do
      let start := (own.toList.map fun nonce => (nodeId, nonce.1), own.toList.map fun _ => nodeId)
      let collected ← collectRound ring parsePeerNonceResponse start round
        (.timeout s!"No nonce responses found for request nonce-{requestId}")
      pure (canonical collected.1, own.map (·.2))

/-- The preferred node first, then in order until the threshold. -/
def selectSigningCommitments (commitments : Commitments E) (threshold : ℕ)
    (preferredNodeId : Option ℕ) : Except SignError (Commitments E) :=
  if commitments.length < threshold then
    .error (.insufficientShares commitments.length threshold)
  else
    let preferred := (preferredNodeId.bind fun id => commitments.find? (·.1 = id)).toList
    let selected := commitments.foldl (fun selected c =>
      if selected.length = threshold then selected
      else if selected.any (·.1 = c.1) then selected
      else selected ++ [c]) preferred
    .ok (canonical selected)

/-! ## Round two -/

structure SigningMaterial (F E : Type) where
  pubPoly : PubPoly E
  localDistKeyShare : Option (PriShare F)
  derivation : Option Bytes
  metadata : Option Bytes

structure CommitmentRound (F E : Type) where
  signingCommitments : Commitments E
  localSigningState : Option (FrostSigningState F)
  shouldAttemptLocalShare : Bool

/-- Any local failure leaves the share to the network round. -/
def computeLocalSignatureShare (material : SigningMaterial F E) (round : CommitmentRound F E)
    (message : Bytes) : Option (PubShare F) :=
  if ¬round.shouldAttemptLocalShare then none
  else
    match material.localDistKeyShare with
    | none => none
    | some share =>
      match sign share message material.pubPoly round.localSigningState
          round.signingCommitments material.derivation material.metadata with
      | .error _ => none
      | .ok sigShare =>
        match verifyShare message material.pubPoly sigShare round.signingCommitments
            material.derivation material.metadata with
        | .error _ => none
        | .ok () => some sigShare

/-- A share that cannot be decoded or does not verify counts as seen. -/
def verifyPeerSignatureResponse (material : SigningMaterial F E)
    (signingCommitments : Commitments E) (message : Bytes) : ResponseHandler (PubShare F) :=
  fun response expectedNodeId seenNodeIds =>
    match response with
    | .signResponse _ fromNodeId sigShare _ _ =>
      if fromNodeId ≠ expectedNodeId then (none, seenNodeIds)
      else if fromNodeId ∈ seenNodeIds then (none, seenNodeIds)
      else
        match Fr.fromBytes sigShare with
        | .error _ => (none, fromNodeId :: seenNodeIds)
        | .ok v =>
          match verifyShare message material.pubPoly ⟨fromNodeId, v⟩ signingCommitments
              material.derivation material.metadata with
          | .error _ => (none, fromNodeId :: seenNodeIds)
          | .ok () => (some ⟨fromNodeId, v⟩, fromNodeId :: seenNodeIds)
    | _ => (none, seenNodeIds)

/-- The shares verified locally come first. -/
def collectNetworkSignatureShares (requestId : String) (ring : RingConfig) (message : Bytes)
    (material : SigningMaterial F E) (signingCommitments : Commitments E)
    (verified : List (PubShare F)) (round : Round) : Except SignError (List (PubShare F)) := do
  let collected ← collectRound ring
    (verifyPeerSignatureResponse material signingCommitments message)
    (verified, verified.map (·.i)) round (.timeout s!"No responses found for request {requestId}")
  pure collected.1

/-! ## The signature -/

def SchnorrSignature.toBytes (signature : SchnorrSignature F E) : Bytes :=
  toRepr signature.rPoint ++ toRepr signature.z

def signResponseBytes (signature : SchnorrSignature F E) : Bytes :=
  utf8Bytes ("\x7b\"signature\":\"" ++ hexEncode (SchnorrSignature.toBytes signature) ++ "\"\x7d")

def verifyPk (material : SigningMaterial F E) : Except SignError E :=
  match material.derivation with
  | none => .ok (material.pubPoly.eval F 0)
  | some derivation =>
    (derivePublicKey (F := F) (material.pubPoly.eval F 0) derivation material.metadata).mapError
      fun e => .crypto ("Key derivation for verification failed: " ++ e.message)

def finalizeSignature (verifiedShares : List (PubShare F)) (ring : RingConfig) (message : Bytes)
    (signingCommitments : Commitments E) (material : SigningMaterial F E)
    (reshareInProgress : Bool) : Except SignError Bytes :=
  if verifiedShares.length < ring.threshold then
    if reshareInProgress then .error .reshareInProgress
    else .error (.insufficientShares verifiedShares.length ring.threshold)
  else do
    let pk ← verifyPk material
    let signatureOpt ← (recover verifiedShares ring.threshold pk message
      signingCommitments).mapError fun e =>
        .recoveryFailed ("Failed to recover signature: " ++ e.message)
    match signatureOpt with
    | none => .error (.recoveryFailed "Recovery returned None")
    | some signature => do
        (verify pk message signature).mapError fun e =>
          .recoveryFailed ("Final signature verification failed: " ++ e.message)
        pure (signResponseBytes signature)

/-! ## One signing session -/

/-- The coordinating node, the request, and everything that happens during the session. -/
structure Session (F E : Type) where
  nodeKey : String
  peerIdHex : String
  requestId : String
  ring : RingConfig
  message : Bytes
  context : SignContext
  excludedNodeKeys : List String
  /-- The polynomial and share of the generation to sign with, as loaded. -/
  loaded : Except SignError (PubPoly E × Option (PriShare F))
  nonces : F × F
  initOutcome : ResponseInitOutcome
  nonceInitOutcome : ResponseInitOutcome
  nonceRound : Round
  signRound : Round
  reshareInProgress : Bool

namespace Session

def excludesPeer (s : Session F E) (peerId : String) : Bool :=
  match (s.ring.peerNodeKeys.zip s.ring.peerIds).find?
      (fun member => extractNodePart member.2 = extractNodePart peerId) with
  | none => false
  | some (nodeKey, _) => nodeKey ∈ s.excludedNodeKeys

def isSelfPeerId (s : Session F E) (peerId : String) : Bool :=
  s.peerIdHex = lowercase (extractNodePart peerId)

def nodeIdOpt (s : Session F E) : Option ℕ := determineSessionNodeId s.nodeKey s.ring.peerNodeKeys

def selfInList (s : Session F E) : Bool :=
  s.nodeIdOpt.isSome && s.nodeKey ∉ s.excludedNodeKeys

/-- Zero stands for a requester outside the ring. -/
def nodeId (s : Session F E) : ℕ := s.nodeIdOpt.getD 0

def actualPeerCount (s : Session F E) : ℕ :=
  s.ring.peerIds.countP fun peerId => !s.excludesPeer peerId && !s.isSelfPeerId peerId

def resolveSigningMaterial (s : Session F E) : Except SignError (SigningMaterial F E) := do
  let (pubPoly, localDistKeyShare) ← s.loaded
  let potentialShares := if s.selfInList then s.actualPeerCount + 1 else s.actualPeerCount
  if potentialShares < s.ring.threshold then
    .error (.insufficientShares potentialShares s.ring.threshold)
  else
    match s.context with
    | .policy _ keyDerivation =>
      pure ⟨pubPoly, localDistKeyShare, some (utf8Bytes keyDerivation.derivation),
        some (encodeMetadata keyDerivation.policyId keyDerivation.resource
          keyDerivation.permission)⟩
    | _ => pure ⟨pubPoly, localDistKeyShare, none, none⟩

def collectSigningCommitments (s : Session F E) (material : SigningMaterial F E) :
    Except SignError (CommitmentRound F E) := do
  let (allCommitments, localSigningState) ← collectNonces s.requestId s.ring s.nodeId s.selfInList
    material.localDistKeyShare s.nonces s.nonceInitOutcome s.nonceRound
  let signingCommitments ← selectSigningCommitments allCommitments s.ring.threshold
    (if s.selfInList then some s.nodeId else none)
  pure ⟨signingCommitments, localSigningState,
    material.localDistKeyShare.isSome && s.nodeId ∈ signingCommitments.map (·.1)⟩

/-- Everything before the signature is finalized: the material, the commitments and the verified
shares. -/
def gatherShares (s : Session F E) :
    Except SignError (SigningMaterial F E × Commitments E × List (PubShare F)) := do
  let material ← s.resolveSigningMaterial
  let round ← s.collectSigningCommitments material
  let own := (computeLocalSignatureShare material round s.message).toList
  let shares ← collectNetworkSignatureShares s.requestId s.ring s.message material
    round.signingCommitments own s.signRound
  pure (material, round.signingCommitments, shares)

def initiateSigningInner (s : Session F E) : Except SignError Bytes := do
  let (material, signingCommitments, shares) ← s.gatherShares
  finalizeSignature shares s.ring s.message signingCommitments material s.reshareInProgress

def initiateSigning (s : Session F E) : Except SignError Bytes :=
  let requestId := s.requestId
  match s.initOutcome with
  | .alreadyExists =>
    .error (.protocolError s!"Sign response state already exists for request {requestId}")
  | .limitReached =>
    .error (.protocolError "Sign response limit exceeded, too many pending requests")
  | .created => s.initiateSigningInner

end Session

end Orbis.Node.Sign
