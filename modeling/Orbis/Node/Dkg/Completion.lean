import Orbis.Node.Dkg.Refresh
import Orbis.Node.Dkg.StateMachine
import Orbis.Node.LocalStorage
import Orbis.Node.Sign.HealthCheck
import Orbis.Transition.Task

/-!
# The end of an attempt

What a member does when a refresh, a refresh of the checking key or a reshare of the checking key
reaches its last phase, and when the result of a refresh health check arrives.  Every step is one
closure under the session lock, one call to the local storage or one call to the outside.  The
claim on the ring that an attempt holds, the audit of commitments that a failed check starts, and
the way of a health-check signature are left out.
-/

namespace Orbis.Node.Dkg

open Orbis.Crypto Orbis.Crypto.Dkg Orbis.Data Orbis.Transition
open Sign (RefreshHealthCheckStatement refreshHealthCheckDomain refreshHealthCheckMessage
  refreshHealthCheckPeerNodeKeysSha256 signatureFromBytes SignError.text)
open RingShareBundle (Storage loadByPetRingKey)

/-! ## The state -/

/-- The result of a refresh until the health check has decided about it. -/
structure RefreshHealthCheckCandidate where
  ringKey : String
  ringPkHex : String
  bundle : RingShareBundle
  peerNodeKeys : List String
  peerIds : List String
  threshold : ℕ
deriving DecidableEq

structure PendingRefreshHealthCheckResult where
  fromNodeId : ℕ
  statement : RefreshHealthCheckStatement
  signature : Option String
deriving DecidableEq

/-- The part of a session that its end reads and writes, and the local storage. -/
structure Completion (F E : Type) where
  /-- Whether the attempt is in the session map. -/
  live : Bool
  node : DKGNode F E
  phase : DkgPhase
  peerIds : List String
  peerNodeKeys : List String
  /-- The new committee and the new threshold of a reshare. -/
  reshareParams : Option (List String × ℕ)
  candidate : Option RefreshHealthCheckCandidate
  pendingResult : Option PendingRefreshHealthCheckResult
  storage : LocalStorage

/-- What a step gets from outside: the time, the error of a write to the storage, the ring on the
bulletin, the signature of the health check, and the error of its distribution. -/
structure Surroundings where
  nowSecs : UInt64
  storageError : Option String
  ring : Except String RingPayload
  signature : Option String
  publishError : Option DkgError

abbrev CompletionM (F E : Type) := ExceptT DkgError (Task Surroundings (Completion F E))

namespace Completion

section

variable {F E α : Type}

/-- One step under the lock, unless the attempt has ended. -/
def locked (f : Completion F E → Completion F E × Except DkgError α) : CompletionM F E α :=
  ExceptT.mk (Task.atomically fun _ s =>
    if s.live then f s
    else
      let id := s.node.sessionId
      (s, .error (.sessionNotFound s!"DKG session {id} not found")))

def withAttemptState (f : Completion F E → Except DkgError α) : CompletionM F E α :=
  locked fun s => (s, f s)

def withAttemptStateMut (f : Completion F E → Completion F E) : CompletionM F E Unit :=
  locked fun s => (f s, .ok ())

/-- A call to the outside, or a read of the local storage. -/
def outside (f : Surroundings → LocalStorage → Except DkgError α) : CompletionM F E α :=
  ExceptT.mk (Task.atomically fun w s => (s, f w s.storage))

def writeStorage (what : String) (f : LocalStorage → LocalStorage) : CompletionM F E Unit :=
  ExceptT.mk (Task.atomically fun w s =>
    match w.storageError with
    | some e => (s, .error (.storage s!"{what}: {e}"))
    | none => ({ s with storage := f s.storage }, .ok ()))

def removeAttempt : CompletionM F E Unit :=
  ExceptT.mk (Task.atomically fun _ s => ({ s with live := false }, .ok ()))

/-- `update_phase_for_attempt` with the last phase. -/
def markComplete : CompletionM F E Unit :=
  withAttemptStateMut fun s => { s with phase := .phase4Complete }

def ignoreError (p : CompletionM F E Unit) : CompletionM F E Unit := tryCatch p fun _ => pure ()

def ofResult (result : Except DkgError α) : CompletionM F E α := ExceptT.mk (pure result)

end

section

variable {F E : Type} [Field F] [DecidableEq F] [AddCommGroup E] [Module F E] [DecidableEq E]
  [Curve E] [Repr32 F] [Repr32 E] [Sha256] [ScalarHash F]

/-! ## Results of the node -/

/-- The three texts are those of the errors. -/
def computeResults (shareText keyText polyText : String) (node : DKGNode F E) :
    Except DkgError (PriShare F × E × PubPoly E) := do
  let finalShare ← node.computeSecretShare.mapError (DkgError.ofCrypto shareText)
  let aggregatePk ← node.computeAggregatePublicKey.mapError (DkgError.ofCrypto keyText)
  let pubPoly ← node.computePublicPolynomial.mapError (DkgError.ofCrypto polyText)
  pure (finalShare, aggregatePk, pubPoly)

def phase4Results : DKGNode F E → Except DkgError (PriShare F × E × PubPoly E) :=
  computeResults "Failed to compute secret share" "Failed to compute aggregate public key"
    "Failed to compute public polynomial"

/-! ## The health check -/

variable (F E) in
/-- The order of the checks is that of the source; the reasons of failed hexadecimal decodings are
left out. -/
def verifyResultSignature (candidate : RefreshHealthCheckCandidate)
    (statement : RefreshHealthCheckStatement) (signatureHex : String) : Except DkgError Unit :=
  if statement.domain ≠ refreshHealthCheckDomain ∨ statement.ringPk ≠ candidate.ringPkHex ∨
      statement.threshold ≠ candidate.threshold ∨
      statement.totalParticipants ≠ candidate.peerIds.length ∨
      statement.peerNodeKeysSha256 ≠
        refreshHealthCheckPeerNodeKeysSha256 candidate.peerNodeKeys then
    .error (.unauthorized "Refresh health-check statement does not match staged candidate")
  else
    match hexDecode candidate.bundle.publicPolynomial with
    | none =>
      .error (.deserialization
        "Refresh health check: failed to decode staged public polynomial")
    | some pubPolyBytes =>
      if statement.publicPolynomialSha256 ≠ hexEncode (sha256 pubPolyBytes) then
        .error (.unauthorized
          "Refresh health-check polynomial hash does not match staged candidate")
      else do
        let message ← (refreshHealthCheckMessage statement).mapError fun e =>
          let text := SignError.text e
          DkgError.serialization
            s!"Refresh health check: failed to serialize statement: {text}"
        match hexDecode signatureHex with
        | none =>
          .error (.deserialization "Refresh health check: failed to decode signature hex")
        | some signatureBytes => do
            let signature : Crypto.Sign.SchnorrSignature F E ←
              (signatureFromBytes signatureBytes).mapError
                (.ofDecode "Refresh health check: failed to deserialize signature")
            let pubPoly : PubPoly E ← (PubPoly.fromBytes pubPolyBytes).mapError
              (.ofDecode "Refresh health check: failed to deserialize staged public polynomial")
            (Crypto.Sign.verify (pubPoly.eval F 0) message signature).mapError
              (.ofCrypto "Refresh health check: diagnostic signature did not verify")

def checkResultScope (sessionId : ℕ) (result : PendingRefreshHealthCheckResult) :
    Except DkgError Unit :=
  let fromNodeId := result.fromNodeId
  let stated := result.statement.sessionId
  if fromNodeId ≠ 1 then
    .error (.unauthorized s!"RefreshHealthCheckResult must come from node 1, got {fromNodeId}")
  else if stated ≠ sessionId then
    .error (.unauthorized (s!"Refresh health-check statement session_id {stated} does not match " ++
      s!"routed session {sessionId}"))
  else if result.statement.domain ≠ refreshHealthCheckDomain then
    .error (.unauthorized "Refresh health-check statement has the wrong domain")
  else .ok ()

def validateResultScope (sessionId : ℕ) (result : PendingRefreshHealthCheckResult) :
    CompletionM F E Unit := do
  ofResult (checkResultScope sessionId result)
  withAttemptState fun _ => .ok ()

variable (F E) in
/-- A failed verification is a reported failure. -/
def shouldPromote (candidate : RefreshHealthCheckCandidate)
    (result : PendingRefreshHealthCheckResult) : Bool :=
  match result.signature with
  | some signature => (verifyResultSignature F E candidate result.statement signature).isOk
  | none => false

/-- The bundle is written before the session is looked at again. -/
def promoteCandidate (candidate : RefreshHealthCheckCandidate) : CompletionM F E Unit := do
  writeStorage "Refresh health check: failed to promote staged bundle"
    (·.saveByRingKey candidate.ringKey candidate.bundle)
  withAttemptStateMut fun s => { s with candidate := none, phase := .phase4Complete }
  removeAttempt

def rollbackCandidate : CompletionM F E Unit := do
  ignoreError (withAttemptStateMut fun s => { s with candidate := none })
  removeAttempt

/-- A second result does not replace the one that waits. -/
def queueResult (result : PendingRefreshHealthCheckResult) (s : Completion F E) :
    Completion F E :=
  if s.pendingResult.isSome then s else { s with pendingResult := some result }

def applyResult (sessionId : ℕ) (result : PendingRefreshHealthCheckResult) :
    CompletionM F E Unit := do
  validateResultScope sessionId result
  let candidate ← withAttemptState fun s => .ok s.candidate
  match candidate with
  | none => withAttemptStateMut (queueResult result)
  | some candidate =>
    if shouldPromote F E candidate result then promoteCandidate candidate
    else rollbackCandidate

def applyPendingResultIfPresent (sessionId : ℕ) : CompletionM F E Unit := do
  let result ← locked fun s => ({ s with pendingResult := none }, .ok s.pendingResult)
  match result with
  | none => pure ()
  | some result => applyResult sessionId result

def selectorStatement (sessionId : ℕ) (candidate : RefreshHealthCheckCandidate) :
    Except DkgError RefreshHealthCheckStatement :=
  let committeeSize := candidate.peerIds.length
  let threshold := candidate.threshold
  if candidate.peerIds.isEmpty then
    .error (.invalidInput "Refresh health check requires a non-empty peer set")
  else if threshold = 0 ∨ threshold > committeeSize then
    .error (.invalidInput
      s!"Refresh health check threshold {threshold} is invalid for committee size {committeeSize}")
  else
    match hexDecode candidate.bundle.publicPolynomial with
    | none =>
      .error (.deserialization "Refresh health check: failed to decode staged polynomial")
    | some pubPolyBytes => do
        let statement : RefreshHealthCheckStatement :=
          { domain := refreshHealthCheckDomain
            sessionId
            ringPk := candidate.ringPkHex
            publicPolynomialSha256 := hexEncode (sha256 pubPolyBytes)
            peerNodeKeysSha256 := refreshHealthCheckPeerNodeKeysSha256 candidate.peerNodeKeys
            threshold := asU32 threshold
            totalParticipants := asU32 committeeSize }
        let _ ← (refreshHealthCheckMessage statement).mapError fun e =>
          let text := SignError.text e
          DkgError.serialization
            s!"Refresh health check: failed to serialize signing statement: {text}"
        pure statement

/-- The selector is the first member.  The collection of the signature, with its retries, and its
distribution are calls to the outside. -/
def runSelector (sessionId : ℕ) (candidate : RefreshHealthCheckCandidate) :
    CompletionM F E Unit :=
  match selectorStatement sessionId candidate with
  | .error e => do
      rollbackCandidate
      throw e
  | .ok statement => do
      let signature ← outside fun w _ => .ok w.signature
      let published ← outside fun w _ => .ok w.publishError
      match published with
      | some e => do
          applyResult sessionId ⟨1, statement, none⟩
          throw e
      | none => applyResult sessionId ⟨1, statement, signature⟩

/-! ## Refresh -/

variable (F) in
/-- The staged bundle, and the public key that it must not have changed. -/
def stageRefresh (showKey : E → String) (storageKey : String) (nowSecs : UInt64)
    (finalShare : PriShare F) (pubPoly : PubPoly E) (storage : Storage) :
    Except DkgError (RingShareBundle × E) := do
  let stagedBundle ← buildRefreshRingBundle F (combinePubPoly E) storage storageKey
    finalShare.toBytes pubPoly.toBytes nowSecs
  match hexDecode stagedBundle.publicPolynomial with
  | none => .error (.deserialization "Refresh: failed to decode staged public polynomial")
  | some stagedPubPolyBytes => do
      let stagedPubPoly : PubPoly E ← (PubPoly.fromBytes stagedPubPolyBytes).mapError
        (DkgError.ofDecode "Refresh: failed to deserialize staged public polynomial")
      let stagedPk := showKey (stagedPubPoly.eval F 0)
      if stagedPk ≠ storageKey then
        .error (.crypto (s!"Refresh: staged ring public key {stagedPk} does not match the " ++
          s!"ring's existing key {storageKey}; aborting refresh before staging"))
      else
        pure (stagedBundle, stagedPubPoly.eval F 0)

/-- The candidate is staged and then the result that waits for it is applied.  The selector goes
on to collect the signature; its errors are only logged. -/
def completeRefresh (showKey : E → String) (sessionId : ℕ) (storageKey : String) :
    CompletionM F E Unit := do
  let (nodeId, threshold, finalShare, _, pubPoly) ← withAttemptState fun s => do
    let results ← phase4Results s.node
    pure (s.node.id, s.node.threshold, results)
  let (bundle, stagedPk) ← outside fun w storage =>
    stageRefresh F showKey storageKey w.nowSecs finalShare pubPoly storage.ringKeys
  let (peerIds, peerNodeKeys) ← withAttemptState fun s => .ok (s.peerIds, s.peerNodeKeys)
  if peerNodeKeys.isEmpty then
    throw (.invalidState s!"Refresh Phase 4 session {sessionId} has empty peer_node_keys")
  else do
    let candidate : RefreshHealthCheckCandidate :=
      { ringKey := storageKey
        ringPkHex := hexEncode (toRepr stagedPk)
        bundle
        peerNodeKeys
        peerIds
        threshold }
    withAttemptStateMut fun s => { s with candidate := some candidate }
    applyPendingResultIfPresent sessionId
    if nodeId = 1 then ignoreError (runSelector sessionId candidate) else pure ()

/-! ## Refresh of the checking key -/

variable (F) in
def buildRefreshPetRingBundle (combinePubPoly : Bytes → Bytes → Except String Bytes)
    (storage : Storage) (ringId : String) (finalShareBytes pubPolyBytes : Bytes)
    (nowSecs : UInt64) : Except DkgError RingShareBundle := do
  let oldBundle ← (loadByPetRingKey storage ringId).mapError fun e =>
    DkgError.storage s!"Refresh PET: failed to load old share bundle: {e}"
  let oldPri : PriShare F ← (oldBundle.priShare F).mapError fun e =>
    DkgError.deserialization s!"Refresh PET: failed to deserialize old share: {e}"
  let deltaPri : PriShare F ← (PriShare.fromBytes finalShareBytes).mapError
    (DkgError.ofDecode "Refresh PET: failed to deserialize delta share")
  let newPri : PriShare F := ⟨oldPri.i, oldPri.v + deltaPri.v⟩
  match hexDecode oldBundle.publicPolynomial with
  | none => .error (.deserialization "Refresh PET: failed to decode old polynomial hex")
  | some oldPolyBytes => do
      let newPolyBytes ← (combinePubPoly oldPolyBytes pubPolyBytes).mapError fun e =>
        DkgError.crypto s!"Refresh PET: failed to combine polynomials: {e}"
      pure ⟨newPri.toBytes, hexEncode newPolyBytes, nowSecs⟩

variable (F) in
/-- The checking key that a public polynomial in a bundle has. -/
def petKeyOf (which : String) (bundle : RingShareBundle) : Except DkgError E :=
  match hexDecode bundle.publicPolynomial with
  | none =>
    .error (.deserialization s!"Refresh PET: failed to decode {which} PET polynomial hex")
  | some polyBytes => do
      let poly : PubPoly E ← (PubPoly.fromBytes polyBytes).mapError
        (DkgError.ofDecode s!"Refresh PET: failed to deserialize {which} PET polynomial")
      pure (poly.eval F 0)

variable (F) in
def combineRefreshPet (showKey : E → String) (ringId : String) (nowSecs : UInt64)
    (finalShare : PriShare F) (pubPoly : PubPoly E) (storage : Storage) :
    Except DkgError RingShareBundle := do
  let oldPetBundle ← (loadByPetRingKey storage ringId).mapError fun e =>
    DkgError.storage s!"Refresh PET: failed to load old PET bundle: {e}"
  let oldPetPk : E ← petKeyOf F "old" oldPetBundle
  let newBundle ← buildRefreshPetRingBundle F (combinePubPoly E) storage ringId
    finalShare.toBytes pubPoly.toBytes nowSecs
  let newPetPk : E ← petKeyOf F "new" newBundle
  let new := showKey newPetPk
  let old := showKey oldPetPk
  if new ≠ old then
    .error (.crypto (s!"Refresh PET: combined PET checking key {new} does not match the ring's " ++
      s!"existing PET key {old}; aborting before persistence"))
  else pure newBundle

/-- There is no health check.  That the attempt is still live is looked up before the write, in a
step of its own. -/
def completeRefreshPet (showKey : E → String) (ringId : String) : CompletionM F E Unit := do
  let (finalShare, _, pubPoly) ← withAttemptState fun s => phase4Results s.node
  let newBundle ← outside fun w storage =>
    combineRefreshPet F showKey ringId w.nowSecs finalShare pubPoly storage.petRingKeys
  withAttemptState fun _ => .ok ()
  writeStorage "Refresh PET: failed to store new bundle" (·.saveByPetRingKey ringId newBundle)
  markComplete
  removeAttempt

/-! ## Reshare of the checking key -/

/-- The new checking key must be the one on the bulletin. -/
def checkPetKey (ringId : String) (aggregatePk : E) (ring : Except String RingPayload) :
    Except DkgError Unit :=
  if aggregatePk = 0 then
    .error (.crypto
      "Reshare PET produced the identity checking key; aborting before persistence")
  else do
    let ring ← ring.mapError DkgError.protocolError
    match ring.petPk with
    | none =>
      .error (.invalidState
        s!"Reshare PET: ring {ringId} has no pet_pk on the bulletin at Phase 4 completion")
    | some old =>
      let new := hexEncode (toRepr aggregatePk)
      if new ≠ old then
        .error (.crypto (s!"Reshare PET: computed checking key {new} does not match the ring's " ++
          s!"existing PET key {old}; aborting before persisting staged bundle"))
      else .ok ()

def completeResharePetReceiver (ringId : String) : CompletionM F E Unit := do
  let (finalShare, aggregatePk, pubPoly) ← withAttemptState fun s =>
    computeResults "Reshare PET: failed to compute secret share"
      "Reshare PET: failed to compute aggregate public key"
      "Reshare PET: failed to compute public polynomial" s.node
  let nowSecs ← outside fun w _ => do
    checkPetKey ringId aggregatePk w.ring
    pure w.nowSecs
  let (expectedNewCommittee, expectedNewThreshold) ← withAttemptState fun s =>
    okOr s.reshareParams (.invalidState "Reshare PET session missing reshare_params")
  writeStorage "Reshare PET: failed to stage new bundle" (·.savePendingPet ringId
    { bundle := ⟨finalShare.toBytes, hexEncode pubPoly.toBytes, nowSecs⟩
      bulletinPostId := ringId
      expectedNewCommittee
      expectedNewThreshold })
  markComplete
  removeAttempt

/-- A dealer that leaves keeps its old share of the checking key. -/
def completeResharePetPhase4 (ringId : String) : CompletionM F E Unit := do
  let role ← withAttemptState fun s => .ok s.node.role
  if role = .dealer then
    markComplete
    removeAttempt
  else completeResharePetReceiver ringId

/-! ## The handlers of one attempt -/

inductive Input where
  | refresh (storageKey : String)
  | refreshPet (ringId : String)
  | resharePet (ringId : String)
  | result (result : PendingRefreshHealthCheckResult)
  /-- Any other task that aborts the attempt, or its expiry. -/
  | remove
deriving DecidableEq

def orAbort (p : CompletionM F E Unit) : CompletionM F E Unit :=
  tryCatch p fun e => do
    removeAttempt
    throw e

def handler (showKey : E → String) (sessionId : ℕ) : Input → CompletionM F E Unit
  | .refresh storageKey => orAbort (completeRefresh showKey sessionId storageKey)
  | .refreshPet ringId => orAbort (completeRefreshPet showKey ringId)
  | .resharePet ringId => orAbort (completeResharePetPhase4 ringId)
  | .result result => applyResult sessionId result
  | .remove => removeAttempt

/-- The handlers of the attempt, in any order and interleaved in any way. -/
def runEnd (showKey : E → String) (s : Completion F E)
    (schedule : List (Move Input Surroundings)) :
    Pool Input Surroundings (Completion F E) (Except DkgError Unit) :=
  run (Pool.step fun input => (handler showKey s.node.sessionId input).run) (Pool.empty s)
    schedule

end

/-! ## The second member of a ring of two -/

namespace Pair

open scoped ByteSum

def showKey (point : F7) : String := hexEncode (toRepr point)

def ringKey : String := showKey 3

/-- The node of the second member, where both members have dealt the constant `c`. -/
def node (c : F7) : DKGNode F7 F7 :=
  { (DKGNode.blank 2 1 2 0 .standard : DKGNode F7 F7) with
    polynomialCoeffs := [c]
    commitment := ⟨[c]⟩
    receivedShares := AList.insert 1 c ∅
    receivedCommitments := AList.insert 1 ⟨[c]⟩ ∅ }

/-- Both keys of the ring are 3, and so are all shares. -/
def bundle (lastPss : UInt64) : RingShareBundle :=
  RingShareBundle.ofParts (⟨2, 3⟩ : PriShare F7) (⟨[3]⟩ : PubPoly F7) lastPss

def member (c : F7) : Completion F7 F7 where
  live := true
  node := node c
  phase := .phase4Completing
  peerIds := ["p1", "p2"]
  peerNodeKeys := ["n1", "n2"]
  reshareParams := some (["n1", "n2"], 1)
  candidate := none
  pendingResult := none
  storage :=
    { LocalStorage.empty with
      ringKeys := (bundle 0).saveByRingKey ∅ ringKey
      petRingKeys := AList.insert "ring" (bundle 0).toBytes ∅ }

def ring : RingPayload where
  ringPk := ringKey
  newPeerNodeKeys := none
  newThreshold := none
  peerNodeKeys := ["n1", "n2"]
  threshold := 1
  pssInterval := 0
  blockNumberNonce := 0
  policyId := none
  trustedAuthRelayDids := none
  upgradeInfo := ⟨0, none, none⟩
  reporting := ⟨⟨0, 0, 0, 0⟩, [], 0⟩
  requiresPet := true
  petPk := some ringKey

def calm : Surroundings := ⟨9, none, .ok ring, none, none⟩

def steps (k count : ℕ) : List (Move Input Surroundings) := List.replicate count (.resume k calm)

/-- What a refresh stages. -/
def candidate : RefreshHealthCheckCandidate where
  ringKey
  ringPkHex := ringKey
  bundle := bundle 9
  peerNodeKeys := ["n1", "n2"]
  peerIds := ["p1", "p2"]
  threshold := 1

/-- The selector reports a failure. -/
def failedResult : PendingRefreshHealthCheckResult where
  fromNodeId := 1
  statement := ⟨refreshHealthCheckDomain, 0, ringKey, "", "", 1, 2⟩
  signature := none

end Pair

end Completion

end Orbis.Node.Dkg
