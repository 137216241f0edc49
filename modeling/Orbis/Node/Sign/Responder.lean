import Orbis.Node.Dkg.Commitment
import Orbis.Node.RingState
import Orbis.Node.Sign.Messages

/-!
# The signing responder

A ring member answers nonce requests and sign requests.  Between the two rounds it keeps its
nonces in a store that all requests of all coordinators share.  A sign request takes its nonce out
of the store before anything else, and then runs on its own: authorization and everything else
that the handler waits for is in the environment of the step that finishes it.
-/

namespace Orbis.Node.Sign

open Orbis.Crypto Orbis.Crypto.Sign Orbis.Data Orbis.Transition
open RingShareBundle (Storage)

/-! ## The nonce store -/

def maxNonceStates : ℕ := 1000

def signNonceTtl : ℕ := 45 * 10 ^ 9

structure NonceEntry where
  bytes : Bytes
  contextKey : String
  coordinatorPeerId : Bytes
  createdAt : ℕ
  /-- Which generated nonce this is; not in the program. -/
  serial : ℕ
deriving DecidableEq

abbrev NonceStates := AList fun _ : String => NonceEntry

inductive NonceStoreOutcome where
  | stored
  | alreadyExists
  | limitReached
deriving DecidableEq

structure ConsumedNonce where
  bytes : Bytes
  contextKey : String
  /-- Which generated nonce this is; not in the program. -/
  serial : ℕ
deriving DecidableEq

namespace NonceStates

def key (protocolVersion : ℕ) (requestId : String) : String := s!"v{protocolVersion}:{requestId}"

def removeExpiredNonces (states : NonceStates) (now : ℕ) : NonceStates :=
  retain (fun _ entry => now - entry.createdAt < signNonceTtl) states

/-- The limit rejects the new entry; no other entry makes room for it. -/
def storeNonce (states : NonceStates) (now : ℕ) (requestKey : String) (entry : NonceEntry) :
    NonceStoreOutcome × NonceStates :=
  let states := removeExpiredNonces states now
  if states.entries.length ≥ maxNonceStates then (.limitReached, states)
  else if requestKey ∈ states then (.alreadyExists, states)
  else (.stored, states.insert requestKey entry)

/-- The entry is removed before the request is authorized.  Its age is not looked at. -/
def consumeNonce (states : NonceStates) (requestKey : String) (coordinatorPeerId : Bytes) :
    Option ConsumedNonce × NonceStates :=
  match states.lookup requestKey with
  | none => (none, states)
  | some entry =>
    if entry.coordinatorPeerId ≠ coordinatorPeerId then (none, states)
    else (some ⟨entry.bytes, entry.contextKey, entry.serial⟩, states.erase requestKey)

end NonceStates

def ConsumedNonce.intoBytesForContext (nonce : ConsumedNonce) (expectedContextKey : String) :
    Option Bytes :=
  if nonce.contextKey ≠ expectedContextKey then none else some nonce.bytes

section

variable [Sha256]

def sha256Hex (bytes : Bytes) : String := hexEncode (sha256 bytes)

/-- What a nonce is bound to. -/
def contextKey : SignContext → Except SignError String
  | .bulletin objectId => .ok s!"bulletin:{objectId}"
  | .policy derivationId _ => .ok derivationId
  | .ringReshareUpdate statement => do
      let bytes ← statement
      pure ("ring-reshare-update:" ++ sha256Hex bytes)
  | .refreshHealthCheck statement => do
      let bytes ← statement
      pure ("refresh-health-check:" ++ sha256Hex bytes)
  | .report envelope => .ok ("report:" ++ sha256Hex envelope)

end

variable {F E : Type} [Field F] [DecidableEq F] [AddCommGroup E] [Module F E] [DecidableEq E]
  [Curve E] [Repr32 F] [Repr32 E] [ScalarHash F] [Sha256]

/-! ## Commitment lists -/

def maxCommitments : ℕ := Dkg.maxCommitmentCoefficients

def maxCommitmentSize : ℕ := 1024

def minItemSize : ℕ := 9

def serializeCommitments (commitments : Commitments E) : Bytes :=
  if commitments.isEmpty then []
  else
    leBytes 4 (asU32 commitments.length) ++ commitments.flatMap fun c =>
      leBytes 4 c.1 ++ leBytes 4 (asU32 c.2.toBytes.length) ++ c.2.toBytes

/-- Read the items and return the unread bytes. -/
def readCommitments : ℕ → Bytes → Except SignError (Commitments E × Bytes)
  | 0, bytes => .ok ([], bytes)
  | count + 1, bytes =>
    if bytes.length < 8 then .error (.deserialization "Commitment bytes truncated")
    else
      let id := leValue (bytes.take 4)
      let commitmentLen := leValue ((bytes.drop 4).take 4)
      let rest := bytes.drop 8
      if commitmentLen > maxCommitmentSize then
        .error (.deserialization
          s!"Commitment length {commitmentLen} exceeds maximum {maxCommitmentSize}")
      else if rest.length < commitmentLen then
        .error (.deserialization "Commitment data truncated")
      else do
        let commitment ← (FrostNonceCommitment.fromBytes (rest.take commitmentLen)).mapError
          fun e => .deserialization ("Failed to deserialize commitment: " ++ e.message)
        let (commitments, rest) ← readCommitments count (rest.drop commitmentLen)
        pure ((id, commitment) :: commitments, rest)

def deserializeCommitments (bytes : Bytes) : Except SignError (Commitments E) :=
  if bytes.isEmpty then .ok []
  else if bytes.length < 4 then .error (.deserialization "Commitment bytes too short")
  else
    let count := leValue (bytes.take 4)
    let remaining := bytes.length - 4
    let total := bytes.length
    if count > maxCommitments then
      .error (.deserialization s!"Commitment count {count} exceeds maximum {maxCommitments}")
    else if count > remaining / minItemSize then
      .error (.deserialization
        s!"Commitment count {count} exceeds what fits in {remaining} remaining bytes")
    else do
      let (commitments, rest) ← readCommitments count (bytes.drop 4)
      let consumed := total - rest.length
      if rest ≠ [] then
        .error (.deserialization s!"Trailing bytes: consumed {consumed} of {total} bytes")
      else pure commitments

/-! ## Nonce requests -/

/-- The world a nonce request meets: the ring key and staged bundle of its authorized context, the
local storage, and the nonces drawn. -/
structure NonceEnvironment (F : Type) where
  authorization : Except SignError (String × Option RingShareBundle)
  storage : Storage
  nonces : F × F

def decodeRingPkBytes (bytes : Bytes) : Except SignError E :=
  (Element.fromBytes bytes).mapError fun e =>
    .deserialization ("Failed to deserialize ring public key: " ++ e.message)

def loadDistKeyShare (storage : Storage) (ringPk : E) : Except SignError (PriShare F) := do
  let bundle ← (RingShareBundle.load storage ringPk).mapError fun e =>
    .storage ("Failed to load share bundle: " ++ e)
  (bundle.priShare F).mapError fun e =>
    .deserialization ("Failed to deserialize final share: " ++ e)

variable (E) in
/-- Authorization and the share to generate nonces for. -/
def authorizeNonceRequest (request : NonceRequest) (env : NonceEnvironment F) :
    Except SignError (PriShare F × String) := do
  let (ringPkHex, staged) ← env.authorization
  let clientRingPk : E ← decodeRingPkBytes request.ringPk
  match hexDecode ringPkHex with
  | none => .error (.deserialization "Failed to decode authoritative ring_pk")
  | some ringPkBytes => do
      let ringPk : E ← decodeRingPkBytes ringPkBytes
      if clientRingPk ≠ ringPk then
        .error (.unauthorized "Nonce request ring_pk does not match authorized context")
      else do
        let share ← match staged with
          | some bundle => (bundle.priShare F).mapError fun e =>
            .deserialization ("Failed to deserialize staged share: " ++ e)
          | none => loadDistKeyShare env.storage ringPk
        let key ← contextKey request.context
        pure (share, key)

/-! ## Sign requests -/

structure SignRequestAuthorization where
  ringPkHex : String
  derivation : Option Bytes
  metadata : Option Bytes

/-- The world a sign request meets after it has taken its nonce: the outcome of authorization, the
staged bundle of the contexts that have one, the local storage, and the evidence signature. -/
structure SignEnvironment where
  authorization : Except SignError SignRequestAuthorization
  staged : Except SignError (Option RingShareBundle)
  storage : Storage
  evidence : Except SignError (ℕ × Bytes)

structure PendingSign where
  request : SignRequest
  sender : Bytes
  nonce : ConsumedNonce
  /-- When the nonce was taken, and the last sweep before; not in the program. -/
  consumedAt : ℕ
  sweptAt : ℕ

structure SignInput (F E : Type) where
  share : PriShare F
  pubPoly : PubPoly E
  signingState : FrostSigningState F
  allCommitments : Commitments E
  derivation : Option Bytes
  metadata : Option Bytes
  contextKey : String
  nonceBytes : Bytes

def maxSignMessageBytes : ℕ := 1024 * 1024

variable (E) in
def loadSignBundle (context : SignContext) (ringPkHex : String) (env : SignEnvironment) :
    Except SignError RingShareBundle :=
  match hexDecode ringPkHex with
  | none => .error (.deserialization "Failed to decode ring_pk hex")
  | some ringPkBytes => do
      let ringPk : E ← decodeRingPkBytes ringPkBytes
      let stored := (RingShareBundle.load env.storage ringPk).mapError fun e =>
        SignError.storage ("Failed to load share bundle: " ++ e)
      match context with
      -- a refresh always has a staged bundle, a reshare only until it is promoted
      | .refreshHealthCheck _ | .ringReshareUpdate _ => do
          match ← env.staged with
          | some bundle => pure bundle
          | none => stored
      | _ => stored

/-- Everything between taking the nonce and the sign computation. -/
def prepareSign (pending : PendingSign) (env : SignEnvironment) :
    Except SignError (SignInput F E) := do
  let request := pending.request
  let size := request.message.length
  if size > maxSignMessageBytes then
    .error (.invalidInput
      s!"Message too large: {size} bytes exceeds maximum {maxSignMessageBytes}")
  else do
    let authorization ← env.authorization
    let bundle ← loadSignBundle E request.context authorization.ringPkHex env
    match hexDecode bundle.publicPolynomial with
    | none => .error (.deserialization "Failed to decode public polynomial hex")
    | some pubPolyBytes => do
        let pubPoly ← (PubPoly.fromBytes pubPolyBytes).mapError fun e =>
          .deserialization ("Failed to deserialize public polynomial: " ++ e.message)
        let share ← (bundle.priShare F).mapError fun e =>
          .deserialization ("Failed to deserialize final share: " ++ e)
        let allCommitments ← deserializeCommitments request.allCommitments
        let expectedContextKey ← contextKey request.context
        let requestId := request.requestId
        match pending.nonce.intoBytesForContext expectedContextKey with
        | none =>
          .error (.nonceState s!"Nonce context key mismatch for request_id {requestId}")
        | some stateBytes => do
            let signingState ← (FrostSigningState.fromBytes stateBytes).mapError fun e =>
              .deserialization ("Failed to deserialize signing state: " ++ e.message)
            pure ⟨share, pubPoly, signingState, allCommitments, authorization.derivation,
              authorization.metadata, expectedContextKey, stateBytes⟩

def signResponse (pending : PendingSign) (input : SignInput F E) (env : SignEnvironment) :
    Except SignError SignMessage := do
  let sigShare ← (sign input.share pending.request.message input.pubPoly
    (some input.signingState) input.allCommitments input.derivation input.metadata).mapError
      fun e => .crypto ("Signing failed: " ++ e.message)
  let (signedAt, responseSignature) ← env.evidence
  pure (.signResponse pending.request.requestId input.share.i (toRepr sigShare.v) signedAt
    responseSignature)

/-! ## Runs -/

structure NonceRecord where
  serial : ℕ
  bytes : Bytes
  contextKey : String
  coordinatorPeerId : Bytes
  createdAt : ℕ
deriving DecidableEq

/-- A sign computation: the nonce it used, for whom and for which context, when the nonce was taken
and what was the last sweep of the store before that. -/
structure NonceUse where
  serial : ℕ
  bytes : Bytes
  contextKey : String
  sender : Bytes
  consumedAt : ℕ
  sweptAt : ℕ
deriving DecidableEq

/-- The responder and its history.  The program has the store and the running handlers. -/
structure Responder where
  now : ℕ
  nonceStates : NonceStates
  pendingSigns : List PendingSign
  lastSweep : ℕ
  generated : ℕ
  records : List NonceRecord
  uses : List NonceUse

inductive Event (F : Type) where
  | nonceRequest (protocolVersion : ℕ) (request : NonceRequest) (sender : Bytes)
      (env : NonceEnvironment F)
  | signRequest (protocolVersion : ℕ) (request : SignRequest) (sender : Bytes)
  /-- The handler of a request that has taken its nonce runs to its end. -/
  | finishSign (index : ℕ) (env : SignEnvironment)
  /-- The handler is dropped. -/
  | cancelSign (index : ℕ)
  | sweep
  | tick (elapsed : ℕ)

namespace Responder

def start (now : ℕ) : Responder := ⟨now, ∅, [], now, 0, [], []⟩

variable (E) in
def handleNonceRequest (s : Responder) (protocolVersion : ℕ) (request : NonceRequest)
    (sender : Bytes) (env : NonceEnvironment F) : Responder × Except SignError SignMessage :=
  match authorizeNonceRequest E request env with
  | .error e => (s, .error e)
  | .ok (share, key) =>
    let (commitment, signingState) :=
      generateNonces (E := E) share env.nonces.1 env.nonces.2
    let requestId := request.requestId
    let entry : NonceEntry := ⟨signingState.toBytes, key, sender, s.now, s.generated⟩
    let (outcome, states) := s.nonceStates.storeNonce s.now
      (NonceStates.key protocolVersion requestId) entry
    let s := { s with nonceStates := states, lastSweep := s.now, generated := s.generated + 1 }
    match outcome with
    | .stored =>
      let record : NonceRecord :=
        ⟨entry.serial, entry.bytes, entry.contextKey, entry.coordinatorPeerId, entry.createdAt⟩
      ({ s with records := record :: s.records },
        .ok (.nonceResponse requestId share.i commitment.toBytes))
    | .alreadyExists =>
      (s, .error (.nonceState s!"Nonce state already exists for request {requestId}"))
    | .limitReached => (s, .error (.nonceState "Nonce state limit exceeded"))

/-- The first step of `handle_sign_request`. -/
def takeNonce (s : Responder) (protocolVersion : ℕ) (request : SignRequest) (sender : Bytes) :
    Responder × Except SignError Unit :=
  let requestId := request.requestId
  match s.nonceStates.consumeNonce
      (NonceStates.key protocolVersion s!"nonce-{requestId}") sender with
  | (none, _) =>
    (s, .error (.nonceState
      s!"No nonce state found for request_id {requestId} or coordinator mismatch"))
  | (some nonce, states) =>
    ({ s with
        nonceStates := states
        pendingSigns := s.pendingSigns ++ [⟨request, sender, nonce, s.now, s.lastSweep⟩] },
      .ok ())

variable (F E) in
/-- The rest of `handle_sign_request`. -/
def finishSign (s : Responder) (index : ℕ) (pending : PendingSign) (env : SignEnvironment) :
    Responder × Except SignError SignMessage :=
  let s := { s with pendingSigns := s.pendingSigns.eraseIdx index }
  match prepareSign (F := F) (E := E) pending env with
  | .error e => (s, .error e)
  | .ok input =>
    let use : NonceUse := ⟨pending.nonce.serial, input.nonceBytes, input.contextKey,
      pending.sender, pending.consumedAt, pending.sweptAt⟩
    ({ s with uses := use :: s.uses }, signResponse pending input env)

variable (E) in
def step (s : Responder) : Event F → Responder
  | .nonceRequest version request sender env =>
    (s.handleNonceRequest E version request sender env).1
  | .signRequest version request sender => (s.takeNonce version request sender).1
  | .finishSign index env =>
    match s.pendingSigns[index]? with
    | none => s
    | some pending => (s.finishSign F E index pending env).1
  | .cancelSign index => { s with pendingSigns := s.pendingSigns.eraseIdx index }
  | .sweep => { s with
      nonceStates := s.nonceStates.removeExpiredNonces s.now
      lastSweep := s.now }
  | .tick elapsed => { s with now := s.now + elapsed }

end Responder

end Orbis.Node.Sign
