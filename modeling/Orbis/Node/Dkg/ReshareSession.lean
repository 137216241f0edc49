import Orbis.Node.Dkg.Commitment

/-!
# A reshare session

The session state of one node during a reshare, and the steps its message handlers take.  A
handler holds the session lock only for one step at a time; what it has left to do when it
releases the lock is kept in `handlers`, and any handler can be resumed next.  Reports, audit
evidence, phases and counters are left out: nothing below reads them.
-/

namespace Orbis.Node.Dkg

open Orbis.Crypto Orbis.Crypto.Dkg Orbis.Data

/-- `newTotalNodes` is also the number of node keys of the new committee. -/
structure ReshareParams (F : Type) where
  oldShare : Option F
  participatingIds : List ℕ
  newThreshold : ℕ
  newTotalNodes : ℕ
  newNodeId : Option ℕ

/-- Where a handler that has released the lock continues. -/
inductive Handler (F : Type) where
  | generatePolynomial (fromNodeId : ℕ)
  | replayShare (fromNodeId : ℕ)
  | receiveShare (share : DistributedShare F) (queueIfEarly : Bool)
  | queueShare (share : DistributedShare F)
  | ackValidShare (dealerId : ℕ)
  | shareAck (receiverNodeId dealerId : ℕ)

structure ReshareSession (F E : Type) where
  node : DKGNode F E
  isPet : Bool
  params : ReshareParams F
  activeDealers : List ℕ
  /-- The identifiers of the new committee that have a route. -/
  routedNewIds : List ℕ
  /-- Whether new member 1, who selects the dealers, is this node. -/
  isSelector : Bool
  validShareDealers : List ℕ
  shareAcks : AList fun _ : ℕ => List ℕ
  dealerCompletionOrder : List ℕ
  selectedDealers : Option (List ℕ)
  pendingShares : AList fun _ : ℕ => DistributedShare F
  handlers : List (Handler F)

namespace ReshareSession

variable {F E : Type}

def fail (session : ReshareSession F E) (e : DkgError) :
    ReshareSession F E × Except DkgError Unit :=
  (session, .error e)

def push (session : ReshareSession F E) (handler : Handler F) : ReshareSession F E :=
  { session with handlers := session.handlers ++ [handler] }

/-! ## Dealing -/

variable [Field F] [AddCommGroup E] [Module F E] [Curve E]

/-- The old share is taken out of the parameters, also when the node then refuses. -/
def generatePolynomial (session : ReshareSession F E) (rng : ℕ → F) :
    ReshareSession F E × Except DkgError Unit :=
  let p := session.params
  match p.oldShare with
  | none => session.fail (.generic "Reshare: Receiver nodes cannot generate a polynomial")
  | some oldShare =>
    let (node, result) := session.node.generatePolynomial
      (.reshare oldShare p.participatingIds p.newThreshold p.newTotalNodes p.newNodeId) rng
    ({ session with node, params := { p with oldShare := none } },
      result.mapError (.ofCrypto "Failed to generate polynomial"))

/-- Every path that needs the polynomial generates it only when there is none yet. -/
def ensurePolynomial (session : ReshareSession F E) (rng : ℕ → F) :
    ReshareSession F E × Except DkgError Unit :=
  if session.node.commitment.coefficients.isEmpty then session.generatePolynomial rng
  else (session, .ok ())

/-- The first two phases: the polynomial, then the shares.  A dealer who is also a receiver
then acknowledges its own share. -/
def initiatePhases (session : ReshareSession F E) (rng : ℕ → F) :
    ReshareSession F E × Except DkgError Unit :=
  match session.ensurePolynomial rng with
  | (session, .error e) => (session, .error e)
  | (session, .ok ()) =>
    (if session.node.role = .dealerReceiver then session.push (.ackValidShare session.node.id)
      else session, .ok ())

/-! ## Commitments -/

variable [DecidableEq E]

/-- The first step of `handle_commitment_message`.  Whether the polynomial is missing is read
here; the generation is a later step. -/
def handleCommitmentMessage [Repr32 E]
    (session : ReshareSession F E) (fromNodeId : ℕ) (commitment : Bytes) :
    ReshareSession F E × Except DkgError Unit :=
  match prepareCommitmentMessage session.node session.params.newThreshold false fromNodeId
      commitment with
  | .error e => session.fail e
  | .ok polynomialCommitment =>
    let needToGenerate := session.node.role ≠ .receiver ∧
      session.node.commitment.coefficients.isEmpty
    let (node, result) := session.node.receiveCommitment fromNodeId polynomialCommitment
    match result with
    | .error e => session.fail (.ofCrypto "Failed to receive commitment" e)
    | .ok () =>
      ({ session with node }.push
        (if needToGenerate then .generatePolynomial fromNodeId else .replayShare fromNodeId),
        .ok ())

/-! ## Shares -/

/-- The checks of `accept_share_message` before the share reaches the node. -/
def acceptShareMessage [Repr32 F] (session : ReshareSession F E) (fromNodeId toNodeId : ℕ)
    (shareValue nonce : Bytes) : ReshareSession F E × Except DkgError Unit :=
  match session.params.newNodeId with
  | none =>
    session.fail (.shareVerificationFailed
      "Reshare share received but this node is a pure Dealer with no new-committee assignment")
  | some ourNodeId =>
    if toNodeId ≠ ourNodeId then
      session.fail (.shareVerificationFailed
        s!"Share intended for node {toNodeId}, but we are node {ourNodeId}")
    else if ¬session.isPet ∧ session.selectedDealers.any (fromNodeId ∉ ·) then
      -- A straggler from a dealer that was not selected.
      (session, .ok ())
    else
      match Fr.fromBytes shareValue with
      | .error e => session.fail (.ofDecode "Failed to deserialize share value" e)
      | .ok value =>
        (session.push (.receiveShare
          ⟨fromNodeId, toNodeId, value, nonce, session.node.sessionId⟩ true), .ok ())

/-- `try_receive_share` and what its caller does with the result. -/
def receiveShare (session : ReshareSession F E) (share : DistributedShare F)
    (queueIfEarly : Bool) : ReshareSession F E × Except DkgError Unit :=
  let (node, result) := session.node.receiveShare share
  let session := { session with node }
  match result with
  | .ok () => (session.push (.ackValidShare share.fromId), .ok ())
  | .error (.commitmentMissing missing) =>
    if queueIfEarly ∧ missing = share.fromId then (session.push (.queueShare share), .ok ())
    else
      let text := CryptoError.message (.commitmentMissing missing)
      session.fail (.shareVerificationFailed s!"Failed to receive share: {text}")
  | .error e =>
    let text := e.message
    session.fail (.shareVerificationFailed s!"Failed to receive share: {text}")

def queueShare (session : ReshareSession F E) (share : DistributedShare F) : ReshareSession F E :=
  if share.fromId ∈ session.pendingShares then session
  else { session with pendingShares := session.pendingShares.insert share.fromId share }

def replayShare (session : ReshareSession F E) (fromNodeId : ℕ) : ReshareSession F E :=
  match session.pendingShares.lookup fromNodeId with
  | none => session
  | some share =>
    { session with pendingShares := session.pendingShares.erase fromNodeId }.push
      (.receiveShare share false)

/-- `record_and_ack_valid_reshare_share`.  The acknowledgement goes to new member 1; a remote
delivery is not part of this node's state. -/
def ackValidShare (session : ReshareSession F E) (dealerId : ℕ) :
    ReshareSession F E × Except DkgError Unit :=
  if session.node.role ≠ .receiver ∧ session.node.role ≠ .dealerReceiver then (session, .ok ())
  else if dealerId ∈ session.validShareDealers then (session, .ok ())
  else
    match session.params.newNodeId with
    | none =>
      session.fail (.generic "Reshare receiver is missing new_node_id while acking share")
    | some receiverNodeId =>
      if 1 ∉ session.routedNewIds then
        session.fail (.invalidInput "Reshare new committee is empty")
      else
        let session :=
          { session with validShareDealers := session.validShareDealers ++ [dealerId] }
        (if session.isSelector then session.push (.shareAck receiverNodeId dealerId)
          else session, .ok ())

/-! ## Selecting the dealers -/

/-- One selected dealer is in range, active and, for a receiver, has been accepted. -/
def validateSelectedDealer (session : ReshareSession F E) (receivesShares : Bool)
    (dealerId : ℕ) : Except DkgError Unit :=
  let totalNodes := session.node.totalNodes
  if dealerId = 0 ∨ dealerId > totalNodes then
    .error (.invalidInput
      s!"ReshareParticipantSet dealer ID {dealerId} is outside old committee 1..={totalNodes}")
  else if dealerId ∉ session.activeDealers then
    .error (.unauthorized s!"ReshareParticipantSet contains inactive dealer {dealerId}")
  else if receivesShares ∧ dealerId ∉ session.validShareDealers then
    .error (.invalidState (s!"ReshareParticipantSet selected dealer {dealerId} before this " ++
      "receiver accepted its commitment and share"))
  else .ok ()

/-- `validate_reshare_participant_set_state`: whether the set is to be applied. -/
def validateReshareParticipantSet (session : ReshareSession F E) (fromNodeId : ℕ)
    (selectedDealerIds : List ℕ) : Except DkgError Bool :=
  let receivesShares := session.node.role = .receiver ∨ session.node.role = .dealerReceiver
  let got := selectedDealerIds.length
  let threshold := session.node.threshold
  let canonical := sortDedup selectedDealerIds
  if fromNodeId ≠ 1 then
    .error (.unauthorized
      s!"ReshareParticipantSet must come from new committee node 1, got {fromNodeId}")
  else if session.node.role = .standard then
    .error (.invalidInput "ReshareParticipantSet received by node outside new committee")
  else if selectedDealerIds.length ≠ session.node.threshold then
    .error (.invalidInput
      s!"ReshareParticipantSet has {got} dealers, expected old threshold {threshold}")
  else if canonical.length ≠ selectedDealerIds.length then
    .error (.invalidInput "ReshareParticipantSet contains duplicate dealer IDs")
  else do
    selectedDealerIds.forM (session.validateSelectedDealer receivesShares)
    if ¬receivesShares then pure false
    else
      match session.selectedDealers with
      | some existing =>
        if existing.insertionSort (· ≤ ·) = canonical then pure false
        else
          .error (.invalidInput
            s!"Conflicting ReshareParticipantSet: existing {existing}, new {selectedDealerIds}")
      | none =>
        match (session.node.selectReshareParticipants selectedDealerIds).2 with
        | .error e => .error (.ofCrypto "Failed to select reshare participants" e)
        | .ok () => pure true

/-- The two writes that apply a selection. -/
def applySelection (session : ReshareSession F E) (selected : List ℕ) :
    ReshareSession F E × Except DkgError Unit :=
  match session.node.selectReshareParticipants selected with
  | (_, .error e) => session.fail (.ofCrypto "Failed to select reshare participants" e)
  | (node, .ok ()) => ({ session with node, selectedDealers := some selected }, .ok ())

def handleReshareParticipantSet (session : ReshareSession F E) (fromNodeId : ℕ)
    (selectedDealerIds : List ℕ) : ReshareSession F E × Except DkgError Unit :=
  match session.validateReshareParticipantSet fromNodeId selectedDealerIds with
  | .error e => session.fail e
  | .ok false => (session, .ok ())
  | .ok true => session.applySelection selectedDealerIds

/-- The dealers whose shares all new members have acknowledged. -/
def completeDealers (session : ReshareSession F E) : List ℕ :=
  ((session.shareAcks.entries.filter fun e => e.2.length = session.params.newTotalNodes).map
    (·.1)).insertionSort (· ≤ ·)

/-- The set freezes once the threshold of dealers is complete. -/
def freezeSelection (session : ReshareSession F E) : ReshareSession F E × Except DkgError Unit :=
  if session.selectedDealers.isNone ∧
      session.node.threshold ≤ session.dealerCompletionOrder.length then
    session.applySelection (session.completeDealers.take session.node.threshold)
  else (session, .ok ())

def acksOf (session : ReshareSession F E) (dealerId : ℕ) : List ℕ :=
  (session.shareAcks.lookup dealerId).getD []

/-- A dealer is complete when every new member has acknowledged its share. -/
def recordAck (session : ReshareSession F E) (receiverNodeId dealerId : ℕ) : ReshareSession F E :=
  let acks := session.acksOf dealerId ++ [receiverNodeId]
  let order := session.dealerCompletionOrder
  { session with
    shareAcks := session.shareAcks.insert dealerId acks
    dealerCompletionOrder :=
      if acks.length = session.params.newTotalNodes ∧ dealerId ∉ order then order ++ [dealerId]
      else order }

/-- `handle_reshare_share_ack` on the selector. -/
def handleReshareShareAck (session : ReshareSession F E) (receiverNodeId dealerId : ℕ) :
    ReshareSession F E × Except DkgError Unit :=
  let size := session.params.newTotalNodes
  let routes := ((List.range' 1 size).filter (· ∈ session.routedNewIds)).length
  let totalNodes := session.node.totalNodes
  if session.params.newNodeId.getD 0 ≠ 1 then
    session.fail (.unauthorized "ReshareShareAck delivered to a non-selector node")
  else if routes ≠ size then
    session.fail (.invalidInput
      s!"Reshare new committee routing map has {routes} entries, expected {size}")
  else if receiverNodeId = 0 ∨ receiverNodeId > size then
    session.fail (.invalidInput
      s!"Invalid reshare receiver_node_id {receiverNodeId} for new committee size {size}")
  else if dealerId = 0 ∨ dealerId > totalNodes then
    session.fail (.invalidInput
      s!"Invalid reshare dealer_id {dealerId} for old committee size {totalNodes}")
  else if dealerId ∉ session.activeDealers then
    session.fail (.unauthorized s!"ReshareShareAck names inactive dealer {dealerId}")
  else
    if receiverNodeId ∈ session.acksOf dealerId then (session, .ok ())
    else (session.recordAck receiverNodeId dealerId).freezeSelection

/-! ## Interleaved steps -/

/-- What can happen next: a message, the start of the phases, or a handler that goes on. -/
inductive Event (F : Type) where
  | initiatePhases (rng : ℕ → F)
  | commitmentMessage (fromNodeId : ℕ) (commitment : Bytes)
  | shareMessage (fromNodeId toNodeId : ℕ) (shareValue nonce : Bytes)
  | participantSet (fromNodeId : ℕ) (selectedDealerIds : List ℕ)
  | shareAck (receiverNodeId dealerId : ℕ)
  | resume (k : ℕ) (rng : ℕ → F)

def resume (session : ReshareSession F E) (rng : ℕ → F) :
    Handler F → ReshareSession F E × Except DkgError Unit
  | .generatePolynomial fromNodeId =>
    -- A concurrent path may have generated the polynomial since the first step.
    if session.node.commitment.coefficients.isEmpty then
      match session.initiatePhases rng with
      | (session, .error e) => (session, .error e)
      | (session, .ok ()) => (session.push (.replayShare fromNodeId), .ok ())
    else (session.push (.replayShare fromNodeId), .ok ())
  | .replayShare fromNodeId => (session.replayShare fromNodeId, .ok ())
  | .receiveShare share queueIfEarly => session.receiveShare share queueIfEarly
  | .queueShare share => (session.queueShare share, .ok ())
  | .ackValidShare dealerId => session.ackValidShare dealerId
  | .shareAck receiverNodeId dealerId => session.handleReshareShareAck receiverNodeId dealerId

def handle [Repr32 F] [Repr32 E] (session : ReshareSession F E) :
    Event F → ReshareSession F E × Except DkgError Unit
  | .initiatePhases rng => session.initiatePhases rng
  | .commitmentMessage fromNodeId commitment =>
    session.handleCommitmentMessage fromNodeId commitment
  | .shareMessage fromNodeId toNodeId shareValue nonce =>
    session.acceptShareMessage fromNodeId toNodeId shareValue nonce
  | .participantSet fromNodeId selectedDealerIds =>
    session.handleReshareParticipantSet fromNodeId selectedDealerIds
  | .shareAck receiverNodeId dealerId => session.handleReshareShareAck receiverNodeId dealerId
  | .resume k rng =>
    match session.handlers[k]? with
    | none => (session, .ok ())
    | some handler =>
      { session with handlers := session.handlers.eraseIdx k }.resume rng handler

def step [Repr32 F] [Repr32 E]
    (session : ReshareSession F E) (event : Event F) : ReshareSession F E :=
  (session.handle event).1

def start (node : DKGNode F E) (isPet : Bool) (params : ReshareParams F)
    (activeDealers routedNewIds : List ℕ) (isSelector : Bool) : ReshareSession F E where
  node
  isPet
  params
  activeDealers
  routedNewIds
  isSelector
  validShareDealers := []
  shareAcks := ∅
  dealerCompletionOrder := []
  selectedDealers := none
  pendingShares := ∅
  handlers := []

/-! ## Equations of the selecting functions -/

variable (session : ReshareSession F E)

omit [Field F] [AddCommGroup E] [Module F E] [DecidableEq E] [Curve E] in
theorem applySelection_eq (selected : List ℕ) :
    (session.applySelection selected).1 = session ∨
      session.node.AcceptsSelection selected ∧ (session.applySelection selected).1 =
        { session with
          node := { session.node with selectedReshareParticipants := some (sortDedup selected) }
          selectedDealers := some selected } := by
  unfold applySelection
  by_cases hacc : session.node.AcceptsSelection selected
  · rw [DKGNode.selectReshareParticipants_of_accepts hacc]
    exact .inr ⟨hacc, rfl⟩
  · obtain ⟨e, he⟩ := DKGNode.selectReshareParticipants_of_not_accepts hacc
    rw [he]
    exact .inl rfl

/-- What is checked before an acknowledgement is counted. -/
structure Countable (s : ReshareSession F E) (receiverNodeId dealerId : ℕ) : Prop where
  selector : s.params.newNodeId.getD 0 = 1
  receiver_pos : 1 ≤ receiverNodeId
  receiver_le : receiverNodeId ≤ s.params.newTotalNodes
  dealer_pos : 1 ≤ dealerId
  dealer_le : dealerId ≤ s.node.totalNodes
  active : dealerId ∈ s.activeDealers
  new : receiverNodeId ∉ s.acksOf dealerId

omit [Field F] [AddCommGroup E] [Module F E] [DecidableEq E] [Curve E] in
theorem handleReshareShareAck_eq (receiverNodeId dealerId : ℕ) :
    (session.handleReshareShareAck receiverNodeId dealerId).1 = session ∨
      Countable session receiverNodeId dealerId ∧
        (session.handleReshareShareAck receiverNodeId dealerId).1 =
          (session.recordAck receiverNodeId dealerId).freezeSelection.1 := by
  unfold handleReshareShareAck
  simp only
  split
  · exact .inl rfl
  split
  · exact .inl rfl
  split
  · exact .inl rfl
  split
  · exact .inl rfl
  split
  · exact .inl rfl
  split
  · exact .inl rfl
  next hselector _ hreceiver hdealer hactive hnew =>
    right
    exact ⟨⟨not_not.mp hselector, by omega, by omega, by omega, by omega, not_not.mp hactive, hnew⟩,
      rfl⟩

end ReshareSession

end Orbis.Node.Dkg
