import Orbis.Node.Dkg.ReshareSession

/-!
# A selected dealer set stays selected

Once a selection has been applied to a session it is never replaced there.  The key generation
node keeps its own copy, which a polynomial generation in reshare mode overwrites with all
active dealers.  A generation that was decided on before the selection and runs after it
therefore unfreezes the set; without such a step the node computes over the selected dealers
for the rest of the attempt.
-/

namespace Orbis.Node.Dkg.ReshareSession

open Orbis.Crypto Orbis.Crypto.Dkg Orbis.Data Orbis.Transition

variable {F E : Type}

/-! ## What a step can do to the selection -/

/-- The fields a result depends on through the selection. -/
structure SameSelection (s s' : ReshareSession F E) : Prop where
  selectedDealers : s'.selectedDealers = s.selectedDealers
  participants : s'.node.selectedReshareParticipants = s.node.selectedReshareParticipants
  totalNodes : s'.node.totalNodes = s.node.totalNodes
  role : s'.node.role = s.node.role

/-- The node's copy is replaced by all participating dealers. -/
structure Overwritten (s s' : ReshareSession F E) : Prop where
  selectedDealers : s'.selectedDealers = s.selectedDealers
  participants : s'.node.selectedReshareParticipants = some s.params.participatingIds
  totalNodes : s'.node.totalNodes = s.node.totalNodes
  role : s'.node.role = s.node.role

/-- A first selection is applied to the session and to the node. -/
structure Selected (s s' : ReshareSession F E) (selected : List ℕ) : Prop where
  fresh : s.selectedDealers = none
  accepted : s.node.AcceptsSelection selected
  selectedDealers : s'.selectedDealers = some selected
  participants : s'.node.selectedReshareParticipants = some (sortDedup selected)
  totalNodes : s'.node.totalNodes = s.node.totalNodes
  role : s'.node.role = s.node.role

/-- The session would accept a generation: there is no polynomial yet, the old share has not
been used, and the node agrees. -/
structure GenerationAccepted (s : ReshareSession F E) : Prop where
  missing : s.node.commitment.coefficients = []
  oldShare : s.params.oldShare ≠ none
  accepted : s.node.AcceptsReshare s.params.participatingIds s.params.newThreshold
    s.params.newTotalNodes

/-- The event is one of the steps that generate the polynomial if it is missing. -/
def Generates (s : ReshareSession F E) : Event F → Prop
  | .initiatePhases _ => True
  | .resume k _ => ∃ fromNodeId, s.handlers[k]? = some (.generatePolynomial fromNodeId)
  | _ => False

/-- A generation that is accepted after a selection deals to exactly the selected dealers. -/
def KeepsSelection (s : ReshareSession F E) (event : Event F) : Prop :=
  s.Generates event → s.GenerationAccepted → ∀ selected, s.selectedDealers = some selected →
    s.params.participatingIds.Perm selected

/-- What a member does without a message of another member. -/
def Event.isOwn : Event F → Bool
  | .participantSet _ _ => false
  | .shareAck _ _ => false
  | _ => true

/-- What no step changes, and what grows: the dealers whose shares the member has accepted.  A
member's own acknowledgement waits in a handler of its own. -/
structure Steady (s s' : ReshareSession F E) : Prop where
  role : s'.node.role = s.node.role
  threshold : s'.node.threshold = s.node.threshold
  totalNodes : s'.node.totalNodes = s.node.totalNodes
  activeDealers : s'.activeDealers = s.activeDealers
  newNodeId : s'.params.newNodeId = s.params.newNodeId
  newTotalNodes : s'.params.newTotalNodes = s.params.newTotalNodes
  accepted : ∀ d ∈ s.validShareDealers, d ∈ s'.validShareDealers
  acks : ∀ r d, .shareAck r d ∈ s'.handlers →
    .shareAck r d ∈ s.handlers ∨ s'.params.newNodeId = some r ∧ d ∈ s'.validShareDealers

/-- A step that counts no acknowledgement and selects nothing. -/
structure Quiet (s s' : ReshareSession F E) : Prop extends Steady s s' where
  shareAcks : s'.shareAcks = s.shareAcks
  selectedDealers : s'.selectedDealers = s.selectedDealers

theorem Steady.refl (s : ReshareSession F E) : Steady s s :=
  ⟨rfl, rfl, rfl, rfl, rfl, rfl, fun _ h => h, fun _ _ h => .inl h⟩

theorem Quiet.refl (s : ReshareSession F E) : Quiet s s := ⟨.refl s, rfl, rfl⟩

theorem Steady.trans {s s' s'' : ReshareSession F E} (h : Steady s s') (h' : Steady s' s'') :
    Steady s s'' where
  role := h'.role.trans h.role
  threshold := h'.threshold.trans h.threshold
  totalNodes := h'.totalNodes.trans h.totalNodes
  activeDealers := h'.activeDealers.trans h.activeDealers
  newNodeId := h'.newNodeId.trans h.newNodeId
  newTotalNodes := h'.newTotalNodes.trans h.newTotalNodes
  accepted d hd := h'.accepted d (h.accepted d hd)
  acks r d hack := by
    rcases h'.acks r d hack with hack | hack
    · rcases h.acks r d hack with hack | ⟨hr, hd⟩
      · exact .inl hack
      · exact .inr ⟨h'.newNodeId.trans hr, h'.accepted d hd⟩
    · exact .inr hack

theorem Quiet.trans {s s' s'' : ReshareSession F E} (h : Quiet s s') (h' : Quiet s' s'') :
    Quiet s s'' :=
  ⟨h.toSteady.trans h'.toSteady, h'.shareAcks.trans h.shareAcks,
    h'.selectedDealers.trans h.selectedDealers⟩

/-- A step that counts no acknowledgement, selects nothing and keeps the node's selection. -/
structure Idle (s s' : ReshareSession F E) : Prop extends Quiet s s', SameSelection s s'

/-- A step that generates the polynomial. -/
structure Regenerated (s s' : ReshareSession F E) : Prop extends Quiet s s', Overwritten s s'

def Deals (s s' : ReshareSession F E) : Prop :=
  Idle s s' ∨ s.GenerationAccepted ∧ Regenerated s s'

variable {s s' s'' : ReshareSession F E}

theorem Idle.refl (s : ReshareSession F E) : Idle s s := ⟨.refl s, rfl⟩

theorem Idle.trans (h : Idle s s') (h' : Idle s' s'') : Idle s s'' :=
  ⟨h.toQuiet.trans h'.toQuiet, h'.participants.trans h.participants⟩

theorem Deals.trans (h : Deals s s') (h' : Idle s' s'') : Deals s s'' := by
  rcases h with h | ⟨hacc, h⟩
  · exact .inl (h.trans h')
  · exact .inr ⟨hacc, h.toQuiet.trans h'.toQuiet, h'.participants.trans h.participants⟩

theorem idle_push (s : ReshareSession F E) {handler : Handler F}
    (h : ∀ r d, handler ≠ .shareAck r d) : Idle s (s.push handler) := by
  refine ⟨⟨⟨rfl, rfl, rfl, rfl, rfl, rfl, fun _ hd => hd, fun r d hack => .inl ?_⟩, rfl, rfl⟩, rfl⟩
  rcases List.mem_append.mp hack with hack | hack
  · exact hack
  · exact absurd (List.mem_singleton.mp hack).symm (h r d)

/-- A step that changes the node, but not its place in the two committees. -/
theorem quiet_node (s : ReshareSession F E) {node : DKGNode F E} {oldShare : Option F}
    {pendingShares : AList fun _ : ℕ => DistributedShare F}
    (hrole : node.role = s.node.role) (hthreshold : node.threshold = s.node.threshold)
    (htotal : node.totalNodes = s.node.totalNodes) :
    Quiet s { s with node, pendingShares, params := { s.params with oldShare } } :=
  ⟨⟨hrole, hthreshold, htotal, rfl, rfl, rfl, fun _ hd => hd, fun _ _ hack => .inl hack⟩, rfl, rfl⟩

theorem generatePolynomial_cases [Field F] [AddCommGroup E] [Module F E] [Curve E]
    (hmissing : s.node.commitment.coefficients = []) (rng : ℕ → F) :
    Deals s (s.generatePolynomial rng).1 := by
  cases hshare : s.params.oldShare with
  | none =>
    simp only [generatePolynomial, hshare]
    exact .inl (.refl s)
  | some oldShare =>
    by_cases hacc : s.node.AcceptsReshare s.params.participatingIds s.params.newThreshold
      s.params.newTotalNodes
    · simp only [generatePolynomial, hshare, DKGNode.generatePolynomial_reshare_of_accepts hacc]
      exact .inr ⟨⟨hmissing, by simp [hshare], hacc⟩, quiet_node s rfl rfl rfl, rfl⟩
    · obtain ⟨e, he⟩ := DKGNode.generatePolynomial_reshare_of_not_accepts hacc oldShare
        s.params.newNodeId rng
      simp only [generatePolynomial, hshare, he]
      exact .inl ⟨quiet_node s rfl rfl rfl, rfl⟩

section

variable (s : ReshareSession F E)

theorem initiatePhases_cases [Field F] [AddCommGroup E] [Module F E] [Curve E] (rng : ℕ → F) :
    Deals s (s.initiatePhases rng).1 := by
  have hensure : Deals s (s.ensurePolynomial rng).1 := by
    unfold ensurePolynomial
    split
    next hmissing => exact generatePolynomial_cases (List.isEmpty_iff.mp hmissing) rng
    · exact .inl (.refl s)
  unfold initiatePhases
  rcases hs' : s.ensurePolynomial rng with ⟨s', result⟩
  rw [hs'] at hensure
  cases result with
  | error e => exact hensure
  | ok _ =>
    apply hensure.trans
    change Idle s' (if s'.node.role = .dealerReceiver then _ else s')
    split
    · exact idle_push s' (by simp)
    · exact .refl s'

theorem idle_handleCommitmentMessage [AddCommGroup E] [DecidableEq E] [Repr32 E] (fromNodeId : ℕ)
    (commitment : Bytes) : Idle s (s.handleCommitmentMessage fromNodeId commitment).1 := by
  unfold handleCommitmentMessage
  split
  · exact .refl s
  next polynomialCommitment hprep =>
    have hacc := (prepared_of_eq_ok hprep).accepted
    have hnode : ∀ receivedCommitments,
        Idle s { s with node := { s.node with receivedCommitments } } :=
      fun _ => ⟨quiet_node s rfl rfl rfl, rfl⟩
    simp only [DKGNode.receiveCommitment_of_accepts hacc]
    apply (hnode _).trans
    apply idle_push
    intro r d
    split
    · simp
    · simp

theorem idle_acceptShareMessage [Repr32 F] (fromNodeId toNodeId : ℕ) (shareValue nonce : Bytes) :
    Idle s (s.acceptShareMessage fromNodeId toNodeId shareValue nonce).1 := by
  unfold acceptShareMessage
  split
  · exact .refl s
  split
  · exact .refl s
  split
  · exact .refl s
  split
  · exact .refl s
  · exact idle_push s (by simp)

theorem idle_receiveShare [Field F] [AddCommGroup E] [Module F E] [DecidableEq E] [Curve E]
    (share : DistributedShare F)
    (queueIfEarly : Bool) : Idle s (s.receiveShare share queueIfEarly).1 := by
  have hnode : Idle s { s with node := (s.node.receiveShare share).1 } := by
    by_cases hacc : s.node.AcceptsShare share
    · rw [DKGNode.receiveShare_of_accepts hacc]
      exact ⟨quiet_node s rfl rfl rfl, rfl⟩
    · obtain ⟨complaints, e, he⟩ := DKGNode.receiveShare_of_not_accepts hacc
      rw [he]
      exact ⟨quiet_node s rfl rfl rfl, rfl⟩
  unfold receiveShare
  simp only
  split
  · exact hnode.trans (idle_push _ (by simp))
  · split
    · exact hnode.trans (idle_push _ (by simp))
    · exact hnode
  · exact hnode

theorem idle_queueShare (share : DistributedShare F) :
    Idle s (s.queueShare share) := by
  unfold queueShare
  split
  · exact .refl s
  · exact ⟨quiet_node s rfl rfl rfl, rfl⟩

theorem idle_replayShare (fromNodeId : ℕ) :
    Idle s (s.replayShare fromNodeId) := by
  unfold replayShare
  split
  · exact .refl s
  · have hpending : Idle s { s with pendingShares := s.pendingShares.erase fromNodeId } :=
      ⟨quiet_node s rfl rfl rfl, rfl⟩
    exact hpending.trans (idle_push _ (by simp))

/-- The acknowledgement is for a dealer that has just been accepted. -/
theorem idle_ackValidShare (dealerId : ℕ) :
    Idle s (s.ackValidShare dealerId).1 := by
  unfold ackValidShare
  split
  · exact .refl s
  split
  · exact .refl s
  split
  · exact .refl s
  next receiverNodeId hself =>
    split
    · exact .refl s
    · have hgrows : ∀ d ∈ s.validShareDealers, d ∈ s.validShareDealers ++ [dealerId] :=
        fun d hd => List.mem_append_left _ hd
      simp only
      split
      · refine ⟨⟨⟨rfl, rfl, rfl, rfl, rfl, rfl, hgrows, fun r d hack => ?_⟩, rfl, rfl⟩, rfl⟩
        rcases List.mem_append.mp hack with hack | hack
        · exact .inl hack
        · cases List.mem_singleton.mp hack
          exact .inr ⟨hself, List.mem_append_right _ List.mem_cons_self⟩
      · exact ⟨⟨⟨rfl, rfl, rfl, rfl, rfl, rfl, hgrows, fun _ _ hack => .inl hack⟩, rfl, rfl⟩, rfl⟩

theorem idle_eraseIdx (k : ℕ) :
    Idle s { s with handlers := s.handlers.eraseIdx k } :=
  ⟨⟨⟨rfl, rfl, rfl, rfl, rfl, rfl, fun _ hd => hd,
    fun _ _ hack => .inl (List.mem_of_mem_eraseIdx hack)⟩, rfl, rfl⟩, rfl⟩

/-- A step of the member itself.  Its own acknowledgement is the only one it can count. -/
theorem own_cases [Field F] [AddCommGroup E] [Module F E] [DecidableEq E] [Curve E] [Repr32 F]
    [Repr32 E] {event : Event F} (hown : event.isOwn) :
    Idle s (s.step event) ∨
      (s.Generates event ∧ s.GenerationAccepted ∧ Regenerated s (s.step event)) ∨
      ∃ k r d, .shareAck r d ∈ s.handlers ∧ s.step event =
        ({ s with handlers := s.handlers.eraseIdx k }.handleReshareShareAck r d).1 := by
  cases event with
  | initiatePhases rng =>
    rcases initiatePhases_cases s rng with hs | ⟨hacc, hs⟩
    · exact .inl hs
    · exact .inr (.inl ⟨trivial, hacc, hs⟩)
  | commitmentMessage fromNodeId commitment =>
    exact .inl (idle_handleCommitmentMessage s fromNodeId commitment)
  | shareMessage fromNodeId toNodeId shareValue nonce =>
    exact .inl (idle_acceptShareMessage s fromNodeId toNodeId shareValue nonce)
  | participantSet fromNodeId selected | shareAck receiverNodeId dealerId => cases hown
  | resume k rng =>
    have herase := idle_eraseIdx s k
    unfold step handle
    cases hget : s.handlers[k]? with
    | none =>
      simp only [hget]
      exact .inl (.refl s)
    | some handler =>
      simp only [hget]
      generalize hs' : ({ s with handlers := s.handlers.eraseIdx k } : ReshareSession F E) = s'
        at herase ⊢
      cases handler with
      | generatePolynomial fromNodeId =>
        have hdeals : Deals s' (s'.resume rng (.generatePolynomial fromNodeId)).1 := by
          unfold resume
          simp only
          split
          · have hphases := initiatePhases_cases s' rng
            rcases hinit : s'.initiatePhases rng with ⟨s'', result⟩
            rw [hinit] at hphases
            cases result with
            | error e => exact hphases
            | ok _ => exact hphases.trans (idle_push s'' (by simp))
          · exact .inl (idle_push s' (by simp))
        subst hs'
        rcases hdeals with hs | ⟨hacc, hs⟩
        · exact .inl (herase.trans hs)
        · exact .inr (.inl ⟨⟨fromNodeId, hget⟩, ⟨hacc.1, hacc.2, hacc.3⟩,
            herase.toQuiet.trans hs.toQuiet, hs.participants⟩)
      | replayShare fromNodeId => exact .inl (herase.trans (idle_replayShare s' fromNodeId))
      | receiveShare share queueIfEarly =>
        exact .inl (herase.trans (idle_receiveShare s' share queueIfEarly))
      | queueShare share => exact .inl (herase.trans (idle_queueShare s' share))
      | ackValidShare dealerId => exact .inl (herase.trans (idle_ackValidShare s' dealerId))
      | shareAck receiverNodeId dealerId =>
        subst hs'
        exact .inr (.inr ⟨k, receiverNodeId, dealerId, List.mem_of_getElem? hget, rfl⟩)

/-! ## Selecting -/

theorem applySelection_steady (selected : List ℕ) :
    Steady s (s.applySelection selected).1 ∧
      (s.applySelection selected).1.shareAcks = s.shareAcks := by
  rcases s.applySelection_eq selected with heq | ⟨-, heq⟩
  · rw [heq]
    exact ⟨.refl s, rfl⟩
  · rw [heq]
    exact ⟨⟨rfl, rfl, rfl, rfl, rfl, rfl, fun _ hd => hd, fun _ _ hack => .inl hack⟩, rfl⟩

end

theorem applySelection_cases (hfresh : s.selectedDealers = none) (selected : List ℕ) :
    SameSelection s (s.applySelection selected).1 ∨
      Selected s (s.applySelection selected).1 selected := by
  rcases s.applySelection_eq selected with heq | ⟨hacc, heq⟩
  · rw [heq]
    exact .inl (Idle.refl s).toSameSelection
  · rw [heq]
    exact .inr ⟨hfresh, hacc, rfl, rfl, rfl, rfl⟩

variable {selected : List ℕ}

/-- The set is applied only while no set is selected. -/
theorem selectedDealers_eq_none_of_validate {fromNodeId : ℕ}
    (h : s.validateReshareParticipantSet fromNodeId selected = .ok true) :
    s.selectedDealers = none := by
  unfold validateReshareParticipantSet at h
  simp only at h
  split at h
  · cases h
  split at h
  · cases h
  split at h
  · cases h
  split at h
  · cases h
  obtain ⟨_, -, h⟩ := bind_eq_ok.mp h
  split at h
  · cases h
  split at h
  · split at h
    · cases h
    · cases h
  · next hnone => exact hnone

theorem handleReshareParticipantSet_cases (s : ReshareSession F E) (fromNodeId : ℕ)
    (selected : List ℕ) :
    SameSelection s (s.handleReshareParticipantSet fromNodeId selected).1 ∨
      Selected s (s.handleReshareParticipantSet fromNodeId selected).1 selected := by
  unfold handleReshareParticipantSet
  split
  · exact .inl (Idle.refl s).toSameSelection
  · exact .inl (Idle.refl s).toSameSelection
  · next hvalid => exact applySelection_cases (selectedDealers_eq_none_of_validate hvalid) selected

theorem freezeSelection_cases (s : ReshareSession F E) :
    SameSelection s s.freezeSelection.1 ∨
      ∃ selected, Selected s s.freezeSelection.1 selected := by
  unfold freezeSelection
  split
  · next h =>
      have hfresh : s.selectedDealers = none := Option.isNone_iff_eq_none.mp h.1
      rcases applySelection_cases hfresh (s.completeDealers.take s.node.threshold) with hs | hs
      · exact .inl hs
      · exact .inr ⟨_, hs⟩
  · exact .inl (Idle.refl s).toSameSelection

theorem handleReshareShareAck_cases (s : ReshareSession F E) (receiverNodeId dealerId : ℕ) :
    SameSelection s (s.handleReshareShareAck receiverNodeId dealerId).1 ∨
      ∃ selected, Selected s (s.handleReshareShareAck receiverNodeId dealerId).1 selected := by
  rcases s.handleReshareShareAck_eq receiverNodeId dealerId with heq | ⟨-, heq⟩
  · rw [heq]
    exact .inl (Idle.refl s).toSameSelection
  · rw [heq]
    -- Recording the acknowledgement does not touch the selection.
    rcases freezeSelection_cases (s.recordAck receiverNodeId dealerId) with hs | ⟨selected, hs⟩
    · exact .inl ⟨hs.1, hs.2, hs.3, hs.4⟩
    · exact .inr ⟨selected, hs.1, hs.2, hs.3, hs.4, hs.5, hs.6⟩

/-- Everything a step can do to the selection. -/
theorem step_cases [Field F] [AddCommGroup E] [Module F E] [DecidableEq E] [Curve E] [Repr32 F]
    [Repr32 E] (s : ReshareSession F E) (event : Event F) :
    SameSelection s (s.step event) ∨
      (s.Generates event ∧ s.GenerationAccepted ∧ Overwritten s (s.step event)) ∨
      ∃ selected, Selected s (s.step event) selected := by
  by_cases hown : event.isOwn
  · rcases own_cases s hown with hs | ⟨hgen, hacc, hs⟩ | ⟨k, r, d, -, heq⟩
    · exact .inl hs.toSameSelection
    · exact .inr (.inl ⟨hgen, hacc, hs.toOverwritten⟩)
    · rw [heq]
      rcases handleReshareShareAck_cases { s with handlers := s.handlers.eraseIdx k } r d with
        hs | ⟨selected, hs⟩
      · exact .inl ⟨hs.1, hs.2, hs.3, hs.4⟩
      · exact .inr (.inr ⟨selected, hs.1, hs.2, hs.3, hs.4, hs.5, hs.6⟩)
  · cases event with
    | participantSet fromNodeId selected =>
      exact (handleReshareParticipantSet_cases s fromNodeId selected).imp_right fun hs =>
        .inr ⟨selected, hs⟩
    | shareAck receiverNodeId dealerId =>
      exact (handleReshareShareAck_cases s receiverNodeId dealerId).imp_right .inr
    | _ => exact absurd rfl hown

/-! ## The selection over a run -/

/-- The node computes over `selected`, which is a set of old members. -/
structure ComputesOver (s : ReshareSession F E) (selected : List ℕ) : Prop where
  canonical : canonicalizeParticipantIds selected s.node.totalNodes = .ok (sortDedup selected)
  participants : s.node.reshareParticipants = .ok (sortDedup selected)

/-- Whatever set is selected, the node computes over it. -/
def Frozen (s : ReshareSession F E) : Prop :=
  ∀ selected, s.selectedDealers = some selected → s.ComputesOver selected

theorem reshareParticipants_eq {node : DKGNode F E} {ids : List ℕ}
    (h : node.selectedReshareParticipants = some ids) :
    node.reshareParticipants = canonicalizeParticipantIds ids node.totalNodes := by
  simp only [DKGNode.reshareParticipants, h]

theorem canonicalizeParticipantIds_perm {ids ids' l : List ℕ} {totalNodes : ℕ}
    (hperm : ids'.Perm ids) (h : canonicalizeParticipantIds ids totalNodes = .ok l) :
    canonicalizeParticipantIds ids' totalNodes = .ok l := by
  obtain ⟨hne, hnd, hrange, rfl⟩ := canonicalizeParticipantIds_eq_ok.mp h
  apply canonicalizeParticipantIds_eq_ok.mpr
  refine ⟨?_, hperm.nodup_iff.mpr hnd, ?_, sortDedup_congr hnd hperm.symm⟩
  · intro hnil
    rw [hnil] at hperm
    exact hne hperm.nil_eq.symm
  · intro id hid
    exact hrange id (hperm.mem_iff.mp hid)

theorem SameSelection.computesOver (hs : SameSelection s s') (h : s.ComputesOver selected) :
    s'.ComputesOver selected := by
  constructor
  · rw [hs.totalNodes]
    exact h.canonical
  · rw [← h.participants]
    simp only [DKGNode.reshareParticipants, hs.participants, hs.totalNodes]

theorem Overwritten.computesOver (hs : Overwritten s s') (h : s.ComputesOver selected)
    (hperm : s.params.participatingIds.Perm selected) : s'.ComputesOver selected := by
  have hcanonical : canonicalizeParticipantIds selected s'.node.totalNodes =
      .ok (sortDedup selected) := by
    rw [hs.totalNodes]
    exact h.canonical
  refine ⟨hcanonical, ?_⟩
  rw [reshareParticipants_eq hs.participants]
  exact canonicalizeParticipantIds_perm hperm hcanonical

theorem Selected.computesOver (hs : Selected s s' selected) : s'.ComputesOver selected := by
  have hcanonical : canonicalizeParticipantIds selected s'.node.totalNodes =
      .ok (sortDedup selected) := by
    rw [hs.totalNodes]
    exact canonicalizeParticipantIds_eq_ok.mpr
      ⟨hs.accepted.nonempty, hs.accepted.nodup, hs.accepted.range, rfl⟩
  refine ⟨hcanonical, ?_⟩
  rw [reshareParticipants_eq hs.participants]
  exact canonicalizeParticipantIds_perm (sortDedup_perm hs.accepted.nodup) hcanonical

variable [Field F] [AddCommGroup E] [Module F E] [DecidableEq E] [Curve E] [Repr32 F] [Repr32 E]

theorem selectedDealers_step (h : s.selectedDealers = some selected) (event : Event F) :
    (s.step event).selectedDealers = some selected := by
  rcases step_cases s event with hs | ⟨-, -, hs⟩ | ⟨_, hs⟩
  · exact hs.selectedDealers.trans h
  · exact hs.selectedDealers.trans h
  · rw [hs.fresh] at h
    cases h

theorem role_step (s : ReshareSession F E) (event : Event F) :
    (s.step event).node.role = s.node.role := by
  rcases step_cases s event with hs | ⟨-, -, hs⟩ | ⟨_, hs⟩
  · exact hs.role
  · exact hs.role
  · exact hs.role

theorem Frozen.step {event : Event F} (h : s.Frozen) (hkeep : s.KeepsSelection event) :
    (s.step event).Frozen := by
  intro selected hselected
  rcases step_cases s event with hs | ⟨hgen, hacc, hs⟩ | ⟨selected', hs⟩
  · rw [hs.selectedDealers] at hselected
    exact hs.computesOver (h selected hselected)
  · rw [hs.selectedDealers] at hselected
    exact hs.computesOver (h selected hselected) (hkeep hgen hacc selected hselected)
  · rw [hs.selectedDealers] at hselected
    cases hselected
    exact hs.computesOver

variable [DecidableEq F]

omit [DecidableEq E] [Curve E] [Repr32 F] [Repr32 E] in
theorem ComputesOver.results (h : s.ComputesOver selected)
    (hrole : s.node.role = .receiver ∨ s.node.role = .dealerReceiver) :
    s.node.computeSecretShare = s.node.secretShareOver (sortDedup selected) ∧
      s.node.computeAggregatePublicKey = s.node.aggregatePublicKeyOver (sortDedup selected) ∧
      s.node.computePublicPolynomial = s.node.publicPolynomialOver (sortDedup selected) := by
  have hdealer : s.node.role ≠ .dealer := by
    rcases hrole with hrole | hrole
    all_goals simp [hrole]
  have hreceiver : s.node.isReshareReceiver = true := by
    simpa [DKGNode.isReshareReceiver] using hrole
  simp only [DKGNode.computeSecretShare, DKGNode.computeAggregatePublicKey,
    DKGNode.computePublicPolynomial, hdealer, hreceiver, if_false, if_true, h.participants,
    ok_bind, and_self]

/-- In every run of a receiving node, in which no accepted generation comes after a selection
of other dealers: once a selection has been applied, it stays, and every result is computed
over exactly the selected dealers. -/
theorem selection_stays_frozen {id threshold totalNodes sessionId : ℕ} {role : DkgRole}
    (hrole : role = .receiver ∨ role = .dealerReceiver) {node : DKGNode F E}
    (hnew : DKGNode.new id threshold totalNodes sessionId role = .ok node) (isPet : Bool)
    (params : ReshareParams F) (activeDealers routedNewIds : List ℕ) (isSelector : Bool)
    {before after : List (Event F)}
    (hkeep : Along step KeepsSelection
      (start node isPet params activeDealers routedNewIds isSelector) (before ++ after))
    {selected : List ℕ}
    (hselected : (run step (start node isPet params activeDealers routedNewIds isSelector)
      before).selectedDealers = some selected) :
    let s := run step (start node isPet params activeDealers routedNewIds isSelector)
      (before ++ after)
    s.selectedDealers = some selected ∧
      s.node.computeSecretShare = s.node.secretShareOver (sortDedup selected) ∧
      s.node.computeAggregatePublicKey = s.node.aggregatePublicKeyOver (sortDedup selected) ∧
      s.node.computePublicPolynomial = s.node.publicPolynomialOver (sortDedup selected) := by
  set s₀ := start node isPet params activeDealers routedNewIds isSelector with hs₀
  have hfrozen : (run step s₀ (before ++ after)).Frozen := by
    refine run_invariant (fun s event hguard hinv => Frozen.step hinv hguard) hkeep ?_
    intro selected hselected
    cases hselected
  have hrole' : (run step s₀ (before ++ after)).node.role = role := by
    refine run_induction (fun s event h => (role_step s event).trans h) ?_ (before ++ after)
    exact congrArg DKGNode.role (DKGNode.new_eq_ok.mp hnew).2
  have hstays : (run step s₀ (before ++ after)).selectedDealers = some selected := by
    have hstep : ∀ (s : ReshareSession F E) (event : Event F),
        s.selectedDealers = some selected → (s.step event).selectedDealers = some selected :=
      fun _ event h => selectedDealers_step h event
    rw [run_append]
    exact run_induction hstep hselected after
  exact ⟨hstays, (hfrozen selected hstays).results (hrole' ▸ hrole)⟩

/-! Old member 2 is also new member 2.  The old threshold is one and both old members are
active dealers. -/

def continuingParams : ReshareParams F7 where
  oldShare := some 3
  participatingIds := [1, 2]
  newThreshold := 1
  newTotalNodes := 2
  newNodeId := some 2

/-- The node deals first, then gets what dealer 1 sent and the selection of dealer 1. -/
def orderlyEvents : List (Event F7) :=
  [.initiatePhases fun _ => 0, .commitmentMessage 1 (pointsBytes [(2 : F7)]),
    .shareMessage 1 2 (toRepr (2 : F7)) [], .resume 2 fun _ => 0, .resume 2 fun _ => 0,
    .participantSet 1 [1]]

theorem selection_stays_frozen_orderly : ∃ node : DKGNode F7 F7,
    DKGNode.new 2 1 2 0 .dealerReceiver = .ok node ∧
      (run step (start node false continuingParams [1, 2] [1, 2] false)
        orderlyEvents).node.computeSecretShare = .ok ⟨2, 2⟩ ∧
      (run step (start node false continuingParams [1, 2] [1, 2] false)
        orderlyEvents).node.computeSecretShare =
        (run step (start node false continuingParams [1, 2] [1, 2] false)
          orderlyEvents).node.secretShareOver (sortDedup [1]) := by
  have hnew : DKGNode.new 2 1 2 0 .dealerReceiver =
      .ok (.blank 2 1 2 0 .dealerReceiver : DKGNode F7 F7) := rfl
  refine ⟨_, hnew, by decide +kernel, ?_⟩
  generalize hs : start _ false continuingParams [1, 2] [1, 2] false = s
  have hnone : ∀ k < 6, (run step s (orderlyEvents.take k)).selectedDealers = none := by
    rw [← hs]
    decide +kernel
  have hkeep : Along step KeepsSelection s (orderlyEvents ++ []) := by
    refine ⟨?_, ?_, ?_, ?_, ?_, ?_, trivial⟩
    all_goals intro _ _ selected hsome
    · exact absurd (hsome.symm.trans (hnone 0 (by decide))) (by simp)
    · exact absurd (hsome.symm.trans (hnone 1 (by decide))) (by simp)
    · exact absurd (hsome.symm.trans (hnone 2 (by decide))) (by simp)
    · exact absurd (hsome.symm.trans (hnone 3 (by decide))) (by simp)
    · exact absurd (hsome.symm.trans (hnone 4 (by decide))) (by simp)
    · exact absurd (hsome.symm.trans (hnone 5 (by decide))) (by simp)
  subst hs
  have hfrozen := selection_stays_frozen (.inr rfl) hnew false continuingParams [1, 2] [1, 2] false
    hkeep (by decide +kernel : _ = some [1])
  rw [List.append_nil] at hfrozen
  exact hfrozen.2.1

/-- The commitment handler has released the lock before its generation, and everything from
dealer 1 and the selection of dealer 1 arrive in between. -/
def overtakenEvents : List (Event F7) :=
  [.commitmentMessage 1 (pointsBytes [(2 : F7)]), .shareMessage 1 2 (toRepr (2 : F7)) [],
    .resume 1 fun _ => 0, .resume 1 fun _ => 0, .participantSet 1 [1], .resume 0 fun _ => 0]

/-- The node then computes over both dealers although only dealer 1 is selected. -/
theorem selection_unfrozen_of_overtaken : ∃ node : DKGNode F7 F7,
    DKGNode.new 2 1 2 0 .dealerReceiver = .ok node ∧
      (run step (start node false continuingParams [1, 2] [1, 2] false)
        (overtakenEvents.take 5)).selectedDealers = some [1] ∧
      (run step (start node false continuingParams [1, 2] [1, 2] false)
        overtakenEvents).selectedDealers = some [1] ∧
      (run step (start node false continuingParams [1, 2] [1, 2] false)
        overtakenEvents).node.computeSecretShare = .ok ⟨2, 1⟩ ∧
      (run step (start node false continuingParams [1, 2] [1, 2] false)
        overtakenEvents).node.secretShareOver [1] = .ok ⟨2, 2⟩ ∧
      (run step (start node false continuingParams [1, 2] [1, 2] false)
        overtakenEvents).node.secretShareOver [1, 2] = .ok ⟨2, 1⟩ := by
  refine ⟨_, rfl, ?_, ?_, ?_, ?_, ?_⟩
  all_goals decide +kernel

end Orbis.Node.Dkg.ReshareSession
