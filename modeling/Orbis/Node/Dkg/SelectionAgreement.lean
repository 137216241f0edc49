import Orbis.Node.Dkg.FrozenSelection

/-!
# The new committee agrees on the selected dealers

New member 1 counts the acknowledgements and freezes a set of dealers; every member checks the set
against the shares it has accepted itself.  In a run of the committee every member takes any steps
of its own, on whatever the dealers send; acknowledgements reach the selector in any order and any
number of times; and the frozen set reaches any member at any time after the freeze.  The transport
authenticates who acknowledges and who publishes the set: an honest member's acknowledgement is one
that it has sent, and any other member acknowledges what it likes, in its own name.
-/

namespace Orbis.Node.Dkg.ReshareSession

open Orbis.Crypto Orbis.Crypto.Dkg Orbis.Data Orbis.Transition

variable {F E : Type}

/-! ## The committee -/

inductive Action (F : Type) where
  | own (member : ℕ) (event : Event F)
  /-- An acknowledgement reaches the selector. -/
  | ack (receiverNodeId dealerId : ℕ)
  /-- The selector's set reaches a member. -/
  | publish (member : ℕ)

abbrev Committee (F E : Type) := ℕ → ReshareSession F E

namespace Committee

/-- The member has sent the acknowledgement, if it is honest. -/
def acknowledges (honest : ℕ → Bool) (members : Committee F E)
    (receiverNodeId dealerId : ℕ) : Prop :=
  honest receiverNodeId → dealerId ∈ (members receiverNodeId).validShareDealers

instance (honest : ℕ → Bool) (members : Committee F E) (receiverNodeId dealerId : ℕ) :
    Decidable (members.acknowledges honest receiverNodeId dealerId) :=
  inferInstanceAs (Decidable (honest receiverNodeId → _))

/-- An action that cannot happen leaves the committee as it is. -/
def step [Field F] [AddCommGroup E] [Module F E] [DecidableEq E] [Curve E] [Repr32 F] [Repr32 E]
    (honest : ℕ → Bool) (members : Committee F E) : Action F → Committee F E
  | .own j event =>
    if event.isOwn then Function.update members j ((members j).step event) else members
  | .ack receiverNodeId dealerId =>
    if members.acknowledges honest receiverNodeId dealerId then
      Function.update members 1 ((members 1).step (.shareAck receiverNodeId dealerId))
    else members
  | .publish j =>
    match (members 1).selectedDealers with
    | none => members
    | some selected =>
      Function.update members j ((members j).step (.participantSet 1 selected))

end Committee

/-! ## What a step of a member can do -/

theorem handleReshareParticipantSet_steady (s : ReshareSession F E) (fromNodeId : ℕ)
    (selected : List ℕ) : Steady s (s.handleReshareParticipantSet fromNodeId selected).1 ∧
      (s.handleReshareParticipantSet fromNodeId selected).1.shareAcks = s.shareAcks := by
  unfold handleReshareParticipantSet
  split
  · exact ⟨.refl s, rfl⟩
  · exact ⟨.refl s, rfl⟩
  · exact applySelection_steady s selected

theorem recordAck_steady (s : ReshareSession F E) (receiverNodeId dealerId : ℕ) :
    Steady s (s.recordAck receiverNodeId dealerId) :=
  ⟨rfl, rfl, rfl, rfl, rfl, rfl, fun _ hd => hd, fun _ _ hack => .inl hack⟩

theorem freezeSelection_steady (s : ReshareSession F E) :
    Steady s s.freezeSelection.1 ∧ s.freezeSelection.1.shareAcks = s.shareAcks := by
  unfold freezeSelection
  split
  · exact applySelection_steady s _
  · exact ⟨.refl s, rfl⟩

theorem handleReshareShareAck_steady (s : ReshareSession F E) (receiverNodeId dealerId : ℕ) :
    Steady s (s.handleReshareShareAck receiverNodeId dealerId).1 := by
  rcases handleReshareShareAck_eq s receiverNodeId dealerId with heq | ⟨-, heq⟩
  · rw [heq]
    exact .refl s
  · rw [heq]
    exact (recordAck_steady s receiverNodeId dealerId).trans (freezeSelection_steady _).1

theorem step_steady [Field F] [AddCommGroup E] [Module F E] [DecidableEq E] [Curve E] [Repr32 F]
    [Repr32 E] (s : ReshareSession F E) (event : Event F) : Steady s (s.step event) := by
  by_cases hown : event.isOwn
  · rcases own_cases s hown with hs | ⟨-, -, hs⟩ | ⟨k, r, d, -, heq⟩
    · exact hs.toSteady
    · exact hs.toSteady
    · rw [heq]
      exact (idle_eraseIdx s k).toSteady.trans (handleReshareShareAck_steady _ r d)
  · cases event with
    | participantSet fromNodeId selected =>
      exact (handleReshareParticipantSet_steady s fromNodeId selected).1
    | shareAck receiverNodeId dealerId =>
      exact handleReshareShareAck_steady s receiverNodeId dealerId
    | _ => exact absurd rfl hown

/-! ## The selector's count -/

/-- The set has the old threshold of active old members. -/
structure Proper (s : ReshareSession F E) (selected : List ℕ) : Prop where
  length : selected.length = s.node.threshold
  nonempty : selected ≠ []
  nodup : selected.Nodup
  range : ∀ d ∈ selected, d ≠ 0 ∧ d ≤ asU32 s.node.totalNodes
  le : ∀ d ∈ selected, d ≤ s.node.totalNodes
  active : ∀ d ∈ selected, d ∈ s.activeDealers

/-- Every member of the new committee has acknowledged each of the dealers. -/
structure Acknowledged (s : ReshareSession F E) (selected : List ℕ) : Prop
    extends Proper s selected where
  acks : ∀ d ∈ selected, ∀ r, 1 ≤ r → r ≤ s.params.newTotalNodes → r ∈ s.acksOf d

/-- `heard r d` says that an acknowledgement of `d` in the name of `r` can reach the selector. -/
structure Tally (heard : ℕ → ℕ → Prop) (s : ReshareSession F E) : Prop where
  nodup : ∀ d, (s.acksOf d).Nodup
  counted : ∀ d, ∀ r ∈ s.acksOf d, 1 ≤ r ∧ r ≤ s.params.newTotalNodes ∧ d ≤ s.node.totalNodes ∧
    d ∈ s.activeDealers ∧ heard r d
  frozen : ∀ selected, s.selectedDealers = some selected → Acknowledged s selected

variable {heard heard' : ℕ → ℕ → Prop} {s s' : ReshareSession F E} {selected : List ℕ}

theorem Proper.of_eq (h : Proper s selected) (hthreshold : s'.node.threshold = s.node.threshold)
    (htotal : s'.node.totalNodes = s.node.totalNodes)
    (hactive : s'.activeDealers = s.activeDealers) : Proper s' selected where
  length := h.length.trans hthreshold.symm
  nonempty := h.nonempty
  nodup := h.nodup
  range := htotal ▸ h.range
  le := htotal ▸ h.le
  active := hactive ▸ h.active

theorem Acknowledged.steady (h : Acknowledged s selected) (hs : Steady s s')
    (hacks : ∀ d, ∀ r ∈ s.acksOf d, r ∈ s'.acksOf d) : Acknowledged s' selected where
  toProper := h.toProper.of_eq hs.threshold hs.totalNodes hs.activeDealers
  acks d hd r hr hle := hacks d r (h.acks d hd r hr (hs.newTotalNodes ▸ hle))

theorem Tally.mono (h : Tally heard s) (himp : ∀ r d, heard r d → heard' r d) :
    Tally heard' s where
  nodup := h.nodup
  counted d r hr := by
    obtain ⟨hpos, hle, hd, hactive, hheard⟩ := h.counted d r hr
    exact ⟨hpos, hle, hd, hactive, himp r d hheard⟩
  frozen := h.frozen

theorem Tally.quiet (h : Tally heard s) (hs : Quiet s s') : Tally heard s' := by
  have hacks : ∀ d, s'.acksOf d = s.acksOf d := fun d => by rw [acksOf, acksOf, hs.shareAcks]
  refine ⟨fun d => hacks d ▸ h.nodup d, fun d r hr => ?_, fun selected hselected => ?_⟩
  · rw [hs.newTotalNodes, hs.totalNodes, hs.activeDealers]
    exact h.counted d r (hacks d ▸ hr)
  · rw [hs.selectedDealers] at hselected
    exact (h.frozen selected hselected).steady hs.toSteady fun d r hr => (hacks d).symm ▸ hr

theorem acksOf_recordAck (s : ReshareSession F E) (receiverNodeId dealerId d : ℕ) :
    (s.recordAck receiverNodeId dealerId).acksOf d =
      if d = dealerId then s.acksOf dealerId ++ [receiverNodeId] else s.acksOf d := by
  unfold acksOf recordAck
  split
  · next hd => rw [hd, AList.lookup_insert, Option.getD_some, acksOf]
  · next hd => rw [AList.lookup_insert_ne hd]

theorem Tally.recordAck (h : Tally heard s) {receiverNodeId dealerId : ℕ}
    (hack : Countable s receiverNodeId dealerId) (hheard : heard receiverNodeId dealerId) :
    Tally heard (s.recordAck receiverNodeId dealerId) := by
  refine ⟨fun d => ?_, fun d r hr => ?_, fun selected hselected => ?_⟩
  · rw [acksOf_recordAck]
    split
    · rw [List.nodup_append]
      refine ⟨h.nodup dealerId, List.nodup_singleton _, fun a ha b hb => ?_⟩
      rw [List.mem_singleton.mp hb]
      exact ne_of_mem_of_not_mem ha hack.new
    · exact h.nodup d
  · rw [acksOf_recordAck] at hr
    split at hr
    · next hd =>
        subst hd
        rcases List.mem_append.mp hr with hr | hr
        · exact h.counted d r hr
        · rw [List.mem_singleton.mp hr]
          exact ⟨hack.receiver_pos, hack.receiver_le, hack.dealer_le, hack.active, hheard⟩
    · exact h.counted d r hr
  · refine (h.frozen selected hselected).steady (recordAck_steady s _ _) fun d r hr => ?_
    rw [acksOf_recordAck]
    split
    · next hd => exact List.mem_append_left _ (hd ▸ hr)
    · exact hr

theorem Tally.complete (h : Tally heard s) (hpos : 1 ≤ s.params.newTotalNodes) {d : ℕ}
    (hd : d ∈ s.completeDealers) : d ≤ s.node.totalNodes ∧ d ∈ s.activeDealers ∧
      ∀ r, 1 ≤ r → r ≤ s.params.newTotalNodes → r ∈ s.acksOf d := by
  rw [completeDealers, List.mem_insertionSort, List.mem_map] at hd
  obtain ⟨entry, hentry, rfl⟩ := hd
  obtain ⟨hmem, hlen⟩ := List.mem_filter.mp hentry
  have hacks : s.acksOf entry.1 = entry.2 := by
    rw [acksOf, lookup_of_mem_entries hmem, Option.getD_some]
  have hlength : (s.acksOf entry.1).length = s.params.newTotalNodes := by
    rw [hacks]
    exact of_decide_eq_true hlen
  have hall : ∀ r, 1 ≤ r → r ≤ s.params.newTotalNodes → r ∈ s.acksOf entry.1 := by
    intro r hr hle
    refine mem_of_nodup_of_card_le (h.nodup entry.1) (fun a ha => ?_) ?_
      (Finset.mem_Icc.mpr ⟨hr, hle⟩)
    · obtain ⟨ha1, ha2, -⟩ := h.counted entry.1 a ha
      exact Finset.mem_Icc.mpr ⟨ha1, ha2⟩
    · rw [Nat.card_Icc, hlength]
      omega
  obtain ⟨-, -, hle, hactive, -⟩ := h.counted entry.1 1 (hall 1 le_rfl hpos)
  exact ⟨hle, hactive, hall⟩

theorem Tally.freezeSelection (h : Tally heard s) (hpos : 1 ≤ s.params.newTotalNodes) :
    Tally heard s.freezeSelection.1 := by
  unfold ReshareSession.freezeSelection
  split
  swap
  · exact h
  rcases s.applySelection_eq (s.completeDealers.take s.node.threshold) with heq | ⟨hacc, heq⟩
  · rwa [heq]
  rw [heq]
  refine ⟨h.nodup, h.counted, fun selected hselected => ?_⟩
  cases hselected
  have hcomplete : ∀ d ∈ s.completeDealers.take s.node.threshold, d ≤ s.node.totalNodes ∧
      d ∈ s.activeDealers ∧ ∀ r, 1 ≤ r → r ≤ s.params.newTotalNodes → r ∈ s.acksOf d :=
    fun d hd => h.complete hpos (List.mem_of_mem_take hd)
  exact
    { length := le_antisymm (List.length_take_le _ _) hacc.enough
      nonempty := hacc.nonempty
      nodup := hacc.nodup
      range := hacc.range
      le := fun d hd => (hcomplete d hd).1
      active := fun d hd => (hcomplete d hd).2.1
      acks := fun d hd => (hcomplete d hd).2.2 }

theorem Tally.handleReshareShareAck (h : Tally heard s) {receiverNodeId dealerId : ℕ}
    (hheard : heard receiverNodeId dealerId) :
    Tally heard (s.handleReshareShareAck receiverNodeId dealerId).1 := by
  rcases handleReshareShareAck_eq s receiverNodeId dealerId with heq | ⟨hack, heq⟩
  · rwa [heq]
  · rw [heq]
    exact (h.recordAck hack hheard).freezeSelection (hack.receiver_pos.trans hack.receiver_le)

/-! ## Agreement -/

/-- A session of member `j`. -/
structure Member (threshold totalNodes newTotalNodes : ℕ) (activeDealers : List ℕ) (j : ℕ)
    (s : ReshareSession F E) : Prop where
  role : s.node.role = .receiver ∨ s.node.role = .dealerReceiver
  threshold : s.node.threshold = threshold
  totalNodes : s.node.totalNodes = totalNodes
  activeDealers : s.activeDealers = activeDealers
  newNodeId : s.params.newNodeId = some j
  newTotalNodes : s.params.newTotalNodes = newTotalNodes

theorem Member.steady {threshold totalNodes newTotalNodes : ℕ} {activeDealers : List ℕ} {j : ℕ}
    (h : Member threshold totalNodes newTotalNodes activeDealers j s) (hs : Steady s s') :
    Member threshold totalNodes newTotalNodes activeDealers j s' :=
  ⟨hs.role ▸ h.role, hs.threshold.trans h.threshold, hs.totalNodes.trans h.totalNodes,
    hs.activeDealers.trans h.activeDealers, hs.newNodeId.trans h.newNodeId,
    hs.newTotalNodes.trans h.newTotalNodes⟩

variable {threshold totalNodes newTotalNodes : ℕ} {activeDealers : List ℕ} {honest : ℕ → Bool}
  {members : Committee F E} {j : ℕ}

variable (threshold totalNodes newTotalNodes activeDealers honest) in
structure Agreed (members : Committee F E) : Prop where
  member : ∀ j, honest j → Member threshold totalNodes newTotalNodes activeDealers j (members j)
  tally : Tally (members.acknowledges honest) (members 1)
  own : ∀ r d, .shareAck r d ∈ (members 1).handlers → r = 1 ∧ d ∈ (members 1).validShareDealers
  same : ∀ j, honest j → ∀ selected, (members j).selectedDealers = some selected →
    (members 1).selectedDealers = some selected

/-- A set that reaches a session that has one changes nothing. -/
theorem quiet_participantSet (hselected : s.selectedDealers ≠ none) (fromNodeId : ℕ)
    (selected : List ℕ) : Quiet s (s.handleReshareParticipantSet fromNodeId selected).1 := by
  obtain ⟨hsteady, hacks⟩ := handleReshareParticipantSet_steady s fromNodeId selected
  refine ⟨hsteady, hacks, ?_⟩
  rcases handleReshareParticipantSet_cases s fromNodeId selected with hs | hs
  · exact hs.selectedDealers
  · exact absurd hs.fresh hselected

/-- The frozen set, when it reaches a member that has acknowledged its dealers. -/
theorem validateReshareParticipantSet_of_proper
    (hrole : s.node.role = .receiver ∨ s.node.role = .dealerReceiver)
    (hset : Proper s selected) (hvalid : ∀ d ∈ selected, d ∈ s.validShareDealers)
    (hselected : s.selectedDealers = none ∨ s.selectedDealers = some selected) :
    s.validateReshareParticipantSet 1 selected = .ok s.selectedDealers.isNone := by
  have hstandard : s.node.role ≠ .standard := by
    rcases hrole with hrole | hrole
    · simp [hrole]
    · simp [hrole]
  have hdealers : selected.forM (s.validateSelectedDealer true) = .ok () := by
    apply forM_eq_ok
    intro d hd
    have hrange : ¬(d = 0 ∨ d > s.node.totalNodes) := by
      have hpos := (hset.range d hd).1
      have hle := hset.le d hd
      omega
    simp only [validateSelectedDealer, hrange, if_false, hset.active d hd, not_true_eq_false,
      hvalid d hd, and_false]
  have haccepts : s.node.AcceptsSelection selected :=
    ⟨hstandard, hset.nonempty, hset.nodup, hset.range, hset.length.ge⟩
  unfold validateReshareParticipantSet
  simp only [ne_eq, not_true_eq_false, if_false, hstandard, hset.length,
    sortDedup_length_eq_iff.mpr hset.nodup, hrole, decide_true, hdealers, ok_bind]
  rcases hselected with hselected | hselected
  · simp only [hselected, DKGNode.selectReshareParticipants_of_accepts haccepts]
    rfl
  · simp only [hselected, sortDedup_of_nodup hset.nodup, if_true]
    rfl

/-- A session of new member `j` right after its creation. -/
def Begins (isPet : Bool) (threshold totalNodes newTotalNodes sessionId : ℕ)
    (activeDealers : List ℕ) (j : ℕ) (s : ReshareSession F E) : Prop :=
  ∃ id role node params routedNewIds isSelector,
    (role = .receiver ∨ role = .dealerReceiver) ∧
      DKGNode.new id threshold totalNodes sessionId role = .ok node ∧
      params.newNodeId = some j ∧ params.newTotalNodes = newTotalNodes ∧
      s = start node isPet params activeDealers routedNewIds isSelector

theorem agreed_of_begins {isPet : Bool} {sessionId : ℕ} (hone : honest 1)
    (hmembers : ∀ j, honest j →
      Begins isPet threshold totalNodes newTotalNodes sessionId activeDealers j (members j)) :
    Agreed threshold totalNodes newTotalNodes activeDealers honest members := by
  refine ⟨fun j hj => ?_, ?_, ?_, fun j hj selected hselected => ?_⟩
  · obtain ⟨id, role, node, params, routes, isSelector, hrole, hnew, hid, hsize, heq⟩ :=
      hmembers j hj
    have hnode := (DKGNode.new_eq_ok.mp hnew).2
    rw [heq]
    subst hnode
    exact ⟨hrole, rfl, rfl, rfl, hid, hsize⟩
  · obtain ⟨id, role, node, params, routes, isSelector, -, -, -, -, heq⟩ := hmembers 1 hone
    have hacks : ∀ d, (members 1).acksOf d = [] := fun d => by rw [heq]; rfl
    refine ⟨fun d => ?_, fun d r hr => ?_, fun selected hselected => ?_⟩
    · rw [hacks d]
      exact List.nodup_nil
    · rw [hacks d] at hr
      cases hr
    · rw [heq] at hselected
      cases hselected
  · obtain ⟨id, role, node, params, routes, isSelector, -, -, -, -, heq⟩ := hmembers 1 hone
    intro r d hack
    rw [heq] at hack
    cases hack
  · obtain ⟨id, role, node, params, routes, isSelector, -, -, -, -, heq⟩ := hmembers j hj
    rw [heq] at hselected
    cases hselected

variable [Field F] [AddCommGroup E] [Module F E] [DecidableEq E] [Curve E] [Repr32 F] [Repr32 E]

theorem steady_update (event : Event F) (i : ℕ) :
    Steady (members i) (Function.update members j ((members j).step event) i) := by
  by_cases hij : i = j
  · subst hij
    rw [Function.update_self]
    exact step_steady _ _
  · rw [Function.update_of_ne hij]
    exact .refl _

theorem selectedDealers_update (event : Event F) {i : ℕ}
    (h : (members i).selectedDealers = some selected) :
    (Function.update members j ((members j).step event) i).selectedDealers = some selected := by
  by_cases hij : i = j
  · subst hij
    rw [Function.update_self]
    exact selectedDealers_step h event
  · rwa [Function.update_of_ne hij]

/-- A member takes a step, in which the selector keeps its count, and another member selects nothing
but what the selector has selected. -/
theorem Agreed.update (hone : honest 1)
    (h : Agreed threshold totalNodes newTotalNodes activeDealers honest members) {event : Event F}
    (htally : j = 1 → Tally (members.acknowledges honest) ((members j).step event))
    (hselected : j ≠ 1 → honest j → ∀ selected,
      ((members j).step event).selectedDealers = some selected →
        (members 1).selectedDealers = some selected) :
    Agreed threshold totalNodes newTotalNodes activeDealers honest
      (Function.update members j ((members j).step event)) := by
  have hs : ∀ i, Steady (members i) (Function.update members j ((members j).step event) i) :=
    steady_update event
  refine ⟨fun i hi => (h.member i hi).steady (hs i), ?_, fun r d hack => ?_,
    fun i hi selected hi' => ?_⟩
  · have hmono := fun r d (hack : members.acknowledges honest r d) (hr : honest r) =>
      (hs r).accepted d (hack hr)
    by_cases hj : j = 1
    · subst hj
      rw [Function.update_self]
      exact (htally rfl).mono hmono
    · rw [Function.update_of_ne (Ne.symm hj)]
      exact h.tally.mono hmono
  · rcases (hs 1).acks r d hack with hack | ⟨hr, hd⟩
    · obtain ⟨hr, hd⟩ := h.own r d hack
      exact ⟨hr, (hs 1).accepted d hd⟩
    · rw [((h.member 1 hone).steady (hs 1)).newNodeId] at hr
      cases hr
      exact ⟨rfl, hd⟩
  · by_cases hij : i = j
    · subst hij
      by_cases hi1 : i = 1
      · subst hi1
        exact hi'
      · rw [Function.update_self] at hi'
        rw [Function.update_of_ne (Ne.symm hi1)]
        exact hselected hi1 hi selected hi'
    · rw [Function.update_of_ne hij] at hi'
      exact selectedDealers_update event (h.same i hi selected hi')

theorem selectedDealers_own (hnew : s.params.newNodeId = some j) (hj : j ≠ 1) {event : Event F}
    (hown : event.isOwn) : (s.step event).selectedDealers = s.selectedDealers := by
  rcases own_cases s hown with hs | ⟨-, -, hs⟩ | ⟨k, r, d, -, heq⟩
  · exact hs.selectedDealers
  · exact hs.selectedDealers
  · rw [heq]
    rcases handleReshareShareAck_eq { s with handlers := s.handlers.eraseIdx k } r d with
      heq | ⟨hack, -⟩
    · rw [heq]
    · have hselector : s.params.newNodeId.getD 0 = 1 := hack.selector
      rw [hnew] at hselector
      exact absurd hselector hj

theorem Agreed.step (hone : honest 1)
    (h : Agreed threshold totalNodes newTotalNodes activeDealers honest members)
    (action : Action F) :
    Agreed threshold totalNodes newTotalNodes activeDealers honest
      (members.step honest action) := by
  unfold Committee.step
  cases action with
  | own j event =>
    simp only
    split
    swap
    · exact h
    next hown =>
      apply h.update hone
      · rintro rfl
        rcases own_cases (members 1) hown with hs | ⟨-, -, hs⟩ | ⟨k, r, d, hack, heq⟩
        · exact h.tally.quiet hs.toQuiet
        · exact h.tally.quiet hs.toQuiet
        · rw [heq]
          obtain ⟨rfl, hd⟩ := h.own r d hack
          exact (h.tally.quiet (idle_eraseIdx _ k).toQuiet).handleReshareShareAck fun _ => hd
      · intro hj hhonest selected hselected
        rw [selectedDealers_own (h.member j hhonest).newNodeId hj hown] at hselected
        exact h.same j hhonest selected hselected
  | ack receiverNodeId dealerId =>
    simp only
    split
    · next hack => exact h.update hone (fun _ => h.tally.handleReshareShareAck hack) (absurd rfl)
    · exact h
  | publish j =>
    simp only
    split
    · exact h
    next selected hselected =>
      apply h.update hone
      · rintro rfl
        exact h.tally.quiet (quiet_participantSet (by rw [hselected]; simp) 1 selected)
      · intro _ hhonest selected' hselected'
        rcases handleReshareParticipantSet_cases (members j) 1 selected with hs | hs
        · exact h.same j hhonest selected' (hs.selectedDealers.symm.trans hselected')
        · have heq : some selected = some selected' := hs.selectedDealers.symm.trans hselected'
          rw [← heq]
          exact hselected

theorem Agreed.accepts (h : Agreed threshold totalNodes newTotalNodes activeDealers honest members)
    (hone : honest 1) (hj : honest j) (hpos : 1 ≤ j) (hle : j ≤ newTotalNodes)
    (hfrozen : (members 1).selectedDealers = some selected) :
    ((members j).handle (.participantSet 1 selected)).2 = .ok () ∧
      ((members j).step (.participantSet 1 selected)).selectedDealers = some selected ∧
      ((members j).selectedDealers = none →
        ((members j).step (.participantSet 1 selected)).node.selectedReshareParticipants =
          some (sortDedup selected)) := by
  have hmember := h.member j hj
  have hselector := h.member 1 hone
  have hset := h.tally.frozen selected hfrozen
  have hproper : Proper (members j) selected :=
    hset.toProper.of_eq (hmember.threshold.trans hselector.threshold.symm)
      (hmember.totalNodes.trans hselector.totalNodes.symm)
      (hmember.activeDealers.trans hselector.activeDealers.symm)
  -- The member has acknowledged the dealers of the set, so it has accepted their shares.
  have hvalid : ∀ d ∈ selected, d ∈ (members j).validShareDealers := by
    intro d hd
    have hack := hset.acks d hd j hpos (hselector.newTotalNodes ▸ hle)
    exact (h.tally.counted d j hack).2.2.2.2 hj
  have hselected : (members j).selectedDealers = none ∨
      (members j).selectedDealers = some selected := by
    cases hmine : (members j).selectedDealers with
    | none => exact .inl rfl
    | some mine => exact .inr ((h.same j hj mine hmine).symm.trans hfrozen)
  have hvalidate := validateReshareParticipantSet_of_proper hmember.role hproper hvalid hselected
  unfold ReshareSession.step handle handleReshareParticipantSet
  rcases hselected with hselected | hselected
  · rw [hselected] at hvalidate
    have hstandard : (members j).node.role ≠ .standard := by
      rcases hmember.role with hrole | hrole
      · simp [hrole]
      · simp [hrole]
    have haccepts : (members j).node.AcceptsSelection selected :=
      ⟨hstandard, hproper.nonempty, hproper.nodup, hproper.range, hproper.length.ge⟩
    simp only [hvalidate, Option.isNone_none, applySelection,
      DKGNode.selectReshareParticipants_of_accepts haccepts, implies_true, and_self]
  · rw [hselected] at hvalidate
    simp only [hvalidate, Option.isNone_some, hselected, reduceCtorEq, false_implies, and_self]

theorem selected_stays (h : (members 1).selectedDealers = some selected) (action : Action F) :
    (members.step honest action 1).selectedDealers = some selected := by
  unfold Committee.step
  cases action with
  | own j event =>
    simp only
    split
    · exact selectedDealers_update event h
    · exact h
  | ack receiverNodeId dealerId =>
    simp only
    split
    · exact selectedDealers_update _ h
    · exact h
  | publish j =>
    simp only [h]
    exact selectedDealers_update _ h

/-- The frozen set of an honest selector stays, has the old threshold of distinct active old members
whom every new member has acknowledged, and is the only set an honest member can have; whenever it
reaches an honest member, the member accepts it. -/
theorem selection_agreement {honest : ℕ → Bool} (hone : honest 1) {isPet : Bool}
    {threshold totalNodes newTotalNodes sessionId : ℕ} {activeDealers : List ℕ}
    {members : Committee F E}
    (hmembers : ∀ j, honest j → (1 ≤ j ∧ j ≤ newTotalNodes) ∧
      Begins isPet threshold totalNodes newTotalNodes sessionId activeDealers j (members j))
    {before : List (Action F)} {selected : List ℕ}
    (hfrozen : (run (Committee.step honest) members before 1).selectedDealers = some selected)
    (after : List (Action F)) :
    let world := run (Committee.step honest) members (before ++ after)
    (world 1).selectedDealers = some selected ∧ selected.length = threshold ∧ selected.Nodup ∧
      (∀ d ∈ selected, 1 ≤ d ∧ d ≤ totalNodes ∧ d ∈ activeDealers ∧
        ∀ r, 1 ≤ r → r ≤ newTotalNodes → r ∈ (world 1).acksOf d) ∧
      ∀ j, honest j →
        ((world j).selectedDealers = none ∨ (world j).selectedDealers = some selected) ∧
        ((world j).handle (.participantSet 1 selected)).2 = .ok () ∧
        ((world j).step (.participantSet 1 selected)).selectedDealers = some selected ∧
        ((world j).selectedDealers = none →
          ((world j).step (.participantSet 1 selected)).node.selectedReshareParticipants =
            some (sortDedup selected)) := by
  intro world
  have hagreed : Agreed threshold totalNodes newTotalNodes activeDealers honest world :=
    run_induction (fun _ action h => h.step hone action)
      (agreed_of_begins hone fun j hj => (hmembers j hj).2) _
  have hstays : (world 1).selectedDealers = some selected := by
    have hstep : ∀ (members : Committee F E) (action : Action F),
        (members 1).selectedDealers = some selected →
        (members.step honest action 1).selectedDealers = some selected :=
      fun _ action h => selected_stays h action
    change (run (Committee.step honest) members (before ++ after) 1).selectedDealers = _
    rw [run_append]
    exact run_induction hstep hfrozen after
  have hselector := hagreed.member 1 hone
  have hset := hagreed.tally.frozen selected hstays
  refine ⟨hstays, hset.length.trans hselector.threshold, hset.nodup, fun d hd => ?_, fun j hj => ?_⟩
  · refine ⟨Nat.one_le_iff_ne_zero.mpr (hset.range d hd).1, ?_, ?_, ?_⟩
    · rw [← hselector.totalNodes]
      exact hset.le d hd
    · rw [← hselector.activeDealers]
      exact hset.active d hd
    · rw [← hselector.newTotalNodes]
      exact hset.acks d hd
  · obtain ⟨⟨hpos, hle⟩, -⟩ := hmembers j hj
    refine ⟨?_, hagreed.accepts hone hj hpos hle hstays⟩
    cases hmine : (world j).selectedDealers with
    | none => exact .inl rfl
    | some mine => exact .inr ((hagreed.same j hj mine hmine).symm.trans hstays)

/-! Two new members, of whom none was in the old committee, and the old threshold is one.  Both
accept the share of dealer 1, and the second member's acknowledgement arrives twice. -/

def newcomer (j : ℕ) : ReshareSession F7 F7 :=
  start (.blank j 1 2 0 .receiver) false ⟨none, [1, 2], 1, 2, some j⟩ [1, 2] [1, 2] (j = 1)

def acceptDealer (j : ℕ) : List (Action F7) :=
  [.own j (.commitmentMessage 1 (pointsBytes [(2 : F7)])),
    .own j (.shareMessage 1 j (toRepr (2 : F7)) []), .own j (.resume 1 fun _ => 0),
    .own j (.resume 1 fun _ => 0)]

def newcomerActions : List (Action F7) :=
  acceptDealer 1 ++ [.own 1 (.resume 1 fun _ => 0)] ++ acceptDealer 2 ++ [.ack 2 1, .ack 2 1]

theorem selection_agreement_newcomers :
    let world := run (Committee.step fun j => j = 1 ∨ j = 2) newcomer newcomerActions
    (world 1).selectedDealers = some [1] ∧ (world 2).selectedDealers = none ∧
      ((world 2).handle (.participantSet 1 [1])).2 = .ok () ∧
      ((world 2).step (.participantSet 1 [1])).selectedDealers = some [1] := by
  have hbegins : ∀ j, (decide (j = 1 ∨ j = 2) : Bool) → (1 ≤ j ∧ j ≤ 2) ∧
      Begins false 1 2 2 0 [1, 2] j (newcomer j) := by
    intro j hj
    rcases of_decide_eq_true hj with rfl | rfl
    · exact ⟨by decide, 1, .receiver, _, _, _, _, .inl rfl, rfl, rfl, rfl, rfl⟩
    · exact ⟨by decide, 2, .receiver, _, _, _, _, .inl rfl, rfl, rfl, rfl, rfl⟩
  have hfrozen : (run (Committee.step fun j => j = 1 ∨ j = 2) newcomer
      newcomerActions 1).selectedDealers = some [1] := by decide +kernel
  have hfresh : (run (Committee.step fun j => j = 1 ∨ j = 2) newcomer
      newcomerActions 2).selectedDealers = none := by decide +kernel
  have hrun := selection_agreement (by decide) hbegins hfrozen []
  rw [List.append_nil] at hrun
  obtain ⟨-, -, -, -, hmembers⟩ := hrun
  obtain ⟨-, haccepts, hselected, -⟩ := hmembers 2 (by decide)
  exact ⟨hfrozen, hfresh, haccepts, hselected⟩

end Orbis.Node.Dkg.ReshareSession
