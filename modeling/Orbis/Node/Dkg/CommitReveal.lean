import Orbis.Node.Dkg.HashRound

/-!
# The hash round of a fresh ceremony

The triples of the handlers for the invariant and the relation of `HashRound`, and what follows for
every run: a recorded hash stays, every commitment that is counted has the recorded hash, the node
reveals its own commitment after it holds all hashes, and a commitment whose hash has arrived is
received.  The last needs that no commitment is parked late.
-/

namespace Orbis.Node.Dkg

open Orbis.Crypto Orbis.Crypto.Dkg Orbis.Data Orbis.Transition

section

variable {F E : Type} [Field F] [DecidableEq F] [AddCommGroup E] [Module F E] [DecidableEq E]
  [Curve E] [Repr32 F] [Repr32 E] [Sha256] {onTime : Set ℕ}

/-! ## Reading the session -/

theorem stable_grows (before : Session F E) :
    (hashRound onTime).Stable (Grows onTime before) :=
  fun _ _ _ hgrows hgrows' => hgrows.trans hgrows'

variable {pre : Session F E → Prop}

theorem triple_read {α β : Type} {post : β → Session F E → Prop} {g : Session F E → α}
    {f : α → HandlerM F E β} (hpre : (hashRound onTime).Stable pre)
    (h : ∀ before, Bound onTime before → pre before →
      (hashRound onTime).Triple (Grows onTime before) (f (g before)) post) :
    (hashRound onTime).Triple pre (inspect g >>= f) post := by
  have hread : (hashRound onTime).Triple pre (inspect g) fun a s =>
      ∃ before, Bound onTime before ∧ pre before ∧ a = g before ∧ Grows onTime before s := by
    refine triple_inspect hpre ?_ fun s hs hfact => ⟨s, hs, hfact, rfl, .refl s⟩
    rintro a s s' _ ⟨before, hbefore, hfact, ha, hgrows⟩ hgrows'
    exact ⟨before, hbefore, hfact, ha, hgrows.trans hgrows'⟩
  refine hread.bind fun a => ?_
  rintro s hs ⟨before, hbefore, hfact, rfl, hgrows⟩
  exact h before hbefore hfact s hs hgrows

/-! ## The phases -/

section Phases

variable {fact : Session F E → Prop} (hstable : (hashRound onTime).Stable fact)

include hstable

theorem triple_initiatePhase1Commitments (hready : ∀ s, fact s → s.kind.isFresh → RevealReady s) :
    (hashRound onTime).Triple fact initiatePhase1Commitments fun _ => fact := by
  refine triple_reveals ?_ hready hstable
  apply SameCommitments.dealingChanges.keeps_initiatePhase1Commitments
  exact fun s contribution => (SameInbox.beginChanges.sign s contribution).sameCommitments

theorem triple_runCommand (command : DkgCommand)
    (hready : command = .revealCommitment → ∀ s, fact s → s.kind.isFresh → RevealReady s) :
    (hashRound onTime).Triple fact (runCommand command) fun _ => fact := by
  cases command with
  | revealCommitment =>
    exact (triple_initiatePhase1Commitments hstable (hready rfl)).bind fun _ =>
      triple_quiet Quiet.shareSteps.checkAndTriggerPhase2 hstable
  | initiatePhase2Shares =>
    exact triple_quiet (Quiet.shareSteps.runAfterReveal .initiatePhase2Shares) hstable
  | ackValidReshareShare dealerId =>
    exact triple_quiet (Quiet.shareSteps.runAfterReveal (.ackValidReshareShare dealerId)) hstable
  | completePhase4 => exact triple_quiet (Quiet.shareSteps.runAfterReveal .completePhase4) hstable

/-- The reveal is commanded in a state in which it may happen, and it may still happen when the
command is run. -/
theorem triple_driveHashRecorded :
    (hashRound onTime).Triple fact (driveEvent runCommand .commitmentHashRecorded)
      fun _ => fact := by
  have hgranted : ∀ commands : List DkgCommand, (hashRound onTime).Stable fun s : Session F E =>
      fact s ∧ (.revealCommitment ∈ commands → s.kind.isFresh → RevealReady s) :=
    fun commands => hstable.and (stable_revealReady.imp)
  have hclaim : (hashRound onTime).Triple fact
      (locked fun (_ : Env F) (s : Session F E) =>
        ((s.claimTransition .commitmentHashRecorded).1,
          .ok (s.claimTransition .commitmentHashRecorded).2)) fun commands s =>
      fact s ∧ (.revealCommitment ∈ commands → s.kind.isFresh → RevealReady s) := by
    refine triple_locked hstable hgranted fun w s hs hfact _ => ?_
    have hquiet : Quiet s (s.claimTransition .commitmentHashRecorded).1 :=
      Quiet.dealingChanges.claimTransition s _
    have hgrows : Grows onTime s (s.claimTransition .commitmentHashRecorded).1 :=
      hquiet.same.grows
    refine ⟨hquiet.same.bound hs fun _ hnot => absurd hquiet.unrevealed hnot, hgrows, ?_⟩
    rintro commands hcommands
    cases hcommands
    refine ⟨hstable _ _ hs hfact hgrows, fun hmem hfresh => hgrows.revealReady ?_⟩
    rw [hgrows.kind] at hfresh
    exact revealReady_of_shouldReveal hs hfresh (shouldReveal_of_mem hmem)
  refine hclaim.bind fun commands => ?_
  refine Interference.Triple.mono (Interference.Triple.forM (hgranted commands) ?_)
    (fun _ _ h => h) fun _ _ _ h => h.1
  intro command hmem
  apply triple_runCommand (hgranted commands)
  rintro rfl s hs hfresh
  exact hs.2 hmem hfresh

theorem triple_initiatePhase0CommitmentHashes :
    (hashRound onTime).Triple fact initiatePhase0CommitmentHashes fun _ => fact := by
  have hc := Quiet.dealingChanges (F := F) (E := E)
  have hprepare : ∀ (w : Env F) (s : Session F E), Quiet s (s.prepareOwnHash w.rng).1 := by
    intro w s
    rcases prepareOwnHash_fst s w.rng with heq | heq
    · rw [heq]
      exact hc.refl s
    · rw [heq]
      exact hc.ensurePolynomial s w.rng
  have hbroadcast : ∀ s : Session F E, Quiet s { s with ownHashBroadcastComplete := true } :=
    fun s => ⟨(SameInbox.beginChanges.broadcastComplete s).sameCommitments, unrevealed_of_eq rfl⟩
  refine (triple_quiet (keeps_locked hc.refl hprepare) hstable).bind fun commitmentHash => ?_
  refine (triple_quiet (hc.keeps_update fun s => hc.updatePhase s _) hstable).bind fun _ => ?_
  refine (triple_quiet (hc.keeps_submitPublicContribution fun s origin now =>
    hc.sign s _ (by simp [PublicPayload.phase])) hstable).bind fun _ => ?_
  exact (triple_quiet (hc.keeps_update hbroadcast) hstable).bind fun _ =>
    triple_driveHashRecorded hstable

theorem triple_onBegin : (hashRound onTime).Triple fact onBegin fun _ => fact := by
  have hbegin : ∀ s : Session F E, Quiet s s.beginTransport.1 := by
    intro s
    refine ⟨(SameInbox.beginTransport s).sameCommitments, ?_⟩
    unfold Session.beginTransport
    split
    · exact unrevealed_of_eq rfl
    split <;> exact unrevealed_of_eq rfl
  refine (triple_quiet (keeps_locked Quiet.dealingChanges.refl fun _ s => hbegin s) hstable).bind
    fun begun => triple_onlyIf hstable fun _ => triple_read hstable fun before hbefore hfact => ?_
  have hgrown : (hashRound onTime).Stable fun s : Session F E => Grows onTime before s ∧ fact s :=
    (stable_grows before).and hstable
  have hrest : (hashRound onTime).Triple (fun s => Grows onTime before s ∧ fact s)
      (if before.kind.isFresh then initiatePhase0CommitmentHashes else initiatePhase1Commitments)
      fun _ s => Grows onTime before s ∧ fact s := by
    split
    next => exact triple_initiatePhase0CommitmentHashes hgrown
    next hfresh =>
      apply triple_initiatePhase1Commitments hgrown
      rintro s ⟨hgrows, -⟩ hfresh'
      rw [hgrows.kind] at hfresh'
      exact absurd hfresh' hfresh
  exact hrest.mono (fun s _ hgrows => ⟨hgrows, hstable before s hbefore hfact hgrows⟩)
    fun _ _ _ h => h.2

end Phases

/-! ## Commitments -/

variable {c : PolynomialCommitment E}

omit [Field F] [DecidableEq F] [Module F E] [Curve E] [Repr32 F] [Sha256] in
/-- The bytes that decode to the commitment are those that were hashed. -/
theorem pointsBytes_of_decodeCommitment [LawfulRepr32 E]
    {node : DKGNode F E} {isRefresh : Bool} {d : ℕ}
    {bytes : Bytes} (hlen : checkCommitmentLength bytes = .ok ())
    (h : decodeCommitment node isRefresh d bytes = .ok c) : pointsBytes c.coefficients = bytes := by
  obtain ⟨⟨-, hmultiple⟩, -⟩ := length_of_checkCommitmentLength hlen
  apply pointsBytes_of_readPoints (of_decodeCommitment h).1
  have hdiv := Nat.div_add_mod bytes.length 32
  simp only [g1CompressedSize] at hmultiple ⊢
  omega

/-- What the checks of a commitment establish; `known` says that its hash is there. -/
def PreparedAs (known : Prop) (d : ℕ) (s : Session F E) : PreparedCommitment E → Prop
  | .waitingForHash => ¬known
  | .ready c _ => Fits d c s

theorem triple_prepareCommitment [LawfulRepr32 E] {known : Prop} (d : ℕ) (bytes : Bytes) :
    (hashRound (F := F) (E := E) onTime).Triple (fun s => known → d ∈ s.receivedHashes)
      (prepareCommitment d bytes none) fun prepared s => PreparedAs known d s prepared := by
  refine Interference.Triple.bind_result fun _ hlen => ?_
  refine triple_read (Interference.Stable.imp (stable_mem_hashes d)) fun before hbefore hknown => ?_
  refine Interference.Triple.bind_result fun _ _ => ?_
  refine Interference.Triple.bind_result fun _ hmatch => ?_
  refine (triple_quiet (keeps_external Quiet.dealingChanges.refl) (stable_grows before)).bind
    fun _ => Interference.Triple.bind_result fun c hdecode => ?_
  have hbytes : pointsBytes c.coefficients = bytes := pointsBytes_of_decodeCommitment hlen hdecode
  have hmatch := require_eq_ok.mp hmatch
  have hexpected : (none <|> before.receivedHashes.lookup d) = before.receivedHashes.lookup d := rfl
  simp only [id, hexpected] at hmatch ⊢
  split
  next hwaiting =>
    refine Interference.Triple.pure (fun s _ _ hk => ?_) fun _ _ _ h _ => h
    have hsome := AList.lookup_isSome.mpr (hknown hk)
    rw [Option.isNone_iff_eq_none.mp hwaiting.2] at hsome
    cases hsome
  next hready =>
    refine Interference.Triple.pure (fun s _ hgrows hfresh => ?_) (stable_fits d c)
    rw [hgrows.kind] at hfresh
    obtain ⟨h, hlookup⟩ : ∃ h, before.receivedHashes.lookup d = some h := by
      apply Option.isSome_iff_exists.mp
      rw [← Option.not_isNone, Bool.not_eq_true']
      exact Bool.eq_false_iff.mpr fun hnone => hready ⟨hfresh, hnone⟩
    rcases hmatch with hnot | hall
    · exact absurd hfresh hnot
    rw [hlookup, Option.all_some, decide_eq_true_eq] at hall
    rw [hgrows.hashes d h hlookup, hall, hgrows.sessionId, hbytes]

/-- The commitment has been received, or it is parked because its hash is missing. -/
def Arrived (known : Prop) (d : ℕ) (s : Session F E) : Prop :=
  d ∈ s.node.receivedCommitments ∨ (¬known ∧ d ∈ s.pendingCommitments)

theorem stable_arrived (known : Prop) (d : ℕ) :
    (hashRound (F := F) (E := E) onTime).Stable (Arrived known d) := by
  rintro s s' _ (hreceived | ⟨hnot, hparked⟩) hgrows
  · exact .inl (hgrows.mem_received hreceived)
  · rcases hgrows.mem_parked hparked with h | h
    · exact .inr ⟨hnot, h⟩
    · exact .inl h

theorem triple_afterCommitment {fact : Session F E → Prop}
    (hstable : (hashRound onTime).Stable fact) {needToGenerate : Bool}
    (hneed : needToGenerate → ∀ s, fact s → ¬s.kind.isFresh) (d : ℕ) (isReshare : Bool) :
    (hashRound onTime).Triple fact (afterCommitment d needToGenerate isReshare)
      fun _ => fact := by
  have hsteps := Quiet.shareSteps (F := F) (E := E)
  have hstart : needToGenerate → (hashRound onTime).Triple fact startLazily fun _ => fact := by
    intro htrue
    refine (triple_quiet (keeps_locked hsteps.refl fun w s => ?_) hstable).bind fun generated =>
      triple_onlyIf hstable fun _ => (triple_quiet (hsteps.inspect _) hstable).bind fun _ =>
        triple_initiatePhase1Commitments hstable fun s hs hfresh =>
          absurd hfresh (hneed htrue s hs)
    by_cases hpolynomial : s.hasPolynomial
    · simpa [hpolynomial] using hsteps.refl s
    · simpa [hpolynomial] using Quiet.dealingChanges.generatePolynomial s w.rng
  have htake : ∀ s : Session F E, Quiet s (s.takePendingShare d).1 := fun s =>
    ⟨⟨rfl, rfl, rfl, rfl, rfl, rfl, rfl, rfl, rfl, id, fun _ => id⟩, unrevealed_of_eq rfl⟩
  refine (triple_onlyIf hstable hstart).bind fun _ => ?_
  refine (triple_quiet (hsteps.inspect _) hstable).bind fun _ => ?_
  refine (triple_quiet (hsteps.onlyIf hsteps.checkAndTriggerPhase2) hstable).bind fun _ => ?_
  refine (triple_quiet (hsteps.onlyIf hsteps.checkAndTriggerPhase4) hstable).bind fun _ => ?_
  refine (triple_quiet (keeps_locked hsteps.refl fun _ s => htake s) hstable).bind fun pending => ?_
  cases pending with
  | some pending => exact triple_quiet (hsteps.replayShare pending) hstable
  | none => exact Interference.Triple.pure (fun _ _ h => h) hstable

theorem triple_handleCommitmentMessage [LawfulRepr32 E] {known : Prop} (d : ℕ) (bytes : Bytes) :
    (hashRound (F := F) (E := E) onTime).Triple (fun s => known → d ∈ s.receivedHashes)
      (handleCommitmentMessage d bytes) fun _ => Arrived known d := by
  refine (triple_prepareCommitment d bytes).bind fun prepared => ?_
  cases prepared with
  | waitingForHash =>
    refine triple_locked (fun _ _ _ h _ => h) (fun _ => stable_arrived known d) ?_
    intro w s hs hnot honTime
    obtain ⟨hbound, hgrows, hparked⟩ := parkCommitment_bound hs d bytes honTime
    exact ⟨hbound, hgrows, fun _ _ => .inr ⟨hnot, hparked⟩⟩
  | ready c isReshare =>
    have hreceived : ∀ needToGenerate : Bool, (hashRound onTime).Stable fun s : Session F E =>
        d ∈ s.node.receivedCommitments ∧ (needToGenerate → ¬s.kind.isFresh) :=
      fun _ => (stable_mem_received d).and (stable_not_isFresh.imp)
    refine (triple_locked (stable_fits d c) hreceived fun w s hs hfits _ =>
      receiveCommitment_bound hs hfits).bind fun needToGenerate => ?_
    exact (triple_afterCommitment (hreceived needToGenerate) (fun htrue s hs => hs.2 htrue) d
      isReshare).mono (fun _ _ h => h) fun _ _ _ h => .inl h.1

/-! ## Commitment hashes -/

/-- The dealer is another member of a fresh ceremony. -/
structure Foreign (d : ℕ) (s : Session F E) : Prop where
  fresh : s.kind.isFresh
  pos : 1 ≤ d
  le : d ≤ s.node.totalNodes
  ne : d ≠ s.node.id

theorem stable_foreign (d : ℕ) : (hashRound (F := F) (E := E) onTime).Stable (Foreign d) := by
  intro s s' _ h hgrows
  refine ⟨?_, h.pos, ?_, ?_⟩
  · rw [hgrows.kind]
    exact h.fresh
  · rw [hgrows.totalNodes]
    exact h.le
  · rw [hgrows.id]
    exact h.ne

variable (onTime) in
/-- The hash has been recorded and what waited for it has been received. -/
def HashSettled (d : ℕ) (commitmentHash : Bytes) (s : Session F E) : Prop :=
  s.receivedHashes.lookup d = some commitmentHash ∧ (d ∈ onTime → d ∉ s.pendingCommitments)

theorem stable_lookup_hash (d : ℕ) (commitmentHash : Bytes) :
    (hashRound (F := F) (E := E) onTime).Stable fun s =>
      s.receivedHashes.lookup d = some commitmentHash :=
  fun _ _ _ hlookup hgrows => hgrows.hashes _ _ hlookup

theorem stable_hashSettled (d : ℕ) (commitmentHash : Bytes) :
    (hashRound (F := F) (E := E) onTime).Stable (HashSettled onTime d commitmentHash) := by
  rintro s s' _ ⟨hlookup, hpending⟩ hgrows
  refine ⟨hgrows.hashes _ _ hlookup, fun hd hparked => hpending hd ?_⟩
  exact hgrows.onTime d hd (mem_of_lookup hlookup) hparked

theorem triple_replayCommitment [LawfulRepr32 E]
    {d : ℕ} {commitmentHash : Bytes} {before : Session F E}
    (hlookup : before.receivedHashes.lookup d = some commitmentHash) :
    (hashRound onTime).Triple (Grows onTime before)
      (replayCommitment d (before.pendingCommitments.lookup d))
      fun _ => HashSettled onTime d commitmentHash := by
  cases hpending : before.pendingCommitments.lookup d with
  | none =>
    refine Interference.Triple.pure (fun s _ hgrows => ?_) (stable_hashSettled d commitmentHash)
    refine ⟨hgrows.hashes _ _ hlookup, fun hd hparked => ?_⟩
    have hmem := hgrows.onTime d hd (mem_of_lookup hlookup) hparked
    exact AList.lookup_eq_none.mp hpending hmem
  | some bytes =>
    -- The hash is known, so that the commitment is not parked again.
    have hreceived : (hashRound onTime).Triple (Grows onTime before)
        (handleCommitmentMessage d bytes) fun _ s =>
          s.receivedHashes.lookup d = some commitmentHash ∧ d ∈ s.node.receivedCommitments := by
      have hhandle : (hashRound (F := F) (E := E) onTime).Triple
          (fun s => True → d ∈ s.receivedHashes) (handleCommitmentMessage d bytes)
          fun _ => Arrived True d :=
        triple_handleCommitmentMessage d bytes
      have hlookup' : (hashRound (F := F) (E := E) onTime).Stable fun s =>
          s.receivedHashes.lookup d = some commitmentHash := stable_lookup_hash d commitmentHash
      refine (hhandle.carry hlookup' hlookup').mono (fun s _ hgrows => ?_) ?_
      · have hkept := hgrows.hashes _ _ hlookup
        exact ⟨fun _ => mem_of_lookup hkept, hkept⟩
      · rintro _ s _ ⟨harrived | ⟨hnot, -⟩, hkept⟩
        · exact ⟨hkept, harrived⟩
        · exact absurd trivial hnot
    refine hreceived.bind fun _ => ?_
    refine triple_locked ((stable_lookup_hash d commitmentHash).and (stable_mem_received d))
      (fun _ => stable_hashSettled d commitmentHash) fun w s hs hfact _ => ?_
    obtain ⟨hbound, hgrows⟩ := unparkCommitment_bound hs hfact.2
    exact ⟨hbound, hgrows, fun _ _ => ⟨hfact.1, fun _ hmem => (AList.mem_erase.mp hmem).1 rfl⟩⟩

theorem triple_handleCommitmentHashMessage [LawfulRepr32 E] (d : ℕ) (commitmentHash : Bytes) :
    (hashRound (F := F) (E := E) onTime).Triple (Foreign d)
      (handleCommitmentHashMessage d commitmentHash)
      fun _ => HashSettled onTime d commitmentHash := by
  have hsteps := Quiet.shareSteps (F := F) (E := E)
  have hsettled : (hashRound (F := F) (E := E) onTime).Stable
      (HashSettled onTime d commitmentHash) := stable_hashSettled d commitmentHash
  refine (triple_quiet (hsteps.preflightCommitmentHash d commitmentHash) (stable_foreign d)).bind
    fun _ => ?_
  refine (triple_locked (stable_foreign d) (fun _ => stable_lookup_hash d commitmentHash)
    fun w s hs hforeign honTime => recordCommitmentHash_bound hs hforeign.pos hforeign.le
      hforeign.ne commitmentHash honTime).bind fun _ => ?_
  refine triple_read (stable_lookup_hash d commitmentHash) fun before hbefore hlookup => ?_
  refine (triple_replayCommitment hlookup).bind fun _ => ?_
  exact (triple_quiet (hsteps.inspect _) hsettled).bind fun _ => triple_driveHashRecorded hsettled

/-! ## Contributions -/

theorem triple_claimMessage (contribution : PublicContribution) {fact : Session F E → Prop}
    (hstable : (hashRound onTime).Stable fact) (polls : ℕ) :
    (hashRound onTime).Triple fact (claimMessage (.contribution contribution) polls)
      fun claimed s => fact s ∧ (claimed = false → HandledRemote onTime s contribution) := by
  have hpost : ∀ p : Prop, (hashRound onTime).Stable fun s : Session F E =>
      fact s ∧ (p → HandledRemote onTime s contribution) :=
    fun _ => hstable.and (Interference.Stable.imp (stable_handledRemote contribution))
  refine triple_claiming hpost (triple_locked hstable (fun _ => hpost _) ?_) polls
  intro w s hs hfact _
  have hquiet : Quiet s (s.claimTransportMessage (.contribution contribution)).1 :=
    Quiet.shareSteps.claimMessage s _
  have hgrows : Grows onTime s (s.claimTransportMessage (.contribution contribution)).1 :=
    hquiet.same.grows
  refine ⟨hquiet.same.bound hs fun _ hnot => absurd hquiet.unrevealed hnot, hgrows, ?_⟩
  intro claim hclaim
  refine ⟨hstable _ _ hs hfact hgrows, fun hprocessed => hgrows.handledRemote ?_⟩
  subst hprocessed
  by_cases hmem : .contribution contribution ∈ s.processed
  · exact hs.handled contribution hmem
  · by_cases hprocessing : .contribution contribution ∈ s.processing
    · simp [Session.claimTransportMessage, hmem, hprocessing] at hclaim
    · simp [Session.claimTransportMessage, hmem, hprocessing] at hclaim

variable {contribution : PublicContribution}

theorem triple_finishing {body : HandlerM F E Unit}
    (h : (hashRound onTime).Triple pre body fun _ s => HandledRemote onTime s contribution) :
    (hashRound onTime).Triple pre (finishing (.contribution contribution) body)
      fun _ s => HandledRemote onTime s contribution := by
  apply Interference.Triple.afterwards h fun _ => stable_handledRemote contribution
  intro r s hs hhandled _
  have hsuccess : r.isOk → HandledRemote onTime s contribution := by
    intro hok
    cases r with
    | ok a => exact hhandled a rfl
    | error e => cases hok
  split
  · obtain ⟨hbound, hgrows⟩ := finishContribution_bound hs contribution hsuccess
    exact ⟨_, rfl, hbound, hgrows, fun a ha => hgrows.handledRemote (hhandled a ha)⟩
  · exact ⟨s, rfl, hs, .refl s, hhandled⟩

omit [Field F] [DecidableEq F] [AddCommGroup E] [Module F E] [DecidableEq E] [Curve E] [Repr32 F] in
theorem foreign_of_permits {s : Session F E} (hs : Bound onTime s)
    (hpermits : s.permits contribution) (hphase : contribution.payload.phase = .commitmentHashes)
    (hlocal : ¬s.localIsOrigin contribution.origin) : Foreign contribution.origin.nodeId s := by
  simp only [Session.permits, hphase, decide_eq_true_eq] at hpermits
  obtain ⟨hfresh, hscope, hpos, hle⟩ := hpermits
  refine ⟨hfresh, hpos, hle, fun heq => hlocal ?_⟩
  simp only [Session.localIsOrigin, decide_eq_true_eq]
  exact ⟨hscope, (hs.member hfresh).1, heq⟩

variable [LawfulRepr32 E]

theorem triple_dispatchOnce {before : Session F E} (hbefore : Bound onTime before)
    (hpermits : before.permits contribution) :
    (hashRound onTime).Triple (Grows onTime before) (dispatchOnce contribution)
      fun _ s => HandledRemote onTime s contribution := by
  refine triple_read (stable_grows before) fun s₁ _ hgrows₁ => ?_
  have hsame : s₁.localIsOrigin contribution.origin = before.localIsOrigin contribution.origin := by
    simp only [Session.localIsOrigin, hgrows₁.role, hgrows₁.id]
  split
  next hlocal =>
    refine Interference.Triple.pure (fun s _ hgrows hnot => absurd ?_ hnot)
      (stable_handledRemote contribution)
    simpa only [Session.localIsOrigin, hgrows.role, hgrows.id] using hlocal
  next hlocal =>
    rw [hsame] at hlocal
    have hremote : ∀ {p : HandlerM F E Unit}, (hashRound onTime).Triple (Grows onTime s₁) p
        (fun _ s => Handled onTime s contribution) →
          (hashRound onTime).Triple (Grows onTime s₁) p
            fun _ s => HandledRemote onTime s contribution :=
      fun hp => hp.mono (fun _ _ h => h) fun _ _ _ h _ => h
    have hquiet : ∀ {p : HandlerM F E Unit}, p.run.Keeps Quiet →
        (hashRound onTime).Triple (Grows onTime s₁) p fun _ _ => True :=
      fun hp => (triple_quiet hp Interference.stable_true).mono (fun _ _ _ => trivial)
        fun _ _ _ h => h
    apply hremote
    unfold Handled
    cases hpayload : contribution.payload with
    | commitmentHash commitmentHash =>
      have hforeign := foreign_of_permits hbefore hpermits (by rw [hpayload]; rfl) hlocal
      exact (triple_handleCommitmentHashMessage _ commitmentHash).mono
        (fun s _ hgrows => stable_foreign _ before s hbefore hforeign (hgrows₁.trans hgrows))
        fun _ _ _ h => h
    | commitment commitment =>
      have hhandle : (hashRound (F := F) (E := E) onTime).Triple
          (fun s => False → contribution.origin.nodeId ∈ s.receivedHashes)
          (handleCommitmentMessage contribution.origin.nodeId commitment)
          fun _ => Arrived False contribution.origin.nodeId :=
        triple_handleCommitmentMessage _ commitment
      exact hhandle.mono (fun s _ _ hfalse => hfalse.elim) fun _ _ _ h => h.imp_right And.right
    | commitmentAudit revealed => exact hquiet Quiet.shareSteps.handleCommitmentAuditMessage
    | refreshHealthCheckResult sessionId signature =>
      exact hquiet (Quiet.shareSteps.handleResult _ _)
    | reshareParticipantSet selectedDealers =>
      simp only
      split
      · exact Interference.Triple.throw _
      · exact hquiet (Quiet.shareSteps.handleReshareParticipantSet _ _)

theorem triple_handleContribution (polls : ℕ) (contribution : PublicContribution) :
    (hashRound (F := F) (E := E) onTime).Triple (fun _ => True)
      (handleContribution polls contribution)
      fun _ s => HandledRemote onTime s contribution := by
  refine triple_read Interference.stable_true fun before hbefore _ => ?_
  split
  next hpermits =>
    refine (triple_claimMessage contribution (stable_grows before) polls).bind fun claimed => ?_
    cases claimed with
    | false =>
      exact Interference.Triple.pure (fun _ _ h => h.2 rfl) (stable_handledRemote contribution)
    | true =>
      exact (triple_finishing (triple_dispatchOnce hbefore hpermits)).mono (fun _ _ h => h.1)
        fun _ _ _ h => h
  next => exact Interference.Triple.throw _

/-! ## Runs -/

variable (onTime) in
/-- What a handler leaves when it has finished without an error. -/
def Settled (s : Session F E) : Input → Prop
  | .contribution _ contribution => HandledRemote onTime s contribution
  | _ => True

theorem triples_handler : Triples (hashRound (F := F) (E := E) onTime).toShared
    (fun _ _ => (hashRound onTime).toContract) handler (fun _ _ _ => True)
    (fun input _ _ s => Settled onTime s input) fun _ => True where
  interference _ hguar := hguar
  stable _ _ := Interference.stable_true
  triple input k _ := by
    cases input with
    | begin => exact triple_onBegin Interference.stable_true
    | contribution polls contribution => exact triple_handleContribution polls contribution
    | share polls delivery =>
      exact triple_quiet (Quiet.shareSteps.handleShareDelivery polls delivery)
        Interference.stable_true
    | shareAck polls receiverNodeId dealerId =>
      exact triple_quiet (Quiet.shareSteps.onReshareShareAck polls receiverNodeId dealerId)
        Interference.stable_true

omit [Field F] [DecidableEq F] [AddCommGroup E] [Module F E] [DecidableEq E] [Curve E] [Repr32 F]
  [LawfulRepr32 E] in
theorem bound_new {id threshold totalNodes sessionId : ℕ} {role : DkgRole} {node : DKGNode F E}
    (hnode : DKGNode.new id threshold totalNodes sessionId role = .ok node)
    {kind : SessionKind} (hrole : kind.isFresh → role ≠ .receiver)
    (reshare : Option (ReshareState F))
    (peerIds : List String) (routes activeDealers : List ℕ) :
    Bound onTime (Session.new kind node reshare peerIds routes activeDealers) := by
  obtain ⟨⟨hid, -, hrange⟩, rfl⟩ := DKGNode.new_eq_ok.mp hnode
  have hempty : ∀ (d : ℕ) (c : PolynomialCommitment E),
      (∅ : AList fun _ : ℕ => PolynomialCommitment E).lookup d ≠ some c := by simp
  refine ⟨fun hfresh => ⟨hrole hfresh, Nat.one_le_iff_ne_zero.mpr hid, ?_⟩, rfl, ?_, ?_, ?_, ?_⟩
  · exact (hrange (hrole hfresh)).1.trans (Nat.mod_le _ _)
  · exact fun _ d hd => absurd hd (AList.notMem_empty d)
  · exact fun _ d c hc => absurd hc (hempty d c)
  · exact fun _ contribution hmem => by cases hmem
  · exact fun contribution hmem => by cases hmem

theorem run_bound {session : Session F E} (hsession : Bound onTime session)
    {before after : Schedule F}
    (hobeys : Pool.Obeys handler (ParksOnTime onTime) (Pool.empty session) (before ++ after)) :
    Bound onTime (runAttempt session (before ++ after)).state ∧
      Grows onTime (runAttempt session before).state
        (runAttempt session (before ++ after)).state ∧
      ∀ (k : ℕ) (input : Input),
        (runAttempt session (before ++ after)).result k = some (input, .ok ()) →
        Settled onTime (runAttempt session (before ++ after)).state input := by
  obtain ⟨hbefore, hafter⟩ := along_append.mp hobeys
  obtain ⟨y, hy, -⟩ := (Pool.reached_empty hsession).run triples_handler hsession
    (fun _ _ => trivial) (fun _ _ => trivial) hbefore
  obtain ⟨z, hz, hyz⟩ := hy.run triples_handler hsession (fun _ _ => trivial)
    (fun _ _ => trivial) hafter
  rw [← run_append] at hz
  have hstate : y = (runAttempt session before).state := hy.state
  have hstate' : z = (runAttempt session (before ++ after)).state := hz.state
  have hgrows : Grows onTime y z := by
    clear hz hstate'
    induction hyz with
    | refl => exact .refl y
    | tail _ hstep ih =>
      obtain ⟨-, -, -, -, hstep⟩ := hstep
      exact ih.trans hstep
  rw [← hstate, ← hstate']
  exact ⟨hz.invariant, hgrows, fun k input hk => hz.finished hk⟩

theorem run_bound_any {session : Session F E} (hsession : Bound ∅ session)
    (before after : Schedule F) :
    Bound ∅ (runAttempt session (before ++ after)).state ∧
      Grows ∅ (runAttempt session before).state (runAttempt session (before ++ after)).state := by
  have hobeys : Pool.Obeys handler (ParksOnTime ∅) (Pool.empty session) (before ++ after) :=
    along_of_forall (fun _ _ d hd => absurd hd (Set.notMem_empty d)) _ _
  obtain ⟨hbound, hgrows, -⟩ := run_bound hsession hobeys
  exact ⟨hbound, hgrows⟩

omit [AddCommGroup E] [DecidableEq E] [Curve E] [Sha256] in
theorem pointsBytes_injective {points points' : List E}
    (h : pointsBytes points = pointsBytes points') : points = points' := by
  have hlen : points.length = points'.length := by
    have := length_pointsBytes points
    have := length_pointsBytes points'
    rw [h] at *
    omega
  have hread := readPoints_pointsBytes (fun _ e => e) 0 points
  rw [h, hlen, readPoints_pointsBytes] at hread
  exact (Except.ok.inj hread).symm

omit [AddCommGroup E] [DecidableEq E] [Curve E] in
theorem collision_of_freshCommitmentHash_eq {sessionId d : ℕ} {c' : PolynomialCommitment E}
    (h : freshCommitmentHash sessionId d (pointsBytes c.coefficients) =
      freshCommitmentHash sessionId d (pointsBytes c'.coefficients)) (hne : c ≠ c') :
    ∃ x y : Bytes, x ≠ y ∧ sha256 x = sha256 y := by
  refine ⟨_, _, fun heq => hne ?_, h⟩
  have hpoints := pointsBytes_injective (List.append_cancel_left heq)
  cases c
  cases c'
  exact congrArg _ hpoints

/-- For every schedule, whatever the others send: `before` is any part of it from its beginning,
and `after` and `after'` are two ways to go on. -/
theorem commit_reveal_binding {id threshold totalNodes sessionId : ℕ} {node : DKGNode F E}
    (hnode : DKGNode.new id threshold totalNodes sessionId .standard = .ok node)
    {kind : SessionKind} (hfresh : kind.isFresh) (peerIds : List String)
    (routes activeDealers : List ℕ) (before after after' : Schedule F) :
    let s := (runAttempt (.new kind node none peerIds routes activeDealers) before).state
    let s' := (runAttempt (.new kind node none peerIds routes activeDealers)
      (before ++ after)).state
    let s'' := (runAttempt (.new kind node none peerIds routes activeDealers)
      (before ++ after')).state
    (∀ d h, s.receivedHashes.lookup d = some h → s'.receivedHashes.lookup d = some h) ∧
      s.commitmentsReceived = s.node.receivedCommitments.entries.length ∧
      (∀ d c, s.node.receivedCommitments.lookup d = some c → s.receivedHashes.lookup d =
        some (freshCommitmentHash sessionId d (pointsBytes c.coefficients))) ∧
      (∀ contribution, .signed contribution ∈ s.history →
        contribution.payload.phase = .commitments → s.ownHashBroadcastComplete ∧
          ∀ d, 1 ≤ d → d ≤ totalNodes → d ≠ id → d ∈ s.receivedHashes) ∧
      ∀ d ∈ s.receivedHashes, ∀ c c', s'.node.receivedCommitments.lookup d = some c →
        s''.node.receivedCommitments.lookup d = some c' → c ≠ c' →
          ∃ x y : Bytes, x ≠ y ∧ sha256 x = sha256 y := by
  have hnew : Bound ∅ (Session.new kind node none peerIds routes activeDealers) :=
    bound_new hnode (fun _ => by decide) none peerIds routes activeDealers
  have hblank := (DKGNode.new_eq_ok.mp hnode).2
  generalize hsession : Session.new kind node none peerIds routes activeDealers = session at hnew ⊢
  intro s s' s''
  obtain ⟨hs, hstart⟩ : Bound ∅ s ∧ Grows ∅ session s := run_bound_any hnew [] before
  obtain ⟨hs', hgrows⟩ : Bound ∅ s' ∧ Grows ∅ s s' := run_bound_any hnew before after
  obtain ⟨hs'', hgrows'⟩ : Bound ∅ s'' ∧ Grows ∅ s s'' := run_bound_any hnew before after'
  have hkind : s.kind.isFresh := by
    rw [hstart.kind, ← hsession]
    exact hfresh
  have hnodeEq : s.node.sessionId = sessionId ∧ s.node.totalNodes = totalNodes ∧
      s.node.id = id := by
    rw [hstart.sessionId, hstart.totalNodes, hstart.id, ← hsession, Session.new, hblank]
    exact ⟨rfl, rfl, rfl⟩
  obtain ⟨hid, htotal, hown⟩ := hnodeEq
  refine ⟨hgrows.hashes, hs.counted, ?_, ?_, ?_⟩
  · intro d c hc
    rw [hs.matched hkind d c hc, hid]
  · intro contribution hmem hphase
    obtain ⟨hbroadcast, hhashes⟩ := hs.revealed hkind contribution hmem hphase
    rw [htotal, hown] at hhashes
    exact ⟨hbroadcast, hhashes⟩
  · intro d hd c c' hc hc' hne
    obtain ⟨h, hh⟩ := exists_lookup hd
    have hfirst := hs'.matched (hgrows.kind ▸ hkind) d c hc
    have hsecond := hs''.matched (hgrows'.kind ▸ hkind) d c' hc'
    rw [hgrows.hashes d h hh, hgrows.sessionId] at hfirst
    rw [hgrows'.hashes d h hh, hgrows'.sessionId] at hsecond
    exact collision_of_freshCommitmentHash_eq
      ((Option.some.inj hfirst).symm.trans (Option.some.inj hsecond)) hne

/-- In every ceremony and every interleaving of its handlers, no commitment is lost or replaced:
what has been received stays as it is, and what is parked stays as it is until a commitment of its
dealer is received.  That is the parked one if it has the hash that was recorded for the dealer. -/
theorem commitments_never_lost {id threshold totalNodes sessionId : ℕ} {role : DkgRole}
    {node : DKGNode F E} (hnode : DKGNode.new id threshold totalNodes sessionId role = .ok node)
    {kind : SessionKind} (hrole : kind.isFresh → role ≠ .receiver)
    (reshare : Option (ReshareState F)) (peerIds : List String) (routes activeDealers : List ℕ)
    (before after : Schedule F) :
    let session := Session.new kind node reshare peerIds routes activeDealers
    let s := (runAttempt session before).state
    let s' := (runAttempt session (before ++ after)).state
    (∀ d c, s.node.receivedCommitments.lookup d = some c →
        s'.node.receivedCommitments.lookup d = some c) ∧
      ∀ d bytes, s.pendingCommitments.lookup d = some bytes →
        s'.pendingCommitments.lookup d = some bytes ∨
        ∃ c, s'.node.receivedCommitments.lookup d = some c ∧
          (kind.isFresh →
            s'.receivedHashes.lookup d = some (freshCommitmentHash sessionId d bytes) →
            pointsBytes c.coefficients = bytes ∨ ∃ x y : Bytes, x ≠ y ∧ sha256 x = sha256 y) := by
  intro session s s'
  have hnew : Bound ∅ session := bound_new hnode hrole reshare peerIds routes activeDealers
  obtain ⟨-, hstart⟩ : Bound ∅ s' ∧ Grows ∅ session s' := run_bound_any hnew [] (before ++ after)
  obtain ⟨hs', hgrows⟩ : Bound ∅ s' ∧ Grows ∅ s s' := run_bound_any hnew before after
  have hid : s'.node.sessionId = sessionId := by
    rw [hstart.sessionId]
    simp only [session, Session.new, (DKGNode.new_eq_ok.mp hnode).2]
    rfl
  refine ⟨hgrows.received, fun d bytes hparked => ?_⟩
  rcases hgrows.parked d bytes hparked with hparked | hreceived
  · exact .inl hparked
  · obtain ⟨c, hc⟩ := exists_lookup hreceived
    refine .inr ⟨c, hc, fun hfresh hrecorded => ?_⟩
    have hmatched := hs'.matched (hstart.kind ▸ hfresh) d c hc
    rw [hrecorded, hid] at hmatched
    by_cases hsame : pointsBytes c.coefficients = bytes
    · exact .inl hsame
    · refine .inr ⟨_, _, fun heq => hsame ?_, Option.some.inj hmatched⟩
      exact (List.append_cancel_left heq).symm

instance (d : ℕ) (s s' : Session F E) : Decidable (ParksOnTime {d} s s') :=
  decidable_of_iff
    (d ∈ s.receivedHashes → d ∈ s'.pendingCommitments → d ∈ s.pendingCommitments) (by
      simp [ParksOnTime])

/-- For every schedule in which no commitment of the dealer is parked after its hash has been
recorded, whatever else happens in it. -/
theorem commitment_received_of_parksOnTime {id threshold totalNodes sessionId : ℕ}
    {node : DKGNode F E}
    (hnode : DKGNode.new id threshold totalNodes sessionId .standard = .ok node)
    {kind : SessionKind} (hfresh : kind.isFresh) {peerIds : List String}
    {routes activeDealers : List ℕ} {schedule : Schedule F} {d : ℕ} (hd : d ≠ id)
    (hobeys : Pool.Obeys handler (ParksOnTime {d})
      (Pool.empty (.new kind node none peerIds routes activeDealers)) schedule)
    {j k polls polls' signedAt signedAt' : ℕ} {scope scope' : CommitteeScope}
    {commitmentHash commitment : Bytes}
    (hhash : (runAttempt (.new kind node none peerIds routes activeDealers) schedule).result j =
      some (.contribution polls ⟨⟨scope, d⟩, signedAt, .commitmentHash commitmentHash⟩, .ok ()))
    (hcommitment :
      (runAttempt (.new kind node none peerIds routes activeDealers) schedule).result k =
        some (.contribution polls' ⟨⟨scope', d⟩, signedAt', .commitment commitment⟩, .ok ())) :
    let s := (runAttempt (.new kind node none peerIds routes activeDealers) schedule).state
    (∃ c, s.node.receivedCommitments.lookup d = some c ∧
        commitmentHash = freshCommitmentHash sessionId d (pointsBytes c.coefficients)) ∧
      s.commitmentsReceived = s.node.receivedCommitments.entries.length ∧
      s.receivedHashes.lookup d = some commitmentHash ∧ d ∉ s.pendingCommitments := by
  have hnew : Bound {d} (Session.new kind node none peerIds routes activeDealers) :=
    bound_new hnode (fun _ => by decide) none peerIds routes activeDealers
  have hblank := (DKGNode.new_eq_ok.mp hnode).2
  generalize hsession : Session.new kind node none peerIds routes activeDealers = session
    at hnew hobeys hhash hcommitment ⊢
  intro s
  have hwhole : Pool.Obeys handler (ParksOnTime {d}) (Pool.empty session) ([] ++ schedule) := hobeys
  obtain ⟨hs, hgrows, hsettled⟩ : Bound {d} s ∧ Grows {d} session s ∧ _ := run_bound hnew hwhole
  have hforeign : ∀ scope, ¬s.localIsOrigin ⟨scope, d⟩ := by
    intro scope hlocal
    simp only [Session.localIsOrigin, decide_eq_true_eq] at hlocal
    apply hd
    rw [hlocal.2.2, hgrows.id, ← hsession, Session.new, hblank]
    rfl
  obtain ⟨hlookup, hpending⟩ : HashSettled {d} d commitmentHash s :=
    hsettled j _ hhash (hforeign scope)
  have hnot : d ∉ s.pendingCommitments := hpending rfl
  have hreceived : d ∈ s.node.receivedCommitments := by
    rcases hsettled k _ hcommitment (hforeign scope') with h | h
    · exact h
    · exact absurd h hnot
  obtain ⟨c, hc⟩ := exists_lookup hreceived
  have hkind : s.kind.isFresh := by
    rw [hgrows.kind, ← hsession]
    exact hfresh
  have hid : s.node.sessionId = sessionId := by
    rw [hgrows.sessionId, ← hsession, Session.new, hblank]
    rfl
  have hmatched := hs.matched hkind d c hc
  rw [hlookup, hid] at hmatched
  exact ⟨⟨c, hc, Option.some.inj hmatched⟩, hs.counted, hlookup, hnot⟩

end

/-! ## A commitment that is parked late -/

namespace Pair

open scoped ByteSum

/-- The node has published its own hash; the other member's commitment (handler 2) takes its first
steps, then its hash (handler 1), then the commitment again. -/
def parking (first last : ℕ) : Schedule F7 :=
  [.start .begin] ++ steps 0 12 ++ [.start (.contribution 0 peerCommitmentHash),
    .start (.contribution 0 peerCommitment)] ++ steps 2 first ++ steps 1 40 ++ steps 2 last

def ownCommitment : PublicContribution := ⟨⟨.current, 1⟩, 0, .commitment (pointsBytes [(3 : F7)])⟩

theorem commit_reveal_binding_in_time :
    let s := (runAttempt (session .fresh) (parking 7 0)).state
    .signed ownCommitment ∈ s.history ∧ s.ownHashBroadcastComplete ∧
      (∀ d, 1 ≤ d → d ≤ 2 → d ≠ 1 → d ∈ s.receivedHashes) ∧
      s.node.receivedCommitments.lookup 2 = some ⟨[2]⟩ ∧
      s.receivedHashes.lookup 2 = some (freshCommitmentHash 7 2 (pointsBytes [(2 : F7)])) := by
  have hnode : (DKGNode.new 1 1 2 7 .standard : Except CryptoError (DKGNode F7 F7)) =
      .ok (.blank 1 1 2 7 .standard) := rfl
  have hsigned : .signed ownCommitment ∈
      (runAttempt (session .fresh) (parking 7 0)).state.history := by decide +kernel
  have hreceived :
      ((runAttempt (session .fresh) (parking 7 0)).state.node.receivedCommitments.lookup
      2) = some ⟨[2]⟩ := by decide +kernel
  unfold session at hsigned hreceived ⊢
  have hfresh : SessionKind.fresh.isFresh := rfl
  obtain ⟨-, -, hmatched, hrevealed, -⟩ := commit_reveal_binding hnode hfresh ["a", "b"] [1, 2] []
    (parking 7 0) [] []
  obtain ⟨hbroadcast, hhashes⟩ := hrevealed ownCommitment hsigned rfl
  exact ⟨hsigned, hbroadcast, hhashes, hreceived, hmatched 2 ⟨[2]⟩ hreceived⟩

theorem commitments_never_lost_pair : 2 ∈ (runAttempt (session .fresh)
    (parking 7 0 ++ parking 5 30)).state.node.receivedCommitments := by
  have hnode : (DKGNode.new 1 1 2 7 .standard : Except CryptoError (DKGNode F7 F7)) =
      .ok (.blank 1 1 2 7 .standard) := rfl
  have hreceived :
      ((runAttempt (session .fresh) (parking 7 0)).state.node.receivedCommitments.lookup
      2) = some ⟨[2]⟩ := by decide +kernel
  unfold session at hreceived ⊢
  obtain ⟨hkept, -⟩ := commitments_never_lost hnode (fun _ => by decide) none ["a", "b"] [1, 2] []
    (parking 7 0) (parking 5 30)
  exact mem_of_lookup (hkept 2 ⟨[2]⟩ hreceived)

theorem commitment_received_in_time :
    let attempt := runAttempt (session .fresh) (parking 7 0)
    Pool.Obeys handler (ParksOnTime {2}) (Pool.empty (session .fresh)) (parking 7 0) ∧
      attempt.result 1 = some (.contribution 0 peerCommitmentHash, .ok ()) ∧
      attempt.result 2 = some (.contribution 0 peerCommitment, .ok ()) ∧
      2 ∈ attempt.state.node.receivedCommitments ∧ 2 ∉ attempt.state.pendingCommitments := by
  have hobeys : Pool.Obeys handler (ParksOnTime {2}) (Pool.empty (session .fresh))
      (parking 7 0) := by decide +kernel
  have hhash : (runAttempt (session .fresh) (parking 7 0)).result 1 =
      some (.contribution 0 peerCommitmentHash, .ok ()) := by decide +kernel
  have hcommitment : (runAttempt (session .fresh) (parking 7 0)).result 2 =
      some (.contribution 0 peerCommitment, .ok ()) := by decide +kernel
  have hnode : (DKGNode.new 1 1 2 7 .standard : Except CryptoError (DKGNode F7 F7)) =
      .ok (.blank 1 1 2 7 .standard) := rfl
  unfold session at hobeys hhash hcommitment ⊢
  unfold peerCommitmentHash at hhash ⊢
  unfold peerCommitment at hcommitment ⊢
  obtain ⟨⟨c, hc, -⟩, -, -, hpending⟩ :=
    commitment_received_of_parksOnTime hnode (by decide) (by decide) hobeys hhash hcommitment
  exact ⟨hobeys, hhash, hcommitment, mem_of_lookup hc, hpending⟩

/-- The commitment handler has found no hash when the hash handler records it and finds no
commitment; the commitment is parked after that, and nobody looks for it again. -/
theorem commitment_stranded_of_parked_late :
    let attempt := runAttempt (session .fresh) (parking 5 30)
    attempt.result 1 = some (.contribution 0 peerCommitmentHash, .ok ()) ∧
      attempt.result 2 = some (.contribution 0 peerCommitment, .ok ()) ∧
      attempt.state.receivedHashes.keys = [2] ∧ attempt.state.pendingCommitments.keys = [2] ∧
      attempt.state.node.receivedCommitments.keys = [] ∧
      attempt.state.commitmentsReceived = 0 := by
  decide +kernel

end Pair

end Orbis.Node.Dkg
