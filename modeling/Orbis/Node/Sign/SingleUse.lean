import Orbis.Node.Sign.Responder

/-!
# Nonces are used once

A nonce moves from the store to one handler and from there to one sign computation, so that its
serial number is in one place only.  The handler that takes it belongs to the peer that asked for
it, and the computation is made under the context it was stored for.
-/

namespace Orbis.Node.Sign.Responder

open Orbis.Crypto Orbis.Crypto.Sign Orbis.Data Orbis.Transition

/-- The record made when the entry was stored. -/
def recordOf (entry : NonceEntry) : NonceRecord :=
  ⟨entry.serial, entry.bytes, entry.contextKey, entry.coordinatorPeerId, entry.createdAt⟩

/-- A handler took the recorded nonce for the recorded peer, and no sweep had come after the end of
its lifetime. -/
structure TookRecorded (r : NonceRecord) (p : PendingSign) : Prop where
  serial : r.serial = p.nonce.serial
  bytes : r.bytes = p.nonce.bytes
  contextKey : r.contextKey = p.nonce.contextKey
  sender : r.coordinatorPeerId = p.sender
  created : r.createdAt ≤ p.consumedAt
  swept : p.sweptAt < r.createdAt + signNonceTtl

/-- A sign computation used the recorded nonce as it was recorded. -/
structure UsedAsRecorded (r : NonceRecord) (u : NonceUse) : Prop where
  serial : r.serial = u.serial
  bytes : r.bytes = u.bytes
  contextKey : r.contextKey = u.contextKey
  sender : r.coordinatorPeerId = u.sender
  created : r.createdAt ≤ u.consumedAt
  swept : u.sweptAt < r.createdAt + signNonceTtl

/-- The nonces that have left the store for a handler. -/
def takenSerials (s : Responder) : List ℕ :=
  s.pendingSigns.map (·.nonce.serial) ++ s.uses.map (·.serial)

structure Consistent (s : Responder) : Prop where
  clock : s.lastSweep ≤ s.now
  record_lt : ∀ r ∈ s.records, r.serial < s.generated
  records_nodup : (s.records.map (·.serial)).Nodup
  stored : ∀ k e, s.nonceStates.lookup k = some e →
    recordOf e ∈ s.records ∧ s.lastSweep < e.createdAt + signNonceTtl ∧ e.createdAt ≤ s.now
  stored_once : ∀ k k' e e', s.nonceStates.lookup k = some e →
    s.nonceStates.lookup k' = some e' → e.serial = e'.serial → k = k'
  not_taken : ∀ k e, s.nonceStates.lookup k = some e → e.serial ∉ s.takenSerials
  taken_nodup : s.takenSerials.Nodup
  pending : ∀ p ∈ s.pendingSigns, ∃ r ∈ s.records, TookRecorded r p
  used : ∀ u ∈ s.uses, ∃ r ∈ s.records, UsedAsRecorded r u

theorem consistent_start (now : ℕ) : Consistent (start now) where
  clock := Nat.le_refl now
  record_lt := by simp [start]
  records_nodup := by simp [start]
  stored := by simp [start]
  stored_once := by simp [start]
  not_taken := by simp [start]
  taken_nodup := by simp [start, takenSerials]
  pending := by simp [start]
  used := by simp [start]

/-! ## Steps on the store -/

variable {s : Responder}

theorem Consistent.tick (h : Consistent s) (elapsed : ℕ) :
    Consistent { s with now := s.now + elapsed } := by
  refine { h with clock := ?_, stored := ?_ }
  · have := h.clock
    show s.lastSweep ≤ s.now + elapsed
    omega
  · intro k e hk
    obtain ⟨hrecord, hswept, hcreated⟩ := h.stored k e hk
    refine ⟨hrecord, hswept, ?_⟩
    show e.createdAt ≤ s.now + elapsed
    omega

theorem Consistent.sweep (h : Consistent s) : Consistent { s with
      nonceStates := s.nonceStates.removeExpiredNonces s.now
      lastSweep := s.now } := by
  have hkept : ∀ k e, (s.nonceStates.removeExpiredNonces s.now).lookup k = some e →
      s.nonceStates.lookup k = some e ∧ s.now - e.createdAt < signNonceTtl := by
    intro k e hk
    obtain ⟨hold, hyoung⟩ := lookup_retain.mp hk
    exact ⟨hold, of_decide_eq_true hyoung⟩
  refine { h with clock := Nat.le_refl s.now, stored := ?_, stored_once := ?_, not_taken := ?_ }
  · intro k e hk
    obtain ⟨hold, hyoung⟩ := hkept k e hk
    obtain ⟨hrecord, -, hcreated⟩ := h.stored k e hold
    refine ⟨hrecord, ?_, hcreated⟩
    show s.now < e.createdAt + signNonceTtl
    omega
  · intro k k' e e' hk hk'
    exact h.stored_once k k' e e' (hkept k e hk).1 (hkept k' e' hk').1
  · intro k e hk
    exact h.not_taken k e (hkept k e hk).1

theorem Consistent.generate (h : Consistent s) :
    Consistent { s with generated := s.generated + 1 } := by
  refine { h with record_lt := ?_ }
  intro r hr
  have := h.record_lt r hr
  show r.serial < s.generated + 1
  omega

theorem Consistent.store (h : Consistent s) {entry : NonceEntry} {k₀ : String}
    (hserial : entry.serial = s.generated) (hcreated : entry.createdAt = s.now) :
    Consistent { s with
      nonceStates := s.nonceStates.insert k₀ entry
      generated := s.generated + 1
      records := recordOf entry :: s.records } := by
  have hcases : ∀ k e, (s.nonceStates.insert k₀ entry).lookup k = some e →
      (k = k₀ ∧ e = entry) ∨ s.nonceStates.lookup k = some e := by
    intro k e hk
    by_cases hkey : k = k₀
    · rw [hkey, AList.lookup_insert] at hk
      exact .inl ⟨hkey, (Option.some.inj hk).symm⟩
    · rw [AList.lookup_insert_ne hkey] at hk
      exact .inr hk
  have hold : ∀ k e, s.nonceStates.lookup k = some e → e.serial < s.generated :=
    fun k e hk => h.record_lt _ (h.stored k e hk).1
  have hnew : ∀ n ∈ s.takenSerials, n < s.generated := by
    intro n hn
    rcases List.mem_append.mp hn with hn | hn
    · obtain ⟨p, hp, rfl⟩ := List.mem_map.mp hn
      obtain ⟨r, hr, htook⟩ := h.pending p hp
      exact htook.serial ▸ h.record_lt r hr
    · obtain ⟨u, hu, rfl⟩ := List.mem_map.mp hn
      obtain ⟨r, hr, hused⟩ := h.used u hu
      exact hused.serial ▸ h.record_lt r hr
  refine ⟨h.clock, ?_, ?_, ?_, ?_, ?_, h.taken_nodup, ?_, ?_⟩
  · intro r hr
    show r.serial < s.generated + 1
    rcases List.mem_cons.mp hr with rfl | hr
    · show entry.serial < s.generated + 1
      omega
    · have := h.record_lt r hr
      omega
  · show (entry.serial :: s.records.map (·.serial)).Nodup
    apply List.nodup_cons.mpr
    refine ⟨fun hmem => ?_, h.records_nodup⟩
    obtain ⟨r, hr, heq⟩ := List.mem_map.mp hmem
    have := h.record_lt r hr
    omega
  · intro k e hk
    rcases hcases k e hk with ⟨-, rfl⟩ | hk
    · have hclock := h.clock
      have hpos : 0 < signNonceTtl := by decide
      refine ⟨List.mem_cons_self, ?_, hcreated.le⟩
      show s.lastSweep < e.createdAt + signNonceTtl
      omega
    · obtain ⟨hrecord, hrest⟩ := h.stored k e hk
      exact ⟨List.mem_cons_of_mem _ hrecord, hrest⟩
  · intro k k' e e' hk hk' heq
    rcases hcases k e hk with ⟨hkey, hentry⟩ | hk₁
    · rcases hcases k' e' hk' with ⟨hkey', -⟩ | hk₂
      · rw [hkey, hkey']
      · have := hold k' e' hk₂
        rw [hentry] at heq
        omega
    · rcases hcases k' e' hk' with ⟨-, hentry'⟩ | hk₂
      · have := hold k e hk₁
        rw [hentry'] at heq
        omega
      · exact h.stored_once k k' e e' hk₁ hk₂ heq
  · intro k e hk
    rcases hcases k e hk with ⟨-, rfl⟩ | hk
    · intro hmem
      have := hnew _ hmem
      omega
    · exact h.not_taken k e hk
  · intro p hp
    obtain ⟨r, hr, htook⟩ := h.pending p hp
    exact ⟨r, List.mem_cons_of_mem _ hr, htook⟩
  · intro u hu
    obtain ⟨r, hr, hused⟩ := h.used u hu
    exact ⟨r, List.mem_cons_of_mem _ hr, hused⟩

/-! ## Steps of a sign request -/

theorem Consistent.take (h : Consistent s) {k₀ : String} {entry : NonceEntry}
    (hlookup : s.nonceStates.lookup k₀ = some entry) (request : SignRequest) : Consistent { s with
      nonceStates := s.nonceStates.erase k₀
      pendingSigns := s.pendingSigns ++ [⟨request, entry.coordinatorPeerId,
        ⟨entry.bytes, entry.contextKey, entry.serial⟩, s.now, s.lastSweep⟩] } := by
  have hkept : ∀ k e, (s.nonceStates.erase k₀).lookup k = some e →
      k ≠ k₀ ∧ s.nonceStates.lookup k = some e := by
    intro k e hk
    by_cases hkey : k = k₀
    · rw [hkey, AList.lookup_erase] at hk
      cases hk
    · rw [AList.lookup_erase_ne hkey] at hk
      exact ⟨hkey, hk⟩
  have hperm : (takenSerials { s with
      nonceStates := s.nonceStates.erase k₀
      pendingSigns := s.pendingSigns ++ [⟨request, entry.coordinatorPeerId,
        ⟨entry.bytes, entry.contextKey, entry.serial⟩, s.now, s.lastSweep⟩] }).Perm
      (entry.serial :: s.takenSerials) := by
    simp only [takenSerials, List.map_append, List.map_singleton, List.append_assoc,
      List.singleton_append]
    exact List.perm_middle
  refine ⟨h.clock, h.record_lt, h.records_nodup, ?_, ?_, ?_, ?_, ?_, h.used⟩
  · intro k e hk
    exact h.stored k e (hkept k e hk).2
  · intro k k' e e' hk hk'
    exact h.stored_once k k' e e' (hkept k e hk).2 (hkept k' e' hk').2
  · intro k e hk hmem
    obtain ⟨hne, hk⟩ := hkept k e hk
    rcases List.mem_cons.mp (hperm.mem_iff.mp hmem) with heq | hmem
    · exact hne (h.stored_once k k₀ e entry hk hlookup heq)
    · exact h.not_taken k e hk hmem
  · apply hperm.nodup_iff.mpr
    exact List.nodup_cons.mpr ⟨h.not_taken k₀ entry hlookup, h.taken_nodup⟩
  · intro p hp
    rcases List.mem_append.mp hp with hp | hp
    · exact h.pending p hp
    · rw [List.mem_singleton.mp hp]
      obtain ⟨hrecord, hswept, hcreated⟩ := h.stored k₀ entry hlookup
      exact ⟨recordOf entry, hrecord, ⟨rfl, rfl, rfl, rfl, hcreated, hswept⟩⟩

theorem Consistent.drop (h : Consistent s) (index : ℕ) :
    Consistent { s with pendingSigns := s.pendingSigns.eraseIdx index } := by
  have hsub : (s.pendingSigns.eraseIdx index).Sublist s.pendingSigns :=
    List.eraseIdx_sublist _ _
  have htaken : (takenSerials { s with pendingSigns := s.pendingSigns.eraseIdx index }).Sublist
      s.takenSerials :=
    (hsub.map _).append (List.Sublist.refl _)
  refine { h with not_taken := ?_, taken_nodup := h.taken_nodup.sublist htaken, pending := ?_ }
  · intro k e hk hmem
    exact h.not_taken k e hk (htaken.subset hmem)
  · intro p hp
    exact h.pending p (hsub.subset hp)

theorem Consistent.use (h : Consistent s) {index : ℕ} {p : PendingSign}
    (hp : s.pendingSigns[index]? = some p) : Consistent { s with
      pendingSigns := s.pendingSigns.eraseIdx index
      uses := ⟨p.nonce.serial, p.nonce.bytes, p.nonce.contextKey, p.sender, p.consumedAt,
        p.sweptAt⟩ :: s.uses } := by
  obtain ⟨hindex, hget⟩ := List.getElem?_eq_some_iff.mp hp
  have hmem : p ∈ s.pendingSigns := List.mem_of_getElem? hp
  have hpending : (p :: s.pendingSigns.eraseIdx index).Perm s.pendingSigns := by
    have := List.getElem_cons_eraseIdx_perm hindex
    rwa [hget] at this
  have hperm : (takenSerials { s with
      pendingSigns := s.pendingSigns.eraseIdx index
      uses := ⟨p.nonce.serial, p.nonce.bytes, p.nonce.contextKey, p.sender, p.consumedAt,
        p.sweptAt⟩ :: s.uses }).Perm s.takenSerials := by
    simp only [takenSerials, List.map_cons]
    exact List.perm_middle.trans ((hpending.map (·.nonce.serial)).append_right _)
  refine ⟨h.clock, h.record_lt, h.records_nodup, h.stored, h.stored_once, ?_,
    hperm.nodup_iff.mpr h.taken_nodup, ?_, ?_⟩
  · intro k e hk hin
    exact h.not_taken k e hk (hperm.mem_iff.mp hin)
  · intro q hq
    exact h.pending q ((List.eraseIdx_sublist _ _).subset hq)
  · intro u hu
    rcases List.mem_cons.mp hu with rfl | hu
    · obtain ⟨r, hr, htook⟩ := h.pending p hmem
      exact ⟨r, hr, ⟨htook.serial, htook.bytes, htook.contextKey, htook.sender, htook.created,
        htook.swept⟩⟩
    · exact h.used u hu

/-! ## Runs -/

section Runs

variable {F E : Type} [Repr32 F] [Repr32 E]

theorem Consistent.signRequest (h : Consistent s) (version : ℕ) (request : SignRequest)
    (sender : Bytes) : Consistent (s.takeNonce version request sender).1 := by
  unfold takeNonce NonceStates.consumeNonce
  simp only
  split
  · exact h
  · next nonce states hconsume =>
      split at hconsume
      · cases hconsume
      · next entry hlookup =>
          split at hconsume
          · cases hconsume
          · next hsender =>
              simp only [Prod.mk.injEq, Option.some.injEq] at hconsume
              obtain ⟨rfl, rfl⟩ := hconsume
              have hpeer : entry.coordinatorPeerId = sender := not_not.mp hsender
              rw [← hpeer]
              exact h.take hlookup request

variable [Sha256]

/-- The sign computation gets the bytes of the nonce taken, under the key it is bound to. -/
theorem prepareSign_nonce {pending : PendingSign} {env : SignEnvironment} {input : SignInput F E}
    (h : prepareSign pending env = .ok input) :
    input.contextKey = pending.nonce.contextKey ∧ input.nonceBytes = pending.nonce.bytes := by
  unfold prepareSign at h
  simp only at h
  split at h
  · cases h
  · obtain ⟨authorization, -, h⟩ := bind_eq_ok.mp h
    obtain ⟨bundle, -, h⟩ := bind_eq_ok.mp h
    split at h
    · cases h
    · obtain ⟨pubPoly, -, h⟩ := bind_eq_ok.mp h
      obtain ⟨share, -, h⟩ := bind_eq_ok.mp h
      obtain ⟨allCommitments, -, h⟩ := bind_eq_ok.mp h
      obtain ⟨expected, -, h⟩ := bind_eq_ok.mp h
      split at h
      · cases h
      · next stateBytes hbytes =>
          obtain ⟨signingState, -, h⟩ := bind_eq_ok.mp h
          rw [← Except.ok.inj h]
          unfold ConsumedNonce.intoBytesForContext at hbytes
          split at hbytes
          · cases hbytes
          · next hkey => exact ⟨(not_not.mp hkey).symm, (Option.some.inj hbytes).symm⟩

variable [Field F] [AddCommGroup E] [Module F E] [DecidableEq E] [Curve E]

theorem Consistent.nonceRequest (h : Consistent s) (version : ℕ) (request : NonceRequest)
    (sender : Bytes) (env : NonceEnvironment F) :
    Consistent (s.handleNonceRequest E version request sender env).1 := by
  unfold handleNonceRequest
  cases authorizeNonceRequest E request env with
  | error e => exact h
  | ok authorized =>
    simp only [NonceStates.storeNonce]
    by_cases hfull :
        (s.nonceStates.removeExpiredNonces s.now).entries.length ≥ maxNonceStates
    · simp only [hfull, if_true]
      exact h.sweep.generate
    · simp only [hfull, if_false]
      by_cases hexists : NonceStates.key version request.requestId ∈
          s.nonceStates.removeExpiredNonces s.now
      · simp only [hexists, if_true]
        exact h.sweep.generate
      · simp only [hexists, if_false]
        exact h.sweep.store rfl rfl

variable [DecidableEq F] [ScalarHash F]

theorem Consistent.finishSign (h : Consistent s) {index : ℕ} {pending : PendingSign}
    (hpending : s.pendingSigns[index]? = some pending) (env : SignEnvironment) :
    Consistent (s.finishSign F E index pending env).1 := by
  unfold Responder.finishSign
  cases hprepare : prepareSign (F := F) (E := E) pending env with
  | error e => exact h.drop index
  | ok input =>
    obtain ⟨hkey, hbytes⟩ := prepareSign_nonce hprepare
    simp only [hkey, hbytes]
    exact h.use hpending

theorem Consistent.step (h : Consistent s) (event : Event F) : Consistent (s.step E event) := by
  cases event with
  | nonceRequest version request sender env => exact h.nonceRequest version request sender env
  | signRequest version request sender => exact h.signRequest version request sender
  | finishSign index env =>
    unfold Responder.step
    simp only
    split
    · exact h
    · next hpending => exact h.finishSign hpending env
  | cancelSign index => exact h.drop index
  | sweep => exact h.sweep
  | tick elapsed => exact h.tick elapsed

/-- In every run, under every interleaving of requests, handlers, sweeps and time: a generated nonce
is used by at most one sign computation, which gets the bytes that were stored, for the peer and
the context key they were stored under, and the nonce is not taken after a sweep that came at or
after the end of its lifetime. -/
theorem nonce_used_at_most_once (now : ℕ) (events : List (Event F)) :
    ((run (step E) (start now) events).records.map (·.serial)).Nodup ∧
      ((run (step E) (start now) events).uses.map (·.serial)).Nodup ∧
      ∀ u ∈ (run (step E) (start now) events).uses,
        ∃ r ∈ (run (step E) (start now) events).records, UsedAsRecorded r u := by
  have hstep : ∀ (s : Responder) (event : Event F), Consistent s → Consistent (s.step E event) :=
    fun s event h => h.step event
  have h := run_induction hstep (consistent_start now) events
  exact ⟨h.records_nodup, h.taken_nodup.sublist (List.sublist_append_right _ _), h.used⟩

end Runs

/-! A nonce is taken one second after the end of its lifetime, before a sweep has come, and
signs.  One member, over the group of order seven. -/

local instance : Sha256 := ⟨fun bytes => bytes⟩

def lateBundle : RingShareBundle := RingShareBundle.ofParts (⟨1, 3⟩ : PriShare F7) ⟨[(3 : F7)]⟩ 0

def lateEnvironment : SignEnvironment :=
  ⟨.ok ⟨hexEncode (toRepr (3 : F7)), none, none⟩, .ok none,
    lateBundle.saveByRingKey ∅ (RingShareBundle.ringKeyOf (3 : F7)), .ok (0, [])⟩

def lateEvents : List (Event F7) :=
  [.nonceRequest 0 ⟨"nonce-r", 1, toRepr (3 : F7), .bulletin "o"⟩ [1]
      ⟨.ok (hexEncode (toRepr (3 : F7)), none), lateEnvironment.storage, (2, 3)⟩,
    .tick (46 * 10 ^ 9),
    .signRequest 0 ⟨"r", 1, [7], serializeCommitments (E := F7) [(1, ⟨2, 3⟩)], .bulletin "o"⟩ [1],
    .finishSign 0 lateEnvironment]

theorem nonce_used_after_lifetime :
    (∃ u ∈ (run (step F7) (start 0) lateEvents).uses,
      ∃ r ∈ (run (step F7) (start 0) lateEvents).records,
        r.serial = u.serial ∧ r.createdAt + signNonceTtl < u.consumedAt) ∧
    (run (step F7) (start 0) (lateEvents.take 3)).pendingSigns.map (fun pending =>
      ((run (step F7) (start 0) (lateEvents.take 3)).finishSign F7 F7 0 pending
        lateEnvironment).2.toOption.isSome) = [true] := by
  decide +kernel

end Orbis.Node.Sign.Responder
