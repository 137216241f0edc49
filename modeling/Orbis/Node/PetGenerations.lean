import Orbis.Node.ReshareFinality

/-!
# The checking key of a reshare, across the members

The members of a ring that requires a checking key reshare it in a ceremony of its own, which may
be tried again and again for one announced reshare of the main key.  Each attempt that a member
completes leaves a pending bundle on its disk.  The update of the bulletin is signed if the signers
have any such bundle for the announced committee and threshold, and each member then promotes the
one it has.  If every member that has completed an earlier attempt has also completed the latest one
when the update is posted, then all members promote bundles of that one.
-/

namespace Orbis.Node

open Orbis.Data Orbis.Transition

structure PetRing (ι : Type) where
  nodeKey : ι → String
  ringKey : String
  ringId : String
  announced : RingPayload

def PetRing.member {ι : Type} (r : PetRing ι) (i : ι) : RingMember :=
  ⟨r.nodeKey i, r.ringKey, r.ringId, true⟩

structure PetWorld (ι : Type) where
  /-- Whether the bulletin has the update. -/
  finalized : Bool
  disks : ι → LocalStorage
  /-- The public polynomials of the attempts, the latest first. -/
  attempts : List String
  /-- The attempt whose bundle a member has staged last. -/
  completed : ι → Option String
  /-- All bundles of the checking key that have become active. -/
  promoted : List (ι × Bytes)

inductive PetEvent (ι : Type) where
  | begin (polynomial : String)
  /-- The leader posts the update if all signers, itself among them, are ready. -/
  | post (faults : ι → StorageFaults) (signers : List ι)
  | node (i : ι) (faults : StorageFaults) (event : RingEvent)

namespace PetWorld

variable {ι : Type}

def start (disks : ι → LocalStorage) : PetWorld ι := ⟨false, disks, [], fun _ => none, []⟩

def newActive (r : PetRing ι) (i : ι) (before after : LocalStorage) : List (ι × Bytes) :=
  if after.activeAt .pet r.ringId = before.activeAt .pet r.ringId then []
  else (after.activeAt .pet r.ringId).toList.map (i, ·)

/-- The attempt that an event completes; a bundle that could not be written leaves the last one. -/
def completes (r : PetRing ι) (after : LocalStorage) (last : Option String) :
    RingEvent → Option String
  | .stage .pet q =>
    if after.pendingAt .pet r.ringId = some q then some q.bundle.publicPolynomial else last
  | _ => last

def step [DecidableEq ι] (r : PetRing ι) (w : PetWorld ι) : PetEvent ι → PetWorld ι
  | .begin polynomial => { w with attempts := polynomial :: w.attempts }
  | .post faults signers =>
    { w with
      finalized := w.finalized ||
        signers.all fun i => Dkg.petReady (faults i) r.ringId r.announced (w.disks i) }
  | .node i faults event =>
    { w with
      disks := Function.update w.disks i (event.apply (r.member i) faults (w.disks i))
      completed := Function.update w.completed i (completes r
        (event.apply (r.member i) faults (w.disks i)) (w.completed i) event)
      promoted := w.promoted ++
        newActive r i (w.disks i) (event.apply (r.member i) faults (w.disks i)) }

/-- What holds of every run: an attempt begins while the reshare is announced, enough members sign,
the bulletin stops announcing only with the update, and the members that complete an attempt have
the same public polynomial.  Refreshes of the checking key wait for the end of the reshare. -/
def Honest (r : PetRing ι) (w : PetWorld ι) : PetEvent ι → Prop
  | .begin _ => w.finalized = false
  | .post _ signers => signers.Nodup ∧ r.announced.effectiveNewThreshold ≤ signers.length
  | .node i _ event =>
    (∀ found, event.Reads (r.member i) found → w.finalized = true) ∧
      (∀ q, event = .stage .pet q →
        q.DealtFor r.announced ∧ q.bundle.publicPolynomial ∈ w.attempts) ∧
      ∀ bundle, event ≠ .promote .pet bundle

/-- When the update is posted, a member that has completed attempts has completed the latest one;
later no bundle of another one is staged. -/
def CaughtUp [DecidableEq ι] (r : PetRing ι) (w : PetWorld ι) : PetEvent ι → Prop
  | .begin _ => True
  | .post faults signers =>
    (step r w (.post faults signers)).finalized = true →
      ∀ i, w.completed i = none ∨ w.completed i = w.attempts.head?
  | .node _ _ event =>
    w.finalized = true → ∀ q, event = .stage .pet q →
      w.attempts.head? = some q.bundle.publicPolynomial

/-- A member has at most the bundle of the attempt that it completed last.  With the update this is
the latest one, and all that is promoted comes from it. -/
structure Uniform (r : PetRing ι) (w : PetWorld ι) : Prop where
  index : ∀ i, Pss.IndexApart (r.member i).entry (w.disks i).ringIndex
  pending : ∀ i q, (w.disks i).pendingAt .pet r.ringId = some q →
    w.completed i = some q.bundle.publicPolynomial
  completed : w.finalized = true → ∀ i, w.completed i = none ∨ w.completed i = w.attempts.head?
  promoted : ∀ entry ∈ w.promoted, w.finalized = true ∧ ∃ bundle : RingShareBundle,
    entry.2 = bundle.toBytes ∧ w.attempts.head? = some bundle.publicPolynomial

/-! ## One event at one member -/

section

variable {r : PetRing ι} {w : PetWorld ι} {i : ι} {faults : StorageFaults} {event : RingEvent}

theorem pending_apply
    (hindex : Pss.IndexApart (r.member i).entry (w.disks i).ringIndex) {q : PendingReshareBundle}
    (hq : (event.apply (r.member i) faults (w.disks i)).pendingAt .pet r.ringId = some q) :
    (w.disks i).pendingAt .pet r.ringId = some q ∨ event = .stage .pet q := by
  have hkept {before after : Option PendingReshareBundle} (h : after = before ∨ after = none)
      (hafter : after = some q) : before = some q := by
    rcases h with rfl | rfl
    · exact hafter
    · cases hafter
  cases event.slotChange (r.member i) faults hindex .pet with
  | kept active pending => exact .inl (hkept pending hq)
  | staged q' event_eq active pending =>
    obtain rfl : q' = q := Option.some.inj (pending.symm.trans hq)
    exact .inr event_eq
  | promoted bundle event_eq active pending => exact .inl (hkept (.inl pending) hq)
  | confirmed payload info bundle main reads holds expected active pending cleared => cases main
  | moved payload q' reads waits expected active pending cleared | deleted deletes active pending =>
    exact .inl (hkept pending hq)

theorem completes_eq (hindex : Pss.IndexApart (r.member i).entry (w.disks i).ringIndex)
    {last : Option String} {q : PendingReshareBundle}
    (hlast : (w.disks i).pendingAt .pet r.ringId = some q → last = some q.bundle.publicPolynomial)
    (hq : (event.apply (r.member i) faults (w.disks i)).pendingAt .pet r.ringId = some q) :
    completes r (event.apply (r.member i) faults (w.disks i)) last event =
      some q.bundle.publicPolynomial := by
  rcases pending_apply hindex hq with hold | rfl
  · unfold completes
    split
    · split
      case isTrue hwritten => rw [Option.some.inj (hwritten.symm.trans hq)]
      case isFalse => exact hlast hold
    · exact hlast hold
  · rw [completes, if_pos hq]

theorem completes_cases (after : LocalStorage) (last : Option String) :
    completes r after last event = last ∨ ∃ q, event = .stage .pet q ∧
      completes r after last event = some q.bundle.publicPolynomial := by
  unfold completes
  split
  · split
    · exact .inr ⟨_, rfl, rfl⟩
    · exact .inl rfl
  · exact .inl rfl

/-- A bundle that becomes active was pending, and the bulletin has the update. -/
theorem mem_newActive (hindex : Pss.IndexApart (r.member i).entry (w.disks i).ringIndex)
    (hhonest : Honest r w (.node i faults event)) {entry : ι × Bytes}
    (hentry : entry ∈ newActive r i (w.disks i) (event.apply (r.member i) faults (w.disks i))) :
    w.finalized = true ∧ ∃ q, (w.disks i).pendingAt .pet r.ringId = some q ∧
      entry.2 = q.bundle.toBytes := by
  obtain ⟨hreads, -, hrefresh⟩ := hhonest
  unfold newActive at hentry
  split at hentry
  case isTrue => cases hentry
  case isFalse hchanged =>
    obtain ⟨bytes, hbytes, rfl⟩ := List.mem_map.mp hentry
    have hafter := Option.mem_toList.mp hbytes
    cases event.slotChange (r.member i) faults hindex .pet with
    | kept active pending | staged q event_eq active pending => exact absurd active hchanged
    | promoted bundle event_eq active pending => exact absurd event_eq (hrefresh bundle)
    | confirmed payload info bundle main reads holds expected active pending cleared => cases main
    | moved payload q reads waits expected active pending cleared =>
      exact ⟨hreads payload reads, q, waits, Option.some.inj (hafter.symm.trans active)⟩
    | deleted deletes active pending =>
      have hnone := hafter.symm.trans active
      cases hnone

end

/-! ## Runs -/

section

variable [DecidableEq ι] {r : PetRing ι} {w : PetWorld ι}

theorem Uniform.node (h : Uniform r w) {i : ι} {faults : StorageFaults} {event : RingEvent}
    (hhonest : Honest r w (.node i faults event)) (hcaught : CaughtUp r w (.node i faults event)) :
    Uniform r (step r w (.node i faults event)) := by
  refine ⟨fun j => ?_, fun j q hq => ?_, fun hfinalized j => ?_, fun entry hentry => ?_⟩
  · by_cases hj : j = i
    · subst hj
      simpa only [step, Function.update_self] using indexApart_apply (h.index j) faults event
    · simpa only [step, Function.update_of_ne hj] using h.index j
  · by_cases hj : j = i
    · subst hj
      simp only [step, Function.update_self] at hq ⊢
      exact completes_eq (h.index j) (h.pending j q) hq
    · simp only [step, Function.update_of_ne hj] at hq ⊢
      exact h.pending j q hq
  · by_cases hj : j = i
    · subst hj
      simp only [step, Function.update_self]
      rcases completes_cases (event.apply (r.member j) faults (w.disks j)) (w.completed j) with
        hlast | ⟨q, hstage, hnew⟩
      · rw [hlast]
        exact h.completed hfinalized j
      · exact .inr (hnew.trans (hcaught hfinalized q hstage).symm)
    · simp only [step, Function.update_of_ne hj]
      exact h.completed hfinalized j
  · rcases List.mem_append.mp hentry with hold | hnew
    · exact h.promoted entry hold
    · obtain ⟨hfinalized, q, hq, hbytes⟩ := mem_newActive (h.index i) hhonest hnew
      have hlatest := h.completed hfinalized i
      rw [h.pending i q hq] at hlatest
      exact ⟨hfinalized, q.bundle, hbytes, (hlatest.resolve_left nofun).symm⟩

theorem Uniform.step (h : Uniform r w) {event : PetEvent ι} (hhonest : Honest r w event)
    (hcaught : CaughtUp r w event) : Uniform r (step r w event) := by
  cases event with
  | begin polynomial =>
    -- Nothing is promoted before the update.
    have hnot : w.finalized ≠ true := fun hfinalized => by
      rw [hhonest] at hfinalized
      cases hfinalized
    exact ⟨h.index, h.pending, fun hfinalized => absurd hfinalized hnot,
      fun entry hentry => absurd (h.promoted entry hentry).1 hnot⟩
  | post faults signers =>
    refine ⟨h.index, h.pending, hcaught, fun entry hentry => ?_⟩
    obtain ⟨hfinalized, hbundle⟩ := h.promoted entry hentry
    exact ⟨by rw [PetWorld.step, hfinalized, Bool.true_or], hbundle⟩
  | node i faults event => exact h.node hhonest hcaught

/-- Whatever attempts are made and wherever they end, and whoever has staged a bundle of them: if
all have caught up when the update is posted, then all bundles of the checking key that members
promote have the same public polynomial. -/
theorem promoted_polynomial_eq (r : PetRing ι) {disks : ι → LocalStorage}
    (hindex : ∀ i, Pss.IndexApart (r.member i).entry (disks i).ringIndex)
    (hpending : ∀ i, (disks i).pendingAt .pet r.ringId = none) {events : List (PetEvent ι)}
    (hhonest : Along (step r) (Honest r) (start disks) events)
    (hcaught : Along (step r) (CaughtUp r) (start disks) events) :
    ∀ entry ∈ (run (step r) (start disks) events).promoted,
    ∀ entry' ∈ (run (step r) (start disks) events).promoted,
      ∃ bundle bundle' : RingShareBundle, entry.2 = bundle.toBytes ∧ entry'.2 = bundle'.toBytes ∧
        bundle.publicPolynomial = bundle'.publicPolynomial := by
  have hstart : Uniform r (start disks) := by
    refine ⟨hindex, fun i q hq => ?_, fun _ _ => .inl rfl, nofun⟩
    rw [start, hpending i] at hq
    cases hq
  have huniform : Uniform r (run (step r) (start disks) events) := by
    generalize start disks = w at *
    induction events generalizing w with
    | nil => exact hstart
    | cons event events ih => exact ih _ hhonest.2 hcaught.2 (hstart.step hhonest.1 hcaught.1)
  intro entry hentry entry' hentry'
  obtain ⟨-, bundle, hbytes, hhead⟩ := huniform.promoted entry hentry
  obtain ⟨-, bundle', hbytes', hhead'⟩ := huniform.promoted entry' hentry'
  exact ⟨bundle, bundle', hbytes, hbytes', Option.some.inj (hhead.symm.trans hhead')⟩

end

end PetWorld

/-! ## Three members -/

namespace PetRing.Trio

open RingMember.Pair (payload indexApart_empty)

def ring : PetRing (Fin 3) where
  nodeKey := fun i => ["n1", "n2", "n3"].get i
  ringKey := "rk"
  ringId := "ring"
  announced := { payload ["n1", "n2", "n3"] true with newThreshold := some 2 }

def found : RingPayload := Resolution.finalized.payload ring.announced

def bundle (polynomial : String) : RingShareBundle := ⟨[1], polynomial, 0⟩

def staged (i : Fin 3) (polynomial : String) : PetEvent (Fin 3) :=
  .node i .none (.stage .pet ⟨bundle polynomial, "ring", ["n1", "n2", "n3"], 2⟩)

def promotes (i : Fin 3) : PetEvent (Fin 3) :=
  .node i .none (.confirm (.continuingCommittee ⟨["n1", "n2", "n3"], 2⟩ (some (bundle "main")))
    [⟨true, some found⟩] true [⟨true, some found⟩])

def posted : PetEvent (Fin 3) := .post (fun _ => .none) [0, 1]

/-- The first attempt ends with the last member alone, the second one without it. -/
def twice : List (PetEvent (Fin 3)) :=
  [.begin "first", staged 2 "first", .begin "second", staged 0 "second", staged 1 "second", posted,
    promotes 0, promotes 2]

/-- The last member completes the second attempt as well. -/
def retried : List (PetEvent (Fin 3)) :=
  [.begin "first", staged 2 "first", .begin "second", staged 0 "second", staged 1 "second",
    staged 2 "second", posted, promotes 0, promotes 2]

theorem honest_staged {w : PetWorld (Fin 3)} {polynomial : String}
    (h : polynomial ∈ w.attempts) (i : Fin 3) :
    PetWorld.Honest ring w (staged i polynomial) := by
  have hdealt : (peerNodeKeysMatch ring.announced.effectiveNewPeerNodeKeys ["n1", "n2", "n3"] &&
      ring.announced.effectiveNewThreshold = 2) = true := by decide +kernel
  refine ⟨fun found hreads => hreads.elim, fun q hq => ?_, nofun⟩
  cases hq
  exact ⟨hdealt, h⟩

theorem honest_posted (w : PetWorld (Fin 3)) : PetWorld.Honest ring w posted := by
  refine ⟨?_, ?_⟩ <;> decide

theorem honest_promotes {w : PetWorld (Fin 3)} (h : w.finalized = true) (i : Fin 3) :
    PetWorld.Honest ring w (promotes i) :=
  ⟨fun _ _ => h, nofun, nofun⟩

theorem promoted_polynomial_eq_retried :
    let promoted := (run (PetWorld.step ring) (PetWorld.start fun _ => .empty) retried).promoted
    promoted = [(0, (bundle "second").toBytes), (2, (bundle "second").toBytes)] ∧
      ∃ bundle bundle' : RingShareBundle, (promoted.map Prod.snd)[0]? = some bundle.toBytes ∧
        (promoted.map Prod.snd)[1]? = some bundle'.toBytes ∧
        bundle.publicPolynomial = bundle'.publicPolynomial := by
  have hpromoted : (run (PetWorld.step ring) (PetWorld.start fun _ => .empty) retried).promoted =
      [(0, (bundle "second").toBytes), (2, (bundle "second").toBytes)] := by decide +kernel
  have hhonest : Along (PetWorld.step ring) (PetWorld.Honest ring)
      (PetWorld.start fun _ => .empty) retried := by
    refine ⟨rfl, honest_staged ?_ 2, rfl, honest_staged ?_ 0, honest_staged ?_ 1,
      honest_staged ?_ 2, honest_posted _, honest_promotes ?_ 0, honest_promotes ?_ 2, trivial⟩ <;>
      decide +kernel
  have hcaught : Along (PetWorld.step ring) (PetWorld.CaughtUp ring)
      (PetWorld.start fun _ => .empty) retried := by
    refine ⟨trivial, nofun, trivial, nofun, nofun, nofun, fun _ => ?_, nofun, nofun, trivial⟩
    decide +kernel
  obtain ⟨bundle₁, bundle₂, h₁, h₂, heq⟩ := PetWorld.promoted_polynomial_eq ring
    (fun _ => indexApart_empty _) (fun _ => rfl) hhonest hcaught
    (0, (bundle "second").toBytes) (by rw [hpromoted]; simp)
    (2, (bundle "second").toBytes) (by rw [hpromoted]; simp)
  refine ⟨hpromoted, bundle₁, bundle₂, ?_, ?_, heq⟩ <;> rw [hpromoted]
  · exact congrArg some h₁
  · exact congrArg some h₂

/-- All signers are ready and the update is posted, and the last member promotes what the first
attempt has left on its disk. -/
theorem promoted_of_two_attempts :
    Along (PetWorld.step ring) (PetWorld.Honest ring) (PetWorld.start fun _ => .empty) twice ∧
      (run (PetWorld.step ring) (PetWorld.start fun _ => .empty) twice).finalized = true ∧
      (run (PetWorld.step ring) (PetWorld.start fun _ => .empty) twice).promoted =
        [(0, (bundle "second").toBytes), (2, (bundle "first").toBytes)] := by
  refine ⟨⟨rfl, honest_staged ?_ 2, rfl, honest_staged ?_ 0, honest_staged ?_ 1, honest_posted _,
    honest_promotes ?_ 0, honest_promotes ?_ 2, trivial⟩, ?_, ?_⟩ <;> decide +kernel

end PetRing.Trio

end Orbis.Node
