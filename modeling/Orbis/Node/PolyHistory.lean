import Orbis.Node.RingState

/-!
# Retired ring polynomials

When a bundle is overwritten, the public polynomial it held is kept for a while, so that a
response that was computed under it can still be verified.  An entry carries the time at which the
new bundle was staged, not the time at which it was saved; entries are dropped by age and by
number.  As for the bundles, reading and writing the store itself does not fail here.
-/

namespace Orbis.Node

open Orbis.Crypto Orbis.Data
open RingShareBundle (Storage loadByRingKey)

def ringPolyHistoryRetentionSecs : ℕ := 180

def ringPolyHistoryMaxEntries : ℕ := 4

structure RetiredPolynomial where
  publicPolynomial : String
  retiredAt : UInt64
deriving DecidableEq

/-- The subtraction saturates, so that an entry of the future is in the window. -/
def RetiredPolynomial.inWindow (now : UInt64) (entry : RetiredPolynomial) : Bool :=
  now.toNat - entry.retiredAt.toNat ≤ ringPolyHistoryRetentionSecs

/-- The entries under `RingPolyHistory`, decoded; the most recently retired is the first. -/
abbrev RingPolyHistory := AList fun _ : String => List RetiredPolynomial

namespace RingPolyHistory

def load (history : RingPolyHistory) (ringKey : String) : List RetiredPolynomial :=
  (history.lookup ringKey).getD []

def recordRetired (history : RingPolyHistory) (ringKey publicPolynomial : String)
    (retiredAt : UInt64) : RingPolyHistory :=
  let kept := (load history ringKey).filter (RetiredPolynomial.inWindow retiredAt)
  history.insert ringKey ((⟨publicPolynomial, retiredAt⟩ :: kept).take ringPolyHistoryMaxEntries)

def recent (history : RingPolyHistory) (ringKey : String) (now : UInt64) : List String :=
  ((load history ringKey).filter (RetiredPolynomial.inWindow now)).map
    RetiredPolynomial.publicPolynomial

theorem load_recordRetired (history : RingPolyHistory) (ringKey publicPolynomial : String)
    (retiredAt : UInt64) :
    load (history.recordRetired ringKey publicPolynomial retiredAt) ringKey =
      (⟨publicPolynomial, retiredAt⟩ ::
        (load history ringKey).filter (RetiredPolynomial.inWindow retiredAt)).take
          ringPolyHistoryMaxEntries := by
  unfold recordRetired
  rw [load, AList.lookup_insert, Option.getD_some]

/-- An entry among the first `n` that the pruning keeps moves back by at most one place. -/
theorem mem_take_recordRetired {history : RingPolyHistory} {ringKey publicPolynomial : String}
    {retiredAt : UInt64} {n : ℕ} {entry : RetiredPolynomial}
    (hmem : entry ∈ (load history ringKey).take n) (hkept : entry.inWindow retiredAt)
    (hn : n < ringPolyHistoryMaxEntries) :
    entry ∈ (load (history.recordRetired ringKey publicPolynomial retiredAt) ringKey).take
      (n + 1) := by
  set entries := load history ringKey
  have hprefix : (entries.take n).filter (RetiredPolynomial.inWindow retiredAt) <+:
      (entries.filter (RetiredPolynomial.inWindow retiredAt)).take n := by
    apply List.prefix_take_iff.mpr
    constructor
    · exact (List.take_prefix n entries).filter _
    · calc ((entries.take n).filter (RetiredPolynomial.inWindow retiredAt)).length
          ≤ (entries.take n).length := List.length_filter_le _ _
        _ ≤ n := List.length_take_le n entries
  have hentry := hprefix.subset (List.mem_filter.mpr ⟨hmem, hkept⟩)
  have hmin : min (n + 1) ringPolyHistoryMaxEntries = n + 1 := by omega
  rw [load_recordRetired, List.take_take, hmin, List.take_succ_cons]
  exact List.mem_cons_of_mem _ hentry

end RingPolyHistory

/-! ## Saving a bundle -/

/-- What a node stores about its rings: the bundles, and the polynomials it has retired. -/
structure RingStore where
  bundles : Storage
  retired : RingPolyHistory

namespace RingStore

def stashPreviousPolynomial (store : RingStore) (ringKey : String) (bundle : RingShareBundle) :
    RingPolyHistory :=
  match loadByRingKey store.bundles ringKey with
  | .error _ => store.retired
  | .ok previous =>
    if previous.publicPolynomial = bundle.publicPolynomial then store.retired
    else store.retired.recordRetired ringKey previous.publicPolynomial bundle.lastPss

def save (store : RingStore) (ringKey : String) (bundle : RingShareBundle) : RingStore where
  bundles := bundle.saveByRingKey store.bundles ringKey
  retired := store.stashPreviousPolynomial ringKey bundle

def Active (store : RingStore) (ringKey publicPolynomial : String) : Prop :=
  ∃ bundle, loadByRingKey store.bundles ringKey = .ok bundle ∧
    bundle.publicPolynomial = publicPolynomial

end RingStore

/-! ## Promotions

A bundle is staged when its ceremony completes, which is its `lastPss`, and saved some time after
that. -/

structure Promotion where
  bundle : RingShareBundle
  savedAt : UInt64
  staged_le : bundle.lastPss ≤ savedAt
  share_lt : bundle.shareBytes.length < 2 ^ 32
  poly_lt : (utf8Bytes bundle.publicPolynomial).length < 2 ^ 32

namespace RingStore

variable {store : RingStore} {ringKey text : String}

def run (store : RingStore) (ringKey : String) (promotions : List Promotion) : RingStore :=
  promotions.foldl (fun store p => store.save ringKey p.bundle) store

theorem load_save (store : RingStore) (ringKey : String) (p : Promotion) :
    loadByRingKey (store.save ringKey p.bundle).bundles ringKey = .ok p.bundle := by
  unfold save loadByRingKey RingShareBundle.saveByRingKey
  simp only [AList.lookup_insert]
  exact RingShareBundle.fromBytes_toBytes p.share_lt p.poly_lt

/-- The polynomial is the active one, or among the `n` retired last, and still in the window. -/
def Remembered (store : RingStore) (ringKey text : String) (now : UInt64) (n : ℕ) : Prop :=
  store.Active ringKey text ∨
    ∃ entry ∈ (store.retired.load ringKey).take n,
      entry.publicPolynomial = text ∧ entry.inWindow now

variable {now : UInt64}

theorem Remembered.recent {n : ℕ} (h : store.Remembered ringKey text now n) :
    store.Active ringKey text ∨ text ∈ store.retired.recent ringKey now := by
  rcases h with hactive | ⟨entry, hmem, htext, hwindow⟩
  · exact .inl hactive
  · refine .inr (List.mem_map.mpr ⟨entry, List.mem_filter.mpr ⟨?_, hwindow⟩, htext⟩)
    exact List.mem_of_mem_take hmem

/-- Saving a bundle that was staged recently forgets nothing that is still in the window, unless
the history is full. -/
theorem Remembered.save {n : ℕ} (h : store.Remembered ringKey text now n)
    (hn : n < ringPolyHistoryMaxEntries) {p : Promotion} (hsaved : p.savedAt ≤ now)
    (hstaged : now.toNat - p.bundle.lastPss.toNat ≤ ringPolyHistoryRetentionSecs) :
    (store.save ringKey p.bundle).Remembered ringKey text now (n + 1) := by
  have hlast : p.bundle.lastPss.toNat ≤ now.toNat :=
    UInt64.le_iff_toNat_le.mp (UInt64.le_trans p.staged_le hsaved)
  rcases h with ⟨previous, hload, rfl⟩ | ⟨entry, hmem, htext, hwindow⟩
  · by_cases hsame : previous.publicPolynomial = p.bundle.publicPolynomial
    · rw [hsame]
      exact .inl ⟨p.bundle, store.load_save ringKey p, rfl⟩
    · -- The active polynomial becomes the first entry.
      refine .inr ⟨⟨previous.publicPolynomial, p.bundle.lastPss⟩, ?_, rfl, ?_⟩
      · unfold RingStore.save stashPreviousPolynomial
        simp only [hload, if_neg hsame]
        rw [RingPolyHistory.load_recordRetired]
        exact List.mem_cons_self
      · simpa only [RetiredPolynomial.inWindow, decide_eq_true_eq] using hstaged
  · refine .inr ⟨entry, ?_, htext, hwindow⟩
    unfold RingStore.save stashPreviousPolynomial
    have hstay : entry ∈ (store.retired.load ringKey).take (n + 1) :=
      List.take_subset_take_left _ (Nat.le_succ n) hmem
    cases hload : loadByRingKey store.bundles ringKey with
    | error e => exact hstay
    | ok previous =>
      dsimp only
      split_ifs with hsame
      · exact hstay
      · apply RingPolyHistory.mem_take_recordRetired hmem _ hn
        simp only [RetiredPolynomial.inWindow, decide_eq_true_eq] at hwindow ⊢
        omega

theorem Remembered.run {n : ℕ} (h : store.Remembered ringKey text now n)
    {promotions : List Promotion} (hn : n + promotions.length ≤ ringPolyHistoryMaxEntries)
    (hsaved : ∀ p ∈ promotions, p.savedAt ≤ now) (hstaged : ∀ p ∈ promotions,
      now.toNat - p.bundle.lastPss.toNat ≤ ringPolyHistoryRetentionSecs) :
    (store.run ringKey promotions).Remembered ringKey text now (n + promotions.length) := by
  induction promotions generalizing store n with
  | nil => exact h
  | cons p promotions ih =>
    rw [List.length_cons] at hn ⊢
    have hstep := h.save (by omega) (hsaved p List.mem_cons_self)
      (hstaged p List.mem_cons_self)
    have hrest := ih hstep (by omega) (fun q hq => hsaved q (List.mem_cons_of_mem p hq))
      (fun q hq => hstaged q (List.mem_cons_of_mem p hq))
    rw [show n + (promotions.length + 1) = n + 1 + promotions.length by omega]
    exact hrest

end RingStore

/-! ## The promotions of a node -/

/-- The promotions of one ring at a node, in the order in which they were saved. -/
structure PromotionHistory where
  ringKey : String
  initial : RingStore
  promotions : List Promotion
  ordered : promotions.Pairwise fun p q => p.savedAt ≤ q.savedAt

namespace PromotionHistory

variable (history : PromotionHistory)

def storeAt (time : UInt64) : RingStore :=
  history.initial.run history.ringKey (history.promotions.filter (·.savedAt ≤ time))

def between (start stop : UInt64) : List Promotion :=
  history.promotions.filter fun p => start < p.savedAt ∧ p.savedAt ≤ stop

/-- What the node has promoted since the polynomial was active does not drive it out of the
history: at most four bundles, each staged at most the retention time before. -/
structure Retains (start stop : UInt64) : Prop where
  few : (history.between start stop).length ≤ ringPolyHistoryMaxEntries
  staged : ∀ p ∈ history.between start stop,
    stop.toNat - p.bundle.lastPss.toNat ≤ ringPolyHistoryRetentionSecs

variable {start stop : UInt64}

theorem filter_le_append_of_ordered {promotions : List Promotion}
    (hordered : promotions.Pairwise fun p q => p.savedAt ≤ q.savedAt) (hle : start ≤ stop) :
    promotions.filter (·.savedAt ≤ stop) =
      promotions.filter (·.savedAt ≤ start) ++
        promotions.filter fun p => start < p.savedAt ∧ p.savedAt ≤ stop := by
  induction promotions with
  | nil => rfl
  | cons p promotions ih =>
    obtain ⟨hhead, hrest⟩ := List.pairwise_cons.mp hordered
    by_cases hstart : p.savedAt ≤ start
    · have hstop : p.savedAt ≤ stop := UInt64.le_trans hstart hle
      have hnot : ¬(start < p.savedAt ∧ p.savedAt ≤ stop) := by
        rintro ⟨hlt, -⟩
        exact UInt64.not_lt.mpr hstart hlt
      rw [List.filter_cons_of_pos (by simpa using hstop),
        List.filter_cons_of_pos (by simpa using hstart),
        List.filter_cons_of_neg (by simpa using hnot), ih hrest, List.cons_append]
    · -- Nothing after this promotion was saved by `start` either.
      have hlt : start < p.savedAt := UInt64.not_le.mp hstart
      have hnone : (p :: promotions).filter (·.savedAt ≤ start) = [] := by
        apply List.filter_eq_nil_iff.mpr
        intro q hq hqs
        rcases List.mem_cons.mp hq with rfl | hq
        · exact hstart (by simpa using hqs)
        · exact hstart (UInt64.le_trans (hhead q hq) (by simpa using hqs))
      rw [hnone, List.nil_append]
      apply List.filter_congr
      intro q hq
      have hqlt : start < q.savedAt := by
        rcases List.mem_cons.mp hq with rfl | hq
        · exact hlt
        · exact UInt64.lt_of_lt_of_le hlt (hhead q hq)
      simp [hqlt]

theorem storeAt_eq (hle : start ≤ stop) : history.storeAt stop =
      (history.storeAt start).run history.ringKey (history.between start stop) := by
  unfold storeAt between RingStore.run
  rw [filter_le_append_of_ordered history.ordered hle, List.foldl_append]

/-- A polynomial that was active is the active one or in the history, as long as the promotions
since then retain it. -/
theorem active_or_recent {history : PromotionHistory} {text : String}
    (hactive : (history.storeAt start).Active history.ringKey text) (hle : start ≤ stop)
    (hretains : history.Retains start stop) : (history.storeAt stop).Active history.ringKey text ∨
      text ∈ (history.storeAt stop).retired.recent history.ringKey stop := by
  have hstart : (history.storeAt start).Remembered history.ringKey text stop 0 := .inl hactive
  have hsaved : ∀ p ∈ history.between start stop, p.savedAt ≤ stop := by
    intro p hp
    simpa using (of_decide_eq_true (List.mem_filter.mp hp).2).2
  have hfew : 0 + (history.between start stop).length ≤ ringPolyHistoryMaxEntries := by
    rw [Nat.zero_add]
    exact hretains.few
  rw [history.storeAt_eq hle]
  exact (hstart.run hfew hsaved hretains.staged).recent

end PromotionHistory

end Orbis.Node
