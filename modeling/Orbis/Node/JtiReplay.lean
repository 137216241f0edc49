import Orbis.Data.ExpiryMap
import Orbis.Data.Fold
import Orbis.Transition.Run

/-!
# Client tokens are used once

A client presents a signed token with an issue time, an expiry time and an identifier.  A node
accepts it with some leeway on all comparisons with its clock, and its replay guard keeps the
identifier until the token has expired, in an expiry map of bounded size.  The lifetime that is left
is clamped before the leeway is added, so the identifier outlives the token if the token expires
within the maximal lifetime from the moment when it is recorded.

The clock is in nanoseconds since the Unix epoch; instants and system time are readings of the same
clock.  Signatures, the decoding of tokens and the metrics are left out.
-/

namespace Orbis.Node

open Orbis.Data Orbis.Transition

/-- Of a `u64`. -/
def saturatingAdd (a b : ℕ) : ℕ := min (a + b) (2 ^ 64 - 1)

def nanosPerSec : ℕ := 1000000000

def unixSecs (now : ℕ) : ℕ := now / nanosPerSec

def maxTokenLifetimeSecs : ℕ := 24 * 60 * 60

def jwtClockSkewLeewaySecs : ℕ := 5 * 60

def maxJwtBytes : ℕ := 16 * 1024

def maxJtiEntries : ℕ := 1000000

/-! ## Accepting a token -/

inductive AuthNError where
  | didError (message : String)
  | jwtError (message : String)
  | unauthorized (message : String)
deriving DecidableEq

structure BearerToken (T : Type) where
  issuerId : String
  subjectId : Option String
  issuedTime : ℕ
  expirationTime : ℕ
  notBefore : Option ℕ
  jwtId : String
  claims : T
deriving DecidableEq

/-- The decoder of tokens.  Without a key the signature is not checked. -/
structure JwtDecoder (T : Type) where
  algorithm : String → Except String String
  publicKey : String → Except AuthNError (List UInt8)
  decode : Option (List UInt8) → String → Except String (BearerToken T)

/-- The clock is compared with the times of a token, and its lifetime with the maximal one. -/
def checkTimes {T : Type} (token : BearerToken T) (currentTime maxLifetime leeway : ℕ) :
    Except AuthNError Unit := do
  require (currentTime - leeway < token.expirationTime) (.jwtError "Token has expired")
  require (token.issuedTime ≤ saturatingAdd currentTime leeway)
    (.jwtError "Token issued in the future")
  require (∀ notBefore ∈ token.notBefore, notBefore ≤ saturatingAdd currentTime leeway)
    (.jwtError "Token not yet valid (nbf)")
  require (token.issuedTime ≤ token.expirationTime)
    (.jwtError "Invalid token: issued after expiration")
  require (token.expirationTime - token.issuedTime ≤ maxLifetime)
    (.jwtError "Token lifetime exceeds maximum")

def resolveJwtDid {T : Type} (decoder : JwtDecoder T) (tokenStr : String)
    (currentTime maxLifetime maxBytes leeway : ℕ) : Except AuthNError (BearerToken T) := do
  let size := tokenStr.utf8ByteSize
  require (size ≤ maxBytes)
    (.jwtError s!"Token too large: {size} bytes exceeds maximum {maxBytes}")
  let algorithm ← (decoder.algorithm tokenStr).mapError fun error =>
    .jwtError s!"Failed to decode JWT header: {error}"
  require (algorithm = "EdDSA")
    (.jwtError s!"Unsupported algorithm: {algorithm}, expected EdDSA")
  let unverified ← (decoder.decode none tokenStr).mapError fun error =>
    .jwtError s!"Failed to decode JWT claims: {error}"
  require ("did:key:".toList.isPrefixOf unverified.issuerId.toList)
    (.didError "issuer DID must use the did:key method")
  let key ← decoder.publicKey unverified.issuerId
  let token ← (decoder.decode (some key) tokenStr).mapError fun error =>
    .jwtError s!"JWT signature verification failed: {error}"
  checkTimes token currentTime maxLifetime leeway
  pure token

def acceptToken {T : Type} (decoder : JwtDecoder T) (tokenStr : String) (currentTime : ℕ) :
    Except AuthNError (BearerToken T) :=
  resolveJwtDid decoder tokenStr currentTime maxTokenLifetimeSecs maxJwtBytes
    jwtClockSkewLeewaySecs

/-- A token is accepted only until the leeway after its expiry. -/
theorem acceptToken_lt {T : Type} {decoder : JwtDecoder T} {tokenStr : String} {currentTime : ℕ}
    {token : BearerToken T} (h : acceptToken decoder tokenStr currentTime = .ok token) :
    currentTime < token.expirationTime + jwtClockSkewLeewaySecs := by
  unfold acceptToken resolveJwtDid at h
  simp only [bind_eq_ok, require_eq_ok] at h
  obtain ⟨_, -, _, -, _, -, _, -, _, -, _, -, _, -, _, htimes, hpure⟩ := h
  cases hpure
  simp only [checkTimes, bind_eq_ok, require_eq_ok] at htimes
  obtain ⟨-, hexpired, -⟩ := htimes
  unfold jwtClockSkewLeewaySecs at *
  omega

/-! ## The replay guard -/

inductive ReplayError where
  | alreadyUsed
  | missingJti
deriving DecidableEq

def ReplayError.toString : ReplayError → String
  | alreadyUsed => "token has already been used"
  | missingJti => "token is missing a jti (id) claim"

inductive RecordOutcome where
  | recorded
  | recordedAfterEvicting
deriving DecidableEq

/-- Identifiers with the instants after which they may be swept. -/
structure JtiReplayGuard where
  seen : ExpiryMap String

namespace JtiReplayGuard

/-- The map is swept even if the identifier is rejected. -/
def tryRecordWithCap (map : ExpiryMap String) (jti : String) (deadline now maxEntries : ℕ) :
    ExpiryMap String × Except ReplayError RecordOutcome :=
  let map := map.sweep now
  if (map.lookup jti).isSome then (map, .error .alreadyUsed)
  else if maxEntries ≤ map.size then
    match map.oldest with
    | some oldest => ((map.erase oldest).insert jti deadline, .ok .recordedAfterEvicting)
    | none => (map.insert jti deadline, .ok .recorded)
  else (map.insert jti deadline, .ok .recorded)

def tryRecord (map : ExpiryMap String) (jti : String) (deadline now : ℕ) :
    ExpiryMap String × Except ReplayError RecordOutcome :=
  tryRecordWithCap map jti deadline now maxJtiEntries

def retention (tokenExpUnix nowUnix : ℕ) : ℕ :=
  saturatingAdd (min (tokenExpUnix - nowUnix) maxTokenLifetimeSecs) jwtClockSkewLeewaySecs

def deadline (tokenExpUnix now : ℕ) : ℕ :=
  now + retention tokenExpUnix (unixSecs now) * nanosPerSec

/-- An eviction is only logged. -/
def checkAndRecord (guard : JtiReplayGuard) (jti : String) (tokenExpUnix now : ℕ) :
    JtiReplayGuard × Except ReplayError Unit :=
  if jti.isEmpty then (guard, .error .missingJti)
  else
    let recorded := tryRecord (guard.seen.sweep now) jti (deadline tokenExpUnix now) now
    (⟨recorded.1⟩, recorded.2.map fun _ => ())

/-- What happens to a guard: the sweep of its own task, and checks for tokens. -/
inductive Event where
  | sweep (now : ℕ)
  | check (jti : String) (tokenExpUnix now : ℕ)

def Event.time : Event → ℕ
  | sweep now => now
  | check _ _ now => now

def step (guard : JtiReplayGuard) : Event → JtiReplayGuard
  | .sweep now => ⟨guard.seen.sweep now⟩
  | .check jti tokenExpUnix now => (guard.checkAndRecord jti tokenExpUnix now).1

def records (guard : JtiReplayGuard) : Event → Bool
  | .sweep _ => false
  | .check jti tokenExpUnix now => (guard.checkAndRecord jti tokenExpUnix now).2.isOk

def recordedIn (guard : JtiReplayGuard) : List Event → ℕ
  | [] => 0
  | event :: events => (guard.records event).toNat + recordedIn (guard.step event) events

/-! ## Identifiers on record -/

section

variable {map : ExpiryMap String} {jti : String} {due now maxEntries : ℕ}

theorem lookup_of_recorded (h : (tryRecordWithCap map jti due now maxEntries).2.isOk = true) :
    (tryRecordWithCap map jti due now maxEntries).1.lookup jti = some due := by
  unfold tryRecordWithCap at h ⊢
  simp only at h ⊢
  split
  case isTrue hseen =>
    rw [if_pos hseen] at h
    cases h
  case isFalse =>
    split
    · split <;> exact AList.lookup_insert _
    · exact AList.lookup_insert _

theorem isOk_tryRecordWithCap :
    (tryRecordWithCap map jti due now maxEntries).2.isOk = ((map.sweep now).lookup jti).isNone := by
  unfold tryRecordWithCap
  simp only
  cases (map.sweep now).lookup jti with
  | some due' => rfl
  | none =>
    simp only [Option.isSome_none, Bool.false_eq_true, if_false]
    split
    · split <;> rfl
    · rfl

variable
  (hroom : map.size + (tryRecordWithCap map jti due now maxEntries).2.isOk.toNat ≤ maxEntries)
include hroom

/-- With room for what is recorded nothing is evicted. -/
theorem tryRecordWithCap_of_room :
    tryRecordWithCap map jti due now maxEntries = (map.sweep now, .error .alreadyUsed) ∨
      (map.sweep now).lookup jti = none ∧
        tryRecordWithCap map jti due now maxEntries =
          ((map.sweep now).insert jti due, .ok .recorded) := by
  rw [isOk_tryRecordWithCap] at hroom
  unfold tryRecordWithCap
  cases hlookup : (map.sweep now).lookup jti with
  | some due' => simp [hlookup]
  | none =>
    have hswept := map.size_sweep_le now
    have hsize : ¬maxEntries ≤ (map.sweep now).size := by
      simp only [hlookup, Option.isNone_none, Bool.toNat_true] at hroom
      omega
    simp [hlookup, hsize]

/-- Then other entries stay until they are due. -/
theorem lookup_tryRecordWithCap_of_room {jti' : String} {due' : ℕ} (h : map.lookup jti' = some due')
    (hnow : now < due') :
    (tryRecordWithCap map jti due now maxEntries).1.lookup jti' = some due' := by
  have hswept := ExpiryMap.lookup_sweep.mpr ⟨h, hnow⟩
  rcases tryRecordWithCap_of_room hroom with heq | ⟨hnew, heq⟩
  · rw [heq]
    exact hswept
  · have hne : jti' ≠ jti := by
      rintro rfl
      rw [hnew] at hswept
      cases hswept
    rw [heq, AList.lookup_insert_ne hne]
    exact hswept

theorem size_tryRecordWithCap_of_room :
    (tryRecordWithCap map jti due now maxEntries).1.size ≤
      map.size + (tryRecordWithCap map jti due now maxEntries).2.isOk.toNat := by
  have hswept := map.size_sweep_le now
  rcases tryRecordWithCap_of_room hroom with heq | ⟨-, heq⟩
  · rw [heq]
    exact hswept
  · rw [heq]
    calc ExpiryMap.size ((map.sweep now).insert jti due) ≤ (map.sweep now).size + 1 :=
          ExpiryMap.size_insert_le ..
      _ ≤ map.size + 1 := by omega

end

section

variable {guard : JtiReplayGuard} {event : Event}

theorem records_check {jti : String} (hjti : jti.isEmpty = false) (tokenExpUnix now : ℕ) :
    guard.records (.check jti tokenExpUnix now) =
      (tryRecord (guard.seen.sweep now) jti (deadline tokenExpUnix now) now).2.isOk := by
  simp only [records, checkAndRecord, hjti, Bool.false_eq_true, if_false]
  cases (tryRecord (guard.seen.sweep now) jti (deadline tokenExpUnix now) now).2 <;> rfl

theorem seen_check {jti : String} (hjti : jti.isEmpty = false) (tokenExpUnix now : ℕ) :
    (guard.step (.check jti tokenExpUnix now)).seen =
      (tryRecord (guard.seen.sweep now) jti (deadline tokenExpUnix now) now).1 := by
  simp only [step, checkAndRecord, hjti, Bool.false_eq_true, if_false]

/-- One event keeps what is on record and not yet due, if there is room for what it records. -/
theorem lookup_step (hroom : guard.seen.size + (guard.records event).toNat ≤ maxJtiEntries)
    {jti : String} {due : ℕ} (h : guard.seen.lookup jti = some due) (htime : event.time < due) :
    (guard.step event).seen.lookup jti = some due := by
  cases event with
  | sweep now => exact ExpiryMap.lookup_sweep.mpr ⟨h, htime⟩
  | check jti' tokenExpUnix now =>
    by_cases hjti : jti'.isEmpty = true
    · simpa [step, checkAndRecord, hjti] using h
    · have hsize := guard.seen.size_sweep_le now
      rw [records_check (Bool.eq_false_of_not_eq_true hjti)] at hroom
      rw [seen_check (Bool.eq_false_of_not_eq_true hjti)]
      exact lookup_tryRecordWithCap_of_room (Nat.le_trans (Nat.add_le_add_right hsize _) hroom)
        (ExpiryMap.lookup_sweep.mpr ⟨h, htime⟩) htime

theorem size_step (hroom : guard.seen.size + (guard.records event).toNat ≤ maxJtiEntries) :
    (guard.step event).seen.size ≤ guard.seen.size + (guard.records event).toNat := by
  cases event with
  | sweep now => exact guard.seen.size_sweep_le now
  | check jti' tokenExpUnix now =>
    by_cases hjti : jti'.isEmpty = true
    · simp [step, checkAndRecord, hjti]
    · have hsize := guard.seen.size_sweep_le now
      rw [records_check (Bool.eq_false_of_not_eq_true hjti)] at hroom ⊢
      rw [seen_check (Bool.eq_false_of_not_eq_true hjti)]
      calc (tryRecord (guard.seen.sweep now) jti' (deadline tokenExpUnix now) now).1.size
          ≤ (guard.seen.sweep now).size + _ :=
            size_tryRecordWithCap_of_room (Nat.le_trans (Nat.add_le_add_right hsize _) hroom)
        _ ≤ guard.seen.size + _ := Nat.add_le_add_right hsize _

/-- All that is recorded in a run fits: what is on record stays until it is due. -/
theorem lookup_run {events : List Event} {guard : JtiReplayGuard}
    (hroom : guard.seen.size + guard.recordedIn events ≤ maxJtiEntries) {jti : String} {due : ℕ}
    (h : guard.seen.lookup jti = some due) (htimes : ∀ event ∈ events, event.time < due) :
    (run step guard events).seen.lookup jti = some due := by
  induction events generalizing guard with
  | nil => exact h
  | cons event events ih =>
    obtain ⟨hfirst, hrest⟩ := List.forall_mem_cons.mp htimes
    rw [recordedIn] at hroom
    have hone : guard.seen.size + (guard.records event).toNat ≤ maxJtiEntries := by omega
    have hsize := size_step hone
    exact ih (by omega) (lookup_step hone h hfirst) hrest

end

/-! ## Deadlines -/

/-- An identifier is kept at least until its token is no longer accepted, if the token expires
within the maximal lifetime. -/
theorem lt_deadline {tokenExpUnix now later : ℕ}
    (hexp : tokenExpUnix ≤ unixSecs now + maxTokenLifetimeSecs)
    (hlater : unixSecs later < tokenExpUnix + jwtClockSkewLeewaySecs) :
    later < deadline tokenExpUnix now := by
  have hmin : min (tokenExpUnix - unixSecs now) maxTokenLifetimeSecs =
      tokenExpUnix - unixSecs now := by omega
  have hretention : tokenExpUnix + jwtClockSkewLeewaySecs ≤
      unixSecs now + retention tokenExpUnix (unixSecs now) := by
    simp only [retention, saturatingAdd, hmin, jwtClockSkewLeewaySecs, maxTokenLifetimeSecs] at *
    omega
  unfold deadline unixSecs nanosPerSec at *
  omega

end JtiReplayGuard

/-- After a token has been recorded, every later use at a time at which the token is still accepted
is rejected: if it expires within the maximal lifetime from when it was recorded, and the
identifiers then on record and those recorded since fit into the guard. -/
theorem token_used_once {T : Type} (decoder : JwtDecoder T) (tokenStr : String)
    {token : BearerToken T} (guard : JtiReplayGuard) {now later : ℕ}
    (hrecorded : (guard.checkAndRecord token.jwtId token.expirationTime now).2 = .ok ())
    (hexp : token.expirationTime ≤ unixSecs now + maxTokenLifetimeSecs)
    {events : List JtiReplayGuard.Event} (htimes : ∀ event ∈ events, event.time ≤ later)
    (hroom : (guard.checkAndRecord token.jwtId token.expirationTime now).1.seen.size +
      (guard.checkAndRecord token.jwtId token.expirationTime now).1.recordedIn events ≤
        maxJtiEntries)
    (haccepted : acceptToken decoder tokenStr (unixSecs later) = .ok token) :
    ((run JtiReplayGuard.step (guard.checkAndRecord token.jwtId token.expirationTime now).1
      events).checkAndRecord token.jwtId token.expirationTime later).2 = .error .alreadyUsed := by
  have hlt : later < JtiReplayGuard.deadline token.expirationTime now :=
    JtiReplayGuard.lt_deadline hexp (acceptToken_lt haccepted)
  have hjti : token.jwtId.isEmpty = false := by
    by_contra hempty
    rw [JtiReplayGuard.checkAndRecord, if_pos (Bool.eq_true_of_not_eq_false hempty)] at hrecorded
    cases hrecorded
  have hlookup : (guard.checkAndRecord token.jwtId token.expirationTime now).1.seen.lookup
      token.jwtId = some (JtiReplayGuard.deadline token.expirationTime now) := by
    have hok : guard.records (.check token.jwtId token.expirationTime now) = true := by
      simp only [JtiReplayGuard.records, hrecorded]
      rfl
    rw [JtiReplayGuard.records_check hjti] at hok
    exact (congrArg (AList.lookup token.jwtId) (JtiReplayGuard.seen_check hjti _ _)).trans
      (JtiReplayGuard.lookup_of_recorded hok)
  have hkept := JtiReplayGuard.lookup_run hroom hlookup fun event hmem =>
    Nat.lt_of_le_of_lt (htimes event hmem) hlt
  generalize run JtiReplayGuard.step _ events = guard' at hkept ⊢
  have hswept := ExpiryMap.lookup_sweep.mpr ⟨ExpiryMap.lookup_sweep.mpr ⟨hkept, hlt⟩, hlt⟩
  simp only [JtiReplayGuard.checkAndRecord, hjti, Bool.false_eq_true, if_false,
    JtiReplayGuard.tryRecord, JtiReplayGuard.tryRecordWithCap, hswept]
  rfl

/-! ## Tokens with the maximal lifetime -/

namespace JtiReplayGuard.Longest

def empty : JtiReplayGuard := ⟨∅⟩

def token (issuedTime : ℕ) : BearerToken Unit where
  issuerId := "did:key:z6Mk"
  subjectId := none
  issuedTime
  expirationTime := issuedTime + maxTokenLifetimeSecs
  notBefore := none
  jwtId := "id"
  claims := ()

def decoder (issuedTime : ℕ) : JwtDecoder Unit where
  algorithm := fun _ => .ok "EdDSA"
  publicKey := fun _ => .ok [1]
  decode := fun _ _ => .ok (token issuedTime)

/-- The guard after the token has been recorded at `1000` seconds. -/
def recorded (issuedTime : ℕ) : JtiReplayGuard :=
  (empty.checkAndRecord (token issuedTime).jwtId (token issuedTime).expirationTime
    (1000 * nanosPerSec)).1

/-- The next day, with another token in between. -/
def later : ℕ := (1000 + maxTokenLifetimeSecs + jwtClockSkewLeewaySecs - 1) * nanosPerSec

def between : List Event := [.check "other" 2000 (1500 * nanosPerSec), .sweep later]

theorem token_used_once_issued_now :
    ((run step (recorded 1000) between).checkAndRecord (token 1000).jwtId
      (token 1000).expirationTime later).2 = .error .alreadyUsed := by
  have hrecorded : (empty.checkAndRecord (token 1000).jwtId (token 1000).expirationTime
      (1000 * nanosPerSec)).2 = .ok () := by decide +kernel
  have htimes : ∀ event ∈ between, event.time ≤ later := by decide +kernel
  have hroom : (recorded 1000).seen.size + (recorded 1000).recordedIn between ≤ maxJtiEntries := by
    decide +kernel
  have haccepted : acceptToken (decoder 1000) "jwt" (unixSecs later) = .ok (token 1000) := by
    decide +kernel
  unfold recorded at hroom ⊢
  exact token_used_once (decoder 1000) "jwt" empty hrecorded (by decide +kernel) htimes hroom
    haccepted

/-- A token from the end of the leeway ahead is accepted and recorded, and swept while it is still
accepted. -/
theorem token_used_twice_issued_ahead :
    let again := (1000 + maxTokenLifetimeSecs + jwtClockSkewLeewaySecs) * nanosPerSec
    acceptToken (decoder 1300) "jwt" (unixSecs (1000 * nanosPerSec)) = .ok (token 1300) ∧
      (empty.checkAndRecord "id" (token 1300).expirationTime (1000 * nanosPerSec)).2 = .ok () ∧
      acceptToken (decoder 1300) "jwt" (unixSecs again) = .ok (token 1300) ∧
      ((recorded 1300).checkAndRecord "id" (token 1300).expirationTime again).2 = .ok () := by
  decide +kernel

end JtiReplayGuard.Longest

end Orbis.Node
