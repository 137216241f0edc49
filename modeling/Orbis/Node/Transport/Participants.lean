import Orbis.Node.Dkg.Session

/-!
# Participants as texts

A participant is written as its committee and its number with a colon in between, and such texts are
the keys of the maps of a manifest.  The reader takes numbers with a plus sign and with leading
zeros as well, so that one participant has several keys.
-/

namespace Orbis.Node.Transport

open Orbis.Data Orbis.Node.Dkg

/-! ## Decimal digits -/

theorem digitChar_sub {c : Char} (h : c.isDigit) :
    c.toNat - '0'.toNat < 10 ∧ (c.toNat - '0'.toNat).digitChar = c := by
  obtain ⟨hlow, hhigh⟩ : 48 ≤ c.toNat ∧ c.toNat ≤ 57 := Char.isDigit_iff_toNat.mp h
  have hlt : c.toNat - 48 < 10 := by omega
  refine ⟨hlt, Char.toNat_inj.mp ?_⟩
  change (c.toNat - 48).digitChar.toNat = c.toNat
  rw [Nat.toNat_digitChar_of_lt_ten hlt]
  omega

/-- The digits read so far are those of a positive number. -/
theorem toDigits_append_digits {digits : List Char} (h : ∀ c ∈ digits, c.isDigit) {n : ℕ}
    (hn : 0 < n) :
    Nat.toDigits 10 n ++ digits = Nat.toDigits 10 (Nat.ofDigitChars 10 digits n) := by
  induction digits generalizing n with
  | nil => simp
  | cons c digits ih =>
    obtain ⟨hlt, hc⟩ := digitChar_sub (h c List.mem_cons_self)
    rw [Nat.ofDigitChars_cons, ← ih (fun c hc => h c (List.mem_cons_of_mem _ hc)) (by omega),
      ← Nat.toDigits_append_toDigits (by decide) hn hlt, Nat.toDigits_of_lt_base hlt, hc,
      List.append_assoc, List.singleton_append]

/-- Leading zeros do not count. -/
theorem exists_digits {digits : List Char} (h : ∀ c ∈ digits, c.isDigit)
    (hne : Nat.ofDigitChars 10 digits 0 ≠ 0) : ∃ zeros,
      digits = List.replicate zeros '0' ++ Nat.toDigits 10 (Nat.ofDigitChars 10 digits 0) := by
  induction digits with
  | nil => simp at hne
  | cons c digits ih =>
    obtain ⟨hlt, hc⟩ := digitChar_sub (h c List.mem_cons_self)
    have hrest : ∀ c ∈ digits, c.isDigit := fun c hc => h c (List.mem_cons_of_mem _ hc)
    rw [Nat.ofDigitChars_cons, Nat.mul_zero, Nat.zero_add] at hne ⊢
    by_cases hzero : c.toNat - '0'.toNat = 0
    · rw [hzero] at hne hc ⊢
      obtain ⟨zeros, hzeros⟩ := ih hrest hne
      refine ⟨zeros + 1, ?_⟩
      rw [List.replicate_succ, List.cons_append, ← hzeros, ← hc]
      rfl
    · refine ⟨0, ?_⟩
      rw [← toDigits_append_digits hrest (Nat.pos_of_ne_zero hzero), Nat.toDigits_of_lt_base hlt,
        hc]
      rfl

/-! ## Texts -/

/-- `str::split_once`. -/
def splitOnce (separator : Char) : List Char → Option (List Char × List Char)
  | [] => none
  | c :: rest =>
    if c = separator then some ([], rest)
    else (splitOnce separator rest).map fun parts => (c :: parts.1, parts.2)

theorem append_of_splitOnce {separator : Char} {chars first second : List Char}
    (h : splitOnce separator chars = some (first, second)) :
    chars = first ++ separator :: second := by
  induction chars generalizing first with
  | nil => cases h
  | cons c chars ih =>
    unfold splitOnce at h
    split at h
    next hc =>
      cases h
      rw [hc, List.nil_append]
    next =>
      obtain ⟨⟨first', second'⟩, hrest, hparts⟩ := Option.map_eq_some_iff.mp h
      cases hparts
      rw [ih hrest, List.cons_append]

/-- `str::parse::<u32>`: decimal digits, perhaps after a plus sign. -/
def parseU32 (chars : List Char) : Option ℕ :=
  let digits := if chars.head? = some '+' then chars.tail else chars
  if digits ≠ [] ∧ digits.all Char.isDigit then
    let value := Nat.ofDigitChars 10 digits 0
    if value < 2 ^ 32 then some value else none
  else none

theorem parseU32_toDigits {n : ℕ} (hn : n < 2 ^ 32) : parseU32 (Nat.toDigits 10 n) = some n := by
  have hall : ∀ c ∈ Nat.toDigits 10 n, c.isDigit := fun c hc =>
    Nat.isDigit_of_mem_toDigits (by decide) (by decide) hc
  have hunsigned : (Nat.toDigits 10 n).head? ≠ some '+' := fun hplus => by
    cases hall _ (List.mem_of_mem_head? hplus)
  unfold parseU32
  simp only [hunsigned, if_false, Nat.toDigits_ne_nil, ne_eq, not_false_eq_true, true_and,
    List.all_eq_true.mpr hall, if_true, Nat.ofDigitChars_ten_toDigits, hn]

theorem chars_of_parseU32 {chars : List Char} {n : ℕ} (hn : n ≠ 0)
    (h : parseU32 chars = some n) : ∃ sign ∈ [[], ['+']], ∃ zeros,
      chars = sign ++ (List.replicate zeros '0' ++ Nat.toDigits 10 n) := by
  obtain ⟨sign, hsign, hchars⟩ : ∃ sign ∈ [[], ['+']],
      chars = sign ++ if chars.head? = some '+' then chars.tail else chars := by
    split
    next hplus => exact ⟨['+'], by simp, List.eq_cons_of_mem_head? hplus⟩
    next => exact ⟨[], by simp, rfl⟩
  unfold parseU32 at h
  generalize (if chars.head? = some '+' then chars.tail else chars) = digits at h hchars
  simp only [Option.ite_none_right_eq_some, Option.some.injEq] at h
  obtain ⟨⟨-, hall⟩, -, rfl⟩ := h
  obtain ⟨zeros, hzeros⟩ := exists_digits (List.all_eq_true.mp hall) hn
  exact ⟨sign, hsign, zeros, hzeros ▸ hchars⟩

def scopeText : CommitteeScope → String
  | .current => "current"
  | .next => "next"

def scopeOfText (text : List Char) : Except String CommitteeScope :=
  if text = "current".toList then .ok .current
  else if text = "next".toList then .ok .next
  else
    let other := String.ofList text
    .error s!"unknown participant scope '{other}'"

theorem scopeOfText_eq_ok {text : List Char} {scope : CommitteeScope} :
    scopeOfText text = .ok scope ↔ text = (scopeText scope).toList := by
  constructor
  · intro h
    unfold scopeOfText at h
    split at h
    next hcurrent =>
      cases h
      exact hcurrent
    next =>
      split at h
      next hnext =>
        cases h
        exact hnext
      next => cases h
  · rintro rfl
    cases scope
    all_goals rfl

def serialize (participant : ParticipantRef) : String :=
  scopeText participant.scope ++ ":" ++ toString participant.nodeId

def deserialize (encoded : String) : Except String ParticipantRef := do
  let (scope, nodeId) ← okOr (splitOnce ':' encoded.toList)
    "participant must be '<scope>:<node_id>'"
  let scope ← scopeOfText scope
  let nodeId ← okOr (parseU32 nodeId) "participant node ID is not a u32"
  require (nodeId ≠ 0) "participant node ID must be greater than zero"
  pure ⟨scope, nodeId⟩

/-- The decoder inverts the encoder on every number but zero, and what it accepts is what the
encoder writes up to a plus sign and leading zeros. -/
theorem participant_decoded (participant : ParticipantRef) :
    (participant.nodeId ≠ 0 → participant.nodeId < 2 ^ 32 →
      deserialize (serialize participant) = .ok participant) ∧
    ∀ text, deserialize text = .ok participant → ∃ sign ∈ ["", "+"], ∃ zeros,
      text = scopeText participant.scope ++ ":" ++ sign ++
        String.ofList (List.replicate zeros '0') ++ toString participant.nodeId := by
  constructor
  · intro hne hlt
    have hsplit : splitOnce ':' (serialize participant).toList =
        some ((scopeText participant.scope).toList, Nat.toDigits 10 participant.nodeId) := by
      rw [serialize]
      cases participant.scope
      all_goals simp [scopeText, splitOnce]
    unfold deserialize
    simp only [hsplit, okOr_some, ok_bind, scopeOfText_eq_ok.mpr rfl, parseU32_toDigits hlt]
    exact require_bind hne _ _
  · intro text h
    obtain ⟨⟨first, digits⟩, hsplit, h⟩ := bind_eq_ok.mp h
    obtain ⟨scope, hscope, h⟩ := bind_eq_ok.mp h
    obtain ⟨n, hn, h⟩ := bind_eq_ok.mp h
    obtain ⟨hne, h⟩ := require_bind_eq_ok.mp h
    cases h
    obtain ⟨sign, hsign, zeros, hdigits⟩ := chars_of_parseU32 hne (okOr_eq_ok.mp hn)
    refine ⟨String.ofList sign, ?_, zeros, ?_⟩
    · rcases List.mem_pair.mp hsign with rfl | rfl <;> simp
    · rw [← String.toList_inj, append_of_splitOnce (okOr_eq_ok.mp hsplit),
        scopeOfText_eq_ok.mp hscope, hdigits]
      simp

theorem participant_not_canonical :
    deserialize "current:1" = .ok ⟨.current, 1⟩ ∧ deserialize "current:01" = .ok ⟨.current, 1⟩ ∧
      deserialize "current:+1" = .ok ⟨.current, 1⟩ ∧
      deserialize (serialize ⟨.current, 0⟩) =
        .error "participant node ID must be greater than zero" := by
  decide +kernel

end Orbis.Node.Transport
