import Mathlib.Data.List.Basic
import Mathlib.Tactic.IntervalCases

/-!
# Byte strings

Little-endian integers of a fixed width, texts as UTF-8 and hexadecimal digits, with the round
trips between values and bytes.
-/

namespace Orbis.Data

abbrev Bytes := List UInt8

/-! ## Little-endian integers -/

/-- The low `width` bytes of `n`, lowest first. -/
def leBytes : ℕ → ℕ → Bytes
  | 0, _ => []
  | width + 1, n => UInt8.ofNat n :: leBytes width (n / 256)

def leValue : Bytes → ℕ
  | [] => 0
  | b :: bs => b.toNat + 256 * leValue bs

@[simp] theorem length_leBytes (width n : ℕ) : (leBytes width n).length = width := by
  induction width generalizing n with
  | zero => rfl
  | succ width ih => rw [leBytes, List.length_cons, ih]

theorem leValue_leBytes {width n : ℕ} (h : n < 256 ^ width) :
    leValue (leBytes width n) = n := by
  induction width generalizing n with
  | zero =>
    have hn : n = 0 := by
      rw [pow_zero] at h
      omega
    rw [hn]
    rfl
  | succ width ih =>
    have hdiv : n / 256 < 256 ^ width := by
      apply Nat.div_lt_of_lt_mul
      rw [pow_succ] at h
      omega
    rw [leBytes, leValue, ih hdiv]
    have hbyte : (UInt8.ofNat n).toNat = n % 256 := by simp
    rw [hbyte]
    omega

/-! ## Reading a prefix -/

/-- Split off the first `n` bytes, if there are that many. -/
def splitBytes (n : ℕ) (bytes : Bytes) : Option (Bytes × Bytes) :=
  if bytes.length < n then none else some (bytes.take n, bytes.drop n)

theorem splitBytes_append {n : ℕ} {head rest : Bytes} (h : head.length = n) :
    splitBytes n (head ++ rest) = some (head, rest) := by
  have hlen : ¬(head ++ rest).length < n := by
    rw [List.length_append]
    omega
  rw [splitBytes, if_neg hlen, ← h, List.take_left, List.drop_left]

/-! ## Texts -/

def utf8Bytes (text : String) : Bytes := text.toByteArray.data.toList

def utf8Text (bytes : Bytes) : Option String := String.fromUTF8? ⟨bytes.toArray⟩

theorem utf8Text_utf8Bytes (text : String) : utf8Text (utf8Bytes text) = some text := by
  have hbytes : (⟨(utf8Bytes text).toArray⟩ : ByteArray) = text.toByteArray := by
    simp [utf8Bytes]
  rw [utf8Text, hbytes, String.fromUTF8?, dif_pos text.isValidUTF8]
  rfl

/-! ## Hexadecimal digits -/

def hexDigit (d : ℕ) : Char := if d < 10 then Char.ofNat (48 + d) else Char.ofNat (87 + d)

/-- Both cases of the letters are accepted. -/
def hexValue (c : Char) : Option ℕ :=
  let n := c.toNat
  if 48 ≤ n ∧ n ≤ 57 then some (n - 48)
  else if 97 ≤ n ∧ n ≤ 102 then some (n - 87)
  else if 65 ≤ n ∧ n ≤ 70 then some (n - 55)
  else none

def hexChars : Bytes → List Char
  | [] => []
  | b :: bs => hexDigit (b.toNat / 16) :: hexDigit (b.toNat % 16) :: hexChars bs

def unhexChars : List Char → Option Bytes
  | [] => some []
  | [_] => none
  | c :: d :: cs => do
      let high ← hexValue c
      let low ← hexValue d
      let bytes ← unhexChars cs
      pure (UInt8.ofNat (16 * high + low) :: bytes)

def hexEncode (bytes : Bytes) : String := String.ofList (hexChars bytes)

def hexDecode (text : String) : Option Bytes := unhexChars text.toList

theorem hexValue_hexDigit {d : ℕ} (h : d < 16) : hexValue (hexDigit d) = some d := by
  interval_cases d <;> rfl

theorem unhexChars_hexChars (bytes : Bytes) : unhexChars (hexChars bytes) = some bytes := by
  induction bytes with
  | nil => rfl
  | cons b bytes ih =>
    have hb : b.toNat < 256 := b.toNat_lt
    have hhigh : hexValue (hexDigit (b.toNat / 16)) = some (b.toNat / 16) := by
      apply hexValue_hexDigit
      omega
    have hlow : hexValue (hexDigit (b.toNat % 16)) = some (b.toNat % 16) := by
      apply hexValue_hexDigit
      omega
    have hbyte : 16 * (b.toNat / 16) + b.toNat % 16 = b.toNat := by omega
    simp only [hexChars, unhexChars, hhigh, hlow, ih, Option.bind_eq_bind, Option.bind_some,
      hbyte, UInt8.ofNat_toNat]
    rfl

theorem hexDecode_hexEncode (bytes : Bytes) : hexDecode (hexEncode bytes) = some bytes := by
  rw [hexDecode, hexEncode, String.toList_ofList, unhexChars_hexChars]

theorem hexEncode_injective : Function.Injective hexEncode := by
  intro a b h
  have hdecode : hexDecode (hexEncode a) = hexDecode (hexEncode b) := by rw [h]
  rw [hexDecode_hexEncode, hexDecode_hexEncode] at hdecode
  exact Option.some.inj hdecode

theorem utf8Size_hexDigit {d : ℕ} (h : d < 16) : (hexDigit d).utf8Size = 1 := by
  interval_cases d <;> rfl

theorem utf8Size_of_mem_hexChars {bytes : Bytes} {c : Char} (h : c ∈ hexChars bytes) :
    c.utf8Size = 1 := by
  induction bytes with
  | nil => cases h
  | cons b bytes ih =>
    have hb : b.toNat < 256 := b.toNat_lt
    rcases List.mem_cons.mp h with rfl | h
    · apply utf8Size_hexDigit
      omega
    rcases List.mem_cons.mp h with rfl | h
    · apply utf8Size_hexDigit
      omega
    · exact ih h

theorem length_hexChars (bytes : Bytes) : (hexChars bytes).length = 2 * bytes.length := by
  induction bytes with
  | nil => rfl
  | cons b bytes ih =>
    simp only [hexChars, List.length_cons, ih]
    omega

theorem length_utf8Bytes_hexEncode (bytes : Bytes) :
    (utf8Bytes (hexEncode bytes)).length = 2 * bytes.length := by
  have hones : (hexChars bytes).map (fun c => (String.utf8EncodeChar c).length) =
      (hexChars bytes).map fun _ => 1 := by
    refine List.map_congr_left fun c hc => ?_
    rw [String.length_utf8EncodeChar, utf8Size_of_mem_hexChars hc]
  have hlen : ((hexChars bytes).flatMap String.utf8EncodeChar).length = 2 * bytes.length := by
    rw [List.length_flatMap, hones, ← length_hexChars]
    simp
  rw [utf8Bytes, hexEncode, String.toByteArray_ofList, List.utf8Encode, List.data_toByteArray,
    List.toList_toArray, hlen]

end Orbis.Data
