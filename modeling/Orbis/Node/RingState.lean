import Mathlib.Data.List.AList
import Orbis.Crypto.Codec

/-!
# Stored ring shares

A node stores its share and the public polynomial of a ring as one encoded bundle under the
ring key.  What the third-party decoders of UTF-8 and hexadecimal texts say about a bad text is
left out of the error messages.
-/

namespace Orbis.Node

open Orbis.Crypto Orbis.Data

structure RingShareBundle where
  shareBytes : Bytes
  publicPolynomial : String
  lastPss : UInt64
deriving DecidableEq

namespace RingShareBundle

def bundleVersion : UInt8 := 0x01

/-! ## Encoding -/

def toBytes (bundle : RingShareBundle) : Bytes :=
  bundleVersion :: (leBytes 4 (asU32 bundle.shareBytes.length) ++ (bundle.shareBytes ++
    (leBytes 4 (asU32 (utf8Bytes bundle.publicPolynomial).length) ++
      (utf8Bytes bundle.publicPolynomial ++ leBytes 8 bundle.lastPss.toNat))))

/-- Take `n` bytes off the buffer, or fail with the name of what should have been there. -/
def readChunk (n : ℕ) (what : String) (bytes : Bytes) : Except String (Bytes × Bytes) :=
  match splitBytes n bytes with
  | some split => .ok split
  | none => .error s!"RingShareBundle: buffer too short ({what})"

def readU32 (bytes : Bytes) : Except String (ℕ × Bytes) := do
  let (word, rest) ← readChunk 4 "u32" bytes
  pure (leValue word, rest)

/-- Two upper-case hexadecimal digits. -/
def versionText (version : UInt8) : String :=
  String.ofList ((hexChars [version]).map Char.toUpper)

/-- Bytes after the last field are ignored. -/
def fromBytes (bytes : Bytes) : Except String RingShareBundle :=
  match bytes with
  | [] => .error "RingShareBundle: empty buffer"
  | version :: rest =>
    if version ≠ bundleVersion then
      let text := versionText version
      .error s!"RingShareBundle: unsupported version 0x{text}"
    else do
      let (shareLen, rest) ← readU32 rest
      let (shareBytes, rest) ← readChunk shareLen "share_bytes" rest
      let (polyLen, rest) ← readU32 rest
      let (polyBytes, rest) ← readChunk polyLen "public_polynomial" rest
      match utf8Text polyBytes with
      | none => .error "RingShareBundle: invalid utf-8 in polynomial"
      | some publicPolynomial => do
          let (lastPss, _) ← readChunk 8 "last_pss" rest
          pure ⟨shareBytes, publicPolynomial, UInt64.ofNat (leValue lastPss)⟩

theorem readChunk_append {n : ℕ} {what : String} {head rest : Bytes} (h : head.length = n) :
    readChunk n what (head ++ rest) = .ok (head, rest) := by
  rw [readChunk, splitBytes_append h]

theorem readU32_append {n : ℕ} {rest : Bytes} (h : n < 2 ^ 32) :
    readU32 (leBytes 4 (asU32 n) ++ rest) = .ok (n, rest) := by
  have hvalue : leValue (leBytes 4 n) = n := leValue_leBytes (by omega)
  rw [readU32, readChunk_append (length_leBytes 4 _), asU32_of_lt h, ok_bind]
  simp only [hvalue]
  rfl

/-- A bundle whose parts have lengths of 32 bits is read back as it was written. -/
theorem fromBytes_toBytes {bundle : RingShareBundle} (hshare : bundle.shareBytes.length < 2 ^ 32)
    (hpoly : (utf8Bytes bundle.publicPolynomial).length < 2 ^ 32) :
    fromBytes bundle.toBytes = .ok bundle := by
  have hlast : readChunk 8 "last_pss" (leBytes 8 bundle.lastPss.toNat) =
      .ok (leBytes 8 bundle.lastPss.toNat, []) := by
    rw [← List.append_nil (leBytes 8 bundle.lastPss.toNat), readChunk_append (length_leBytes 8 _),
      List.append_nil]
  have hvalue : leValue (leBytes 8 bundle.lastPss.toNat) = bundle.lastPss.toNat := by
    apply leValue_leBytes
    have := bundle.lastPss.toNat_lt
    omega
  rw [toBytes, fromBytes, if_neg (by simp), readU32_append hshare, ok_bind]
  simp only [readChunk_append rfl, ok_bind, readU32_append hpoly, utf8Text_utf8Bytes, hlast,
    hvalue, UInt64.ofNat_toNat]
  rfl

/-! ## Storage -/

/-- The entries under `RingKey`, decrypted.  Reading and writing the store itself does not
fail here. -/
abbrev Storage := AList fun _ : String => Bytes

def loadByRingKey (storage : Storage) (ringKey : String) : Except String RingShareBundle :=
  match storage.lookup ringKey with
  | none => .error s!"RingShareBundle not found for ring_key {ringKey}"
  | some bytes => fromBytes bytes

/-- The bundle of a ring's checking key is stored under the ring identifier, in a store of its
own. -/
def loadByPetRingKey (storage : Storage) (ringId : String) : Except String RingShareBundle :=
  match storage.lookup ringId with
  | none => .error s!"PET RingShareBundle not found for ring_id {ringId}"
  | some bytes => fromBytes bytes

def ringKeyOf {E : Type} [Repr32 E] (ringPk : E) : String := hexEncode (toRepr ringPk)

def load {E : Type} [Repr32 E] (storage : Storage) (ringPk : E) :
    Except String RingShareBundle :=
  let ringKey := ringKeyOf ringPk
  match storage.lookup ringKey with
  | none => .error s!"RingShareBundle not found for ring_pk {ringKey}"
  | some bytes => fromBytes bytes

/-- The retired polynomial that is also recorded here is only read by report verification. -/
def saveByRingKey (bundle : RingShareBundle) (storage : Storage) (ringKey : String) : Storage :=
  storage.insert ringKey bundle.toBytes

def priShare (F : Type) [Repr32 F] (bundle : RingShareBundle) : Except String (PriShare F) :=
  (PriShare.fromBytes bundle.shareBytes).mapError fun e =>
    let text := e.message
    s!"Failed to deserialize PriShare: {text}"

/-! ## What a store holds -/

def ofParts {F E : Type} [Repr32 F] [Repr32 E] (share : PriShare F) (poly : PubPoly E)
    (lastPss : UInt64) : RingShareBundle :=
  ⟨share.toBytes, hexEncode poly.toBytes, lastPss⟩

/-- The entry under the ring key decodes to this share and this public polynomial. -/
def Stored {F E : Type} [Repr32 F] [Repr32 E] (storage : Storage) (ringKey : String)
    (share : PriShare F) (poly : PubPoly E) : Prop :=
  ∃ bundle polyBytes, loadByRingKey storage ringKey = .ok bundle ∧
    bundle.priShare F = .ok share ∧ hexDecode bundle.publicPolynomial = some polyBytes ∧
      PubPoly.fromBytes polyBytes = .ok poly

/-- The stored share and polynomial are determined by the store. -/
theorem Stored.unique {F E : Type} [Repr32 F] [Repr32 E] {storage : Storage} {ringKey : String}
    {share share' : PriShare F} {poly poly' : PubPoly E} (h : Stored storage ringKey share poly)
    (h' : Stored storage ringKey share' poly') : share = share' ∧ poly = poly' := by
  obtain ⟨bundle, polyBytes, hload, hshare, hhex, hpoly⟩ := h
  obtain ⟨bundle', polyBytes', hload', hshare', hhex', hpoly'⟩ := h'
  have hbundle : bundle = bundle' := Except.ok.inj (hload.symm.trans hload')
  subst hbundle
  have hbytes : polyBytes = polyBytes' := Option.some.inj (hhex.symm.trans hhex')
  subst hbytes
  exact ⟨Except.ok.inj (hshare.symm.trans hshare'), Except.ok.inj (hpoly.symm.trans hpoly')⟩

theorem stored_save {F E : Type} [Repr32 F] [LawfulRepr32 F] [Repr32 E] [LawfulRepr32 E]
    (storage : Storage) (ringKey : String) {share : PriShare F} (hshare : share.i < 2 ^ 32)
    {poly : PubPoly E} (hpoly : poly.commits.length < 2 ^ 24) (lastPss : UInt64) :
    Stored ((ofParts share poly lastPss).saveByRingKey storage ringKey) ringKey share poly := by
  have hlen := PubPoly.length_toBytes poly
  have hbundle : fromBytes (ofParts share poly lastPss).toBytes =
      .ok (ofParts share poly lastPss) := by
    apply fromBytes_toBytes
    · rw [ofParts, PriShare.length_toBytes]
      omega
    · rw [ofParts, length_utf8Bytes_hexEncode]
      omega
  refine ⟨ofParts share poly lastPss, poly.toBytes, ?_, ?_, ?_, ?_⟩
  · rw [loadByRingKey, saveByRingKey, AList.lookup_insert]
    exact hbundle
  · rw [priShare, mapError_eq_ok]
    exact PriShare.fromBytes_toBytes hshare
  · exact hexDecode_hexEncode _
  · apply PubPoly.fromBytes_toBytes
    omega

end RingShareBundle

end Orbis.Node
