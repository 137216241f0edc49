import Orbis.Node.Transport.SessionStatus

/-!
# Session ids

The id of a session is one half of a hash over labelled parts, each after its length.  Lengths are
cut to 32 bits.  As long as they fit, the bytes determine the parts; a text of `2 ^ 32` bytes can
take the place of the parts around it.  The kind comes first and keeps the derivations apart
whatever follows.
-/

namespace Orbis.Node.Transport

open Orbis.Crypto Orbis.Data

/-- The values are sorted first, so their order does not count. -/
def hashSortedStrings (label : String) (values : Multiset String) : Bytes :=
  let sortedValues := values.sort (· ≤ ·)
  hashLabel label ++ (leBytes 4 (asU32 sortedValues.length) ++
    sortedValues.flatMap (hashLabeledStr "value"))

/-- The ceremonies that get an id, with what it is derived from. -/
inductive Ceremony where
  | fresh (ringId : String)
  | freshPet (ringId : String)
  | refresh (ringPkHex : String) (peerNodeKeys : Multiset String) (threshold : UInt32)
      (publicPolynomialHex : String)
  | refreshPet (ringId : String) (peerNodeKeys : Multiset String) (threshold : UInt32)
      (publicPolynomialHex : String)
  | reshare (ringPkHex bulletinPostId : String) (oldPeerNodeKeys newPeerNodeKeys : Multiset String)
      (newThreshold : UInt32)
  | resharePet (ringId : String) (oldPeerNodeKeys newPeerNodeKeys : Multiset String)
      (newThreshold : UInt32)

namespace Ceremony

def kind : Ceremony → String
  | fresh .. => "fresh"
  | freshPet .. => "fresh-pet"
  | refresh .. => "refresh"
  | refreshPet .. => "refresh-pet"
  | reshare .. => "reshare"
  | resharePet .. => "reshare-pet"

def generation (peerNodeKeys : Multiset String) (threshold : UInt32)
    (publicPolynomialHex : String) : Bytes :=
  hashSortedStrings "peer_node_keys" peerNodeKeys ++
    (hashLabeledBytes "threshold" (leBytes 4 threshold.toNat) ++
      hashLabeledStr "public_polynomial" publicPolynomialHex)

def transition (oldPeerNodeKeys newPeerNodeKeys : Multiset String)
    (newThreshold : UInt32) : Bytes :=
  hashSortedStrings "old_peer_node_keys" oldPeerNodeKeys ++
    (hashSortedStrings "new_peer_node_keys" newPeerNodeKeys ++
      hashLabeledBytes "new_threshold" (leBytes 4 newThreshold.toNat))

def fields : Ceremony → Bytes
  | fresh ringId | freshPet ringId => hashLabeledStr "ring_id" ringId
  | refresh ringPkHex keys threshold polynomial =>
    hashLabeledStr "ring_pk" ringPkHex ++ generation keys threshold polynomial
  | refreshPet ringId keys threshold polynomial =>
    hashLabeledStr "ring_id" ringId ++ generation keys threshold polynomial
  | reshare ringPkHex postId old new threshold => hashLabeledStr "ring_pk" ringPkHex ++
    (hashLabeledStr "bulletin_post_id" postId ++ transition old new threshold)
  | resharePet ringId old new threshold =>
    hashLabeledStr "ring_id" ringId ++ transition old new threshold

def input (ceremony : Ceremony) : Bytes :=
  utf8Bytes "orbis-pss-session-v1" ++ hashLabeledStr "kind" ceremony.kind ++ ceremony.fields

end Ceremony

section

variable [Sha256]

def sessionIdOf (bytes : Bytes) : CeremonyId := .ofNat 128 (leValue ((sha256 bytes).take 16))

def Ceremony.sessionId (ceremony : Ceremony) : CeremonyId := sessionIdOf ceremony.input

theorem deriveFreshDkgSessionId_eq (ringId : String) :
    deriveFreshDkgSessionId ringId = (Ceremony.fresh ringId).sessionId :=
  rfl

def deriveFreshPetDkgSessionId (ringId : String) : CeremonyId :=
  (Ceremony.freshPet ringId).sessionId

def deriveRefreshSessionId (ringPkHex : String) (peerNodeKeys : List String) (threshold : UInt32)
    (publicPolynomialHex : String) : CeremonyId :=
  (Ceremony.refresh ringPkHex peerNodeKeys threshold publicPolynomialHex).sessionId

def deriveRefreshPetSessionId (ringId : String) (peerNodeKeys : List String) (threshold : UInt32)
    (publicPolynomialHex : String) : CeremonyId :=
  (Ceremony.refreshPet ringId peerNodeKeys threshold publicPolynomialHex).sessionId

def deriveReshareSessionId (ringPkHex bulletinPostId : String) (oldPeerNodeKeys : List String)
    (newPeerNodeKeys : List String) (newThreshold : UInt32) : CeremonyId :=
  (Ceremony.reshare ringPkHex bulletinPostId oldPeerNodeKeys newPeerNodeKeys newThreshold).sessionId

def deriveResharePetSessionId (ringId : String) (oldPeerNodeKeys newPeerNodeKeys : List String)
    (newThreshold : UInt32) : CeremonyId :=
  (Ceremony.resharePet ringId oldPeerNodeKeys newPeerNodeKeys newThreshold).sessionId

end

/-! ## What the bytes determine -/

def FitsU32 (text : String) : Prop := (utf8Bytes text).length < 2 ^ 32

def FitsCommittee (keys : Multiset String) : Prop := keys.card < 2 ^ 32 ∧ ∀ key ∈ keys, FitsU32 key

theorem prefixFree_length : PrefixFreeOn (· < 2 ^ 32) fun n => leBytes 4 (asU32 n) := by
  refine .of_length (fun _ => length_leBytes ..) fun m n hm hn heq => ?_
  rw [asU32_of_lt hm, asU32_of_lt hn] at heq
  have hvalues := congrArg leValue heq
  rwa [leValue_leBytes (by omega), leValue_leBytes (by omega)] at hvalues

theorem prefixFree_labeledBytes (label : String) :
    PrefixFreeOn (fun bytes : Bytes => bytes.length < 2 ^ 32) (hashLabeledBytes label) :=
  prefixFree_length.lengthPrefixed.after _

theorem prefixFree_labeledStr (label : String) : PrefixFreeOn FitsU32 (hashLabeledStr label) :=
  (prefixFree_labeledBytes label).comp (fun _ h => h) fun _ _ _ _ h => utf8Bytes_injective h

theorem prefixFree_threshold (label : String) :
    PrefixFreeOn (fun _ => True) fun n : UInt32 => hashLabeledBytes label (leBytes 4 n.toNat) := by
  refine (prefixFree_labeledBytes label).comp (fun n _ => ?_) fun m n _ _ heq => ?_
  · rw [length_leBytes]
    omega
  · have hvalues := congrArg leValue heq
    rw [leValue_leBytes m.toNat_lt, leValue_leBytes n.toNat_lt] at hvalues
    exact UInt32.toNat_inj.mp hvalues

theorem prefixFree_sortedStrings (label : String) :
    PrefixFreeOn FitsCommittee (hashSortedStrings label) := by
  refine (((prefixFree_labeledStr "value").counted prefixFree_length).after _).comp
    (fun keys h => ?_) fun keys keys' _ _ heq => ?_
  · rw [Multiset.length_sort]
    exact ⟨h.1, fun key hkey => h.2 key ((Multiset.mem_sort _).mp hkey)⟩
  · rw [← Multiset.sort_eq keys (· ≤ ·), heq, Multiset.sort_eq]

namespace Ceremony

/-- The texts are shorter than `2 ^ 32` bytes, and the committees have fewer members. -/
def Fits : Ceremony → Prop
  | fresh ringId | freshPet ringId => FitsU32 ringId
  | refresh anchor keys _ polynomial | refreshPet anchor keys _ polynomial =>
    FitsU32 anchor ∧ FitsCommittee keys ∧ True ∧ FitsU32 polynomial
  | reshare ringPkHex postId old new _ =>
    FitsU32 ringPkHex ∧ FitsU32 postId ∧ FitsCommittee old ∧ FitsCommittee new ∧ True
  | resharePet ringId old new _ => FitsU32 ringId ∧ FitsCommittee old ∧ FitsCommittee new ∧ True

variable {c d : Ceremony}

theorem kind_eq_and_fields_eq (h : c.input = d.input) : c.kind = d.kind ∧ c.fields = d.fields := by
  have hfits : ∀ c : Ceremony, FitsU32 c.kind := by
    intro c
    cases c <;> simp only [FitsU32, kind] <;> decide
  simp only [input, List.append_assoc] at h
  exact prefixFree_labeledStr _ (hfits c) (hfits d) (List.append_cancel_left h)

theorem eq_of_input_eq (hc : c.Fits) (hd : d.Fits) (h : c.input = d.input) : c = d := by
  obtain ⟨hkind, hfields⟩ := kind_eq_and_fields_eq h
  have hstr := prefixFree_labeledStr
  have hgeneration := (prefixFree_sortedStrings "peer_node_keys").append
    ((prefixFree_threshold "threshold").append (hstr "public_polynomial"))
  have htransition := (prefixFree_sortedStrings "old_peer_node_keys").append
    ((prefixFree_sortedStrings "new_peer_node_keys").append (prefixFree_threshold "new_threshold"))
  cases c with
  | fresh ringId =>
    cases d with
    | fresh ringId' => rw [(hstr _).injOn hc hd hfields]
    | _ => exact absurd hkind (of_decide_eq_false rfl)
  | freshPet ringId =>
    cases d with
    | freshPet ringId' => rw [(hstr _).injOn hc hd hfields]
    | _ => exact absurd hkind (of_decide_eq_false rfl)
  | refresh pk keys n polynomial =>
    cases d with
    | refresh pk' keys' n' polynomial' =>
      cases ((hstr _).append hgeneration).injOn (a := (pk, keys, n, polynomial))
        (b := (pk', keys', n', polynomial')) hc hd hfields
      rfl
    | _ => exact absurd hkind (of_decide_eq_false rfl)
  | refreshPet id keys n polynomial =>
    cases d with
    | refreshPet id' keys' n' polynomial' =>
      cases ((hstr _).append hgeneration).injOn (a := (id, keys, n, polynomial))
        (b := (id', keys', n', polynomial')) hc hd hfields
      rfl
    | _ => exact absurd hkind (of_decide_eq_false rfl)
  | reshare pk post old new n =>
    cases d with
    | reshare pk' post' old' new' n' =>
      cases ((hstr _).append ((hstr _).append htransition)).injOn (a := (pk, post, old, new, n))
        (b := (pk', post', old', new', n')) hc hd hfields
      rfl
    | _ => exact absurd hkind (of_decide_eq_false rfl)
  | resharePet id old new n =>
    cases d with
    | resharePet id' old' new' n' =>
      cases ((hstr _).append htransition).injOn (a := (id, old, new, n))
        (b := (id', old', new', n'))
        hc hd hfields
      rfl
    | _ => exact absurd hkind (of_decide_eq_false rfl)

/-- Derivations of two kinds never hash the same bytes.  Below `2 ^ 32` different ceremonies do not
either, and then their ids differ unless the kept bits collide. -/
theorem session_ids_separate [Sha256] (c d : Ceremony) :
    (c.kind ≠ d.kind → c.input ≠ d.input) ∧
      (c.Fits → d.Fits → c ≠ d → c.input ≠ d.input ∧
        ∀ {hashed : Set Bytes}, Set.InjOn sessionIdOf hashed → c.input ∈ hashed →
          d.input ∈ hashed → c.sessionId ≠ d.sessionId) := by
  refine ⟨fun hne h => hne (kind_eq_and_fields_eq h).1, fun hc hd hne => ?_⟩
  have hinput : c.input ≠ d.input := fun h => hne (eq_of_input_eq hc hd h)
  exact ⟨hinput, fun hkept hcin hdin h => hinput (hkept hcin hdin h)⟩

open scoped Plain

/-- Values that are sorted already are hashed as they come. -/
theorem hashSortedStrings_of_sorted (label : String) {values : List String}
    (h : values.Pairwise (· ≤ ·)) : hashSortedStrings label ↑values =
      hashLabel label ++ (leBytes 4 (asU32 values.length) ++
        values.flatMap (hashLabeledStr "value")) := by
  have hsort : (values : Multiset String).sort (· ≤ ·) = values := by
    rw [Multiset.coe_sort, List.mergeSort_eq_self _ h]
  rw [hashSortedStrings, hsort]

/-- Two reshares of a committee, whose new committees differ in a member. -/
theorem session_ids_separate_reshares :
    deriveReshareSessionId "pk" "post" ["a", "b", "c"] ["b", "c", "d"] 2 ≠
      deriveReshareSessionId "pk" "post" ["a", "b", "c"] ["a", "c", "d"] 2 := by
  let c : Ceremony := reshare "pk" "post" ↑["a", "b", "c"] ↑["b", "c", "d"] 2
  let d : Ceremony := reshare "pk" "post" ↑["a", "b", "c"] ↑["a", "c", "d"] 2
  have hfits : c.Fits ∧ d.Fits := by
    unfold c d Fits FitsCommittee FitsU32
    decide
  have hne : c ≠ d := by
    intro h
    have hcommittee := (reshare.inj h).2.2.2.1
    exact absurd hcommittee (by decide)
  have hids : sessionIdOf c.input ≠ sessionIdOf d.input := by
    simp only [c, d, input, kind, fields, transition,
      fun label => hashSortedStrings_of_sorted label (by decide : ["a", "b", "c"].Pairwise (· ≤ ·)),
      fun label => hashSortedStrings_of_sorted label (by decide : ["b", "c", "d"].Pairwise (· ≤ ·)),
      fun label => hashSortedStrings_of_sorted label (by decide : ["a", "c", "d"].Pairwise (· ≤ ·))]
    decide +kernel
  have hkept : Set.InjOn sessionIdOf {c.input, d.input} :=
    Set.injOn_pair.mpr fun h => absurd h hids
  exact ((session_ids_separate c d).2 hfits.1 hfits.2 hne).2 hkept (by simp) (by simp)

/-! ## Long texts -/

/-- The text with these bytes, if they are below 128. -/
def asciiText (bytes : Bytes) : String := String.ofList (bytes.map fun b => Char.ofNat b.toNat)

theorem utf8Bytes_asciiText {bytes : Bytes} (h : ∀ b ∈ bytes, b.toNat < 128) :
    utf8Bytes (asciiText bytes) = bytes := by
  have hchar : ∀ n < 128, String.utf8EncodeChar (Char.ofNat n) = [UInt8.ofNat n] := by decide
  rw [utf8Bytes, asciiText, String.toByteArray_ofList, List.utf8Encode, List.data_toByteArray,
    List.toList_toArray, List.flatMap_map]
  induction bytes with
  | nil => rfl
  | cons b bytes ih =>
    rw [List.flatMap_cons, ih fun b hb => h b (List.mem_cons_of_mem _ hb),
      hchar _ (h b List.mem_cons_self), UInt8.ofNat_toNat]
    rfl

/-- The length that is hashed for a text of `2 ^ 32` bytes is that of an empty one. -/
theorem hashLabeledStr_of_length (bytes : Bytes) (h : ∀ b ∈ bytes, b.toNat < 128)
    (hlength : bytes.length = 2 ^ 32) (label : String) :
    hashLabeledStr label (asciiText bytes) = hashLabeledStr label "" ++ bytes := by
  rw [hashLabeledStr, utf8Bytes_asciiText h, hashLabeledBytes, hlength]
  simp only [hashLabeledStr, hashLabeledBytes, List.append_assoc]
  rfl

/-- What follows the ring key can be part of the ring key, or of the public polynomial. -/
theorem long_inputs_coincide : ∃ c d : Ceremony, c.input = d.input ∧ c ≠ d := by
  obtain ⟨rest, hrest⟩ : ∃ rest, rest = generation 0 0 "" := ⟨_, rfl⟩
  have hsmall : rest.length ≤ 2 ^ 32 ∧ ∀ b ∈ rest, b.toNat < 128 := by
    rw [hrest, generation, hashSortedStrings, Multiset.sort_zero]
    decide +kernel
  obtain ⟨filler, hfiller, hzero⟩ : ∃ filler : Bytes, filler.length = 2 ^ 32 - rest.length ∧
      ∀ b ∈ filler, b = 0 :=
    ⟨List.replicate _ 0, List.length_replicate, fun _ => List.eq_of_mem_replicate⟩
  have hascii : ∀ b, b ∈ filler ∨ b ∈ rest → b.toNat < 128 := by
    rintro b (hb | hb)
    · rw [hzero b hb]
      decide
    · exact hsmall.2 b hb
  have hlabel := fun label => hashLabeledStr_of_length (filler ++ rest)
    (fun b hb => hascii b (List.mem_append.mp hb)) (by rw [List.length_append]; omega) label
  have hlabel' := fun label => hashLabeledStr_of_length (rest ++ filler)
    (fun b hb => hascii b (List.mem_append.mp hb).symm) (by rw [List.length_append]; omega) label
  refine ⟨refresh "" 0 0 (asciiText (filler ++ rest)), refresh (asciiText (rest ++ filler)) 0 0 "",
    ?_, fun h => ?_⟩
  · have htext : generation 0 0 (asciiText (filler ++ rest)) = rest ++ (filler ++ rest) := by
      rw [generation, hlabel, hrest]
      simp only [generation, List.append_assoc]
    simp only [input, kind, fields, htext, hlabel', ← hrest, List.append_assoc]
  · have hempty : hashLabeledStr "" "" = hashLabeledStr "" "" ++ (rest ++ filler) := by
      rw [← hlabel', ← (refresh.inj h).1]
    have hlength := congrArg List.length hempty
    simp only [List.length_append] at hlength
    omega

end Ceremony

end Orbis.Node.Transport
