import Mathlib.Data.List.TakeWhile
import Mathlib.Data.String.Basic
import Orbis.Crypto.Curve
import Orbis.Data.Bytes
import Orbis.Data.SortDedup

/-!
# Node identifiers in a ring

Members are numbered by the sorted order of their node keys.  A message's authenticated sender
is mapped to its number through the ring's routes.
-/

namespace Orbis.Node

open Orbis.Crypto Orbis.Data

structure RingConfig where
  peerIds : List String
  peerNodeKeys : List String
  threshold : ℕ

def extractNodePart (peerId : String) : String :=
  String.ofList (peerId.toList.takeWhile (· ≠ '@'))

/-- Node parts are hexadecimal, so that only ASCII letters matter. -/
def lowercase (s : String) : String := String.ofList (s.toList.map Char.toLower)

def determineSessionNodeId (ourPeerId : String) (allPeerIds : List String) : Option ℕ :=
  let sortedPeerIds := sortDedup (allPeerIds.map extractNodePart)
  (sortedPeerIds.idxOf? (extractNodePart ourPeerId)).map fun index => asU32 (index + 1)

/-- Identifiers count from one. -/
def nodeKeyForId (nodeId : ℕ) (allPeerIds : List String) : Option String :=
  if nodeId = 0 then none else (sortDedup (allPeerIds.map extractNodePart))[nodeId - 1]?

/-- The members in sorted order with their numbers.  A repeated key is an error. -/
def canonicalNodeIdAssignmentsFromNodeKeys (peerNodeKeys : List String) :
    Except String (List (String × ℕ)) :=
  let sorted := peerNodeKeys.insertionSort (· ≤ ·)
  match sorted.zipIdx.find? fun (nodeKey, index) => nodeKey ∈ sorted.take index with
  | some (nodeKey, _) => .error s!"duplicate peer_node_key: {nodeKey}"
  | none => .ok (sorted.zipIdx.map fun (nodeKey, index) => (nodeKey, asU32 (index + 1)))

def nodeKeyForCanonicalNodeId (nodeId : ℕ) (peerNodeKeys : List String) : Option String :=
  if nodeId = 0 then none
  else
    match canonicalNodeIdAssignmentsFromNodeKeys peerNodeKeys with
    | .error _ => none
    | .ok assignments => (assignments.find? (·.2 = nodeId)).map Prod.fst

def determineRingNodeIdFromPeerId (peerId : String) (ring : RingConfig) : Option ℕ :=
  if ring.peerNodeKeys.length ≠ ring.peerIds.length then none
  else
    match (ring.peerNodeKeys.zip ring.peerIds).find? (fun member =>
        lowercase (extractNodePart member.2) = lowercase (extractNodePart peerId)) with
    | none => none
    | some (nodeKey, _) => determineSessionNodeId nodeKey ring.peerNodeKeys

/-- Signatures of nodes over messages: signing with a key, and verifying with a node key.  The
errors are texts. -/
class NodeSigning where
  sign : (hexKey : String) → (message : Bytes) → Except String Bytes
  verify : (publicKeyHex : String) → (message signature : Bytes) → Except String Unit

/-- Whatever is signed with the signing key verifies under the node key. -/
def SigningPair [NodeSigning] (signingKey nodeKey : String) : Prop :=
  ∀ message, ∃ signature, NodeSigning.sign signingKey message = .ok signature ∧
    NodeSigning.verify nodeKey message signature = .ok ()

variable {allPeerIds : List String}

@[reducible] def NodeSigning.echo : NodeSigning where
  sign hexKey _ := .ok (utf8Bytes hexKey)
  verify publicKeyHex _ signature :=
    if signature = utf8Bytes publicKeyHex then .ok () else .error "signature mismatch"

namespace Echo

scoped instance : NodeSigning := .echo

end Echo

theorem determineSessionNodeId_le {ourPeerId : String} {id : ℕ}
    (h : determineSessionNodeId ourPeerId allPeerIds = some id) : id ≤ allPeerIds.length := by
  obtain ⟨index, hindex, rfl⟩ := Option.map_eq_some_iff.mp h
  have hlt : index < (sortDedup (allPeerIds.map extractNodePart)).length := by
    obtain ⟨hlt, -⟩ := List.findIdx?_eq_some_iff_getElem.mp hindex
    exact hlt
  have hle := length_sortDedup_le (allPeerIds.map extractNodePart)
  rw [List.length_map] at hle
  have hcast : asU32 (index + 1) ≤ index + 1 := Nat.mod_le _ _
  omega

variable {nodeKey : String} {nodeId : ℕ}

theorem nodeKeyForId_range (h : nodeKeyForId nodeId allPeerIds = some nodeKey) :
    1 ≤ nodeId ∧ nodeId ≤ allPeerIds.length := by
  unfold nodeKeyForId at h
  split at h
  · cases h
  · obtain ⟨hlt, -⟩ := List.getElem?_eq_some_iff.mp h
    have hle := length_sortDedup_le (allPeerIds.map extractNodePart)
    rw [List.length_map] at hle
    omega

theorem extractNodePart_of_plain {key : String} (h : '@' ∉ key.toList) :
    extractNodePart key = key := by
  have htake : key.toList.takeWhile (· ≠ '@') = key.toList :=
    List.takeWhile_eq_self_iff.mpr fun c hc => decide_eq_true (ne_of_mem_of_not_mem hc h)
  rw [extractNodePart, htake, String.ofList_toList]

theorem extractNodePart_extractNodePart (peerId : String) :
    extractNodePart (extractNodePart peerId) = extractNodePart peerId := by
  unfold extractNodePart
  rw [String.toList_ofList, List.takeWhile_idem]

/-- A member whose key has an identifier is numbered by it. -/
theorem determineSessionNodeId_of_nodeKeyForId (hlen : allPeerIds.length < 2 ^ 32)
    (h : nodeKeyForId nodeId allPeerIds = some nodeKey) :
    determineSessionNodeId nodeKey allPeerIds = some nodeId := by
  have hrange := nodeKeyForId_range h
  unfold nodeKeyForId at h
  rw [if_neg (by omega)] at h
  obtain ⟨hlt, hget⟩ := List.getElem?_eq_some_iff.mp h
  have hpart : extractNodePart nodeKey = nodeKey := by
    have hmem : nodeKey ∈ sortDedup (allPeerIds.map extractNodePart) := hget ▸ List.getElem_mem hlt
    obtain ⟨peerId, -, rfl⟩ := List.mem_map.mp (mem_of_mem_sortDedup hmem)
    exact extractNodePart_extractNodePart peerId
  have hindex : (sortDedup (allPeerIds.map extractNodePart)).idxOf? nodeKey =
      some (nodeId - 1) := by
    rw [← hget]
    exact idxOf?_getElem_of_nodup (nodup_sortDedup _) hlt
  unfold determineSessionNodeId
  simp only
  rw [hpart, hindex, Option.map_some, asU32_of_lt (by omega)]
  congr 1
  omega

/-! ## Canonical assignments -/

variable {peerNodeKeys : List String}

theorem nodup_of_canonicalNodeIdAssignments {assignments : List (String × ℕ)}
    (h : canonicalNodeIdAssignmentsFromNodeKeys peerNodeKeys = .ok assignments) :
    peerNodeKeys.Nodup ∧ assignments = (peerNodeKeys.insertionSort (· ≤ ·)).zipIdx.map
      fun (nodeKey, index) => (nodeKey, asU32 (index + 1)) := by
  unfold canonicalNodeIdAssignmentsFromNodeKeys at h
  simp only at h
  split at h
  · cases h
  next hnone =>
    refine ⟨?_, (Except.ok.inj h).symm⟩
    rw [← (List.perm_insertionSort (· ≤ ·) peerNodeKeys).nodup_iff,
      List.nodup_iff_getElem?_ne_getElem?]
    intro i j hij hj heq
    have hmem : ((peerNodeKeys.insertionSort (· ≤ ·))[j], j) ∈
        (peerNodeKeys.insertionSort (· ≤ ·)).zipIdx :=
      List.mk_mem_zipIdx_iff_getElem?.mpr (List.getElem?_eq_getElem hj)
    have hfirst := List.find?_eq_none.mp hnone _ hmem
    apply hfirst
    have hi : i < (peerNodeKeys.insertionSort (· ≤ ·)).length := hij.trans hj
    rw [List.getElem?_eq_getElem hi, List.getElem?_eq_getElem hj] at heq
    rw [decide_eq_true_iff, ← Option.some.inj heq]
    exact List.mem_take_iff_getElem.mpr ⟨i, by omega, rfl⟩

theorem getElem?_of_nodeKeyForCanonicalNodeId (hlen : peerNodeKeys.length < 2 ^ 32)
    (h : nodeKeyForCanonicalNodeId nodeId peerNodeKeys = some nodeKey) :
    peerNodeKeys.Nodup ∧ nodeId ≠ 0 ∧
      (peerNodeKeys.insertionSort (· ≤ ·))[nodeId - 1]? = some nodeKey := by
  unfold nodeKeyForCanonicalNodeId at h
  split at h
  · cases h
  next hzero =>
    split at h
    · cases h
    next assignments hassignments =>
      obtain ⟨hnodup, rfl⟩ := nodup_of_canonicalNodeIdAssignments hassignments
      obtain ⟨entry, hfind, rfl⟩ := Option.map_eq_some_iff.mp h
      obtain ⟨⟨key, index⟩, hentry, rfl⟩ := List.mem_map.mp (List.mem_of_find?_eq_some hfind)
      have hid : asU32 (index + 1) = nodeId := by simpa using List.find?_some hfind
      have hget := List.mk_mem_zipIdx_iff_getElem?.mp hentry
      have hindex : index < peerNodeKeys.length := by
        obtain ⟨hlt, -⟩ := List.getElem?_eq_some_iff.mp hget
        rwa [List.length_insertionSort] at hlt
      rw [asU32_of_lt (by omega)] at hid
      refine ⟨hnodup, hzero, ?_⟩
      rw [← hid, Nat.add_sub_cancel]
      exact hget

theorem exists_canonicalNodeIdAssignments (hnodup : peerNodeKeys.Nodup) :
    ∃ assignments, canonicalNodeIdAssignmentsFromNodeKeys peerNodeKeys = .ok assignments := by
  unfold canonicalNodeIdAssignmentsFromNodeKeys
  simp only
  split
  next nodeKey' index hfind =>
    -- No key stands at two places.
    exfalso
    have hmem := List.mk_mem_zipIdx_iff_getElem?.mp (List.mem_of_find?_eq_some hfind)
    obtain ⟨hlt, hat⟩ := List.getElem?_eq_some_iff.mp hmem
    have htake : nodeKey' ∈ (peerNodeKeys.insertionSort (· ≤ ·)).take index := by
      simpa using List.find?_some hfind
    obtain ⟨i, hi, hearlier⟩ := List.mem_take_iff_getElem.mp htake
    have hsorted : (peerNodeKeys.insertionSort (· ≤ ·)).Nodup :=
      (List.perm_insertionSort (· ≤ ·) peerNodeKeys).nodup_iff.mpr hnodup
    have hsame : i = index := hsorted.getElem_inj_iff.mp (hearlier.trans hat.symm)
    omega
  · exact ⟨_, rfl⟩

theorem nodeKeyForCanonicalNodeId_of_getElem? (hlen : peerNodeKeys.length < 2 ^ 32)
    (hnodup : peerNodeKeys.Nodup) (hzero : nodeId ≠ 0)
    (hget : (peerNodeKeys.insertionSort (· ≤ ·))[nodeId - 1]? = some nodeKey) :
    nodeKeyForCanonicalNodeId nodeId peerNodeKeys = some nodeKey := by
  obtain ⟨assignments, hassignments⟩ := exists_canonicalNodeIdAssignments hnodup
  obtain ⟨-, hentries⟩ := nodup_of_canonicalNodeIdAssignments hassignments
  obtain ⟨hlt, -⟩ := List.getElem?_eq_some_iff.mp hget
  rw [List.length_insertionSort] at hlt
  have hmem : (nodeKey, nodeId) ∈ assignments := by
    rw [hentries]
    refine List.mem_map.mpr ⟨(nodeKey, nodeId - 1), List.mk_mem_zipIdx_iff_getElem?.mpr hget, ?_⟩
    simp only [Prod.mk.injEq, true_and]
    rw [asU32_of_lt (by omega)]
    omega
  have hsome : (assignments.find? (·.2 = nodeId)).isSome :=
    List.find?_isSome.mpr ⟨(nodeKey, nodeId), hmem, by simp⟩
  obtain ⟨entry, hfind⟩ := Option.isSome_iff_exists.mp hsome
  have hkey : nodeKeyForCanonicalNodeId nodeId peerNodeKeys = some entry.1 := by
    unfold nodeKeyForCanonicalNodeId
    rw [if_neg hzero, hassignments]
    exact congrArg (Option.map Prod.fst) hfind
  have hother := (getElem?_of_nodeKeyForCanonicalNodeId hlen hkey).2.2
  rw [hkey, ← hother, hget]

/-- Where no key has an address part, both numberings agree. -/
theorem determineSessionNodeId_of_nodeKeyForCanonicalNodeId
    (hplain : ∀ key ∈ peerNodeKeys, extractNodePart key = key) (hlen : peerNodeKeys.length < 2 ^ 32)
    (h : nodeKeyForCanonicalNodeId nodeId peerNodeKeys = some nodeKey) :
    determineSessionNodeId nodeKey peerNodeKeys = some nodeId := by
  obtain ⟨hnodup, hzero, hget⟩ := getElem?_of_nodeKeyForCanonicalNodeId hlen h
  have hparts : peerNodeKeys.map extractNodePart = peerNodeKeys :=
    List.map_congr_left hplain |>.trans (List.map_id _)
  apply determineSessionNodeId_of_nodeKeyForId hlen
  unfold nodeKeyForId
  rw [if_neg hzero, hparts, sortDedup_of_nodup hnodup, hget]

theorem determineRingNodeIdFromPeerId_le {peerId : String} {ring : RingConfig} {id : ℕ}
    (h : determineRingNodeIdFromPeerId peerId ring = some id) :
    id ≤ ring.peerNodeKeys.length := by
  unfold determineRingNodeIdFromPeerId at h
  split at h
  · cases h
  · split at h
    · cases h
    · exact determineSessionNodeId_le h

end Orbis.Node
