import Mathlib.Data.List.DropRight
import Mathlib.Data.String.Basic
import Orbis.Crypto.Context
import Orbis.Data.PrefixFree
import Orbis.Node.Dkg.Session

/-!
# Control messages of a ceremony

The messages by which a leader prepares, activates and begins an attempt, and the pages by which
it repairs a public phase.  The digests that are signed hash the fields one after the other, with
lengths, counts and presence bytes, so that equal digests mean equal fields as long as no two
hashed byte strings collide.
-/

namespace Orbis.Node.Transport

open Orbis.Crypto Orbis.Data Orbis.Node.Dkg

/-! ## JSON -/

/-- `serde_json`: the text written for a value, and the reader. -/
class Serde (α : Type) where
  toVec : α → Bytes
  fromSlice : Bytes → Except String α

export Serde (toVec)

/-- The texts end where their closing mark stands. -/
class SelfDelimiting (α : Type) [Serde α] : Prop where
  prefixFree : PrefixFreeOn (fun _ : α => True) toVec

def decode {α : Type} [Serde α] (bytes : Bytes) (maxBytes : ℕ) : Except String α :=
  let length := bytes.length
  if maxBytes < length then
    .error s!"encoded DKG transport message is {length} bytes, maximum is {maxBytes}"
  else Serde.fromSlice bytes

def maxPublicOriginEvidenceBytes : ℕ := 2 * 1024 * 1024

def maxPublicRepairPageBytes : ℕ := 512 * 1024

/-! ## Identifiers and texts -/

abbrev Bytes32 := { bytes : Bytes // bytes.length = 32 }

def Bytes32.repeated (b : UInt8) : Bytes32 := ⟨List.replicate 32 b, List.length_replicate⟩

abbrev CeremonyId := BitVec 128

abbrev AttemptId := Bytes32

structure AttemptKey where
  ceremonyId : CeremonyId
  attemptId : AttemptId
deriving DecidableEq

def digest32 [Sha256] [LawfulSha256] (bytes : Bytes) : Bytes32 :=
  ⟨sha256 bytes, LawfulSha256.length_sha256 bytes⟩

/-- Lengths are 64-bit integers. -/
def FitsU64 (text : String) : Prop := (utf8Bytes text).length < 2 ^ 64

instance (text : String) : Decidable (FitsU64 text) := inferInstanceAs (Decidable (_ < _))

/-- Bytes after their length. -/
def hashBytes (bytes : Bytes) : Bytes := beBytes 8 bytes.length ++ bytes

def hashString (value : String) : Bytes := hashBytes (utf8Bytes value)

def ceremonyBytes (ceremonyId : CeremonyId) : Bytes := beBytes 16 ceremonyId.toNat

/-! ## Messages -/

structure ControlSignature where
  signerNodeKey : String
  signedAt : UInt64
  signature : Bytes
deriving DecidableEq

structure CommitteeConfig where
  nodeKeys : List String
  peerRoutes : List String
  nodeIdAssignments : AList fun _ : String => UInt32
  threshold : UInt32
  fits : ∀ text ∈ nodeKeys ++ peerRoutes, FitsU64 text
deriving DecidableEq

structure CeremonyConfig where
  current : CommitteeConfig
  next : Option CommitteeConfig
deriving DecidableEq

inductive SessionKind where
  | fresh
  | freshPet (ringId : String)
  | refresh (ringPkHex : String)
  | refreshPet (ringId : String)
  | reshare (ringPkHex : String) (newPeerNodeKeys : List String) (newThreshold : UInt32)
      (bulletinPostId : String)
  | resharePet (ringId : String) (newPeerNodeKeys : List String) (newThreshold : UInt32)
deriving DecidableEq

def SessionKind.isReshare : SessionKind → Bool
  | reshare .. | resharePet .. => true
  | _ => false

structure PrepareSession where
  ceremonyId : CeremonyId
  attemptId : AttemptId
  configDigest : Bytes32
  topicId : Bytes32
  leaderNodeKey : String
  committees : CeremonyConfig
  kind : SessionKind
  pssInterval : UInt64
  policyId : Option String
  ringId : String
  reportSignature : Option ControlSignature
  fits : FitsU64 leaderNodeKey ∧ (∀ policy ∈ policyId, FitsU64 policy) ∧ FitsU64 ringId
deriving DecidableEq

inductive PublicPhase where
  | commitmentHashes
  | commitments
  | commitmentAudit
  | refreshHealthCheck
  | reshareParticipantSet
deriving DecidableEq

structure SignedPayload where
  origin : Bytes
  signature : Bytes
  data : Bytes
  fits : origin.length < 2 ^ 64 ∧ signature.length < 2 ^ 64 ∧ data.length < 2 ^ 64
deriving DecidableEq

structure RepairPage where
  ceremonyId : CeremonyId
  attemptId : AttemptId
  phase : PublicPhase
  contributions : List SignedPayload
  nextCursor : Option ParticipantRef
  fits : contributions.length < 2 ^ 64
deriving DecidableEq

structure PublicPhaseResponse extends RepairPage where
  pageDigest : Bytes32
  reportSignature : Option ControlSignature
deriving DecidableEq

/-- The contents of the other messages are read by no function here. -/
inductive DkgControlMessage where
  | prepare (prepare : PrepareSession)
  | publicPhaseResponse (response : PublicPhaseResponse)
  | other
deriving DecidableEq

/-! ## Leaders and committees -/

def canonicalLeader (peerNodeKeys : List String) : Option String := peerNodeKeys.min?

def maxDkgCommitteeSize : ℕ := 50

namespace CommitteeConfig

variable (committee : CommitteeConfig)

def validate (label : String) : Except String Unit := do
  let members := committee.nodeKeys.length
  require (committee.nodeKeys ≠ []) s!"{label} committee is empty"
  require (members ≤ maxDkgCommitteeSize)
    s!"{label} committee has {members} members, maximum is {maxDkgCommitteeSize}"
  require (members = committee.peerRoutes.length ∧
    members = committee.nodeIdAssignments.keys.length)
    s!"{label} committee keys, routes, and assignments have different lengths"
  require (committee.threshold ≠ 0 ∧ committee.threshold.toNat ≤ members)
    s!"{label} committee threshold is outside 1..=size"
  let actual := committee.nodeIdAssignments.entries.map fun entry => entry.2.toNat
  require ((List.range' 1 members).toFinset = actual.toFinset ∧
      ∀ key ∈ committee.nodeKeys, key ∈ committee.nodeIdAssignments)
    s!"{label} committee node-ID assignments are not canonical and complete"

/-- The members in their order, each with its route and its identifier. -/
def members : Except String (List (String × String × UInt32)) :=
  (committee.nodeKeys.zip committee.peerRoutes).mapM fun (nodeKey, peerRoute) => do
    let nodeId ← okOr (committee.nodeIdAssignments.lookup nodeKey)
      s!"committee assignment missing node key {nodeKey}"
    pure (nodeKey, peerRoute, nodeId)

def memberBytes (member : String × String × UInt32) : Bytes :=
  hashString member.1 ++ (hashString member.2.1 ++ beBytes 4 member.2.2.toNat)

def preimage : Except String Bytes := do
  let members ← committee.members
  pure (beBytes 8 committee.nodeKeys.length ++ members.flatMap memberBytes ++
    beBytes 4 committee.threshold.toNat)

/-- What a committee says about its members' routes. -/
def claim : List String × List String := (committee.nodeKeys, committee.peerRoutes)

end CommitteeConfig

def CeremonyConfig.validate (committees : CeremonyConfig) : Except String Unit := do
  committees.current.validate "current"
  match committees.next with
  | some next => next.validate "next"
  | none => pure ()

/-- An absent committee is one zero byte. -/
def CommitteeConfig.preimageOpt : Option CommitteeConfig → Except String Bytes
  | none => .ok [0]
  | some committee => do
      let bytes ← committee.preimage
      pure (1 :: bytes)

namespace PrepareSession

def leaderCommittee (prepare : PrepareSession) : Option CommitteeConfig :=
  match prepare.kind with
  | .reshare .. | .resharePet .. => prepare.committees.next
  | .fresh | .freshPet _ | .refresh _ | .refreshPet _ => some prepare.committees.current

def canonicalLeaderNodeKey (prepare : PrepareSession) : Option String := do
  let committee ← prepare.leaderCommittee
  canonicalLeader committee.nodeKeys

section

variable [Serde SessionKind]

def configPreimage (prepare : PrepareSession) : Except String Bytes := do
  prepare.committees.validate
  let current ← prepare.committees.current.preimage
  let next ← CommitteeConfig.preimageOpt prepare.committees.next
  pure (utf8Bytes "orbis-dkg-config-v2" ++ ceremonyBytes prepare.ceremonyId ++
    prepare.attemptId.val ++ prepare.topicId.val ++ hashString prepare.leaderNodeKey ++ current ++
    next ++ toVec prepare.kind ++ putU64 prepare.pssInterval ++
    putOpt hashString prepare.policyId ++ hashString prepare.ringId)

end

/-- The leader, the kind of the ceremony, and what the message says about the members' routes. -/
def claim (prepare : PrepareSession) :
    String × SessionKind × (List String × List String) × Option (List String × List String) :=
  (prepare.leaderNodeKey, prepare.kind, prepare.committees.current.claim,
    prepare.committees.next.map CommitteeConfig.claim)

end PrepareSession

def SignedPayload.preimage (signed : SignedPayload) : Bytes :=
  hashBytes signed.origin ++ (hashBytes signed.signature ++ hashBytes signed.data)

def RepairPage.preimage [Serde PublicPhase] [Serde (Option ParticipantRef)] (page : RepairPage) :
    Bytes :=
  utf8Bytes "orbis-dkg-public-repair-page-v1" ++ ceremonyBytes page.ceremonyId ++
    page.attemptId.val ++ toVec page.phase ++ beBytes 8 page.contributions.length ++
    page.contributions.flatMap SignedPayload.preimage ++ toVec page.nextCursor

def controlAckPreimage (ceremonyId : CeremonyId) (attemptId : AttemptId) (messageKind : String)
    (digest : Bytes32) (signedAt : UInt64) : Bytes :=
  utf8Bytes "orbis-dkg-control-ack-v1" ++ ceremonyBytes ceremonyId ++ attemptId.val ++
    hashString messageKind ++ digest.val ++ putU64 signedAt

section

variable [Sha256]

def configDigest [LawfulSha256] [Serde SessionKind] (prepare : PrepareSession) :
    Except String Bytes32 := do
  let bytes ← prepare.configPreimage
  pure (digest32 bytes)

def publicRepairPageDigest [LawfulSha256] [Serde PublicPhase] [Serde (Option ParticipantRef)]
    (page : RepairPage) : Bytes32 :=
  digest32 page.preimage

def controlAckSigningBytes (ceremonyId : CeremonyId) (attemptId : AttemptId)
    (messageKind : String) (digest : Bytes32) (signedAt : UInt64) : Bytes :=
  sha256 (controlAckPreimage ceremonyId attemptId messageKind digest signedAt)

end

/-! ## The hashed fields can be told apart -/

theorem length_beBytes (width n : ℕ) : (beBytes width n).length = width := by
  rw [beBytes, List.length_reverse, length_leBytes]

theorem prefixFree_beBytes (width : ℕ) : PrefixFreeOn (· < 256 ^ width) (beBytes width) := by
  apply PrefixFreeOn.of_length (length_beBytes width)
  intro m n hm hn heq
  have hle : leBytes width m = leBytes width n := List.reverse_injective heq
  rw [← leValue_leBytes hm, hle, leValue_leBytes hn]

theorem prefixFree_hashBytes :
    PrefixFreeOn (fun bytes : Bytes => bytes.length < 2 ^ 64) hashBytes :=
  (prefixFree_beBytes 8).lengthPrefixed

theorem utf8Bytes_injective : Function.Injective utf8Bytes := by
  intro text other heq
  apply Option.some.inj
  rw [← utf8Text_utf8Bytes text, heq, utf8Text_utf8Bytes]

theorem prefixFree_hashString : PrefixFreeOn FitsU64 hashString :=
  prefixFree_hashBytes.comp (fun _ h => h) fun _ _ _ _ heq => utf8Bytes_injective heq

theorem prefixFree_ceremonyBytes : PrefixFreeOn (fun _ => True) ceremonyBytes :=
  (prefixFree_beBytes 16).comp (fun ceremonyId _ => ceremonyId.isLt)
    fun _ _ _ _ heq => BitVec.eq_of_toNat_eq heq

theorem prefixFree_bytes32 : PrefixFreeOn (fun _ => True) (Subtype.val : Bytes32 → Bytes) :=
  .of_length Subtype.property fun _ _ _ _ heq => Subtype.ext heq

theorem prefixFree_putU64 : PrefixFreeOn (fun _ => True) putU64 :=
  (prefixFree_beBytes 8).comp (fun n _ => n.toNat_lt) fun _ _ _ _ heq => UInt64.toNat_inj.mp heq

theorem prefixFree_putBytes :
    PrefixFreeOn (fun bytes : Bytes => bytes.length < 2 ^ 32) putBytes := by
  intro a b ha hb s t heq
  unfold putBytes at heq
  rw [asU32_of_lt ha, asU32_of_lt hb] at heq
  exact (prefixFree_beBytes 4).lengthPrefixed (by omega) (by omega) heq

theorem prefixFree_putStr :
    PrefixFreeOn (fun text : String => (utf8Bytes text).length < 2 ^ 32) putStr :=
  prefixFree_putBytes.comp (fun _ h => h) fun _ _ _ _ heq => utf8Bytes_injective heq

theorem prefixFree_putU32 : PrefixFreeOn (fun _ => True) fun n : UInt32 => beBytes 4 n.toNat :=
  (prefixFree_beBytes 4).comp (fun n _ => n.toNat_lt) fun _ _ _ _ heq => UInt32.toNat_inj.mp heq

theorem prefixFree_putOpt {α : Type} {p : α → Prop} {put : α → Bytes} (h : PrefixFreeOn p put) :
    PrefixFreeOn (fun o : Option α => ∀ a ∈ o, p a) (putOpt put) := by
  intro o o' ho ho' s t heq
  cases o with
  | none =>
    cases o' with
    | none => exact ⟨rfl, List.cons.inj heq |>.2⟩
    | some b => cases (List.cons.inj heq).1
  | some a =>
    cases o' with
    | none => cases (List.cons.inj heq).1
    | some b =>
      obtain ⟨rfl, hrest⟩ := h (ho a rfl) (ho' b rfl) (List.cons.inj heq).2
      exact ⟨rfl, hrest⟩

theorem prefixFree_memberBytes :
    PrefixFreeOn (fun member => FitsU64 member.1 ∧ FitsU64 member.2.1 ∧ True)
      CommitteeConfig.memberBytes :=
  prefixFree_hashString.append (prefixFree_hashString.append prefixFree_putU32)

theorem prefixFree_signedPayload : PrefixFreeOn (fun _ => True) SignedPayload.preimage := by
  have hfields := prefixFree_hashBytes.append (prefixFree_hashBytes.append prefixFree_hashBytes)
  apply hfields.comp
    (f := fun signed : SignedPayload => (signed.origin, signed.signature, signed.data))
  · intro signed _
    exact signed.fits
  · rintro ⟨_, _, _, _⟩ ⟨_, _, _, _⟩ _ _ heq
    cases heq
    rfl

theorem controlAckPreimage_injective {ceremonyId ceremonyId' : CeremonyId}
    {attemptId attemptId' : AttemptId} {messageKind messageKind' : String}
    {digest digest' : Bytes32} {signedAt signedAt' : UInt64} (hfits : FitsU64 messageKind)
    (hfits' : FitsU64 messageKind')
    (h : controlAckPreimage ceremonyId attemptId messageKind digest signedAt =
      controlAckPreimage ceremonyId' attemptId' messageKind' digest' signedAt') :
    ceremonyId = ceremonyId' ∧ attemptId = attemptId' ∧ messageKind = messageKind' ∧
      digest = digest' ∧ signedAt = signedAt' := by
  simp only [controlAckPreimage, List.append_assoc] at h
  have h := List.append_cancel_left h
  obtain ⟨hceremony, h⟩ := prefixFree_ceremonyBytes trivial trivial h
  obtain ⟨hattempt, h⟩ := prefixFree_bytes32 trivial trivial h
  obtain ⟨hkind, h⟩ := prefixFree_hashString hfits hfits' h
  obtain ⟨hdigest, h⟩ := prefixFree_bytes32 trivial trivial h
  exact ⟨hceremony, hattempt, hkind, hdigest, prefixFree_putU64.injOn trivial trivial h⟩

theorem RepairPage.preimage_injective [Serde PublicPhase] [SelfDelimiting PublicPhase]
    [Serde (Option ParticipantRef)] [SelfDelimiting (Option ParticipantRef)] :
    Function.Injective RepairPage.preimage := by
  rintro ⟨ceremonyId, attemptId, phase, contributions, nextCursor, hfits⟩
    ⟨ceremonyId', attemptId', phase', contributions', nextCursor', hfits'⟩ h
  simp only [preimage, List.append_assoc] at h
  have h := List.append_cancel_left h
  obtain ⟨hceremony, h⟩ := prefixFree_ceremonyBytes trivial trivial h
  obtain ⟨hattempt, h⟩ := prefixFree_bytes32 trivial trivial h
  obtain ⟨hphase, h⟩ := SelfDelimiting.prefixFree trivial trivial h
  obtain ⟨hcount, h⟩ := prefixFree_beBytes 8 hfits hfits' h
  obtain ⟨hcontributions, h⟩ := prefixFree_signedPayload.flatMap hcount (fun _ _ => trivial)
    (fun _ _ => trivial) h
  have hcursor := SelfDelimiting.prefixFree.injOn trivial trivial h
  subst hceremony hattempt hphase hcontributions hcursor
  rfl

namespace CommitteeConfig

variable {committee other : CommitteeConfig} {label label' : String}

theorem validate_eq_ok (h : committee.validate label = .ok ()) :
    (committee.nodeKeys ≠ [] ∧ committee.nodeKeys.length ≤ maxDkgCommitteeSize) ∧
      (committee.nodeKeys.length = committee.peerRoutes.length ∧
        committee.nodeKeys.length = committee.nodeIdAssignments.keys.length) ∧
      (List.range' 1 committee.nodeKeys.length).toFinset =
        (committee.nodeIdAssignments.entries.map fun entry => entry.2.toNat).toFinset ∧
      ∀ key ∈ committee.nodeKeys, key ∈ committee.nodeIdAssignments := by
  simp only [validate, require_bind_eq_ok, require_eq_ok] at h
  exact ⟨⟨h.1, h.2.1⟩, h.2.2.1, h.2.2.2.2⟩

/-- What the digest relies on of the checks that precede it. -/
theorem lengths_of_validate (h : committee.validate label = .ok ()) :
    committee.nodeKeys.length < 2 ^ 64 ∧
      committee.nodeKeys.length = committee.peerRoutes.length := by
  obtain ⟨⟨-, hsize⟩, ⟨hlengths, -⟩, -⟩ := validate_eq_ok h
  unfold maxDkgCommitteeSize at hsize
  exact ⟨by omega, hlengths⟩

theorem map_members {members : List (String × String × UInt32)}
    (h : committee.members = .ok members) :
    members.map (fun member => (member.1, member.2.1)) =
        committee.nodeKeys.zip committee.peerRoutes ∧
      ∀ member ∈ members, committee.nodeIdAssignments.lookup member.1 = some member.2.2 := by
  unfold CommitteeConfig.members at h
  generalize committee.nodeKeys.zip committee.peerRoutes = routes at h
  induction routes generalizing members with
  | nil =>
    cases h
    exact ⟨rfl, by simp⟩
  | cons route routes ih =>
    rw [List.mapM_cons] at h
    obtain ⟨member, hmember, h⟩ := bind_eq_ok.mp h
    obtain ⟨rest, hrest, h⟩ := bind_eq_ok.mp h
    obtain ⟨nodeId, hnodeId, hmember⟩ := bind_eq_ok.mp hmember
    cases hmember
    cases h
    obtain ⟨hroutes, hids⟩ := ih hrest
    rw [List.map_cons, hroutes]
    exact ⟨rfl, List.forall_mem_cons.mpr ⟨okOr_eq_ok.mp hnodeId, hids⟩⟩

theorem fits_of_members {members : List (String × String × UInt32)}
    (h : committee.members = .ok members) :
    ∀ member ∈ members, FitsU64 member.1 ∧ FitsU64 member.2.1 ∧ True := by
  intro member hmem
  have hzip : (member.1, member.2.1) ∈ committee.nodeKeys.zip committee.peerRoutes :=
    (map_members h).1 ▸ List.mem_map_of_mem (f := fun member => (member.1, member.2.1)) hmem
  obtain ⟨hkey, hroute⟩ := List.of_mem_zip hzip
  exact ⟨committee.fits _ (List.mem_append_left _ hkey),
    committee.fits _ (List.mem_append_right _ hroute), trivial⟩

/-- Committees with the same members, routes and threshold, and the same identifiers of `keys`. -/
structure AgreesOn (keys : Set String) (committee other : CommitteeConfig) : Prop where
  claim : committee.claim = other.claim
  threshold : committee.threshold = other.threshold
  nodeId : ∀ key ∈ keys,
    committee.nodeIdAssignments.lookup key = other.nodeIdAssignments.lookup key

/-- The same members, with the same routes and identifiers. -/
def Agrees (committee other : CommitteeConfig) : Prop :=
  AgreesOn {key | key ∈ committee.nodeKeys} committee other

/-- The hashed bytes of a committee determine its threshold and what it says of its members. -/
theorem agrees_of_preimage {bytes bytes' s t : Bytes}
    (hvalid : committee.validate label = .ok ()) (hvalid' : other.validate label' = .ok ())
    (hbytes : committee.preimage = .ok bytes) (hbytes' : other.preimage = .ok bytes')
    (heq : bytes ++ s = bytes' ++ t) : committee.Agrees other ∧ s = t := by
  obtain ⟨hsize, hlengths⟩ := lengths_of_validate hvalid
  obtain ⟨hsize', hlengths'⟩ := lengths_of_validate hvalid'
  obtain ⟨members, hmembers, hbytes⟩ := bind_eq_ok.mp hbytes
  obtain ⟨members', hmembers', hbytes'⟩ := bind_eq_ok.mp hbytes'
  cases hbytes
  cases hbytes'
  simp only [List.append_assoc] at heq
  obtain ⟨hcount, heq⟩ := prefixFree_beBytes 8 hsize hsize' heq
  obtain ⟨hmap, hids⟩ := map_members hmembers
  obtain ⟨hmap', hids'⟩ := map_members hmembers'
  have hlen : members.length = members'.length := by
    have hzip := congrArg List.length hmap
    have hzip' := congrArg List.length hmap'
    simp only [List.length_map, List.length_zip] at hzip hzip'
    omega
  obtain ⟨rfl, hrest⟩ := prefixFree_memberBytes.flatMap hlen (fits_of_members hmembers)
    (fits_of_members hmembers') heq
  obtain ⟨hthreshold, hrest⟩ := prefixFree_putU32 trivial trivial hrest
  have hclaim : committee.claim = other.claim := by
    rw [claim, claim, ← List.unzip_zip hlengths, ← hmap, hmap', List.unzip_zip hlengths']
  refine ⟨⟨hclaim, hthreshold, fun key hkey => ?_⟩, hrest⟩
  have hkeys : committee.nodeKeys = members.map fun member => member.1 := by
    rw [← List.map_fst_zip hlengths.le, ← hmap, List.map_map]
    rfl
  have hkey : key ∈ members.map fun member => member.1 := hkeys ▸ hkey
  obtain ⟨member, hmember, rfl⟩ := List.mem_map.mp hkey
  rw [hids member hmember, hids' member hmember]

theorem agrees_of_preimageOpt {next next' : Option CommitteeConfig} {bytes bytes' s t : Bytes}
    (hvalid : ∀ c ∈ next, c.validate label = .ok ())
    (hvalid' : ∀ c ∈ next', c.validate label' = .ok ())
    (hbytes : preimageOpt next = .ok bytes) (hbytes' : preimageOpt next' = .ok bytes')
    (heq : bytes ++ s = bytes' ++ t) : Option.Rel Agrees next next' ∧ s = t := by
  cases next with
  | none =>
    cases hbytes
    cases next' with
    | none =>
      cases hbytes'
      exact ⟨.none, (List.cons.inj heq).2⟩
    | some c' =>
      obtain ⟨_, -, hbytes'⟩ := bind_eq_ok.mp hbytes'
      cases hbytes'
      cases (List.cons.inj heq).1
  | some c =>
    obtain ⟨rest, hrest, hbytes⟩ := bind_eq_ok.mp hbytes
    cases hbytes
    cases next' with
    | none =>
      cases hbytes'
      cases (List.cons.inj heq).1
    | some c' =>
      obtain ⟨rest', hrest', hbytes'⟩ := bind_eq_ok.mp hbytes'
      cases hbytes'
      obtain ⟨hagrees, hst⟩ := agrees_of_preimage (hvalid c rfl) (hvalid' c' rfl) hrest hrest'
        (List.cons.inj heq).2
      exact ⟨.some hagrees, hst⟩

end CommitteeConfig

theorem CeremonyConfig.validate_eq_ok {committees : CeremonyConfig}
    (h : committees.validate = .ok ()) :
    committees.current.validate "current" = .ok () ∧
      ∀ next ∈ committees.next, next.validate "next" = .ok () := by
  unfold validate at h
  obtain ⟨_, hcurrent, h⟩ := bind_eq_ok.mp h
  refine ⟨hcurrent, fun next hnext => ?_⟩
  rw [Option.mem_def.mp hnext] at h
  exact h

/-- Prepares with one configuration. -/
structure PrepareSession.Agrees (prepare other : PrepareSession) : Prop where
  ceremonyId : prepare.ceremonyId = other.ceremonyId
  attemptId : prepare.attemptId = other.attemptId
  topicId : prepare.topicId = other.topicId
  leaderNodeKey : prepare.leaderNodeKey = other.leaderNodeKey
  current : prepare.committees.current.Agrees other.committees.current
  next : Option.Rel CommitteeConfig.Agrees prepare.committees.next other.committees.next
  kind : prepare.kind = other.kind
  pssInterval : prepare.pssInterval = other.pssInterval
  policyId : prepare.policyId = other.policyId
  ringId : prepare.ringId = other.ringId

/-- Equal hashed bytes mean the same configuration. -/
theorem PrepareSession.agrees_of_configPreimage [Serde SessionKind] [SelfDelimiting SessionKind]
    {prepare other : PrepareSession} {bytes : Bytes} (h : prepare.configPreimage = .ok bytes)
    (h' : other.configPreimage = .ok bytes) : prepare.Agrees other := by
  unfold configPreimage at h h'
  obtain ⟨_, hvalid, h⟩ := bind_eq_ok.mp h
  obtain ⟨current, hcurrent, h⟩ := bind_eq_ok.mp h
  obtain ⟨next, hnext, h⟩ := bind_eq_ok.mp h
  obtain ⟨_, hvalid', h'⟩ := bind_eq_ok.mp h'
  obtain ⟨current', hcurrent', h'⟩ := bind_eq_ok.mp h'
  obtain ⟨next', hnext', h'⟩ := bind_eq_ok.mp h'
  have heq := Except.ok.inj (h.trans h'.symm)
  simp only [List.append_assoc] at heq
  have heq := List.append_cancel_left heq
  obtain ⟨hceremony, heq⟩ := prefixFree_ceremonyBytes trivial trivial heq
  obtain ⟨hattempt, heq⟩ := prefixFree_bytes32 trivial trivial heq
  obtain ⟨htopic, heq⟩ := prefixFree_bytes32 trivial trivial heq
  obtain ⟨hleader, heq⟩ := prefixFree_hashString prepare.fits.1 other.fits.1 heq
  obtain ⟨hvalidCurrent, hvalidNext⟩ := CeremonyConfig.validate_eq_ok hvalid
  obtain ⟨hvalidCurrent', hvalidNext'⟩ := CeremonyConfig.validate_eq_ok hvalid'
  obtain ⟨hagrees, heq⟩ := CommitteeConfig.agrees_of_preimage hvalidCurrent hvalidCurrent'
    hcurrent hcurrent' heq
  obtain ⟨hagreesNext, heq⟩ := CommitteeConfig.agrees_of_preimageOpt hvalidNext hvalidNext'
    hnext hnext' heq
  obtain ⟨hkind, heq⟩ := SelfDelimiting.prefixFree trivial trivial heq
  obtain ⟨hinterval, heq⟩ := prefixFree_putU64 trivial trivial heq
  obtain ⟨hpolicy, heq⟩ := prefixFree_putOpt prefixFree_hashString prepare.fits.2.1 other.fits.2.1
    heq
  have hring := prefixFree_hashString.injOn prepare.fits.2.2 other.fits.2.2 heq
  exact ⟨hceremony, hattempt, htopic, hleader, hagrees, hagreesNext, hkind, hinterval, hpolicy,
    hring⟩

section

variable [Sha256] [LawfulSha256] [Serde SessionKind]

theorem configDigest_eq_ok {prepare : PrepareSession} {digest : Bytes32}
    (h : configDigest prepare = .ok digest) :
    ∃ bytes, prepare.configPreimage = .ok bytes ∧ digest.val = sha256 bytes := by
  obtain ⟨bytes, hbytes, h⟩ := bind_eq_ok.mp h
  cases h
  exact ⟨bytes, hbytes, rfl⟩

theorem agrees_of_configDigest [SelfDelimiting SessionKind]
    {prepare other : PrepareSession} {digest : Bytes32} {hashed : Set Bytes}
    (hfree : Set.InjOn sha256 hashed)
    (hprepare : ∀ bytes, prepare.configPreimage = .ok bytes → bytes ∈ hashed)
    (hother : ∀ bytes, other.configPreimage = .ok bytes → bytes ∈ hashed)
    (h : configDigest prepare = .ok digest) (h' : configDigest other = .ok digest) :
    prepare.Agrees other := by
  obtain ⟨bytes, hbytes, hdigest⟩ := configDigest_eq_ok h
  obtain ⟨bytes', hbytes', hdigest'⟩ := configDigest_eq_ok h'
  have hsame : bytes = bytes' := hfree (hprepare bytes hbytes) (hother bytes' hbytes')
    (hdigest.symm.trans hdigest')
  subst hsame
  exact PrepareSession.agrees_of_configPreimage hbytes hbytes'

end

theorem PrepareSession.Agrees.claim_eq {prepare other : PrepareSession} (h : prepare.Agrees other) :
    prepare.claim = other.claim := by
  have hnext : ∀ next next', Option.Rel CommitteeConfig.Agrees next next' →
      next.map CommitteeConfig.claim = next'.map CommitteeConfig.claim := by
    intro next next' hrel
    cases hrel with
    | none => rfl
    | some hagrees => exact congrArg some hagrees.claim
  unfold PrepareSession.claim
  rw [h.leaderNodeKey, h.kind, h.current.claim, hnext _ _ h.next]

theorem PrepareSession.canonicalLeaderNodeKey_eq {prepare other : PrepareSession}
    (h : prepare.claim = other.claim) :
    prepare.canonicalLeaderNodeKey = other.canonicalLeaderNodeKey := by
  obtain ⟨-, hkind, hcurrent, hnext⟩ : _ ∧ _ ∧ _ ∧ _ := by
    simpa only [claim, Prod.mk.injEq] using h
  have hkeys : ∀ prepare : PrepareSession, prepare.canonicalLeaderNodeKey =
      (prepare.leaderCommittee.map CommitteeConfig.claim).bind
        fun claim => canonicalLeader claim.1 := by
    intro prepare
    rw [Option.bind_map]
    rfl
  have hcommittee : prepare.leaderCommittee.map CommitteeConfig.claim =
      other.leaderCommittee.map CommitteeConfig.claim := by
    unfold leaderCommittee
    rw [hkind]
    cases other.kind <;> simp_all [CommitteeConfig.claim]
  rw [hkeys, hkeys, hcommittee]

/-! ## Codecs and a digest to evaluate with -/

/-- Tag bytes, fixed-width integers, and texts after their unary length. -/
def SessionKind.parts : SessionKind → UInt8 × UInt32 × List String
  | fresh => (0, 0, [])
  | freshPet ringId => (1, 0, [ringId])
  | refresh ringPkHex => (2, 0, [ringPkHex])
  | refreshPet ringId => (3, 0, [ringId])
  | reshare ringPkHex newPeerNodeKeys newThreshold bulletinPostId =>
    (4, newThreshold, ringPkHex :: bulletinPostId :: newPeerNodeKeys)
  | resharePet ringId newPeerNodeKeys newThreshold => (5, newThreshold, ringId :: newPeerNodeKeys)

def unaryBytes (n : ℕ) : Bytes := List.replicate n 1 ++ [0]

def plainText (text : String) : Bytes := unaryBytes (utf8Bytes text).length ++ utf8Bytes text

@[reducible] def Serde.plainKind : Serde SessionKind where
  toVec kind := [kind.parts.1] ++ (beBytes 4 kind.parts.2.1.toNat ++
    (unaryBytes kind.parts.2.2.length ++ kind.parts.2.2.flatMap plainText))
  fromSlice _ := .error "not read"

def PublicPhase.tag : PublicPhase → UInt8
  | commitmentHashes => 0
  | commitments => 1
  | commitmentAudit => 2
  | refreshHealthCheck => 3
  | reshareParticipantSet => 4

@[reducible] def Serde.plainPhase : Serde PublicPhase where
  toVec phase := [phase.tag]
  fromSlice _ := .error "not read"

def plainParticipant (participant : ParticipantRef) : Bytes :=
  [if participant.scope = .current then 0 else 1] ++ unaryBytes participant.nodeId

@[reducible] def Serde.plainCursor : Serde (Option ParticipantRef) where
  toVec := putOpt plainParticipant
  fromSlice _ := .error "not read"

/-- A codec that knows some values by their texts, and accepts blanks after a text. -/
@[reducible] def Serde.known {α : Type} [DecidableEq α] (texts : List (Bytes × α)) : Serde α where
  toVec a := ((texts.find? fun entry => entry.2 = a).map Prod.fst).getD []
  fromSlice bytes :=
    match texts.find? fun entry => entry.1 = bytes.rdropWhile (· = 0x20) with
    | some entry => .ok entry.2
    | none => .error "expected value"

theorem prefixFree_unaryBytes : PrefixFreeOn (fun _ => True) unaryBytes :=
  PrefixFreeOn.unary (by decide)

theorem prefixFree_plainText : PrefixFreeOn (fun _ => True) plainText :=
  prefixFree_unaryBytes.lengthPrefixed.comp (fun _ _ => trivial)
    fun _ _ _ _ heq => utf8Bytes_injective heq

theorem prefixFree_byte : PrefixFreeOn (fun _ => True) fun b : UInt8 => [b] :=
  .of_length (fun _ => rfl) fun _ _ _ _ heq => (List.cons.inj heq).1

theorem selfDelimiting_plainKind : @SelfDelimiting SessionKind Serde.plainKind := by
  have hparts := prefixFree_byte.append (prefixFree_putU32.append
    (prefixFree_plainText.counted prefixFree_unaryBytes))
  refine @SelfDelimiting.mk _ Serde.plainKind (hparts.comp (f := SessionKind.parts) ?_ ?_)
  · intro kind _
    exact ⟨trivial, trivial, trivial, fun _ _ => trivial⟩
  · intro kind other _ _ heq
    cases kind <;> cases other <;> simp_all [SessionKind.parts]

theorem selfDelimiting_plainPhase : @SelfDelimiting PublicPhase Serde.plainPhase := by
  refine @SelfDelimiting.mk _ Serde.plainPhase
    (prefixFree_byte.comp (f := PublicPhase.tag) (fun _ _ => trivial) ?_)
  intro phase other _ _ heq
  cases phase <;> cases other <;> first | rfl | cases heq

theorem prefixFree_plainParticipant : PrefixFreeOn (fun _ => True) plainParticipant := by
  apply (prefixFree_byte.append prefixFree_unaryBytes).comp
    (f := fun participant : ParticipantRef =>
      ((if participant.scope = .current then 0 else 1 : UInt8), participant.nodeId))
  · intro _ _
    exact ⟨trivial, trivial⟩
  · rintro ⟨scope, nodeId⟩ ⟨scope', nodeId'⟩ _ _ heq
    cases scope <;> cases scope' <;> simp_all

theorem selfDelimiting_plainCursor : @SelfDelimiting (Option ParticipantRef) Serde.plainCursor :=
  @SelfDelimiting.mk _ Serde.plainCursor
    ((prefixFree_putOpt prefixFree_plainParticipant).mono fun _ _ _ _ => trivial)

/-- Blanks after a known text are not significant. -/
theorem Serde.known_fromSlice_padded {α : Type} [DecidableEq α] {texts : List (Bytes × α)}
    {text : Bytes} {a : α} (hlast : text.rdropWhile (· = 0x20) = text)
    (hknown : texts.find? (fun entry => entry.1 = text) = some (text, a)) (blanks : ℕ) :
    (Serde.known texts).fromSlice (text ++ List.replicate blanks 0x20) = .ok a := by
  have htrim : (text ++ List.replicate blanks 0x20).rdropWhile (· = 0x20) = text := by
    induction blanks with
    | zero => rwa [List.replicate_zero, List.append_nil]
    | succ blanks ih =>
      rw [List.replicate_succ', ← List.append_assoc, List.rdropWhile_concat_pos _ _ _ (by simp), ih]
  change (match texts.find? fun entry => entry.1 =
      (text ++ List.replicate blanks 0x20).rdropWhile (· = 0x20) with
    | some entry => Except.ok entry.2
    | none => Except.error "expected value") = _
  rw [htrim, hknown]

end Orbis.Node.Transport

namespace Orbis.Crypto

open Orbis.Data

/-- A digest that tells short byte strings apart better than their sum does: their value in base
257, modulo the size of the digest. -/
@[reducible] def Sha256.horner : Sha256 :=
  ⟨fun bytes => leBytes 32 (bytes.foldl (fun acc b => 257 * acc + b.toNat + 1) 0)⟩

theorem lawful_horner : @LawfulSha256 Sha256.horner :=
  @LawfulSha256.mk Sha256.horner fun _ => length_leBytes 32 _

end Orbis.Crypto

namespace Orbis.Node.Transport.Plain

open Orbis.Crypto
open Orbis.Node.Dkg (ParticipantRef)

scoped instance : Sha256 := .horner

scoped instance : LawfulSha256 := lawful_horner

scoped instance : Serde SessionKind := .plainKind

scoped instance : SelfDelimiting SessionKind := selfDelimiting_plainKind

scoped instance : Serde PublicPhase := .plainPhase

scoped instance : SelfDelimiting PublicPhase := selfDelimiting_plainPhase

scoped instance : Serde (Option ParticipantRef) := .plainCursor

scoped instance : SelfDelimiting (Option ParticipantRef) := selfDelimiting_plainCursor

end Orbis.Node.Transport.Plain
