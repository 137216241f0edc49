import Orbis.Node.Reporting.ControlMessage
import Orbis.Node.Reporting.InlineDocument

/-!
# Reports across key rotations

A refresh or a reshare gives every member a new share under a new public polynomial of the same
key.  Members promote at different times, so that the validator of a report may be ahead of the
responder or behind it.  It can be ahead: the polynomials it has retired are remembered, counted
from the time at which their successor was staged.  It must not be behind, although the members
of a ceremony sign with their staged shares before anyone has promoted them.
-/

namespace Orbis.Node.Reporting

open Orbis.Crypto Orbis.Crypto.Sign Orbis.Data
open Orbis.Node.Sign (SignContext SignRequest SignInput SignEnvironment PendingSign prepareSign
  deserializeCommitments)

section

variable (F E : Type) [Field F] [DecidableEq F] [AddCommGroup E] [Module F E] [DecidableEq E]
  [Curve E] [Repr32 F] [Repr32 E] [ScalarHash F] [Blake2bScalarHash F] [Sha256] [NodeSigning]
  [Json Pre.Secret] [Json Pre.EncryptionProof] [Json PetTag] [Json TagKnowledgeProof]

/-! ## Honest responses -/

/-- How a member came by the sign response in a statement. -/
structure SignComputation (statement : SignResponseStatement) where
  share : PriShare F
  pubPoly : PubPoly E
  signingState : FrostSigningState F
  commitments : Commitments E
  sigShare : PubShare F
  decoded : deserializeCommitments statement.signingCommitments = .ok commitments
  signed : sign share statement.message pubPoly (some signingState) commitments
    statement.derivation statement.metadata = .ok sigShare
  index_eq : statement.fromNodeId = share.i
  bytes_eq : statement.sigShare = toRepr sigShare.v

/-- How a member came by the re-encrypted share in a statement.  The document was supplied with
the request or is the one `posted` on the bulletin. -/
structure ReencryptComputation (posted : String → Option DocumentPayload)
    (statement : PreReencryptResponseStatement) where
  document : DocumentPayload
  secret : Pre.Secret
  share : PriShare F
  rdrPk : E
  ri : F
  readerContext : ReaderAuthorizationContext
  readerSignature : Pre.ReaderAuthorizationSignature
  reply : Pre.ReencryptReply F E
  source : if statement.documentInline then generateDocumentId document = .ok statement.objectId
    else posted statement.objectId = some document
  ring_eq : statement.ringId = document.ringId
  timestamp_eq : statement.timestamp = document.timestamp
  parsed : deserializeSecret document.document = .ok secret
  reader : Element.fromBytes statement.rdrPk = .ok rdrPk
  derivation_eq : readerContext.derivation = statement.derivation
  reencrypted : Pre.reencrypt ri share secret rdrPk readerContext readerSignature = .ok reply
  index_eq : statement.fromNodeId = share.i
  share_eq : statement.share = toRepr reply.share.v
  challenge_eq : statement.challenge = toRepr reply.challenge
  proof_eq : statement.proof = toRepr reply.proof

/-- The response was computed with a share that the polynomial has at the share's index; a
signature share was computed for the polynomial's key.  `hashed` are the byte strings on which
the hash is known to be free of collisions. -/
inductive HonestResponse (hashed : Set Bytes) (posted : String → Option DocumentPayload)
    (poly : PubPoly E) : ResponseEvidence → Prop
  | sign {statement : SignResponseStatement} {responseSignature : Bytes}
      (computation : SignComputation F E statement)
      (key_eq : poly.eval F 0 = computation.pubPoly.eval F 0)
      (share_eq : poly.eval F computation.share.i = computation.share.v • generator) :
      HonestResponse hashed posted poly (.sign statement responseSignature)
  | pre {statement : PreReencryptResponseStatement} {responseSignature : Bytes}
      (computation : ReencryptComputation F E posted statement)
      (hashed_mem : ∀ bytes, documentIdBytes computation.document = .ok bytes → bytes ∈ hashed)
      (share_eq : poly.eval F computation.share.i = computation.share.v • generator) :
      HonestResponse hashed posted poly (.pre statement responseSignature)

end

section

variable {F E : Type} [Repr32 F] [Repr32 E] {envelope : ReportEnvelope}
  {context : ResponseValidationContext} {poly : PubPoly E}

/-! ## Candidates -/

/-- A polynomial that was active at a validator, and that its promotions since then retain, is one
of its candidates. -/
theorem candidate_of_active {history : PromotionHistory} {ringPk : E} {ringPkHex text : String}
    {start : UInt64} (hring : decodeRingPkHex E ringPkHex = .ok ringPk)
    (hkey : history.ringKey = RingShareBundle.ringKeyOf ringPk)
    (hstore : context.store = history.storeAt context.now) (htext : Encodes text poly)
    (hactive : (history.storeAt start).Active history.ringKey text)
    (hle : start ≤ context.now) (hretains : history.Retains start context.now)
    {candidates : List (PubPoly E)}
    (hcandidates : candidatePublicPolynomials E context ringPkHex = .ok candidates) :
    poly ∈ candidates := by
  have hknown := PromotionHistory.active_or_recent hactive hle hretains
  rw [← hstore, hkey] at hknown
  exact mem_candidates hring htext hknown hcandidates

/-! ## Staged shares

A member that takes part in a ceremony signs the health check of a refresh and the update of a
reshare with its staged bundle. -/

variable [Sha256]

structure SignResponseReportBinding where
  ringId : String
  ringPk : String
  ringStateSha256 : String
  originProtocol : String
  accusedCommitteeScope : CommitteeScope
  signingCommitteeScope : CommitteeScope

def SignResponseReportBinding.fromRing (ringId : String) (ring : RingPayload)
    (originProtocol : String) (accusedCommitteeScope signingCommitteeScope : CommitteeScope) :
    SignResponseReportBinding :=
  ⟨ringId, ring.ringPk, Orbis.Node.ringStateSha256 ring, originProtocol, accusedCommitteeScope,
    signingCommitteeScope⟩

/-- The binding with which the requests of the two ceremonies are authorized. -/
def ceremonyBinding (ringId : String) (ring : RingPayload) :
    SignContext → Option SignResponseReportBinding
  | .refreshHealthCheck _ => some (.fromRing ringId ring "pss_refresh" .current .current)
  | .ringReshareUpdate _ => some (.fromRing ringId ring "pss_reshare" .pendingNew .pendingNew)
  | _ => none

structure SignResponder where
  chainId : String
  protocolVersion : UInt64
  nodeKey : String

def SignResponder.statement (node : SignResponder) (binding : SignResponseReportBinding)
    (request : SignRequest) (input : SignInput F E) (sigShare : PubShare F) (signedAt : UInt64) :
    SignResponseStatement where
  domain := signResponseDomain
  chainId := node.chainId
  ringId := binding.ringId
  ringPk := binding.ringPk
  ringStateSha256 := binding.ringStateSha256
  protocolVersion := node.protocolVersion
  requestId := request.requestId
  signedAt := signedAt
  responderNodeKey := node.nodeKey
  originProtocol := binding.originProtocol
  accusedCommitteeScope := binding.accusedCommitteeScope
  signingCommitteeScope := binding.signingCommitteeScope
  fromNodeId := input.share.i
  message := request.message
  signingCommitments := request.allCommitments
  derivation := input.derivation
  metadata := input.metadata
  sigShare := toRepr sigShare.v
  cryptoBackend := signBackend

/-- What the handler prepared: the commitments of the request, and the polynomial of the bundle
that it loaded. -/
theorem prepareSign_eq_ok {pending : PendingSign} {env : SignEnvironment} {input : SignInput F E}
    (h : prepareSign pending env = .ok input) :
    deserializeCommitments pending.request.allCommitments = .ok input.allCommitments ∧
      ∃ authorization bundle, env.authorization = .ok authorization ∧
        Orbis.Node.Sign.loadSignBundle E pending.request.context authorization.ringPkHex env =
          .ok bundle ∧
        Encodes bundle.publicPolynomial input.pubPoly := by
  unfold prepareSign at h
  simp only at h
  split at h
  · cases h
  · obtain ⟨authorization, hauthorization, h⟩ := bind_eq_ok.mp h
    obtain ⟨bundle, hbundle, h⟩ := bind_eq_ok.mp h
    split at h
    · cases h
    · next bytes hbytes =>
        obtain ⟨pubPoly, hpoly, h⟩ := bind_eq_ok.mp h
        obtain ⟨share, -, h⟩ := bind_eq_ok.mp h
        obtain ⟨commitments, hcommitments, h⟩ := bind_eq_ok.mp h
        obtain ⟨key, -, h⟩ := bind_eq_ok.mp h
        split at h
        · cases h
        · obtain ⟨state, -, h⟩ := bind_eq_ok.mp h
          cases h
          refine ⟨hcommitments, authorization, bundle, hauthorization, hbundle, ?_⟩
          unfold Encodes readPolynomial
          rw [hbytes, Option.bind_eq_bind, Option.bind_some, mapError_eq_ok.mp hpoly]
          rfl

variable [Field F] [DecidableEq F] [AddCommGroup E] [Module F E] [DecidableEq E] [Curve E]
  [ScalarHash F]

/-- A member answers a request of a ceremony with its staged bundle, whose share is the value of
its polynomial. -/
structure StagedSign (pending : PendingSign) (env : SignEnvironment) (bundle : RingShareBundle)
    (input : SignInput F E) (sigShare : PubShare F) : Prop where
  staged : env.staged = .ok (some bundle)
  prepared : prepareSign pending env = .ok input
  signed : sign input.share pending.request.message input.pubPoly (some input.signingState)
    input.allCommitments input.derivation input.metadata = .ok sigShare
  share_eq : input.pubPoly.eval F input.share.i = input.share.v • generator

/-- The requests of the two ceremonies are answered with the staged bundle. -/
theorem StagedSign.encodes {pending : PendingSign} {env : SignEnvironment}
    {bundle : RingShareBundle} {input : SignInput F E} {sigShare : PubShare F} {ringId : String}
    {ring : RingPayload} {binding : SignResponseReportBinding}
    (h : StagedSign pending env bundle input sigShare)
    (hbinding : ceremonyBinding ringId ring pending.request.context = some binding) :
    Encodes bundle.publicPolynomial input.pubPoly := by
  obtain ⟨-, authorization, loaded, -, hload, hencodes⟩ := prepareSign_eq_ok h.prepared
  have hsame : loaded = bundle := by
    unfold Orbis.Node.Sign.loadSignBundle at hload
    split at hload
    · cases hload
    · obtain ⟨ringPk, -, hload⟩ := bind_eq_ok.mp hload
      cases hcontext : pending.request.context with
      | refreshHealthCheck statement | ringReshareUpdate statement =>
        simp only [hcontext, h.staged, ok_bind] at hload
        exact (Except.ok.inj hload).symm
      | bulletin | policy | report => simp [hcontext, ceremonyBinding] at hbinding
  rw [← hsame]
  exact hencodes

/-- The handler's answer, as a computation of the share in the statement. -/
def StagedSign.computation {pending : PendingSign} {env : SignEnvironment}
    {bundle : RingShareBundle} {input : SignInput F E} {sigShare : PubShare F}
    (h : StagedSign pending env bundle input sigShare) (node : SignResponder)
    (binding : SignResponseReportBinding) (signedAt : UInt64) :
    SignComputation F E (node.statement binding pending.request input sigShare signedAt) where
  share := input.share
  pubPoly := input.pubPoly
  signingState := input.signingState
  commitments := input.allCommitments
  sigShare := sigShare
  decoded := (prepareSign_eq_ok h.prepared).1
  signed := h.signed
  index_eq := rfl
  bytes_eq := rfl

/-! ## A candidate under which the response verifies -/

omit [Sha256] in
theorem not_signFailure [LawfulRepr32 F] {statement : SignResponseStatement}
    (computation : SignComputation F E statement)
    (hkey : poly.eval F 0 = computation.pubPoly.eval F 0)
    (hshare : poly.eval F computation.share.i = computation.share.v • generator)
    (hmem : ∀ candidates, candidatePublicPolynomials E context statement.ringPk = .ok candidates →
      poly ∈ candidates) :
    requireSignShareVerificationFailure F E context statement ≠ .ok () := by
  intro h
  have hdecode : Fr.fromBytes statement.sigShare = .ok computation.sigShare.v := by
    rw [computation.bytes_eq]
    exact Fr.fromBytes_toRepr _
  obtain ⟨candidates, hcandidates, hnone⟩ :=
    not_verified_of_signFailure hdecode computation.decoded h
  obtain ⟨hindex, hverify⟩ := verifyShare_of_sign hkey hshare computation.signed
  apply hnone poly (hmem candidates hcandidates)
  rw [computation.index_eq, ← hindex]
  exact hverify

variable [Json Pre.Secret] [Json Pre.EncryptionProof] [Json PetTag] [Json TagKnowledgeProof]

omit [Sha256] in
/-- The strict reader's secret is the one that is used. -/
theorem secret_of_documentIdBytes [LawfulJson Pre.Secret]
    {document : DocumentPayload} {secret : Pre.Secret}
    {bytes : Bytes} (hbytes : documentIdBytes document = .ok bytes)
    (hsecret : deserializeSecret document.document = .ok secret) :
    strictFromStr document.document = .ok secret := by
  unfold documentIdBytes at hbytes
  obtain ⟨strict, hstrict, -⟩ := bind_eq_ok.mp hbytes
  have hsame := LawfulJson.fromStr_of_strict (mapError_eq_ok.mp hstrict)
  rw [mapError_eq_ok.mp hsecret] at hsame
  rw [Except.ok.inj hsame]
  exact hstrict

/-- What the validator reads about documents is consistent with the responder's reading: the
documents on the bulletin do not change, and the hash has no collision between the document that
came with the report and the responder's. -/
structure DocumentsFixed (hashed : Set Bytes) (posted : String → Option DocumentPayload)
    (context : ResponseValidationContext) (evidence : ResponseEvidence) : Prop where
  collisionFree : Set.InjOn sha256 hashed
  inline_mem : ∀ document ∈ context.inlineDocument, ∀ bytes,
    documentIdBytes (document.toPayload evidence.ringId evidence.timestamp) = .ok bytes →
      bytes ∈ hashed
  posted_eq : ∀ id document document', posted id = some document →
    context.documents id = .ok document' → document' = document

variable [Blake2bScalarHash F] {hashed : Set Bytes} {posted : String → Option DocumentPayload}

theorem encCmt_of_reportedSecret [LawfulRepr32 E] [LawfulJson Pre.Secret]
    {statement : PreReencryptResponseStatement}
    {responseSignature : Bytes} {secret : Pre.Secret} {encCmt encCmt' : E}
    (hfixed : DocumentsFixed hashed posted context (.pre statement responseSignature))
    (computation : ReencryptComputation F E posted statement)
    (hhashed : ∀ bytes, documentIdBytes computation.document = .ok bytes → bytes ∈ hashed)
    (hsecret : reportedSecret context statement = .ok secret)
    (henc : Element.fromBytes computation.secret.encCmt = .ok encCmt)
    (henc' : Element.fromBytes secret.encCmt = .ok encCmt') : encCmt' = encCmt := by
  have hlength : secret.encCmt.length = computation.secret.encCmt.length := by
    rw [← toRepr_of_fromBytes henc, ← toRepr_of_fromBytes henc', LawfulRepr32.length_toRepr,
      LawfulRepr32.length_toRepr]
  have hsource := computation.source
  unfold reportedSecret at hsecret
  split_ifs at hsecret hsource with hdocument
  · -- Equal identifiers mean equal hashed bytes.
    obtain ⟨evidence, hevidence, hsecret⟩ := bind_eq_ok.mp hsecret
    obtain ⟨bytes, hbytes, hbytes'⟩ := sameBytes_of_requireInline hfixed.collisionFree
      hfixed.inline_mem hhashed hsource hevidence
    have hcmt : secret.encCmt = computation.secret.encCmt :=
      encCmt_eq_of_documentIdBytes hbytes hbytes' computation.ring_eq
        (secret_of_documentIdBytes hbytes (mapError_eq_ok.mp hsecret))
        (secret_of_documentIdBytes hbytes' computation.parsed) hlength
    rw [hcmt, henc] at henc'
    exact (Except.ok.inj henc').symm
  · obtain ⟨_, -, hsecret⟩ := bind_eq_ok.mp hsecret
    obtain ⟨document, hdocument, hsecret⟩ := bind_eq_ok.mp hsecret
    obtain ⟨_, -, hsecret⟩ := bind_eq_ok.mp hsecret
    obtain rfl := hfixed.posted_eq _ _ _ hsource (mapError_eq_ok.mp hdocument)
    have hsame := (mapError_eq_ok.mp hsecret).symm.trans computation.parsed
    rw [Except.ok.inj hsame, henc] at henc'
    exact (Except.ok.inj henc').symm

variable [LawfulRepr32 F]

theorem not_preFailure [LawfulRepr32 E] [LawfulJson Pre.Secret]
    {statement : PreReencryptResponseStatement} {responseSignature : Bytes}
    (hfixed : DocumentsFixed hashed posted context (.pre statement responseSignature))
    (computation : ReencryptComputation F E posted statement)
    (hhashed : ∀ bytes, documentIdBytes computation.document = .ok bytes → bytes ∈ hashed)
    (hshare : poly.eval F computation.share.i = computation.share.v • generator)
    (hmem : ∀ candidates, candidatePublicPolynomials E context statement.ringPk = .ok candidates →
      poly ∈ candidates) :
    requirePreProofVerificationFailure F E context statement ≠ .ok () := by
  intro h
  obtain ⟨encCmt, henc, hne⟩ := Pre.encCmt_of_reencrypt computation.reencrypted
  have hreply := Pre.reencrypt_eq_ok (toRepr_of_fromBytes henc).symm hne computation.reencrypted
  have hindex : statement.fromNodeId = computation.reply.share.i := by
    rw [computation.index_eq, hreply]
    rfl
  have hdecodeShare : Element.fromBytes statement.share = .ok computation.reply.share.v := by
    rw [computation.share_eq]
    exact Element.fromBytes_toRepr _
  have hdecodeChallenge : Fr.fromBytes statement.challenge = .ok computation.reply.challenge := by
    rw [computation.challenge_eq]
    exact Fr.fromBytes_toRepr _
  have hdecodeProof : Fr.fromBytes statement.proof = .ok computation.reply.proof := by
    rw [computation.proof_eq]
    exact Fr.fromBytes_toRepr _
  obtain ⟨secret, encCmt', candidates, hsecret, henc', hcandidates, hnone⟩ :=
    not_verified_of_preFailure computation.reader hindex hdecodeShare hdecodeChallenge
      hdecodeProof h
  obtain rfl := encCmt_of_reportedSecret hfixed computation hhashed hsecret henc henc'
  apply hnone poly (hmem candidates hcandidates)
  rw [hreply, computation.derivation_eq]
  exact Pre.verify_honestReply_of_eval hshare

variable [NodeSigning]

/-- With the polynomial of an honest response among its candidates, a validator confirms no report
about the response. -/
theorem not_confirmed_of_candidate [LawfulRepr32 E] [LawfulJson Pre.Secret]
    {evidence : ResponseEvidence}
    (hfixed : DocumentsFixed hashed posted context evidence)
    (hhonest : HonestResponse F E hashed posted poly evidence)
    (hmem : ∀ candidates, candidatePublicPolynomials E context evidence.ringPk = .ok candidates →
      poly ∈ candidates) :
    validateReport envelope context.toReportValidationContext
      (validateResponseEvidence F E envelope context evidence) ≠ .ok () := by
  intro h
  obtain ⟨ring, -, hvalid⟩ := evidence_of_validateReport h
  cases hhonest with
  | sign computation hkey hshare =>
    exact not_signFailure computation hkey hshare hmem
      (failure_of_validateSignEvidence hvalid)
  | pre computation hhashed hshare =>
    exact not_preFailure hfixed computation hhashed hshare hmem
      (failure_of_validatePreEvidence hvalid)

/-! ## Promotions -/

/-- A signature share of a ceremony is not confirmed as a fault by a validator that has promoted
the polynomial it was staged under, and retains it. -/
theorem staged_signature_not_confirmed {history : PromotionHistory} {ringPk : E}
    {pending : PendingSign} {env : SignEnvironment} {bundle : RingShareBundle}
    {input : SignInput F E} {sigShare : PubShare F} {ringId : String} {ring : RingPayload}
    {binding : SignResponseReportBinding} {promotedAt signedAt : UInt64}
    (hstaged : StagedSign pending env bundle input sigShare) (node : SignResponder)
    (hbinding : ceremonyBinding ringId ring pending.request.context = some binding)
    (responseSignature : Bytes)
    (hring : decodeRingPkHex E binding.ringPk = .ok ringPk)
    (hkey : history.ringKey = RingShareBundle.ringKeyOf ringPk)
    (hstore : context.store = history.storeAt context.now)
    (hpromoted : (history.storeAt promotedAt).Active history.ringKey bundle.publicPolynomial)
    (hle : promotedAt ≤ context.now) (hretains : history.Retains promotedAt context.now) :
    validateReport envelope context.toReportValidationContext
      (validateResponseEvidence F E envelope context
        (.sign (node.statement binding pending.request input sigShare signedAt)
          responseSignature)) ≠ .ok () := by
  intro h
  obtain ⟨ring', -, hvalid⟩ := evidence_of_validateReport h
  refine not_signFailure (hstaged.computation node binding signedAt) rfl hstaged.share_eq ?_
    (failure_of_validateSignEvidence hvalid)
  intro candidates hcandidates
  exact candidate_of_active hring hkey hstore (hstaged.encodes hbinding) hpromoted hle hretains
    hcandidates

/-- An honest response is not confirmed as a fault by a validator whose polynomial it matched when
it was signed, if what the validator has promoted since then was staged at most the retention
time before the validation, four bundles at most. -/
theorem honest_response_survives_rotation [LawfulRepr32 E] [LawfulJson Pre.Secret]
    {history : PromotionHistory} {ringPk : E}
    {text : String} {evidence : ResponseEvidence}
    (hfixed : DocumentsFixed hashed posted context evidence)
    (hhonest : HonestResponse F E hashed posted poly evidence)
    (hring : decodeRingPkHex E evidence.ringPk = .ok ringPk)
    (hkey : history.ringKey = RingShareBundle.ringKeyOf ringPk)
    (hstore : context.store = history.storeAt context.now)
    (hactive : (history.storeAt evidence.signedAt).Active history.ringKey text)
    (htext : Encodes text poly) (hsigned : evidence.signedAt ≤ context.now)
    (hretains : history.Retains evidence.signedAt context.now) :
    validateReport envelope context.toReportValidationContext
      (validateResponseEvidence F E envelope context evidence) ≠ .ok () := by
  apply not_confirmed_of_candidate hfixed hhonest
  intro candidates hcandidates
  exact candidate_of_active hring hkey hstore htext hactive hsigned hretains hcandidates

end

/-! ## A rotation to evaluate with

The ring of three members rotates from one line to another of the same constant term.  The first
member's share is accused by the second and validated by the third. -/

namespace Rotation

deriving instance DecidableEq for FrostSigningState, SignInput

open scoped ByteSum Echo

/-- Every text reads as one ciphertext, proof or tag. -/
local instance : Json Pre.Secret := ⟨fun _ _ => .ok ⟨toRepr (2 : F7), [1], [2]⟩⟩

local instance : LawfulJson Pre.Secret := ⟨fun h => h⟩

local instance : Json Pre.EncryptionProof := ⟨fun _ _ => .ok ⟨[3], [4]⟩⟩

local instance : Json PetTag := ⟨fun _ _ => .error "no tag"⟩

local instance : Json TagKnowledgeProof := ⟨fun _ _ => .error "no tag"⟩

def oldPoly : PubPoly F7 := ⟨[1, 2]⟩

def newPoly : PubPoly F7 := ⟨[1, 5]⟩

def ringPk : F7 := 1

def ringPkHex : String := hexEncode (toRepr ringPk)

def ring : RingPayload := { Trio.payload with ringPk := ringPkHex }

def text (poly : PubPoly F7) : String := hexEncode poly.toBytes

def promotion (stagedAt savedAt : UInt64) (h : stagedAt ≤ savedAt) : Promotion where
  bundle := .ofParts (⟨3, 2⟩ : PriShare F7) newPoly stagedAt
  savedAt := savedAt
  staged_le := h
  share_lt := by
    show (PriShare.toBytes (⟨3, 2⟩ : PriShare F7)).length < 2 ^ 32
    decide
  poly_lt := by
    show (utf8Bytes (hexEncode newPoly.toBytes)).length < 2 ^ 32
    decide +kernel

/-- The third member is on the old polynomial until it saves the new one. -/
def history (stagedAt savedAt : UInt64) (h : stagedAt ≤ savedAt) : PromotionHistory where
  ringKey := RingShareBundle.ringKeyOf ringPk
  initial := ⟨(RingShareBundle.ofParts (⟨3, 0⟩ : PriShare F7) oldPoly 0).saveByRingKey ∅
    (RingShareBundle.ringKeyOf ringPk), ∅⟩
  promotions := [promotion stagedAt savedAt h]
  ordered := List.pairwise_singleton _ _

def document : DocumentPayload :=
  ⟨"ring", "document", "proof", "policy", "resource", "read", none, none, none, none⟩

def posted (id : String) : Option DocumentPayload := if id = "object" then some document else none

def context (store : RingStore) (now : UInt64) : ResponseValidationContext where
  toReportValidationContext := { Trio.context ring with now := now }
  documents id := if id = "object" then .ok document else .error (.notFound "no document")
  store := store
  inlineDocument := none

def envelope : ReportEnvelope := { Trio.envelope ring with ringPk := ringPkHex }

/-- The first member signs with its share under the old polynomial. -/
def sigShare : PubShare F7 :=
  (sign (⟨1, 3⟩ : PriShare F7) [7] oldPoly (some ⟨2, 3, 1⟩) twoCommitments none none).toOption.getD
    ⟨0, 0⟩

def signStatement : SignResponseStatement where
  domain := signResponseDomain
  chainId := "chain"
  ringId := "ring"
  ringPk := ringPkHex
  ringStateSha256 := ringStateSha256 ring
  protocolVersion := 0
  requestId := "7"
  signedAt := 1000
  responderNodeKey := "a"
  originProtocol := "sign"
  accusedCommitteeScope := .current
  signingCommitteeScope := .current
  fromNodeId := 1
  message := [7]
  signingCommitments := Orbis.Node.Sign.serializeCommitments twoCommitments
  derivation := none
  metadata := none
  sigShare := toRepr sigShare.v
  cryptoBackend := signBackend

def signComputation : SignComputation F7 F7 signStatement where
  share := ⟨1, 3⟩
  pubPoly := oldPoly
  signingState := ⟨2, 3, 1⟩
  commitments := twoCommitments
  sigShare := sigShare
  decoded := by decide +kernel
  signed := by decide +kernel
  index_eq := rfl
  bytes_eq := rfl

def signEvidence : ResponseEvidence := .sign signStatement (utf8Bytes "a")

def readerContext : ReaderAuthorizationContext :=
  ⟨"chain", [], "issuer", none, "actor", "id", 0, 1, none, "object", [], none, none, none, none⟩

def secret : Pre.Secret := ⟨toRepr (2 : F7), [1], [2]⟩

def reply : Pre.ReencryptReply F7 F7 :=
  (Pre.reencrypt 1 ⟨1, 3⟩ secret (3 : F7) readerContext
    (Pre.signReaderAuthorization (1 : F7) 3 (3 : F7) readerContext)).toOption.getD ⟨⟨0, 0⟩, 0, 0⟩

def preStatement : PreReencryptResponseStatement where
  domain := preReencryptResponseDomain
  chainId := "chain"
  ringId := "ring"
  ringPk := ringPkHex
  ringStateSha256 := ringStateSha256 ring
  protocolVersion := 0
  requestId := "7"
  signedAt := 1000
  responderNodeKey := "a"
  originProtocol := "pre"
  objectId := "object"
  rdrPk := toRepr (3 : F7)
  derivation := none
  fromNodeId := 1
  share := toRepr reply.share.v
  challenge := toRepr reply.challenge
  proof := toRepr reply.proof
  cryptoBackend := preBackend
  timestamp := none
  documentInline := false

def preComputation : ReencryptComputation F7 F7 posted preStatement where
  document := document
  secret := secret
  share := ⟨1, 3⟩
  rdrPk := 3
  ri := 1
  readerContext := readerContext
  readerSignature := Pre.signReaderAuthorization (1 : F7) 3 (3 : F7) readerContext
  reply := reply
  source := rfl
  ring_eq := rfl
  timestamp_eq := rfl
  parsed := rfl
  reader := by decide
  derivation_eq := rfl
  reencrypted := by decide +kernel
  index_eq := rfl
  share_eq := rfl
  challenge_eq := rfl
  proof_eq := rfl

def preEvidence : ResponseEvidence := .pre preStatement (utf8Bytes "a")

def hashed : Set Bytes := {bytes | documentIdBytes document = .ok bytes}

theorem honest_signEvidence : HonestResponse F7 F7 hashed posted oldPoly signEvidence :=
  .sign signComputation rfl (by decide)

theorem honest_preEvidence : HonestResponse F7 F7 hashed posted oldPoly preEvidence :=
  .pre preComputation (fun _ h => h) (by decide)

/-- The new bundle was staged at 600 and is saved one second after two responses were signed.  The
old polynomial counts as retired since 600, so that it is not in the history at 1002. -/
theorem honest_responses_confirmed_after_rotation :
    HonestResponse F7 F7 hashed posted oldPoly signEvidence ∧
    HonestResponse F7 F7 hashed posted oldPoly preEvidence ∧
    signEvidence.signedAt = 1000 ∧ preEvidence.signedAt = 1000 ∧
    ((history 600 1001 (by decide)).storeAt 1000).Active (RingShareBundle.ringKeyOf ringPk)
      (text oldPoly) ∧
    Encodes (text oldPoly) oldPoly ∧
    ∀ evidence ∈ [signEvidence, preEvidence],
      validateReport envelope
        (context ((history 600 1001 (by decide)).storeAt 1002) 1002).toReportValidationContext
        (validateResponseEvidence F7 F7 envelope
          (context ((history 600 1001 (by decide)).storeAt 1002) 1002) evidence) = .ok () := by
  refine ⟨honest_signEvidence, honest_preEvidence, rfl, rfl, ?_, ?_, ?_⟩
  · exact ⟨.ofParts (⟨3, 0⟩ : PriShare F7) oldPoly 0, by decide +kernel, rfl⟩
  · unfold Encodes
    decide +kernel
  · decide +kernel

/-- The new bundle is saved eleven seconds after it was staged. -/
def prompt : PromotionHistory := history 990 1001 (by decide)

theorem prompt_retains : prompt.Retains 1000 1002 ∧ prompt.Retains 1001 1002 := by
  refine ⟨⟨?_, ?_⟩, ?_, ?_⟩ <;> decide

theorem documentsFixed (evidence : ResponseEvidence) :
    DocumentsFixed hashed posted (context (prompt.storeAt 1002) 1002) evidence where
  collisionFree := by
    intro bytes h bytes' h' _
    exact Except.ok.inj (h.symm.trans h')
  inline_mem := by
    intro document h
    cases h
  posted_eq := by
    intro id document document' h h'
    simp only [posted] at h
    simp only [context] at h'
    split_ifs at h h' with hid
    rw [← Option.some.inj h, ← Except.ok.inj h']

theorem honest_response_survives_prompt_rotation :
    validateReport envelope (context (prompt.storeAt 1002) 1002).toReportValidationContext
      (validateResponseEvidence F7 F7 envelope (context (prompt.storeAt 1002) 1002)
        signEvidence) ≠ .ok () ∧
    validateReport envelope (context (prompt.storeAt 1002) 1002).toReportValidationContext
      (validateResponseEvidence F7 F7 envelope (context (prompt.storeAt 1002) 1002)
        preEvidence) ≠ .ok () := by
  have hring : decodeRingPkHex F7 ringPkHex = .ok ringPk := by decide
  have hactive : (prompt.storeAt 1000).Active prompt.ringKey (text oldPoly) :=
    ⟨.ofParts (⟨3, 0⟩ : PriShare F7) oldPoly 0, by decide +kernel, rfl⟩
  have htext : Encodes (text oldPoly) oldPoly := by
    unfold Encodes
    decide +kernel
  constructor
  · exact honest_response_survives_rotation (documentsFixed _) honest_signEvidence hring rfl rfl
      hactive htext (by decide) prompt_retains.1
  · exact honest_response_survives_rotation (documentsFixed _) honest_preEvidence hring rfl rfl
      hactive htext (by decide) prompt_retains.1

/-! The first member answers a health check with its staged share. -/

def stagedBundle : RingShareBundle := .ofParts (⟨1, 6⟩ : PriShare F7) newPoly 990

def nonceBytes : Bytes := FrostSigningState.toBytes (⟨2, 3, 1⟩ : FrostSigningState F7)

def healthCheckKey : String := "refresh-health-check:" ++ Orbis.Node.Sign.sha256Hex [5]

def pending : PendingSign where
  request := ⟨"7", 0, [7], Orbis.Node.Sign.serializeCommitments twoCommitments,
    .refreshHealthCheck (.ok [5])⟩
  sender := []
  nonce := ⟨nonceBytes, healthCheckKey, 0⟩
  consumedAt := 0
  sweptAt := 0

def env : SignEnvironment where
  authorization := .ok ⟨ringPkHex, none, none⟩
  staged := .ok (some stagedBundle)
  storage := ∅
  evidence := .ok (1000, utf8Bytes "a")

def input : SignInput F7 F7 :=
  ⟨⟨1, 6⟩, newPoly, ⟨2, 3, 1⟩, twoCommitments, none, none, healthCheckKey, nonceBytes⟩

def stagedShare : PubShare F7 :=
  (sign input.share [7] newPoly (some input.signingState) twoCommitments none none).toOption.getD
    ⟨0, 0⟩

theorem stagedSign : StagedSign pending env stagedBundle input stagedShare where
  staged := rfl
  prepared := by decide +kernel
  signed := by decide +kernel
  share_eq := by decide

def responder : SignResponder := ⟨"chain", 0, "a"⟩

def binding : SignResponseReportBinding := .fromRing "ring" ring "pss_refresh" .current .current

def stagedEvidence : ResponseEvidence :=
  .sign (responder.statement binding pending.request input stagedShare 1000) (utf8Bytes "a")

/-- The third member has saved the new bundle when it validates. -/
theorem staged_signature_not_confirmed_promoted :
    validateReport envelope (context (prompt.storeAt 1002) 1002).toReportValidationContext
      (validateResponseEvidence F7 F7 envelope (context (prompt.storeAt 1002) 1002)
        stagedEvidence) ≠ .ok () := by
  have hring : decodeRingPkHex F7 binding.ringPk = .ok ringPk := by decide
  have hpromoted : (prompt.storeAt 1001).Active prompt.ringKey stagedBundle.publicPolynomial :=
    ⟨.ofParts (⟨3, 2⟩ : PriShare F7) newPoly 990, by decide +kernel, rfl⟩
  have hbinding : ceremonyBinding "ring" ring pending.request.context = some binding := rfl
  exact staged_signature_not_confirmed stagedSign responder hbinding (utf8Bytes "a") hring rfl rfl
    hpromoted (by decide) prompt_retains.2

/-- At 1000 the third member is still on the old bundle. -/
theorem staged_signature_confirmed :
    StagedSign pending env stagedBundle input stagedShare ∧
    ceremonyBinding "ring" ring pending.request.context = some binding ∧
    (prompt.storeAt 1000).Active prompt.ringKey (text oldPoly) ∧
    validateReport envelope (context (prompt.storeAt 1000) 1000).toReportValidationContext
      (validateResponseEvidence F7 F7 envelope (context (prompt.storeAt 1000) 1000)
        stagedEvidence) = .ok () := by
  refine ⟨stagedSign, rfl, ?_, ?_⟩
  · exact ⟨.ofParts (⟨3, 0⟩ : PriShare F7) oldPoly 0, by decide +kernel, rfl⟩
  · decide +kernel

end Rotation

end Orbis.Node.Reporting
