import Orbis.Node.Reporting.ControlMessage
import Orbis.Node.Transport.SignedControl

/-!
# Reports about repair pages over the limit

A leader signs the digest of a repair page's fields.  A report submits bytes, which are decoded;
the size is that of the submitted bytes.  The same fields have many texts, and the embedded
signature is not part of the digest, so the size of what was submitted is the size of what the
leader served only if the text is the leader's own encoding, with the signature that is verified.
A leader is convicted exactly by texts over the limit of pages that it served within the limit.
-/

namespace Orbis.Node.Reporting

open Orbis.Crypto Orbis.Data Orbis.Node.Transport
open Orbis.Node.Dkg (ParticipantRef)

theorem fits_publicPhaseResponse : FitsU64 "public_phase_response" := by decide

section

variable [Sha256] [LawfulSha256] [NodeSigning] [Serde PublicPhase] [Serde (Option ParticipantRef)]
  [Serde DkgControlMessage]

/-- The leader signed the response as `control`. -/
structure Serves (signingKeyHex leader : String) (control : SignedControl)
    (response : PublicPhaseResponse) : Prop where
  signed : ∃ page, signPublicPhaseResponse signingKeyHex leader control.signedAt page = .ok response
  ceremonyId : control.ceremonyId = response.ceremonyId
  attemptId : control.attemptId = response.attemptId
  digest : control.digest = response.pageDigest
  signature : response.reportSignature = some ⟨leader, control.signedAt, control.signature⟩

/-- The byte strings that are hashed when a report about a page is validated. -/
inductive PageHashed (statement : DkgControlMessageFaultStatement) : Bytes → Prop
  | page {response : PublicPhaseResponse}
      (h : decode statement.artifactA.data maxPublicOriginEvidenceBytes =
        .ok (DkgControlMessage.publicPhaseResponse response)) :
      PageHashed statement response.toRepairPage.preimage
  | control {response : PublicPhaseResponse}
      (h : decode statement.artifactA.data maxPublicOriginEvidenceBytes =
        .ok (DkgControlMessage.publicPhaseResponse response)) :
      PageHashed statement (controlAckPreimage response.ceremonyId response.attemptId
        "public_phase_response" response.pageDigest statement.artifactA.signedAt)

omit [Serde DkgControlMessage] in
theorem Serves.pageDigest_eq {signingKeyHex leader : String} {control : SignedControl}
    {response : PublicPhaseResponse} (h : Serves signingKeyHex leader control response) :
    response.pageDigest = publicRepairPageDigest response.toRepairPage := by
  obtain ⟨page, hsigned⟩ := h.signed
  unfold signPublicPhaseResponse at hsigned
  obtain ⟨signature, -, hresponse⟩ := bind_eq_ok.mp hsigned
  cases hresponse
  rfl

omit [Serde DkgControlMessage] in
/-- A page that has the digest of a served one is the served one. -/
theorem Serves.page_eq [SelfDelimiting PublicPhase] [SelfDelimiting (Option ParticipantRef)]
    {signingKeyHex leader : String} {control : SignedControl}
    {served response : PublicPhaseResponse}
    (h : Serves signingKeyHex leader control served) {hashed : Set Bytes}
    (hfree : Set.InjOn sha256 hashed) (hserved : served.toRepairPage.preimage ∈ hashed)
    (hresponse : response.toRepairPage.preimage ∈ hashed)
    (hdigest : publicRepairPageDigest response.toRepairPage = response.pageDigest)
    (hsame : control.digest = response.pageDigest) :
    response.toRepairPage = served.toRepairPage := by
  have hdigests : publicRepairPageDigest response.toRepairPage =
      publicRepairPageDigest served.toRepairPage := by
    rw [hdigest, ← hsame, h.digest, h.pageDigest_eq]
  exact RepairPage.preimage_injective (hfree hresponse hserved (congrArg Subtype.val hdigests))

variable [AddressSyntax] [Serde SessionKind] [Serde PrepareSession]

/-- The report is bound to its ring, and is about one page of the ceremony. -/
structure BoundToRing (envelope : ReportEnvelope) (context : ReportValidationContext)
    (statement : DkgControlMessageFaultStatement) (ceremonyId : CeremonyId) : Prop where
  shape : envelope.validateShape context.now = .ok ()
  reportType : envelope.reportType = invalidCryptoResponseReportType
  ring : ∃ ring committee, context.bulletin.ring envelope.ringId = .ok ring ∧
    validateControlStatement envelope context ring statement = .ok (ceremonyId, committee)
  single : statement.artifactB.isNone
  kind : statement.messageKind = "public_phase_response"
  signedAt : statement.signedAt = statement.artifactA.signedAt

/-- The submitted bytes decode to the page of the ceremony that was served, with the signature that
was made for it as `control`. -/
structure Submits (statement : DkgControlMessageFaultStatement) (ceremonyId : CeremonyId)
    (control : SignedControl) (served response : PublicPhaseResponse) : Prop where
  decoded : decode statement.artifactA.data maxPublicOriginEvidenceBytes =
    .ok (DkgControlMessage.publicPhaseResponse response)
  page : response.toRepairPage = served.toRepairPage
  attempt : response.ceremonyId = ceremonyId ∧ response.attemptId = statement.attemptId
  digest : response.pageDigest = control.digest
  signedAt : control.signedAt = statement.artifactA.signedAt
  signature : control.signature = statement.artifactA.signature
  embedded : ∃ embedded, response.reportSignature = some embedded ∧
    embedded.signedAt = statement.artifactA.signedAt

/-- More bytes than the limit are submitted that decode to a served page. -/
def Inflates (signed : NodeSignatures) (served : SignedControl → PublicPhaseResponse)
    (envelope : ReportEnvelope) (context : ReportValidationContext)
    (statement : DkgControlMessageFaultStatement) : Prop :=
  maxPublicRepairPageBytes < statement.artifactA.data.length ∧
    ∃ ceremonyId, BoundToRing envelope context statement ceremonyId ∧
      ∃ control ∈ signed.controls, control.messageKind = "public_phase_response" ∧
        ∃ response, Submits statement ceremonyId control (served control) response

/-- A leader whose signed pages are all within the limit is convicted of a page over it exactly if a
report that is bound to its ring submits more bytes than the limit that decode to one of its pages,
with the signature of that page.  The encoding of a page with the signature that is verified is
not such a submission. -/
theorem oversized_page_rejected [SelfDelimiting PublicPhase]
    [SelfDelimiting (Option ParticipantRef)] {signed : NodeSignatures}
    {signingKeyHex leader : String} (hforge : signed.Unforgeable leader)
    (hverifies : ∀ control ∈ signed.controls,
      NodeSigning.verify leader control.signingBytes control.signature = .ok ())
    {served : SignedControl → PublicPhaseResponse}
    (hserved : ∀ control ∈ signed.controls, control.messageKind = "public_phase_response" →
      Serves signingKeyHex leader control (served control) ∧
        (toVec (DkgControlMessage.publicPhaseResponse (served control))).length ≤
          maxPublicRepairPageBytes)
    {envelope : ReportEnvelope} (context : ReportValidationContext)
    {statement : DkgControlMessageFaultStatement} (haccused : envelope.accusedNodeKey = leader)
    (hkind : statement.faultKind = .oversizedRepairPage) {hashed : Set Bytes}
    (hfree : Set.InjOn sha256 hashed)
    (hcontrols : ∀ control ∈ signed.controls, control.preimage ∈ hashed)
    (hpages : ∀ control ∈ signed.controls, (served control).toRepairPage.preimage ∈ hashed)
    (hreport : ∀ bytes, PageHashed statement bytes → bytes ∈ hashed) :
    (validateReport envelope context (validateDkgControlMessageFaultEvidence envelope context
        statement) = .ok () ↔ Inflates signed served envelope context statement) ∧
    ((∀ response,
        decode statement.artifactA.data maxPublicOriginEvidenceBytes =
          .ok (DkgControlMessage.publicPhaseResponse response) →
        toVec (DkgControlMessage.publicPhaseResponse response) = statement.artifactA.data ∧
          ∀ embedded ∈ response.reportSignature, embedded.signerNodeKey = leader ∧
            embedded.signature = statement.artifactA.signature) →
      validateReport envelope context (validateDkgControlMessageFaultEvidence envelope context
        statement) ≠ .ok ()) := by
  have hiff : validateReport envelope context (validateDkgControlMessageFaultEvidence envelope
      context statement) = .ok () ↔ Inflates signed served envelope context statement := by
    constructor
    · intro haccepted
      obtain ⟨hshape, htype, ring, hring, hevidence⟩ := validateReport_eq_ok.mp haccepted
      obtain ⟨⟨ceremonyId, committee⟩, hstatement, hevidence⟩ := bind_eq_ok.mp hevidence
      rw [hkind] at hevidence
      obtain ⟨hresponder, -⟩ := validateControlStatement_eq_ok hstatement
      obtain ⟨hsingle, hmessage, hsize, response, embedded, hdecode, hattempt, hdigest, hembedded,
        ⟨htime, hsignedAt⟩, hverify⟩ := validateOversizedRepairPage_eq_ok.mp hevidence
      rw [hresponder, haccused] at hverify
      -- The verified message is one that the leader signed for a page it served.
      have hmem := hforge.control_of_verify hfree hcontrols fits_publicPhaseResponse
        (hreport _ (.control hdecode)) hverify
      obtain ⟨hserves, -⟩ := hserved _ hmem rfl
      have hpage := hserves.page_eq hfree (hpages _ hmem) (hreport _ (.page hdecode)) hdigest rfl
      exact ⟨hsize, ceremonyId,
        ⟨hshape, htype, ⟨ring, committee, hring, hstatement⟩, hsingle, hmessage, hsignedAt⟩, _,
        hmem, rfl, response, hdecode, hpage, hattempt, rfl, rfl, rfl, embedded, hembedded, htime⟩
    · rintro ⟨hsize, ceremonyId, ⟨hshape, htype, ⟨ring, committee, hring, hstatement⟩, hsingle,
        hmessage, hsignedAt⟩, control, hmem, hcontrol, response, hsubmits⟩
      obtain ⟨embedded, hembedded, htime⟩ := hsubmits.embedded
      obtain ⟨hserves, -⟩ := hserved control hmem hcontrol
      obtain ⟨hresponder, -⟩ := validateControlStatement_eq_ok hstatement
      refine validateReport_eq_ok.mpr ⟨hshape, htype, ring, hring,
        bind_eq_ok.mpr ⟨_, hstatement, ?_⟩⟩
      simp only [hkind]
      have hdigest : publicRepairPageDigest response.toRepairPage = response.pageDigest := by
        rw [hsubmits.page, ← hserves.pageDigest_eq, ← hserves.digest, hsubmits.digest]
      have hbytes : controlAckSigningBytes response.ceremonyId response.attemptId
          "public_phase_response" response.pageDigest statement.artifactA.signedAt =
          control.signingBytes := by
        have hceremony : response.ceremonyId = control.ceremonyId :=
          (congrArg RepairPage.ceremonyId hsubmits.page).trans hserves.ceremonyId.symm
        have hattempt : response.attemptId = control.attemptId :=
          (congrArg RepairPage.attemptId hsubmits.page).trans hserves.attemptId.symm
        rw [hceremony, hattempt, ← hcontrol, hsubmits.digest, ← hsubmits.signedAt]
        rfl
      refine validateOversizedRepairPage_eq_ok.mpr ⟨hsingle, hmessage, hsize, response, embedded,
        hsubmits.decoded, hsubmits.attempt, hdigest, hembedded, ⟨htime, hsignedAt⟩, ?_⟩
      rw [hresponder, haccused, hbytes, ← hsubmits.signature]
      exact hverifies control hmem
  refine ⟨hiff, fun hcanonical haccepted => ?_⟩
  obtain ⟨hsize, ceremonyId, -, control, hmem, hcontrol, response, hsubmits⟩ := hiff.mp haccepted
  obtain ⟨hserves, hlimit⟩ := hserved control hmem hcontrol
  -- The submitted response is the one that was served.
  obtain ⟨hencoding, hsigner⟩ := hcanonical response hsubmits.decoded
  have hsame : response = served control := by
    obtain ⟨embedded, hembedded, htime⟩ := hsubmits.embedded
    obtain ⟨hkey, hbytes⟩ := hsigner embedded hembedded
    have hsignature : response.reportSignature = (served control).reportSignature := by
      rw [hembedded, hserves.signature, hsubmits.signedAt, hsubmits.signature, ← hkey, ← hbytes,
        ← htime]
    have hdigest : response.pageDigest = (served control).pageDigest :=
      hsubmits.digest.trans hserves.digest
    have hpage := hsubmits.page
    generalize served control = served at *
    obtain ⟨page, pageDigest, reportSignature⟩ := response
    obtain ⟨page', pageDigest', reportSignature'⟩ := served
    subst hpage hdigest hsignature
    rfl
  rw [← hencoding, hsame] at hsize
  omega

end

/-! ## A page of a few bytes -/

namespace Trio

open scoped Plain

local instance pagePrepare : Serde PrepareSession := .known []

/-- The last page of a phase without contributions. -/
def page : RepairPage where
  ceremonyId := 7
  attemptId := attemptId
  phase := .commitments
  contributions := []
  nextCursor := none
  fits := by decide

def pageControl : SignedControl where
  ceremonyId := 7
  attemptId := attemptId
  messageKind := "public_phase_response"
  digest := publicRepairPageDigest page
  signedAt := 1000
  signature := [1]
  fits := fits_publicPhaseResponse

def pageResponse : PublicPhaseResponse :=
  { page with
    pageDigest := publicRepairPageDigest page
    reportSignature := some ⟨"a", 1000, [1]⟩ }

local instance pageSigning : NodeSigning :=
  recordedSignatures [("a", pageControl.signingBytes, [1])]

local instance pageMessages : Serde DkgControlMessage :=
  .known [(utf8Bytes "page", .publicPhaseResponse pageResponse)]

def pageSignatures : NodeSignatures := .ofControls [pageControl]

def pageStatement (data : Bytes) : DkgControlMessageFaultStatement :=
  statement payload .oversizedRepairPage "public_phase_response" ⟨[1], data, 1000⟩

/-- Everything that is hashed for the page. -/
def pageHashes : List Bytes := [page.preimage, pageControl.preimage]

theorem pageHashes_injOn : Set.InjOn sha256 {bytes | bytes ∈ pageHashes} := by
  have h : ∀ x ∈ pageHashes, ∀ y ∈ pageHashes, sha256 x = sha256 y → x = y := by decide +kernel
  exact fun x hx y hy => h x hx y hy

theorem pageServes : Serves "key" "a" pageControl pageResponse where
  signed := ⟨page, by decide +kernel⟩
  ceremonyId := rfl
  attemptId := rfl
  digest := rfl
  signature := rfl

theorem pageUnforgeable : pageSignatures.Unforgeable "a" :=
  unforgeable_ofControls "a" [pageControl]

theorem length_page :
    (toVec (DkgControlMessage.publicPhaseResponse pageResponse)).length = 4 := by decide +kernel

theorem decode_padded (blanks : ℕ) (hblanks : blanks ≤ 1024 * 1024) :
    decode (utf8Bytes "page" ++ List.replicate blanks 0x20) maxPublicOriginEvidenceBytes =
      .ok (DkgControlMessage.publicPhaseResponse pageResponse) := by
  have hlength : (utf8Bytes "page" ++ List.replicate blanks 0x20).length = 4 + blanks := by
    rw [List.length_append, List.length_replicate]
    rfl
  unfold decode
  simp only
  rw [if_neg (by rw [hlength, maxPublicOriginEvidenceBytes]; omega)]
  exact Serde.known_fromSlice_padded (by decide) (by decide +kernel) blanks

theorem oversized_page_rejected_small :
    validateReport (envelope payload) (context payload)
      (validateDkgControlMessageFaultEvidence (envelope payload) (context payload)
        (pageStatement (utf8Bytes "page"))) ≠ .ok () := by
  have hdecode : decode (utf8Bytes "page") maxPublicOriginEvidenceBytes =
      .ok (DkgControlMessage.publicPhaseResponse pageResponse) := decode_padded 0 (by omega)
  have hresponse : ∀ response, decode (utf8Bytes "page") maxPublicOriginEvidenceBytes =
      .ok (DkgControlMessage.publicPhaseResponse response) → response = pageResponse := by
    intro response h
    cases hdecode.symm.trans h
    rfl
  have hserved : ∀ control ∈ pageSignatures.controls,
      control.messageKind = "public_phase_response" → Serves "key" "a" control pageResponse ∧
        (toVec (DkgControlMessage.publicPhaseResponse pageResponse)).length ≤
          maxPublicRepairPageBytes := by
    rintro _ (_ | ⟨_, ⟨⟩⟩) -
    refine ⟨pageServes, ?_⟩
    rw [length_page, maxPublicRepairPageBytes]
    omega
  refine (oversized_page_rejected pageUnforgeable ?_ hserved _ rfl rfl pageHashes_injOn ?_
    (fun _ _ => List.mem_cons_self) ?_).2 ?_
  · rintro _ (_ | ⟨_, ⟨⟩⟩)
    decide +kernel
  · rintro _ (_ | ⟨_, ⟨⟩⟩)
    exact List.mem_cons_of_mem _ List.mem_cons_self
  · rintro _ (h | h)
    · cases hresponse _ h
      exact List.mem_cons_self
    · cases hresponse _ h
      exact List.mem_cons_of_mem _ List.mem_cons_self
  · intro response h
    cases hresponse _ h
    refine ⟨by decide +kernel, ?_⟩
    rintro _ ⟨⟩
    exact ⟨rfl, rfl⟩

/-- Blanks after the text of a page of a few bytes: the leader that served it is convicted. -/
theorem convicted_of_padded_page :
    pageSignatures.Unforgeable "a" ∧
      (∀ control ∈ pageSignatures.controls, ∃ response, Serves "key" "a" control response ∧
        (toVec (DkgControlMessage.publicPhaseResponse response)).length = 4) ∧
      Set.InjOn sha256 {bytes | bytes ∈ pageHashes} ∧
      validateReport (envelope payload) (context payload)
        (validateDkgControlMessageFaultEvidence (envelope payload) (context payload)
          (pageStatement (utf8Bytes "page" ++ List.replicate (512 * 1024) 0x20))) = .ok () := by
  refine ⟨pageUnforgeable, ?_, pageHashes_injOn, ?_⟩
  · rintro _ (_ | ⟨_, ⟨⟩⟩)
    exact ⟨pageResponse, pageServes, length_page⟩
  · have hshape : (envelope payload).validateShape (context payload).now = .ok () := by
      decide +kernel
    have hstatement : validateControlStatement (envelope payload) (context payload) payload
        (pageStatement (utf8Bytes "page" ++ List.replicate (512 * 1024) 0x20)) =
          .ok (7, ⟨["a", "b", "c"], 2⟩) := by decide +kernel
    have hlength : maxPublicRepairPageBytes <
        (utf8Bytes "page" ++ List.replicate (512 * 1024) 0x20).length := by
      rw [List.length_append, List.length_replicate, maxPublicRepairPageBytes]
      exact Nat.lt_add_of_pos_left (by decide)
    refine bind_eq_ok.mpr ⟨(), hshape, bind_eq_ok.mpr ⟨(), rfl, bind_eq_ok.mpr ⟨payload, rfl, ?_⟩⟩⟩
    refine bind_eq_ok.mpr ⟨_, hstatement, ?_⟩
    refine bind_eq_ok.mpr ⟨(), rfl, bind_eq_ok.mpr ⟨(), rfl, ?_⟩⟩
    refine bind_eq_ok.mpr ⟨(), require_eq_ok.mpr hlength, ?_⟩
    refine bind_eq_ok.mpr ⟨_, mapError_eq_ok.mpr (decode_padded _ (by decide)), ?_⟩
    decide +kernel

end Trio

end Orbis.Node.Reporting
