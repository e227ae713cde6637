import TeeAnchor.ByteFields
import TeeAnchor.CrlOption

/-!
# The chip that an accepted SNP report names

An accepted report has passed the checks of its header, its certificates and
its signature, and its Chip ID is read from the signed bytes.  The VCEK names
the chip too, in its hwID extension.  The two are compared only if the extension
is as long as the Chip ID, and only the first one is looked at; any other passes
whatever it says.
-/

namespace TeeAnchor.Snp

variable {ssl : OpenSsl} {host : Host} {reportPath certsDir : String}

theorem validateReportHeader_eq_ok {report : Bytes} {done : Unit} :
    validateReportHeader report = .ok done ↔
      report.length = kReportLen ∧
      (2 ≤ leField report kOffVersion 4 ∧ leField report kOffVersion 4 ≤ 5) ∧
      leField report kOffSigAlgo 4 = kSigAlgoEcdsaP384Sha384 := by
  unfold validateReportHeader
  rw [refuse_eq_ok, refuse_eq_ok, refuse_last_eq_ok]
  change _ ∧ _ ∧ _ ∧ Except.ok () = Except.ok () ↔ _
  simp only [not_or, not_lt, not_not, and_true, rdU32le, leField, field]

/-- The pin that is matched is one of the list. -/
theorem matchArkPin_eq_some {digest : Bytes} {generation : String}
    (pinned : matchArkPin digest = some generation) :
    (generation, digest) ∈ kAmdArkPins := by
  unfold matchArkPin at pinned
  split at pinned
  · cases pinned
  · obtain ⟨pin, found, rfl⟩ := Option.map_eq_some_iff.mp pinned
    have same : pin.2 = digest := by simpa using List.find?_some found
    rw [← same]
    exact List.mem_of_find?_eq_some found

theorem verifyVcekChain_eq_ok {chain : SnpChain}
    (verified : verifyVcekChain ssl host certsDir = .ok chain) :
    ∃ ark ask digest,
      Pki.loadPemCert ssl host (joinPath certsDir "ark.pem") = .ok ark ∧
      Pki.loadPemCert ssl host (joinPath certsDir "ask.pem") = .ok ask ∧
      Pki.loadPemCert ssl host (joinPath certsDir "vcek.pem") =
        .ok chain.vcek ∧
      Pki.pubkeySpkiSha384 ssl ark = .ok digest ∧
      (chain.generation, digest) ∈ kAmdArkPins ∧
      ssl.x509VerifyCert ⟨[ark], [], false, false, chain.vcek, [ask]⟩ =
        none := by
  unfold verifyVcekChain at verified
  simp only [bind_eq_ok] at verified
  obtain ⟨_, _, _, _, _, _, ark, arkLoaded, ask, askLoaded, vcek, vcekLoaded,
    digest, digested, rest⟩ := verified
  split at rest
  · cases rest
  · rename_i generation pinned
    simp only [bind_eq_ok] at rest
    obtain ⟨_, _, _, _, _, _, _, _, _, _, _, _, rest⟩ := rest
    split at rest
    · rename_i passes
      cases rest
      exact ⟨ark, ask, digest, arkLoaded, askLoaded, vcekLoaded, digested,
        matchArkPin_eq_some pinned, passes⟩
    · cases rest

theorem verifyReportSignature_eq_ok {report : Bytes} {vcek : X509} {done : Unit}
    (verified : verifyReportSignature ssl report vcek = .ok done) :
    ∃ pk, vcek.pubkey = some pk ∧ pk.baseId = Pki.evpPkeyEc ∧
      ssl.ecdsaSha384Verify pk (leField report kOffSignature kEcdsaCompLen)
        (leField report (kOffSignature + kEcdsaCompLen) kEcdsaCompLen)
        (report.take kOffSignedEnd) = 1 := by
  unfold verifyReportSignature at verified
  rw [refuse_eq_ok] at verified
  obtain ⟨_, verified⟩ := verified
  rw [bind_eq_ok] at verified
  obtain ⟨pk, found, verified⟩ := verified
  rw [refuse_eq_ok, not_not] at verified
  obtain ⟨isEc, verified⟩ := verified
  simp only [bind_eq_ok] at verified
  obtain ⟨_, _, _, _, _, _, _, _, _, _, _, _, _, _, verified⟩ := verified
  refine ⟨pk, OpenSsl.nonNull_eq_ok.mp found, isEc, ?_⟩
  by_contra refused
  split at verified
  · cases verified
  · exact (refuse_last_eq_ok.mp verified).1 refused

/-- The Chip ID that a report states. -/
def reportChipId (report : Bytes) : Bytes :=
  field report kOffChipId kChipIdLen

/-- A Chip ID that is extracted is the one the report states, and not
masked. -/
theorem extractChipIdFromReport_eq_ok {report chipId : Bytes} :
    extractChipIdFromReport report = .ok chipId ↔
      kOffChipId + kChipIdLen ≤ report.length ∧
      (∃ byte ∈ reportChipId report, byte ≠ 0) ∧
      chipId = reportChipId report := by
  unfold extractChipIdFromReport
  rw [refuse_eq_ok, refuse_eq_ok, not_lt]
  change _ ∧ ¬((reportChipId report).all fun byte => byte == 0) = true ∧
    Except.ok (reportChipId report) = _ ↔ _
  rw [Except.ok.injEq, @eq_comm _ (reportChipId report) chipId, List.all_eq_true]
  simp only [beq_iff_eq, not_forall, exists_prop, ne_eq]

theorem crossCheckHwid_eq_ok {vcek : X509} {chipId : Bytes} {done : Unit} :
    crossCheckHwid ssl vcek chipId = .ok done ↔
      ssl.callFails "OBJ_txt2obj" = false ∧
      ∀ ext, vcek.extByObj oidAmdSevHwid = some ext →
        ext.value.length = chipId.length → ext.value = chipId := by
  unfold crossCheckHwid OpenSsl.makeOid
  simp only [bind_eq_ok, OpenSsl.call_eq_ok]
  constructor
  · rintro ⟨oid, ⟨_, calls, returned⟩, checked⟩
    cases returned
    refine ⟨calls, ?_⟩
    intro ext found sameLength
    rw [found] at checked
    by_contra differs
    exact (refuse_last_eq_ok.mp checked).1 ⟨sameLength, Ne.symm differs⟩
  · rintro ⟨calls, agrees⟩
    refine ⟨oidAmdSevHwid, ⟨(), calls, rfl⟩, ?_⟩
    cases found : vcek.extByObj oidAmdSevHwid with
    | none => rfl
    | some ext =>
        refine refuse_last_eq_ok.mpr ⟨?_, rfl⟩
        rintro ⟨sameLength, differs⟩
        exact differs (agrees ext found sameLength).symm

/-- A report and a chain that pass the checks of header, certificates and
signature. -/
structure Checked (ssl : OpenSsl) (host : Host) (reportPath certsDir : String)
    (report : Bytes) (chain : SnpChain) : Prop where
  read : readFile host reportPath = .ok report
  header : validateReportHeader report = .ok ()
  verified : verifyVcekChain ssl host certsDir = .ok chain
  signature : verifyReportSignature ssl report chain.vcek = .ok ()

theorem verifyAndExtract_eq_ok {result : SnpVerifyResult} :
    verifyAndExtract ssl host reportPath certsDir = .ok result ↔
      ∃ report chain, Checked ssl host reportPath certsDir report chain ∧
        extractChipIdFromReport report = .ok result.chipId ∧
        crossCheckHwid ssl chain.vcek result.chipId = .ok () ∧
        result = ⟨result.chipId, rdU32le (report.drop kOffVersion),
          chain.generation, chain.vcek⟩ := by
  unfold verifyAndExtract
  simp only [bind_eq_ok]
  constructor
  · rintro ⟨report, read, _, header, chain, verified, _, signature, chipId,
      extracted, _, agrees, returned⟩
    cases returned
    exact ⟨report, chain, ⟨read, header, verified, signature⟩, extracted,
      agrees, rfl⟩
  · rintro ⟨report, chain, checked, extracted, agrees, returned⟩
    exact ⟨report, checked.read, (), checked.header, chain, checked.verified, (),
      checked.signature, result.chipId, extracted, (), agrees,
      congrArg Except.ok returned.symm⟩

def HwidAgrees (hwid chipId : Bytes) : Prop :=
  hwid <+: chipId ∧ ∀ byte ∈ chipId.drop hwid.length, byte = 0

/-- What the acceptance of a report should mean. -/
structure NamesChip (ssl : OpenSsl) (host : Host) (reportPath certsDir : String)
    (report : Bytes) (result : SnpVerifyResult) : Prop where
  read : host.read reportPath = .opened report false
  length : report.length = 1184
  version : 2 ≤ leField report 0 4 ∧ leField report 0 4 ≤ 5
  sigAlgo : leField report 0x34 4 = 1
  chain : ∃ ark ask digest,
    Pki.loadPemCert ssl host (joinPath certsDir "ark.pem") = .ok ark ∧
    Pki.loadPemCert ssl host (joinPath certsDir "ask.pem") = .ok ask ∧
    Pki.loadPemCert ssl host (joinPath certsDir "vcek.pem") =
      .ok result.vcek ∧
    Pki.pubkeySpkiSha384 ssl ark = .ok digest ∧
    (result.generation, digest) ∈ kAmdArkPins ∧
    ssl.x509VerifyCert ⟨[ark], [], false, false, result.vcek, [ask]⟩ = none
  signature : ∃ pk, result.vcek.pubkey = some pk ∧
    ssl.ecdsaSha384Verify pk (leField report 0x2A0 72)
      (leField report (0x2A0 + 72) 72) (report.take 0x2A0) = 1
  /-- The Chip ID is 64 bytes of the signed ones. -/
  chipId : result.chipId = field (report.take 0x2A0) 0x1A0 64 ∧
    result.chipId.length = 64
  notMasked : ∃ byte ∈ result.chipId, byte ≠ 0
  hwid : ∀ ext ∈ result.vcek.extensions, ext.oid = oidAmdSevHwid →
    HwidAgrees ext.value result.chipId

/-- The Chip ID of a report lies in the bytes that are signed. -/
theorem reportChipId_eq (report : Bytes) :
    reportChipId report = field (report.take 0x2A0) 0x1A0 64 := by
  unfold reportChipId field
  rw [List.drop_take, List.take_take]
  rfl

theorem Checked.length {report : Bytes} {chain : SnpChain}
    (checked : Checked ssl host reportPath certsDir report chain) :
    report.length = 1184 :=
  (validateReportHeader_eq_ok.mp checked.header).1

theorem Checked.reportChipId_length {report : Bytes} {chain : SnpChain}
    (checked : Checked ssl host reportPath certsDir report chain) :
    (reportChipId report).length = 64 := by
  unfold reportChipId
  refine field_length ?_
  rw [checked.length]
  decide

theorem namesChip_of_checked {report : Bytes} {result : SnpVerifyResult}
    {chain : SnpChain}
    (checked : Checked ssl host reportPath certsDir report chain)
    (extracted : extractChipIdFromReport report = .ok result.chipId)
    (returned : result = ⟨result.chipId, rdU32le (report.drop kOffVersion),
      chain.generation, chain.vcek⟩)
    (agree : ∀ ext ∈ chain.vcek.extensions, ext.oid = oidAmdSevHwid →
      HwidAgrees ext.value (reportChipId report)) :
    NamesChip ssl host reportPath certsDir report result := by
  obtain ⟨length, version, sigAlgo⟩ :=
    validateReportHeader_eq_ok.mp checked.header
  obtain ⟨_, notMasked, chipIdEq⟩ :=
    extractChipIdFromReport_eq_ok.mp extracted
  obtain ⟨ark, ask, digest, verified⟩ := verifyVcekChain_eq_ok checked.verified
  obtain ⟨pk, hasKey, _, signed⟩ :=
    verifyReportSignature_eq_ok checked.signature
  rw [chipIdEq] at returned
  subst returned
  exact {
    read := readFile_eq_ok.mp checked.read
    length := length
    version := version
    sigAlgo := sigAlgo
    chain := ⟨ark, ask, digest, verified⟩
    signature := ⟨pk, hasKey, signed⟩
    chipId := ⟨reportChipId_eq report, checked.reportChipId_length⟩
    notMasked := notMasked
    hwid := agree }

/-- Two reports with the same signed bytes state the same Chip ID. -/
theorem reportChipId_congr {report report' : Bytes}
    (same : report.take 0x2A0 = report'.take 0x2A0) :
    reportChipId report = reportChipId report' := by
  rw [reportChipId_eq, reportChipId_eq, same]

theorem verifyAndExtract_chipId {report : Bytes} {result : SnpVerifyResult}
    (accepted : verifyAndExtract ssl host reportPath certsDir = .ok result)
    (read : host.read reportPath = .opened report false) :
    result.chipId = reportChipId report := by
  obtain ⟨other, chain, checked, extracted, _, _⟩ :=
    verifyAndExtract_eq_ok.mp accepted
  have same := (readFile_eq_ok.mpr read).symm.trans checked.read
  cases same
  exact (extractChipIdFromReport_eq_ok.mp extracted).2.2

/-- An extension that is compared and passes is the Chip ID. -/
theorem hwidAgrees_self (chipId : Bytes) : HwidAgrees chipId chipId := by
  refine ⟨List.prefix_refl chipId, ?_⟩
  rw [List.drop_length]
  simp

/-- The extensions that `crossCheckHwid` does not compare with the Chip ID: those
of another length, and those behind the first. -/
def Uncompared (vcek : X509) (ext : X509Extension) : Prop :=
  ext.value.length ≠ 64 ∨ vcek.extByObj oidAmdSevHwid ≠ some ext

/-- The first hwID has the length of a Chip ID and is another one. -/
def FirstHwidDiffers (vcek : X509) (chipId : Bytes) : Prop :=
  ∃ ext, vcek.extByObj oidAmdSevHwid = some ext ∧ ext.value.length = 64 ∧
    ext.value ≠ chipId

/-- An accepted report names the chip of its VCEK exactly when the extensions
that are not compared agree of themselves; apart from the runs that are refused
by the checks of the Chip ID.  And the signed bytes of an accepted report decide
the Chip ID. -/
theorem verifyAndExtract_namesChip_iff (ssl : OpenSsl) (host : Host)
    (reportPath certsDir : String) :
    ((∀ result, verifyAndExtract ssl host reportPath certsDir = .ok result →
        ∃ report, NamesChip ssl host reportPath certsDir report result) ↔
      ∀ report chain, Checked ssl host reportPath certsDir report chain →
        (∀ byte ∈ reportChipId report, byte = 0) ∨
        ssl.callFails "OBJ_txt2obj" = true ∨
        FirstHwidDiffers chain.vcek (reportChipId report) ∨
        ∀ ext ∈ chain.vcek.extensions, ext.oid = oidAmdSevHwid →
          Uncompared chain.vcek ext →
            HwidAgrees ext.value (reportChipId report)) ∧
    ∀ ssl' host' reportPath' certsDir' report report' result result',
      verifyAndExtract ssl host reportPath certsDir = .ok result →
      verifyAndExtract ssl' host' reportPath' certsDir' = .ok result' →
      host.read reportPath = .opened report false →
      host'.read reportPath' = .opened report' false →
      report.take 0x2A0 = report'.take 0x2A0 →
        result.chipId = result'.chipId := by
  refine ⟨⟨?_, ?_⟩, ?_⟩
  · intro names report chain checked
    by_contra escapes
    simp only [not_or] at escapes
    obtain ⟨notMasked, calls, firstAgrees, disagree⟩ := escapes
    apply disagree
    intro ext member isHwid _
    have compared : crossCheckHwid ssl chain.vcek (reportChipId report) =
        .ok () := by
      refine crossCheckHwid_eq_ok.mpr ⟨by simpa using calls, ?_⟩
      intro first found sameLength
      rw [checked.reportChipId_length] at sameLength
      by_contra differs
      exact firstAgrees ⟨first, found, sameLength, differs⟩
    have extracted : extractChipIdFromReport report =
        .ok (reportChipId report) := by
      refine extractChipIdFromReport_eq_ok.mpr ⟨?_, ?_, rfl⟩
      · rw [checked.length]
        decide
      · simpa using notMasked
    have accepted : verifyAndExtract ssl host reportPath certsDir =
        .ok ⟨reportChipId report, rdU32le (report.drop kOffVersion),
          chain.generation, chain.vcek⟩ :=
      verifyAndExtract_eq_ok.mpr
        ⟨report, chain, checked, extracted, compared, rfl⟩
    obtain ⟨_, named⟩ := names _ accepted
    exact named.hwid ext member isHwid
  · intro condition result accepted
    obtain ⟨report, chain, checked, extracted, compared, returned⟩ :=
      verifyAndExtract_eq_ok.mp accepted
    refine ⟨report, namesChip_of_checked checked extracted returned ?_⟩
    obtain ⟨_, notMasked, chipIdEq⟩ :=
      extractChipIdFromReport_eq_ok.mp extracted
    rw [chipIdEq] at compared
    obtain ⟨calls, agrees⟩ := crossCheckHwid_eq_ok.mp compared
    intro ext member isHwid
    by_cases isCompared : ext.value.length = 64 ∧
        chain.vcek.extByObj oidAmdSevHwid = some ext
    · have same : ext.value = reportChipId report :=
        agrees ext isCompared.2
          (isCompared.1.trans checked.reportChipId_length.symm)
      rw [same]
      exact hwidAgrees_self _
    · rcases condition report chain checked with masked | fails |
          ⟨first, found, sameLength, differs⟩ | agree
      · obtain ⟨byte, byteMember, nonzero⟩ := notMasked
        exact absurd (masked byte byteMember) nonzero
      · rw [calls] at fails
        cases fails
      · exact absurd (agrees first found
          (sameLength.trans checked.reportChipId_length.symm)) differs
      · exact agree ext member isHwid (not_and_or.mp isCompared)
  · intro ssl' host' reportPath' certsDir' report report' result result'
      accepted accepted' read read' same
    rw [verifyAndExtract_chipId accepted read,
      verifyAndExtract_chipId accepted' read', reportChipId_congr same]

def shortHwidVcek : X509 :=
  { Verify.sampleCert 2 Verify.sampleSnpChipId with
    extensions := [⟨oidAmdSevHwid, false, [1, 2, 3, 4, 5, 6, 7, 8]⟩] }

/-- A report of one chip is accepted with the VCEK of another. -/
theorem verifyAndExtract_otherChip :
    verifyAndExtract (Verify.sampleSsl shortHwidVcek)
      (Verify.sampleHost Verify.sampleSnpReport) "report.bin" "certs" =
        .ok ⟨Verify.sampleSnpChipId, 2, "Milan", shortHwidVcek⟩ ∧
    ¬∃ report, NamesChip (Verify.sampleSsl shortHwidVcek)
      (Verify.sampleHost Verify.sampleSnpReport) "report.bin" "certs" report
        ⟨Verify.sampleSnpChipId, 2, "Milan", shortHwidVcek⟩ := by
  constructor
  · have loads := fun path => @Verify.sampleHost_loadPemCert shortHwidVcek
      Verify.sampleSnpReport path (by decide +kernel)
    have chain : verifyVcekChain (Verify.sampleSsl shortHwidVcek)
        (Verify.sampleHost Verify.sampleSnpReport) "certs" =
          .ok ⟨shortHwidVcek, "Milan"⟩ := by
      unfold verifyVcekChain
      simp only [loads, Verify.sampleHost_requireCert]
      decide +kernel
    unfold verifyAndExtract
    rw [chain, Verify.sampleHost_readFile]
    decide +kernel
  · rintro ⟨report, named⟩
    have agrees := named.hwid _ (List.mem_singleton_self _) rfl
    revert agrees
    unfold HwidAgrees
    decide +kernel

end TeeAnchor.Snp
