import TeeAnchor.SnpChip

/-!
# The layout of SNP reports

A report as its fields.  The files that are accepted are just the reports whose
fields, certificates and signature are in order, and each is one report.
-/

namespace TeeAnchor.Snp

variable {ssl : OpenSsl} {host : Host} {reportPath certsDir : String}

/-- An attestation report by the fields that are looked at, and the bytes
between them. -/
@[ext]
structure Report where
  version : Nat
  /-- GUEST_SVN to VMPL. -/
  guest : Bytes
  /-- CURRENT_TCB to ID_KEY_DIGEST. -/
  platform : Bytes
  chipId : Bytes
  /-- COMMITTED_TCB to the end of what is signed. -/
  committed : Bytes
  r : Nat
  s : Nat
  padding : Bytes
  version_range : 2 ≤ version ∧ version ≤ 5
  guest_length : guest.length = 48
  platform_length : platform.length = 360
  chipId_length : chipId.length = 64
  committed_length : committed.length = 192
  r_fits : r < 256 ^ 72
  s_fits : s < 256 ^ 72
  padding_length : padding.length = 368

namespace Report

def signed (report : Report) : Bytes :=
  leBytes 4 report.version ++ (report.guest ++
    (leBytes 4 kSigAlgoEcdsaP384Sha384 ++ (report.platform ++
      (report.chipId ++ report.committed))))

def bytes (report : Report) : Bytes :=
  report.signed ++ (leBytes 72 report.r ++
    (leBytes 72 report.s ++ report.padding))

variable (report : Report)

theorem signed_length : report.signed.length = kOffSignedEnd := by
  simp only [signed, List.length_append, leBytes_length, report.guest_length,
    report.platform_length, report.chipId_length, report.committed_length]
  rfl

theorem bytes_length : report.bytes.length = kReportLen := by
  simp only [bytes, List.length_append, leBytes_length, report.signed_length,
    report.padding_length]
  rfl

theorem take_bytes : report.bytes.take kOffSignedEnd = report.signed :=
  List.take_left' report.signed_length

theorem version_bytes :
    leField report.bytes kOffVersion 4 = report.version := by
  have range := report.version_range
  have split : report.bytes = [] ++ (leBytes 4 report.version ++
      report.bytes.drop 4) := by
    simp [bytes, signed]
  rw [split]
  exact leField_of_split rfl (by omega)

theorem sigAlgo_bytes :
    leField report.bytes kOffSigAlgo 4 = kSigAlgoEcdsaP384Sha384 := by
  have split : report.bytes = (leBytes 4 report.version ++ report.guest) ++
      (leBytes 4 kSigAlgoEcdsaP384Sha384 ++ (report.platform ++
        (report.chipId ++ (report.committed ++ (leBytes 72 report.r ++
          (leBytes 72 report.s ++ report.padding)))))) := by
    simp only [bytes, signed, List.append_assoc]
  rw [split]
  refine leField_of_split ?_ (by decide)
  rw [List.length_append, leBytes_length, report.guest_length]
  rfl

theorem chipId_bytes : reportChipId report.bytes = report.chipId := by
  have split : report.bytes = (leBytes 4 report.version ++ (report.guest ++
      (leBytes 4 kSigAlgoEcdsaP384Sha384 ++ report.platform))) ++
        (report.chipId ++ (report.committed ++ (leBytes 72 report.r ++
          (leBytes 72 report.s ++ report.padding)))) := by
    simp only [bytes, signed, List.append_assoc]
  rw [reportChipId, split]
  refine field_of_split ?_ report.chipId_length
  simp only [List.length_append, leBytes_length, report.guest_length,
    report.platform_length]
  rfl

theorem r_bytes :
    leField report.bytes kOffSignature kEcdsaCompLen = report.r :=
  leField_of_split report.signed_length report.r_fits

theorem s_bytes :
    leField report.bytes (kOffSignature + kEcdsaCompLen) kEcdsaCompLen =
      report.s := by
  have split : report.bytes = (report.signed ++ leBytes 72 report.r) ++
      (leBytes 72 report.s ++ report.padding) := by
    simp only [bytes, List.append_assoc]
  rw [split]
  refine leField_of_split ?_ report.s_fits
  rw [List.length_append, leBytes_length, report.signed_length]
  rfl

theorem validate_bytes : validateReportHeader report.bytes = .ok () := by
  rw [validateReportHeader_eq_ok, version_bytes, sigAlgo_bytes]
  exact ⟨report.bytes_length, report.version_range, rfl⟩

/-- Bytes that pass the checks of the header are a report. -/
def ofBytes {file : Bytes} (valid : validateReportHeader file = .ok ()) :
    Report where
  version := leField file kOffVersion 4
  guest := field file 0x04 48
  platform := field file 0x38 360
  chipId := reportChipId file
  committed := field file 0x1E0 192
  r := leField file kOffSignature kEcdsaCompLen
  s := leField file (kOffSignature + kEcdsaCompLen) kEcdsaCompLen
  padding := field file 0x330 368
  version_range := (validateReportHeader_eq_ok.mp valid).2.1
  guest_length := field_length (by
    rw [(validateReportHeader_eq_ok.mp valid).1]; decide)
  platform_length := field_length (by
    rw [(validateReportHeader_eq_ok.mp valid).1]; decide)
  chipId_length := field_length (by
    rw [(validateReportHeader_eq_ok.mp valid).1]; decide)
  committed_length := field_length (by
    rw [(validateReportHeader_eq_ok.mp valid).1]; decide)
  r_fits := leField_lt _ _ _
  s_fits := leField_lt _ _ _
  padding_length := field_length (by
    rw [(validateReportHeader_eq_ok.mp valid).1]; decide)

theorem bytes_ofBytes {file : Bytes}
    (valid : validateReportHeader file = .ok ()) :
    (ofBytes valid).bytes = file := by
  obtain ⟨length, _, sigAlgo⟩ := validateReportHeader_eq_ok.mp valid
  have written : ∀ off width, off + width ≤ kReportLen →
      leBytes width (leField file off width) = field file off width :=
    fun off width fits => leBytes_leField (length.symm ▸ fits)
  have version := written kOffVersion 4 (by decide)
  have algo := written kOffSigAlgo 4 (by decide)
  have r := written kOffSignature 72 (by decide)
  have s := written (kOffSignature + kEcdsaCompLen) 72 (by decide)
  rw [sigAlgo] at algo
  have whole : file = field file 0
      (4 + (48 + (4 + (360 + (64 + (192 + (72 + (72 + 368)))))))) := by
    rw [field, List.drop_zero]
    exact (List.take_of_length_le length.le).symm
  conv_rhs => rw [whole]
  simp only [← field_append_field, bytes, signed, ofBytes, version, algo,
    reportChipId, List.append_assoc]
  change _ ++ (_ ++ (_ ++ (_ ++ (_ ++ (_ ++
    (leBytes 72 (leField file kOffSignature 72) ++
      (leBytes 72 (leField file (kOffSignature + kEcdsaCompLen) 72) ++
        _))))))) = _
  rw [r, s]
  rfl

/-- A report is determined by its bytes. -/
theorem bytes_injective : Function.Injective bytes := by
  intro report other same
  have range := report.version_range
  have otherRange := other.version_range
  obtain ⟨sameSigned, rest⟩ := List.append_inj same
    (report.signed_length.trans other.signed_length.symm)
  obtain ⟨version, afterVersion⟩ := List.append_inj sameSigned (by simp)
  obtain ⟨guest, afterGuest⟩ := List.append_inj afterVersion
    (report.guest_length.trans other.guest_length.symm)
  obtain ⟨_, afterAlgo⟩ := List.append_inj afterGuest rfl
  obtain ⟨platform, afterPlatform⟩ := List.append_inj afterAlgo
    (report.platform_length.trans other.platform_length.symm)
  obtain ⟨chipId, committed⟩ := List.append_inj afterPlatform
    (report.chipId_length.trans other.chipId_length.symm)
  obtain ⟨r, afterR⟩ := List.append_inj rest (by simp)
  obtain ⟨s, padding⟩ := List.append_inj afterR (by simp)
  exact Report.ext (leBytes_inj (by omega) (by omega) version) guest platform
    chipId committed (leBytes_inj report.r_fits other.r_fits r)
    (leBytes_inj report.s_fits other.s_fits s) padding

end Report

/-- The certificates of a directory that lead from a pinned root to the VCEK. -/
structure Chained (ssl : OpenSsl) (host : Host) (certsDir : String)
    (chain : SnpChain) (ark ask : X509) : Prop where
  present : ∀ file ∈ ["ark.pem", "ask.pem", "vcek.pem"],
    host.pathExists (joinPath certsDir file) = true
  arkLoaded : Pki.loadPemCert ssl host (joinPath certsDir "ark.pem") = .ok ark
  askLoaded : Pki.loadPemCert ssl host (joinPath certsDir "ask.pem") = .ok ask
  vcekLoaded : Pki.loadPemCert ssl host (joinPath certsDir "vcek.pem") =
    .ok chain.vcek
  pinned : ∃ digest, Pki.pubkeySpkiSha384 ssl ark = .ok digest ∧
    matchArkPin digest = some chain.generation
  passes : ssl.x509VerifyCert ⟨[ark], [], false, false, chain.vcek, [ask]⟩ =
    none

theorem requireCert_eq_ok {kind path file : String} {done : Unit} :
    requireCert host kind path file = .ok done ↔
      host.pathExists path = true := by
  unfold requireCert
  split
  · rename_i there
    simp [there, pure, Except.pure]
  · rename_i absent
    simp [absent]

theorem verifyVcekChain_iff (calls : ∀ context, ssl.callFails context = false)
    {chain : SnpChain} :
    verifyVcekChain ssl host certsDir = .ok chain ↔
      ∃ ark ask, Chained ssl host certsDir chain ark ask := by
  unfold verifyVcekChain
  simp only [bind_eq_ok, requireCert_eq_ok]
  constructor
  · rintro ⟨_, arkThere, _, askThere, _, vcekThere, ark, arkLoaded, ask,
      askLoaded, vcek, vcekLoaded, digest, digested, rest⟩
    split at rest
    · cases rest
    · rename_i generation pinned
      simp only [bind_eq_ok] at rest
      obtain ⟨_, _, _, _, _, _, _, _, _, _, _, _, rest⟩ := rest
      split at rest
      · rename_i passes
        cases rest
        refine ⟨ark, ask, ?_, arkLoaded, askLoaded, vcekLoaded,
          ⟨digest, digested, pinned⟩, passes⟩
        simp only [List.forall_mem_cons]
        exact ⟨arkThere, askThere, vcekThere, List.forall_mem_nil _⟩
      · cases rest
  · rintro ⟨ark, ask, chained⟩
    obtain ⟨digest, digested, pinned⟩ := chained.pinned
    refine ⟨(), chained.present _ (by simp), (), chained.present _ (by simp),
      (), chained.present _ (by simp), ark, chained.arkLoaded, ask,
      chained.askLoaded, chain.vcek, chained.vcekLoaded, digest, digested, ?_⟩
    simp only [pinned, OpenSsl.call_eq_pure calls, chained.passes]
    rfl

theorem verifyReportSignature_iff
    (calls : ∀ context, ssl.callFails context = false) {report : Report}
    {vcek : X509} :
    verifyReportSignature ssl report.bytes vcek = .ok () ↔
      ∃ pk, vcek.pubkey = some pk ∧ pk.baseId = Pki.evpPkeyEc ∧
        ssl.ecdsaSha384Verify pk report.r report.s report.signed = 1 := by
  constructor
  · intro verified
    obtain ⟨pk, hasKey, isEc, verifies⟩ := verifyReportSignature_eq_ok verified
    rw [report.r_bytes, report.s_bytes, report.take_bytes] at verifies
    exact ⟨pk, hasKey, isEc, verifies⟩
  · rintro ⟨pk, hasKey, isEc, verifies⟩
    rw [← report.take_bytes, ← report.r_bytes, ← report.s_bytes] at verifies
    unfold verifyReportSignature
    rw [refuse_eq_ok, report.bytes_length]
    refine ⟨by decide, bind_eq_ok.mpr
      ⟨pk, OpenSsl.nonNull_eq_ok.mpr hasKey, ?_⟩⟩
    rw [refuse_eq_ok]
    refine ⟨not_not.mpr isEc, ?_⟩
    unfold leField field at verifies
    simp only [OpenSsl.call_eq_pure calls, verifies]
    rfl

/-- A file is accepted just when it is a report whose VCEK comes from a pinned
root, has signed it and has no other Chip ID of the size, and whose Chip ID is
not masked.  The file determines the report, and the result is what it
states. -/
theorem accepted_report_iff
    (calls : ∀ context, ssl.callFails context = false) {file : Bytes}
    (stored : readFile host reportPath = .ok file) {result : SnpVerifyResult} :
    verifyAndExtract ssl host reportPath certsDir = .ok result ↔
      ∃! report : Report, report.bytes = file ∧
        (∃ ark ask,
          Chained ssl host certsDir ⟨result.vcek, result.generation⟩ ark ask) ∧
        (∃ pk, result.vcek.pubkey = some pk ∧ pk.baseId = Pki.evpPkeyEc ∧
          ssl.ecdsaSha384Verify pk report.r report.s report.signed = 1) ∧
        (∃ byte ∈ report.chipId, byte ≠ 0) ∧
        (∀ ext, result.vcek.extByObj oidAmdSevHwid = some ext →
          ext.value.length = 64 → ext.value = report.chipId) ∧
        result.chipId = report.chipId ∧ result.version = report.version := by
  rw [verifyAndExtract_eq_ok]
  constructor
  · rintro ⟨_, chain, checked, extracted, agrees, returned⟩
    cases stored.symm.trans checked.read
    obtain ⟨report, rfl⟩ : ∃ report : Report, report.bytes = file :=
      ⟨_, Report.bytes_ofBytes checked.header⟩
    obtain ⟨_, notMasked, chipId⟩ := extractChipIdFromReport_eq_ok.mp extracted
    rw [report.chipId_bytes] at notMasked chipId
    have version : rdU32le (report.bytes.drop kOffVersion) = report.version :=
      report.version_bytes
    rw [version] at returned
    have isChain : chain = ⟨result.vcek, result.generation⟩ := by
      rw [returned]
    have signature :=
      (verifyReportSignature_iff calls).mp checked.signature
    have hwid := (crossCheckHwid_eq_ok.mp agrees).2
    rw [isChain] at signature hwid
    rw [chipId, report.chipId_length] at hwid
    refine ⟨report, ⟨rfl, (verifyVcekChain_iff calls).mp
      (isChain ▸ checked.verified), signature, notMasked, hwid, chipId,
      congrArg SnpVerifyResult.version returned⟩, ?_⟩
    rintro other ⟨same, _⟩
    exact Report.bytes_injective same
  · rintro ⟨report, ⟨rfl, chained, signature, notMasked, hwid, chipId, version⟩,
      _⟩
    refine ⟨report.bytes, ⟨result.vcek, result.generation⟩,
      ⟨stored, report.validate_bytes, (verifyVcekChain_iff calls).mpr chained,
        (verifyReportSignature_iff calls).mpr signature⟩, ?_, ?_, ?_⟩
    · rw [extractChipIdFromReport_eq_ok, report.bytes_length,
        report.chipId_bytes]
      exact ⟨by decide, notMasked, chipId⟩
    · rw [crossCheckHwid_eq_ok, chipId, report.chipId_length]
      exact ⟨calls _, hwid⟩
    · change result = ⟨result.chipId, leField report.bytes kOffVersion 4,
        result.generation, result.vcek⟩
      rw [report.version_bytes, ← version]

def zeroReport : Report where
  version := 2
  guest := Verify.zeros 48
  platform := Verify.zeros 360
  chipId := Verify.sampleSnpChipId
  committed := Verify.zeros 192
  r := 0
  s := 0
  padding := Verify.zeros 368
  version_range := by decide
  guest_length := List.length_replicate
  platform_length := List.length_replicate
  chipId_length := by decide
  committed_length := List.length_replicate
  r_fits := by decide
  s_fits := by decide
  padding_length := List.length_replicate

theorem accepted_report_iff_sample :
    verifyAndExtract (Verify.sampleSsl shortHwidVcek)
      (Verify.sampleHost zeroReport.bytes) "report.bin" "certs" =
        .ok ⟨Verify.sampleSnpChipId, 2, "Milan", shortHwidVcek⟩ := by
  have loads := fun path => @Verify.sampleHost_loadPemCert shortHwidVcek
    zeroReport.bytes path (by decide +kernel)
  refine (@accepted_report_iff (Verify.sampleSsl shortHwidVcek)
    (Verify.sampleHost zeroReport.bytes) "report.bin" "certs" (fun _ => rfl)
    zeroReport.bytes rfl _).mpr ⟨zeroReport, ⟨rfl, ⟨shortHwidVcek,
      shortHwidVcek, fun _ _ => rfl, loads _, loads _, loads _,
      ⟨_, rfl, by decide +kernel⟩, rfl⟩, ⟨_, rfl, by decide, rfl⟩,
      by decide +kernel, ?_, rfl, rfl⟩, fun other same =>
        Report.bytes_injective same.1⟩
  intro ext found sameLength
  cases found
  cases sameLength

end TeeAnchor.Snp
