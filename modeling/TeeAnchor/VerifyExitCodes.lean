import TeeAnchor.Verify
import Mathlib.Data.List.Nodup

/-!
# The exit codes of `verify`

Each stage has a condition under which it passes, and the exit code is that of
the first stage whose condition fails.  An endorsement that passes names one
TEE type and one Chip ID, so it cannot pass for two machines.
-/

namespace TeeAnchor.Verify

variable {ssl : OpenSsl} {host : Host}

structure ArgsPresent (args : VerifyArgs) : Prop where
  orgCert : args.orgCertPath ≠ ""
  orgCa : args.orgCaPath ≠ ""
  teeType : args.teeType ∈ ["sgx", "tdx", "snp", "cca"]
  report : args.reportPath ≠ ""
  certs : args.teeType = "snp" → args.certsDir ≠ ""

/-- The certificates load, and so does the CRL when a path is given for it. -/
structure InputsLoaded (ssl : OpenSsl) (host : Host) (args : VerifyArgs)
    (inputs : Inputs) : Prop where
  orgCert : Pki.loadPemCert ssl host args.orgCertPath = .ok inputs.orgCert
  orgCa : Pki.loadPemCert ssl host args.orgCaPath = .ok inputs.orgCa
  noCrl : args.crlPath = "" → inputs.orgCrl = none
  crl : args.crlPath ≠ "" → ∃ crl, inputs.orgCrl = some crl ∧
    Pki.loadPemCrl ssl host args.crlPath = .ok crl

/-- The codes of the TEE types in the ChipIdBinding. -/
def teeTypeCodes : List (String × UInt8) :=
  [("sgx", 0), ("tdx", 1), ("snp", 2), ("cca", 3)]

/-- The endorsement's ChipIdBinding has the code of the TEE type and exactly
these bytes. -/
def Endorses (ssl : OpenSsl) (orgCert : X509) (teeType : String)
    (chipId : Bytes) : Prop :=
  ∃ binding, Binding.extractChipIdBinding ssl orgCert = .ok binding ∧
    (teeType, binding.teeType) ∈ teeTypeCodes ∧ binding.chipId = chipId

theorem require_eq_ok {value name : String} {done : Unit} :
    Provision.require value name = .ok done ↔ value ≠ "" := by
  unfold Provision.require
  by_cases empty : value = ""
  · simp [empty]
  · have notEmpty : value.isEmpty = false := by
      simpa using empty
    simp [notEmpty, empty, pure, Except.pure]

theorem checkArgs_eq_ok {args : VerifyArgs} :
    checkArgs args = .ok () ↔ ArgsPresent args := by
  unfold checkArgs
  simp only [bind_eq_ok, require_eq_ok, refuse_eq_ok]
  constructor
  · intro passed
    obtain ⟨_, orgCert, _, orgCa, known, _, report, certs⟩ := passed
    refine ⟨orgCert, orgCa, ?_, report, ?_⟩
    · simp only [List.mem_cons, List.not_mem_nil, or_false]
      tauto
    · intro snp
      rw [if_pos snp, require_eq_ok] at certs
      exact certs
  · intro present
    refine ⟨(), present.orgCert, (), present.orgCa, ?_, (), present.report, ?_⟩
    · have known := present.teeType
      simp only [List.mem_cons, List.not_mem_nil, or_false] at known
      tauto
    · by_cases snp : args.teeType = "snp"
      · rw [if_pos snp, require_eq_ok]
        exact present.certs snp
      · rw [if_neg snp]
        rfl

theorem loadInputs_eq_ok {args : VerifyArgs} {inputs : Inputs} :
    loadInputs ssl host args = .ok inputs ↔
      InputsLoaded ssl host args inputs := by
  unfold loadInputs
  simp only [bind_eq_ok]
  by_cases empty : args.crlPath = ""
  · have isEmpty : args.crlPath.isEmpty = true := by
      simpa using empty
    simp only [isEmpty, if_true]
    constructor
    · intro loaded
      obtain ⟨orgCert, certLoaded, orgCa, caLoaded, returned⟩ := loaded
      cases returned
      exact ⟨certLoaded, caLoaded, fun _ => rfl, fun given =>
        (given empty).elim⟩
    · intro loaded
      have noCrl := loaded.noCrl empty
      refine ⟨inputs.orgCert, loaded.orgCert, inputs.orgCa, loaded.orgCa, ?_⟩
      rw [← noCrl]
      rfl
  · have notEmpty : args.crlPath.isEmpty = false := by
      simpa using empty
    simp only [notEmpty, Bool.false_eq_true, if_false, bind_eq_ok]
    constructor
    · intro loaded
      obtain ⟨orgCert, certLoaded, orgCa, caLoaded, crl, crlLoaded, returned⟩ :=
        loaded
      cases returned
      exact ⟨certLoaded, caLoaded, fun none => (empty none).elim, fun _ =>
        ⟨crl, rfl, crlLoaded⟩⟩
    · intro loaded
      obtain ⟨crl, someCrl, crlLoaded⟩ := loaded.crl empty
      refine ⟨inputs.orgCert, loaded.orgCert, inputs.orgCa, loaded.orgCa, crl,
        crlLoaded, ?_⟩
      rw [← someCrl]
      rfl

theorem expectedTeeType_eq_ok {teeType : String} {code : UInt8} :
    expectedTeeType teeType = .ok code ↔ (teeType, code) ∈ teeTypeCodes := by
  unfold expectedTeeType teeTypeCodes
  simp only [List.mem_cons, List.not_mem_nil, or_false, Prod.mk.injEq]
  repeat' split
  case isFalse notSgx notTdx notSnp notCca =>
    simp [notSgx, notTdx, notSnp, notCca]
  all_goals
    rename_i known
    simp [known, pure, Except.pure, Binding.kTeeTypeSgx, Binding.kTeeTypeTdx,
      Binding.kTeeTypeSevSnp, Binding.kTeeTypeArmCca, eq_comm]

theorem teeTypeCodes_injective {teeType other : String} {code : UInt8}
    (listed : (teeType, code) ∈ teeTypeCodes)
    (otherListed : (other, code) ∈ teeTypeCodes) : teeType = other := by
  have distinct : (teeTypeCodes.map Prod.snd).Nodup := by decide
  have same := List.inj_on_of_nodup_map distinct listed otherListed rfl
  exact congrArg Prod.fst same

theorem bindingMatches_eq_ok {orgCert : X509} {teeType : String}
    {chipId : Bytes} :
    bindingMatches ssl orgCert teeType chipId = .ok true ↔
      Endorses ssl orgCert teeType chipId := by
  unfold bindingMatches Endorses
  simp only [bind_eq_ok]
  constructor
  · intro matched
    obtain ⟨binding, extracted, expected, code, compared⟩ := matched
    by_cases sameType : binding.teeType = expected
    · by_cases sameId : binding.chipId = chipId
      · rw [expectedTeeType_eq_ok, ← sameType] at code
        exact ⟨binding, extracted, code, sameId⟩
      · simp [sameType, sameId, pure, Except.pure] at compared
    · simp [sameType, pure, Except.pure] at compared
  · intro endorses
    obtain ⟨binding, extracted, code, rfl⟩ := endorses
    refine ⟨binding, extracted, binding.teeType, expectedTeeType_eq_ok.mpr code,
      ?_⟩
    simp [pure, Except.pure]

/-- The stages up to the chain check have passed, with this result. -/
structure Reached (ssl : OpenSsl) (host : Host) (args : VerifyArgs)
    (inputs : Inputs) (chipId : Bytes) : Prop where
  present : ArgsPresent args
  loaded : InputsLoaded ssl host args inputs
  evidence : verifyEvidenceAndExtractChipId ssl host args = .ok chipId

theorem reached_iff {args : VerifyArgs} {inputs : Inputs} {chipId : Bytes} :
    Reached ssl host args inputs chipId ↔ checkArgs args = .ok () ∧
      loadInputs ssl host args = .ok inputs ∧
      verifyEvidenceAndExtractChipId ssl host args = .ok chipId := by
  rw [checkArgs_eq_ok, loadInputs_eq_ok]
  constructor
  · intro reached
    exact ⟨reached.present, reached.loaded, reached.evidence⟩
  · intro passed
    exact ⟨passed.1, passed.2.1, passed.2.2⟩

def chainCalls (crl : Option X509Crl) : List String :=
  ["X509_STORE_new", "X509_STORE_add_cert (org_ca)"] ++
    (if crl.isSome then ["X509_STORE_add_crl"] else []) ++
    ["X509_STORE_get0_param", "X509_VERIFY_PARAM_set_flags",
      "X509_STORE_CTX_new", "X509_STORE_CTX_init"]

def ChainSetUp (ssl : OpenSsl) (crl : Option X509Crl) : Prop :=
  ∀ context ∈ chainCalls crl, ssl.callFails context = false

/-- What the chain stage makes of the verdict of `X509_verify_cert`. -/
def chainStatus : Option Int → OrgChainStatus
  | none => .ok
  | some err => if err = x509VErrCertRevoked then .revoked else .otherFail

theorem chainStatus_eq_ok {verdict : Option Int} :
    chainStatus verdict = .ok ↔ verdict = none := by
  cases verdict with
  | none => simp [chainStatus]
  | some err => by_cases revoked : err = x509VErrCertRevoked <;>
      simp [chainStatus, revoked]

theorem chainStatus_eq_revoked {verdict : Option Int} :
    chainStatus verdict = .revoked ↔ verdict = some x509VErrCertRevoked := by
  cases verdict with
  | none => simp [chainStatus]
  | some err => by_cases revoked : err = x509VErrCertRevoked <;>
      simp [chainStatus, revoked]

theorem chainStatus_eq_otherFail {verdict : Option Int} :
    chainStatus verdict = .otherFail ↔
      ∃ err, verdict = some err ∧ err ≠ x509VErrCertRevoked := by
  cases verdict with
  | none => simp [chainStatus]
  | some err => by_cases revoked : err = x509VErrCertRevoked <;>
      simp [chainStatus, revoked]

/-- The chain stage asks for a verdict on the store of this CA and this CRL once
the calls before have succeeded. -/
theorem verifyOrgChain_eq_ok {orgCert orgCa : X509} {crl : Option X509Crl}
    {status : OrgChainStatus} :
    verifyOrgChain ssl orgCert orgCa crl = .ok status ↔ ChainSetUp ssl crl ∧
      chainStatus (ssl.x509VerifyCert (orgChainContext orgCert orgCa crl)) =
        status := by
  unfold verifyOrgChain ChainSetUp
  cases verdict : ssl.x509VerifyCert (orgChainContext orgCert orgCa crl) with
  | none =>
      cases crl <;>
        simp [bind_eq_ok, OpenSsl.call_eq_ok, chainCalls, chainStatus, pure,
          Except.pure, and_assoc]
  | some err =>
      by_cases revoked : err = x509VErrCertRevoked <;> cases crl <;>
        simp [bind_eq_ok, OpenSsl.call_eq_ok, chainCalls, chainStatus, revoked,
          pure, Except.pure, and_assoc]

theorem verifyOrgChain_eq_error {orgCert orgCa : X509}
    {crl : Option X509Crl} :
    (∃ failure, verifyOrgChain ssl orgCert orgCa crl = .error failure) ↔
      ¬ChainSetUp ssl crl := by
  cases chain : verifyOrgChain ssl orgCert orgCa crl with
  | error failure =>
      have failed : ¬ChainSetUp ssl crl := by
        intro setUp
        have passed := verifyOrgChain_eq_ok.mpr
          ⟨setUp, @rfl _ (chainStatus (ssl.x509VerifyCert
            (orgChainContext orgCert orgCa crl)))⟩
        cases chain.symm.trans passed
      simp [failed]
  | ok status =>
      simp [(verifyOrgChain_eq_ok.mp chain).1]

def chainVerdict (ssl : OpenSsl) (inputs : Inputs) : Option Int :=
  ssl.x509VerifyCert
    (orgChainContext inputs.orgCert inputs.orgCa inputs.orgCrl)

def finish (ssl : OpenSsl) (args : VerifyArgs) (inputs : Inputs)
    (chipId : Bytes) : Nat :=
  match verifyOrgChain ssl inputs.orgCert inputs.orgCa inputs.orgCrl with
  | .error _ => kExitInternal
  | .ok .revoked => kExitRevoked
  | .ok .otherFail => kExitOrgFailed
  | .ok .ok =>
  match bindingMatches ssl inputs.orgCert args.teeType chipId with
  | .ok true => kExitOk
  | .ok false => kExitMismatch
  | .error _ => kExitMismatch

/-- The run either ends in one of the first three stages or goes on. -/
theorem runVerify_cases (args : VerifyArgs) :
    (¬(ArgsPresent args ∧ ∃ inputs, InputsLoaded ssl host args inputs) ∧
      runVerify ssl host args = 30) ∨
    (ArgsPresent args ∧ (∃ inputs, InputsLoaded ssl host args inputs) ∧
      (∃ failure, verifyEvidenceAndExtractChipId ssl host args =
        .error failure) ∧ runVerify ssl host args = 20) ∨
    ∃ inputs chipId, Reached ssl host args inputs chipId ∧
      runVerify ssl host args = finish ssl args inputs chipId := by
  simp only [← checkArgs_eq_ok, ← loadInputs_eq_ok, reached_iff]
  unfold runVerify
  cases checked : checkArgs args with
  | error failure => simp [kExitInternal]
  | ok _ =>
      cases loaded : loadInputs ssl host args with
      | error failure => simp [kExitInternal]
      | ok inputs =>
          cases evidence : verifyEvidenceAndExtractChipId ssl host args with
          | error failure => simp [kExitEvidence]
          | ok chipId =>
              right
              right
              exact ⟨inputs, chipId, ⟨rfl, rfl, rfl⟩, rfl⟩

theorem finish_cases (args : VerifyArgs) (inputs : Inputs) (chipId : Bytes) :
    let status := verifyOrgChain ssl inputs.orgCert inputs.orgCa inputs.orgCrl
    ((∃ failure, status = .error failure) ∧
      finish ssl args inputs chipId = 30) ∨
    (status = .ok .revoked ∧ finish ssl args inputs chipId = 24) ∨
    (status = .ok .otherFail ∧ finish ssl args inputs chipId = 21) ∨
    (status = .ok .ok ∧ Endorses ssl inputs.orgCert args.teeType chipId ∧
      finish ssl args inputs chipId = 0) ∨
    (status = .ok .ok ∧ ¬Endorses ssl inputs.orgCert args.teeType chipId ∧
      finish ssl args inputs chipId = 22) := by
  rw [← bindingMatches_eq_ok]
  unfold finish
  cases chain : verifyOrgChain ssl inputs.orgCert inputs.orgCa inputs.orgCrl with
  | error failure => simp [kExitInternal]
  | ok status =>
      cases status with
      | revoked => simp [kExitRevoked]
      | otherFail => simp [kExitOrgFailed]
      | ok =>
          cases matched :
              bindingMatches ssl inputs.orgCert args.teeType chipId with
          | error failure => simp [kExitMismatch]
          | ok same => cases same <;> simp [kExitMismatch, kExitOk]

theorem Reached.unique {args : VerifyArgs} {inputs inputs' : Inputs}
    {chipId chipId' : Bytes} (reached : Reached ssl host args inputs chipId)
    (reached' : Reached ssl host args inputs' chipId') :
    inputs = inputs' ∧ chipId = chipId' := by
  rw [reached_iff] at reached reached'
  obtain ⟨_, loaded, evidence⟩ := reached
  obtain ⟨_, loaded', evidence'⟩ := reached'
  rw [loaded] at loaded'
  rw [evidence] at evidence'
  exact ⟨Except.ok.inj loaded', Except.ok.inj evidence'⟩

/-- A run that reaches the chain check returns what follows from there. -/
theorem Reached.runVerify_eq {args : VerifyArgs} {inputs : Inputs}
    {chipId : Bytes} (reached : Reached ssl host args inputs chipId) :
    runVerify ssl host args = finish ssl args inputs chipId := by
  rcases runVerify_cases args with ⟨notLoaded, _⟩ | ⟨_, _, evidence, _⟩ |
    ⟨inputs', chipId', reached', returned⟩
  · exact (notLoaded ⟨reached.present, inputs, reached.loaded⟩).elim
  · obtain ⟨failure, failed⟩ := evidence
    rw [reached.evidence] at failed
    cases failed
  · obtain ⟨rfl, rfl⟩ := reached.unique reached'
    exact returned

theorem runVerify_eq_iff {args : VerifyArgs} {code : Nat} (notInternal : code ≠ 30)
    (notEvidence : code ≠ 20) :
    runVerify ssl host args = code ↔
      ∃ inputs chipId, Reached ssl host args inputs chipId ∧
        finish ssl args inputs chipId = code := by
  constructor
  · intro returned
    rcases runVerify_cases args with ⟨_, internal⟩ | ⟨_, _, _, evidence⟩ |
      ⟨inputs, chipId, reached, finished⟩
    · exact (notInternal (returned.symm.trans internal)).elim
    · exact (notEvidence (returned.symm.trans evidence)).elim
    · exact ⟨inputs, chipId, reached, finished.symm.trans returned⟩
  · intro found
    obtain ⟨inputs, chipId, reached, finished⟩ := found
    exact reached.runVerify_eq.trans finished

theorem finish_codes (ssl : OpenSsl) (args : VerifyArgs) (inputs : Inputs)
    (chipId : Bytes) :
    let status := verifyOrgChain ssl inputs.orgCert inputs.orgCa inputs.orgCrl
    let endorses := Endorses ssl inputs.orgCert args.teeType chipId
    (finish ssl args inputs chipId = 0 ↔ status = .ok .ok ∧ endorses) ∧
    (finish ssl args inputs chipId = 30 ↔
      ∃ failure, status = .error failure) ∧
    (finish ssl args inputs chipId = 24 ↔ status = .ok .revoked) ∧
    (finish ssl args inputs chipId = 21 ↔ status = .ok .otherFail) ∧
    (finish ssl args inputs chipId = 22 ↔ status = .ok .ok ∧ ¬endorses) ∧
    finish ssl args inputs chipId ≠ 20 := by
  rcases @finish_cases ssl args inputs chipId with
    ⟨⟨failure, chain⟩, code⟩ | ⟨chain, code⟩ | ⟨chain, code⟩ |
    ⟨chain, endorses, code⟩ | ⟨chain, endorses, code⟩
  · simp [chain, code]
  · simp [chain, code]
  · simp [chain, code]
  · simp [chain, code, endorses]
  · simp [chain, code, endorses]

theorem runVerify_eq_zero_iff {args : VerifyArgs} :
    runVerify ssl host args = 0 ↔
      ∃ inputs chipId, Reached ssl host args inputs chipId ∧
        verifyOrgChain ssl inputs.orgCert inputs.orgCa inputs.orgCrl =
          .ok .ok ∧
        Endorses ssl inputs.orgCert args.teeType chipId := by
  rw [runVerify_eq_iff (by decide) (by decide)]
  simp only [(finish_codes ssl args _ _).1]

theorem runVerify_eq_internal_iff {args : VerifyArgs} :
    runVerify ssl host args = 30 ↔
      ¬(ArgsPresent args ∧ ∃ inputs, InputsLoaded ssl host args inputs) ∨
      ∃ inputs chipId, Reached ssl host args inputs chipId ∧
        ∃ failure, verifyOrgChain ssl inputs.orgCert inputs.orgCa
          inputs.orgCrl = .error failure := by
  have internal : ∀ inputs chipId, finish ssl args inputs chipId = 30 ↔ _ :=
    fun inputs chipId => (finish_codes ssl args inputs chipId).2.1
  constructor
  · intro returned
    rcases runVerify_cases args with ⟨notLoaded, _⟩ | ⟨_, _, _, evidence⟩ |
      ⟨inputs, chipId, reached, finished⟩
    · exact .inl notLoaded
    · rw [returned] at evidence
      cases evidence
    · exact .inr ⟨inputs, chipId, reached,
        (internal inputs chipId).mp (finished.symm.trans returned)⟩
  · intro failed
    rcases failed with notLoaded | ⟨inputs, chipId, reached, failed⟩
    · rcases runVerify_cases args with ⟨_, returned⟩ | ⟨present, loaded, _⟩ |
        ⟨inputs, chipId, reached, _⟩
      · exact returned
      · exact (notLoaded ⟨present, loaded⟩).elim
      · exact (notLoaded ⟨reached.present, inputs, reached.loaded⟩).elim
    · exact reached.runVerify_eq.trans ((internal inputs chipId).mpr failed)

theorem runVerify_eq_evidence_iff {args : VerifyArgs} :
    runVerify ssl host args = 20 ↔
      ArgsPresent args ∧ (∃ inputs, InputsLoaded ssl host args inputs) ∧
        ∃ failure, verifyEvidenceAndExtractChipId ssl host args =
          .error failure := by
  constructor
  · intro returned
    rcases runVerify_cases args with ⟨_, internal⟩ |
      ⟨present, loaded, evidence, _⟩ | ⟨inputs, chipId, _, finished⟩
    · rw [returned] at internal
      cases internal
    · exact ⟨present, loaded, evidence⟩
    · exact ((finish_codes ssl args inputs chipId).2.2.2.2.2
        (finished.symm.trans returned)).elim
  · intro failed
    obtain ⟨present, loaded, failure, evidence⟩ := failed
    rcases runVerify_cases args with ⟨notLoaded, _⟩ | ⟨_, _, _, returned⟩ |
      ⟨inputs, chipId, reached, _⟩
    · exact (notLoaded ⟨present, loaded⟩).elim
    · exact returned
    · rw [reached.evidence] at evidence
      cases evidence

theorem extractChipIdBinding_unique {ssl' : OpenSsl}
    (sameReader : ssl'.asn1GetObject = ssl.asn1GetObject) {cert : X509}
    {binding binding' : Binding.ChipIdBinding}
    (extracted : Binding.extractChipIdBinding ssl cert = .ok binding)
    (extracted' : Binding.extractChipIdBinding ssl' cert = .ok binding') :
    binding = binding' := by
  have decoded : ∀ {library : OpenSsl} {result : Binding.ChipIdBinding},
      Binding.extractChipIdBinding library cert = .ok result →
      ∃ ext, cert.extByObj Binding.kOidChipIdBinding = some ext ∧
        Binding.decodeChipIdBinding library ext.value = .ok result := by
    intro library result found
    unfold Binding.extractChipIdBinding at found
    rw [bind_eq_ok] at found
    obtain ⟨oid, made, found⟩ := found
    unfold OpenSsl.makeOid at made
    rw [bind_eq_ok] at made
    obtain ⟨_, _, made⟩ := made
    cases made
    cases present : cert.extByObj Binding.kOidChipIdBinding with
    | none =>
        rw [present] at found
        simp at found
    | some ext =>
        rw [present] at found
        exact ⟨ext, rfl, found⟩
  obtain ⟨ext, present, found⟩ := decoded extracted
  obtain ⟨ext', present', found'⟩ := decoded extracted'
  rw [present] at present'
  cases present'
  have sameDecoder : Binding.decodeChipIdBinding ssl' ext.value =
      Binding.decodeChipIdBinding ssl ext.value := by
    unfold Binding.decodeChipIdBinding Binding.mustRead
    rw [sameReader]
  rw [sameDecoder, found] at found'
  exact Except.ok.inj found'

theorem Endorses.unique {ssl' : OpenSsl}
    (sameReader : ssl'.asn1GetObject = ssl.asn1GetObject) {cert : X509}
    {teeType teeType' : String} {chipId chipId' : Bytes}
    (endorses : Endorses ssl cert teeType chipId)
    (endorses' : Endorses ssl' cert teeType' chipId') :
    teeType = teeType' ∧ chipId = chipId' := by
  obtain ⟨binding, extracted, code, rfl⟩ := endorses
  obtain ⟨binding', extracted', code', rfl⟩ := endorses'
  obtain rfl := extractChipIdBinding_unique sameReader extracted extracted'
  exact ⟨teeTypeCodes_injective code code', rfl⟩

/-- The exit code is 0 exactly when all stages pass, and otherwise that of the
first stage that fails; and one endorsement passes for one TEE type and one
Chip ID only. -/
theorem runVerify_exit_codes (ssl : OpenSsl) (host : Host) (args : VerifyArgs) :
    (runVerify ssl host args = 0 ↔
      ∃ inputs chipId, Reached ssl host args inputs chipId ∧
        ChainSetUp ssl inputs.orgCrl ∧ chainVerdict ssl inputs = none ∧
        Endorses ssl inputs.orgCert args.teeType chipId) ∧
    (runVerify ssl host args = 30 ↔
      ¬(ArgsPresent args ∧ ∃ inputs, InputsLoaded ssl host args inputs) ∨
      ∃ inputs chipId, Reached ssl host args inputs chipId ∧
        ¬ChainSetUp ssl inputs.orgCrl) ∧
    (runVerify ssl host args = 20 ↔
      ArgsPresent args ∧ (∃ inputs, InputsLoaded ssl host args inputs) ∧
        ∃ failure, verifyEvidenceAndExtractChipId ssl host args =
          .error failure) ∧
    (runVerify ssl host args = 24 ↔
      ∃ inputs chipId, Reached ssl host args inputs chipId ∧
        ChainSetUp ssl inputs.orgCrl ∧
        chainVerdict ssl inputs = some x509VErrCertRevoked) ∧
    (runVerify ssl host args = 21 ↔
      ∃ inputs chipId, Reached ssl host args inputs chipId ∧
        ChainSetUp ssl inputs.orgCrl ∧
        ∃ err, chainVerdict ssl inputs = some err ∧
          err ≠ x509VErrCertRevoked) ∧
    (runVerify ssl host args = 22 ↔
      ∃ inputs chipId, Reached ssl host args inputs chipId ∧
        ChainSetUp ssl inputs.orgCrl ∧ chainVerdict ssl inputs = none ∧
        ¬Endorses ssl inputs.orgCert args.teeType chipId) ∧
    (∀ (ssl' : OpenSsl) (host' : Host) (args' : VerifyArgs) (orgCert : X509)
        (chipId chipId' : Bytes),
      ssl'.asn1GetObject = ssl.asn1GetObject →
      Pki.loadPemCert ssl host args.orgCertPath = .ok orgCert →
      Pki.loadPemCert ssl' host' args'.orgCertPath = .ok orgCert →
      verifyEvidenceAndExtractChipId ssl host args = .ok chipId →
      verifyEvidenceAndExtractChipId ssl' host' args' = .ok chipId' →
      runVerify ssl host args = 0 → runVerify ssl' host' args' = 0 →
      args.teeType = args'.teeType ∧ chipId = chipId') := by
  refine ⟨?_, ?_, runVerify_eq_evidence_iff, ?_, ?_, ?_, ?_⟩
  · rw [runVerify_eq_zero_iff]
    simp only [verifyOrgChain_eq_ok, chainStatus_eq_ok, and_assoc, chainVerdict]
  · rw [runVerify_eq_internal_iff]
    simp only [verifyOrgChain_eq_error]
  · rw [runVerify_eq_iff (by decide) (by decide)]
    simp only [(finish_codes ssl args _ _).2.2.1, verifyOrgChain_eq_ok,
      chainStatus_eq_revoked, chainVerdict]
  · rw [runVerify_eq_iff (by decide) (by decide)]
    simp only [(finish_codes ssl args _ _).2.2.2.1, verifyOrgChain_eq_ok,
      chainStatus_eq_otherFail, chainVerdict]
  · rw [runVerify_eq_iff (by decide) (by decide)]
    simp only [(finish_codes ssl args _ _).2.2.2.2.1, verifyOrgChain_eq_ok,
      chainStatus_eq_ok, and_assoc, chainVerdict]
  · intro ssl' host' args' orgCert chipId chipId' sameReader loaded loaded'
      evidence evidence' passed passed'
    obtain ⟨inputs, found, reached, _, endorses⟩ :=
      runVerify_eq_zero_iff.mp passed
    obtain ⟨inputs', found', reached', _, endorses'⟩ :=
      runVerify_eq_zero_iff.mp passed'
    have sameCert : inputs.orgCert = orgCert :=
      Except.ok.inj (reached.loaded.orgCert.symm.trans loaded)
    have sameCert' : inputs'.orgCert = orgCert :=
      Except.ok.inj (reached'.loaded.orgCert.symm.trans loaded')
    have foundEq : found = chipId :=
      Except.ok.inj (reached.evidence.symm.trans evidence)
    have foundEq' : found' = chipId' :=
      Except.ok.inj (reached'.evidence.symm.trans evidence')
    rw [sameCert, foundEq] at endorses
    rw [sameCert', foundEq'] at endorses'
    exact endorses.unique sameReader endorses'

def zeros (count : Nat) : Bytes :=
  List.replicate count 0

def samplePpid : Bytes :=
  [0x10, 0x11, 0x12, 0x13, 0x14, 0x15, 0x16, 0x17, 0x18, 0x19, 0x1a, 0x1b,
    0x1c, 0x1d, 0x1e, 0x1f]

/-- The object identifier of the PPID in DER. -/
def ppidOidDer : Bytes :=
  [0x06, 0x0a, 0x2a, 0x86, 0x48, 0x86, 0xf8, 0x4d, 0x01, 0x0d, 0x01, 0x01]

/-- An SGX extension with the PPID as its one element. -/
def sampleSgxExtension : Bytes :=
  [0x30, 0x20, 0x30, 0x1e] ++ ppidOidDer ++ [0x04, 0x10] ++ samplePpid

def sampleBinding (code : UInt8) (chipId : Bytes) : Bytes :=
  [0x30, UInt8.ofNat (chipId.length + 22), 0x0a, 0x01, code, 0x04,
    UInt8.ofNat chipId.length] ++ chipId ++ [0x18, 0x0f] ++
    ascii "20260101000000Z"

/-- A certificate that serves as PCK or VCEK leaf and as its own
endorsement. -/
def sampleCert (code : UInt8) (chipId : Bytes) : X509 where
  version := 2
  serialNumber := 7
  issuer := ⟨[("CN", "Root")]⟩
  subject := ⟨[("CN", "Leaf")]⟩
  notBefore := 0
  notAfter := 1
  pubkey := some ⟨408, [2]⟩
  extensions :=
    [⟨Sgx.oidSgxExtension, false, sampleSgxExtension⟩,
      ⟨Binding.kOidChipIdBinding, true, sampleBinding code chipId⟩]
  signature := []

def sampleRoot : X509 where
  version := 2
  serialNumber := 1
  issuer := ⟨[("CN", "Root")]⟩
  subject := ⟨[("CN", "Root")]⟩
  notBefore := 0
  notAfter := 1
  pubkey := some ⟨408, [1]⟩
  extensions := []
  signature := []

/-- A library that finds the certificate and its root in every PEM text and no
CRL in any, and for which the endorsement is revoked once a CRL is asked
about. -/
def sampleSsl (cert : X509) : OpenSsl :=
  { OpenSsl.standIn with
    pemReadX509 := fun bytes => if bytes.isEmpty then [] else [cert, sampleRoot]
    ecPublicPoint := fun key =>
      if key.spki = [1] then some Sgx.kIntelSgxRootPubkey else none
    d2iPubkey := fun der => some ⟨408, der⟩
    x509VerifyCert := fun context => if context.crlCheck then some 23 else none
    sha384 := fun _ => Snp.kAmdArkPins.head!.2
    ecdsaSha384Verify := fun _ _ _ _ => 1
    asn1GetObject := Binding.readObject
    d2iAsn1Object := fun der =>
      if der.take 12 = ppidOidDer then some (Sgx.oidSgxPpid, 12) else none }

def sampleHost (content : Bytes) : Host where
  read _ := .opened content false
  pathExists _ := true
  time := 0
  generalizedTimeNowUtc := ascii "20260101000000Z"
  randomSerial := 7
  storage := .unlimited

def sampleSgxQuote : Bytes :=
  zeros 1012 ++ [0x00, 0x00] ++ [0x05, 0x00, 0x01, 0x00, 0x00, 0x00] ++ [0x2d]

def sampleTdQuote : Bytes :=
  [0x04, 0x00, 0x00, 0x00, 0x81, 0x00, 0x00, 0x00] ++ zeros 624 ++
    [0x4f, 0x02, 0x00, 0x00] ++ zeros 128 ++
    [0x06, 0x00, 0xc9, 0x01, 0x00, 0x00] ++ zeros 448 ++ [0x00, 0x00] ++
    [0x05, 0x00, 0x01, 0x00, 0x00, 0x00] ++ [0x2d]

def sampleSnpChipId : Bytes :=
  samplePpid ++ zeros 48

def sampleSnpReport : Bytes :=
  [0x02, 0x00, 0x00, 0x00] ++ zeros 48 ++ [0x01, 0x00, 0x00, 0x00] ++
    zeros 360 ++ sampleSnpChipId ++ zeros 704

def sampleCcaToken : Bytes :=
  [0xa1, 0x19, 0xac, 0xca, 0x58, 0x70, 0x84, 0x44, 0xa1, 0x01, 0x38, 0x22, 0xa0,
    0x46, 0xa1, 0x19, 0x01, 0x00, 0x41, 0x07, 0x58, 0x60] ++ zeros 96

def sampleArgs (reportPath : String) : VerifyArgs where
  reportPath := reportPath
  orgCertPath := "endorsement.crt"
  orgCaPath := "ca.crt"

theorem runVerify_exit_codes_sample :
    runVerify (sampleSsl (sampleCert 0 samplePpid)) (sampleHost sampleSgxQuote)
      (sampleArgs "quote.dat") = 0 ∧
    (sampleArgs "quote.dat").teeType = (sampleArgs "other.dat").teeType ∧
    samplePpid = samplePpid :=
  ⟨by decide +kernel,
    (runVerify_exit_codes (sampleSsl (sampleCert 0 samplePpid))
      (sampleHost sampleSgxQuote) (sampleArgs "quote.dat")).2.2.2.2.2.2
      (sampleSsl (sampleCert 0 samplePpid)) (sampleHost sampleSgxQuote)
      (sampleArgs "other.dat") (sampleCert 0 samplePpid) samplePpid samplePpid
      rfl (by decide +kernel) (by decide +kernel) (by decide +kernel)
      (by decide +kernel) (by decide +kernel) (by decide +kernel)⟩

end TeeAnchor.Verify
