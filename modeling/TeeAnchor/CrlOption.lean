import TeeAnchor.VerifyExitCodes

/-!
# Asking for the revocation check

Whether `--crl` was given is known only from its value: the empty value turns
the check off.  With any other value a run that passes has checked the
endorsement against the CRL loaded from it.
-/

namespace TeeAnchor.Verify

/-- The values that `--crl` gets in the option loop, which takes options in
pairs with their values. -/
def crlValues : List String → List String
  | option :: value :: rest =>
      if option = "--crl" then value :: crlValues rest else crlValues rest
  | _ => []

/-- The endorsement was checked against the CRL loaded from this path. -/
def CrlChecked (ssl : OpenSsl) (host : Host) (argv : List String)
    (path : String) : Prop :=
  ∃ args orgCert orgCa crl, parseArgs argv {} = .ok (some args) ∧
    Pki.loadPemCert ssl host args.orgCertPath = .ok orgCert ∧
    Pki.loadPemCert ssl host args.orgCaPath = .ok orgCa ∧
    Pki.loadPemCrl ssl host path = .ok crl ∧
    ssl.x509VerifyCert (orgChainContext orgCert orgCa (some crl)) = none

theorem crlValues_cons_cons (option value : String) (rest : List String) :
    crlValues (option :: value :: rest) =
      if option = "--crl" then value :: crlValues rest else crlValues rest :=
  rfl

theorem setOption_crlPath {option : String}
    {set : VerifyArgs → String → VerifyArgs}
    (known : setOption option = some set) (args : VerifyArgs) (value : String) :
    (set args value).crlPath =
      if option = "--crl" then value else args.crlPath := by
  unfold setOption at known
  repeat' split at known
  all_goals first
    | cases known
      simp_all
    | cases known

theorem verifyOrgChain_ok {ssl : OpenSsl} {orgCert orgCa : X509}
    {crl : Option X509Crl}
    (checked : verifyOrgChain ssl orgCert orgCa crl = .ok .ok) :
    ssl.x509VerifyCert (orgChainContext orgCert orgCa crl) = none :=
  chainStatus_eq_ok.mp (verifyOrgChain_eq_ok.mp checked).2

/-- The option loop leaves the last value of `--crl` in the arguments. -/
theorem parseArgs_crlPath {argv : List String} {start args : VerifyArgs}
    (parsed : parseArgs argv start = .ok (some args)) :
    args.crlPath = (crlValues argv).getLast?.getD start.crlPath := by
  induction argv, start using parseArgs.induct with
  | case1 start =>
      cases parsed
      rfl
  | case2 option start set known =>
      simp [parseArgs, known] at parsed
  | case3 option start set known value rest ih =>
      simp only [parseArgs, known] at parsed
      rw [ih parsed, setOption_crlPath known, crlValues_cons_cons]
      by_cases isCrl : option = "--crl"
      · simp only [isCrl, if_true]
        cases crlValues rest with
        | nil => rfl
        | cons first others =>
            rw [List.getLast?_cons_cons, List.getLast?_cons]
            rfl
      · simp only [isCrl, if_false]
  | case4 option rest start unknown help =>
      simp [parseArgs, unknown, help, pure, Except.pure] at parsed
  | case5 option rest start unknown notHelp =>
      simp [parseArgs, unknown, notHelp] at parsed

theorem sampleHost_readFile (content : Bytes) (path : String) :
    readFile (sampleHost content) path = .ok content :=
  rfl

theorem sampleHost_requireCert (content : Bytes) (kind path file : String) :
    Snp.requireCert (sampleHost content) kind path file = .ok () :=
  rfl

theorem sampleHost_loadPemCert {cert : X509} {content : Bytes} (path : String)
    (found : (sampleSsl cert).pemReadX509 ((sampleSsl cert).memBuf content
      (toInt32 content.length)) = [cert, sampleRoot]) :
    Pki.loadPemCert (sampleSsl cert) (sampleHost content) path = .ok cert := by
  change (sampleSsl cert).nonNull ("PEM_read_bio_X509 (" ++ path ++ ")")
    ((sampleSsl cert).pemReadX509 ((sampleSsl cert).memBuf content
      (toInt32 content.length))).head? = .ok cert
  rw [found]
  rfl

theorem sampleHost_verifyAndExtract (reportPath certsDir : String) :
    Snp.verifyAndExtract (sampleSsl (sampleCert 2 sampleSnpChipId))
      (sampleHost sampleSnpReport) reportPath certsDir =
        .ok ⟨sampleSnpChipId, 2, "Milan", sampleCert 2 sampleSnpChipId⟩ := by
  have loads := fun path => @sampleHost_loadPemCert
    (sampleCert 2 sampleSnpChipId) sampleSnpReport path (by decide +kernel)
  have chain : Snp.verifyVcekChain (sampleSsl (sampleCert 2 sampleSnpChipId))
      (sampleHost sampleSnpReport) certsDir =
        .ok ⟨sampleCert 2 sampleSnpChipId, "Milan"⟩ := by
    unfold Snp.verifyVcekChain
    simp only [loads, sampleHost_requireCert]
    decide +kernel
  unfold Snp.verifyAndExtract
  rw [chain, sampleHost_readFile]
  decide +kernel

/-- With all arguments present and no CRL path there are files, and a library,
with which the run passes although no CRL can be loaded. -/
theorem exists_pass_without_crl {args : VerifyArgs}
    (present : ArgsPresent args) (noCrl : args.crlPath = "") :
    ∃ ssl host, runVerify ssl host args = 0 ∧
      ∀ path crl, Pki.loadPemCrl ssl host path ≠ .ok crl := by
  have pass : ∀ (code : UInt8) (chipId content : Bytes),
      (sampleSsl (sampleCert code chipId)).pemReadX509
          ((sampleSsl (sampleCert code chipId)).memBuf content
            (toInt32 content.length)) = [sampleCert code chipId, sampleRoot] →
      verifyEvidenceAndExtractChipId (sampleSsl (sampleCert code chipId))
        (sampleHost content) args = .ok chipId →
      Endorses (sampleSsl (sampleCert code chipId)) (sampleCert code chipId)
        args.teeType chipId →
      ∃ ssl host, runVerify ssl host args = 0 ∧
        ∀ path crl, Pki.loadPemCrl ssl host path ≠ .ok crl := by
    intro code chipId content found evidence endorses
    refine ⟨sampleSsl (sampleCert code chipId), sampleHost content, ?_, ?_⟩
    · apply runVerify_eq_zero_iff.mpr
      refine ⟨⟨sampleCert code chipId, sampleCert code chipId, none⟩, chipId,
        ⟨present, ⟨?_, ?_, fun _ => rfl, fun given => (given noCrl).elim⟩,
          evidence⟩, rfl, endorses⟩
      · exact sampleHost_loadPemCert args.orgCertPath found
      · exact sampleHost_loadPemCert args.orgCaPath found
    · intro path crl loaded
      cases loaded
  have known := present.teeType
  simp only [List.mem_cons, List.not_mem_nil, or_false] at known
  rcases known with sgx | tdx | snp | cca
  · apply pass 0 samplePpid sampleSgxQuote (by decide +kernel)
    · unfold verifyEvidenceAndExtractChipId
      rw [if_pos sgx, sampleHost_readFile]
      decide +kernel
    · rw [sgx]
      exact ⟨⟨0, samplePpid, ascii "20260101000000Z"⟩, by decide +kernel,
        by decide, rfl⟩
  · apply pass 1 samplePpid sampleTdQuote (by decide +kernel)
    · unfold verifyEvidenceAndExtractChipId
      rw [tdx, if_neg (by decide), if_pos rfl, sampleHost_readFile]
      decide +kernel
    · rw [tdx]
      exact ⟨⟨1, samplePpid, ascii "20260101000000Z"⟩, by decide +kernel,
        by decide, rfl⟩
  · apply pass 2 sampleSnpChipId sampleSnpReport (by decide +kernel)
    · unfold verifyEvidenceAndExtractChipId
      rw [snp]
      change (do
        let r ← Snp.verifyAndExtract _ _ args.reportPath args.certsDir
        return r.chipId) = _
      rw [sampleHost_verifyAndExtract]
      rfl
    · rw [snp]
      exact ⟨⟨2, sampleSnpChipId, ascii "20260101000000Z"⟩, by decide +kernel,
        by decide, rfl⟩
  · apply pass 3 [0x07] sampleCcaToken (by decide +kernel)
    · unfold verifyEvidenceAndExtractChipId Cca.verifyAndExtract
      rw [cca, if_neg (by decide), if_neg (by decide), if_neg (by decide),
        if_pos rfl, sampleHost_readFile]
      decide +kernel
    · rw [cca]
      exact ⟨⟨3, [0x07], ascii "20260101000000Z"⟩, by decide +kernel,
        by decide, rfl⟩

/-- Exit code 0 comes with a check against the CRL loaded from the last value
of `--crl`, for all files and libraries, exactly when that value is not empty or
the arguments are refused. -/
theorem cliVerify_crl_checked_iff {argv : List String} {value : String}
    (given : (crlValues argv).getLast? = some value ∨
      ∃ failure, parseArgs argv {} = .error failure)
    (noHelp : parseArgs argv {} ≠ .ok none) :
    (∀ ssl host, cliVerify ssl host argv = 0 →
      CrlChecked ssl host argv value) ↔
    (value ≠ "" ∨ ∀ args, parseArgs argv {} = .ok (some args) →
      ¬ArgsPresent args) := by
  unfold cliVerify
  cases parsed : parseArgs argv {} with
  | error failure => simp [kExitInternal]
  | ok outcome =>
      cases outcome with
      | none => exact (noHelp parsed).elim
      | some args =>
          have lastValue : (crlValues argv).getLast? = some value := by
            rcases given with last | ⟨failure, refused⟩
            · exact last
            · rw [refused] at parsed
              cases parsed
          have pathEq : args.crlPath = value := by
            rw [parseArgs_crlPath parsed, lastValue]
            rfl
          simp only [Except.ok.injEq, Option.some.injEq, forall_eq']
          constructor
          · intro checked
            by_contra failing
            rw [not_or, not_not, not_not] at failing
            obtain ⟨empty, present⟩ := failing
            obtain ⟨ssl, host, passed, noCrl⟩ :=
              exists_pass_without_crl present (pathEq.trans empty)
            obtain ⟨_, _, _, crl, _, _, _, loaded, _⟩ := checked ssl host passed
            exact noCrl value crl loaded
          · intro condition ssl host passed
            obtain ⟨inputs, chipId, reached, chain, _⟩ :=
              runVerify_eq_zero_iff.mp passed
            rcases condition with notEmpty | refused
            · rw [← pathEq] at notEmpty ⊢
              obtain ⟨crl, isCrl, loaded⟩ := reached.loaded.crl notEmpty
              rw [isCrl] at chain
              exact ⟨args, inputs.orgCert, inputs.orgCa, crl, parsed,
                reached.loaded.orgCert, reached.loaded.orgCa, loaded,
                verifyOrgChain_ok chain⟩
            · exact (refused reached.present).elim

def sampleArgv (crl : String) : List String :=
  ["--report", "quote.dat", "--org-cert", "endorsement.crt", "--org-ca",
    "ca.crt", "--crl", crl]

theorem cliVerify_empty_crl_passes :
    (crlValues (sampleArgv "")).getLast? = some "" ∧
    parseArgs (sampleArgv "") {} ≠ .ok none ∧
    cliVerify (sampleSsl (sampleCert 0 samplePpid)) (sampleHost sampleSgxQuote)
      (sampleArgv "") = 0 ∧
    ¬CrlChecked (sampleSsl (sampleCert 0 samplePpid))
      (sampleHost sampleSgxQuote) (sampleArgv "") "" := by
  refine ⟨rfl, by decide, by decide +kernel, ?_⟩
  intro checked
  obtain ⟨_, _, _, _, _, _, _, loaded, _⟩ := checked
  cases loaded

def sampleCrl : X509Crl :=
  ⟨1, ⟨[("CN", "Root")]⟩, 0, 1, [], 1, [], []⟩

def sampleCrlSsl : OpenSsl :=
  { sampleSsl (sampleCert 0 samplePpid) with
    pemReadX509Crl := fun _ => some sampleCrl
    x509VerifyCert := fun context =>
      if context.crls.any fun crl => crl.revoked.any fun revoked =>
          revoked.serialNumber = context.leaf.serialNumber then
        some x509VErrCertRevoked
      else none }

theorem cliVerify_crl_checked_iff_sample :
    cliVerify sampleCrlSsl (sampleHost sampleSgxQuote) (sampleArgv "org.crl") =
        0 ∧
      CrlChecked sampleCrlSsl (sampleHost sampleSgxQuote) (sampleArgv "org.crl")
        "org.crl" := by
  have passed : cliVerify sampleCrlSsl (sampleHost sampleSgxQuote)
      (sampleArgv "org.crl") = 0 := by
    decide +kernel
  exact ⟨passed, (cliVerify_crl_checked_iff (.inl rfl) (by decide)).mpr
    (.inl (by decide)) _ _ passed⟩

end TeeAnchor.Verify
