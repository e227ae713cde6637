import TeeAnchor.RevokedEndorsements

/-!
# The life of a CA

The key and the certificate that `ca-init` reports as made are the ones that
all later runs work with.  With an endorsement that `provision` reported as
issued and a current CRL, `verify` answers by what was provisioned and by what
was revoked.
-/

namespace TeeAnchor

open Ca Verify

/-- A private key is read back from the PEM that is written of it. -/
def KeyPemRoundTrip (ssl : OpenSsl) : Prop :=
  ∀ pkey pem, ssl.pemWritePrivateKey pkey = some pem →
    ssl.pemReadPrivateKey pem = some pkey

/-- A certificate and the key that it is about belong together. -/
def ChecksOwnKey (ssl : OpenSsl) : Prop :=
  ∀ (cert : X509) pkey, cert.pubkey = some pkey →
    ssl.checkPrivateKey cert pkey = true

variable {ssl : OpenSsl} {files : FileSystem}

theorem caInit_leaves {host : Host} {io : IoFaults} {args : CaInitArgs}
    {statFails : String → Bool} {files' : FileSystem}
    (ran : (runCaInit ssl host io args statFails).exec files = (.ok (), files'))
    (noLoss : ∀ path ∈ [args.keyPath, args.crtPath], ∀ data,
      (io.write path).losesSilently data = false) :
    ∃ pkey cert keyPem crtPem, newCa ssl host args = .ok (pkey, cert) ∧
      ssl.pemWritePrivateKey pkey = some keyPem ∧
      ssl.pemWriteX509 cert = some crtPem ∧
      files' args.keyPath = some ⟨keyPem, 0o600⟩ ∧
      files' args.crtPath = some ⟨crtPem, 0o644⟩ := by
  cases prepared : prepareCa ssl host args statFails files with
  | error failure =>
      rw [runCaInit_of_refused prepared] at ran
      cases ran
  | ok made =>
      obtain ⟨pkey, cert, keyPem⟩ := made
      obtain ⟨new, keyWritten⟩ := prepareCa_eq_ok prepared
      rw [runCaInit_of_prepared prepared] at ran
      obtain ⟨_, middle, first, rest⟩ := Run.exec_bind_eq_ok.mp ran
      obtain ⟨crtPem, _, text, second⟩ := Run.exec_bind_eq_ok.mp rest
      rw [Run.exec_liftExcept, Prod.mk.injEq] at text
      obtain ⟨crtWritten, rfl⟩ := text
      obtain ⟨_, keyPassed, _, rfl⟩ := writeFile_eq_ok.mp first
      obtain ⟨_, crtPassed, _, rfl⟩ := writeFile_eq_ok.mp second
      refine ⟨pkey, cert, keyPem, crtPem, new, keyWritten,
        pemCert_eq_some crtWritten, ?_, ?_⟩
      · rw [Function.update_of_ne args.crtPath_ne_keyPath.symm,
          Function.update_self,
          WriteFate.written_of_noLoss (noLoss _ (by simp) _) keyPassed]
      · rw [Function.update_self,
          WriteFate.written_of_noLoss (noLoss _ (by simp) _) crtPassed]

/-- A CA is made, and then its two files are left alone. -/
structure CaHistory (ssl : OpenSsl) (files : FileSystem) where
  before : List Event
  env : Environment
  argv : List String
  args : CaInitArgs
  after : List Event
  asked : request argv = .run (.caInit args)
  noLoss : ∀ path ∈ [args.keyPath, args.crtPath], ∀ data,
    (env.io.write path).losesSilently data = false
  made : ((main ssl env argv).exec (leaving ssl before files)).1 = .ok 0
  avoids : ∀ event ∈ after, event.Avoids args.keyPath ∧
    event.Avoids args.crtPath

namespace CaHistory

def making (history : CaHistory ssl files) : FileSystem :=
  leaving ssl history.before files

def final (history : CaHistory ssl files) : FileSystem :=
  leaving ssl (history.before ++ .run history.env history.argv :: history.after)
    files

theorem leaves_ca (history : CaHistory ssl files) :
    ∃ pkey cert keyPem crtPem,
      newCa (history.env.library ssl) (history.env.host history.making)
        history.args = .ok (pkey, cert) ∧
      ssl.pemWritePrivateKey pkey = some keyPem ∧
      ssl.pemWriteX509 cert = some crtPem ∧
      history.final history.args.keyPath = some ⟨keyPem, 0o600⟩ ∧
      history.final history.args.crtPath = some ⟨crtPem, 0o644⟩ := by
  have made := history.made
  rw [main_exec, history.asked] at made
  have step := @step_run_of_run ssl history.making history.env history.argv _
    history.asked
  rcases ran : (runCaInit (history.env.library ssl)
    (history.env.host history.making) history.env.io history.args
      history.env.statFails).exec history.making with ⟨outcome, files'⟩
  have exec : (Command.caInit history.args).exec ssl history.env
      history.making = (exitCode outcome, files') := by
    change (exitCode ((runCaInit _ _ _ _ _).exec history.making).1,
      ((runCaInit _ _ _ _ _).exec history.making).2) = _
    rw [ran]
  have zero : ((Command.caInit history.args).exec ssl history.env
      history.making).1 = 0 := Except.ok.inj made
  rw [exec] at zero step
  obtain rfl := exitCode_eq_zero.mp zero
  obtain ⟨pkey, cert, keyPem, crtPem, new, keyWritten, crtWritten, key, crt⟩ :=
    caInit_leaves ran history.noLoss
  refine ⟨pkey, cert, keyPem, crtPem, new, keyWritten, crtWritten, ?_, ?_⟩
  · rw [final, leaving_append, leaving_cons,
      leaving_of_avoids fun event member => (history.avoids event member).1]
    exact (congrFun step _).trans key
  · rw [final, leaving_append, leaving_cons,
      leaving_of_avoids fun event member => (history.avoids event member).2]
    exact (congrFun step _).trans crt

end CaHistory

theorem loadPemCert_whole {path : String} {env : Environment}
    (whole : env.ReadsWhole files path) (memory : ssl.ReadsMemory)
    (noFailure : ∀ context, env.callFails context = false)
    (roundTrip : ssl.PemRoundTrip) {cert : X509} {file : File}
    (there : files path = some file)
    (written : ssl.pemWriteX509 cert = some file.content) :
    Pki.loadPemCert (env.library ssl) (env.host files) path = .ok cert := by
  unfold Pki.loadPemCert
  simp only [bind_eq_ok, OpenSsl.nonNull_eq_ok]
  exact ⟨_, whole.readIntoBio memory noFailure there, roundTrip cert _ written⟩

theorem loadPemPrivateKey_whole {path : String} {env : Environment}
    (whole : env.ReadsWhole files path) (memory : ssl.ReadsMemory)
    (noFailure : ∀ context, env.callFails context = false)
    (roundTrip : KeyPemRoundTrip ssl) {pkey : EvpPkey} {file : File}
    (there : files path = some file)
    (written : ssl.pemWritePrivateKey pkey = some file.content) :
    Pki.loadPemPrivateKey (env.library ssl) (env.host files) path =
      .ok pkey := by
  unfold Pki.loadPemPrivateKey
  simp only [bind_eq_ok, OpenSsl.nonNull_eq_ok]
  exact ⟨_, whole.readIntoBio memory noFailure there, roundTrip pkey _ written⟩

/-- Both commands that sign work with this key and certificate when they are
given these files. -/
structure Serves (ssl : OpenSsl) (env : Environment) (files : FileSystem)
    (keyPath crtPath : String) (pkey : EvpPkey) (cert : X509) : Prop where
  provision : ∀ args : Provision.ProvisionArgs, args.caKeyPath = keyPath →
    args.caCertPath = crtPath →
    Provision.loadCa (env.library ssl) (env.host files) args = .ok (pkey, cert)
  crlIssue : ∀ args : CrlIssueArgs, args.caKeyPath = keyPath →
    args.caCertPath = crtPath → args.outPath ≠ "" → 0 < args.validityDays →
    loadCrlIssuer (env.library ssl) (env.host files) args = .ok (pkey, cert)

theorem serves_of_loads {env : Environment} {keyPath crtPath : String}
    {pkey : EvpPkey} {cert : X509}
    (key : Pki.loadPemPrivateKey (env.library ssl) (env.host files) keyPath =
      .ok pkey)
    (crt : Pki.loadPemCert (env.library ssl) (env.host files) crtPath =
      .ok cert)
    (owned : ssl.checkPrivateKey cert pkey = true) (keyNamed : keyPath ≠ "")
    (crtNamed : crtPath ≠ "") :
    Serves ssl env files keyPath crtPath pkey cert where
  provision := by
    rintro args rfl rfl
    have isOwned : (env.library ssl).checkPrivateKey cert pkey = true := owned
    unfold Provision.loadCa
    simp only [key, crt, isOwned, ok_bind]
    rfl
  crlIssue := by
    rintro args rfl rfl outNamed positive
    have isOwned : (env.library ssl).checkPrivateKey cert pkey = true := owned
    have checked : checkCrlIssueArgs args = .ok () := by
      unfold checkCrlIssueArgs
      simp [keyNamed, crtNamed, outNamed, not_le.mpr positive, pure,
        Except.pure]
    unfold loadCrlIssuer
    simp only [checked, key, crt, isOwned, ok_bind]
    rfl

/-- After `ca-init` has reported success, and as long as its two files are left
alone, every run that is given them and reads them in full signs with the key
that was generated then and finds the certificate that was made for it; and only
the owner may read the key. -/
theorem new_ca_serves (memory : ssl.ReadsMemory) (certPem : ssl.PemRoundTrip)
    (keyPem : KeyPemRoundTrip ssl) (owns : ChecksOwnKey ssl)
    (history : CaHistory ssl files) :
    ∃ pkey cert,
      newCa (history.env.library ssl) (history.env.host history.making)
        history.args = .ok (pkey, cert) ∧
      (history.final history.args.keyPath).map File.mode = some 0o600 ∧
      ∀ env : Environment, (∀ context, env.callFails context = false) →
        env.ReadsWhole history.final history.args.keyPath →
        env.ReadsWhole history.final history.args.crtPath →
        Serves ssl env history.final history.args.keyPath history.args.crtPath
          pkey cert := by
  obtain ⟨pkey, cert, _, _, new, keyWritten, crtWritten, key, crt⟩ :=
    history.leaves_ca
  refine ⟨pkey, cert, new, by rw [key]; rfl, ?_⟩
  intro env noFailure wholeKey wholeCrt
  apply serves_of_loads
  · exact loadPemPrivateKey_whole wholeKey memory noFailure keyPem key
      keyWritten
  · exact loadPemCert_whole wholeCrt memory noFailure certPem crt crtWritten
  · exact owns cert pkey (newCa_pubkey new)
  · simp [CaInitArgs.keyPath]
  · simp [CaInitArgs.crtPath]

def newKey : EvpPkey :=
  ⟨Pki.evpPkeyEc, []⟩

def newKeyPem : Bytes :=
  ascii "-----KEY-----"

def newCrtPem : Bytes :=
  ascii "-----NEW CA-----"

def keyedSsl : OpenSsl :=
  { OpenSsl.standIn with
    v3ExtConf := fun _ _ _ _ => some (true, [])
    pemReadPrivateKey := fun _ => some newKey
    pemWritePrivateKey := fun pkey =>
      if pkey = newKey then some newKeyPem else none }

def newCaCert : X509 :=
  match newCa (quietPlace.library keyedSsl)
    (quietPlace.host fun _ => none) { outDir := "pki" } with
  | .ok (_, cert) => cert
  | .error _ => sampleIssued 0

def makingSsl : OpenSsl :=
  keyedSsl.withPem newCaCert newCrtPem

theorem makingSsl_keyPem : KeyPemRoundTrip makingSsl := by
  intro pkey pem written
  change (if pkey = newKey then some newKeyPem else none) = some pem at written
  split at written
  · rename_i same
    exact congrArg some same.symm
  · cases written

/-- A CA is made while somebody works in another directory. -/
def madeCa : CaHistory makingSsl fun _ => none where
  before := []
  env := quietPlace
  argv := ["ca-init", "--out-dir", "pki"]
  args := { outDir := "pki" }
  after := [.other fun files => Function.update files "notes.txt" none]
  asked := rfl
  noLoss _ _ := WriteFate.losesSilently_none 0
  made := by decide +kernel
  avoids := List.forall_mem_singleton.mpr
    ⟨fun _ => Function.update_of_ne (by decide) _ _,
      fun _ => Function.update_of_ne (by decide) _ _⟩

theorem madeCa_whole {path : String} {file : File}
    (there : madeCa.final path = some file)
    (short : file.content.length < 2 ^ 31) :
    quietPlace.ReadsWhole madeCa.final path where
  opens := rfl
  reads := rfl
  short other found := by
    cases there.symm.trans found
    exact short

theorem new_ca_serves_sample : ∃ pkey cert,
    (madeCa.final "pki/ca.key").map File.mode = some 0o600 ∧
    Serves makingSsl quietPlace madeCa.final "pki/ca.key" "pki/ca.crt" pkey
      cert := by
  have key : madeCa.final "pki/ca.key" = some ⟨newKeyPem, 0o600⟩ := by
    decide +kernel
  have crt : madeCa.final "pki/ca.crt" = some ⟨newCrtPem, 0o644⟩ := by
    decide +kernel
  obtain ⟨pkey, cert, _, mode, serves⟩ := new_ca_serves
    (fun _ _ => rfl : makingSsl.ReadsMemory)
    (OpenSsl.withPem_roundTrip _ _ _) makingSsl_keyPem
    (fun _ _ same => by simpa [makingSsl, OpenSsl.withPem, keyedSsl,
      OpenSsl.standIn] using same) madeCa
  exact ⟨pkey, cert, mode, serves quietPlace (fun _ => rfl)
    (madeCa_whole key (by decide)) (madeCa_whole crt (by decide))⟩

/-- Without a CRL, `verify` accepts an endorsement for the machine it was issued
for and tells any other machine apart, also when it is not run with the library
of the run that issued. -/
theorem Issued.runVerify_eq {library reader : OpenSsl} {host host' : Host}
    {args : Provision.ProvisionArgs} {args' : VerifyArgs}
    {chip : Provision.ChipIdResult} {caKey : EvpPkey} {caCert cert : X509}
    (issued : ProvisionVerify.Issued library host args chip caKey caCert cert)
    (noFailure : ∀ context, reader.callFails context = false)
    (reads : Binding.ReadsDerTlv reader) {now : Int}
    (accepts : ProvisionVerify.AcceptsIssued
      { library with x509VerifyCert := reader.x509VerifyCert } caCert now)
    (begun : host.time ≤ now)
    (notOver : now < host.time + args.validityDays * 86400)
    (present : ArgsPresent args') (noCrl : args'.crlPath = "")
    (certLoaded : Pki.loadPemCert reader host' args'.orgCertPath = .ok cert)
    (caLoaded : Pki.loadPemCert reader host' args'.orgCaPath = .ok caCert)
    {chipId : Bytes}
    (evidence : verifyEvidenceAndExtractChipId reader host' args' =
      .ok chipId) :
    runVerify reader host' args' =
      if args'.teeType = args.teeType ∧ chipId = chip.chipId then 0
      else 22 := by
  have reached : Reached reader host' args' ⟨cert, caCert, none⟩ chipId :=
    ⟨present, ⟨certLoaded, caLoaded, fun _ => rfl, fun given =>
      (given noCrl).elim⟩, evidence⟩
  obtain ⟨unsigned, md, signature, signed, certEq⟩ := issued.signed
  have issuer := issued.issuer
  have notBefore := issued.notBefore
  have notAfter := issued.notAfter
  rw [certEq] at issuer notBefore notAfter
  have verified := accepts unsigned caKey md signature issued.loads_ca.2 signed
    issuer (notBefore.trans_le begun) (notOver.trans_eq notAfter.symm)
  rw [← certEq] at verified
  change reader.x509VerifyCert _ = none at verified
  have chain : verifyOrgChain reader cert caCert none = .ok .ok := by
    simp only [verifyOrgChain, OpenSsl.call_eq_pure noFailure, verified]
    rfl
  have endorses : Endorses reader cert args'.teeType chipId ↔
      args'.teeType = args.teeType ∧ chipId = chip.chipId := by
    refine ⟨issued_endorses issued reads, ?_⟩
    rintro ⟨sameType, rfl⟩
    obtain ⟨bindingDer, encoded, found⟩ := issued.binding
    have extracted : Binding.extractChipIdBinding reader cert = _ :=
      Binding.extractChipIdBinding_of_found noFailure found
    rw [Binding.decodeChipIdBinding_encode reads encoded] at extracted
    exact ⟨_, extracted,
      sameType ▸ (ProvisionVerify.extractChipId_eq_ok issued.evidence).1, rfl⟩
  have codes := finish_codes reader args' ⟨cert, caCert, none⟩ chipId
  rw [reached.runVerify_eq]
  by_cases same : args'.teeType = args.teeType ∧ chipId = chip.chipId
  · rw [if_pos same]
    exact codes.1.mpr ⟨chain, endorses.mpr same⟩
  · rw [if_neg same]
    exact codes.2.2.2.2.1.mpr ⟨chain, mt endorses.mp same⟩

theorem provision_leaves {env : Environment} {argv : List String}
    {args : Provision.ProvisionArgs}
    (asked : request argv = .run (.provision args))
    (provisioned : ((main ssl env argv).exec files).1 = .ok 0)
    (noLoss : ∀ data, (env.io.write args.outPath).losesSilently data = false) :
    ∃ cert pem mode,
      Provision.issueEndorsement (env.library ssl) (env.host files) args =
        .ok cert ∧
      ssl.pemWriteX509 cert = some pem ∧
      (Event.run env argv).step ssl files args.outPath = some ⟨pem, mode⟩ := by
  rw [main_exec, asked] at provisioned
  rw [step_run_of_run asked]
  rcases ran : (Provision.runProvision (env.library ssl) (env.host files) env.io
    args).exec files with ⟨outcome, files'⟩
  have exec : (Command.provision args).exec ssl env files =
      (exitCode outcome, files') := by
    change (exitCode ((Provision.runProvision _ _ _ _).exec files).1,
      ((Provision.runProvision _ _ _ _).exec files).2) = _
    rw [ran]
  have zero : ((Command.provision args).exec ssl env files).1 = 0 :=
    Except.ok.inj provisioned
  rw [exec] at zero ⊢
  obtain rfl := exitCode_eq_zero.mp zero
  exact ProvisionVerify.runProvision_eq_ok ran noLoss

variable {path : String} {db : RevocationDb}

/-- In a history with a `provision` that reported an endorsement as issued and,
later, a `crl-issue` that reported a CRL as issued, `verify` with both answers
24 if a `revoke` before the CRL reported the endorsement as revoked, else 0 if
the evidence names the machine that was provisioned, else 22. -/
theorem endorsement_answers (codec : HexCodec ssl)
    (sorts : ∀ revoked, (ssl.x509CrlSort revoked).Perm revoked)
    (memory : ssl.ReadsMemory) (crlPem : CrlPemRoundTrip ssl)
    (certPem : ssl.PemRoundTrip) (reads : Binding.ReadsDerTlv ssl)
    (history : CrlHistory ssl path files) (held : heldDb files path = .ok db)
    (empty : db.entries = []) {first rest : List Event} {env : Environment}
    {argv : List String} {args : Provision.ProvisionArgs}
    (split : history.before = first ++ .run env argv :: rest)
    (asked : request argv = .run (.provision args))
    (provisioned : ((main ssl env argv).exec (leaving ssl first files)).1 =
      .ok 0)
    (noLoss : ∀ data, (env.io.write args.outPath).losesSilently data = false)
    (avoids : ∀ event ∈ rest ++ .run history.env history.argv :: history.after,
      event.Avoids args.outPath) {env' : Environment} {argv' : List String}
    {args' : VerifyArgs} (asked' : request argv' = .run (.verify args'))
    (present : ArgsPresent args') (withCert : args'.orgCertPath = args.outPath)
    (withCrl : args'.crlPath = history.args.outPath)
    (noFailure : ∀ context, env'.callFails context = false)
    (wholeCert : env'.ReadsWhole history.final args'.orgCertPath)
    (wholeCrl : env'.ReadsWhole history.final args'.crlPath) {caCert : X509}
    (provisioningCa : Pki.loadPemCert (env.library ssl)
      (env.host (leaving ssl first files)) args.caCertPath = .ok caCert)
    (issuingCa : Pki.loadPemCert (history.env.library ssl)
      (history.env.host history.issuing) history.args.caCertPath = .ok caCert)
    (orgCa : Pki.loadPemCert (env'.library ssl) (env'.host history.final)
      args'.orgCaPath = .ok caCert) {now : Int}
    (accepts : ProvisionVerify.AcceptsIssued
      { env.library ssl with x509VerifyCert := env'.x509VerifyCert } caCert now)
    (judges : JudgesByCrl ssl history.env.x509CrlSign env'.x509VerifyCert caCert
      now)
    (begun : env.time ≤ now)
    (notOver : now < env.time + args.validityDays * 86400)
    (crlBegun : history.env.time ≤ now)
    (crlNotOver : now < history.env.time + history.args.validityDays * 86400)
    {chipId : Bytes}
    (evidence : verifyEvidenceAndExtractChipId (env'.library ssl)
      (env'.host history.final) args' = .ok chipId) :
    ∃ chip, Provision.extractChipId (env.library ssl)
        (env.host (leaving ssl first files)) args = .ok chip ∧
      ((main ssl env' argv').exec history.final).1 =
        .ok (if env.randomSerial ∈ history.revokedSerials then 24
          else if args'.teeType = args.teeType ∧ chipId = chip.chipId then 0
          else 22) := by
  obtain ⟨cert, pem, mode, issuedCert, written, there⟩ :=
    provision_leaves asked provisioned noLoss
  obtain ⟨chip, caKey, issuer, issued⟩ :=
    ProvisionVerify.issueEndorsement_eq_ok issuedCert
  cases provisioningCa.symm.trans issued.loads_ca.1
  have kept : history.final args.outPath = some ⟨pem, mode⟩ := by
    have shape : history.events = first ++ .run env argv ::
        (rest ++ .run history.env history.argv :: history.after) := by
      rw [CrlHistory.events, split, List.append_assoc, List.cons_append]
    rw [CrlHistory.final, shape, leaving_append, leaving_cons,
      leaving_of_avoids avoids]
    exact there
  rw [← withCert] at kept
  have certLoaded := loadPemCert_whole wholeCert memory noFailure certPem kept
    written
  have plainPresent : ArgsPresent { args' with crlPath := "" } :=
    ⟨present.orgCert, present.orgCa, present.teeType, present.report,
      present.certs⟩
  have plain := Issued.runVerify_eq issued noFailure
    (show Binding.ReadsDerTlv (env'.library ssl) from reads) accepts begun
    notOver plainPresent rfl certLoaded orgCa evidence
  have serial := (issueEndorsement_fields issued.evidence issuedCert).2
  refine ⟨chip, issued.evidence, ?_⟩
  rw [main_exec, asked']
  have answer := history.runVerify_final codec sorts memory crlPem held empty
    withCrl noFailure wholeCrl issuingCa orgCa certLoaded judges crlBegun
    crlNotOver plain (ite_eq_or_eq _ 0 22)
  rw [serial] at answer
  exact congrArg Except.ok answer

theorem revokingPlace_accepts (caCert : X509) : ProvisionVerify.AcceptsIssued
    { revokingPlace.library revokingSsl with
      x509VerifyCert := revokingPlace.x509VerifyCert } caCert 0 := by
  intro unsigned caKey md signature _ _ issuer _ _
  have trusted : [caCert].any fun ca =>
      decide (ca.subject = unsigned.issuer) := by
    simp [issuer]
  exact if_pos trusted

theorem revokingSsl_certPem : revokingSsl.PemRoundTrip := by
  intro cert pem written
  simp only [revokingSsl, ProvisionVerify.agreeingSsl, OpenSsl.withPem]
    at written ⊢
  split at written
  · rename_i same
    cases written
    simp [same]
  · cases written

theorem revokedHistory_whole {path : String} {file : File}
    (there : revokedHistory.final path = some file)
    (short : file.content.length < 2 ^ 31) :
    revokingPlace.ReadsWhole revokedHistory.final path where
  opens := rfl
  reads := rfl
  short other found := by
    cases there.symm.trans found
    exact short

theorem endorsement_answers_sample :
    ((main revokingSsl revokingPlace verifyCrlArgv).exec
      revokedHistory.final).1 = .ok 24 := by
  have cert : revokedHistory.final "endorsement.crt" =
      some ⟨ProvisionVerify.issuedPem, 0o644⟩ := by
    decide +kernel
  have crl : revokedHistory.final "ca.crl" = some ⟨crlPem, 0o644⟩ := by
    decide +kernel
  have avoids : ∀ event ∈ [Event.run revokingPlace revokeArgv,
      .run revokingPlace crlIssueArgv,
      .other fun files => Function.update files "ca.key" none],
      event.Avoids "endorsement.crt" := by
    simp only [List.forall_mem_cons]
    refine ⟨?_, ?_, ?_, List.forall_mem_nil _⟩
    · intro command asked
      cases asked
      decide
    · intro command asked
      cases asked
      decide
    · intro files
      exact Function.update_of_ne (by decide) _ _
  obtain ⟨chip, _, answer⟩ := @endorsement_answers revokingSsl noDbFiles
    "db.txt" {} revokingSsl_codec (fun _ => List.Perm.refl _) (fun _ _ => rfl)
    revokingSsl_crlPem revokingSsl_certPem
    (Binding.readObject_readsDerTlv rfl) revokedHistory rfl rfl []
    [.run revokingPlace revokeArgv] revokingPlace provisionArgv _ rfl rfl
    (by decide +kernel) (WriteFate.losesSilently_none 0) avoids revokingPlace
    verifyCrlArgv verifyCrlArgs rfl
    ⟨by decide, by decide, by decide, by decide, by decide⟩ rfl rfl
    (fun _ => rfl) (revokedHistory_whole cert (by decide))
    (revokedHistory_whole crl (by decide)) ProvisionVerify.sampleCaCert
    (by decide +kernel) (by decide +kernel) (by decide +kernel) 0
    (revokingPlace_accepts _) revokingPlace_judges (by decide) (by decide)
    (by decide) (by decide) samplePpid (by decide +kernel)
  have serial : revokingPlace.randomSerial =
      ProvisionVerify.issuedCert.serialNumber := by
    decide +kernel
  rw [serial, if_pos revokedHistory_revoked] at answer
  exact answer

end TeeAnchor
