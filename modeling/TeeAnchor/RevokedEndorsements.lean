import TeeAnchor.AcceptedEndorsements
import TeeAnchor.IssuedCrls

/-!
# Revoked endorsements

From the run of `revoke` to the answer of `verify`: a CRL that `crl-issue`
reports as issued lists every serial number reported as revoked before, so
`verify` does not accept an endorsement with one of them, and when the database
was empty in the beginning no other endorsement is refused for the CRL.
-/

namespace TeeAnchor

open Ca Verify

variable {ssl : OpenSsl} {path : String} {files : FileSystem}
  {db : RevocationDb}

/-- Runs on a database, a CRL that is issued from it, and then whatever leaves
the file of that CRL alone. -/
structure CrlHistory (ssl : OpenSsl) (path : String) (files : FileSystem) where
  before : List Event
  env : Environment
  argv : List String
  args : CrlIssueArgs
  after : List Event
  keeps : ∀ event ∈ before, event.KeepsDb path
  asked : request argv = .run (.crlIssue args)
  onDb : resolveDbPath args.dbPath args.caCertPath = path
  opens : env.io.openRead path = false
  reads : env.io.readStops path = none
  notDb : args.outPath ≠ path
  notTmp : args.outPath ≠ tmpPath path
  noLoss : ∀ data, (env.io.write args.outPath).losesSilently data = false
  issued : ((main ssl env argv).exec (leaving ssl before files)).1 = .ok 0
  avoids : ∀ event ∈ after, event.Avoids args.outPath

namespace CrlHistory

def events (history : CrlHistory ssl path files) : List Event :=
  history.before ++ .run history.env history.argv :: history.after

/-- The files when the CRL is issued. -/
def issuing (history : CrlHistory ssl path files) : FileSystem :=
  leaving ssl history.before files

def final (history : CrlHistory ssl path files) : FileSystem :=
  leaving ssl history.events files

def revokedSerials (history : CrlHistory ssl path files) : List Int :=
  revokedIn ssl path history.before files

/-- In the end there is the PEM of a CRL of the database, grown by the serial
numbers reported as revoked. -/
theorem leaves_crl (codec : HexCodec ssl)
    (sorts : ∀ revoked, (ssl.x509CrlSort revoked).Perm revoked)
    (history : CrlHistory ssl path files) (held : heldDb files path = .ok db)
    (untagged : db.Untagged) :
    ∃ caKey caCert crl file db',
      loadCrlIssuer (history.env.library ssl) (history.env.host history.issuing)
        history.args = .ok (caKey, caCert) ∧
      CrlOf (history.env.library ssl) (history.env.host history.issuing)
        history.args caKey caCert db'.next crl ∧
      Grows (history.env.library ssl) history.revokedSerials db db' ∧
      ssl.pemWriteX509Crl crl = some file.content ∧
      history.final history.args.outPath = some file := by
  obtain ⟨db', held', grows⟩ := grows_leaving codec history.keeps held untagged
  have issued := history.issued
  rw [main_exec, history.asked] at issued
  have zero : ((Command.crlIssue history.args).exec ssl history.env
      history.issuing).1 = 0 := Except.ok.inj issued
  have exec := @Command.exec_operation ssl history.env history.issuing
    (.crlIssue history.args) _ rfl
  rcases ran : ((Operation.crlIssue (history.env.host history.issuing)
    history.env.io history.args).run (history.env.library ssl)).exec
      history.issuing with ⟨outcome, files'⟩
  rw [ran] at exec
  rw [exec] at zero
  obtain rfl := exitCode_eq_zero.mp zero
  obtain ⟨caKey, caCert, publication, issuer, published, pem, there⟩ :=
    crlIssue_leaves history.onDb history.opens history.reads held'
      history.notDb history.notTmp history.noLoss ran
  refine ⟨caKey, caCert, publication.crl, ⟨publication.pem, 0o644⟩, db',
    issuer, @crlOf_publish (history.env.library ssl) _ sorts _ _ _ _ _
      published, grows_library.mpr grows, pem, ?_⟩
  rw [final, events, leaving_append, leaving_cons,
    leaving_of_avoids history.avoids, step_run_of_run history.asked,
    ← issuing, exec]
  exact there

end CrlHistory

/-- The chain check takes no certificate that is listed in the CRL. -/
def RefusesListed (verifyCert : VerifyContext → Option Int) : Prop :=
  ∀ leaf caCert crl,
    (∃ revoked ∈ crl.revoked, revoked.serialNumber = leaf.serialNumber ∧
      revoked.reason ≠ some removeFromCrl) →
    verifyCert (orgChainContext leaf caCert (some crl)) ≠ none

/-- With a CRL that `crl-issue` reported as issued, `verify` accepts no
endorsement whose serial number was reported as revoked before. -/
theorem revoked_never_accepted (codec : HexCodec ssl)
    (sorts : ∀ revoked, (ssl.x509CrlSort revoked).Perm revoked)
    (memory : ssl.ReadsMemory) (roundTrip : CrlPemRoundTrip ssl)
    (history : CrlHistory ssl path files) (held : heldDb files path = .ok db)
    (untagged : db.Untagged) {env : Environment} {argv : List String}
    {args : VerifyArgs} (asked : request argv = .run (.verify args))
    (withCrl : args.crlPath = history.args.outPath)
    (refuses : RefusesListed env.x509VerifyCert)
    (short : ∀ file, history.final args.crlPath = some file →
      file.content.length < 2 ^ 31) {orgCert : X509}
    (loaded : Pki.loadPemCert (env.library ssl) (env.host history.final)
      args.orgCertPath = .ok orgCert)
    (revoked : orgCert.serialNumber ∈ history.revokedSerials) :
    ((main ssl env argv).exec history.final).1 ≠ .ok 0 := by
  intro accepted
  obtain ⟨inputs, chipId, reached, chain, _⟩ :=
    runVerify_eq_zero_iff.mp (exec_verify asked accepted)
  obtain ⟨caKey, caCert, crl, file, db', issuer, crlOf, grows, pem, there⟩ :=
    history.leaves_crl codec sorts held untagged
  have notEmpty : args.crlPath ≠ "" := withCrl ▸ (loadCrlIssuer_eq_ok issuer).1
  rw [← withCrl] at there
  obtain ⟨loadedCrl, isCrl, crlLoaded⟩ := reached.loaded.crl notEmpty
  obtain rfl : loadedCrl = crl := @loadPemCrl_of_written (env.library ssl)
    _ _ memory roundTrip env.io _ rfl _ _ _ there (short file there) pem
    crlLoaded
  have listed := crlOf.lists codec.library grows revoked
  obtain ⟨entry, member, serial⟩ := List.mem_map.mp listed
  have sameCert : inputs.orgCert = orgCert :=
    Except.ok.inj (reached.loaded.orgCert.symm.trans loaded)
  have verified := verifyOrgChain_ok chain
  rw [sameCert, isCrl] at verified
  exact refuses _ _ _ ⟨entry, member, serial, crlOf.noneRemoved entry member⟩
    verified

/-- The chain check judges a certificate of this CA by the list of its CRL,
until the next one is due.  The certificate of the CA is then valid, too, and
lets it sign CRLs. -/
def JudgesByCrl (ssl : OpenSsl)
    (crlSign : X509Crl → EvpPkey → Option Digest → Option Bytes)
    (verifyCert : VerifyContext → Option Int) (caCert : X509) (now : Int) :
    Prop :=
  ∀ leaf caKey unsigned md signature critical keyid,
    ssl.checkPrivateKey caCert caKey = true →
    crlSign unsigned caKey md = some signature →
    unsigned.version = 1 → unsigned.issuer = caCert.subject →
    unsigned.lastUpdate ≤ now → now < unsigned.nextUpdate →
    ssl.v3ExtConf caCert none .authorityKeyIdentifier "keyid:always" =
      some (critical, keyid) →
    unsigned.extensions =
      [⟨Nid.authorityKeyIdentifier.oid, critical, keyid⟩] →
    (∀ revoked ∈ unsigned.revoked, revoked.reason ≠ some removeFromCrl) →
    verifyCert (orgChainContext leaf caCert none) = none →
    verifyCert (orgChainContext leaf caCert
        (some { unsigned with signature := signature })) =
      if leaf.serialNumber ∈ unsigned.revoked.map X509Revoked.serialNumber then
        some x509VErrCertRevoked
      else none

theorem CrlOf.judged {host : Host} {args : CrlIssueArgs} {caKey : EvpPkey}
    {caCert : X509} {crl : X509Crl}
    (crlOf : CrlOf ssl host args caKey caCert db crl)
    {verifyCert : VerifyContext → Option Int} {now : Int}
    (judges : JudgesByCrl ssl ssl.x509CrlSign verifyCert caCert now)
    (owned : ssl.checkPrivateKey caCert caKey = true)
    (begun : host.time ≤ now)
    (notOver : now < host.time + args.validityDays * 86400) {leaf : X509}
    (verified : verifyCert (orgChainContext leaf caCert none) = none) :
    verifyCert (orgChainContext leaf caCert (some crl)) =
      if leaf.serialNumber ∈ crl.revoked.map X509Revoked.serialNumber then
        some x509VErrCertRevoked
      else none := by
  obtain ⟨critical, keyid, extension, isExtension⟩ := crlOf.extensions
  have noneRemoved := crlOf.noneRemoved
  have version := crlOf.version
  have issuer := crlOf.issuer
  have lastUpdate := crlOf.lastUpdate
  have nextUpdate := crlOf.nextUpdate
  obtain ⟨unsigned, md, signature, signed, rfl⟩ := crlOf.signed
  exact judges leaf caKey unsigned md signature critical keyid owned signed
    version issuer (lastUpdate.trans_le begun)
    (notOver.trans_eq nextUpdate.symm) extension isExtension noneRemoved
    verified

/-- With the check of a CRL that lists what was revoked, `verify` answers 24 to
a revoked endorsement and to any other what it answers without the CRL. -/
theorem runVerify_with_crl {host : Host} {args : VerifyArgs} {crl : X509Crl}
    {caCert orgCert : X509} {serials : List Int} {code : Nat}
    (noFailure : ∀ context, ssl.callFails context = false)
    (notEmpty : args.crlPath ≠ "")
    (crlLoaded : Pki.loadPemCrl ssl host args.crlPath = .ok crl)
    (orgCa : Pki.loadPemCert ssl host args.orgCaPath = .ok caCert)
    (certLoaded : Pki.loadPemCert ssl host args.orgCertPath = .ok orgCert)
    (judged : ssl.x509VerifyCert (orgChainContext orgCert caCert none) = none →
      ssl.x509VerifyCert (orgChainContext orgCert caCert (some crl)) =
        if orgCert.serialNumber ∈ serials then some x509VErrCertRevoked
        else none)
    (answered : runVerify ssl host { args with crlPath := "" } = code)
    (decided : code = 0 ∨ code = 22) :
    runVerify ssl host args =
      if orgCert.serialNumber ∈ serials then 24 else code := by
  have notInternal : code ≠ 30 := by rcases decided with rfl | rfl <;> decide
  have notEvidence : code ≠ 20 := by rcases decided with rfl | rfl <;> decide
  obtain ⟨inputs, chipId, reached, finished⟩ :=
    (runVerify_eq_iff notInternal notEvidence).mp answered
  have noCrl := reached.loaded.noCrl rfl
  have sameCert : inputs.orgCert = orgCert :=
    Except.ok.inj (reached.loaded.orgCert.symm.trans certLoaded)
  have sameCa : inputs.orgCa = caCert :=
    Except.ok.inj (reached.loaded.orgCa.symm.trans orgCa)
  have codes := finish_codes ssl { args with crlPath := "" } inputs chipId
  have chain : verifyOrgChain ssl inputs.orgCert inputs.orgCa inputs.orgCrl =
      .ok .ok := by
    rcases decided with rfl | rfl
    · exact (codes.1.mp finished).1
    · exact (codes.2.2.2.2.1.mp finished).1
  rw [noCrl, sameCert, sameCa] at chain
  have judgement := judged (verifyOrgChain_ok chain)
  have reachedCrl : Reached ssl host args ⟨orgCert, caCert, some crl⟩ chipId :=
    ⟨⟨reached.present.orgCert, reached.present.orgCa, reached.present.teeType,
        reached.present.report, reached.present.certs⟩,
      ⟨certLoaded, orgCa, fun empty => (notEmpty empty).elim,
        fun _ => ⟨crl, rfl, crlLoaded⟩⟩, reached.evidence⟩
  rw [reachedCrl.runVerify_eq]
  have crlCodes := finish_codes ssl args ⟨orgCert, caCert, some crl⟩ chipId
  by_cases revoked : orgCert.serialNumber ∈ serials
  · rw [if_pos revoked] at judgement ⊢
    apply crlCodes.2.2.1.mpr
    simp only [verifyOrgChain, OpenSsl.call_eq_pure noFailure, judgement]
    rfl
  · rw [if_neg revoked] at judgement ⊢
    have chainCrl : verifyOrgChain ssl orgCert caCert (some crl) =
        .ok .ok := by
      simp only [verifyOrgChain, OpenSsl.call_eq_pure noFailure, judgement]
      rfl
    have sameEndorses : Endorses ssl inputs.orgCert args.teeType chipId ↔
        Endorses ssl orgCert args.teeType chipId := by
      rw [sameCert]
    rcases decided with rfl | rfl
    · exact crlCodes.1.mpr ⟨chainCrl, sameEndorses.mp (codes.1.mp finished).2⟩
    · exact crlCodes.2.2.2.2.1.mpr ⟨chainCrl, fun endorses =>
        (codes.2.2.2.2.1.mp finished).2 (sameEndorses.mpr endorses)⟩

/-- When the database was empty in the beginning, the CRL of a history decides
as the revocations before it. -/
theorem CrlHistory.runVerify_final (codec : HexCodec ssl)
    (sorts : ∀ revoked, (ssl.x509CrlSort revoked).Perm revoked)
    (memory : ssl.ReadsMemory) (roundTrip : CrlPemRoundTrip ssl)
    (history : CrlHistory ssl path files) (held : heldDb files path = .ok db)
    (empty : db.entries = []) {env : Environment} {args : VerifyArgs}
    (withCrl : args.crlPath = history.args.outPath)
    (noFailure : ∀ context, env.callFails context = false)
    (whole : env.ReadsWhole history.final args.crlPath)
    {caCert orgCert : X509}
    (issuingCa : Pki.loadPemCert (history.env.library ssl)
      (history.env.host history.issuing) history.args.caCertPath = .ok caCert)
    (orgCa : Pki.loadPemCert (env.library ssl) (env.host history.final)
      args.orgCaPath = .ok caCert)
    (loaded : Pki.loadPemCert (env.library ssl) (env.host history.final)
      args.orgCertPath = .ok orgCert) {now : Int}
    (judges : JudgesByCrl ssl history.env.x509CrlSign env.x509VerifyCert caCert
      now)
    (begun : history.env.time ≤ now)
    (notOver : now < history.env.time + history.args.validityDays * 86400)
    {code : Nat}
    (answered : runVerify (env.library ssl) (env.host history.final)
      { args with crlPath := "" } = code)
    (decided : code = 0 ∨ code = 22) :
    runVerify (env.library ssl) (env.host history.final) args =
      if orgCert.serialNumber ∈ history.revokedSerials then 24 else code := by
  have untagged : db.Untagged := by
    intro entry member
    rw [empty] at member
    cases member
  obtain ⟨caKey, issuingCert, crl, file, db', issuer, crlOf, grows, pem,
    there⟩ := history.leaves_crl codec sorts held untagged
  obtain ⟨named, certLoaded, owned⟩ := loadCrlIssuer_eq_ok issuer
  cases issuingCa.symm.trans certLoaded
  have notEmpty : args.crlPath ≠ "" := withCrl ▸ named
  rw [← withCrl] at there
  have crlLoaded := loadPemCrl_written whole memory noFailure roundTrip there
    pem
  have listed := fun serial =>
    crlOf.lists_iff codec.library grows empty serial
  apply runVerify_with_crl noFailure notEmpty crlLoaded orgCa loaded ?_ answered
    decided
  intro verified
  have judgement := crlOf.judged judges owned begun notOver verified
  simp only [listed] at judgement
  exact judgement

/-- When the database was empty in the beginning, a current CRL that `crl-issue`
reported as issued makes `verify` answer 24 exactly for the endorsements
reported as revoked before, and changes no other answer. -/
theorem revocation_decides (codec : HexCodec ssl)
    (sorts : ∀ revoked, (ssl.x509CrlSort revoked).Perm revoked)
    (memory : ssl.ReadsMemory) (roundTrip : CrlPemRoundTrip ssl)
    (history : CrlHistory ssl path files) (held : heldDb files path = .ok db)
    (empty : db.entries = []) {env : Environment} {argv plainArgv : List String}
    {args : VerifyArgs} (asked : request argv = .run (.verify args))
    (plain : request plainArgv = .run (.verify { args with crlPath := "" }))
    (withCrl : args.crlPath = history.args.outPath)
    (noFailure : ∀ context, env.callFails context = false)
    (whole : env.ReadsWhole history.final args.crlPath)
    {caCert orgCert : X509}
    (issuingCa : Pki.loadPemCert (history.env.library ssl)
      (history.env.host history.issuing) history.args.caCertPath = .ok caCert)
    (orgCa : Pki.loadPemCert (env.library ssl) (env.host history.final)
      args.orgCaPath = .ok caCert)
    (loaded : Pki.loadPemCert (env.library ssl) (env.host history.final)
      args.orgCertPath = .ok orgCert) {now : Int}
    (judges : JudgesByCrl ssl history.env.x509CrlSign env.x509VerifyCert caCert
      now)
    (begun : history.env.time ≤ now)
    (notOver : now < history.env.time + history.args.validityDays * 86400)
    {code : Nat}
    (answered : ((main ssl env plainArgv).exec history.final).1 = .ok code)
    (decided : code = 0 ∨ code = 22) :
    ((main ssl env argv).exec history.final).1 =
      .ok (if orgCert.serialNumber ∈ history.revokedSerials then 24
        else code) := by
  rw [main_exec, asked]
  exact congrArg Except.ok (history.runVerify_final codec sorts memory roundTrip
    held empty withCrl noFailure whole issuingCa orgCa loaded judges begun
    notOver (exec_verify plain answered) decided)

def revokedCrl : X509Crl where
  version := 1
  issuer := ⟨[("CN", "CA")]⟩
  lastUpdate := 0
  nextUpdate := 604800
  revoked := [⟨7, ascii "20260101000000Z", none⟩]
  crlNumber := 1
  extensions := [⟨Nid.authorityKeyIdentifier.oid, true, [0x30, 0x00]⟩]
  signature := [0x09]

def crlPem : Bytes :=
  ascii "-----CRL-----"

def revokingSsl : OpenSsl :=
  { ProvisionVerify.agreeingSsl with
    bn2hex := integerHexText
    hex2bn := fun text => some (integerOfHexText text)
    pemWriteX509Crl := fun crl =>
      if crl = revokedCrl then some crlPem else none
    pemReadX509Crl := fun bytes =>
      if bytes = crlPem then some revokedCrl else none }

/-- A certificate verifies with the CA that issued it, unless it is listed. -/
def revokingPlace : Environment :=
  { samplePlace with
    x509CrlSign := fun _ _ _ => some [0x09]
    x509VerifyCert := fun context =>
      if context.trusted.any fun ca => ca.subject = context.leaf.issuer then
        match context.crls with
        | [] => none
        | crl :: _ =>
            if context.leaf.serialNumber ∈
                crl.revoked.map X509Revoked.serialNumber then
              some x509VErrCertRevoked
            else none
      else some 20 }

def revokeArgv : List String :=
  ["revoke", "--ca-cert", "ca.crt", "--cert", "endorsement.crt", "--db",
    "db.txt"]

def crlIssueArgv : List String :=
  ["crl-issue", "--ca-key", "ca.key", "--ca-cert", "ca.crt", "--out", "ca.crl",
    "--db", "db.txt"]

def noDbFiles : FileSystem := fun path =>
  if path = "db.txt" then none else sampleFiles path

theorem revokingSsl_codec : HexCodec revokingSsl :=
  ⟨sampleCaSsl_hexCodec.format, sampleCaSsl_hexCodec.inverse,
    sampleCaSsl_hexCodec.ignoresCase⟩

theorem revokingSsl_crlPem : CrlPemRoundTrip revokingSsl := by
  intro crl pem written
  simp only [revokingSsl] at written ⊢
  split at written
  · rename_i same
    cases written
    simp [same]
  · cases written

theorem keepsDb_provision :
    (Event.run revokingPlace provisionArgv).KeepsDb "db.txt" := by
  intro command asked owned
  cases asked
  simp [Command.owned] at owned

theorem keepsDb_revoke :
    (Event.run revokingPlace revokeArgv).KeepsDb "db.txt" := by
  intro command asked _ files
  cases asked
  exact ⟨_, rfl, ⟨rfl, rfl, rfl, WriteFate.losesSilently_none 0, sample_time⟩,
    by simp [Operation.outPath]⟩

theorem crlIssue_succeeds :
    ((main revokingSsl revokingPlace crlIssueArgv).exec
      (leaving revokingSsl [.run revokingPlace provisionArgv,
        .run revokingPlace revokeArgv] noDbFiles)).1 = .ok 0 := by
  decide +kernel

/-- The CA endorses a machine, revokes the endorsement and issues a CRL. Then
its key is taken away. -/
def revokedHistory : CrlHistory revokingSsl "db.txt" noDbFiles where
  before :=
    [.run revokingPlace provisionArgv, .run revokingPlace revokeArgv]
  env := revokingPlace
  argv := crlIssueArgv
  args := {
    caKeyPath := "ca.key"
    caCertPath := "ca.crt"
    outPath := "ca.crl"
    dbPath := "db.txt" }
  after := [.other fun files => Function.update files "ca.key" none]
  keeps := List.forall_mem_cons.mpr ⟨keepsDb_provision,
    List.forall_mem_singleton.mpr keepsDb_revoke⟩
  asked := rfl
  onDb := rfl
  opens := rfl
  reads := rfl
  notDb := by decide
  notTmp := by decide
  noLoss := WriteFate.losesSilently_none 0
  issued := crlIssue_succeeds
  avoids := List.forall_mem_singleton.mpr fun _ =>
    Function.update_of_ne (by decide) _ _

theorem revokedHistory_orgCert :
    Pki.loadPemCert (revokingPlace.library revokingSsl)
      (revokingPlace.host revokedHistory.final) "endorsement.crt" =
        .ok ProvisionVerify.issuedCert := by
  decide +kernel

theorem revokedHistory_revoked :
    ProvisionVerify.issuedCert.serialNumber ∈
      revokedHistory.revokedSerials := by
  decide +kernel

theorem revokedHistory_short {file : File}
    (there : revokedHistory.final "ca.crl" = some file) :
    file.content.length < 2 ^ 31 := by
  have isPem : revokedHistory.final "ca.crl" = some ⟨crlPem, 0o644⟩ := by
    decide +kernel
  cases isPem.symm.trans there
  decide

def verifyCrlArgv : List String :=
  verifyArgv ++ ["--crl", "ca.crl"]

theorem revokingPlace_judges :
    JudgesByCrl revokingSsl revokingPlace.x509CrlSign
      revokingPlace.x509VerifyCert ProvisionVerify.sampleCaCert 0 := by
  intro leaf caKey unsigned md signature critical keyid _ _ _ _ _ _ _ _ _
    verified
  simp only [revokingPlace, orgChainContext, Option.toList_none,
    Option.toList_some] at verified ⊢
  split at verified
  · rename_i issued
    rw [if_pos issued]
  · cases verified

theorem revokingPlace_refuses : RefusesListed revokingPlace.x509VerifyCert := by
  rintro leaf caCert crl ⟨revoked, member, serial, _⟩ verified
  have listed : leaf.serialNumber ∈ crl.revoked.map X509Revoked.serialNumber :=
    List.mem_map.mpr ⟨revoked, member, serial⟩
  simp only [revokingPlace, orgChainContext, Option.toList_some, if_pos listed]
    at verified
  split at verified
  · cases verified
  · cases verified

def verifyCrlArgs : VerifyArgs :=
  { sampleArgs "quote.dat" with crlPath := "ca.crl" }

theorem revoked_never_accepted_sample :
    ((main revokingSsl revokingPlace verifyCrlArgv).exec
      revokedHistory.final).1 ≠ .ok 0 :=
  @revoked_never_accepted revokingSsl "db.txt" noDbFiles {} revokingSsl_codec
    (fun _ => List.Perm.refl _) (fun _ _ => rfl) revokingSsl_crlPem
    revokedHistory rfl (by simp [RevocationDb.Untagged]) revokingPlace
    verifyCrlArgv verifyCrlArgs rfl rfl revokingPlace_refuses
    (fun _ there => revokedHistory_short there) ProvisionVerify.issuedCert
    revokedHistory_orgCert revokedHistory_revoked

theorem revocation_decides_sample :
    ((main revokingSsl revokingPlace verifyCrlArgv).exec
      revokedHistory.final).1 = .ok 24 := by
  have answer := @revocation_decides revokingSsl "db.txt" noDbFiles {}
    revokingSsl_codec (fun _ => List.Perm.refl _) (fun _ _ => rfl)
    revokingSsl_crlPem revokedHistory rfl rfl revokingPlace verifyCrlArgv
    verifyArgv verifyCrlArgs rfl rfl rfl (fun _ => rfl)
    ⟨rfl, rfl, fun _ there => revokedHistory_short there⟩
    ProvisionVerify.sampleCaCert ProvisionVerify.issuedCert
    (by decide +kernel) (by decide +kernel) revokedHistory_orgCert 0
    revokingPlace_judges (by decide) (by decide) 0 (by decide +kernel)
    (Or.inl rfl)
  rw [if_pos revokedHistory_revoked] at answer
  exact answer

end TeeAnchor
