import TeeAnchor.VerifyExitCodes

/-!
# Provision and verify agree

Both subcommands take the Chip ID from the evidence in the same way, and the
endorsement carries it through the hand-written DER unchanged.  A machine is
therefore accepted with an endorsement exactly when its TEE type and Chip ID are
those the endorsement was issued for.
-/

namespace TeeAnchor.ProvisionVerify

open OpenSsl Provision Verify

variable {ssl : OpenSsl} {host host' : Host}

theorem loadPemCert_congr {path path' : String} {cert : X509}
    (sameFile : host'.read path' = host.read path)
    (loaded : Pki.loadPemCert ssl host path = .ok cert) :
    Pki.loadPemCert ssl host' path' = .ok cert := by
  unfold Pki.loadPemCert Pki.readIntoBio at loaded ⊢
  simp only [bind_eq_ok, nonNull_eq_ok, readFile_eq_ok] at loaded ⊢
  obtain ⟨bio, ⟨bytes, read, _, called, returned⟩, found⟩ := loaded
  exact ⟨bio, ⟨bytes, sameFile.trans read, _, called, returned⟩, found⟩

/-- The two runs are given the same evidence. -/
structure SameEvidence (host host' : Host) (args : ProvisionArgs)
    (args' : VerifyArgs) : Prop where
  teeType : args'.teeType = args.teeType
  report : host'.read args'.reportPath = host.read args.reportPath
  certs : args.teeType = "snp" → ∀ name ∈ ["ark.pem", "ask.pem", "vcek.pem"],
    host'.read (Snp.joinPath args'.certsDir name) =
        host.read (Snp.joinPath args.certsDir name) ∧
      host'.pathExists (Snp.joinPath args'.certsDir name) =
        host.pathExists (Snp.joinPath args.certsDir name)
  storage : host'.storage = host.storage

/-- From a PCK chain both subcommands take the same PPID. -/
theorem ppidFromPckChain_eq_ok {chain : List X509} {teeType : UInt8}
    {chip : ChipIdResult}
    (extracted : chipIdFromPckChain ssl chain teeType = .ok chip) :
    ppidFromPckChain ssl chain = .ok chip.chipId ∧ chip.teeType = teeType := by
  unfold chipIdFromPckChain at extracted
  simp only [bind_eq_ok] at extracted
  obtain ⟨leaf, verified, found, walked, returned⟩ := extracted
  unfold ppidFromPckChain
  cases found with
  | none => simp at returned
  | some ppid =>
      simp only [bind_eq_ok, nonNull_eq_ok] at returned
      obtain ⟨pub, _, returned⟩ := returned
      cases returned
      refine ⟨?_, rfl⟩
      simp only [bind_eq_ok]
      exact ⟨leaf, verified, some ppid, walked, rfl⟩

theorem requireCert_eq_ok {kind path file : String} {done : Unit} :
    Snp.requireCert host kind path file = .ok done ↔ host.pathExists path := by
  unfold Snp.requireCert
  by_cases found : host.pathExists path
  · simp [found, pure, Except.pure]
  · simp [found]

theorem verifyVcekChain_congr {certsDir certsDir' : String}
    {chain : Snp.SnpChain}
    (sameFiles : ∀ name ∈ ["ark.pem", "ask.pem", "vcek.pem"],
      host'.read (Snp.joinPath certsDir' name) =
          host.read (Snp.joinPath certsDir name) ∧
        host'.pathExists (Snp.joinPath certsDir' name) =
          host.pathExists (Snp.joinPath certsDir name))
    (verified : Snp.verifyVcekChain ssl host certsDir = .ok chain) :
    Snp.verifyVcekChain ssl host' certsDir' = .ok chain := by
  have arkFile := sameFiles "ark.pem" (by simp)
  have askFile := sameFiles "ask.pem" (by simp)
  have vcekFile := sameFiles "vcek.pem" (by simp)
  unfold Snp.verifyVcekChain at verified ⊢
  simp only [bind_eq_ok, requireCert_eq_ok] at verified ⊢
  obtain ⟨_, arkThere, _, askThere, _, vcekThere, ark, arkLoaded, ask, askLoaded,
    vcek, vcekLoaded, rest⟩ := verified
  exact ⟨(), arkFile.2.trans arkThere, (), askFile.2.trans askThere, (),
    vcekFile.2.trans vcekThere, ark, loadPemCert_congr arkFile.1 arkLoaded, ask,
    loadPemCert_congr askFile.1 askLoaded, vcek,
    loadPemCert_congr vcekFile.1 vcekLoaded, rest⟩

namespace SameEvidence

variable {args : ProvisionArgs} {args' : VerifyArgs}

theorem readFile {content : Bytes} (same : SameEvidence host host' args args')
    (read : TeeAnchor.readFile host args.reportPath = .ok content) :
    TeeAnchor.readFile host' args'.reportPath = .ok content := by
  rw [readFile_eq_ok] at read ⊢
  exact same.report.trans read

theorem snp {result : Snp.SnpVerifyResult}
    (same : SameEvidence host host' args args') (isSnp : args.teeType = "snp")
    (verified : Snp.verifyAndExtract ssl host args.reportPath args.certsDir =
      .ok result) :
    Snp.verifyAndExtract ssl host' args'.reportPath args'.certsDir =
      .ok result := by
  unfold Snp.verifyAndExtract at verified ⊢
  simp only [bind_eq_ok] at verified ⊢
  obtain ⟨report, read, done, validated, chain, chainVerified, rest⟩ := verified
  exact ⟨report, same.readFile read, done, validated, chain,
    verifyVcekChain_congr (same.certs isSnp) chainVerified, rest⟩

theorem cca {result : Cca.CcaVerifyResult}
    (same : SameEvidence host host' args args')
    (verified : Cca.verifyAndExtract ssl host args.reportPath = .ok result) :
    Cca.verifyAndExtract ssl host' args'.reportPath = .ok result := by
  unfold Cca.verifyAndExtract at verified ⊢
  rw [same.storage]
  simp only [bind_eq_ok] at verified ⊢
  obtain ⟨tok, read, tokenVerified⟩ := verified
  exact ⟨tok, same.readFile read, tokenVerified⟩

end SameEvidence

/-- Provision records the code of the TEE type it was given, and from the same
evidence verify takes the same Chip ID. -/
theorem extractChipId_eq_ok {args : ProvisionArgs} {chip : ChipIdResult}
    (extracted : extractChipId ssl host args = .ok chip) :
    (args.teeType, chip.teeType) ∈ teeTypeCodes ∧
    ∀ {host' : Host} {args' : VerifyArgs}, SameEvidence host host' args args' →
      verifyEvidenceAndExtractChipId ssl host' args' = .ok chip.chipId := by
  unfold extractChipId at extracted
  unfold verifyEvidenceAndExtractChipId
  by_cases sgx : args.teeType = "sgx"
  · rw [if_pos sgx] at extracted
    unfold extractChipIdForSgx at extracted
    simp only [bind_eq_ok] at extracted
    obtain ⟨quote, read, chain, found, taken⟩ := extracted
    obtain ⟨ppid, code⟩ := ppidFromPckChain_eq_ok taken
    constructor
    · rw [sgx, code]
      decide
    · intro host' args' same
      rw [if_pos (same.teeType.trans sgx)]
      simp only [bind_eq_ok]
      exact ⟨quote, same.readFile read, chain, found, ppid⟩
  rw [if_neg sgx] at extracted
  by_cases tdx : args.teeType = "tdx"
  · rw [if_pos tdx] at extracted
    unfold extractChipIdForTdx at extracted
    simp only [bind_eq_ok] at extracted
    obtain ⟨quote, read, chain, found, taken⟩ := extracted
    obtain ⟨ppid, code⟩ := ppidFromPckChain_eq_ok taken
    constructor
    · rw [tdx, code]
      decide
    · intro host' args' same
      rw [same.teeType, if_neg sgx, if_pos tdx]
      simp only [bind_eq_ok]
      exact ⟨quote, same.readFile read, chain, found, ppid⟩
  rw [if_neg tdx] at extracted
  by_cases snp : args.teeType = "snp"
  · rw [if_pos snp] at extracted
    unfold extractChipIdForSnp at extracted
    simp only [bind_eq_ok] at extracted
    obtain ⟨result, verified, pub, _, returned⟩ := extracted
    cases returned
    constructor
    · change (args.teeType, Binding.kTeeTypeSevSnp) ∈ teeTypeCodes
      rw [snp]
      decide
    · intro host' args' same
      rw [same.teeType, if_neg sgx, if_neg tdx, if_pos snp]
      simp only [bind_eq_ok]
      exact ⟨result, same.snp snp verified, rfl⟩
  rw [if_neg snp] at extracted
  by_cases cca : args.teeType = "cca"
  · rw [if_pos cca] at extracted
    unfold extractChipIdForCca at extracted
    simp only [bind_eq_ok] at extracted
    obtain ⟨result, verified, returned⟩ := extracted
    cases returned
    constructor
    · change (args.teeType, Binding.kTeeTypeArmCca) ∈ teeTypeCodes
      rw [cca]
      decide
    · intro host' args' same
      rw [same.teeType, if_neg sgx, if_neg tdx, if_neg snp, if_pos cca]
      simp only [bind_eq_ok]
      exact ⟨result, same.cca verified, rfl⟩
  · rw [if_neg cca] at extracted
    simp at extracted

theorem Nid.oid_ne_binding (nid : Nid) : nid.oid ≠ Binding.kOidChipIdBinding := by
  cases nid <;> decide

/-- The extensions added after the skeleton leave its fields as they are, and
the ChipIdBinding is found among them. -/
theorem addExtensions_eq_ok {caCert skeleton cert : X509} {chip : ChipIdResult}
    (added : addExtensions ssl host caCert skeleton chip = .ok cert)
    (bare : skeleton.extensions = []) :
    ∃ bindingDer,
      Binding.encodeChipIdBinding host chip.teeType chip.chipId =
        .ok bindingDer ∧
      cert.extByObj Binding.kOidChipIdBinding =
        some ⟨Binding.kOidChipIdBinding, true, bindingDer⟩ ∧
      cert.issuer = skeleton.issuer ∧
      cert.notBefore = skeleton.notBefore ∧
      cert.notAfter = skeleton.notAfter := by
  unfold addExtensions at added
  simp only [bind_eq_ok] at added
  obtain ⟨first, firstAdded, second, secondAdded, third, thirdAdded, fourth,
    fourthAdded, bindingDer, encoded, bindingExt, made, _, _, returned⟩ := added
  obtain ⟨_, _, rfl⟩ := Pki.addV3Ext_eq_ok firstAdded
  obtain ⟨_, _, rfl⟩ := Pki.addV3Ext_eq_ok secondAdded
  obtain ⟨_, _, rfl⟩ := Pki.addV3Ext_eq_ok thirdAdded
  obtain ⟨_, _, rfl⟩ := Pki.addV3Ext_eq_ok fourthAdded
  unfold Binding.makeChipIdBindingExtension OpenSsl.makeOid at made
  simp only [bind_eq_ok] at made
  obtain ⟨oid, ⟨_, _, oidReturned⟩, _, _, _, _, _, _, extReturned⟩ := made
  cases oidReturned
  cases extReturned
  cases returned
  refine ⟨bindingDer, encoded, ?_, rfl, rfl, rfl⟩
  simp [X509.extByObj, bare, Nid.oid_ne_binding]

/-- What is known of an endorsement that provision issues. -/
structure Issued (ssl : OpenSsl) (host : Host) (args : ProvisionArgs)
    (chip : ChipIdResult) (caKey : EvpPkey) (caCert cert : X509) : Prop where
  ca : loadCa ssl host args = .ok (caKey, caCert)
  evidence : extractChipId ssl host args = .ok chip
  binding : ∃ bindingDer,
    Binding.encodeChipIdBinding host chip.teeType chip.chipId =
      .ok bindingDer ∧
    cert.extByObj Binding.kOidChipIdBinding =
      some ⟨Binding.kOidChipIdBinding, true, bindingDer⟩
  issuer : cert.issuer = caCert.subject
  notBefore : cert.notBefore = host.time
  notAfter : cert.notAfter = host.time + args.validityDays * 86400
  signed : ∃ unsigned md signature,
    ssl.x509Sign unsigned caKey md = some signature ∧
      cert = { unsigned with signature := signature }

theorem issueEndorsement_eq_ok {args : ProvisionArgs} {cert : X509}
    (issued : issueEndorsement ssl host args = .ok cert) :
    ∃ chip caKey caCert, Issued ssl host args chip caKey caCert cert := by
  unfold issueEndorsement at issued
  simp only [bind_eq_ok, nonNull_eq_ok] at issued
  obtain ⟨_, _, ⟨caKey, caCert⟩, ca, chip, evidence, skeleton, begun, extended,
    added, md, _, signature, signed, returned⟩ := issued
  cases returned
  unfold endorsementSkeleton at begun
  simp only [bind_eq_ok] at begun
  obtain ⟨_, _, _, _, sn, _, _, _, _, _, _, _, _, _, subject, _, _, _, _, _,
    begunReturned⟩ := begun
  cases begunReturned
  obtain ⟨bindingDer, encoded, found, issuer, notBefore, notAfter⟩ :=
    addExtensions_eq_ok added rfl
  exact ⟨chip, caKey, caCert, ca, evidence, ⟨bindingDer, encoded, found⟩, issuer,
    notBefore, notAfter, extended, md, signature, signed, rfl⟩

theorem runProvision_eq_ok {io : IoFaults} {args : ProvisionArgs}
    {files files' : FileSystem}
    (provisioned : (runProvision ssl host io args).exec files =
      (.ok (), files'))
    (noSilentLoss : ∀ data, (io.write args.outPath).losesSilently data = false) :
    ∃ cert pem mode, issueEndorsement ssl host args = .ok cert ∧
      ssl.pemWriteX509 cert = some pem ∧
      files' args.outPath = some ⟨pem, mode⟩ := by
  unfold runProvision at provisioned
  simp only [Run.exec_bind_eq_ok, Run.exec_liftExcept, Prod.mk.injEq]
    at provisioned
  obtain ⟨cert, _, ⟨issued, rfl⟩, pem, _, ⟨pemWritten, rfl⟩, written⟩ :=
    provisioned
  unfold Pki.pemCert at pemWritten
  simp only [bind_eq_ok, nonNull_eq_ok] at pemWritten
  obtain ⟨_, _, pemWritten⟩ := pemWritten
  refine ⟨cert, pem, 0o644, issued, pemWritten, ?_⟩
  have whole := noSilentLoss pem
  obtain ⟨_, writes, _, rfl⟩ := writeFile_eq_ok.mp written
  have sameData : (io.write args.outPath).written pem = pem := by
    simpa [WriteFate.losesSilently, writes] using whole
  rw [Function.update_self, sameData]

/-- The chain check accepts what the key of this CA has signed, until it
expires.  The certificate of the CA is then valid, too, and has CA:TRUE. -/
def AcceptsIssued (ssl : OpenSsl) (caCert : X509) (now : Int) : Prop :=
  ∀ (unsigned : X509) (caKey : EvpPkey) (md : Option Digest)
    (signature : Bytes),
    ssl.checkPrivateKey caCert caKey →
    ssl.x509Sign unsigned caKey md = some signature →
    unsigned.issuer = caCert.subject →
    unsigned.notBefore ≤ now → now < unsigned.notAfter →
    ssl.x509VerifyCert (orgChainContext { unsigned with signature := signature }
      caCert none) = none

/-- `verify` is given the endorsement that was written, the CA that issued it
and no CRL. -/
structure GivenIssued (host host' : Host) (args : ProvisionArgs)
    (args' : VerifyArgs) (files : FileSystem) : Prop where
  present : ArgsPresent args'
  noCrl : args'.crlPath = ""
  orgCert : ∃ file, files args.outPath = some file ∧
    host'.read args'.orgCertPath = .opened file.content false ∧
    file.content.length < 2 ^ 31
  orgCa : host'.read args'.orgCaPath = host.read args.caCertPath

theorem loadPemCert_written {cert : X509} {pem : Bytes} {path : String}
    (noFailure : ∀ context, ssl.callFails context = false)
    (readsMemory : ReadsMemory ssl) (roundTrip : PemRoundTrip ssl)
    (written : ssl.pemWriteX509 cert = some pem)
    (there : host.read path = .opened pem false)
    (short : pem.length < 2 ^ 31) :
    Pki.loadPemCert ssl host path = .ok cert := by
  have buffer : ssl.memBuf pem (toInt32 pem.length) = pem := by
    rw [toInt32_of_lt short, readsMemory, List.take_length]
  unfold Pki.loadPemCert Pki.readIntoBio
  simp only [bind_eq_ok, nonNull_eq_ok, readFile_eq_ok, call_eq_ok]
  refine ⟨pem, ⟨pem, there, (), noFailure _, ?_⟩, roundTrip cert pem written⟩
  rw [buffer]
  rfl

theorem Issued.loads_ca {args : ProvisionArgs} {chip : ChipIdResult}
    {caKey : EvpPkey} {caCert cert : X509}
    (issued : Issued ssl host args chip caKey caCert cert) :
    Pki.loadPemCert ssl host args.caCertPath = .ok caCert ∧
      ssl.checkPrivateKey caCert caKey := by
  have ca := issued.ca
  unfold loadCa at ca
  simp only [bind_eq_ok, refuse_eq_ok] at ca
  obtain ⟨key, _, loaded, certLoaded, owned, returned⟩ := ca
  cases returned
  exact ⟨certLoaded, by simpa using owned⟩

theorem Issued.verifyOrgChain_eq {args : ProvisionArgs} {chip : ChipIdResult}
    {caKey : EvpPkey} {caCert cert : X509} {now : Int}
    (issued : Issued ssl host args chip caKey caCert cert)
    (noFailure : ∀ context, ssl.callFails context = false)
    (accepts : AcceptsIssued ssl caCert now) (begun : host.time ≤ now)
    (notOver : now < host.time + args.validityDays * 86400) :
    verifyOrgChain ssl cert caCert none = .ok .ok := by
  obtain ⟨unsigned, md, signature, signed, certEq⟩ := issued.signed
  have issuer := issued.issuer
  have notBefore := issued.notBefore
  have notAfter := issued.notAfter
  rw [certEq] at issuer notBefore notAfter
  have accepted := accepts unsigned caKey md signature issued.loads_ca.2 signed
    issuer (notBefore.trans_le begun) (notOver.trans_eq notAfter.symm)
  rw [← certEq] at accepted
  unfold verifyOrgChain
  simp only [accepted, OpenSsl.call, noFailure]
  rfl

/-- An issued endorsement endorses the TEE type and the Chip ID it was issued
for, and nothing else. -/
theorem Issued.endorses_iff {args : ProvisionArgs} {chip : ChipIdResult}
    {caKey : EvpPkey} {caCert cert : X509}
    (issued : Issued ssl host args chip caKey caCert cert)
    (noFailure : ∀ context, ssl.callFails context = false)
    (reads : Binding.ReadsDerTlv ssl) (teeType : String)
    (chipId : Bytes) :
    Endorses ssl cert teeType chipId ↔
      teeType = args.teeType ∧ chipId = chip.chipId := by
  obtain ⟨bindingDer, encoded, found⟩ := issued.binding
  have extracted : Binding.extractChipIdBinding ssl cert =
      .ok ⟨chip.teeType, chip.chipId, host.generalizedTimeNowUtc⟩ := by
    rw [Binding.extractChipIdBinding_of_found noFailure found]
    exact Binding.decodeChipIdBinding_encode reads encoded
  have code := (extractChipId_eq_ok issued.evidence).1
  constructor
  · intro endorses
    obtain ⟨binding, extracted', listed, chipIdEq⟩ := endorses
    rw [extracted] at extracted'
    cases extracted'
    exact ⟨teeTypeCodes_injective listed code, chipIdEq.symm⟩
  · intro same
    rw [same.1, same.2]
    exact ⟨_, extracted, code, rfl⟩

/-- With an endorsement that provision issued, its CA and no CRL, verify returns
0 for the TEE type and Chip ID it was issued for and 22 for any other that its
evidence stage accepts; the evidence it was issued for is accepted. -/
theorem provision_verify_agree {ssl : OpenSsl} {now : Int}
    (noFailure : ∀ context, ssl.callFails context = false)
    (reads : Binding.ReadsDerTlv ssl)
    (readsMemory : ReadsMemory ssl) (roundTrip : PemRoundTrip ssl)
    {host : Host} {io : IoFaults} {args : ProvisionArgs}
    (accepts : ∀ caCert, Pki.loadPemCert ssl host args.caCertPath = .ok caCert →
      AcceptsIssued ssl caCert now)
    {files files' : FileSystem}
    (provisioned : (runProvision ssl host io args).exec files =
      (.ok (), files'))
    (noSilentLoss : ∀ data, (io.write args.outPath).losesSilently data = false)
    (begun : host.time ≤ now)
    (notOver : now < host.time + args.validityDays * 86400) :
    ∃ chip, extractChipId ssl host args = .ok chip ∧
      ∀ (host' : Host) (args' : VerifyArgs),
        GivenIssued host host' args args' files' →
        (∀ chipId, verifyEvidenceAndExtractChipId ssl host' args' = .ok chipId →
          runVerify ssl host' args' =
            if args'.teeType = args.teeType ∧ chipId = chip.chipId then 0
            else 22) ∧
        (SameEvidence host host' args args' →
          runVerify ssl host' args' = 0) := by
  obtain ⟨cert, pem, mode, issuedCert, pemWritten, there⟩ :=
    runProvision_eq_ok provisioned noSilentLoss
  obtain ⟨chip, caKey, caCert, issued⟩ := issueEndorsement_eq_ok issuedCert
  refine ⟨chip, issued.evidence, ?_⟩
  intro host' args' given
  obtain ⟨file, fileEq, certThere, short⟩ := given.orgCert
  rw [there] at fileEq
  cases fileEq
  have certLoaded : Pki.loadPemCert ssl host' args'.orgCertPath = .ok cert :=
    loadPemCert_written noFailure readsMemory roundTrip pemWritten certThere
      short
  have caLoaded : Pki.loadPemCert ssl host' args'.orgCaPath = .ok caCert :=
    loadPemCert_congr given.orgCa issued.loads_ca.1
  have chain := issued.verifyOrgChain_eq noFailure
    (accepts caCert issued.loads_ca.1) begun notOver
  have decided : ∀ chipId,
      verifyEvidenceAndExtractChipId ssl host' args' = .ok chipId →
      runVerify ssl host' args' =
        if args'.teeType = args.teeType ∧ chipId = chip.chipId then 0
        else 22 := by
    intro chipId evidence
    have reached : Reached ssl host' args' ⟨cert, caCert, none⟩ chipId :=
      ⟨given.present, ⟨certLoaded, caLoaded, fun _ => rfl, fun crlGiven =>
        (crlGiven given.noCrl).elim⟩, evidence⟩
    have codes := finish_codes ssl args' ⟨cert, caCert, none⟩ chipId
    have endorses := issued.endorses_iff noFailure reads args'.teeType chipId
    rw [reached.runVerify_eq]
    by_cases same : args'.teeType = args.teeType ∧ chipId = chip.chipId
    · rw [if_pos same]
      exact codes.1.mpr ⟨chain, endorses.mpr same⟩
    · rw [if_neg same]
      exact codes.2.2.2.2.1.mpr ⟨chain, fun matched =>
        same (endorses.mp matched)⟩
  refine ⟨decided, ?_⟩
  intro sameEvidence
  have evidence := (extractChipId_eq_ok issued.evidence).2 sameEvidence
  rw [decided chip.chipId evidence, if_pos ⟨sameEvidence.teeType, rfl⟩]

def sampleCaKey : EvpPkey := ⟨408, [3]⟩

def sampleCaCert : X509 where
  version := 2
  serialNumber := 1
  issuer := ⟨[("CN", "CA")]⟩
  subject := ⟨[("CN", "CA")]⟩
  notBefore := 0
  notAfter := 1000
  pubkey := some sampleCaKey
  extensions := []
  signature := []

def caPem : Bytes := ascii "-----CA-----"

def issuedPem : Bytes := ascii "-----ENDORSEMENT-----"

/-- The CA's certificate and, for any other text, a PCK chain are read from
PEM; a chain verifies when the trust anchor issued the leaf. -/
def issuingSsl : OpenSsl :=
  { sampleSsl (sampleCert 0 samplePpid) with
    pemReadPrivateKey := fun _ => some sampleCaKey
    pemReadX509 := fun bytes =>
      if bytes = caPem then [sampleCaCert]
      else [sampleCert 0 samplePpid, sampleRoot]
    groupName := fun _ => some "P-256"
    v3ExtConf := fun _ _ _ _ => some (true, [0x30, 0x00])
    x509Sign := fun _ _ _ => some [0x01]
    x509VerifyCert := fun context =>
      if context.trusted.any fun ca => ca.subject = context.leaf.issuer then none
      else some 20 }

def issuingHost : Host :=
  { sampleHost sampleSgxQuote with
    read := fun path =>
      if path = "ca.crt" then .opened caPem false
      else .opened sampleSgxQuote false }

def issuingArgs : ProvisionArgs where
  reportPath := "quote.dat"
  caKeyPath := "ca.key"
  caCertPath := "ca.crt"
  outPath := "endorsement.crt"

def issuedCert : X509 :=
  match issueEndorsement issuingSsl issuingHost issuingArgs with
  | .ok cert => cert
  | .error _ => sampleCaCert

def agreeingSsl : OpenSsl :=
  issuingSsl.withPem issuedCert issuedPem

def verifyingHost : Host :=
  { issuingHost with
    read := fun path =>
      if path = "endorsement.crt" then .opened issuedPem false
      else issuingHost.read path }

theorem agreeingSsl_acceptsIssued (caCert : X509) :
    AcceptsIssued agreeingSsl caCert 0 := by
  intro unsigned caKey md signature _ _ issuer _ _
  change (if ([caCert].any fun ca => decide (ca.subject = unsigned.issuer)) then
    none else some (20 : Int)) = none
  simp [issuer]

theorem agreeingSsl_provisions :
    (runProvision agreeingSsl issuingHost .none issuingArgs).exec
        (fun _ => none) =
      (.ok (), Function.update (fun _ => none) "endorsement.crt"
        (some ⟨issuedPem, 0o644⟩)) := by
  have issued : issueEndorsement agreeingSsl issuingHost issuingArgs =
      .ok issuedCert := by
    decide +kernel
  have pem : Pki.pemCert agreeingSsl issuedCert = .ok issuedPem := by
    decide +kernel
  unfold runProvision
  rw [Run.exec_bind, Run.exec_liftExcept, issued]
  simp only
  rw [Run.exec_bind, Run.exec_liftExcept, pem]
  simp only [writeFile_exec]
  rfl

theorem provision_verify_agree_sample :
    runVerify agreeingSsl verifyingHost (sampleArgs "quote.dat") = 0 := by
  obtain ⟨chip, _, runs⟩ := provision_verify_agree (fun _ => rfl)
    (Binding.readObject_readsDerTlv rfl) (fun _ _ => rfl)
    (withPem_roundTrip _ _ _) (fun caCert _ => agreeingSsl_acceptsIssued caCert)
    agreeingSsl_provisions
    (WriteFate.losesSilently_none 0) (by decide) (by decide)
  apply (runs verifyingHost (sampleArgs "quote.dat") _).2
  · exact ⟨rfl, rfl, fun _ => by decide +kernel, rfl⟩
  · exact ⟨⟨by decide, by decide, by decide, by decide, by decide⟩, rfl,
      ⟨⟨issuedPem, 0o644⟩, rfl, rfl, by decide⟩, rfl⟩

end TeeAnchor.ProvisionVerify
