import TeeAnchor.CrlOption
import TeeAnchor.Histories
import TeeAnchor.ProvisionVerify

/-!
# Accepted endorsements were issued

Whatever becomes of the files between the runs, `verify` accepts a machine only
with an endorsement that an earlier run of `provision` had the CA sign, for the
TEE type and the Chip ID that the vendor's evidence named then and names now.
The CA's own certificate is signed with the same key and is not accepted,
because it has no ChipIdBinding.
-/

namespace TeeAnchor

open Provision Verify ProvisionVerify

def Command.signs (ssl : OpenSsl) (env : Environment) (files : FileSystem) :
    Command → Option X509
  | .caInit args =>
      let made : Result X509 := do
        Ca.checkCaInitArgs args
        Ca.refuseExisting args env.statFails files
        let (_, cert) ← Ca.newCa (env.library ssl) (env.host files) args
        return cert
      made.toOption
  | .provision args =>
      (issueEndorsement (env.library ssl) (env.host files) args).toOption
  | _ => none

def Event.signs (ssl : OpenSsl) (files : FileSystem) : Event → List X509
  | .run env argv =>
      match request argv with
      | .exit _ => []
      | .run command => (command.signs ssl env files).toList
  | .other _ => []

/-- The certificates signed in a history. -/
def signedIn (ssl : OpenSsl) : List Event → FileSystem → List X509
  | [], _ => []
  | event :: history, files =>
      event.signs ssl files ++ signedIn ssl history (event.step ssl files)

/-- What the signature of a certificate is for. -/
def X509.toBeSigned (cert : X509) : X509 :=
  { cert with signature := [] }

/-- The chain check accepts the CA's certificate and what these runs have
signed, since nobody else has a key of the CA.  Of one ECDSA signature others
can be made that verify, too. -/
def OnlySigned (verifyCert : VerifyContext → Option Int) (caCert : X509)
    (signed : List X509) : Prop :=
  ∀ leaf crl, verifyCert (orgChainContext leaf caCert crl) = none →
    leaf.toBeSigned = caCert.toBeSigned ∨
      ∃ cert ∈ signed, cert.toBeSigned = leaf.toBeSigned

variable {ssl : OpenSsl} {history : List Event} {files : FileSystem}

theorem mem_signedIn {cert : X509} :
    cert ∈ signedIn ssl history files ↔
      ∃ before event after, history = before ++ event :: after ∧
        cert ∈ event.signs ssl (leaving ssl before files) := by
  induction history generalizing files with
  | nil => simp [signedIn]
  | cons first history ih =>
      rw [signedIn, List.mem_append, ih]
      constructor
      · rintro (here | ⟨before, event, after, rfl, later⟩)
        · exact ⟨[], first, history, rfl, here⟩
        · exact ⟨first :: before, event, after, rfl, later⟩
      · rintro ⟨before, event, after, split, signs⟩
        cases before with
        | nil =>
            cases split
            exact Or.inl signs
        | cons other before =>
            cases split
            exact Or.inr ⟨before, event, after, rfl, signs⟩

theorem toOption_eq_some {α : Type} {result : Result α} {value : α} :
    result.toOption = some value ↔ result = .ok value := by
  cases result with
  | error failure => simp [Except.toOption]
  | ok other => simp [Except.toOption]

theorem newCa_binds_nothing {library : OpenSsl} {host : Host}
    {args : Ca.CaInitArgs} {pkey : EvpPkey} {cert : X509}
    (made : Ca.newCa library host args = .ok (pkey, cert)) :
    cert.extByObj Binding.kOidChipIdBinding = none := by
  unfold Ca.newCa at made
  simp only [bind_eq_ok] at made
  obtain ⟨generated, _, skeleton, begun, extended, added, _, _, signature, _,
    returned⟩ := made
  cases returned
  unfold Ca.caSkeleton at begun
  simp only [bind_eq_ok] at begun
  obtain ⟨_, _, _, _, sn, _, _, _, _, _, _, _, name, _, _, _, _, _, _, _,
    begunReturned⟩ := begun
  cases begunReturned
  unfold Ca.addCaExtensions at added
  simp only [bind_eq_ok] at added
  obtain ⟨first, firstAdded, second, secondAdded, thirdAdded⟩ := added
  obtain ⟨_, _, rfl⟩ := Pki.addV3Ext_eq_ok firstAdded
  obtain ⟨_, _, rfl⟩ := Pki.addV3Ext_eq_ok secondAdded
  obtain ⟨_, _, rfl⟩ := Pki.addV3Ext_eq_ok thirdAdded
  simp [X509.extByObj, Nid.oid_ne_binding]

/-- The key of an endorsement is the one the evidence was checked with, and its
serial number is the random one. -/
theorem issueEndorsement_fields {library : OpenSsl} {host : Host}
    {args : ProvisionArgs} {chip : ChipIdResult} {cert : X509}
    (evidence : extractChipId library host args = .ok chip)
    (issued : issueEndorsement library host args = .ok cert) :
    cert.pubkey = some chip.subjectPubkey ∧
      cert.serialNumber = host.randomSerial := by
  unfold issueEndorsement at issued
  simp only [bind_eq_ok] at issued
  obtain ⟨_, _, ⟨caKey, caCert⟩, _, other, evidence', skeleton, begun, extended,
    added, md, _, signature, _, returned⟩ := issued
  cases evidence.symm.trans evidence'
  cases returned
  unfold endorsementSkeleton at begun
  simp only [bind_eq_ok] at begun
  obtain ⟨_, _, _, _, sn, drawn, _, _, _, _, _, _, _, _, subject, _, _, _, _,
    _, begunReturned⟩ := begun
  cases begunReturned
  have isRandom : sn = host.randomSerial := by
    unfold Pki.randomSerial at drawn
    simp only [bind_eq_ok] at drawn
    obtain ⟨_, _, _, _, _, _, _, _, returned⟩ := drawn
    exact (Except.ok.inj returned).symm
  unfold addExtensions at added
  simp only [bind_eq_ok] at added
  obtain ⟨first, firstAdded, second, secondAdded, third, thirdAdded, fourth,
    fourthAdded, bindingDer, _, bindingExt, _, _, _, addedReturned⟩ := added
  obtain ⟨_, _, rfl⟩ := Pki.addV3Ext_eq_ok firstAdded
  obtain ⟨_, _, rfl⟩ := Pki.addV3Ext_eq_ok secondAdded
  obtain ⟨_, _, rfl⟩ := Pki.addV3Ext_eq_ok thirdAdded
  obtain ⟨_, _, rfl⟩ := Pki.addV3Ext_eq_ok fourthAdded
  cases addedReturned
  exact ⟨rfl, isRandom⟩

/-- A binding that is read from a certificate is the one of its first
extension of that kind. -/
theorem extractChipIdBinding_eq_ok {library : OpenSsl} {cert : X509}
    {binding : Binding.ChipIdBinding}
    (extracted : Binding.extractChipIdBinding library cert = .ok binding) :
    ∃ ext, cert.extByObj Binding.kOidChipIdBinding = some ext ∧
      Binding.decodeChipIdBinding library ext.value = .ok binding := by
  unfold Binding.extractChipIdBinding OpenSsl.makeOid at extracted
  simp only [bind_eq_ok] at extracted
  obtain ⟨oid, ⟨_, _, returned⟩, found⟩ := extracted
  cases returned
  split at found
  · simp at found
  · rename_i ext present
    exact ⟨ext, present, found⟩

/-- An endorsement endorses what it was issued for and nothing else, also when
it is read with another library and calls can fail. -/
theorem issued_endorses {library reader : OpenSsl} {host : Host}
    {args : ProvisionArgs} {chip : ChipIdResult} {caKey : EvpPkey}
    {caCert cert : X509}
    (issued : Issued library host args chip caKey caCert cert)
    (reads : Binding.ReadsDerTlv reader) {teeType : String}
    {chipId : Bytes} (endorses : Endorses reader cert teeType chipId) :
    teeType = args.teeType ∧ chipId = chip.chipId := by
  obtain ⟨binding, extracted, listed, rfl⟩ := endorses
  obtain ⟨ext, present, decoded⟩ := extractChipIdBinding_eq_ok extracted
  obtain ⟨bindingDer, encoded, found⟩ := issued.binding
  cases found.symm.trans present
  rw [Binding.decodeChipIdBinding_encode reads encoded] at decoded
  cases decoded
  exact ⟨teeTypeCodes_injective listed (extractChipId_eq_ok issued.evidence).1,
    rfl⟩

/-- What a certificate binds, and the key it is for, are signed. -/
theorem signed_part {reader : OpenSsl} {cert other : X509}
    (same : cert.toBeSigned = other.toBeSigned) :
    cert.extByObj = other.extByObj ∧ cert.pubkey = other.pubkey ∧
      Endorses reader cert = Endorses reader other := by
  have extByObj := congrArg X509.extByObj same
  have pubkey := congrArg X509.pubkey same
  have endorses := congrArg (Endorses reader) same
  exact ⟨extByObj, pubkey, endorses⟩

theorem Verify.Endorses.binds {reader : OpenSsl} {cert : X509}
    {teeType : String} {chipId : Bytes}
    (endorses : Endorses reader cert teeType chipId) :
    cert.extByObj Binding.kOidChipIdBinding ≠ none := by
  obtain ⟨binding, extracted, _⟩ := endorses
  obtain ⟨ext, present, _⟩ := extractChipIdBinding_eq_ok extracted
  simp [present]

/-- What endorses is not the certificate of a CA. -/
theorem Verify.Endorses.ne_bare {reader : OpenSsl} {cert caCert : X509}
    {teeType : String} {chipId : Bytes}
    (endorses : Endorses reader cert teeType chipId)
    (bare : caCert.extByObj Binding.kOidChipIdBinding = none) :
    cert.toBeSigned ≠ caCert.toBeSigned := by
  intro isCa
  have binds := endorses.binds
  rw [(@signed_part reader _ _ isCa).1] at binds
  exact binds bare

theorem exec_verify {env : Environment} {argv : List String} {args : VerifyArgs}
    {code : Nat} (asked : request argv = .run (.verify args))
    (returned : ((main ssl env argv).exec files).1 = .ok code) :
    runVerify (env.library ssl) (env.host files) args = code := by
  rw [main_exec, asked] at returned
  exact Except.ok.inj returned

/-- What has passed when a machine is accepted under a CA. -/
theorem of_accepted {env : Environment} {argv : List String} {args : VerifyArgs}
    {caCert : X509} (asked : request argv = .run (.verify args))
    (accepted : ((main ssl env argv).exec files).1 = .ok 0)
    (caLoaded : Pki.loadPemCert (env.library ssl) (env.host files)
      args.orgCaPath = .ok caCert) :
    ∃ inputs chipId,
      Reached (env.library ssl) (env.host files) args inputs chipId ∧
      env.x509VerifyCert (orgChainContext inputs.orgCert caCert inputs.orgCrl) =
        none ∧
      Endorses (env.library ssl) inputs.orgCert args.teeType chipId := by
  obtain ⟨inputs, chipId, reached, chain, endorses⟩ :=
    runVerify_eq_zero_iff.mp (exec_verify asked accepted)
  have sameCa : inputs.orgCa = caCert :=
    Except.ok.inj (reached.loaded.orgCa.symm.trans caLoaded)
  have verified := verifyOrgChain_ok chain
  rw [sameCa] at verified
  exact ⟨inputs, chipId, reached, verified, endorses⟩

/-- An endorsement signed in a history was signed by one of its `provision`
runs. -/
theorem provisioned_of_signed {cert : X509}
    (signed : cert ∈ signedIn ssl history files)
    (binds : cert.extByObj Binding.kOidChipIdBinding ≠ none) :
    ∃ before env argv after args, history = before ++ .run env argv :: after ∧
      request argv = .run (.provision args) ∧
      issueEndorsement (env.library ssl)
        (env.host (leaving ssl before files)) args = .ok cert := by
  obtain ⟨before, event, after, rfl, signs⟩ := mem_signedIn.mp signed
  cases event with
  | other change => cases signs
  | run env argv =>
      cases asked : request argv with
      | exit code =>
          simp only [Event.signs, asked] at signs
          cases signs
      | run command =>
          simp only [Event.signs, asked, Option.mem_toList] at signs
          cases command with
          | provision args =>
              exact ⟨before, env, argv, after, args, rfl, asked,
                toOption_eq_some.mp signs⟩
          | caInit args =>
              exfalso
              have made := toOption_eq_some.mp signs
              simp only [bind_eq_ok] at made
              obtain ⟨_, _, _, _, ⟨pkey, other⟩, new, returned⟩ := made
              cases returned
              exact binds (newCa_binds_nothing new)
          | revoke args => cases signs
          | crlIssue args => cases signs
          | verify args => cases signs

/-- A machine is accepted only with an endorsement that a run of `provision` in
the history had the CA sign, when the vendor's evidence named the same TEE type
and the same Chip ID.  Only its signature can be another one. -/
theorem accepted_was_provisioned {env : Environment} {argv : List String}
    {args : VerifyArgs} {caCert : X509}
    (asked : request argv = .run (.verify args))
    (accepted : ((main ssl env argv).exec (leaving ssl history files)).1 =
      .ok 0)
    (reads : Binding.ReadsDerTlv ssl)
    (caLoaded : Pki.loadPemCert (env.library ssl)
      (env.host (leaving ssl history files)) args.orgCaPath = .ok caCert)
    (bare : caCert.extByObj Binding.kOidChipIdBinding = none)
    (onlySigned : OnlySigned env.x509VerifyCert caCert
      (signedIn ssl history files)) :
    ∃ before env' argv' after args' cert orgCert chip,
      history = before ++ .run env' argv' :: after ∧
      request argv' = .run (.provision args') ∧
      issueEndorsement (env'.library ssl)
        (env'.host (leaving ssl before files)) args' = .ok cert ∧
      Pki.loadPemCert (env.library ssl)
        (env.host (leaving ssl history files)) args.orgCertPath = .ok orgCert ∧
      orgCert.toBeSigned = cert.toBeSigned ∧
      args'.teeType = args.teeType ∧
      extractChipId (env'.library ssl) (env'.host (leaving ssl before files))
        args' = .ok chip ∧
      verifyEvidenceAndExtractChipId (env.library ssl)
        (env.host (leaving ssl history files)) args = .ok chip.chipId ∧
      orgCert.pubkey = some chip.subjectPubkey := by
  obtain ⟨inputs, chipId, reached, verified, endorses⟩ :=
    of_accepted asked accepted caLoaded
  obtain ⟨cert, signed, same⟩ :=
    (onlySigned _ _ verified).resolve_left (endorses.ne_bare bare)
  have parts := @signed_part (env.library ssl) _ _ same
  rw [← parts.2.2] at endorses
  obtain ⟨before, env', argv', after, args', split, provisions, issued⟩ :=
    provisioned_of_signed signed endorses.binds
  obtain ⟨chip, caKey, issuer, facts⟩ := issueEndorsement_eq_ok issued
  obtain ⟨sameType, sameChip⟩ := issued_endorses facts
    (show Binding.ReadsDerTlv (env.library ssl) from reads) endorses
  refine ⟨before, env', argv', after, args', cert, inputs.orgCert, chip, split,
    provisions, issued, reached.loaded.orgCert, same.symm, sameType.symm,
    facts.evidence, ?_, ?_⟩
  · rw [← sameChip]
    exact reached.evidence
  · rw [← parts.2.1]
    exact (issueEndorsement_fields facts.evidence issued).1

def samplePlace : Environment where
  io := .none
  statFails _ := false
  time := 0
  generalizedTimeNowUtc := ascii "20260101000000Z"
  randomSerial := 7
  storage := .unlimited
  callFails _ := false
  errorString _ := none
  ecGen _ := none
  x509Sign := issuingSsl.x509Sign
  x509CrlSign _ _ _ := none
  x509VerifyCert context :=
    if context.trusted = [sampleCaCert] then
      if context.leaf = sampleCaCert ∨ context.leaf = issuedCert then none
      else some 20
    else issuingSsl.x509VerifyCert context

def sampleFiles : FileSystem := fun path =>
  if path = "ca.crt" then some ⟨caPem, 0o644⟩
  else if path = "endorsement.crt" then none
  else some ⟨sampleSgxQuote, 0o644⟩

def provisionArgv : List String :=
  ["provision", "--report", "quote.dat", "--ca-key", "ca.key", "--ca-cert",
    "ca.crt", "--out", "endorsement.crt"]

def verifyArgv : List String :=
  ["verify", "--report", "quote.dat", "--org-cert", "endorsement.crt",
    "--org-ca", "ca.crt"]

/-- An endorsement is issued, and then the key of the CA is taken away. -/
def issuingHistory : List Event :=
  [.run samplePlace provisionArgv,
    .other fun files => Function.update files "ca.key" none]

theorem samplePlace_onlySigned :
    OnlySigned samplePlace.x509VerifyCert sampleCaCert
      (signedIn agreeingSsl issuingHistory sampleFiles) := by
  have isSigned : issuedCert ∈
      signedIn agreeingSsl issuingHistory sampleFiles := by
    decide +kernel
  intro leaf crl verified
  simp only [samplePlace, orgChainContext, if_true] at verified
  split at verified
  · rename_i known
    rcases known with isCa | isIssued
    · exact Or.inl (congrArg X509.toBeSigned isCa)
    · exact Or.inr ⟨issuedCert, isSigned, by rw [isIssued]⟩
  · cases verified

theorem accepted_was_provisioned_sample :
    ∃ before env' argv' after args' cert, ∃ orgCert : X509,
      ∃ chip : ChipIdResult,
      issuingHistory = before ++ .run env' argv' :: after ∧
      request argv' = .run (.provision args') ∧
      issueEndorsement (env'.library agreeingSsl)
        (env'.host (leaving agreeingSsl before sampleFiles)) args' =
          .ok cert ∧
      orgCert.toBeSigned = cert.toBeSigned ∧ args'.teeType = "sgx" ∧
      orgCert.pubkey = some chip.subjectPubkey := by
  obtain ⟨before, env', argv', after, args', cert, orgCert, chip, split, asked,
    issued, _, same, sameType, _, _, pubkey⟩ :=
    @accepted_was_provisioned agreeingSsl issuingHistory sampleFiles
      samplePlace verifyArgv
      (sampleArgs "quote.dat") sampleCaCert rfl (by decide +kernel)
      (Binding.readObject_readsDerTlv rfl) (by decide +kernel) rfl
      samplePlace_onlySigned
  exact ⟨before, env', argv', after, args', cert, orgCert, chip, split, asked,
    issued, same, sameType, pubkey⟩

end TeeAnchor
