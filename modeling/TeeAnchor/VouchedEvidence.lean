import TeeAnchor.AcceptedEndorsements
import TeeAnchor.CcaSignedContent
import TeeAnchor.PpidShape
import TeeAnchor.SnpChip

/-!
# Evidence that a vendor vouches for

The keys that all evidence is checked with in the end are held by the code:
Intel's root, AMD's roots and the CPAK.  If the library cannot be deceived about
the owners of these keys, a Chip ID that is taken from evidence is one that the
vendor of this TEE type has signed, and so is each key that is endorsed.
-/

namespace TeeAnchor

open Provision Verify ProvisionVerify

/-- What the vendors have issued for a machine under their roots, and what a
machine has signed with a key. -/
structure Vendors (Machine : Type) where
  pckLeaf : Machine → X509 → Prop
  vcek : Machine → X509 → Prop
  signed : Machine → EvpPkey → Bytes → Prop

/-- The library verifies nothing that was not issued or signed, and the key of a
VCEK is held by its machine alone. -/
structure Vendors.Unforged {Machine : Type} (vendors : Vendors Machine)
    (ssl : OpenSsl) : Prop where
  intel : ∀ root pkey leaf untrusted, root.pubkey = some pkey →
    ssl.ecPublicPoint pkey = some Sgx.kIntelSgxRootPubkey →
    ssl.x509VerifyCert ⟨[root], [], false, false, leaf, untrusted⟩ = none →
    ∃ machine, vendors.pckLeaf machine leaf
  amd : ∀ ark pkey pin vcek untrusted, ark.pubkey = some pkey →
    pin ∈ Snp.kAmdArkPins → ssl.sha384 pkey.spki = pin.2 →
    ssl.x509VerifyCert ⟨[ark], [], false, false, vcek, untrusted⟩ = none →
    ∃ machine, vendors.vcek machine vcek
  report : ∀ machine vcek pkey r s msg, vendors.vcek machine vcek →
    vcek.pubkey = some pkey → ssl.ecdsaSha384Verify pkey r s msg = 1 →
    vendors.signed machine pkey msg
  token : ∀ pkey r s msg, ssl.d2iPubkey Cca.kCpakSpkiDer = some pkey →
    ssl.ecdsaSha384Verify pkey r s msg = 1 →
    ∃ machine, vendors.signed machine pkey msg

/-- The vendor of a TEE type names a Chip ID of a machine together with a
key. -/
inductive Vouched {Machine : Type} (vendors : Vendors Machine) (ssl : OpenSsl)
    (machine : Machine) : String → Bytes → Option EvpPkey → Prop
  | sgx {leaf : X509} {value : Bytes} (issued : vendors.pckLeaf machine leaf)
      (ppid : Sgx.PpidValue ssl leaf value) :
      Vouched vendors ssl machine "sgx" (Sgx.valueContent ssl value)
        leaf.pubkey
  | tdx {leaf : X509} {value : Bytes} (issued : vendors.pckLeaf machine leaf)
      (ppid : Sgx.PpidValue ssl leaf value) :
      Vouched vendors ssl machine "tdx" (Sgx.valueContent ssl value)
        leaf.pubkey
  | snp {vcek : X509} {pkey : EvpPkey} {message : Bytes}
      (issued : vendors.vcek machine vcek) (hasKey : vcek.pubkey = some pkey)
      (signed : vendors.signed machine pkey message)
      (length : message.length = 0x2A0)
      (notMasked : ∃ byte ∈ field message 0x1A0 64, byte ≠ 0) :
      Vouched vendors ssl machine "snp" (field message 0x1A0 64) (some pkey)
  | cca {pkey : EvpPkey} {protectedB payloadB instanceId : Bytes}
      {implementationId : Bytes}
      (pinned : ssl.d2iPubkey Cca.kCpakSpkiDer = some pkey)
      (signed : vendors.signed machine pkey
        (Cca.sigStructure protectedB payloadB))
      (claims : Cca.extractClaims .unlimited payloadB =
        .ok (instanceId, implementationId)) :
      Vouched vendors ssl machine "cca" instanceId (some pkey)

variable {Machine : Type} {vendors : Vendors Machine} {ssl : OpenSsl}
  {host : Host}

/-- A leaf that passes was verified with the root as only trust anchor. -/
theorem Sgx.verifyLeaf_eq_ok {root leaf : X509} {untrusted : List X509}
    {done : Unit} (passes : Sgx.verifyLeaf ssl root leaf untrusted = .ok done) :
    ssl.x509VerifyCert ⟨[root], [], false, false, leaf, untrusted⟩ = none := by
  unfold Sgx.verifyLeaf at passes
  simp only [bind_eq_ok] at passes
  obtain ⟨_, _, _, _, _, _, passes⟩ := passes
  cases verdict : ssl.x509VerifyCert
      ⟨[root], [], false, false, leaf, untrusted⟩ with
  | none => rfl
  | some err =>
      split at passes
      · simp only [bind_eq_ok] at passes
        obtain ⟨_, _, _, _, _, _, passes⟩ := passes
        simp [verdict] at passes
      · simp only [bind_eq_ok] at passes
        obtain ⟨_, _, _, _, passes⟩ := passes
        simp [verdict] at passes

/-- A PCK chain that is verified ends in a root with Intel's key. -/
theorem Sgx.verifyPckChain_eq_ok {certs : List X509} {leaf : X509}
    (verified : Sgx.verifyPckChain ssl certs = .ok leaf) :
    ∃ root pkey untrusted, root.pubkey = some pkey ∧
      ssl.ecPublicPoint pkey = some Sgx.kIntelSgxRootPubkey ∧
      ssl.x509VerifyCert ⟨[root], [], false, false, leaf, untrusted⟩ =
        none := by
  unfold Sgx.verifyPckChain at verified
  rw [refuse_eq_ok] at verified
  obtain ⟨_, verified⟩ := verified
  dsimp only at verified
  split at verified
  · cases verified
  rename_i root _
  rw [bind_eq_ok] at verified
  obtain ⟨_, rootKey, verified⟩ := verified
  split at verified
  · cases verified
  rename_i found _
  rw [bind_eq_ok] at verified
  obtain ⟨_, passes, returned⟩ := verified
  cases returned
  unfold Sgx.checkRootKey Sgx.getEcPubkeyUncompressed at rootKey
  simp only [bind_eq_ok, OpenSsl.nonNull_eq_ok] at rootKey
  obtain ⟨point, ⟨pkey, hasKey, pub, hasPoint, _, _, same⟩, pinned⟩ := rootKey
  cases same
  have isPinned := (refuse_last_eq_ok.mp pinned).1
  rw [not_not] at isPinned
  exact ⟨root.1, pkey, _, hasKey, isPinned ▸ hasPoint,
    Sgx.verifyLeaf_eq_ok passes⟩

/-- The PPID of a verified chain is one of a certificate that Intel issued. -/
theorem vouched_of_pckChain (unforged : vendors.Unforged ssl)
    {certs : List X509} {leaf : X509} {ppid : Bytes}
    (verified : Sgx.verifyPckChain ssl certs = .ok leaf)
    (found : Sgx.findSgxExtensionOctet ssl leaf Sgx.oidSgxPpid =
      .ok (some ppid)) :
    ∃ machine, Vouched vendors ssl machine "sgx" ppid leaf.pubkey ∧
      Vouched vendors ssl machine "tdx" ppid leaf.pubkey := by
  obtain ⟨root, pkey, untrusted, hasKey, isIntel, passes⟩ :=
    Sgx.verifyPckChain_eq_ok verified
  obtain ⟨_, value, isValue, _, rfl⟩ :=
    Sgx.findSgxExtensionOctet_eq_some.mp found
  obtain ⟨machine, issued⟩ :=
    unforged.intel root pkey leaf untrusted hasKey isIntel passes
  exact ⟨machine, .sgx issued isValue, .tdx issued isValue⟩

/-- An accepted report was signed by a chip that AMD issued a certificate for,
and the Chip ID is among the signed bytes. -/
theorem vouched_of_report (unforged : vendors.Unforged ssl)
    {reportPath certsDir : String} {result : Snp.SnpVerifyResult}
    (accepted : Snp.verifyAndExtract ssl host reportPath certsDir =
      .ok result) :
    ∃ machine,
      Vouched vendors ssl machine "snp" result.chipId result.vcek.pubkey := by
  obtain ⟨report, chain, checked, extracted, _, returned⟩ :=
    Snp.verifyAndExtract_eq_ok.mp accepted
  obtain ⟨ark, _, digest, _, _, _, digested, pinned, passes⟩ :=
    Snp.verifyVcekChain_eq_ok checked.verified
  obtain ⟨pkey, hasKey, _, verifies⟩ :=
    Snp.verifyReportSignature_eq_ok checked.signature
  obtain ⟨_, notMasked, chipIdEq⟩ :=
    Snp.extractChipIdFromReport_eq_ok.mp extracted
  unfold Pki.pubkeySpkiSha384 at digested
  simp only [bind_eq_ok, OpenSsl.nonNull_eq_ok] at digested
  obtain ⟨arkKey, arkHasKey, _, _, _, _, same⟩ := digested
  obtain ⟨machine, issued⟩ := unforged.amd ark arkKey _ chain.vcek _ arkHasKey
    pinned (Except.ok.inj same) passes
  have isChain : result.vcek = chain.vcek := by rw [returned]
  rw [Snp.reportChipId_eq] at notMasked chipIdEq
  rw [chipIdEq, isChain, hasKey]
  refine ⟨machine, .snp issued hasKey
    (unforged.report machine _ _ _ _ _ issued hasKey verifies) ?_ notMasked⟩
  rw [List.length_take, checked.length]
  rfl

theorem Cca.verifyEs384_eq_ok {pk : EvpPkey} {msg rawSig : Bytes}
    (verified : Cca.verifyEs384 ssl pk msg rawSig = .ok true) :
    ∃ r s, ssl.ecdsaSha384Verify pk r s msg = 1 := by
  unfold Cca.verifyEs384 at verified
  rw [refuse_eq_ok] at verified
  obtain ⟨_, verified⟩ := verified
  simp only [bind_eq_ok] at verified
  obtain ⟨_, _, _, _, _, _, _, _, _, _, _, _, _, _, verified⟩ := verified
  refine ⟨beNat (rawSig.take 48), beNat (rawSig.drop 48), ?_⟩
  by_contra refused
  split at verified
  · cases verified
  · simp [refused, pure, Except.pure] at verified

/-- The identifier of an accepted token is in a payload that the owner of the
CPAK has signed. -/
theorem vouched_of_token (unforged : vendors.Unforged ssl) {tokenPath : String}
    {result : Cca.CcaVerifyResult}
    (accepted : Cca.verifyAndExtract ssl host tokenPath = .ok result) :
    ∃ machine,
      Vouched vendors ssl machine "cca" result.instanceId
        (some result.cpak) := by
  unfold Cca.verifyAndExtract at accepted
  rw [bind_eq_ok] at accepted
  obtain ⟨tok, _, accepted⟩ := accepted
  obtain ⟨parts, _, loaded, verified, claims⟩ :=
    Cca.verifyToken_eq_ok.mp accepted
  obtain ⟨r, s, verifies⟩ := Cca.verifyEs384_eq_ok verified
  have pinned := OpenSsl.nonNull_eq_ok.mp loaded
  obtain ⟨machine, signed⟩ := unforged.token _ r s _ pinned verifies
  exact ⟨machine, .cca pinned signed (Cca.extractClaims_unlimited claims)⟩

/-- What `verify` takes from evidence, the vendor of the TEE type vouches
for. -/
theorem vouched_of_verify (unforged : vendors.Unforged ssl) {args : VerifyArgs}
    {chipId : Bytes}
    (extracted : verifyEvidenceAndExtractChipId ssl host args = .ok chipId) :
    ∃ machine key, Vouched vendors ssl machine args.teeType chipId key := by
  unfold verifyEvidenceAndExtractChipId at extracted
  split at extracted
  · rename_i isSgx
    simp only [bind_eq_ok, Sgx.ppidFromPckChain_eq_ok] at extracted
    obtain ⟨_, _, _, _, leaf, verified, found⟩ := extracted
    obtain ⟨machine, vouched, _⟩ := vouched_of_pckChain unforged verified found
    exact ⟨machine, _, isSgx ▸ vouched⟩
  split at extracted
  · rename_i isTdx
    simp only [bind_eq_ok, Sgx.ppidFromPckChain_eq_ok] at extracted
    obtain ⟨_, _, _, _, leaf, verified, found⟩ := extracted
    obtain ⟨machine, _, vouched⟩ := vouched_of_pckChain unforged verified found
    exact ⟨machine, _, isTdx ▸ vouched⟩
  split at extracted
  · rename_i isSnp
    rw [bind_eq_ok] at extracted
    obtain ⟨result, accepted, returned⟩ := extracted
    cases returned
    obtain ⟨machine, vouched⟩ := vouched_of_report unforged accepted
    exact ⟨machine, _, isSnp ▸ vouched⟩
  split at extracted
  · rename_i isCca
    rw [bind_eq_ok] at extracted
    obtain ⟨result, accepted, returned⟩ := extracted
    cases returned
    obtain ⟨machine, vouched⟩ := vouched_of_token unforged accepted
    exact ⟨machine, _, isCca ▸ vouched⟩
  · cases extracted

theorem vouched_of_chipIdFromPckChain (unforged : vendors.Unforged ssl)
    {chain : List X509} {teeType : UInt8} {chip : ChipIdResult}
    (taken : chipIdFromPckChain ssl chain teeType = .ok chip) :
    ∃ machine,
      Vouched vendors ssl machine "sgx" chip.chipId (some chip.subjectPubkey) ∧
      Vouched vendors ssl machine "tdx" chip.chipId
        (some chip.subjectPubkey) := by
  unfold chipIdFromPckChain at taken
  rw [bind_eq_ok] at taken
  obtain ⟨leaf, verified, rest⟩ := taken
  obtain ⟨ppid, found, rest⟩ := Sgx.find_bind_eq_ok.mp rest
  obtain ⟨pub, hasKey, returned⟩ := bind_eq_ok.mp rest
  cases returned
  rw [← OpenSsl.nonNull_eq_ok.mp hasKey]
  exact vouched_of_pckChain unforged verified found

/-- Provision takes a Chip ID together with the key that it endorses. -/
theorem vouched_of_provision (unforged : vendors.Unforged ssl)
    {args : ProvisionArgs} {chip : ChipIdResult}
    (extracted : extractChipId ssl host args = .ok chip) :
    ∃ machine, Vouched vendors ssl machine args.teeType chip.chipId
      (some chip.subjectPubkey) := by
  unfold extractChipId at extracted
  split at extracted
  · rename_i isSgx
    unfold extractChipIdForSgx at extracted
    simp only [bind_eq_ok] at extracted
    obtain ⟨_, _, _, _, taken⟩ := extracted
    obtain ⟨machine, vouched, _⟩ := vouched_of_chipIdFromPckChain unforged taken
    exact ⟨machine, isSgx ▸ vouched⟩
  split at extracted
  · rename_i isTdx
    unfold extractChipIdForTdx at extracted
    simp only [bind_eq_ok] at extracted
    obtain ⟨_, _, _, _, taken⟩ := extracted
    obtain ⟨machine, _, vouched⟩ := vouched_of_chipIdFromPckChain unforged taken
    exact ⟨machine, isTdx ▸ vouched⟩
  split at extracted
  · rename_i isSnp
    unfold extractChipIdForSnp at extracted
    simp only [bind_eq_ok] at extracted
    obtain ⟨result, accepted, pub, hasKey, returned⟩ := extracted
    cases returned
    rw [isSnp, ← OpenSsl.nonNull_eq_ok.mp hasKey]
    exact vouched_of_report unforged accepted
  split at extracted
  · rename_i isCca
    unfold extractChipIdForCca at extracted
    rw [bind_eq_ok] at extracted
    obtain ⟨result, accepted, returned⟩ := extracted
    cases returned
    rw [isCca]
    exact vouched_of_token unforged accepted
  · cases extracted

theorem Sgx.valueBehind_library {env : Environment} (target : String)
    (fuel : Nat) (p : Bytes) :
    Sgx.valueBehind (env.library ssl) target fuel p =
      Sgx.valueBehind ssl target fuel p := by
  induction fuel generalizing p with
  | zero => rfl
  | succ fuel ih =>
      rw [Sgx.valueBehind, Sgx.valueBehind]
      simp only [ih]
      rfl

theorem Sgx.PpidValue.of_library {env : Environment} {leaf : X509}
    {value : Bytes} (ppid : Sgx.PpidValue (env.library ssl) leaf value) :
    Sgx.PpidValue ssl leaf value := by
  obtain ⟨ext, found, isValue⟩ := ppid
  refine ⟨ext, found, ?_⟩
  unfold Sgx.extensionValue at isValue ⊢
  simp only [Sgx.valueBehind_library] at isValue
  exact isValue

/-- What is vouched for does not depend on where it is read. -/
theorem Vouched.of_library {env : Environment} {machine : Machine}
    {teeType : String} {chipId : Bytes} {key : Option EvpPkey}
    (vouched : Vouched vendors (env.library ssl) machine teeType chipId key) :
    Vouched vendors ssl machine teeType chipId key := by
  cases vouched with
  | sgx issued ppid => exact .sgx issued ppid.of_library
  | tdx issued ppid => exact .tdx issued ppid.of_library
  | snp issued hasKey signed length notMasked =>
      exact .snp issued hasKey signed length notMasked
  | cca pinned signed claims => exact .cca pinned signed claims

/-- A run of `provision` in a history that issued an endorsement under a CA. -/
structure IssuingRun (ssl : OpenSsl) (history : List Event)
    (files : FileSystem) (caCert : X509) where
  before : List Event
  env : Environment
  argv : List String
  after : List Event
  args : ProvisionArgs
  cert : X509
  split : history = before ++ .run env argv :: after
  asked : request argv = .run (.provision args)
  underCa : ∃ caKey, loadCa (env.library ssl)
    (env.host (leaving ssl before files)) args = .ok (caKey, caCert)
  issued : issueEndorsement (env.library ssl)
    (env.host (leaving ssl before files)) args = .ok cert

def IssuingRun.evidence {history : List Event} {files : FileSystem}
    {caCert : X509} (run : IssuingRun ssl history files caCert) :
    Result ChipIdResult :=
  extractChipId (run.env.library ssl)
    (run.env.host (leaving ssl run.before files)) run.args

/-- Nobody signs with the key of a CA but the runs of `provision` that are given
it, and `ca-init` when it made the certificate of the CA; only other signatures
can be made of theirs. -/
def OnlyProvisionSigns (ssl : OpenSsl)
    (verifyCert : VerifyContext → Option Int) (caCert : X509)
    (history : List Event) (files : FileSystem) : Prop :=
  ∀ leaf crl, verifyCert (orgChainContext leaf caCert crl) = none →
    leaf.toBeSigned = caCert.toBeSigned ∨
      ∃ run : IssuingRun ssl history files caCert,
        run.cert.toBeSigned = leaf.toBeSigned

def Vendors.Distinct (vendors : Vendors Machine) (ssl : OpenSsl) : Prop :=
  ∀ machine machine' teeType chipId key key',
    Vouched vendors ssl machine teeType chipId key →
    Vouched vendors ssl machine' teeType chipId key' → machine = machine'

def onlyPck : Vendors Nat where
  pckLeaf machine leaf := machine = 0 ∧ leaf = sampleCert 0 samplePpid
  vcek _ _ := False
  signed _ _ _ := False

theorem machine_of_onlyPck {machine : Nat} {teeType : String} {chipId : Bytes}
    {key : Option EvpPkey}
    (vouched : Vouched onlyPck ssl machine teeType chipId key) :
    machine = 0 := by
  cases vouched with
  | sgx issued ppid => exact issued.1
  | tdx issued ppid => exact issued.1
  | snp issued hasKey signed length notMasked => cases issued
  | cca pinned signed claims => cases signed

def vouchingSsl : OpenSsl :=
  { agreeingSsl with
    sha384 := fun _ => []
    ecdsaSha384Verify := fun _ _ _ _ => 0 }

def vouchingPlace : Environment :=
  { samplePlace with
    x509VerifyCert := fun context =>
      if context.trusted = [sampleCaCert] then
        samplePlace.x509VerifyCert context
      else if context.trusted = [sampleRoot] ∧
        context.leaf = sampleCert 0 samplePpid then none
      else some 20 }

theorem onlyPck_unforged :
    onlyPck.Unforged (vouchingPlace.library vouchingSsl) where
  intel := by
    intro root pkey leaf untrusted hasKey isIntel passes
    simp only [vouchingPlace, Environment.library] at passes
    split at passes
    · rename_i isCa
      cases isCa
      cases hasKey
      cases isIntel
    · split at passes
      · rename_i known
        exact ⟨0, rfl, known.2⟩
      · cases passes
  amd := by
    intro ark pkey pin vcek untrusted hasKey pinned digest
    have notEmpty : ∀ pin ∈ Snp.kAmdArkPins, [] ≠ pin.2 := by decide
    exact absurd digest (notEmpty pin pinned)
  report := by
    intro machine vcek pkey r s msg issued
    cases issued
  token := by
    intro pkey r s msg pinned verifies
    cases verifies

def vouchedHistory : List Event :=
  [.run vouchingPlace provisionArgv,
    .other fun files => Function.update files "ca.key" none]

/-- The run that provisions the machine. -/
def provisioningRun :
    IssuingRun vouchingSsl vouchedHistory sampleFiles sampleCaCert where
  before := []
  env := vouchingPlace
  argv := provisionArgv
  after := [.other fun files => Function.update files "ca.key" none]
  args := issuingArgs
  cert := issuedCert
  split := rfl
  asked := rfl
  underCa := ⟨sampleCaKey, by decide +kernel⟩
  issued := by decide +kernel

theorem vouchedHistory_env
    (run : IssuingRun vouchingSsl vouchedHistory sampleFiles sampleCaCert) :
    run.env = vouchingPlace := by
  have member : Event.run run.env run.argv ∈
      run.before ++ .run run.env run.argv :: run.after := by
    simp
  rw [← run.split] at member
  simp only [vouchedHistory, List.mem_cons, Event.run.injEq, reduceCtorEq,
    List.not_mem_nil, or_false] at member
  exact member.1

theorem vouchingPlace_onlyProvision :
    OnlyProvisionSigns vouchingSsl vouchingPlace.x509VerifyCert sampleCaCert
      vouchedHistory sampleFiles := by
  intro leaf crl verified
  simp only [vouchingPlace, samplePlace, orgChainContext, if_true] at verified
  split at verified
  · rename_i known
    rcases known with isCa | isIssued
    · exact Or.inl (congrArg X509.toBeSigned isCa)
    · refine Or.inr ⟨provisioningRun, ?_⟩
      simp only [provisioningRun, isIssued]
  · cases verified

end TeeAnchor
