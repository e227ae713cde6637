import TeeAnchor.FileIo
import TeeAnchor.PkiUtil

/-!
# SEV-SNP attestation reports

A report is checked against its VCEK certificate, which has to chain to a
pinned AMD root, and then yields the CHIP_ID at a fixed offset.
-/

namespace TeeAnchor.Snp

variable (ssl : OpenSsl)

def oidAmdSevHwid : String := "1.3.6.1.4.1.3704.1.4"
def kReportLen : Nat := 1184
def kOffVersion : Nat := 0x000
def kOffSigAlgo : Nat := 0x034
def kOffChipId : Nat := 0x1A0
def kChipIdLen : Nat := 64
def kOffSignedEnd : Nat := 0x2A0
def kOffSignature : Nat := 0x2A0
def kEcdsaCompLen : Nat := 72
def kSigAlgoEcdsaP384Sha384 : Nat := 1

def kAmdArkPins : List (String × Bytes) := [
    ("Milan", [
      0x12, 0x49, 0xf6, 0x7f, 0x15, 0xcf, 0x22, 0x9a, 0x40, 0x69, 0x19, 0x5e,
      0x1a, 0x9c, 0xe5, 0x37, 0xd1, 0x76, 0x5e, 0xf7, 0x06, 0xa1, 0xf4, 0xa1,
      0x23, 0xc3, 0x6b, 0xe9, 0x51, 0x87, 0x86, 0x51, 0x5d, 0x25, 0xec, 0xc0,
      0x07, 0xf3, 0x66, 0xb5, 0x64, 0xd2, 0xb3, 0xf3, 0x1c, 0x48, 0x08, 0x2e]),
    ("Genoa", [
      0x32, 0xab, 0x53, 0xa6, 0xce, 0x5e, 0xc1, 0x49, 0x26, 0x20, 0x73, 0x96,
      0xe5, 0xc4, 0x75, 0xae, 0x76, 0x8a, 0x6a, 0x98, 0x31, 0xb7, 0xe8, 0x60,
      0xb5, 0xac, 0xf2, 0xe1, 0xc1, 0xdf, 0xf2, 0x22, 0xbc, 0x5a, 0x8b, 0xfc,
      0x43, 0xeb, 0x5e, 0x06, 0x39, 0x31, 0x89, 0xc1, 0xf2, 0x46, 0xd8, 0x80]),
    ("Turin", [
      0x34, 0x75, 0xf0, 0x8a, 0x97, 0x27, 0xf8, 0xac, 0x9a, 0x1d, 0xea, 0xea,
      0x5f, 0x2a, 0x20, 0x97, 0xaa, 0x59, 0xd6, 0x4d, 0x05, 0xc2, 0xa6, 0x78,
      0xc2, 0x29, 0xc8, 0x73, 0xe6, 0x35, 0x9d, 0x3a, 0x69, 0x26, 0x28, 0x7a,
      0x2a, 0x22, 0xcd, 0x5f, 0x88, 0xa3, 0x85, 0xe3, 0x33, 0xa2, 0xfc, 0xc5])]

def matchArkPin (spkiSha384 : Bytes) : Option String :=
  if spkiSha384.length ≠ 48 then none
  else (kAmdArkPins.find? fun pin => pin.2 == spkiSha384).map Prod.fst

def rdU32le (p : Bytes) : Nat :=
  leNat (p.take 4)

def joinPath (dir name : String) : String :=
  match dir.toList.getLast? with
  | none => name
  | some last => if last = '/' then dir ++ name else dir ++ "/" ++ name

structure SnpChain where
  vcek : X509
  generation : String
  deriving DecidableEq, Repr

structure SnpVerifyResult where
  chipId : Bytes
  version : Nat
  generation : String
  vcek : X509
  deriving DecidableEq, Repr

def validateReportHeader (report : Bytes) : Result Unit := do
  if report.length ≠ kReportLen then
    teeAnchorError ("attestation report has unexpected length " ++
      toString report.length ++ " (expected " ++ toString kReportLen ++
      " bytes)")
  let version := rdU32le (report.drop kOffVersion)
  let sigAlgo := rdU32le (report.drop kOffSigAlgo)
  if version < 2 ∨ version > 5 then
    teeAnchorError ("unsupported attestation report VERSION " ++
      toString version ++
      " (this build supports 2..5; CHIP_ID offset assumed stable in that range)")
  if sigAlgo ≠ kSigAlgoEcdsaP384Sha384 then
    teeAnchorError ("unsupported SIGNATURE_ALGO " ++ toString sigAlgo ++
      " (expected 1 = ECDSA P-384 with SHA-384)")

def extractChipIdFromReport (report : Bytes) : Result Bytes := do
  if report.length < kOffChipId + kChipIdLen then
    teeAnchorError "attestation report too short for CHIP_ID"
  let chipId := (report.drop kOffChipId).take kChipIdLen
  if chipId.all fun byte => byte == 0 then
    teeAnchorError ("CHIP_ID is all zero: the platform has MaskChipId set, " ++
      "so the report carries no chip-unique identifier to bind. " ++
      "Provisioning aborted.")
  return chipId

/-- A certificate of the directory has to be there. -/
def requireCert (host : Host) (kind path file : String) : Result Unit :=
  if host.pathExists path then return ()
  else
    teeAnchorError (kind ++ " certificate not found: " ++ path ++
      " (expected " ++ file ++ " in the certs directory)")

def verifyVcekChain (host : Host) (certsDir : String) : Result SnpChain := do
  let arkPath := joinPath certsDir "ark.pem"
  let askPath := joinPath certsDir "ask.pem"
  let vcekPath := joinPath certsDir "vcek.pem"
  requireCert host "ARK" arkPath "ark.pem"
  requireCert host "ASK" askPath "ask.pem"
  requireCert host "VCEK" vcekPath "vcek.pem"
  let ark ← Pki.loadPemCert ssl host arkPath
  let ask ← Pki.loadPemCert ssl host askPath
  let vcek ← Pki.loadPemCert ssl host vcekPath
  let digest ← Pki.pubkeySpkiSha384 ssl ark
  match matchArkPin digest with
  | none =>
      teeAnchorError ("ARK public key does not match any pinned AMD root " ++
        "(Milan/Genoa/Turin). The certs directory may carry an unknown or " ++
        "untrusted root.")
  | some generation =>
      ssl.call "X509_STORE_new"
      ssl.call "X509_STORE_add_cert (ARK)"
      ssl.call "sk_X509_new_null"
      ssl.call "sk_X509_push (ASK)"
      ssl.call "X509_STORE_CTX_new"
      ssl.call "X509_STORE_CTX_init"
      match ssl.x509VerifyCert ⟨[ark], [], false, false, vcek, [ask]⟩ with
      | none => return ⟨vcek, generation⟩
      | some err =>
          teeAnchorError ("VCEK certificate chain verification failed " ++
            "(ARK->ASK->VCEK): " ++ ssl.verifyCertErrorString err)

/-- The signature covers the report up to the signature field, which holds `r`
and `s` as little-endian numbers. -/
def verifyReportSignature (report : Bytes) (vcek : X509) : Result Unit := do
  if report.length < kOffSignature + 2 * kEcdsaCompLen then
    teeAnchorError "attestation report too short for SIGNATURE field"
  let pk ← ssl.nonNull "X509_get0_pubkey (VCEK)" vcek.pubkey
  if pk.baseId ≠ Pki.evpPkeyEc then
    teeAnchorError "VCEK public key is not EC (expected ECDSA P-384)"
  ssl.call "BN_bin2bn (SNP signature component)"
  let r := leNat ((report.drop kOffSignature).take kEcdsaCompLen)
  let s := leNat ((report.drop (kOffSignature + kEcdsaCompLen)).take
    kEcdsaCompLen)
  ssl.call "ECDSA_SIG_new"
  ssl.call "ECDSA_SIG_set0"
  ssl.call "i2d_ECDSA_SIG (length)"
  ssl.call "i2d_ECDSA_SIG"
  ssl.call "EVP_MD_CTX_new"
  ssl.call "EVP_DigestVerifyInit (ECDSA P-384/SHA-384)"
  let rc := ssl.ecdsaSha384Verify pk r s (report.take kOffSignedEnd)
  if rc < 0 then ssl.throwOpensslError "EVP_DigestVerify (SNP report)"
  if rc ≠ 1 then
    teeAnchorError ("attestation report signature did not verify against " ++
      "the VCEK public key (report may be forged or the VCEK does not match)")

/-- The hwID extension of the VCEK is compared with the CHIP_ID when the two
have one size; the source takes the size of the CHIP_ID as an `int`. -/
def crossCheckHwid (vcek : X509) (chipId : Bytes) : Result Unit := do
  let oid ← ssl.makeOid oidAmdSevHwid
  match vcek.extByObj oid with
  | none => return ()
  | some ext =>
      if ext.value.length = chipId.length ∧ chipId ≠ ext.value then
        teeAnchorError ("CHIP_ID in attestation report does not match the " ++
          "VCEK hwID extension; report and certificate disagree on the chip.")

def verifyAndExtract (host : Host) (reportPath certsDir : String) :
    Result SnpVerifyResult := do
  let report ← readFile host reportPath
  validateReportHeader report
  let version := rdU32le (report.drop kOffVersion)
  let chain ← verifyVcekChain ssl host certsDir
  verifyReportSignature ssl report chain.vcek
  let chipId ← extractChipIdFromReport report
  crossCheckHwid ssl chain.vcek chipId
  return ⟨chipId, version, chain.generation, chain.vcek⟩

end TeeAnchor.Snp
