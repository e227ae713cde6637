import TeeAnchor.CcaToken
import TeeAnchor.ChipIdBinding
import TeeAnchor.SnpReport
import TeeAnchor.TdxQuote

/-!
# Issuing endorsements

`provision` checks the evidence of a machine with its vendor, takes the Chip ID
and a public key from it, and has the organisation's CA sign a certificate that
binds the two.
-/

namespace TeeAnchor.Provision

variable (ssl : OpenSsl) (host : Host)

structure ProvisionArgs where
  reportPath : String := ""
  certsDir : String := ""
  caKeyPath : String := ""
  caCertPath : String := ""
  outPath : String := ""
  subject : String := ""
  validityDays : Int := 365
  teeType : String := "sgx"
  deriving DecidableEq, Repr

structure ChipIdResult where
  chipId : Bytes
  teeType : UInt8
  subjectPubkey : EvpPkey
  deriving DecidableEq, Repr

/-- PPID and leaf key of a PCK chain.  An all-zero PPID only draws a warning. -/
def chipIdFromPckChain (chain : List X509) (teeType : UInt8) :
    Result ChipIdResult := do
  let leaf ← Sgx.verifyPckChain ssl chain
  match ← Sgx.findSgxExtensionOctet ssl leaf Sgx.oidSgxPpid with
  | none =>
      teeAnchorError ("PPID (OID " ++ Sgx.oidSgxPpid ++
        ") not found in PCK leaf")
  | some ppid =>
      let pub ← ssl.nonNull "X509_get_pubkey (PCK leaf)" leaf.pubkey
      return ⟨ppid, teeType, pub⟩

def extractChipIdForSgx (quotePath : String) : Result ChipIdResult := do
  let quote ← readFile host quotePath
  let chain ← Sgx.extractPckChainFromQuote ssl quote
  chipIdFromPckChain ssl chain Binding.kTeeTypeSgx

def extractChipIdForTdx (quotePath : String) : Result ChipIdResult := do
  let quote ← readFile host quotePath
  let chain ← Tdx.extractPckChainFromQuote ssl quote
  chipIdFromPckChain ssl chain Binding.kTeeTypeTdx

def extractChipIdForSnp (args : ProvisionArgs) : Result ChipIdResult := do
  let r ← Snp.verifyAndExtract ssl host args.reportPath args.certsDir
  let pub ← ssl.nonNull "X509_get_pubkey (VCEK leaf)" r.vcek.pubkey
  return ⟨r.chipId, Binding.kTeeTypeSevSnp, pub⟩

def extractChipIdForCca (tokenPath : String) : Result ChipIdResult := do
  let r ← Cca.verifyAndExtract ssl host tokenPath
  return ⟨r.instanceId, Binding.kTeeTypeArmCca, r.cpak⟩

def extractChipId (args : ProvisionArgs) : Result ChipIdResult :=
  if args.teeType = "sgx" then extractChipIdForSgx ssl host args.reportPath
  else if args.teeType = "tdx" then extractChipIdForTdx ssl host args.reportPath
  else if args.teeType = "snp" then extractChipIdForSnp ssl host args
  else if args.teeType = "cca" then extractChipIdForCca ssl host args.reportPath
  else teeAnchorError ("unknown --tee-type: " ++ args.teeType)

def hexDigitLower (nibble : UInt8) : Char :=
  if nibble < 10 then Char.ofNat (48 + nibble.toNat)
  else Char.ofNat (87 + nibble.toNat)

def toHexLower (data : Bytes) : String :=
  String.ofList (data.flatMap fun (byte : UInt8) =>
    [hexDigitLower (byte >>> 4), hexDigitLower (byte &&& 0x0f)])

def autoSubject (chipId : Bytes) : String :=
  "CN=tee-anchor-" ++ toHexLower (chipId.take 4)

def require (value name : String) : Result Unit :=
  if value.isEmpty then teeAnchorError (name ++ " is required") else return ()

/-- Step 1: the required arguments are there. -/
def checkArgs (args : ProvisionArgs) : Result Unit := do
  if args.teeType ≠ "sgx" ∧ args.teeType ≠ "tdx" ∧ args.teeType ≠ "snp" ∧
      args.teeType ≠ "cca" then
    teeAnchorError ("unknown --tee-type: " ++ args.teeType)
  require args.reportPath "--report"
  if args.teeType = "snp" then require args.certsDir "--certs"
  require args.caKeyPath "--ca-key"
  require args.caCertPath "--ca-cert"
  require args.outPath "--out"
  if args.validityDays ≤ 0 then
    teeAnchorError "--validity-days must be positive"

/-- Step 2: the CA's key and certificate, which belong together. -/
def loadCa (args : ProvisionArgs) : Result (EvpPkey × X509) := do
  let caKey ← Pki.loadPemPrivateKey ssl host args.caKeyPath
  let caCert ← Pki.loadPemCert ssl host args.caCertPath
  if !ssl.checkPrivateKey caCert caKey then
    teeAnchorError "CA private key does not match CA certificate"
  return (caKey, caCert)

/-- Step 4: the endorsement before its extensions. -/
def endorsementSkeleton (args : ProvisionArgs) (caCert : X509)
    (chip : ChipIdResult) : Result X509 := do
  ssl.call "X509_new"
  ssl.call "X509_set_version"
  let sn ← Pki.randomSerial ssl host
  ssl.call "X509_set_serialNumber"
  ssl.call "X509_gmtime_adj (notBefore)"
  ssl.call "X509_gmtime_adj (notAfter)"
  ssl.call "X509_set_issuer_name"
  let subjectStr :=
    if args.subject.isEmpty then autoSubject chip.chipId else args.subject
  let subject ← Pki.parseDn ssl subjectStr
  ssl.call "X509_set_subject_name"
  ssl.call "X509_set_pubkey (endorsement)"
  return {
    version := 2
    serialNumber := sn
    issuer := caCert.subject
    subject := subject
    notBefore := host.time
    notAfter := host.time + args.validityDays * 86400
    pubkey := some chip.subjectPubkey
    extensions := []
    signature := [] }

/-- Step 5: the extensions OpenSSL builds, then the ChipIdBinding. -/
def addExtensions (caCert cert : X509) (chip : ChipIdResult) :
    Result X509 := do
  let cert ←
    Pki.addV3Ext ssl caCert cert .basicConstraints "critical,CA:FALSE"
  let cert ← Pki.addV3Ext ssl caCert cert .keyUsage "critical,digitalSignature"
  let cert ← Pki.addV3Ext ssl caCert cert .subjectKeyIdentifier "hash"
  let cert ←
    Pki.addV3Ext ssl caCert cert .authorityKeyIdentifier "keyid:always"
  let bindingDer ← Binding.encodeChipIdBinding host chip.teeType chip.chipId
  let bindingExt ← Binding.makeChipIdBindingExtension ssl bindingDer
  ssl.call "X509_add_ext (ChipIdBinding)"
  return { cert with extensions := cert.extensions ++ [bindingExt] }

/-- Steps 1 to 6: the signed endorsement. -/
def issueEndorsement (args : ProvisionArgs) : Result X509 := do
  checkArgs args
  let (caKey, caCert) ← loadCa ssl host args
  let chip ← extractChipId ssl host args
  let skeleton ← endorsementSkeleton ssl host args caCert chip
  let cert ← addExtensions ssl host caCert skeleton chip
  let md ← Pki.digestForSigningKey ssl caKey
  let signature ← ssl.nonNull "X509_sign (endorsement)"
    (ssl.x509Sign cert caKey md)
  return { cert with signature := signature }

/-- Step 7 writes the endorsement as PEM. -/
def runProvision (io : IoFaults) (args : ProvisionArgs) : Run Unit := do
  let endorsement ← liftExcept (issueEndorsement ssl host args)
  let pem ← liftExcept (Pki.pemCert ssl endorsement)
  writeFile io args.outPath pem 0o644

end TeeAnchor.Provision
