import TeeAnchor.Provision

/-!
# Verifying a machine against its endorsement

`verify` runs through five stages, each with its own exit code: arguments,
input files, the vendor's evidence, the organisation's certificate chain and
the comparison of the two Chip IDs.
-/

namespace TeeAnchor.Verify

variable (ssl : OpenSsl) (host : Host)

def kExitOk : Nat := 0
def kExitEvidence : Nat := 20
def kExitOrgFailed : Nat := 21
def kExitMismatch : Nat := 22
def kExitRevoked : Nat := 24
def kExitInternal : Nat := 30

structure VerifyArgs where
  reportPath : String := ""
  certsDir : String := ""
  orgCertPath : String := ""
  orgCaPath : String := ""
  crlPath : String := ""
  teeType : String := "sgx"
  deriving DecidableEq, Repr

def ppidFromPckChain (chain : List X509) : Result Bytes := do
  let leaf ← Sgx.verifyPckChain ssl chain
  match ← Sgx.findSgxExtensionOctet ssl leaf Sgx.oidSgxPpid with
  | none =>
      teeAnchorError ("PPID (OID " ++ Sgx.oidSgxPpid ++
        ") not found in PCK leaf")
  | some ppid => return ppid

def verifyEvidenceAndExtractChipId (args : VerifyArgs) : Result Bytes :=
  if args.teeType = "sgx" then do
    let quote ← readFile host args.reportPath
    let chain ← Sgx.extractPckChainFromQuote ssl quote
    ppidFromPckChain ssl chain
  else if args.teeType = "tdx" then do
    let quote ← readFile host args.reportPath
    let chain ← Tdx.extractPckChainFromQuote ssl quote
    ppidFromPckChain ssl chain
  else if args.teeType = "snp" then do
    let r ← Snp.verifyAndExtract ssl host args.reportPath args.certsDir
    return r.chipId
  else if args.teeType = "cca" then do
    let r ← Cca.verifyAndExtract ssl host args.reportPath
    return r.instanceId
  else teeAnchorError ("unknown --tee-type: " ++ args.teeType)

inductive OrgChainStatus
  | ok
  | revoked
  | otherFail
  deriving DecidableEq, Repr

def x509VErrCertRevoked : Int := 23

/-- What the chain check of an endorsement asks: critical extensions are
ignored, for the ChipIdBinding, and a CRL turns its check on. -/
def orgChainContext (orgCert orgCa : X509) (crl : Option X509Crl) :
    VerifyContext where
  trusted := [orgCa]
  crls := crl.toList
  ignoreCritical := true
  crlCheck := crl.isSome
  leaf := orgCert
  untrusted := []

def verifyOrgChain (orgCert orgCa : X509) (crl : Option X509Crl) :
    Result OrgChainStatus := do
  ssl.call "X509_STORE_new"
  ssl.call "X509_STORE_add_cert (org_ca)"
  if crl.isSome then ssl.call "X509_STORE_add_crl"
  ssl.call "X509_STORE_get0_param"
  ssl.call "X509_VERIFY_PARAM_set_flags"
  ssl.call "X509_STORE_CTX_new"
  ssl.call "X509_STORE_CTX_init"
  match ssl.x509VerifyCert (orgChainContext orgCert orgCa crl) with
  | none => return .ok
  | some err =>
      if err = x509VErrCertRevoked then return .revoked else return .otherFail

def expectedTeeType (teeType : String) : Result UInt8 :=
  if teeType = "sgx" then return Binding.kTeeTypeSgx
  else if teeType = "tdx" then return Binding.kTeeTypeTdx
  else if teeType = "snp" then return Binding.kTeeTypeSevSnp
  else if teeType = "cca" then return Binding.kTeeTypeArmCca
  else teeAnchorError ("unknown --tee-type: " ++ teeType)

def checkArgs (args : VerifyArgs) : Result Unit := do
  Provision.require args.orgCertPath "--org-cert"
  Provision.require args.orgCaPath "--org-ca"
  if args.teeType ≠ "sgx" ∧ args.teeType ≠ "tdx" ∧ args.teeType ≠ "snp" ∧
      args.teeType ≠ "cca" then
    teeAnchorError ("unknown --tee-type: " ++ args.teeType)
  Provision.require args.reportPath "--report"
  if args.teeType = "snp" then Provision.require args.certsDir "--certs"

structure Inputs where
  orgCert : X509
  orgCa : X509
  orgCrl : Option X509Crl
  deriving DecidableEq, Repr

/-- The CRL is loaded when its path is not empty. -/
def loadInputs (args : VerifyArgs) : Result Inputs := do
  let orgCert ← Pki.loadPemCert ssl host args.orgCertPath
  let orgCa ← Pki.loadPemCert ssl host args.orgCaPath
  if args.crlPath.isEmpty then return ⟨orgCert, orgCa, none⟩
  else
    let orgCrl ← Pki.loadPemCrl ssl host args.crlPath
    return ⟨orgCert, orgCa, some orgCrl⟩

/-- Stage (3): the endorsement names this TEE type and this Chip ID. -/
def bindingMatches (orgCert : X509) (teeType : String)
    (evidenceChipId : Bytes) : Result Bool := do
  let chip ← Binding.extractChipIdBinding ssl orgCert
  let expected ← expectedTeeType teeType
  if chip.teeType ≠ expected then return false
  if chip.chipId.length ≠ evidenceChipId.length ∨
      chip.chipId ≠ evidenceChipId then
    return false
  return true

def runVerify (args : VerifyArgs) : Nat :=
  match checkArgs args with
  | .error _ => kExitInternal
  | .ok () =>
  match loadInputs ssl host args with
  | .error _ => kExitInternal
  | .ok inputs =>
  match verifyEvidenceAndExtractChipId ssl host args with
  | .error _ => kExitEvidence
  | .ok evidenceChipId =>
  match verifyOrgChain ssl inputs.orgCert inputs.orgCa inputs.orgCrl with
  | .error _ => kExitInternal
  | .ok .revoked => kExitRevoked
  | .ok .otherFail => kExitOrgFailed
  | .ok .ok =>
  match bindingMatches ssl inputs.orgCert args.teeType evidenceChipId with
  | .ok true => kExitOk
  | .ok false => kExitMismatch
  | .error _ => kExitMismatch

/-- The field an option of `verify` sets. -/
def setOption (option : String) :
    Option (VerifyArgs → String → VerifyArgs) :=
  if option = "--report" then
    some fun args value => { args with reportPath := value }
  else if option = "--certs" then
    some fun args value => { args with certsDir := value }
  else if option = "--org-cert" then
    some fun args value => { args with orgCertPath := value }
  else if option = "--org-ca" then
    some fun args value => { args with orgCaPath := value }
  else if option = "--crl" then
    some fun args value => { args with crlPath := value }
  else if option = "--tee-type" then
    some fun args value => { args with teeType := value }
  else none

/-- The argument loop of `cli_verify`; it ends with none when help is asked
for. -/
def parseArgs : List String → VerifyArgs → Result (Option VerifyArgs)
  | [], args => return some args
  | option :: rest, args =>
      match setOption option with
      | some set =>
          match rest with
          | [] => teeAnchorError (option ++ " requires a value")
          | value :: rest => parseArgs rest (set args value)
      | none =>
          if option = "-h" ∨ option = "--help" then return none
          else teeAnchorError ("unknown argument: " ++ option)

def cliVerify (argv : List String) : Nat :=
  match parseArgs argv {} with
  | .error _ => kExitInternal
  | .ok none => 0
  | .ok (some args) => runVerify ssl host args

end TeeAnchor.Verify
