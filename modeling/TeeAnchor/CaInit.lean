import TeeAnchor.PkiUtil

/-!
# Creating the organization CA

`ca-init` makes a key pair and a self-signed certificate and writes them to two
files of a directory, the key first.  `ca/ca_init.cpp` writes both in place.
-/

namespace TeeAnchor.Ca

variable (ssl : OpenSsl) (host : Host) (io : IoFaults)

structure CaInitArgs where
  outDir : String := ""
  subject : String := "CN=TEE Anchor Org CA"
  validityDays : Int := 3650
  curve : String := "P-384"
  force : Bool := false
  deriving DecidableEq, Repr

namespace CaInitArgs

def keyPath (args : CaInitArgs) : String :=
  args.outDir ++ "/ca.key"

def crtPath (args : CaInitArgs) : String :=
  args.outDir ++ "/ca.crt"

theorem crtPath_ne_keyPath (args : CaInitArgs) :
    args.crtPath ≠ args.keyPath := by
  intro same
  have chars := congrArg String.toList same
  simp [crtPath, keyPath] at chars

end CaInitArgs

/-- `path_exists` on a file of the run.  When `stat` itself fails, a file that
is there counts as missing. -/
def pathExists (statFails : String → Bool) (files : FileSystem)
    (path : String) : Bool :=
  (files path).isSome && !statFails path

def checkCaInitArgs (args : CaInitArgs) : Result Unit := do
  if args.outDir.isEmpty then teeAnchorError "--out-dir is required"
  if args.validityDays ≤ 0 then
    teeAnchorError "--validity-days must be positive"

def refuseExisting (args : CaInitArgs) (statFails : String → Bool)
    (files : FileSystem) : Result Unit := do
  if !args.force then
    if pathExists statFails files args.keyPath then
      teeAnchorError ("already exists: " ++ args.keyPath ++
        " (use --force to overwrite)")
    if pathExists statFails files args.crtPath then
      teeAnchorError ("already exists: " ++ args.crtPath ++
        " (use --force to overwrite)")

/-- Step 2: the certificate before its extensions. -/
def caSkeleton (args : CaInitArgs) (pkey : EvpPkey) : Result X509 := do
  ssl.call "X509_new"
  ssl.call "X509_set_version"
  let sn ← Pki.randomSerial ssl host
  ssl.call "X509_set_serialNumber"
  ssl.call "X509_gmtime_adj (notBefore)"
  ssl.call "X509_gmtime_adj (notAfter)"
  let name ← Pki.parseDn ssl args.subject
  ssl.call "X509_set_subject_name"
  ssl.call "X509_set_issuer_name"
  ssl.call "X509_set_pubkey"
  return {
    version := 2
    serialNumber := sn
    issuer := name
    subject := name
    notBefore := host.time
    notAfter := host.time + args.validityDays * 86400
    pubkey := some pkey
    extensions := []
    signature := [] }

/-- Step 3.  The certificate is its own issuer. -/
def addCaExtensions (cert : X509) : Result X509 := do
  let cert ← Pki.addV3Ext ssl cert cert .basicConstraints "critical,CA:TRUE"
  let cert ← Pki.addV3Ext ssl cert cert .keyUsage
    "critical,digitalSignature,keyCertSign,cRLSign"
  Pki.addV3Ext ssl cert cert .subjectKeyIdentifier "hash"

/-- Steps 1 to 4: the key pair and its certificate. -/
def newCa (args : CaInitArgs) : Result (EvpPkey × X509) := do
  let pkey ← Pki.genEcKey ssl args.curve
  let cert ← caSkeleton ssl host args pkey
  let cert ← addCaExtensions ssl cert
  let md ← Pki.sigMdForCurve args.curve
  let signature ← ssl.nonNull "X509_sign" (ssl.x509Sign cert pkey (some md))
  return (pkey, { cert with signature := signature })

/-- All that comes before the first file is opened. -/
def prepareCa (args : CaInitArgs) (statFails : String → Bool)
    (files : FileSystem) : Result (EvpPkey × X509 × Bytes) := do
  checkCaInitArgs args
  refuseExisting args statFails files
  let (pkey, cert) ← newCa ssl host args
  let keyPem ← Pki.pemPrivateKey ssl pkey
  return (pkey, cert, keyPem)

def runCaInit (args : CaInitArgs) (statFails : String → Bool) : Run Unit := do
  let files ← get
  let (_, cert, keyPem) ← liftExcept (prepareCa ssl host args statFails files)
  writeFile io args.keyPath keyPem 0o600
  let crtPem ← liftExcept (Pki.pemCert ssl cert)
  writeFile io args.crtPath crtPem 0o644

end TeeAnchor.Ca
