import TeeAnchor.PkiUtil
import TeeAnchor.RevocationDb

/-!
# Revoking an endorsement

`revoke` appends the serial number of an endorsement to the revocation
database, with the time and the reason.  A serial number that is there already
stays as it is.
-/

namespace TeeAnchor.Ca

variable (ssl : OpenSsl) (host : Host) (io : IoFaults)

structure RevokeArgs where
  caCertPath : String := ""
  certPath : String := ""
  reason : String := ""
  dbPath : String := ""
  deriving DecidableEq, Repr

def kReasonNames : List String :=
  ["unspecified", "keyCompromise", "cACompromise", "affiliationChanged",
    "superseded", "cessationOfOperation", "certificateHold",
    "privilegeWithdrawn", "aACompromise"]

/-- The empty reason stands for no reason extension. -/
def isValidReason (reason : String) : Bool :=
  reason.isEmpty || kReasonNames.contains reason

def serialHexLower (cert : X509) : Result Bytes := do
  ssl.call "X509_get0_serialNumber"
  ssl.call "ASN1_INTEGER_to_BN"
  ssl.call "BN_bn2hex"
  return (ssl.bn2hex cert.serialNumber).map toLower

/-- The database a run works on. -/
def resolveDbPath (dbPath caCertPath : String) : String :=
  if dbPath.isEmpty then defaultDbPath caCertPath else dbPath

def loadDb (path : String) : Run RevocationDb := do
  let files ← get
  liftExcept (loadRevocationDb path (openForReading io files path))

def checkRevokeArgs (args : RevokeArgs) : Result Unit := do
  if args.caCertPath.isEmpty then teeAnchorError "--ca-cert is required"
  if args.certPath.isEmpty then teeAnchorError "--cert is required"
  if !isValidReason args.reason then
    teeAnchorError ("invalid --reason: '" ++ args.reason ++ "' (allowed: " ++
      ", ".intercalate kReasonNames ++ ")")

/-- Steps 1 to 3: the serial number of an endorsement of this CA. -/
def revokedSerial (args : RevokeArgs) : Result Bytes := do
  checkRevokeArgs args
  let caCert ← Pki.loadPemCert ssl host args.caCertPath
  let endorsement ← Pki.loadPemCert ssl host args.certPath
  if ssl.nameCmp caCert.subject endorsement.issuer ≠ 0 then
    teeAnchorError ("subject(--ca-cert) != issuer(--cert): " ++
      args.certPath ++ " was not issued by " ++ args.caCertPath)
  serialHexLower ssl endorsement

/-- Step 5: the serial number is in the database. -/
def RevocationDb.contains (db : RevocationDb) (serialHex : Bytes) : Bool :=
  db.entries.any fun entry => entry.serialHex == serialHex

/-- Step 6: the database with one entry more. -/
def RevocationDb.append (db : RevocationDb) (entry : RevocationEntry) :
    RevocationDb :=
  { db with entries := db.entries ++ [entry] }

def runRevoke (args : RevokeArgs) : Run Unit := do
  let serialHex ← liftExcept (revokedSerial ssl host args)
  let dbPath := resolveDbPath args.dbPath args.caCertPath
  let db ← loadDb io dbPath
  if db.contains serialHex then
    return ()
  saveRevocationDb io dbPath
    (db.append ⟨serialHex, host.generalizedTimeNowUtc, ascii args.reason⟩)

variable {ssl host io}

@[simp]
theorem loadDb_exec (path : String) (files : FileSystem) :
    (loadDb io path).exec files =
      (loadRevocationDb path (openForReading io files path), files) :=
  rfl

end TeeAnchor.Ca
