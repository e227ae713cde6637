import TeeAnchor.Revoke

/-!
# Issuing a CRL

`crl-issue` lists the entries of the revocation database in a CRL with the next
number, has the CA sign it, publishes it and then saves the database with the
new number.
-/

namespace TeeAnchor.Ca

variable (ssl : OpenSsl) (host : Host) (io : IoFaults)

structure CrlIssueArgs where
  caKeyPath : String := ""
  caCertPath : String := ""
  outPath : String := ""
  validityDays : Int := 7
  dbPath : String := ""
  deriving DecidableEq, Repr

def kReasonMap : List (String × Nat) :=
  [("unspecified", 0), ("keyCompromise", 1), ("cACompromise", 2),
    ("affiliationChanged", 3), ("superseded", 4), ("cessationOfOperation", 5),
    ("certificateHold", 6), ("privilegeWithdrawn", 9), ("aACompromise", 10)]

def reasonToInt (name : Bytes) : Result Nat :=
  match kReasonMap.find? fun entry => ascii entry.1 == name with
  | some entry => return entry.2
  | none =>
      teeAnchorError ("unknown reason name in DB: '" ++ latin1 name ++ "'")

/-- The bytes of a C string. -/
def cStr (text : Bytes) : Bytes :=
  text.takeWhile (· != 0)

def asn1IntFromHex (hex : Bytes) : Result Int := do
  let bn ← ssl.nonNull ("BN_hex2bn (serial=" ++ latin1 hex ++ ")")
    (ssl.hex2bn (cStr hex))
  ssl.call "BN_to_ASN1_INTEGER"
  return bn

def asn1GentimeFromString (ts : Bytes) : Result Bytes := do
  ssl.call "ASN1_GENERALIZEDTIME_new"
  if !ssl.generalizedTimeSetString (cStr ts) then
    teeAnchorError ("invalid GeneralizedTime in DB: '" ++ latin1 ts ++ "'")
  return cStr ts

/-- The code of the reason extension, none without a reason. -/
def crlReasonExtension (reasonName : Bytes) : Result (Option Nat) := do
  if reasonName.isEmpty then return none
  let code ← reasonToInt reasonName
  ssl.call "ASN1_ENUMERATED_new"
  ssl.call "ASN1_ENUMERATED_set"
  ssl.call "X509_REVOKED_add1_ext_i2d (crl_reason)"
  return some code

/-- One round of step 4. -/
def revokedFromEntry (entry : RevocationEntry) : Result X509Revoked := do
  ssl.call "X509_REVOKED_new"
  let serialNumber ← asn1IntFromHex ssl entry.serialHex
  ssl.call "X509_REVOKED_set_serialNumber"
  let revocationDate ← asn1GentimeFromString ssl entry.revocationDate
  ssl.call "X509_REVOKED_set_revocationDate"
  let reason ← crlReasonExtension ssl entry.reason
  ssl.call "X509_CRL_add0_revoked"
  return ⟨serialNumber, revocationDate, reason⟩

def checkCrlIssueArgs (args : CrlIssueArgs) : Result Unit := do
  if args.caKeyPath.isEmpty then teeAnchorError "--ca-key is required"
  if args.caCertPath.isEmpty then teeAnchorError "--ca-cert is required"
  if args.outPath.isEmpty then teeAnchorError "--out is required"
  if args.validityDays ≤ 0 then
    teeAnchorError "--validity-days must be positive"

/-- Step 1: the CA's key and certificate, which belong together. -/
def loadCrlIssuer (args : CrlIssueArgs) : Result (EvpPkey × X509) := do
  checkCrlIssueArgs args
  let caKey ← Pki.loadPemPrivateKey ssl host args.caKeyPath
  let caCert ← Pki.loadPemCert ssl host args.caCertPath
  if !ssl.checkPrivateKey caCert caKey then
    teeAnchorError "CA private key does not match CA certificate"
  return (caKey, caCert)

/-- Steps 3 to 5: the CRL before it is sorted and signed. -/
def crlOf (args : CrlIssueArgs) (caCert : X509) (db : RevocationDb) :
    Result X509Crl := do
  ssl.call "X509_CRL_new"
  ssl.call "X509_CRL_set_version"
  ssl.call "X509_CRL_set_issuer_name"
  ssl.call "ASN1_TIME_new (this)"
  ssl.call "X509_gmtime_adj (this)"
  ssl.call "X509_CRL_set1_lastUpdate"
  ssl.call "ASN1_TIME_new (next)"
  ssl.call "X509_gmtime_adj (next)"
  ssl.call "X509_CRL_set1_nextUpdate"
  let revoked ← db.entries.mapM (revokedFromEntry ssl)
  ssl.call "ASN1_INTEGER_new (crl_number)"
  ssl.call "ASN1_INTEGER_set (crl_number)"
  ssl.call "X509_CRL_add1_ext_i2d (crl_number)"
  let (critical, keyid) ← ssl.nonNull "X509V3_EXT_conf_nid (AKI)"
    (ssl.v3ExtConf caCert none .authorityKeyIdentifier "keyid:always")
  ssl.call "X509_CRL_add_ext (AKI)"
  return {
    version := 1
    issuer := caCert.subject
    lastUpdate := host.time
    nextUpdate := host.time + args.validityDays * 86400
    revoked := revoked
    crlNumber := db.crlNumber.toInt64.toInt
    extensions := [⟨Nid.authorityKeyIdentifier.oid, critical, keyid⟩]
    signature := [] }

/-- Step 6. -/
def signCrl (caKey : EvpPkey) (crl : X509Crl) : Result X509Crl := do
  ssl.call "X509_CRL_sort"
  let crl := { crl with revoked := ssl.x509CrlSort crl.revoked }
  let md ← Pki.digestForSigningKey ssl caKey
  let signature ← ssl.nonNull "X509_CRL_sign" (ssl.x509CrlSign crl caKey md)
  return { crl with signature := signature }

def pemCrl (crl : X509Crl) : Result Bytes := do
  ssl.call "BIO_new (mem)"
  ssl.nonNull "PEM_write_bio_X509_CRL" (ssl.pemWriteX509Crl crl)

/-- Step 2 after the load. -/
def RevocationDb.next (db : RevocationDb) : RevocationDb :=
  { db with crlNumber := db.crlNumber + 1 }

def runCrlIssue (args : CrlIssueArgs) : Run Unit := do
  let (caKey, caCert) ← liftExcept (loadCrlIssuer ssl host args)
  let dbPath := resolveDbPath args.dbPath args.caCertPath
  let db ← loadDb io dbPath
  let db := db.next
  let crl ← liftExcept (crlOf ssl host args caCert db)
  let crl ← liftExcept (signCrl ssl caKey crl)
  let pem ← liftExcept (pemCrl ssl crl)
  writeFile io args.outPath pem 0o644
  saveRevocationDb io dbPath db

end TeeAnchor.Ca
