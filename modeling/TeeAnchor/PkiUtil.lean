import TeeAnchor.FileIo
import TeeAnchor.OpenSsl

/-!
# Shared PKI helpers

Distinguished names, digests for signing keys, PEM input and output and
extensions, as `common/pki_util.hpp` has them.
-/

namespace TeeAnchor.Pki

variable (ssl : OpenSsl)

/-- Blanks and tabs are taken off both ends. -/
def trim (text : List Char) : List Char :=
  ((text.dropWhile (" \t".toList.contains ·)).reverse.dropWhile
    (" \t".toList.contains ·)).reverse

/-- Read one `key=value` segment of a name. -/
def parseRdn (rdn : List Char) : Result (String × String) := do
  if !rdn.contains '=' then
    teeAnchorError ("invalid DN segment (no '='): " ++ String.ofList rdn)
  let key := trim (rdn.takeWhile (· != '='))
  let val := trim ((rdn.dropWhile (· != '=')).tail)
  if key.isEmpty || val.isEmpty then
    teeAnchorError ("invalid DN segment: " ++ String.ofList rdn)
  return (String.ofList key, String.ofList val)

def nul : Char :=
  Char.ofNat 0

/-- The part of a text that is read as a C string. -/
def cStr (text : String) : String :=
  String.ofList (text.toList.takeWhile (· != nul))

/-- The loop over the comma-separated segments.  Each round takes at least one
character, so the length of the text bounds the number of rounds. -/
def parseSegments : Nat → List Char → X509Name → Result X509Name
  | 0, _, name => return name
  | _ + 1, [], name => return name
  | fuel + 1, char :: chars, name => do
      let rdn := (char :: chars).takeWhile (· != ',')
      let (key, val) ← parseRdn rdn
      if !ssl.nameAddEntryByTxt (cStr key) (cStr val) then
        ssl.throwOpensslError ("X509_NAME_add_entry_by_txt (" ++ key ++ ")")
      let name := ⟨name.entries ++ [(cStr key, cStr val)]⟩
      match (char :: chars).dropWhile (· != ',') with
      | [] => return name
      | _ :: rest => parseSegments fuel rest name

def parseDn (dn : String) : Result X509Name := do
  ssl.call "X509_NAME_new"
  parseSegments ssl dn.length dn.toList ⟨[]⟩

def sigMdForCurve (curve : String) : Result Digest :=
  if curve = "P-256" ∨ curve = "secp256r1" ∨ curve = "prime256v1" then
    return .sha256
  else if curve = "P-384" ∨ curve = "secp384r1" then return .sha384
  else if curve = "P-521" ∨ curve = "secp521r1" then return .sha512
  else
    teeAnchorError ("unsupported curve: " ++ curve ++
      " (supported: P-256, P-384, P-521)")

def evpPkeyEc : Int := 408
def evpPkeyRsa : Int := 6
def evpPkeyEd25519 : Int := 1087
def evpPkeyEd448 : Int := 1088

/-- The digest to sign with, none for the Edwards curves. -/
def digestForSigningKey (pkey : EvpPkey) : Result (Option Digest) := do
  let id := pkey.baseId
  if id = evpPkeyEc then
    let curve ← ssl.nonNull "EVP_PKEY_get_utf8_string_param (group name)"
      (ssl.groupName pkey)
    return some (← sigMdForCurve curve)
  else if id = evpPkeyRsa then return some .sha256
  else if id = evpPkeyEd25519 ∨ id = evpPkeyEd448 then return none
  else return some .sha256

def genEcKey (curve : String) : Result EvpPkey :=
  ssl.nonNull ("EVP_EC_gen (" ++ curve ++ ")") (ssl.ecGen curve)

def readIntoBio (host : Host) (path : String) : Result Bytes := do
  let bytes ← readFile host path
  ssl.call "BIO_new_mem_buf"
  return ssl.memBuf bytes (toInt32 bytes.length)

def loadPemPrivateKey (host : Host) (path : String) : Result EvpPkey := do
  let bio ← readIntoBio ssl host path
  ssl.nonNull ("PEM_read_bio_PrivateKey (" ++ path ++ ")")
    (ssl.pemReadPrivateKey bio)

def loadPemCert (host : Host) (path : String) : Result X509 := do
  let bio ← readIntoBio ssl host path
  ssl.nonNull ("PEM_read_bio_X509 (" ++ path ++ ")")
    (ssl.pemReadX509 bio).head?

def loadPemCrl (host : Host) (path : String) : Result X509Crl := do
  let bio ← readIntoBio ssl host path
  ssl.nonNull ("PEM_read_bio_X509_CRL (" ++ path ++ ")")
    (ssl.pemReadX509Crl bio)

def pemPrivateKey (pkey : EvpPkey) : Result Bytes := do
  ssl.call "BIO_new (mem)"
  ssl.nonNull "PEM_write_bio_PrivateKey" (ssl.pemWritePrivateKey pkey)

def pemCert (cert : X509) : Result Bytes := do
  ssl.call "BIO_new (mem)"
  ssl.nonNull "PEM_write_bio_X509" (ssl.pemWriteX509 cert)

def randomSerial (host : Host) : Result Int := do
  ssl.call "BN_new"
  ssl.call "BN_rand"
  ssl.call "ASN1_INTEGER_new"
  ssl.call "BN_to_ASN1_INTEGER"
  return host.randomSerial

/-- Add an extension that OpenSSL builds from its text, in the context of the
issuer and the certificate itself. -/
def addV3Ext (issuer cert : X509) (nid : Nid) (value : String) :
    Result X509 := do
  let (critical, content) ←
    ssl.nonNull ("X509V3_EXT_conf_nid (nid=" ++ toString nid.number ++ ")")
      (ssl.v3ExtConf issuer (some cert) nid value)
  ssl.call "X509_add_ext"
  return { cert with
    extensions := cert.extensions ++ [⟨nid.oid, critical, content⟩] }

theorem addV3Ext_eq_ok {ssl : OpenSsl} {issuer cert extended : X509}
    {nid : Nid} {text : String}
    (added : addV3Ext ssl issuer cert nid text = .ok extended) :
    ∃ critical content, extended = { cert with
      extensions := cert.extensions ++ [⟨nid.oid, critical, content⟩] } := by
  unfold addV3Ext at added
  simp only [bind_eq_ok] at added
  obtain ⟨⟨critical, content⟩, _, _, _, returned⟩ := added
  cases returned
  exact ⟨critical, content, rfl⟩

def pubkeySpkiSha384 (cert : X509) : Result Bytes := do
  let pkey ← ssl.nonNull "X509_get0_pubkey" cert.pubkey
  ssl.call "i2d_PUBKEY"
  ssl.call "EVP_Digest (SHA-384 over SPKI)"
  return ssl.sha384 pkey.spki

end TeeAnchor.Pki
