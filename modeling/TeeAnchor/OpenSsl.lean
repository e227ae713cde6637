import TeeAnchor.Errors
import TeeAnchor.ByteStrings

/-!
# OpenSSL as a parameter

The program calls OpenSSL for certificates, signatures, PEM and the ASN.1
primitives.  None of that is part of the repository, so it enters the model as
a record of functions; what a result relies on is stated with the result.  Each
call that can fail for want of resources is named by the context text that the
program throws with.
-/

namespace TeeAnchor

structure X509Name where
  entries : List (String × String)
  deriving DecidableEq, Repr

/-- A public or private key, known by its algorithm and its
SubjectPublicKeyInfo. -/
structure EvpPkey where
  baseId : Int
  spki : Bytes
  deriving DecidableEq, Repr

structure X509Extension where
  oid : String
  critical : Bool
  value : Bytes
  deriving DecidableEq, Repr

structure X509 where
  version : Nat
  serialNumber : Int
  issuer : X509Name
  subject : X509Name
  notBefore : Int
  notAfter : Int
  pubkey : Option EvpPkey
  extensions : List X509Extension
  signature : Bytes
  deriving DecidableEq, Repr

structure X509Revoked where
  serialNumber : Int
  revocationDate : Bytes
  reason : Option Nat
  deriving DecidableEq, Repr

structure X509Crl where
  version : Nat
  issuer : X509Name
  lastUpdate : Int
  nextUpdate : Int
  revoked : List X509Revoked
  crlNumber : Int
  extensions : List X509Extension
  signature : Bytes
  deriving DecidableEq, Repr

/-- What `X509_verify_cert` is asked: the trust store with its flags, the leaf
and the untrusted certificates. -/
structure VerifyContext where
  trusted : List X509
  crls : List X509Crl
  ignoreCritical : Bool
  crlCheck : Bool
  leaf : X509
  untrusted : List X509

/-- The answer of `ASN1_get_object`: its return value, the tag number and
class, how far the pointer moved and the content length. -/
structure Asn1Object where
  ret : Nat
  tag : Nat
  xclass : Nat
  header : Nat
  length : Nat
  deriving DecidableEq, Repr

/-- The extensions the program asks OpenSSL to build from text. -/
inductive Nid
  | basicConstraints
  | keyUsage
  | subjectKeyIdentifier
  | authorityKeyIdentifier
  deriving DecidableEq, Repr

def Nid.oid : Nid → String
  | .basicConstraints => "2.5.29.19"
  | .keyUsage => "2.5.29.15"
  | .subjectKeyIdentifier => "2.5.29.14"
  | .authorityKeyIdentifier => "2.5.29.35"

def Nid.number : Nid → Nat
  | .basicConstraints => 87
  | .keyUsage => 83
  | .subjectKeyIdentifier => 82
  | .authorityKeyIdentifier => 90

inductive Digest
  | sha256
  | sha384
  | sha512
  deriving DecidableEq, Repr

structure OpenSsl where
  /-- The call with this context text returns null or 0. -/
  callFails : String → Bool
  /-- The text of the last error, when there is one on the stack. -/
  errorString : String → Option String
  /-- `BIO_new_mem_buf`: the bytes readable from memory under an `int`
  length. -/
  memBuf : Bytes → Int → Bytes
  pemReadPrivateKey : Bytes → Option EvpPkey
  pemWritePrivateKey : EvpPkey → Option Bytes
  /-- What `PEM_read_bio_X509` returns, call after call, until it fails. -/
  pemReadX509 : Bytes → List X509
  pemReadX509Crl : Bytes → Option X509Crl
  pemWriteX509 : X509 → Option Bytes
  pemWriteX509Crl : X509Crl → Option Bytes
  nameCmp : X509Name → X509Name → Int
  nameAddEntryByTxt : (key value : String) → Bool
  checkPrivateKey : X509 → EvpPkey → Bool
  ecPublicPoint : EvpPkey → Option Bytes
  groupName : EvpPkey → Option String
  d2iPubkey : Bytes → Option EvpPkey
  ecGen : (curve : String) → Option EvpPkey
  /-- Value and criticality of an extension, from issuer, subject and text. -/
  v3ExtConf : X509 → Option X509 → Nid → String → Option (Bool × Bytes)
  x509Sign : X509 → EvpPkey → Option Digest → Option Bytes
  /-- `X509_CRL_sort` on the revoked list. -/
  x509CrlSort : List X509Revoked → List X509Revoked
  x509CrlSign : X509Crl → EvpPkey → Option Digest → Option Bytes
  /-- `none` when the chain verifies, else the error code. -/
  x509VerifyCert : VerifyContext → Option Int
  verifyCertErrorString : Int → String
  sha384 : Bytes → Bytes
  /-- `EVP_DigestVerify` with SHA-384 of the signature `(r, s)`. -/
  ecdsaSha384Verify : EvpPkey → (r s : Nat) → Bytes → Int
  asn1GetObject : Bytes → Asn1Object
  /-- The object identifier at the front and the size of its encoding. -/
  d2iAsn1Object : Bytes → Option (String × Nat)
  bn2hex : Int → Bytes
  hex2bn : Bytes → Option Int
  generalizedTimeSetString : Bytes → Bool

namespace OpenSsl

variable (ssl : OpenSsl)

def throwOpensslError {α : Type} (context : String) : Result α :=
  teeAnchorError (context ++ ": " ++
    (ssl.errorString context).getD "(no OpenSSL error on stack)")

def call (context : String) : Result Unit :=
  if ssl.callFails context then ssl.throwOpensslError context else return ()

def nonNull {α : Type} (context : String) : Option α → Result α
  | some value => return value
  | none => ssl.throwOpensslError context

/-- `pki::make_oid`; objects are known by their dotted text. -/
def makeOid (oid : String) : Result String := do
  ssl.call "OBJ_txt2obj"
  return oid

theorem call_eq_ok {ssl : OpenSsl} {context : String} {done : Unit} :
    ssl.call context = .ok done ↔ ssl.callFails context = false := by
  unfold OpenSsl.call
  by_cases fails : ssl.callFails context
  · simp [fails, OpenSsl.throwOpensslError]
  · simp [fails, pure, Except.pure]

theorem call_eq_pure {ssl : OpenSsl}
    (calls : ∀ context, ssl.callFails context = false) (context : String) :
    ssl.call context = .ok () :=
  call_eq_ok.mpr (calls context)

theorem nonNull_eq_ok {ssl : OpenSsl} {α : Type} {context : String}
    {found : Option α} {value : α} :
    ssl.nonNull context found = .ok value ↔ found = some value := by
  cases found with
  | none => simp [OpenSsl.nonNull, OpenSsl.throwOpensslError]
  | some other => simp [OpenSsl.nonNull, pure, Except.pure]

/-- A library in which no call fails for want of resources, names compare by
their entries, memory buffers hold what they are given and nothing else is
known. -/
def standIn : OpenSsl where
  callFails _ := false
  errorString _ := none
  memBuf data size := data.take size.toNat
  pemReadPrivateKey _ := none
  pemWritePrivateKey _ := none
  pemReadX509 _ := []
  pemReadX509Crl _ := none
  pemWriteX509 _ := none
  pemWriteX509Crl _ := none
  nameCmp name other := if name = other then 0 else 1
  nameAddEntryByTxt _ _ := true
  checkPrivateKey cert key := cert.pubkey = some key
  ecPublicPoint _ := none
  groupName _ := none
  d2iPubkey _ := none
  ecGen _ := none
  v3ExtConf _ _ _ _ := none
  x509Sign _ _ _ := none
  x509CrlSort revoked := revoked
  x509CrlSign _ _ _ := none
  x509VerifyCert _ := none
  verifyCertErrorString _ := ""
  sha384 _ := []
  ecdsaSha384Verify _ _ _ _ := 0
  asn1GetObject _ := ⟨0x80, 0, 0, 0, 0⟩
  d2iAsn1Object _ := none
  bn2hex _ := []
  hex2bn _ := none
  generalizedTimeSetString _ := true

end OpenSsl

/-- `X509_get_ext_by_OBJ` and `X509_get_ext`: the first extension with the
object identifier. -/
def X509.extByObj (cert : X509) (oid : String) : Option X509Extension :=
  cert.extensions.find? fun extension => extension.oid == oid

def toInt32 (size : Nat) : Int :=
  (BitVec.ofNat 32 size).toInt

theorem toInt32_of_lt {size : Nat} (small : size < 2 ^ 31) :
    toInt32 size = size := by
  have sizeEq : (BitVec.ofNat 32 size).toNat = size := by
    rw [BitVec.toNat_ofNat]
    omega
  unfold toInt32
  rw [BitVec.toInt_eq_toNat_of_lt, sizeEq]
  rw [sizeEq]
  omega

namespace OpenSsl

/-- A memory BIO of a length that is not negative holds that many bytes. -/
def ReadsMemory (ssl : OpenSsl) : Prop :=
  ∀ (data : Bytes) (size : Nat), ssl.memBuf data size = data.take size

/-- A certificate is read back from the PEM that is written of it. -/
def PemRoundTrip (ssl : OpenSsl) : Prop :=
  ∀ (cert : X509) (pem : Bytes), ssl.pemWriteX509 cert = some pem →
    (ssl.pemReadX509 pem).head? = some cert

/-- The library with this text as the PEM of one certificate and of no
other. -/
def withPem (ssl : OpenSsl) (cert : X509) (pem : Bytes) : OpenSsl :=
  { ssl with
    pemWriteX509 := fun other => if other = cert then some pem else none
    pemReadX509 := fun bytes =>
      if bytes = pem then [cert] else ssl.pemReadX509 bytes }

theorem withPem_roundTrip (ssl : OpenSsl) (cert : X509) (pem : Bytes) :
    PemRoundTrip (ssl.withPem cert pem) := by
  intro other text written
  simp only [withPem] at written ⊢
  by_cases same : other = cert
  · rw [if_pos same] at written
    cases written
    simp [same]
  · rw [if_neg same] at written
    cases written

end OpenSsl

end TeeAnchor
