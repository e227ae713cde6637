import TeeAnchor.FileIo
import TeeAnchor.OpenSsl

/-!
# Arm CCA attestation tokens

The platform token inside a CCA token is a COSE_Sign1.  Its protected header
and payload are put into a Sig_structure, the message that the pinned CPAK has
to have signed, and the claims are read from the same payload.
-/

namespace TeeAnchor.Cca

open Cbor

def kCcaTokenTag : UInt64 := 399
def kCoseSign1Tag : UInt64 := 18
def kPlatformTokenKey : Int64 := 44234
def kInstanceIdKey : Int64 := 256
def kImplIdKey : Int64 := 2396
def kCoseAlgKey : Int64 := 1
def kCoseAlgES384 : Int64 := -35

def kCpakSpkiDer : Bytes :=
  [ 0x30, 0x76, 0x30, 0x10, 0x06, 0x07, 0x2a, 0x86, 0x48, 0xce, 0x3d, 0x02,
    0x01, 0x06, 0x05, 0x2b, 0x81, 0x04, 0x00, 0x22, 0x03, 0x62, 0x00, 0x04,
    0x21, 0x28, 0x67, 0xc5, 0x2e, 0x2b, 0x95, 0x08, 0xb0, 0xa4, 0x20, 0xa9,
    0x05, 0x60, 0xf3, 0x94, 0xd2, 0xdf, 0xaa, 0x21, 0xbd, 0xd7, 0x51, 0x4f,
    0xf1, 0xa9, 0x01, 0xaf, 0xe7, 0xe1, 0xf7, 0x8b, 0xb1, 0x1d, 0x4e, 0x66,
    0xf8, 0xa8, 0xa3, 0x8a, 0xfa, 0x76, 0xaf, 0x6a, 0x31, 0xc4, 0xde, 0x8c,
    0x84, 0xce, 0x2d, 0xaf, 0xc9, 0x96, 0x42, 0x58, 0xb5, 0x3f, 0xad, 0x71,
    0x87, 0x74, 0xf4, 0x56, 0x20, 0xd1, 0x11, 0xb1, 0x76, 0xe8, 0x31, 0x8e,
    0x11, 0x87, 0xdb, 0x02, 0x35, 0xa3, 0x18, 0xd3, 0x7b, 0xa5, 0x97, 0xfe,
    0xe8, 0x0e, 0x0e, 0x4c, 0x76, 0x2a, 0x12, 0xbc, 0xb3, 0xea, 0x6e, 0xd4 ]

structure CcaVerifyResult where
  instanceId : Bytes
  implementationId : Bytes
  cpak : EvpPkey
  deriving DecidableEq, Repr

/-- The byte strings of a COSE_Sign1 that are used. -/
structure CoseSign1 where
  protectedB : Bytes
  payloadB : Bytes
  sigB : Bytes
  deriving DecidableEq, Repr

def loadPinnedCpak (ssl : OpenSsl) : Result EvpPkey :=
  ssl.nonNull "d2i_PUBKEY (pinned CPAK)" (ssl.d2iPubkey kCpakSpkiDer)

/-- Check a raw signature, `r` and `s` of 48 bytes each. -/
def verifyEs384 (ssl : OpenSsl) (pk : EvpPkey) (msg rawSig : Bytes) :
    Result Bool := do
  if rawSig.length ≠ 96 then
    teeAnchorError ("CCA: unexpected COSE signature length " ++
      "(expected 96 bytes for ES384/P-384)")
  let r := beNat (rawSig.take 48)
  let s := beNat (rawSig.drop 48)
  ssl.call "BN_bin2bn (COSE signature)"
  ssl.call "ECDSA_SIG_new"
  ssl.call "ECDSA_SIG_set0"
  ssl.call "i2d_ECDSA_SIG (length)"
  ssl.call "i2d_ECDSA_SIG"
  ssl.call "EVP_MD_CTX_new"
  ssl.call "EVP_DigestVerifyInit (ES384)"
  let rc := ssl.ecdsaSha384Verify pk r s msg
  if rc < 0 then ssl.throwOpensslError "EVP_DigestVerify"
  return rc == 1

def expectBytes (value : Value) (what : String) : Result Bytes :=
  match value with
  | .bytes content => return content
  | _ => teeAnchorError ("CCA: " ++ what ++ " is not a byte string")

/-- Steps 1 and 2: the byte string of the platform token. -/
def platformToken (storage : Storage) (tok : Bytes) : Result Bytes := do
  let top ← decode storage tok
  let coll ← top.untag kCcaTokenTag
  match coll with
  | .map _ =>
      match coll.atKey kPlatformTokenKey with
      | none => teeAnchorError "CCA: cca-platform-token (key 44234) not found"
      | some plat => expectBytes plat "platform token"
  | _ =>
      teeAnchorError ("CCA: token top-level is not a CCA collection map " ++
        "(expected CBOR tag 399)")

/-- Step 3: the four elements of the COSE_Sign1. -/
def openCoseSign1 (storage : Storage) (platBytes : Bytes) :
    Result CoseSign1 := do
  let sign1 ← decode storage platBytes
  let arr ← sign1.untag kCoseSign1Tag
  match arr with
  | .array [protectedItem, _, payloadItem, sigItem] =>
      let protectedB ← expectBytes protectedItem "COSE protected header"
      let payloadB ← expectBytes payloadItem "COSE payload"
      let sigB ← expectBytes sigItem "COSE signature"
      return ⟨protectedB, payloadB, sigB⟩
  | _ =>
      teeAnchorError
        "CCA: platform token is not a COSE_Sign1 (tag18/array[4])"

/-- Step 3a: the protected header names ES384. -/
def checkAlg (storage : Storage) (protectedB : Bytes) : Result Unit := do
  let ph ← decode storage protectedB
  match ph.atKey kCoseAlgKey with
  | none => teeAnchorError "CCA: unexpected COSE alg (expected ES384=-35)"
  | some alg =>
      if (← alg.asInt) ≠ kCoseAlgES384 then
        teeAnchorError "CCA: unexpected COSE alg (expected ES384=-35)"

/-- Step 4: the message that is signed. -/
def sigStructure (protectedB payloadB : Bytes) : Bytes :=
  encHead 4 4 ++ encText (ascii "Signature1") ++ encBytes protectedB ++
    encBytes [] ++ encBytes payloadB

/-- Step 6: instance and implementation identifier in the claims. -/
def extractClaims (storage : Storage) (payloadB : Bytes) :
    Result (Bytes × Bytes) := do
  let claims ← decode storage payloadB
  match claims with
  | .map _ =>
      match claims.atKey kInstanceIdKey with
      | some (.bytes (byte :: instanceId)) =>
          match claims.atKey kImplIdKey with
          | some (.bytes implementationId) =>
              return (byte :: instanceId, implementationId)
          | _ => return (byte :: instanceId, [])
      | _ =>
          teeAnchorError
            "CCA: cca-platform-instance-id (claim 256) missing/empty"
  | _ => teeAnchorError "CCA: platform claims payload is not a map"

/-- Steps 1 to 3a, everything read before a signature is checked. -/
def signedParts (storage : Storage) (tok : Bytes) : Result CoseSign1 := do
  let platBytes ← platformToken storage tok
  let parts ← openCoseSign1 storage platBytes
  checkAlg storage parts.protectedB
  return parts

/-- The check of a token, for any way to load the key and to verify a
signature with it. -/
def verifyToken (storage : Storage) (loadCpak : Result EvpPkey)
    (verify : EvpPkey → (msg rawSig : Bytes) → Result Bool) (tok : Bytes) :
    Result CcaVerifyResult := do
  let parts ← signedParts storage tok
  let msg := sigStructure parts.protectedB parts.payloadB
  let cpak ← loadCpak
  if !(← verify cpak msg parts.sigB) then
    teeAnchorError ("CCA: platform token signature verification failed " ++
      "(CPAK pin mismatch or tampered token)")
  let (instanceId, implementationId) ← extractClaims storage parts.payloadB
  return ⟨instanceId, implementationId, cpak⟩

def verifyAndExtract (ssl : OpenSsl) (host : Host) (tokenPath : String) :
    Result CcaVerifyResult := do
  let tok ← readFile host tokenPath
  verifyToken host.storage (loadPinnedCpak ssl) (verifyEs384 ssl) tok

end TeeAnchor.Cca
