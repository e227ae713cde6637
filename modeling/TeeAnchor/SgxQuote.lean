import TeeAnchor.FileIo
import TeeAnchor.PkiUtil
import TeeAnchor.PckChain

/-!
# SGX quotes

An SGX quote carries its PCK certificate chain in the certification data.  The
platform's PPID is an element of the SGX extension of the PCK leaf, which is
walked element by element.
-/

namespace TeeAnchor.Sgx

variable (ssl : OpenSsl)

def oidSgxExtension : String := "1.2.840.113741.1.13.1"
def oidSgxPpid : String := "1.2.840.113741.1.13.1.1"

def kQuoteHeaderSize : Nat := 48
def kReportBodySize : Nat := 384
def kSigLenFieldSize : Nat := 4
def kEcdsaFixedSize : Nat := 64 + 64 + kReportBodySize + 64
def kCertTypePckCertChain : Nat := 5

def need (q : Bytes) (off n : Nat) (what : String) : Result Unit :=
  if off > q.length ∨ n > q.length - off then
    teeAnchorError ("quote too short while reading " ++ what)
  else return ()

def rdU16le (p : Bytes) : Nat :=
  leNat (p.take 2)

def rdU32le (p : Bytes) : Nat :=
  leNat (p.take 4)

def vAsn1Sequence : Nat := 16

def asn1Failed (object : Asn1Object) : Bool :=
  object.ret &&& 0x80 != 0

/-- The elements from `p` up to the end of the sequence; the content of the
value that follows the target identifier is returned.  Every element takes at
least one byte, so the length of the sequence bounds the number of rounds. -/
def walkElements (target : String) : Nat → Bytes → Option Bytes
  | 0, _ => none
  | fuel + 1, p =>
      if p.isEmpty then none
      else
        let elem := ssl.asn1GetObject p
        if asn1Failed elem || elem.tag != vAsn1Sequence then none
        else
          let elemContent := (p.drop elem.header).take elem.length
          match ssl.d2iAsn1Object elemContent with
          | none => none
          | some (obj, used) =>
              if obj = target then
                let op := elemContent.drop used
                let value := ssl.asn1GetObject op
                if asn1Failed value then none
                else some ((op.drop value.header).take value.length)
              else walkElements target fuel (p.drop (elem.header + elem.length))

def walkExtension (der : Bytes) (target : String) : Option Bytes :=
  let outer := ssl.asn1GetObject der
  if asn1Failed outer || outer.tag != vAsn1Sequence then none
  else
    let content := (der.drop outer.header).take outer.length
    walkElements ssl target (content.length + 1) content

/-- What is read from a memory BIO until reading fails. -/
def readChain (bytes : Bytes) (size : Nat) (missing : String) :
    Result (List X509) := do
  ssl.call "BIO_new_mem_buf"
  let chain := ssl.pemReadX509 (ssl.memBuf bytes (toInt32 size))
  if chain.isEmpty then teeAnchorError missing
  return chain

def extractPckChainFromQuote (quote : Bytes) : Result (List X509) := do
  let off := kQuoteHeaderSize + kReportBodySize + kSigLenFieldSize
  need quote off kEcdsaFixedSize "ecdsa signature fixed part"
  let off := off + kEcdsaFixedSize
  need quote off 2 "auth_data size"
  let authSize := rdU16le (quote.drop off)
  let off := off + 2
  need quote off authSize "auth_data body"
  let off := off + authSize
  need quote off 6 "certification_data header"
  let certKeyType := rdU16le (quote.drop off)
  let certSize := rdU32le (quote.drop (off + 2))
  let off := off + 6
  need quote off certSize "certification_data body"
  if certKeyType ≠ kCertTypePckCertChain then
    teeAnchorError ("unsupported cert_key_type=" ++ toString certKeyType ++
      " (expected 5 = PCK_CERT_CHAIN); quote lacks an embedded PCK cert chain")
  readChain ssl (quote.drop off) certSize
    "no PCK certificates found in quote certification_data"

/-- The content of the element with the given identifier in the SGX extension,
when there is one. -/
def findSgxExtensionOctet (pckLeaf : X509) (oid : String) :
    Result (Option Bytes) := do
  let extOid ← ssl.makeOid oidSgxExtension
  match pckLeaf.extByObj extOid with
  | none => return none
  | some ext =>
      let target ← ssl.makeOid oid
      return walkExtension ssl ext.value target

def extractPpidFromQuote (quote : Bytes) : Result Bytes := do
  let chain ← extractPckChainFromQuote ssl quote
  let leaf ← verifyPckChain ssl chain
  match ← findSgxExtensionOctet ssl leaf oidSgxPpid with
  | none =>
      teeAnchorError
        "PPID (OID 1.2.840.113741.1.13.1.1) not found in PCK cert"
  | some ppid => return ppid

end TeeAnchor.Sgx
