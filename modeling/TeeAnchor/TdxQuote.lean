import TeeAnchor.SgxQuote

/-!
# TD quotes

A TD quote nests the PCK chain in two layers of certification data, after a
report body whose length depends on the version.  The chain and the PPID are
then handled as for SGX.
-/

namespace TeeAnchor.Tdx

open Sgx

def kHeaderSize : Nat := 48
def kSigPubkeySize : Nat := 64 + 64
def kCertHdrSize : Nat := 6
def kQeReportSize : Nat := 384
def kQeReportSig : Nat := 64
def kCertTypeQeReport : Nat := 6
def kCertTypePck : Nat := 5
def kTdReportBodyV4 : Nat := 584

def need (q : Bytes) (off n : Nat) (what : String) : Result Unit :=
  if off > q.length ∨ n > q.length - off then
    teeAnchorError ("TD quote too short while reading " ++ what)
  else return ()

/-- The inner certification data, which has to end where the outer one and the
signature data end. -/
def locateInnerRegion (q : Bytes) (p outerEnd : Nat) : Option (Nat × Nat) := do
  if p + kCertHdrSize > outerEnd then none
  let innerType := rdU16le (q.drop p)
  let innerSize := rdU32le (q.drop (p + 2))
  let innerBody := p + kCertHdrSize
  if innerType ≠ kCertTypePck then none
  if innerSize > outerEnd - innerBody then none
  if innerBody + innerSize ≠ outerEnd then none
  return (innerBody, innerSize)

/-- Offset and size of the PCK chain inside the signature data. -/
def locatePckRegion (q : Bytes) (sd sdl : Nat) : Option (Nat × Nat) := do
  if sd > q.length ∨ sdl > q.length - sd then none
  let sdEnd := sd + sdl
  let outerHdr := sd + kSigPubkeySize
  if outerHdr + kCertHdrSize > sdEnd then none
  let outerType := rdU16le (q.drop outerHdr)
  let outerSize := rdU32le (q.drop (outerHdr + 2))
  let outerBody := outerHdr + kCertHdrSize
  if outerType ≠ kCertTypeQeReport then none
  if outerSize > sdEnd - outerBody then none
  let outerEnd := outerBody + outerSize
  if outerEnd ≠ sdEnd then none
  let p := outerBody + kQeReportSize + kQeReportSig
  if p + 2 > outerEnd then none
  let authSize := rdU16le (q.drop p)
  let p := p + 2
  if authSize > outerEnd - p then none
  locateInnerRegion q (p + authSize) outerEnd

/-- Eight hexadecimal digits, as `%08x` prints them. -/
def hex8 (number : Nat) : String :=
  let digits := Nat.toDigits 16 number
  String.ofList (List.replicate (8 - digits.length) '0' ++ digits)

/-- The signature data after a report body that ends at `lenOff`. -/
def sigDataAt (q : Bytes) (lenOff : Nat) (version : String) :
    Result (Nat × Nat) := do
  need q lenOff 4 (version ++ " sig_len")
  let sdl := rdU32le (q.drop lenOff)
  let sd := lenOff + 4
  if (locatePckRegion q sd sdl).isNone then
    teeAnchorError (version ++
      " TD quote signature_data structure is not as expected " ++
      "(outer cert type!=6 or inner cert type!=5)")
  return (sd, sdl)

/-- Offset and length of the signature data. -/
def locateSigData (q : Bytes) : Result (Nat × Nat) := do
  need q 0 kHeaderSize "quote header"
  let version := rdU16le q
  let teeType := rdU32le (q.drop 4)
  if teeType ≠ 0x81 then
    teeAnchorError ("TD quote has unexpected tee_type=0x" ++ hex8 teeType ++
      " (expected 0x00000081 = TDX); use --tee-type sgx for SGX quotes")
  if version = 4 then sigDataAt q (kHeaderSize + kTdReportBodyV4) "v4"
  else if version = 5 then do
    need q kHeaderSize kCertHdrSize "v5 body descriptor"
    let bodySize := rdU32le (q.drop (kHeaderSize + 2))
    sigDataAt q (kHeaderSize + kCertHdrSize + bodySize) "v5"
  else
    teeAnchorError ("unsupported TD quote version=" ++ toString version ++
      " (supported: 4, 5)")

variable (ssl : OpenSsl)

def extractPckChainFromQuote (quote : Bytes) : Result (List X509) := do
  let (sd, sdl) ← locateSigData quote
  match locatePckRegion quote sd sdl with
  | none =>
      teeAnchorError "PCK cert chain not found in TD quote certification data"
  | some (pckOff, pckSize) =>
      readChain ssl (quote.drop pckOff) pckSize
        "no PCK certificates found in TD quote certification data"

def extractPpidFromQuote (quote : Bytes) : Result Bytes := do
  let chain ← extractPckChainFromQuote ssl quote
  let leaf ← verifyPckChain ssl chain
  match ← findSgxExtensionOctet ssl leaf oidSgxPpid with
  | none =>
      teeAnchorError ("PPID (OID " ++ oidSgxPpid ++ ") not found in PCK leaf")
  | some ppid => return ppid

end TeeAnchor.Tdx
