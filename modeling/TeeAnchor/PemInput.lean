import TeeAnchor.TdQuoteFraming

/-!
# What the PEM reader is given

The certificates of a quote are read from a memory BIO over the located region,
whose size becomes an `int`.  Up to the largest `int` the reader is given just
the region, and for the same content this is the same text in every kind of
quote.
-/

namespace TeeAnchor

/-- The bytes that a located region makes readable. -/
def OpenSsl.readable (ssl : OpenSsl) (quote : Bytes) (region : Nat × Nat) :
    Bytes :=
  ssl.memBuf (quote.drop region.1) (toInt32 region.2)

def readCertificates (ssl : OpenSsl) (missing : String) (readable : Bytes) :
    Result (List X509) := do
  ssl.call "BIO_new_mem_buf"
  let chain := ssl.pemReadX509 readable
  if chain.isEmpty then teeAnchorError missing
  return chain

namespace Sgx

def missingCertificates : String :=
  "no PCK certificates found in quote certification_data"

/-- What the PEM reader is given of an SGX quote. -/
def pemInput (ssl : OpenSsl) (quote : Bytes) : Result Bytes :=
  ssl.readable quote <$> locateRegion quote

theorem extractPckChainFromQuote_eq_pemInput (ssl : OpenSsl) (quote : Bytes) :
    extractPckChainFromQuote ssl quote =
      pemInput ssl quote >>= readCertificates ssl missingCertificates := by
  rw [extractPckChainFromQuote_eq, pemInput]
  cases locateRegion quote with
  | error failure => rfl
  | ok region => rfl

end Sgx

namespace Tdx

def missingCertificates : String :=
  "no PCK certificates found in TD quote certification data"

/-- What the PEM reader is given of a TD quote. -/
def pemInput (ssl : OpenSsl) (quote : Bytes) : Result Bytes :=
  ssl.readable quote <$> locateRegion quote

theorem extractPckChainFromQuote_eq_pemInput (ssl : OpenSsl) (quote : Bytes) :
    extractPckChainFromQuote ssl quote =
      pemInput ssl quote >>= readCertificates ssl missingCertificates := by
  rw [extractPckChainFromQuote_eq, pemInput]
  cases locateRegion quote with
  | error failure => rfl
  | ok region => rfl

end Tdx

theorem OpenSsl.readable_eq_field {ssl : OpenSsl}
    (readsMemory : ssl.ReadsMemory) {quote : Bytes} {off size : Nat}
    (small : size < 2 ^ 31) :
    ssl.readable quote (off, size) = field quote off size := by
  rw [OpenSsl.readable, toInt32_of_lt small, readsMemory]
  rfl

namespace Sgx

/-- A version 3 quote. -/
structure SgxQuote where
  header : Bytes
  reportBody : Bytes
  content : QuoteContent
  header_length : header.length = 48
  reportBody_length : reportBody.length = 384

def SgxQuote.bytes (quote : SgxQuote) : Bytes :=
  quote.header ++ (quote.reportBody ++
    (leBytes 4 quote.content.sgxSigData.length ++ quote.content.sgxSigData))

def SgxQuote.front (quote : SgxQuote) : Bytes :=
  quote.header ++ quote.reportBody ++
    leBytes 4 quote.content.sgxSigData.length ++ quote.content.signature ++
    quote.content.attestPubKey

theorem SgxQuote.front_length (quote : SgxQuote) :
    quote.front.length = 564 := by
  simp only [front, List.length_append, leBytes_length, quote.header_length,
    quote.reportBody_length, quote.content.signature_length,
    quote.content.attestPubKey_length]

theorem SgxQuote.bytes_append (quote : SgxQuote) (trailing : Bytes) :
    quote.bytes ++ trailing =
      quote.front ++ (quote.content.certification.bytes ++ trailing) := by
  simp [bytes, front, QuoteContent.sgxSigData, List.append_assoc]

/-- The fields from 564 on decide. -/
theorem locateRegion_eq_ok_iff_at {quote : Bytes} {off size : Nat} :
    locateRegion quote = .ok (off, size) ↔
      ∃ authSize, QeCertification.At quote 564 authSize size ∧
        off = 1020 + authSize := by
  rw [locateRegion_eq_ok]
  constructor
  · rintro ⟨offEq, inside, type, sizeEq⟩
    exact ⟨leField quote 1012 2, ⟨rfl, type, sizeEq.symm, by omega⟩, offEq⟩
  · rintro ⟨authSize, ⟨rfl, type, sizeEq, inside⟩, offEq⟩
    exact ⟨offEq, by omega, type, sizeEq.symm⟩

theorem SgxQuote.locateRegion_bytes (quote : SgxQuote) (trailing : Bytes) :
    locateRegion (quote.bytes ++ trailing) =
      .ok (1020 + quote.content.certification.authData.length,
        quote.content.certification.pem.length) := by
  rw [locateRegion_eq_ok_iff_at]
  exact ⟨_, quote.content.certification.at_of_split
    (quote.bytes_append trailing) quote.front_length, rfl⟩

theorem SgxQuote.field_pem (quote : SgxQuote) (trailing : Bytes) :
    field (quote.bytes ++ trailing)
        (1020 + quote.content.certification.authData.length)
        quote.content.certification.pem.length =
      quote.content.certification.pem :=
  quote.content.certification.field_pem (quote.bytes_append trailing)
    quote.front_length

theorem SgxQuote.pemInput_bytes {ssl : OpenSsl} (readsMemory : ssl.ReadsMemory)
    (quote : SgxQuote) (short : quote.content.certification.pem.length < 2 ^ 31)
    (trailing : Bytes) :
    pemInput ssl (quote.bytes ++ trailing) =
      .ok quote.content.certification.pem := by
  rw [pemInput, quote.locateRegion_bytes trailing]
  change Except.ok (ssl.readable _ _) = _
  rw [OpenSsl.readable_eq_field readsMemory short, quote.field_pem trailing]

end Sgx

namespace Tdx

theorem TdQuote.pemInput_bytes {ssl : OpenSsl} (readsMemory : ssl.ReadsMemory)
    (quote : TdQuote) (short : quote.content.certification.pem.length < 2 ^ 31)
    (trailing : Bytes) :
    pemInput ssl (quote.bytes ++ trailing) =
      .ok quote.content.certification.pem := by
  rw [pemInput, quote.locateRegion_bytes trailing]
  change Except.ok (ssl.readable _ _) = _
  rw [OpenSsl.readable_eq_field readsMemory short, quote.field_pckOff trailing]

def TdQuote.of (header : Header) (body : Body) (content : QuoteContent)
    (short : content.certification.pem.length < 2 ^ 31) : TdQuote where
  header := header
  body := body
  content := content
  sigData_lt := by
    have authLt := content.certification.authData_lt
    rw [content.tdSigData_length]
    omega

end Tdx

theorem Sgx.extractPckChainFromQuote_of_pemInput {ssl : OpenSsl}
    {quote pem : Bytes} (given : Sgx.pemInput ssl quote = .ok pem) :
    Sgx.extractPckChainFromQuote ssl quote =
      readCertificates ssl Sgx.missingCertificates pem := by
  rw [Sgx.extractPckChainFromQuote_eq_pemInput, given, ok_bind]

theorem Tdx.extractPckChainFromQuote_of_pemInput {ssl : OpenSsl}
    {quote pem : Bytes} (given : Tdx.pemInput ssl quote = .ok pem) :
    Tdx.extractPckChainFromQuote ssl quote =
      readCertificates ssl Tdx.missingCertificates pem := by
  rw [Tdx.extractPckChainFromQuote_eq_pemInput, given, ok_bind]

/-- The certificates are read from the PEM text of a content, whether the
content is assembled to an SGX quote or to a TD quote of version 4 or 5. -/
theorem pemInput_same_content {ssl : OpenSsl} (readsMemory : ssl.ReadsMemory)
    (content : QuoteContent)
    (short : content.certification.pem.length < 2 ^ 31) :
    (∀ (header reportBody trailing : Bytes) (headerLength : header.length = 48)
      (reportBodyLength : reportBody.length = 384),
      let quote := (Sgx.SgxQuote.mk header reportBody content headerLength
        reportBodyLength).bytes ++ trailing
      Sgx.pemInput ssl quote = .ok content.certification.pem ∧
        Sgx.extractPckChainFromQuote ssl quote =
          readCertificates ssl Sgx.missingCertificates
            content.certification.pem) ∧
    (∀ (header : Tdx.Header) (report trailing : Bytes)
      (reportLength : report.length = 584),
      let quote := (Tdx.TdQuote.of header (.v4 report reportLength) content
        short).bytes ++ trailing
      Tdx.pemInput ssl quote = .ok content.certification.pem ∧
        Tdx.extractPckChainFromQuote ssl quote =
          readCertificates ssl Tdx.missingCertificates
            content.certification.pem) ∧
    (∀ (header : Tdx.Header) (bodyType report trailing : Bytes)
      (bodyTypeLength : bodyType.length = 2)
      (reportLt : report.length < 2 ^ 32),
      let quote := (Tdx.TdQuote.of header
        (.v5 bodyType report bodyTypeLength reportLt) content short).bytes ++
          trailing
      Tdx.pemInput ssl quote = .ok content.certification.pem ∧
        Tdx.extractPckChainFromQuote ssl quote =
          readCertificates ssl Tdx.missingCertificates
            content.certification.pem) := by
  refine ⟨?_, ?_, ?_⟩
  · intro header reportBody trailing headerLength reportBodyLength quote
    have given := Sgx.SgxQuote.pemInput_bytes readsMemory ⟨header, reportBody,
      content, headerLength, reportBodyLength⟩ short trailing
    exact ⟨given, Sgx.extractPckChainFromQuote_of_pemInput given⟩
  · intro header report trailing reportLength quote
    have given := Tdx.TdQuote.pemInput_bytes readsMemory
      (.of header (.v4 report reportLength) content short) short trailing
    exact ⟨given, Tdx.extractPckChainFromQuote_of_pemInput given⟩
  · intro header bodyType report trailing bodyTypeLength reportLt quote
    have given := Tdx.TdQuote.pemInput_bytes readsMemory
      (.of header (.v5 bodyType report bodyTypeLength reportLt) content short)
      short trailing
    exact ⟨given, Tdx.extractPckChainFromQuote_of_pemInput given⟩

theorem standIn_readsMemory : OpenSsl.standIn.ReadsMemory := by
  intro data size
  change data.take (size : Int).toNat = data.take size
  rw [Int.toNat_natCast]

theorem pemInput_same_content_sample :
    Sgx.pemInput .standIn ((Sgx.SgxQuote.mk (List.replicate 48 3)
      (List.replicate 384 0) Tdx.sampleQuote.content List.length_replicate
        List.length_replicate).bytes ++ [0]) = .ok [0x2d] ∧
    Tdx.pemInput .standIn ((Tdx.TdQuote.of Tdx.sampleQuote.header
      (.v4 (List.replicate 584 7) List.length_replicate)
        Tdx.sampleQuote.content (by decide)).bytes ++ []) = .ok [0x2d] ∧
    Tdx.pemInput .standIn ((Tdx.TdQuote.of Tdx.sampleQuote.header
      (.v5 [3, 0] (List.replicate 648 7) rfl
        (by rw [List.length_replicate]; decide))
        Tdx.sampleQuote.content (by decide)).bytes ++ [1]) = .ok [0x2d] :=
  have same := pemInput_same_content standIn_readsMemory
    Tdx.sampleQuote.content (by decide)
  ⟨(same.1 _ _ _ _ _).1, (same.2.1 _ _ _ _).1, (same.2.2 _ _ _ _ _ _).1⟩

end TeeAnchor
