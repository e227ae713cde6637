import TeeAnchor.GuardedTdQuote

/-!
# The layout of quotes

A quote as its parts.  The certification of the quoting enclave, which ends in
the PEM text of the PCK chain, is the same in SGX and TD quotes; a TD quote
wraps it in certification data of its own.
-/

namespace TeeAnchor

/-- The report of the quoting enclave with what authenticates it. -/
structure QeCertification where
  qeReport : Bytes
  qeReportSig : Bytes
  authData : Bytes
  pem : Bytes
  qeReport_length : qeReport.length = 384
  qeReportSig_length : qeReportSig.length = 64
  authData_lt : authData.length < 2 ^ 16
  pem_lt : pem.length < 2 ^ 32

def certData (type : Nat) (body : Bytes) : Bytes :=
  leBytes 2 type ++ (leBytes 4 body.length ++ body)

theorem certData_length (type : Nat) (body : Bytes) :
    (certData type body).length = 6 + body.length := by
  rw [certData, List.length_append, List.length_append, leBytes_length,
    leBytes_length]
  omega

namespace QeCertification

def bytes (certification : QeCertification) : Bytes :=
  certification.qeReport ++ (certification.qeReportSig ++
    (leBytes 2 certification.authData.length ++ (certification.authData ++
      certData 5 certification.pem)))

theorem bytes_length (certification : QeCertification) :
    certification.bytes.length =
      456 + certification.authData.length + certification.pem.length := by
  simp only [bytes, List.length_append, leBytes_length, certData_length,
    certification.qeReport_length, certification.qeReportSig_length]
  omega

/-- The fields at an offset frame a certification with this much authentication
data and PEM text. -/
def At (q : Bytes) (base authSize size : Nat) : Prop :=
  leField q (base + 448) 2 = authSize ∧
  leField q (base + 450 + authSize) 2 = 5 ∧
  leField q (base + 452 + authSize) 4 = size ∧
  base + 456 + authSize + size ≤ q.length

/-- The certification that the fields at an offset frame. -/
def ofFields {q : Bytes} {base authSize size : Nat}
    (framed : At q base authSize size) : QeCertification where
  qeReport := field q base 384
  qeReportSig := field q (base + 384) 64
  authData := field q (base + 450) authSize
  pem := field q (base + 456 + authSize) size
  qeReport_length := by
    obtain ⟨_, _, _, inside⟩ := framed
    exact field_length (by omega)
  qeReportSig_length := by
    obtain ⟨_, _, _, inside⟩ := framed
    exact field_length (by omega)
  authData_lt := by
    obtain ⟨auth, _, _, inside⟩ := framed
    have bound := leField_lt q (base + 448) 2
    rw [field_length (by omega)]
    omega
  pem_lt := by
    obtain ⟨_, _, pemSize, inside⟩ := framed
    have bound := leField_lt q (base + 452 + authSize) 4
    rw [field_length (by omega)]
    omega

theorem bytes_ofFields {q : Bytes} {base authSize size : Nat}
    (framed : At q base authSize size) :
    (ofFields framed).bytes = field q base (456 + authSize + size) := by
  have framing := framed
  obtain ⟨auth, type, pemSize, inside⟩ := framing
  have authBytes : leBytes 2 authSize = field q (base + 448) 2 :=
    leBytes_of_leField auth (by omega)
  have typeBytes : leBytes 2 5 = field q (base + 450 + authSize) 2 :=
    leBytes_of_leField type (by omega)
  have sizeBytes : leBytes 4 size = field q (base + 452 + authSize) 4 :=
    leBytes_of_leField pemSize (by omega)
  have widths : 456 + authSize + size =
      384 + (64 + (2 + (authSize + (2 + (4 + size))))) := by omega
  have sizeOff : base + (450 + (authSize + 2)) = base + (452 + authSize) := by
    omega
  have pemOff : base + (450 + (authSize + 6)) = base + (456 + authSize) := by
    omega
  rw [bytes, certData]
  simp only [ofFields, field_length (show base + 450 + authSize ≤ q.length by
    omega), field_length (show base + 456 + authSize + size ≤ q.length by
    omega), authBytes, typeBytes, sizeBytes]
  rw [widths]
  simp only [← field_append_field, Nat.add_assoc, Nat.reduceAdd]
  rw [sizeOff, pemOff]

theorem at_of_split (certification : QeCertification) {q before after : Bytes}
    (split : q = before ++ (certification.bytes ++ after)) {base : Nat}
    (start : before.length = base) :
    At q base certification.authData.length certification.pem.length := by
  have reportLength := certification.qeReport_length
  have sigLength := certification.qeReportSig_length
  have authLt := certification.authData_lt
  have pemLt := certification.pem_lt
  refine ⟨?_, ?_, ?_, ?_⟩
  · have here : q = (before ++ certification.qeReport ++
        certification.qeReportSig) ++ (leBytes 2 certification.authData.length ++
        (certification.authData ++ (certData 5 certification.pem ++ after))) := by
      simp [split, bytes, List.append_assoc]
    rw [here]
    refine leField_of_split ?_ (by omega)
    simp only [List.length_append]
    omega
  · have here : q = (before ++ certification.qeReport ++
        certification.qeReportSig ++ leBytes 2 certification.authData.length ++
        certification.authData) ++ (leBytes 2 5 ++
        (leBytes 4 certification.pem.length ++ (certification.pem ++ after))) := by
      simp [split, bytes, certData, List.append_assoc]
    rw [here]
    refine leField_of_split ?_ (by omega)
    simp only [List.length_append, leBytes_length]
    omega
  · have here : q = (before ++ certification.qeReport ++
        certification.qeReportSig ++ leBytes 2 certification.authData.length ++
        certification.authData ++ leBytes 2 5) ++
        (leBytes 4 certification.pem.length ++
          (certification.pem ++ after)) := by
      simp [split, bytes, certData, List.append_assoc]
    rw [here]
    refine leField_of_split ?_ (by omega)
    simp only [List.length_append, leBytes_length]
    omega
  · rw [split, List.length_append, List.length_append, bytes_length]
    omega

theorem field_pem (certification : QeCertification) {q before after : Bytes}
    (split : q = before ++ (certification.bytes ++ after)) {base : Nat}
    (start : before.length = base) :
    field q (base + 456 + certification.authData.length)
        certification.pem.length = certification.pem := by
  have reportLength := certification.qeReport_length
  have sigLength := certification.qeReportSig_length
  have here : q = (before ++ certification.qeReport ++
      certification.qeReportSig ++ leBytes 2 certification.authData.length ++
      certification.authData ++ leBytes 2 5 ++
      leBytes 4 certification.pem.length) ++ (certification.pem ++ after) := by
    simp [split, bytes, certData, List.append_assoc]
  rw [here]
  refine field_of_split ?_ rfl
  simp only [List.length_append, leBytes_length]
  omega

theorem append_inj {first second : QeCertification} {rest rest' : Bytes}
    (same : first.bytes ++ rest = second.bytes ++ rest') :
    first = second ∧ rest = rest' := by
  have firstAuthLt := first.authData_lt
  have secondAuthLt := second.authData_lt
  have firstPemLt := first.pem_lt
  have secondPemLt := second.pem_lt
  simp only [bytes, certData, List.append_assoc] at same
  obtain ⟨sameReport, same⟩ := List.append_inj same
    (first.qeReport_length.trans second.qeReport_length.symm)
  obtain ⟨sameSig, same⟩ := List.append_inj same
    (first.qeReportSig_length.trans second.qeReportSig_length.symm)
  obtain ⟨sameAuthSize, same⟩ := List.append_inj same (by simp)
  obtain ⟨sameAuth, same⟩ := List.append_inj same
    (leBytes_inj (by omega) (by omega) sameAuthSize)
  obtain ⟨_, same⟩ := List.append_inj same (by simp)
  obtain ⟨samePemSize, same⟩ := List.append_inj same (by simp)
  obtain ⟨samePem, sameRest⟩ := List.append_inj same
    (leBytes_inj (by omega) (by omega) samePemSize)
  cases first
  cases second
  cases sameReport
  cases sameSig
  cases sameAuth
  cases samePem
  exact ⟨rfl, sameRest⟩

end QeCertification

/-- The content of a quote: its signature by the attestation key, that key and
its certification. -/
structure QuoteContent where
  signature : Bytes
  attestPubKey : Bytes
  certification : QeCertification
  signature_length : signature.length = 64
  attestPubKey_length : attestPubKey.length = 64

namespace QuoteContent

def tdSigData (content : QuoteContent) : Bytes :=
  content.signature ++ (content.attestPubKey ++
    certData 6 content.certification.bytes)

theorem tdSigData_length (content : QuoteContent) :
    content.tdSigData.length =
      590 + content.certification.authData.length +
        content.certification.pem.length := by
  simp only [tdSigData, List.length_append, certData_length,
    content.signature_length, content.attestPubKey_length,
    QeCertification.bytes_length]
  omega

def sgxSigData (content : QuoteContent) : Bytes :=
  content.signature ++ (content.attestPubKey ++ content.certification.bytes)

end QuoteContent

namespace Tdx

/-- The quote header, without the version. -/
structure Header where
  attKeyType : Bytes
  remainder : Bytes
  attKeyType_length : attKeyType.length = 2
  remainder_length : remainder.length = 40

def Header.bytes (header : Header) (version : Nat) : Bytes :=
  leBytes 2 version ++ (header.attKeyType ++
    (leBytes 4 0x81 ++ header.remainder))

theorem Header.bytes_length (header : Header) (version : Nat) :
    (header.bytes version).length = 48 := by
  simp only [Header.bytes, List.length_append, leBytes_length,
    header.attKeyType_length, header.remainder_length]

/-- The report body in the form of the quote's version. -/
inductive Body
  | v4 (report : Bytes) (report_length : report.length = 584)
  | v5 (bodyType report : Bytes) (bodyType_length : bodyType.length = 2)
      (report_lt : report.length < 2 ^ 32)

def Body.version : Body → Nat
  | .v4 _ _ => 4
  | .v5 _ _ _ _ => 5

theorem Body.version_lt (body : Body) : body.version < 256 ^ 2 := by
  cases body with
  | v4 report reportLength => simp [Body.version]
  | v5 bodyType report typeLength reportLt => simp [Body.version]

def Body.bytes : Body → Bytes
  | .v4 report _ => report
  | .v5 bodyType report _ _ => bodyType ++ (leBytes 4 report.length ++ report)

structure TdQuote where
  header : Header
  body : Body
  content : QuoteContent
  sigData_lt : content.tdSigData.length < 2 ^ 32

namespace TdQuote

def bytes (quote : TdQuote) : Bytes :=
  quote.header.bytes quote.body.version ++ (quote.body.bytes ++
    (leBytes 4 quote.content.tdSigData.length ++ quote.content.tdSigData))

/-- Where the PEM text begins. -/
def pckOff (quote : TdQuote) : Nat :=
  48 + quote.body.bytes.length + 4 + 590 +
    quote.content.certification.authData.length

end TdQuote

end Tdx

end TeeAnchor
