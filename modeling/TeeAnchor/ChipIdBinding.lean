import TeeAnchor.DefiniteTlv
import TeeAnchor.FileIo
import TeeAnchor.OpenSsl

/-!
# The ChipIdBinding extension

An endorsement carries the TEE type, the Chip ID and the time of issue as the
DER of a sequence in a critical extension.  The encoder is written by hand, the
decoder reads with `ASN1_get_object`.
-/

namespace TeeAnchor.Binding

open DefiniteTlv

variable (ssl : OpenSsl)

def kTeeTypeSgx : UInt8 := 0
def kTeeTypeTdx : UInt8 := 1
def kTeeTypeSevSnp : UInt8 := 2
def kTeeTypeArmCca : UInt8 := 3

def kOidChipIdBinding : String := "1.3.6.1.4.1.99999.1.1"

structure ChipIdBinding where
  teeType : UInt8
  chipId : Bytes
  issuedAt : Bytes
  deriving DecidableEq, Repr

def derLength (len : Nat) : Result Bytes :=
  if len < 0x80 then return [UInt8.ofNat len]
  else if len < 0x100 then return [0x81, UInt8.ofNat len]
  else if len < 0x10000 then
    return [0x82, UInt8.ofNat (len / 2 ^ 8), UInt8.ofNat len]
  else teeAnchorError "DER length unexpectedly large"

def derTlv (tag : UInt8) (value : Bytes) : Result Bytes := do
  let l ← derLength value.length
  return tag :: (l ++ value)

/-- The clock's text for `issuedAt` comes with the host. -/
def encodeChipIdBinding (host : Host) (teeType : UInt8) (chipId : Bytes) :
    Result Bytes := do
  let enumTlv ← derTlv 0x0A [teeType]
  let octetTlv ← derTlv 0x04 chipId
  let timeTlv ← derTlv 0x18 host.generalizedTimeNowUtc
  derTlv 0x30 (enumTlv ++ octetTlv ++ timeTlv)

def makeChipIdBindingExtension (bindingDer : Bytes) : Result X509Extension := do
  let oid ← ssl.makeOid kOidChipIdBinding
  ssl.call "ASN1_OCTET_STRING_new"
  ssl.call "ASN1_OCTET_STRING_set"
  ssl.call "X509_EXTENSION_create_by_OBJ"
  return ⟨oid, true, bindingDer⟩

def vAsn1OctetString : Nat := 4
def vAsn1Enumerated : Nat := 10
def vAsn1Sequence : Nat := 16
def vAsn1GeneralizedTime : Nat := 24

/-- Read an element with the expected tag; its content and what follows it. -/
def mustRead (p : Bytes) (expectTag : Nat) (what : String) :
    Result (Bytes × Bytes) :=
  let object := ssl.asn1GetObject p
  if object.ret &&& 0x80 ≠ 0 ∨ object.tag ≠ expectTag then
    teeAnchorError ("ChipIdBinding: " ++ what ++ " expected")
  else
    return ((p.drop object.header).take object.length,
      p.drop (object.header + object.length))

def decodeChipIdBinding (der : Bytes) : Result ChipIdBinding := do
  let outer := ssl.asn1GetObject der
  if outer.ret &&& 0x80 ≠ 0 ∨ outer.tag ≠ vAsn1Sequence then
    teeAnchorError "ChipIdBinding: outer SEQUENCE expected"
  let p := (der.drop outer.header).take outer.length
  let (tt, p) ← mustRead ssl p vAsn1Enumerated "ENUMERATED teeType"
  match tt with
  | [teeType] =>
      let (chipId, p) ← mustRead ssl p vAsn1OctetString "OCTET STRING chipId"
      let (issuedAt, _) ←
        mustRead ssl p vAsn1GeneralizedTime "GeneralizedTime issuedAt"
      return ⟨teeType, chipId, issuedAt⟩
  | _ =>
      teeAnchorError ("ChipIdBinding: teeType length must be 1, got " ++
        toString tt.length)

def extractChipIdBinding (cert : X509) : Result ChipIdBinding := do
  let oid ← ssl.makeOid kOidChipIdBinding
  match cert.extByObj oid with
  | none =>
      teeAnchorError ("ChipIdBinding extension (" ++ kOidChipIdBinding ++
        ") not found in cert")
  | some ext => decodeChipIdBinding ssl ext.value

theorem extractChipIdBinding_of_found {ssl : OpenSsl}
    (calls : ∀ context, ssl.callFails context = false) {cert : X509}
    {ext : X509Extension} (found : cert.extByObj kOidChipIdBinding = some ext) :
    extractChipIdBinding ssl cert = decodeChipIdBinding ssl ext.value := by
  simp only [extractChipIdBinding, OpenSsl.makeOid, OpenSsl.call_eq_pure calls,
    ok_bind, pure, Except.pure, found]

/-- `ASN1_get_object` reads an element in distinguished encoding with a length
of up to two bytes at the front of its input. -/
def ReadsDerTlv (ssl : OpenSsl) : Prop :=
  ∀ (identifier : UInt8) (content rest : Bytes),
    identifier &&& 0x1f ≠ 0x1f → content.length < 0x10000 →
    ssl.asn1GetObject (element identifier content ++ rest) =
      ⟨(identifier &&& 0x20).toNat, (identifier &&& 0x1f).toNat,
        (identifier &&& 0xc0).toNat,
        1 + (shortestLength content.length).length, content.length⟩

/-- The header reader, answering as `ASN1_get_object` does. -/
def readObject (der : Bytes) : Asn1Object :=
  match readHeader der with
  | none => ⟨0x80, 0, 0, 0, 0⟩
  | some (identifier, header, length) =>
      ⟨(identifier &&& 0x20).toNat, (identifier &&& 0x1f).toNat,
        (identifier &&& 0xc0).toNat, header, length⟩

theorem readObject_readsDerTlv {ssl : OpenSsl}
    (reader : ssl.asn1GetObject = readObject) : ReadsDerTlv ssl := by
  intro identifier content rest lowTag fits
  have header := readHeader_append lowTag
    (shortestLength_definite (by omega : content.length < 256 ^ 4)) rest
  rw [reader, element, List.cons_append, List.append_assoc]
  simp only [readObject, header]

theorem derLength_eq (len : Nat) :
    derLength len =
      if len < 0x10000 then .ok (shortestLength len)
      else teeAnchorError "DER length unexpectedly large" := by
  unfold derLength
  by_cases short : len < 0x80
  · rw [if_pos short, if_pos (by omega), shortestLength_short short]
    rfl
  rw [if_neg short]
  by_cases oneByte : len < 0x100
  · rw [if_pos oneByte, if_pos (by omega),
      shortestLength_long (by omega) (by omega : 256 ^ 0 ≤ len) oneByte]
    rfl
  rw [if_neg oneByte]
  by_cases twoBytes : len < 0x10000
  · rw [if_pos twoBytes, if_pos twoBytes,
      shortestLength_long (by omega) (by omega : 256 ^ 1 ≤ len) twoBytes]
    rfl
  · rw [if_neg twoBytes, if_neg twoBytes]

theorem derTlv_eq (tag : UInt8) (value : Bytes) :
    derTlv tag value =
      if value.length < 0x10000 then .ok (element tag value)
      else teeAnchorError "DER length unexpectedly large" := by
  unfold derTlv
  rw [derLength_eq]
  by_cases fits : value.length < 0x10000
  · rw [if_pos fits, if_pos fits]
    rfl
  · rw [if_neg fits, if_neg fits]
    rfl

theorem drop_header (identifier : UInt8) (lengthBytes content : Bytes) :
    (identifier :: (lengthBytes ++ content)).drop (1 + lengthBytes.length) =
      content := by
  rw [Nat.add_comm, List.drop_succ_cons]
  exact List.drop_left

theorem mustRead_element {ssl : OpenSsl} (reads : ReadsDerTlv ssl)
    {tag : UInt8} {value : Bytes} (fits : value.length < 0x10000)
    {expectTag : Nat} (tagEq : (tag &&& 0x1f).toNat = expectTag)
    (lowTag : tag &&& 0x1f ≠ 0x1f) (primitive : tag &&& 0x20 = 0)
    (rest : Bytes) (what : String) :
    mustRead ssl (element tag value ++ rest) expectTag what =
      .ok (value, rest) := by
  have object := reads tag value rest lowTag fits
  have whole : element tag value ++ rest =
      tag :: (shortestLength value.length ++ (value ++ rest)) := by
    rw [element, List.cons_append, List.append_assoc]
  have content : (element tag value ++ rest).drop
      (1 + (shortestLength value.length).length) = value ++ rest := by
    rw [whole]
    exact drop_header _ _ _
  have following : (element tag value ++ rest).drop
      (1 + (shortestLength value.length).length + value.length) = rest := by
    rw [← List.drop_drop, content]
    exact List.drop_left
  unfold mustRead
  simp only [object, primitive, content, following, List.take_left]
  rw [if_neg (by simp [tagEq])]
  rfl

def bindingContent (teeType : UInt8) (chipId issuedAt : Bytes) : Bytes :=
  element 0x0a [teeType] ++ (element 0x04 chipId ++ element 0x18 issuedAt)

theorem members_fit {teeType : UInt8} {chipId issuedAt : Bytes}
    (fits : (bindingContent teeType chipId issuedAt).length < 0x10000) :
    chipId.length < 0x10000 ∧ issuedAt.length < 0x10000 := by
  rw [bindingContent, List.length_append, List.length_append, element_length,
    element_length, element_length] at fits
  omega

/-- The encoder writes the distinguished encoding or refuses. -/
theorem encodeChipIdBinding_eq (host : Host) (teeType : UInt8)
    (chipId : Bytes) :
    encodeChipIdBinding host teeType chipId =
      if (bindingContent teeType chipId host.generalizedTimeNowUtc).length <
          0x10000 then
        .ok (element 0x30
          (bindingContent teeType chipId host.generalizedTimeNowUtc))
      else teeAnchorError "DER length unexpectedly large" := by
  unfold encodeChipIdBinding
  rw [derTlv_eq 0x0a, derTlv_eq 0x04, derTlv_eq 0x18,
    if_pos (by simp : [teeType].length < 0x10000), ok_bind]
  by_cases fits : (bindingContent teeType chipId
      host.generalizedTimeNowUtc).length < 0x10000
  · obtain ⟨chipIdFits, issuedAtFits⟩ := members_fit fits
    rw [if_pos chipIdFits, ok_bind, if_pos issuedAtFits, ok_bind, derTlv_eq,
      List.append_assoc]
    rfl
  · rw [if_neg fits]
    by_cases chipIdFits : chipId.length < 0x10000
    · rw [if_pos chipIdFits, ok_bind]
      by_cases issuedAtFits : host.generalizedTimeNowUtc.length < 0x10000
      · rw [if_pos issuedAtFits, ok_bind, derTlv_eq, List.append_assoc]
        exact if_neg fits
      · rw [if_neg issuedAtFits]
        rfl
    · rw [if_neg chipIdFits]
      rfl

/-- A binding in distinguished encoding is read back, whatever follows its
members and the sequence. -/
theorem decodeChipIdBinding_element {ssl : OpenSsl} (reads : ReadsDerTlv ssl)
    {teeType : UInt8} {chipId issuedAt notes : Bytes}
    (fits : (bindingContent teeType chipId issuedAt ++ notes).length < 0x10000)
    (rest : Bytes) :
    decodeChipIdBinding ssl
        (element 0x30 (bindingContent teeType chipId issuedAt ++ notes) ++
          rest) =
      .ok ⟨teeType, chipId, issuedAt⟩ := by
  have bindingFits :
      (bindingContent teeType chipId issuedAt).length < 0x10000 := by
    rw [List.length_append] at fits
    omega
  obtain ⟨chipIdFits, issuedAtFits⟩ := members_fit bindingFits
  have outer := reads 0x30 _ rest (by decide) fits
  have content : (element 0x30 (bindingContent teeType chipId issuedAt ++
      notes) ++ rest).drop (1 + (shortestLength
        (bindingContent teeType chipId issuedAt ++ notes).length).length) =
      bindingContent teeType chipId issuedAt ++ notes ++ rest := by
    rw [element, List.cons_append, List.append_assoc]
    exact drop_header _ _ _
  have readEnum : mustRead ssl (element 0x0a [teeType] ++
      (element 0x04 chipId ++ (element 0x18 issuedAt ++ notes)))
      vAsn1Enumerated "ENUMERATED teeType" = .ok ([teeType], _) :=
    mustRead_element reads (by simp) rfl (by decide) (by decide) _ _
  have readOctet : mustRead ssl (element 0x04 chipId ++
      (element 0x18 issuedAt ++ notes))
      vAsn1OctetString "OCTET STRING chipId" = .ok (chipId, _) :=
    mustRead_element reads chipIdFits rfl (by decide) (by decide) _ _
  have readTime : mustRead ssl (element 0x18 issuedAt ++ notes)
      vAsn1GeneralizedTime "GeneralizedTime issuedAt" =
        .ok (issuedAt, notes) :=
    mustRead_element reads issuedAtFits rfl (by decide) (by decide) _ _
  have members : bindingContent teeType chipId issuedAt ++ notes =
      element 0x0a [teeType] ++
        (element 0x04 chipId ++ (element 0x18 issuedAt ++ notes)) := by
    simp only [bindingContent, List.append_assoc]
  have sequence : ¬(((0x30 : UInt8) &&& 0x20).toNat &&& 0x80 ≠ 0 ∨
      ((0x30 : UInt8) &&& 0x1f).toNat ≠ vAsn1Sequence) := by decide
  unfold decodeChipIdBinding
  simp only [outer, if_neg sequence, content, List.take_left]
  rw [members]
  simp only [readEnum, readOctet, readTime, bind, Except.bind]
  rfl

/-- The decoder returns what the encoder was given, for every TEE type and
every Chip ID and time that the encoder accepts. -/
theorem decodeChipIdBinding_encode {ssl : OpenSsl}
    (reads : ReadsDerTlv ssl) {host : Host} {teeType : UInt8}
    {chipId der : Bytes}
    (written : encodeChipIdBinding host teeType chipId = .ok der) :
    decodeChipIdBinding ssl der =
      .ok ⟨teeType, chipId, host.generalizedTimeNowUtc⟩ := by
  rw [encodeChipIdBinding_eq] at written
  by_cases fits : (bindingContent teeType chipId
      host.generalizedTimeNowUtc).length < 0x10000
  · rw [if_pos fits] at written
    cases written
    have readBack := @decodeChipIdBinding_element ssl reads teeType chipId
      host.generalizedTimeNowUtc [] (by rwa [List.append_nil]) []
    rwa [List.append_nil, List.append_nil] at readBack
  · rw [if_neg fits] at written
    cases written

end TeeAnchor.Binding
