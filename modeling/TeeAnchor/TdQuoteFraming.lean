import TeeAnchor.QuoteLayout

/-!
# TD quotes are located exactly when they are laid out as documented

The two location steps succeed on the concatenations that make up a TD quote and
on nothing else.  What they locate is the PEM text, bytes after the quote do not
matter, and the parts of a quote are determined by its bytes.
-/

namespace TeeAnchor.Tdx

open QeCertification TeeAnchor.Guarded

theorem exists_content {q : Bytes} {sd sdl off size : Nat}
    (located : locatePckRegion q sd sdl = some (off, size)) :
    ∃ content : QuoteContent, content.tdSigData = field q sd sdl ∧
      off = sd + 590 + content.certification.authData.length ∧
      size = content.certification.pem.length ∧
      content.certification.pem = field q off size := by
  obtain ⟨inside, offEq, ends, outerType, outerSize, innerType, innerSize⟩ :=
    locatePckRegion_eq_some.mp located
  generalize authEq : leField q (sd + 582) 2 = authSize at *
  have typeOff : sd + 134 + 450 + authSize = sd + 584 + authSize := by omega
  have sizeOff : sd + 134 + 452 + authSize = sd + 586 + authSize := by omega
  have framed : QeCertification.At q (sd + 134) authSize size := by
    refine ⟨authEq, ?_, ?_, by omega⟩
    · rw [typeOff, innerType]
    · rw [sizeOff, innerSize]
  have pemOff : sd + 134 + 456 + authSize = off := by omega
  let content : QuoteContent :=
    { signature := field q sd 64
      attestPubKey := field q (sd + 64) 64
      certification := ofFields framed
      signature_length := field_length (by omega)
      attestPubKey_length := field_length (by omega) }
  refine ⟨content, ?_, ?_, ?_, ?_⟩
  · have outerTypeBytes : leBytes 2 6 = field q (sd + 128) 2 :=
      leBytes_of_leField outerType (by omega)
    have outerSizeBytes : leBytes 4 (456 + authSize + size) =
        field q (sd + 130) 4 :=
      leBytes_of_leField outerSize (by omega)
    have blockLength : (field q (sd + 134) (456 + authSize + size)).length =
        456 + authSize + size := field_length (by omega)
    have widths : sdl = 64 + (64 + (2 + (4 + (456 + authSize + size)))) := by
      omega
    rw [QuoteContent.tdSigData, certData]
    change field q sd 64 ++ (field q (sd + 64) 64 ++ (leBytes 2 6 ++
      (leBytes 4 (ofFields framed).bytes.length ++
        (ofFields framed).bytes))) = field q sd sdl
    rw [bytes_ofFields, blockLength, outerTypeBytes, outerSizeBytes, widths]
    simp only [← field_append_field, Nat.add_assoc, Nat.reduceAdd]
  · have authLength : (field q (sd + 134 + 450) authSize).length = authSize :=
      field_length (by omega)
    change off = sd + 590 + (field q (sd + 134 + 450) authSize).length
    rw [authLength, offEq]
  · have pemLength : (field q (sd + 134 + 456 + authSize) size).length = size :=
      field_length (by omega)
    exact pemLength.symm
  · change field q (sd + 134 + 456 + authSize) size = field q off size
    rw [pemOff]

theorem locatePckRegion_of_content (content : QuoteContent)
    (fits : content.tdSigData.length < 2 ^ 32) {q before after : Bytes}
    (split : q = before ++ (content.tdSigData ++ after)) :
    locatePckRegion q before.length content.tdSigData.length =
      some (before.length + 590 + content.certification.authData.length,
        content.certification.pem.length) := by
  have sigDataLength := content.tdSigData_length
  have signatureLength := content.signature_length
  have keyLength := content.attestPubKey_length
  have blockLength := content.certification.bytes_length
  have framed : QeCertification.At q (before.length + 134)
      content.certification.authData.length
      content.certification.pem.length := by
    apply @at_of_split _ _ (before ++ content.signature ++
      content.attestPubKey ++ leBytes 2 6 ++
        leBytes 4 content.certification.bytes.length) after
    · simp [split, QuoteContent.tdSigData, certData, List.append_assoc]
    · simp only [List.length_append, leBytes_length]
      omega
  have outerType : leField q (before.length + 128) 2 = 6 := by
    have here : q = (before ++ content.signature ++ content.attestPubKey) ++
        (leBytes 2 6 ++ (leBytes 4 content.certification.bytes.length ++
          (content.certification.bytes ++ after))) := by
      simp [split, QuoteContent.tdSigData, certData, List.append_assoc]
    rw [here]
    refine leField_of_split ?_ (by omega)
    simp only [List.length_append]
    omega
  have outerSize : leField q (before.length + 130) 4 =
      content.certification.bytes.length := by
    have here : q = (before ++ content.signature ++ content.attestPubKey ++
        leBytes 2 6) ++ (leBytes 4 content.certification.bytes.length ++
          (content.certification.bytes ++ after)) := by
      simp [split, QuoteContent.tdSigData, certData, List.append_assoc]
    rw [here]
    refine leField_of_split ?_ (by omega)
    simp only [List.length_append, leBytes_length]
    omega
  obtain ⟨auth, innerType, innerSize, inside⟩ := framed
  have authOff : before.length + 134 + 448 = before.length + 582 := by omega
  have typeOff : before.length + 134 + 450 +
      content.certification.authData.length = before.length + 584 +
        content.certification.authData.length := by omega
  have sizeOff : before.length + 134 + 452 +
      content.certification.authData.length = before.length + 586 +
        content.certification.authData.length := by omega
  rw [authOff] at auth
  rw [typeOff] at innerType
  rw [sizeOff] at innerSize
  rw [locatePckRegion_eq_some, auth]
  refine ⟨?_, rfl, by omega, outerType, by omega, innerType, innerSize⟩
  rw [split, List.length_append, List.length_append]
  omega

theorem exists_frame {q : Bytes} {lenOff : Nat} (ends : BodyEnds q lenOff)
    (header : 48 ≤ q.length) (tdx : leField q 4 4 = 0x81)
    (inside : lenOff ≤ q.length) :
    ∃ (header : Header) (body : Body),
      header.bytes body.version ++ body.bytes = q.take lenOff ∧
      48 + body.bytes.length = lenOff := by
  let headerParts : Header :=
    { attKeyType := field q 2 2
      remainder := field q 8 40
      attKeyType_length := field_length (by omega)
      remainder_length := field_length (by omega) }
  have headerBytes : ∀ version, leField q 0 2 = version →
      headerParts.bytes version = field q 0 48 := by
    intro version versionEq
    have versionBytes : leBytes 2 version = field q 0 2 :=
      leBytes_of_leField versionEq (by omega)
    have tdxBytes : leBytes 4 0x81 = field q 4 4 :=
      leBytes_of_leField tdx (by omega)
    have widths : 48 = 2 + (2 + (4 + 40)) := rfl
    rw [Header.bytes, versionBytes, tdxBytes, widths,
      ← field_append_field q 0 2, ← field_append_field q (0 + 2) 2,
      ← field_append_field q (0 + 2 + 2) 4]
  have whole : q.take lenOff = field q 0 lenOff := by
    rw [field, List.drop_zero]
  rcases ends with ⟨four, rfl⟩ | ⟨five, described, lenOffEq⟩
  · have reportLength : (field q 48 584).length = 584 :=
      field_length (by omega)
    refine ⟨headerParts, .v4 (field q 48 584) reportLength, ?_, ?_⟩
    · rw [whole, Body.version, Body.bytes, headerBytes 4 four,
        field_append_field q 0 48 584]
    · rw [Body.bytes, reportLength]
  · have reportLength : (field q 54 (leField q 50 4)).length =
        leField q 50 4 := field_length (by omega)
    have bound := leField_lt q 50 4
    refine ⟨headerParts, .v5 (field q 48 2) (field q 54 (leField q 50 4))
      (field_length (by omega)) (by omega), ?_, ?_⟩
    · have sizeBytes : leBytes 4 (leField q 50 4) = field q 50 4 :=
        leBytes_leField (by omega)
      have widths : lenOff = 48 + (2 + (4 + leField q 50 4)) := by omega
      rw [whole, Body.version, Body.bytes, headerBytes 5 five, reportLength,
        sizeBytes, widths, ← field_append_field q 0 48, Nat.zero_add,
        ← field_append_field q 48 2, ← field_append_field q 50 4]
    · rw [Body.bytes, List.length_append, List.length_append, leBytes_length,
        reportLength, field_length (by omega)]
      omega

theorem bodyEnds_of_frame {header : Header} {body : Body} {q after : Bytes}
    (split : q = header.bytes body.version ++ (body.bytes ++ after)) :
    48 ≤ q.length ∧ leField q 4 4 = 0x81 ∧
      BodyEnds q (48 + body.bytes.length) := by
  have headerLength := header.bytes_length body.version
  have keyTypeLength := header.attKeyType_length
  refine ⟨?_, ?_, ?_⟩
  · rw [split, List.length_append]
    omega
  · have here : q = (leBytes 2 body.version ++ header.attKeyType) ++
        (leBytes 4 0x81 ++ (header.remainder ++ (body.bytes ++ after))) := by
      simp [split, Header.bytes, List.append_assoc]
    rw [here]
    refine leField_of_split ?_ (by omega)
    simp only [List.length_append, leBytes_length]
    omega
  · have version : leField q 0 2 = body.version := by
      have here : q = [] ++ (leBytes 2 body.version ++ (header.attKeyType ++
          (leBytes 4 0x81 ++ (header.remainder ++ (body.bytes ++ after))))) := by
        simp [split, Header.bytes, List.append_assoc]
      rw [here]
      exact leField_of_split rfl body.version_lt
    cases body with
    | v4 report reportLength =>
        left
        rw [Body.bytes, reportLength]
        exact ⟨version, rfl⟩
    | v5 bodyType report typeLength reportLt =>
        right
        have size : leField q 50 4 = report.length := by
          have here : q = (header.bytes 5 ++ bodyType) ++
              (leBytes 4 report.length ++ (report ++ after)) := by
            simp [split, Body.bytes, Body.version, List.append_assoc]
          rw [here]
          refine leField_of_split ?_ (by omega)
          rw [List.length_append, header.bytes_length, typeLength]
        refine ⟨version, ?_, ?_⟩
        · rw [split]
          simp only [Body.bytes, List.length_append, header.bytes_length,
            leBytes_length, typeLength]
          omega
        · simp only [Body.bytes, List.length_append, leBytes_length,
            typeLength, size]
          omega

namespace TdQuote

theorem locateRegion_bytes (quote : TdQuote) (trailing : Bytes) :
    locateRegion (quote.bytes ++ trailing) =
      .ok (quote.pckOff, quote.content.certification.pem.length) := by
  have headerLength := quote.header.bytes_length quote.body.version
  have sigDataLt := quote.sigData_lt
  have afterHeader : quote.bytes ++ trailing =
      quote.header.bytes quote.body.version ++ (quote.body.bytes ++
        (leBytes 4 quote.content.tdSigData.length ++
          (quote.content.tdSigData ++ trailing))) := by
    simp [bytes, List.append_assoc]
  have afterBody : quote.bytes ++ trailing =
      (quote.header.bytes quote.body.version ++ quote.body.bytes) ++
        (leBytes 4 quote.content.tdSigData.length ++
          (quote.content.tdSigData ++ trailing)) := by
    simp [bytes, List.append_assoc]
  have afterLength : quote.bytes ++ trailing =
      (quote.header.bytes quote.body.version ++ quote.body.bytes ++
        leBytes 4 quote.content.tdSigData.length) ++
          (quote.content.tdSigData ++ trailing) := by
    simp [bytes, List.append_assoc]
  obtain ⟨header, tdx, ends⟩ := bodyEnds_of_frame afterHeader
  have sigLen : leField (quote.bytes ++ trailing)
      (48 + quote.body.bytes.length) 4 = quote.content.tdSigData.length := by
    rw [afterBody]
    refine leField_of_split ?_ sigDataLt
    rw [List.length_append, headerLength]
  have start : (quote.header.bytes quote.body.version ++ quote.body.bytes ++
      leBytes 4 quote.content.tdSigData.length).length =
        48 + quote.body.bytes.length + 4 := by
    rw [List.length_append, List.length_append, headerLength, leBytes_length]
  have located := locatePckRegion_of_content quote.content sigDataLt afterLength
  rw [start] at located
  rw [locateRegion_eq_ok]
  refine ⟨header, tdx, 48 + quote.body.bytes.length, ends, ?_, ?_⟩
  · rw [afterLength, List.length_append, start]
    omega
  · rw [sigLen, located]
    rfl

theorem field_pckOff (quote : TdQuote) (trailing : Bytes) :
    field (quote.bytes ++ trailing) quote.pckOff
        quote.content.certification.pem.length =
      quote.content.certification.pem := by
  have headerLength := quote.header.bytes_length quote.body.version
  have signatureLength := quote.content.signature_length
  have keyLength := quote.content.attestPubKey_length
  have split : quote.bytes ++ trailing =
      (quote.header.bytes quote.body.version ++ quote.body.bytes ++
        leBytes 4 quote.content.tdSigData.length ++ quote.content.signature ++
        quote.content.attestPubKey ++ leBytes 2 6 ++
        leBytes 4 quote.content.certification.bytes.length) ++
      (quote.content.certification.bytes ++ trailing) := by
    simp [bytes, QuoteContent.tdSigData, certData, List.append_assoc]
  have start : (quote.header.bytes quote.body.version ++ quote.body.bytes ++
      leBytes 4 quote.content.tdSigData.length ++ quote.content.signature ++
      quote.content.attestPubKey ++ leBytes 2 6 ++
      leBytes 4 quote.content.certification.bytes.length).length =
        48 + quote.body.bytes.length + 138 := by
    simp only [List.length_append, leBytes_length]
    omega
  have offEq : quote.pckOff = 48 + quote.body.bytes.length + 138 + 456 +
      quote.content.certification.authData.length := by
    unfold pckOff
    omega
  rw [offEq]
  exact quote.content.certification.field_pem split start

theorem exists_of_locateRegion {q : Bytes} {off size : Nat}
    (located : locateRegion q = .ok (off, size)) :
    ∃ (quote : TdQuote) (trailing : Bytes), q = quote.bytes ++ trailing ∧
      off = quote.pckOff ∧ size = quote.content.certification.pem.length := by
  obtain ⟨headerInside, tdx, lenOff, ends, inside, found⟩ :=
    locateRegion_eq_ok.mp located
  have sigLenLt := leField_lt q lenOff 4
  obtain ⟨header, body, frame, lenOffEq⟩ :=
    exists_frame ends headerInside tdx (by omega)
  obtain ⟨content, sigData, offEq, sizeEq, _⟩ := exists_content found
  have sigDataInside := (locatePckRegion_eq_some.mp found).1
  have sigDataLength : content.tdSigData.length = leField q lenOff 4 := by
    rw [sigData, field_length sigDataInside]
  refine ⟨⟨header, body, content, by omega⟩,
    q.drop (lenOff + 4 + leField q lenOff 4), ?_, ?_, sizeEq⟩
  · have sigLenBytes : leBytes 4 (leField q lenOff 4) = field q lenOff 4 :=
      leBytes_leField (by omega)
    change q = header.bytes body.version ++ (body.bytes ++
      (leBytes 4 content.tdSigData.length ++ content.tdSigData)) ++
        q.drop (lenOff + 4 + leField q lenOff 4)
    rw [sigDataLength, sigLenBytes, sigData, field_append_field,
      ← List.append_assoc, frame, take_append_field, ← Nat.add_assoc,
      List.take_append_drop]
  · change off = 48 + body.bytes.length + 4 + 590 +
      content.certification.authData.length
    omega

end TdQuote

theorem Body.append_inj {first second : Body} {rest rest' : Bytes}
    (sameVersion : first.version = second.version)
    (same : first.bytes ++ rest = second.bytes ++ rest') :
    first = second ∧ rest = rest' := by
  cases first with
  | v4 report reportLength =>
      cases second with
      | v4 report' reportLength' =>
          obtain ⟨sameReport, sameRest⟩ := List.append_inj same
            (reportLength.trans reportLength'.symm)
          cases sameReport
          exact ⟨rfl, sameRest⟩
      | v5 bodyType' report' typeLength' reportLt' => cases sameVersion
  | v5 bodyType report typeLength reportLt =>
      cases second with
      | v4 report' reportLength' => cases sameVersion
      | v5 bodyType' report' typeLength' reportLt' =>
          simp only [Body.bytes, List.append_assoc] at same
          obtain ⟨sameType, same⟩ := List.append_inj same
            (typeLength.trans typeLength'.symm)
          obtain ⟨sameSize, same⟩ := List.append_inj same (by simp)
          obtain ⟨sameReport, sameRest⟩ := List.append_inj same
            (leBytes_inj (by omega) (by omega) sameSize)
          cases sameType
          cases sameReport
          exact ⟨rfl, sameRest⟩

theorem Header.append_inj {first second : Header} {version version' : Nat}
    {rest rest' : Bytes} (versionLt : version < 256 ^ 2)
    (versionLt' : version' < 256 ^ 2)
    (same : first.bytes version ++ rest = second.bytes version' ++ rest') :
    first = second ∧ version = version' ∧ rest = rest' := by
  simp only [Header.bytes, List.append_assoc] at same
  obtain ⟨sameVersion, same⟩ := List.append_inj same (by simp)
  obtain ⟨sameKeyType, same⟩ := List.append_inj same
    (first.attKeyType_length.trans second.attKeyType_length.symm)
  obtain ⟨_, same⟩ := List.append_inj same (by simp)
  obtain ⟨sameRemainder, sameRest⟩ := List.append_inj same
    (first.remainder_length.trans second.remainder_length.symm)
  cases first
  cases second
  cases sameKeyType
  cases sameRemainder
  exact ⟨rfl, leBytes_inj versionLt versionLt' sameVersion, sameRest⟩

theorem content_append_inj {first second : QuoteContent} {rest rest' : Bytes}
    (same : first.tdSigData ++ rest = second.tdSigData ++ rest') :
    first = second ∧ rest = rest' := by
  simp only [QuoteContent.tdSigData, certData, List.append_assoc] at same
  obtain ⟨sameSignature, same⟩ := List.append_inj same
    (first.signature_length.trans second.signature_length.symm)
  obtain ⟨sameKey, same⟩ := List.append_inj same
    (first.attestPubKey_length.trans second.attestPubKey_length.symm)
  obtain ⟨_, same⟩ := List.append_inj same (by simp)
  obtain ⟨_, same⟩ := List.append_inj same (by simp)
  obtain ⟨sameCertification, sameRest⟩ := QeCertification.append_inj same
  cases first
  cases second
  cases sameSignature
  cases sameKey
  cases sameCertification
  exact ⟨rfl, sameRest⟩

/-- The parts of a quote are determined by its bytes, whatever follows. -/
theorem TdQuote.append_inj {first second : TdQuote} {rest rest' : Bytes}
    (same : first.bytes ++ rest = second.bytes ++ rest') :
    first = second ∧ rest = rest' := by
  simp only [TdQuote.bytes, List.append_assoc] at same
  obtain ⟨sameHeader, sameVersion, same⟩ :=
    Header.append_inj first.body.version_lt second.body.version_lt same
  obtain ⟨sameBody, same⟩ := Body.append_inj sameVersion same
  obtain ⟨_, same⟩ := List.append_inj same (by simp)
  obtain ⟨sameContent, sameRest⟩ := content_append_inj same
  cases first
  cases second
  cases sameHeader
  cases sameBody
  cases sameContent
  exact ⟨rfl, sameRest⟩

/-- A region is located in a byte string exactly when it begins with a TD quote,
and it is the quote's PEM text.  The quote is the only one, more bytes do not
matter, and nothing wraps around or is read outside on the way. -/
theorem tdQuote_framing :
    (∀ (q : Bytes) (off size : Nat), locateRegion q = .ok (off, size) ↔
      ∃ (quote : TdQuote) (trailing : Bytes), q = quote.bytes ++ trailing ∧
        off = quote.pckOff ∧
        size = quote.content.certification.pem.length ∧
        field q off size = quote.content.certification.pem) ∧
    (∀ (quote quote' : TdQuote) (trailing trailing' : Bytes),
      quote.bytes ++ trailing = quote'.bytes ++ trailing' →
      quote = quote' ∧ trailing = trailing') ∧
    (∀ (q more : Bytes) (region : Nat × Nat), locateRegion q = .ok region →
      locateRegion (q ++ more) = .ok region) ∧
    (∀ q : Bytes, Guarded.locateRegion q =
      faultless (locateRegion q)) := by
  refine ⟨?_, ?_, ?_, guarded_locateRegion⟩
  · intro q off size
    constructor
    · intro located
      obtain ⟨quote, trailing, rfl, rfl, rfl⟩ :=
        TdQuote.exists_of_locateRegion located
      exact ⟨quote, trailing, rfl, rfl, rfl, quote.field_pckOff trailing⟩
    · rintro ⟨quote, trailing, rfl, rfl, rfl, _⟩
      exact quote.locateRegion_bytes trailing
  · intro quote quote' trailing trailing' same
    exact TdQuote.append_inj same
  · rintro q more ⟨off, size⟩ located
    obtain ⟨quote, trailing, rfl, rfl, rfl⟩ :=
      TdQuote.exists_of_locateRegion located
    rw [List.append_assoc]
    exact quote.locateRegion_bytes (trailing ++ more)

/-- A version 4 quote of zeros with one byte of PEM text. -/
def sampleQuote : TdQuote where
  header := ⟨[2, 0], List.replicate 40 0, rfl, List.length_replicate⟩
  body := .v4 (List.replicate 584 0) List.length_replicate
  content :=
    { signature := List.replicate 64 0
      attestPubKey := List.replicate 64 0
      certification :=
        { qeReport := List.replicate 384 0
          qeReportSig := List.replicate 64 0
          authData := []
          pem := [0x2d]
          qeReport_length := List.length_replicate
          qeReportSig_length := List.length_replicate
          authData_lt := by decide
          pem_lt := by decide }
      signature_length := List.length_replicate
      attestPubKey_length := List.length_replicate }
  sigData_lt := by
    rw [QuoteContent.tdSigData_length]
    exact Nat.lt_of_le_of_lt (Nat.le_refl 591) (by decide)

theorem tdQuote_framing_sample :
    locateRegion (sampleQuote.bytes ++ [0xff]) =
      .ok (sampleQuote.pckOff, 1) ∧
    locateRegion (sampleQuote.bytes ++ [0xff] ++ [0xfe]) =
      .ok (sampleQuote.pckOff, 1) ∧
    ∀ (quote : TdQuote) (trailing : Bytes),
      quote.bytes ++ trailing = sampleQuote.bytes ++ [0xff] →
      quote = sampleQuote ∧ trailing = [0xff] := by
  have located : locateRegion (sampleQuote.bytes ++ [0xff]) =
      .ok (sampleQuote.pckOff, 1) :=
    (tdQuote_framing.1 _ _ _).mpr ⟨sampleQuote, [0xff], rfl, rfl, rfl,
      sampleQuote.field_pckOff [0xff]⟩
  refine ⟨located, tdQuote_framing.2.2.1 _ _ _ located, ?_⟩
  intro quote trailing same
  exact tdQuote_framing.2.1 _ _ _ _ same

end TeeAnchor.Tdx
