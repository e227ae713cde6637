import TeeAnchor.ChipIdBindingRoundTrip

/-!
# What the decoder takes for a ChipIdBinding

The decoder compares tag numbers.  Where the headers it reads begin with the
universal identifiers, its input is a sequence of the three members, and
whatever follows them is ignored.
-/

namespace TeeAnchor.Binding

open DefiniteTlv

/-- An answer of `ASN1_get_object` that is not flagged names the tag number of
the identifier and a length that fits, or the indefinite length of a constructed
element. -/
def SoundHeaders (ssl : OpenSsl) : Prop :=
  ∀ (identifier : UInt8) (following : Bytes), identifier &&& 0x1f ≠ 0x1f →
    (ssl.asn1GetObject (identifier :: following)).ret &&& 0x80 = 0 →
    (ssl.asn1GetObject (identifier :: following)).tag =
      (identifier &&& 0x1f).toNat ∧
    ∃ lengthBytes content after,
      following = lengthBytes ++ (content ++ after) ∧
      (ssl.asn1GetObject (identifier :: following)).header =
        1 + lengthBytes.length ∧
      (ssl.asn1GetObject (identifier :: following)).length = content.length ∧
      (BerLength content.length lengthBytes ∨
        identifier &&& 0x20 ≠ 0 ∧ lengthBytes = [0x80] ∧ content = [])

/-- What follows the element at the front. -/
def following (ssl : OpenSsl) (p : Bytes) : Bytes :=
  p.drop ((ssl.asn1GetObject p).header + (ssl.asn1GetObject p).length)

def contentOf (ssl : OpenSsl) (p : Bytes) : Bytes :=
  (p.drop (ssl.asn1GetObject p).header).take (ssl.asn1GetObject p).length

/-- What is left to read at each of the four headers. -/
def headerPositions (ssl : OpenSsl) (der : Bytes) : List Bytes :=
  let first := contentOf ssl der
  let second := following ssl first
  [der, first, second, following ssl second]

/-- The headers begin with the identifiers of a constructed sequence and of a
primitive ENUMERATED, OCTET STRING and GeneralizedTime. -/
def UniversalIdentifiers (ssl : OpenSsl) (der : Bytes) : Prop :=
  (headerPositions ssl der).map List.head? =
    [some 0x30, some 0x0a, some 0x04, some 0x18]

theorem mustRead_eq_ok {ssl : OpenSsl} {p content after : Bytes}
    {expectTag : Nat} {what : String} :
    mustRead ssl p expectTag what = .ok (content, after) ↔
      (ssl.asn1GetObject p).ret &&& 0x80 = 0 ∧
      (ssl.asn1GetObject p).tag = expectTag ∧
      content = contentOf ssl p ∧ after = following ssl p := by
  unfold mustRead
  by_cases refused : (ssl.asn1GetObject p).ret &&& 0x80 ≠ 0 ∨
      (ssl.asn1GetObject p).tag ≠ expectTag
  · simp only [if_pos refused, teeAnchorError_ne_ok, false_iff]
    rintro ⟨fits, tag, _⟩
    rcases refused with flagged | other
    · exact flagged fits
    · exact other tag
  · simp only [if_neg refused]
    rw [not_or, not_not, not_not] at refused
    simp only [pure, Except.pure, Except.ok.injEq, Prod.mk.injEq, refused,
      true_and, contentOf, following, eq_comm]

/-- The element at the front, split as its header says. -/
theorem SoundHeaders.split {ssl : OpenSsl} (sound : SoundHeaders ssl)
    {p : Bytes} {identifier : UInt8} (first : p.head? = some identifier)
    (lowTag : identifier &&& 0x1f ≠ 0x1f)
    (fits : (ssl.asn1GetObject p).ret &&& 0x80 = 0) :
    ∃ lengthBytes,
      p = identifier :: (lengthBytes ++ (contentOf ssl p ++ following ssl p)) ∧
      (BerLength (contentOf ssl p).length lengthBytes ∨
        identifier &&& 0x20 ≠ 0 ∧ contentOf ssl p = []) := by
  cases p with
  | nil => cases first
  | cons byte rest =>
      cases first
      obtain ⟨_, lengthBytes, content, after, split, header, length, form⟩ :=
        sound identifier rest lowTag fits
      have dropped : (identifier :: rest).drop (1 + lengthBytes.length) =
          content ++ after := by
        rw [split]
        exact drop_header _ _ _
      have contentEq : contentOf ssl (identifier :: rest) = content := by
        rw [contentOf, header, length, dropped, List.take_left]
      have followingEq : following ssl (identifier :: rest) = after := by
        rw [following, header, length, ← List.drop_drop, dropped,
          List.drop_left]
      refine ⟨lengthBytes, ?_, ?_⟩
      · rw [contentEq, followingEq, split]
      · rw [contentEq]
        exact form.imp_right fun indefinite => ⟨indefinite.1, indefinite.2.2⟩

theorem SoundHeaders.member {ssl : OpenSsl} (sound : SoundHeaders ssl)
    {p content after : Bytes} {expectTag : Nat} {what : String}
    (read : mustRead ssl p expectTag what = .ok (content, after))
    {identifier : UInt8} (first : p.head? = some identifier)
    (lowTag : identifier &&& 0x1f ≠ 0x1f)
    (primitive : identifier &&& 0x20 = 0) :
    ∃ lengthBytes, BerLength content.length lengthBytes ∧
      p = identifier :: (lengthBytes ++ (content ++ after)) := by
  obtain ⟨fits, _, rfl, rfl⟩ := mustRead_eq_ok.mp read
  obtain ⟨lengthBytes, split, form⟩ := sound.split first lowTag fits
  rcases form with definite | ⟨constructed, _⟩
  · exact ⟨lengthBytes, definite, split⟩
  · exact absurd primitive constructed

theorem decodeChipIdBinding_eq_ok {ssl : OpenSsl} {der : Bytes}
    {binding : ChipIdBinding} :
    decodeChipIdBinding ssl der = .ok binding ↔
      (ssl.asn1GetObject der).ret &&& 0x80 = 0 ∧
      (ssl.asn1GetObject der).tag = vAsn1Sequence ∧
      ∃ second third rest,
        mustRead ssl (contentOf ssl der) vAsn1Enumerated
          "ENUMERATED teeType" = .ok ([binding.teeType], second) ∧
        mustRead ssl second vAsn1OctetString "OCTET STRING chipId" =
          .ok (binding.chipId, third) ∧
        mustRead ssl third vAsn1GeneralizedTime "GeneralizedTime issuedAt" =
          .ok (binding.issuedAt, rest) := by
  unfold decodeChipIdBinding
  simp only [refuse_eq_ok, bind_eq_ok, Prod.exists, not_or, not_not, and_assoc]
  refine and_congr_right fun _ => and_congr_right fun _ => ?_
  constructor
  · rintro ⟨teeTypeBytes, second, readEnum, rest⟩
    rcases teeTypeBytes with _ | ⟨teeType, _ | ⟨other, more⟩⟩
    · cases rest
    · simp only [bind_eq_ok, Prod.exists] at rest
      obtain ⟨chipId, third, readOctet, issuedAt, last, readTime,
        returned⟩ := rest
      cases returned
      exact ⟨second, third, last, readEnum, readOctet, readTime⟩
    · cases rest
  · rintro ⟨second, third, rest, readEnum, readOctet, readTime⟩
    refine ⟨_, second, readEnum, ?_⟩
    simp only [readOctet, readTime, ok_bind]
    rfl

/-- The member headers of an accepted input, under universal identifiers. -/
theorem decoded_split {ssl : OpenSsl} (sound : SoundHeaders ssl) {der : Bytes}
    {binding : ChipIdBinding}
    (decoded : decodeChipIdBinding ssl der = .ok binding)
    (universal : UniversalIdentifiers ssl der) :
    ∃ outer first second third rest trailing,
      BerLength 1 first ∧ BerLength binding.chipId.length second ∧
      BerLength binding.issuedAt.length third ∧
      BerLength (definiteContent binding first second third ++ rest).length
        outer ∧
      der = 0x30 :: (outer ++
        ((definiteContent binding first second third ++ rest) ++ trailing)) := by
  obtain ⟨fits, _, afterEnum, afterOctet, rest, readEnum, readOctet,
    readTime⟩ := decodeChipIdBinding_eq_ok.mp decoded
  have afterEnumEq := (mustRead_eq_ok.mp readEnum).2.2.2
  have afterOctetEq := (mustRead_eq_ok.mp readOctet).2.2.2
  simp only [UniversalIdentifiers, headerPositions, List.map_cons,
    List.map_nil, List.cons.injEq, and_true, ← afterEnumEq,
    ← afterOctetEq] at universal
  obtain ⟨outerFirst, enumFirst, octetFirst, timeFirst⟩ := universal
  obtain ⟨first, firstDefinite, enumSplit⟩ :=
    sound.member readEnum enumFirst (by decide) (by decide)
  obtain ⟨second, secondDefinite, octetSplit⟩ :=
    sound.member readOctet octetFirst (by decide) (by decide)
  obtain ⟨third, thirdDefinite, timeSplit⟩ :=
    sound.member readTime timeFirst (by decide) (by decide)
  have content : contentOf ssl der =
      definiteContent binding first second third ++ rest := by
    rw [enumSplit, octetSplit, timeSplit]
    simp [definiteContent]
  obtain ⟨outer, outerSplit, form⟩ :=
    sound.split outerFirst (by decide) fits
  rcases form with definite | ⟨_, empty⟩
  · rw [content] at outerSplit definite
    exact ⟨outer, first, second, third, rest, following ssl der, firstDefinite,
      secondDefinite, thirdDefinite, definite, outerSplit⟩
  · rw [empty] at enumFirst
    cases enumFirst

theorem mustRead_failure {ssl : OpenSsl} {p : Bytes} {expectTag : Nat}
    {what : String} {failure : Exception}
    (refused : mustRead ssl p expectTag what = .error failure) :
    ∃ text, failure = .teeAnchorError text := by
  by_cases wrong : (ssl.asn1GetObject p).ret &&& 0x80 ≠ 0 ∨
      (ssl.asn1GetObject p).tag ≠ expectTag
  · simp only [mustRead, if_pos wrong] at refused
    cases refused
    exact ⟨_, rfl⟩
  · simp only [mustRead, if_neg wrong] at refused
    cases refused

theorem decodeChipIdBinding_failure {ssl : OpenSsl} {der : Bytes}
    {failure : Exception}
    (refused : decodeChipIdBinding ssl der = .error failure) :
    ∃ text, failure = .teeAnchorError text := by
  by_cases wrong : (ssl.asn1GetObject der).ret &&& 0x80 ≠ 0 ∨
      (ssl.asn1GetObject der).tag ≠ vAsn1Sequence
  · simp only [decodeChipIdBinding, if_pos wrong] at refused
    cases refused
    exact ⟨_, rfl⟩
  · simp only [decodeChipIdBinding, if_neg wrong] at refused
    rcases bind_eq_error.mp refused with enum | ⟨⟨tt, second⟩, _, refused⟩
    · exact mustRead_failure enum
    rcases tt with _ | ⟨teeType, _ | ⟨other, more⟩⟩
    · cases refused
      exact ⟨_, rfl⟩
    · rcases bind_eq_error.mp refused with octet | ⟨⟨chipId, third⟩, _, refused⟩
      · exact mustRead_failure octet
      rcases bind_eq_error.mp refused with time | ⟨_, _, returned⟩
      · exact mustRead_failure time
      · cases returned
    · cases refused
      exact ⟨_, rfl⟩

/-- Where the headers begin with the universal identifiers, an accepted input is
a sequence of the three members in definite lengths with the returned contents,
followed by anything inside the sequence and after it; all of this is ignored,
and every failure is the program's own exception. -/
theorem decode_accepts_members {ssl : OpenSsl} (reads : ReadsDerTlv ssl)
    (sound : SoundHeaders ssl) :
    (∀ (der : Bytes) (binding : ChipIdBinding),
      decodeChipIdBinding ssl der = .ok binding →
      UniversalIdentifiers ssl der →
      ∃ outer first second third rest trailing,
        BerLength 1 first ∧ BerLength binding.chipId.length second ∧
        BerLength binding.issuedAt.length third ∧
        BerLength (definiteContent binding first second third ++ rest).length
          outer ∧
        der = 0x30 :: (outer ++
          ((definiteContent binding first second third ++ rest) ++
            trailing))) ∧
    (∀ (binding : ChipIdBinding) (rest trailing : Bytes),
      (bindingContent binding.teeType binding.chipId binding.issuedAt ++
        rest).length < 0x10000 →
      decodeChipIdBinding ssl (element 0x30 (bindingContent binding.teeType
        binding.chipId binding.issuedAt ++ rest) ++ trailing) = .ok binding) ∧
    (∀ (der : Bytes) (failure : Exception),
      decodeChipIdBinding ssl der = .error failure →
      ∃ text, failure = .teeAnchorError text) := by
  refine ⟨?_, ?_, ?_⟩
  · intro der binding decoded universal
    exact decoded_split sound decoded universal
  · intro binding rest trailing fits
    exact decodeChipIdBinding_element reads fits trailing
  · intro der failure refused
    exact decodeChipIdBinding_failure refused

theorem readObject_soundHeaders {ssl : OpenSsl}
    (reader : ssl.asn1GetObject = readObject) : SoundHeaders ssl := by
  intro identifier rest _ fits
  rw [reader] at fits ⊢
  cases read : readHeader (identifier :: rest) with
  | none =>
      simp only [readObject, read] at fits
      cases fits
  | some answer =>
      obtain ⟨found, header, length⟩ := answer
      obtain ⟨rfl, lengthBytes, content, after, split, headerEq, lengthEq,
        form⟩ := readHeader_sound read
      simp only [readObject, read, true_and]
      exact ⟨lengthBytes, content, after, split, headerEq, lengthEq,
        .inl form⟩

/-- A binding with notes, an INTEGER after them and a byte after the sequence. -/
def annotatedDer : Bytes :=
  [0x30, 0x1d, 0x0a, 0x01, 0x01, 0x04, 0x02, 0x01, 0x02, 0x18, 0x0f] ++
    ascii "20260101000000Z" ++ [0x0c, 0x00, 0x02, 0x01, 0x05] ++ [0x00]

theorem decode_accepts_members_sample :
    UniversalIdentifiers headerSsl annotatedDer ∧
    (∃ outer first second third rest trailing,
      BerLength 1 first ∧ BerLength 2 second ∧ BerLength 15 third ∧
      BerLength (definiteContent ⟨1, [1, 2], ascii "20260101000000Z"⟩ first
        second third ++ rest).length outer ∧
      annotatedDer = 0x30 :: (outer ++ ((definiteContent
        ⟨1, [1, 2], ascii "20260101000000Z"⟩ first second third ++ rest) ++
          trailing))) ∧
    ∃ failure text, decodeChipIdBinding headerSsl [0x31, 0x00] =
      .error failure ∧ failure = .teeAnchorError text := by
  have members := decode_accepts_members
    (@readObject_readsDerTlv headerSsl rfl)
    (@readObject_soundHeaders headerSsl rfl)
  have universal : UniversalIdentifiers headerSsl annotatedDer := by
    unfold UniversalIdentifiers
    decide +kernel
  have refused : decodeChipIdBinding headerSsl [0x31, 0x00] =
      .error (.teeAnchorError "ChipIdBinding: outer SEQUENCE expected") := by
    decide +kernel
  obtain ⟨text, named⟩ := members.2.2 _ _ refused
  exact ⟨universal,
    members.1 annotatedDer ⟨1, [1, 2], ascii "20260101000000Z"⟩
      (by decide +kernel) universal,
    _, text, refused, named⟩

/-- The documented form of a ChipIdBinding with this Chip ID. -/
def IsBindingDer (der chipId : Bytes) : Prop :=
  ∃ teeType issuedAt notes,
    (notes = [] ∨ ∃ text, notes = element 0x0c text) ∧
    der = element 0x30 (bindingContent teeType chipId issuedAt ++ notes)

def numberedDer : Bytes :=
  element 0x30 (bindingContent 1 [1, 2] (ascii "20260101000000Z") ++
    [0x02, 0x01, 0x05])

theorem numbered_binding_accepted :
    decodeChipIdBinding headerSsl numberedDer =
      .ok ⟨1, [1, 2], ascii "20260101000000Z"⟩ ∧
    ¬IsBindingDer numberedDer [1, 2] := by
  have reads := @readObject_readsDerTlv headerSsl rfl
  have decoded : decodeChipIdBinding headerSsl numberedDer =
      .ok ⟨1, [1, 2], ascii "20260101000000Z"⟩ := by
    decide +kernel
  refine ⟨decoded, ?_⟩
  rintro ⟨teeType, issuedAt, notes, optional, same⟩
  have size : numberedDer.length = 29 := by decide +kernel
  have small : (bindingContent teeType [1, 2] issuedAt ++ notes).length <
      0x80 := by
    rw [same, element_length] at size
    omega
  have again := @decodeChipIdBinding_element headerSsl reads teeType [1, 2]
    issuedAt notes (by omega) []
  rw [List.append_nil, ← same, decoded] at again
  simp only [Except.ok.injEq, ChipIdBinding.mk.injEq, true_and] at again
  obtain ⟨rfl, rfl⟩ := again
  rw [numberedDer, element, element, shortestLength_short small,
    shortestLength_short (by decide +kernel)] at same
  simp only [List.cons_append, List.nil_append, List.cons.injEq, true_and,
    List.append_cancel_left_eq] at same
  obtain ⟨_, rfl⟩ := same
  rcases optional with none | ⟨text, utf8⟩
  · cases none
  · rw [element] at utf8
    exact absurd (List.cons.inj utf8).1 (by decide)

end TeeAnchor.Binding
