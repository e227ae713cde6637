import TeeAnchor.ChipIdBinding

/-!
# Encoding a ChipIdBinding and reading it back

The encoder writes the distinguished encoding of every binding that fits the
two length bytes it has, and the decoder reads it back in front of anything.
-/

namespace TeeAnchor.Binding

open DefiniteTlv

/-- The members of the sequence in some definite encoding. -/
def definiteContent (binding : ChipIdBinding) (first second third : Bytes) :
    Bytes :=
  (0x0a :: (first ++ [binding.teeType])) ++
    ((0x04 :: (second ++ binding.chipId)) ++
      0x18 :: (third ++ binding.issuedAt))

theorem bindingContent_length_le {binding : ChipIdBinding}
    {first second third : Bytes} (firstDefinite : DefiniteLength 1 first)
    (secondDefinite : DefiniteLength binding.chipId.length second)
    (thirdDefinite : DefiniteLength binding.issuedAt.length third) :
    (bindingContent binding.teeType binding.chipId binding.issuedAt).length ≤
      (definiteContent binding first second third).length := by
  have firstLe := @element_length_le 0x0a 0x0a _ [binding.teeType] _
    (Nat.le_refl _) firstDefinite
  have secondLe := @element_length_le 0x04 0x04 _ binding.chipId _
    (Nat.le_refl _) secondDefinite
  have thirdLe := @element_length_le 0x18 0x18 _ binding.issuedAt _
    (Nat.le_refl _) thirdDefinite
  rw [bindingContent, definiteContent, List.length_append, List.length_append,
    List.length_append, List.length_append]
  omega

/-- What is written is the shortest encoding, and it is read back. -/
theorem encodeChipIdBinding_written {ssl : OpenSsl} (reads : ReadsDerTlv ssl)
    {host : Host} {teeType : UInt8} {chipId der : Bytes}
    (encoded : encodeChipIdBinding host teeType chipId = .ok der) :
    der = element 0x30 (bindingContent teeType chipId
        host.generalizedTimeNowUtc) ∧
      ∀ rest, decodeChipIdBinding ssl (der ++ rest) =
        .ok ⟨teeType, chipId, host.generalizedTimeNowUtc⟩ := by
  rw [encodeChipIdBinding_eq] at encoded
  by_cases fits : (bindingContent teeType chipId
      host.generalizedTimeNowUtc).length < 0x10000
  · rw [if_pos fits] at encoded
    cases encoded
    refine ⟨rfl, ?_⟩
    intro rest
    have readBack := @decodeChipIdBinding_element ssl reads teeType chipId
      host.generalizedTimeNowUtc [] (by rwa [List.append_nil]) rest
    rwa [List.append_nil] at readBack
  · rw [if_neg fits] at encoded
    cases encoded

theorem encodeChipIdBinding_refused_iff (host : Host) (teeType : UInt8)
    (chipId : Bytes) :
    65535 < (bindingContent teeType chipId
        host.generalizedTimeNowUtc).length ↔
      ∃ failure, encodeChipIdBinding host teeType chipId =
        .error failure := by
  rw [encodeChipIdBinding_eq]
  constructor
  · intro tooLong
    rw [if_neg (by omega)]
    exact ⟨_, rfl⟩
  · rintro ⟨failure, refused⟩
    by_contra fits
    rw [if_pos (by omega)] at refused
    cases refused

/-- The encoder refuses exactly the bindings whose sequence is longer than 65535
bytes.  The others it writes with the shortest lengths, the decoder returns
them, also with bytes following, and two of them are never written alike. -/
theorem encode_decode_roundTrip {ssl : OpenSsl} (reads : ReadsDerTlv ssl) :
    (∀ (host : Host) (teeType : UInt8) (chipId : Bytes),
      (65535 < (bindingContent teeType chipId
          host.generalizedTimeNowUtc).length ↔
        ∃ failure, encodeChipIdBinding host teeType chipId =
          .error failure) ∧
      ∀ der, encodeChipIdBinding host teeType chipId = .ok der →
        der = element 0x30 (bindingContent teeType chipId
          host.generalizedTimeNowUtc) ∧
        (∀ outer first second third, DefiniteLength 1 first →
          DefiniteLength chipId.length second →
          DefiniteLength host.generalizedTimeNowUtc.length third →
          DefiniteLength (definiteContent
            ⟨teeType, chipId, host.generalizedTimeNowUtc⟩ first second
            third).length outer →
          der.length ≤ (0x30 :: (outer ++ definiteContent
            ⟨teeType, chipId, host.generalizedTimeNowUtc⟩ first second
            third)).length) ∧
        ∀ rest, decodeChipIdBinding ssl (der ++ rest) =
          .ok ⟨teeType, chipId, host.generalizedTimeNowUtc⟩) ∧
    (∀ (host host' : Host) (teeType teeType' : UInt8)
      (chipId chipId' der : Bytes),
      encodeChipIdBinding host teeType chipId = .ok der →
      encodeChipIdBinding host' teeType' chipId' = .ok der →
      teeType = teeType' ∧ chipId = chipId' ∧
        host.generalizedTimeNowUtc = host'.generalizedTimeNowUtc) := by
  refine ⟨?_, ?_⟩
  · intro host teeType chipId
    refine ⟨encodeChipIdBinding_refused_iff host teeType chipId, ?_⟩
    intro der encoded
    obtain ⟨whole, decoded⟩ := encodeChipIdBinding_written reads encoded
    refine ⟨whole, ?_, decoded⟩
    intro outer first second third firstDefinite secondDefinite thirdDefinite
      outerDefinite
    have shorter := @bindingContent_length_le
      ⟨teeType, chipId, host.generalizedTimeNowUtc⟩ first second third
      firstDefinite secondDefinite thirdDefinite
    rw [whole]
    exact element_length_le shorter outerDefinite
  · intro host host' teeType teeType' chipId chipId' der encoded encoded'
    have decoded := (encodeChipIdBinding_written reads encoded).2 []
    rw [(encodeChipIdBinding_written reads encoded').2 []] at decoded
    simp only [Except.ok.injEq, ChipIdBinding.mk.injEq] at decoded
    exact ⟨decoded.1.symm, decoded.2.1.symm, decoded.2.2.symm⟩

def headerSsl : OpenSsl :=
  { OpenSsl.standIn with asn1GetObject := readObject }

def clockHost : Host where
  read _ := .cannotOpen
  pathExists _ := false
  time := 0
  generalizedTimeNowUtc := ascii "20260101000000Z"
  randomSerial := 1
  storage := .unlimited

/-- The Chip ID `01 02` of a TDX platform. -/
def sampleBindingDer : Bytes :=
  [0x30, 0x18, 0x0a, 0x01, 0x01, 0x04, 0x02, 0x01, 0x02, 0x18, 0x0f] ++
    ascii "20260101000000Z"

theorem encode_decode_roundTrip_sample :
    (65535 < (bindingContent 1 [1, 2] clockHost.generalizedTimeNowUtc).length ↔
      ∃ failure, encodeChipIdBinding clockHost 1 [1, 2] = .error failure) ∧
    (∀ rest, decodeChipIdBinding headerSsl (sampleBindingDer ++ rest) =
      .ok ⟨1, [1, 2], ascii "20260101000000Z"⟩) ∧
    ∀ teeType chipId,
      encodeChipIdBinding clockHost teeType chipId = .ok sampleBindingDer →
        teeType = 1 ∧ chipId = [1, 2] := by
  have encoded : encodeChipIdBinding clockHost 1 [1, 2] =
      .ok sampleBindingDer := by
    decide +kernel
  have roundTrip :=
    encode_decode_roundTrip (@readObject_readsDerTlv headerSsl rfl)
  refine ⟨(roundTrip.1 clockHost 1 [1, 2]).1,
    ((roundTrip.1 clockHost 1 [1, 2]).2 _ encoded).2.2, ?_⟩
  intro teeType chipId other
  have same := roundTrip.2 clockHost clockHost teeType 1 chipId [1, 2] _ other
    encoded
  exact ⟨same.1, same.2.1⟩

end TeeAnchor.Binding
