import TeeAnchor.CborGrammar

/-!
# What the CBOR encoder writes

The encoder writes heads of up to four argument bytes.  Below that limit every
head it writes is one of the grammar, so that what it writes is an item that
the decoder reads back.
-/

namespace TeeAnchor.Cbor

open ExactReaders

theorem shiftLeft_or_info {major info : Nat} (majorBound : major < 8)
    (infoBound : info < 32) :
    (UInt8.ofNat major <<< 5) ||| UInt8.ofNat info = headByte major info := by
  have checked : ∀ (major : Fin 8) (info : Fin 32),
      (UInt8.ofNat major <<< 5) ||| UInt8.ofNat info =
        headByte major info := by decide +kernel
  exact checked ⟨major, majorBound⟩ ⟨info, infoBound⟩

theorem toUInt8_eq_ofNat (number : UInt64) :
    number.toUInt8 = UInt8.ofNat number.toNat := by
  apply UInt8.toNat_inj.mp
  simp

theorem shiftRight_toUInt8 (number : UInt64) {shift : Nat} (small : shift < 64) :
    (number >>> UInt64.ofNat shift).toUInt8 =
      UInt8.ofNat (number.toNat / 2 ^ shift) := by
  have shiftNat : (UInt64.ofNat shift).toNat = shift := by
    rw [UInt64.toNat_ofNat']
    omega
  rw [toUInt8_eq_ofNat, UInt64.toNat_shiftRight, shiftNat,
    Nat.mod_eq_of_lt small, Nat.shiftRight_eq_div_pow]

theorem beBytes_two (number : Nat) :
    beBytes 2 number = [UInt8.ofNat (number / 2 ^ 8), UInt8.ofNat number] :=
  rfl

theorem beBytes_four (number : Nat) :
    beBytes 4 number =
      [UInt8.ofNat (number / 2 ^ 24), UInt8.ofNat (number / 2 ^ 16),
        UInt8.ofNat (number / 2 ^ 8), UInt8.ofNat number] := by
  rw [show 2 ^ 24 = 256 * 256 * 256 from rfl,
    show 2 ^ 16 = 256 * 256 from rfl, ← Nat.div_div_eq_div_mul,
    ← Nat.div_div_eq_div_mul]
  rfl

/-- The encoder writes a head of the grammar, for the number modulo the limit
of its largest head. -/
theorem encHead_argument_mod {major : Nat} (majorBound : major < 8)
    (number : UInt64) :
    ∃ info digits, encHead (UInt8.ofNat major) number =
        headByte major info :: digits ∧
      Argument info (number.toNat % 2 ^ 32) digits := by
  unfold encHead
  by_cases inline : number < 24
  · have small : number.toNat < 24 := UInt64.lt_iff_toNat_lt.mp inline
    refine ⟨number.toNat, [], ?_, ?_⟩
    · rw [if_pos inline, toUInt8_eq_ofNat,
        shiftLeft_or_info majorBound (by omega)]
    · rw [Nat.mod_eq_of_lt (by omega)]
      exact .inline small
  rw [if_neg inline]
  by_cases oneByte : number < 256
  · have small : number.toNat < 256 := UInt64.lt_iff_toNat_lt.mp oneByte
    refine ⟨24 + 0, beBytes (2 ^ 0) number.toNat, ?_, ?_⟩
    · rw [if_pos oneByte, ← shiftLeft_or_info majorBound (by decide),
        toUInt8_eq_ofNat]
      rfl
    · rw [Nat.mod_eq_of_lt (by omega)]
      exact .wide (by decide) (by simpa using small)
  rw [if_neg oneByte]
  by_cases twoBytes : number < 65536
  · have small : number.toNat < 65536 := UInt64.lt_iff_toNat_lt.mp twoBytes
    refine ⟨24 + 1, beBytes 2 number.toNat, ?_, ?_⟩
    · have high := shiftRight_toUInt8 number (by decide : 8 < 64)
      rw [if_pos twoBytes, ← shiftLeft_or_info majorBound (by decide),
        beBytes_two, ← high, ← toUInt8_eq_ofNat]
      rfl
    · rw [Nat.mod_eq_of_lt (by omega)]
      exact .wide (by decide) (by simpa using small)
  rw [if_neg twoBytes]
  refine ⟨24 + 2, beBytes 4 (number.toNat % 256 ^ 4), ?_,
    .wide (by decide) (Nat.mod_lt _ (by decide))⟩
  have high := shiftRight_toUInt8 number (by decide : 24 < 64)
  have upper := shiftRight_toUInt8 number (by decide : 16 < 64)
  have lower := shiftRight_toUInt8 number (by decide : 8 < 64)
  rw [← shiftLeft_or_info majorBound (by decide), beBytes_mod,
    beBytes_four, ← high, ← upper, ← lower, ← toUInt8_eq_ofNat]
  rfl

theorem encHead_argument {major : Nat} (majorBound : major < 8)
    {number : UInt64} (fits : number.toNat < 2 ^ 32) :
    ∃ info digits, encHead (UInt8.ofNat major) number =
        headByte major info :: digits ∧
      Argument info number.toNat digits := by
  have written := encHead_argument_mod majorBound number
  rwa [Nat.mod_eq_of_lt fits] at written

theorem length_toNat {content : Bytes} (short : content.length < 2 ^ 32) :
    (UInt64.ofNat content.length).toNat = content.length := by
  rw [UInt64.toNat_ofNat']
  omega

/-- A string behind its head is an item, whatever the major type makes of
it. -/
theorem encString_item {major : Nat} (majorBound : major < 8)
    {wrap : Bytes → Value}
    (item : ∀ {info content digits}, Argument info content.length digits →
      Item (wrap content) (headByte major info :: (digits ++ content)))
    {content : Bytes} (short : content.length < 2 ^ 32) :
    Item (wrap content)
      (encHead (UInt8.ofNat major) (UInt64.ofNat content.length) ++
        content) := by
  have lengthEq := length_toNat short
  obtain ⟨info, digits, written, head⟩ := @encHead_argument major majorBound
    (UInt64.ofNat content.length) (by omega)
  rw [lengthEq] at head
  rw [written, List.cons_append]
  exact item head

theorem encBytes_item {content : Bytes} (short : content.length < 2 ^ 32) :
    Item (.bytes content) (encBytes content) :=
  encString_item (by decide : 2 < 8) .bytes short

theorem encText_item {content : Bytes} (short : content.length < 2 ^ 32) :
    Item (.text content) (encText content) :=
  encString_item (by decide : 3 < 8) .text short

/-- A head of major type 4 followed by the encodings of that many items is the
encoding of the array. -/
theorem encHead_array_item {items : List (Value × Bytes)}
    (few : items.length < 2 ^ 32)
    (each : ∀ item ∈ items, Item item.1 item.2) :
    Item (.array (items.map Prod.fst))
      (encHead 4 (UInt64.ofNat items.length) ++ items.flatMap Prod.snd) := by
  have lengthEq : (UInt64.ofNat items.length).toNat = items.length := by
    rw [UInt64.toNat_ofNat']
    omega
  obtain ⟨info, digits, written, head⟩ := @encHead_argument 4 (by decide)
    (UInt64.ofNat items.length) (by omega)
  rw [lengthEq] at head
  have word : encHead 4 (UInt64.ofNat items.length) ++
      items.flatMap Prod.snd =
        headByte 4 info :: (digits ++ items.flatMap Prod.snd) := by
    rw [← List.cons_append, ← written]
    rfl
  rw [word]
  exact .array head each

/-- An item is read back whole, whatever follows it. -/
theorem Item.decodePrefix_append {value : Value} {word : Bytes}
    (item : Item value word) (rest : Bytes) :
    decodePrefix .unlimited (word ++ rest) = .ok (value, rest) :=
  decodePrefix_eq_ok_iff.mpr ⟨word, item, rfl⟩

end TeeAnchor.Cbor
