import TeeAnchor.Cbor
import Mathlib.Data.Nat.Bitwise
import Mathlib.Data.Set.Subsingleton

/-!
# The CBOR decoder accepts exactly its grammar

The grammar of the supported fragment is given as an inductive relation between
values and byte strings that does not mention the decoder.  The decoder is then
shown to be an exact reader of it, by induction on its fuel with one case for
each major type.
-/

namespace TeeAnchor.Cbor

open ExactReaders

def headByte (major info : Nat) : UInt8 :=
  UInt8.ofNat (32 * major + info)

/-- The bytes that carry the argument `number` under additional information
`info`: none for a number below 24, else 1, 2, 4 or 8 big-endian bytes. -/
inductive Argument : (info number : Nat) → Bytes → Prop
  | inline {number} (small : number < 24) : Argument number number []
  | wide {power number} (width : power < 4) (fits : number < 256 ^ 2 ^ power) :
      Argument (24 + power) number (beBytes (2 ^ power) number)

/-- The data items of the supported fragment and their encodings. -/
inductive Item : Value → Bytes → Prop
  | uint {info argument digits} (head : Argument info argument.toNat digits) :
      Item (.uint argument) (headByte 0 info :: digits)
  | nint {info argument digits} (head : Argument info argument.toNat digits) :
      Item (.nint argument) (headByte 1 info :: digits)
  | bytes {info content digits} (head : Argument info content.length digits) :
      Item (.bytes content) (headByte 2 info :: (digits ++ content))
  | text {info content digits} (head : Argument info content.length digits) :
      Item (.text content) (headByte 3 info :: (digits ++ content))
  | array {info digits} {items : List (Value × Bytes)}
      (head : Argument info items.length digits)
      (each : ∀ item ∈ items, Item item.1 item.2) :
      Item (.array (items.map Prod.fst))
        (headByte 4 info :: (digits ++ items.flatMap Prod.snd))
  | map {info digits} {pairs : List ((Value × Bytes) × (Value × Bytes))}
      (head : Argument info pairs.length digits)
      (keys : ∀ pair ∈ pairs, Item pair.1.1 pair.1.2)
      (values : ∀ pair ∈ pairs, Item pair.2.1 pair.2.2) :
      Item (.map (pairs.map fun pair => (pair.1.1, pair.2.1)))
        (headByte 5 info ::
          (digits ++ pairs.flatMap fun pair => pair.1.2 ++ pair.2.2))
  | tag {info number digits content word}
      (head : Argument info number.toNat digits) (inner : Item content word) :
      Item (.tag number content) (headByte 6 info :: (digits ++ word))
  | simpleInline {number : UInt8} (small : number < 24) :
      Item (.simple number.toUInt64) [headByte 7 number.toNat]
  | simpleByte {number : UInt8} :
      Item (.simple number.toUInt64) [headByte 7 24, number]

theorem headByte_split (byte : UInt8) :
    headByte (byte >>> 5).toNat (byte &&& 0x1f).toNat = byte := by
  revert byte
  apply forall_byte
  decide +kernel

theorem major_lt (byte : UInt8) : (byte >>> 5).toNat < 8 := by
  revert byte
  apply forall_byte
  decide +kernel

theorem info_lt (byte : UInt8) : (byte &&& 0x1f).toNat < 32 := by
  revert byte
  apply forall_byte
  decide +kernel

theorem major_headByte {major info : Nat} (majorBound : major < 8)
    (infoBound : info < 32) : (headByte major info >>> 5).toNat = major := by
  have checked : ∀ (major : Fin 8) (info : Fin 32),
      (headByte major info >>> 5).toNat = major := by decide +kernel
  exact checked ⟨major, majorBound⟩ ⟨info, infoBound⟩

theorem info_headByte {major info : Nat} (majorBound : major < 8)
    (infoBound : info < 32) : headByte major info &&& 0x1f = UInt8.ofNat info := by
  have checked : ∀ (major : Fin 8) (info : Fin 32),
      headByte major info &&& 0x1f = UInt8.ofNat info := by decide +kernel
  exact checked ⟨major, majorBound⟩ ⟨info, infoBound⟩

theorem Argument.info_lt {info number : Nat} {digits : Bytes}
    (head : Argument info number digits) : info < 32 := by
  cases head <;> omega

theorem info_toNat {info : Nat} (infoBound : info < 32) :
    (UInt8.ofNat info).toNat = info := by
  rw [UInt8.toNat_ofNat']
  omega

theorem shiftLeft_or_toNat {value : UInt64} {byte : UInt8}
    (fits : value.toNat * 256 + byte.toNat < 2 ^ 64) :
    ((value <<< 8) ||| byte.toUInt64).toNat =
      value.toNat * 256 + byte.toNat := by
  have byteBound : byte.toNat < 2 ^ 8 := byte.toNat_lt
  have shifted : (value <<< 8).toNat = value.toNat <<< 8 := by
    rw [UInt64.toNat_shiftLeft, Nat.shiftLeft_eq, Nat.shiftLeft_eq]
    have amount : 2 ^ ((8 : UInt64).toNat % 64) = 256 := by decide
    rw [amount]
    omega
  rw [UInt64.toNat_or, UInt8.toNat_toUInt64, shifted,
    ← Nat.shiftLeft_add_eq_or_of_lt byteBound, Nat.shiftLeft_eq]

theorem readBe_append {count : Nat} {value : UInt64} {digits rest : Bytes}
    (length : digits.length = count)
    (fits : value.toNat * 256 ^ count + beNat digits < 2 ^ 64) :
    (readBe count value).run (digits ++ rest) =
      .ok (UInt64.ofNat (value.toNat * 256 ^ count + beNat digits), rest) := by
  induction count generalizing value digits with
  | zero =>
      obtain rfl := List.eq_nil_of_length_eq_zero length
      simp [readBe, beNat]
      rfl
  | succ count ih =>
      cases digits with
      | nil => simp at length
      | cons digit digits =>
          have tailLength : digits.length = count := by simpa using length
          have valueEq : value.toNat * 256 ^ (count + 1) +
              beNat (digit :: digits) =
              (value.toNat * 256 + digit.toNat) * 256 ^ count + beNat digits := by
            rw [beNat_cons, tailLength]
            ring
          rw [valueEq] at fits ⊢
          have positive : 0 < 256 ^ count := Nat.pow_pos (by decide)
          have stepFits : value.toNat * 256 + digit.toNat < 2 ^ 64 := by
            have := Nat.le_mul_of_pos_right
              (value.toNat * 256 + digit.toNat) positive
            omega
          rw [← shiftLeft_or_toNat stepFits] at fits ⊢
          exact ih tailLength fits

/-- The loop stops on a truncated argument. -/
theorem readBe_ok {count : Nat} {value result : UInt64} {input rest : Bytes}
    (ran : (readBe count value).run input = .ok (result, rest)) :
    ∃ digits, digits.length = count ∧ input = digits ++ rest := by
  induction count generalizing value input with
  | zero =>
      cases ran
      exact ⟨[], rfl, rfl⟩
  | succ count ih =>
      cases input with
      | nil => cases ran
      | cons digit input =>
          obtain ⟨digits, length, rfl⟩ := ih ran
          exact ⟨digit :: digits, by simp [length], rfl⟩

theorem readBe_exact {count size : Nat} (width : count ≤ 8) :
    ExactUpTo size (readBe count 0) (fun number digits =>
      number.toNat < 256 ^ count ∧ digits = beBytes count number.toNat) := by
  have powLe : 256 ^ count ≤ 2 ^ 64 := by
    calc 256 ^ count ≤ 256 ^ 8 := Nat.pow_le_pow_right (by decide) width
      _ = 2 ^ 64 := by decide
  have computed : ∀ {digits rest : Bytes}, digits.length = count →
      (readBe count 0).run (digits ++ rest) =
        .ok (UInt64.ofNat (beNat digits), rest) := by
    intro digits rest length
    have below := beNat_lt digits
    rw [length] at below
    have ran := @readBe_append count 0 digits rest length
      (by rw [UInt64.toNat_zero]; omega)
    rwa [UInt64.toNat_zero, Nat.zero_mul, Nat.zero_add] at ran
  constructor
  · intro input number rest ran
    obtain ⟨digits, length, rfl⟩ := readBe_ok ran
    rw [computed length] at ran
    simp only [Except.ok.injEq, Prod.mk.injEq, and_true] at ran
    have below := beNat_lt digits
    rw [length] at below
    have numberEq : number.toNat = beNat digits := by
      rw [← ran, UInt64.toNat_ofNat']
      omega
    refine ⟨digits, ⟨by omega, ?_⟩, rfl⟩
    rw [numberEq, ← length, beBytes_beNat]
  · rintro number digits rest ⟨below, rfl⟩ _
    rw [computed (beBytes_length _ _), beNat_beBytes below, UInt64.ofNat_toNat]

private theorem info_cases : ∀ ai : UInt8, ai < 24 ∨ ai = 24 ∨ ai = 25 ∨
    ai = 26 ∨ ai = 27 ∨ (28 : UInt8) ≤ ai := by
  apply forall_byte
  decide +kernel

/-- Reading an argument is exact, and additional information from 28 on has
none. -/
theorem readLen_exact {size : Nat} (ai : UInt8) :
    ExactUpTo size (readLen ai) (fun number digits =>
      Argument ai.toNat number.toNat digits) := by
  have wide : ∀ power : Nat, power < 4 → ai.toNat = 24 + power →
      readLen ai = readBe (2 ^ power) 0 →
      ExactUpTo size (readLen ai) (fun number digits =>
        Argument ai.toNat number.toNat digits) := by
    intro power width infoEq reads
    rw [reads]
    have bytesLe : 2 ^ power ≤ 8 := by
      calc 2 ^ power ≤ 2 ^ 3 := Nat.pow_le_pow_right (by decide) (by omega)
        _ = 8 := by decide
    refine (readBe_exact bytesLe).congr ?_
    intro number digits
    constructor
    · rintro ⟨fits, rfl⟩
      rw [infoEq]
      exact .wide width fits
    · intro head
      rw [infoEq] at head
      generalize infoDef : 24 + power = info at head
      generalize number.toNat = argument at head ⊢
      cases head with
      | inline small => omega
      | @wide otherPower _ _ fits =>
          obtain rfl : otherPower = power := by omega
          exact ⟨fits, rfl⟩
  rcases info_cases ai with small | rfl | rfl | rfl | rfl | large
  · have reads : readLen ai = pure ai.toUInt64 := by simp [readLen, small]
    have infoSmall : ai.toNat < 24 := by
      simpa [UInt8.lt_iff_toNat_lt] using small
    rw [reads]
    refine (ExactUpTo.pure ai.toUInt64).congr ?_
    intro number digits
    constructor
    · rintro ⟨rfl, rfl⟩
      simpa using Argument.inline infoSmall
    · intro head
      generalize argumentDef : number.toNat = argument at head
      generalize infoDef : ai.toNat = info at head
      cases head with
      | inline _ =>
          refine ⟨?_, rfl⟩
          apply UInt64.toNat_inj.mp
          simp [argumentDef, infoDef]
      | wide _ _ => omega
  · exact wide 0 (by omega) (by simp) (by simp [readLen])
  · exact wide 1 (by omega) (by simp) (by simp [readLen])
  · exact wide 2 (by omega) (by simp) (by simp [readLen])
  · exact wide 3 (by omega) (by simp) (by simp [readLen])
  · have infoLarge : 28 ≤ ai.toNat := by
      simpa [UInt8.le_iff_toNat_le] using large
    have reads : readLen ai = throw (.teeAnchorError
        "cbor: indefinite/reserved length not supported") := by
      have different : ∀ other : UInt8, other < 28 → ai ≠ other := by
        rintro other below rfl
        exact UInt8.not_lt.mpr large below
      have notSmall : ¬ai < 24 := by
        rw [UInt8.lt_iff_toNat_lt]
        have : (24 : UInt8).toNat = 24 := rfl
        omega
      simp [readLen, notSmall, different]
    rw [reads]
    constructor
    · intro input number rest ran
      cases ran
    · intro number digits rest head
      generalize number.toNat = argument at head
      generalize ai.toNat = info at head infoLarge
      cases head <;> omega

theorem Argument.lt {info number : Nat} {digits : Bytes}
    (head : Argument info number digits) : number < 2 ^ 64 := by
  cases head with
  | inline small => omega
  | @wide power _ width fits =>
      calc number < 256 ^ 2 ^ power := fits
        _ ≤ 256 ^ 2 ^ 3 := Nat.pow_le_pow_right (by decide)
            (Nat.pow_le_pow_right (by decide) (by omega))
        _ = 2 ^ 64 := by decide

theorem Argument.toNat_ofNat {info number : Nat} {digits : Bytes}
    (head : Argument info number digits) :
    (UInt64.ofNat number).toNat = number := by
  rw [UInt64.toNat_ofNat', Nat.mod_eq_of_lt head.lt]

theorem Argument.toUInt64 {info number : Nat} {digits : Bytes}
    (head : Argument info number digits) :
    Argument info (UInt64.ofNat number).toNat digits := by
  rwa [head.toNat_ofNat]

theorem readString_exact {size : Nat} (count : UInt64) :
    ExactUpTo size (do need count; takeBytes count)
      (fun content word => word = content ∧ content.length = count.toNat) := by
  have enough : ∀ {input : Bytes}, ¬input.length < count.toNat →
      (do need count; takeBytes count : Decoder Bytes).run input =
        .ok (input.take count.toNat, input.drop count.toNat) := by
    intro input long
    simp [need, takeBytes, long]
    rfl
  constructor
  · intro input content rest ran
    by_cases short : input.length < count.toNat
    · simp [need, short] at ran
      cases ran
    · rw [enough short] at ran
      simp only [Except.ok.injEq, Prod.mk.injEq] at ran
      obtain ⟨rfl, rfl⟩ := ran
      refine ⟨input.take count.toNat, ⟨rfl, ?_⟩,
        (List.take_append_drop _ _).symm⟩
      rw [List.length_take]
      omega
  · rintro content word rest ⟨rfl, length⟩ _
    have long : ¬(word ++ rest).length < count.toNat := by
      rw [List.length_append]
      omega
    rw [enough long, ← length, List.take_left', List.drop_left']
    · rfl
    · rfl

def EncodesPair (Encodes : Value → Bytes → Prop) (pair : Value × Value)
    (word : Bytes) : Prop :=
  ∃ keyWord valueWord, Encodes pair.1 keyWord ∧ Encodes pair.2 valueWord ∧
    word = keyWord ++ valueWord

theorem readPair_exact {size : Nat} {read : Decoder Value}
    {Encodes : Value → Bytes → Prop} (exact : ExactUpTo size read Encodes) :
    ExactUpTo size (readPair read) (EncodesPair Encodes) := by
  refine (exact.bind fun key => exact.bind fun value =>
    ExactUpTo.pure (key, value)).congr ?_
  intro pair word
  constructor
  · rintro ⟨key, keyWord, rest, keyEncoded,
      ⟨value, valueWord, last, valueEncoded, ⟨rfl, rfl⟩, rfl⟩, rfl⟩
    exact ⟨keyWord, valueWord, keyEncoded, valueEncoded, by simp⟩
  · rintro ⟨keyWord, valueWord, keyEncoded, valueEncoded, rfl⟩
    exact ⟨pair.1, keyWord, valueWord, keyEncoded,
      ⟨pair.2, valueWord, [], valueEncoded, ⟨rfl, rfl⟩, by simp⟩, rfl⟩

/-- A sequence of encoded pairs lists its keys and values with their words. -/
theorem encodesAll_pair_iff {Encodes : Value → Bytes → Prop}
    {pairs : List (Value × Value)} {word : Bytes} :
    EncodesAll (EncodesPair Encodes) pairs word ↔
      ∃ parts : List ((Value × Bytes) × (Value × Bytes)),
        (∀ part ∈ parts, Encodes part.1.1 part.1.2) ∧
        (∀ part ∈ parts, Encodes part.2.1 part.2.2) ∧
        pairs = (parts.map fun part => (part.1.1, part.2.1)) ∧
        word = parts.flatMap fun part => part.1.2 ++ part.2.2 := by
  constructor
  · rintro ⟨parts, each, rfl, rfl⟩
    induction parts with
    | nil => exact ⟨[], by simp⟩
    | cons part parts ih =>
        obtain ⟨keyWord, valueWord, keyEncoded, valueEncoded, wordEq⟩ :=
          each part (by simp)
        obtain ⟨others, keys, values, pairsEq, wordsEq⟩ :=
          ih fun other otherMem => each other (by simp [otherMem])
        refine ⟨((part.1.1, keyWord), (part.1.2, valueWord)) :: others,
          ?_, ?_, by simp [pairsEq], by simp [wordsEq, wordEq]⟩
        · intro other otherMem
          rcases List.mem_cons.mp otherMem with rfl | tailMem
          · exact keyEncoded
          · exact keys other tailMem
        · intro other otherMem
          rcases List.mem_cons.mp otherMem with rfl | tailMem
          · exact valueEncoded
          · exact values other tailMem
  · rintro ⟨parts, keys, values, rfl, rfl⟩
    refine ⟨parts.map fun part =>
      ((part.1.1, part.2.1), part.1.2 ++ part.2.2), ?_,
      by simp [Function.comp_def], by simp [List.flatMap_map]⟩
    intro part partMem
    obtain ⟨source, sourceMem, rfl⟩ := List.mem_map.mp partMem
    exact ⟨source.1.2, source.2.2, keys source sourceMem,
      values source sourceMem, rfl⟩

/-- What may follow an initial byte, for nested items encoded by
`Encodes`. -/
def Contents (Encodes : Value → Bytes → Prop) (major info : Nat)
    (value : Value) (word : Bytes) : Prop :=
  match major with
  | 0 => ∃ argument, Argument info argument.toNat word ∧ value = .uint argument
  | 1 => ∃ argument, Argument info argument.toNat word ∧ value = .nint argument
  | 2 => ∃ digits content, Argument info content.length digits ∧
      value = .bytes content ∧ word = digits ++ content
  | 3 => ∃ digits content, Argument info content.length digits ∧
      value = .text content ∧ word = digits ++ content
  | 4 => ∃ digits items body, Argument info items.length digits ∧
      EncodesAll Encodes items body ∧ value = .array items ∧
      word = digits ++ body
  | 5 => ∃ digits pairs body, Argument info pairs.length digits ∧
      EncodesAll (EncodesPair Encodes) pairs body ∧ value = .map pairs ∧
      word = digits ++ body
  | 6 => ∃ digits number content body, Argument info number.toNat digits ∧
      Encodes content body ∧ value = .tag number content ∧
      word = digits ++ body
  | 7 => ∃ number : UInt8, value = .simple number.toUInt64 ∧
      (number < 24 ∧ info = number.toNat ∧ word = [] ∨
        info = 24 ∧ word = [number])
  | _ => False

/-- An item is an initial byte followed by contents of its major type. -/
theorem item_iff_contents {value : Value} {word : Bytes} :
    Item value word ↔ ∃ major info rest, major < 8 ∧ info < 32 ∧
      word = headByte major info :: rest ∧
      Contents Item major info value rest := by
  constructor
  · intro item
    cases item with
    | @uint info _ _ head =>
        exact ⟨0, info, _, by omega, head.info_lt, rfl, _, head, rfl⟩
    | @nint info _ _ head =>
        exact ⟨1, info, _, by omega, head.info_lt, rfl, _, head, rfl⟩
    | @bytes info _ _ head =>
        exact ⟨2, info, _, by omega, head.info_lt, rfl, _, _, head, rfl, rfl⟩
    | @text info _ _ head =>
        exact ⟨3, info, _, by omega, head.info_lt, rfl, _, _, head, rfl, rfl⟩
    | @array info digits items head each =>
        exact ⟨4, info, _, by omega, head.info_lt, rfl, digits, _, _,
          by simpa using head, ⟨items, each, rfl, rfl⟩, rfl, rfl⟩
    | @map info digits pairs head keys values =>
        exact ⟨5, info, _, by omega, head.info_lt, rfl, digits, _, _,
          by simpa using head,
          encodesAll_pair_iff.mpr ⟨pairs, keys, values, rfl, rfl⟩, rfl, rfl⟩
    | @tag info _ _ _ _ head inner =>
        exact ⟨6, info, _, by omega, head.info_lt, rfl, _, _, _, _, head,
          inner, rfl, rfl⟩
    | @simpleInline number small =>
        have infoSmall : number.toNat < 24 := by
          simpa [UInt8.lt_iff_toNat_lt] using small
        exact ⟨7, number.toNat, [], by omega, by omega, rfl, number, rfl,
          .inl ⟨small, rfl, rfl⟩⟩
    | @simpleByte number =>
        exact ⟨7, 24, [number], by omega, by omega, rfl, number, rfl,
          .inr ⟨rfl, rfl⟩⟩
  · rintro ⟨major, info, rest, majorBound, _, rfl, contents⟩
    match major, majorBound with
    | 0, _ =>
        obtain ⟨argument, head, rfl⟩ := contents
        exact .uint head
    | 1, _ =>
        obtain ⟨argument, head, rfl⟩ := contents
        exact .nint head
    | 2, _ =>
        obtain ⟨digits, content, head, rfl, rfl⟩ := contents
        exact .bytes head
    | 3, _ =>
        obtain ⟨digits, content, head, rfl, rfl⟩ := contents
        exact .text head
    | 4, _ =>
        obtain ⟨digits, _, _, head, ⟨items, each, rfl, rfl⟩, rfl, rfl⟩ :=
          contents
        exact .array (by simpa using head) each
    | 5, _ =>
        obtain ⟨digits, _, _, head, encoded, rfl, rfl⟩ := contents
        obtain ⟨pairs, keys, values, rfl, rfl⟩ :=
          encodesAll_pair_iff.mp encoded
        exact .map (by simpa using head) keys values
    | 6, _ =>
        obtain ⟨digits, number, content, body, head, inner, rfl, rfl⟩ :=
          contents
        exact .tag head inner
    | 7, _ =>
        obtain ⟨number, rfl, ⟨small, rfl, rfl⟩ | ⟨rfl, rfl⟩⟩ := contents
        · exact .simpleInline small
        · exact .simpleByte

/-- Simple values are read exactly; floats and break have no contents. -/
theorem readSimple_exact {size : Nat} {read : Decoder Value}
    {Encodes : Value → Bytes → Prop} (ai : UInt8) :
    ExactUpTo size (readContents .unlimited read 7 ai)
      (Contents Encodes 7 ai.toNat) := by
  by_cases byte : ai = 24
  · subst byte
    have onByte : ∀ (number : UInt8) (rest : Bytes),
        (readContents .unlimited read 7 24).run (number :: rest) =
          .ok (.simple number.toUInt64, rest) := fun _ _ => rfl
    constructor
    · intro input value rest ran
      cases input with
      | nil => cases ran
      | cons number input =>
          cases ran
          exact ⟨[number], ⟨number, rfl, .inr ⟨rfl, rfl⟩⟩, rfl⟩
    · rintro value word rest
        ⟨number, rfl, ⟨small, infoEq, rfl⟩ | ⟨_, rfl⟩⟩ _
      · rw [UInt8.toNat_inj.mp infoEq.symm] at small
        exact (UInt8.lt_irrefl _ small).elim
      · exact onByte number rest
  by_cases small : ai < 24
  · have reads : readContents .unlimited read 7 ai =
        pure (.simple ai.toUInt64) := by
      simp [readContents, byte, small]
    rw [reads]
    refine (ExactUpTo.pure _).congr ?_
    intro value word
    constructor
    · rintro ⟨rfl, rfl⟩
      exact ⟨ai, rfl, .inl ⟨small, rfl, rfl⟩⟩
    · rintro ⟨number, rfl, ⟨_, infoEq, rfl⟩ | ⟨infoEq, _⟩⟩
      · rw [UInt8.toNat_inj.mp infoEq]
        exact ⟨rfl, rfl⟩
      · exact (byte (UInt8.toNat_inj.mp infoEq)).elim
  have reads : readContents .unlimited read 7 ai =
      throw (.teeAnchorError "cbor: float/break not supported") := by
    simp [readContents, byte, small]
  rw [reads]
  constructor
  · intro input value rest ran
    cases ran
  · rintro value word rest
      ⟨number, rfl, ⟨numberSmall, infoEq, _⟩ | ⟨infoEq, _⟩⟩ _
    · rw [UInt8.toNat_inj.mp infoEq] at small
      exact (small numberSmall).elim
    · exact (byte (UInt8.toNat_inj.mp infoEq)).elim

theorem lengthThenString_exact {size : Nat} (wrap : Bytes → Value)
    (ai : UInt8) :
    ExactUpTo size (readLen ai >>= fun n =>
        (do need n; takeBytes n) >>= fun content => pure (wrap content))
      (fun value word => ∃ digits content,
        Argument ai.toNat content.length digits ∧ value = wrap content ∧
          word = digits ++ content) := by
  refine ((readLen_exact ai).bind fun n =>
    (readString_exact n).map wrap).congr ?_
  intro value word
  constructor
  · rintro ⟨n, digits, body, head, ⟨content, ⟨rfl, length⟩, rfl⟩, rfl⟩
    exact ⟨digits, body, by rwa [length], rfl, rfl⟩
  · rintro ⟨digits, content, head, rfl, rfl⟩
    exact ⟨_, digits, content, head.toUInt64, ⟨content,
      ⟨rfl, head.toNat_ofNat.symm⟩, rfl⟩, rfl⟩

theorem countThenItems_exact {size : Nat} {α : Type} {read : Decoder α}
    {Encodes : α → Bytes → Prop} (exact : ExactUpTo size read Encodes)
    (wrap : List α → Value) (ai : UInt8) :
    ExactUpTo size (readLen ai >>= fun n =>
        repeatRead read n.toNat >>= fun items => pure (wrap items))
      (fun value word => ∃ digits items body,
        Argument ai.toNat items.length digits ∧
          EncodesAll Encodes items body ∧ value = wrap items ∧
          word = digits ++ body) := by
  refine ((readLen_exact ai).bind fun n =>
    (exact.repeatRead n.toNat).map wrap).congr ?_
  intro value word
  constructor
  · rintro ⟨n, digits, body, head, ⟨items, ⟨length, encoded⟩, rfl⟩, rfl⟩
    exact ⟨digits, items, body, by rwa [length], encoded, rfl, rfl⟩
  · rintro ⟨digits, items, body, head, encoded, rfl, rfl⟩
    exact ⟨_, digits, body, head.toUInt64, ⟨items,
      ⟨head.toNat_ofNat.symm, encoded⟩, rfl⟩, rfl⟩

theorem readContents_exact {size : Nat} {read : Decoder Value}
    {Encodes : Value → Bytes → Prop} (exact : ExactUpTo size read Encodes)
    {major : Nat} (majorBound : major < 8) (ai : UInt8) :
    ExactUpTo size (readContents .unlimited read major ai)
      (Contents Encodes major ai.toNat) := by
  match major, majorBound with
  | 0, _ => exact (readLen_exact ai).map Value.uint
  | 1, _ => exact (readLen_exact ai).map Value.nint
  | 2, _ =>
      have reads : readContents .unlimited read 2 ai =
          readLen ai >>= fun n => (do need n; takeBytes n) >>= fun content =>
            pure (.bytes content) := by
        simp [readContents]
      rw [reads]
      exact lengthThenString_exact Value.bytes ai
  | 3, _ =>
      have reads : readContents .unlimited read 3 ai =
          readLen ai >>= fun n => (do need n; takeBytes n) >>= fun content =>
            pure (.text content) := by
        simp [readContents]
      rw [reads]
      exact lengthThenString_exact Value.text ai
  | 4, _ => exact countThenItems_exact exact Value.array ai
  | 5, _ => exact countThenItems_exact (readPair_exact exact) Value.map ai
  | 6, _ =>
      refine ((readLen_exact ai).bind fun number =>
        exact.map (Value.tag number)).congr ?_
      intro value word
      constructor
      · rintro ⟨number, digits, body, head, ⟨content, encoded, rfl⟩, rfl⟩
        exact ⟨digits, number, content, body, head, encoded, rfl, rfl⟩
      · rintro ⟨digits, number, content, body, head, encoded, rfl, rfl⟩
        exact ⟨number, digits, body, head, ⟨content, encoded, rfl⟩, rfl⟩
  | 7, _ => exact readSimple_exact ai

theorem Item.length_pos {value : Value} {word : Bytes}
    (item : Item value word) : 0 < word.length := by
  cases item <;> simp

/-- With fuel for `fuel` bytes the decoder is exact on items of that
length. -/
theorem readItem_exact (fuel : Nat) :
    ExactUpTo fuel (readItem .unlimited fuel) Item := by
  induction fuel with
  | zero =>
      constructor
      · intro input value rest ran
        cases ran
      · intro value word rest item bounded
        have := item.length_pos
        omega
  | succ fuel ih =>
      have dispatched : ExactUpTo (fuel + 1) (readItem .unlimited (fuel + 1))
          (fun value word => ∃ ib rest, word = ib :: rest ∧
            Contents Item (ib >>> 5).toNat (ib &&& 0x1f).toNat value rest) :=
        ExactUpTo.cons (fun outcome ran => by cases ran)
          (fun ib input => rfl)
          (fun ib => readContents_exact ih (major_lt ib) (ib &&& 0x1f))
      refine dispatched.congr ?_
      intro value word
      rw [item_iff_contents]
      constructor
      · rintro ⟨ib, rest, rfl, contents⟩
        exact ⟨_, _, rest, major_lt ib, info_lt ib,
          by rw [headByte_split], contents⟩
      · rintro ⟨major, info, rest, majorBound, infoBound, rfl, contents⟩
        refine ⟨headByte major info, rest, rfl, ?_⟩
        rwa [major_headByte majorBound infoBound,
          info_headByte majorBound infoBound, info_toNat infoBound]

/-- The program's own exception, which its callers expect. -/
def Refusal (failure : Exception) : Prop :=
  ∃ what, failure = .teeAnchorError what

theorem rb_controlled {size : Nat} : Controlled size rb Refusal := by
  intro input _
  cases input with
  | nil => exact .inr ⟨_, rfl, _, rfl⟩
  | cons byte rest => exact .inl ⟨byte, rest, rfl, by simp⟩

theorem refuse_controlled {α : Type} {size : Nat} (what : String) :
    Controlled size (throw (.teeAnchorError what) : Decoder α) Refusal :=
  Controlled.throw ⟨what, rfl⟩

theorem readBe_controlled {size count : Nat} {value : UInt64} :
    Controlled size (readBe count value) Refusal := by
  induction count generalizing value with
  | zero => exact Controlled.pure value
  | succ count ih => exact rb_controlled.bind fun byte => ih

theorem readLen_controlled {size : Nat} (ai : UInt8) :
    Controlled size (readLen ai) Refusal := by
  unfold readLen
  repeat' split
  all_goals first
    | exact Controlled.pure _
    | exact readBe_controlled
    | exact refuse_controlled _

theorem readString_controlled {size : Nat} (count : UInt64) :
    Controlled size (do need count; takeBytes count) Refusal := by
  intro input _
  by_cases short : input.length < count.toNat
  · refine .inr ⟨.teeAnchorError "cbor: truncated item", ?_, _, rfl⟩
    simp [need, short]
    rfl
  · refine .inl ⟨input.take count.toNat, input.drop count.toNat, ?_, ?_⟩
    · simp [need, takeBytes, short]
      rfl
    · rw [List.length_drop]
      omega

theorem readContents_controlled {size : Nat} {read : Decoder Value}
    (controlled : Controlled size read Refusal) (major : Nat) (ai : UInt8) :
    Controlled size (readContents .unlimited read major ai) Refusal := by
  have string : ∀ build : Bytes → Value,
      Controlled size (do
        let n ← readLen ai
        need n
        return build (← takeBytes n)) Refusal := by
    intro build
    have reads : (do
        let n ← readLen ai
        need n
        return build (← takeBytes n) : Decoder Value) =
        readLen ai >>= fun n => (do need n; takeBytes n) >>= fun content =>
          pure (build content) := by
      simp
    rw [reads]
    exact (readLen_controlled ai).bind fun n =>
      (readString_controlled n).bind fun content => Controlled.pure _
  match major with
  | 0 => exact (readLen_controlled ai).bind fun _ => Controlled.pure _
  | 1 => exact (readLen_controlled ai).bind fun _ => Controlled.pure _
  | 2 => exact string .bytes
  | 3 => exact string .text
  | 4 =>
      exact (readLen_controlled ai).bind fun n =>
        (controlled.repeatRead n.toNat).bind fun _ => Controlled.pure _
  | 5 =>
      have pair : Controlled size (readPair read) Refusal :=
        controlled.bind fun key => controlled.bind fun value =>
          Controlled.pure (key, value)
      exact (readLen_controlled ai).bind fun n =>
        (pair.repeatRead n.toNat).bind fun _ => Controlled.pure _
  | 6 =>
      exact (readLen_controlled ai).bind fun number =>
        controlled.bind fun _ => Controlled.pure _
  | 7 =>
      simp only [readContents]
      split
      · exact rb_controlled.bind fun _ => Controlled.pure _
      split
      · exact Controlled.pure _
      · exact refuse_controlled _
  | _ + 8 => exact refuse_controlled _

/-- The fuel outlasts every shorter input: what the decoder refuses, it refuses
itself. -/
theorem readItem_fuel (fuel : Nat) :
    Controlled fuel (readItem .unlimited fuel) Refusal := by
  induction fuel with
  | zero =>
      intro input short
      omega
  | succ fuel ih =>
      exact Controlled.cons ⟨_, rfl, _, rfl⟩ (fun ib input => rfl)
        (fun ib => readContents_controlled ih _ _)

theorem decodePrefix_eq_ok_iff {input rest : Bytes} {value : Value} :
    decodePrefix .unlimited input = .ok (value, rest) ↔
      ∃ word, Item value word ∧ input = word ++ rest :=
  (readItem_exact (input.length + 1)).run_eq_ok_iff (by omega)

theorem decode_eq_ok {storage : Storage} {input : Bytes} {value : Value} :
    decode storage input = .ok value ↔
      ∃ rest, decodePrefix storage input = .ok (value, rest) := by
  unfold decode
  cases decodePrefix storage input with
  | error failure => simp [Bind.bind, Except.bind]
  | ok outcome =>
      obtain ⟨found, rest⟩ := outcome
      simp [Bind.bind, Except.bind, Pure.pure, Except.pure]

theorem decode_eq_ok_iff {input : Bytes} {value : Value} :
    decode .unlimited input = .ok value ↔
      ∃ word, Item value word ∧ word <+: input := by
  rw [decode_eq_ok]
  constructor
  · rintro ⟨rest, ran⟩
    obtain ⟨word, item, rfl⟩ := decodePrefix_eq_ok_iff.mp ran
    exact ⟨word, item, word.prefix_append rest⟩
  · rintro ⟨word, item, rest, rfl⟩
    exact ⟨rest, decodePrefix_eq_ok_iff.mpr ⟨word, item, rfl⟩⟩

theorem decode_ok_or_refusal (input : Bytes) :
    (∃ value, decode .unlimited input = .ok value) ∨
      ∃ what, decode .unlimited input = .error (.teeAnchorError what) := by
  rcases readItem_fuel (input.length + 1) input (by omega) with
    ⟨value, rest, ran, _⟩ | ⟨failure, ran, what, rfl⟩
  · exact .inl ⟨value, decode_eq_ok.mpr ⟨rest, ran⟩⟩
  · refine .inr ⟨what, ?_⟩
    unfold decode decodePrefix
    rw [ran]
    rfl

/-- At most one prefix of an input is a data item, and it denotes one value. -/
theorem Item.unique {input first second : Bytes} {value other : Value}
    (item : Item value first) (otherItem : Item other second)
    (isPrefix : first <+: input) (otherPrefix : second <+: input) :
    value = other ∧ first = second := by
  obtain ⟨rest, rfl⟩ := isPrefix
  obtain ⟨otherRest, same⟩ := otherPrefix
  exact (readItem_exact _).word_unique item otherItem le_rfl same.symm

/-- The decoder accepts exactly the inputs that start with a data item of the
fragment, consumes that item alone and returns the value it denotes; it refuses
every other input. -/
theorem decode_accepts_grammar (input : Bytes) :
    (∀ value, decode .unlimited input = .ok value ↔
      ∃ word, Item value word ∧ word <+: input) ∧
    (∀ value rest, decodePrefix .unlimited input = .ok (value, rest) ↔
      ∃ word, Item value word ∧ input = word ++ rest) ∧
    {item : Value × Bytes | Item item.1 item.2 ∧ item.2 <+: input}.Subsingleton ∧
    ((∃ what, decode .unlimited input = .error (.teeAnchorError what)) ↔
      ¬∃ value word, Item value word ∧ word <+: input) := by
  refine ⟨fun value => decode_eq_ok_iff, fun value rest =>
    decodePrefix_eq_ok_iff, ?_, ?_⟩
  · rintro first ⟨item, isPrefix⟩ second ⟨otherItem, otherPrefix⟩
    obtain ⟨valueEq, wordEq⟩ := item.unique otherItem isPrefix otherPrefix
    exact Prod.ext valueEq wordEq
  · constructor
    · rintro ⟨what, refused⟩ ⟨value, word, item, isPrefix⟩
      have accepted := decode_eq_ok_iff.mpr ⟨word, item, isPrefix⟩
      rw [refused] at accepted
      cases accepted
    · intro noItem
      rcases decode_ok_or_refusal input with ⟨value, accepted⟩ | refused
      · obtain ⟨word, item, isPrefix⟩ := decode_eq_ok_iff.mp accepted
        exact (noItem ⟨value, word, item, isPrefix⟩).elim
      · exact refused

theorem readContents_unlimited (storage : Storage) {read wider : Decoder Value}
    (widens : Extends read wider) (major : Nat) (ai : UInt8) :
    Extends (readContents storage read major ai)
      (readContents .unlimited wider major ai) := by
  have reserve : ∀ elementSize count : Nat,
      Extends (liftM (storage.reserve elementSize count) : Decoder Unit)
        (liftM (Storage.unlimited.reserve elementSize count)) := by
    intro elementSize count input outcome ran
    cases reserved : storage.reserve elementSize count with
    | error failure =>
        rw [reserved] at ran
        cases ran
    | ok granted =>
        rw [reserved] at ran
        exact ran
  match major with
  | 0 | 1 | 2 | 3 | 7 => exact Extends.refl _
  | 4 =>
      exact (Extends.refl _).bind fun n => (reserve _ _).bind fun _ =>
        (widens.repeatRead _).bind fun items => Extends.refl _
  | 5 =>
      have pair : Extends (readPair read) (readPair wider) :=
        widens.bind fun key => widens.bind fun value => Extends.refl _
      exact (Extends.refl _).bind fun n => (reserve _ _).bind fun _ =>
        (pair.repeatRead _).bind fun pairs => Extends.refl _
  | 6 =>
      exact (Extends.refl _).bind fun number =>
        widens.bind fun content => Extends.refl _
  | major + 8 => exact Extends.refl _

theorem readItem_unlimited (storage : Storage) (fuel : Nat) :
    Extends (readItem storage fuel) (readItem .unlimited fuel) := by
  induction fuel with
  | zero => exact Extends.refl _
  | succ fuel ih =>
      exact (Extends.refl rb).bind fun ib => readContents_unlimited storage ih _ _

/-- What is decoded in limited storage is what unlimited storage gives. -/
theorem decode_unlimited {storage : Storage} {input : Bytes} {value : Value}
    (decoded : decode storage input = .ok value) :
    decode .unlimited input = .ok value := by
  obtain ⟨rest, ran⟩ := decode_eq_ok.mp decoded
  exact decode_eq_ok.mpr ⟨rest, readItem_unlimited storage _ _ _ ran⟩

end TeeAnchor.Cbor
