import TeeAnchor.CborEncoding

/-!
# Heads written by the encoder and read by the decoder

The decoder reads arguments of up to eight bytes, the encoder writes at most
four.  Whatever it is given, the encoder writes a head that the decoder takes
for the number modulo `2 ^ 32`; the two sides agree just below that limit, and
there no shorter head would do.
-/

namespace TeeAnchor.Cbor

open ExactReaders

/-- The decoder's split of an initial byte and the argument behind it. -/
def readHead : Decoder (UInt8 × UInt64) := do
  let ib ← rb
  let n ← readLen (ib &&& 0x1f)
  return (ib >>> 5, n)

/-- What the encoder writes for a number is read back as that number, with
nothing left over, and no shorter head is. -/
structure HeadMatches (major : UInt8) (n : UInt64) : Prop where
  readBack : readHead.run (encHead major n) = .ok ((major, n), [])
  shortest : ∀ word, readHead.run word = .ok ((major, n), []) →
    (encHead major n).length ≤ word.length

def ReadBack (word : Bytes) (value : Value) : Prop :=
  ∀ rest, decodePrefix .unlimited (word ++ rest) = .ok (value, rest)

theorem readHead_cons (ib : UInt8) (input : Bytes) :
    readHead.run (ib :: input) =
      (readLen (ib &&& 0x1f) >>= fun n => pure (ib >>> 5, n)).run input :=
  rfl

theorem Argument.readHead {major info : Nat} {n : UInt64} {digits : Bytes}
    (head : Argument info n.toNat digits) (majorBound : major < 8)
    (rest : Bytes) :
    Cbor.readHead.run (headByte major info :: (digits ++ rest)) =
      .ok ((UInt8.ofNat major, n), rest) := by
  have majorEq : headByte major info >>> 5 = UInt8.ofNat major := by
    have number := major_headByte majorBound head.info_lt
    rw [← @UInt8.ofNat_toNat (headByte major info >>> 5), number]
  have argument : (readLen (UInt8.ofNat info)).run (digits ++ rest) =
      .ok (n, rest) :=
    (readLen_exact (UInt8.ofNat info)).complete rest
      (by rwa [info_toNat head.info_lt]) le_rfl
  rw [readHead_cons, info_headByte majorBound head.info_lt, StateT.run_bind,
    argument, majorEq]
  rfl

/-- Every head that is read whole is an initial byte and an argument. -/
theorem readHead_eq_ok {word : Bytes} {major : UInt8} {n : UInt64}
    (ran : readHead.run word = .ok ((major, n), [])) :
    ∃ ib digits, word = ib :: digits ∧
      Argument (ib &&& 0x1f).toNat n.toNat digits := by
  cases word with
  | nil => cases ran
  | cons ib input =>
      have exact : ExactUpTo 0
          (readLen (ib &&& 0x1f) >>= fun n => pure (ib >>> 5, n)) _ :=
        (readLen_exact (ib &&& 0x1f)).map fun n => (ib >>> 5, n)
      rw [readHead_cons] at ran
      obtain ⟨word, ⟨n', head, same⟩, split⟩ := exact.sound ran
      rw [Prod.mk.injEq] at same
      obtain ⟨_, rfl⟩ := same
      rw [List.append_nil] at split
      exact ⟨ib, word, by rw [split], head⟩

/-- The decoder takes what the encoder writes for the number modulo the limit
of the largest head. -/
theorem readHead_encHead {major : UInt8} (isMajor : major < 8) (n : UInt64)
    (rest : Bytes) :
    readHead.run (encHead major n ++ rest) =
      .ok ((major, UInt64.ofNat (n.toNat % 2 ^ 32)), rest) := by
  have majorBound : major.toNat < 8 := by
    simpa [UInt8.lt_iff_toNat_lt] using isMajor
  obtain ⟨info, digits, written, head⟩ := encHead_argument_mod majorBound n
  rw [UInt8.ofNat_toNat] at written
  rw [written, List.cons_append, head.toUInt64.readHead majorBound rest,
    UInt8.ofNat_toNat]

theorem encHead_length (major : UInt8) (n : UInt64) :
    (encHead major n).length =
      if n.toNat < 24 then 1 else if n.toNat < 256 then 2
      else if n.toNat < 65536 then 3 else 5 := by
  have small : n < 24 ↔ n.toNat < 24 := UInt64.lt_iff_toNat_lt
  have oneByte : n < 256 ↔ n.toNat < 256 := UInt64.lt_iff_toNat_lt
  have twoBytes : n < 65536 ↔ n.toNat < 65536 := UInt64.lt_iff_toNat_lt
  simp only [encHead, small, oneByte, twoBytes]
  split_ifs <;> rfl

/-- No head that carries the number is shorter than the one written. -/
theorem Argument.encHead_length_le {info : Nat} {n : UInt64} {digits : Bytes}
    (head : Argument info n.toNat digits) (major : UInt8) :
    (encHead major n).length ≤ digits.length + 1 := by
  rw [encHead_length]
  generalize n.toNat = number at head ⊢
  cases head with
  | inline small => simp [small]
  | @wide power _ width fits =>
      rw [beBytes_length]
      match power, width with
      | 0, _ => split_ifs <;> omega
      | 1, _ => split_ifs <;> omega
      | 2, _ => split_ifs <;> omega
      | 3, _ => split_ifs <;> omega

theorem headMatches_iff {major : UInt8} (isMajor : major < 8) (n : UInt64) :
    HeadMatches major n ↔ n.toNat < 2 ^ 32 := by
  have ran := readHead_encHead isMajor n []
  rw [List.append_nil] at ran
  constructor
  · intro found
    have same := found.readBack
    rw [ran] at same
    simp only [Except.ok.injEq, Prod.mk.injEq, true_and, and_true] at same
    have reduced : n.toNat % 2 ^ 32 = n.toNat := by
      rw [← congrArg UInt64.toNat same, UInt64.toNat_ofNat']
      omega
    omega
  · intro below
    rw [Nat.mod_eq_of_lt below, UInt64.ofNat_toNat] at ran
    refine ⟨ran, ?_⟩
    intro word readsSame
    obtain ⟨ib, digits, rfl, head⟩ := readHead_eq_ok readsSame
    exact head.encHead_length_le major

/-- A string behind its written head: the decoder takes as much of it as the
length modulo the limit says. -/
theorem decodePrefix_string {major : Nat} (majorBound : major < 8)
    {wrap : Bytes → Value}
    (item : ∀ {info content digits}, Argument info content.length digits →
      Item (wrap content) (headByte major info :: (digits ++ content)))
    (content rest : Bytes) :
    decodePrefix .unlimited (encHead (UInt8.ofNat major)
        (UInt64.ofNat content.length) ++ content ++ rest) =
      .ok (wrap (content.take (content.length % 2 ^ 32)),
        content.drop (content.length % 2 ^ 32) ++ rest) := by
  obtain ⟨info, digits, written, head⟩ :=
    encHead_argument_mod majorBound (UInt64.ofNat content.length)
  have lengthEq : (UInt64.ofNat content.length).toNat % 2 ^ 32 =
      (content.take (content.length % 2 ^ 32)).length := by
    have := Nat.mod_le content.length (2 ^ 32)
    rw [UInt64.toNat_ofNat', List.length_take]
    omega
  rw [lengthEq] at head
  have split : encHead (UInt8.ofNat major) (UInt64.ofNat content.length) ++
        content ++ rest =
      headByte major info ::
          (digits ++ content.take (content.length % 2 ^ 32)) ++
        (content.drop (content.length % 2 ^ 32) ++ rest) := by
    have whole := List.take_append_drop (content.length % 2 ^ 32) content
    calc encHead (UInt8.ofNat major) (UInt64.ofNat content.length) ++
          content ++ rest
        = headByte major info :: (digits ++ (content ++ rest)) := by
          rw [written, List.append_assoc, List.cons_append]
      _ = headByte major info :: (digits ++
            ((content.take (content.length % 2 ^ 32) ++
              content.drop (content.length % 2 ^ 32)) ++ rest)) := by
          rw [whole]
      _ = _ := by simp only [List.cons_append, List.append_assoc]
  rw [split]
  exact (item head).decodePrefix_append _

theorem readBack_string_iff {major : Nat} (majorBound : major < 8)
    {wrap : Bytes → Value}
    (item : ∀ {info content digits}, Argument info content.length digits →
      Item (wrap content) (headByte major info :: (digits ++ content)))
    (content : Bytes) :
    ReadBack (encHead (UInt8.ofNat major) (UInt64.ofNat content.length) ++
      content) (wrap content) ↔ content.length < 2 ^ 32 := by
  constructor
  · intro readBack
    have same := readBack []
    rw [decodePrefix_string majorBound item] at same
    simp only [Except.ok.injEq, Prod.mk.injEq, List.append_nil,
      List.drop_eq_nil_iff] at same
    have positive : 0 < 2 ^ 32 := by decide
    have := Nat.mod_lt content.length positive
    omega
  · intro below rest
    rw [decodePrefix_string majorBound item, Nat.mod_eq_of_lt below,
      List.take_length, List.drop_length]
    rfl

/-- For every major type and number and for every string, the decoder reads
back what the encoder writes, in the shortest head there is, if and only if the
number, or the length, is below the limit of the largest head written. -/
theorem heads_match_iff (major : UInt8) (isMajor : major < 8) (n : UInt64)
    (content : Bytes) :
    (HeadMatches major n ↔ n.toNat < 2 ^ 32) ∧
    (ReadBack (encBytes content) (.bytes content) ↔
      content.length < 2 ^ 32) ∧
    (ReadBack (encText content) (.text content) ↔
      content.length < 2 ^ 32) := by
  refine ⟨?_, ?_, ?_⟩
  · exact headMatches_iff isMajor n
  · exact readBack_string_iff (by decide : 2 < 8) .bytes content
  · exact readBack_string_iff (by decide : 3 < 8) .text content

theorem heads_match_iff_sample :
    (2 : UInt8) < 8 ∧ HeadMatches 2 65536 ∧
      ReadBack (encBytes [1, 2, 3]) (.bytes [1, 2, 3]) ∧
      ReadBack (encText [0x61]) (.text [0x61]) :=
  ⟨by decide, (heads_match_iff 2 (by decide) 65536 []).1.mpr (by decide),
    (heads_match_iff 2 (by decide) 0 [1, 2, 3]).2.1.mpr (by decide),
    (heads_match_iff 2 (by decide) 0 [0x61]).2.2.mpr (by decide)⟩

/-- At the limit the head of a string says that the string is empty. -/
theorem encHead_loses_length :
    readHead.run (encHead 2 4294967296) = .ok ((2, 0), []) ∧
      ¬∀ major n, major < 8 → HeadMatches major n := by
  have ran : readHead.run (encHead 2 4294967296) = .ok ((2, 0), []) := rfl
  refine ⟨ran, ?_⟩
  intro matched
  have same := (matched 2 4294967296 (by decide)).readBack
  rw [ran] at same
  simp at same

end TeeAnchor.Cbor
