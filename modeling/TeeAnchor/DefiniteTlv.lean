import TeeAnchor.ByteStrings
import Mathlib.Data.Nat.Log

/-!
# Tag, length, value

In a definite-length encoding an identifier byte is followed by the length of
the content, in one byte or with its bytes counted in front, and then by the
content.  A reader of such headers finds the length, whatever follows the
content.  Of the forms of a length the distinguished encoding takes the
shortest.
-/

namespace TeeAnchor.DefiniteTlv

/-- The length bytes, in short form or in long form with up to four bytes. -/
inductive DefiniteLength : (length : Nat) → Bytes → Prop
  | short {length} (small : length < 0x80) :
      DefiniteLength length [UInt8.ofNat length]
  | long {width length} (positive : 0 < width) (few : width ≤ 4)
      (fits : length < 256 ^ width) :
      DefiniteLength length
        (UInt8.ofNat (0x80 + width) :: beBytes width length)

/-- The length bytes of the basic encoding: the long form may be as wide as it
likes. -/
inductive BerLength : (length : Nat) → Bytes → Prop
  | short {length} (small : length < 0x80) :
      BerLength length [UInt8.ofNat length]
  | long {digits : Bytes} (positive : 0 < digits.length)
      (few : digits.length < 0x80) :
      BerLength (beNat digits) (UInt8.ofNat (0x80 + digits.length) :: digits)

/-- The size of the header and the length it announces, where the length may
have so many bytes. -/
def readLengthUpTo (most : Nat) : Bytes → Option (Nat × Nat)
  | [] => none
  | first :: rest =>
      if first.toNat < 0x80 then some (1, first.toNat)
      else
        let width := first.toNat - 0x80
        if 0 < width ∧ width ≤ most ∧ width ≤ rest.length then
          some (1 + width, beNat (rest.take width))
        else none

/-- Identifier, size of the header and length of the content, when the content
is there. -/
def readHeader : Bytes → Option (UInt8 × Nat × Nat)
  | [] => none
  | identifier :: rest =>
      if identifier &&& 0x1f = 0x1f then none
      else
        match readLengthUpTo 4 rest with
        | none => none
        | some (size, length) =>
            if size + length ≤ rest.length then
              some (identifier, 1 + size, length)
            else none

theorem readLengthUpTo_short {length : Nat} (small : length < 0x80)
    (most : Nat) (rest : Bytes) :
    readLengthUpTo most (UInt8.ofNat length :: rest) = some (1, length) := by
  have firstNat : (UInt8.ofNat length).toNat = length := by
    rw [UInt8.toNat_ofNat']
    omega
  simp only [readLengthUpTo, firstNat, if_pos small]

theorem readLengthUpTo_long {most width length : Nat} (positive : 0 < width)
    (few : width ≤ most) (readable : most < 0x80)
    (fits : length < 256 ^ width) (rest : Bytes) :
    readLengthUpTo most
        (UInt8.ofNat (0x80 + width) :: (beBytes width length ++ rest)) =
      some (1 + width, length) := by
  have firstNat : (UInt8.ofNat (0x80 + width)).toNat = 0x80 + width := by
    rw [UInt8.toNat_ofNat']
    omega
  have notShort : ¬0x80 + width < 0x80 := by omega
  have widthEq : 0x80 + width - 0x80 = width := by omega
  have enough : 0 < width ∧ width ≤ most ∧
      width ≤ (beBytes width length ++ rest).length := by
    rw [List.length_append, beBytes_length]
    omega
  have digits : (beBytes width length ++ rest).take width =
      beBytes width length := by
    apply List.take_left'
    exact beBytes_length width length
  simp only [readLengthUpTo, firstNat, if_neg notShort, widthEq, if_pos enough,
    digits, beNat_beBytes fits]

theorem readLengthUpTo_append {length : Nat} {lengthBytes : Bytes}
    (definite : DefiniteLength length lengthBytes) (rest : Bytes) :
    readLengthUpTo 4 (lengthBytes ++ rest) =
      some (lengthBytes.length, length) := by
  cases definite with
  | short small => exact readLengthUpTo_short small 4 rest
  | @long width _ positive few fits =>
      rw [List.cons_append,
        readLengthUpTo_long positive few (by decide) fits rest,
        List.length_cons, beBytes_length, Nat.add_comm]

theorem readHeader_append {identifier : UInt8} {lengthBytes content : Bytes}
    (lowTag : identifier &&& 0x1f ≠ 0x1f)
    (definite : DefiniteLength content.length lengthBytes) (rest : Bytes) :
    readHeader (identifier :: (lengthBytes ++ (content ++ rest))) =
      some (identifier, 1 + lengthBytes.length, content.length) := by
  have enough : lengthBytes.length + content.length ≤
      (lengthBytes ++ (content ++ rest)).length := by
    simp only [List.length_append]
    omega
  simp only [readHeader, if_neg lowTag, readLengthUpTo_append definite,
    if_pos enough]

theorem readLengthUpTo_sound {most size length : Nat} {bytes : Bytes}
    (read : readLengthUpTo most bytes = some (size, length)) :
    ∃ lengthBytes rest, bytes = lengthBytes ++ rest ∧
      size = lengthBytes.length ∧ BerLength length lengthBytes := by
  cases bytes with
  | nil => cases read
  | cons first rest =>
      have firstBound := first.toNat_lt
      rw [readLengthUpTo] at read
      by_cases short : first.toNat < 0x80
      · rw [if_pos short] at read
        cases read
        refine ⟨[first], rest, rfl, rfl, ?_⟩
        have form := BerLength.short short
        rwa [UInt8.ofNat_toNat] at form
      rw [if_neg short] at read
      by_cases enough : 0 < first.toNat - 0x80 ∧ first.toNat - 0x80 ≤ most ∧
          first.toNat - 0x80 ≤ rest.length
      · rw [if_pos enough, Option.some.injEq, Prod.mk.injEq] at read
        obtain ⟨rfl, rfl⟩ := read
        have width : (rest.take (first.toNat - 0x80)).length =
            first.toNat - 0x80 := by
          rw [List.length_take]
          omega
        refine ⟨first :: rest.take (first.toNat - 0x80),
          rest.drop (first.toNat - 0x80), ?_, ?_, ?_⟩
        · rw [List.cons_append, List.take_append_drop]
        · rw [List.length_cons, width]
          omega
        · have form := @BerLength.long (rest.take (first.toNat - 0x80))
            (by omega) (by omega)
          have firstEq : 0x80 + (first.toNat - 0x80) = first.toNat := by omega
          rwa [width, firstEq, UInt8.ofNat_toNat] at form
      · rw [if_neg enough] at read
        cases read

theorem readHeader_sound {identifier found : UInt8} {following : Bytes}
    {header length : Nat}
    (read : readHeader (identifier :: following) =
      some (found, header, length)) :
    found = identifier ∧ ∃ lengthBytes content after,
      following = lengthBytes ++ (content ++ after) ∧
      header = 1 + lengthBytes.length ∧ length = content.length ∧
      BerLength content.length lengthBytes := by
  rw [readHeader] at read
  by_cases high : identifier &&& 0x1f = 0x1f
  · rw [if_pos high] at read
    cases read
  rw [if_neg high] at read
  cases lengthRead : readLengthUpTo 4 following with
  | none => simp [lengthRead] at read
  | some answer =>
      obtain ⟨size, announced⟩ := answer
      simp only [lengthRead] at read
      by_cases fits : size + announced ≤ following.length
      · rw [if_pos fits] at read
        cases read
        obtain ⟨lengthBytes, rest, rfl, rfl, form⟩ :=
          readLengthUpTo_sound lengthRead
        have announcedLe : length ≤ rest.length := by
          rw [List.length_append] at fits
          omega
        have taken : (rest.take length).length = length := by
          rw [List.length_take]
          omega
        refine ⟨rfl, lengthBytes, rest.take length, rest.drop length, ?_, rfl,
          taken.symm, ?_⟩
        · rw [List.take_append_drop]
        · rwa [taken]
      · rw [if_neg fits] at read
        cases read

/-- The length bytes of the distinguished encoding. -/
def shortestLength (length : Nat) : Bytes :=
  if length < 0x80 then [UInt8.ofNat length]
  else
    UInt8.ofNat (0x80 + (Nat.log 256 length + 1)) ::
      beBytes (Nat.log 256 length + 1) length

/-- An element in the distinguished encoding. -/
def element (identifier : UInt8) (content : Bytes) : Bytes :=
  identifier :: (shortestLength content.length ++ content)

theorem element_length (identifier : UInt8) (content : Bytes) :
    (element identifier content).length =
      1 + (shortestLength content.length).length + content.length := by
  rw [element, List.length_cons, List.length_append]
  omega

theorem shortestLength_short {length : Nat} (small : length < 0x80) :
    shortestLength length = [UInt8.ofNat length] := by
  rw [shortestLength, if_pos small]

theorem shortestLength_long {width length : Nat} (large : 0x80 ≤ length)
    (needed : 256 ^ width ≤ length) (fits : length < 256 ^ (width + 1)) :
    shortestLength length =
      UInt8.ofNat (0x80 + (width + 1)) :: beBytes (width + 1) length := by
  have log : Nat.log 256 length = width :=
    (Nat.log_eq_iff (.inr ⟨by decide, by omega⟩)).mpr ⟨needed, fits⟩
  rw [shortestLength, if_neg (by omega), log]

theorem shortestLength_definite {length : Nat} (fits : length < 256 ^ 4) :
    DefiniteLength length (shortestLength length) := by
  by_cases small : length < 0x80
  · rw [shortestLength_short small]
    exact .short small
  · rw [shortestLength, if_neg small]
    refine .long (Nat.succ_pos _) ?_ (Nat.lt_pow_succ_log_self (by decide) _)
    exact Nat.log_lt_of_lt_pow (by omega) fits

/-- The shortest form of a length is read if its bytes are allowed. -/
theorem readLengthUpTo_shortest {most length : Nat}
    (fits : length < 256 ^ most) (readable : most < 0x80) (rest : Bytes) :
    readLengthUpTo most (shortestLength length ++ rest) =
      some ((shortestLength length).length, length) := by
  by_cases small : length < 0x80
  · rw [shortestLength_short small]
    exact readLengthUpTo_short small most rest
  · have few : Nat.log 256 length < most :=
      Nat.log_lt_of_lt_pow (by omega) fits
    have within := Nat.lt_pow_succ_log_self (by decide : 1 < 256) length
    rw [shortestLength, if_neg small, List.cons_append,
      readLengthUpTo_long (Nat.succ_pos _) few readable within rest,
      List.length_cons, beBytes_length, Nat.add_comm]

/-- No definite form of a length takes fewer bytes. -/
theorem shortestLength_le {length : Nat} {lengthBytes : Bytes}
    (definite : DefiniteLength length lengthBytes) :
    (shortestLength length).length ≤ lengthBytes.length := by
  cases definite with
  | short small => simp [shortestLength_short small]
  | @long width _ positive few fits =>
      by_cases small : length < 0x80
      · rw [shortestLength_short small]
        simp
      · have log : Nat.log 256 length < width :=
          Nat.log_lt_of_lt_pow (by omega) fits
        rw [shortestLength, if_neg small, List.length_cons, List.length_cons,
          beBytes_length, beBytes_length]
        omega

theorem shortestLength_mono {length longer : Nat} (le : length ≤ longer) :
    (shortestLength length).length ≤ (shortestLength longer).length := by
  by_cases small : length < 0x80
  · rw [shortestLength_short small, shortestLength]
    split
    · exact Nat.le_refl _
    · simp
  · have log : Nat.log 256 length ≤ Nat.log 256 longer :=
      Nat.log_mono_right le
    rw [shortestLength, shortestLength, if_neg small, if_neg (by omega),
      List.length_cons, List.length_cons, beBytes_length, beBytes_length]
    omega

/-- No definite encoding of a content at least as long is shorter than the
distinguished one. -/
theorem element_length_le {identifier identifier' : UInt8}
    {content content' lengthBytes : Bytes}
    (longer : content.length ≤ content'.length)
    (definite : DefiniteLength content'.length lengthBytes) :
    (element identifier content).length ≤
      (identifier' :: (lengthBytes ++ content')).length := by
  have shorter := shortestLength_mono longer
  have shortest := shortestLength_le definite
  rw [element_length, List.length_cons, List.length_append]
  omega

theorem drop_element_header (identifier : UInt8) (content rest : Bytes) :
    (element identifier content ++ rest).drop
        (1 + (shortestLength content.length).length) = content ++ rest := by
  rw [element, List.cons_append, List.append_assoc, Nat.add_comm,
    List.drop_succ_cons]
  exact List.drop_left

theorem take_element_content (identifier : UInt8) (content rest : Bytes) :
    ((element identifier content ++ rest).drop
        (1 + (shortestLength content.length).length)).take content.length =
      content := by
  rw [drop_element_header]
  exact List.take_left

theorem drop_element (identifier : UInt8) (content rest : Bytes) :
    (element identifier content ++ rest).drop
        (1 + (shortestLength content.length).length + content.length) =
      rest := by
  rw [← element_length identifier content]
  exact List.drop_left

end TeeAnchor.DefiniteTlv
