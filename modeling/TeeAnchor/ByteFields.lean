import TeeAnchor.ByteStrings

/-!
# Fields at offsets

A binary layout is read by offset and width and written by concatenation.  A
field found behind a prefix is what was written there, and fields that adjoin
make up the bytes they cover.
-/

namespace TeeAnchor

def field (bytes : Bytes) (off width : Nat) : Bytes :=
  (bytes.drop off).take width

/-- The number in a field, least significant byte first. -/
def leField (bytes : Bytes) (off width : Nat) : Nat :=
  leNat (field bytes off width)

theorem field_length {bytes : Bytes} {off width : Nat}
    (inside : off + width ≤ bytes.length) :
    (field bytes off width).length = width := by
  rw [field, List.length_take, List.length_drop]
  omega

theorem take_append_field (bytes : Bytes) (off width : Nat) :
    bytes.take off ++ field bytes off width = bytes.take (off + width) := by
  rw [field, List.take_add]

theorem field_append_field (bytes : Bytes) (off first second : Nat) :
    field bytes off first ++ field bytes (off + first) second =
      field bytes off (first + second) := by
  rw [field, field, field, List.take_add, List.drop_drop]

theorem field_of_split {before content after : Bytes} {off width : Nat}
    (start : before.length = off) (size : content.length = width) :
    field (before ++ (content ++ after)) off width = content := by
  rw [field, ← start, List.drop_left, ← size, List.take_left]

theorem leField_of_split {before after : Bytes} {off width number : Nat}
    (start : before.length = off) (fits : number < 256 ^ width) :
    leField (before ++ (leBytes width number ++ after)) off width = number := by
  rw [leField, field_of_split start (leBytes_length _ _), leNat_leBytes fits]

theorem leField_lt (bytes : Bytes) (off width : Nat) :
    leField bytes off width < 256 ^ width := by
  have bound := leNat_lt (field bytes off width)
  have short : (field bytes off width).length ≤ width := by
    rw [field]
    exact List.length_take_le _ _
  exact Nat.lt_of_lt_of_le bound (Nat.pow_le_pow_right (by decide) short)

theorem leBytes_leField {bytes : Bytes} {off width : Nat}
    (inside : off + width ≤ bytes.length) :
    leBytes width (leField bytes off width) = field bytes off width := by
  have written := leBytes_leNat (field bytes off width)
  rwa [field_length inside] at written

theorem leBytes_of_leField {bytes : Bytes} {off width value : Nat}
    (read : leField bytes off width = value)
    (inside : off + width ≤ bytes.length) :
    leBytes width value = field bytes off width := by
  rw [← read]
  exact leBytes_leField inside

end TeeAnchor
