import TeeAnchor.ByteFields

/-!
# Pointers into a buffer

A reader that walks a buffer with pointers hands regions of it to other readers
and copies from it.  A region whose end lies before its start, one that leaves
the buffer, a part that leaves the region it belongs to, a loop that does not
advance and one that does not end are faults, so that a walk without faults
needs no argument about them.
-/

namespace TeeAnchor.Pointers

inductive Fault
  | negativeLength
  | outOfBounds
  | outOfRegion
  | stalls
  | runsOn
  deriving DecidableEq, Repr

def slice (buffer : Bytes) (start stop : Nat) : Bytes :=
  field buffer start (stop - start)

def region (buffer : Bytes) (start stop : Nat) : Except Fault Bytes :=
  if stop < start then .error .negativeLength
  else if buffer.length < stop then .error .outOfBounds
  else .ok (slice buffer start stop)

def byteAt (buffer : Bytes) (p : Nat) : Except Fault UInt8 :=
  match buffer[p]? with
  | some byte => .ok byte
  | none => .error .outOfBounds

/-- The pointer behind a part that has to end where its region ends. -/
def behind (start length stop : Nat) : Except Fault Nat :=
  if stop < start + length then .error .outOfRegion else .ok (start + length)

def advance (start next : Nat) : Except Fault Unit :=
  if next ≤ start then .error .stalls else .ok ()

abbrev Step (ε : Type) := ExceptT ε (Except Fault)

def faultless {ε α : Type} (result : Except ε α) : Step ε α :=
  ExceptT.mk (.ok result)

theorem region_eq {buffer : Bytes} {start stop : Nat} (le : start ≤ stop)
    (inside : stop ≤ buffer.length) :
    region buffer start stop = .ok (slice buffer start stop) := by
  rw [region, if_neg (by omega), if_neg (by omega)]

theorem behind_eq {start length stop : Nat} (inside : start + length ≤ stop) :
    behind start length stop = .ok (start + length) :=
  if_neg (by omega)

theorem advance_eq {start next : Nat} (later : start < next) :
    advance start next = .ok () :=
  if_neg (by omega)

theorem slice_length {buffer : Bytes} {start stop : Nat} (le : start ≤ stop)
    (inside : stop ≤ buffer.length) :
    (slice buffer start stop).length = stop - start :=
  field_length (by omega)

/-- Moving a pointer forward drops what it passes over. -/
theorem drop_slice (buffer : Bytes) (start stop count : Nat) :
    (slice buffer start stop).drop count = slice buffer (start + count) stop := by
  unfold slice field
  rw [List.drop_take, List.drop_drop, Nat.sub_sub]

/-- A part at the front of a region lies between two pointers too. -/
theorem take_slice {buffer : Bytes} {start stop count : Nat}
    (inside : start + count ≤ stop) :
    (slice buffer start stop).take count =
      slice buffer start (start + count) := by
  unfold slice field
  rw [List.take_take, Nat.add_sub_cancel_left, min_eq_left (by omega)]

theorem take_drop_eq_slice (buffer : Bytes) (start count : Nat) :
    (buffer.drop start).take count = slice buffer start (start + count) := by
  rw [slice, field, Nat.add_sub_cancel_left]

theorem exists_byteAt {buffer : Bytes} {p : Nat} (inside : p < buffer.length) :
    ∃ byte, byteAt buffer p = .ok byte ∧ slice buffer p (p + 1) = [byte] := by
  refine ⟨buffer[p], ?_, ?_⟩
  · rw [byteAt, List.getElem?_eq_getElem inside]
  · rw [slice, field, Nat.add_sub_cancel_left, List.drop_eq_getElem_cons inside]
    rfl

theorem slice_all (buffer : Bytes) :
    slice buffer 0 buffer.length = buffer := by
  unfold slice field
  rw [List.drop_zero, Nat.sub_zero, List.take_length]

theorem lift_ok_bind {ε α β : Type} (value : α) (next : α → Step ε β) :
    (liftM (.ok value : Except Fault α) >>= next : Step ε β) = next value :=
  rfl

theorem faultless_ok_bind {ε α β : Type} (value : α) (next : α → Step ε β) :
    (faultless (.ok value) >>= next) = next value :=
  rfl

end TeeAnchor.Pointers
