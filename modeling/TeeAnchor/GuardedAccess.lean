import TeeAnchor.ByteFields
import TeeAnchor.Errors

/-!
# Accesses that can go wrong

Sums and differences of unsigned 64-bit sizes can wrap around, and a read can
lie outside its buffer.  Here each of these is a fault, so that a computation
without faults needs no argument about them.
-/

namespace TeeAnchor.Guarded

/-- What a size computation or a read can do wrong. -/
inductive Fault
  | wraps
  | outOfBounds
  deriving DecidableEq, Repr

def add (left right : Nat) : Except Fault Nat :=
  if left + right < 2 ^ 64 then .ok (left + right) else .error .wraps

def sub (left right : Nat) : Except Fault Nat :=
  if right ≤ left then .ok (left - right) else .error .wraps

def readLe (width : Nat) (bytes : Bytes) (off : Nat) : Except Fault Nat :=
  if off + width ≤ bytes.length then .ok (leField bytes off width)
  else .error .outOfBounds

/-- A step that can also fail with an exception. -/
abbrev Step (ε : Type) := ExceptT ε (Except Fault)

def faultless {ε α : Type} (result : Except ε α) : Step ε α :=
  ExceptT.mk (.ok result)

theorem add_eq {left right : Nat} (fits : left + right < 2 ^ 64) :
    add left right = .ok (left + right) :=
  if_pos fits

theorem sub_eq {left right : Nat} (le : right ≤ left) :
    sub left right = .ok (left - right) :=
  if_pos le

theorem readLe_eq {width off : Nat} {bytes : Bytes}
    (inside : off + width ≤ bytes.length) :
    readLe width bytes off = .ok (leField bytes off width) :=
  if_pos inside

theorem lift_ok_bind {ε α β : Type} (value : α) (next : α → Step ε β) :
    (liftM (.ok value : Except Fault α) >>= next : Step ε β) = next value :=
  rfl

theorem faultless_bind {ε α β : Type} {first : Except ε α}
    {next : α → Except ε β} {guarded : α → Step ε β}
    (each : ∀ value, first = .ok value →
      guarded value = faultless (next value)) :
    (faultless first >>= guarded) = faultless (first >>= next) := by
  cases first with
  | error failure => rfl
  | ok value => exact each value rfl

end TeeAnchor.Guarded
