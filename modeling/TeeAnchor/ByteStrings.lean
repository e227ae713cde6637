import Mathlib.Data.List.Basic
import Mathlib.Tactic.Ring

/-!
# Byte strings and the numbers they spell

Binary formats spell numbers as fixed-width groups of bytes.  This file gives
the two byte orders their values and encodings, proves that the encodings are
inverted by the values, and lists the small facts about single bytes that
readers of such formats need.
-/

namespace TeeAnchor

abbrev Bytes := List UInt8

/-- The bytes of a text whose characters all fit in one byte. -/
def ascii (text : String) : Bytes :=
  text.toList.map fun char => UInt8.ofNat char.toNat

/-- A byte string shown one character a byte, for messages. -/
def latin1 (bytes : Bytes) : String :=
  String.ofList (bytes.map fun byte => Char.ofNat byte.toNat)

theorem forall_byte {property : UInt8 → Prop}
    (checked : ∀ number < 256, property (UInt8.ofNat number)) (byte : UInt8) :
    property byte := by
  have onNumber := checked byte.toNat byte.toNat_lt
  rwa [UInt8.ofNat_toNat] at onNumber

/-- Most significant byte first. -/
def beNat (bytes : Bytes) : Nat :=
  bytes.foldl (fun value byte => value * 256 + byte.toNat) 0

/-- Least significant byte first. -/
def leNat : Bytes → Nat
  | [] => 0
  | byte :: bytes => byte.toNat + 256 * leNat bytes

/-- The low `width` bytes of a number, least significant first. -/
def leBytes : Nat → Nat → Bytes
  | 0, _ => []
  | width + 1, number => UInt8.ofNat number :: leBytes width (number / 256)

/-- The low `width` bytes of a number, most significant first. -/
def beBytes (width number : Nat) : Bytes :=
  (leBytes width number).reverse

@[simp]
theorem leNat_nil : leNat [] = 0 :=
  rfl

@[simp]
theorem leNat_cons (byte : UInt8) (bytes : Bytes) :
    leNat (byte :: bytes) = byte.toNat + 256 * leNat bytes :=
  rfl

@[simp]
theorem leBytes_length (width number : Nat) :
    (leBytes width number).length = width := by
  induction width generalizing number with
  | zero => rfl
  | succ width ih => simp [leBytes, ih]

@[simp]
theorem beBytes_length (width number : Nat) :
    (beBytes width number).length = width := by
  simp [beBytes]

/-- Only the low bytes of the number are written. -/
theorem leBytes_mod (width number : Nat) :
    leBytes width (number % 256 ^ width) = leBytes width number := by
  induction width generalizing number with
  | zero => rfl
  | succ width ih =>
      have lowByte : UInt8.ofNat (number % 256 ^ (width + 1)) =
          UInt8.ofNat number := by
        apply UInt8.toNat_inj.mp
        rw [UInt8.toNat_ofNat', UInt8.toNat_ofNat', pow_succ']
        exact Nat.mod_mul_right_mod number 256 (256 ^ width)
      have highBytes : number % 256 ^ (width + 1) / 256 =
          number / 256 % 256 ^ width := by
        rw [pow_succ', Nat.mod_mul_right_div_self]
      rw [leBytes, lowByte, highBytes, ih]
      rfl

theorem beBytes_mod (width number : Nat) :
    beBytes width (number % 256 ^ width) = beBytes width number := by
  rw [beBytes, leBytes_mod]
  rfl

theorem leNat_lt (bytes : Bytes) : leNat bytes < 256 ^ bytes.length := by
  induction bytes with
  | nil => simp
  | cons byte bytes ih =>
      have byteBound := byte.toNat_lt
      simp only [leNat_cons, List.length_cons, pow_succ]
      omega

theorem leNat_leBytes {width number : Nat} (fits : number < 256 ^ width) :
    leNat (leBytes width number) = number := by
  induction width generalizing number with
  | zero =>
      simp only [pow_zero, Nat.lt_one_iff] at fits
      simp [leBytes, fits]
  | succ width ih =>
      have tailFits : number / 256 < 256 ^ width := by
        rw [pow_succ] at fits
        omega
      simp only [leBytes, leNat_cons, ih tailFits, UInt8.toNat_ofNat']
      omega

theorem leBytes_inj {width first second : Nat} (firstFits : first < 256 ^ width)
    (secondFits : second < 256 ^ width)
    (same : leBytes width first = leBytes width second) : first = second := by
  rw [← leNat_leBytes firstFits, same, leNat_leBytes secondFits]

theorem leBytes_leNat (bytes : Bytes) :
    leBytes bytes.length (leNat bytes) = bytes := by
  induction bytes with
  | nil => rfl
  | cons byte bytes ih =>
      have byteBound := byte.toNat_lt
      have quotient : (byte.toNat + 256 * leNat bytes) / 256 = leNat bytes := by
        omega
      have headByte : UInt8.ofNat (byte.toNat + 256 * leNat bytes) = byte := by
        apply UInt8.toNat_inj.mp
        simp only [UInt8.toNat_ofNat']
        omega
      simp only [List.length_cons, leNat_cons, leBytes, quotient, headByte, ih]

theorem beNat_eq_leNat_reverse (bytes : Bytes) :
    beNat bytes = leNat bytes.reverse := by
  have general : ∀ (reversed : Bytes),
      reversed.foldr (fun byte value => value * 256 + byte.toNat) 0 =
        leNat reversed := by
    intro reversed
    induction reversed with
    | nil => rfl
    | cons byte reversed ih =>
        rw [List.foldr_cons, ih, leNat_cons]
        ring
  rw [← general, beNat, List.foldr_reverse]

theorem leNat_append (low high : Bytes) :
    leNat (low ++ high) = leNat low + 256 ^ low.length * leNat high := by
  induction low with
  | nil => simp
  | cons byte low ih =>
      simp only [List.cons_append, leNat_cons, ih, List.length_cons, pow_succ]
      ring

theorem beNat_cons (byte : UInt8) (bytes : Bytes) :
    beNat (byte :: bytes) = byte.toNat * 256 ^ bytes.length + beNat bytes := by
  rw [beNat_eq_leNat_reverse, beNat_eq_leNat_reverse, List.reverse_cons,
    leNat_append, List.length_reverse, leNat_cons, leNat_nil]
  ring

theorem beNat_lt (bytes : Bytes) : beNat bytes < 256 ^ bytes.length := by
  have bound := leNat_lt bytes.reverse
  rwa [List.length_reverse, ← beNat_eq_leNat_reverse] at bound

theorem beNat_beBytes {width number : Nat} (fits : number < 256 ^ width) :
    beNat (beBytes width number) = number := by
  rw [beNat_eq_leNat_reverse, beBytes, List.reverse_reverse,
    leNat_leBytes fits]

theorem beBytes_beNat (bytes : Bytes) :
    beBytes bytes.length (beNat bytes) = bytes := by
  have reversed := leBytes_leNat bytes.reverse
  rw [beNat_eq_leNat_reverse, beBytes, ← List.length_reverse, reversed,
    List.reverse_reverse]

end TeeAnchor
