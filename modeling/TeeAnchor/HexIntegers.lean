import TeeAnchor.StandardText
import Mathlib.Algebra.Group.Nat.Even

/-!
# Integers in hexadecimal

Zero is written `0`, any other number with an even number of digits and a sign
if it is negative.  A reader that takes digits of either case gets the number
back.
-/

namespace TeeAnchor

/-- The digits of a number, least significant first; the fuel bounds how
many. -/
def hexDigits : Nat → Nat → List Nat
  | 0, _ => []
  | _ + 1, 0 => []
  | fuel + 1, number + 1 =>
      (number + 1) % 16 :: hexDigits fuel ((number + 1) / 16)

def upperHexDigit (digit : Nat) : UInt8 :=
  if digit < 10 then UInt8.ofNat (48 + digit) else UInt8.ofNat (55 + digit)

def hexText (number : Nat) : Bytes :=
  let digits := (hexDigits number number).reverse.map upperHexDigit
  if digits.length % 2 = 1 then 48 :: digits else digits

def integerHexText (number : Int) : Bytes :=
  if number = 0 then [48]
  else if number < 0 then 45 :: hexText number.natAbs
  else hexText number.natAbs

def hexDigitValue (byte : UInt8) : Option Nat :=
  if 48 ≤ byte && byte ≤ 57 then some (byte.toNat - 48)
  else if 65 ≤ byte && byte ≤ 70 then some (byte.toNat - 55)
  else if 97 ≤ byte && byte ≤ 102 then some (byte.toNat - 87)
  else none

/-- Read digits up to the first byte that is none. -/
def hexTextValue (value : Nat) : Bytes → Nat
  | [] => value
  | byte :: rest =>
      match hexDigitValue byte with
      | some digit => hexTextValue (16 * value + digit) rest
      | none => value

def integerOfHexText : Bytes → Int
  | 45 :: rest => -hexTextValue 0 rest
  | text => hexTextValue 0 text

theorem hexDigits_lt (fuel number : Nat) :
    ∀ digit ∈ hexDigits fuel number, digit < 16 := by
  induction fuel, number using hexDigits.induct with
  | case1 number => simp [hexDigits]
  | case2 fuel => simp [hexDigits]
  | case3 fuel number ih =>
      rw [hexDigits, List.forall_mem_cons]
      exact ⟨Nat.mod_lt _ (by decide), ih⟩

theorem hexDigits_value {fuel number : Nat} (enough : number ≤ fuel) :
    (hexDigits fuel number).foldr (fun digit value => 16 * value + digit) 0 =
      number := by
  induction fuel, number using hexDigits.induct with
  | case1 number =>
      rw [Nat.le_zero] at enough
      simp [hexDigits, enough]
  | case2 fuel => rfl
  | case3 fuel number ih =>
      rw [hexDigits, List.foldr_cons, ih (by omega)]
      omega

theorem hexDigits_ne_nil {number : Nat} (positive : number ≠ 0) :
    hexDigits number number ≠ [] := by
  cases number with
  | zero => exact absurd rfl positive
  | succ number => simp [hexDigits]

theorem upperHexDigit_spec : ∀ digit < 16,
    hexDigitValue (upperHexDigit digit) = some digit ∧
      (isDigit (upperHexDigit digit) ||
        (65 ≤ upperHexDigit digit && upperHexDigit digit ≤ 70)) = true := by
  decide

theorem hexTextValue_digits {digits : List Nat}
    (small : ∀ digit ∈ digits, digit < 16) (value : Nat) :
    hexTextValue value (digits.map upperHexDigit) =
      digits.foldl (fun value digit => 16 * value + digit) value := by
  induction digits generalizing value with
  | nil => rfl
  | cons digit digits ih =>
      rw [List.forall_mem_cons] at small
      rw [List.map_cons, hexTextValue, (upperHexDigit_spec digit small.1).1]
      exact ih small.2 _

theorem hexTextValue_hexText (number : Nat) :
    hexTextValue 0 (hexText number) = number := by
  have digits : hexTextValue 0
      ((hexDigits number number).reverse.map upperHexDigit) = number := by
    rw [hexTextValue_digits, List.foldl_reverse]
    · exact hexDigits_value le_rfl
    · intro digit member
      exact hexDigits_lt number number digit (List.mem_reverse.mp member)
  unfold hexText
  simp only
  split
  · exact digits
  · exact digits

/-- The digits of a positive number are there, even in number and in upper
case. -/
theorem hexText_spec {number : Nat} (positive : number ≠ 0) :
    hexText number ≠ [] ∧ Even (hexText number).length ∧
      ∀ byte ∈ hexText number,
        (isDigit byte || (65 ≤ byte && byte ≤ 70)) = true := by
  have upper : ∀ byte ∈ (hexDigits number number).reverse.map upperHexDigit,
      (isDigit byte || (65 ≤ byte && byte ≤ 70)) = true := by
    intro byte member
    obtain ⟨digit, digitMember, rfl⟩ := List.mem_map.mp member
    exact (upperHexDigit_spec digit (hexDigits_lt number number digit
      (List.mem_reverse.mp digitMember))).2
  unfold hexText
  simp only
  split
  · rename_i odd
    refine ⟨by simp, ?_, ?_⟩
    · rw [List.length_cons, Nat.even_iff]
      omega
    · rw [List.forall_mem_cons]
      exact ⟨rfl, upper⟩
  · rename_i notOdd
    refine ⟨?_, ?_, upper⟩
    · simpa using hexDigits_ne_nil positive
    · rw [Nat.even_iff]
      omega

theorem integerOfHexText_integerHexText (number : Int) :
    integerOfHexText (integerHexText number) = number := by
  unfold integerHexText
  by_cases zero : number = 0
  · simp only [zero, if_true]
    rfl
  · rw [if_neg zero]
    have value := hexTextValue_hexText number.natAbs
    by_cases negative : number < 0
    · rw [if_pos negative, integerOfHexText, value]
      omega
    · rw [if_neg negative]
      obtain ⟨nonempty, _, upper⟩ := hexText_spec
        (Int.natAbs_ne_zero.mpr zero)
      cases text : hexText number.natAbs with
      | nil => exact absurd text nonempty
      | cons first rest =>
          rw [text] at upper value
          have notSign : first ≠ 45 := by
            rintro rfl
            have digit := upper 45 List.mem_cons_self
            cases digit
          rw [integerOfHexText, value]
          · omega
          · rintro rest' same
            cases same
            exact notSign rfl

theorem hexDigitValue_toLower (byte : UInt8) :
    hexDigitValue (toLower byte) = hexDigitValue byte := by
  unfold toLower
  by_cases upper : (65 ≤ byte && byte ≤ 90) = true
  · rw [if_pos upper]
    simp only [Bool.and_eq_true, decide_eq_true_eq, UInt8.le_iff_toNat_le,
      UInt8.reduceToNat] at upper
    have lowered : (byte + 32).toNat = byte.toNat + 32 := by
      simp only [UInt8.toNat_add, UInt8.reduceToNat]
      omega
    simp only [hexDigitValue, Bool.and_eq_true, decide_eq_true_eq,
      UInt8.le_iff_toNat_le, UInt8.reduceToNat, lowered]
    grind
  · rw [if_neg upper]

theorem hexTextValue_toLower (value : Nat) (text : Bytes) :
    hexTextValue value (text.map toLower) = hexTextValue value text := by
  induction text generalizing value with
  | nil => rfl
  | cons byte text ih =>
      rw [List.map_cons, hexTextValue, hexTextValue, hexDigitValue_toLower]
      cases hexDigitValue byte with
      | none => rfl
      | some digit => exact ih _

theorem toLower_eq_sign {byte : UInt8} : toLower byte = 45 ↔ byte = 45 := by
  unfold toLower
  by_cases upper : (65 ≤ byte && byte ≤ 90) = true
  · rw [if_pos upper]
    simp only [Bool.and_eq_true, decide_eq_true_eq, UInt8.le_iff_toNat_le,
      UInt8.reduceToNat] at upper
    simp only [← UInt8.toNat_inj, UInt8.toNat_add, UInt8.reduceToNat]
    omega
  · rw [if_neg upper]

theorem integerOfHexText_toLower (text : Bytes) :
    integerOfHexText (text.map toLower) = integerOfHexText text := by
  cases text with
  | nil => rfl
  | cons first rest =>
      by_cases sign : first = 45
      · subst sign
        change -(hexTextValue 0 (rest.map toLower) : Int) = _
        rw [hexTextValue_toLower]
        rfl
      · rw [integerOfHexText, integerOfHexText, hexTextValue_toLower]
        · rintro rest' same
          cases same
          exact sign rfl
        · rintro rest' same
          rw [List.map_cons, List.cons.injEq, toLower_eq_sign] at same
          exact sign same.1

end TeeAnchor
