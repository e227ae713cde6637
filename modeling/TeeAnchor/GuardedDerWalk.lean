import TeeAnchor.ChipIdBinding
import TeeAnchor.PointerRegions
import TeeAnchor.SgxExtension

/-!
# The DER walks without faults

The two walks over extension values, with the pointers of the source: every
region that is handed to OpenSSL, every part that is entered or copied and the
step of the loop are guarded.  With a reader that keeps to what it is given they
fault on no byte string, and give what the plain walks give.
-/

namespace TeeAnchor

open Pointers

/-- `ASN1_get_object` reads a header and a content that are in its input, or
flags an error.  It does so on no input at all, and it counts an indefinite
length as 0. -/
def Asn1ReadsWithin (ssl : OpenSsl) : Prop :=
  ∀ input, (ssl.asn1GetObject input).ret &&& 0x80 = 0 →
    2 ≤ (ssl.asn1GetObject input).header ∧
    (ssl.asn1GetObject input).header + (ssl.asn1GetObject input).length ≤
      input.length

/-- `d2i_ASN1_OBJECT` moves no further than its input reaches. -/
def OidReadsWithin (ssl : OpenSsl) : Prop :=
  ∀ input obj used, ssl.d2iAsn1Object input = some (obj, used) →
    used ≤ input.length

/-- `ASN1_get_object` between two pointers, with the pointer it leaves. -/
def getObject (ssl : OpenSsl) (der : Bytes) (p stop : Nat) :
    Except Fault (Asn1Object × Nat) := do
  let object := ssl.asn1GetObject (← region der p stop)
  return (object, p + object.header)

theorem getObject_eq (ssl : OpenSsl) {der : Bytes} {p stop : Nat}
    (le : p ≤ stop) (inside : stop ≤ der.length) :
    getObject ssl der p stop =
      .ok (ssl.asn1GetObject (slice der p stop),
        p + (ssl.asn1GetObject (slice der p stop)).header) := by
  unfold getObject
  rw [region_eq le inside]
  rfl

theorem Asn1ReadsWithin.between {ssl : OpenSsl} (within : Asn1ReadsWithin ssl)
    {der : Bytes} {p stop : Nat} (le : p ≤ stop) (inside : stop ≤ der.length)
    (read : (ssl.asn1GetObject (slice der p stop)).ret &&& 0x80 = 0) :
    p + 2 ≤ p + (ssl.asn1GetObject (slice der p stop)).header ∧
    p + (ssl.asn1GetObject (slice der p stop)).header +
      (ssl.asn1GetObject (slice der p stop)).length ≤ stop := by
  obtain ⟨header, fits⟩ := within _ read
  rw [slice_length le inside] at fits
  omega

namespace Sgx

namespace Guarded

variable (ssl : OpenSsl)

/-- The rounds of the loop from `p` on. -/
def walkElements (der : Bytes) (target : String) (stop : Nat) :
    Nat → Nat → Except Fault (Option Bytes)
  | 0, _ => .error .runsOn
  | fuel + 1, p => do
      if stop ≤ p then return none
      let (elem, elemContent) ← getObject ssl der p stop
      if asn1Failed elem || elem.tag != vAsn1Sequence then return none
      let elemEnd ← behind elemContent elem.length stop
      match ssl.d2iAsn1Object (← region der elemContent elemEnd) with
      | none => return none
      | some (obj, used) =>
          if obj = target then do
            let op := elemContent + used
            let (value, vp) ← getObject ssl der op elemEnd
            if asn1Failed value then return none
            return some (← region der vp (← behind vp value.length elemEnd))
          else do
            advance p elemEnd
            walkElements der target stop fuel elemEnd

def walkExtension (der : Bytes) (target : String) :
    Except Fault (Option Bytes) := do
  let (outer, p) ← getObject ssl der 0 der.length
  if asn1Failed outer || outer.tag != vAsn1Sequence then return none
  let stop ← behind p outer.length der.length
  walkElements ssl der target stop (stop - p + 1) p

end Guarded

variable {ssl : OpenSsl}

theorem read_of_not_failed {object : Asn1Object}
    (read : ¬asn1Failed object = true) : object.ret &&& 0x80 = 0 := by
  unfold asn1Failed at read
  exact bne_eq_false_iff_eq.mp (Bool.eq_false_of_not_eq_true read)

theorem read_of_sequence {object : Asn1Object}
    (read : ¬(asn1Failed object || object.tag != vAsn1Sequence) = true) :
    object.ret &&& 0x80 = 0 := by
  rw [Bool.or_eq_true, not_or] at read
  exact read_of_not_failed read.1

/-- The value behind the target is read between the same pointers. -/
theorem guarded_value (within : Asn1ReadsWithin ssl) {der : Bytes}
    {op stop : Nat} (le : op ≤ stop) (inside : stop ≤ der.length) :
    (do
      let (value, vp) ← getObject ssl der op stop
      if asn1Failed value then return none
      return some (← region der vp (← behind vp value.length stop))) =
    (.ok
      (let value := ssl.asn1GetObject (slice der op stop)
      if asn1Failed value then none
      else some (((slice der op stop).drop value.header).take
        value.length)) : Except Fault (Option Bytes)) := by
  rw [getObject_eq ssl le inside]
  simp only [ok_bind]
  by_cases failed :
      asn1Failed (ssl.asn1GetObject (slice der op stop)) = true
  · rw [if_pos failed, if_pos failed]
    rfl
  · obtain ⟨_, fits⟩ := within.between le inside (read_of_not_failed failed)
    rw [if_neg failed, if_neg failed, behind_eq fits, ok_bind,
      region_eq (by omega) (by omega), drop_slice, take_slice fits]
    rfl

/-- From every pointer in the sequence the rounds end without a fault.  What is
left of the sequence bounds their number. -/
theorem guarded_walkElements (within : Asn1ReadsWithin ssl)
    (oids : OidReadsWithin ssl) {der : Bytes} {stop : Nat}
    (inside : stop ≤ der.length) (target : String) {fuel p : Nat}
    (le : p ≤ stop) (enough : stop - p < fuel) :
    Guarded.walkElements ssl der target stop fuel p =
      .ok (walkElements ssl target fuel (slice der p stop)) := by
  induction fuel generalizing p with
  | zero => omega
  | succ fuel ih =>
      rw [Guarded.walkElements, walkElements]
      by_cases atEnd : stop ≤ p
      · have empty : (slice der p stop).isEmpty = true := by
          rw [List.isEmpty_iff_length_eq_zero, slice_length le inside]
          omega
        rw [if_pos atEnd, if_pos empty]
        rfl
      have notEmpty : ¬(slice der p stop).isEmpty = true := by
        rw [List.isEmpty_iff_length_eq_zero, slice_length le inside]
        omega
      rw [if_neg atEnd, if_neg notEmpty, getObject_eq ssl le inside]
      simp only [ok_bind]
      by_cases refused : (asn1Failed (ssl.asn1GetObject (slice der p stop)) ||
          (ssl.asn1GetObject (slice der p stop)).tag != vAsn1Sequence) = true
      · rw [if_pos refused, if_pos refused]
        rfl
      rw [if_neg refused, if_neg refused]
      obtain ⟨header, elemFits⟩ :=
        within.between le inside (read_of_sequence refused)
      generalize ssl.asn1GetObject (slice der p stop) = elem at header elemFits ⊢
      -- The element and, behind its identifier, the value are regions too.
      rw [behind_eq elemFits, ok_bind,
        region_eq (by omega) (by omega), ok_bind, drop_slice,
        take_slice elemFits, drop_slice]
      cases found : ssl.d2iAsn1Object (slice der (p + elem.header)
          (p + elem.header + elem.length)) with
      | none => rfl
      | some answer =>
          obtain ⟨obj, used⟩ := answer
          have usedFits := oids _ _ _ found
          rw [slice_length (by omega) (by omega)] at usedFits
          simp only
          by_cases isTarget : obj = target
          · rw [if_pos isTarget, if_pos isTarget, drop_slice]
            exact guarded_value within (by omega) (by omega)
          · rw [if_neg isTarget, if_neg isTarget, advance_eq (by omega),
              ok_bind, ← Nat.add_assoc]
            exact ih elemFits (by omega)

theorem guarded_walkExtension (within : Asn1ReadsWithin ssl)
    (oids : OidReadsWithin ssl) (der : Bytes) (target : String) :
    Guarded.walkExtension ssl der target =
      .ok (walkExtension ssl der target) := by
  unfold Guarded.walkExtension walkExtension
  rw [getObject_eq ssl (Nat.zero_le _) (Nat.le_refl _), slice_all]
  simp only [ok_bind]
  by_cases refused : (asn1Failed (ssl.asn1GetObject der) ||
      (ssl.asn1GetObject der).tag != vAsn1Sequence) = true
  · rw [if_pos refused, if_pos refused]
    rfl
  rw [if_neg refused, if_neg refused]
  obtain ⟨_, fits⟩ := within der (read_of_sequence refused)
  rw [Nat.zero_add, behind_eq fits, ok_bind,
    guarded_walkElements within oids fits target (by omega) (by omega)]
  rw [take_drop_eq_slice, slice_length (by omega) fits]

end Sgx

namespace Binding

namespace Guarded

variable (ssl : OpenSsl)

/-- The pointer to the content, its length and the pointer behind it. -/
def mustRead (der : Bytes) (stop p expectTag : Nat) (what : String) :
    Step Exception (Nat × Nat × Nat) := do
  let (object, val) ← getObject ssl der p stop
  if object.ret &&& 0x80 ≠ 0 ∨ object.tag ≠ expectTag then
    throw (.teeAnchorError ("ChipIdBinding: " ++ what ++ " expected"))
  return (val, object.length, ← behind val object.length stop)

def decodeChipIdBinding (der : Bytes) : Step Exception ChipIdBinding := do
  let (outer, p) ← getObject ssl der 0 der.length
  if outer.ret &&& 0x80 ≠ 0 ∨ outer.tag ≠ vAsn1Sequence then
    throw (.teeAnchorError "ChipIdBinding: outer SEQUENCE expected")
  let stop ← behind p outer.length der.length
  let (ttP, ttLen, p) ←
    mustRead ssl der stop p vAsn1Enumerated "ENUMERATED teeType"
  if ttLen ≠ 1 then
    throw (.teeAnchorError ("ChipIdBinding: teeType length must be 1, got " ++
      toString ttLen))
  let teeType ← byteAt der ttP
  let (ciP, ciLen, p) ←
    mustRead ssl der stop p vAsn1OctetString "OCTET STRING chipId"
  let chipId ← region der ciP (ciP + ciLen)
  let (itP, itLen, _) ←
    mustRead ssl der stop p vAsn1GeneralizedTime "GeneralizedTime issuedAt"
  let issuedAt ← region der itP (itP + itLen)
  return ⟨teeType, chipId, issuedAt⟩

end Guarded

variable {ssl : OpenSsl}

/-- A member is refused by both readers, or both find it between the same
pointers. -/
theorem guarded_mustRead (within : Asn1ReadsWithin ssl) {der : Bytes}
    {p stop : Nat} (le : p ≤ stop) (inside : stop ≤ der.length)
    (expectTag : Nat) (what : String) :
    (∃ failure,
      mustRead ssl (slice der p stop) expectTag what = .error failure ∧
      Guarded.mustRead ssl der stop p expectTag what =
        faultless (.error failure)) ∨
    ∃ val len, val + len ≤ stop ∧
      mustRead ssl (slice der p stop) expectTag what =
        .ok (slice der val (val + len), slice der (val + len) stop) ∧
      Guarded.mustRead ssl der stop p expectTag what =
        faultless (.ok (val, len, val + len)) := by
  unfold mustRead Guarded.mustRead
  rw [getObject_eq ssl le inside, lift_ok_bind]
  by_cases refused : (ssl.asn1GetObject (slice der p stop)).ret &&& 0x80 ≠ 0 ∨
      (ssl.asn1GetObject (slice der p stop)).tag ≠ expectTag
  · left
    simp only [if_pos refused]
    exact ⟨_, rfl, rfl⟩
  · right
    rw [not_or, not_not] at refused
    obtain ⟨_, fits⟩ := within.between le inside refused.1
    refine ⟨_, _, fits, ?_, ?_⟩
    · rw [if_neg (not_or.mpr ⟨not_not.mpr refused.1, refused.2⟩), drop_slice,
        take_slice fits, drop_slice, ← Nat.add_assoc]
      rfl
    · simp only [if_neg (not_or.mpr ⟨not_not.mpr refused.1, refused.2⟩),
        behind_eq fits]
      rfl

theorem guarded_decodeChipIdBinding (within : Asn1ReadsWithin ssl)
    (der : Bytes) :
    Guarded.decodeChipIdBinding ssl der =
      faultless (decodeChipIdBinding ssl der) := by
  unfold Guarded.decodeChipIdBinding decodeChipIdBinding
  rw [getObject_eq ssl (Nat.zero_le _) (Nat.le_refl _), slice_all,
    lift_ok_bind]
  by_cases refused : (ssl.asn1GetObject der).ret &&& 0x80 ≠ 0 ∨
      (ssl.asn1GetObject der).tag ≠ vAsn1Sequence
  · simp only [if_pos refused]
    rfl
  simp only [if_neg refused]
  rw [not_or, not_not] at refused
  obtain ⟨_, fits⟩ := within der refused.1
  rw [Nat.zero_add, behind_eq fits, lift_ok_bind]
  rw [take_drop_eq_slice]
  have le : (ssl.asn1GetObject der).header ≤ (ssl.asn1GetObject der).header +
      (ssl.asn1GetObject der).length := Nat.le_add_right _ _
  generalize (ssl.asn1GetObject der).header + (ssl.asn1GetObject der).length =
    stop at fits le ⊢
  generalize (ssl.asn1GetObject der).header = p at le ⊢
  rcases guarded_mustRead within le fits vAsn1Enumerated
      "ENUMERATED teeType" with
    ⟨failure, plain, guarded⟩ | ⟨ttP, ttLen, ttFits, plain, guarded⟩
  · rw [plain, guarded]
    rfl
  rw [plain, guarded, faultless_ok_bind]
  by_cases oneByte : ttLen = 1
  · subst oneByte
    obtain ⟨teeType, atPointer, oneRegion⟩ :=
      exists_byteAt (by omega : ttP < der.length)
    rw [if_neg (by simp), oneRegion, atPointer, lift_ok_bind]
    rcases guarded_mustRead within ttFits fits vAsn1OctetString
        "OCTET STRING chipId" with
      ⟨failure, plain, guarded⟩ | ⟨ciP, ciLen, ciFits, plain, guarded⟩
    · simp only [ok_bind, plain, guarded]
      rfl
    simp only [ok_bind, plain]
    rw [guarded, faultless_ok_bind,
      region_eq (Nat.le_add_right _ _) (Nat.le_trans ciFits fits), lift_ok_bind]
    rcases guarded_mustRead within ciFits fits vAsn1GeneralizedTime
        "GeneralizedTime issuedAt" with
      ⟨failure, plain, guarded⟩ | ⟨itP, itLen, itFits, plain, guarded⟩
    · simp only [plain, guarded]
      rfl
    simp only [ok_bind, plain]
    rw [guarded, faultless_ok_bind,
      region_eq (Nat.le_add_right _ _) (Nat.le_trans itFits fits), lift_ok_bind]
    rfl
  · have length : (slice der ttP (ttP + ttLen)).length = ttLen := by
      rw [slice_length (by omega) (by omega)]
      omega
    rw [if_pos oneByte]
    simp only [ok_bind]
    split
    · rename_i teeType single
      rw [single] at length
      exact absurd length.symm oneByte
    · rw [length]
      rfl

end Binding

/-- On every extension value the two walks end without a fault, with what the
plain walks give. -/
theorem derWalks_faultless {ssl : OpenSsl} (within : Asn1ReadsWithin ssl)
    (oids : OidReadsWithin ssl) (der : Bytes) :
    (∀ target, Sgx.Guarded.walkExtension ssl der target =
      .ok (Sgx.walkExtension ssl der target)) ∧
    Binding.Guarded.decodeChipIdBinding ssl der =
      faultless (Binding.decodeChipIdBinding ssl der) :=
  ⟨Sgx.guarded_walkExtension within oids der,
    Binding.guarded_decodeChipIdBinding within der⟩

/-- The reader of headers that gives an indefinite length, which only a
constructed element can have, as 0 with a bit of its own. -/
def readBerObject : Bytes → Asn1Object
  | [] => ⟨0x80, 0, 0, 0, 0⟩
  | identifier :: following =>
      if following.head? = some 0x80 then
        if identifier &&& 0x20 ≠ 0 ∧ identifier &&& 0x1f ≠ 0x1f then
          ⟨0x21, (identifier &&& 0x1f).toNat, (identifier &&& 0xc0).toNat, 2, 0⟩
        else ⟨0x80, 0, 0, 0, 0⟩
      else Sgx.readLongObject (identifier :: following)

theorem readLengthUpTo_positive {most size length : Nat} {bytes : Bytes}
    (read : DefiniteTlv.readLengthUpTo most bytes = some (size, length)) :
    1 ≤ size := by
  cases bytes with
  | nil => cases read
  | cons first rest =>
      rw [DefiniteTlv.readLengthUpTo] at read
      split at read
      · cases read
        exact Nat.le_refl 1
      · simp only at read
        split at read
        · rw [Option.some.injEq, Prod.mk.injEq] at read
          omega
        · cases read

theorem readBerObject_within {ssl : OpenSsl}
    (reader : ssl.asn1GetObject = readBerObject) : Asn1ReadsWithin ssl := by
  have flagged : ¬(0x80 &&& 0x80 = 0) := by decide
  intro input read
  rw [reader] at read ⊢
  cases input with
  | nil => exact absurd read (by decide)
  | cons identifier following =>
      rw [readBerObject] at read ⊢
      by_cases indefinite : following.head? = some 0x80
      · rw [if_pos indefinite] at read ⊢
        split at read
        · rename_i constructed
          rw [if_pos constructed]
          cases following with
          | nil => cases indefinite
          | cons first rest => simp
        · exact absurd read (by decide)
      · rw [if_neg indefinite] at read ⊢
        rw [Sgx.readLongObject] at read ⊢
        by_cases high : identifier &&& 0x1f = 0x1f
        · rw [if_pos high] at read
          cases read
        rw [if_neg high] at read ⊢
        cases lengthRead : DefiniteTlv.readLengthUpTo 8 following with
        | none =>
            rw [lengthRead] at read
            exact absurd read flagged
        | some answer =>
            obtain ⟨size, length⟩ := answer
            have positive := readLengthUpTo_positive lengthRead
            rw [lengthRead] at read
            simp only at read ⊢
            split at read
            · rename_i fits
              rw [if_pos fits]
              simp only [List.length_cons]
              omega
            · exact absurd read (by decide)

/-- Nested sequences of indefinite length. -/
theorem derWalks_faultless_sample :
    Sgx.Guarded.walkExtension
      { Sgx.twoOidsSsl with asn1GetObject := readBerObject }
      [0x30, 0x80, 0x30, 0x80, 0x00, 0x00, 0x00, 0x00] Sgx.oidSgxPpid =
        .ok none := by
  have oids : OidReadsWithin
      { Sgx.twoOidsSsl with asn1GetObject := readBerObject } := by
    intro input obj used found
    change (if input.take 12 = Sgx.ppidElement.oidDer then
      some (Sgx.oidSgxPpid, 12)
      else if input.take 4 = Sgx.decoyElement.oidDer then some ("1.2.3", 4)
      else none) = some (obj, used) at found
    split at found
    · rename_i ppid
      cases found
      have length := congrArg List.length ppid
      rw [List.length_take] at length
      change min 12 input.length = 12 at length
      omega
    · split at found
      · rename_i decoy
        cases found
        have length := congrArg List.length decoy
        rw [List.length_take] at length
        change min 4 input.length = 4 at length
        omega
      · cases found
  rw [(derWalks_faultless (readBerObject_within rfl) oids
    [0x30, 0x80, 0x30, 0x80, 0x00, 0x00, 0x00, 0x00]).1]
  decide +kernel

end TeeAnchor
