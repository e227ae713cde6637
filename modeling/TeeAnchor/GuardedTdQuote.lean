import TeeAnchor.GuardedAccess
import TeeAnchor.QuoteRegions

/-!
# The location steps without faults

The steps that locate the PCK chain of a TD quote, with every sum, difference
and read of the source guarded.  On no byte string do they fault, and they give
what the plain steps give.
-/

namespace TeeAnchor.Tdx

open Guarded Sgx

namespace Guarded

def need (q : Bytes) (off n : Nat) (what : String) : Step Exception Unit := do
  if off > q.length then
    throw (.teeAnchorError ("TD quote too short while reading " ++ what))
  if n > (← sub q.length off) then
    throw (.teeAnchorError ("TD quote too short while reading " ++ what))

def locateInnerRegion (q : Bytes) (p outerEnd : Nat) :
    Except Fault (Option (Nat × Nat)) := do
  if (← add p kCertHdrSize) > outerEnd then return none
  let innerType ← readLe 2 q p
  let innerSize ← readLe 4 q (← add p 2)
  let innerBody ← add p kCertHdrSize
  if innerType ≠ kCertTypePck then return none
  if innerSize > (← sub outerEnd innerBody) then return none
  if (← add innerBody innerSize) ≠ outerEnd then return none
  return some (innerBody, innerSize)

def locatePckRegion (q : Bytes) (sd sdl : Nat) :
    Except Fault (Option (Nat × Nat)) := do
  if sd > q.length then return none
  if sdl > (← sub q.length sd) then return none
  let sdEnd ← add sd sdl
  let outerHdr ← add sd kSigPubkeySize
  if (← add outerHdr kCertHdrSize) > sdEnd then return none
  let outerType ← readLe 2 q outerHdr
  let outerSize ← readLe 4 q (← add outerHdr 2)
  let outerBody ← add outerHdr kCertHdrSize
  if outerType ≠ kCertTypeQeReport then return none
  if outerSize > (← sub sdEnd outerBody) then return none
  let outerEnd ← add outerBody outerSize
  if outerEnd ≠ sdEnd then return none
  let p ← add (← add outerBody kQeReportSize) kQeReportSig
  if (← add p 2) > outerEnd then return none
  let authSize ← readLe 2 q p
  let p ← add p 2
  if authSize > (← sub outerEnd p) then return none
  locateInnerRegion q (← add p authSize) outerEnd

def sigDataAt (q : Bytes) (lenOff : Nat) (version : String) :
    Step Exception (Nat × Nat) := do
  need q lenOff 4 (version ++ " sig_len")
  let sdl ← readLe 4 q lenOff
  let sd ← add lenOff 4
  if (← locatePckRegion q sd sdl).isNone then
    throw (.teeAnchorError (version ++
      " TD quote signature_data structure is not as expected " ++
      "(outer cert type!=6 or inner cert type!=5)"))
  return (sd, sdl)

def locateSigData (q : Bytes) : Step Exception (Nat × Nat) := do
  need q 0 kHeaderSize "quote header"
  let version ← readLe 2 q 0
  let teeType ← readLe 4 q 4
  if teeType ≠ 0x81 then
    throw (.teeAnchorError ("TD quote has unexpected tee_type=0x" ++
      hex8 teeType ++
      " (expected 0x00000081 = TDX); use --tee-type sgx for SGX quotes"))
  if version = 4 then
    sigDataAt q (← add kHeaderSize kTdReportBodyV4) "v4"
  else if version = 5 then do
    need q kHeaderSize kCertHdrSize "v5 body descriptor"
    let bodySize ← readLe 4 q (← add kHeaderSize 2)
    sigDataAt q (← add (← add kHeaderSize kCertHdrSize) bodySize) "v5"
  else
    throw (.teeAnchorError ("unsupported TD quote version=" ++
      toString version ++ " (supported: 4, 5)"))

def locateRegion (q : Bytes) : Step Exception (Nat × Nat) := do
  let (sd, sdl) ← locateSigData q
  match ← locatePckRegion q sd sdl with
  | none =>
      throw (.teeAnchorError
        "PCK cert chain not found in TD quote certification data")
  | some region => return region

end Guarded

theorem readU16_eq {q : Bytes} {off : Nat} (inside : off + 2 ≤ q.length) :
    readLe 2 q off = .ok (rdU16le (q.drop off)) :=
  readLe_eq inside

theorem readU32_eq {q : Bytes} {off : Nat} (inside : off + 4 ≤ q.length) :
    readLe 4 q off = .ok (rdU32le (q.drop off)) :=
  readLe_eq inside

theorem guarded_locateInnerRegion {q : Bytes} {p outerEnd : Nat}
    (small : p < 2 ^ 40) (inside : outerEnd ≤ q.length) :
    Guarded.locateInnerRegion q p outerEnd =
      .ok (locateInnerRegion q p outerEnd) := by
  have certHdr : kCertHdrSize = 6 := rfl
  have sizeBound : rdU32le (q.drop (p + 2)) < 256 ^ 4 := leField_lt _ _ _
  unfold Guarded.locateInnerRegion locateInnerRegion
  rw [add_eq (by omega), ok_bind]
  by_cases tooShort : p + kCertHdrSize > outerEnd
  · simp only [if_pos tooShort]
    rfl
  simp only [if_neg tooShort]
  rw [readU16_eq (by omega), ok_bind, add_eq (by omega), ok_bind,
    readU32_eq (by omega), ok_bind, ok_bind]
  by_cases otherType : rdU16le (q.drop p) ≠ kCertTypePck
  · simp only [if_pos otherType]
    rfl
  simp only [if_neg otherType]
  rw [sub_eq (by omega), ok_bind]
  by_cases tooLong :
      rdU32le (q.drop (p + 2)) > outerEnd - (p + kCertHdrSize)
  · simp only [if_pos tooLong]
    rfl
  simp only [if_neg tooLong]
  rw [add_eq (by omega), ok_bind]
  by_cases overrun :
      p + kCertHdrSize + rdU32le (q.drop (p + 2)) ≠ outerEnd
  · simp only [if_pos overrun]
    rfl
  · simp only [if_neg overrun]
    rfl

theorem guarded_locatePckRegion {q : Bytes} {sd sdl : Nat}
    (sdSmall : sd < 2 ^ 34) (sdlSmall : sdl < 2 ^ 34) :
    Guarded.locatePckRegion q sd sdl = .ok (locatePckRegion q sd sdl) := by
  have certHdr : kCertHdrSize = 6 := rfl
  have sigPubkey : kSigPubkeySize = 128 := rfl
  have qeReport : kQeReportSize = 384 := rfl
  have qeReportSig : kQeReportSig = 64 := rfl
  have sizeBound : rdU32le (q.drop (sd + kSigPubkeySize + 2)) < 256 ^ 4 :=
    leField_lt _ _ _
  have authBound : rdU16le (q.drop (sd + kSigPubkeySize + kCertHdrSize +
      kQeReportSize + kQeReportSig)) < 256 ^ 2 := leField_lt _ _ _
  unfold Guarded.locatePckRegion locatePckRegion
  by_cases outside : sd > q.length
  · simp only [if_pos outside, if_pos (Or.inl outside)]
    rfl
  simp only [if_neg outside]
  rw [sub_eq (by omega), ok_bind]
  by_cases tooLong : sdl > q.length - sd
  · simp only [if_pos tooLong, if_pos (Or.inr tooLong)]
    rfl
  simp only [if_neg tooLong, if_neg (not_or.mpr ⟨outside, tooLong⟩)]
  rw [add_eq (by omega), ok_bind, add_eq (by omega), ok_bind,
    add_eq (by omega), ok_bind]
  by_cases noHeader : sd + kSigPubkeySize + kCertHdrSize > sd + sdl
  · simp only [if_pos noHeader]
    rfl
  simp only [if_neg noHeader]
  rw [readU16_eq (by omega), ok_bind, add_eq (by omega), ok_bind,
    readU32_eq (by omega), ok_bind, ok_bind]
  by_cases otherType :
      rdU16le (q.drop (sd + kSigPubkeySize)) ≠ kCertTypeQeReport
  · simp only [if_pos otherType]
    rfl
  simp only [if_neg otherType]
  rw [sub_eq (by omega), ok_bind]
  by_cases tooLarge : rdU32le (q.drop (sd + kSigPubkeySize + 2)) >
      sd + sdl - (sd + kSigPubkeySize + kCertHdrSize)
  · simp only [if_pos tooLarge]
    rfl
  simp only [if_neg tooLarge]
  rw [add_eq (by omega), ok_bind]
  by_cases overrun : sd + kSigPubkeySize + kCertHdrSize +
      rdU32le (q.drop (sd + kSigPubkeySize + 2)) ≠ sd + sdl
  · simp only [if_pos overrun]
    rfl
  simp only [if_neg overrun]
  rw [add_eq (by omega), ok_bind, add_eq (by omega), ok_bind,
    add_eq (by omega), ok_bind]
  by_cases noAuthSize : sd + kSigPubkeySize + kCertHdrSize + kQeReportSize +
      kQeReportSig + 2 > sd + kSigPubkeySize + kCertHdrSize +
        rdU32le (q.drop (sd + kSigPubkeySize + 2))
  · simp only [if_pos noAuthSize]
    rfl
  simp only [if_neg noAuthSize]
  rw [readU16_eq (by omega), ok_bind, ok_bind, sub_eq (by omega), ok_bind]
  by_cases noAuth : rdU16le (q.drop (sd + kSigPubkeySize + kCertHdrSize +
      kQeReportSize + kQeReportSig)) > sd + kSigPubkeySize + kCertHdrSize +
        rdU32le (q.drop (sd + kSigPubkeySize + 2)) - (sd + kSigPubkeySize +
          kCertHdrSize + kQeReportSize + kQeReportSig + 2)
  · simp only [if_pos noAuth]
    rfl
  simp only [if_neg noAuth]
  rw [add_eq (by omega), ok_bind]
  exact guarded_locateInnerRegion (by omega) (by omega)

theorem guarded_need (q : Bytes) (off n : Nat) (what : String) :
    Guarded.need q off n what = faultless (need q off n what) := by
  unfold Guarded.need need
  by_cases outside : off > q.length
  · simp only [if_pos outside, if_pos (Or.inl outside)]
    rfl
  simp only [if_neg outside]
  rw [sub_eq (by omega), lift_ok_bind]
  by_cases tooLong : n > q.length - off
  · simp only [if_pos tooLong, if_pos (Or.inr tooLong)]
    rfl
  · simp only [if_neg tooLong, if_neg (not_or.mpr ⟨outside, tooLong⟩)]
    rfl

theorem guarded_sigDataAt {q : Bytes} {lenOff : Nat} (small : lenOff < 2 ^ 33)
    (version : String) :
    Guarded.sigDataAt q lenOff version =
      faultless (sigDataAt q lenOff version) := by
  unfold Guarded.sigDataAt sigDataAt
  rw [guarded_need]
  refine faultless_bind ?_
  intro _ checked
  have inside := need_eq_ok.mp checked
  have sdlBound : rdU32le (q.drop lenOff) < 256 ^ 4 := leField_lt _ _ _
  rw [readU32_eq inside, lift_ok_bind, add_eq (by omega), lift_ok_bind,
    guarded_locatePckRegion (by omega) (by omega), lift_ok_bind]
  by_cases missing : (locatePckRegion q (lenOff + 4)
      (rdU32le (q.drop lenOff))).isNone
  · simp only [if_pos missing]
    rfl
  · simp only [if_neg missing]
    rfl

theorem guarded_locateSigData (q : Bytes) :
    Guarded.locateSigData q = faultless (locateSigData q) := by
  have header : kHeaderSize = 48 := rfl
  have certHdr : kCertHdrSize = 6 := rfl
  have reportBody : kTdReportBodyV4 = 584 := rfl
  unfold Guarded.locateSigData locateSigData
  rw [guarded_need]
  refine faultless_bind ?_
  intro _ checked
  have inside := need_eq_ok.mp checked
  rw [readU16_eq (by omega), lift_ok_bind, readU32_eq (by omega), lift_ok_bind]
  by_cases notTdx : rdU32le (q.drop 4) ≠ 0x81
  · simp only [if_pos notTdx]
    rfl
  simp only [if_neg notTdx]
  by_cases four : rdU16le q = 4
  · simp only [List.drop_zero, if_pos four]
    rw [add_eq (by omega), lift_ok_bind]
    exact guarded_sigDataAt (by omega) _
  simp only [List.drop_zero, if_neg four]
  by_cases five : rdU16le q = 5
  · simp only [if_pos five]
    rw [guarded_need]
    refine faultless_bind ?_
    intro _ described
    have bodySizeInside := need_eq_ok.mp described
    have bodyBound : rdU32le (q.drop (kHeaderSize + 2)) < 256 ^ 4 :=
      leField_lt _ _ _
    rw [add_eq (by omega), lift_ok_bind, readU32_eq (by omega), lift_ok_bind,
      add_eq (by omega), lift_ok_bind, add_eq (by omega), lift_ok_bind]
    exact guarded_sigDataAt (by omega) _
  · simp only [if_neg five]
    rfl

theorem guarded_locateRegion (q : Bytes) :
    Guarded.locateRegion q = faultless (locateRegion q) := by
  unfold Guarded.locateRegion locateRegion
  rw [guarded_locateSigData]
  refine faultless_bind ?_
  rintro ⟨sd, sdl⟩ located
  obtain ⟨_, _, lenOff, ends, inside, rfl, rfl, _⟩ :=
    locateSigData_eq_ok.mp located
  have sdlBound := leField_lt q lenOff 4
  have bodyBound := leField_lt q 50 4
  have small : lenOff < 2 ^ 33 := by
    rcases ends with ⟨_, rfl⟩ | ⟨_, _, rfl⟩
    · omega
    · omega
  simp only
  rw [guarded_locatePckRegion (by omega) (by omega), lift_ok_bind]
  cases locatePckRegion q (lenOff + 4) (leField q lenOff 4) with
  | none => rfl
  | some region => rfl

end TeeAnchor.Tdx
