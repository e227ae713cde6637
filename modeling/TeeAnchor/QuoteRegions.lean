import TeeAnchor.ByteFields
import TeeAnchor.TdxQuote

/-!
# Where a quote has its PCK chain

Both quote readers first find the offset and the size of the PEM text, by
comparing fields of the quote, and then read certificates from there.  The
framing of each reader comes down to a few equations between its fields.
-/

namespace TeeAnchor

namespace Sgx

/-- The framing checks, up to where the certificates are read. -/
def locateRegion (quote : Bytes) : Result (Nat × Nat) := do
  let off := kQuoteHeaderSize + kReportBodySize + kSigLenFieldSize
  need quote off kEcdsaFixedSize "ecdsa signature fixed part"
  let off := off + kEcdsaFixedSize
  need quote off 2 "auth_data size"
  let authSize := rdU16le (quote.drop off)
  let off := off + 2
  need quote off authSize "auth_data body"
  let off := off + authSize
  need quote off 6 "certification_data header"
  let certKeyType := rdU16le (quote.drop off)
  let certSize := rdU32le (quote.drop (off + 2))
  let off := off + 6
  need quote off certSize "certification_data body"
  if certKeyType ≠ kCertTypePckCertChain then
    teeAnchorError ("unsupported cert_key_type=" ++ toString certKeyType ++
      " (expected 5 = PCK_CERT_CHAIN); quote lacks an embedded PCK cert chain")
  return (off, certSize)

theorem extractPckChainFromQuote_eq (ssl : OpenSsl) (quote : Bytes) :
    extractPckChainFromQuote ssl quote =
      locateRegion quote >>= fun region =>
        readChain ssl (quote.drop region.1) region.2
          "no PCK certificates found in quote certification_data" := by
  unfold extractPckChainFromQuote locateRegion
  simp only [bind_assoc]
  congr
  funext _
  congr
  funext _
  congr
  funext _
  congr
  funext _
  congr
  funext _
  split
  · rfl
  · rfl

theorem rdU16le_drop (q : Bytes) (off : Nat) :
    rdU16le (q.drop off) = leField q off 2 :=
  rfl

theorem rdU32le_drop (q : Bytes) (off : Nat) :
    rdU32le (q.drop off) = leField q off 4 :=
  rfl

theorem need_eq_ok {q : Bytes} {off n : Nat} {what : String} {done : Unit} :
    need q off n what = .ok done ↔ off + n ≤ q.length := by
  unfold need
  split
  · simp only [teeAnchorError_ne_ok, false_iff]
    omega
  · simp only [pure, Except.pure, true_iff]
    omega

theorem locateRegion_eq_ok {quote : Bytes} {off size : Nat} :
    locateRegion quote = .ok (off, size) ↔
      off = 1020 + leField quote 1012 2 ∧
      off + size ≤ quote.length ∧
      leField quote (1014 + leField quote 1012 2) 2 = 5 ∧
      size = leField quote (1016 + leField quote 1012 2) 4 := by
  have fixed : kQuoteHeaderSize + kReportBodySize + kSigLenFieldSize +
      kEcdsaFixedSize = 1012 := rfl
  unfold locateRegion
  simp only [bind_eq_ok, need_eq_ok, refuse_eq_ok, fixed, rdU16le_drop,
    rdU32le_drop, exists_const, Nat.reduceAdd, not_not, pure, Except.pure,
    Except.ok.injEq, Prod.mk.injEq]
  generalize leField quote 1012 2 = authSize
  have sizeOff : 1014 + authSize + 2 = 1016 + authSize := by omega
  rw [sizeOff]
  constructor
  · rintro ⟨_, _, _, _, inside, type, rfl, rfl⟩
    refine ⟨by omega, ?_, type, rfl⟩
    omega
  · rintro ⟨rfl, inside, type, rfl⟩
    refine ⟨by omega, by omega, by omega, by omega, ?_, type, by omega, rfl⟩
    omega

end Sgx

namespace Tdx

open Sgx

/-- Both location steps, up to where the certificates are read. -/
def locateRegion (quote : Bytes) : Result (Nat × Nat) := do
  let (sd, sdl) ← locateSigData quote
  match locatePckRegion quote sd sdl with
  | none =>
      teeAnchorError "PCK cert chain not found in TD quote certification data"
  | some region => return region

theorem extractPckChainFromQuote_eq (ssl : OpenSsl) (quote : Bytes) :
    extractPckChainFromQuote ssl quote =
      locateRegion quote >>= fun region =>
        readChain ssl (quote.drop region.1) region.2
          "no PCK certificates found in TD quote certification data" := by
  unfold extractPckChainFromQuote locateRegion
  rw [bind_assoc]
  congr
  funext ⟨sd, sdl⟩
  cases found : locatePckRegion quote sd sdl with
  | none =>
      simp only [found]
      rfl
  | some region =>
      simp only [found]
      rfl

/-- An unmet condition ends the search. -/
theorem refuse_eq_some {α : Type} {refused : Prop} [Decidable refused]
    {rest : Unit → Option α} {result : α} :
    (if refused then none >>= rest else rest ()) = some result ↔
      ¬refused ∧ rest () = some result := by
  by_cases holds : refused
  · simp [holds]
  · simp [holds]

theorem locatePckRegion_eq_some {q : Bytes} {sd sdl off size : Nat} :
    locatePckRegion q sd sdl = some (off, size) ↔
      sd + sdl ≤ q.length ∧
      off = sd + 590 + leField q (sd + 582) 2 ∧
      off + size = sd + sdl ∧
      leField q (sd + 128) 2 = 6 ∧
      leField q (sd + 130) 4 = 456 + leField q (sd + 582) 2 + size ∧
      leField q (sd + 584 + leField q (sd + 582) 2) 2 = 5 ∧
      leField q (sd + 586 + leField q (sd + 582) 2) 4 = size := by
  unfold locatePckRegion locateInnerRegion
  simp only [refuse_eq_some, kSigPubkeySize, kCertHdrSize, kQeReportSize,
    kQeReportSig, kCertTypeQeReport, kCertTypePck, rdU16le_drop, rdU32le_drop,
    Nat.add_assoc, Nat.reduceAdd, not_not, pure, Option.some.injEq,
    Prod.mk.injEq]
  generalize leField q (sd + 582) 2 = authSize
  have sizeOff : 584 + (authSize + 2) = 586 + authSize := by omega
  rw [sizeOff]
  generalize leField q (sd + 128) 2 = outerType
  generalize leField q (sd + 130) 4 = outerSize
  generalize leField q (sd + (584 + authSize)) 2 = innerType
  generalize leField q (sd + (586 + authSize)) 4 = innerSize
  constructor
  · intro checked
    omega
  · intro framed
    omega

/-- The report body ends where the length of the signature data is. -/
def BodyEnds (q : Bytes) (lenOff : Nat) : Prop :=
  leField q 0 2 = 4 ∧ lenOff = 632 ∨
    leField q 0 2 = 5 ∧ 54 ≤ q.length ∧ lenOff = 54 + leField q 50 4

theorem need_eq_ok {q : Bytes} {off n : Nat} {what : String} {done : Unit} :
    need q off n what = .ok done ↔ off + n ≤ q.length := by
  unfold need
  split
  · simp only [teeAnchorError_ne_ok, false_iff]
    omega
  · simp only [pure, Except.pure, true_iff]
    omega

theorem sigDataAt_eq_ok {q : Bytes} {lenOff sd sdl : Nat} {version : String} :
    sigDataAt q lenOff version = .ok (sd, sdl) ↔
      lenOff + 4 ≤ q.length ∧ sd = lenOff + 4 ∧ sdl = leField q lenOff 4 ∧
      (locatePckRegion q sd sdl).isSome := by
  unfold sigDataAt
  simp only [bind_eq_ok, need_eq_ok, refuse_eq_ok, exists_const]
  simp only [rdU32le_drop, pure, Except.pure, Except.ok.injEq, Prod.mk.injEq,
    Bool.not_eq_true, Option.isNone_eq_false_iff]
  constructor
  · rintro ⟨inside, located, rfl, rfl⟩
    exact ⟨inside, rfl, rfl, located⟩
  · rintro ⟨inside, rfl, rfl, located⟩
    exact ⟨inside, located, rfl, rfl⟩

theorem locateSigData_eq_ok {q : Bytes} {sd sdl : Nat} :
    locateSigData q = .ok (sd, sdl) ↔
      48 ≤ q.length ∧ leField q 4 4 = 0x81 ∧
      ∃ lenOff, BodyEnds q lenOff ∧ lenOff + 4 ≤ q.length ∧
        sd = lenOff + 4 ∧ sdl = leField q lenOff 4 ∧
        (locatePckRegion q sd sdl).isSome := by
  have version : rdU16le q = leField q 0 2 := rfl
  unfold locateSigData BodyEnds
  simp only [bind_eq_ok, need_eq_ok, refuse_eq_ok, exists_const, version,
    rdU32le_drop, kHeaderSize, Nat.zero_add, not_not]
  refine and_congr_right fun _ => and_congr_right fun _ => ?_
  by_cases four : leField q 0 2 = 4
  · simp [four, sigDataAt_eq_ok, kTdReportBodyV4]
  by_cases five : leField q 0 2 = 5
  · simp [five, sigDataAt_eq_ok, bind_eq_ok, need_eq_ok, kCertHdrSize]
  · simp [four, five]

/-- A TD quote is framed when its header, the end of its report body and the two
blocks of certification data agree. -/
theorem locateRegion_eq_ok {quote : Bytes} {off size : Nat} :
    locateRegion quote = .ok (off, size) ↔
      48 ≤ quote.length ∧ leField quote 4 4 = 0x81 ∧
      ∃ lenOff, BodyEnds quote lenOff ∧ lenOff + 4 ≤ quote.length ∧
        locatePckRegion quote (lenOff + 4) (leField quote lenOff 4) =
          some (off, size) := by
  unfold locateRegion
  simp only [bind_eq_ok, Prod.exists, locateSigData_eq_ok]
  constructor
  · rintro ⟨sd, sdl, ⟨header, tdx, lenOff, ends, inside, rfl, rfl, located⟩,
      returned⟩
    refine ⟨header, tdx, lenOff, ends, inside, ?_⟩
    obtain ⟨region, found⟩ := Option.isSome_iff_exists.mp located
    rw [found] at returned ⊢
    cases returned
    rfl
  · rintro ⟨header, tdx, lenOff, ends, inside, found⟩
    refine ⟨lenOff + 4, leField quote lenOff 4, ⟨header, tdx, lenOff, ends,
      inside, rfl, rfl, ?_⟩, ?_⟩
    · rw [found]
      rfl
    · simp only [found]
      rfl

end Tdx

end TeeAnchor
