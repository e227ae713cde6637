import TeeAnchor.PemInput

/-!
# Regions larger than an `int`

A region's size has 32 bits and becomes a signed `int`.  From `2 ^ 31` on it is
negative, and the region is read up to the first NUL byte, wherever that is.
-/

namespace TeeAnchor

namespace OpenSsl

/-- A memory BIO of a negative length holds what is in front of the first NUL
byte of its memory. -/
def ReadsToNul (ssl : OpenSsl) : Prop :=
  ∀ (before after : Bytes) (size : Int), size < 0 → (0 : UInt8) ∉ before →
    ssl.memBuf (before ++ 0 :: after) size = before

/-- A library whose negative lengths run on behind the quote where this has no
NUL byte. -/
def overreading : OpenSsl :=
  { standIn with
    memBuf := fun data size =>
      if size < 0 then
        if (0 : UInt8) ∈ data then data.takeWhile (· != 0) else data ++ [1]
      else data.take size.toNat }

theorem overreading_readsMemory : overreading.ReadsMemory := by
  intro data size
  have natural : ¬(size : Int) < 0 := by omega
  simp only [overreading, if_neg natural, Int.toNat_natCast]

theorem overreading_readsToNul : overreading.ReadsToNul := by
  intro before after size negative noNul
  have nul : (0 : UInt8) ∈ before ++ 0 :: after := by simp
  simp only [overreading, if_pos negative, if_pos nul]
  rw [List.takeWhile_append_of_pos]
  · simp
  · intro byte byteMem
    simp only [bne_iff_ne]
    rintro rfl
    exact noNul byteMem

end OpenSsl

/-- The first NUL byte from an offset on comes right behind the region. -/
def EndsAtNul (quote : Bytes) (off size : Nat) : Prop :=
  (0 : UInt8) ∉ field quote off size ∧
    ∃ after, quote.drop off = field quote off size ++ 0 :: after

theorem toInt32_neg {size : Nat} (large : 2 ^ 31 ≤ size)
    (fits : size < 2 ^ 32) : toInt32 size < 0 := by
  have sizeEq : (BitVec.ofNat 32 size).toNat = size := by
    rw [BitVec.toNat_ofNat]
    omega
  unfold toInt32
  rw [BitVec.toInt_eq_toNat_cond, sizeEq, if_neg (by omega)]
  omega

/-- The region is what is readable, whichever library, exactly when its size is
an `int` or the first NUL byte comes right behind it. -/
theorem readable_declared_iff {quote : Bytes} {off size : Nat}
    (inside : off + size ≤ quote.length) (fits : size < 2 ^ 32) :
    (∀ ssl : OpenSsl, ssl.ReadsMemory → ssl.ReadsToNul →
      ssl.readable quote (off, size) = field quote off size) ↔
      size < 2 ^ 31 ∨ EndsAtNul quote off size := by
  constructor
  · intro declared
    by_contra neither
    rw [not_or] at neither
    obtain ⟨large, notAtNul⟩ := neither
    have negative := toInt32_neg (by omega) fits
    have read := declared .overreading OpenSsl.overreading_readsMemory
      OpenSsl.overreading_readsToNul
    by_cases nul : (0 : UInt8) ∈ quote.drop off
    · obtain ⟨before, after, split, noNul⟩ := List.eq_append_cons_of_mem nul
      rw [OpenSsl.readable, split, OpenSsl.overreading_readsToNul before after
        _ negative noNul] at read
      apply notAtNul
      rw [EndsAtNul, ← read]
      exact ⟨noNul, after, split⟩
    · have tooLong := congrArg List.length read
      simp only [OpenSsl.readable, OpenSsl.overreading, if_pos negative,
        if_neg nul, List.length_append, List.length_drop,
        field_length inside] at tooLong
      simp only [List.length_singleton] at tooLong
      omega
  · rintro (small | ⟨noNul, after, split⟩) ssl readsMemory readsToNul
    · exact OpenSsl.readable_eq_field readsMemory small
    · by_cases small : size < 2 ^ 31
      · exact OpenSsl.readable_eq_field readsMemory small
      · rw [OpenSsl.readable, split]
        exact readsToNul _ after _ (toInt32_neg (by omega) fits) noNul

theorem Sgx.region_inside {quote : Bytes} {off size : Nat}
    (located : Sgx.locateRegion quote = .ok (off, size)) :
    off + size ≤ quote.length ∧ size < 2 ^ 32 := by
  obtain ⟨_, inside, _, rfl⟩ := Sgx.locateRegion_eq_ok.mp located
  exact ⟨inside, leField_lt _ _ 4⟩

theorem Tdx.region_inside {quote : Bytes} {off size : Nat}
    (located : Tdx.locateRegion quote = .ok (off, size)) :
    off + size ≤ quote.length ∧ size < 2 ^ 32 := by
  obtain ⟨_, _, lenOff, _, _, found⟩ := Tdx.locateRegion_eq_ok.mp located
  obtain ⟨inside, _, ends, _, _, _, rfl⟩ :=
    Tdx.locatePckRegion_eq_some.mp found
  exact ⟨by omega, leField_lt _ _ 4⟩

theorem pemInput_of_located {ssl : OpenSsl} {quote : Bytes}
    {located : Result (Nat × Nat)} {region : Nat × Nat} {declared : Bytes}
    (found : located = .ok region) :
    ssl.readable quote <$> located = .ok declared ↔
      ssl.readable quote region = declared := by
  rw [found]
  change Except.ok _ = _ ↔ _
  rw [Except.ok.injEq]

/-- On every quote that passes the framing checks the region is inside, and it
is what the PEM reader is given exactly when its size is an `int` or the first
NUL byte comes right behind it. -/
theorem pemInput_declared_iff (quote : Bytes) (off size : Nat) :
    (Sgx.locateRegion quote = .ok (off, size) →
      off + size ≤ quote.length ∧
      ((∀ ssl : OpenSsl, ssl.ReadsMemory → ssl.ReadsToNul →
        Sgx.pemInput ssl quote = .ok (field quote off size)) ↔
        size < 2 ^ 31 ∨ EndsAtNul quote off size)) ∧
    (Tdx.locateRegion quote = .ok (off, size) →
      off + size ≤ quote.length ∧
      ((∀ ssl : OpenSsl, ssl.ReadsMemory → ssl.ReadsToNul →
        Tdx.pemInput ssl quote = .ok (field quote off size)) ↔
        size < 2 ^ 31 ∨ EndsAtNul quote off size)) := by
  constructor
  · intro located
    obtain ⟨inside, fits⟩ := Sgx.region_inside located
    refine ⟨inside, ?_⟩
    simp only [Sgx.pemInput, pemInput_of_located located]
    exact readable_declared_iff inside fits
  · intro located
    obtain ⟨inside, fits⟩ := Tdx.region_inside located
    refine ⟨inside, ?_⟩
    simp only [Tdx.pemInput, pemInput_of_located located]
    exact readable_declared_iff inside fits

theorem pemInput_declared_sample :
    (Tdx.sampleQuote.pckOff + 1 ≤ Tdx.sampleQuote.bytes.length ∧
      ((∀ ssl : OpenSsl, ssl.ReadsMemory → ssl.ReadsToNul →
        Tdx.pemInput ssl Tdx.sampleQuote.bytes =
          .ok (field Tdx.sampleQuote.bytes Tdx.sampleQuote.pckOff 1)) ↔
        1 < 2 ^ 31 ∨
          EndsAtNul Tdx.sampleQuote.bytes Tdx.sampleQuote.pckOff 1)) ∧
    ∃ quote : Bytes, 1020 + 1 ≤ quote.length ∧
      ((∀ ssl : OpenSsl, ssl.ReadsMemory → ssl.ReadsToNul →
        Sgx.pemInput ssl quote = .ok (field quote 1020 1)) ↔
        1 < 2 ^ 31 ∨ EndsAtNul quote 1020 1) := by
  have tdLocated := Tdx.sampleQuote.locateRegion_bytes []
  have sgxLocated := (Sgx.SgxQuote.mk (List.replicate 48 3)
    (List.replicate 384 0) Tdx.sampleQuote.content List.length_replicate
      List.length_replicate).locateRegion_bytes []
  rw [List.append_nil] at tdLocated sgxLocated
  exact ⟨(pemInput_declared_iff _ _ _).2 tdLocated,
    _, (pemInput_declared_iff _ _ _).1 sgxLocated⟩

def nulContent (size : Nat) (fits : size < 2 ^ 32) : QuoteContent :=
  { Tdx.sampleQuote.content with
    certification :=
      { Tdx.sampleQuote.content.certification with
        pem := List.replicate size 0
        pem_lt := by rwa [List.length_replicate] } }

def nulSgxQuote (size : Nat) (fits : size < 2 ^ 32) : Sgx.SgxQuote where
  header := List.replicate 48 3
  reportBody := List.replicate 384 0
  content := nulContent size fits
  header_length := List.length_replicate
  reportBody_length := Tdx.sampleQuote.content.certification.qeReport_length

def nulTdQuote (size : Nat) (fits : size < 2 ^ 31 + 1) : Tdx.TdQuote where
  header := Tdx.sampleQuote.header
  body := Tdx.sampleQuote.body
  content := nulContent size (by omega)
  sigData_lt := by
    rw [QuoteContent.tdSigData_length]
    change 590 + 0 + (List.replicate size (0 : UInt8)).length < 2 ^ 32
    rw [List.length_replicate]
    omega

theorem readable_of_nul {ssl : OpenSsl} (readsToNul : ssl.ReadsToNul)
    {quote : Bytes} {off size : Nat} (large : 2 ^ 31 ≤ size)
    (fits : size < 2 ^ 32) (inside : off + size ≤ quote.length)
    (nul : field quote off size = List.replicate size 0) :
    ssl.readable quote (off, size) = [] := by
  obtain ⟨count, rfl⟩ : ∃ count, size = count + 1 := ⟨size - 1, by omega⟩
  have split : quote.drop off = [] ++ 0 :: (List.replicate count 0 ++
      quote.drop (off + (count + 1))) := by
    rw [List.nil_append, ← List.cons_append, ← List.replicate_succ, ← nul,
      field, ← List.drop_drop, List.take_append_drop]
  rw [OpenSsl.readable, split]
  exact readsToNul [] _ _ (toInt32_neg large fits) List.not_mem_nil

theorem nulSgxQuote_misread {size : Nat} (large : 2 ^ 31 ≤ size)
    (fits : size < 2 ^ 32) :
    Sgx.locateRegion (nulSgxQuote size fits).bytes = .ok (1020, size) ∧
    (field (nulSgxQuote size fits).bytes 1020 size).length = size ∧
    ∀ ssl : OpenSsl, ssl.ReadsToNul →
      Sgx.pemInput ssl (nulSgxQuote size fits).bytes = .ok [] := by
  have located := (nulSgxQuote size fits).locateRegion_bytes []
  have pem := (nulSgxQuote size fits).field_pem []
  have pemLength : (nulSgxQuote size fits).content.certification.pem.length =
      size := List.length_replicate
  rw [List.append_nil, pemLength] at located pem
  have inside := (Sgx.region_inside located).1
  refine ⟨located, field_length inside, ?_⟩
  intro ssl readsToNul
  rw [Sgx.pemInput, pemInput_of_located located]
  exact readable_of_nul readsToNul large fits inside pem

theorem nulTdQuote_misread {size : Nat} (large : 2 ^ 31 ≤ size)
    (fits : size < 2 ^ 31 + 1) :
    Tdx.locateRegion (nulTdQuote size fits).bytes =
      .ok ((nulTdQuote size fits).pckOff, size) ∧
    (field (nulTdQuote size fits).bytes (nulTdQuote size fits).pckOff
      size).length = size ∧
    ∀ ssl : OpenSsl, ssl.ReadsToNul →
      Tdx.pemInput ssl (nulTdQuote size fits).bytes = .ok [] := by
  have located := (nulTdQuote size fits).locateRegion_bytes []
  have pem := (nulTdQuote size fits).field_pckOff []
  have pemLength : (nulTdQuote size fits).content.certification.pem.length =
      size := List.length_replicate
  rw [List.append_nil, pemLength] at located pem
  have inside := (Tdx.region_inside located).1
  refine ⟨located, field_length inside, ?_⟩
  intro ssl readsToNul
  rw [Tdx.pemInput, pemInput_of_located located]
  exact readable_of_nul readsToNul large (by omega) inside pem

theorem large_region_misread :
    (∃ (quote : Bytes) (off size : Nat),
      Sgx.locateRegion quote = .ok (off, size) ∧ size = 2 ^ 31 ∧
      (field quote off size).length = 2 ^ 31 ∧
      ∀ ssl : OpenSsl, ssl.ReadsMemory → ssl.ReadsToNul →
        Sgx.pemInput ssl quote = .ok []) ∧
    (∃ (quote : Bytes) (off size : Nat),
      Tdx.locateRegion quote = .ok (off, size) ∧ size = 2 ^ 31 ∧
      (field quote off size).length = 2 ^ 31 ∧
      ∀ ssl : OpenSsl, ssl.ReadsMemory → ssl.ReadsToNul →
        Tdx.pemInput ssl quote = .ok []) := by
  obtain ⟨sgxLocated, sgxLength, sgxRead⟩ :=
    nulSgxQuote_misread (Nat.le_refl (2 ^ 31)) (by omega)
  obtain ⟨tdLocated, tdLength, tdRead⟩ :=
    nulTdQuote_misread (Nat.le_refl (2 ^ 31)) (by omega)
  exact ⟨⟨_, _, _, sgxLocated, rfl, sgxLength, fun ssl _ => sgxRead ssl⟩,
    ⟨_, _, _, tdLocated, rfl, tdLength, fun ssl _ => tdRead ssl⟩⟩

end TeeAnchor
