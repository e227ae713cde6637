import TeeAnchor.PemInput

/-!
# Byte strings that are quotes of both kinds

The SGX reader looks at no field in front of offset 1012, which in a TD quote
lies in the report of the quoting enclave.  A TD quote passes its checks exactly
when a block of certification data follows there by chance or by choice.
-/

namespace TeeAnchor

/-- From offset 1012 on there are a size with as many bytes and a block of PCK
certification data that ends inside. -/
def HasSgxBlock (q : Bytes) : Prop :=
  leField q (1014 + leField q 1012 2) 2 = 5 ∧
    1020 + leField q 1012 2 + leField q (1016 + leField q 1012 2) 4 ≤ q.length

/-- The byte string begins with a TD quote. -/
def IsTdQuote (q : Bytes) : Prop :=
  ∃ (quote : Tdx.TdQuote) (trailing : Bytes), q = quote.bytes ++ trailing

theorem sgx_located_iff {q : Bytes} :
    (∃ region, Sgx.locateRegion q = .ok region) ↔ HasSgxBlock q := by
  constructor
  · rintro ⟨⟨off, size⟩, located⟩
    obtain ⟨rfl, inside, type, rfl⟩ := Sgx.locateRegion_eq_ok.mp located
    exact ⟨type, inside⟩
  · rintro ⟨type, inside⟩
    exact ⟨_, Sgx.locateRegion_eq_ok.mpr ⟨rfl, inside, type, rfl⟩⟩

theorem tdx_located_iff {q : Bytes} :
    (∃ region, Tdx.locateRegion q = .ok region) ↔ IsTdQuote q := by
  constructor
  · rintro ⟨⟨off, size⟩, located⟩
    obtain ⟨quote, trailing, split, _⟩ :=
      Tdx.TdQuote.exists_of_locateRegion located
    exact ⟨quote, trailing, split⟩
  · rintro ⟨quote, trailing, rfl⟩
    exact ⟨_, quote.locateRegion_bytes trailing⟩

theorem Tdx.size_before_region {q : Bytes} {off size : Nat}
    (located : Tdx.locateRegion q = .ok (off, size)) :
    4 ≤ off ∧ leField q (off - 4) 4 = size := by
  obtain ⟨_, _, lenOff, _, _, found⟩ := Tdx.locateRegion_eq_ok.mp located
  obtain ⟨_, offEq, _, _, _, _, sizeEq⟩ :=
    Tdx.locatePckRegion_eq_some.mp found
  refine ⟨by omega, ?_⟩
  rw [← sizeEq]
  congr 1
  omega

/-- Both framings succeed exactly on the TD quotes with an SGX block in them.
They then locate the same region exactly when the block is the inner one of the
TD quote. -/
theorem framings_exclusive_iff (q : Bytes) :
    (¬((∃ region, Sgx.locateRegion q = .ok region) ∧
        ∃ region, Tdx.locateRegion q = .ok region) ↔
      ¬(IsTdQuote q ∧ HasSgxBlock q)) ∧
    (∀ (quote : Tdx.TdQuote) (trailing : Bytes),
      q = quote.bytes ++ trailing → HasSgxBlock q →
      (Sgx.locateRegion q = Tdx.locateRegion q ↔
        1020 + leField q 1012 2 = quote.pckOff)) := by
  constructor
  · rw [sgx_located_iff, tdx_located_iff, and_comm]
  · intro quote trailing split block
    have tdLocated := quote.locateRegion_bytes trailing
    rw [← split] at tdLocated
    have sgxLocated := Sgx.locateRegion_eq_ok.mpr
      ⟨rfl, block.2, block.1, rfl⟩
    rw [tdLocated, sgxLocated, Except.ok.injEq, Prod.mk.injEq]
    constructor
    · rintro ⟨sameOff, _⟩
      exact sameOff
    · intro sameOff
      obtain ⟨_, sizeEq⟩ := Tdx.size_before_region tdLocated
      refine ⟨sameOff, ?_⟩
      rw [← sizeEq, ← sameOff]
      congr 1
      omega

/-- A version 4 quote whose report of the quoting enclave holds an SGX block at
offset 1012, with one byte of its own. -/
def polyglotQuote : Tdx.TdQuote where
  header := Tdx.sampleQuote.header
  body := Tdx.sampleQuote.body
  content :=
    { Tdx.sampleQuote.content with
      certification :=
        { Tdx.sampleQuote.content.certification with
          qeReport := List.replicate 242 0 ++
            ([0, 0, 5, 0, 1, 0, 0, 0, 0x41] ++ List.replicate 133 0)
          qeReport_length := by
            rw [List.length_append, List.length_append, List.length_replicate,
              List.length_replicate]
            rfl } }
  sigData_lt := by
    rw [QuoteContent.tdSigData_length]
    exact Nat.lt_of_le_of_lt (Nat.le_refl 591) (by decide)

theorem framings_exclusive_sample :
    ¬((∃ region, Sgx.locateRegion Tdx.sampleQuote.bytes = .ok region) ∧
        ∃ region, Tdx.locateRegion Tdx.sampleQuote.bytes = .ok region) ∧
    (Sgx.locateRegion polyglotQuote.bytes =
        Tdx.locateRegion polyglotQuote.bytes ↔
      1020 + leField polyglotQuote.bytes 1012 2 = polyglotQuote.pckOff) := by
  have noBlock : ¬HasSgxBlock Tdx.sampleQuote.bytes := by
    rintro ⟨type, _⟩
    revert type
    decide +kernel
  have block : HasSgxBlock polyglotQuote.bytes :=
    sgx_located_iff.mp ⟨(1020, 1), by decide +kernel⟩
  refine ⟨?_, (framings_exclusive_iff _).2 polyglotQuote []
    (List.append_nil _).symm block⟩
  rw [(framings_exclusive_iff _).1]
  rintro ⟨_, found⟩
  exact noBlock found

/-- One byte string presents one PEM text as an SGX quote and another one as a
TD quote. -/
theorem polyglot_accepted :
    Sgx.pemInput .standIn polyglotQuote.bytes = .ok [0x41] ∧
    Tdx.pemInput .standIn polyglotQuote.bytes = .ok [0x2d] ∧
    (∃ region, Sgx.locateRegion polyglotQuote.bytes = .ok region) ∧
    ∃ region, Tdx.locateRegion polyglotQuote.bytes = .ok region := by
  refine ⟨by decide +kernel, by decide +kernel, ⟨(1020, 1), ?_⟩,
    ⟨(polyglotQuote.pckOff, 1), ?_⟩⟩
  · decide +kernel
  · decide +kernel

end TeeAnchor
