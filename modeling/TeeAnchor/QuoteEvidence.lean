import TeeAnchor.CrlOption
import TeeAnchor.PemInput
import TeeAnchor.PpidShape

/-!
# What a quote is evidence of

A quote is taken as evidence when it frames the PEM text of a PCK chain that
leads to Intel's root.  The Chip ID and the key come from the leaf of that
chain, so that the PEM text decides them, whatever else is in the quote and
whichever kind of quote it is.
-/

namespace TeeAnchor

variable {ssl : OpenSsl} {host : Host}

/-- An SGX quote with this PEM text.  No one looks at its first 564 bytes. -/
def Sgx.Carries (file pem : Bytes) : Prop :=
  ∃ (front : Bytes) (certification : QeCertification) (trailing : Bytes),
    front.length = 564 ∧
    file = front ++ (certification.bytes ++ trailing) ∧
    pem = certification.pem

/-- A TD quote with this PEM text. -/
def Tdx.Carries (file pem : Bytes) : Prop :=
  ∃ (quote : TdQuote) (trailing : Bytes), file = quote.bytes ++ trailing ∧
    pem = quote.content.certification.pem

def Carries (teeType : String) (file pem : Bytes) : Prop :=
  teeType = "sgx" ∧ Sgx.Carries file pem ∨
    teeType = "tdx" ∧ Tdx.Carries file pem

theorem Sgx.exists_of_locateRegion {file : Bytes} {off size : Nat}
    (located : Sgx.locateRegion file = .ok (off, size)) :
    ∃ (front : Bytes) (certification : QeCertification) (trailing : Bytes),
      front.length = 564 ∧
      file = front ++ (certification.bytes ++ trailing) ∧
      off = 1020 + certification.authData.length ∧
      size = certification.pem.length := by
  obtain ⟨authSize, framed, rfl⟩ := Sgx.locateRegion_eq_ok_iff_at.mp located
  have inside := framed.2.2.2
  refine ⟨file.take 564, QeCertification.ofFields framed,
    file.drop (564 + (456 + authSize + size)), ?_, ?_, ?_, ?_⟩
  · rw [List.length_take]
    omega
  · rw [QeCertification.bytes_ofFields, ← List.append_assoc, take_append_field,
      List.take_append_drop]
  · exact congrArg (1020 + ·) (field_length (by omega)).symm
  · exact (field_length (by omega)).symm

theorem Sgx.locateRegion_frame {front : Bytes} (length : front.length = 564)
    (certification : QeCertification) (trailing : Bytes) :
    Sgx.locateRegion (front ++ (certification.bytes ++ trailing)) =
      .ok (1020 + certification.authData.length, certification.pem.length) := by
  rw [Sgx.locateRegion_eq_ok_iff_at]
  exact ⟨_, certification.at_of_split rfl length, rfl⟩

theorem Sgx.carries_iff {file pem : Bytes} :
    Sgx.Carries file pem ↔
      ∃ off size, Sgx.locateRegion file = .ok (off, size) ∧
        field file off size = pem := by
  constructor
  · rintro ⟨front, certification, trailing, length, rfl, rfl⟩
    exact ⟨_, _, Sgx.locateRegion_frame length certification trailing,
      certification.field_pem rfl length⟩
  · rintro ⟨off, size, located, rfl⟩
    obtain ⟨front, certification, trailing, length, split, rfl, rfl⟩ :=
      Sgx.exists_of_locateRegion located
    exact ⟨front, certification, trailing, length, split,
      certification.field_pem split length⟩

theorem Tdx.carries_iff {file pem : Bytes} :
    Tdx.Carries file pem ↔
      ∃ off size, Tdx.locateRegion file = .ok (off, size) ∧
        field file off size = pem := by
  constructor
  · rintro ⟨quote, trailing, rfl, rfl⟩
    exact ⟨_, _, quote.locateRegion_bytes trailing,
      quote.field_pckOff trailing⟩
  · rintro ⟨off, size, located, rfl⟩
    obtain ⟨quote, trailing, rfl, rfl, rfl⟩ :=
      Tdx.TdQuote.exists_of_locateRegion located
    exact ⟨quote, trailing, rfl, quote.field_pckOff trailing⟩

theorem field_unique {located : Result (Nat × Nat)} {file pem pem' : Bytes}
    (here : ∃ off size, located = .ok (off, size) ∧ field file off size = pem)
    (there : ∃ off size, located = .ok (off, size) ∧
      field file off size = pem') : pem = pem' := by
  obtain ⟨off, size, found, rfl⟩ := here
  obtain ⟨off', size', found', rfl⟩ := there
  cases found.symm.trans found'
  rfl

theorem Carries.unique {teeType : String} {file pem pem' : Bytes}
    (carries : Carries teeType file pem)
    (carries' : Carries teeType file pem') : pem = pem' := by
  rcases carries with ⟨rfl, sgx⟩ | ⟨rfl, tdx⟩
  · rcases carries' with ⟨_, sgx'⟩ | ⟨other, _⟩
    · exact field_unique (Sgx.carries_iff.mp sgx) (Sgx.carries_iff.mp sgx')
    · exact absurd other (by decide)
  · rcases carries' with ⟨other, _⟩ | ⟨_, tdx'⟩
    · exact absurd other (by decide)
    · exact field_unique (Tdx.carries_iff.mp tdx) (Tdx.carries_iff.mp tdx')

/-- The leaf of the chain in a PEM text. -/
structure PemLeaf (ssl : OpenSsl) (pem : Bytes) (leaf : X509) : Prop where
  calls : ssl.callFails "BIO_new_mem_buf" = false
  nonempty : ssl.pemReadX509 pem ≠ []
  verified : Sgx.verifyPckChain ssl (ssl.pemReadX509 pem) = .ok leaf

theorem readCertificates_eq_ok {missing : String} {pem : Bytes}
    {chain : List X509} :
    readCertificates ssl missing pem = .ok chain ↔
      ssl.callFails "BIO_new_mem_buf" = false ∧ ssl.pemReadX509 pem ≠ [] ∧
        chain = ssl.pemReadX509 pem := by
  unfold readCertificates
  simp only [bind_eq_ok, refuse_eq_ok, OpenSsl.call_eq_ok, pure, Except.pure,
    Except.ok.injEq, List.isEmpty_iff, exists_const,
    eq_comm (a := chain)]

theorem pemLeaf_iff {missing : String} {pem : Bytes} {leaf : X509} :
    (∃ chain, readCertificates ssl missing pem = .ok chain ∧
      Sgx.verifyPckChain ssl chain = .ok leaf) ↔ PemLeaf ssl pem leaf := by
  constructor
  · rintro ⟨chain, read, verified⟩
    obtain ⟨calls, nonempty, rfl⟩ := readCertificates_eq_ok.mp read
    exact ⟨calls, nonempty, verified⟩
  · rintro ⟨calls, nonempty, verified⟩
    exact ⟨_, readCertificates_eq_ok.mpr ⟨calls, nonempty, rfl⟩, verified⟩

/-- The chain that is read from a located region has this leaf just when the
framed PEM text has. -/
theorem located_leaf_iff (memory : ssl.ReadsMemory) {file : Bytes}
    {located : Result (Nat × Nat)} {missing : String} {leaf : X509}
    (small : ∀ off size, located = .ok (off, size) → size < 2 ^ 31)
    {Framed : Bytes → Prop}
    (framed : ∀ {pem}, Framed pem ↔ ∃ off size, located = .ok (off, size) ∧
      field file off size = pem) :
    (∃ chain, (ssl.readable file <$> located >>= readCertificates ssl missing) =
        .ok chain ∧ Sgx.verifyPckChain ssl chain = .ok leaf) ↔
      ∃ pem, Framed pem ∧ PemLeaf ssl pem leaf := by
  cases located with
  | error failure =>
      constructor
      · rintro ⟨chain, read, _⟩
        cases read
      · rintro ⟨pem, isFramed, _⟩
        obtain ⟨off, size, found, _⟩ := framed.mp isFramed
        cases found
  | ok region =>
      obtain ⟨off, size⟩ := region
      have isField := @OpenSsl.readable_eq_field ssl memory file off size
        (small off size rfl)
      change (∃ chain, readCertificates ssl missing
        (ssl.readable file (off, size)) = .ok chain ∧ _) ↔ _
      rw [isField, pemLeaf_iff]
      constructor
      · intro isLeaf
        exact ⟨_, framed.mpr ⟨off, size, rfl, rfl⟩, isLeaf⟩
      · rintro ⟨pem, isFramed, isLeaf⟩
        obtain ⟨_, _, ⟨⟩, rfl⟩ := framed.mp isFramed
        exact isLeaf

theorem Sgx.quoteLeaf_iff (memory : ssl.ReadsMemory) {file : Bytes}
    (short : file.length < 2 ^ 31) {leaf : X509} :
    (∃ chain, Sgx.extractPckChainFromQuote ssl file = .ok chain ∧
      Sgx.verifyPckChain ssl chain = .ok leaf) ↔
      ∃ pem, Sgx.Carries file pem ∧ PemLeaf ssl pem leaf := by
  rw [Sgx.extractPckChainFromQuote_eq_pemInput, Sgx.pemInput]
  refine located_leaf_iff memory ?_ Sgx.carries_iff
  intro off size located
  have inside := (Sgx.locateRegion_eq_ok.mp located).2.1
  omega

theorem Tdx.quoteLeaf_iff (memory : ssl.ReadsMemory) {file : Bytes}
    (short : file.length < 2 ^ 31) {leaf : X509} :
    (∃ chain, Tdx.extractPckChainFromQuote ssl file = .ok chain ∧
      Sgx.verifyPckChain ssl chain = .ok leaf) ↔
      ∃ pem, Tdx.Carries file pem ∧ PemLeaf ssl pem leaf := by
  rw [Tdx.extractPckChainFromQuote_eq_pemInput, Tdx.pemInput]
  refine located_leaf_iff memory ?_ Tdx.carries_iff
  intro off size located
  obtain ⟨_, _, lenOff, _, _, found⟩ := Tdx.locateRegion_eq_ok.mp located
  obtain ⟨inside, _, ends, _⟩ := Tdx.locatePckRegion_eq_some.mp found
  omega

def quoteChain (ssl : OpenSsl) (teeType : String) (file : Bytes) :
    Result (List X509) :=
  if teeType = "sgx" then Sgx.extractPckChainFromQuote ssl file
  else Tdx.extractPckChainFromQuote ssl file

theorem quoteChain_leaf_iff (memory : ssl.ReadsMemory) {teeType : String}
    (isQuote : teeType = "sgx" ∨ teeType = "tdx") {file : Bytes}
    (short : file.length < 2 ^ 31) {leaf : X509} :
    (∃ chain, quoteChain ssl teeType file = .ok chain ∧
      Sgx.verifyPckChain ssl chain = .ok leaf) ↔
      ∃ pem, Carries teeType file pem ∧ PemLeaf ssl pem leaf := by
  rcases isQuote with rfl | rfl
  · rw [quoteChain, if_pos rfl, Sgx.quoteLeaf_iff memory short]
    simp [Carries]
  · rw [quoteChain, if_neg (by decide), Tdx.quoteLeaf_iff memory short]
    simp [Carries]

theorem Verify.evidence_of_quote {args : Verify.VerifyArgs}
    (isQuote : args.teeType = "sgx" ∨ args.teeType = "tdx") {file : Bytes}
    (stored : readFile host args.reportPath = .ok file) :
    Verify.verifyEvidenceAndExtractChipId ssl host args =
      quoteChain ssl args.teeType file >>= Verify.ppidFromPckChain ssl := by
  unfold Verify.verifyEvidenceAndExtractChipId quoteChain
  rcases isQuote with sgx | tdx
  · rw [if_pos sgx, if_pos sgx, stored]
    rfl
  · rw [if_neg (by simp [tdx]), if_pos tdx, if_neg (by simp [tdx]), stored]
    rfl

theorem Provision.evidence_of_quote {args : Provision.ProvisionArgs}
    (isQuote : args.teeType = "sgx" ∨ args.teeType = "tdx") {file : Bytes}
    (stored : readFile host args.reportPath = .ok file) :
    ∃ teeType, Verify.expectedTeeType args.teeType = .ok teeType ∧
      Provision.extractChipId ssl host args =
        quoteChain ssl args.teeType file >>= fun chain =>
          Provision.chipIdFromPckChain ssl chain teeType := by
  unfold Provision.extractChipId quoteChain
  rcases isQuote with sgx | tdx
  · refine ⟨Binding.kTeeTypeSgx, by rw [sgx]; rfl, ?_⟩
    rw [if_pos sgx, if_pos sgx, Provision.extractChipIdForSgx, stored]
    rfl
  · refine ⟨Binding.kTeeTypeTdx, by rw [tdx]; rfl, ?_⟩
    rw [if_neg (by simp [tdx]), if_pos tdx, if_neg (by simp [tdx]),
      Provision.extractChipIdForTdx, stored]
    rfl

theorem Provision.chipId_of_leaf {chain : List X509} {teeType : UInt8}
    {chip : Provision.ChipIdResult} :
    Provision.chipIdFromPckChain ssl chain teeType = .ok chip ↔
      ∃ leaf, Sgx.verifyPckChain ssl chain = .ok leaf ∧
        Sgx.findSgxExtensionOctet ssl leaf Sgx.oidSgxPpid =
          .ok (some chip.chipId) ∧
        leaf.pubkey = some chip.subjectPubkey ∧ chip.teeType = teeType := by
  unfold Provision.chipIdFromPckChain
  rw [bind_eq_ok]
  refine exists_congr fun leaf => and_congr_right fun _ => ?_
  refine Sgx.find_bind_eq_ok.trans ?_
  simp only [bind_eq_ok, OpenSsl.nonNull_eq_ok]
  constructor
  · rintro ⟨ppid, found, pub, hasKey, returned⟩
    cases returned
    exact ⟨found, hasKey, rfl⟩
  · rintro ⟨found, hasKey, rfl⟩
    exact ⟨chip.chipId, found, chip.subjectPubkey, hasKey, rfl⟩

/-- A file is evidence of a Chip ID for SGX or TDX just when it is such a quote
with the PEM text of a chain whose leaf has that PPID.  Both commands read the
same from it, and nothing but the PEM text decides. -/
theorem quote_evidence_iff (memory : ssl.ReadsMemory) {file : Bytes}
    (short : file.length < 2 ^ 31) :
    (∀ (args : Verify.VerifyArgs) (chipId : Bytes),
      args.teeType = "sgx" ∨ args.teeType = "tdx" →
      readFile host args.reportPath = .ok file →
      (Verify.verifyEvidenceAndExtractChipId ssl host args = .ok chipId ↔
        ∃ pem leaf, Carries args.teeType file pem ∧ PemLeaf ssl pem leaf ∧
          Sgx.findSgxExtensionOctet ssl leaf Sgx.oidSgxPpid =
            .ok (some chipId))) ∧
    (∀ (args : Provision.ProvisionArgs) (chip : Provision.ChipIdResult),
      args.teeType = "sgx" ∨ args.teeType = "tdx" →
      readFile host args.reportPath = .ok file →
      (Provision.extractChipId ssl host args = .ok chip ↔
        ∃ pem leaf, Carries args.teeType file pem ∧ PemLeaf ssl pem leaf ∧
          Sgx.findSgxExtensionOctet ssl leaf Sgx.oidSgxPpid =
            .ok (some chip.chipId) ∧
          leaf.pubkey = some chip.subjectPubkey ∧
          Verify.expectedTeeType args.teeType = .ok chip.teeType)) ∧
    ∀ teeType pem pem', Carries teeType file pem → Carries teeType file pem' →
      pem = pem' := by
  have leaves : ∀ {teeType : String}, teeType = "sgx" ∨ teeType = "tdx" →
      ∀ Named : X509 → Prop,
      (∃ chain, quoteChain ssl teeType file = .ok chain ∧
        ∃ leaf, Sgx.verifyPckChain ssl chain = .ok leaf ∧ Named leaf) ↔
      ∃ pem leaf, Carries teeType file pem ∧ PemLeaf ssl pem leaf ∧
        Named leaf := by
    intro teeType isQuote Named
    constructor
    · rintro ⟨chain, read, leaf, verified, named⟩
      obtain ⟨pem, carries, isLeaf⟩ :=
        (quoteChain_leaf_iff memory isQuote short).mp ⟨chain, read, verified⟩
      exact ⟨pem, leaf, carries, isLeaf, named⟩
    · rintro ⟨pem, leaf, carries, isLeaf, named⟩
      obtain ⟨chain, read, verified⟩ :=
        (quoteChain_leaf_iff memory isQuote short).mpr ⟨pem, carries, isLeaf⟩
      exact ⟨chain, read, leaf, verified, named⟩
  refine ⟨?_, ?_, fun _ _ _ => Carries.unique⟩
  · intro args chipId isQuote stored
    rw [Verify.evidence_of_quote isQuote stored, bind_eq_ok]
    simp only [Sgx.ppidFromPckChain_eq_ok]
    exact leaves isQuote _
  · intro args chip isQuote stored
    obtain ⟨teeType, isCode, evidence⟩ :=
      Provision.evidence_of_quote isQuote stored
    rw [evidence, bind_eq_ok]
    simp only [Provision.chipId_of_leaf, isCode, Except.ok.injEq,
      eq_comm (a := teeType)]
    exact leaves isQuote _

theorem quote_evidence_iff_sample :
    ∃ pem leaf, Carries "sgx" Verify.sampleSgxQuote pem ∧
      PemLeaf (Verify.sampleSsl (Verify.sampleCert 0 Verify.samplePpid)) pem
        leaf ∧
      Sgx.findSgxExtensionOctet
        (Verify.sampleSsl (Verify.sampleCert 0 Verify.samplePpid)) leaf
        Sgx.oidSgxPpid = .ok (some Verify.samplePpid) := by
  have short : Verify.sampleSgxQuote.length < 2 ^ 31 := by decide +kernel
  refine ((@quote_evidence_iff
    (Verify.sampleSsl (Verify.sampleCert 0 Verify.samplePpid))
    (Verify.sampleHost Verify.sampleSgxQuote) standIn_readsMemory _
    short).1 (Verify.sampleArgs "quote.dat") Verify.samplePpid (Or.inl rfl)
    rfl).mp ?_
  have isSgx : (Verify.sampleArgs "quote.dat").teeType = "sgx" := rfl
  unfold Verify.verifyEvidenceAndExtractChipId
  rw [if_pos isSgx, Verify.sampleHost_readFile]
  decide +kernel

end TeeAnchor
