import TeeAnchor.CborEncoding
import TeeAnchor.CcaToken

/-!
# What the CCA signature covers

The Sig_structure is an item that reads back as the array of its four parts,
so it determines the protected header and the payload.  The claims are read
from that payload alone, whatever the unsigned parts of the token are.
-/

namespace TeeAnchor.Cca

open Cbor

/-- The four elements of the Sig_structure with their encodings. -/
def sigStructureItems (protectedB payloadB : Bytes) : List (Value × Bytes) :=
  [(.text (ascii "Signature1"), encText (ascii "Signature1")),
    (.bytes protectedB, encBytes protectedB), (.bytes [], encBytes []),
    (.bytes payloadB, encBytes payloadB)]

theorem sigStructure_item {protectedB payloadB : Bytes}
    (protectedShort : protectedB.length < 2 ^ 32)
    (payloadShort : payloadB.length < 2 ^ 32) :
    Item (.array [.text (ascii "Signature1"), .bytes protectedB, .bytes [],
      .bytes payloadB]) (sigStructure protectedB payloadB) := by
  have each : ∀ item ∈ sigStructureItems protectedB payloadB,
      Item item.1 item.2 := by
    intro item itemMem
    simp only [sigStructureItems, List.mem_cons, List.not_mem_nil,
      or_false] at itemMem
    rcases itemMem with rfl | rfl | rfl | rfl
    · exact encText_item (by decide)
    · exact encBytes_item protectedShort
    · exact encBytes_item (by decide)
    · exact encBytes_item payloadShort
  have whole := encHead_array_item (by simp [sigStructureItems]) each
  have word : encHead 4 (UInt64.ofNat
      (sigStructureItems protectedB payloadB).length) ++
        (sigStructureItems protectedB payloadB).flatMap Prod.snd =
      sigStructure protectedB payloadB := by
    simp [sigStructureItems, sigStructure, List.append_assoc]
  rw [word] at whole
  exact whole

theorem decodePrefix_sigStructure {protectedB payloadB : Bytes}
    (protectedShort : protectedB.length < 2 ^ 32)
    (payloadShort : payloadB.length < 2 ^ 32) :
    decodePrefix .unlimited (sigStructure protectedB payloadB) =
      .ok (.array [.text (ascii "Signature1"), .bytes protectedB, .bytes [],
        .bytes payloadB], []) := by
  have readBack :=
    (sigStructure_item protectedShort payloadShort).decodePrefix_append []
  rwa [List.append_nil] at readBack

theorem sigStructure_injective {protectedB payloadB protectedB' payloadB' : Bytes}
    (protectedShort : protectedB.length < 2 ^ 32)
    (payloadShort : payloadB.length < 2 ^ 32)
    (protectedShort' : protectedB'.length < 2 ^ 32)
    (payloadShort' : payloadB'.length < 2 ^ 32)
    (same : sigStructure protectedB payloadB =
      sigStructure protectedB' payloadB') :
    protectedB = protectedB' ∧ payloadB = payloadB' := by
  have readBack := decodePrefix_sigStructure protectedShort payloadShort
  rw [same, decodePrefix_sigStructure protectedShort' payloadShort'] at readBack
  simp only [Except.ok.injEq, Prod.mk.injEq, Value.array.injEq,
    List.cons.injEq, Value.bytes.injEq] at readBack
  exact ⟨readBack.1.2.1.symm, readBack.1.2.2.2.1.symm⟩

/-- A token is accepted when its parts are read, the key verifies the signature
on their Sig_structure and the claims are found in the payload. -/
theorem verifyToken_eq_ok {storage : Storage} {loadCpak : Result EvpPkey}
    {verify : EvpPkey → Bytes → Bytes → Result Bool} {tok : Bytes}
    {result : CcaVerifyResult} :
    verifyToken storage loadCpak verify tok = .ok result ↔
      ∃ parts, signedParts storage tok = .ok parts ∧
        loadCpak = .ok result.cpak ∧
        verify result.cpak (sigStructure parts.protectedB parts.payloadB)
          parts.sigB = .ok true ∧
        extractClaims storage parts.payloadB =
          .ok (result.instanceId, result.implementationId) := by
  unfold verifyToken
  simp only [bind_eq_ok, refuse_eq_ok]
  constructor
  · intro accepted
    obtain ⟨parts, opened, cpak, loaded, verdict, verified, genuine,
      ⟨instanceId, implementationId⟩, claims, returned⟩ := accepted
    cases returned
    have genuineEq : verdict = true := by simpa using genuine
    rw [genuineEq] at verified
    exact ⟨parts, opened, loaded, verified, claims⟩
  · intro found
    obtain ⟨parts, opened, loaded, verified, claims⟩ := found
    exact ⟨parts, opened, result.cpak, loaded, true, verified, by simp,
      (result.instanceId, result.implementationId), claims, rfl⟩

theorem extractClaims_unlimited {storage : Storage} {payloadB : Bytes}
    {claims : Bytes × Bytes}
    (extracted : extractClaims storage payloadB = .ok claims) :
    extractClaims .unlimited payloadB = .ok claims := by
  unfold extractClaims at extracted ⊢
  rw [bind_eq_ok] at extracted ⊢
  obtain ⟨value, decoded, read⟩ := extracted
  exact ⟨value, decode_unlimited decoded, read⟩

/-- Whether a token is accepted hangs on what the signature check says of one
message, the Sig_structure of its parts. -/
theorem verifyToken_asks {storage : Storage} {loadCpak : Result EvpPkey}
    {verify : EvpPkey → Bytes → Bytes → Result Bool} {tok : Bytes}
    {result : CcaVerifyResult}
    (accepted : verifyToken storage loadCpak verify tok = .ok result) :
    ∃ parts, signedParts storage tok = .ok parts ∧
      ∀ verify' : EvpPkey → Bytes → Bytes → Result Bool,
        verify' result.cpak (sigStructure parts.protectedB parts.payloadB)
            parts.sigB = .ok true ↔
          verifyToken storage loadCpak verify' tok = .ok result := by
  obtain ⟨parts, opened, loaded, _, claims⟩ := verifyToken_eq_ok.mp accepted
  refine ⟨parts, opened, ?_⟩
  intro verify'
  constructor
  · intro verified
    exact verifyToken_eq_ok.mpr ⟨parts, opened, loaded, verified, claims⟩
  · intro accepted'
    obtain ⟨parts', opened', _, verified, _⟩ := verifyToken_eq_ok.mp accepted'
    cases opened.symm.trans opened'
    exact verified

/-- The identifiers an accepted token yields are a function of the message its
signature was checked on, and that message reads back as its own parts. -/
theorem identifiers_determined_by_message :
    (∀ (storage : Storage) (loadCpak : Result EvpPkey)
        (verify : EvpPkey → (msg rawSig : Bytes) → Result Bool) (tok : Bytes)
        (result : CcaVerifyResult),
      verifyToken storage loadCpak verify tok = .ok result →
      ∃ parts, signedParts storage tok = .ok parts ∧
        ∀ verify' : EvpPkey → (msg rawSig : Bytes) → Result Bool,
          verify' result.cpak (sigStructure parts.protectedB parts.payloadB)
              parts.sigB = .ok true ↔
            verifyToken storage loadCpak verify' tok = .ok result) ∧
    (∀ (storage storage' : Storage) (loadCpak loadCpak' : Result EvpPkey)
        (verify verify' : EvpPkey → (msg rawSig : Bytes) → Result Bool)
        (tok tok' : Bytes) (parts parts' : CoseSign1)
        (result result' : CcaVerifyResult),
      signedParts storage tok = .ok parts →
      signedParts storage' tok' = .ok parts' →
      parts.protectedB.length < 2 ^ 32 → parts.payloadB.length < 2 ^ 32 →
      parts'.protectedB.length < 2 ^ 32 → parts'.payloadB.length < 2 ^ 32 →
      verifyToken storage loadCpak verify tok = .ok result →
      verifyToken storage' loadCpak' verify' tok' = .ok result' →
      sigStructure parts.protectedB parts.payloadB =
        sigStructure parts'.protectedB parts'.payloadB →
      result.instanceId = result'.instanceId ∧
        result.implementationId = result'.implementationId) ∧
    (∀ protectedB payloadB : Bytes,
      protectedB.length < 2 ^ 32 → payloadB.length < 2 ^ 32 →
      decodePrefix .unlimited (sigStructure protectedB payloadB) =
        .ok (.array [.text (ascii "Signature1"), .bytes protectedB, .bytes [],
          .bytes payloadB], [])) ∧
    (∀ protectedB payloadB protectedB' payloadB' : Bytes,
      protectedB.length < 2 ^ 32 → payloadB.length < 2 ^ 32 →
      protectedB'.length < 2 ^ 32 → payloadB'.length < 2 ^ 32 →
      (protectedB, payloadB) ≠ (protectedB', payloadB') →
      sigStructure protectedB payloadB ≠ sigStructure protectedB' payloadB') := by
  refine ⟨?_, ?_, ?_, ?_⟩
  · intro storage loadCpak verify tok result accepted
    exact verifyToken_asks accepted
  · intro storage storage' loadCpak loadCpak' verify verify' tok tok' parts
      parts' result result' opened opened' protectedShort payloadShort
      protectedShort' payloadShort' accepted accepted' sameMessage
    have samePayload : parts.payloadB = parts'.payloadB :=
      (sigStructure_injective protectedShort payloadShort protectedShort'
        payloadShort' sameMessage).2
    obtain ⟨found, foundOpened, _, _, claims⟩ := verifyToken_eq_ok.mp accepted
    obtain ⟨found', foundOpened', _, _, claims'⟩ :=
      verifyToken_eq_ok.mp accepted'
    rw [opened] at foundOpened
    rw [opened'] at foundOpened'
    cases foundOpened
    cases foundOpened'
    have sameClaims := extractClaims_unlimited claims
    rw [samePayload, extractClaims_unlimited claims'] at sameClaims
    simp only [Except.ok.injEq, Prod.mk.injEq] at sameClaims
    exact ⟨sameClaims.1.symm, sameClaims.2.symm⟩
  · intro protectedB payloadB protectedShort payloadShort
    exact decodePrefix_sigStructure protectedShort payloadShort
  · intro protectedB payloadB protectedB' payloadB' protectedShort payloadShort
      protectedShort' payloadShort' different same
    apply different
    obtain ⟨protectedEq, payloadEq⟩ := sigStructure_injective protectedShort
      payloadShort protectedShort' payloadShort' same
    rw [protectedEq, payloadEq]

/-- Claims with instance-id `07` and implementation-id `08`. -/
def samplePayload : Bytes :=
  [0xa2, 0x19, 0x01, 0x00, 0x41, 0x07, 0x19, 0x09, 0x5c, 0x41, 0x08]

/-- The header map `{1: -35}`. -/
def sampleProtected : Bytes :=
  [0xa1, 0x01, 0x38, 0x22]

def sampleSign1 : Bytes :=
  [0x84, 0x44] ++ sampleProtected ++ [0xa0, 0x4b] ++ samplePayload ++
    [0x41, 0x2a]

def sampleToken : Bytes :=
  [0xd9, 0x01, 0x8f, 0xa1, 0x19, 0xac, 0xca, 0x56, 0xd2] ++ sampleSign1

/-- The same signed content without tags, under other head widths, with another
unprotected header and signature and a byte left over. -/
def sampleToken' : Bytes :=
  [0xa1, 0x1a, 0x00, 0x00, 0xac, 0xca, 0x58, 0x15, 0x84, 0x44] ++
    sampleProtected ++ [0x20, 0x4b] ++ samplePayload ++ [0x41, 0x2b] ++ [0xff]

def sampleResult : CcaVerifyResult :=
  ⟨[0x07], [0x08], ⟨408, kCpakSpkiDer⟩⟩

def sampleResult' : CcaVerifyResult :=
  ⟨[0x07], [0x08], ⟨408, []⟩⟩

theorem identifiers_determined_by_message_sample :
    sampleToken ≠ sampleToken' ∧
    (∃ parts, signedParts .unlimited sampleToken = .ok parts ∧
      ∀ verify' : EvpPkey → (msg rawSig : Bytes) → Result Bool,
        verify' sampleResult.cpak
            (sigStructure parts.protectedB parts.payloadB) parts.sigB =
              .ok true ↔
          verifyToken .unlimited (.ok sampleResult.cpak) verify' sampleToken =
            .ok sampleResult) ∧
    sampleResult.instanceId = sampleResult'.instanceId ∧
    decodePrefix .unlimited (sigStructure sampleProtected samplePayload) =
      .ok (.array [.text (ascii "Signature1"), .bytes sampleProtected,
        .bytes [], .bytes samplePayload], []) ∧
    sigStructure sampleProtected samplePayload ≠
      sigStructure samplePayload sampleProtected :=
  ⟨by decide,
    identifiers_determined_by_message.1 .unlimited (.ok sampleResult.cpak)
      (fun _ _ _ => .ok true) sampleToken sampleResult (by decide +kernel),
    (identifiers_determined_by_message.2.1 .unlimited .unlimited
      (.ok sampleResult.cpak) (.ok sampleResult'.cpak)
      (fun _ _ _ => .ok true) (fun _ _ _ => .ok true)
      sampleToken sampleToken' ⟨sampleProtected, samplePayload, [0x2a]⟩
      ⟨sampleProtected, samplePayload, [0x2b]⟩ sampleResult sampleResult'
      (by decide +kernel) (by decide +kernel) (by decide) (by decide)
      (by decide) (by decide) (by decide +kernel) (by decide +kernel) rfl).1,
    identifiers_determined_by_message.2.2.1 sampleProtected samplePayload
      (by decide) (by decide),
    identifiers_determined_by_message.2.2.2 sampleProtected samplePayload
      samplePayload sampleProtected (by decide) (by decide) (by decide)
      (by decide) (by decide)⟩

end TeeAnchor.Cca
