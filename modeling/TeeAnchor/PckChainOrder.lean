import TeeAnchor.FirstMatchPermutation
import TeeAnchor.PckChain
import Mathlib.Data.List.Find

/-!
# When the order of a PCK chain matters

Root and leaf are the first matches of two properties that exclude each other,
so the verdict is the same for every order of the certificates exactly when all
candidate pairs of root and leaf get the same verdict.
-/

namespace TeeAnchor.Sgx

open FirstMatchPermutation

variable {ssl : OpenSsl}

/-- Neither self-signed nor the issuer of a certificate in the chain. -/
def isLeaf (ssl : OpenSsl) (certs : List X509) (cert : X509) : Bool :=
  !isSelfSigned ssl cert &&
    !certs.any fun other => ssl.nameCmp cert.subject other.issuer == 0

/-- The root carries the pinned key and anchors the leaf, with the rest of the
chain as untrusted certificates. -/
def anchors (ssl : OpenSsl) (certs : List X509) (root leaf : X509) : Prop :=
  checkRootKey ssl root = .ok () ∧
    verifyLeaf ssl root leaf ((certs.erase root).erase leaf) = .ok ()

instance (certs : List X509) (root leaf : X509) :
    Decidable (anchors ssl certs root leaf) :=
  inferInstanceAs (Decidable (_ ∧ _))

/-- Chain verification sees the untrusted certificates as a set. -/
def UntrustedAsSet (ssl : OpenSsl) : Prop :=
  ∀ (context : VerifyContext) (untrusted : List X509),
    (∀ cert, cert ∈ context.untrusted ↔ cert ∈ untrusted) →
    ssl.x509VerifyCert { context with untrusted := untrusted } =
      ssl.x509VerifyCert context

theorem not_isLeaf_of_isSelfSigned (certs : List X509) (cert : X509)
    (selfSigned : isSelfSigned ssl cert) : ¬isLeaf ssl certs cert := by
  simp [isLeaf, selfSigned]

theorem isLeaf_perm {certs permuted : List X509} (perm : certs.Perm permuted) :
    isLeaf ssl permuted = isLeaf ssl certs := by
  ext cert
  unfold isLeaf
  have sameIssued : (permuted.any fun other =>
      ssl.nameCmp cert.subject other.issuer == 0) =
        certs.any fun other => ssl.nameCmp cert.subject other.issuer == 0 := by
    rw [Bool.eq_iff_iff, List.any_eq_true, List.any_eq_true]
    constructor
    · intro found
      obtain ⟨other, otherMem, issued⟩ := found
      exact ⟨other, perm.mem_iff.mpr otherMem, issued⟩
    · intro found
      obtain ⟨other, otherMem, issued⟩ := found
      exact ⟨other, perm.mem_iff.mp otherMem, issued⟩
  rw [sameIssued]

theorem verifyLeaf_perm (setwise : UntrustedAsSet ssl) {root leaf : X509}
    {untrusted permuted : List X509} (perm : untrusted.Perm permuted) :
    verifyLeaf ssl root leaf permuted = verifyLeaf ssl root leaf untrusted := by
  have sameVerdict := setwise ⟨[root], [], false, false, leaf, untrusted⟩
    permuted fun cert => perm.mem_iff
  unfold verifyLeaf
  rw [perm.isEmpty_eq, sameVerdict]

theorem anchors_perm (setwise : UntrustedAsSet ssl) {certs permuted : List X509}
    (perm : certs.Perm permuted) (root leaf : X509) :
    anchors ssl permuted root leaf ↔ anchors ssl certs root leaf := by
  unfold anchors
  rw [verifyLeaf_perm setwise ((perm.erase root).erase leaf)]

theorem issues_zipIdx {certs : List X509} {c : X509Ptr}
    (mem : c ∈ certs.zipIdx) (notSelfSigned : isSelfSigned ssl c.1 = false) :
    (certs.zipIdx.any fun other =>
        other.2 != c.2 && ssl.nameCmp c.1.subject other.1.issuer == 0) =
      certs.any fun other => ssl.nameCmp c.1.subject other.issuer == 0 := by
  rw [Bool.eq_iff_iff, List.any_eq_true, List.any_eq_true]
  constructor
  · intro found
    obtain ⟨other, otherMem, issued⟩ := found
    simp only [Bool.and_eq_true] at issued
    exact ⟨other.1, List.fst_mem_of_mem_zipIdx otherMem, issued.2⟩
  · intro found
    obtain ⟨other, otherMem, issued⟩ := found
    obtain ⟨index, inBounds, rfl⟩ := List.getElem_of_mem otherMem
    refine ⟨(certs[index], index), ?_, ?_⟩
    · rw [List.mem_zipIdx_iff_getElem?]
      exact List.getElem?_eq_getElem inBounds
    · have elsewhere : index ≠ c.2 := by
        intro same
        rw [List.mem_zipIdx_iff_getElem?, ← same,
          List.getElem?_eq_getElem inBounds] at mem
        have self : certs[index] = c.1 := Option.some.inj mem
        rw [self] at issued
        rw [isSelfSigned, issued] at notSelfSigned
        cases notSelfSigned
      simpa [elsewhere] using issued

/-- The leaf that is found is the first one of the chain. -/
theorem findLeaf_zipIdx (certs : List X509) :
    (findLeaf ssl certs.zipIdx).map Prod.fst =
      certs.find? (isLeaf ssl certs) := by
  have atPlaces : findLeaf ssl certs.zipIdx =
      certs.zipIdx.find? (isLeaf ssl certs ∘ Prod.fst) := by
    unfold findLeaf
    apply List.find?_congr
    intro c mem
    cases selfSigned : isSelfSigned ssl c.1 with
    | true => simp [isLeaf, selfSigned]
    | false =>
        rw [issues_zipIdx mem selfSigned]
        simp [isLeaf, selfSigned]
  rw [atPlaces, ← List.find?_map, List.zipIdx_map_fst]

theorem findRoot_zipIdx (certs : List X509) :
    (certs.zipIdx.find? fun c => isSelfSigned ssl c.1).map Prod.fst =
      certs.find? (isSelfSigned ssl) := by
  have mapped := @List.find?_map _ _ (isSelfSigned ssl) Prod.fst certs.zipIdx
  rw [List.zipIdx_map_fst] at mapped
  exact mapped.symm

def pairVerdict (ssl : OpenSsl) (certs : List X509) (root leaf : X509) :
    Option X509 :=
  if anchors ssl certs root leaf then some leaf else none

theorem checked_toOption {root leaf : X509} {untrusted : List X509} :
    (do
      checkRootKey ssl root
      verifyLeaf ssl root leaf untrusted
      return leaf : Result X509).toOption =
      if checkRootKey ssl root = .ok () ∧
        verifyLeaf ssl root leaf untrusted = .ok () then some leaf else none := by
  cases checkRootKey ssl root with
  | error failure => simp [bind, Except.bind, Except.toOption]
  | ok _ =>
      cases verifyLeaf ssl root leaf untrusted with
      | error failure => simp [bind, Except.bind, Except.toOption]
      | ok _ => simp [bind, Except.bind, pure, Except.pure, Except.toOption]

/-- Chain verification judges the first self-signed certificate together with
the first leaf. -/
theorem verifyPckChain_toOption (setwise : UntrustedAsSet ssl)
    (certs : List X509) :
    (verifyPckChain ssl certs).toOption =
      judgeFirst (isSelfSigned ssl) (isLeaf ssl certs) (pairVerdict ssl certs)
        certs := by
  unfold verifyPckChain judgeFirst
  rw [← findRoot_zipIdx certs, ← findLeaf_zipIdx certs]
  cases certs with
  | nil => rfl
  | cons cert certs =>
      simp only [List.isEmpty_cons, Bool.false_eq_true, if_false]
      cases foundRoot : (cert :: certs).zipIdx.find? fun c =>
          isSelfSigned ssl c.1 with
      | none => rfl
      | some root =>
          simp only [Option.map_some, Option.bind_some]
          cases foundLeaf : findLeaf ssl (cert :: certs).zipIdx with
          | none =>
              cases checkRootKey ssl root.1 <;> rfl
          | some leaf =>
              have rootMem := List.mem_of_find?_eq_some foundRoot
              have leafMem := List.mem_of_find?_eq_some foundLeaf
              have rootSelfSigned := List.find?_some foundRoot
              have leafFound := List.find?_some foundLeaf
              have elsewhere : root.2 ≠ leaf.2 := by
                intro same
                rw [List.mem_zipIdx_iff_getElem?] at rootMem leafMem
                rw [same, leafMem] at rootMem
                rw [← Option.some.inj rootMem] at rootSelfSigned
                simp [rootSelfSigned] at leafFound
              have split := zipIdx_perm_cons_cons rootMem leafMem elsewhere
              have rest := (split.erase root.1).erase leaf.1
              rw [List.erase_cons_head, List.erase_cons_head] at rest
              simp only [Option.map_some, Option.bind_some, checked_toOption,
                pairVerdict, anchors]
              rw [verifyLeaf_perm setwise rest]
              rfl

/-- Either no pair of a self-signed certificate and a leaf verifies, or every
leaf is the same certificate and every self-signed one anchors it. -/
def OneVerdict (ssl : OpenSsl) (certs : List X509) : Prop :=
  (∀ root ∈ certs, ∀ leaf ∈ certs, isSelfSigned ssl root →
    isLeaf ssl certs leaf → ¬anchors ssl certs root leaf) ∨
  ∃ leaf, (∀ other ∈ certs, isLeaf ssl certs other → other = leaf) ∧
    ∀ root ∈ certs, isSelfSigned ssl root → anchors ssl certs root leaf

theorem oneVerdict_iff (certs : List X509) :
    OneVerdict ssl certs ↔
      ∀ root ∈ certs, ∀ leaf ∈ certs, ∀ root' ∈ certs, ∀ leaf' ∈ certs,
        isSelfSigned ssl root → isLeaf ssl certs leaf →
        isSelfSigned ssl root' → isLeaf ssl certs leaf' →
        pairVerdict ssl certs root leaf = pairVerdict ssl certs root' leaf' := by
  constructor
  · intro oneVerdict root rootMem leaf leafMem root' rootMem' leaf' leafMem'
      selfSigned isLeaf selfSigned' isLeaf'
    rcases oneVerdict with noPair | ⟨only, onlyLeaf, everyRoot⟩
    · have refused := noPair root rootMem leaf leafMem selfSigned isLeaf
      have refused' := noPair root' rootMem' leaf' leafMem' selfSigned' isLeaf'
      simp [pairVerdict, refused, refused']
    · rw [onlyLeaf leaf leafMem isLeaf, onlyLeaf leaf' leafMem' isLeaf']
      have accepted := everyRoot root rootMem selfSigned
      have accepted' := everyRoot root' rootMem' selfSigned'
      simp [pairVerdict, accepted, accepted']
  · intro alike
    by_cases somePair : ∃ root ∈ certs, ∃ leaf ∈ certs,
        isSelfSigned ssl root ∧ isLeaf ssl certs leaf ∧
          anchors ssl certs root leaf
    · obtain ⟨root, rootMem, leaf, leafMem, selfSigned, isLeaf, accepted⟩ :=
        somePair
      have agreed : ∀ root' ∈ certs, ∀ leaf' ∈ certs, isSelfSigned ssl root' →
          Sgx.isLeaf ssl certs leaf' →
          anchors ssl certs root' leaf' ∧ leaf' = leaf := by
        intro root' rootMem' leaf' leafMem' selfSigned' isLeaf'
        have same := alike root' rootMem' leaf' leafMem' root rootMem leaf
          leafMem selfSigned' isLeaf' selfSigned isLeaf
        simp only [pairVerdict, accepted, if_true] at same
        by_cases accepted' : anchors ssl certs root' leaf'
        · rw [if_pos accepted'] at same
          exact ⟨accepted', Option.some.inj same⟩
        · rw [if_neg accepted'] at same
          cases same
      refine .inr ⟨leaf, ?_, ?_⟩
      · intro other otherMem otherLeaf
        exact (agreed root rootMem other otherMem selfSigned otherLeaf).2
      · intro root' rootMem' selfSigned'
        exact (agreed root' rootMem' leaf leafMem selfSigned' isLeaf).1
    · left
      intro root rootMem leaf leafMem selfSigned isLeaf accepted
      exact somePair ⟨root, rootMem, leaf, leafMem, selfSigned, isLeaf,
        accepted⟩

/-- The verdict on a chain is the same for every order of its certificates
exactly when its candidate pairs have one verdict. -/
theorem verifyPckChain_perm_iff (setwise : UntrustedAsSet ssl)
    (certs : List X509) :
    (∀ permuted, certs.Perm permuted →
      (verifyPckChain ssl permuted).toOption =
        (verifyPckChain ssl certs).toOption) ↔
    OneVerdict ssl certs := by
  rw [oneVerdict_iff, ← judgeFirst_perm_iff (not_isLeaf_of_isSelfSigned certs)]
  apply forall_congr'
  intro permuted
  apply imp_congr_right
  intro perm
  have samePairs : pairVerdict ssl permuted = pairVerdict ssl certs := by
    ext root leaf
    simp [pairVerdict, anchors_perm setwise perm]
  rw [verifyPckChain_toOption setwise, verifyPckChain_toOption setwise,
    isLeaf_perm perm, samePairs]

def namedCert (subject issuer : String) (spki : Bytes) : X509 :=
  ⟨2, 1, ⟨[("CN", issuer)]⟩, ⟨[("CN", subject)]⟩, 0, 1, some ⟨408, spki⟩, [],
    []⟩

def intelRoot : X509 := namedCert "Intel SGX Root CA" "Intel SGX Root CA" [0]

def strayRoot : X509 := namedCert "Stray" "Stray" [1]

def pckLeaf : X509 :=
  namedCert "Intel SGX PCK Certificate" "Intel SGX Root CA" [2]

/-- Only the key `0` is Intel's, and a leaf verifies when the trust anchor
issued it. -/
def pckSsl : OpenSsl :=
  { OpenSsl.standIn with
    ecPublicPoint := fun key =>
      if key.spki = [0] then some kIntelSgxRootPubkey else some key.spki
    x509VerifyCert := fun context =>
      if context.trusted.any fun root => root.subject = context.leaf.issuer then
        none
      else some 20 }

theorem pckSsl_untrustedAsSet : UntrustedAsSet pckSsl :=
  fun _ _ _ => rfl

theorem verifyPckChain_stray_root_first :
    UntrustedAsSet pckSsl ∧
    [intelRoot, strayRoot, pckLeaf].Perm [strayRoot, intelRoot, pckLeaf] ∧
    verifyPckChain pckSsl [intelRoot, strayRoot, pckLeaf] = .ok pckLeaf ∧
    verifyPckChain pckSsl [strayRoot, intelRoot, pckLeaf] =
      .error (.teeAnchorError ("PCK chain root public key does not match " ++
        "the hardcoded Intel SGX Root CA public key")) :=
  ⟨pckSsl_untrustedAsSet, by decide, by decide +kernel, by decide +kernel⟩

theorem verifyPckChain_perm_iff_intel :
    (verifyPckChain pckSsl [intelRoot, pckLeaf]).toOption =
      (verifyPckChain pckSsl [pckLeaf, intelRoot]).toOption := by
  apply (verifyPckChain_perm_iff pckSsl_untrustedAsSet _).mpr _ _ (by decide)
  right
  refine ⟨pckLeaf, ?_, ?_⟩
  · decide +kernel
  · decide +kernel

end TeeAnchor.Sgx
