import TeeAnchor.CborWriting
import TeeAnchor.IntegerKeys
import TeeAnchor.VerifyExitCodes

/-!
# CCA tokens from their issuer to the reader

A token is written with the encoder: the claims under their keys, the header
with its algorithm, both with the signature on their Sig_structure in a
COSE_Sign1, and this in the collection.  Whatever else the maps hold, in
whatever order, and with or without the tags, the reader finds the identifiers
that were written and checks the signature on the message that was signed.
-/

namespace TeeAnchor.Cca

open Cbor

variable {ssl : OpenSsl} {host : Host}

def headerEntries : List (SmallInteger × Option Written) :=
  [(⟨kCoseAlgKey, by decide⟩, some (.integer ⟨kCoseAlgES384, by decide⟩))]

def claimEntries (instanceId : ShortBytes)
    (implementationId : Option ShortBytes) :
    List (SmallInteger × Option Written) :=
  [(⟨kInstanceIdKey, by decide⟩, some (.bytes instanceId)),
    (⟨kImplIdKey, by decide⟩, implementationId.map .bytes)]

def collectionEntries (platform : ShortBytes) :
    List (SmallInteger × Option Written) :=
  [(⟨kPlatformTokenKey, by decide⟩, some (.bytes platform))]

/-- The COSE_Sign1 that a platform issues, by what goes into it. -/
structure PlatformToken where
  instanceId : ShortBytes
  nonempty : instanceId.val ≠ []
  implementationId : Option ShortBytes
  header : Listing headerEntries
  claims : Listing (claimEntries instanceId implementationId)
  headerShort : header.written.word.length < 2 ^ 32
  claimsShort : claims.written.word.length < 2 ^ 32
  unprotectedHeader : Written
  r : Nat
  s : Nat
  rFits : r < 256 ^ 48
  sFits : s < 256 ^ 48
  tagged : Bool

namespace PlatformToken

variable (token : PlatformToken)

def parts : CoseSign1 where
  protectedB := token.header.written.word
  payloadB := token.claims.written.word
  sigB := beBytes 48 token.r ++ beBytes 48 token.s

def message : Bytes :=
  sigStructure token.parts.protectedB token.parts.payloadB

theorem sigB_length : token.parts.sigB.length = 96 := by
  simp [parts]

def elements : List Written :=
  [.bytes ⟨token.parts.protectedB, token.headerShort⟩, token.unprotectedHeader,
    .bytes ⟨token.parts.payloadB, token.claimsShort⟩,
    .bytes ⟨token.parts.sigB, by rw [token.sigB_length]; decide⟩]

def written : Written :=
  .tagged token.tagged kCoseSign1Tag (by decide)
    (.array token.elements (by simp [elements]))

end PlatformToken

structure Token where
  platform : PlatformToken
  platformShort : platform.written.word.length < 2 ^ 32
  collection : Listing
    (collectionEntries ⟨platform.written.word, platformShort⟩)
  tagged : Bool

def Token.written (token : Token) : Written :=
  .tagged token.tagged kCcaTokenTag (by decide) token.collection.written

theorem platformToken_written (token : Token) (rest : Bytes) :
    platformToken .unlimited (token.written.word ++ rest) =
      .ok token.platform.written.word := by
  have looked := token.collection.atKey_written (List.nodup_singleton _)
    List.mem_cons_self
  have untagged : token.written.value.untag kCcaTokenTag =
      .ok token.collection.written.value :=
    Written.untag_tagged (by intro _ _ isTag; cases isTag)
  unfold platformToken
  rw [bind_eq_ok]
  refine ⟨_, token.written.decode_append rest, ?_⟩
  rw [bind_eq_ok]
  refine ⟨_, untagged, ?_⟩
  have isMap : token.collection.written.value = .map _ := rfl
  rw [isMap] at looked ⊢
  simp only [looked]
  rfl

theorem openCoseSign1_written (token : PlatformToken) :
    openCoseSign1 .unlimited token.written.word = .ok token.parts := by
  have untagged : token.written.value.untag kCoseSign1Tag =
      .ok (.array (token.elements.map Written.value)) :=
    Written.untag_tagged (by intro _ _ isTag; cases isTag)
  unfold openCoseSign1
  rw [bind_eq_ok]
  refine ⟨_, token.written.decode_word, ?_⟩
  rw [bind_eq_ok]
  exact ⟨_, untagged, rfl⟩

theorem checkAlg_written (token : PlatformToken) :
    checkAlg .unlimited token.parts.protectedB = .ok () := by
  rw [checkAlg_eq_ok]
  exact ⟨_, _, token.header.written.decode_word,
    token.header.atKey_written (List.nodup_singleton _) List.mem_cons_self,
    asInt_ofInt64 kCoseAlgES384⟩

theorem extractClaims_written (token : PlatformToken) :
    extractClaims .unlimited token.parts.payloadB =
      .ok (token.instanceId.val,
        (token.implementationId.map Subtype.val).getD []) := by
  have distinct : ((claimEntries token.instanceId
      token.implementationId).map Prod.fst).Nodup := by
    change List.Nodup [(⟨kInstanceIdKey, _⟩ : SmallInteger), ⟨kImplIdKey, _⟩]
    decide
  have instanceFound := token.claims.atKey_written distinct List.mem_cons_self
  have implementationFound := token.claims.atKey_written distinct
    (List.mem_cons_of_mem _ List.mem_cons_self)
  unfold extractClaims
  rw [bind_eq_ok]
  refine ⟨_, token.claims.written.decode_word, ?_⟩
  obtain ⟨byte, rest, isCons⟩ := List.exists_cons_of_ne_nil token.nonempty
  have isMap : token.claims.written.value = .map _ := rfl
  rw [isMap] at instanceFound implementationFound ⊢
  simp only [instanceFound, implementationFound, Option.map_some,
    Written.bytes, isCons]
  cases token.implementationId with
  | none => rfl
  | some implementationId => rfl

theorem signedParts_written (token : Token) (rest : Bytes) :
    signedParts .unlimited (token.written.word ++ rest) =
      .ok token.platform.parts :=
  signedParts_eq_ok.mpr ⟨_, platformToken_written token rest,
    openCoseSign1_written token.platform, checkAlg_written token.platform⟩

theorem verifyEs384_written (calls : ∀ context, ssl.callFails context = false)
    (token : PlatformToken) {pk : EvpPkey} {msg : Bytes} :
    verifyEs384 ssl pk msg token.parts.sigB = .ok true ↔
      ssl.ecdsaSha384Verify pk token.r token.s msg = 1 := by
  have rEq : beNat (token.parts.sigB.take 48) = token.r := by
    unfold PlatformToken.parts
    rw [List.take_left' (beBytes_length 48 token.r), beNat_beBytes token.rFits]
  have sEq : beNat (token.parts.sigB.drop 48) = token.s := by
    unfold PlatformToken.parts
    rw [List.drop_left' (beBytes_length 48 token.r), beNat_beBytes token.sFits]
  unfold verifyEs384
  simp only [token.sigB_length, rEq, sEq, OpenSsl.call_eq_pure calls,
    ne_eq, not_true, if_false, bind_eq_ok, true_and, exists_const]
  by_cases negative : ssl.ecdsaSha384Verify pk token.r token.s msg < 0
  · have differs : ssl.ecdsaSha384Verify pk token.r token.s msg ≠ 1 := by
      omega
    simp [negative, differs, OpenSsl.throwOpensslError, teeAnchorError,
      Functor.map, Except.map]
  · simp [negative, pure, Except.pure]

/-- The reader takes from a written token the identifiers that were written,
just when the key of the platform verifies the signature on what was signed. -/
theorem written_token_reads_back
    (calls : ∀ context, ssl.callFails context = false)
    (unlimited : host.storage = .unlimited) {tokenPath : String}
    {token : Token} {rest : Bytes}
    (stored : readFile host tokenPath = .ok (token.written.word ++ rest))
    {result : CcaVerifyResult} :
    verifyAndExtract ssl host tokenPath = .ok result ↔
      ssl.d2iPubkey kCpakSpkiDer = some result.cpak ∧
      ssl.ecdsaSha384Verify result.cpak token.platform.r token.platform.s
        token.platform.message = 1 ∧
      result.instanceId = token.platform.instanceId.val ∧
      result.implementationId =
        (token.platform.implementationId.map Subtype.val).getD [] := by
  have opened := signedParts_written token rest
  have claims := extractClaims_written token.platform
  unfold verifyAndExtract
  rw [bind_eq_ok]
  constructor
  · rintro ⟨tok, isTok, accepted⟩
    rw [stored, Except.ok.injEq] at isTok
    subst isTok
    rw [unlimited] at accepted
    obtain ⟨parts, found, loaded, verified, extracted⟩ :=
      verifyToken_eq_ok.mp accepted
    rw [opened, Except.ok.injEq] at found
    subst found
    rw [claims, Except.ok.injEq, Prod.mk.injEq] at extracted
    exact ⟨OpenSsl.nonNull_eq_ok.mp loaded,
      (verifyEs384_written calls token.platform).mp verified,
      extracted.1.symm, extracted.2.symm⟩
  · rintro ⟨pinned, verifies, instanceEq, implementationEq⟩
    refine ⟨_, stored, ?_⟩
    rw [unlimited, verifyToken_eq_ok]
    refine ⟨_, opened, OpenSsl.nonNull_eq_ok.mpr pinned,
      (verifyEs384_written calls token.platform).mpr verifies, ?_⟩
    rw [claims, instanceEq, implementationEq]

/-- Claims with a third one, `{2396: h'08', 265: h'', 256: h'07'}`. -/
def threeClaims : Listing (claimEntries ⟨[0x07], by decide⟩
    (some ⟨[0x08], by decide⟩)) where
  entries :=
    [(.integer ⟨2396, by decide⟩, .bytes ⟨[0x08], by decide⟩),
      (.integer ⟨265, by decide⟩, .bytes ⟨[], by decide⟩),
      (.integer ⟨256, by decide⟩, .bytes ⟨[0x07], by decide⟩)]
  others := [(.integer ⟨265, by decide⟩, .bytes ⟨[], by decide⟩)]
  arranged := (List.Perm.cons _ (List.Perm.swap _ _ _)).trans
    (List.Perm.swap _ _ _)
  foreign := by
    intro entry other key isNamed
    obtain rfl := List.mem_singleton.mp other
    rw [show (Written.integer _).value = .ofInt64 265 from rfl, asInt_ofInt64]
    change key ∈ [(⟨256, _⟩ : SmallInteger), ⟨2396, _⟩] at isNamed
    simp only [List.mem_cons, List.not_mem_nil, or_false] at isNamed
    rcases isNamed with rfl | rfl
    · decide
    · decide
  few := by decide

def es384Header : Listing headerEntries where
  entries := presentEntries headerEntries
  others := []
  arranged := by simp
  foreign := by simp
  few := by decide

def threeClaimsPlatform : PlatformToken where
  instanceId := ⟨[0x07], by decide⟩
  nonempty := by decide
  implementationId := some ⟨[0x08], by decide⟩
  header := es384Header
  claims := threeClaims
  headerShort := by decide +kernel
  claimsShort := by decide +kernel
  unprotectedHeader := .map [] (by decide)
  r := 5
  s := 6
  rFits := by decide
  sFits := by decide
  tagged := true

def threeClaimsToken : Token where
  platform := threeClaimsPlatform
  platformShort := by decide +kernel
  collection :=
    { entries := presentEntries (collectionEntries
        ⟨threeClaimsPlatform.written.word, by decide +kernel⟩)
      others := []
      arranged := by simp
      foreign := by simp
      few := by decide }
  tagged := false

/-- A library for which the pinned key signed with 5 and 6. -/
def pinnedSsl : OpenSsl :=
  { OpenSsl.standIn with
    d2iPubkey := fun der => some ⟨408, der⟩
    ecdsaSha384Verify := fun pk r s _ =>
      if pk.spki = kCpakSpkiDer ∧ r = 5 ∧ s = 6 then 1 else 0 }

theorem written_token_reads_back_sample :
    verifyAndExtract pinnedSsl
      (Verify.sampleHost (threeClaimsToken.written.word ++ [0xff]))
      "token.cbor" = .ok ⟨[0x07], [0x08], ⟨408, kCpakSpkiDer⟩⟩ :=
  (@written_token_reads_back pinnedSsl
    (Verify.sampleHost (threeClaimsToken.written.word ++ [0xff]))
    (fun _ => rfl) rfl "token.cbor" threeClaimsToken [0xff] rfl
    ⟨[0x07], [0x08], ⟨408, kCpakSpkiDer⟩⟩).mpr
      ⟨rfl, by decide +kernel, rfl, rfl⟩

end TeeAnchor.Cca
