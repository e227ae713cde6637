import TeeAnchor.ProvisionVerify

/-!
# The shape of a PPID

A PPID is an OCTET STRING of 16 bytes.  The walk reads the tag and class of the
value and looks at neither, nor at the length, and none of its three callers
does: each hands on whatever stands first under the PPID's object identifier.
-/

namespace TeeAnchor.Sgx

variable (ssl : OpenSsl)

/-- The bytes behind the first identifier that is the target, found as the walk
finds it. -/
def valueBehind (target : String) : Nat → Bytes → Option Bytes
  | 0, _ => none
  | fuel + 1, p =>
      if p.isEmpty then none
      else
        let elem := ssl.asn1GetObject p
        if asn1Failed elem || elem.tag != vAsn1Sequence then none
        else
          let elemContent := (p.drop elem.header).take elem.length
          match ssl.d2iAsn1Object elemContent with
          | none => none
          | some (obj, used) =>
              if obj = target then some (elemContent.drop used)
              else valueBehind target fuel (p.drop (elem.header + elem.length))

/-- The bytes of the value under an identifier in an extension. -/
def extensionValue (der : Bytes) (target : String) : Option Bytes :=
  let outer := ssl.asn1GetObject der
  if asn1Failed outer || outer.tag != vAsn1Sequence then none
  else
    let content := (der.drop outer.header).take outer.length
    valueBehind ssl target (content.length + 1) content

def valueContent (value : Bytes) : Bytes :=
  (value.drop (ssl.asn1GetObject value).header).take
    (ssl.asn1GetObject value).length

/-- The header has the universal, primitive tag of an OCTET STRING. -/
def IsOctetString (header : Asn1Object) : Prop :=
  header.tag = 4 ∧ header.xclass = 0 ∧ header.ret &&& 0x20 = 0

variable {ssl}

theorem walkElements_eq (target : String) (fuel : Nat) (p : Bytes) :
    walkElements ssl target fuel p =
      (valueBehind ssl target fuel p).bind fun value =>
        if asn1Failed (ssl.asn1GetObject value) then none
        else some (valueContent ssl value) := by
  induction fuel generalizing p with
  | zero => rfl
  | succ fuel ih =>
      rw [walkElements, valueBehind]
      by_cases atEnd : p.isEmpty
      · rw [if_pos atEnd, if_pos atEnd]
        rfl
      rw [if_neg atEnd, if_neg atEnd]
      by_cases refused : (asn1Failed (ssl.asn1GetObject p) ||
          (ssl.asn1GetObject p).tag != vAsn1Sequence) = true
      · simp only [if_pos refused, Option.bind_none]
      simp only [if_neg refused]
      cases ssl.d2iAsn1Object
          ((p.drop (ssl.asn1GetObject p).header).take
            (ssl.asn1GetObject p).length) with
      | none => rfl
      | some found =>
          obtain ⟨obj, used⟩ := found
          by_cases isTarget : obj = target
          · simp only [if_pos isTarget, Option.bind_some]
            rfl
          · simp only [if_neg isTarget]
            exact ih _

theorem walkExtension_eq (der : Bytes) (target : String) :
    walkExtension ssl der target =
      (extensionValue ssl der target).bind fun value =>
        if asn1Failed (ssl.asn1GetObject value) then none
        else some (valueContent ssl value) := by
  unfold walkExtension extensionValue
  by_cases refused : (asn1Failed (ssl.asn1GetObject der) ||
      (ssl.asn1GetObject der).tag != vAsn1Sequence) = true
  · simp only [if_pos refused, Option.bind_none]
  · simp only [if_neg refused]
    exact walkElements_eq target _ _

/-- The value that a leaf carries under the PPID's identifier. -/
def PpidValue (ssl : OpenSsl) (leaf : X509) (value : Bytes) : Prop :=
  ∃ ext, leaf.extByObj oidSgxExtension = some ext ∧
    extensionValue ssl ext.value oidSgxPpid = some value

theorem PpidValue.unique {leaf : X509} {value other : Bytes}
    (here : PpidValue ssl leaf value) (there : PpidValue ssl leaf other) :
    value = other := by
  obtain ⟨ext, found, isValue⟩ := here
  obtain ⟨ext', found', isOther⟩ := there
  cases found.symm.trans found'
  exact Option.some.inj (isValue.symm.trans isOther)

theorem findSgxExtensionOctet_eq_some {leaf : X509} {ppid : Bytes} :
    findSgxExtensionOctet ssl leaf oidSgxPpid = .ok (some ppid) ↔
      ssl.callFails "OBJ_txt2obj" = false ∧
      ∃ value, PpidValue ssl leaf value ∧
        asn1Failed (ssl.asn1GetObject value) = false ∧
        valueContent ssl value = ppid := by
  unfold findSgxExtensionOctet OpenSsl.makeOid
  by_cases fails : ssl.callFails "OBJ_txt2obj" = true
  · have threw : ssl.call "OBJ_txt2obj" =
        ssl.throwOpensslError "OBJ_txt2obj" := if_pos fails
    rw [threw]
    simp [fails, OpenSsl.throwOpensslError, teeAnchorError]
  have called : ssl.call "OBJ_txt2obj" = .ok () :=
    OpenSsl.call_eq_ok.mpr (Bool.eq_false_of_not_eq_true fails)
  simp only [called, ok_bind, pure, Except.pure]
  cases found : leaf.extByObj oidSgxExtension with
  | none => simp [PpidValue, found]
  | some ext =>
      simp only [walkExtension_eq, Except.ok.injEq, Option.bind_eq_some_iff]
      constructor
      · rintro ⟨value, isValue, read⟩
        refine ⟨Bool.eq_false_of_not_eq_true fails, value,
          ⟨ext, found, isValue⟩, ?_⟩
        by_cases failed : asn1Failed (ssl.asn1GetObject value)
        · rw [if_pos failed] at read
          cases read
        · rw [if_neg failed] at read
          exact ⟨Bool.eq_false_of_not_eq_true failed, Option.some.inj read⟩
      · rintro ⟨_, value, ⟨other, found', isValue⟩, read, content⟩
        cases found.symm.trans found'
        exact ⟨value, isValue, by rw [if_neg (by simp [read]), content]⟩

/-- The Chip ID is the 16 bytes of an OCTET STRING under the PPID's
identifier. -/
def IsPpid (ssl : OpenSsl) (leaf : X509) (chipId : Bytes) : Prop :=
  ∃ value, PpidValue ssl leaf value ∧
    IsOctetString (ssl.asn1GetObject value) ∧
    valueContent ssl value = chipId ∧ chipId.length = 16

/-- The value under the PPID's identifier has the shape of a PPID, or no header
that can be read. -/
def PpidShaped (ssl : OpenSsl) (leaf : X509) : Prop :=
  ∀ value, PpidValue ssl leaf value →
    asn1Failed (ssl.asn1GetObject value) = true ∨
    IsOctetString (ssl.asn1GetObject value) ∧
      (valueContent ssl value).length = 16

/-- A path that takes the Chip ID of the leaf it arrives at returns PPIDs only
exactly when the leaf it arrives at has a value of that shape. -/
theorem isPpid_iff_shaped {extracted : Bytes → Prop} {arrives : X509 → Prop}
    (takes : ∀ chipId, extracted chipId ↔ ∃ leaf, arrives leaf ∧
      findSgxExtensionOctet ssl leaf oidSgxPpid = .ok (some chipId))
    (unique : ∀ leaf other, arrives leaf → arrives other → leaf = other) :
    (∀ chipId, extracted chipId →
      ∃ leaf, arrives leaf ∧ IsPpid ssl leaf chipId) ↔
      ∀ leaf, arrives leaf → ssl.callFails "OBJ_txt2obj" = true ∨
        PpidShaped ssl leaf := by
  constructor
  · intro ppids leaf arrived
    by_cases fails : ssl.callFails "OBJ_txt2obj" = true
    · exact .inl fails
    right
    intro value isValue
    by_cases failed : asn1Failed (ssl.asn1GetObject value) = true
    · exact .inl failed
    right
    have found := findSgxExtensionOctet_eq_some.mpr
      ⟨Bool.eq_false_of_not_eq_true fails, value, isValue,
        Bool.eq_false_of_not_eq_true failed, rfl⟩
    obtain ⟨other, arrivedOther, ppidValue, isPpidValue, octets, content,
      length⟩ := ppids _ ((takes _).mpr ⟨leaf, arrived, found⟩)
    cases unique leaf other arrived arrivedOther
    cases isValue.unique isPpidValue
    exact ⟨octets, length⟩
  · intro shaped chipId isExtracted
    obtain ⟨leaf, arrived, found⟩ := (takes chipId).mp isExtracted
    obtain ⟨calls, value, isValue, read, content⟩ :=
      findSgxExtensionOctet_eq_some.mp found
    refine ⟨leaf, arrived, value, isValue, ?_⟩
    rcases shaped leaf arrived with fails | shape
    · rw [calls] at fails
      cases fails
    · rcases shape value isValue with failed | ⟨octets, length⟩
      · rw [read] at failed
        cases failed
      · rw [content] at length
        exact ⟨octets, content, length⟩

/-- The leaf whose PPID is taken from an SGX quote. -/
def QuoteLeaf (ssl : OpenSsl) (quote : Bytes) (leaf : X509) : Prop :=
  ∃ chain, extractPckChainFromQuote ssl quote = .ok chain ∧
    verifyPckChain ssl chain = .ok leaf

theorem QuoteLeaf.unique {quote : Bytes} {leaf other : X509}
    (here : QuoteLeaf ssl quote leaf) (there : QuoteLeaf ssl quote other) :
    leaf = other := by
  obtain ⟨chain, extracted, verified⟩ := here
  obtain ⟨chain', extracted', verified'⟩ := there
  cases extracted.symm.trans extracted'
  exact Except.ok.inj (verified.symm.trans verified')

/-- A caller that refuses a leaf without the element, and otherwise goes on with
its content. -/
theorem find_bind_eq_ok {α : Type} {leaf : X509} {what : String}
    {next : Bytes → Result α} {result : α} :
    (findSgxExtensionOctet ssl leaf oidSgxPpid >>= fun found =>
      match found with
      | none => teeAnchorError what
      | some ppid => next ppid) = .ok result ↔
      ∃ ppid, findSgxExtensionOctet ssl leaf oidSgxPpid = .ok (some ppid) ∧
        next ppid = .ok result := by
  rw [bind_eq_ok]
  constructor
  · rintro ⟨found, looked, rest⟩
    cases found with
    | none => cases rest
    | some ppid => exact ⟨ppid, looked, rest⟩
  · rintro ⟨ppid, looked, rest⟩
    exact ⟨some ppid, looked, rest⟩

theorem extractPpidFromQuote_eq_ok {quote chipId : Bytes} :
    extractPpidFromQuote ssl quote = .ok chipId ↔
      ∃ leaf, QuoteLeaf ssl quote leaf ∧
        findSgxExtensionOctet ssl leaf oidSgxPpid = .ok (some chipId) := by
  unfold extractPpidFromQuote QuoteLeaf
  rw [bind_eq_ok]
  constructor
  · rintro ⟨chain, extracted, rest⟩
    obtain ⟨leaf, verified, rest⟩ := bind_eq_ok.mp rest
    obtain ⟨ppid, found, returned⟩ := find_bind_eq_ok.mp rest
    cases returned
    exact ⟨leaf, ⟨chain, extracted, verified⟩, found⟩
  · rintro ⟨leaf, ⟨chain, extracted, verified⟩, found⟩
    exact ⟨chain, extracted, bind_eq_ok.mpr
      ⟨leaf, verified, find_bind_eq_ok.mpr ⟨chipId, found, rfl⟩⟩⟩

theorem ppidFromPckChain_eq_ok {chain : List X509} {chipId : Bytes} :
    Verify.ppidFromPckChain ssl chain = .ok chipId ↔
      ∃ leaf, verifyPckChain ssl chain = .ok leaf ∧
        findSgxExtensionOctet ssl leaf oidSgxPpid = .ok (some chipId) := by
  unfold Verify.ppidFromPckChain
  rw [bind_eq_ok]
  constructor
  · rintro ⟨leaf, verified, rest⟩
    obtain ⟨ppid, found, returned⟩ := find_bind_eq_ok.mp rest
    cases returned
    exact ⟨leaf, verified, found⟩
  · rintro ⟨leaf, verified, found⟩
    exact ⟨leaf, verified, find_bind_eq_ok.mpr ⟨chipId, found, rfl⟩⟩

theorem chipIdFromPckChain_eq_ok {chain : List X509} {teeType : UInt8}
    {chipId : Bytes} :
    (∃ chip, Provision.chipIdFromPckChain ssl chain teeType = .ok chip ∧
        chip.chipId = chipId) ↔
      ∃ leaf, (verifyPckChain ssl chain = .ok leaf ∧
          ∃ pub, leaf.pubkey = some pub) ∧
        findSgxExtensionOctet ssl leaf oidSgxPpid = .ok (some chipId) := by
  unfold Provision.chipIdFromPckChain
  simp only [bind_eq_ok]
  constructor
  · rintro ⟨chip, ⟨leaf, verified, rest⟩, rfl⟩
    obtain ⟨ppid, found, rest⟩ := find_bind_eq_ok.mp (bind_eq_ok.mpr rest)
    obtain ⟨pub, hasKey, returned⟩ := bind_eq_ok.mp rest
    cases returned
    exact ⟨leaf, ⟨verified, pub, OpenSsl.nonNull_eq_ok.mp hasKey⟩, found⟩
  · rintro ⟨leaf, ⟨verified, pub, hasKey⟩, found⟩
    refine ⟨⟨chipId, teeType, pub⟩, ⟨leaf, verified, some chipId, found, ?_⟩,
      rfl⟩
    exact bind_eq_ok.mpr ⟨pub, OpenSsl.nonNull_eq_ok.mpr hasKey, rfl⟩

/-- Each path from a quote or a chain to a Chip ID returns PPIDs only exactly
when the leaf it takes it from carries a value of that shape. -/
theorem chipId_isPpid_iff (ssl : OpenSsl) :
    (∀ quote,
      (∀ chipId, extractPpidFromQuote ssl quote = .ok chipId →
        ∃ leaf, QuoteLeaf ssl quote leaf ∧ IsPpid ssl leaf chipId) ↔
      ∀ leaf, QuoteLeaf ssl quote leaf →
        ssl.callFails "OBJ_txt2obj" = true ∨ PpidShaped ssl leaf) ∧
    (∀ chain,
      (∀ chipId, Verify.ppidFromPckChain ssl chain = .ok chipId →
        ∃ leaf, verifyPckChain ssl chain = .ok leaf ∧
          IsPpid ssl leaf chipId) ↔
      ∀ leaf, verifyPckChain ssl chain = .ok leaf →
        ssl.callFails "OBJ_txt2obj" = true ∨ PpidShaped ssl leaf) ∧
    ∀ chain teeType,
      (∀ chip, Provision.chipIdFromPckChain ssl chain teeType = .ok chip →
        ∃ leaf, (verifyPckChain ssl chain = .ok leaf ∧
          ∃ pub, leaf.pubkey = some pub) ∧ IsPpid ssl leaf chip.chipId) ↔
      ∀ leaf, verifyPckChain ssl chain = .ok leaf →
        leaf.pubkey = none ∨ ssl.callFails "OBJ_txt2obj" = true ∨
          PpidShaped ssl leaf := by
  refine ⟨fun quote => ?_, fun chain => ?_, fun chain teeType => ?_⟩
  · exact isPpid_iff_shaped (fun _ => extractPpidFromQuote_eq_ok)
      fun _ _ here there => here.unique there
  · exact isPpid_iff_shaped (fun _ => ppidFromPckChain_eq_ok)
      fun _ _ here there => Except.ok.inj (here.symm.trans there)
  · have shaped := @isPpid_iff_shaped ssl _ _
      (fun chipId => @chipIdFromPckChain_eq_ok ssl chain teeType chipId)
      fun _ _ here there => Except.ok.inj (here.1.symm.trans there.1)
    constructor
    · intro ppids leaf verified
      cases hasKey : leaf.pubkey with
      | none => exact .inl rfl
      | some pub =>
          right
          refine shaped.mp ?_ leaf ⟨verified, pub, hasKey⟩
          rintro chipId ⟨chip, extracted, rfl⟩
          exact ppids chip extracted
    · intro condition chip extracted
      refine shaped.mpr ?_ chip.chipId ⟨chip, extracted, rfl⟩
      rintro leaf ⟨verified, pub, hasKey⟩
      rcases condition leaf verified with keyless | shape
      · rw [hasKey] at keyless
        cases keyless
      · exact shape

def nullPpidLeaf : X509 :=
  { Verify.sampleCert 0 [] with
    extensions := [⟨oidSgxExtension, false,
      [0x30, 0x10, 0x30, 0x0e] ++ Verify.ppidOidDer ++ [0x05, 0x00]⟩] }

/-- The empty Chip ID is taken from it on every path. -/
theorem chipId_of_null :
    extractPpidFromQuote (Verify.sampleSsl nullPpidLeaf)
      Verify.sampleSgxQuote = .ok [] ∧
    Verify.ppidFromPckChain (Verify.sampleSsl nullPpidLeaf)
      [nullPpidLeaf, Verify.sampleRoot] = .ok [] ∧
    (∃ pub, Provision.chipIdFromPckChain (Verify.sampleSsl nullPpidLeaf)
      [nullPpidLeaf, Verify.sampleRoot] 0 = .ok ⟨[], 0, pub⟩) ∧
    ¬∃ leaf, IsPpid (Verify.sampleSsl nullPpidLeaf) leaf [] := by
  refine ⟨by decide +kernel, by decide +kernel, ⟨⟨408, [2]⟩, by decide +kernel⟩,
    ?_⟩
  rintro ⟨leaf, value, _, _, _, length⟩
  cases length

end TeeAnchor.Sgx
