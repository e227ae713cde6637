import TeeAnchor.CcaSignedContent

/-!
# Integer keys and what they are taken for

A CBOR integer has 65 bits with its sign and is read into 64.  Two integers
that differ by a multiple of `2 ^ 64` are read alike, so a lookup can take the
entry of another key, and a value can pass for another one.
-/

namespace TeeAnchor.Cbor

namespace Value

/-- The integer that an item encodes. -/
def integer : Value → Option Int
  | .uint argument => some argument.toNat
  | .nint argument => some (-1 - argument.toNat)
  | _ => none

/-- The first entry of a map with this integer as its key. -/
def entryOf (value : Value) (key : Int) : Option (Value × Value) :=
  value.pairs.find? fun pair => pair.1.integer == some key

/-- The first entry of a map with an integer as its key that is this one modulo
`2 ^ 64`. -/
def entryLike (value : Value) (key : Int) : Option (Value × Value) :=
  value.pairs.find? fun pair =>
    pair.1.integer.any fun number => (number - key) % 2 ^ 64 == 0

end Value

/-- The integer is in the range of `int64_t`. -/
def FitsInt64 (number : Int) : Prop :=
  -2 ^ 63 ≤ number ∧ number < 2 ^ 63

instance (number : Int) : Decidable (FitsInt64 number) :=
  inferInstanceAs (Decidable (_ ∧ _))

theorem int64_ofInt_eq_iff {number : Int} {key : Int64} :
    Int64.ofInt number = key ↔ (number - key.toInt) % 2 ^ 64 = 0 := by
  have lower := key.le_toInt
  have upper := key.toInt_lt
  have size : Int64.size = 18446744073709551616 := rfl
  rw [← Int64.toInt_inj, Int64.toInt_ofInt, size, Int.bmod_def]
  constructor
  · intro same
    split at same
    · omega
    · omega
  · intro multiple
    split
    · omega
    · omega

theorem int64_toInt_ofInt_iff {number : Int} :
    (Int64.ofInt number).toInt = number ↔ FitsInt64 number := by
  constructor
  · intro same
    have lower := (Int64.ofInt number).le_toInt
    have upper := (Int64.ofInt number).toInt_lt
    rw [same] at lower upper
    exact ⟨lower, upper⟩
  · rintro ⟨lower, upper⟩
    exact Int64.toInt_ofInt_of_le lower upper

namespace Value

theorem asInt_of_integer {value : Value} {number : Int}
    (encoded : value.integer = some number) :
    value.asInt = .ok (Int64.ofInt number) := by
  cases value with
  | uint argument =>
      have read : argument.toInt64 = Int64.ofInt argument.toNat := by
        conv_lhs => rw [← @UInt64.ofNat_toNat argument]
        rfl
      cases encoded
      exact congrArg Except.ok read
  | nint argument =>
      have read : -1 - argument.toInt64 =
          Int64.ofInt (-1 - argument.toNat) := by
        rw [Int64.ofInt_sub]
        conv_lhs => rw [← @UInt64.ofNat_toNat argument]
        rfl
      cases encoded
      exact congrArg Except.ok read
  | _ => cases encoded

theorem asInt_eq_ok {value : Value} {found : Int64} :
    value.asInt = .ok found ↔
      ∃ number, value.integer = some number ∧ found = Int64.ofInt number := by
  constructor
  · intro read
    cases encoded : value.integer with
    | none =>
        cases value with
        | uint argument => cases encoded
        | nint argument => cases encoded
        | _ => cases read
    | some number =>
        rw [asInt_of_integer encoded] at read
        cases read
        exact ⟨number, rfl, rfl⟩
  · rintro ⟨number, encoded, rfl⟩
    exact asInt_of_integer encoded

/-- A lookup takes the first entry whose key is congruent to the wanted one. -/
theorem atKey_eq_entryLike (value : Value) (key : Int64) :
    value.atKey key = (value.entryLike key.toInt).map Prod.snd := by
  unfold atKey entryLike
  congr 2
  funext pair
  cases encoded : pair.1.integer with
  | none =>
      have refused : ∀ found, pair.1.asInt ≠ .ok found := by
        intro found read
        obtain ⟨number, present, _⟩ := asInt_eq_ok.mp read
        rw [encoded] at present
        cases present
      cases read : pair.1.asInt with
      | error failure => rfl
      | ok found => exact absurd read (refused found)
  | some number =>
      rw [asInt_of_integer encoded, Option.any_some, Bool.eq_iff_iff,
        beq_iff_eq, beq_iff_eq]
      exact int64_ofInt_eq_iff

/-- A lookup is exact when it takes the first entry with just this key. -/
def LooksUp (value : Value) (key : Int64) : Prop :=
  value.atKey key = (value.entryOf key.toInt).map Prod.snd

/-- No entry of another key is in the way: the first key congruent to this one
is this one, or its entry holds what the first entry with this key holds. -/
def Unshadowed (value : Value) (key : Int) : Prop :=
  ∀ pair, value.entryLike key = some pair →
    pair.1.integer = some key ∨
      ∃ entry, value.entryOf key = some entry ∧ entry.2 = pair.2

theorem entryOf_of_entryLike {value : Value} {key : Int}
    {pair : Value × Value} (first : value.entryLike key = some pair)
    (exact : pair.1.integer = some key) : value.entryOf key = some pair := by
  unfold entryLike at first
  rw [List.find?_eq_some_iff_append] at first
  obtain ⟨_, before, after, split, others⟩ := first
  unfold entryOf
  rw [List.find?_eq_some_iff_append]
  refine ⟨by simp [exact], before, after, split, ?_⟩
  intro other otherMem
  have unlike := others other otherMem
  cases encoded : other.1.integer with
  | none => rfl
  | some number =>
      rw [encoded] at unlike
      by_cases same : number = key
      · simp [same] at unlike
      · simp [same]

theorem entryOf_of_entryLike_none {value : Value} {key : Int}
    (absent : value.entryLike key = none) : value.entryOf key = none := by
  unfold entryLike at absent
  rw [List.find?_eq_none] at absent
  unfold entryOf
  rw [List.find?_eq_none]
  intro pair pairMem exact
  apply absent pair pairMem
  rw [beq_iff_eq] at exact
  simp [exact]

theorem looksUp_iff (value : Value) (key : Int64) :
    value.LooksUp key ↔ value.Unshadowed key.toInt := by
  unfold LooksUp Unshadowed
  rw [atKey_eq_entryLike]
  cases first : value.entryLike key.toInt with
  | none => simp [entryOf_of_entryLike_none first]
  | some pair =>
      by_cases exact : pair.1.integer = some key.toInt
      · simp [entryOf_of_entryLike first exact, exact]
      · simp only [Option.map_some, Option.some.injEq, forall_eq', exact,
          false_or]
        rw [eq_comm, Option.map_eq_some_iff]

/-- The reading of an integer is exact when it is that integer, or when one out
of range is refused. -/
def ReadsInt (value : Value) (number : Int) : Prop :=
  (∃ found, value.asInt = .ok found ∧ found.toInt = number) ∨
    (¬FitsInt64 number ∧ ∃ failure, value.asInt = .error failure)

theorem readsInt_iff {value : Value} {number : Int}
    (encoded : value.integer = some number) :
    value.ReadsInt number ↔ FitsInt64 number := by
  unfold ReadsInt
  rw [asInt_of_integer encoded]
  constructor
  · rintro (⟨found, read, same⟩ | ⟨_, failure, refused⟩)
    · cases read
      exact int64_toInt_ofInt_iff.mp same
    · cases refused
  · intro fits
    exact .inl ⟨_, rfl, int64_toInt_ofInt_iff.mpr fits⟩

end Value

end TeeAnchor.Cbor

namespace TeeAnchor.Cca

open Cbor

/-- The maps in which a token's claims are looked up. -/
structure TokenMaps where
  collection : Value
  header : Value
  claims : Value

/-- The token holds these maps, each decoded from the byte string it is in. -/
def Holds (storage : Storage) (tok : Bytes) (maps : TokenMaps) : Prop :=
  ∃ top platBytes parts,
    decode storage tok = .ok top ∧
    top.untag kCcaTokenTag = .ok maps.collection ∧
    platformToken storage tok = .ok platBytes ∧
    openCoseSign1 storage platBytes = .ok parts ∧
    decode storage parts.protectedB = .ok maps.header ∧
    decode storage parts.payloadB = .ok maps.claims

namespace TokenMaps

/-- The keys 44234, 1, 256 and 2396 are taken for themselves, and the algorithm
found is -35. -/
def Faithful (maps : TokenMaps) : Prop :=
  maps.collection.LooksUp kPlatformTokenKey ∧
  maps.header.LooksUp kCoseAlgKey ∧
  maps.claims.LooksUp kInstanceIdKey ∧
  maps.claims.LooksUp kImplIdKey ∧
  ∀ alg, maps.header.atKey kCoseAlgKey = some alg → alg.integer = some (-35)

/-- No key of the four is shadowed, and no algorithm is out of range. -/
def InRange (maps : TokenMaps) : Prop :=
  maps.collection.Unshadowed 44234 ∧
  maps.header.Unshadowed 1 ∧
  maps.claims.Unshadowed 256 ∧
  maps.claims.Unshadowed 2396 ∧
  ∀ pair, maps.header.entryLike 1 = some pair →
    ∀ number, pair.2.integer = some number → FitsInt64 number

end TokenMaps

theorem checkAlg_eq_ok {storage : Storage} {protectedB : Bytes} :
    checkAlg storage protectedB = .ok () ↔
      ∃ header alg, decode storage protectedB = .ok header ∧
        header.atKey kCoseAlgKey = some alg ∧ alg.asInt = .ok kCoseAlgES384 := by
  unfold checkAlg
  rw [bind_eq_ok]
  constructor
  · rintro ⟨header, decoded, checked⟩
    cases found : header.atKey kCoseAlgKey with
    | none => simp [found] at checked
    | some alg =>
        simp only [found, bind_eq_ok] at checked
        obtain ⟨number, read, verdict⟩ := checked
        by_cases same : number = kCoseAlgES384
        · rw [same] at read
          exact ⟨header, alg, decoded, found, read⟩
        · simp [same] at verdict
  · rintro ⟨header, alg, decoded, found, read⟩
    refine ⟨header, decoded, ?_⟩
    simp [found, read, pure, Except.pure]

theorem exists_integer_of_alg {alg : Value}
    (passed : alg.asInt = .ok kCoseAlgES384) :
    ∃ number, alg.integer = some number ∧
      (number = -35 ↔ FitsInt64 number) := by
  obtain ⟨number, encoded, read⟩ := Value.asInt_eq_ok.mp passed
  refine ⟨number, encoded, ?_⟩
  have back : (Int64.ofInt number).toInt = -35 := by
    rw [← read]
    rfl
  constructor
  · rintro rfl
    decide
  · intro fits
    rw [← back, int64_toInt_ofInt_iff.mpr fits]

theorem signedParts_eq_ok {storage : Storage} {tok : Bytes}
    {parts : CoseSign1} :
    signedParts storage tok = .ok parts ↔
      ∃ platBytes, platformToken storage tok = .ok platBytes ∧
        openCoseSign1 storage platBytes = .ok parts ∧
        checkAlg storage parts.protectedB = .ok () := by
  unfold signedParts
  simp only [bind_eq_ok]
  constructor
  · rintro ⟨platBytes, found, _, opened, _, checked, returned⟩
    cases returned
    exact ⟨platBytes, found, opened, checked⟩
  · rintro ⟨platBytes, found, opened, checked⟩
    exact ⟨platBytes, found, parts, opened, (), checked, rfl⟩

/-- An accepted token holds its three maps, and the algorithm found in the
header was read as ES384. -/
theorem holds_of_verifyToken {storage : Storage} {loadCpak : Result EvpPkey}
    {verify : EvpPkey → Bytes → Bytes → Result Bool} {tok : Bytes}
    {result : CcaVerifyResult}
    (accepted : verifyToken storage loadCpak verify tok = .ok result) :
    ∃ maps alg, Holds storage tok maps ∧
      maps.header.atKey kCoseAlgKey = some alg ∧
      alg.asInt = .ok kCoseAlgES384 := by
  obtain ⟨parts, signed, _, _, extracted⟩ := verifyToken_eq_ok.mp accepted
  obtain ⟨platBytes, found, opened, checked⟩ := signedParts_eq_ok.mp signed
  obtain ⟨header, alg, headerDecoded, algFound, algRead⟩ :=
    checkAlg_eq_ok.mp checked
  unfold extractClaims at extracted
  obtain ⟨claims, claimsDecoded, _⟩ := bind_eq_ok.mp extracted
  have opening := found
  unfold platformToken at opening
  obtain ⟨top, topDecoded, untagged⟩ := bind_eq_ok.mp opening
  obtain ⟨collection, inside, _⟩ := bind_eq_ok.mp untagged
  exact ⟨⟨collection, header, claims⟩, alg,
    ⟨top, platBytes, parts, topDecoded, inside, found, opened, headerDecoded,
      claimsDecoded⟩, algFound, algRead⟩

theorem Holds.unique {storage : Storage} {tok : Bytes}
    {maps maps' : TokenMaps} (holds : Holds storage tok maps)
    (holds' : Holds storage tok maps') : maps = maps' := by
  obtain ⟨top, platBytes, parts, topDecoded, inside, found, opened,
    headerDecoded, claimsDecoded⟩ := holds
  obtain ⟨top', platBytes', parts', topDecoded', inside', found', opened',
    headerDecoded', claimsDecoded'⟩ := holds'
  have sameTop : top = top' :=
    Except.ok.inj (topDecoded.symm.trans topDecoded')
  have samePlat : platBytes = platBytes' :=
    Except.ok.inj (found.symm.trans found')
  subst sameTop samePlat
  have sameParts : parts = parts' :=
    Except.ok.inj (opened.symm.trans opened')
  subst sameParts
  have sameCollection : maps.collection = maps'.collection :=
    Except.ok.inj (inside.symm.trans inside')
  have sameHeader : maps.header = maps'.header :=
    Except.ok.inj (headerDecoded.symm.trans headerDecoded')
  have sameClaims : maps.claims = maps'.claims :=
    Except.ok.inj (claimsDecoded.symm.trans claimsDecoded')
  cases maps
  cases maps'
  cases sameCollection
  cases sameHeader
  cases sameClaims
  rfl

theorem TokenMaps.faithful_iff {maps : TokenMaps} {alg : Value}
    (found : maps.header.atKey kCoseAlgKey = some alg)
    (passed : alg.asInt = .ok kCoseAlgES384) :
    maps.Faithful ↔ maps.InRange := by
  have algorithm :
      (∀ alg, maps.header.atKey kCoseAlgKey = some alg →
        alg.integer = some (-35)) ↔
      ∀ pair, maps.header.entryLike 1 = some pair →
        ∀ number, pair.2.integer = some number → FitsInt64 number := by
    obtain ⟨number, encoded, exact⟩ := exists_integer_of_alg passed
    have taken := found
    rw [Value.atKey_eq_entryLike, Option.map_eq_some_iff] at taken
    obtain ⟨pair, first, holdsAlg⟩ := taken
    change maps.header.entryLike 1 = some pair at first
    rw [found, first]
    simp only [Option.some.injEq, forall_eq', holdsAlg, encoded]
    exact exact
  unfold Faithful InRange
  rw [Value.looksUp_iff, Value.looksUp_iff, Value.looksUp_iff,
    Value.looksUp_iff, algorithm]
  rfl

/-- Lookups and readings mean the integers that were encoded exactly as long as
no other integer congruent modulo `2 ^ 64` comes into them. -/
theorem integers_exact_iff (value : Value) (key : Int64) (number : Int)
    (storage : Storage) (protectedB : Bytes) (loadCpak : Result EvpPkey)
    (verify : EvpPkey → (msg rawSig : Bytes) → Result Bool) (tok : Bytes)
    (result : CcaVerifyResult) :
    (value.LooksUp key ↔ value.Unshadowed key.toInt) ∧
    (value.integer = some number →
      (value.ReadsInt number ↔ FitsInt64 number)) ∧
    (checkAlg storage protectedB = .ok () →
      ∃ header alg number, decode storage protectedB = .ok header ∧
        header.atKey kCoseAlgKey = some alg ∧ alg.integer = some number ∧
        (number = -35 ↔ FitsInt64 number)) ∧
    (verifyToken storage loadCpak verify tok = .ok result →
      ∃ maps, Holds storage tok maps ∧
        (∀ maps', Holds storage tok maps' → maps' = maps) ∧
        (maps.Faithful ↔ maps.InRange)) := by
  refine ⟨Value.looksUp_iff value key, ?_, ?_, ?_⟩
  · intro encoded
    exact Value.readsInt_iff encoded
  · intro checked
    obtain ⟨header, alg, decoded, found, passed⟩ := checkAlg_eq_ok.mp checked
    obtain ⟨number, encoded, exact⟩ := exists_integer_of_alg passed
    exact ⟨header, alg, number, decoded, found, encoded, exact⟩
  · intro accepted
    obtain ⟨maps, alg, holds, found, passed⟩ := holds_of_verifyToken accepted
    refine ⟨maps, holds, ?_, TokenMaps.faithful_iff found passed⟩
    intro maps' holds'
    exact holds'.unique holds

theorem integers_exact_sample :
    ((Value.nint 34).LooksUp (-35) ↔ (Value.nint 34).Unshadowed (-35)) ∧
    (Value.nint 34).ReadsInt (-35) ∧
    (∃ header alg number, decode .unlimited sampleProtected = .ok header ∧
      header.atKey kCoseAlgKey = some alg ∧ alg.integer = some number ∧
      (number = -35 ↔ FitsInt64 number)) ∧
    ∃ maps, Holds .unlimited sampleToken maps ∧
      (∀ maps', Holds .unlimited sampleToken maps' → maps' = maps) ∧
      (maps.Faithful ↔ maps.InRange) := by
  obtain ⟨looksUp, readsInt, checked, accepted⟩ := integers_exact_iff (.nint 34)
    (-35) (-35) .unlimited sampleProtected (.ok sampleResult.cpak)
    (fun _ _ _ => .ok true) sampleToken sampleResult
  exact ⟨looksUp, (readsInt rfl).mpr (by decide), checked (by decide +kernel),
    accepted (by decide +kernel)⟩

/-- The map `{2 ^ 64 - 35: 1}`. -/
def shadowedMap : Bytes :=
  [0xa1, 0x1b, 0xff, 0xff, 0xff, 0xff, 0xff, 0xff, 0xff, 0xdd, 0x01]

/-- The header map `{1: 2 ^ 64 - 35}`. -/
def foreignAlgHeader : Bytes :=
  [0xa1, 0x01, 0x1b, 0xff, 0xff, 0xff, 0xff, 0xff, 0xff, 0xff, 0xdd]

/-- The sample token with the platform token under the key `44234 - 2 ^ 64`. -/
def foreignKeyToken : Bytes :=
  [0xd9, 0x01, 0x8f, 0xa1, 0x3b, 0xff, 0xff, 0xff, 0xff, 0xff, 0xff, 0x53, 0x35,
    0x56, 0xd2] ++ sampleSign1

/-- The key `2 ^ 64 - 35` is found as -35 and read as -35, it passes for ES384,
and the platform token is taken from a key that is not 44234. -/
theorem foreign_integers_taken :
    (∃ value, decode .unlimited shadowedMap = .ok value ∧
      value.atKey (-35) ≠ none ∧ value.entryOf (-35) = none ∧
      ¬value.LooksUp (-35)) ∧
    (∃ header alg, decode .unlimited foreignAlgHeader = .ok header ∧
      checkAlg .unlimited foreignAlgHeader = .ok () ∧
      header.atKey kCoseAlgKey = some alg ∧
      alg.integer = some (2 ^ 64 - 35) ∧ ¬alg.ReadsInt (2 ^ 64 - 35)) ∧
    verifyToken .unlimited (.ok sampleResult.cpak) (fun _ _ _ => .ok true)
      foreignKeyToken = .ok sampleResult ∧
    ∃ maps, Holds .unlimited foreignKeyToken maps ∧
      maps.collection.entryOf 44234 = none ∧ ¬maps.Faithful := by
  have shadowed : ¬(Value.map [(.uint 18446744073709551581, .uint 1)]).LooksUp
      (-35) := by
    rw [Value.LooksUp]
    intro same
    cases same
  have wrapped : ¬(Value.uint 18446744073709551581).ReadsInt (2 ^ 64 - 35) := by
    rw [Value.readsInt_iff rfl]
    decide
  refine ⟨⟨_, rfl, ?_, rfl, shadowed⟩,
    ⟨_, _, rfl, by decide +kernel, rfl, rfl, wrapped⟩, by decide +kernel,
    ⟨_, _, _⟩, ⟨_, _, _, rfl, rfl, rfl, rfl, rfl, rfl⟩, rfl, ?_⟩
  · intro absent
    cases absent
  · rintro ⟨taken, _⟩
    cases taken

end TeeAnchor.Cca
