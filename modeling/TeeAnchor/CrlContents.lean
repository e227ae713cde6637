import TeeAnchor.HexIntegers
import TeeAnchor.RevocationRuns

/-!
# From an endorsement to its line in a CRL

The serial number of an endorsement goes through the text of the database into
the CRL.  What `revoke` writes of a valid revocation is read back as it was,
and `crl-issue` maps every reason that `revoke` accepts.
-/

namespace TeeAnchor.Ca

variable {ssl : OpenSsl} {path : String}

/-- A digit of `BN_bn2hex`. -/
def isUpperHex (byte : UInt8) : Bool :=
  isDigit byte || (65 ≤ byte && byte ≤ 70)

/-- `0`, or an even number of digits with an optional sign. -/
def IsHexNumber (text : Bytes) : Prop :=
  text = [48] ∨ ∃ digits, digits ≠ [] ∧ Even digits.length ∧
    (∀ digit ∈ digits, isUpperHex digit = true) ∧
    (text = digits ∨ text = 45 :: digits)

/-- What is relied on of the two conversions of numbers. -/
structure HexCodec (ssl : OpenSsl) : Prop where
  format : ∀ number, IsHexNumber (ssl.bn2hex number)
  inverse : ∀ number, ssl.hex2bn (ssl.bn2hex number) = some number
  ignoresCase : ∀ text, ssl.hex2bn (text.map toLower) = ssl.hex2bn text

/-- `YYYYMMDDHHMMSSZ`. -/
def IsTimeText (text : Bytes) : Prop :=
  ∃ digits, digits.length = 14 ∧ (∀ digit ∈ digits, isDigit digit = true) ∧
    text = digits ++ [90]

def isSerialByte (byte : UInt8) : Bool :=
  isDigit byte || byte == 45 || (97 ≤ byte && byte ≤ 102)

theorem isSerialByte_toLower {byte : UInt8}
    (hex : isUpperHex byte = true ∨ byte = 45) :
    isSerialByte (toLower byte) = true := by
  rcases hex with hex | rfl
  · simp only [isUpperHex, isDigit, Bool.or_eq_true, Bool.and_eq_true,
      decide_eq_true_eq, UInt8.le_iff_toNat_le, UInt8.reduceToNat] at hex
    unfold toLower
    split
    · rename_i upper
      simp only [Bool.and_eq_true, decide_eq_true_eq, UInt8.le_iff_toNat_le,
        UInt8.reduceToNat] at upper
      simp only [isSerialByte, isDigit, Bool.or_eq_true, Bool.and_eq_true,
        decide_eq_true_eq, UInt8.le_iff_toNat_le, UInt8.reduceToNat,
        UInt8.toNat_add]
      omega
    · rename_i notUpper
      simp only [Bool.and_eq_true, decide_eq_true_eq, UInt8.le_iff_toNat_le,
        UInt8.reduceToNat] at notUpper
      simp only [isSerialByte, isDigit, Bool.or_eq_true, Bool.and_eq_true,
        decide_eq_true_eq, UInt8.le_iff_toNat_le, UInt8.reduceToNat]
      omega
  · rfl

theorem isSerialByte_of_hexNumber {text : Bytes} (hex : IsHexNumber text) :
    ∀ byte ∈ text.map toLower, isSerialByte byte = true := by
  have bytes : ∀ byte ∈ text, isUpperHex byte = true ∨ byte = 45 := by
    intro byte member
    rcases hex with rfl | ⟨digits, _, _, upper, rfl | rfl⟩
    · rw [List.mem_singleton] at member
      subst member
      exact Or.inl rfl
    · exact Or.inl (upper byte member)
    · rcases List.mem_cons.mp member with sign | digit
      · exact Or.inr sign
      · exact Or.inl (upper byte digit)
  intro byte member
  obtain ⟨upper, upperMember, rfl⟩ := List.mem_map.mp member
  exact isSerialByte_toLower (bytes upper upperMember)

theorem isHexNumber_ne_nil {text : Bytes} (hex : IsHexNumber text) :
    text ≠ [] := by
  rcases hex with rfl | ⟨digits, nonempty, _, _, rfl | rfl⟩
  · simp
  · exact nonempty
  · simp

theorem not_isSpace_of_isSerialByte {byte : UInt8}
    (serial : isSerialByte byte = true) : isSpace byte = false := by
  simp only [isSerialByte, Bool.or_eq_true] at serial
  rcases serial with (digit | sign) | letter
  · exact not_isSpace_of_isDigit digit
  · rw [beq_iff_eq] at sign
    subst sign
    rfl
  · simp only [Bool.and_eq_true, decide_eq_true_eq, UInt8.le_iff_toNat_le,
      UInt8.reduceToNat] at letter
    exact not_isSpace_of_large (by omega)

theorem isWord_of_isTimeText {text : Bytes} (time : IsTimeText text) :
    IsWord text := by
  obtain ⟨digits, _, allDigits, rfl⟩ := time
  refine ⟨by simp, ?_⟩
  intro byte member
  rcases List.mem_append.mp member with digit | last
  · exact not_isSpace_of_isDigit (allDigits byte digit)
  · rw [List.mem_singleton] at last
    subst last
    rfl

theorem isValidReason_text {reason : String}
    (valid : isValidReason reason = true) :
    trim (ascii reason) = ascii reason ∧ 10 ∉ ascii reason := by
  have known : reason ∈ "" :: kReasonNames := by
    simpa [isValidReason] using valid
  have checked : ∀ name ∈ "" :: kReasonNames,
      trim (ascii name) = ascii name ∧ 10 ∉ ascii name := by
    decide +kernel
  exact checked reason known

/-- A serial number is neither a comment nor the tag of the CRL number. -/
theorem legible_of_hexNumber {text : Bytes} (hex : IsHexNumber text)
    {entry : RevocationEntry} (serial : entry.serialHex = text.map toLower) :
    entry.Legible := by
  have serialBytes := isSerialByte_of_hexNumber hex
  rw [← serial] at serialBytes
  constructor
  · intro comment
    have first := serialBytes 35 (List.mem_of_head? comment)
    cases first
  · intro tagged
    have inside := serialBytes 114 (tagged.subset (by decide))
    cases inside

theorem newEntry_wellFormed {text date : Bytes} {reason : String}
    (hex : IsHexNumber text) (time : IsTimeText date)
    (valid : isValidReason reason = true) :
    RevocationEntry.WellFormed ⟨text.map toLower, date, ascii reason⟩ ∧
      RevocationEntry.Legible ⟨text.map toLower, date, ascii reason⟩ := by
  have serialBytes := isSerialByte_of_hexNumber hex
  obtain ⟨trimmed, oneLine⟩ := isValidReason_text valid
  refine ⟨⟨⟨?_, ?_⟩, ?_, isWord_of_isTimeText time, trimmed, oneLine⟩,
    legible_of_hexNumber hex rfl⟩
  · simpa using isHexNumber_ne_nil hex
  · intro byte member
    exact not_isSpace_of_isSerialByte (serialBytes byte member)
  · change List.map toLower (List.map toLower text) = List.map toLower text
    rw [List.map_map]
    apply List.map_congr_left
    intro byte _
    exact toLower_idempotent byte

theorem revokedSerial_eq_ok {host : Host} {args : RevokeArgs}
    {serialHex : Bytes} :
    revokedSerial ssl host args = .ok serialHex ↔
      (args.caCertPath.isEmpty = false ∧ args.certPath.isEmpty = false ∧
        isValidReason args.reason = true) ∧
      ∃ caCert endorsement,
        Pki.loadPemCert ssl host args.caCertPath = .ok caCert ∧
        Pki.loadPemCert ssl host args.certPath = .ok endorsement ∧
        ssl.nameCmp caCert.subject endorsement.issuer = 0 ∧
        serialHexLower ssl endorsement = .ok serialHex := by
  have checked : checkRevokeArgs args = .ok () ↔
      args.caCertPath.isEmpty = false ∧ args.certPath.isEmpty = false ∧
        isValidReason args.reason = true := by
    unfold checkRevokeArgs
    simp only [refuse_eq_ok, Bool.not_eq_true]
    by_cases valid : isValidReason args.reason = true
    · simp [valid, pure, Except.pure]
    · simp [valid]
  unfold revokedSerial
  simp only [bind_eq_ok, refuse_eq_ok, not_not]
  constructor
  · rintro ⟨_, passed, caCert, caLoaded, cert, loaded, issued, serial⟩
    exact ⟨checked.mp passed, caCert, cert, caLoaded, loaded, issued, serial⟩
  · rintro ⟨passed, caCert, cert, caLoaded, loaded, issued, serial⟩
    exact ⟨(), checked.mpr passed, caCert, caLoaded, cert, loaded, issued,
      serial⟩

theorem serialHexLower_eq_ok {cert : X509} {serialHex : Bytes} :
    serialHexLower ssl cert = .ok serialHex ↔
      (ssl.callFails "X509_get0_serialNumber" = false ∧
        ssl.callFails "ASN1_INTEGER_to_BN" = false ∧
        ssl.callFails "BN_bn2hex" = false) ∧
      (ssl.bn2hex cert.serialNumber).map toLower = serialHex := by
  unfold serialHexLower
  simp [bind_eq_ok, OpenSsl.call_eq_ok, pure, Except.pure, and_assoc]

/-- The code a reason has in a CRL, none for the empty reason. -/
def crlReasonCode (reason : String) : Option Nat :=
  (kReasonMap.find? fun entry => entry.1 == reason).map (·.2)

/-- A reason that `crl-issue` takes from the database. -/
def KnownReason (reason : Bytes) : Prop :=
  reason = [] ∨ ∃ known ∈ kReasonMap, ascii known.1 = reason

/-- Calls to the library fail neither for want of resources nor for this CA. -/
structure LibraryWorks (ssl : OpenSsl) (caKey : EvpPkey) (caCert : X509) :
    Prop where
  calls : ∀ context, ssl.callFails context = false
  keyid : ssl.v3ExtConf caCert none .authorityKeyIdentifier "keyid:always" ≠
    none
  digest : ∃ md, Pki.digestForSigningKey ssl caKey = .ok md
  signs : ∀ crl md, ssl.x509CrlSign crl caKey md ≠ none
  writesPem : ∀ crl, ssl.pemWriteX509Crl crl ≠ none

theorem crlReasonExtension_known {reason : Bytes} {code : Option Nat}
    (added : crlReasonExtension ssl reason = .ok code) :
    KnownReason reason := by
  unfold crlReasonExtension at added
  by_cases empty : reason.isEmpty
  · exact Or.inl (List.isEmpty_iff.mp empty)
  · simp only [empty, Bool.false_eq_true, if_false, bind_eq_ok] at added
    obtain ⟨_, mapped, _⟩ := added
    unfold reasonToInt at mapped
    split at mapped
    · rename_i entry found
      have matching := List.find?_some found
      exact Or.inr ⟨entry, List.mem_of_find?_eq_some found,
        by simpa using matching⟩
    · simp at mapped

theorem crlReasonExtension_of_known
    (calls : ∀ context, ssl.callFails context = false) {reason : Bytes}
    (known : KnownReason reason) :
    ∃ code, crlReasonExtension ssl reason = .ok code := by
  unfold crlReasonExtension
  by_cases empty : reason.isEmpty
  · exact ⟨none, by simp only [empty, if_true]; rfl⟩
  · simp only [empty, Bool.false_eq_true, if_false, OpenSsl.call_eq_pure calls]
    rcases known with none | ⟨entry, member, same⟩
    · simp [none] at empty
    · have found : (kReasonMap.find? fun entry =>
          ascii entry.1 == reason).isSome := by
        rw [List.find?_isSome]
        exact ⟨entry, member, by simpa using same⟩
      obtain ⟨other, isFound⟩ := Option.isSome_iff_exists.mp found
      refine ⟨some other.2, ?_⟩
      simp only [reasonToInt, isFound]
      rfl

/-- The reasons that `revoke` accepts are the ones that `crl-issue` maps. -/
theorem crlReasonExtension_valid
    (calls : ∀ context, ssl.callFails context = false) {reason : String}
    (valid : isValidReason reason = true) :
    crlReasonExtension ssl (ascii reason) = .ok (crlReasonCode reason) := by
  have cases : reason = "" ∨ reason ∈ kReasonNames := by
    simpa [isValidReason] using valid
  rcases cases with rfl | named
  · have noCode : crlReasonCode "" = none := by decide +kernel
    rw [noCode]
    rfl
  · have checked : ∀ name ∈ kReasonNames, (ascii name).isEmpty = false ∧
        ∃ code ∈ crlReasonCode name, reasonToInt (ascii name) = .ok code := by
      decide +kernel
    obtain ⟨notEmpty, code, isCode, mapped⟩ := checked reason named
    unfold crlReasonExtension
    simp only [notEmpty, Bool.false_eq_true, if_false, mapped,
      OpenSsl.call_eq_pure calls, Option.mem_def.mp isCode]
    rfl

theorem revokedFromEntry_eq_ok
    (calls : ∀ context, ssl.callFails context = false)
    {entry : RevocationEntry} {revoked : X509Revoked} :
    revokedFromEntry ssl entry = .ok revoked ↔
      ssl.hex2bn (cStr entry.serialHex) = some revoked.serialNumber ∧
      ssl.generalizedTimeSetString (cStr entry.revocationDate) = true ∧
      cStr entry.revocationDate = revoked.revocationDate ∧
      crlReasonExtension ssl entry.reason = .ok revoked.reason := by
  unfold revokedFromEntry asn1IntFromHex asn1GentimeFromString
  simp only [OpenSsl.call_eq_pure calls, ok_bind, bind_eq_ok,
    OpenSsl.nonNull_eq_ok, refuse_eq_ok, Bool.not_eq_true]
  constructor
  · rintro ⟨number, ⟨_, hex, returned⟩, date, ⟨valid, printed⟩, reason, added,
      built⟩
    cases returned
    cases printed
    cases built
    exact ⟨hex, by simpa using valid, rfl, added⟩
  · rintro ⟨hex, valid, printed, added⟩
    exact ⟨_, ⟨_, hex, rfl⟩, _, ⟨by simpa using valid, rfl⟩, _, added,
      by rw [printed]; rfl⟩

theorem revokedFromEntry_known {entry : RevocationEntry}
    {revoked : X509Revoked}
    (built : revokedFromEntry ssl entry = .ok revoked) :
    KnownReason entry.reason := by
  unfold revokedFromEntry at built
  simp only [bind_eq_ok] at built
  obtain ⟨_, _, _, _, _, _, _, _, _, _, code, added, _⟩ := built
  exact crlReasonExtension_known added

/-- What is known of a CRL that was built, signed and written as PEM. -/
structure Publication.Lists (ssl : OpenSsl) (args : CrlIssueArgs)
    (db : RevocationDb) (publication : Publication) : Prop where
  revoked : ∃ revoked, db.entries.mapM (revokedFromEntry ssl) = .ok revoked ∧
    publication.crl.revoked = ssl.x509CrlSort revoked
  crlNumber : publication.crl.crlNumber = db.crlNumber.toInt64.toInt
  pem : ssl.pemWriteX509Crl publication.crl = some publication.pem
  outPath : publication.outPath = args.outPath

theorem publish_lists {host : Host} {args : CrlIssueArgs} {caKey : EvpPkey}
    {caCert : X509} {db : RevocationDb} {publication : Publication}
    (published : publish ssl host args caKey caCert db = .ok publication) :
    publication.Lists ssl args db := by
  unfold publish at published
  simp only [bind_eq_ok] at published
  obtain ⟨skeleton, built, crl, signed, pem, written, returned⟩ := published
  cases returned
  unfold crlOf at built
  simp only [bind_eq_ok] at built
  obtain ⟨_, _, _, _, _, _, _, _, _, _, _, _, _, _, _, _, _, _, revoked, listed,
    _, _, _, _, _, _, ⟨critical, keyid⟩, _, _, _, built⟩ := built
  cases built
  unfold signCrl at signed
  simp only [bind_eq_ok] at signed
  obtain ⟨_, _, md, _, signature, _, signed⟩ := signed
  cases signed
  unfold pemCrl at written
  simp only [bind_eq_ok, OpenSsl.nonNull_eq_ok] at written
  obtain ⟨_, _, written⟩ := written
  exact ⟨⟨revoked, listed, rfl⟩, rfl, written, rfl⟩

theorem publish_succeeds {host : Host} {args : CrlIssueArgs} {caKey : EvpPkey}
    {caCert : X509} {db : RevocationDb} {revoked : List X509Revoked}
    (works : LibraryWorks ssl caKey caCert)
    (listed : db.entries.mapM (revokedFromEntry ssl) = .ok revoked) :
    ∃ publication, publish ssl host args caKey caCert db = .ok publication := by
  obtain ⟨calls, keyid, ⟨md, digest⟩, signs, writesPem⟩ := works
  obtain ⟨extension, isExtension⟩ := Option.ne_none_iff_exists'.mp keyid
  simp only [publish, crlOf, OpenSsl.call_eq_pure calls, ok_bind, listed,
    isExtension, OpenSsl.nonNull, pure, Except.pure, signCrl, digest, pemCrl]
  split
  · rename_i signature _
    simp only [ok_bind]
    split
    · exact ⟨_, rfl⟩
    · rename_i noPem
      exact absurd noPem (writesPem _)
  · rename_i noSignature
    exact absurd noSignature (signs _ _)

/-- The clock of a revocation gives a valid time. -/
def Operation.ClockValid : Operation → Prop
  | .revoke host _ _ => IsTimeText host.generalizedTimeNowUtc
  | .crlIssue _ _ _ => True

theorem load_cases (codec : HexCodec ssl) {operation : Operation}
    (clock : operation.ClockValid) {files : FileSystem} {pending : Pending}
    (loaded : operation.load ssl files = .ok (some pending)) :
    ∃ db, readDb operation.io files operation.dbPath = .ok db ∧
      ((∃ entry : RevocationEntry, entry.WellFormed ∧ entry.Legible ∧
          db.contains entry.serialHex = false ∧
          pending = ⟨db.append entry, none⟩) ∨
        ∃ args publication, Publication.Lists ssl args db.next publication ∧
          pending = ⟨db.next, some publication⟩) := by
  cases operation with
  | revoke host io args =>
      obtain ⟨serialHex, db, serial, read, same⟩ :=
        load_revoke_eq_ok.mp loaded
      obtain ⟨⟨_, _, valid⟩, _, cert, _, _, _, printed⟩ :=
        revokedSerial_eq_ok.mp serial
      obtain ⟨_, rfl⟩ := serialHexLower_eq_ok.mp printed
      have new := newEntry_wellFormed (codec.format cert.serialNumber) clock
        valid
      unfold revokePending at same
      split at same
      · cases same
      · rename_i absent
        cases same
        exact ⟨db, read, Or.inl ⟨_, new.1, new.2,
          Bool.not_eq_true _ ▸ absent, rfl⟩⟩
  | crlIssue host io args =>
      obtain ⟨issuer, db, publication, _, read, published, same⟩ :=
        load_crlIssue_eq_ok.mp loaded
      cases same
      exact ⟨db, read, Or.inr ⟨args, publication, publish_lists published,
        rfl⟩⟩

theorem load_crlIssue_publication {host : Host} {io : IoFaults}
    {args : CrlIssueArgs} {files : FileSystem} {db : RevocationDb}
    {publication : Option Publication}
    (loaded : (Operation.crlIssue host io args).load ssl files =
      .ok (some ⟨db, publication⟩)) :
    ∃ published, publication = some published ∧
      published.outPath = args.outPath := by
  obtain ⟨issuer, _, published, _, _, built, same⟩ :=
    load_crlIssue_eq_ok.mp loaded
  cases same
  exact ⟨published, rfl, (publish_lists built).outPath⟩

/-- A CRL is pending when every entry gets into it. -/
theorem crlIssue_loads {host : Host} {io : IoFaults} {args : CrlIssueArgs}
    {files : FileSystem} {caKey : EvpPkey} {caCert : X509} {db : RevocationDb}
    (works : LibraryWorks ssl caKey caCert)
    (issuer : loadCrlIssuer ssl host args = .ok (caKey, caCert))
    (read : readDb io files (resolveDbPath args.dbPath args.caCertPath) =
      .ok db)
    (each : ∀ entry ∈ db.entries, ∃ revoked,
      revokedFromEntry ssl entry = .ok revoked) :
    ∃ publication, (Operation.crlIssue host io args).load ssl files =
      .ok (some ⟨db.next, some publication⟩) := by
  obtain ⟨revoked, listed⟩ := mapM_succeeds each
  obtain ⟨publication, published⟩ := @publish_succeeds ssl host args caKey
    caCert db.next revoked works listed
  exact ⟨publication, load_crlIssue_eq_ok.mpr
    ⟨_, db, publication, issuer, read, published, rfl⟩⟩

def Operation.outPath : Operation → Option String
  | .revoke _ _ _ => none
  | .crlIssue _ _ args => some args.outPath

theorem load_outPath {operation : Operation} {files : FileSystem}
    {db : RevocationDb} {publication : Publication}
    (loaded : operation.load ssl files = .ok (some ⟨db, some publication⟩)) :
    publication.outPath ∈ operation.outPath := by
  cases operation with
  | revoke host io args =>
      obtain ⟨_, _, _, _, same⟩ := load_revoke_eq_ok.mp loaded
      unfold revokePending at same
      split at same
      · cases same
      · cases same
  | crlIssue host io args =>
      obtain ⟨_, same, isOut⟩ := load_crlIssue_publication loaded
      cases same
      exact congrArg some isOut.symm

/-- A run on this database that reads it in full and loses none of what it
writes of it without noticing. -/
structure Operation.KeepsDb (operation : Operation) (path : String) : Prop where
  dbPath : operation.dbPath = path
  opens : operation.io.openRead path = false
  reads : operation.io.readStops path = none
  writes : ∀ data,
    (operation.io.write (tmpPath path)).losesSilently data = false
  clock : operation.ClockValid

/-- No line of the database reads as the CRL number. -/
def RevocationDb.Untagged (db : RevocationDb) : Prop :=
  ∀ entry ∈ db.entries, ¬ entry.Tagged

/-- What a run can have pending of a database that it loaded. -/
structure Pending.Extends (db : RevocationDb) (pending : Pending) : Prop where
  entries : db.entries ⊆ pending.db.entries
  wellFormed : ∀ entry ∈ pending.db.entries, entry.WellFormed
  untagged : pending.db.Untagged
  crlNumber : pending.db.crlNumber = db.crlNumber ∧
      pending.publication = none ∨
    pending.db.crlNumber = db.crlNumber + 1 ∧
      ∃ publication, pending.publication = some publication ∧
        publication.crl.crlNumber = (db.crlNumber + 1).toInt64.toInt

theorem pending_extends (codec : HexCodec ssl) {operation : Operation}
    (clock : operation.ClockValid) {files : FileSystem} {db : RevocationDb}
    (read : readDb operation.io files operation.dbPath = .ok db)
    (wellFormed : ∀ entry ∈ db.entries, entry.WellFormed)
    (untagged : db.Untagged) {pending : Pending}
    (loaded : operation.load ssl files = .ok (some pending)) :
    pending.Extends db := by
  obtain ⟨other, read', settled⟩ := load_cases codec clock loaded
  cases read.symm.trans read'
  rcases settled with ⟨entry, entryWellFormed, entryLegible, _, rfl⟩ |
    ⟨args, publication, lists, rfl⟩
  · refine ⟨List.subset_append_left _ _, ?_, ?_, Or.inl ⟨rfl, rfl⟩⟩
    · exact List.forall_mem_append.mpr
        ⟨wellFormed, List.forall_mem_singleton.mpr entryWellFormed⟩
    · exact List.forall_mem_append.mpr
        ⟨untagged, List.forall_mem_singleton.mpr entryLegible.2⟩
  · exact ⟨List.Subset.refl _, wellFormed, untagged,
      Or.inr ⟨rfl, publication, rfl, lists.crlNumber⟩⟩

theorem heldDb_of_saved {io : IoFaults} {pending : Pending}
    {files files' : FileSystem}
    (keeps : ∀ data, (io.write (tmpPath path)).losesSilently data = false)
    (wellFormed : ∀ entry ∈ pending.db.entries, entry.WellFormed)
    (untagged : pending.db.Untagged)
    (wrote : (pending.write io path).exec files = (.ok (), files')) :
    heldDb files' path = .ok { pending.db with
      entries := pending.db.entries.filter (·.Legible) } := by
  obtain ⟨visible, mode, written⟩ := Pending.write_ok wrote
  have whole := keeps (dbText pending.db)
  rw [WriteFate.losesSilently, visible, Bool.not_false, Bool.and_true,
    bne_eq_false_iff_eq] at whole
  unfold heldDb
  rw [written, whole]
  exact loadRevocationDb_dbText_filter wellFormed untagged path

theorem untagged_filter {db : RevocationDb} (untagged : db.Untagged) :
    RevocationDb.Untagged { db with
      entries := db.entries.filter (·.Legible) } := by
  intro entry member
  exact untagged entry (List.mem_of_mem_filter member)

theorem toNat_add_one_of_ne_zero {number : UInt64} (noWrap : number + 1 ≠ 0) :
    (number + 1).toNat = number.toNat + 1 := by
  have bound := number.toNat_lt
  have sum : (number + 1).toNat = (number.toNat + 1) % 2 ^ 64 :=
    UInt64.toNat_add number 1
  have notMax : number.toNat + 1 ≠ 2 ^ 64 := by
    intro max
    apply noWrap
    apply UInt64.toNat_inj.mp
    rw [sum, max, Nat.mod_self]
    rfl
  rw [sum]
  omega

theorem le_next_of_ne_zero {number : UInt64} (noWrap : number + 1 ≠ 0) :
    number ≤ number + 1 := by
  rw [UInt64.le_iff_toNat_le, toNat_add_one_of_ne_zero noWrap]
  exact Nat.le_succ _

theorem toInt64_toInt_of_lt {number : UInt64} (small : number.toNat < 2 ^ 63) :
    number.toInt64.toInt = number.toNat := by
  change number.toBitVec.toInt = number.toBitVec.toNat
  apply BitVec.toInt_eq_toNat_of_lt
  change 2 * number.toNat < 2 ^ 64
  omega

def sampleKey : EvpPkey :=
  ⟨Pki.evpPkeyEd25519, []⟩

def sampleIssued (serial : Int) : X509 where
  version := 2
  serialNumber := serial
  issuer := ⟨[("CN", "CA")]⟩
  subject := ⟨[("CN", "CA")]⟩
  notBefore := 0
  notAfter := 0
  pubkey := some sampleKey
  extensions := []
  signature := []

def sampleCaSsl : OpenSsl :=
  { OpenSsl.standIn with
    memBuf := fun data _ => data
    pemReadPrivateKey := fun _ => some sampleKey
    pemReadX509 := fun text => [sampleIssued (integerOfHexText text)]
    v3ExtConf := fun _ _ _ _ => some (false, [])
    x509CrlSign := fun _ _ _ => some []
    pemWriteX509Crl := fun crl => some (decimal crl.crlNumber.toNat)
    bn2hex := integerHexText
    hex2bn := fun text => some (integerOfHexText text) }

def sampleCaHost (serial : Int) : Host where
  read path :=
    .opened (integerHexText (if path = "ca.crt" then 0 else serial)) false
  pathExists _ := true
  time := 0
  generalizedTimeNowUtc := ascii "20260101000000Z"
  randomSerial := 0
  storage := .unlimited

def sampleRevoke (io : IoFaults) (serial : Int) (path : String) : Operation :=
  .revoke (sampleCaHost serial) io
    { caCertPath := "ca.crt", certPath := "cert.pem", dbPath := path }

def sampleCrlIssue (io : IoFaults) (out path : String) : Operation :=
  .crlIssue (sampleCaHost 0) io
    { caKeyPath := "ca.key", caCertPath := "ca.crt", outPath := out,
      dbPath := path }

def sampleDbText : Bytes :=
  ascii "crl-number 7\n0a 20250101000000Z keyCompromise\n"

def sampleDb : RevocationDb :=
  ⟨7, [⟨ascii "0a", ascii "20250101000000Z", ascii "keyCompromise"⟩]⟩

def onlyFile (path : String) (file : File) : FileSystem :=
  Function.update (fun _ => none) path (some file)

theorem onlyFile_path (path : String) (file : File) :
    onlyFile path file path = some file :=
  Function.update_self _ _ _

theorem sampleCaSsl_hexCodec : HexCodec sampleCaSsl where
  format number := by
    change IsHexNumber (integerHexText number)
    unfold integerHexText
    by_cases zero : number = 0
    · exact Or.inl (if_pos zero)
    · obtain ⟨nonempty, even, upper⟩ := hexText_spec
        (Int.natAbs_ne_zero.mpr zero)
      rw [if_neg zero]
      refine Or.inr ⟨hexText number.natAbs, nonempty, even, upper, ?_⟩
      by_cases negative : number < 0
      · exact Or.inr (if_pos negative)
      · exact Or.inl (if_neg negative)
  inverse number := congrArg some (integerOfHexText_integerHexText number)
  ignoresCase text := congrArg some (integerOfHexText_toLower text)

theorem sampleCaSsl_works : LibraryWorks sampleCaSsl sampleKey
    (sampleIssued 0) where
  calls _ := rfl
  keyid := by simp [sampleCaSsl]
  digest := ⟨none, rfl⟩
  signs := by simp [sampleCaSsl]
  writesPem := by simp [sampleCaSsl]

theorem sample_time : IsTimeText (ascii "20260101000000Z") :=
  ⟨ascii "20260101000000", by decide +kernel, by decide +kernel,
    by decide +kernel⟩

theorem sampleRevoke_keepsDb (serial : Int) :
    (sampleRevoke IoFaults.none serial "db.txt").KeepsDb "db.txt" where
  dbPath := rfl
  opens := rfl
  reads := rfl
  writes := WriteFate.losesSilently_none 0
  clock := sample_time

theorem sample_loadPemCert (serial : Int) (path : String) :
    Pki.loadPemCert sampleCaSsl (sampleCaHost serial) path =
      .ok (sampleIssued (if path = "ca.crt" then 0 else serial)) := by
  change Except.ok (sampleIssued (integerOfHexText (integerHexText _))) = _
  rw [integerOfHexText_integerHexText]

theorem sample_revokedSerial (serial : Int) (path : String) :
    revokedSerial sampleCaSsl (sampleCaHost serial)
        { caCertPath := "ca.crt", certPath := "cert.pem", dbPath := path } =
      .ok ((integerHexText serial).map toLower) := by
  rw [revokedSerial_eq_ok]
  have sameName : sampleCaSsl.nameCmp (sampleIssued 0).subject
      (sampleIssued serial).issuer = 0 := by
    change sampleCaSsl.nameCmp ⟨[("CN", "CA")]⟩ ⟨[("CN", "CA")]⟩ = 0
    decide
  exact ⟨⟨rfl, rfl, rfl⟩, sampleIssued 0, sampleIssued serial,
    sample_loadPemCert serial _, sample_loadPemCert serial _, sameName, rfl⟩

theorem sample_loadCrlIssuer (out path : String) (named : out.isEmpty = false) :
    loadCrlIssuer sampleCaSsl (sampleCaHost 0)
        { caKeyPath := "ca.key", caCertPath := "ca.crt", outPath := out,
          dbPath := path } = .ok (sampleKey, sampleIssued 0) := by
  unfold loadCrlIssuer checkCrlIssueArgs
  simp only [sample_loadPemCert, named, Bool.false_eq_true, if_false, if_true]
  rfl

end TeeAnchor.Ca
