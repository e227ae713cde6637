import TeeAnchor.CrlIssueFailures
import TeeAnchor.RewrittenDb
import TeeAnchor.UnreadableDb

/-!
# The serial numbers that the database spells

Any word passes for a serial number when the database is loaded, and the
library reads a number from as many digits as it finds in front.  A CRL lists
what the file spells exactly when every serial field is a hexadecimal numeral to
its end; otherwise the run fails only if some entry is refused.
-/

namespace TeeAnchor.Ca

variable {ssl : OpenSsl} {path : String} {file : File}
  {isTime : Bytes → Bool}

def unsignedPart (text : Bytes) : Bytes :=
  if text.head? = some 45 then text.tail else text

def isHexDigit (byte : UInt8) : Bool :=
  (hexDigitValue byte).isSome

/-- Digits of either case behind an optional sign, and nothing else. -/
def IsHexNumeral (text : Bytes) : Prop :=
  unsignedPart text ≠ [] ∧ ∀ byte ∈ unsignedPart text, isHexDigit byte = true

instance (text : Bytes) : Decidable (IsHexNumeral text) :=
  @instDecidableAnd _ _ _ (List.decidableBAll _ _)

def beginsHex (text : Bytes) : Bool :=
  (unsignedPart text).head?.any isHexDigit

/-- What is relied on of `BN_hex2bn`: it reads the digits that come first and
fails only when there is none. -/
def ReadsHexDigits (ssl : OpenSsl) : Prop :=
  ∀ text, ssl.hex2bn text =
    if beginsHex text then some (integerOfHexText text) else none

theorem unsignedPart_toLower (text : Bytes) :
    unsignedPart (text.map toLower) = (unsignedPart text).map toLower := by
  cases text with
  | nil => rfl
  | cons first rest =>
      unfold unsignedPart
      simp only [List.map_cons, List.head?_cons, Option.some.injEq,
        toLower_eq_sign]
      split
      · rfl
      · rfl

theorem isHexDigit_toLower (byte : UInt8) :
    isHexDigit (toLower byte) = isHexDigit byte := by
  unfold isHexDigit
  rw [hexDigitValue_toLower]

theorem isHexNumeral_toLower (text : Bytes) :
    IsHexNumeral (text.map toLower) ↔ IsHexNumeral text := by
  unfold IsHexNumeral
  rw [unsignedPart_toLower, List.forall_mem_map, Ne, List.map_eq_nil_iff]
  simp only [isHexDigit_toLower]

/-- A numeral is a C string to its end. -/
theorem cStr_of_isHexNumeral {text : Bytes} (numeral : IsHexNumeral text) :
    cStr text = text := by
  unfold cStr
  rw [List.takeWhile_eq_self_iff]
  intro byte member
  rw [bne_iff_ne]
  rintro rfl
  have inDigits : 0 ∈ unsignedPart text := by
    unfold unsignedPart
    split
    · rename_i signed
      cases text with
      | nil => cases member
      | cons first rest =>
          cases signed
          rcases List.mem_cons.mp member with sign | later
          · cases sign
          · exact later
    · exact member
  have digit := numeral.2 0 inDigits
  cases digit

def serialField (line : Bytes) : Option Bytes :=
  let s := trim line
  if s.isEmpty || s.head? == some 35 then none
  else if crlNumberTag.isPrefixOf s then none
  else some (extractWord s).1

def spelledSerials (content : Bytes) : List Bytes :=
  (getlines false [] content).filterMap serialField

theorem entrySerial_eq_serialField (line : Bytes) :
    entrySerial line = (serialField line).map (·.map toLower) := by
  unfold entrySerial serialField
  simp only
  split
  · rfl
  · split
    · rfl
    · rfl

/-- The entries have the serial fields of the file in lower case. -/
theorem serials_eq_spelled {db : RevocationDb}
    (loads : loadRevocationDb path (.opened file.content false) = .ok db) :
    db.entries.map (·.serialHex) =
      (spelledSerials file.content).map (·.map toLower) := by
  rw [entries_serials loads, spelledSerials, List.map_filterMap]
  congr 1
  funext line
  exact entrySerial_eq_serialField line

theorem forall_numeral_iff {db : RevocationDb}
    (loads : loadRevocationDb path (.opened file.content false) = .ok db) :
    (∀ serial ∈ spelledSerials file.content, IsHexNumeral serial) ↔
      ∀ entry ∈ db.entries, IsHexNumeral entry.serialHex := by
  calc
    _ ↔ ∀ serial ∈ (spelledSerials file.content).map (·.map toLower),
        IsHexNumeral serial := by
      simp only [List.forall_mem_map, isHexNumeral_toLower]
    _ ↔ ∀ serial ∈ db.entries.map (·.serialHex), IsHexNumeral serial := by
      rw [serials_eq_spelled loads]
    _ ↔ _ := List.forall_mem_map

/-- The entry is refused: no number can be read from its serial number, or the
time or the reason is not known. -/
def RevocationEntry.Refused (isTime : Bytes → Bool) (entry : RevocationEntry) :
    Prop :=
  beginsHex (cStr entry.serialHex) = false ∨
    isTime (cStr entry.revocationDate) = false ∨ ¬ KnownReason entry.reason

namespace Operation

structure ReadsWhole (operation : Operation) (path : String) (file : File)
    (files : FileSystem) : Prop where
  dbPath : operation.dbPath = path
  opens : operation.io.openRead path = false
  reads : operation.io.readStops path = none
  present : files path = some file

/-- The run throws and leaves its output as it was, or every serial field is a
numeral and these are the numbers that the CRL of the run lists. -/
def SpellsOrFails (ssl : OpenSsl) (content : Bytes) (files : FileSystem)
    (operation : Operation) : Prop :=
  ∀ outcome files', (operation.run ssl).exec files = (outcome, files') →
    (outcome ≠ .ok () ∧ ∀ out ∈ operation.outPath, files' out = files out) ∨
    (∀ serial ∈ spelledSerials content, IsHexNumeral serial) ∧
      ∃ db publication,
        operation.load ssl files = .ok (some ⟨db, some publication⟩) ∧
        ∃ listed, publication.crl.revoked.Perm listed ∧
          listed.map X509Revoked.serialNumber =
            (spelledSerials content).map integerOfHexText

end Operation

/-- Every run on a file with this content lists what it spells or fails. -/
def AlwaysSpellsOrFails (isTime : Bytes → Bool) (path : String) (file : File) :
    Prop :=
  ∀ ssl, ReadsHexDigits ssl →
    (∀ revoked, (ssl.x509CrlSort revoked).Perm revoked) →
    ssl.generalizedTimeSetString = isTime →
  ∀ host io args files,
    (Operation.crlIssue host io args).ReadsWhole path file files →
    (Operation.crlIssue host io args).SpellsOrFails ssl file.content files

theorem Operation.ReadsWhole.readDb {operation : Operation}
    {files : FileSystem} (reads : operation.ReadsWhole path file files) :
    readDb operation.io files operation.dbPath =
      loadRevocationDb path (.opened file.content false) := by
  rw [reads.dbPath, readDb_eq_heldDb reads.opens reads.reads]
  unfold heldDb
  rw [reads.present]

theorem revokedFromEntry_reads {entry : RevocationEntry}
    {revoked : X509Revoked}
    (built : revokedFromEntry ssl entry = .ok revoked) :
    ssl.hex2bn (cStr entry.serialHex) = some revoked.serialNumber ∧
      ssl.generalizedTimeSetString (cStr entry.revocationDate) = true ∧
      KnownReason entry.reason := by
  have known := revokedFromEntry_known built
  unfold revokedFromEntry asn1IntFromHex asn1GentimeFromString at built
  simp only [bind_eq_ok, OpenSsl.nonNull_eq_ok, refuse_eq_ok, Bool.not_eq_true]
    at built
  obtain ⟨_, _, _, ⟨number, hex, _, _, returned⟩, _, _, _,
    ⟨_, _, valid, _⟩, _, _, _, _, _, _, built⟩ := built
  cases returned
  cases built
  exact ⟨hex, by simpa using valid, known⟩

theorem revokedFromEntry_serial (readsDigits : ReadsHexDigits ssl)
    (times : ssl.generalizedTimeSetString = isTime) {entry : RevocationEntry}
    {revoked : X509Revoked}
    (built : revokedFromEntry ssl entry = .ok revoked) :
    ¬ entry.Refused isTime ∧
      revoked.serialNumber = integerOfHexText (cStr entry.serialHex) := by
  obtain ⟨hex, valid, known⟩ := revokedFromEntry_reads built
  rw [readsDigits] at hex
  split at hex
  · rename_i begins
    refine ⟨?_, (Option.some.inj hex).symm⟩
    rintro (noDigit | noTime | unknown)
    · rw [begins] at noDigit
      cases noDigit
    · rw [← times, valid] at noTime
      cases noTime
    · exact unknown known
  · cases hex

/-- When every serial field is a numeral, the entries of the CRL have the
numbers that the file spells. -/
theorem listed_spells (readsDigits : ReadsHexDigits ssl)
    (times : ssl.generalizedTimeSetString = isTime) {db : RevocationDb}
    (loads : loadRevocationDb path (.opened file.content false) = .ok db)
    (numerals : ∀ serial ∈ spelledSerials file.content, IsHexNumeral serial)
    {listed : List X509Revoked}
    (built : db.entries.mapM (revokedFromEntry ssl) = .ok listed) :
    listed.map X509Revoked.serialNumber =
      (spelledSerials file.content).map integerOfHexText := by
  rw [forall_numeral_iff loads] at numerals
  rw [mapM_eq_ok] at built
  have numbers : listed.map X509Revoked.serialNumber =
      db.entries.map fun entry => integerOfHexText entry.serialHex := by
    clear loads
    generalize db.entries = entries at numerals built
    induction built with
    | nil => rfl
    | cons here _ ih =>
        rw [List.forall_mem_cons] at numerals
        rw [List.map_cons, List.map_cons, ih numerals.2,
          (revokedFromEntry_serial readsDigits times here).2,
          cStr_of_isHexNumeral numerals.1]
  calc
    listed.map X509Revoked.serialNumber
        = (db.entries.map (·.serialHex)).map integerOfHexText := by
          rw [numbers, List.map_map]
          rfl
    _ = (spelledSerials file.content).map integerOfHexText := by
          rw [serials_eq_spelled loads, List.map_map]
          apply List.map_congr_left
          intro serial _
          exact integerOfHexText_toLower serial

/-- What a run on this file has pending. -/
theorem load_readsWhole {host : Host} {io : IoFaults} {args : CrlIssueArgs}
    {files : FileSystem} {db : RevocationDb}
    (reads : (Operation.crlIssue host io args).ReadsWhole path file files)
    (loads : loadRevocationDb path (.opened file.content false) = .ok db)
    {pending : Option Pending}
    (loaded : (Operation.crlIssue host io args).load ssl files = .ok pending) :
    ∃ publication, pending = some ⟨db.next, some publication⟩ ∧
      publication.Lists ssl args db.next := by
  obtain ⟨issuer, other, publication, _, read, published, rfl⟩ :=
    load_crlIssue_eq_ok.mp loaded
  cases (reads.readDb.trans loads).symm.trans read
  exact ⟨publication, rfl, publish_lists published⟩

theorem alwaysSpellsOrFails_of {db : RevocationDb}
    (loads : loadRevocationDb path (.opened file.content false) = .ok db)
    (condition : (∀ serial ∈ spelledSerials file.content,
        IsHexNumeral serial) ∨
      ∃ entry ∈ db.entries, entry.Refused isTime) :
    AlwaysSpellsOrFails isTime path file := by
  intro ssl readsDigits sorts times host io args files reads outcome files' ran
  rw [Operation.run_exec] at ran
  cases loaded : (Operation.crlIssue host io args).load ssl files with
  | error failure =>
      rw [loaded] at ran
      cases ran
      exact Or.inl ⟨by simp, fun _ _ => rfl⟩
  | ok pending =>
      right
      obtain ⟨publication, rfl, lists⟩ := load_readsWhole reads loads loaded
      obtain ⟨listed, built, sorted⟩ := lists.revoked
      have numerals : ∀ serial ∈ spelledSerials file.content,
          IsHexNumeral serial := by
        rcases condition with numerals | ⟨entry, member, refused⟩
        · exact numerals
        · obtain ⟨revoked, _, accepted⟩ := exists_of_mapM_ok built member
          exact absurd refused
            (revokedFromEntry_serial readsDigits times accepted).1
      refine ⟨numerals, _, publication, rfl, listed, ?_,
        listed_spells readsDigits times loads numerals built⟩
      rw [sorted]
      exact sorts listed

/-- The library of the sample CA, with `BN_hex2bn` as it is relied on and these
times. -/
def prefixSsl (isTime : Bytes → Bool) : OpenSsl :=
  { sampleCaSsl with
    hex2bn := fun text =>
      if beginsHex text then some (integerOfHexText text) else none
    generalizedTimeSetString := isTime }

theorem prefixSsl_works (isTime : Bytes → Bool) :
    LibraryWorks (prefixSsl isTime) sampleKey (sampleIssued 0) where
  calls _ := rfl
  keyid := sampleCaSsl_works.keyid
  digest := sampleCaSsl_works.digest
  signs := sampleCaSsl_works.signs
  writesPem := sampleCaSsl_works.writesPem

theorem sampleCrlIssue_readsWhole (named : path.isEmpty = false)
    (file : File) :
    (sampleCrlIssue IoFaults.none "crl.pem" path).ReadsWhole path file
      (onlyFile path file) where
  dbPath := resolveDbPath_of_named named
  opens := rfl
  reads := rfl
  present := onlyFile_path path file

theorem sampleCrlIssue_succeeds (named : path.isEmpty = false)
    {db : RevocationDb}
    (loads : loadRevocationDb path (.opened file.content false) = .ok db)
    (accepted : ∀ entry ∈ db.entries, ¬ entry.Refused isTime) :
    ∃ files', ((sampleCrlIssue IoFaults.none "crl.pem" path).run
      (prefixSsl isTime)).exec (onlyFile path file) = (.ok (), files') := by
  have works := prefixSsl_works isTime
  have each : ∀ entry ∈ db.entries, ∃ revoked,
      revokedFromEntry (prefixSsl isTime) entry = .ok revoked := by
    intro entry member
    have notRefused := accepted entry member
    unfold RevocationEntry.Refused at notRefused
    simp only [not_or, Bool.not_eq_false, not_not] at notRefused
    obtain ⟨begins, valid, known⟩ := notRefused
    obtain ⟨code, added⟩ := crlReasonExtension_of_known works.calls known
    exact ⟨⟨_, _, code⟩, (revokedFromEntry_eq_ok works.calls).mpr
      ⟨if_pos begins, valid, rfl, added⟩⟩
  have issuer : loadCrlIssuer (prefixSsl isTime) (sampleCaHost 0)
      { caKeyPath := "ca.key", caCertPath := "ca.crt", outPath := "crl.pem",
        dbPath := path } = .ok (sampleKey, sampleIssued 0) :=
    sample_loadCrlIssuer "crl.pem" path rfl
  have read := (sampleCrlIssue_readsWhole named file).readDb.trans loads
  obtain ⟨publication, loaded⟩ := crlIssue_loads works issuer read each
  change (sampleCrlIssue IoFaults.none "crl.pem" path).load _ _ = _ at loaded
  rw [Operation.run_exec, loaded]
  exact @Pending.write_works IoFaults.none writesWork_none
    (sampleCrlIssue IoFaults.none "crl.pem" path).dbPath
    ⟨db.next, some publication⟩ (onlyFile path file)

theorem condition_of_alwaysSpellsOrFails (named : path.isEmpty = false)
    {db : RevocationDb}
    (loads : loadRevocationDb path (.opened file.content false) = .ok db)
    (law : AlwaysSpellsOrFails isTime path file) :
    (∀ serial ∈ spelledSerials file.content, IsHexNumeral serial) ∨
      ∃ entry ∈ db.entries, entry.Refused isTime := by
  by_cases refused : ∃ entry ∈ db.entries, entry.Refused isTime
  · exact Or.inr refused
  · push Not at refused
    obtain ⟨files', ran⟩ := sampleCrlIssue_succeeds named loads refused
    rcases law (prefixSsl isTime) (fun _ => rfl) (fun _ => List.Perm.refl _)
      rfl _ _ _ _ (sampleCrlIssue_readsWhole named file) _ _ ran with
      ⟨threw, _⟩ | ⟨numerals, _⟩
    · exact absurd rfl threw
    · exact Or.inl numerals

/-- Every run lists what the file spells or fails exactly when every serial
field is a numeral or some entry is refused. -/
theorem crlIssue_spells_iff (isTime : Bytes → Bool) (path : String)
    (file : File) (db : RevocationDb) (named : path.isEmpty = false)
    (loads : loadRevocationDb path (.opened file.content false) = .ok db) :
    AlwaysSpellsOrFails isTime path file ↔
      (∀ serial ∈ spelledSerials file.content, IsHexNumeral serial) ∨
        ∃ entry ∈ db.entries, entry.Refused isTime :=
  ⟨condition_of_alwaysSpellsOrFails named loads, alwaysSpellsOrFails_of loads⟩

def sampleTimes (text : Bytes) : Bool :=
  text.length == 15

def sampleSpelled : File :=
  ⟨ascii "crl-number 7\n-0A 20250101000000Z keyCompromise\nfF 20250102000000Z",
    0o600⟩

def sampleSpelledDb : RevocationDb :=
  ⟨7, [⟨ascii "-0a", ascii "20250101000000Z", ascii "keyCompromise"⟩,
    ⟨ascii "ff", ascii "20250102000000Z", []⟩]⟩

theorem crlIssue_spells_sample :
    AlwaysSpellsOrFails sampleTimes "db.txt" sampleSpelled ∧
      (spelledSerials sampleSpelled.content).map integerOfHexText =
        [-10, 255] := by
  have loads : loadRevocationDb "db.txt"
      (.opened sampleSpelled.content false) = .ok sampleSpelledDb := by
    decide +kernel
  refine ⟨(crlIssue_spells_iff sampleTimes "db.txt" sampleSpelled
    sampleSpelledDb rfl loads).mpr (.inl ?_), by decide +kernel⟩
  decide +kernel

def sampleMisspelled : File :=
  ⟨ascii "0x1a 20250101000000Z\n1a:2b 20250101000000Z\n1a2b 20250101000000Z",
    0o600⟩

/-- The CRL lists 0 and 1A, and the run succeeds. -/
theorem not_alwaysSpellsOrFails_misspelled :
    ¬ AlwaysSpellsOrFails sampleTimes "db.txt" sampleMisspelled ∧
      ((sampleCrlIssue IoFaults.none "crl.pem" "db.txt").appearing
        (prefixSsl sampleTimes) (onlyFile "db.txt" sampleMisspelled)).map
          (fun crl => crl.revoked.map X509Revoked.serialNumber) =
            some [0, 0x1a, 0x1a2b] := by
  refine ⟨fun law => ?_, by decide +kernel⟩
  have ran : (((sampleCrlIssue IoFaults.none "crl.pem" "db.txt").run
      (prefixSsl sampleTimes)).exec (onlyFile "db.txt" sampleMisspelled)).1 =
        .ok () := by
    decide +kernel
  rcases law (prefixSsl sampleTimes) (fun _ => rfl)
    (fun _ => List.Perm.refl _) rfl _ _ _ _
    (sampleCrlIssue_readsWhole rfl sampleMisspelled) _ _ (Prod.ext ran rfl)
    with ⟨threw, _⟩ | ⟨numerals, _⟩
  · exact absurd rfl threw
  · revert numerals
    decide +kernel

end TeeAnchor.Ca
