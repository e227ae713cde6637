import TeeAnchor.DbLines
import TeeAnchor.SpelledSerials

/-!
# The number of a CRL

The number in the database goes through the extraction of an unsigned number,
an increment modulo `2 ^ 64`, a cast to a signed number and an ASN.1 integer.
The loader accepts what the extraction left at the end of the line, and nothing
checks the two limits.
-/

namespace TeeAnchor.Ca

variable {ssl : OpenSsl} {path : String} {file : File}
  {isTime : Bytes → Bool}

def numberWord (line : Bytes) : Bytes :=
  (extractWord (afterKeyword line)).1

/-- The keyword and one decimal numeral that fits, with nothing but blanks
besides. -/
def IsNumeralLine (line : Bytes) : Prop :=
  (extractWord (trim line)).1 = crlNumberTag ∧
    numberWord line ≠ [] ∧ (∀ byte ∈ numberWord line, isDigit byte = true) ∧
    digitsValue (numberWord line) < 2 ^ 64 ∧
    ∀ byte ∈ (extractWord (afterKeyword line)).2, isSpace byte = true

instance (line : Bytes) : Decidable (IsNumeralLine line) :=
  inferInstanceAs (Decidable (_ ∧ _))

/-- The numeral in a line of the number. -/
def numeralOf (line : Bytes) : Option Nat :=
  if isNumberLine line then some (digitsValue (numberWord line)) else none

def recordedNumber (content : Bytes) : Nat :=
  ((getlines false [] content).filterMap numeralOf).getLastD 0

def NumeralsOnly (content : Bytes) : Prop :=
  ∀ line ∈ getlines false [] content, isNumberLine line = true →
    IsNumeralLine line

theorem lineNumber_eq {line : Bytes}
    (numeral : isNumberLine line = true → IsNumeralLine line) :
    lineNumber line = (numeralOf line).map UInt64.ofNat := by
  unfold lineNumber numeralOf
  by_cases number : isNumberLine line = true
  · obtain ⟨_, nonempty, digits, fits, _⟩ := numeral number
    rw [if_pos number, if_pos number, extractUInt64_word nonempty digits fits]
    rfl
  · rw [if_neg number, if_neg number]
    rfl

theorem recordedNumber_lt {content : Bytes}
    (numerals : NumeralsOnly content) : recordedNumber content < 2 ^ 64 := by
  have each : ∀ number ∈ (getlines false [] content).filterMap numeralOf,
      number < 2 ^ 64 := by
    intro number member
    obtain ⟨line, lineMember, found⟩ := List.mem_filterMap.mp member
    unfold numeralOf at found
    split at found
    · rename_i isNumber
      obtain ⟨_, _, _, fits, _⟩ := numerals line lineMember isNumber
      exact Option.some.inj found ▸ fits
    · cases found
  rcases List.mem_cons.mp List.getLastD_mem_cons with none | last
  · rw [recordedNumber, none]
    decide
  · exact each _ last

theorem crlNumber_of_numerals {db : RevocationDb}
    (loads : loadRevocationDb path (.opened file.content false) = .ok db)
    (numerals : NumeralsOnly file.content) :
    db.crlNumber.toNat = recordedNumber file.content := by
  obtain ⟨_, rfl⟩ := loadRevocationDb_eq_ok.mp loads
  have numbers : (getlines false [] file.content).filterMap lineNumber =
      ((getlines false [] file.content).filterMap numeralOf).map
        UInt64.ofNat := by
    rw [List.map_filterMap]
    apply List.filterMap_congr
    intro line member
    exact lineNumber_eq (numerals line member)
  have last : (((getlines false [] file.content).filterMap numeralOf).map
      UInt64.ofNat).getLastD 0 = UInt64.ofNat (recordedNumber file.content) :=
    List.getLastD_map
  simp only [numbers, last]
  exact UInt64.toNat_ofNat_of_lt' (recordedNumber_lt numerals)

namespace Operation

/-- If the run succeeds, it publishes a CRL with the number after this one and
saves a database with that number. -/
def CountsFrom (ssl : OpenSsl) (recorded : Nat) (files : FileSystem)
    (operation : Operation) : Prop :=
  ∀ files', (operation.run ssl).exec files = (.ok (), files') →
    ∃ db publication,
      operation.load ssl files = .ok (some ⟨db, some publication⟩) ∧
      publication.crl.crlNumber = recorded + 1 ∧
      db.crlNumber.toNat = recorded + 1 ∧
      ∃ mode, files' operation.dbPath = some
        ⟨(operation.io.write (tmpPath operation.dbPath)).written (dbText db),
          mode⟩

end Operation

/-- A line of the number that has no numeral is refused; otherwise the last
numeral is loaded, and every run on the file counts from it. -/
def NumberFaithful (isTime : Bytes → Bool) (path : String) (file : File) :
    Prop :=
  (¬ NumeralsOnly file.content → ∃ what,
    loadRevocationDb path (.opened file.content false) =
      teeAnchorError what) ∧
  (NumeralsOnly file.content → ∀ db,
    loadRevocationDb path (.opened file.content false) = .ok db →
    db.crlNumber.toNat = recordedNumber file.content ∧
    ∀ ssl, ReadsHexDigits ssl → ssl.generalizedTimeSetString = isTime →
    ∀ host io args files,
      (Operation.crlIssue host io args).ReadsWhole path file files →
      (Operation.crlIssue host io args).CountsFrom ssl
        (recordedNumber file.content) files)

def SomeLineRefused (content : Bytes) : Prop :=
  ∃ line ∈ getlines false [] content, LineRefused line

/-- Some entry of the file is refused. -/
def SomeEntryRefused (isTime : Bytes → Bool) (content : Bytes) : Prop :=
  ∃ line ∈ getlines false [] content, ∃ entry ∈ lineEntry line,
    entry.Refused isTime

theorem someEntryRefused_iff {db : RevocationDb}
    (loads : loadRevocationDb path (.opened file.content false) = .ok db) :
    SomeEntryRefused isTime file.content ↔
      ∃ entry ∈ db.entries, entry.Refused isTime := by
  obtain ⟨_, rfl⟩ := loadRevocationDb_eq_ok.mp loads
  simp only [SomeEntryRefused, List.mem_filterMap]
  constructor
  · rintro ⟨line, member, entry, added, refused⟩
    exact ⟨entry, ⟨line, member, added⟩, refused⟩
  · rintro ⟨entry, ⟨line, member, added⟩, refused⟩
    exact ⟨line, member, entry, added, refused⟩

theorem next_crlNumber {db : RevocationDb}
    (room : db.crlNumber.toNat + 1 < 2 ^ 63) :
    db.next.crlNumber.toNat = db.crlNumber.toNat + 1 ∧
      db.next.crlNumber.toInt64.toInt = db.crlNumber.toNat + 1 := by
  have sum : db.next.crlNumber.toNat = (db.crlNumber.toNat + 1) % 2 ^ 64 :=
    UInt64.toNat_add db.crlNumber 1
  have number : db.next.crlNumber.toNat = db.crlNumber.toNat + 1 := by omega
  refine ⟨number, ?_⟩
  rw [toInt64_toInt_of_lt (by omega), number]
  rfl

theorem countsFrom_of {db : RevocationDb}
    (loads : loadRevocationDb path (.opened file.content false) = .ok db)
    (condition : db.crlNumber.toNat + 1 < 2 ^ 63 ∨
      ∃ entry ∈ db.entries, entry.Refused isTime)
    (readsDigits : ReadsHexDigits ssl)
    (times : ssl.generalizedTimeSetString = isTime) {host : Host}
    {io : IoFaults} {args : CrlIssueArgs} {files : FileSystem}
    (reads : (Operation.crlIssue host io args).ReadsWhole path file files) :
    (Operation.crlIssue host io args).CountsFrom ssl db.crlNumber.toNat
      files := by
  intro files' ran
  rw [Operation.run_exec] at ran
  cases loaded : (Operation.crlIssue host io args).load ssl files with
  | error failure =>
      rw [loaded] at ran
      cases ran
  | ok pending =>
      rw [loaded] at ran
      obtain ⟨publication, rfl, lists⟩ := load_readsWhole reads loads loaded
      change ((Pending.mk db.next (some publication)).write io
        (resolveDbPath args.dbPath args.caCertPath)).exec files = _ at ran
      obtain ⟨mode, saved⟩ := (Pending.write_ok ran).2
      rcases condition with room | ⟨entry, member, refused⟩
      · have next := next_crlNumber room
        exact ⟨db.next, publication, rfl, lists.crlNumber.trans next.2, next.1,
          mode, saved⟩
      · obtain ⟨listed, built, _⟩ := lists.revoked
        obtain ⟨revoked, _, accepted⟩ := exists_of_mapM_ok built member
        exact absurd refused
          (revokedFromEntry_serial readsDigits times accepted).1

/-- Where every run counts on and one succeeds, the next number is that of a
positive `long`. -/
theorem room_of_counts (named : path.isEmpty = false)
    (accepted : ¬ SomeLineRefused file.content)
    (listed : ¬ SomeEntryRefused isTime file.content)
    (counts : ∀ db,
      loadRevocationDb path (.opened file.content false) = .ok db →
      db.crlNumber.toNat = recordedNumber file.content ∧
      ∀ ssl, ReadsHexDigits ssl → ssl.generalizedTimeSetString = isTime →
      ∀ host io args files,
        (Operation.crlIssue host io args).ReadsWhole path file files →
        (Operation.crlIssue host io args).CountsFrom ssl
          (recordedNumber file.content) files) :
    recordedNumber file.content + 1 < 2 ^ 63 := by
  unfold SomeLineRefused at accepted
  push Not at accepted
  obtain ⟨db, loads⟩ : ∃ db,
      loadRevocationDb path (.opened file.content false) = .ok db :=
    ⟨_, loadRevocationDb_eq_ok.mpr ⟨accepted, rfl⟩⟩
  rw [someEntryRefused_iff loads] at listed
  push Not at listed
  obtain ⟨files', ran⟩ := sampleCrlIssue_succeeds named loads listed
  have reads := sampleCrlIssue_readsWhole named file
  obtain ⟨_, publication, loaded, number, _⟩ := (counts db loads).2
    (prefixSsl isTime) (fun _ => rfl) rfl _ _ _ _ reads files' ran
  obtain ⟨_, same, lists⟩ := load_readsWhole reads loads loaded
  cases same
  have bound := Int64.toInt_lt db.next.crlNumber.toInt64
  rw [← lists.crlNumber, number] at bound
  omega

/-- The number of a CRL faithfully counts on exactly when a line is refused, or
the lines of the number have numerals and there is room below `2 ^ 63` or an
entry is refused. -/
theorem crlNumber_faithful_iff (isTime : Bytes → Bool) (path : String)
    (file : File) (named : path.isEmpty = false) :
    NumberFaithful isTime path file ↔
      SomeLineRefused file.content ∨
        NumeralsOnly file.content ∧
          (recordedNumber file.content + 1 < 2 ^ 63 ∨
            SomeEntryRefused isTime file.content) := by
  constructor
  · rintro ⟨refuses, counts⟩
    by_cases refused : SomeLineRefused file.content
    · exact Or.inl refused
    right
    have numerals : NumeralsOnly file.content := by
      by_contra notOnly
      exact refused (loadRevocationDb_refused_iff.mp (refuses notOnly))
    refine ⟨numerals, ?_⟩
    by_cases entryRefused : SomeEntryRefused isTime file.content
    · exact Or.inr entryRefused
    left
    exact room_of_counts named refused entryRefused (counts numerals)
  · rintro (refused | ⟨numerals, condition⟩)
    · have throws := (@loadRevocationDb_refused_iff path _ _).mpr refused
      refine ⟨fun _ => throws, fun _ db loads => ?_⟩
      obtain ⟨what, throws⟩ := throws
      cases throws.symm.trans loads
    · refine ⟨fun notOnly => absurd numerals notOnly, fun _ db loads => ?_⟩
      have number := crlNumber_of_numerals loads numerals
      refine ⟨number, ?_⟩
      intro ssl readsDigits times host io args files reads
      rw [someEntryRefused_iff loads, ← number] at condition
      rw [← number]
      exact countsFrom_of loads condition readsDigits times reads

def sampleCounted : File :=
  ⟨ascii "crl-number 3\n0a 20250101000000Z keyCompromise\n crl-number\t007 ",
    0o600⟩

theorem crlNumber_faithful_sample :
    NumberFaithful sampleTimes "db.txt" sampleCounted ∧
      recordedNumber sampleCounted.content = 7 := by
  refine ⟨(crlNumber_faithful_iff sampleTimes "db.txt" sampleCounted
    rfl).mpr (.inr ⟨?_, .inl ?_⟩), by decide +kernel⟩
  · unfold NumeralsOnly
    decide +kernel
  · decide +kernel

def sampleLastLong : File :=
  ⟨ascii "crl-number 9223372036854775807\n", 0o600⟩

def sampleLastUInt64 : File :=
  ⟨ascii "crl-number 18446744073709551615\n", 0o600⟩

/-- A keyword without a number, one with the number glued to it, a negative
number, one that is followed by letters and one that is too large are accepted;
at the limits a negative number and 0 are published. -/
theorem not_numberFaithful_accepted :
    ¬ NumberFaithful sampleTimes "db.txt" ⟨ascii "crl-number5\n", 0o600⟩ ∧
    ([ascii "crl-number", ascii "crl-number5", ascii "crl-number -5",
        ascii "crl-number 7x", ascii "crl-number 18446744073709551616"].map
      fun content => (loadRevocationDb "db.txt" (.opened content false)).map
        RevocationDb.crlNumber) =
      [.ok 0, .ok 0, .ok 18446744073709551611, .ok 7,
        .ok 18446744073709551615] ∧
    ([sampleLastLong, sampleLastUInt64].map fun file =>
      ((sampleCrlIssue IoFaults.none "crl.pem" "db.txt").appearing
        (prefixSsl sampleTimes) (onlyFile "db.txt" file)).map
          X509Crl.crlNumber) =
      [some (-9223372036854775808), some 0] := by
  refine ⟨fun law => ?_, by decide +kernel, by decide +kernel⟩
  have notOnly : ¬ NumeralsOnly (ascii "crl-number5\n") := by
    unfold NumeralsOnly
    decide +kernel
  obtain ⟨what, refused⟩ := law.1 notOnly
  have loads : loadRevocationDb "db.txt"
      (.opened (ascii "crl-number5\n") false) = .ok {} := by
    decide +kernel
  cases refused.symm.trans loads

end TeeAnchor.Ca
