import TeeAnchor.CrlContents
import TeeAnchor.DbLines

/-!
# Rewriting the revocation database

A save writes the serial numbers in lower case and one blank apart, and the next
load looks at the first bytes of each line.  What is read back is what was read
before exactly when no serial number, as it is written, begins like a comment or
like the line of the CRL number.
-/

namespace TeeAnchor.Ca

variable {ssl : OpenSsl} {path : String}

/-- The serial number that a line adds to the database. -/
def entrySerial (line : Bytes) : Option Bytes :=
  let s := trim line
  if s.isEmpty || s.head? == some 35 then none
  else if crlNumberTag.isPrefixOf s then none
  else some ((extractWord s).1.map toLower)

/-- No line adds a serial number that begins like a comment or like the line of
the CRL number once it is in lower case. -/
def SerialsLegible (content : Bytes) : Prop :=
  ∀ line ∈ getlines false [] content, ∀ serial ∈ entrySerial line,
    serial.head? ≠ some 35 ∧ ¬ crlNumberTag <+: serial

theorem entrySerial_eq_lineEntry (line : Bytes) :
    entrySerial line = (lineEntry line).map (·.serialHex) := by
  unfold entrySerial lineEntry isEntryLine isIgnored
  simp only
  by_cases ignored : (trim line).isEmpty || (trim line).head? == some 35
  · simp only [ignored, if_true, Bool.not_true, Bool.false_and,
      Bool.false_eq_true, if_false, Option.map_none]
  · simp only [ignored, Bool.false_eq_true, if_false, Bool.not_false,
      Bool.true_and, Bool.not_eq_true']
    cases crlNumberTag.isPrefixOf (trim line) with
    | true => rfl
    | false => rfl

theorem entries_serials {content : Bytes} {db : RevocationDb}
    (loads : loadRevocationDb path (.opened content false) = .ok db) :
    db.entries.map (·.serialHex) =
      (getlines false [] content).filterMap entrySerial := by
  obtain ⟨_, rfl⟩ := loadRevocationDb_eq_ok.mp loads
  rw [List.map_filterMap]
  congr 1
  funext line
  exact (entrySerial_eq_lineEntry line).symm

/-- The lines of a file tell which entries are legible. -/
theorem serialsLegible_iff {content : Bytes} {db : RevocationDb}
    (loads : loadRevocationDb path (.opened content false) = .ok db) :
    SerialsLegible content ↔ ∀ entry ∈ db.entries, entry.Legible := by
  have serials := entries_serials loads
  have members : ∀ serial, serial ∈ db.entries.map (·.serialHex) ↔
      ∃ line ∈ getlines false [] content, entrySerial line = some serial := by
    intro serial
    rw [serials, List.mem_filterMap]
  constructor
  · intro legible entry member
    obtain ⟨line, lineMember, added⟩ :=
      (members entry.serialHex).mp (List.mem_map_of_mem member)
    exact legible line lineMember _ added
  · intro legible line lineMember serial added
    have present := (members serial).mpr ⟨line, lineMember, added⟩
    obtain ⟨entry, member, rfl⟩ := List.mem_map.mp present
    exact legible entry member

/-- A database is read back as it was written exactly when its entries are
legible. -/
theorem loadRevocationDb_dbText_iff {db : RevocationDb}
    (wellFormed : ∀ entry ∈ db.entries, entry.WellFormed) :
    loadRevocationDb path (.opened (dbText db) false) = .ok db ↔
      ∀ entry ∈ db.entries, entry.Legible := by
  constructor
  · intro loads
    have kept := entries_of_loadRevocationDb_dbText wellFormed loads
    rw [eq_comm, List.filter_eq_self] at kept
    simpa using kept
  · intro legible
    exact loadRevocationDb_dbText wellFormed legible path

namespace Operation

def AlreadyRevoked (ssl : OpenSsl) (db : RevocationDb) : Operation → Prop
  | .revoke host _ args => ∃ serialHex,
      revokedSerial ssl host args = .ok serialHex ∧
        db.contains serialHex = true
  | .crlIssue _ _ _ => False

/-- What is loaded after the run has all that was loaded before in its order,
with the CRL number of before for a revocation and with the next one for a
CRL. -/
def Preserves (db : RevocationDb) (after : Result RevocationDb) :
    Operation → Prop
  | .revoke _ _ _ => ∃ added : List RevocationEntry, added.length ≤ 1 ∧
      after = .ok ⟨db.crlNumber, db.entries ++ added⟩
  | .crlIssue _ _ _ => after = .ok ⟨db.crlNumber + 1, db.entries⟩

end Operation

theorem heldDb_of_kept {operation : Operation} (keeps : operation.KeepsDb path)
    {pending : Pending} {files files' : FileSystem}
    (wrote : (operation.finish (.ok (some pending))).exec files =
      (.ok (), files')) :
    heldDb files' path =
      loadRevocationDb path (.opened (dbText pending.db) false) := by
  change (pending.write operation.io operation.dbPath).exec files = _ at wrote
  rw [keeps.dbPath] at wrote
  obtain ⟨visible, mode, written⟩ := Pending.write_ok wrote
  have whole := keeps.writes (dbText pending.db)
  rw [WriteFate.losesSilently, visible, Bool.not_false, Bool.and_true,
    bne_eq_false_iff_eq] at whole
  unfold heldDb
  rw [written, whole]

/-- A revocation has one entry more pending. -/
theorem revoke_pending (codec : HexCodec ssl) {host : Host} {io : IoFaults}
    {args : RevokeArgs} (clock : IsTimeText host.generalizedTimeNowUtc)
    {files : FileSystem} {db : RevocationDb}
    (read : readDb io files (resolveDbPath args.dbPath args.caCertPath) =
      .ok db) {pending : Pending}
    (loaded : (Operation.revoke host io args).load ssl files =
      .ok (some pending)) :
    ∃ entry : RevocationEntry, entry.WellFormed ∧ entry.Legible ∧
      pending.db = db.append entry := by
  obtain ⟨other, read', settled⟩ :=
    @load_cases _ codec (.revoke host io args) clock _ _ loaded
  cases read.symm.trans read'
  rcases settled with ⟨entry, wellFormed, legible, _, rfl⟩ |
    ⟨_, publication, _, rfl⟩
  · exact ⟨entry, wellFormed, legible, rfl⟩
  · cases load_outPath loaded

theorem crlIssue_pending {host : Host} {io : IoFaults} {args : CrlIssueArgs}
    {files : FileSystem} {db : RevocationDb}
    (read : readDb io files (resolveDbPath args.dbPath args.caCertPath) =
      .ok db) {pending : Option Pending}
    (loaded : (Operation.crlIssue host io args).load ssl files = .ok pending) :
    ∃ publication, pending = some ⟨db.next, some publication⟩ := by
  obtain ⟨_, other, publication, _, read', _, same⟩ :=
    load_crlIssue_eq_ok.mp loaded
  cases read.symm.trans read'
  exact ⟨publication, same.symm⟩

theorem preserves_append_iff {db : RevocationDb}
    (wellFormed : ∀ entry ∈ db.entries, entry.WellFormed)
    {new : RevocationEntry} (newWellFormed : new.WellFormed)
    (newLegible : new.Legible) :
    (∃ added : List RevocationEntry, added.length ≤ 1 ∧
      loadRevocationDb path (.opened (dbText (db.append new)) false) =
        .ok ⟨db.crlNumber, db.entries ++ added⟩) ↔
      ∀ entry ∈ db.entries, entry.Legible := by
  have allWellFormed : ∀ entry ∈ (db.append new).entries, entry.WellFormed :=
    List.forall_mem_append.mpr
      ⟨wellFormed, List.forall_mem_singleton.mpr newWellFormed⟩
  constructor
  · rintro ⟨added, _, after⟩
    have kept := entries_of_loadRevocationDb_dbText allWellFormed after
    intro entry member
    have found : entry ∈ (db.append new).entries.filter (·.Legible) := by
      rw [← kept]
      exact List.mem_append_left _ member
    simpa using List.of_mem_filter found
  · intro legible
    refine ⟨[new], Nat.le_refl _, loadRevocationDb_dbText allWellFormed ?_ _⟩
    exact List.forall_mem_append.mpr
      ⟨legible, List.forall_mem_singleton.mpr newLegible⟩

theorem revoke_preserves_iff (codec : HexCodec ssl) {host : Host}
    {io : IoFaults} {args : RevokeArgs} {files files' : FileSystem}
    {db : RevocationDb} {pending : Option Pending}
    (keeps : (Operation.revoke host io args).KeepsDb path)
    (held : heldDb files path = .ok db)
    (read : readDb io files (resolveDbPath args.dbPath args.caCertPath) =
      .ok db)
    (loaded : (Operation.revoke host io args).load ssl files = .ok pending)
    (ran : ((Operation.revoke host io args).finish (.ok pending)).exec files =
      (.ok (), files')) :
    (Operation.revoke host io args).Preserves db (heldDb files' path) ↔
      (∀ entry ∈ db.entries, entry.Legible) ∨
        (Operation.revoke host io args).AlreadyRevoked ssl db := by
  obtain ⟨serialHex, other, serial, read', settled⟩ :=
    load_revoke_eq_ok.mp loaded
  cases read.symm.trans read'
  cases pending with
  | none =>
      cases ran
      have present : db.contains serialHex = true := by
        by_contra absent
        rw [revokePending, if_neg absent] at settled
        cases settled
      have preserved : ∃ added : List RevocationEntry, added.length ≤ 1 ∧
          heldDb files path = .ok ⟨db.crlNumber, db.entries ++ added⟩ :=
        ⟨[], Nat.zero_le _, by rw [held, List.append_nil]⟩
      exact iff_of_true preserved (.inr ⟨serialHex, serial, present⟩)
  | some pending =>
      obtain ⟨entry, entryWellFormed, entryLegible, pendingDb⟩ :=
        revoke_pending codec keeps.clock read loaded
      have absent : ¬ (Operation.revoke host io args).AlreadyRevoked ssl
          db := by
        rintro ⟨found, foundSerial, present⟩
        cases serial.symm.trans foundSerial
        rw [revokePending, if_pos present] at settled
        cases settled
      have after := heldDb_of_kept keeps ran
      rw [pendingDb] at after
      have appended := @preserves_append_iff path db (heldDb_wellFormed held)
        entry entryWellFormed entryLegible
      rw [← after] at appended
      rw [or_iff_left absent]
      exact appended

/-- A run that succeeds preserves the database exactly when its entries are
legible or it has nothing to write. -/
theorem run_preserves_iff (codec : HexCodec ssl) {operation : Operation}
    (keeps : operation.KeepsDb path) {files files' : FileSystem}
    {db : RevocationDb} (held : heldDb files path = .ok db)
    (ran : (operation.run ssl).exec files = (.ok (), files')) :
    operation.Preserves db (heldDb files' path) ↔
      (∀ entry ∈ db.entries, entry.Legible) ∨
        operation.AlreadyRevoked ssl db := by
  have read : readDb operation.io files operation.dbPath = .ok db := by
    rw [keeps.dbPath, readDb_eq_heldDb keeps.opens keeps.reads, held]
  rw [Operation.run_exec] at ran
  cases loaded : operation.load ssl files with
  | error failure =>
      rw [loaded] at ran
      cases ran
  | ok pending =>
      rw [loaded] at ran
      cases operation with
      | revoke host io args =>
          exact revoke_preserves_iff codec keeps held read loaded ran
      | crlIssue host io args =>
          obtain ⟨publication, rfl⟩ := crlIssue_pending read loaded
          have after := heldDb_of_kept keeps ran
          have wellFormed := heldDb_wellFormed held
          have next := @loadRevocationDb_dbText_iff path db.next wellFormed
          rw [← after] at next
          have never : ¬ (Operation.crlIssue host io args).AlreadyRevoked ssl
              db := id
          rw [or_iff_left never]
          exact next

/-- What is written of an accepted file is read back alike, and a run that
writes it anew preserves it, exactly when the serial numbers in it are legible;
a revocation that is there already writes nothing. -/
theorem rewriting_preserves_iff (path : String) (file : File)
    (db : RevocationDb)
    (loads : loadRevocationDb path (.opened file.content false) = .ok db) :
    (loadRevocationDb path (.opened (dbText db) false) = .ok db ↔
      SerialsLegible file.content) ∧
    (∀ (ssl : OpenSsl), HexCodec ssl →
      ∀ operation : Operation, operation.KeepsDb path →
      ∀ files files' : FileSystem, files path = some file →
      (operation.run ssl).exec files = (.ok (), files') →
      (operation.Preserves db (heldDb files' path) ↔
        SerialsLegible file.content ∨ operation.AlreadyRevoked ssl db)) := by
  rw [serialsLegible_iff loads]
  constructor
  · exact loadRevocationDb_dbText_iff (loadRevocationDb_wellFormed loads)
  · intro ssl codec operation keeps files files' present ran
    have held : heldDb files path = .ok db := by
      unfold heldDb
      rw [present]
      exact loads
    exact run_preserves_iff codec keeps held ran

/-- A hand-edited file. -/
def sampleEdited : File :=
  ⟨ascii "# by hand\n\tAB12   20250101000000Z  keyCompromise \ncrl-number 7",
    0o600⟩

def sampleEditedDb : RevocationDb :=
  ⟨7, [⟨ascii "ab12", ascii "20250101000000Z", ascii "keyCompromise"⟩]⟩

theorem rewriting_preserves_sample :
    loadRevocationDb "db.txt" (.opened (dbText sampleEditedDb) false) =
      .ok sampleEditedDb ∧
    ∃ files', ((sampleRevoke IoFaults.none 11 "db.txt").run sampleCaSsl).exec
        (onlyFile "db.txt" sampleEdited) = (.ok (), files') ∧
      (sampleRevoke IoFaults.none 11 "db.txt").Preserves sampleEditedDb
        (heldDb files' "db.txt") := by
  have loads : loadRevocationDb "db.txt"
      (.opened sampleEdited.content false) = .ok sampleEditedDb := by
    decide +kernel
  have legible : SerialsLegible sampleEdited.content := by
    unfold SerialsLegible
    decide +kernel
  have ran : (((sampleRevoke IoFaults.none 11 "db.txt").run sampleCaSsl).exec
      (onlyFile "db.txt" sampleEdited)).1 = .ok () := by
    decide +kernel
  have preserves := rewriting_preserves_iff "db.txt" _ _ loads
  refine ⟨preserves.1.mpr legible, _, Prod.ext ran rfl, ?_⟩
  rw [preserves.2 sampleCaSsl sampleCaSsl_hexCodec _ (sampleRevoke_keepsDb 11)
    _ _ (onlyFile_path _ _) (Prod.ext ran rfl)]
  exact .inl legible

/-- A serial number in upper case that is a keyword in lower case. -/
def sampleShadowed : File :=
  ⟨ascii "CRL-NUMBER 20250101000000Z\n", 0o600⟩

def sampleShadowedDb : RevocationDb :=
  ⟨0, [⟨crlNumberTag, ascii "20250101000000Z", []⟩]⟩

/-- An entry that is written in upper case is read back as the CRL number, one
behind a vertical tab as a comment, and a revocation loses the entry. -/
theorem rewriting_loses_entry :
    loadRevocationDb "db.txt" (.opened sampleShadowed.content false) =
      .ok sampleShadowedDb ∧
    loadRevocationDb "db.txt" (.opened (dbText sampleShadowedDb) false) =
      .ok ⟨20250101000000, []⟩ ∧
    (∃ db, loadRevocationDb "db.txt"
        (.opened (11 :: ascii "#1a 20250101000000Z") false) = .ok db ∧
      db.entries.length = 1 ∧
      loadRevocationDb "db.txt" (.opened (dbText db) false) = .ok {}) ∧
    ∃ files', ((sampleRevoke IoFaults.none 11 "db.txt").run sampleCaSsl).exec
        (onlyFile "db.txt" sampleShadowed) = (.ok (), files') ∧
      ∃ db, heldDb files' "db.txt" = .ok db ∧
        db.crlNumber = 20250101000000 ∧
        db.entries.map (·.serialHex) = [ascii "0b"] := by
  have ran : (((sampleRevoke IoFaults.none 11 "db.txt").run sampleCaSsl).exec
      (onlyFile "db.txt" sampleShadowed)).1 = .ok () := by
    decide +kernel
  refine ⟨by decide +kernel, by decide +kernel,
    ⟨⟨0, [⟨ascii "#1a", ascii "20250101000000Z", []⟩]⟩, by decide +kernel, rfl,
      by decide +kernel⟩,
    _, Prod.ext ran rfl,
    ⟨20250101000000, [⟨ascii "0b", ascii "20260101000000Z", []⟩]⟩, ?_, rfl, rfl⟩
  decide +kernel

end TeeAnchor.Ca
