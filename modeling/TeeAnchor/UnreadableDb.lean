import TeeAnchor.CrlContents
import Mathlib.Data.Set.Finite.Basic

/-!
# A database that cannot be read

The loader takes a database that it cannot open for one that is not there, and
a read error for the end of the file.  A run that goes on replaces the database
by what it could read of it.
-/

namespace TeeAnchor.Ca

/-- How reading the database fails. -/
structure ReadFault where
  cannotOpen : Bool
  stops : Option Nat
  deriving DecidableEq, Repr

namespace ReadFault

/-- The fault keeps the run from reading all of the file. -/
def Hits (fault : ReadFault) (content : Bytes) : Prop :=
  fault.cannotOpen = true ∨ ∃ count ∈ fault.stops, count < content.length

def outcome (fault : ReadFault) (content : Bytes) : ReadOutcome :=
  if fault.cannotOpen then .cannotOpen
  else
    match fault.stops with
    | none => .opened content false
    | some count =>
        if count < content.length then .opened (content.take count) true
        else .opened content false

end ReadFault

namespace Operation

/-- A run on this database in which nothing but reading it may fail. -/
structure ReadsWith (operation : Operation) (path : String)
    (fault : ReadFault) : Prop where
  dbPath : operation.dbPath = path
  cannotOpen : operation.io.openRead path = fault.cannotOpen
  stops : operation.io.readStops path = fault.stops
  writes : WritesWork operation.io
  clock : operation.ClockValid

end Operation

/-- Every entry is still there and the CRL number is not smaller. -/
def Keeps (db : RevocationDb) (after : Result RevocationDb) : Prop :=
  ∃ db', after = .ok db' ∧ db.entries ⊆ db'.entries ∧
    db.crlNumber ≤ db'.crlNumber

/-- Every run on this file with this fault throws and leaves the file alone if
the fault hits, and otherwise loses nothing of a database the loader accepts. -/
def OnlyAbsentIsEmpty (path : String) (file : File) (fault : ReadFault) :
    Prop :=
  ∀ ssl, HexCodec ssl → ∀ operation : Operation,
    operation.ReadsWith path fault → ∀ files, files path = some file →
    ∀ outcome files', (operation.run ssl).exec files = (outcome, files') →
    (fault.Hits file.content →
      outcome ≠ .ok () ∧ files' path = files path) ∧
    ∀ db, loadRevocationDb path (.opened file.content false) = .ok db →
      (outcome ≠ .ok () ∧ files' path = files path) ∨
        Keeps db (heldDb files' path)

def PartRefused (path : String) (content : Bytes) (fault : ReadFault) : Prop :=
  ∀ db, loadRevocationDb path (fault.outcome content) ≠ .ok db

/-- No line of the database reads otherwise once it is written again, and the
next CRL number is not 0 unless no CRL can be issued. -/
structure Stable (db : RevocationDb) : Prop where
  legible : ∀ entry ∈ db.entries, entry.Legible
  counts : db.crlNumber + 1 = 0 →
    ∃ entry ∈ db.entries, ¬ KnownReason entry.reason

variable {ssl : OpenSsl} {path : String} {file : File} {fault : ReadFault}

namespace ReadFault

theorem outcome_of_not_hits {content : Bytes} (whole : ¬ fault.Hits content) :
    fault.outcome content = .opened content false := by
  unfold Hits at whole
  rw [not_or, Bool.not_eq_true] at whole
  unfold outcome
  rw [whole.1, if_neg Bool.false_ne_true]
  cases stop : fault.stops with
  | none => rfl
  | some count =>
      apply if_neg
      intro early
      exact whole.2 ⟨count, stop, early⟩

end ReadFault

theorem readDb_eq_outcome {operation : Operation} {files : FileSystem}
    (reads : operation.ReadsWith path fault) (present : files path = some file) :
    readDb operation.io files operation.dbPath =
      loadRevocationDb path (fault.outcome file.content) := by
  cases stops : fault.stops with
  | none =>
      simp only [readDb, openForReading, ReadFault.outcome, reads.dbPath,
        present, reads.cannotOpen, reads.stops, stops]
  | some count =>
      simp only [readDb, openForReading, ReadFault.outcome, reads.dbPath,
        present, reads.cannotOpen, reads.stops, stops]

/-- What a run has pending is read back as it is and keeps what it loaded. -/
theorem pending_keeps (codec : HexCodec ssl) {operation : Operation}
    (clock : operation.ClockValid) {files : FileSystem} {db : RevocationDb}
    (read : readDb operation.io files operation.dbPath = .ok db)
    (wellFormed : ∀ entry ∈ db.entries, entry.WellFormed) (stable : Stable db)
    {pending : Pending}
    (loaded : operation.load ssl files = .ok (some pending)) :
    loadRevocationDb path (.opened (dbText pending.db) false) =
        .ok pending.db ∧
      db.entries ⊆ pending.db.entries ∧
      db.crlNumber ≤ pending.db.crlNumber := by
  obtain ⟨other, read', settled⟩ := load_cases codec clock loaded
  cases read.symm.trans read'
  rcases settled with ⟨entry, entryWellFormed, entryLegible, _, rfl⟩ |
    ⟨args, publication, lists, rfl⟩
  · refine ⟨loadRevocationDb_dbText ?_ ?_ _, List.subset_append_left _ _,
      UInt64.le_refl _⟩
    · exact List.forall_mem_append.mpr
        ⟨wellFormed, List.forall_mem_singleton.mpr entryWellFormed⟩
    · exact List.forall_mem_append.mpr
        ⟨stable.legible, List.forall_mem_singleton.mpr entryLegible⟩
  · refine ⟨@loadRevocationDb_dbText db.next wellFormed stable.legible _,
      List.Subset.refl _, ?_⟩
    have noWrap : db.crlNumber + 1 ≠ 0 := by
      intro wraps
      obtain ⟨entry, member, unknown⟩ := stable.counts wraps
      obtain ⟨revoked, listed, _⟩ := lists.revoked
      obtain ⟨_, _, built⟩ := exists_of_mapM_ok listed member
      exact unknown (revokedFromEntry_known built)
    exact le_next_of_ne_zero noWrap

theorem onlyAbsentIsEmpty_of_stable
    (refused : fault.Hits file.content → PartRefused path file.content fault)
    (stable : ¬ fault.Hits file.content → ∀ db,
      loadRevocationDb path (.opened file.content false) = .ok db →
        Stable db) :
    OnlyAbsentIsEmpty path file fault := by
  intro ssl codec operation reads files present outcome files' ran
  rw [operation.run_exec] at ran
  have read := readDb_eq_outcome reads present
  cases loaded : operation.load ssl files with
  | error failure =>
      rw [loaded] at ran
      cases ran
      exact ⟨fun _ => ⟨by simp, rfl⟩, fun _ _ => Or.inl ⟨by simp, rfl⟩⟩
  | ok pending =>
      rw [loaded] at ran
      obtain ⟨db, readOk⟩ := readDb_of_load loaded
      have whole : ¬ fault.Hits file.content := fun hits =>
        refused hits db (read.symm.trans readOk)
      rw [ReadFault.outcome_of_not_hits whole] at read
      have accepted := read.symm.trans readOk
      refine ⟨fun hits => absurd hits whole, fun other held => ?_⟩
      cases accepted.symm.trans held
      right
      cases pending with
      | none =>
          cases ran
          refine ⟨db, ?_, List.Subset.refl _, UInt64.le_refl _⟩
          unfold heldDb
          rw [present]
          exact accepted
      | some pending =>
          have kept := @pending_keeps ssl path codec operation reads.clock files
            db readOk (loadRevocationDb_wellFormed accepted)
            (stable whole db accepted) pending loaded
          obtain ⟨files'', wrote⟩ := Pending.write_works reads.writes
            operation.dbPath pending files
          cases wrote.symm.trans ran
          rw [reads.dbPath] at wrote
          rw [heldDb_of_write reads.writes wrote]
          exact ⟨pending.db, kept⟩

def ReadFault.faults (fault : ReadFault) : IoFaults :=
  { IoFaults.none with
    openRead := fun _ => fault.cannotOpen
    readStops := fun _ => fault.stops }

theorem resolveDbPath_of_named {caCertPath : String}
    (named : path.isEmpty = false) : resolveDbPath path caCertPath = path := by
  unfold resolveDbPath
  rw [named, if_neg Bool.false_ne_true]

theorem sampleRevoke_readsWith (named : path.isEmpty = false)
    (fault : ReadFault) (serial : Int) :
    (sampleRevoke fault.faults serial path).ReadsWith path fault where
  dbPath := resolveDbPath_of_named named
  cannotOpen := rfl
  stops := rfl
  writes := ⟨fun _ => rfl, fun _ => rfl, fun _ => rfl, fun _ => rfl⟩
  clock := sample_time

theorem sampleCrlIssue_readsWith (named : path.isEmpty = false)
    (fault : ReadFault) (out : String) :
    (sampleCrlIssue fault.faults out path).ReadsWith path fault where
  dbPath := resolveDbPath_of_named named
  cannotOpen := rfl
  stops := rfl
  writes := ⟨fun _ => rfl, fun _ => rfl, fun _ => rfl, fun _ => rfl⟩
  clock := trivial

/-- A revocation on a database that is accepted as far as it can be read has
this pending. -/
theorem sampleRevoke_load (named : path.isEmpty = false) (serial : Int)
    {db : RevocationDb}
    (accepted : loadRevocationDb path (fault.outcome file.content) = .ok db) :
    (sampleRevoke fault.faults serial path).load sampleCaSsl
        (onlyFile path file) =
      .ok (revokePending (sampleCaHost serial)
        { caCertPath := "ca.crt", certPath := "cert.pem", dbPath := path }
        ((integerHexText serial).map toLower) db) := by
  have reads := sampleRevoke_readsWith named fault serial
  have read := readDb_eq_outcome reads (onlyFile_path path file)
  rw [reads.dbPath] at read
  apply load_revoke_eq_ok.mpr
  refine ⟨_, db, sample_revokedSerial serial path, ?_, rfl⟩
  rw [resolveDbPath_of_named named]
  exact read.trans accepted

/-- A serial number in lower case that these entries do not have. -/
theorem exists_new_serial (db : RevocationDb) :
    ∃ serial : Int, db.contains ((integerHexText serial).map toLower) =
      false := by
  have injective : Function.Injective fun serial : Int =>
      (integerHexText serial).map toLower := by
    intro first second same
    have numbers := congrArg integerOfHexText same
    simpa only [integerOfHexText_toLower, integerOfHexText_integerHexText]
      using numbers
  obtain ⟨_, ⟨serial, rfl⟩, new⟩ :=
    (Set.infinite_range_of_injective injective).exists_notMem_finset
      (db.entries.map (·.serialHex)).toFinset
  rw [List.mem_toFinset] at new
  refine ⟨serial, ?_⟩
  rw [← Bool.not_eq_true, RevocationDb.contains, List.any_eq_true]
  rintro ⟨entry, member, same⟩
  exact new (List.mem_map.mpr ⟨entry, member, by simpa using same⟩)

theorem partRefused_of_onlyAbsentIsEmpty (named : path.isEmpty = false)
    (law : OnlyAbsentIsEmpty path file fault)
    (hits : fault.Hits file.content) : PartRefused path file.content fault := by
  intro db accepted
  have reads := sampleRevoke_readsWith named fault 0
  have run := law sampleCaSsl sampleCaSsl_hexCodec _ reads (onlyFile path file)
    (onlyFile_path path file)
  rw [Operation.run_exec, sampleRevoke_load named 0 accepted] at run
  generalize revokePending _ _ _ db = pending at run
  cases pending with
  | none => exact ((run _ _ rfl).1 hits).1 rfl
  | some pending =>
      obtain ⟨files', wrote⟩ := Pending.write_works reads.writes
        (sampleRevoke fault.faults 0 path).dbPath pending (onlyFile path file)
      exact ((run _ _ wrote).1 hits).1 rfl

/-- A run that can be read and has something pending loses nothing. -/
theorem keeps_of_onlyAbsentIsEmpty (law : OnlyAbsentIsEmpty path file fault)
    {operation : Operation} (reads : operation.ReadsWith path fault)
    {pending : Pending}
    (loaded : operation.load sampleCaSsl (onlyFile path file) =
      .ok (some pending)) {db : RevocationDb}
    (accepted : loadRevocationDb path (.opened file.content false) = .ok db) :
    Keeps db (loadRevocationDb path (.opened (dbText pending.db) false)) := by
  have run := law sampleCaSsl sampleCaSsl_hexCodec operation reads
    (onlyFile path file) (onlyFile_path path file)
  obtain ⟨files', wrote⟩ := Pending.write_works reads.writes operation.dbPath
    pending (onlyFile path file)
  rw [Operation.run_exec, loaded] at run
  rcases (run _ _ wrote).2 db accepted with ⟨threw, _⟩ | kept
  · exact absurd rfl threw
  · rw [reads.dbPath] at wrote
    rwa [heldDb_of_write reads.writes wrote] at kept

theorem legible_of_onlyAbsentIsEmpty (named : path.isEmpty = false)
    (law : OnlyAbsentIsEmpty path file fault)
    (whole : ¬ fault.Hits file.content) {db : RevocationDb}
    (accepted : loadRevocationDb path (.opened file.content false) = .ok db) :
    ∀ entry ∈ db.entries, entry.Legible := by
  -- A revocation of a new serial number writes every entry anew.
  obtain ⟨serial, new⟩ := exists_new_serial db
  have read := accepted
  rw [← ReadFault.outcome_of_not_hits whole] at read
  have loaded := sampleRevoke_load named serial read
  rw [revokePending, new, if_neg Bool.false_ne_true] at loaded
  obtain ⟨db', again, kept, _⟩ := keeps_of_onlyAbsentIsEmpty law
    (sampleRevoke_readsWith named fault serial) loaded accepted
  have added := newEntry_wellFormed (sampleCaSsl_hexCodec.format serial)
    sample_time (show isValidReason "" = true from rfl)
  have entries := entries_of_loadRevocationDb_dbText
    (List.forall_mem_append.mpr ⟨loadRevocationDb_wellFormed accepted,
      List.forall_mem_singleton.mpr added.1⟩) again
  intro entry member
  have still := kept member
  rw [entries, List.mem_filter] at still
  simpa using still.2

theorem sampleCrlIssue_load (named : path.isEmpty = false) (out : String)
    (outNamed : out.isEmpty = false) {db : RevocationDb}
    (accepted : loadRevocationDb path (fault.outcome file.content) = .ok db)
    (known : ∀ entry ∈ db.entries, KnownReason entry.reason) :
    ∃ publication,
      (sampleCrlIssue fault.faults out path).load sampleCaSsl
        (onlyFile path file) = .ok (some ⟨db.next, some publication⟩) := by
  have reads := sampleCrlIssue_readsWith named fault out
  have read := readDb_eq_outcome reads (onlyFile_path path file)
  rw [reads.dbPath] at read
  apply crlIssue_loads sampleCaSsl_works
    (sample_loadCrlIssuer out path outNamed)
  · rw [resolveDbPath_of_named named]
    exact read.trans accepted
  · intro entry member
    obtain ⟨code, added⟩ := crlReasonExtension_of_known
      sampleCaSsl_works.calls (known entry member)
    exact ⟨⟨_, _, code⟩, (revokedFromEntry_eq_ok sampleCaSsl_works.calls).mpr
      ⟨rfl, rfl, rfl, added⟩⟩

theorem stable_of_onlyAbsentIsEmpty (named : path.isEmpty = false)
    (law : OnlyAbsentIsEmpty path file fault)
    (whole : ¬ fault.Hits file.content) {db : RevocationDb}
    (accepted : loadRevocationDb path (.opened file.content false) = .ok db) :
    Stable db := by
  have legible := legible_of_onlyAbsentIsEmpty named law whole accepted
  refine ⟨legible, fun wraps => ?_⟩
  by_contra allKnown
  push Not at allKnown
  have read := accepted
  rw [← ReadFault.outcome_of_not_hits whole] at read
  obtain ⟨publication, loaded⟩ := sampleCrlIssue_load named "crl.pem" rfl read
    allKnown
  obtain ⟨db', again, _, notLess⟩ := keeps_of_onlyAbsentIsEmpty law
    (sampleCrlIssue_readsWith named fault "crl.pem") loaded accepted
  have wellFormed := loadRevocationDb_wellFormed accepted
  have same := @loadRevocationDb_dbText db.next wellFormed legible path
  cases same.symm.trans again
  change db.crlNumber ≤ db.crlNumber + 1 at notLess
  rw [wraps, UInt64.le_zero_iff] at notLess
  rw [notLess] at wraps
  cases wraps

/-- Only an absent database counts as empty exactly when the loader refuses
what a fault lets it read and, without a fault, the database is stable. -/
theorem onlyAbsentIsEmpty_iff (path : String) (file : File) (fault : ReadFault)
    (named : path.isEmpty = false) :
    OnlyAbsentIsEmpty path file fault ↔
      (fault.Hits file.content → PartRefused path file.content fault) ∧
      (¬ fault.Hits file.content → ∀ db,
        loadRevocationDb path (.opened file.content false) = .ok db →
          Stable db) := by
  constructor
  · intro law
    exact ⟨partRefused_of_onlyAbsentIsEmpty named law,
      fun whole _ => stable_of_onlyAbsentIsEmpty named law whole⟩
  · rintro ⟨refused, stable⟩
    exact onlyAbsentIsEmpty_of_stable refused stable

theorem onlyAbsentIsEmpty_iff_sample :
    "revocations.txt".isEmpty = false ∧
      OnlyAbsentIsEmpty "revocations.txt" ⟨sampleDbText, 0o644⟩
        ⟨false, none⟩ := by
  have accepted : loadRevocationDb "revocations.txt"
      (.opened sampleDbText false) = .ok sampleDb := by
    decide +kernel
  refine ⟨by decide +kernel, (onlyAbsentIsEmpty_iff "revocations.txt"
    ⟨sampleDbText, 0o644⟩ ⟨false, none⟩ (by decide +kernel)).mpr ⟨?_, ?_⟩⟩
  · rintro (closed | ⟨_, stops, _⟩)
    · cases closed
    · cases stops
  · intro _ db same
    cases accepted.symm.trans same
    exact ⟨by decide +kernel, fun wraps => absurd wraps (by decide)⟩

/-- A database without read permission is replaced. -/
theorem not_onlyAbsentIsEmpty_unreadable :
    ¬ OnlyAbsentIsEmpty "revocations.txt" ⟨sampleDbText, 0o644⟩
      ⟨true, none⟩ := by
  intro law
  exact partRefused_of_onlyAbsentIsEmpty rfl law (Or.inl rfl) {} rfl

end TeeAnchor.Ca
