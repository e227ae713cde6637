import TeeAnchor.CrlContents
import TeeAnchor.ReadModifyWrite

/-!
# Runs of several processes at once

Nothing keeps two runs on one database apart: each reads the whole file,
changes it in memory and replaces it.  As long as no run replaces the database
by one that it read before another run replaced it, no revocation is lost and
no CRL number is given twice.
-/

namespace TeeAnchor.Ca

open ReadModifyWrite

variable {ι : Type} [DecidableEq ι]

/-- How a run ended, with what it wrote. -/
abbrev RunResult := Except Exception (Option Pending)

/-- Each process reads the database in the first phase of its run and writes
in the second. -/
def processes {ι : Type} (ssl : OpenSsl) (operations : ι → Operation) :
    ReadModifyWrite ι FileSystem Pending RunResult where
  read process files :=
    match (operations process).load ssl files with
    | .error failure => .inl (.error failure)
    | .ok none => .inl (.ok none)
    | .ok (some pending) => .inr pending
  write process pending files :=
    let written := (pending.write (operations process).io
      (operations process).dbPath).exec files
    (written.1.map fun _ => some pending, written.2)

abbrev Processes (ι : Type) := Config ι FileSystem Pending RunResult

def InDb (files : FileSystem) (path : String) (serialHex : Bytes) : Prop :=
  ∃ db, heldDb files path = .ok db ∧ db.contains serialHex = true

/-- A revocation that was completed at some point of the run is in the
database at its end, and no two CRLs have one number. -/
def NothingLost (ssl : OpenSsl) (path : String) (operations : ι → Operation)
    (files : FileSystem) (events : List (Event ι)) : Prop :=
  (∀ first second, first ++ second = events →
    ∀ process host io args serialHex pending,
      operations process = .revoke host io args →
      revokedSerial ssl host args = .ok serialHex →
      ((processes ssl operations).run (start files) first).phase process =
        .done (.ok pending) →
      InDb ((processes ssl operations).run (start files) events).state path
        serialHex) ∧
  ∀ process other, process ≠ other → ∀ db publication db' publication',
    ((processes ssl operations).run (start files) events).phase process =
      .done (.ok (some ⟨db, some publication⟩)) →
    ((processes ssl operations).run (start files) events).phase other =
      .done (.ok (some ⟨db', some publication'⟩)) →
    publication.crl.crlNumber ≠ publication'.crl.crlNumber

variable {ssl : OpenSsl} {path : String} {operations : ι → Operation}

/-- A process that is left alone between its read and its write is a run. -/
theorem read_write_alone {config : Processes ι} {process : ι}
    (idle : config.phase process = .idle) :
    ((processes ssl operations).run config
        [.read process, .write process]).state =
      (((operations process).run ssl).exec config.state).2 := by
  rw [Operation.run_exec]
  change ((processes ssl operations).step
    ((processes ssl operations).step config (.read process))
      (.write process)).state = _
  rw [step_read_idle idle]
  cases loaded : (operations process).load ssl config.state with
  | error failure =>
      have reads : (processes ssl operations).read process config.state =
          .inl (.error failure) := by
        simp only [processes, loaded]
      rw [reads, step_write_nothing]
      · rfl
      · intro held version holds
        simp only [afterRead, Function.update_self] at holds
        cases holds
  | ok found =>
      cases found with
      | none =>
          have reads : (processes ssl operations).read process config.state =
              .inl (.ok none) := by
            simp only [processes, loaded]
          rw [reads, step_write_nothing]
          · rfl
          · intro held version holds
            simp only [afterRead, Function.update_self] at holds
            cases holds
      | some pending =>
          have reads : (processes ssl operations).read process config.state =
              .inr pending := by
            simp only [processes, loaded]
          rw [reads, @step_write_holding _ _ _ _ _ _ _ process pending
            config.version (Function.update_self _ _ _)]
          rfl

/-- The database that is held, with the completed revocations in it and the
completed CRLs counted. -/
structure Consistent (ssl : OpenSsl) (path : String)
    (operations : ι → Operation) (first : UInt64) (config : Processes ι)
    (db : RevocationDb) (count : Nat) : Prop where
  held : heldDb config.state path = .ok db
  untagged : db.Untagged
  crlNumber : db.crlNumber = first + UInt64.ofNat count
  bounded : count ≤ config.version
  revoked : ∀ process host io args serialHex pending,
    operations process = .revoke host io args →
    revokedSerial ssl host args = .ok serialHex →
    config.phase process = .done (.ok pending) →
    db.contains serialHex = true
  counted : ∀ process db' publication,
    config.phase process = .done (.ok (some ⟨db', some publication⟩)) →
    ∃ number ≤ count, publication.crl.crlNumber =
      (first + UInt64.ofNat number).toInt64.toInt
  distinct : config.version < 2 ^ 64 →
    ∀ process other, process ≠ other → ∀ db' publication db'' publication',
      config.phase process = .done (.ok (some ⟨db', some publication⟩)) →
      config.phase other = .done (.ok (some ⟨db'', some publication'⟩)) →
      publication.crl.crlNumber ≠ publication'.crl.crlNumber

/-- The loader refuses the database, and no process has got past it. -/
def Refused (path : String) (config : Processes ι) : Prop :=
  (∃ failure, heldDb config.state path = .error failure) ∧
  ∀ process, config.phase process = .idle ∨
    ∃ failure, config.phase process = .done (.error failure)

theorem contains_filter_legible (codec : HexCodec ssl) {host : Host}
    {args : RevokeArgs} {serialHex : Bytes}
    (serial : revokedSerial ssl host args = .ok serialHex) {db : RevocationDb}
    (contains : db.contains serialHex = true) :
    RevocationDb.contains { db with
      entries := db.entries.filter (·.Legible) } serialHex = true := by
  obtain ⟨_, _, cert, _, _, _, printed⟩ := revokedSerial_eq_ok.mp serial
  obtain ⟨_, rfl⟩ := serialHexLower_eq_ok.mp printed
  unfold RevocationDb.contains at contains ⊢
  rw [List.any_eq_true] at contains ⊢
  obtain ⟨entry, member, same⟩ := contains
  have legible := legible_of_hexNumber (codec.format cert.serialNumber)
    (by simpa using same : entry.serialHex = _)
  exact ⟨entry, List.mem_filter.mpr ⟨member, by simpa using legible⟩, same⟩

theorem toInt64_toInt_injective :
    Function.Injective fun number : UInt64 => number.toInt64.toInt := by
  intro number other same
  exact UInt64.toBitVec_inj.mp (BitVec.eq_of_toInt_eq same)

/-- Numbers counted from the same start differ below the wrap. -/
theorem counted_ne (first : UInt64) {number other : Nat}
    (small : number < 2 ^ 64) (otherSmall : other < 2 ^ 64)
    (differ : number ≠ other) :
    (first + UInt64.ofNat number).toInt64.toInt ≠
      (first + UInt64.ofNat other).toInt64.toInt := by
  intro same
  have equal := toInt64_toInt_injective same
  rw [UInt64.add_right_inj] at equal
  have numbers := congrArg UInt64.toNat equal
  rw [UInt64.toNat_ofNat_of_lt' small, UInt64.toNat_ofNat_of_lt' otherSmall]
    at numbers
  exact differ numbers

omit [DecidableEq ι] in
theorem read_eq_done {process : ι} {files : FileSystem}
    {pending : Option Pending}
    (reads : (processes ssl operations).read process files =
      .inl (.ok pending)) :
    pending = none ∧ (operations process).load ssl files = .ok none := by
  simp only [processes] at reads
  split at reads
  · cases reads
  · rename_i loaded
    cases reads
    exact ⟨rfl, loaded⟩
  · cases reads

omit [DecidableEq ι] in
theorem read_eq_held {process : ι} {files : FileSystem} {held : Pending}
    (reads : (processes ssl operations).read process files = .inr held) :
    (operations process).load ssl files = .ok (some held) := by
  simp only [processes] at reads
  split at reads
  · cases reads
  · cases reads
  · rename_i loaded
    cases reads
    exact loaded

/-- After a read the process is done only if it had nothing to write. -/
theorem phase_after_read {config : Processes ι} {process other : ι}
    {pending : Option Pending}
    (done : Function.update config.phase process (afterRead config.version
      ((processes ssl operations).read process config.state)) other =
        .done (.ok pending)) :
    config.phase other = .done (.ok pending) ∨
      other = process ∧ pending = none ∧
        (operations process).load ssl config.state = .ok none := by
  by_cases same : other = process
  · subst same
    rw [Function.update_self] at done
    right
    cases reads : (processes ssl operations).read other config.state with
    | inl outcome =>
        rw [reads] at done
        cases done
        obtain ⟨isNone, loaded⟩ := read_eq_done reads
        exact ⟨rfl, isNone, loaded⟩
    | inr held =>
        rw [reads] at done
        cases done
  · rw [Function.update_of_ne same] at done
    exact Or.inl done

variable {first : UInt64} {config : Processes ι} {db : RevocationDb}
  {count : Nat} {process : ι}

theorem contains_of_load_none {host : Host} {io : IoFaults}
    {args : RevokeArgs} {files : FileSystem} {serialHex : Bytes}
    (loaded : (Operation.revoke host io args).load ssl files = .ok none)
    (serial : revokedSerial ssl host args = .ok serialHex)
    (read : readDb io files (resolveDbPath args.dbPath args.caCertPath) =
      .ok db) : db.contains serialHex = true := by
  obtain ⟨found, read', serial', readOk, nothing⟩ :=
    load_revoke_eq_ok.mp loaded
  cases serial.symm.trans serial'
  cases read.symm.trans readOk
  unfold revokePending at nothing
  split at nothing
  · assumption
  · cases nothing

theorem consistent_read (keeps : ∀ process, (operations process).KeepsDb path)
    (consistent : Consistent ssl path operations first config db count)
    (idle : config.phase process = .idle) :
    Consistent ssl path operations first
      ((processes ssl operations).step config (.read process)) db count := by
  rw [step_read_idle idle]
  have read : readDb (operations process).io config.state
      (operations process).dbPath = .ok db := by
    rw [(keeps process).dbPath, readDb_eq_heldDb (keeps process).opens
      (keeps process).reads, consistent.held]
  refine ⟨consistent.held, consistent.untagged, consistent.crlNumber,
    consistent.bounded, ?_, ?_, ?_⟩
  · intro other host io args serialHex pending isRevoke serial done
    rcases phase_after_read done with old | ⟨rfl, _, loaded⟩
    · exact consistent.revoked other host io args serialHex pending isRevoke
        serial old
    · rw [isRevoke] at loaded read
      exact contains_of_load_none loaded serial read
  · intro other db' publication done
    rcases phase_after_read done with old | ⟨_, nothing, _⟩
    · exact consistent.counted other db' publication old
    · cases nothing
  · intro small one other differ db' publication db'' publication' done done'
    rcases phase_after_read done with old | ⟨_, nothing, _⟩
    · rcases phase_after_read done' with old' | ⟨_, nothing, _⟩
      · exact consistent.distinct small one other differ _ _ _ _ old old'
      · cases nothing
    · cases nothing

/-- What holds of completed runs goes on to hold when a run ends. -/
theorem phase_after_write {phase : ι → Phase Pending RunResult}
    {result : RunResult} {other : ι} {pending : Option Pending}
    (done : Function.update phase process (.done result) other =
      .done (.ok pending)) :
    phase other = .done (.ok pending) ∨
      other = process ∧ result = .ok pending := by
  by_cases same : other = process
  · subst same
    rw [Function.update_self] at done
    cases done
    exact Or.inr ⟨rfl, rfl⟩
  · rw [Function.update_of_ne same] at done
    exact Or.inl done

theorem consistent_failed {files' : FileSystem} {failure : Exception}
    (consistent : Consistent ssl path operations first config db count)
    (same : files' path = config.state path) :
    Consistent ssl path operations first
      ⟨files', config.version + 1, Function.update config.phase process
        (.done (.error failure))⟩ db count := by
  have old : ∀ {other pending},
      Function.update config.phase process (.done (.error failure)) other =
        .done (.ok pending) → config.phase other = .done (.ok pending) := by
    intro other pending done
    rcases phase_after_write done with old | ⟨_, failed⟩
    · exact old
    · cases failed
  refine ⟨(heldDb_congr same).trans consistent.held, consistent.untagged,
    consistent.crlNumber, Nat.le_succ_of_le consistent.bounded, ?_, ?_, ?_⟩
  · intro other host io args serialHex pending isRevoke serial done
    exact consistent.revoked other host io args serialHex pending isRevoke
      serial (old done)
  · intro other db' publication done
    exact consistent.counted other db' publication (old done)
  · intro small one other differ db' publication db'' publication' done done'
    exact consistent.distinct (Nat.lt_of_succ_lt small) one other differ _ _ _ _
      (old done) (old done')

theorem contains_of_subset {db' : RevocationDb} {serialHex : Bytes}
    (subset : db.entries ⊆ db'.entries)
    (contains : db.contains serialHex = true) :
    db'.contains serialHex = true := by
  unfold RevocationDb.contains at contains ⊢
  rw [List.any_eq_true] at contains ⊢
  obtain ⟨entry, member, same⟩ := contains
  exact ⟨entry, subset member, same⟩

/-- What a revocation has pending contains its serial number. -/
theorem contains_of_load_some {host : Host} {io : IoFaults}
    {args : RevokeArgs} {files : FileSystem} {serialHex : Bytes}
    {pending : Pending}
    (loaded : (Operation.revoke host io args).load ssl files =
      .ok (some pending))
    (serial : revokedSerial ssl host args = .ok serialHex) :
    pending.db.contains serialHex = true := by
  obtain ⟨found, db, serial', _, appended⟩ := load_revoke_eq_ok.mp loaded
  cases serial.symm.trans serial'
  unfold revokePending at appended
  split at appended
  · cases appended
  · cases appended
    simp [RevocationDb.contains, RevocationDb.append]

/-- The completed revocations are in what is read back after a run wrote what
extends the database. -/
theorem revoked_after_write (codec : HexCodec ssl)
    (consistent : Consistent ssl path operations first config db count)
    {pending : Pending} (kept : db.entries ⊆ pending.db.entries)
    (loaded : (operations process).load ssl config.state = .ok (some pending))
    {other : ι} {host : Host} {io : IoFaults} {args : RevokeArgs}
    {serialHex : Bytes} {result : Option Pending}
    (isRevoke : operations other = .revoke host io args)
    (serial : revokedSerial ssl host args = .ok serialHex)
    (done : Function.update config.phase process (.done (.ok (some pending)))
      other = .done (.ok result)) :
    RevocationDb.contains { pending.db with
      entries := pending.db.entries.filter (·.Legible) } serialHex = true := by
  apply contains_filter_legible codec serial
  rcases phase_after_write done with old | ⟨rfl, _⟩
  · exact contains_of_subset kept (consistent.revoked other host io args
      serialHex result isRevoke serial old)
  · rw [isRevoke] at loaded
    exact contains_of_load_some loaded serial

section

variable {pending : Pending} {files' : FileSystem}

theorem consistent_revoked (codec : HexCodec ssl)
    (consistent : Consistent ssl path operations first config db count)
    (loaded : (operations process).load ssl config.state = .ok (some pending))
    (kept : db.entries ⊆ pending.db.entries)
    (untagged : pending.db.Untagged)
    (held : heldDb files' path = .ok { pending.db with
      entries := pending.db.entries.filter (·.Legible) })
    (sameNumber : pending.db.crlNumber = db.crlNumber)
    (noPublication : pending.publication = none) :
    Consistent ssl path operations first
      ⟨files', config.version + 1, Function.update config.phase process
        (.done (.ok (some pending)))⟩
      { pending.db with entries := pending.db.entries.filter (·.Legible) }
      count := by
  have old : ∀ {other db' publication},
      Function.update config.phase process (.done (.ok (some pending)))
        other = .done (.ok (some ⟨db', some publication⟩)) →
      config.phase other = .done (.ok (some ⟨db', some publication⟩)) := by
    intro other db' publication done
    rcases phase_after_write done with old | ⟨_, same⟩
    · exact old
    · cases same
      cases noPublication
  refine ⟨held, untagged_filter untagged,
    sameNumber.trans consistent.crlNumber,
    Nat.le_succ_of_le consistent.bounded, ?_, ?_, ?_⟩
  · intro other host io args serialHex result isRevoke serial done
    exact revoked_after_write codec consistent kept loaded isRevoke serial done
  · intro other db' publication done
    exact consistent.counted other db' publication (old done)
  · intro small one other differ db' publication db'' publication' done done'
    exact consistent.distinct (Nat.lt_of_succ_lt small) one other differ _ _ _ _
      (old done) (old done')

/-- A run that wrote a CRL has counted it: it has the next number, and those
before it have smaller ones. -/
theorem consistent_issued (codec : HexCodec ssl)
    (consistent : Consistent ssl path operations first config db count)
    (loaded : (operations process).load ssl config.state = .ok (some pending))
    (kept : db.entries ⊆ pending.db.entries)
    (untagged : pending.db.Untagged)
    (held : heldDb files' path = .ok { pending.db with
      entries := pending.db.entries.filter (·.Legible) })
    (nextNumber : pending.db.crlNumber = db.crlNumber + 1)
    {published : Publication}
    (isPublished : pending.publication = some published)
    (number : published.crl.crlNumber =
      (db.crlNumber + 1).toInt64.toInt) :
    Consistent ssl path operations first
      ⟨files', config.version + 1, Function.update config.phase process
        (.done (.ok (some pending)))⟩
      { pending.db with entries := pending.db.entries.filter (·.Legible) }
      (count + 1) := by
  have next : db.crlNumber + 1 = first + UInt64.ofNat (count + 1) := by
    rw [consistent.crlNumber, UInt64.ofNat_add, UInt64.add_assoc]
    rfl
  rw [next] at number
  have bounded := consistent.bounded
  have differs : config.version + 1 < 2 ^ 64 → ∀ other db' publication,
      config.phase other = .done (.ok (some ⟨db', some publication⟩)) →
      publication.crl.crlNumber ≠ published.crl.crlNumber := by
    intro small other db' publication old
    obtain ⟨earlier, atMost, counted⟩ :=
      consistent.counted other db' publication old
    rw [counted, number]
    exact counted_ne first (by omega) (by omega) (by omega)
  refine ⟨held, untagged_filter untagged, nextNumber.trans next,
    Nat.succ_le_succ bounded, ?_, ?_, ?_⟩
  · intro other host io args serialHex result isRevoke serial done
    exact revoked_after_write codec consistent kept loaded isRevoke serial done
  · intro other db' publication done
    rcases phase_after_write done with old | ⟨_, same⟩
    · obtain ⟨earlier, atMost, counted⟩ :=
        consistent.counted other db' publication old
      exact ⟨earlier, Nat.le_succ_of_le atMost, counted⟩
    · cases same
      cases isPublished
      exact ⟨count + 1, le_rfl, number⟩
  · intro small one other differ db' publication db'' publication' done done'
    change config.version + 1 < 2 ^ 64 at small
    rcases phase_after_write done with old | ⟨rfl, same⟩
    · rcases phase_after_write done' with old' | ⟨_, same'⟩
      · exact consistent.distinct (by omega) one other differ _ _ _ _ old old'
      · cases same'
        cases isPublished
        exact differs small one db' publication old
    · cases same
      cases isPublished
      rcases phase_after_write done' with old' | ⟨rfl, _⟩
      · exact (differs small other db'' publication' old').symm
      · exact absurd rfl differ

/-- A run that writes what it would read at that time leaves everything
consistent. -/
theorem consistent_written (codec : HexCodec ssl)
    (keeps : (operations process).KeepsDb path)
    (consistent : Consistent ssl path operations first config db count)
    (loaded : (operations process).load ssl config.state = .ok (some pending))
    (wrote : (pending.write (operations process).io path).exec config.state =
      (.ok (), files')) :
    ∃ db' count', Consistent ssl path operations first
      ⟨files', config.version + 1, Function.update config.phase process
        (.done (.ok (some pending)))⟩ db' count' := by
  have read : readDb (operations process).io config.state
      (operations process).dbPath = .ok db := by
    rw [keeps.dbPath, readDb_eq_heldDb keeps.opens keeps.reads,
      consistent.held]
  have extend := pending_extends codec keeps.clock read
    (heldDb_wellFormed consistent.held) consistent.untagged loaded
  have held := heldDb_of_saved keeps.writes extend.wellFormed extend.untagged
    wrote
  rcases extend.crlNumber with ⟨sameNumber, noPublication⟩ |
    ⟨nextNumber, published, isPublished, number⟩
  · exact ⟨_, count, consistent_revoked codec consistent loaded extend.entries
      extend.untagged held sameNumber noPublication⟩
  · exact ⟨_, count + 1, consistent_issued codec consistent loaded
      extend.entries extend.untagged held nextNumber isPublished number⟩

end

/-- The database is refused or consistent. -/
def Settled (ssl : OpenSsl) (path : String) (operations : ι → Operation)
    (config : Processes ι) : Prop :=
  Refused path config ∨
    ∃ first db count, Consistent ssl path operations first config db count

theorem refused_read (keeps : ∀ process, (operations process).KeepsDb path)
    (refused : Refused path config) (idle : config.phase process = .idle) :
    Refused path ((processes ssl operations).step config (.read process)) := by
  obtain ⟨⟨failure, held⟩, stopped⟩ := refused
  have reads : ∃ failure, (processes ssl operations).read process config.state =
      .inl (.error failure) := by
    cases loaded : (operations process).load ssl config.state with
    | error failed => exact ⟨failed, by simp only [processes, loaded]⟩
    | ok pending =>
        obtain ⟨db, read⟩ := readDb_of_load loaded
        rw [(keeps process).dbPath, readDb_eq_heldDb (keeps process).opens
          (keeps process).reads, held] at read
        cases read
  obtain ⟨failed, reads⟩ := reads
  rw [step_read_idle idle, reads]
  refine ⟨⟨failure, held⟩, fun other => ?_⟩
  by_cases same : other = process
  · subst same
    exact Or.inr ⟨failed, Function.update_self _ _ _⟩
  · simpa only [Function.update_of_ne same] using stopped other

omit [DecidableEq ι] in
theorem settled_start {files : FileSystem}
    (untagged : ∀ db, heldDb files path = .ok db → db.Untagged) :
    Settled ssl path operations (start files) := by
  cases held : heldDb files path with
  | error failure =>
      exact Or.inl ⟨⟨failure, held⟩, fun _ => Or.inl rfl⟩
  | ok db =>
      refine Or.inr ⟨db.crlNumber, db, 0, held, untagged db held, ?_,
        Nat.zero_le _, ?_, ?_, ?_⟩
      · change db.crlNumber = db.crlNumber + 0
        rw [UInt64.add_zero]
      · rintro _ _ _ _ _ _ _ _ done
        cases done
      · rintro _ _ _ done
        cases done
      · rintro _ _ _ _ _ _ _ _ done
        cases done

theorem settled_read (keeps : ∀ process, (operations process).KeepsDb path)
    (settled : Settled ssl path operations config)
    (idle : config.phase process = .idle) :
    Settled ssl path operations
      ((processes ssl operations).step config (.read process)) := by
  rcases settled with refused | ⟨first, db, count, consistent⟩
  · exact Or.inl (refused_read keeps refused idle)
  · exact Or.inr ⟨first, db, count, consistent_read keeps consistent idle⟩

theorem settled_write (codec : HexCodec ssl)
    (keeps : ∀ process, (operations process).KeepsDb path)
    (apart : ∀ process, ∀ out ∈ (operations process).outPath, out ≠ path)
    (settled : Settled ssl path operations config) {pending : Pending}
    {version : Nat} (holding : config.phase process = .holding pending version)
    (loaded : (operations process).load ssl config.state =
      .ok (some pending)) :
    Settled ssl path operations
      ((processes ssl operations).step config (.write process)) := by
  rcases settled with refused | ⟨first, db, count, consistent⟩
  · rcases refused.2 process with idle | ⟨_, done⟩
    · cases holding.symm.trans idle
    · cases holding.symm.trans done
  · right
    rw [step_write_holding holding]
    change ∃ first db count, Consistent ssl path operations first
      ⟨((pending.write (operations process).io
        (operations process).dbPath).exec config.state).2, _,
        Function.update _ _ (.done (((pending.write (operations process).io
          (operations process).dbPath).exec config.state).1.map _))⟩ db count
    rw [(keeps process).dbPath]
    cases wrote : (pending.write (operations process).io path).exec
        config.state with
    | mk outcome files' =>
        cases outcome with
        | error failure =>
            have same := Pending.write_error wrote (by
              rintro publication published
              obtain ⟨db, _⟩ := pending
              cases published
              exact apart process _ (load_outPath loaded))
            exact ⟨first, db, count, consistent_failed consistent same⟩
        | ok done =>
            exact ⟨first, consistent_written codec (keeps process) consistent
              loaded wrote⟩

/-- Without stale writes the database stays refused or consistent. -/
theorem settled_of_noStaleWrite (codec : HexCodec ssl)
    (keeps : ∀ process, (operations process).KeepsDb path)
    (apart : ∀ process, ∀ out ∈ (operations process).outPath, out ≠ path)
    {files : FileSystem}
    (untagged : ∀ db, heldDb files path = .ok db → db.Untagged)
    {events : List (Event ι)}
    (fresh : (processes ssl operations).NoStaleWrite (start files) events) :
    Settled ssl path operations
      ((processes ssl operations).run (start files) events) := by
  apply invariant_of_noStaleWrite _ _ (start_current files)
    (settled_start untagged) fresh
  · intro config process settled idle
    exact settled_read keeps settled idle
  · intro config process pending version settled holding reads
    exact settled_write codec keeps apart settled holding (read_eq_held reads)

/-- If no process saves a database that it loaded before another process saved
one, no revocation is lost and no CRL number is given twice. -/
theorem nothingLost_of_noStaleWrite (codec : HexCodec ssl)
    (keeps : ∀ process, (operations process).KeepsDb path)
    (apart : ∀ process, ∀ out ∈ (operations process).outPath, out ≠ path)
    {files : FileSystem}
    (untagged : ∀ db, heldDb files path = .ok db → db.Untagged)
    {events : List (Event ι)} (few : events.length < 2 ^ 64)
    (fresh : (processes ssl operations).NoStaleWrite (start files) events) :
    NothingLost ssl path operations files events := by
  have settled := settled_of_noStaleWrite codec keeps apart untagged fresh
  constructor
  · rintro first second rfl process host io args serialHex pending isRevoke
      serial done
    have stillDone := @run_done _ _ _ _ _ (processes ssl operations) _ process
      _ second done
    rw [← run_append] at stillDone
    rcases settled with ⟨_, stopped⟩ | ⟨_, db, _, consistent⟩
    · rcases stopped process with idle | ⟨_, failed⟩
      · cases stillDone.symm.trans idle
      · cases stillDone.symm.trans failed
    · exact ⟨db, consistent.held, consistent.revoked process host io args
        serialHex pending isRevoke serial stillDone⟩
  · intro process other differ db publication db' publication' done done'
    rcases settled with ⟨_, stopped⟩ | ⟨_, held, _, consistent⟩
    · rcases stopped process with idle | ⟨_, failed⟩
      · cases done.symm.trans idle
      · cases done.symm.trans failed
    · have versions := @version_run_le _ _ _ _ _ (processes ssl operations)
        (start files) events
      change _ ≤ 0 + events.length at versions
      exact consistent.distinct (by omega) process other differ db publication
        db' publication' done done'

def sampleRevokes (process : Nat) : Operation :=
  sampleRevoke IoFaults.none (if process = 0 then 11 else 12) "db.txt"

def sampleCrlIssues (_ : Nat) : Operation :=
  sampleCrlIssue IoFaults.none "crl.pem" "db.txt"

def sampleState : FileSystem :=
  onlyFile "db.txt" ⟨sampleDbText, 0o644⟩

theorem nothingLost_of_noStaleWrite_sample :
    [Event.read 0, .write 0, .read 1, .write 1].length < 2 ^ 64 ∧
      NothingLost sampleCaSsl "db.txt" sampleRevokes sampleState
        [.read 0, .write 0, .read 1, .write 1] := by
  have held : heldDb sampleState "db.txt" = .ok sampleDb := by
    decide +kernel
  have keeps : ∀ process, (sampleRevokes process).KeepsDb "db.txt" :=
    fun _ => sampleRevoke_keepsDb _
  refine ⟨by decide, nothingLost_of_noStaleWrite sampleCaSsl_hexCodec keeps
    ?_ ?_ (by decide) ?_⟩
  · rintro process out same
    cases same
  · intro db found
    cases held.symm.trans found
    unfold RevocationDb.Untagged
    decide +kernel
  · exact @noStaleWrite_inTurn _ _ _ _ _ _ (start sampleState) [0, 1]
      (by decide) fun _ _ => rfl

/-- The process has completed its run. -/
def isCompleted : Phase Pending RunResult → Bool
  | .done (.ok _) => true
  | _ => false

def completedNumber : Phase Pending RunResult → Option Int
  | .done (.ok (some ⟨_, some publication⟩)) => some publication.crl.crlNumber
  | _ => none

theorem eq_done_of_isCompleted {phase : Phase Pending RunResult}
    (completed : isCompleted phase = true) :
    ∃ pending, phase = .done (.ok pending) := by
  unfold isCompleted at completed
  split at completed
  · exact ⟨_, rfl⟩
  · cases completed

theorem eq_done_of_completedNumber {phase : Phase Pending RunResult}
    {number : Int} (completed : completedNumber phase = some number) :
    ∃ db publication, phase = .done (.ok (some ⟨db, some publication⟩)) ∧
      publication.crl.crlNumber = number := by
  unfold completedNumber at completed
  split at completed
  · exact ⟨_, _, rfl, Option.some.inj completed⟩
  · cases completed

/-- When both processes load before either saves, the second save drops the
first revocation, and two CRLs have the number 8. -/
theorem not_nothingLost_interleaved :
    ¬ NothingLost sampleCaSsl "db.txt" sampleRevokes sampleState
        [.read 0, .read 1, .write 0, .write 1] ∧
      ¬ NothingLost sampleCaSsl "db.txt" sampleCrlIssues sampleState
        [.read 0, .read 1, .write 0, .write 1] := by
  constructor
  · rintro ⟨kept, _⟩
    have completed : isCompleted (((processes sampleCaSsl sampleRevokes).run
        (start sampleState) [.read 0, .read 1, .write 0, .write 1]).phase 0) =
          true := by
      decide +kernel
    obtain ⟨pending, done⟩ := eq_done_of_isCompleted completed
    obtain ⟨db, held, contains⟩ := kept _ [] (List.append_nil _) 0 _ _ _ _ _
      rfl (sample_revokedSerial 11 "db.txt") done
    have lost : (heldDb ((processes sampleCaSsl sampleRevokes).run
        (start sampleState) [.read 0, .read 1, .write 0, .write 1]).state
          "db.txt").toOption.map (fun db =>
            db.contains ((integerHexText 11).map toLower)) = some false := by
      decide +kernel
    rw [held] at lost
    cases contains.symm.trans (Option.some.inj lost)
  · rintro ⟨_, distinct⟩
    have numbers : ∀ process ∈ [0, 1], completedNumber
        (((processes sampleCaSsl sampleCrlIssues).run (start sampleState)
          [.read 0, .read 1, .write 0, .write 1]).phase process) = some 8 := by
      decide +kernel
    obtain ⟨db, publication, done, number⟩ :=
      eq_done_of_completedNumber (numbers 0 (by simp))
    obtain ⟨db', publication', done', number'⟩ :=
      eq_done_of_completedNumber (numbers 1 (by simp))
    exact distinct 0 1 (by decide) db publication db' publication' done done'
      (number.trans number'.symm)

end TeeAnchor.Ca
