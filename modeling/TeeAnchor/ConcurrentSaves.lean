import TeeAnchor.AtomicRenames
import TeeAnchor.ConcurrentRuns
import Mathlib.Data.UInt

/-!
# Runs of several processes, call by call

The runs that share a database are taken apart here: each opens the database,
reads it a piece at a time, opens the temporary file, writes that a piece at a
time, closes it and renames it, and may be killed at any time.  The calls of the
runs come in any order.

All processes use one temporary file.  If none opens it while another is
between opening and renaming it, the database is whole at every time, and what
is known of runs that load and save in one step holds of these.
-/

namespace TeeAnchor.Ca

open FileProcesses

variable {ι : Type}

/-- The files with nothing but a database of this content. -/
def dbOnly (path : String) (content : Option Bytes) : FileSystem :=
  Function.update (fun _ => none) path (content.map fun text => ⟨text, 0o644⟩)

/-- The steps of the second phase of a run.  A CRL is written before the
temporary file is opened. -/
def Pending.saveStep (io : IoFaults) (path : String) (pending : Pending) :
    SaveStep → Run Unit
  | .create => do
      match pending.publication with
      | none => pure ()
      | some publication => publication.write io
      openForWriting io (tmpPath path)
  | .write => writeStream io (tmpPath path) (dbText pending.db)
  | .rename => rename io (tmpPath path) path

/-- What a step throws, whatever the files are. -/
def failureOf (step : Run Unit) : Option Exception :=
  match (step.exec fun _ => none).1 with
  | .ok _ => none
  | .error thrown => some thrown

/-- The runs of these operations on the database, call by call. -/
def callByCall (ssl : OpenSsl) (path : String) (operations : ι → Operation) :
    FileProcesses ι UInt8 Pending RunResult where
  settle process content :=
    (processes ssl operations).read process (dbOnly path content)
  text process pending :=
    ((operations process).io.write (tmpPath path)).written (dbText pending.db)
  fails process pending step :=
    (failureOf (pending.saveStep (operations process).io path step)).map .error
  finished _ pending := .ok (some pending)
  missing _ _ := .error (.teeAnchorError
    ("rename failed: " ++ tmpPath path ++ " -> " ++ path))

/-- The second phase of a run is these steps. -/
theorem Pending.write_eq_steps (io : IoFaults) (path : String)
    (pending : Pending) :
    pending.write io path = (pending.saveStep io path .create >>= fun _ =>
      pending.saveStep io path .write >>= fun _ =>
        pending.saveStep io path .rename) := by
  unfold Pending.write Pending.saveStep
  cases pending.publication with
  | none => rfl
  | some publication =>
      simp only [bind_assoc]
      rfl

/-- What the step throws does not depend on the files. -/
def Uniform (step : Run Unit) : Prop :=
  ∀ files, (step.exec files).1 = (failureOf step).elim (.ok ()) .error

theorem uniform_of_outcome {step : Run Unit}
    {outcome : Except Exception Unit}
    (same : ∀ files, (step.exec files).1 = outcome) : Uniform step := by
  intro files
  unfold failureOf
  rw [same, same]
  cases outcome <;> rfl

theorem failureOf_eq {step : Run Unit} {thrown : Option Exception}
    (outcome : (step.exec fun _ => none).1 = thrown.elim (.ok ()) .error) :
    failureOf step = thrown := by
  unfold failureOf
  rw [outcome]
  cases thrown <;> rfl

/-- Of two steps the first that throws decides. -/
theorem Uniform.exec_bind {first second : Run Unit} (ofFirst : Uniform first)
    (ofSecond : Uniform second) (files : FileSystem) :
    ((first >>= fun _ => second).exec files).1 =
      (failureOf first <|> failureOf second).elim (.ok ()) .error := by
  have outcome := ofFirst files
  rw [Run.exec_bind]
  rcases ended : first.exec files with ⟨result, files'⟩
  rw [ended] at outcome
  cases thrown : failureOf first with
  | none =>
      rw [thrown] at outcome
      obtain rfl : result = .ok () := outcome
      exact ofSecond files'
  | some failure =>
      rw [thrown] at outcome
      obtain rfl : result = .error failure := outcome
      rfl

theorem failureOf_bind {first second : Run Unit} (ofFirst : Uniform first)
    (ofSecond : Uniform second) :
    failureOf (first >>= fun _ => second) =
      (failureOf first <|> failureOf second) :=
  failureOf_eq (ofFirst.exec_bind ofSecond _)

theorem Uniform.bind {first second : Run Unit} (ofFirst : Uniform first)
    (ofSecond : Uniform second) : Uniform (first >>= fun _ => second) := by
  intro files
  rw [failureOf_bind ofFirst ofSecond]
  exact ofFirst.exec_bind ofSecond files

section

variable (io : IoFaults) (path : String)

theorem openForWriting_outcome (files : FileSystem) :
    ((openForWriting io path).exec files).1 =
      if io.openWrite path then
        .error (.teeAnchorError ("cannot open for writing: " ++ path))
      else .ok () := by
  rw [openForWriting_exec, apply_ite Prod.fst]

theorem writeFile_outcome (data : Bytes) (mode : Nat) (files : FileSystem) :
    ((writeFile io path data mode).exec files).1 =
      if io.openWrite path then
        .error (.teeAnchorError ("cannot open for writing: " ++ path))
      else if (io.write path).failsVisibly data then
        .error (.teeAnchorError ("write failed: " ++ path))
      else if io.chmod path then
        .error (.teeAnchorError ("chmod failed: " ++ path))
      else .ok () := by
  rw [writeFile_exec, apply_ite Prod.fst, apply_ite Prod.fst,
    apply_ite Prod.fst]

theorem writeStream_outcome (data : Bytes) (files : FileSystem) :
    ((writeStream io path data).exec files).1 =
      if (io.write path).failsVisibly data then
        .error (.teeAnchorError ("write failed: " ++ path)) else .ok () := by
  unfold writeStream
  rw [Run.exec_bind, Run.exec_modify]
  by_cases fails : (io.write path).failsVisibly data
  · simp only [fails, if_true]
    rfl
  · simp only [fails]
    rfl

theorem rename_outcome (target : String) (files : FileSystem) :
    ((rename io path target).exec files).1 =
      if io.rename path then
        .error (.teeAnchorError
          ("rename failed: " ++ path ++ " -> " ++ target)) else .ok () := by
  unfold rename
  by_cases fails : io.rename path
  · simp only [fails, if_true]
    rfl
  · simp only [fails]
    rfl

theorem uniform_saveStep (pending : Pending) (step : SaveStep) :
    Uniform (pending.saveStep io path step) := by
  cases step with
  | create =>
      unfold Pending.saveStep
      cases pending.publication with
      | none =>
          exact uniform_of_outcome (openForWriting_outcome io (tmpPath path))
      | some publication =>
          exact (uniform_of_outcome (writeFile_outcome io publication.outPath
            publication.pem 0o644)).bind
              (uniform_of_outcome (openForWriting_outcome io (tmpPath path)))
  | write =>
      exact uniform_of_outcome (writeStream_outcome io (tmpPath path) _)
  | rename => exact uniform_of_outcome (rename_outcome io (tmpPath path) _)

/-- The second phase of a run throws what the first of its steps throws. -/
theorem Pending.write_outcome (pending : Pending) (files : FileSystem) :
    ((pending.write io path).exec files).1 =
      (failureOf (pending.saveStep io path .create) <|>
        failureOf (pending.saveStep io path .write) <|>
          failureOf (pending.saveStep io path .rename)).elim
        (.ok ()) .error := by
  have uniform := uniform_saveStep io path pending
  rw [Pending.write_eq_steps, (uniform .create).exec_bind
    ((uniform .write).bind (uniform .rename)),
    failureOf_bind (uniform .write) (uniform .rename)]

end

variable {ssl : OpenSsl} {path : String} {operations : ι → Operation}

theorem callByCall_failure (process : ι) (pending : Pending) :
    (callByCall ssl path operations).failure process pending =
      (failureOf (pending.saveStep (operations process).io path .create) <|>
        failureOf (pending.saveStep (operations process).io path .write) <|>
          failureOf (pending.saveStep (operations process).io path
            .rename)).map .error := by
  unfold FileProcesses.failure
  change (Option.map _ _ <|> Option.map _ _ <|> Option.map _ _) = _
  cases failureOf (pending.saveStep (operations process).io path .create) with
  | some thrown => rfl
  | none =>
      cases failureOf
          (pending.saveStep (operations process).io path .write) with
      | some thrown => rfl
      | none => rfl

theorem openForReading_congr {io : IoFaults} {files files' : FileSystem}
    (same : (files path).map File.content = (files' path).map File.content) :
    openForReading io files path = openForReading io files' path := by
  unfold openForReading
  cases present : files path with
  | none =>
      rw [present, Option.map_none, eq_comm, Option.map_eq_none_iff] at same
      rw [same]
  | some file =>
      rw [present, Option.map_some, eq_comm, Option.map_eq_some_iff] at same
      obtain ⟨file', present', sameContent⟩ := same
      simp only [present', sameContent]

@[simp]
theorem dbOnly_path (content : Option Bytes) :
    (dbOnly path content path).map File.content = content := by
  unfold dbOnly
  rw [Function.update_self]
  cases content <;> rfl

/-- The first phase of a run reads the content of the database only. -/
theorem load_congr {operation : Operation} (dbPath : operation.dbPath = path)
    {files files' : FileSystem}
    (same : (files path).map File.content = (files' path).map File.content) :
    operation.load ssl files = operation.load ssl files' := by
  cases operation with
  | revoke host io args =>
      change resolveDbPath args.dbPath args.caCertPath = path at dbPath
      simp only [Operation.load, readDb, dbPath, openForReading_congr same]
  | crlIssue host io args =>
      change resolveDbPath args.dbPath args.caCertPath = path at dbPath
      simp only [Operation.load, readDb, dbPath, openForReading_congr same]

def dbContent (path : String) (files : FileSystem) : Option Bytes :=
  (files path).map File.content

/-- The runs that load and save in one step see and change the content of the
database as those whose steps are counted together do. -/
theorem seesPart_callByCall
    (dbPath : ∀ process, (operations process).dbPath = path)
    (apart : ∀ process, ∀ out ∈ (operations process).outPath, out ≠ path) :
    ReadModifyWrite.SeesPart (processes ssl operations)
      (callByCall ssl path operations).atomic (dbContent path) where
  read process files := by
    have same := @load_congr ssl path _ (dbPath process) files
      (dbOnly path (dbContent path files)) (dbOnly_path _).symm
    change (processes ssl operations).read process files =
      (processes ssl operations).read process
        (dbOnly path (dbContent path files))
    simp only [processes, same]
  write process pending wasRead files := by
    obtain ⟨before, reads⟩ := wasRead
    have loaded := read_eq_held reads
    have outcome := Pending.write_outcome (operations process).io path pending
      files
    change ((((pending.write (operations process).io
        (operations process).dbPath).exec files).1.map fun _ => some pending) =
          _) ∧ dbContent path ((pending.write (operations process).io
            (operations process).dbPath).exec files).2 = _
    simp only [FileProcesses.atomic, callByCall_failure, dbPath process]
    rcases wrote : (pending.write (operations process).io path).exec files with
      ⟨result, files'⟩
    rw [wrote] at outcome
    cases thrown : (failureOf (pending.saveStep (operations process).io path
        .create) <|> failureOf (pending.saveStep (operations process).io path
          .write) <|> failureOf (pending.saveStep (operations process).io path
            .rename)) with
    | none =>
        rw [thrown] at outcome
        obtain rfl : result = .ok () := outcome
        obtain ⟨_, mode, written⟩ := Pending.write_ok wrote
        exact ⟨rfl, congrArg (Option.map File.content) written⟩
    | some failure =>
        rw [thrown] at outcome
        obtain rfl : result = .error failure := outcome
        have same := Pending.write_error wrote (by
          rintro publication published
          obtain ⟨db, _⟩ := pending
          cases published
          exact apart process _ (load_outPath loaded))
        exact ⟨rfl, congrArg (Option.map File.content) same⟩

variable [DecidableEq ι]

/-- A revocation that was completed at some point of the run is in the
database at its end, and no two completed CRLs have one number. -/
def NothingLostCallByCall (ssl : OpenSsl) (path : String)
    (operations : ι → Operation) (disk : Disk UInt8)
    (events : List (FileProcesses.Event ι)) : Prop :=
  (∀ first second, first ++ second = events →
    ∀ process host io args serialHex pending,
      operations process = .revoke host io args →
      revokedSerial ssl host args = .ok serialHex →
      ((callByCall ssl path operations).run (start disk) first).phase process =
        .done (.ok pending) →
      InDb (dbOnly path ((callByCall ssl path operations).run (start disk)
        events).disk.shown) path serialHex) ∧
  ∀ process other, process ≠ other → ∀ db publication db' publication',
    ((callByCall ssl path operations).run (start disk) events).phase process =
      .done (.ok (some ⟨db, some publication⟩)) →
    ((callByCall ssl path operations).run (start disk) events).phase other =
      .done (.ok (some ⟨db', some publication'⟩)) →
    publication.crl.crlNumber ≠ publication'.crl.crlNumber

omit [DecidableEq ι] in
/-- A run that has completed is complete when its steps are counted
together. -/
theorem done_of_represents
    {config : FileProcesses.Config ι UInt8 Pending RunResult}
    {atomic : ReadModifyWrite.Config ι (Option Bytes) Pending RunResult}
    (represents : (callByCall ssl path operations).Represents config atomic)
    {process : ι} {pending : Option Pending}
    (done : config.phase process = .done (.ok pending)) :
    atomic.phase process = .done (.ok pending) := by
  rcases represents.of_phase done with done | ⟨held, step, fails⟩
  · exact done
  · obtain ⟨failure, _, failed⟩ := Option.map_eq_some_iff.mp fails
    cases failed

omit [DecidableEq ι] in
theorem heldDb_dbOnly (files : FileSystem) :
    heldDb (dbOnly path (dbContent path files)) path = heldDb files path := by
  unfold heldDb dbOnly dbContent
  rw [Function.update_self]
  cases files path <;> rfl

/-- Without overlapping and stale saves the runs leave what runs that load and
save in one step leave, refused or consistent. -/
theorem exists_settled (codec : HexCodec ssl)
    (keeps : ∀ process, (operations process).KeepsDb path)
    (apart : ∀ process, ∀ out ∈ (operations process).outPath,
      out ≠ path ∧ out ≠ tmpPath path)
    {disk : Disk UInt8} (names : disk.Apart)
    (untagged : ∀ db, heldDb (dbOnly path disk.shown) path = .ok db →
      db.Untagged)
    {events : List (FileProcesses.Event ι)}
    (noOverlap : (callByCall ssl path operations).Avoids
      (callByCall ssl path operations).Overlaps (start disk) events)
    (noStale : (callByCall ssl path operations).Avoids
      (callByCall ssl path operations).Stale (start disk) events) :
    ∃ config : Processes ι, config.version ≤ events.length ∧
      Settled ssl path operations config ∧
      (callByCall ssl path operations).Represents
        ((callByCall ssl path operations).run (start disk) events)
        (config.map (dbContent path)) := by
  obtain ⟨moves, few, fresh, represents⟩ := exists_atomic_run
    (whole_start names) (represents_start disk) noOverlap
  have sees := @seesPart_callByCall ι ssl path operations
    (fun process => (keeps process).dbPath)
    fun process out member => (apart process out member).1
  have wasRead : (processes ssl operations).HeldWasRead
      (ReadModifyWrite.start (dbOnly path disk.shown)) := by
    intro process held version holding
    cases holding
  have begins : (ReadModifyWrite.start (dbOnly path disk.shown) :
      Processes ι).map (dbContent path) =
        ReadModifyWrite.start disk.shown :=
    congrArg ReadModifyWrite.start (dbOnly_path disk.shown)
  rw [← begins] at fresh represents
  rw [sees.run wasRead] at represents
  refine ⟨_, ?_, settled_of_noStaleWrite codec keeps
    (fun process out member => (apart process out member).1) untagged
      (sees.noStaleWrite wasRead (fresh noStale)), represents⟩
  have versions := @ReadModifyWrite.version_run_le _ _ _ _ _
    (processes ssl operations) (ReadModifyWrite.start
      (dbOnly path disk.shown)) moves
  change _ ≤ 0 + moves.length at versions
  omega

/-- As long as no process opens the temporary file while another is between
opening and renaming it, or replaces another database than the one it has read,
no revocation is lost and no CRL number is given twice, in whatever order the
calls of the processes come and whichever are killed. -/
theorem nothingLost_callByCall (codec : HexCodec ssl)
    (keeps : ∀ process, (operations process).KeepsDb path)
    (apart : ∀ process, ∀ out ∈ (operations process).outPath,
      out ≠ path ∧ out ≠ tmpPath path)
    {disk : Disk UInt8} (names : disk.Apart)
    (untagged : ∀ db, heldDb (dbOnly path disk.shown) path = .ok db →
      db.Untagged)
    {events : List (FileProcesses.Event ι)} (few : events.length < 2 ^ 64)
    (noOverlap : (callByCall ssl path operations).Avoids
      (callByCall ssl path operations).Overlaps (start disk) events)
    (noStale : (callByCall ssl path operations).Avoids
      (callByCall ssl path operations).Stale (start disk) events) :
    NothingLostCallByCall ssl path operations disk events := by
  obtain ⟨config, versions, settled, represents⟩ := exists_settled codec keeps
    apart names untagged noOverlap noStale
  constructor
  · rintro first second rfl process host io args serialHex pending isRevoke
      serial done
    have stillDone := @FileProcesses.run_done _ _ _ _
      (callByCall ssl path operations) _ _ _ _ _ second done
    rw [← FileProcesses.run_append] at stillDone
    have complete : config.phase process = _ :=
      done_of_represents represents stillDone
    rcases settled with ⟨_, stopped⟩ | ⟨_, db, _, consistent⟩
    · rcases stopped process with idle | ⟨_, failed⟩
      · cases complete.symm.trans idle
      · cases complete.symm.trans failed
    · refine ⟨db, ?_, consistent.revoked process host io args serialHex
        pending isRevoke serial complete⟩
      rw [← represents.state]
      exact (heldDb_dbOnly _).trans consistent.held
  · intro process other differ db publication db' publication' done done'
    have complete : config.phase process = _ :=
      done_of_represents represents done
    have complete' : config.phase other = _ :=
      done_of_represents represents done'
    rcases settled with ⟨_, stopped⟩ | ⟨_, held, _, consistent⟩
    · rcases stopped process with idle | ⟨_, failed⟩
      · cases complete.symm.trans idle
      · cases complete.symm.trans failed
    · exact consistent.distinct (by omega) process other differ db publication
        db' publication' complete complete'

def sampleSavers (second : Bool) : Operation :=
  sampleRevoke IoFaults.none (if second then 12 else 11) "db.txt"

def sampleDisk : Disk UInt8 where
  content _ := sampleDbText
  created := 1
  published := some 0
  temporary := none

/-- The first process is killed while it writes, and the second saves. -/
def sampleCalls : List (FileProcesses.Event Bool) :=
  [.openFile false, .read false 20, .openFile true, .read true 100,
    .read false 100, .read false 0, .read true 0, .openTemporary false,
    .push false 50, .kill false, .openTemporary true, .push true 60,
    .close true, .rename true]

theorem sampleCalls_apart : (callByCall sampleCaSsl "db.txt"
    sampleSavers).Avoids (callByCall sampleCaSsl "db.txt"
      sampleSavers).Overlaps (start sampleDisk) sampleCalls := by
  have first : ¬ ∃ other, (((callByCall sampleCaSsl "db.txt" sampleSavers).run
      (start sampleDisk) (sampleCalls.take 7)).phase other).Saving := by
    decide +kernel
  have second : ¬ ∃ other, (((callByCall sampleCaSsl "db.txt" sampleSavers).run
      (start sampleDisk) (sampleCalls.take 10)).phase other).Saving := by
    decide +kernel
  refine ⟨id, id, id, id, id, id, id, ?_, id, id, ?_, id, id, id, trivial⟩
  · rintro ⟨_, _, _, _, saving⟩
    exact first saving
  · rintro ⟨_, _, _, _, saving⟩
    exact second saving

/-- The file a process has read before it renames another. -/
def seenAtRename : Phase UInt8 Pending RunResult → Option (Option Nat)
  | .closed _ seen => some seen
  | _ => none

theorem sampleCalls_fresh : (callByCall sampleCaSsl "db.txt"
    sampleSavers).Avoids (callByCall sampleCaSsl "db.txt"
      sampleSavers).Stale (start sampleDisk) sampleCalls := by
  have seen : seenAtRename (((callByCall sampleCaSsl "db.txt"
      sampleSavers).run (start sampleDisk) (sampleCalls.take 13)).phase true) =
        some ((callByCall sampleCaSsl "db.txt" sampleSavers).run
          (start sampleDisk) (sampleCalls.take 13)).disk.published := by
    decide +kernel
  refine ⟨id, id, id, id, id, id, id, id, id, id, id, id, id, ?_, trivial⟩
  rintro ⟨held, file, closed, _, differs⟩
  have before : seenAtRename (((callByCall sampleCaSsl "db.txt"
      sampleSavers).run (start sampleDisk) (sampleCalls.take 13)).phase true) =
        some file := congrArg seenAtRename closed
  exact differs (Option.some.inj (before.symm.trans seen))

theorem sampleDisk_apart : sampleDisk.Apart where
  published file member := by
    cases member
    exact ⟨Nat.one_pos, fun same => by cases same⟩
  temporary file member := by cases member

theorem nothingLost_callByCall_sample :
    sampleCalls.length < 2 ^ 64 ∧
      NothingLostCallByCall sampleCaSsl "db.txt" sampleSavers sampleDisk
        sampleCalls := by
  have held : heldDb (dbOnly "db.txt" sampleDisk.shown) "db.txt" =
      .ok sampleDb := by
    decide +kernel
  refine ⟨by decide, nothingLost_callByCall sampleCaSsl_hexCodec
    (fun _ => sampleRevoke_keepsDb _) ?_ sampleDisk_apart ?_ (by decide)
    sampleCalls_apart sampleCalls_fresh⟩
  · rintro process out same
    cases same
  · intro db found
    cases held.symm.trans found
    unfold RevocationDb.Untagged
    decide +kernel

def isCompletedCall : Phase UInt8 Pending RunResult → Bool
  | .done (.ok _) => true
  | _ => false

theorem eq_done_of_isCompletedCall {phase : Phase UInt8 Pending RunResult}
    (completed : isCompletedCall phase = true) :
    ∃ pending, phase = .done (.ok pending) := by
  unfold isCompletedCall at completed
  split at completed
  · exact ⟨_, rfl⟩
  · cases completed

/-- The second process opens the temporary file before the first has renamed
it.  The first completes, the second writes over the database and throws. -/
def overlappingCalls : List (FileProcesses.Event Bool) :=
  [.openFile false, .read false 100, .read false 0, .openFile true,
    .read true 100, .read true 0, .openTemporary false, .openTemporary true,
    .close false, .rename false, .close true, .rename true]

/-- The revocation of the first process is lost, though the second has renamed
nothing. -/
theorem not_nothingLost_overlapping :
    ¬ NothingLostCallByCall sampleCaSsl "db.txt" sampleSavers sampleDisk
      overlappingCalls := by
  rintro ⟨kept, _⟩
  have completed : isCompletedCall (((callByCall sampleCaSsl "db.txt"
      sampleSavers).run (start sampleDisk) overlappingCalls).phase false) =
        true := by
    decide +kernel
  obtain ⟨pending, done⟩ := eq_done_of_isCompletedCall completed
  obtain ⟨db, held, contains⟩ := kept _ [] (List.append_nil _) false _ _ _ _ _
    rfl (sample_revokedSerial 11 "db.txt") done
  have lost : (heldDb (dbOnly "db.txt" ((callByCall sampleCaSsl "db.txt"
      sampleSavers).run (start sampleDisk) overlappingCalls).disk.shown)
        "db.txt").toOption.map (fun db =>
          db.contains ((integerHexText 11).map toLower)) = some false := by
    decide +kernel
  rw [held] at lost
  cases contains.symm.trans (Option.some.inj lost)

/-- The run works on this database, loses no write to it unnoticed and writes
no CRL over it or its temporary file. -/
structure Operation.Shares (operation : Operation) (path : String) : Prop where
  dbPath : operation.dbPath = path
  writes : ∀ data,
    (operation.io.write (tmpPath path)).losesSilently data = false
  apart : ∀ out ∈ operation.outPath, out ≠ path ∧ out ≠ tmpPath path

theorem failureOf_write {io : IoFaults} {pending : Pending}
    (works : failureOf (pending.saveStep io path .write) = none) :
    (io.write (tmpPath path)).failsVisibly (dbText pending.db) = false := by
  have outcome := uniform_saveStep io path pending .write fun _ => none
  rw [works, Pending.saveStep, writeStream_outcome] at outcome
  split at outcome
  · cases outcome
  · rename_i unseen
    exact Bool.eq_false_of_not_eq_true unseen

omit [DecidableEq ι] in
/-- A run whose steps throw nothing has written all of the database. -/
theorem text_of_works {process : ι} {pending : Pending}
    (writes : ∀ data, ((operations process).io.write
      (tmpPath path)).losesSilently data = false)
    (works : (callByCall ssl path operations).failure process pending = none) :
    (callByCall ssl path operations).text process pending =
      dbText pending.db := by
  rw [callByCall_failure, Option.map_eq_none_iff, Option.orElse_eq_none,
    Option.orElse_eq_none] at works
  have unseen := failureOf_write works.2.1
  have lossless := writes (dbText pending.db)
  rw [WriteFate.losesSilently, unseen] at lossless
  have same : ((operations process).io.write (tmpPath path)).written
      (dbText pending.db) = dbText pending.db := by
    simpa using lossless
  exact same

/-- As long as no process opens the temporary file while another is between
opening and renaming it, the database is whole at every time: the one that was
there, or all of one that a completed run has saved.  Every run that has
completed has worked on a database that was there at some time. -/
theorem dbs_whole_callByCall
    (shares : ∀ process, (operations process).Shares path)
    {disk : Disk UInt8} (names : disk.Apart)
    {events : List (FileProcesses.Event ι)}
    (noOverlap : (callByCall ssl path operations).Avoids
      (callByCall ssl path operations).Overlaps (start disk) events) :
    (((callByCall ssl path operations).run (start disk) events).disk.shown =
        disk.shown ∨
      ∃ process pending,
        ((callByCall ssl path operations).run (start disk) events).phase
          process = .done (.ok (some pending)) ∧
        ((callByCall ssl path operations).run (start disk) events).disk.shown =
          some (dbText pending.db)) ∧
    ∀ process pending,
      ((callByCall ssl path operations).run (start disk) events).phase process =
        .done (.ok pending) →
      ∃ first, first <+: events ∧
        (operations process).load ssl (dbOnly path
          ((callByCall ssl path operations).run (start disk)
            first).disk.shown) = .ok pending := by
  obtain ⟨authored, origin⟩ := run_authored_and_origin (whole_start names)
    (.inl rfl) (fun _ => trivial) (fun _ shown => shown) noOverlap
  constructor
  · rcases authored with initial | ⟨process, pending, done, works, shown⟩
    · exact .inl initial
    · refine .inr ⟨process, pending, done, shown.trans (congrArg some ?_)⟩
      exact text_of_works (shares process).writes works
  · intro process pending done
    have read := origin process
    rw [done] at read
    obtain ⟨_, ⟨first, isPrefix, rfl⟩, settles | ⟨held, settles, ended⟩⟩ :=
      read
    · obtain ⟨rfl, loaded⟩ := read_eq_done settles
      exact ⟨first, isPrefix, loaded⟩
    · rcases ended with same | ⟨step, fails⟩
      · cases same
        exact ⟨first, isPrefix, read_eq_held settles⟩
      · obtain ⟨_, _, failed⟩ := Option.map_eq_some_iff.mp fails
        cases failed

theorem dbs_whole_callByCall_sample :
    ∃ first, first <+: sampleCalls ∧
      ((sampleSavers true).load sampleCaSsl (dbOnly "db.txt"
        ((callByCall sampleCaSsl "db.txt" sampleSavers).run (start sampleDisk)
          first).disk.shown)).isOk = true := by
  have shares : ∀ process, (sampleSavers process).Shares "db.txt" :=
    fun process => ⟨rfl, WriteFate.losesSilently_none 0,
      fun out member => by cases member⟩
  have completed : isCompletedCall (((callByCall sampleCaSsl "db.txt"
      sampleSavers).run (start sampleDisk) sampleCalls).phase true) = true := by
    decide +kernel
  obtain ⟨pending, done⟩ := eq_done_of_isCompletedCall completed
  obtain ⟨first, isPrefix, loaded⟩ := (dbs_whole_callByCall shares
    sampleDisk_apart sampleCalls_apart).2 true pending done
  exact ⟨first, isPrefix, by rw [loaded]; rfl⟩

end TeeAnchor.Ca
