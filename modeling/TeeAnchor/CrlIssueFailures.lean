import TeeAnchor.CrlContents
import Mathlib.Data.List.Pairwise

/-!
# Runs of `crl-issue` that fail

The CRL is published first, over the old one, and the counter is saved only
afterwards.  A run that throws has changed nothing when it is refused before it
writes or cannot open its output; any later failure leaves the new CRL in place
and the old number in the database, where the next run takes it again.
-/

namespace TeeAnchor.Ca

variable {ssl : OpenSsl} {path output : String}

/-- A step of the run fails after the output was opened, and the run sees
it. -/
def LaterStepFails (io : IoFaults) (path : String) (publication : Publication)
    (db : RevocationDb) : Prop :=
  (io.write publication.outPath).failsVisibly publication.pem = true ∨
    io.chmod publication.outPath = true ∨
    io.openWrite (tmpPath path) = true ∨
    (io.write (tmpPath path)).failsVisibly (dbText db) = true ∨
    io.rename (tmpPath path) = true

namespace Operation

/-- If the run throws, the output and the database are as they were, whatever
the output was. -/
def AtomicOnFailure (ssl : OpenSsl) (files : FileSystem) (outPath : String)
    (operation : Operation) : Prop :=
  ∀ prior failure files',
    (operation.run ssl).exec (Function.update files outPath prior) =
      (.error failure, files') →
    files' outPath = prior ∧ files' operation.dbPath = files operation.dbPath

/-- Unless the run is refused before it writes, its output cannot be opened or
no step after that fails. -/
def FailsCleanly (ssl : OpenSsl) (files : FileSystem) (operation : Operation) :
    Prop :=
  ∀ db publication,
    operation.load ssl files = .ok (some ⟨db, some publication⟩) →
    operation.io.openWrite publication.outPath = true ∨
      ¬ LaterStepFails operation.io operation.dbPath publication db

end Operation

theorem Operation.load_congr {files files' : FileSystem} (operation : Operation)
    (same : files' operation.dbPath = files operation.dbPath) :
    operation.load ssl files' = operation.load ssl files := by
  have read : readDb operation.io files' operation.dbPath =
      readDb operation.io files operation.dbPath := by
    unfold readDb openForReading
    rw [same]
  cases operation with
  | revoke host io args =>
      simp only [Operation.io, Operation.dbPath] at read
      simp only [Operation.load, read]
  | crlIssue host io args =>
      simp only [Operation.io, Operation.dbPath] at read
      simp only [Operation.load, read]

theorem Publication.write_leaves_file {io : IoFaults}
    {publication : Publication} {files : FileSystem}
    (opens : io.openWrite publication.outPath = false) :
    ∃ file, ((publication.write io).exec files).2 publication.outPath =
      some file := by
  unfold Publication.write
  rw [writeFile_exec, opens, if_neg Bool.false_ne_true]
  split
  · exact ⟨_, Function.update_self _ _ _⟩
  · split
    · exact ⟨_, Function.update_self _ _ _⟩
    · exact ⟨_, Function.update_self _ _ _⟩

/-- What a run publishes is written without an exception when its output can
be opened and no later step fails. -/
theorem Pending.publish_eq_ok {io : IoFaults} {publication : Publication}
    {db : RevocationDb} {files : FileSystem} :
    (∃ files', ((Pending.mk db (some publication)).write io path).exec files =
      (.ok (), files')) ↔
      io.openWrite publication.outPath = false ∧
        ¬ LaterStepFails io path publication db := by
  unfold LaterStepFails
  simp only [not_or, Bool.not_eq_true]
  constructor
  · rintro ⟨files', wrote⟩
    obtain ⟨_, middle, published, saved⟩ := Run.exec_bind_eq_ok.mp wrote
    obtain ⟨opens, writes, chmods, _⟩ := writeFile_eq_ok.mp published
    obtain ⟨tmpOpens, tmpWrites, renames, _⟩ :=
      saveRevocationDb_eq_ok.mp saved
    exact ⟨opens, writes, chmods, tmpOpens, tmpWrites, renames⟩
  · rintro ⟨opens, writes, chmods, tmpOpens, tmpWrites, renames⟩
    have published := (@writeFile_eq_ok io publication.outPath
      publication.pem 0o644 files _).mpr ⟨opens, writes, chmods, rfl⟩
    exact ⟨_, Run.exec_bind_eq_ok.mpr ⟨(), _, published,
      saveRevocationDb_eq_ok.mpr ⟨tmpOpens, tmpWrites, renames, rfl⟩⟩⟩

theorem Pending.publish_closed {io : IoFaults} {publication : Publication}
    {db : RevocationDb} {files : FileSystem}
    (closed : io.openWrite publication.outPath = true) :
    ((Pending.mk db (some publication)).write io path).exec files =
      (.error (.teeAnchorError ("cannot open for writing: " ++
        publication.outPath)), files) := by
  change (publication.write io >>= fun _ => saveRevocationDb io path db).exec
    files = _
  rw [Run.exec_bind, Publication.write, writeFile_exec, closed, if_pos rfl]

theorem Pending.publish_leaves_file {io : IoFaults} {publication : Publication}
    {db : RevocationDb} {files files' : FileSystem} {failure : Exception}
    (opens : io.openWrite publication.outPath = false)
    (notTmp : publication.outPath ≠ tmpPath path)
    (threw : ((Pending.mk db (some publication)).write io path).exec files =
      (.error failure, files')) :
    ∃ file, files' publication.outPath = some file := by
  obtain ⟨file, left⟩ := @Publication.write_leaves_file io publication files
    opens
  change (publication.write io >>= fun _ => saveRevocationDb io path db).exec
    files = _ at threw
  rw [Run.exec_bind] at threw
  cases wrote : (publication.write io).exec files with
  | mk outcome middle =>
      rw [wrote] at threw left
      cases outcome with
      | error failed =>
          cases threw
          exact ⟨file, left⟩
      | ok done =>
          exact ⟨file, (saveRevocationDb_error threw notTmp).trans left⟩

variable {host : Host} {io : IoFaults} {args : CrlIssueArgs}
  {files : FileSystem}

theorem crlIssue_atomic_iff
    (notDb : args.outPath ≠ (Operation.crlIssue host io args).dbPath)
    (notTmp : args.outPath ≠
      tmpPath (Operation.crlIssue host io args).dbPath) :
    (Operation.crlIssue host io args).AtomicOnFailure ssl files args.outPath ↔
      (Operation.crlIssue host io args).FailsCleanly ssl files := by
  generalize operationEq : Operation.crlIssue host io args = operation at *
  have loads : ∀ prior, operation.load ssl
      (Function.update files args.outPath prior) = operation.load ssl files :=
    fun prior => operation.load_congr (Function.update_of_ne notDb.symm _ _)
  constructor
  · intro atomic db publication loaded
    obtain ⟨_, same, isOut⟩ :=
      load_crlIssue_publication (operationEq ▸ loaded)
    cases same
    by_contra dirty
    rw [not_or, Bool.not_eq_true, not_not] at dirty
    obtain ⟨opens, later⟩ := dirty
    -- With no output before, the one the failed run leaves is new.
    cases ran : ((Pending.mk db (some publication)).write operation.io
        operation.dbPath).exec (Function.update files args.outPath none) with
    | mk outcome files' =>
        cases outcome with
        | ok done =>
            exact (Pending.publish_eq_ok.mp ⟨files', ran⟩).2 later
        | error failure =>
            obtain ⟨file, left⟩ := Pending.publish_leaves_file opens
              (isOut ▸ notTmp) ran
            have unchanged := (atomic none failure files' (by
              rw [operation.run_exec, loads, loaded]
              exact ran)).1
            rw [isOut, unchanged] at left
            cases left
  · intro clean prior failure files' threw
    rw [operation.run_exec, loads] at threw
    have kept : Function.update files args.outPath prior operation.dbPath =
        files operation.dbPath := Function.update_of_ne notDb.symm _ _
    cases loaded : operation.load ssl files with
    | error refused =>
        rw [loaded] at threw
        cases threw
        exact ⟨Function.update_self _ _ _, kept⟩
    | ok pending =>
        rw [loaded] at threw
        cases pending with
        | none => cases threw
        | some pending =>
            obtain ⟨db, publication⟩ := pending
            obtain ⟨publication, rfl, isOut⟩ :=
              load_crlIssue_publication (operationEq ▸ loaded)
            cases opens : operation.io.openWrite publication.outPath with
            | true =>
                cases (Pending.publish_closed opens).symm.trans threw
                exact ⟨Function.update_self _ _ _, kept⟩
            | false =>
                rcases clean db publication loaded with closed | noneLater
                · cases opens.symm.trans closed
                · obtain ⟨_, wrote⟩ := Pending.publish_eq_ok.mpr
                    ⟨opens, noneLater⟩
                  cases wrote.symm.trans threw

namespace Operation

/-- The CRL that this run makes appear at its output: the output is opened and
all of the PEM reaches it. -/
def appearing (ssl : OpenSsl) (files : FileSystem) (operation : Operation) :
    Option X509Crl :=
  match operation.load ssl files with
  | .ok (some ⟨_, some publication⟩) =>
      if operation.io.openWrite publication.outPath ||
          (operation.io.write publication.outPath).written publication.pem !=
            publication.pem then none
      else some publication.crl
  | _ => none

end Operation

/-- The CRLs that appear at the output path, run after run. -/
def crlsAppearing (ssl : OpenSsl) : FileSystem → List Operation → List X509Crl
  | _, [] => []
  | files, operation :: operations =>
      (operation.appearing ssl files).toList ++
        crlsAppearing ssl ((operation.run ssl).exec files).2 operations

/-- Every run is on this database and this output and fails cleanly in the
state it runs in. -/
def AllFailCleanly (ssl : OpenSsl) (path output : String) :
    FileSystem → List Operation → Prop
  | _, [] => True
  | files, operation :: operations =>
      operation.KeepsDb path ∧
      (∀ out ∈ operation.outPath, out = output) ∧
      operation.FailsCleanly ssl files ∧
      AllFailCleanly ssl path output ((operation.run ssl).exec files).2
        operations

theorem appearing_of_threw {operation : Operation} {files files' : FileSystem}
    {pending : Pending} {failure : Exception}
    (clean : operation.FailsCleanly ssl files)
    (loaded : operation.load ssl files = .ok (some pending))
    (threw : (pending.write operation.io operation.dbPath).exec files =
      (.error failure, files')) :
    operation.appearing ssl files = none := by
  obtain ⟨db, publication⟩ := pending
  unfold Operation.appearing
  rw [loaded]
  cases publication with
  | none => rfl
  | some publication =>
      cases opens : operation.io.openWrite publication.outPath with
      | true => simp [opens]
      | false =>
          rcases clean db publication loaded with closed | noneLater
          · cases opens.symm.trans closed
          · obtain ⟨_, wrote⟩ := Pending.publish_eq_ok.mpr ⟨opens, noneLater⟩
            cases wrote.symm.trans threw

theorem appearing_eq_some {operation : Operation} {files : FileSystem}
    {pending : Pending} {crl : X509Crl}
    (loaded : operation.load ssl files = .ok (some pending))
    (appears : crl ∈ operation.appearing ssl files) :
    ∃ publication, pending.publication = some publication ∧
      publication.crl = crl := by
  obtain ⟨db, publication⟩ := pending
  unfold Operation.appearing at appears
  rw [loaded] at appears
  cases publication with
  | none => cases appears
  | some publication =>
      simp only at appears
      split at appears
      · cases appears
      · cases appears
        exact ⟨publication, rfl, rfl⟩

/-- One run keeps the database readable, counts at most one CRL, and counts
the one that appears. -/
theorem step_counts (codec : HexCodec ssl) (notDb : output ≠ path)
    {operation : Operation} (keeps : operation.KeepsDb path)
    (isOut : ∀ out ∈ operation.outPath, out = output) {files : FileSystem}
    (clean : operation.FailsCleanly ssl files) {db : RevocationDb}
    (held : heldDb files path = .ok db) (untagged : db.Untagged) :
    ∃ db', heldDb ((operation.run ssl).exec files).2 path = .ok db' ∧
      db'.Untagged ∧
      (db'.crlNumber = db.crlNumber ∧ operation.appearing ssl files = none ∨
        db'.crlNumber = db.crlNumber + 1 ∧
          ∀ crl ∈ operation.appearing ssl files,
            crl.crlNumber = (db.crlNumber + 1).toInt64.toInt) := by
  rw [operation.run_exec]
  have read : readDb operation.io files operation.dbPath = .ok db := by
    rw [keeps.dbPath, readDb_eq_heldDb keeps.opens keeps.reads, held]
  cases loaded : operation.load ssl files with
  | error refused =>
      refine ⟨db, held, untagged, Or.inl ⟨rfl, ?_⟩⟩
      rw [Operation.appearing, loaded]
  | ok pending =>
      cases pending with
      | none =>
          refine ⟨db, held, untagged, Or.inl ⟨rfl, ?_⟩⟩
          rw [Operation.appearing, loaded]
      | some pending =>
          have extend := pending_extends codec keeps.clock read
            (heldDb_wellFormed held) untagged loaded
          cases ran : (pending.write operation.io operation.dbPath).exec files
            with
          | mk outcome files' =>
              change ∃ db', heldDb ((pending.write operation.io
                operation.dbPath).exec files).2 path = _ ∧ _
              rw [ran]
              cases outcome with
              | error failure =>
                  have same := Pending.write_error ran (by
                    rintro publication published
                    obtain ⟨db, _⟩ := pending
                    cases published
                    rw [isOut _ (load_outPath loaded), keeps.dbPath]
                    exact notDb)
                  rw [keeps.dbPath] at same
                  refine ⟨db, (heldDb_congr same).trans held, untagged,
                    Or.inl ⟨rfl, appearing_of_threw clean loaded ran⟩⟩
              | ok done =>
                  rw [keeps.dbPath] at ran
                  refine ⟨_, heldDb_of_saved keeps.writes extend.wellFormed
                    extend.untagged ran, untagged_filter extend.untagged, ?_⟩
                  rcases extend.crlNumber with ⟨sameNumber, noPublication⟩ |
                    ⟨nextNumber, published, isPublished, number⟩
                  · refine Or.inl ⟨sameNumber, ?_⟩
                    rw [Option.eq_none_iff_forall_not_mem]
                    intro crl appears
                    obtain ⟨_, isSome, _⟩ := appearing_eq_some loaded appears
                    cases noPublication.symm.trans isSome
                  · refine Or.inr ⟨nextNumber, ?_⟩
                    intro crl appears
                    obtain ⟨_, isSome, rfl⟩ := appearing_eq_some loaded appears
                    cases isPublished.symm.trans isSome
                    exact number

/-- While the numbers stay below the limit of `long`, every CRL that appears
has a number above the counter and above those before it. -/
theorem crlsAppearing_increase (codec : HexCodec ssl) (notDb : output ≠ path)
    {operations : List Operation} {files : FileSystem} {db : RevocationDb}
    (clean : AllFailCleanly ssl path output files operations)
    (held : heldDb files path = .ok db) (untagged : db.Untagged)
    (room : db.crlNumber.toNat + operations.length < 2 ^ 63) :
    (∀ crl ∈ crlsAppearing ssl files operations,
        (db.crlNumber.toNat : Int) < crl.crlNumber) ∧
      (crlsAppearing ssl files operations).Pairwise
        fun crl later => crl.crlNumber < later.crlNumber := by
  induction operations generalizing files db with
  | nil => simp [crlsAppearing]
  | cons operation operations ih =>
      obtain ⟨keeps, isOut, cleanly, rest⟩ := clean
      rw [List.length_cons] at room
      obtain ⟨db', held', untagged', counts⟩ :=
        step_counts codec notDb keeps isOut cleanly held untagged
      have nextNat : (db.crlNumber + 1).toNat = db.crlNumber.toNat + 1 := by
        rw [UInt64.toNat_add]
        change (db.crlNumber.toNat + 1) % 2 ^ 64 = _
        omega
      rw [crlsAppearing]
      rcases counts with ⟨sameNumber, noCrl⟩ | ⟨nextNumber, counted⟩
      · rw [noCrl]
        have later := ih rest held' untagged' (by rw [sameNumber]; omega)
        rw [sameNumber] at later
        exact later
      · obtain ⟨above, increasing⟩ := ih rest held' untagged'
          (by rw [nextNumber, nextNat]; omega)
        rw [nextNumber, nextNat] at above
        have first : ∀ crl ∈ operation.appearing ssl files,
            crl.crlNumber = (db.crlNumber.toNat + 1 : Nat) := by
          intro crl appears
          rw [counted crl appears, toInt64_toInt_of_lt (by omega), nextNat]
        constructor
        · intro crl member
          rcases List.mem_append.mp member with here | after
          · rw [first crl (Option.mem_toList.mp here)]
            omega
          · have bound := above crl after
            omega
        · rw [List.pairwise_append]
          refine ⟨?_, increasing, ?_⟩
          · cases operation.appearing ssl files with
            | none => exact List.Pairwise.nil
            | some crl => exact List.pairwise_singleton _ _
          · intro crl here later after
            rw [first crl (Option.mem_toList.mp here)]
            exact above later after

/-- With a database that the loader refuses nothing is ever published. -/
theorem crlsAppearing_of_refused {operations : List Operation}
    {files : FileSystem} {failure : Exception}
    (clean : AllFailCleanly ssl path output files operations)
    (refused : heldDb files path = .error failure) :
    crlsAppearing ssl files operations = [] := by
  induction operations generalizing files with
  | nil => rfl
  | cons operation operations ih =>
      obtain ⟨keeps, _, _, rest⟩ := clean
      have stops : ∀ pending, operation.load ssl files ≠ .ok pending := by
        intro pending loaded
        obtain ⟨db, read⟩ := readDb_of_load loaded
        rw [keeps.dbPath, readDb_eq_heldDb keeps.opens keeps.reads, refused]
          at read
        cases read
      cases loaded : operation.load ssl files with
      | ok pending => exact absurd loaded (stops pending)
      | error failed =>
          have nothing : operation.appearing ssl files = none := by
            rw [Operation.appearing, loaded]
          have unchanged : ((operation.run ssl).exec files).2 = files := by
            rw [operation.run_exec, loaded]
            rfl
          rw [unchanged] at rest
          rw [crlsAppearing, nothing, unchanged]
          exact ih rest refused

/-- A run that throws has changed neither file exactly when it fails cleanly,
and when every run does, no CRL number is used twice. -/
theorem crlIssue_failures (codec : HexCodec ssl) (notDb : output ≠ path)
    (notTmp : output ≠ tmpPath path) :
    (∀ host io (args : CrlIssueArgs) files, args.outPath = output →
      (Operation.crlIssue host io args).dbPath = path →
        ((Operation.crlIssue host io args).AtomicOnFailure ssl files output ↔
          (Operation.crlIssue host io args).FailsCleanly ssl files)) ∧
    ∀ operations files,
      AllFailCleanly ssl path output files operations →
      (∀ db, heldDb files path = .ok db →
        db.Untagged ∧ db.crlNumber.toNat + operations.length < 2 ^ 63) →
      (crlsAppearing ssl files operations).Pairwise
          (fun crl later => crl.crlNumber < later.crlNumber) ∧
        ∀ crl ∈ crlsAppearing ssl files operations,
        ∀ other ∈ crlsAppearing ssl files operations,
          crl.crlNumber = other.crlNumber → crl.revoked = other.revoked := by
  constructor
  · rintro host io args files rfl rfl
    exact crlIssue_atomic_iff notDb notTmp
  · intro operations files clean start
    have increasing : (crlsAppearing ssl files operations).Pairwise
        fun crl later => crl.crlNumber < later.crlNumber := by
      cases held : heldDb files path with
      | error failure =>
          rw [crlsAppearing_of_refused clean held]
          exact List.Pairwise.nil
      | ok db =>
          obtain ⟨untagged, room⟩ := start db held
          exact (crlsAppearing_increase codec notDb clean held untagged room).2
    refine ⟨increasing, ?_⟩
    have symmetric : Std.Symm fun crl other : X509Crl =>
        crl.crlNumber = other.crlNumber → crl.revoked = other.revoked :=
      ⟨fun _ _ agree same => (agree same.symm).symm⟩
    exact List.Pairwise.forall_of_forall (fun _ _ _ => rfl)
      (increasing.imp fun less same => absurd same (ne_of_lt less))

theorem WritesWork.failsCleanly {operation : Operation}
    (works : WritesWork operation.io) (files : FileSystem) :
    operation.FailsCleanly ssl files := by
  intro db publication _
  right
  unfold LaterStepFails
  simp [works.opens, works.chmods, works.renames, (works.written _ _).2]

def renameFails : IoFaults :=
  { IoFaults.none with rename := fun _ => true }

def outputFails : IoFaults :=
  { IoFaults.none with openWrite := fun path => path == "crl.pem" }

def sampleFiles : FileSystem :=
  Function.update (onlyFile "revocations.txt" ⟨sampleDbText, 0o644⟩) "crl.pem"
    (some ⟨ascii "7", 0o644⟩)

/-- A CRL, a revocation and another CRL, with these faults in the first run. -/
def sampleRuns (io : IoFaults) : List Operation :=
  [sampleCrlIssue io "crl.pem" "revocations.txt",
    sampleRevoke IoFaults.none 11 "revocations.txt",
    sampleCrlIssue IoFaults.none "crl.pem" "revocations.txt"]

theorem crlIssue_failures_sample :
    "crl.pem" ≠ "revocations.txt" ∧ "crl.pem" ≠ tmpPath "revocations.txt" ∧
      (crlsAppearing sampleCaSsl sampleFiles
        (sampleRuns outputFails)).Pairwise
          fun crl later => crl.crlNumber < later.crlNumber := by
  have clean : AllFailCleanly sampleCaSsl "revocations.txt" "crl.pem"
      sampleFiles (sampleRuns outputFails) := by
    refine ⟨⟨rfl, rfl, rfl, WriteFate.losesSilently_none 0, trivial⟩, ?_, ?_,
      ⟨rfl, rfl, rfl, WriteFate.losesSilently_none 0, sample_time⟩, ?_, ?_,
      ⟨rfl, rfl, rfl, WriteFate.losesSilently_none 0, trivial⟩, ?_, ?_, trivial⟩
    · rintro out same
      exact (Option.some.inj same).symm
    · intro db publication loaded
      obtain ⟨_, same, isOut⟩ := load_crlIssue_publication loaded
      cases same
      left
      change (publication.outPath == "crl.pem") = true
      rw [isOut]
      rfl
    · rintro out same
      cases same
    · exact @WritesWork.failsCleanly _ (sampleRevoke IoFaults.none 11
        "revocations.txt") writesWork_none _
    · rintro out same
      exact (Option.some.inj same).symm
    · exact @WritesWork.failsCleanly _ (sampleCrlIssue IoFaults.none
        "crl.pem" "revocations.txt") writesWork_none _
  have held : heldDb sampleFiles "revocations.txt" = .ok sampleDb := by
    decide +kernel
  refine ⟨by decide, by decide, ((crlIssue_failures sampleCaSsl_hexCodec
    (by decide) (by decide)).2 _ _ clean ?_).1⟩
  intro db same
  cases held.symm.trans same
  refine ⟨?_, by decide⟩
  unfold RevocationDb.Untagged
  decide +kernel

/-- The rename of the database fails: the new CRL stays, and its number is
given again to a CRL with one more serial number. -/
theorem not_atomicOnFailure_renameFails :
    ¬ (sampleCrlIssue renameFails "crl.pem" "revocations.txt").AtomicOnFailure
        sampleCaSsl sampleFiles "crl.pem" ∧
      (crlsAppearing sampleCaSsl sampleFiles (sampleRuns renameFails)).map
        (fun crl => (crl.crlNumber, crl.revoked.map X509Revoked.serialNumber)) =
          [(8, [10]), (8, [10, 11])] := by
  refine ⟨fun atomic => ?_, by decide +kernel⟩
  have threw : (((sampleCrlIssue renameFails "crl.pem" "revocations.txt").run
      sampleCaSsl).exec sampleFiles).1 = .error (.teeAnchorError
        "rename failed: revocations.txt.tmp -> revocations.txt") := by
    decide +kernel
  have left : (((sampleCrlIssue renameFails "crl.pem" "revocations.txt").run
      sampleCaSsl).exec sampleFiles).2 "crl.pem" =
        some ⟨ascii "8", 0o644⟩ := by
    decide +kernel
  have prior : Function.update sampleFiles "crl.pem"
      (some ⟨ascii "7", 0o644⟩) = sampleFiles :=
    Function.update_idem _ _ _
  have unchanged := (atomic (some ⟨ascii "7", 0o644⟩) _ _
    (by rw [prior]; exact Prod.ext threw rfl)).1
  have contents := left.symm.trans unchanged
  revert contents
  decide

end TeeAnchor.Ca
