import TeeAnchor.Histories

/-!
# Runs that fail leave no trace

Every command has checked and computed all that it writes before it opens its
first file, apart from the text of a new CA certificate.  While the outputs take
what is written, a run that fails has changed nothing, and a history leaves what
its successful runs alone leave.
-/

namespace TeeAnchor

open Ca

/-- A run that changes the files only if it returns. -/
def AllOrNothing (run : Run Unit) : Prop :=
  ∀ files, (run.exec files).1 = .ok () ∨ (run.exec files).2 = files

def Completes {α : Type} (run : Run α) : Prop :=
  ∀ files, ∃ value files', run.exec files = (.ok value, files')

variable {ssl : OpenSsl} {io : IoFaults}

theorem Completes.bind {α β : Type} {first : Run α} {next : α → Run β}
    (here : Completes first) (later : ∀ value, Completes (next value)) :
    Completes (first >>= next) := by
  intro files
  obtain ⟨value, middle, ran⟩ := here files
  obtain ⟨result, files', ran'⟩ := later value middle
  exact ⟨result, files', Run.exec_bind_eq_ok.mpr ⟨value, middle, ran, ran'⟩⟩

theorem Completes.allOrNothing {run : Run Unit} (completes : Completes run) :
    AllOrNothing run := by
  intro files
  obtain ⟨_, _, ran⟩ := completes files
  exact Or.inl (congrArg Prod.fst ran)

theorem allOrNothing_bind {α : Type} {first : Run α} {next : α → Run Unit}
    (computes : ∀ files, (first.exec files).2 = files)
    (later : ∀ value, AllOrNothing (next value)) :
    AllOrNothing (first >>= next) := by
  intro files
  have unchanged := computes files
  rw [Run.exec_bind]
  rcases ran : first.exec files with ⟨outcome, middle⟩
  rw [ran] at unchanged
  cases outcome with
  | error failure => exact Or.inr unchanged
  | ok value =>
      have rest := later value middle
      rw [show middle = files from unchanged] at rest ⊢
      exact rest

theorem completes_writeFile (works : WritesWork io) (path : String)
    (data : Bytes) (mode : Nat) : Completes (writeFile io path data mode) := by
  intro files
  exact ⟨(), _, writeFile_eq_ok.mpr ⟨works.opens path, (works.written path _).2,
    works.chmods path, rfl⟩⟩

theorem completes_saveRevocationDb (works : WritesWork io) (path : String)
    (db : RevocationDb) : Completes (saveRevocationDb io path db) := by
  intro files
  exact ⟨(), _, saveRevocationDb_eq_ok.mpr ⟨works.opens _,
    (works.written _ _).2, works.renames _, rfl⟩⟩

/-- A run that has come to write a new CA also gets the text of its
certificate. -/
def WritesCerts (ssl : OpenSsl) (host : Host)
    (statFails : String → Bool) (files : FileSystem) : Prop :=
  ∀ args pkey cert keyPem,
    prepareCa ssl host args statFails files = .ok (pkey, cert, keyPem) →
    ∃ crtPem, Pki.pemCert ssl cert = .ok crtPem

theorem runCaInit_allOrNothing (works : WritesWork io) {host : Host}
    (args : CaInitArgs) {statFails : String → Bool} {files : FileSystem}
    (writes : WritesCerts ssl host statFails files) :
    ((runCaInit ssl host io args statFails).exec files).1 = .ok () ∨
      ((runCaInit ssl host io args statFails).exec files).2 = files := by
  cases prepared : prepareCa ssl host args statFails files with
  | error failure =>
      rw [runCaInit_of_refused prepared]
      exact Or.inr rfl
  | ok made =>
      obtain ⟨pkey, cert, keyPem⟩ := made
      obtain ⟨crtPem, written⟩ := writes args pkey cert keyPem prepared
      rw [runCaInit_of_prepared prepared, written]
      have text : Completes (liftExcept (.ok crtPem)) :=
        fun files => ⟨crtPem, files, rfl⟩
      exact ((completes_writeFile works _ _ _).bind fun _ => text.bind fun _ =>
        completes_writeFile works _ _ _).allOrNothing files

theorem allOrNothing_runProvision (works : WritesWork io) (host : Host)
    (args : Provision.ProvisionArgs) :
    AllOrNothing (Provision.runProvision ssl host io args) :=
  allOrNothing_bind (fun _ => rfl) fun _ =>
    allOrNothing_bind (fun _ => rfl) fun _ =>
    (completes_writeFile works _ _ _).allOrNothing

theorem allOrNothing_runRevoke (works : WritesWork io) (host : Host)
    (args : RevokeArgs) : AllOrNothing (runRevoke ssl host io args) := by
  apply allOrNothing_bind fun _ => rfl
  intro serialHex
  apply allOrNothing_bind fun _ => rfl
  intro db
  by_cases present : db.contains serialHex
  · simp only [present, if_true]
    exact fun _ => Or.inl rfl
  · simp only [present, if_false, Bool.false_eq_true]
    exact (completes_saveRevocationDb works _ _).allOrNothing

theorem allOrNothing_runCrlIssue (works : WritesWork io) (host : Host)
    (args : CrlIssueArgs) : AllOrNothing (runCrlIssue ssl host io args) :=
  allOrNothing_bind (fun _ => rfl) fun _ =>
    allOrNothing_bind (fun _ => rfl) fun _ =>
    allOrNothing_bind (fun _ => rfl) fun _ =>
    allOrNothing_bind (fun _ => rfl) fun _ =>
    allOrNothing_bind (fun _ => rfl) fun _ =>
    ((completes_writeFile works _ _ _).bind fun _ =>
      completes_saveRevocationDb works _ _).allOrNothing

theorem Command.exec_failed {env : Environment} (works : WritesWork env.io)
    {command : Command} {files : FileSystem}
    (writes : WritesCerts (env.library ssl) (env.host files) env.statFails
      files)
    (failed : (command.exec ssl env files).1 ≠ 0) :
    (command.exec ssl env files).2 = files := by
  have performs :
      ((command.perform ssl env files).exec files).1 = .ok () ∨
        ((command.perform ssl env files).exec files).2 = files := by
    cases command with
    | caInit args => exact runCaInit_allOrNothing works args writes
    | provision args => exact allOrNothing_runProvision works _ _ files
    | revoke args => exact allOrNothing_runRevoke works _ _ files
    | crlIssue args => exact allOrNothing_runCrlIssue works _ _ files
    | verify args => exact Or.inr rfl
  have unchanged : ∀ outcome : Except Exception Unit, exitCode outcome ≠ 0 →
      outcome ≠ .ok () := by
    rintro outcome nonzero rfl
    exact nonzero rfl
  cases command with
  | verify args => rfl
  | caInit args => exact performs.resolve_left (unchanged _ failed)
  | provision args => exact performs.resolve_left (unchanged _ failed)
  | revoke args => exact performs.resolve_left (unchanged _ failed)
  | crlIssue args => exact performs.resolve_left (unchanged _ failed)

/-- The event is a run that does not exit with 0. -/
def Event.fails (ssl : OpenSsl) (files : FileSystem) : Event → Bool
  | .run env argv =>
      match ((main ssl env argv).exec files).1 with
      | .ok 0 => false
      | _ => true
  | .other _ => false

def withoutFailed (ssl : OpenSsl) : List Event → FileSystem → List Event
  | [], _ => []
  | event :: history, files =>
      if event.fails ssl files then
        withoutFailed ssl history (event.step ssl files)
      else event :: withoutFailed ssl history (event.step ssl files)

/-- All outputs of the run take what is written, and there is always something
to write. -/
def Event.OutputsWork (ssl : OpenSsl) : Event → Prop
  | .run env _ => WritesWork env.io ∧ ∀ files,
      WritesCerts (env.library ssl) (env.host files) env.statFails files
  | .other _ => True

theorem Event.step_failed {event : Event} {files : FileSystem}
    (works : event.OutputsWork ssl)
    (failed : event.fails ssl files = true) : event.step ssl files = files := by
  cases event with
  | other change => cases failed
  | run env argv =>
      cases asked : request argv with
      | exit code => rw [step_run_of_exit asked]
      | run command =>
          rw [step_run_of_run asked]
          apply command.exec_failed works.1 (works.2 files)
          intro zero
          simp [fails, main_exec, asked, Request.answer, zero] at failed

/-- While the outputs work, a history leaves what its successful runs and the
changes by others alone leave. -/
theorem failed_runs_leave_no_trace (history : List Event)
    (works : ∀ event ∈ history, event.OutputsWork ssl) (files : FileSystem) :
    leaving ssl (withoutFailed ssl history files) files =
      leaving ssl history files := by
  induction history generalizing files with
  | nil => rfl
  | cons event history ih =>
      rw [List.forall_mem_cons] at works
      rw [withoutFailed, leaving_cons]
      by_cases failed : event.fails ssl files = true
      · have unchanged := event.step_failed works.1 failed
        rw [if_pos failed, unchanged]
        exact ih works.2 files
      · rw [if_neg failed, leaving_cons]
        exact ih works.2 (event.step ssl files)

def writingSsl : OpenSsl :=
  { OpenSsl.standIn with
    v3ExtConf := fun _ _ _ _ => some (true, [])
    pemWritePrivateKey := fun _ => some (ascii "key")
    pemWriteX509 := fun _ => some (ascii "certificate") }

/-- A CA is made twice, and the second run finds the files of the first. -/
def madeTwice : List Event :=
  [.run quietPlace ["ca-init", "--out-dir", "pki"],
    .run quietPlace ["ca-init", "--out-dir", "pki"]]

theorem failed_runs_leave_no_trace_sample :
    (withoutFailed writingSsl madeTwice fun _ => none).length = 1 ∧
    leaving writingSsl (withoutFailed writingSsl madeTwice fun _ => none)
        (fun _ => none) =
      leaving writingSsl madeTwice fun _ => none := by
  refine ⟨by decide +kernel, failed_runs_leave_no_trace _ ?_ _⟩
  have works : ∀ argv, (Event.run quietPlace argv).OutputsWork writingSsl :=
    fun _ => ⟨writesWork_none, fun _ _ _ _ _ _ => ⟨ascii "certificate", rfl⟩⟩
  rw [madeTwice, List.forall_mem_cons, List.forall_mem_singleton]
  exact ⟨works _, works _⟩

end TeeAnchor
