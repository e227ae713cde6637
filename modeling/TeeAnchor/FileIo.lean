import TeeAnchor.Cbor
import Mathlib.Data.List.TakeDrop
import Mathlib.Logic.Function.Basic

/-!
# Files, and the ways their steps can fail

A run reads its input files through a `Host`, which also supplies the clock,
random numbers and storage, and changes the files it owns in a `FileSystem`.
Every step on those files can fail; which ones do is an argument of the run.

Output streams are buffered.  A write error is visible in the stream state only
if the bytes that fail have been pushed to the device by the time the state is
checked; what is still buffered then is pushed when the stream is closed, and a
failure there is seen by nobody.
-/

namespace TeeAnchor

structure File where
  content : Bytes
  mode : Nat
  deriving DecidableEq, Repr

abbrev FileSystem := String → Option File

/-- What reading a file gives: the open fails, or the stream delivers bytes and
then ends, at the end of the file or at a read error. -/
inductive ReadOutcome
  | cannotOpen
  | opened (delivered : Bytes) (readError : Bool)
  deriving DecidableEq, Repr

/-- How the device takes the bytes of one output stream. -/
structure WriteFate where
  /-- How many bytes are pushed before the stream state is checked. -/
  pushed : Nat
  /-- The device fails after this many bytes. -/
  accepted : Option Nat
  deriving DecidableEq, Repr

namespace WriteFate

/-- The bytes that reach the file. -/
def written (fate : WriteFate) (data : Bytes) : Bytes :=
  match fate.accepted with
  | none => data
  | some accepted => data.take accepted

/-- The check of the stream state sees a failure. -/
def failsVisibly (fate : WriteFate) (data : Bytes) : Bool :=
  match fate.accepted with
  | none => false
  | some accepted => accepted < min fate.pushed data.length

/-- Bytes are lost and no check sees it. -/
def losesSilently (fate : WriteFate) (data : Bytes) : Bool :=
  fate.written data != data && !fate.failsVisibly data

/-- The device takes all of the data. -/
def Takes (fate : WriteFate) (data : Bytes) : Prop :=
  ∀ accepted, fate.accepted = some accepted → data.length ≤ accepted

theorem written_eq_self {fate : WriteFate} {data : Bytes} :
    fate.written data = data ↔ fate.Takes data := by
  unfold written Takes
  cases fate.accepted with
  | none => simp
  | some accepted =>
      rw [List.take_eq_self_iff]
      simp

theorem Takes.unfailing {fate : WriteFate} {data : Bytes}
    (takes : fate.Takes data) : fate.failsVisibly data = false := by
  unfold Takes at takes
  unfold failsVisibly
  cases limit : fate.accepted with
  | none => rfl
  | some accepted =>
      have fits := takes accepted limit
      exact decide_eq_false (by omega)

theorem losesSilently_none (pushed : Nat) (data : Bytes) :
    losesSilently ⟨pushed, none⟩ data = false := by
  simp [losesSilently, written]

end WriteFate

/-- The steps on a run's own files that fail, by path. -/
structure IoFaults where
  openRead : String → Bool
  readStops : String → Option Nat
  openWrite : String → Bool
  write : String → WriteFate
  chmod : String → Bool
  rename : String → Bool
  /-- The mode of a newly created file. -/
  createMode : Nat

def IoFaults.none : IoFaults where
  openRead _ := false
  readStops _ := Option.none
  openWrite _ := false
  write _ := ⟨0, Option.none⟩
  chmod _ := false
  rename _ := false
  createMode := 0o644

structure Host where
  read : String → ReadOutcome
  pathExists : String → Bool
  /-- Seconds since the epoch. -/
  time : Int
  /-- The time as `strftime` prints it with `%Y%m%d%H%M%SZ`. -/
  generalizedTimeNowUtc : Bytes
  randomSerial : Int
  storage : Cbor.Storage

/-- A run that changes files keeps its changes when it throws. -/
abbrev Run := ExceptT Exception (StateM FileSystem)

/-- A computation that touches no file of the run. -/
def liftExcept {α : Type} (result : Result α) : Run α :=
  ExceptT.mk (pure result)

def readFile (host : Host) (path : String) : Result Bytes :=
  match host.read path with
  | .cannotOpen => teeAnchorError ("cannot open for reading: " ++ path)
  | .opened _ true =>
      .error (.stdException "basic_filebuf::underflow error reading the file")
  | .opened content false => return content

/-- Reading one of the run's own files. -/
def openForReading (io : IoFaults) (files : FileSystem) (path : String) :
    ReadOutcome :=
  match files path with
  | none => .cannotOpen
  | some file =>
      if io.openRead path then .cannotOpen
      else
        match io.readStops path with
        | none => .opened file.content false
        | some count =>
            if count < file.content.length then
              .opened (file.content.take count) true
            else .opened file.content false

def openForWriting (io : IoFaults) (path : String) : Run Unit := do
  if io.openWrite path then
    throw (.teeAnchorError ("cannot open for writing: " ++ path))
  modify fun files =>
    Function.update files path
      (some ⟨[], ((files path).map File.mode).getD io.createMode⟩)

/-- Write to the open stream and check its state.  The bytes still buffered
reach the file when the stream is closed. -/
def writeStream (io : IoFaults) (path : String) (data : Bytes) : Run Unit := do
  modify fun files =>
    Function.update files path ((files path).map fun file =>
      { file with content := (io.write path).written data })
  if (io.write path).failsVisibly data then
    throw (.teeAnchorError ("write failed: " ++ path))

/-- `write_file`. -/
def writeFile (io : IoFaults) (path : String) (data : Bytes) (mode : Nat) :
    Run Unit := do
  openForWriting io path
  writeStream io path data
  if io.chmod path then
    throw (.teeAnchorError ("chmod failed: " ++ path))
  modify fun files =>
    Function.update files path
      ((files path).map fun file => { file with mode := mode })

/-- `std::rename`: the target is replaced in one step. -/
def rename (io : IoFaults) (source target : String) : Run Unit := do
  if io.rename source then
    throw (.teeAnchorError ("rename failed: " ++ source ++ " -> " ++ target))
  modify fun files =>
    Function.update (Function.update files target (files source)) source none

theorem readFile_eq_ok {host : Host} {path : String} {content : Bytes} :
    readFile host path = .ok content ↔
      host.read path = .opened content false := by
  unfold readFile
  split
  · rename_i outcome
    simp [outcome]
  · rename_i outcome
    simp [outcome]
  · rename_i outcome
    simp [outcome, pure, Except.pure]

namespace Run

def exec {α : Type} (run : Run α) (files : FileSystem) :
    Except Exception α × FileSystem :=
  StateT.run (ExceptT.run run) files

variable {α β : Type}

@[simp]
theorem exec_pure (value : α) (files : FileSystem) :
    exec (pure value) files = (.ok value, files) :=
  rfl

@[simp]
theorem exec_throw (failure : Exception) (files : FileSystem) :
    exec (throw failure : Run α) files = (.error failure, files) :=
  rfl

@[simp]
theorem exec_liftExcept (result : Result α) (files : FileSystem) :
    exec (liftExcept result) files = (result, files) :=
  rfl

@[simp]
theorem exec_modify (change : FileSystem → FileSystem) (files : FileSystem) :
    exec (modify change : Run Unit) files = (.ok (), change files) :=
  rfl

theorem exec_bind (first : Run α) (next : α → Run β) (files : FileSystem) :
    exec (first >>= next) files =
      match exec first files with
      | (.ok value, files) => exec (next value) files
      | (.error failure, files) => (.error failure, files) := by
  unfold exec
  rw [ExceptT.run_bind, StateT.run_bind]
  rcases StateT.run (ExceptT.run first) files with ⟨outcome, files'⟩
  cases outcome <;> rfl

theorem exec_bind_eq_ok {first : Run α} {next : α → Run β}
    {files files' : FileSystem} {result : β} :
    exec (first >>= next) files = (.ok result, files') ↔
      ∃ value middle, exec first files = (.ok value, middle) ∧
        exec (next value) middle = (.ok result, files') := by
  rw [exec_bind]
  rcases exec first files with ⟨outcome, middle⟩
  cases outcome with
  | error failure => simp
  | ok value => simp

end Run

/-- The mode a file has after it is opened for writing. -/
def modeAt (io : IoFaults) (files : FileSystem) (path : String) : Nat :=
  ((files path).map File.mode).getD io.createMode

theorem openForWriting_exec (io : IoFaults) (path : String)
    (files : FileSystem) :
    (openForWriting io path).exec files =
      if io.openWrite path then
        (.error (.teeAnchorError ("cannot open for writing: " ++ path)), files)
      else
        (.ok (), Function.update files path
          (some ⟨[], modeAt io files path⟩)) := by
  unfold openForWriting
  by_cases fails : io.openWrite path
  · simp only [fails, if_true]
    rfl
  · simp only [fails]
    rfl

theorem writeStream_exec (io : IoFaults) (path : String) (data : Bytes)
    (files : FileSystem) (mode : Nat) :
    (writeStream io path data).exec
        (Function.update files path (some ⟨[], mode⟩)) =
      (if (io.write path).failsVisibly data then
        .error (.teeAnchorError ("write failed: " ++ path)) else .ok (),
        Function.update files path
          (some ⟨(io.write path).written data, mode⟩)) := by
  unfold writeStream
  rw [Run.exec_bind, Run.exec_modify]
  have rewritten : Function.update (Function.update files path
      (some ⟨[], mode⟩)) path
        ((Function.update files path (some ⟨[], mode⟩) path).map fun file =>
          { file with content := (io.write path).written data }) =
      Function.update files path
        (some ⟨(io.write path).written data, mode⟩) := by
    rw [Function.update_self, Function.update_idem]
    rfl
  simp only [rewritten]
  by_cases fails : (io.write path).failsVisibly data
  · simp only [fails, if_true]
    rfl
  · simp only [fails]
    rfl

/-- A file that is written is replaced by the bytes that reached the device
once it could be opened, whatever becomes of the later steps. -/
theorem writeFile_exec (io : IoFaults) (path : String) (data : Bytes)
    (mode : Nat) (files : FileSystem) :
    (writeFile io path data mode).exec files =
      if io.openWrite path then
        (.error (.teeAnchorError ("cannot open for writing: " ++ path)), files)
      else if (io.write path).failsVisibly data then
        (.error (.teeAnchorError ("write failed: " ++ path)),
          Function.update files path
            (some ⟨(io.write path).written data, modeAt io files path⟩))
      else if io.chmod path then
        (.error (.teeAnchorError ("chmod failed: " ++ path)),
          Function.update files path
            (some ⟨(io.write path).written data, modeAt io files path⟩))
      else
        (.ok (), Function.update files path
          (some ⟨(io.write path).written data, mode⟩)) := by
  unfold writeFile
  rw [Run.exec_bind, openForWriting_exec]
  by_cases opens : io.openWrite path
  · simp only [opens, if_true]
  · simp only [opens, Bool.false_eq_true, if_false]
    rw [Run.exec_bind, writeStream_exec]
    by_cases writes : (io.write path).failsVisibly data
    · simp only [writes, if_true]
    · simp only [writes, Bool.false_eq_true, if_false]
      by_cases chmods : io.chmod path
      · simp only [chmods, if_true]
        rfl
      · simp only [chmods, Bool.false_eq_true, if_false]
        change (Except.ok (), Function.update (Function.update files path _)
          path _) = _
        rw [Function.update_self, Function.update_idem]
        rfl

/-- Writing a file throws nothing exactly when no step fails. -/
theorem writeFile_eq_ok {io : IoFaults} {path : String} {data : Bytes}
    {mode : Nat} {files files' : FileSystem} :
    (writeFile io path data mode).exec files = (.ok (), files') ↔
      io.openWrite path = false ∧ (io.write path).failsVisibly data = false ∧
      io.chmod path = false ∧
      files' = Function.update files path
        (some ⟨(io.write path).written data, mode⟩) := by
  rw [writeFile_exec]
  by_cases opens : io.openWrite path
  · simp [opens]
  · by_cases writes : (io.write path).failsVisibly data
    · simp [opens, writes]
    · by_cases chmods : io.chmod path
      · simp [opens, writes, chmods]
      · simp [opens, writes, chmods, eq_comm]

/-- A file that could be opened holds what reached the device. -/
theorem writeFile_content {io : IoFaults} {path : String} {data : Bytes}
    {mode : Nat} {files : FileSystem} (opens : io.openWrite path = false) :
    (((writeFile io path data mode).exec files).2 path).map File.content =
      some ((io.write path).written data) := by
  rw [writeFile_exec, if_neg (by simp [opens])]
  split
  · exact congrArg (Option.map File.content) (Function.update_self path _ files)
  · split
    · exact congrArg (Option.map File.content)
        (Function.update_self path _ files)
    · exact congrArg (Option.map File.content)
        (Function.update_self path _ files)

theorem writeFile_other {io : IoFaults} {path other : String} {data : Bytes}
    {mode : Nat} {files : FileSystem} (differs : other ≠ path) :
    ((writeFile io path data mode).exec files).2 other = files other := by
  rw [writeFile_exec]
  split
  · rfl
  · split
    · exact Function.update_of_ne differs _ _
    · split
      · exact Function.update_of_ne differs _ _
      · exact Function.update_of_ne differs _ _

end TeeAnchor
