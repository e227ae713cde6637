import Mathlib.Data.List.TakeDrop
import TeeAnchor.ReadModifyWrite

/-!
# Files that are replaced by a rename

A process reads a file piece by piece and closes it.  To write it, it opens a
temporary file, writes that piece by piece, closes it and renames it.  Names
lead to numbered files.  A process that has opened a file goes on with it
whatever becomes of its name, each at its own position.

The temporary file has one name for all processes.  While no process opens it
before another is through with it, nobody sees a file that is not whole: what
happens is what would if each read were one step, at the time the file is
opened, and each write were one step, the rename.
-/

namespace TeeAnchor

/-- The steps of a write that can fail. -/
inductive SaveStep
  | create
  | write
  | rename
  deriving DecidableEq, Repr

/-- What each process does with the file. -/
structure FileProcesses (Process α Held Outcome : Type) where
  /-- The content of the file, if there is one, ends the process or gives it
  something to write. -/
  settle : Process → Option (List α) → Outcome ⊕ Held
  text : Process → Held → List α
  /-- How the process ends if this step fails. -/
  fails : Process → Held → SaveStep → Option Outcome
  finished : Process → Held → Outcome
  /-- How the process ends if there is no temporary file to rename. -/
  missing : Process → Held → Outcome

namespace FileProcesses

variable {Process α Held Outcome : Type}

/-- The numbered files and what the two names lead to. -/
structure Disk (α : Type) where
  content : Nat → List α
  /-- The files are those below this number. -/
  created : Nat
  published : Option Nat
  temporary : Option Nat

inductive Phase (α Held Outcome : Type)
  | idle
  | reading (file : Nat) (got : List α)
  /-- The process has read the file that the name led to. -/
  | ready (held : Held) (seen : Option Nat)
  | writing (held : Held) (seen : Option Nat) (file position : Nat)
  | closed (held : Held) (seen : Option Nat)
  | done (outcome : Outcome)
  | killed

structure Config (Process α Held Outcome : Type) where
  disk : Disk α
  phase : Process → Phase α Held Outcome

inductive Event (Process : Type)
  | openFile (process : Process)
  /-- Ask for one element more than `count`. -/
  | read (process : Process) (count : Nat)
  | openTemporary (process : Process)
  | push (process : Process) (count : Nat)
  | close (process : Process)
  | rename (process : Process)
  /-- The process is stopped from outside. -/
  | kill (process : Process)

def Event.process : Event Process → Process
  | .openFile process => process
  | .read process _ => process
  | .openTemporary process => process
  | .push process _ => process
  | .close process => process
  | .rename process => process
  | .kill process => process

def start (disk : Disk α) : Config Process α Held Outcome :=
  ⟨disk, fun _ => .idle⟩

def overwrite [Zero α] (content : List α) (position : Nat)
    (piece : List α) : List α :=
  if piece.isEmpty then content
  else
    (content ++ List.replicate (position - content.length) 0).take position ++
      piece ++ content.drop (position + piece.length)

namespace Disk

def shown (disk : Disk α) : Option (List α) :=
  disk.published.map disk.content

def put [Zero α] (disk : Disk α) (file position : Nat) (piece : List α) :
    Disk α :=
  { disk with
    content := Function.update disk.content file
      (overwrite (disk.content file) position piece) }

/-- The file that opening the temporary file for writing leads to. -/
def temporaryFile (disk : Disk α) : Nat :=
  disk.temporary.getD disk.created

def openTemporary (disk : Disk α) : Disk α :=
  { disk with
    content := Function.update disk.content disk.temporaryFile []
    created := if disk.temporary.isSome then disk.created
      else disk.created + 1
    temporary := some disk.temporaryFile }

def rename (disk : Disk α) (file : Nat) : Disk α :=
  { disk with published := some file, temporary := none }

end Disk

/-- Writing at the end appends. -/
theorem overwrite_end [Zero α] (content piece : List α) :
    overwrite content content.length piece = content ++ piece := by
  unfold overwrite
  split
  · rename_i empty
    rw [List.isEmpty_iff.mp empty, List.append_nil]
  · rw [Nat.sub_self, List.replicate_zero, List.append_nil, List.take_length,
      List.drop_eq_nil_of_le (Nat.le_add_right _ _), List.append_nil]

namespace Disk

variable {disk : Disk α}

theorem shown_eq_none (absent : disk.published = none) :
    disk.shown = none :=
  congrArg (Option.map _) absent

theorem shown_eq_some {file : Nat} (present : disk.published = some file) :
    disk.shown = some (disk.content file) :=
  congrArg (Option.map _) present

/-- The file is there, and it is not the temporary one. -/
def Stable (disk : Disk α) (file : Nat) : Prop :=
  file < disk.created ∧ disk.temporary ≠ some file

/-- The names lead to files that are there, and to different ones. -/
structure Apart (disk : Disk α) : Prop where
  published : ∀ file ∈ disk.published, disk.Stable file
  temporary : ∀ file ∈ disk.temporary, file < disk.created

/-- The stable files stay as they are. -/
def Keeps (disk disk' : Disk α) : Prop :=
  ∀ file, disk.Stable file →
    disk'.Stable file ∧ disk'.content file = disk.content file

theorem keeps_refl (disk : Disk α) : disk.Keeps disk :=
  fun _ stable => ⟨stable, rfl⟩

theorem temporaryFile_ne {file : Nat} (stable : disk.Stable file) :
    file ≠ disk.temporaryFile := by
  obtain ⟨old, notTemporary⟩ := stable
  unfold temporaryFile
  cases there : disk.temporary with
  | none =>
      rw [Option.getD_none]
      exact Nat.ne_of_lt old
  | some temporary =>
      rintro rfl
      exact notTemporary there

theorem keeps_openTemporary (disk : Disk α) :
    disk.Keeps disk.openTemporary := by
  intro file stable
  have differs := temporaryFile_ne stable
  refine ⟨⟨?_, fun same => differs (Option.some.inj same).symm⟩,
    Function.update_of_ne differs _ _⟩
  have old := stable.1
  unfold openTemporary
  dsimp only
  split <;> omega

theorem keeps_put [Zero α] {file : Nat}
    (isTemporary : disk.temporary = some file) (position : Nat)
    (piece : List α) : disk.Keeps (disk.put file position piece) := by
  rintro other ⟨old, notTemporary⟩
  have differs : other ≠ file := by
    rintro rfl
    exact notTemporary isTemporary
  exact ⟨⟨old, notTemporary⟩, Function.update_of_ne differs _ _⟩

theorem keeps_rename (disk : Disk α) (file : Nat) :
    disk.Keeps (disk.rename file) :=
  fun _ stable => ⟨⟨stable.1, fun same => by cases same⟩, rfl⟩

end Disk

def settled (seen : Option Nat) : Outcome ⊕ Held → Phase α Held Outcome
  | .inl outcome => .done outcome
  | .inr held => .ready held seen

/-- Where a process is after a step that may have failed. -/
def doneOr (next : Phase α Held Outcome) :
    Option Outcome → Phase α Held Outcome
  | some outcome => .done outcome
  | none => next

variable [DecidableEq Process] [Zero α]
  (system : FileProcesses Process α Held Outcome)

def Config.moved (config : Config Process α Held Outcome) (process : Process)
    (disk : Disk α) (phase : Phase α Held Outcome) :
    Config Process α Held Outcome :=
  ⟨disk, Function.update config.phase process phase⟩

/-- A process that is not where the event has it does nothing. -/
def step (config : Config Process α Held Outcome) :
    Event Process → Config Process α Held Outcome
  | .openFile process =>
      match config.phase process with
      | .idle =>
          match config.disk.published with
          | none => config.moved process config.disk
              (settled none (system.settle process none))
          | some file => config.moved process config.disk (.reading file [])
      | _ => config
  | .read process count =>
      match config.phase process with
      | .reading file got =>
          match (config.disk.content file).drop got.length with
          | [] => config.moved process config.disk
              (settled (some file) (system.settle process (some got)))
          | first :: rest => config.moved process config.disk
              (.reading file (got ++ first :: rest.take count))
      | _ => config
  | .openTemporary process =>
      match config.phase process with
      | .ready held seen =>
          match system.fails process held .create with
          | some outcome =>
              config.moved process config.disk (.done outcome)
          | none => config.moved process config.disk.openTemporary
              (.writing held seen config.disk.temporaryFile 0)
      | _ => config
  | .push process count =>
      match config.phase process with
      | .writing held seen file position =>
          let piece := ((system.text process held).drop position).take count
          config.moved process (config.disk.put file position piece)
            (.writing held seen file (position + piece.length))
      | _ => config
  | .close process =>
      match config.phase process with
      | .writing held seen file position =>
          config.moved process
            (config.disk.put file position
              ((system.text process held).drop position))
            (doneOr (.closed held seen) (system.fails process held .write))
      | _ => config
  | .rename process =>
      match config.phase process with
      | .closed held _ =>
          match system.fails process held .rename with
          | some outcome =>
              config.moved process config.disk (.done outcome)
          | none =>
              match config.disk.temporary with
              | none => config.moved process config.disk
                  (.done (system.missing process held))
              | some file => config.moved process (config.disk.rename file)
                  (.done (system.finished process held))
      | _ => config
  | .kill process =>
      match config.phase process with
      | .done _ => config
      | _ => config.moved process config.disk .killed

def run (config : Config Process α Held Outcome)
    (events : List (Event Process)) : Config Process α Held Outcome :=
  events.foldl system.step config

/-- The process has the temporary file open or is about to rename it. -/
def Phase.Saving : Phase α Held Outcome → Prop
  | .writing _ _ _ _ => True
  | .closed _ _ => True
  | _ => False

instance : (phase : Phase α Held Outcome) → Decidable phase.Saving
  | .writing _ _ _ _ => .isTrue trivial
  | .closed _ _ => .isTrue trivial
  | .idle => .isFalse id
  | .reading _ _ => .isFalse id
  | .ready _ _ => .isFalse id
  | .done _ => .isFalse id
  | .killed => .isFalse id

/-- The event opens the temporary file before another process is through with
it. -/
def Overlaps (config : Config Process α Held Outcome) :
    Event Process → Prop
  | .openTemporary process =>
      ∃ held seen, config.phase process = .ready held seen ∧
        system.fails process held .create = none ∧
        ∃ other, (config.phase other).Saving
  | _ => False

/-- The event replaces another file than the one its process has read. -/
def Stale (config : Config Process α Held Outcome) : Event Process → Prop
  | .rename process =>
      ∃ held seen, config.phase process = .closed held seen ∧
        system.fails process held .rename = none ∧
        seen ≠ config.disk.published
  | _ => False

/-- No event of the run is bad when it happens. -/
def Avoids (bad : Config Process α Held Outcome → Event Process → Prop)
    (config : Config Process α Held Outcome) : List (Event Process) → Prop
  | [] => True
  | event :: events =>
      ¬ bad config event ∧ Avoids bad (system.step config event) events

/-- How the process fails, if any step of its write does. -/
def failure (process : Process) (held : Held) : Option Outcome :=
  system.fails process held .create <|>
    system.fails process held .write <|>
      system.fails process held .rename

/-- Each read and each write is one step. -/
def atomic : ReadModifyWrite Process (Option (List α)) Held Outcome where
  read := system.settle
  write process held content :=
    match system.failure process held with
    | some outcome => (outcome, content)
    | none =>
        (system.finished process held, some (system.text process held))

/-- The disk and the phase of its process that an event leads to. -/
inductive Effect (system : FileProcesses Process α Held Outcome)
    (config : Config Process α Held Outcome) :
    Event Process → Disk α → Phase α Held Outcome → Prop
  | absent {process} (idle : config.phase process = .idle)
      (absent : config.disk.published = none) :
      Effect system config (.openFile process) config.disk
        (settled none (system.settle process none))
  | opened {process file} (idle : config.phase process = .idle)
      (present : config.disk.published = some file) :
      Effect system config (.openFile process) config.disk (.reading file [])
  | piece {process count file got first rest}
      (reading : config.phase process = .reading file got)
      (left : (config.disk.content file).drop got.length = first :: rest) :
      Effect system config (.read process count) config.disk
        (.reading file (got ++ first :: rest.take count))
  | ended {process count file got}
      (reading : config.phase process = .reading file got)
      (left : (config.disk.content file).drop got.length = []) :
      Effect system config (.read process count) config.disk
        (settled (some file) (system.settle process (some got)))
  | refused {process held seen outcome}
      (ready : config.phase process = .ready held seen)
      (fails : system.fails process held .create = some outcome) :
      Effect system config (.openTemporary process) config.disk
        (.done outcome)
  | created {process held seen}
      (ready : config.phase process = .ready held seen)
      (works : system.fails process held .create = none) :
      Effect system config (.openTemporary process) config.disk.openTemporary
        (.writing held seen config.disk.temporaryFile 0)
  | pushed {process held seen file position count}
      (writing : config.phase process = .writing held seen file position) :
      Effect system config (.push process count)
        (config.disk.put file position
          (((system.text process held).drop position).take count))
        (.writing held seen file (position +
          (((system.text process held).drop position).take count).length))
  | closed {process held seen file position}
      (writing : config.phase process = .writing held seen file position) :
      Effect system config (.close process)
        (config.disk.put file position
          ((system.text process held).drop position))
        (doneOr (.closed held seen) (system.fails process held .write))
  | notRenamed {process held seen outcome}
      (closed : config.phase process = .closed held seen)
      (fails : system.fails process held .rename = some outcome) :
      Effect system config (.rename process) config.disk (.done outcome)
  | missing {process held seen}
      (closed : config.phase process = .closed held seen)
      (works : system.fails process held .rename = none)
      (gone : config.disk.temporary = none) :
      Effect system config (.rename process) config.disk
        (.done (system.missing process held))
  | renamed {process held seen file}
      (closed : config.phase process = .closed held seen)
      (works : system.fails process held .rename = none)
      (there : config.disk.temporary = some file) :
      Effect system config (.rename process) (config.disk.rename file)
        (.done (system.finished process held))
  | killed {process}
      (running : ∀ outcome, config.phase process ≠ .done outcome) :
      Effect system config (.kill process) config.disk .killed

variable {system} {config : Config Process α Held Outcome}
  {process : Process} {held : Held} {seen : Option Nat} {file position : Nat}
  {got : List α} {outcome : Outcome}

/-- An event does nothing or has its effect on its own process. -/
theorem step_cases (event : Event Process) :
    system.step config event = config ∨
      ∃ disk phase, Effect system config event disk phase ∧
        system.step config event = config.moved event.process disk phase := by
  cases event with
  | openFile process =>
      cases here : config.phase process with
      | idle =>
          cases present : config.disk.published with
          | none => exact .inr ⟨_, _, .absent here present, by
              simp only [step, here, present]; rfl⟩
          | some file => exact .inr ⟨_, _, .opened here present, by
              simp only [step, here, present]; rfl⟩
      | _ => exact .inl (by simp only [step, here])
  | read process count =>
      cases here : config.phase process with
      | reading file got =>
          cases left : (config.disk.content file).drop got.length with
          | nil => exact .inr ⟨_, _, .ended here left, by
              simp only [step, here, left]; rfl⟩
          | cons first rest => exact .inr ⟨_, _, .piece here left, by
              simp only [step, here, left]; rfl⟩
      | _ => exact .inl (by simp only [step, here])
  | openTemporary process =>
      cases here : config.phase process with
      | ready held seen =>
          cases fails : system.fails process held .create with
          | none => exact .inr ⟨_, _, .created here fails, by
              simp only [step, here, fails]; rfl⟩
          | some outcome => exact .inr ⟨_, _, .refused here fails, by
              simp only [step, here, fails]; rfl⟩
      | _ => exact .inl (by simp only [step, here])
  | push process count =>
      cases here : config.phase process with
      | writing held seen file position =>
          exact .inr ⟨_, _, .pushed here, by simp only [step, here]; rfl⟩
      | _ => exact .inl (by simp only [step, here])
  | close process =>
      cases here : config.phase process with
      | writing held seen file position =>
          exact .inr ⟨_, _, .closed here, by simp only [step, here]; rfl⟩
      | _ => exact .inl (by simp only [step, here])
  | rename process =>
      cases here : config.phase process with
      | closed held seen =>
          cases fails : system.fails process held .rename with
          | some outcome => exact .inr ⟨_, _, .notRenamed here fails, by
              simp only [step, here, fails]; rfl⟩
          | none =>
              cases there : config.disk.temporary with
              | none => exact .inr ⟨_, _, .missing here fails there, by
                  simp only [step, here, fails, there]; rfl⟩
              | some file => exact .inr ⟨_, _, .renamed here fails there, by
                  simp only [step, here, fails, there]; rfl⟩
      | _ => exact .inl (by simp only [step, here])
  | kill process =>
      cases here : config.phase process with
      | done outcome => exact .inl (by simp only [step, here])
      | _ => exact .inr ⟨_, _, .killed (by simp [here]), by
          simp only [step, here]; rfl⟩

/-- What holds of a process in this phase: what it has read is the beginning of
a file that no one writes any more, and what it has written is all that the
temporary file holds. -/
def Sound (system : FileProcesses Process α Held Outcome) (disk : Disk α)
    (process : Process) : Phase α Held Outcome → Prop
  | .idle => True
  | .reading file got => disk.Stable file ∧ got <+: disk.content file
  | .ready _ seen => ∀ file ∈ seen, disk.Stable file
  | .writing held seen file position =>
      (∀ file ∈ seen, disk.Stable file) ∧
        system.fails process held .create = none ∧
        disk.temporary = some file ∧
        (disk.content file).length = position ∧
        disk.content file ++ (system.text process held).drop position =
          system.text process held
  | .closed held seen =>
      (∀ file ∈ seen, disk.Stable file) ∧
        system.fails process held .create = none ∧
        system.fails process held .write = none ∧
        ∃ file, disk.temporary = some file ∧
          disk.content file = system.text process held
  | .done _ => True
  | .killed => True

/-- Every process is as it should be, and one at most is writing. -/
structure Whole (system : FileProcesses Process α Held Outcome)
    (config : Config Process α Held Outcome) : Prop where
  published : ∀ file ∈ config.disk.published, config.disk.Stable file
  temporary : ∀ file ∈ config.disk.temporary, file < config.disk.created
  sound : ∀ process, system.Sound config.disk process (config.phase process)
  alone : ∀ process other, (config.phase process).Saving →
    (config.phase other).Saving → process = other

omit [DecidableEq Process] [Zero α] in
theorem whole_start {disk : Disk α} (apart : disk.Apart) :
    system.Whole (start disk) where
  published := apart.published
  temporary := apart.temporary
  sound _ := trivial
  alone _ _ saving := saving.elim

/-- What an effect leaves whole. -/
structure Careful (system : FileProcesses Process α Held Outcome)
    (config : Config Process α Held Outcome) (process : Process)
    (disk : Disk α) (phase : Phase α Held Outcome) : Prop where
  keeps : config.disk.Keeps disk
  published : ∀ file ∈ disk.published, disk.Stable file
  temporary : ∀ file ∈ disk.temporary, file < disk.created
  sound : system.Sound disk process phase
  /-- The disk changes, or the process writes, while no other writes. -/
  alone : (disk = config.disk ∧ ¬ phase.Saving) ∨
    ∀ other, other ≠ process → ¬ (config.phase other).Saving

omit [DecidableEq Process] [Zero α] in
/-- A phase that is not about to change the temporary file stays sound. -/
theorem Sound.of_keeps {disk disk' : Disk α} {phase : Phase α Held Outcome}
    (sound : system.Sound disk process phase) (keeps : disk.Keeps disk')
    (notSaving : ¬ phase.Saving) : system.Sound disk' process phase := by
  cases phase with
  | reading file got =>
      obtain ⟨stable, prefixed⟩ := sound
      obtain ⟨stable', same⟩ := keeps file stable
      exact ⟨stable', same ▸ prefixed⟩
  | ready held seen =>
      exact fun file member => (keeps file (sound file member)).1
  | writing held seen file position => exact absurd trivial notSaving
  | closed held seen => exact absurd trivial notSaving
  | idle => trivial
  | done outcome => trivial
  | killed => trivial

omit [Zero α] in
theorem Whole.moved (whole : system.Whole config) {disk : Disk α}
    {phase : Phase α Held Outcome}
    (careful : system.Careful config process disk phase) :
    system.Whole (config.moved process disk phase) where
  published := careful.published
  temporary := careful.temporary
  sound other := by
    change system.Sound disk other (Function.update config.phase process phase
      other)
    by_cases same : other = process
    · rw [same, Function.update_self]
      exact careful.sound
    · rw [Function.update_of_ne same]
      rcases careful.alone with ⟨unchanged, _⟩ | others
      · rw [unchanged]
        exact whole.sound other
      · exact (whole.sound other).of_keeps careful.keeps (others other same)
  alone one other oneSaves otherSaves := by
    change (Function.update config.phase process phase one).Saving at oneSaves
    change (Function.update config.phase process phase other).Saving
      at otherSaves
    by_cases isOne : one = process
    · by_cases isOther : other = process
      · rw [isOne, isOther]
      · rw [isOne, Function.update_self] at oneSaves
        rw [Function.update_of_ne isOther] at otherSaves
        rcases careful.alone with ⟨_, notSaving⟩ | others
        · exact absurd oneSaves notSaving
        · exact absurd otherSaves (others other isOther)
    · rw [Function.update_of_ne isOne] at oneSaves
      by_cases isOther : other = process
      · rw [isOther, Function.update_self] at otherSaves
        rcases careful.alone with ⟨_, notSaving⟩ | others
        · exact absurd otherSaves notSaving
        · exact absurd oneSaves (others one isOne)
      · rw [Function.update_of_ne isOther] at otherSaves
        exact whole.alone one other oneSaves otherSaves

omit [DecidableEq Process] [Zero α] in
theorem Whole.careful_sameDisk (whole : system.Whole config)
    {phase : Phase α Held Outcome}
    (sound : system.Sound config.disk process phase)
    (notSaving : ¬ phase.Saving) :
    system.Careful config process config.disk phase where
  keeps := Disk.keeps_refl _
  published := whole.published
  temporary := whole.temporary
  sound := sound
  alone := .inl ⟨rfl, notSaving⟩

omit [DecidableEq Process] [Zero α] in
theorem Whole.of_phase (whole : system.Whole config)
    {phase : Phase α Held Outcome} (here : config.phase process = phase) :
    system.Sound config.disk process phase :=
  here ▸ whole.sound process

omit [DecidableEq Process] [Zero α] in
/-- While a process is saving no other is. -/
theorem Whole.others (whole : system.Whole config)
    (saving : (config.phase process).Saving) (other : Process)
    (differs : other ≠ process) : ¬ (config.phase other).Saving :=
  fun otherSaving => differs (whole.alone other process otherSaving saving)

omit [DecidableEq Process] [Zero α] in
theorem Whole.published_of_keeps (whole : system.Whole config)
    {disk : Disk α} (keeps : config.disk.Keeps disk) :
    ∀ file ∈ config.disk.published, disk.Stable file :=
  fun file member => (keeps file (whole.published file member)).1

omit [DecidableEq Process] [Zero α] in
theorem Whole.others_of_writing (whole : system.Whole config)
    (writing : config.phase process = .writing held seen file position) :
    ∀ other, other ≠ process → ¬ (config.phase other).Saving := by
  apply whole.others
  rw [writing]
  trivial

omit [DecidableEq Process] [Zero α] in
theorem Whole.temporaryFile_lt (whole : system.Whole config) :
    config.disk.temporaryFile < config.disk.openTemporary.created := by
  unfold Disk.temporaryFile Disk.openTemporary
  cases there : config.disk.temporary with
  | none => exact Nat.lt_succ_self _
  | some file => exact whole.temporary file there

omit [DecidableEq Process] [Zero α] in
theorem settled_sound (disk : Disk α) (settles : Outcome ⊕ Held)
    (stable : ∀ file ∈ seen, disk.Stable file) :
    system.Sound disk process (settled seen settles) ∧
      ¬ (settled seen settles : Phase α Held Outcome).Saving := by
  cases settles with
  | inl outcome => exact ⟨trivial, id⟩
  | inr held => exact ⟨stable, id⟩

omit [DecidableEq Process] in
/-- A process that has pushed a piece of its text has appended it. -/
theorem Whole.push (whole : system.Whole config)
    (writing : config.phase process = .writing held seen file position)
    {piece : List α}
    (prefixed : piece <+: (system.text process held).drop position) :
    config.disk.Keeps (config.disk.put file position piece) ∧
      (∀ old ∈ seen, (config.disk.put file position piece).Stable old) ∧
      ((config.disk.put file position piece).content file).length =
        position + piece.length ∧
      (config.disk.put file position piece).content file ++
          (system.text process held).drop (position + piece.length) =
        system.text process held := by
  obtain ⟨stable, _, isTemporary, length, whole⟩ := whole.of_phase writing
  have keeps := Disk.keeps_put isTemporary position piece
  have appended : (config.disk.put file position piece).content file =
      config.disk.content file ++ piece := by
    change Function.update config.disk.content file _ file = _
    rw [Function.update_self, ← length, overwrite_end]
  refine ⟨keeps, fun old member => (keeps old (stable old member)).1, ?_, ?_⟩
  · rw [appended, List.length_append, length]
  · rw [appended, List.append_assoc, ← List.drop_drop,
      List.prefix_iff_eq_append.mp prefixed]
    exact whole

omit [DecidableEq Process] [Zero α] in
/-- The temporary file is emptied for one process while no other writes it. -/
theorem Whole.careful_created (whole : system.Whole config)
    (ready : config.phase process = .ready held seen)
    (works : system.fails process held .create = none)
    (others : ∀ other, ¬ (config.phase other).Saving) :
    system.Careful config process config.disk.openTemporary
      (.writing held seen config.disk.temporaryFile 0) := by
  have keeps := Disk.keeps_openTemporary config.disk
  have emptied : config.disk.openTemporary.content
      config.disk.temporaryFile = [] := Function.update_self _ _ _
  have seenStable := fun file member =>
    (keeps file (whole.of_phase ready file member)).1
  refine ⟨keeps, whole.published_of_keeps keeps, ?_,
    ⟨seenStable, works, rfl, ?_, ?_⟩, .inr fun other _ => others other⟩
  · rintro file ⟨⟩
    exact whole.temporaryFile_lt
  · rw [emptied, List.length_nil]
  · rw [emptied, List.nil_append, List.drop_zero]

omit [DecidableEq Process] [Zero α] in
/-- The name leads to the file that was the temporary one. -/
theorem Whole.careful_renamed (whole : system.Whole config)
    (closed : config.phase process = .closed held seen)
    (there : config.disk.temporary = some file) (outcome : Outcome) :
    system.Careful config process (config.disk.rename file) (.done outcome) := by
  have saving : (config.phase process).Saving := by
    rw [closed]
    trivial
  refine ⟨Disk.keeps_rename config.disk file, ?_, ?_, trivial,
    .inr (whole.others saving)⟩
  · rintro _ ⟨⟩
    exact ⟨whole.temporary file there, fun same => by cases same⟩
  · intro other member
    cases member

omit [DecidableEq Process] in
/-- Every effect that overlaps no other write leaves everything whole. -/
theorem Whole.careful (whole : system.Whole config)
    {event : Event Process} (apart : ¬ system.Overlaps config event)
    {disk : Disk α} {phase : Phase α Held Outcome}
    (effect : Effect system config event disk phase) :
    system.Careful config event.process disk phase := by
  cases effect with
  | absent idle absent =>
      have none : ∀ file ∈ (none : Option Nat), config.disk.Stable file :=
        fun file member => by cases member
      obtain ⟨sound, notSaving⟩ := settled_sound config.disk _ none
      exact whole.careful_sameDisk sound notSaving
  | opened idle present =>
      exact whole.careful_sameDisk
        ⟨whole.published _ present, List.nil_prefix⟩ id
  | @piece process count file got first rest reading left =>
      obtain ⟨stable, prefixed⟩ := whole.of_phase reading
      refine whole.careful_sameDisk ⟨stable, ?_⟩ id
      rw [← List.prefix_iff_eq_append.mp prefixed, left]
      exact (List.prefix_append_right_inj got).mpr
        (List.prefix_cons_inj first |>.mpr (List.take_prefix count rest))
  | @ended process count file got reading left =>
      have stable : ∀ old ∈ some file, config.disk.Stable old := by
        rintro old ⟨⟩
        exact (whole.of_phase reading).1
      obtain ⟨sound, notSaving⟩ := settled_sound config.disk _ stable
      exact whole.careful_sameDisk sound notSaving
  | refused ready fails => exact whole.careful_sameDisk trivial id
  | @created process held seen ready works =>
      apply whole.careful_created ready works
      intro other saving
      exact apart ⟨held, seen, ready, works, other, saving⟩
  | @pushed process held seen file position count writing =>
      obtain ⟨keeps, stable, length, text⟩ := whole.push writing
        (List.take_prefix count _)
      obtain ⟨_, works, isTemporary, _⟩ := whole.of_phase writing
      exact ⟨keeps, whole.published_of_keeps keeps, whole.temporary,
        ⟨stable, works, isTemporary, length, text⟩,
        .inr (whole.others_of_writing writing)⟩
  | @closed process held seen file position writing =>
      obtain ⟨keeps, stable, _, text⟩ := whole.push writing List.prefix_rfl
      obtain ⟨_, works, isTemporary, _⟩ := whole.of_phase writing
      refine ⟨keeps, whole.published_of_keeps keeps, whole.temporary, ?_,
        .inr (whole.others_of_writing writing)⟩
      cases fails : system.fails process held .write with
      | some outcome => trivial
      | none =>
          refine ⟨stable, works, fails, file, isTemporary, ?_⟩
          rwa [← List.drop_drop, List.drop_length, List.append_nil] at text
  | notRenamed closed fails => exact whole.careful_sameDisk trivial id
  | missing closed works gone => exact whole.careful_sameDisk trivial id
  | @renamed process held seen file closed works there =>
      exact whole.careful_renamed closed there _
  | killed running => exact whole.careful_sameDisk trivial id

end FileProcesses

end TeeAnchor
