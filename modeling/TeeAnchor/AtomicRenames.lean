import TeeAnchor.RenamedFiles

/-!
# A rename is the write

While no write overlaps another, a run of processes that read and write piece
by piece is a run in which each reads and writes in one step.  It reads when it
opens the file and writes when it renames the temporary one, so what it writes
is stale if and only if the name led to another file when it read.
-/

namespace TeeAnchor

namespace FileProcesses

variable {Process α Held Outcome : Type}

/-- The version that was read when the name led to this file. -/
def Recent (disk : Disk α) (current : Nat) (seen : Option Nat)
    (version : Nat) : Prop :=
  version ≤ current ∧ (seen = disk.published → version = current)

/-- Where the process is when it reads and writes in one step. -/
def Matches (system : FileProcesses Process α Held Outcome) (disk : Disk α)
    (current : Nat) (process : Process) :
    Phase α Held Outcome → ReadModifyWrite.Phase Held Outcome → Prop
  | .idle, phase => phase = .idle
  | .reading file _, phase =>
      ∃ version, Recent disk current (some file) version ∧
        phase = ReadModifyWrite.afterRead version
          (system.settle process (some (disk.content file)))
  | .ready held seen, phase =>
      ∃ version, Recent disk current seen version ∧
        phase = .holding held version
  | .writing held seen _ _, phase =>
      ∃ version, Recent disk current seen version ∧
        phase = .holding held version
  | .closed held seen, phase =>
      ∃ version, Recent disk current seen version ∧
        phase = .holding held version
  | .done outcome, phase =>
      phase = .done outcome ∨
        ∃ held step, system.fails process held step = some outcome
  | .killed, _ => True

/-- The same run with reads and writes of one step is here. -/
structure Represents (system : FileProcesses Process α Held Outcome)
    (config : Config Process α Held Outcome)
    (atomic : ReadModifyWrite.Config Process (Option (List α)) Held Outcome) :
    Prop where
  state : atomic.state = config.disk.shown
  phases : ∀ process, system.Matches config.disk atomic.version process
    (config.phase process) (atomic.phase process)

variable {system : FileProcesses Process α Held Outcome}

theorem represents_start (disk : Disk α) :
    system.Represents (start disk) (ReadModifyWrite.start disk.shown) where
  state := rfl
  phases _ := rfl

variable {config : Config Process α Held Outcome}
  {atomic : ReadModifyWrite.Config Process (Option (List α)) Held Outcome}
  {process : Process} {disk : Disk α} {phase : Phase α Held Outcome}

/-- What a settled process holds it has read at this version. -/
theorem matches_settled {current version : Nat} {seen : Option Nat}
    (recent : Recent disk current seen version)
    (settles : Outcome ⊕ Held) :
    system.Matches disk current process (settled seen settles)
      (ReadModifyWrite.afterRead version settles) := by
  cases settles with
  | inl outcome => exact .inl rfl
  | inr held => exact ⟨version, recent, rfl⟩

/-- Where a process is does not depend on files that are not stable. -/
theorem Matches.of_keeps {current current' : Nat} {disk' : Disk α}
    {atomicPhase : ReadModifyWrite.Phase Held Outcome}
    (matched : system.Matches disk current process phase atomicPhase)
    (sound : system.Sound disk process phase) (keeps : disk.Keeps disk')
    (recent : ∀ seen version, (∀ file ∈ seen, disk.Stable file) →
      Recent disk current seen version → Recent disk' current' seen version) :
    system.Matches disk' current' process phase atomicPhase := by
  cases phase with
  | idle => exact matched
  | reading file got =>
      obtain ⟨version, isRecent, isPhase⟩ := matched
      have stable : ∀ old ∈ some file, disk.Stable old := by
        rintro old ⟨⟩
        exact sound.1
      refine ⟨version, recent _ _ stable isRecent, ?_⟩
      rw [isPhase, (keeps file sound.1).2]
  | ready held seen =>
      obtain ⟨version, isRecent, isPhase⟩ := matched
      exact ⟨version, recent _ _ sound isRecent, isPhase⟩
  | writing held seen file position =>
      obtain ⟨version, isRecent, isPhase⟩ := matched
      exact ⟨version, recent _ _ sound.1 isRecent, isPhase⟩
  | closed held seen =>
      obtain ⟨version, isRecent, isPhase⟩ := matched
      exact ⟨version, recent _ _ sound.1 isRecent, isPhase⟩
  | done outcome => exact matched
  | killed => trivial

theorem Represents.of_phase (represents : system.Represents config atomic)
    (here : config.phase process = phase) :
    system.Matches config.disk atomic.version process phase
      (atomic.phase process) :=
  here ▸ represents.phases process

/-- A process that finds nothing more has read all. -/
theorem Whole.got_all (whole : system.Whole config) {file : Nat}
    {got : List α} (reading : config.phase process = .reading file got)
    (left : (config.disk.content file).drop got.length = []) :
    got = config.disk.content file := by
  have split := List.prefix_iff_eq_append.mp (whole.of_phase reading).2
  rwa [left, List.append_nil] at split

theorem Whole.shown_of_keeps (whole : system.Whole config)
    (keeps : config.disk.Keeps disk)
    (published : disk.published = config.disk.published) :
    disk.shown = config.disk.shown := by
  unfold Disk.shown
  rw [published]
  cases shown : config.disk.published with
  | none => rfl
  | some file =>
      exact congrArg some (keeps file (whole.published file shown)).2

variable [DecidableEq Process]

/-- A step that the same run with reads and writes of one step does not
take. -/
theorem Represents.stutter (represents : system.Represents config atomic)
    (whole : system.Whole config) (keeps : config.disk.Keeps disk)
    (published : disk.published = config.disk.published)
    (matched : system.Matches disk atomic.version process phase
      (atomic.phase process)) :
    system.Represents (config.moved process disk phase) atomic where
  state := represents.state.trans (whole.shown_of_keeps keeps published).symm
  phases other := by
    change system.Matches disk atomic.version other
      (Function.update config.phase process phase other) (atomic.phase other)
    by_cases same : other = process
    · rw [same, Function.update_self]
      exact matched
    · rw [Function.update_of_ne same]
      refine (represents.phases other).of_keeps (whole.sound other) keeps ?_
      rintro seen version _ ⟨before, now⟩
      exact ⟨before, published ▸ now⟩

/-- A process that reads in one step. -/
theorem Represents.read (represents : system.Represents config atomic)
    (idle : atomic.phase process = .idle)
    (matched : system.Matches config.disk atomic.version process phase
      (ReadModifyWrite.afterRead atomic.version
        (system.settle process config.disk.shown))) :
    system.Represents (config.moved process config.disk phase)
      (system.atomic.step atomic (.read process)) := by
  rw [ReadModifyWrite.step_read_idle idle]
  refine ⟨represents.state, fun other => ?_⟩
  change system.Matches config.disk atomic.version other
    (Function.update config.phase process phase other)
    (Function.update atomic.phase process (ReadModifyWrite.afterRead
      atomic.version (system.settle process atomic.state)) other)
  by_cases same : other = process
  · rw [same, Function.update_self, Function.update_self, represents.state]
    exact matched
  · rw [Function.update_of_ne same, Function.update_of_ne same]
    exact represents.phases other

omit [DecidableEq Process] in
theorem failure_eq_none {held : Held}
    (opens : system.fails process held .create = none)
    (writes : system.fails process held .write = none)
    (renames : system.fails process held .rename = none) :
    system.failure process held = none := by
  unfold failure
  rw [opens, writes, renames]
  rfl

/-- A process that renames the temporary file writes in one step. -/
theorem Represents.rename (represents : system.Represents config atomic)
    (whole : system.Whole config) {held : Held} {seen : Option Nat}
    (closed : config.phase process = .closed held seen)
    (works : system.fails process held .rename = none) {file : Nat}
    (there : config.disk.temporary = some file) :
    (¬ system.Stale config (.rename process) →
        ¬ ReadModifyWrite.Stale atomic (.write process)) ∧
      system.Represents
        (config.moved process (config.disk.rename file)
          (.done (system.finished process held)))
        (system.atomic.step atomic (.write process)) := by
  obtain ⟨version, recent, holding⟩ := represents.of_phase closed
  obtain ⟨_, opens, writes, other, isTemporary, content⟩ :=
    whole.of_phase closed
  cases there.symm.trans isTemporary
  constructor
  · rintro fresh ⟨held', version', holding', stale⟩
    cases holding.symm.trans holding'
    refine fresh ⟨held, seen, closed, works, fun same => stale ?_⟩
    exact recent.2 same
  · rw [ReadModifyWrite.step_write_holding holding]
    have written : system.atomic.write process held atomic.state =
        (system.finished process held, some (system.text process held)) := by
      simp only [FileProcesses.atomic, failure_eq_none opens writes works]
    rw [written]
    refine ⟨congrArg some content.symm, fun one => ?_⟩
    change system.Matches (config.disk.rename file) (atomic.version + 1) one
      (Function.update config.phase process _ one)
      (Function.update atomic.phase process _ one)
    by_cases same : one = process
    · rw [same, Function.update_self, Function.update_self]
      exact .inl rfl
    · rw [Function.update_of_ne same, Function.update_of_ne same]
      refine (represents.phases one).of_keeps (whole.sound one)
        (Disk.keeps_rename _ _) ?_
      -- Nobody has read the file that has just got its name.
      rintro seen' version' stable ⟨before, _⟩
      refine ⟨Nat.le_succ_of_le before, fun same => ?_⟩
      exact absurd there (stable file same).2

/-- Every step is one step of the run with reads and writes of one step, or
none. -/
theorem Represents.step (represents : system.Represents config atomic)
    [Zero α] (whole : system.Whole config) {event : Event Process}
    (apart : ¬ system.Overlaps config event) :
    system.Represents (system.step config event) atomic ∨
      ∃ move, (¬ system.Stale config event →
          ¬ ReadModifyWrite.Stale atomic move) ∧
        system.Represents (system.step config event)
          (system.atomic.step atomic move) := by
  rcases @step_cases _ _ _ _ _ _ system config event with
    nothing | ⟨disk, phase, effect, moved⟩
  · left
    rw [nothing]
    exact represents
  · rw [moved]
    have keeps := (whole.careful apart effect).keeps
    cases effect with
    | @absent process idle absent =>
        refine .inr ⟨.read process, fun _ => id,
          represents.read (represents.of_phase idle) ?_⟩
        rw [Disk.shown_eq_none absent]
        exact matches_settled ⟨Nat.le_refl _, fun _ => rfl⟩ _
    | @opened process file idle present =>
        refine .inr ⟨.read process, fun _ => id,
          represents.read (represents.of_phase idle) ?_⟩
        rw [Disk.shown_eq_some present]
        exact ⟨_, ⟨Nat.le_refl _, fun _ => rfl⟩, rfl⟩
    | @piece process count file got first rest reading left =>
        have matched := represents.of_phase reading
        exact .inl (represents.stutter whole keeps rfl matched)
    | @ended process count file got reading left =>
        obtain ⟨version, recent, isPhase⟩ := represents.of_phase reading
        have matched : system.Matches config.disk atomic.version process
            (settled (some file) (system.settle process (some got)))
            (atomic.phase process) := by
          rw [isPhase, whole.got_all reading left]
          exact matches_settled recent _
        exact .inl (represents.stutter whole keeps rfl matched)
    | @refused process held seen outcome ready fails =>
        exact .inl (represents.stutter whole keeps rfl
          (.inr ⟨held, .create, fails⟩))
    | @created process held seen ready works =>
        exact .inl (represents.stutter whole keeps rfl
          (represents.of_phase ready))
    | @pushed process held seen file position count writing =>
        exact .inl (represents.stutter whole keeps rfl
          (represents.of_phase writing))
    | @closed process held seen file position writing =>
        refine .inl (represents.stutter whole keeps rfl ?_)
        cases fails : system.fails process held .write with
        | none => exact represents.of_phase writing
        | some outcome => exact .inr ⟨held, .write, fails⟩
    | @notRenamed process held seen outcome closed fails =>
        exact .inl (represents.stutter whole keeps rfl
          (.inr ⟨held, .rename, fails⟩))
    | @missing process held seen closed works gone =>
        obtain ⟨_, _, _, file, there, _⟩ := whole.of_phase closed
        cases gone.symm.trans there
    | @renamed process held seen file closed works there =>
        exact .inr ⟨_, represents.rename whole closed works there⟩
    | killed running =>
        exact .inl (represents.stutter whole keeps rfl trivial)

variable [Zero α]

theorem Whole.step (whole : system.Whole config) {event : Event Process}
    (apart : ¬ system.Overlaps config event) :
    system.Whole (system.step config event) := by
  rcases @step_cases _ _ _ _ _ _ system config event with
    nothing | ⟨disk, phase, effect, moved⟩
  · rwa [nothing]
  · rw [moved]
    exact whole.moved (whole.careful apart effect)

/-- Without overlapping writes a run is one with reads and writes of one
step. -/
theorem exists_atomic_run (whole : system.Whole config)
    (represents : system.Represents config atomic)
    {events : List (Event Process)}
    (apart : system.Avoids system.Overlaps config events) :
    ∃ moves, moves.length ≤ events.length ∧
      (system.Avoids system.Stale config events →
        system.atomic.NoStaleWrite atomic moves) ∧
      system.Represents (system.run config events)
        (system.atomic.run atomic moves) := by
  induction events generalizing config atomic with
  | nil => exact ⟨[], Nat.le_refl _, fun _ => trivial, represents⟩
  | cons event events ih =>
      obtain ⟨here, later⟩ := apart
      have next := whole.step here
      rcases represents.step whole here with same | ⟨move, fresh, moved⟩
      · obtain ⟨moves, few, rest, ends⟩ := ih next same later
        exact ⟨moves, Nat.le_succ_of_le few, fun both => rest both.2, ends⟩
      · obtain ⟨moves, few, rest, ends⟩ := ih next moved later
        exact ⟨move :: moves, Nat.succ_le_succ few,
          fun both => ⟨fresh both.1, rest both.2⟩, ends⟩

theorem step_done {outcome : Outcome} (event : Event Process)
    (done : config.phase process = .done outcome) :
    (system.step config event).phase process = .done outcome := by
  rcases @step_cases _ _ _ _ _ _ system config event with
    nothing | ⟨disk, phase, effect, moved⟩
  · rwa [nothing]
  · have differs : process ≠ event.process := by
      rintro rfl
      cases effect with
      | absent idle absent => cases done.symm.trans idle
      | opened idle present => cases done.symm.trans idle
      | piece reading left => cases done.symm.trans reading
      | ended reading left => cases done.symm.trans reading
      | refused ready fails => cases done.symm.trans ready
      | created ready works => cases done.symm.trans ready
      | pushed writing => cases done.symm.trans writing
      | closed writing => cases done.symm.trans writing
      | notRenamed closed fails => cases done.symm.trans closed
      | missing closed works gone => cases done.symm.trans closed
      | renamed closed works there => cases done.symm.trans closed
      | killed running => exact running _ done
    rw [moved]
    exact (Function.update_of_ne differs _ _).trans done

theorem run_append (first second : List (Event Process)) :
    system.run config (first ++ second) =
      system.run (system.run config first) second :=
  List.foldl_append

theorem run_done {outcome : Outcome} (events : List (Event Process))
    (done : config.phase process = .done outcome) :
    (system.run config events).phase process = .done outcome := by
  induction events generalizing config with
  | nil => exact done
  | cons event events ih => exact ih (step_done event done)

/-- The name leads to the file of the beginning or to one that a process has
written and is done with. -/
def Authored (system : FileProcesses Process α Held Outcome)
    (first : Option (List α)) (config : Config Process α Held Outcome) :
    Prop :=
  config.disk.shown = first ∨
    ∃ process held,
      config.phase process = .done (system.finished process held) ∧
        system.failure process held = none ∧
        config.disk.shown = some (system.text process held)

/-- A step shows what was shown before, or its process has finished. -/
theorem shown_step (whole : system.Whole config) {event : Event Process}
    (apart : ¬ system.Overlaps config event) :
    (system.step config event).disk.shown = config.disk.shown ∨
      ∃ held, (system.step config event).phase event.process =
          .done (system.finished event.process held) ∧
        system.failure event.process held = none ∧
        (system.step config event).disk.shown =
          some (system.text event.process held) := by
  rcases @step_cases _ _ _ _ _ _ system config event with
    nothing | ⟨disk, phase, effect, moved⟩
  · exact .inl (by rw [nothing])
  · rw [moved]
    have keeps := (whole.careful apart effect).keeps
    cases effect with
    | @renamed process held seen file closed works there =>
        obtain ⟨_, opens, writes, other, isTemporary, content⟩ :=
          whole.of_phase closed
        cases there.symm.trans isTemporary
        exact .inr ⟨held, Function.update_self _ _ _,
          failure_eq_none opens writes works, congrArg some content⟩
    | _ => exact .inl (whole.shown_of_keeps keeps rfl)

theorem Authored.step {first : Option (List α)}
    (authored : system.Authored first config) (whole : system.Whole config)
    {event : Event Process} (apart : ¬ system.Overlaps config event) :
    system.Authored first (system.step config event) := by
  rcases shown_step whole apart with same | finished
  · rcases authored with initial | ⟨process, held, done, works, shown⟩
    · exact .inl (same.trans initial)
    · exact .inr ⟨process, held, step_done event done, works,
        same.trans shown⟩
  · exact .inr ⟨event.process, finished⟩

/-- The process has read one of these contents, and what it holds or how it
ended is what it makes of that. -/
def Origin (system : FileProcesses Process α Held Outcome)
    (contents : Option (List α) → Prop) (disk : Disk α) (process : Process) :
    Phase α Held Outcome → Prop
  | .idle => True
  | .reading file _ => contents (some (disk.content file))
  | .ready held _ =>
      ∃ content, contents content ∧ system.settle process content = .inr held
  | .writing held _ _ _ =>
      ∃ content, contents content ∧ system.settle process content = .inr held
  | .closed held _ =>
      ∃ content, contents content ∧ system.settle process content = .inr held
  | .done outcome =>
      ∃ content, contents content ∧
        (system.settle process content = .inl outcome ∨
          ∃ held, system.settle process content = .inr held ∧
            (outcome = system.finished process held ∨
              ∃ step, system.fails process held step = some outcome))
  | .killed => True

omit [DecidableEq Process] [Zero α] in
theorem Origin.of_keeps {contents : Option (List α) → Prop} {disk' : Disk α}
    (origin : system.Origin contents disk process phase)
    (sound : system.Sound disk process phase) (keeps : disk.Keeps disk') :
    system.Origin contents disk' process phase := by
  cases phase with
  | reading file got =>
      change contents (some (disk'.content file))
      rw [(keeps file sound.1).2]
      exact origin
  | _ => exact origin

omit [DecidableEq Process] [Zero α] in
theorem origin_settled {contents : Option (List α) → Prop}
    {content : Option (List α)} (member : contents content)
    (seen : Option Nat) : system.Origin contents disk process
      (settled seen (system.settle process content)) := by
  cases settles : system.settle process content with
  | inl outcome => exact ⟨content, member, .inl settles⟩
  | inr held => exact ⟨content, member, settles⟩

omit [DecidableEq Process] in
theorem origin_effect {contents : Option (List α) → Prop}
    (whole : system.Whole config)
    (origin : ∀ process, system.Origin contents config.disk process
      (config.phase process)) (member : contents config.disk.shown)
    {event : Event Process}
    (effect : Effect system config event disk phase) :
    system.Origin contents disk event.process phase := by
  have atPhase : ∀ {process phase}, config.phase process = phase →
      system.Origin contents config.disk process phase :=
    fun here => here ▸ origin _
  cases effect with
  | @absent process idle absent =>
      exact origin_settled (Disk.shown_eq_none absent ▸ member) _
  | @opened process file idle present =>
      change contents (some (config.disk.content file))
      rw [← Disk.shown_eq_some present]
      exact member
  | @piece process count file got first rest reading left =>
      have origin := atPhase reading
      exact origin
  | @ended process count file got reading left =>
      rw [whole.got_all reading left]
      exact origin_settled (atPhase reading) _
  | @refused process held seen outcome ready fails =>
      obtain ⟨content, shown, settles⟩ := atPhase ready
      exact ⟨content, shown, .inr ⟨held, settles, .inr ⟨_, fails⟩⟩⟩
  | @created process held seen ready works => exact atPhase ready
  | @pushed process held seen file position count writing =>
      exact atPhase writing
  | @closed process held seen file position writing =>
      cases fails : system.fails process held .write with
      | none => exact atPhase writing
      | some outcome =>
          obtain ⟨content, shown, settles⟩ := atPhase writing
          exact ⟨content, shown, .inr ⟨held, settles, .inr ⟨_, fails⟩⟩⟩
  | @notRenamed process held seen outcome closed fails =>
      obtain ⟨content, shown, settles⟩ := atPhase closed
      exact ⟨content, shown, .inr ⟨held, settles, .inr ⟨_, fails⟩⟩⟩
  | @missing process held seen closed works gone =>
      obtain ⟨_, _, _, file, there, _⟩ := whole.of_phase closed
      cases gone.symm.trans there
  | @renamed process held seen file closed works there =>
      obtain ⟨content, shown, settles⟩ := atPhase closed
      exact ⟨content, shown, .inr ⟨held, settles, .inl rfl⟩⟩
  | killed running => trivial

/-- The name shows this content at some time of the run. -/
def ShownIn (system : FileProcesses Process α Held Outcome)
    (config : Config Process α Held Outcome) (events : List (Event Process))
    (content : Option (List α)) : Prop :=
  ∃ first, first <+: events ∧ (system.run config first).disk.shown = content

theorem origin_step {contents : Option (List α) → Prop}
    (whole : system.Whole config)
    (origin : ∀ process, system.Origin contents config.disk process
      (config.phase process)) (member : contents config.disk.shown)
    {event : Event Process} (apart : ¬ system.Overlaps config event)
    (process : Process) :
    system.Origin contents (system.step config event).disk process
      ((system.step config event).phase process) := by
  rcases @step_cases _ _ _ _ _ _ system config event with
    nothing | ⟨disk, phase, effect, moved⟩
  · rw [nothing]
    exact origin process
  · rw [moved]
    change system.Origin contents disk process
      (Function.update config.phase event.process phase process)
    by_cases same : process = event.process
    · rw [same, Function.update_self]
      exact origin_effect whole origin member effect
    · rw [Function.update_of_ne same]
      exact (origin process).of_keeps (whole.sound process)
        (whole.careful apart effect).keeps

/-- Without overlapping writes the name always shows the first content or one
that a process has written, and every process works on a content that the name
has shown. -/
theorem run_authored_and_origin {contents : Option (List α) → Prop}
    {first : Option (List α)} (whole : system.Whole config)
    (authored : system.Authored first config)
    (origin : ∀ process, system.Origin contents config.disk process
      (config.phase process)) {events : List (Event Process)}
    (shown : ∀ content, system.ShownIn config events content →
      contents content)
    (apart : system.Avoids system.Overlaps config events) :
    system.Authored first (system.run config events) ∧
      ∀ process, system.Origin contents (system.run config events).disk
        process ((system.run config events).phase process) := by
  induction events generalizing config with
  | nil => exact ⟨authored, origin⟩
  | cons event events ih =>
      obtain ⟨here, later⟩ := apart
      have member : contents config.disk.shown :=
        shown _ ⟨[], List.nil_prefix, rfl⟩
      apply ih (whole.step here) (authored.step whole here)
        (origin_step whole origin member here) _ later
      rintro content ⟨before, isPrefix, isShown⟩
      exact shown content
        ⟨event :: before, (List.prefix_cons_inj event).mpr isPrefix, isShown⟩

end FileProcesses

end TeeAnchor
