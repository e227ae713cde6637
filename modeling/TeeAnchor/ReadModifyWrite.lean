import Mathlib.Logic.Function.Basic
import Mathlib.Tactic.Push

/-!
# Processes that read a shared state and write it back later

A process reads the state once and either ends or holds something to write,
which it computes from what it read alone.  Its write comes later, and other
processes may write between.  A write is stale if one did.  Without stale
writes every write may be taken as one step with its read: what the process
holds is what it would read at the time of the write.
-/

namespace TeeAnchor

/-- What each process does with the shared state. -/
structure ReadModifyWrite (Process State Held Outcome : Type) where
  /-- Reading ends the process or gives it something to write. -/
  read : Process → State → Outcome ⊕ Held
  write : Process → Held → State → Outcome × State

namespace ReadModifyWrite

variable {Process State Held Outcome : Type}

inductive Phase (Held Outcome : Type)
  | idle
  /-- The process has read, when so many writes had been made. -/
  | holding (held : Held) (version : Nat)
  | done (outcome : Outcome)

/-- The shared state, the number of writes made to it and where each process
is. -/
structure Config (Process State Held Outcome : Type) where
  state : State
  version : Nat
  phase : Process → Phase Held Outcome

inductive Event (Process : Type)
  | read (process : Process)
  | write (process : Process)

def Event.process : Event Process → Process
  | .read process => process
  | .write process => process

def start (state : State) : Config Process State Held Outcome :=
  ⟨state, 0, fun _ => .idle⟩

/-- Where a read leaves its process. -/
def afterRead (version : Nat) : Outcome ⊕ Held → Phase Held Outcome
  | .inl outcome => .done outcome
  | .inr held => .holding held version

variable [DecidableEq Process]
  (system : ReadModifyWrite Process State Held Outcome)

/-- A process that reads when it is not idle, or writes when it holds nothing,
does nothing. -/
def step (config : Config Process State Held Outcome) :
    Event Process → Config Process State Held Outcome
  | .read process =>
      match config.phase process with
      | .idle =>
          { config with
            phase := Function.update config.phase process
              (afterRead config.version
                (system.read process config.state)) }
      | _ => config
  | .write process =>
      match config.phase process with
      | .holding held _ =>
          let written := system.write process held config.state
          ⟨written.2, config.version + 1,
            Function.update config.phase process (.done written.1)⟩
      | _ => config

def run (config : Config Process State Held Outcome)
    (events : List (Event Process)) : Config Process State Held Outcome :=
  events.foldl system.step config

/-- The event writes what was read before another write. -/
def Stale (config : Config Process State Held Outcome) :
    Event Process → Prop
  | .read _ => False
  | .write process =>
      ∃ held version, config.phase process = .holding held version ∧
        version ≠ config.version

/-- No write of the run is stale. -/
def NoStaleWrite (config : Config Process State Held Outcome) :
    List (Event Process) → Prop
  | [] => True
  | event :: events =>
      ¬ Stale config event ∧ NoStaleWrite (system.step config event) events

/-- What was read since the last write is what would be read now. -/
def Current (config : Config Process State Held Outcome) : Prop :=
  ∀ process held version, config.phase process = .holding held version →
    version ≤ config.version ∧
      (version = config.version →
        system.read process config.state = .inr held)

variable {system}

variable {config : Config Process State Held Outcome} {process : Process}

theorem step_read_idle (idle : config.phase process = .idle) :
    system.step config (.read process) =
      { config with
        phase := Function.update config.phase process
          (afterRead config.version (system.read process config.state)) } := by
  simp only [step, idle]

theorem step_read_busy (busy : config.phase process ≠ .idle) :
    system.step config (.read process) = config := by
  unfold step
  cases phase : config.phase process with
  | idle => exact absurd phase busy
  | holding held version => simp only [phase]
  | done outcome => simp only [phase]

theorem step_write_holding {held : Held} {version : Nat}
    (holds : config.phase process = .holding held version) :
    system.step config (.write process) =
      ⟨(system.write process held config.state).2, config.version + 1,
        Function.update config.phase process
          (.done (system.write process held config.state).1)⟩ := by
  simp only [step, holds]

theorem step_write_nothing
    (nothing : ∀ held version, config.phase process ≠ .holding held version) :
    system.step config (.write process) = config := by
  unfold step
  cases phase : config.phase process with
  | idle => simp only [phase]
  | holding held version => exact absurd phase (nothing held version)
  | done outcome => simp only [phase]

theorem step_cases (event : Event Process) :
    (∃ process, event = .read process ∧ config.phase process = .idle) ∨
      (∃ process held version, event = .write process ∧
        config.phase process = .holding held version) ∨
      system.step config event = config := by
  cases event with
  | read process =>
      by_cases idle : config.phase process = .idle
      · exact Or.inl ⟨process, rfl, idle⟩
      · exact Or.inr (Or.inr (step_read_busy idle))
  | write process =>
      by_cases holds : ∃ held version,
          config.phase process = .holding held version
      · obtain ⟨held, version, holds⟩ := holds
        exact Or.inr (Or.inl ⟨process, held, version, rfl, holds⟩)
      · push Not at holds
        exact Or.inr (Or.inr (step_write_nothing holds))

theorem step_phase_other {event : Event Process} {other : Process}
    (differs : other ≠ event.process) :
    (system.step config event).phase other = config.phase other := by
  rcases @step_cases _ _ _ _ _ system config event with
    ⟨process, rfl, idle⟩ | ⟨process, held, version, rfl, holding⟩ | same
  · rw [step_read_idle idle]
    exact Function.update_of_ne differs _ _
  · rw [step_write_holding holding]
    exact Function.update_of_ne differs _ _
  · rw [same]

omit [DecidableEq Process] in
theorem start_current (state : State) : system.Current (start state) := by
  intro process held version holds
  cases holds

theorem run_append (first second : List (Event Process)) :
    system.run config (first ++ second) =
      system.run (system.run config first) second :=
  List.foldl_append

/-- A process that is left alone between its read and its write does not write
what is stale. -/
theorem noStaleWrite_alone (idle : config.phase process = .idle)
    {rest : List (Event Process)}
    (fresh : system.NoStaleWrite
      (system.run config [.read process, .write process]) rest) :
    system.NoStaleWrite config (.read process :: .write process :: rest) := by
  refine ⟨id, ?_, fresh⟩
  rintro ⟨held, version, holding, stale⟩
  rw [step_read_idle idle] at holding stale
  simp only [Function.update_self] at holding
  cases found : system.read process config.state with
  | inl outcome =>
      rw [found] at holding
      cases holding
  | inr ready =>
      rw [found] at holding
      cases holding
      exact stale rfl

/-- Processes that take turns write nothing that is stale. -/
theorem noStaleWrite_inTurn {order : List Process} (once : order.Nodup)
    (idle : ∀ process ∈ order, config.phase process = .idle) :
    system.NoStaleWrite config
      (order.flatMap fun process => [.read process, .write process]) := by
  induction order generalizing config with
  | nil => trivial
  | cons process order ih =>
      obtain ⟨absent, once⟩ := List.nodup_cons.mp once
      apply noStaleWrite_alone (idle process List.mem_cons_self)
      apply ih once
      intro other member
      have differs : other ≠ process := by
        rintro rfl
        exact absent member
      change (system.step (system.step config (.read process))
        (.write process)).phase other = .idle
      rw [step_phase_other (by exact differs),
        step_phase_other (by exact differs)]
      exact idle other (List.mem_cons_of_mem _ member)

theorem step_current (current : system.Current config)
    (event : Event Process) :
    system.Current (system.step config event) := by
  rcases @step_cases _ _ _ _ _ system config event with
    ⟨process, rfl, idle⟩ | ⟨process, held, version, rfl, holding⟩ | same
  · rw [step_read_idle idle]
    intro other held version holds
    simp only at holds ⊢
    by_cases same : other = process
    · subst same
      rw [Function.update_self] at holds
      cases found : system.read other config.state with
      | inl outcome =>
          rw [found] at holds
          cases holds
      | inr ready =>
          rw [found] at holds
          cases holds
          exact ⟨Nat.le_refl _, fun _ => rfl⟩
    · rw [Function.update_of_ne same] at holds
      exact current other held version holds
  · rw [step_write_holding holding]
    intro other otherHeld otherVersion holds
    simp only at holds ⊢
    by_cases same : other = process
    · subst same
      rw [Function.update_self] at holds
      cases holds
    · rw [Function.update_of_ne same] at holds
      have bound := (current other otherHeld otherVersion holds).1
      exact ⟨by omega, fun now => by omega⟩
  · rwa [same]

theorem version_step_le (event : Event Process) :
    (system.step config event).version ≤ config.version + 1 := by
  rcases @step_cases _ _ _ _ _ system config event with
    ⟨process, rfl, idle⟩ | ⟨process, held, version, rfl, holding⟩ | same
  · rw [step_read_idle idle]
    exact Nat.le_succ _
  · exact Nat.le_of_eq (congrArg Config.version (step_write_holding holding))
  · rw [same]
    exact Nat.le_succ _

theorem version_run_le (events : List (Event Process)) :
    (system.run config events).version ≤ config.version + events.length := by
  induction events generalizing config with
  | nil => exact Nat.le_refl _
  | cons event events ih =>
      have first := @version_step_le _ _ _ _ _ system config event
      have rest := @ih (system.step config event)
      rw [List.length_cons]
      change (system.run (system.step config event) events).version ≤ _
      omega

/-- Without stale writes an invariant has to be shown only for reads and for
writes of what would be read at that time. -/
theorem invariant_of_noStaleWrite
    {invariant : Config Process State Held Outcome → Prop}
    (reads : ∀ config process, invariant config →
      config.phase process = .idle →
        invariant (system.step config (.read process)))
    (writes : ∀ config process held version, invariant config →
      config.phase process = .holding held version →
      system.read process config.state = .inr held →
        invariant (system.step config (.write process)))
    (current : system.Current config) (holds : invariant config)
    {events : List (Event Process)}
    (fresh : system.NoStaleWrite config events) :
    invariant (system.run config events) := by
  induction events generalizing config with
  | nil => exact holds
  | cons event events ih =>
      obtain ⟨notStale, later⟩ := fresh
      apply ih (step_current current event) _ later
      rcases @step_cases _ _ _ _ _ system config event with
        ⟨process, rfl, idle⟩ | ⟨process, held, version, rfl, holding⟩ | same
      · exact reads config process holds idle
      · have now : version = config.version := by
          by_contra before
          exact notStale ⟨held, version, holding, before⟩
        exact writes config process held version holds holding
          ((current process held version holding).2 now)
      · rwa [same]

theorem run_done {outcome : Outcome} (events : List (Event Process))
    (done : config.phase process = .done outcome) :
    (system.run config events).phase process = .done outcome := by
  induction events generalizing config with
  | nil => exact done
  | cons event events ih =>
      apply @ih (system.step config event)
      rcases @step_cases _ _ _ _ _ system config event with
        ⟨other, rfl, idle⟩ | ⟨other, held, version, rfl, holding⟩ | same
      · have differs : process ≠ other := by
          rintro rfl
          cases done.symm.trans idle
        rw [step_read_idle idle]
        exact (Function.update_of_ne differs _ _).trans done
      · have differs : process ≠ other := by
          rintro rfl
          cases done.symm.trans holding
        rw [step_write_holding holding]
        exact (Function.update_of_ne differs _ _).trans done
      · rwa [same]

/-- The processes see of the state no more than this part, and change it like
processes that have no more than it. -/
structure SeesPart {Part : Type}
    (system : ReadModifyWrite Process State Held Outcome)
    (part : ReadModifyWrite Process Part Held Outcome)
    (view : State → Part) : Prop where
  read : ∀ process state,
    system.read process state = part.read process (view state)
  write : ∀ process held,
    (∃ state, system.read process state = .inr held) → ∀ state,
      (system.write process held state).1 =
          (part.write process held (view state)).1 ∧
        view (system.write process held state).2 =
          (part.write process held (view state)).2

/-- What each process holds it has read at some time. -/
def HeldWasRead (system : ReadModifyWrite Process State Held Outcome)
    (config : Config Process State Held Outcome) : Prop :=
  ∀ process held version, config.phase process = .holding held version →
    ∃ state, system.read process state = .inr held

def Config.map {Part : Type} (view : State → Part)
    (config : Config Process State Held Outcome) :
    Config Process Part Held Outcome :=
  ⟨view config.state, config.version, config.phase⟩

variable {Part : Type} {part : ReadModifyWrite Process Part Held Outcome}
  {view : State → Part}

theorem heldWasRead_step (wasRead : system.HeldWasRead config)
    (event : Event Process) :
    system.HeldWasRead (system.step config event) := by
  rcases @step_cases _ _ _ _ _ system config event with
    ⟨process, rfl, idle⟩ | ⟨process, held, version, rfl, holding⟩ | same
  · rw [step_read_idle idle]
    intro other held version holds
    change Function.update config.phase process _ other = _ at holds
    by_cases same : other = process
    · subst same
      rw [Function.update_self] at holds
      refine ⟨config.state, ?_⟩
      cases found : system.read other config.state with
      | inl outcome =>
          rw [found] at holds
          cases holds
      | inr ready =>
          rw [found] at holds
          cases holds
          rfl
    · rw [Function.update_of_ne same] at holds
      exact wasRead other held version holds
  · rw [step_write_holding holding]
    intro other otherHeld otherVersion holds
    change Function.update config.phase process _ other = _ at holds
    by_cases same : other = process
    · subst same
      rw [Function.update_self] at holds
      cases holds
    · rw [Function.update_of_ne same] at holds
      exact wasRead other otherHeld otherVersion holds
  · rwa [same]

theorem SeesPart.step (sees : SeesPart system part view)
    (wasRead : system.HeldWasRead config) (event : Event Process) :
    part.step (config.map view) event =
      (system.step config event).map view := by
  cases event with
  | read process =>
      by_cases idle : config.phase process = .idle
      · rw [@step_read_idle _ _ _ _ _ part (config.map view) process idle,
          step_read_idle idle, sees.read]
        rfl
      · rw [@step_read_busy _ _ _ _ _ part (config.map view) process idle,
          step_read_busy idle]
  | write process =>
      by_cases holds : ∃ held version,
          config.phase process = .holding held version
      · obtain ⟨held, version, holding⟩ := holds
        obtain ⟨outcome, rest⟩ := sees.write process held
          (wasRead process held version holding) config.state
        rw [@step_write_holding _ _ _ _ _ part (config.map view) process held
          version holding, step_write_holding holding]
        unfold Config.map
        rw [outcome, rest]
      · push Not at holds
        rw [@step_write_nothing _ _ _ _ _ part (config.map view) process holds,
          step_write_nothing holds]

theorem SeesPart.run (sees : SeesPart system part view)
    (wasRead : system.HeldWasRead config) (events : List (Event Process)) :
    part.run (config.map view) events =
      (system.run config events).map view := by
  induction events generalizing config with
  | nil => rfl
  | cons event events ih =>
      change part.run (part.step (config.map view) event) events = _
      rw [sees.step wasRead event]
      exact ih (heldWasRead_step wasRead event)

theorem SeesPart.noStaleWrite (sees : SeesPart system part view)
    (wasRead : system.HeldWasRead config) {events : List (Event Process)}
    (fresh : part.NoStaleWrite (config.map view) events) :
    system.NoStaleWrite config events := by
  induction events generalizing config with
  | nil => trivial
  | cons event events ih =>
      obtain ⟨here, later⟩ := fresh
      refine ⟨?_, ih (heldWasRead_step wasRead event)
        (sees.step wasRead event ▸ later)⟩
      cases event with
      | read process => exact id
      | write process => exact here

end ReadModifyWrite

end TeeAnchor
