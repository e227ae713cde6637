import TeeAnchor.Commands

/-!
# Histories of the files

The files change by runs of the program and by what others do to them.  A
property of the files that every event keeps is kept by every history, and a
file that nobody names as an output stays as it is.
-/

namespace TeeAnchor

/-- A run of the program, or a change to the files by somebody else. -/
inductive Event
  | run (env : Environment) (argv : List String)
  | other (change : FileSystem → FileSystem)

def Event.step (ssl : OpenSsl) (files : FileSystem) : Event → FileSystem
  | .run env argv => ((main ssl env argv).exec files).2
  | .other change => change files

/-- The files after these events, in order. -/
def leaving (ssl : OpenSsl) (history : List Event) (files : FileSystem) :
    FileSystem :=
  history.foldl (Event.step ssl) files

variable {ssl : OpenSsl} {history : List Event} {files : FileSystem}

@[simp]
theorem leaving_nil : leaving ssl [] files = files :=
  rfl

theorem leaving_append (before after : List Event) :
    leaving ssl (before ++ after) files =
      leaving ssl after (leaving ssl before files) :=
  List.foldl_append

theorem leaving_cons (event : Event) (history : List Event) :
    leaving ssl (event :: history) files =
      leaving ssl history (event.step ssl files) :=
  rfl

/-- What every event keeps holds after the history. -/
theorem holds_leaving {property : FileSystem → Prop}
    (keeps : ∀ event ∈ history, ∀ files, property files →
      property (event.step ssl files)) (start : property files) :
    property (leaving ssl history files) := by
  induction history generalizing files with
  | nil => exact start
  | cons event history ih =>
      rw [List.forall_mem_cons] at keeps
      rw [leaving_cons]
      exact ih keeps.2 (keeps.1 files start)

theorem step_run_of_run {env : Environment} {argv : List String}
    {command : Command} (asked : request argv = .run command) :
    (Event.run env argv).step ssl files = (command.exec ssl env files).2 := by
  change ((main ssl env argv).exec files).2 = _
  rw [main_exec, asked]
  rfl

theorem step_run_of_exit {env : Environment} {argv : List String} {code : Nat}
    (asked : request argv = .exit code) :
    (Event.run env argv).step ssl files = files := by
  change ((main ssl env argv).exec files).2 = _
  rw [main_exec, asked]
  rfl

/-- The event does not own this file. -/
def Event.Avoids (path : String) : Event → Prop
  | .run _ argv => ∀ command, request argv = .run command →
      path ∉ command.owned
  | .other change => ∀ files, change files path = files path

theorem Event.Avoids.step_eq {path : String} {event : Event}
    (avoids : event.Avoids path) (files : FileSystem) :
    event.step ssl files path = files path := by
  cases event with
  | run env argv =>
      cases asked : request argv with
      | exit code => rw [step_run_of_exit asked]
      | run command =>
          rw [step_run_of_run asked, command.exec_other (avoids command asked)]
  | other change => exact avoids files

theorem leaving_of_avoids {path : String}
    (avoids : ∀ event ∈ history, event.Avoids path) :
    leaving ssl history files path = files path := by
  apply @holds_leaving ssl history files
    (fun files' => files' path = files path)
  · intro event member files' kept
    rw [(avoids event member).step_eq, kept]
  · rfl

theorem request_caInit {argv : List String} {args : Ca.CaInitArgs}
    (asked : request argv = .run (.caInit args)) :
    ∃ rest, argv = "ca-init" :: rest ∧
      (optionLoop Ca.caInitOptions).parse rest {} = .ok (some args) := by
  cases argv with
  | nil => cases asked
  | cons sub rest =>
      simp only [request] at asked
      split_ifs at asked
      all_goals
        obtain ⟨given, parsed, same⟩ := requestOf_eq_run.mp asked
        cases same
      rename_i isCaInit
      exact ⟨rest, by rw [isCaInit], parsed⟩

theorem force_eq_false {argv : List String} {args : Ca.CaInitArgs}
    (asked : request argv = .run (.caInit args)) (noForce : "--force" ∉ argv) :
    args.force = false := by
  obtain ⟨rest, rfl, parsed⟩ := request_caInit asked
  obtain ⟨settings, rfl, _, holds⟩ :=
    Ca.caInit_describedBy.parse_eq_some_iff.mp parsed
  have force := holds (flagField "--force" (·.force))
    (by simp [Ca.caInitFields])
  have none : settings.filterMap
      (flagField "--force" Ca.CaInitArgs.force).given = [] := by
    rw [List.filterMap_eq_nil_iff]
    intro setting member
    cases setting with
    | value option text => rfl
    | switch option =>
        have isOther : option ≠ "--force" := by
          rintro rfl
          apply noForce
          exact List.mem_cons_of_mem _ (List.mem_flatMap.mpr
            ⟨_, member, List.mem_singleton_self _⟩)
        simp [flagField, isOther]
  rw [OptionLoop.Field.last, none] at force
  exact OptionValue.flag.inj force

/-- The event does not own this file, unless it is a `ca-init` that is not to
overwrite and sees whether the file is there. -/
def Event.Spares (path : String) : Event → Prop
  | .run env argv => ∀ command, request argv = .run command →
      path ∈ command.owned →
      (∃ args, command = .caInit args) ∧ "--force" ∉ argv ∧
        env.statFails path = false
  | .other change => ∀ files, change files path = files path

theorem Ca.prepareCa_of_existing {library : OpenSsl} {host : Host}
    {args : CaInitArgs} {statFails : String → Bool} {path : String}
    {files : FileSystem} (notForced : args.force = false)
    (isThere : (files path).isSome = true) (seen : statFails path = false)
    (owned : path = args.keyPath ∨ path = args.crtPath) :
    ∃ failure, prepareCa library host args statFails files =
      .error failure := by
  have isSeen : pathExists statFails files path = true := by
    simp [pathExists, isThere, seen]
  have refuses : ∃ failure, refuseExisting args statFails files =
      .error failure := by
    unfold refuseExisting
    simp only [notForced, Bool.not_false, if_true]
    by_cases key : pathExists statFails files args.keyPath = true
    · simp only [key, if_true]
      exact ⟨_, rfl⟩
    · rcases owned with rfl | rfl
      · exact absurd isSeen key
      · simp only [key, isSeen, if_true, if_false, Bool.false_eq_true]
        exact ⟨_, rfl⟩
  obtain ⟨failure, refused⟩ := refuses
  unfold prepareCa
  rw [refused]
  cases checkCaInitArgs args with
  | error earlier => exact ⟨earlier, rfl⟩
  | ok done => exact ⟨failure, rfl⟩

/-- A file that is there and is the output of no other command survives every
history without `--force`. -/
theorem existing_file_survives {path : String} {file : File}
    (isThere : files path = some file)
    (spares : ∀ event ∈ history, event.Spares path) :
    leaving ssl history files path = some file := by
  apply @holds_leaving ssl history files (fun files' => files' path = some file)
  · intro event member files' kept
    have spared := spares event member
    cases event with
    | other change => exact (spared files').trans kept
    | run env argv =>
        cases asked : request argv with
        | exit code => rw [step_run_of_exit asked, kept]
        | run command =>
            rw [step_run_of_run asked]
            by_cases owned : path ∈ command.owned
            · obtain ⟨⟨args, rfl⟩, noForce, seen⟩ := spared command asked owned
              have isOwned : path = args.keyPath ∨ path = args.crtPath := by
                simpa [Command.owned] using owned
              obtain ⟨failure, refused⟩ := @Ca.prepareCa_of_existing
                (env.library ssl) (env.host files') args env.statFails path
                files' (force_eq_false asked noForce) (by rw [kept]; rfl) seen
                isOwned
              change ((Ca.runCaInit _ _ _ _ _).exec files').2 path = _
              rw [Ca.runCaInit_of_refused refused]
              exact kept
            · rw [command.exec_other owned, kept]
  · exact isThere

def quietPlace : Environment where
  io := .none
  statFails _ := false
  time := 0
  generalizedTimeNowUtc := ascii "20260101000000Z"
  randomSerial := 1
  storage := .unlimited
  callFails _ := false
  errorString _ := none
  ecGen _ := some ⟨Pki.evpPkeyEc, []⟩
  x509Sign _ _ _ := some []
  x509CrlSign _ _ _ := some []
  x509VerifyCert _ := none

def sampleCaFile : File :=
  ⟨ascii "key", 0o600⟩

/-- A CA whose key is there already, and a run that would replace it. -/
def caTwice : List Event :=
  [.run quietPlace ["ca-init", "--out-dir", "pki"],
    .other fun files => Function.update files "pki/ca.crt" none]

theorem existing_file_survives_sample :
    leaving OpenSsl.standIn caTwice
      (Function.update (fun _ => none) "pki/ca.key" (some sampleCaFile))
        "pki/ca.key" = some sampleCaFile := by
  apply existing_file_survives (Function.update_self _ _ _)
  rw [caTwice, List.forall_mem_cons, List.forall_mem_singleton]
  constructor
  · intro command asked _
    cases asked
    exact ⟨⟨_, rfl⟩, by decide, rfl⟩
  · intro files
    exact Function.update_of_ne (by decide) _ _

end TeeAnchor
