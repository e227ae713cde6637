import TeeAnchor.CommandLineArgs
import TeeAnchor.CaFilePair
import TeeAnchor.RevocationRuns

/-!
# Command lines as commands

A command line either asks for a run of a subcommand with these arguments or
ends with an exit code before anything is run.  A run changes no file but the
ones it owns.
-/

namespace TeeAnchor

open OptionLoop

inductive Command
  | caInit (args : Ca.CaInitArgs)
  | provision (args : Provision.ProvisionArgs)
  | revoke (args : Ca.RevokeArgs)
  | crlIssue (args : Ca.CrlIssueArgs)
  | verify (args : Verify.VerifyArgs)

inductive Request
  | exit (code : Nat)
  | run (command : Command)

/-- What the arguments of a subcommand come to. -/
def requestOf {σ : Type} (options : List (String × OptionKind σ))
    (refused : Exception → Nat) (command : σ → Command) (default : σ)
    (argv : List String) : Request :=
  match (optionLoop options).parse argv default with
  | .error failure => .exit (refused failure)
  | .ok none => .exit 0
  | .ok (some args) => .run (command args)

def request : List String → Request
  | [] => .exit 1
  | sub :: argv =>
      let refused := fun failure => exitCode (.error failure)
      if sub = "ca-init" then
        requestOf Ca.caInitOptions refused .caInit {} argv
      else if sub = "provision" then
        requestOf Provision.provisionOptions refused .provision {} argv
      else if sub = "revoke" then
        requestOf Ca.revokeOptions refused .revoke {} argv
      else if sub = "crl-issue" then
        requestOf Ca.crlIssueOptions refused .crlIssue {} argv
      else if sub = "verify" then
        requestOf Verify.verifyOptions (fun _ => Verify.kExitInternal)
          .verify {} argv
      else if sub = "-h" ∨ sub = "--help" ∨ sub = "help" then .exit 0
      else .exit 1

namespace Command

variable (ssl : OpenSsl) (env : Environment)

/-- The run of a command that throws or returns, on these files. -/
def perform (files : FileSystem) : Command → Run Unit
  | .caInit args => Ca.runCaInit (env.library ssl) (env.host files) env.io args
      env.statFails
  | .provision args =>
      Provision.runProvision (env.library ssl) (env.host files) env.io args
  | .revoke args =>
      Ca.runRevoke (env.library ssl) (env.host files) env.io args
  | .crlIssue args =>
      Ca.runCrlIssue (env.library ssl) (env.host files) env.io args
  | .verify _ => return ()

/-- The exit code and the files that a command leaves. -/
def exec (files : FileSystem) (command : Command) : Nat × FileSystem :=
  match command with
  | .verify args =>
      (Verify.runVerify (env.library ssl) (env.host files) args, files)
  | command =>
      let (outcome, files') := (command.perform ssl env files).exec files
      (exitCode outcome, files')

/-- The files that a command may change. -/
def owned : Command → List String
  | .caInit args => [args.keyPath, args.crtPath]
  | .provision args => [args.outPath]
  | .revoke args =>
      let path := Ca.resolveDbPath args.dbPath args.caCertPath
      [path, Ca.tmpPath path]
  | .crlIssue args =>
      let path := Ca.resolveDbPath args.dbPath args.caCertPath
      [args.outPath, path, Ca.tmpPath path]
  | .verify _ => []

end Command

def Request.answer (ssl : OpenSsl) (env : Environment) (files : FileSystem) :
    Request → Except Exception Nat × FileSystem
  | .exit code => (.ok code, files)
  | .run command =>
      (.ok (command.exec ssl env files).1, (command.exec ssl env files).2)

variable {ssl : OpenSsl} {env : Environment}

theorem withExitCode_exec (run : Run Unit) (files : FileSystem) :
    (withExitCode run).exec files =
      (.ok (exitCode (run.exec files).1), (run.exec files).2) :=
  rfl

theorem cli_exec {σ : Type} (options : List (String × OptionKind σ))
    {run : σ → Run Unit} {command : σ → Command} {files : FileSystem}
    (runs : ∀ args, (withExitCode (run args)).exec files =
      (Request.run (command args)).answer ssl env files)
    (default : σ) (argv : List String) :
    (cli options run default argv).exec files =
      (requestOf options (fun failure => exitCode (.error failure)) command
        default argv).answer ssl env files := by
  unfold cli requestOf
  rw [withExitCode_exec, Run.exec_bind, Run.exec_liftExcept]
  cases (optionLoop options).parse argv default with
  | error failure => rfl
  | ok result =>
      cases result with
      | none => rfl
      | some args => exact runs args

theorem cliVerify_eq (library : OpenSsl) (host : Host) (argv : List String) :
    Verify.cliVerify library host argv =
      match (optionLoop Verify.verifyOptions).parse argv {} with
      | .error _ => Verify.kExitInternal
      | .ok none => 0
      | .ok (some args) => Verify.runVerify library host args := by
  unfold Verify.cliVerify
  rw [Verify.parseArgs_eq]
  rfl

/-- The program answers the request that the command line comes to. -/
theorem main_exec (ssl : OpenSsl) (env : Environment) (argv : List String)
    (files : FileSystem) :
    (main ssl env argv).exec files = (request argv).answer ssl env files := by
  cases argv with
  | nil => rfl
  | cons sub argv =>
      simp only [main, request]
      split_ifs
      · exact cli_exec _ (fun _ => rfl) _ _
      · exact cli_exec _ (fun _ => rfl) _ _
      · exact cli_exec _ (fun _ => rfl) _ _
      · exact cli_exec _ (fun _ => rfl) _ _
      · change (Except.ok (Verify.cliVerify _ _ argv), files) = _
        rw [cliVerify_eq]
        unfold requestOf
        cases (optionLoop Verify.verifyOptions).parse argv {} with
        | error failure => rfl
        | ok result => cases result <;> rfl
      · rfl
      · rfl

section NumberOptions

variable {σ : Type} {options : List (String × OptionKind σ)}

theorem requestOf_eq_run {refused : Exception → Nat} {command : σ → Command}
    {default : σ} {argv : List String} {asked : Command} :
    requestOf options refused command default argv = .run asked ↔
      ∃ args, (optionLoop options).parse argv default = .ok (some args) ∧
        command args = asked := by
  unfold requestOf
  split
  · rename_i parsed
    simp [parsed]
  · rename_i parsed
    simp [parsed]
  · rename_i parsed
    simp [parsed]

theorem requestOf_eq_exit {command : σ → Command} {start : σ}
    {argv : List String} :
    requestOf options (fun failure => exitCode (.error failure)) command start
        argv = .exit 2 ↔
      ∃ what, (optionLoop options).parse argv start =
        .error (.stdException what) := by
  unfold requestOf
  cases (optionLoop options).parse argv start with
  | error failure => cases failure <;> simp [exitCode]
  | ok result => cases result <;> simp

/-- What a subcommand makes of its one option for numbers. -/
structure TakesInt (options : List (String × OptionKind σ)) (name : String)
    (read : σ → Int) (command : σ → Command) (default : σ)
    (subcommand : String) : Prop where
  given : ∀ argv args, request (subcommand :: argv) = .run (command args) →
    IntGiven name argv (read default) (read args)
  refused : ∀ argv, request (subcommand :: argv) = .exit 2 ↔
    RefusesInt (optionLoop options) name default argv

theorem takesInt_of {fields : List (Field σ OptionValue)} {name : String}
    {read : σ → Int} {set : σ → Int → σ} {command : σ → Command} {default : σ}
    {subcommand : String}
    (asks : ∀ argv, request (subcommand :: argv) = requestOf options
      (fun failure => exitCode (.error failure)) command default argv)
    (injective : ∀ args args', command args = command args' → args = args')
    (distinct : (options.map Prod.fst).Nodup)
    (described : (optionLoop options).DescribedBy fields)
    (isField : numberField name read ∈ fields)
    (isOption : (name, .number set) ∈ options)
    (only : ∀ other change, (other, .number change) ∈ options →
      other = name) :
    TakesInt options name read command default subcommand := by
  constructor
  · intro argv args asked
    rw [asks, requestOf_eq_run] at asked
    obtain ⟨given, parsed, same⟩ := asked
    obtain rfl := injective _ _ same
    obtain ⟨settings, rfl, applied⟩ := parse_eq_some_iff.mp parsed
    exact ⟨settings, rfl,
      intGiven_of_applyAll distinct described isField isOption applied⟩
  · intro argv
    rw [asks, requestOf_eq_exit,
      parse_eq_stdException distinct isOption only]

end NumberOptions

/-- The subcommands that take a number of days run with the last one given, or
with the default, and end with exit code 2 exactly when one of the texts given
for it begins with no number in the range of `int`. -/
theorem validityDays_given :
    TakesInt Ca.caInitOptions "--validity-days" (·.validityDays) .caInit {}
      "ca-init" ∧
    TakesInt Provision.provisionOptions "--validity-days" (·.validityDays)
      .provision {} "provision" ∧
    TakesInt Ca.crlIssueOptions "--validity-days" (·.validityDays) .crlIssue {}
      "crl-issue" := by
  refine ⟨?_, ?_, ?_⟩
  · apply takesInt_of (fun _ => rfl) _ (by decide) Ca.caInit_describedBy
      (by simp [Ca.caInitFields])
    · simp [Ca.caInitOptions]
      rfl
    · simp [Ca.caInitOptions]
    · simp
  · apply takesInt_of (fun _ => rfl) _ (by decide)
      Provision.provision_describedBy (by simp [Provision.provisionFields])
    · simp [Provision.provisionOptions]
      rfl
    · simp [Provision.provisionOptions]
    · simp
  · apply takesInt_of (fun _ => rfl) _ (by decide) Ca.crlIssue_describedBy
      (by simp [Ca.crlIssueFields])
    · simp [Ca.crlIssueOptions]
      rfl
    · simp [Ca.crlIssueOptions]
    · simp

/-- A run that leaves this file alone, whatever it returns. -/
def Leaves {α : Type} (run : Run α) (path : String) : Prop :=
  ∀ files, (run.exec files).2 path = files path

theorem leaves_liftExcept {α : Type} (result : Result α) (path : String) :
    Leaves (liftExcept result) path :=
  fun _ => rfl

theorem Leaves.bind {α β : Type} {first : Run α} {next : α → Run β}
    {path : String} (here : Leaves first path)
    (later : ∀ value, Leaves (next value) path) :
    Leaves (first >>= next) path := by
  intro files
  rw [Run.exec_bind]
  have kept := here files
  rcases ran : first.exec files with ⟨outcome, middle⟩
  rw [ran] at kept
  cases outcome with
  | error failure => exact kept
  | ok value => exact (later value middle).trans kept

theorem leaves_writeFile {io : IoFaults} {target path : String} {data : Bytes}
    {mode : Nat} (other : path ≠ target) :
    Leaves (writeFile io target data mode) path :=
  fun _ => writeFile_other other

theorem Ca.leaves_saveRevocationDb {io : IoFaults} {target path : String}
    {db : RevocationDb} (notDb : path ≠ target)
    (notTmp : path ≠ tmpPath target) :
    Leaves (saveRevocationDb io target db) path := by
  intro files
  rcases saved : (saveRevocationDb io target db).exec files with
    ⟨outcome, files'⟩
  cases outcome with
  | error failure => exact saveRevocationDb_error saved notTmp
  | ok done =>
      obtain ⟨_, _, _, rfl⟩ := saveRevocationDb_eq_ok.mp saved
      exact (Function.update_of_ne notTmp _ _).trans
        (Function.update_of_ne notDb _ _)

theorem Ca.leaves_runCaInit {library : OpenSsl} {host : Host} {io : IoFaults}
    {args : CaInitArgs} {statFails : String → Bool} {path : String}
    (notKey : path ≠ args.keyPath) (notCrt : path ≠ args.crtPath) :
    Leaves (runCaInit library host io args statFails) path := by
  intro files
  cases prepared : prepareCa library host args statFails files with
  | error failure => rw [runCaInit_of_refused prepared]
  | ok made =>
      obtain ⟨pkey, cert, keyPem⟩ := made
      rw [runCaInit_of_prepared prepared]
      exact ((leaves_writeFile notKey).bind fun _ =>
        (leaves_liftExcept _ path).bind fun _ => leaves_writeFile notCrt) files

theorem Provision.leaves_runProvision {library : OpenSsl} {host : Host}
    {io : IoFaults} {args : ProvisionArgs} {path : String}
    (notOut : path ≠ args.outPath) :
    Leaves (runProvision library host io args) path :=
  (leaves_liftExcept _ path).bind fun _ =>
    (leaves_liftExcept _ path).bind fun _ => leaves_writeFile notOut

theorem Ca.leaves_loadDb (io : IoFaults) (target path : String) :
    Leaves (loadDb io target) path :=
  fun _ => rfl

theorem Ca.leaves_runRevoke {library : OpenSsl} {host : Host} {io : IoFaults}
    {args : RevokeArgs} {path : String}
    (notDb : path ≠ resolveDbPath args.dbPath args.caCertPath)
    (notTmp : path ≠ tmpPath (resolveDbPath args.dbPath args.caCertPath)) :
    Leaves (runRevoke library host io args) path := by
  apply (leaves_liftExcept _ path).bind
  intro serialHex
  apply (leaves_loadDb io _ path).bind
  intro db files
  by_cases present : db.contains serialHex
  · simp only [present, if_true]
    rfl
  · simp only [present, if_false, Bool.false_eq_true]
    exact leaves_saveRevocationDb notDb notTmp files

theorem Ca.leaves_runCrlIssue {library : OpenSsl} {host : Host} {io : IoFaults}
    {args : CrlIssueArgs} {path : String} (notOut : path ≠ args.outPath)
    (notDb : path ≠ resolveDbPath args.dbPath args.caCertPath)
    (notTmp : path ≠ tmpPath (resolveDbPath args.dbPath args.caCertPath)) :
    Leaves (runCrlIssue library host io args) path :=
  (leaves_liftExcept _ path).bind fun _ =>
    (leaves_loadDb io _ path).bind fun _ =>
    (leaves_liftExcept _ path).bind fun _ =>
    (leaves_liftExcept _ path).bind fun _ =>
    (leaves_liftExcept _ path).bind fun _ =>
    (leaves_writeFile notOut).bind fun _ => leaves_saveRevocationDb notDb notTmp

theorem Command.exec_other {command : Command} {files : FileSystem}
    {path : String} (notOwned : path ∉ command.owned) :
    (command.exec ssl env files).2 path = files path := by
  cases command with
  | caInit args =>
      simp only [owned, List.mem_cons, List.not_mem_nil, or_false, not_or]
        at notOwned
      exact Ca.leaves_runCaInit notOwned.1 notOwned.2 files
  | provision args =>
      simp only [owned, List.mem_cons, List.not_mem_nil, or_false] at notOwned
      exact Provision.leaves_runProvision notOwned files
  | revoke args =>
      simp only [owned, List.mem_cons, List.not_mem_nil, or_false, not_or]
        at notOwned
      exact Ca.leaves_runRevoke notOwned.1 notOwned.2 files
  | crlIssue args =>
      simp only [owned, List.mem_cons, List.not_mem_nil, or_false, not_or]
        at notOwned
      exact Ca.leaves_runCrlIssue notOwned.1 notOwned.2.1 notOwned.2.2 files
  | verify args => rfl

end TeeAnchor
