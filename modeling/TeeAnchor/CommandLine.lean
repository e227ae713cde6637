import TeeAnchor.CaInit
import TeeAnchor.CrlIssue
import TeeAnchor.OptionLoop
import TeeAnchor.Verify

/-!
# The command line

`main` hands the arguments after the subcommand to the function of that
subcommand, which reads its options in a loop, runs and turns exceptions into
exit codes.  `verify` has exit codes of its own.
-/

namespace TeeAnchor

/-- `isspace` in the C locale. -/
def isSpaceChar (char : Char) : Bool :=
  char == ' ' || (9 ≤ char.toNat && char.toNat ≤ 13)

/-- `std::stoi`: blanks, a sign and digits are read, and what follows them is
left alone. -/
def stoi (text : String) : Result Int :=
  let start := text.toList.dropWhile isSpaceChar
  let signed := start.head? == some '-' || start.head? == some '+'
  let digits := (if signed then start.tail else start).takeWhile Char.isDigit
  let magnitude : Int := Nat.ofDigitChars 10 digits 0
  let value := if start.head? == some '-' then -magnitude else magnitude
  if digits.isEmpty then .error (.stdException "stoi")
  else if value < -2 ^ 31 ∨ 2 ^ 31 ≤ value then .error (.stdException "stoi")
  else return value

/-- What an option of a subcommand sets: a text, a number or a flag. -/
inductive OptionKind (σ : Type)
  | text (set : σ → String → σ)
  | number (set : σ → Int → σ)
  | flag (set : σ → σ)

def OptionKind.effect {σ : Type} : OptionKind σ → OptionEffect σ Exception
  | .text set => .value fun args value => .ok (set args value)
  | .number set => .value fun args value =>
      match stoi value with
      | .ok parsed => .ok (set args parsed)
      | .error failure => .error failure
  | .flag set => .switch set

/-- The loop over `argv` that the subcommands share. -/
def optionLoop {σ : Type} (options : List (String × OptionKind σ)) :
    OptionLoop σ Exception where
  effect word := (options.lookup word).map OptionKind.effect
  asksHelp word := word == "-h" || word == "--help"
  noValue option := .teeAnchorError (option ++ " requires a value")
  unknown word := .teeAnchorError ("unknown argument: " ++ word)

/-- The catch clauses around a subcommand. -/
def exitCode : Except Exception Unit → Nat
  | .ok () => 0
  | .error (.teeAnchorError _) => 1
  | .error (.stdException _) => 2

def withExitCode (run : Run Unit) : Run Nat :=
  ExceptT.mk do
    let outcome ← ExceptT.run run
    return .ok (exitCode outcome)

def cli {σ : Type} (options : List (String × OptionKind σ))
    (run : σ → Run Unit) (default : σ) (argv : List String) : Run Nat :=
  withExitCode do
    match ← liftExcept ((optionLoop options).parse argv default) with
    | none => return ()
    | some args => run args

def Ca.caInitOptions : List (String × OptionKind Ca.CaInitArgs) :=
  [("--out-dir", .text fun args value => { args with outDir := value }),
    ("--subject", .text fun args value => { args with subject := value }),
    ("--validity-days",
      .number fun args value => { args with validityDays := value }),
    ("--curve", .text fun args value => { args with curve := value }),
    ("--force", .flag fun args => { args with force := true })]

def Provision.provisionOptions :
    List (String × OptionKind Provision.ProvisionArgs) :=
  [("--report", .text fun args value => { args with reportPath := value }),
    ("--certs", .text fun args value => { args with certsDir := value }),
    ("--ca-key", .text fun args value => { args with caKeyPath := value }),
    ("--ca-cert", .text fun args value => { args with caCertPath := value }),
    ("--out", .text fun args value => { args with outPath := value }),
    ("--subject", .text fun args value => { args with subject := value }),
    ("--validity-days",
      .number fun args value => { args with validityDays := value }),
    ("--tee-type", .text fun args value => { args with teeType := value })]

def Ca.revokeOptions : List (String × OptionKind Ca.RevokeArgs) :=
  [("--ca-cert", .text fun args value => { args with caCertPath := value }),
    ("--cert", .text fun args value => { args with certPath := value }),
    ("--reason", .text fun args value => { args with reason := value }),
    ("--db", .text fun args value => { args with dbPath := value })]

def Ca.crlIssueOptions : List (String × OptionKind Ca.CrlIssueArgs) :=
  [("--ca-key", .text fun args value => { args with caKeyPath := value }),
    ("--ca-cert", .text fun args value => { args with caCertPath := value }),
    ("--out", .text fun args value => { args with outPath := value }),
    ("--validity-days",
      .number fun args value => { args with validityDays := value }),
    ("--db", .text fun args value => { args with dbPath := value })]

/-- The options that `Verify.parseArgs` knows, as a table. -/
def Verify.verifyOptions : List (String × OptionKind Verify.VerifyArgs) :=
  [("--report", .text fun args value => { args with reportPath := value }),
    ("--certs", .text fun args value => { args with certsDir := value }),
    ("--org-cert", .text fun args value => { args with orgCertPath := value }),
    ("--org-ca", .text fun args value => { args with orgCaPath := value }),
    ("--crl", .text fun args value => { args with crlPath := value }),
    ("--tee-type", .text fun args value => { args with teeType := value })]

/-- What a run gets besides its arguments and files: the clock, random numbers
and storage, the steps on files that fail, and the answers of the library that
are not the same in every run. -/
structure Environment where
  io : IoFaults
  statFails : String → Bool
  time : Int
  generalizedTimeNowUtc : Bytes
  randomSerial : Int
  storage : Cbor.Storage
  callFails : String → Bool
  errorString : String → Option String
  ecGen : (curve : String) → Option EvpPkey
  x509Sign : X509 → EvpPkey → Option Digest → Option Bytes
  x509CrlSign : X509Crl → EvpPkey → Option Digest → Option Bytes
  x509VerifyCert : VerifyContext → Option Int

namespace Environment

/-- The run reads the files as they are. -/
def host (env : Environment) (files : FileSystem) : Host where
  read := openForReading env.io files
  pathExists := Ca.pathExists env.statFails files
  time := env.time
  generalizedTimeNowUtc := env.generalizedTimeNowUtc
  randomSerial := env.randomSerial
  storage := env.storage

def library (env : Environment) (ssl : OpenSsl) : OpenSsl :=
  { ssl with
    callFails := env.callFails
    errorString := env.errorString
    ecGen := env.ecGen
    x509Sign := env.x509Sign
    x509CrlSign := env.x509CrlSign
    x509VerifyCert := env.x509VerifyCert }

end Environment

variable (ssl : OpenSsl) (env : Environment)

def Ca.cliCaInit (argv : List String) : Run Nat :=
  cli caInitOptions (fun args => do
    let files ← get
    runCaInit (env.library ssl) (env.host files) env.io args env.statFails)
    {} argv

def Provision.cliProvision (argv : List String) : Run Nat :=
  cli provisionOptions (fun args => do
    let files ← get
    runProvision (env.library ssl) (env.host files) env.io args)
    {} argv

def Ca.cliRevoke (argv : List String) : Run Nat :=
  cli revokeOptions (fun args => do
    let files ← get
    runRevoke (env.library ssl) (env.host files) env.io args)
    {} argv

def Ca.cliCrlIssue (argv : List String) : Run Nat :=
  cli crlIssueOptions (fun args => do
    let files ← get
    runCrlIssue (env.library ssl) (env.host files) env.io args)
    {} argv

/-- `main` with the arguments after the program name. -/
def main : List String → Run Nat
  | [] => return 1
  | sub :: argv =>
      if sub = "ca-init" then Ca.cliCaInit ssl env argv
      else if sub = "provision" then Provision.cliProvision ssl env argv
      else if sub = "revoke" then Ca.cliRevoke ssl env argv
      else if sub = "crl-issue" then Ca.cliCrlIssue ssl env argv
      else if sub = "verify" then do
        let files ← get
        return Verify.cliVerify (env.library ssl) (env.host files) argv
      else if sub = "-h" ∨ sub = "--help" ∨ sub = "help" then return 0
      else return 1

end TeeAnchor
