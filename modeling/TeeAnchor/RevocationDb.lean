import TeeAnchor.FileIo
import TeeAnchor.StandardText

/-!
# The revocation database

The organization CA keeps its revocations in a text file, one entry a line,
with the number of the last CRL in a line of its own.  `ca/revocation_db.cpp`
reads the file into memory and writes all of it anew.
-/

namespace TeeAnchor.Ca

structure RevocationEntry where
  serialHex : Bytes
  revocationDate : Bytes
  reason : Bytes
  deriving DecidableEq, Repr

structure RevocationDb where
  crlNumber : UInt64 := 0
  entries : List RevocationEntry := []
  deriving DecidableEq, Repr

/-- One of ` \t\r\n`. -/
def isBlank (byte : UInt8) : Bool :=
  byte == 32 || byte == 9 || byte == 13 || byte == 10

def trim (text : Bytes) : Bytes :=
  strip isBlank text

/-- `std::filesystem::path::parent_path`.  A path with no relative part is its
own parent. -/
def parentPath (path : List Char) : List Char :=
  let directory := (path.rdropWhile (· != '/')).rdropWhile (· == '/')
  if !directory.isEmpty then directory
  else if path.all (· == '/') then path
  else if path.head? == some '/' then ['/']
  else []

def defaultDbPath (caCertPath : String) : String :=
  let parent := parentPath caCertPath.toList
  let parent := if parent.isEmpty then ['.'] else parent
  if parent.getLast? == some '/' then
    String.ofList parent ++ "revocations.txt"
  else String.ofList parent ++ "/revocations.txt"

def crlNumberTag : Bytes :=
  ascii "crl-number"

def atLine (path : String) (lineno : Nat) (what : String) : String :=
  path ++ ":" ++ toString lineno ++ ": " ++ what

def loadLine (path : String) (lineno : Nat) (db : RevocationDb)
    (line : Bytes) : Result RevocationDb :=
  let s := trim line
  if s.isEmpty || s.head? == some 35 then return db
  else if crlNumberTag.isPrefixOf s then
    let n := extractUInt64 (extractWord s).2
    if n.fail && !n.eof then
      teeAnchorError (atLine path lineno "invalid 'crl-number' line")
    else return { db with crlNumber := n.value }
  else
    let (serialHex, afterSerial) := extractWord s
    let (revocationDate, rest) := extractWord afterSerial
    if serialHex.isEmpty || revocationDate.isEmpty then
      teeAnchorError
        (atLine path lineno "expected '<serial> <date> [<reason>]'")
    else
      return { db with
        entries := db.entries ++
          [⟨serialHex.map toLower, revocationDate, trim rest⟩] }

/-- The loop over the lines, after `lineno` of them. -/
def loadLines (path : String) :
    Nat → RevocationDb → List Bytes → Result RevocationDb
  | _, db, [] => return db
  | lineno, db, line :: lines => do
      loadLines path (lineno + 1) (← loadLine path (lineno + 1) db line) lines

/-- A file that cannot be opened counts as an empty database, and a read error
ends the loop like the end of the file. -/
def loadRevocationDb (path : String) : ReadOutcome → Result RevocationDb
  | .cannotOpen => return {}
  | .opened delivered readError =>
      loadLines path 0 {} (getlines readError [] delivered)

def entryLine (entry : RevocationEntry) : Bytes :=
  entry.serialHex ++ 32 :: (entry.revocationDate ++
    if entry.reason.isEmpty then [] else 32 :: entry.reason)

def crlNumberLine (number : UInt64) : Bytes :=
  crlNumberTag ++ 32 :: decimal number.toNat

def headerLines : List Bytes :=
  [ascii "# TEE Anchor revocation database (v1)",
    ascii "# format: <serial-hex> <YYYYMMDDHHMMSSZ> [<reason>]"]

def dbLines (db : RevocationDb) : List Bytes :=
  headerLines ++ crlNumberLine db.crlNumber :: db.entries.map entryLine

def dbText (db : RevocationDb) : Bytes :=
  (dbLines db).flatMap fun line => line ++ [10]

def tmpPath (path : String) : String :=
  path ++ ".tmp"

def saveRevocationDb (io : IoFaults) (path : String) (db : RevocationDb) :
    Run Unit := do
  openForWriting io (tmpPath path)
  writeStream io (tmpPath path) (dbText db)
  rename io (tmpPath path) path

theorem tmpPath_ne (path : String) : tmpPath path ≠ path := by
  intro same
  have lengths := congrArg String.length same
  simp [tmpPath] at lengths

def savedFile (io : IoFaults) (files : FileSystem) (path : String)
    (db : RevocationDb) : File :=
  ⟨(io.write (tmpPath path)).written (dbText db),
    modeAt io files (tmpPath path)⟩

theorem saveRevocationDb_exec (io : IoFaults) (path : String)
    (db : RevocationDb) (files : FileSystem) :
    (saveRevocationDb io path db).exec files =
      if io.openWrite (tmpPath path) then
        (.error (.teeAnchorError
          ("cannot open for writing: " ++ tmpPath path)), files)
      else if (io.write (tmpPath path)).failsVisibly (dbText db) then
        (.error (.teeAnchorError ("write failed: " ++ tmpPath path)),
          Function.update files (tmpPath path)
            (some (savedFile io files path db)))
      else if io.rename (tmpPath path) then
        (.error (.teeAnchorError
          ("rename failed: " ++ tmpPath path ++ " -> " ++ path)),
          Function.update files (tmpPath path)
            (some (savedFile io files path db)))
      else
        (.ok (), Function.update (Function.update files path
          (some (savedFile io files path db))) (tmpPath path) none) := by
  unfold saveRevocationDb
  rw [Run.exec_bind, openForWriting_exec]
  by_cases opens : io.openWrite (tmpPath path)
  · simp only [opens, if_true]
  · simp only [opens, Bool.false_eq_true, if_false]
    rw [Run.exec_bind, writeStream_exec]
    by_cases writes : (io.write (tmpPath path)).failsVisibly (dbText db)
    · simp only [writes, if_true]
      rfl
    · simp only [writes, Bool.false_eq_true, if_false]
      unfold rename
      by_cases renames : io.rename (tmpPath path)
      · simp only [renames, if_true]
        rfl
      · simp only [renames, Bool.false_eq_true, if_false]
        change (Except.ok (), Function.update (Function.update (Function.update
          files (tmpPath path) _) path _) (tmpPath path) none) = _
        rw [Function.update_self, Function.update_comm (tmpPath_ne path),
          Function.update_idem]
        rfl

/-- A save that throws has changed nothing but the temporary file. -/
theorem saveRevocationDb_error {io : IoFaults} {path : String}
    {db : RevocationDb} {files files' : FileSystem} {failure : Exception}
    (threw : (saveRevocationDb io path db).exec files =
      (.error failure, files')) {other : String}
    (notTmp : other ≠ tmpPath path) : files' other = files other := by
  rw [saveRevocationDb_exec] at threw
  split at threw
  · cases threw
    rfl
  · split at threw
    · cases threw
      rw [Function.update_of_ne notTmp]
    · split at threw
      · cases threw
        rw [Function.update_of_ne notTmp]
      · cases threw

/-- A save succeeds when no step of it fails, and then it has replaced the
database and taken the temporary file away. -/
theorem saveRevocationDb_eq_ok {io : IoFaults} {path : String}
    {db : RevocationDb} {files files' : FileSystem} :
    (saveRevocationDb io path db).exec files = (.ok (), files') ↔
      io.openWrite (tmpPath path) = false ∧
      (io.write (tmpPath path)).failsVisibly (dbText db) = false ∧
      io.rename (tmpPath path) = false ∧
      files' = Function.update (Function.update files path
        (some (savedFile io files path db))) (tmpPath path) none := by
  rw [saveRevocationDb_exec]
  by_cases opens : io.openWrite (tmpPath path)
  · simp [opens]
  · by_cases writes : (io.write (tmpPath path)).failsVisibly (dbText db)
    · simp [opens, writes]
    · by_cases renames : io.rename (tmpPath path)
      · simp [opens, writes, renames]
      · simp [opens, writes, renames, eq_comm]

end TeeAnchor.Ca
