import TeeAnchor.CrlIssue
import TeeAnchor.DbRoundTrip

/-!
# Revocations and CRLs, run after run

A run of `revoke` or `crl-issue` reads the database, settles in memory what it
will write, and then writes.  Everything that is known about many runs follows
from these two phases: what a run has pending after its load, and what its
writes leave in the file.
-/

namespace TeeAnchor.Ca

/-- A CRL on its way to its file. -/
structure Publication where
  outPath : String
  crl : X509Crl
  pem : Bytes

/-- What a run still has to write. -/
structure Pending where
  db : RevocationDb
  publication : Option Publication

inductive Operation
  | revoke (host : Host) (io : IoFaults) (args : RevokeArgs)
  | crlIssue (host : Host) (io : IoFaults) (args : CrlIssueArgs)

namespace Operation

def io : Operation → IoFaults
  | .revoke _ io _ => io
  | .crlIssue _ io _ => io

def dbPath : Operation → String
  | .revoke _ _ args => resolveDbPath args.dbPath args.caCertPath
  | .crlIssue _ _ args => resolveDbPath args.dbPath args.caCertPath

def run (ssl : OpenSsl) : Operation → Run Unit
  | .revoke host io args => runRevoke ssl host io args
  | .crlIssue host io args => runCrlIssue ssl host io args

end Operation

/-- The database as a run of these faults reads it. -/
def readDb (io : IoFaults) (files : FileSystem) (path : String) :
    Result RevocationDb :=
  loadRevocationDb path (openForReading io files path)

/-- What a revocation has pending once the database is in memory: nothing when
its serial number is there. -/
def revokePending (host : Host) (args : RevokeArgs) (serialHex : Bytes)
    (db : RevocationDb) : Option Pending :=
  if db.contains serialHex then none
  else
    some ⟨db.append ⟨serialHex, host.generalizedTimeNowUtc,
      ascii args.reason⟩, none⟩

def publish (ssl : OpenSsl) (host : Host) (args : CrlIssueArgs)
    (caKey : EvpPkey) (caCert : X509) (db : RevocationDb) :
    Result Publication := do
  let crl ← crlOf ssl host args caCert db
  let crl ← signCrl ssl caKey crl
  let pem ← pemCrl ssl crl
  return ⟨args.outPath, crl, pem⟩

/-- The first phase of a run. -/
def Operation.load (ssl : OpenSsl) (files : FileSystem) :
    Operation → Result (Option Pending)
  | .revoke host io args => do
      let serialHex ← revokedSerial ssl host args
      let db ← readDb io files (resolveDbPath args.dbPath args.caCertPath)
      return revokePending host args serialHex db
  | .crlIssue host io args => do
      let (caKey, caCert) ← loadCrlIssuer ssl host args
      let db ← readDb io files (resolveDbPath args.dbPath args.caCertPath)
      let publication ← publish ssl host args caKey caCert db.next
      return some ⟨db.next, some publication⟩

def Publication.write (io : IoFaults) (publication : Publication) : Run Unit :=
  writeFile io publication.outPath publication.pem 0o644

def Pending.write (io : IoFaults) (path : String) (pending : Pending) :
    Run Unit := do
  match pending.publication with
  | none => saveRevocationDb io path pending.db
  | some publication =>
      publication.write io
      saveRevocationDb io path pending.db

/-- The second phase of a run. -/
def Operation.finish (operation : Operation) :
    Result (Option Pending) → Run Unit
  | .error failure => throw failure
  | .ok none => return ()
  | .ok (some pending) => pending.write operation.io operation.dbPath

/-- A run is its first phase and then its second. -/
theorem Operation.run_exec (ssl : OpenSsl) (operation : Operation)
    (files : FileSystem) :
    (operation.run ssl).exec files =
      (operation.finish (operation.load ssl files)).exec files := by
  cases operation with
  | revoke host io args =>
      simp only [run, runRevoke, load, Run.exec_bind, Run.exec_liftExcept,
        loadDb_exec, ← readDb.eq_def]
      cases revokedSerial ssl host args with
      | error failure => rfl
      | ok serialHex =>
          simp only
          cases readDb io files
              (resolveDbPath args.dbPath args.caCertPath) with
          | error failure => rfl
          | ok db =>
              change _ = (finish _ (.ok (revokePending host args serialHex
                db))).exec files
              unfold revokePending
              by_cases present : db.contains serialHex
              · simp only [present, if_true]
                rfl
              · simp only [present]
                rfl
  | crlIssue host io args =>
      simp only [run, runCrlIssue, load, Run.exec_bind, Run.exec_liftExcept,
        loadDb_exec, ← readDb.eq_def]
      cases loadCrlIssuer ssl host args with
      | error failure => rfl
      | ok issuer =>
          simp only [ok_bind]
          cases readDb io files
              (resolveDbPath args.dbPath args.caCertPath) with
          | error failure => rfl
          | ok db =>
              simp only [publish, ok_bind]
              cases crlOf ssl host args issuer.2 db.next with
              | error failure => rfl
              | ok crl =>
                  simp only [ok_bind]
                  cases signCrl ssl issuer.1 crl with
                  | error failure => rfl
                  | ok crl =>
                      simp only [ok_bind]
                      cases pemCrl ssl crl with
                      | error failure => rfl
                      | ok pem => exact (Run.exec_bind _ _ _).symm

variable {ssl : OpenSsl}

theorem load_revoke_eq_ok {host : Host} {io : IoFaults} {args : RevokeArgs}
    {files : FileSystem} {pending : Option Pending} :
    (Operation.revoke host io args).load ssl files = .ok pending ↔
      ∃ serialHex db, revokedSerial ssl host args = .ok serialHex ∧
        readDb io files (resolveDbPath args.dbPath args.caCertPath) = .ok db ∧
        revokePending host args serialHex db = pending := by
  simp [Operation.load, bind_eq_ok, pure, Except.pure]

theorem load_crlIssue_eq_ok {host : Host} {io : IoFaults}
    {args : CrlIssueArgs} {files : FileSystem} {pending : Option Pending} :
    (Operation.crlIssue host io args).load ssl files = .ok pending ↔
      ∃ issuer db publication, loadCrlIssuer ssl host args = .ok issuer ∧
        readDb io files (resolveDbPath args.dbPath args.caCertPath) = .ok db ∧
        publish ssl host args issuer.1 issuer.2 db.next = .ok publication ∧
        some ⟨db.next, some publication⟩ = pending := by
  simp [Operation.load, bind_eq_ok, pure, Except.pure]

theorem readDb_of_load {operation : Operation} {files : FileSystem}
    {pending : Option Pending}
    (loaded : operation.load ssl files = .ok pending) :
    ∃ db, readDb operation.io files operation.dbPath = .ok db := by
  cases operation with
  | revoke host io args =>
      obtain ⟨_, db, _, read, _⟩ := load_revoke_eq_ok.mp loaded
      exact ⟨db, read⟩
  | crlIssue host io args =>
      obtain ⟨_, db, _, _, read, _⟩ := load_crlIssue_eq_ok.mp loaded
      exact ⟨db, read⟩

/-- A run that throws while it writes has not touched the database. -/
theorem Pending.write_error {io : IoFaults} {path : String} {pending : Pending}
    {files files' : FileSystem} {failure : Exception}
    (threw : (pending.write io path).exec files = (.error failure, files'))
    (apart : ∀ publication ∈ pending.publication, publication.outPath ≠ path) :
    files' path = files path := by
  have notTmp := (tmpPath_ne path).symm
  unfold Pending.write at threw
  cases found : pending.publication with
  | none =>
      rw [found] at threw
      exact saveRevocationDb_error threw notTmp
  | some publication =>
      have kept := @writeFile_other io publication.outPath path
        publication.pem 0o644 files (apart publication found).symm
      rw [found] at threw
      simp only [Run.exec_bind] at threw
      cases wrote : (publication.write io).exec files with
      | mk outcome middle =>
          rw [← Publication.write, wrote] at kept
          rw [wrote] at threw
          cases outcome with
          | error failed =>
              cases threw
              exact kept
          | ok done => exact (saveRevocationDb_error threw notTmp).trans kept

/-- A run that has written everything has replaced the database. -/
theorem Pending.write_ok {io : IoFaults} {path : String} {pending : Pending}
    {files files' : FileSystem}
    (wrote : (pending.write io path).exec files = (.ok (), files')) :
    (io.write (tmpPath path)).failsVisibly (dbText pending.db) = false ∧
      ∃ mode, files' path = some
        ⟨(io.write (tmpPath path)).written (dbText pending.db), mode⟩ := by
  have notTmp := (tmpPath_ne path).symm
  have saved : ∃ middle, (saveRevocationDb io path pending.db).exec middle =
      (.ok (), files') := by
    unfold Pending.write at wrote
    cases found : pending.publication with
    | none =>
        rw [found] at wrote
        exact ⟨files, wrote⟩
    | some publication =>
        rw [found] at wrote
        obtain ⟨_, middle, _, saved⟩ := Run.exec_bind_eq_ok.mp wrote
        exact ⟨middle, saved⟩
  obtain ⟨middle, saved⟩ := saved
  obtain ⟨_, writes, _, rfl⟩ := saveRevocationDb_eq_ok.mp saved
  rw [Function.update_of_ne notTmp, Function.update_self]
  exact ⟨writes, _, rfl⟩

/-- The database as a run without read faults finds it. -/
def heldDb (files : FileSystem) (path : String) : Result RevocationDb :=
  match files path with
  | none => .ok {}
  | some file => loadRevocationDb path (.opened file.content false)

theorem readDb_eq_heldDb {io : IoFaults} {path : String}
    (opens : io.openRead path = false) (reads : io.readStops path = none)
    (files : FileSystem) : readDb io files path = heldDb files path := by
  unfold readDb heldDb openForReading
  cases files path with
  | none => rfl
  | some file => simp only [opens, reads, Bool.false_eq_true, if_false]

theorem heldDb_congr {files files' : FileSystem} {path : String}
    (same : files' path = files path) :
    heldDb files' path = heldDb files path := by
  unfold heldDb
  rw [same]

theorem heldDb_wellFormed {files : FileSystem} {path : String}
    {db : RevocationDb} (held : heldDb files path = .ok db) :
    ∀ entry ∈ db.entries, entry.WellFormed := by
  unfold heldDb at held
  split at held
  · cases held
    simp
  · exact loadRevocationDb_wellFormed held

/-- No write of the run fails; reads may. -/
structure WritesWork (io : IoFaults) : Prop where
  opens : ∀ path, io.openWrite path = false
  accepts : ∀ path, (io.write path).accepted = none
  chmods : ∀ path, io.chmod path = false
  renames : ∀ path, io.rename path = false

theorem writesWork_none : WritesWork IoFaults.none where
  opens _ := rfl
  accepts _ := rfl
  chmods _ := rfl
  renames _ := rfl

theorem WritesWork.written {io : IoFaults} (works : WritesWork io)
    (path : String) (data : Bytes) :
    (io.write path).written data = data ∧
      (io.write path).failsVisibly data = false := by
  simp [WriteFate.written, WriteFate.failsVisibly, works.accepts path]

theorem Pending.write_works {io : IoFaults} (works : WritesWork io)
    (path : String) (pending : Pending) (files : FileSystem) :
    ∃ files', (pending.write io path).exec files = (.ok (), files') := by
  have saves : ∀ middle, ∃ files',
      (saveRevocationDb io path pending.db).exec middle = (.ok (), files') := by
    intro middle
    simp [saveRevocationDb_exec, works.opens, (works.written _ _).2,
      works.renames]
  unfold Pending.write
  cases pending.publication with
  | none => exact saves files
  | some publication =>
      simp only [Run.exec_bind, Publication.write, writeFile_exec, works.opens,
        (works.written _ _).2, works.chmods, Bool.false_eq_true, if_false]
      exact saves _

theorem heldDb_of_write {io : IoFaults} {path : String}
    (works : WritesWork io) {pending : Pending} {files files' : FileSystem}
    (wrote : (pending.write io path).exec files = (.ok (), files')) :
    heldDb files' path =
      loadRevocationDb path (.opened (dbText pending.db) false) := by
  obtain ⟨_, mode, written⟩ := Pending.write_ok wrote
  unfold heldDb
  rw [written, (works.written _ _).1]

end TeeAnchor.Ca
