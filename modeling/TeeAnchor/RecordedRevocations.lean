import TeeAnchor.CrlIssueFailures
import TeeAnchor.Histories

/-!
# Revocations stay recorded

In a history of runs, the database has an entry for every serial number that a
run of `revoke` reported as revoked, and no other new one, whatever commands
there are besides and whichever runs fail: all that is asked is that others
leave the database alone and that the runs on it read all of it and notice what
they lose.
-/

namespace TeeAnchor

open Ca

/-- The operation on a database that a command is. -/
def Command.operation (env : Environment) (files : FileSystem) :
    Command → Option Operation
  | .revoke args => some (.revoke (env.host files) env.io args)
  | .crlIssue args => some (.crlIssue (env.host files) env.io args)
  | _ => none

/-- The event leaves the database alone, or is a run on it that reads all of it
and notices what it loses. -/
def Event.KeepsDb (path : String) : Event → Prop
  | .run env argv => ∀ command, request argv = .run command →
      path ∈ command.owned → ∀ files, ∃ operation,
        command.operation env files = some operation ∧
          operation.KeepsDb path ∧ path ∉ operation.outPath
  | .other change => ∀ files, change files path = files path

def Event.operation (path : String) (files : FileSystem) :
    Event → Option (Environment × Operation)
  | .run env argv =>
      match request argv with
      | .exit _ => none
      | .run command =>
          ((command.operation env files).filter fun operation =>
            operation.dbPath = path).map fun operation => (env, operation)
  | .other _ => none

/-- The serial number that a run of `revoke` reports as revoked, by its exit
code. -/
def Ca.Operation.reported (ssl : OpenSsl) (files : FileSystem) :
    Operation → Option Int
  | .revoke host io args =>
      if exitCode ((runRevoke ssl host io args).exec files).1 = 0 then
        (Pki.loadPemCert ssl host args.certPath).toOption.map X509.serialNumber
      else none
  | .crlIssue _ _ _ => none

/-- The CRL that a run of `crl-issue` reports as issued, by its exit code. -/
def Ca.Operation.issuedCrl (ssl : OpenSsl) (files : FileSystem) :
    Operation → Option X509Crl
  | .revoke _ _ _ => none
  | .crlIssue host io args =>
      if exitCode ((runCrlIssue ssl host io args).exec files).1 = 0 then
        match (Operation.crlIssue host io args).load ssl files with
        | .ok (some ⟨_, some publication⟩) => some publication.crl
        | _ => none
      else none

/-- What the operations on the database yield in a history. -/
def yieldedIn {α : Type} (ssl : OpenSsl) (path : String)
    (yields : OpenSsl → FileSystem → Operation → Option α) :
    List Event → FileSystem → List α
  | [], _ => []
  | event :: history, files =>
      ((event.operation path files).bind fun (env, operation) =>
          yields (env.library ssl) files operation).toList ++
        yieldedIn ssl path yields history (event.step ssl files)

/-- The serial numbers reported as revoked in a history. -/
def revokedIn (ssl : OpenSsl) (path : String) :
    List Event → FileSystem → List Int :=
  yieldedIn ssl path Operation.reported

/-- The CRLs reported as issued in a history. -/
def issuedIn (ssl : OpenSsl) (path : String) :
    List Event → FileSystem → List X509Crl :=
  yieldedIn ssl path Operation.issuedCrl

def serialText (ssl : OpenSsl) (serial : Int) : Bytes :=
  (ssl.bn2hex serial).map toLower

/-- The database has grown by these serial numbers.  Entries that are not
legible may be lost. -/
structure Grows (ssl : OpenSsl) (serials : List Int) (db db' : RevocationDb) :
    Prop where
  untagged : db'.Untagged
  kept : ∀ entry ∈ db.entries, entry.Legible → entry ∈ db'.entries
  recorded : ∀ serial ∈ serials, ∃ entry ∈ db'.entries,
    entry.Legible ∧ entry.serialHex = serialText ssl serial
  noOther : ∀ entry ∈ db'.entries, entry ∈ db.entries ∨
    ∃ serial ∈ serials, entry.serialHex = serialText ssl serial

variable {ssl : OpenSsl} {env : Environment} {path : String}
  {files : FileSystem} {db db' : RevocationDb} {serials : List Int}

theorem Grows.refl (untagged : db.Untagged) : Grows ssl [] db db where
  untagged := untagged
  kept _ member _ := member
  recorded := by simp
  noOther _ member := Or.inl member

theorem Grows.trans {db'' : RevocationDb} {later : List Int}
    (first : Grows ssl serials db db') (second : Grows ssl later db' db'') :
    Grows ssl (serials ++ later) db db'' where
  untagged := second.untagged
  kept entry member legible :=
    second.kept entry (first.kept entry member legible) legible
  recorded := by
    intro serial member
    rcases List.mem_append.mp member with earlier | late
    · obtain ⟨entry, there, legible, same⟩ := first.recorded serial earlier
      exact ⟨entry, second.kept entry there legible, legible, same⟩
    · exact second.recorded serial late
  noOther := by
    intro entry member
    rcases second.noOther entry member with before | ⟨serial, late, same⟩
    · rcases first.noOther entry before with start | ⟨serial, earlier, same⟩
      · exact Or.inl start
      · exact Or.inr ⟨serial, List.mem_append_left _ earlier, same⟩
    · exact Or.inr ⟨serial, List.mem_append_right _ late, same⟩

theorem grows_library :
    Grows (env.library ssl) serials db db' ↔ Grows ssl serials db db' :=
  ⟨fun ⟨untagged, kept, recorded, noOther⟩ =>
      ⟨untagged, kept, recorded, noOther⟩,
    fun ⟨untagged, kept, recorded, noOther⟩ =>
      ⟨untagged, kept, recorded, noOther⟩⟩

theorem Ca.HexCodec.library (codec : HexCodec ssl) :
    HexCodec (env.library ssl) :=
  ⟨codec.format, codec.inverse, codec.ignoresCase⟩

theorem legible_of_serialText (codec : HexCodec ssl) {entry : RevocationEntry}
    {serial : Int} (same : entry.serialHex = serialText ssl serial) :
    entry.Legible :=
  legible_of_hexNumber (codec.format serial) same

theorem exitCode_eq_zero {outcome : Except Exception Unit} :
    exitCode outcome = 0 ↔ outcome = .ok () := by
  rcases outcome with (message | message) | done
  · simp [exitCode]
  · simp [exitCode]
  · simp [exitCode]

theorem Command.exec_operation {command : Command} {operation : Operation}
    (isOperation : command.operation env files = some operation) :
    command.exec ssl env files =
      (exitCode ((operation.run (env.library ssl)).exec files).1,
        ((operation.run (env.library ssl)).exec files).2) := by
  cases command with
  | caInit args => cases isOperation
  | provision args => cases isOperation
  | revoke args =>
      cases isOperation
      rfl
  | crlIssue args =>
      cases isOperation
      rfl
  | verify args => cases isOperation

/-- A run either leaves the database as it is, and then it has thrown or had
nothing to write, or saves what it had pending. -/
theorem Ca.Operation.run_cases (codec : HexCodec ssl) {operation : Operation}
    (keeps : operation.KeepsDb path) (apart : path ∉ operation.outPath)
    (held : heldDb files path = .ok db) (untagged : db.Untagged)
    {outcome : Except Exception Unit} {files' : FileSystem}
    (ran : (operation.run ssl).exec files = (outcome, files')) :
    (files' path = files path ∧
      (outcome = .ok () → operation.load ssl files = .ok none)) ∨
    ∃ pending, outcome = .ok () ∧
      operation.load ssl files = .ok (some pending) ∧ pending.Extends db ∧
      heldDb files' path = .ok { pending.db with
        entries := pending.db.entries.filter (·.Legible) } := by
  rw [operation.run_exec] at ran
  have read : readDb operation.io files operation.dbPath = .ok db := by
    rw [keeps.dbPath, readDb_eq_heldDb keeps.opens keeps.reads, held]
  cases loaded : operation.load ssl files with
  | error refused =>
      rw [loaded] at ran
      cases ran
      exact Or.inl ⟨rfl, fun done => by cases done⟩
  | ok pending =>
      rw [loaded] at ran
      cases pending with
      | none =>
          cases ran
          exact Or.inl ⟨rfl, fun _ => rfl⟩
      | some pending =>
          have extend := pending_extends codec keeps.clock read
            (heldDb_wellFormed held) untagged loaded
          change (pending.write operation.io operation.dbPath).exec files = _
            at ran
          rw [keeps.dbPath] at ran
          cases outcome with
          | error failure =>
              refine Or.inl ⟨Pending.write_error ran ?_, fun done => by
                cases done⟩
              rintro publication published rfl
              obtain ⟨pendingDb, _⟩ := pending
              cases published
              exact apart (load_outPath loaded)
          | ok done =>
              exact Or.inr ⟨pending, rfl, rfl, extend,
                heldDb_of_saved keeps.writes extend.wellFormed extend.untagged
                  ran⟩

/-- What a run that extends a database has saved keeps the legible entries. -/
theorem Ca.Pending.Extends.kept {pending : Pending}
    (extend : pending.Extends db) {entry : RevocationEntry}
    (member : entry ∈ db.entries) (legible : entry.Legible) :
    entry ∈ pending.db.entries.filter (·.Legible) :=
  List.mem_filter.mpr ⟨extend.entries member, by simpa using legible⟩

theorem revokedSerial_text {host : Host} {args : RevokeArgs} {cert : X509}
    {serialHex : Bytes} (serial : revokedSerial ssl host args = .ok serialHex)
    (loaded : Pki.loadPemCert ssl host args.certPath = .ok cert) :
    serialHex = serialText ssl cert.serialNumber := by
  obtain ⟨_, _, other, _, loaded', _, printed⟩ := revokedSerial_eq_ok.mp serial
  cases loaded.symm.trans loaded'
  exact (serialHexLower_eq_ok.mp printed).2.symm

theorem revokePending_eq_none {host : Host} {args : RevokeArgs}
    {serialHex : Bytes} :
    revokePending host args serialHex db = none ↔
      db.contains serialHex = true := by
  simp [revokePending]

theorem entries_of_revokePending {host : Host} {args : RevokeArgs}
    {serialHex : Bytes} {pending : Pending}
    (isPending : revokePending host args serialHex db = some pending) :
    pending.db.entries = db.entries ++
      [⟨serialHex, host.generalizedTimeNowUtc, ascii args.reason⟩] := by
  unfold revokePending at isPending
  split at isPending
  · cases isPending
  · cases isPending
    rfl

/-- A database that has the serial number has grown by it. -/
theorem grows_of_contains (codec : HexCodec ssl) {serial : Int}
    {serialHex : Bytes} (untagged : db.Untagged)
    (present : db.contains serialHex = true)
    (text : serialHex = serialText ssl serial) : Grows ssl [serial] db db where
  untagged := untagged
  kept _ member _ := member
  recorded := by
    obtain ⟨entry, member, isSerial⟩ := List.any_eq_true.mp present
    have same := (beq_iff_eq.mp isSerial).trans text
    rw [List.forall_mem_singleton]
    exact ⟨entry, member, legible_of_serialText codec same, same⟩
  noOther _ member := Or.inl member

/-- What is saved of these and one more entry has grown by its serial number. -/
theorem Ca.Pending.Extends.grows_append (codec : HexCodec ssl)
    {pending : Pending} (extend : pending.Extends db) {entry : RevocationEntry}
    {serial : Int} (appended : pending.db.entries = db.entries ++ [entry])
    (text : entry.serialHex = serialText ssl serial) :
    Grows ssl [serial] db { pending.db with
      entries := pending.db.entries.filter (·.Legible) } where
  untagged := untagged_filter extend.untagged
  kept _ member legible := extend.kept member legible
  recorded := by
    have legible := legible_of_serialText codec text
    have member : entry ∈ pending.db.entries := by simp [appended]
    rw [List.forall_mem_singleton]
    exact ⟨entry, List.mem_filter.mpr ⟨member, by simpa using legible⟩,
      legible, text⟩
  noOther := by
    intro other member
    have among := List.mem_of_mem_filter member
    rw [appended, List.mem_append, List.mem_singleton] at among
    rcases among with old | rfl
    · exact Or.inl old
    · exact Or.inr ⟨serial, List.mem_singleton_self _, text⟩

/-- What is saved of just these entries has not grown. -/
theorem Ca.Pending.Extends.grows_same {pending : Pending}
    (extend : pending.Extends db) (same : pending.db.entries = db.entries) :
    Grows ssl [] db { pending.db with
      entries := pending.db.entries.filter (·.Legible) } where
  untagged := untagged_filter extend.untagged
  kept _ member legible := extend.kept member legible
  recorded := List.forall_mem_nil _
  noOther _ member := Or.inl (same ▸ List.mem_of_mem_filter member)

/-- A revocation that is reported is recorded, and records nothing else. -/
theorem Ca.Operation.grows (codec : HexCodec ssl) {operation : Operation}
    (keeps : operation.KeepsDb path) (apart : path ∉ operation.outPath)
    (held : heldDb files path = .ok db) (untagged : db.Untagged) :
    ∃ db', heldDb ((operation.run ssl).exec files).2 path = .ok db' ∧
      Grows ssl (operation.reported ssl files).toList db db' := by
  have whole := readDb_eq_heldDb keeps.opens keeps.reads files
  rw [held, ← keeps.dbPath] at whole
  rcases ran : (operation.run ssl).exec files with ⟨outcome, files'⟩
  have ends := operation.run_cases codec keeps apart held untagged ran
  cases operation with
  | revoke host io args =>
      change (runRevoke ssl host io args).exec files = _ at ran
      rw [Operation.reported, ran]
      rcases ends with ⟨same, nothing⟩ | ⟨pending, rfl, loaded, extend, saved⟩
      · refine ⟨db, (heldDb_congr same).trans held, ?_⟩
        by_cases done : outcome = .ok ()
        · obtain ⟨serialHex, _, serial, read, isNone⟩ :=
            load_revoke_eq_ok.mp (nothing done)
          cases whole.symm.trans read
          obtain ⟨_, _, cert, _, loaded, _⟩ := revokedSerial_eq_ok.mp serial
          rw [if_pos (exitCode_eq_zero.mpr done), loaded]
          exact grows_of_contains codec untagged
            (revokePending_eq_none.mp isNone) (revokedSerial_text serial loaded)
        · rw [if_neg (mt exitCode_eq_zero.mp done)]
          exact Grows.refl untagged
      · obtain ⟨serialHex, _, serial, read, isSome⟩ :=
          load_revoke_eq_ok.mp loaded
        cases whole.symm.trans read
        obtain ⟨_, _, cert, _, certLoaded, _⟩ := revokedSerial_eq_ok.mp serial
        rw [if_pos (exitCode_eq_zero.mpr rfl), certLoaded]
        exact ⟨_, saved, extend.grows_append codec
          (entries_of_revokePending isSome)
          (revokedSerial_text serial certLoaded)⟩
  | crlIssue host io args =>
      rcases ends with ⟨same, _⟩ | ⟨pending, rfl, loaded, extend, saved⟩
      · exact ⟨db, (heldDb_congr same).trans held, Grows.refl untagged⟩
      · obtain ⟨_, _, publication, _, read, _, isPending⟩ :=
          load_crlIssue_eq_ok.mp loaded
        cases isPending
        cases whole.symm.trans read
        exact ⟨_, saved, extend.grows_same rfl⟩

/-- The CRL number goes up by one with every CRL that is reported as issued,
which has the new number and lists what the database has. -/
theorem Ca.Operation.counts (codec : HexCodec ssl) {operation : Operation}
    (keeps : operation.KeepsDb path) (apart : path ∉ operation.outPath)
    (held : heldDb files path = .ok db) (untagged : db.Untagged)
    (held' : heldDb ((operation.run ssl).exec files).2 path = .ok db') :
    (operation.issuedCrl ssl files = none ∧ db'.crlNumber = db.crlNumber) ∨
      ∃ host args caKey caCert publication,
        operation.issuedCrl ssl files = some publication.crl ∧
        db'.crlNumber = db.crlNumber + 1 ∧
        publish ssl host args caKey caCert db.next = .ok publication := by
  have whole := readDb_eq_heldDb keeps.opens keeps.reads files
  rw [held, ← keeps.dbPath] at whole
  rcases ran : (operation.run ssl).exec files with ⟨outcome, files'⟩
  rw [ran] at held'
  have unchanged : files' path = files path →
      db'.crlNumber = db.crlNumber := by
    intro same
    rw [heldDb_congr same, held] at held'
    cases held'
    rfl
  have ends := operation.run_cases codec keeps apart held untagged ran
  cases operation with
  | revoke host io args =>
      left
      refine ⟨rfl, ?_⟩
      rcases ends with ⟨same, _⟩ | ⟨pending, _, loaded, extend, saved⟩
      · exact unchanged same
      · cases saved.symm.trans held'
        rcases extend.crlNumber with ⟨sameNumber, _⟩ |
          ⟨_, publication, published, _⟩
        · exact sameNumber
        · obtain ⟨pendingDb, _⟩ := pending
          cases published
          cases load_outPath loaded
  | crlIssue host io args =>
      change (runCrlIssue ssl host io args).exec files = _ at ran
      rw [Operation.issuedCrl, ran]
      rcases ends with ⟨same, nothing⟩ | ⟨pending, rfl, loaded, _, saved⟩
      · left
        refine ⟨?_, unchanged same⟩
        apply if_neg
        intro zero
        obtain ⟨_, _, _, _, _, _, isNone⟩ := load_crlIssue_eq_ok.mp
          (nothing (exitCode_eq_zero.mp zero))
        cases isNone
      · right
        rw [if_pos (exitCode_eq_zero.mpr rfl), loaded]
        obtain ⟨⟨caKey, caCert⟩, _, publication, _, read, published,
          isPending⟩ := load_crlIssue_eq_ok.mp loaded
        cases isPending
        cases whole.symm.trans read
        cases saved.symm.trans held'
        exact ⟨host, args, caKey, caCert, publication, rfl, rfl, published⟩

theorem owns_of_operation {command : Command} {operation : Operation}
    (isOperation : command.operation env files = some operation)
    (onDb : operation.dbPath = path) : path ∈ command.owned := by
  cases command with
  | caInit args => cases isOperation
  | provision args => cases isOperation
  | revoke args =>
      cases isOperation
      simp [Command.owned, ← onDb, Operation.dbPath]
  | crlIssue args =>
      cases isOperation
      simp [Command.owned, ← onDb, Operation.dbPath]
  | verify args => cases isOperation

theorem Event.KeepsDb.cases {event : Event} (keeps : event.KeepsDb path)
    (ssl : OpenSsl) (files : FileSystem) :
    (event.operation path files = none ∧
      event.step ssl files path = files path) ∨
    ∃ env operation, event.operation path files = some (env, operation) ∧
      operation.KeepsDb path ∧ path ∉ operation.outPath ∧
      event.step ssl files =
        ((operation.run (env.library ssl)).exec files).2 := by
  cases event with
  | other change => exact Or.inl ⟨rfl, keeps files⟩
  | run env argv =>
      cases asked : request argv with
      | exit code =>
          left
          rw [step_run_of_exit asked]
          exact ⟨by simp only [Event.operation, asked], rfl⟩
      | run command =>
          rw [step_run_of_run asked]
          by_cases owned : path ∈ command.owned
          · obtain ⟨operation, isOperation, keepsDb, apart⟩ :=
              keeps command asked owned files
            right
            refine ⟨env, operation, ?_, keepsDb, apart, ?_⟩
            · simp only [Event.operation, asked, isOperation]
              simp [keepsDb.dbPath]
            · rw [command.exec_operation isOperation]
          · left
            refine ⟨?_, command.exec_other owned⟩
            simp only [Event.operation, asked, Option.map_eq_none_iff,
              Option.filter_eq_none_iff, decide_eq_true_eq]
            intro operation isOperation onDb
            exact owned (owns_of_operation isOperation onDb)

theorem Event.KeepsDb.grows (codec : HexCodec ssl) {event : Event}
    (keeps : event.KeepsDb path) (held : heldDb files path = .ok db)
    (untagged : db.Untagged) :
    ∃ db', heldDb (event.step ssl files) path = .ok db' ∧
      Grows ssl ((event.operation path files).bind fun (env, operation) =>
        operation.reported (env.library ssl) files).toList db db' := by
  rcases keeps.cases ssl files with ⟨nothing, same⟩ |
    ⟨env, operation, isOperation, keepsDb, apart, step⟩
  · rw [nothing]
    exact ⟨db, (heldDb_congr same).trans held, Grows.refl untagged⟩
  · rw [isOperation, step]
    obtain ⟨db', held', grows⟩ :=
      operation.grows codec.library keepsDb apart held untagged
    exact ⟨db', held', grows_library.mp grows⟩

theorem grows_leaving (codec : HexCodec ssl) {history : List Event}
    (keeps : ∀ event ∈ history, event.KeepsDb path)
    (held : heldDb files path = .ok db) (untagged : db.Untagged) :
    ∃ db', heldDb (leaving ssl history files) path = .ok db' ∧
      Grows ssl (revokedIn ssl path history files) db db' := by
  induction history generalizing files db with
  | nil => exact ⟨db, held, Grows.refl untagged⟩
  | cons event history ih =>
      rw [List.forall_mem_cons] at keeps
      obtain ⟨middle, heldMiddle, first⟩ :=
        keeps.1.grows codec held untagged
      obtain ⟨db', held', later⟩ := ih keeps.2 heldMiddle first.untagged
      rw [leaving_cons]
      exact ⟨db', held', first.trans later⟩

end TeeAnchor
