import TeeAnchor.BufferedOutput
import TeeAnchor.RevocationDb

/-!
# What a save leaves of the database

A save is meant to be all or nothing: the database file holds all of the new
text, or the save throws and the file is untouched.  The stream state is
checked before the stream is closed, so a device that fails on what is still
buffered then is noticed by nobody, and the rename puts the short file in
place.  That is the only way to miss the aim.
-/

namespace TeeAnchor

open BufferedOutput

namespace WriteFate

theorem written_eq_held (fate : WriteFate) (data : Bytes) :
    fate.written data = held fate.accepted data := by
  unfold written held
  cases fate.accepted <;> rfl

theorem failsVisibly_eq_overflows (fate : WriteFate) (data : Bytes) :
    fate.failsVisibly data =
      overflows fate.accepted (data.take fate.pushed) := by
  unfold failsVisibly overflows
  cases fate.accepted with
  | none => rfl
  | some accepted => rw [List.length_take]

/-- However a text is put on a buffered stream, and whatever the stream keeps
in its buffer, the outcome is one of those a run is given. -/
theorem exists_of_putAll (limit : Option Nat)
    (kept : Bytes → Bytes → Nat) (chunks : List Bytes) :
    ∃ fate : WriteFate, fate.accepted = limit ∧
      fate.failsVisibly chunks.flatten =
        (Stream.empty.putAll limit kept chunks).bad ∧
      fate.written chunks.flatten =
        (Stream.empty.putAll limit kept chunks).close limit := by
  obtain ⟨pushed, bad, closed⟩ := putAll_outcome limit kept chunks
  refine ⟨⟨pushed, limit⟩, rfl, ?_, ?_⟩
  · rw [failsVisibly_eq_overflows, bad]
  · rw [written_eq_held, closed]

/-- Nothing is lost unseen when the device takes all of the data, or fails on
a byte that is pushed before the check. -/
theorem losesSilently_eq_false {fate : WriteFate} {data : Bytes} :
    fate.losesSilently data = false ↔
      ∀ accepted, fate.accepted = some accepted →
        data.length ≤ accepted ∨ accepted < min fate.pushed data.length := by
  unfold losesSilently failsVisibly written
  cases fate.accepted with
  | none => simp
  | some accepted =>
      simp only [bne, Bool.and_eq_false_iff, Bool.not_eq_false',
        beq_iff_eq, List.take_eq_self_iff, decide_eq_true_eq,
        Option.some.injEq, forall_eq']

theorem losesSilently_eq_false_iff {fate : WriteFate} {data : Bytes} :
    fate.losesSilently data = false ↔
      fate.failsVisibly data = true ∨ fate.written data = data := by
  simp [losesSilently, or_comm, imp_iff_not_or]

end WriteFate

namespace Ca

/-- The database is put on the stream in these chunks. -/
def dbChunks (db : RevocationDb) : List Bytes :=
  headerLines.map (fun line => line ++ [10]) ++
    [crlNumberTag ++ [32], decimal db.crlNumber.toNat, [10]] ++
    db.entries.flatMap fun entry =>
      [entry.serialHex, [32], entry.revocationDate] ++
        (if entry.reason.isEmpty then [] else [[32], entry.reason]) ++ [[10]]

theorem dbChunks_flatten (db : RevocationDb) :
    (dbChunks db).flatten = dbText db := by
  have ofEntry : ∀ entry : RevocationEntry,
      ([entry.serialHex, [32], entry.revocationDate] ++
        (if entry.reason.isEmpty then [] else [[32], entry.reason]) ++
          [[10]]).flatten = entryLine entry ++ [10] := by
    intro entry
    unfold entryLine
    by_cases noReason : entry.reason.isEmpty
    · simp [noReason]
    · simp [noReason]
  have ofEntries : ∀ entries : List RevocationEntry,
      (entries.flatMap fun entry =>
        [entry.serialHex, [32], entry.revocationDate] ++
          (if entry.reason.isEmpty then [] else [[32], entry.reason]) ++
            [[10]]).flatten =
        (entries.map entryLine).flatMap fun line => line ++ [10] := by
    intro entries
    induction entries with
    | nil => rfl
    | cons entry entries ih =>
        rw [List.flatMap_cons, List.flatten_append, ofEntry, ih]
        rfl
  unfold dbChunks dbText dbLines
  rw [List.flatten_append, List.flatten_append, ofEntries,
    List.flatMap_append, List.flatMap_cons, ← List.flatMap_def]
  simp [crlNumberLine]

/-- The chunks of a save on any stream have an outcome that a run is given. -/
theorem exists_writeFate (limit : Option Nat) (kept : Bytes → Bytes → Nat)
    (db : RevocationDb) :
    ∃ fate : WriteFate, fate.accepted = limit ∧
      fate.failsVisibly (dbText db) =
        (Stream.empty.putAll limit kept (dbChunks db)).bad ∧
      fate.written (dbText db) =
        (Stream.empty.putAll limit kept (dbChunks db)).close limit := by
  rw [← dbChunks_flatten]
  exact WriteFate.exists_of_putAll limit kept (dbChunks db)

/-- The outcome is a save of the whole text, or an exception and a database
file as it was. -/
def AllOrNothing (path : String) (db : RevocationDb) (files : FileSystem)
    (outcome : Except Exception Unit × FileSystem) : Prop :=
  (outcome.1 = .ok () ∧
      (outcome.2 path).map File.content = some (dbText db)) ∨
    ((∃ what, outcome.1 = .error (.teeAnchorError what)) ∧
      outcome.2 path = files path)

theorem saveRevocationDb_throws {io : IoFaults} {path : String}
    {db : RevocationDb} {files files' : FileSystem} {failure : Exception}
    (threw : (saveRevocationDb io path db).exec files =
      (.error failure, files')) :
    ∃ what, failure = .teeAnchorError what := by
  rw [saveRevocationDb_exec] at threw
  split at threw
  · cases threw
    exact ⟨_, rfl⟩
  · split at threw
    · cases threw
      exact ⟨_, rfl⟩
    · split at threw
      · cases threw
        exact ⟨_, rfl⟩
      · cases threw

theorem saveRevocationDb_returns {io : IoFaults} {path : String}
    {db : RevocationDb} (opens : io.openWrite (tmpPath path) = false)
    (unseen : (io.write (tmpPath path)).failsVisibly (dbText db) = false)
    (renames : io.rename (tmpPath path) = false) (files : FileSystem) :
    ∃ files', (saveRevocationDb io path db).exec files = (.ok (), files') :=
  ⟨_, saveRevocationDb_eq_ok.mpr ⟨opens, unseen, renames, rfl⟩⟩

/-- A save that throws nothing leaves what reached the device. -/
theorem saveRevocationDb_content {io : IoFaults} {path : String}
    {db : RevocationDb} {files files' : FileSystem}
    (saved : (saveRevocationDb io path db).exec files = (.ok (), files')) :
    (files' path).map File.content =
      some ((io.write (tmpPath path)).written (dbText db)) := by
  obtain ⟨_, _, _, rfl⟩ := saveRevocationDb_eq_ok.mp saved
  rw [Function.update_of_ne (tmpPath_ne path).symm, Function.update_self]
  rfl

/-- Only a loss that the check of the stream does not see stands between a save
and its aim. -/
theorem allOrNothing_iff_noLoss (io : IoFaults) (path : String)
    (db : RevocationDb) (files : FileSystem) :
    AllOrNothing path db files ((saveRevocationDb io path db).exec files) ↔
      io.openWrite (tmpPath path) = true ∨
        io.rename (tmpPath path) = true ∨
        (io.write (tmpPath path)).losesSilently (dbText db) = false := by
  rcases outcome : (saveRevocationDb io path db).exec files with
    ⟨result, files'⟩
  cases result with
  | error failure =>
      have untouched : AllOrNothing path db files (.error failure, files') := by
        obtain ⟨what, rfl⟩ := saveRevocationDb_throws outcome
        exact .inr ⟨⟨what, rfl⟩,
          saveRevocationDb_error outcome (tmpPath_ne path).symm⟩
      refine iff_of_true untouched ?_
      -- Only the open, the check of the stream and the rename can throw.
      by_contra none
      rw [not_or, not_or] at none
      obtain ⟨opens, renames, loses⟩ := none
      have unseen : (io.write (tmpPath path)).failsVisibly (dbText db) =
          false := by
        have both := Bool.eq_true_of_not_eq_false loses
        rw [WriteFate.losesSilently, Bool.and_eq_true, Bool.not_eq_true']
          at both
        exact both.2
      obtain ⟨_, saves⟩ := saveRevocationDb_returns
        (Bool.eq_false_of_not_eq_true opens) unseen
        (Bool.eq_false_of_not_eq_true renames) files
      rw [saves] at outcome
      cases outcome
  | ok done =>
      obtain ⟨opens, unseen, renames, _⟩ := saveRevocationDb_eq_ok.mp outcome
      have content := saveRevocationDb_content outcome
      rw [opens, renames, WriteFate.losesSilently, unseen, Bool.not_false,
        Bool.and_true]
      constructor
      · rintro (⟨_, whole⟩ | ⟨⟨what, threw⟩, _⟩)
        · have same := Option.some.inj (content.symm.trans whole)
          exact .inr (.inr (by simp [same]))
        · cases threw
      · rintro (impossible | impossible | same)
        · cases impossible
        · cases impossible
        · have same : (io.write (tmpPath path)).written (dbText db) =
              dbText db := by simpa using same
          exact .inl ⟨rfl, by rw [content, same]⟩

/-- A save is all or nothing exactly when it fails before the stream or after
it, or no byte is lost between the check of the stream and its close.  For a
stream that keeps some of the chunks in its buffer this is when it is bad at the
check or leaves the whole text at its close. -/
theorem saveRevocationDb_allOrNothing_iff (io : IoFaults) (path : String)
    (db : RevocationDb) (files : FileSystem) :
    (AllOrNothing path db files ((saveRevocationDb io path db).exec files) ↔
      io.openWrite (tmpPath path) = true ∨
        io.rename (tmpPath path) = true ∨
        ∀ accepted, (io.write (tmpPath path)).accepted = some accepted →
          (dbText db).length ≤ accepted ∨
            accepted < min (io.write (tmpPath path)).pushed
              (dbText db).length) ∧
    ∀ (limit : Option Nat) (kept : Bytes → Bytes → Nat),
      let stream := Stream.empty.putAll limit kept (dbChunks db)
      ∃ fate : WriteFate, fate.accepted = limit ∧
        fate.failsVisibly (dbText db) = stream.bad ∧
        fate.written (dbText db) = stream.close limit ∧
        (AllOrNothing path db files ((saveRevocationDb
            { io with write := Function.update io.write (tmpPath path) fate }
            path db).exec files) ↔
          io.openWrite (tmpPath path) = true ∨
            io.rename (tmpPath path) = true ∨
            stream.bad = true ∨ stream.close limit = dbText db) := by
  constructor
  · rw [allOrNothing_iff_noLoss, WriteFate.losesSilently_eq_false]
  · intro limit kept stream
    obtain ⟨fate, accepts, bad, closed⟩ := exists_writeFate limit kept db
    refine ⟨fate, accepts, bad, closed, ?_⟩
    have fateEq : Function.update io.write (tmpPath path) fate (tmpPath path) =
        fate :=
      Function.update_self ..
    rw [allOrNothing_iff_noLoss]
    simp only [fateEq, WriteFate.losesSilently_eq_false_iff, bad, closed,
      stream]

/-- A device that is full from the start. -/
def fullDevice : IoFaults :=
  { IoFaults.none with write := fun _ => ⟨0, some 0⟩ }

theorem fullDevice_unseen (path : String) (data : Bytes) :
    (fullDevice.write path).failsVisibly data = false := by
  change decide (0 < min 0 data.length) = false
  rw [Nat.zero_min]
  rfl

def oneRevocation (crlNumber : UInt64) : RevocationDb :=
  ⟨crlNumber, [⟨ascii "1f", ascii "20250101000000Z", []⟩]⟩

/-- The whole text sits in the buffer when the stream is checked, and the device
takes nothing of it: the save returns and has emptied the database. -/
theorem saveRevocationDb_loses :
    ((saveRevocationDb fullDevice "revocations.txt" (oneRevocation 2)).exec
      fun _ => some ⟨dbText (oneRevocation 1), 0o644⟩).1 = .ok () ∧
    (((saveRevocationDb fullDevice "revocations.txt" (oneRevocation 2)).exec
      fun _ => some ⟨dbText (oneRevocation 1), 0o644⟩).2
        "revocations.txt").map File.content = some [] ∧
    ¬AllOrNothing "revocations.txt" (oneRevocation 2)
      (fun _ => some ⟨dbText (oneRevocation 1), 0o644⟩)
      ((saveRevocationDb fullDevice "revocations.txt" (oneRevocation 2)).exec
        fun _ => some ⟨dbText (oneRevocation 1), 0o644⟩) := by
  generalize (fun _ => some ⟨dbText (oneRevocation 1), 0o644⟩ :
    FileSystem) = files
  obtain ⟨files', saves⟩ := saveRevocationDb_returns
    (rfl : fullDevice.openWrite (tmpPath "revocations.txt") = false)
    (fullDevice_unseen _ (dbText (oneRevocation 2)))
    (rfl : fullDevice.rename (tmpPath "revocations.txt") = false) files
  have emptied := saveRevocationDb_content saves
  rw [saves]
  refine ⟨rfl, emptied, ?_⟩
  rintro (⟨_, whole⟩ | ⟨⟨what, threw⟩, _⟩)
  · have nothing : dbText (oneRevocation 2) = [] :=
      Option.some.inj (whole.symm.trans emptied)
    exact absurd nothing (by decide)
  · cases threw

end Ca

end TeeAnchor
