import TeeAnchor.RevokedEndorsements

/-!
# The CRLs of a history

The CRLs that runs of `crl-issue` report as issued are numbered without gaps,
in their order, and each lists what the ones before it listed, whatever
commands come between them and whichever of these fail.
-/

namespace TeeAnchor

open Ca

def X509Crl.listed (crl : X509Crl) : List Int :=
  crl.revoked.map X509Revoked.serialNumber

/-- The serial number of an entry, as a CRL gets it. -/
def Ca.RevocationDb.HasSerial (ssl : OpenSsl) (db : RevocationDb)
    (serial : Int) : Prop :=
  ∃ entry ∈ db.entries, ssl.hex2bn (cStr entry.serialHex) = some serial

def StaysListed (crl later : X509Crl) : Prop :=
  ∀ serial ∈ crl.listed, serial ∈ later.listed

variable {ssl : OpenSsl} {path : String} {files : FileSystem}
  {db db' : RevocationDb} {serials : List Int}

theorem Grows.legible (codec : HexCodec ssl) (grows : Grows ssl serials db db')
    (legible : ∀ entry ∈ db.entries, entry.Legible) :
    ∀ entry ∈ db'.entries, entry.Legible := by
  intro entry member
  rcases grows.noOther entry member with old | ⟨serial, _, text⟩
  · exact legible entry old
  · exact legible_of_serialText codec text

theorem Grows.hasSerial (grows : Grows ssl serials db db')
    (legible : ∀ entry ∈ db.entries, entry.Legible) {serial : Int}
    (present : db.HasSerial ssl serial) : db'.HasSerial ssl serial := by
  obtain ⟨entry, member, number⟩ := present
  exact ⟨entry, grows.kept entry member (legible entry member), number⟩

theorem toInt64_next {number : UInt64} (room : number.toNat + 1 < 2 ^ 63) :
    (number + 1).toNat = number.toNat + 1 ∧
      (number + 1).toInt64.toInt = number.toNat + 1 := by
  have next : (number + 1).toNat = number.toNat + 1 := by
    rw [UInt64.toNat_add]
    change (number.toNat + 1) % 2 ^ 64 = _
    omega
  refine ⟨next, ?_⟩
  rw [toInt64_toInt_of_lt (next ▸ room), next]
  rfl

/-- The CRL that an event reports as issued, if it does, has the next number
and lists the database. -/
theorem Event.KeepsDb.issues (codec : HexCodec ssl)
    (sorts : ∀ revoked, (ssl.x509CrlSort revoked).Perm revoked) {event : Event}
    (keeps : event.KeepsDb path) (held : heldDb files path = .ok db)
    (untagged : db.Untagged)
    (held' : heldDb (event.step ssl files) path = .ok db') :
    (issuedIn ssl path [event] files = [] ∧ db'.crlNumber = db.crlNumber) ∨
      ∃ crl, issuedIn ssl path [event] files = [crl] ∧
        db'.crlNumber = db.crlNumber + 1 ∧
        crl.crlNumber = (db.crlNumber + 1).toInt64.toInt ∧
        ∀ serial, serial ∈ crl.listed ↔ db.HasSerial ssl serial := by
  unfold issuedIn yieldedIn yieldedIn
  rw [List.append_nil]
  rcases keeps.cases ssl files with ⟨nothing, same⟩ |
    ⟨env, operation, isOperation, keepsDb, apart, step⟩
  · left
    rw [nothing]
    rw [heldDb_congr same, held] at held'
    cases held'
    exact ⟨rfl, rfl⟩
  · rw [isOperation]
    rw [step] at held'
    rcases operation.counts codec.library keepsDb apart held untagged held'
      with ⟨nothing, sameNumber⟩ |
        ⟨host, args, caKey, caCert, publication, issued, next, published⟩
    · left
      exact ⟨congrArg Option.toList nothing, sameNumber⟩
    · right
      refine ⟨publication.crl, congrArg Option.toList issued, next,
        (publish_lists published).crlNumber, ?_⟩
      exact (@crlOf_publish (env.library ssl) _ sorts _ _ _ _ _
        published).serials

/-- The CRLs reported as issued in a history have the numbers after the one in
the database, without gaps, and a serial number that one of them lists is listed
in all after it. -/
theorem issued_crls_in_sequence (codec : HexCodec ssl)
    (sorts : ∀ revoked, (ssl.x509CrlSort revoked).Perm revoked)
    {history : List Event} (keeps : ∀ event ∈ history, event.KeepsDb path)
    (held : heldDb files path = .ok db) (untagged : db.Untagged)
    (legible : ∀ entry ∈ db.entries, entry.Legible)
    (room : db.crlNumber.toNat + history.length < 2 ^ 63) :
    (issuedIn ssl path history files).map X509Crl.crlNumber =
        (List.range' (db.crlNumber.toNat + 1)
          (issuedIn ssl path history files).length).map Int.ofNat ∧
      (issuedIn ssl path history files).Pairwise StaysListed := by
  suffices all : _ ∧ _ ∧ ∀ crl ∈ issuedIn ssl path history files,
      ∀ serial, db.HasSerial ssl serial → serial ∈ crl.listed from
    ⟨all.1, all.2.1⟩
  induction history generalizing files db with
  | nil => exact ⟨rfl, List.Pairwise.nil, by simp [issuedIn, yieldedIn]⟩
  | cons event history ih =>
      rw [List.forall_mem_cons] at keeps
      rw [List.length_cons] at room
      obtain ⟨middle, heldMiddle, grows⟩ := keeps.1.grows codec held untagged
      have split : issuedIn ssl path (event :: history) files =
          issuedIn ssl path [event] files ++
            issuedIn ssl path history (event.step ssl files) := by
        simp [issuedIn, yieldedIn]
      have next := keeps.1.issues codec sorts held untagged heldMiddle
      have later := ih keeps.2 heldMiddle grows.untagged
        (grows.legible codec legible)
      have kept : ∀ serial, db.HasSerial ssl serial →
          middle.HasSerial ssl serial :=
        fun serial present => grows.hasSerial legible present
      rw [split]
      rcases next with ⟨none, sameNumber⟩ |
        ⟨crl, one, nextNumber, number, lists⟩
      · rw [sameNumber] at later
        obtain ⟨numbers, stays, listed⟩ := later (by omega)
        rw [none, List.nil_append]
        exact ⟨numbers, stays, fun crl member serial present =>
          listed crl member serial (kept serial present)⟩
      · have small : db.crlNumber.toNat + 1 < 2 ^ 63 := by omega
        obtain ⟨toNat, toInt⟩ := toInt64_next small
        rw [nextNumber, toNat] at later
        obtain ⟨numbers, stays, listed⟩ := later (by omega)
        rw [one, List.singleton_append]
        refine ⟨?_, List.pairwise_cons.mpr ⟨?_, stays⟩,
          List.forall_mem_cons.mpr ⟨fun serial => (lists serial).mpr, ?_⟩⟩
        · rw [List.map_cons, List.length_cons, List.range'_succ, List.map_cons,
            numbers, number, toInt]
          rfl
        · intro other member serial isListed
          exact listed other member serial
            (kept serial ((lists serial).mp isListed))
        · exact fun other member serial present =>
            listed other member serial (kept serial present)

def closedPlace : Environment :=
  { revokingPlace with
    io := { IoFaults.none with openWrite := fun path => path == "ca.crl" } }

/-- One endorsement is issued and revoked, and the first of two CRLs cannot be
written. -/
def crlTwice : List Event :=
  [.run revokingPlace provisionArgv, .run revokingPlace revokeArgv,
    .run closedPlace crlIssueArgv, .run revokingPlace crlIssueArgv]

theorem keepsDb_crlIssue {env : Environment}
    (opens : env.io.openRead "db.txt" = false)
    (reads : env.io.readStops "db.txt" = none)
    (noLoss : ∀ data, (env.io.write "db.txt.tmp").losesSilently data = false) :
    (Event.run env crlIssueArgv).KeepsDb "db.txt" := by
  intro command asked _ files
  cases asked
  exact ⟨_, rfl, ⟨rfl, opens, reads, noLoss, trivial⟩,
    by simp [Operation.outPath]⟩

theorem issued_crls_in_sequence_sample :
    (issuedIn revokingSsl "db.txt" crlTwice noDbFiles).map X509Crl.crlNumber =
      [1] := by
  have keeps : ∀ event ∈ crlTwice, event.KeepsDb "db.txt" := by
    simp only [crlTwice, List.forall_mem_cons]
    exact ⟨keepsDb_provision, keepsDb_revoke,
      keepsDb_crlIssue rfl rfl (WriteFate.losesSilently_none 0),
      keepsDb_crlIssue rfl rfl (WriteFate.losesSilently_none 0),
      List.forall_mem_nil _⟩
  have one : (issuedIn revokingSsl "db.txt" crlTwice noDbFiles).length = 1 := by
    decide +kernel
  have numbers := (@issued_crls_in_sequence revokingSsl "db.txt" noDbFiles {}
    revokingSsl_codec (fun _ => List.Perm.refl _) crlTwice keeps rfl
    (List.forall_mem_nil _) (List.forall_mem_nil _) (by decide)).1
  rw [one] at numbers
  exact numbers

end TeeAnchor
