import TeeAnchor.RecordedRevocations
import TeeAnchor.RevocationHistory
import TeeAnchor.SpelledSerials

/-!
# Issued CRLs

What a CRL made of a database lists, what `crl-issue` leaves in its file and
what is read back from there.
-/

namespace TeeAnchor

open Ca

/-- The reason code that takes an entry off a list. -/
def removeFromCrl : Nat := 8

def CrlPemRoundTrip (ssl : OpenSsl) : Prop :=
  ∀ crl pem, ssl.pemWriteX509Crl crl = some pem →
    ssl.pemReadX509Crl pem = some crl

variable {ssl : OpenSsl} {path : String} {files : FileSystem}
  {db db' : RevocationDb} {serials : List Int}

theorem Ca.crlReasonExtension_not_remove {reason : Bytes} {code : Option Nat}
    (added : crlReasonExtension ssl reason = .ok code) :
    code ≠ some removeFromCrl := by
  unfold crlReasonExtension at added
  by_cases empty : reason.isEmpty
  · simp only [empty, if_true] at added
    cases added
    simp
  · simp only [empty, Bool.false_eq_true, if_false, bind_eq_ok] at added
    obtain ⟨value, mapped, _, _, _, _, _, _, returned⟩ := added
    cases returned
    unfold reasonToInt at mapped
    split at mapped
    · rename_i entry found
      cases mapped
      have codes : ∀ known ∈ kReasonMap, known.2 ≠ removeFromCrl := by decide
      simpa using codes entry (List.mem_of_find?_eq_some found)
    · simp at mapped

theorem Ca.revokedFromEntry_not_remove {entry : RevocationEntry}
    {revoked : X509Revoked}
    (built : revokedFromEntry ssl entry = .ok revoked) :
    revoked.reason ≠ some removeFromCrl := by
  unfold revokedFromEntry at built
  simp only [bind_eq_ok] at built
  obtain ⟨_, _, _, _, _, _, _, _, _, _, code, added, _, _, returned⟩ := built
  cases returned
  exact crlReasonExtension_not_remove added

theorem hex2bn_serialText (codec : HexCodec ssl) (serial : Int) :
    ssl.hex2bn (cStr (serialText ssl serial)) = some serial := by
  have whole : cStr (serialText ssl serial) = serialText ssl serial := by
    apply Ca.cStr_eq_self
    intro nul
    have byte := isSerialByte_of_hexNumber (codec.format serial) 0 nul
    cases byte
  rw [whole, serialText, codec.ignoresCase]
  exact codec.inverse serial

theorem mem_listed {entries : List RevocationEntry}
    {revoked : List X509Revoked}
    (listed : entries.mapM (revokedFromEntry ssl) = .ok revoked)
    {serial : Int} :
    serial ∈ revoked.map X509Revoked.serialNumber ↔
      ∃ entry ∈ entries, ssl.hex2bn (cStr entry.serialHex) = some serial := by
  rw [mapM_eq_ok] at listed
  induction listed with
  | nil => simp
  | cons here _ ih =>
      obtain ⟨number, _, _⟩ := revokedFromEntry_reads here
      rw [List.map_cons, List.mem_cons, ih]
      simp [number, eq_comm]

theorem not_remove_listed {entries : List RevocationEntry}
    {revoked : List X509Revoked}
    (listed : entries.mapM (revokedFromEntry ssl) = .ok revoked) :
    ∀ entry ∈ revoked, entry.reason ≠ some removeFromCrl := by
  rw [mapM_eq_ok] at listed
  induction listed with
  | nil => simp
  | cons here _ ih =>
      exact List.forall_mem_cons.mpr ⟨revokedFromEntry_not_remove here, ih⟩

/-- The CRL that a CA makes of a database. -/
structure CrlOf (ssl : OpenSsl) (host : Host) (args : CrlIssueArgs)
    (caKey : EvpPkey) (caCert : X509) (db : RevocationDb) (crl : X509Crl) :
    Prop where
  serials : ∀ serial, serial ∈ crl.revoked.map X509Revoked.serialNumber ↔
    ∃ entry ∈ db.entries, ssl.hex2bn (cStr entry.serialHex) = some serial
  noneRemoved : ∀ revoked ∈ crl.revoked, revoked.reason ≠ some removeFromCrl
  version : crl.version = 1
  issuer : crl.issuer = caCert.subject
  lastUpdate : crl.lastUpdate = host.time
  nextUpdate : crl.nextUpdate = host.time + args.validityDays * 86400
  extensions : ∃ critical keyid,
    ssl.v3ExtConf caCert none .authorityKeyIdentifier "keyid:always" =
        some (critical, keyid) ∧
      crl.extensions = [⟨Nid.authorityKeyIdentifier.oid, critical, keyid⟩]
  signed : ∃ unsigned md signature,
    ssl.x509CrlSign unsigned caKey md = some signature ∧
      crl = { unsigned with signature := signature }

theorem crlOf_publish
    (sorts : ∀ revoked, (ssl.x509CrlSort revoked).Perm revoked)
    {host : Host} {args : CrlIssueArgs} {caKey : EvpPkey} {caCert : X509}
    {publication : Publication}
    (published : publish ssl host args caKey caCert db = .ok publication) :
    CrlOf ssl host args caKey caCert db publication.crl := by
  unfold publish at published
  simp only [bind_eq_ok] at published
  obtain ⟨skeleton, built, crl, signed, pem, _, returned⟩ := published
  cases returned
  unfold Ca.crlOf at built
  simp only [bind_eq_ok, OpenSsl.nonNull_eq_ok] at built
  obtain ⟨_, _, _, _, _, _, _, _, _, _, _, _, _, _, _, _, _, _, revoked, listed,
    _, _, _, _, _, _, ⟨critical, keyid⟩, extension, _, _, built⟩ := built
  cases built
  unfold signCrl at signed
  simp only [bind_eq_ok, OpenSsl.nonNull_eq_ok] at signed
  obtain ⟨_, _, md, _, signature, isSignature, signed⟩ := signed
  cases signed
  refine ⟨?_, ?_, rfl, rfl, rfl, rfl, ⟨critical, keyid, extension, rfl⟩,
    ⟨_, md, signature, isSignature, rfl⟩⟩
  · intro serial
    rw [← mem_listed listed]
    exact ((sorts revoked).map X509Revoked.serialNumber).mem_iff
  · intro entry member
    exact not_remove_listed listed entry ((sorts revoked).mem_iff.mp member)

theorem CrlOf.lists (codec : HexCodec ssl) {host : Host} {args : CrlIssueArgs}
    {caKey : EvpPkey} {caCert : X509} {crl : X509Crl}
    (crlOf : CrlOf ssl host args caKey caCert db'.next crl)
    (grows : Grows ssl serials db db') {serial : Int}
    (member : serial ∈ serials) :
    serial ∈ crl.revoked.map X509Revoked.serialNumber := by
  obtain ⟨entry, there, _, text⟩ := grows.recorded serial member
  refine (crlOf.serials serial).mpr ⟨entry, there, ?_⟩
  rw [text, hex2bn_serialText codec]

/-- When there was no entry in the beginning nothing else is listed. -/
theorem CrlOf.lists_iff (codec : HexCodec ssl) {host : Host}
    {args : CrlIssueArgs} {caKey : EvpPkey} {caCert : X509} {crl : X509Crl}
    (crlOf : CrlOf ssl host args caKey caCert db'.next crl)
    (grows : Grows ssl serials db db') (empty : db.entries = [])
    (serial : Int) :
    serial ∈ crl.revoked.map X509Revoked.serialNumber ↔ serial ∈ serials := by
  constructor
  · intro listed
    obtain ⟨entry, there, number⟩ := (crlOf.serials serial).mp listed
    rcases grows.noOther entry there with old | ⟨other, member, text⟩
    · rw [empty] at old
      cases old
    · rw [text, hex2bn_serialText codec] at number
      exact Option.some.inj number ▸ member
  · exact fun member => crlOf.lists codec grows member

theorem WriteFate.written_of_noLoss {fate : WriteFate} {data : Bytes}
    (noLoss : fate.losesSilently data = false)
    (passed : fate.failsVisibly data = false) : fate.written data = data := by
  simpa [WriteFate.losesSilently, passed] using noLoss

theorem crlIssue_leaves {host : Host} {io : IoFaults} {args : CrlIssueArgs}
    (onDb : resolveDbPath args.dbPath args.caCertPath = path)
    (opens : io.openRead path = false) (reads : io.readStops path = none)
    (held : heldDb files path = .ok db) (notDb : args.outPath ≠ path)
    (notTmp : args.outPath ≠ tmpPath path)
    (noLoss : ∀ data, (io.write args.outPath).losesSilently data = false)
    {files' : FileSystem}
    (ran : ((Operation.crlIssue host io args).run ssl).exec files =
      (.ok (), files')) :
    ∃ caKey caCert publication,
      loadCrlIssuer ssl host args = .ok (caKey, caCert) ∧
      publish ssl host args caKey caCert db.next = .ok publication ∧
      ssl.pemWriteX509Crl publication.crl = some publication.pem ∧
      files' args.outPath = some ⟨publication.pem, 0o644⟩ := by
  rw [Operation.run_exec] at ran
  cases loaded : (Operation.crlIssue host io args).load ssl files with
  | error failure =>
      rw [loaded] at ran
      cases ran
  | ok pending =>
      obtain ⟨⟨caKey, caCert⟩, found, publication, issuer, read, published,
        rfl⟩ := load_crlIssue_eq_ok.mp loaded
      rw [onDb, readDb_eq_heldDb opens reads, held] at read
      cases read
      have lists := publish_lists published
      rw [loaded] at ran
      obtain ⟨_, middle, wrote, saved⟩ := Run.exec_bind_eq_ok.mp ran
      obtain ⟨_, writes, _, rfl⟩ := writeFile_eq_ok.mp wrote
      obtain ⟨_, _, _, rfl⟩ := saveRevocationDb_eq_ok.mp saved
      change resolveDbPath args.dbPath args.caCertPath = path at onDb
      simp only [Operation.dbPath, Operation.io, onDb, lists.outPath]
        at writes ⊢
      refine ⟨caKey, caCert, publication, issuer, published, lists.pem, ?_⟩
      rw [Function.update_of_ne notTmp, Function.update_of_ne notDb,
        Function.update_self, WriteFate.written_of_noLoss (noLoss _) writes]

theorem loadCrlIssuer_eq_ok {host : Host} {args : CrlIssueArgs}
    {caKey : EvpPkey} {caCert : X509}
    (loaded : loadCrlIssuer ssl host args = .ok (caKey, caCert)) :
    args.outPath ≠ "" ∧
      Pki.loadPemCert ssl host args.caCertPath = .ok caCert ∧
      ssl.checkPrivateKey caCert caKey = true := by
  unfold loadCrlIssuer checkCrlIssueArgs at loaded
  simp only [bind_eq_ok, refuse_eq_ok] at loaded
  obtain ⟨_, ⟨_, _, named, _⟩, key, _, cert, certLoaded, owned, returned⟩ :=
    loaded
  cases returned
  exact ⟨by simpa using named, certLoaded, by simpa using owned⟩

/-- A CRL that is loaded from its PEM is the one that was written. -/
theorem loadPemCrl_of_written (memory : ssl.ReadsMemory)
    (roundTrip : CrlPemRoundTrip ssl) {io : IoFaults} {host : Host}
    (host_read : host.read = openForReading io files) {file : File}
    {crl loaded : X509Crl}
    (there : files path = some file)
    (short : file.content.length < 2 ^ 31)
    (written : ssl.pemWriteX509Crl crl = some file.content)
    (load : Pki.loadPemCrl ssl host path = .ok loaded) : loaded = crl := by
  unfold Pki.loadPemCrl Pki.readIntoBio at load
  simp only [bind_eq_ok, OpenSsl.nonNull_eq_ok, readFile_eq_ok] at load
  obtain ⟨_, ⟨content, delivered, _, _, returned⟩, parsed⟩ := load
  cases returned
  have whole : content = file.content := by
    rw [host_read] at delivered
    unfold openForReading at delivered
    simp only [there] at delivered
    split at delivered
    · cases delivered
    · split at delivered
      · cases delivered
        rfl
      · split at delivered
        · cases delivered
        · cases delivered
          rfl
  subst whole
  rw [toInt32_of_lt short, memory, List.take_length, roundTrip crl _ written]
    at parsed
  exact (Option.some.inj parsed).symm

/-- A run reads this file in full. -/
structure Environment.ReadsWhole (env : Environment) (files : FileSystem)
    (path : String) : Prop where
  opens : env.io.openRead path = false
  reads : env.io.readStops path = none
  short : ∀ file, files path = some file → file.content.length < 2 ^ 31

theorem Environment.ReadsWhole.readIntoBio {env : Environment}
    (whole : env.ReadsWhole files path) (memory : ssl.ReadsMemory)
    (noFailure : ∀ context, env.callFails context = false) {file : File}
    (there : files path = some file) :
    Pki.readIntoBio (env.library ssl) (env.host files) path =
      .ok file.content := by
  have delivered : (env.host files).read path = .opened file.content false := by
    change openForReading env.io files path = _
    unfold openForReading
    simp only [there, whole.opens, whole.reads, Bool.false_eq_true, if_false]
  have buffer : (env.library ssl).memBuf file.content
      (toInt32 file.content.length) = file.content := by
    rw [toInt32_of_lt (whole.short file there)]
    exact (memory _ _).trans List.take_length
  unfold Pki.readIntoBio
  simp only [bind_eq_ok, readFile_eq_ok, OpenSsl.call_eq_ok]
  exact ⟨_, delivered, (), noFailure _, congrArg Except.ok buffer⟩

theorem loadPemCrl_written {env : Environment}
    (whole : env.ReadsWhole files path) (memory : ssl.ReadsMemory)
    (noFailure : ∀ context, env.callFails context = false)
    (roundTrip : CrlPemRoundTrip ssl) {crl : X509Crl} {file : File}
    (there : files path = some file)
    (written : ssl.pemWriteX509Crl crl = some file.content) :
    Pki.loadPemCrl (env.library ssl) (env.host files) path = .ok crl := by
  unfold Pki.loadPemCrl
  simp only [bind_eq_ok, OpenSsl.nonNull_eq_ok]
  exact ⟨_, whole.readIntoBio memory noFailure there, roundTrip crl _ written⟩

end TeeAnchor
