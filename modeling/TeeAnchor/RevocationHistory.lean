import TeeAnchor.CrlContents
import TeeAnchor.FirstEntries

/-!
# Revocations end to end

A CA is a register of revocations, one for each serial number, and a count of
the CRLs issued.  The database file represents the register through every run:
serial numbers go through hexadecimal text, and a serial number is in the
database exactly when it is in the register.
-/

namespace TeeAnchor.Ca

structure Revocation where
  serial : Int
  date : Bytes
  reason : String
  deriving DecidableEq, Repr

def Revocation.listed (revocation : Revocation) : X509Revoked :=
  ⟨revocation.serial, revocation.date, crlReasonCode revocation.reason⟩

/-- Its line in the database. -/
def Revocation.entry (ssl : OpenSsl) (revocation : Revocation) :
    RevocationEntry :=
  ⟨(ssl.bn2hex revocation.serial).map toLower, revocation.date,
    ascii revocation.reason⟩

/-- The CA: one revocation a serial number, and how many CRLs were issued. -/
structure CaState where
  revocations : Register Revocation.serial
  issued : Nat

namespace Operation

/-- The revocation that this run is to record. -/
def revocation (ssl : OpenSsl) : Operation → Option Revocation
  | .revoke host _ args =>
      match Pki.loadPemCert ssl host args.certPath with
      | .ok cert => some ⟨cert.serialNumber, host.generalizedTimeNowUtc,
          args.reason⟩
      | .error _ => none
  | .crlIssue _ _ _ => none

def isCrlIssue : Operation → Bool
  | .revoke _ _ _ => false
  | .crlIssue _ _ _ => true

end Operation

/-- One run, as the CA means it. -/
def CaState.step (ssl : OpenSsl) (ca : CaState) (operation : Operation) :
    CaState where
  revocations :=
    match operation.revocation ssl with
    | some revocation => ca.revocations.add revocation
    | none => ca.revocations
  issued := if operation.isCrlIssue then ca.issued + 1 else ca.issued

/-- The CA after these runs, in order. -/
def caAfter (ssl : OpenSsl) (operations : List Operation) : CaState :=
  operations.foldl (CaState.step ssl) ⟨Register.empty, 0⟩

def filesAfter (ssl : OpenSsl) (operations : List Operation)
    (files : FileSystem) : FileSystem :=
  operations.foldl (fun files operation => ((operation.run ssl).exec files).2)
    files

/-- A revocation that can be recorded: its reason is allowed and its time is
one that the library takes. -/
structure Revocation.Valid (ssl : OpenSsl) (revocation : Revocation) :
    Prop where
  time : IsTimeText revocation.date
  accepted : ssl.generalizedTimeSetString revocation.date = true
  reason : isValidReason revocation.reason = true

/-- The arguments and input files of a run are in order. -/
def Operation.InOrder (ssl : OpenSsl) (caKey : EvpPkey) (caCert : X509) :
    Operation → Prop
  | .revoke host _ args =>
      args.caCertPath.isEmpty = false ∧ args.certPath.isEmpty = false ∧
      Pki.loadPemCert ssl host args.caCertPath = .ok caCert ∧
      ∃ cert, Pki.loadPemCert ssl host args.certPath = .ok cert ∧
        ssl.nameCmp caCert.subject cert.issuer = 0 ∧
        Revocation.Valid ssl ⟨cert.serialNumber, host.generalizedTimeNowUtc,
          args.reason⟩
  | .crlIssue host _ args => loadCrlIssuer ssl host args = .ok (caKey, caCert)

/-- A run of this CA on this database without I/O failure. -/
structure Operation.Ready (ssl : OpenSsl) (caKey : EvpPkey) (caCert : X509)
    (path : String) (operation : Operation) : Prop where
  dbPath : operation.dbPath = path
  opens : operation.io.openRead path = false
  reads : operation.io.readStops path = none
  writes : WritesWork operation.io
  inOrder : operation.InOrder ssl caKey caCert

/-- The database holds what the CA has recorded. -/
structure Represents (ssl : OpenSsl) (db : RevocationDb) (ca : CaState) :
    Prop where
  entries : db.entries = ca.revocations.entries.map (Revocation.entry ssl)
  crlNumber : db.crlNumber = UInt64.ofNat ca.issued
  valid : ∀ revocation ∈ ca.revocations.entries, revocation.Valid ssl

variable {ssl : OpenSsl} {caKey : EvpPkey} {caCert : X509} {path : String}

theorem serialText_injective (codec : HexCodec ssl) :
    Function.Injective fun serial : Int =>
      (ssl.bn2hex serial).map toLower := by
  intro serial other same
  have values := congrArg ssl.hex2bn same
  rw [codec.ignoresCase, codec.ignoresCase, codec.inverse, codec.inverse]
    at values
  exact Option.some.inj values

theorem contains_iff (codec : HexCodec ssl) {db : RevocationDb} {ca : CaState}
    (represents : Represents ssl db ca) (serial : Int) :
    db.contains ((ssl.bn2hex serial).map toLower) = true ↔
      serial ∈ ca.revocations.entries.map Revocation.serial := by
  rw [RevocationDb.contains, represents.entries, List.any_eq_true,
    List.mem_map]
  constructor
  · rintro ⟨_, member, same⟩
    obtain ⟨revocation, isMember, rfl⟩ := List.mem_map.mp member
    exact ⟨revocation, isMember,
      serialText_injective codec (by simpa [Revocation.entry] using same)⟩
  · rintro ⟨revocation, member, rfl⟩
    exact ⟨revocation.entry ssl, List.mem_map_of_mem member,
      by simp [Revocation.entry]⟩

theorem cStr_eq_self {text : Bytes} (noNul : 0 ∉ text) : cStr text = text := by
  rw [cStr, List.takeWhile_eq_self_iff]
  intro byte member
  have notNul : byte ≠ 0 := fun nul => noNul (nul ▸ member)
  simpa using notNul

theorem Revocation.Valid.entry {revocation : Revocation}
    (codec : HexCodec ssl) (valid : revocation.Valid ssl) :
    (revocation.entry ssl).WellFormed ∧ (revocation.entry ssl).Legible :=
  newEntry_wellFormed (codec.format revocation.serial) valid.time valid.reason

theorem Revocation.Valid.revokedFromEntry {revocation : Revocation}
    (codec : HexCodec ssl) (calls : ∀ context, ssl.callFails context = false)
    (valid : revocation.Valid ssl) :
    revokedFromEntry ssl (revocation.entry ssl) = .ok revocation.listed := by
  have serialText : cStr (revocation.entry ssl).serialHex =
      (ssl.bn2hex revocation.serial).map toLower := by
    apply cStr_eq_self
    intro nul
    have byte := isSerialByte_of_hexNumber (codec.format revocation.serial) 0
      nul
    cases byte
  have dateText : cStr (revocation.entry ssl).revocationDate =
      revocation.date := by
    apply cStr_eq_self
    obtain ⟨digits, _, allDigits, isTime⟩ := valid.time
    change 0 ∉ revocation.date
    rw [isTime, List.mem_append, not_or]
    constructor
    · intro nul
      have digit := allDigits 0 nul
      cases digit
    · decide
  rw [revokedFromEntry_eq_ok calls, serialText, dateText, codec.ignoresCase]
  exact ⟨codec.inverse _, valid.accepted, rfl,
    crlReasonExtension_valid calls valid.reason⟩

theorem caAfter_concat (operations : List Operation) (operation : Operation) :
    caAfter ssl (operations ++ [operation]) =
      (caAfter ssl operations).step ssl operation := by
  rw [caAfter, List.foldl_append]
  rfl

theorem filesAfter_concat (operations : List Operation) (operation : Operation)
    (files : FileSystem) :
    filesAfter ssl (operations ++ [operation]) files =
      ((operation.run ssl).exec (filesAfter ssl operations files)).2 := by
  rw [filesAfter, List.foldl_append]
  rfl

theorem caAfter_eq (operations : List Operation) :
    caAfter ssl operations =
      ⟨Register.ofList (operations.filterMap (Operation.revocation ssl)),
        operations.countP Operation.isCrlIssue⟩ := by
  induction operations using List.reverseRecOn with
  | nil => rfl
  | append_singleton operations operation ih =>
      rw [caAfter_concat, ih, CaState.step, List.filterMap_append,
        List.countP_append]
      congr 1
      · cases isRevocation : operation.revocation ssl with
        | none => simp [isRevocation]
        | some revocation =>
            simp [isRevocation, Register.ofList_concat]
      · cases isIssue : operation.isCrlIssue with
        | false => simp [isIssue]
        | true => simp [isIssue]

/-- The text of a database that represents the CA is read back as it is. -/
theorem Represents.readBack (codec : HexCodec ssl) {db : RevocationDb}
    {ca : CaState} (represents : Represents ssl db ca) :
    loadRevocationDb path (.opened (dbText db) false) = .ok db := by
  apply loadRevocationDb_dbText
  · intro entry member
    rw [represents.entries] at member
    obtain ⟨revocation, isMember, rfl⟩ := List.mem_map.mp member
    exact ((represents.valid revocation isMember).entry codec).1
  · intro entry member
    rw [represents.entries] at member
    obtain ⟨revocation, isMember, rfl⟩ := List.mem_map.mp member
    exact ((represents.valid revocation isMember).entry codec).2

theorem Represents.mapM_entries (codec : HexCodec ssl)
    (calls : ∀ context, ssl.callFails context = false) {db : RevocationDb}
    {ca : CaState} (represents : Represents ssl db ca) :
    db.entries.mapM (revokedFromEntry ssl) =
      .ok (ca.revocations.entries.map Revocation.listed) := by
  rw [mapM_eq_ok, represents.entries, List.forall₂_map_left_iff,
    List.forall₂_map_right_iff, List.forall₂_same]
  intro revocation member
  exact (represents.valid revocation member).revokedFromEntry codec calls

theorem ready_revoke_load (codec : HexCodec ssl)
    (calls : ∀ context, ssl.callFails context = false) {host : Host}
    {io : IoFaults} {args : RevokeArgs} {files : FileSystem}
    {db : RevocationDb} {ca : CaState}
    (ready : (Operation.revoke host io args).Ready ssl caKey caCert path)
    (held : heldDb files path = .ok db) (represents : Represents ssl db ca) :
    (Operation.revoke host io args).load ssl files = .ok none ∧
        Represents ssl db (ca.step ssl (.revoke host io args)) ∨
      ∃ db', (Operation.revoke host io args).load ssl files =
          .ok (some ⟨db', none⟩) ∧
        Represents ssl db' (ca.step ssl (.revoke host io args)) := by
  obtain ⟨caNamed, certNamed, caLoaded, cert, loaded, issued, valid⟩ :=
    ready.inOrder
  have serial : revokedSerial ssl host args =
      .ok ((ssl.bn2hex cert.serialNumber).map toLower) :=
    revokedSerial_eq_ok.mpr ⟨⟨caNamed, certNamed, valid.reason⟩, caCert, cert,
      caLoaded, loaded, issued, serialHexLower_eq_ok.mpr
        ⟨⟨calls _, calls _, calls _⟩, rfl⟩⟩
  have read := readDb_eq_heldDb ready.opens ready.reads files
  rw [held, ← ready.dbPath] at read
  have recorded : (Operation.revoke host io args).revocation ssl =
      some ⟨cert.serialNumber, host.generalizedTimeNowUtc, args.reason⟩ := by
    simp only [Operation.revocation, loaded]
  by_cases present : cert.serialNumber ∈
      ca.revocations.entries.map Revocation.serial
  · left
    have contains := (contains_iff codec represents cert.serialNumber).mpr
      present
    refine ⟨load_revoke_eq_ok.mpr ⟨_, db, serial, read, ?_⟩, ?_⟩
    · rw [revokePending, if_pos contains]
    · have same : (ca.step ssl (.revoke host io args)).revocations.entries =
          ca.revocations.entries := by
        simp only [CaState.step, recorded]
        exact Register.entries_add_of_mem present
      exact ⟨by rw [same]; exact represents.entries, represents.crlNumber,
        by rw [same]; exact represents.valid⟩
  · right
    have absent := mt (contains_iff codec represents cert.serialNumber).mp
      present
    have added : (ca.step ssl (.revoke host io args)).revocations.entries =
        ca.revocations.entries ++ [⟨cert.serialNumber,
          host.generalizedTimeNowUtc, args.reason⟩] := by
      simp only [CaState.step, recorded]
      exact Register.entries_add_of_notMem present
    refine ⟨db.append ⟨(ssl.bn2hex cert.serialNumber).map toLower,
      host.generalizedTimeNowUtc, ascii args.reason⟩,
      load_revoke_eq_ok.mpr ⟨_, db, serial, read, ?_⟩, ?_, ?_, ?_⟩
    · rw [revokePending, if_neg absent]
    · change db.entries ++ _ = _
      rw [added, List.map_append, ← represents.entries]
      rfl
    · exact represents.crlNumber
    · rw [added]
      exact List.forall_mem_append.mpr
        ⟨represents.valid, List.forall_mem_singleton.mpr valid⟩

theorem ready_crlIssue_load (codec : HexCodec ssl)
    (works : LibraryWorks ssl caKey caCert) {host : Host} {io : IoFaults}
    {args : CrlIssueArgs} {files : FileSystem} {db : RevocationDb}
    {ca : CaState}
    (ready : (Operation.crlIssue host io args).Ready ssl caKey caCert path)
    (held : heldDb files path = .ok db) (represents : Represents ssl db ca) :
    ∃ publication,
      (Operation.crlIssue host io args).load ssl files =
        .ok (some ⟨db.next, some publication⟩) ∧
      publication.crl.revoked =
        ssl.x509CrlSort (ca.revocations.entries.map Revocation.listed) ∧
      publication.Lists ssl args db.next := by
  have listed := represents.mapM_entries codec works.calls
  obtain ⟨publication, published⟩ := @publish_succeeds ssl host args caKey
    caCert db.next _ works listed
  have lists := publish_lists published
  have read := readDb_eq_heldDb ready.opens ready.reads files
  rw [held, ← ready.dbPath] at read
  refine ⟨publication, load_crlIssue_eq_ok.mpr ⟨_, db, publication,
    ready.inOrder, read, published, rfl⟩, ?_, lists⟩
  obtain ⟨revoked, mapped, sorted⟩ := lists.revoked
  cases listed.symm.trans mapped
  exact sorted

theorem represents_next {db : RevocationDb} {ca : CaState} {host : Host}
    {io : IoFaults} {args : CrlIssueArgs} (represents : Represents ssl db ca) :
    Represents ssl db.next (ca.step ssl (.crlIssue host io args)) where
  entries := represents.entries
  crlNumber := by
    change db.crlNumber + 1 = UInt64.ofNat (ca.issued + 1)
    rw [represents.crlNumber, UInt64.ofNat_add]
    rfl
  valid := represents.valid

/-- A run that is ready succeeds and the database goes on representing the
CA. -/
theorem ready_step (codec : HexCodec ssl)
    (works : LibraryWorks ssl caKey caCert) {operation : Operation}
    (ready : operation.Ready ssl caKey caCert path) {files : FileSystem}
    {db : RevocationDb} {ca : CaState} (held : heldDb files path = .ok db)
    (represents : Represents ssl db ca) :
    ∃ files' db', (operation.run ssl).exec files = (.ok (), files') ∧
      heldDb files' path = .ok db' ∧
      Represents ssl db' (ca.step ssl operation) := by
  have finishes : ∀ pending, operation.load ssl files = .ok (some pending) →
      Represents ssl pending.db (ca.step ssl operation) →
      ∃ files' db', (operation.run ssl).exec files = (.ok (), files') ∧
        heldDb files' path = .ok db' ∧
        Represents ssl db' (ca.step ssl operation) := by
    intro pending loaded represents'
    obtain ⟨files', wrote⟩ := Pending.write_works ready.writes
      operation.dbPath pending files
    refine ⟨files', pending.db, ?_, ?_, represents'⟩
    · rw [operation.run_exec, loaded]
      exact wrote
    · rw [ready.dbPath] at wrote
      rw [heldDb_of_write ready.writes wrote]
      exact represents'.readBack codec
  cases operation with
  | revoke host io args =>
      rcases ready_revoke_load codec works.calls ready held represents with
        ⟨loaded, represents'⟩ | ⟨db', loaded, represents'⟩
      · refine ⟨files, db, ?_, held, represents'⟩
        rw [Operation.run_exec, loaded]
        rfl
      · exact finishes _ loaded represents'
  | crlIssue host io args =>
      obtain ⟨publication, loaded, _⟩ :=
        ready_crlIssue_load codec works ready held represents
      exact finishes _ loaded (represents_next represents)

/-- Every sequence of runs that are ready leaves a database that represents
the CA. -/
theorem represents_after (codec : HexCodec ssl)
    (works : LibraryWorks ssl caKey caCert) {operations : List Operation}
    (ready : ∀ operation ∈ operations,
      operation.Ready ssl caKey caCert path) {files : FileSystem}
    (absent : files path = none) :
    ∃ db, heldDb (filesAfter ssl operations files) path = .ok db ∧
      Represents ssl db (caAfter ssl operations) := by
  induction operations using List.reverseRecOn with
  | nil =>
      refine ⟨{}, ?_, rfl, rfl, ?_⟩
      · change heldDb files path = _
        unfold heldDb
        rw [absent]
      · intro revocation member
        cases member
  | append_singleton operations operation ih =>
      rw [List.forall_mem_append] at ready
      obtain ⟨db, held, represents⟩ := ih ready.1
      obtain ⟨files', db', ran, held', represents'⟩ := ready_step codec works
        (ready.2 operation List.mem_cons_self) held represents
      rw [filesAfter_concat, ran, caAfter_concat]
      exact ⟨db', held', represents'⟩

/-- In this state the run succeeds, and this is the CRL that it writes to its
output as PEM. -/
def Issues (ssl : OpenSsl) (host : Host) (io : IoFaults) (args : CrlIssueArgs)
    (files : FileSystem) (crl : X509Crl) : Prop :=
  let operation := Operation.crlIssue host io args
  ∃ db pem files',
    operation.load ssl files = .ok (some ⟨db, some ⟨args.outPath, crl, pem⟩⟩) ∧
    ssl.pemWriteX509Crl crl = some pem ∧
    (operation.run ssl).exec files = (.ok (), files') ∧
    (args.outPath ≠ operation.dbPath →
      args.outPath ≠ tmpPath operation.dbPath →
        files' args.outPath = some ⟨pem, 0o644⟩)

theorem Pending.published_file {io : IoFaults} {publication : Publication}
    {db : RevocationDb} {files files' : FileSystem} (works : WritesWork io)
    (wrote : ((Pending.mk db (some publication)).write io path).exec files =
      (.ok (), files')) (notDb : publication.outPath ≠ path)
    (notTmp : publication.outPath ≠ tmpPath path) :
    files' publication.outPath = some ⟨publication.pem, 0o644⟩ := by
  obtain ⟨_, middle, published, saved⟩ := Run.exec_bind_eq_ok.mp wrote
  obtain ⟨_, _, _, rfl⟩ := writeFile_eq_ok.mp published
  obtain ⟨_, _, _, rfl⟩ := saveRevocationDb_eq_ok.mp saved
  rw [Function.update_of_ne notTmp, Function.update_of_ne notDb,
    Function.update_self, (works.written _ _).1]

variable {host : Host} {io : IoFaults} {args : CrlIssueArgs}
  {files : FileSystem}

/-- A run that is ready issues a CRL of the register and no other. -/
theorem ready_issues (codec : HexCodec ssl)
    (works : LibraryWorks ssl caKey caCert)
    (ready : (Operation.crlIssue host io args).Ready ssl caKey caCert path)
    {db : RevocationDb} {ca : CaState} (held : heldDb files path = .ok db)
    (represents : Represents ssl db ca) :
    ∃ crl, Issues ssl host io args files crl ∧
      (∀ other, Issues ssl host io args files other → other = crl) ∧
      crl.revoked =
        ssl.x509CrlSort (ca.revocations.entries.map Revocation.listed) ∧
      crl.crlNumber = (UInt64.ofNat (ca.issued + 1)).toInt64.toInt := by
  obtain ⟨⟨outPath, crl, pem⟩, loaded, revoked, lists⟩ :=
    ready_crlIssue_load codec works ready held represents
  cases lists.outPath
  obtain ⟨files', wrote⟩ := Pending.write_works ready.writes
    (Operation.crlIssue host io args).dbPath
    ⟨db.next, some ⟨args.outPath, crl, pem⟩⟩ files
  refine ⟨crl, ⟨db.next, pem, files', loaded, lists.pem, ?_, ?_⟩, ?_, revoked,
    ?_⟩
  · rw [Operation.run_exec, loaded]
    exact wrote
  · exact Pending.published_file ready.writes wrote
  · rintro other ⟨_, _, _, loaded', _⟩
    cases loaded.symm.trans loaded'
    rfl
  · have next := (@represents_next ssl db ca host io args represents).crlNumber
    change db.next.crlNumber = UInt64.ofNat (ca.issued + 1) at next
    rw [← next]
    exact lists.crlNumber

/-- What a CRL lists after these runs. -/
structure ListsHistory (ssl : OpenSsl) (before : List Operation)
    (crl : X509Crl) : Prop where
  distinct : (crl.revoked.map X509Revoked.serialNumber).Nodup
  first : ∀ revoked, revoked ∈ crl.revoked ↔
    ∃ revocation, (before.filterMap (Operation.revocation ssl)).find?
        (fun revocation => revocation.serial = revoked.serialNumber) =
          some revocation ∧
      revoked = revocation.listed
  serials : ∀ serial, serial ∈ crl.revoked.map X509Revoked.serialNumber ↔
    serial ∈ (before.filterMap (Operation.revocation ssl)).map
      Revocation.serial
  number : before.countP Operation.isCrlIssue + 1 < 2 ^ 63 →
    crl.crlNumber = before.countP Operation.isCrlIssue + 1

theorem listsHistory (sorts : ∀ revoked, (ssl.x509CrlSort revoked).Perm revoked)
    {before : List Operation} {crl : X509Crl}
    (revoked : crl.revoked = ssl.x509CrlSort
      ((caAfter ssl before).revocations.entries.map Revocation.listed))
    (number : crl.crlNumber =
      (UInt64.ofNat ((caAfter ssl before).issued + 1)).toInt64.toInt) :
    ListsHistory ssl before crl := by
  have listed : crl.revoked.Perm
      ((caAfter ssl before).revocations.entries.map Revocation.listed) := by
    rw [revoked]
    exact sorts _
  have serials := listed.map X509Revoked.serialNumber
  have keys : ((caAfter ssl before).revocations.entries.map
      Revocation.listed).map X509Revoked.serialNumber =
        (caAfter ssl before).revocations.entries.map Revocation.serial := by
    rw [List.map_map]
    rfl
  rw [keys] at serials
  rw [caAfter_eq] at listed serials number
  refine ⟨serials.nodup_iff.mpr (Register.distinct _), ?_, ?_, ?_⟩
  · intro entry
    rw [listed.mem_iff, List.mem_map]
    constructor
    · rintro ⟨revocation, member, rfl⟩
      exact ⟨revocation, Register.mem_entries_ofList.mp member, rfl⟩
    · rintro ⟨revocation, found, rfl⟩
      exact ⟨revocation, Register.mem_entries_ofList.mpr found, rfl⟩
  · intro serial
    rw [serials.mem_iff, Register.mem_keys_ofList]
  · intro small
    rw [number, toInt64_toInt_of_lt, UInt64.toNat_ofNat_of_lt']
    · rfl
    · exact lt_trans small (by decide)
    · rw [UInt64.toNat_ofNat_of_lt' (lt_trans small (by decide))]
      exact small

/-- Starting with no database, every `crl-issue` after any runs succeeds and
lists the first revocation of every serial number that was revoked, and the
serial numbers that it lists do not depend on the order of the runs. -/
theorem crl_lists_first_revocations (codec : HexCodec ssl)
    (works : LibraryWorks ssl caKey caCert)
    (sorts : ∀ revoked, (ssl.x509CrlSort revoked).Perm revoked)
    {before : List Operation}
    (ready : ∀ operation ∈ before, operation.Ready ssl caKey caCert path)
    (issueReady :
      (Operation.crlIssue host io args).Ready ssl caKey caCert path)
    (absent : files path = none) :
    ∃ crl, Issues ssl host io args (filesAfter ssl before files) crl ∧
      ListsHistory ssl before crl ∧
      ∀ other : List Operation, other.Perm before → ∀ crl',
        Issues ssl host io args (filesAfter ssl other files) crl' →
        ∀ serial, serial ∈ crl'.revoked.map X509Revoked.serialNumber ↔
          serial ∈ crl.revoked.map X509Revoked.serialNumber := by
  have history : ∀ runs : List Operation,
      (∀ operation ∈ runs, operation.Ready ssl caKey caCert path) →
      ∃ crl, Issues ssl host io args (filesAfter ssl runs files) crl ∧
        (∀ other, Issues ssl host io args (filesAfter ssl runs files) other →
          other = crl) ∧
        ListsHistory ssl runs crl := by
    intro runs runsReady
    obtain ⟨db, held, represents⟩ :=
      represents_after codec works runsReady absent
    obtain ⟨crl, issues, unique, revoked, number⟩ :=
      ready_issues codec works issueReady held represents
    exact ⟨crl, issues, unique, listsHistory sorts revoked number⟩
  obtain ⟨crl, issues, _, lists⟩ := history before ready
  refine ⟨crl, issues, lists, fun other permuted crl' issues' serial => ?_⟩
  obtain ⟨_, _, unique, lists'⟩ := history other
    fun operation member => ready operation (permuted.mem_iff.mp member)
  rw [unique crl' issues', lists'.serials, lists.serials]
  exact ((permuted.filterMap _).map _).mem_iff

def noFiles : FileSystem :=
  fun _ => none

theorem noFiles_absent (path : String) : noFiles path = none :=
  rfl

theorem sampleRevoke_ready (serial : Int) :
    (sampleRevoke IoFaults.none serial "db.txt").Ready sampleCaSsl sampleKey
      (sampleIssued 0) "db.txt" where
  dbPath := rfl
  opens := rfl
  reads := rfl
  writes := ⟨fun _ => rfl, fun _ => rfl, fun _ => rfl, fun _ => rfl⟩
  inOrder := ⟨rfl, rfl, sample_loadPemCert serial _, sampleIssued serial,
    sample_loadPemCert serial _, rfl, sample_time, rfl, rfl⟩

theorem sampleCrlIssue_ready :
    (sampleCrlIssue IoFaults.none "crl.pem" "db.txt").Ready sampleCaSsl
      sampleKey (sampleIssued 0) "db.txt" where
  dbPath := rfl
  opens := rfl
  reads := rfl
  writes := ⟨fun _ => rfl, fun _ => rfl, fun _ => rfl, fun _ => rfl⟩
  inOrder := sample_loadCrlIssuer _ _ rfl

/-- Two serial numbers, one of them revoked twice, and a CRL between. -/
def sampleHistory : List Operation :=
  [sampleRevoke IoFaults.none 11 "db.txt",
    sampleCrlIssue IoFaults.none "crl.pem" "db.txt",
    sampleRevoke IoFaults.none (-300) "db.txt",
    sampleRevoke IoFaults.none 11 "db.txt"]

theorem crl_lists_first_revocations_sample :
    (sampleHistory.filterMap (Operation.revocation sampleCaSsl)).map
        Revocation.serial = [11, -300, 11] ∧
      ∃ crl, Issues sampleCaSsl (sampleCaHost 0) IoFaults.none
          { caKeyPath := "ca.key", caCertPath := "ca.crt",
            outPath := "crl.pem", dbPath := "db.txt" }
          (filesAfter sampleCaSsl sampleHistory noFiles) crl ∧
        ListsHistory sampleCaSsl sampleHistory crl := by
  have ready : ∀ operation ∈ sampleHistory, operation.Ready sampleCaSsl
      sampleKey (sampleIssued 0) "db.txt" := by
    simp only [sampleHistory, List.forall_mem_cons]
    exact ⟨sampleRevoke_ready 11, sampleCrlIssue_ready,
      sampleRevoke_ready (-300), sampleRevoke_ready 11, by simp⟩
  obtain ⟨crl, issues, lists, _⟩ := crl_lists_first_revocations
    sampleCaSsl_hexCodec sampleCaSsl_works (fun _ => List.Perm.refl _) ready
    sampleCrlIssue_ready (noFiles_absent "db.txt")
  exact ⟨by decide +kernel, crl, issues, lists⟩

end TeeAnchor.Ca
