import TeeAnchor.AcceptedEndorsements
import TeeAnchor.Noninterference

/-!
# Runs that have nothing to do with each other

What a run answers and leaves depends on the files that its command reads or
owns and on no other.  So runs for different purposes do not disturb each other,
whatever their order: the ones that are left out might as well not have
happened.
-/

namespace TeeAnchor

open Provision Verify ProvisionVerify

variable {ssl : OpenSsl} {env : Environment} {files files' : FileSystem}

theorem read_host {path : String} (same : files path = files' path) :
    (env.host files).read path = (env.host files').read path := by
  change openForReading env.io files path = openForReading env.io files' path
  unfold openForReading
  rw [same]

theorem readFile_host {path : String} (same : files path = files' path) :
    readFile (env.host files) path = readFile (env.host files') path := by
  unfold readFile
  rw [read_host same]

theorem readIntoBio_host {path : String} (same : files path = files' path) :
    Pki.readIntoBio ssl (env.host files) path =
      Pki.readIntoBio ssl (env.host files') path := by
  unfold Pki.readIntoBio
  rw [readFile_host same]

theorem loadPemPrivateKey_host {path : String}
    (same : files path = files' path) :
    Pki.loadPemPrivateKey ssl (env.host files) path =
      Pki.loadPemPrivateKey ssl (env.host files') path := by
  unfold Pki.loadPemPrivateKey
  rw [readIntoBio_host same]

theorem loadPemCert_host {path : String} (same : files path = files' path) :
    Pki.loadPemCert ssl (env.host files) path =
      Pki.loadPemCert ssl (env.host files') path := by
  unfold Pki.loadPemCert
  rw [readIntoBio_host same]

theorem loadPemCrl_host {path : String} (same : files path = files' path) :
    Pki.loadPemCrl ssl (env.host files) path =
      Pki.loadPemCrl ssl (env.host files') path := by
  unfold Pki.loadPemCrl
  rw [readIntoBio_host same]

/-- The certificates that an SNP report is checked with. -/
def vcekFiles (certsDir : String) : List String :=
  ["ark.pem", "ask.pem", "vcek.pem"].map (Snp.joinPath certsDir)

def evidenceFiles (teeType reportPath certsDir : String) : List String :=
  reportPath :: if teeType = "snp" then vcekFiles certsDir else []

theorem requireCert_host {kind path file : String}
    (same : files path = files' path) :
    Snp.requireCert (env.host files) kind path file =
      Snp.requireCert (env.host files') kind path file := by
  have seen : (env.host files).pathExists path =
      (env.host files').pathExists path := by
    change Ca.pathExists env.statFails files path =
      Ca.pathExists env.statFails files' path
    unfold Ca.pathExists
    rw [same]
  unfold Snp.requireCert
  rw [seen]

theorem verifyVcekChain_host {certsDir : String}
    (same : ∀ path ∈ vcekFiles certsDir, files path = files' path) :
    Snp.verifyVcekChain ssl (env.host files) certsDir =
      Snp.verifyVcekChain ssl (env.host files') certsDir := by
  have ark := same (Snp.joinPath certsDir "ark.pem") (by simp [vcekFiles])
  have ask := same (Snp.joinPath certsDir "ask.pem") (by simp [vcekFiles])
  have vcek := same (Snp.joinPath certsDir "vcek.pem") (by simp [vcekFiles])
  unfold Snp.verifyVcekChain
  simp only [requireCert_host ark, requireCert_host ask, requireCert_host vcek,
    loadPemCert_host ark, loadPemCert_host ask, loadPemCert_host vcek]

theorem Snp.verifyAndExtract_host {reportPath certsDir : String}
    (report : files reportPath = files' reportPath)
    (certs : ∀ path ∈ vcekFiles certsDir, files path = files' path) :
    Snp.verifyAndExtract ssl (env.host files) reportPath certsDir =
      Snp.verifyAndExtract ssl (env.host files') reportPath certsDir := by
  unfold Snp.verifyAndExtract
  rw [readFile_host report, verifyVcekChain_host certs]

theorem Cca.verifyAndExtract_host {tokenPath : String}
    (same : files tokenPath = files' tokenPath) :
    Cca.verifyAndExtract ssl (env.host files) tokenPath =
      Cca.verifyAndExtract ssl (env.host files') tokenPath := by
  unfold Cca.verifyAndExtract
  rw [readFile_host same]
  rfl

theorem extractChipId_host {args : ProvisionArgs}
    (same : ∀ path ∈ evidenceFiles args.teeType args.reportPath args.certsDir,
      files path = files' path) :
    extractChipId ssl (env.host files) args =
      extractChipId ssl (env.host files') args := by
  have report := same args.reportPath List.mem_cons_self
  unfold extractChipId
  split
  · unfold extractChipIdForSgx
    rw [readFile_host report]
  split
  · unfold extractChipIdForTdx
    rw [readFile_host report]
  split
  · rename_i isSnp
    rw [evidenceFiles, if_pos isSnp, List.forall_mem_cons] at same
    unfold extractChipIdForSnp
    rw [Snp.verifyAndExtract_host report same.2]
  split
  · unfold extractChipIdForCca
    rw [Cca.verifyAndExtract_host report]
  · rfl

theorem verifyEvidence_host {args : VerifyArgs}
    (same : ∀ path ∈ evidenceFiles args.teeType args.reportPath args.certsDir,
      files path = files' path) :
    verifyEvidenceAndExtractChipId ssl (env.host files) args =
      verifyEvidenceAndExtractChipId ssl (env.host files') args := by
  have report := same args.reportPath List.mem_cons_self
  unfold verifyEvidenceAndExtractChipId
  split
  · rw [readFile_host report]
  split
  · rw [readFile_host report]
  split
  · rename_i isSnp
    rw [evidenceFiles, if_pos isSnp, List.forall_mem_cons] at same
    rw [Snp.verifyAndExtract_host report same.2]
  split
  · rw [Cca.verifyAndExtract_host report]
  · rfl

theorem loadInputs_host {args : VerifyArgs}
    (orgCert : files args.orgCertPath = files' args.orgCertPath)
    (orgCa : files args.orgCaPath = files' args.orgCaPath)
    (crl : files args.crlPath = files' args.crlPath) :
    loadInputs ssl (env.host files) args =
      loadInputs ssl (env.host files') args := by
  unfold loadInputs
  rw [loadPemCert_host orgCert, loadPemCert_host orgCa, loadPemCrl_host crl]

theorem issueEndorsement_host {args : ProvisionArgs}
    (key : files args.caKeyPath = files' args.caKeyPath)
    (crt : files args.caCertPath = files' args.caCertPath)
    (evidence : ∀ path ∈
      evidenceFiles args.teeType args.reportPath args.certsDir,
      files path = files' path) :
    issueEndorsement ssl (env.host files) args =
      issueEndorsement ssl (env.host files') args := by
  have ca : loadCa ssl (env.host files) args =
      loadCa ssl (env.host files') args := by
    unfold loadCa
    rw [loadPemPrivateKey_host key, loadPemCert_host crt]
  unfold issueEndorsement
  rw [ca, extractChipId_host evidence]
  rfl

theorem Ca.revokedSerial_host {args : Ca.RevokeArgs}
    (ca : files args.caCertPath = files' args.caCertPath)
    (cert : files args.certPath = files' args.certPath) :
    Ca.revokedSerial ssl (env.host files) args =
      Ca.revokedSerial ssl (env.host files') args := by
  unfold Ca.revokedSerial
  rw [loadPemCert_host ca, loadPemCert_host cert]

theorem Ca.loadCrlIssuer_host {args : Ca.CrlIssueArgs}
    (key : files args.caKeyPath = files' args.caKeyPath)
    (crt : files args.caCertPath = files' args.caCertPath) :
    Ca.loadCrlIssuer ssl (env.host files) args =
      Ca.loadCrlIssuer ssl (env.host files') args := by
  unfold Ca.loadCrlIssuer
  rw [loadPemPrivateKey_host key, loadPemCert_host crt]

/-- On files that agree at these paths the run answers the same, and leaves
files that agree there again. -/
def Local {α : Type} (run : Run α) (paths : Set String) : Prop :=
  ∀ files files' : FileSystem, Set.EqOn files files' paths →
    (run.exec files).1 = (run.exec files').1 ∧
      Set.EqOn (run.exec files).2 (run.exec files').2 paths

variable {paths : Set String}

theorem local_liftExcept {α : Type} (result : Result α) :
    Local (liftExcept result) paths :=
  fun _ _ same => ⟨rfl, same⟩

theorem Local.bind {α β : Type} {first : Run α} {next : α → Run β}
    (here : Local first paths) (later : ∀ value, Local (next value) paths) :
    Local (first >>= next) paths := by
  intro files files' same
  obtain ⟨sameOutcome, sameMiddle⟩ := here files files' same
  rw [Run.exec_bind, Run.exec_bind]
  rcases ran : first.exec files with ⟨outcome, middle⟩
  rcases ran' : first.exec files' with ⟨outcome', middle'⟩
  rw [ran, ran'] at sameOutcome sameMiddle
  cases sameOutcome
  cases outcome with
  | error failure => exact ⟨rfl, sameMiddle⟩
  | ok value => exact later value middle middle' sameMiddle

theorem eqOn_update (same : Set.EqOn files files' paths) (path : String)
    (file : Option File) :
    Set.EqOn (Function.update files path file)
      (Function.update files' path file) paths := by
  intro other member
  by_cases here : other = path
  · rw [here, Function.update_self, Function.update_self]
  · rw [Function.update_of_ne here, Function.update_of_ne here, same member]

theorem local_writeFile {io : IoFaults} {path : String} {data : Bytes}
    {mode : Nat} (member : path ∈ paths) :
    Local (writeFile io path data mode) paths := by
  intro files files' same
  have sameMode : modeAt io files path = modeAt io files' path := by
    unfold modeAt
    rw [same member]
  rw [writeFile_exec, writeFile_exec, sameMode]
  split_ifs
  · exact ⟨rfl, same⟩
  · exact ⟨rfl, eqOn_update same _ _⟩
  · exact ⟨rfl, eqOn_update same _ _⟩
  · exact ⟨rfl, eqOn_update same _ _⟩

theorem Ca.local_loadDb {io : IoFaults} {path : String}
    (member : path ∈ paths) : Local (loadDb io path) paths := by
  intro files files' same
  have sameRead : openForReading io files path =
      openForReading io files' path := by
    unfold openForReading
    rw [same member]
  rw [loadDb_exec, loadDb_exec, sameRead]
  exact ⟨rfl, same⟩

theorem Ca.local_saveRevocationDb {io : IoFaults} {path : String}
    {db : RevocationDb} (tmpMember : tmpPath path ∈ paths) :
    Local (saveRevocationDb io path db) paths := by
  intro files files' same
  have sameFile : savedFile io files path db = savedFile io files' path db := by
    unfold savedFile modeAt
    rw [same tmpMember]
  rw [saveRevocationDb_exec, saveRevocationDb_exec, sameFile]
  split_ifs
  · exact ⟨rfl, same⟩
  · exact ⟨rfl, eqOn_update same _ _⟩
  · exact ⟨rfl, eqOn_update same _ _⟩
  · exact ⟨rfl, eqOn_update (eqOn_update same _ _) _ _⟩

theorem Provision.local_runProvision {host : Host} {io : IoFaults}
    {args : ProvisionArgs} (member : args.outPath ∈ paths) :
    Local (runProvision ssl host io args) paths :=
  (local_liftExcept _).bind fun _ => (local_liftExcept _).bind fun _ =>
    local_writeFile member

theorem Ca.local_runRevoke {host : Host} {io : IoFaults} {args : RevokeArgs}
    (member : resolveDbPath args.dbPath args.caCertPath ∈ paths)
    (tmpMember : tmpPath (resolveDbPath args.dbPath args.caCertPath) ∈ paths) :
    Local (runRevoke ssl host io args) paths := by
  apply (local_liftExcept _).bind
  intro serialHex
  apply (local_loadDb member).bind
  intro db files files' same
  by_cases present : db.contains serialHex
  · simp only [present, if_true]
    exact ⟨rfl, same⟩
  · simp only [present, if_false, Bool.false_eq_true]
    exact local_saveRevocationDb tmpMember files files' same

theorem Ca.local_runCrlIssue {host : Host} {io : IoFaults}
    {args : CrlIssueArgs} (outMember : args.outPath ∈ paths)
    (member : resolveDbPath args.dbPath args.caCertPath ∈ paths)
    (tmpMember : tmpPath (resolveDbPath args.dbPath args.caCertPath) ∈ paths) :
    Local (runCrlIssue ssl host io args) paths :=
  (local_liftExcept _).bind fun _ => (local_loadDb member).bind fun _ =>
    (local_liftExcept _).bind fun _ => (local_liftExcept _).bind fun _ =>
    (local_liftExcept _).bind fun _ => (local_writeFile outMember).bind fun _ =>
    local_saveRevocationDb tmpMember

/-- Two runs that may differ, since each sees the files it starts from. -/
def Alike (run run' : Run Unit) (files files' : FileSystem)
    (paths : Set String) : Prop :=
  (run.exec files).1 = (run'.exec files').1 ∧
    Set.EqOn (run.exec files).2 (run'.exec files').2 paths

theorem Ca.runCaInit_alike {args : CaInitArgs}
    (keyMember : args.keyPath ∈ paths) (crtMember : args.crtPath ∈ paths)
    (same : Set.EqOn files files' paths) :
    Alike (runCaInit ssl (env.host files) env.io args env.statFails)
      (runCaInit ssl (env.host files') env.io args env.statFails)
      files files' paths := by
  have existing : SameExisting args files' files :=
    ⟨by rw [same keyMember], by rw [same crtMember]⟩
  have prepared : prepareCa ssl (env.host files) args env.statFails files =
      prepareCa ssl (env.host files') args env.statFails files' := by
    rw [existing.prepareCa_eq]
    rfl
  unfold Alike
  cases outcome : prepareCa ssl (env.host files) args env.statFails files with
  | error failure =>
      rw [runCaInit_of_refused outcome,
        runCaInit_of_refused (prepared.symm.trans outcome)]
      exact ⟨rfl, same⟩
  | ok made =>
      obtain ⟨pkey, cert, keyPem⟩ := made
      rw [runCaInit_of_prepared outcome,
        runCaInit_of_prepared (prepared.symm.trans outcome)]
      exact ((local_writeFile keyMember).bind fun _ =>
        (local_liftExcept _).bind fun _ => local_writeFile crtMember) files
          files' same

namespace Command

/-- The files that a command reads besides those it owns. -/
def inputs : Command → List String
  | .caInit _ => []
  | .provision args =>
      evidenceFiles args.teeType args.reportPath args.certsDir ++
        [args.caKeyPath, args.caCertPath]
  | .revoke args => [args.caCertPath, args.certPath]
  | .crlIssue args => [args.caKeyPath, args.caCertPath]
  | .verify args =>
      evidenceFiles args.teeType args.reportPath args.certsDir ++
        [args.orgCertPath, args.orgCaPath, args.crlPath]

def touched (command : Command) : List String :=
  command.inputs ++ command.owned

theorem perform_alike {command : Command}
    (members : ∀ path ∈ command.touched, path ∈ paths)
    (same : Set.EqOn files files' paths) :
    Alike (command.perform ssl env files) (command.perform ssl env files')
      files files' paths := by
  have agree : ∀ path ∈ command.touched, files path = files' path :=
    fun path member => same (members path member)
  cases command with
  | caInit args =>
      exact Ca.runCaInit_alike (members _ (by simp [touched, owned]))
        (members _ (by simp [touched, owned])) same
  | provision args =>
      have issued := @issueEndorsement_host (env.library ssl) env files files'
        args (agree _ (by simp [touched, inputs]))
        (agree _ (by simp [touched, inputs])) fun path member =>
          agree path (by simp [touched, inputs, member])
      have sameRun : (provision args).perform ssl env files =
          (provision args).perform ssl env files' := by
        simp only [perform, runProvision, issued]
      rw [sameRun]
      exact local_runProvision (members _ (by simp [touched, owned])) _ _ same
  | revoke args =>
      have serial := @Ca.revokedSerial_host (env.library ssl) env files files'
        args (agree _ (by simp [touched, inputs]))
        (agree _ (by simp [touched, inputs]))
      have sameRun : (revoke args).perform ssl env files =
          (revoke args).perform ssl env files' := by
        simp only [perform, Ca.runRevoke, serial]
        rfl
      rw [sameRun]
      exact Ca.local_runRevoke (members _ (by simp [touched, owned]))
        (members _ (by simp [touched, owned])) _ _ same
  | crlIssue args =>
      have issuer := @Ca.loadCrlIssuer_host (env.library ssl) env files files'
        args (agree _ (by simp [touched, inputs]))
        (agree _ (by simp [touched, inputs]))
      have sameRun : (crlIssue args).perform ssl env files =
          (crlIssue args).perform ssl env files' := by
        simp only [perform, Ca.runCrlIssue, issuer]
        rfl
      rw [sameRun]
      exact Ca.local_runCrlIssue (members _ (by simp [touched, owned]))
        (members _ (by simp [touched, owned]))
        (members _ (by simp [touched, owned])) _ _ same
  | verify args => exact ⟨rfl, same⟩

/-- The exit code of a command and what it leaves in the files that it touches
depend on these files only. -/
theorem exec_same {command : Command}
    (members : ∀ path ∈ command.touched, path ∈ paths)
    (same : Set.EqOn files files' paths) :
    (command.exec ssl env files).1 = (command.exec ssl env files').1 ∧
      Set.EqOn (command.exec ssl env files).2
        (command.exec ssl env files').2 paths := by
  have alike := @perform_alike ssl env files files' paths command members same
  cases command with
  | verify args =>
      have agree : ∀ path ∈ (verify args).touched, files path = files' path :=
        fun path member => same (members path member)
      refine ⟨?_, same⟩
      have inputsSame := @loadInputs_host (env.library ssl) env files files'
        args (agree _ (by simp [touched, inputs]))
        (agree _ (by simp [touched, inputs]))
        (agree _ (by simp [touched, inputs]))
      have evidence := @verifyEvidence_host (env.library ssl) env files files'
        args fun path member => agree path (by simp [touched, inputs, member])
      simp only [exec, runVerify, inputsSame, evidence]
  | caInit args => exact ⟨congrArg exitCode alike.1, alike.2⟩
  | provision args => exact ⟨congrArg exitCode alike.1, alike.2⟩
  | revoke args => exact ⟨congrArg exitCode alike.1, alike.2⟩
  | crlIssue args => exact ⟨congrArg exitCode alike.1, alike.2⟩

end Command

namespace Event

def answer (ssl : OpenSsl) (files : FileSystem) :
    Event → Option (Except Exception Nat)
  | .run env argv => some ((main ssl env argv).exec files).1
  | .other _ => none

/-- The files that an event may look at; others may look at all. -/
def touched : Event → Set String
  | .run _ argv => {path | ∃ command, request argv = .run command ∧
      path ∈ command.touched}
  | .other _ => Set.univ

def changed : Event → Set String
  | .run _ argv => {path | ∃ command, request argv = .run command ∧
      path ∈ command.owned}
  | .other _ => Set.univ

theorem changed_subset (event : Event) : event.changed ⊆ event.touched := by
  cases event with
  | other change => exact subset_rfl
  | run env argv =>
      rintro path ⟨command, asked, member⟩
      exact ⟨command, asked, List.mem_append_right _ member⟩

theorem step_outside (event : Event) (files : FileSystem) :
    Set.EqOn (event.step ssl files) files event.changedᶜ := by
  intro path notChanged
  cases event with
  | other change => exact (notChanged (Set.mem_univ path)).elim
  | run env argv =>
      apply Avoids.step_eq
      intro command asked member
      exact notChanged ⟨command, asked, member⟩

theorem step_same (event : Event)
    (same : Set.EqOn files files' event.touched) :
    event.answer ssl files = event.answer ssl files' ∧
      Set.EqOn (event.step ssl files) (event.step ssl files')
        event.touched := by
  cases event with
  | other change =>
      rw [touched, Set.eqOn_univ] at same
      rw [same]
      exact ⟨rfl, fun _ _ => rfl⟩
  | run env argv =>
      cases asked : request argv with
      | exit code =>
          simp only [answer, main_exec, asked, step_run_of_exit asked]
          exact ⟨rfl, same⟩
      | run command =>
          have executed := @command.exec_same ssl env files files'
            (Event.run env argv).touched
            (fun path member => ⟨command, asked, member⟩) same
          simp only [answer, main_exec, asked, step_run_of_run asked]
          exact ⟨congrArg some (congrArg Except.ok executed.1), executed.2⟩

end Event

/-- The events with their footprints on the files. -/
def events (ssl : OpenSsl) : Footprinted Event String (Option File)
    (Option (Except Exception Nat)) where
  act event files := (event.answer ssl files, event.step ssl files)
  touched := Event.touched
  changed := Event.changed
  changed_subset := Event.changed_subset
  leaves event files := event.step_outside files
  answers_same same := (Event.step_same _ same).1
  leaves_same same := (Event.step_same _ same).2

def answersIn (ssl : OpenSsl) (history : List Event) (files : FileSystem) :
    List (Event × Option (Except Exception Nat)) :=
  (events ssl).answers history files

/-- No event of the one kind looks at a file that an event of the other kind may
change. -/
def Overlooks (history : List Event) (one other : Event → Bool) : Prop :=
  ∀ event ∈ history, one event = true → ∀ unseen ∈ history,
    other unseen = true → ∀ path ∈ unseen.changed, path ∉ event.touched

variable {history history' : List Event} {kept : Event → Bool}

theorem Overlooks.unseen
    (overlooks : Overlooks history kept fun event => !kept event) :
    ∀ event ∈ history, kept event = true → ∀ removed ∈ history,
      kept removed = false → (events ssl).Unseen removed event :=
  fun event member isKept removed removedMember isRemoved =>
    Set.disjoint_left.mpr fun path => overlooks event member isKept removed
      removedMember (by simp [isRemoved]) path

theorem Overlooks.others_unseen
    (overlooked : Overlooks history (fun event => !kept event) kept) :
    ∀ event ∈ history, (!kept event) = true → ∀ removed ∈ history,
      (!kept removed) = false → (events ssl).Unseen removed event :=
  fun event member isOther removed removedMember isKept =>
    Set.disjoint_left.mpr fun path => overlooked event member isOther removed
      removedMember (by simpa using isKept) path

theorem Overlooks.of_subset {one other : Event → Bool}
    (overlooks : Overlooks history one other) (subset : history' ⊆ history) :
    Overlooks history' one other :=
  fun event member isOne unseen unseenMember isOther =>
    overlooks event (subset member) isOne unseen (subset unseenMember) isOther

/-- When the events of a history that are kept overlook all others, they answer
the same without these, and leave the same in every file that one of them may
look at. -/
theorem unrelated_runs_unseen
    (overlooks : Overlooks history kept fun event => !kept event)
    (files : FileSystem) :
    (answersIn ssl history files).filter (fun answer => kept answer.1) =
        answersIn ssl (history.filter kept) files ∧
      ∀ event ∈ history, kept event = true → ∀ path ∈ event.touched,
        leaving ssl history files path =
          leaving ssl (history.filter kept) files path := by
  obtain ⟨answers, left⟩ := @Footprinted.purge_unseen _ _ _ _ (events ssl)
    history kept overlooks.unseen files
  refine ⟨answers, ?_⟩
  intro event member isKept path isTouched
  exact left event member isKept isTouched

theorem subset_of_filters
    (sameKept : history'.filter kept = history.filter kept)
    (sameOthers : (history'.filter fun event => !kept event) =
      history.filter fun event => !kept event) :
    history' ⊆ history := by
  intro event member
  by_cases isKept : kept event = true
  · have isFiltered := List.mem_filter.mpr ⟨member, isKept⟩
    rw [sameKept] at isFiltered
    exact (List.mem_filter.mp isFiltered).1
  · have isFiltered : event ∈ history'.filter fun event => !kept event :=
      List.mem_filter.mpr ⟨member, by simp [isKept]⟩
    rw [sameOthers] at isFiltered
    exact (List.mem_filter.mp isFiltered).1

/-- When two kinds of events overlook each other, every order in which the two
sequences of events come leaves the same files and the same answers. -/
theorem separate_runs_in_any_order
    (overlooks : Overlooks history kept fun event => !kept event)
    (overlooked : Overlooks history (fun event => !kept event) kept)
    (sameKept : history'.filter kept = history.filter kept)
    (sameOthers : (history'.filter fun event => !kept event) =
      history.filter fun event => !kept event)
    (files : FileSystem) :
    leaving ssl history' files = leaving ssl history files ∧
      (answersIn ssl history' files).filter (fun answer => kept answer.1) =
        (answersIn ssl history files).filter (fun answer => kept answer.1) ∧
      (answersIn ssl history' files).filter (fun answer => !kept answer.1) =
        (answersIn ssl history files).filter fun answer => !kept answer.1 := by
  have subset := subset_of_filters sameKept sameOthers
  have overlooks' := overlooks.of_subset subset
  have overlooked' := overlooked.of_subset subset
  refine ⟨?_, ?_, ?_⟩
  · calc
      leaving ssl history' files =
          leaving ssl (history'.filter fun event => !kept event)
            (leaving ssl (history'.filter kept) files) :=
        @Footprinted.final_separate _ _ _ _ (events ssl) history' kept
          overlooks'.unseen overlooked'.others_unseen files
      _ = leaving ssl (history.filter fun event => !kept event)
            (leaving ssl (history.filter kept) files) := by
        rw [sameKept, sameOthers]
      _ = leaving ssl history files :=
        (@Footprinted.final_separate _ _ _ _ (events ssl) history kept
          overlooks.unseen overlooked.others_unseen files).symm
  · have purged := @Footprinted.purge_unseen _ _ _ _ (events ssl) history' kept
      overlooks'.unseen files
    have purged' := @Footprinted.purge_unseen _ _ _ _ (events ssl) history kept
      overlooks.unseen files
    exact purged.1.trans ((congrArg (answersIn ssl · files) sameKept).trans
      purged'.1.symm)
  · have purged := @Footprinted.purge_unseen _ _ _ _ (events ssl) history'
      (fun event => !kept event) overlooked'.others_unseen files
    have purged' := @Footprinted.purge_unseen _ _ _ _ (events ssl) history
      (fun event => !kept event) overlooked.others_unseen files
    exact purged.1.trans ((congrArg (answersIn ssl · files) sameOthers).trans
      purged'.1.symm)

theorem Event.not_touched {env env' : Environment} {argv argv' : List String}
    {command command' : Command} (asked : request argv = .run command)
    (asked' : request argv' = .run command')
    (apart : ∀ path ∈ command.owned, path ∉ command'.touched) :
    ∀ path ∈ (Event.run env argv).changed,
      path ∉ (Event.run env' argv').touched := by
  rintro path ⟨_, isAsked, member⟩ ⟨_, isAsked', isTouched⟩
  cases asked.symm.trans isAsked
  cases asked'.symm.trans isAsked'
  exact apart path member isTouched

def revokeOldArgv : List String :=
  ["revoke", "--ca-cert", "ca.crt", "--cert", "old.crt"]

/-- Endorsements are issued and used while others are revoked. -/
def busyHistory : List Event :=
  [.run samplePlace provisionArgv, .run samplePlace revokeOldArgv]

def isProvision : Event → Bool
  | .run _ ("provision" :: _) => true
  | _ => false

theorem busyHistory_overlooks :
    Overlooks busyHistory isProvision fun event => !isProvision event := by
  intro event member isKept removed removedMember isOther
  simp only [busyHistory, List.mem_cons, List.not_mem_nil, or_false]
    at member removedMember
  rcases member with rfl | rfl
  · rcases removedMember with rfl | rfl
    · cases isOther
    · exact Event.not_touched rfl rfl (by decide +kernel)
  · cases isKept

theorem busyHistory_overlooked :
    Overlooks busyHistory (fun event => !isProvision event) isProvision := by
  intro event member isOther removed removedMember isKept
  simp only [busyHistory, List.mem_cons, List.not_mem_nil, or_false]
    at member removedMember
  rcases member with rfl | rfl
  · cases isOther
  · rcases removedMember with rfl | rfl
    · exact Event.not_touched rfl rfl (by decide +kernel)
    · cases isKept

theorem unrelated_runs_unseen_sample :
    (answersIn agreeingSsl busyHistory sampleFiles).filter
        (fun answer => isProvision answer.1) =
      answersIn agreeingSsl [.run samplePlace provisionArgv] sampleFiles :=
  (unrelated_runs_unseen busyHistory_overlooks sampleFiles).1

theorem separate_runs_in_any_order_sample :
    leaving agreeingSsl busyHistory.reverse sampleFiles =
      leaving agreeingSsl busyHistory sampleFiles :=
  (@separate_runs_in_any_order agreeingSsl busyHistory busyHistory.reverse
    isProvision busyHistory_overlooks busyHistory_overlooked rfl rfl
    sampleFiles).1

end TeeAnchor
