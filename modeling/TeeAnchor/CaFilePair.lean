import TeeAnchor.CaInit

/-!
# The CA's key and certificate belong together

A run of `ca-init` should leave either the files it found or the new key with
the new certificate.  The key file is truncated when it is opened and the
certificate is written after it, so all depends on what can still fail then.
-/

namespace TeeAnchor.Ca

variable {ssl : OpenSsl} {host : Host} {io : IoFaults} {args : CaInitArgs}
  {statFails : String → Bool} {files : FileSystem}

theorem newCa_pubkey {pkey : EvpPkey} {cert : X509}
    (made : newCa ssl host args = .ok (pkey, cert)) :
    cert.pubkey = some pkey := by
  unfold newCa at made
  simp only [bind_eq_ok] at made
  obtain ⟨generated, _, skeleton, begun, extended, added, _, _, signature, _,
    returned⟩ := made
  cases returned
  unfold caSkeleton at begun
  simp only [bind_eq_ok] at begun
  obtain ⟨_, _, _, _, sn, _, _, _, _, _, _, _, name, _, _, _, _, _, _, _,
    begunReturned⟩ := begun
  cases begunReturned
  unfold addCaExtensions at added
  simp only [bind_eq_ok] at added
  obtain ⟨first, firstAdded, second, secondAdded, thirdAdded⟩ := added
  obtain ⟨_, _, rfl⟩ := Pki.addV3Ext_eq_ok firstAdded
  obtain ⟨_, _, rfl⟩ := Pki.addV3Ext_eq_ok secondAdded
  obtain ⟨_, _, rfl⟩ := Pki.addV3Ext_eq_ok thirdAdded
  rfl

theorem pemPrivateKey_eq_some {pkey : EvpPkey} {keyPem : Bytes}
    (written : Pki.pemPrivateKey ssl pkey = .ok keyPem) :
    ssl.pemWritePrivateKey pkey = some keyPem := by
  unfold Pki.pemPrivateKey at written
  simp only [bind_eq_ok] at written
  obtain ⟨_, _, same⟩ := written
  exact OpenSsl.nonNull_eq_ok.mp same

theorem pemCert_eq_some {cert : X509} {crtPem : Bytes}
    (written : Pki.pemCert ssl cert = .ok crtPem) :
    ssl.pemWriteX509 cert = some crtPem := by
  unfold Pki.pemCert at written
  simp only [bind_eq_ok] at written
  obtain ⟨_, _, same⟩ := written
  exact OpenSsl.nonNull_eq_ok.mp same

theorem prepareCa_eq_ok {pkey : EvpPkey} {cert : X509} {keyPem : Bytes}
    (prepared : prepareCa ssl host args statFails files =
      .ok (pkey, cert, keyPem)) :
    newCa ssl host args = .ok (pkey, cert) ∧
      ssl.pemWritePrivateKey pkey = some keyPem := by
  unfold prepareCa at prepared
  simp only [bind_eq_ok] at prepared
  obtain ⟨_, _, _, _, ⟨newKey, newCert⟩, made, pem, written, returned⟩ :=
    prepared
  cases returned
  exact ⟨made, pemPrivateKey_eq_some written⟩

/-- Two states in which the same ones of the two files are there. -/
def SameExisting (args : CaInitArgs) (files prior : FileSystem) : Prop :=
  (prior args.keyPath).isSome = (files args.keyPath).isSome ∧
    (prior args.crtPath).isSome = (files args.crtPath).isSome

/-- What comes before the first write depends on the files only through which
of them are there. -/
theorem SameExisting.prepareCa_eq {prior : FileSystem}
    (same : SameExisting args files prior) :
    prepareCa ssl host args statFails prior =
      prepareCa ssl host args statFails files := by
  have refuses : refuseExisting args statFails prior =
      refuseExisting args statFails files := by
    unfold refuseExisting pathExists
    rw [same.1, same.2]
  unfold prepareCa
  rw [refuses]

def NewPair (ssl : OpenSsl) (host : Host) (args : CaInitArgs)
    (files' : FileSystem) : Prop :=
  ∃ pkey cert keyPem crtPem,
    newCa ssl host args = .ok (pkey, cert) ∧ cert.pubkey = some pkey ∧
    ssl.pemWritePrivateKey pkey = some keyPem ∧
    ssl.pemWriteX509 cert = some crtPem ∧
    (files' args.keyPath).map File.content = some keyPem ∧
    (files' args.crtPath).map File.content = some crtPem

/-- The two files are as they were, or a new pair. -/
def KeepsPair (ssl : OpenSsl) (host : Host) (args : CaInitArgs)
    (files files' : FileSystem) : Prop :=
  (files' args.keyPath = files args.keyPath ∧
      files' args.crtPath = files args.crtPath) ∨
    NewPair ssl host args files'

/-- Nothing fails from the first byte of the key to the last of the
certificate. -/
def WritesBoth (ssl : OpenSsl) (io : IoFaults) (args : CaInitArgs)
    (cert : X509) (keyPem : Bytes) : Prop :=
  (io.write args.keyPath).Takes keyPem ∧ io.chmod args.keyPath = false ∧
    ∃ crtPem, Pki.pemCert ssl cert = .ok crtPem ∧
      io.openWrite args.crtPath = false ∧
      (io.write args.crtPath).Takes crtPem

theorem runCaInit_of_refused {failure : Exception}
    (refused : prepareCa ssl host args statFails files = .error failure) :
    (runCaInit ssl host io args statFails).exec files =
      (.error failure, files) := by
  change ((liftExcept (prepareCa ssl host args statFails files) >>= _ :
    Run Unit)).exec files = _
  rw [Run.exec_bind, Run.exec_liftExcept, refused]

theorem runCaInit_of_prepared {pkey : EvpPkey} {cert : X509} {keyPem : Bytes}
    (prepared : prepareCa ssl host args statFails files =
      .ok (pkey, cert, keyPem)) :
    (runCaInit ssl host io args statFails).exec files =
      (do
        writeFile io args.keyPath keyPem 0o600
        let crtPem ← liftExcept (Pki.pemCert ssl cert)
        writeFile io args.crtPath crtPem 0o644 : Run Unit).exec files := by
  change ((liftExcept (prepareCa ssl host args statFails files) >>= _ :
    Run Unit)).exec files = _
  rw [Run.exec_bind, Run.exec_liftExcept, prepared]

theorem runCaInit_of_not_opened
    (fails : io.openWrite args.keyPath = true) :
    ((runCaInit ssl host io args statFails).exec files).2 = files := by
  cases prepared : prepareCa ssl host args statFails files with
  | error failure => rw [runCaInit_of_refused prepared]
  | ok made =>
      obtain ⟨pkey, cert, keyPem⟩ := made
      rw [runCaInit_of_prepared prepared, Run.exec_bind, writeFile_exec,
        if_pos fails]

/-- A key file that could be opened holds what reached the device of the new
key, and the certificate is as it was or what reached the device of the new
one, which is so only if the key was whole as far as the run could see. -/
theorem runCaInit_leaves {pkey : EvpPkey} {cert : X509} {keyPem : Bytes}
    (prepared : prepareCa ssl host args statFails files =
      .ok (pkey, cert, keyPem))
    (opens : io.openWrite args.keyPath = false) :
    ((((runCaInit ssl host io args statFails).exec files).2
        args.keyPath).map File.content =
      some ((io.write args.keyPath).written keyPem)) ∧
    (((runCaInit ssl host io args statFails).exec files).2 args.crtPath =
        files args.crtPath ∨
      ∃ crtPem, Pki.pemCert ssl cert = .ok crtPem ∧
        io.chmod args.keyPath = false ∧ io.openWrite args.crtPath = false ∧
        (((runCaInit ssl host io args statFails).exec files).2
          args.crtPath).map File.content =
            some ((io.write args.crtPath).written crtPem)) := by
  rw [runCaInit_of_prepared prepared, Run.exec_bind]
  have keyContent := @writeFile_content io args.keyPath keyPem 0o600 files opens
  have crtKept := @writeFile_other io args.keyPath args.crtPath keyPem 0o600
    files args.crtPath_ne_keyPath
  rcases first : (writeFile io args.keyPath keyPem 0o600).exec files with
    ⟨outcome, middle⟩
  rw [first] at keyContent crtKept
  cases outcome with
  | error failure => exact ⟨keyContent, .inl crtKept⟩
  | ok done =>
      obtain ⟨_, _, chmods, _⟩ := writeFile_eq_ok.mp first
      simp only
      rw [Run.exec_bind, Run.exec_liftExcept]
      cases text : Pki.pemCert ssl cert with
      | error failure => exact ⟨keyContent, .inl crtKept⟩
      | ok crtPem =>
          simp only
          have keyKept := @writeFile_other io args.crtPath args.keyPath crtPem
            0o644 middle args.crtPath_ne_keyPath.symm
          refine ⟨by rw [keyKept]; exact keyContent, ?_⟩
          by_cases crtOpens : io.openWrite args.crtPath
          · rw [writeFile_exec, if_pos crtOpens]
            exact .inl crtKept
          · have crtOpened : io.openWrite args.crtPath = false := by
              simpa using crtOpens
            exact .inr ⟨crtPem, rfl, chmods, crtOpened,
              writeFile_content crtOpened⟩

/-- With no failure between the two writes the certificate is written. -/
theorem runCaInit_writesBoth {pkey : EvpPkey} {cert : X509} {keyPem : Bytes}
    (prepared : prepareCa ssl host args statFails files =
      .ok (pkey, cert, keyPem))
    (opens : io.openWrite args.keyPath = false)
    (both : WritesBoth ssl io args cert keyPem) :
    NewPair ssl host args
      ((runCaInit ssl host io args statFails).exec files).2 := by
  obtain ⟨takesKey, chmods, crtPem, text, crtOpens, takesCrt⟩ := both
  obtain ⟨made, keyText⟩ := prepareCa_eq_ok prepared
  refine ⟨pkey, cert, keyPem, crtPem, made, newCa_pubkey made, keyText,
    pemCert_eq_some text, ?_, ?_⟩
  · rw [(runCaInit_leaves prepared opens).1,
      WriteFate.written_eq_self.mpr takesKey]
  · have first := (@writeFile_eq_ok io args.keyPath keyPem 0o600 files _).mpr
      ⟨opens, takesKey.unfailing, chmods, rfl⟩
    rw [runCaInit_of_prepared prepared, Run.exec_bind, first]
    simp only
    rw [Run.exec_bind, Run.exec_liftExcept, text]
    simp only
    rw [writeFile_content crtOpens, WriteFate.written_eq_self.mpr takesCrt]

theorem exists_unlike (there : Bool) (content : Bytes) :
    ∃ file : Option File, file.isSome = there ∧
      file.map File.content ≠ some content := by
  cases there with
  | false => exact ⟨none, rfl, by simp⟩
  | true => exact ⟨some ⟨0 :: content, 0⟩, rfl, by simp⟩

theorem exists_sameExisting (args : CaInitArgs) (files : FileSystem)
    (keyContent crtContent : Bytes) :
    ∃ prior, SameExisting args files prior ∧
      (prior args.keyPath).map File.content ≠ some keyContent ∧
      (prior args.crtPath).map File.content ≠ some crtContent := by
  obtain ⟨keyFile, keyThere, keyUnlike⟩ :=
    exists_unlike (files args.keyPath).isSome keyContent
  obtain ⟨crtFile, crtThere, crtUnlike⟩ :=
    exists_unlike (files args.crtPath).isSome crtContent
  refine ⟨Function.update (Function.update files args.keyPath keyFile)
    args.crtPath crtFile, ⟨?_, ?_⟩, ?_, ?_⟩
  · rwa [Function.update_of_ne args.crtPath_ne_keyPath.symm,
      Function.update_self]
  · rwa [Function.update_self]
  · rwa [Function.update_of_ne args.crtPath_ne_keyPath.symm,
      Function.update_self]
  · rwa [Function.update_self]

/-- Whatever the files that are there hold, a run keeps the pair exactly when
it ends before the key file is open, or nothing fails from there to the last
byte of the certificate. -/
theorem runCaInit_keepsPair_iff (ssl : OpenSsl) (host : Host) (io : IoFaults)
    (args : CaInitArgs) (statFails : String → Bool) (files : FileSystem) :
    (∀ prior, SameExisting args files prior →
      KeepsPair ssl host args prior
        ((runCaInit ssl host io args statFails).exec prior).2) ↔
      (∃ failure, prepareCa ssl host args statFails files = .error failure) ∨
        io.openWrite args.keyPath = true ∨
        ∃ pkey cert keyPem,
          prepareCa ssl host args statFails files = .ok (pkey, cert, keyPem) ∧
            WritesBoth ssl io args cert keyPem := by
  constructor
  · intro keeps
    cases prepared : prepareCa ssl host args statFails files with
    | error failure => exact .inl ⟨failure, rfl⟩
    | ok made =>
        obtain ⟨pkey, cert, keyPem⟩ := made
        right
        by_cases opens : io.openWrite args.keyPath
        · exact .inl opens
        · have opened : io.openWrite args.keyPath = false := by
            simpa using opens
          right
          refine ⟨pkey, cert, keyPem, rfl, ?_⟩
          -- Files that are neither what the run writes nor the new pair.
          obtain ⟨prior, same, keyUnlike, crtUnlike⟩ := exists_sameExisting
            args files ((io.write args.keyPath).written keyPem)
            ((ssl.pemWriteX509 cert).getD [])
          have preparedPrior := same.prepareCa_eq.trans prepared
          obtain ⟨keyLeft, crtLeft⟩ := runCaInit_leaves preparedPrior opened
          rcases keeps prior same with ⟨keyKept, _⟩ |
              ⟨newKey, newCert, newKeyPem, crtPem, newMade, _, newKeyText,
                newCrtText, keyNew, crtNew⟩
          · rw [keyKept] at keyLeft
            exact absurd keyLeft keyUnlike
          · obtain ⟨made, keyText⟩ := prepareCa_eq_ok prepared
            cases made.symm.trans newMade
            cases keyText.symm.trans newKeyText
            have wholeKey : (io.write args.keyPath).written keyPem = keyPem :=
              Option.some.inj (keyLeft.symm.trans keyNew)
            rcases crtLeft with crtKept |
                ⟨text, printed, chmods, crtOpens, crtWritten⟩
            · rw [crtKept] at crtNew
              rw [newCrtText] at crtUnlike
              exact absurd crtNew crtUnlike
            · have sameText : text = crtPem := Option.some.inj
                ((pemCert_eq_some printed).symm.trans newCrtText)
              subst sameText
              have wholeCrt : (io.write args.crtPath).written text = text :=
                Option.some.inj (crtWritten.symm.trans crtNew)
              exact ⟨WriteFate.written_eq_self.mp wholeKey, chmods, text,
                printed, crtOpens, WriteFate.written_eq_self.mp wholeCrt⟩
  · rintro (⟨failure, refused⟩ | notOpened | ⟨pkey, cert, keyPem, prepared,
        both⟩) prior same
    · rw [runCaInit_of_refused (same.prepareCa_eq.trans refused)]
      exact .inl ⟨rfl, rfl⟩
    · rw [runCaInit_of_not_opened notOpened]
      exact .inl ⟨rfl, rfl⟩
    · by_cases opens : io.openWrite args.keyPath
      · rw [runCaInit_of_not_opened opens]
        exact .inl ⟨rfl, rfl⟩
      · exact .inr (runCaInit_writesBoth (same.prepareCa_eq.trans prepared)
          (by simpa using opens) both)

def oneKeySsl : OpenSsl :=
  { OpenSsl.standIn with
    ecGen := fun _ => some ⟨Pki.evpPkeyEc, [1]⟩
    pemWritePrivateKey := fun _ => some (ascii "new key")
    v3ExtConf := fun _ _ _ _ => some (true, [])
    x509Sign := fun _ _ _ => some [2]
    pemWriteX509 := fun _ => some (ascii "new certificate") }

def emptyHost : Host where
  read _ := .cannotOpen
  pathExists _ := false
  time := 0
  generalizedTimeNowUtc := ascii "19700101000000Z"
  randomSerial := 1
  storage := .unlimited

def crtNotOpened : IoFaults :=
  { IoFaults.none with openWrite := fun path => path == "ca/ca.crt" }

def forced : CaInitArgs :=
  { outDir := "ca", force := true }

def oldCa : FileSystem := fun path =>
  if path = "ca/ca.key" then some ⟨ascii "old key", 0o600⟩
  else if path = "ca/ca.crt" then some ⟨ascii "old certificate", 0o644⟩
  else none

/-- The old key is gone, and the certificate left is not for the new one. -/
theorem runCaInit_breaksPair :
    ((runCaInit oneKeySsl emptyHost crtNotOpened forced
        fun _ => false).exec oldCa).1 =
      .error (.teeAnchorError "cannot open for writing: ca/ca.crt") ∧
    (((runCaInit oneKeySsl emptyHost crtNotOpened forced
        fun _ => false).exec oldCa).2 "ca/ca.key").map File.content =
      some (ascii "new key") ∧
    (((runCaInit oneKeySsl emptyHost crtNotOpened forced
        fun _ => false).exec oldCa).2 "ca/ca.crt").map File.content =
      some (ascii "old certificate") ∧
    ¬KeepsPair oneKeySsl emptyHost forced oldCa
      ((runCaInit oneKeySsl emptyHost crtNotOpened forced
        fun _ => false).exec oldCa).2 := by
  have keyLeft : (((runCaInit oneKeySsl emptyHost crtNotOpened forced
      fun _ => false).exec oldCa).2 forced.keyPath).map File.content =
        some (ascii "new key") := by
    decide +kernel
  have crtLeft : (((runCaInit oneKeySsl emptyHost crtNotOpened forced
      fun _ => false).exec oldCa).2 forced.crtPath).map File.content =
        some (ascii "old certificate") := by
    decide +kernel
  refine ⟨by decide +kernel, keyLeft, crtLeft, ?_⟩
  rintro (⟨keyKept, _⟩ | ⟨_, _, _, crtPem, _, _, _, printed, _, crtNew⟩)
  · rw [keyKept] at keyLeft
    revert keyLeft
    decide
  · cases printed
    rw [crtLeft] at crtNew
    revert crtNew
    decide

end TeeAnchor.Ca
