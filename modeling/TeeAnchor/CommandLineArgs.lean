import TeeAnchor.CommandLine

/-!
# What a command line sets

The arguments that a subcommand runs with hold, in each field, the last value
given for its option, and the default where none is given.  Which options stand
between them does not matter.
-/

namespace TeeAnchor

open OptionLoop

/-- The content of a field of the arguments. -/
inductive OptionValue
  | text (value : String)
  | number (value : Int)
  | flag (on : Bool)
  deriving DecidableEq, Repr

variable {σ : Type}

def textField (option : String) (read : σ → String) : Field σ OptionValue where
  read args := .text (read args)
  given
    | .value other value => if other = option then some (.text value) else none
    | .switch _ => none

def numberField (option : String) (read : σ → Int) : Field σ OptionValue where
  read args := .number (read args)
  given
    | .value other value =>
        if other = option then (stoi value).toOption.map .number else none
    | .switch _ => none

def flagField (option : String) (read : σ → Bool) : Field σ OptionValue where
  read args := .flag (read args)
  given
    | .value _ _ => none
    | .switch other => if other = option then some (.flag true) else none

namespace Ca

def caInitFields : List (Field CaInitArgs OptionValue) :=
  [textField "--out-dir" (·.outDir), textField "--subject" (·.subject),
    numberField "--validity-days" (·.validityDays),
    textField "--curve" (·.curve), flagField "--force" (·.force)]

def revokeFields : List (Field RevokeArgs OptionValue) :=
  [textField "--ca-cert" (·.caCertPath), textField "--cert" (·.certPath),
    textField "--reason" (·.reason), textField "--db" (·.dbPath)]

def crlIssueFields : List (Field CrlIssueArgs OptionValue) :=
  [textField "--ca-key" (·.caKeyPath), textField "--ca-cert" (·.caCertPath),
    textField "--out" (·.outPath),
    numberField "--validity-days" (·.validityDays),
    textField "--db" (·.dbPath)]

end Ca

def Provision.provisionFields : List (Field ProvisionArgs OptionValue) :=
  [textField "--report" (·.reportPath), textField "--certs" (·.certsDir),
    textField "--ca-key" (·.caKeyPath), textField "--ca-cert" (·.caCertPath),
    textField "--out" (·.outPath), textField "--subject" (·.subject),
    numberField "--validity-days" (·.validityDays),
    textField "--tee-type" (·.teeType)]

def Verify.verifyFields : List (Field VerifyArgs OptionValue) :=
  [textField "--report" (·.reportPath), textField "--certs" (·.certsDir),
    textField "--org-cert" (·.orgCertPath), textField "--org-ca" (·.orgCaPath),
    textField "--crl" (·.crlPath), textField "--tee-type" (·.teeType)]

theorem lookup_eq_some_iff_mem {key : String} {kind : OptionKind σ}
    {options : List (String × OptionKind σ)}
    (distinct : (options.map Prod.fst).Nodup) :
    options.lookup key = some kind ↔ (key, kind) ∈ options := by
  constructor
  · intro found
    obtain ⟨before, after, rfl, _⟩ := List.lookup_eq_some_iff.mp found
    simp
  · intro member
    obtain ⟨before, after, rfl⟩ := List.append_of_mem member
    rw [List.lookup_eq_some_iff]
    refine ⟨before, after, rfl, ?_⟩
    intro entry isBefore
    rw [List.map_append, List.map_cons, List.nodup_append] at distinct
    have differs := distinct.2.2 entry.1 (List.mem_map_of_mem isBefore) key
      List.mem_cons_self
    simpa using differs.symm

/-- What an option makes of the arguments by a setting of it. -/
inductive Sets : String × OptionKind σ → Setting → σ → σ → Prop
  | text (name value : String) (set : σ → String → σ) (args : σ) :
      Sets (name, .text set) (.value name value) args (set args value)
  | number (name : String) {value : String} {number : Int}
      (set : σ → Int → σ) (args : σ) : stoi value = .ok number →
      Sets (name, .number set) (.value name value) args (set args number)
  | flag (name : String) (set : σ → σ) (args : σ) :
      Sets (name, .flag set) (.switch name) args (set args)

theorem apply_eq_some_iff {options : List (String × OptionKind σ)}
    (distinct : (options.map Prod.fst).Nodup) {args changed : σ}
    {setting : Setting} :
    (optionLoop options).apply args setting = some changed ↔
      ∃ option ∈ options, Sets option setting args changed := by
  have effect : ∀ {word : String} {effect : OptionEffect σ Exception},
      (optionLoop options).effect word = some effect ↔
        ∃ kind, (word, kind) ∈ options ∧ kind.effect = effect := by
    intro word effect
    simp only [optionLoop, Option.map_eq_some_iff,
      lookup_eq_some_iff_mem distinct]
  constructor
  · intro applied
    cases setting with
    | value word value =>
        obtain ⟨change, takes, accepted⟩ := apply_value.mp applied
        obtain ⟨kind, member, same⟩ := effect.mp takes
        refine ⟨(word, kind), member, ?_⟩
        cases kind with
        | text set =>
            cases same
            cases accepted
            exact .text word value set args
        | number set =>
            cases same
            simp only at accepted
            split at accepted
            · rename_i parsed isParsed
              cases accepted
              exact .number word set args isParsed
            · cases accepted
        | flag set => cases same
    | switch word =>
        obtain ⟨change, takes, rfl⟩ := apply_switch.mp applied
        obtain ⟨kind, member, same⟩ := effect.mp takes
        refine ⟨(word, kind), member, ?_⟩
        cases kind with
        | text set => cases same
        | number set => cases same
        | flag set =>
            cases same
            exact .flag word _ args
  · rintro ⟨option, member, sets⟩
    cases sets with
    | text name value set =>
        exact apply_value.mpr ⟨_, effect.mpr ⟨_, member, rfl⟩, rfl⟩
    | number name set _ parsed =>
        refine apply_value.mpr ⟨_, effect.mpr ⟨_, member, rfl⟩, ?_⟩
        simp only [parsed]
    | flag name set =>
        exact apply_switch.mpr ⟨_, effect.mpr ⟨_, member, rfl⟩, rfl⟩

/-- The settings of the option are those that say something of the field. -/
def SameSettings (option : String × OptionKind σ)
    (field : Field σ OptionValue) : Prop :=
  ∀ args setting, (field.given setting).isSome ↔
    ∃ changed, Sets option setting args changed

/-- What a setting of the option makes of the field is what it says of it. -/
def Reads (option : String × OptionKind σ) (field : Field σ OptionValue) :
    Prop :=
  ∀ args changed setting, Sets option setting args changed →
    field.read changed = (field.given setting).getD (field.read args)

theorem sameSettings_text (name : String) (set : σ → String → σ)
    (read : σ → String) :
    SameSettings (name, .text set) (textField name read) := by
  intro args setting
  constructor
  · intro given
    cases setting with
    | value word value =>
        by_cases same : word = name
        · subst same
          exact ⟨_, .text word value set args⟩
        · simp [textField, same] at given
    | switch word => cases given
  · rintro ⟨_, sets⟩
    cases sets
    simp [textField]

theorem sameSettings_number (name : String) (set : σ → Int → σ)
    (read : σ → Int) :
    SameSettings (name, .number set) (numberField name read) := by
  intro args setting
  constructor
  · intro given
    cases setting with
    | value word value =>
        by_cases same : word = name
        · subst same
          cases parsed : stoi value with
          | error failure =>
              simp [numberField, parsed, Except.toOption] at given
          | ok number => exact ⟨_, .number word set args parsed⟩
        · simp [numberField, same] at given
    | switch word => cases given
  · rintro ⟨_, sets⟩
    cases sets with
    | number _ _ _ parsed => simp [numberField, parsed, Except.toOption]

theorem sameSettings_flag (name : String) (set : σ → σ) (read : σ → Bool) :
    SameSettings (name, .flag set) (flagField name read) := by
  intro args setting
  constructor
  · intro given
    cases setting with
    | value word value => cases given
    | switch word =>
        by_cases same : word = name
        · subst same
          exact ⟨_, .flag word set args⟩
        · simp [flagField, same] at given
  · rintro ⟨_, sets⟩
    cases sets
    simp [flagField]

theorem exists_sets_iff {options : List (String × OptionKind σ)}
    {fields : List (Field σ OptionValue)}
    (same : List.Forall₂ SameSettings options fields) (args : σ)
    (setting : Setting) :
    (∃ option ∈ options, ∃ changed, Sets option setting args changed) ↔
      ∃ field ∈ fields, (field.given setting).isSome := by
  induction same with
  | nil => simp
  | cons here _ ih =>
      simp only [List.exists_mem_cons_iff, ih, here args setting]

theorem describedBy_of {options : List (String × OptionKind σ)}
    {fields : List (Field σ OptionValue)}
    (distinct : (options.map Prod.fst).Nodup)
    (same : List.Forall₂ SameSettings options fields)
    (reads : ∀ option ∈ options, ∀ field ∈ fields, Reads option field)
    (ext : ∀ args args', (∀ field ∈ fields, field.read args =
      field.read args') → args = args') :
    (optionLoop options).DescribedBy fields where
  taken args setting := by
    rw [← exists_sets_iff same args setting]
    simp only [apply_eq_some_iff distinct]
    constructor
    · rintro ⟨changed, option, member, sets⟩
      exact ⟨option, member, changed, sets⟩
    · rintro ⟨option, member, changed, sets⟩
      exact ⟨changed, option, member, sets⟩
  reads args changed setting applied field isField := by
    obtain ⟨option, member, sets⟩ := (apply_eq_some_iff distinct).mp applied
    exact reads option member field isField args changed setting sets
  ext := ext

theorem reads_text (name : String) (set : σ → String → σ)
    (field : Field σ OptionValue) :
    Reads (name, .text set) field ↔ ∀ args value,
      field.read (set args value) =
        (field.given (.value name value)).getD (field.read args) := by
  constructor
  · intro reads args value
    exact reads args _ _ (.text name value set args)
  · rintro reads args _ _ ⟨⟩
    exact reads args _

theorem reads_number (name : String) (set : σ → Int → σ)
    (field : Field σ OptionValue) :
    Reads (name, .number set) field ↔ ∀ args value number,
      stoi value = .ok number → field.read (set args number) =
        (field.given (.value name value)).getD (field.read args) := by
  constructor
  · intro reads args value number parsed
    exact reads args _ _ (.number name set args parsed)
  · intro reads args changed setting sets
    cases sets with
    | number _ _ _ parsed => exact reads args _ _ parsed

theorem reads_flag (name : String) (set : σ → σ)
    (field : Field σ OptionValue) :
    Reads (name, .flag set) field ↔ ∀ args, field.read (set args) =
      (field.given (.switch name)).getD (field.read args) := by
  constructor
  · intro reads args
    exact reads args _ _ (.flag name set args)
  · rintro reads args _ _ ⟨⟩
    exact reads args

theorem Ca.caInit_describedBy :
    (optionLoop caInitOptions).DescribedBy caInitFields := by
  apply describedBy_of
  · decide
  · exact .cons (sameSettings_text _ _ _) <| .cons (sameSettings_text _ _ _) <|
      .cons (sameSettings_number _ _ _) <| .cons (sameSettings_text _ _ _) <|
      .cons (sameSettings_flag _ _ _) .nil
  · simp +contextual [caInitOptions, caInitFields, reads_text, reads_number,
      reads_flag, textField, numberField, flagField, Except.toOption]
  · rintro ⟨⟩ ⟨⟩
    simp [caInitFields, textField, numberField, flagField]

theorem Provision.provision_describedBy :
    (optionLoop provisionOptions).DescribedBy provisionFields := by
  apply describedBy_of
  · decide
  · exact .cons (sameSettings_text _ _ _) <| .cons (sameSettings_text _ _ _) <|
      .cons (sameSettings_text _ _ _) <| .cons (sameSettings_text _ _ _) <|
      .cons (sameSettings_text _ _ _) <| .cons (sameSettings_text _ _ _) <|
      .cons (sameSettings_number _ _ _) <| .cons (sameSettings_text _ _ _) .nil
  · simp +contextual [provisionOptions, provisionFields, reads_text,
      reads_number, textField, numberField, Except.toOption]
  · rintro ⟨⟩ ⟨⟩
    simp [provisionFields, textField, numberField]

theorem Ca.revoke_describedBy :
    (optionLoop revokeOptions).DescribedBy revokeFields := by
  apply describedBy_of
  · decide
  · exact .cons (sameSettings_text _ _ _) <| .cons (sameSettings_text _ _ _) <|
      .cons (sameSettings_text _ _ _) <| .cons (sameSettings_text _ _ _) .nil
  · simp [revokeOptions, revokeFields, reads_text, textField]
  · rintro ⟨⟩ ⟨⟩
    simp [revokeFields, textField]

theorem Ca.crlIssue_describedBy :
    (optionLoop crlIssueOptions).DescribedBy crlIssueFields := by
  apply describedBy_of
  · decide
  · exact .cons (sameSettings_text _ _ _) <| .cons (sameSettings_text _ _ _) <|
      .cons (sameSettings_text _ _ _) <| .cons (sameSettings_number _ _ _) <|
      .cons (sameSettings_text _ _ _) .nil
  · simp +contextual [crlIssueOptions, crlIssueFields, reads_text,
      reads_number, textField, numberField, Except.toOption]
  · rintro ⟨⟩ ⟨⟩
    simp [crlIssueFields, textField, numberField]

theorem Verify.verify_describedBy :
    (optionLoop verifyOptions).DescribedBy verifyFields := by
  apply describedBy_of
  · decide
  · exact .cons (sameSettings_text _ _ _) <| .cons (sameSettings_text _ _ _) <|
      .cons (sameSettings_text _ _ _) <| .cons (sameSettings_text _ _ _) <|
      .cons (sameSettings_text _ _ _) <| .cons (sameSettings_text _ _ _) .nil
  · simp [verifyOptions, verifyFields, reads_text, textField]
  · rintro ⟨⟩ ⟨⟩
    simp [verifyFields, textField]

/-- The loop of `cli_verify` is the one of the table. -/
theorem Verify.parseArgs_eq (argv : List String) (args : VerifyArgs) :
    parseArgs argv args = (optionLoop verifyOptions).parse argv args := by
  have effect : ∀ word, (optionLoop verifyOptions).effect word =
      (setOption word).map fun set => .value fun args value =>
        .ok (set args value) := by
    intro word
    simp only [optionLoop, verifyOptions, List.lookup_cons, List.lookup_nil,
      setOption]
    repeat' split
    all_goals simp_all [OptionKind.effect]
  induction argv, args using parseArgs.induct with
  | case1 args => rfl
  | case2 word args set known =>
      simp only [parseArgs, OptionLoop.parse, effect, known, Option.map_some]
      rfl
  | case3 word args set known value rest ih =>
      simp only [parseArgs, OptionLoop.parse, effect, known, Option.map_some]
      exact ih
  | case4 word rest args unknown help =>
      have asks : (optionLoop verifyOptions).asksHelp word = true := by
        simpa [optionLoop] using help
      simp only [parseArgs, OptionLoop.parse, effect, unknown, help, asks,
        Option.map_none, if_true]
      rfl
  | case5 word rest args unknown notHelp =>
      have asks : (optionLoop verifyOptions).asksHelp word = false := by
        simpa [optionLoop] using notHelp
      simp only [parseArgs, OptionLoop.parse, effect, unknown, notHelp, asks,
        Option.map_none, if_false, Bool.false_eq_true]
      rfl

/-- The arguments are the words of settings that each belong to a field, and
every field holds the last value given for it or else its default. -/
def HoldsLast (fields : List (Field σ OptionValue)) (default : σ)
    (argv : List String) (args : σ) : Prop :=
  ∃ settings, argv = settings.flatMap Setting.words ∧
    (∀ setting ∈ settings, ∃ field ∈ fields, (field.given setting).isSome) ∧
    ∀ field ∈ fields,
      field.read args = field.last settings (field.read default)

/-- Every subcommand runs with exactly the arguments whose fields hold the last
values given. -/
theorem arguments_hold_last :
    (∀ argv args, (optionLoop Ca.caInitOptions).parse argv {} =
      .ok (some args) ↔ HoldsLast Ca.caInitFields {} argv args) ∧
    (∀ argv args, (optionLoop Provision.provisionOptions).parse argv {} =
      .ok (some args) ↔ HoldsLast Provision.provisionFields {} argv args) ∧
    (∀ argv args, (optionLoop Ca.revokeOptions).parse argv {} =
      .ok (some args) ↔ HoldsLast Ca.revokeFields {} argv args) ∧
    (∀ argv args, (optionLoop Ca.crlIssueOptions).parse argv {} =
      .ok (some args) ↔ HoldsLast Ca.crlIssueFields {} argv args) ∧
    (∀ argv args, Verify.parseArgs argv {} =
      .ok (some args) ↔ HoldsLast Verify.verifyFields {} argv args) := by
  refine ⟨fun _ _ => Ca.caInit_describedBy.parse_eq_some_iff,
    fun _ _ => Provision.provision_describedBy.parse_eq_some_iff,
    fun _ _ => Ca.revoke_describedBy.parse_eq_some_iff,
    fun _ _ => Ca.crlIssue_describedBy.parse_eq_some_iff, ?_⟩
  intro argv args
  rw [Verify.parseArgs_eq]
  exact Verify.verify_describedBy.parse_eq_some_iff

/-- The text begins with blanks, a sign or none and the digits of this number,
and what follows is no digit. -/
def BeginsWithNumber (text : String) (number : Int) : Prop :=
  ∃ blanks sign digits rest,
    text.toList = blanks ++ (sign ++ (digits ++ rest)) ∧
    (∀ char ∈ blanks, isSpaceChar char = true) ∧
    sign ∈ [[], ['+'], ['-']] ∧ digits ≠ [] ∧
    (∀ char ∈ digits, char.isDigit = true) ∧
    (∀ char ∈ rest.head?, char.isDigit = false) ∧
    number = (if sign = ['-'] then -1 else 1) * Nat.ofDigitChars 10 digits 0

theorem not_isSpaceChar_of_isDigit {char : Char} (digit : char.isDigit = true) :
    isSpaceChar char = false := by
  have bounds : 48 ≤ char.toNat ∧ char.toNat ≤ 57 :=
    Char.isDigit_iff_toNat.mp digit
  unfold isSpaceChar
  rw [Bool.or_eq_false_iff]
  constructor
  · rw [beq_eq_false_iff_ne]
    rintro rfl
    revert bounds
    decide
  · rw [Bool.and_eq_false_iff, decide_eq_false_iff_not,
      decide_eq_false_iff_not]
    omega

theorem stoi_parts {start digits rest : List Char} {sign : List Char}
    (isStart : start = sign ++ (digits ++ rest))
    (isSign : sign ∈ [[], ['+'], ['-']]) (nonempty : digits ≠ [])
    (allDigits : ∀ char ∈ digits, char.isDigit = true)
    (ends : ∀ char ∈ rest.head?, char.isDigit = false) :
    (if start.head? == some '-' || start.head? == some '+' then start.tail
      else start).takeWhile Char.isDigit = digits ∧
    (start.head? == some '-') = decide (sign = ['-']) := by
  obtain ⟨digit, others, rfl⟩ := List.exists_cons_of_ne_nil nonempty
  have taken : ((digit :: others) ++ rest).takeWhile Char.isDigit =
      digit :: others := by
    rw [List.takeWhile_append_of_pos allDigits]
    cases rest with
    | nil => simp
    | cons char rest =>
        rw [List.takeWhile_cons_of_neg (by simp [ends char rfl]),
          List.append_nil]
  have isDigit := allDigits digit List.mem_cons_self
  have notSign : digit ≠ '-' ∧ digit ≠ '+' := by
    constructor
    · rintro rfl
      revert isDigit
      decide
    · rintro rfl
      revert isDigit
      decide
  simp only [List.mem_cons, List.not_mem_nil, or_false] at isSign
  rcases isSign with rfl | rfl | rfl
  · subst isStart
    simpa [notSign.1, notSign.2] using taken
  · subst isStart
    simpa using taken
  · subst isStart
    simpa using taken

theorem exists_parts (start : List Char) :
    ∃ sign digits rest, start = sign ++ (digits ++ rest) ∧
      sign ∈ [[], ['+'], ['-']] ∧
      (if start.head? == some '-' || start.head? == some '+' then start.tail
        else start).takeWhile Char.isDigit = digits ∧
      (∀ char ∈ rest.head?, char.isDigit = false) ∧
      (start.head? == some '-') = decide (sign = ['-']) := by
  have ends : ∀ chars : List Char,
      ∀ char ∈ (chars.dropWhile Char.isDigit).head?, char.isDigit = false := by
    intro chars char isHead
    have notDigit := List.head?_dropWhile_not Char.isDigit chars
    rw [Option.mem_def.mp isHead] at notDigit
    simpa using notDigit
  have whole : ∀ chars : List Char, chars.takeWhile Char.isDigit ++
      chars.dropWhile Char.isDigit = chars :=
    fun chars => List.takeWhile_append_dropWhile
  by_cases minus : start.head? = some '-'
  · obtain ⟨tail, rfl⟩ := List.head?_eq_some_iff.mp minus
    refine ⟨['-'], _, tail.dropWhile Char.isDigit, ?_, by simp, rfl, ends tail,
      by simp⟩
    simp [whole]
  by_cases plus : start.head? = some '+'
  · obtain ⟨tail, rfl⟩ := List.head?_eq_some_iff.mp plus
    refine ⟨['+'], _, tail.dropWhile Char.isDigit, ?_, by simp, rfl, ends tail,
      by simp⟩
    simp [whole]
  · refine ⟨[], _, start.dropWhile Char.isDigit, ?_, by simp, rfl, ends start,
      by simp [minus]⟩
    simp [minus, plus, whole]

theorem signed_eq_mul (negative : Bool) (magnitude : Int) :
    (if negative then -magnitude else magnitude) =
      (if negative then -1 else 1) * magnitude := by
  cases negative with
  | true => simp
  | false => simp

theorem inRange_eq_ok {empty : Prop} [Decidable empty] {spelled number : Int} :
    (if empty then .error (.stdException "stoi")
      else if spelled < -2 ^ 31 ∨ 2 ^ 31 ≤ spelled then
        .error (.stdException "stoi")
      else return spelled : Result Int) = .ok number ↔
    ¬empty ∧ spelled = number ∧ -2 ^ 31 ≤ number ∧ number < 2 ^ 31 := by
  by_cases isEmpty : empty
  · simp [isEmpty]
  · by_cases far : spelled < -2 ^ 31 ∨ 2 ^ 31 ≤ spelled
    · simp only [isEmpty, far, if_false, if_true, reduceCtorEq, false_iff]
      rintro ⟨_, rfl, range⟩
      omega
    · simp only [isEmpty, far, if_false, pure, Except.pure, Except.ok.injEq]
      constructor
      · rintro rfl
        exact ⟨id, rfl, by omega⟩
      · rintro ⟨_, same, _⟩
        exact same

/-- The text begins with a number in the range of `int`. -/
def SpellsInt (text : String) (number : Int) : Prop :=
  BeginsWithNumber text number ∧ -2 ^ 31 ≤ number ∧ number < 2 ^ 31

/-- `std::stoi` takes a text that begins with a number in the range of `int`,
whatever follows the digits, and nothing else. -/
theorem stoi_eq_ok {text : String} {number : Int} :
    stoi text = .ok number ↔ SpellsInt text number := by
  unfold stoi SpellsInt
  simp only [inRange_eq_ok]
  constructor
  · rintro ⟨nonempty, isNumber, range⟩
    obtain ⟨sign, digits, rest, split, isSign, taken, ends, negative⟩ :=
      exists_parts (text.toList.dropWhile isSpaceChar)
    rw [taken] at nonempty isNumber
    refine ⟨⟨text.toList.takeWhile isSpaceChar, sign, digits, rest, ?_, ?_,
      isSign, ?_, ?_, ends, ?_⟩, range⟩
    · rw [← split, List.takeWhile_append_dropWhile]
    · exact fun char member => List.mem_takeWhile_imp member
    · simpa using nonempty
    · rw [← taken]
      exact fun char member => List.mem_takeWhile_imp member
    · rw [← isNumber, signed_eq_mul, negative]
      simp only [decide_eq_true_eq]
  · rintro ⟨⟨blanks, sign, digits, rest, split, allBlank, isSign, nonempty,
      allDigits, ends, rfl⟩, range⟩
    have start : text.toList.dropWhile isSpaceChar =
        sign ++ (digits ++ rest) := by
      rw [split, List.dropWhile_append_of_pos allBlank]
      obtain ⟨digit, others, rfl⟩ := List.exists_cons_of_ne_nil nonempty
      have notBlank :=
        not_isSpaceChar_of_isDigit (allDigits digit List.mem_cons_self)
      simp only [List.mem_cons, List.not_mem_nil, or_false] at isSign
      rcases isSign with rfl | rfl | rfl
      · simp [notBlank]
      · simp [isSpaceChar]
      · simp [isSpaceChar]
    obtain ⟨taken, negative⟩ := stoi_parts start isSign nonempty allDigits ends
    rw [taken, signed_eq_mul, negative]
    simp only [decide_eq_true_eq]
    exact ⟨by simpa using nonempty, trivial, range⟩

theorem inRange_eq_error {empty : Prop} [Decidable empty] {spelled : Int}
    {failure : Exception}
    (refused : (if empty then .error (.stdException "stoi")
      else if spelled < -2 ^ 31 ∨ 2 ^ 31 ≤ spelled then
        .error (.stdException "stoi")
      else return spelled : Result Int) = .error failure) :
    failure = .stdException "stoi" := by
  split_ifs at refused
  · cases refused
    rfl
  · cases refused
    rfl
  · cases refused

theorem stoi_eq_error {text : String} {failure : Exception} :
    stoi text = .error failure ↔
      (∀ number, ¬SpellsInt text number) ∧ failure = .stdException "stoi" := by
  have refusal : ∀ failure, stoi text = .error failure →
      failure = .stdException "stoi" := by
    intro failure refused
    unfold stoi at refused
    exact inRange_eq_error refused
  cases parsed : stoi text with
  | error other =>
      obtain rfl := refusal other parsed
      have none : ∀ number, ¬SpellsInt text number := by
        intro number spells
        cases parsed.symm.trans (stoi_eq_ok.mpr spells)
      simp [none, eq_comm]
  | ok number =>
      simp only [reduceCtorEq, false_iff, not_and]
      intro none
      exact (none number (stoi_eq_ok.mp parsed)).elim

def textsOf (option : String) (settings : List Setting) : List String :=
  settings.filterMap fun
    | .value other text => if other = option then some text else none
    | .switch _ => none

/-- An option is given numbers only, and the last of them counts. -/
def IntGiven (option : String) (argv : List String)
    (default number : Int) : Prop :=
  ∃ settings, argv = settings.flatMap Setting.words ∧
    (∀ text ∈ textsOf option settings, ∃ given, SpellsInt text given) ∧
    (textsOf option settings = [] → number = default) ∧
    ∀ text, (textsOf option settings).getLast? = some text →
      SpellsInt text number

/-- After some settings, an option is given a text that begins with no number in
the range of `int`. -/
def RefusesInt (loop : OptionLoop σ Exception) (option : String) (start : σ)
    (argv : List String) : Prop :=
  ∃ settings set text rest,
    argv = settings.flatMap Setting.words ++ option :: text :: rest ∧
    loop.applyAll settings start = some set ∧
    ∀ number, ¬SpellsInt text number

section NumberOptions

variable {options : List (String × OptionKind σ)}
  {fields : List (Field σ OptionValue)} {name : String} {read : σ → Int}
  {set : σ → Int → σ}

theorem spells_of_apply (distinct : (options.map Prod.fst).Nodup)
    (described : (optionLoop options).DescribedBy fields)
    (isField : numberField name read ∈ fields)
    (isOption : (name, .number set) ∈ options) {args changed : σ}
    {text : String}
    (applied : (optionLoop options).apply args (.value name text) =
      some changed) :
    SpellsInt text (read changed) := by
  obtain ⟨option, member, sets⟩ := (apply_eq_some_iff distinct).mp applied
  have reads := described.reads _ _ _ applied _ isField
  obtain ⟨other, kind⟩ := option
  have isNumber : ∀ {kind : OptionKind σ}, (name, kind) ∈ options →
      kind = .number set := by
    intro kind member
    have found := (lookup_eq_some_iff_mem distinct).mpr member
    rw [(lookup_eq_some_iff_mem distinct).mpr isOption] at found
    exact (Option.some.inj found).symm
  cases sets with
  | text _ _ change => cases isNumber member
  | @number _ _ number change _ parsed =>
      have isRead : read (change args number) = number := by
        simpa [numberField, parsed, Except.toOption] using reads
      rw [isRead]
      exact stoi_eq_ok.mp parsed

theorem intGiven_of_applyAll (distinct : (options.map Prod.fst).Nodup)
    (described : (optionLoop options).DescribedBy fields)
    (isField : numberField name read ∈ fields)
    (isOption : (name, .number set) ∈ options) {settings : List Setting}
    {start last : σ}
    (applied : (optionLoop options).applyAll settings start = some last) :
    (∀ text ∈ textsOf name settings, ∃ given, SpellsInt text given) ∧
    (textsOf name settings = [] → read last = read start) ∧
    ∀ text, (textsOf name settings).getLast? = some text →
      SpellsInt text (read last) := by
  induction settings generalizing start with
  | nil =>
      cases applied
      simp [textsOf]
  | cons setting settings ih =>
      rw [applyAll_cons, Option.bind_eq_some_iff] at applied
      obtain ⟨middle, here, later⟩ := applied
      obtain ⟨spelled, unchanged, counts⟩ := ih later
      by_cases given : ∃ text, setting = .value name text
      · obtain ⟨text, rfl⟩ := given
        have spells := spells_of_apply distinct described isField isOption here
        have split : textsOf name (.value name text :: settings) =
            text :: textsOf name settings := by
          simp [textsOf]
        rw [split]
        refine ⟨List.forall_mem_cons.mpr ⟨⟨_, spells⟩, spelled⟩, by simp, ?_⟩
        intro final isFinal
        cases rest : textsOf name settings with
        | nil =>
            rw [rest, List.getLast?_singleton, Option.some.injEq] at isFinal
            rw [unchanged rest, ← isFinal]
            exact spells
        | cons next others =>
            rw [rest, List.getLast?_cons_cons, ← rest] at isFinal
            exact counts final isFinal
      · have notGiven : (numberField name read).given setting = none ∧
            textsOf name (setting :: settings) = textsOf name settings := by
          cases setting with
          | value option text =>
              have isOther : option ≠ name := by
                rintro rfl
                exact given ⟨text, rfl⟩
              simp [numberField, textsOf, isOther]
          | switch option => exact ⟨rfl, rfl⟩
        have reads := described.reads _ _ _ here _ isField
        have same : read middle = read start := by
          rw [notGiven.1] at reads
          simpa [numberField] using reads
        rw [notGiven.2, ← same]
        exact ⟨spelled, unchanged, counts⟩

/-- The loop throws what is not its own exception when a number is refused. -/
theorem parse_eq_stdException (distinct : (options.map Prod.fst).Nodup)
    (isOption : (name, .number set) ∈ options)
    (only : ∀ other change, (other, .number change) ∈ options → other = name)
    {start : σ} {argv : List String} :
    (∃ what, (optionLoop options).parse argv start =
      .error (.stdException what)) ↔
        RefusesInt (optionLoop options) name start argv := by
  constructor
  · rintro ⟨what, refused⟩
    obtain ⟨settings, changed, rest, split, applied, ends⟩ :=
      parse_eq_iff.mp refused
    generalize isOutcome : (.error (.stdException what) :
      Result (Option σ)) = outcome at ends
    cases ends with
    | done => cases isOutcome
    | help => cases isOutcome
    | unknown => cases isOutcome
    | noValue => cases isOutcome
    | @refused word text rest change failure takes failed =>
        simp only [optionLoop, Option.map_eq_some_iff,
          lookup_eq_some_iff_mem distinct] at takes
        obtain ⟨kind, member, same⟩ := takes
        cases kind with
        | text _ =>
            cases same
            cases failed
        | flag _ => cases same
        | number _ =>
            cases same
            obtain rfl := only _ _ member
            refine ⟨settings, changed, text, rest, split, applied, ?_⟩
            cases parsed : stoi text with
            | ok number => simp [parsed] at failed
            | error other => exact (stoi_eq_error.mp parsed).1
  · rintro ⟨settings, changed, text, rest, split, applied, none⟩
    refine ⟨"stoi", parse_eq_iff.mpr ⟨settings, changed, _, split, applied, ?_⟩⟩
    have refused := stoi_eq_error.mpr ⟨none, rfl⟩
    have takes : (optionLoop options).effect name =
        some (OptionKind.number set).effect := by
      simp only [optionLoop, Option.map_eq_some_iff,
        lookup_eq_some_iff_mem distinct]
      exact ⟨_, isOption, rfl⟩
    exact .refused takes (by simp only [refused])

end NumberOptions

end TeeAnchor
