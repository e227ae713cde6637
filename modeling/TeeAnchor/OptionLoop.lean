import Mathlib.Data.List.Basic

/-!
# Option loops

A command takes its arguments from left to right.  An option either takes the
argument behind it as its value or stands alone as a switch, and a word that
asks for help ends the loop.  A command line is therefore a list of settings
with an end, and the settings it leaves are the last ones given for each field.
-/

namespace TeeAnchor

/-- What an option does to what was set so far. -/
inductive OptionEffect (σ ε : Type)
  | value (set : σ → String → Except ε σ)
  | switch (set : σ → σ)

/-- The options of a command, and what it throws for arguments it does not
take. -/
structure OptionLoop (σ ε : Type) where
  effect : String → Option (OptionEffect σ ε)
  asksHelp : String → Bool
  noValue : String → ε
  unknown : String → ε

inductive Setting
  | value (option text : String)
  | switch (option : String)
  deriving DecidableEq, Repr

def Setting.words : Setting → List String
  | .value option text => [option, text]
  | .switch option => [option]

namespace OptionLoop

variable {σ ε α : Type} (loop : OptionLoop σ ε)

/-- The loop ends without a result when help is asked for. -/
def parse : List String → σ → Except ε (Option σ)
  | [], set => .ok (some set)
  | word :: rest, set =>
      match loop.effect word with
      | some (.switch change) => parse rest (change set)
      | some (.value change) =>
          match rest with
          | [] => .error (loop.noValue word)
          | text :: rest =>
              match change set text with
              | .error failure => .error failure
              | .ok changed => parse rest changed
      | none =>
          if loop.asksHelp word then .ok none
          else .error (loop.unknown word)

/-- What one setting makes of what was set, none when it is refused. -/
def apply (set : σ) : Setting → Option σ
  | .value option text =>
      match loop.effect option with
      | some (.value change) => (change set text).toOption
      | _ => none
  | .switch option =>
      match loop.effect option with
      | some (.switch change) => some (change set)
      | _ => none

def applyAll (settings : List Setting) (set : σ) : Option σ :=
  settings.foldlM loop.apply set

/-- How the loop ends at the first argument that begins no setting. -/
inductive Ends (set : σ) : List String → Except ε (Option σ) → Prop
  | done : Ends set [] (.ok (some set))
  | help {word : String} {rest : List String} :
      loop.effect word = none → loop.asksHelp word = true →
      Ends set (word :: rest) (.ok none)
  | unknown {word : String} {rest : List String} :
      loop.effect word = none → loop.asksHelp word = false →
      Ends set (word :: rest) (.error (loop.unknown word))
  | noValue {word : String} {change : σ → String → Except ε σ} :
      loop.effect word = some (.value change) →
      Ends set [word] (.error (loop.noValue word))
  | refused {word text : String} {rest : List String}
      {change : σ → String → Except ε σ} {failure : ε} :
      loop.effect word = some (.value change) →
      change set text = .error failure →
      Ends set (word :: text :: rest) (.error failure)

variable {loop}

theorem Ends.parse_eq {set : σ} {rest : List String}
    {outcome : Except ε (Option σ)} (ends : loop.Ends set rest outcome) :
    loop.parse rest set = outcome := by
  cases ends with
  | done => rfl
  | help none asks => simp [parse, none, asks]
  | unknown none asks => simp [parse, none, asks]
  | noValue takes => simp [parse, takes]
  | refused takes failed => simp [parse, takes, failed]

theorem apply_value {set changed : σ} {option text : String} :
    loop.apply set (.value option text) = some changed ↔
      ∃ change, loop.effect option = some (.value change) ∧
        change set text = .ok changed := by
  simp only [apply]
  split
  · rename_i change takes
    cases outcome : change set text with
    | error failure => simp [takes, outcome, Except.toOption]
    | ok value => simp [takes, outcome, Except.toOption]
  · rename_i other
    simp only [reduceCtorEq, false_iff, not_exists, not_and]
    intro change takes
    exact (other change takes).elim

theorem apply_switch {set changed : σ} {option : String} :
    loop.apply set (.switch option) = some changed ↔
      ∃ change, loop.effect option = some (.switch change) ∧
        change set = changed := by
  simp only [apply]
  split
  · rename_i change takes
    simp [takes]
  · rename_i other
    simp only [reduceCtorEq, false_iff, not_exists, not_and]
    intro change takes
    exact (other change takes).elim

theorem parse_words_append {set changed : σ} {setting : Setting}
    (applied : loop.apply set setting = some changed) (rest : List String) :
    loop.parse (setting.words ++ rest) set = loop.parse rest changed := by
  cases setting with
  | value option text =>
      obtain ⟨change, takes, accepted⟩ := apply_value.mp applied
      simp only [Setting.words, List.cons_append, List.nil_append, parse,
        takes, accepted]
  | switch option =>
      obtain ⟨change, takes, rfl⟩ := apply_switch.mp applied
      simp only [Setting.words, List.cons_append, List.nil_append, parse,
        takes]

theorem applyAll_cons (setting : Setting) (settings : List Setting) (set : σ) :
    loop.applyAll (setting :: settings) set =
      (loop.apply set setting).bind fun changed =>
        loop.applyAll settings changed :=
  rfl

theorem parse_flatMap_append {settings : List Setting} {set changed : σ}
    (applied : loop.applyAll settings set = some changed)
    (rest : List String) :
    loop.parse (settings.flatMap Setting.words ++ rest) set =
      loop.parse rest changed := by
  induction settings generalizing set with
  | nil =>
      cases applied
      rfl
  | cons setting settings ih =>
      rw [applyAll_cons, Option.bind_eq_some_iff] at applied
      obtain ⟨middle, here, later⟩ := applied
      rw [List.flatMap_cons, List.append_assoc, parse_words_append here,
        ih later]

/-- The loop runs through some settings and then ends. -/
theorem exists_settings (argv : List String) (set : σ) :
    ∃ settings changed rest, argv = settings.flatMap Setting.words ++ rest ∧
      loop.applyAll settings set = some changed ∧
      loop.Ends changed rest (loop.parse argv set) := by
  have extend : ∀ {argv : List String} {set changed : σ} {setting : Setting},
      loop.apply set setting = some changed →
      (∃ settings last rest, argv = settings.flatMap Setting.words ++ rest ∧
        loop.applyAll settings changed = some last ∧
        loop.Ends last rest (loop.parse argv changed)) →
      ∃ settings last rest,
        setting.words ++ argv = settings.flatMap Setting.words ++ rest ∧
        loop.applyAll settings set = some last ∧
        loop.Ends last rest (loop.parse (setting.words ++ argv) set) := by
    rintro argv set changed setting here
      ⟨settings, last, rest, rfl, later, ends⟩
    refine ⟨setting :: settings, last, rest, ?_, ?_, ?_⟩
    · rw [List.flatMap_cons, List.append_assoc]
    · rw [applyAll_cons, here]
      exact later
    · rw [parse_words_append here]
      exact ends
  induction argv, set using parse.induct loop with
  | case1 set => exact ⟨[], set, [], rfl, rfl, .done⟩
  | case2 word rest set change takes ih =>
      exact extend (apply_switch.mpr ⟨change, takes, rfl⟩) ih
  | case3 word set change takes =>
      refine ⟨[], set, [word], rfl, rfl, ?_⟩
      rw [(Ends.noValue takes).parse_eq]
      exact .noValue takes
  | case4 word set change takes text rest failure failed =>
      refine ⟨[], set, word :: text :: rest, rfl, rfl, ?_⟩
      rw [(Ends.refused takes failed).parse_eq]
      exact .refused takes failed
  | case5 word set change takes text rest changed accepted ih =>
      exact extend (apply_value.mpr ⟨change, takes, accepted⟩) ih
  | case6 word rest set none asks =>
      refine ⟨[], set, word :: rest, rfl, rfl, ?_⟩
      rw [(Ends.help none asks).parse_eq]
      exact .help none asks
  | case7 word rest set none asks =>
      have notAsked : loop.asksHelp word = false := by simpa using asks
      refine ⟨[], set, word :: rest, rfl, rfl, ?_⟩
      rw [(Ends.unknown none notAsked).parse_eq]
      exact .unknown none notAsked

/-- The outcome of the loop is that of its end after the settings before. -/
theorem parse_eq_iff {argv : List String} {set : σ}
    {outcome : Except ε (Option σ)} :
    loop.parse argv set = outcome ↔
      ∃ settings changed rest, argv = settings.flatMap Setting.words ++ rest ∧
        loop.applyAll settings set = some changed ∧
        loop.Ends changed rest outcome := by
  constructor
  · rintro rfl
    exact exists_settings argv set
  · rintro ⟨settings, changed, rest, rfl, applied, ends⟩
    rw [parse_flatMap_append applied, ends.parse_eq]

/-- The loop gives a result exactly when the arguments are the words of
settings. -/
theorem parse_eq_some_iff {argv : List String} {set last : σ} :
    loop.parse argv set = .ok (some last) ↔
      ∃ settings, argv = settings.flatMap Setting.words ∧
        loop.applyAll settings set = some last := by
  rw [parse_eq_iff]
  constructor
  · rintro ⟨settings, changed, rest, rfl, applied, ends⟩
    cases ends
    exact ⟨settings, List.append_nil _, applied⟩
  · rintro ⟨settings, rfl, applied⟩
    exact ⟨settings, last, [], (List.append_nil _).symm, applied, .done⟩

/-- A field and what a setting says of it. -/
structure Field (σ α : Type) where
  read : σ → α
  given : Setting → Option α

/-- What the settings leave in a field that held this before. -/
def Field.last (field : Field σ α) (settings : List Setting) (before : α) : α :=
  (settings.filterMap field.given).getLast?.getD before

/-- The fields tell which settings are taken and what they change. -/
structure DescribedBy (loop : OptionLoop σ ε) (fields : List (Field σ α)) :
    Prop where
  taken : ∀ set setting, (∃ changed, loop.apply set setting = some changed) ↔
    ∃ field ∈ fields, (field.given setting).isSome
  reads : ∀ set changed setting, loop.apply set setting = some changed →
    ∀ field ∈ fields,
      field.read changed = (field.given setting).getD (field.read set)
  ext : ∀ set set', (∀ field ∈ fields, field.read set = field.read set') →
    set = set'

variable {fields : List (Field σ α)}

theorem Field.last_cons (field : Field σ α) (setting : Setting)
    (settings : List Setting) (before : α) :
    field.last (setting :: settings) before =
      field.last settings ((field.given setting).getD before) := by
  unfold Field.last
  cases given : field.given setting with
  | none => rw [List.filterMap_cons_none given, Option.getD_none]
  | some value =>
      rw [List.filterMap_cons_some given, Option.getD_some]
      cases settings.filterMap field.given with
      | nil => rfl
      | cons next values =>
          rw [List.getLast?_cons_cons, List.getLast?_cons]
          rfl

theorem DescribedBy.read_applyAll (described : loop.DescribedBy fields)
    {settings : List Setting} {set last : σ}
    (applied : loop.applyAll settings set = some last) {field : Field σ α}
    (isField : field ∈ fields) :
    field.read last = field.last settings (field.read set) := by
  induction settings generalizing set with
  | nil =>
      cases applied
      rfl
  | cons setting settings ih =>
      rw [applyAll_cons, Option.bind_eq_some_iff] at applied
      obtain ⟨middle, here, later⟩ := applied
      rw [ih later, field.last_cons, described.reads _ _ _ here field isField]

theorem DescribedBy.exists_applyAll_iff (described : loop.DescribedBy fields)
    {settings : List Setting} {set : σ} :
    (∃ last, loop.applyAll settings set = some last) ↔
      ∀ setting ∈ settings, ∃ field ∈ fields, (field.given setting).isSome := by
  induction settings generalizing set with
  | nil => exact iff_of_true ⟨set, rfl⟩ (by simp)
  | cons setting settings ih =>
      simp only [List.forall_mem_cons, applyAll_cons, Option.bind_eq_some_iff,
        ← described.taken set setting]
      constructor
      · rintro ⟨last, middle, here, later⟩
        exact ⟨⟨middle, here⟩, ih.mp ⟨last, later⟩⟩
      · rintro ⟨⟨middle, here⟩, later⟩
        obtain ⟨last, applied⟩ := (@ih middle).mpr later
        exact ⟨last, middle, here, applied⟩

/-- The result of a loop is the one that holds the last value given for each
field, when every setting is one of some field. -/
theorem DescribedBy.parse_eq_some_iff (described : loop.DescribedBy fields)
    {argv : List String} {set last : σ} :
    loop.parse argv set = .ok (some last) ↔
      ∃ settings, argv = settings.flatMap Setting.words ∧
        (∀ setting ∈ settings, ∃ field ∈ fields,
          (field.given setting).isSome) ∧
        ∀ field ∈ fields,
          field.read last = field.last settings (field.read set) := by
  rw [OptionLoop.parse_eq_some_iff]
  constructor
  · rintro ⟨settings, rfl, applied⟩
    exact ⟨settings, rfl, described.exists_applyAll_iff.mp ⟨last, applied⟩,
      fun field isField => described.read_applyAll applied isField⟩
  · rintro ⟨settings, rfl, taken, holds⟩
    obtain ⟨other, applied⟩ : ∃ other,
        loop.applyAll settings set = some other :=
      described.exists_applyAll_iff.mpr taken
    refine ⟨settings, rfl, ?_⟩
    rw [applied, described.ext other last fun field isField =>
      (described.read_applyAll applied isField).trans
        (holds field isField).symm]

end OptionLoop

end TeeAnchor
