import Mathlib.Data.List.Basic

/-!
# Exact readers of a language of words

A reader takes a value off the front of a list or refuses it.  It is exact for
a relation between values and words when it accepts precisely the inputs that
start with a word of the relation, consumes that word and returns the value the
word encodes.  A recursive reader is bounded by the length of the words it has
fuel for, so exactness carries that bound.

Exactness is closed under sequencing and counted repetition, and it makes the
words of the relation prefix-free and their values unique.
-/

namespace TeeAnchor.ExactReaders

variable {ε β α γ : Type}

abbrev Reader (ε β : Type) := StateT (List β) (Except ε)

/-- The reader accepts exactly the words of the relation that have at most
`size` symbols. -/
structure ExactUpTo (size : Nat) (read : Reader ε β α)
    (Encodes : α → List β → Prop) : Prop where
  sound : ∀ {input value rest}, read.run input = .ok (value, rest) →
    ∃ word, Encodes value word ∧ input = word ++ rest
  complete : ∀ {value word} (rest), Encodes value word → word.length ≤ size →
    read.run (word ++ rest) = .ok (value, rest)

def repeatRead (read : Reader ε β α) : Nat → Reader ε β (List α)
  | 0 => pure []
  | count + 1 => do
      let value ← read
      let values ← repeatRead read count
      return value :: values

/-- The words of a sequence of values, written one after another. -/
def EncodesAll (Encodes : α → List β → Prop) (values : List α)
    (word : List β) : Prop :=
  ∃ parts : List (α × List β), (∀ part ∈ parts, Encodes part.1 part.2) ∧
    values = parts.map Prod.fst ∧ word = parts.flatMap Prod.snd

theorem encodesAll_nil {Encodes : α → List β → Prop} :
    EncodesAll Encodes [] [] :=
  ⟨[], by simp⟩

theorem EncodesAll.cons {Encodes : α → List β → Prop} {value : α}
    {values : List α} {word words : List β} (first : Encodes value word)
    (others : EncodesAll Encodes values words) :
    EncodesAll Encodes (value :: values) (word ++ words) := by
  obtain ⟨parts, encoded, rfl, rfl⟩ := others
  refine ⟨(value, word) :: parts, ?_, by simp, by simp⟩
  intro part partMem
  rcases List.mem_cons.mp partMem with rfl | tailMem
  · exact first
  · exact encoded part tailMem

theorem EncodesAll.split {Encodes : α → List β → Prop} {count : Nat}
    {values : List α} {words : List β}
    (encoded : EncodesAll Encodes values words)
    (length : values.length = count + 1) :
    ∃ value tail word tailWords, values = value :: tail ∧
      words = word ++ tailWords ∧ tail.length = count ∧
      Encodes value word ∧ EncodesAll Encodes tail tailWords := by
  obtain ⟨parts, each, rfl, rfl⟩ := encoded
  cases parts with
  | nil => simp at length
  | cons part parts =>
      refine ⟨part.1, parts.map Prod.fst, part.2, parts.flatMap Prod.snd,
        by simp, by simp, by simpa using length, each part (by simp), parts,
        ?_, rfl, rfl⟩
      intro other otherMem
      exact each other (by simp [otherMem])

namespace ExactUpTo

variable {size : Nat} {read : Reader ε β α} {Encodes : α → List β → Prop}

/-- Exactness only depends on the words a relation has. -/
theorem congr {Encodes' : α → List β → Prop}
    (exact : ExactUpTo size read Encodes)
    (same : ∀ value word, Encodes value word ↔ Encodes' value word) :
    ExactUpTo size read Encodes' := by
  constructor
  · intro input value rest ran
    obtain ⟨word, encoded, split⟩ := exact.sound ran
    exact ⟨word, (same value word).mp encoded, split⟩
  · intro value word rest encoded bounded
    exact exact.complete rest ((same value word).mpr encoded) bounded

theorem pure (value : α) :
    ExactUpTo size (Pure.pure value : Reader ε β α)
      (fun found word => found = value ∧ word = []) := by
  constructor
  · intro input found rest ran
    simp only [StateT.run_pure] at ran
    cases ran
    exact ⟨[], ⟨rfl, rfl⟩, rfl⟩
  · rintro found word rest ⟨rfl, rfl⟩ _
    rfl

/-- Reading one value and then another reads the words one after another. -/
theorem bind {next : α → Reader ε β γ} {EncodesNext : α → γ → List β → Prop}
    (first : ExactUpTo size read Encodes)
    (second : ∀ value, ExactUpTo size (next value) (EncodesNext value)) :
    ExactUpTo size (read >>= next) (fun result word =>
      ∃ value firstWord secondWord, Encodes value firstWord ∧
        EncodesNext value result secondWord ∧
        word = firstWord ++ secondWord) := by
  constructor
  · intro input result rest ran
    rw [StateT.run_bind] at ran
    cases firstRun : read.run input with
    | error failure => simp [firstRun, Bind.bind, Except.bind] at ran
    | ok outcome =>
        obtain ⟨value, middle⟩ := outcome
        simp only [firstRun, Bind.bind, Except.bind] at ran
        obtain ⟨firstWord, firstEncoded, rfl⟩ := first.sound firstRun
        obtain ⟨secondWord, secondEncoded, rfl⟩ := (second value).sound ran
        exact ⟨firstWord ++ secondWord,
          ⟨value, firstWord, secondWord, firstEncoded, secondEncoded, rfl⟩,
          by simp⟩
  · rintro result word rest
      ⟨value, firstWord, secondWord, firstEncoded, secondEncoded, rfl⟩ bounded
    rw [List.length_append] at bounded
    rw [StateT.run_bind, List.append_assoc,
      first.complete _ firstEncoded (by omega)]
    exact (second value).complete rest secondEncoded (by omega)

theorem map (function : α → γ) (exact : ExactUpTo size read Encodes) :
    ExactUpTo size (read >>= fun value => Pure.pure (function value))
      (fun result word => ∃ value, Encodes value word ∧
        result = function value) := by
  refine (exact.bind fun value => ExactUpTo.pure (function value)).congr ?_
  intro result word
  constructor
  · rintro ⟨value, first, last, encoded, ⟨rfl, rfl⟩, rfl⟩
    exact ⟨value, by simpa using encoded, rfl⟩
  · rintro ⟨value, encoded, rfl⟩
    exact ⟨value, word, [], encoded, ⟨rfl, rfl⟩, by simp⟩

/-- A reader that dispatches on its first symbol needs exactness of what
follows only for words one symbol shorter. -/
theorem cons {next : β → Reader ε β α} {EncodesNext : β → α → List β → Prop}
    (refusesEmpty : ∀ outcome, read.run [] ≠ .ok outcome)
    (dispatch : ∀ symbol input,
      read.run (symbol :: input) = (next symbol).run input)
    (following : ∀ symbol, ExactUpTo size (next symbol) (EncodesNext symbol)) :
    ExactUpTo (size + 1) read (fun value word => ∃ symbol rest,
      word = symbol :: rest ∧ EncodesNext symbol value rest) := by
  constructor
  · intro input value rest ran
    cases input with
    | nil => exact (refusesEmpty _ ran).elim
    | cons symbol input =>
        rw [dispatch] at ran
        obtain ⟨word, encoded, rfl⟩ := (following symbol).sound ran
        exact ⟨symbol :: word, ⟨symbol, word, rfl, encoded⟩, rfl⟩
  · rintro value word rest ⟨symbol, tail, rfl, encoded⟩ bounded
    rw [List.cons_append, dispatch]
    exact (following symbol).complete rest encoded (by simpa using bounded)

/-- Counted repetition of an exact reader is exact for sequences of that
length. -/
theorem repeatRead (exact : ExactUpTo size read Encodes) (count : Nat) :
    ExactUpTo size (repeatRead read count) (fun values word =>
      values.length = count ∧ EncodesAll Encodes values word) := by
  induction count with
  | zero =>
      refine (ExactUpTo.pure []).congr ?_
      intro values word
      constructor
      · rintro ⟨rfl, rfl⟩
        exact ⟨rfl, encodesAll_nil⟩
      · rintro ⟨length, parts, _, rfl, rfl⟩
        have empty : parts = [] := by simpa using length
        simp [empty]
  | succ count ih =>
      refine (exact.bind fun value => ih.bind fun values =>
        ExactUpTo.pure (value :: values)).congr ?_
      intro values word
      constructor
      · rintro ⟨value, first, others, firstEncoded,
          ⟨tail, tailWord, last, ⟨length, encoded⟩, ⟨rfl, rfl⟩, rfl⟩, rfl⟩
        rw [List.append_nil]
        exact ⟨by simp [length], EncodesAll.cons firstEncoded encoded⟩
      · rintro ⟨length, encoded⟩
        obtain ⟨value, tail, first, tailWord, rfl, rfl, tailLength, firstEncoded,
          tailEncoded⟩ := encoded.split length
        exact ⟨value, first, tailWord, firstEncoded,
          ⟨tail, tailWord, [], ⟨tailLength, tailEncoded⟩, ⟨rfl, rfl⟩,
            by simp⟩, rfl⟩

/-- An exact reader succeeds precisely on inputs that start with a word. -/
theorem run_eq_ok_iff (exact : ExactUpTo size read Encodes)
    {input : List β} (bounded : input.length ≤ size) {value : α}
    {rest : List β} :
    read.run input = .ok (value, rest) ↔
      ∃ word, Encodes value word ∧ input = word ++ rest := by
  constructor
  · exact exact.sound
  · rintro ⟨word, encoded, rfl⟩
    rw [List.length_append] at bounded
    exact exact.complete rest encoded (by omega)

/-- No input starts with two words: the words are prefix-free and each encodes
one value. -/
theorem word_unique (exact : ExactUpTo size read Encodes)
    {first second : α} {firstWord secondWord firstRest secondRest : List β}
    (firstEncoded : Encodes first firstWord)
    (secondEncoded : Encodes second secondWord)
    (bounded : (firstWord ++ firstRest).length ≤ size)
    (same : firstWord ++ firstRest = secondWord ++ secondRest) :
    first = second ∧ firstWord = secondWord := by
  have firstRun := (exact.run_eq_ok_iff bounded).mpr
    ⟨firstWord, firstEncoded, rfl⟩
  have secondRun := (exact.run_eq_ok_iff bounded).mpr
    ⟨secondWord, secondEncoded, same⟩
  rw [firstRun] at secondRun
  simp only [Except.ok.injEq, Prod.mk.injEq] at secondRun
  obtain ⟨valueEq, restEq⟩ := secondRun
  refine ⟨valueEq, ?_⟩
  rw [restEq] at same
  exact List.append_cancel_right same

end ExactUpTo

/-- On inputs shorter than `size` the reader either leaves a suffix no longer
than its input or fails in an allowed way. -/
def Controlled (size : Nat) (read : Reader ε β α) (Allowed : ε → Prop) : Prop :=
  ∀ input : List β, input.length < size →
    (∃ value rest, read.run input = .ok (value, rest) ∧
      rest.length ≤ input.length) ∨
    ∃ failure, read.run input = .error failure ∧ Allowed failure

namespace Controlled

variable {size : Nat} {read : Reader ε β α} {Allowed : ε → Prop}

theorem pure (value : α) :
    Controlled size (Pure.pure value : Reader ε β α) Allowed :=
  fun input _ => .inl ⟨value, input, rfl, Nat.le_refl _⟩

theorem throw {failure : ε} (allowed : Allowed failure) :
    Controlled size (MonadExcept.throw failure : Reader ε β α) Allowed :=
  fun _ _ => .inr ⟨failure, rfl, allowed⟩

theorem bind {next : α → Reader ε β γ} (first : Controlled size read Allowed)
    (second : ∀ value, Controlled size (next value) Allowed) :
    Controlled size (read >>= next) Allowed := by
  intro input short
  rw [StateT.run_bind]
  rcases first input short with ⟨value, rest, ran, shorter⟩ |
    ⟨failure, ran, allowed⟩
  · rw [ran]
    rcases second value rest (by omega) with ⟨result, last, ranNext, le⟩ |
      ⟨failure, ranNext, allowed⟩
    · exact .inl ⟨result, last, ranNext, by omega⟩
    · exact .inr ⟨failure, ranNext, allowed⟩
  · rw [ran]
    exact .inr ⟨failure, rfl, allowed⟩

theorem repeatRead (controlled : Controlled size read Allowed) (count : Nat) :
    Controlled size (ExactReaders.repeatRead read count) Allowed := by
  induction count with
  | zero => exact Controlled.pure []
  | succ count ih =>
      exact controlled.bind fun value => ih.bind fun values =>
        Controlled.pure (value :: values)

/-- A dispatch on the first symbol leaves the rest a shorter input. -/
theorem cons {next : β → Reader ε β α}
    (onEmpty : ∃ failure, read.run [] = .error failure ∧ Allowed failure)
    (dispatch : ∀ symbol input,
      read.run (symbol :: input) = (next symbol).run input)
    (following : ∀ symbol, Controlled size (next symbol) Allowed) :
    Controlled (size + 1) read Allowed := by
  intro input short
  cases input with
  | nil => exact .inr onEmpty
  | cons symbol input =>
      rw [dispatch]
      rcases following symbol input (by simpa using short) with
        ⟨value, rest, ran, le⟩ | failed
      · exact .inl ⟨value, rest, ran, by simp; omega⟩
      · exact .inr failed

end Controlled

/-- Whatever the first reader reads, the second reads in the same way. -/
def Extends (read wider : Reader ε β α) : Prop :=
  ∀ input outcome, read.run input = .ok outcome → wider.run input = .ok outcome

namespace Extends

variable {read wider : Reader ε β α}

theorem refl (read : Reader ε β α) : Extends read read :=
  fun _ _ ran => ran

theorem bind {next widerNext : α → Reader ε β γ} (first : Extends read wider)
    (second : ∀ value, Extends (next value) (widerNext value)) :
    Extends (read >>= next) (wider >>= widerNext) := by
  intro input outcome ran
  rw [StateT.run_bind] at ran ⊢
  cases firstRun : read.run input with
  | error failure => simp [firstRun, Bind.bind, Except.bind] at ran
  | ok middle =>
      rw [firstRun] at ran
      rw [first input middle firstRun]
      exact second middle.1 middle.2 outcome ran

theorem repeatRead (widens : Extends read wider) (count : Nat) :
    Extends (ExactReaders.repeatRead read count)
      (ExactReaders.repeatRead wider count) := by
  induction count with
  | zero => exact refl _
  | succ count ih =>
      exact widens.bind fun value => ih.bind fun values => refl _

end Extends

end TeeAnchor.ExactReaders
