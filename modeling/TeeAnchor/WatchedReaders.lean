import TeeAnchor.ExactReaders

/-!
# Readers that are watched

A watched reader keeps its position in the input when it fails and leaves a
record of events, where a reader only gives its value and the rest.  A watched
reader follows a reader when it does the same on what its position leaves of
the input, moves forward and stays inside; events of a kind are charged to the
symbols it passes, and the events of a sequence or of a loop are those of the
steps that are taken.
-/

namespace TeeAnchor.WatchedReaders

open ExactReaders

/-- How a run ends: its value or failure, the position where it stops, and the
events on the way. -/
structure Outcome (ε σ α : Type) where
  result : Except ε α
  position : Nat
  events : List σ

def Watched (ε σ α : Type) := Nat → Outcome ε σ α

variable {ε σ β α γ : Type}

namespace Watched

def done (value : α) : Watched ε σ α :=
  fun position => ⟨.ok value, position, []⟩

def refuse (failure : ε) : Watched ε σ α :=
  fun position => ⟨.error failure, position, []⟩

def andThen (first : Watched ε σ α) (next : α → Watched ε σ γ) :
    Watched ε σ γ :=
  fun position =>
    match first position with
    | ⟨.ok value, middle, events⟩ =>
        ⟨(next value middle).result, (next value middle).position,
          events ++ (next value middle).events⟩
    | ⟨.error failure, middle, events⟩ => ⟨.error failure, middle, events⟩

instance : Monad (Watched ε σ) where
  pure := done
  bind := andThen

def repeated (read : Watched ε σ α) : Nat → Watched ε σ (List α)
  | 0 => pure []
  | count + 1 => do
      let value ← read
      let values ← repeated read count
      return value :: values

/-- Record where a reader started and where it stopped, however it ended. -/
def recording (event : Nat → Nat → σ) (read : Watched ε σ α) :
    Watched ε σ α :=
  fun position =>
    ⟨(read position).result, (read position).position,
      (read position).events ++ [event position (read position).position]⟩

theorem bind_of_ok {first : Watched ε σ α} {next : α → Watched ε σ γ}
    {position middle : Nat} {value : α} {events : List σ}
    (ran : first position = ⟨.ok value, middle, events⟩) :
    (first >>= next) position =
      ⟨(next value middle).result, (next value middle).position,
        events ++ (next value middle).events⟩ := by
  show andThen first next position = _
  rw [andThen, ran]

theorem bind_of_error {first : Watched ε σ α} {next : α → Watched ε σ γ}
    {position middle : Nat} {failure : ε} {events : List σ}
    (ran : first position = ⟨.error failure, middle, events⟩) :
    (first >>= next) position = ⟨.error failure, middle, events⟩ := by
  show andThen first next position = _
  rw [andThen, ran]

theorem bind_cases (first : Watched ε σ α) (next : α → Watched ε σ γ)
    (position : Nat) :
    (∃ failure middle events,
      first position = ⟨.error failure, middle, events⟩ ∧
        (first >>= next) position = ⟨.error failure, middle, events⟩) ∨
    ∃ value middle events, first position = ⟨.ok value, middle, events⟩ ∧
      (first >>= next) position =
        ⟨(next value middle).result, (next value middle).position,
          events ++ (next value middle).events⟩ := by
  rcases ran : first position with ⟨result, middle, events⟩
  cases result with
  | error failure => exact .inl ⟨failure, middle, events, rfl, bind_of_error ran⟩
  | ok value => exact .inr ⟨value, middle, events, rfl, bind_of_ok ran⟩

end Watched

open Watched

/-- From every position inside the input the watched reader does what the
reader does on the symbols from there on; it moves forward and stays inside. -/
structure Follows (input : List β) (watched : Watched ε σ α)
    (read : Reader ε β α) : Prop where
  forward : ∀ position, position ≤ (watched position).position
  inside : ∀ {position}, position ≤ input.length →
    (watched position).position ≤ input.length
  same : ∀ {position}, position ≤ input.length →
    read.run (input.drop position) = (watched position).result.map fun value =>
      (value, input.drop (watched position).position)

namespace Follows

variable {input : List β} {watched : Watched ε σ α} {read : Reader ε β α}

theorem pure (value : α) :
    Follows input (Pure.pure value : Watched ε σ α) (Pure.pure value) where
  forward _ := Nat.le_refl _
  inside bounded := bounded
  same _ := rfl

theorem refuse (failure : ε) :
    Follows input (Watched.refuse failure : Watched ε σ α) (throw failure) where
  forward _ := Nat.le_refl _
  inside bounded := bounded
  same _ := rfl

theorem bind {next : α → Watched ε σ γ} {readNext : α → Reader ε β γ}
    (first : Follows input watched read)
    (second : ∀ value, Follows input (next value) (readNext value)) :
    Follows input (watched >>= next) (read >>= readNext) := by
  constructor
  · intro position
    have moved := first.forward position
    rcases bind_cases watched next position with
      ⟨failure, middle, events, ran, whole⟩ |
      ⟨value, middle, events, ran, whole⟩
    · rw [ran] at moved
      rwa [whole]
    · rw [ran] at moved
      rw [whole]
      exact Nat.le_trans moved ((second value).forward middle)
  · intro position bounded
    have kept := first.inside bounded
    rcases bind_cases watched next position with
      ⟨failure, middle, events, ran, whole⟩ |
      ⟨value, middle, events, ran, whole⟩
    · rw [ran] at kept
      rwa [whole]
    · rw [ran] at kept
      rw [whole]
      exact (second value).inside kept
  · intro position bounded
    have kept := first.inside bounded
    rw [StateT.run_bind, first.same bounded]
    rcases bind_cases watched next position with
      ⟨failure, middle, events, ran, whole⟩ |
      ⟨value, middle, events, ran, whole⟩
    · rw [ran, whole]
      rfl
    · rw [ran] at kept ⊢
      rw [whole]
      exact (second value).same kept

theorem repeated (follows : Follows input watched read) (count : Nat) :
    Follows input (Watched.repeated watched count) (repeatRead read count) := by
  induction count with
  | zero => exact pure []
  | succ count ih =>
      exact follows.bind fun value => ih.bind fun values =>
        pure (value :: values)

theorem recording (follows : Follows input watched read)
    (event : Nat → Nat → σ) :
    Follows input (Watched.recording event watched) read where
  forward := follows.forward
  inside := follows.inside
  same := follows.same

/-- What the watched reader reads, the reader reads. -/
theorem run_eq_ok (follows : Follows input watched read) {position : Nat}
    (bounded : position ≤ input.length) {value : α}
    (ran : (watched position).result = .ok value) :
    read.run (input.drop position) =
      .ok (value, input.drop (watched position).position) := by
  rw [follows.same bounded, ran]
  rfl

/-- What the reader reads, the watched reader reads, and it stops in front of
the rest. -/
theorem eq_ok_of_run (follows : Follows input watched read) {position : Nat}
    (bounded : position ≤ input.length) {value : α} {rest : List β}
    (ran : read.run (input.drop position) = .ok (value, rest)) :
    (watched position).result = .ok value ∧
      input.drop (watched position).position = rest := by
  rw [follows.same bounded] at ran
  cases result : (watched position).result with
  | error failure =>
      rw [result] at ran
      cases ran
  | ok found =>
      rw [result] at ran
      simp only [Except.map, Except.ok.injEq, Prod.mk.injEq] at ran
      exact ⟨congrArg Except.ok ran.1, ran.2⟩

/-- A reader that an exact reader extends takes a word off the input. -/
theorem sound {size : Nat} {wider : Reader ε β α}
    {Encodes : α → List β → Prop} (follows : Follows input watched read)
    (widens : Extends read wider) (exact : ExactUpTo size wider Encodes)
    {position : Nat} (bounded : position ≤ input.length) {value : α}
    (ran : (watched position).result = .ok value) :
    ∃ word, Encodes value word ∧
      input.drop position = word ++ input.drop (watched position).position :=
  exact.sound (widens _ _ (follows.run_eq_ok bounded ran))

/-- An exact reader reads the word that stands at its position. -/
theorem complete {size : Nat} {Encodes : α → List β → Prop}
    (follows : Follows input watched read) (exact : ExactUpTo size read Encodes)
    {position : Nat} (bounded : position ≤ input.length) {value : α}
    {word rest : List β} (encoded : Encodes value word)
    (split : input.drop position = word ++ rest) (short : word.length ≤ size) :
    (watched position).result = .ok value ∧
      input.drop (watched position).position = rest := by
  apply follows.eq_ok_of_run bounded
  rw [split]
  exact exact.complete rest encoded short

end Follows

def AgreeFrom (start : Nat) (first second : Watched ε σ α) : Prop :=
  ∀ position, start ≤ position → first position = second position

namespace AgreeFrom

variable {start : Nat} {first second : Watched ε σ α}

theorem refl (read : Watched ε σ α) : AgreeFrom start read read :=
  fun _ _ => rfl

theorem bind {next next' : α → Watched ε σ γ}
    (agree : AgreeFrom start first second)
    (forward : ∀ position, position ≤ (first position).position)
    (after : ∀ value, AgreeFrom start (next value) (next' value)) :
    AgreeFrom start (first >>= next) (second >>= next') := by
  intro position later
  have moved := forward position
  have ranSame := agree position later
  rcases bind_cases first next position with
    ⟨failure, middle, events, ran, whole⟩ | ⟨value, middle, events, ran, whole⟩
  · rw [ran] at ranSame
    rw [whole, bind_of_error ranSame.symm]
  · rw [ran] at ranSame moved
    rw [whole, bind_of_ok ranSame.symm,
      after value middle (Nat.le_trans later moved)]

/-- What goes on in the same way needs no position to go on from. -/
theorem bindSame (agree : AgreeFrom start first second)
    (next : α → Watched ε σ γ) :
    AgreeFrom start (first >>= next) (second >>= next) := by
  intro position later
  have ranSame := agree position later
  rcases bind_cases first next position with
    ⟨failure, middle, events, ran, whole⟩ | ⟨value, middle, events, ran, whole⟩
  · rw [ran] at ranSame
    rw [whole, bind_of_error ranSame.symm]
  · rw [ran] at ranSame
    rw [whole, bind_of_ok ranSame.symm]

theorem repeated (agree : AgreeFrom start first second)
    (forward : ∀ position, position ≤ (first position).position)
    (count : Nat) :
    AgreeFrom start (Watched.repeated first count)
      (Watched.repeated second count) := by
  induction count with
  | zero => exact refl _
  | succ count ih =>
      exact agree.bind forward fun value => ih.bindSame _

end AgreeFrom

/-- Where the first reader records allowed events only, the second runs in the
same way. -/
def AgreeWhere (Allowed : σ → Prop) (first second : Watched ε σ α) : Prop :=
  ∀ position, (∀ event ∈ (first position).events, Allowed event) →
    first position = second position

namespace AgreeWhere

variable {Allowed : σ → Prop} {first second : Watched ε σ α}

theorem refl (read : Watched ε σ α) : AgreeWhere Allowed read read :=
  fun _ _ => rfl

theorem bind {next next' : α → Watched ε σ γ}
    (agree : AgreeWhere Allowed first second)
    (after : ∀ value, AgreeWhere Allowed (next value) (next' value)) :
    AgreeWhere Allowed (first >>= next) (second >>= next') := by
  intro position allowed
  have ranSame := agree position
  rcases bind_cases first next position with
    ⟨failure, middle, events, ran, whole⟩ | ⟨value, middle, events, ran, whole⟩
  · rw [ran] at ranSame
    rw [whole] at allowed ⊢
    rw [bind_of_error (ranSame allowed).symm]
  · rw [ran] at ranSame
    rw [whole] at allowed ⊢
    have firstAllowed : ∀ event ∈ events, Allowed event := fun event occurs =>
      allowed event (List.mem_append_left _ occurs)
    rw [bind_of_ok (ranSame firstAllowed).symm,
      after value middle fun event occurs =>
        allowed event (List.mem_append_right _ occurs)]

theorem repeated (agree : AgreeWhere Allowed first second) (count : Nat) :
    AgreeWhere Allowed (Watched.repeated first count)
      (Watched.repeated second count) := by
  induction count with
  | zero => exact refl _
  | succ count ih =>
      exact agree.bind fun value => ih.bind fun values => refl _

theorem recording (agree : AgreeWhere Allowed first second)
    (event : Nat → Nat → σ) :
    AgreeWhere Allowed (Watched.recording event first)
      (Watched.recording event second) := by
  intro position allowed
  have same := agree position fun inner occurs =>
    allowed inner (List.mem_append_left _ occurs)
  rw [Watched.recording, Watched.recording, same]

end AgreeWhere

/-- A run has no more events of a kind than it passes symbols, and one more when
it fails. -/
structure Charged (kind : σ → Bool) (watched : Watched ε σ α) : Prop where
  onValue : ∀ {position value stop events},
    watched position = ⟨.ok value, stop, events⟩ →
      position + events.countP kind ≤ stop
  onFailure : ∀ {position failure stop events},
    watched position = ⟨.error failure, stop, events⟩ →
      position + events.countP kind ≤ stop + 1

namespace Charged

variable {kind : σ → Bool} {watched : Watched ε σ α}

theorem pure (value : α) :
    Charged kind (Pure.pure value : Watched ε σ α) := by
  constructor
  · intro position found stop events ran
    cases ran
    simp
  · intro position failure stop events ran
    cases ran

theorem refuse (failure : ε) :
    Charged kind (Watched.refuse failure : Watched ε σ α) := by
  constructor
  · intro position value stop events ran
    cases ran
  · intro position found stop events ran
    cases ran
    simp

theorem bind {next : α → Watched ε σ γ} (first : Charged kind watched)
    (second : ∀ value, Charged kind (next value)) :
    Charged kind (watched >>= next) := by
  constructor
  · intro position result stop events ran
    rcases bind_cases watched next position with
      ⟨failure, middle, earlier, firstRan, whole⟩ |
      ⟨value, middle, earlier, firstRan, whole⟩
    · rw [whole] at ran
      cases ran
    · have paid := first.onValue firstRan
      rw [whole, Outcome.mk.injEq] at ran
      obtain ⟨resultEq, stopEq, rfl⟩ := ran
      have paidAfter := (second value).onValue
        (show next value middle = ⟨.ok result, stop, _⟩ by
          rw [← resultEq, ← stopEq])
      rw [List.countP_append]
      omega
  · intro position found stop events ran
    rcases bind_cases watched next position with
      ⟨failure, middle, earlier, firstRan, whole⟩ |
      ⟨value, middle, earlier, firstRan, whole⟩
    · rw [whole] at ran
      cases ran
      exact first.onFailure firstRan
    · have paid := first.onValue firstRan
      rw [whole, Outcome.mk.injEq] at ran
      obtain ⟨resultEq, stopEq, rfl⟩ := ran
      have paidAfter := (second value).onFailure
        (show next value middle = ⟨.error found, stop, _⟩ by
          rw [← resultEq, ← stopEq])
      rw [List.countP_append]
      omega

theorem repeated (charged : Charged kind watched) (count : Nat) :
    Charged kind (Watched.repeated watched count) := by
  induction count with
  | zero => exact pure []
  | succ count ih =>
      exact charged.bind fun value => ih.bind fun values =>
        pure (value :: values)

end Charged

@[simp]
theorem events_pure (value : α) (position : Nat) :
    ((pure value : Watched ε σ α) position).events = [] :=
  rfl

theorem mem_events_bind {first : Watched ε σ α} {next : α → Watched ε σ γ}
    {position : Nat} {event : σ} :
    event ∈ ((first >>= next) position).events ↔
      event ∈ (first position).events ∨
        ∃ value, (first position).result = .ok value ∧
          event ∈ (next value (first position).position).events := by
  rcases bind_cases first next position with
    ⟨failure, middle, events, ran, whole⟩ | ⟨value, middle, events, ran, whole⟩
  · simp [ran, whole]
  · simp [ran, whole]

/-- A loop whose first round reads a value goes on as the loop of the other
rounds. -/
theorem repeated_succ {read : Watched ε σ α} {position : Nat} {value : α}
    (result : (read position).result = .ok value) (round : Nat) :
    (repeated read (round + 1) position).result =
        (repeated read round (read position).position).result.map
          (value :: ·) ∧
      (repeated read (round + 1) position).position =
        (repeated read round (read position).position).position := by
  rcases ran : read position with ⟨found, middle, events⟩
  rw [ran] at result
  obtain rfl : found = .ok value := result
  rw [repeated, bind_of_ok ran]
  rcases bind_cases (repeated read round)
    (fun values => pure (value :: values)) middle with
    ⟨failure, stop, earlier, tailRan, whole⟩ |
    ⟨values, stop, earlier, tailRan, whole⟩
  · rw [whole, tailRan]
    exact ⟨rfl, rfl⟩
  · rw [whole, tailRan]
    exact ⟨rfl, rfl⟩

theorem mem_events_repeated {read : Watched ε σ α} {count position : Nat}
    {event : σ} :
    event ∈ (repeated read count position).events ↔
      ∃ round values, round < count ∧
        (repeated read round position).result = .ok values ∧
        event ∈ (read (repeated read round position).position).events := by
  induction count generalizing position with
  | zero => simp [repeated]
  | succ count ih =>
      rw [repeated, mem_events_bind]
      constructor
      · rintro (first | ⟨value, result, after⟩)
        · exact ⟨0, [], by omega, rfl, first⟩
        · rcases mem_events_bind.mp after with later | ⟨values, _, none⟩
          · obtain ⟨round, values, below, earlier, occurs⟩ := ih.mp later
            obtain ⟨resultEq, positionEq⟩ := repeated_succ result round
            refine ⟨round + 1, value :: values, by omega, ?_, ?_⟩
            · rw [resultEq, earlier]
              rfl
            · rwa [positionEq]
          · simp at none
      · rintro ⟨round, values, below, earlier, occurs⟩
        cases round with
        | zero => exact .inl occurs
        | succ round =>
            cases result : (read position).result with
            | error failure =>
                have ran : read position = ⟨.error failure,
                    (read position).position, (read position).events⟩ := by
                  rw [← result]
                rw [repeated, bind_of_error ran] at earlier
                cases earlier
            | ok value =>
                obtain ⟨resultEq, positionEq⟩ := repeated_succ result round
                rw [resultEq] at earlier
                rw [positionEq] at occurs
                refine .inr ⟨value, rfl, mem_events_bind.mpr (.inl ?_)⟩
                cases tail :
                    (repeated read round (read position).position).result with
                | error failure =>
                    rw [tail] at earlier
                    cases earlier
                | ok others =>
                    exact ih.mpr ⟨round, others, by omega, tail, occurs⟩

end TeeAnchor.WatchedReaders
