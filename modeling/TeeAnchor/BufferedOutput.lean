import Mathlib.Data.List.Basic
import Mathlib.Data.List.TakeDrop

/-!
# Buffered output streams

A program hands its output to a stream in chunks.  The stream keeps some of it
in a buffer and pushes the rest to a device, which fails for good once it is
full.  A failed push makes the stream bad, and a bad stream takes no more.
Closing a stream pushes what is left in the buffer.

Whatever the stream keeps back, checking it before it is closed and looking at
the device afterwards shows no more than two numbers: how much was pushed when
the check was made, and how much the device takes.
-/

namespace TeeAnchor.BufferedOutput

variable {α : Type}

/-- What a device holds after it is handed the data. -/
def held (limit : Option Nat) (data : List α) : List α :=
  match limit with
  | none => data
  | some limit => data.take limit

def overflows (limit : Option Nat) (data : List α) : Bool :=
  match limit with
  | none => false
  | some limit => limit < data.length

structure Stream (α : Type) where
  delivered : List α
  pending : List α
  bad : Bool

def Stream.empty : Stream α :=
  ⟨[], [], false⟩

/-- Put one chunk.  The argument `kept` says how much stays in the buffer when
the chunk is added to what is pending. -/
def Stream.put (limit : Option Nat) (kept : List α → List α → Nat)
    (stream : Stream α) (chunk : List α) : Stream α :=
  if stream.bad then stream
  else
    let buffered := stream.pending ++ chunk
    let count := buffered.length - kept stream.pending chunk
    let pushed := stream.delivered ++ buffered.take count
    ⟨held limit pushed, buffered.drop count, overflows limit pushed⟩

def Stream.putAll (limit : Option Nat) (kept : List α → List α → Nat)
    (stream : Stream α) (chunks : List (List α)) : Stream α :=
  chunks.foldl (Stream.put limit kept) stream

/-- What the device holds once the stream is closed. -/
def Stream.close (limit : Option Nat) (stream : Stream α) : List α :=
  if stream.bad then stream.delivered
  else held limit (stream.delivered ++ stream.pending)

theorem held_eq_self {limit : Option Nat} {data : List α}
    (fits : overflows limit data = false) : held limit data = data := by
  cases limit with
  | none => rfl
  | some limit =>
      have short : data.length ≤ limit := by simpa [overflows] using fits
      exact List.take_of_length_le short

/-- A device that overflows holds the same whatever else follows. -/
theorem held_append {limit : Option Nat} {data rest : List α}
    (full : overflows limit data = true) :
    held limit (data ++ rest) = held limit data := by
  cases limit with
  | none => cases full
  | some limit =>
      have long : limit < data.length := by simpa [overflows] using full
      exact List.take_append_of_le_length (Nat.le_of_lt long)

/-- The stream after it was given all of the data: a bad one has delivered what
the device takes, and in any other nothing is lost yet. -/
structure Follows (limit : Option Nat) (stream : Stream α)
    (data : List α) : Prop where
  pushes : ∃ count ≤ data.length,
    stream.delivered = held limit (data.take count) ∧
      stream.bad = overflows limit (data.take count) ∧
      (stream.bad = false → stream.pending = data.drop count)

theorem follows_empty (limit : Option Nat) :
    Follows limit (Stream.empty : Stream α) [] := by
  refine ⟨0, Nat.le_refl 0, ?_, ?_, fun _ => rfl⟩
  · cases limit with
    | none => rfl
    | some limit => exact List.take_nil.symm
  · cases limit <;> rfl

theorem follows_put {limit : Option Nat} {stream : Stream α} {data : List α}
    (follows : Follows limit stream data)
    (kept : List α → List α → Nat) (chunk : List α) :
    Follows limit (stream.put limit kept chunk) (data ++ chunk) := by
  obtain ⟨count, within, delivered, bad, pending⟩ := follows.pushes
  unfold Stream.put
  by_cases isBad : stream.bad
  · -- What was pushed before is all that ever will be.
    rw [if_pos isBad]
    refine ⟨count, ?_, ?_, ?_, fun good => by simp [isBad] at good⟩
    · rw [List.length_append]
      omega
    · rw [List.take_append_of_le_length within]
      exact delivered
    · rw [List.take_append_of_le_length within]
      exact bad
  · rw [if_neg isBad]
    have isGood : stream.bad = false := by simpa using isBad
    have took : stream.delivered = data.take count := by
      rw [delivered]
      exact held_eq_self (bad ▸ isGood)
    set buffered := stream.pending ++ chunk with bufferedEq
    set more := buffered.length - kept stream.pending chunk
    have shape : data ++ chunk = data.take count ++ buffered := by
      rw [bufferedEq, pending isGood, ← List.append_assoc,
        List.take_append_drop]
    have countLength : (data.take count).length = count :=
      List.length_take_of_le within
    have pushed : stream.delivered ++ buffered.take more =
        (data ++ chunk).take (count + more) := by
      have joined : (data.take count ++ buffered).take
          ((data.take count).length + more) =
            data.take count ++ buffered.take more :=
        List.take_length_add_append more
      rw [took, shape, ← joined, countLength]
    refine ⟨count + more, ?_, ?_, ?_, fun _ => ?_⟩
    · have total := congrArg List.length shape
      rw [List.length_append, List.length_append, countLength] at total
      rw [List.length_append]
      omega
    · exact congrArg (held limit) pushed
    · exact congrArg (overflows limit) pushed
    · have joined : (data.take count ++ buffered).drop
          ((data.take count).length + more) = buffered.drop more :=
        List.drop_length_add_append more
      rw [countLength] at joined
      rw [shape]
      exact joined.symm

theorem follows_putAll {limit : Option Nat} {stream : Stream α}
    {data : List α} (follows : Follows limit stream data)
    (kept : List α → List α → Nat) (chunks : List (List α)) :
    Follows limit (stream.putAll limit kept chunks)
      (data ++ chunks.flatten) := by
  induction chunks generalizing stream data with
  | nil =>
      rw [List.flatten_nil, List.append_nil]
      exact follows
  | cons chunk chunks ih =>
      rw [List.flatten_cons, ← List.append_assoc]
      exact ih (follows_put follows kept chunk)

/-- Closing leaves on the device what it takes of all the data. -/
theorem Follows.close {limit : Option Nat} {stream : Stream α}
    {data : List α} (follows : Follows limit stream data) :
    stream.close limit = held limit data := by
  obtain ⟨count, _, delivered, bad, pending⟩ := follows.pushes
  unfold Stream.close
  by_cases isBad : stream.bad
  · rw [if_pos isBad, delivered]
    conv_rhs => rw [← List.take_append_drop count data]
    exact (held_append (bad ▸ isBad)).symm
  · have isGood : stream.bad = false := by simpa using isBad
    have took : stream.delivered = data.take count := by
      rw [delivered]
      exact held_eq_self (bad ▸ isGood)
    rw [if_neg isBad, took, pending isGood, List.take_append_drop]

/-- The two numbers that decide what a check of the stream and a look at the
device show. -/
theorem putAll_outcome (limit : Option Nat) (kept : List α → List α → Nat)
    (chunks : List (List α)) :
    ∃ pushed,
      (Stream.empty.putAll limit kept chunks).bad =
        overflows limit (chunks.flatten.take pushed) ∧
      (Stream.empty.putAll limit kept chunks).close limit =
        held limit chunks.flatten := by
  have follows := follows_putAll (follows_empty limit) kept chunks
  rw [List.nil_append] at follows
  obtain ⟨count, _, _, bad, _⟩ := follows.pushes
  exact ⟨count, bad, follows.close⟩

end TeeAnchor.BufferedOutput
