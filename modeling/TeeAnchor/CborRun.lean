import TeeAnchor.CborGrammar
import TeeAnchor.WatchedReaders

/-!
# Runs of the CBOR decoder

The decoder once more, with the position of its cursor in the input instead of
the bytes that are left, and with a record of its calls and reservations.  The
cursor is moved as the source moves it, so that staying inside the input is a
theorem here.  The run follows the decoder on lists of bytes, and the fuel it
is given does not matter as soon as it exceeds what is left of the input.
-/

namespace TeeAnchor.CborRun

open Cbor ExactReaders WatchedReaders

inductive Container
  | array
  | map
  deriving DecidableEq, Repr

def Container.elementSize : Container → Nat
  | .array => sizeofValue
  | .map => sizeofPair

def Container.itemsEach : Container → Nat
  | .array => 1
  | .map => 2

/-- A call of `readItem` with the calls around it and the cursor before and
after it, and a reservation with the cursor behind its count. -/
inductive Event
  | call (depth before after : Nat)
  | reserve (container : Container) (count position : Nat)
  deriving DecidableEq, Repr

abbrev Run := Watched Exception Event

def rb (input : Bytes) : Run UInt8 := fun position =>
  match input[position]? with
  | none =>
      Watched.refuse (.teeAnchorError "cbor: truncated input") position
  | some byte => ⟨.ok byte, position + 1, []⟩

def need (input : Bytes) (count : UInt64) : Run Unit := fun position =>
  if input.length - position < count.toNat then
    Watched.refuse (.teeAnchorError "cbor: truncated item") position
  else Watched.done () position

def readBe (input : Bytes) : Nat → UInt64 → Run UInt64
  | 0, value => return value
  | count + 1, value => do
      let byte ← rb input
      readBe input count ((value <<< 8) ||| byte.toUInt64)

def readLen (input : Bytes) (ai : UInt8) : Run UInt64 :=
  if ai < 24 then pure ai.toUInt64
  else if ai = 24 then readBe input 1 0
  else if ai = 25 then readBe input 2 0
  else if ai = 26 then readBe input 4 0
  else if ai = 27 then readBe input 8 0
  else Watched.refuse
    (.teeAnchorError "cbor: indefinite/reserved length not supported")

/-- Copy `count` bytes and move the cursor behind them, without a look at the
end of the input. -/
def takeBytes (input : Bytes) (count : UInt64) : Run Bytes := fun position =>
  ⟨.ok ((input.drop position).take count.toNat), position + count.toNat, []⟩

def reserve (storage : Storage) (container : Container) (count : UInt64) :
    Run Unit := fun position =>
  ⟨storage.reserve container.elementSize count.toNat, position,
    [.reserve container count.toNat position]⟩

def readPair (readItem : Run Value) : Run (Value × Value) := do
  let key ← readItem
  let value ← readItem
  return (key, value)

def readContents (input : Bytes) (storage : Storage) (readItem : Run Value)
    (mt : Nat) (ai : UInt8) : Run Value :=
  match mt with
  | 0 => return .uint (← readLen input ai)
  | 1 => return .nint (← readLen input ai)
  | 2 => do
      let n ← readLen input ai
      need input n
      return .bytes (← takeBytes input n)
  | 3 => do
      let n ← readLen input ai
      need input n
      return .text (← takeBytes input n)
  | 4 => do
      let n ← readLen input ai
      reserve storage .array n
      return .array (← Watched.repeated readItem n.toNat)
  | 5 => do
      let n ← readLen input ai
      reserve storage .map n
      return .map (← Watched.repeated (readPair readItem) n.toNat)
  | 6 => do
      let number ← readLen input ai
      return .tag number (← readItem)
  | 7 =>
      if ai = 24 then do return .simple (← rb input).toUInt64
      else if ai < 24 then return .simple ai.toUInt64
      else Watched.refuse (.teeAnchorError "cbor: float/break not supported")
  | _ => Watched.refuse (.teeAnchorError "cbor: invalid major type")

/-- A call of `readItem` inside `depth` others. -/
def readItem (input : Bytes) (storage : Storage) : (fuel depth : Nat) → Run Value
  | 0, depth => Watched.recording (Event.call depth)
      (Watched.refuse
        (.stdException "recursion deeper than the input is long"))
  | fuel + 1, depth => Watched.recording (Event.call depth) do
      let ib ← rb input
      readContents input storage (readItem input storage fuel (depth + 1))
        (ib >>> 5).toNat (ib &&& 0x1f)

/-- `Decoder::decode` of a whole input. -/
def decode (storage : Storage) (input : Bytes) :
    Outcome Exception Event Value :=
  readItem input storage (input.length + 1) 0 0

variable {input : Bytes}

theorem rb_cases (input : Bytes) (position : Nat) :
    (input.length ≤ position ∧ rb input position =
      ⟨.error (.teeAnchorError "cbor: truncated input"), position, []⟩) ∨
    ∃ byte, position < input.length ∧
      input.drop position = byte :: input.drop (position + 1) ∧
      rb input position = ⟨.ok byte, position + 1, []⟩ := by
  by_cases below : position < input.length
  · refine .inr ⟨input[position], below, List.drop_eq_getElem_cons below, ?_⟩
    rw [rb, List.getElem?_eq_getElem below]
  · refine .inl ⟨Nat.le_of_not_lt below, ?_⟩
    rw [rb, List.getElem?_eq_none (Nat.le_of_not_lt below)]
    rfl

theorem rb_follows : Follows input (rb input) Cbor.rb := by
  constructor
  · intro position
    rcases rb_cases input position with ⟨_, ran⟩ | ⟨byte, _, _, ran⟩
    · rw [ran]
    · rw [ran]
      exact Nat.le_succ position
  · intro position bounded
    rcases rb_cases input position with ⟨_, ran⟩ | ⟨byte, below, _, ran⟩
    · rwa [ran]
    · rw [ran]
      exact below
  · intro position bounded
    rcases rb_cases input position with ⟨ended, ran⟩ | ⟨byte, _, split, ran⟩
    · rw [ran, List.drop_eq_nil_of_le ended]
      rfl
    · rw [ran, split]
      rfl

theorem readBe_follows (count : Nat) (value : UInt64) :
    Follows input (readBe input count value) (Cbor.readBe count value) := by
  induction count generalizing value with
  | zero => exact Follows.pure value
  | succ count ih => exact rb_follows.bind fun byte => ih _

theorem readLen_follows (ai : UInt8) :
    Follows input (readLen input ai) (Cbor.readLen ai) := by
  unfold readLen Cbor.readLen
  split_ifs
  · exact Follows.pure _
  · exact readBe_follows 1 0
  · exact readBe_follows 2 0
  · exact readBe_follows 4 0
  · exact readBe_follows 8 0
  · exact Follows.refuse _

/-- Behind its check, the unchecked copy stays inside the input. -/
theorem readString_follows (wrap : Bytes → Value) (count : UInt64) :
    Follows input
      (do
        need input count
        return wrap (← takeBytes input count))
      (do
        Cbor.need count
        return wrap (← Cbor.takeBytes count)) := by
  have refused : ∀ {position}, input.length - position < count.toNat →
      (do
        need input count
        return wrap (← takeBytes input count) : Run Value) position =
        ⟨.error (.teeAnchorError "cbor: truncated item"), position, []⟩ := by
    intro position short
    apply Watched.bind_of_error
    rw [need, if_pos short]
    rfl
  have copied : ∀ {position}, ¬input.length - position < count.toNat →
      (do
        need input count
        return wrap (← takeBytes input count) : Run Value) position =
        ⟨.ok (wrap ((input.drop position).take count.toNat)),
          position + count.toNat, []⟩ := by
    intro position long
    have checked : need input count position = ⟨.ok (), position, []⟩ := by
      rw [need, if_neg long]
      rfl
    rw [Watched.bind_of_ok checked]
    rfl
  constructor
  · intro position
    by_cases short : input.length - position < count.toNat
    · rw [refused short]
    · rw [copied short]
      exact Nat.le_add_right _ _
  · intro position bounded
    by_cases short : input.length - position < count.toNat
    · rw [refused short]
      exact bounded
    · rw [copied short]
      show position + count.toNat ≤ input.length
      omega
  · intro position bounded
    by_cases short : input.length - position < count.toNat
    · have checked : (Cbor.need count).run (input.drop position) =
          .error (.teeAnchorError "cbor: truncated item") := by
        simp [Cbor.need, short]
        rfl
      rw [refused short, StateT.run_bind, checked]
      rfl
    · have checked : (Cbor.need count).run (input.drop position) =
          .ok ((), input.drop position) := by
        simp [Cbor.need, short]
        rfl
      rw [copied short, StateT.run_bind, checked]
      simp only [Except.map, ← List.drop_drop]
      rfl

theorem reserve_follows (storage : Storage) (container : Container)
    (count : UInt64) :
    Follows input (reserve storage container count)
      (liftM (storage.reserve container.elementSize count.toNat)) where
  forward position := Nat.le_refl _
  inside bounded := bounded
  same {position} _ := by
    rw [reserve]
    cases storage.reserve container.elementSize count.toNat with
    | error failure => rfl
    | ok granted => rfl

theorem readPair_follows {run : Run Value} {read : Decoder Value}
    (follows : Follows input run read) :
    Follows input (readPair run) (Cbor.readPair read) :=
  follows.bind fun key => follows.bind fun value => Follows.pure (key, value)

theorem readContents_follows (storage : Storage) {run : Run Value}
    {read : Decoder Value} (follows : Follows input run read) (mt : Nat)
    (ai : UInt8) :
    Follows input (readContents input storage run mt ai)
      (Cbor.readContents storage read mt ai) := by
  match mt with
  | 0 => exact (readLen_follows ai).bind fun _ => Follows.pure _
  | 1 => exact (readLen_follows ai).bind fun _ => Follows.pure _
  | 2 => exact (readLen_follows ai).bind fun n => readString_follows .bytes n
  | 3 => exact (readLen_follows ai).bind fun n => readString_follows .text n
  | 4 =>
      exact (readLen_follows ai).bind fun n =>
        (reserve_follows storage .array n).bind fun _ =>
          (follows.repeated n.toNat).bind fun _ => Follows.pure _
  | 5 =>
      exact (readLen_follows ai).bind fun n =>
        (reserve_follows storage .map n).bind fun _ =>
          ((readPair_follows follows).repeated n.toNat).bind fun _ =>
            Follows.pure _
  | 6 =>
      exact (readLen_follows ai).bind fun number =>
        follows.bind fun _ => Follows.pure _
  | 7 =>
      unfold readContents Cbor.readContents
      split_ifs
      · exact rb_follows.bind fun _ => Follows.pure _
      · exact Follows.pure _
      · exact Follows.refuse _
  | _ + 8 => exact Follows.refuse _

theorem readItem_follows (storage : Storage) (fuel depth : Nat) :
    Follows input (readItem input storage fuel depth)
      (Cbor.readItem storage fuel) := by
  induction fuel generalizing depth with
  | zero => exact (Follows.refuse _).recording _
  | succ fuel ih =>
      exact (rb_follows.bind fun ib =>
        readContents_follows storage (ih (depth + 1)) _ _).recording _

/-- The run of a whole input ends as the decoder does. -/
theorem decode_result (storage : Storage) (input : Bytes) :
    (decode storage input).result = Cbor.decode storage input := by
  have same := (readItem_follows storage (input.length + 1) 0).same
    (Nat.zero_le input.length)
  rw [List.drop_zero] at same
  rw [Cbor.decode, decodePrefix, same, decode]
  cases (readItem input storage (input.length + 1) 0 0).result with
  | error failure => rfl
  | ok value => rfl

/-- What a call does: it fails at the end of the input, or it reads an initial
byte and the contents behind it. -/
theorem readItem_cases (input : Bytes) (storage : Storage)
    (fuel depth position : Nat) :
    (input.length ≤ position ∧
      readItem input storage (fuel + 1) depth position =
        ⟨.error (.teeAnchorError "cbor: truncated input"), position,
          [.call depth position position]⟩) ∨
    ∃ ib outcome, position < input.length ∧
      input.drop position = ib :: input.drop (position + 1) ∧
      readContents input storage (readItem input storage fuel (depth + 1))
        (ib >>> 5).toNat (ib &&& 0x1f) (position + 1) = outcome ∧
      readItem input storage (fuel + 1) depth position =
        ⟨outcome.result, outcome.position,
          outcome.events ++ [.call depth position outcome.position]⟩ := by
  rw [readItem, Watched.recording]
  rcases rb_cases input position with ⟨ended, ran⟩ | ⟨ib, below, split, ran⟩
  · refine .inl ⟨ended, ?_⟩
    rw [Watched.bind_of_error ran]
    rfl
  · refine .inr ⟨ib, _, below, split, rfl, ?_⟩
    rw [Watched.bind_of_ok ran]
    rfl

@[simp]
theorem rb_events (position : Nat) : (rb input position).events = [] := by
  rcases rb_cases input position with ⟨_, ran⟩ | ⟨_, _, _, ran⟩
  · rw [ran]
  · rw [ran]

@[simp]
theorem readBe_events (count : Nat) (value : UInt64) (position : Nat) :
    (readBe input count value position).events = [] := by
  induction count generalizing value position with
  | zero => rfl
  | succ count ih =>
      rw [List.eq_nil_iff_forall_not_mem]
      intro event occurs
      rw [readBe, mem_events_bind, rb_events] at occurs
      rcases occurs with none | ⟨byte, _, after⟩
      · cases none
      · rw [ih] at after
        cases after

@[simp]
theorem readLen_events (ai : UInt8) (position : Nat) :
    (readLen input ai position).events = [] := by
  unfold readLen
  split_ifs
  · rfl
  · exact readBe_events 1 0 position
  · exact readBe_events 2 0 position
  · exact readBe_events 4 0 position
  · exact readBe_events 8 0 position
  · rfl

/-- A counted container records its reservation, which comes first, and what
its elements record, if the reservation is granted. -/
theorem mem_events_counted {α : Type} {storage : Storage}
    {container : Container} {ai : UInt8} {element : Run α}
    {wrap : List α → Value} {position : Nat} {event : Event} :
    event ∈ ((do
        let n ← readLen input ai
        reserve storage container n
        return wrap (← Watched.repeated element n.toNat) : Run Value)
          position).events ↔
      ∃ n, (readLen input ai position).result = .ok n ∧
        (event = .reserve container n.toNat
            (readLen input ai position).position ∨
          storage.reserve container.elementSize n.toNat = .ok () ∧
            event ∈ (Watched.repeated element n.toNat
              (readLen input ai position).position).events) := by
  rw [mem_events_bind, readLen_events]
  constructor
  · rintro (none | ⟨n, counted, after⟩)
    · cases none
    · refine ⟨n, counted, ?_⟩
      rcases mem_events_bind.mp after with reserved | ⟨_, granted, later⟩
      · exact .inl (List.mem_singleton.mp reserved)
      · rcases mem_events_bind.mp later with inside | ⟨_, _, none⟩
        · exact .inr ⟨granted, inside⟩
        · cases none
  · rintro ⟨n, counted, reserved | ⟨granted, inside⟩⟩
    · exact .inr ⟨n, counted, mem_events_bind.mpr
        (.inl (List.mem_singleton.mpr reserved))⟩
    · exact .inr ⟨n, counted, mem_events_bind.mpr
        (.inr ⟨(), granted, mem_events_bind.mpr (.inl inside)⟩)⟩

theorem mem_events_readPair {run : Run Value} {position : Nat}
    {event : Event} :
    event ∈ (readPair run position).events ↔
      event ∈ (run position).events ∨
        ∃ key, (run position).result = .ok key ∧
          event ∈ (run (run position).position).events := by
  rw [readPair, mem_events_bind]
  constructor
  · rintro (first | ⟨key, result, after⟩)
    · exact .inl first
    · rcases mem_events_bind.mp after with second | ⟨_, _, none⟩
      · exact .inr ⟨key, result, second⟩
      · cases none
  · rintro (first | ⟨key, result, second⟩)
    · exact .inl first
    · exact .inr ⟨key, result, mem_events_bind.mpr (.inl second)⟩

theorem mem_events_tag {storage : Storage} {run : Run Value} {ai : UInt8}
    {position : Nat} {event : Event} :
    event ∈ (readContents input storage run 6 ai position).events ↔
      ∃ number, (readLen input ai position).result = .ok number ∧
        event ∈ (run (readLen input ai position).position).events := by
  rw [readContents, mem_events_bind, readLen_events]
  constructor
  · rintro (none | ⟨number, read, after⟩)
    · cases none
    · rcases mem_events_bind.mp after with inside | ⟨_, _, none⟩
      · exact ⟨number, read, inside⟩
      · cases none
  · rintro ⟨number, read, inside⟩
    exact .inr ⟨number, read, mem_events_bind.mpr (.inl inside)⟩

theorem readContents_events {storage : Storage} {run : Run Value} {mt : Nat}
    (plain : mt ≠ 4 ∧ mt ≠ 5 ∧ mt ≠ 6) (ai : UInt8) (position : Nat) :
    (readContents input storage run mt ai position).events = [] := by
  rw [List.eq_nil_iff_forall_not_mem]
  intro event occurs
  match mt, plain with
  | 0, _ | 1, _ =>
      rw [readContents, mem_events_bind, readLen_events] at occurs
      rcases occurs with none | ⟨_, _, none⟩
      · cases none
      · cases none
  | 2, _ | 3, _ =>
      rw [readContents, mem_events_bind, readLen_events] at occurs
      rcases occurs with none | ⟨n, _, after⟩
      · cases none
      · rw [mem_events_bind, need] at after
        split at after
        · rcases after with none | ⟨_, _, none⟩
          · cases none
          · cases none
        · rcases after with none | ⟨_, _, none⟩
          · cases none
          · cases none
  | 7, _ =>
      unfold readContents at occurs
      split_ifs at occurs
      · rcases mem_events_bind.mp occurs with none | ⟨_, _, none⟩
        · rw [rb_events] at none
          cases none
        · cases none
      · cases occurs
      · cases occurs
  | _ + 8, _ => cases occurs

theorem readContents_agree (storage : Storage) {start : Nat}
    {run run' : Run Value} {read : Decoder Value}
    (follows : Follows input run read) (agree : AgreeFrom start run run')
    (mt : Nat) (ai : UInt8) :
    AgreeFrom start (readContents input storage run mt ai)
      (readContents input storage run' mt ai) := by
  have lengthForward := (@readLen_follows input ai).forward
  match mt with
  | 0 | 1 | 2 | 3 | 7 => exact AgreeFrom.refl _
  | 4 =>
      exact (AgreeFrom.refl _).bind lengthForward fun n =>
        (AgreeFrom.refl _).bind (@reserve_follows input storage .array n).forward
          fun _ => (agree.repeated follows.forward n.toNat).bindSame _
  | 5 =>
      have pairAgree : AgreeFrom start (readPair run) (readPair run') :=
        agree.bind follows.forward fun key => agree.bindSame _
      exact (AgreeFrom.refl _).bind lengthForward fun n =>
        (AgreeFrom.refl _).bind (@reserve_follows input storage .map n).forward
          fun _ => (pairAgree.repeated (readPair_follows follows).forward
            n.toNat).bindSame _
  | 6 =>
      exact (AgreeFrom.refl _).bind lengthForward fun number =>
        agree.bindSame _
  | _ + 8 => exact AgreeFrom.refl _

/-- Two calls with fuel for the bytes that are left run in the same way. -/
theorem readItem_agree (storage : Storage) {fuel fuel' start : Nat}
    (enough : input.length - start < fuel)
    (enough' : input.length - start < fuel') (depth : Nat) :
    AgreeFrom start (readItem input storage fuel depth)
      (readItem input storage fuel' depth) := by
  induction fuel generalizing fuel' start depth with
  | zero => omega
  | succ fuel ih =>
      intro position later
      obtain ⟨fuel', rfl⟩ : ∃ less, fuel' = less + 1 := ⟨fuel' - 1, by omega⟩
      rcases readItem_cases input storage fuel depth position with
        ⟨ended, ran⟩ | ⟨ib, outcome, below, split, contents, ran⟩
      · rcases readItem_cases input storage fuel' depth position with
          ⟨_, ran'⟩ | ⟨_, _, below, _⟩
        · rw [ran, ran']
        · omega
      · rcases readItem_cases input storage fuel' depth position with
          ⟨ended, _⟩ | ⟨ib', outcome', _, split', contents', ran'⟩
        · omega
        · obtain rfl : ib = ib' := by
            rw [split, List.cons.injEq] at split'
            exact split'.1
          have agree := readContents_agree storage
            (readItem_follows storage fuel (depth + 1))
            (@ih fuel' (position + 1) (by omega) (by omega) (depth + 1))
            (ib >>> 5).toNat (ib &&& 0x1f) (position + 1) (Nat.le_refl _)
          rw [contents, contents'] at agree
          rw [ran, ran', agree]

end TeeAnchor.CborRun
