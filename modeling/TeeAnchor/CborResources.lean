import TeeAnchor.CborRun

/-!
# Decoding is bounded by its input

The loops of the decoder count up to a number of the input, which can be far
larger than the input is long.  What bounds a run is the cursor: every call
that finds a byte moves it, and a call that finds none ends the run.
-/

namespace TeeAnchor.Cbor

mutual

/-- The number of `Value` nodes in a tree, the keys and values of maps and the
contents of tags included. -/
def Value.nodes : Value → Nat
  | .uint _ => 1
  | .nint _ => 1
  | .bytes _ => 1
  | .text _ => 1
  | .array items => 1 + nodesOfItems items
  | .map pairs => 1 + nodesOfPairs pairs
  | .tag _ content => 1 + content.nodes
  | .simple _ => 1

def nodesOfItems : List Value → Nat
  | [] => 0
  | item :: items => item.nodes + nodesOfItems items

def nodesOfPair : Value × Value → Nat
  | (key, value) => key.nodes + value.nodes

def nodesOfPairs : List (Value × Value) → Nat
  | [] => 0
  | pair :: pairs => nodesOfPair pair + nodesOfPairs pairs

end

theorem nodesOfItems_le {items : List (Value × Bytes)}
    (each : ∀ item ∈ items, item.1.nodes ≤ item.2.length) :
    nodesOfItems (items.map Prod.fst) ≤
      (items.flatMap Prod.snd).length := by
  induction items with
  | nil => exact Nat.le_refl 0
  | cons item items ih =>
      have first := each item (by simp)
      have others := ih fun other otherMem => each other (by simp [otherMem])
      rw [List.map_cons, nodesOfItems, List.flatMap_cons, List.length_append]
      omega

theorem nodesOfPairs_le {pairs : List ((Value × Bytes) × (Value × Bytes))}
    (keys : ∀ pair ∈ pairs, pair.1.1.nodes ≤ pair.1.2.length)
    (values : ∀ pair ∈ pairs, pair.2.1.nodes ≤ pair.2.2.length) :
    nodesOfPairs (pairs.map fun pair => (pair.1.1, pair.2.1)) ≤
      (pairs.flatMap fun pair => pair.1.2 ++ pair.2.2).length := by
  induction pairs with
  | nil => exact Nat.le_refl 0
  | cons pair pairs ih =>
      have key := keys pair (by simp)
      have value := values pair (by simp)
      have others := ih (fun other otherMem => keys other (by simp [otherMem]))
        fun other otherMem => values other (by simp [otherMem])
      rw [List.map_cons, nodesOfPairs, nodesOfPair, List.flatMap_cons,
        List.length_append, List.length_append]
      omega

/-- An item has no more nodes than bytes. -/
theorem Item.nodes_le {value : Value} {word : Bytes} (item : Item value word) :
    value.nodes ≤ word.length := by
  induction item with
  | uint head => simp [Value.nodes]
  | nint head => simp [Value.nodes]
  | bytes head => simp [Value.nodes]
  | text head => simp [Value.nodes]
  | array head each ih =>
      have inside := nodesOfItems_le ih
      rw [Value.nodes, List.length_cons, List.length_append]
      omega
  | map head keys values keysIh valuesIh =>
      have inside := nodesOfPairs_le keysIh valuesIh
      rw [Value.nodes, List.length_cons, List.length_append]
      omega
  | tag head inner ih =>
      rw [Value.nodes, List.length_cons, List.length_append]
      omega
  | simpleInline small => simp [Value.nodes]
  | simpleByte => simp [Value.nodes]

end TeeAnchor.Cbor

namespace TeeAnchor.CborRun

open Cbor ExactReaders WatchedReaders

variable {input : Bytes}

def Event.isCall : Event → Bool
  | .call _ _ _ => true
  | .reserve _ _ _ => false

/-- A part of the decoder that makes no calls of its own is charged
nothing. -/
theorem charged_of_free {α : Type} {run : Run α} {read : Decoder α}
    (follows : Follows input run read)
    (free : ∀ position, (run position).events.countP Event.isCall = 0) :
    Charged Event.isCall run := by
  constructor
  · intro position value stop events ran
    have moved := follows.forward position
    have nothing := free position
    rw [ran] at moved nothing
    rwa [nothing]
  · intro position failure stop events ran
    have moved := follows.forward position
    have nothing := free position
    rw [ran] at moved nothing
    rw [nothing]
    exact Nat.le_succ_of_le moved

theorem readLen_charged (ai : UInt8) :
    Charged Event.isCall (readLen input ai) :=
  charged_of_free (readLen_follows ai) fun position => by
    rw [readLen_events]
    rfl

theorem reserve_charged (storage : Storage) (container : Container)
    (count : UInt64) :
    Charged Event.isCall (reserve storage container count) :=
  charged_of_free (@reserve_follows [] storage container count) fun _ => rfl

theorem readContents_charged (storage : Storage) {run : Run Value}
    {read : Decoder Value} (follows : Follows input run read)
    (charged : Charged Event.isCall run) (mt : Nat) (ai : UInt8) :
    Charged Event.isCall (readContents input storage run mt ai) := by
  by_cases plain : mt ≠ 4 ∧ mt ≠ 5 ∧ mt ≠ 6
  · refine charged_of_free (readContents_follows storage follows mt ai) ?_
    intro position
    rw [readContents_events plain]
    rfl
  obtain rfl | rfl | rfl : mt = 4 ∨ mt = 5 ∨ mt = 6 := by omega
  · exact (readLen_charged ai).bind fun n =>
      (reserve_charged storage .array n).bind fun _ =>
        (charged.repeated n.toNat).bind fun _ => Charged.pure _
  · have pair : Charged Event.isCall (readPair run) :=
      charged.bind fun key => charged.bind fun value =>
        Charged.pure (key, value)
    exact (readLen_charged ai).bind fun n =>
      (reserve_charged storage .map n).bind fun _ =>
        (pair.repeated n.toNat).bind fun _ => Charged.pure _
  · exact (readLen_charged ai).bind fun number =>
      charged.bind fun _ => Charged.pure _

/-- A call and the calls inside it are as many as the bytes they pass, at most,
and one more for a call at the end of the input. -/
theorem readItem_charged (storage : Storage) (fuel depth : Nat) :
    Charged Event.isCall (readItem input storage fuel depth) := by
  induction fuel generalizing depth with
  | zero =>
      constructor
      · intro position value stop events ran
        cases ran
      · intro position failure stop events ran
        cases ran
        exact Nat.le_refl _
  | succ fuel ih =>
      have contents : ∀ ib : UInt8, Charged Event.isCall
          (readContents input storage (readItem input storage fuel (depth + 1))
            (ib >>> 5).toNat (ib &&& 0x1f)) := fun ib =>
        readContents_charged storage (readItem_follows storage fuel (depth + 1))
          (ih (depth + 1)) _ _
      constructor
      · intro position value stop events ran
        rcases readItem_cases input storage fuel depth position with
          ⟨_, whole⟩ | ⟨ib, ⟨result, last, inner⟩, _, _, inside, whole⟩
        · rw [whole] at ran
          cases ran
        · rw [whole, Outcome.mk.injEq] at ran
          obtain ⟨rfl, rfl, rfl⟩ := ran
          have paid := (contents ib).onValue inside
          rw [List.countP_append]
          show position + (inner.countP Event.isCall + 1) ≤ last
          omega
      · intro position failure stop events ran
        rcases readItem_cases input storage fuel depth position with
          ⟨_, whole⟩ | ⟨ib, ⟨result, last, inner⟩, _, _, inside, whole⟩
        · rw [whole] at ran
          cases ran
          exact Nat.le_refl _
        · rw [whole, Outcome.mk.injEq] at ran
          obtain ⟨rfl, rfl, rfl⟩ := ran
          have paid := (contents ib).onFailure inside
          rw [List.countP_append]
          show position + (inner.countP Event.isCall + 1) ≤ last + 1
          omega

/-- What happens inside a container is its reservation or happens in a call
that starts behind its head and inside the input. -/
theorem mem_events_readContents {storage : Storage} {run : Run Value}
    {read : Decoder Value} (follows : Follows input run read) {mt : Nat}
    {ai : UInt8} {position : Nat} (bounded : position ≤ input.length)
    {event : Event}
    (occurs : event ∈ (readContents input storage run mt ai position).events) :
    (∃ container count behind, event = .reserve container count behind) ∨
      ∃ inner, position ≤ inner ∧ inner ≤ input.length ∧
        event ∈ (run inner).events := by
  by_cases plain : mt ≠ 4 ∧ mt ≠ 5 ∧ mt ≠ 6
  · rw [readContents_events plain] at occurs
    cases occurs
  have behind := (@readLen_follows input ai).forward position
  have counted := (@readLen_follows input ai).inside bounded
  obtain rfl | rfl | rfl : mt = 4 ∨ mt = 5 ∨ mt = 6 := by omega
  · obtain ⟨n, _, reserved | ⟨_, element⟩⟩ := mem_events_counted.mp occurs
    · exact .inl ⟨_, _, _, reserved⟩
    · obtain ⟨round, _, _, _, inside⟩ := mem_events_repeated.mp element
      have rounds := follows.repeated round
      exact .inr ⟨_, Nat.le_trans behind (rounds.forward _),
        rounds.inside counted, inside⟩
  · obtain ⟨n, _, reserved | ⟨_, element⟩⟩ := mem_events_counted.mp occurs
    · exact .inl ⟨_, _, _, reserved⟩
    · obtain ⟨round, _, _, _, inside⟩ := mem_events_repeated.mp element
      have rounds := (readPair_follows follows).repeated round
      have later := Nat.le_trans behind (rounds.forward _)
      have reached := rounds.inside counted
      rcases mem_events_readPair.mp inside with key | ⟨_, _, value⟩
      · exact .inr ⟨_, later, reached, key⟩
      · exact .inr ⟨_, Nat.le_trans later (follows.forward _),
          follows.inside reached, value⟩
  · obtain ⟨_, _, inside⟩ := mem_events_tag.mp occurs
    exact .inr ⟨_, behind, counted, inside⟩

/-- The cursor of a call stays inside the input, and a call that finds a byte
leaves fewer of them. -/
theorem call_advances {storage : Storage} {fuel outer position : Nat}
    (enough : input.length - position < fuel)
    (bounded : position ≤ input.length) {depth before after : Nat}
    (occurs : Event.call depth before after ∈
      (readItem input storage fuel outer position).events) :
    after ≤ input.length ∧ (before < input.length → before < after) := by
  induction fuel generalizing outer position with
  | zero => omega
  | succ fuel ih =>
      rcases readItem_cases input storage fuel outer position with
        ⟨ended, whole⟩ | ⟨ib, outcome, below, _, contents, whole⟩
      · rw [whole, List.mem_singleton, Event.call.injEq] at occurs
        obtain ⟨_, rfl, rfl⟩ := occurs
        exact ⟨bounded, fun below => by omega⟩
      · have follows := @readItem_follows input storage fuel (outer + 1)
        rw [whole, List.mem_append, List.mem_singleton] at occurs
        rcases occurs with inside | this
        · rw [← contents] at inside
          rcases mem_events_readContents follows below inside with
            ⟨_, _, _, reserved⟩ | ⟨inner, behind, reached, nested⟩
          · cases reserved
          · exact ih (by omega) reached nested
        · rw [Event.call.injEq] at this
          obtain ⟨_, rfl, rfl⟩ := this
          have moved := readContents_follows storage follows (ib >>> 5).toNat
            (ib &&& 0x1f)
          rw [← contents]
          exact ⟨moved.inside below, fun _ => moved.forward (before + 1)⟩

/-- For every input and every storage: the run is that of the decoder, and its
end does not come from the fuel; its calls, of the loops and of the recursion,
are at most as many as the bytes it passes and one; each of them stops inside
the input and leaves fewer bytes than it found, if it found one; and a value
that is read has no more nodes than the bytes it was read from. -/
theorem decode_bounded (storage : Storage) (input : Bytes) :
    (decode storage input).result = Cbor.decode storage input ∧
    (∀ fuel, input.length < fuel →
      readItem input storage fuel 0 0 = decode storage input) ∧
    (decode storage input).events.countP Event.isCall ≤
      (decode storage input).position + 1 ∧
    (decode storage input).position ≤ input.length ∧
    (∀ depth before after,
      Event.call depth before after ∈ (decode storage input).events →
        after ≤ input.length ∧ (before < input.length → before < after)) ∧
    (∀ value, (decode storage input).result = .ok value →
      value.nodes ≤ (decode storage input).position) := by
  have follows := @readItem_follows input storage (input.length + 1) 0
  have charged := @readItem_charged input storage (input.length + 1) 0
  refine ⟨decode_result storage input, ?_, ?_, follows.inside (Nat.zero_le _),
    ?_, ?_⟩
  · intro fuel enough
    exact readItem_agree storage (by omega) (by omega) 0 0 (Nat.le_refl 0)
  · rcases ran : decode storage input with ⟨result, stop, events⟩
    cases result with
    | error failure =>
        have paid := charged.onFailure ran
        rwa [Nat.zero_add] at paid
    | ok value =>
        have paid := charged.onValue ran
        rw [Nat.zero_add] at paid
        exact Nat.le_succ_of_le paid
  · intro depth before after occurs
    exact call_advances (by omega) (Nat.zero_le _) occurs
  · intro value decoded
    have ran := readItem_unlimited storage (input.length + 1) _ _
      (follows.run_eq_ok (Nat.zero_le _) decoded)
    obtain ⟨word, item, split⟩ := (readItem_exact (input.length + 1)).sound ran
    have length := congrArg List.length split
    have passed := follows.inside (Nat.zero_le input.length)
    rw [List.length_append, List.length_drop, List.length_drop] at length
    have nodes := item.nodes_le
    show value.nodes ≤ (readItem input storage (input.length + 1) 0 0).position
    omega

end TeeAnchor.CborRun
