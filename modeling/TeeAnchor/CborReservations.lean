import TeeAnchor.CborRun

/-!
# Reservations and recursion of the CBOR decoder

A string is read behind a check that the input holds it.  An array or a map
reserves storage for as many elements as its head declares, and every container
and every tag calls the decoder again, before anything is known about what
follows.  Where items start, and how deep they are nested, is said here in
terms of the grammar; a run calls the decoder at exactly these places.
-/

namespace TeeAnchor.CborRun

open Cbor ExactReaders WatchedReaders

/-- The major type of the heads that announce a container. -/
def Container.major : Container → Nat
  | .array => 4
  | .map => 5

/-- An item nested `depth` deep in the one at the front of the input is to
start where the rest does: its containers are behind a complete head, and what
they hold before it is complete. -/
inductive ItemAt : Bytes → Nat → Bytes → Prop
  | root {input} : ItemAt input 0 input
  | element {info count digits items body inner depth rest}
      (head : Argument info count digits) (earlier : EncodesAll Item items body)
      (more : items.length < count) (nested : ItemAt inner depth rest) :
      ItemAt (headByte 4 info :: (digits ++ (body ++ inner))) (depth + 1) rest
  | key {info count digits pairs body inner depth rest}
      (head : Argument info count digits)
      (earlier : EncodesAll (EncodesPair Item) pairs body)
      (more : pairs.length < count) (nested : ItemAt inner depth rest) :
      ItemAt (headByte 5 info :: (digits ++ (body ++ inner))) (depth + 1) rest
  | value {info count digits pairs body key word inner depth rest}
      (head : Argument info count digits)
      (earlier : EncodesAll (EncodesPair Item) pairs body)
      (more : pairs.length < count) (keyItem : Item key word)
      (nested : ItemAt inner depth rest) :
      ItemAt (headByte 5 info :: (digits ++ (body ++ (word ++ inner))))
        (depth + 1) rest
  | content {info number digits inner depth rest}
      (head : Argument info number digits) (nested : ItemAt inner depth rest) :
      ItemAt (headByte 6 info :: (digits ++ inner)) (depth + 1) rest

/-- Every container of the input declares no more elements than the bytes that
follow can hold, and no item is nested deeper than the bound. -/
structure CountsFit (bound : Nat) (input : Bytes) : Prop where
  counts : ∀ {depth info count digits body} {container : Container},
    ItemAt input depth (headByte container.major info :: (digits ++ body)) →
      Argument info count digits → count * container.itemsEach ≤ body.length
  shallow : ∀ {depth rest}, ItemAt input depth rest → depth ≤ bound

/-- There is storage for as many elements of either container as a number of
bytes can hold. -/
def Holds (storage : Storage) (size : Nat) : Prop :=
  ∀ container : Container, ∀ count ≤ size,
    storage.reserve container.elementSize count = .ok ()

/-- Decoding ends with a value or with the program's own exception wherever
there is storage for what the input can hold; it reserves storage only for what
the rest of the input can hold; and its recursion is no deeper than the
bound. -/
structure ControlledRun (bound : Nat) (input : Bytes) : Prop where
  ends : ∀ storage, Holds storage input.length →
    (∃ value, Cbor.decode storage input = .ok value) ∨
      ∃ what, Cbor.decode storage input = .error (.teeAnchorError what)
  foreseen : ∀ storage container count position,
    Event.reserve container count position ∈ (decode storage input).events →
      count * container.itemsEach ≤ input.length - position
  shallow : ∀ storage depth before after,
    Event.call depth before after ∈ (decode storage input).events →
      depth ≤ bound

/-- What an event of a call inside `outer` others says about the word that the
call reads. -/
def Event.Announced (input word : Bytes) (outer : Nat) : Event → Prop
  | .call depth before _ =>
      ∃ inside, depth = outer + inside ∧ ItemAt word inside (input.drop before)
  | .reserve container count position => ∃ inside info digits,
      ItemAt word inside
        (headByte container.major info :: (digits ++ input.drop position)) ∧
      Argument info count digits

variable {input : Bytes}

theorem Event.Announced.nested {word inner : Bytes} {outer : Nat}
    {event : Event} (announced : event.Announced input inner (outer + 1))
    (within : ∀ {depth rest}, ItemAt inner depth rest →
      ItemAt word (depth + 1) rest) :
    event.Announced input word outer := by
  cases event with
  | call depth before after =>
      obtain ⟨inside, rfl, place⟩ := announced
      exact ⟨inside + 1, by omega, within place⟩
  | reserve container count position =>
      obtain ⟨inside, info, digits, place, head⟩ := announced
      exact ⟨inside + 1, info, digits, within place, head⟩

theorem readLen_sound {ai : UInt8} {position : Nat}
    (bounded : position ≤ input.length) {n : UInt64}
    (counted : (readLen input ai position).result = .ok n) :
    ∃ digits, Argument ai.toNat n.toNat digits ∧ input.drop position =
      digits ++ input.drop (readLen input ai position).position :=
  (readLen_follows ai).sound (Extends.refl _) (@readLen_exact 0 ai) bounded
    counted

/-- The elements read so far stand one after another in the input. -/
theorem repeated_sound {α : Type} {run : Run α} {read wider : Decoder α}
    {size : Nat} {Encodes : α → Bytes → Prop}
    (follows : Follows input run read) (widens : Extends read wider)
    (exact : ExactUpTo size wider Encodes) {round position : Nat}
    (bounded : position ≤ input.length) {values : List α}
    (earlier : (Watched.repeated run round position).result = .ok values) :
    ∃ body, values.length = round ∧ EncodesAll Encodes values body ∧
      input.drop position =
        body ++ input.drop (Watched.repeated run round position).position := by
  obtain ⟨body, ⟨length, encoded⟩, split⟩ := (follows.repeated round).sound
    (widens.repeatRead round) (exact.repeatRead round) bounded earlier
  exact ⟨body, length, encoded, split⟩

theorem readPair_widens {read wider : Decoder Value}
    (widens : Extends read wider) :
    Extends (Cbor.readPair read) (Cbor.readPair wider) :=
  widens.bind fun _ => widens.bind fun _ => Extends.refl _

section Contents

variable {storage : Storage} {fuel outer position : Nat} {run : Run Value}
  {event : Event}

/-- The calls that start behind a position record what their words announce. -/
def AnnouncedBehind (input : Bytes) (outer position : Nat) (run : Run Value) :
    Prop :=
  ∀ {inner event}, position ≤ inner → inner ≤ input.length →
    event ∈ (run inner).events →
      event.Announced input (input.drop inner) (outer + 1)

theorem announced_of_array (bounded : position ≤ input.length)
    (follows : Follows input run (Cbor.readItem storage fuel))
    (nested : AnnouncedBehind input outer position run) {ai : UInt8}
    (occurs : event ∈ (readContents input storage run 4 ai position).events) :
    event.Announced input (headByte 4 ai.toNat :: input.drop position)
      outer := by
  have behind := (@readLen_follows input ai).forward position
  have counted := (@readLen_follows input ai).inside bounded
  obtain ⟨n, read, found⟩ := mem_events_counted.mp occurs
  obtain ⟨digits, head, split⟩ := readLen_sound bounded read
  rw [split]
  rcases found with rfl | ⟨_, element⟩
  · exact ⟨0, ai.toNat, digits, .root, head⟩
  · obtain ⟨round, values, more, earlier, inside⟩ :=
      mem_events_repeated.mp element
    obtain ⟨body, rfl, encoded, bodySplit⟩ := repeated_sound follows
      (readItem_unlimited storage fuel) (readItem_exact fuel) counted earlier
    have rounds := follows.repeated values.length
    have announced := nested (Nat.le_trans behind (rounds.forward _))
      (rounds.inside counted) inside
    rw [bodySplit]
    exact announced.nested fun place => .element head encoded more place

theorem announced_of_map (bounded : position ≤ input.length)
    (follows : Follows input run (Cbor.readItem storage fuel))
    (nested : AnnouncedBehind input outer position run) {ai : UInt8}
    (occurs : event ∈ (readContents input storage run 5 ai position).events) :
    event.Announced input (headByte 5 ai.toNat :: input.drop position)
      outer := by
  have behind := (@readLen_follows input ai).forward position
  have counted := (@readLen_follows input ai).inside bounded
  have widens := readItem_unlimited storage fuel
  obtain ⟨n, read, found⟩ := mem_events_counted.mp occurs
  obtain ⟨digits, head, split⟩ := readLen_sound bounded read
  rw [split]
  rcases found with rfl | ⟨_, element⟩
  · exact ⟨0, ai.toNat, digits, .root, head⟩
  · obtain ⟨round, values, more, earlier, inside⟩ :=
      mem_events_repeated.mp element
    have pairFollows := readPair_follows follows
    obtain ⟨body, rfl, encoded, bodySplit⟩ := repeated_sound pairFollows
      (readPair_widens widens) (readPair_exact (readItem_exact fuel)) counted
      earlier
    have rounds := pairFollows.repeated values.length
    have later := Nat.le_trans behind (rounds.forward _)
    have reached := rounds.inside counted
    rw [bodySplit]
    rcases mem_events_readPair.mp inside with first | ⟨key, keyRead, second⟩
    · exact (nested later reached first).nested fun place =>
        .key head encoded more place
    · obtain ⟨word, keyItem, keySplit⟩ :=
        follows.sound widens (readItem_exact fuel) reached keyRead
      have announced := nested (Nat.le_trans later (follows.forward _))
        (follows.inside reached) second
      rw [keySplit]
      exact announced.nested fun place =>
        .value head encoded more keyItem place

theorem announced_of_tag (bounded : position ≤ input.length)
    (nested : AnnouncedBehind input outer position run) {ai : UInt8}
    (occurs : event ∈ (readContents input storage run 6 ai position).events) :
    event.Announced input (headByte 6 ai.toNat :: input.drop position)
      outer := by
  have behind := (@readLen_follows input ai).forward position
  have counted := (@readLen_follows input ai).inside bounded
  obtain ⟨number, read, inside⟩ := mem_events_tag.mp occurs
  obtain ⟨digits, head, split⟩ := readLen_sound bounded read
  rw [split]
  exact (nested behind counted inside).nested fun place => .content head place

/-- What is recorded behind an initial byte is announced by the word, if that
holds for the calls further on. -/
theorem announced_of_contents (bounded : position ≤ input.length)
    (follows : Follows input run (Cbor.readItem storage fuel))
    (nested : AnnouncedBehind input outer position run) (mt : Nat) (ai : UInt8)
    (occurs : event ∈ (readContents input storage run mt ai position).events) :
    event.Announced input (headByte mt ai.toNat :: input.drop position)
      outer := by
  by_cases plain : mt ≠ 4 ∧ mt ≠ 5 ∧ mt ≠ 6
  · rw [readContents_events plain] at occurs
    cases occurs
  obtain rfl | rfl | rfl : mt = 4 ∨ mt = 5 ∨ mt = 6 := by omega
  · exact announced_of_array bounded follows nested occurs
  · exact announced_of_map bounded follows nested occurs
  · exact announced_of_tag bounded nested occurs

end Contents

/-- Every event of a call is announced by the word that the call reads. -/
theorem announced_of_mem (storage : Storage) {fuel outer position : Nat}
    (enough : input.length - position < fuel)
    (bounded : position ≤ input.length) {event : Event}
    (occurs : event ∈ (readItem input storage fuel outer position).events) :
    event.Announced input (input.drop position) outer := by
  induction fuel generalizing outer position event with
  | zero => omega
  | succ fuel ih =>
      rcases readItem_cases input storage fuel outer position with
        ⟨_, whole⟩ | ⟨ib, outcome, below, split, contents, whole⟩
      · rw [whole, List.mem_singleton] at occurs
        subst occurs
        exact ⟨0, rfl, .root⟩
      · rw [whole, List.mem_append, List.mem_singleton] at occurs
        rcases occurs with inside | rfl
        · rw [← contents] at inside
          have announced := announced_of_contents below
            (readItem_follows storage fuel (outer + 1))
            (fun later reached occurs => ih (by omega) reached occurs)
            (ib >>> 5).toNat (ib &&& 0x1f) inside
          rwa [headByte_split, ← split] at announced
        · exact ⟨0, rfl, .root⟩

theorem readLen_complete {info number : Nat} {digits rest : Bytes}
    (head : Argument info number digits) {position : Nat}
    (bounded : position ≤ input.length)
    (split : input.drop position = digits ++ rest) :
    (readLen input (UInt8.ofNat info) position).result =
        .ok (UInt64.ofNat number) ∧
      input.drop (readLen input (UInt8.ofNat info) position).position =
        rest := by
  refine (readLen_follows (UInt8.ofNat info)).complete
    (readLen_exact (UInt8.ofNat info)) bounded ?_ split le_rfl
  rw [info_toNat head.info_lt]
  exact head.toUInt64

theorem readItem_head (storage : Storage) {fuel outer position major info : Nat}
    {rest : Bytes} (majorBound : major < 8) (infoBound : info < 32)
    (split : input.drop position = headByte major info :: rest) :
    position < input.length ∧ input.drop (position + 1) = rest ∧
    ∀ event ∈ (readContents input storage
        (readItem input storage fuel (outer + 1)) major (UInt8.ofNat info)
        (position + 1)).events,
      event ∈ (readItem input storage (fuel + 1) outer position).events := by
  rcases readItem_cases input storage fuel outer position with
    ⟨ended, _⟩ | ⟨ib, outcome, below, split', contents, whole⟩
  · rw [List.drop_eq_nil_of_le ended] at split
    cases split
  · rw [split, List.cons.injEq] at split'
    obtain ⟨rfl, restEq⟩ := split'
    rw [major_headByte majorBound infoBound,
      info_headByte majorBound infoBound] at contents
    refine ⟨below, restEq.symm, ?_⟩
    intro event occurs
    rw [contents] at occurs
    rw [whole]
    exact List.mem_append_left _ occurs

theorem counted_complete {α : Type} {container : Container} {run : Run α}
    {read : Decoder α} {Encodes : α → Bytes → Prop} {size : Nat}
    (follows : Follows input run read) (exact : ExactUpTo size read Encodes)
    {wrap : List α → Value} {info count position : Nat}
    {digits body inner : Bytes} {values : List α}
    (head : Argument info count digits)
    (earlier : EncodesAll Encodes values body) (more : values.length < count)
    (bounded : position ≤ input.length)
    (split : input.drop position = digits ++ (body ++ inner))
    (short : body.length ≤ size) :
    ∃ next, next ≤ input.length ∧ input.drop next = inner ∧
      ∀ event ∈ (run next).events, event ∈ ((do
        let n ← readLen input (UInt8.ofNat info)
        reserve .unlimited container n
        return wrap (← Watched.repeated run n.toNat) : Run Value)
          position).events := by
  obtain ⟨counted, atBody⟩ := readLen_complete head bounded split
  have behind := (@readLen_follows input (UInt8.ofNat info)).inside bounded
  have rounds := follows.repeated values.length
  obtain ⟨ran, atInner⟩ := rounds.complete (exact.repeatRead values.length)
    behind ⟨rfl, earlier⟩ atBody short
  refine ⟨_, rounds.inside behind, atInner, ?_⟩
  intro event occurs
  refine mem_events_counted.mpr ⟨_, counted, .inr ⟨rfl, ?_⟩⟩
  refine mem_events_repeated.mpr ⟨values.length, values, ?_, ran, occurs⟩
  rwa [head.toNat_ofNat]

/-- All that the call at `next` records is recorded in the call around it. -/
def CallsAt (input : Bytes) (fuel outer position next : Nat) : Prop :=
  ∀ event ∈ (readItem input .unlimited fuel (outer + 1) next).events,
    event ∈ (readItem input .unlimited (fuel + 1) outer position).events

section Nested

variable {fuel outer position info count : Nat} {digits body inner : Bytes}

theorem callsAt_element {items : List Value}
    (head : Argument info count digits) (earlier : EncodesAll Item items body)
    (more : items.length < count)
    (split : input.drop position =
      headByte 4 info :: (digits ++ (body ++ inner)))
    (short : body.length ≤ fuel) :
    ∃ next, next ≤ input.length ∧ input.drop next = inner ∧
      CallsAt input fuel outer position next := by
  obtain ⟨below, behind, inside⟩ := @readItem_head input .unlimited fuel
    outer position 4 info _ (by decide) head.info_lt split
  obtain ⟨next, reached, atInner, among⟩ :=
    @counted_complete input _ .array _ _ _ _
      (readItem_follows .unlimited fuel (outer + 1)) (readItem_exact fuel)
      Value.array _ _ _ _ _ _ _ head earlier more below behind short
  exact ⟨next, reached, atInner, fun event occurs =>
    inside event (among event occurs)⟩

theorem runs_pair {pairs : List (Value × Value)}
    (head : Argument info count digits)
    (earlier : EncodesAll (EncodesPair Item) pairs body)
    (more : pairs.length < count)
    (split : input.drop position =
      headByte 5 info :: (digits ++ (body ++ inner)))
    (short : body.length ≤ fuel) :
    ∃ next, next ≤ input.length ∧ input.drop next = inner ∧
      ∀ event ∈ (readPair (readItem input .unlimited fuel (outer + 1))
          next).events,
        event ∈
          (readItem input .unlimited (fuel + 1) outer position).events := by
  obtain ⟨below, behind, inside⟩ := @readItem_head input .unlimited fuel
    outer position 5 info _ (by decide) head.info_lt split
  obtain ⟨next, reached, atInner, among⟩ :=
    @counted_complete input _ .map _ _ _ _
      (readPair_follows (readItem_follows .unlimited fuel (outer + 1)))
      (readPair_exact (readItem_exact fuel))
      Value.map _ _ _ _ _ _ _ head earlier more below behind short
  exact ⟨next, reached, atInner, fun event occurs =>
    inside event (among event occurs)⟩

theorem callsAt_key {pairs : List (Value × Value)}
    (head : Argument info count digits)
    (earlier : EncodesAll (EncodesPair Item) pairs body)
    (more : pairs.length < count)
    (split : input.drop position =
      headByte 5 info :: (digits ++ (body ++ inner)))
    (short : body.length ≤ fuel) :
    ∃ next, next ≤ input.length ∧ input.drop next = inner ∧
      CallsAt input fuel outer position next := by
  obtain ⟨next, reached, atKey, pair⟩ :=
    @runs_pair input fuel outer _ _ _ _ _ _ _ head earlier more split short
  exact ⟨next, reached, atKey, fun event occurs =>
    pair event (mem_events_readPair.mpr (.inl occurs))⟩

theorem callsAt_value {pairs : List (Value × Value)} {key : Value}
    {word : Bytes} (head : Argument info count digits)
    (earlier : EncodesAll (EncodesPair Item) pairs body)
    (more : pairs.length < count) (keyItem : Item key word)
    (split : input.drop position =
      headByte 5 info :: (digits ++ (body ++ (word ++ inner))))
    (short : body.length ≤ fuel) (keyShort : word.length ≤ fuel) :
    ∃ next, next ≤ input.length ∧ input.drop next = inner ∧
      CallsAt input fuel outer position next := by
  have follows := @readItem_follows input .unlimited fuel (outer + 1)
  obtain ⟨keyAt, reached, atKey, pair⟩ :=
    @runs_pair input fuel outer _ _ _ _ _ _ _ head earlier more split short
  obtain ⟨keyRead, atInner⟩ := follows.complete (readItem_exact fuel) reached
    keyItem atKey keyShort
  exact ⟨_, follows.inside reached, atInner, fun event occurs =>
    pair event (mem_events_readPair.mpr (.inr ⟨key, keyRead, occurs⟩))⟩

theorem callsAt_content (head : Argument info count digits)
    (split : input.drop position = headByte 6 info :: (digits ++ inner)) :
    ∃ next, next ≤ input.length ∧ input.drop next = inner ∧
      CallsAt input fuel outer position next := by
  obtain ⟨below, behind, inside⟩ := @readItem_head input .unlimited fuel
    outer position 6 info _ (by decide) head.info_lt split
  obtain ⟨read, atInner⟩ := readLen_complete head below behind
  exact ⟨_, (readLen_follows _).inside below, atInner, fun event occurs =>
    inside event (mem_events_tag.mpr ⟨_, read, occurs⟩)⟩

end Nested

/-- With fuel for what is left, a call makes the call at a place nested in its
word. -/
def RunsAt (input word : Bytes) (depth : Nat) (rest : Bytes) : Prop :=
  ∀ {fuel outer position}, position ≤ input.length →
    input.drop position = word → word.length < fuel →
      ∃ fuel' position', position' ≤ input.length ∧
        input.drop position' = rest ∧ rest.length < fuel' ∧
        ∀ event ∈ (readItem input .unlimited fuel' (outer + depth)
            position').events,
          event ∈ (readItem input .unlimited fuel outer position).events

/-- What a directly nested call makes, the call around it makes. -/
theorem RunsAt.nested {word inner rest : Bytes} {depth : Nat}
    (runs : RunsAt input inner depth rest) (shorter : inner.length < word.length)
    (direct : ∀ {fuel outer position}, input.drop position = word →
      word.length ≤ fuel + 1 →
        ∃ next, next ≤ input.length ∧ input.drop next = inner ∧
          CallsAt input fuel outer position next) :
    RunsAt input word (depth + 1) rest := by
  intro fuel outer position bounded split enough
  obtain ⟨fuel, rfl⟩ : ∃ less, fuel = less + 1 := ⟨fuel - 1, by omega⟩
  obtain ⟨next, reached, atInner, calls⟩ :=
    @direct fuel outer position split (Nat.le_of_lt enough)
  obtain ⟨fuel', position', bounded', atRest, enough', inside⟩ :=
    @runs fuel (outer + 1) next reached atInner (by omega)
  rw [Nat.add_assoc, Nat.add_comm 1] at inside
  exact ⟨fuel', position', bounded', atRest, enough', fun event occurs =>
    calls event (inside event occurs)⟩

/-- A call makes a call at every place of its word where an item is to
start. -/
theorem ItemAt.runs {word rest : Bytes} {depth : Nat}
    (place : ItemAt word depth rest) : RunsAt input word depth rest := by
  induction place with
  | root =>
      intro fuel outer position bounded split enough
      exact ⟨fuel, position, bounded, split, enough, fun _ occurs => occurs⟩
  | element head earlier more nested ih =>
      refine ih.nested (by
        simp only [List.length_cons, List.length_append]
        omega) fun split short => ?_
      simp only [List.length_cons, List.length_append] at short
      exact callsAt_element head earlier more split (by omega)
  | key head earlier more nested ih =>
      refine ih.nested (by
        simp only [List.length_cons, List.length_append]
        omega) fun split short => ?_
      simp only [List.length_cons, List.length_append] at short
      exact callsAt_key head earlier more split (by omega)
  | value head earlier more keyItem nested ih =>
      refine ih.nested (by
        simp only [List.length_cons, List.length_append]
        omega) fun split short => ?_
      simp only [List.length_cons, List.length_append] at short
      exact callsAt_value head earlier more keyItem split (by omega) (by omega)
  | content head nested ih =>
      refine ih.nested (by
        simp only [List.length_cons, List.length_append]
        omega) fun split short => ?_
      exact callsAt_content head split

theorem call_of_place {depth : Nat} {rest : Bytes}
    (place : ItemAt input depth rest) :
    ∃ before after, Event.call depth before after ∈
      (decode .unlimited input).events := by
  obtain ⟨fuel, position, bounded, atRest, enough, runs⟩ :=
    @ItemAt.runs input _ _ _ place (input.length + 1) 0 0 (Nat.zero_le _) rfl
      (Nat.lt_succ_self _)
  obtain ⟨fuel, rfl⟩ : ∃ less, fuel = less + 1 := ⟨fuel - 1, by omega⟩
  rw [Nat.zero_add] at runs
  rcases readItem_cases input .unlimited fuel depth position with
    ⟨_, whole⟩ | ⟨_, outcome, _, _, _, whole⟩
  · refine ⟨position, position, runs _ ?_⟩
    rw [whole]
    exact List.mem_singleton_self _
  · refine ⟨position, outcome.position, runs _ ?_⟩
    rw [whole]
    exact List.mem_append_right _ (List.mem_singleton_self _)

theorem Container.major_lt (container : Container) : container.major < 8 := by
  cases container <;> decide

/-- The head of a container at the cursor makes a call reserve storage. -/
theorem reserve_of_head {container : Container} {info count : Nat}
    {digits body : Bytes} (head : Argument info count digits)
    {fuel outer position : Nat}
    (split : input.drop position =
      headByte container.major info :: (digits ++ body)) :
    ∃ behind, behind ≤ input.length ∧ input.drop behind = body ∧
      Event.reserve container count behind ∈
        (readItem input .unlimited (fuel + 1) outer position).events := by
  obtain ⟨below, behind, inside⟩ := @readItem_head input .unlimited fuel
    outer position container.major info _ container.major_lt head.info_lt split
  obtain ⟨counted, atBody⟩ := readLen_complete head below behind
  refine ⟨_, (readLen_follows _).inside below, atBody, inside _ ?_⟩
  have reserved : Event.reserve container count
      (readLen input (UInt8.ofNat info) (position + 1)).position =
        .reserve container (UInt64.ofNat count).toNat
          (readLen input (UInt8.ofNat info) (position + 1)).position := by
    rw [head.toNat_ofNat]
  cases container with
  | array => exact mem_events_counted.mpr ⟨_, counted, .inl reserved⟩
  | map => exact mem_events_counted.mpr ⟨_, counted, .inl reserved⟩

theorem reserve_of_place {depth : Nat} {container : Container}
    {info count : Nat} {digits body : Bytes}
    (place : ItemAt input depth
      (headByte container.major info :: (digits ++ body)))
    (head : Argument info count digits) :
    ∃ behind, behind ≤ input.length ∧ input.drop behind = body ∧
      Event.reserve container count behind ∈
        (decode .unlimited input).events := by
  obtain ⟨fuel, position, bounded, atRest, enough, runs⟩ :=
    @ItemAt.runs input _ _ _ place (input.length + 1) 0 0 (Nat.zero_le _) rfl
      (Nat.lt_succ_self _)
  obtain ⟨fuel, rfl⟩ : ∃ less, fuel = less + 1 := ⟨fuel - 1, by omega⟩
  obtain ⟨behind, reached, atBody, reserved⟩ :=
    @reserve_of_head input container _ _ _ _ head fuel (0 + depth) position
      atRest
  exact ⟨behind, reached, atBody, runs _ reserved⟩

def Event.Granted (storage : Storage) : Event → Prop
  | .call _ _ _ => True
  | .reserve container count _ =>
      storage.reserve container.elementSize count = .ok ()

theorem reserve_agree (storage : Storage) (container : Container)
    (count : UInt64) :
    AgreeWhere (Event.Granted storage) (reserve storage container count)
      (reserve .unlimited container count) := by
  intro position granted
  have answer : storage.reserve container.elementSize count.toNat = .ok () :=
    granted _ (List.mem_singleton_self _)
  rw [reserve, answer]
  rfl

theorem readContents_granted (storage : Storage) {run run' : Run Value}
    (agree : AgreeWhere (Event.Granted storage) run run') (mt : Nat)
    (ai : UInt8) :
    AgreeWhere (Event.Granted storage) (readContents input storage run mt ai)
      (readContents input .unlimited run' mt ai) := by
  match mt with
  | 0 | 1 | 2 | 3 | 7 => exact AgreeWhere.refl _
  | 4 =>
      exact (AgreeWhere.refl _).bind fun n =>
        (reserve_agree storage .array n).bind fun _ =>
          (agree.repeated n.toNat).bind fun _ => AgreeWhere.refl _
  | 5 =>
      have pair : AgreeWhere (Event.Granted storage) (readPair run)
          (readPair run') :=
        agree.bind fun _ => agree.bind fun _ => AgreeWhere.refl _
      exact (AgreeWhere.refl _).bind fun n =>
        (reserve_agree storage .map n).bind fun _ =>
          (pair.repeated n.toNat).bind fun _ => AgreeWhere.refl _
  | 6 =>
      exact (AgreeWhere.refl _).bind fun _ =>
        agree.bind fun _ => AgreeWhere.refl _
  | _ + 8 => exact AgreeWhere.refl _

/-- A run whose reservations are granted is the run in unlimited storage. -/
theorem readItem_granted (storage : Storage) (fuel depth : Nat) :
    AgreeWhere (Event.Granted storage) (readItem input storage fuel depth)
      (readItem input .unlimited fuel depth) := by
  induction fuel generalizing depth with
  | zero => exact AgreeWhere.refl _
  | succ fuel ih =>
      have body := (AgreeWhere.refl (rb input)).bind fun ib =>
        @readContents_granted input storage _ _ (ih (depth + 1))
          (ib >>> 5).toNat (ib &&& 0x1f)
      exact body.recording (Event.call depth)

theorem announced_of_decode {storage : Storage} {event : Event}
    (occurs : event ∈ (decode storage input).events) :
    event.Announced input input 0 :=
  announced_of_mem storage (Nat.lt_succ_self _) (Nat.zero_le _) occurs

/-- What a run in any storage reserves, the rest of the input can hold. -/
theorem CountsFit.foreseen {bound : Nat} (fit : CountsFit bound input)
    {storage : Storage} {container : Container} {count position : Nat}
    (occurs : Event.reserve container count position ∈
      (decode storage input).events) :
    count * container.itemsEach ≤ input.length - position := by
  obtain ⟨inside, info, digits, place, head⟩ := announced_of_decode occurs
  rw [← List.length_drop]
  exact fit.counts place head

theorem CountsFit.granted {bound : Nat} (fit : CountsFit bound input)
    {storage : Storage} (holds : Holds storage input.length) :
    ∀ event ∈ (decode storage input).events, event.Granted storage := by
  intro event occurs
  cases event with
  | call depth before after => trivial
  | reserve container count position =>
      have fits := fit.foreseen occurs
      have each : 1 ≤ container.itemsEach := by
        cases container <;> decide
      have few := Nat.le_mul_of_pos_right count each
      exact holds container count (by omega)

/-- For every bound and every input, decoding is controlled if and only if no
container that it comes to declares more elements than the bytes behind its
head can hold, and no item is nested deeper than the bound. -/
theorem decode_controlled_iff (bound : Nat) (input : Bytes) :
    ControlledRun bound input ↔ CountsFit bound input := by
  constructor
  · intro controlled
    constructor
    · intro depth info count digits body container place head
      obtain ⟨behind, reached, atBody, reserved⟩ := reserve_of_place place head
      have fits := controlled.foreseen _ container count behind reserved
      rwa [← List.length_drop, atBody] at fits
    · intro depth rest place
      obtain ⟨before, after, called⟩ := call_of_place place
      exact controlled.shallow _ depth before after called
  · intro fit
    refine ⟨?_, ?_, ?_⟩
    · intro storage holds
      have same : decode storage input = decode .unlimited input :=
        readItem_granted storage (input.length + 1) 0 0 (fit.granted holds)
      rw [← decode_result, same, decode_result]
      exact decode_ok_or_refusal input
    · intro storage container count position occurs
      exact fit.foreseen occurs
    · intro storage depth before after occurs
      obtain ⟨inside, rfl, place⟩ := announced_of_decode occurs
      rw [Nat.zero_add]
      exact fit.shallow place

/-- Tags around tags nest as deep as there are bytes. -/
theorem nestedTags (depth : Nat) :
    ItemAt (List.replicate depth 0xc0) depth [] := by
  induction depth with
  | zero => exact .root
  | succ depth ih =>
      exact .content (.inline (by decide : 0 < 24)) ih

/-- Vectors whose size in bytes stays below half of the address space. -/
def addressable : Storage :=
  ⟨fun elementSize count =>
    if elementSize * count < 2 ^ 63 then return ()
    else throw (.stdException "vector::reserve")⟩

def hugeArray : Bytes :=
  [0x9b, 0xff, 0xff, 0xff, 0xff, 0xff, 0xff, 0xff, 0xff]

theorem decode_uncontrolled :
    Holds addressable hugeArray.length ∧
    Cbor.decode addressable hugeArray =
      .error (.stdException "vector::reserve") ∧
    ¬∃ bound, ∀ input, ControlledRun bound input := by
  refine ⟨?_, rfl, ?_⟩
  · intro container count few
    have small : container.elementSize * count < 2 ^ 63 := by
      have sizeLe : container.elementSize ≤ 240 := by
        cases container <;> decide
      have countLe : count ≤ 9 := few
      calc container.elementSize * count ≤ 240 * 9 :=
            Nat.mul_le_mul sizeLe countLe
        _ < 2 ^ 63 := by decide
    exact if_pos small
  · rintro ⟨bound, controlled⟩
    obtain ⟨before, after, called⟩ := call_of_place (nestedTags (bound + 1))
    have shallow := (controlled _).shallow _ _ _ _ called
    omega

end TeeAnchor.CborRun
