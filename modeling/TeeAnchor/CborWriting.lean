import TeeAnchor.CborEncoding
import Mathlib.Data.List.Nodup

/-!
# Items as they are written

A writer puts items together with the heads of the encoder.  Each item that is
written so carries the proof that its bytes are an encoding of its value, so
that the decoder reads it back.
-/

namespace TeeAnchor.Cbor

/-- A value and one of its encodings. -/
structure Written where
  value : Value
  word : Bytes
  isItem : Item value word

/-- A string whose length fits in the heads of the encoder. -/
abbrev ShortBytes : Type :=
  {content : Bytes // content.length < 2 ^ 32}

/-- The argument of an integer item. -/
def argument (number : Int64) : UInt64 :=
  if 0 ≤ number then number.toUInt64 else (-1 - number).toUInt64

def Value.ofInt64 (number : Int64) : Value :=
  if 0 ≤ number then .uint (argument number) else .nint (argument number)

def encInteger (number : Int64) : Bytes :=
  encHead (if 0 ≤ number then 0 else 1) (argument number)

abbrev SmallInteger : Type :=
  {number : Int64 // (argument number).toNat < 2 ^ 32}

theorem encInteger_item {number : Int64}
    (small : (argument number).toNat < 2 ^ 32) :
    Item (.ofInt64 number) (encInteger number) := by
  unfold Value.ofInt64 encInteger
  by_cases positive : 0 ≤ number
  · obtain ⟨info, digits, written, head⟩ :=
      @encHead_argument 0 (by decide) (argument number) small
    rw [if_pos positive, if_pos positive]
    exact written ▸ .uint head
  · obtain ⟨info, digits, written, head⟩ :=
      @encHead_argument 1 (by decide) (argument number) small
    rw [if_neg positive, if_neg positive]
    exact written ▸ .nint head

theorem asInt_ofInt64 (number : Int64) :
    (Value.ofInt64 number).asInt = .ok number := by
  unfold Value.ofInt64 argument
  by_cases positive : 0 ≤ number
  · rw [if_pos positive, if_pos positive]
    rfl
  · have back : -1 - (-1 - number) = number := by grind
    rw [if_neg positive, if_neg positive]
    exact congrArg Except.ok back

namespace Written

theorem decode_append (written : Written) (rest : Bytes) :
    decode .unlimited (written.word ++ rest) = .ok written.value :=
  decode_eq_ok_iff.mpr ⟨written.word, written.isItem, List.prefix_append _ _⟩

theorem decode_word (written : Written) :
    decode .unlimited written.word = .ok written.value := by
  have readBack := written.decode_append []
  rwa [List.append_nil] at readBack

def bytes (content : ShortBytes) : Written where
  value := .bytes content.val
  word := encBytes content.val
  isItem := encBytes_item content.property

def integer (number : SmallInteger) : Written where
  value := .ofInt64 number.val
  word := encInteger number.val
  isItem := encInteger_item number.property

def array (items : List Written) (few : items.length < 2 ^ 32) : Written where
  value := .array (items.map value)
  word := encHead 4 (UInt64.ofNat items.length) ++ items.flatMap word
  isItem := by
    have whole := @encHead_array_item
      (items.map fun item => (item.value, item.word)) (by simpa using few)
      (by simpa using fun item _ => item.isItem)
    simpa [Function.comp_def, List.flatMap_map] using whole

theorem map_item {entries : List (Written × Written)}
    (few : entries.length < 2 ^ 32) :
    Item (.map (entries.map fun entry => (entry.1.value, entry.2.value)))
      (encHead 5 (UInt64.ofNat entries.length) ++
        entries.flatMap fun entry => entry.1.word ++ entry.2.word) := by
  have lengthEq : (UInt64.ofNat entries.length).toNat = entries.length := by
    rw [UInt64.toNat_ofNat']
    omega
  obtain ⟨info, digits, written, head⟩ := @encHead_argument 5 (by decide)
    (UInt64.ofNat entries.length) (by omega)
  have headIs : encHead 5 (UInt64.ofNat entries.length) =
      headByte 5 info :: digits := written
  have whole := @Item.map info digits
    (entries.map fun entry =>
      ((entry.1.value, entry.1.word), (entry.2.value, entry.2.word)))
    (by rwa [List.length_map, ← lengthEq])
    (by
      rw [List.forall_mem_map]
      exact fun entry _ => entry.1.isItem)
    (by
      rw [List.forall_mem_map]
      exact fun entry _ => entry.2.isItem)
  simpa [headIs, Function.comp_def, List.flatMap_map] using whole

def map (entries : List (Written × Written))
    (few : entries.length < 2 ^ 32) : Written where
  value := .map (entries.map fun entry => (entry.1.value, entry.2.value))
  word := encHead 5 (UInt64.ofNat entries.length) ++
    entries.flatMap fun entry => entry.1.word ++ entry.2.word
  isItem := map_item few

theorem tag_item {number : UInt64} (small : number.toNat < 2 ^ 32)
    (content : Written) :
    Item (.tag number content.value) (encHead 6 number ++ content.word) := by
  obtain ⟨info, digits, written, head⟩ :=
    @encHead_argument 6 (by decide) number small
  have headIs : encHead 6 number = headByte 6 info :: digits := written
  rw [headIs]
  exact .tag head content.isItem

/-- An item with a tag, or without it. -/
def tagged (present : Bool) (number : UInt64)
    (small : number.toNat < 2 ^ 32) (content : Written) : Written :=
  if present then
    ⟨.tag number content.value, encHead 6 number ++ content.word,
      tag_item small content⟩
  else content

/-- A tag that may be missing is stripped. -/
theorem untag_tagged {present : Bool} {number : UInt64}
    {small : number.toNat < 2 ^ 32} {content : Written}
    (untagged : ∀ other inner, content.value ≠ .tag other inner) :
    (tagged present number small content).value.untag number =
      .ok content.value := by
  cases present with
  | true => simp [tagged, Value.untag, pure, Except.pure]
  | false =>
      unfold tagged
      rw [if_neg Bool.false_ne_true]
      unfold Value.untag
      split
      · rename_i other inner isTag
        exact absurd isTag (untagged other inner)
      · rfl

end Written

def presentEntries (named : List (SmallInteger × Option Written)) :
    List (Written × Written) :=
  named.filterMap fun entry =>
    entry.2.map fun content => (.integer entry.1, content)

/-- The entries of a map, in any order: the named ones that are present, and
others under none of the names. -/
structure Listing (named : List (SmallInteger × Option Written)) where
  entries : List (Written × Written)
  others : List (Written × Written)
  arranged : entries.Perm (presentEntries named ++ others)
  foreign : ∀ entry ∈ others, ∀ key ∈ named.map Prod.fst,
    entry.1.value.asInt ≠ .ok key.val
  few : entries.length < 2 ^ 32

namespace Listing

variable {named : List (SmallInteger × Option Written)}

def written (listing : Listing named) : Written :=
  .map listing.entries listing.few

theorem mem_entries {listing : Listing named} {entry : Written × Written} :
    entry ∈ listing.entries ↔
      (∃ key content, (key, some content) ∈ named ∧
        entry = (.integer key, content)) ∨ entry ∈ listing.others := by
  rw [listing.arranged.mem_iff, List.mem_append]
  apply or_congr_left
  unfold presentEntries
  simp only [List.mem_filterMap, Prod.exists, Option.map_eq_some_iff]
  constructor
  · rintro ⟨key, _, isNamed, content, rfl, same⟩
    exact ⟨key, content, isNamed, same.symm⟩
  · rintro ⟨key, content, isNamed, same⟩
    exact ⟨key, _, isNamed, content, rfl, same.symm⟩

/-- An entry that reads as a name is the one that was named so. -/
theorem named_of_asInt {listing : Listing named}
    (distinct : (named.map Prod.fst).Nodup) {key : SmallInteger}
    {content : Option Written} (isNamed : (key, content) ∈ named)
    {entry : Written × Written} (member : entry ∈ listing.entries)
    (reads : entry.1.value.asInt = .ok key.val) :
    content = some entry.2 := by
  rcases mem_entries.mp member with ⟨other, found, otherNamed, rfl⟩ | other
  · have sameKey : other = key := by
      rw [show (Written.integer other).value = .ofInt64 other.val from rfl,
        asInt_ofInt64] at reads
      exact Subtype.ext (Except.ok.inj reads)
    subst sameKey
    have same := List.inj_on_of_nodup_map distinct isNamed otherNamed rfl
    exact congrArg Prod.snd same
  · exact absurd reads
      (listing.foreign entry other key (List.mem_map_of_mem isNamed))

/-- What is looked up under a name is what was written under it. -/
theorem atKey_written (listing : Listing named)
    (distinct : (named.map Prod.fst).Nodup) {key : SmallInteger}
    {content : Option Written} (isNamed : (key, content) ∈ named) :
    listing.written.value.atKey key.val = content.map Written.value := by
  unfold written Written.map Value.atKey Value.pairs
  rw [List.find?_map, Option.map_map]
  cases found : listing.entries.find? _ with
  | none =>
      cases content with
      | none => rfl
      | some content =>
          rw [List.find?_eq_none] at found
          have present : (.integer key, content) ∈ listing.entries :=
            mem_entries.mpr (.inl ⟨key, content, isNamed, rfl⟩)
          have differs := found _ present
          simp [Written.integer, asInt_ofInt64] at differs
  | some entry =>
      have member := List.mem_of_find?_eq_some found
      have reads : entry.1.value.asInt = .ok key.val := by
        have holds := List.find?_some found
        cases read : entry.1.value.asInt with
        | error failure => simp [read] at holds
        | ok number =>
            simp only [Function.comp_apply, read] at holds
            exact congrArg Except.ok (beq_iff_eq.mp holds)
      rw [named_of_asInt distinct isNamed member reads]
      rfl

end Listing

end TeeAnchor.Cbor
