import TeeAnchor.ByteStrings
import Mathlib.Data.List.DropRight
import Mathlib.Data.List.TakeWhile

/-!
# Text as the standard streams read and write it

Lines as a `getline` loop delivers them, the words and unsigned numbers that
`operator>>` takes from a line in the classic locale, blanks taken off both
ends, and numbers printed in decimal.  What is written as a line, a word or a
number is read back as it was.
-/

namespace TeeAnchor

def isSpace (byte : UInt8) : Bool :=
  byte == 32 || (9 ≤ byte && byte ≤ 13)

def isDigit (byte : UInt8) : Bool :=
  48 ≤ byte && byte ≤ 57

/-- `tolower`. -/
def toLower (byte : UInt8) : UInt8 :=
  if 65 ≤ byte && byte ≤ 90 then byte + 32 else byte

/-- The lines of a `getline` loop, the line begun so far first.  A read error
drops the line it interrupts. -/
def getlines (readError : Bool) (begun : Bytes) : Bytes → List Bytes
  | [] => if readError || begun.isEmpty then [] else [begun]
  | byte :: rest =>
      if byte == 10 then begun :: getlines readError [] rest
      else getlines readError (begun ++ [byte]) rest

def strip {α : Type} (blank : α → Bool) (text : List α) : List α :=
  (text.dropWhile blank).rdropWhile blank

/-- `>>` into a string: the word, empty when there is none, and the text after
it. -/
def extractWord (text : Bytes) : Bytes × Bytes :=
  let start := text.dropWhile isSpace
  (start.takeWhile (! isSpace ·), start.dropWhile (! isSpace ·))

def digitsValue (digits : Bytes) : Nat :=
  digits.foldl (fun value digit => 10 * value + (digit.toNat - 48)) 0

/-- The number that was extracted and the stream state after it. -/
structure Extracted where
  value : UInt64
  fail : Bool
  eof : Bool
  deriving DecidableEq, Repr

/-- `>>` into an unsigned number of 64 bits.  A minus sign negates modulo
`2 ^ 64`. -/
def extractUInt64 (text : Bytes) : Extracted :=
  match text.dropWhile isSpace with
  | [] => ⟨0, true, true⟩
  | first :: rest =>
      let body := if first == 45 || first == 43 then rest else first :: rest
      let digits := body.takeWhile isDigit
      let eof := (body.dropWhile isDigit).isEmpty
      let value := digitsValue digits
      if digits.isEmpty then ⟨0, true, eof⟩
      else if 2 ^ 64 ≤ value then ⟨UInt64.ofNat (2 ^ 64 - 1), true, eof⟩
      else if first == 45 then ⟨-UInt64.ofNat value, false, eof⟩
      else ⟨UInt64.ofNat value, false, eof⟩

def decimal (number : Nat) : Bytes :=
  (Nat.toDigits 10 number).map fun char => UInt8.ofNat char.toNat

/-- A text that `>>` takes as one word. -/
def IsWord (text : Bytes) : Prop :=
  text ≠ [] ∧ ∀ byte ∈ text, isSpace byte = false

instance (text : Bytes) : Decidable (IsWord text) :=
  @instDecidableAnd _ _ _ (List.decidableBAll _ _)

theorem getlines_append (readError : Bool) (begun line rest : Bytes)
    (oneLine : 10 ∉ line) :
    getlines readError begun (line ++ 10 :: rest) =
      (begun ++ line) :: getlines readError [] rest := by
  induction line generalizing begun with
  | nil => simp [getlines]
  | cons byte line ih =>
      rw [List.mem_cons, not_or] at oneLine
      have notEnd : (byte == 10) = false := by
        simpa using Ne.symm oneLine.1
      rw [List.cons_append, getlines, notEnd, if_neg Bool.false_ne_true,
        ih _ oneLine.2, List.append_assoc]
      rfl

/-- Text made of whole lines is read back line by line. -/
theorem getlines_flatMap {α : Type} (readError : Bool) (line : α → Bytes)
    (values : List α) (oneLine : ∀ value ∈ values, 10 ∉ line value) :
    getlines readError [] (values.flatMap fun value => line value ++ [10]) =
      values.map line := by
  induction values with
  | nil => simp [getlines]
  | cons value values ih =>
      rw [List.forall_mem_cons] at oneLine
      rw [List.flatMap_cons, List.append_assoc, List.singleton_append,
        getlines_append _ _ _ _ oneLine.1, ih oneLine.2]
      rfl

theorem not_mem_getlines {readError : Bool} {begun text : Bytes}
    (begunLine : 10 ∉ begun) :
    ∀ line ∈ getlines readError begun text, 10 ∉ line := by
  induction text generalizing begun with
  | nil =>
      intro line member
      rw [getlines] at member
      split at member
      · simp at member
      · rw [List.mem_singleton] at member
        rwa [member]
  | cons byte text ih =>
      intro line member
      rw [getlines] at member
      by_cases atEnd : byte = 10
      · simp only [atEnd, beq_self_eq_true, if_true, List.mem_cons] at member
        rcases member with rfl | later
        · exact begunLine
        · exact ih List.not_mem_nil line later
      · rw [if_neg (by simpa using atEnd)] at member
        apply ih ?_ line member
        rw [List.mem_append, List.mem_singleton]
        rintro (earlier | here)
        · exact begunLine earlier
        · exact atEnd here.symm

theorem strip_eq_self {α : Type} {blank : α → Bool} {text : List α}
    (first : ∀ element ∈ text.head?, blank element = false)
    (last : ∀ element ∈ text.getLast?, blank element = false) :
    strip blank text = text := by
  have kept : text.dropWhile blank = text := by
    cases text with
    | nil => rfl
    | cons element text =>
        rw [List.dropWhile_cons_of_neg]
        simp [first element rfl]
  rw [strip, kept, List.rdropWhile_eq_self_iff]
  intro nonempty
  simp [last _ (List.getLast?_eq_getLast_of_ne_nil nonempty)]

theorem strip_cons_blank {α : Type} {blank : α → Bool} {element : α}
    (isBlank : blank element = true) (text : List α) :
    strip blank (element :: text) = strip blank text := by
  rw [strip, List.dropWhile_cons_of_pos isBlank, strip]

theorem strip_idempotent {α : Type} (blank : α → Bool) (text : List α) :
    strip blank (strip blank text) = strip blank text := by
  have first : (strip blank text).dropWhile blank = strip blank text := by
    rw [List.dropWhile_eq_self_iff]
    intro nonempty
    have isPrefix := List.rdropWhile_prefix blank (text.dropWhile blank)
    have fromStart := isPrefix.getElem nonempty
    have longer : 0 < (text.dropWhile blank).length :=
      lt_of_lt_of_le nonempty isPrefix.length_le
    have startKept := List.dropWhile_eq_self_iff.mp
      (List.dropWhile_idempotent blank text) longer
    rwa [← fromStart] at startKept
  rw [strip, first, strip, List.rdropWhile_idempotent]

theorem mem_of_mem_strip {α : Type} {blank : α → Bool} {text : List α}
    {element : α} (member : element ∈ strip blank text) : element ∈ text :=
  (List.dropWhile_suffix blank).subset
    ((List.rdropWhile_prefix blank _).subset member)

theorem extractWord_append {word rest : Bytes} (isWord : IsWord word)
    (ends : ∀ byte ∈ rest.head?, isSpace byte = true) :
    extractWord (word ++ rest) = (word, rest) := by
  obtain ⟨nonempty, noSpace⟩ := isWord
  have start : (word ++ rest).dropWhile isSpace = word ++ rest := by
    cases word with
    | nil => exact absurd rfl nonempty
    | cons byte word =>
        rw [List.cons_append, List.dropWhile_cons_of_neg]
        simp [noSpace byte List.mem_cons_self]
  have wordTaken : ∀ byte ∈ word, (! isSpace byte) = true := by
    intro byte member
    simp [noSpace byte member]
  unfold extractWord
  simp only [start]
  rw [List.takeWhile_append_of_pos wordTaken,
    List.dropWhile_append_of_pos wordTaken]
  cases rest with
  | nil => simp
  | cons byte rest =>
      rw [List.takeWhile_cons_of_neg (by simp [ends byte rfl]),
        List.dropWhile_cons_of_neg (by simp [ends byte rfl]), List.append_nil]

theorem extractWord_cons_space {byte : UInt8} (space : isSpace byte = true)
    (text : Bytes) : extractWord (byte :: text) = extractWord text := by
  unfold extractWord
  rw [List.dropWhile_cons_of_pos space]

theorem isWord_extractWord {text : Bytes} (found : (extractWord text).1 ≠ []) :
    IsWord (extractWord text).1 := by
  refine ⟨found, ?_⟩
  intro byte member
  have kept := List.mem_takeWhile_imp member
  simpa using kept

theorem mem_of_mem_extractWord {text : Bytes} {byte : UInt8}
    (member : byte ∈ (extractWord text).1 ∨ byte ∈ (extractWord text).2) :
    byte ∈ text := by
  have inStart : byte ∈ text.dropWhile isSpace := by
    rcases member with inWord | after
    · exact (List.takeWhile_prefix _).subset inWord
    · exact (List.dropWhile_suffix _).subset after
  exact (List.dropWhile_suffix _).subset inStart

theorem extractWord_nil {text : Bytes} (empty : (extractWord text).1 = []) :
    (extractWord text).2 = [] := by
  unfold extractWord at empty ⊢
  simp only at empty ⊢
  cases start : text.dropWhile isSpace with
  | nil => rfl
  | cons first rest =>
      have notSpace : isSpace first = false := by
        have head := List.head?_dropWhile_not isSpace text
        rw [start] at head
        exact head
      rw [start, List.takeWhile_cons_of_pos (by simp [notSpace])] at empty
      cases empty

theorem digitChar_byte {char : Char} (digit : char.isDigit = true) :
    (UInt8.ofNat char.toNat).toNat = char.toNat := by
  have bounds : 48 ≤ char.toNat ∧ char.toNat ≤ 57 :=
    Char.isDigit_iff_toNat.mp digit
  rw [UInt8.toNat_ofNat']
  omega

theorem isDigit_of_mem_decimal {number : Nat} :
    ∀ byte ∈ decimal number, isDigit byte = true := by
  intro byte member
  obtain ⟨char, charMember, rfl⟩ := List.mem_map.mp member
  have charDigit := Nat.isDigit_of_mem_toDigits (by decide) (by decide)
    charMember
  have value := digitChar_byte charDigit
  rw [Char.isDigit_iff_toNat] at charDigit
  simp only [isDigit, Bool.and_eq_true, decide_eq_true_eq, UInt8.le_iff_toNat_le,
    value]
  exact charDigit

theorem decimal_ne_nil (number : Nat) : decimal number ≠ [] := by
  simp [decimal, Nat.toDigits_ne_nil]

theorem digitsValue_decimal (number : Nat) :
    digitsValue (decimal number) = number := by
  have general : ∀ (chars : List Char) (start : Nat),
      (∀ char ∈ chars, char.isDigit = true) →
      (chars.map fun char => UInt8.ofNat char.toNat).foldl
        (fun value digit => 10 * value + (digit.toNat - 48)) start =
          Nat.ofDigitChars 10 chars start := by
    intro chars
    induction chars with
    | nil => simp [Nat.ofDigitChars_nil]
    | cons char chars ih =>
        intro start digits
        rw [List.forall_mem_cons] at digits
        rw [List.map_cons, List.foldl_cons, digitChar_byte digits.1,
          ih _ digits.2, Nat.ofDigitChars_cons]
        rfl
  unfold digitsValue decimal
  rw [general]
  · exact Nat.ofDigitChars_ten_toDigits
  · intro char member
    exact Nat.isDigit_of_mem_toDigits (by decide) (by decide) member

/-- Nothing above a blank is space. -/
theorem not_isSpace_of_large {byte : UInt8} (large : 32 < byte.toNat) :
    isSpace byte = false := by
  have notBlank : byte ≠ 32 := by
    rintro rfl
    simp at large
  have notBelow : ¬ byte ≤ 13 := by
    simp only [UInt8.le_iff_toNat_le, UInt8.reduceToNat]
    omega
  simp [isSpace, notBlank, notBelow]

theorem not_isSpace_of_isDigit {byte : UInt8} (digit : isDigit byte = true) :
    isSpace byte = false := by
  simp only [isDigit, Bool.and_eq_true, decide_eq_true_eq,
    UInt8.le_iff_toNat_le, UInt8.reduceToNat] at digit
  exact not_isSpace_of_large (by omega)

def numberBody (text : Bytes) : Bytes :=
  let start := text.dropWhile isSpace
  if start.head? = some 45 ∨ start.head? = some 43 then start.tail else start

theorem numberBody_cons {text : Bytes} {first : UInt8} {rest : Bytes}
    (start : text.dropWhile isSpace = first :: rest) :
    numberBody text =
      if first == 45 || first == 43 then rest else first :: rest := by
  unfold numberBody
  simp only [start, List.head?_cons, Option.some.injEq, List.tail_cons,
    Bool.or_eq_true, beq_iff_eq]

theorem extractUInt64_fail (text : Bytes) :
    (extractUInt64 text).fail = true ↔
      (numberBody text).takeWhile isDigit = [] ∨
        2 ^ 64 ≤ digitsValue ((numberBody text).takeWhile isDigit) := by
  unfold extractUInt64
  cases start : text.dropWhile isSpace with
  | nil => simp [numberBody, start]
  | cons first rest =>
      rw [numberBody_cons start]
      simp only [List.isEmpty_iff]
      generalize (if first == 45 || first == 43 then rest
        else first :: rest) = body
      split
      · rename_i noDigit
        exact iff_of_true rfl (Or.inl noDigit)
      · rename_i digits
        split
        · rename_i large
          exact iff_of_true rfl (Or.inr large)
        · rename_i small
          have never := not_or.mpr ⟨digits, small⟩
          split
          · exact iff_of_false Bool.false_ne_true never
          · exact iff_of_false Bool.false_ne_true never

theorem extractUInt64_eof (text : Bytes) :
    (extractUInt64 text).eof = ((numberBody text).dropWhile isDigit).isEmpty := by
  unfold extractUInt64
  cases start : text.dropWhile isSpace with
  | nil => simp [numberBody, start]
  | cons first rest =>
      rw [numberBody_cons start]
      simp only
      repeat' split
      all_goals rfl

/-- A stronger predicate that holds of all that is taken takes as much. -/
theorem takeWhile_of_stronger {α : Type} {strong weak : α → Bool}
    {list : List α}
    (stronger : ∀ element, strong element = true → weak element = true)
    (holds : ∀ element ∈ list.takeWhile weak, strong element = true) :
    list.takeWhile strong = list.takeWhile weak := by
  induction list with
  | nil => rfl
  | cons element list ih =>
      cases here : weak element with
      | false =>
          have notStrong : ¬ strong element = true := by
            intro isStrong
            rw [stronger element isStrong] at here
            cases here
          rw [List.takeWhile_cons_of_neg notStrong,
            List.takeWhile_cons_of_neg (by simp [here])]
      | true =>
          rw [List.takeWhile_cons_of_pos here, List.forall_mem_cons] at holds
          rw [List.takeWhile_cons_of_pos holds.1,
            List.takeWhile_cons_of_pos here, ih holds.2]

/-- A word of digits is extracted as the number it denotes. -/
theorem extractUInt64_word {text : Bytes} (nonempty : (extractWord text).1 ≠ [])
    (digits : ∀ byte ∈ (extractWord text).1, isDigit byte = true)
    (fits : digitsValue (extractWord text).1 < 2 ^ 64) :
    (extractUInt64 text).value =
      UInt64.ofNat (digitsValue (extractWord text).1) := by
  unfold extractWord at nonempty digits fits ⊢
  simp only at nonempty digits fits ⊢
  unfold extractUInt64
  cases start : text.dropWhile isSpace with
  | nil =>
      rw [start] at nonempty
      exact absurd rfl nonempty
  | cons first rest =>
      rw [start] at nonempty digits fits
      have taken : (first :: rest).takeWhile isDigit =
          (first :: rest).takeWhile (! isSpace ·) := by
        apply takeWhile_of_stronger _ digits
        intro byte digit
        simp [not_isSpace_of_isDigit digit]
      have firstDigit : isDigit first = true := by
        rw [← taken] at nonempty
        by_contra noDigit
        rw [List.takeWhile_cons_of_neg noDigit] at nonempty
        exact nonempty rfl
      have notSign : ∀ sign : UInt8, isDigit sign = false →
          (first == sign) = false := by
        intro sign noDigit
        rw [beq_eq_false_iff_ne]
        rintro rfl
        rw [firstDigit] at noDigit
        cases noDigit
      simp only [notSign 45 rfl, notSign 43 rfl, Bool.or_self,
        Bool.false_eq_true, if_false, taken, List.isEmpty_iff, nonempty,
        Nat.not_le.mpr fits]

/-- A number that is printed is read back, from the end of a line. -/
theorem extractUInt64_decimal (number : UInt64) :
    extractUInt64 (32 :: decimal number.toNat) = ⟨number, false, true⟩ := by
  have digits := @isDigit_of_mem_decimal number.toNat
  have bound := number.toNat_lt
  have value := digitsValue_decimal number.toNat
  unfold extractUInt64
  rw [List.dropWhile_cons_of_pos (by decide)]
  cases printed : decimal number.toNat with
  | nil => exact absurd printed (decimal_ne_nil _)
  | cons first rest =>
      rw [printed] at digits value
      have firstDigit := digits first List.mem_cons_self
      have start : (first :: rest).dropWhile isSpace = first :: rest := by
        rw [List.dropWhile_cons_of_neg]
        simp [not_isSpace_of_isDigit firstDigit]
      have notMinus : (first == 45) = false := by
        rw [beq_eq_false_iff_ne]
        rintro rfl
        cases firstDigit
      have notPlus : (first == 43) = false := by
        rw [beq_eq_false_iff_ne]
        rintro rfl
        cases firstDigit
      have all : (first :: rest).takeWhile isDigit = first :: rest :=
        List.takeWhile_eq_self_iff.mpr digits
      have nothing : (first :: rest).dropWhile isDigit = [] :=
        List.dropWhile_eq_nil_iff.mpr digits
      simp only [start, notMinus, notPlus, Bool.or_self, Bool.false_eq_true,
        if_false, all, nothing, value, List.isEmpty_cons, List.isEmpty_nil,
        UInt64.ofNat_toNat]
      rw [if_neg (by omega)]

end TeeAnchor
