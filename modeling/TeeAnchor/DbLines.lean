import TeeAnchor.RevocationDb

/-!
# The lines of the revocation database

Each line of the database is skipped, gives the CRL number, gives one entry or
is refused.  A file is accepted exactly when no line of it is refused, and what
is loaded is the last of the numbers and all of the entries.
-/

namespace TeeAnchor.Ca

variable {path : String} {lineno : Nat} {db loaded : RevocationDb}
  {line : Bytes} {lines : List Bytes}

def isIgnored (line : Bytes) : Bool :=
  (trim line).isEmpty || (trim line).head? == some 35

def isNumberLine (line : Bytes) : Bool :=
  !isIgnored line && crlNumberTag.isPrefixOf (trim line)

def isEntryLine (line : Bytes) : Bool :=
  !isIgnored line && !crlNumberTag.isPrefixOf (trim line)

/-- The text behind the keyword. -/
def afterKeyword (line : Bytes) : Bytes :=
  (extractWord (trim line)).2

/-- No number that fits is there, and the text does not end where the number
does. -/
def NumberRefused (text : Bytes) : Prop :=
  (numberBody text).dropWhile isDigit ≠ [] ∧
    ((numberBody text).takeWhile isDigit = [] ∨
      2 ^ 64 ≤ digitsValue ((numberBody text).takeWhile isDigit))

instance (text : Bytes) : Decidable (NumberRefused text) :=
  inferInstanceAs (Decidable (_ ∧ _))

/-- A line of the number that is refused, or the line of an entry without a
second word. -/
def LineRefused (line : Bytes) : Prop :=
  isNumberLine line = true ∧ NumberRefused (afterKeyword line) ∨
    isEntryLine line = true ∧ (extractWord (afterKeyword line)).1 = []

instance (line : Bytes) : Decidable (LineRefused line) :=
  inferInstanceAs (Decidable (_ ∨ _))

def lineNumber (line : Bytes) : Option UInt64 :=
  if isNumberLine line then some (extractUInt64 (afterKeyword line)).value
  else none

def lineEntry (line : Bytes) : Option RevocationEntry :=
  if isEntryLine line then
    some ⟨(extractWord (trim line)).1.map toLower,
      (extractWord (afterKeyword line)).1,
      trim (extractWord (afterKeyword line)).2⟩
  else none

theorem numberRefused_iff (text : Bytes) :
    ((extractUInt64 text).fail && !(extractUInt64 text).eof) = true ↔
      NumberRefused text := by
  unfold NumberRefused
  rw [Bool.and_eq_true, extractUInt64_fail, extractUInt64_eof,
    Bool.not_eq_true', List.isEmpty_eq_false_iff, and_comm]

theorem loadLine_ignored (ignored : isIgnored line = true) :
    loadLine path lineno db line = .ok db := by
  unfold isIgnored at ignored
  unfold loadLine
  simp only [ignored, if_true]
  rfl

theorem loadLine_number (number : isNumberLine line = true) :
    loadLine path lineno db line =
      if NumberRefused (afterKeyword line) then
        teeAnchorError (atLine path lineno "invalid 'crl-number' line")
      else
        .ok { db with
          crlNumber := (extractUInt64 (afterKeyword line)).value } := by
  rw [isNumberLine, Bool.and_eq_true, Bool.not_eq_true', isIgnored] at number
  unfold loadLine
  simp only [number.1, number.2, Bool.false_eq_true, if_false, if_true]
  simp only [← afterKeyword.eq_def, numberRefused_iff]
  rfl

theorem loadLine_entry (entry : isEntryLine line = true) :
    loadLine path lineno db line =
      if (extractWord (afterKeyword line)).1 = [] then
        teeAnchorError
          (atLine path lineno "expected '<serial> <date> [<reason>]'")
      else
        .ok { db with
          entries := db.entries ++
            [⟨(extractWord (trim line)).1.map toLower,
              (extractWord (afterKeyword line)).1,
              trim (extractWord (afterKeyword line)).2⟩] } := by
  rw [isEntryLine, Bool.and_eq_true, Bool.not_eq_true', Bool.not_eq_true',
    isIgnored] at entry
  have noSerial : (extractWord (trim line)).1 = [] →
      (extractWord (afterKeyword line)).1 = [] := by
    intro empty
    rw [afterKeyword, extractWord_nil empty]
    rfl
  unfold loadLine
  simp only [entry.1, entry.2, Bool.false_eq_true, if_false]
  simp only [← afterKeyword.eq_def, Bool.or_eq_true, List.isEmpty_iff,
    or_iff_right_of_imp noSerial]
  rfl

/-- A line is of exactly one kind. -/
theorem line_cases (line : Bytes) :
    (isIgnored line = true ∧ isNumberLine line = false ∧
        isEntryLine line = false) ∨
      (isNumberLine line = true ∧ isEntryLine line = false) ∨
      (isNumberLine line = false ∧ isEntryLine line = true) := by
  unfold isNumberLine isEntryLine
  cases isIgnored line with
  | true => exact Or.inl ⟨rfl, rfl, rfl⟩
  | false =>
      cases crlNumberTag.isPrefixOf (trim line) with
      | true => exact Or.inr (Or.inl ⟨rfl, rfl⟩)
      | false => exact Or.inr (Or.inr ⟨rfl, rfl⟩)

theorem loadLine_eq_ok :
    loadLine path lineno db line = .ok loaded ↔
      ¬ LineRefused line ∧
        loaded = ⟨(lineNumber line).getD db.crlNumber,
          db.entries ++ (lineEntry line).toList⟩ := by
  unfold LineRefused lineNumber lineEntry
  rcases line_cases line with ⟨ignored, noNumber, noEntry⟩ |
    ⟨number, noEntry⟩ | ⟨noNumber, entry⟩
  · rw [loadLine_ignored ignored]
    simp only [noNumber, noEntry, Bool.false_eq_true, false_and, or_self,
      not_false_eq_true, true_and, if_false, Option.getD_none,
      Option.toList_none, List.append_nil, Except.ok.injEq]
    exact eq_comm
  · rw [loadLine_number number]
    simp only [number, noEntry, Bool.false_eq_true, false_and, or_false,
      true_and, if_true, if_false]
    split
    · rename_i refused
      simp [refused]
    · rename_i accepted
      simp [accepted, eq_comm]
  · rw [loadLine_entry entry]
    simp only [entry, noNumber, Bool.false_eq_true, false_and, false_or,
      true_and, if_true, if_false]
    split
    · rename_i refused
      simp [refused]
    · rename_i accepted
      simp [accepted, eq_comm]

theorem loadLine_error {failure : Exception}
    (refused : loadLine path lineno db line = .error failure) :
    ∃ what, failure = .teeAnchorError what := by
  rcases line_cases line with ⟨ignored, _⟩ | ⟨number, _⟩ | ⟨_, entry⟩
  · rw [loadLine_ignored ignored] at refused
    cases refused
  · rw [loadLine_number number] at refused
    split at refused
    · cases refused
      exact ⟨_, rfl⟩
    · cases refused
  · rw [loadLine_entry entry] at refused
    split at refused
    · cases refused
      exact ⟨_, rfl⟩
    · cases refused

theorem loadLines_eq_ok :
    loadLines path lineno db lines = .ok loaded ↔
      (∀ line ∈ lines, ¬ LineRefused line) ∧
        loaded = ⟨(lines.filterMap lineNumber).getLastD db.crlNumber,
          db.entries ++ lines.filterMap lineEntry⟩ := by
  induction lines generalizing lineno db with
  | nil => simp [loadLines, pure, Except.pure, eq_comm]
  | cons line lines ih =>
      rw [loadLines, bind_eq_ok, List.forall_mem_cons]
      simp only [loadLine_eq_ok, ih]
      have numbers : ((line :: lines).filterMap lineNumber).getLastD
          db.crlNumber = (lines.filterMap lineNumber).getLastD
            ((lineNumber line).getD db.crlNumber) := by
        cases number : lineNumber line with
        | none => rw [List.filterMap_cons_none number]; rfl
        | some value =>
            rw [List.filterMap_cons_some number, List.getLastD_cons]
            rfl
      have entries : (line :: lines).filterMap lineEntry =
          (lineEntry line).toList ++ lines.filterMap lineEntry := by
        cases entry : lineEntry line with
        | none => rw [List.filterMap_cons_none entry]; rfl
        | some value => rw [List.filterMap_cons_some entry]; rfl
      rw [numbers, entries, ← List.append_assoc]
      constructor
      · rintro ⟨_, ⟨here, rfl⟩, later, rfl⟩
        exact ⟨⟨here, later⟩, rfl⟩
      · rintro ⟨⟨here, later⟩, rfl⟩
        exact ⟨_, ⟨here, rfl⟩, later, rfl⟩

theorem loadLines_error {failure : Exception}
    (refused : loadLines path lineno db lines = .error failure) :
    ∃ what, failure = .teeAnchorError what := by
  induction lines generalizing lineno db with
  | nil => cases refused
  | cons line lines ih =>
      rw [loadLines] at refused
      cases first : loadLine path (lineno + 1) db line with
      | error failed =>
          rw [first] at refused
          cases refused
          exact loadLine_error first
      | ok middle =>
          rw [first, ok_bind] at refused
          exact ih refused

/-- The loader in one equation. -/
theorem loadRevocationDb_eq_ok {content : Bytes} {readError : Bool} :
    loadRevocationDb path (.opened content readError) = .ok db ↔
      (∀ line ∈ getlines readError [] content, ¬ LineRefused line) ∧
        db = ⟨((getlines readError [] content).filterMap lineNumber).getLastD 0,
          (getlines readError [] content).filterMap lineEntry⟩ :=
  loadLines_eq_ok

theorem loadRevocationDb_refused_iff {content : Bytes} {readError : Bool} :
    (∃ what, loadRevocationDb path (.opened content readError) =
        teeAnchorError what) ↔
      ∃ line ∈ getlines readError [] content, LineRefused line := by
  cases loads : loadRevocationDb path (.opened content readError) with
  | ok db =>
      obtain ⟨accepted, _⟩ := loadRevocationDb_eq_ok.mp loads
      refine iff_of_false (fun ⟨_, refused⟩ => by cases refused) ?_
      rintro ⟨line, member, refused⟩
      exact accepted line member refused
  | error failure =>
      obtain ⟨what, rfl⟩ := loadLines_error loads
      refine iff_of_true ⟨what, rfl⟩ ?_
      by_contra accepted
      push Not at accepted
      have loaded := (@loadRevocationDb_eq_ok path _ _ _).mpr ⟨accepted, rfl⟩
      cases loads.symm.trans loaded

end TeeAnchor.Ca
