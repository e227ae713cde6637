import Mathlib.Data.List.Forall2

/-!
# Exceptions

Failure is signalled by exceptions throughout the program: its own
`TeeAnchorError`, and the standard exceptions of the containers and streams it
uses.  Callers tell the two apart only at the command line.
-/

namespace TeeAnchor

/-- What a run can throw, with the text of `what()`. -/
inductive Exception
  | teeAnchorError (what : String)
  | stdException (what : String)
  deriving DecidableEq, Repr

abbrev Result := Except Exception

/-- Throw the program's own exception. -/
def teeAnchorError {α : Type} (what : String) : Result α :=
  .error (.teeAnchorError what)

@[simp]
theorem ok_bind {ε α β : Type} (value : α) (next : α → Except ε β) :
    (.ok value >>= next) = next value :=
  rfl

@[simp]
theorem error_bind {ε α β : Type} (failure : ε) (next : α → Except ε β) :
    (.error failure >>= next) = .error failure :=
  rfl

theorem bind_eq_ok {ε α β : Type} {first : Except ε α} {next : α → Except ε β}
    {result : β} :
    first >>= next = .ok result ↔
      ∃ value, first = .ok value ∧ next value = .ok result := by
  cases first with
  | error failure => simp [bind, Except.bind]
  | ok value => simp [bind, Except.bind]

theorem bind_eq_error {ε α β : Type} {first : Except ε α}
    {next : α → Except ε β} {failure : ε} :
    first >>= next = .error failure ↔
      first = .error failure ∨
        ∃ value, first = .ok value ∧ next value = .error failure := by
  cases first with
  | error earlier => simp [bind, Except.bind]
  | ok value => simp [bind, Except.bind]

@[simp]
theorem teeAnchorError_ne_ok {α : Type} {what : String} {value : α} :
    teeAnchorError what ≠ .ok value := by
  simp [teeAnchorError]

/-- A check that throws lets pass exactly what it does not refuse. -/
theorem refuse_eq_ok {α β : Type} {refused : Prop} [Decidable refused]
    {what : String} {next : α → Result β} {rest : Result β} {result : β} :
    (if refused then teeAnchorError what >>= next else rest) = .ok result ↔
      ¬refused ∧ rest = .ok result := by
  by_cases holds : refused
  · simp [holds, teeAnchorError, bind, Except.bind]
  · simp [holds]

/-- The same of the last check of a function. -/
theorem refuse_last_eq_ok {α : Type} {refused : Prop} [Decidable refused]
    {what : String} {rest : Result α} {result : α} :
    (if refused then teeAnchorError what else rest) = .ok result ↔
      ¬refused ∧ rest = .ok result := by
  by_cases holds : refused
  · simp [holds]
  · simp [holds]

/-- A loop that succeeds has succeeded on every element. -/
theorem mapM_eq_ok {ε α β : Type} {step : α → Except ε β} {values : List α}
    {results : List β} :
    values.mapM step = .ok results ↔
      List.Forall₂ (fun value result => step value = .ok result)
        values results := by
  induction values generalizing results with
  | nil =>
      rw [List.mapM_nil, List.forall₂_nil_left_iff]
      simp [pure, Except.pure, eq_comm]
  | cons value values ih =>
      rw [List.mapM_cons, bind_eq_ok, List.forall₂_cons_left_iff]
      simp only [bind_eq_ok, ih]
      constructor
      · rintro ⟨result, here, rest, later, returned⟩
        cases returned
        exact ⟨result, rest, here, later, rfl⟩
      · rintro ⟨result, rest, here, later, rfl⟩
        exact ⟨result, here, rest, later, rfl⟩

theorem exists_of_mapM_ok {ε α β : Type} {step : α → Except ε β}
    {values : List α} {results : List β}
    (succeeds : values.mapM step = .ok results) {value : α}
    (member : value ∈ values) :
    ∃ result ∈ results, step value = .ok result := by
  rw [mapM_eq_ok] at succeeds
  induction succeeds with
  | nil => cases member
  | cons here _ ih =>
      rcases List.mem_cons.mp member with rfl | later
      · exact ⟨_, List.mem_cons_self, here⟩
      · obtain ⟨result, resultMember, there⟩ := ih later
        exact ⟨result, List.mem_cons_of_mem _ resultMember, there⟩

theorem mapM_succeeds {ε α β : Type} {step : α → Except ε β} {values : List α}
    (each : ∀ value ∈ values, ∃ result, step value = .ok result) :
    ∃ results, values.mapM step = .ok results := by
  simp only [mapM_eq_ok]
  induction values with
  | nil => exact ⟨[], .nil⟩
  | cons value values ih =>
      rw [List.forall_mem_cons] at each
      obtain ⟨result, here⟩ := each.1
      obtain ⟨results, rest⟩ := ih each.2
      exact ⟨result :: results, .cons here rest⟩

end TeeAnchor
