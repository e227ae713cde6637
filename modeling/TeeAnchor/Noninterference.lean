import Mathlib

/-!
# Steps on a shared store that do not interfere

A step has a footprint: the places it may look at, and among these the ones it
may change.  When some steps of a sequence change nothing that the others look
at, the others answer and leave what they would without them.  When this holds
both ways, every interleaving of the two groups leaves the same.
-/

namespace TeeAnchor

/-- Steps on a store of places, each within its footprint. -/
structure Footprinted (σ Place Content Answer : Type) where
  act : σ → (Place → Content) → Answer × (Place → Content)
  touched : σ → Set Place
  changed : σ → Set Place
  changed_subset : ∀ step, changed step ⊆ touched step
  leaves : ∀ step store, Set.EqOn (act step store).2 store (changed step)ᶜ
  answers_same : ∀ {step store other}, Set.EqOn store other (touched step) →
    (act step store).1 = (act step other).1
  leaves_same : ∀ {step store other}, Set.EqOn store other (touched step) →
    Set.EqOn (act step store).2 (act step other).2 (touched step)

namespace Footprinted

variable {σ Place Content Answer : Type}
  (system : Footprinted σ Place Content Answer)

def final (steps : List σ) (store : Place → Content) : Place → Content :=
  steps.foldl (fun store step => (system.act step store).2) store

def answers : List σ → (Place → Content) → List (σ × Answer)
  | [], _ => []
  | step :: steps, store =>
      (step, (system.act step store).1) ::
        answers steps (system.act step store).2

/-- A step does not see what another one does. -/
def Unseen (other step : σ) : Prop :=
  Disjoint (system.changed other) (system.touched step)

/-- The kept steps of a sequence stay within a region that all its other steps
leave alone. -/
structure Shields (kept : σ → Bool) (region : Set Place) (steps : List σ) :
    Prop where
  within : ∀ step ∈ steps, kept step = true → system.touched step ⊆ region
  spares : ∀ step ∈ steps, kept step = false →
    Disjoint (system.changed step) region

variable {system} {step : σ} {steps : List σ} {store other : Place → Content}
  {kept : σ → Bool} {region : Set Place}

theorem Shields.tail (shields : system.Shields kept region (step :: steps)) :
    system.Shields kept region steps where
  within step member := shields.within step (List.mem_cons_of_mem _ member)
  spares step member := shields.spares step (List.mem_cons_of_mem _ member)

/-- The smallest region that serves. -/
theorem shields_of_unseen
    (unseen : ∀ step ∈ steps, kept step = true →
      ∀ removed ∈ steps, kept removed = false → system.Unseen removed step) :
    system.Shields kept
      {place | ∃ step ∈ steps, kept step = true ∧ place ∈ system.touched step}
      steps where
  within step member isKept place isTouched := ⟨step, member, isKept, isTouched⟩
  spares removed member isRemoved := by
    rw [Set.disjoint_left]
    rintro place isChanged ⟨step, stepMember, isKept, isTouched⟩
    exact Set.disjoint_left.mp (unseen step stepMember isKept removed member
      isRemoved) isChanged isTouched

theorem act_within (within : system.touched step ⊆ region)
    (same : Set.EqOn store other region) :
    Set.EqOn (system.act step store).2 (system.act step other).2 region := by
  intro place inRegion
  by_cases isTouched : place ∈ system.touched step
  · exact system.leaves_same (same.mono within) isTouched
  · have notChanged : place ∈ (system.changed step)ᶜ :=
      fun isChanged => isTouched (system.changed_subset step isChanged)
    rw [system.leaves step store notChanged,
      system.leaves step other notChanged, same inRegion]

theorem act_outside (spares : Disjoint (system.changed step) region) :
    Set.EqOn (system.act step store).2 store region :=
  fun _ inRegion => system.leaves step store
    (Set.disjoint_right.mp spares inRegion)

/-- Places that no step changes are as they were. -/
theorem final_outside {place : Place}
    (notChanged : ∀ step ∈ steps, place ∉ system.changed step) :
    system.final steps store place = store place := by
  induction steps generalizing store with
  | nil => rfl
  | cons step steps ih =>
      rw [List.forall_mem_cons] at notChanged
      calc
        system.final (step :: steps) store place =
            (system.act step store).2 place := ih notChanged.2
        _ = store place := system.leaves step store notChanged.1

/-- The kept steps answer and leave what they would without the others.  The
induction carries a second store, which the other steps did not change. -/
theorem Shields.purge (shields : system.Shields kept region steps)
    (same : Set.EqOn store other region) :
    (system.answers steps store).filter (fun answer => kept answer.1) =
        system.answers (steps.filter kept) other ∧
      Set.EqOn (system.final steps store)
        (system.final (steps.filter kept) other) region := by
  induction steps generalizing store other with
  | nil => exact ⟨rfl, same⟩
  | cons step steps ih =>
      by_cases isKept : kept step = true
      · have within : system.touched step ⊆ region :=
          shields.within step List.mem_cons_self isKept
        have later := ih shields.tail (act_within within same)
        have answered := system.answers_same (same.mono within)
        rw [List.filter_cons_of_pos isKept]
        refine ⟨?_, later.2⟩
        simp only [answers, List.filter_cons, isKept, if_true, answered]
        rw [later.1]
      · have isRemoved : kept step = false := by
          simpa using isKept
        have unchanged : Set.EqOn (system.act step store).2 store region :=
          act_outside (shields.spares step List.mem_cons_self isRemoved)
        have later := ih shields.tail (unchanged.trans same)
        rw [List.filter_cons_of_neg isKept]
        refine ⟨?_, later.2⟩
        simp only [answers, List.filter_cons, isRemoved, Bool.false_eq_true,
          if_false]
        exact later.1

/-- Steps that no kept step sees might as well not be there. -/
theorem purge_unseen
    (unseen : ∀ step ∈ steps, kept step = true →
      ∀ removed ∈ steps, kept removed = false → system.Unseen removed step)
    (store : Place → Content) :
    (system.answers steps store).filter (fun answer => kept answer.1) =
        system.answers (steps.filter kept) store ∧
      ∀ step ∈ steps, kept step = true →
        Set.EqOn (system.final steps store)
          (system.final (steps.filter kept) store) (system.touched step) := by
  have purged := (shields_of_unseen unseen).purge (Set.eqOn_refl store _)
  refine ⟨purged.1, ?_⟩
  intro step member isKept place isTouched
  exact purged.2 ⟨step, member, isKept, isTouched⟩

/-- When neither group sees the other, one may come after the other. -/
theorem final_separate
    (unseen : ∀ step ∈ steps, kept step = true →
      ∀ removed ∈ steps, kept removed = false → system.Unseen removed step)
    (othersUnseen : ∀ step ∈ steps, (!kept step) = true → ∀ removed ∈ steps,
      (!kept removed) = false → system.Unseen removed step)
    (store : Place → Content) :
    system.final steps store =
      system.final (steps.filter fun step => !kept step)
        (system.final (steps.filter kept) store) := by
  have forKept := shields_of_unseen unseen
  have forOthers := @shields_of_unseen _ _ _ _ system steps
    (fun step => !kept step) othersUnseen
  funext place
  by_cases byKept : ∃ step ∈ steps, kept step = true ∧
      place ∈ system.touched step
  · have keptLast : system.final (steps.filter fun step => !kept step)
        (system.final (steps.filter kept) store) place =
          system.final (steps.filter kept) store place := by
      apply final_outside
      intro removed member
      rw [List.mem_filter, Bool.not_eq_true'] at member
      exact fun isChanged => Set.disjoint_left.mp
        (forKept.spares removed member.1 member.2) isChanged byKept
    rw [keptLast]
    exact (forKept.purge (Set.eqOn_refl store _)).2 byKept
  by_cases byOther : ∃ step ∈ steps, (!kept step) = true ∧
      place ∈ system.touched step
  · refine (forOthers.purge ?_).2 byOther
    intro other inRegion
    refine (final_outside ?_).symm
    intro step member
    rw [List.mem_filter] at member
    exact fun isChanged => Set.disjoint_left.mp
      (forOthers.spares step member.1 (by simp [member.2])) isChanged inRegion
  -- No step touches the place.
  have untouched : ∀ step ∈ steps, place ∉ system.changed step := by
    intro step member isChanged
    have isTouched := system.changed_subset step isChanged
    by_cases isKept : kept step = true
    · exact byKept ⟨step, member, isKept, isTouched⟩
    · exact byOther ⟨step, member, by simpa using isKept, isTouched⟩
  rw [final_outside untouched, final_outside, final_outside]
  · intro step member
    exact untouched step (List.mem_filter.mp member).1
  · intro step member
    exact untouched step (List.mem_filter.mp member).1

end Footprinted

end TeeAnchor
