import Mathlib.Data.List.Nodup
import Mathlib.Data.List.Perm.Basic

/-!
# Choices by first match, under permutation

A procedure that picks the first element of a list with one property and the
first with another, and then judges the pair, depends on the order of the list
unless all candidate pairs are judged alike.  The two properties exclude each
other, so any candidate pair comes first in some permutation.
-/

namespace TeeAnchor.FirstMatchPermutation

variable {α β : Type}

/-- Judge the first element with property `p` together with the first that has
property `q`. -/
def judgeFirst (p q : α → Bool) (verdict : α → α → Option β) (list : List α) :
    Option β :=
  (list.find? p).bind fun first =>
    (list.find? q).bind fun second => verdict first second

theorem find?_isSome_of_mem {p : α → Bool} {list : List α} {element : α}
    (mem : element ∈ list) (holds : p element) :
    ∃ found, list.find? p = some found := by
  apply Option.isSome_iff_exists.mp
  rw [List.find?_isSome]
  exact ⟨element, mem, holds⟩

/-- Two elements of a list, with properties that exclude each other, are the
first matches in some permutation of it. -/
theorem exists_perm_find? [DecidableEq α] {p q : α → Bool}
    (disjoint : ∀ element, p element → ¬q element) {list : List α}
    {first second : α} (firstMem : first ∈ list) (secondMem : second ∈ list)
    (firstHolds : p first) (secondHolds : q second) :
    ∃ permuted, list.Perm permuted ∧ permuted.find? p = some first ∧
      permuted.find? q = some second := by
  have different : second ≠ first := by
    intro same
    rw [same] at secondHolds
    exact disjoint first firstHolds secondHolds
  have secondLeft : second ∈ list.erase first :=
    (List.mem_erase_of_ne different).mpr secondMem
  refine ⟨first :: second :: (list.erase first).erase second, ?_, ?_, ?_⟩
  · exact (List.perm_cons_erase firstMem).trans
      ((List.perm_cons_erase secondLeft).cons first)
  · simp [firstHolds]
  · have skipped : q first = false := by
      simpa using disjoint first firstHolds
    simp [skipped, secondHolds]

/-- The outcome is one for all permutations exactly when all candidate pairs
have the same verdict. -/
theorem judgeFirst_perm_iff [DecidableEq α] {p q : α → Bool}
    (disjoint : ∀ element, p element → ¬q element)
    {verdict : α → α → Option β} {list : List α} :
    (∀ permuted, list.Perm permuted →
        judgeFirst p q verdict permuted = judgeFirst p q verdict list) ↔
      ∀ first ∈ list, ∀ second ∈ list, ∀ first' ∈ list, ∀ second' ∈ list,
        p first → q second → p first' → q second' →
        verdict first second = verdict first' second' := by
  constructor
  · intro invariant first firstMem second secondMem first' firstMem' second'
      secondMem' firstHolds secondHolds firstHolds' secondHolds'
    have judged : ∀ {a b : α}, a ∈ list → b ∈ list → p a → q b →
        verdict a b = judgeFirst p q verdict list := by
      intro a b aMem bMem aHolds bHolds
      obtain ⟨permuted, perm, foundFirst, foundSecond⟩ :=
        exists_perm_find? disjoint aMem bMem aHolds bHolds
      rw [← invariant permuted perm]
      simp [judgeFirst, foundFirst, foundSecond]
    rw [judged firstMem secondMem firstHolds secondHolds,
      judged firstMem' secondMem' firstHolds' secondHolds']
  · intro alike permuted perm
    unfold judgeFirst
    cases foundFirst : list.find? p with
    | none =>
        have none' : permuted.find? p = none := by
          rw [List.find?_eq_none] at foundFirst ⊢
          intro element mem
          exact foundFirst element (perm.mem_iff.mpr mem)
        simp [none']
    | some first =>
        have firstMem := List.mem_of_find?_eq_some foundFirst
        have firstHolds := List.find?_some foundFirst
        obtain ⟨first', foundFirst'⟩ :=
          find?_isSome_of_mem (perm.mem_iff.mp firstMem) firstHolds
        have firstMem' :=
          perm.mem_iff.mpr (List.mem_of_find?_eq_some foundFirst')
        have firstHolds' := List.find?_some foundFirst'
        cases foundSecond : list.find? q with
        | none =>
            have none' : permuted.find? q = none := by
              rw [List.find?_eq_none] at foundSecond ⊢
              intro element mem
              exact foundSecond element (perm.mem_iff.mpr mem)
            simp [none', foundFirst']
        | some second =>
            have secondMem := List.mem_of_find?_eq_some foundSecond
            have secondHolds := List.find?_some foundSecond
            obtain ⟨second', foundSecond'⟩ :=
              find?_isSome_of_mem (perm.mem_iff.mp secondMem) secondHolds
            have secondMem' :=
              perm.mem_iff.mpr (List.mem_of_find?_eq_some foundSecond')
            have secondHolds' := List.find?_some foundSecond'
            simp only [foundFirst', foundSecond', Option.bind_some]
            exact alike first' firstMem' second' secondMem' first firstMem
              second secondMem firstHolds' secondHolds' firstHolds secondHolds

theorem zipIdx_perm_cons_cons [DecidableEq α] {list : List α}
    {first second : α × Nat} (firstMem : first ∈ list.zipIdx)
    (secondMem : second ∈ list.zipIdx) (different : first.2 ≠ second.2) :
    list.Perm (first.1 :: second.1 ::
      (list.zipIdx.filter fun entry =>
        entry.2 != first.2 && entry.2 != second.2).map Prod.fst) := by
  have nodup : list.zipIdx.Nodup := by
    apply List.Nodup.of_map Prod.snd
    rw [List.zipIdx_map_snd]
    exact List.nodup_range'
  have sameIndex : ∀ {entry other : α × Nat}, entry ∈ list.zipIdx →
      other ∈ list.zipIdx → (entry.2 != other.2) = (entry != other) := by
    intro entry other entryMem otherMem
    rw [List.mem_zipIdx_iff_getElem?] at entryMem otherMem
    rw [Bool.eq_iff_iff, bne_iff_ne, bne_iff_ne]
    apply not_congr
    constructor
    · intro same
      apply Prod.ext _ same
      rw [same, otherMem] at entryMem
      exact (Option.some.inj entryMem).symm
    · exact congrArg Prod.snd
  have secondLeft : second ∈ list.zipIdx.erase first := by
    apply (List.mem_erase_of_ne _).mpr secondMem
    intro same
    exact different (congrArg Prod.snd same).symm
  have split : list.zipIdx.Perm (first :: second ::
      list.zipIdx.filter fun entry =>
        entry.2 != first.2 && entry.2 != second.2) := by
    have left : (list.zipIdx.erase first).erase second =
        list.zipIdx.filter fun entry =>
          entry.2 != first.2 && entry.2 != second.2 := by
      rw [(nodup.erase first).erase_eq_filter, nodup.erase_eq_filter,
        List.filter_filter]
      apply List.filter_congr
      intro entry entryMem
      rw [sameIndex entryMem firstMem, sameIndex entryMem secondMem,
        Bool.and_comm]
    rw [← left]
    exact (List.perm_cons_erase firstMem).trans
      ((List.perm_cons_erase secondLeft).cons first)
  have mapped := split.map Prod.fst
  rwa [List.zipIdx_map_fst] at mapped

end TeeAnchor.FirstMatchPermutation
