import Mathlib.Data.List.Nodup
import Mathlib.Data.List.Induction

/-!
# Registers in which the first entry of a key stays

An entry is added at the end unless its key is there already.  What a sequence
of additions leaves is, for each key, the first entry with that key.
-/

namespace TeeAnchor

/-- A list of entries in which no key occurs twice. -/
structure Register {Key Entry : Type} (key : Entry → Key) where
  entries : List Entry
  distinct : (entries.map key).Nodup

namespace Register

variable {Key Entry : Type} [DecidableEq Key] {key : Entry → Key}

def empty : Register key :=
  ⟨[], List.nodup_nil⟩

/-- Add an entry whose key is new. -/
def add (register : Register key) (entry : Entry) : Register key :=
  if new : key entry ∉ register.entries.map key then
    ⟨register.entries ++ [entry], by
      rw [List.map_append, List.map_singleton, ← List.concat_eq_append]
      exact register.distinct.concat new⟩
  else register

def ofList (entries : List Entry) : Register key :=
  entries.foldl add empty

theorem entries_add_of_mem {register : Register key} {entry : Entry}
    (present : key entry ∈ register.entries.map key) :
    (register.add entry).entries = register.entries := by
  rw [add, dif_neg (not_not.mpr present)]

theorem entries_add_of_notMem {register : Register key} {entry : Entry}
    (new : key entry ∉ register.entries.map key) :
    (register.add entry).entries = register.entries ++ [entry] := by
  rw [add, dif_pos new]

theorem ofList_concat (entries : List Entry) (entry : Entry) :
    (ofList (entries ++ [entry]) : Register key) =
      (ofList entries).add entry := by
  rw [ofList, List.foldl_append]
  rfl

theorem mem_keys_ofList {entries : List Entry} {found : Key} :
    found ∈ (ofList entries : Register key).entries.map key ↔
      found ∈ entries.map key := by
  induction entries using List.reverseRecOn generalizing found with
  | nil => rfl
  | append_singleton entries entry ih =>
      rw [ofList_concat, List.map_append, List.mem_append, List.map_singleton,
        List.mem_singleton]
      by_cases present : key entry ∈
          (ofList entries : Register key).entries.map key
      · rw [entries_add_of_mem present, ih]
        constructor
        · exact Or.inl
        · rintro (old | rfl)
          · exact old
          · exact ih.mp present
      · rw [entries_add_of_notMem present, List.map_append, List.mem_append,
          ih, List.map_singleton, List.mem_singleton]

/-- For each key the register holds the first entry that was added. -/
theorem mem_entries_ofList {entries : List Entry} {found : Entry} :
    found ∈ (ofList entries : Register key).entries ↔
      entries.find? (fun entry => key entry = key found) = some found := by
  induction entries using List.reverseRecOn with
  | nil => simp [ofList, empty]
  | append_singleton entries entry ih =>
      rw [ofList_concat, List.find?_append, Option.or_eq_some_iff, ← ih]
      by_cases present : key entry ∈
          (ofList entries : Register key).entries.map key
      · rw [entries_add_of_mem present]
        constructor
        · exact Or.inl
        · rintro (old | ⟨noneBefore, last⟩)
          · exact old
          · have same := List.mem_singleton.mp (List.mem_of_find?_eq_some last)
            subst same
            rw [mem_keys_ofList, List.mem_map] at present
            obtain ⟨other, member, sameKey⟩ := present
            rw [List.find?_eq_none] at noneBefore
            have differs := noneBefore other member
            rw [decide_eq_true_eq] at differs
            exact absurd sameKey differs
      · rw [entries_add_of_notMem present, List.mem_append,
          List.mem_singleton]
        apply or_congr_right
        rw [mem_keys_ofList, List.mem_map] at present
        constructor
        · rintro rfl
          refine ⟨?_, by simp⟩
          rw [List.find?_eq_none]
          intro other member sameKey
          exact present ⟨other, member, by simpa using sameKey⟩
        · rintro ⟨_, last⟩
          have member := List.mem_of_find?_eq_some last
          exact List.mem_singleton.mp member

end Register

end TeeAnchor
