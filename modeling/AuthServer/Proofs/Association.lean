import Mathlib.Data.List.Nodup

/-!
Association lists: what is found under a key stands beside it, and if no key occurs twice, whatever
stands beside a key is found.
-/

namespace AuthServer

variable {α β : Type} [BEq α] [LawfulBEq α] {entries : List (α × β)} {key other : α} {value : β}

theorem mem_of_lookup (found : entries.lookup key = some value) : (key, value) ∈ entries := by
  rcases List.lookup_eq_some_iff.mp found with ⟨before, after, split, -⟩
  rw [split]
  exact List.mem_append_right _ List.mem_cons_self

theorem lookup_eq_some_iff_mem (distinct : (entries.map Prod.fst).Nodup) :
    entries.lookup key = some value ↔ (key, value) ∈ entries := by
  refine ⟨mem_of_lookup, fun member => ?_⟩
  cases found : entries.lookup key with
  | none => simpa using List.lookup_eq_none_iff.mp found _ member
  | some other =>
      cases List.inj_on_of_nodup_map distinct (mem_of_lookup found) member rfl
      rfl

theorem lookup_filter_ne (different : other ≠ key) (entries : List (α × β)) :
    (entries.filter (·.1 != key)).lookup other = entries.lookup other := by
  induction entries with
  | nil => rfl
  | cons entry rest induction =>
      rcases entry with ⟨found, value⟩
      by_cases replaced : found = key
      · simp [replaced, induction, List.lookup_cons, beq_false_of_ne different]
      · simp [replaced, induction, List.lookup_cons]

end AuthServer
