import Mathlib.Data.List.Perm.Basic
import Mathlib.Data.List.Nodup
import Std.Data.ExtTreeMap

/-!
Tables with ordered string keys: what reading a table gives after a row was written,
removed, or a whole set of rows dropped.
-/

namespace VvAgent.Lib

/-- A table with ordered string keys. -/
abbrev Table (α : Type) := Std.ExtTreeMap String α

namespace Table

variable {α : Type}

theorem get_insert (table : Table α) (key other : String) (row : α) :
    (table.insert key row)[other]? = if key = other then some row else table[other]? := by
  rw [Std.ExtTreeMap.getElem?_insert]
  simp

theorem get_erase (table : Table α) (key other : String) :
    (table.erase key)[other]? = if key = other then none else table[other]? := by
  rw [Std.ExtTreeMap.getElem?_erase]
  simp

theorem contains_eq_false (table : Table α) (key : String) :
    table.contains key = false ↔ table[key]? = none := by
  rw [Std.ExtTreeMap.contains_eq_isSome_getElem?, Option.isSome_eq_false_iff,
    Option.isNone_iff_eq_none]

theorem get_filter (table : Table α) (keep : String → α → Bool) (key : String) :
    (table.filter keep)[key]? = table[key]?.filter (keep key) :=
  Std.ExtTreeMap.getElem?_filter'

theorem mem_toList (table : Table α) (key : String) (row : α) :
    (key, row) ∈ table.toList ↔ table[key]? = some row :=
  Std.ExtTreeMap.mem_toList_iff_getElem?_eq_some

theorem nodup_keys (table : Table α) : (table.toList.map Prod.fst).Nodup := by
  rw [List.nodup_iff_pairwise_ne, List.pairwise_map]
  refine table.distinct_keys_toList.imp fun {first second} hdistinct heq => hdistinct ?_
  rw [heq]
  exact Std.compare_self

theorem nodup_toList (table : Table α) : table.toList.Nodup :=
  List.Nodup.of_map Prod.fst (nodup_keys table)

/-- The rows after a write: the new one, and the rows under the other keys. -/
theorem toList_insert_perm (table : Table α) (key : String) (row : α) :
    (table.insert key row).toList.Perm
      ((key, row) :: table.toList.filter fun entry => entry.1 ≠ key) := by
  rw [List.perm_ext_iff_of_nodup (nodup_toList _)]
  · rintro ⟨other, value⟩
    rw [mem_toList, get_insert]
    by_cases heq : key = other
    · subst heq
      simp [eq_comm]
    · have hne : other ≠ key := fun h => heq h.symm
      simp [heq, hne]
  · rw [List.nodup_cons]
    exact ⟨by simp, (nodup_toList table).filter _⟩

/-- The rows of a table: those under one key, and the others. -/
theorem toList_split_perm (table : Table α) (key : String) :
    table.toList.Perm
      ((table[key]?.map fun row => (key, row)).toList ++
        table.toList.filter fun entry => entry.1 ≠ key) := by
  rw [List.perm_ext_iff_of_nodup (nodup_toList _)]
  · rintro ⟨other, value⟩
    rw [mem_toList]
    by_cases heq : key = other
    · subst heq
      cases table[key]? <;> simp [eq_comm]
    · have hne : other ≠ key := fun h => heq h.symm
      cases table[key]? <;> simp [hne]
  · rw [List.nodup_append]
    refine ⟨by cases table[key]? <;> simp, (nodup_toList table).filter _, ?_⟩
    intro first hfirst second hsecond heq
    subst heq
    simp only [Option.mem_toList, Option.map_eq_some_iff] at hfirst
    obtain ⟨row, _, rfl⟩ := hfirst
    simp at hsecond

end Table

end VvAgent.Lib
