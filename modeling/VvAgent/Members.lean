import VvAgent.Events

/-!
Lookups in an object after members were inserted into it, one after the other.
-/

namespace VvAgent

theorem lookup_insertMembers_other (members : JsonObject) (fields : List (String × Option Json))
    {key : String} (hother : ∀ field ∈ fields, field.1 ≠ key) :
    (insertMembers members fields).lookup key = members.lookup key := by
  induction fields generalizing members with
  | nil => rfl
  | cons field rest ih =>
      obtain ⟨name, value⟩ := field
      have hne : key ≠ name := (hother (name, value) (List.mem_cons_self ..)).symm
      have hrest : ∀ field ∈ rest, field.1 ≠ key :=
        fun field hmem => hother field (List.mem_cons_of_mem _ hmem)
      cases value with
      | none => exact ih members hrest
      | some item =>
          change (insertMembers (insertMember name item members) rest).lookup key = _
          rw [ih _ hrest, lookup_insertMember, if_neg hne]

theorem lookup_insertMembers_first (members : JsonObject) (fields : List (String × Option Json))
    (key : String) (item : Json) (hother : ∀ field ∈ fields, field.1 ≠ key) :
    (insertMembers members ((key, some item) :: fields)).lookup key = some item := by
  change (insertMembers (insertMember key item members) fields).lookup key = _
  rw [lookup_insertMembers_other _ _ hother, lookup_insertMember, if_pos rfl]

end VvAgent
