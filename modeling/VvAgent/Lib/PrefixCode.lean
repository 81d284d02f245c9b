import Mathlib.Data.List.Basic

/-!
Codes in which no code word begins another one. A text written in such a code is read back in one
way. Nothing here refers to a particular code.
-/

namespace VvAgent.Lib

variable {α β : Type}

/-- No code word is empty, and none begins another one. -/
structure PrefixCode (code : α → List β) : Prop where
  nonempty : ∀ a, code a ≠ []
  free : ∀ a b, code a <+: code b → a = b

/-- The first letters of two equal texts are equal. -/
theorem PrefixCode.first {code : α → List β} (h : PrefixCode code) {a b : α} {s t : List β}
    (heq : code a ++ s = code b ++ t) : a = b := by
  rcases List.append_eq_append_iff.mp heq with ⟨rest, hrest, _⟩ | ⟨rest, hrest, _⟩
  · exact h.free a b ⟨rest, hrest.symm⟩
  · exact (h.free b a ⟨rest, hrest.symm⟩).symm

end VvAgent.Lib
