import Mathlib.Data.List.Dedup
import VvAgent.Distributed.Agreement
import VvAgent.Lib.PrefixCode

/-!
Normal lists of labels. The normal form of a list holds its trimmed labels in their order, each
once, so it stands for the set of the trimmed labels, and its length is the size of that set.
-/

namespace VvAgent
open Lib Lib.Outcome

/-! ### The order of the labels -/

theorem mem_dedupNeighbours {α : Type} [DecidableEq α] {l : List α} {a : α} :
    a ∈ dedupNeighbours l ↔ a ∈ l := by
  fun_induction dedupNeighbours l with
  | case1 second rest ih => rw [ih]; simp
  | case2 first second rest hne ih => rw [List.mem_cons, ih, ← List.mem_cons]
  | case3 short => exact Iff.rfl

def normalLabels (values : List String) : List String :=
  dedupNeighbours ((values.map trimMetadataWhitespace).mergeSort utf16Le)

theorem mem_normalLabels {values : List String} {label : String} :
    label ∈ normalLabels values ↔ ∃ value ∈ values, trimMetadataWhitespace value = label := by
  rw [normalLabels, mem_dedupNeighbours, List.mem_mergeSort, List.mem_map]

/-- The number of labels that a list stands for. -/
def labelCount (values : List String) : Nat := (values.map trimMetadataWhitespace).dedup.length

/-- Labels that stand for no more than others are no more. -/
theorem labelCount_mono {first second : List String}
    (h : ∀ value ∈ first, ∃ other ∈ second,
      trimMetadataWhitespace other = trimMetadataWhitespace value) :
    labelCount first ≤ labelCount second := by
  apply List.Subperm.length_le
  apply List.subperm_of_subset (List.nodup_dedup _)
  intro label hlabel
  rw [List.mem_dedup, List.mem_map] at hlabel ⊢
  obtain ⟨value, hvalue, rfl⟩ := hlabel
  exact h value hvalue

/-- No label is blank or too long. -/
def LabelsValid (values : List String) : Prop :=
  ∀ value ∈ values, trimMetadataWhitespace value ≠ "" ∧
    (trimMetadataWhitespace value).length ≤ maxToolMetadataLabelCodePoints

theorem LabelsValid.append {first second : List String} (hfirst : LabelsValid first)
    (hsecond : LabelsValid second) : LabelsValid (first ++ second) := by
  intro value hvalue
  rcases List.mem_append.mp hvalue with h | h
  · exact hfirst value h
  · exact hsecond value h

end VvAgent
