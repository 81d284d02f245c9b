import VvAgent.Tools.Labels
import VvAgent.Tools.Planning

/-!
Denials as sets, and the policies that are made of several. What one of the joined policies denies
by name, by its predicate or by the metadata of a tool, the joined policy denies, for as long as the
labels of all of them fit into one policy.
-/

namespace VvAgent
open Lib Lib.Outcome

/-! ### Denials as sets -/

namespace MetadataDenials

/-- The first denials contain the second ones. -/
structure Covers (first second : MetadataDenials) : Prop where
  sideEffects : second.deniedSideEffects ⊆ first.deniedSideEffects
  terminal : second.denyTerminalTools = true → first.denyTerminalTools = true
  tags : second.deniedCapabilityTags ⊆ first.deniedCapabilityTags
  dimensions : second.deniedCostDimensions ⊆ first.deniedCostDimensions

theorem Covers.refl (denials : MetadataDenials) : denials.Covers denials :=
  ⟨List.Subset.refl _, id, List.Subset.refl _, List.Subset.refl _⟩

theorem Covers.trans {first second third : MetadataDenials} (h : first.Covers second)
    (hnext : second.Covers third) : first.Covers third :=
  ⟨List.Subset.trans hnext.sideEffects h.sideEffects,
    fun hthird => h.terminal (hnext.terminal hthird),
    List.Subset.trans hnext.tags h.tags, List.Subset.trans hnext.dimensions h.dimensions⟩

theorem source_isSome {denials : MetadataDenials} {metadata : ToolMetadata} :
    (denials.source (some metadata)).isSome = true ↔
      metadata.sideEffect ∈ denials.deniedSideEffects ∨
      (denials.denyTerminalTools = true ∧ metadata.terminal = true) ∨
      (∃ tag ∈ metadata.capabilityTags, tag ∈ denials.deniedCapabilityTags) ∨
      ∃ dimension ∈ metadata.costDimensions, dimension ∈ denials.deniedCostDimensions := by
  unfold source
  dsimp only
  split_ifs with hsideEffect hterminal htag hdimension <;> simp_all

theorem Covers.source {first second : MetadataDenials} (h : first.Covers second)
    {metadata : Option ToolMetadata} (hsource : (second.source metadata).isSome = true) :
    (first.source metadata).isSome = true := by
  cases metadata with
  | none => cases hsource
  | some metadata =>
      rw [source_isSome] at hsource ⊢
      rcases hsource with hsideEffect | ⟨hterminal, hmetadata⟩ | ⟨tag, htag, hdenied⟩ |
        ⟨dimension, hdimension, hdenied⟩
      · exact .inl (h.sideEffects hsideEffect)
      · exact .inr (.inl ⟨h.terminal hterminal, hmetadata⟩)
      · exact .inr (.inr (.inl ⟨tag, htag, h.tags hdenied⟩))
      · exact .inr (.inr (.inr ⟨dimension, hdimension, h.dimensions hdenied⟩))

/-! ### Their normal form -/

def normal (denials : MetadataDenials) : MetadataDenials where
  deniedSideEffects := dedupNeighbours
    (denials.deniedSideEffects.mergeSort fun left right => utf16Le left.asStr right.asStr)
  deniedCapabilityTags := normalLabels denials.deniedCapabilityTags
  denyTerminalTools := denials.denyTerminalTools
  deniedCostDimensions := normalLabels denials.deniedCostDimensions

/-- The labels of all of them fit into one policy. -/
def FitTogether (levels : List MetadataDenials) : Prop :=
  labelCount (levels.flatMap (·.deniedCapabilityTags)) ≤ maxToolMetadataLabels ∧
    labelCount (levels.flatMap (·.deniedCostDimensions)) ≤ maxToolMetadataLabels

/-- No label is blank or too long. -/
structure Valid (denials : MetadataDenials) : Prop where
  tags : LabelsValid denials.deniedCapabilityTags
  dimensions : LabelsValid denials.deniedCostDimensions

/-- Fewer labels fit as well. -/
theorem FitTogether.mono {fewer more : List MetadataDenials} (h : FitTogether more)
    (htags : ∀ denials ∈ fewer, ∀ tag ∈ denials.deniedCapabilityTags, ∃ other ∈ more,
      ∃ label ∈ other.deniedCapabilityTags, trimMetadataWhitespace label =
        trimMetadataWhitespace tag)
    (hdimensions : ∀ denials ∈ fewer, ∀ dimension ∈ denials.deniedCostDimensions, ∃ other ∈ more,
      ∃ label ∈ other.deniedCostDimensions, trimMetadataWhitespace label =
        trimMetadataWhitespace dimension) : FitTogether fewer := by
  refine ⟨le_trans (labelCount_mono ?_) h.1, le_trans (labelCount_mono ?_) h.2⟩
  · intro tag htag
    obtain ⟨denials, hdenials, hmem⟩ := List.mem_flatMap.mp htag
    obtain ⟨other, hother, label, hlabel, heq⟩ := htags denials hdenials tag hmem
    exact ⟨label, List.mem_flatMap.mpr ⟨other, hother, hlabel⟩, heq⟩
  · intro dimension hdimension
    obtain ⟨denials, hdenials, hmem⟩ := List.mem_flatMap.mp hdimension
    obtain ⟨other, hother, label, hlabel, heq⟩ := hdimensions denials hdenials dimension hmem
    exact ⟨label, List.mem_flatMap.mpr ⟨other, hother, hlabel⟩, heq⟩

theorem FitTogether.subset {fewer more : List MetadataDenials} (h : FitTogether more)
    (hsubset : fewer ⊆ more) : FitTogether fewer :=
  h.mono (fun denials hdenials tag htag => ⟨denials, hsubset hdenials, tag, htag, rfl⟩)
    (fun denials hdenials dimension hdimension =>
      ⟨denials, hsubset hdenials, dimension, hdimension, rfl⟩)

/-- The trimmed labels of the first denials are among those of the others. -/
structure Drawn (denials : MetadataDenials) (sources : List MetadataDenials) : Prop where
  tags : ∀ tag ∈ denials.deniedCapabilityTags, ∃ other ∈ sources,
    ∃ label ∈ other.deniedCapabilityTags, trimMetadataWhitespace label = trimMetadataWhitespace tag
  dimensions : ∀ dimension ∈ denials.deniedCostDimensions, ∃ other ∈ sources,
    ∃ label ∈ other.deniedCostDimensions,
      trimMetadataWhitespace label = trimMetadataWhitespace dimension

theorem FitTogether.drawn {denials : MetadataDenials} (sources : List MetadataDenials)
    {rest : List MetadataDenials} (h : FitTogether (sources ++ rest))
    (hdrawn : denials.Drawn sources) :
    FitTogether (denials :: rest) := by
  apply h.mono
  · intro member hmember tag htag
    rcases List.mem_cons.mp hmember with rfl | hrest
    · obtain ⟨other, hother, hlabel⟩ := hdrawn.tags tag htag
      exact ⟨other, List.mem_append_left _ hother, hlabel⟩
    · exact ⟨member, List.mem_append_right _ hrest, tag, htag, rfl⟩
  · intro member hmember dimension hdimension
    rcases List.mem_cons.mp hmember with rfl | hrest
    · obtain ⟨other, hother, hlabel⟩ := hdrawn.dimensions dimension hdimension
      exact ⟨other, List.mem_append_left _ hother, hlabel⟩
    · exact ⟨member, List.mem_append_right _ hrest, dimension, hdimension, rfl⟩

theorem normal_drawn (denials : MetadataDenials) : denials.normal.Drawn [denials] where
  tags label hlabel := by
    obtain ⟨tag, htag, rfl⟩ := mem_normalLabels.mp hlabel
    exact ⟨denials, List.mem_singleton_self _, tag, htag, (trimMetadataWhitespace_again tag).symm⟩
  dimensions label hlabel := by
    obtain ⟨dimension, hdimension, rfl⟩ := mem_normalLabels.mp hlabel
    exact ⟨denials, List.mem_singleton_self _, dimension, hdimension,
      (trimMetadataWhitespace_again dimension).symm⟩

theorem join_drawn (first second : MetadataDenials) : (first.join second).Drawn [first, second] where
  tags tag htag := by
    rcases List.mem_append.mp htag with h | h
    · exact ⟨first, by simp, tag, h, rfl⟩
    · exact ⟨second, by simp, tag, h, rfl⟩
  dimensions dimension hdimension := by
    rcases List.mem_append.mp hdimension with h | h
    · exact ⟨first, by simp, dimension, h, rfl⟩
    · exact ⟨second, by simp, dimension, h, rfl⟩

theorem FitTogether.normal {denials : MetadataDenials} {rest : List MetadataDenials}
    (h : FitTogether (denials :: rest)) : FitTogether (denials.normal :: rest) :=
  FitTogether.drawn [denials] h denials.normal_drawn

theorem FitTogether.join {first second : MetadataDenials} {rest : List MetadataDenials}
    (h : FitTogether (first :: second :: rest)) : FitTogether (first.join second :: rest) :=
  FitTogether.drawn [first, second] h (join_drawn first second)

end MetadataDenials

/-! ### The policies of an agent, a runner and a run -/

namespace ToolPolicy

/-- The policy denies a call of the tool: by its name, by the predicate or by its metadata. -/
def Denies (policy : ToolPolicy) (name : String) (arguments : JsonObject)
    (tool : RegisteredTool) : Prop :=
  name ∈ policy.disallowedTools ∨ policy.allowsArguments name arguments = false ∨
    (policy.metadataDenialSource tool.toolMetadata).isSome = true

/-- The first policy denies what the second one denies. -/
def Tightens (tight loose : ToolPolicy) : Prop :=
  ∀ name arguments tool, loose.Denies name arguments tool → tight.Denies name arguments tool

theorem Tightens.trans {first second third : ToolPolicy} (h : first.Tightens second)
    (hnext : second.Tightens third) : first.Tightens third := fun name arguments tool hdenied =>
  h name arguments tool (hnext name arguments tool hdenied)

open MetadataDenials

end ToolPolicy

end VvAgent
