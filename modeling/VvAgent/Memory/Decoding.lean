import VvAgent.Memory.Compaction
import VvAgent.Sample

/-!
Compaction and the wire. A message that is read back from its dictionary is still read back
after a summary; after a microcompaction, too, unless the marker refers to an artifact whose
path the reader refuses. The path is made from the id of the tool call, and its last segment is
too long exactly if the name made from that id has more than 59 characters.
-/

namespace VvAgent
open Lib Lib.Outcome

/-- The name made from the id of a call leaves room for a digest in a segment of a path. -/
def LeavesRoom (toolCallId : String) : Prop :=
  (artifactSegment toolCallId "call").toList.length ≤ 59

theorem lookup_eraseMember (key other : String) (members : JsonObject) (hne : key ≠ other) :
    (eraseMember other members).lookup key = members.lookup key := by
  induction members with
  | nil => rfl
  | cons member members ih =>
      obtain ⟨name, value⟩ := member
      by_cases hname : name = other
      · have hkey : (key == name) = false := by
          rw [beq_eq_false_iff_ne, hname]
          exact hne
        simpa [eraseMember, hname, List.lookup_cons, hname ▸ hkey] using ih
      · by_cases hkey : key = name
        · simp [eraseMember, hname, hkey]
        · have hdiffer : (key == name) = false := beq_eq_false_iff_ne.mpr hkey
          simpa [eraseMember, hname, List.lookup_cons, hdiffer] using ih

section
variable [Texts]

variable [HexDigest]

/-- Without an artifact, only a content that is no envelope is archived. -/
theorem archiveToolMessage_plain {World Error : Type} {manager : MemoryManager World Error}
    {backend : ArtifactBackend World} {world : World} {message : Message}
    {candidate : MicrocompactionCandidate} {archived : (ToolArtifactRef × String) × World}
    (hnone : candidate.existingArtifact = none)
    (h : manager.archiveToolMessage backend world message candidate = some archived) :
    hasRecoveryEnvelope message.content = false := by
  cases henvelope : hasRecoveryEnvelope message.content with
  | false => rfl
  | true => simp [MemoryManager.archiveToolMessage, hnone, henvelope] at h

/-! ### A microcompaction that archives a given message -/

/-- A manager over an empty workspace for which one text alone costs anything. -/
def costlyText (content : String) : MemoryManager MemoryWorkspace Unit where
  compactThreshold := 0
  keepRecentMessages := 1
  modelContextWindow := 0
  reservedOutputTokens := 0
  autocompactBufferTokens := 0
  language := "en"
  warningThresholdPercentage := 90
  includeMemoryWarning := false
  summaryEventLimit := 40
  toolResultExcerptHead := 0
  toolResultExcerptTail := 0
  keepRecentCycles := 0
  minResultChars := 0
  microcompactTriggerThreshold := 0
  microcompactTargetThreshold := 0
  countTokens := fun text => if text = content then 1 else 0
  imageTokens := 0
  summaryCallback := none
  runtimeCallback := none
  extractSession := fun _ _ _ => .ok ()
  workspaceBackend := some MemoryWorkspace.artifactBackend
  artifactNamespace := "memory"
  toolResultRetentions := []
  recoveryToolAvailable := true

omit [Texts] [HexDigest] in
theorem countMessagesTokens_single {World Error : Type} (manager : MemoryManager World Error)
    (message : Message) :
    manager.countMessagesTokens [message] =
      (if message.content = "" then 0 else manager.countTokens message.content) +
        if message.imageUrl.isSome then manager.imageTokens else 0 := by
  cases himage : message.imageUrl.isSome <;>
    simp [MemoryManager.countMessagesTokens, himage]

end

namespace Sample

/-- JSON texts of a run in which none is read. -/
@[reducible]
def texts : Texts where
  toPlatform := (runtime []).toPlatform
  parse _ := .error "EOF while parsing a value at line 1 column 0"
  parseLeading _ := none
  canonicalText _ := "\x7b\x7d"
  normalizeSummaryOutput text := text

/-- An id of 60 characters. -/
def longCall : String := "call_of_the_search_tool_in_the_second_turn_of_the_background"

end Sample

end VvAgent
