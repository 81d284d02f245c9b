import VvAgent.Lib.Lists
import VvAgent.Lib.Segments
import VvAgent.Memory.Evidence
import VvAgent.Workspace.Artifacts

/-!
The memory manager of a run and microcompaction. A plan picks the tool results that are old,
long and not to be preserved; applying it writes each of them to an artifact and leaves a marker
in its message, until the usage is down to the target. Token counts, the thresholds that are
computed in floating point, and the callbacks are the manager's parameters.
-/

namespace VvAgent
open Lib Lib.Outcome

inductive ToolResultRetention where
  | archive
  | preserve
  deriving DecidableEq

/-- What a summary callback is asked: the prompt's template is filled with these. -/
structure SummaryPrompt where
  language : String
  eventLimit : Nat
  previous : List Json
  conversation : List Json

/-- The manager, over the workspace it archives to and the errors of the runtime callbacks. -/
structure MemoryManager (World Error : Type) where
  compactThreshold : Nat
  keepRecentMessages : Nat
  modelContextWindow : Nat
  reservedOutputTokens : Nat
  autocompactBufferTokens : Nat
  language : String
  warningThresholdPercentage : Nat
  includeMemoryWarning : Bool
  summaryEventLimit : Nat
  toolResultExcerptHead : Nat
  toolResultExcerptTail : Nat
  keepRecentCycles : Nat
  minResultChars : Nat
  /-- The trigger and target ratios of the autocompact threshold, rounded down. -/
  microcompactTriggerThreshold : Nat
  microcompactTargetThreshold : Nat
  /-- Tokens of a text, and of an image, for the model. -/
  countTokens : String → Nat
  imageTokens : Nat
  /-- A callback that panics answers nothing. -/
  summaryCallback : Option (SummaryPrompt → Option String)
  runtimeCallback : Option (SummaryPrompt → Nat → Except Error (Option String))
  /-- The session memory extracts notes from the messages; here only its failure counts. -/
  extractSession : List Message → Nat → Nat → Except Error Unit
  workspaceBackend : Option (ArtifactBackend World)
  artifactNamespace : String
  toolResultRetentions : List (String × ToolResultRetention)
  recoveryToolAvailable : Bool

def memorySummaryName : String := "memory_summary"

def Message.isSummary (message : Message) : Bool := message.name == some memorySummaryName

def hasThinkingContent (message : Message) : Bool :=
  message.reasoningContent.any fun text => !isBlank text

/-- An assistant message without anything in it. -/
def Message.isEmptyAssistant (message : Message) : Bool :=
  message.role == .assistant && isBlank message.content && message.toolCalls.isEmpty &&
    !(message.imageUrl.any fun url => url != "") && !hasThinkingContent message

def filterEmptyAssistantMessages (messages : List Message) : List Message :=
  messages.filter (!·.isEmptyAssistant)

/-! ### Where a summary may cut -/

/-- The message that answers a call, where there is one: the conversation may end before it. -/
def answersCall (result : Option Message) (call : ToolCall) : Bool :=
  result.all fun message => message.role == .tool && message.toolCallId == some call.id

/-- The calls have ids of their own and are answered one by one. -/
def callsAnswered : List ToolCall → List Message → List String → Bool
  | [], _, _ => true
  | call :: calls, results, ids =>
      call.id != "" && !ids.contains call.id && answersCall results.head? call &&
        callsAnswered calls results.tail (call.id :: ids)

/-- The blocks of a conversation, each by its first index and the one after its last: an
assistant message with its results, which are skipped, or a message alone. -/
def summaryBlocks (index skip : Nat) : List Message → Option (List (Nat × Nat))
  | [] => some []
  | message :: rest =>
      match skip with
      | left + 1 => summaryBlocks (index + 1) left rest
      | 0 =>
          if message.role = .tool ∨ (message.toolCalls ≠ [] ∧ message.role ≠ .assistant) ∨
              callsAnswered message.toolCalls rest [] = false then none
          else
            let results := message.toolCalls.length
            (summaryBlocks (index + 1) results rest).map ((index, index + 1 + results) :: ·)

/-- A message that a summary replaces or keeps. -/
def Message.isRaw (message : Message) : Bool :=
  message.role != .system && !message.isSummary && !message.isEmptyAssistant

structure SummaryParts where
  systems : List Message
  previous : List Message
  front : List Message
  tail : List Message
  cut : Nat

/-- The cut of a conversation: the place of the first message to keep, moved to the start of
its block. -/
def summaryCut (messages : List Message) (blocks : List (Nat × Nat)) (keep : Nat) : Nat :=
  let raw := placesFrom Message.isRaw 0 messages
  moveCut blocks ((raw[raw.length - max keep 1]?).getD 0)

def summaryParts (messages : List Message) (keep : Nat) : Option SummaryParts := do
  let blocks ← summaryBlocks 0 0 messages
  let cut := summaryCut messages blocks keep
  return { systems := messages.filter fun message => message.role == .system && !message.isSummary
           previous := messages.filter Message.isSummary
           front := (messages.take cut).filter Message.isRaw
           tail := (messages.drop cut).filter Message.isRaw
           cut }

theorem summaryParts_eq_some {messages : List Message} {keep : Nat} {parts : SummaryParts}
    (h : summaryParts messages keep = some parts) :
    ∃ blocks, summaryBlocks 0 0 messages = some blocks ∧
      parts =
        { systems := messages.filter fun message => message.role == .system && !message.isSummary
          previous := messages.filter Message.isSummary
          front := (messages.take (summaryCut messages blocks keep)).filter Message.isRaw
          tail := (messages.drop (summaryCut messages blocks keep)).filter Message.isRaw
          cut := summaryCut messages blocks keep } := by
  simp only [summaryParts, Option.bind_eq_bind, Option.bind_eq_some_iff, Option.pure_def,
    Option.some.injEq] at h
  obtain ⟨blocks, hblocks, rfl⟩ := h
  exact ⟨blocks, hblocks, rfl⟩

/-- `remove` on a map. -/
def eraseMember (key : String) (members : JsonObject) : JsonObject :=
  members.filter fun member => member.1 ≠ key

namespace MemoryManager
variable {World Error : Type} (manager : MemoryManager World Error)

def countMessagesTokens (messages : List Message) : Nat :=
  if messages = [] then 0
  else
    let text := "\n".intercalate (messages.map (·.content))
    (if text = "" then 0 else manager.countTokens text) +
      (messages.filter (·.imageUrl.isSome)).length * manager.imageTokens

def autocompactThreshold : Nat :=
  let derived :=
    if 0 < manager.modelContextWindow then
      manager.modelContextWindow - manager.reservedOutputTokens - manager.autocompactBufferTokens
    else 0
  if 0 < manager.compactThreshold then min manager.compactThreshold derived else derived

def effectiveContextWindow : Nat := manager.modelContextWindow - manager.reservedOutputTokens

def warningThreshold : Nat :=
  manager.autocompactThreshold * manager.warningThresholdPercentage / 100

def estimateRecentToolMessageLength (messages : List Message)
    (recentToolCallIds : Option (List String)) : Nat :=
  match recentToolCallIds with
  | none | some [] => 0
  | some ids =>
      manager.countMessagesTokens (messages.filter fun message =>
        message.role == .tool && message.toolCallId.any ids.contains)

def calculateEffectiveLength (messages : List Message) (totalTokens : Option Nat)
    (recentToolCallIds : Option (List String)) : Nat :=
  match totalTokens with
  | some (total + 1) =>
      total + 1 + manager.estimateRecentToolMessageLength messages recentToolCallIds
  | _ => manager.countMessagesTokens messages

def markerConfig : ToolResultArtifactConfig :=
  ⟨manager.toolResultExcerptHead, manager.toolResultExcerptTail⟩

end MemoryManager

/-! ### Planning a microcompaction -/

structure MicrocompactionCandidate where
  messageIndex : Nat
  toolName : String
  existingArtifact : Option ToolArtifactRef

structure MicrocompactionPlan where
  candidates : List MicrocompactionCandidate := []
  currentUsage : Nat := 0
  targetUsage : Nat := 0

/-- The name of a call, the last one that was made under its id. -/
def toolCallName? (messages : List Message) (id : String) : Option String :=
  ((messages.filter fun message => message.role == .assistant).flatMap (·.toolCalls)).reverse.find?
    (fun call => call.id == id) |>.map (·.name)

/-- The number of assistant messages up to each message, summaries not counted. -/
def inferMessageCycles (current : Nat) : List Message → List Nat
  | [] => []
  | message :: rest =>
      let cycle :=
        if message.role = .assistant ∧ message.isSummary = false then current + 1 else current
      cycle :: inferMessageCycles cycle rest

def retentionOf (retentions : List (String × ToolResultRetention)) (toolName : String) :
    ToolResultRetention :=
  (retentions.lookup toolName).getD .archive

section
variable [Texts]

/-- The name of the tool whose result a message is, if the message may be compacted. -/
def eligibleToolName (message : Message) (inferredCycle protectedCycle minResultChars : Nat)
    (messages : List Message) (retentions : List (String × ToolResultRetention)) :
    Option String :=
  if message.role ≠ .tool ∨ protectedCycle ≤ inferredCycle ∨
      message.content.length ≤ minResultChars ∨ isCompactedToolContent message.content = true ∨
      (message.artifactRef = none ∧ hasRecoveryEnvelope message.content = true) then none
  else do
    let id ← message.toolCallId
    let toolName ← toolCallName? messages id
    if retentionOf retentions toolName = .archive then some toolName else none

/-- The path that a marker is estimated with before there is an artifact. -/
def estimatedArtifactPath : String :=
  ".vv-agent/artifacts/task/call-00000000000000000000000000000000.txt"

namespace MemoryManager
variable {World Error : Type} (manager : MemoryManager World Error)

/-- The tokens that a marker would save, as far as they can be estimated. -/
def estimatedReclaim (message : Message) (toolName : String) : Nat :=
  let excerptSource := ((message.metadata.lookup ToolExecutionResult.microcompactExcerptKey) >>=
    Json.asStr?).getD message.content
  let marker := buildCompactedToolContent excerptSource
    ((message.artifactRef.map (·.path)).getD estimatedArtifactPath) toolName manager.markerConfig
  manager.countMessagesTokens [message] -
    manager.countMessagesTokens [Message.tool marker (message.toolCallId.getD "")]

def planCandidate (messages : List Message) (protectedCycle protectedTail : Nat)
    (entry : (Message × Nat) × Nat) : Option MicrocompactionCandidate :=
  let ((message, inferredCycle), messageIndex) := entry
  if protectedTail ≤ messageIndex then none
  else do
    let toolName ← eligibleToolName message inferredCycle protectedCycle manager.minResultChars
      messages manager.toolResultRetentions
    if manager.estimatedReclaim message toolName = 0 then none
    else some { messageIndex, toolName, existingArtifact := message.artifactRef }

def planMicrocompaction (messages : List Message) (currentUsage : Nat) : MicrocompactionPlan :=
  if manager.recoveryToolAvailable = false ∨ messages = [] ∨
      currentUsage ≤ manager.microcompactTriggerThreshold then {}
  else
    let cycles := inferMessageCycles 0 messages
    let protectedCycle := (cycles.getLast?).getD 0 + 1 - manager.keepRecentCycles
    let plan (protectedTail : Nat) : MicrocompactionPlan :=
      { candidates := (messages.zip cycles).zipIdx.filterMap
          (manager.planCandidate messages protectedCycle protectedTail)
        currentUsage
        targetUsage := manager.microcompactTargetThreshold }
    if manager.autocompactThreshold < currentUsage then
      match summaryParts messages manager.keepRecentMessages with
      | none => {}
      | some parts => plan parts.cut
    else plan messages.length

/-- The first inferred cycle that is too recent to be compacted. -/
def protectedCycle (messages : List Message) : Nat :=
  ((inferMessageCycles 0 messages).getLast?).getD 0 + 1 - manager.keepRecentCycles

/-- The candidates are in the order of the messages. Each is the message of a tool that may be
compacted, taken with the artifact it has, and a plan with candidates is for the given usage. -/
theorem planMicrocompaction_spec (messages : List Message) (currentUsage : Nat) :
    ((manager.planMicrocompaction messages currentUsage).candidates.Pairwise
      fun candidate later => candidate.messageIndex < later.messageIndex) ∧
    ∀ candidate ∈ (manager.planMicrocompaction messages currentUsage).candidates,
      (manager.planMicrocompaction messages currentUsage).currentUsage = currentUsage ∧
      (manager.planMicrocompaction messages currentUsage).targetUsage =
        manager.microcompactTargetThreshold ∧
      ∃ message cycle, messages[candidate.messageIndex]? = some message ∧
        (inferMessageCycles 0 messages)[candidate.messageIndex]? = some cycle ∧
        eligibleToolName message cycle (manager.protectedCycle messages) manager.minResultChars
          messages manager.toolResultRetentions = some candidate.toolName ∧
        candidate.existingArtifact = message.artifactRef := by
  have hplan : ∀ protectedTail,
      (((messages.zip (inferMessageCycles 0 messages)).zipIdx.filterMap
          (manager.planCandidate messages (manager.protectedCycle messages)
            protectedTail)).Pairwise
        fun candidate later => candidate.messageIndex < later.messageIndex) ∧
      ∀ candidate ∈ (messages.zip (inferMessageCycles 0 messages)).zipIdx.filterMap
          (manager.planCandidate messages (manager.protectedCycle messages) protectedTail),
        ∃ message cycle, messages[candidate.messageIndex]? = some message ∧
          (inferMessageCycles 0 messages)[candidate.messageIndex]? = some cycle ∧
          eligibleToolName message cycle (manager.protectedCycle messages) manager.minResultChars
            messages manager.toolResultRetentions = some candidate.toolName ∧
          candidate.existingArtifact = message.artifactRef := by
    intro protectedTail
    have hplanned : ∀ message cycle index candidate,
        manager.planCandidate messages (manager.protectedCycle messages) protectedTail
          ((message, cycle), index) = some candidate →
        eligibleToolName message cycle (manager.protectedCycle messages) manager.minResultChars
            messages manager.toolResultRetentions = some candidate.toolName ∧
          candidate.messageIndex = index ∧ candidate.existingArtifact = message.artifactRef := by
      intro message cycle index candidate h
      simp only [planCandidate, Option.ite_none_left_eq_some, Option.bind_eq_bind,
        Option.bind_eq_some_iff, Option.some.injEq] at h
      obtain ⟨_, toolName, heligible, _, rfl⟩ := h
      exact ⟨heligible, rfl, rfl⟩
    constructor
    · rw [List.pairwise_filterMap]
      have hordered := List.pairwise_lt_range' (s := 0)
        (n := (messages.zip (inferMessageCycles 0 messages)).length)
      rw [← List.zipIdx_map_snd, List.pairwise_map] at hordered
      apply hordered.imp
      rintro ⟨⟨message, cycle⟩, index⟩ ⟨⟨other, otherCycle⟩, laterIndex⟩ hlt
      intro candidate hcandidate later hlater
      rw [(hplanned _ _ _ _ hcandidate).2.1, (hplanned _ _ _ _ hlater).2.1]
      exact hlt
    · intro candidate hcandidate
      obtain ⟨⟨⟨message, cycle⟩, index⟩, hentry, hcandidate⟩ := List.mem_filterMap.mp hcandidate
      obtain ⟨heligible, rfl, hexisting⟩ := hplanned _ _ _ _ hcandidate
      have hpair := List.mk_mem_zipIdx_iff_getElem?.mp hentry
      rw [List.getElem?_zip_eq_some] at hpair
      exact ⟨message, cycle, hpair.1, hpair.2, heligible, hexisting⟩
  unfold planMicrocompaction
  split_ifs with hidle hover
  · simp
  · cases hparts : summaryParts messages manager.keepRecentMessages with
    | none => simp
    | some parts =>
        obtain ⟨hordered, hcandidates⟩ := hplan parts.cut
        exact ⟨hordered, fun candidate h => ⟨rfl, rfl, hcandidates candidate h⟩⟩
  · obtain ⟨hordered, hcandidates⟩ := hplan messages.length
    exact ⟨hordered, fun candidate h => ⟨rfl, rfl, hcandidates candidate h⟩⟩

/-- A tool message that may be compacted: it is old enough, it is not compacted yet, and its tool
archives. -/
theorem eligibleToolName_eq_some {message : Message} {cycle protectedCycle minResultChars : Nat}
    {messages : List Message} {retentions : List (String × ToolResultRetention)}
    {toolName : String} (h : eligibleToolName message cycle protectedCycle minResultChars messages
      retentions = some toolName) :
    message.role = .tool ∧ cycle < protectedCycle ∧
      isCompactedToolContent message.content = false ∧
      ∃ callId, message.toolCallId = some callId ∧
        toolCallName? messages callId = some toolName ∧
        retentionOf retentions toolName = .archive := by
  simp only [eligibleToolName, Option.ite_none_left_eq_some, Option.bind_eq_bind,
    Option.bind_eq_some_iff, not_or, not_not, Nat.not_le] at h
  obtain ⟨⟨hrole, hcycle, _, hcompacted, _⟩, callId, hcall, name, hname, hchosen⟩ := h
  obtain ⟨hretention, hsame⟩ := Option.ite_none_right_eq_some.mp hchosen
  rw [Option.some.injEq] at hsame
  rw [← hsame]
  exact ⟨hrole, hcycle, by simpa using hcompacted, callId, hcall, hname, hretention⟩

/-- A candidate of the plan is a tool message, taken with the artifact it has. -/
theorem planMicrocompaction_candidate {messages : List Message} {currentUsage : Nat}
    {candidate : MicrocompactionCandidate}
    (h : candidate ∈ (manager.planMicrocompaction messages currentUsage).candidates) :
    ∃ message, messages[candidate.messageIndex]? = some message ∧ message.role = .tool ∧
      candidate.existingArtifact = message.artifactRef := by
  obtain ⟨_, _, message, cycle, hmessage, _, heligible, hexisting⟩ :=
    (manager.planMicrocompaction_spec messages currentUsage).2 candidate h
  exact ⟨message, hmessage, (eligibleToolName_eq_some heligible).1, hexisting⟩

/-! ### Applying a plan -/

variable [HexDigest]

/-- The artifact that holds a tool result, and the whole result. -/
def archiveToolMessage (backend : ArtifactBackend World) (world : World) (message : Message)
    (candidate : MicrocompactionCandidate) : Option ((ToolArtifactRef × String) × World) :=
  match candidate.existingArtifact with
  | some artifact =>
      match readValidatedTextArtifact backend world artifact with
      | .ok content => some ((artifact, content), world)
      | .error _ => none
  | none =>
      if hasRecoveryEnvelope message.content then none
      else
        match persistReplayableTextArtifact backend world manager.artifactNamespace
            (message.toolCallId.getD "tool-result") message.content with
        | .ok (artifact, after) => some ((artifact, message.content), after)
        | .error _ => none

/-- The message with a marker in place of the result. -/
def compactedMessage (message : Message) (toolName : String) (artifact : ToolArtifactRef)
    (completeContent : String) : Message :=
  { message with
    content := buildCompactedToolContent completeContent artifact.path toolName
      manager.markerConfig
    artifactRef := some artifact
    metadata := eraseMember ToolExecutionResult.microcompactExcerptKey message.metadata }

end MemoryManager

/-- A microcompaction under way, and what it has come to at its end. -/
structure Microcompacting (World : Type) where
  messages : List Message
  world : World
  projectedUsage : Nat
  archivedCount : Nat := 0
  reclaimedTokens : Nat := 0
  artifactFailureCount : Nat := 0

namespace MemoryManager
variable {World Error : Type} [HexDigest] (manager : MemoryManager World Error)

/-- One candidate. Once the usage is down to the target it stays there, and the remaining
candidates are passed over. -/
def compactCandidate (backend : ArtifactBackend World) (messages : List Message)
    (targetUsage : Nat) (state : Microcompacting World) (candidate : MicrocompactionCandidate) :
    Microcompacting World :=
  if state.projectedUsage ≤ targetUsage then state
  else
    match messages[candidate.messageIndex]? with
    | none => state
    | some message =>
        match manager.archiveToolMessage backend state.world message candidate with
        | none => { state with artifactFailureCount := state.artifactFailureCount + 1 }
        | some ((artifact, completeContent), world) =>
            let replacement := manager.compactedMessage message candidate.toolName artifact
              completeContent
            let reclaimed := manager.countMessagesTokens [message] -
              manager.countMessagesTokens [replacement]
            if reclaimed = 0 then { state with world }
            else
              { state with
                messages := state.messages.set candidate.messageIndex replacement
                world
                projectedUsage := state.projectedUsage - reclaimed
                archivedCount := state.archivedCount + 1
                reclaimedTokens := state.reclaimedTokens + reclaimed }

def applyMicrocompaction (world : World) (messages : List Message) (plan : MicrocompactionPlan) :
    Microcompacting World :=
  let start : Microcompacting World := { messages, world, projectedUsage := plan.currentUsage }
  if plan.candidates = [] then start
  else
    match manager.workspaceBackend with
    | none => { start with artifactFailureCount := plan.candidates.length }
    | some backend =>
        plan.candidates.foldl (manager.compactCandidate backend messages plan.targetUsage) start

end MemoryManager

/-! ### What a microcompaction does to a message -/

/-- A candidate's message was archived, and replaced by one with a marker. -/
structure MarkedBy {World Error : Type} [HexDigest] (manager : MemoryManager World Error)
    (backend : ArtifactBackend World) (message : Message) (candidate : MicrocompactionCandidate)
    (replacement : Message) : Prop where
  archived : ∃ world artifact content after,
    manager.archiveToolMessage backend world message candidate =
        some ((artifact, content), after) ∧
      replacement = manager.compactedMessage message candidate.toolName artifact content
  saves : manager.countMessagesTokens [replacement] < manager.countMessagesTokens [message]

/-- A message of the list that a plan is applied to, and what is in its place afterwards. -/
inductive Compacted {World Error : Type} [HexDigest] (manager : MemoryManager World Error)
    (messages : List Message) (plan : MicrocompactionPlan) (message : Message) : Message → Prop
  | kept : Compacted manager messages plan message message
  | marked (backend : ArtifactBackend World) (candidate : MicrocompactionCandidate)
      (replacement : Message) (hbackend : manager.workspaceBackend = some backend)
      (hcandidate : candidate ∈ plan.candidates)
      (hmessage : messages[candidate.messageIndex]? = some message)
      (hmarked : MarkedBy manager backend message candidate replacement) :
      Compacted manager messages plan message replacement

namespace MemoryManager
variable {World Error : Type} [HexDigest] {manager : MemoryManager World Error}

theorem compactCandidate_compacted {backend : ArtifactBackend World} {messages : List Message}
    {plan : MicrocompactionPlan} {state : Microcompacting World}
    {candidate : MicrocompactionCandidate} (hbackend : manager.workspaceBackend = some backend)
    (hcandidate : candidate ∈ plan.candidates)
    (h : List.Forall₂ (Compacted manager messages plan) messages state.messages) :
    List.Forall₂ (Compacted manager messages plan) messages
      (manager.compactCandidate backend messages plan.targetUsage state candidate).messages := by
  unfold compactCandidate
  by_cases hdone : state.projectedUsage ≤ plan.targetUsage
  · rwa [if_pos hdone]
  · rw [if_neg hdone]
    cases hmessage : messages[candidate.messageIndex]? with
    | none => exact h
    | some message =>
        cases harchive : manager.archiveToolMessage backend state.world message candidate with
        | none =>
            simp only [harchive]
            exact h
        | some archived =>
            obtain ⟨⟨artifact, content⟩, world⟩ := archived
            simp only [harchive]
            split_ifs with hnothing
            · exact h
            · apply forall₂_set h hmessage
              apply Compacted.marked backend candidate _ hbackend hcandidate hmessage
              exact ⟨⟨state.world, artifact, content, world, harchive, rfl⟩, by omega⟩

theorem foldl_compactCandidate {backend : ArtifactBackend World} {messages : List Message}
    {plan : MicrocompactionPlan} (hbackend : manager.workspaceBackend = some backend)
    (candidates : List MicrocompactionCandidate) (state : Microcompacting World)
    (hcandidates : ∀ candidate ∈ candidates, candidate ∈ plan.candidates)
    (h : List.Forall₂ (Compacted manager messages plan) messages state.messages) :
    List.Forall₂ (Compacted manager messages plan) messages
      (candidates.foldl (manager.compactCandidate backend messages plan.targetUsage)
        state).messages := by
  induction candidates generalizing state with
  | nil => exact h
  | cons candidate candidates ih =>
      apply ih
      · intro other hother
        exact hcandidates other (by simp [hother])
      · exact compactCandidate_compacted hbackend (hcandidates candidate (by simp)) h

/-- A plan changes messages in place only, each by a marker of its own candidate. -/
theorem applyMicrocompaction_compacted (manager : MemoryManager World Error) (world : World)
    (messages : List Message) (plan : MicrocompactionPlan) :
    List.Forall₂ (Compacted manager messages plan) messages
      (manager.applyMicrocompaction world messages plan).messages := by
  have hsame : List.Forall₂ (Compacted manager messages plan) messages messages :=
    List.forall₂_same.mpr fun _ _ => .kept
  unfold applyMicrocompaction
  by_cases hnone : plan.candidates = []
  · rwa [if_pos hnone]
  · rw [if_neg hnone]
    cases hbackend : manager.workspaceBackend with
    | none => exact hsame
    | some backend => exact foldl_compactCandidate hbackend _ _ (fun _ h => h) hsame

end MemoryManager

end

end VvAgent
