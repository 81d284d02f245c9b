import VvAgent.Memory.Manager

/-!
Compaction of a conversation. `summarizePrefix` replaces the messages before the cut by one
message with a model's summary of them and the manifest of their pointers; it gives the
conversation back as it is wherever a step fails or nothing is gained. A cycle first
microcompacts, and summarizes when the usage is still over its threshold; an emergency
summarizes at once and keeps less.
-/

namespace VvAgent
open Lib Lib.Outcome

/-! ### What the summary model is asked and what it answers -/

section
variable [Texts]

/-- A message as the summary model sees it. -/
def projectMessage (message : Message) : Json :=
  let members := eraseMember "artifact_ref" message.fields
  let shown :=
    if message.imageUrl.isSome then
      insertMember "content"
        (.str ("[image omitted from summary input: " ++
          (if message.content = "" then "image" else message.content) ++ "]"))
        (eraseMember "image_url" members)
    else members
  match shown.lookup "metadata" with
  | some (.obj metadata) =>
      let kept := eraseMember compactionMetadataKey metadata
      if kept = [] then .obj (eraseMember "metadata" shown)
      else .obj (insertMember "metadata" (.obj kept) shown)
  | _ => .obj shown

def buildCompressMemoryPrompt (language : String) (summaryEventLimit : Nat)
    (previous messages : List Message) : SummaryPrompt where
  language := language
  eventLimit := max summaryEventLimit 1
  previous := previous.map projectMessage
  conversation := messages.map projectMessage

/-- The first object that stands in a text. -/
def parseFirstJsonObject : List Char → Option Json
  | [] => none
  | c :: rest =>
      match if c = '\x7b' then (parseLeading (.ofList (c :: rest))).filter Json.isObject
        else none with
      | some value => some value
      | none => parseFirstJsonObject rest

end

def textAt (value : Json) (key : String) : String := ((value.get? key) >>= Json.asStr?).getD ""

/-- The strings of an array of nothing else. -/
def stringsAt (payload : Json) (key : String) : Json :=
  let items := arrayAt payload key
  .arr (if items.all (·.asStr?.isSome) then items else [])

def fileActions : List String := ["read", "created", "modified", "deleted"]

/-- `files_examined_or_modified`. -/
def summaryFiles (payload : Json) : List Json :=
  (arrayAt payload "files_examined_or_modified").filterMap fun item =>
    if item.isObject && !isBlank (textAt item "path") && fileActions.contains (textAt item "action")
    then
      some (.obj [("action", .str (textAt item "action")), ("path", .str (textAt item "path")),
        ("summary", .str (textAt item "summary"))])
    else none

def summaryErrors (payload : Json) : List Json :=
  (arrayAt payload "errors_and_fixes").filterMap fun item =>
    if ((item.get? "error") >>= Json.asStr?).isSome then
      some (.obj [("error", .str (textAt item "error")), ("file", .str (textAt item "file")),
        ("fix", .str (textAt item "fix"))])
    else none

/-- `normalize_summary`, with the given files. -/
def summaryMembers (payload : Json) (files : List Json) : JsonObject :=
  [("current_work_state", .str (textAt payload "current_work_state")),
    ("decisions", stringsAt payload "decisions"),
    ("errors_and_fixes", .arr (summaryErrors payload)),
    ("files_examined_or_modified", .arr files),
    ("key_facts", stringsAt payload "key_facts"),
    ("next_steps", stringsAt payload "next_steps"),
    ("open_issues", stringsAt payload "open_issues"),
    ("original_user_messages", stringsAt payload "original_user_messages"),
    ("progress", stringsAt payload "progress"),
    ("summary_version", .str "2.0"),
    ("user_constraints", stringsAt payload "user_constraints")]

/-- The summary says something besides the constraints. -/
def summarySaysSomething (members : JsonObject) : Bool :=
  members.any fun member =>
    member.1 != "summary_version" && member.1 != "user_constraints" &&
      (member.2.asStr?.any (· != "") || member.2.asArray?.any (!·.isEmpty))

/-- What a tool does to the file of its argument. -/
def toolAction : String → Option String
  | "read_file" | "file_info" => some "read"
  | "write_file" | "edit_file" => some "modified"
  | _ => none

def summarizeFileAction (toolName path : String) : String :=
  match toolName with
  | "read_file" => "Read " ++ path
  | "file_info" => "Inspected " ++ path
  | "write_file" => "Updated " ++ path
  | "edit_file" => "Modified " ++ path
  | _ => "Touched " ++ path

/-- A file that a call touches. -/
def callFileAction (call : ToolCall) : Option Json := do
  let action ← toolAction call.name
  let path ← (call.arguments.lookup "path") >>= Json.asStr?
  let trimmed := String.ofList (trimWhitespace path.toList)
  if trimmed = "" then none
  else some (.obj [("action", .str action), ("path", .str trimmed),
    ("summary", .str (summarizeFileAction call.name trimmed))])

/-- A file is added unless one of the same path is there. -/
def addFile (files : List Json) (file : Json) : List Json :=
  if (files.map (textAt · "path")).contains (textAt file "path") then files else files ++ [file]

/-- The files of the assistant's calls, each at its first call. -/
def collectPrefixFileActions (messages : List Message) : List Json :=
  (((messages.filter fun message => message.role == .assistant).flatMap (·.toolCalls)).filterMap
    callFileAction).foldl addFile []

/-- `split_once`. -/
def splitOnce (separator text : String) : Option (String × String) :=
  (splitFirst separator.toList text.toList).map fun parts => (.ofList parts.1, .ofList parts.2)

section
variable [Texts]

/-- The files that an earlier summary lists. -/
def previousFiles (message : Message) : List Json :=
  match splitOnce "<Compressed Agent Memory>" message.content with
  | none => []
  | some (_, rest) =>
      match splitOnce "</Compressed Agent Memory>" rest with
      | none => []
      | some (body, _) => summaryFiles ((parseFirstJsonObject body.toList).getD .null)

def summaryContent (payload : Json) (files : List Json) (evidence : Evidence) : String :=
  let originals := "\n\n".intercalate
    (((stringsAt payload "original_user_messages").asArray?.getD []).filterMap Json.asStr?)
  "<Original User Request>\n" ++ originals ++
    "\n</Original User Request>\n\n<Compressed Agent Memory>\n" ++
    canonicalText (.obj (summaryMembers payload files)) ++
    "\n</Compressed Agent Memory>\n\n" ++ evidence.render

def summaryMessage (payload : Json) (files : List Json) (evidence : Evidence) : Message :=
  { Message.user (summaryContent payload files evidence) with
    name := some memorySummaryName
    metadata := [(compactionMetadataKey, evidence.toValue)] }

namespace MemoryManager
variable {World Error : Type} (manager : MemoryManager World Error)

/-- The answer of the callback that is asked: the runtime's, or else the configured one. -/
def askSummary (prompt : SummaryPrompt) (cycle : Option Nat)
    (callback : Option (SummaryPrompt → Nat → Except Error (Option String))) :
    Except Error (Option String) :=
  match callback, cycle with
  | some ask, some cycle => ask prompt cycle
  | _, _ => .ok (manager.summaryCallback.bind fun ask => ask prompt)

/-- The conversation with a summary, if the model's answer is of use and the result is smaller
and fits. -/
def summarized (messages : List Message) (parts : SummaryParts) (answer : Option String) :
    Option (List Message) :=
  let payload := (parseFirstJsonObject (normalizeSummaryOutput (answer.getD "")).toList).getD .null
  if summarySaysSomething (summaryMembers payload (summaryFiles payload)) = false then none
  else
    match collect parts.previous parts.front with
    | .error _ => none
    | .ok evidence =>
        if hasReferences evidence.toValue ∧ manager.recoveryToolAvailable = false then none
        else
          let files := (parts.previous.flatMap previousFiles ++
            collectPrefixFileActions parts.front).foldl addFile (summaryFiles payload)
          let candidate := parts.systems ++ [summaryMessage payload files evidence] ++ parts.tail
          let tokens := manager.countMessagesTokens candidate
          if manager.countMessagesTokens messages ≤ tokens ∨ manager.effectiveContextWindow < tokens
          then none
          else some candidate

def summarizePrefix (messages : List Message) (keep : Nat) (cycle : Option Nat)
    (callback : Option (SummaryPrompt → Nat → Except Error (Option String))) :
    Except Error (List Message × Bool) :=
  match summaryParts messages keep with
  | none => .ok (messages, false)
  | some parts =>
      if parts.front = [] ∨ (callback = none ∧ manager.summaryCallback = none) then
        .ok (messages, false)
      else do
        let answer ← manager.askSummary
          (buildCompressMemoryPrompt manager.language manager.summaryEventLimit parts.previous
            parts.front) cycle callback
        match manager.summarized messages parts answer with
        | some candidate => return (candidate, true)
        | none => return (messages, false)

/-- A conversation with a summary: the system messages, the summary and the kept messages. -/
theorem summarizePrefix_eq_ok {manager : MemoryManager World Error} {messages result : List Message} {keep : Nat} {cycle : Option Nat}
    {callback : Option (SummaryPrompt → Nat → Except Error (Option String))} {changed : Bool}
    (h : manager.summarizePrefix messages keep cycle callback = .ok (result, changed)) :
    (changed = false ∧ result = messages) ∨
      (changed = true ∧ ∃ parts payload files evidence, summaryParts messages keep = some parts ∧
        collect parts.previous parts.front = .ok evidence ∧
        result = parts.systems ++ [summaryMessage payload files evidence] ++ parts.tail) := by
  unfold summarizePrefix at h
  cases hparts : summaryParts messages keep with
  | none =>
      simp only [hparts, Except.ok.injEq, Prod.mk.injEq] at h
      exact .inl ⟨h.2.symm, h.1.symm⟩
  | some parts =>
      simp only [hparts] at h
      by_cases hnothing : parts.front = [] ∨ (callback = none ∧ manager.summaryCallback = none)
      · simp only [hnothing, if_true, Except.ok.injEq, Prod.mk.injEq] at h
        exact .inl ⟨h.2.symm, h.1.symm⟩
      · simp only [hnothing, if_false, bind_eq_ok] at h
        obtain ⟨answer, _, h⟩ := h
        cases hsummarized : manager.summarized messages parts answer with
        | none =>
            simp only [hsummarized, pure_ok, Except.ok.injEq, Prod.mk.injEq] at h
            exact .inl ⟨h.2.symm, h.1.symm⟩
        | some candidate =>
            simp only [hsummarized, pure_ok, Except.ok.injEq, Prod.mk.injEq] at h
            obtain ⟨rfl, rfl⟩ := h
            unfold summarized at hsummarized
            cases hcollect : collect parts.previous parts.front with
            | error error => simp [hcollect] at hsummarized
            | ok evidence =>
                simp only [hcollect, Option.ite_none_left_eq_some, Option.some.injEq] at hsummarized
                obtain ⟨_, _, _, rfl⟩ := hsummarized
                exact .inr ⟨rfl, parts, _, _, evidence, rfl, hcollect, rfl⟩

/-! ### A cycle's compaction, and an emergency's -/

end MemoryManager

def memoryWarningText (language : String) (percentage : Nat) : String :=
  if language = "zh-CN" then
    "当前记忆已使用容量超过 " ++ toString percentage ++
      "%,建议立即整理、记录对话中的关键信息、资料, 并储存至工作区, 避免记忆压缩后资料丢失。\n\n"
  else
    "The current memory usage has exceeded " ++ toString percentage ++
      "%. It is recommended to immediately organize and record key information and materials from the conversation, and store them in the workspace to prevent data loss after memory compression.\n\n"

namespace MemoryManager
variable {World Error : Type} (manager : MemoryManager World Error)

def warningMessage : Message :=
  .user (memoryWarningText manager.language manager.warningThresholdPercentage)

/-- A warning is added unless one of the last ten messages has it. -/
def maybeAppendMemoryWarning (messages : List Message) (messageLength : Nat) : List Message :=
  if manager.includeMemoryWarning = false ∨ manager.autocompactThreshold = 0 ∨
      messageLength < manager.warningThreshold ∨
      (messages.reverse.take 10).any (fun message => message.role == .user &&
        (splitFirst manager.warningMessage.content.toList message.content.toList).isSome)
  then messages
  else messages ++ [manager.warningMessage]

end MemoryManager

/-- How far a compaction went; the later, the further. -/
inductive MemoryCompactMode where
  | none | micro | structural | summary | emergency
  deriving DecidableEq

def MemoryCompactMode.rank : MemoryCompactMode → Nat
  | .none => 0
  | .micro => 1
  | .structural => 2
  | .summary => 3
  | .emergency => 4

def MemoryCompactMode.max (first second : MemoryCompactMode) : MemoryCompactMode :=
  if first.rank < second.rank then second else first

structure MemoryCompactionOutcome (World : Type) where
  messages : List Message
  world : World
  changed : Bool
  mode : MemoryCompactMode
  archivedCount : Nat
  reclaimedTokens : Nat
  artifactFailureCount : Nat

/-- A mode is reported exactly if the messages are not the original ones. -/
def MemoryCompactionOutcome.new {World : Type} (original messages : List Message)
    (mode : MemoryCompactMode) (changed : Bool) (micro : Microcompacting World) :
    MemoryCompactionOutcome World where
  messages := messages
  world := micro.world
  changed := changed
  mode :=
    if messages = original then .none
    else if mode = .none then .structural
    else mode
  archivedCount := micro.archivedCount
  reclaimedTokens := micro.reclaimedTokens
  artifactFailureCount := micro.artifactFailureCount

namespace MemoryManager
variable {World Error : Type} [HexDigest] (manager : MemoryManager World Error)

/-- The microcompaction of a cycle. One that archives nothing leaves the messages alone. -/
def cycleMicrocompaction (world : World) (messages : List Message) (force : Bool)
    (messageLength : Nat) : Microcompacting World :=
  if force = false ∧ 0 < manager.microcompactTriggerThreshold ∧
      manager.microcompactTriggerThreshold < messageLength then
    manager.applyMicrocompaction world messages (manager.planMicrocompaction messages messageLength)
  else { messages, world, projectedUsage := messageLength }

/-- `compact_for_cycle_with_usage`. -/
def compactForCycleWithUsage (world : World) (messages : List Message) (cycleIndex : Nat)
    (force : Bool) (totalTokens : Option Nat) (recentToolCallIds : Option (List String)) :
    Except Error (MemoryCompactionOutcome World) :=
  if messages = [] ∨ summaryParts messages manager.keepRecentMessages = none then
    .ok (.new messages messages .none false { messages, world, projectedUsage := 0 })
  else do
    let messageLength := manager.calculateEffectiveLength messages totalTokens recentToolCallIds
    manager.extractSession messages cycleIndex messageLength
    let micro := manager.cycleMicrocompaction world messages force messageLength
    let archived := decide (0 < micro.archivedCount)
    let working := if archived then micro.messages else messages
    let length := if archived then messageLength - micro.reclaimedTokens else messageLength
    let mode : MemoryCompactMode := if archived then .micro else .none
    let sanitized := filterEmptyAssistantMessages working
    let changed := archived || decide (sanitized ≠ working)
    if force = false ∧ length ≤ manager.autocompactThreshold then
      let warned := manager.maybeAppendMemoryWarning sanitized length
      let inserted := decide (warned ≠ sanitized)
      return .new messages warned (if inserted then mode.max .structural else mode)
        (changed || inserted) micro
    else do
      let (compacted, summaryChanged) ← manager.summarizePrefix sanitized
        manager.keepRecentMessages (some cycleIndex) manager.runtimeCallback
      return .new messages compacted (if summaryChanged then mode.max .summary else mode)
        (changed || summaryChanged) micro

/-- `emergency_compact_observed`. The number of messages to keep is scaled down in floating
point, and at least one. -/
def emergencyCompact (messages : List Message) (scaledKeep : Nat) (cycle : Option Nat) :
    Except Error (List Message) := do
  let (candidate, _) ← manager.summarizePrefix messages (max scaledKeep 1) cycle
    manager.runtimeCallback
  return candidate

end MemoryManager

end

end VvAgent
