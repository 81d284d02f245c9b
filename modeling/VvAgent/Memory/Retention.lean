import VvAgent.Memory.Decoding
import VvAgent.Memory.Pointers

/-!
Pointers over whole runs of compactions. Between compactions a conversation grows; a compaction
marks results, summarizes, or does both. A pointer of a result stays on the message of the
result, or is a record in the manifest of a summary.
-/

namespace VvAgent
open Lib Lib.Outcome

section
variable [Texts]

/-- A summary of the conversation whose manifest has a record. -/
def InManifest (messages : List Message) (kind : PointerKind) (text : String) : Prop :=
  ∃ message ∈ messages, message.role = .user ∧ message.isSummary = true ∧
    ∃ manifest, message.metadata.lookup compactionMetadataKey = some manifest ∧
      text ∈ recordTexts (manifestRecords manifest kind)

/-- A tool message that is not a summary and answers a call. -/
def IsAnswerTo (callId : String) (message : Message) : Prop :=
  message.role = .tool ∧ message.isSummary = false ∧ message.toolCallId = some callId

/-- An artifact is on a message, or in the manifest of a summary. -/
def ArtifactKept (messages : List Message) (callId : String) (artifact : ToolArtifactRef) :
    Prop :=
  (∃ message ∈ messages, IsAnswerTo callId message ∧ message.artifactRef = some artifact) ∨
    ∃ call : ToolCall, call.id = callId ∧
      InManifest messages .artifact (canonicalText (artifactRecord call artifact))

/-- The cursor of a result is in the content of a message, or in the manifest of a summary. -/
def CursorKept (messages : List Message) (result : ToolExecutionResult)
    (cursor : ToolResultCursor) : Prop :=
  (∃ message ∈ messages, IsAnswerTo result.toolCallId message ∧ message.artifactRef = none ∧
      message.content = result.messageContent) ∨
    ∃ call : ToolCall, call.id = result.toolCallId ∧
      InManifest messages .cursor (canonicalText (cursorRecord call cursor))

/-- The pointers of a result are kept. -/
structure PointersKept (messages : List Message) (result : ToolExecutionResult) : Prop where
  artifact : ∀ artifact ∈ result.artifact, ArtifactKept messages result.toolCallId artifact
  cursor : ∀ cursor ∈ result.cursor, CursorKept messages result cursor

/-- What happens to a conversation: it grows, or it is compacted in one of the ways there are. -/
inductive CompactionStep [HexDigest] : List Message → List Message → Prop
  | grown (messages added : List Message) : CompactionStep messages (messages ++ added)
  | micro {World Error : Type} (manager : MemoryManager World Error) (world : World)
      (messages : List Message) (usage : Nat) :
      CompactionStep messages (manager.applyMicrocompaction world messages
        (manager.planMicrocompaction messages usage)).messages
  | summary {World Error : Type} (manager : MemoryManager World Error)
      (messages result : List Message) (keep : Nat) (cycle : Option Nat)
      (callback : Option (SummaryPrompt → Nat → Except Error (Option String))) (changed : Bool)
      (h : manager.summarizePrefix messages keep cycle callback = .ok (result, changed)) :
      CompactionStep messages result
  | cycle {World Error : Type} (manager : MemoryManager World Error) (world : World)
      (messages : List Message) (cycleIndex : Nat) (force : Bool) (totalTokens : Option Nat)
      (recentToolCallIds : Option (List String)) (outcome : MemoryCompactionOutcome World)
      (h : manager.compactForCycleWithUsage world messages cycleIndex force totalTokens
        recentToolCallIds = .ok outcome) :
      CompactionStep messages outcome.messages
  | emergency {World Error : Type} (manager : MemoryManager World Error)
      (messages result : List Message) (scaledKeep : Nat) (cycle : Option Nat)
      (h : manager.emergencyCompact messages scaledKeep cycle = .ok result) :
      CompactionStep messages result

/-! ### What a change to messages keeps -/

/-- A message that holds the pointers that another one holds. -/
structure HoldsSame (message other : Message) : Prop where
  role : other.role = message.role
  name : other.name = message.name
  toolCallId : other.toolCallId = message.toolCallId
  manifest : other.metadata.lookup compactionMetadataKey =
    message.metadata.lookup compactionMetadataKey
  artifact : ∀ artifact, message.artifactRef = some artifact → other.artifactRef = some artifact
  envelope : message.artifactRef = none → hasRecoveryEnvelope message.content = true →
    other.artifactRef = none ∧ other.content = message.content

theorem HoldsSame.refl (message : Message) : HoldsSame message message :=
  ⟨rfl, rfl, rfl, rfl, fun _ h => h, fun h _ => ⟨h, rfl⟩⟩

theorem HoldsSame.answer {message other : Message} {callId : String}
    (h : HoldsSame message other) (hanswer : IsAnswerTo callId message) :
    IsAnswerTo callId other := by
  obtain ⟨hrole, hsummary, hid⟩ := hanswer
  refine ⟨h.role.trans hrole, ?_, h.toolCallId.trans hid⟩
  rw [Message.isSummary, h.name]
  exact hsummary

/-- In place of each message that can hold pointers there is one that holds the same. -/
def HoldersKept (messages after : List Message) : Prop :=
  ∀ message ∈ messages, message.role ≠ .assistant → ∃ other ∈ after, HoldsSame message other

theorem HoldersKept.of_subset {messages after : List Message}
    (h : ∀ message ∈ messages, message.role ≠ .assistant → message ∈ after) :
    HoldersKept messages after :=
  fun message hmessage hrole => ⟨message, h message hmessage hrole, .refl message⟩

theorem HoldersKept.filterEmpty (messages : List Message) :
    HoldersKept messages (filterEmptyAssistantMessages messages) := by
  apply HoldersKept.of_subset
  intro message hmessage hrole
  exact List.mem_filter.mpr ⟨hmessage, by simp [Message.isEmptyAssistant_of_role hrole]⟩

/-- A message that has an artifact is not given another one. -/
theorem archiveToolMessage_existing [HexDigest] {World Error : Type}
    {manager : MemoryManager World Error} {backend : ArtifactBackend World} {world after : World}
    {message : Message} {candidate : MicrocompactionCandidate}
    {existing artifact : ToolArtifactRef} {content : String}
    (hexisting : candidate.existingArtifact = some existing)
    (h : manager.archiveToolMessage backend world message candidate =
      some ((artifact, content), after)) : existing = artifact := by
  simp only [MemoryManager.archiveToolMessage, hexisting] at h
  cases hread : readValidatedTextArtifact backend world existing with
  | error error => simp [hread] at h
  | ok text =>
      simp only [hread, Option.some.injEq, Prod.mk.injEq] at h
      exact h.1.1

/-- A microcompaction marks a result that has an artifact, or one whose content is no
envelope. -/
theorem holdersKept_micro [HexDigest] {World Error : Type} (manager : MemoryManager World Error)
    (world : World) (messages : List Message) (usage : Nat) :
    HoldersKept messages (manager.applyMicrocompaction world messages
      (manager.planMicrocompaction messages usage)).messages := by
  have hcompacted := manager.applyMicrocompaction_compacted world messages
    (manager.planMicrocompaction messages usage)
  intro message hmessage _
  obtain ⟨other, hother, hkind⟩ := forall₂_mem_right hcompacted.flip hmessage
  refine ⟨other, hother, ?_⟩
  cases hkind with
  | kept => exact .refl _
  | marked backend candidate replacement hbackend hcandidate hindex hmarked =>
      obtain ⟨before, artifact, content, after, harchive, rfl⟩ := hmarked.archived
      obtain ⟨planned, hplanned, hrole, hexisting⟩ :=
        MemoryManager.planMicrocompaction_candidate manager hcandidate
      rw [hindex, Option.some.injEq] at hplanned
      subst hplanned
      refine ⟨rfl, rfl, rfl, lookup_eraseMember _ _ _ (by decide), ?_, ?_⟩
      · intro existing hartifact
        rw [hartifact] at hexisting
        rw [archiveToolMessage_existing hexisting harchive]
        rfl
      · intro hnone henvelope
        have hplain := archiveToolMessage_plain (hexisting.trans hnone) harchive
        rw [hplain] at henvelope
        cases henvelope

theorem InManifest.of_holders {messages after : List Message} {kind : PointerKind} {text : String}
    (h : HoldersKept messages after) (hthere : InManifest messages kind text) :
    InManifest after kind text := by
  obtain ⟨message, hmessage, hrole, hsummary, manifest, hmanifest, htext⟩ := hthere
  obtain ⟨other, hother, hsame⟩ := h message hmessage (by simp [hrole])
  refine ⟨other, hother, hsame.role.trans hrole, ?_, manifest, hsame.manifest.trans hmanifest,
    htext⟩
  rw [Message.isSummary, hsame.name]
  exact hsummary

/-- The content of a result's message ends in an envelope that names the result's cursor, if
the envelope can be read. -/
def SpellsCursor (result : ToolExecutionResult) : Prop :=
  ∀ cursor ∈ result.cursor, hasRecoveryEnvelope result.messageContent = true ∧
    ∀ call spelled, readRecovery call result.messageContent = .ok spelled →
      spelled.cursor = some cursor

/-- Pointers are kept where the messages that hold them are. -/
theorem PointersKept.of_holders {messages after : List Message} {result : ToolExecutionResult}
    (hspells : SpellsCursor result) (h : HoldersKept messages after) (hkept : PointersKept messages result) :
    PointersKept after result := by
  constructor
  · intro artifact hartifact
    rcases hkept.artifact artifact hartifact with
      ⟨message, hmessage, hanswer, hthere⟩ | ⟨call, hcall, hthere⟩
    · obtain ⟨other, hother, hsame⟩ := h message hmessage (by simp [hanswer.1])
      exact .inl ⟨other, hother, hsame.answer hanswer, hsame.artifact artifact hthere⟩
    · exact .inr ⟨call, hcall, hthere.of_holders h⟩
  · intro cursor hcursor
    rcases hkept.cursor cursor hcursor with
      ⟨message, hmessage, hanswer, hnone, hcontent⟩ | ⟨call, hcall, hthere⟩
    · obtain ⟨other, hother, hsame⟩ := h message hmessage (by simp [hanswer.1])
      have henvelope : hasRecoveryEnvelope message.content = true := by
        rw [hcontent]
        exact (hspells cursor hcursor).1
      obtain ⟨hartifact, hsamecontent⟩ := hsame.envelope hnone henvelope
      exact .inl ⟨other, hother, hsame.answer hanswer, hartifact, hsamecontent.trans hcontent⟩
    · exact .inr ⟨call, hcall, hthere.of_holders h⟩

/-! ### What a summary keeps -/

theorem mergePrevious_texts (previous : List Message) {evidence after : Evidence}
    (h : previous.foldlM mergePrevious evidence = .ok after) (kind : PointerKind) :
    (∀ text ∈ evidence.texts kind, text ∈ after.texts kind) ∧
      ∀ message ∈ previous, ∀ manifest,
        message.metadata.lookup compactionMetadataKey = some manifest →
          ∀ text ∈ recordTexts (manifestRecords manifest kind), text ∈ after.texts kind := by
  induction previous generalizing evidence with
  | nil =>
      cases h
      simp
  | cons message previous ih =>
      rw [List.foldlM_cons, bind_eq_ok] at h
      obtain ⟨next, hstep, hrest⟩ := h
      obtain ⟨hgrows, hmanifests⟩ := ih hrest
      unfold mergePrevious at hstep
      cases hfound : message.metadata.lookup compactionMetadataKey with
      | none =>
          rw [hfound] at hstep
          cases hstep
          refine ⟨hgrows, fun other hother => ?_⟩
          rcases List.mem_cons.mp hother with rfl | hother
          · simp [hfound]
          · exact hmanifests other hother
      | some manifest =>
          rw [hfound] at hstep
          have hadded := Evidence.mem_texts_merge hstep kind
          refine ⟨fun text htext => hgrows text ((hadded text).mpr (.inl htext)), ?_⟩
          intro other hother found hfound' text htext
          rcases List.mem_cons.mp hother with rfl | hother
          · rw [show found = manifest from Option.some.inj (hfound'.symm.trans hfound)] at htext
            exact hgrows text ((hadded text).mpr (.inr htext))
          · exact hmanifests other hother found hfound' text htext

/-- What is collected has the records of the earlier manifests, and those that the tool messages
name. -/
theorem collect_eq_ok {previous front : List Message} {evidence : Evidence}
    (h : collect previous front = .ok evidence) (kind : PointerKind) :
    (∀ message ∈ previous, ∀ manifest,
      message.metadata.lookup compactionMetadataKey = some manifest →
        ∀ text ∈ recordTexts (manifestRecords manifest kind), text ∈ evidence.texts kind) ∧
      ∀ message ∈ front, message.role = .tool → ∃ calls references,
        messageReferences calls message = .ok references ∧
          ∀ text ∈ references.texts kind, text ∈ evidence.texts kind := by
  simp only [collect, bind_eq_ok, pure_ok, Except.ok.injEq] at h
  obtain ⟨inherited, hinherited, collected, hcollected, rfl⟩ := h
  obtain ⟨hreadable, htexts, _⟩ := Collecting.run_eq_ok front hcollected
  constructor
  · intro message hmessage manifest hmanifest text htext
    rw [htexts]
    exact .inl ((mergePrevious_texts previous hinherited kind).2 message hmessage manifest
      hmanifest text htext)
  · intro message hmessage hrole
    obtain ⟨calls, hanswer⟩ := mem_answersIn [] front hmessage hrole
    obtain ⟨references, hreferences, _⟩ := hreadable _ hanswer
    refine ⟨calls, references, hreferences, fun text htext => ?_⟩
    rw [htexts]
    exact .inr ⟨_, hanswer, references, hreferences, htext⟩

omit [Texts] in
/-- The answers of a conversation are summarized or kept, and its summaries are merged. -/
theorem summaryParts_holders {messages : List Message} {keep : Nat} {parts : SummaryParts}
    (h : summaryParts messages keep = some parts) :
    (∀ message ∈ messages, message.role = .tool → message.isSummary = false →
      message ∈ parts.front ∨ message ∈ parts.tail) ∧
      ∀ message ∈ messages, message.isSummary = true → message ∈ parts.previous := by
  obtain ⟨blocks, _, rfl⟩ := summaryParts_eq_some h
  constructor
  · intro message hmessage hrole hsummary
    have hraw : message.isRaw = true := by
      simp [Message.isRaw, hrole, hsummary, Message.isEmptyAssistant_of_role]
    rw [← List.take_append_drop (summaryCut messages blocks keep) messages,
      List.mem_append] at hmessage
    exact hmessage.imp (fun h => List.mem_filter.mpr ⟨h, hraw⟩)
      (fun h => List.mem_filter.mpr ⟨h, hraw⟩)
  · intro message hmessage hsummary
    exact List.mem_filter.mpr ⟨hmessage, hsummary⟩

/-- A tool message names its artifact for the call it answers. -/
theorem messageReferences_artifact {calls : List ToolCall} {message : Message}
    {references : Evidence} (h : messageReferences calls message = .ok references)
    {callId : String} (hid : message.toolCallId = some callId) {artifact : ToolArtifactRef}
    (hartifact : message.artifactRef = some artifact) :
    ∃ call : ToolCall, call.id = callId ∧
      canonicalText (artifactRecord call artifact) ∈ references.texts .artifact := by
  obtain ⟨call, hcall, hkind⟩ := messageReferences_eq_ok.mp h
  have hcallid : call.id = callId := by
    have hfound := List.find?_some hcall
    simpa [hid] using hfound
  refine ⟨call, hcallid, ?_⟩
  rcases hkind with ⟨_, rfl⟩ | ⟨_, spelled, _, rfl⟩ <;>
    simp [Evidence.texts, Evidence.records, recordTexts, hartifact]

/-- A tool message with an envelope names the cursor in it for the call it answers. -/
theorem messageReferences_cursor {calls : List ToolCall} {message : Message}
    {references : Evidence} (h : messageReferences calls message = .ok references)
    {result : ToolExecutionResult} (hspells : SpellsCursor result)
    (hid : message.toolCallId = some result.toolCallId)
    (hcontent : message.content = result.messageContent) {cursor : ToolResultCursor}
    (hcursor : cursor ∈ result.cursor) :
    ∃ call : ToolCall, call.id = result.toolCallId ∧
      canonicalText (cursorRecord call cursor) ∈ references.texts .cursor := by
  obtain ⟨call, hcall, hkind⟩ := messageReferences_eq_ok.mp h
  have hcallid : call.id = result.toolCallId := by
    have hfound := List.find?_some hcall
    simpa [hid] using hfound
  obtain ⟨henvelope, hnamed⟩ := hspells cursor hcursor
  refine ⟨call, hcallid, ?_⟩
  rw [hcontent] at hkind
  rcases hkind with ⟨hnone, _⟩ | ⟨_, spelled, hspelled, rfl⟩
  · exact absurd henvelope (Bool.eq_false_iff.mp hnone)
  · simp [Evidence.texts, Evidence.records, recordTexts, ToolExecutionResult.pointers,
      hnamed call spelled hspelled]

theorem inManifest_summaryMessage {systems tail : List Message} {payload : Json}
    {files : List Json} {evidence : Evidence} {kind : PointerKind} {text : String}
    (h : text ∈ evidence.texts kind) :
    InManifest (systems ++ [summaryMessage payload files evidence] ++ tail) kind text := by
  refine ⟨summaryMessage payload files evidence, by simp, rfl, ?_, evidence.toValue, ?_, ?_⟩
  · simp [Message.isSummary, summaryMessage]
  · simp [summaryMessage]
  · rw [Evidence.manifestRecords_toValue]
    exact h

/-- A summary takes over the pointers of the messages that it replaces. -/
theorem PointersKept.summarized {messages : List Message} {keep : Nat} {parts : SummaryParts}
    (hparts : summaryParts messages keep = some parts) {evidence : Evidence}
    (hcollect : collect parts.previous parts.front = .ok evidence)
    {result : ToolExecutionResult} (hspells : SpellsCursor result)
    (hkept : PointersKept messages result) (payload : Json) (files : List Json) :
    PointersKept (parts.systems ++ [summaryMessage payload files evidence] ++ parts.tail)
      result := by
  obtain ⟨hanswers, hsummaries⟩ := summaryParts_holders hparts
  have hmanifest : ∀ {kind text}, InManifest messages kind text → text ∈ evidence.texts kind := by
    rintro kind text ⟨message, hmessage, _, hsummary, manifest, hfound, htext⟩
    exact (collect_eq_ok hcollect kind).1 message (hsummaries message hmessage hsummary) manifest
      hfound text htext
  constructor
  · intro artifact hartifact
    rcases hkept.artifact artifact hartifact with
      ⟨message, hmessage, hanswer, hthere⟩ | ⟨call, hcall, hthere⟩
    · rcases hanswers message hmessage hanswer.1 hanswer.2.1 with hfront | htail
      · obtain ⟨calls, references, hreferences, hadded⟩ :=
          (collect_eq_ok hcollect .artifact).2 message hfront hanswer.1
        obtain ⟨call, hcall, hnamed⟩ :=
          messageReferences_artifact hreferences hanswer.2.2 hthere
        exact .inr ⟨call, hcall, inManifest_summaryMessage (hadded _ hnamed)⟩
      · exact .inl ⟨message, by simp [htail], hanswer, hthere⟩
    · exact .inr ⟨call, hcall, inManifest_summaryMessage (hmanifest hthere)⟩
  · intro cursor hcursor
    rcases hkept.cursor cursor hcursor with
      ⟨message, hmessage, hanswer, hnone, hcontent⟩ | ⟨call, hcall, hthere⟩
    · rcases hanswers message hmessage hanswer.1 hanswer.2.1 with hfront | htail
      · obtain ⟨calls, references, hreferences, hadded⟩ :=
          (collect_eq_ok hcollect .cursor).2 message hfront hanswer.1
        obtain ⟨call, hcall, hnamed⟩ :=
          messageReferences_cursor hreferences hspells hanswer.2.2 hcontent hcursor
        exact .inr ⟨call, hcall, inManifest_summaryMessage (hadded _ hnamed)⟩
      · exact .inl ⟨message, by simp [htail], hanswer, hnone, hcontent⟩
    · exact .inr ⟨call, hcall, inManifest_summaryMessage (hmanifest hthere)⟩

theorem PointersKept.summarizePrefix {World Error : Type} {manager : MemoryManager World Error}
    {messages after : List Message} {keep : Nat} {cycle : Option Nat}
    {callback : Option (SummaryPrompt → Nat → Except Error (Option String))} {changed : Bool}
    (h : manager.summarizePrefix messages keep cycle callback = .ok (after, changed))
    {result : ToolExecutionResult} (hspells : SpellsCursor result)
    (hkept : PointersKept messages result) : PointersKept after result := by
  rcases MemoryManager.summarizePrefix_eq_ok h with
    ⟨_, rfl⟩ | ⟨_, parts, payload, files, evidence, hparts, hcollect, rfl⟩
  · exact hkept
  · exact hkept.summarized hparts hcollect hspells payload files

/-! ### Runs of compactions -/

/-- One step keeps the pointers of a result. -/
theorem PointersKept.step [HexDigest] {messages after : List Message}
    (h : CompactionStep messages after) {result : ToolExecutionResult}
    (hspells : SpellsCursor result) (hkept : PointersKept messages result) :
    PointersKept after result := by
  cases h with
  | grown _ added =>
      exact hkept.of_holders hspells (.of_subset fun message hmessage _ => by simp [hmessage])
  | micro manager world _ usage =>
      exact hkept.of_holders hspells (holdersKept_micro manager world messages usage)
  | summary manager _ _ keep cycle callback changed h => exact hkept.summarizePrefix h hspells
  | cycle manager world _ cycleIndex force totalTokens recentToolCallIds outcome h =>
      rcases MemoryManager.compactForCycleWithUsage_eq_ok h with
        ⟨hsame, _⟩ | ⟨working, harchived, houtcome⟩
      · rw [hsame]
        exact hkept
      · have hworking : PointersKept working result := by
          rcases harchived with rfl | ⟨usage, rfl⟩
          · exact hkept
          · unfold MemoryManager.cycleMicrocompaction
            split_ifs
            · exact hkept.of_holders hspells (holdersKept_micro manager world messages usage)
            · exact hkept
        have hsanitized := hworking.of_holders hspells (.filterEmpty working)
        rcases houtcome with ⟨length, hwarned, _⟩ | ⟨changed, hsummarize, _⟩
        · rw [hwarned]
          unfold MemoryManager.maybeAppendMemoryWarning
          split_ifs
          · exact hsanitized
          · exact hsanitized.of_holders hspells
              (.of_subset fun message hmessage _ => by simp [hmessage])
        · exact hsanitized.summarizePrefix hsummarize hspells
  | emergency manager _ _ scaledKeep cycle h =>
      simp only [MemoryManager.emergencyCompact, bind_eq_ok, Prod.exists, pure_ok,
        Except.ok.injEq] at h
      obtain ⟨candidate, changed, hsummarize, rfl⟩ := h
      exact hkept.summarizePrefix hsummarize hspells

/-- Every run keeps the pointers of a result. -/
theorem PointersKept.run [HexDigest] {messages after : List Message}
    (h : Relation.ReflTransGen CompactionStep messages after) {result : ToolExecutionResult}
    (hspells : SpellsCursor result) (hkept : PointersKept messages result) :
    PointersKept after result := by
  induction h with
  | refl => exact hkept
  | tail _ hstep ih => exact ih.step hstep hspells

section Faithful
variable {readNumber : JsonNumber → JsonNumber} {turns : List ToolTurn} {turn : ToolTurn}
  {result : ToolExecutionResult}

/-- The cursor that is read back from an envelope is the result's. -/
theorem FaithfulTexts.cursor_of_recovered (h : FaithfulTexts readNumber turns)
    (hvalid : result.validate = .ok ()) (htruncated : result.truncated = true) {call : ToolCall}
    {copy : ToolExecutionResult}
    (hread : ToolExecutionResult.fromDict (.obj (recoveredMembers call result.content
        (Json.mapMembers readNumber result.recoveryMembers))) = .ok copy)
    {cursor : ToolResultCursor} (hcursor : result.cursor = some cursor) :
    copy.cursor = some cursor := by
  obtain ⟨original, horiginal, hvisible, _, hpointer⟩ :=
    ToolExecutionResult.truncated_eq_ok hvalid htruncated
  have hcopy := (ToolExecutionResult.fromDict_eq_ok hread).2.2.1
  rcases hpointer with ⟨artifact, _, _, hnone, _⟩ | ⟨other, hreason, hartifact, hother, hplace⟩
  · rw [hnone] at hcursor
    cases hcursor
  · obtain rfl : other = cursor := Option.some.inj (hother.symm.trans hcursor)
    have hlookup : (recoveredMembers call result.content
        (Json.mapMembers readNumber result.recoveryMembers)).lookup "cursor" =
          some other.toValue := by
      rw [recoveredMembers_cursor horiginal hvisible hreason hartifact hother,
        ToolResultCursor.mapNumbers_toValue hplace h.exact]
      rfl
    have hvalue : ToolExecutionResult.strictOptionalObject ToolResultCursor.fromValue
        (recoveredMembers call result.content
          (Json.mapMembers readNumber result.recoveryMembers)) "cursor" = .ok (some other) := by
      have hback := ToolResultCursor.fromValue_toValue other
      simp only [ToolResultCursor.toValue] at hback
      simp [ToolExecutionResult.strictOptionalObject, hlookup, ToolResultCursor.toValue, hback]
    rw [hvalue] at hcopy
    exact (Except.ok.inj hcopy).symm

theorem FaithfulTexts.spellsCursor (h : FaithfulTexts readNumber turns) (hturn : turn ∈ turns)
    (hanswered : turn.Answered) (hresult : result ∈ turn.results) : SpellsCursor result := by
  intro cursor hcursor
  have hvalid := hanswered.valid result hresult
  have htruncated : result.truncated = true := by
    by_contra hordinary
    have hnone := ((ToolExecutionResult.validate_pointers hvalid).2.2 (by simpa using hordinary)).2
    rw [hnone] at hcursor
    cases hcursor
  refine ⟨(h.readRecovery hturn hresult htruncated ⟨"", "", [], none⟩).1, ?_⟩
  intro call spelled hspelled
  rw [(h.readRecovery hturn hresult htruncated call).2] at hspelled
  exact h.cursor_of_recovered hvalid htruncated hspelled hcursor

/-- At the start the pointers of a result are on its message. -/
theorem pointersKept_conversation (hturn : turn ∈ turns) (hanswered : turn.Answered)
    (hresult : result ∈ turn.results) : PointersKept (conversation turns) result := by
  have hmessage : result.toMessage ∈ conversation turns :=
    List.mem_flatMap.mpr ⟨turn, hturn, List.mem_cons_of_mem _ (List.mem_map_of_mem hresult)⟩
  have hanswer : IsAnswerTo result.toolCallId result.toMessage := ⟨rfl, rfl, rfl⟩
  refine ⟨fun artifact hartifact => .inl ⟨_, hmessage, hanswer, hartifact⟩, ?_⟩
  intro cursor hcursor
  refine .inl ⟨_, hmessage, hanswer, ?_, rfl⟩
  have hvalid := hanswered.valid result hresult
  cases htruncated : result.truncated with
  | false => exact ((ToolExecutionResult.validate_pointers hvalid).2.2 htruncated).1
  | true =>
      obtain ⟨_, _, _, _, ⟨artifact, _, _, hnone, _⟩ | ⟨_, _, hnone, _, _⟩⟩ :=
        ToolExecutionResult.truncated_eq_ok hvalid htruncated
      · rw [hnone] at hcursor
        cases hcursor
      · exact hnone

end Faithful

/-- The pointers of results are collected from their messages, each once and no others, exactly
if the byte counts of truncated results are safe and no text of an ordinary result ends in an
envelope of its own that cannot be read or names other pointers. In every run of compactions
they are kept, on the messages or in the manifest of a summary. -/
theorem recovery_pointers_collected_and_kept [HexDigest] (readNumber : JsonNumber → JsonNumber)
    (turns : List ToolTurn) (hanswered : ∀ turn ∈ turns, turn.Answered)
    (h : FaithfulTexts readNumber turns) :
    (CollectsPointers turns ↔ Recoverable readNumber turns) ∧
      ∀ after, Relation.ReflTransGen CompactionStep (conversation turns) after →
        ∀ turn ∈ turns, ∀ result ∈ turn.results, PointersKept after result := by
  refine ⟨collectsPointers_iff hanswered h, ?_⟩
  intro after hrun turn hturn result hresult
  exact (pointersKept_conversation hturn (hanswered turn hturn) hresult).run hrun
    (h.spellsCursor hturn (hanswered turn hturn) hresult)

end

namespace Sample

def sliceCursor : ToolResultCursor where
  kind := "read_file"
  path := "logs/output.txt"
  offsetChars := 20
  sha256 := "abcdef0123456789abcdef0123456789abcdef0123456789abcdef0123456789"

def sliceCursorText : String :=
  "\x7b\"kind\":\"read_file\",\"offset_chars\":20," ++ "\"path\":\"logs/output.txt\",\"sha256\":\"" ++
    sliceCursor.sha256 ++ "\"\x7d"

/-- A slice of a file, with the cursor to the rest of it. -/
def slice : ToolExecutionResult where
  toolCallId := "c2"
  content := "bounded source slice"
  status := .success
  truncated := true
  truncationReason := some .readLimit
  originalBytes := some 50000
  visibleBytes := some 20
  cursor := some sliceCursor

/-- A file whose last line looks like an envelope. -/
def lookalike : ToolExecutionResult where
  toolCallId := "c2"
  content := "saved transcript\n\x7b\"vv_agent_recovery\":1\x7d"
  status := .success

/-- A call that reads a file, and its result. -/
def readingTurn (result : ToolExecutionResult) : ToolTurn where
  message :=
    { role := .assistant, content := "reading"
      toolCalls := [{ id := "c2", name := "read_file", arguments := [], extraContent := none }] }
  results := [result]

/-- The envelope of the slice. -/
def sliceText : String :=
  "\x7b\"vv_agent_recovery\":\x7b\"cursor\":" ++ sliceCursorText ++
    ",\"original_bytes\":50000,\"truncated\":true," ++
    "\"truncation_reason\":\"read_limit\",\"visible_bytes\":20\x7d\x7d"

/-- The record of the slice's cursor. -/
def sliceRecord : Json :=
  .obj [("arguments", .str "\x7b\x7d"), ("cursor", sliceCursor.toValue),
    ("tool_call_id", .str "c2"), ("tool_name", .str "read_file")]

/-- The JSON texts of these results. -/
@[reducible]
def envelopeTexts : Texts where
  toPlatform := (runtime []).toPlatform
  parse text :=
    if text = sliceText then .ok slice.recoveryValue
    else if text = "\x7b\"vv_agent_recovery\":1\x7d" then
      .ok (.obj [("vv_agent_recovery", .nat 1)])
    else .error "expected value at line 1 column 1"
  parseLeading _ := none
  canonicalText value :=
    if value = slice.recoveryValue then sliceText
    else if value = sliceRecord then
      "\x7b\"arguments\":\"\x7b\x7d\",\"cursor\":" ++ sliceCursorText ++
        ",\"tool_call_id\":\"c2\",\"tool_name\":\"read_file\"\x7d"
    else "\x7b\x7d"
  normalizeSummaryOutput text := text

theorem readingTurn_answered (result : ToolExecutionResult) (hid : result.toolCallId = "c2")
    (hvalid : result.validate = .ok ()) : (readingTurn result).Answered where
  notResult := by simp [readingTurn]
  calling := fun _ => rfl
  identified := by
    intro call hcall
    obtain rfl : call = _ := List.mem_singleton.mp hcall
    decide
  valid := by
    intro other hother
    obtain rfl : other = result := List.mem_singleton.mp hother
    exact hvalid
  answers := by
    intro other hother
    obtain rfl : other = result := List.mem_singleton.mp hother
    exact ⟨_, List.mem_singleton.mpr rfl, hid.symm⟩

theorem not_mem_append {c : Char} {first second : String} (hfirst : c ∉ first.toList)
    (hsecond : c ∉ second.toList) : c ∉ (first ++ second).toList := by
  rw [String.toList_append, List.mem_append, not_or]
  exact ⟨hfirst, hsecond⟩

theorem getLast?_append_text {c : Char} {first second : String}
    (h : second.toList.getLast? = some c) : (first ++ second).toList.getLast? = some c := by
  rw [String.toList_append, List.getLast?_append, h]
  rfl

theorem slice_faithful : @FaithfulTexts envelopeTexts id [readingTurn slice] := by
  let _ := envelopeTexts
  have htext : canonicalText slice.recoveryValue = sliceText := if_pos rfl
  have hparse : parse sliceText = .ok slice.recoveryValue := if_pos rfl
  have hone : ∀ (holds : ToolExecutionResult → Prop), holds slice →
      ∀ turn ∈ [readingTurn slice], ∀ result ∈ turn.results, result.truncated = true →
        holds result := by
    intro holds hslice turn hturn result hresult _
    obtain rfl : turn = readingTurn slice := List.mem_singleton.mp hturn
    obtain rfl : result = slice := List.mem_singleton.mp hresult
    exact hslice
  refine ⟨fun _ _ => rfl, ?_, ?_, ?_, ?_, ?_, ?_⟩
  · intro n m hlarge hsame
    obtain rfl : n = m := by simpa using hsame
    exact hlarge
  · apply hone
    rw [htext, hparse]
    rfl
  · apply hone
    rw [htext]
    have hcursor : '\n' ∉ sliceCursorText.toList := by
      refine not_mem_append (not_mem_append (not_mem_append ?_ ?_) ?_) ?_ <;> decide +kernel
    exact not_mem_append (not_mem_append (not_mem_append (by decide +kernel) hcursor)
      (by decide +kernel)) (by decide +kernel)
  · apply hone
    rw [htext]
    exact getLast?_append_text (by decide +kernel)
  · intro turn hturn call hcall
    obtain rfl : turn = readingTurn slice := List.mem_singleton.mp hturn
    obtain rfl : call = _ := List.mem_singleton.mp hcall
    decide +kernel
  · intro turn hturn call _ result hresult artifact hartifact
    obtain rfl : turn = readingTurn slice := List.mem_singleton.mp hturn
    obtain rfl : result = slice := List.mem_singleton.mp hresult
    cases hartifact

end Sample

open Sample in
/-- The cursor of a slice is collected, and kept when the conversation goes on. -/
theorem slice_pointer_collected_and_kept :
    (readingTurn slice).Answered ∧ @CollectsPointers envelopeTexts [readingTurn slice] ∧
      @PointersKept envelopeTexts
        (@conversation envelopeTexts [readingTurn slice] ++ [.user "go on"]) slice := by
  let _ := envelopeTexts
  let _ : HexDigest := summaryDigest
  have hanswered := readingTurn_answered slice rfl (by decide +kernel)
  have hall : ∀ turn ∈ [readingTurn slice], turn.Answered := by
    intro turn hturn
    rw [List.mem_singleton.mp hturn]
    exact hanswered
  obtain ⟨hcollects, hkept⟩ :=
    recovery_pointers_collected_and_kept id [readingTurn slice] hall slice_faithful
  refine ⟨hanswered, hcollects.mpr ⟨?_, ?_⟩, ?_⟩
  · intro turn hturn result hresult _
    obtain rfl : turn = readingTurn slice := List.mem_singleton.mp hturn
    obtain rfl : result = slice := List.mem_singleton.mp hresult
    exact ⟨by decide, fun artifact _ => ⟨artifact.sizeBytes, rfl⟩⟩
  · intro turn hturn result hresult hordinary
    obtain rfl : turn = readingTurn slice := List.mem_singleton.mp hturn
    obtain rfl : result = slice := List.mem_singleton.mp hresult
    cases hordinary
  · exact hkept _ (.single (.grown _ _)) (readingTurn slice) (by simp) slice
      (List.mem_singleton.mpr rfl)

open Sample in
/-- A file that ends in a line like an envelope: nothing is collected from its messages. -/
theorem lookalike_not_collected :
    (readingTurn lookalike).Answered ∧
      @collect envelopeTexts [] (@conversation envelopeTexts [readingTurn lookalike]) =
        .error "invalid recovery object" ∧
      ¬@CollectsPointers envelopeTexts [readingTurn lookalike] := by
  let _ := envelopeTexts
  have hfails : collect [] (conversation [readingTurn lookalike]) =
      .error "invalid recovery object" := by decide +kernel
  refine ⟨readingTurn_answered lookalike rfl (by decide +kernel), hfails, ?_⟩
  rintro ⟨evidence, hcollect, _⟩
  rw [hfails] at hcollect
  cases hcollect

end VvAgent
