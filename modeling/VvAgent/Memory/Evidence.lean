import VvAgent.Types.Messages

/-!
Where the rest of a truncated tool result is found. The content of a message may end with a
line that is a recovery envelope; a message may refer to an artifact. `collect` gathers both
from the messages that a summary replaces, and from the summaries before it, into one manifest
without repetitions.
-/

namespace VvAgent
open Lib Lib.Outcome

def trimEnd (text : List Char) : List Char := (text.reverse.dropWhile isWhitespace).reverse

/-- `rsplit_once`: the text before and after the last separator. -/
def rsplitOnce (separator : Char) : List Char → Option (List Char × List Char)
  | [] => none
  | c :: rest =>
      match rsplitOnce separator rest with
      | some (before, after) => some (c :: before, after)
      | none => if c = separator then some ([], rest) else none

/-- The last line of a content and what stands before it. -/
def lastLine (content : String) : Option (String × String) :=
  (rsplitOnce '\n' (trimEnd content.toList)).map fun parts =>
    (.ofList parts.1, .ofList parts.2)

def toolResultCompactMarker : String := "<Tool Result Compact>"

def isCompactedToolContent (content : String) : Bool := startsWith content toolResultCompactMarker

/-- How much of a tool result a marker shows. -/
structure ToolResultArtifactConfig where
  excerptHead : Nat
  excerptTail : Nat

section
variable [Texts]

def hasRecoveryEnvelope (content : String) : Bool :=
  match lastLine content with
  | none => false
  | some (_, line) =>
      match parse line with
      | .ok value => (value.get? "vv_agent_recovery").isSome
      | .error _ => false

def contentWithoutRecoveryEnvelope (content : String) : String :=
  match lastLine content with
  | none => content
  | some (before, _) => if hasRecoveryEnvelope content then before else content

def buildCompactedToolContent (content artifactPath toolName : String)
    (config : ToolResultArtifactConfig) : String :=
  let source := (contentWithoutRecoveryEnvelope content).toList
  let head := source.take config.excerptHead
  let tail :=
    if config.excerptHead < source.length then source.drop (source.length - config.excerptTail)
    else []
  let parts :=
    if tail = [] then if head = [] then [] else [head]
    else if head = [] then [tail]
    else [head, "...<snip>...".toList, tail]
  let excerpt := String.ofList (trimWhitespace (List.intercalate ['\n'] parts))
  toolResultCompactMarker ++ "\ntool_name: " ++ toolName ++ "\nartifact_path: " ++ artifactPath ++
    "\nretrieval_hint: use read_file on artifact_path if needed\nexcerpt:\n" ++ excerpt ++
    "\n</Tool Result Compact>"

/-- The array under a key, or nothing. -/
def arrayAt (value : Json) (key : String) : List Json :=
  ((value.get? key) >>= Json.asArray?).getD []

def hasReferences (evidence : Json) : Bool :=
  !(arrayAt evidence "artifacts").isEmpty || !(arrayAt evidence "cursors").isEmpty

/-- The records of a manifest. -/
structure Evidence where
  artifacts : List Json := []
  cursors : List Json := []
  deriving DecidableEq

def Evidence.toValue (evidence : Evidence) : Json :=
  .obj [("artifacts", .arr evidence.artifacts), ("cursors", .arr evidence.cursors)]

/-- A record is added unless one of the same canonical text is there. The source keeps the
texts of the records it has added in a set. -/
def addRecord (records : List Json) (record : Json) : List Json :=
  if (records.map canonicalText).contains (canonicalText record) then records
  else records ++ [record]

def Evidence.merge (evidence : Evidence) (manifest : Json) : Except String Evidence := do
  validateCompactionMetadata [(compactionMetadataKey, manifest)]
  return { artifacts := (arrayAt manifest "artifacts").foldl addRecord evidence.artifacts
           cursors := (arrayAt manifest "cursors").foldl addRecord evidence.cursors }

/-- A pointer, with the call that it belongs to. -/
def pointerRecord (pointer : String) (call : ToolCall) (value : Json) : Json :=
  .obj
    [("arguments", .str (canonicalText (.obj call.arguments))), (pointer, value),
      ("tool_call_id", .str call.id), ("tool_name", .str call.name)]

def artifactRecord (call : ToolCall) (artifact : ToolArtifactRef) : Json :=
  pointerRecord "artifact_ref" call artifact.toValue

def cursorRecord (call : ToolCall) (cursor : ToolResultCursor) : Json :=
  pointerRecord "cursor" call cursor.toValue

def recoveryFields : List String :=
  ["truncated", "truncation_reason", "original_bytes", "visible_bytes", "artifact", "cursor"]

/-- The result that the envelope at the end of a content describes. -/
def readRecovery (call : ToolCall) (content : String) : Except String ToolExecutionResult := do
  let (body, raw) ← require (lastLine content) "missing recovery envelope"
  let envelope ← parse raw
  refuse (envelope.asObject?.all fun members => members.length != 1) "invalid recovery envelope"
  let recovery ← require (envelope.get? "vv_agent_recovery" >>= Json.asObject?)
    "invalid recovery object"
  refuse (recovery.any fun member => !recoveryFields.contains member.1) "invalid recovery field"
  ToolExecutionResult.fromDict (.obj (insertMembers
    [("content", .str body), ("directive", .str "continue"), ("status_code", .str "SUCCESS"),
      ("tool_call_id", .str call.id)]
    (recovery.map fun member => (member.1, some member.2))))

/-- The pointers of one tool message. -/
def messageReferences (calls : List ToolCall) (message : Message) : Except String Evidence := do
  let call ← require (calls.find? fun call => some call.id = message.toolCallId)
    "missing tool call"
  let referred := message.artifactRef.toList.map (artifactRecord call)
  if hasRecoveryEnvelope message.content then do
    let result ← readRecovery call message.content
    return { artifacts := referred ++ result.artifact.toList.map (artifactRecord call)
             cursors := result.cursor.toList.map (cursorRecord call) }
  else return { artifacts := referred }

/-- The evidence collected so far and the calls of the last assistant message. -/
structure Collecting where
  evidence : Evidence
  calls : List ToolCall := []

def Collecting.step (state : Collecting) (message : Message) : Except String Collecting := do
  let calls := if message.role = .assistant then message.toolCalls else state.calls
  if message.role = .tool then do
    let references ← messageReferences calls message
    let evidence ← state.evidence.merge references.toValue
    return { evidence, calls }
  else return { evidence := state.evidence, calls }

def mergePrevious (evidence : Evidence) (message : Message) : Except String Evidence :=
  match message.metadata.lookup compactionMetadataKey with
  | some manifest => evidence.merge manifest
  | none => .ok evidence

def collect (previous front : List Message) : Except String Evidence := do
  let inherited ← previous.foldlM mergePrevious {}
  let collected ← front.foldlM Collecting.step { evidence := inherited }
  return collected.evidence

def renderRecord (key pointer : String) (record : Json) : String :=
  let member (field : String) : Json := (record.get? field).getD .null
  let target (field : String) : Json := ((member pointer).get? field).getD .null
  let visible :=
    if key = "artifacts" then
      Json.obj
        [("arguments", member "arguments"), ("artifact_path", target "path"),
          ("retrieval_hint", .str "use read_file on artifact_path if needed"),
          ("tool_call_id", member "tool_call_id"), ("tool_name", member "tool_name")]
    else
      Json.obj
        [("arguments", member "arguments"), ("offset_chars", target "offset_chars"),
          ("path", target "path"), ("retrieval_hint", .str "use read_file on path if needed"),
          ("tool_call_id", member "tool_call_id"), ("tool_name", member "tool_name")]
  "- " ++ canonicalText visible

def Evidence.render (evidence : Evidence) : String :=
  "\n".intercalate
    (["<Persisted Artifacts>"] ++ evidence.artifacts.map (renderRecord "artifacts" "artifact_ref") ++
      evidence.cursors.map (renderRecord "cursors" "cursor") ++ ["</Persisted Artifacts>"])

/-! ### Manifests that pass their check -/

/-- The check of a record of an artifact. -/
def validArtifactRecord (record : Json) : Prop :=
  validateCompactionRecord "artifact_ref" (fun value => do
    let artifact ← require (ToolArtifactRef.fromValue value) "invalid artifact_ref"
    artifact.validate) record = .ok ()

/-- The check of a record of a cursor. -/
def validCursorRecord (record : Json) : Prop :=
  validateCompactionRecord "cursor" (fun value => do
    let cursor ← require (ToolResultCursor.fromValue value) "invalid cursor"
    cursor.validate) record = .ok ()

structure Evidence.Valid (evidence : Evidence) : Prop where
  artifacts : ∀ record ∈ evidence.artifacts, validArtifactRecord record
  cursors : ∀ record ∈ evidence.cursors, validCursorRecord record

theorem validateManifest_eq_ok {manifest : Json}
    (h : validateCompactionMetadata [(compactionMetadataKey, manifest)] = .ok ()) :
    Evidence.Valid ⟨arrayAt manifest "artifacts", arrayAt manifest "cursors"⟩ := by
  simp only [validateCompactionMetadata, List.lookup_cons_self, bind_eq_ok, require_eq_ok,
    refuse_eq_ok, checkAll_eq_ok, exists_const] at h
  obtain ⟨members, hmembers, _, artifacts, hartifacts, hvalid, cursors, hcursors, hvalid'⟩ := h
  have hget : ∀ key, manifest.get? key = members.lookup key := by
    intro key
    rw [Json.asObject?_eq_some hmembers]
    rfl
  constructor
  · simpa [arrayAt, hget, hartifacts, validArtifactRecord] using hvalid
  · simpa [arrayAt, hget, hcursors, validCursorRecord] using hvalid'

theorem Evidence.validate_toValue (evidence : Evidence) :
    validateCompactionMetadata [(compactionMetadataKey, evidence.toValue)] = .ok () ↔
      evidence.Valid := by
  constructor
  · intro h
    have hvalid := validateManifest_eq_ok h
    exact ⟨hvalid.artifacts, hvalid.cursors⟩
  · intro h
    have hartifacts := h.artifacts
    have hcursors := h.cursors
    simp only [validArtifactRecord] at hartifacts
    simp only [validCursorRecord] at hcursors
    have hsecond : List.lookup "cursors"
        [("artifacts", Json.arr evidence.artifacts), ("cursors", Json.arr evidence.cursors)] =
          some (.arr evidence.cursors) := rfl
    simpa [validateCompactionMetadata, Evidence.toValue, Json.asObject?, Json.asArray?, hsecond,
      unit_guard_bind] using ⟨hartifacts, hcursors⟩

theorem Evidence.merge_eq_ok {evidence merged : Evidence} {manifest : Json}
    (h : evidence.merge manifest = .ok merged) :
    Evidence.Valid ⟨arrayAt manifest "artifacts", arrayAt manifest "cursors"⟩ ∧
      merged =
        { artifacts := (arrayAt manifest "artifacts").foldl addRecord evidence.artifacts
          cursors := (arrayAt manifest "cursors").foldl addRecord evidence.cursors } := by
  simp only [merge, unit_guard_bind, pure_ok, Except.ok.injEq] at h
  exact ⟨validateManifest_eq_ok h.1, h.2.symm⟩

/-- What one message adds to the evidence. -/
theorem Collecting.step_eq_ok {state after : Collecting} {message : Message}
    (h : state.step message = .ok after) :
    after.calls = (if message.role = .assistant then message.toolCalls else state.calls) ∧
      ((message.role ≠ .tool ∧ after.evidence = state.evidence) ∨
        (message.role = .tool ∧ ∃ references,
          messageReferences after.calls message = .ok references ∧
            state.evidence.merge references.toValue = .ok after.evidence)) := by
  unfold step at h
  by_cases hrole : message.role = .tool
  · simp only [hrole, if_true, bind_eq_ok, pure_ok, Except.ok.injEq] at h
    obtain ⟨references, hreferences, evidence, hmerge, rfl⟩ := h
    exact ⟨by simp [hrole], .inr ⟨hrole, references, hreferences, hmerge⟩⟩
  · simp only [hrole, if_false, pure_ok, Except.ok.injEq] at h
    subst h
    exact ⟨rfl, .inl ⟨hrole, rfl⟩⟩

end

end VvAgent
