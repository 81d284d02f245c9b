import VvAgent.Checkpoint.Inversion

/-!
A platform for concrete runs. Its numbers are written and read as the JSON libraries write
and read them; its digest function knows the canonical documents of one small run and
answers with their SHA-256 digests. The run definition is the minimal one of the
repository's parity fixtures, with its recorded digest.
-/

namespace VvAgent.Sample
open Lib.Outcome

/-- The minimal run definition of the parity fixtures. -/
def definition : Json :=
  .obj
    [("agent", .obj [("name", .str "checkpoint-agent"), ("type", .null)]),
      ("budget_limits", .null), ("capability_refs", .obj []),
      ("checkpoint_policy",
        .obj
          [("ambiguous_model_policy", .str "require_reconciliation"),
            ("ambiguous_tool_policy", .str "require_reconciliation"),
            ("max_extension_state_bytes", .nat 262144)]),
      ("context_ref", .null), ("credential_slots", .arr []), ("extensions", .arr []),
      ("initial_messages", .arr []), ("initial_shared_state", .obj []),
      ("model",
        .obj
          [("backend", .str "test"), ("model_id", .str "test-model"), ("settings", .obj []),
            ("transport_timeout_seconds", .nat 90)]),
      ("output_schema", .null),
      ("prompt_bundle",
        .obj
          [("sections",
              .arr
                [.obj
                  [("id", .str "agent_instructions"), ("source", .str "agent.instructions"),
                    ("stable", .bool true), ("text", .str "You are a careful assistant.")]]),
            ("stable_hash",
              .str "8db9554262fc432708ae857344e425c9679cc4d2ccde39cdc4c4c4c4b0d15290")]),
      ("root_input", .str "Summarize the status."), ("run_metadata", .obj []),
      ("runtime_controls",
        .obj
          [("allow_interruption", .bool true), ("max_cycles", .nat 10),
            ("max_handoffs", .nat 10), ("memory_compact_threshold", .nat 250000),
            ("memory_threshold_percentage", .nat 90),
            ("microcompaction_policy",
              .obj
                [("keep_recent_cycles", .nat 3), ("min_result_chars", .nat 500),
                  ("target_ratio",
                    .num (.float (5404319552844595 / 9007199254740992))),
                  ("trigger_ratio", .num (.float (3 / 4)))]),
            ("native_multimodal", .bool false), ("no_tool_policy", .str "continue"),
            ("session_memory_enabled", .bool false), ("stop_at_tool_names", .arr []),
            ("tool_use_behavior", .str "run_llm_again")]),
      ("schema_version", .str "vv-agent.run-definition.v5"), ("session_ref", .null),
      ("tool_policy",
        .obj
          [("allowed_tools", .null), ("approval", .str "default"),
            ("approval_timeout_seconds", .null), ("denied_capability_tags", .arr []),
            ("denied_cost_dimensions", .arr []), ("denied_side_effects", .arr []),
            ("deny_terminal_tools", .bool false), ("disallowed_tools", .arr []),
            ("predicate_ref", .null)]),
      ("tools", .arr []), ("workspace_ref", .null)]

/-- The number read back from the ECMAScript text of a double: an integral value is written
without a fraction and read as an integer. -/
def canonicalFloat (value : Rat) : JsonNumber :=
  if value.den = 1 ∧ 0 ≤ value ∧ value < 2 ^ 64 then .posInt value.num.toNat
  else if value.den = 1 ∧ -(2 ^ 63) ≤ value ∧ value < 0 then .negInt value.num.natAbs
  else .float value

/-- A digest, as it is written. -/
abbrev Digest := { text : String // isSha256 text = true }

/-- SHA-256 of the empty text, for documents that are not listed. -/
def otherDigest : Digest :=
  ⟨"e3b0c44298fc1c149afbf4c8996fb92427ae41e4649b934ca495991b7852b855", by decide⟩

/-- The digest of the run definition. -/
def definitionDigest : Digest :=
  ⟨"69bd7dbe501dbadd9b5326e71bb288dd5498aed2b427ed4d413d730baf7b4c3f", by decide⟩

/-- A document of the run and its digest. The documents are told apart by the text of one of
their members. -/
structure Known where
  member : String
  text : String
  digest : Digest

def Known.describes (row : Known) (value : Json) : Bool :=
  value.get? row.member == some (.str row.text)

/-- The digest of a document of the run. -/
def digestOf (known : List Known) (value : Json) : Digest :=
  ((known.find? fun row => row.describes value).map Known.digest).getD otherDigest

/-- The run definition among the documents. -/
def definitionRow : Known :=
  { member := "schema_version", text := runDefinitionSchema, digest := definitionDigest }

/-- The platform of a run with the given documents. -/
@[reducible]
def runtime (known : List Known) : Runtime where
  canonicalFloat := canonicalFloat
  textFloat := .float
  sha256 value := (digestOf (definitionRow :: known) value).1
  sha256_isSha256 value := (digestOf (definitionRow :: known) value).2
  canonicalLength _ := 2
  isCanonicalObjectText text := text == "\x7b\x7d"
  jsonText _ := "\x7b\x7d"
  argumentsReprint _ := true
  readBudgetUsage := some
  readBudgetExhaustion := some
  readToolMetadata := some
  lenientEventId _ := none
  readRunDefinition value :=
    refuse (!definitionRow.describes value)
      ⟨"checkpoint_definition_invalid", "run_definition has missing or unknown fields"⟩
  recognizeResult _ := none

/-- A new checkpoint of the run. -/
def created : Checkpoint where
  runDefinition := definition
  checkpointKey := "checkpoint"
  taskId := "task"
  rootRunId := "run"
  traceId := "trace"
  runDefinitionDigest := definitionDigest.1

/-- The checkpoint under its first claim. -/
def claimed : Checkpoint := claimedBy created 1 "worker-a" 2000 .continue

/-- A clock that stands still. -/
def clock : Clock := fun _ => .float (3400000001 / 2)

/-- The controller's handle of the run. -/
def handle : ControllerHandle := ⟨"checkpoint", "run", "trace"⟩

/-- A cancel command for the first claim of the run. -/
def cancelCommand : ControllerCommand where
  schemaVersion := controllerCommandSchema
  commandId := "cancel-1"
  commandDigest := "48d0ea617712680222d88b8018434c649d608aa598109a808a7caf52a64c113b"
  handle := handle
  resumeAttempt := 1
  expectedRevision := 1
  command := .cancel

/-- The digests of the command and of the event that announces the request. -/
def cancelDocuments : List Known :=
  [{ member := "command_id"
     text := "cancel-1"
     digest :=
       ⟨"48d0ea617712680222d88b8018434c649d608aa598109a808a7caf52a64c113b", by decide⟩ },
    { member := "event_id"
      text := "controller-cancel-1-run_state_changed"
      digest :=
        ⟨"c5110d4b4b5178d19519599baafa76f8757fa5f2e2d0350dbe70968e4759b072", by decide⟩ }]

/-- A question of the first cycle to the host. -/
def question : HostInteractionRequest where
  schemaVersion := HostInteractionRequest.schema
  interactionId := "question-1"
  logicalCycle := 1
  operationId := "ask-1"
  toolCallId := "call-1"
  requestDigest := "2cde9ceae91aabfa95554e2cf6e296dec53830d70b081e1da1f96e5e90ec6e47"
  prompt := "Which branch?"

/-- The id of the question's record. -/
def questionId : String := "ebe363b65a1ce5abcc7ff4543e2a5e206ff2085d75bafd87d95dd129a23d6f99"

/-- The first claim asks. -/
def asking : HostInteractionAdmissionContext where
  checkpointKey := "checkpoint"
  expectedRevision := 1
  claimToken := "worker-a"
  claimedCycle := 1
  nowMs := 1000
  leaseExpiresAtMs := 2000

/-- The host's answer. -/
def answerCommand : ControllerCommand where
  schemaVersion := controllerCommandSchema
  commandId := "answer-1"
  commandDigest := "e97b7760aa9a38df7b1bba77b8a494a596912a42e397965de5fd0eceae585fe4"
  handle := handle
  resumeAttempt := 1
  expectedRevision := 2
  command := .hostInteractionResponse
    { interactionId := question.interactionId
      logicalCycle := question.logicalCycle
      operationId := question.operationId
      toolCallId := question.toolCallId
      requestDigest := question.requestDigest
      response := { role := "user", content := "main" } }

/-- The recovery of the run with the answer. -/
def recovery : HostInteractionRecoveryEnvelope where
  schemaVersion := hostInteractionRecoverySchema
  recordId := questionId
  checkpointKey := "checkpoint"
  runId := "run"
  traceId := "trace"
  claimMode := "recovery"
  resumeAttempt := 1
  expectedRevision := 3
  logicalCycle := question.logicalCycle
  interactionId := question.interactionId
  operationId := question.operationId
  toolCallId := question.toolCallId
  requestDigest := question.requestDigest
  commandId := "answer-1"

/-- The digests of the question, its record, its notification, its answer and the events
about them. -/
def questionDocuments : List Known :=
  [{ member := "schema_version"
     text := HostInteractionRequest.schema
     digest :=
       ⟨"2cde9ceae91aabfa95554e2cf6e296dec53830d70b081e1da1f96e5e90ec6e47", by decide⟩ },
    { member := "schema_version"
      text := hostInteractionRecordSchema
      digest :=
        ⟨"ebe363b65a1ce5abcc7ff4543e2a5e206ff2085d75bafd87d95dd129a23d6f99", by decide⟩ },
    { member := "transition"
      text := "host_interaction_requested"
      digest :=
        ⟨"723078e489e7fc911d853d75e5dcc31ccd4c550798ac7aa62ed91436d2e5b76d", by decide⟩ },
    { member := "wait_reason"
      text := "host_interaction"
      digest :=
        ⟨"9699be1b080ca56a5684ecf5b240f8f481624130195c706288277ca6e9e15654", by decide⟩ },
    { member := "event_id"
      text := "host-interaction-requested-" ++ questionId
      digest :=
        ⟨"12491a92d141df143e2421ca237c044d2dbbfa4f122d77682f5e681e79a13b7a", by decide⟩ },
    { member := "schema_version"
      text := controllerCommandSchema
      digest :=
        ⟨"e97b7760aa9a38df7b1bba77b8a494a596912a42e397965de5fd0eceae585fe4", by decide⟩ },
    { member := "schema_version"
      text := hostInteractionResponseSchema
      digest :=
        ⟨"ac9476ea897d197c2a068c09f622c25b6ae78ac23d818289b5d65b973a018f6e", by decide⟩ },
    { member := "event_id"
      text := "host-interaction-response-consumed-" ++ questionId
      digest :=
        ⟨"b5f2725aabc1ad879827d39dc69e1fcf482e30d6001fa965c7f90369da03275d", by decide⟩ }]

end VvAgent.Sample
