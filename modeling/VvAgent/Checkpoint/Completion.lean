import VvAgent.Checkpoint.Archive
import VvAgent.Types.Dictionaries

/-!
When a definitive tool result can be kept. The result goes into the journal entry of its
operation and a `tool_call_completed` event goes into the outbox; both are checked once more
after they are built, the entry by its own validator and the event by the event reader. Here
each of these checks is reduced to what it asks of the result, of the operation and of the
clock.
-/

namespace VvAgent
open Lib Lib.Outcome

/-- Integers stay in the JSON-safe range. -/
def JsonNumber.isSafe : JsonNumber → Bool
  | .posInt value | .negInt value => value ≤ maxWireInteger
  | .float _ => true

/-- Whether a value passes `validate_i_json`, under whatever name it is checked. -/
def Json.isIJson (value : Json) : Bool := value.allNumbers JsonNumber.isSafe

theorem JsonNumber.validate_eq_ok (number : JsonNumber) (fieldName : String) :
    number.validate fieldName = .ok () ↔ number.isSafe = true := by
  cases number <;> simp [JsonNumber.validate, JsonNumber.isSafe]

theorem Json.validateIJson_eq_ok (value : Json) (fieldName : String) :
    value.validateIJson fieldName = .ok () ↔ value.isIJson = true := by
  have hall := Json.validateIJson.mutual_induct
    (fun name value => value.validateIJson name = .ok () ↔ value.isIJson = true)
    (fun name members =>
      Json.validateMembers name members = .ok () ↔
        Json.allMembers JsonNumber.isSafe members = true)
    (fun name index items =>
      Json.validateItems name index items = .ok () ↔
        Json.allItems JsonNumber.isSafe items = true)
  refine (hall ?_ ?_ ?_ ?_ ?_ ?_ ?_ ?_ ?_ ?_).1 fieldName value
  · intro name
    simp [Json.validateIJson, Json.isIJson, Json.allNumbers]
  · intro name value
    simp [Json.validateIJson, Json.isIJson, Json.allNumbers]
  · intro name value
    simp [Json.validateIJson, Json.isIJson, Json.allNumbers]
  · intro name number
    simpa only [Json.validateIJson, Json.isIJson, Json.allNumbers] using
      number.validate_eq_ok name
  · intro name items ih
    simpa only [Json.validateIJson, Json.isIJson, Json.allNumbers] using ih
  · intro name members ih
    simpa only [Json.validateIJson, Json.isIJson, Json.allNumbers] using ih
  · intro name index
    simp [Json.validateItems, Json.allItems]
  · intro name index item rest hitem hrest
    rw [Json.validateItems, unit_guard_bind, hitem, hrest, Json.allItems, Bool.and_eq_true]
    rfl
  · intro name
    simp [Json.validateMembers, Json.allMembers]
  · intro name key item rest hitem hrest
    rw [Json.validateMembers, unit_guard_bind, hitem, hrest, Json.allMembers, Bool.and_eq_true]
    rfl

theorem Json.isIJson_of_mem {members : JsonObject} {key : String} {value : Json}
    (h : (Json.obj members).isIJson = true) (hmem : (key, value) ∈ members) :
    value.isIJson = true := by
  have hmembers : Json.allMembers JsonNumber.isSafe members = true := h
  clear h
  induction members with
  | nil => cases hmem
  | cons member rest ih =>
      obtain ⟨name, item⟩ := member
      rw [Json.allMembers, Bool.and_eq_true] at hmembers
      rcases List.mem_cons.mp hmem with hhead | htail
      · obtain ⟨rfl, rfl⟩ := Prod.mk.inj hhead
        exact hmembers.1
      · exact ih htail hmembers.2

theorem mem_of_lookup {members : JsonObject} {key : String} {value : Json}
    (h : members.lookup key = some value) : (key, value) ∈ members := by
  induction members with
  | nil => cases h
  | cons member rest ih =>
      obtain ⟨name, item⟩ := member
      by_cases hkey : key = name
      · subst hkey
        simp only [List.lookup_cons, beq_self_eq_true, Option.some.injEq] at h
        rw [h]
        exact List.mem_cons_self
      · rw [List.lookup_cons, beq_eq_false_iff_ne.mpr hkey] at h
        exact List.mem_cons_of_mem _ (ih h)

/-- A valid result whose dictionary is I-JSON survives its dictionary. -/
theorem ToolExecutionResult.wireSafe_of_isIJson {result : ToolExecutionResult}
    (hvalid : result.validate = .ok ()) (h : result.toDict.isIJson = true) : result.WireSafe := by
  have hcount (key : String) (n : Nat) (hlookup : result.fields.lookup key = some (.nat n)) :
      n ≤ maxWireInteger := by
    have hsafe := Json.isIJson_of_mem h (mem_of_lookup hlookup)
    exact of_decide_eq_true hsafe
  refine ⟨hvalid, fun n hn => ?_, fun n hn => ?_⟩
  · apply hcount "original_bytes"
    simp [fields, toDict, Json.asObject?, Option.mem_def.mp hn]
  · apply hcount "visible_bytes"
    simp [fields, toDict, Json.asObject?, Option.mem_def.mp hn]

section
variable [Runtime]

theorem digest_eq_ok (value : Json) (fieldName digest : String) :
    sha256Canonical value fieldName = .ok digest ↔
      value.isIJson = true ∧ digest = Platform.sha256 value.canonical := by
  rw [sha256Canonical_eq_ok, Json.validateIJson_eq_ok]

theorem eventPayloadDigest_eq_ok (event : Json) (digest : String) :
    eventPayloadDigest event = .ok digest ↔
      event.isObject = true ∧ event.isIJson = true ∧
        digest = Platform.sha256 event.canonical := by
  rw [eventPayloadDigest, unit_guard_bind, refuse_eq_ok, digest_eq_ok, Bool.not_eq_false']

/-- The identity key of a receipt. -/
def receiptKey (checkpointKey operationId : String) (attempt : Nat)
    (toolCallId requestDigest : String) : String :=
  Platform.sha256
    (.obj
      [("attempt", .nat attempt), ("checkpoint_key", .str checkpointKey),
        ("operation_id", .str operationId), ("request_digest", .str requestDigest),
        ("tool_call_id", .str toolCallId)])

theorem toolReceiptIdentityKey_eq_ok (checkpointKey operationId : String) (attempt : Nat)
    (toolCallId requestDigest identityKey : String) :
    toolReceiptIdentityKey checkpointKey operationId attempt toolCallId requestDigest =
        .ok identityKey ↔
      attempt ≤ maxWireInteger ∧
        identityKey = receiptKey checkpointKey operationId attempt toolCallId requestDigest := by
  rw [toolReceiptIdentityKey, digest_eq_ok]
  apply and_congr_left
  intro _
  simp [Json.isIJson, Json.allNumbers, Json.allMembers, Json.nat, JsonNumber.isSafe]

theorem toolResultDigest_eq_ok {result : ToolExecutionResult} (hvalid : result.validate = .ok ())
    (digest : String) :
    toolResultDigest result = .ok digest ↔
      result.toDict.isIJson = true ∧ digest = Platform.sha256 result.toDict.canonical := by
  rw [toolResultDigest, hvalid]
  exact digest_eq_ok _ _ _

omit [Runtime] in
/-- A definitive result is valid, and it is a success without an error code or an error. -/
theorem validateDefinitiveResult_eq_ok {result : ToolExecutionResult}
    (h : validateDefinitiveResult result = .ok ()) :
    result.validate = .ok () ∧
      (result.status = .success ∧ result.errorCode = none ∨ result.status = .error) := by
  simp only [validateDefinitiveResult, unit_guard_bind, refuse_eq_ok, withCode_eq_ok] at h
  obtain ⟨hcode, hvalid, hstatus, _⟩ := h
  refine ⟨hvalid, ?_⟩
  cases hresult : result.status with
  | success => exact .inl ⟨rfl, by simpa [hresult] using hcode⟩
  | error => exact .inr rfl
  | waitResponse | running | pendingCompress => simp [hresult] at hstatus

/-- The event under which a receipt is announced. -/
def completionEvent (clock : Clock) (checkpoint : Checkpoint) (entry : OperationJournalEntry)
    (result : ToolExecutionResult) (identityKey : String) : RunEvent :=
  let eventId := "evt_receipt_" ++ identityKey
  { RunEvent.new (clock eventId) checkpoint.rootRunId checkpoint.traceId checkpoint.taskId
      (some (UInt32.ofNat entry.cycleIndex))
      (.toolCallCompleted result.toolCallId (entry.toolName.getD "")
        (toolStatusName result.status) result.directive result.errorCode true none
        (some entry.operationId) (some (UInt32.ofNat entry.attempt))) with
    eventId
    agentName := none }

/-- The members of that event, in key order. -/
def completionMembers (clock : Clock) (checkpoint : Checkpoint) (entry : OperationJournalEntry)
    (result : ToolExecutionResult) (identityKey : String) : JsonObject :=
  [("attempt", .nat (UInt32.ofNat entry.attempt).toNat),
    ("created_at", .num (clock ("evt_receipt_" ++ identityKey))),
    ("cycle_index", .nat (UInt32.ofNat entry.cycleIndex).toNat),
    ("directive", .str result.directive.asStr), ("duration_ms", .null),
    ("error_code", .optStr result.errorCode),
    ("event_id", .str ("evt_receipt_" ++ identityKey)), ("execution_started", .bool true),
    ("operation_id", .str entry.operationId), ("run_id", .str checkpoint.rootRunId),
    ("status", .str (toolStatusName result.status)),
    ("tool_call_id", .str result.toolCallId), ("tool_name", .str (entry.toolName.getD "")),
    ("trace_id", .str checkpoint.traceId), ("type", .str "tool_call_completed"),
    ("version", .str "v5")]

omit [Runtime] in
theorem completionEvent_toValue (clock : Clock) (checkpoint : Checkpoint)
    (entry : OperationJournalEntry) (result : ToolExecutionResult) (identityKey : String) :
    (completionEvent clock checkpoint entry result identityKey).toValue =
      .obj (completionMembers clock checkpoint entry result identityKey) := rfl

/-- The shape of a completed tool call. -/
def toolCompletedShape : EventShape where
  required :=
    [("tool_call_id", isText), ("tool_name", isText),
      ("status", oneOf ["success", "error", "wait_response", "running", "pending_compress"]),
      ("directive", oneOf ["continue", "wait_user", "finish"]), ("error_code", nullOr isStr),
      ("execution_started", isBoolean), ("duration_ms", nullOr isSafeU64)]
  optional :=
    [("operation_id", isStr), ("attempt", isU32), ("checkpoint_key", anyValue),
      toolMetadataField]
  check := toolCompletedCheck

/-- A moment at which an event can be created: finite, not negative, and JSON-safe. -/
def JsonNumber.isMoment (number : JsonNumber) : Bool :=
  isTimestamp (.num number) && number.isSafe

/-- What the event of a receipt needs besides the run it belongs to. -/
def Announces (clock : Clock) (entry : OperationJournalEntry) (result : ToolExecutionResult)
    (identityKey : String) : Prop :=
  isBlank result.toolCallId = false ∧ isBlank (entry.toolName.getD "") = false ∧
    (clock ("evt_receipt_" ++ identityKey)).isMoment = true

omit [Runtime] in
theorem receiptEventId_text (identityKey : String) :
    isBlank ("evt_receipt_" ++ identityKey) = false := by
  simp [isBlank, isWhitespace]

omit [Runtime] in
theorem isText_str (value : String) : isText (.str value) = !isBlank value := rfl

theorem acceptsEvent_completion (clock : Clock) (checkpoint : Checkpoint)
    (entry : OperationJournalEntry) (result : ToolExecutionResult) (identityKey : String) :
    acceptsEvent (completionEvent clock checkpoint entry result identityKey).toValue = true ↔
      isBlank checkpoint.rootRunId = false ∧ isBlank checkpoint.traceId = false ∧
      isBlank result.toolCallId = false ∧ isBlank (entry.toolName.getD "") = false ∧
      isTimestamp (.num (clock ("evt_receipt_" ++ identityKey))) = true := by
  have hstatus : oneOf ["success", "error", "wait_response", "running", "pending_compress"]
      (.str (toolStatusName result.status)) = true := by
    cases result.status <;> rfl
  have hdirective : oneOf ["continue", "wait_user", "finish"]
      (.str result.directive.asStr) = true := by
    cases result.directive <;> rfl
  have hcode : nullOr isStr (.optStr result.errorCode) = true := by
    cases result.errorCode <;> rfl
  have hcycle : isU32 (.nat (UInt32.ofNat entry.cycleIndex).toNat) = true := by
    simp only [isU32, Json.readU32_nat, Option.isSome_some]
  have hattempt : isU32 (.nat (UInt32.ofNat entry.attempt).toNat) = true := by
    simp only [isU32, Json.readU32_nat, Option.isSome_some]
  have htext : isText (.str ("evt_receipt_" ++ identityKey)) = true := by
    rw [isText_str, receiptEventId_text]
    rfl
  have hcommon : commonShape.fieldsOk
        (completionMembers clock checkpoint entry result identityKey) =
      ((isText (.str ("evt_receipt_" ++ identityKey)) && (isText (.str checkpoint.rootRunId) &&
        (isText (.str checkpoint.traceId) &&
          (isTimestamp (.num (clock ("evt_receipt_" ++ identityKey))) && true)))) &&
        (isU32 (.nat (UInt32.ofNat entry.cycleIndex).toNat) && true)) := rfl
  have hshape : toolCompletedShape.fieldsOk
        (completionMembers clock checkpoint entry result identityKey) =
      ((isText (.str result.toolCallId) && (isText (.str (entry.toolName.getD "")) &&
        (oneOf ["success", "error", "wait_response", "running", "pending_compress"]
            (.str (toolStatusName result.status)) &&
          (oneOf ["continue", "wait_user", "finish"] (.str result.directive.asStr) &&
            (nullOr isStr (.optStr result.errorCode) && true))))) &&
        (isU32 (.nat (UInt32.ofNat entry.attempt).toNat) && true)) := rfl
  have haccepts : acceptsEvent (.obj (completionMembers clock checkpoint entry result identityKey)) =
      (commonShape.fieldsOk (completionMembers clock checkpoint entry result identityKey) &&
        toolCompletedShape.fieldsOk
          (completionMembers clock checkpoint entry result identityKey) && true) := rfl
  rw [completionEvent_toValue, haccepts, hcommon, hshape, htext, hcycle, hattempt, hstatus,
    hdirective, hcode]
  simp only [isText_str, Bool.true_and, Bool.and_true, Bool.and_eq_true, Bool.not_eq_true']
  tauto

omit [Runtime] in
theorem completionMembers_isIJson (clock : Clock) (checkpoint : Checkpoint)
    (entry : OperationJournalEntry) (result : ToolExecutionResult) (identityKey : String) :
    (Json.obj (completionMembers clock checkpoint entry result identityKey)).isIJson = true ↔
      (clock ("evt_receipt_" ++ identityKey)).isSafe = true := by
  have hcount (value : UInt32) : (Json.nat value.toNat).isIJson = true := by
    have hbound := value.toNat_lt
    refine decide_eq_true ?_
    simp only [maxWireInteger]
    omega
  have hcode : (Json.optStr result.errorCode).isIJson = true := by
    cases result.errorCode <;> rfl
  have hvalue : (Json.obj (completionMembers clock checkpoint entry result identityKey)).isIJson =
      ((Json.nat (UInt32.ofNat entry.attempt).toNat).isIJson &&
        ((clock ("evt_receipt_" ++ identityKey)).isSafe &&
          ((Json.nat (UInt32.ofNat entry.cycleIndex).toNat).isIJson && (true && (true &&
            ((Json.optStr result.errorCode).isIJson && true)))))) := rfl
  rw [hvalue, hcount, hcount, hcode]
  simp

/-- An event that names its own id is taken into the outbox when it is I-JSON and the event
reader accepts it. -/
theorem pending_event_iff {eventId : String} {event : Json} (entry : EventOutboxEntry)
    (htext : isBlank eventId = false) (hid : event.get? "event_id" = some (.str eventId)) :
    EventOutboxEntry.pending eventId event = .ok entry ↔
      event.isIJson = true ∧ acceptsEvent event = true ∧
        entry = { eventId, payloadDigest := Platform.sha256 event.canonical, state := "pending",
                  event, cursor := none } := by
  have hobject : event.isObject = true := by
    cases event with
    | obj members => rfl
    | _ => cases hid
  have hread (canonical : Bool) :
      readEvent event = some (eventId, canonical) → canonical = true →
        acceptsEvent event = true := by
    intro hsome hcanonical
    unfold readEvent at hsome
    split at hsome
    · assumption
    · obtain ⟨_, _, hpair⟩ := Option.map_eq_some_iff.mp hsome
      have hfalse : false = canonical := congrArg Prod.snd hpair
      rw [← hfalse] at hcanonical
      cases hcanonical
  have hdigest : isSha256 (Platform.sha256 event.canonical) = true := Platform.sha256_isSha256 _
  constructor
  · intro h
    simp only [EventOutboxEntry.pending, EventOutboxEntry.validate, bind_eq_ok,
      eventPayloadDigest_eq_ok, refuse_eq_ok, exists_const, require_eq_ok, Prod.exists,
      Bool.not_eq_false', bne_eq_false_iff_eq, pure_ok, Except.ok.injEq] at h
    obtain ⟨_, ⟨_, hjson, rfl⟩, ⟨_, _, _, _, _, _, _, hevent, rfl, hcanonical, _⟩, rfl⟩ := h
    exact ⟨hjson, hread _ hevent hcanonical, rfl⟩
  · rintro ⟨hjson, haccepts, rfl⟩
    have hevent : readEvent event = some (eventId, true) := by
      rw [readEvent, if_pos haccepts, hid]
      rfl
    simp [EventOutboxEntry.pending, EventOutboxEntry.validate,
      (eventPayloadDigest_eq_ok _ _).mpr ⟨hobject, hjson, rfl⟩, htext, hobject, hevent,
      validateSha256, hdigest]

/-- The outbox entry of the event of a receipt. -/
def completionEntry (clock : Clock) (checkpoint : Checkpoint) (entry : OperationJournalEntry)
    (result : ToolExecutionResult) (identityKey : String) : EventOutboxEntry where
  eventId := "evt_receipt_" ++ identityKey
  payloadDigest := Platform.sha256
    (Json.obj (completionMembers clock checkpoint entry result identityKey)).canonical
  state := "pending"
  event := .obj (completionMembers clock checkpoint entry result identityKey)
  cursor := none

/-- The event of a receipt can be made when the operation and the clock allow it. -/
theorem receiptEvent_eq_ok {clock : Clock} {checkpoint : Checkpoint}
    {entry : OperationJournalEntry} {result : ToolExecutionResult} {identityKey : String}
    (event : EventOutboxEntry) (hcall : entry.toolCallId = some result.toolCallId)
    (hkey : toolReceiptIdentityKey checkpoint.checkpointKey entry.operationId entry.attempt
      result.toolCallId entry.requestDigest = .ok identityKey)
    (hrun : isBlank checkpoint.rootRunId = false) (htrace : isBlank checkpoint.traceId = false) :
    receiptEvent clock checkpoint entry result = .ok event ↔
      Announces clock entry result identityKey ∧
        event = completionEntry clock checkpoint entry result identityKey := by
  have hevent : checkpointEvent clock checkpoint (some (UInt32.ofNat entry.cycleIndex))
      ("evt_receipt_" ++ identityKey)
      (.toolCallCompleted result.toolCallId (entry.toolName.getD "")
        (toolStatusName result.status) result.directive result.errorCode true none
        (some entry.operationId) (some (UInt32.ofNat entry.attempt))) =
      .ok { completionEvent clock checkpoint entry result identityKey with
        agentName := some checkpoint.taskId } := by
    rw [checkpointEvent, RunEvent.withEventId, receiptEventId_text]
    rfl
  have hsplit : receiptEvent clock checkpoint entry result =
      EventOutboxEntry.pending ("evt_receipt_" ++ identityKey)
        (completionEvent clock checkpoint entry result identityKey).toValue := by
    rw [receiptEvent, hcall, require_some, ok_bind, bne_self_eq_false, refuse_false, ok_bind,
      hkey, ok_bind, hevent, ok_bind]
    rfl
  rw [hsplit, pending_event_iff event (receiptEventId_text identityKey) rfl, acceptsEvent_completion,
    completionEvent_toValue, completionMembers_isIJson, Announces, JsonNumber.isMoment,
    Bool.and_eq_true]
  constructor
  · rintro ⟨hsafe, ⟨_, _, hid, hname, htime⟩, rfl⟩
    exact ⟨⟨hid, hname, htime, hsafe⟩, rfl⟩
  · rintro ⟨⟨hid, hname, htime, hsafe⟩, rfl⟩
    exact ⟨hsafe, ⟨hrun, htrace, hid, hname, htime⟩, rfl⟩

/-- The observation that goes with a receipt of an unknown outcome. -/
def observationOf (entry : OperationJournalEntry) (result : ToolExecutionResult) :
    Option ResumeObservation :=
  if result.errorCode = some "tool_outcome_unknown" then some (unknownToolObservation entry)
  else none

/-- The caller has staged the observation that an unknown outcome needs. -/
def ObservationStaged (snapshot : Checkpoint) (entry : OperationJournalEntry)
    (target : ToolReceiptTarget) (result : ToolExecutionResult) : Prop :=
  result.errorCode = some "tool_outcome_unknown" →
    ∃ source, snapshot.toolJournal.find? (fun source =>
        source.kind == entry.kind && target.identifies source && source.state == .ambiguous) =
        some source ∧
      source.resumeObservation = some (unknownToolObservation entry)

omit [Runtime] in
theorem receiptObservation_eq_ok (snapshot : Checkpoint) (entry : OperationJournalEntry)
    (target : ToolReceiptTarget) (result : ToolExecutionResult)
    (observation : Option ResumeObservation) :
    receiptObservation snapshot entry target result = .ok observation ↔
      ObservationStaged snapshot entry target result ∧ observation = observationOf entry result := by
  unfold receiptObservation ObservationStaged observationOf
  split
  · rename_i hunknown
    simp only [hunknown, unit_guard_bind, refuse_eq_ok, bne_eq_false_iff_eq, Option.bind_eq_some_iff,
      pure_ok, Except.ok.injEq, true_imp_iff]
    exact and_congr_right fun _ => eq_comm
  · rename_i hknown
    simp only [hknown, false_imp_iff, true_and, Except.ok.injEq]
    exact eq_comm

omit [Runtime] in
/-- What the tool fields say of the outcome: no model response, and a handle exactly while the
operation is deferred. -/
theorem validateToolFields_outcome {entry : OperationJournalEntry}
    (h : entry.validateToolFields = .ok ()) :
    entry.response = none ∧ (entry.state ≠ .deferred → entry.deferredHandle = none) := by
  simp only [OperationJournalEntry.validateToolFields, unit_guard_bind, refuse_eq_ok] at h
  obtain ⟨_, _, h⟩ := h
  split at h
  all_goals
    simp only [unit_guard_bind, refuse_eq_ok, Option.isSome_eq_false_iff,
      Option.isNone_iff_eq_none] at h
    obtain ⟨_, hresponse, _, hhandle, _⟩ := h
    refine ⟨hresponse, fun hstate => ?_⟩
    simpa [hstate] using hhandle

omit [Runtime] in
/-- The tool fields do not depend on the outcome, once the operation is not deferred. -/
theorem validateToolFields_closed {entry : OperationJournalEntry} (result : ToolExecutionResult)
    (identityKey digest : String) (observation : Option ResumeObservation)
    (h : entry.validateToolFields = .ok ()) :
    (closeWithResult entry identityKey digest observation result).validateToolFields = .ok () := by
  have hstate : (closeWithResult entry identityKey digest observation result).state ≠ .deferred := by
    simp only [closeWithResult]
    split <;> simp
  simp only [OperationJournalEntry.validateToolFields, unit_guard_bind, refuse_eq_ok] at h ⊢
  obtain ⟨hmodel, htool, h⟩ := h
  refine ⟨hmodel, htool, ?_⟩
  have hsupport : (closeWithResult entry identityKey digest observation result).idempotencySupport =
      entry.idempotencySupport := rfl
  rw [hsupport]
  split at h
  all_goals
    rename_i hcase
    simp only [hcase, if_true, if_false, unit_guard_bind, refuse_eq_ok] at h ⊢
    obtain ⟨hkey, hresponse, _, _, harguments⟩ := h
    refine ⟨hkey, hresponse, ?_, ?_, harguments⟩
    · simp [hstate]
    · simp [closeWithResult]

/-- A tool call that has begun carries nothing of an outcome yet. -/
structure Begun (entry : OperationJournalEntry) : Prop where
  response : entry.response = none
  result : entry.result = none
  error : entry.error = none
  identityKey : entry.identityKey = none
  resultDigest : entry.resultDigest = none
  observation : entry.resumeObservation = none
  handle : entry.deferredHandle = none

theorem begun_of_valid {entry : OperationJournalEntry} (hvalid : entry.validate = .ok ())
    (hkind : entry.kind = .tool) (hstate : entry.state = .started ∨ entry.state = .ambiguous) :
    entry.validateFields = .ok () ∧ entry.validateToolFields = .ok () ∧ Begun entry := by
  rw [OperationJournalEntry.validate, unit_guard_bind, hkind] at hvalid
  obtain ⟨hfields, hvalid⟩ := hvalid
  simp only [unit_guard_bind] at hvalid
  obtain ⟨htool, hopen⟩ := hvalid
  have hnone : (entry.response.isSome || entry.result.isSome || entry.error.isSome ||
      entry.identityKey.isSome || entry.resultDigest.isSome ||
      entry.resumeObservation.isSome) = false := by
    rcases hstate with hstate | hstate <;>
      simpa only [OperationJournalEntry.validateState, hstate, refuse_eq_ok] using hopen
  simp only [Bool.or_eq_false_iff, Option.isSome_eq_false_iff, Option.isNone_iff_eq_none] at hnone
  obtain ⟨⟨⟨⟨⟨hresponse, hresult⟩, herror⟩, hkey⟩, hdigest⟩, hobservation⟩ := hnone
  have hhandle : entry.deferredHandle = none := by
    apply (validateToolFields_outcome htool).2
    rcases hstate with hstate | hstate <;> simp [hstate]
  exact ⟨hfields, htool, hresponse, hresult, herror, hkey, hdigest, hobservation, hhandle⟩

omit [Runtime] in
theorem unknownToolObservation_valid {entry : OperationJournalEntry}
    (hname : isBlank entry.operationId = false)
    (hcycle : (entry.cycleIndex == 0 || decide (maxWireInteger < entry.cycleIndex)) = false) :
    (unknownToolObservation entry).validate = .ok () := by
  simp only [ResumeObservation.validate, unknownToolObservation, requireNonEmpty, requirePositive,
    unit_guard_bind, refuse_eq_ok]
  refine ⟨hname, hcycle, rfl, ?_⟩
  simp [isBlank, isWhitespace]

/-- An error result needs a code and a text that are not blank. -/
def Projects (result : ToolExecutionResult) : Prop :=
  result.status = .error → (operationErrorFromToolResult result).validate = .ok ()

omit [Runtime] in
/-- The identity and the digests of the closed entry are fine; its error has to be. -/
theorem closeWithResult_fields {entry : OperationJournalEntry} {result : ToolExecutionResult}
    {identityKey digest : String} (hfields : entry.validateFields = .ok ()) (hbegun : Begun entry)
    (hresult : result.status = .success ∨ result.status = .error)
    (hjson : result.toDict.isIJson = true) (hkey : isSha256 identityKey = true)
    (hdigest : isSha256 digest = true) :
    (closeWithResult entry identityKey digest (observationOf entry result) result).validateFields =
        .ok () ↔ Projects result := by
  simp only [OperationJournalEntry.validateFields, hbegun.response, hbegun.result, hbegun.error,
    hbegun.identityKey, hbegun.resultDigest, hbegun.observation, hbegun.handle, unit_guard_bind,
    refuse_eq_ok] at hfields
  obtain ⟨hname, hcycle, hattempt, hrequest, _⟩ := hfields
  have hobservation := unknownToolObservation_valid hname hcycle
  have hvalue := (result.toDict.validateIJson_eq_ok "operation result").mpr hjson
  simp only [OperationJournalEntry.validateFields, closeWithResult, hbegun.response,
    unit_guard_bind, refuse_eq_ok, hname, hcycle, hattempt, hrequest, hvalue, validateSha256, hkey,
    hdigest, true_and, Bool.not_true]
  by_cases hunknown : result.errorCode = some "tool_outcome_unknown"
  · rcases hresult with hresult | hresult <;>
      simp [observationOf, hunknown, hresult, Projects, hobservation]
  · rcases hresult with hresult | hresult <;> simp [observationOf, hunknown, hresult, Projects]

/-- A result that survives its dictionary is a proper receipt of the entry it closes. -/
theorem closeWithResult_state {entry : OperationJournalEntry} {result : ToolExecutionResult}
    {identityKey digest : String} (hkind : entry.kind = .tool) (hbegun : Begun entry)
    (hresult : result.status = .success ∧ result.errorCode = none ∨ result.status = .error)
    (hsafe : result.WireSafe) (hdigest : toolResultDigest result = .ok digest) :
    (closeWithResult entry identityKey digest (observationOf entry result) result).validateState =
        .ok () := by
  have hread (code context : String) :
      withContext code context (ToolExecutionResult.fromDict result.toDict) = .ok result :=
    (withContext_eq_ok _ _ _ _).mpr (result.fromDict_toDict hsafe)
  rcases hresult with ⟨hsuccess, hcode⟩ | herror
  · simp [OperationJournalEntry.validateState, closeWithResult, hsuccess,
      OperationJournalEntry.validateSucceeded, hkind, hread, hdigest]
  · have hstatus : (result.toDict.get? "status_code").bind Json.asStr? = some "ERROR" := by
      rw [result.toDict_eq, Json.get?]
      simp [ToolExecutionResult.fields, ToolExecutionResult.toDict, Json.asObject?, herror,
        ToolResultStatus.asStr, Json.asStr?]
    have hunknown : (operationErrorFromToolResult result).code = "tool_outcome_unknown" ↔
        result.errorCode = some "tool_outcome_unknown" := by
      cases hcode : result.errorCode with
      | none => simp [operationErrorFromToolResult, hcode]
      | some code =>
          by_cases hblank : code = ""
          · simp [operationErrorFromToolResult, hcode, hblank, Option.filter_some]
          · simp [operationErrorFromToolResult, hcode, hblank, Option.filter_some]
    by_cases hcode : result.errorCode = some "tool_outcome_unknown"
    · simp [OperationJournalEntry.validateState, closeWithResult, herror,
        OperationJournalEntry.validateFailed, hkind, hbegun.response,
        OperationJournalEntry.validateFailedResult, hread, hdigest, hstatus, hunknown.mpr hcode,
        observationOf, hcode]
    · simp [OperationJournalEntry.validateState, closeWithResult, herror,
        OperationJournalEntry.validateFailed, hkind, hbegun.response,
        OperationJournalEntry.validateFailedResult, hread, hdigest, hstatus, mt hunknown.mp hcode,
        observationOf, hcode]

/-- The closed entry passes its validator exactly when the error of the result does. -/
theorem closeWithResult_valid {entry : OperationJournalEntry} {result : ToolExecutionResult}
    {identityKey digest : String} (hvalid : entry.validate = .ok ()) (hkind : entry.kind = .tool)
    (hstate : entry.state = .started ∨ entry.state = .ambiguous)
    (hdefinitive : validateDefinitiveResult result = .ok ()) (hkey : isSha256 identityKey = true)
    (hdigest : toolResultDigest result = .ok digest) :
    (closeWithResult entry identityKey digest (observationOf entry result) result).validate =
        .ok () ↔ Projects result := by
  obtain ⟨hfields, htool, hbegun⟩ := begun_of_valid hvalid hkind hstate
  obtain ⟨hresult, hstatus⟩ := validateDefinitiveResult_eq_ok hdefinitive
  obtain ⟨hjson, hsha⟩ := (toolResultDigest_eq_ok hresult digest).mp hdigest
  have hhash : isSha256 digest = true := by
    rw [hsha]
    exact Platform.sha256_isSha256 _
  have hclosed := closeWithResult_fields hfields hbegun (hstatus.imp_left (·.1)) hjson hkey hhash
  rw [OperationJournalEntry.validate, unit_guard_bind, hclosed, and_iff_left_iff_imp]
  intro _
  have hstill : (closeWithResult entry identityKey digest (observationOf entry result) result).kind =
      .tool := hkind
  simp only [hstill, unit_guard_bind]
  exact ⟨validateToolFields_closed result identityKey digest _ htool,
    closeWithResult_state hkind hbegun hstatus
      (ToolExecutionResult.wireSafe_of_isIJson hresult hjson) hdigest⟩

/-- The record with one tool call closed, more events and the next revision. -/
def closedRecord (current : Checkpoint) (target : ToolReceiptTarget)
    (closed : OperationJournalEntry) (eventOutbox : List EventOutboxEntry) : Checkpoint :=
  { current with
    toolJournal := replaceFirst target.closes closed current.toolJournal
    eventOutbox
    revision := current.revision + 1 }

/-- An outbox in the place of the record's own. -/
def Checkpoint.accounts (current : Checkpoint) (eventOutbox : List EventOutboxEntry) : Prop :=
  validateOutbox [] eventOutbox = .ok () ∧
    validateModelJournalAccounting { current with eventOutbox } = .ok ()

omit [Runtime] in
/-- Every entry of the journal is an old one or the closed one. -/
theorem mem_replaceFirst {entries : List OperationJournalEntry} {target : ToolReceiptTarget}
    {entry : OperationJournalEntry} (closed : OperationJournalEntry)
    (hfound : entries.find? target.closes = some entry) (other : OperationJournalEntry)
    (hother : other ∈ replaceFirst target.closes closed entries) :
    other ∈ entries ∨ other = closed := by
  obtain ⟨before, after, hsplit, _, _, hreplaced⟩ :=
    replaceFirst_split target.closes closed entry entries hfound
  rw [hreplaced] at hother
  rw [hsplit]
  simp only [List.mem_append, List.mem_cons] at hother ⊢
  tauto

theorem closedRecord_journals {current : Checkpoint} {target : ToolReceiptTarget}
    {entry closed : OperationJournalEntry} (eventOutbox : List EventOutboxEntry)
    (hfound : current.toolJournal.find? target.closes = some entry)
    (hentry : closed.validate = .ok ()) (hkind : closed.kind = .tool)
    (hcycle : closed.cycleIndex = entry.cycleIndex)
    (hidentity : validateReceiptIdentity current.checkpointKey closed = .ok ())
    (h : validateJournals current = .ok ()) :
    validateJournals (closedRecord current target closed eventOutbox) = .ok () := by
  simp only [validateJournals, bind_eq_ok, refuse_eq_ok, checkAll_eq_ok, Bool.or_eq_false_iff,
    List.any_eq_false] at h ⊢
  obtain ⟨_, hcalls, cycle, hactive, _, hentries, hmodels, htools⟩ := h
  have hmem := mem_replaceFirst closed hfound
  have hold := hentries entry
    (List.mem_append_right _ (List.mem_of_find?_eq_some hfound))
  simp only [validateJournalEntry, unit_guard_bind, refuse_eq_ok, bne_eq_false_iff_eq] at hold
  refine ⟨(), hcalls, cycle, hactive, (), ?_, hmodels, ?_⟩
  · intro other hother
    have hcase : other ∈ current.journals ∨ other = closed := by
      rcases List.mem_append.mp hother with hmodel | htool
      · exact .inl (List.mem_append_left _ hmodel)
      · exact (hmem other htool).imp_left (List.mem_append_right _)
    rcases hcase with hsame | rfl
    · exact hentries other hsame
    · simp only [validateJournalEntry, unit_guard_bind, refuse_eq_ok, bne_eq_false_iff_eq]
      refine ⟨hentry, hcycle.trans hold.2.1, ?_⟩
      split
      · exact hidentity
      · rfl
  · intro other hother
    rcases hmem other hother with hsame | rfl
    · exact htools other hsame
    · simp [hkind]

omit [Runtime] in
/-- Closing a tool call leaves the deferred ones as they were. -/
theorem closedRecord_deferred {current : Checkpoint} {target : ToolReceiptTarget}
    {entry closed : OperationJournalEntry} (eventOutbox : List EventOutboxEntry)
    (hfound : current.toolJournal.find? target.closes = some entry)
    (hstate : closed.state = .succeeded ∨ closed.state = .failed) :
    ∀ other ∈ (closedRecord current target closed eventOutbox).deferredEntries,
      other ∈ current.deferredEntries := by
  intro other hother
  obtain ⟨hmem, hdeferred⟩ := List.mem_filter.mp hother
  rcases mem_replaceFirst closed hfound other hmem with hsame | rfl
  · exact List.mem_filter.mpr ⟨hsame, hdeferred⟩
  · have hsame := of_decide_eq_true hdeferred
    rcases hstate with hstate | hstate <;> simp [hstate] at hsame

omit [Runtime] in
theorem closedRecord_lifecycle {current : Checkpoint} {target : ToolReceiptTarget}
    {entry closed : OperationJournalEntry} {claimToken : String}
    (eventOutbox : List EventOutboxEntry) (hstatus : current.status = .running)
    (htoken : current.claimToken = some claimToken) (hopen : current.terminalResult = none)
    (hfound : current.toolJournal.find? target.closes = some entry)
    (hstate : closed.state = .succeeded ∨ closed.state = .failed)
    (h : validateLifecycle current = .ok ()) :
    validateLifecycle (closedRecord current target closed eventOutbox) = .ok () := by
  simp only [validateLifecycle, unit_guard_bind, checkAll_eq_ok] at h ⊢
  obtain ⟨_, _, hdeferred, _, _⟩ := h
  have hsame := closedRecord_deferred eventOutbox hfound hstate
  refine ⟨?_, ?_, fun other hother => hdeferred other (hsame other hother), ?_, ?_⟩
  all_goals simp [closedRecord, hstatus, htoken, hopen]

omit [Runtime] in
/-- A claim that is valid with some lease is valid when its own lease is JSON-safe. -/
theorem validateClaim_lease {checkpoint : Checkpoint} {lease : Option Nat} {claimToken : String}
    (htoken : checkpoint.claimToken = some claimToken)
    (h : validateClaim { checkpoint with leaseExpiresAtMs := lease } = .ok ()) :
    validateClaim checkpoint = .ok () ↔
      checkpoint.leaseExpiresAtMs.any (· ≤ maxWireInteger) = true := by
  cases hcycle : checkpoint.claimedCycle with
  | none => simp [validateClaim, htoken, hcycle] at h
  | some cycle =>
      cases lease with
      | none => simp [validateClaim, htoken, hcycle] at h
      | some other =>
          simp only [validateClaim, htoken, hcycle, unit_guard_bind, refuse_eq_ok] at h
          cases hlease : checkpoint.leaseExpiresAtMs with
          | none => simp [validateClaim, htoken, hcycle, hlease]
          | some own =>
              simp only [validateClaim, htoken, hcycle, hlease, unit_guard_bind, refuse_eq_ok,
                decide_eq_false_iff_not, not_lt, Option.any_some, decide_eq_true_eq]
              exact ⟨fun hsafe => hsafe.2.2, fun hsafe => ⟨h.1, h.2.1, hsafe⟩⟩

/-- Closing a tool call keeps a claimed record valid, but for the outbox and the integers. -/
theorem closedRecord_valid {current : Checkpoint} {target : ToolReceiptTarget}
    {entry closed : OperationJournalEntry} {lease : Option Nat} {claimToken : String}
    (eventOutbox : List EventOutboxEntry)
    (hvalid : validateCheckpoint { current with leaseExpiresAtMs := lease } = .ok ())
    (htoken : current.claimToken = some claimToken) (hstatus : current.status = .running)
    (hfound : current.toolJournal.find? target.closes = some entry)
    (hentry : closed.validate = .ok ()) (hkind : closed.kind = .tool)
    (hcycle : closed.cycleIndex = entry.cycleIndex)
    (hstate : closed.state = .succeeded ∨ closed.state = .failed)
    (hidentity : validateReceiptIdentity current.checkpointKey closed = .ok ()) :
    validateCheckpoint (closedRecord current target closed eventOutbox) = .ok () ↔
      current.revision + 1 ≤ maxWireInteger ∧
        current.leaseExpiresAtMs.any (· ≤ maxWireInteger) = true ∧
        current.accounts eventOutbox := by
  rw [validateCheckpoint_eq_ok] at hvalid
  obtain ⟨h1, h2, hid, hclaim, hterminal, h6, h7, h8, _, _, h11, h12, h13⟩ := hvalid
  have hopen : current.terminalResult = none := by
    simp only [validateTerminalStatus, unit_guard_bind, refuse_eq_ok, htoken] at hterminal
    simpa using hterminal.1
  have hjournals : validateJournals current = .ok () := h7
  have hlifecycle : validateLifecycle current = .ok () := h12
  have hidentityOk : validateIdentity (closedRecord current target closed eventOutbox) = .ok () ↔
      current.revision + 1 ≤ maxWireInteger := by
    simp only [validateIdentity, unit_guard_bind, refuse_eq_ok, Bool.or_eq_false_iff,
      decide_eq_false_iff_not, not_lt] at hid ⊢
    exact ⟨fun h => h.2.2.2.2.2.2, fun h => ⟨hid.1, hid.2.1, hid.2.2.1, hid.2.2.2.1, hid.2.2.2.2.1,
      hid.2.2.2.2.2.1, h⟩⟩
  have hclaimOk : validateClaim (closedRecord current target closed eventOutbox) = .ok () ↔
      current.leaseExpiresAtMs.any (· ≤ maxWireInteger) = true := validateClaim_lease htoken hclaim
  have hterminalOk :
      validateTerminalStatus (closedRecord current target closed eventOutbox) = .ok () := hterminal
  rw [validateCheckpoint_eq_ok, hidentityOk, hclaimOk, Checkpoint.accounts]
  constructor
  · rintro ⟨_, _, hrevision, hlease, _, _, _, _, houtbox, hmodels, _⟩
    exact ⟨hrevision, hlease, houtbox, hmodels⟩
  · rintro ⟨hrevision, hlease, houtbox, hmodels⟩
    exact ⟨h1, h2, hrevision, hlease, hterminalOk, h6,
      closedRecord_journals eventOutbox hfound hentry hkind hcycle hidentity hjournals, h8, houtbox,
      hmodels, h11, closedRecord_lifecycle eventOutbox hstatus htoken hopen hfound hstate hlifecycle,
      h13⟩

/-- The closed entry names the operation it closes. -/
theorem closeWithResult_identity {checkpointKey identityKey digest : String}
    {entry : OperationJournalEntry} {result : ToolExecutionResult}
    {observation : Option ResumeObservation} (hcall : entry.toolCallId = some result.toolCallId)
    (hkey : toolReceiptIdentityKey checkpointKey entry.operationId entry.attempt
      result.toolCallId entry.requestDigest = .ok identityKey)
    (hsafe : result.WireSafe) :
    validateReceiptIdentity checkpointKey
        (closeWithResult entry identityKey digest observation result) = .ok () := by
  have hread (code context : String) :
      withContext code context (ToolExecutionResult.fromDict result.toDict) = .ok result :=
    (withContext_eq_ok _ _ _ _).mpr (result.fromDict_toDict hsafe)
  simp [validateReceiptIdentity, closeWithResult, hcall, hkey, hread]

/-- One call of `record_tool_receipt`. -/
structure ReceiptCall where
  clock : Clock
  snapshot : Checkpoint
  target : ToolReceiptTarget
  result : ToolExecutionResult
  claimToken : String
  expectedRevision : Nat

namespace ReceiptCall

/-- The identity key under which the call is retained. -/
def identityKey (call : ReceiptCall) : String :=
  receiptKey call.snapshot.checkpointKey call.target.operationId call.target.attempt
    call.target.toolCallId call.target.requestDigest

/-- The digest of the call's result. -/
def resultDigest (call : ReceiptCall) : String := Platform.sha256 call.result.toDict.canonical

/-- The owner of the claim of `current` classifies its open operation `entry`. -/
structure Owned (call : ReceiptCall) (current : Checkpoint) (entry : OperationJournalEntry) :
    Prop where
  token : current.claimToken = some call.claimToken
  snapshotToken : call.snapshot.claimToken = some call.claimToken
  cycle : current.claimedCycle = some call.target.claimedCycle
  snapshotCycle : call.snapshot.claimedCycle = some call.target.claimedCycle
  revision : current.revision = call.expectedRevision
  snapshotRevision : call.snapshot.revision = call.expectedRevision
  definition : checkpointDefinitionMatches current call.snapshot = true
  entry : current.toolJournal.find? call.target.closes = some entry
  toolCall : call.result.toolCallId = call.target.toolCallId
  definitive : validateDefinitiveResult call.result = .ok ()

/-- The outbox of `current` with the event of the call. -/
def announced (call : ReceiptCall) (current : Checkpoint) (entry : OperationJournalEntry) :
    List EventOutboxEntry :=
  current.eventOutbox ++ [completionEntry call.clock current entry call.result call.identityKey]

/-- What is asked of the call and of the record besides the claim. -/
structure Recordable (call : ReceiptCall) (current : Checkpoint) (entry : OperationJournalEntry) :
    Prop where
  running : current.status = .running
  json : call.result.toDict.isIJson = true
  observed : ObservationStaged call.snapshot entry call.target call.result
  projects : Projects call.result
  announces : Announces call.clock entry call.result call.identityKey
  revision : current.revision + 1 ≤ maxWireInteger
  lease : current.leaseExpiresAtMs.any (· ≤ maxWireInteger) = true
  staged : ∃ eventOutbox,
    appendAllOnce (call.announced current entry) call.snapshot.eventOutbox = .ok eventOutbox ∧
      current.accounts eventOutbox

/-- The entry of the operation after the call. -/
def closedEntry (call : ReceiptCall) (entry : OperationJournalEntry) : OperationJournalEntry :=
  closeWithResult entry call.identityKey call.resultDigest (observationOf entry call.result)
    call.result

end ReceiptCall

section
variable {call : ReceiptCall} {current : Checkpoint} {entry : OperationJournalEntry}

omit [Runtime] in
/-- What the target of the call says of the entry it closes. -/
theorem ReceiptCall.Owned.closes (h : call.Owned current entry) :
    entry ∈ current.toolJournal ∧ entry.operationId = call.target.operationId ∧
      entry.attempt = call.target.attempt ∧ entry.toolCallId = some call.result.toolCallId ∧
      entry.requestDigest = call.target.requestDigest ∧
      (entry.state = .started ∨ entry.state = .ambiguous) := by
  refine ⟨List.mem_of_find?_eq_some h.entry, ?_⟩
  have hcloses := List.find?_some h.entry
  simp only [ToolReceiptTarget.closes, ToolReceiptTarget.identifies, Bool.and_eq_true, beq_iff_eq,
    Bool.or_eq_true, decide_eq_true_eq] at hcloses
  obtain ⟨⟨⟨⟨⟨hid, hattempt⟩, hcall⟩, hdigest⟩, _⟩, hstate⟩ := hcloses
  rw [h.toolCall]
  exact ⟨hid, hattempt, hcall, hdigest, hstate⟩

/-- The checks that come before the operation is looked up all pass for the owner. -/
theorem ReceiptCall.Owned.passes {lease : Option Nat}
    (hvalid : validateCheckpoint { current with leaseExpiresAtMs := lease } = .ok ())
    (howned : call.Owned current entry) :
    isBlank call.claimToken = false ∧ current.terminalResult = none ∧
      entry.validate = .ok () ∧ entry.kind = .tool ∧
      isBlank current.rootRunId = false ∧ isBlank current.traceId = false ∧
      toolReceiptIdentityKey current.checkpointKey call.target.operationId call.target.attempt
        call.target.toolCallId call.target.requestDigest = .ok call.identityKey := by
  rw [validateCheckpoint_eq_ok] at hvalid
  obtain ⟨_, _, hid, hclaim, hterminal, _, hjournals, _⟩ := hvalid
  simp only [validateIdentity, requireNonEmpty, unit_guard_bind, refuse_eq_ok] at hid
  simp only [validateTerminalStatus, unit_guard_bind, refuse_eq_ok, howned.token,
    Option.isSome_some, Bool.and_true, Option.isSome_eq_false_iff,
    Option.isNone_iff_eq_none] at hterminal
  obtain ⟨hmem, hoperation, hattempt, _, _, _⟩ := howned.closes
  simp only [validateJournals, bind_eq_ok, refuse_eq_ok, checkAll_eq_ok, Bool.or_eq_false_iff,
    List.any_eq_false] at hjournals
  obtain ⟨_, _, _, _, _, hentries, _, htools⟩ := hjournals
  have hentry := hentries entry (List.mem_append_right _ hmem)
  simp only [validateJournalEntry, unit_guard_bind] at hentry
  have hblank : isBlank call.claimToken = false := by
    cases lease with
    | none => simp [validateClaim, howned.token, howned.cycle] at hclaim
    | some expiry =>
        simp only [validateClaim, howned.token, howned.cycle, unit_guard_bind,
          refuse_eq_ok] at hclaim
        exact hclaim.1
  have hsafe : entry.attempt ≤ maxWireInteger := by
    have hfields := hentry.1
    simp only [OperationJournalEntry.validate, OperationJournalEntry.validateFields,
      unit_guard_bind, refuse_eq_ok, Bool.or_eq_false_iff, decide_eq_false_iff_not,
      not_lt] at hfields
    exact hfields.1.2.2.1.2
  have hkey := ((checkpointDefinitionMatches_iff _ _).mp howned.definition).checkpointKey
  refine ⟨hblank, hterminal.1, hentry.1, by simpa using htools entry hmem, hid.2.2.1, hid.2.2.2.1, ?_⟩
  rw [toolReceiptIdentityKey_eq_ok, ReceiptCall.identityKey, hkey]
  exact ⟨hattempt ▸ hsafe, rfl⟩

/-- The call prepares a write exactly when it can be recorded, and then the record with the
operation closed. -/
theorem prepareToolReceipt_iff {lease : Option Nat} (updated : Checkpoint)
    (hvalid : validateCheckpoint { current with leaseExpiresAtMs := lease } = .ok ())
    (howned : call.Owned current entry) :
    prepareToolReceipt call.clock current call.snapshot call.target call.result call.claimToken
        call.expectedRevision = .ok (some updated) ↔
      call.Recordable current entry ∧ ∃ eventOutbox,
        appendAllOnce (call.announced current entry) call.snapshot.eventOutbox = .ok eventOutbox ∧
        updated = closedRecord current call.target (call.closedEntry entry) eventOutbox := by
  obtain ⟨hblank, hterminal, hentry, hkind, hrun, htrace, hkey⟩ := howned.passes hvalid
  obtain ⟨_, hoperation, hattempt, hcall, hrequest, hstate⟩ := howned.closes
  have htoken : (isBlank call.claimToken || current.claimToken.isNone ||
      call.snapshot.claimToken.isNone) = false := by
    simp [hblank, howned.token, howned.snapshotToken]
  have hclaim : (current.claimToken != some call.claimToken ||
      call.snapshot.claimToken != some call.claimToken ||
      current.claimedCycle != some call.target.claimedCycle ||
      call.snapshot.claimedCycle != some call.target.claimedCycle) = false := by
    simp [howned.token, howned.snapshotToken, howned.cycle, howned.snapshotCycle]
  have hrevision : (current.revision != call.expectedRevision ||
      call.snapshot.revision != call.expectedRevision) = false := by
    simp [howned.revision, howned.snapshotRevision]
  have hopen : (current.status ≠ .running ∨ current.terminalResult.isSome ∨
      ¬checkpointDefinitionMatches current call.snapshot) ↔ ¬current.status = .running := by
    simp [hterminal, howned.definition]
  rw [prepareToolReceipt, htoken, refuse_false, ok_bind, hclaim, refuse_false, ok_bind, hrevision,
    refuse_false, ok_bind]
  by_cases hrunning : current.status = .running
  swap
  · rw [if_pos (hopen.mpr hrunning)]
    constructor
    · intro h
      simp at h
    · rintro ⟨h, _⟩
      exact (hrunning h.running).elim
  rw [if_neg (fun h => hopen.mp h hrunning), howned.entry]
  simp only [howned.definitive, ok_bind, hkey]
  have hresult := (validateDefinitiveResult_eq_ok howned.definitive).1
  by_cases hjson : call.result.toDict.isIJson = true
  swap
  · constructor
    · intro h
      obtain ⟨digest, hdigest, _⟩ := (bind_eq_ok _ _ _).mp h
      exact (hjson ((toolResultDigest_eq_ok hresult digest).mp hdigest).1).elim
    · rintro ⟨h, _⟩
      exact (hjson h.json).elim
  have hdigest := (toolResultDigest_eq_ok hresult call.resultDigest).mpr ⟨hjson, rfl⟩
  by_cases hobserved : ObservationStaged call.snapshot entry call.target call.result
  swap
  · constructor
    · intro h
      rw [hdigest, ok_bind] at h
      obtain ⟨observation, hobservation, _⟩ := (bind_eq_ok _ _ _).mp h
      exact (hobserved ((receiptObservation_eq_ok _ _ _ _ _).mp hobservation).1).elim
    · rintro ⟨h, _⟩
      exact (hobserved h.observed).elim
  have hobservation := (receiptObservation_eq_ok call.snapshot entry call.target call.result
    (observationOf entry call.result)).mpr ⟨hobserved, rfl⟩
  have hsha : isSha256 call.identityKey = true := Platform.sha256_isSha256 _
  have hclosed : (call.closedEntry entry).validate = .ok () ↔ Projects call.result :=
    closeWithResult_valid hentry hkind hstate howned.definitive hsha hdigest
  have hclosedKey : toolReceiptIdentityKey current.checkpointKey
      (call.closedEntry entry).operationId (call.closedEntry entry).attempt
      call.result.toolCallId (call.closedEntry entry).requestDigest = .ok call.identityKey := by
    simp only [ReceiptCall.closedEntry, closeWithResult, hoperation, hattempt, hrequest,
      howned.toolCall]
    exact hkey
  have hevent (event : EventOutboxEntry) :
      receiptEvent call.clock { current with
          toolJournal := replaceFirst call.target.closes (call.closedEntry entry)
            current.toolJournal } (call.closedEntry entry) call.result = .ok event ↔
        Announces call.clock entry call.result call.identityKey ∧
          event = completionEntry call.clock current entry call.result call.identityKey :=
    receiptEvent_eq_ok event hcall hclosedKey hrun htrace
  have hclosedState : (call.closedEntry entry).state = .succeeded ∨
      (call.closedEntry entry).state = .failed := by
    simp only [ReceiptCall.closedEntry, closeWithResult]
    split <;> simp
  have hstored (eventOutbox : List EventOutboxEntry) (hprojects : Projects call.result) :=
    closedRecord_valid eventOutbox hvalid howned.token hrunning howned.entry
      (hclosed.mpr hprojects) hkind rfl hclosedState
      (closeWithResult_identity hcall hclosedKey
        (ToolExecutionResult.wireSafe_of_isIJson hresult hjson))
  rw [hdigest, ok_bind, hobservation, ok_bind]
  have hentryOf : closeWithResult entry call.identityKey call.resultDigest
      (observationOf entry call.result) call.result = call.closedEntry entry := rfl
  simp only [hentryOf, bind_eq_ok, hclosed, hevent, nextRevision_eq_ok, pure_ok, Except.ok.injEq,
    Option.some.injEq, exists_const]
  constructor
  · rintro ⟨hprojects, _, ⟨hannounces, rfl⟩, outbox, houtbox, _, ⟨_, rfl⟩, _, hwritten, rfl⟩
    have hsame : closedRecord current call.target (call.closedEntry entry) outbox =
        { current with
          toolJournal := replaceFirst call.target.closes (call.closedEntry entry)
            current.toolJournal
          eventOutbox := outbox
          revision := call.expectedRevision + 1 } := by
      rw [closedRecord, howned.revision]
    obtain ⟨hrevision, hlease, haccounts⟩ := (hstored outbox hprojects).mp (hsame ▸ hwritten)
    exact ⟨⟨hrunning, hjson, hobserved, hprojects, hannounces, hrevision, hlease, outbox, houtbox,
      haccounts⟩, outbox, houtbox, hsame.symm⟩
  · rintro ⟨hrecordable, outbox, houtbox, rfl⟩
    obtain ⟨other, hother, haccounts⟩ := hrecordable.staged
    obtain rfl : other = outbox := Except.ok.inj (hother.symm.trans houtbox)
    have hnext : call.expectedRevision + 1 < UInt64.size := by
      have hsafe := hrecordable.revision
      rw [howned.revision] at hsafe
      simp only [maxWireInteger] at hsafe
      simp only [UInt64.size]
      omega
    have hwritten := (hstored other hrecordable.projects).mpr
      ⟨hrecordable.revision, hrecordable.lease, haccounts⟩
    rw [closedRecord, howned.revision] at hwritten ⊢
    exact ⟨hrecordable.projects, _, ⟨hrecordable.announces, rfl⟩, other, houtbox, _, ⟨hnext, rfl⟩,
      (), hwritten, rfl⟩

end

end

end VvAgent
