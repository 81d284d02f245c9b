import Mathlib.Data.String.Basic
import Mathlib.Logic.Relation
import VvAgent.Memory.Shape

/-!
The pointers to the rest of truncated tool results. A result that answers a call becomes a
message; `collect` reads the pointers of messages back, and compaction moves them from the
messages it takes away to the manifest of the summary. Records are compared by their canonical
texts, as the source does.
-/

namespace VvAgent
open Lib Lib.Outcome

section
variable [Texts]

/-! ### What a manifest gathers -/

/-- The canonical texts of records. -/
def recordTexts (records : List Json) : List String := records.map canonicalText

theorem recordTexts_addRecord (records : List Json) (record : Json) (text : String) :
    text ∈ recordTexts (addRecord records record) ↔
      text ∈ recordTexts records ∨ text = canonicalText record := by
  unfold addRecord
  split_ifs with hknown
  · have hthere : canonicalText record ∈ recordTexts records := by
      simpa [recordTexts] using hknown
    constructor
    · exact .inl
    · rintro (h | rfl)
      · exact h
      · exact hthere
  · simp [recordTexts]

theorem nodup_addRecord {records : List Json} (record : Json) (h : (recordTexts records).Nodup) :
    (recordTexts (addRecord records record)).Nodup := by
  unfold addRecord
  split_ifs with hknown
  · exact h
  · have hnew : canonicalText record ∉ recordTexts records := by
      simpa [recordTexts] using hknown
    simp only [recordTexts, List.map_append, List.map_cons, List.map_nil]
    exact List.nodup_append.mpr ⟨h, by simp, fun first hfirst second hsecond => by
      rw [List.mem_singleton.mp hsecond]
      rintro rfl
      exact hnew hfirst⟩

theorem recordTexts_foldl (added records : List Json) (text : String) :
    text ∈ recordTexts (added.foldl addRecord records) ↔
      text ∈ recordTexts records ∨ text ∈ recordTexts added := by
  induction added generalizing records with
  | nil => simp [recordTexts]
  | cons record added ih =>
      rw [List.foldl_cons, ih, recordTexts_addRecord]
      simp only [recordTexts, List.map_cons, List.mem_cons]
      tauto

theorem nodup_foldl (added records : List Json) (h : (recordTexts records).Nodup) :
    (recordTexts (added.foldl addRecord records)).Nodup := by
  induction added generalizing records with
  | nil => exact h
  | cons record added ih => exact ih _ (nodup_addRecord record h)

/-- The two kinds of pointers. -/
inductive PointerKind where
  | artifact
  | cursor
  deriving DecidableEq

/-- The records of a manifest of one kind. -/
def manifestRecords (manifest : Json) : PointerKind → List Json
  | .artifact => arrayAt manifest "artifacts"
  | .cursor => arrayAt manifest "cursors"

namespace Evidence

def records (evidence : Evidence) : PointerKind → List Json
  | .artifact => evidence.artifacts
  | .cursor => evidence.cursors

/-- The canonical texts of the records of one kind. -/
def texts (evidence : Evidence) (kind : PointerKind) : List String :=
  recordTexts (evidence.records kind)

omit [Texts] in
theorem manifestRecords_toValue (evidence : Evidence) (kind : PointerKind) :
    manifestRecords evidence.toValue kind = evidence.records kind := by
  cases kind <;> rfl

theorem merge_records {evidence merged : Evidence} {manifest : Json}
    (h : evidence.merge manifest = .ok merged) (kind : PointerKind) :
    merged.records kind = (manifestRecords manifest kind).foldl addRecord
      (evidence.records kind) := by
  obtain ⟨_, rfl⟩ := merge_eq_ok h
  cases kind <;> rfl

theorem mem_texts_merge {evidence merged : Evidence} {manifest : Json}
    (h : evidence.merge manifest = .ok merged) (kind : PointerKind) (text : String) :
    text ∈ merged.texts kind ↔
      text ∈ evidence.texts kind ∨ text ∈ recordTexts (manifestRecords manifest kind) := by
  rw [texts, merge_records h kind, recordTexts_foldl]
  rfl

theorem nodup_texts_merge {evidence merged : Evidence} {manifest : Json}
    (h : evidence.merge manifest = .ok merged) (kind : PointerKind)
    (hnodup : (evidence.texts kind).Nodup) : (merged.texts kind).Nodup := by
  rw [texts, merge_records h kind]
  exact nodup_foldl _ _ hnodup

theorem merge_toValue (evidence references : Evidence) (h : references.Valid) :
    ∃ merged, evidence.merge references.toValue = .ok merged := by
  have hvalid := (validate_toValue references).mpr h
  simp only [merge, hvalid, ok_bind, pure_ok]
  exact ⟨_, rfl⟩

end Evidence

/-! ### What is collected from messages -/

/-- The tool messages of a conversation, each with the calls of the last assistant message. -/
def answersIn (calls : List ToolCall) : List Message → List (List ToolCall × Message)
  | [] => []
  | message :: rest =>
      let now := if message.role = .assistant then message.toolCalls else calls
      if message.role = .tool then (now, message) :: answersIn now rest else answersIn now rest

omit [Texts] in
theorem mem_answersIn_cons {calls : List ToolCall} {message : Message} {rest : List Message}
    {answer : List ToolCall × Message}
    (h : answer ∈ answersIn (if message.role = .assistant then message.toolCalls else calls)
      rest) : answer ∈ answersIn calls (message :: rest) := by
  rw [answersIn]
  generalize (if message.role = .assistant then message.toolCalls else calls) = now at h ⊢
  split_ifs
  · exact List.mem_cons_of_mem _ h
  · exact h

omit [Texts] in
theorem mem_answersIn (calls : List ToolCall) (messages : List Message) {message : Message}
    (hmessage : message ∈ messages) (hrole : message.role = .tool) :
    ∃ now, (now, message) ∈ answersIn calls messages := by
  induction messages generalizing calls with
  | nil => cases hmessage
  | cons first rest ih =>
      rcases List.mem_cons.mp hmessage with rfl | hrest
      · simp only [answersIn, hrole, if_true]
        exact ⟨_, List.mem_cons_self⟩
      · obtain ⟨now, hnow⟩ :=
          ih (if first.role = .assistant then first.toolCalls else calls) hrest
        exact ⟨now, mem_answersIn_cons hnow⟩

/-- The pointers of an answer can be read, and pass their check. -/
def Readable (answer : List ToolCall × Message) : Prop :=
  ∃ references, messageReferences answer.1 answer.2 = .ok references ∧ references.Valid

/-- An answer names a record. -/
def Names (answer : List ToolCall × Message) (kind : PointerKind) (text : String) : Prop :=
  ∃ references, messageReferences answer.1 answer.2 = .ok references ∧
    text ∈ references.texts kind

namespace Collecting

/-- One message: a tool message is read and its records are added. -/
theorem step_tool_eq_ok {state after : Collecting} {message : Message}
    (h : state.step message = .ok after) (hrole : message.role = .tool) :
    after.calls = state.calls ∧ Readable (state.calls, message) ∧
      (∀ kind text, text ∈ after.evidence.texts kind ↔
        text ∈ state.evidence.texts kind ∨ Names (state.calls, message) kind text) ∧
      ∀ kind, (state.evidence.texts kind).Nodup → (after.evidence.texts kind).Nodup := by
  obtain ⟨hcalls, hkind⟩ := step_eq_ok h
  have hsame : after.calls = state.calls := by simpa [hrole] using hcalls
  rcases hkind with ⟨hother, _⟩ | ⟨_, references, hreferences, hmerge⟩
  · exact absurd hrole hother
  · rw [hsame] at hreferences
    have hvalid : references.Valid := (Evidence.merge_eq_ok hmerge).1
    refine ⟨hsame, ⟨references, hreferences, hvalid⟩, ?_, ?_⟩
    · intro kind text
      rw [Evidence.mem_texts_merge hmerge, Evidence.manifestRecords_toValue]
      constructor
      · rintro (hthere | hnamed)
        · exact .inl hthere
        · exact .inr ⟨references, hreferences, hnamed⟩
      · rintro (hthere | ⟨others, hothers, hnamed⟩)
        · exact .inl hthere
        · rw [show others = references from Except.ok.inj (hothers.symm.trans hreferences)]
            at hnamed
          exact .inr hnamed
    · intro kind hnodup
      exact Evidence.nodup_texts_merge hmerge kind hnodup

/-- A tool message whose pointers can be read is collected. -/
theorem step_of_readable (state : Collecting) (message : Message)
    (h : message.role = .tool → Readable (state.calls, message)) :
    ∃ after, state.step message = .ok after := by
  unfold step
  by_cases hrole : message.role = .tool
  · obtain ⟨references, hreferences, hvalid⟩ := h hrole
    obtain ⟨merged, hmerged⟩ := state.evidence.merge_toValue references hvalid
    simp only [hrole, if_true, reduceCtorEq, if_false, hreferences, ok_bind, hmerged, pure_ok]
    exact ⟨_, rfl⟩
  · simp only [hrole, if_false, pure_ok]
    exact ⟨_, rfl⟩

theorem step_calls {state after : Collecting} {message : Message}
    (h : state.step message = .ok after) :
    after.calls = if message.role = .assistant then message.toolCalls else state.calls :=
  (step_eq_ok h).1

/-- The messages of a conversation: each answer is read, and the evidence has the records it
had and those that the answers name. -/
theorem run_eq_ok (messages : List Message) {state after : Collecting}
    (h : messages.foldlM step state = .ok after) :
    (∀ answer ∈ answersIn state.calls messages, Readable answer) ∧
      (∀ kind text, text ∈ after.evidence.texts kind ↔ text ∈ state.evidence.texts kind ∨
        ∃ answer ∈ answersIn state.calls messages, Names answer kind text) ∧
      ∀ kind, (state.evidence.texts kind).Nodup → (after.evidence.texts kind).Nodup := by
  induction messages generalizing state with
  | nil =>
      cases h
      simp [answersIn]
  | cons message messages ih =>
      rw [List.foldlM_cons, bind_eq_ok] at h
      obtain ⟨next, hstep, hrest⟩ := h
      obtain ⟨hreadable, htexts, hnodup⟩ := ih hrest
      have hcalls := step_calls hstep
      by_cases hrole : message.role = .tool
      · obtain ⟨hsame, hfirst, hadded, hkept⟩ := step_tool_eq_ok hstep hrole
        have hanswers : answersIn state.calls (message :: messages) =
            (state.calls, message) :: answersIn next.calls messages := by
          simp [answersIn, hrole, hsame]
        rw [hanswers]
        refine ⟨?_, ?_, fun kind h => hnodup kind (hkept kind h)⟩
        · intro answer hanswer
          rcases List.mem_cons.mp hanswer with rfl | hanswer
          · exact hfirst
          · exact hreadable answer hanswer
        · intro kind text
          rw [htexts, hadded, List.exists_mem_cons_iff, or_assoc]
      · have hanswers : answersIn state.calls (message :: messages) =
            answersIn next.calls messages := by
          simp [answersIn, hrole, hcalls]
        have hevidence : next.evidence = state.evidence := by
          rcases (step_eq_ok hstep).2 with ⟨_, heq⟩ | ⟨htool, _⟩
          · exact heq
          · exact absurd htool hrole
        rw [hanswers, ← hevidence]
        exact ⟨hreadable, htexts, hnodup⟩

theorem run_of_readable (messages : List Message) (state : Collecting)
    (h : ∀ answer ∈ answersIn state.calls messages, Readable answer) :
    ∃ after, messages.foldlM step state = .ok after := by
  induction messages generalizing state with
  | nil => exact ⟨state, rfl⟩
  | cons message messages ih =>
      have hfirst : message.role = .tool → Readable (state.calls, message) := by
        intro hrole
        apply h
        simp [answersIn, hrole]
      obtain ⟨next, hstep⟩ := step_of_readable state message hfirst
      have hrest : ∀ answer ∈ answersIn next.calls messages, Readable answer := by
        intro answer hanswer
        apply h
        rw [step_calls hstep] at hanswer
        exact mem_answersIn_cons hanswer
      obtain ⟨after, hafter⟩ := ih next hrest
      exact ⟨after, by rw [List.foldlM_cons, hstep, ok_bind, hafter]⟩

end Collecting

/-- From messages alone, the records that are collected are those that the answers name, each
of them once, as long as every answer can be read. -/
theorem collect_nil_iff (messages : List Message) :
    (∃ evidence, collect [] messages = .ok evidence) ↔
      ∀ answer ∈ answersIn [] messages, Readable answer := by
  constructor
  · rintro ⟨evidence, h⟩
    simp only [collect, List.foldlM_nil, pure_ok, ok_bind, bind_eq_ok, Except.ok.injEq] at h
    obtain ⟨collected, hcollected, _⟩ := h
    exact (Collecting.run_eq_ok messages hcollected).1
  · intro h
    obtain ⟨after, hafter⟩ := Collecting.run_of_readable messages { evidence := {} } h
    exact ⟨after.evidence, by simp [collect, hafter, pure_ok, ok_bind]⟩

theorem collect_nil_eq_ok {messages : List Message} {evidence : Evidence}
    (h : collect [] messages = .ok evidence) (kind : PointerKind) :
    (evidence.texts kind).Nodup ∧
      ∀ text, text ∈ evidence.texts kind ↔
        ∃ answer ∈ answersIn [] messages, Names answer kind text := by
  simp only [collect, List.foldlM_nil, pure_ok, ok_bind, bind_eq_ok, Except.ok.injEq] at h
  obtain ⟨collected, hcollected, rfl⟩ := h
  obtain ⟨_, htexts, hnodup⟩ := Collecting.run_eq_ok messages hcollected
  have hempty : ({} : Evidence).texts kind = [] := by cases kind <;> rfl
  refine ⟨hnodup kind (by simp [hempty]), fun text => ?_⟩
  rw [htexts]
  simp [hempty]

/-! ### Results that answer calls -/

/-- The records of the pointers of a result that answers a call. -/
def ToolExecutionResult.pointers (result : ToolExecutionResult) (call : ToolCall) : Evidence where
  artifacts := result.artifact.toList.map (artifactRecord call)
  cursors := result.cursor.toList.map (cursorRecord call)

/-- A message and the results of the calls in it. -/
structure ToolTurn where
  message : Message
  results : List ToolExecutionResult

namespace ToolTurn

def messages (turn : ToolTurn) : List Message :=
  turn.message :: turn.results.map ToolExecutionResult.toMessage

/-- The call that a result answers. -/
def callOf (turn : ToolTurn) (result : ToolExecutionResult) : Option ToolCall :=
  turn.message.toolCalls.find? fun call => some call.id = some result.toolCallId

/-- The results are valid and answer calls of the message, which have ids and names. -/
structure Answered (turn : ToolTurn) : Prop where
  notResult : turn.message.role ≠ .tool
  calling : turn.results ≠ [] → turn.message.role = .assistant
  identified : ∀ call ∈ turn.message.toolCalls, call.id ≠ "" ∧ call.name ≠ ""
  valid : ∀ result ∈ turn.results, result.validate = .ok ()
  answers : ∀ result ∈ turn.results, ∃ call ∈ turn.message.toolCalls,
    call.id = result.toolCallId

omit [Texts] in
theorem Answered.callOf {turn : ToolTurn} (h : turn.Answered) {result : ToolExecutionResult}
    (hresult : result ∈ turn.results) :
    ∃ call, turn.callOf result = some call ∧ call ∈ turn.message.toolCalls ∧
      call.id = result.toolCallId := by
  obtain ⟨other, hother, hid⟩ := h.answers result hresult
  have hfound : (turn.callOf result).isSome = true :=
    List.find?_isSome.mpr ⟨other, hother, by simp [hid]⟩
  obtain ⟨call, hcall⟩ := Option.isSome_iff_exists.mp hfound
  refine ⟨call, hcall, List.mem_of_find?_eq_some hcall, ?_⟩
  simpa using List.find?_some hcall

end ToolTurn

def conversation (turns : List ToolTurn) : List Message := turns.flatMap ToolTurn.messages

/-- A record of a pointer of one of the results. -/
def IsPointer (turns : List ToolTurn) (kind : PointerKind) (text : String) : Prop :=
  ∃ turn ∈ turns, ∃ result ∈ turn.results, ∃ call, turn.callOf result = some call ∧
    text ∈ (result.pointers call).texts kind

theorem answersIn_results (calls : List ToolCall) (results : List ToolExecutionResult)
    (rest : List Message) :
    answersIn calls (results.map ToolExecutionResult.toMessage ++ rest) =
      results.map (fun result => (calls, result.toMessage)) ++ answersIn calls rest := by
  induction results with
  | nil => rfl
  | cons result results ih =>
      have hrole : result.toMessage.role = .tool := rfl
      rw [List.map_cons, List.cons_append, answersIn]
      simp [hrole, ih]

/-- The answers of a conversation are the results with the calls of their turns. -/
theorem mem_answersIn_conversation (turns : List ToolTurn) (hturns : ∀ turn ∈ turns, turn.Answered)
    (calls : List ToolCall) (answer : List ToolCall × Message) :
    answer ∈ answersIn calls (conversation turns) ↔
      ∃ turn ∈ turns, ∃ result ∈ turn.results,
        answer = (turn.message.toolCalls, result.toMessage) := by
  induction turns generalizing calls with
  | nil => simp [conversation, answersIn]
  | cons turn turns ih =>
      have hturn := hturns turn (by simp)
      have hrest := ih fun other hother => hturns other (by simp [hother])
      have hmessages : conversation (turn :: turns) = turn.message ::
          (turn.results.map ToolExecutionResult.toMessage ++ conversation turns) := by
        simp [conversation, ToolTurn.messages]
      rw [hmessages, answersIn]
      simp only [hturn.notResult, if_false, answersIn_results, List.mem_append, hrest,
        List.exists_mem_cons_iff]
      refine or_congr ?_ Iff.rfl
      cases hresults : turn.results with
      | nil => simp
      | cons first others =>
          have hrole := hturn.calling (by simp [hresults])
          simp only [hrole, if_true, List.mem_map]
          constructor
          · rintro ⟨result, hresult, rfl⟩
            exact ⟨result, hresult, rfl⟩
          · rintro ⟨result, hresult, rfl⟩
            exact ⟨result, hresult, rfl⟩

/-! ### The envelope of a truncated result -/

omit [Texts] in
theorem rsplitOnce_append (separator : Char) (before after : List Char)
    (hafter : separator ∉ after) :
    rsplitOnce separator (before ++ separator :: after) = some (before, after) := by
  have hnone : ∀ text : List Char, separator ∉ text → rsplitOnce separator text = none := by
    intro text htext
    induction text with
    | nil => rfl
    | cons c rest ih =>
        simp only [List.mem_cons, not_or] at htext
        simp [rsplitOnce, ih htext.2, Ne.symm htext.1]
  induction before with
  | nil => simp [rsplitOnce, hnone after hafter]
  | cons c before ih => simp [rsplitOnce, ih]

omit [Texts] in
theorem trimEnd_eq_self {text : List Char} {last : Char} (hlast : text.getLast? = some last)
    (hplain : isWhitespace last = false) : trimEnd text = text := by
  obtain ⟨before, rfl⟩ := List.getLast?_eq_some_iff.mp hlast
  simp [trimEnd, hplain]

omit [Texts] in
/-- A line of its own at the end of a content is the last line. -/
theorem lastLine_append (content line : String) (hline : '\n' ∉ line.toList) {last : Char}
    (hlast : line.toList.getLast? = some last) (hplain : isWhitespace last = false) :
    lastLine (content ++ "\n" ++ line) = some (content, line) := by
  have htext : (content ++ "\n" ++ line).toList = content.toList ++ '\n' :: line.toList := by
    simp [String.toList_append]
  have hend : (content.toList ++ '\n' :: line.toList).getLast? = some last := by
    obtain ⟨before, hbefore⟩ := List.getLast?_eq_some_iff.mp hlast
    exact List.getLast?_eq_some_iff.mpr ⟨content.toList ++ '\n' :: before, by simp [hbefore]⟩
  rw [lastLine, htext, trimEnd_eq_self hend hplain, rsplitOnce_append '\n' _ _ hline]
  simp

/-- What the JSON library does on the texts of these results and calls. Integers up to 2^53 - 1
are read back from their canonical texts, larger ones as other numbers that are larger too. -/
structure FaithfulTexts (readNumber : JsonNumber → JsonNumber) (turns : List ToolTurn) : Prop where
  exact : ∀ n, n ≤ maxWireInteger → readNumber (.posInt n) = .posInt n
  large : ∀ n m, maxWireInteger < n → readNumber (.posInt n) = .posInt m → maxWireInteger < m
  recovery : ∀ turn ∈ turns, ∀ result ∈ turn.results, result.truncated = true →
    parse (canonicalText result.recoveryValue) = .ok (result.recoveryValue.mapNumbers readNumber)
  oneLine : ∀ turn ∈ turns, ∀ result ∈ turn.results, result.truncated = true →
    '\n' ∉ (canonicalText result.recoveryValue).toList
  braced : ∀ turn ∈ turns, ∀ result ∈ turn.results, result.truncated = true →
    (canonicalText result.recoveryValue).toList.getLast? = some '\x7d'
  arguments : ∀ turn ∈ turns, ∀ call ∈ turn.message.toolCalls,
    Platform.isCanonicalObjectText (canonicalText (.obj call.arguments)) = true
  again : ∀ turn ∈ turns, ∀ call ∈ turn.message.toolCalls, ∀ result ∈ turn.results,
    ∀ artifact ∈ result.artifact,
      canonicalText ((artifactRecord call artifact).mapNumbers readNumber) =
        canonicalText (artifactRecord call artifact)

/-- The members of the wire form that the envelope of a result is completed to. -/
def recoveredMembers (call : ToolCall) (content : String) (recovery : JsonObject) : JsonObject :=
  insertMembers
    [("content", .str content), ("directive", .str "continue"), ("status_code", .str "SUCCESS"),
      ("tool_call_id", .str call.id)]
    (recovery.map fun member => (member.1, some member.2))

omit [Texts] in
theorem keys_mapMembers (f : JsonNumber → JsonNumber) (members : JsonObject) :
    (Json.mapMembers f members).map (·.1) = members.map (·.1) := by
  induction members with
  | nil => rfl
  | cons member members ih => simp [Json.mapMembers, ih]

omit [Texts] in
theorem mem_recoveryFields (result : ToolExecutionResult) (key : String)
    (hkey : key ∈ result.recoveryMembers.map (·.1)) : key ∈ recoveryFields := by
  have hfields := mem_keys_present _ key hkey
  simp only [List.map_cons, List.map_nil, List.mem_cons, List.not_mem_nil, or_false] at hfields
  rcases hfields with h | h | h | h | h | h <;> subst h <;> decide

section Truncated
variable {readNumber : JsonNumber → JsonNumber} {turns : List ToolTurn} {turn : ToolTurn}
  {result : ToolExecutionResult}

/-- The envelope of a truncated result is found and read. -/
theorem FaithfulTexts.readRecovery (h : FaithfulTexts readNumber turns) (hturn : turn ∈ turns)
    (hresult : result ∈ turn.results) (htruncated : result.truncated = true) (call : ToolCall) :
    hasRecoveryEnvelope result.messageContent = true ∧
      readRecovery call result.messageContent = ToolExecutionResult.fromDict
        (.obj (recoveredMembers call result.content
          (Json.mapMembers readNumber result.recoveryMembers))) := by
  have hline : lastLine result.messageContent =
      some (result.content, canonicalText result.recoveryValue) := by
    rw [ToolExecutionResult.messageContent, if_pos htruncated]
    exact lastLine_append _ _ (h.oneLine turn hturn result hresult htruncated)
      (h.braced turn hturn result hresult htruncated) (by decide)
  have hparse := h.recovery turn hturn result hresult htruncated
  have hvalue : result.recoveryValue.mapNumbers readNumber =
      .obj [("vv_agent_recovery", .obj (Json.mapMembers readNumber result.recoveryMembers))] := by
    simp [ToolExecutionResult.recoveryValue, Json.mapNumbers, Json.mapMembers]
  rw [hvalue] at hparse
  have hknown : ((Json.mapMembers readNumber result.recoveryMembers).any fun member =>
      !recoveryFields.contains member.1) = false := by
    rw [List.any_eq_false]
    intro member hmember
    have hkey : member.1 ∈ result.recoveryMembers.map (·.1) := by
      rw [← keys_mapMembers readNumber]
      exact List.mem_map_of_mem hmember
    simp [mem_recoveryFields result member.1 hkey]
  constructor
  · simp [hasRecoveryEnvelope, hline, hparse, Json.get?]
  · simp only [VvAgent.readRecovery, hline, require_some, ok_bind, hparse, Json.asObject?,
      Option.all_some, List.length_singleton, bne_self_eq_false, refuse_false, Json.get?,
      List.lookup_cons_self, Option.bind_eq_bind, Option.bind_some, hknown]
    rfl

omit [Texts] in
/-- The recovery fields of a valid truncated result: an artifact or a cursor. -/
theorem ToolExecutionResult.truncated_eq_ok (hvalid : result.validate = .ok ())
    (htruncated : result.truncated = true) :
    ∃ original, result.originalBytes = some original ∧
      result.visibleBytes = some result.content.utf8ByteSize ∧
      result.content.utf8ByteSize ≤ original ∧
      ((∃ artifact, result.truncationReason = some .outputLimit ∧
          result.artifact = some artifact ∧ result.cursor = none ∧ artifact.validate = .ok ()) ∨
        ∃ cursor, result.truncationReason = some .readLimit ∧ result.artifact = none ∧
          result.cursor = some cursor ∧ cursor.validate = .ok ()) := by
  simp only [validate, htruncated, if_true, validateRecovery, bind_eq_ok, require_eq_ok,
    refuse_eq_ok, exists_const] at hvalid
  obtain ⟨_, _, _, reason, hreason, original, horiginal, visible, hvisible, hcounts, hpointer⟩ := hvalid
  simp only [Bool.or_eq_false_iff, bne_eq_false_iff_eq, decide_eq_false_iff_not, Nat.not_lt]
    at hcounts
  obtain ⟨rfl, hle⟩ := hcounts
  refine ⟨original, horiginal, hvisible, hle, ?_⟩
  cases reason with
  | outputLimit =>
      simp only [bind_eq_ok, require_eq_ok, refuse_eq_ok, exists_const] at hpointer
      obtain ⟨artifact, hartifact, hcursor, hpath⟩ := hpointer
      exact .inl ⟨artifact, hreason, hartifact, by simpa using hcursor, hpath⟩
  | readLimit =>
      simp only [bind_eq_ok, require_eq_ok, refuse_eq_ok, exists_const] at hpointer
      obtain ⟨cursor, hcursor, hartifact, hplace⟩ := hpointer
      exact .inr ⟨cursor, hreason, by simpa using hartifact, hcursor, hplace⟩

omit [Texts] in
theorem recoveredMembers_artifact {original : Nat} {artifact : ToolArtifactRef}
    (horiginal : result.originalBytes = some original)
    (hvisible : result.visibleBytes = some result.content.utf8ByteSize)
    (hreason : result.truncationReason = some .outputLimit)
    (hartifact : result.artifact = some artifact) (hcursor : result.cursor = none)
    (call : ToolCall) :
    recoveredMembers call result.content (Json.mapMembers readNumber result.recoveryMembers) =
      [("artifact", artifact.toValue.mapNumbers readNumber), ("content", .str result.content),
        ("directive", .str "continue"),
        ("original_bytes", .num (readNumber (.posInt original))),
        ("status_code", .str "SUCCESS"), ("tool_call_id", .str call.id),
        ("truncated", .bool true), ("truncation_reason", .str "output_limit"),
        ("visible_bytes", .num (readNumber (.posInt result.content.utf8ByteSize)))] := by
  simp [recoveredMembers, ToolExecutionResult.recoveryMembers, hartifact, hcursor, horiginal,
    hvisible, hreason, present, Json.mapMembers, Json.mapNumbers, insertMembers, insertMember,
    Json.nat, ToolTruncationReason.asStr, -String.lt_iff_ltb]

omit [Texts] in
theorem recoveredMembers_cursor {original : Nat} {cursor : ToolResultCursor}
    (horiginal : result.originalBytes = some original)
    (hvisible : result.visibleBytes = some result.content.utf8ByteSize)
    (hreason : result.truncationReason = some .readLimit)
    (hartifact : result.artifact = none) (hcursor : result.cursor = some cursor)
    (call : ToolCall) :
    recoveredMembers call result.content (Json.mapMembers readNumber result.recoveryMembers) =
      [("content", .str result.content), ("cursor", cursor.toValue.mapNumbers readNumber),
        ("directive", .str "continue"),
        ("original_bytes", .num (readNumber (.posInt original))),
        ("status_code", .str "SUCCESS"), ("tool_call_id", .str call.id),
        ("truncated", .bool true), ("truncation_reason", .str "read_limit"),
        ("visible_bytes", .num (readNumber (.posInt result.content.utf8ByteSize)))] := by
  simp [recoveredMembers, ToolExecutionResult.recoveryMembers, hartifact, hcursor, horiginal,
    hvisible, hreason, present, Json.mapMembers, Json.mapNumbers, insertMembers, insertMember,
    Json.nat, ToolTruncationReason.asStr, -String.lt_iff_ltb]

omit [Texts] in
/-- Some of what an accepted dictionary holds. -/
theorem ToolExecutionResult.fromDict_eq_ok {members : JsonObject} {copy : ToolExecutionResult}
    (h : fromDict (.obj members) = .ok copy) :
    strictOptionalU64 members "original_bytes" = .ok copy.originalBytes ∧
      strictOptionalObject ToolArtifactRef.fromValue members "artifact" = .ok copy.artifact ∧
      strictOptionalObject ToolResultCursor.fromValue members "cursor" = .ok copy.cursor ∧
      copy.validate = .ok () := by
  simp only [fromDict, Json.asObject?, require_some, ok_bind, bind_eq_ok, pure_ok,
    Except.ok.injEq] at h
  obtain ⟨_, _, _, _, _, _, _, _, _, _, _, _, _, _, _, _, _, _, _, _, _, _, original, horiginal,
    _, _, artifact, hartifact, cursor, hcursor, _, hvalid, rfl⟩ := h
  exact ⟨horiginal, hartifact, hcursor, hvalid⟩

/-- The envelope of a truncated result is accepted only if its byte count is safe and the size
of its artifact is read as an integer. -/
theorem FaithfulTexts.counts_of_recovered (h : FaithfulTexts readNumber turns)
    (hvalid : result.validate = .ok ()) (htruncated : result.truncated = true) {call : ToolCall}
    {copy : ToolExecutionResult}
    (hread : ToolExecutionResult.fromDict (.obj (recoveredMembers call result.content
        (Json.mapMembers readNumber result.recoveryMembers))) = .ok copy) :
    (∀ n ∈ result.originalBytes, n ≤ maxWireInteger) ∧
      ∀ artifact ∈ result.artifact, ∃ size,
        readNumber (.posInt artifact.sizeBytes) = .posInt size := by
  obtain ⟨original, horiginal, hvisible, _, hpointer⟩ :=
    ToolExecutionResult.truncated_eq_ok hvalid htruncated
  obtain ⟨hcount, hsize, _, _⟩ := ToolExecutionResult.fromDict_eq_ok hread
  have hsafe : ToolExecutionResult.strictOptionalU64
      [("original_bytes", .num (readNumber (.posInt original)))] "original_bytes" =
        .ok copy.originalBytes → original ≤ maxWireInteger := by
    intro hsafe
    by_contra hlarge
    simp only [ToolExecutionResult.strictOptionalU64, List.lookup_cons_self] at hsafe
    cases hnumber : readNumber (.posInt original) with
    | posInt m =>
        have hm := h.large original m (by omega) hnumber
        simp [hnumber, hm] at hsafe
    | negInt m => simp [hnumber] at hsafe
    | float m => simp [hnumber] at hsafe
  rcases hpointer with ⟨artifact, hreason, hartifact, hcursor, _⟩ |
    ⟨cursor, hreason, hartifact, hcursor, _⟩
  · rw [recoveredMembers_artifact horiginal hvisible hreason hartifact hcursor] at hcount hsize
    constructor
    · simpa [horiginal] using hsafe hcount
    · simp only [hartifact, Option.mem_some_iff, forall_eq']
      simp only [ToolExecutionResult.strictOptionalObject, List.lookup_cons_self] at hsize
      cases hnumber : readNumber (.posInt artifact.sizeBytes) with
      | posInt m => exact ⟨m, rfl⟩
      | negInt m =>
          simp [ToolArtifactRef.toValue, Json.mapNumbers, Json.mapMembers, Json.nat, hnumber,
            ToolArtifactRef.fromValue] at hsize
      | float m =>
          simp [ToolArtifactRef.toValue, Json.mapNumbers, Json.mapMembers, Json.nat, hnumber,
            ToolArtifactRef.fromValue] at hsize
  · rw [recoveredMembers_cursor horiginal hvisible hreason hartifact hcursor] at hcount
    constructor
    · simpa [horiginal] using hsafe hcount
    · simp [hartifact]

omit [Texts] in
/-- An envelope is read back as this result, if its numbers are. -/
theorem recovered_copy (copy : ToolExecutionResult) (hsafe : copy.WireSafe)
    {members : JsonObject} (hmembers : members = copy.fields) :
    ToolExecutionResult.fromDict (.obj members) = .ok copy := by
  rw [hmembers, ← ToolExecutionResult.toDict_eq]
  exact ToolExecutionResult.fromDict_toDict copy hsafe

omit [Texts] in
theorem ToolResultCursor.mapNumbers_toValue {cursor : ToolResultCursor}
    (hvalid : cursor.validate = .ok ())
    (hexact : ∀ n, n ≤ maxWireInteger → readNumber (.posInt n) = .posInt n) :
    cursor.toValue.mapNumbers readNumber = cursor.toValue := by
  simp only [validate, refuse_eq_ok, Bool.or_eq_false_iff, decide_eq_false_iff_not] at hvalid
  have hoffset : cursor.offsetChars ≤ maxWireInteger := by omega
  simp [toValue, Json.mapNumbers, Json.mapMembers, Json.nat, hexact _ hoffset]

/-- An envelope with safe counts is read back, with the same pointers. -/
theorem FaithfulTexts.recovered_of_counts (h : FaithfulTexts readNumber turns)
    (hturn : turn ∈ turns) (hresult : result ∈ turn.results)
    (hvalid : result.validate = .ok ()) (htruncated : result.truncated = true) {call : ToolCall}
    (hcall : call ∈ turn.message.toolCalls)
    (hsafe : ∀ n ∈ result.originalBytes, n ≤ maxWireInteger)
    (hsize : ∀ artifact ∈ result.artifact, ∃ size,
      readNumber (.posInt artifact.sizeBytes) = .posInt size) :
    ∃ copy, ToolExecutionResult.fromDict (.obj (recoveredMembers call result.content
        (Json.mapMembers readNumber result.recoveryMembers))) = .ok copy ∧
      ∀ kind, (copy.pointers call).texts kind = (result.pointers call).texts kind := by
  obtain ⟨original, horiginal, hvisible, hle, hpointer⟩ :=
    ToolExecutionResult.truncated_eq_ok hvalid htruncated
  have hcount : original ≤ maxWireInteger := hsafe original horiginal
  have hnumbers := h.exact original hcount
  have hnumbers' := h.exact result.content.utf8ByteSize (by omega)
  have hmetadata : ToolExecutionResult.validateMetadata [] = .ok () := rfl
  rcases hpointer with ⟨artifact, hreason, hartifact, hcursor, hpath⟩ |
    ⟨cursor, hreason, hartifact, hcursor, hplace⟩
  · obtain ⟨size, hread⟩ := hsize artifact hartifact
    let copy : ToolExecutionResult :=
      { toolCallId := call.id, content := result.content, status := .success, truncated := true
        truncationReason := some .outputLimit, originalBytes := some original
        visibleBytes := some result.content.utf8ByteSize
        artifact := some { artifact with sizeBytes := size } }
    have hpath' : ToolArtifactRef.validate { artifact with sizeBytes := size } = .ok () := hpath
    have hcopy : copy.WireSafe := by
      constructor
      · simp [copy, ToolExecutionResult.validate, hmetadata, ToolExecutionResult.validateRecovery,
          hpath', Nat.not_lt.mpr hle]
      · simpa [copy] using hcount
      · simp only [copy, Option.mem_some_iff, forall_eq']
        omega
    refine ⟨copy, recovered_copy copy hcopy ?_, ?_⟩
    · rw [recoveredMembers_artifact horiginal hvisible hreason hartifact hcursor, hnumbers,
        hnumbers']
      simp [copy, ToolExecutionResult.fields, ToolExecutionResult.toDict, Json.asObject?, present,
        metadataValue, ToolArtifactRef.toValue, Json.mapNumbers, Json.mapMembers, Json.nat, hread,
        ToolDirective.asStr, ToolResultStatus.asStr, ToolTruncationReason.asStr]
    · have htext := h.again turn hturn call hcall result hresult artifact hartifact
      have hrecord : (artifactRecord call artifact).mapNumbers readNumber =
          artifactRecord call { artifact with sizeBytes := size } := by
        simp [artifactRecord, pointerRecord, ToolArtifactRef.toValue, Json.mapNumbers,
          Json.mapMembers, Json.nat, hread]
      rw [hrecord] at htext
      intro kind
      cases kind with
      | artifact => simpa [copy, ToolExecutionResult.pointers, Evidence.texts, Evidence.records,
          recordTexts, hartifact] using htext
      | cursor => simp [copy, ToolExecutionResult.pointers, Evidence.texts, Evidence.records,
          recordTexts, hcursor]
  · have hvalue := ToolResultCursor.mapNumbers_toValue hplace h.exact
    let copy : ToolExecutionResult :=
      { toolCallId := call.id, content := result.content, status := .success, truncated := true
        truncationReason := some .readLimit, originalBytes := some original
        visibleBytes := some result.content.utf8ByteSize, cursor := some cursor }
    have hcopy : copy.WireSafe := by
      constructor
      · simp [copy, ToolExecutionResult.validate, hmetadata, ToolExecutionResult.validateRecovery,
          hplace, Nat.not_lt.mpr hle]
      · simpa [copy] using hcount
      · simp only [copy, Option.mem_some_iff, forall_eq']
        omega
    refine ⟨copy, recovered_copy copy hcopy ?_, ?_⟩
    · rw [recoveredMembers_cursor horiginal hvisible hreason hartifact hcursor, hnumbers,
        hnumbers', hvalue]
      simp [copy, ToolExecutionResult.fields, ToolExecutionResult.toDict, Json.asObject?, present,
        metadataValue, Json.nat, ToolDirective.asStr, ToolResultStatus.asStr,
        ToolTruncationReason.asStr]
    · intro kind
      cases kind with
      | artifact => simp [copy, ToolExecutionResult.pointers, Evidence.texts, Evidence.records,
          recordTexts, hartifact]
      | cursor => simp [copy, ToolExecutionResult.pointers, Evidence.texts, Evidence.records,
          recordTexts, hcursor]

end Truncated

/-! ### What the message of a result names -/

/-- The pointers of a message: its artifact, and what the envelope of its content names. -/
theorem messageReferences_eq_ok {calls : List ToolCall} {message : Message}
    {references : Evidence} :
    messageReferences calls message = .ok references ↔
      ∃ call, (calls.find? fun call => some call.id = message.toolCallId) = some call ∧
        ((hasRecoveryEnvelope message.content = false ∧
            references = { artifacts := message.artifactRef.toList.map (artifactRecord call) }) ∨
          (hasRecoveryEnvelope message.content = true ∧
            ∃ spelled, readRecovery call message.content = .ok spelled ∧
              references =
                { artifacts := message.artifactRef.toList.map (artifactRecord call) ++
                    (spelled.pointers call).artifacts
                  cursors := (spelled.pointers call).cursors })) := by
  simp only [messageReferences, bind_eq_ok, require_eq_ok]
  refine exists_congr fun call => and_congr_right fun _ => ?_
  cases hasRecoveryEnvelope message.content with
  | false => simp [eq_comm]
  | true =>
      simp only [if_true, bind_eq_ok, pure_ok, Except.ok.injEq, Bool.true_eq_false, false_and,
        false_or, true_and, ToolExecutionResult.pointers]
      exact exists_congr fun spelled => and_congr_right fun _ => eq_comm

omit [Texts] in
theorem ToolExecutionResult.validate_pointers {result : ToolExecutionResult}
    (h : result.validate = .ok ()) :
    (∀ artifact ∈ result.artifact, artifact.validate = .ok ()) ∧
      (∀ cursor ∈ result.cursor, cursor.validate = .ok ()) ∧
      (result.truncated = false → result.artifact = none ∧ result.cursor = none) := by
  cases htruncated : result.truncated with
  | true =>
      obtain ⟨_, _, _, _, ⟨artifact, _, hartifact, hcursor, hvalid⟩ |
        ⟨cursor, _, hartifact, hcursor, hvalid⟩⟩ := truncated_eq_ok h htruncated
      · simpa [hartifact, hcursor] using hvalid
      · simpa [hartifact, hcursor] using hvalid
  | false =>
      simp only [validate, htruncated, bind_eq_ok, refuse_eq_ok, exists_const] at h
      obtain ⟨_, _, _, h⟩ := h
      simp only [Bool.false_eq_true, if_false, refuse_eq_ok, Bool.or_eq_false_iff,
        Option.isSome_eq_false_iff, Option.isNone_iff_eq_none] at h
      simp [h.1.2, h.2]

theorem readRecovery_valid {call : ToolCall} {content : String} {spelled : ToolExecutionResult}
    (h : readRecovery call content = .ok spelled) : spelled.validate = .ok () := by
  simp only [readRecovery, bind_eq_ok] at h
  obtain ⟨_, _, _, _, _, _, _, _, _, _, h⟩ := h
  exact (ToolExecutionResult.fromDict_eq_ok h).2.2.2

/-- A record of a valid pointer passes its check, for a call with an id and a name. -/
theorem validateCompactionRecord_pointerRecord {pointer : String} {call : ToolCall} {value : Json}
    {check : Json → Except String Unit} (hid : call.id ≠ "") (hname : call.name ≠ "")
    (harguments : Platform.isCanonicalObjectText (canonicalText (.obj call.arguments)) = true)
    (hpointer : pointer = "artifact_ref" ∨ pointer = "cursor") (hcheck : check value = .ok ()) :
    validateCompactionRecord pointer check (pointerRecord pointer call value) = .ok () := by
  have hid' : (call.id == "") = false := by simpa using hid
  have hname' : (call.name == "") = false := by simpa using hname
  rcases hpointer with rfl | rfl <;>
    simp [validateCompactionRecord, pointerRecord, Json.asObject?, checkAll, List.lookup_cons,
      Json.asStr?, hid', hname', harguments, hcheck]

/-- The pointers of a valid result give records that pass their check. -/
theorem ToolExecutionResult.pointers_valid {result : ToolExecutionResult} {call : ToolCall}
    (hvalid : result.validate = .ok ()) (hid : call.id ≠ "") (hname : call.name ≠ "")
    (harguments : Platform.isCanonicalObjectText (canonicalText (.obj call.arguments)) = true) :
    (result.pointers call).Valid := by
  obtain ⟨hartifact, hcursor, _⟩ := validate_pointers hvalid
  constructor
  · intro record hrecord
    simp only [pointers, List.mem_map, Option.mem_toList] at hrecord
    obtain ⟨artifact, hmem, rfl⟩ := hrecord
    apply validateCompactionRecord_pointerRecord hid hname harguments (.inl rfl)
    simp [ToolArtifactRef.fromValue_toValue, hartifact artifact hmem]
  · intro record hrecord
    simp only [pointers, List.mem_map, Option.mem_toList] at hrecord
    obtain ⟨cursor, hmem, rfl⟩ := hrecord
    apply validateCompactionRecord_pointerRecord hid hname harguments (.inr rfl)
    simp [ToolResultCursor.fromValue_toValue, hcursor cursor hmem]

section Answer
variable {readNumber : JsonNumber → JsonNumber} {turns : List ToolTurn} {turn : ToolTurn}
  {result : ToolExecutionResult} {call : ToolCall}

/-- The message of a result is read exactly if what its content may spell as an envelope is. -/
theorem readable_iff (h : FaithfulTexts readNumber turns) (hturn : turn ∈ turns)
    (hanswered : turn.Answered) (hresult : result ∈ turn.results)
    (hcall : turn.callOf result = some call) :
    Readable (turn.message.toolCalls, result.toMessage) ↔
      (hasRecoveryEnvelope result.messageContent = true →
        ∃ spelled, readRecovery call result.messageContent = .ok spelled) := by
  have hmem := List.mem_of_find?_eq_some hcall
  obtain ⟨hid, hname⟩ := hanswered.identified call hmem
  have harguments := h.arguments turn hturn call hmem
  have hown := result.pointers_valid (hanswered.valid result hresult) hid hname harguments
  constructor
  · rintro ⟨references, hreferences, _⟩ henvelope
    obtain ⟨other, hother, hkind⟩ := messageReferences_eq_ok.mp hreferences
    obtain rfl : other = call := Option.some.inj (hother.symm.trans hcall)
    rcases hkind with ⟨hnone, _⟩ | ⟨_, spelled, hspelled, _⟩
    · exact absurd henvelope (Bool.eq_false_iff.mp hnone)
    · exact ⟨spelled, hspelled⟩
  · intro hspelled
    cases henvelope : hasRecoveryEnvelope result.messageContent with
    | false =>
        refine ⟨_, messageReferences_eq_ok.mpr ⟨call, hcall, .inl ⟨henvelope, rfl⟩⟩, ?_⟩
        exact ⟨hown.artifacts, by simp⟩
    | true =>
        obtain ⟨spelled, hspelled⟩ := hspelled henvelope
        refine ⟨_, messageReferences_eq_ok.mpr
          ⟨call, hcall, .inr ⟨henvelope, spelled, hspelled, rfl⟩⟩, ?_⟩
        have hother := spelled.pointers_valid (readRecovery_valid hspelled) hid hname harguments
        refine ⟨fun record hrecord => ?_, hother.cursors⟩
        rcases List.mem_append.mp hrecord with hrecord | hrecord
        · exact hown.artifacts record hrecord
        · exact hother.artifacts record hrecord

/-- The message of a result names the artifact of the result and what its content spells. -/
theorem names_iff (hcall : turn.callOf result = some call) (kind : PointerKind) (text : String)
    (hspelled : hasRecoveryEnvelope result.messageContent = true →
        ∃ spelled, readRecovery call result.messageContent = .ok spelled) :
    Names (turn.message.toolCalls, result.toMessage) kind text ↔
      (kind = .artifact ∧ text ∈ (result.pointers call).texts .artifact) ∨
        (hasRecoveryEnvelope result.messageContent = true ∧
          ∃ spelled, readRecovery call result.messageContent = .ok spelled ∧
            text ∈ (spelled.pointers call).texts kind) := by
  have hboth : ∀ spelled : ToolExecutionResult,
      text ∈ Evidence.texts
        { artifacts := result.artifact.toList.map (artifactRecord call) ++
            (spelled.pointers call).artifacts
          cursors := (spelled.pointers call).cursors } kind ↔
        (kind = .artifact ∧ text ∈ (result.pointers call).texts .artifact) ∨
          text ∈ (spelled.pointers call).texts kind := by
    intro spelled
    cases kind <;> simp [Evidence.texts, Evidence.records, recordTexts,
      ToolExecutionResult.pointers]
  have hown : text ∈ Evidence.texts
      { artifacts := result.artifact.toList.map (artifactRecord call) } kind ↔
        (kind = .artifact ∧ text ∈ (result.pointers call).texts .artifact) := by
    cases kind <;> simp [Evidence.texts, Evidence.records, recordTexts,
      ToolExecutionResult.pointers]
  constructor
  · rintro ⟨references, hreferences, hnamed⟩
    obtain ⟨other, hother, hkind⟩ := messageReferences_eq_ok.mp hreferences
    obtain rfl : other = call := Option.some.inj (hother.symm.trans hcall)
    rcases hkind with ⟨_, rfl⟩ | ⟨henvelope, spelled, hread, rfl⟩
    · exact .inl (hown.mp hnamed)
    · rcases (hboth spelled).mp hnamed with hnamed | hnamed
      · exact .inl hnamed
      · exact .inr ⟨henvelope, spelled, hread, hnamed⟩
  · intro hnamed
    cases henvelope : hasRecoveryEnvelope result.messageContent with
    | false =>
        refine ⟨_, messageReferences_eq_ok.mpr ⟨call, hcall, .inl ⟨henvelope, rfl⟩⟩, ?_⟩
        rcases hnamed with hnamed | ⟨hspells, _⟩
        · exact hown.mpr hnamed
        · exact absurd hspells (Bool.eq_false_iff.mp henvelope)
    | true =>
        obtain ⟨spelled, hread⟩ := hspelled henvelope
        refine ⟨_, messageReferences_eq_ok.mpr
          ⟨call, hcall, .inr ⟨henvelope, spelled, hread, rfl⟩⟩, (hboth spelled).mpr ?_⟩
        rcases hnamed with hnamed | ⟨_, other, hother, hnamed⟩
        · exact .inl hnamed
        · rw [show other = spelled from Except.ok.inj (hother.symm.trans hread)] at hnamed
          exact .inr hnamed

end Answer

/-! ### Collecting the pointers of a conversation -/

/-- The pointers of the results, each of them once, and no others, are collected from the
messages of the results. -/
def CollectsPointers (turns : List ToolTurn) : Prop :=
  ∃ evidence, collect [] (conversation turns) = .ok evidence ∧
    ∀ kind, (evidence.texts kind).Nodup ∧
      ∀ text, text ∈ evidence.texts kind ↔ IsPointer turns kind text

/-- The byte count of a truncated result is at most 2^53 - 1 and the size of its artifact is
read back from its canonical text as an integer. The text of an ordinary result does not end
in a line that is an envelope, or the envelope can be read and names no pointers but those of
the results. -/
structure Recoverable (readNumber : JsonNumber → JsonNumber) (turns : List ToolTurn) : Prop where
  counts : ∀ turn ∈ turns, ∀ result ∈ turn.results, result.truncated = true →
    (∀ n ∈ result.originalBytes, n ≤ maxWireInteger) ∧
      ∀ artifact ∈ result.artifact, ∃ size,
        readNumber (.posInt artifact.sizeBytes) = .posInt size
  ordinary : ∀ turn ∈ turns, ∀ result ∈ turn.results, result.truncated = false →
    ∀ call ∈ turn.callOf result, hasRecoveryEnvelope result.content = true →
      ∃ spelled, readRecovery call result.content = .ok spelled ∧
        ∀ kind, ∀ text ∈ (spelled.pointers call).texts kind, IsPointer turns kind text

section Collects
variable {readNumber : JsonNumber → JsonNumber} {turns : List ToolTurn}

/-- The pointers that a truncated result's envelope spells are its own. -/
theorem spelled_iff (h : FaithfulTexts readNumber turns) {turn : ToolTurn} (hturn : turn ∈ turns)
    (hanswered : turn.Answered) {result : ToolExecutionResult} (hresult : result ∈ turn.results)
    (htruncated : result.truncated = true) {call : ToolCall} (hcall : turn.callOf result = some call)
    {spelled : ToolExecutionResult}
    (hspelled : readRecovery call result.messageContent = .ok spelled) (kind : PointerKind) :
    (spelled.pointers call).texts kind = (result.pointers call).texts kind := by
  obtain ⟨_, hread⟩ := h.readRecovery hturn hresult htruncated call
  rw [hread] at hspelled
  have hvalid := hanswered.valid result hresult
  obtain ⟨hcount, hsize⟩ := h.counts_of_recovered hvalid htruncated hspelled
  obtain ⟨copy, hcopy, htexts⟩ := h.recovered_of_counts hturn hresult hvalid htruncated
    (List.mem_of_find?_eq_some hcall) hcount hsize
  rw [show spelled = copy from Except.ok.inj (hspelled.symm.trans hcopy)]
  exact htexts kind

/-- The pointers of a conversation are collected exactly if they are recoverable. -/
theorem collectsPointers_iff (hanswered : ∀ turn ∈ turns, turn.Answered)
    (h : FaithfulTexts readNumber turns) :
    CollectsPointers turns ↔ Recoverable readNumber turns := by
  have hplain : ∀ result : ToolExecutionResult, result.truncated = false →
      result.messageContent = result.content := by
    intro result hordinary
    simp [ToolExecutionResult.messageContent, hordinary]
  have hanswer : ∀ turn ∈ turns, ∀ result ∈ turn.results,
      (turn.message.toolCalls, result.toMessage) ∈ answersIn [] (conversation turns) :=
    fun turn hturn result hresult => (mem_answersIn_conversation turns hanswered [] _).mpr
      ⟨turn, hturn, result, hresult, rfl⟩
  constructor
  · rintro ⟨evidence, hcollect, htexts⟩
    have hreadable := (collect_nil_iff _).mp ⟨evidence, hcollect⟩
    have hreads : ∀ turn ∈ turns, ∀ result ∈ turn.results, ∀ call, turn.callOf result = some call →
        hasRecoveryEnvelope result.messageContent = true →
          ∃ spelled, readRecovery call result.messageContent = .ok spelled :=
      fun turn hturn result hresult call hcall =>
        (readable_iff h hturn (hanswered turn hturn) hresult hcall).mp
          (hreadable _ (hanswer turn hturn result hresult))
    constructor
    · intro turn hturn result hresult htruncated
      obtain ⟨call, hcall, _, _⟩ := (hanswered turn hturn).callOf hresult
      obtain ⟨henvelope, hread⟩ := h.readRecovery hturn hresult htruncated call
      obtain ⟨spelled, hspelled⟩ := hreads turn hturn result hresult call hcall henvelope
      rw [hread] at hspelled
      exact h.counts_of_recovered ((hanswered turn hturn).valid result hresult) htruncated hspelled
    · intro turn hturn result hresult hordinary call hcall henvelope
      have hread := hreads turn hturn result hresult call hcall
      rw [← hplain result hordinary] at henvelope ⊢
      obtain ⟨spelled, hspelled⟩ := hread henvelope
      refine ⟨spelled, hspelled, fun kind text htext => ?_⟩
      rw [← (htexts kind).2, (collect_nil_eq_ok hcollect kind).2]
      exact ⟨_, hanswer turn hturn result hresult, (names_iff hcall kind text hread).mpr
        (.inr ⟨henvelope, spelled, hspelled, htext⟩)⟩
  · intro hrecoverable
    have hreads : ∀ turn ∈ turns, ∀ result ∈ turn.results, ∀ call, turn.callOf result = some call →
        hasRecoveryEnvelope result.messageContent = true →
          ∃ spelled, readRecovery call result.messageContent = .ok spelled := by
      intro turn hturn result hresult call hcall henvelope
      cases htruncated : result.truncated with
      | true =>
          obtain ⟨hcount, hsize⟩ := hrecoverable.counts turn hturn result hresult htruncated
          obtain ⟨copy, hcopy, _⟩ := h.recovered_of_counts hturn hresult
            ((hanswered turn hturn).valid result hresult) htruncated
            (List.mem_of_find?_eq_some hcall) hcount hsize
          exact ⟨copy, by rw [(h.readRecovery hturn hresult htruncated call).2, hcopy]⟩
      | false =>
          rw [hplain result htruncated] at henvelope ⊢
          obtain ⟨spelled, hspelled, _⟩ :=
            hrecoverable.ordinary turn hturn result hresult htruncated call hcall henvelope
          exact ⟨spelled, hspelled⟩
    obtain ⟨evidence, hcollect⟩ := (collect_nil_iff (conversation turns)).mpr (by
      intro answer hmem
      obtain ⟨turn, hturn, result, hresult, rfl⟩ :=
        (mem_answersIn_conversation turns hanswered [] answer).mp hmem
      obtain ⟨call, hcall, _, _⟩ := (hanswered turn hturn).callOf hresult
      exact (readable_iff h hturn (hanswered turn hturn) hresult hcall).mpr
        (hreads turn hturn result hresult call hcall))
    refine ⟨evidence, hcollect, fun kind => ?_⟩
    obtain ⟨hnodup, htexts⟩ := collect_nil_eq_ok hcollect kind
    refine ⟨hnodup, fun text => ?_⟩
    rw [htexts]
    constructor
    · rintro ⟨answer, hmem, hnamed⟩
      obtain ⟨turn, hturn, result, hresult, rfl⟩ :=
        (mem_answersIn_conversation turns hanswered [] answer).mp hmem
      obtain ⟨call, hcall, _, _⟩ := (hanswered turn hturn).callOf hresult
      rcases (names_iff hcall kind text (hreads turn hturn result hresult call hcall)).mp hnamed with
        ⟨rfl, hown⟩ | ⟨henvelope, spelled, hspelled, hspells⟩
      · exact ⟨turn, hturn, result, hresult, call, hcall, hown⟩
      · cases htruncated : result.truncated with
        | true =>
            rw [spelled_iff h hturn (hanswered turn hturn) hresult htruncated hcall hspelled]
              at hspells
            exact ⟨turn, hturn, result, hresult, call, hcall, hspells⟩
        | false =>
            rw [hplain result htruncated] at henvelope hspelled
            obtain ⟨other, hother, hpointers⟩ :=
              hrecoverable.ordinary turn hturn result hresult htruncated call hcall henvelope
            rw [show spelled = other from Except.ok.inj (hspelled.symm.trans hother)] at hspells
            exact hpointers kind text hspells
    · rintro ⟨turn, hturn, result, hresult, call, hcall, hown⟩
      refine ⟨_, hanswer turn hturn result hresult,
        (names_iff hcall kind text (hreads turn hturn result hresult call hcall)).mpr ?_⟩
      cases kind with
      | artifact => exact .inl ⟨rfl, hown⟩
      | cursor =>
          cases htruncated : result.truncated with
          | false =>
              have hnone := ((ToolExecutionResult.validate_pointers
                ((hanswered turn hturn).valid result hresult)).2.2 htruncated).2
              simp [ToolExecutionResult.pointers, Evidence.texts, Evidence.records, recordTexts,
                hnone] at hown
          | true =>
              have henvelope := (h.readRecovery hturn hresult htruncated call).1
              obtain ⟨spelled, hspelled⟩ := hreads turn hturn result hresult call hcall henvelope
              refine .inr ⟨henvelope, spelled, hspelled, ?_⟩
              rw [spelled_iff h hturn (hanswered turn hturn) hresult htruncated hcall hspelled]
              exact hown

end Collects

end

end VvAgent
