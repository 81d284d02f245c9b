import VvAgent.Lib.Turns
import VvAgent.Memory.Shape

/-!
The sanitizer that a conversation goes through before it is taken up again. Empty assistant
messages go first; then results that answer no call of the turn they stand in; then calls
without a result. A turn keeps its calls and results as long as they come in the same order
under ids that agree, up to surrounding whitespace, and occur only once. The cut of a summary
compares the ids as they are.
-/

namespace VvAgent
open Lib Lib.Outcome

/-- An id without surrounding whitespace. -/
def trimmedId (id : String) : String := .ofList (trimWhitespace id.toList)

def ToolCall.key (call : ToolCall) : String := trimmedId call.id

def Message.resultKey (message : Message) : String := trimmedId (message.toolCallId.getD "")

def Message.isResult (message : Message) : Bool := message.role == .tool

/-- The calls of a turn with their results: `ordered_calls` and `ordered_results`, up to the
first pair that does not agree or is not unique. -/
def pairTurn (calls : List ToolCall) (results : List Message) : List (ToolCall × Message) :=
  matchUp "" ToolCall.key Message.resultKey calls results

/-- `filter_tool_turns`; the results of a turn that has been treated are skipped. -/
def filterToolTurns (dropOrphanResults dropUnresolvedCalls : Bool) (skip : Nat) :
    List Message → List Message
  | [] => []
  | message :: rest =>
      match skip with
      | left + 1 => filterToolTurns dropOrphanResults dropUnresolvedCalls left rest
      | 0 =>
          if message.isResult then
            (if dropOrphanResults then [] else [message]) ++
              filterToolTurns dropOrphanResults dropUnresolvedCalls 0 rest
          else if message.role ≠ .assistant ∨ message.toolCalls = [] then
            message :: filterToolTurns dropOrphanResults dropUnresolvedCalls 0 rest
          else
            let toolResults := rest.takeWhile Message.isResult
            let paired := pairTurn message.toolCalls toolResults
            let visibleCalls :=
              if dropUnresolvedCalls then paired.map (·.1) else message.toolCalls
            (if visibleCalls = [] then [] else [{ message with toolCalls := visibleCalls }]) ++
              (if dropOrphanResults then paired.map (·.2) else toolResults) ++
                filterToolTurns dropOrphanResults dropUnresolvedCalls toolResults.length rest

def filterOrphanToolResults (messages : List Message) : List Message :=
  filterToolTurns true false 0 messages

def filterUnresolvedToolUses (messages : List Message) : List Message :=
  filterToolTurns false true 0 messages

def sanitizeForResume (messages : List Message) : List Message :=
  filterUnresolvedToolUses (filterOrphanToolResults (filterEmptyAssistantMessages messages))

/-- Only assistant messages carry tool calls. -/
def OnlyAssistantsCall (messages : List Message) : Prop :=
  ∀ message ∈ messages, message.toolCalls ≠ [] → message.role = .assistant

/-! ### The passes, turn by turn -/

/-- Whether a head opens a turn with calls. -/
def Message.calls (message : Message) : Bool :=
  message.role == .assistant && !message.toolCalls.isEmpty

/-- What one pass makes of a head and the results behind it. -/
def turnOutput (dropOrphanResults dropUnresolvedCalls : Bool) (turn : Message × List Message) :
    List Message :=
  if turn.1.calls then
    let paired := pairTurn turn.1.toolCalls turn.2
    let visibleCalls := if dropUnresolvedCalls then paired.map (·.1) else turn.1.toolCalls
    (if visibleCalls = [] then [] else [{ turn.1 with toolCalls := visibleCalls }]) ++
      (if dropOrphanResults then paired.map (·.2) else turn.2)
  else turn.1 :: (if dropOrphanResults then [] else turn.2)

theorem calls_eq_false_iff (message : Message) :
    message.calls = false ↔ message.role ≠ .assistant ∨ message.toolCalls = [] := by
  by_cases hrole : message.role = .assistant <;> simp [Message.calls, hrole]

/-- A pass treats the turns one by one. -/
theorem filterToolTurns_eq (dropOrphan dropUnresolved : Bool) (messages : List Message)
    (skip : Nat) (hskip : skip ≤ (headed Message.isResult messages).1.length) :
    filterToolTurns dropOrphan dropUnresolved skip messages =
      (if dropOrphan then [] else (headed Message.isResult messages).1.drop skip) ++
        (headed Message.isResult messages).2.flatMap (turnOutput dropOrphan dropUnresolved) := by
  induction messages generalizing skip with
  | nil =>
      have hzero : skip = 0 := Nat.le_zero.mp hskip
      subst hzero
      cases dropOrphan <;> rfl
  | cons message rest ih =>
      cases hresult : message.isResult with
      | true =>
          rw [headed_cons_pos hresult] at hskip ⊢
          cases skip with
          | succ left =>
              rw [filterToolTurns, ih left (Nat.le_of_succ_le_succ hskip), List.drop_succ_cons]
          | zero =>
              rw [filterToolTurns, if_pos hresult, ih 0 (Nat.zero_le _)]
              cases dropOrphan <;> rfl
      | false =>
          rw [headed_cons_neg hresult] at hskip ⊢
          have hzero : skip = 0 := Nat.le_zero.mp hskip
          subst hzero
          have hresults : (headed Message.isResult rest).1 = rest.takeWhile Message.isResult :=
            headed_fst _ _
          rw [filterToolTurns, if_neg (by simp [hresult]), List.flatMap_cons, turnOutput]
          cases hcalls : message.calls with
          | false =>
              rw [if_pos ((calls_eq_false_iff message).mp hcalls), ih 0 (Nat.zero_le _)]
              cases dropOrphan <;> simp
          | true =>
              have hturn : ¬(message.role ≠ .assistant ∨ message.toolCalls = []) := by
                rw [← calls_eq_false_iff, hcalls]
                exact Bool.noConfusion
              have hrest := ih (rest.takeWhile Message.isResult).length (by rw [hresults])
              rw [hresults, List.drop_length] at hrest
              simp only [if_neg hturn, hrest, hresults]
              cases dropOrphan <;> simp

/-- What is left of a turn: nothing, if its calls have no results. -/
def resolvedTurn (turn : Message × List Message) : Option (Message × List Message) :=
  if turn.1.calls then
    let paired := pairTurn turn.1.toolCalls turn.2
    if paired.isEmpty then none
    else some ({ turn.1 with toolCalls := paired.map (·.1) }, paired.map (·.2))
  else some (turn.1, [])

/-- A turn without the results that answer no call. -/
def orphanFree (turn : Message × List Message) : Message × List Message :=
  (turn.1, if turn.1.calls then (pairTurn turn.1.toolCalls turn.2).map (·.2) else [])

theorem mem_pairTurn_results {turn : Message × List Message} (h : IsTurn Message.isResult turn)
    {result : Message} (hresult : result ∈ (pairTurn turn.1.toolCalls turn.2).map (·.2)) :
    result.isResult = true :=
  h.2 result ((matchUp_snd_sublist turn.1.toolCalls turn.2).subset hresult)

theorem orphanFree_isTurn {turn : Message × List Message} (h : IsTurn Message.isResult turn) :
    IsTurn Message.isResult (orphanFree turn) := by
  refine ⟨h.1, fun result hresult => ?_⟩
  cases hcalls : turn.1.calls with
  | false => simp [orphanFree, hcalls] at hresult
  | true =>
      rw [orphanFree, if_pos hcalls] at hresult
      exact mem_pairTurn_results h hresult

theorem filterOrphanToolResults_eq (messages : List Message) :
    filterOrphanToolResults messages =
      joinTurns ((headed Message.isResult messages).2.map orphanFree) := by
  have hturn : turnOutput true false = fun turn => (orphanFree turn).1 :: (orphanFree turn).2 := by
    funext turn
    cases hcalls : turn.1.calls with
    | false => simp [turnOutput, orphanFree, hcalls]
    | true =>
        have hsome : turn.1.toolCalls ≠ [] := by
          intro hnone
          simp [Message.calls, hnone] at hcalls
        simp [turnOutput, orphanFree, hcalls, hsome]
  rw [filterOrphanToolResults, filterToolTurns_eq _ _ _ _ (Nat.zero_le _), joinTurns,
    List.flatMap_map, hturn]
  rfl

theorem turnOutput_orphanFree (turn : Message × List Message) :
    turnOutput false true (orphanFree turn) = joinTurns (resolvedTurn turn).toList := by
  cases hcalls : turn.1.calls with
  | false => simp [turnOutput, orphanFree, resolvedTurn, hcalls]
  | true =>
      have hagain : pairTurn turn.1.toolCalls ((pairTurn turn.1.toolCalls turn.2).map (·.2)) =
          pairTurn turn.1.toolCalls turn.2 := matchUp_again _ _
      cases hpaired : pairTurn turn.1.toolCalls turn.2 with
      | nil =>
          rw [hpaired, List.map_nil] at hagain
          simp [turnOutput, orphanFree, resolvedTurn, hcalls, hpaired, hagain]
      | cons pair pairs =>
          rw [hpaired, List.map_cons] at hagain
          simp [turnOutput, orphanFree, resolvedTurn, hcalls, hpaired, hagain]

/-- The three passes leave of each turn its calls with their results. -/
theorem sanitizeForResume_eq (messages : List Message) :
    sanitizeForResume messages =
      joinTurns ((headed Message.isResult (filterEmptyAssistantMessages messages)).2.filterMap
        resolvedTurn) := by
  have hturns : ∀ turn ∈ (headed Message.isResult (filterEmptyAssistantMessages messages)).2.map
      orphanFree, IsTurn Message.isResult turn := by
    intro turn hturn
    obtain ⟨given, hgiven, rfl⟩ := List.mem_map.mp hturn
    exact orphanFree_isTurn ((headed_isTurn _ _).2 given hgiven)
  rw [sanitizeForResume, filterUnresolvedToolUses, filterToolTurns_eq _ _ _ _ (Nat.zero_le _),
    filterOrphanToolResults_eq, headed_joinTurns hturns]
  generalize (headed Message.isResult (filterEmptyAssistantMessages messages)).2 = turns
  induction turns with
  | nil => rfl
  | cons turn turns ih =>
      simp only [List.map_cons, List.flatMap_cons, turnOutput_orphanFree] at ih ⊢
      simp only [Bool.false_eq_true, if_false, List.drop_nil, List.nil_append] at ih ⊢
      rw [ih]
      cases hkept : resolvedTurn turn <;> simp [hkept]

/-! ### Trimmed turns -/

/-- A tool message that answers a call, up to whitespace around the id. -/
def IsTrimmedResultOf (call : ToolCall) (result : Message) : Prop :=
  result.role = .tool ∧ result.resultKey = call.key

/-- A message and the results that follow it, with ids up to surrounding whitespace. -/
structure OpensTrimmedTurn (message : Message) (results : List Message) : Prop where
  notResult : message.role ≠ .tool
  answered : message.role = .assistant → List.Forall₂ IsTrimmedResultOf message.toolCalls results
  ids : message.role = .assistant → (message.toolCalls.map ToolCall.key).Nodup ∧
    ∀ call ∈ message.toolCalls, call.key ≠ ""
  alone : message.role ≠ .assistant → results = []

/-- Each assistant message with calls is followed by one result per call, in order, under ids
that differ and are not blank, and there are no other results. -/
def TrimmedShaped (messages : List Message) : Prop := Segmented OpensTrimmedTurn messages

theorem isResult_iff (message : Message) : message.isResult = true ↔ message.role = .tool := by
  simp [Message.isResult]

/-- The calls and results of a trimmed turn match. -/
theorem matched_zip {calls : List ToolCall} {results : List Message}
    (hanswered : List.Forall₂ IsTrimmedResultOf calls results)
    (hids : (calls.map ToolCall.key).Nodup) (hblank : ∀ call ∈ calls, call.key ≠ "") :
    Matched "" ToolCall.key Message.resultKey (calls.zip results) := by
  obtain ⟨hlength, hpairs⟩ := List.forall₂_iff_zip.mp hanswered
  have hsame : ∀ pair ∈ calls.zip results, pair.1.key = pair.2.resultKey :=
    fun pair hpair => (hpairs hpair).2.symm
  refine ⟨hsame, ?_, ?_⟩
  · intro pair hpair
    rw [← hsame pair hpair]
    exact hblank pair.1 (List.of_mem_zip hpair).1
  · rw [← List.map_congr_left hsame]
    have hcalls : (calls.zip results).map (·.1) = calls := List.map_fst_zip hlength.le
    rw [← hcalls, List.map_map] at hids
    exact hids

theorem OpensTrimmedTurn.isTurn {message : Message} {results : List Message}
    (h : OpensTrimmedTurn message results) : IsTurn Message.isResult (message, results) := by
  refine ⟨by simpa [Message.isResult] using h.notResult, fun result hresult => ?_⟩
  by_cases hrole : message.role = .assistant
  · obtain ⟨_, _, hanswers⟩ := forall₂_mem_right (h.answered hrole) hresult
    exact (isResult_iff result).mpr hanswers.1
  · rw [h.alone hrole] at hresult
    simp at hresult

/-- A trimmed turn is left as it is. -/
theorem OpensTrimmedTurn.resolved {message : Message} {results : List Message}
    (h : OpensTrimmedTurn message results) :
    resolvedTurn (message, results) = some (message, results) := by
  cases hcalls : message.calls with
  | false =>
      have hnone : results = [] := by
        rcases (calls_eq_false_iff message).mp hcalls with hrole | hempty
        · exact h.alone hrole
        · by_cases hrole : message.role = .assistant
          · have hanswered := h.answered hrole
            rw [hempty] at hanswered
            exact List.forall₂_nil_left_iff.mp hanswered
          · exact h.alone hrole
      simp [resolvedTurn, hcalls, hnone]
  | true =>
      have hrole : message.role = .assistant := by
        simp only [Message.calls, Bool.and_eq_true, beq_iff_eq] at hcalls
        exact hcalls.1
      have hlength := (h.answered hrole).length_eq
      have hfst : (message.toolCalls.zip results).map (·.1) = message.toolCalls :=
        List.map_fst_zip hlength.le
      have hsnd : (message.toolCalls.zip results).map (·.2) = results :=
        List.map_snd_zip hlength.ge
      have hself := (matched_zip (h.answered hrole) (h.ids hrole).1 (h.ids hrole).2).matchUp_self
      rw [hfst, hsnd] at hself
      have hsome : (message.toolCalls.zip results).isEmpty = false := by
        rw [List.isEmpty_eq_false_iff]
        intro hnone
        rw [hnone] at hfst
        simp [Message.calls, ← hfst] at hcalls
      simp only [resolvedTurn, hcalls, if_pos, pairTurn, hself, hsome, hfst, hsnd]
      rfl

/-- What is left of a turn is a trimmed turn. -/
theorem resolvedTurn_opens {turn kept : Message × List Message}
    (h : IsTurn Message.isResult turn) (hkept : resolvedTurn turn = some kept) :
    OpensTrimmedTurn kept.1 kept.2 := by
  have hnotResult : turn.1.role ≠ .tool := by
    have hhead := h.1
    simpa [Message.isResult] using hhead
  cases hcalls : turn.1.calls with
  | false =>
      simp only [resolvedTurn, hcalls, Bool.false_eq_true, if_false, Option.some.injEq] at hkept
      subst hkept
      have hnone : turn.1.role = .assistant → turn.1.toolCalls = [] := by
        intro hrole
        rcases (calls_eq_false_iff turn.1).mp hcalls with hother | hempty
        · exact absurd hrole hother
        · exact hempty
      refine ⟨hnotResult, fun hrole => ?_, fun hrole => ?_, fun _ => rfl⟩
      · simp only [hnone hrole]
        exact .nil
      · simp [hnone hrole]
  | true =>
      simp only [resolvedTurn, hcalls, if_pos] at hkept
      split_ifs at hkept
      simp only [Option.some.injEq] at hkept
      subst hkept
      have hmatched : Matched "" ToolCall.key Message.resultKey
          (pairTurn turn.1.toolCalls turn.2) := matchUp_matched _ _
      have hkeys : ((pairTurn turn.1.toolCalls turn.2).map (·.1)).map ToolCall.key =
          (pairTurn turn.1.toolCalls turn.2).map fun pair => pair.2.resultKey := by
        rw [List.map_map]
        apply List.map_congr_left
        exact hmatched.same
      refine ⟨hnotResult, fun _ => ?_, fun _ => ⟨?_, ?_⟩, fun hrole => ?_⟩
      · rw [List.forall₂_iff_zip]
        refine ⟨by simp, fun hpair => ?_⟩
        rw [zip_fst_snd] at hpair
        have hresult := mem_pairTurn_results h (List.mem_map_of_mem hpair)
        exact ⟨(isResult_iff _).mp hresult, (hmatched.same _ hpair).symm⟩
      · rw [hkeys]
        exact hmatched.distinct
      · intro call hcall
        obtain ⟨pair, hpair, rfl⟩ := List.mem_map.mp hcall
        rw [hmatched.same pair hpair]
        exact hmatched.present pair hpair
      · simp only [Message.calls, Bool.and_eq_true, beq_iff_eq] at hcalls
        exact absurd hcalls.1 hrole

/-! ### What the sanitizer leaves -/

def NoEmptyAssistant (messages : List Message) : Prop :=
  ∀ message ∈ messages, message.isEmptyAssistant = false

/-- The turns that the sanitizer leaves. -/
def keptTurns (messages : List Message) : List (Message × List Message) :=
  (headed Message.isResult (filterEmptyAssistantMessages messages)).2.filterMap resolvedTurn

theorem sanitizeForResume_eq_turns (messages : List Message) :
    sanitizeForResume messages = joinTurns (keptTurns messages) := sanitizeForResume_eq messages

theorem keptTurns_opens (messages : List Message) :
    ∀ turn ∈ keptTurns messages, OpensTrimmedTurn turn.1 turn.2 := by
  intro turn hturn
  obtain ⟨given, hgiven, hkept⟩ := List.mem_filterMap.mp hturn
  exact resolvedTurn_opens ((headed_isTurn _ _).2 given hgiven) hkept

/-- A kept head is one of the conversation, or it has calls. -/
theorem keptTurns_head {messages : List Message} {turn : Message × List Message}
    (hturn : turn ∈ keptTurns messages) :
    turn.1 ∈ filterEmptyAssistantMessages messages ∨
      (turn.1.role = .assistant ∧ turn.1.toolCalls ≠ []) := by
  obtain ⟨given, hgiven, hkept⟩ := List.mem_filterMap.mp hturn
  cases hcalls : given.1.calls with
  | false =>
      simp only [resolvedTurn, hcalls, Bool.false_eq_true, if_false, Option.some.injEq] at hkept
      subst hkept
      left
      rw [← headed_append Message.isResult (filterEmptyAssistantMessages messages)]
      apply List.mem_append_right
      exact List.mem_flatMap.mpr ⟨given, hgiven, List.mem_cons_self⟩
  | true =>
      right
      simp only [resolvedTurn, hcalls, if_pos] at hkept
      split_ifs at hkept with hempty
      simp only [Option.some.injEq] at hkept
      subst hkept
      simp only [Message.calls, Bool.and_eq_true, beq_iff_eq] at hcalls
      refine ⟨hcalls.1, ?_⟩
      intro hnone
      apply hempty
      rw [List.isEmpty_iff]
      exact List.map_eq_nil_iff.mp hnone

theorem sanitizeForResume_shaped (messages : List Message) :
    TrimmedShaped (sanitizeForResume messages) :=
  segmented_iff_turns.mpr
    ⟨keptTurns messages, (sanitizeForResume_eq_turns messages).symm, keptTurns_opens messages⟩

theorem sanitizeForResume_noEmptyAssistant (messages : List Message) :
    NoEmptyAssistant (sanitizeForResume messages) := by
  intro message hmessage
  rw [sanitizeForResume_eq_turns] at hmessage
  obtain ⟨turn, hturn, hmember⟩ := List.mem_flatMap.mp hmessage
  rcases List.mem_cons.mp hmember with rfl | hresult
  · rcases keptTurns_head hturn with hgiven | ⟨_, hcalls⟩
    · have hkept := (List.mem_filter.mp hgiven).2
      simpa using hkept
    · simp [Message.isEmptyAssistant, hcalls]
  · have hrole := (keptTurns_opens messages turn hturn).isTurn.2 message hresult
    rw [isResult_iff] at hrole
    exact Message.isEmptyAssistant_of_role (by simp [hrole])

theorem filterEmptyAssistantMessages_eq_self {messages : List Message}
    (h : NoEmptyAssistant messages) : filterEmptyAssistantMessages messages = messages := by
  apply List.filter_eq_self.mpr
  intro message hmessage
  simp [h message hmessage]

/-- The sanitizer leaves alone what it could have produced, and nothing else. -/
theorem sanitizeForResume_eq_self_iff (messages : List Message) :
    sanitizeForResume messages = messages ↔
      TrimmedShaped messages ∧ NoEmptyAssistant messages := by
  constructor
  · intro h
    rw [← h]
    exact ⟨sanitizeForResume_shaped messages, sanitizeForResume_noEmptyAssistant messages⟩
  · rintro ⟨hshaped, hempty⟩
    obtain ⟨turns, rfl, hopens⟩ := segmented_iff_turns.mp hshaped
    have hturns : ∀ turn ∈ turns, IsTurn Message.isResult turn :=
      fun turn hturn => (hopens turn hturn).isTurn
    rw [sanitizeForResume_eq, filterEmptyAssistantMessages_eq_self hempty,
      headed_joinTurns hturns]
    have hkept : turns.filterMap resolvedTurn = turns := by
      have hsome : ∀ turn ∈ turns, resolvedTurn turn = some turn :=
        fun turn hturn => (hopens turn hturn).resolved
      rw [List.filterMap_congr hsome, List.filterMap_some]
    rw [hkept]

/-! ### Unique answers -/

/-- A result, between the messages before and after it, is the only answer of a call of the
assistant message in front of the results it stands among. -/
def AnswersOnly (call : ToolCall) (before : List Message) (result : Message)
    (after : List Message) : Prop :=
  result.role = .tool ∧ result.resultKey ≠ "" ∧
    ∃ earlier assistant results, before = earlier ++ assistant :: results ∧
      (∀ other ∈ results, other.role = .tool) ∧ assistant.role = .assistant ∧
      assistant.toolCalls.filter (fun other => other.key = result.resultKey) = [call] ∧
      ∀ other ∈ results ++ after.takeWhile Message.isResult, other.resultKey ≠ result.resultKey

theorem resultKeys_eq {calls : List ToolCall} {results : List Message}
    (h : List.Forall₂ IsTrimmedResultOf calls results) :
    results.map Message.resultKey = calls.map ToolCall.key := by
  induction h with
  | nil => rfl
  | cons hfirst _ ih => rw [List.map_cons, List.map_cons, hfirst.2, ih]

/-- In a trimmed turn each result is the only answer of its call. -/
theorem OpensTrimmedTurn.answersOnly {head result : Message} {front back : List Message}
    (h : OpensTrimmedTurn head (front ++ result :: back)) {call : ToolCall}
    (hcall : call ∈ head.toolCalls) (hanswers : IsTrimmedResultOf call result)
    (earlier : List Message) {later : List (Message × List Message)}
    (hlater : ∀ turn ∈ later, IsTurn Message.isResult turn) :
    AnswersOnly call (earlier ++ head :: front) result (back ++ joinTurns later) := by
  have hrole : head.role = .assistant := by
    by_contra hother
    have hnone := h.alone hother
    simp at hnone
  have hresults := h.isTurn.2
  have hkeys := resultKeys_eq (h.answered hrole)
  have hdistinct := (h.ids hrole).1
  refine ⟨hanswers.1, ?_, earlier, head, front, rfl, ?_, hrole, ?_, ?_⟩
  · rw [hanswers.2]
    exact (h.ids hrole).2 call hcall
  · intro other hother
    exact (isResult_iff other).mp (hresults other (List.mem_append_left _ hother))
  · rw [hanswers.2]
    exact filter_key_of_nodup hdistinct hcall
  · have hback : ∀ other ∈ back, other.isResult = true := fun other hother =>
      hresults other (List.mem_append_right _ (List.mem_cons_of_mem _ hother))
    rw [takeWhile_body hlater hback]
    rw [← hkeys, List.map_append, List.map_cons, List.nodup_middle, List.nodup_cons,
      ← List.map_append] at hdistinct
    intro other hother hsame
    apply hdistinct.1
    rw [← hsame]
    exact List.mem_map_of_mem hother

theorem answered_in_turns {turns : List (Message × List Message)}
    (h : ∀ turn ∈ turns, OpensTrimmedTurn turn.1 turn.2) {before after : List Message}
    {result : Message} (hresult : result.role = .tool)
    (hsplit : joinTurns turns = before ++ result :: after) :
    ∃ call, AnswersOnly call before result after := by
  obtain ⟨earlier, head, front, back, later, rfl, rfl, rfl⟩ := of_joinTurns_eq
    (fun turn hturn => (h turn hturn).isTurn) ((isResult_iff result).mpr hresult) hsplit
  have hopens := h (head, front ++ result :: back) (by simp)
  have hrole : head.role = .assistant := by
    by_contra hother
    have hnone := hopens.alone hother
    simp at hnone
  obtain ⟨call, hcall, hanswers⟩ := forall₂_mem_right (hopens.answered hrole)
    (show result ∈ front ++ result :: back by simp)
  refine ⟨call, hopens.answersOnly hcall hanswers _ ?_⟩
  exact fun turn hturn => (h turn (by simp [hturn])).isTurn

/-! ### Where a summary may cut what is left -/

/-- The calls are answered, as the cut of a summary compares ids. -/
theorem callsAnswered_iff {calls : List ToolCall} {results : List Message}
    (hlength : calls.length = results.length) (rest : List Message) (ids : List String) :
    callsAnswered calls (results ++ rest) ids = true ↔
      List.Forall₂ IsResultOf calls results ∧ (calls.map (·.id)).Nodup ∧
        ∀ call ∈ calls, call.id ≠ "" ∧ call.id ∉ ids := by
  induction calls generalizing results ids with
  | nil =>
      obtain rfl := List.length_eq_zero_iff.mp hlength.symm
      simp [callsAnswered]
  | cons call calls ih =>
      cases results with
      | nil => simp at hlength
      | cons result results =>
          rw [List.cons_append, callsAnswered, List.forall_mem_cons]
          simp only [List.head?_cons, List.tail_cons, Bool.and_eq_true, answersCall,
            Option.all_some, beq_iff_eq, bne_iff_ne, Bool.not_eq_true', List.contains_eq_mem,
            decide_eq_false_iff_not, ih (Nat.succ.inj hlength), List.forall₂_cons, IsResultOf,
            List.map_cons, List.nodup_cons, List.mem_map]
          constructor
          · rintro ⟨⟨⟨hid, hnew⟩, hfirst⟩, hrest, hdistinct, hothers⟩
            refine ⟨⟨hfirst, hrest⟩, ⟨?_, hdistinct⟩, ⟨hid, hnew⟩, ?_⟩
            · rintro ⟨other, hother, hsame⟩
              apply (hothers other hother).2
              rw [hsame]
              exact List.mem_cons_self
            · intro other hother
              obtain ⟨hother, hunused⟩ := hothers other hother
              exact ⟨hother, fun hmember => hunused (List.mem_cons_of_mem _ hmember)⟩
          · rintro ⟨⟨hfirst, hrest⟩, ⟨hunique, hdistinct⟩, ⟨hid, hnew⟩, hothers⟩
            refine ⟨⟨⟨hid, hnew⟩, hfirst⟩, hrest, hdistinct, fun other hother => ?_⟩
            refine ⟨(hothers other hother).1, ?_⟩
            intro hmember
            rcases List.mem_cons.mp hmember with hsame | hused
            · exact hunique ⟨other, hother, hsame⟩
            · exact (hothers other hother).2 hused

theorem OpensTrimmedTurn.length_eq {message : Message} {results : List Message}
    (h : OpensTrimmedTurn message results)
    (hcalls : message.toolCalls ≠ [] → message.role = .assistant) :
    message.toolCalls.length = results.length := by
  by_cases hrole : message.role = .assistant
  · exact (h.answered hrole).length_eq
  · have hnone : message.toolCalls = [] := by
      by_contra hsome
      exact hrole (hcalls hsome)
    rw [hnone, h.alone hrole]
    rfl

/-- In a trimmed turn only the ids of the results are left to compare. -/
theorem OpensTrimmedTurn.callsAnswered_iff {message : Message} {results : List Message}
    (h : OpensTrimmedTurn message results)
    (hcalls : message.toolCalls ≠ [] → message.role = .assistant) (rest : List Message) :
    callsAnswered message.toolCalls (results ++ rest) [] = true ↔
      List.Forall₂ IsResultOf message.toolCalls results := by
  rw [VvAgent.callsAnswered_iff (h.length_eq hcalls)]
  constructor
  · exact And.left
  · intro hanswered
    refine ⟨hanswered, ?_, fun call hcall => ?_⟩
    · by_cases hnone : message.toolCalls = []
      · simp [hnone]
      · have hdistinct := (h.ids (hcalls hnone)).1
        have hkeys : message.toolCalls.map ToolCall.key =
            (message.toolCalls.map (·.id)).map trimmedId := by
          rw [List.map_map]
          rfl
        rw [hkeys] at hdistinct
        exact hdistinct.of_map _
    · refine ⟨?_, by simp⟩
      intro hid
      apply (h.ids (hcalls (List.ne_nil_of_mem hcall))).2 call hcall
      rw [ToolCall.key, hid]
      rfl

theorem summaryBlocks_isSome_iff {turns : List (Message × List Message)}
    (h : ∀ turn ∈ turns, OpensTrimmedTurn turn.1 turn.2)
    (hcalls : ∀ turn ∈ turns, turn.1.toolCalls ≠ [] → turn.1.role = .assistant) (index : Nat) :
    (summaryBlocks index 0 (joinTurns turns)).isSome = true ↔
      ∀ turn ∈ turns, List.Forall₂ IsResultOf turn.1.toolCalls turn.2 := by
  induction turns generalizing index with
  | nil => simp [summaryBlocks]
  | cons turn turns ih =>
      obtain ⟨message, results⟩ := turn
      rw [List.forall_mem_cons] at h hcalls ⊢
      rw [joinTurns_cons, summaryBlocks, ← h.1.callsAnswered_iff hcalls.1 (joinTurns turns)]
      simp only [h.1.length_eq hcalls.1, summaryBlocks_skip]
      cases hanswered : callsAnswered message.toolCalls (results ++ joinTurns turns) [] with
      | false => simp
      | true =>
          have hgood : ¬(message.role = .tool ∨
              (message.toolCalls ≠ [] ∧ message.role ≠ .assistant) ∨ true = false) := by
            rintro (htool | ⟨hsome, hother⟩ | hfalse)
            · exact h.1.notResult htool
            · exact hother (hcalls.1 hsome)
            · cases hfalse
          rw [if_neg hgood, Option.isSome_map, ih h.2 hcalls.2]
          simp

/-- Each result carries the id of its call as it is. -/
def IdsAsGiven (messages : List Message) : Prop :=
  ∀ before result after call, messages = before ++ result :: after →
    AnswersOnly call before result after → result.toolCallId = some call.id

theorem idsAsGiven_iff {turns : List (Message × List Message)}
    (h : ∀ turn ∈ turns, OpensTrimmedTurn turn.1 turn.2)
    (hcalls : ∀ turn ∈ turns, turn.1.toolCalls ≠ [] → turn.1.role = .assistant) :
    IdsAsGiven (joinTurns turns) ↔
      ∀ turn ∈ turns, List.Forall₂ IsResultOf turn.1.toolCalls turn.2 := by
  have hturns : ∀ turn ∈ turns, IsTurn Message.isResult turn :=
    fun turn hturn => (h turn hturn).isTurn
  constructor
  · intro hids turn hturn
    have hopens := h turn hturn
    rw [List.forall₂_iff_zip]
    refine ⟨hopens.length_eq (hcalls turn hturn), fun {call result} hpair => ?_⟩
    obtain ⟨hcall, hresult⟩ := List.of_mem_zip hpair
    have hrole := hcalls turn hturn (List.ne_nil_of_mem hcall)
    have hanswers := (List.forall₂_iff_zip.mp (hopens.answered hrole)).2 hpair
    refine ⟨hanswers.1, ?_⟩
    obtain ⟨front, back, hbody⟩ := List.append_of_mem hresult
    obtain ⟨earlier, later, rfl⟩ := List.append_of_mem hturn
    rw [hbody] at hopens
    have hlater : ∀ other ∈ later, IsTurn Message.isResult other :=
      fun other hother => hturns other (by simp [hother])
    apply hids (joinTurns earlier ++ turn.1 :: front) result (back ++ joinTurns later) call
    · rw [joinTurns_append, joinTurns_cons, hbody]
      simp
    · exact hopens.answersOnly hcall hanswers _ hlater
  · intro hanswered before result after call hsplit hanswers
    obtain ⟨hresult, _, earlier', assistant, results, hbefore, hresults, hrole, honly, _⟩ :=
      hanswers
    obtain ⟨earlier, head, front, back, later, rfl, rfl, rfl⟩ := of_joinTurns_eq hturns
      ((isResult_iff result).mpr hresult) hsplit
    have hturn := hturns (head, front ++ result :: back) (by simp)
    obtain ⟨rfl, rfl⟩ := eq_of_append_cons hbefore hturn.1 (by simp [Message.isResult, hrole])
      (fun other hother => hturn.2 other (List.mem_append_left _ hother))
      (fun other hother => (isResult_iff other).mpr (hresults other hother))
    obtain ⟨answered, hmember, hraw⟩ := forall₂_mem_right (hanswered _ (by simp :
      (head, front ++ result :: back) ∈ _)) (show result ∈ front ++ result :: back by simp)
    have hkey : answered.key = result.resultKey := by
      rw [Message.resultKey, hraw.2, ToolCall.key, Option.getD_some]
    have hfiltered : answered ∈ head.toolCalls.filter
        (fun other => other.key = result.resultKey) :=
      List.mem_filter.mpr ⟨hmember, decide_eq_true hkey⟩
    rw [honly, List.mem_singleton] at hfiltered
    rw [← hfiltered]
    exact hraw.2

theorem keptTurns_calls {messages : List Message} (h : OnlyAssistantsCall messages) :
    ∀ turn ∈ keptTurns messages, turn.1.toolCalls ≠ [] → turn.1.role = .assistant := by
  intro turn hturn hcalls
  rcases keptTurns_head hturn with hgiven | ⟨hrole, _⟩
  · exact h turn.1 (List.mem_of_mem_filter hgiven) hcalls
  · exact hrole

theorem summaryParts_isSome (messages : List Message) (keep : Nat) :
    (summaryParts messages keep).isSome = (summaryBlocks 0 0 messages).isSome := by
  cases hblocks : summaryBlocks 0 0 messages <;> simp [summaryParts, hblocks]

/-- A summary can be cut out of what is left exactly if the kept results carry the ids of their
calls as they are. -/
theorem summaryParts_sanitized_iff {messages : List Message} (h : OnlyAssistantsCall messages)
    (keep : Nat) : (summaryParts (sanitizeForResume messages) keep).isSome = true ↔
      IdsAsGiven (sanitizeForResume messages) := by
  have hopens := keptTurns_opens messages
  have hcalls := keptTurns_calls h
  rw [summaryParts_isSome, sanitizeForResume_eq_turns, summaryBlocks_isSome_iff hopens hcalls,
    idsAsGiven_iff hopens hcalls]

/-- Sanitizing is idempotent and leaves alone exactly the conversations that are trimmed turns
without empty assistant messages. Each result that it leaves is the only answer of a call, up to
whitespace around the ids; a summary can be cut out of what it leaves if the ids agree without
that. -/
theorem sanitizer_and_summary_agree (messages : List Message) (h : OnlyAssistantsCall messages) :
    sanitizeForResume (sanitizeForResume messages) = sanitizeForResume messages ∧
      (∀ keep, (summaryParts (sanitizeForResume messages) keep).isSome = true ↔
        IdsAsGiven (sanitizeForResume messages)) ∧
      (∀ before result after, sanitizeForResume messages = before ++ result :: after →
        result.role = .tool → ∃ call, AnswersOnly call before result after) ∧
      (sanitizeForResume messages = messages ↔
        TrimmedShaped messages ∧ NoEmptyAssistant messages) := by
  refine ⟨?_, summaryParts_sanitized_iff h, ?_, sanitizeForResume_eq_self_iff messages⟩
  · rw [sanitizeForResume_eq_self_iff]
    exact ⟨sanitizeForResume_shaped messages, sanitizeForResume_noEmptyAssistant messages⟩
  · intro before result after hsplit hresult
    rw [sanitizeForResume_eq_turns] at hsplit
    exact answered_in_turns (keptTurns_opens messages) hresult hsplit

/-- A call whose id has blanks around it, with its result. -/
def paddedCall : List Message :=
  [{ role := .assistant, content := "Working"
     toolCalls := [{ id := " call-1 ", name := "read_file",
                     arguments := [("path", .str "README.md")], extraContent := none }] },
   { role := .tool, content := "README", toolCallId := some "call-1" }]

theorem paddedCall_onlyAssistants : OnlyAssistantsCall paddedCall := by
  intro message hmessage hcalls
  simp only [paddedCall, List.mem_cons, List.not_mem_nil, or_false] at hmessage
  rcases hmessage with rfl | rfl
  · rfl
  · exact absurd rfl hcalls

theorem sanitizer_and_summary_agree_paddedCall :
    OnlyAssistantsCall paddedCall ∧
      sanitizeForResume (sanitizeForResume paddedCall) = sanitizeForResume paddedCall :=
  ⟨paddedCall_onlyAssistants,
    (sanitizer_and_summary_agree paddedCall paddedCall_onlyAssistants).1⟩

/-- The sanitizer keeps the result of a padded call, and no summary can be cut there. -/
theorem sanitized_call_blocks_summary :
    ¬∀ messages keep, OnlyAssistantsCall messages →
      (summaryParts (sanitizeForResume messages) keep).isSome = true := by
  intro h
  have hsome := h paddedCall 1 paddedCall_onlyAssistants
  have hnone : (summaryParts (sanitizeForResume paddedCall) 1).isSome = false := by
    decide +kernel
  rw [hnone] at hsome
  cases hsome

end VvAgent
