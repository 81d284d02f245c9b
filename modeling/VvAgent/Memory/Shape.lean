import VvAgent.Memory.Compaction
import VvAgent.Sample

/-!
Compaction keeps a conversation well formed. A conversation is put together from turns: an
assistant message with calls and one result for each call, in their order, or a message alone.
A cut at the start of a turn leaves turns; a microcompaction replaces results in their place; a
filter that takes empty assistant messages or summaries takes whole turns, as long as the
reserved name of summaries is not given to calls or results.
-/

namespace VvAgent
open Lib Lib.Outcome

/-- A tool message that answers a call. -/
def IsResultOf (call : ToolCall) (result : Message) : Prop :=
  result.role = .tool ∧ result.toolCallId = some call.id

/-- A message and the results that follow it. -/
structure OpensTurn (message : Message) (results : List Message) : Prop where
  notResult : message.role ≠ .tool
  answered : message.role = .assistant → List.Forall₂ IsResultOf message.toolCalls results
  ids : message.role = .assistant → (message.toolCalls.map (·.id)).Nodup ∧
    ∀ call ∈ message.toolCalls, call.id ≠ ""
  alone : message.role ≠ .assistant → results = []

/-- Each assistant message with calls is followed by one result per call, in order, under ids
that differ and are not empty, and there are no other results. -/
def WellShaped (messages : List Message) : Prop := Segmented OpensTurn messages

/-- The name of summaries is not given to results or to messages with calls. -/
def SummaryNameReserved (messages : List Message) : Prop :=
  ∀ message ∈ messages, message.isSummary = true →
    message.role ≠ .tool ∧ (message.role = .assistant → message.toolCalls = [])

instance (messages : List Message) : Decidable (SummaryNameReserved messages) :=
  inferInstanceAs (Decidable (∀ message ∈ messages, message.isSummary = true →
    message.role ≠ .tool ∧ (message.role = .assistant → message.toolCalls = [])))

/-- A message as it was, or with a marker in place of a tool result. -/
structure UpToMarker (message replacement : Message) : Prop where
  role : replacement.role = message.role
  name : replacement.name = message.name
  toolCallId : replacement.toolCallId = message.toolCallId
  toolCalls : replacement.toolCalls = message.toolCalls
  content : replacement = message ∨
    (message.role = .tool ∧ isCompactedToolContent replacement.content = true)

theorem Message.isEmptyAssistant_of_role {message : Message} (h : message.role ≠ .assistant) :
    message.isEmptyAssistant = false := by
  simp [isEmptyAssistant, h]

theorem UpToMarker.refl (message : Message) : UpToMarker message message :=
  ⟨rfl, rfl, rfl, rfl, .inl rfl⟩

namespace UpToMarker
variable {message replacement : Message}

theorem isSummary (h : UpToMarker message replacement) :
    replacement.isSummary = message.isSummary := by
  rw [Message.isSummary, Message.isSummary, h.name]

theorem isEmptyAssistant (h : UpToMarker message replacement) :
    replacement.isEmptyAssistant = message.isEmptyAssistant := by
  rcases h.content with rfl | ⟨htool, _⟩
  · rfl
  · have hrole : replacement.role = .tool := h.role.trans htool
    rw [Message.isEmptyAssistant_of_role (by simp [hrole]),
      Message.isEmptyAssistant_of_role (by simp [htool])]

theorem isRaw (h : UpToMarker message replacement) : replacement.isRaw = message.isRaw := by
  rw [Message.isRaw, Message.isRaw, h.role, h.isSummary, h.isEmptyAssistant]

end UpToMarker

/-! ### Turns stay turns -/

theorem OpensTurn.replaced {message replacement : Message} {results others : List Message}
    (hmessage : UpToMarker message replacement) (hresults : List.Forall₂ UpToMarker results others)
    (h : OpensTurn message results) : OpensTurn replacement others := by
  have hanswers : ∀ {calls : List ToolCall} {given after : List Message},
      List.Forall₂ IsResultOf calls given → List.Forall₂ UpToMarker given after →
        List.Forall₂ IsResultOf calls after := by
    intro calls given after hgiven
    induction hgiven generalizing after with
    | nil =>
        intro hafter
        cases hafter
        exact .nil
    | cons hfirst _ ih =>
        intro hafter
        cases hafter with
        | cons hmarker hrest =>
            refine .cons ⟨?_, ?_⟩ (ih hrest)
            · rw [hmarker.role]
              exact hfirst.1
            · rw [hmarker.toolCallId]
              exact hfirst.2
  constructor
  · rw [hmessage.role]
    exact h.notResult
  · intro hrole
    rw [hmessage.toolCalls]
    rw [hmessage.role] at hrole
    exact hanswers (h.answered hrole) hresults
  · intro hrole
    rw [hmessage.toolCalls]
    rw [hmessage.role] at hrole
    exact h.ids hrole
  · intro hrole
    rw [hmessage.role] at hrole
    rw [h.alone hrole] at hresults
    cases hresults
    rfl

theorem WellShaped.upToMarker {messages others : List Message} (h : WellShaped messages)
    (hsame : List.Forall₂ UpToMarker messages others) : WellShaped others :=
  Segmented.replaced h hsame OpensTurn.replaced

/-- A turn with results has calls. -/
theorem OpensTurn.calls_ne_nil {message result : Message} {results : List Message}
    (h : OpensTurn message results) (hresult : result ∈ results) :
    message.role = .assistant ∧ message.toolCalls ≠ [] ∧ result.role = .tool := by
  by_cases hrole : message.role = .assistant
  · have hanswered := h.answered hrole
    refine ⟨hrole, ?_, ?_⟩
    · intro hnone
      rw [hnone] at hanswered
      cases hanswered
      simp at hresult
    · obtain ⟨call, _, hanswers⟩ := forall₂_mem_right hanswered hresult
      exact hanswers.1
  · rw [h.alone hrole] at hresult
    simp at hresult

/-- Empty assistant messages are turns of their own. -/
theorem WellShaped.filterEmpty {messages : List Message} (h : WellShaped messages) :
    WellShaped (filterEmptyAssistantMessages messages) := by
  apply Segmented.filter h
  intro head body _ _ hopens
  cases hempty : head.isEmptyAssistant with
  | false =>
      refine .inl ⟨rfl, fun result hresult => ?_⟩
      have hrole := (hopens.calls_ne_nil hresult).2.2
      have hempty : result.isEmptyAssistant = false :=
        Message.isEmptyAssistant_of_role (by simp [hrole])
      simp [hempty]
  | true =>
      refine .inr ⟨rfl, ?_⟩
      rw [List.eq_nil_iff_forall_not_mem]
      intro result hresult
      have hcalls := (hopens.calls_ne_nil hresult).2.1
      simp [Message.isEmptyAssistant, hcalls] at hempty

/-- Summaries are turns of their own, if their name is reserved. -/
theorem WellShaped.filterRaw {messages : List Message} (h : WellShaped messages)
    (hreserved : SummaryNameReserved messages) : WellShaped (messages.filter Message.isRaw) := by
  apply Segmented.filter h
  intro head body hhead hbody hopens
  have hresult : ∀ result ∈ body, result.isRaw = true := by
    intro result hmember
    have hrole := (hopens.calls_ne_nil hmember).2.2
    have hname : result.isSummary = false := by
      rw [← Bool.not_eq_true]
      intro hsummary
      exact (hreserved result (hbody hmember) hsummary).1 hrole
    have hempty : result.isEmptyAssistant = false := Message.isEmptyAssistant_of_role (by simp [hrole])
    simp [Message.isRaw, hrole, hname, hempty]
  cases hraw : head.isRaw with
  | true => exact .inl ⟨rfl, hresult⟩
  | false =>
      refine .inr ⟨rfl, ?_⟩
      rw [List.eq_nil_iff_forall_not_mem]
      intro result hmember
      obtain ⟨hrole, hcalls, _⟩ := hopens.calls_ne_nil hmember
      have hname : head.isSummary = false := by
        rw [← Bool.not_eq_true]
        intro hsummary
        exact hcalls ((hreserved head hhead hsummary).2 hrole)
      simp [Message.isRaw, Message.isEmptyAssistant, hrole, hcalls, hname] at hraw

/-! ### The cut of a summary -/

theorem summaryBlocks_skip (index : Nat) (results rest : List Message) :
    summaryBlocks index results.length (results ++ rest) =
      summaryBlocks (index + results.length) 0 rest := by
  induction results generalizing index with
  | nil => rfl
  | cons result results ih =>
      rw [List.length_cons, List.cons_append, summaryBlocks, ih]
      congr 1
      omega

/-- The blocks that are found are the turns. -/
theorem summaryBlocks_segmented {messages : List Message} (h : WellShaped messages) {index : Nat}
    {blocks : List (Nat × Nat)} (hblocks : summaryBlocks index 0 messages = some blocks) :
    SegmentedAt OpensTurn index blocks messages := by
  unfold WellShaped at h
  induction h generalizing index blocks with
  | nil =>
      cases hblocks
      exact .nil index
  | cons head body rest hopens _ ih =>
      rw [summaryBlocks] at hblocks
      split_ifs at hblocks with hbad
      have hlength : head.toolCalls.length = body.length := by
        by_cases hrole : head.role = .assistant
        · exact (hopens.answered hrole).length_eq
        · rw [hopens.alone hrole]
          by_contra hcalls
          apply hbad
          refine .inr (.inl ⟨?_, hrole⟩)
          intro hnone
          exact hcalls (by simp [hnone])
      simp only [hlength, summaryBlocks_skip, Option.map_eq_some_iff] at hblocks
      obtain ⟨others, hothers, rfl⟩ := hblocks
      exact .cons index others head body rest hopens (ih hothers)

/-- The last messages, as many as are kept. -/
def lastRaw (messages : List Message) (keep : Nat) : List Message :=
  (messages.filter Message.isRaw).drop ((messages.filter Message.isRaw).length - max keep 1)

theorem filter_drop_suffix {α : Type} (p : α → Bool) (l : List α) {first second : Nat}
    (h : first ≤ second) : (l.drop second).filter p <:+ (l.drop first).filter p := by
  have hsplit : l.drop second = (l.drop first).drop (second - first) := by
    rw [List.drop_drop]
    congr 1
    omega
  rw [hsplit]
  exact (List.drop_suffix _ _).filter p

/-- The kept part of a well formed conversation is well formed and ends with the last
messages. -/
theorem summaryParts_kept {messages : List Message} {keep : Nat} {parts : SummaryParts}
    (hshape : WellShaped messages) (hreserved : SummaryNameReserved messages)
    (h : summaryParts messages keep = some parts) :
    WellShaped parts.tail ∧ lastRaw messages keep <:+ parts.tail := by
  obtain ⟨blocks, hblocks, rfl⟩ := summaryParts_eq_some h
  have hsegmented := summaryBlocks_segmented hshape hblocks
  have hplaces := length_placesFrom Message.isRaw 0 messages
  cases hplace : (placesFrom Message.isRaw 0 messages)[(placesFrom Message.isRaw 0 messages).length -
      max keep 1]? with
  | none =>
      have hempty : messages.filter Message.isRaw = [] := by
        rw [List.getElem?_eq_none_iff] at hplace
        rw [← List.length_eq_zero_iff]
        omega
      have htail : (messages.drop (summaryCut messages blocks keep)).filter Message.isRaw = [] := by
        have hsuffix := (List.drop_suffix (summaryCut messages blocks keep) messages).filter
          Message.isRaw
        rw [hempty] at hsuffix
        exact List.suffix_nil.mp hsuffix
      simp only [htail, lastRaw, hempty, List.drop_nil]
      exact ⟨.nil, List.suffix_refl _⟩
  | some place =>
      obtain ⟨hlow, hhigh, hlast⟩ := filter_drop_placesFrom _ _ _ _ _ hplace
      have hcut : summaryCut messages blocks keep = moveCut blocks place := by
        simp [summaryCut, hplace]
      obtain ⟨_, hbefore, hrest⟩ := hsegmented.moveCut_spec hlow (by omega)
      rw [Nat.sub_zero] at hlast hrest
      constructor
      · rw [hcut]
        apply WellShaped.filterRaw hrest
        intro message hmessage
        exact hreserved message (List.drop_subset _ _ hmessage)
      · have hsuffix := filter_drop_suffix Message.isRaw messages hbefore
        rw [hlast, hplaces] at hsuffix
        rw [hcut]
        exact hsuffix

/-- A result comes after a result or after a message with calls. -/
theorem WellShaped.second_result {first second : Message} {rest : List Message}
    (h : WellShaped (first :: second :: rest)) (hrole : second.role = .tool) :
    first.role = .assistant ∧ first.toolCalls ≠ [] := by
  generalize hmessages : first :: second :: rest = messages at h
  cases h with
  | nil => cases hmessages
  | cons head body others hopens hothers =>
      injection hmessages with hfirst hrest
      subst hfirst
      cases body with
      | nil =>
          rw [List.nil_append] at hrest
          subst hrest
          generalize hremaining : second :: rest = remaining at hothers
          cases hothers with
          | nil => cases hremaining
          | cons next _ _ hnext _ =>
              injection hremaining with hsecond _
              subst hsecond
              exact absurd hrole hnext.notResult
      | cons result body =>
          have hcalls := hopens.calls_ne_nil (List.mem_cons_self (a := result) (l := body))
          exact ⟨hcalls.1, hcalls.2.1⟩

/-! ### What compaction keeps -/

/-- A system message proper. -/
def Message.isSystem (message : Message) : Bool := message.role == .system && !message.isSummary

/-- The result is well formed, has the system messages in their order, and its messages, without
those that are empty, system messages or summaries, end with the last ones of the conversation
as they were, up to markers. -/
structure KeepsConversation (messages : List Message) (keep : Nat) (result : List Message) :
    Prop where
  shape : WellShaped result
  systems : result.filter Message.isSystem = messages.filter Message.isSystem
  last : ∃ kept, kept <:+ result.filter Message.isRaw ∧
    List.Forall₂ UpToMarker (lastRaw messages keep) kept

theorem forall₂_filter {α : Type} {R : α → α → Prop} {p : α → Bool} {l l' : List α}
    (hsame : ∀ {a b}, R a b → p b = p a) (h : List.Forall₂ R l l') :
    List.Forall₂ R (l.filter p) (l'.filter p) := by
  induction h with
  | nil => exact .nil
  | cons hfirst _ ih =>
      rename_i a b l l' _
      cases ha : p a with
      | true =>
          rw [List.filter_cons_of_pos ha, List.filter_cons_of_pos ((hsame hfirst).trans ha)]
          exact .cons hfirst ih
      | false =>
          rw [List.filter_cons_of_neg (by simp [ha]),
            List.filter_cons_of_neg (by simp [hsame hfirst, ha])]
          exact ih

theorem lastRaw_upToMarker {messages others : List Message}
    (h : List.Forall₂ UpToMarker messages others) (keep : Nat) :
    List.Forall₂ UpToMarker (lastRaw messages keep) (lastRaw others keep) := by
  have hraw := forall₂_filter (fun hmarker => UpToMarker.isRaw hmarker) h
  rw [lastRaw, lastRaw, hraw.length_eq]
  exact List.forall₂_drop _ hraw

theorem filter_isSystem_upToMarker {messages others : List Message}
    (h : List.Forall₂ UpToMarker messages others) :
    others.filter Message.isSystem = messages.filter Message.isSystem := by
  induction h with
  | nil => rfl
  | cons hfirst _ ih =>
      rename_i message other rest rest' _
      rcases hfirst.content with rfl | ⟨htool, _⟩
      · simp [List.filter_cons, ih]
      · have hother : other.role = .tool := hfirst.role.trans htool
        simp [Message.isSystem, htool, hother, ih]

/-- The raw messages and the system messages are not empty assistant messages. -/
theorem filter_filterEmpty (p : Message → Bool) (messages : List Message)
    (h : ∀ message, p message = true → message.isEmptyAssistant = false) :
    (filterEmptyAssistantMessages messages).filter p = messages.filter p := by
  rw [filterEmptyAssistantMessages, List.filter_filter]
  congr 1
  funext message
  cases hp : p message with
  | false => simp
  | true => simp [h message hp]

theorem Message.isEmptyAssistant_of_isRaw (message : Message) (h : message.isRaw = true) :
    message.isEmptyAssistant = false := by
  simp only [isRaw, Bool.and_eq_true, Bool.not_eq_true'] at h
  exact h.2

theorem Message.isEmptyAssistant_of_isSystem (message : Message) (h : message.isSystem = true) :
    message.isEmptyAssistant = false := by
  simp only [isSystem, Bool.and_eq_true, beq_iff_eq] at h
  exact isEmptyAssistant_of_role (by simp [h.1])

theorem lastRaw_filterEmpty (messages : List Message) (keep : Nat) :
    lastRaw (filterEmptyAssistantMessages messages) keep = lastRaw messages keep := by
  rw [lastRaw, lastRaw, filter_filterEmpty _ _ Message.isEmptyAssistant_of_isRaw]

/-- A conversation without its empty assistant messages, with markers in it. -/
theorem keepsConversation_sanitized {messages working : List Message} (keep : Nat)
    (hshape : WellShaped messages) (h : List.Forall₂ UpToMarker messages working) :
    KeepsConversation messages keep (filterEmptyAssistantMessages working) where
  shape := (hshape.upToMarker h).filterEmpty
  systems := by
    rw [filter_filterEmpty _ _ Message.isEmptyAssistant_of_isSystem,
      filter_isSystem_upToMarker h]
  last := by
    refine ⟨lastRaw working keep, ?_, lastRaw_upToMarker h keep⟩
    rw [filter_filterEmpty _ _ Message.isEmptyAssistant_of_isRaw]
    exact List.drop_suffix _ _

theorem keepsConversation_refl {messages : List Message} (keep : Nat)
    (hshape : WellShaped messages) : KeepsConversation messages keep messages where
  shape := hshape
  systems := rfl
  last := ⟨lastRaw messages keep, List.drop_suffix _ _,
    List.forall₂_same.mpr fun message _ => UpToMarker.refl message⟩

section
variable [Texts]

/-- A conversation with a summary keeps what the conversation before it keeps, and has one
summary. -/
theorem keepsConversation_summary {messages source : List Message} {keep : Nat}
    {parts : SummaryParts} (payload : Json) (files : List Json) (evidence : Evidence)
    (hreserved : SummaryNameReserved source) (hshape : WellShaped source)
    (hsystems : source.filter Message.isSystem = messages.filter Message.isSystem)
    (hlast : List.Forall₂ UpToMarker (lastRaw messages keep) (lastRaw source keep))
    (hparts : summaryParts source keep = some parts) :
    KeepsConversation messages keep
        (parts.systems ++ [summaryMessage payload files evidence] ++ parts.tail) ∧
      ((parts.systems ++ [summaryMessage payload files evidence] ++ parts.tail).filter
        Message.isSummary).length = 1 := by
  obtain ⟨htail, hsuffix⟩ := summaryParts_kept hshape hreserved hparts
  obtain ⟨blocks, _, rfl⟩ := summaryParts_eq_some hparts
  have hsystem : ∀ message ∈ source.filter Message.isSystem,
      message.role = .system ∧ message.isSummary = false := by
    intro message hmessage
    have hkind := (List.mem_filter.mp hmessage).2
    simpa [Message.isSystem] using hkind
  have hraw : ∀ message ∈ (source.drop (summaryCut source blocks keep)).filter Message.isRaw,
      message.role ≠ .system ∧ message.isSummary = false := by
    intro message hmessage
    have hkind := (List.mem_filter.mp hmessage).2
    simp only [Message.isRaw, Bool.and_eq_true, bne_iff_ne, Bool.not_eq_true'] at hkind
    exact hkind.1
  have hsummary : (summaryMessage payload files evidence).isSummary = true := by
    simp [summaryMessage, Message.isSummary]
  refine ⟨⟨?_, ?_, ?_⟩, ?_⟩
  · apply Segmented.append _ htail
    apply Segmented.append
    · apply Segmented.of_singles
      intro message hmessage
      have hrole := (hsystem message hmessage).1
      exact ⟨by simp [hrole], by simp [hrole], by simp [hrole], fun _ => rfl⟩
    · apply Segmented.of_singles
      intro message hmessage
      obtain rfl := List.mem_singleton.mp hmessage
      exact ⟨by simp [summaryMessage, Message.user], by simp [summaryMessage, Message.user],
        by simp [summaryMessage, Message.user], fun _ => rfl⟩
  · have htailNone : ((source.drop (summaryCut source blocks keep)).filter Message.isRaw).filter
        Message.isSystem = [] := by
      rw [List.filter_eq_nil_iff]
      intro message hmessage
      simp [Message.isSystem, (hraw message hmessage).1]
    have hnone : [summaryMessage payload files evidence].filter Message.isSystem = [] := by
      simp [Message.isSystem, hsummary]
    rw [List.filter_append, List.filter_append, htailNone, hnone, List.append_nil,
      List.append_nil, ← hsystems]
    exact List.filter_eq_self.mpr fun message hmessage => (List.mem_filter.mp hmessage).2
  · have hsystemsNone : (source.filter Message.isSystem).filter Message.isRaw = [] := by
      rw [List.filter_eq_nil_iff]
      intro message hmessage
      simp [Message.isRaw, (hsystem message hmessage).1]
    have hnone : [summaryMessage payload files evidence].filter Message.isRaw = [] := by
      simp [Message.isRaw, hsummary]
    refine ⟨lastRaw source keep, ?_, hlast⟩
    change lastRaw source keep <:+ ((source.filter Message.isSystem ++ _ ++ _).filter _)
    rw [List.filter_append, List.filter_append, hsystemsNone, hnone, List.nil_append,
      List.nil_append, List.filter_eq_self.mpr fun message hmessage =>
        (List.mem_filter.mp hmessage).2]
    exact hsuffix
  · have hsystemsNone : (source.filter Message.isSystem).filter Message.isSummary = [] := by
      rw [List.filter_eq_nil_iff]
      intro message hmessage
      simp [(hsystem message hmessage).2]
    have htailNone : ((source.drop (summaryCut source blocks keep)).filter Message.isRaw).filter
        Message.isSummary = [] := by
      rw [List.filter_eq_nil_iff]
      intro message hmessage
      simp [(hraw message hmessage).2]
    have hone : [summaryMessage payload files evidence].filter Message.isSummary =
        [summaryMessage payload files evidence] := by
      simp [hsummary]
    change ((source.filter Message.isSystem ++ _ ++ _).filter _).length = 1
    rw [List.filter_append, List.filter_append, hsystemsNone, htailNone, hone]
    rfl

namespace MemoryManager
variable {World Error : Type} {manager : MemoryManager World Error}

/-- Summarizing a source that keeps a conversation keeps it. -/
theorem summarizePrefix_keeps {messages source result : List Message} {keep : Nat}
    {cycle : Option Nat} {callback : Option (SummaryPrompt → Nat → Except Error (Option String))}
    {changed : Bool} (hreserved : SummaryNameReserved source)
    (hkeeps : KeepsConversation messages keep source)
    (hlast : List.Forall₂ UpToMarker (lastRaw messages keep) (lastRaw source keep))
    (h : manager.summarizePrefix source keep cycle callback = .ok (result, changed)) :
    KeepsConversation messages keep result ∧
      (changed = false ∧ result = source ∨ (result.filter Message.isSummary).length = 1) := by
  rcases summarizePrefix_eq_ok h with
    ⟨rfl, rfl⟩ | ⟨_, parts, payload, files, evidence, hparts, _, rfl⟩
  · exact ⟨hkeeps, .inl ⟨rfl, rfl⟩⟩
  · obtain ⟨hkept, hone⟩ := keepsConversation_summary payload files evidence hreserved
      hkeeps.shape hkeeps.systems hlast hparts
    exact ⟨hkept, .inr hone⟩

theorem isCompactedToolContent_buildCompacted (content artifactPath toolName : String)
    (config : ToolResultArtifactConfig) :
    isCompactedToolContent (buildCompactedToolContent content artifactPath toolName config) =
      true := by
  have hfront : ∃ rest, buildCompactedToolContent content artifactPath toolName config =
      toolResultCompactMarker ++ rest := by
    simp only [buildCompactedToolContent, String.append_assoc]
    exact ⟨_, rfl⟩
  obtain ⟨rest, hrest⟩ := hfront
  rw [isCompactedToolContent, startsWith, hrest, String.toList_append,
    List.isPrefixOf_iff_prefix]
  exact List.prefix_append _ _

variable [HexDigest]

/-- The microcompaction of a cycle replaces results by markers, in their place. -/
theorem cycleMicrocompaction_upToMarker (manager : MemoryManager World Error) (world : World)
    (messages : List Message) (force : Bool) (messageLength : Nat) :
    List.Forall₂ UpToMarker messages
      (manager.cycleMicrocompaction world messages force messageLength).messages := by
  unfold cycleMicrocompaction
  split_ifs with hdue
  · apply (manager.applyMicrocompaction_compacted world messages _).imp
    intro message replacement hcompacted
    cases hcompacted with
    | kept => exact .refl _
    | marked backend candidate replacement hbackend hcandidate hindex hmarked =>
        obtain ⟨before, artifact, content, after, _, rfl⟩ := hmarked.archived
        obtain ⟨other, hother, hrole, _⟩ := planMicrocompaction_candidate manager hcandidate
        rw [hindex, Option.some.injEq] at hother
        subst hother
        exact ⟨rfl, rfl, rfl, rfl,
          .inr ⟨hrole, isCompactedToolContent_buildCompacted _ _ _ _⟩⟩
  · exact List.forall₂_same.mpr fun message _ => UpToMarker.refl message

end MemoryManager

omit [Texts] in
theorem SummaryNameReserved.upToMarker {messages others : List Message}
    (hreserved : SummaryNameReserved messages) (h : List.Forall₂ UpToMarker messages others) :
    SummaryNameReserved others := by
  intro other hother hsummary
  obtain ⟨message, hmessage, hmarker⟩ := forall₂_mem_right h hother
  rw [hmarker.isSummary] at hsummary
  rw [hmarker.role, hmarker.toolCalls]
  exact hreserved message hmessage hsummary

omit [Texts] in
theorem new_mode_ne_summary {World : Type} {original messages : List Message}
    {mode : MemoryCompactMode} {changed : Bool} {micro : Microcompacting World}
    (h : mode ≠ .summary) :
    (MemoryCompactionOutcome.new original messages mode changed micro).mode ≠ .summary := by
  simp only [MemoryCompactionOutcome.new]
  split_ifs
  · simp
  · simp
  · exact h

omit [Texts] in
theorem max_structural_ne_summary {mode : MemoryCompactMode} (h : mode ≠ .summary) :
    mode.max .structural ≠ .summary := by
  unfold MemoryCompactMode.max
  split_ifs
  · simp
  · exact h

variable [HexDigest]

namespace MemoryManager
variable {World Error : Type} {manager : MemoryManager World Error}

/-- A cycle leaves the messages alone, or drops the empty assistant messages and either adds a
warning or summarizes. -/
theorem compactForCycleWithUsage_eq_ok {world : World} {messages : List Message}
    {cycleIndex : Nat} {force : Bool} {totalTokens : Option Nat}
    {recentToolCallIds : Option (List String)} {outcome : MemoryCompactionOutcome World}
    (h : manager.compactForCycleWithUsage world messages cycleIndex force totalTokens
      recentToolCallIds = .ok outcome) :
    (outcome.messages = messages ∧ outcome.mode ≠ .summary) ∨
    ∃ working, (working = messages ∨ ∃ usage,
        working = (manager.cycleMicrocompaction world messages force usage).messages) ∧
      ((∃ length, outcome.messages =
          manager.maybeAppendMemoryWarning (filterEmptyAssistantMessages working) length ∧
        outcome.mode ≠ .summary) ∨
      ∃ changed, manager.summarizePrefix (filterEmptyAssistantMessages working)
          manager.keepRecentMessages (some cycleIndex) manager.runtimeCallback =
            .ok (outcome.messages, changed) ∧
        (outcome.mode = .summary → changed = true)) := by
  unfold compactForCycleWithUsage at h
  split_ifs at h with hnothing
  · simp only [Except.ok.injEq] at h
    subst h
    exact .inl ⟨rfl, by simp [MemoryCompactionOutcome.new]⟩
  · right
    simp only [bind_eq_ok] at h
    obtain ⟨_, _, h⟩ := h
    generalize hmicro : manager.cycleMicrocompaction world messages force
      (manager.calculateEffectiveLength messages totalTokens recentToolCallIds) = micro at h
    have hworking : (if decide (0 < micro.archivedCount) = true then micro.messages
          else messages) = messages ∨ ∃ usage,
        (if decide (0 < micro.archivedCount) = true then micro.messages else messages) =
          (manager.cycleMicrocompaction world messages force usage).messages := by
      split_ifs
      · exact .inr ⟨_, by rw [hmicro]⟩
      · exact .inl rfl
    generalize (if decide (0 < micro.archivedCount) = true then micro.messages else messages) =
      working at h hworking
    have hstart : (if decide (0 < micro.archivedCount) = true then MemoryCompactMode.micro
        else .none) ≠ .summary := by
      split_ifs <;> simp
    generalize (if decide (0 < micro.archivedCount) = true then MemoryCompactMode.micro
        else .none) = mode at h hstart
    generalize (if decide (0 < micro.archivedCount) = true then
        manager.calculateEffectiveLength messages totalTokens recentToolCallIds -
          micro.reclaimedTokens
      else manager.calculateEffectiveLength messages totalTokens recentToolCallIds) = length at h
    refine ⟨working, hworking, ?_⟩
    by_cases hquiet : force = false ∧ length ≤ manager.autocompactThreshold
    · rw [if_pos hquiet] at h
      simp only [pure_ok, Except.ok.injEq] at h
      subst h
      exact .inl ⟨_, rfl, new_mode_ne_summary (by
        split_ifs
        · exact max_structural_ne_summary hstart
        · exact hstart)⟩
    · rw [if_neg hquiet] at h
      simp only [bind_eq_ok, pure_ok, Except.ok.injEq, Prod.exists] at h
      obtain ⟨compacted, changed, hsummarize, rfl⟩ := h
      refine .inr ⟨changed, hsummarize, fun hmade => ?_⟩
      cases changed with
      | true => rfl
      | false => exact absurd hmade (new_mode_ne_summary hstart)

end MemoryManager

/-- Compaction of a well formed conversation in which no result and no message with calls has
the name of summaries: the outcome of a cycle, up to a memory warning at its end, and of an
emergency keeps the conversation, and a summary that was made is the only one. -/
theorem compaction_keeps_conversation (messages : List Message) (hshape : WellShaped messages)
    (hreserved : SummaryNameReserved messages) :
    (∀ (World Error : Type) (manager : MemoryManager World Error) (world : World)
      (cycleIndex : Nat) (force : Bool) (totalTokens : Option Nat)
      (recentToolCallIds : Option (List String)) (outcome : MemoryCompactionOutcome World),
      manager.compactForCycleWithUsage world messages cycleIndex force totalTokens
        recentToolCallIds = .ok outcome →
      (∃ kept, KeepsConversation messages manager.keepRecentMessages kept ∧
        (outcome.messages = kept ∨
          manager.includeMemoryWarning = true ∧
            outcome.messages = kept ++ [manager.warningMessage])) ∧
      (outcome.mode = .summary → (outcome.messages.filter Message.isSummary).length = 1)) ∧
    ∀ (World Error : Type) (manager : MemoryManager World Error) (scaledKeep : Nat)
      (cycle : Option Nat) (result : List Message),
      manager.emergencyCompact messages scaledKeep cycle = .ok result →
      KeepsConversation messages (max scaledKeep 1) result ∧
        (result = messages ∨ (result.filter Message.isSummary).length = 1) := by
  constructor
  · intro World Error manager world cycleIndex force totalTokens recentToolCallIds outcome h
    rcases MemoryManager.compactForCycleWithUsage_eq_ok h with
      ⟨hsame, hmode⟩ | ⟨working, harchived, houtcome⟩
    · exact ⟨⟨messages, keepsConversation_refl _ hshape, .inl hsame⟩, fun hmade =>
        absurd hmade hmode⟩
    have hworking : List.Forall₂ UpToMarker messages working := by
      rcases harchived with rfl | ⟨usage, rfl⟩
      · exact List.forall₂_same.mpr fun message _ => UpToMarker.refl message
      · exact manager.cycleMicrocompaction_upToMarker world messages force usage
    rcases houtcome with ⟨length, hwarned, hmode⟩ | ⟨changed, hsummarize, hmode⟩
    · refine ⟨⟨_, keepsConversation_sanitized _ hshape hworking, ?_⟩, fun hmade =>
        absurd hmade hmode⟩
      rw [hwarned]
      unfold MemoryManager.maybeAppendMemoryWarning
      split_ifs with hquiet
      · exact .inl rfl
      · refine .inr ⟨?_, rfl⟩
        rw [← Bool.not_eq_false]
        exact fun hoff => hquiet (.inl hoff)
    · have hlast := lastRaw_upToMarker hworking manager.keepRecentMessages
      rw [← lastRaw_filterEmpty working] at hlast
      have hsource : SummaryNameReserved (filterEmptyAssistantMessages working) :=
        fun message hmessage => hreserved.upToMarker hworking message
          (List.mem_filter.mp hmessage).1
      obtain ⟨hkeeps, hone⟩ := MemoryManager.summarizePrefix_keeps hsource
        (keepsConversation_sanitized _ hshape hworking) hlast hsummarize
      refine ⟨⟨_, hkeeps, .inl rfl⟩, fun hmade => ?_⟩
      rcases hone with ⟨hunchanged, _⟩ | hone
      · rw [hmode hmade] at hunchanged
        cases hunchanged
      · exact hone
  · intro World Error manager scaledKeep cycle result h
    simp only [MemoryManager.emergencyCompact, bind_eq_ok, Prod.exists, pure_ok,
      Except.ok.injEq] at h
    obtain ⟨candidate, changed, hsummarize, rfl⟩ := h
    obtain ⟨hkeeps, hone⟩ := MemoryManager.summarizePrefix_keeps hreserved
      (keepsConversation_refl (max scaledKeep 1) hshape)
      (List.forall₂_same.mpr fun message _ => UpToMarker.refl message) hsummarize
    exact ⟨hkeeps, hone.imp_left fun hsame => hsame.2⟩

end

namespace Sample

/-- The members of a summary that reports one step of progress. -/
def progressMembers : JsonObject := summaryMembers (.obj [("progress", .arr [.str "done"])]) []

/-- JSON texts of a run whose summary model answers with one step of progress. -/
@[reducible]
def summaryTexts : Texts where
  toPlatform := (runtime []).toPlatform
  parse _ := .error "EOF while parsing a value at line 1 column 0"
  parseLeading text :=
    if text = "\x7b\"progress\":[\"done\"]\x7d" then some (.obj [("progress", .arr [.str "done"])])
    else none
  canonicalText value :=
    if value = .obj progressMembers then
      "\x7b\"current_work_state\":\"\",\"decisions\":[],\"errors_and_fixes\":[],\"files_examined_or_modified\":[],\"key_facts\":[],\"next_steps\":[],\"open_issues\":[],\"original_user_messages\":[],\"progress\":[\"done\"],\"summary_version\":\"2.0\",\"user_constraints\":[]\x7d"
    else "\x7b\x7d"
  normalizeSummaryOutput text := text

/-- Every text has one digest. -/
@[reducible]
def summaryDigest : HexDigest where
  contentHash _ := otherDigest.1
  isSha256_contentHash _ := otherDigest.2

/-- A manager that summarizes with that answer and warns at 900 of 1000 tokens. -/
def warningManager : MemoryManager MemoryWorkspace Unit where
  compactThreshold := 0
  keepRecentMessages := 1
  modelContextWindow := 1000
  reservedOutputTokens := 0
  autocompactBufferTokens := 0
  language := "en"
  warningThresholdPercentage := 90
  includeMemoryWarning := true
  summaryEventLimit := 40
  toolResultExcerptHead := 200
  toolResultExcerptTail := 200
  keepRecentCycles := 3
  minResultChars := 500
  microcompactTriggerThreshold := 750
  microcompactTargetThreshold := 600
  countTokens := fun text => text.utf8ByteSize / 4
  imageTokens := 765
  summaryCallback := some fun _ => some "\x7b\"progress\":[\"done\"]\x7d"
  runtimeCallback := none
  extractSession := fun _ _ _ => .ok ()
  workspaceBackend := none
  artifactNamespace := "memory"
  toolResultRetentions := []
  recoveryToolAvailable := true

def longRequest : Message := .user (.ofList (List.replicate 900 'a'))

/-- An assistant message with one call. -/
def searching (name : Option String) : Message :=
  { role := .assistant, content := "looking", name
    toolCalls := [{ id := "c1", name := "find_files", arguments := [], extraContent := none }] }

/-- A conversation with one call. -/
def oneCall (name : Option String) : List Message :=
  [longRequest, searching name, .tool "found" "c1", .user "go on"]

/-- A conversation with a summary in it. -/
def earlierSummary : List Message :=
  [longRequest, .user "first", { Message.user "summary" with name := some memorySummaryName },
    .user "go on"]

theorem oneCall_wellShaped (name : Option String) : WellShaped (oneCall name) := by
  have hplain : ∀ text, OpensTurn (.user text) [] := fun text =>
    ⟨by simp [Message.user], by simp [Message.user], by simp [Message.user], fun _ => rfl⟩
  refine .cons longRequest [] _ (hplain _) ?_
  refine .cons (searching name) [.tool "found" "c1"] [Message.user "go on"] ?_ ?_
  · refine ⟨by simp [searching], fun _ => ?_, fun _ => ?_, fun h => absurd rfl h⟩
    · exact .cons ⟨rfl, rfl⟩ .nil
    · simp [searching]
  · exact .cons (Message.user "go on") [] [] (hplain _) .nil

end Sample

open Sample in
/-- An emergency in a conversation with one call: the call and its result are kept. -/
theorem compaction_keeps_one_call :
    WellShaped (oneCall none) ∧ SummaryNameReserved (oneCall none) ∧
      ∃ result, @MemoryManager.emergencyCompact summaryTexts _ _ warningManager (oneCall none) 2
          none = .ok result ∧ result.length = 4 ∧ KeepsConversation (oneCall none) 2 result := by
  let _ := summaryTexts
  let _ : HexDigest := summaryDigest
  have hreserved : SummaryNameReserved (oneCall none) := by decide +kernel
  have hlength : (warningManager.emergencyCompact (oneCall none) 2 none).toOption.map
      List.length = some 4 := by decide +kernel
  cases hresult : warningManager.emergencyCompact (oneCall none) 2 none with
  | error error =>
      rw [hresult] at hlength
      cases hlength
  | ok result =>
      rw [hresult] at hlength
      exact ⟨oneCall_wellShaped none, hreserved, result, rfl, Option.some.inj hlength,
        ((compaction_keeps_conversation (oneCall none) (oneCall_wellShaped none) hreserved).2 _ _
          warningManager 2 none result hresult).1⟩

/-- The last messages that are not empty and not system messages, summaries among them. -/
def lastMessages (messages : List Message) (keep : Nat) : List Message :=
  let counted := messages.filter fun message =>
    message.role != .system && !message.isEmptyAssistant
  counted.drop (counted.length - max keep 1)

/-- The result is well formed, has every system message in order, and ends with the last
messages as they were, up to markers. -/
structure EndsWithLast (messages : List Message) (keep : Nat) (result : List Message) : Prop where
  shape : WellShaped result
  systems : List.Sublist (messages.filter fun message => message.role == .system) result
  last : ∃ kept, kept <:+ result ∧ List.Forall₂ UpToMarker (lastMessages messages keep) kept

/-- Last messages that are no results are at the end as they were. -/
theorem EndsWithLast.suffix {messages result : List Message} {keep : Nat}
    (h : EndsWithLast messages keep result)
    (hplain : ∀ message ∈ lastMessages messages keep, message.role ≠ .tool) :
    lastMessages messages keep <:+ result := by
  obtain ⟨kept, hsuffix, hkept⟩ := h.last
  have hsame : lastMessages messages keep = kept := by
    generalize lastMessages messages keep = last at hkept hplain
    clear hsuffix
    induction hkept with
    | nil => rfl
    | cons hmarker _ ih =>
        have hrest := ih fun message hmessage => hplain message (by simp [hmessage])
        rcases hmarker.content with hequal | ⟨hrole, _⟩
        · rw [hequal, hrest]
        · exact absurd hrole (hplain _ (by simp))
  rw [hsame]
  exact hsuffix

open Sample in
/-- A memory warning follows the last message; a message with calls under the name of summaries
goes and its result stays; and a summary among the last messages is taken from its place. -/
theorem compaction_moves_messages :
    (∃ outcome, @MemoryManager.compactForCycleWithUsage summaryTexts _ _ summaryDigest
        warningManager {} [.user "hi"] 1 false (some 950) none = .ok outcome ∧
      ¬EndsWithLast [.user "hi"] 1 outcome.messages) ∧
    (WellShaped (oneCall (some memorySummaryName)) ∧
      ∃ result, @MemoryManager.emergencyCompact summaryTexts _ _ warningManager
          (oneCall (some memorySummaryName)) 2 none = .ok result ∧ ¬WellShaped result) ∧
    WellShaped earlierSummary ∧
      ∃ result, @MemoryManager.emergencyCompact summaryTexts _ _ warningManager earlierSummary 2
          none = .ok result ∧ ¬EndsWithLast earlierSummary 2 result := by
  let _ := summaryTexts
  let _ : HexDigest := summaryDigest
  refine ⟨?_, ⟨oneCall_wellShaped _, ?_⟩, ?_, ?_⟩
  · have hends : (warningManager.compactForCycleWithUsage {} [.user "hi"] 1 false (some 950)
        none).toOption.map (fun outcome => outcome.messages.getLast?.map Message.content ==
          some "hi") = some false := by decide +kernel
    cases hresult : warningManager.compactForCycleWithUsage {} [.user "hi"] 1 false (some 950)
        none with
    | error error =>
        rw [hresult] at hends
        cases hends
    | ok outcome =>
        rw [hresult] at hends
        refine ⟨outcome, rfl, fun hkeeps => ?_⟩
        obtain ⟨front, hfront⟩ := hkeeps.suffix (by decide +kernel)
        have hlast : lastMessages [.user "hi"] 1 = [.user "hi"] := by decide +kernel
        rw [hlast] at hfront
        simp [Except.toOption, ← hfront, Message.user] at hends
  · have hshape : (warningManager.emergencyCompact (oneCall (some memorySummaryName)) 2
        none).toOption.map (fun result => result.map fun message =>
          (message.role, message.toolCalls.length)) =
        some [(.user, 0), (.tool, 0), (.user, 0)] := by decide +kernel
    cases hresult : warningManager.emergencyCompact (oneCall (some memorySummaryName)) 2 none with
    | error error =>
        rw [hresult] at hshape
        cases hshape
    | ok result =>
        rw [hresult] at hshape
        refine ⟨result, rfl, fun hwell => ?_⟩
        simp only [Except.toOption, Option.map_some, Option.some.injEq] at hshape
        rcases result with _ | ⟨first, _ | ⟨second, rest⟩⟩
        · simp at hshape
        · simp at hshape
        · simp only [List.map_cons, List.cons.injEq, Prod.mk.injEq] at hshape
          have hcalls := (hwell.second_result hshape.2.1.1).2
          exact hcalls (List.length_eq_zero_iff.mp hshape.1.2)
  · exact .of_singles _ (by
      intro message hmessage
      have hrole : message.role = .user := by
        revert message
        decide +kernel
      exact ⟨by simp [hrole], by simp [hrole], by simp [hrole], fun _ => rfl⟩)
  · have hends : (warningManager.emergencyCompact earlierSummary 2 none).toOption.map
        (fun result => decide (lastMessages earlierSummary 2 <:+ result)) = some false := by
      decide +kernel
    cases hresult : warningManager.emergencyCompact earlierSummary 2 none with
    | error error =>
        rw [hresult] at hends
        cases hends
    | ok result =>
        rw [hresult] at hends
        refine ⟨result, rfl, fun hkeeps => ?_⟩
        have hsuffix := hkeeps.suffix (by decide +kernel)
        simp [Except.toOption, hsuffix] at hends

end VvAgent
