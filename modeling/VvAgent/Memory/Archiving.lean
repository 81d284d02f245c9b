import VvAgent.Lib.Savings
import VvAgent.Memory.Decoding
import VvAgent.Memory.Shape

/-!
What a microcompaction keeps. The pass over the candidates of a plan goes from the front of the
conversation to its end and stops when enough is saved. Each message that it replaces is a result
of an old cycle, and differs in its marker and the artifact that holds the complete text.
-/

namespace VvAgent
open Lib Lib.Outcome

/-- A file that is written anew leaves the others as they are. -/
structure LastingArtifacts {World : Type} (backend : ArtifactBackend World) : Prop
    extends LawfulArtifacts backend where
  lasting : ∀ {world path content written world' other bytes},
    backend.writeTextExclusive world path content = .ok (written, world') →
    backend.readBytes world other = .ok bytes → backend.readBytes world' other = .ok bytes

/-- What can be read stays as it is. -/
def Lasts {World : Type} (backend : ArtifactBackend World) (before after : World) : Prop :=
  ∀ path bytes, backend.readBytes before path = .ok bytes →
    backend.readBytes after path = .ok bytes

theorem Lasts.refl {World : Type} (backend : ArtifactBackend World) (world : World) :
    Lasts backend world world := fun _ _ h => h

theorem Lasts.trans {World : Type} {backend : ArtifactBackend World} {first second third : World}
    (h : Lasts backend first second) (h' : Lasts backend second third) :
    Lasts backend first third := fun path bytes hread => h' path bytes (h path bytes hread)

section
variable [HexDigest] {World : Type} {backend : ArtifactBackend World}

/-- An artifact that is read stays readable. -/
theorem Lasts.artifact {before after : World} (h : Lasts backend before after)
    {artifact : ToolArtifactRef} {content : String}
    (hread : readValidatedTextArtifact backend before artifact = .ok content) :
    readValidatedTextArtifact backend after artifact = .ok content := by
  unfold readValidatedTextArtifact at hread ⊢
  cases hvalid : artifact.validate with
  | error error => simp [hvalid] at hread
  | ok u =>
      simp only [hvalid, bind_eq_ok] at hread ⊢
      obtain ⟨bytes, hbytes, hrest⟩ := hread
      exact ⟨bytes, h _ _ hbytes, hrest⟩

theorem persistReplayableTextArtifact_lasts (hlawful : LastingArtifacts backend)
    {world world' : World} {taskId toolCallId content : String} {artifact : ToolArtifactRef}
    (h : persistReplayableTextArtifact backend world taskId toolCallId content =
      .ok (artifact, world')) : Lasts backend world world' := by
  simp only [persistReplayableTextArtifact, bind_eq_ok, refuse_eq_ok, exists_const, pure_ok,
    Except.ok.injEq, Prod.mk.injEq, Prod.exists] at h
  obtain ⟨written, after, hwrite, _, rfl, rfl⟩ := h
  cases hresult : backend.writeTextExclusive world
      (artifactPath taskId toolCallId (contentHash content.toUTF8)) content with
  | ok place =>
      rw [hresult] at hwrite
      cases hwrite
      exact fun _ _ hread => hlawful.lasting hresult hread
  | error error =>
      rw [hresult] at hwrite
      by_cases hexists : error.kind = .alreadyExists
      · simp only [hexists, if_true, bind_eq_ok, refuse_eq_ok, exists_const,
          Except.ok.injEq, Prod.mk.injEq] at hwrite
        obtain ⟨_, _, _, _, rfl⟩ := hwrite
        exact .refl backend world
      · simp [hexists] at hwrite

/-- The id that the artifact of a tool message is named by. -/
def artifactCallId (message : Message) : String := message.toolCallId.getD "tool-result"

/-- An artifact that a message is compacted with, and the complete text: it is the artifact that
the message has, or one that was made of its content. -/
inductive Archived (backend : ArtifactBackend World) (world : World) (taskId : String)
    (message : Message) : ToolArtifactRef → String → Prop
  | had (artifact : ToolArtifactRef) (content : String)
      (hartifact : message.artifactRef = some artifact)
      (hread : readValidatedTextArtifact backend world artifact = .ok content) :
      Archived backend world taskId message artifact content
  | made (hnone : message.artifactRef = none)
      (hplace : backend.readBytes world (artifactPath taskId (artifactCallId message)
        (contentHash message.content.toUTF8)) = .ok message.content.toUTF8) :
      Archived backend world taskId message
        (textArtifact (artifactPath taskId (artifactCallId message)
          (contentHash message.content.toUTF8)) message.content.utf8ByteSize
          (contentHash message.content.toUTF8)) message.content

theorem Archived.lasts {before after : World} (h : Lasts backend before after) {taskId : String}
    {message : Message} {artifact : ToolArtifactRef} {content : String}
    (harchived : Archived backend before taskId message artifact content) :
    Archived backend after taskId message artifact content := by
  cases harchived with
  | had artifact content hartifact hread => exact .had _ _ hartifact (h.artifact hread)
  | made hnone hplace => exact .made hnone (h _ _ hplace)

/-- The artifact of a compacted message is read back as the complete text: the content that the
message had, or the text of the artifact that it had. -/
def ReadsBack (backend : ArtifactBackend World) (before after : World)
    (message replacement : Message) : Prop :=
  ∃ artifact content, replacement.artifactRef = some artifact ∧
    readValidatedTextArtifact backend after artifact = .ok content ∧
    (message.artifactRef = none → content = message.content) ∧
    ∀ existing, message.artifactRef = some existing → artifact = existing ∧
      ∀ text, readValidatedTextArtifact backend before existing = .ok text → content = text

/-- An artifact that the message had is read back; one that was made of it is if its name leaves
room for the digest. -/
theorem Archived.readsBack_iff {before after : World} (hlasts : Lasts backend before after)
    {taskId : String} {message replacement : Message} {artifact : ToolArtifactRef}
    {content : String} (h : Archived backend after taskId message artifact content)
    (hreplacement : replacement.artifactRef = some artifact) :
    ReadsBack backend before after message replacement ↔
      (message.artifactRef.isSome = true ∨ LeavesRoom (artifactCallId message)) := by
  cases h with
  | had artifact content hartifact hread =>
      have hleft : ReadsBack backend before after message replacement := by
        refine ⟨artifact, content, hreplacement, hread, ?_, ?_⟩
        · intro hnone
          rw [hartifact] at hnone
          cases hnone
        · intro existing hexisting
          rw [hartifact, Option.some.injEq] at hexisting
          subst hexisting
          refine ⟨rfl, fun text htext => ?_⟩
          rw [hlasts.artifact htext, Except.ok.injEq] at hread
          exact hread.symm
      simp [hleft, hartifact]
  | made hnone hplace =>
      have hroom := (replayable_iff hplace).2
      have hsome : message.artifactRef.isSome = false := by rw [hnone]; rfl
      rw [hsome, LeavesRoom, ← hroom]
      constructor
      · rintro ⟨artifact, content, hartifact, hread, hsame, _⟩
        rw [hreplacement, Option.some.injEq] at hartifact
        rw [← hartifact, hsame hnone] at hread
        exact .inr hread
      · rintro (hfalse | hread)
        · cases hfalse
        · refine ⟨_, message.content, hreplacement, hread, fun _ => rfl, ?_⟩
          intro existing hexisting
          rw [hnone] at hexisting
          cases hexisting

end

/-! ### The pass over the candidates -/

section
variable [Texts] [HexDigest] {World Error : Type} {manager : MemoryManager World Error}
  {backend : ArtifactBackend World}

/-- Archiving a candidate's message gives an artifact of it. -/
theorem archived_of_archiveToolMessage (hlawful : LastingArtifacts backend) {world after : World}
    {message : Message} {candidate : MicrocompactionCandidate} {artifact : ToolArtifactRef}
    {content : String} (hexisting : candidate.existingArtifact = message.artifactRef)
    (h : manager.archiveToolMessage backend world message candidate =
      some ((artifact, content), after)) :
    Archived backend after manager.artifactNamespace message artifact content ∧
      Lasts backend world after := by
  unfold MemoryManager.archiveToolMessage at h
  cases hartifact : message.artifactRef with
  | some existing =>
      rw [hexisting, hartifact] at h
      cases hread : readValidatedTextArtifact backend world existing with
      | error error => simp [hread] at h
      | ok text =>
          simp only [hread, Option.some.injEq, Prod.mk.injEq] at h
          obtain ⟨⟨rfl, rfl⟩, rfl⟩ := h
          exact ⟨.had _ _ hartifact hread, .refl backend world⟩
  | none =>
      rw [hexisting, hartifact] at h
      by_cases henvelope : hasRecoveryEnvelope message.content = true
      · simp [henvelope] at h
      · cases hpersist : persistReplayableTextArtifact backend world manager.artifactNamespace
            (message.toolCallId.getD "tool-result") message.content with
        | error error => simp [henvelope, hpersist] at h
        | ok persisted =>
            obtain ⟨made, world'⟩ := persisted
            simp only [henvelope, hpersist, Bool.false_eq_true, if_false, Option.some.injEq,
              Prod.mk.injEq] at h
            obtain ⟨⟨rfl, rfl⟩, rfl⟩ := h
            obtain ⟨rfl, hplace⟩ :=
              persistReplayableTextArtifact_eq_ok hlawful.toLawfulArtifacts hpersist
            exact ⟨.made hartifact hplace, persistReplayableTextArtifact_lasts hlawful hpersist⟩

/-- The tokens of a message. -/
def MemoryManager.messageCost (manager : MemoryManager World Error) (message : Message) : Nat :=
  manager.countMessagesTokens [message]

/-- A message was replaced on behalf of a candidate, while too little was saved. -/
structure Replaced (manager : MemoryManager World Error) (backend : ArtifactBackend World)
    (messages : List Message) (plan : MicrocompactionPlan) (state : Microcompacting World)
    (index : Nat) (message replacement : Message) : Prop where
  archived : ∃ candidate ∈ plan.candidates, candidate.messageIndex = index ∧
    ∃ artifact content,
      Archived backend state.world manager.artifactNamespace message artifact content ∧
        replacement = manager.compactedMessage message candidate.toolName artifact content
  saves : manager.messageCost replacement < manager.messageCost message
  needed : plan.targetUsage <
    plan.currentUsage - savedBefore manager.messageCost messages state.messages index

/-- The pass has reached a place: the messages from there on are the old ones, and what is before
it is accounted for. -/
structure Pass (manager : MemoryManager World Error) (backend : ArtifactBackend World)
    (messages : List Message) (plan : MicrocompactionPlan) (world : World) (reached : Nat)
    (state : Microcompacting World) : Prop where
  length : state.messages.length = messages.length
  ahead : ∀ index, reached ≤ index → state.messages[index]? = messages[index]?
  usage : state.projectedUsage =
    plan.currentUsage - savedBefore manager.messageCost messages state.messages reached
  changed : ∀ index message replacement, messages[index]? = some message →
    state.messages[index]? = some replacement → replacement ≠ message →
      Replaced manager backend messages plan state index message replacement
  lasts : Lasts backend world state.world

variable {messages : List Message} {plan : MicrocompactionPlan} {world : World} {reached : Nat}
  {state : Microcompacting World}

theorem Pass.start (manager : MemoryManager World Error) (backend : ArtifactBackend World)
    (messages : List Message) (plan : MicrocompactionPlan) (world : World) :
    Pass manager backend messages plan world 0
      { messages, world, projectedUsage := plan.currentUsage } where
  length := rfl
  ahead := fun _ _ => rfl
  usage := by simp [savedBefore]
  changed := by
    intro index message replacement hmessage hreplacement hne
    rw [hmessage, Option.some.injEq] at hreplacement
    exact absurd hreplacement.symm hne
  lasts := .refl backend world

/-- The pass goes on over messages that it leaves alone. -/
theorem Pass.forward (h : Pass manager backend messages plan world reached state) {later : Nat}
    (hle : reached ≤ later) : Pass manager backend messages plan world later state where
  length := h.length
  ahead := fun index hindex => h.ahead index (Nat.le_trans hle hindex)
  usage := by rw [h.usage, savedBefore_of_same _ hle h.ahead]
  changed := h.changed
  lasts := h.lasts

/-- The pass writes to the archive, or counts a failure. -/
theorem Pass.aside (h : Pass manager backend messages plan world reached state)
    {next : Microcompacting World} (hmessages : next.messages = state.messages)
    (husage : next.projectedUsage = state.projectedUsage)
    (hlasts : Lasts backend state.world next.world) :
    Pass manager backend messages plan world reached next where
  length := by rw [hmessages, h.length]
  ahead := by
    rw [hmessages]
    exact h.ahead
  usage := by rw [husage, h.usage, hmessages]
  changed := by
    intro index message replacement hmessage hreplacement hne
    rw [hmessages] at hreplacement
    obtain ⟨⟨candidate, hcandidate, hindex, artifact, content, harchived, hmade⟩, hsaves,
      hneeded⟩ := h.changed index message replacement hmessage hreplacement hne
    refine ⟨⟨candidate, hcandidate, hindex, artifact, content, harchived.lasts hlasts, hmade⟩,
      hsaves, ?_⟩
    rw [hmessages]
    exact hneeded
  lasts := h.lasts.trans hlasts

/-- The pass replaces the message that it has reached. -/
theorem Pass.replace (h : Pass manager backend messages plan world reached state)
    (hopen : plan.targetUsage < state.projectedUsage) {candidate : MicrocompactionCandidate}
    (hcandidate : candidate ∈ plan.candidates) (hreached : reached = candidate.messageIndex)
    {message : Message} (hmessage : messages[reached]? = some message) {after : World}
    {artifact : ToolArtifactRef} {content : String}
    (harchived : Archived backend after manager.artifactNamespace message artifact content)
    (hlasts : Lasts backend state.world after)
    (hsaves : manager.messageCost (manager.compactedMessage message candidate.toolName artifact
      content) < manager.messageCost message) {next : Microcompacting World}
    (hmessages : next.messages = state.messages.set reached
      (manager.compactedMessage message candidate.toolName artifact content))
    (hworld : next.world = after)
    (husage : next.projectedUsage = state.projectedUsage - (manager.messageCost message -
      manager.messageCost (manager.compactedMessage message candidate.toolName artifact content))) :
    Pass manager backend messages plan world (reached + 1) next := by
  obtain ⟨hbound, _⟩ := List.getElem?_eq_some_iff.mp hmessage
  have hset : next.messages[reached]? =
      some (manager.compactedMessage message candidate.toolName artifact content) := by
    rw [hmessages, List.getElem?_set_self (by rw [h.length]; exact hbound)]
  have hbefore : ∀ place, place ≤ reached →
      savedBefore manager.messageCost messages next.messages place =
        savedBefore manager.messageCost messages state.messages place := by
    intro place hplace
    rw [hmessages, savedBefore_set _ hplace]
  constructor
  · rw [hmessages, List.length_set, h.length]
  · intro index hindex
    rw [hmessages, List.getElem?_set_ne (by omega)]
    exact h.ahead index (by omega)
  · rw [savedBefore_succ _ hmessage hset, hbefore reached (Nat.le_refl _), husage, h.usage]
    omega
  · intro index other replacement hother hreplacement hne
    rcases Nat.lt_trichotomy index reached with hlt | rfl | hgt
    · rw [hmessages, List.getElem?_set_ne (by omega)] at hreplacement
      obtain ⟨⟨earlier, hearlier, hindex, given, text, hgiven, hmade⟩, hless, hneeded⟩ :=
        h.changed index other replacement hother hreplacement hne
      refine ⟨⟨earlier, hearlier, hindex, given, text, ?_, hmade⟩, hless, ?_⟩
      · rw [hworld]
        exact hgiven.lasts hlasts
      · rw [hbefore index (by omega)]
        exact hneeded
    · rw [hset, Option.some.injEq] at hreplacement
      rw [hmessage, Option.some.injEq] at hother
      subst hreplacement hother
      refine ⟨⟨candidate, hcandidate, hreached.symm, artifact, content, ?_, rfl⟩, hsaves, ?_⟩
      · rw [hworld]
        exact harchived
      · rw [hbefore index (Nat.le_refl _), ← h.usage]
        exact hopen
    · rw [hmessages, List.getElem?_set_ne (by omega), h.ahead index (by omega), hother,
        Option.some.injEq] at hreplacement
      exact absurd hreplacement.symm hne
  · rw [hworld]
    exact h.lasts.trans hlasts

/-- One candidate moves the pass to the place behind its message. -/
theorem Pass.step (hlawful : LastingArtifacts backend)
    (h : Pass manager backend messages plan world reached state)
    {candidate : MicrocompactionCandidate} (hcandidate : candidate ∈ plan.candidates)
    (hexisting : ∀ message, messages[candidate.messageIndex]? = some message →
      candidate.existingArtifact = message.artifactRef)
    (hle : reached ≤ candidate.messageIndex) :
    Pass manager backend messages plan world (candidate.messageIndex + 1)
      (manager.compactCandidate backend messages plan.targetUsage state candidate) := by
  have hthere := h.forward hle
  have hbehind := h.forward (Nat.le_succ_of_le hle)
  unfold MemoryManager.compactCandidate
  by_cases hdone : state.projectedUsage ≤ plan.targetUsage
  · rw [if_pos hdone]
    exact hbehind
  · rw [if_neg hdone]
    cases hmessage : messages[candidate.messageIndex]? with
    | none => exact hbehind
    | some message =>
        cases harchive : manager.archiveToolMessage backend state.world message candidate with
        | none =>
            simp only [harchive]
            exact hbehind.aside rfl rfl (.refl backend state.world)
        | some archived =>
            obtain ⟨⟨artifact, content⟩, after⟩ := archived
            obtain ⟨harchived, hlasts⟩ :=
              archived_of_archiveToolMessage hlawful (hexisting message hmessage) harchive
            simp only [harchive]
            split_ifs with hnothing
            · exact hbehind.aside rfl rfl hlasts
            · apply hthere.replace (Nat.lt_of_not_le hdone) hcandidate rfl hmessage harchived
                hlasts
              · change manager.countMessagesTokens _ < manager.countMessagesTokens _
                omega
              · rfl
              · rfl
              · rfl

/-- The pass over candidates in the order of the messages. -/
theorem Pass.run (hlawful : LastingArtifacts backend)
    (h : Pass manager backend messages plan world reached state)
    (candidates : List MicrocompactionCandidate)
    (hcandidates : ∀ candidate ∈ candidates, candidate ∈ plan.candidates)
    (hexisting : ∀ candidate ∈ candidates, ∀ message,
      messages[candidate.messageIndex]? = some message →
        candidate.existingArtifact = message.artifactRef)
    (hordered : candidates.Pairwise
      fun candidate later => candidate.messageIndex < later.messageIndex)
    (hreached : ∀ candidate ∈ candidates, reached ≤ candidate.messageIndex) :
    ∃ last, Pass manager backend messages plan world last
      (candidates.foldl (manager.compactCandidate backend messages plan.targetUsage) state) := by
  induction candidates generalizing state reached with
  | nil => exact ⟨reached, h⟩
  | cons candidate candidates ih =>
      rw [List.pairwise_cons] at hordered
      apply ih (h.step hlawful (hcandidates candidate List.mem_cons_self)
        (hexisting candidate List.mem_cons_self) (hreached candidate List.mem_cons_self))
      · exact fun other hother => hcandidates other (List.mem_cons_of_mem _ hother)
      · exact fun other hother => hexisting other (List.mem_cons_of_mem _ hother)
      · exact hordered.2
      · exact fun other hother => Nat.succ_le_of_lt (hordered.1 other hother)

/-! ### A microcompaction as a whole -/

/-- What a microcompaction makes of a message: a result of an old cycle, whose tool archives, gets
a shorter content, and this while too little was saved. -/
structure Microcompacted (manager : MemoryManager World Error) (messages after : List Message)
    (currentUsage index : Nat) (message replacement : Message) : Prop where
  role : message.role = .tool
  old : ∃ cycle, (inferMessageCycles 0 messages)[index]? = some cycle ∧
    cycle < manager.protectedCycle messages
  archives : ∃ callId toolName, message.toolCallId = some callId ∧
    toolCallName? messages callId = some toolName ∧
    retentionOf manager.toolResultRetentions toolName = .archive
  frame : replacement =
    { message with
      content := replacement.content
      artifactRef := replacement.artifactRef
      metadata := eraseMember ToolExecutionResult.microcompactExcerptKey message.metadata }
  saves : manager.countMessagesTokens [replacement] < manager.countMessagesTokens [message]
  needed : manager.microcompactTargetThreshold <
    currentUsage - savedBefore manager.messageCost messages after index

/-- A pass over the whole plan, or no pass. -/
theorem applyMicrocompaction_pass (manager : MemoryManager World Error)
    (hlawful : ∀ backend, manager.workspaceBackend = some backend → LastingArtifacts backend)
    (world : World) (messages : List Message) (currentUsage : Nat) :
    (manager.applyMicrocompaction world messages
        (manager.planMicrocompaction messages currentUsage)).messages = messages ∨
      ∃ backend last, manager.workspaceBackend = some backend ∧
        Pass manager backend messages (manager.planMicrocompaction messages currentUsage) world last
          (manager.applyMicrocompaction world messages
            (manager.planMicrocompaction messages currentUsage)) := by
  obtain ⟨hordered, hcandidates⟩ := manager.planMicrocompaction_spec messages currentUsage
  unfold MemoryManager.applyMicrocompaction
  by_cases hnone : (manager.planMicrocompaction messages currentUsage).candidates = []
  · rw [if_pos hnone]
    exact .inl rfl
  · rw [if_neg hnone]
    cases hbackend : manager.workspaceBackend with
    | none => exact .inl rfl
    | some backend =>
        have hstart := Pass.start manager backend messages
          (manager.planMicrocompaction messages currentUsage) world
        obtain ⟨last, hpass⟩ := hstart.run (hlawful backend hbackend)
          (manager.planMicrocompaction messages currentUsage).candidates (fun _ h => h)
          (by
            intro candidate hcandidate message hmessage
            obtain ⟨_, _, other, _, hother, _, _, hexisting⟩ := hcandidates candidate hcandidate
            rw [hmessage, Option.some.injEq] at hother
            rw [hother]
            exact hexisting)
          hordered (fun _ _ => Nat.zero_le _)
        exact .inr ⟨backend, last, rfl, hpass⟩

/-- A replaced message is a microcompacted one. -/
theorem Replaced.microcompacted {currentUsage : Nat} {index : Nat} {message replacement : Message}
    (h : Replaced manager backend messages (manager.planMicrocompaction messages currentUsage) state
      index message replacement) (hmessage : messages[index]? = some message) :
    Microcompacted manager messages state.messages currentUsage index message replacement := by
  obtain ⟨⟨candidate, hcandidate, rfl, artifact, content, _, rfl⟩, hsaves, hneeded⟩ := h
  obtain ⟨husage, htarget, other, cycle, hother, hcycle, heligible, _⟩ :=
    (manager.planMicrocompaction_spec messages currentUsage).2 candidate hcandidate
  rw [hmessage, Option.some.injEq] at hother
  subst hother
  obtain ⟨hrole, hold, _, callId, hcall, hname, hretention⟩ :=
    MemoryManager.eligibleToolName_eq_some heligible
  rw [husage, htarget] at hneeded
  exact ⟨hrole, ⟨cycle, hcycle, hold⟩, ⟨callId, candidate.toolName, hcall, hname, hretention⟩, rfl,
    hsaves, hneeded⟩

/-- A microcompaction changes results of old cycles in their place, each to its marker, and no
more of them than are needed. What it changed, it does not select again. The complete text of a
changed message is read back from its artifact exactly if the message had one, or the name made
from the id of its call leaves room for a digest. -/
theorem microcompaction_lossless_iff (manager : MemoryManager World Error)
    (hlawful : ∀ backend, manager.workspaceBackend = some backend → LastingArtifacts backend)
    (world : World) (messages : List Message) (currentUsage : Nat) :
    let applied := manager.applyMicrocompaction world messages
      (manager.planMicrocompaction messages currentUsage)
    applied.messages.length = messages.length ∧
      (∀ index message replacement, messages[index]? = some message →
        applied.messages[index]? = some replacement → replacement ≠ message →
        Microcompacted manager messages applied.messages currentUsage index message replacement ∧
        ((∃ backend, manager.workspaceBackend = some backend ∧
            ReadsBack backend world applied.world message replacement) ↔
          (message.artifactRef.isSome = true ∨ LeavesRoom (artifactCallId message)))) ∧
      ∀ laterUsage, ∀ candidate ∈
        (manager.planMicrocompaction applied.messages laterUsage).candidates,
          ∃ message, applied.messages[candidate.messageIndex]? = some message ∧
            isCompactedToolContent message.content = false ∧
            messages[candidate.messageIndex]? = some message := by
  dsimp only
  have hpass := applyMicrocompaction_pass manager hlawful world messages currentUsage
  generalize manager.applyMicrocompaction world messages
    (manager.planMicrocompaction messages currentUsage) = applied at hpass ⊢
  have hselected : ∀ laterUsage, ∀ candidate ∈
      (manager.planMicrocompaction applied.messages laterUsage).candidates,
        ∃ message, applied.messages[candidate.messageIndex]? = some message ∧
          isCompactedToolContent message.content = false := by
    intro laterUsage candidate hcandidate
    obtain ⟨_, _, message, _, hmessage, _, heligible, _⟩ :=
      (manager.planMicrocompaction_spec applied.messages laterUsage).2 candidate hcandidate
    exact ⟨message, hmessage, (MemoryManager.eligibleToolName_eq_some heligible).2.2.1⟩
  rcases hpass with hsame | ⟨backend, last, hbackend, hpass⟩
  · refine ⟨by rw [hsame], ?_, ?_⟩
    · intro index message replacement hmessage hreplacement hne
      rw [hsame, hmessage, Option.some.injEq] at hreplacement
      exact absurd hreplacement.symm hne
    · intro laterUsage candidate hcandidate
      obtain ⟨message, hmessage, hplain⟩ := hselected laterUsage candidate hcandidate
      exact ⟨message, hmessage, hplain, by rw [← hsame]; exact hmessage⟩
  · refine ⟨hpass.length, ?_, ?_⟩
    · intro index message replacement hmessage hreplacement hne
      have hreplaced := hpass.changed index message replacement hmessage hreplacement hne
      refine ⟨hreplaced.microcompacted hmessage, ?_⟩
      obtain ⟨⟨candidate, _, _, artifact, content, harchived, rfl⟩, _, _⟩ := hreplaced
      have hartifact : (manager.compactedMessage message candidate.toolName artifact
          content).artifactRef = some artifact := rfl
      rw [← harchived.readsBack_iff hpass.lasts hartifact]
      constructor
      · rintro ⟨other, hother, hreads⟩
        rw [hbackend, Option.some.injEq] at hother
        rw [hother]
        exact hreads
      · exact fun hreads => ⟨backend, hbackend, hreads⟩
    · intro laterUsage candidate hcandidate
      obtain ⟨message, hmessage, hplain⟩ := hselected laterUsage candidate hcandidate
      refine ⟨message, hmessage, hplain, ?_⟩
      obtain ⟨hbound, _⟩ := List.getElem?_eq_some_iff.mp hmessage
      rw [hpass.length] at hbound
      -- A message that was changed has a marker.
      have hold := List.getElem?_eq_getElem hbound
      by_cases hkept : message = messages[candidate.messageIndex]
      · rw [hold, hkept]
      · obtain ⟨⟨earlier, _, _, artifact, content, _, hmade⟩, _, _⟩ :=
          hpass.changed _ _ _ hold hmessage hkept
        rw [hmade, MemoryManager.compactedMessage,
          MemoryManager.isCompactedToolContent_buildCompacted] at hplain
        cases hplain

end

namespace MemoryWorkspace

theorem artifactBackend_lasting : LastingArtifacts artifactBackend where
  toLawfulArtifacts := artifactBackend_lawful
  lasting := by
    intro world path content written world' other bytes h hread
    change world.writeTextChunksExclusive path [.ok content] = .ok (written, world') at h
    change world.readBytes other = .ok bytes at hread
    change world'.readBytes other = .ok bytes
    simp only [writeTextChunksExclusive, bind_eq_ok, refuse_eq_ok, exists_const,
      Bool.or_eq_false_iff] at h
    obtain ⟨key, hkey, texts, htexts, ⟨hfresh, _⟩, hwrite⟩ := h
    cases hparent : (parentDirs key).tail.find? fun parent =>
        (world.files[parent]?).isSome with
    | some parent =>
        rw [hparent] at hwrite
        cases hwrite
    | none =>
        simp only [hparent, pure_ok, Except.ok.injEq, Prod.mk.injEq] at hwrite
        obtain ⟨_, rfl⟩ := hwrite
        simp only [readBytes, insertParentDirs, Table.get_insert] at hread ⊢
        split_ifs with hsame
        · rw [Option.isSome_eq_false_iff, Option.isNone_iff_eq_none] at hfresh
          rw [← hsame, hfresh] at hread
          cases hread
        · exact hread

end MemoryWorkspace

namespace Sample

section
variable [Texts]

/-- A manager that counts characters, over an empty workspace. -/
def archivist : MemoryManager MemoryWorkspace Unit :=
  { costlyText "" with
    modelContextWindow := 100000
    countTokens := String.length }

/-- A result of a search. -/
def searchResult (length : Nat) : String := .ofList (List.replicate length 'x')

def searchCall (id : String) : Message :=
  { role := .assistant, content := "searching"
    toolCalls := [{ id, name := "search", arguments := [], extraContent := none }] }

/-- A call that searches, and its result. -/
def searchTurn (id : String) (length : Nat) : List Message :=
  [searchCall id, .tool (searchResult length) id]

omit [Texts] in
theorem searchResult_length (length : Nat) : (searchResult length).length = length := by
  rw [searchResult, String.length_ofList, List.length_replicate]

omit [Texts] in
theorem searchResult_toList {length : Nat} {c : Char} (h : c ∈ (searchResult length).toList) :
    c = 'x' := by
  rw [searchResult, String.toList_ofList] at h
  exact List.eq_of_mem_replicate h

omit [Texts] in
theorem rsplitOnce_none {separator : Char} {text : List Char} (h : separator ∉ text) :
    rsplitOnce separator text = none := by
  induction text with
  | nil => rfl
  | cons c rest ih =>
      rw [List.mem_cons, not_or] at h
      rw [rsplitOnce, ih h.2]
      exact if_neg fun hsame => h.1 hsame.symm

theorem searchResult_plain (length : Nat) : hasRecoveryEnvelope (searchResult length) = false := by
  have htrimmed : '\n' ∉ trimEnd (searchResult length).toList := by
    intro hmember
    rw [trimEnd, List.mem_reverse] at hmember
    have hthere := List.mem_reverse.mp ((List.dropWhile_sublist _).subset hmember)
    have hsame := searchResult_toList hthere
    revert hsame
    decide
  rw [hasRecoveryEnvelope, lastLine, rsplitOnce_none htrimmed]
  rfl

omit [Texts] in
theorem searchResult_uncompacted (length : Nat) :
    isCompactedToolContent (searchResult length) = false := by
  cases length with
  | zero => decide
  | succ length =>
      rw [isCompactedToolContent, startsWith, searchResult, String.toList_ofList,
        List.replicate_succ]
      rfl

/-- The length of a marker without an excerpt. -/
theorem bareMarker_length (content path toolName : String) :
    (buildCompactedToolContent content path toolName ⟨0, 0⟩).length =
      139 + toolName.length + path.length := by
  have htail : ∀ source : List Char,
      (if 0 < source.length then source.drop (source.length - 0) else []) = [] := by
    intro source
    split_ifs
    · simp
    · rfl
  have hexcerpt : String.ofList (trimWhitespace (List.intercalate ['\n'] [])) = "" := by decide
  have hmarker : toolResultCompactMarker.length = 21 := by decide
  have hname : "\ntool_name: ".length = 12 := by decide
  have hpath : "\nartifact_path: ".length = 16 := by decide
  have hhint : "\nretrieval_hint: use read_file on artifact_path if needed\nexcerpt:\n".length =
      67 := by decide
  have hend : "\n</Tool Result Compact>".length = 23 := by decide
  unfold buildCompactedToolContent
  simp only [htail, List.take_zero, if_true, hexcerpt, String.length_append, hmarker, hname, hpath,
    hhint, hend, String.length_empty]
  omega

/-- What the search is planned to be archived as. -/
def searchCandidate : MicrocompactionCandidate where
  messageIndex := 1
  toolName := "search"
  existingArtifact := none

omit [Texts] in
/-- The archivist counts the characters of a message. -/
theorem archivist_cost {message : Message} (himage : message.imageUrl = none) :
    archivist.countMessagesTokens [message] = message.content.length := by
  have htokens : ∀ text, archivist.countTokens text = text.length := fun _ => rfl
  rw [countMessagesTokens_single, htokens, himage]
  by_cases hempty : message.content = ""
  · rw [if_pos hempty, hempty]
    rfl
  · rw [if_neg hempty]
    rfl

theorem searchTurn_reclaim (id : String) {length : Nat} (hlong : 600 ≤ length) :
    archivist.estimatedReclaim (.tool (searchResult length) id) "search" ≠ 0 := by
  have hpath : estimatedArtifactPath.length = 66 := by decide
  have hsearch : "search".length = 6 := by decide
  have hmarker := bareMarker_length (searchResult length) estimatedArtifactPath "search"
  have hlength := searchResult_length length
  change archivist.countMessagesTokens [.tool (searchResult length) id] -
    archivist.countMessagesTokens [.tool (buildCompactedToolContent (searchResult length)
      estimatedArtifactPath "search" ⟨0, 0⟩) id] ≠ 0
  rw [archivist_cost rfl, archivist_cost rfl]
  simp only [Message.tool, hmarker, hlength, hpath, hsearch]
  omega

theorem searchTurn_eligible (id : String) {length : Nat} (hlong : 600 ≤ length) :
    eligibleToolName (.tool (searchResult length) id) 1 2 0 (searchTurn id length) [] =
      some "search" := by
  have hname : toolCallName? (searchTurn id length) id = some "search" := by
    simp [toolCallName?, searchTurn, searchCall, Message.tool]
  have hlength := searchResult_length length
  have hshort : ¬ length = 0 := by omega
  simp [eligibleToolName, Message.tool, searchResult_uncompacted, searchResult_plain, hname,
    hlength, hshort, retentionOf]

theorem searchTurn_plan (id : String) {length : Nat} (hlong : 600 ≤ length) :
    (archivist.planMicrocompaction (searchTurn id length) 2000).candidates = [searchCandidate] := by
  have hcall : archivist.planCandidate (searchTurn id length) 2 2 ((searchCall id, 1), 0) =
      none := by
    simp [MemoryManager.planCandidate, searchCall, eligibleToolName]
  have hresult : archivist.planCandidate (searchTurn id length) 2 2
      ((.tool (searchResult length) id, 1), 1) = some searchCandidate := by
    have hminimum : archivist.minResultChars = 0 := rfl
    have hretentions : archivist.toolResultRetentions = [] := rfl
    simp [MemoryManager.planCandidate, hminimum, hretentions, searchTurn_eligible id hlong,
      searchTurn_reclaim id hlong, searchCandidate]
    rfl
  have hidle : ¬ (archivist.recoveryToolAvailable = false ∨ searchTurn id length = [] ∨
      2000 ≤ archivist.microcompactTriggerThreshold) := by
    simp [archivist, costlyText, searchTurn]
  have hwindow : ¬ archivist.autocompactThreshold < 2000 := by decide
  unfold MemoryManager.planMicrocompaction
  rw [if_neg hidle, if_neg hwindow]
  change [((searchCall id, 1), 0), ((.tool (searchResult length) id, 1), 1)].filterMap
    (archivist.planCandidate (searchTurn id length) 2 2) = _
  rw [List.filterMap_cons_none hcall, List.filterMap_cons_some hresult, List.filterMap_nil]

/-- The result of the search is archived and replaced. -/
theorem searchTurn_applied [HexDigest] (id : String) {length : Nat} (hlong : 600 ≤ length) :
    ∃ replacement, (archivist.applyMicrocompaction {} (searchTurn id length)
        (archivist.planMicrocompaction (searchTurn id length) 2000)).messages[1]? =
          some replacement ∧ replacement ≠ .tool (searchResult length) id := by
  obtain ⟨world, hpersist⟩ := MemoryWorkspace.persistReplayableTextArtifact_empty "memory" id
    (searchResult length)
  have hpathLength : (artifactPath "memory" id
      (contentHash (searchResult length).toUTF8)).length ≤ 223 := by
    obtain ⟨htask, _⟩ := artifactSegment_spec "memory" "task" (by decide)
      ⟨by decide, List.all_eq_true.mp (by decide)⟩
    obtain ⟨hcall, _⟩ := artifactSegment_spec id "call" (by decide)
      ⟨by decide, List.all_eq_true.mp (by decide)⟩
    obtain ⟨hdigest, _⟩ :=
      isSha256_spec (HexDigest.isSha256_contentHash (searchResult length).toUTF8)
    have hstart : artifactPathStart.length = 20 := by decide
    rw [String.length_toList] at htask hcall hdigest
    simp only [artifactPath, String.length_append, hstart, hdigest]
    have hends : "/".length + "-".length + ".txt".length = 6 := by decide
    omega
  generalize hartifact : textArtifact _ _ _ = artifact at hpersist
  have harchive : archivist.archiveToolMessage MemoryWorkspace.artifactBackend {}
      (.tool (searchResult length) id) searchCandidate =
        some ((artifact, searchResult length), world) := by
    have hnamespace : archivist.artifactNamespace = "memory" := rfl
    simp only [MemoryManager.archiveToolMessage, searchCandidate, Message.tool, hnamespace,
      searchResult_plain, Bool.false_eq_true, if_false, Option.getD_some, hpersist]
  have hsaved : archivist.countMessagesTokens [.tool (searchResult length) id] -
      archivist.countMessagesTokens [archivist.compactedMessage (.tool (searchResult length) id)
        "search" artifact (searchResult length)] ≠ 0 := by
    have hmarker := bareMarker_length (searchResult length) artifact.path "search"
    have hlength := searchResult_length length
    have hsearch : "search".length = 6 := by decide
    have hpath : artifact.path.length ≤ 223 := by
      rw [← hartifact]
      exact hpathLength
    rw [archivist_cost rfl, archivist_cost rfl]
    change (searchResult length).length - (buildCompactedToolContent (searchResult length)
      artifact.path "search" ⟨0, 0⟩).length ≠ 0
    omega
  obtain ⟨husage, htarget, _⟩ := (archivist.planMicrocompaction_spec (searchTurn id length) 2000).2
    searchCandidate (by rw [searchTurn_plan id hlong]; exact List.mem_singleton.mpr rfl)
  refine ⟨archivist.compactedMessage (.tool (searchResult length) id) "search" artifact
    (searchResult length), ?_, ?_⟩
  · have hbackend : archivist.workspaceBackend = some MemoryWorkspace.artifactBackend := rfl
    have hopen : ¬ 2000 ≤ archivist.microcompactTargetThreshold := by decide
    have hmessage : (searchTurn id length)[searchCandidate.messageIndex]? =
        some (.tool (searchResult length) id) := rfl
    have hname : searchCandidate.toolName = "search" := rfl
    simp only [MemoryManager.applyMicrocompaction, searchTurn_plan id hlong, hbackend, husage,
      htarget, List.foldl_cons, List.foldl_nil, MemoryManager.compactCandidate, hopen, hmessage,
      harchive, hname, hsaved, List.cons_ne_nil, if_false]
    rfl
  · intro hsame
    rw [hsame, Nat.sub_self] at hsaved
    exact hsaved rfl

/-- The microcompaction of a conversation with a search. -/
def searchApplied [HexDigest] (id : String) : Microcompacting MemoryWorkspace :=
  archivist.applyMicrocompaction {} (searchTurn id 600)
    (archivist.planMicrocompaction (searchTurn id 600) 2000)

/-- SHA-256 of the result of the search, and of the empty text for every other. -/
@[reducible]
def searchDigest : HexDigest where
  contentHash raw :=
    if raw.data = (searchResult 600).toUTF8.data then
      "5130b33e6b87fbf5316ed9049e98924eb110800bcbaaad8050f642fba6df37c9"
    else otherDigest.1
  isSha256_contentHash raw := by
    split_ifs
    · decide
    · exact otherDigest.2

end

end Sample

open Sample in
/-- The result of a search under a short id: its text is read back. -/
theorem microcompaction_lossless_search :
    ∃ replacement, (@searchApplied texts searchDigest "call_1").messages[1]? = some replacement ∧
      replacement ≠ .tool (searchResult 600) "call_1" ∧
      @ReadsBack searchDigest _ MemoryWorkspace.artifactBackend {}
        (@searchApplied texts searchDigest "call_1").world (.tool (searchResult 600) "call_1")
        replacement := by
  let _ := texts
  let _ := searchDigest
  obtain ⟨replacement, hreplacement, hne⟩ := searchTurn_applied "call_1" (Nat.le_refl 600)
  have hlawful : ∀ backend, archivist.workspaceBackend = some backend →
      LastingArtifacts backend := by
    rintro backend ⟨⟩
    exact MemoryWorkspace.artifactBackend_lasting
  obtain ⟨_, hchanged, _⟩ :=
    microcompaction_lossless_iff archivist hlawful {} (searchTurn "call_1" 600) 2000
  obtain ⟨backend, hbackend, hreads⟩ :=
    (hchanged 1 (.tool (searchResult 600) "call_1") replacement rfl hreplacement hne).2.mpr
      (.inr (by unfold LeavesRoom; decide))
  cases hbackend
  exact ⟨replacement, hreplacement, hne, hreads⟩

open Sample in
/-- The result of a search under an id of 60 characters: it is replaced, and its text is not read
back. -/
theorem long_call_not_read_back :
    ∃ replacement, (@searchApplied texts searchDigest longCall).messages[1]? = some replacement ∧
      replacement ≠ .tool (searchResult 600) longCall ∧
      ¬ @ReadsBack searchDigest _ MemoryWorkspace.artifactBackend {}
        (@searchApplied texts searchDigest longCall).world (.tool (searchResult 600) longCall)
        replacement := by
  let _ := texts
  let _ := searchDigest
  obtain ⟨replacement, hreplacement, hne⟩ := searchTurn_applied longCall (Nat.le_refl 600)
  refine ⟨replacement, hreplacement, hne, ?_⟩
  have hlawful : ∀ backend, archivist.workspaceBackend = some backend →
      LastingArtifacts backend := by
    rintro backend ⟨⟩
    exact MemoryWorkspace.artifactBackend_lasting
  rcases applyMicrocompaction_pass archivist hlawful {} (searchTurn longCall 600) 2000 with
    hsame | ⟨backend, last, hbackend, hpass⟩
  · rw [hsame] at hreplacement
    exact absurd (Option.some.inj hreplacement).symm hne
  · cases hbackend
    obtain ⟨⟨candidate, _, _, artifact, content, harchived, rfl⟩, _, _⟩ :=
      hpass.changed 1 (.tool (searchResult 600) longCall) replacement rfl hreplacement hne
    intro hreads
    rcases (harchived.readsBack_iff hpass.lasts rfl).mp hreads with hhad | hroom
    · cases hhad
    · revert hroom
      unfold LeavesRoom
      decide +kernel

end VvAgent
