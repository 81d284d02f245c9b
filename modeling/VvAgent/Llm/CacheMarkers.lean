import VvAgent.Llm.PromptCache
import VvAgent.Members
import VvAgent.Sample

/-!
What prompt caching changes. The contents of the plan are read back as they were, with a marker at
one block of the history; the text of the system message is that of the prompt, whatever it was
before. So the request is the same but for markers exactly where the system message is the prompt.
-/

namespace VvAgent
open Lib

/-! ### Contents -/

def VvContent.text? : VvContent → Option String
  | .text value _ => some value
  | .imageUrl _ => none

def VvContent.image? : VvContent → Option String
  | .text _ _ => none
  | .imageUrl url => some url

def VvContent.markers : VvContent → Nat
  | .text _ (some _) => 1
  | _ => 0

/-- The texts of a content as one. -/
def joinedText (content : List VvContent) : String := String.join (content.filterMap (·.text?))

def imageUrls (content : List VvContent) : List String := content.filterMap (·.image?)

def markerCount (content : List VvContent) : Nat := (content.map (·.markers)).sum

def VvContent.mark : VvContent → VvContent
  | .text value _ => .text value (some cacheControlEphemeral)
  | .imageUrl url => .imageUrl url

/-- The same texts and images, with at most one more marker. -/
structure Marked (before after : List VvContent) : Prop where
  text : joinedText after = joinedText before
  images : imageUrls after = imageUrls before
  markers : markerCount after ≤ markerCount before + 1

theorem Marked.refl (content : List VvContent) : Marked content content :=
  ⟨rfl, rfl, Nat.le_succ _⟩

theorem marked_mark (front : List VvContent) (block : VvContent) (back : List VvContent) :
    Marked (front ++ block :: back) (front ++ block.mark :: back) := by
  have htext : block.mark.text? = block.text? := by cases block <;> rfl
  have himage : block.mark.image? = block.image? := by cases block <;> rfl
  have hmarkers : block.mark.markers ≤ 1 := by
    cases block
    · exact Nat.le_refl _
    · exact Nat.zero_le _
  refine ⟨?_, ?_, ?_⟩
  · unfold joinedText
    rw [List.filterMap_append, List.filterMap_append, List.filterMap_cons, List.filterMap_cons,
      htext]
  · unfold imageUrls
    rw [List.filterMap_append, List.filterMap_append, List.filterMap_cons, List.filterMap_cons,
      himage]
  · unfold markerCount
    rw [List.map_append, List.map_append, List.sum_append, List.sum_append, List.map_cons,
      List.map_cons, List.sum_cons, List.sum_cons]
    omega

/-! ### Reading back -/

section
variable [Texts]

theorem read_contentJson (content : VvContent) :
    cacheBlockToVvLlmContent (vvLlmContentToCacheJson content) = some content := by
  cases content with
  | text text cacheControl =>
      cases cacheControl <;>
        simp [vvLlmContentToCacheJson, objectOf, insertMembers, cacheBlockToVvLlmContent,
          Json.asObject?, lookup_insertMember, Json.asStr?, asciiLowercase]
  | imageUrl url =>
      simp [vvLlmContentToCacheJson, objectOf, insertMembers, cacheBlockToVvLlmContent,
        Json.asObject?, lookup_insertMember, Json.asStr?, Json.get?, asciiLowercase]

theorem read_toolUse (toolCall : VvToolCall) :
    cacheBlockToVvLlmContent (vvLlmToolCallToAnthropicCacheJson toolCall) = none := by
  simp [vvLlmToolCallToAnthropicCacheJson, objectOf, insertMembers, cacheBlockToVvLlmContent,
    Json.asObject?, lookup_insertMember, Json.asStr?, asciiLowercase]

theorem read_contents (contents : List VvContent) :
    (contents.map vvLlmContentToCacheJson).filterMap cacheBlockToVvLlmContent = contents := by
  rw [List.filterMap_map]
  refine (List.filterMap_congr fun content _ => ?_).trans List.filterMap_some
  exact read_contentJson content

/-- A marker in the JSON is a marker in what is read of it. -/
theorem read_setCacheControl (block : Json) :
    cacheBlockToVvLlmContent (setCacheControl block) =
      (cacheBlockToVvLlmContent block).map VvContent.mark := by
  cases block with
  | obj members =>
      have hother : ∀ key, key ≠ "cache_control" →
          (insertMember "cache_control" cacheControlEphemeral members).lookup key =
            members.lookup key := fun key hkey => by rw [lookup_insertMember, if_neg hkey]
      unfold setCacheControl cacheBlockToVvLlmContent
      simp only [Json.asObject?, Option.bind_eq_bind, Option.bind_some, hother "type" (by decide),
        hother "text" (by decide), hother "image_url" (by decide), hother "content" (by decide),
        lookup_insertMember, if_pos]
      split_ifs
      · rfl
      · rw [Option.map_map]
        rfl
      · rfl
      · rfl
  | _ => rfl

omit [Texts] in
theorem isObject_setCacheControl {block : Json} (h : block.isObject = true) :
    (setCacheControl block).isObject = true := by
  cases block with
  | obj members => rfl
  | _ => exact h

/-- The JSON of a message in a plan, and the content that is read of it. -/
def Plans (planned : Json) (content : List VvContent) : Prop :=
  ∃ members blocks, planned = .obj members ∧ members.lookup "content" = some (.arr blocks) ∧
    (∀ block ∈ blocks, block.isObject = true) ∧ blocks.filterMap cacheBlockToVvLlmContent = content

omit [Texts] in
theorem isObject_contentJson (content : VvContent) :
    (vvLlmContentToCacheJson content).isObject = true := by
  cases content <;> rfl

theorem plans_message (message : VvMessage) :
    Plans (vvLlmMessageToCacheJson message) message.content := by
  refine ⟨_, message.content.map vvLlmContentToCacheJson ++
    message.toolCalls.map vvLlmToolCallToAnthropicCacheJson, rfl, ?_, ?_, ?_⟩
  · change (insertMembers (insertMember "content" _ (insertMember "role" _ [])) _).lookup
      "content" = _
    rw [lookup_insertMembers_other _ _ (by simp), lookup_insertMember, if_pos rfl]
  · intro block hblock
    rcases List.mem_append.mp hblock with hcontent | htoolUse
    · obtain ⟨content, _, rfl⟩ := List.mem_map.mp hcontent
      exact isObject_contentJson content
    · obtain ⟨toolCall, _, rfl⟩ := List.mem_map.mp htoolUse
      rfl
  · have htoolUse : ∀ toolCalls : List VvToolCall,
        (toolCalls.map vvLlmToolCallToAnthropicCacheJson).filterMap cacheBlockToVvLlmContent =
          [] := by
      intro toolCalls
      apply List.filterMap_eq_nil_iff.mpr
      intro block hblock
      obtain ⟨toolCall, _, rfl⟩ := List.mem_map.mp hblock
      exact read_toolUse toolCall
    rw [List.filterMap_append, read_contents, htoolUse, List.append_nil]

omit [Texts] in
/-- The blocks of a plan are not normalized any further. -/
theorem normalizedContentBlocks_objects {blocks : List Json}
    (h : ∀ block ∈ blocks, block.isObject = true) :
    normalizedContentBlocks (some (.arr blocks)) = blocks := by
  unfold normalizedContentBlocks
  induction blocks with
  | nil => rfl
  | cons block blocks ih =>
      obtain ⟨hblock, hrest⟩ := List.forall_mem_cons.mp h
      cases block with
      | obj members => exact congrArg (Json.obj members :: ·) (ih hrest)
      | _ => cases hblock

omit [Texts] in
theorem isObject_of_normalized {content : Option Json} {block : Json}
    (h : block ∈ normalizedContentBlocks content) : block.isObject = true := by
  unfold normalizedContentBlocks at h
  split at h
  · obtain ⟨item, _, hitem⟩ := List.mem_filterMap.mp h
    cases item with
    | obj members =>
        obtain rfl := Option.some.inj hitem
        rfl
    | str text =>
        obtain rfl := Option.some.inj hitem
        rfl
    | _ => cases hitem
  · obtain rfl := List.mem_singleton.mp h
    rfl
  · cases h

theorem marked_modify (blocks : List Json) (index : Nat) :
    Marked (blocks.filterMap cacheBlockToVvLlmContent)
      ((blocks.modify index setCacheControl).filterMap cacheBlockToVvLlmContent) := by
  by_cases hindex : index < blocks.length
  · have hsplit : blocks = blocks.take index ++ blocks[index] :: blocks.drop (index + 1) := by
      rw [← List.drop_eq_getElem_cons hindex, List.take_append_drop]
    rw [List.modify_eq_take_cons_drop hindex]
    conv_lhs => rw [hsplit]
    rw [List.filterMap_append, List.filterMap_append, List.filterMap_cons, List.filterMap_cons,
      read_setCacheControl]
    cases cacheBlockToVvLlmContent blocks[index] with
    | none => exact Marked.refl _
    | some content => exact marked_mark _ content _
  · rw [List.modify_eq_self (Nat.le_of_not_lt hindex)]
    exact Marked.refl _

omit [Texts] in
theorem isObject_modify {blocks : List Json} (h : ∀ block ∈ blocks, block.isObject = true)
    (index : Nat) : ∀ block ∈ blocks.modify index setCacheControl, block.isObject = true := by
  intro block hblock
  obtain ⟨place, hplace⟩ := List.mem_iff_getElem?.mp hblock
  rw [List.getElem?_modify] at hplace
  obtain ⟨original, horiginal, heq⟩ := Option.map_eq_some_iff.mp hplace
  have hobject := h original (List.mem_of_getElem? horiginal)
  rw [← heq]
  split_ifs
  · exact isObject_setCacheControl hobject
  · exact hobject

/-- A block of a plan is marked. -/
theorem Plans.mark {members : JsonObject} {content : List VvContent}
    (h : Plans (.obj members) content) (blockIndex : Nat) :
    ∃ marked, Marked content marked ∧
      Plans (.obj (insertMember "content" (.arr ((normalizedContentBlocks
        (members.lookup "content")).modify blockIndex setCacheControl)) members)) marked := by
  obtain ⟨own, blocks, hown, hlookup, hobjects, rfl⟩ := h
  obtain rfl := Json.obj.inj hown
  rw [hlookup, normalizedContentBlocks_objects hobjects]
  refine ⟨_, marked_modify blocks blockIndex, _, _, rfl, ?_, isObject_modify hobjects blockIndex,
    rfl⟩
  rw [lookup_insertMember, if_pos rfl]

/-! ### The stages of a plan -/

/-- The contents are the same, but for one that may have one more marker. -/
def MarkedOnce (before after : List (List VvContent)) : Prop :=
  after = before ∨ ∃ index content marked, before[index]? = some content ∧
    Marked content marked ∧ after = before.set index marked

omit [Texts] in
theorem forall₂_set_set {α β : Type} {relates : α → β → Prop} {as : List α} {bs : List β}
    (h : List.Forall₂ relates as bs) {a : α} {b : β} (hab : relates a b) (index : Nat) :
    List.Forall₂ relates (as.set index a) (bs.set index b) := by
  induction h generalizing index with
  | nil => exact List.Forall₂.nil
  | cons hhead htail ih =>
      cases index with
      | zero => exact List.Forall₂.cons hab htail
      | succ index => exact List.Forall₂.cons hhead (ih index)

omit [Texts] in
theorem forall₂_getElem? {α β : Type} {relates : α → β → Prop} {as : List α} {bs : List β}
    (h : List.Forall₂ relates as bs) {index : Nat} {a : α} (ha : as[index]? = some a) :
    ∃ b, bs[index]? = some b ∧ relates a b := by
  induction h generalizing index with
  | nil => exact absurd ha (by simp)
  | cons hhead htail ih =>
      cases index with
      | zero =>
          obtain rfl := Option.some.inj ha
          exact ⟨_, rfl, hhead⟩
      | succ index => exact ih ha

theorem applyHistoryCacheBreakpoint_spec {planned : List Json} {contents : List (List VvContent)}
    (h : List.Forall₂ Plans planned contents) (charCount tokenThreshold budget : Nat) :
    ∃ after, List.Forall₂ Plans
        (applyHistoryCacheBreakpoint planned charCount tokenThreshold budget) after ∧
      MarkedOnce contents after := by
  unfold applyHistoryCacheBreakpoint
  split_ifs
  · exact ⟨contents, h, .inl rfl⟩
  · cases findHistoryBreakpoint planned with
    | none => exact ⟨contents, h, .inl rfl⟩
    | some found =>
        obtain ⟨messageIndex, blockIndex⟩ := found
        dsimp only
        split_ifs
        · exact ⟨contents, h, .inl rfl⟩
        · cases hmembers : planned[messageIndex]? >>= Json.asObject? with
          | none => exact ⟨contents, h, .inl rfl⟩
          | some members =>
              dsimp only
              split_ifs
              · obtain ⟨message, hmessage, hobject⟩ := Option.bind_eq_some_iff.mp hmembers
                obtain rfl := Json.asObject?_eq_some hobject
                obtain ⟨content, hcontent, hplans⟩ := forall₂_getElem? h hmessage
                obtain ⟨marked, hmarked, hplanned⟩ := hplans.mark blockIndex
                exact ⟨_, forall₂_set_set h hplanned messageIndex,
                  .inr ⟨messageIndex, content, marked, hcontent, hmarked, rfl⟩⟩
              · exact ⟨contents, h, .inl rfl⟩

/-- The prompt as the content of a message. -/
structure PromptContent (bundle : PromptBundle) (content : List VvContent) : Prop where
  text : joinedText content = bundle.flatten
  images : imageUrls content = []
  markers : markerCount content ≤ 1

omit [Texts] in
theorem join_separated (separator : String) (texts : List String) :
    String.join (texts.mapIdx fun index text =>
        text ++ if index + 1 = texts.length then "" else separator) =
      separator.intercalate texts := by
  induction texts with
  | nil => rfl
  | cons text rest ih =>
      cases rest with
      | nil => simp
      | cons next rest =>
          have hshift : (fun (index : Nat) (text' : String) => text' ++
              if index + 1 + 1 = (text :: next :: rest).length then "" else separator) =
              fun index text' => text' ++
                if index + 1 = (next :: rest).length then "" else separator := by
            funext index text'
            simp
          have hfirst : ¬ 0 + 1 = (text :: next :: rest).length := by simp
          rw [List.mapIdx_cons, String.join_cons, if_neg hfirst, hshift, ih,
            String.intercalate_cons_cons]

/-- The sections of a prompt as the content of a message. -/
def promptContent (bundle : PromptBundle) : List VvContent :=
  ((bundle.sections.map (·.text)).mapIdx fun index text =>
    text ++ if index + 1 = (bundle.sections.map (·.text)).length then "" else "\n\n").map
      (.text · none)

omit [Texts] in
theorem systemBlocks_eq (bundle : PromptBundle) :
    systemBlocks bundle = (promptContent bundle).map vvLlmContentToCacheJson := by
  apply List.ext_getElem?
  intro place
  unfold systemBlocks promptContent
  rw [List.getElem?_mapIdx, List.getElem?_map, List.getElem?_map, List.getElem?_mapIdx,
    List.getElem?_map, Option.map_map, Option.map_map, Option.map_map, List.length_map]
  rfl

omit [Texts] in
theorem promptContent_spec (bundle : PromptBundle) :
    joinedText (promptContent bundle) = bundle.flatten ∧ imageUrls (promptContent bundle) = [] ∧
      markerCount (promptContent bundle) = 0 := by
  unfold joinedText imageUrls markerCount promptContent
  generalize htexts : ((bundle.sections.map (·.text)).mapIdx fun index text =>
    text ++ if index + 1 = (bundle.sections.map (·.text)).length then "" else "\n\n") = texts
  refine ⟨?_, ?_, ?_⟩
  · rw [List.filterMap_map]
    have hsome : (VvContent.text? ∘ fun text => VvContent.text text none) = some := rfl
    rw [hsome, List.filterMap_some, ← htexts, join_separated]
    rfl
  · rw [List.filterMap_map]
    have hnone : (VvContent.image? ∘ fun text => VvContent.text text none) = fun _ => none := rfl
    rw [hnone, List.filterMap_none]
  · rw [List.map_map]
    have hzero : (VvContent.markers ∘ fun text => VvContent.text text none) = fun _ => 0 := rfl
    rw [hzero, List.map_const', List.sum_replicate_nat, Nat.mul_zero]

/-- The first message of the system. -/
def systemIndex? (messages : List VvMessage) : Option Nat :=
  messages.findIdx? fun message => message.role = .system

theorem isSystemMessage_json (message : VvMessage) :
    isSystemMessage (vvLlmMessageToCacheJson message) = decide (message.role = .system) := by
  have hrole : (vvLlmMessageToCacheJson message).get? "role" = some (.str message.role.asStr) := by
    change (insertMembers (insertMember "role" (.str message.role.asStr) []) _).lookup "role" = _
    rw [lookup_insertMembers_other _ _ (by simp), lookup_insertMember, if_pos rfl]
  rw [isSystemMessage, hrole]
  cases message.role <;> rfl

/-- The first stage puts the prompt in place of the content of the first message of the system. -/
theorem applySystemCacheBreakpoint_spec (messages : List VvMessage) (bundle : PromptBundle)
    {budget : Nat} (hbudget : budget ≠ 0) :
    ∃ contents, List.Forall₂ Plans (applySystemCacheBreakpoint
        (messages.map vvLlmMessageToCacheJson) bundle budget).planned contents ∧
      ((systemIndex? messages = none ∨ bundle.sections = []) ∧ contents = messages.map (·.content) ∨
        ∃ index prompt, systemIndex? messages = some index ∧ bundle.sections ≠ [] ∧
          PromptContent bundle prompt ∧ contents = (messages.map (·.content)).set index prompt) := by
  have hplans : List.Forall₂ Plans (messages.map vvLlmMessageToCacheJson)
      (messages.map (·.content)) := by
    rw [List.forall₂_map_left_iff, List.forall₂_map_right_iff]
    exact List.forall₂_same.mpr fun message _ => plans_message message
  have hfind : (messages.map vvLlmMessageToCacheJson).findIdx? isSystemMessage =
      systemIndex? messages := by
    rw [List.findIdx?_map]
    unfold systemIndex?
    congr 1
    funext message
    exact isSystemMessage_json message
  unfold applySystemCacheBreakpoint
  dsimp only
  by_cases hnone : messages = []
  · subst hnone
    exact ⟨[], List.Forall₂.nil, .inl ⟨.inl rfl, rfl⟩⟩
  · rw [if_neg (by simp [hnone, hbudget]), hfind]
    cases hindex : systemIndex? messages with
    | none => exact ⟨_, hplans, .inl ⟨.inl rfl, rfl⟩⟩
    | some index =>
        have hbound : index < messages.length := by
          obtain ⟨hlt, _⟩ := List.findIdx?_eq_some_iff_getElem.mp hindex
          exact hlt
        have hget : (messages.map vvLlmMessageToCacheJson)[index]? =
            some (vvLlmMessageToCacheJson messages[index]) := by
          rw [List.getElem?_map, List.getElem?_eq_getElem hbound]
          rfl
        obtain ⟨members, hmembers⟩ : ∃ members,
            vvLlmMessageToCacheJson messages[index] = .obj members := ⟨_, rfl⟩
        dsimp only
        rw [hget, hmembers]
        dsimp only [Option.bind_eq_bind, Option.bind_some, Json.asObject?]
        by_cases hsections : bundle.sections = []
        · rw [if_pos (by simp [systemBlocks, hsections])]
          exact ⟨_, hplans, .inl ⟨.inr hsections, rfl⟩⟩
        · have hblocks : (systemBlocks bundle).isEmpty = false := by
            simpa [systemBlocks] using hsections
          rw [if_neg (by rw [hblocks]; exact Bool.false_ne_true)]
          dsimp only
          generalize hmarked : (if (bundle.sections.takeWhile (·.stable)).length = 0 then
            systemBlocks bundle else (systemBlocks bundle).modify
              ((bundle.sections.takeWhile (·.stable)).length - 1) setCacheControl) = marked
          obtain ⟨htext, himages, hmarkers⟩ := promptContent_spec bundle
          have hobjects : ∀ block ∈ systemBlocks bundle, block.isObject = true := by
            rw [systemBlocks_eq]
            intro block hblock
            obtain ⟨content, _, rfl⟩ := List.mem_map.mp hblock
            exact isObject_contentJson content
          have hread : (systemBlocks bundle).filterMap cacheBlockToVvLlmContent =
              promptContent bundle := by
            rw [systemBlocks_eq, read_contents]
          have hprompt : Marked (promptContent bundle)
              (marked.filterMap cacheBlockToVvLlmContent) ∧
              ∀ block ∈ marked, block.isObject = true := by
            rw [← hmarked]
            split_ifs
            · rw [hread]
              exact ⟨Marked.refl _, hobjects⟩
            · refine ⟨?_, isObject_modify hobjects _⟩
              rw [← hread]
              exact marked_modify _ _
          obtain ⟨hmark, hmarkedObjects⟩ := hprompt
          have hplanned : Plans (.obj (insertMember "content" (.arr marked) members))
              (marked.filterMap cacheBlockToVvLlmContent) :=
            ⟨_, marked, rfl, by rw [lookup_insertMember, if_pos rfl], hmarkedObjects, rfl⟩
          refine ⟨_, forall₂_set_set hplans hplanned index, .inr ⟨index, _, rfl, hsections, ?_, rfl⟩⟩
          refine ⟨hmark.text.trans htext, hmark.images.trans himages, ?_⟩
          have hcount := hmark.markers
          omega

/-! ### The plan read back -/

theorem applyPlannedMessageContent_eq {messages : List VvMessage} {planned : List Json}
    {contents : List (List VvContent)} (h : List.Forall₂ Plans planned contents)
    (hlength : messages.length = planned.length) :
    applyPlannedMessageContent messages planned =
      List.zipWith (fun message content => { message with content }) messages contents := by
  induction h generalizing messages with
  | nil =>
      obtain rfl := List.length_eq_zero_iff.mp hlength
      rfl
  | cons hplans _ ih =>
      cases messages with
      | nil => cases hlength
      | cons message messages =>
          obtain ⟨members, blocks, rfl, hlookup, _, hread⟩ := hplans
          have hget : (Json.obj members).get? "content" = some (.arr blocks) := hlookup
          rw [applyPlannedMessageContent, List.zipWith_cons_cons, hget,
            ih (Nat.succ.inj hlength), ← hread]
          rfl

omit [Texts] in
theorem toolJson_cacheControl (tool : ChatTool) :
    (vvLlmToolToCacheJson tool).get? "cache_control" = tool.cacheControl := by
  unfold vvLlmToolToCacheJson objectOf
  cases tool.cacheControl <;> simp [Json.get?, insertMembers, lookup_insertMember]

omit [Texts] in
theorem applyPlannedToolCacheControl_append (front : List ChatTool) (tools : List ChatTool)
    (planned : List Json) :
    applyPlannedToolCacheControl (front ++ tools)
        (front.map vvLlmToolToCacheJson ++ planned) =
      front ++ applyPlannedToolCacheControl tools planned := by
  induction front with
  | nil => rfl
  | cons tool front ih =>
      rw [List.cons_append, List.map_cons, List.cons_append, applyPlannedToolCacheControl, ih,
        toolJson_cacheControl]
      obtain ⟨name, description, parameters, cacheControl⟩ := tool
      cases cacheControl <;> rfl

/-- The tools are the same, but for the last one that may have a marker. -/
theorem applyToolCacheBreakpoint_spec (tools : List ChatTool)
    (charCount tokenThreshold budget : Nat) :
    applyPlannedToolCacheControl tools (applyToolCacheBreakpoint (tools.map vvLlmToolToCacheJson)
        charCount tokenThreshold budget).planned = tools ∨
      ∃ front last, tools = front ++ [last] ∧
        applyPlannedToolCacheControl tools (applyToolCacheBreakpoint
            (tools.map vvLlmToolToCacheJson) charCount tokenThreshold budget).planned =
          front ++ [{ last with cacheControl := some cacheControlEphemeral }] := by
  have hsame : applyPlannedToolCacheControl tools (tools.map vvLlmToolToCacheJson) = tools := by
    have h := applyPlannedToolCacheControl_append tools [] []
    rw [List.append_nil, List.append_nil] at h
    rw [h]
    exact List.append_nil tools
  unfold applyToolCacheBreakpoint
  dsimp only
  split_ifs
  · exact .inl hsame
  · exact .inl hsame
  · cases tools using List.reverseRecOn with
    | nil => exact .inl rfl
    | append_singleton front last =>
        have hlast : ((front ++ [last]).map vvLlmToolToCacheJson).getLast? =
            some (vvLlmToolToCacheJson last) := by
          rw [List.map_append, List.map_singleton, List.getLast?_concat]
        have hfront : ((front ++ [last]).map vvLlmToolToCacheJson).dropLast =
            front.map vvLlmToolToCacheJson := by
          rw [List.map_append, List.map_singleton, List.dropLast_concat]
        obtain ⟨members, hmembers⟩ : ∃ members, vvLlmToolToCacheJson last = .obj members :=
          ⟨_, rfl⟩
        refine .inr ⟨front, last, rfl, ?_⟩
        rw [hlast, hfront, hmembers]
        dsimp only [Option.bind_eq_bind, Option.bind_some, Json.asObject?]
        rw [applyPlannedToolCacheControl_append, applyPlannedToolCacheControl]
        have hcontrol : (Json.obj (insertMember "cache_control" cacheControlEphemeral members)).get?
            "cache_control" = some cacheControlEphemeral := by
          rw [Json.get?, lookup_insertMember, if_pos rfl]
        rw [hcontrol]
        rfl

end

/-! ### Only markers change -/

/-- A message but for its markers. -/
structure SameMessage (before after : VvMessage) : Prop where
  role : after.role = before.role
  name : after.name = before.name
  toolCallId : after.toolCallId = before.toolCallId
  toolCalls : after.toolCalls = before.toolCalls
  reasoningContent : after.reasoningContent = before.reasoningContent
  text : joinedText after.content = joinedText before.content
  images : imageUrls after.content = imageUrls before.content

structure SameTool (before after : ChatTool) : Prop where
  name : after.name = before.name
  description : after.description = before.description
  parameters : after.parameters = before.parameters

def ChatRequest.markerCount (request : ChatRequest) : Nat :=
  (request.messages.map fun message => VvAgent.markerCount message.content).sum +
    (request.tools.map fun tool => if tool.cacheControl.isSome then 1 else 0).sum

/-- A request but for its markers, of which there are at most four more. -/
structure OnlyMarkers (before after : ChatRequest) : Prop where
  messages : List.Forall₂ SameMessage before.messages after.messages
  tools : List.Forall₂ SameTool before.tools after.tools
  extraBody : after.extraBody = before.extraBody
  markers : after.markerCount ≤ before.markerCount + 4

theorem SameTool.refl (tool : ChatTool) : SameTool tool tool := ⟨rfl, rfl, rfl⟩

/-- Contents with the same texts and images. -/
def SameContent (before after : List VvContent) : Prop :=
  joinedText after = joinedText before ∧ imageUrls after = imageUrls before

theorem sameMessages_iff {messages : List VvMessage} {contents : List (List VvContent)}
    (hlength : messages.length = contents.length) :
    List.Forall₂ SameMessage messages
        (List.zipWith (fun message content => { message with content }) messages contents) ↔
      List.Forall₂ SameContent (messages.map (·.content)) contents := by
  induction messages generalizing contents with
  | nil =>
      obtain rfl := List.length_eq_zero_iff.mp hlength.symm
      exact ⟨fun _ => List.Forall₂.nil, fun _ => List.Forall₂.nil⟩
  | cons message messages ih =>
      cases contents with
      | nil => cases hlength
      | cons content contents =>
          rw [List.zipWith_cons_cons, List.map_cons, List.forall₂_cons, List.forall₂_cons,
            ih (Nat.succ.inj hlength)]
          apply and_congr_left'
          exact ⟨fun h => ⟨h.text, h.images⟩, fun h => ⟨rfl, rfl, rfl, rfl, rfl, h.1, h.2⟩⟩

theorem sameContent_set {before : List (List VvContent)} {index : Nat}
    {content after : List VvContent} (hget : before[index]? = some content) :
    List.Forall₂ SameContent before (before.set index after) ↔ SameContent content after := by
  induction before generalizing index with
  | nil => cases hget
  | cons first before ih =>
      cases index with
      | zero =>
          obtain rfl := Option.some.inj hget
          rw [List.set_cons_zero, List.forall₂_cons, and_iff_left]
          exact List.forall₂_same.mpr fun _ _ => ⟨rfl, rfl⟩
      | succ index =>
          rw [List.set_cons_succ, List.forall₂_cons, and_iff_right ⟨rfl, rfl⟩]
          exact ih hget

theorem MarkedOnce.sameContent {before after : List (List VvContent)} (h : MarkedOnce before after) :
    List.Forall₂ SameContent before after := by
  rcases h with rfl | ⟨index, content, marked, hget, hmarked, rfl⟩
  · exact List.forall₂_same.mpr fun _ _ => ⟨rfl, rfl⟩
  · exact (sameContent_set hget).mpr ⟨hmarked.text, hmarked.images⟩

theorem SameContent.trans {first second third : List VvContent} (h : SameContent first second)
    (hnext : SameContent second third) : SameContent first third :=
  ⟨hnext.1.trans h.1, hnext.2.trans h.2⟩

theorem forall₂_sameContent_trans {first second third : List (List VvContent)}
    (h : List.Forall₂ SameContent first second) (hnext : List.Forall₂ SameContent second third) :
    List.Forall₂ SameContent first third := by
  induction h generalizing third with
  | nil => exact hnext
  | cons hhead _ ih =>
      cases hnext with
      | cons hthird hrest => exact List.Forall₂.cons (hhead.trans hthird) (ih hrest)

theorem SameContent.symm {first second : List VvContent} (h : SameContent first second) :
    SameContent second first :=
  ⟨h.1.symm, h.2.symm⟩

theorem forall₂_sameContent_symm {first second : List (List VvContent)}
    (h : List.Forall₂ SameContent first second) : List.Forall₂ SameContent second first := by
  induction h with
  | nil => exact List.Forall₂.nil
  | cons hhead _ ih => exact List.Forall₂.cons hhead.symm ih

theorem zipWith_markerCount {messages : List VvMessage} {contents : List (List VvContent)}
    (hlength : messages.length = contents.length) :
    ((List.zipWith (fun message content => { message with content }) messages contents).map
      fun message => markerCount message.content) = contents.map markerCount := by
  induction messages generalizing contents with
  | nil =>
      obtain rfl := List.length_eq_zero_iff.mp hlength.symm
      rfl
  | cons message messages ih =>
      cases contents with
      | nil => cases hlength
      | cons content contents =>
          rw [List.zipWith_cons_cons, List.map_cons, List.map_cons, ih (Nat.succ.inj hlength)]

theorem sum_set_le {contents : List (List VvContent)} {index : Nat}
    {content after : List VvContent} {more : Nat} (hget : contents[index]? = some content)
    (h : markerCount after ≤ markerCount content + more) :
    ((contents.set index after).map markerCount).sum ≤ (contents.map markerCount).sum + more := by
  induction contents generalizing index with
  | nil => cases hget
  | cons first contents ih =>
      cases index with
      | zero =>
          obtain rfl := Option.some.inj hget
          rw [List.set_cons_zero, List.map_cons, List.map_cons, List.sum_cons, List.sum_cons]
          omega
      | succ index =>
          have hrest := ih hget
          rw [List.set_cons_succ, List.map_cons, List.map_cons, List.sum_cons, List.sum_cons]
          omega

theorem MarkedOnce.markers {before after : List (List VvContent)} (h : MarkedOnce before after) :
    (after.map markerCount).sum ≤ (before.map markerCount).sum + 1 := by
  rcases h with rfl | ⟨index, content, marked, hget, hmarked, rfl⟩
  · exact Nat.le_succ _
  · exact sum_set_le hget hmarked.markers

/-! ### No marker on a thinking block -/

section
variable [Texts]

theorem blockType_setCacheControl (block : Json) :
    blockType (setCacheControl block) = blockType block := by
  cases block with
  | obj members =>
      have hget : (setCacheControl (.obj members)).get? "type" = (Json.obj members).get? "type" := by
        rw [setCacheControl, Json.get?, Json.get?, lookup_insertMember, if_neg (by decide)]
      unfold blockType
      rw [hget]
  | _ => rfl

/-- A block that is found, or fallen back to, is not a thinking one. -/
theorem findBlock_not_thinking {messageIndex : Nat} {blocks : List (Json × Nat)}
    {fallback : Option (Nat × Nat)} :
    (∀ blockIndex, (findBlock messageIndex blocks fallback).1 = some blockIndex →
      ∃ block, (block, blockIndex) ∈ blocks ∧ isThinkingBlockType (blockType block) = false) ∧
    ∀ found, (findBlock messageIndex blocks fallback).2 = some found → fallback = some found ∨
      found.1 = messageIndex ∧ ∃ block, (block, found.2) ∈ blocks ∧
        isThinkingBlockType (blockType block) = false := by
  induction blocks generalizing fallback with
  | nil => exact ⟨(fun _ h => by cases h), fun found h => .inl h⟩
  | cons entry rest ih =>
      obtain ⟨block, blockIndex⟩ := entry
      have hskip : (∀ index, (findBlock messageIndex rest fallback).1 = some index →
          ∃ other, (other, index) ∈ (block, blockIndex) :: rest ∧
            isThinkingBlockType (blockType other) = false) ∧
          ∀ found, (findBlock messageIndex rest fallback).2 = some found → fallback = some found ∨
            found.1 = messageIndex ∧ ∃ other, (other, found.2) ∈ (block, blockIndex) :: rest ∧
              isThinkingBlockType (blockType other) = false := by
        refine ⟨fun index h => ?_, fun found h => ?_⟩
        · obtain ⟨other, hmem, hother⟩ := ih.1 index h
          exact ⟨other, List.mem_cons_of_mem _ hmem, hother⟩
        · refine (ih.2 found h).imp_right fun ⟨hindex, other, hmem, hother⟩ =>
            ⟨hindex, other, List.mem_cons_of_mem _ hmem, hother⟩
      rw [findBlock]
      split_ifs with hthinking hmarked hempty hpriority
      · exact hskip
      · exact hskip
      · exact hskip
      · refine ⟨fun index h => ?_, fun found h => .inl h⟩
        obtain rfl := Option.some.inj h
        exact ⟨block, List.mem_cons_self, Bool.eq_false_iff.mpr hthinking⟩
      · refine ⟨fun index h => ?_, fun found h => ?_⟩
        · obtain ⟨other, hmem, hother⟩ := ih.1 index h
          exact ⟨other, List.mem_cons_of_mem _ hmem, hother⟩
        · rcases ih.2 found h with hfallback | ⟨hindex, other, hmem, hother⟩
          · cases fallback with
            | some before => exact .inl hfallback
            | none =>
                obtain rfl := Option.some.inj hfallback
                exact .inr ⟨rfl, block, List.mem_cons_self, Bool.eq_false_iff.mpr hthinking⟩
          · exact .inr ⟨hindex, other, List.mem_cons_of_mem _ hmem, hother⟩

theorem findHistoryBlock_not_thinking {messages : List (Json × Nat)}
    {fallback : Option (Nat × Nat)} {found : Nat × Nat}
    (h : findHistoryBlock messages fallback = some found) :
    fallback = some found ∨ ∃ message, (message, found.1) ∈ messages ∧
      ∃ block, (contentBlocks message)[found.2]? = some block ∧
        isThinkingBlockType (blockType block) = false := by
  induction messages generalizing fallback with
  | nil => exact .inl h
  | cons entry rest ih =>
      obtain ⟨message, messageIndex⟩ := entry
      have hlater : ∀ {fallback}, findHistoryBlock rest fallback = some found →
          fallback = some found ∨ ∃ other, (other, found.1) ∈ (message, messageIndex) :: rest ∧
            ∃ block, (contentBlocks other)[found.2]? = some block ∧
              isThinkingBlockType (blockType block) = false := fun hrest =>
        (ih hrest).imp_right fun ⟨other, hmem, hother⟩ =>
          ⟨other, List.mem_cons_of_mem _ hmem, hother⟩
      have hplace : ∀ {block : Json} {blockIndex : Nat},
          (block, blockIndex) ∈ (contentBlocks message).zipIdx.reverse →
            (contentBlocks message)[blockIndex]? = some block := fun hmem =>
        List.mem_zipIdx_iff_getElem?.mp (List.mem_reverse.mp hmem)
      rw [findHistoryBlock] at h
      split_ifs at h with hsystem
      · exact hlater h
      · obtain ⟨hbest, hfallback⟩ := @findBlock_not_thinking _ messageIndex
          (contentBlocks message).zipIdx.reverse fallback
        generalize findBlock messageIndex (contentBlocks message).zipIdx.reverse fallback = result
          at h hbest hfallback
        obtain ⟨best, later⟩ := result
        cases best with
        | some blockIndex =>
            obtain rfl := Option.some.inj h
            obtain ⟨block, hmem, hblock⟩ := hbest blockIndex rfl
            exact .inr ⟨message, List.mem_cons_self, block, hplace hmem, hblock⟩
        | none =>
            rcases hlater h with hfound | hfound
            · rcases hfallback found hfound with hbefore | ⟨hindex, block, hmem, hblock⟩
              · exact .inl hbefore
              · exact .inr ⟨message, by rw [hindex]; exact List.mem_cons_self, block, hplace hmem,
                  hblock⟩
            · exact .inr hfound

/-- Every thinking block of the messages is one of the others. -/
def KeepsThinking (messages after : List Json) : Prop :=
  ∀ message ∈ after, ∀ block ∈ contentBlocks message,
    isThinkingBlockType (blockType block) = true →
      ∃ original ∈ messages, block ∈ contentBlocks original

theorem KeepsThinking.refl (messages : List Json) : KeepsThinking messages messages :=
  fun message hmessage _ hblock _ => ⟨message, hmessage, hblock⟩

theorem keepsThinking_set {messages : List Json} {members : JsonObject} {blocks : List Json}
    (hobjects : ∀ block ∈ blocks, block.isObject = true)
    (hblocks : ∀ block ∈ blocks, isThinkingBlockType (blockType block) = true →
      ∃ original ∈ messages, block ∈ contentBlocks original) (index : Nat) :
    KeepsThinking messages
      (messages.set index (.obj (insertMember "content" (.arr blocks) members))) := by
  intro message hmessage block hblock hthinking
  rcases List.mem_or_eq_of_mem_set hmessage with hmessage | rfl
  · exact ⟨message, hmessage, hblock⟩
  · have hcontent : contentBlocks (.obj (insertMember "content" (.arr blocks) members)) = blocks := by
      rw [contentBlocks, Json.get?, lookup_insertMember, if_pos rfl,
        normalizedContentBlocks_objects hobjects]
    rw [hcontent] at hblock
    exact hblocks block hblock hthinking

theorem blockType_systemBlocks {bundle : PromptBundle} {block : Json}
    (h : block ∈ systemBlocks bundle) : block.isObject = true ∧ blockType block = "text" := by
  rw [systemBlocks_eq] at h
  obtain ⟨content, hcontent, rfl⟩ := List.mem_map.mp h
  obtain ⟨text, _, rfl⟩ := List.mem_map.mp hcontent
  refine ⟨rfl, ?_⟩
  have hget : (vvLlmContentToCacheJson (.text text none)).get? "type" = some (.str "text") := by
    simp [vvLlmContentToCacheJson, objectOf, insertMembers, Json.get?, lookup_insertMember]
  unfold blockType
  rw [hget]
  simp [valueToString, asciiLowercase, trimWhitespace, isWhitespace]

omit [Texts] in
/-- What a marked block is, apart from its marker. -/
theorem mem_modify_setCacheControl {blocks : List Json} {index : Nat} {block : Json}
    (h : block ∈ blocks.modify index setCacheControl) :
    block ∈ blocks ∨ ∃ original, blocks[index]? = some original ∧
      block = setCacheControl original := by
  obtain ⟨place, hplace⟩ := List.mem_iff_getElem?.mp h
  rw [List.getElem?_modify] at hplace
  obtain ⟨original, horiginal, heq⟩ := Option.map_eq_some_iff.mp hplace
  split_ifs at heq with hindex
  · exact .inr ⟨original, hindex ▸ horiginal, heq.symm⟩
  · exact .inl (heq ▸ List.mem_of_getElem? horiginal)

theorem applySystemCacheBreakpoint_thinking (messages : List Json) (bundle : PromptBundle)
    (budget : Nat) :
    KeepsThinking messages (applySystemCacheBreakpoint messages bundle budget).planned := by
  unfold applySystemCacheBreakpoint
  dsimp only
  by_cases hnothing : (messages.isEmpty || budget = 0) = true
  · rw [if_pos hnothing]
    exact KeepsThinking.refl messages
  · rw [if_neg hnothing]
    cases messages.findIdx? isSystemMessage with
    | none => exact KeepsThinking.refl messages
    | some index =>
        dsimp only
        cases messages[index]? >>= Json.asObject? with
        | none => exact KeepsThinking.refl messages
        | some members =>
            dsimp only
            split_ifs
            · exact KeepsThinking.refl messages
            · apply keepsThinking_set
              · exact fun block hblock => (blockType_systemBlocks hblock).1
              · intro block hblock hthinking
                rw [(blockType_systemBlocks hblock).2] at hthinking
                exact absurd hthinking (by decide)
            · apply keepsThinking_set
              · exact isObject_modify (fun block hblock => (blockType_systemBlocks hblock).1) _
              · intro block hblock hthinking
                have htype : blockType block = "text" := by
                  rcases mem_modify_setCacheControl hblock with hmem | ⟨original, hget, rfl⟩
                  · exact (blockType_systemBlocks hmem).2
                  · rw [blockType_setCacheControl]
                    exact (blockType_systemBlocks (List.mem_of_getElem? hget)).2
                rw [htype] at hthinking
                exact absurd hthinking (by decide)

theorem applyHistoryCacheBreakpoint_thinking (messages : List Json)
    (charCount tokenThreshold budget : Nat) :
    KeepsThinking messages
      (applyHistoryCacheBreakpoint messages charCount tokenThreshold budget) := by
  unfold applyHistoryCacheBreakpoint
  split_ifs
  · exact KeepsThinking.refl messages
  · cases hfound : findHistoryBreakpoint messages with
    | none => exact KeepsThinking.refl messages
    | some found =>
        obtain ⟨messageIndex, blockIndex⟩ := found
        dsimp only
        split_ifs
        · exact KeepsThinking.refl messages
        · cases hmembers : messages[messageIndex]? >>= Json.asObject? with
          | none => exact KeepsThinking.refl messages
          | some members =>
              dsimp only
              split_ifs
              · obtain ⟨message, hmessage, hobject⟩ := Option.bind_eq_some_iff.mp hmembers
                obtain rfl := Json.asObject?_eq_some hobject
                have hmem : Json.obj members ∈ messages := List.mem_of_getElem? hmessage
                obtain hnone | ⟨other, hother, block, hblock, htype⟩ :=
                  findHistoryBlock_not_thinking hfound
                · cases hnone
                have hsame : other = .obj members := by
                  have hplace := List.mem_zipIdx_iff_getElem?.mp (List.mem_reverse.mp hother)
                  exact Option.some.inj (hplace.symm.trans hmessage)
                subst hsame
                apply keepsThinking_set
                · apply isObject_modify
                  intro block hblock
                  exact isObject_of_normalized hblock
                · intro marked hmarked hthinking
                  rcases mem_modify_setCacheControl hmarked with hkept | ⟨original, hget, rfl⟩
                  · exact ⟨_, hmem, hkept⟩
                  · obtain rfl := Option.some.inj (hblock.symm.trans hget)
                    rw [blockType_setCacheControl, htype] at hthinking
                    cases hthinking
              · exact KeepsThinking.refl messages

/-- No thinking block of a plan has a marker that it had not before. -/
theorem applyCacheBreakpoints_thinking (messages tools : List Json) (bundle : PromptBundle)
    (tokenThreshold : Nat) :
    KeepsThinking messages (applyCacheBreakpoints messages tools bundle tokenThreshold).1 := by
  intro message hmessage block hblock hthinking
  obtain ⟨planned, hplanned, hkept⟩ :=
    applyHistoryCacheBreakpoint_thinking _ _ _ _ message hmessage block hblock hthinking
  exact applySystemCacheBreakpoint_thinking messages bundle maxBreakpoints planned hplanned block
    hkept hthinking

/-! ### The request after the plan -/

/-- Where a plan is made, the first message of the system is the prompt, if the prompt has
sections. -/
def PromptKept (endpointType model : String) (metadata : Json) (bundle : PromptBundle)
    (messages : List VvMessage) : Prop :=
  promptCacheApplies endpointType model (some metadata) = true → bundle.sections ≠ [] →
    ∀ index message, systemIndex? messages = some index → messages[index]? = some message →
      joinedText message.content = bundle.flatten ∧ imageUrls message.content = []

variable (endpointType model : String) (metadata : Json) (bundle : PromptBundle)
  (request : ChatRequest)

theorem applyCacheBreakpoints_spec (messages : List VvMessage) (tools : List Json)
    (tokenThreshold : Nat) :
    ∃ prompted contents, List.Forall₂ Plans (applyCacheBreakpoints
          (messages.map vvLlmMessageToCacheJson) tools bundle tokenThreshold).1 contents ∧
        MarkedOnce prompted contents ∧
        ((systemIndex? messages = none ∨ bundle.sections = []) ∧
            prompted = messages.map (·.content) ∨
          ∃ index prompt, systemIndex? messages = some index ∧ bundle.sections ≠ [] ∧
            PromptContent bundle prompt ∧
            prompted = (messages.map (·.content)).set index prompt) := by
  obtain ⟨prompted, hprompted, hcases⟩ := applySystemCacheBreakpoint_spec messages bundle
    (show maxBreakpoints ≠ 0 by decide)
  exact ⟨prompted, (applyHistoryCacheBreakpoint_spec hprompted _ _ _).imp fun contents h =>
    ⟨h.1, h.2, hcases⟩⟩

omit [Texts] in
theorem MarkedOnce.length {before after : List (List VvContent)} (h : MarkedOnce before after) :
    after.length = before.length := by
  rcases h with rfl | ⟨index, content, marked, _, _, rfl⟩
  · rfl
  · exact List.length_set

/-- The contents after the plan: the prompt may have taken the place of one, and one may have been
marked. -/
theorem applyPromptCache_messages :
    ∃ prompted contents,
      (applyPromptCacheToChatRequest endpointType model metadata bundle request).messages =
          List.zipWith (fun message content => { message with content }) request.messages contents ∧
        MarkedOnce prompted contents ∧
        ((promptCacheApplies endpointType model (some metadata) = false ∨
              systemIndex? request.messages = none ∨ bundle.sections = []) ∧
            prompted = request.messages.map (·.content) ∨
          promptCacheApplies endpointType model (some metadata) = true ∧
            ∃ index prompt, systemIndex? request.messages = some index ∧ bundle.sections ≠ [] ∧
              PromptContent bundle prompt ∧
              prompted = (request.messages.map (·.content)).set index prompt) := by
  unfold applyPromptCacheToChatRequest applyClaudePromptCache
  cases promptCacheApplies endpointType model (some metadata) with
  | false =>
      have hplans : List.Forall₂ Plans (request.messages.map vvLlmMessageToCacheJson)
          (request.messages.map (·.content)) := by
        rw [List.forall₂_map_left_iff, List.forall₂_map_right_iff]
        exact List.forall₂_same.mpr fun message _ => plans_message message
      refine ⟨_, _, ?_, .inl rfl, .inl ⟨.inl rfl, rfl⟩⟩
      rw [if_neg Bool.false_ne_true]
      exact applyPlannedMessageContent_eq hplans (List.length_map _).symm
  | true =>
      obtain ⟨prompted, contents, hcontents, hmarked, hcases⟩ := applyCacheBreakpoints_spec bundle
        request.messages (request.tools.map vvLlmToolToCacheJson)
        (minimumCacheableTokens (normalizedName model))
      have hlength : prompted.length = request.messages.length := by
        rcases hcases with ⟨_, rfl⟩ | ⟨index, prompt, _, _, _, rfl⟩ <;> simp
      refine ⟨prompted, contents, ?_, hmarked, ?_⟩
      · rw [if_pos rfl]
        apply applyPlannedMessageContent_eq hcontents
        rw [hcontents.length_eq, hmarked.length, hlength]
      · rcases hcases with ⟨hnone, hsame⟩ | hprompted
        · exact .inl ⟨.inr hnone, hsame⟩
        · exact .inr ⟨rfl, hprompted⟩

/-- The tools after the plan: the last one may have been marked. -/
theorem applyPromptCache_tools :
    (applyPromptCacheToChatRequest endpointType model metadata bundle request).tools =
        request.tools ∨
      ∃ front last, request.tools = front ++ [last] ∧
        (applyPromptCacheToChatRequest endpointType model metadata bundle request).tools =
          front ++ [{ last with cacheControl := some cacheControlEphemeral }] := by
  unfold applyPromptCacheToChatRequest applyClaudePromptCache
  cases promptCacheApplies endpointType model (some metadata) with
  | false =>
      have hsame := applyPlannedToolCacheControl_append request.tools [] []
      rw [List.append_nil, List.append_nil] at hsame
      refine .inl ?_
      rw [if_neg Bool.false_ne_true]
      exact hsame.trans (List.append_nil _)
  | true =>
      rw [if_pos rfl]
      exact applyToolCacheBreakpoint_spec request.tools _ _ _

theorem applyPromptCache_extraBody :
    (applyPromptCacheToChatRequest endpointType model metadata bundle request).extraBody =
      request.extraBody := by
  unfold applyPromptCacheToChatRequest applyClaudePromptCache
  split_ifs
  · dsimp only
    cases hobject : request.extraBody.isObject with
    | false => rw [Option.filter_some_neg (by simp [hobject]), Option.getD_none]
    | true => rw [Option.filter_some_pos hobject, Option.getD_some]
  · rfl

theorem applyPromptCache_sameTools :
    List.Forall₂ SameTool request.tools
        (applyPromptCacheToChatRequest endpointType model metadata bundle request).tools ∧
      ((applyPromptCacheToChatRequest endpointType model metadata bundle request).tools.map
          fun tool => if tool.cacheControl.isSome then 1 else 0).sum ≤
        (request.tools.map fun tool => if tool.cacheControl.isSome then 1 else 0).sum + 1 := by
  have hrefl : ∀ tools, List.Forall₂ SameTool tools tools := fun tools =>
    List.forall₂_same.mpr fun tool _ => SameTool.refl tool
  rcases applyPromptCache_tools endpointType model metadata bundle request with
    hsame | ⟨front, last, htools, hlast⟩
  · rw [hsame]
    exact ⟨hrefl _, Nat.le_succ _⟩
  · rw [hlast, htools]
    refine ⟨List.rel_append (hrefl front) (List.Forall₂.cons ⟨rfl, rfl, rfl⟩ List.Forall₂.nil), ?_⟩
    rw [List.map_append, List.map_append, List.sum_append, List.sum_append, List.map_singleton,
      List.map_singleton, List.sum_singleton, List.sum_singleton]
    dsimp only [Option.isSome_some]
    rw [if_pos rfl]
    omega

/-- Prompt caching changes only markers exactly where it finds the prompt in place; and it marks no
thinking block. -/
theorem only_markers_iff :
    (OnlyMarkers request
        (applyPromptCacheToChatRequest endpointType model metadata bundle request) ↔
      PromptKept endpointType model metadata bundle request.messages) ∧
    ∀ messages tools tokenThreshold,
      KeepsThinking messages (applyCacheBreakpoints messages tools bundle tokenThreshold).1 := by
  refine ⟨?_, fun messages tools => applyCacheBreakpoints_thinking messages tools bundle⟩
  obtain ⟨prompted, contents, hmessages, hmarked, hcases⟩ :=
    applyPromptCache_messages endpointType model metadata bundle request
  obtain ⟨htools, htoolMarkers⟩ :=
    applyPromptCache_sameTools endpointType model metadata bundle request
  have hlength : prompted.length = request.messages.length := by
    rcases hcases with ⟨_, rfl⟩ | ⟨_, index, prompt, _, _, _, rfl⟩ <;> simp
  have hcontents : request.messages.length = contents.length := by
    rw [hmarked.length, hlength]
  constructor
  · intro hsame happlies hsections index message hindex hget
    rcases hcases with ⟨hfalse | hnone | hnil, _⟩ | ⟨_, place, prompt, hplace, _, hprompt, rfl⟩
    · rw [happlies] at hfalse
      cases hfalse
    · rw [hnone] at hindex
      cases hindex
    · exact absurd hnil hsections
    · obtain rfl := Option.some.inj (hplace.symm.trans hindex)
      have hall := hsame.messages
      rw [hmessages, sameMessages_iff hcontents] at hall
      have hcontent : (request.messages.map (·.content))[place]? = some message.content := by
        rw [List.getElem?_map, hget]
        rfl
      have hprompted : SameContent message.content prompt :=
        (sameContent_set hcontent).mp
          (forall₂_sameContent_trans hall (forall₂_sameContent_symm hmarked.sameContent))
      exact ⟨hprompted.1.symm.trans hprompt.text, hprompted.2.symm.trans hprompt.images⟩
  · intro hkept
    -- The prompt has no more than one marker, and it has the text of what it replaces.
    have hprompted : List.Forall₂ SameContent (request.messages.map (·.content)) prompted ∧
        (prompted.map markerCount).sum ≤
          ((request.messages.map (·.content)).map markerCount).sum + 1 := by
      rcases hcases with ⟨_, rfl⟩ | ⟨happlies, index, prompt, hindex, hsections, hprompt, rfl⟩
      · exact ⟨List.forall₂_same.mpr fun _ _ => ⟨rfl, rfl⟩, Nat.le_succ _⟩
      · obtain ⟨hbound, _⟩ := List.findIdx?_eq_some_iff_getElem.mp hindex
        have hget : request.messages[index]? = some request.messages[index] :=
          List.getElem?_eq_getElem hbound
        have hcontent : (request.messages.map (·.content))[index]? =
            some request.messages[index].content := by
          rw [List.getElem?_map, hget]
          rfl
        obtain ⟨htext, himages⟩ := hkept happlies hsections index _ hindex hget
        refine ⟨(sameContent_set hcontent).mpr
          ⟨hprompt.text.trans htext.symm, hprompt.images.trans himages.symm⟩, ?_⟩
        apply sum_set_le hcontent
        have hmarkers := hprompt.markers
        omega
    refine ⟨?_, htools, applyPromptCache_extraBody endpointType model metadata bundle request, ?_⟩
    · rw [hmessages, sameMessages_iff hcontents]
      exact forall₂_sameContent_trans hprompted.1 hmarked.sameContent
    · have hcount : ((applyPromptCacheToChatRequest endpointType model metadata bundle
          request).messages.map fun message => markerCount message.content).sum =
          (contents.map markerCount).sum := by
        rw [hmessages, zipWith_markerCount hcontents]
      have hbefore : (request.messages.map fun message => markerCount message.content).sum =
          ((request.messages.map (·.content)).map markerCount).sum := by
        rw [List.map_map]
        rfl
      have hmark := hmarked.markers
      have hprompt := hprompted.2
      unfold ChatRequest.markerCount
      omega

end

namespace Sample

@[reducible]
def cacheTexts : Texts where
  toPlatform := (runtime []).toPlatform
  parse _ := .error "EOF while parsing a value at line 1 column 0"
  parseLeading _ := none
  canonicalText _ := "\x7b\x7d"
  normalizeSummaryOutput text := text

def helperPrompt : PromptBundle := ⟨[⟨"You are a helper.", true⟩, ⟨"It is Monday.", false⟩]⟩

/-- A hook has told the model more. -/
def hookedRequest : ChatRequest where
  messages :=
    [{ role := .system
       content := [.text "You are a helper.\n\nIt is Monday.\n\nNever delete a file." none] },
      { role := .user, content := [.text "Clean up." none] }]

end Sample

open Sample

/-- What a hook adds to the system message is not sent to a Claude model. -/
theorem hooked_system_message_replaced :
    (@applyPromptCacheToChatRequest cacheTexts "anthropic" "claude-sonnet-4-5" .null helperPrompt
        hookedRequest).messages.map (joinedText ·.content) =
      ["You are a helper.\n\nIt is Monday.", "Clean up."] ∧
    ¬ OnlyMarkers hookedRequest (@applyPromptCacheToChatRequest cacheTexts "anthropic"
      "claude-sonnet-4-5" .null helperPrompt hookedRequest) := by
  have htexts : (@applyPromptCacheToChatRequest cacheTexts "anthropic" "claude-sonnet-4-5" .null
      helperPrompt hookedRequest).messages.map (joinedText ·.content) =
      ["You are a helper.\n\nIt is Monday.", "Clean up."] := by decide +kernel
  refine ⟨htexts, fun hsame => ?_⟩
  have hall : ∀ {before after : List VvMessage}, List.Forall₂ SameMessage before after →
      after.map (joinedText ·.content) = before.map (joinedText ·.content) := by
    intro before after h
    induction h with
    | nil => rfl
    | cons hhead _ ih => rw [List.map_cons, List.map_cons, hhead.text, ih]
  have hbefore := hall hsame.messages
  rw [htexts] at hbefore
  exact absurd hbefore (by decide +kernel)

end VvAgent
