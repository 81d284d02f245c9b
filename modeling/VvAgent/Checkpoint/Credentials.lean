import VvAgent.Distributed.Contract

/-!
Credential slots. A slot is a JSON pointer into a run definition, and what is found there is
replaced by a mark before the definition is stored. What is stored is the definition with
everything at or below its slots masked, whatever was there.
-/

namespace VvAgent
open Lib.Outcome

def credentialRedacted : Json := .str "<credential-redacted>"

def slotsInvalid (message : String) : CheckpointError :=
  ⟨"checkpoint_credential_slots_invalid", message⟩

def invalidEscape : CheckpointError := slotsInvalid "JSON pointer contains an invalid escape"

def slotUnresolved (pointer problem : String) : CheckpointError :=
  ⟨"checkpoint_credential_slot_unresolved", "JSON pointer " ++ pointer ++ " " ++ problem⟩

/-- A token of a pointer, in which `~0` stands for `~` and `~1` for `/`. -/
def unescapeToken : List Char → CheckpointResult (List Char)
  | [] => return []
  | character :: rest =>
      if character = '~' then
        match rest with
        | [] => .error invalidEscape
        | code :: rest => do
            refuse (code != '0' && code != '1') invalidEscape
            return (if code = '0' then '~' else '/') :: (← unescapeToken rest)
      else do return character :: (← unescapeToken rest)

def pointerTokens (pointer : String) : CheckpointResult (List String) :=
  if pointer = "" then return []
  else do
    refuse (pointer.toList.head? != some '/')
      (slotsInvalid "JSON pointer must be empty or start with '/'")
    let tokens ← ((pointer.toList.splitOn '/').drop 1).mapM unescapeToken
    return tokens.map String.ofList

/-- `parse::<usize>`, on a machine of 64 bits. -/
def parseUsize (token : String) : Option Nat :=
  let digits := if token.toList.head? = some '+' then token.toList.drop 1 else token.toList
  let value := digits.foldl (fun value digit => 10 * value + (digit.toNat - 48)) 0
  if digits ≠ [] ∧ digits.all Char.isDigit ∧ value < 2 ^ 64 then some value else none

/-- `Map::get_mut` and an assignment: of members of one name, the first is meant. -/
def replaceMember (key : String) (value : Json) : JsonObject → JsonObject
  | [] => []
  | (name, item) :: rest =>
      if name = key then (name, value) :: rest else (name, item) :: replaceMember key value rest

namespace Json

/-- The member or the item that a token names. -/
def child (pointer token : String) : Json → CheckpointResult Json
  | .obj members => require (members.lookup token) (slotUnresolved pointer "does not resolve")
  | .arr items => do
      let index ← require (parseUsize token) (slotUnresolved pointer "has an invalid array index")
      require items[index]? (slotUnresolved pointer "does not resolve")
  | _ => .error (slotUnresolved pointer "does not resolve")

def putChild (token : String) (value : Json) : Json → Json
  | .obj members => .obj (replaceMember token value members)
  | .arr items => .arr (items.set ((parseUsize token).getD items.length) value)
  | leaf => leaf

def setTokens (pointer : String) (replacement : Json) : List String → Json → CheckpointResult Json
  | [], _ => .ok replacement
  | token :: rest, value => do
      let item ← value.child pointer token
      return putChild token (← setTokens pointer replacement rest item) value

end Json

def setJsonPointer (value : Json) (pointer : String) (replacement : Json) :
    CheckpointResult Json := do
  Json.setTokens pointer replacement (← pointerTokens pointer) value

def redactSlots (previous : Option String) : List String → Json → CheckpointResult Json
  | [], redacted => .ok redacted
  | slot :: rest, redacted => do
      refuse (previous.any (utf16Le slot ·))
        (slotsInvalid "credential slots must be sorted and unique")
      redactSlots (some slot) rest (← setJsonPointer redacted slot credentialRedacted)

def redactRunDefinition (definition : Json) (credentialSlots : List String) :
    CheckpointResult Json :=
  redactSlots none credentialSlots definition

/-! ### Masking -/

/-- Where the slots that pass a child lead from there. -/
def slotsBelow (passes : String → Bool) (slots : List (List String)) : List (List String) :=
  slots.filterMap fun slot => if slot.head?.any passes then some slot.tail else none

def slotsBeside (passes : String → Bool) (slots : List (List String)) : List (List String) :=
  slots.filter fun slot => !slot.head?.any passes

namespace Json

mutual

/-- A value with everything at or below the slots masked. -/
def masked (slots : List (List String)) : Json → Json
  | .obj members => if [] ∈ slots then credentialRedacted else .obj (maskedMembers slots members)
  | .arr items => if [] ∈ slots then credentialRedacted else .arr (maskedItems slots 0 items)
  | leaf => if [] ∈ slots then credentialRedacted else leaf

def maskedMembers (slots : List (List String)) : List (String × Json) → List (String × Json)
  | [] => []
  | (name, item) :: rest =>
      (name, masked (slotsBelow (· == name) slots) item) ::
        maskedMembers (slotsBeside (· == name) slots) rest

def maskedItems (slots : List (List String)) (index : Nat) : List Json → List Json
  | [] => []
  | item :: rest =>
      masked (slotsBelow (parseUsize · == some index) slots) item ::
        maskedItems (slotsBeside (parseUsize · == some index) slots) (index + 1) rest

end

end Json

section
variable (passes : String → Bool) {token : String} (slot : List String)
  (slots : List (List String))

theorem slots_passing (h : passes token = true) :
    slotsBelow passes ((token :: slot) :: slots) = slot :: slotsBelow passes slots ∧
      slotsBeside passes ((token :: slot) :: slots) = slotsBeside passes slots := by
  simp [slotsBelow, slotsBeside, h]

theorem slots_missing (h : passes token = false) :
    slotsBelow passes ((token :: slot) :: slots) = slotsBelow passes slots ∧
      slotsBeside passes ((token :: slot) :: slots) =
        (token :: slot) :: slotsBeside passes slots := by
  simp [slotsBelow, slotsBeside, h]

end

namespace Json

mutual

theorem masked_nil : ∀ value : Json, value.masked [] = value
  | .obj members => by
      rw [masked, if_neg List.not_mem_nil, maskedMembers_nil members]
  | .arr items => by
      rw [masked, if_neg List.not_mem_nil, maskedItems_nil items 0]
  | .null | .bool _ | .num _ | .str _ => rfl

theorem maskedMembers_nil : ∀ members : List (String × Json), maskedMembers [] members = members
  | [] => rfl
  | (name, item) :: rest => by
      change (name, masked [] item) :: maskedMembers [] rest = _
      rw [masked_nil item, maskedMembers_nil rest]

theorem maskedItems_nil : ∀ (items : List Json) (index : Nat), maskedItems [] index items = items
  | [], _ => rfl
  | item :: rest, index => by
      change masked [] item :: maskedItems [] (index + 1) rest = _
      rw [masked_nil item, maskedItems_nil rest]

end

theorem masked_hidden {slots : List (List String)} (h : [] ∈ slots) (value : Json) :
    value.masked slots = credentialRedacted := by
  cases value <;> exact if_pos h

section
variable {token : String} {slot : List String} {item after : Json}
  (hafter : ∀ slots, after.masked slots = item.masked (slot :: slots)) (slots : List (List String))
include hafter

theorem maskedMembers_replace {members : JsonObject} (hitem : members.lookup token = some item) :
    maskedMembers slots (replaceMember token after members) =
      maskedMembers ((token :: slot) :: slots) members := by
  induction members generalizing slots with
  | nil => cases hitem
  | cons head rest ih =>
      obtain ⟨name, old⟩ := head
      rw [List.lookup_cons] at hitem
      cases hname : token == name with
      | true =>
          obtain rfl := eq_of_beq hname
          obtain rfl : old = item := by simpa using hitem
          obtain ⟨hbelow, hbeside⟩ := slots_passing (· == token) slot slots hname
          rw [replaceMember, if_pos rfl, maskedMembers, maskedMembers, hbelow, hbeside, hafter]
      | false =>
          rw [hname] at hitem
          obtain ⟨hbelow, hbeside⟩ := slots_missing (· == name) slot slots hname
          rw [replaceMember, if_neg (by simpa using Ne.symm (ne_of_beq_false hname)),
            maskedMembers, maskedMembers, hbelow, hbeside, ih _ hitem]

theorem maskedItems_set {items : List Json} {place index : Nat}
    (hplace : parseUsize token = some (index + place)) (hitem : items[place]? = some item) :
    maskedItems slots index (items.set place after) =
      maskedItems ((token :: slot) :: slots) index items := by
  induction items generalizing place index slots with
  | nil => cases hitem
  | cons old rest ih =>
      cases place with
      | zero =>
          obtain rfl : old = item := by simpa using hitem
          have hhere : (parseUsize token == some index) = true := by simp [hplace]
          obtain ⟨hbelow, hbeside⟩ := slots_passing (parseUsize · == some index) slot slots hhere
          rw [List.set_cons_zero, maskedItems, maskedItems, hbelow, hbeside, hafter]
      | succ place =>
          have hlater : (parseUsize token == some index) = false := by simp [hplace]
          obtain ⟨hbelow, hbeside⟩ := slots_missing (parseUsize · == some index) slot slots hlater
          rw [List.set_cons_succ, maskedItems, maskedItems, hbelow, hbeside,
            ih _ (by rw [hplace, Nat.add_right_comm, Nat.add_assoc]) hitem]

end

/-- Once a slot has been written, masking it makes no difference. -/
theorem masked_set {pointer : String} {tokens : List String} {value after : Json}
    (h : setTokens pointer credentialRedacted tokens value = .ok after)
    (slots : List (List String)) : after.masked slots = value.masked (tokens :: slots) := by
  induction tokens generalizing value after slots with
  | nil =>
      cases h
      rw [masked_hidden List.mem_cons_self]
      exact ite_self _
  | cons token rest ih =>
      simp only [setTokens, bind_eq_ok, pure_ok, Except.ok.injEq] at h
      obtain ⟨item, hitem, replaced, hset, rfl⟩ := h
      by_cases hhidden : [] ∈ slots
      · rw [masked_hidden hhidden, masked_hidden (List.mem_cons_of_mem _ hhidden)]
      · have hmore : [] ∉ (token :: rest) :: slots := by simp [hhidden]
        cases value with
        | obj members =>
            simp only [child, require_eq_ok] at hitem
            rw [putChild, masked, masked, if_neg hhidden, if_neg hmore,
              maskedMembers_replace (ih hset) slots hitem]
        | arr items =>
            simp only [child, bind_eq_ok, require_eq_ok] at hitem
            obtain ⟨index, hindex, hitem⟩ := hitem
            rw [putChild, masked, masked, if_neg hhidden, if_neg hmore, hindex, Option.getD_some,
              maskedItems_set (ih hset) slots (by rw [hindex, Nat.zero_add]) hitem]
        | _ => cases hitem

end Json

theorem redactSlots_masked {previous : Option String} {slots : List String}
    {definition redacted : Json} (h : redactSlots previous slots definition = .ok redacted) :
    ∃ tokens, slots.mapM pointerTokens = .ok tokens ∧ redacted = definition.masked tokens := by
  induction slots generalizing previous definition with
  | nil =>
      cases h
      exact ⟨[], rfl, (Json.masked_nil _).symm⟩
  | cons slot rest ih =>
      simp only [redactSlots, setJsonPointer, bind_eq_ok, refuse_eq_ok, exists_const] at h
      obtain ⟨_, after, ⟨tokens, htokens, hset⟩, h⟩ := h
      obtain ⟨others, hothers, rfl⟩ := ih h
      refine ⟨tokens :: others, ?_, Json.masked_set hset others⟩
      rw [List.mapM_cons, htokens, ok_bind, hothers]
      rfl

/-- What is redacted is the definition with its slots masked. Of definitions that agree apart from
what the slots hide, nothing different is stored. -/
theorem redaction_hides_credentials {slots : List String} {tokens : List (List String)}
    (htokens : slots.mapM pointerTokens = .ok tokens) {first second : Json}
    (hsame : first.masked tokens = second.masked tokens) {redacted other : Json}
    (hfirst : redactRunDefinition first slots = .ok redacted)
    (hsecond : redactRunDefinition second slots = .ok other) :
    redacted = first.masked tokens ∧ redacted = other := by
  obtain ⟨read, hread, hmasked⟩ := redactSlots_masked hfirst
  obtain ⟨again, hagain, hother⟩ := redactSlots_masked hsecond
  obtain rfl : tokens = read := Except.ok.inj (htokens.symm.trans hread)
  obtain rfl : tokens = again := Except.ok.inj (htokens.symm.trans hagain)
  refine ⟨hmasked, ?_⟩
  rw [hmasked, hother, hsame]

namespace Sample

def withCredentials (header tool : String) : Json :=
  .obj [("model", .obj [("extra_headers", .obj [("authorization", .str header)])]),
    ("tools", .arr [.str "search", .str tool])]

end Sample

theorem redaction_hides_credentials_headers :
    Sample.withCredentials "<credential-redacted>" "<credential-redacted>" =
        (Sample.withCredentials "a" "b").masked
          [["model", "extra_headers", "authorization"], ["tools", "1"]] ∧
      Sample.withCredentials "<credential-redacted>" "<credential-redacted>" =
        Sample.withCredentials "<credential-redacted>" "<credential-redacted>" :=
  redaction_hides_credentials
    (show ["/model/extra_headers/authorization", "/tools/1"].mapM pointerTokens = _ by
      decide +kernel)
    (show _ = (Sample.withCredentials "c" "d").masked _ by decide +kernel)
    (by decide +kernel) (by decide +kernel)

end VvAgent
