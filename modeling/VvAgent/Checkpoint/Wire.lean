import VvAgent.Checkpoint.Controller

/-!
The strict readers of the controller's wire objects. A reader takes an object whose field
names are exactly the expected ones, and each field is read by one of six small readers
that check its type, its size and its range. A lemma for each of them says on which
objects it succeeds, and with what.
-/

namespace VvAgent
open Lib Lib.Outcome

namespace Wire

def valueObject (value : Json) (code : String) : CheckpointResult JsonObject :=
  require value.asObject? ⟨code, "wire value must be an object"⟩

def containsKey (object : JsonObject) (field : String) : Bool := (object.lookup field).isSome

/-- What is wrong with the field names of an object. -/
def fieldsDetail (object : JsonObject) (known : List String) : String :=
  let unknown := (object.map Prod.fst).filter fun field => !known.contains field
  if unknown.isEmpty then "required field is missing"
  else "unknown field(s): " ++ ", ".intercalate unknown

def requireExactFields (object : JsonObject) (expected : List String) (code : String) :
    CheckpointResult Unit :=
  refuse
    (object.length != expected.length ||
      expected.any fun field => !containsKey object field)
    ⟨code, fieldsDetail object expected⟩

def requireFieldsWithOptional (object : JsonObject) (required optional : List String)
    (code : String) : CheckpointResult Unit :=
  refuse
    (required.any (fun field => !containsKey object field) ||
      (object.map Prod.fst).any fun field =>
        !required.contains field && !optional.contains field)
    ⟨code, fieldsDetail object (required ++ optional)⟩

def tooLong (field : String) (maxBytes : Nat) (code : String) : CheckpointError :=
  ⟨code, field ++ " exceeds " ++ toString maxBytes ++ " UTF-8 bytes"⟩

def outOfRange (field code : String) : CheckpointError :=
  ⟨code, field ++ " is outside the JSON-safe integer range"⟩

def optionalString (object : JsonObject) (field : String) (maxBytes : Nat) (code : String) :
    CheckpointResult (Option String) :=
  match object.lookup field with
  | none | some .null => .ok none
  | some value => do
      let text ← require value.asStr? ⟨code, field ++ " must be a string or null"⟩
      refuse (maxBytes < text.utf8ByteSize) (tooLong field maxBytes code)
      return some text

def optionalInteger (object : JsonObject) (field : String) (positive : Bool) (code : String) :
    CheckpointResult (Option Nat) :=
  match object.lookup field with
  | none | some .null => .ok none
  | some value => do
      let number ← require value.asU64? ⟨code, field ++ " must be an integer or null"⟩
      refuse (maxWireInteger < number || (positive && number == 0)) (outOfRange field code)
      return some number

def requiredString (object : JsonObject) (field code : String) : CheckpointResult String :=
  require (object.lookup field >>= Json.asStr?) ⟨code, field ++ " must be a string"⟩

def requiredNonEmptyString (object : JsonObject) (field : String) (maxBytes : Nat)
    (code : String) : CheckpointResult String := do
  let value ← requiredString object field code
  refuse (isBlank value) ⟨code, field ++ " must be non-empty"⟩
  refuse (maxBytes < value.utf8ByteSize) (tooLong field maxBytes code)
  return value

def requiredInteger (object : JsonObject) (field : String) (positive : Bool) :
    CheckpointResult Nat := do
  let number ← require (object.lookup field >>= Json.asU64?)
    ⟨"host_interaction_fields_invalid", field ++ " must be an integer"⟩
  refuse (maxWireInteger < number || (positive && number == 0))
    (outOfRange field "host_interaction_fields_invalid")
  return number

def requiredDigest (object : JsonObject) (field : String) : CheckpointResult String := do
  let value ← requiredNonEmptyString object field 64 "host_interaction_fields_invalid"
  refuse (!isSha256 value)
    ⟨"host_interaction_fields_invalid", field ++ " must be lowercase SHA-256"⟩
  return value

/-- A member that the preceding check of the field names has found. -/
def member (object : JsonObject) (field : String) : Json := (object.lookup field).getD .null

/-- An embedded value that may be null. -/
def optionalValue {α : Type} (read : Json → CheckpointResult α) (object : JsonObject)
    (field : String) : CheckpointResult (Option α) :=
  match object.lookup field with
  | none | some .null => .ok none
  | some value => some <$> read value

end Wire

/-! What the readers accept. -/

theorem Json.asStr?_eq_some {value : Json} {text : String} :
    value.asStr? = some text ↔ value = .str text := by
  cases value <;> simp [Json.asStr?]

theorem Json.asU64?_eq_some {value : Json} {number : Nat} :
    value.asU64? = some number ↔ value = .nat number := by
  cases value with
  | num number => cases number <;> simp [Json.asU64?, Json.nat]
  | _ => simp [Json.asU64?, Json.nat]

theorem isLowerHex_ofNat {v : Nat} (h : isLowerHex (UInt8.ofNat v) = true) (hv : v < 256) :
    48 ≤ v ∧ v ≤ 57 ∨ 97 ≤ v ∧ v ≤ 102 := by
  simpa [isLowerHex, UInt8.le_iff_toNat_le, Nat.mod_eq_of_lt hv] using h

/-- No white-space character is written with the bytes of hexadecimal digits. -/
theorem isWhitespace_eq_false_of_hex {c : Char}
    (h : ∀ byte ∈ String.utf8EncodeChar c, isLowerHex byte = true) : isWhitespace c = false := by
  unfold String.utf8EncodeChar at h
  have hn : c.toNat = c.val.toNat := rfl
  simp only at h
  split at h
  · have hhex := isLowerHex_ofNat (h _ List.mem_cons_self) (by omega)
    simp [isWhitespace]
    omega
  · split at h
    · have hhex := isLowerHex_ofNat (h _ List.mem_cons_self) (by omega)
      omega
    · split at h
      · have hhex := isLowerHex_ofNat (h _ List.mem_cons_self) (by omega)
        omega
      · have hhex := isLowerHex_ofNat (h _ List.mem_cons_self) (by omega)
        omega

/-- A digest is not blank: none of its bytes begins a white-space character. -/
theorem isBlank_eq_false_of_isSha256 {text : String} (h : isSha256 text = true) :
    isBlank text = false := by
  simp only [isSha256, Bool.and_eq_true, beq_iff_eq] at h
  obtain ⟨hsize, hhex⟩ := h
  rw [← String.utf8Encode_toList] at hhex
  simp only [List.utf8Encode, List.data_toByteArray, List.toList_toArray, List.all_eq_true,
    List.mem_flatMap] at hhex
  cases hchars : text.toList with
  | nil =>
      have hempty : text = "" := by simpa using hchars
      subst hempty
      exact absurd hsize (by decide)
  | cons c rest =>
      have hc : isWhitespace c = false :=
        isWhitespace_eq_false_of_hex fun byte hbyte => hhex byte ⟨c, by simp [hchars], hbyte⟩
      simp [isBlank, hchars, hc]

namespace Wire

section
variable {object : JsonObject} {field code : String} {maxBytes : Nat} {positive : Bool}

theorem valueObject_eq_ok {value : Json} :
    valueObject value code = .ok object ↔ value = .obj object := by
  cases value <;> simp [valueObject, Json.asObject?]

theorem requiredString_eq_ok {text : String} :
    requiredString object field code = .ok text ↔ object.lookup field = some (.str text) := by
  simp [requiredString, Option.bind_eq_some_iff, Json.asStr?_eq_some]

theorem requiredNonEmptyString_eq_ok {text : String} :
    requiredNonEmptyString object field maxBytes code = .ok text ↔
      object.lookup field = some (.str text) ∧ isBlank text = false ∧
        text.utf8ByteSize ≤ maxBytes := by
  simp only [requiredNonEmptyString, bind_eq_ok, requiredString_eq_ok, refuse_eq_ok,
    exists_const, pure_ok, Except.ok.injEq, decide_eq_false_iff_not, Nat.not_lt]
  constructor
  · rintro ⟨_, hfound, hblank, hsize, rfl⟩
    exact ⟨hfound, hblank, hsize⟩
  · rintro ⟨hfound, hblank, hsize⟩
    exact ⟨text, hfound, hblank, hsize, rfl⟩

theorem requiredInteger_eq_ok {number : Nat} :
    requiredInteger object field positive = .ok number ↔
      object.lookup field = some (.nat number) ∧ number ≤ maxWireInteger ∧
        (positive = true → number ≠ 0) := by
  simp only [requiredInteger, bind_eq_ok, require_eq_ok, Option.bind_eq_bind,
    Option.bind_eq_some_iff, Json.asU64?_eq_some, refuse_eq_ok, exists_const, pure_ok,
    Except.ok.injEq]
  constructor
  · rintro ⟨_, ⟨_, hfound, rfl⟩, hrange, rfl⟩
    simp at hrange
    exact ⟨hfound, hrange.1, hrange.2⟩
  · rintro ⟨hfound, hrange, hpositive⟩
    refine ⟨number, ⟨_, hfound, rfl⟩, ?_, rfl⟩
    simpa using ⟨hrange, hpositive⟩

theorem requiredDigest_eq_ok {text : String} :
    requiredDigest object field = .ok text ↔
      object.lookup field = some (.str text) ∧ isSha256 text = true := by
  simp only [requiredDigest, bind_eq_ok, requiredNonEmptyString_eq_ok, refuse_eq_ok,
    exists_const, pure_ok, Except.ok.injEq, Bool.not_eq_false']
  constructor
  · rintro ⟨_, ⟨hfound, _, _⟩, hdigest, rfl⟩
    exact ⟨hfound, hdigest⟩
  · rintro ⟨hfound, hdigest⟩
    have hsize : text.utf8ByteSize = 64 := by
      simp only [isSha256, Bool.and_eq_true, beq_iff_eq] at hdigest
      exact hdigest.1
    exact ⟨text, ⟨hfound, isBlank_eq_false_of_isSha256 hdigest, hsize.le⟩, hdigest, rfl⟩

/-- An absent member is read as a null one. -/
theorem optionalString_eq_ok {text : Option String} :
    optionalString object field maxBytes code = .ok text ↔
      member object field = Json.optStr text ∧ ∀ t, text = some t → t.utf8ByteSize ≤ maxBytes := by
  unfold optionalString member
  cases hfound : object.lookup field with
  | none => cases text <;> simp [Json.optStr]
  | some value =>
      cases value with
      | str t =>
          simp only [Option.getD_some, Json.asStr?, require_some, ok_bind, bind_eq_ok,
            refuse_eq_ok, exists_const, pure_ok, Except.ok.injEq, decide_eq_false_iff_not,
            Nat.not_lt]
          cases text with
          | none => simp [Json.optStr]
          | some u =>
              simp only [Option.some.injEq, Json.optStr, Json.str.injEq]
              constructor
              · rintro ⟨hsize, rfl⟩
                exact ⟨rfl, by simpa using hsize⟩
              · rintro ⟨rfl, hsize⟩
                exact ⟨hsize _ rfl, rfl⟩
      | _ => cases text <;> simp [Json.optStr, Json.asStr?]

theorem optionalInteger_eq_ok {number : Option Nat} :
    optionalInteger object field positive code = .ok number ↔
      member object field = Json.optNat number ∧
        ∀ n, number = some n → n ≤ maxWireInteger ∧ (positive = true → n ≠ 0) := by
  unfold optionalInteger member
  cases hfound : object.lookup field with
  | none => cases number <;> simp [Json.optNat, Json.nat]
  | some value =>
      cases value with
      | num read =>
          cases read with
          | posInt n =>
              simp only [Option.getD_some, Json.asU64?, require_some, ok_bind, bind_eq_ok,
                refuse_eq_ok, exists_const, pure_ok, Except.ok.injEq]
              cases number with
              | none => simp [Json.optNat]
              | some m =>
                  simp only [Option.some.injEq, Json.optNat, Json.nat, Json.num.injEq,
                    JsonNumber.posInt.injEq]
                  constructor
                  · rintro ⟨hrange, rfl⟩
                    simp at hrange
                    exact ⟨rfl, by simpa using hrange⟩
                  · rintro ⟨rfl, hrange⟩
                    have hrange := hrange _ rfl
                    exact ⟨by simpa using hrange, rfl⟩
          | _ => cases number <;> simp [Json.optNat, Json.nat, Json.asU64?]
      | _ => cases number <;> simp [Json.optNat, Json.nat, Json.asU64?]

theorem optionalValue_eq_ok {α : Type} {read : Json → CheckpointResult α} {value : Option α}
    (hnull : ∀ a, read .null ≠ .ok a) :
    optionalValue read object field = .ok value ↔
      member object field = .null ∧ value = none ∨
        ∃ a, value = some a ∧ read (member object field) = .ok a := by
  unfold optionalValue member
  cases hfound : object.lookup field with
  | none => simp [hnull, eq_comm]
  | some found =>
      cases found with
      | null => simp [hnull, eq_comm]
      | _ =>
          simp only [Option.getD_some, reduceCtorEq, false_and, false_or]
          cases hread : read _ with
          | error e => simp
          | ok a => simp [eq_comm]

end

/-- The members of an object that has exactly the expected names. -/
theorem requireExactFields_eq_ok {object : JsonObject} {expected : List String} {code : String}
    {u : Unit} :
    requireExactFields object expected code = .ok u ↔
      object.length = expected.length ∧ ∀ field ∈ expected, containsKey object field = true := by
  simp [requireExactFields]

theorem requireFieldsWithOptional_eq_ok {object : JsonObject} {required optional : List String}
    {code : String} {u : Unit} :
    requireFieldsWithOptional object required optional code = .ok u ↔
      (∀ field ∈ required, containsKey object field = true) ∧
        ∀ field ∈ object.map Prod.fst, field ∈ required ∨ field ∈ optional := by
  simp only [requireFieldsWithOptional, refuse_eq_ok, Bool.or_eq_false_iff]
  constructor
  · rintro ⟨hrequired, hknown⟩
    refine ⟨fun field hmem => ?_, fun field hmem => ?_⟩
    · simpa using List.any_eq_false.mp hrequired field hmem
    · have := List.any_eq_false.mp hknown field hmem
      simp only [Bool.and_eq_true, Bool.not_eq_true', List.contains_eq_mem, not_and] at this
      by_cases hfield : field ∈ required
      · exact .inl hfield
      · exact .inr (by simpa [hfield] using this)
  · rintro ⟨hrequired, hknown⟩
    refine ⟨List.any_eq_false.mpr fun field hmem => by simp [hrequired field hmem],
      List.any_eq_false.mpr fun field hmem => ?_⟩
    rcases hknown field hmem with h | h <;> simp [h]

end Wire

end VvAgent
