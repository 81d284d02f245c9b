import Mathlib.Data.Rat.Defs
import VvAgent.Lib.Outcome

/-!
JSON values as the runtime holds them in memory, the I-JSON check, and the two
texts a value is written to. A number keeps the representation the reader chose
for it: a non-negative integer, a negative integer or a finite double, here its
exact rational value. The representation matters, since two numbers of one
value in different representations are not equal.

The number formatting and number parsing of the JSON libraries, and SHA-256,
are outside the repository. They are the fields of `Platform`, and so are the
closed-schema readers for run definitions, budgets and tool metadata.
-/

namespace VvAgent
open Lib.Outcome

inductive JsonNumber where
  | posInt (value : Nat)
  | negInt (magnitude : Nat)
  | float (value : Rat)
  deriving DecidableEq

inductive Json where
  | null
  | bool (value : Bool)
  | num (value : JsonNumber)
  | str (value : String)
  | arr (items : List Json)
  | obj (members : List (String × Json))

/-- The members of an object, in key order. -/
abbrev JsonObject := List (String × Json)

namespace Json

mutual

def decEq : (a b : Json) → Decidable (a = b)
  | .null, .null => isTrue rfl
  | .bool a, .bool b => decidable_of_iff (a = b) (by simp)
  | .num a, .num b => decidable_of_iff (a = b) (by simp)
  | .str a, .str b => decidable_of_iff (a = b) (by simp)
  | .arr as, .arr bs =>
      match decEqItems as bs with
      | isTrue h => isTrue (by rw [h])
      | isFalse h => isFalse (by simpa using h)
  | .obj as, .obj bs =>
      match decEqMembers as bs with
      | isTrue h => isTrue (by rw [h])
      | isFalse h => isFalse (by simpa using h)
  | .null, .bool _ | .null, .num _ | .null, .str _ | .null, .arr _
  | .null, .obj _ | .bool _, .null | .bool _, .num _ | .bool _, .str _
  | .bool _, .arr _ | .bool _, .obj _ | .num _, .null | .num _, .bool _
  | .num _, .str _ | .num _, .arr _ | .num _, .obj _ | .str _, .null
  | .str _, .bool _ | .str _, .num _ | .str _, .arr _ | .str _, .obj _
  | .arr _, .null | .arr _, .bool _ | .arr _, .num _ | .arr _, .str _
  | .arr _, .obj _ | .obj _, .null | .obj _, .bool _ | .obj _, .num _
  | .obj _, .str _ | .obj _, .arr _ => isFalse nofun

def decEqItems : (as bs : List Json) → Decidable (as = bs)
  | [], [] => isTrue rfl
  | a :: as, b :: bs =>
      match decEq a b, decEqItems as bs with
      | isTrue h, isTrue t => isTrue (by rw [h, t])
      | isFalse h, _ => isFalse (by simp [h])
      | _, isFalse t => isFalse (by simp [t])
  | [], _ :: _ | _ :: _, [] => isFalse nofun

def decEqMembers : (as bs : List (String × Json)) → Decidable (as = bs)
  | [], [] => isTrue rfl
  | (k, a) :: as, (l, b) :: bs =>
      match decEq a b, decEqMembers as bs with
      | isTrue h, isTrue t =>
          decidable_of_iff (k = l) (by simp [h, t])
      | isFalse h, _ => isFalse (by simp [h])
      | _, isFalse t => isFalse (by simp [t])
  | [], _ :: _ | _ :: _, [] => isFalse nofun

end

instance : DecidableEq Json := decEq

instance : Inhabited Json := ⟨.null⟩

def get? (value : Json) (key : String) : Option Json :=
  match value with
  | .obj members => members.lookup key
  | _ => none

def asObject? : Json → Option JsonObject
  | .obj members => some members
  | _ => none

theorem asObject?_eq_some {value : Json} {members : JsonObject}
    (h : value.asObject? = some members) : value = .obj members := by
  cases value with
  | obj _ => exact congrArg Json.obj (Option.some.inj h)
  | _ => cases h

def asArray? : Json → Option (List Json)
  | .arr items => some items
  | _ => none

def asStr? : Json → Option String
  | .str value => some value
  | _ => none

def asBool? : Json → Option Bool
  | .bool value => some value
  | _ => none

/-- An unsigned integer; a double of integral value is not one. -/
def asU64? : Json → Option Nat
  | .num (.posInt value) => some value
  | _ => none

def isObject (value : Json) : Bool := value.asObject?.isSome

def nat (value : Nat) : Json := .num (.posInt value)

def optStr : Option String → Json
  | some value => .str value
  | none => .null

def optNat : Option Nat → Json
  | some value => nat value
  | none => .null

end Json

/-- A stable error: its code and its message. -/
structure CheckpointError where
  code : String
  message : String
  deriving DecidableEq

abbrev CheckpointResult := Except CheckpointError

/-- The text of an error, as it is reported to a caller. -/
def CheckpointError.display (error : CheckpointError) : String :=
  error.code ++ ": " ++ error.message

def maxWireInteger : Nat := 9007199254740991

/-- The Unicode `White_Space` characters, which `trim` removes. -/
def isWhitespace (c : Char) : Bool :=
  let n := c.toNat
  (9 ≤ n && n ≤ 13) || n == 32 || n == 0x85 || n == 0xA0 || n == 0x1680 ||
    (0x2000 ≤ n && n ≤ 0x200A) || n == 0x2028 || n == 0x2029 ||
    n == 0x202F || n == 0x205F || n == 0x3000

/-- `value.trim().is_empty()`. -/
def isBlank (value : String) : Bool := value.toList.all isWhitespace

/-- An ASCII digit or one of the letters from `a` to `f`. -/
def isLowerHex (byte : UInt8) : Bool :=
  (48 ≤ byte && byte ≤ 57) || (97 ≤ byte && byte ≤ 102)

/-- 64 lowercase hexadecimal digits. -/
def isSha256 (value : String) : Bool :=
  value.utf8ByteSize == 64 && value.toByteArray.data.toList.all isLowerHex

/-- What the runtime takes from outside: the JSON library's numbers, SHA-256
and the texts of values, and the schema readers that only say yes or no. -/
class Platform where
  /-- The number read back from the canonical text of a double. -/
  canonicalFloat : Rat → JsonNumber
  /-- The number read back from the ordinary text of a double. -/
  textFloat : Rat → JsonNumber
  /-- The hexadecimal SHA-256 digest of a canonical text, given by its tree. -/
  sha256 : Json → String
  sha256_isSha256 : ∀ value, isSha256 (sha256 value) = true
  /-- The number of bytes of a canonical text, given by its tree. -/
  canonicalLength : Json → Nat
  /-- Whether a text is the canonical text of some JSON object. -/
  isCanonicalObjectText : String → Bool
  /-- The ordinary text of a value. -/
  jsonText : Json → String
  /-- Whether printed tool arguments are read back to the same text. -/
  argumentsReprint : JsonObject → Bool
  /-- The closed readers of budget usage, budget exhaustion and tool metadata,
  each followed by its writer. -/
  readBudgetUsage : Json → Option Json
  readBudgetExhaustion : Json → Option Json
  readToolMetadata : Json → Option Json
  /-- The event id of a value that the event reader accepts although it is not
  written the way the event writer writes it. -/
  lenientEventId : Json → Option String
  /-- The closed-schema reader behind `validate_run_definition`, applied to a
  document that has passed the I-JSON check. -/
  readRunDefinition : Json → CheckpointResult Unit

namespace JsonNumber

/-- `validate_number`: integers stay in the JSON-safe range; doubles are
finite by construction. -/
def validate (number : JsonNumber) (fieldName : String) : CheckpointResult Unit :=
  match number with
  | .posInt value | .negInt value =>
      refuse (maxWireInteger < value)
        ⟨"checkpoint_definition_not_i_json",
          fieldName ++ " is outside the JSON-safe integer range"⟩
  | .float _ => .ok ()

variable [Platform]

/-- A number after one trip through its canonical text. -/
def canonical : JsonNumber → JsonNumber
  | .float value => Platform.canonicalFloat value
  | number => number

/-- A number after one trip through its ordinary text. -/
def reread : JsonNumber → JsonNumber
  | .float value => Platform.textFloat value
  | number => number

end JsonNumber

namespace Json

mutual

/-- `validate_i_json`, with the path of the offending member in the message. -/
def validateIJson (fieldName : String) : Json → CheckpointResult Unit
  | .null | .bool _ | .str _ => .ok ()
  | .num number => number.validate fieldName
  | .arr items => validateItems fieldName 0 items
  | .obj members => validateMembers fieldName members

def validateItems (fieldName : String) (index : Nat) :
    List Json → CheckpointResult Unit
  | [] => .ok ()
  | item :: rest => do
      validateIJson (fieldName ++ "[" ++ toString index ++ "]") item
      validateItems fieldName (index + 1) rest

def validateMembers (fieldName : String) :
    List (String × Json) → CheckpointResult Unit
  | [] => .ok ()
  | (key, item) :: rest => do
      validateIJson (fieldName ++ "." ++ key) item
      validateMembers fieldName rest

end

mutual

/-- Apply a function to every number of a value. -/
def mapNumbers (f : JsonNumber → JsonNumber) : Json → Json
  | .num number => .num (f number)
  | .arr items => .arr (mapItems f items)
  | .obj members => .obj (mapMembers f members)
  | .null => .null
  | .bool value => .bool value
  | .str value => .str value

def mapItems (f : JsonNumber → JsonNumber) : List Json → List Json
  | [] => []
  | item :: rest => mapNumbers f item :: mapItems f rest

def mapMembers (f : JsonNumber → JsonNumber) :
    List (String × Json) → List (String × Json)
  | [] => []
  | (key, item) :: rest => (key, mapNumbers f item) :: mapMembers f rest

end

mutual

/-- Whether every number of a value satisfies `p`. -/
def allNumbers (p : JsonNumber → Bool) : Json → Bool
  | .num number => p number
  | .arr items => allItems p items
  | .obj members => allMembers p members
  | .null | .bool _ | .str _ => true

def allItems (p : JsonNumber → Bool) : List Json → Bool
  | [] => true
  | item :: rest => allNumbers p item && allItems p rest

def allMembers (p : JsonNumber → Bool) : List (String × Json) → Bool
  | [] => true
  | (_, item) :: rest => allNumbers p item && allMembers p rest

end

variable [Platform]

/-- The tree read back from the canonical text of a value. -/
def canonical (value : Json) : Json := mapNumbers JsonNumber.canonical value

/-- The tree read back from the ordinary text of a value. -/
def reread (value : Json) : Json := mapNumbers JsonNumber.reread value

end Json

variable [Platform]

/-- `canonical_json_bytes`; the text is represented by the tree that is read
back from it. -/
def canonicalJsonBytes (value : Json) (fieldName : String) : CheckpointResult Json := do
  value.validateIJson fieldName
  return value.canonical

def sha256Canonical (value : Json) (fieldName : String) : CheckpointResult String := do
  let bytes ← canonicalJsonBytes value fieldName
  return Platform.sha256 bytes

def validateSha256 (value fieldName : String) : CheckpointResult Unit :=
  refuse (!isSha256 value)
    ⟨"checkpoint_digest_invalid", fieldName ++ " must be a lowercase SHA-256 hex digest"⟩

def requireNonEmpty (value fieldName : String) : CheckpointResult Unit :=
  refuse (isBlank value) ⟨"checkpoint_value_invalid", fieldName ++ " must be non-empty"⟩

def requirePositive (value : Nat) (fieldName : String) : CheckpointResult Unit :=
  refuse (value == 0 || maxWireInteger < value)
    ⟨"checkpoint_integer_invalid",
      fieldName ++ " must be between 1 and " ++ toString maxWireInteger⟩

def maxCheckpointKeyBytes : Nat := 512

def validateCheckpointKey (key : String) : CheckpointResult Unit :=
  refuse (isBlank key || maxCheckpointKeyBytes < key.utf8ByteSize)
    ⟨"checkpoint_key_invalid",
      "checkpoint key must be non-empty and at most " ++ toString maxCheckpointKeyBytes ++
        " UTF-8 bytes"⟩

end VvAgent
