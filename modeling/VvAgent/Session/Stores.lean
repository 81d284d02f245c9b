import Mathlib.Algebra.Group.Nat.Defs
import VvAgent.Lib.Transcript
import VvAgent.Session.Items

/-!
The three kinds of session stores as machines that answer operations on sessions. The memory
store keeps the items themselves; the SQLite and the Redis store keep their payloads. An
operation of SQLite is one transaction, which is rolled back when it fails; a command or a
script of Redis is one step of the server.
-/

namespace VvAgent
open Lib Lib.Outcome

inductive SessionAppendOutcome where
  | committed
  | replayed
  deriving DecidableEq

inductive SessionOp where
  | getItems (limit : Option Nat)
  | addItems (items : List SessionItem)
  | addItemsOnce (commitId payloadDigest : String) (items : List SessionItem)
  | popItem
  | clear

/-- An operation on one of the sessions of a store. -/
structure SessionEvent where
  sessionId : String
  op : SessionOp

inductive SessionResult where
  | items (items : List SessionItem)
  | added
  | appended (outcome : SessionAppendOutcome)
  | popped (item : Option SessionItem)
  | cleared
  | failed (error : String)
  deriving DecidableEq

/-- What an operation leaves: its answer, or an error and the store as it was. -/
def settle {σ : Type} (store : σ) : Except String (SessionResult × σ) → SessionResult × σ
  | .ok answered => answered
  | .error error => (.failed error, store)

def commitConflict : String :=
  "session_commit_identity_conflict: commit_id has a different payload"

section
variable [Texts]

/-- The digest of a commit. An item that cannot be written panics in the source. -/
def sessionCommitPayloadDigest (items : List SessionItem) : Except String String := do
  let values ← items.mapM SessionItem.toValue
  match sha256Canonical
      (.obj [("items", .arr values), ("schema_version", .str "vv-agent.session-commit.v1")])
      "session commit payload" with
  | .ok digest => .ok digest
  | .error error => .error error.display

def validateSessionCommit (commitId payloadDigest : String) (items : List SessionItem) :
    Except String Unit := do
  refuse (isBlank commitId) "session_commit_identity_invalid: commit_id must be non-empty"
  refuse (!isSha256 payloadDigest)
    "session_commit_payload_digest_invalid: payload_digest must be lowercase SHA-256"
  let digest ← sessionCommitPayloadDigest items
  refuse (digest != payloadDigest)
    "session_commit_payload_digest_mismatch: payload_digest does not match items"

/-! ### Sessions in memory -/

structure MemorySession where
  items : List SessionItem := []
  commits : Table String := ∅

namespace MemorySession

def getItems (session : MemorySession) : Option Nat → List SessionItem
  | some limit => (session.items.reverse.take limit).reverse
  | none => session.items

def addItems (session : MemorySession) (newItems : List SessionItem) : MemorySession :=
  { session with items := session.items ++ newItems }

def addItemsOnce (session : MemorySession) (commitId payloadDigest : String)
    (newItems : List SessionItem) : Except String (SessionAppendOutcome × MemorySession) := do
  validateSessionCommit commitId payloadDigest newItems
  match session.commits[commitId]? with
  | some existing => do
      refuse (existing != payloadDigest) commitConflict
      return (.replayed, session)
  | none =>
      return (.committed,
        { items := session.items ++ newItems
          commits := session.commits.insert commitId payloadDigest })

def popItem (session : MemorySession) : Option SessionItem × MemorySession :=
  (session.items.getLast?, { session with items := session.items.dropLast })

def step (op : SessionOp) (session : MemorySession) : SessionResult × MemorySession :=
  match op with
  | .getItems limit => (.items (session.getItems limit), session)
  | .addItems newItems => (.added, session.addItems newItems)
  | .addItemsOnce commitId payloadDigest newItems =>
      match session.addItemsOnce commitId payloadDigest newItems with
      | .ok (outcome, after) => (.appended outcome, after)
      | .error error => (.failed error, session)
  | .popItem => (.popped session.popItem.1, session.popItem.2)
  | .clear => (.cleared, {})

end MemorySession

/-- The sessions of a store, which are there from their first use on. -/
structure MemorySessions where
  sessions : Table MemorySession := ∅

namespace MemorySessions

def session (store : MemorySessions) (sessionId : String) : MemorySession :=
  store.sessions[sessionId]?.getD {}

def step (event : SessionEvent) (store : MemorySessions) : SessionResult × MemorySessions :=
  let (answer, after) := (store.session event.sessionId).step event.op
  (answer, ⟨store.sessions.insert event.sessionId after⟩)

theorem session_step (event : SessionEvent) (store : MemorySessions) (sessionId : String) :
    (next step event store).session sessionId =
      if event.sessionId = sessionId then ((store.session sessionId).step event.op).2
      else store.session sessionId := by
  change ((store.sessions.insert event.sessionId _)[sessionId]?).getD {} = _
  rw [Table.get_insert]
  split_ifs with hid
  · subst hid
    rfl
  · rfl

end MemorySessions

/-! ### Sessions in SQLite -/

structure SessionRow where
  sessionId : String
  itemIndex : Nat
  payload : String

structure SessionCommitRow where
  sessionId : String
  commitId : String
  payloadDigest : String

/-- The tables `session_items`, whose rows stand in the order of their indexes, and
`session_commits`. -/
structure SqliteSessions where
  rows : List SessionRow := []
  /-- The largest index that was ever given to a row. -/
  lastIndex : Nat := 0
  commits : List SessionCommitRow := []
  ordered : rows.Pairwise fun first second => first.itemIndex < second.itemIndex := by
    exact List.Pairwise.nil
  counted : ∀ row ∈ rows, row.itemIndex ≤ lastIndex := by
    exact fun _ hrow => absurd hrow List.not_mem_nil

def maxI64 : Nat := 2 ^ 63 - 1

namespace SqliteSessions

def insertItem (db : SqliteSessions) (sessionId payload : String) : SqliteSessions where
  rows := db.rows ++ [⟨sessionId, db.lastIndex + 1, payload⟩]
  lastIndex := db.lastIndex + 1
  commits := db.commits
  ordered := by
    rw [List.pairwise_append]
    refine ⟨db.ordered, List.pairwise_singleton _ _, ?_⟩
    intro row hrow new hnew
    obtain rfl := List.mem_singleton.mp hnew
    have hle := db.counted row hrow
    dsimp only
    omega
  counted := by
    intro row hrow
    rcases List.mem_append.mp hrow with hold | hnew
    · have hle := db.counted row hold
      omega
    · obtain rfl := List.mem_singleton.mp hnew
      exact le_refl _

def insertItems (db : SqliteSessions) (sessionId : String) (payloads : List String) :
    SqliteSessions :=
  payloads.foldl (fun db payload => db.insertItem sessionId payload) db

/-- The rows that are left after a `DELETE`. -/
def keepItems (db : SqliteSessions) (keep : SessionRow → Bool) : SqliteSessions :=
  { db with
    rows := db.rows.filter keep
    ordered := db.ordered.filter keep
    counted := fun row hrow => db.counted row (List.mem_of_mem_filter hrow) }

def selectItems (db : SqliteSessions) (sessionId : String) : List SessionRow :=
  db.rows.filter fun row => row.sessionId == sessionId

def selectCommit (db : SqliteSessions) (sessionId commitId : String) : Option String :=
  (db.commits.find? fun row => row.sessionId == sessionId && row.commitId == commitId).map
    (·.payloadDigest)

def getItems (db : SqliteSessions) (sessionId : String) (limit : Option Nat) :
    Except String (List SessionItem) :=
  let rows :=
    match limit with
    | some limit => ((db.selectItems sessionId).reverse.take (min limit maxI64)).reverse
    | none => db.selectItems sessionId
  rows.mapM fun row => SessionItem.ofText row.payload

def addItems (db : SqliteSessions) (sessionId : String) (items : List SessionItem) :
    Except String SqliteSessions := do
  let payloads ← items.mapM SessionItem.toText
  return db.insertItems sessionId payloads

def addItemsOnce (db : SqliteSessions) (sessionId commitId payloadDigest : String)
    (items : List SessionItem) : Except String (SessionAppendOutcome × SqliteSessions) := do
  validateSessionCommit commitId payloadDigest items
  let payloads ← items.mapM SessionItem.toText
  match db.selectCommit sessionId commitId with
  | some existing => do
      refuse (existing != payloadDigest) commitConflict
      return (.replayed, db)
  | none =>
      let written := db.insertItems sessionId payloads
      return (.committed,
        { written with commits := written.commits ++ [⟨sessionId, commitId, payloadDigest⟩] })

def popItem (db : SqliteSessions) (sessionId : String) :
    Except String (Option SessionItem × SqliteSessions) :=
  match (db.selectItems sessionId).getLast? with
  | none => .ok (none, db)
  | some row => do
      let item ← SessionItem.ofText row.payload
      return (some item, db.keepItems fun other => other.itemIndex != row.itemIndex)

def clear (db : SqliteSessions) (sessionId : String) : SqliteSessions :=
  { db.keepItems fun row => row.sessionId != sessionId with
    commits := db.commits.filter fun row => row.sessionId != sessionId }

def step (event : SessionEvent) (db : SqliteSessions) : SessionResult × SqliteSessions :=
  settle db <|
    match event.op with
    | .getItems limit => do
        let items ← db.getItems event.sessionId limit
        return (.items items, db)
    | .addItems items => do
        let after ← db.addItems event.sessionId items
        return (.added, after)
    | .addItemsOnce commitId payloadDigest items => do
        let (outcome, after) ← db.addItemsOnce event.sessionId commitId payloadDigest items
        return (.appended outcome, after)
    | .popItem => do
        let (item, after) ← db.popItem event.sessionId
        return (.popped item, after)
    | .clear => .ok (.cleared, db.clear event.sessionId)

end SqliteSessions

/-! ### Sessions in Redis -/

inductive RedisValue where
  | list (values : List String)
  | hash (fields : Table String)

/-- The keys of a server. -/
abbrev Keyspace := Table RedisValue

def wrongType : String :=
  "WRONGTYPE: Operation against a key holding the wrong kind of value"

namespace Keyspace

/-- The list under a key; a missing key is an empty list. -/
def listAt (keys : Keyspace) (key : String) : Except String (List String) :=
  match keys[key]? with
  | none => .ok []
  | some (.list values) => .ok values
  | some (.hash _) => .error wrongType

/-- The hash under a key; a missing key is an empty hash. -/
def hashAt (keys : Keyspace) (key : String) : Except String (Table String) :=
  match keys[key]? with
  | none => .ok ∅
  | some (.hash fields) => .ok fields
  | some (.list _) => .error wrongType

/-- The elements between two positions; a negative one counts from the end. -/
def range (values : List String) (start stop : Int) : List String :=
  let length : Int := values.length
  let first := if start < 0 then max (length + start) 0 else start
  let last := if stop < 0 then length + stop else stop
  (values.take (last + 1).toNat).drop first.toNat

def lrange (keys : Keyspace) (key : String) (start stop : Int) : Except String (List String) := do
  let values ← keys.listAt key
  return range values start stop

def rpush (keys : Keyspace) (key : String) (values : List String) : Except String Keyspace := do
  let before ← keys.listAt key
  return keys.insert key (.list (before ++ values))

/-- A list without elements is not kept. -/
def rpop (keys : Keyspace) (key : String) : Except String (Option String × Keyspace) := do
  let values ← keys.listAt key
  match values.getLast? with
  | none => return (none, keys)
  | some value =>
      if values.dropLast = [] then return (some value, keys.erase key)
      else return (some value, keys.insert key (.list values.dropLast))

def hget (keys : Keyspace) (key field : String) : Except String (Option String) := do
  let fields ← keys.hashAt key
  return fields[field]?

def hset (keys : Keyspace) (key field value : String) : Except String Keyspace := do
  let fields ← keys.hashAt key
  return keys.insert key (.hash (fields.insert field value))

def del (keys : Keyspace) (removed : List String) : Keyspace :=
  removed.foldl (fun keys key => keys.erase key) keys

/-- The values are pushed one by one. -/
def pushAll (keys : Keyspace) (key : String) (values : List String) : Except String Keyspace :=
  values.foldlM (fun keys value => keys.rpush key [value]) keys

/-- The script of `add_items_once`; what it wrote before a command failed stays. -/
def appendOnce (keys : Keyspace) (itemsKey commitsKey commitId payloadDigest : String)
    (payloads : List String) : Except String Int × Keyspace :=
  match keys.hget commitsKey commitId with
  | .error error => (.error error, keys)
  | .ok (some existing) => (.ok (if existing = payloadDigest then 0 else -1), keys)
  | .ok none =>
      match keys.pushAll itemsKey payloads with
      | .error error => (.error error, keys)
      | .ok pushed =>
          match pushed.hset commitsKey commitId payloadDigest with
          | .error error => (.error error, pushed)
          | .ok written => (.ok 1, written)

end Keyspace

def maxIsize : Nat := 2 ^ 63 - 1

namespace RedisSessions

def key (keyPrefix sessionId : String) : String := keyPrefix ++ ":" ++ sessionId

def commitKey (keyPrefix sessionId : String) : String := key keyPrefix sessionId ++ ":commits"

def getItems (keyPrefix : String) (keys : Keyspace) (sessionId : String) (limit : Option Nat) :
    Except String (List SessionItem) := do
  let payloads ←
    match limit with
    | some 0 => .ok []
    | some limit => keys.lrange (key keyPrefix sessionId) (-(min limit maxIsize : Nat)) (-1)
    | none => keys.lrange (key keyPrefix sessionId) 0 (-1)
  payloads.mapM SessionItem.ofText

def addItems (keyPrefix : String) (keys : Keyspace) (sessionId : String)
    (items : List SessionItem) : Except String Keyspace :=
  if items.isEmpty then .ok keys
  else do
    let payloads ← items.mapM SessionItem.toText
    keys.rpush (key keyPrefix sessionId) payloads

def addItemsOnce (keyPrefix : String) (keys : Keyspace)
    (sessionId commitId payloadDigest : String) (items : List SessionItem) :
    SessionResult × Keyspace :=
  let checked : Except String (List String) := do
    validateSessionCommit commitId payloadDigest items
    items.mapM SessionItem.toText
  match checked with
  | .error error => (.failed error, keys)
  | .ok payloads =>
      let (outcome, after) := keys.appendOnce (key keyPrefix sessionId)
        (commitKey keyPrefix sessionId) commitId payloadDigest payloads
      match outcome with
      | .ok 1 => (.appended .committed, after)
      | .ok 0 => (.appended .replayed, after)
      | .ok (-1) => (.failed commitConflict, after)
      | .ok _ => (.failed "redis session append-once returned an invalid outcome", after)
      | .error error => (.failed error, after)

/-- The item is removed before it is read. -/
def popItem (keyPrefix : String) (keys : Keyspace) (sessionId : String) :
    SessionResult × Keyspace :=
  match keys.rpop (key keyPrefix sessionId) with
  | .error error => (.failed error, keys)
  | .ok (none, after) => (.popped none, after)
  | .ok (some payload, after) =>
      match SessionItem.ofText payload with
      | .ok item => (.popped (some item), after)
      | .error error => (.failed error, after)

def clear (keyPrefix : String) (keys : Keyspace) (sessionId : String) : Keyspace :=
  keys.del [key keyPrefix sessionId, commitKey keyPrefix sessionId]

def step (keyPrefix : String) (event : SessionEvent) (keys : Keyspace) :
    SessionResult × Keyspace :=
  match event.op with
  | .getItems limit => settle keys do
      let items ← getItems keyPrefix keys event.sessionId limit
      return (.items items, keys)
  | .addItems items => settle keys do
      let after ← addItems keyPrefix keys event.sessionId items
      return (.added, after)
  | .addItemsOnce commitId payloadDigest items =>
      addItemsOnce keyPrefix keys event.sessionId commitId payloadDigest items
  | .popItem => popItem keyPrefix keys event.sessionId
  | .clear => (.cleared, clear keyPrefix keys event.sessionId)

end RedisSessions

end

end VvAgent
