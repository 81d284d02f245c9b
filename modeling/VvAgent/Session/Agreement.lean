import VvAgent.Sample
import VvAgent.Session.Stores

/-!
Session stores agree. The payloads that SQLite and Redis keep stand for the items that the
memory store keeps, and every operation keeps it so, as long as the items can be read back; with
Redis also as long as no session has the name of the commits of another one.
-/

namespace VvAgent
open Lib Lib.Outcome

/-- A bound that is not below the length of a list does not bound what is taken from it. -/
theorem take_min_of_length_le {α : Type} {values : List α} {bound : Nat}
    (h : values.length ≤ bound) (limit : Nat) :
    values.take (min limit bound) = values.take limit := by
  rcases Nat.le_total limit bound with hle | hle
  · rw [Nat.min_eq_left hle]
  · rw [Nat.min_eq_right hle, List.take_of_length_le h, List.take_of_length_le (h.trans hle)]

/-! ### What the statements of SQLite leave -/

namespace SqliteSessions

/-- The payloads of a session, in order. -/
def payloads (db : SqliteSessions) (sessionId : String) : List String :=
  (db.selectItems sessionId).map (·.payload)

theorem payloads_insertItem (db : SqliteSessions) (id other payload : String) :
    (db.insertItem id payload).payloads other =
      if id = other then db.payloads other ++ [payload] else db.payloads other := by
  unfold payloads selectItems insertItem
  dsimp only
  rw [List.filter_append, List.map_append]
  split_ifs with hid
  · simp [hid]
  · simp [hid]

theorem payloads_insertItems (db : SqliteSessions) (id other : String) (new : List String) :
    (db.insertItems id new).payloads other =
      if id = other then db.payloads other ++ new else db.payloads other := by
  unfold insertItems
  induction new generalizing db with
  | nil => simp
  | cons payload rest ih =>
      rw [List.foldl_cons, ih, payloads_insertItem]
      split_ifs <;> simp

theorem commits_insertItems (db : SqliteSessions) (id : String) (new : List String) :
    (db.insertItems id new).commits = db.commits := by
  unfold insertItems
  induction new generalizing db with
  | nil => rfl
  | cons payload rest ih => rw [List.foldl_cons, ih, insertItem]

/-- Rows with one index are one row. -/
theorem row_unique (db : SqliteSessions) {first second : SessionRow} (hfirst : first ∈ db.rows)
    (hsecond : second ∈ db.rows) (hindex : first.itemIndex = second.itemIndex) :
    first = second := by
  have hnodup : (db.rows.map (·.itemIndex)).Nodup := by
    rw [List.nodup_iff_pairwise_ne, List.pairwise_map]
    exact db.ordered.imp fun hlt => Nat.ne_of_lt hlt
  exact List.inj_on_of_nodup_map hnodup hfirst hsecond hindex

/-- Deleting the last row of a session takes away its last payload and no other. -/
theorem payloads_deleteLast (db : SqliteSessions) {id : String} {row : SessionRow}
    (hlast : (db.selectItems id).getLast? = some row) (other : String) :
    (db.keepItems fun kept => kept.itemIndex != row.itemIndex).payloads other =
      if id = other then (db.payloads other).dropLast else db.payloads other := by
  obtain ⟨earlier, hselected⟩ := List.getLast?_eq_some_iff.mp hlast
  have hrow : row ∈ db.selectItems id := by simp [hselected]
  obtain ⟨hrowMem, hrowId⟩ := List.mem_filter.mp hrow
  have hfilter : (db.keepItems fun kept => kept.itemIndex != row.itemIndex).selectItems other =
      (db.selectItems other).filter fun kept => kept.itemIndex != row.itemIndex := by
    unfold selectItems keepItems
    dsimp only
    rw [List.filter_filter, List.filter_filter]
    exact List.filter_congr fun kept _ => Bool.and_comm _ _
  unfold payloads
  rw [hfilter]
  split_ifs with hid
  · subst hid
    have hordered : (earlier ++ [row]).Pairwise fun first second =>
        first.itemIndex < second.itemIndex := by
      rw [← hselected]
      exact db.ordered.filter _
    have hkept : earlier.filter (fun kept => kept.itemIndex != row.itemIndex) = earlier := by
      rw [List.filter_eq_self]
      intro kept hkept
      have hlt := (List.pairwise_append.mp hordered).2.2 kept hkept row (by simp)
      simpa using Nat.ne_of_lt hlt
    rw [hselected, List.filter_append, hkept]
    simp
  · congr 1
    rw [List.filter_eq_self]
    intro kept hkept
    obtain ⟨hkeptMem, hkeptId⟩ := List.mem_filter.mp hkept
    rw [bne_iff_ne]
    intro hindex
    obtain rfl := db.row_unique hkeptMem hrowMem hindex
    exact hid ((beq_iff_eq.mp hrowId).symm.trans (beq_iff_eq.mp hkeptId))

theorem payloads_clear (db : SqliteSessions) (id other : String) :
    (db.clear id).payloads other = if id = other then [] else db.payloads other := by
  unfold payloads selectItems clear keepItems
  dsimp only
  rw [List.filter_filter]
  split_ifs with hid
  · subst hid
    have hnone : db.rows.filter (fun row => (row.sessionId == id) && (row.sessionId != id)) = [] := by
      rw [List.filter_eq_nil_iff]
      intro row _
      simp
    rw [hnone, List.map_nil]
  · congr 1
    refine List.filter_congr fun row _ => ?_
    by_cases hrow : row.sessionId = other
    · subst hrow
      simp [Ne.symm hid]
    · simp [hrow]

theorem selectCommit_clear (db : SqliteSessions) (id other commitId : String) :
    (db.clear id).selectCommit other commitId =
      if id = other then none else db.selectCommit other commitId := by
  unfold selectCommit clear
  dsimp only
  rw [List.find?_filter]
  split_ifs with hid
  · subst hid
    rw [Option.map_eq_none_iff, List.find?_eq_none]
    intro row _
    simpa using fun hne heq => absurd heq hne
  · congr 2
    funext row
    by_cases hrow : row.sessionId = other
    · subst hrow
      simp only [bne_iff_ne, ne_eq, Ne.symm hid, not_false_eq_true, true_and, Bool.decide_eq_true]
    · simp [hrow]

theorem selectCommit_insertItems (db : SqliteSessions) (id : String) (new : List String)
    (other commitId : String) :
    (db.insertItems id new).selectCommit other commitId = db.selectCommit other commitId := by
  unfold selectCommit
  rw [commits_insertItems]

/-- A commit row is found under its own key, where there was none before. -/
theorem selectCommit_append (db : SqliteSessions) (id commitId digest : String)
    (hnew : db.selectCommit id commitId = none) (other otherCommit : String) :
    { db with
      commits := db.commits ++ [SessionCommitRow.mk id commitId digest] }.selectCommit other
        otherCommit =
      if id = other ∧ commitId = otherCommit then some digest
      else db.selectCommit other otherCommit := by
  unfold selectCommit at hnew ⊢
  dsimp only
  rw [List.find?_append]
  split_ifs with hsame
  · obtain ⟨rfl, rfl⟩ := hsame
    rw [Option.map_eq_none_iff] at hnew
    simp [hnew]
  · have hnone : [(⟨id, commitId, digest⟩ : SessionCommitRow)].find? (fun row =>
        row.sessionId == other && row.commitId == otherCommit) = none := by
      rw [List.find?_eq_none]
      intro row hrow
      obtain rfl := List.mem_singleton.mp hrow
      simpa using hsame
    rw [hnone, Option.or_none]

end SqliteSessions

/-! ### SQLite follows the memory store -/

section
variable [Texts]

def SessionOp.newItems : SessionOp → List SessionItem
  | .addItems items => items
  | .addItemsOnce _ _ items => items
  | _ => []

/-- The steps of the runs in which stores agree: on sessions with the given ids, with items made
of storable messages, and with no more items in a session that is read than a vector can
hold. -/
structure SessionEvent.Allowed (ids : List String) (event : SessionEvent)
    (store : MemorySessions) : Prop where
  session : event.sessionId ∈ ids
  items : ∀ item ∈ event.op.newItems, ∃ message, item = .fromMessage message ∧
    message.Storable
  count : (store.session event.sessionId).items.length ≤ maxIsize

namespace SessionItem

/-- Items made of storable messages have payloads. -/
theorem mapM_toText {items : List SessionItem}
    (h : ∀ item ∈ items, ∃ message, item = .fromMessage message ∧ message.Storable) :
    ∃ payloads, items.mapM toText = .ok payloads ∧ List.Forall₂ WrittenAs payloads items := by
  induction items with
  | nil => exact ⟨[], rfl, .nil⟩
  | cons item rest ih =>
      obtain ⟨message, rfl, hstorable⟩ := h item (List.mem_cons_self ..)
      obtain ⟨payloads, hpayloads, hall⟩ := ih fun later hlater =>
        h later (List.mem_cons_of_mem _ hlater)
      have hwritten := writtenAs_fromMessage hstorable
      refine ⟨_ :: payloads, ?_, .cons hwritten hall⟩
      simp [List.mapM_cons, hwritten.written, hpayloads]

theorem mapM_ofText {payloads : List String} {items : List SessionItem}
    (h : List.Forall₂ WrittenAs payloads items) : payloads.mapM ofText = .ok items := by
  induction h with
  | nil => rfl
  | cons hfirst _ ih => simp [List.mapM_cons, hfirst.readBack, ih]

end SessionItem

open SessionItem (WrittenAs)

/-- The ways in which a commit is answered. -/
theorem MemorySession.addItemsOnce_cases (session : MemorySession) (commitId digest : String)
    (items : List SessionItem) :
    (∃ error, validateSessionCommit commitId digest items = .error error ∧
        session.step (.addItemsOnce commitId digest items) = (.failed error, session)) ∨
      (validateSessionCommit commitId digest items = .ok () ∧
        session.commits[commitId]? = some digest ∧
        session.step (.addItemsOnce commitId digest items) = (.appended .replayed, session)) ∨
      (∃ existing, existing ≠ digest ∧ validateSessionCommit commitId digest items = .ok () ∧
        session.commits[commitId]? = some existing ∧
        session.step (.addItemsOnce commitId digest items) = (.failed commitConflict, session)) ∨
      (validateSessionCommit commitId digest items = .ok () ∧ session.commits[commitId]? = none ∧
        session.step (.addItemsOnce commitId digest items) =
          (.appended .committed,
            { items := session.items ++ items
              commits := session.commits.insert commitId digest })) := by
  cases hvalid : validateSessionCommit commitId digest items with
  | error error => exact .inl ⟨error, rfl, by simp [step, addItemsOnce, hvalid]⟩
  | ok valid =>
      cases hexisting : session.commits[commitId]? with
      | none => exact .inr (.inr (.inr ⟨rfl, rfl, by simp [step, addItemsOnce, hvalid, hexisting]⟩))
      | some existing =>
          by_cases hdigest : existing = digest
          · subst hdigest
            exact .inr (.inl ⟨rfl, rfl, by simp [step, addItemsOnce, hvalid, hexisting]⟩)
          · have hne : (existing != digest) = true := by simpa using hdigest
            exact .inr (.inr (.inl ⟨existing, hdigest, rfl, rfl,
              by simp [step, addItemsOnce, hvalid, hexisting, hne]⟩))

namespace MemorySessions

theorem session_step_self (event : SessionEvent) (store : MemorySessions) :
    (next step event store).session event.sessionId =
      ((store.session event.sessionId).step event.op).2 := by
  rw [session_step, if_pos rfl]

theorem session_step_other (event : SessionEvent) (store : MemorySessions) {other : String}
    (hother : event.sessionId ≠ other) :
    (next step event store).session other = store.session other := by
  rw [session_step, if_neg hother]

end MemorySessions

namespace SqliteSessions

structure Stands (db : SqliteSessions) (store : MemorySessions) : Prop where
  items : ∀ id, List.Forall₂ WrittenAs (db.payloads id) (store.session id).items
  commits : ∀ id commitId, db.selectCommit id commitId = (store.session id).commits[commitId]?

/-- An operation that leaves what stands for its session, and nothing else changed. -/
theorem Stands.update {db after : SqliteSessions} {store : MemorySessions} (h : db.Stands store)
    (event : SessionEvent)
    (hframe : ∀ other, event.sessionId ≠ other → after.payloads other = db.payloads other ∧
      ∀ commitId, after.selectCommit other commitId = db.selectCommit other commitId)
    (hitems : List.Forall₂ WrittenAs (after.payloads event.sessionId)
      ((store.session event.sessionId).step event.op).2.items)
    (hcommits : ∀ commitId, after.selectCommit event.sessionId commitId =
      ((store.session event.sessionId).step event.op).2.commits[commitId]?) :
    after.Stands (next MemorySessions.step event store) := by
  constructor
  · intro id
    by_cases hid : event.sessionId = id
    · subst hid
      rw [MemorySessions.session_step_self]
      exact hitems
    · rw [MemorySessions.session_step_other event store hid, (hframe id hid).1]
      exact h.items id
  · intro id commitId
    by_cases hid : event.sessionId = id
    · subst hid
      rw [MemorySessions.session_step_self]
      exact hcommits commitId
    · rw [MemorySessions.session_step_other event store hid, (hframe id hid).2]
      exact h.commits id commitId

/-- The answer is the memory store's, and what is left stands for what the memory store has. -/
def Follows (ids : List String) (event : SessionEvent) : Prop :=
  ∀ (db : SqliteSessions) (store : MemorySessions), event.Allowed ids store → db.Stands store →
    (step event db).1 = (MemorySessions.step event store).1 ∧
      (next step event db).Stands (next MemorySessions.step event store)

theorem follows_getItems (ids : List String) (id : String) (limit : Option Nat) :
    Follows ids ⟨id, .getItems limit⟩ := by
  intro db store hallowed h
  have hitems := h.items id
  have hlength : (db.payloads id).length ≤ maxI64 := by
    rw [hitems.length_eq]
    exact hallowed.count
  have hread : db.getItems id limit = .ok ((store.session id).getItems limit) := by
    have hmap : ∀ rows : List SessionRow, rows.mapM (fun row => SessionItem.ofText row.payload) =
        (rows.map (·.payload)).mapM SessionItem.ofText := fun rows => by rw [List.mapM_map]; rfl
    unfold getItems MemorySession.getItems
    cases limit with
    | none =>
        rw [hmap]
        exact SessionItem.mapM_ofText hitems
    | some limit =>
        dsimp only
        rw [hmap, List.map_reverse, List.map_take, List.map_reverse]
        change ((db.payloads id).reverse.take (min limit maxI64)).reverse.mapM _ = _
        rw [take_min_of_length_le (by rwa [List.length_reverse])]
        refine SessionItem.mapM_ofText ?_
        rw [List.forall₂_reverse_iff]
        exact List.forall₂_take limit (List.forall₂_reverse_iff.mpr hitems)
  have hstep : step ⟨id, .getItems limit⟩ db =
      (.items ((store.session id).getItems limit), db) := by
    simp [step, hread, settle]
  have hnext : next step ⟨id, .getItems limit⟩ db = db := by rw [next, hstep]
  refine ⟨by rw [hstep]; rfl, ?_⟩
  rw [hnext]
  exact h.update ⟨id, .getItems limit⟩ (fun _ _ => ⟨rfl, fun _ => rfl⟩) hitems (h.commits id)

theorem follows_addItems (ids : List String) (id : String) (items : List SessionItem) :
    Follows ids ⟨id, .addItems items⟩ := by
  intro db store hallowed h
  obtain ⟨payloads, hpayloads, hwritten⟩ := SessionItem.mapM_toText hallowed.items
  change items.mapM SessionItem.toText = .ok payloads at hpayloads
  change List.Forall₂ WrittenAs payloads items at hwritten
  have hstep : step ⟨id, .addItems items⟩ db = (.added, db.insertItems id payloads) := by
    simp [step, addItems, hpayloads, settle]
  have hnext : next step ⟨id, .addItems items⟩ db = db.insertItems id payloads := by
    rw [next, hstep]
  refine ⟨by rw [hstep]; rfl, ?_⟩
  rw [hnext]
  refine h.update ⟨id, .addItems items⟩ ?_ ?_ ?_
  · intro other hother
    exact ⟨by rw [payloads_insertItems, if_neg hother], selectCommit_insertItems db id payloads other⟩
  · rw [payloads_insertItems, if_pos rfl]
    exact List.rel_append (h.items id) hwritten
  · intro commitId
    rw [selectCommit_insertItems]
    exact h.commits id commitId

theorem follows_addItemsOnce (ids : List String) (id commitId digest : String)
    (items : List SessionItem) : Follows ids ⟨id, .addItemsOnce commitId digest items⟩ := by
  intro db store hallowed h
  obtain ⟨payloads, hpayloads, hwritten⟩ := SessionItem.mapM_toText hallowed.items
  change items.mapM SessionItem.toText = .ok payloads at hpayloads
  change List.Forall₂ WrittenAs payloads items at hwritten
  let event : SessionEvent := ⟨id, .addItemsOnce commitId digest items⟩
  have hcommit := h.commits id commitId
  have hsame : ∀ answer, (store.session id).step event.op = (answer, store.session id) →
      step event db = (answer, db) →
      (step event db).1 = (MemorySessions.step event store).1 ∧
        (next step event db).Stands (next MemorySessions.step event store) := by
    intro answer hmemory hstep
    rw [next, hstep]
    refine ⟨by rw [MemorySessions.step, hmemory], ?_⟩
    refine h.update event (fun _ _ => ⟨rfl, fun _ => rfl⟩) ?_ fun other => ?_
    · rw [hmemory]
      exact h.items id
    · rw [hmemory]
      exact h.commits id other
  rcases (store.session id).addItemsOnce_cases commitId digest items with
    ⟨error, hvalid, hmemory⟩ | ⟨hvalid, hexisting, hmemory⟩ |
    ⟨existing, hne, hvalid, hexisting, hmemory⟩ | ⟨hvalid, hexisting, hmemory⟩
  · refine hsame _ hmemory ?_
    simp [event, step, addItemsOnce, hvalid, settle]
  · rw [hexisting] at hcommit
    refine hsame _ hmemory ?_
    simp [event, step, addItemsOnce, hvalid, hpayloads, hcommit, settle]
  · rw [hexisting] at hcommit
    have hdigest : (existing != digest) = true := by simpa using hne
    refine hsame _ hmemory ?_
    simp [event, step, addItemsOnce, hvalid, hpayloads, hcommit, hdigest, settle]
  · rw [hexisting] at hcommit
    let written := db.insertItems id payloads
    have hstep : step event db = (.appended .committed, { written with
        commits := written.commits ++ [SessionCommitRow.mk id commitId digest] }) := by
      simp [event, step, addItemsOnce, hvalid, hpayloads, hcommit, settle, written]
    have hnone : written.selectCommit id commitId = none := by
      rw [selectCommit_insertItems, hcommit]
    rw [next, hstep]
    refine ⟨by rw [MemorySessions.step, hmemory], h.update event ?_ ?_ ?_⟩
    · intro other hother
      constructor
      · change written.payloads other = _
        rw [payloads_insertItems, if_neg hother]
      · intro otherCommit
        rw [selectCommit_append _ _ _ _ hnone, if_neg (fun hboth => hother hboth.1),
          selectCommit_insertItems]
    · rw [hmemory]
      change List.Forall₂ WrittenAs (written.payloads id) _
      rw [payloads_insertItems, if_pos rfl]
      exact List.rel_append (h.items id) hwritten
    · intro otherCommit
      rw [hmemory, selectCommit_append _ _ _ _ hnone, selectCommit_insertItems, h.commits,
        Table.get_insert]
      simp [event]

theorem follows_popItem (ids : List String) (id : String) : Follows ids ⟨id, .popItem⟩ := by
  intro db store hallowed h
  have hitems := h.items id
  have hmemory : (store.session id).step .popItem = (.popped (store.session id).items.getLast?,
      { store.session id with items := (store.session id).items.dropLast }) := rfl
  cases hlast : (db.selectItems id).getLast? with
  | none =>
      have hselected : db.selectItems id = [] := List.getLast?_eq_none_iff.mp hlast
      have hempty : (store.session id).items = [] := by
        have hlength := hitems.length_eq
        rw [payloads, hselected] at hlength
        exact List.eq_nil_of_length_eq_zero hlength.symm
      have hstep : step ⟨id, .popItem⟩ db = (.popped none, db) := by
        simp [step, popItem, hlast, settle]
      rw [next, hstep]
      refine ⟨by rw [MemorySessions.step, hmemory, hempty]; rfl, ?_⟩
      refine h.update ⟨id, .popItem⟩ (fun _ _ => ⟨rfl, fun _ => rfl⟩) ?_ (h.commits id)
      change List.Forall₂ WrittenAs (db.payloads id) (store.session id).items.dropLast
      rw [hempty] at hitems ⊢
      exact hitems
  | some row =>
      obtain ⟨earlier, hselected⟩ := List.getLast?_eq_some_iff.mp hlast
      have hpayloads : db.payloads id = earlier.map (·.payload) ++ [row.payload] := by
        rw [payloads, hselected, List.map_append, List.map_singleton]
      obtain ⟨before, item, hsplit, hbefore, hitem⟩ :
          ∃ before item, (store.session id).items = before ++ [item] ∧
            List.Forall₂ WrittenAs (earlier.map (·.payload)) before ∧
              WrittenAs row.payload item := by
        rw [hpayloads] at hitems
        exact forall₂_concat hitems
      have hstep : step ⟨id, .popItem⟩ db = (.popped (some item),
          db.keepItems fun kept => kept.itemIndex != row.itemIndex) := by
        simp [step, popItem, hlast, hitem.readBack, settle]
      rw [next, hstep]
      refine ⟨by rw [MemorySessions.step, hmemory, hsplit]; simp, ?_⟩
      refine h.update ⟨id, .popItem⟩ ?_ ?_ (h.commits id)
      · intro other hother
        exact ⟨by rw [payloads_deleteLast db hlast, if_neg hother], fun _ => rfl⟩
      · change List.Forall₂ WrittenAs _ (store.session id).items.dropLast
        rw [payloads_deleteLast db hlast, if_pos rfl, hpayloads, hsplit]
        simpa using hbefore

theorem follows_clear (ids : List String) (id : String) : Follows ids ⟨id, .clear⟩ := by
  intro db store hallowed h
  have hstep : step ⟨id, .clear⟩ db = (.cleared, db.clear id) := rfl
  rw [next, hstep]
  refine ⟨rfl, h.update ⟨id, .clear⟩ ?_ ?_ ?_⟩
  · intro other hother
    exact ⟨by rw [payloads_clear, if_neg hother],
      fun commitId => by rw [selectCommit_clear, if_neg hother]⟩
  · rw [payloads_clear, if_pos rfl]
    exact .nil
  · intro commitId
    rw [selectCommit_clear, if_pos rfl]
    simp [MemorySession.step]

theorem follows (ids : List String) (event : SessionEvent) : Follows ids event := by
  obtain ⟨id, op⟩ := event
  cases op with
  | getItems limit => exact follows_getItems ids id limit
  | addItems items => exact follows_addItems ids id items
  | addItemsOnce commitId digest items => exact follows_addItemsOnce ids id commitId digest items
  | popItem => exact follows_popItem ids id
  | clear => exact follows_clear ids id

theorem simulation (ids : List String) :
    Simulation step MemorySessions.step (SessionEvent.Allowed ids) Stands where
  answer event db store hallowed h := (follows ids event db store hallowed h).1
  related event db store hallowed h := (follows ids event db store hallowed h).2

end SqliteSessions

/-! ### Redis follows the memory store -/

/-- No session has the name under which the commits of another one are kept. -/
def Separate (ids : List String) : Prop :=
  ∀ first ∈ ids, ∀ second ∈ ids, first ≠ second ++ ":commits"

namespace Keyspace

omit [Texts] in
theorem listAt_congr {keys after : Keyspace} {key : String} (h : after[key]? = keys[key]?) :
    after.listAt key = keys.listAt key := by
  unfold listAt
  rw [h]

omit [Texts] in
theorem hashAt_congr {keys after : Keyspace} {key : String} (h : after[key]? = keys[key]?) :
    after.hashAt key = keys.hashAt key := by
  unfold hashAt
  rw [h]

omit [Texts] in
/-- A positive number of elements from the end. -/
theorem range_last (values : List String) (count : Nat) (hpos : 0 < count) :
    range values (-(count : Int)) (-1) = (values.reverse.take count).reverse := by
  have hfirst : (-(count : Int)) < 0 := by omega
  have hlast : ((values.length : Int) + -1 + 1).toNat = values.length := by omega
  have hdrop : (max ((values.length : Int) + -(count : Int)) 0).toNat =
      values.length - count := by omega
  unfold range
  dsimp only
  rw [if_pos hfirst, if_pos (by omega), hlast, hdrop, List.take_length, List.take_reverse,
    List.reverse_reverse]

omit [Texts] in
theorem range_all (values : List String) : range values 0 (-1) = values := by
  have hlast : ((values.length : Int) + -1 + 1).toNat = values.length := by omega
  unfold range
  dsimp only
  rw [if_neg (by omega), if_pos (by omega), hlast]
  simp

omit [Texts] in
/-- Pushing to a list. -/
theorem rpush_eq_ok {keys : Keyspace} {key : String} {before : List String}
    (h : keys.listAt key = .ok before) (values : List String) :
    keys.rpush key values = .ok (keys.insert key (.list (before ++ values))) := by
  rw [rpush, h]
  rfl

omit [Texts] in
theorem listAt_insert (keys : Keyspace) (key : String) (values : List String) :
    listAt (keys.insert key (.list values)) key = .ok values := by
  unfold listAt
  rw [Table.get_insert, if_pos rfl]

omit [Texts] in
/-- Pushing one by one leaves the other keys alone. -/
theorem pushAll_eq_ok {keys : Keyspace} {key : String} {before : List String}
    (h : keys.listAt key = .ok before) (values : List String) :
    ∃ after : Keyspace, keys.pushAll key values = .ok after ∧
      after.listAt key = .ok (before ++ values) ∧
        ∀ other, other ≠ key → after[other]? = keys[other]? := by
  unfold pushAll
  induction values generalizing keys before with
  | nil => exact ⟨keys, rfl, by rw [h, List.append_nil], fun _ _ => rfl⟩
  | cons value rest ih =>
      obtain ⟨after, hafter, hlist, hframe⟩ :=
        ih (listAt_insert keys key (before ++ [value]))
      refine ⟨after, ?_, ?_, ?_⟩
      · rw [List.foldlM_cons, rpush_eq_ok h, ok_bind, hafter]
      · rw [hlist, List.append_assoc, List.singleton_append]
      · intro other hother
        rw [hframe other hother, Table.get_insert, if_neg hother.symm]

end Keyspace

namespace RedisSessions
open Keyspace

omit [Texts] in
theorem key_inj {keyPrefix first second : String} (h : key keyPrefix first = key keyPrefix second) :
    first = second := by
  have hlists := congrArg String.toList h
  exact String.toList_inj.mp (by simpa [key, String.toList_append] using hlists)

omit [Texts] in
theorem commitKey_inj {keyPrefix first second : String}
    (h : commitKey keyPrefix first = commitKey keyPrefix second) : first = second := by
  have hlists := congrArg String.toList h
  exact String.toList_inj.mp (by simpa [commitKey, key, String.toList_append] using hlists)

omit [Texts] in
/-- A session's list stands under another session's commits only if it has their name. -/
theorem eq_of_key_eq_commitKey {keyPrefix first second : String}
    (h : key keyPrefix first = commitKey keyPrefix second) : first = second ++ ":commits" := by
  have hkey : commitKey keyPrefix second = key keyPrefix (second ++ ":commits") := by
    simp [commitKey, key, String.append_assoc]
  exact key_inj (h.trans hkey)

/-- The lists and hashes under the keys of the sessions. -/
structure Stands (keyPrefix : String) (ids : List String) (keys : Keyspace)
    (store : MemorySessions) : Prop where
  items : ∀ id ∈ ids, ∃ payloads, keys.listAt (key keyPrefix id) = .ok payloads ∧
    List.Forall₂ WrittenAs payloads (store.session id).items
  commits : ∀ id ∈ ids, ∃ fields : Table String,
    keys.hashAt (commitKey keyPrefix id) = .ok fields ∧
      ∀ commitId : String, fields[commitId]? = (store.session id).commits[commitId]?

variable {keyPrefix : String} {ids : List String}

/-- An operation that leaves what stands for its session, and only writes under its keys. -/
theorem Stands.update {keys after : Keyspace} {store : MemorySessions}
    (h : Stands keyPrefix ids keys store) (hids : Separate ids) (event : SessionEvent)
    (hevent : event.sessionId ∈ ids)
    (hframe : ∀ other, other ≠ key keyPrefix event.sessionId →
      other ≠ commitKey keyPrefix event.sessionId → after[other]? = keys[other]?)
    (hitems : ∃ payloads, after.listAt (key keyPrefix event.sessionId) = .ok payloads ∧
      List.Forall₂ WrittenAs payloads ((store.session event.sessionId).step event.op).2.items)
    (hcommits : ∃ fields : Table String,
      after.hashAt (commitKey keyPrefix event.sessionId) = .ok fields ∧ ∀ commitId : String,
        fields[commitId]? = ((store.session event.sessionId).step event.op).2.commits[commitId]?) :
    Stands keyPrefix ids after (next MemorySessions.step event store) := by
  constructor
  · intro id hid
    by_cases hsame : event.sessionId = id
    · subst hsame
      rw [MemorySessions.session_step_self]
      exact hitems
    · have hkey : key keyPrefix id ≠ key keyPrefix event.sessionId := fun heq =>
        hsame (key_inj heq).symm
      have hcommit : key keyPrefix id ≠ commitKey keyPrefix event.sessionId := fun heq =>
        hids id hid event.sessionId hevent (eq_of_key_eq_commitKey heq)
      rw [MemorySessions.session_step_other event store hsame,
        listAt_congr (hframe _ hkey hcommit)]
      exact h.items id hid
  · intro id hid
    by_cases hsame : event.sessionId = id
    · subst hsame
      rw [MemorySessions.session_step_self]
      exact hcommits
    · have hkey : commitKey keyPrefix id ≠ key keyPrefix event.sessionId := fun heq =>
        hids event.sessionId hevent id hid (eq_of_key_eq_commitKey heq.symm)
      have hcommit : commitKey keyPrefix id ≠ commitKey keyPrefix event.sessionId := fun heq =>
        hsame (commitKey_inj heq).symm
      rw [MemorySessions.session_step_other event store hsame,
        hashAt_congr (hframe _ hkey hcommit)]
      exact h.commits id hid

/-- An operation that changes nothing. -/
theorem Stands.unchanged {keys : Keyspace} {store : MemorySessions}
    (h : Stands keyPrefix ids keys store) (hids : Separate ids) (event : SessionEvent)
    (hevent : event.sessionId ∈ ids)
    (hmemory : ((store.session event.sessionId).step event.op).2 =
      store.session event.sessionId) :
    Stands keyPrefix ids keys (next MemorySessions.step event store) := by
  refine h.update hids event hevent (fun _ _ _ => rfl) ?_ ?_
  · rw [hmemory]
    exact h.items _ hevent
  · rw [hmemory]
    exact h.commits _ hevent

omit [Texts] in
theorem key_ne_commitKey (keyPrefix id : String) : key keyPrefix id ≠ commitKey keyPrefix id := by
  intro heq
  have hlength := congrArg String.length (eq_of_key_eq_commitKey heq)
  simp [String.length_append] at hlength

/-- The answer is the memory store's, and what is left stands for what the memory store has. -/
def Follows (keyPrefix : String) (ids : List String) (event : SessionEvent) : Prop :=
  ∀ (keys : Keyspace) (store : MemorySessions), Separate ids → event.Allowed ids store →
    Stands keyPrefix ids keys store →
      (step keyPrefix event keys).1 = (MemorySessions.step event store).1 ∧
        Stands keyPrefix ids (next (step keyPrefix) event keys)
          (next MemorySessions.step event store)

theorem follows_getItems (id : String) (limit : Option Nat) :
    Follows keyPrefix ids ⟨id, .getItems limit⟩ := by
  intro keys store hids hallowed h
  have hid : id ∈ ids := hallowed.session
  obtain ⟨payloads, hlist, hitems⟩ := h.items id hid
  have hlength : payloads.length ≤ maxIsize := by
    rw [hitems.length_eq]
    exact hallowed.count
  have hread : getItems keyPrefix keys id limit = .ok ((store.session id).getItems limit) := by
    unfold getItems MemorySession.getItems
    rcases limit with _ | _ | count
    · simp only [lrange, hlist, ok_bind, pure_ok, range_all]
      exact SessionItem.mapM_ofText hitems
    · rfl
    · have hpos : 0 < min (count + 1) maxIsize := by
        have hmax : 0 < maxIsize := by decide
        omega
      simp only [lrange, hlist, ok_bind, pure_ok, range_last payloads _ hpos]
      rw [take_min_of_length_le (by rwa [List.length_reverse])]
      refine SessionItem.mapM_ofText ?_
      rw [List.forall₂_reverse_iff]
      exact List.forall₂_take _ (List.forall₂_reverse_iff.mpr hitems)
  have hstep : step keyPrefix ⟨id, .getItems limit⟩ keys =
      (.items ((store.session id).getItems limit), keys) := by
    simp [step, hread, settle]
  rw [next, hstep]
  exact ⟨rfl, h.unchanged hids ⟨id, .getItems limit⟩ hid rfl⟩

theorem follows_addItems (id : String) (items : List SessionItem) :
    Follows keyPrefix ids ⟨id, .addItems items⟩ := by
  intro keys store hids hallowed h
  have hid : id ∈ ids := hallowed.session
  obtain ⟨payloads, hlist, hitems⟩ := h.items id hid
  obtain ⟨added, hadded, hwritten⟩ := SessionItem.mapM_toText hallowed.items
  change items.mapM SessionItem.toText = .ok added at hadded
  change List.Forall₂ WrittenAs added items at hwritten
  by_cases hempty : items = []
  · subst hempty
    have hstep : step keyPrefix ⟨id, .addItems []⟩ keys = (.added, keys) := rfl
    rw [next, hstep]
    refine ⟨rfl, h.unchanged hids ⟨id, .addItems []⟩ hid ?_⟩
    simp [MemorySession.step, MemorySession.addItems]
  · have hstep : step keyPrefix ⟨id, .addItems items⟩ keys =
        (.added, keys.insert (key keyPrefix id) (.list (payloads ++ added))) := by
      simp [step, addItems, hempty, hadded, rpush_eq_ok hlist, settle]
    rw [next, hstep]
    refine ⟨rfl, h.update hids ⟨id, .addItems items⟩ hid ?_ ?_ ?_⟩
    · intro other hother _
      rw [Table.get_insert, if_neg hother.symm]
    · exact ⟨payloads ++ added, listAt_insert _ _ _, List.rel_append hitems hwritten⟩
    · obtain ⟨fields, hfields, hcommits⟩ := h.commits id hid
      refine ⟨fields, ?_, hcommits⟩
      rw [hashAt_congr, hfields]
      rw [Table.get_insert, if_neg (key_ne_commitKey keyPrefix id)]

theorem follows_popItem (id : String) : Follows keyPrefix ids ⟨id, .popItem⟩ := by
  intro keys store hids hallowed h
  have hid : id ∈ ids := hallowed.session
  obtain ⟨payloads, hlist, hitems⟩ := h.items id hid
  have hmemory : (store.session id).step .popItem = (.popped (store.session id).items.getLast?,
      { store.session id with items := (store.session id).items.dropLast }) := rfl
  cases hlast : payloads.getLast? with
  | none =>
      obtain rfl := List.getLast?_eq_none_iff.mp hlast
      have hempty : (store.session id).items = [] := List.forall₂_nil_left_iff.mp hitems
      have hstep : step keyPrefix ⟨id, .popItem⟩ keys = (.popped none, keys) := by
        simp [step, popItem, rpop, hlist]
      rw [next, hstep]
      refine ⟨by rw [MemorySessions.step, hmemory, hempty]; rfl, ?_⟩
      refine h.unchanged hids ⟨id, .popItem⟩ hid ?_
      change { store.session id with items := (store.session id).items.dropLast } = _
      rw [hempty, List.dropLast_nil, ← hempty]
  | some payload =>
      obtain ⟨earlier, rfl⟩ := List.getLast?_eq_some_iff.mp hlast
      obtain ⟨before, item, hsplit, hbefore, hitem⟩ := forall₂_concat hitems
      obtain ⟨after, hpop, hafter, hframe⟩ : ∃ after : Keyspace,
          keys.rpop (key keyPrefix id) = .ok (some payload, after) ∧
            after.listAt (key keyPrefix id) = .ok earlier ∧
              ∀ other, other ≠ key keyPrefix id → after[other]? = keys[other]? := by
        by_cases hone : earlier = []
        · subst hone
          refine ⟨keys.erase (key keyPrefix id), by simp [rpop, hlist], ?_, ?_⟩
          · unfold listAt
            rw [Table.get_erase, if_pos rfl]
          · intro other hother
            rw [Table.get_erase, if_neg hother.symm]
        · refine ⟨keys.insert (key keyPrefix id) (.list earlier), by simp [rpop, hlist, hone],
            listAt_insert _ _ _, ?_⟩
          intro other hother
          rw [Table.get_insert, if_neg hother.symm]
      have hstep : step keyPrefix ⟨id, .popItem⟩ keys = (.popped (some item), after) := by
        simp [step, popItem, hpop, hitem.readBack]
      rw [next, hstep]
      refine ⟨by rw [MemorySessions.step, hmemory, hsplit]; simp, ?_⟩
      refine h.update hids ⟨id, .popItem⟩ hid (fun other hother _ => hframe other hother) ?_ ?_
      · refine ⟨earlier, hafter, ?_⟩
        change List.Forall₂ WrittenAs _ (store.session id).items.dropLast
        rw [hsplit]
        simpa using hbefore
      · obtain ⟨fields, hfields, hcommits⟩ := h.commits id hid
        refine ⟨fields, ?_, hcommits⟩
        rw [hashAt_congr (hframe _ (key_ne_commitKey keyPrefix id).symm), hfields]

theorem follows_clear (id : String) : Follows keyPrefix ids ⟨id, .clear⟩ := by
  intro keys store hids hallowed h
  have hid : id ∈ ids := hallowed.session
  let after : Keyspace := (keys.erase (key keyPrefix id)).erase (commitKey keyPrefix id)
  have hstep : step keyPrefix ⟨id, .clear⟩ keys = (.cleared, after) := rfl
  have hafter : ∀ other : String, after[other]? =
      if commitKey keyPrefix id = other then none
      else if key keyPrefix id = other then none else keys[other]? := by
    intro other
    rw [Table.get_erase, Table.get_erase]
  rw [next, hstep]
  refine ⟨rfl, h.update hids ⟨id, .clear⟩ hid ?_ ?_ ?_⟩
  · intro other hother hcommit
    rw [hafter, if_neg hcommit.symm, if_neg hother.symm]
  · refine ⟨[], ?_, .nil⟩
    unfold listAt
    rw [hafter, if_neg (key_ne_commitKey keyPrefix id).symm, if_pos rfl]
  · refine ⟨∅, ?_, ?_⟩
    · unfold hashAt
      rw [hafter, if_pos rfl]
    · intro commitId
      simp [MemorySession.step]

theorem follows_addItemsOnce (id commitId digest : String) (items : List SessionItem) :
    Follows keyPrefix ids ⟨id, .addItemsOnce commitId digest items⟩ := by
  intro keys store hids hallowed h
  have hid : id ∈ ids := hallowed.session
  let event : SessionEvent := ⟨id, .addItemsOnce commitId digest items⟩
  obtain ⟨payloads, hlist, hitems⟩ := h.items id hid
  obtain ⟨fields, hhash, hcommits⟩ := h.commits id hid
  obtain ⟨added, hadded, hwritten⟩ := SessionItem.mapM_toText hallowed.items
  change items.mapM SessionItem.toText = .ok added at hadded
  change List.Forall₂ WrittenAs added items at hwritten
  have hget : keys.hget (commitKey keyPrefix id) commitId =
      .ok (store.session id).commits[commitId]? := by
    rw [hget, hhash, ← hcommits commitId]
    rfl
  have hsame : ∀ answer, (store.session id).step event.op = (answer, store.session id) →
      step keyPrefix event keys = (answer, keys) →
      (step keyPrefix event keys).1 = (MemorySessions.step event store).1 ∧
        Stands keyPrefix ids (next (step keyPrefix) event keys)
          (next MemorySessions.step event store) := by
    intro answer hmemory hstep
    rw [next, hstep]
    refine ⟨by rw [MemorySessions.step, hmemory], h.unchanged hids event hid ?_⟩
    rw [hmemory]
  rcases (store.session id).addItemsOnce_cases commitId digest items with
    ⟨error, hvalid, hmemory⟩ | ⟨hvalid, hexisting, hmemory⟩ |
    ⟨existing, hne, hvalid, hexisting, hmemory⟩ | ⟨hvalid, hexisting, hmemory⟩
  · refine hsame _ hmemory ?_
    simp [event, step, addItemsOnce, hvalid]
  · rw [hexisting] at hget
    refine hsame _ hmemory ?_
    simp [event, step, addItemsOnce, hvalid, hadded, appendOnce, hget]
  · rw [hexisting] at hget
    refine hsame _ hmemory ?_
    simp [event, step, addItemsOnce, hvalid, hadded, appendOnce, hget, hne]
  · rw [hexisting] at hget
    obtain ⟨pushed, hpush, hpushed, hframe⟩ := pushAll_eq_ok hlist added
    have hpushedHash : pushed.hashAt (commitKey keyPrefix id) = .ok fields := by
      rw [hashAt_congr (hframe _ (key_ne_commitKey keyPrefix id).symm), hhash]
    let after : Keyspace :=
      pushed.insert (commitKey keyPrefix id) (.hash (fields.insert commitId digest))
    have hset : pushed.hset (commitKey keyPrefix id) commitId digest = .ok after := by
      rw [hset, hpushedHash]
      rfl
    have hstep : step keyPrefix event keys = (.appended .committed, after) := by
      simp [event, step, addItemsOnce, hvalid, hadded, appendOnce, hget, hpush, hset]
    have hafter : ∀ other : String, after[other]? =
        if commitKey keyPrefix id = other then some (.hash (fields.insert commitId digest))
        else pushed[other]? := fun other => Table.get_insert pushed _ other _
    rw [next, hstep]
    refine ⟨by rw [MemorySessions.step, hmemory], h.update hids event hid ?_ ?_ ?_⟩
    · intro other hother hcommit
      rw [hafter, if_neg hcommit.symm, hframe other hother]
    · have hkept : after[key keyPrefix id]? = pushed[key keyPrefix id]? := by
        rw [hafter, if_neg (key_ne_commitKey keyPrefix id).symm]
      refine ⟨payloads ++ added, by rw [listAt_congr hkept, hpushed], ?_⟩
      rw [hmemory]
      exact List.rel_append hitems hwritten
    · refine ⟨fields.insert commitId digest, ?_, ?_⟩
      · unfold hashAt
        rw [hafter, if_pos rfl]
      · intro otherCommit
        rw [hmemory, Table.get_insert, Table.get_insert, hcommits]

theorem follows (event : SessionEvent) : Follows keyPrefix ids event := by
  obtain ⟨id, op⟩ := event
  cases op with
  | getItems limit => exact follows_getItems id limit
  | addItems items => exact follows_addItems id items
  | addItemsOnce commitId digest items => exact follows_addItemsOnce id commitId digest items
  | popItem => exact follows_popItem id
  | clear => exact follows_clear id

theorem simulation (hids : Separate ids) :
    Simulation (step keyPrefix) MemorySessions.step (SessionEvent.Allowed ids)
      (Stands keyPrefix ids) where
  answer event keys store hallowed h := (follows event keys store hids hallowed h).1
  related event keys store hallowed h := (follows event keys store hids hallowed h).2

end RedisSessions

/-! ### What all stores have in common -/

inductive SessionStoreKind where
  | memory
  | sqlite
  | redis (keyPrefix : String)

namespace SessionStoreKind

def State : SessionStoreKind → Type
  | .memory => MemorySessions
  | .sqlite => SqliteSessions
  | .redis _ => Keyspace

def empty : (kind : SessionStoreKind) → kind.State
  | .memory => ({} : MemorySessions)
  | .sqlite => ({} : SqliteSessions)
  | .redis _ => (∅ : Keyspace)

def step : (kind : SessionStoreKind) → SessionEvent → kind.State → SessionResult × kind.State
  | .memory => MemorySessions.step
  | .sqlite => SqliteSessions.step
  | .redis keyPrefix => RedisSessions.step keyPrefix

/-- Every store follows the memory store, and does so from the start. -/
theorem simulates {ids : List String} (hids : Separate ids) (kind : SessionStoreKind) :
    ∃ Related : kind.State → MemorySessions → Prop,
      Simulation kind.step MemorySessions.step (SessionEvent.Allowed ids) Related ∧
        Related kind.empty {} := by
  have hnew : ∀ id, (MemorySessions.session {} id) = {} := by
    intro id
    simp [MemorySessions.session]
  cases kind with
  | memory => exact ⟨_, Simulation.refl MemorySessions.step (SessionEvent.Allowed ids), rfl⟩
  | sqlite =>
      refine ⟨_, SqliteSessions.simulation ids, ?_, ?_⟩
      · intro id
        rw [hnew]
        exact .nil
      · intro id commitId
        rw [hnew]
        simp [empty, SqliteSessions.selectCommit]
  | redis keyPrefix =>
      refine ⟨_, RedisSessions.simulation hids, ?_, ?_⟩
      · intro id _
        refine ⟨[], ?_, ?_⟩
        · simp [empty, Keyspace.listAt]
        · rw [hnew]
          exact .nil
      · intro id _
        refine ⟨∅, ?_, ?_⟩
        · simp [empty, Keyspace.hashAt]
        · intro commitId
          rw [hnew]

end SessionStoreKind

/-- The digest under which a commit id is known: that of the commit that was accepted, until its
session is cleared. -/
def knownAfter (id commitId : String) (known : Option String) :
    SessionEvent × SessionResult → Option String
  | (⟨sessionId, op⟩, answer) =>
      if sessionId ≠ id then known
      else
        match op, answer with
        | .addItemsOnce accepted digest _, .appended .committed =>
            if accepted = commitId then some digest else known
        | .clear, _ => none
        | _, _ => known

def knownCommit (id commitId : String) (history : List (SessionEvent × SessionResult)) :
    Option String :=
  history.foldl (knownAfter id commitId) none

namespace MemorySessions

/-- The commit table has what is known from the answers. -/
theorem commits_step (event : SessionEvent) (store : MemorySessions) (id commitId : String) :
    ((next step event store).session id).commits[commitId]? =
      knownAfter id commitId (store.session id).commits[commitId]?
        (event, (step event store).1) := by
  obtain ⟨sessionId, op⟩ := event
  by_cases hid : sessionId = id
  · subst hid
    rw [session_step_self]
    simp only [knownAfter, ne_eq, not_true_eq_false, if_false]
    cases op with
    | addItemsOnce accepted digest items =>
        rcases (store.session sessionId).addItemsOnce_cases accepted digest items with
          ⟨error, _, hstep⟩ | ⟨_, _, hstep⟩ | ⟨_, _, _, _, hstep⟩ | ⟨_, _, hstep⟩
        · simp only [step, hstep]
        · simp only [step, hstep]
        · simp only [step, hstep]
        · simp only [step, hstep]
          rw [Table.get_insert]
    | clear => simp [MemorySession.step]
    | getItems limit => rfl
    | addItems items => rfl
    | popItem => rfl
  · rw [session_step_other _ _ hid]
    simp [knownAfter, hid]

theorem commits_run (events : List SessionEvent) (store : MemorySessions) (id commitId : String) :
    ((run (next step) events store).session id).commits[commitId]? =
      (events.zip (answers step events store)).foldl (knownAfter id commitId)
        (store.session id).commits[commitId]? := by
  induction events generalizing store with
  | nil => rfl
  | cons event rest ih =>
      rw [run_cons, ih, commits_step, answers_cons, List.zip_cons_cons, List.foldl_cons]

/-- An operation that fails, or that replays a commit, changes nothing. -/
theorem step_unchanged (event : SessionEvent) (store : MemorySessions)
    (h : (∃ error, (step event store).1 = .failed error) ∨
      (step event store).1 = .appended .replayed) (id : String) :
    (next step event store).session id = store.session id := by
  obtain ⟨sessionId, op⟩ := event
  rw [session_step]
  split_ifs with hid
  · subst hid
    cases op with
    | addItemsOnce commitId digest items =>
        rcases (store.session sessionId).addItemsOnce_cases commitId digest items with
          ⟨error, _, hstep⟩ | ⟨_, _, hstep⟩ | ⟨_, _, _, _, hstep⟩ | ⟨_, _, hstep⟩
        · simp only [hstep]
        · simp only [hstep]
        · simp only [hstep]
        · simp [step, hstep] at h
    | getItems limit => rfl
    | addItems items => simp [step, MemorySession.step] at h
    | popItem => simp [step, MemorySession.step] at h
    | clear => simp [step, MemorySession.step] at h
  · rfl

/-- Stores with the same sessions. -/
def Same (first second : MemorySessions) : Prop := ∀ id, first.session id = second.session id

theorem simulation_same (ids : List String) :
    Simulation step step (SessionEvent.Allowed ids) Same := by
  constructor
  · intro event first second _ hsame
    simp only [step, hsame event.sessionId]
  · intro event first second _ hsame id
    rw [session_step, session_step, hsame id]

theorem allowed_same {ids : List String} {event : SessionEvent} {first second : MemorySessions}
    (hsame : first.Same second) (h : event.Allowed ids second) : event.Allowed ids first :=
  ⟨h.session, h.items, by rw [hsame]; exact h.count⟩

end MemorySessions

/-- What holds of every kind of store after a run on separate sessions with storable items: it has
answered as the memory store has; an operation on one session does not change what another one
answers; a known commit id is replayed with its digest and refused with any other one; and an
operation that fails or replays changes no later answer. -/
theorem session_stores_agree (ids : List String) (hids : Separate ids) (kind : SessionStoreKind)
    (events : List SessionEvent)
    (hevents : Along (next MemorySessions.step) (SessionEvent.Allowed ids) events {}) :
    let state := run (next kind.step) events kind.empty
    let store := run (next MemorySessions.step) events {}
    let answered := answers kind.step events kind.empty
    answered = answers MemorySessions.step events {} ∧
      (∀ event probe : SessionEvent, event.Allowed ids store → probe.Allowed ids store →
        event.sessionId ≠ probe.sessionId →
          (kind.step probe (next kind.step event state)).1 = (kind.step probe state).1) ∧
      (∀ id commitId known, knownCommit id commitId (events.zip answered) = some known →
        ∀ digest items,
          SessionEvent.Allowed ids ⟨id, .addItemsOnce commitId digest items⟩ store →
            if validateSessionCommit commitId digest items = .ok () ∧ digest = known then
              (kind.step ⟨id, .addItemsOnce commitId digest items⟩ state).1 = .appended .replayed
            else ∃ error,
              (kind.step ⟨id, .addItemsOnce commitId digest items⟩ state).1 = .failed error) ∧
      (∀ event : SessionEvent, event.Allowed ids store →
        ((∃ error, (kind.step event state).1 = .failed error) ∨
          (kind.step event state).1 = .appended .replayed) →
        ∀ later, Along (next MemorySessions.step) (SessionEvent.Allowed ids) later store →
          answers kind.step later (next kind.step event state) =
            answers kind.step later state) := by
  obtain ⟨Related, hsimulation, hempty⟩ := kind.simulates hids
  intro state store answered
  have hrelated : Related state store := hsimulation.run hevents hempty
  have hanswered : answered = answers MemorySessions.step events {} :=
    hsimulation.answers hevents hempty
  refine ⟨hanswered, ?_, ?_, ?_⟩
  · intro event probe hevent hprobe hdistinct
    have hsession : (next MemorySessions.step event store).session probe.sessionId =
        store.session probe.sessionId :=
      MemorySessions.session_step_other event store hdistinct
    have hafter : probe.Allowed ids (next MemorySessions.step event store) :=
      ⟨hprobe.session, hprobe.items, by rw [hsession]; exact hprobe.count⟩
    rw [hsimulation.answer probe _ _ hafter (hsimulation.related event _ _ hevent hrelated),
      hsimulation.answer probe _ _ hprobe hrelated]
    simp only [MemorySessions.step, hsession]
  · intro id commitId known hknown digest items hallowed
    have hcommit : (store.session id).commits[commitId]? = some known := by
      rw [hanswered] at hknown
      rw [← hknown, MemorySessions.commits_run events {} id commitId]
      simp [knownCommit, MemorySessions.session]
    rw [hsimulation.answer _ _ _ hallowed hrelated]
    rcases (store.session id).addItemsOnce_cases commitId digest items with
      ⟨error, hvalid, hstep⟩ | ⟨hvalid, hexisting, hstep⟩ |
      ⟨existing, hne, hvalid, hexisting, hstep⟩ | ⟨_, hexisting, _⟩
    · rw [if_neg (by simp [hvalid])]
      exact ⟨error, by simp only [MemorySessions.step, hstep]⟩
    · obtain rfl := Option.some.inj (hexisting.symm.trans hcommit)
      rw [if_pos ⟨hvalid, rfl⟩]
      simp only [MemorySessions.step, hstep]
    · obtain rfl := Option.some.inj (hexisting.symm.trans hcommit)
      rw [if_neg fun hboth => hne hboth.2.symm]
      exact ⟨commitConflict, by simp only [MemorySessions.step, hstep]⟩
    · rw [hcommit] at hexisting
      cases hexisting
  · intro event hevent hanswer later hlater
    rw [hsimulation.answer event _ _ hevent hrelated] at hanswer
    have hsame : (next MemorySessions.step event store).Same store :=
      MemorySessions.step_unchanged event store hanswer
    have hself := MemorySessions.simulation_same ids
    have hlaterAfter := hself.along (fun event _ _ hsame hallowed =>
      MemorySessions.allowed_same hsame hallowed) hlater hsame
    rw [hsimulation.answers hlater hrelated,
      hsimulation.answers hlaterAfter (hsimulation.related event _ _ hevent hrelated),
      hself.answers hlater hsame]

end

/-! ### Runs of stores -/

namespace Sample

/-- The JSON of a greeting, and of an answer that calls a tool without a name. -/
def greetingValue : Json := .obj [("content", .str "hi"), ("role", .str "user")]

def namelessValue : Json :=
  .obj
    [("content", .str ""), ("role", .str "assistant"),
      ("tool_calls", .arr [.obj
        [("function", .obj [("arguments", .str "\x7b\x7d"), ("name", .str "")]),
          ("id", .str "call_1"), ("type", .str "function")]])]

def greetingText : String := "\x7b\"content\":\"hi\",\"role\":\"user\"\x7d"

def namelessText : String :=
  "\x7b\"content\":\"\",\"role\":\"assistant\",\"tool_calls\":[\x7b\"function\":\x7b" ++
    "\"arguments\":\"\x7b\x7d\",\"name\":\"\"\x7d,\"id\":\"call_1\",\"type\":\"function\"\x7d]\x7d"

/-- The texts of these values. -/
@[reducible]
def sessionTexts : Texts where
  toPlatform := { (runtime []).toPlatform with
    jsonText := fun value =>
      if value = greetingValue then greetingText
      else if value = namelessValue then namelessText else "\x7b\x7d" }
  parse text :=
    if text = greetingText then .ok greetingValue
    else if text = namelessText then .ok namelessValue
    else if text = "\x7b\x7d" then .ok (.obj [])
    else .error "expected value at line 1 column 1"
  parseLeading _ := none
  canonicalText _ := "\x7b\x7d"
  normalizeSummaryOutput text := text

/-- A call whose name was only blanks in the answer of the model. -/
def namelessCall : Message :=
  { role := .assistant, content := "", toolCalls := [⟨"call_1", "", [], none⟩] }

def greetingEvents : List SessionEvent :=
  [⟨"chat", .addItems [.fromMessage (.user "hi")]⟩, ⟨"chat", .getItems none⟩]

def namelessEvents : List SessionEvent :=
  [⟨"chat", .addItems [.fromMessage namelessCall]⟩, ⟨"chat", .getItems none⟩]

end Sample

open Sample

/-- The stores agree on a session with a greeting. -/
theorem session_stores_agree_greeting :
    @answers _ _ _ (@SessionStoreKind.step sessionTexts .sqlite) greetingEvents
        SessionStoreKind.sqlite.empty =
      @answers _ _ _ (@MemorySessions.step sessionTexts) greetingEvents {} := by
  let _ : Texts := sessionTexts
  have hstorable : (Message.user "hi").Storable := by
    refine ⟨by simp [Message.user], by simp [Message.user], rfl, ?_⟩
    decide +kernel
  have hevents : Along (next MemorySessions.step) (SessionEvent.Allowed ["chat"]) greetingEvents
      {} := by
    refine ⟨⟨by simp, ?_, by decide +kernel⟩, ⟨by simp, ?_, by decide +kernel⟩, trivial⟩
    · intro item hitem
      obtain rfl := List.mem_singleton.mp hitem
      exact ⟨_, rfl, hstorable⟩
    · intro item hitem
      cases hitem
  exact (session_stores_agree ["chat"] (by simp [Separate]) .sqlite greetingEvents hevents).1

/-- After a call without a name was added, the memory store returns it and the session in SQLite
cannot be read. -/
theorem nameless_call_unreadable :
    @answers _ _ _ (@MemorySessions.step sessionTexts) namelessEvents {} =
        [.added, .items [.message namelessCall]] ∧
      @answers _ _ _ (@SqliteSessions.step sessionTexts) namelessEvents {} =
        [.added, .failed "session tool function name must be non-empty"] := by
  decide +kernel

end VvAgent
