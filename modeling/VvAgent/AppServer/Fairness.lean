import VvAgent.AppServer.Serialization

/-!
The request serialization queue is fair. Seen from one key, the requests in the order of their
arrival are a row of released ones, then the batch that was granted last, then those that wait.
Every event of the key keeps this, and the events of the other keys do not show.
-/

namespace VvAgent
open Lib

namespace KeyLine

/-- The phase of the requests of some notifications changes. -/
def mark (notified : List Nat) (phase : RequestPhase) (requests : List SerializedRequest) :
    List SerializedRequest :=
  requests.map fun request =>
    if request.notify ∈ notified then { request with phase := phase } else request

/-- One event of the key. -/
def step (event : SerializationEvent) (line : KeyLine) : KeyLine :=
  match event.action with
  | .acquire =>
      if line.requests.any fun request => decide (request.notify = event.notify) then line
      else
        let state := line.entry.getD {}
        if state.canStartNow event.scope.access then
          { entry := some (state.start event.scope.access)
            requests := line.requests ++ [⟨event.scope, event.notify, .running⟩]
            grants := line.grants ++ [event.notify] }
        else
          { line with
            entry := some
              { state with waiters := state.waiters ++ [⟨event.scope.access, event.notify⟩] }
            requests := line.requests ++ [⟨event.scope, event.notify, .waiting⟩] }
  | .resume =>
      if ⟨event.scope, event.notify, .woken⟩ ∈ line.requests then
        { line with requests := mark [event.notify] .running line.requests }
      else line
  | .release =>
      if ⟨event.scope, event.notify, .running⟩ ∈ line.requests then
        let requests := mark [event.notify] .released line.requests
        match line.entry with
        | none => { line with requests := mark [] .woken requests }
        | some state =>
            let (state, notified) := (state.finish event.scope.access).wakeNext
            { entry := if state.isEmpty then none else some state
              requests := mark notified .woken requests
              grants := line.grants ++ notified }
      else line

end KeyLine

/-! ### The events of the other keys -/

namespace Serialization

theorem line_setPhase (key other : String) (notified : List Nat) (phase : RequestPhase)
    (requests : List SerializedRequest) :
    (setPhase key notified phase requests).filter (·.scope.key = other) =
      if key = other then KeyLine.mark notified phase (requests.filter (·.scope.key = other))
      else requests.filter (·.scope.key = other) := by
  induction requests with
  | nil => split_ifs <;> rfl
  | cons request requests ih =>
      unfold setPhase KeyLine.mark at *
      rw [List.map_cons]
      by_cases hkey : request.scope.key = other
      · by_cases hsame : key = other
        · subst hsame
          rw [if_pos rfl] at ih ⊢
          simp only [hkey, true_and]
          rw [List.filter_cons_of_pos, List.filter_cons_of_pos (by simpa using hkey), List.map_cons,
            ih]
          split_ifs <;> simpa using hkey
        · have hne : request.scope.key ≠ key := fun h => hsame (h.symm.trans hkey)
          rw [if_neg hsame] at ih ⊢
          simp only [hne, false_and, if_false]
          rw [List.filter_cons_of_pos (by simpa using hkey),
            List.filter_cons_of_pos (by simpa using hkey), ih]
      · rw [List.filter_cons_of_neg, List.filter_cons_of_neg (by simpa using hkey), ih]
        split_ifs <;> simpa using hkey

theorem grants_append (key other : String) (granted : List (String × Nat)) (notified : List Nat) :
    ((granted ++ notified.map fun notify => (key, notify)).filter (·.1 = other)).map (·.2) =
      (granted.filter (·.1 = other)).map (·.2) ++ if key = other then notified else [] := by
  rw [List.filter_append, List.map_append]
  congr 1
  split_ifs with hsame
  · induction notified with
    | nil => rfl
    | cons notify notified ih => simpa [hsame] using ih
  · induction notified with
    | nil => rfl
    | cons notify notified ih => simp [hsame]

theorem mem_line (state : Serialization) (event : SerializationEvent) (phase : RequestPhase) :
    state.reached event phase = true ↔
      ⟨event.scope, event.notify, phase⟩ ∈ (state.line event.scope.key).requests := by
  simp [reached, line]

theorem line_acquire (state : Serialization) (event : SerializationEvent) (key : String)
    (haction : event.action = .acquire) :
    (step event state).line key =
      if event.scope.key = key then KeyLine.step event (state.line key) else state.line key := by
  have hany : state.requests.any (fun request =>
      decide (request.scope.key = event.scope.key ∧ request.notify = event.notify)) =
      (state.line event.scope.key).requests.any
        fun request => decide (request.notify = event.notify) := by
    simp [line, List.any_filter]
  unfold step
  simp only [haction, hany]
  by_cases hsame : event.scope.key = key
  · subst hsame
    rw [if_pos rfl]
    simp only [KeyLine.step, haction]
    by_cases hknown : (state.line event.scope.key).requests.any
        fun request => decide (request.notify = event.notify)
    · rw [if_pos hknown, if_pos hknown]
    · rw [if_neg hknown, if_neg hknown]
      by_cases hstart : ((state.queues[event.scope.key]?).getD {}).canStartNow event.scope.access
      · simp [VvAgent.acquire, hstart, line, List.filter_append]
      · simp [VvAgent.acquire, hstart, line, List.filter_append]
  · rw [if_neg hsame]
    by_cases hknown : (state.line event.scope.key).requests.any
        fun request => decide (request.notify = event.notify)
    · rw [if_pos hknown]
    · rw [if_neg hknown]
      by_cases hstart : ((state.queues[event.scope.key]?).getD {}).canStartNow event.scope.access
      · simp [VvAgent.acquire, hstart, line, Table.get_insert, List.filter_append, hsame]
      · simp [VvAgent.acquire, hstart, line, Table.get_insert, List.filter_append, hsame]

theorem line_resume (state : Serialization) (event : SerializationEvent) (key : String)
    (haction : event.action = .resume) :
    (step event state).line key =
      if event.scope.key = key then KeyLine.step event (state.line key) else state.line key := by
  unfold step
  simp only [haction]
  by_cases hsame : event.scope.key = key
  · subst hsame
    simp only [KeyLine.step, haction, mem_line, if_true]
    split_ifs with hwoken
    · simp only [line, line_setPhase, if_true]
    · rfl
  · rw [if_neg hsame]
    split_ifs with hwoken
    · simp only [line, line_setPhase, if_neg hsame]
    · rfl

theorem line_release (state : Serialization) (event : SerializationEvent) (key : String)
    (haction : event.action = .release) :
    (step event state).line key =
      if event.scope.key = key then KeyLine.step event (state.line key) else state.line key := by
  unfold step
  simp only [haction]
  by_cases hsame : event.scope.key = key
  · subst hsame
    simp only [KeyLine.step, haction, mem_line, if_true]
    split_ifs with hrunning
    · have hentry : (state.line event.scope.key).entry = state.queues[event.scope.key]? := rfl
      rw [hentry]
      unfold VvAgent.release
      cases hqueue : state.queues[event.scope.key]? with
      | none => simp [line, line_setPhase, hqueue]
      | some queue =>
          simp only [line, line_setPhase, grants_append, if_true, KeyLine.mk.injEq, and_true]
          split_ifs with hempty
          · rw [Table.get_erase, if_pos rfl]
          · rw [Table.get_insert, if_pos rfl]
    · rfl
  · rw [if_neg hsame]
    split_ifs with hrunning
    · unfold VvAgent.release
      simp only [line, line_setPhase, grants_append, if_neg hsame, List.append_nil,
        KeyLine.mk.injEq, and_true]
      cases hqueue : state.queues[event.scope.key]? with
      | none => rfl
      | some queue =>
          dsimp only
          split_ifs with hempty
          · rw [Table.get_erase, if_neg hsame]
          · rw [Table.get_insert, if_neg hsame]
    · rfl

/-- Only the events of a key change its line, and only by what the line shows. -/
theorem line_step (state : Serialization) (event : SerializationEvent) (key : String) :
    (step event state).line key =
      if event.scope.key = key then KeyLine.step event (state.line key) else state.line key := by
  cases haction : event.action with
  | acquire => exact line_acquire state event key haction
  | resume => exact line_resume state event key haction
  | release => exact line_release state event key haction

/-- A run, seen from a key, is the run of the events of the key. -/
theorem line_run (events : List SerializationEvent) (state : Serialization) (key : String) :
    (run step events state).line key =
      run KeyLine.step (events.filter (·.scope.key = key)) (state.line key) := by
  induction events generalizing state with
  | nil => rfl
  | cons event events ih =>
      rw [run_cons, ih, line_step]
      by_cases hsame : event.scope.key = key
      · rw [if_pos hsame, List.filter_cons_of_pos (by simpa using hsame), run_cons]
      · rw [if_neg hsame, List.filter_cons_of_neg (by simpa using hsame)]

end Serialization

/-! ### What a key keeps -/

namespace SerializedRequest

def Shared (request : SerializedRequest) : Prop := request.scope.access = .shared

def queued (request : SerializedRequest) : QueuedRequest := ⟨request.scope.access, request.notify⟩

end SerializedRequest

namespace KeyLine

/-- How many requests hold the key. -/
def holders (requests : List SerializedRequest) : Nat :=
  requests.countP fun request => decide request.Holds

/-- The state of the queue for a number of holders, all of one access. -/
def queueOf (access : RequestSerializationAccess) (held : Nat)
    (waiting : List SerializedRequest) : QueueState where
  activeShared := if access = .shared then held else 0
  activeExclusive := decide (access = .exclusive)
  waiters := waiting.map SerializedRequest.queued

/-- The released requests, the batch that was granted last, and those that wait. The batch is of
one access, and an exclusive batch is a single request. A shared request is never the first one
to wait behind a shared batch. -/
structure Orderly (line : KeyLine) (old batch waiting : List SerializedRequest)
    (access : RequestSerializationAccess) : Prop where
  requests : line.requests = old ++ batch ++ waiting
  grants : line.grants = (old ++ batch).map (·.notify)
  distinct : (line.requests.map (·.notify)).Nodup
  released : ∀ request ∈ old, request.phase = .released
  granted : ∀ request ∈ batch, request.phase ≠ .waiting ∧ request.scope.access = access
  waits : ∀ request ∈ waiting, request.phase = .waiting
  alone : access = .exclusive → batch.length ≤ 1
  held : waiting ≠ [] → holders batch ≠ 0
  front : ∀ request ∈ waiting.head?, request.Shared → access = .exclusive
  entry : line.entry = if holders batch = 0 then none else some (queueOf access (holders batch) waiting)

variable {line : KeyLine} {old batch waiting : List SerializedRequest}
  {access : RequestSerializationAccess}

theorem holders_eq_zero {requests : List SerializedRequest} :
    holders requests = 0 ↔ ∀ request ∈ requests, ¬request.Holds := by
  simp [holders, List.countP_eq_zero]

theorem released_of_not_holds {request : SerializedRequest} (hgranted : request.phase ≠ .waiting)
    (hholds : ¬request.Holds) : request.phase = .released := by
  unfold SerializedRequest.Holds at hholds
  cases hphase : request.phase <;> simp_all

theorem mark_append (notified : List Nat) (phase : RequestPhase)
    (first second : List SerializedRequest) :
    mark notified phase (first ++ second) =
      mark notified phase first ++ mark notified phase second :=
  List.map_append

theorem mark_others {notified : List Nat} {phase : RequestPhase}
    {requests : List SerializedRequest}
    (h : ∀ request ∈ requests, request.notify ∉ notified) :
    mark notified phase requests = requests := by
  have hsame : mark notified phase requests = requests.map id := by
    apply List.map_congr_left
    intro request hrequest
    exact if_neg (h request hrequest)
  rw [hsame, List.map_id]

theorem mark_notify (notified : List Nat) (phase : RequestPhase)
    (requests : List SerializedRequest) :
    (mark notified phase requests).map (·.notify) = requests.map (·.notify) := by
  unfold mark
  rw [List.map_map]
  apply List.map_congr_left
  intro request _
  simp only [Function.comp]
  split_ifs <;> rfl

theorem mark_all {notified : List Nat} {phase : RequestPhase} {requests : List SerializedRequest}
    (h : ∀ request ∈ requests, request.notify ∈ notified) :
    mark notified phase requests = requests.map fun request => { request with phase := phase } := by
  unfold mark
  apply List.map_congr_left
  intro request hrequest
  exact if_pos (h request hrequest)

theorem wakeShared_spec (waiting : List SerializedRequest) (active : Nat) :
    ∃ front back, waiting = front ++ back ∧ (∀ request ∈ front, request.Shared) ∧
      (∀ request ∈ back.head?, ¬request.Shared) ∧
      QueueState.wakeShared active (waiting.map SerializedRequest.queued) =
        (⟨active + front.length, false, back.map SerializedRequest.queued⟩,
          front.map (·.notify)) := by
  induction waiting generalizing active with
  | nil => exact ⟨[], [], rfl, by simp, by simp, rfl⟩
  | cons request waiting ih =>
      cases haccess : request.scope.access with
      | shared =>
          obtain ⟨front, back, rfl, hfront, hback, hwake⟩ := ih (active + 1)
          refine ⟨request :: front, back, rfl, ?_, hback, ?_⟩
          · exact List.forall_mem_cons.mpr ⟨haccess, hfront⟩
          · rw [List.map_cons, SerializedRequest.queued, haccess, QueueState.wakeShared, hwake]
            simp only [List.length_cons, List.map_cons, Prod.mk.injEq, QueueState.mk.injEq, and_true]
            omega
      | exclusive =>
          refine ⟨[], request :: waiting, rfl, by simp, ?_, ?_⟩
          · intro first hfirst hshared
            obtain rfl : request = first := Option.some.inj hfirst
            rw [SerializedRequest.Shared, haccess] at hshared
            cases hshared
          · rw [List.map_cons, SerializedRequest.queued, haccess]
            rfl

/-- A queue that nobody holds grants the first request, and with a shared one all the shared
requests right behind it. -/
theorem wakeNext_spec {waiting : List SerializedRequest} (hsome : waiting ≠ []) :
    ∃ access front back, waiting = front ++ back ∧ front ≠ [] ∧
      (∀ request ∈ front, request.scope.access = access) ∧
      (access = .exclusive → front.length ≤ 1) ∧
      (∀ request ∈ back.head?, request.Shared → access = .exclusive) ∧
      QueueState.wakeNext { waiters := waiting.map SerializedRequest.queued } =
        (queueOf access front.length back, front.map (·.notify)) := by
  cases waiting with
  | nil => exact absurd rfl hsome
  | cons request waiting =>
      cases haccess : request.scope.access with
      | exclusive =>
          refine ⟨.exclusive, [request], waiting, rfl, by simp, by simpa using haccess, by simp,
            by simp, ?_⟩
          simp [QueueState.wakeNext, SerializedRequest.queued, haccess, queueOf]
      | shared =>
          obtain ⟨front, back, hsplit, hfront, hback, hwake⟩ :=
            wakeShared_spec (request :: waiting) 0
          refine ⟨.shared, front, back, hsplit, ?_, hfront, by simp, ?_, ?_⟩
          · rintro rfl
            rw [List.nil_append] at hsplit
            exact hback request (by rw [← hsplit]; rfl) haccess
          · exact fun first hfirst hshared => absurd hshared (hback first hfirst)
          · have hfirst : QueueState.wakeNext
                { waiters := (request :: waiting).map SerializedRequest.queued } =
                QueueState.wakeShared 0 ((request :: waiting).map SerializedRequest.queued) := by
              simp [QueueState.wakeNext, SerializedRequest.queued, haccess]
            rw [hfirst, hwake, Nat.zero_add]
            simp [queueOf]

namespace Orderly

/-- A batch that nobody holds any more counts as old. -/
theorem rest (h : Orderly line old batch waiting access) (hidle : holders batch = 0) :
    waiting = [] ∧ line.entry = none ∧ line.requests = old ++ batch ∧
      ∀ request ∈ old ++ batch, request.phase = .released := by
  have hwaiting : waiting = [] := by
    by_contra hsome
    exact h.held hsome hidle
  refine ⟨hwaiting, by rw [h.entry, if_pos hidle], by simp [h.requests, hwaiting], ?_⟩
  intro request hrequest
  rcases List.mem_append.mp hrequest with hold | hbatch
  · exact h.released request hold
  · exact released_of_not_holds (h.granted request hbatch).1
      (holders_eq_zero.mp hidle request hbatch)

theorem canStartNow_iff (h : Orderly line old batch waiting access)
    (requested : RequestSerializationAccess) :
    (line.entry.getD {}).canStartNow requested = true ↔
      holders batch = 0 ∨ (waiting = [] ∧ access = .shared ∧ requested = .shared) := by
  rw [h.entry]
  by_cases hidle : holders batch = 0
  · cases requested <;> simp [hidle, QueueState.canStartNow]
  · cases requested <;> cases access <;> simp [hidle, QueueState.canStartNow, queueOf]

theorem distinct_append {requests : List SerializedRequest} {added : SerializedRequest}
    (hdistinct : (requests.map (·.notify)).Nodup)
    (hfresh : ¬(requests.any fun request => decide (request.notify = added.notify)) = true) :
    ((requests ++ [added]).map (·.notify)).Nodup := by
  rw [List.map_append, List.map_singleton, List.nodup_append]
  refine ⟨hdistinct, List.nodup_singleton _, ?_⟩
  intro first hfirst second hsecond hsame
  obtain ⟨request, hrequest, rfl⟩ := List.mem_map.mp hfirst
  rw [List.mem_singleton] at hsecond
  apply hfresh
  rw [List.any_eq_true]
  exact ⟨request, hrequest, decide_eq_true (hsame.trans hsecond)⟩

theorem acquire (h : Orderly line old batch waiting access) (event : SerializationEvent)
    (haction : event.action = .acquire) :
    ∃ old batch waiting access, Orderly (step event line) old batch waiting access := by
  unfold step
  simp only [haction]
  by_cases hknown : (line.requests.any fun request => decide (request.notify = event.notify)) = true
  · rw [if_pos hknown]
    exact ⟨old, batch, waiting, access, h⟩
  rw [if_neg hknown]
  by_cases hstart : (line.entry.getD {}).canStartNow event.scope.access = true
  · rw [if_pos hstart]
    by_cases hidle : holders batch = 0
    · obtain ⟨_, hentry, hrequests, hreleased⟩ := h.rest hidle
      refine ⟨old ++ batch, [⟨event.scope, event.notify, .running⟩], [], event.scope.access, ?_⟩
      refine ⟨by simp [hrequests], by simp [h.grants], distinct_append h.distinct hknown,
        hreleased, by simp, by simp, by simp, by simp, by simp, ?_⟩
      have hone : holders [⟨event.scope, event.notify, .running⟩] = 1 := rfl
      rw [hone, hentry]
      cases event.scope.access <;> rfl
    · obtain hzero | ⟨hwaiting, rfl, hshared⟩ := (h.canStartNow_iff event.scope.access).mp hstart
      · exact absurd hzero hidle
      refine ⟨old, batch ++ [⟨event.scope, event.notify, .running⟩], [], .shared, ?_⟩
      have hmore : holders (batch ++ [⟨event.scope, event.notify, .running⟩]) =
          holders batch + 1 := by
        simp [holders, SerializedRequest.Holds]
      refine ⟨by simp [h.requests, hwaiting], by simp [h.grants],
        distinct_append h.distinct hknown, h.released, ?_, by simp, by simp, by simp, by simp, ?_⟩
      · intro request hrequest
        rcases List.mem_append.mp hrequest with hbatch | hnew
        · exact h.granted request hbatch
        · rw [List.mem_singleton] at hnew
          subst hnew
          exact ⟨by simp, hshared⟩
      · rw [hmore, h.entry, if_neg hidle, if_neg (Nat.succ_ne_zero _), hshared, hwaiting]
        rfl
  · rw [if_neg hstart, h.canStartNow_iff, not_or] at *
    obtain ⟨hbusy, hqueued⟩ := hstart
    refine ⟨old, batch, waiting ++ [⟨event.scope, event.notify, .waiting⟩], access, ?_⟩
    refine ⟨by simp [h.requests], h.grants, distinct_append h.distinct hknown, h.released,
      h.granted, ?_, h.alone, fun _ => hbusy, ?_, ?_⟩
    · intro request hrequest
      rcases List.mem_append.mp hrequest with hwaiting | hnew
      · exact h.waits request hwaiting
      · rw [List.mem_singleton] at hnew
        rw [hnew]
    · intro request hrequest hshared
      cases waiting with
      | cons first rest => exact h.front request hrequest hshared
      | nil =>
          obtain rfl : (⟨event.scope, event.notify, .waiting⟩ : SerializedRequest) = request :=
            Option.some.inj hrequest
          cases access with
          | exclusive => rfl
          | shared => exact absurd ⟨rfl, rfl, hshared⟩ hqueued
    · rw [h.entry, if_neg hbusy, if_neg hbusy]
      simp [queueOf, SerializedRequest.queued]

theorem mem_batch (h : Orderly line old batch waiting access) {request : SerializedRequest}
    (hmem : request ∈ line.requests) (hholds : request.Holds) : request ∈ batch := by
  rw [h.requests, List.mem_append, List.mem_append] at hmem
  unfold SerializedRequest.Holds at hholds
  rcases hmem with (hold | hbatch) | hwaiting
  · rw [h.released request hold] at hholds
    simp at hholds
  · exact hbatch
  · rw [h.waits request hwaiting] at hholds
    simp at hholds

/-- A request that holds the key is one of the batch, and only its own phase changes when it
is marked. -/
theorem mark_holder (h : Orderly line old batch waiting access) {request : SerializedRequest}
    (hmem : request ∈ line.requests) (hholds : request.Holds) :
    ∃ before after, batch = before ++ request :: after ∧ ∀ phase,
      mark [request.notify] phase line.requests =
        old ++ (before ++ { request with phase := phase } :: after) ++ waiting := by
  obtain ⟨before, after, rfl⟩ := List.append_of_mem (h.mem_batch hmem hholds)
  refine ⟨before, after, rfl, fun phase => ?_⟩
  have hdistinct := h.distinct
  rw [h.requests] at hdistinct ⊢
  have hothers : ∀ other ∈ old ++ before ++ (after ++ waiting),
      other.notify ∉ [request.notify] := by
    intro other hother hsame
    have hperm : (old ++ before ++ request :: (after ++ waiting)).Perm
        (request :: (old ++ before ++ (after ++ waiting))) := List.perm_middle
    have hsplit : old ++ (before ++ request :: after) ++ waiting =
        old ++ before ++ request :: (after ++ waiting) := by simp
    rw [hsplit] at hdistinct
    have hnodup := (hperm.map (·.notify)).nodup_iff.mp hdistinct
    rw [List.map_cons, List.nodup_cons] at hnodup
    rw [List.mem_singleton] at hsame
    exact hnodup.1 (hsame ▸ List.mem_map_of_mem hother)
  have hhere : mark [request.notify] phase [request] = [{ request with phase := phase }] := by
    simp [mark]
  have hsplit : old ++ (before ++ request :: after) ++ waiting =
      old ++ before ++ [request] ++ (after ++ waiting) := by simp
  rw [hsplit, mark_append, mark_append, hhere,
    mark_others fun other hother => hothers other (by simp at hother ⊢; tauto),
    mark_others fun other hother => hothers other (by simp at hother ⊢; tauto)]
  simp

theorem resume (h : Orderly line old batch waiting access) (event : SerializationEvent)
    (haction : event.action = .resume) :
    ∃ old batch waiting access, Orderly (step event line) old batch waiting access := by
  unfold step
  simp only [haction]
  split_ifs with hwoken
  · obtain ⟨before, after, rfl, hmark⟩ := h.mark_holder hwoken (.inl rfl)
    have hsame : holders (before ++ ⟨event.scope, event.notify, .running⟩ :: after) =
        holders (before ++ ⟨event.scope, event.notify, .woken⟩ :: after) := by
      simp [holders, SerializedRequest.Holds]
    refine ⟨old, before ++ ⟨event.scope, event.notify, .running⟩ :: after, waiting, access, ?_⟩
    refine ⟨hmark .running, by simp [h.grants], ?_, h.released, ?_, h.waits, ?_, ?_, h.front, ?_⟩
    · rw [mark_notify]
      exact h.distinct
    · intro request hrequest
      have hgranted := h.granted
      simp only [List.mem_append, List.mem_cons] at hrequest hgranted
      rcases hrequest with hbefore | rfl | hafter
      · exact hgranted request (.inl hbefore)
      · exact ⟨by simp, (hgranted _ (.inr (.inl rfl))).2⟩
      · exact hgranted request (.inr (.inr hafter))
    · simpa using h.alone
    · rw [hsame]
      exact h.held
    · rw [hsame]
      exact h.entry
  · exact ⟨old, batch, waiting, access, h⟩

/-- The requests that are woken become the batch. -/
theorem wake {waiting : List SerializedRequest} (hsome : waiting ≠ [])
    (hreleased : ∀ request ∈ old, request.phase = .released)
    (hwaits : ∀ request ∈ waiting, request.phase = .waiting)
    (hdistinct : ((old ++ waiting).map (·.notify)).Nodup) :
    ∃ state notified, QueueState.wakeNext { waiters := waiting.map SerializedRequest.queued } =
        (state, notified) ∧ state.isEmpty = false ∧
      ∃ batch rest access, Orderly
        ⟨some state, mark notified .woken (old ++ waiting), old.map (·.notify) ++ notified⟩
        old batch rest access := by
  obtain ⟨access, front, back, rfl, hfront, haccess, halone, hback, hwake⟩ := wakeNext_spec hsome
  refine ⟨_, _, hwake, ?_, front.map fun request => { request with phase := .woken }, back, access,
    ?_⟩
  · have hlength : front.length ≠ 0 := by simpa using hfront
    cases access <;> simp [QueueState.isEmpty, queueOf, hlength]
  · have hholders : holders (front.map fun request => { request with phase := .woken }) =
        front.length := by
      simp [holders, SerializedRequest.Holds, List.countP_map, Function.comp_def]
    have hlength : front.length ≠ 0 := by simpa using hfront
    refine ⟨?_, ?_, ?_, hreleased, ?_, ?_, ?_, fun _ => ?_, hback, ?_⟩
    · have hmarked := hdistinct
      rw [List.map_append, List.map_append, ← List.append_assoc, List.nodup_append,
        List.nodup_append] at hmarked
      obtain ⟨⟨_, _, hold⟩, _, hrest⟩ := hmarked
      have hold' : ∀ request ∈ old, request.notify ∉ front.map (·.notify) := by
        intro request hrequest hmem
        exact hold _ (List.mem_map_of_mem hrequest) _ hmem rfl
      have hback' : ∀ request ∈ back, request.notify ∉ front.map (·.notify) := by
        intro request hrequest hmem
        exact hrest _ (List.mem_append_right _ hmem) _ (List.mem_map_of_mem hrequest) rfl
      change mark _ _ _ = _
      rw [mark_append, mark_append, mark_others hold', mark_others hback',
        mark_all fun request hrequest => List.mem_map_of_mem hrequest, List.append_assoc]
    · simp
    · rw [mark_notify]
      exact hdistinct
    · simpa using haccess
    · exact fun request hrequest => hwaits request (List.mem_append_right _ hrequest)
    · simpa using halone
    · rw [hholders]
      exact hlength
    · rw [hholders, if_neg hlength]

theorem release (h : Orderly line old batch waiting access) (event : SerializationEvent)
    (haction : event.action = .release) :
    ∃ old batch waiting access, Orderly (step event line) old batch waiting access := by
  unfold step
  simp only [haction]
  by_cases hrunning : ⟨event.scope, event.notify, .running⟩ ∈ line.requests
  swap
  · rw [if_neg hrunning]
    exact ⟨old, batch, waiting, access, h⟩
  rw [if_pos hrunning]
  obtain ⟨before, after, rfl, hmark⟩ := h.mark_holder hrunning (.inr rfl)
  have haccess : event.scope.access = access :=
    (h.granted ⟨event.scope, event.notify, .running⟩ (by simp)).2
  have hmore : holders (before ++ ⟨event.scope, event.notify, .running⟩ :: after) =
      holders (before ++ ⟨event.scope, event.notify, .released⟩ :: after) + 1 := by
    simp only [holders, SerializedRequest.Holds, List.countP_append, List.countP_cons]
    simp
    omega
  have hentry := h.entry
  rw [hmore, if_neg (Nat.succ_ne_zero _)] at hentry
  rw [hentry, hmark .released, haccess]
  generalize hleft : before ++ ⟨event.scope, event.notify, .released⟩ :: after = left at hentry hmore ⊢
  have hnotify : left.map (·.notify) =
      (before ++ ⟨event.scope, event.notify, .running⟩ :: after).map (·.notify) := by
    simp [← hleft]
  have hgrants : line.grants = (old ++ left).map (·.notify) := by
    rw [h.grants, List.map_append, ← hnotify, ← List.map_append]
  have hdistinct : ((old ++ left ++ waiting).map (·.notify)).Nodup := by
    have hdistinct := h.distinct
    rw [h.requests] at hdistinct
    simpa only [List.map_append, hnotify] using hdistinct
  have hgranted : ∀ request ∈ left, request.phase ≠ .waiting ∧ request.scope.access = access := by
    intro request hrequest
    have hgranted := h.granted
    rw [← hleft] at hrequest
    simp only [List.mem_append, List.mem_cons] at hrequest hgranted
    rcases hrequest with hbefore | rfl | hafter
    · exact hgranted request (.inl hbefore)
    · exact ⟨by simp, haccess⟩
    · exact hgranted request (.inr (.inr hafter))
  have halone : access = .exclusive → left.length ≤ 1 := by
    intro hexclusive
    simpa [← hleft] using h.alone hexclusive
  by_cases hidle : holders left = 0
  · have hreleased : ∀ request ∈ old ++ left, request.phase = .released := by
      intro request hrequest
      rcases List.mem_append.mp hrequest with hold | hmem
      · exact h.released request hold
      · exact released_of_not_holds (hgranted request hmem).1
          (holders_eq_zero.mp hidle request hmem)
    have hfinished : (queueOf access (holders left + 1) waiting).finish access =
        { waiters := waiting.map SerializedRequest.queued } := by
      rw [hidle]
      cases access <;> rfl
    simp only [hfinished]
    by_cases hnone : waiting = []
    · subst hnone
      refine ⟨old, left, [], access, ?_⟩
      have hwake : QueueState.wakeNext { waiters := [].map SerializedRequest.queued } = ({}, []) :=
        rfl
      rw [hwake]
      refine ⟨mark_others (by simp), by simpa using hgrants, ?_, h.released, hgranted, by simp,
        halone, by simp, by simp, by rw [if_pos hidle]; rfl⟩
      rw [mark_notify]
      exact hdistinct
    · obtain ⟨state, notified, hwake, hsome, batch, rest, access, horderly⟩ :=
        wake hnone hreleased h.waits hdistinct
      refine ⟨old ++ left, batch, rest, access, ?_⟩
      rw [hwake, hgrants, hsome]
      exact horderly
  · obtain rfl : access = .shared := by
      cases access with
      | shared => rfl
      | exclusive =>
          have hlength := h.alone rfl
          simp only [List.length_append, List.length_cons] at hlength
          obtain rfl : before = [] := List.length_eq_zero_iff.mp (by omega)
          obtain rfl : after = [] := List.length_eq_zero_iff.mp (by omega)
          subst hleft
          exact absurd (by simp [holders, SerializedRequest.Holds]) hidle
    have hfinished : ((queueOf .shared (holders left + 1) waiting).finish .shared).wakeNext =
        (queueOf .shared (holders left) waiting, []) := by
      have hpositive := Nat.pos_of_ne_zero hidle
      simp [queueOf, QueueState.finish, QueueState.wakeNext, hpositive]
    have hsome : (queueOf .shared (holders left) waiting).isEmpty = false := by
      simp [QueueState.isEmpty, queueOf, hidle]
    refine ⟨old, left, waiting, .shared, ?_⟩
    simp only [hfinished, hsome]
    refine ⟨mark_others (by simp), by simpa using hgrants, ?_, h.released, hgranted, h.waits,
      halone, fun _ => hidle, h.front, by rw [if_neg hidle]; rfl⟩
    rw [mark_notify]
    exact hdistinct

theorem step (h : Orderly line old batch waiting access) (event : SerializationEvent) :
    ∃ old batch waiting access, Orderly (line.step event) old batch waiting access := by
  cases haction : event.action with
  | acquire => exact h.acquire event haction
  | resume => exact h.resume event haction
  | release => exact h.release event haction

end Orderly

/-- What holds of the line of a key after any events. -/
theorem orderly_run (events : List SerializationEvent) :
    ∃ old batch waiting access, Orderly (run step events {}) old batch waiting access := by
  apply run_preserves step (fun _ => True)
    (fun line => ∃ old batch waiting access, Orderly line old batch waiting access)
  · rintro event line _ ⟨old, batch, waiting, access, h⟩
    exact h.step event
  · simp
  · exact ⟨[], [], [], .shared, rfl, rfl, by simp, by simp, by simp, by simp, by simp, by simp,
      by simp, rfl⟩

/-- What the requests of a key can rely on. -/
structure Fair (line : KeyLine) : Prop where
  /-- An exclusive holder is the only holder. -/
  exclusive : ∀ first ∈ line.requests, ∀ second ∈ line.requests, first.Holds → second.Holds →
    first.scope.access = .exclusive → first = second
  /-- The grants are in the order of arrival: behind the released requests stand those that were
  granted last, which are neighbours, and then those that wait. Only shared requests are granted
  together, and a shared request that is the next one waits for an exclusive holder. -/
  ordered : ∃ old batch waiting, line.requests = old ++ batch ++ waiting ∧
    (line.requests.map (·.notify)).Nodup ∧ line.grants = (old ++ batch).map (·.notify) ∧
    (∀ request ∈ old, request.phase = .released) ∧
    (∀ request ∈ batch, request.phase ≠ .waiting) ∧
    (∀ request ∈ waiting, request.phase = .waiting) ∧
    ((∀ request ∈ batch, request.Shared) ∨ batch.length ≤ 1) ∧
    ∀ request ∈ waiting.head?, request.Shared →
      ∃ holder, batch = [holder] ∧ holder.Holds ∧ holder.scope.access = .exclusive
  /-- Where nobody holds the key, nobody waits for it. -/
  served : (∀ request ∈ line.requests, ¬request.Holds) →
    ∀ request ∈ line.requests, request.phase ≠ .waiting
  /-- There is an entry for as long as there are holders or waiters. -/
  clean : line.entry = none ↔ ∀ request ∈ line.requests, request.phase = .released

namespace Orderly

theorem exists_holder {batch : List SerializedRequest} (hbusy : holders batch ≠ 0) :
    ∃ request ∈ batch, request.Holds := by
  by_contra hnone
  apply hbusy
  rw [holders_eq_zero]
  intro request hrequest hholds
  exact hnone ⟨request, hrequest, hholds⟩

theorem fair (h : Orderly line old batch waiting access) : line.Fair where
  exclusive := by
    intro first hfirst second hsecond hholds hholds' hexclusive
    have hmem := h.mem_batch hfirst hholds
    have hmem' := h.mem_batch hsecond hholds'
    have hlength := h.alone ((h.granted first hmem).2.symm.trans hexclusive)
    obtain ⟨only, rfl⟩ : ∃ only, batch = [only] := by
      apply List.length_eq_one_iff.mp
      have hpositive := List.length_pos_of_mem hmem
      omega
    rw [List.mem_singleton] at hmem hmem'
    rw [hmem, hmem']
  ordered := by
    refine ⟨old, batch, waiting, h.requests, h.distinct, h.grants, h.released,
      fun request hrequest => (h.granted request hrequest).1, h.waits, ?_, ?_⟩
    · cases access with
      | shared => exact .inl fun request hrequest => (h.granted request hrequest).2
      | exclusive => exact .inr (h.alone rfl)
    · intro request hrequest hshared
      have hexclusive := h.front request hrequest hshared
      have hsome : waiting ≠ [] := by
        rintro rfl
        cases hrequest
      obtain ⟨holder, hmem, hholds⟩ := exists_holder (h.held hsome)
      have hlength := h.alone hexclusive
      refine ⟨holder, ?_, hholds, (h.granted holder hmem).2.trans hexclusive⟩
      obtain ⟨only, rfl⟩ : ∃ only, batch = [only] := by
        apply List.length_eq_one_iff.mp
        have hpositive := List.length_pos_of_mem hmem
        omega
      rw [List.mem_singleton] at hmem
      rw [hmem]
  served := by
    intro hnone request hrequest
    have hidle : holders batch = 0 := by
      rw [holders_eq_zero]
      intro other hother
      exact hnone other (by rw [h.requests]; simp [hother])
    obtain ⟨_, _, hrequests, hreleased⟩ := h.rest hidle
    rw [hrequests] at hrequest
    rw [hreleased request hrequest]
    simp
  clean := by
    constructor
    · intro hentry
      have hidle : holders batch = 0 := by
        by_contra hbusy
        rw [h.entry, if_neg hbusy] at hentry
        cases hentry
      obtain ⟨_, _, hrequests, hreleased⟩ := h.rest hidle
      rw [hrequests]
      exact hreleased
    · intro hreleased
      rw [h.entry, if_pos]
      rw [holders_eq_zero]
      intro request hrequest hholds
      rw [SerializedRequest.Holds, hreleased request (by rw [h.requests]; simp [hrequest])] at hholds
      simp at hholds

end Orderly

end KeyLine

/-- After any events each key is served fairly, and as if there were no other keys. -/
theorem request_queue_fair (events : List SerializationEvent) (key : String) :
    ((run Serialization.step events {}).line key).Fair ∧
      (run Serialization.step events {}).line key =
        (run Serialization.step (events.filter (·.scope.key = key)) {}).line key := by
  have hempty : Serialization.line {} key = {} := by simp [Serialization.line]
  have hrun : (run Serialization.step events {}).line key =
      run KeyLine.step (events.filter (·.scope.key = key)) {} := by
    rw [Serialization.line_run, hempty]
  constructor
  · obtain ⟨_, _, _, _, h⟩ :=
      KeyLine.orderly_run (events.filter (·.scope.key = key))
    rw [hrun]
    exact h.fair
  · rw [hrun, Serialization.line_run, hempty, List.filter_filter]
    simp

end VvAgent
