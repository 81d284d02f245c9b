import VvAgent.Store.Atomicity
import VvAgent.Store.Fencing

/-!
The lease of a claim, as its owner sees it. Two threads of the owner renew it: the heartbeat,
and the main thread before it dispatches something to the outside. Each of them reads the
expiry that the owner knows of, computes the new one from its clock, sends it to the store and
looks at its clock again. Both merge what they have obtained into one number, which the owner
compares with its clock whenever it asserts its claim. All clocks show the same time.
-/

namespace VvAgent
open Lib Lib.Outcome

/-! ### One renewal -/

def leaseLost (message : String) : CheckpointError := ⟨"checkpoint_lease_lost", message⟩

/-- A renewal on its way through `renew_heartbeat_once`, from the expiry that was known when it
began. -/
inductive Renewal where
  | loaded (known : Nat)
  | sent (known now expiry : Nat)
  | answered (known expiry : Nat) (answer : CheckpointResult CheckpointRenewalOutcome)
  deriving DecidableEq

/-- A renewal goes on, or it ends with an expiry, without one, or with the loss of the lease. -/
inductive RenewalProgress where
  | goesOn (renewal : Renewal)
  | ended (result : CheckpointResult (Option Nat))
  deriving DecidableEq

/-- The store is called with the expiry that was computed before. -/
def callStore (store : MemoryStore) (checkpointKey claimToken : String) (now expiry : Nat)
    (failure : Option CheckpointError) :
    CheckpointResult CheckpointRenewalOutcome × MemoryStore :=
  match failure with
  | some error => (.error error, store)
  | none => store.renewCheckpointClaim checkpointKey claimToken expiry now

/-- The next step of a renewal; a call of the store can fail on its way. -/
def Renewal.step (renewal : Renewal) (now leaseDurationMs : Nat) (store : MemoryStore)
    (checkpointKey claimToken : String) (failure : Option CheckpointError) :
    RenewalProgress × MemoryStore :=
  match renewal with
  | .loaded known =>
      if known ≤ now then
        (.ended (.error (leaseLost "checkpoint lease expired before heartbeat renewal")), store)
      else
        match checkedAdd now leaseDurationMs with
        | none =>
            (.ended (.error ⟨"checkpoint_claim_invalid", "checkpoint lease overflow"⟩), store)
        | some expiry => (.goesOn (.sent known now expiry), store)
  | .sent known sentAt expiry =>
      let (answer, after) := callStore store checkpointKey claimToken sentAt expiry failure
      (.goesOn (.answered known expiry answer), after)
  | .answered known expiry answer =>
      match answer with
      | .ok (.claimLost _) =>
          (.ended (.error (leaseLost "checkpoint heartbeat lost its claim")), store)
      | .ok _ =>
          if known ≤ now ∨ expiry ≤ now then
            (.ended (.error (leaseLost "checkpoint lease expired during heartbeat renewal")), store)
          else (.ended (.ok (some expiry)), store)
      | .error _ =>
          if now < known then (.ended (.ok none), store)
          else
            (.ended (.error (leaseLost "checkpoint lease expired during heartbeat renewal")), store)

/-! ### The owner -/

/-- What the two threads of the owner share, and the token the heartbeat thread renews. -/
structure HeartbeatHandle where
  claimToken : String
  leaseExpiresAtMs : Nat
  error : Option CheckpointError := none
  deriving DecidableEq

/-- Where the main thread is in `renew_claim_before_dispatch`. -/
inductive Dispatch where
  | idle
  | renewing (renewal : Renewal)
  | reloading (expiry : Nat)
  | started
  deriving DecidableEq

/-- The owner of a claim, with its copy of the record. -/
structure ClaimOwner where
  checkpointKey : String
  ownedClaimToken : String
  leaseDurationMs : Nat
  checkpoint : Checkpoint
  heartbeat : Option HeartbeatHandle := none
  beat : Option Renewal := none
  dispatch : Dispatch := .idle

namespace ClaimOwner

/-- The expiry that the owner goes by. -/
def knownExpiry (owner : ClaimOwner) : Option Nat :=
  (owner.heartbeat.map (·.leaseExpiresAtMs)).or owner.checkpoint.leaseExpiresAtMs

def assertHeartbeat (owner : ClaimOwner) (now : Nat) : CheckpointResult Unit :=
  match owner.heartbeat.bind (·.error) with
  | some error => .error error
  | none =>
      match owner.checkpoint.claimToken with
      | none => .ok ()
      | some claimToken => do
          refuse (owner.ownedClaimToken != claimToken)
            (leaseLost "checkpoint claim is no longer locally owned")
          let leaseExpiresAtMs ← require owner.knownExpiry
            (leaseLost "checkpoint lease is no longer active")
          refuse (leaseExpiresAtMs ≤ now) (leaseLost "checkpoint lease expired locally")

/-- A renewed expiry is merged into the one that the threads share. -/
def merge (owner : ClaimOwner) (expiry : Nat) : ClaimOwner :=
  { owner with
    heartbeat := owner.heartbeat.map fun heartbeat =>
      { heartbeat with leaseExpiresAtMs := max heartbeat.leaseExpiresAtMs expiry } }

end ClaimOwner

/-- The owner, the store and the time. -/
structure LeaseState where
  now : Nat
  store : MemoryStore
  owner : ClaimOwner

inductive LeaseEvent where
  | tick (elapsed : Nat)
  | elsewhere (op : StoreOp)
  | startHeartbeat
  | suspend (snapshot : Checkpoint)
  | beat (failure : Option CheckpointError)
  | dispatch (failure : Option CheckpointError)

section
variable [Runtime]

namespace LeaseState

/-- `start_heartbeat` waits for the thread before it, and starts with the expiry of the copy. -/
def startHeartbeat (state : LeaseState) : LeaseState :=
  match state.owner.dispatch, state.owner.beat, state.owner.checkpoint.claimToken,
    state.owner.checkpoint.leaseExpiresAtMs with
  | .idle, none, some claimToken, some leaseExpiresAtMs =>
      { state with
        owner := { state.owner with heartbeat := some { claimToken, leaseExpiresAtMs } } }
  | _, _, _, _ => state

/-- The owner gives its claim up: the record is suspended and loaded again, and the heartbeat
thread is stopped. -/
def suspend (state : LeaseState) (snapshot : Checkpoint) : LeaseState :=
  match state.owner.dispatch with
  | .idle =>
      match state.store.suspendCheckpoint snapshot state.owner.ownedClaimToken
        snapshot.revision with
      | (.ok true, store) =>
          match store.checkpoints[state.owner.checkpointKey]? with
          | some checkpoint =>
              { state with
                store, owner := { state.owner with checkpoint, heartbeat := none, beat := none } }
          | none => { state with store }
      | (_, store) => { state with store }
  | _ => state

/-- The next step of the heartbeat thread, which ends with its first failure. -/
def beat (state : LeaseState) (failure : Option CheckpointError) : LeaseState :=
  match state.owner.heartbeat with
  | none => state
  | some heartbeat =>
      if heartbeat.error.isSome then state
      else
        match state.owner.beat with
        | none =>
            { state with
              owner := { state.owner with beat := some (.loaded heartbeat.leaseExpiresAtMs) } }
        | some renewal =>
            let (progress, store) := renewal.step state.now state.owner.leaseDurationMs state.store
              state.owner.checkpointKey heartbeat.claimToken failure
            match progress with
            | .goesOn renewal =>
                { state with store, owner := { state.owner with beat := some renewal } }
            | .ended (.ok (some expiry)) =>
                { state with store, owner := { state.owner.merge expiry with beat := none } }
            | .ended (.ok none) => { state with store, owner := { state.owner with beat := none } }
            | .ended (.error error) =>
                { state with
                  store
                  owner := { state.owner with
                    heartbeat := some { heartbeat with error := some error }
                    beat := none } }

/-- The next step of `renew_claim_before_dispatch` on the main thread. The dispatch starts when
the record has been loaded again and nobody has asked to cancel. -/
def dispatch (state : LeaseState) (failure : Option CheckpointError) : LeaseState :=
  let idle := { state with owner := { state.owner with dispatch := .idle } }
  match state.owner.dispatch with
  | .idle =>
      match state.owner.assertHeartbeat state.now, state.owner.checkpoint.claimToken,
        state.owner.knownExpiry with
      | .ok (), some _, some known =>
          { state with owner := { state.owner with dispatch := .renewing (.loaded known) } }
      | _, _, _ => state
  | .renewing renewal =>
      let (progress, store) := renewal.step state.now state.owner.leaseDurationMs state.store
        state.owner.checkpointKey state.owner.ownedClaimToken failure
      match progress with
      | .goesOn renewal =>
          { state with store, owner := { state.owner with dispatch := .renewing renewal } }
      | .ended (.ok (some expiry)) =>
          { state with
            store
            owner := { state.owner.merge expiry with
              checkpoint := { state.owner.checkpoint with leaseExpiresAtMs := some expiry }
              dispatch := .reloading expiry } }
      | .ended _ => { idle with store }
  | .reloading _ =>
      match failure, state.store.checkpoints[state.owner.checkpointKey]? with
      | none, some checkpoint =>
          { state with
            owner := { state.owner with
              checkpoint
              dispatch := if checkpoint.cancelRequested then .idle else .started } }
      | _, _ => idle
  | .started => idle

end LeaseState

def LeaseEvent.step (event : LeaseEvent) (state : LeaseState) : LeaseState :=
  match event with
  | .tick elapsed => { state with now := state.now + elapsed }
  | .elsewhere op => { state with store := exec op state.store }
  | .startHeartbeat => state.startHeartbeat
  | .suspend snapshot => state.suspend snapshot
  | .beat failure => state.beat failure
  | .dispatch failure => state.dispatch failure


/-! ### What others do to a claim -/

/-- The reading of the clock by which an operation judges a claim. -/
def StoreOp.clockReading : StoreOp → Option Nat
  | .claim _ _ _ _ nowMs _ | .admitCommand _ _ nowMs | .resolveCommand _ _ nowMs
  | .consumeResponse _ _ nowMs => some nowMs
  | _ => none

/-- A claim of the record with this token, until this time. -/
def Claimed (store : MemoryStore) (key token : String) (lease : Nat) : Prop :=
  ∃ record, store.checkpoints[key]? = some record ∧ record.claimToken = some token ∧
    record.leaseExpiresAtMs = some lease

/-- No record under the key carries the token. -/
def Unclaimed (store : MemoryStore) (key token : String) : Prop :=
  ∀ record, store.checkpoints[key]? = some record → record.claimToken ≠ some token

omit [Runtime] in
theorem Claimed.not_unclaimed {store : MemoryStore} {key token : String} {lease : Nat}
    (h : Claimed store key token lease) : ¬Unclaimed store key token := by
  obtain ⟨record, hfound, htoken, _⟩ := h
  intro hlost
  exact hlost record hfound htoken

omit [Runtime] in
theorem Claimed.unique {store : MemoryStore} {key token : String} {first second : Nat}
    (hfirst : Claimed store key token first) (hsecond : Claimed store key token second) :
    first = second := by
  obtain ⟨record, hfound, _, hlease⟩ := hfirst
  obtain ⟨other, hother, _, hotherLease⟩ := hsecond
  obtain rfl : record = other := Option.some.inj (hfound.symm.trans hother)
  exact Option.some.inj (hlease.symm.trans hotherLease)

omit [Runtime] in
theorem claimLive_of_later {current : Checkpoint} {token : String} {lease now : Nat}
    (htoken : current.claimToken = some token) (hlease : current.leaseExpiresAtMs = some lease)
    (hlive : current.claimLive now = false) : lease ≤ now := by
  simpa [Checkpoint.claimLive, Checkpoint.claimExpired, htoken, hlease] using hlive

/-- Who does not have the token leaves the claim as it is, or takes it away after the lease has
run out on its clock. -/
theorem Made.foreign {op : StoreOp} {key token : String} {lease : Nat}
    {current updated : Checkpoint} (hmade : Made op key current updated)
    (howner : op.ownerToken ≠ some token) (hinstalls : ¬op.installs token)
    (htoken : current.claimToken = some token)
    (hlease : current.leaseExpiresAtMs = some lease) :
    (updated.claimToken = some token ∧ updated.leaseExpiresAtMs = some lease) ∨
      updated.claimToken ≠ some token ∧
        ∃ reading, op.clockReading = some reading ∧ lease ≤ reading := by
  cases hmade with
  | @claim _ _ _ _ now _ _ _ _ h =>
      obtain ⟨hcandidate, _, _, rfl⟩ := prepareClaim_eq_some h
      refine .inr ⟨?_, now, rfl, ((claimCandidate_eq_true hcandidate).2.2.2.2.2 lease hlease).1⟩
      intro hsame
      exact hinstalls (Option.some.inj hsame)
  | renew _ hother _ => exact absurd (hother.symm.trans htoken) howner
  | progress h =>
      obtain ⟨hfence, _⟩ := prepareProgress_eq_some h
      exact absurd (hfence.token.symm.trans htoken) howner
  | suspend h =>
      obtain ⟨hfence, _⟩ := prepareSuspend_eq_some h
      exact absurd (hfence.token.symm.trans htoken) howner
  | commit h =>
      obtain ⟨hfence, _⟩ := prepareCommit_eq_some h
      exact absurd (hfence.token.symm.trans htoken) howner
  | finalize h =>
      obtain ⟨_, _, _, hnone, _⟩ := prepareFinalize_eq_some h
      rw [hnone] at htoken
      cases htoken
  | finalizeClaimed h =>
      obtain ⟨hfence, _⟩ := prepareFinalizeClaimed_eq_some h
      exact absurd (hfence.token.symm.trans htoken) howner
  | toolReceipt h =>
      obtain ⟨hother, _⟩ := prepareToolReceipt_eq_some h
      exact absurd (hother.symm.trans htoken) howner
  | acknowledge h =>
      obtain ⟨_, _, hnone, _⟩ := prepareAck_eq_some h
      rw [hnone] at htoken
      cases htoken
  | delivery h =>
      obtain ⟨_, hother, _⟩ := prepareEventDelivery_eq_some h
      exact absurd (hother.symm.trans htoken) howner
  | admitDeferred h hchanged =>
      obtain ⟨_, hother, _⟩ := admitDeferredBatch_eq_ok h hchanged
      exact absurd (hother.symm.trans htoken) howner
  | acceptDeferred h =>
      obtain ⟨_, hother, _⟩ := acceptDeferredBatch_eq_ok h
      exact absurd (hother.symm.trans htoken) howner
  | resolveDeferred _ _ h =>
      obtain ⟨_, _, _, _, _, _, _, _, _, _, rfl⟩ := resolveEntry_eq_ok h
      exact .inl ⟨htoken, hlease⟩
  | produce _ _ hother _ _ => exact absurd (hother.symm.trans htoken) howner
  | @command _ _ _ _ now _ _ _ hop h hupdated =>
      have hreading : op.clockReading = some now := by
        rcases hop with rfl | rfl <;> rfl
      obtain ⟨_, _, _, _, hcase⟩ := applyControllerCommand_eq_ok h
      rw [hupdated] at hcase
      cases hcase with
      | requested => exact .inl ⟨htoken, hlease⟩
      | moved _ _ _ _ _ hlive hbase =>
          rcases hbase with ⟨rfl, _⟩ | rfl
          · exact .inl ⟨htoken, hlease⟩
          · exact .inr ⟨(Option.some_ne_none token).symm, now, hreading,
              claimLive_of_later htoken hlease hlive⟩
      | ended _ _ _ _ _ hlive =>
          exact .inr ⟨(Option.some_ne_none token).symm, now, hreading, claimLive_of_later htoken hlease hlive⟩
  | consume _ _ _ hnone _ _ _ =>
      rw [hnone] at htoken
      cases htoken

/-- One operation of somebody else on a claimed record. -/
theorem exec_foreign {op : StoreOp} {store : MemoryStore} {key token : String} {lease : Nat}
    (hkeyed : Keyed store) (howner : op.ownerToken ≠ some token) (hinstalls : ¬op.installs token)
    (hkept : op ≠ .delete key) (hclaimed : Claimed store key token lease) :
    Claimed (exec op store) key token lease ∨
      Unclaimed (exec op store) key token ∧
        ∃ reading, op.clockReading = some reading ∧ lease ≤ reading := by
  obtain ⟨current, hfound, htoken, hlease⟩ := hclaimed
  have hstep := (exec_step op store hkeyed).record key
  rw [hfound] at hstep
  generalize hafter : (exec op store).checkpoints[key]? = after at hstep
  cases hstep with
  | kept => exact .inl ⟨current, hafter, htoken, hlease⟩
  | written _ stored hwrote =>
      obtain ⟨updated, _, _, _, _, hmade, _, rfl⟩ := hwrote.frame
      rcases hmade.foreign howner hinstalls htoken hlease with hsame | ⟨htaken, hexpired⟩
      · exact .inl ⟨_, hafter, hsame.1, hsame.2⟩
      · refine .inr ⟨?_, hexpired⟩
        intro record hrecord
        obtain rfl := Option.some.inj (hafter.symm.trans hrecord)
        exact htaken
  | deleted _ hop => exact absurd hop hkept

omit [Runtime] in
/-- The owner's own renewal. An answer that keeps the claim has set the lease. -/
theorem renewCheckpointClaim_kept {store : MemoryStore} {key token : String} {lease now : Nat}
    {outcome : CheckpointRenewalOutcome}
    (h : (store.renewCheckpointClaim key token lease now).1 = .ok outcome)
    (hkept : outcome.declines = false) :
    ∃ current, store.checkpoints[key]? = some current ∧ current.claimToken = some token ∧
      (store.renewCheckpointClaim key token lease now).2.checkpoints =
        store.checkpoints.insert key { current with leaseExpiresAtMs := some lease } := by
  obtain ⟨after, h, hafter⟩ := MemoryStore.atomically_eq_ok h
  change (store.renewCheckpointClaim key token lease now).2 = after at hafter
  rw [hafter]
  simp only [bind_eq_ok] at h
  obtain ⟨_, _, h⟩ := h
  split at h
  · obtain ⟨rfl, _⟩ := Prod.mk.inj (Except.ok.inj h)
    cases hkept
  rename_i current hfound
  split at h
  · obtain ⟨rfl, _⟩ := Prod.mk.inj (Except.ok.inj h)
    cases hkept
  · rename_i hguard
    simp only [not_or, not_not, ne_eq] at hguard
    obtain ⟨_, rfl⟩ := Prod.mk.inj (Except.ok.inj h)
    exact ⟨current, hfound, hguard.1, rfl⟩

/-- The owner's own suspension leaves a record without a claim. -/
theorem suspendCheckpoint_released {store : MemoryStore} {snapshot : Checkpoint} {token : String}
    {revision : Nat} (h : (store.suspendCheckpoint snapshot token revision).1 = .ok true) :
    ∃ stored, (store.suspendCheckpoint snapshot token revision).2.checkpoints[
        snapshot.checkpointKey]? = some stored ∧ stored.claimToken = none := by
  obtain ⟨after, h, hafter⟩ := MemoryStore.atomically_eq_ok h
  change (store.suspendCheckpoint snapshot token revision).2 = after at hafter
  rw [hafter]
  split at h
  · cases h
  simp only [bind_eq_ok] at h
  obtain ⟨prepared, hprepared, h⟩ := h
  cases prepared with
  | none => cases h
  | some updated =>
      simp only [bind_eq_ok, pure_ok, Except.ok.injEq, Prod.mk.injEq, true_and, Prod.exists] at h
      obtain ⟨stored, written, hpersist, rfl⟩ := h
      obtain ⟨archive, hstored, hwritten⟩ := MemoryStore.persist_eq_ok hpersist
      obtain ⟨_, _, _, _, _, rfl⟩ := prepareSuspend_eq_some hprepared
      refine ⟨stored, ?_, ?_⟩
      · rw [hwritten, MemoryStore.write, Table.get_insert, if_pos rfl]
      rcases (persistHistory_eq_ok hstored).2 with ⟨_, rfl, _⟩ | ⟨_, _, _, _, _, _, _, rfl, _⟩
      · rfl
      · rfl

/-! ### What the owner believes -/

/-- The expiry that an answered renewal is about to report. -/
def Renewal.Promises (renewal : Renewal) (expiry : Nat) : Prop :=
  ∃ known outcome, renewal = .answered known expiry (.ok outcome) ∧ outcome.declines = false

/-- Every expiry that the owner goes by, now or after a renewal on its way, is at most this. -/
structure ClaimOwner.BoundedBy (owner : ClaimOwner) (bound : Nat) : Prop where
  heartbeat : ∀ heartbeat, owner.heartbeat = some heartbeat → heartbeat.leaseExpiresAtMs ≤ bound
  beat : ∀ renewal expiry, owner.beat = some renewal → renewal.Promises expiry → expiry ≤ bound
  renewing : ∀ renewal expiry, owner.dispatch = .renewing renewal → renewal.Promises expiry →
    expiry ≤ bound
  reloading : ∀ expiry, owner.dispatch = .reloading expiry → expiry ≤ bound
  checkpoint : owner.checkpoint.claimToken = some owner.ownedClaimToken → ∀ expiry,
    owner.checkpoint.leaseExpiresAtMs = some expiry → expiry ≤ bound

omit [Runtime] in
theorem ClaimOwner.BoundedBy.mono {owner : ClaimOwner} {bound later : Nat}
    (h : owner.BoundedBy bound) (hle : bound ≤ later) : owner.BoundedBy later where
  heartbeat heartbeat hsome := (h.heartbeat heartbeat hsome).trans hle
  beat renewal expiry hsome hpromise := (h.beat renewal expiry hsome hpromise).trans hle
  renewing renewal expiry hsome hpromise := (h.renewing renewal expiry hsome hpromise).trans hle
  reloading expiry hsome := (h.reloading expiry hsome).trans hle
  checkpoint htoken expiry hsome := (h.checkpoint htoken expiry hsome).trans hle

omit [Runtime] in
/-- Merging keeps the larger expiry. -/
theorem ClaimOwner.BoundedBy.heartbeat_merge {owner : ClaimOwner} {bound expiry : Nat}
    (h : owner.BoundedBy bound) (hle : expiry ≤ bound) (heartbeat : HeartbeatHandle)
    (hmerged : (owner.merge expiry).heartbeat = some heartbeat) :
    heartbeat.leaseExpiresAtMs ≤ bound := by
  obtain ⟨earlier, hearlier, rfl⟩ := Option.map_eq_some_iff.mp hmerged
  exact max_le (h.heartbeat earlier hearlier) hle

omit [Runtime] in
theorem ClaimOwner.merge_heartbeat {owner : ClaimOwner} {expiry : Nat} {token : String}
    (h : ∀ heartbeat, owner.heartbeat = some heartbeat → heartbeat.claimToken = token)
    (heartbeat : HeartbeatHandle) (hmerged : (owner.merge expiry).heartbeat = some heartbeat) :
    heartbeat.claimToken = token := by
  obtain ⟨earlier, hearlier, rfl⟩ := Option.map_eq_some_iff.mp hmerged
  exact h earlier hearlier

/-- The stored lease, or the present when the claim has been lost: nothing that the owner
believes may lie behind it. -/
def Horizon (store : MemoryStore) (key token : String) (now bound : Nat) : Prop :=
  Claimed store key token bound ∨ Unclaimed store key token ∧ bound = now

/-- A renewal does not shorten the stored lease when it reaches the store. -/
def Renewal.inOrder (renewal : Renewal) (store : MemoryStore) (key token : String) : Bool :=
  match renewal, store.checkpoints[key]? with
  | .sent _ _ expiry, some record =>
      record.claimToken != some token || record.leaseExpiresAtMs.all (· ≤ expiry)
  | _, _ => true

omit [Runtime] in
theorem Renewal.inOrder_sent {store : MemoryStore} {key token : String}
    {known sentAt expiry lease : Nat}
    (h : (Renewal.sent known sentAt expiry).inOrder store key token = true)
    (hclaimed : Claimed store key token lease) : lease ≤ expiry := by
  obtain ⟨record, hfound, htoken, hlease⟩ := hclaimed
  simpa [Renewal.inOrder, hfound, htoken, hlease] using h

omit [Runtime] in
/-- A lease that was renewed in order is the new horizon. -/
theorem Horizon.renewed {store after : MemoryStore} {key token : String} {now bound expiry : Nat}
    {current : Checkpoint} (hkeyed : Keyed store) (hhorizon : Horizon store key token now bound)
    (hfound : store.checkpoints[key]? = some current) (htoken : current.claimToken = some token)
    (hafter : after.checkpoints =
      store.checkpoints.insert key { current with leaseExpiresAtMs := some expiry })
    (horder : ∀ lease, Claimed store key token lease → lease ≤ expiry) :
    Keyed after ∧ Claimed store key token bound ∧ bound ≤ expiry ∧
      Horizon after key token now expiry := by
  have hrenewed : after.checkpoints[key]? =
      some { current with leaseExpiresAtMs := some expiry } := by
    rw [hafter, Table.get_insert, if_pos rfl]
  have hclaimed : Claimed store key token bound := by
    rcases hhorizon with hclaimed | ⟨hlost, _⟩
    · exact hclaimed
    · exact absurd htoken (hlost current hfound)
  refine ⟨?_, hclaimed, horder bound hclaimed, .inl ⟨_, hrenewed, htoken, rfl⟩⟩
  · intro other record hrecord
    rw [hafter, Table.get_insert] at hrecord
    split at hrecord
    · rename_i hsame
      obtain rfl := Option.some.inj hrecord
      rw [← hsame]
      exact hkeyed key current hfound
    · exact hkeyed other record hrecord

omit [Runtime] in
/-- One step of a renewal. What it promises is at most the stored lease, which has not become
smaller. -/
theorem Renewal.step_horizon (renewal : Renewal) (now duration : Nat)
    (failure : Option CheckpointError) {bound : Nat} {store : MemoryStore} {key token : String}
    (hkeyed : Keyed store)
    (hhorizon : Horizon store key token now bound)
    (horder : failure = none → renewal.inOrder store key token = true) :
    let (progress, after) := renewal.step now duration store key token failure
    Keyed after ∧
      (∀ lease, Claimed after key token lease → ∃ earlier, Claimed store key token earlier) ∧
      ∃ later, bound ≤ later ∧ Horizon after key token now later ∧
      (∀ next expiry, progress = .goesOn next → next.Promises expiry → expiry ≤ later) ∧
      ∀ expiry, progress = .ended (.ok (some expiry)) → renewal.Promises expiry := by
  have hquiet : ∀ progress : RenewalProgress,
      (∀ next expiry, progress = .goesOn next → ¬next.Promises expiry) →
      (∀ expiry, progress = .ended (.ok (some expiry)) → renewal.Promises expiry) →
      Keyed store ∧
        (∀ lease, Claimed store key token lease → ∃ earlier, Claimed store key token earlier) ∧
        ∃ later, bound ≤ later ∧ Horizon store key token now later ∧
        (∀ next expiry, progress = .goesOn next → next.Promises expiry → expiry ≤ later) ∧
        ∀ expiry, progress = .ended (.ok (some expiry)) → renewal.Promises expiry := by
    intro progress hsilent hended
    refine ⟨hkeyed, fun lease h => ⟨lease, h⟩, bound, le_rfl, hhorizon, ?_, hended⟩
    intro next expiry hnext hpromise
    exact absurd hpromise (hsilent next expiry hnext)
  cases renewal with
  | loaded known =>
      simp only [Renewal.step]
      split
      · exact hquiet _ (fun _ _ h => by cases h) (fun _ h => by cases h)
      split
      · exact hquiet _ (fun _ _ h => by cases h) (fun _ h => by cases h)
      · refine hquiet _ ?_ (fun _ h => by cases h)
        rintro next expiry ⟨⟩ ⟨_, _, hanswered, _⟩
        cases hanswered
  | answered known expiry answer =>
      simp only [Renewal.step]
      split
      · exact hquiet _ (fun _ _ h => by cases h) (fun _ h => by cases h)
      · rename_i outcome hkept
        split
        · exact hquiet _ (fun _ _ h => by cases h) (fun _ h => by cases h)
        · refine hquiet _ (fun _ _ h => by cases h) ?_
          rintro other ⟨⟩
          refine ⟨known, outcome, rfl, ?_⟩
          cases outcome with
          | claimLost revision => exact absurd rfl (hkept revision)
          | renewed => rfl
          | cancelRequested => rfl
      · split
        · exact hquiet _ (fun _ _ h => by cases h) (fun _ h => by cases h)
        · exact hquiet _ (fun _ _ h => by cases h) (fun _ h => by cases h)
  | sent known sentAt expiry =>
      have hsame : ∀ answer : CheckpointResult CheckpointRenewalOutcome,
          isFailure CheckpointRenewalOutcome.declines answer = true →
          ∀ next other, RenewalProgress.goesOn (.answered known expiry answer) = .goesOn next →
            ¬next.Promises other := by
        rintro answer hfails next other ⟨⟩ ⟨_, outcome, hanswered, hkept⟩
        obtain ⟨_, _, rfl⟩ := Renewal.answered.inj hanswered
        rw [isFailure, hkept] at hfails
        cases hfails
      cases failure with
      | some error => exact hquiet _ (hsame _ rfl) (fun _ h => by cases h)
      | none =>
          simp only [Renewal.step, callStore]
          by_cases hfails : isFailure CheckpointRenewalOutcome.declines
              (store.renewCheckpointClaim key token expiry sentAt).1 = true
          · rw [store.renewCheckpointClaim_failed key token expiry sentAt hfails]
            exact hquiet _ (hsame _ hfails) (fun _ h => by cases h)
          · cases hanswer : (store.renewCheckpointClaim key token expiry sentAt).1 with
            | error error =>
                rw [hanswer] at hfails
                exact absurd rfl hfails
            | ok outcome =>
                rw [hanswer] at hfails
                have hkept : outcome.declines = false := by
                  simpa [isFailure] using hfails
                obtain ⟨current, hfound, htoken, hafter⟩ :=
                  renewCheckpointClaim_kept hanswer hkept
                obtain ⟨hlater, hclaimed, hle, hnext⟩ := hhorizon.renewed hkeyed hfound htoken
                  hafter fun _ hlease => Renewal.inOrder_sent (horder rfl) hlease
                refine ⟨hlater, fun _ _ => ⟨bound, hclaimed⟩, expiry, hle, hnext, ?_,
                  fun _ h => by cases h⟩
                rintro next other ⟨⟩ ⟨_, _, hanswered, _⟩
                obtain ⟨_, rfl, _⟩ := Renewal.answered.inj hanswered
                exact le_rfl

namespace LeaseState

/-- The stored claim of the owner. -/
def Holds (state : LeaseState) (lease : Nat) : Prop :=
  Claimed state.store state.owner.checkpointKey state.owner.ownedClaimToken lease

/-- The record no longer carries the owner's token. -/
def Lost (state : LeaseState) : Prop :=
  Unclaimed state.store state.owner.checkpointKey state.owner.ownedClaimToken

omit [Runtime] in
theorem Holds.not_lost {state : LeaseState} {lease : Nat} (h : state.Holds lease) : ¬state.Lost :=
  Claimed.not_unclaimed h

omit [Runtime] in
theorem Holds.unique {state : LeaseState} {first second : Nat} (hfirst : state.Holds first)
    (hsecond : state.Holds second) : first = second :=
  Claimed.unique hfirst hsecond

/-- The owner believes nothing that lies behind the stored lease, and knows its own token as
long as that is stored. -/
structure Consistent (state : LeaseState) : Prop where
  keyed : Keyed state.store
  bounded : ∃ bound, Horizon state.store state.owner.checkpointKey state.owner.ownedClaimToken
    state.now bound ∧ state.owner.BoundedBy bound
  knows : ∀ lease, state.Holds lease →
    state.owner.checkpoint.claimToken = some state.owner.ownedClaimToken
  token : state.owner.checkpoint.claimToken = some state.owner.ownedClaimToken ∨
    state.owner.checkpoint.claimToken = none
  heartbeat : ∀ heartbeat, state.owner.heartbeat = some heartbeat →
    heartbeat.claimToken = state.owner.ownedClaimToken
  busy : state.owner.dispatch ≠ .idle → state.owner.dispatch ≠ .started →
    state.owner.checkpoint.claimToken = some state.owner.ownedClaimToken

end LeaseState

namespace LeaseEvent

/-- Others do not have the owner's token and cannot delete the record, and their clocks do not
run ahead. -/
def Admissible (event : LeaseEvent) (state : LeaseState) : Prop :=
  match event with
  | .elsewhere op => op.ownerToken ≠ some state.owner.ownedClaimToken ∧
      ¬op.installs state.owner.ownedClaimToken ∧ op ≠ .delete state.owner.checkpointKey ∧
      ∀ reading, op.clockReading = some reading → reading ≤ state.now
  | .suspend snapshot => snapshot.checkpointKey = state.owner.checkpointKey
  | _ => True

/-- A renewal that reaches the store does not shorten the lease, and the record is loaded again
before a dispatch while the lease that the owner knows of still runs. -/
def inOrder (event : LeaseEvent) (state : LeaseState) : Bool :=
  match event with
  | .beat none => state.owner.beat.all fun renewal =>
      renewal.inOrder state.store state.owner.checkpointKey state.owner.ownedClaimToken
  | .dispatch failure =>
      match state.owner.dispatch with
      | .renewing renewal => failure.isSome ||
          renewal.inOrder state.store state.owner.checkpointKey state.owner.ownedClaimToken
      | .reloading _ => state.owner.knownExpiry.any (state.now < ·)
      | _ => true
  | _ => true

end LeaseEvent

namespace LeaseState

variable {state : LeaseState}

/-- Time passes. -/
theorem Consistent.tick (h : state.Consistent) (elapsed : Nat) :
    (LeaseEvent.step (.tick elapsed) state).Consistent where
  keyed := h.keyed
  bounded := by
    obtain ⟨bound, hhorizon, hbounded⟩ := h.bounded
    rcases hhorizon with hclaimed | ⟨hlost, rfl⟩
    · exact ⟨bound, .inl hclaimed, hbounded⟩
    · exact ⟨state.now + elapsed, .inr ⟨hlost, rfl⟩, hbounded.mono (Nat.le_add_right _ _)⟩
  knows := h.knows
  token := h.token
  heartbeat := h.heartbeat
  busy := h.busy

/-- Somebody else uses the store. -/
theorem Consistent.elsewhere (h : state.Consistent) {op : StoreOp}
    (hop : LeaseEvent.Admissible (.elsewhere op) state) :
    (LeaseEvent.step (.elsewhere op) state).Consistent := by
  obtain ⟨howner, hinstalls, hkept, hclock⟩ := hop
  obtain ⟨bound, hhorizon, hbounded⟩ := h.bounded
  rcases hhorizon with hclaimed | ⟨hlost, hnow⟩
  · refine ⟨exec_keyed op _ h.keyed, ?_, fun _ _ => h.knows bound hclaimed, h.token, h.heartbeat,
      h.busy⟩
    rcases exec_foreign h.keyed howner hinstalls hkept hclaimed with hsame | hlost
    · exact ⟨bound, .inl hsame, hbounded⟩
    · obtain ⟨hlost, reading, hreading, hexpired⟩ := hlost
      exact ⟨state.now, .inr ⟨hlost, rfl⟩, hbounded.mono (hexpired.trans (hclock _ hreading))⟩
  · have habsent := exec_tokenAbsent h.keyed hinstalls hlost
    refine ⟨exec_keyed op _ h.keyed, ⟨bound, .inr ⟨habsent, hnow⟩, hbounded⟩, ?_, h.token,
      h.heartbeat, h.busy⟩
    intro lease hclaimed
    exact absurd habsent hclaimed.not_unclaimed

omit [Runtime] in
/-- The heartbeat starts with the expiry of the owner's copy. -/
theorem Consistent.startHeartbeat (h : state.Consistent) : state.startHeartbeat.Consistent := by
  unfold LeaseState.startHeartbeat
  split
  · rename_i claimToken known hidle hbeat htoken hlease
    have howned : claimToken = state.owner.ownedClaimToken := by
      rcases h.token with hsame | hnone
      · exact Option.some.inj (htoken.symm.trans hsame)
      · rw [hnone] at htoken
        cases htoken
    obtain ⟨bound, hhorizon, hbounded⟩ := h.bounded
    have hknown : known ≤ bound := hbounded.checkpoint (howned ▸ htoken) known hlease
    refine ⟨h.keyed, ⟨bound, hhorizon, ?_, hbounded.beat, hbounded.renewing, hbounded.reloading,
      hbounded.checkpoint⟩, h.knows, h.token, ?_, h.busy⟩
    · rintro heartbeat ⟨⟩
      exact hknown
    · rintro heartbeat ⟨⟩
      exact howned
  · exact h

/-- After the owner's suspension nothing is claimed or believed any more. -/
theorem Consistent.suspend (h : state.Consistent) {snapshot : Checkpoint}
    (hkey : snapshot.checkpointKey = state.owner.checkpointKey) :
    (state.suspend snapshot).Consistent := by
  unfold LeaseState.suspend
  split
  · rename_i hidle
    split
    · rename_i after hsuspended
      have hanswer : (state.store.suspendCheckpoint snapshot state.owner.ownedClaimToken
          snapshot.revision).1 = .ok true := by
        rw [hsuspended]
      obtain ⟨stored, hstored, hnone⟩ := suspendCheckpoint_released hanswer
      have hkeyed : Keyed after := by
        have hexec := exec_keyed (.suspend snapshot state.owner.ownedClaimToken snapshot.revision)
          state.store h.keyed
        rw [exec, hsuspended] at hexec
        exact hexec
      rw [hsuspended, hkey] at hstored
      rw [hstored]
      have hlost : Unclaimed after state.owner.checkpointKey state.owner.ownedClaimToken := by
        intro record hrecord
        obtain rfl := Option.some.inj (hstored.symm.trans hrecord)
        rw [hnone]
        exact (Option.some_ne_none _).symm
      refine ⟨hkeyed, ⟨state.now, .inr ⟨hlost, rfl⟩, ?_⟩, ?_, .inr hnone, (fun _ h => by cases h), ?_⟩
      · refine ⟨(fun _ h => by cases h), (fun _ _ h => by cases h), ?_, ?_, ?_⟩
        · intro renewal expiry hrenewing
          cases hidle.symm.trans hrenewing
        · intro expiry hreloading
          cases hidle.symm.trans hreloading
        · intro htoken
          cases hnone.symm.trans htoken
      · intro lease hclaimed
        exact absurd hlost hclaimed.not_unclaimed
      · intro hbusy
        exact absurd hidle hbusy
    · rename_i answer after hdeclined hsuspended
      have hfails : isFailure not (state.store.suspendCheckpoint snapshot
          state.owner.ownedClaimToken snapshot.revision).1 = true := by
        rw [hsuspended]
        cases answer with
        | error error => rfl
        | ok suspended =>
            cases suspended with
            | true => exact absurd rfl hdeclined
            | false => rfl
      have hsame : after = state.store := by
        have hfailed := state.store.update_failed _ _ hfails
        change (state.store.suspendCheckpoint snapshot state.owner.ownedClaimToken
          snapshot.revision).2 = state.store at hfailed
        rw [hsuspended] at hfailed
        exact hfailed
      rw [hsame]
      exact h
  · exact h

omit [Runtime] in
/-- The heartbeat thread goes on. -/
theorem Consistent.beat (h : state.Consistent) {failure : Option CheckpointError}
    (horder : LeaseEvent.inOrder (.beat failure) state = true) : (state.beat failure).Consistent := by
  unfold LeaseState.beat
  split
  · exact h
  rename_i heartbeat hheartbeat
  split
  · exact h
  split
  · rename_i hbeat
    obtain ⟨bound, hhorizon, hbounded⟩ := h.bounded
    refine ⟨h.keyed, ⟨bound, hhorizon, hbounded.heartbeat, ?_, hbounded.renewing,
      hbounded.reloading, hbounded.checkpoint⟩, h.knows, h.token, h.heartbeat, h.busy⟩
    rintro renewal expiry ⟨⟩ ⟨_, _, hanswered, _⟩
    cases hanswered
  · rename_i renewal hbeat
    obtain ⟨bound, hhorizon, hbounded⟩ := h.bounded
    have hstep := renewal.step_horizon state.now state.owner.leaseDurationMs failure h.keyed
      hhorizon (fun hnone => by simpa [LeaseEvent.inOrder, hnone, hbeat] using horder)
    rw [h.heartbeat heartbeat hheartbeat]
    generalize renewal.step state.now state.owner.leaseDurationMs state.store
      state.owner.checkpointKey state.owner.ownedClaimToken failure = result at hstep ⊢
    obtain ⟨progress, after⟩ := result
    obtain ⟨hkeyed, hearlier, later, hle, hnext, hpromised, hended⟩ := hstep
    have hlater := hbounded.mono hle
    have hknows : ∀ lease, Claimed after state.owner.checkpointKey state.owner.ownedClaimToken
        lease → state.owner.checkpoint.claimToken = some state.owner.ownedClaimToken := by
      intro lease hclaimed
      obtain ⟨earlier, hbefore⟩ := hearlier lease hclaimed
      exact h.knows earlier hbefore
    cases progress with
    | goesOn next =>
        refine ⟨hkeyed, ⟨later, hnext, hlater.heartbeat, ?_, hlater.renewing, hlater.reloading,
          hlater.checkpoint⟩, hknows, h.token, h.heartbeat, h.busy⟩
        rintro renewal expiry ⟨⟩
        exact hpromised next expiry rfl
    | ended outcome =>
        rcases outcome with error | _ | expiry
        · refine ⟨hkeyed, ⟨later, hnext, ?_, (fun _ _ h => by cases h), hlater.renewing,
            hlater.reloading, hlater.checkpoint⟩, hknows, h.token, ?_, h.busy⟩
          · rintro _ ⟨⟩
            exact hlater.heartbeat heartbeat hheartbeat
          · rintro _ ⟨⟩
            rfl
        · exact ⟨hkeyed, ⟨later, hnext, hlater.heartbeat, (fun _ _ h => by cases h),
            hlater.renewing, hlater.reloading, hlater.checkpoint⟩, hknows, h.token, h.heartbeat,
            h.busy⟩
        · have hexpiry : expiry ≤ later := hlater.beat renewal expiry hbeat (hended expiry rfl)
          refine ⟨hkeyed, ⟨later, hnext, ?_, (fun _ _ h => by cases h), hlater.renewing,
            hlater.reloading, hlater.checkpoint⟩, hknows, h.token, ?_, h.busy⟩
          · exact hlater.heartbeat_merge hexpiry
          · exact ClaimOwner.merge_heartbeat h.heartbeat

omit [Runtime] in
/-- A claim that passes its assertion has a known expiry that lies ahead. -/
theorem assertHeartbeat_eq_ok {owner : ClaimOwner} {now : Nat}
    (h : owner.assertHeartbeat now = .ok ())
    (htoken : owner.checkpoint.claimToken ≠ none) :
    owner.checkpoint.claimToken = some owner.ownedClaimToken ∧
      ∃ known, owner.knownExpiry = some known ∧ now < known := by
  unfold ClaimOwner.assertHeartbeat at h
  split at h
  · cases h
  split at h
  · rename_i hnone
    exact absurd hnone htoken
  · rename_i token hsome
    simp only [bind_eq_ok, refuse_eq_ok, require_eq_ok, exists_const, bne_eq_false_iff_eq,
      decide_eq_false_iff_not, not_le] at h
    obtain ⟨hsame, known, hknown, hlive⟩ := h
    rw [hsame]
    exact ⟨hsome, known, hknown, hlive⟩

omit [Runtime] in
/-- What the owner goes by is one of its beliefs. -/
theorem knownExpiry_le {owner : ClaimOwner} {bound known : Nat} (h : owner.BoundedBy bound)
    (htoken : owner.checkpoint.claimToken = some owner.ownedClaimToken)
    (hknown : owner.knownExpiry = some known) : known ≤ bound := by
  unfold ClaimOwner.knownExpiry at hknown
  cases hheartbeat : owner.heartbeat with
  | none =>
      rw [hheartbeat] at hknown
      exact h.checkpoint htoken known hknown
  | some heartbeat =>
      rw [hheartbeat] at hknown
      obtain rfl := Option.some.inj hknown
      exact h.heartbeat heartbeat hheartbeat

omit [Runtime] in
/-- An expiry that the owner knows of and that lies ahead is covered by its stored claim. -/
theorem Consistent.holds (h : state.Consistent)
    (htoken : state.owner.checkpoint.claimToken = some state.owner.ownedClaimToken)
    (hahead : ∃ known, state.owner.knownExpiry = some known ∧ state.now < known) :
    ∃ lease, state.Holds lease ∧ state.now < lease ∧ state.owner.BoundedBy lease := by
  obtain ⟨known, hknown, hlive⟩ := hahead
  obtain ⟨bound, hhorizon, hbounded⟩ := h.bounded
  have hle : known ≤ bound := knownExpiry_le hbounded htoken hknown
  rcases hhorizon with hclaimed | ⟨_, rfl⟩
  · exact ⟨bound, hclaimed, lt_of_lt_of_le hlive hle, hbounded⟩
  · omega

omit [Runtime] in
/-- The main thread gives its dispatch up. -/
theorem Consistent.idle (h : state.Consistent) :
    Consistent { state with owner := { state.owner with dispatch := .idle } } := by
  obtain ⟨bound, hhorizon, hbounded⟩ := h.bounded
  refine ⟨h.keyed, ⟨bound, hhorizon, hbounded.heartbeat, hbounded.beat, ?_, ?_,
    hbounded.checkpoint⟩, h.knows, h.token, h.heartbeat, ?_⟩
  · intro renewal expiry hrenewing
    cases hrenewing
  · intro expiry hreloading
    cases hreloading
  · intro hbusy
    exact absurd rfl hbusy

omit [Runtime] in
/-- The renewal before a dispatch goes on. -/
theorem Consistent.renewing (h : state.Consistent) {failure : Option CheckpointError}
    {renewal : Renewal} (hdispatch : state.owner.dispatch = .renewing renewal)
    (horder : failure = none →
      renewal.inOrder state.store state.owner.checkpointKey state.owner.ownedClaimToken = true) :
    (state.dispatch failure).Consistent ∧
      (state.dispatch failure).owner.dispatch ≠ .started := by
  obtain ⟨bound, hhorizon, hbounded⟩ := h.bounded
  have hstep := renewal.step_horizon state.now state.owner.leaseDurationMs failure h.keyed
    hhorizon horder
  have htoken := h.busy (by rw [hdispatch]; simp) (by rw [hdispatch]; simp)
  simp only [LeaseState.dispatch, hdispatch]
  generalize renewal.step state.now state.owner.leaseDurationMs state.store
    state.owner.checkpointKey state.owner.ownedClaimToken failure = result at hstep ⊢
  obtain ⟨progress, after⟩ := result
  obtain ⟨hkeyed, _, later, hle, hnext, hpromised, hended⟩ := hstep
  have hlater := hbounded.mono hle
  have hidle : Consistent
      { state with store := after, owner := { state.owner with dispatch := .idle } } := by
    refine ⟨hkeyed, ⟨later, hnext, hlater.heartbeat, hlater.beat, ?_, ?_, hlater.checkpoint⟩,
      fun _ _ => htoken, h.token, h.heartbeat, fun hbusy => absurd rfl hbusy⟩
    · intro renewal expiry hrenewing
      cases hrenewing
    · intro expiry hreloading
      cases hreloading
  cases progress with
  | goesOn next =>
      refine ⟨⟨hkeyed, ⟨later, hnext, hlater.heartbeat, hlater.beat, ?_, ?_, hlater.checkpoint⟩,
        fun _ _ => htoken, h.token, h.heartbeat, fun _ _ => htoken⟩, by simp⟩
      · rintro renewal expiry ⟨⟩
        exact hpromised next expiry rfl
      · intro expiry hreloading
        cases hreloading
  | ended outcome =>
      rcases outcome with error | _ | expiry
      · exact ⟨hidle, by simp⟩
      · exact ⟨hidle, by simp⟩
      · have hexpiry : expiry ≤ later := hlater.renewing renewal expiry hdispatch (hended expiry rfl)
        refine ⟨⟨hkeyed, ⟨later, hnext, hlater.heartbeat_merge hexpiry, hlater.beat, ?_, ?_, ?_⟩,
          fun _ _ => htoken, h.token, ClaimOwner.merge_heartbeat h.heartbeat,
          fun _ _ => htoken⟩, by simp⟩
        · intro renewal other hrenewing
          cases hrenewing
        · rintro other ⟨⟩
          exact hexpiry
        · rintro _ other ⟨⟩
          exact hexpiry

omit [Runtime] in
/-- The main thread goes on. A dispatch starts under a stored claim that runs. -/
theorem Consistent.dispatch (h : state.Consistent) {failure : Option CheckpointError}
    (horder : LeaseEvent.inOrder (.dispatch failure) state = true) :
    (state.dispatch failure).Consistent ∧
      ((state.dispatch failure).owner.dispatch = .started →
        ∃ lease, (state.dispatch failure).Holds lease ∧
          (state.dispatch failure).now < lease) := by
  cases hdispatch : state.owner.dispatch with
  | idle =>
      simp only [LeaseState.dispatch, hdispatch]
      split
      · rename_i token known hassert hsome hknown
        have htoken := (assertHeartbeat_eq_ok hassert (by rw [hsome]; simp)).1
        obtain ⟨bound, hhorizon, hbounded⟩ := h.bounded
        refine ⟨⟨h.keyed, ⟨bound, hhorizon, hbounded.heartbeat, hbounded.beat, ?_, ?_,
          hbounded.checkpoint⟩, h.knows, h.token, h.heartbeat, fun _ _ => htoken⟩, ?_⟩
        · rintro renewal expiry ⟨⟩ ⟨_, _, hanswered, _⟩
          cases hanswered
        · intro expiry hreloading
          cases hreloading
        · intro hstarted
          cases hstarted
      · refine ⟨h, ?_⟩
        intro hstarted
        cases hdispatch.symm.trans hstarted
  | renewing renewal =>
      have hsent : failure = none → renewal.inOrder state.store state.owner.checkpointKey
          state.owner.ownedClaimToken = true := by
        rintro rfl
        simpa [LeaseEvent.inOrder, hdispatch] using horder
      obtain ⟨hconsistent, hrunning⟩ := h.renewing hdispatch hsent
      exact ⟨hconsistent, fun hstarted => absurd hstarted hrunning⟩
  | reloading expiry =>
      have htoken := h.busy (by rw [hdispatch]; simp) (by rw [hdispatch]; simp)
      have hahead : ∃ known, state.owner.knownExpiry = some known ∧ state.now < known := by
        simpa [LeaseEvent.inOrder, hdispatch, Option.any_eq_true] using horder
      obtain ⟨lease, hclaimed, hlive, hbounded⟩ := h.holds htoken hahead
      obtain ⟨record, hfound, howned, hlease⟩ := hclaimed
      simp only [LeaseState.dispatch, hdispatch, hfound]
      split
      · rename_i checkpoint _ hsome
        obtain rfl := Option.some.inj hsome
        refine ⟨⟨h.keyed, ⟨lease, .inl ⟨record, hfound, howned, hlease⟩, hbounded.heartbeat,
          hbounded.beat, ?_, ?_, ?_⟩, fun _ _ => howned, .inl howned, h.heartbeat,
          fun _ _ => howned⟩, fun _ => ⟨lease, ⟨record, hfound, howned, hlease⟩, hlive⟩⟩
        · intro renewal other hrenewing
          dsimp only at hrenewing
          split at hrenewing <;> cases hrenewing
        · intro other hreloading
          dsimp only at hreloading
          split at hreloading <;> cases hreloading
        · intro _ other hother
          exact (Option.some.inj (hother.symm.trans hlease)).le
      · exact ⟨h.idle, fun hstarted => by cases hstarted⟩
  | started =>
      simp only [LeaseState.dispatch, hdispatch]
      exact ⟨h.idle, fun hstarted => by cases hstarted⟩

/-- The owner has just been granted a claim, or has adopted one that is stored. -/
structure Granted (state : LeaseState) : Prop where
  keyed : Keyed state.store
  stored : state.store.checkpoints[state.owner.checkpointKey]? = some state.owner.checkpoint
  token : state.owner.checkpoint.claimToken = some state.owner.ownedClaimToken
  lease : state.owner.checkpoint.leaseExpiresAtMs.isSome = true
  heartbeat : state.owner.heartbeat = none
  beat : state.owner.beat = none
  dispatch : state.owner.dispatch = .idle

omit [Runtime] in
theorem Granted.consistent (h : state.Granted) : state.Consistent := by
  obtain ⟨lease, hlease⟩ := Option.isSome_iff_exists.mp h.lease
  refine ⟨h.keyed, ⟨lease, .inl ⟨_, h.stored, h.token, hlease⟩, ?_, ?_, ?_, ?_, ?_⟩,
    fun _ _ => h.token, .inl h.token, ?_, fun hbusy => absurd h.dispatch hbusy⟩
  · intro heartbeat hsome
    cases h.heartbeat.symm.trans hsome
  · intro renewal expiry hsome
    cases h.beat.symm.trans hsome
  · intro renewal expiry hrenewing
    cases h.dispatch.symm.trans hrenewing
  · intro expiry hreloading
    cases h.dispatch.symm.trans hreloading
  · intro _ expiry hexpiry
    exact (Option.some.inj (hexpiry.symm.trans hlease)).le
  · intro heartbeat hsome
    cases h.heartbeat.symm.trans hsome

/-- The owner's claim is stored and runs, so that nobody else has been granted it so far. -/
def ClaimRuns (state : LeaseState) : Prop :=
  (∃ lease, state.Holds lease ∧ state.now < lease) ∧
    ∀ cycle token lease reading mode claimed, reading ≤ state.now →
      (state.store.claimCheckpoint state.owner.checkpointKey cycle token lease reading mode).1 ≠
        .ok (some claimed)

/-- As long as the owner's token stands in the record or in the owner's copy, an assertion that
succeeds says that the claim runs. -/
def Conservative (state : LeaseState) : Prop :=
  state.owner.assertHeartbeat state.now = .ok () →
    ¬state.Lost ∨ state.owner.checkpoint.claimToken = some state.owner.ownedClaimToken →
      state.ClaimRuns

theorem ClaimRuns.of_lease {lease : Nat} (hclaimed : state.Holds lease)
    (hlive : state.now < lease) : state.ClaimRuns := by
  refine ⟨⟨lease, hclaimed, hlive⟩, ?_⟩
  intro cycle token expiry reading mode claimed hreading hgranted
  obtain ⟨current, hfound, hexpired, _⟩ := claimCheckpoint_eq_some hgranted
  obtain ⟨record, hrecord, _, hlease⟩ := hclaimed
  obtain rfl := Option.some.inj (hrecord.symm.trans hfound)
  have hover := hexpired lease hlease
  omega

theorem Consistent.conservative (h : state.Consistent) : state.Conservative := by
  intro hassert howned
  have htoken : state.owner.checkpoint.claimToken = some state.owner.ownedClaimToken := by
    rcases howned with hstored | htoken
    · obtain ⟨bound, hclaimed | ⟨hlost, _⟩, _⟩ := h.bounded
      · exact h.knows bound hclaimed
      · exact absurd hlost hstored
    · exact htoken
  obtain ⟨lease, hclaimed, hlive, _⟩ :=
    h.holds htoken (assertHeartbeat_eq_ok hassert (by rw [htoken]; simp)).2
  exact .of_lease hclaimed hlive

theorem Consistent.step (h : state.Consistent) {event : LeaseEvent}
    (hallowed : event.Admissible state ∧ event.inOrder state = true) : (event.step state).Consistent := by
  obtain ⟨hadmissible, horder⟩ := hallowed
  cases event with
  | tick elapsed => exact h.tick elapsed
  | elsewhere op => exact h.elsewhere hadmissible
  | startHeartbeat => exact h.startHeartbeat
  | suspend snapshot => exact h.suspend hadmissible
  | beat failure => exact h.beat horder
  | dispatch failure => exact (h.dispatch horder).1

end LeaseState

/-- The step starts a dispatch. -/
def LeaseEvent.StartsDispatch (event : LeaseEvent) (state : LeaseState) : Prop :=
  (∃ failure, event = .dispatch failure) ∧ (event.step state).owner.dispatch = .started

open LeaseState in
/-- In every interleaving of the owner's renewals with each other and with others, in which no
renewal shortens the stored lease and no dispatch loads its record after the known lease has run
out: an assertion that succeeds says that the stored lease runs, and every dispatch starts under
a stored lease that runs. -/
theorem lease_believed_conservatively (start : LeaseState) (hstart : start.Granted)
    (events : List LeaseEvent)
    (hevents : Along LeaseEvent.step (fun event state => event.Admissible state ∧
      event.inOrder state = true) events start)
    (first rest : List LeaseEvent) (hsplit : events = first ++ rest) :
    let state := run LeaseEvent.step first start
    state.Conservative ∧
      ∀ event later, rest = event :: later → event.StartsDispatch state →
        (event.step state).ClaimRuns := by
  have hstep : ∀ event state, event.Admissible state ∧ event.inOrder state = true →
      state.Consistent → (LeaseEvent.step event state).Consistent :=
    fun event state hallowed h => h.step hallowed
  have hconsistent := along_preserves hstep hevents hstart.consistent first rest hsplit
  refine ⟨hconsistent.conservative, ?_⟩
  rintro event later rfl ⟨⟨failure, rfl⟩, hstarted⟩
  rw [hsplit, along_append] at hevents
  obtain ⟨_, ⟨_, horder⟩, _⟩ := hevents
  obtain ⟨lease, hclaimed, hlive⟩ := (hconsistent.dispatch horder).2 hstarted
  exact .of_lease hclaimed hlive

end

namespace Sample

/-- The owner has been granted a lease of 300 milliseconds. -/
def leased [Runtime] : LeaseState where
  now := 1000
  store := run exec [.create created, .claim "checkpoint" 1 "worker-a" 1300 1000 .continue] {}
  owner :=
    { checkpointKey := "checkpoint"
      ownedClaimToken := "worker-a"
      leaseDurationMs := 300
      checkpoint := claimedBy created 1 "worker-a" 1300 .continue }

theorem leased_granted : @LeaseState.Granted (@leased (runtime [])) := by
  let _ : Runtime := runtime []
  exact ⟨run_keyed _, by decide +kernel, rfl, rfl, rfl, rfl, rfl⟩

/-- A renewal before a dispatch, without a heartbeat on its way. -/
def orderlyDispatch : List LeaseEvent :=
  [.startHeartbeat, .tick 100, .dispatch none, .dispatch none, .dispatch none, .dispatch none,
    .dispatch none]

/-- The heartbeat computes its expiry and is held up. The main thread renews the lease before a
dispatch; then the heartbeat's call reaches the store. -/
def delayedHeartbeat : List LeaseEvent :=
  [.startHeartbeat, .tick 100, .beat none, .beat none, .tick 100, .dispatch none, .dispatch none,
    .dispatch none, .dispatch none, .dispatch none, .beat none, .beat none, .tick 250]

end Sample

/-- The dispatch of the orderly run starts under a claim that runs. -/
theorem lease_believed_conservatively_orderly :
    letI := Sample.runtime []
    let state := run LeaseEvent.step (Sample.orderlyDispatch.take 6) Sample.leased
    LeaseEvent.StartsDispatch (.dispatch none) state ∧
      (LeaseEvent.step (.dispatch none) state).ClaimRuns := by
  let _ : Runtime := Sample.runtime []
  have hevents : Along LeaseEvent.step (fun event state => event.Admissible state ∧
      event.inOrder state = true) Sample.orderlyDispatch Sample.leased := by
    refine ⟨⟨trivial, rfl⟩, ⟨trivial, rfl⟩, ⟨trivial, ?_⟩, ⟨trivial, ?_⟩, ⟨trivial, ?_⟩,
      ⟨trivial, ?_⟩, ⟨trivial, ?_⟩, trivial⟩ <;> decide +kernel
  have hstarts : LeaseEvent.StartsDispatch (.dispatch none)
      (run LeaseEvent.step (Sample.orderlyDispatch.take 6) Sample.leased) :=
    ⟨⟨none, rfl⟩, by decide +kernel⟩
  exact ⟨hstarts, (lease_believed_conservatively Sample.leased Sample.leased_granted
    Sample.orderlyDispatch hevents (Sample.orderlyDispatch.take 6) [.dispatch none] rfl).2 _ [] rfl
      hstarts⟩

/-- After the heartbeat's call was held up, the owner's assertion succeeds although the stored
lease has run out, and another worker is granted the claim. -/
theorem lease_shortened :
    letI := Sample.runtime []
    let state := run LeaseEvent.step Sample.delayedHeartbeat Sample.leased
    Along LeaseEvent.step LeaseEvent.Admissible Sample.delayedHeartbeat Sample.leased ∧
      state.owner.assertHeartbeat state.now = .ok () ∧ state.Holds 1400 ∧ state.now = 1450 ∧
      (state.store.claimCheckpoint "checkpoint" 1 "worker-b" 2000 1450 .recovery).1 =
        .ok (some (claimedBy (claimedBy Sample.created 1 "worker-a" 1400 .continue) 1 "worker-b"
          2000 .recovery)) ∧
      ¬state.Conservative := by
  let _ : Runtime := Sample.runtime []
  have hassert : (run LeaseEvent.step Sample.delayedHeartbeat Sample.leased).owner.assertHeartbeat
      (run LeaseEvent.step Sample.delayedHeartbeat Sample.leased).now = .ok () := by
    decide +kernel
  have hstored : (run LeaseEvent.step Sample.delayedHeartbeat
      Sample.leased).store.checkpoints["checkpoint"]? =
        some (claimedBy Sample.created 1 "worker-a" 1400 .continue) := by
    decide +kernel
  have howner : (run LeaseEvent.step Sample.delayedHeartbeat Sample.leased).owner.checkpointKey =
      "checkpoint" := by
    decide +kernel
  have htoken : (run LeaseEvent.step Sample.delayedHeartbeat Sample.leased).owner.ownedClaimToken =
      "worker-a" := by
    decide +kernel
  have hholds : (run LeaseEvent.step Sample.delayedHeartbeat Sample.leased).Holds 1400 := by
    rw [LeaseState.Holds, howner, htoken]
    exact ⟨_, hstored, rfl, rfl⟩
  have hnow : (run LeaseEvent.step Sample.delayedHeartbeat Sample.leased).now = 1450 := by
    decide +kernel
  have hgranted : ((run LeaseEvent.step Sample.delayedHeartbeat Sample.leased).store.claimCheckpoint
      "checkpoint" 1 "worker-b" 2000 1450 .recovery).1 =
        .ok (some (claimedBy (claimedBy Sample.created 1 "worker-a" 1400 .continue) 1 "worker-b"
          2000 .recovery)) := by
    decide +kernel
  refine ⟨?_, hassert, hholds, hnow, hgranted, ?_⟩
  · unfold Sample.delayedHeartbeat
    refine ⟨trivial, trivial, trivial, trivial, trivial, trivial, trivial, trivial, trivial,
      trivial, trivial, trivial, trivial, trivial⟩
  · intro hconservative
    obtain ⟨⟨lease, hclaimed, hlive⟩, _⟩ := hconservative hassert (.inl hholds.not_lost)
    rw [hclaimed.unique hholds, hnow] at hlive
    omega

end VvAgent
