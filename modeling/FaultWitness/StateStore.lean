/-
**The state store.**

`faultwitness/persistence/postgres.py` on the tables of `001_i0011_durable_runtime.sql`: a decision
of the kernel is applied together with the record of its idempotency key and one event in the
outbox, and a checkpoint of an agent is written together with the check of the lease and one event
in the outbox.  Each call is one transaction, written here as a body over rows and run by the
`ReadCommitted` library, alone or beside others.

A unique index is a table of its own, keyed by the indexed value.  The version columns are
`bigint`: a value outside its range is refused by the server, and a negative state version by the
check of the table, both before the conflict with an existing row is looked at.  Whatever else may
go wrong at a statement (a lost connection, a text the driver refuses to send, a full disk) is the
`fault` of the request: the number of the statement that fails.

Nothing in the repository writes leases, so their writer is a transaction of the environment,
which keeps to the discipline of fencing: the row changes to a larger token, or only its expiry
moves.

Main definitions:

* `StateStore.applyTransition`, `StateStore.writeCheckpoint` — the bodies of the two calls;
* `StateStore.changeLease` — the environment;
* `StateStore.body` — the transaction of a request, with its fault.

Main results:

* `StateStore.exec_applyTransition`, `StateStore.exec_writeCheckpoint` — all that a call that
  commits can have done;
* `StateStore.guards_body` — every transaction is serialisable at its commit.
-/

import FaultWitness.ReadCommitted
import FaultWitness.TransitionKernel
import Mathlib.Algebra.Group.Int.Defs

set_option autoImplicit false

namespace StateStore

open ReadCommitted TransitionKernel

/-! ### Tables -/

/-- The schemas with state tables. -/
inductive OwnerSchema
  | incidentOwner
  | taskOwner
  | graphOwner
  | actionOwner
deriving DecidableEq, Repr

/-- The keys of the tables and of the unique index of the outboxes. -/
inductive Key
  | aggregate (schema : OwnerSchema) (tenantId aggregateId : String)
  | idempotency (schema : OwnerSchema) (tenantId idempotencyKey : String)
  | outbox (schema : OwnerSchema) (outboxId : String)
  | outboxEvent (schema : OwnerSchema) (eventId : String)
  | lease (tenantId taskId : String)
  | checkpoint (tenantId taskId : String)
deriving DecidableEq

structure AggregateRow where
  machineId : String
  state : String
  stateVersion : ℕ
deriving DecidableEq

/-- The response is the document `{"event_id": …, "outbox_id": …}`. -/
structure IdempotencyRow where
  requestDigest : String
  eventId : String
  outboxId : String
deriving DecidableEq

/-- What an outbox row carries: a decision, or the news of a checkpoint. -/
inductive Payload
  | transition (decision : TransitionDecision)
  | checkpoint (taskId : String) (stateVersion : ℤ)
deriving DecidableEq

structure OutboxRow where
  tenantId : String
  aggregateId : String
  eventId : String
  eventType : String
  payload : Payload
deriving DecidableEq

structure LeaseRow where
  attemptId : String
  workerId : String
  fencingToken : ℕ
  expiresAt : ℤ
deriving DecidableEq

structure CheckpointRow where
  attemptId : String
  fencingToken : ℤ
  stateVersion : ℤ
  ciphertext : List UInt8
  keyId : String
deriving DecidableEq

abbrev Row : Key → Type
  | .aggregate .. => AggregateRow
  | .idempotency .. => IdempotencyRow
  | .outbox .. => OutboxRow
  | .outboxEvent .. => Unit
  | .lease .. => LeaseRow
  | .checkpoint .. => CheckpointRow

abbrev Tables := AList Row

/-- The range of a `bigint` column. -/
def Bigint (n : ℤ) : Prop := -2 ^ 63 ≤ n ∧ n < 2 ^ 63

instance (n : ℤ) : Decidable (Bigint n) := inferInstanceAs (Decidable (_ ∧ _))

/-! ### Calls -/

inductive StateError
  | valueError
  | duplicateCommand
  | versionConflict
  | staleFence
  | outOfRange
  | checkViolation
  /-- Whatever made a statement fail. -/
  | databaseError
  /-- The environment would have broken the discipline of fencing. -/
  | leaseRefused
deriving DecidableEq, Repr

structure AppliedTransition where
  decision : TransitionDecision
  eventId : String
  outboxId : String
  duplicate : Bool := false
deriving DecidableEq

inductive Answer
  | applied (a : AppliedTransition)
  | checkpointed
  | leased
deriving DecidableEq

abbrev Block := Prog Row Answer StateError

/-- The insertion into an outbox, which claims the primary key and the unique `event_id`. -/
def insertOutbox (schema : OwnerSchema) (outboxId : String) (row : OutboxRow) (next : Block) :
    Block :=
  .insert (.outbox schema outboxId) row <| .insert (.outboxEvent schema row.eventId) () next

/-- The row that the upsert of the aggregate leaves. -/
def AggregateRow.advance (row : AggregateRow) (d : TransitionDecision) : AggregateRow :=
  { row with state := d.nextState, stateVersion := d.nextStateVersion.toNat }

/-- The upsert of the aggregate; `next` learns whether a row was affected. -/
def upsertAggregate (schema : OwnerSchema) (tenantId : String) (d : TransitionDecision)
    (next : Bool → Block) : Block :=
  if ¬ Bigint d.nextStateVersion then .raise .outOfRange
  else if d.nextStateVersion < 0 then .raise .checkViolation
  else
    .write (.aggregate schema tenantId d.aggregateId)
      (fun row : AggregateRow =>
        if (row.stateVersion : ℤ) = d.previousStateVersion then some (some (row.advance d)) else none)
      (some ⟨d.machineId, d.nextState, d.nextStateVersion.toNat⟩) next

/-- The outbox row of a decision. -/
def transitionRow (tenantId eventId : String) (d : TransitionDecision) : OutboxRow :=
  { tenantId := tenantId, aggregateId := d.aggregateId, eventId := eventId, eventType := d.event
    payload := .transition d }

/-- What follows the lookup of a key that is not recorded. -/
def applyFresh (schema : OwnerSchema) (d : TransitionDecision) (key tenantId eventId outboxId : String) :
    Block :=
  upsertAggregate schema tenantId d fun affected =>
    if ¬ affected then .raise .versionConflict
    else
      insertOutbox schema outboxId (transitionRow tenantId eventId d) <|
      .insert (.idempotency schema tenantId key) ⟨d.requestDigest, eventId, outboxId⟩ <|
      .commit (.applied ⟨d, eventId, outboxId, false⟩)

def applyTransition (schema : OwnerSchema) (d : TransitionDecision)
    (tenantId eventId outboxId : String) : Block :=
  match d.idempotencyKey with
  | none => .raise .valueError
  | some key =>
    .select (.idempotency schema tenantId key) fun prior : Option IdempotencyRow =>
      match prior with
      | some row =>
        if row.requestDigest ≠ d.requestDigest then .raise .duplicateCommand
        else .commit (.applied ⟨d, row.eventId, row.outboxId, true⟩)
      | none => applyFresh schema d key tenantId eventId outboxId

/-- The arguments of `write_checkpoint`. -/
structure CheckpointCall where
  tenantId : String
  taskId : String
  attemptId : String
  fencingToken : ℤ
  stateVersion : ℤ
  ciphertext : List UInt8
  keyId : String
  eventId : String
  outboxId : String
deriving DecidableEq

def CheckpointCall.row (c : CheckpointCall) : CheckpointRow where
  attemptId := c.attemptId
  fencingToken := c.fencingToken
  stateVersion := c.stateVersion
  ciphertext := c.ciphertext
  keyId := c.keyId

def CheckpointCall.outboxRow (c : CheckpointCall) : OutboxRow where
  tenantId := c.tenantId
  aggregateId := c.taskId
  eventId := c.eventId
  eventType := "EVT-GRAPH-CHECKPOINTED"
  payload := .checkpoint c.taskId c.stateVersion

/-- The lease admits the call at the instant `now`. -/
def LeaseRow.Admits (lease : LeaseRow) (c : CheckpointCall) (now : ℤ) : Prop :=
  lease.attemptId = c.attemptId ∧ (lease.fencingToken : ℤ) = c.fencingToken ∧ now < lease.expiresAt

instance (lease : LeaseRow) (c : CheckpointCall) (now : ℤ) : Decidable (lease.Admits c now) :=
  inferInstanceAs (Decidable (_ ∧ _))

/-- The body of `write_checkpoint`; `now` is the start of the transaction. -/
def writeCheckpoint (c : CheckpointCall) (now : ℤ) : Block :=
  .select (.lease c.tenantId c.taskId) fun lease : Option LeaseRow =>
    match lease with
    | none => .raise .staleFence
    | some lease =>
      if ¬ lease.Admits c now then .raise .staleFence
      else if ¬ (Bigint c.fencingToken ∧ Bigint c.stateVersion) then .raise .outOfRange
      else
        .write (.checkpoint c.tenantId c.taskId)
          (fun stored : CheckpointRow =>
            if stored.stateVersion < c.stateVersion then some (some c.row) else none)
          (some c.row) fun affected =>
            if ¬ affected then .raise .versionConflict
            else insertOutbox .graphOwner c.outboxId c.outboxRow <| .commit .checkpointed

/-- The discipline of fencing: a larger token, or only the expiry moves. -/
def LeaseRow.Follows (old new : LeaseRow) : Prop :=
  old.fencingToken < new.fencingToken ∨ new = { old with expiresAt := new.expiresAt }

instance (old new : LeaseRow) : Decidable (old.Follows new) := inferInstanceAs (Decidable (_ ∨ _))

/-- The writer of leases. -/
def changeLease (tenantId taskId : String) (new : LeaseRow) : Block :=
  .write (.lease tenantId taskId)
    (fun old : LeaseRow => if old.Follows new then some (some new) else none) (some new)
    fun affected => if ¬ affected then .raise .leaseRefused else .commit .leased

/-- The requests that open a transaction. -/
inductive Call
  | applyTransition (schema : OwnerSchema) (decision : TransitionDecision)
      (tenantId eventId outboxId : String)
  | writeCheckpoint (call : CheckpointCall) (now : ℤ)
  | changeLease (tenantId taskId : String) (new : LeaseRow)
deriving DecidableEq

/-- A call, and the statement at which it fails, if it does. -/
structure Request where
  call : Call
  fault : Option ℕ := none
deriving DecidableEq

def Call.body : Call → Block
  | .applyTransition schema d tenantId eventId outboxId =>
    StateStore.applyTransition schema d tenantId eventId outboxId
  | .writeCheckpoint c now => StateStore.writeCheckpoint c now
  | .changeLease tenantId taskId new => StateStore.changeLease tenantId taskId new

/-- The transaction of a request. -/
def body (r : Request) : Block :=
  match r.fault with
  | none => r.call.body
  | some n => r.call.body.cut .databaseError n

abbrev Sys := System Request Row Answer StateError

/-! ### Every transaction is guarded -/

variable {schema : OwnerSchema} {outboxId tenantId : String} {d : TransitionDecision}

theorem guards_insertOutbox {row : OutboxRow} {next : Block} {absent held : List Key}
    (hnext : Guards (absent.filter fun k => decide (k ≠ .outbox schema outboxId) &&
        decide (k ≠ .outboxEvent schema row.eventId))
      (.outboxEvent schema row.eventId :: .outbox schema outboxId :: held) next) :
    Guards absent held (insertOutbox schema outboxId row next) := by
  rw [insertOutbox, Guards, Guards, List.filter_filter]
  refine hnext.mono fun k hk => ?_
  simpa [and_comm, and_assoc, and_left_comm] using hk

theorem guards_upsertAggregate {next : Bool → Block} {absent held : List Key}
    (hk : .aggregate schema tenantId d.aggregateId ∉ absent)
    (hnext : ∀ b held, Guards absent held (next b)) :
    Guards absent held (upsertAggregate schema tenantId d next) := by
  unfold upsertAggregate
  split
  · trivial
  · split
    · trivial
    · exact ⟨hk, fun row => hnext _ _, fun _ => hnext _ _⟩

theorem guards_applyTransition (schema : OwnerSchema) (d : TransitionDecision)
    (tenantId eventId outboxId : String) :
    Guards [] [] (applyTransition schema d tenantId eventId outboxId) := by
  unfold applyTransition
  split
  · trivial
  · rename_i key hkey
    refine ⟨by simp, fun _ => ?_, fun row => ?_⟩
    · refine guards_upsertAggregate (by simp) fun b held => ?_
      split
      · trivial
      · refine guards_insertOutbox ?_
        simp [Guards]
    · show Guards [] _ (ite _ _ _)
      split
      · trivial
      · rfl

theorem guards_writeCheckpoint (c : CheckpointCall) (now : ℤ) :
    Guards [] [] (writeCheckpoint c now) := by
  refine ⟨by simp, fun _ => trivial, fun lease => ?_⟩
  show Guards [] _ (ite _ _ _)
  split
  · trivial
  · split
    · trivial
    · have hend : ∀ (b : Bool) (held : List Key), Guards [] held
          (if ¬ b then Prog.raise .versionConflict
            else insertOutbox .graphOwner c.outboxId c.outboxRow (.commit .checkpointed)) := by
        intro b held
        split
        · trivial
        · exact guards_insertOutbox (by simp [Guards])
      exact ⟨by simp, fun row => hend _ _, fun _ => hend _ _⟩

theorem guards_changeLease (tenantId taskId : String) (new : LeaseRow) :
    Guards [] [] (changeLease tenantId taskId new) := by
  have hend : ∀ (b : Bool) (held : List Key), Guards [] held
      (if ¬ b then Prog.raise .leaseRefused else .commit .leased : Block) := by
    intro b held
    split
    · trivial
    · rfl
  exact ⟨by simp, fun row => hend _ _, fun _ => hend _ _⟩

/-- **Every transaction is guarded**, so it is serialisable at its commit. -/
theorem guards_body (r : Request) : Guards [] [] (body r) := by
  have hcall : Guards [] [] r.call.body := by
    cases h : r.call with
    | applyTransition schema d tenantId eventId outboxId =>
      exact guards_applyTransition schema d tenantId eventId outboxId
    | writeCheckpoint c now => exact guards_writeCheckpoint c now
    | changeLease tenantId taskId new => exact guards_changeLease tenantId taskId new
  unfold body
  split
  · exact hcall
  · exact hcall.cut _ _

theorem exec_body {r : Request} {t t' : Tables} {a : Answer}
    (h : exec (body r) t = (.committed a, t')) : exec r.call.body t = (.committed a, t') := by
  unfold body at h
  split at h
  · exact h
  · exact exec_cut h

/-! ### What a call that commits has done -/

variable {t t' : Tables} {a : Answer}

theorem exec_insertOutbox {row : OutboxRow} {next : Block}
    (h : exec (insertOutbox schema outboxId row next) t = (.committed a, t')) :
    t.lookup (.outbox schema outboxId) = none ∧ t.lookup (.outboxEvent schema row.eventId) = none ∧
      exec next (put (put t (.outbox schema outboxId) (some row))
        (.outboxEvent schema row.eventId) (some ())) = (.committed a, t') := by
  simp only [insertOutbox, exec] at h
  split at h
  · cases h
  rename_i hid
  split at h
  · cases h
  rename_i hevent
  refine ⟨hid, ?_, h⟩
  rwa [lookup_put_of_ne (by simp)] at hevent

/-- The aggregate after a decision. -/
def advanced (d : TransitionDecision) : Option AggregateRow → AggregateRow
  | some row => row.advance d
  | none => ⟨d.machineId, d.nextState, d.nextStateVersion.toNat⟩

@[simp] theorem advanced_state (d : TransitionDecision) (before : Option AggregateRow) :
    (advanced d before).state = d.nextState := by
  cases before <;> rfl

@[simp] theorem advanced_stateVersion (d : TransitionDecision) (before : Option AggregateRow) :
    (advanced d before).stateVersion = d.nextStateVersion.toNat := by
  cases before <;> rfl

theorem exec_upsertAggregate {next : Bool → Block} (hfalse : ∃ e, next false = .raise e)
    (h : exec (upsertAggregate schema tenantId d next) t = (.committed a, t')) :
    (0 ≤ d.nextStateVersion ∧ Bigint d.nextStateVersion) ∧
      (∀ row : AggregateRow, t.lookup (.aggregate schema tenantId d.aggregateId) = some row →
        (row.stateVersion : ℤ) = d.previousStateVersion) ∧
      exec (next true) (put t (.aggregate schema tenantId d.aggregateId)
        (some (advanced d (t.lookup (.aggregate schema tenantId d.aggregateId))))) =
        (.committed a, t') := by
  unfold upsertAggregate at h
  split at h
  · cases h
  rename_i hrange
  split at h
  · cases h
  rename_i hpos
  refine ⟨⟨by omega, not_not.1 hrange⟩, ?_⟩
  simp only [exec] at h
  cases hrow : (t.lookup (.aggregate schema tenantId d.aggregateId) : Option AggregateRow) with
  | none =>
    rw [hrow] at h
    exact ⟨by simp, h⟩
  | some row =>
    rw [hrow] at h
    simp only [replacement] at h
    by_cases hv : (row.stateVersion : ℤ) = d.previousStateVersion
    · rw [if_pos hv] at h
      refine ⟨fun row' hr => ?_, h⟩
      cases hr
      exact hv
    · rw [if_neg hv] at h
      obtain ⟨e, he⟩ := hfalse
      simp [he, exec] at h

/-- The rows that a freshly applied decision writes, newest first. -/
def freshWrites (schema : OwnerSchema) (d : TransitionDecision)
    (key tenantId eventId outboxId : String) (before : Option AggregateRow) :
    List (Sigma fun k => Option (Row k)) :=
  [⟨.idempotency schema tenantId key, some ⟨d.requestDigest, eventId, outboxId⟩⟩,
    ⟨.outboxEvent schema eventId, some ()⟩,
    ⟨.outbox schema outboxId, some (transitionRow tenantId eventId d)⟩,
    ⟨.aggregate schema tenantId d.aggregateId, some (advanced d before)⟩]

theorem freshWrites_nodup (schema : OwnerSchema) (d : TransitionDecision)
    (key tenantId eventId outboxId : String) (before : Option AggregateRow) :
    ((freshWrites schema d key tenantId eventId outboxId before).map Sigma.fst).Nodup := by
  simp [freshWrites]

section Fresh

variable {schema : OwnerSchema} {d : TransitionDecision} {key tenantId eventId outboxId : String}
  {before : Option AggregateRow}

theorem lookup_idempotency_fresh (t : Tables) (schema' : OwnerSchema) (tenantId' key' : String) :
    (apply (freshWrites schema d key tenantId eventId outboxId before) t).lookup
        (.idempotency schema' tenantId' key') =
      if schema' = schema ∧ tenantId' = tenantId ∧ key' = key then
        some (⟨d.requestDigest, eventId, outboxId⟩ : IdempotencyRow)
      else t.lookup (.idempotency schema' tenantId' key') := by
  split
  · rename_i h
    obtain ⟨rfl, rfl, rfl⟩ := h
    exact lookup_apply_of_mem (freshWrites_nodup ..) (by simp [freshWrites]) t
  · rename_i h
    exact lookup_apply_of_notMem (by simpa [freshWrites] using h) t

theorem lookup_outbox_fresh (t : Tables) (schema' : OwnerSchema) (outboxId' : String) :
    (apply (freshWrites schema d key tenantId eventId outboxId before) t).lookup
        (.outbox schema' outboxId') =
      if schema' = schema ∧ outboxId' = outboxId then some (transitionRow tenantId eventId d)
      else t.lookup (.outbox schema' outboxId') := by
  split
  · rename_i h
    obtain ⟨rfl, rfl⟩ := h
    exact lookup_apply_of_mem (freshWrites_nodup ..) (by simp [freshWrites]) t
  · rename_i h
    exact lookup_apply_of_notMem (by simpa [freshWrites] using h) t

theorem lookup_aggregate_fresh (t : Tables) (schema' : OwnerSchema)
    (tenantId' aggregateId' : String) :
    (apply (freshWrites schema d key tenantId eventId outboxId before) t).lookup
        (.aggregate schema' tenantId' aggregateId') =
      if schema' = schema ∧ tenantId' = tenantId ∧ aggregateId' = d.aggregateId then
        some (advanced d before)
      else t.lookup (.aggregate schema' tenantId' aggregateId') := by
  split
  · rename_i h
    obtain ⟨rfl, rfl, rfl⟩ := h
    exact lookup_apply_of_mem (freshWrites_nodup ..) (by simp [freshWrites]) t
  · rename_i h
    exact lookup_apply_of_notMem (by simpa [freshWrites] using h) t

end Fresh

/-- What a call of `apply_transition` that commits has done. -/
inductive Applied (schema : OwnerSchema) (d : TransitionDecision)
    (tenantId eventId outboxId : String) (t : Tables) : AppliedTransition → Tables → Prop
  /-- The key was recorded: the call answers from the record. -/
  | replayed (key : String) (row : IdempotencyRow) (hkey : d.idempotencyKey = some key)
      (hrow : t.lookup (.idempotency schema tenantId key) = some row)
      (hdigest : row.requestDigest = d.requestDigest) :
      Applied schema d tenantId eventId outboxId t ⟨d, row.eventId, row.outboxId, true⟩ t
  /-- The decision was applied. -/
  | fresh (key : String) (hkey : d.idempotencyKey = some key)
      (hun : t.lookup (.idempotency schema tenantId key) = none)
      (hrange : 0 ≤ d.nextStateVersion ∧ Bigint d.nextStateVersion)
      (hversion : ∀ row : AggregateRow,
        t.lookup (.aggregate schema tenantId d.aggregateId) = some row →
          (row.stateVersion : ℤ) = d.previousStateVersion)
      (hid : t.lookup (.outbox schema outboxId) = none)
      (hevent : t.lookup (.outboxEvent schema eventId) = none) :
      Applied schema d tenantId eventId outboxId t ⟨d, eventId, outboxId, false⟩
        (apply (freshWrites schema d key tenantId eventId outboxId
          (t.lookup (.aggregate schema tenantId d.aggregateId))) t)

/-- **What a call of `apply_transition` that commits has done.** -/
theorem exec_applyTransition {eventId : String}
    (h : exec (applyTransition schema d tenantId eventId outboxId) t = (.committed a, t')) :
    ∃ x, a = .applied x ∧ Applied schema d tenantId eventId outboxId t x t' := by
  unfold applyTransition at h
  split at h
  · cases h
  rename_i key hkey
  simp only [exec] at h
  split at h
  · rename_i row hrow
    split at h
    · cases h
    · rename_i hdigest
      cases h
      exact ⟨_, rfl, .replayed key row hkey hrow (not_not.1 hdigest)⟩
  · rename_i hun
    unfold applyFresh at h
    obtain ⟨hrange, hversion, h⟩ := exec_upsertAggregate ⟨_, rfl⟩ h
    obtain ⟨hid, hevent, h⟩ := exec_insertOutbox h
    rw [lookup_put_of_ne (by simp)] at hid hevent
    simp only [exec] at h
    split at h
    · cases h
    · cases h
      exact ⟨_, rfl, .fresh key hkey hun hrange hversion hid hevent⟩

/-- What a call of `write_checkpoint` that commits has done. -/
structure Checkpointed (c : CheckpointCall) (now : ℤ) (t t' : Tables) : Prop where
  lease : ∃ lease : LeaseRow, t.lookup (.lease c.tenantId c.taskId) = some lease ∧
    lease.Admits c now
  ordered : ∀ stored : CheckpointRow, t.lookup (.checkpoint c.tenantId c.taskId) = some stored →
    stored.stateVersion < c.stateVersion
  unused : t.lookup (.outbox .graphOwner c.outboxId) = none
  tables : t' = apply [⟨.outboxEvent .graphOwner c.eventId, some ()⟩,
    ⟨.outbox .graphOwner c.outboxId, some c.outboxRow⟩,
    ⟨.checkpoint c.tenantId c.taskId, some c.row⟩] t

/-- **What a call of `write_checkpoint` that commits has done.** -/
theorem exec_writeCheckpoint {c : CheckpointCall} {now : ℤ}
    (h : exec (writeCheckpoint c now) t = (.committed a, t')) :
    a = .checkpointed ∧ Checkpointed c now t t' := by
  simp only [writeCheckpoint, exec] at h
  split at h
  · cases h
  rename_i lease hlease
  split at h
  · cases h
  rename_i hadmits
  split at h
  · cases h
  simp only [exec] at h
  have hordered : (∀ stored : CheckpointRow,
        t.lookup (.checkpoint c.tenantId c.taskId) = some stored →
          stored.stateVersion < c.stateVersion) ∧
      exec (insertOutbox .graphOwner c.outboxId c.outboxRow (.commit .checkpointed))
        (put t (.checkpoint c.tenantId c.taskId) (some c.row)) = (.committed a, t') := by
    cases hrow : (t.lookup (.checkpoint c.tenantId c.taskId) : Option CheckpointRow) with
    | none =>
      rw [hrow] at h
      exact ⟨by simp, h⟩
    | some stored =>
      rw [hrow] at h
      simp only [replacement] at h
      by_cases hv : stored.stateVersion < c.stateVersion
      · rw [if_pos hv] at h
        refine ⟨fun row' hr => ?_, h⟩
        cases hr
        exact hv
      · rw [if_neg hv] at h
        simp [exec] at h
  obtain ⟨hid, -, hend⟩ := exec_insertOutbox hordered.2
  rw [lookup_put_of_ne (by simp)] at hid
  cases hend
  exact ⟨rfl, ⟨lease, hlease, not_not.1 hadmits⟩, hordered.1, hid, rfl⟩

/-- What the writer of leases has done when it commits. -/
theorem exec_changeLease {taskId : String} {new : LeaseRow}
    (h : exec (changeLease tenantId taskId new) t = (.committed a, t')) :
    a = .leased ∧ t' = put t (.lease tenantId taskId) (some new) ∧
      ∀ old : LeaseRow, t.lookup (.lease tenantId taskId) = some old → old.Follows new := by
  simp only [changeLease, exec] at h
  cases hrow : (t.lookup (.lease tenantId taskId) : Option LeaseRow) with
  | none =>
    rw [hrow] at h
    cases h
    exact ⟨rfl, rfl, by simp⟩
  | some old =>
    rw [hrow] at h
    simp only [replacement] at h
    by_cases hf : old.Follows new
    · rw [if_pos hf] at h
      cases h
      refine ⟨rfl, rfl, fun old' ho => ?_⟩
      cases ho
      exact hf
    · rw [if_neg hf] at h
      simp [exec] at h

end StateStore
