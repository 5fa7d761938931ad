/-
**The reference incident store under all of its operations.**

Besides the calls with an idempotency key, `MemoryIncidentStore` is read (`get`, `replay`) and
subscribed to.  A subscriber is an object with a bounded queue; whoever holds it takes events from the
queue, before and after it is unsubscribed.  An operation yields what its caller gets back, so that a
run is an execution with observations.

Each operation is that of a tenant.  What a tenant sees of the store are its own incidents, records,
event lists and subscribers: its operations do the same on these alone, and the operations of others
leave them as they are, provided that a new incident gets an identifier that is not in use.

Main definitions:

* `MemoryOperations.Sys`, `MemoryOperations.step` — the store and its subscribers;
* `MemoryOperations.Operated` — what an operation has done;
* `MemoryOperations.Sys.view` — what a tenant sees.

Main results:

* `MemoryOperations.operated_of_step` — every operation ends in one of the ways listed;
* `MemoryOperations.noninterference` — **taking out the operations of all other tenants changes
  nothing of what a tenant observes**.
-/

import FaultWitness.MemoryStore
import FaultWitness.EventStream
import FaultWitness.Unwinding

set_option autoImplicit false

namespace MemoryOperations

open Incidents MemoryStore BoundedFeed Unwinding

/-! ### The system -/

/-- A `Subscriber`, the incident it was created for, and whether it still is in `_subscribers`. -/
structure Subscription where
  key : String × String
  mailbox : Mailbox IncidentEvent
  member : Bool := true

structure Sys where
  store : Store := {}
  subscriptions : ℕ → Option Subscription := fun _ => none

/-- An operation, with what it draws; a subscriber is known by a number. -/
inductive Op
  | call (c : Call) (d : Draw)
  | setPending (tenantId incidentId : String) (action : String × String)
  | get (tenantId incidentId : String)
  | replay (tenantId incidentId : String) (lastEventId : Option String)
  | subscribe (tenantId incidentId : String) (n : ℕ) (bufferSize : ℤ)
  | unsubscribe (tenantId incidentId : String) (n : ℕ)
  /-- The holder of a subscriber takes an event from its queue. -/
  | receive (tenantId : String) (n : ℕ)
deriving DecidableEq

/-- What the caller of an operation gets back. -/
inductive Output
  | reply (r : Except StoreError Reply)
  | snapshot (r : Except StoreError IncidentSnapshot)
  | events (r : Except StoreError (List IncidentEvent))
  | subscribed (r : Except StoreError Unit)
  | received (e : IncidentEvent)
  | done

/-- The tenant an operation belongs to. -/
def Op.tenantId : Op → String
  | .call c _ => c.slot.1
  | .setPending tenantId _ _ => tenantId
  | .get tenantId _ => tenantId
  | .replay tenantId _ _ => tenantId
  | .subscribe tenantId _ _ _ => tenantId
  | .unsubscribe tenantId _ _ => tenantId
  | .receive tenantId _ => tenantId

/-- Handing an event to a subscriber of the incident `key`. -/
def Subscription.offer (key : String × String) (e : IncidentEvent) (x : Subscription) :
    Subscription :=
  if x.member = true ∧ x.key = key then { x with mailbox := x.mailbox.put e } else x

def Sys.setSubscription (s : Sys) (n : ℕ) (x : Subscription) : Sys :=
  { s with subscriptions := Function.update s.subscriptions n (some x) }

def Sys.publish (s : Sys) (key : String × String) (e : IncidentEvent) : Sys :=
  { s with subscriptions := fun n => (s.subscriptions n).map (Subscription.offer key e) }

variable (cfg : Config) (sha256 : String → String)

/-- A call, which publishes the event it appends. -/
def stepCall (s : Sys) (c : Call) (d : Draw) : Sys × Output :=
  match perform cfg sha256 s.store c d with
  | (store, .ok (.fresh response e)) =>
    ({ s with store }.publish (c.slot.1, e.incidentId) e, .reply (.ok (.fresh response e)))
  | (store, r) => ({ s with store }, .reply r)

/-- Whoever proposes an action sets `pending_action` of an incident that the tenant has; nothing in
the repository does. -/
def stepPending (s : Sys) (tenantId incidentId : String) (action : String × String) :
    Option (Sys × Output) :=
  match owned s.store tenantId incidentId with
  | some incident =>
    let store := setIncident s.store incidentId { incident with pendingAction := some action }
    some ({ s with store }, .done)
  | none => none

def stepSubscribe (s : Sys) (tenantId incidentId : String) (n : ℕ) (bufferSize : ℤ) :
    Sys × Output :=
  match owned s.store tenantId incidentId with
  | none => (s, .subscribed (.error .incidentNotFound))
  | some _ =>
    (s.setSubscription n
      { key := (tenantId, incidentId), mailbox := { maxsize := bufferSize.toNat } },
      .subscribed (.ok ()))

def stepUnsubscribe (s : Sys) (tenantId incidentId : String) (n : ℕ) : Sys :=
  match s.subscriptions n with
  | some x =>
    if x.key = (tenantId, incidentId) then
      s.setSubscription n { x with member := false }
    else s
  | none => s

/-- An operation.  A new subscriber is a new object, and only the tenant it was created for holds
it; a queue that is empty yields nothing. -/
def step (s : Sys) : Op → Option (Sys × Output)
  | .call c d => some (stepCall cfg sha256 s c d)
  | .setPending tenantId incidentId action => stepPending s tenantId incidentId action
  | .get tenantId incidentId => some (s, .snapshot (get s.store tenantId incidentId))
  | .replay tenantId incidentId lastEventId =>
    some (s, .events (replay s.store tenantId incidentId lastEventId))
  | .subscribe tenantId incidentId n bufferSize =>
    match s.subscriptions n with
    | some _ => none
    | none => some (stepSubscribe s tenantId incidentId n bufferSize)
  | .unsubscribe tenantId incidentId n => some (stepUnsubscribe s tenantId incidentId n, .done)
  | .receive tenantId n =>
    match s.subscriptions n with
    | none => none
    | some x =>
      match x.mailbox.queue with
      | [] => none
      | e :: rest =>
        if x.key.1 = tenantId then
          some (s.setSubscription n { x with mailbox := { x.mailbox with queue := rest } },
            .received e)
        else none

/-- `uuid.uuid4` draws an identifier that is not in use. -/
def Fresh (s : Sys) : Op → Prop
  | .call (.create ..) d => s.store.incidents ("inc_" ++ d.uuid) = none
  | _ => True

/-! ### What an operation does -/

/-- The operation raises an exception. -/
def Output.raises : Output → Bool
  | .reply (.error _) => true
  | .snapshot (.error _) => true
  | .events (.error _) => true
  | .subscribed (.error _) => true
  | _ => false

/-- The operation may change an incident. -/
def Op.isWrite : Op → Bool
  | .call _ _ | .setPending _ _ _ => true
  | _ => false

def Output.isReply : Output → Bool
  | .reply _ => true
  | _ => false

/-- An incident as `create` stores it. -/
def New (incident : Incident) : Prop :=
  incident.snapshot.state = .new ∧ incident.snapshot.stateVersion = 0 ∧
    incident.pendingAction = none

/-- The ways in which an operation ends. -/
inductive Operated (s : Sys) : Op → Sys → Output → Prop
  | replayed (c : Call) (d : Draw) (prior : String × Response)
      (hprior : s.store.idempotency c.slot = some prior) (hdigest : prior.1 = c.digest sha256) :
      Operated s (.call c d) s (.reply (.ok (.replayed prior.2)))
  | refused (c : Call) (d : Draw) (err : StoreError) :
      Operated s (.call c d) s (.reply (.error err))
  /-- The retention loop emptied the list. -/
  | emptied (c : Call) (d : Draw) (store : Store) (tenantId incidentId : String) (e : IncidentEvent)
      (he : e.occurredAt = d.occurredAt)
      (hprune : prune cfg.retentionCount (d.prunedAt - cfg.retentionAge)
        (s.store.events (tenantId, incidentId) ++ [e]) = none)
      (hidem : store.idempotency = s.store.idempotency)
      (hinc : store.incidents = s.store.incidents ∨ ∃ t key request incident,
        c = .create t key request ∧ New incident ∧
          store.incidents = Function.update s.store.incidents ("inc_" ++ d.uuid) (some incident)) :
      Operated s (.call c d) { s with store } (.reply (.error .indexError))
  | fresh (c : Call) (d : Draw) (store : Store) (response : Response) (e : IncidentEvent)
      (h : Appends cfg sha256 s.store store c d response e) :
      Operated s (.call c d) ({ s with store }.publish (c.slot.1, e.incidentId) e)
        (.reply (.ok (.fresh response e)))
  | pending (tenantId incidentId : String) (action : String × String) (incident : Incident)
      (hown : owned s.store tenantId incidentId = some incident) :
      Operated s (.setPending tenantId incidentId action)
        { s with store :=
            setIncident s.store incidentId { incident with pendingAction := some action } } .done
  /-- A read, or a subscription to what is not there. -/
  | read (op : Op) (o : Output) (hop : op.isWrite = false) (ho : o.isReply = false) :
      Operated s op s o
  /-- Only the subscribers change. -/
  | queued (op : Op) (s' : Sys) (o : Output) (hop : op.isWrite = false) (ho : o.isReply = false)
      (hstore : s'.store = s.store) (hraises : o.raises = false) : Operated s op s' o

/-- A creation that raises leaves the incidents as they are, or has stored a new one. -/
theorem incidents_create_error {s store : Store} {tenantId key : String} {request : IncidentCreate}
    {d : Draw} {err : StoreError}
    (h : create cfg sha256 s tenantId key request d = (store, .error err)) :
    store.incidents = s.incidents ∨ ∃ incident, New incident ∧
      store.incidents = Function.update s.incidents ("inc_" ++ d.uuid) (some incident) := by
  simp only [create, idempotent] at h
  split at h
  · split at h
    · cases h
      exact Or.inl rfl
    · cases h
  · simp only [appendLocked] at h
    cases hp : prune cfg.retentionCount (d.prunedAt - cfg.retentionAge)
        ((setIncident s ("inc_" ++ d.uuid) _).events (tenantId, "inc_" ++ d.uuid) ++ [_]) with
    | none =>
      rw [hp] at h
      cases h
      exact Or.inr ⟨_, ⟨rfl, rfl, rfl⟩, rfl⟩
    | some kept =>
      rw [hp] at h
      cases h

/-- **What an operation does.** -/
theorem operated_of_step {s s' : Sys} {op : Op} {o : Output}
    (hs : step cfg sha256 s op = some (s', o)) : Operated cfg sha256 s op s' o := by
  cases op with
  | call c d =>
    have hperformed := performed cfg sha256 s.store d c
    simp only [step, stepCall, Option.some.injEq] at hs
    generalize hresult : perform cfg sha256 s.store c d = result at hperformed hs
    obtain ⟨store, outcome⟩ := result
    simp only at hperformed
    cases hperformed with
    | replayed prior hprior hdigest =>
      cases hs
      exact .replayed c d prior hprior hdigest
    | refused err herr =>
      cases hs
      exact .refused c d err
    | emptied _ tenantId incidentId e he hprune hidem hevents hinc =>
      cases hs
      refine .emptied c d store tenantId incidentId e he hprune hidem ?_
      rcases hinc with hsame | ⟨hcreate, -⟩
      · exact Or.inl hsame
      · cases c with
        | create t key request =>
          rcases incidents_create_error cfg sha256 hresult with hsame | ⟨incident, hnew, hinc⟩
          · exact Or.inl hsame
          · exact Or.inr ⟨t, key, request, incident, rfl, hnew, hinc⟩
        | cancel => cases hcreate
        | feedback => cases hcreate
        | approval => cases hcreate
    | fresh _ response e ha =>
      cases hs
      exact .fresh c d store response e ha
  | setPending tenantId incidentId action =>
    simp only [step, stepPending] at hs
    split at hs
    · rename_i incident hown
      cases hs
      exact .pending tenantId incidentId action incident hown
    · cases hs
  | get tenantId incidentId =>
    cases hs
    exact .read _ _ rfl rfl
  | replay tenantId incidentId lastEventId =>
    cases hs
    exact .read _ _ rfl rfl
  | subscribe tenantId incidentId n bufferSize =>
    simp only [step] at hs
    split at hs
    · cases hs
    simp only [stepSubscribe] at hs
    split at hs
    · cases hs
      exact .read _ _ rfl rfl
    · cases hs
      exact .queued _ _ _ rfl rfl rfl rfl
  | unsubscribe tenantId incidentId n =>
    cases hs
    refine .queued _ _ _ rfl rfl ?_ rfl
    simp only [stepUnsubscribe]
    split
    · split <;> rfl
    · rfl
  | receive tenantId n =>
    simp only [step] at hs
    split at hs
    · cases hs
    split at hs
    · cases hs
    split at hs
    · cases hs
      exact .queued _ _ _ rfl rfl rfl rfl
    · cases hs

/-! ### What a tenant sees -/

/-- The incidents, records and event lists of a tenant. -/
def storeView (tenantId : String) (s : Store) : Store where
  incidents := owned s tenantId
  idempotency slot := if slot.1 = tenantId then s.idempotency slot else none
  events key := if key.1 = tenantId then s.events key else []

def Sys.view (tenantId : String) (s : Sys) : Sys where
  store := storeView tenantId s.store
  subscriptions n := (s.subscriptions n).filter fun x => x.key.1 = tenantId

variable {cfg sha256} {s : Store} {tenantId : String}

variable {incidentId : String} {incident : Incident} {c : Call} {response : Response}

@[simp] theorem owned_storeView (incidentId : String) :
    owned (storeView tenantId s) tenantId incidentId = owned s tenantId incidentId := by
  unfold storeView owned
  cases h : s.incidents incidentId with
  | none => simp [h]
  | some incident =>
    by_cases ht : incident.tenantId = tenantId
    · simp [ht, h]
    · simp [ht, h]

@[simp] theorem idempotency_storeView {slot : String × Operation × String} (h : slot.1 = tenantId) :
    (storeView tenantId s).idempotency slot = s.idempotency slot :=
  if_pos h

@[simp] theorem events_storeView (incidentId : String) :
    (storeView tenantId s).events (tenantId, incidentId) = s.events (tenantId, incidentId) :=
  if_pos rfl

theorem storeView_setIncident (h : incident.tenantId = tenantId) :
    storeView tenantId (setIncident s incidentId incident) =
      setIncident (storeView tenantId s) incidentId incident := by
  unfold storeView setIncident
  congr 1
  funext id
  by_cases hid : id = incidentId
  · subst hid
    simp [owned, h]
  · simp [owned, Function.update_of_ne hid]

theorem storeView_setIncident_of_ne (h : incident.tenantId ≠ tenantId)
    (hnone : owned s tenantId incidentId = none) :
    storeView tenantId (setIncident s incidentId incident) = storeView tenantId s := by
  unfold storeView setIncident
  congr 1
  funext id
  by_cases hid : id = incidentId
  · subst hid
    rw [hnone]
    simp [owned, h]
  · simp [owned, Function.update_of_ne hid]

theorem storeView_record (h : c.slot.1 = tenantId) :
    storeView tenantId (record sha256 s c response) =
      record sha256 (storeView tenantId s) c response := by
  unfold storeView record
  congr 1
  funext slot
  by_cases hslot : slot = c.slot
  · subst hslot
    simp [h]
  · simp [Function.update_of_ne hslot]

theorem storeView_record_setIncident (hc : c.slot.1 = tenantId) (h : incident.tenantId = tenantId) :
    storeView tenantId (record sha256 (setIncident s incidentId incident) c response) =
      record sha256 (setIncident (storeView tenantId s) incidentId incident) c response := by
  rw [storeView_record hc, storeView_setIncident h]

theorem storeView_record_of_ne (h : c.slot.1 ≠ tenantId) :
    storeView tenantId (record sha256 s c response) = storeView tenantId s := by
  unfold storeView record
  congr 1
  funext slot
  by_cases hslot : slot = c.slot
  · subst hslot
    simp [h]
  · simp [Function.update_of_ne hslot]

theorem storeView_record_setIncident_of_ne (hc : c.slot.1 ≠ tenantId)
    (h : incident.tenantId ≠ tenantId) (hnone : owned s tenantId incidentId = none) :
    storeView tenantId (record sha256 (setIncident s incidentId incident) c response) =
      storeView tenantId s := by
  rw [storeView_record_of_ne hc, storeView_setIncident_of_ne h hnone]

/-- The store with another list of events for an incident. -/
def setEvents (s : Store) (key : String × String) (events : List IncidentEvent) : Store :=
  { s with events := Function.update s.events key events }

variable {events : List IncidentEvent}

theorem storeView_setEvents :
    storeView tenantId (setEvents s (tenantId, incidentId) events) =
      setEvents (storeView tenantId s) (tenantId, incidentId) events := by
  unfold storeView setEvents
  congr 1
  funext key
  by_cases hkey : key = (tenantId, incidentId)
  · subst hkey
    simp
  · simp [Function.update_of_ne hkey]

theorem storeView_setEvents_of_ne {key : String × String} (h : key.1 ≠ tenantId) :
    storeView tenantId (setEvents s key events) = storeView tenantId s := by
  unfold storeView setEvents
  congr 1
  funext key'
  by_cases hkey : key' = key
  · subst hkey
    simp [h]
  · simp [Function.update_of_ne hkey]

/-! ### Calls on the part of a tenant -/

variable {d : Draw} {fresh : Store × Except StoreError Reply}

theorem appendLocked_storeView (cfg : Config) (s : Store) (tenantId incidentId : String)
    (eventType : EventType) (payload : List (String × Python.Json)) (d : Draw) :
    appendLocked cfg (storeView tenantId s) tenantId incidentId eventType payload d =
      (storeView tenantId (appendLocked cfg s tenantId incidentId eventType payload d).1,
        (appendLocked cfg s tenantId incidentId eventType payload d).2) := by
  simp only [appendLocked, events_storeView]
  split
  · exact Prod.ext storeView_setEvents.symm rfl
  · exact Prod.ext storeView_setEvents.symm rfl

theorem storeView_appendLocked_of_ne (cfg : Config) (s : Store) {tenantId other : String}
    (incidentId : String) (eventType : EventType) (payload : List (String × Python.Json)) (d : Draw)
    (h : other ≠ tenantId) :
    storeView tenantId (appendLocked cfg s other incidentId eventType payload d).1 =
      storeView tenantId s := by
  simp only [appendLocked]
  split
  · exact storeView_setEvents_of_ne h
  · exact storeView_setEvents_of_ne h

theorem idempotent_storeView {fresh' : Store × Except StoreError Reply} (hc : c.slot.1 = tenantId)
    (hfresh : fresh' = (storeView tenantId fresh.1, fresh.2)) :
    idempotent sha256 (storeView tenantId s) c fresh' =
      (storeView tenantId (idempotent sha256 s c fresh).1, (idempotent sha256 s c fresh).2) := by
  simp only [idempotent, idempotency_storeView hc]
  cases s.idempotency c.slot with
  | none => exact hfresh
  | some prior =>
    simp only
    split <;> rfl

theorem storeView_idempotent_of_eq (hfresh : storeView tenantId fresh.1 = storeView tenantId s) :
    storeView tenantId (idempotent sha256 s c fresh).1 = storeView tenantId s := by
  simp only [idempotent]
  cases s.idempotency c.slot with
  | none => exact hfresh
  | some prior =>
    simp only
    split <;> rfl

theorem create_storeView (cfg : Config) (sha256 : String → String) (s : Store)
    (tenantId key : String) (request : IncidentCreate) (d : Draw) :
    create cfg sha256 (storeView tenantId s) tenantId key request d =
      (storeView tenantId (create cfg sha256 s tenantId key request d).1,
        (create cfg sha256 s tenantId key request d).2) := by
  have hset (snapshot : IncidentSnapshot) (s : Store) :
      setIncident (storeView tenantId s) ("inc_" ++ d.uuid)
          { tenantId := tenantId, snapshot := snapshot, spec := request } =
        storeView tenantId (setIncident s ("inc_" ++ d.uuid)
          { tenantId := tenantId, snapshot := snapshot, spec := request }) :=
    (storeView_setIncident rfl).symm
  refine idempotent_storeView rfl ?_
  dsimp only
  rw [hset, appendLocked_storeView]
  generalize appendLocked cfg (setIncident s _ _) tenantId _ _ _ d = result
  obtain ⟨s', outcome⟩ := result
  cases outcome with
  | error err => rfl
  | ok e =>
    refine Prod.ext ?_ rfl
    exact (storeView_record_setIncident (by rfl) (by rfl)).symm

theorem cancel_storeView (cfg : Config) (sha256 : String → String) (s : Store)
    (tenantId incidentId key : String) (version : ℕ) (d : Draw) :
    cancel cfg sha256 (storeView tenantId s) tenantId incidentId key version d =
      (storeView tenantId (cancel cfg sha256 s tenantId incidentId key version d).1,
        (cancel cfg sha256 s tenantId incidentId key version d).2) := by
  refine idempotent_storeView rfl ?_
  rw [owned_storeView]
  cases hown : owned s tenantId incidentId with
  | none => rfl
  | some incident =>
    have htenant := (owned_eq_some.1 hown).2
    simp only
    split
    · rfl
    split
    · rfl
    rw [appendLocked_storeView]
    generalize appendLocked cfg s tenantId incidentId _ _ d = result
    obtain ⟨s', outcome⟩ := result
    cases outcome with
    | error err => rfl
    | ok e =>
      refine Prod.ext ?_ rfl
      exact (storeView_record_setIncident (by rfl) (by exact htenant)).symm

theorem feedback_storeView (cfg : Config) (sha256 : String → String) (s : Store)
    (tenantId userId incidentId key : String) (request : FeedbackRequest) (d : Draw) :
    feedback cfg sha256 (storeView tenantId s) tenantId userId incidentId key request d =
      (storeView tenantId (feedback cfg sha256 s tenantId userId incidentId key request d).1,
        (feedback cfg sha256 s tenantId userId incidentId key request d).2) := by
  refine idempotent_storeView rfl ?_
  rw [owned_storeView]
  cases owned s tenantId incidentId with
  | none => rfl
  | some incident =>
    simp only
    split
    · rfl
    rw [appendLocked_storeView]
    generalize appendLocked cfg s tenantId incidentId _ _ d = result
    obtain ⟨s', outcome⟩ := result
    cases outcome with
    | error err => rfl
    | ok e =>
      refine Prod.ext ?_ rfl
      exact (storeView_record (by rfl)).symm

theorem approval_storeView (cfg : Config) (sha256 : String → String) (s : Store)
    (tenantId incidentId key : String) (request : ApprovalRequest) (d : Draw) :
    approval cfg sha256 (storeView tenantId s) tenantId incidentId key request d =
      (storeView tenantId (approval cfg sha256 s tenantId incidentId key request d).1,
        (approval cfg sha256 s tenantId incidentId key request d).2) := by
  refine idempotent_storeView rfl ?_
  rw [owned_storeView]
  cases hown : owned s tenantId incidentId with
  | none => rfl
  | some incident =>
    have htenant := (owned_eq_some.1 hown).2
    simp only
    split
    · rfl
    split
    · rfl
    rw [appendLocked_storeView]
    generalize appendLocked cfg s tenantId incidentId _ _ d = result
    obtain ⟨s', outcome⟩ := result
    cases outcome with
    | error err => rfl
    | ok e =>
      refine Prod.ext ?_ rfl
      exact (storeView_record_setIncident (by rfl) (by exact htenant)).symm

/-- **A call of the tenant does the same on what the tenant sees.** -/
theorem perform_storeView (cfg : Config) (sha256 : String → String) (s : Store) (c : Call)
    (d : Draw) : perform cfg sha256 (storeView c.slot.1 s) c d =
      (storeView c.slot.1 (perform cfg sha256 s c d).1, (perform cfg sha256 s c d).2) := by
  cases c with
  | create tenantId key request => exact create_storeView ..
  | cancel tenantId incidentId key version => exact cancel_storeView ..
  | feedback tenantId userId incidentId key request => exact feedback_storeView ..
  | approval tenantId incidentId key request => exact approval_storeView ..

theorem owned_of_ne {other : String} (hown : owned s other incidentId = some incident)
    (h : other ≠ tenantId) : owned s tenantId incidentId = none := by
  obtain ⟨hinc, rfl⟩ := owned_eq_some.1 hown
  simp [owned, hinc, h]

@[simp] theorem owned_appendLocked (cfg : Config) (s : Store) (other incidentId : String)
    (eventType : EventType) (payload : List (String × Python.Json)) (d : Draw)
    (tenantId id : String) :
    owned (appendLocked cfg s other incidentId eventType payload d).1 tenantId id =
      owned s tenantId id := by
  simp only [appendLocked]
  split <;> rfl

/-- **A call of another tenant leaves what the tenant sees**, if a new incident gets an identifier
that is not in use. -/
theorem storeView_perform_of_ne (cfg : Config) (sha256 : String → String)
    (h : c.slot.1 ≠ tenantId) (hfresh : ∀ t key request, c = .create t key request →
      s.incidents ("inc_" ++ d.uuid) = none) :
    storeView tenantId (perform cfg sha256 s c d).1 = storeView tenantId s := by
  cases c with
  | create other key request =>
    replace h : other ≠ tenantId := h
    have hnone : owned s tenantId ("inc_" ++ d.uuid) = none := by
      simp [owned, hfresh other key request rfl]
    refine storeView_idempotent_of_eq ?_
    dsimp only
    generalize hs₁ : setIncident s _ _ = s₁
    have hview₁ : storeView tenantId s₁ = storeView tenantId s := by
      rw [← hs₁]
      exact storeView_setIncident_of_ne h hnone
    have hnone₁ : owned s₁ tenantId ("inc_" ++ d.uuid) = none := by
      rw [← hs₁]
      simp [owned, setIncident, h]
    have hview := storeView_appendLocked_of_ne cfg s₁ ("inc_" ++ d.uuid) .created createdPayload d h
    have hown := owned_appendLocked cfg s₁ other ("inc_" ++ d.uuid) .created createdPayload d tenantId
      ("inc_" ++ d.uuid)
    generalize appendLocked cfg s₁ other _ _ _ d = result at hview hown ⊢
    obtain ⟨s₂, outcome⟩ := result
    cases outcome with
    | error err => exact hview.trans hview₁
    | ok e =>
      refine (storeView_record_setIncident_of_ne (by exact h) (by exact h) ?_).trans
        (hview.trans hview₁)
      exact hown.trans hnone₁
  | cancel other incidentId key version =>
    replace h : other ≠ tenantId := h
    refine storeView_idempotent_of_eq ?_
    cases hother : owned s other incidentId with
    | none => rfl
    | some incident =>
      simp only
      split
      · rfl
      split
      · rfl
      have hview := storeView_appendLocked_of_ne cfg s incidentId .cancelRequested [] d h
      have hown := owned_appendLocked cfg s other incidentId .cancelRequested [] d tenantId
        incidentId
      generalize appendLocked cfg s _ incidentId _ _ d = result at hview hown ⊢
      obtain ⟨s', outcome⟩ := result
      cases outcome with
      | error err => exact hview
      | ok e =>
        have hne : incident.tenantId ≠ tenantId := (owned_eq_some.1 hother).2 ▸ h
        refine (storeView_record_setIncident_of_ne (by exact h) (by exact hne) ?_).trans hview
        exact hown.trans (owned_of_ne hother h)
  | feedback other userId incidentId key request =>
    replace h : other ≠ tenantId := h
    refine storeView_idempotent_of_eq ?_
    cases hother : owned s other incidentId with
    | none => rfl
    | some incident =>
      simp only
      split
      · rfl
      have hview := storeView_appendLocked_of_ne cfg s incidentId .feedbackRecorded
        (feedbackPayload ⟨"feedback_" ++ d.uuid, d.acceptedAt⟩ request userId) d h
      generalize appendLocked cfg s _ incidentId _ _ d = result at hview ⊢
      obtain ⟨s', outcome⟩ := result
      cases outcome with
      | error err => exact hview
      | ok e => exact (storeView_record_of_ne (by exact h)).trans hview
  | approval other incidentId key request =>
    replace h : other ≠ tenantId := h
    refine storeView_idempotent_of_eq ?_
    cases hother : owned s other incidentId with
    | none => rfl
    | some incident =>
      simp only
      split
      · rfl
      split
      · rfl
      have hview := storeView_appendLocked_of_ne cfg s incidentId .approvalDecided
        (approvalPayload request) d h
      have hown := owned_appendLocked cfg s other incidentId .approvalDecided
        (approvalPayload request) d tenantId incidentId
      generalize appendLocked cfg s _ incidentId _ _ d = result at hview hown ⊢
      obtain ⟨s', outcome⟩ := result
      cases outcome with
      | error err => exact hview
      | ok e =>
        have hne : incident.tenantId ≠ tenantId := (owned_eq_some.1 hother).2 ▸ h
        refine (storeView_record_setIncident_of_ne (by exact h) (by exact hne) ?_).trans hview
        exact hown.trans (owned_of_ne hother h)

/-! ### Operations on the part of a tenant -/

section View

variable {s : Sys} {x : Subscription}

theorem Subscription.offer_key (key : String × String) (e : IncidentEvent) (x : Subscription) :
    (x.offer key e).key = x.key := by
  unfold Subscription.offer
  split <;> rfl

theorem Sys.view_publish (s : Sys) (tenantId : String) (key : String × String) (e : IncidentEvent) :
    (s.publish key e).view tenantId = (s.view tenantId).publish key e := by
  simp only [Sys.view, Sys.publish, Sys.mk.injEq, true_and]
  funext n
  cases s.subscriptions n with
  | none => rfl
  | some x =>
    by_cases hx : x.key.1 = tenantId
    · simp [Option.filter_some, hx, Subscription.offer_key]
    · simp [Option.filter_some, hx, Subscription.offer_key]

theorem Sys.view_publish_of_ne {key : String × String} (h : key.1 ≠ tenantId) (e : IncidentEvent) :
    (s.publish key e).view tenantId = s.view tenantId := by
  rw [Sys.view_publish]
  simp only [Sys.view, Sys.publish, Sys.mk.injEq, true_and]
  funext n
  cases s.subscriptions n with
  | none => rfl
  | some x =>
    by_cases hx : x.key.1 = tenantId
    · have hkey : x.key ≠ key := fun heq => h (heq ▸ hx)
      simp [Option.filter_some, hx, Subscription.offer, hkey]
    · simp [Option.filter_some, hx]

theorem Sys.view_setSubscription {n : ℕ} (h : x.key.1 = tenantId) :
    (s.setSubscription n x).view tenantId = (s.view tenantId).setSubscription n x := by
  simp only [Sys.view, Sys.setSubscription, Sys.mk.injEq, true_and]
  funext m
  by_cases hm : m = n
  · subst hm
    simp [Option.filter_some, h]
  · simp [Function.update_of_ne hm]

theorem Sys.view_setSubscription_of_ne {n : ℕ} (h : x.key.1 ≠ tenantId)
    (hold : ∀ y, s.subscriptions n = some y → y.key.1 ≠ tenantId) :
    (s.setSubscription n x).view tenantId = s.view tenantId := by
  simp only [Sys.view, Sys.setSubscription, Sys.mk.injEq, true_and]
  funext m
  by_cases hm : m = n
  · subst hm
    cases hs : s.subscriptions m with
    | none => simp [Option.filter_some, h]
    | some y => simp [Option.filter_some, h, hold y hs]
  · simp [Function.update_of_ne hm]

theorem subscriptions_view {n : ℕ} (hx : x.key.1 = tenantId) :
    (s.view tenantId).subscriptions n = some x ↔ s.subscriptions n = some x := by
  simp [Sys.view, Option.filter_eq_some_iff, hx]

theorem stepCall_view (cfg : Config) (sha256 : String → String) (s : Sys) (c : Call) (d : Draw) :
    stepCall cfg sha256 (s.view c.slot.1) c d =
      ((stepCall cfg sha256 s c d).1.view c.slot.1, (stepCall cfg sha256 s c d).2) := by
  have hperform := perform_storeView cfg sha256 s.store c d
  simp only [stepCall]
  rw [show (s.view c.slot.1).store = storeView c.slot.1 s.store from rfl, hperform]
  generalize perform cfg sha256 s.store c d = result
  obtain ⟨store, outcome⟩ := result
  cases outcome with
  | error err => rfl
  | ok reply =>
    cases reply with
    | replayed response => rfl
    | fresh response e =>
      refine Prod.ext ?_ rfl
      dsimp only
      rw [Sys.view_publish]
      rfl

theorem stepPending_view (s : Sys) (tenantId incidentId : String) (action : String × String) :
    stepPending (s.view tenantId) tenantId incidentId action =
      (stepPending s tenantId incidentId action).map fun p => (p.1.view tenantId, p.2) := by
  have howned : owned (s.view tenantId).store tenantId incidentId =
      owned s.store tenantId incidentId := owned_storeView incidentId
  simp only [stepPending, howned]
  cases hown : owned s.store tenantId incidentId with
  | none => rfl
  | some incident =>
    have htenant := (owned_eq_some.1 hown).2
    simp only [Sys.view, Option.map_some]
    rw [storeView_setIncident (by exact htenant)]

theorem stepSubscribe_view (s : Sys) (tenantId incidentId : String) (n : ℕ) (bufferSize : ℤ) :
    stepSubscribe (s.view tenantId) tenantId incidentId n bufferSize =
      ((stepSubscribe s tenantId incidentId n bufferSize).1.view tenantId,
        (stepSubscribe s tenantId incidentId n bufferSize).2) := by
  have howned : owned (s.view tenantId).store tenantId incidentId =
      owned s.store tenantId incidentId := owned_storeView incidentId
  simp only [stepSubscribe, howned]
  cases owned s.store tenantId incidentId with
  | none => rfl
  | some incident => exact Prod.ext (Sys.view_setSubscription (by rfl)).symm rfl

theorem stepUnsubscribe_view (s : Sys) (tenantId incidentId : String) (n : ℕ) :
    stepUnsubscribe (s.view tenantId) tenantId incidentId n =
      (stepUnsubscribe s tenantId incidentId n).view tenantId := by
  simp only [stepUnsubscribe]
  cases hsub : s.subscriptions n with
  | none => simp [Sys.view, hsub]
  | some x =>
    by_cases hkey : x.key = (tenantId, incidentId)
    · have hx : x.key.1 = tenantId := by rw [hkey]
      rw [(subscriptions_view hx).2 hsub]
      simp only [if_pos hkey]
      exact (Sys.view_setSubscription (by exact hx)).symm
    · by_cases hx : x.key.1 = tenantId
      · rw [(subscriptions_view hx).2 hsub]
        simp only [if_neg hkey]
      · simp [Sys.view, hsub, Option.filter_some, hx, hkey]

/-- **An operation of the tenant does the same on what the tenant sees.** -/
theorem step_view {op : Op} {s' : Sys} {o : Output}
    (hs : step cfg sha256 s op = some (s', o)) :
    step cfg sha256 (s.view op.tenantId) op = some (s'.view op.tenantId, o) := by
  cases op with
  | call c d =>
    simp only [step, Option.some.injEq, Op.tenantId, stepCall_view] at hs ⊢
    rw [hs]
  | setPending tenantId incidentId action =>
    simp only [step, Op.tenantId, stepPending_view] at hs ⊢
    rw [hs]
    rfl
  | get tenantId incidentId =>
    cases hs
    simp only [step, Op.tenantId, Sys.view, MemoryStore.get, owned_storeView]
  | replay tenantId incidentId lastEventId =>
    cases hs
    simp only [step, Op.tenantId, Sys.view, MemoryStore.replay, owned_storeView, events_storeView]
  | subscribe tenantId incidentId n bufferSize =>
    simp only [step] at hs
    split at hs
    · cases hs
    · rename_i hsub
      simp only [Option.some.injEq] at hs
      have hnone : (s.view tenantId).subscriptions n = none := by simp [Sys.view, hsub]
      simp only [step, Op.tenantId, hnone, stepSubscribe_view, hs]
  | unsubscribe tenantId incidentId n =>
    cases hs
    simp only [step, Op.tenantId, stepUnsubscribe_view]
  | receive tenantId n =>
    simp only [step] at hs
    split at hs
    · cases hs
    rename_i x hsub
    split at hs
    · cases hs
    rename_i e rest hqueue
    split at hs
    case isFalse => cases hs
    rename_i hx
    cases hs
    simp only [step, Op.tenantId, (subscriptions_view hx).2 hsub, hqueue, if_pos hx]
    rw [Sys.view_setSubscription (by exact hx)]

/-- **An operation of another tenant leaves what the tenant sees.** -/
theorem view_step_of_ne {op : Op} {s' : Sys} {o : Output} (hop : op.tenantId ≠ tenantId)
    (hfresh : Fresh s op) (hs : step cfg sha256 s op = some (s', o)) :
    s'.view tenantId = s.view tenantId := by
  cases op with
  | call c d =>
    have hc : c.slot.1 ≠ tenantId := hop
    have hnew : ∀ t key request, c = .create t key request →
        s.store.incidents ("inc_" ++ d.uuid) = none := by
      rintro t key request rfl
      exact hfresh
    have hview := storeView_perform_of_ne cfg sha256 hc hnew
    simp only [step, stepCall, Option.some.injEq] at hs
    generalize perform cfg sha256 s.store c d = result at hview hs
    obtain ⟨store, outcome⟩ := result
    have hsame : ({ s with store } : Sys).view tenantId = s.view tenantId := by
      simp only [Sys.view, hview]
    cases outcome with
    | error err =>
      cases hs
      exact hsame
    | ok reply =>
      cases reply with
      | replayed response =>
        cases hs
        exact hsame
      | fresh response e =>
        cases hs
        exact (Sys.view_publish_of_ne hc e).trans hsame
  | setPending other incidentId action =>
    simp only [step, stepPending] at hs
    split at hs
    · rename_i incident hown
      cases hs
      have hne : incident.tenantId ≠ tenantId := (owned_eq_some.1 hown).2 ▸ hop
      simp only [Sys.view]
      rw [storeView_setIncident_of_ne (by exact hne) (owned_of_ne hown hop)]
    · cases hs
  | get other incidentId =>
    cases hs
    rfl
  | replay other incidentId lastEventId =>
    cases hs
    rfl
  | subscribe other incidentId n bufferSize =>
    simp only [step] at hs
    split at hs
    · cases hs
    · rename_i hsub
      simp only [stepSubscribe] at hs
      split at hs
      · cases hs
        rfl
      · cases hs
        refine Sys.view_setSubscription_of_ne hop fun y hy => ?_
        rw [hsub] at hy
        cases hy
  | unsubscribe other incidentId n =>
    cases hs
    simp only [stepUnsubscribe]
    split
    · rename_i x hsub
      split
      · rename_i hkey
        have hx : x.key.1 ≠ tenantId := by
          rw [hkey]
          exact hop
        refine Sys.view_setSubscription_of_ne hx fun y hy => ?_
        rw [hsub] at hy
        cases hy
        exact hx
      · rfl
    · rfl
  | receive other n =>
    simp only [step] at hs
    split at hs
    · cases hs
    rename_i x hsub
    split at hs
    · cases hs
    rename_i e rest hqueue
    split at hs
    case isFalse => cases hs
    rename_i hkey
    cases hs
    have hx : x.key.1 ≠ tenantId := hkey ▸ hop
    refine Sys.view_setSubscription_of_ne hx fun y hy => ?_
    rw [hsub] at hy
    cases hy
    exact hx

end View

theorem Fresh.view {s : Sys} {op : Op} (h : Fresh s op) (tenantId : String) :
    Fresh (s.view tenantId) op := by
  unfold Fresh at h ⊢
  split
  · simp only at h
    simp [Sys.view, storeView, owned, h]
  · trivial

theorem view_empty (tenantId : String) : Sys.view tenantId {} = {} := by
  simp [Sys.view, storeView, owned, funext_iff]

/-- **Noninterference between tenants.**  From any run, the operations of all tenants but one can be
taken out: the rest is a run in which the tenant gets back the same from each of its operations, and
in which the subscribers it holds have the same events in their queues. -/
theorem noninterference (cfg : Config) (sha256 : String → String) {trace : List (Op × Output)}
    {s : Sys} (h : Executes (step cfg sha256) Fresh {} trace s) (tenantId : String) :
    ∃ s', Executes (step cfg sha256) Fresh {}
        (trace.filter fun p => p.1.tenantId = tenantId) s' ∧
      (∀ n x, x.key.1 = tenantId → (s'.subscriptions n = some x ↔ s.subscriptions n = some x)) ∧
      ∀ incidentId, s'.store.events (tenantId, incidentId) =
        s.store.events (tenantId, incidentId) := by
  have hview := h.filter (D := Fresh) (fun op => op.tenantId = tenantId) (Sys.view tenantId) ?_ ?_
  · rw [view_empty] at hview
    exact ⟨_, hview, fun n x hx => subscriptions_view hx, fun incidentId => events_storeView _⟩
  · intro s op s' o hown hfresh hs
    obtain rfl := of_decide_eq_true hown
    exact ⟨hfresh.view _, step_view hs⟩
  · intro s op s' o hother hfresh hs
    exact view_step_of_ne (of_decide_eq_false hother) hfresh hs

instance (s : Sys) (op : Op) : Decidable (Fresh s op) :=
  match op with
  | .call (.create ..) d => inferInstanceAs (Decidable (s.store.incidents ("inc_" ++ d.uuid) = none))
  | .call (.cancel ..) _ | .call (.feedback ..) _ | .call (.approval ..) _ => isTrue trivial
  | .setPending .. | .get .. | .replay .. | .subscribe .. | .unsubscribe .. | .receive .. =>
    isTrue trivial

/-- Two tenants use one key, and one of them guesses the incident of the other. -/
theorem noninterference_guessed : ∃ trace : List (Op × Output),
    trace.length = 5 ∧ (trace.filter fun p => p.1.tenantId = "tenant-a").length = 3 ∧
      ∃ s', Executes (step {} sampleSha256) Fresh {}
        (trace.filter fun p => p.1.tenantId = "tenant-a") s' := by
  obtain ⟨trace, s, h, htrace⟩ := exists_executes_of_test (step {} sampleSha256)
    (c := fun s op => decide (Fresh s op))
    (p := fun trace _ => decide (trace.length = 5 ∧
      (trace.filter fun p => p.1.tenantId = "tenant-a").length = 3))
    (a := {}) (fun s op => of_decide_eq_true)
    ([.call (.create "tenant-b" "key-1" sampleCreate) { uuid := "8" },
      .call (.create "tenant-a" "key-1" sampleCreate) { uuid := "7" },
      .subscribe "tenant-a" "inc_7" 0 100,
      .call (.cancel "tenant-b" "inc_7" "key-2" 0) {}, .get "tenant-a" "inc_8"])
    (by decide +kernel)
  obtain ⟨hall, hown⟩ := of_decide_eq_true htrace
  obtain ⟨s', hs', -⟩ := noninterference {} sampleSha256 h "tenant-a"
  exact ⟨trace, hall, hown, s', hs'⟩

end MemoryOperations
