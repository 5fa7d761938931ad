/-
**The reference incident store.**

`MemoryIncidentStore` of `faultwitness/api/store.py`.  Every method runs under one lock and awaits
nothing while it holds it, so a call is one step from store to store; a call that raises may still
have changed something on the way, which is why each returns the store beside its result.

`_append_locked` reads the clock twice, once for the event and once for the retention cutoff, and
then drops events from the front while there are too many or the first is too old.  When even the
event just appended is too old by the second reading, the loop empties the list and the subscript
`events[0]` raises `IndexError` — after the list was emptied, before the event was published.

Main definitions:

* `MemoryStore.appendLocked`, `MemoryStore.prune` — appending with retention;
* `MemoryStore.create`, `MemoryStore.cancel`, `MemoryStore.feedback`, `MemoryStore.approval` — the
  calls with an idempotency key, together `MemoryStore.perform`;
* `MemoryStore.get`, `MemoryStore.replay` — the reads.

Main results:

* `MemoryStore.performed` — **what a call did**: it answered from the record, it was refused
  and changed nothing, it ran into the empty list, or it appended exactly one event.
-/

import FaultWitness.Runs
import FaultWitness.Incidents

set_option autoImplicit false

namespace MemoryStore

open Incidents Python

/-! ### The store -/

/-- The parameters of the store; the age is counted in microseconds. -/
structure Config where
  retentionCount : ℕ := 100000
  retentionAge : ℤ := 7 * 24 * 3600 * 1000000

/-- An incident with the action that waits for approval, if any. -/
structure Incident where
  tenantId : String
  snapshot : IncidentSnapshot
  spec : IncidentCreate
  pendingAction : Option (String × String) := none
deriving DecidableEq

structure Store where
  incidents : String → Option Incident := fun _ => none
  idempotency : String × Operation × String → Option (String × Response) := fun _ => none
  events : String × String → List IncidentEvent := fun _ => []

/-- The incident, when it belongs to the tenant: `_owned`. -/
def owned (s : Store) (tenantId incidentId : String) : Option Incident :=
  match s.incidents incidentId with
  | some incident => if incident.tenantId = tenantId then some incident else none
  | none => none

/-! ### Appending -/

/-- The retention loop; `none` is the `IndexError` of an emptied list. -/
def prune (count : ℕ) (cutoff : ℤ) : List IncidentEvent → Option (List IncidentEvent)
  | [] => none
  | e :: es =>
    if count < (e :: es).length ∨ e.occurredAt < cutoff then prune count cutoff es
    else some (e :: es)

theorem prune_suffix {count : ℕ} {cutoff : ℤ} {es kept : List IncidentEvent}
    (h : prune count cutoff es = some kept) : kept <:+ es ∧ kept ≠ [] := by
  induction es with
  | nil => simp [prune] at h
  | cons e es ih =>
    simp only [prune] at h
    split at h
    · obtain ⟨hs, hne⟩ := ih h
      exact ⟨hs.trans (List.suffix_cons e es), hne⟩
    · cases h
      exact ⟨List.suffix_refl _, by simp⟩

/-- The sequence of the next event. -/
def nextSequence (events : List IncidentEvent) : ℕ :=
  match events.getLast? with
  | some e => e.sequence + 1
  | none => 1

def appendLocked (cfg : Config) (s : Store) (tenantId incidentId : String) (eventType : EventType)
    (payload : List (String × Json)) (d : Draw) : Store × Except StoreError IncidentEvent :=
  let events := s.events (tenantId, incidentId)
  let e := event incidentId (nextSequence events) eventType payload d
  match prune cfg.retentionCount (d.prunedAt - cfg.retentionAge) (events ++ [e]) with
  | some kept => ({ s with events := Function.update s.events (tenantId, incidentId) kept }, .ok e)
  | none =>
    ({ s with events := Function.update s.events (tenantId, incidentId) [] }, .error .indexError)

/-! ### The calls -/

variable (cfg : Config) (sha256 : String → String)

/-- Answering from the record of an earlier call, or going on when there is none. -/
def idempotent (s : Store) (c : Call) (fresh : Store × Except StoreError Reply) :
    Store × Except StoreError Reply :=
  match s.idempotency c.slot with
  | some prior =>
    if prior.1 ≠ c.digest sha256 then (s, .error .idempotencyConflict)
    else (s, .ok (.replayed prior.2))
  | none => fresh

/-- Recording the call, the last thing it does. -/
def record (s : Store) (c : Call) (response : Response) : Store :=
  { s with idempotency :=
      Function.update s.idempotency c.slot (some (c.digest sha256, response)) }

/-- Replacing an incident. -/
def setIncident (s : Store) (incidentId : String) (incident : Incident) : Store :=
  { s with incidents := Function.update s.incidents incidentId (some incident) }

def create (s : Store) (tenantId key : String) (request : IncidentCreate) (d : Draw) :
    Store × Except StoreError Reply :=
  let call := Call.create tenantId key request
  idempotent sha256 s call <|
    let incidentId := "inc_" ++ d.uuid
    let snapshot : IncidentSnapshot :=
      { incidentId := incidentId, state := .new, stateVersion := 0, eventCursor := "0"
        finalReportRef := none }
    let s := setIncident s incidentId { tenantId := tenantId, snapshot := snapshot, spec := request }
    match appendLocked cfg s tenantId incidentId .created createdPayload d with
    | (s, .error err) => (s, .error err)
    | (s, .ok e) =>
      let snapshot := { snapshot with eventCursor := str e.sequence }
      let s := setIncident s incidentId
        { tenantId := tenantId, snapshot := snapshot, spec := request }
      (record sha256 s call (.snapshot snapshot), .ok (.fresh (.snapshot snapshot) e))

def cancel (s : Store) (tenantId incidentId key : String) (expectedVersion : ℕ) (d : Draw) :
    Store × Except StoreError Reply :=
  let call := Call.cancel tenantId incidentId key expectedVersion
  idempotent sha256 s call <|
    match owned s tenantId incidentId with
    | none => (s, .error .incidentNotFound)
    | some incident =>
      if incident.snapshot.stateVersion ≠ expectedVersion then (s, .error .stateConflict)
      else if incident.snapshot.state.terminal then (s, .error .stateConflict)
      else
        match appendLocked cfg s tenantId incidentId .cancelRequested [] d with
        | (s, .error err) => (s, .error err)
        | (s, .ok e) =>
          let snapshot := { incident.snapshot with
            state := .cancelled
            stateVersion := expectedVersion + 1
            eventCursor := str e.sequence }
          let s := setIncident s incidentId { incident with snapshot := snapshot }
          (record sha256 s call (.snapshot snapshot), .ok (.fresh (.snapshot snapshot) e))

/-- The payload of a feedback event in this store. -/
def feedbackPayload (result : FeedbackResult) (request : FeedbackRequest) (userId : String) :
    List (String × Json) :=
  [("feedback_id", .str result.feedbackId), ("rating", .int request.rating), ("user", .str userId)]

def feedback (s : Store) (tenantId userId incidentId key : String) (request : FeedbackRequest)
    (d : Draw) : Store × Except StoreError Reply :=
  let call := Call.feedback tenantId userId incidentId key request
  idempotent sha256 s call <|
    match owned s tenantId incidentId with
    | none => (s, .error .incidentNotFound)
    | some incident =>
      if incident.snapshot.stateVersion ≠ request.expectedStateVersion then
        (s, .error .stateConflict)
      else
        let result : FeedbackResult :=
          { feedbackId := "feedback_" ++ d.uuid, acceptedAt := d.acceptedAt }
        match appendLocked cfg s tenantId incidentId .feedbackRecorded
          (feedbackPayload result request userId) d with
        | (s, .error err) => (s, .error err)
        | (s, .ok e) =>
          (record sha256 s call (.feedback result), .ok (.fresh (.feedback result) e))

def approval (s : Store) (tenantId incidentId key : String) (request : ApprovalRequest) (d : Draw) :
    Store × Except StoreError Reply :=
  let call := Call.approval tenantId incidentId key request
  idempotent sha256 s call <|
    match owned s tenantId incidentId with
    | none => (s, .error .incidentNotFound)
    | some incident =>
      if incident.snapshot.stateVersion ≠ request.expectedStateVersion then
        (s, .error .stateConflict)
      else if incident.pendingAction ≠ some (request.actionId, request.actionDigest) then
        (s, .error .approvalConflict)
      else
        let result : ApprovalResult :=
          { actionId := request.actionId, decision := request.decision
            actionDigest := request.actionDigest, stateVersion := request.expectedStateVersion }
        match appendLocked cfg s tenantId incidentId .approvalDecided (approvalPayload request) d with
        | (s, .error err) => (s, .error err)
        | (s, .ok e) =>
          let s := setIncident s incidentId { incident with pendingAction := none }
          (record sha256 s call (.approval result), .ok (.fresh (.approval result) e))

/-- Any of the four calls. -/
def perform (s : Store) : Call → Draw → Store × Except StoreError Reply
  | .create tenantId key request, d => create cfg sha256 s tenantId key request d
  | .cancel tenantId incidentId key version, d => cancel cfg sha256 s tenantId incidentId key version d
  | .feedback tenantId userId incidentId key request, d =>
    feedback cfg sha256 s tenantId userId incidentId key request d
  | .approval tenantId incidentId key request, d =>
    approval cfg sha256 s tenantId incidentId key request d

/-- Whoever proposes an action sets `pending_action` of an incident; nothing in the repository
does. -/
def setPending (s : Store) (incidentId : String) (action : String × String) : Store :=
  match s.incidents incidentId with
  | some incident => setIncident s incidentId { incident with pendingAction := some action }
  | none => s

/-! ### The reads -/

def get (s : Store) (tenantId incidentId : String) : Except StoreError IncidentSnapshot :=
  match owned s tenantId incidentId with
  | some incident => .ok incident.snapshot
  | none => .error .incidentNotFound

def replay (s : Store) (tenantId incidentId : String) (lastEventId : Option String) :
    Except StoreError (List IncidentEvent) :=
  match owned s tenantId incidentId with
  | none => .error .incidentNotFound
  | some _ =>
    let events := s.events (tenantId, incidentId)
    match lastEventId with
    | none => .ok events
    | some text =>
      match intParse text with
      | none => .error .cursorError
      | some cursor =>
        if cursor < 0 ∨ events.getLast?.any (fun e => (e.sequence : ℤ) < cursor) then
          .error .cursorError
        else
          match events.head? with
          | some first =>
            if cursor < (first.sequence : ℤ) - 1 then
              .error (.retentionGap (str first.sequence))
            else .ok (events.filter fun e => cursor < (e.sequence : ℤ))
          | none => .ok (events.filter fun e => cursor < (e.sequence : ℤ))

/-! ### What a call did -/

/-- How a call moves an incident: the incident before it and after it, the event it appends and its
response.  A creation does not look at what is there. -/
inductive Advance (d : Draw) :
    Call → Option Incident → Incident → IncidentEvent → Response → Prop
  | create {tenantId key : String} {request : IncidentCreate} {before : Option Incident} {n : ℕ} :
      Advance d (.create tenantId key request) before
        { tenantId := tenantId, spec := request
          snapshot := { incidentId := "inc_" ++ d.uuid, state := .new, stateVersion := 0
                        eventCursor := str n, finalReportRef := none } }
        (event ("inc_" ++ d.uuid) n .created createdPayload d)
        (.snapshot { incidentId := "inc_" ++ d.uuid, state := .new, stateVersion := 0
                     eventCursor := str n, finalReportRef := none })
  | cancel {incidentId key : String} {version : ℕ} {incident : Incident} {n : ℕ}
      (hv : incident.snapshot.stateVersion = version)
      (ht : incident.snapshot.state.terminal = false) :
      Advance d (.cancel incident.tenantId incidentId key version) (some incident)
        { incident with snapshot := { incident.snapshot with
            state := .cancelled, stateVersion := version + 1, eventCursor := str n } }
        (event incidentId n .cancelRequested [] d)
        (.snapshot { incident.snapshot with
          state := .cancelled, stateVersion := version + 1, eventCursor := str n })
  | feedback {userId incidentId key : String} {request : FeedbackRequest} {incident : Incident}
      {n : ℕ} (hv : incident.snapshot.stateVersion = request.expectedStateVersion) :
      Advance d (.feedback incident.tenantId userId incidentId key request) (some incident) incident
        (event incidentId n .feedbackRecorded
          (feedbackPayload ⟨"feedback_" ++ d.uuid, d.acceptedAt⟩ request userId) d)
        (.feedback ⟨"feedback_" ++ d.uuid, d.acceptedAt⟩)
  | approval {incidentId key : String} {request : ApprovalRequest} {incident : Incident} {n : ℕ}
      (hv : incident.snapshot.stateVersion = request.expectedStateVersion)
      (hp : incident.pendingAction = some (request.actionId, request.actionDigest)) :
      Advance d (.approval incident.tenantId incidentId key request) (some incident)
        { incident with pendingAction := none }
        (event incidentId n .approvalDecided (approvalPayload request) d)
        (.approval ⟨request.actionId, request.decision, request.actionDigest,
          request.expectedStateVersion⟩)

theorem Advance.tenantId {d : Draw} {c : Call} {before : Option Incident} {after : Incident}
    {e : IncidentEvent} {response : Response} (h : Advance d c before after e response) :
    after.tenantId = c.slot.1 := by
  cases h <;> rfl

/-- What a call that is served afresh has done to the store. -/
structure Appends (s s' : Store) (c : Call) (d : Draw) (response : Response) (e : IncidentEvent) :
    Prop where
  advance : ∃ after, Advance d c (s.incidents e.incidentId) after e response ∧
    s'.incidents = Function.update s.incidents e.incidentId (some after)
  unrecorded : s.idempotency c.slot = none
  recorded : s'.idempotency =
    Function.update s.idempotency c.slot (some (c.digest sha256, response))
  sequence : e.sequence = nextSequence (s.events (c.slot.1, e.incidentId))
  kept : ∃ kept, prune cfg.retentionCount (d.prunedAt - cfg.retentionAge)
      (s.events (c.slot.1, e.incidentId) ++ [e]) = some kept ∧
    s'.events = Function.update s.events (c.slot.1, e.incidentId) kept

/-- The ways in which a call ends. -/
inductive Performed (s : Store) (c : Call) (d : Draw) : Store → Except StoreError Reply → Prop
  | replayed (prior : String × Response) (hprior : s.idempotency c.slot = some prior)
      (hdigest : prior.1 = c.digest sha256) : Performed s c d s (.ok (.replayed prior.2))
  | refused (err : StoreError) (herr : err ≠ .indexError ∧ err ≠ .dataError) :
      Performed s c d s (.error err)
  /-- The retention loop emptied the list. -/
  | emptied (s' : Store) (tenantId incidentId : String) (e : IncidentEvent)
      (he : e.occurredAt = d.occurredAt)
      (hprune : prune cfg.retentionCount (d.prunedAt - cfg.retentionAge)
        (s.events (tenantId, incidentId) ++ [e]) = none)
      (hidem : s'.idempotency = s.idempotency)
      (hevents : s'.events = Function.update s.events (tenantId, incidentId) [])
      (hinc : s'.incidents = s.incidents ∨ c.slot.2.1 = .create ∧
        ∃ incident : Incident, incident.snapshot.state = .new ∧ incident.pendingAction = none ∧
          s'.incidents = Function.update s.incidents ("inc_" ++ d.uuid) (some incident)) :
      Performed s c d s' (.error .indexError)
  | fresh (s' : Store) (response : Response) (e : IncidentEvent)
      (h : Appends cfg sha256 s s' c d response e) :
      Performed s c d s' (.ok (.fresh response e))

variable {cfg sha256}

variable {tenantId incidentId : String}

theorem owned_eq_some {s : Store} {incident : Incident} :
    owned s tenantId incidentId = some incident ↔
      s.incidents incidentId = some incident ∧ incident.tenantId = tenantId := by
  unfold owned
  cases h : s.incidents incidentId with
  | none => simp
  | some i =>
    by_cases ht : i.tenantId = tenantId
    · simp only [ht, if_true, Option.some.injEq]
      exact ⟨fun h => ⟨h, h ▸ ht⟩, fun h => h.1⟩
    · simp only [ht, if_false, Option.some.injEq, reduceCtorEq, false_iff, not_and]
      rintro rfl
      exact ht

theorem performed_idempotent {s : Store} {c : Call} {d : Draw}
    {fresh : Store × Except StoreError Reply}
    (h : s.idempotency c.slot = none → Performed cfg sha256 s c d fresh.1 fresh.2) :
    Performed cfg sha256 s c d (idempotent sha256 s c fresh).1 (idempotent sha256 s c fresh).2 := by
  unfold idempotent
  cases hprior : s.idempotency c.slot with
  | none => exact h hprior
  | some prior =>
    by_cases hd : prior.1 = c.digest sha256
    · simp only [hd, ne_eq, not_true_eq_false, if_false]
      exact .replayed prior hprior hd
    · simp only [ne_eq, hd, not_false_eq_true, if_true]
      exact .refused _ (by simp)

variable {s : Store} {d : Draw}

theorem performed_create {key : String} {request : IncidentCreate} :
    Performed cfg sha256 s (.create tenantId key request) d
      (create cfg sha256 s tenantId key request d).1
      (create cfg sha256 s tenantId key request d).2 := by
  refine performed_idempotent fun hun => ?_
  simp only [appendLocked]
  cases hp : prune cfg.retentionCount (d.prunedAt - cfg.retentionAge)
      ((setIncident s ("inc_" ++ d.uuid) _).events (tenantId, "inc_" ++ d.uuid) ++ [_]) with
  | none =>
    exact .emptied _ tenantId ("inc_" ++ d.uuid) _ rfl hp rfl rfl (Or.inr ⟨rfl, _, rfl, rfl, rfl⟩)
  | some kept =>
    refine .fresh _ _ _ ⟨⟨_, .create, ?_⟩, hun, rfl, rfl, kept, hp, rfl⟩
    simp [record, setIncident, event]

theorem performed_cancel {key : String} {version : ℕ} :
    Performed cfg sha256 s (.cancel tenantId incidentId key version) d
      (cancel cfg sha256 s tenantId incidentId key version d).1
      (cancel cfg sha256 s tenantId incidentId key version d).2 := by
  refine performed_idempotent fun hun => ?_
  cases hown : owned s tenantId incidentId with
  | none => exact .refused _ (by simp)
  | some incident =>
    obtain ⟨hinc, rfl⟩ := owned_eq_some.1 hown
    simp only
    split
    · exact .refused _ (by simp)
    rename_i hv
    split
    · exact .refused _ (by simp)
    rename_i ht
    simp only [appendLocked]
    cases hp : prune cfg.retentionCount (d.prunedAt - cfg.retentionAge)
        (s.events (incident.tenantId, incidentId) ++ [_]) with
    | none => exact .emptied _ incident.tenantId incidentId _ rfl hp rfl rfl (Or.inl rfl)
    | some kept =>
      refine .fresh _ _ _ ⟨⟨_, ?_, rfl⟩, hun, rfl, rfl, kept, hp, rfl⟩
      rw [event_incidentId, hinc]
      exact .cancel (not_not.1 hv) (by simpa using ht)

theorem performed_feedback {userId key : String} {request : FeedbackRequest} :
    Performed cfg sha256 s (.feedback tenantId userId incidentId key request) d
      (feedback cfg sha256 s tenantId userId incidentId key request d).1
      (feedback cfg sha256 s tenantId userId incidentId key request d).2 := by
  refine performed_idempotent fun hun => ?_
  cases hown : owned s tenantId incidentId with
  | none => exact .refused _ (by simp)
  | some incident =>
    obtain ⟨hinc, rfl⟩ := owned_eq_some.1 hown
    simp only
    split
    · exact .refused _ (by simp)
    rename_i hv
    simp only [appendLocked]
    cases hp : prune cfg.retentionCount (d.prunedAt - cfg.retentionAge)
        (s.events (incident.tenantId, incidentId) ++ [_]) with
    | none => exact .emptied _ incident.tenantId incidentId _ rfl hp rfl rfl (Or.inl rfl)
    | some kept =>
      refine .fresh _ _ _ ⟨⟨incident, ?_, ?_⟩, hun, rfl, rfl, kept, hp, rfl⟩
      · rw [event_incidentId, hinc]
        exact .feedback (not_not.1 hv)
      · rw [event_incidentId, ← hinc]
        exact (Function.update_eq_self ..).symm

theorem performed_approval {key : String} {request : ApprovalRequest} :
    Performed cfg sha256 s (.approval tenantId incidentId key request) d
      (approval cfg sha256 s tenantId incidentId key request d).1
      (approval cfg sha256 s tenantId incidentId key request d).2 := by
  refine performed_idempotent fun hun => ?_
  cases hown : owned s tenantId incidentId with
  | none => exact .refused _ (by simp)
  | some incident =>
    obtain ⟨hinc, rfl⟩ := owned_eq_some.1 hown
    simp only
    split
    · exact .refused _ (by simp)
    rename_i hv
    split
    · exact .refused _ (by simp)
    rename_i hpend
    simp only [appendLocked]
    cases hp : prune cfg.retentionCount (d.prunedAt - cfg.retentionAge)
        (s.events (incident.tenantId, incidentId) ++ [_]) with
    | none => exact .emptied _ incident.tenantId incidentId _ rfl hp rfl rfl (Or.inl rfl)
    | some kept =>
      refine .fresh _ _ _ ⟨⟨_, ?_, rfl⟩, hun, rfl, rfl, kept, hp, rfl⟩
      rw [event_incidentId, hinc]
      exact .approval (not_not.1 hv) (not_not.1 hpend)

variable (cfg sha256 s d) in
/-- **What a call did.** -/
theorem performed (c : Call) :
    Performed cfg sha256 s c d (perform cfg sha256 s c d).1 (perform cfg sha256 s c d).2 := by
  cases c with
  | create tenantId key request => exact performed_create
  | cancel tenantId incidentId key version => exact performed_cancel
  | feedback tenantId userId incidentId key request => exact performed_feedback
  | approval tenantId incidentId key request => exact performed_approval

end MemoryStore
