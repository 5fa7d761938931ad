/-
**The durable incident store.**

`faultwitness/api/postgres_store.py` over the tables of `migrations/002_i0012_control_api.sql`.
Each of the four calls that change something is one transaction block, written here statement by
statement as a `ReadCommitted.Prog`; run alone or beside others it means what `ReadCommitted` says.
The two reads `get` and `replay` are functions of the committed tables.

A row of `event_projection` is an `IncidentEvent`, which is what `_event_from_row` makes of it, and
the `UNIQUE (event_id)` constraint is a second key that the same insertion claims.  The columns
that no statement reads (`created_at`, `updated_at`) are left out.  A text with the character U+0000
can neither be sent as a parameter nor be stored inside a `jsonb` document; a digest is a
hexadecimal text and has none.

Nothing in the repository inserts into `pending_approval`; whoever does is one more transaction,
`registerPending`, that has to lock the incident row its foreign key refers to.

Main definitions:

* `PostgresStore.Key`, `PostgresStore.Row` — the tables;
* `PostgresStore.create`, `PostgresStore.cancel`, `PostgresStore.feedback`,
  `PostgresStore.approval` — the transactions;
* `PostgresStore.get`, `PostgresStore.replay` — the reads.

Main results:

* `PostgresStore.guards_body` — every transaction inserts what it looked up and did not find, so
  a committed transaction is serialisable;
* `PostgresStore.exec_body` — **what a committed transaction did**: it answered from the record of
  an earlier call and changed nothing, or it recorded itself and appended exactly one event.
-/

import FaultWitness.ReadCommitted
import FaultWitness.Incidents

set_option autoImplicit false

namespace PostgresStore

open Incidents ReadCommitted Python

/-! ### The tables -/

/-- The rows of all tables, by primary key or unique index. -/
inductive Key
  | incident (tenantId incidentId : String)
  | idempotency (slot : String × Operation × String)
  | event (tenantId incidentId : String) (sequence : ℕ)
  | eventId (eventId : String)
  | feedback (feedbackId : String)
  | pending (tenantId incidentId actionId : String)
deriving DecidableEq

structure IncidentRow where
  state : IncidentState
  stateVersion : ℕ
  eventCursor : ℕ
  finalReportRef : Option String
  spec : Json

structure IdempotencyRow where
  requestDigest : String
  response : Response
  httpStatus : ℕ

structure FeedbackRow where
  tenantId : String
  incidentId : String
  userId : String
  rating : ℤ
  comment : Option String
  acceptedAt : ℤ

abbrev Row : Key → Type
  | .incident .. => IncidentRow
  | .idempotency .. => IdempotencyRow
  | .event .. => IncidentEvent
  | .eventId .. => Unit
  | .feedback .. => FeedbackRow
  | .pending .. => String

abbrev Tables := AList Row

/-- What a transaction reports: the reply of a call, or that a pending action was registered. -/
inductive Answer
  | reply (r : Reply)
  | registered
deriving DecidableEq

abbrev Block := Prog Row Answer StoreError

/-! ### Statements -/

/-- A statement with the given texts among its parameters and the given `jsonb` documents. -/
def stmt (texts : List String) (documents : List Json) (p : Block) : Block :=
  if texts.all storable && documents.all Json.nulFree then p else .raise .dataError

/-- Answering from the record of an earlier call, or going on when there is none. -/
def recordedOr (digest : String) (fresh : Block) : Option IdempotencyRow → Block
  | some row =>
    if row.requestDigest ≠ digest then .raise .idempotencyConflict
    else .commit (.reply (.replayed row.response))
  | none => fresh

/-- The lookup `_idempotent`, with which every call begins. -/
def idempotent (slot : String × Operation × String) (digest : String) (fresh : Block) : Block :=
  stmt [slot.1, slot.2.2] [] <| .select (.idempotency slot) (recordedOr digest fresh)

/-- The lock `_lock_incident`. -/
def lockIncident (tenantId incidentId : String) (next : IncidentRow → Block) : Block :=
  stmt [tenantId, incidentId] [] <| .select (.incident tenantId incidentId) fun
    | some row => next row
    | none => .raise .incidentNotFound

/-- The insertion `_insert_event`, which claims the primary key and the unique `event_id`. -/
def insertEvent (tenantId : String) (e : IncidentEvent) (next : Block) : Block :=
  stmt [tenantId, e.incidentId, e.eventId] [.obj e.payload] <|
    .insert (.event tenantId e.incidentId e.sequence) e <| .insert (.eventId e.eventId) () next

/-- The `UPDATE` of an incident row. -/
def updateIncident (tenantId incidentId : String) (f : IncidentRow → IncidentRow) (next : Block) :
    Block :=
  .write (.incident tenantId incidentId) (fun row => some (some (f row))) none fun _ => next

/-- The `DELETE` of a pending action. -/
def deletePending (tenantId incidentId actionId : String) (next : Block) : Block :=
  .write (.pending tenantId incidentId actionId) (fun _ => some none) none fun _ => next

/-- The texts of a recorded response. -/
def responseTexts : Response → List String
  | .snapshot s => [s.incidentId, s.eventCursor] ++ s.finalReportRef.toList
  | .feedback r => [r.feedbackId]
  | .approval r => [r.actionId, r.actionDigest]

/-- The insertion `_save_idempotency`, the last statement of a call. -/
def saveIdempotency (slot : String × Operation × String) (digest : String) (response : Response)
    (status : ℕ) (e : IncidentEvent) : Block :=
  stmt ([slot.1, slot.2.2] ++ responseTexts response) [] <|
    .insert (.idempotency slot)
      { requestDigest := digest, response := response, httpStatus := status } <|
    .commit (.reply (.fresh response e))

/-! ### The transactions -/

variable (sha256 : String → String)

def create (tenantId key : String) (request : IncidentCreate) (d : Draw) : Block :=
  let call := Call.create tenantId key request
  idempotent call.slot (call.digest sha256) <|
    let incidentId := "inc_" ++ d.uuid
    let row : IncidentRow :=
      { state := .new, stateVersion := 0, eventCursor := 1, finalReportRef := none
        spec := request.document }
    let e := event incidentId 1 .created createdPayload d
    let snapshot : IncidentSnapshot :=
      { incidentId := incidentId, state := .new, stateVersion := 0, eventCursor := "1"
        finalReportRef := none }
    stmt [tenantId, incidentId] [request.document] <|
      .insert (.incident tenantId incidentId) row <|
      insertEvent tenantId e <|
      saveIdempotency call.slot (call.digest sha256) (.snapshot snapshot) 201 e

def cancel (tenantId incidentId key : String) (expectedVersion : ℕ) (d : Draw) : Block :=
  let call := Call.cancel tenantId incidentId key expectedVersion
  idempotent call.slot (call.digest sha256) <|
    lockIncident tenantId incidentId fun row =>
      if row.stateVersion ≠ expectedVersion ∨ row.state.terminal then .raise .stateConflict
      else
        let sequence := row.eventCursor + 1
        let e := event incidentId sequence .cancelRequested [] d
        let snapshot : IncidentSnapshot :=
          { incidentId := incidentId, state := .cancelled, stateVersion := expectedVersion + 1
            eventCursor := str sequence, finalReportRef := row.finalReportRef }
        updateIncident tenantId incidentId
          (fun row => { row with state := .cancelled, stateVersion := expectedVersion + 1
                                 eventCursor := sequence }) <|
        insertEvent tenantId e <|
        saveIdempotency call.slot (call.digest sha256) (.snapshot snapshot) 202 e

/-- The payload of a feedback event in this store. -/
def feedbackPayload (result : FeedbackResult) (request : FeedbackRequest) : List (String × Json) :=
  [("feedback_id", .str result.feedbackId), ("rating", .int request.rating)]

def feedback (tenantId userId incidentId key : String) (request : FeedbackRequest) (d : Draw) :
    Block :=
  let call := Call.feedback tenantId userId incidentId key request
  idempotent call.slot (call.digest sha256) <|
    lockIncident tenantId incidentId fun row =>
      if row.stateVersion ≠ request.expectedStateVersion then .raise .stateConflict
      else
        let sequence := row.eventCursor + 1
        let result : FeedbackResult :=
          { feedbackId := "feedback_" ++ d.uuid, acceptedAt := d.acceptedAt }
        let e := event incidentId sequence .feedbackRecorded (feedbackPayload result request) d
        stmt ([result.feedbackId, tenantId, incidentId, userId] ++ request.comment.toList) [] <|
          .insert (.feedback result.feedbackId)
            { tenantId := tenantId, incidentId := incidentId, userId := userId
              rating := request.rating, comment := request.comment
              acceptedAt := result.acceptedAt } <|
          insertEvent tenantId e <|
          updateIncident tenantId incidentId (fun row => { row with eventCursor := sequence }) <|
          saveIdempotency call.slot (call.digest sha256) (.feedback result) 202 e

def approval (tenantId incidentId key : String) (request : ApprovalRequest) (d : Draw) : Block :=
  let call := Call.approval tenantId incidentId key request
  idempotent call.slot (call.digest sha256) <|
    lockIncident tenantId incidentId fun row =>
      if row.stateVersion ≠ request.expectedStateVersion then .raise .stateConflict
      else
        stmt [tenantId, incidentId, request.actionId] [] <|
          .select (.pending tenantId incidentId request.actionId) fun
            | none => .raise .approvalConflict
            | some actionDigest =>
              if actionDigest ≠ request.actionDigest then .raise .approvalConflict
              else
                let sequence := row.eventCursor + 1
                let result : ApprovalResult :=
                  { actionId := request.actionId, decision := request.decision
                    actionDigest := request.actionDigest
                    stateVersion := request.expectedStateVersion }
                let e := event incidentId sequence .approvalDecided (approvalPayload request) d
                insertEvent tenantId e <|
                deletePending tenantId incidentId request.actionId <|
                updateIncident tenantId incidentId
                  (fun row => { row with eventCursor := sequence }) <|
                saveIdempotency call.slot (call.digest sha256) (.approval result) 200 e

/-- Whoever proposes an action inserts the row that an approval consults. -/
def registerPending (tenantId incidentId actionId actionDigest : String) : Block :=
  lockIncident tenantId incidentId fun _ =>
    stmt [actionId, actionDigest] [] <|
      .insert (.pending tenantId incidentId actionId) actionDigest (.commit .registered)

/-- The requests that open a transaction. -/
inductive Request
  | call (c : Call) (d : Draw)
  | registerPending (tenantId incidentId actionId actionDigest : String)
deriving DecidableEq

/-- The transaction of a request. -/
def body : Request → Block
  | .call (.create tenantId key request) d => create sha256 tenantId key request d
  | .call (.cancel tenantId incidentId key version) d =>
    cancel sha256 tenantId incidentId key version d
  | .call (.feedback tenantId userId incidentId key request) d =>
    feedback sha256 tenantId userId incidentId key request d
  | .call (.approval tenantId incidentId key request) d =>
    approval sha256 tenantId incidentId key request d
  | .registerPending tenantId incidentId actionId actionDigest =>
    registerPending tenantId incidentId actionId actionDigest

/-! ### The reads -/

/-- The snapshot `_snapshot` makes of a row. -/
def snapshot (incidentId : String) (row : IncidentRow) : IncidentSnapshot where
  incidentId := incidentId
  state := row.state
  stateVersion := row.stateVersion
  eventCursor := str row.eventCursor
  finalReportRef := row.finalReportRef

def get (t : Tables) (tenantId incidentId : String) : Except StoreError IncidentSnapshot :=
  if storable tenantId && storable incidentId then
    match t.lookup (.incident tenantId incidentId) with
    | some row => .ok (snapshot incidentId row)
    | none => .error .incidentNotFound
  else .error .dataError

/-- The cursor of a replay, `int(last_event_id or 0)`. -/
def cursor (lastEventId : Option String) : Except StoreError ℕ :=
  match (match lastEventId with
    | none => some 0
    | some "" => some 0
    | some text => intParse text) with
  | none => .error .cursorError
  | some (.ofNat n) => .ok n
  | some (.negSucc _) => .error .cursorError

/-- The sequence of a key of the projection that belongs to the incident. -/
def Key.sequenceOf (tenantId incidentId : String) : Key → Option ℕ
  | .event a b n => if a = tenantId ∧ b = incidentId then some n else none
  | _ => none

/-- The sequences of an incident in the projection, in no particular order. -/
def sequences (t : Tables) (tenantId incidentId : String) : List ℕ :=
  t.keys.filterMap (Key.sequenceOf tenantId incidentId)

/-- The rows of an incident in the projection, `ORDER BY sequence`. -/
def projection (t : Tables) (tenantId incidentId : String) : List IncidentEvent :=
  (List.range ((sequences t tenantId incidentId).foldr max 0 + 1)).filterMap fun n =>
    t.lookup (.event tenantId incidentId n)

/-- The first statement of a replay, which checks the cursor against the incident row. -/
def replayCursor (t : Tables) (tenantId incidentId : String) (cursor : ℕ) : Except StoreError Unit :=
  if storable tenantId && storable incidentId then
    match (t.lookup (.incident tenantId incidentId) : Option IncidentRow) with
    | some row => if row.eventCursor < cursor then .error .cursorError else .ok ()
    | none => .error .incidentNotFound
  else .error .dataError

/-- The second statement of a replay, which looks for the first event kept. -/
def replayEarliest (t : Tables) (tenantId incidentId : String) (cursor : ℕ) :
    Except StoreError Unit :=
  match (projection t tenantId incidentId).head? with
  | some e => if cursor + 1 < e.sequence then .error (.retentionGap (str e.sequence)) else .ok ()
  | none => .ok ()

/-- The third statement of a replay, which reads the events. -/
def replayRows (t : Tables) (tenantId incidentId : String) (cursor : ℕ) : List IncidentEvent :=
  (projection t tenantId incidentId).filter fun e => cursor < e.sequence

/-- A replay with nothing committed between its statements. -/
def replay (t : Tables) (tenantId incidentId : String) (lastEventId : Option String) :
    Except StoreError (List IncidentEvent) :=
  match cursor lastEventId with
  | .error e => .error e
  | .ok c =>
    match replayCursor t tenantId incidentId c with
    | .error e => .error e
    | .ok () =>
      match replayEarliest t tenantId incidentId c with
      | .error e => .error e
      | .ok () => .ok (replayRows t tenantId incidentId c)

/-! ### Every transaction is guarded -/

variable {sha256}

variable {held absent : List Key} {slot : String × Operation × String} {tenantId : String}

theorem guards_stmt {texts : List String} {documents : List Json} {p : Block}
    (h : Guards absent held p) : Guards absent held (stmt texts documents p) := by
  unfold stmt
  split
  · exact h
  · trivial

theorem guards_idempotent {digest : String} {fresh : Block}
    (h : Guards [.idempotency slot] [] fresh) : Guards [] [] (idempotent slot digest fresh) := by
  refine guards_stmt ⟨by simp, fun _ => h, fun row => ?_⟩
  simp only [recordedOr]
  split
  · trivial
  · rfl

theorem guards_lockIncident {incidentId : String} {next : IncidentRow → Block}
    (hk : .incident tenantId incidentId ∉ absent)
    (h : ∀ row, Guards absent (.incident tenantId incidentId :: held) (next row)) :
    Guards absent held (lockIncident tenantId incidentId next) :=
  guards_stmt ⟨hk, fun _ => trivial, h⟩

theorem guards_insertEvent {e : IncidentEvent} {next : Block}
    (h : Guards absent (.eventId e.eventId :: .event tenantId e.incidentId e.sequence :: held) next) :
    Guards absent held (insertEvent tenantId e next) := by
  refine guards_stmt ?_
  simp only [Guards]
  exact h.mono (List.Subset.trans (List.filter_subset_self _) (List.filter_subset_self _))

theorem guards_updateIncident {incidentId : String} {f : IncidentRow → IncidentRow} {next : Block}
    (hk : .incident tenantId incidentId ∉ absent) (hh : .incident tenantId incidentId ∈ held)
    (h : Guards absent (.incident tenantId incidentId :: held) next) :
    Guards absent held (updateIncident tenantId incidentId f next) :=
  ⟨hk, fun _ => h, fun hn => absurd hh hn⟩

theorem guards_saveIdempotency {digest : String} {response : Response} {status : ℕ}
    {e : IncidentEvent} :
    Guards [.idempotency slot] held (saveIdempotency slot digest response status e) := by
  refine guards_stmt ?_
  simp [Guards]

/-- **Every transaction of the store is guarded.** -/
theorem guards_body (r : Request) : Guards [] [] (body sha256 r) := by
  match r with
  | .call (.create tenantId key request) d =>
    refine guards_idempotent (guards_stmt ?_)
    simp only [Guards]
    exact (guards_insertEvent guards_saveIdempotency).mono (List.filter_subset_self _)
  | .call (.cancel tenantId incidentId key version) d =>
    refine guards_idempotent (guards_lockIncident (by simp) fun row => ?_)
    split
    · trivial
    · exact guards_updateIncident (by simp) (by simp) (guards_insertEvent guards_saveIdempotency)
  | .call (.feedback tenantId userId incidentId key request) d =>
    refine guards_idempotent (guards_lockIncident (by simp) fun row => ?_)
    split
    · trivial
    · refine guards_stmt ?_
      simp only [Guards]
      refine Guards.mono (List.filter_subset_self _) (guards_insertEvent ?_)
      exact guards_updateIncident (by simp) (by simp [event]) guards_saveIdempotency
  | .call (.approval tenantId incidentId key request) d =>
    refine guards_idempotent (guards_lockIncident (by simp) fun row => ?_)
    split
    · trivial
    · refine guards_stmt ⟨by simp, fun _ => trivial, fun digest => ?_⟩
      dsimp only
      split
      · trivial
      · refine guards_insertEvent ⟨by simp, fun _ => ?_, fun hn => absurd hn (by simp)⟩
        exact guards_updateIncident (by simp) (by simp [hold, event]) guards_saveIdempotency
  | .registerPending tenantId incidentId actionId actionDigest =>
    refine guards_lockIncident (by simp) fun row => guards_stmt ?_
    simp [Guards]

/-! ### What a committed transaction did -/

section Inversion

variable {t t' : Tables} {a : Answer} {next : Block} {tenantId incidentId : String}

theorem exec_stmt {texts : List String} {documents : List Json} {p : Block}
    (h : exec (stmt texts documents p) t = (.committed a, t')) : exec p t = (.committed a, t') := by
  unfold stmt at h
  split at h
  · exact h
  · simp [exec] at h

theorem exec_select {k : Key} {next : Option (Row k) → Block}
    (h : exec (.select k next) t = (.committed a, t')) :
    exec (next (t.lookup k)) t = (.committed a, t') := h

theorem exec_insert {k : Key} {v : Row k} (h : exec (.insert k v next) t = (.committed a, t')) :
    t.lookup k = none ∧ exec next (put t k (some v)) = (.committed a, t') := by
  simp only [exec] at h
  split at h
  · simp at h
  · rename_i hk
    exact ⟨hk, h⟩

theorem exec_idempotent {slot : String × Operation × String} {digest : String} {fresh : Block}
    (h : exec (idempotent slot digest fresh) t = (.committed a, t')) :
    (∃ row : IdempotencyRow, t.lookup (.idempotency slot) = some row ∧
        row.requestDigest = digest ∧ a = .reply (.replayed row.response) ∧ t' = t) ∨
      (t.lookup (.idempotency slot) = none ∧ exec fresh t = (.committed a, t')) := by
  have h := exec_select (exec_stmt h)
  cases hrow : t.lookup (.idempotency slot) with
  | none =>
    rw [hrow] at h
    exact Or.inr ⟨rfl, h⟩
  | some row =>
    rw [hrow] at h
    simp only [recordedOr] at h
    split at h
    · simp [exec] at h
    · rename_i hd
      simp only [exec, Prod.mk.injEq, Outcome.committed.injEq] at h
      exact Or.inl ⟨row, rfl, not_not.1 hd, h.1.symm, h.2.symm⟩

theorem exec_lockIncident {next : IncidentRow → Block}
    (h : exec (lockIncident tenantId incidentId next) t = (.committed a, t')) :
    ∃ row : IncidentRow, t.lookup (.incident tenantId incidentId) = some row ∧
      exec (next row) t = (.committed a, t') := by
  have h := exec_select (exec_stmt h)
  cases hrow : t.lookup (.incident tenantId incidentId) with
  | none =>
    rw [hrow] at h
    simp [exec] at h
  | some row =>
    rw [hrow] at h
    exact ⟨row, rfl, h⟩

theorem exec_insertEvent {e : IncidentEvent}
    (h : exec (insertEvent tenantId e next) t = (.committed a, t')) :
    t.lookup (.event tenantId e.incidentId e.sequence) = none ∧
      t.lookup (.eventId e.eventId) = none ∧
      exec next (put (put t (.event tenantId e.incidentId e.sequence) (some e))
        (.eventId e.eventId) (some ())) = (.committed a, t') := by
  obtain ⟨h₁, h⟩ := exec_insert (exec_stmt h)
  obtain ⟨h₂, h⟩ := exec_insert h
  rw [lookup_put_of_ne (by simp)] at h₂
  exact ⟨h₁, h₂, h⟩

theorem exec_updateIncident {f : IncidentRow → IncidentRow} (row : IncidentRow)
    (hrow : t.lookup (.incident tenantId incidentId) = some row)
    (h : exec (updateIncident tenantId incidentId f next) t = (.committed a, t')) :
    exec next (put t (.incident tenantId incidentId) (some (f row))) = (.committed a, t') := by
  simpa [updateIncident, exec, hrow, replacement] using h

theorem exec_deletePending {actionId : String} (digest : String)
    (hrow : t.lookup (.pending tenantId incidentId actionId) = some digest)
    (h : exec (deletePending tenantId incidentId actionId next) t = (.committed a, t')) :
    exec next (put t (.pending tenantId incidentId actionId) none) = (.committed a, t') := by
  simpa [deletePending, exec, hrow, replacement] using h

theorem exec_saveIdempotency {slot : String × Operation × String} {digest : String}
    {response : Response} {status : ℕ} {e : IncidentEvent}
    (h : exec (saveIdempotency slot digest response status e) t = (.committed a, t')) :
    a = .reply (.fresh response e) ∧
      t' = put t (.idempotency slot) (some ⟨digest, response, status⟩) := by
  obtain ⟨-, h⟩ := exec_insert (exec_stmt h)
  simp only [exec, Prod.mk.injEq, Outcome.committed.injEq] at h
  exact ⟨h.1.symm, h.2.symm⟩

end Inversion

/-- How a call moves an incident: the row before it (`none` before a creation) and after it, the
event it appends and its response. -/
inductive Advance (d : Draw) :
    Call → Option IncidentRow → IncidentRow → IncidentEvent → Response → Prop
  | create {tenantId key : String} {request : IncidentCreate} :
      Advance d (.create tenantId key request) none
        { state := .new, stateVersion := 0, eventCursor := 1, finalReportRef := none
          spec := request.document }
        (event ("inc_" ++ d.uuid) 1 .created createdPayload d)
        (.snapshot { incidentId := "inc_" ++ d.uuid, state := .new, stateVersion := 0
                     eventCursor := "1", finalReportRef := none })
  | cancel {tenantId incidentId key : String} {version : ℕ} {row : IncidentRow}
      (hv : row.stateVersion = version) (ht : row.state.terminal = false) :
      Advance d (.cancel tenantId incidentId key version) (some row)
        { row with state := .cancelled, stateVersion := version + 1
                   eventCursor := row.eventCursor + 1 }
        (event incidentId (row.eventCursor + 1) .cancelRequested [] d)
        (.snapshot { incidentId := incidentId, state := .cancelled, stateVersion := version + 1
                     eventCursor := str (row.eventCursor + 1)
                     finalReportRef := row.finalReportRef })
  | feedback {tenantId userId incidentId key : String} {request : FeedbackRequest}
      {row : IncidentRow} (hv : row.stateVersion = request.expectedStateVersion) :
      Advance d (.feedback tenantId userId incidentId key request) (some row)
        { row with eventCursor := row.eventCursor + 1 }
        (event incidentId (row.eventCursor + 1) .feedbackRecorded
          (feedbackPayload ⟨"feedback_" ++ d.uuid, d.acceptedAt⟩ request) d)
        (.feedback ⟨"feedback_" ++ d.uuid, d.acceptedAt⟩)
  | approval {tenantId incidentId key : String} {request : ApprovalRequest} {row : IncidentRow}
      (hv : row.stateVersion = request.expectedStateVersion) :
      Advance d (.approval tenantId incidentId key request) (some row)
        { row with eventCursor := row.eventCursor + 1 }
        (event incidentId (row.eventCursor + 1) .approvalDecided (approvalPayload request) d)
        (.approval ⟨request.actionId, request.decision, request.actionDigest,
          request.expectedStateVersion⟩)

variable (sha256) in
/-- What a call that commits afresh has done to the tables. -/
structure Appends (t t' : Tables) (c : Call) (d : Draw) (response : Response) (e : IncidentEvent) :
    Prop where
  advance : ∃ (before : Option IncidentRow) (after : IncidentRow),
    t.lookup (.incident c.slot.1 e.incidentId) = before ∧
      t'.lookup (.incident c.slot.1 e.incidentId) = some after ∧
      Advance d c before after e response
  unrecorded : t.lookup (.idempotency c.slot) = none
  recorded : ∃ status : ℕ,
    t'.lookup (.idempotency c.slot) = some ⟨c.digest sha256, response, status⟩
  unnumbered : t.lookup (.event c.slot.1 e.incidentId e.sequence) = none
  numbered : t'.lookup (.event c.slot.1 e.incidentId e.sequence) = some e
  unnamed : t.lookup (.eventId e.eventId) = none
  named : t'.lookup (.eventId e.eventId) = some ()
  /-- An approval consumes the pending action it is about. -/
  pending : ∀ tenantId incidentId actionId,
    t'.lookup (.pending tenantId incidentId actionId) =
      if tenantId = c.slot.1 ∧ incidentId = e.incidentId ∧ c.actionId = some actionId then none
      else t.lookup (.pending tenantId incidentId actionId)
  approved : ∀ actionId ∈ c.actionId,
    t.lookup (.pending c.slot.1 e.incidentId actionId) = c.actionDigest
  /-- Feedback is stored under a new identifier. -/
  feedbacks : ∀ feedbackId, t'.lookup (.feedback feedbackId) ≠ none →
    t.lookup (.feedback feedbackId) ≠ none ∨
      (c.slot.2.1 = .feedback ∧ feedbackId = "feedback_" ++ d.uuid)
  frame : ∀ k, k ≠ .incident c.slot.1 e.incidentId → k ≠ .idempotency c.slot →
    k ≠ .event c.slot.1 e.incidentId e.sequence → k ≠ .eventId e.eventId →
    (∀ feedbackId, k ≠ .feedback feedbackId) →
    (∀ tenantId incidentId actionId, k ≠ .pending tenantId incidentId actionId) →
    t'.lookup k = t.lookup k

variable (sha256) in
/-- What a committed call has done: it answered from the record of an earlier call and changed
nothing, or it appended an event. -/
def Served (t t' : Tables) (c : Call) (d : Draw) (a : Answer) : Prop :=
  (∃ row : IdempotencyRow, t.lookup (.idempotency c.slot) = some row ∧
      row.requestDigest = c.digest sha256 ∧ a = .reply (.replayed row.response) ∧ t' = t) ∨
    ∃ response e, a = .reply (.fresh response e) ∧ Appends sha256 t t' c d response e

section Served

variable {t t' : Tables} {a : Answer} {d : Draw} {tenantId incidentId key : String}

/-- The tables after a call, from the list of rows it has written. -/
theorem appends_of_writes {c : Call} {response : Response} {e : IncidentEvent}
    {ws : List (Sigma fun k => Option (Row k))} (hnd : (ws.map Sigma.fst).Nodup)
    {before : Option IncidentRow} {after : IncidentRow} (status : ℕ)
    (hadvance : Advance d c before after e response)
    (hbefore : t.lookup (.incident c.slot.1 e.incidentId) = before)
    (hun : t.lookup (.idempotency c.slot) = none)
    (hev : t.lookup (.event c.slot.1 e.incidentId e.sequence) = none)
    (hid : t.lookup (.eventId e.eventId) = none)
    (hmem : [⟨.incident c.slot.1 e.incidentId, some after⟩,
      ⟨.idempotency c.slot, some ⟨c.digest sha256, response, status⟩⟩,
      ⟨.event c.slot.1 e.incidentId e.sequence, some e⟩, ⟨.eventId e.eventId, some ()⟩] ⊆ ws)
    (hpending : ∀ tenantId incidentId actionId,
      Key.pending tenantId incidentId actionId ∈ ws.map Sigma.fst →
        tenantId = c.slot.1 ∧ incidentId = e.incidentId ∧ c.actionId = some actionId)
    (hactionId : ∀ actionId ∈ c.actionId,
      ⟨.pending c.slot.1 e.incidentId actionId, none⟩ ∈ ws ∧
        t.lookup (.pending c.slot.1 e.incidentId actionId) = c.actionDigest)
    (hfeedback : ∀ feedbackId, Key.feedback feedbackId ∈ ws.map Sigma.fst →
      c.slot.2.1 = .feedback ∧ feedbackId = "feedback_" ++ d.uuid)
    (hframe : ∀ k ∈ ws.map Sigma.fst, k = .incident c.slot.1 e.incidentId ∨
      k = .idempotency c.slot ∨ k = .event c.slot.1 e.incidentId e.sequence ∨
      k = .eventId e.eventId ∨ (∃ feedbackId, k = .feedback feedbackId) ∨
      ∃ tenantId incidentId actionId, k = .pending tenantId incidentId actionId) :
    Appends sha256 t (apply ws t) c d response e where
  advance := ⟨before, after, hbefore, lookup_apply_of_mem hnd (hmem (by simp)) t, hadvance⟩
  unrecorded := hun
  recorded := ⟨status, lookup_apply_of_mem hnd (hmem (by simp)) t⟩
  unnumbered := hev
  numbered := lookup_apply_of_mem hnd (hmem (by simp)) t
  unnamed := hid
  named := lookup_apply_of_mem hnd (hmem (by simp)) t
  pending tenantId incidentId actionId := by
    split
    · rename_i hk
      obtain ⟨rfl, rfl, ha⟩ := hk
      exact lookup_apply_of_mem hnd (hactionId actionId ha).1 t
    · rename_i hk
      exact lookup_apply_of_notMem (fun hmem => hk (hpending _ _ _ hmem)) t
  approved actionId ha := (hactionId actionId ha).2
  feedbacks feedbackId hne := by
    by_cases hmem : Key.feedback feedbackId ∈ ws.map Sigma.fst
    · exact Or.inr (hfeedback feedbackId hmem)
    · rw [lookup_apply_of_notMem hmem] at hne
      exact Or.inl hne
  frame k h₁ h₂ h₃ h₄ h₅ h₆ := by
    refine lookup_apply_of_notMem (fun hmem => ?_) t
    rcases hframe k hmem with h | h | h | h | ⟨f, h⟩ | ⟨a, b, c, h⟩
    · exact h₁ h
    · exact h₂ h
    · exact h₃ h
    · exact h₄ h
    · exact h₅ f h
    · exact h₆ a b c h

theorem exec_create {request : IncidentCreate}
    (h : exec (create sha256 tenantId key request d) t = (.committed a, t')) :
    Served sha256 t t' (.create tenantId key request) d a := by
  refine (exec_idempotent h).imp id ?_
  rintro ⟨hun, h⟩
  rw [← apply_nil t] at h
  obtain ⟨hinc, h⟩ := exec_insert (exec_stmt h)
  obtain ⟨hev, hid, h⟩ := exec_insertEvent h
  obtain ⟨rfl, rfl⟩ := exec_saveIdempotency h
  rw [lookup_put_of_ne (by simp)] at hev hid
  refine ⟨_, _, rfl, ?_⟩
  simp only [← apply_cons]
  refine appends_of_writes (by simp) 201 Advance.create hinc hun hev hid ?_ ?_ ?_ ?_ ?_
  · simp [Call.slot, event]
  · simp
  · simp [Call.actionId]
  · simp
  · simp [Call.slot, event]

theorem exec_cancel {version : ℕ}
    (h : exec (cancel sha256 tenantId incidentId key version d) t = (.committed a, t')) :
    Served sha256 t t' (.cancel tenantId incidentId key version) d a := by
  refine (exec_idempotent h).imp id ?_
  rintro ⟨hun, h⟩
  rw [← apply_nil t] at h
  obtain ⟨row, hinc, h⟩ := exec_lockIncident h
  split at h
  · simp [exec] at h
  · rename_i hcond
    simp only [ne_eq, not_or, not_not, Bool.not_eq_true] at hcond
    have h := exec_updateIncident _ hinc h
    obtain ⟨hev, hid, h⟩ := exec_insertEvent h
    obtain ⟨rfl, rfl⟩ := exec_saveIdempotency h
    rw [lookup_put_of_ne (by simp)] at hev hid
    refine ⟨_, _, rfl, ?_⟩
    simp only [← apply_cons]
    refine appends_of_writes (by simp) 202 (Advance.cancel hcond.1 hcond.2) hinc hun hev hid
      ?_ ?_ ?_ ?_ ?_
    · simp [Call.slot, event]
    · simp
    · simp [Call.actionId]
    · simp
    · simp [Call.slot, event]

theorem exec_feedback {userId : String} {request : FeedbackRequest}
    (h : exec (feedback sha256 tenantId userId incidentId key request d) t = (.committed a, t')) :
    Served sha256 t t' (.feedback tenantId userId incidentId key request) d a := by
  refine (exec_idempotent h).imp id ?_
  rintro ⟨hun, h⟩
  rw [← apply_nil t] at h
  obtain ⟨row, hinc, h⟩ := exec_lockIncident h
  split at h
  · simp [exec] at h
  · rename_i hv
    obtain ⟨-, h⟩ := exec_insert (exec_stmt h)
    obtain ⟨hev, hid, h⟩ := exec_insertEvent h
    rw [lookup_put_of_ne (by simp)] at hev hid
    have h := exec_updateIncident row (by
      rw [lookup_put_of_ne (by simp), lookup_put_of_ne (by simp), lookup_put_of_ne (by simp),
        hinc]) h
    obtain ⟨rfl, rfl⟩ := exec_saveIdempotency h
    refine ⟨_, _, rfl, ?_⟩
    simp only [← apply_cons]
    refine appends_of_writes (by simp) 202 (Advance.feedback (not_not.1 hv)) hinc hun hev hid
      ?_ ?_ ?_ ?_ ?_
    · simp [Call.slot, event]
    · simp
    · simp [Call.actionId]
    · simp [Call.slot]
    · simp [Call.slot, event]

theorem exec_approval {request : ApprovalRequest}
    (h : exec (approval sha256 tenantId incidentId key request d) t = (.committed a, t')) :
    Served sha256 t t' (.approval tenantId incidentId key request) d a := by
  refine (exec_idempotent h).imp id ?_
  rintro ⟨hun, h⟩
  rw [← apply_nil t] at h
  obtain ⟨row, hinc, h⟩ := exec_lockIncident h
  split at h
  · simp [exec] at h
  · rename_i hv
    have h := exec_select (exec_stmt h)
    split at h
    · simp [exec] at h
    · rename_i digest hpend
      split at h
      · simp [exec] at h
      · rename_i hdigest
        obtain ⟨hev, hid, h⟩ := exec_insertEvent h
        have h := exec_deletePending digest
          (by rw [lookup_put_of_ne (by simp), lookup_put_of_ne (by simp), hpend]) h
        have h := exec_updateIncident row (by
          rw [lookup_put_of_ne (by simp), lookup_put_of_ne (by simp), lookup_put_of_ne (by simp),
            hinc]) h
        obtain ⟨rfl, rfl⟩ := exec_saveIdempotency h
        refine ⟨_, _, rfl, ?_⟩
        simp only [← apply_cons]
        refine appends_of_writes (by simp) 200 (Advance.approval (not_not.1 hv)) hinc hun hev hid
          ?_ ?_ ?_ ?_ ?_
        · simp [Call.slot, event]
        · simp [Call.slot, event, Call.actionId, eq_comm]
        · have hp : t.lookup (.pending tenantId incidentId request.actionId) =
              some request.actionDigest := by rw [← not_not.1 hdigest]; exact hpend
          simp [Call.slot, event, Call.actionId, Call.actionDigest, hp]
        · simp
        · simp [Call.slot, event]

theorem exec_registerPending {actionId actionDigest : String}
    (h : exec (registerPending tenantId incidentId actionId actionDigest) t = (.committed a, t')) :
    a = .registered ∧ (∃ row : IncidentRow, t.lookup (.incident tenantId incidentId) = some row) ∧
      t.lookup (.pending tenantId incidentId actionId) = none ∧
      t' = put t (.pending tenantId incidentId actionId) (some actionDigest) := by
  obtain ⟨row, hinc, h⟩ := exec_lockIncident h
  obtain ⟨hp, h⟩ := exec_insert (exec_stmt h)
  simp only [exec, Prod.mk.injEq, Outcome.committed.injEq] at h
  exact ⟨h.1.symm, ⟨row, hinc⟩, hp, h.2.symm⟩

/-- **What a committed call did.** -/
theorem exec_body {c : Call} (h : exec (body sha256 (.call c d)) t = (.committed a, t')) :
    Served sha256 t t' c d a := by
  match c with
  | .create .. => exact exec_create h
  | .cancel .. => exact exec_cancel h
  | .feedback .. => exact exec_feedback h
  | .approval .. => exact exec_approval h

end Served

end PostgresStore
