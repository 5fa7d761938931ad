/-
**Incidents: the data of the Control API.**

`faultwitness/api/schemas.py` and the head of `faultwitness/api/store.py`: the requests a client
sends, the snapshots and results it gets back, the events an incident accumulates, and the
exceptions the stores raise.  Both incident stores and the event stream speak about these types.

A request body enters the stores in two ways: field by field, and through the digest of its
canonical JSON document, by which an idempotency key is tied to the request it was first used for.
An `IncidentCreate` is only ever hashed and stored, never read, so it is kept as its document.
-/

import FaultWitness.Python

set_option autoImplicit false

namespace Incidents

open Python

/-! ### States, events and snapshots -/

/-- The states of the incident machine. -/
inductive IncidentState
  | new
  | queued
  | investigating
  | waitingApproval
  | executing
  | verifying
  | rollingBack
  | resolved
  | escalated
  | cancelled
deriving DecidableEq, Repr

/-- The states in `{"RESOLVED", "ESCALATED", "CANCELLED"}`. -/
def IncidentState.terminal : IncidentState → Bool
  | .resolved => true
  | .escalated => true
  | .cancelled => true
  | _ => false

/-- The event types the stores append. -/
inductive EventType
  /-- Printed `EVT-INCIDENT-CREATED`. -/
  | created
  /-- Printed `EVT-INCIDENT-CANCEL-REQUESTED`. -/
  | cancelRequested
  /-- Printed `EVT-INCIDENT-FEEDBACK-RECORDED`. -/
  | feedbackRecorded
  /-- Printed `EVT-ACTION-APPROVAL-DECIDED`. -/
  | approvalDecided
deriving DecidableEq, Repr

/-- An event of one incident.  Instants are counted in microseconds. -/
structure IncidentEvent where
  eventId : String
  eventType : EventType
  incidentId : String
  sequence : ℕ
  occurredAt : ℤ
  payload : List (String × Json)
deriving DecidableEq

/-- The text `f"evt_{incident_id[4:]}_{sequence}"`. -/
def eventId (incidentId : String) (sequence : ℕ) : String :=
  "evt_" ++ String.ofList (incidentId.toList.drop 4) ++ "_" ++ str sequence

structure IncidentSnapshot where
  incidentId : String
  state : IncidentState
  stateVersion : ℕ
  eventCursor : String
  finalReportRef : Option String
deriving DecidableEq

/-! ### Requests and results -/

/-- A validated `IncidentCreate`, as the document `model_dump(mode="json")` gives. -/
structure IncidentCreate where
  document : Json
deriving DecidableEq

inductive ApprovalDecision
  | approve
  | reject
deriving DecidableEq, Repr

def ApprovalDecision.value : ApprovalDecision → String
  | .approve => "approve"
  | .reject => "reject"

structure ApprovalRequest where
  actionId : String
  actionDigest : String
  decision : ApprovalDecision
  expectedStateVersion : ℕ
  comment : Option String := none
deriving DecidableEq

structure ApprovalResult where
  actionId : String
  decision : ApprovalDecision
  actionDigest : String
  stateVersion : ℕ
deriving DecidableEq

structure FeedbackRequest where
  rating : ℤ
  comment : Option String := none
  expectedStateVersion : ℕ
  /-- The range of `rating`, which is also the check of the feedback table. -/
  rating_range : 1 ≤ rating ∧ rating ≤ 5 := by decide
deriving DecidableEq

structure FeedbackResult where
  feedbackId : String
  acceptedAt : ℤ
deriving DecidableEq

def ApprovalRequest.dump (r : ApprovalRequest) : Json :=
  .obj [("action_id", .str r.actionId), ("action_digest", .str r.actionDigest),
    ("decision", .str r.decision.value), ("expected_state_version", .int r.expectedStateVersion),
    ("comment", .optStr r.comment)]

def FeedbackRequest.dump (r : FeedbackRequest) : Json :=
  .obj [("rating", .int r.rating), ("comment", .optStr r.comment),
    ("expected_state_version", .int r.expectedStateVersion)]

/-- The document a cancellation is hashed as. -/
def cancelDump (incidentId : String) (expectedVersion : ℕ) : Json :=
  .obj [("incident_id", .str incidentId), ("version", .int expectedVersion)]

/-- The digest `MemoryIncidentStore.request_digest`, over the hash function `sha256`. -/
def requestDigest (sha256 : String → String) (value : Json) : String := sha256 value.dumps

/-- The operations that take an idempotency key. -/
inductive Operation
  | create
  | cancel
  | feedback
  | approval
deriving DecidableEq, Repr

/-- A call of a store that takes an idempotency key. -/
inductive Call
  | create (tenantId idempotencyKey : String) (request : IncidentCreate)
  | cancel (tenantId incidentId idempotencyKey : String) (expectedVersion : ℕ)
  | feedback (tenantId userId incidentId idempotencyKey : String) (request : FeedbackRequest)
  | approval (tenantId incidentId idempotencyKey : String) (request : ApprovalRequest)
deriving DecidableEq

namespace Call

/-- The slot of the idempotency table that the call uses. -/
def slot : Call → String × Operation × String
  | create tenantId key _ => (tenantId, .create, key)
  | cancel tenantId _ key _ => (tenantId, .cancel, key)
  | feedback tenantId _ _ key _ => (tenantId, .feedback, key)
  | approval tenantId _ key _ => (tenantId, .approval, key)

/-- The document by whose digest the call is recognised. -/
def document : Call → Json
  | create _ _ request => request.document
  | cancel _ incidentId _ expectedVersion => cancelDump incidentId expectedVersion
  | feedback _ _ _ _ request => request.dump
  | approval _ _ _ request => request.dump

def digest (sha256 : String → String) (c : Call) : String := requestDigest sha256 c.document

/-- The incident that feedback or an approval addresses. -/
def target : Call → Option String
  | feedback _ _ incidentId _ _ => some incidentId
  | approval _ incidentId _ _ => some incidentId
  | _ => none

/-- The action an approval decides on, and the digest it was shown. -/
def actionId : Call → Option String
  | approval _ _ _ request => some request.actionId
  | _ => none

def actionDigest : Call → Option String
  | approval _ _ _ request => some request.actionDigest
  | _ => none

end Call

/-- What a call draws from its environment: `uuid.uuid4().hex`, and the readings of the clock in
the order in which the code takes them. -/
structure Draw where
  uuid : String := ""
  acceptedAt : ℤ := 0
  occurredAt : ℤ := 0
  prunedAt : ℤ := 0
deriving DecidableEq

/-- What a recorded request answered. -/
inductive Response
  | snapshot (s : IncidentSnapshot)
  | feedback (r : FeedbackResult)
  | approval (r : ApprovalResult)
deriving DecidableEq

/-- How a call of a store that takes an idempotency key returns: from the record of an earlier
call, or having appended an event. -/
inductive Reply
  | replayed (response : Response)
  | fresh (response : Response) (event : IncidentEvent)
deriving DecidableEq

def Reply.response : Reply → Response
  | replayed r => r
  | fresh r _ => r

def Reply.isFresh : Reply → Bool
  | replayed _ => false
  | fresh _ _ => true

/-! ### The events the operations append -/

/-- The event with the given sequence, stamped with the clock. -/
def event (incidentId : String) (sequence : ℕ) (eventType : EventType)
    (payload : List (String × Json)) (d : Draw) : IncidentEvent where
  eventId := eventId incidentId sequence
  eventType := eventType
  incidentId := incidentId
  sequence := sequence
  occurredAt := d.occurredAt
  payload := payload

section Event

variable (incidentId : String) (sequence : ℕ) (eventType : EventType)
  (payload : List (String × Json)) (d : Draw)

@[simp] theorem event_incidentId :
    (event incidentId sequence eventType payload d).incidentId = incidentId := rfl

@[simp] theorem event_sequence :
    (event incidentId sequence eventType payload d).sequence = sequence := rfl

@[simp] theorem event_eventType :
    (event incidentId sequence eventType payload d).eventType = eventType := rfl

@[simp] theorem event_payload :
    (event incidentId sequence eventType payload d).payload = payload := rfl

end Event

/-- The payload of a creation. -/
def createdPayload : List (String × Json) := [("state", .str "NEW")]

/-- The payload of an approval decision. -/
def approvalPayload (r : ApprovalRequest) : List (String × Json) :=
  [("action_id", .str r.actionId), ("decision", .str r.decision.value)]

/-! ### Exceptions -/

/-- What a call of a store raises. -/
inductive StoreError
  | incidentNotFound
  | stateConflict
  | idempotencyConflict
  | approvalConflict
  | cursorError
  | retentionGap (earliest : String)
  /-- An `IndexError`, raised by Python itself. -/
  | indexError
  /-- A text that PostgreSQL refuses to store. -/
  | dataError
deriving DecidableEq, Repr

/-- The text of a parameter that PostgreSQL accepts: no character U+0000. -/
def storable (s : String) : Bool := !s.toList.contains '\x00'

/-! ### Requests for concrete runs -/

/-- A small request to open an incident. -/
def sampleCreate : IncidentCreate where
  document := .obj [("source", .str "pager"), ("environment_id", .str "prod"),
    ("service_scope", .arr [.str "cart"]),
    ("time_window", .obj [("start", .str "2025-01-01T00:00:00Z"),
      ("end", .str "2025-01-01T01:00:00Z")]),
    ("symptom_summary", .str "checkout fails"), ("alert_refs", .arr []), ("change_events", .arr []),
    ("mode", .str "diagnosis_only"),
    ("budget", .obj [("deadline", .str "2025-01-01T02:00:00Z"), ("max_steps", .int 10),
      ("max_model_calls", .int 5), ("max_tokens", .int 1000), ("max_cost_usd", .float "1.0")])]

def sampleFeedback : FeedbackRequest where
  rating := 5
  expectedStateVersion := 0

/-- The approval of an action at state version one. -/
def sampleApproval : ApprovalRequest where
  actionId := "restart"
  actionDigest := "aaaaaaaaaaaaaaaaaaaaaaaaaaaaaaaaaaaaaaaaaaaaaaaaaaaaaaaaaaaaaaaa"
  decision := .approve
  expectedStateVersion := 1

/-- The values of `hashlib.sha256` on the documents of these requests and of the cancellation of
`inc_7` at version zero. -/
def sampleSha256 (text : String) : String :=
  if text = sampleFeedback.dump.dumps then
    "c7d3ee876837b7bbc2e12c7ba039337846205598ce14a903cd5d99e3937c6749"
  else if text = (cancelDump "inc_7" 0).dumps then
    "36baf1312fd8743c0bcc7071a91da480740cc61dbed9ccda7a7c8ff274c4af75"
  else if text = sampleApproval.dump.dumps then
    "94c6ed115d4ba59998eea251bfaf2603d41a0cc9adbe267b31ed381b52596b9a"
  else if text = sampleCreate.document.dumps then
    "417ce129f59c19c34a6fb37a2bb8de45e51d708503a7a32b7b48d85acee27f86"
  else ""

end Incidents
