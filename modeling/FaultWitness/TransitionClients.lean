/-
**Clients of the kernel and the state store.**

A client reads the state and the version of an aggregate, lets the kernel decide a transition from
them, and applies the decision with `apply_transition`, each as one atomic step; it may read again,
decide again or apply the same decision again at any time.  Any number of clients do so, in any
order.  An aggregate without a row is in the initial state of its machine at version `0`.

The proof follows the *history* of an aggregate, the decisions that were applied to it in the order
of their commits, and the list of states these lead through.  The stored row is the end of that
list; what a client has read is one of its points, named by the version; and the version check of
the store lets a decision pass only if that point is still the end.

Main definitions:

* `TransitionClients.validateCatalog` — the check of the command catalogue, which insists on
  idempotency keys;
* `TransitionClients.Contract` — documents that were accepted, with their kernel;
* `TransitionClients.Sys`, `TransitionClients.step` — the clients and the store;
* `TransitionClients.Conforms` — what holds in every state of a run.

Main results:

* `TransitionClients.conforms_reachable` — **applied decisions form a path of the machine, and a
  stale client changes nothing**.
-/

import FaultWitness.SafetyPaths
import FaultWitness.StateStore
import Mathlib.Data.List.Chain

set_option autoImplicit false

namespace TransitionClients

open ReadCommitted StateStore TransitionKernel SafetyPaths Runs Python

/-! ### The catalogue -/

/-- The values under a key of each document of a list. -/
def valuesOf (key : String) : List Json → Except GovernanceError (List Json)
  | [] => .ok []
  | item :: items => do
    let value ← getItem item key
    let values ← valuesOf key items
    return value :: values

/-- Whether `_duplicates` finds something; its `Counter` hashes the values. -/
def duplicates (values : List Json) : Except GovernanceError Bool :=
  if values.all fun value => hashable (some value) then .ok (¬ values.Nodup) else .error .typeError

/-- The test `value not in components`. -/
def unknownComponent (components : List Json) (value : Json) : Except GovernanceError Bool :=
  if hashable (some value) then .ok (value ∉ components) else .error .typeError

def checkCommand (components : List Json) (command : Json) : Except GovernanceError Unit := do
  let unknown ← unknownComponent components (← getItem command "owner")
  if unknown then throw .unknownOwner
  let idempotency ← getItem command "idempotency"
  if idempotency = .str "not_applicable" then throw .lacksIdempotency
  let version ← getItem command "version_check"
  if version = .str "not_applicable" then throw .lacksVersion

def checkEvent (components : List Json) (event : Json) : Except GovernanceError Unit := do
  let unknown ← unknownComponent components (← getItem event "producer")
  if unknown then throw .unknownProducer

/-- A loop that checks each item. -/
def forEach (check : Json → Except GovernanceError Unit) : List Json → Except GovernanceError Unit
  | [] => .ok ()
  | item :: items => do
    check item
    forEach check items

/-- The check `_validate_catalog`. -/
def validateCatalog (catalog architecture : Fields) : Except GovernanceError Unit := do
  let components ← valuesOf "id" (← iterate (← getItem (.obj architecture) "components"))
  if ¬ components.all fun value => hashable (some value) then throw .typeError
  let commands ← iterate (← getItem (.obj catalog) "commands")
  let commandIds ← valuesOf "id" commands
  let events ← iterate (← getItem (.obj catalog) "events")
  let eventIds ← valuesOf "id" events
  let commandsTwice ← duplicates commandIds
  if commandsTwice then throw .duplicateCommands
  let eventsTwice ← duplicates eventIds
  if eventsTwice then throw .duplicateEvents
  forEach (checkCommand components) commands
  forEach (checkEvent components) events

theorem forEach_eq_ok {check : Json → Except GovernanceError Unit} {items : List Json}
    (h : forEach check items = .ok ()) : ∀ item ∈ items, check item = .ok () := by
  induction items with
  | nil =>
    intro item hitem
    cases hitem
  | cons first items ih =>
    obtain ⟨_, hfirst, hrest⟩ := bind_eq_ok.1 h
    intro item hitem
    rcases List.mem_cons.1 hitem with rfl | hitem
    · exact hfirst
    · exact ih hrest item hitem

/-- A command of an accepted catalogue asks for an idempotency key. -/
theorem validateCatalog_eq_ok {catalog architecture : Fields}
    (h : validateCatalog catalog architecture = .ok ()) :
    ∃ value commands, catalog.lookup "commands" = some value ∧ iterate value = .ok commands ∧
      ∀ command ∈ commands, ∀ fields, command = .obj fields →
        fields.lookup "idempotency" ≠ some (.str "not_applicable") := by
  unfold validateCatalog at h
  obtain ⟨rawComponents, -, h⟩ := bind_eq_ok.1 h
  obtain ⟨componentItems, -, h⟩ := bind_eq_ok.1 h
  obtain ⟨components, -, h⟩ := bind_eq_ok.1 h
  obtain ⟨-, h⟩ := check_eq_ok.1 h
  obtain ⟨value, hvalue, h⟩ := bind_eq_ok.1 h
  obtain ⟨commands, hcommands, h⟩ := bind_eq_ok.1 h
  obtain ⟨commandIds, -, h⟩ := bind_eq_ok.1 h
  obtain ⟨rawEvents, -, h⟩ := bind_eq_ok.1 h
  obtain ⟨events, -, h⟩ := bind_eq_ok.1 h
  obtain ⟨eventIds, -, h⟩ := bind_eq_ok.1 h
  obtain ⟨commandsTwice, -, h⟩ := bind_eq_ok.1 h
  obtain ⟨-, h⟩ := check_eq_ok.1 h
  obtain ⟨eventsTwice, -, h⟩ := bind_eq_ok.1 h
  obtain ⟨-, h⟩ := check_eq_ok.1 h
  obtain ⟨_, hchecks, -⟩ := bind_eq_ok.1 h
  obtain ⟨_, hobj, hlookup⟩ := getItem_eq_ok.1 hvalue
  cases hobj
  refine ⟨value, commands, hlookup, hcommands, ?_⟩
  rintro command hcommand fields rfl hnone
  have hcheck := forEach_eq_ok hchecks _ hcommand
  unfold checkCommand at hcheck
  obtain ⟨owner, -, hcheck⟩ := bind_eq_ok.1 hcheck
  obtain ⟨unknown, -, hcheck⟩ := bind_eq_ok.1 hcheck
  obtain ⟨-, hcheck⟩ := check_eq_ok.1 hcheck
  obtain ⟨idempotency, hid, hcheck⟩ := bind_eq_ok.1 hcheck
  obtain ⟨hne, hcheck⟩ := check_eq_ok.1 hcheck
  obtain ⟨_, hobj, hlookup'⟩ := getItem_eq_ok.1 hid
  cases hobj
  rw [hnone] at hlookup'
  exact hne (Option.some.inj hlookup').symm

/-- Documents that the kernel and the catalogue check have accepted. -/
structure Contract where
  resource : Fields
  documents : Fields
  catalog : Fields
  architecture : Fields
  predicates : PredicateRegistry
  kernel : Kernel
  documents_eq : resource.lookup "documents" = some (.obj documents)
  catalog_eq : documents.lookup "commands_events" = some (.obj catalog)
  accepted : init resource predicates = .ok kernel
  validated : validateCatalog catalog architecture = .ok ()

/-- The field `initial_state` of a machine document. -/
def Contract.initialState (c : Contract) (machineId : String) : String :=
  match c.documents.lookup ("state_machine." ++ machineId) with
  | some (.obj raw) =>
    match raw.lookup "initial_state" with
    | some (.str state) => state
    | _ => ""
  | _ => ""

/-- Every command of an accepted contract asks for an idempotency key. -/
theorem Contract.durable (c : Contract) {commandId : String} {command : Command}
    (h : c.kernel.commands.lookup commandId = some command) :
    command.idempotency ≠ .notApplicable := by
  intro hnone
  obtain ⟨-, documents, catalog, raws, events, hd, hcat, hindex, hcommands, -⟩ :=
    init_eq_ok c.accepted
  obtain rfl : documents = c.documents := by
    have := hd.symm.trans c.documents_eq
    simpa using this
  obtain rfl : catalog = c.catalog := by
    have := hcat.symm.trans c.catalog_eq
    simpa using this
  obtain ⟨raw, hraw, hread⟩ := readCommands_eq_ok hcommands (mem_of_lookup h)
  obtain ⟨value, items, hvalue, hitems, hcheck⟩ := validateCatalog_eq_ok c.validated
  unfold indexRegistry at hindex
  split at hindex
  · rename_i items' hitems'
    rw [hvalue, Option.some.injEq] at hitems'
    subst hitems'
    cases hitems
    rcases indexItems_eq_ok hindex hraw with hnil | hmem
    · cases hnil
    · exact hcheck _ hmem raw.2 rfl (readCommand_notApplicable hread hnone)
  · cases hindex

/-! ### The clients -/

/-- The schema that belongs to a machine. -/
def ownerSchema (machineId : String) : Option OwnerSchema :=
  if machineId = "incident" then some .incidentOwner
  else if machineId = "runtime_task" then some .taskOwner
  else if machineId = "agent_graph" then some .graphOwner
  else if machineId = "action_transaction" then some .actionOwner
  else none

/-- What a client has read of an aggregate. -/
structure View where
  machineId : String
  schema : OwnerSchema
  tenantId : String
  aggregateId : String
  state : String
  stateVersion : ℕ
deriving DecidableEq

inductive Client
  | idle
  | read (v : View)
  | decided (v : View) (d : TransitionDecision)

/-- The view of a client that has read. -/
def Client.view : Client → Option View
  | .idle => none
  | .read v => some v
  | .decided v _ => some v

/-- A decision that was applied, and where. -/
structure Entry where
  schema : OwnerSchema
  tenantId : String
  decision : TransitionDecision
  eventId : String
  outboxId : String
deriving DecidableEq

/-- The tables, the clients, and the decisions applied so far in the order of their commits; the
last field only records the run. -/
structure Sys where
  db : Tables := ∅
  clients : ℕ → Client := fun _ => .idle
  applied : List Entry := []

/-- A step of a client.  The request of a decision is the client's own apart from what it has
read. -/
inductive Label
  | read (i : ℕ) (machineId tenantId aggregateId : String)
  | decide (i : ℕ) (request : TransitionRequest)
  | apply (i : ℕ) (eventId outboxId : String) (fault : Option ℕ)

/-- The state and version of an aggregate. -/
def observe (c : Contract) (t : Tables) (machineId : String) (schema : OwnerSchema)
    (tenantId aggregateId : String) : String × ℕ :=
  match (t.lookup (.aggregate schema tenantId aggregateId) : Option AggregateRow) with
  | some row => (row.state, row.stateVersion)
  | none => (c.initialState machineId, 0)

/-- The request speaks of what the client has read. -/
def View.Asks (v : View) (request : TransitionRequest) : Prop :=
  request.aggregateId = v.aggregateId ∧ request.state = v.state ∧
    request.stateVersion = v.stateVersion

instance (v : View) (request : TransitionRequest) : Decidable (v.Asks request) :=
  inferInstanceAs (Decidable (_ ∧ _))

/-- The call with which a client applies its decision. -/
def call (v : View) (d : TransitionDecision) (eventId outboxId : String) (fault : Option ℕ) :
    Request :=
  ⟨.applyTransition v.schema d v.tenantId eventId outboxId, fault⟩

/-- The entry that an outcome adds to the history. -/
def entries (v : View) (eventId outboxId : String) : Outcome Answer StateError → List Entry
  | .committed (.applied ⟨d, _, _, false⟩) => [⟨v.schema, v.tenantId, d, eventId, outboxId⟩]
  | _ => []

variable (c : Contract) (sha256 : String → String)

def step (s : Sys) : Label → Option Sys
  | .read i machineId tenantId aggregateId =>
    match ownerSchema machineId with
    | none => none
    | some schema =>
      let seen := observe c s.db machineId schema tenantId aggregateId
      let view := View.mk machineId schema tenantId aggregateId seen.1 seen.2
      some { s with clients := Function.update s.clients i (.read view) }
  | .decide i request =>
    match (s.clients i).view with
    | none => none
    | some v =>
      if v.Asks request then
        match c.kernel.service v.machineId with
        | .error _ => none
        | .ok service =>
          match service.decide sha256 request with
          | .error _ => some s
          | .ok d => some { s with clients := Function.update s.clients i (.decided v d) }
      else none
  | .apply i eventId outboxId fault =>
    match s.clients i with
    | .decided v d =>
      let (outcome, db) := transact (body (call v d eventId outboxId fault)) s.db
      some { s with db := db, applied := s.applied ++ entries v eventId outboxId outcome }
    | _ => none

/-! ### Histories -/

/-- The machine that a schema belongs to. -/
def machineOf : OwnerSchema → String
  | .incidentOwner => "incident"
  | .taskOwner => "runtime_task"
  | .graphOwner => "agent_graph"
  | .actionOwner => "action_transaction"

variable {schema : OwnerSchema} {machineId : String}

theorem machineOf_of_ownerSchema (h : ownerSchema machineId = some schema) :
    machineOf schema = machineId := by
  unfold ownerSchema at h
  split at h
  · cases h
    exact Eq.symm ‹_›
  · split at h
    · cases h
      exact Eq.symm ‹_›
    · split at h
      · cases h
        exact Eq.symm ‹_›
      · split at h
        · cases h
          exact Eq.symm ‹_›
        · cases h

/-- The entry concerns the aggregate. -/
def Entry.Of (e : Entry) (schema : OwnerSchema) (tenantId aggregateId : String) : Prop :=
  e.schema = schema ∧ e.tenantId = tenantId ∧ e.decision.aggregateId = aggregateId

instance (e : Entry) (schema : OwnerSchema) (tenantId aggregateId : String) :
    Decidable (e.Of schema tenantId aggregateId) := inferInstanceAs (Decidable (_ ∧ _))

/-- The decisions applied to an aggregate, in the order of their commits. -/
def Sys.history (s : Sys) (schema : OwnerSchema) (tenantId aggregateId : String) :
    List TransitionDecision :=
  (s.applied.filter fun e => e.Of schema tenantId aggregateId).map Entry.decision

/-- The states through which decisions lead, from the initial one on. -/
def states (c : Contract) (schema : OwnerSchema) (ds : List TransitionDecision) : List String :=
  c.initialState (machineOf schema) :: ds.map TransitionDecision.nextState

theorem states_append {c : Contract} {ds : List TransitionDecision} {n : ℕ} {state : String}
    (h : (states c schema ds)[n]? = some state) (more : List TransitionDecision) :
    (states c schema (ds ++ more))[n]? = some state := by
  have happ : states c schema (ds ++ more) =
      states c schema ds ++ more.map TransitionDecision.nextState := by
    simp [states]
  rw [happ, List.getElem?_append_left (List.getElem?_eq_some_iff.1 h).1, h]

theorem states_length (c : Contract) (schema : OwnerSchema) (ds : List TransitionDecision) :
    (states c schema ds).length = ds.length + 1 := by
  simp [states]

/-- The decision is an edge of the machine, and does not leave a terminal state. -/
def Edge (c : Contract) (machineId : String) (d : TransitionDecision) : Prop :=
  ∃ machine t, c.kernel.machines.lookup machineId = some machine ∧
    machine.transitions.lookup d.transitionId = some t ∧ d.previousState = t.source ∧
    d.nextState = t.target ∧ d.previousState ∉ machine.terminalStates

variable {c sha256}

/-- What a decision tells the client about its own view. -/
structure Decides (c : Contract) (v : View) (d : TransitionDecision) : Prop where
  aggregateId : d.aggregateId = v.aggregateId
  previousState : d.previousState = v.state
  previousStateVersion : d.previousStateVersion = v.stateVersion
  nextStateVersion : d.nextStateVersion = v.stateVersion + 1
  edge : Edge c v.machineId d
  key : ∃ key, d.idempotencyKey = some key

theorem idempotencyKey_isSome {request : TransitionRequest} {command : Command}
    (hc : command.idempotency ≠ .notApplicable) {key : Option String}
    (h : Kernel.idempotencyKey sha256 request command = .ok key) : ∃ text, key = some text := by
  unfold Kernel.idempotencyKey at h
  split at h
  · split at h
    · cases h
    · cases h
      exact ⟨_, rfl⟩
  · cases h
  · cases h
  · cases h
    exact ⟨_, rfl⟩
  · cases h
  · rename_i hnone _
    exact absurd hnone hc

variable {d : TransitionDecision} {v : View}

theorem decides_of_decide {service : Service} (hs : c.kernel.service v.machineId = .ok service)
    {request : TransitionRequest} (hasks : v.Asks request)
    (h : service.decide sha256 request = .ok d) : Decides c v d := by
  obtain ⟨hk, machine₀, hm₀, hid⟩ := service_decide_eq_ok hs h
  obtain ⟨machine, t, command, hdec⟩ := decide_eq_ok hk
  obtain ⟨-, _, _, _, _, -, -, -, -, hmachines⟩ := init_eq_ok c.accepted
  have hname : machine₀.machineId = v.machineId := (readMachines_eq_ok hmachines (mem_of_lookup hm₀)).1
  obtain ⟨haggregate, hstate, hversion⟩ := hasks
  have hd := hdec.decision
  refine ⟨?_, ?_, ?_, ?_, ⟨machine, t, ?_, ?_, ?_, ?_, ?_⟩, ?_⟩
  · rw [hd]
    exact haggregate
  · rw [hd]
    exact hstate
  · rw [hd, ← hversion]
    rfl
  · rw [hd, ← hversion]
    rfl
  · rw [← hname, ← hid]
    exact hdec.machine_eq
  · rw [hd]
    exact hdec.transition_eq
  · rw [hd]
    exact hdec.source
  · rw [hd]
    rfl
  · rw [hd]
    exact hdec.live
  · exact idempotencyKey_isSome (c.durable hdec.command_eq) hdec.key

/-! ### Steps -/

/-- What applying a decision comes to: nothing, or one more entry. -/
theorem transact_call {t t' : Tables} {eventId outboxId : String} {fault : Option ℕ}
    {outcome : Outcome Answer StateError}
    (h : transact (body (call v d eventId outboxId fault)) t = (outcome, t')) :
    (t' = t ∧ entries v eventId outboxId outcome = []) ∨
      (outcome = .committed (.applied ⟨d, eventId, outboxId, false⟩) ∧
        Applied v.schema d v.tenantId eventId outboxId t ⟨d, eventId, outboxId, false⟩ t') := by
  unfold transact at h
  split at h
  · rename_i a t'' he
    cases h
    obtain ⟨x, rfl, ha⟩ := exec_applyTransition (exec_body he)
    cases ha with
    | replayed key row hkey hrow hdigest => exact Or.inl ⟨rfl, rfl⟩
    | fresh key hkey hun hrange hversion hid hevent =>
      exact Or.inr ⟨rfl, .fresh key hkey hun hrange hversion hid hevent⟩
  · rename_i o t'' hne he
    cases h
    refine Or.inl ⟨rfl, ?_⟩
    cases outcome with
    | committed a => exact absurd rfl (hne a)
    | raised e => rfl
    | uniqueViolation => rfl
    | aborted => rfl

/-- The invariant of the clients and the store. -/
structure Inv (c : Contract) (s : Sys) : Prop where
  absent : ∀ schema tenantId aggregateId, s.history schema tenantId aggregateId = [] →
    s.db.lookup (.aggregate schema tenantId aggregateId) = none
  present : ∀ schema tenantId aggregateId, s.history schema tenantId aggregateId ≠ [] →
    ∃ row : AggregateRow, s.db.lookup (.aggregate schema tenantId aggregateId) = some row ∧
      row.stateVersion = (s.history schema tenantId aggregateId).length ∧
      (s.history schema tenantId aggregateId).length < 2 ^ 63 ∧
      (states c schema (s.history schema tenantId aggregateId))[row.stateVersion]? = some row.state
  views : ∀ i v, (s.clients i).view = some v → ownerSchema v.machineId = some v.schema ∧
    (states c v.schema (s.history v.schema v.tenantId v.aggregateId))[v.stateVersion]? =
      some v.state
  decisions : ∀ i v d, s.clients i = .decided v d → Decides c v d
  path : ∀ schema tenantId aggregateId (n : ℕ) d, (s.history schema tenantId aggregateId)[n]? = some d →
    (states c schema (s.history schema tenantId aggregateId))[n]? = some d.previousState ∧
      d.previousStateVersion = n ∧ d.nextStateVersion = n + 1 ∧ Edge c (machineOf schema) d
  records : ∀ schema tenantId key (row : IdempotencyRow),
    s.db.lookup (.idempotency schema tenantId key) = some row → ∃ e ∈ s.applied,
      e.schema = schema ∧ e.tenantId = tenantId ∧ e.decision.idempotencyKey = some key ∧
      e.decision.requestDigest = row.requestDigest ∧ e.eventId = row.eventId ∧
      e.outboxId = row.outboxId

theorem inv_initial : Inv c {} := by
  constructor <;> simp [Sys.history, Client.view]

variable {s : Sys}

theorem Inv.observe (h : Inv c s) (hm : ownerSchema machineId = some schema)
    (tenantId aggregateId : String) :
    (observe c s.db machineId schema tenantId aggregateId).2 =
        (s.history schema tenantId aggregateId).length ∧
      (states c schema (s.history schema tenantId aggregateId))[
        (TransitionClients.observe c s.db machineId schema tenantId aggregateId).2]? =
        some (TransitionClients.observe c s.db machineId schema tenantId aggregateId).1 := by
  by_cases hnil : s.history schema tenantId aggregateId = []
  · have hrow := h.absent _ _ _ hnil
    simp [TransitionClients.observe, hrow, hnil, states, machineOf_of_ownerSchema hm]
  · obtain ⟨row, hrow, hversion, -, hstate⟩ := h.present _ _ _ hnil
    simp [TransitionClients.observe, hrow, hversion, ← hstate]

theorem Inv.setClient (h : Inv c s) (i : ℕ) {client : Client}
    (hview : ∀ v, client.view = some v → ownerSchema v.machineId = some v.schema ∧
      (states c v.schema (s.history v.schema v.tenantId v.aggregateId))[v.stateVersion]? =
        some v.state) (hdecided : ∀ v d, client = .decided v d → Decides c v d) :
    Inv c { s with clients := Function.update s.clients i client } := by
  refine ⟨h.absent, h.present, fun j v hv => ?_, fun j v d hv => ?_, h.path, h.records⟩
  · change (Function.update s.clients i client j).view = some v at hv
    by_cases hj : j = i
    · subst hj
      rw [Function.update_self] at hv
      exact hview v hv
    · rw [Function.update_of_ne hj] at hv
      exact h.views j v hv
  · change Function.update s.clients i client j = .decided v d at hv
    by_cases hj : j = i
    · subst hj
      rw [Function.update_self] at hv
      exact hdecided v d hv
    · rw [Function.update_of_ne hj] at hv
      exact h.decisions j v d hv

theorem Inv.current (h : Inv c s) {i : ℕ} (hi : s.clients i = .decided v d)
    (hversion : ∀ row : AggregateRow,
      s.db.lookup (.aggregate v.schema v.tenantId d.aggregateId) = some row →
        (row.stateVersion : ℤ) = d.previousStateVersion) :
    v.stateVersion = (s.history v.schema v.tenantId v.aggregateId).length := by
  have hd := h.decisions i v d hi
  obtain ⟨-, hview⟩ := h.views i v (by rw [hi]; rfl)
  by_cases hnil : s.history v.schema v.tenantId v.aggregateId = []
  · -- a new aggregate: nothing but the initial state can have been read
    have hlt := (List.getElem?_eq_some_iff.1 hview).1
    rw [states_length, hnil, List.length_nil] at hlt
    rw [hnil, List.length_nil]
    omega
  · obtain ⟨row, hrow, hlength, -, -⟩ := h.present _ _ _ hnil
    rw [← hd.aggregateId] at hrow
    have heq := hversion row hrow
    rw [hd.previousStateVersion] at heq
    omega

theorem history_append (s : Sys) (db : Tables) (e : Entry) (schema : OwnerSchema)
    (tenantId aggregateId : String) :
    Sys.history { s with db := db, applied := s.applied ++ [e] } schema tenantId aggregateId =
      s.history schema tenantId aggregateId ++
        if e.Of schema tenantId aggregateId then [e.decision] else [] := by
  rw [Sys.history, Sys.history, List.filter_append, List.map_append]
  split
  · rename_i he
    simp [he]
  · rename_i he
    simp [he]

theorem Inv.applied (h : Inv c s) {i : ℕ} (hi : s.clients i = .decided v d)
    {eventId outboxId : String} {db : Tables}
    (ha : Applied v.schema d v.tenantId eventId outboxId s.db ⟨d, eventId, outboxId, false⟩ db) :
    Inv c { s with db := db
                   applied := s.applied ++ [⟨v.schema, v.tenantId, d, eventId, outboxId⟩] } := by
  obtain _ | ⟨key, hkey, hun, hrange, hversion, -, -⟩ := ha
  have hd := h.decisions i v d hi
  obtain ⟨hmachine, hview⟩ := h.views i v (by rw [hi]; rfl)
  have hcurrent := h.current hi hversion
  -- the history of the client's own aggregate grows, the others stay
  have hhist : ∀ schema tenantId aggregateId, Sys.history
      { s with db := apply (freshWrites v.schema d key v.tenantId eventId outboxId
                 (s.db.lookup (.aggregate v.schema v.tenantId d.aggregateId))) s.db
               applied := s.applied ++ [⟨v.schema, v.tenantId, d, eventId, outboxId⟩] }
      schema tenantId aggregateId = s.history schema tenantId aggregateId ++
        if schema = v.schema ∧ tenantId = v.tenantId ∧ aggregateId = v.aggregateId then [d]
        else [] := by
    intro schema tenantId aggregateId
    rw [history_append]
    congr 1
    refine if_congr ?_ rfl rfl
    rw [Entry.Of, hd.aggregateId]
    exact ⟨fun h => ⟨h.1.symm, h.2.1.symm, h.2.2.symm⟩, fun h => ⟨h.1.symm, h.2.1.symm, h.2.2.symm⟩⟩
  have hown : s.history v.schema v.tenantId v.aggregateId ++ [d] ≠ [] := by simp
  refine ⟨?_, ?_, ?_, h.decisions, ?_, ?_⟩
  · intro schema tenantId aggregateId hnil
    rw [hhist] at hnil
    rw [lookup_aggregate_fresh, hd.aggregateId]
    split at hnil
    · rename_i hk
      obtain ⟨rfl, rfl, rfl⟩ := hk
      exact absurd hnil hown
    · rename_i hk
      rw [List.append_nil] at hnil
      rw [if_neg hk]
      exact h.absent _ _ _ hnil
  · intro schema tenantId aggregateId hne
    rw [hhist] at hne ⊢
    rw [lookup_aggregate_fresh, hd.aggregateId]
    split at hne
    · rename_i hk
      obtain ⟨rfl, rfl, rfl⟩ := hk
      have hnext := hd.nextStateVersion
      have hbound := hrange.2.2
      rw [hnext, hcurrent] at hbound
      have hto : (v.stateVersion + 1 : ℤ).toNat =
          (s.history v.schema v.tenantId v.aggregateId).length + 1 := by
        rw [hcurrent]
        omega
      rw [if_pos ⟨rfl, rfl, rfl⟩, if_pos ⟨rfl, rfl, rfl⟩]
      refine ⟨_, rfl, ?_, ?_, ?_⟩
      · rw [advanced_stateVersion, hnext, hto, List.length_append, List.length_singleton]
      · rw [List.length_append, List.length_singleton]
        omega
      · rw [advanced_stateVersion, advanced_state, hnext, hto]
        simp [states]
    · rename_i hk
      rw [List.append_nil] at hne
      rw [if_neg hk, if_neg hk, List.append_nil]
      exact h.present _ _ _ hne
  · intro j v' hv'
    obtain ⟨hm', hst⟩ := h.views j v' hv'
    rw [hhist]
    exact ⟨hm', states_append hst _⟩
  · intro schema tenantId aggregateId n d' hd'
    rw [hhist] at hd' ⊢
    rcases Nat.lt_or_ge n (s.history schema tenantId aggregateId).length with hn | hn
    · rw [List.getElem?_append_left hn] at hd'
      obtain ⟨hstate, hrest⟩ := h.path _ _ _ n d' hd'
      exact ⟨states_append hstate _, hrest⟩
    · split at hd'
      · rename_i hk
        obtain ⟨rfl, rfl, rfl⟩ := hk
        rw [List.getElem?_append_right hn, List.getElem?_singleton] at hd'
        split at hd'
        · rename_i hzero
          cases hd'
          obtain rfl : n = v.stateVersion := by omega
          rw [if_pos ⟨rfl, rfl, rfl⟩, hd.previousState, hd.previousStateVersion,
            hd.nextStateVersion, machineOf_of_ownerSchema hmachine]
          exact ⟨states_append hview _, rfl, rfl, hd.edge⟩
        · cases hd'
      · rw [List.append_nil] at hd'
        have := (List.getElem?_eq_some_iff.1 hd').1
        omega
  · intro schema tenantId key' row hrow
    rw [lookup_idempotency_fresh] at hrow
    split at hrow
    · rename_i hk
      obtain ⟨rfl, rfl, rfl⟩ := hk
      cases hrow
      exact ⟨_, List.mem_append_right _ (List.mem_singleton.2 rfl), rfl, rfl, hkey, rfl, rfl, rfl⟩
    · obtain ⟨e, he, hrest⟩ := h.records _ _ _ row hrow
      exact ⟨e, List.mem_append_left _ he, hrest⟩

theorem inv_step {s' : Sys} {l : Label} (h : Inv c s) (hs : step c sha256 s l = some s') :
    Inv c s' := by
  cases l with
  | read i machineId tenantId aggregateId =>
    simp only [step] at hs
    split at hs
    · cases hs
    rename_i schema hschema
    cases hs
    refine h.setClient i (fun v hv => ?_) fun v d hv => by cases hv
    cases hv
    exact ⟨hschema, (h.observe hschema tenantId aggregateId).2⟩
  | decide i request =>
    simp only [step] at hs
    split at hs
    · cases hs
    rename_i v hv
    split at hs
    case isFalse => cases hs
    rename_i hasks
    split at hs
    · cases hs
    rename_i service hservice
    split at hs
    · cases hs
      exact h
    rename_i d hd
    cases hs
    refine h.setClient i (fun v' hv' => ?_) fun v' d' hv' => ?_
    · cases hv'
      exact h.views i v hv
    · cases hv'
      exact decides_of_decide hservice hasks hd
  | apply i eventId outboxId fault =>
    simp only [step] at hs
    split at hs
    case h_2 => cases hs
    rename_i v d hi
    cases hs
    generalize hr : transact (body (call v d eventId outboxId fault)) s.db = r
    obtain ⟨outcome, db⟩ := r
    rcases transact_call hr with ⟨rfl, hnone⟩ | ⟨rfl, ha⟩
    · rw [hnone, List.append_nil]
      exact h
    · exact h.applied hi ha

theorem inv_reachable (h : Reachable (step c sha256) {} s) : Inv c s :=
  h.invariant inv_initial fun _ _ _ hi _ hs => inv_step hi hs

/-! ### What holds in every run -/

/-- What holds of the history of one aggregate, and of the row that is stored for it. -/
structure Follows (c : Contract) (machineId : String) (ds : List TransitionDecision)
    (stored : String × ℕ) : Prop where
  start : ∀ d, ds.head? = some d → d.previousState = c.initialState machineId
  chain : ds.IsChain fun d d' => d'.previousState = d.nextState
  edges : ∀ d ∈ ds, Edge c machineId d
  /-- Each decision raises the version by one, and the version stored counts them. -/
  versions : ∀ (n : ℕ) d, ds[n]? = some d → d.previousStateVersion = n ∧ d.nextStateVersion = n + 1
  stored : stored.2 = ds.length
  /-- Nothing follows a decision into a terminal state. -/
  terminal : ∀ machine pre d post, c.kernel.machines.lookup machineId = some machine →
    ds = pre ++ d :: post → d.nextState ∈ machine.terminalStates → post = []

theorem Inv.follows (h : Inv c s) (hm : ownerSchema machineId = some schema)
    (tenantId aggregateId : String) :
    Follows c machineId (s.history schema tenantId aggregateId)
      (TransitionClients.observe c s.db machineId schema tenantId aggregateId) := by
  have hpath := h.path schema tenantId aggregateId
  rw [machineOf_of_ownerSchema hm] at hpath
  have hchain : (s.history schema tenantId aggregateId).IsChain fun d d' =>
      d'.previousState = d.nextState := by
    rw [List.isChain_iff_getElem]
    intro n hn
    have hnext := (hpath (n + 1) _ (List.getElem?_eq_getElem hn)).1
    rw [states, List.getElem?_cons_succ, List.getElem?_map,
      List.getElem?_eq_getElem (Nat.lt_of_succ_lt hn)] at hnext
    simpa using hnext.symm
  refine ⟨fun d hd => ?_, hchain, fun d hd => ?_, fun n d hd => ?_, (h.observe hm _ _).1, ?_⟩
  · rw [List.head?_eq_getElem?] at hd
    have hfirst := (hpath 0 d hd).1
    rw [states, machineOf_of_ownerSchema hm] at hfirst
    simpa using hfirst.symm
  · obtain ⟨n, hn⟩ := List.mem_iff_getElem?.1 hd
    exact (hpath n d hn).2.2.2
  · exact ⟨(hpath n d hd).2.1, (hpath n d hd).2.2.1⟩
  · intro machine pre d post hmachine hds hterminal
    cases post with
    | nil => rfl
    | cons d' post =>
      exfalso
      rw [hds] at hchain hpath
      have hstep : d'.previousState = d.nextState := by
        have hright := hchain.right_of_append
        rw [List.isChain_cons_cons] at hright
        exact hright.1
      obtain ⟨machine', t, hm', -, -, -, hlive⟩ :=
        (hpath (pre.length + 1) d' (by simp)).2.2.2
      rw [hmachine] at hm'
      cases hm'
      exact hlive (hstep ▸ hterminal)

/-- What a client gets whose read is stale: a conflict, or the replay of its own command. -/
def Refused (s : Sys) (v : View) (d : TransitionDecision) (o : Outcome Answer StateError) : Prop :=
  o = .raised .versionConflict ∨ o = .raised .duplicateCommand ∨
    ∃ e ∈ s.applied, e.schema = v.schema ∧ e.tenantId = v.tenantId ∧
      e.decision.idempotencyKey = d.idempotencyKey ∧
      e.decision.requestDigest = d.requestDigest ∧
      o = .committed (.applied ⟨d, e.eventId, e.outboxId, true⟩)

/-- An aggregate that has moved on since it was read lets no decision of that read pass. -/
theorem Inv.refused (h : Inv c s) {i : ℕ} (hi : s.clients i = .decided v d)
    (hstale : TransitionClients.observe c s.db v.machineId v.schema v.tenantId v.aggregateId ≠
      (v.state, v.stateVersion)) (eventId outboxId : String) :
    (transact (body (call v d eventId outboxId none)) s.db).2 = s.db ∧
      Refused s v d (transact (body (call v d eventId outboxId none)) s.db).1 := by
  have hd := h.decisions i v d hi
  obtain ⟨hm, hview⟩ := h.views i v (by rw [hi]; rfl)
  obtain ⟨hlength, hstate⟩ := h.observe hm v.tenantId v.aggregateId
  -- the version read is behind the version stored
  have hlt : v.stateVersion < (s.history v.schema v.tenantId v.aggregateId).length := by
    have hle := (List.getElem?_eq_some_iff.1 hview).1
    rw [states_length] at hle
    rcases Nat.lt_or_ge v.stateVersion (s.history v.schema v.tenantId v.aggregateId).length with
      hlt | hge
    · exact hlt
    · exfalso
      have heq : v.stateVersion = (s.history v.schema v.tenantId v.aggregateId).length := by omega
      rw [hlength, ← heq, hview, Option.some.injEq] at hstate
      exact hstale (Prod.ext hstate.symm (by rw [hlength, heq]))
  have hne : s.history v.schema v.tenantId v.aggregateId ≠ [] := by
    intro hnil
    rw [hnil] at hlt
    exact absurd hlt (by simp)
  obtain ⟨row, hrow, hversion, hbound, -⟩ := h.present _ _ _ hne
  obtain ⟨key, hkey⟩ := hd.key
  cases hrec : (s.db.lookup (.idempotency v.schema v.tenantId key) : Option IdempotencyRow) with
  | some record =>
    by_cases hdigest : record.requestDigest = d.requestDigest
    · obtain ⟨e, he, hschema, htenant, hekey, hedigest, hevent, hout⟩ :=
        h.records _ _ _ record hrec
      have hrun : transact (body (call v d eventId outboxId none)) s.db =
          (.committed (.applied ⟨d, record.eventId, record.outboxId, true⟩), s.db) := by
        simp [transact, body, call, Call.body, applyTransition, hkey, exec, hrec, hdigest]
      rw [hrun, ← hevent, ← hout]
      exact ⟨rfl, Or.inr (Or.inr ⟨e, he, hschema, htenant, by rw [hekey, hkey],
        by rw [hedigest, hdigest], rfl⟩)⟩
    · have hrun : transact (body (call v d eventId outboxId none)) s.db =
          (.raised .duplicateCommand, s.db) := by
        simp [transact, body, call, Call.body, applyTransition, hkey, exec, hrec, hdigest]
      rw [hrun]
      exact ⟨rfl, Or.inr (Or.inl rfl)⟩
  | none =>
    have hrange : Bigint d.nextStateVersion := by
      rw [hd.nextStateVersion, Bigint]
      omega
    have hpos : ¬ d.nextStateVersion < 0 := by
      rw [hd.nextStateVersion]
      omega
    have hbehind : ¬ ((row.stateVersion : ℤ) = d.previousStateVersion) := by
      rw [hd.previousStateVersion, hversion]
      omega
    rw [← hd.aggregateId] at hrow
    have hrun : transact (body (call v d eventId outboxId none)) s.db =
        (.raised .versionConflict, s.db) := by
      simp [transact, body, call, Call.body, applyTransition, hkey, exec, hrec, applyFresh,
        upsertAggregate, hrange, hpos, hrow, replacement, hbehind]
    rw [hrun]
    exact ⟨rfl, Or.inl rfl⟩

/-- What holds in every state of a run. -/
structure Conforms (c : Contract) (s : Sys) : Prop where
  /-- The decisions applied to an aggregate form a path of its machine. -/
  follows : ∀ machineId schema tenantId aggregateId, ownerSchema machineId = some schema →
    Follows c machineId (s.history schema tenantId aggregateId)
      (observe c s.db machineId schema tenantId aggregateId)
  /-- A client whose read is stale changes nothing. -/
  stale : ∀ i v d eventId outboxId, s.clients i = .decided v d →
    observe c s.db v.machineId v.schema v.tenantId v.aggregateId ≠ (v.state, v.stateVersion) →
      (transact (body (call v d eventId outboxId none)) s.db).2 = s.db ∧
        Refused s v d (transact (body (call v d eventId outboxId none)) s.db).1

/-- **Under every interleaving of clients, applied decisions form a path of the machine, and a
stale client changes nothing.** -/
theorem conforms_reachable (c : Contract) (sha256 : String → String) {s : Sys}
    (h : Reachable (step c sha256) {} s) : Conforms c s := by
  have hinv := inv_reachable h
  exact ⟨fun _ _ tenantId aggregateId hm => hinv.follows hm tenantId aggregateId,
    fun _ _ _ eventId outboxId hi hstale => hinv.refused hi hstale eventId outboxId⟩

/-! ### A run with a stale client -/

/-- The kernel of the small contract. -/
def sampleKernel : Kernel :=
  match init sampleResource samplePredicates with
  | .ok kernel => kernel
  | .error _ => ⟨"", [], [], samplePredicates⟩

theorem init_sample : init sampleResource samplePredicates = .ok sampleKernel := by
  have hok : (init sampleResource samplePredicates).toOption.isSome = true := by decide +kernel
  unfold sampleKernel
  cases hk : init sampleResource samplePredicates with
  | error err => simp [hk, Except.toOption] at hok
  | ok kernel => rfl

theorem validated_sample :
    validateCatalog (match sampleCatalog with | .obj fields => fields | _ => [])
      [("components", .arr [.obj [("id", .str "CMP-ACTION-EXECUTOR")], .obj [("id", .str "CMP-SCHEDULER")]])] =
        .ok () := by
  decide +kernel

/-- The small contract with the components that its catalogue names. -/
def sampleContract : Contract where
  resource := sampleResource
  documents := sampleDocuments []
  catalog := match sampleCatalog with
    | .obj fields => fields
    | _ => []
  architecture := [("components", .arr [.obj [("id", .str "CMP-ACTION-EXECUTOR")],
    .obj [("id", .str "CMP-SCHEDULER")]])]
  predicates := samplePredicates
  kernel := sampleKernel
  documents_eq := rfl
  catalog_eq := rfl
  accepted := init_sample
  validated := validated_sample

/-- Two clients read the same action and decide its dispatch; the second one applies it late. -/
def lateClient : List Label :=
  [.read 0 "action_transaction" "tenant-a" "action-1",
    .read 1 "action_transaction" "tenant-a" "action-1",
    .decide 0 sampleDispatch, .decide 1 { sampleDispatch with idempotencyKey := some "key-2" },
    .apply 0 "evt-1" "out-1" none]

theorem conforms_late : ∃ s, Reachable (step sampleContract id) {} s ∧ Conforms sampleContract s ∧
    (s.history .actionOwner "tenant-a" "action-1").map TransitionDecision.nextState =
      ["EXECUTING"] ∧
    ∃ v d, s.clients 1 = .decided v d ∧
      observe sampleContract s.db v.machineId v.schema v.tenantId v.aggregateId ≠
        (v.state, v.stateVersion) := by
  obtain ⟨s, hs, hp⟩ := exists_reachable_of_test (step sampleContract id) lateClient (a := {})
    (p := fun s => (s.history .actionOwner "tenant-a" "action-1").map TransitionDecision.nextState =
        ["EXECUTING"] &&
      match s.clients 1 with
      | .decided v _ => observe sampleContract s.db v.machineId v.schema v.tenantId v.aggregateId !=
          (v.state, v.stateVersion)
      | _ => false)
    (by decide +kernel)
  rw [Bool.and_eq_true, decide_eq_true_eq] at hp
  obtain ⟨hhistory, hstale⟩ := hp
  split at hstale
  · rename_i v d hv
    exact ⟨s, hs, conforms_reachable sampleContract id hs, hhistory, v, d, hv, bne_iff_ne.1 hstale⟩
  · cases hstale

end TransitionClients
