/-
**The transition kernel.**

`faultwitness/state/kernel.py`: the pure interpreter of the compiled contract documents.  Its
constructor reads the four state machines and the catalogue of commands and events, and refuses
whatever is not closed: unknown components, states, commands, events or predicates.  A decision
then checks one request against one transition: owner, state, actor, command, versions, idempotency
key and every guard predicate, and names the state and the version that follow.

Documents are JSON values.  A missing key and a `null` are the same to the code, which reads with
`.get`.  A set display such as `{"required", "derived"}` hashes the value it is asked about, so a
list or a mapping in its place is a `TypeError` and not a rejection.

Main definitions:

* `TransitionKernel.Kernel`, `TransitionKernel.init` — the kernel and its constructor;
* `TransitionKernel.Kernel.decide` — deciding a request;
* `TransitionKernel.Kernel.service`, `TransitionKernel.Service.decide` — the view of one owner.

Main results:

* `TransitionKernel.decide_eq_ok` — all that a decision tells about its request, its transition and
  the machine;
* `TransitionKernel.transition_document` — every transition of an accepted machine comes from one
  of its document, field by field.
-/

import FaultWitness.Python

set_option autoImplicit false

namespace TransitionKernel

open Python

/-! ### Names and exceptions -/

/-- The machines and the components that own them. -/
def machineOwners : List (String × String) :=
  [("incident", "CMP-CONTROL-API"), ("runtime_task", "CMP-SCHEDULER"),
    ("agent_graph", "CMP-AGENT-WORKER"), ("action_transaction", "CMP-ACTION-EXECUTOR")]

def guardPrefix : String := "guard:"

def supportedContractsVersion : String := "1.1.0"

/-- Why a registry is refused; the arguments are the values that the messages show. -/
inductive RegistryFault
  | notString (field : String)
  | notMapping (field : String)
  | notStringSet (field : String)
  | notRegistry (kind : String)
  | duplicate (kind identifier : String)
  | contractsVersion (got : String)
  | idempotencyPolicy (commandId : String)
  | versionPolicy (commandId : String)
  | deliveryContract (eventId : String)
  | machineIdentity (machineId : String)
  | machineOwner (machineId expected : String)
  | terminalState (machineId : String)
  | notTransitions (machineId : String)
  | unknownActor (transitionId actor : String)
  | automatic (transitionId : String)
  | unknownState (transitionId : String)
  | unknownCommand (transitionId command : String)
  | unknownEvent (transitionId event : String)
  | preconditions (transitionId : String)
  | duplicatePrecondition (transitionId : String)
  | unboundCommands (commands : List String)
  | unboundEvents (events : List String)
  | predicateMismatch (missing unknown : List String)
  | unknownPredicate (name : String)
  | notBool (name : String)
  | preconditionList
deriving DecidableEq

/-- The exceptions of the kernel. -/
inductive KernelError
  | contractRegistry (fault : RegistryFault)
  | unknownMachine (machineId : String)
  | unknownTransition (machineId transitionId : String)
  | ownerMismatch (machineId got : String)
  | actorMismatch (transitionId expected got : String)
  | illegalTransition (transitionId state : String)
  | commandMismatch (transitionId expected got : String)
  | versionConflict (transitionId : String)
  | schemaVersion (expected got : String)
  | idempotency (command : String)
  | guardRejected (transitionId : String) (failedPredicates : List String)
  /-- Python's own `TypeError`, from hashing a list or a mapping. -/
  | typeError
  /-- An exception that a predicate raised. -/
  | predicateRaised (name : String)
deriving DecidableEq

/-! ### Reading documents -/

/-- The items of a mapping. -/
abbrev Fields := List (String × Json)

def mapping (value : Option Json) (field : String) : Except KernelError Fields :=
  match value with
  | some (.obj fields) => .ok fields
  | _ => .error (.contractRegistry (.notMapping field))

def nonemptyString (value : Option Json) (field : String) : Except KernelError String :=
  match value with
  | some (.str s) => if s = "" then .error (.contractRegistry (.notString field)) else .ok s
  | _ => .error (.contractRegistry (.notString field))

/-- Reading a list whose items are all non-empty strings. -/
def strings (field : String) : List Json → Except KernelError (List String)
  | [] => .ok []
  | item :: items =>
    match nonemptyString (some item) field with
    | .error err => .error err
    | .ok s =>
      match strings field items with
      | .error err => .error err
      | .ok ss => .ok (s :: ss)

def stringSet (value : Option Json) (field : String) : Except KernelError (List String) :=
  match value with
  | some (.arr (item :: items)) => do
    let ss ← strings field (item :: items)
    if ss.Nodup then .ok ss else .error (.contractRegistry (.notStringSet field))
  | _ => .error (.contractRegistry (.notStringSet field))

/-- The loop of `_index_registry`, with the entries read so far. -/
def indexItems (kind : String) (indexed : List (String × Fields)) :
    List Json → Except KernelError (List (String × Fields))
  | [] => .ok indexed
  | item :: items => do
    let entry ← mapping (some item) (kind ++ " registry item")
    let identifier ← nonemptyString (entry.lookup "id") (kind ++ ".id")
    if (indexed.lookup identifier).isSome then
      .error (.contractRegistry (.duplicate kind identifier))
    else indexItems kind (indexed ++ [(identifier, entry)]) items

def indexRegistry (value : Option Json) (kind : String) :
    Except KernelError (List (String × Fields)) :=
  match value with
  | some (.arr items) => indexItems kind [] items
  | _ => .error (.contractRegistry (.notRegistry kind))

/-- A value that Python can hash. -/
def hashable : Option Json → Bool
  | some (.arr _) => false
  | some (.obj _) => false
  | _ => true

/-! ### Commands and events -/

inductive IdempotencyPolicy
  | required
  | derived
  | notApplicable
deriving DecidableEq, Repr

inductive VersionCheck
  | stateVersion
  | fencingToken
  | digestAndStateVersion
deriving DecidableEq, Repr

/-- What the kernel reads of a command. -/
structure Command where
  owner : String
  idempotency : IdempotencyPolicy
  versionCheck : VersionCheck
deriving DecidableEq

/-- The members of the set of idempotency policies. -/
def idempotencyPolicy (commandId : String) (value : Option Json) :
    Except KernelError IdempotencyPolicy :=
  if hashable value then
    if value = some (.str "required") then .ok .required
    else if value = some (.str "derived") then .ok .derived
    else if value = some (.str "not_applicable") then .ok .notApplicable
    else .error (.contractRegistry (.idempotencyPolicy commandId))
  else .error .typeError

/-- The members of the set of version policies. -/
def versionPolicy (commandId : String) (value : Option Json) : Except KernelError VersionCheck :=
  if hashable value then
    if value = some (.str "state_version") then .ok .stateVersion
    else if value = some (.str "fencing_token") then .ok .fencingToken
    else if value = some (.str "digest_and_state_version") then .ok .digestAndStateVersion
    else .error (.contractRegistry (.versionPolicy commandId))
  else .error .typeError

def readCommand (command : String × Fields) : Except KernelError (String × Command) := do
  let owner ← nonemptyString (command.2.lookup "owner") (command.1 ++ ".owner")
  let idempotency ← idempotencyPolicy command.1 (command.2.lookup "idempotency")
  let versionCheck ← versionPolicy command.1 (command.2.lookup "version_check")
  .ok (command.1, ⟨owner, idempotency, versionCheck⟩)

/-- An event is checked, and only its producer is used. -/
def readEvent (event : String × Fields) : Except KernelError (String × String) := do
  let producer ← nonemptyString (event.2.lookup "producer") (event.1 ++ ".producer")
  if event.2.lookup "delivery" = some (.str "at_least_once") ∧
      event.2.lookup "dedupe_key" = some (.str "event_id") then .ok (event.1, producer)
  else .error (.contractRegistry (.deliveryContract event.1))

/-! ### Machines -/

/-- A transition of a machine, with the guard predicate that belongs to it. -/
structure Transition where
  id : String
  source : String
  target : String
  actor : String
  command : String
  event : String
  automatic : Bool
  guardPredicate : String
  preconditions : List String
deriving DecidableEq

structure Machine where
  machineId : String
  ownerComponent : String
  states : List String
  terminalStates : List String
  transitions : List (String × Transition)
deriving DecidableEq

/-- What the constructor knows when it reads the machines. -/
structure Catalog where
  commands : List (String × Command)
  events : List (String × String)

/-- The components that may act. -/
def Catalog.knownComponents (c : Catalog) : List String :=
  c.commands.map (fun command => command.2.owner) ++ c.events.map Prod.snd ++
    machineOwners.map Prod.snd

/-- The value of `automatic`, which has to be a `bool`. -/
def boolean (value : Option Json) (transitionId : String) : Except KernelError Bool :=
  match value with
  | some (.bool b) => .ok b
  | _ => .error (.contractRegistry (.automatic transitionId))

/-- The precondition names: a non-empty list of different non-empty strings. -/
def predicateNames (value : Option Json) (transitionId : String) :
    Except KernelError (List String) :=
  match value with
  | some (.arr (item :: items)) => do
    let names ← strings (transitionId ++ ".precondition") (item :: items)
    if names.Nodup then .ok names
    else .error (.contractRegistry (.duplicatePrecondition transitionId))
  | _ => .error (.contractRegistry (.preconditions transitionId))

/-- One transition of a machine document; `seen` are the transitions before it. -/
def readTransition (c : Catalog) (machineId : String) (states : List String)
    (seen : List (String × Transition)) (raw : Json) : Except KernelError Transition := do
  let transition ← mapping (some raw) (machineId ++ ".transition")
  let transitionId ← nonemptyString (transition.lookup "id") "transition.id"
  if (seen.lookup transitionId).isSome then
    throw (.contractRegistry (.duplicate "transition" transitionId))
  let actor ← nonemptyString (transition.lookup "actor") (transitionId ++ ".actor")
  if actor ∉ c.knownComponents then
    throw (.contractRegistry (.unknownActor transitionId actor))
  let _guard ← nonemptyString (transition.lookup "guard") (transitionId ++ ".guard")
  let automatic ← boolean (transition.lookup "automatic") transitionId
  let source ← nonemptyString (transition.lookup "from") (transitionId ++ ".from")
  let target ← nonemptyString (transition.lookup "to") (transitionId ++ ".to")
  if source ∉ states ∨ target ∉ states then
    throw (.contractRegistry (.unknownState transitionId))
  let command ← nonemptyString (transition.lookup "command") (transitionId ++ ".command")
  let event ← nonemptyString (transition.lookup "event") (transitionId ++ ".event")
  if (c.commands.lookup command).isNone then
    throw (.contractRegistry (.unknownCommand transitionId command))
  if (c.events.lookup event).isNone then
    throw (.contractRegistry (.unknownEvent transitionId event))
  let preconditions ← predicateNames (transition.lookup "preconditions") transitionId
  return { id := transitionId, source, target, actor, command, event, automatic,
           guardPredicate := guardPrefix ++ transitionId, preconditions }

/-- The loop over the transitions of a machine. -/
def readTransitions (c : Catalog) (machineId : String) (states : List String)
    (seen : List (String × Transition)) : List Json → Except KernelError (List (String × Transition))
  | [] => .ok seen
  | raw :: raws =>
    match readTransition c machineId states seen raw with
    | .error err => .error err
    | .ok t => readTransitions c machineId states (seen ++ [(t.id, t)]) raws

def transitionList (value : Option Json) (machineId : String) : Except KernelError (List Json) :=
  match value with
  | some (.arr raws) => .ok raws
  | _ => .error (.contractRegistry (.notTransitions machineId))

/-- One machine document. -/
def readMachine (c : Catalog) (documents : Fields) (machineId expectedOwner : String) :
    Except KernelError Machine := do
  let raw ← mapping (documents.lookup ("state_machine." ++ machineId))
    ("state_machine." ++ machineId)
  if raw.lookup "id" ≠ some (.str machineId) then
    throw (.contractRegistry (.machineIdentity machineId))
  if raw.lookup "owner_component" ≠ some (.str expectedOwner) then
    throw (.contractRegistry (.machineOwner machineId expectedOwner))
  let states ← stringSet (raw.lookup "states") (machineId ++ ".states")
  let terminalStates ← stringSet (raw.lookup "terminal_states") (machineId ++ ".terminal_states")
  if ¬ ∀ state ∈ terminalStates, state ∈ states then
    throw (.contractRegistry (.terminalState machineId))
  let rawTransitions ← transitionList (raw.lookup "transitions") machineId
  let transitions ← readTransitions c machineId states [] rawTransitions
  return { machineId, ownerComponent := expectedOwner, states, terminalStates, transitions }

/-! ### Requests, decisions and predicates -/

/-- All inputs of one decision.  The last field is the check of `__post_init__`; the versions are
non-negative by their type. -/
structure TransitionRequest where
  machineId : String
  transitionId : String
  ownerComponent : String
  actor : String
  aggregateId : String
  state : String
  stateVersion : ℕ
  command : String
  schemaVersion : String := "1.1.0"
  expectedStateVersion : Option ℕ := none
  idempotencyKey : Option String := none
  reservedRequestDigest : Option String := none
  currentFencingToken : Option String := none
  fencingToken : Option String := none
  currentActionDigest : Option String := none
  actionDigest : Option String := none
  facts : Option Fields := none
  required_strings : "" ∉ [machineId, transitionId, ownerComponent, actor, aggregateId, state,
    command, schemaVersion] := by decide

structure TransitionDecision where
  machineId : String
  ownerComponent : String
  transitionId : String
  actor : String
  aggregateId : String
  previousState : String
  nextState : String
  previousStateVersion : ℤ
  nextStateVersion : ℤ
  command : String
  event : String
  schemaVersion : String
  automatic : Bool
  idempotencyKey : Option String
  requestDigest : String
  evaluatedPredicates : List String
  decisionDigest : String
deriving DecidableEq

/-- What calling a predicate comes to. -/
inductive PredicateResult
  | bool (b : Bool)
  /-- A result that is not a `bool`. -/
  | other
  | raises

abbrev Predicate := TransitionRequest → PredicateResult

/-- The closed registry of guard predicates.  Their names are not empty. -/
structure PredicateRegistry where
  predicates : List (String × Predicate)
  nonempty : "" ∉ predicates.map Prod.fst

def PredicateRegistry.names (registry : PredicateRegistry) : List String :=
  registry.predicates.map Prod.fst

/-- The predicate of `fact_registry`: only the fact `True` counts. -/
def factPredicate (name : String) : Predicate := fun request =>
  .bool ((request.facts.getD []).lookup name = some (.bool true))

def PredicateRegistry.factRegistry (names : List String) (h : "" ∉ names) : PredicateRegistry where
  predicates := names.map fun name => (name, factPredicate name)
  nonempty := by simpa using h

def PredicateRegistry.evaluate (registry : PredicateRegistry) (name : String)
    (request : TransitionRequest) : Except KernelError Bool :=
  match registry.predicates.lookup name with
  | none => .error (.contractRegistry (.unknownPredicate name))
  | some predicate =>
    match predicate request with
    | .bool b => .ok b
    | .other => .error (.contractRegistry (.notBool name))
    | .raises => .error (.predicateRaised name)

/-- The names of the predicates that do not hold, in their order. -/
def PredicateRegistry.failing (registry : PredicateRegistry) (request : TransitionRequest) :
    List String → Except KernelError (List String)
  | [] => .ok []
  | name :: names =>
    match registry.evaluate name request with
    | .error err => .error err
    | .ok b =>
      match registry.failing request names with
      | .error err => .error err
      | .ok failed => .ok (if b then failed else name :: failed)

/-! ### The kernel -/

structure Kernel where
  contractsVersion : String
  commands : List (String × Command)
  machines : List (String × Machine)
  predicates : PredicateRegistry

/-- The predicates that the transitions of the machines use. -/
def usedPredicates (machines : List (String × Machine)) : List String :=
  machines.flatMap fun machine => machine.2.transitions.flatMap fun t =>
    t.2.guardPredicate :: t.2.preconditions

def usedCommands (machines : List (String × Machine)) : List String :=
  machines.flatMap fun machine => machine.2.transitions.map fun t => t.2.command

def usedEvents (machines : List (String × Machine)) : List String :=
  machines.flatMap fun machine => machine.2.transitions.map fun t => t.2.event

/-- Reading the machines of a list of owners, in order. -/
def readMachines (c : Catalog) (documents : Fields) :
    List (String × String) → Except KernelError (List (String × Machine))
  | [] => .ok []
  | (machineId, owner) :: owners =>
    match readMachine c documents machineId owner with
    | .error err => .error err
    | .ok machine =>
      match readMachines c documents owners with
      | .error err => .error err
      | .ok machines => .ok ((machineId, machine) :: machines)

/-- The names of one list that are missing from another. -/
def difference (names others : List String) : List String :=
  (names.dedup.filter fun name => name ∉ others).insertionSort (· ≤ ·)

/-- The constructor `TransitionKernel.__init__`. -/
def init (resource : Fields) (predicates : PredicateRegistry) : Except KernelError Kernel := do
  let contractsVersion ← nonemptyString (resource.lookup "contracts_version")
    "resource.contracts_version"
  if contractsVersion ≠ supportedContractsVersion then
    throw (.contractRegistry (.contractsVersion contractsVersion))
  let documents ← mapping (resource.lookup "documents") "resource.documents"
  let catalog ← mapping (documents.lookup "commands_events") "commands_events"
  let rawCommands ← indexRegistry (catalog.lookup "commands") "command"
  let rawEvents ← indexRegistry (catalog.lookup "events") "event"
  let commands ← rawCommands.mapM readCommand
  let events ← rawEvents.mapM readEvent
  let machines ← readMachines ⟨commands, events⟩ documents machineOwners
  let unboundCommands := difference (commands.map Prod.fst) (usedCommands machines)
  if unboundCommands ≠ [] then
    throw (.contractRegistry (.unboundCommands unboundCommands))
  let unboundEvents := difference (events.map Prod.fst) (usedEvents machines)
  if unboundEvents ≠ [] then
    throw (.contractRegistry (.unboundEvents unboundEvents))
  let missing := difference (usedPredicates machines) predicates.names
  let unknown := difference predicates.names (usedPredicates machines)
  if missing ≠ [] ∨ unknown ≠ [] then
    throw (.contractRegistry (.predicateMismatch missing unknown))
  return { contractsVersion, commands, machines, predicates }

namespace Kernel

variable (sha256 : String → String)

/-- A text or version that may be missing, as JSON. -/
def optInt : Option ℕ → Json
  | some n => .int n
  | none => .null

/-- The digest of a document. -/
def digest (document : Fields) : String := sha256 (Json.obj document).dumps

def checkVersions (request : TransitionRequest) (t : Transition) (command : Command) :
    Except KernelError Unit := do
  let requiresState := command.versionCheck = .stateVersion ∨
    command.versionCheck = .digestAndStateVersion ∨ "expected_state_version" ∈ t.preconditions
  if requiresState ∧ request.expectedStateVersion ≠ some request.stateVersion then
    throw (.versionConflict request.transitionId)
  match command.versionCheck with
  | .fencingToken =>
    if request.currentFencingToken.getD "" = "" ∨
        request.fencingToken ≠ request.currentFencingToken then
      throw (.versionConflict request.transitionId)
  | .digestAndStateVersion =>
    if request.currentActionDigest.getD "" = "" ∨
        request.actionDigest ≠ request.currentActionDigest then
      throw (.versionConflict request.transitionId)
  | .stateVersion => pure ()

/-- The key under which the decision is to be recorded. -/
def idempotencyKey (request : TransitionRequest) (command : Command) :
    Except KernelError (Option String) :=
  match command.idempotency, request.idempotencyKey with
  | .required, some supplied =>
    if supplied = "" then .error (.idempotency request.command) else .ok (some supplied)
  | .required, none => .error (.idempotency request.command)
  | .derived, some _ => .error (.idempotency request.command)
  | .derived, none =>
    .ok (some ("derived:" ++ digest sha256
      [("aggregate_id", .str request.aggregateId), ("command", .str request.command),
        ("machine_id", .str request.machineId), ("state_version", .int request.stateVersion),
        ("transition_id", .str request.transitionId)]))
  | .notApplicable, some _ => .error (.idempotency request.command)
  | .notApplicable, none => .ok none

def requestDigest (request : TransitionRequest) (idempotencyKey : Option String)
    (predicateOrder : List String) : String :=
  digest sha256
    [("action_digest", .optStr request.actionDigest), ("actor", .str request.actor),
      ("aggregate_id", .str request.aggregateId), ("command", .str request.command),
      ("expected_state_version", optInt request.expectedStateVersion),
      ("fencing_token", .optStr request.fencingToken),
      ("idempotency_key", .optStr idempotencyKey), ("machine_id", .str request.machineId),
      ("owner_component", .str request.ownerComponent),
      ("predicates", .arr (predicateOrder.map .str)),
      ("schema_version", .str request.schemaVersion), ("state", .str request.state),
      ("state_version", .int request.stateVersion), ("transition_id", .str request.transitionId)]

/-- The decision on an admitted request, with the digest of all its other fields. -/
def decision (contractsVersion : String) (machine : Machine) (t : Transition)
    (request : TransitionRequest) (key : Option String) (requestDigest : String)
    (predicateOrder : List String) : TransitionDecision :=
  { machineId := request.machineId
    ownerComponent := machine.ownerComponent
    transitionId := request.transitionId
    actor := request.actor
    aggregateId := request.aggregateId
    previousState := request.state
    nextState := t.target
    previousStateVersion := request.stateVersion
    nextStateVersion := request.stateVersion + 1
    command := request.command
    event := t.event
    schemaVersion := contractsVersion
    automatic := t.automatic
    idempotencyKey := key
    requestDigest := requestDigest
    evaluatedPredicates := predicateOrder
    decisionDigest := digest sha256
      [("actor", .str request.actor), ("aggregate_id", .str request.aggregateId),
        ("automatic", .bool t.automatic), ("command", .str request.command),
        ("evaluated_predicates", .arr (predicateOrder.map .str)), ("event", .str t.event),
        ("idempotency_key", .optStr key), ("machine_id", .str request.machineId),
        ("next_state", .str t.target), ("next_state_version", .int (request.stateVersion + 1)),
        ("owner_component", .str machine.ownerComponent), ("previous_state", .str request.state),
        ("previous_state_version", .int request.stateVersion),
        ("request_digest", .str requestDigest), ("schema_version", .str contractsVersion),
        ("transition_id", .str request.transitionId)] }

/-- Deciding a request. -/
def decide (k : Kernel) (request : TransitionRequest) : Except KernelError TransitionDecision := do
  if request.schemaVersion ≠ k.contractsVersion then
    throw (.schemaVersion k.contractsVersion request.schemaVersion)
  let some machine := k.machines.lookup request.machineId |
    throw (.unknownMachine request.machineId)
  if request.ownerComponent ≠ machine.ownerComponent then
    throw (.ownerMismatch request.machineId request.ownerComponent)
  let some t := machine.transitions.lookup request.transitionId |
    throw (.unknownTransition request.machineId request.transitionId)
  if request.state ∈ machine.terminalStates then
    throw (.illegalTransition request.machineId request.state)
  if request.state ≠ t.source then
    throw (.illegalTransition request.transitionId request.state)
  if request.actor ≠ t.actor then
    throw (.actorMismatch request.transitionId t.actor request.actor)
  if request.command ≠ t.command then
    throw (.commandMismatch request.transitionId t.command request.command)
  -- the constructor admits only transitions of known commands, so the lookup does not fail
  let some command := k.commands.lookup request.command |
    throw (.contractRegistry (.unknownCommand request.transitionId request.command))
  checkVersions request t command
  let key ← idempotencyKey sha256 request command
  let predicateOrder := t.guardPredicate :: t.preconditions
  let failed ← k.predicates.failing request predicateOrder
  if failed ≠ [] then
    throw (.guardRejected request.transitionId failed)
  let digest := requestDigest sha256 request key predicateOrder
  if request.reservedRequestDigest.isSome ∧ request.reservedRequestDigest ≠ some digest then
    throw (.idempotency request.command)
  return decision sha256 k.contractsVersion machine t request key digest predicateOrder

end Kernel

/-- The view of one owner, which cannot be rebound to another. -/
structure Service where
  kernel : Kernel
  machineId : String
  ownerComponent : String

def Kernel.service (k : Kernel) (machineId : String) : Except KernelError Service :=
  match k.machines.lookup machineId with
  | some machine => .ok ⟨k, machine.machineId, machine.ownerComponent⟩
  | none => .error (.unknownMachine machineId)

def Service.decide (sha256 : String → String) (service : Service) (request : TransitionRequest) :
    Except KernelError TransitionDecision :=
  if request.machineId ≠ service.machineId then
    .error (.ownerMismatch service.machineId request.machineId)
  else if request.ownerComponent ≠ service.ownerComponent then
    .error (.ownerMismatch service.machineId request.ownerComponent)
  else service.kernel.decide sha256 request

/-! ### What a decision tells -/

variable {request : TransitionRequest} {names : List String}

/-- Nothing fails exactly when every predicate evaluates to true. -/
theorem failing_eq_nil {registry : PredicateRegistry}
    (h : registry.failing request names = .ok []) :
    ∀ name ∈ names, registry.evaluate name request = .ok true := by
  induction names with
  | nil =>
    intro name hname
    cases hname
  | cons first names ih =>
    simp only [PredicateRegistry.failing] at h
    split at h
    · cases h
    · rename_i b hb
      split at h
      · cases h
      · rename_i failed hf
        cases b with
        | false => simp at h
        | true =>
          simp only [if_true, Except.ok.injEq] at h
          subst h
          intro name hname
          rcases List.mem_cons.1 hname with rfl | hname
          · exact hb
          · exact ih hf name hname

/-- All that a decision tells about the request, the machine and the transition. -/
structure Decided (sha256 : String → String) (k : Kernel) (request : TransitionRequest)
    (machine : Machine) (t : Transition) (command : Command) (d : TransitionDecision) : Prop where
  schema : request.schemaVersion = k.contractsVersion
  machine_eq : k.machines.lookup request.machineId = some machine
  owner : request.ownerComponent = machine.ownerComponent
  transition_eq : machine.transitions.lookup request.transitionId = some t
  live : request.state ∉ machine.terminalStates
  source : request.state = t.source
  actor : request.actor = t.actor
  commanded : request.command = t.command
  command_eq : k.commands.lookup request.command = some command
  versions : Kernel.checkVersions request t command = .ok ()
  key : Kernel.idempotencyKey sha256 request command = .ok d.idempotencyKey
  guards : ∀ name ∈ t.guardPredicate :: t.preconditions,
    k.predicates.evaluate name request = .ok true
  decision : d = Kernel.decision sha256 k.contractsVersion machine t request d.idempotencyKey
    d.requestDigest (t.guardPredicate :: t.preconditions)
  digest : d.requestDigest = Kernel.requestDigest sha256 request d.idempotencyKey
    (t.guardPredicate :: t.preconditions)

variable {k : Kernel} {sha256 : String → String} {d : TransitionDecision}

/-- **A decision is made for one transition of the machine, under all its conditions.** -/
theorem decide_eq_ok (h : k.decide sha256 request = .ok d) :
    ∃ machine t command, Decided sha256 k request machine t command d := by
  unfold Kernel.decide at h
  simp only [bind, Except.bind, pure, Except.pure, throw, throwThe, MonadExceptOf.throw] at h
  split at h
  · cases h
  rename_i hschema
  split at h
  case h_2 => cases h
  rename_i machine hmachine
  split at h
  · cases h
  rename_i howner
  split at h
  case h_2 => cases h
  rename_i t ht
  split at h
  · cases h
  rename_i hlive
  split at h
  · cases h
  rename_i hsource
  split at h
  · cases h
  rename_i hactor
  split at h
  · cases h
  rename_i hcommand
  split at h
  case h_2 => cases h
  rename_i command hlookup
  split at h
  · cases h
  rename_i hversions
  split at h
  · cases h
  rename_i key hkey
  split at h
  · cases h
  rename_i failed hfailed
  split at h
  · cases h
  rename_i hnone
  split at h
  · cases h
  cases h
  obtain rfl : failed = [] := not_not.1 hnone
  exact ⟨machine, t, command, not_not.1 hschema, hmachine, not_not.1 howner, ht, hlive,
    not_not.1 hsource, not_not.1 hactor, not_not.1 hcommand, hlookup, hversions, hkey,
    failing_eq_nil hfailed, rfl, rfl⟩

variable {machineId : String}

theorem service_decide_eq_ok {service : Service} (hs : k.service machineId = .ok service)
    (h : service.decide sha256 request = .ok d) :
    k.decide sha256 request = .ok d ∧
      ∃ machine, k.machines.lookup machineId = some machine ∧
        request.machineId = machine.machineId := by
  unfold Kernel.service at hs
  split at hs
  · rename_i machine hm
    cases hs
    unfold Service.decide at h
    split at h
    · cases h
    rename_i hid
    split at h
    · cases h
    exact ⟨h, machine, hm, not_not.1 hid⟩
  · cases hs

/-! ### What an accepted document tells -/

variable {value : Option Json} {field : String}

theorem nonemptyString_eq_ok {s : String} (h : nonemptyString value field = .ok s) :
    value = some (.str s) := by
  unfold nonemptyString at h
  split at h
  · split at h
    · cases h
    · cases h
      rfl
  · cases h

theorem mapping_eq_ok {fields : Fields} (h : mapping value field = .ok fields) :
    value = some (.obj fields) := by
  unfold mapping at h
  split at h
  · cases h
    rfl
  · cases h

theorem strings_eq_ok {items : List Json} {ss : List String} (h : strings field items = .ok ss) :
    items = ss.map .str := by
  induction items generalizing ss with
  | nil =>
    cases h
    rfl
  | cons item items ih =>
    simp only [strings] at h
    split at h
    · cases h
    · rename_i s hs
      split at h
      · cases h
      · rename_i rest hrest
        cases h
        rw [ih hrest]
        have := nonemptyString_eq_ok hs
        simpa using this

/-- A transition agrees with its document. -/
structure Transition.Reads (t : Transition) (fields : Fields) : Prop where
  id : fields.lookup "id" = some (.str t.id)
  source : fields.lookup "from" = some (.str t.source)
  target : fields.lookup "to" = some (.str t.target)
  actor : fields.lookup "actor" = some (.str t.actor)
  command : fields.lookup "command" = some (.str t.command)
  event : fields.lookup "event" = some (.str t.event)
  automatic : fields.lookup "automatic" = some (.bool t.automatic)
  preconditions : fields.lookup "preconditions" = some (.arr (t.preconditions.map .str))

variable {transitionId : String}

theorem boolean_eq_ok {b : Bool} (h : boolean value transitionId = .ok b) :
    value = some (.bool b) := by
  unfold boolean at h
  split at h
  · cases h
    rfl
  · cases h

theorem predicateNames_eq_ok (h : predicateNames value transitionId = .ok names) :
    value = some (.arr (names.map .str)) := by
  unfold predicateNames at h
  split at h
  · simp only [bind, Except.bind] at h
    split at h
    · cases h
    · rename_i ss hss
      split at h
      · cases h
        rw [strings_eq_ok hss]
      · cases h
  · cases h

variable {c : Catalog} {states : List String} {seen : List (String × Transition)}

theorem readTransition_eq_ok {raw : Json} {t : Transition}
    (h : readTransition c machineId states seen raw = .ok t) :
    ∃ fields, raw = .obj fields ∧ t.Reads fields := by
  unfold readTransition at h
  simp only [bind, Except.bind, pure, Except.pure, throw, throwThe, MonadExceptOf.throw] at h
  split at h
  · cases h
  rename_i fields hfields
  split at h
  · cases h
  rename_i hid
  split at h
  · cases h
  split at h
  · cases h
  rename_i hactor
  split at h
  · cases h
  split at h
  · cases h
  split at h
  · cases h
  rename_i hautomatic
  split at h
  · cases h
  rename_i hsource
  split at h
  · cases h
  rename_i htarget
  split at h
  · cases h
  split at h
  · cases h
  rename_i hcommand
  split at h
  · cases h
  rename_i hevent
  split at h
  · cases h
  split at h
  · cases h
  split at h
  · cases h
  rename_i hpre
  cases h
  refine ⟨fields, by simpa using mapping_eq_ok hfields, ?_⟩
  exact ⟨nonemptyString_eq_ok hid, nonemptyString_eq_ok hsource, nonemptyString_eq_ok htarget,
    nonemptyString_eq_ok hactor, nonemptyString_eq_ok hcommand, nonemptyString_eq_ok hevent,
    boolean_eq_ok hautomatic, predicateNames_eq_ok hpre⟩

/-- Each transition of the index is one from before or comes from a document of the list. -/
theorem readTransitions_eq_ok {ts : List (String × Transition)} {raws : List Json}
    (h : readTransitions c machineId states seen raws = .ok ts) {p : String × Transition}
    (hp : p ∈ ts) : p ∈ seen ∨ ∃ fields, .obj fields ∈ raws ∧ p.2.Reads fields := by
  induction raws generalizing seen with
  | nil =>
    cases h
    exact Or.inl hp
  | cons raw raws ih =>
    simp only [readTransitions] at h
    split at h
    · cases h
    · rename_i t ht
      obtain ⟨fields, rfl, hreads⟩ := readTransition_eq_ok ht
      rcases ih h with hseen | ⟨fields', hmem, hr⟩
      · rcases List.mem_append.1 hseen with hseen | hlast
        · exact Or.inl hseen
        · rw [List.mem_singleton] at hlast
          exact Or.inr ⟨fields, List.mem_cons_self, by rwa [hlast]⟩
      · exact Or.inr ⟨fields', List.mem_cons_of_mem _ hmem, hr⟩

theorem mem_of_lookup {α : Type} {entries : List (String × α)} {key : String} {a : α}
    (h : entries.lookup key = some a) : (key, a) ∈ entries := by
  induction entries with
  | nil => cases h
  | cons entry entries ih =>
    obtain ⟨first, b⟩ := entry
    rw [List.lookup_cons] at h
    split at h
    · rename_i heq
      cases h
      rw [LawfulBEq.eq_of_beq heq]
      exact List.mem_cons_self
    · exact List.mem_cons_of_mem _ (ih h)

/-- An accepted machine agrees with its document. -/
structure Machine.Reads (machine : Machine) (documents : Fields) (raw : Fields) (raws : List Json) :
    Prop where
  document : documents.lookup ("state_machine." ++ machine.machineId) = some (.obj raw)
  transitions : raw.lookup "transitions" = some (.arr raws)
  reads : ∀ p ∈ machine.transitions, ∃ fields, .obj fields ∈ raws ∧ p.2.Reads fields

variable {documents : Fields} {p : String × Command} {predicates : PredicateRegistry}

theorem readMachine_eq_ok {owner : String} {machine : Machine}
    (h : readMachine c documents machineId owner = .ok machine) :
    machine.machineId = machineId ∧ ∃ raw raws, machine.Reads documents raw raws := by
  unfold readMachine at h
  simp only [bind, Except.bind, pure, Except.pure, throw, throwThe, MonadExceptOf.throw] at h
  split at h
  · cases h
  rename_i raw hraw
  split at h
  · cases h
  split at h
  · cases h
  split at h
  · cases h
  split at h
  · cases h
  split at h
  · cases h
  split at h
  · cases h
  rename_i raws hraws
  split at h
  · cases h
  rename_i ts hts
  cases h
  refine ⟨rfl, raw, raws, mapping_eq_ok hraw, ?_, fun p hp => ?_⟩
  · unfold transitionList at hraws
    split at hraws
    · rename_i hlookup
      cases hraws
      exact hlookup
    · cases hraws
  · rcases readTransitions_eq_ok hts hp with hnil | hreads
    · cases hnil
    · exact hreads

theorem readMachines_eq_ok {owners : List (String × String)} {machines : List (String × Machine)}
    (h : readMachines c documents owners = .ok machines) {p : String × Machine}
    (hp : p ∈ machines) : p.2.machineId = p.1 ∧ ∃ raw raws, p.2.Reads documents raw raws := by
  induction owners generalizing machines with
  | nil =>
    cases h
    cases hp
  | cons owner owners ih =>
    simp only [readMachines] at h
    split at h
    · cases h
    · rename_i machine hmachine
      split at h
      · cases h
      · rename_i rest hrest
        cases h
        rcases List.mem_cons.1 hp with rfl | hp
        · exact readMachine_eq_ok hmachine
        · exact ih hrest hp

/-- Each entry of an index comes from an item of the registry. -/
theorem indexItems_eq_ok {kind : String} {indexed entries : List (String × Fields)}
    {items : List Json} (h : indexItems kind indexed items = .ok entries) {p : String × Fields}
    (hp : p ∈ entries) : p ∈ indexed ∨ .obj p.2 ∈ items := by
  induction items generalizing indexed with
  | nil =>
    cases h
    exact Or.inl hp
  | cons item items ih =>
    obtain ⟨entry, hentry, h⟩ := bind_eq_ok.1 h
    obtain ⟨identifier, -, h⟩ := bind_eq_ok.1 h
    have hitem : item = .obj entry := by simpa using mapping_eq_ok hentry
    split at h
    · cases h
    · rcases ih h with hin | hin
      · rcases List.mem_append.1 hin with hin | hlast
        · exact Or.inl hin
        · rw [List.mem_singleton] at hlast
          exact Or.inr (by rw [hlast, hitem]; exact List.mem_cons_self)
      · exact Or.inr (List.mem_cons_of_mem _ hin)

theorem readCommands_eq_ok {raws : List (String × Fields)} {commands : List (String × Command)}
    (h : raws.mapM readCommand = .ok commands) (hp : p ∈ commands) :
    ∃ raw ∈ raws, readCommand raw = .ok p := by
  induction raws generalizing commands with
  | nil =>
    rw [List.mapM_nil] at h
    cases h
    cases hp
  | cons raw raws ih =>
    rw [List.mapM_cons] at h
    obtain ⟨first, hfirst, h⟩ := bind_eq_ok.1 h
    obtain ⟨rest, hrest, h⟩ := bind_eq_ok.1 h
    cases h
    rcases List.mem_cons.1 hp with rfl | hp
    · exact ⟨raw, List.mem_cons_self, hfirst⟩
    · obtain ⟨raw', hraw', hread⟩ := ih hrest hp
      exact ⟨raw', List.mem_cons_of_mem _ hraw', hread⟩

/-- A command whose key is not applicable says so in its entry. -/
theorem readCommand_notApplicable {raw : String × Fields} (h : readCommand raw = .ok p)
    (hp : p.2.idempotency = .notApplicable) :
    raw.2.lookup "idempotency" = some (.str "not_applicable") := by
  unfold readCommand at h
  obtain ⟨owner, -, h⟩ := bind_eq_ok.1 h
  obtain ⟨idempotency, hid, h⟩ := bind_eq_ok.1 h
  obtain ⟨version, -, h⟩ := bind_eq_ok.1 h
  cases h
  obtain rfl : idempotency = .notApplicable := hp
  unfold idempotencyPolicy at hid
  split at hid
  · split at hid
    · cases hid
    · split at hid
      · cases hid
      · split at hid
        · assumption
        · cases hid
  · cases hid

theorem init_eq_ok {resource : Fields} (h : init resource predicates = .ok k) :
    k.predicates = predicates ∧ ∃ documents catalog rawCommands events,
      resource.lookup "documents" = some (.obj documents) ∧
      documents.lookup "commands_events" = some (.obj catalog) ∧
      indexRegistry (catalog.lookup "commands") "command" = .ok rawCommands ∧
      rawCommands.mapM readCommand = .ok k.commands ∧
      readMachines ⟨k.commands, events⟩ documents machineOwners = .ok k.machines := by
  unfold init at h
  simp only [bind, Except.bind, pure, Except.pure, throw, throwThe, MonadExceptOf.throw] at h
  split at h
  · cases h
  split at h
  · cases h
  split at h
  · cases h
  rename_i documents hdocuments
  split at h
  · cases h
  rename_i catalog hcatalog
  split at h
  · cases h
  rename_i rawCommands hraw
  split at h
  · cases h
  split at h
  · cases h
  rename_i commands hcommands
  split at h
  · cases h
  rename_i events hevents
  split at h
  · cases h
  rename_i machines hmachines
  split at h
  · cases h
  split at h
  · cases h
  split at h
  · cases h
  cases h
  exact ⟨rfl, documents, catalog, rawCommands, events, mapping_eq_ok hdocuments,
    mapping_eq_ok hcatalog, hraw, hcommands, hmachines⟩

/-- **Every transition of an accepted machine comes from one of its document.** -/
theorem transition_document {resource : Fields} (h : init resource predicates = .ok k)
    (hdocuments : resource.lookup "documents" = some (.obj documents)) {machine : Machine}
    (hm : k.machines.lookup machineId = some machine) {id : String} {t : Transition}
    (ht : machine.transitions.lookup id = some t) :
    ∃ raw raws fields, documents.lookup ("state_machine." ++ machineId) = some (.obj raw) ∧
      raw.lookup "transitions" = some (.arr raws) ∧ .obj fields ∈ raws ∧ t.Reads fields := by
  obtain ⟨-, documents', catalog, rawCommands, events, hd, -, -, -, hmachines⟩ := init_eq_ok h
  obtain rfl : documents' = documents := by
    rw [hd] at hdocuments
    simpa using hdocuments
  obtain ⟨hid, raw, raws, hreads⟩ := readMachines_eq_ok hmachines (mem_of_lookup hm)
  obtain ⟨fields, hmem, hf⟩ := hreads.reads _ (mem_of_lookup ht)
  have hdoc := hreads.document
  rw [hid] at hdoc
  exact ⟨raw, raws, fields, hdoc, hreads.transitions, hmem, hf⟩

end TransitionKernel
