/-
**The validation of a state machine document.**

`_validate_state_machine` of `faultwitness_dev/contracts.py` accepts the machines that the contract
may contain: no duplicates, every reference declared, nothing leaves a terminal state, every state
reachable from the initial one and, unless it is terminal, with a way to a terminal one.  The last
two are computed by `_walk`, a breadth-first walk over the transitions and over their reverse.

Python's sets are iterated in an order that depends on their hashes and on how they were filled.
It is a parameter here, an `IterationOrder`, of which only the definition of a set is used.

Main definitions:

* `MachineValidation.validateStateMachine` — the validator, with a number of steps for each walk;
* `MachineValidation.Machine.WellFormed` — what a machine has to be.

Main results:

* `MachineValidation.readGraph_eq_ok_iff` — what the checks before the walks come to;
* `MachineValidation.walk_spec` — a walk ends with what its starts lead to;
* `MachineValidation.validateStateMachine_iff` — **the validator ends, and accepts a machine whose
  references are known exactly when it is well-formed**.
-/

import FaultWitness.Python
import FaultWitness.Worklists
import Mathlib.Data.Finset.Sort
import Mathlib.Data.String.Basic

set_option autoImplicit false

namespace MachineValidation

open Python

/-! ### Documents -/

/-- What the validator reads of a transition; `source` and `target` are `from` and `to`. -/
structure Transition where
  id : String
  source : String
  target : String
  actor : String
  command : String
  event : String
deriving DecidableEq

/-- What it reads of a machine document. -/
structure Machine where
  id : String
  ownerComponent : String
  authoritativeStore : String
  initialState : String
  states : List String
  terminalStates : List String
  transitions : List Transition
deriving DecidableEq

/-- The identifiers of the architecture. -/
structure Architecture where
  components : List String
  stores : List String

/-- The identifiers of the catalog of commands and events. -/
structure Catalog where
  commands : List String
  events : List String

/-- The exceptions of the validator, with the values that their messages show. -/
inductive GovernanceError
  | duplicateStates (machineId : String) (duplicates : List String)
  | unknownInitialState (machineId : String)
  | startsTerminal (machineId : String)
  | unknownTerminalStates (machineId : String)
  | unknownOwner (machineId : String)
  | unknownStore (machineId : String)
  | duplicateTransitions (machineId : String) (duplicates : List String)
  | unknownState (machineId transitionId : String)
  | terminalOutgoing (machineId : String)
  | unknownActor (transitionId : String)
  | unknownCommand (transitionId : String)
  | unknownEvent (transitionId : String)
  | unreachable (machineId : String) (states : List String)
  | trapped (machineId : String) (states : List String)
deriving DecidableEq

/-! ### Sets -/

/-- The order in which a set is iterated, as a function of the items that were added to it, in
their order. -/
structure IterationOrder where
  items : List String → List String
  nodup : ∀ added, (items added).Nodup
  mem_items : ∀ added a, a ∈ items added ↔ a ∈ added

/-- A `defaultdict(set)`: the pairs of a key and an item, in the order in which they were added. -/
abbrev Graph := List (String × String)

/-- What has been added under a key. -/
def Graph.added (graph : Graph) (key : String) : List String :=
  (graph.filter fun edge => edge.1 = key).map Prod.snd

variable {graph : Graph}

theorem Graph.mem_added {key a : String} : a ∈ graph.added key ↔ (key, a) ∈ graph := by
  simp [Graph.added]

/-! ### The validator -/

/-- `_duplicates`. -/
def duplicates (values : List String) : List String :=
  (values.dedup.filter fun value => 1 < values.count value).insertionSort (· ≤ ·)

/-- One round of the loop over the transitions: its checks, and its edges. -/
def addTransition (machine : Machine) (architecture : Architecture) (catalog : Catalog)
    (graphs : Graph × Graph) (transition : Transition) :
    Except GovernanceError (Graph × Graph) := do
  if transition.source ∉ machine.states ∨ transition.target ∉ machine.states then
    throw (.unknownState machine.id transition.id)
  if transition.source ∈ machine.terminalStates then
    throw (.terminalOutgoing machine.id)
  if transition.actor ∉ architecture.components then
    throw (.unknownActor transition.id)
  if transition.command ∉ catalog.commands then
    throw (.unknownCommand transition.id)
  if transition.event ∉ catalog.events then
    throw (.unknownEvent transition.id)
  return (graphs.1 ++ [(transition.source, transition.target)],
    graphs.2 ++ [(transition.target, transition.source)])

/-- The checks before the walks, with the graph and its reverse. -/
def readGraph (machine : Machine) (architecture : Architecture) (catalog : Catalog) :
    Except GovernanceError (Graph × Graph) := do
  if duplicates machine.states ≠ [] then
    throw (.duplicateStates machine.id (duplicates machine.states))
  if machine.initialState ∉ machine.states then
    throw (.unknownInitialState machine.id)
  if machine.initialState ∈ machine.terminalStates then
    throw (.startsTerminal machine.id)
  if ¬ ∀ state ∈ machine.terminalStates, state ∈ machine.states then
    throw (.unknownTerminalStates machine.id)
  if machine.ownerComponent ∉ architecture.components then
    throw (.unknownOwner machine.id)
  if machine.authoritativeStore ∉ architecture.stores then
    throw (.unknownStore machine.id)
  let transitionIds := machine.transitions.map Transition.id
  if duplicates transitionIds ≠ [] then
    throw (.duplicateTransitions machine.id (duplicates transitionIds))
  machine.transitions.foldlM (addTransition machine architecture catalog) ([], [])

/-- `_walk`, for a number of steps. -/
def walk (order : IterationOrder) (fuel : ℕ) (starts : List String) (graph : Graph) :
    Option (Finset String) :=
  Worklists.walk (fun current => order.items (graph.added current)) fuel
    ⟨starts.toFinset, order.items starts⟩

/-- `_validate_state_machine`, with a number of steps for each walk; `none` when they are used
up. -/
def validateStateMachine (order : IterationOrder) (fuel : ℕ) (machine : Machine)
    (architecture : Architecture) (catalog : Catalog) : Option (Except GovernanceError Unit) :=
  match readGraph machine architecture catalog with
  | .error err => some (.error err)
  | .ok (graph, reverse) => do
    let reachable ← walk order fuel [machine.initialState] graph
    let unreachable := machine.states.toFinset \ reachable
    if unreachable ≠ ∅ then
      return .error (.unreachable machine.id (unreachable.sort (· ≤ ·)))
    let canTerminate ← walk order fuel machine.terminalStates reverse
    let trapped := (machine.states.toFinset \ machine.terminalStates.toFinset) \ canTerminate
    if trapped ≠ ∅ then
      return .error (.trapped machine.id (trapped.sort (· ≤ ·)))
    return .ok ()

/-! ### What a machine has to be -/

/-- The references of a machine to the architecture and to the catalog are known. -/
structure Machine.Known (machine : Machine) (architecture : Architecture) (catalog : Catalog) :
    Prop where
  owner : machine.ownerComponent ∈ architecture.components
  store : machine.authoritativeStore ∈ architecture.stores
  actor : ∀ t ∈ machine.transitions, t.actor ∈ architecture.components
  command : ∀ t ∈ machine.transitions, t.command ∈ catalog.commands
  event : ∀ t ∈ machine.transitions, t.event ∈ catalog.events

/-- Its own references are declared, once each. -/
structure Machine.Declared (machine : Machine) : Prop where
  states : machine.states.Nodup
  ids : (machine.transitions.map Transition.id).Nodup
  initial : machine.initialState ∈ machine.states
  terminal : ∀ state ∈ machine.terminalStates, state ∈ machine.states
  starts : machine.initialState ∉ machine.terminalStates
  source : ∀ t ∈ machine.transitions, t.source ∈ machine.states
  target : ∀ t ∈ machine.transitions, t.target ∈ machine.states
  outgoing : ∀ t ∈ machine.transitions, t.source ∉ machine.terminalStates

/-- A transition between two states. -/
def Machine.Step (machine : Machine) (a b : String) : Prop :=
  ∃ t ∈ machine.transitions, t.source = a ∧ t.target = b

/-- Every state can be reached, and the machine can terminate from every state. -/
structure Machine.WellFormed (machine : Machine) : Prop extends machine.Declared where
  reachable : ∀ state ∈ machine.states,
    Relation.ReflTransGen machine.Step machine.initialState state
  terminates : ∀ state ∈ machine.states, state ∉ machine.terminalStates →
    ∃ last ∈ machine.terminalStates, Relation.ReflTransGen machine.Step state last

/-! ### The checks before the walks -/

theorem duplicates_eq_nil_iff {values : List String} : duplicates values = [] ↔ values.Nodup := by
  rw [List.nodup_iff_count_le_one]
  unfold duplicates
  rw [← List.length_eq_zero_iff, List.length_insertionSort, List.length_eq_zero_iff,
    List.filter_eq_nil_iff]
  constructor
  · intro h a
    by_cases ha : a ∈ values
    · simpa using h a (List.mem_dedup.2 ha)
    · rw [List.count_eq_zero_of_not_mem ha]
      omega
  · intro h a _
    simpa using h a

/-- What a round of the loop lets pass. -/
structure Admitted (machine : Machine) (architecture : Architecture) (catalog : Catalog)
    (t : Transition) : Prop where
  source : t.source ∈ machine.states
  target : t.target ∈ machine.states
  outgoing : t.source ∉ machine.terminalStates
  actor : t.actor ∈ architecture.components
  command : t.command ∈ catalog.commands
  event : t.event ∈ catalog.events

variable {machine : Machine} {architecture : Architecture} {catalog : Catalog}
  {graphs graphs' : Graph × Graph}

theorem addTransition_eq_ok_iff {t : Transition} :
    addTransition machine architecture catalog graphs t = .ok graphs' ↔
      Admitted machine architecture catalog t ∧
        graphs' = (graphs.1 ++ [(t.source, t.target)], graphs.2 ++ [(t.target, t.source)]) := by
  unfold addTransition
  rw [check_eq_ok, check_eq_ok, check_eq_ok, check_eq_ok, check_eq_ok]
  constructor
  · rintro ⟨hstates, hout, hactor, hcommand, hevent, h⟩
    cases h
    rw [not_or, not_not, not_not] at hstates
    exact ⟨⟨hstates.1, hstates.2, hout, not_not.1 hactor, not_not.1 hcommand, not_not.1 hevent⟩,
      rfl⟩
  · rintro ⟨h, rfl⟩
    exact ⟨by simp [h.source, h.target], h.outgoing, not_not.2 h.actor, not_not.2 h.command,
      not_not.2 h.event, rfl⟩

/-- The edges of a list of transitions. -/
def edges (ts : List Transition) : Graph := ts.map fun t => (t.source, t.target)

/-- And their reverse. -/
def reverseEdges (ts : List Transition) : Graph := ts.map fun t => (t.target, t.source)

variable {ts : List Transition}

theorem foldlM_addTransition_eq_ok_iff :
    ts.foldlM (addTransition machine architecture catalog) graphs = .ok graphs' ↔
      (∀ t ∈ ts, Admitted machine architecture catalog t) ∧
        graphs' = (graphs.1 ++ edges ts, graphs.2 ++ reverseEdges ts) := by
  induction ts generalizing graphs with
  | nil =>
    rw [List.foldlM_nil]
    simp [pure, Except.pure, edges, reverseEdges, eq_comm]
  | cons t ts ih =>
    rw [List.foldlM_cons, bind_eq_ok, List.forall_mem_cons]
    constructor
    · rintro ⟨next, hnext, h⟩
      obtain ⟨ht, rfl⟩ := addTransition_eq_ok_iff.1 hnext
      obtain ⟨hts, rfl⟩ := ih.1 h
      exact ⟨⟨ht, hts⟩, by simp [edges, reverseEdges]⟩
    · rintro ⟨⟨ht, hts⟩, rfl⟩
      refine ⟨_, addTransition_eq_ok_iff.2 ⟨ht, rfl⟩, ih.2 ⟨hts, ?_⟩⟩
      simp [edges, reverseEdges]

/-- **What the checks before the walks come to.** -/
theorem readGraph_eq_ok_iff :
    readGraph machine architecture catalog = .ok graphs ↔
      machine.Known architecture catalog ∧ machine.Declared ∧
        graphs = (edges machine.transitions, reverseEdges machine.transitions) := by
  unfold readGraph
  rw [check_eq_ok, check_eq_ok, check_eq_ok, check_eq_ok, check_eq_ok, check_eq_ok, check_eq_ok,
    foldlM_addTransition_eq_ok_iff, not_not, not_not, not_not, not_not, not_not, not_not,
    duplicates_eq_nil_iff, duplicates_eq_nil_iff, List.nil_append, List.nil_append]
  constructor
  · rintro ⟨hstates, hinitial, hstarts, hterminal, howner, hstore, hids, hadmitted, rfl⟩
    exact ⟨⟨howner, hstore, fun t ht => (hadmitted t ht).actor,
        fun t ht => (hadmitted t ht).command, fun t ht => (hadmitted t ht).event⟩,
      ⟨hstates, hids, hinitial, hterminal, hstarts, fun t ht => (hadmitted t ht).source,
        fun t ht => (hadmitted t ht).target, fun t ht => (hadmitted t ht).outgoing⟩, rfl⟩
  · rintro ⟨hknown, hdeclared, rfl⟩
    exact ⟨hdeclared.states, hdeclared.initial, hdeclared.starts, hdeclared.terminal,
      hknown.owner, hknown.store, hdeclared.ids, fun t ht =>
        ⟨hdeclared.source t ht, hdeclared.target t ht, hdeclared.outgoing t ht,
          hknown.actor t ht, hknown.command t ht, hknown.event t ht⟩, rfl⟩

/-! ### The walks -/

/-- **A walk ends with what its starts lead to.** -/
theorem walk_spec (order : IterationOrder) {vertices : Finset String}
    (hgraph : ∀ edge ∈ graph, edge.2 ∈ vertices) {starts : List String}
    (hstarts : ∀ a ∈ starts, a ∈ vertices) :
    ∃ visited, (∀ fuel > vertices.card, walk order fuel starts graph = some visited) ∧
      ∀ a, a ∈ visited ↔
        ∃ start ∈ starts, Relation.ReflTransGen (fun b c => (b, c) ∈ graph) start a := by
  have hset : starts.toFinset = (order.items starts).toFinset := by
    ext a
    rw [List.mem_toFinset, List.mem_toFinset, order.mem_items]
  have hedge : ∀ b c, c ∈ order.items (graph.added b) ↔ (b, c) ∈ graph := by
    intro b c
    rw [order.mem_items, Graph.mem_added]
  obtain ⟨visited, hvisited⟩ := Worklists.exists_walk
    (fun b c hc => hgraph (b, c) ((hedge b c).1 hc)) (order.nodup starts)
    (fun a ha => hstarts a ((order.mem_items starts a).1 ha)) (Nat.lt_succ_self vertices.card)
  refine ⟨visited, fun fuel hfuel => ?_, fun a => ?_⟩
  · rw [walk, hset]
    exact Worklists.walk_mono hfuel hvisited
  · rw [(Worklists.Invariant.start _ (order.items starts)).walk_eq_some hvisited]
    have hstep : (fun b c => c ∈ order.items (graph.added b)) = fun b c => (b, c) ∈ graph := by
      funext b c
      exact propext (hedge b c)
    rw [Worklists.Reached, hstep]
    simp only [order.mem_items]

theorem mem_edges {a b : String} : (a, b) ∈ edges ts ↔ ∃ t ∈ ts, t.source = a ∧ t.target = b := by
  simp [edges]

theorem mem_reverseEdges {a b : String} :
    (a, b) ∈ reverseEdges ts ↔ ∃ t ∈ ts, t.source = b ∧ t.target = a := by
  simp [reverseEdges, and_comm]

/-- The walk from the initial state meets the states that can be reached. -/
theorem walk_forward (order : IterationOrder) (h : machine.Declared) :
    ∃ reachable, (∀ fuel > machine.states.length,
        walk order fuel [machine.initialState] (edges machine.transitions) = some reachable) ∧
      ∀ a, a ∈ reachable ↔ Relation.ReflTransGen machine.Step machine.initialState a := by
  have hgraph : ∀ edge ∈ edges machine.transitions, edge.2 ∈ machine.states.toFinset := by
    rintro ⟨a, b⟩ hmem
    obtain ⟨t, ht, -, rfl⟩ := mem_edges.1 hmem
    exact List.mem_toFinset.2 (h.target t ht)
  have hstarts : ∀ a ∈ [machine.initialState], a ∈ machine.states.toFinset := by
    intro a ha
    rw [List.mem_singleton.1 ha]
    exact List.mem_toFinset.2 h.initial
  obtain ⟨reachable, hwalk, hmem⟩ := walk_spec order hgraph hstarts
  rw [List.toFinset_card_of_nodup h.states] at hwalk
  refine ⟨reachable, hwalk, fun a => ?_⟩
  have hstep : (fun b c => (b, c) ∈ edges machine.transitions) = machine.Step := by
    funext b c
    exact propext mem_edges
  rw [hmem a, hstep]
  simp

/-- The walk back from the terminal states meets the states that lead to one. -/
theorem walk_backward (order : IterationOrder) (h : machine.Declared) :
    ∃ canTerminate, (∀ fuel > machine.states.length,
        walk order fuel machine.terminalStates (reverseEdges machine.transitions) =
          some canTerminate) ∧
      ∀ a, a ∈ canTerminate ↔
        ∃ last ∈ machine.terminalStates, Relation.ReflTransGen machine.Step a last := by
  have hgraph : ∀ edge ∈ reverseEdges machine.transitions, edge.2 ∈ machine.states.toFinset := by
    rintro ⟨a, b⟩ hmem
    obtain ⟨t, ht, rfl, -⟩ := mem_reverseEdges.1 hmem
    exact List.mem_toFinset.2 (h.source t ht)
  have hstarts : ∀ a ∈ machine.terminalStates, a ∈ machine.states.toFinset :=
    fun a ha => List.mem_toFinset.2 (h.terminal a ha)
  obtain ⟨canTerminate, hwalk, hmem⟩ := walk_spec order hgraph hstarts
  rw [List.toFinset_card_of_nodup h.states] at hwalk
  refine ⟨canTerminate, hwalk, fun a => ?_⟩
  have hstep : (fun b c => (b, c) ∈ reverseEdges machine.transitions) =
      Function.swap machine.Step := by
    funext b c
    exact propext mem_reverseEdges
  rw [hmem a, hstep]
  simp only [Relation.reflTransGen_swap]

/-! ### The validator ends -/

/-- What the validator makes of what its two walks have met. -/
def verdict (machine : Machine) (reachable canTerminate : Finset String) :
    Except GovernanceError Unit :=
  if machine.states.toFinset \ reachable ≠ ∅ then
    .error (.unreachable machine.id ((machine.states.toFinset \ reachable).sort (· ≤ ·)))
  else if (machine.states.toFinset \ machine.terminalStates.toFinset) \ canTerminate ≠ ∅ then
    .error (.trapped machine.id
      (((machine.states.toFinset \ machine.terminalStates.toFinset) \ canTerminate).sort (· ≤ ·)))
  else .ok ()

theorem validateStateMachine_eq_verdict {order : IterationOrder} {fuel : ℕ} {reverse : Graph}
    {reachable canTerminate : Finset String}
    (hread : readGraph machine architecture catalog = .ok (graph, reverse))
    (hforward : walk order fuel [machine.initialState] graph = some reachable)
    (hbackward : walk order fuel machine.terminalStates reverse = some canTerminate) :
    validateStateMachine order fuel machine architecture catalog =
      some (verdict machine reachable canTerminate) := by
  unfold validateStateMachine verdict
  rw [hread]
  simp only [hforward, hbackward, bind, Option.bind, pure]
  split
  · rfl
  · split
    · rfl
    · rfl

theorem verdict_eq_ok_iff {reachable canTerminate : Finset String} :
    verdict machine reachable canTerminate = .ok () ↔
      (∀ state ∈ machine.states, state ∈ reachable) ∧
        ∀ state ∈ machine.states, state ∉ machine.terminalStates → state ∈ canTerminate := by
  have hall : machine.states.toFinset \ reachable = ∅ ↔
      ∀ state ∈ machine.states, state ∈ reachable := by
    rw [Finset.sdiff_eq_empty_iff_subset]
    exact forall_congr' fun state => by rw [List.mem_toFinset]
  have hfree : (machine.states.toFinset \ machine.terminalStates.toFinset) \ canTerminate = ∅ ↔
      ∀ state ∈ machine.states, state ∉ machine.terminalStates → state ∈ canTerminate := by
    rw [Finset.sdiff_eq_empty_iff_subset]
    refine forall_congr' fun state => ?_
    rw [Finset.mem_sdiff, List.mem_toFinset, List.mem_toFinset, and_imp]
  rw [← hall, ← hfree]
  unfold verdict
  split
  · rename_i hsome
    exact ⟨nofun, fun h => absurd h.1 hsome⟩
  · rename_i hnone
    split
    · rename_i hsome
      exact ⟨nofun, fun h => absurd h.2 hsome⟩
    · rename_i hnone'
      exact ⟨fun _ => ⟨not_not.1 hnone, not_not.1 hnone'⟩, fun _ => rfl⟩

/-- **The validator ends, and accepts a machine whose references are known exactly when it is
well-formed.**  One step more than there are states is enough for each walk, and more steps do not
change what it comes to. -/
theorem validateStateMachine_iff (order : IterationOrder) (machine : Machine)
    (architecture : Architecture) (catalog : Catalog) (hknown : machine.Known architecture catalog) :
    ∃ outcome, (∀ fuel > machine.states.length,
        validateStateMachine order fuel machine architecture catalog = some outcome) ∧
      (outcome = .ok () ↔ machine.WellFormed) := by
  by_cases hdeclared : machine.Declared
  · have hread := readGraph_eq_ok_iff.2 ⟨hknown, hdeclared, rfl⟩
    obtain ⟨reachable, hforward, hreachable⟩ := walk_forward order hdeclared
    obtain ⟨canTerminate, hbackward, hcan⟩ := walk_backward order hdeclared
    refine ⟨verdict machine reachable canTerminate, fun fuel hfuel =>
      validateStateMachine_eq_verdict hread (hforward fuel hfuel) (hbackward fuel hfuel), ?_⟩
    rw [verdict_eq_ok_iff]
    constructor
    · rintro ⟨hall, hfree⟩
      exact ⟨hdeclared, fun state hstate => (hreachable state).1 (hall state hstate),
        fun state hstate hlast => (hcan state).1 (hfree state hstate hlast)⟩
    · intro h
      exact ⟨fun state hstate => (hreachable state).2 (h.reachable state hstate),
        fun state hstate hlast => (hcan state).2 (h.terminates state hstate hlast)⟩
  · cases hread : readGraph machine architecture catalog with
    | error err =>
      refine ⟨.error err, fun fuel _ => by rw [validateStateMachine, hread], nofun, ?_⟩
      exact fun h => absurd h.toDeclared hdeclared
    | ok graphs => exact absurd (readGraph_eq_ok_iff.1 hread).2.1 hdeclared

/-! ### A machine with a cycle -/

/-- Sets that are iterated in the order in which their items were first added. -/
def insertionOrder : IterationOrder where
  items added := added.reverse.dedup.reverse
  nodup added := List.nodup_reverse.2 (List.nodup_dedup _)
  mem_items added a := by rw [List.mem_reverse, List.mem_dedup, List.mem_reverse]

/-- A task that is retried until it succeeds. -/
def retriedTask : Machine where
  id := "runtime_task"
  ownerComponent := "CMP-SCHEDULER"
  authoritativeStore := "STORE-TASK-POSTGRES"
  initialState := "PENDING"
  states := ["PENDING", "RUNNING", "RETRY_WAIT", "SUCCEEDED"]
  terminalStates := ["SUCCEEDED"]
  transitions :=
    [⟨"TR-TASK-START", "PENDING", "RUNNING", "CMP-SCHEDULER", "CMD-START", "EVT-STARTED"⟩,
      ⟨"TR-TASK-RETRY", "RUNNING", "RETRY_WAIT", "CMP-SCHEDULER", "CMD-RETRY", "EVT-RETRY"⟩,
      ⟨"TR-TASK-REQUEUE", "RETRY_WAIT", "PENDING", "CMP-SCHEDULER", "CMD-RETRY", "EVT-RETRY"⟩,
      ⟨"TR-TASK-SUCCEED", "RUNNING", "SUCCEEDED", "CMP-SCHEDULER", "CMD-COMPLETE", "EVT-DONE"⟩]

def taskArchitecture : Architecture := ⟨["CMP-SCHEDULER"], ["STORE-TASK-POSTGRES"]⟩

def taskCatalog : Catalog :=
  ⟨["CMD-START", "CMD-RETRY", "CMD-COMPLETE"], ["EVT-STARTED", "EVT-RETRY", "EVT-DONE"]⟩

/-- The validator accepts it, so it can always still succeed. -/
theorem retriedTask_wellFormed : retriedTask.WellFormed := by
  have hknown : retriedTask.Known taskArchitecture taskCatalog :=
    ⟨by decide, by decide, by decide, by decide, by decide⟩
  obtain ⟨outcome, hends, hiff⟩ :=
    validateStateMachine_iff insertionOrder retriedTask taskArchitecture taskCatalog hknown
  have haccepted : validateStateMachine insertionOrder 5 retriedTask taskArchitecture taskCatalog =
      some (.ok ()) := by decide +kernel
  rw [hends 5 (by decide)] at haccepted
  exact hiff.1 (Option.some.inj haccepted)

end MachineValidation
