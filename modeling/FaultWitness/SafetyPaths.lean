/-
**The safety paths of the contract.**

`_validate_safety_paths` of `faultwitness_dev/contracts.py` looks at the machine documents before
they are compiled: an action is executed only once it is approved, an uncertain action is only ever
reconciled, a task succeeds only under its lease.  The kernel interprets the same documents.  What
the validator has seen of the documents then holds of every decision that the kernel makes.

For an action and a task the validator looks at *all* transitions into the guarded state.  For the
approval of an incident and of an agent it takes the *first* transition between the two states and
stops there, so that a second transition beside it goes unseen.

Main definitions:

* `SafetyPaths.validateSafetyPaths` — the validator, on documents of any shape;
* `SafetyPaths.Guarded` — every transition between two states lists the required preconditions;
* `SafetyPaths.DecisionRun` — decisions that follow one another on one machine.

Main results:

* `SafetyPaths.guarded_decisions` — **in every run of decisions an action is dispatched, an
  uncertain action left and a task completed only along the safety paths**;
* `SafetyPaths.guarded_iff` — accepted documents guard every approval path exactly when the
  transitions beside the first ones do.
-/

import FaultWitness.TransitionKernel

set_option autoImplicit false

namespace SafetyPaths

open Python TransitionKernel

/-! ### The validator -/

/-- The exceptions that leave the validator. -/
inductive GovernanceError
  | missingPreconditions (label : String) (missing : List String)
  | bypassesApproved
  | blindRetry
  | successPaths
  | leaseLoss
  | duplicateCommands
  | duplicateEvents
  | unknownOwner
  | lacksIdempotency
  | lacksVersion
  | unknownProducer
  /-- Python's own exceptions on documents of another shape. -/
  | keyError (key : String)
  | typeError
  | stopIteration
deriving DecidableEq

/-- Indexing `value[key]` with a string. -/
def getItem (value : Json) (key : String) : Except GovernanceError Json :=
  match value with
  | .obj fields =>
    match fields.lookup key with
    | some item => .ok item
    | none => .error (.keyError key)
  | _ => .error .typeError

/-- The items that a `for` loop visits. -/
def iterate : Json → Except GovernanceError (List Json)
  | .arr items => .ok items
  | .obj fields => .ok (fields.map fun field => .str field.1)
  | .str s => .ok (s.toList.map fun c => .str c.toString)
  | _ => .error .typeError

/-- The members of `set(value)`. -/
def members (value : Json) : Except GovernanceError (List Json) := do
  let items ← iterate value
  if items.all fun item => hashable (some item) then .ok items else .error .typeError

/-- The truth value of an object. -/
def truthy : Json → Bool
  | .null => false
  | .bool b => b
  | .int n => n ≠ 0
  | .float repr => repr ≠ "0.0" ∧ repr ≠ "-0.0"
  | .str s => s ≠ ""
  | .arr items => items ≠ []
  | .obj fields => fields ≠ []

/-- A comprehension with a condition, which is evaluated on every item. -/
def keep (test : Json → Except GovernanceError Bool) :
    List Json → Except GovernanceError (List Json)
  | [] => .ok []
  | item :: items =>
    match test item with
    | .error err => .error err
    | .ok b =>
      match keep test items with
      | .error err => .error err
      | .ok kept => .ok (if b then item :: kept else kept)

/-- The builtin `next` on a comprehension, which stops at the first item that meets the
condition. -/
def next (test : Json → Except GovernanceError Bool) : List Json → Except GovernanceError Json
  | [] => .error .stopIteration
  | item :: items =>
    match test item with
    | .error err => .error err
    | .ok true => .ok item
    | .ok false => next test items

/-- The builtin `any`, which stops at the first item that meets the condition. -/
def anyOf (test : Json → Except GovernanceError Bool) : List Json → Except GovernanceError Bool
  | [] => .ok false
  | item :: items =>
    match test item with
    | .error err => .error err
    | .ok true => .ok true
    | .ok false => anyOf test items

/-- The condition `transition[key] == text`. -/
def is (key text : String) (transition : Json) : Except GovernanceError Bool := do
  let value ← getItem transition key
  return value = .str text

/-- The condition `transition["from"] == source and transition["to"] == target`. -/
def between (source target : String) (transition : Json) : Except GovernanceError Bool := do
  if ← is "from" source transition then is "to" target transition else return false

def requirePreconditions (transition : Json) (expected : List String) (label : String) :
    Except GovernanceError Unit := do
  let preconditions ← members (← getItem transition "preconditions")
  let missing := expected.filter fun name => .str name ∉ preconditions
  if missing ≠ [] then
    throw (.missingPreconditions label (missing.insertionSort (· ≤ ·)))

/-- The transitions of a machine of the set. -/
def transitionsOf (machines : Fields) (name : String) : Except GovernanceError (List Json) := do
  iterate (← getItem (← getItem (.obj machines) name) "transitions")

def incidentR2 : List String :=
  ["valid_approval_digest", "valid_resource_version", "approval_not_expired"]

def agentR2 : List String := ["valid_approval_digest", "valid_resource_version", "matching_tenant"]

def dispatchPreconditions : List String :=
  ["matching_tenant", "valid_authorization", "valid_approval_if_R2", "valid_approval_digest",
    "valid_resource_version", "current_policy_allow", "idempotency_reserved"]

def completionPreconditions : List String :=
  ["valid_fencing_token", "matching_attempt_id", "checkpoint_committed"]

/-- What an outgoing transition of `UNCERTAIN` must not be. -/
def blindRetry (transition : Json) : Except GovernanceError Bool := do
  if truthy (← getItem transition "automatic") then return true
  if (← getItem transition "command") ≠ .str "CMD-RECONCILE-ACTION" then return true
  let target ← getItem transition "to"
  if ¬ hashable (some target) then throw .typeError
  return target ≠ .str "VERIFYING" ∧ target ≠ .str "MANUAL"

/-- The approval path of a machine: the first transition between the two states. -/
def checkApproval (machines : Fields) (name source target : String) (expected : List String)
    (label : String) : Except GovernanceError Unit := do
  let r2 ← next (between source target) (← transitionsOf machines name)
  requirePreconditions r2 expected label

/-- The transitions of an action into `EXECUTING`. -/
def checkDispatch (machines : Fields) : Except GovernanceError Unit := do
  let dispatches ← keep (is "to" "EXECUTING") (← transitionsOf machines "action_transaction")
  match dispatches with
  | [dispatch] =>
    if ← is "from" "APPROVED" dispatch then
      requirePreconditions dispatch dispatchPreconditions "Action dispatch"
    else .error .bypassesApproved
  | _ => .error .bypassesApproved

/-- The transitions of an action out of `UNCERTAIN`. -/
def checkUncertain (machines : Fields) : Except GovernanceError Unit := do
  let outgoing ← keep (is "from" "UNCERTAIN") (← transitionsOf machines "action_transaction")
  if outgoing = [] then throw .blindRetry
  let blind ← anyOf blindRetry outgoing
  if blind then throw .blindRetry

/-- The transitions of a task into `SUCCEEDED`. -/
def checkCompletion (machines : Fields) : Except GovernanceError Unit := do
  let completion ← keep (is "to" "SUCCEEDED") (← transitionsOf machines "runtime_task")
  match completion with
  | [complete] => requirePreconditions complete completionPreconditions "Runtime success commit"
  | _ => .error .successPaths

/-- The condition `transition["to"] == "SUCCEEDED" and transition["from"] != "RUNNING"`. -/
def late (transition : Json) : Except GovernanceError Bool := do
  if ← is "to" "SUCCEEDED" transition then
    let running ← is "from" "RUNNING" transition
    return !running
  else return false

def checkLeaseLoss (machines : Fields) : Except GovernanceError Unit := do
  let lost ← anyOf late (← transitionsOf machines "runtime_task")
  if lost then throw .leaseLoss

def validateSafetyPaths (machines : Fields) : Except GovernanceError Unit := do
  checkApproval machines "incident" "WAITING_APPROVAL" "EXECUTING" incidentR2
    "Incident R2 execution"
  checkApproval machines "agent_graph" "AWAIT_APPROVAL" "DISPATCH_ACTION" agentR2
    "Agent R2 dispatch"
  checkDispatch machines
  checkUncertain machines
  checkCompletion machines
  checkLeaseLoss machines

/-! ### What an accepted document tells -/

theorem getItem_eq_ok {value item : Json} {key : String} :
    getItem value key = .ok item ↔ ∃ fields, value = .obj fields ∧ fields.lookup key = some item := by
  unfold getItem
  split
  · rename_i fields
    split
    · rename_i found hf
      constructor
      · intro h
        cases h
        exact ⟨fields, rfl, hf⟩
      · rintro ⟨_, hfields, hlookup⟩
        cases hfields
        rw [hf] at hlookup
        simpa using hlookup
    · rename_i hf
      constructor
      · intro h
        cases h
      · rintro ⟨_, hfields, hlookup⟩
        cases hfields
        rw [hf] at hlookup
        cases hlookup
  · rename_i hne
    constructor
    · intro h
      cases h
    · rintro ⟨fields, rfl, -⟩
      exact absurd rfl (hne fields)

theorem is_eq_true {key text : String} {transition : Json} :
    is key text transition = .ok true ↔ getItem transition key = .ok (.str text) := by
  unfold is
  rw [bind_eq_ok]
  constructor
  · rintro ⟨value, hvalue, h⟩
    obtain rfl : value = .str text := by simpa [pure, Except.pure] using h
    exact hvalue
  · intro h
    exact ⟨.str text, h, by simp [pure, Except.pure]⟩

/-- The transition lists the precondition. -/
def Lists (transition : Json) (name : String) : Prop :=
  ∃ value items, getItem transition "preconditions" = .ok value ∧ iterate value = .ok items ∧
    .str name ∈ items

variable {expected : List String} {label : String}

theorem requirePreconditions_eq_ok {transition : Json}
    (h : requirePreconditions transition expected label = .ok ()) :
    ∀ name ∈ expected, Lists transition name := by
  unfold requirePreconditions at h
  obtain ⟨value, hvalue, h⟩ := bind_eq_ok.1 h
  obtain ⟨items, hitems, h⟩ := bind_eq_ok.1 h
  have hnone := not_not.1 (guard_eq_ok.1 h)
  unfold members at hitems
  obtain ⟨items', hiter, hall⟩ := bind_eq_ok.1 hitems
  obtain rfl : items' = items := by
    split at hall
    · cases hall
      rfl
    · cases hall
  intro name hname
  refine ⟨value, items', hvalue, hiter, ?_⟩
  by_contra hmem
  have : name ∈ expected.filter fun name => .str name ∉ items' :=
    List.mem_filter.2 ⟨hname, by simpa using hmem⟩
  rw [hnone] at this
  cases this

variable {test : Json → Except GovernanceError Bool} {items : List Json}

/-- The comprehension keeps exactly the items that meet its condition. -/
theorem keep_eq_ok {kept : List Json} (h : keep test items = .ok kept) {item : Json}
    (hitem : item ∈ items) (htest : test item = .ok true) : item ∈ kept := by
  induction items generalizing kept with
  | nil => cases hitem
  | cons first items ih =>
    simp only [keep] at h
    split at h
    · cases h
    · rename_i b hb
      split at h
      · cases h
      · rename_i rest hrest
        cases h
        rcases List.mem_cons.1 hitem with rfl | hitem
        · rw [htest] at hb
          cases hb
          exact List.mem_cons_self
        · have hin := ih hrest hitem
          cases b with
          | true => exact List.mem_cons_of_mem _ hin
          | false => exact hin

theorem anyOf_eq_false (h : anyOf test items = .ok false) :
    ∀ item ∈ items, test item = .ok false := by
  induction items with
  | nil =>
    intro item hitem
    cases hitem
  | cons first items ih =>
    simp only [anyOf] at h
    split at h
    · cases h
    · cases h
    · rename_i hfirst
      intro item hitem
      rcases List.mem_cons.1 hitem with rfl | hitem
      · exact hfirst
      · exact ih h item hitem

theorem next_eq_ok {found : Json} (h : next test items = .ok found) :
    ∃ pre rest, items = pre ++ found :: rest ∧ test found = .ok true ∧
      ∀ item ∈ pre, test item = .ok false := by
  induction items with
  | nil => cases h
  | cons first items ih =>
    simp only [next] at h
    split at h
    · cases h
    · rename_i hfirst
      cases h
      exact ⟨[], items, rfl, hfirst, by simp⟩
    · rename_i hfirst
      obtain ⟨pre, rest, rfl, hfound, hpre⟩ := ih h
      refine ⟨first :: pre, rest, rfl, hfound, fun item hitem => ?_⟩
      rcases List.mem_cons.1 hitem with rfl | hitem
      · exact hfirst
      · exact hpre item hitem

variable {machines : Fields}

/-- The approval path: the transitions before the first one are elsewhere, and the first one lists
the preconditions. -/
theorem checkApproval_eq_ok {name source target : String}
    (h : checkApproval machines name source target expected label = .ok ()) :
    ∃ pre r2 rest, transitionsOf machines name = .ok (pre ++ r2 :: rest) ∧
      (∀ item ∈ pre, between source target item = .ok false) ∧
      between source target r2 = .ok true ∧ ∀ name ∈ expected, Lists r2 name := by
  unfold checkApproval at h
  obtain ⟨raws, hraws, h⟩ := bind_eq_ok.1 h
  obtain ⟨r2, hnext, hrequire⟩ := bind_eq_ok.1 h
  obtain ⟨pre, rest, rfl, hr2, hpre⟩ := next_eq_ok hnext
  exact ⟨pre, r2, rest, hraws, hpre, hr2, requirePreconditions_eq_ok hrequire⟩

theorem checkDispatch_eq_ok (h : checkDispatch machines = .ok ()) :
    ∃ raws, transitionsOf machines "action_transaction" = .ok raws ∧
      ∀ t ∈ raws, getItem t "to" = .ok (.str "EXECUTING") →
        getItem t "from" = .ok (.str "APPROVED") ∧ ∀ name ∈ dispatchPreconditions, Lists t name := by
  unfold checkDispatch at h
  obtain ⟨raws, hraws, h⟩ := bind_eq_ok.1 h
  obtain ⟨dispatches, hkeep, h⟩ := bind_eq_ok.1 h
  refine ⟨raws, hraws, fun t ht hto => ?_⟩
  have hmem := keep_eq_ok hkeep ht (is_eq_true.2 hto)
  split at h
  · rename_i dispatch
    obtain rfl : t = dispatch := by simpa using hmem
    obtain ⟨approved, happroved, h⟩ := bind_eq_ok.1 h
    cases approved with
    | false => simp at h
    | true => exact ⟨is_eq_true.1 happroved, requirePreconditions_eq_ok (by simpa using h)⟩
  · cases h

/-- A transition that is no blind retry reconciles. -/
theorem blindRetry_eq_false {t : Json} (h : blindRetry t = .ok false) :
    getItem t "command" = .ok (.str "CMD-RECONCILE-ACTION") ∧
      (getItem t "to" = .ok (.str "VERIFYING") ∨ getItem t "to" = .ok (.str "MANUAL")) := by
  unfold blindRetry at h
  obtain ⟨automatic, -, h⟩ := bind_eq_ok.1 h
  split at h
  · simp [pure, Except.pure] at h
  obtain ⟨command, hcommand, h⟩ := bind_eq_ok.1 h
  split at h
  · simp [pure, Except.pure] at h
  rename_i hreconcile
  obtain ⟨target, htarget, h⟩ := bind_eq_ok.1 h
  obtain ⟨-, h⟩ := check_eq_ok.1 h
  simp only [pure, Except.pure, Except.ok.injEq, decide_eq_false_iff_not, not_and_or, not_not,
    ne_eq] at h hreconcile
  refine ⟨by rw [hcommand, hreconcile], ?_⟩
  rcases h with rfl | rfl
  · exact Or.inl htarget
  · exact Or.inr htarget

theorem checkUncertain_eq_ok (h : checkUncertain machines = .ok ()) :
    ∃ raws, transitionsOf machines "action_transaction" = .ok raws ∧
      ∀ t ∈ raws, getItem t "from" = .ok (.str "UNCERTAIN") →
        getItem t "command" = .ok (.str "CMD-RECONCILE-ACTION") ∧
          (getItem t "to" = .ok (.str "VERIFYING") ∨ getItem t "to" = .ok (.str "MANUAL")) := by
  unfold checkUncertain at h
  obtain ⟨raws, hraws, h⟩ := bind_eq_ok.1 h
  obtain ⟨outgoing, hkeep, h⟩ := bind_eq_ok.1 h
  refine ⟨raws, hraws, fun t ht hfrom => ?_⟩
  have hmem := keep_eq_ok hkeep ht (is_eq_true.2 hfrom)
  obtain ⟨-, h⟩ := check_eq_ok.1 h
  obtain ⟨blind, hblind, h⟩ := bind_eq_ok.1 h
  obtain rfl : blind = false := by simpa using guard_eq_ok.1 h
  exact blindRetry_eq_false (anyOf_eq_false hblind t hmem)

theorem checkCompletion_eq_ok (h : checkCompletion machines = .ok ())
    (hl : checkLeaseLoss machines = .ok ()) :
    ∃ raws, transitionsOf machines "runtime_task" = .ok raws ∧
      ∀ t ∈ raws, getItem t "to" = .ok (.str "SUCCEEDED") →
        getItem t "from" = .ok (.str "RUNNING") ∧
          ∀ name ∈ completionPreconditions, Lists t name := by
  unfold checkCompletion at h
  obtain ⟨raws, hraws, h⟩ := bind_eq_ok.1 h
  obtain ⟨completion, hkeep, h⟩ := bind_eq_ok.1 h
  unfold checkLeaseLoss at hl
  obtain ⟨raws', hraws', hl⟩ := bind_eq_ok.1 hl
  obtain rfl : raws = raws' := by
    rw [hraws] at hraws'
    simpa using hraws'
  obtain ⟨lost, hlost, hl⟩ := bind_eq_ok.1 hl
  obtain rfl : lost = false := by simpa using guard_eq_ok.1 hl
  refine ⟨raws, hraws, fun t ht hto => ⟨?_, ?_⟩⟩
  · have hlate := anyOf_eq_false hlost t ht
    unfold late at hlate
    obtain ⟨succeeded, hs, hlate⟩ := bind_eq_ok.1 hlate
    rw [is_eq_true.2 hto] at hs
    cases hs
    rw [if_pos rfl] at hlate
    obtain ⟨running, hr, hlate⟩ := bind_eq_ok.1 hlate
    obtain rfl : running = true := by simpa [pure, Except.pure] using hlate
    exact is_eq_true.1 hr
  · have hmem := keep_eq_ok hkeep ht (is_eq_true.2 hto)
    split at h
    · rename_i complete
      obtain rfl : t = complete := by simpa using hmem
      exact requirePreconditions_eq_ok h
    · cases h

theorem validateSafetyPaths_eq_ok (h : validateSafetyPaths machines = .ok ()) :
    checkApproval machines "incident" "WAITING_APPROVAL" "EXECUTING" incidentR2
        "Incident R2 execution" = .ok () ∧
      checkApproval machines "agent_graph" "AWAIT_APPROVAL" "DISPATCH_ACTION" agentR2
        "Agent R2 dispatch" = .ok () ∧
      checkDispatch machines = .ok () ∧ checkUncertain machines = .ok () ∧
      checkCompletion machines = .ok () ∧ checkLeaseLoss machines = .ok () := by
  unfold validateSafetyPaths at h
  obtain ⟨_, hincident, h⟩ := bind_eq_ok.1 h
  obtain ⟨_, hagent, h⟩ := bind_eq_ok.1 h
  obtain ⟨_, hdispatch, h⟩ := bind_eq_ok.1 h
  obtain ⟨_, huncertain, h⟩ := bind_eq_ok.1 h
  obtain ⟨_, hcompletion, h⟩ := bind_eq_ok.1 h
  exact ⟨hincident, hagent, hdispatch, huncertain, hcompletion, h⟩

/-! ### Decisions along accepted documents -/

/-- The documents of the listed machines, by name. -/
def select (documents : Fields) (owners : List (String × String)) : Fields :=
  owners.filterMap fun owner =>
    (documents.lookup ("state_machine." ++ owner.1)).map fun document => (owner.1, document)

/-- The machine documents of a document set, as `validate_contracts` hands them on. -/
def machinesOf (documents : Fields) : Fields := select documents machineOwners

theorem lookup_select {documents : Fields} {owners : List (String × String)} {name : String}
    (h : name ∈ owners.map Prod.fst) :
    (select documents owners).lookup name = documents.lookup ("state_machine." ++ name) := by
  induction owners with
  | nil => cases h
  | cons owner owners ih =>
    have hrest : name ≠ owner.1 → name ∈ owners.map Prod.fst := by
      intro hne
      rcases List.mem_cons.1 h with heq | hmem
      · exact absurd heq hne
      · exact hmem
    by_cases heq : name = owner.1
    · subst heq
      cases hd : documents.lookup ("state_machine." ++ owner.1) with
      | some document => simp [select, hd]
      | none =>
        -- no later owner of the same name has a document either
        have hno : (select documents owners).lookup owner.1 = none := by
          by_cases hmem : owner.1 ∈ owners.map Prod.fst
          · rw [ih hmem, hd]
          · rw [List.lookup_eq_none_iff]
            intro p hp
            obtain ⟨other, hother, hp⟩ := List.mem_filterMap.1 hp
            obtain ⟨document, -, rfl⟩ := Option.map_eq_some_iff.1 hp
            have : other.1 ∈ owners.map Prod.fst := List.mem_map_of_mem hother
            simpa using fun he : owner.1 = other.1 => hmem (he ▸ this)
        simpa [select, hd] using hno
    · have hbeq : (name == owner.1) = false := by simpa using heq
      have hskip : (select documents (owner :: owners)).lookup name =
          (select documents owners).lookup name := by
        cases hd : documents.lookup ("state_machine." ++ owner.1) with
        | none => simp [select, hd]
        | some document => simp [select, hd, List.lookup_cons, hbeq]
      rw [hskip, ih (hrest heq)]

/-- Decisions on one machine, each of which starts in the state where the one before it ended. -/
inductive DecisionRun (sha256 : String → String) (k : Kernel) (machineId : String) :
    String → List (TransitionRequest × TransitionDecision) → Prop
  | nil (state : String) : DecisionRun sha256 k machineId state []
  | cons {request : TransitionRequest} {d : TransitionDecision}
      {run : List (TransitionRequest × TransitionDecision)} :
      request.machineId = machineId → k.decide sha256 request = .ok d →
      DecisionRun sha256 k machineId d.nextState run →
      DecisionRun sha256 k machineId request.state ((request, d) :: run)

/-- The decision evaluated the predicates, and each of them was true. -/
def Evaluated (predicates : PredicateRegistry) (step : TransitionRequest × TransitionDecision)
    (names : List String) : Prop :=
  ∀ name ∈ names, name ∈ step.2.evaluatedPredicates ∧ predicates.evaluate name step.1 = .ok true

/-- A step of an action keeps to the safety paths. -/
structure ActionSafe (predicates : PredicateRegistry)
    (step : TransitionRequest × TransitionDecision) : Prop where
  dispatch : step.2.nextState = "EXECUTING" →
    step.2.previousState = "APPROVED" ∧ Evaluated predicates step dispatchPreconditions
  reconcile : step.2.previousState = "UNCERTAIN" →
    step.2.command = "CMD-RECONCILE-ACTION" ∧
      (step.2.nextState = "VERIFYING" ∨ step.2.nextState = "MANUAL")

/-- A step of a task keeps to the safety paths. -/
def TaskSafe (predicates : PredicateRegistry) (step : TransitionRequest × TransitionDecision) :
    Prop :=
  step.2.nextState = "SUCCEEDED" →
    step.2.previousState = "RUNNING" ∧ Evaluated predicates step completionPreconditions

section Decisions

variable {sha256 : String → String} {resource documents : Fields} {predicates : PredicateRegistry}
  {k : Kernel} {request : TransitionRequest} {d : TransitionDecision}

theorem DecisionRun.forall {machineId : String} {P : TransitionRequest × TransitionDecision → Prop}
    (hP : ∀ request d, request.machineId = machineId → k.decide sha256 request = .ok d →
      P (request, d))
    {state : String} {run : List (TransitionRequest × TransitionDecision)}
    (h : DecisionRun sha256 k machineId state run) : ∀ step ∈ run, P step := by
  induction h with
  | nil state =>
    intro step hstep
    cases hstep
  | cons hid hd _ ih =>
    intro step hstep
    rcases List.mem_cons.1 hstep with rfl | hstep
    · exact hP _ _ hid hd
    · exact ih step hstep

/-- A transition that lists a precondition in its document has it among its preconditions. -/
theorem mem_preconditions {t : Transition} {fields : Fields} (h : t.Reads fields) {name : String}
    (hl : Lists (.obj fields) name) : name ∈ t.preconditions := by
  obtain ⟨value, items, hvalue, hitems, hmem⟩ := hl
  obtain ⟨fields', hf, hlookup⟩ := getItem_eq_ok.1 hvalue
  cases hf
  rw [h.preconditions] at hlookup
  cases hlookup
  cases hitems
  simpa using hmem

/-- The transition of a decision, in the document that the validator has seen. -/
theorem decided_document (hk : init resource predicates = .ok k)
    (hd : resource.lookup "documents" = some (.obj documents))
    (h : k.decide sha256 request = .ok d) (hname : request.machineId ∈ machineOwners.map Prod.fst)
    {raws : List Json} (hraws : transitionsOf (machinesOf documents) request.machineId = .ok raws) :
    ∃ fields, .obj fields ∈ raws ∧
      getItem (.obj fields) "from" = .ok (.str d.previousState) ∧
      getItem (.obj fields) "to" = .ok (.str d.nextState) ∧
      getItem (.obj fields) "command" = .ok (.str d.command) ∧
      ∀ name, Lists (.obj fields) name → Evaluated predicates (request, d) [name] := by
  obtain ⟨machine, t, command, hdec⟩ := decide_eq_ok h
  obtain ⟨raw, raws', fields, hraw, hts, hmem, hreads⟩ :=
    transition_document hk hd hdec.machine_eq hdec.transition_eq
  have hraws' : transitionsOf (machinesOf documents) request.machineId = .ok raws' := by
    simp [transitionsOf, getItem, machinesOf, lookup_select hname, hraw, hts, iterate, bind,
      Except.bind]
  obtain rfl : raws' = raws := by
    rw [hraws'] at hraws
    simpa using hraws
  have hfrom := hreads.source
  have hto := hreads.target
  have hcommand := hreads.command
  refine ⟨fields, hmem, getItem_eq_ok.2 ⟨fields, rfl, ?_⟩, getItem_eq_ok.2 ⟨fields, rfl, ?_⟩,
    getItem_eq_ok.2 ⟨fields, rfl, ?_⟩, fun name hl n hn => ?_⟩
  · rw [hfrom, hdec.decision, ← hdec.source]
    rfl
  · rw [hto, hdec.decision]
    rfl
  · rw [hcommand, hdec.decision, ← hdec.commanded]
    rfl
  · rw [List.mem_singleton] at hn
    subst hn
    have hpre := List.mem_cons_of_mem t.guardPredicate (mem_preconditions hreads hl)
    refine ⟨?_, ?_⟩
    · rw [hdec.decision]
      exact hpre
    · have := hdec.guards n hpre
      rwa [(init_eq_ok hk).1] at this

theorem eq_of_getItem {value : Json} {key a b : String} (ha : getItem value key = .ok (.str a))
    (hb : getItem value key = .ok (.str b)) : a = b := by
  rw [ha] at hb
  simpa using hb

theorem action_safe (hk : init resource predicates = .ok k)
    (hd : resource.lookup "documents" = some (.obj documents))
    (hs : validateSafetyPaths (machinesOf documents) = .ok ())
    (hid : request.machineId = "action_transaction") (h : k.decide sha256 request = .ok d) :
    ActionSafe predicates (request, d) := by
  obtain ⟨-, -, hdispatch, huncertain, -, -⟩ := validateSafetyPaths_eq_ok hs
  obtain ⟨raws, hraws, hdis⟩ := checkDispatch_eq_ok hdispatch
  obtain ⟨raws', hraws', hunc⟩ := checkUncertain_eq_ok huncertain
  obtain rfl : raws = raws' := by
    rw [hraws] at hraws'
    simpa using hraws'
  obtain ⟨fields, hmem, hfrom, hto, hcommand, heval⟩ :=
    decided_document hk hd h (by rw [hid]; decide) (by rw [hid]; exact hraws)
  refine ⟨fun hnext => ?_, fun hprev => ?_⟩
  · obtain ⟨happroved, hlists⟩ := hdis _ hmem (by rw [hto, hnext])
    refine ⟨eq_of_getItem hfrom happroved, fun name hname => ?_⟩
    exact heval name (hlists name hname) name (List.mem_singleton.2 rfl)
  · obtain ⟨hreconcile, htarget⟩ := hunc _ hmem (by rw [hfrom, hprev])
    refine ⟨eq_of_getItem hcommand hreconcile, ?_⟩
    rcases htarget with ht | ht
    · exact Or.inl (eq_of_getItem hto ht)
    · exact Or.inr (eq_of_getItem hto ht)

theorem task_safe (hk : init resource predicates = .ok k)
    (hd : resource.lookup "documents" = some (.obj documents))
    (hs : validateSafetyPaths (machinesOf documents) = .ok ())
    (hid : request.machineId = "runtime_task") (h : k.decide sha256 request = .ok d) :
    TaskSafe predicates (request, d) := by
  obtain ⟨-, -, -, -, hcompletion, hlease⟩ := validateSafetyPaths_eq_ok hs
  obtain ⟨raws, hraws, hcom⟩ := checkCompletion_eq_ok hcompletion hlease
  obtain ⟨fields, hmem, hfrom, hto, -, heval⟩ :=
    decided_document hk hd h (by rw [hid]; decide) (by rw [hid]; exact hraws)
  intro hnext
  obtain ⟨hrunning, hlists⟩ := hcom _ hmem (by rw [hto, hnext])
  refine ⟨eq_of_getItem hfrom hrunning, fun name hname => ?_⟩
  exact heval name (hlists name hname) name (List.mem_singleton.2 rfl)

/-- **In every run of decisions on accepted documents, actions and tasks keep to the safety
paths.** -/
theorem guarded_decisions (hk : init resource predicates = .ok k)
    (hd : resource.lookup "documents" = some (.obj documents))
    (hs : validateSafetyPaths (machinesOf documents) = .ok ()) (state : String)
    (run : List (TransitionRequest × TransitionDecision)) :
    (DecisionRun sha256 k "action_transaction" state run →
        ∀ step ∈ run, ActionSafe predicates step) ∧
      (DecisionRun sha256 k "runtime_task" state run → ∀ step ∈ run, TaskSafe predicates step) := by
  constructor
  · intro h
    exact h.forall fun request d hid hdec => action_safe hk hd hs hid hdec
  · intro h
    exact h.forall fun request d hid hdec => task_safe hk hd hs hid hdec

end Decisions

/-! ### A small contract -/

/-- A transition document. -/
def sampleTransition (id source target command : String) (preconditions : List String) : Json :=
  .obj [("id", .str id), ("from", .str source), ("to", .str target),
    ("actor", .str "CMP-ACTION-EXECUTOR"), ("guard", .str "current"), ("automatic", .bool false),
    ("command", .str command), ("event", .str "EVT-STATE-CHANGED"),
    ("preconditions", .arr (preconditions.map .str))]

/-- A machine document; its first state is the initial one. -/
def sampleMachine (id owner : String) (states terminal : List String) (transitions : List Json) :
    Json :=
  .obj [("id", .str id), ("owner_component", .str owner),
    ("initial_state", .str (states.headD "")), ("states", .arr (states.map .str)),
    ("terminal_states", .arr (terminal.map .str)), ("transitions", .arr transitions)]

/-- The catalogue: one command that takes a key, and one that derives it. -/
def sampleCatalog : Json :=
  .obj [("commands", .arr [
      .obj [("id", .str "CMD-ADVANCE"), ("owner", .str "CMP-ACTION-EXECUTOR"),
        ("idempotency", .str "required"), ("version_check", .str "state_version")],
      .obj [("id", .str "CMD-RECONCILE-ACTION"), ("owner", .str "CMP-ACTION-EXECUTOR"),
        ("idempotency", .str "derived"), ("version_check", .str "state_version")]]),
    ("events", .arr [.obj [("id", .str "EVT-STATE-CHANGED"), ("producer", .str "CMP-SCHEDULER"),
      ("delivery", .str "at_least_once"), ("dedupe_key", .str "event_id")]])]

/-- A document set with one transition for each path, and further approvals of incidents. -/
def sampleDocuments (beside : List Json) : Fields :=
  [("commands_events", sampleCatalog),
    ("state_machine.incident", sampleMachine "incident" "CMP-CONTROL-API"
      ["WAITING_APPROVAL", "EXECUTING"] ["EXECUTING"]
      (sampleTransition "TR-INCIDENT-APPROVE" "WAITING_APPROVAL" "EXECUTING" "CMD-ADVANCE"
        incidentR2 :: beside)),
    ("state_machine.runtime_task", sampleMachine "runtime_task" "CMP-SCHEDULER"
      ["RUNNING", "SUCCEEDED"] ["SUCCEEDED"]
      [sampleTransition "TR-TASK-SUCCEED" "RUNNING" "SUCCEEDED" "CMD-ADVANCE"
        completionPreconditions]),
    ("state_machine.agent_graph", sampleMachine "agent_graph" "CMP-AGENT-WORKER"
      ["AWAIT_APPROVAL", "DISPATCH_ACTION"] ["DISPATCH_ACTION"]
      [sampleTransition "TR-GRAPH-APPROVE" "AWAIT_APPROVAL" "DISPATCH_ACTION" "CMD-ADVANCE"
        agentR2]),
    ("state_machine.action_transaction", sampleMachine "action_transaction" "CMP-ACTION-EXECUTOR"
      ["APPROVED", "EXECUTING", "UNCERTAIN", "MANUAL"] ["MANUAL"]
      [sampleTransition "TR-ACTION-DISPATCH" "APPROVED" "EXECUTING" "CMD-ADVANCE"
          dispatchPreconditions,
        sampleTransition "TR-ACTION-RECONCILE" "UNCERTAIN" "MANUAL" "CMD-RECONCILE-ACTION"
          ["matching_tenant"]])]

def sampleResource : Fields :=
  [("contracts_version", .str "1.1.0"), ("documents", .obj (sampleDocuments []))]

/-- The predicates of the small contract. -/
def samplePredicates : PredicateRegistry :=
  .factRegistry (["guard:TR-INCIDENT-APPROVE", "guard:TR-TASK-SUCCEED", "guard:TR-GRAPH-APPROVE",
    "guard:TR-ACTION-DISPATCH", "guard:TR-ACTION-RECONCILE", "approval_not_expired"] ++
    dispatchPreconditions ++ completionPreconditions) (by decide)

/-- The dispatch of an approved action, with every fact it needs. -/
def sampleDispatch : TransitionRequest :=
  { machineId := "action_transaction", transitionId := "TR-ACTION-DISPATCH"
    ownerComponent := "CMP-ACTION-EXECUTOR", actor := "CMP-ACTION-EXECUTOR"
    aggregateId := "action-1", state := "APPROVED", stateVersion := 0, command := "CMD-ADVANCE"
    expectedStateVersion := some 0, idempotencyKey := some "key-1"
    facts := some (("guard:TR-ACTION-DISPATCH" :: dispatchPreconditions).map fun name =>
      (name, .bool true)) }

theorem guarded_dispatch : ∃ k d, init sampleResource samplePredicates = .ok k ∧
    k.decide id sampleDispatch = .ok d ∧ d.nextState = "EXECUTING" ∧
    ∀ step ∈ [(sampleDispatch, d)], ActionSafe samplePredicates step := by
  have hsome : ((init sampleResource samplePredicates).toOption.bind fun k =>
      (k.decide id sampleDispatch).toOption).map (·.nextState) = some "EXECUTING" := by
    decide +kernel
  cases hk : init sampleResource samplePredicates with
  | error err => simp [hk, Except.toOption] at hsome
  | ok k =>
    cases hd : k.decide id sampleDispatch with
    | error err => simp [hk, hd, Except.toOption] at hsome
    | ok d =>
      refine ⟨k, d, rfl, hd, by simpa [hk, hd, Except.toOption] using hsome, ?_⟩
      exact (guarded_decisions hk rfl (by decide +kernel) "APPROVED" _).1
        (.cons rfl hd (.nil _))

/-! ### Approval paths -/

/-- The transition leads from one state to the other. -/
def Joins (source target : String) (transition : Json) : Prop :=
  between source target transition = .ok true

instance (source target : String) (transition : Json) : Decidable (Joins source target transition) :=
  inferInstanceAs (Decidable (_ = _))

/-- Every transition of the machine between the two states lists the preconditions. -/
def Guarded (machines : Fields) (name source target : String) (expected : List String) : Prop :=
  ∀ raws, transitionsOf machines name = .ok raws →
    ∀ t ∈ raws, Joins source target t → ∀ name ∈ expected, Lists t name

/-- The transitions after the first one between the two states. -/
def beside (source target : String) (raws : List Json) : List Json :=
  (raws.dropWhile fun t => ¬ Joins source target t).tail

/-- Every transition between the two states *beside the first one* lists the preconditions. -/
def BesideGuarded (machines : Fields) (name source target : String) (expected : List String) :
    Prop :=
  ∀ raws, transitionsOf machines name = .ok raws →
    ∀ t ∈ beside source target raws, Joins source target t → ∀ name ∈ expected, Lists t name

theorem guarded_iff_beside {name source target : String}
    (h : checkApproval machines name source target expected label = .ok ()) :
    Guarded machines name source target expected ↔
      BesideGuarded machines name source target expected := by
  obtain ⟨pre, r2, rest, hraws, hpre, hr2, hlists⟩ := checkApproval_eq_ok h
  have hskip : ∀ t ∈ pre, ¬ Joins source target t := by
    intro t ht hj
    rw [Joins, hpre t ht] at hj
    cases hj
  have hbeside : beside source target (pre ++ r2 :: rest) = rest := by
    have hdrop : (pre ++ r2 :: rest).dropWhile (fun t => ¬ Joins source target t) = r2 :: rest := by
      rw [List.dropWhile_append_of_pos (by simpa using hskip)]
      simp [Joins, hr2]
    rw [beside, hdrop, List.tail_cons]
  constructor
  · intro hall raws hr t ht hj
    rw [hraws, Except.ok.injEq] at hr
    subst hr
    rw [hbeside] at ht
    exact hall _ hraws t (List.mem_append_right _ (List.mem_cons_of_mem _ ht)) hj
  · intro hrest raws hr t ht hj
    rw [hraws, Except.ok.injEq] at hr
    subst hr
    rcases List.mem_append.1 ht with ht | ht
    · exact absurd hj (hskip t ht)
    · rcases List.mem_cons.1 ht with rfl | ht
      · exact hlists
      · exact hrest _ hraws t (by rwa [hbeside]) hj

/-- Every approval of an incident and of an agent is guarded. -/
def ApprovalsGuarded (machines : Fields) : Prop :=
  Guarded machines "incident" "WAITING_APPROVAL" "EXECUTING" incidentR2 ∧
    Guarded machines "agent_graph" "AWAIT_APPROVAL" "DISPATCH_ACTION" agentR2

/-- **Accepted documents guard every approval exactly when the approvals beside the first ones are
guarded.** -/
theorem guarded_iff (machines : Fields) (h : validateSafetyPaths machines = .ok ()) :
    ApprovalsGuarded machines ↔
      BesideGuarded machines "incident" "WAITING_APPROVAL" "EXECUTING" incidentR2 ∧
        BesideGuarded machines "agent_graph" "AWAIT_APPROVAL" "DISPATCH_ACTION" agentR2 := by
  obtain ⟨hincident, hagent, -⟩ := validateSafetyPaths_eq_ok h
  exact and_congr (guarded_iff_beside hincident) (guarded_iff_beside hagent)

/-- With one transition for each path nothing stands beside it. -/
theorem guarded_single : validateSafetyPaths (machinesOf (sampleDocuments [])) = .ok () ∧
    ApprovalsGuarded (machinesOf (sampleDocuments [])) := by
  have h : validateSafetyPaths (machinesOf (sampleDocuments [])) = .ok () := by decide +kernel
  refine ⟨h, (guarded_iff _ h).2 ⟨?_, ?_⟩⟩
  · intro raws hraws t ht
    cases hraws
    have hnone : beside "WAITING_APPROVAL" "EXECUTING" [sampleTransition "TR-INCIDENT-APPROVE"
      "WAITING_APPROVAL" "EXECUTING" "CMD-ADVANCE" incidentR2] = [] := by decide
    rw [hnone] at ht
    cases ht
  · intro raws hraws t ht
    cases hraws
    have hnone : beside "AWAIT_APPROVAL" "DISPATCH_ACTION" [sampleTransition "TR-GRAPH-APPROVE"
      "AWAIT_APPROVAL" "DISPATCH_ACTION" "CMD-ADVANCE" agentR2] = [] := by decide
    rw [hnone] at ht
    cases ht

/-- An approval without preconditions beside the guarded one. -/
def bypass : Json :=
  sampleTransition "TR-INCIDENT-BYPASS" "WAITING_APPROVAL" "EXECUTING" "CMD-ADVANCE"
    ["matching_tenant"]

/-- The validator accepts the bypass. -/
theorem not_guarded_bypass :
    validateSafetyPaths (machinesOf (sampleDocuments [bypass])) = .ok () ∧
      ¬ ApprovalsGuarded (machinesOf (sampleDocuments [bypass])) := by
  refine ⟨by decide +kernel, fun h => ?_⟩
  obtain ⟨value, items, hvalue, hitems, hmem⟩ :=
    h.1 _ rfl bypass (by decide) (by decide) "approval_not_expired" (by decide)
  cases hvalue
  cases hitems
  exact absurd hmem (by decide)

end SafetyPaths
