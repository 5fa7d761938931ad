/-
**Scenarios with an injected fault.**

`run_scenario` and `run_readiness_scenario_v3` switch a fault on, observe the system, and put the flag
document back in a `finally` clause, whatever has been raised before.  The client and the observer
may answer every call as they like, or raise.

The log holds the calls with their answers and, as marks, the exceptions that the two blocks have
caught.  How the oracle weighs the numbers of two observations is a parameter, since floats are not
modelled, and so is the packet that is made of the observations in the end.  Documents are compared
as values, whatever the order of their keys.

Main definitions:

* `ScenarioRuns.runScenario`, `ScenarioRuns.runReadinessScenarioV3` — the two functions;
* `ScenarioRuns.PutsBack` — the flags are put back;
* `ScenarioRuns.Explained` — what was raised in the fault phase is what is raised, or its cause;
* `ScenarioRuns.Diagnosable` — the diagnostics of a failure can be put together.

Main results:

* `ScenarioRuns.putBack_iff` — **the flags are always put back, and a failure is explained exactly if
  it can be diagnosed**.
-/

import FaultWitness.CallLogs
import FaultWitness.FlagDocuments
import FaultWitness.JsonCodec

set_option autoImplicit false

namespace ScenarioRuns

open Python CallLogs FlagDocuments

/-! ### Observations -/

/-- A value of an observation. -/
inductive Value
  | json (j : Json)
  /-- Anything that is no JSON value, such as a `datetime`. -/
  | other
deriving DecidableEq

/-- The function `bool`. -/
def Value.truthy : Value → Bool
  | .json .null => false
  | .json (.bool b) => b
  | .json (.int n) => n ≠ 0
  | .json (.float text) => text ≠ "0.0" && text ≠ "-0.0"
  | .json (.str text) => text ≠ ""
  | .json (.arr items) => items ≠ []
  | .json (.obj fields) => fields ≠ []
  | .other => true

/-- Whether a value goes through `json.dumps` and `json.loads`. -/
def Value.encodable : Value → Bool
  | .json j => j.sound
  | .other => false

/-- What the observer answers: a mapping, which need not be a dictionary. -/
structure Observation where
  fields : List (String × Value)
  isDict : Bool
deriving DecidableEq

def Observation.get (o : Observation) (key : String) : Option Value := o.fields.lookup key

/-- Whether an observation goes through `json.dumps` and `json.loads`. -/
def Observation.encodable (o : Observation) : Bool :=
  o.isDict && o.fields.all fun field => field.2.encodable

/-- The mapping as a dictionary. -/
def Observation.dict (o : Observation) : Observation := { o with isDict := true }

inductive OracleState
  | healthy
  | faultActive
  | unknown
deriving DecidableEq

def OracleState.value : OracleState → String
  | .healthy => "HEALTHY"
  | .faultActive => "FAULT_ACTIVE"
  | .unknown => "UNKNOWN"

inductive Phase
  | control
  | fault
  | recovery
deriving DecidableEq

/-! ### Exceptions and calls -/

/-- An exception of the client or the observer. -/
structure CallError where
  infrastructure : Bool
  code : ℕ
deriving DecidableEq

inductive Exn
  /-- A `GovernanceError` of the code itself. -/
  | governance (text : String)
  /-- A refusal of the change of the document. -/
  | flag (err : FlagError)
  | keyError
  /-- What the oracle raises on values it cannot compare. -/
  | oracle
  | call (err : CallError)
  /-- What is raised while the diagnostics are put together. -/
  | diagnostics
  /-- What is raised while the packet is made. -/
  | packet
  /-- A `GovernanceError` with a cause. -/
  | wrapped (text : String) (cause : Exn)
deriving DecidableEq

/-- The attribute `__cause__`. -/
def Exn.cause : Exn → Option Exn
  | .wrapped _ cause => some cause
  | _ => none

/-- An instance of `InfrastructureFailure`. -/
def Exn.isInfrastructure : Exn → Bool
  | .call err => err.infrastructure
  | _ => false

inductive Event
  | read (result : Except CallError Document)
  | write (document : Document) (result : Except CallError Unit)
  | observe (phase : Phase) (result : Except CallError Observation)
  | window (result : Except CallError Observation)
  | caughtInFault (err : Exn)
  | caughtInCleanup (err : Exn)

/-- The client and the observer. -/
structure World where
  read : List Event → Except CallError Document
  write : Document → List Event → Except CallError Unit
  observe : Phase → List Event → Except CallError Observation
  window : List Event → Except CallError Observation

abbrev Program := Run Exn Event

/-- A call whose exceptions are those of its answer. -/
def answered {α : Type} (answer : List Event → Except CallError α)
    (event : Except CallError α → Event) : Program α := fun log =>
  ((answer log).mapError Exn.call, event (answer log) :: log)

variable (w : World)

abbrev read : Program Document := answered w.read .read

abbrev write (document : Document) : Program Unit := answered (w.write document) (.write document)

abbrev observe (phase : Phase) : Program Observation := answered (w.observe phase) (.observe phase)

abbrev collectHealthyWindow : Program Observation :=
  answered (fun log => (w.window log).map Observation.dict) .window

/-! ### Oracles -/

/-- What is computed with floats. -/
structure Floats where
  /-- Whether two numbers are equal, of which one at least is a float. -/
  equal : Json → Json → Bool
  /-- Whether two observations show the fault; `none` if their values cannot be compared. -/
  weigh : String → Observation → Observation → Option Bool

/-- The states of a fault. -/
def faultState (floats : Floats) (faultClass : String) : List Observation → Except Exn OracleState
  | [first, second] =>
    match ADAPTERS.lookup faultClass with
    | none => .ok .unknown
    | some adapter =>
      if adapter.requiredFields.any (fun field =>
          (first.get field).isNone || (second.get field).isNone) then .ok .unknown
      else
        match floats.weigh faultClass first second with
        | none => .error .oracle
        | some true => .ok .faultActive
        | some false => .ok .healthy
  | _ => .ok .unknown

def recoveryFields : List String := ["ready", "journey_healthy", "signal_not_worsening"]

def recoveryState : List Observation → OracleState
  | [first, second] =>
    if recoveryFields.any fun field =>
        (first.get field).isNone || (second.get field).isNone then .unknown
    else if recoveryFields.all fun field =>
        (first.get field).any Value.truthy && (second.get field).any Value.truthy then .healthy
    else .faultActive
  | _ => .unknown

/-- The integer that a value is equal to; truth values are integers. -/
def integer : Json → Option ℤ
  | .bool b => some (if b then 1 else 0)
  | .int n => some n
  | _ => none

mutual

/-- The operator `==`. -/
def equal (floats : Floats) : Json → Json → Bool
  | .null, .null => true
  | .str s, .str t => s = t
  | .arr items, .arr others => equalItems floats items others
  | .obj fields, .obj others => fields.length = others.length && equalFields floats fields others
  | .float text, other =>
    match other with
    | .float _ | .int _ | .bool _ => floats.equal (.float text) other
    | _ => false
  | j, .float text => (integer j).isSome && floats.equal j (.float text)
  | j, k => (integer j).isSome && integer j = integer k

def equalItems (floats : Floats) : List Json → List Json → Bool
  | [], [] => true
  | j :: js, k :: ks => equal floats j k && equalItems floats js ks
  | _, _ => false

def equalFields (floats : Floats) : List (String × Json) → List (String × Json) → Bool
  | [], _ => true
  | (key, j) :: fields, others =>
    (match others.lookup key with
      | some k => equal floats j k
      | none => false) && equalFields floats fields others

end

/-- Whether two documents are equal. -/
def same (floats : Floats) (document other : Document) : Bool :=
  equal floats (.obj document) (.obj other)

/-! ### The two phases -/

variable (floats : Floats)

/-- The texts of the refusals, which differ between the two functions. -/
structure Texts where
  injection : String
  oracle : String
  restoration : String
  recovery : String

def scenarioTexts : Texts :=
  ⟨"fault injection readback mismatch", "fault oracle did not reach FAULT_ACTIVE",
    "exact flag restoration readback mismatch", "recovery oracle did not reach HEALTHY"⟩

def readinessTexts : Texts :=
  ⟨"metric v3 fault injection readback mismatch",
    "metric v3 fault oracle did not reach FAULT_ACTIVE",
    "metric v3 exact flag restoration readback mismatch",
    "metric v3 recovery oracle did not reach HEALTHY"⟩

/-- Injecting the fault and observing it. -/
def injectAndObserve (texts : Texts) (original : Document) (adapter : FaultAdapter) :
    Program (List Observation) := do
  let injected ← lift ((mutatedDocument original adapter).mapError Exn.flag)
  write w injected
  let document ← read w
  lift (if same floats document injected then .ok () else .error (.governance texts.injection))
  let first ← observe w .fault
  let second ← observe w .fault
  return [first, second]

/-- The body of the `try`: the observations it has assigned, and what it has raised. -/
def faultPhase (texts : Texts) (faultClass : String) (original : Document) (adapter : FaultAdapter) :
    Program (List Observation × Option Exn) := do
  match ← attempt (injectAndObserve w floats texts original adapter) with
  | .error err =>
    emit (.caughtInFault err)
    return ([], some err)
  | .ok observations =>
    match faultState floats faultClass observations with
    | .error err =>
      emit (.caughtInFault err)
      return (observations, some err)
    | .ok state =>
      if state = .faultActive then return (observations, none)
      else
        emit (.caughtInFault (.governance texts.oracle))
        return (observations, some (.governance texts.oracle))

/-- Putting the document back and observing the recovery. -/
def restoreAndObserve (texts : Texts) (original : Document) : Program (List Observation) := do
  write w original
  let document ← read w
  lift (if same floats document original then .ok () else .error (.governance texts.restoration))
  let first ← observe w .recovery
  let second ← observe w .recovery
  return [first, second]

/-- The body of the `finally`. -/
def cleanupPhase (texts : Texts) (original : Document) : Program (List Observation × Option Exn) := do
  match ← attempt (restoreAndObserve w floats texts original) with
  | .error err =>
    emit (.caughtInCleanup err)
    return ([], some err)
  | .ok observations =>
    if recoveryState observations = .healthy then return (observations, none)
    else
      emit (.caughtInCleanup (.governance texts.recovery))
      return (observations, some (.governance texts.recovery))

/-! ### The two functions -/

/-- What a scenario reports, apart from texts and digests. -/
structure Report where
  scenarioId : Json
  family : Json
  faultClass : String
  original : Document
  restored : Document
  faultObservations : List Observation
  recoveryObservations : List Observation

/-- The class of the fault of a scenario. -/
def faultClassOf (scenario : Document) : String :=
  match scenario.lookup "fault_action" with
  | some (.obj action) =>
    match action.lookup "class" with
    | some (.str faultClass) => faultClass
    | _ => ""
  | _ => ""

def item (scenario : Document) (key : String) : Except Exn Json :=
  match scenario.lookup key with
  | some value => .ok value
  | none => .error .keyError

def requireHealthy (observation : Observation) (text : String) : Except Exn Unit :=
  if observation.get "state" = some (.json (.str OracleState.healthy.value)) then .ok ()
  else .error (.governance text)

/-- The report; the document is read once more for its digest. -/
def report (scenario : Document) (faultClass : String) (original : Document)
    (faultObservations recoveryObservations : List Observation) : Program Report := do
  let scenarioId ← lift (item scenario "scenario_id")
  let family ← lift (item scenario "family")
  let restored ← read w
  return { scenarioId, family, faultClass, original, restored, faultObservations,
           recoveryObservations }

/-- Both phases, and what follows from what they have caught. -/
def phases {α : Type} (texts : Texts) (faultClass : String) (original : Document)
    (adapter : FaultAdapter)
    (finish : List Observation → Option Exn → List Observation → Option Exn → Program α) :
    Program α := do
  let fault ← faultPhase w floats texts faultClass original adapter
  let cleanup ← cleanupPhase w floats texts original
  finish fault.1 fault.2 cleanup.1 cleanup.2

/-- What follows the phases of `run_scenario`: the clean-up dominates. -/
def conclude (scenario : Document) (faultClass : String) (original : Document)
    (faultObservations : List Observation) (primary : Option Exn)
    (recoveryObservations : List Observation) (cleanup : Option Exn) : Program Report :=
  match cleanup, primary with
  | some err, _ =>
    lift (.error (.wrapped "scenario cleanup blocked and quarantined the SUT" err))
  | none, some err => lift (.error err)
  | none, none => report w scenario faultClass original faultObservations recoveryObservations

def runScenario (scenario : Document) (preconditionRecovery : Option (List Observation)) :
    Program Report := do
  let faultClass := faultClassOf scenario
  match ADAPTERS.lookup faultClass with
  | none => lift (.error (.governance "scenario uses unknown fault action"))
  | some adapter =>
    let original ← read w
    match preconditionRecovery with
    | none =>
      let control ← observe w .control
      lift (requireHealthy control "scenario healthy precondition is not proven")
    | some observations =>
      lift (if recoveryState observations = .healthy then .ok ()
        else .error (.governance
          "prior scenario recovery does not prove a healthy precondition"))
    phases w floats scenarioTexts faultClass original adapter
      (conclude w scenario faultClass original)

/-- The diagnostics of a failure; they hold the windows and the observations as JSON. -/
def diagnose (faultClass : String)
    (healthyWindows faultObservations recoveryObservations : List Observation) : Except Exn Unit :=
  match faultState floats faultClass faultObservations with
  | .error _ => .error .diagnostics
  | .ok _ =>
    if (healthyWindows ++ faultObservations ++ recoveryObservations).all Observation.encodable then
      .ok ()
    else .error .diagnostics

/-- What is raised for the exceptions of the two phases. -/
def raisedFor (primary : Exn) (cleanup : Option Exn) : Exn :=
  match cleanup with
  | some _ =>
    if primary.isInfrastructure then primary
    else .wrapped "cleanup also failed and quarantined the SUT" primary
  | none => primary

def healthyWindowCount : ℕ := 5

def collectWindows : ℕ → Program (List Observation)
  | 0 => pure []
  | n + 1 => do
    let window ← collectHealthyWindow w
    let windows ← collectWindows n
    return window :: windows

/-- The versions of the metric that are registered. -/
def registeredMetricVersions : List ℤ := [3]

/-- What follows the phases of `run_readiness_scenario_v3`; `makePacket` is the packet of public
measurements. -/
def concludeV3 (makePacket : Document → List Observation → List Observation → Except Unit Json)
    (scenario : Document) (faultClass : String) (original : Document)
    (healthyWindows faultObservations : List Observation) (primary : Option Exn)
    (recoveryObservations : List Observation) (cleanup : Option Exn) : Program (Report × Json) :=
  match primary, cleanup with
  | none, none => do
    let packet ← lift ((makePacket scenario healthyWindows faultObservations).mapError
      fun _ => Exn.packet)
    let result ← report w scenario faultClass original faultObservations recoveryObservations
    return (result, packet)
  | some err, _ => do
    lift (diagnose floats faultClass healthyWindows faultObservations recoveryObservations)
    lift (.error (raisedFor err cleanup))
  | none, some err => do
    lift (diagnose floats faultClass healthyWindows faultObservations recoveryObservations)
    lift (.error (if err.isInfrastructure then err
      else .wrapped "metric v3 scenario cleanup blocked and quarantined the SUT" err))

/-- The function `run_readiness_scenario_v3`. -/
def runReadinessScenarioV3
    (makePacket : Document → List Observation → List Observation → Except Unit Json)
    (metricVersion : ℤ) (scenario : Document) : Program (Report × Json) := do
  lift (if metricVersion ∈ registeredMetricVersions then .ok ()
    else .error (.governance "unsupported G03 readiness metric version"))
  let faultClass := faultClassOf scenario
  match ADAPTERS.lookup faultClass with
  | none => lift (.error (.governance "metric v3 scenario uses unknown fault action"))
  | some adapter =>
    let original ← read w
    let control ← observe w .control
    lift (requireHealthy control "metric v3 scenario healthy precondition is not proven")
    let healthyWindows ← collectWindows w healthyWindowCount
    phases w floats readinessTexts faultClass original adapter
      (concludeV3 w floats makePacket scenario faultClass original healthyWindows)

/-! ### Reading the log -/

/-- The documents that were written, the last one first. -/
def writes (log : List Event) : List Document :=
  log.filterMap fun
    | .write document _ => some document
    | _ => none

/-- The observations of a phase. -/
def observed (phase : Phase) (log : List Event) : List Observation :=
  (log.filterMap fun
    | .observe p (.ok o) => if p = phase then some o else none
    | _ => none).reverse

/-- The observations of a phase as they are assigned, which is both or none. -/
def assigned (phase : Phase) (log : List Event) : List Observation :=
  if (observed phase log).length = 2 then observed phase log else []

def windowsOf (log : List Event) : List Observation :=
  (log.filterMap fun
    | .window (.ok o) => some o
    | _ => none).reverse

/-- The exceptions of the fault phase. -/
def primaryErrors (log : List Event) : List Exn :=
  log.filterMap fun
    | .caughtInFault err => some err
    | _ => none

theorem writes_append (late early : List Event) : writes (late ++ early) = writes late ++ writes early :=
  List.filterMap_append

theorem observed_append (phase : Phase) (late early : List Event) :
    observed phase (late ++ early) = observed phase early ++ observed phase late := by
  rw [observed, List.filterMap_append, List.reverse_append]
  rfl

theorem windowsOf_append (late early : List Event) :
    windowsOf (late ++ early) = windowsOf early ++ windowsOf late := by
  rw [windowsOf, List.filterMap_append, List.reverse_append]
  rfl

theorem primaryErrors_append (late early : List Event) :
    primaryErrors (late ++ early) = primaryErrors late ++ primaryErrors early :=
  List.filterMap_append

/-! ### What the phases do -/

variable {w floats} {texts : Texts} {faultClass : String} {original : Document} {adapter : FaultAdapter}

/-- What the clean-up does. -/
inductive Cleaned (floats : Floats) (original : Document) (log : List Event) :
    List Observation × Option Exn → List Event → Prop
  | healed (document : Document) (first second : Observation)
      (hsame : same floats document original = true) (hstate : recoveryState [first, second] = .healthy) :
      Cleaned floats original log ([first, second], none)
        ([.observe .recovery (.ok second), .observe .recovery (.ok first), .read (.ok document),
          .write original (.ok ())] ++ log)
  | failed (observations : List Observation) (err : Exn) (late : List Event)
      (result : Except CallError Unit) (hwrites : writes late = [])
      (hobserved : observations = assigned .recovery late) (hfault : observed .fault late = [])
      (hwindows : windowsOf late = []) (hprimary : primaryErrors late = []) :
      Cleaned floats original log (observations, some err) ((late ++ [.write original result]) ++ log)

variable {α : Type} {answer : List Event → Except CallError α} {event : Except CallError α → Event}

theorem answered_of_ok {log : List Event} {a : α} (h : answer log = .ok a) :
    answered answer event log = (.ok a, event (.ok a) :: log) := by
  rw [answered, h]
  rfl

theorem answered_of_error {log : List Event} {err : CallError} (h : answer log = .error err) :
    answered answer event log = (.error (.call err), event (.error err) :: log) := by
  rw [answered, h]
  rfl

/-- What restoring does: it succeeds, or it fails after at most one observation. -/
inductive Restored (floats : Floats) (original : Document) (log : List Event) :
    Except Exn (List Observation) → List Event → Prop
  | done (document : Document) (first second : Observation) (hsame : same floats document original = true) :
      Restored floats original log (.ok [first, second])
        ([.observe .recovery (.ok second), .observe .recovery (.ok first), .read (.ok document),
          .write original (.ok ())] ++ log)
  | failed (err : Exn) (late : List Event) (result : Except CallError Unit) (hwrites : writes late = [])
      (hobserved : (observed .recovery late).length ≤ 1) (hfault : observed .fault late = [])
      (hwindows : windowsOf late = []) (hprimary : primaryErrors late = []) :
      Restored floats original log (.error err) ((late ++ [.write original result]) ++ log)

theorem restored_restoreAndObserve (w : World) (floats : Floats) (texts : Texts)
    (original : Document) (log : List Event) :
    Restored floats original log (restoreAndObserve w floats texts original log).1
      (restoreAndObserve w floats texts original log).2 := by
  rw [restoreAndObserve]
  rcases hwrite : w.write original log with err | ⟨⟩
  · rw [bind_of_error (answered_of_error hwrite)]
    exact .failed _ [] _ rfl (Nat.zero_le _) rfl rfl rfl
  rw [bind_of_ok (answered_of_ok hwrite)]
  rcases hread : w.read (.write original (.ok ()) :: log) with err | document
  · rw [bind_of_error (answered_of_error hread)]
    exact .failed _ [.read (.error err)] _ rfl (Nat.zero_le _) rfl rfl rfl
  rw [bind_of_ok (answered_of_ok hread)]
  by_cases hsame : same floats document original = true
  swap
  · rw [if_neg hsame, bind_of_error (lift_apply _ _)]
    exact .failed _ [.read (.ok document)] _ rfl (Nat.zero_le _) rfl rfl rfl
  rw [if_pos hsame, bind_of_ok (lift_apply _ _)]
  rcases hfirst : w.observe .recovery (.read (.ok document) :: .write original (.ok ()) :: log)
    with err | first
  · rw [bind_of_error (answered_of_error hfirst)]
    exact .failed _ [.observe .recovery (.error err), .read (.ok document)] _ rfl (Nat.zero_le _) rfl
      rfl rfl
  rw [bind_of_ok (answered_of_ok hfirst)]
  rcases hsecond : w.observe .recovery
    (.observe .recovery (.ok first) :: .read (.ok document) :: .write original (.ok ()) :: log)
    with err | second
  · rw [bind_of_error (answered_of_error hsecond)]
    exact .failed _ [.observe .recovery (.error err), .observe .recovery (.ok first),
      .read (.ok document)] _ rfl le_rfl rfl rfl rfl
  rw [bind_of_ok (answered_of_ok hsecond)]
  exact .done document first second hsame

theorem cleaned_cleanupPhase (w : World) (floats : Floats) (texts : Texts) (original : Document)
    (log : List Event) :
    ∃ outcome log', cleanupPhase w floats texts original log = (.ok outcome, log') ∧
      Cleaned floats original log outcome log' := by
  have h := restored_restoreAndObserve w floats texts original log
  have hattempt := attempt_apply (restoreAndObserve w floats texts original) log
  rcases hrun : restoreAndObserve w floats texts original log with ⟨result, log'⟩
  rw [hrun] at h hattempt
  rw [cleanupPhase, bind_of_ok hattempt]
  cases h with
  | done document first second hsame =>
    by_cases hstate : recoveryState [first, second] = .healthy
    · refine ⟨_, _, ?_, .healed document first second hsame hstate⟩
      simp only [if_pos hstate]
      rfl
    · refine ⟨_, _, ?_, .failed [first, second] (.governance texts.recovery)
        [.caughtInCleanup (.governance texts.recovery), .observe .recovery (.ok second),
          .observe .recovery (.ok first), .read (.ok document)] (.ok ()) rfl rfl rfl rfl rfl⟩
      simp only [if_neg hstate]
      rfl
  | failed err late result hwrites hobserved hfault hwindows hprimary =>
    refine ⟨_, _, rfl, ?_⟩
    refine .failed _ err (.caughtInCleanup err :: late) result hwrites ?_ hfault hwindows hprimary
    have hlength : (observed .recovery (.caughtInCleanup err :: late)).length ≤ 1 := hobserved
    rw [assigned, if_neg (by omega)]

/-- What injecting does: it succeeds, or it fails after at most one observation. -/
inductive Injected (original : Document) (adapter : FaultAdapter) :
    Except Exn (List Observation) → List Event → Prop
  | done (injected document : Document) (first second : Observation)
      (hinjected : mutatedDocument original adapter = .ok injected) :
      Injected original adapter (.ok [first, second])
        [.observe .fault (.ok second), .observe .fault (.ok first), .read (.ok document),
          .write injected (.ok ())]
  | failed (err : Exn) (late : List Event) (hshort : (writes late).length ≤ 1)
      (hwrites : ∀ d ∈ writes late, mutatedDocument original adapter = .ok d)
      (hobserved : (observed .fault late).length ≤ 1) (hrecovery : observed .recovery late = [])
      (hwindows : windowsOf late = []) (hprimary : primaryErrors late = [])
      (hnamed : err ≠ .diagnostics) : Injected original adapter (.error err) late

theorem injected_injectAndObserve (w : World) (floats : Floats) (texts : Texts) (original : Document)
    (adapter : FaultAdapter) (log : List Event) :
    ∃ result late, injectAndObserve w floats texts original adapter log = (result, late ++ log) ∧
      Injected original adapter result late := by
  rw [injectAndObserve]
  rcases hinjected : mutatedDocument original adapter with err | injected
  · exact ⟨_, [], bind_of_error (lift_apply _ _) _,
      .failed _ [] (Nat.zero_le _) (fun _ hd => absurd hd List.not_mem_nil) (Nat.zero_le _) rfl rfl rfl
        nofun⟩
  have hlift : (lift ((Except.ok injected).mapError Exn.flag) : Program Document) log =
      (.ok injected, log) := rfl
  rw [bind_of_ok hlift]
  have hmutated : ∀ d ∈ [injected], mutatedDocument original adapter = .ok d :=
    fun d hd => List.mem_singleton.1 hd ▸ hinjected
  rcases hwrite : w.write injected log with err | ⟨⟩
  · exact ⟨_, [.write injected (.error err)], bind_of_error (answered_of_error hwrite) _,
      .failed _ _ le_rfl hmutated (Nat.zero_le _) rfl rfl rfl
        nofun⟩
  rw [bind_of_ok (answered_of_ok hwrite)]
  rcases hread : w.read (.write injected (.ok ()) :: log) with err | document
  · exact ⟨_, [.read (.error err), .write injected (.ok ())], bind_of_error (answered_of_error hread) _,
      .failed _ _ le_rfl hmutated (Nat.zero_le _) rfl rfl rfl
        nofun⟩
  rw [bind_of_ok (answered_of_ok hread)]
  by_cases hsame : same floats document injected = true
  swap
  · rw [if_neg hsame]
    exact ⟨_, [.read (.ok document), .write injected (.ok ())], bind_of_error (lift_apply _ _) _,
      .failed _ _ le_rfl hmutated (Nat.zero_le _) rfl rfl rfl
        nofun⟩
  rw [if_pos hsame, bind_of_ok (lift_apply _ _)]
  rcases hfirst : w.observe .fault (.read (.ok document) :: .write injected (.ok ()) :: log)
    with err | first
  · exact ⟨_, [.observe .fault (.error err), .read (.ok document), .write injected (.ok ())],
      bind_of_error (answered_of_error hfirst) _,
      .failed _ _ le_rfl hmutated (Nat.zero_le _) rfl rfl rfl
        nofun⟩
  rw [bind_of_ok (answered_of_ok hfirst)]
  rcases hsecond : w.observe .fault
    (.observe .fault (.ok first) :: .read (.ok document) :: .write injected (.ok ()) :: log)
    with err | second
  · exact ⟨_, [.observe .fault (.error err), .observe .fault (.ok first), .read (.ok document),
      .write injected (.ok ())], bind_of_error (answered_of_error hsecond) _,
      .failed _ _ le_rfl hmutated le_rfl rfl rfl rfl nofun⟩
  rw [bind_of_ok (answered_of_ok hsecond)]
  exact ⟨_, _, rfl, .done injected document first second hinjected⟩

/-- What the fault phase adds to the log. -/
structure Faulted (original : Document) (adapter : FaultAdapter)
    (outcome : List Observation × Option Exn) (late : List Event) : Prop where
  short : (writes late).length ≤ 1
  writes : ∀ d ∈ writes late, mutatedDocument original adapter = .ok d
  observations : outcome.1 = assigned .fault late
  recovery : observed .recovery late = []
  windows : windowsOf late = []
  primary : primaryErrors late = outcome.2.toList
  named : outcome.2 ≠ some .diagnostics

variable {err : Exn} {observations : List Observation}

theorem Faulted.caught {late : List Event}
    (h : Faulted original adapter (observations, none) late) (herr : err ≠ .diagnostics) :
    Faulted original adapter (observations, some err) (.caughtInFault err :: late) :=
  ⟨h.short, h.writes, h.observations, h.recovery, h.windows, congrArg (err :: ·) h.primary,
    fun heq => herr (Option.some.inj heq)⟩

theorem faultState_eq_error (h : faultState floats faultClass observations = .error err) :
    err = .oracle := by
  rw [faultState.eq_def] at h
  split at h
  · split at h
    · cases h
    · split at h
      · cases h
      · split at h <;> cases h
        rfl
  · cases h

theorem faulted_faultPhase (w : World) (floats : Floats) (texts : Texts) (faultClass : String)
    (original : Document) (adapter : FaultAdapter) (log : List Event) :
    ∃ outcome late, faultPhase w floats texts faultClass original adapter log =
      (.ok outcome, late ++ log) ∧ Faulted original adapter outcome late := by
  obtain ⟨result, late, hrun, h⟩ := injected_injectAndObserve w floats texts original adapter log
  have hattempt := attempt_apply (injectAndObserve w floats texts original adapter) log
  rw [hrun] at hattempt
  rw [faultPhase, bind_of_ok hattempt]
  cases h with
  | failed err late hshort hwrites hobserved hrecovery hwindows hprimary hnamed =>
    have hnone : ([] : List Observation) = assigned .fault late := by rw [assigned, if_neg (by omega)]
    have hquiet : Faulted original adapter ([], none) late :=
      ⟨hshort, hwrites, hnone, hrecovery, hwindows, hprimary, nofun⟩
    exact ⟨_, _, rfl, hquiet.caught hnamed⟩
  | done injected document first second hinjected =>
    have hquiet : Faulted original adapter ([first, second], none)
        [.observe .fault (.ok second), .observe .fault (.ok first), .read (.ok document),
          .write injected (.ok ())] :=
      ⟨le_rfl, fun d hd => List.mem_singleton.1 hd ▸ hinjected, rfl, rfl, rfl, rfl, nofun⟩
    rcases hstate : faultState floats faultClass [first, second] with err | state
    · have herr := faultState_eq_error hstate
      subst herr
      refine ⟨_, _, ?_, hquiet.caught (nofun : Exn.oracle ≠ .diagnostics)⟩
      simp only [hstate]
      rfl
    by_cases hactive : state = .faultActive
    · refine ⟨_, _, ?_, hquiet⟩
      simp only [hstate, if_pos hactive]
      rfl
    · refine ⟨_, _, ?_, hquiet.caught (nofun : Exn.governance texts.oracle ≠ .diagnostics)⟩
      simp only [hstate, if_neg hactive]
      rfl

/-! ### What the functions do -/

/-- The original document has been read back, and both observations of the recovery were healthy. -/
def Healed (floats : Floats) (original : Document) (log : List Event) : Prop :=
  ∃ late early document first second,
    log = late ++ ([.observe .recovery (.ok second), .observe .recovery (.ok first),
      .read (.ok document), .write original (.ok ())] ++ early) ∧
    writes late = [] ∧ same floats document original = true ∧
    recoveryState [first, second] = .healthy

/-- Nothing is written and an exception is raised; or the last write is that of the document that was
read first, what was written before differs from it in the default variant of the flag only, and a
function that returns has seen the recovery. -/
def PutsBack {α : Type} (floats : Floats) (scenario : Document) (result : Except Exn α)
    (log : List Event) : Prop :=
  (writes log = [] ∧ ∃ err, result = .error err) ∨
  ∃ original adapter injected, log.getLast? = some (.read (.ok original)) ∧
    ADAPTERS.lookup (faultClassOf scenario) = some adapter ∧ writes log = original :: injected ∧
    (∀ document ∈ injected, OnlyVariant original document adapter.flagKey adapter.variant) ∧
    ((∃ a, result = .ok a) → Healed floats original log)

/-- What was raised in the fault phase is what is raised, or its cause. -/
def Explained {α : Type} (result : Except Exn α) (log : List Event) : Prop :=
  ∀ err ∈ primaryErrors log, ∃ raised, result = .error raised ∧ (raised = err ∨ raised.cause = some err)

/-- The diagnostics can be put together: the oracle can compare the observations of the fault, and
every observation and every healthy window goes through `json.dumps`. -/
def Diagnosable (floats : Floats) (faultClass : String) (log : List Event) : Prop :=
  (∃ state, faultState floats faultClass (assigned .fault log) = .ok state) ∧
  ∀ o ∈ windowsOf log ++ assigned .fault log ++ assigned .recovery log, o.encodable = true

/-- What has been logged before the fault phase. -/
structure Prelude (original : Document) (windows : List Observation) (early : List Event) : Prop where
  first : early.getLast? = some (.read (.ok original))
  writes : writes early = []
  fault : observed .fault early = []
  recovery : observed .recovery early = []
  windows : windowsOf early = windows
  primary : primaryErrors early = []

theorem phases_apply (w : World) (floats : Floats) (texts : Texts) (faultClass : String)
    (original : Document) (adapter : FaultAdapter)
    (finish : List Observation → Option Exn → List Observation → Option Exn → Program α)
    (early : List Event) :
    ∃ fault late cleanup log,
      phases w floats texts faultClass original adapter finish early =
        finish fault.1 fault.2 cleanup.1 cleanup.2 log ∧
      Faulted original adapter fault late ∧ Cleaned floats original (late ++ early) cleanup log := by
  obtain ⟨fault, late, hfault, hfaulted⟩ :=
    faulted_faultPhase w floats texts faultClass original adapter early
  obtain ⟨cleanup, log, hcleanup, hcleaned⟩ :=
    cleaned_cleanupPhase w floats texts original (late ++ early)
  refine ⟨fault, late, cleanup, log, ?_, hfaulted, hcleaned⟩
  rw [phases, bind_of_ok hfault, bind_of_ok hcleanup]

variable {outcome : List Observation × Option Exn}

theorem Cleaned.writes {before log : List Event} (h : Cleaned floats original before outcome log) :
    writes log = original :: ScenarioRuns.writes before ∧
      (outcome.2 = none → Healed floats original log) := by
  cases h with
  | healed document first second hsame hstate =>
    exact ⟨rfl, fun _ => ⟨[], before, document, first, second, rfl, rfl, hsame, hstate⟩⟩
  | failed observations err late result hwrites =>
    refine ⟨?_, nofun⟩
    rw [writes_append, writes_append, hwrites]
    rfl

theorem Cleaned.adds {before log : List Event} (h : Cleaned floats original before outcome log) :
    ∃ new, log = new ++ before ∧ outcome.1 = assigned .recovery new ∧ observed .fault new = [] ∧
      windowsOf new = [] ∧ primaryErrors new = [] := by
  cases h with
  | healed document first second hsame hstate => exact ⟨_, rfl, rfl, rfl, rfl, rfl⟩
  | failed observations err late result hwrites hobserved hfault hwindows hprimary =>
    refine ⟨_, rfl, ?_, ?_, ?_, ?_⟩
    · rw [hobserved, assigned, assigned, observed_append]
      rfl
    · rw [observed_append, hfault]
      rfl
    · rw [windowsOf_append, hwindows]
      rfl
    · rw [primaryErrors_append, hprimary]
      rfl

variable {scenario : Document} {windows : List Observation} {early late log : List Event}
  {fault cleanup : List Observation × Option Exn} {result : Except Exn α}

theorem putsBack_of_phases (hadapter : ADAPTERS.lookup (faultClassOf scenario) = some adapter)
    (hearly : Prelude original windows early) (hfault : Faulted original adapter fault late)
    (hcleanup : Cleaned floats original (late ++ early) cleanup log)
    (hresult : (∃ a, result = .ok a) → cleanup.2 = none) {more : List Event}
    (hmore : writes more = []) : PutsBack floats scenario result (more ++ log) := by
  obtain ⟨new, hlog, -⟩ := hcleanup.adds
  obtain ⟨hwrites, hhealed⟩ := hcleanup.writes
  rw [writes_append, hearly.writes, List.append_nil] at hwrites
  refine .inr ⟨original, adapter, writes late, ?_, hadapter, ?_, ?_, ?_⟩
  · rw [hlog, List.getLast?_append, List.getLast?_append, List.getLast?_append, hearly.first]
    rfl
  · rw [writes_append, hmore, hwrites]
    rfl
  · intro document hdocument
    exact onlyVariant_of_setVariant (setVariant_of_mutatedDocument (hfault.writes document hdocument))
  · intro hok
    obtain ⟨rest, before, document, first, second, rfl, hrest, hsame, hstate⟩ := hhealed (hresult hok)
    refine ⟨more ++ rest, before, document, first, second, ?_, ?_, hsame, hstate⟩
    · rw [List.append_assoc]
    · rw [writes_append, hmore, hrest]
      rfl

theorem logged_of_phases (hearly : Prelude original windows early)
    (hfault : Faulted original adapter fault late)
    (hcleanup : Cleaned floats original (late ++ early) cleanup log) :
    windowsOf log = windows ∧ assigned .fault log = fault.1 ∧ assigned .recovery log = cleanup.1 ∧
      primaryErrors log = fault.2.toList := by
  obtain ⟨new, rfl, hrecovery, hnone, hwindows, hprimary⟩ := hcleanup.adds
  refine ⟨?_, ?_, ?_, ?_⟩
  · rw [windowsOf_append, windowsOf_append, hearly.windows, hfault.windows, hwindows,
      List.append_nil, List.append_nil]
  · rw [hfault.observations, assigned, assigned, observed_append, observed_append, hearly.fault, hnone,
      List.append_nil, List.nil_append]
  · rw [hrecovery, assigned, assigned, observed_append, observed_append, hearly.recovery,
      hfault.recovery, List.append_nil, List.nil_append]
  · rw [primaryErrors_append, primaryErrors_append, hearly.primary, hprimary, hfault.primary,
      List.append_nil, List.nil_append]

theorem putsBack_of_error (h : writes log = []) :
    PutsBack floats scenario (.error err : Except Exn α) log :=
  .inl ⟨h, err, rfl⟩

/-! ### The older scenarios -/

theorem report_apply (w : World) (scenario : Document) (faultClass : String) (original : Document)
    (faultObservations recoveryObservations : List Observation) (log : List Event) :
    ∃ result more, report w scenario faultClass original faultObservations recoveryObservations log =
      (result, more ++ log) ∧ writes more = [] ∧ primaryErrors more = [] ∧ windowsOf more = [] ∧
      ∀ phase, observed phase more = [] := by
  rw [report]
  rcases hid : item scenario "scenario_id" with err | scenarioId
  · exact ⟨_, [], bind_of_error (lift_apply _ _) _, rfl, rfl, rfl, fun _ => rfl⟩
  rw [bind_of_ok (lift_apply _ _)]
  rcases hfamily : item scenario "family" with err | family
  · exact ⟨_, [], bind_of_error (lift_apply _ _) _, rfl, rfl, rfl, fun _ => rfl⟩
  rw [bind_of_ok (lift_apply _ _)]
  rcases hread : w.read log with err | restored
  · exact ⟨_, [.read (.error err)], bind_of_error (answered_of_error hread) _, rfl, rfl, rfl,
      fun _ => rfl⟩
  · rw [bind_of_ok (answered_of_ok hread)]
    exact ⟨_, [.read (.ok restored)], rfl, rfl, rfl, rfl, fun _ => rfl⟩

theorem putsBack_conclude (w : World) (floats : Floats)
    (hadapter : ADAPTERS.lookup (faultClassOf scenario) = some adapter)
    (hearly : Prelude original windows early) :
    ∃ result log, phases w floats scenarioTexts (faultClassOf scenario) original adapter
      (conclude w scenario (faultClassOf scenario) original) early = (result, log) ∧
      PutsBack floats scenario result log := by
  obtain ⟨fault, late, cleanup, log, hrun, hfault, hcleanup⟩ :=
    phases_apply w floats scenarioTexts (faultClassOf scenario) original adapter
      (conclude w scenario (faultClassOf scenario) original) early
  rw [hrun]
  have hput {result : Except Exn Report} {more : List Event} :
      ((∃ a, result = .ok a) → cleanup.2 = none) → writes more = [] →
        PutsBack floats scenario result (more ++ log) :=
    fun hresult hmore => putsBack_of_phases hadapter hearly hfault hcleanup hresult hmore
  have hraised (err : Exn) : PutsBack floats scenario (.error err : Except Exn Report) log :=
    hput (fun ⟨_, h⟩ => nomatch h) (show writes [] = [] from rfl)
  obtain ⟨observations, cleanup⟩ := cleanup
  obtain ⟨faults, primary⟩ := fault
  cases cleanup with
  | some err => exact ⟨_, _, rfl, hraised _⟩
  | none =>
    cases primary with
    | some err => exact ⟨_, _, rfl, hraised _⟩
    | none =>
      obtain ⟨result, more, hreport, hmore, -⟩ :=
        report_apply w scenario (faultClassOf scenario) original faults observations log
      exact ⟨result, _, hreport, hput (fun _ => rfl) hmore⟩

theorem putsBack_checked (hadapter : ADAPTERS.lookup (faultClassOf scenario) = some adapter)
    (hearly : Prelude original windows early) (check : Except Exn Unit) :
    PutsBack floats scenario
      ((lift check >>= fun _ => phases w floats scenarioTexts (faultClassOf scenario) original adapter
        (conclude w scenario (faultClassOf scenario) original)) early).1
      ((lift check >>= fun _ => phases w floats scenarioTexts (faultClassOf scenario) original adapter
        (conclude w scenario (faultClassOf scenario) original)) early).2 := by
  cases check with
  | error err =>
    rw [bind_of_error (lift_apply _ _)]
    exact putsBack_of_error hearly.writes
  | ok done =>
    obtain ⟨result, log, hrun, hput⟩ :=
      putsBack_conclude w floats hadapter hearly
    rw [bind_of_ok (lift_apply _ _), hrun]
    exact hput

/-- **An older scenario always puts the flags back.** -/
theorem putsBack_runScenario (w : World) (floats : Floats) (scenario : Document)
    (preconditionRecovery : Option (List Observation)) :
    PutsBack floats scenario (runScenario w floats scenario preconditionRecovery []).1
      (runScenario w floats scenario preconditionRecovery []).2 := by
  rw [runScenario]
  rcases hadapter : ADAPTERS.lookup (faultClassOf scenario) with _ | adapter
  · exact putsBack_of_error rfl
  simp only
  rcases hread : w.read [] with err | original
  · rw [bind_of_error (answered_of_error hread)]
    exact putsBack_of_error rfl
  rw [bind_of_ok (answered_of_ok hread)]
  cases preconditionRecovery with
  | none =>
    rcases hcontrol : w.observe .control [.read (.ok original)] with err | control
    · simp only [bind_of_error (answered_of_error hcontrol)]
      exact putsBack_of_error rfl
    simp only [bind_of_ok (answered_of_ok hcontrol)]
    exact putsBack_checked hadapter ⟨rfl, rfl, rfl, rfl, rfl, rfl⟩ _
  | some observations => exact putsBack_checked hadapter ⟨rfl, rfl, rfl, rfl, rfl, rfl⟩ _

/-! ### The scenarios of the third version -/

theorem diagnose_cases (floats : Floats) (faultClass : String)
    (healthyWindows faultObservations recoveryObservations : List Observation) :
    diagnose floats faultClass healthyWindows faultObservations recoveryObservations = .ok () ∧
        (∃ state, faultState floats faultClass faultObservations = .ok state) ∧
        (∀ o ∈ healthyWindows ++ faultObservations ++ recoveryObservations, o.encodable = true) ∨
      diagnose floats faultClass healthyWindows faultObservations recoveryObservations =
          .error .diagnostics ∧
        ¬((∃ state, faultState floats faultClass faultObservations = .ok state) ∧
          ∀ o ∈ healthyWindows ++ faultObservations ++ recoveryObservations, o.encodable = true) := by
  rw [diagnose]
  rcases hstate : faultState floats faultClass faultObservations with err | state
  · refine .inr ⟨rfl, ?_⟩
    rintro ⟨⟨state, hstate'⟩, -⟩
    cases hstate'
  · simp only
    by_cases hall : (healthyWindows ++ faultObservations ++ recoveryObservations).all
        Observation.encodable = true
    · exact .inl ⟨if_pos hall, ⟨state, rfl⟩, List.all_eq_true.1 hall⟩
    · refine .inr ⟨if_neg hall, ?_⟩
      rintro ⟨-, hencodable⟩
      exact hall (List.all_eq_true.2 hencodable)

/-- What is raised for an exception of the fault phase is the exception, or has it as its cause. -/
theorem raisedFor_or (primary : Exn) (cleanup : Option Exn) :
    raisedFor primary cleanup = primary ∨ (raisedFor primary cleanup).cause = some primary := by
  cases cleanup with
  | none => exact .inl rfl
  | some err =>
    rw [raisedFor]
    by_cases hinfra : primary.isInfrastructure = true
    · exact .inl (if_pos hinfra)
    · refine .inr ?_
      simp only [if_neg hinfra]
      rfl

theorem explained_of_quiet (h : primaryErrors log = []) :
    Explained result log ↔
      (primaryErrors log ≠ [] → Diagnosable floats (faultClassOf scenario) log) := by
  rw [Explained, h]
  exact ⟨fun _ hne => absurd rfl hne, fun _ _ hmem => absurd hmem List.not_mem_nil⟩

theorem explained_of_diagnosed (cleanup : Option Exn) (h : primaryErrors log = [err])
    (hgood : Diagnosable floats (faultClassOf scenario) log) :
    Explained (.error (raisedFor err cleanup) : Except Exn α) log ↔
      (primaryErrors log ≠ [] → Diagnosable floats (faultClassOf scenario) log) := by
  refine ⟨fun _ _ => hgood, fun _ e he => ?_⟩
  rw [h] at he
  cases List.mem_singleton.1 he
  exact ⟨_, rfl, raisedFor_or err cleanup⟩

/-- Diagnostics that cannot be put together hide the exception of the fault phase. -/
theorem explained_of_undiagnosed (h : primaryErrors log = [err]) (hnamed : err ≠ .diagnostics)
    (hbad : ¬Diagnosable floats (faultClassOf scenario) log) :
    Explained (.error .diagnostics : Except Exn α) log ↔
      (primaryErrors log ≠ [] → Diagnosable floats (faultClassOf scenario) log) := by
  refine ⟨fun hexplained => ?_, fun hgood => absurd (hgood (h ▸ List.cons_ne_nil _ _)) hbad⟩
  obtain ⟨raised, hraised, hor⟩ := hexplained err (h ▸ List.mem_singleton_self err)
  cases hraised
  rcases hor with rfl | hcause
  · exact absurd rfl hnamed
  · cases hcause

theorem putsBack_concludeV3
    (makePacket : Document → List Observation → List Observation → Except Unit Json)
    (hadapter : ADAPTERS.lookup (faultClassOf scenario) = some adapter)
    (hearly : Prelude original windows early) :
    ∃ result log, phases w floats readinessTexts (faultClassOf scenario) original adapter
        (concludeV3 w floats makePacket scenario (faultClassOf scenario) original windows) early =
          (result, log) ∧
      PutsBack floats scenario result log ∧
      (Explained result log ↔
        (primaryErrors log ≠ [] → Diagnosable floats (faultClassOf scenario) log)) := by
  obtain ⟨fault, late, cleanup, log, hrun, hfault, hcleanup⟩ :=
    phases_apply w floats readinessTexts (faultClassOf scenario) original adapter
      (concludeV3 w floats makePacket scenario (faultClassOf scenario) original windows) early
  rw [hrun]
  have hput {result : Except Exn (Report × Json)} {more : List Event} :
      ((∃ a, result = .ok a) → cleanup.2 = none) → writes more = [] →
        PutsBack floats scenario result (more ++ log) :=
    fun hresult hmore => putsBack_of_phases hadapter hearly hfault hcleanup hresult hmore
  have hraised {err : Exn} : PutsBack floats scenario (.error err : Except Exn (Report × Json)) log :=
    hput (fun ⟨_, h⟩ => nomatch h) (show writes [] = [] from rfl)
  obtain ⟨hwindows, hfaults, hrecovery, hprimary⟩ := logged_of_phases hearly hfault hcleanup
  have hnamed := hfault.named
  obtain ⟨observations, cleanup⟩ := cleanup
  obtain ⟨faults, primary⟩ := fault
  cases primary with
  | none =>
    cases cleanup with
    | none =>
      rcases hpacket : makePacket scenario windows faults with err | packet
      · refine ⟨.error .packet, log, ?_, hraised,
          explained_of_quiet hprimary⟩
        rw [concludeV3, hpacket]
        rfl
      obtain ⟨result, more, hreport, hmore, hmoreprimary, -⟩ :=
        report_apply w scenario (faultClassOf scenario) original faults observations log
      have hquiet : primaryErrors (more ++ log) = [] := by
        rw [primaryErrors_append, hmoreprimary, hprimary]
        rfl
      have hlift : (lift ((Except.ok packet).mapError fun _ : Unit => Exn.packet) : Program Json) log =
          (.ok packet, log) := rfl
      refine ⟨result.map fun r => (r, packet), more ++ log, ?_, hput (fun _ => rfl) hmore,
        explained_of_quiet hquiet⟩
      rw [concludeV3, hpacket, bind_of_ok hlift]
      cases result with
      | error err => rw [bind_of_error hreport]; rfl
      | ok r => rw [bind_of_ok hreport]; rfl
    | some err =>
      rcases diagnose_cases floats (faultClassOf scenario) windows faults observations with
        ⟨hdiagnose, -⟩ | ⟨hdiagnose, -⟩
      · refine ⟨.error (if err.isInfrastructure then err
          else .wrapped "metric v3 scenario cleanup blocked and quarantined the SUT" err),
          log, ?_, hraised, explained_of_quiet hprimary⟩
        simp only [concludeV3]
        rw [hdiagnose, bind_of_ok (lift_apply _ _)]
        rfl
      · refine ⟨.error .diagnostics, log, ?_, hraised,
          explained_of_quiet hprimary⟩
        simp only [concludeV3]
        rw [hdiagnose, bind_of_error (lift_apply _ _)]
  | some err =>
    have hlogged : Diagnosable floats (faultClassOf scenario) log =
        ((∃ state, faultState floats (faultClassOf scenario) faults = .ok state) ∧
          ∀ o ∈ windows ++ faults ++ observations, o.encodable = true) := by
      rw [Diagnosable, hwindows, hfaults, hrecovery]
    rcases diagnose_cases floats (faultClassOf scenario) windows faults observations with
      ⟨hdiagnose, hgood⟩ | ⟨hdiagnose, hbad⟩
    · rw [← hlogged] at hgood
      refine ⟨.error (raisedFor err cleanup), log, ?_,
        hraised,
        explained_of_diagnosed cleanup hprimary hgood⟩
      simp only [concludeV3]
      rw [hdiagnose, bind_of_ok (lift_apply _ _)]
      rfl
    · rw [← hlogged] at hbad
      refine ⟨.error .diagnostics, log, ?_, hraised,
        explained_of_undiagnosed hprimary (fun heq => hnamed (congrArg some heq)) hbad⟩
      simp only [concludeV3]
      rw [hdiagnose, bind_of_error (lift_apply _ _)]

theorem collectWindows_apply (w : World) : ∀ (n : ℕ) (log : List Event),
    ∃ result new, collectWindows w n log = (result, new ++ log) ∧ writes new = [] ∧
      primaryErrors new = [] ∧ (∀ phase, observed phase new = []) ∧
      ∀ windows, result = .ok windows → windowsOf new = windows
  | 0, log => ⟨_, [], rfl, rfl, rfl, fun _ => rfl, fun _ h => by cases h; rfl⟩
  | n + 1, log => by
    rw [collectWindows]
    rcases hwindow : (w.window log).map Observation.dict with err | window
    · exact ⟨_, [.window (.error err)], bind_of_error (answered_of_error hwindow) _, rfl, rfl,
        fun _ => rfl, nofun⟩
    rw [bind_of_ok (answered_of_ok hwindow)]
    obtain ⟨result, new, hrun, hwrites, hprimary, hobserved, hwindows⟩ :=
      collectWindows_apply w n (.window (.ok window) :: log)
    have hnew : new ++ .window (.ok window) :: log = (new ++ [.window (.ok window)]) ++ log := by simp
    rw [hnew] at hrun
    have hwrites' : writes (new ++ [.window (.ok window)]) = [] := by rw [writes_append, hwrites]; rfl
    have hprimary' : primaryErrors (new ++ [.window (.ok window)]) = [] := by
      rw [primaryErrors_append, hprimary]; rfl
    have hobserved' : ∀ phase, observed phase (new ++ [.window (.ok window)]) = [] := fun phase => by
      rw [observed_append, hobserved]; rfl
    cases result with
    | error err =>
      exact ⟨_, _, bind_of_error hrun _, hwrites', hprimary', hobserved', nofun⟩
    | ok windows =>
      refine ⟨_, _, bind_of_ok hrun _, hwrites', hprimary', hobserved', fun all h => ?_⟩
      cases h
      rw [windowsOf_append, hwindows windows rfl]
      rfl

/-- **The flags are put back, and a failure is explained exactly if it can be diagnosed.** -/
theorem putsBack_runReadinessScenarioV3 (w : World) (floats : Floats)
    (makePacket : Document → List Observation → List Observation → Except Unit Json)
    (metricVersion : ℤ) (scenario : Document) :
    ∃ result log, runReadinessScenarioV3 w floats makePacket metricVersion scenario [] =
        (result, log) ∧
      PutsBack floats scenario result log ∧
      (Explained result log ↔
        (primaryErrors log ≠ [] → Diagnosable floats (faultClassOf scenario) log)) := by
  rw [runReadinessScenarioV3]
  by_cases hversion : metricVersion ∈ registeredMetricVersions
  swap
  · rw [if_neg hversion, bind_of_error (lift_apply _ _)]
    exact ⟨_, _, rfl, putsBack_of_error rfl, explained_of_quiet rfl⟩
  rw [if_pos hversion, bind_of_ok (lift_apply _ _)]
  rcases hadapter : ADAPTERS.lookup (faultClassOf scenario) with _ | adapter
  · exact ⟨_, _, rfl, putsBack_of_error rfl, explained_of_quiet rfl⟩
  simp only
  rcases hread : w.read [] with err | original
  · rw [bind_of_error (answered_of_error hread)]
    exact ⟨_, _, rfl, putsBack_of_error rfl, explained_of_quiet rfl⟩
  rw [bind_of_ok (answered_of_ok hread)]
  rcases hcontrol : w.observe .control [.read (.ok original)] with err | control
  · rw [bind_of_error (answered_of_error hcontrol)]
    exact ⟨_, _, rfl, putsBack_of_error rfl, explained_of_quiet rfl⟩
  rw [bind_of_ok (answered_of_ok hcontrol)]
  rcases hhealthy : requireHealthy control "metric v3 scenario healthy precondition is not proven"
    with err | ⟨⟩
  · rw [bind_of_error (lift_apply _ _)]
    exact ⟨_, _, rfl, putsBack_of_error rfl, explained_of_quiet rfl⟩
  rw [bind_of_ok (lift_apply _ _)]
  obtain ⟨result, new, hrun, hwrites, hprimary, hobserved, hwindows⟩ :=
    collectWindows_apply w healthyWindowCount
      [.observe .control (.ok control), .read (.ok original)]
  cases result with
  | error err =>
    have hquiet : primaryErrors (new ++ [.observe .control (.ok control), .read (.ok original)]) =
        [] := by rw [primaryErrors_append, hprimary]; rfl
    rw [bind_of_error hrun]
    refine ⟨_, _, rfl, putsBack_of_error ?_, explained_of_quiet hquiet⟩
    rw [writes_append, hwrites]
    rfl
  | ok windows =>
    rw [bind_of_ok hrun]
    refine putsBack_concludeV3 makePacket hadapter ⟨?_, ?_, ?_, ?_, ?_, ?_⟩
    · rw [List.getLast?_append]
      rfl
    · rw [writes_append, hwrites]
      rfl
    · rw [observed_append, hobserved]
      rfl
    · rw [observed_append, hobserved]
      rfl
    · rw [windowsOf_append, hwindows windows rfl]
      rfl
    · rw [primaryErrors_append, hprimary]
      rfl

/-- **The flags are always put back, and a failure is explained exactly if it can be diagnosed.** -/
theorem putBack_iff (w : World) (floats : Floats) (scenario : Document)
    (preconditionRecovery : Option (List Observation))
    (makePacket : Document → List Observation → List Observation → Except Unit Json)
    (metricVersion : ℤ) :
    let older := runScenario w floats scenario preconditionRecovery []
    let newer := runReadinessScenarioV3 w floats makePacket metricVersion scenario []
    (PutsBack floats scenario older.1 older.2 ∧ PutsBack floats scenario newer.1 newer.2 ∧
        Explained newer.1 newer.2) ↔
      (primaryErrors newer.2 ≠ [] → Diagnosable floats (faultClassOf scenario) newer.2) := by
  obtain ⟨result, log, hrun, hput, hexplained⟩ :=
    putsBack_runReadinessScenarioV3 w floats makePacket metricVersion scenario
  have hold := putsBack_runScenario w floats scenario preconditionRecovery
  simp only [hrun]
  exact ⟨fun h => hexplained.1 h.2.2, fun h => ⟨hold, hput, hexplained.2 h⟩⟩

/-! ### A failure that is not explained -/

/-- A document with the flag of a fault. -/
def sampleDocument : Document :=
  [("flags", .obj [("productCatalogFailure", .obj [("state", .str "ENABLED"),
    ("variants", .obj [("on", .bool true), ("off", .bool false)]), ("defaultVariant", .str "off")])])]

def sampleScenario : Document :=
  [("scenario_id", .str "SEED-G02-0001"), ("family", .str "change_config"),
    ("fault_action", .obj [("class", .str "productCatalogFailure")])]

/-- The client keeps what was written last; during the fault the observer sees a journey that has not
failed, and notes the time as a `datetime`. -/
def sampleWorld : World where
  read log := .ok ((writes log).headD sampleDocument)
  write _ _ := .ok ()
  observe phase _ := .ok <|
    match phase with
    | .control => ⟨[("state", .json (.str "HEALTHY"))], true⟩
    | .fault => ⟨[("journey_failed", .json (.bool false)), ("correlated_error", .json (.bool false)),
        ("observed_at", .other)], true⟩
    | .recovery => ⟨[("ready", .json (.bool true)), ("journey_healthy", .json (.bool true)),
        ("signal_not_worsening", .json (.bool true))], true⟩
  window _ := .ok ⟨[], true⟩

/-- The oracle of the fault; no floats occur. -/
def sampleFloats : Floats where
  equal j k := decide (j = k)
  weigh _ first second := some <| [first, second].all fun o =>
    ["journey_failed", "correlated_error"].all fun field => (o.get field).any Value.truthy

/-- The oracle does not see the fault, and what is raised is that a `datetime` is not JSON. -/
theorem not_explained_datetime :
    ¬∀ (w : World) (floats : Floats) (scenario : Document)
      (makePacket : Document → List Observation → List Observation → Except Unit Json),
      Explained (runReadinessScenarioV3 w floats makePacket 3 scenario []).1
        (runReadinessScenarioV3 w floats makePacket 3 scenario []).2 := by
  intro h
  obtain ⟨raised, hraised, hor⟩ := h sampleWorld sampleFloats sampleScenario (fun _ _ _ => .ok .null)
    (.governance readinessTexts.oracle) (by decide +kernel)
  have herr : (runReadinessScenarioV3 sampleWorld sampleFloats (fun _ _ _ => .ok .null) 3
      sampleScenario []).1 = .error .diagnostics := by rfl
  rw [herr] at hraised
  cases hraised
  rcases hor with hor | hor <;> cases hor

end ScenarioRuns
