/-
**The matrix of scenarios.**

The gate goes through the seeds of its catalogue.  A seed that the journal holds as a pass under its
key is recalled, and its recovery is the precondition of the next one; a seed that it holds as a
failure ends the call; every other seed is run as a scenario of its own and recorded.  How it is
recorded depends on the class of what it raises: an infrastructure failure may be run again, and a
failed metric may not.

The clean-up of a scenario wraps whatever it catches in a `GovernanceError`, so that the class of an
infrastructure failure is lost there.

Main definitions:

* `ScenarioMatrix.runScenarioMatrix` — the function `run_gate_scenario_matrix`;
* `ScenarioMatrix.VerdictFailed` — a verdict or a readback of a trial was evaluated and failed;
* `ScenarioMatrix.Executed.Uninterrupted` — nothing but verdicts and readbacks makes the trial a failed metric.

Main results:

* `ScenarioMatrix.visited` — what a call leaves of each of its trials;
* `ScenarioMatrix.retryable_iff` — **infrastructure failures stay retryable exactly if no clean-up is
  cut short and no other refusal is raised, or a verdict has failed anyway**.
-/

import FaultWitness.ScenarioRuns
import FaultWitness.Experiments

set_option autoImplicit false

namespace ScenarioMatrix

open Python CallLogs FlagDocuments ScenarioRuns
open Experiments (Status Record Journal digest subject running)

/-! ### Seeds and trials -/

/-- The number of a seed, with four digits. -/
def fourDigits (n : ℕ) : String :=
  String.ofList (List.replicate (4 - (toString n).length) '0') ++ toString n

/-- A seed of the catalogue, which has been validated. -/
structure Seed where
  number : ℕ
  scenario : Document
  family : Json
  adapter : FaultAdapter
  id_eq : scenario.lookup "scenario_id" = some (.str ("SEED-G02-" ++ fourDigits number))
  family_eq : scenario.lookup "family" = some family
  adapter_eq : ADAPTERS.lookup (faultClassOf scenario) = some adapter

namespace Seed

variable (seed : Seed)

def scenarioId : String := "SEED-G02-" ++ fourDigits seed.number

def faultClass : String := faultClassOf seed.scenario

def trialId : String := "g02-scenario-seed-g02-" ++ fourDigits seed.number

end Seed

/-- How the client and the observer of one trial behave, and whether they can be made at all. -/
structure Trial where
  made : Except CallError Unit
  world : World

/-- The seeds in their order, each with its trial if it comes to that. -/
structure Catalogue where
  entries : List (Seed × Trial)
  numbers : entries.map (fun entry => entry.1.number) = List.range' 1 32

/-- What an exception is that is no `InfrastructureFailure`. -/
inductive Kind
  /-- A `GovernanceError` of a client that has read back something else than it wrote. -/
  | readback
  /-- Another `GovernanceError`. -/
  | governance
  | other
deriving DecidableEq

/-- What the matrix uses. -/
structure Library where
  sha256 : String → String
  floats : Floats
  /-- The kinds of the exceptions, by their codes. -/
  kind : ℕ → Kind
  /-- The packet of public measurements. -/
  buildObservationPacket : Document → List Observation → Except ℕ Json
  /-- The text of an exception. -/
  reason : Exn → String
  /-- The function `dict`, of a value in a record. -/
  dict : Json → Option Json

variable (lib : Library) (imageSetDigest producerSha : String)

def cacheKey (seed : Seed) : String :=
  digest lib.sha256 (subject
    [("sut", imageSetDigest),
      ("trace_service", lib.sha256 "g02-live-scenario-observer-contract-v2")] []
    (lib.sha256 ((Json.obj seed.scenario).dumpsWith quoteRaw)))

/-! ### The trial of a seed -/

/-- The classes between which the matrix distinguishes. -/
inductive Class
  | infrastructure
  | governance
  | other
deriving DecidableEq

def CallError.class (err : CallError) : Class :=
  if err.infrastructure then .infrastructure
  else if lib.kind err.code = .other then .other
  else .governance

def classOf : Exn → Class
  | .call err => CallError.class lib err
  | .governance _ => .governance
  | .flag .governance => .governance
  | .wrapped _ _ => .governance
  | .flag _ => .other
  | .keyError => .other
  | .oracle => .other
  | .diagnostics => .other
  | .packet => .other

/-- What a trial has been through. -/
structure Executed where
  seed : Seed
  trial : Trial
  precondition : Option (List Observation)
  result : Except Exn (Report × Json)
  log : List Event

/-- The trial of a seed: the scenario, and the packet made of its observations. -/
def execute (seed : Seed) (trial : Trial) (precondition : Option (List Observation)) : Executed :=
  let program : Program (Report × Json) := do
    lift (trial.made.mapError Exn.call)
    let report ← runScenario trial.world lib.floats seed.scenario precondition
    let packet ← lift ((lib.buildObservationPacket seed.scenario report.faultObservations).mapError
      fun code => Exn.call ⟨false, code⟩)
    return (report, packet)
  { seed, trial, precondition, result := (program []).1, log := (program []).2 }

/-- Whether a report can be written into the journal. -/
def encodable (report : Report) : Bool :=
  (report.faultObservations ++ report.recoveryObservations).all Observation.encodable

/-- The status that is recorded in the end; a trial that raises anything else stays as it is. -/
def Executed.status (e : Executed) : Status :=
  match e.result with
  | .ok (report, _) => if encodable report then .pass else .running
  | .error err =>
    match classOf lib err with
    | .infrastructure => .infraFailed
    | .governance => .metricFail
    | .other => .running

/-! ### Records -/

/-- A value of an observation as JSON; others are not written. -/
def Value.json : Value → Json
  | .json j => j
  | .other => .null

def observationJson (o : Observation) : Json := .obj (o.fields.map fun f => (f.1, Value.json f.2))

def basePayload (seed : Seed) : List (String × Json) :=
  [("scenario_id", .str seed.scenarioId), ("fault_class", .str seed.faultClass)]

def resultJson (precondition : Option (List Observation)) (report : Report) : Json :=
  .obj [("scenario_id", report.scenarioId), ("family", report.family),
    ("fault_class", .str report.faultClass),
    ("precondition_source", .str (match precondition with
      | none => "control-observation"
      | some _ => "prior-scenario-recovery")),
    ("state_sequence", .arr [.str "HEALTHY", .str "FAULT_ACTIVE", .str "HEALTHY"]),
    ("original_digest", .str (lib.sha256 ((Json.obj report.original).dumpsWith quoteRaw))),
    ("restored_digest", .str (lib.sha256 ((Json.obj report.restored).dumpsWith quoteRaw))),
    ("fault_observations", .arr (report.faultObservations.map observationJson)),
    ("recovery_observations", .arr (report.recoveryObservations.map observationJson))]

def Executed.payload (e : Executed) : List (String × Json) :=
  match e.result with
  | .ok (report, packet) => basePayload e.seed ++
      [("result", resultJson lib e.precondition report), ("observation_packet", packet)]
  | .error err => basePayload e.seed ++ [("reason", .str (lib.reason err))]

/-- The record with which a trial begins. -/
def begun (seed : Seed) (journal : Journal) : Record :=
  running (journal seed.trialId) seed.trialId producerSha (cacheKey lib imageSetDigest seed)
    (basePayload seed)

/-- The record with which it ends. -/
def finished (record : Record) (status : Status) (payload : List (String × Json)) : Record :=
  { record with
    status
    recordVersion := record.recordVersion + 1
    payload
    artifactDigest := some (digest lib.sha256 (.obj payload)) }

/-- The record that a trial leaves. -/
def Executed.record (e : Executed) (journal : Journal) : Record :=
  if e.status lib = .running then begun lib imageSetDigest producerSha e.seed journal
  else finished lib (begun lib imageSetDigest producerSha e.seed journal) (e.status lib)
    (e.payload lib)

/-! ### Recalling -/

/-- The exceptions that leave the matrix. -/
inductive Raised
  | governance (text : String)
  /-- A member of the recovery is no mapping: a `TypeError`, or a `GovernanceError`. -/
  | noMapping
  | keyError
  | typeError
  | trial (err : Exn)
deriving DecidableEq

/-- An observation in a record; only a mapping is one. -/
def observationOf : Json → Option Observation
  | .obj fields => some ⟨fields.map fun f => (f.1, .json f.2), true⟩
  | _ => none

/-- The recovery and the packet of a pass in the journal. -/
def recalled (payload : List (String × Json)) : Except Raised (List Observation × Json) :=
  match payload.lookup "result" with
  | some (.obj result) =>
    match result.lookup "recovery_observations" with
    | some (.arr items) =>
      match items.mapM observationOf with
      | none => .error .noMapping
      | some observations =>
        if recoveryState observations = .healthy then
          match payload.lookup "observation_packet" with
          | none => .error .keyError
          | some packet =>
            match lib.dict packet with
            | none => .error .typeError
            | some packet => .ok (observations, packet)
        else .error (.governance "passed scenario trial has unhealthy recovery evidence")
    | _ => .error (.governance "passed scenario trial lacks recovery evidence")
  | _ => .error (.governance "passed scenario trial lacks recovery evidence")

/-! ### The matrix -/

structure Summary where
  status : Status
  scenarioCount : ℕ
  failedTrial : Option String
  trials : List Record
  packets : List Json

/-- What has been done for a seed. -/
inductive Visit
  | recalled (seed : Seed)
  | executed (e : Executed)

structure State where
  journal : Journal
  completed : List Record := []
  packets : List Json := []
  precondition : Option (List Observation) := none
  /-- The last one first. -/
  visits : List Visit := []

/-- The trial of a seed that the journal does not answer. -/
def executeSeed (entry : Seed × Trial) (s : State) :
    Option (Except Raised Summary) × State :=
  let e := execute lib entry.1 entry.2 s.precondition
  let record := e.record lib imageSetDigest producerSha s.journal
  let s := { s with
    journal := Experiments.write s.journal entry.1.trialId record
    visits := .executed e :: s.visits }
  match e.result with
  | .ok (report, packet) =>
    if encodable report then
      (none, { s with
        completed := s.completed ++ [record]
        packets := s.packets ++ [packet]
        precondition := some report.recoveryObservations })
    else (some (.error .typeError), s)
  | .error err =>
    match classOf lib err with
    | .other => (some (.error (.trial err)), s)
    | _ => (some (.ok ⟨e.status lib, s.completed.length, some entry.1.trialId,
        s.completed ++ [record], s.packets⟩), s)

/-- What is done for a seed; a result is that of the whole call. -/
def visit (entry : Seed × Trial) (s : State) : Option (Except Raised Summary) × State :=
  match s.journal entry.1.trialId with
  | none => executeSeed lib imageSetDigest producerSha entry s
  | some previous =>
    if previous.cacheKey = cacheKey lib imageSetDigest entry.1 then
      if previous.status = .pass then
        match recalled lib previous.payload with
        | .error err => (some (.error err), s)
        | .ok (observations, packet) =>
          (none, { s with
            completed := s.completed ++ [previous]
            packets := s.packets ++ [packet]
            precondition := some observations
            visits := .recalled entry.1 :: s.visits })
      else if previous.status = .metricFail ∨ previous.status = .blocked then
        (some (.ok ⟨previous.status, s.completed.length, some entry.1.trialId,
          s.completed ++ [previous], s.packets⟩), s)
      else executeSeed lib imageSetDigest producerSha entry s
    else executeSeed lib imageSetDigest producerSha entry s

def visitAll : List (Seed × Trial) → State → Except Raised Summary × State
  | [], s =>
    if s.completed.length ≠ 32 ∨ s.packets.length ≠ 32 then
      (.error (.governance "G02 Gate scenario matrix did not complete exactly 32 seeds"), s)
    else (.ok ⟨.pass, 32, none, s.completed, s.packets⟩, s)
  | entry :: rest, s =>
    match visit lib imageSetDigest producerSha entry s with
    | (some result, s) => (result, s)
    | (none, s) => visitAll rest s

/-- The function `run_gate_scenario_matrix`. -/
def runScenarioMatrix (catalogue : Catalogue) (journal : Journal) :
    Except Raised Summary × State :=
  visitAll lib imageSetDigest producerSha catalogue.entries { journal }

/-! ### What a log tells -/

/-- The exceptions of the client and the observer. -/
def callErrors (log : List Event) : List CallError :=
  log.filterMap fun
    | .read (.error err) => some err
    | .write _ (.error err) => some err
    | .observe _ (.error err) => some err
    | .window (.error err) => some err
    | _ => none

/-- What the fault phase has caught that is neither a verdict nor an exception of a call. -/
def refusals (log : List Event) : List Exn :=
  log.filterMap fun
    | .caughtInFault (.flag err) => some (.flag err)
    | .caughtInFault .oracle => some .oracle
    | _ => none

/-- The exceptions of calls that have cut the clean-up short. -/
def cutShort (log : List Event) : List CallError :=
  log.filterMap fun
    | .caughtInCleanup (.call err) => some err
    | _ => none

/-- A document was read back, and it is another one than was written just before. -/
def mismatch (floats : Floats) : Event → Event → Bool
  | .read (.ok found), .write document _ => !same floats found document
  | _, _ => false

def readbackFailed (floats : Floats) : List Event → Bool
  | event :: before :: rest => mismatch floats event before || readbackFailed floats (before :: rest)
  | _ => false

/-- The oracle of the fault was evaluated and failed. -/
def OracleFailed (floats : Floats) (faultClass : String) (observations : List Observation) : Prop :=
  observations.length = 2 ∧
    ∃ state, faultState floats faultClass observations = .ok state ∧ state ≠ .faultActive

def RecoveryFailed (observations : List Observation) : Prop :=
  observations.length = 2 ∧ recoveryState observations ≠ .healthy

def isHealthy (observation : Observation) : Bool :=
  observation.get "state" = some (.json (.str OracleState.healthy.value))

/-- A verdict or a readback was evaluated and failed. -/
def VerdictFailed (faultClass : String) (log : List Event) : Prop :=
  (∃ o ∈ observed .control log, isHealthy o = false) ∨ readbackFailed lib.floats log = true ∨
    OracleFailed lib.floats faultClass (observed .fault log) ∨
    RecoveryFailed (observed .recovery log) ∨
    ∃ err ∈ callErrors log, err.infrastructure = false ∧ lib.kind err.code = .readback

/-- The only failure is an infrastructure failure of the client or the observer. -/
def Executed.OnlyInfrastructure (e : Executed) : Prop :=
  e.trial.made = .ok () ∧ (∃ err, err.infrastructure = true ∧ callErrors e.log = [err]) ∧
    refusals e.log = [] ∧ ¬VerdictFailed lib e.seed.faultClass e.log

/-- A `GovernanceError` that is no verdict: of a call, of the change of the flags, or of the packet
made of a scenario in which nothing has failed. -/
def Executed.Refused (e : Executed) : Prop :=
  (∃ err, e.trial.made = .error err ∧ CallError.class lib err = .governance) ∨
    (∃ err ∈ callErrors e.log, CallError.class lib err = .governance) ∨
    .flag .governance ∈ refusals e.log ∨
    (e.trial.made = .ok () ∧ callErrors e.log = [] ∧ refusals e.log = [] ∧
      ∃ code, lib.buildObservationPacket e.seed.scenario (observed .fault e.log) = .error code ∧
        lib.kind code ≠ .other)

/-- A verdict has failed, or no clean-up was cut short and nothing else was refused. -/
def Executed.Uninterrupted (e : Executed) : Prop :=
  VerdictFailed lib e.seed.faultClass e.log ∨ cutShort e.log = [] ∧ ¬e.Refused lib

theorem callErrors_append (late early : List Event) :
    callErrors (late ++ early) = callErrors late ++ callErrors early :=
  List.filterMap_append

theorem refusals_append (late early : List Event) :
    refusals (late ++ early) = refusals late ++ refusals early :=
  List.filterMap_append

theorem cutShort_append (late early : List Event) :
    cutShort (late ++ early) = cutShort late ++ cutShort early :=
  List.filterMap_append

/-- Between two parts of a log there is no readback, if the late one does not begin with it. -/
theorem readbackFailed_append {floats : Floats} {late : List Event} (early : List Event)
    (h : ∀ event ∈ late.getLast?, ∀ before, mismatch floats event before = false) :
    readbackFailed floats (late ++ early) =
      (readbackFailed floats late || readbackFailed floats early) := by
  induction late with
  | nil => rfl
  | cons event late ih =>
    cases late with
    | nil =>
      cases early with
      | nil => rfl
      | cons before early =>
        simp only [List.cons_append, List.nil_append, readbackFailed,
          h event rfl before, Bool.false_or]
    | cons before late =>
      rw [List.getLast?_cons_cons] at h
      have ih := ih h
      rw [List.cons_append] at ih
      rw [List.cons_append, List.cons_append, readbackFailed, ih, readbackFailed, Bool.or_assoc]

/-! ### The phases -/

section Phases

variable {w : World} {floats : Floats} {text : String} {phase : Phase} {document original : Document}
  {adapter : FaultAdapter} {faultClass : String} {log log' : List Event}

/-- Writing a document, reading it back and observing twice, which both phases do. -/
def putAndObserve (w : World) (floats : Floats) (text : String) (phase : Phase)
    (document : Document) : Program (List Observation) := do
  ScenarioRuns.write w document
  let found ← ScenarioRuns.read w
  lift (if same floats found document then .ok () else .error (.governance text))
  let first ← observe w phase
  let second ← observe w phase
  return [first, second]

theorem injectAndObserve_eq (w : World) (floats : Floats) (texts : Texts) (original : Document)
    (adapter : FaultAdapter) : injectAndObserve w floats texts original adapter = (do
      let injected ← lift ((mutatedDocument original adapter).mapError Exn.flag)
      putAndObserve w floats texts.injection .fault injected) := rfl

/-- What this adds to the log. -/
inductive Put (floats : Floats) (text : String) (phase : Phase) (document : Document) :
    Except Exn (List Observation) → List Event → Prop
  | unwritten (err : CallError) :
      Put floats text phase document (.error (.call err)) [.write document (.error err)]
  | unread (err : CallError) :
      Put floats text phase document (.error (.call err))
        [.read (.error err), .write document (.ok ())]
  | drifted (found : Document) (hsame : same floats found document = false) :
      Put floats text phase document (.error (.governance text))
        [.read (.ok found), .write document (.ok ())]
  | unseen (found : Document) (err : CallError) (hsame : same floats found document = true) :
      Put floats text phase document (.error (.call err))
        [.observe phase (.error err), .read (.ok found), .write document (.ok ())]
  | halfSeen (found : Document) (first : Observation) (err : CallError)
      (hsame : same floats found document = true) :
      Put floats text phase document (.error (.call err))
        [.observe phase (.error err), .observe phase (.ok first), .read (.ok found),
          .write document (.ok ())]
  | seen (found : Document) (first second : Observation)
      (hsame : same floats found document = true) :
      Put floats text phase document (.ok [first, second])
        [.observe phase (.ok second), .observe phase (.ok first), .read (.ok found),
          .write document (.ok ())]

theorem put_putAndObserve (w : World) (floats : Floats) (text : String) (phase : Phase)
    (document : Document) (log : List Event) :
    ∃ result late, putAndObserve w floats text phase document log = (result, late ++ log) ∧
      Put floats text phase document result late := by
  rw [putAndObserve]
  rcases hwrite : w.write document log with err | ⟨⟩
  · exact ⟨_, _, bind_of_error (answered_of_error hwrite) _, .unwritten err⟩
  rw [bind_of_ok (answered_of_ok hwrite)]
  rcases hread : w.read (.write document (.ok ()) :: log) with err | found
  · exact ⟨_, _, bind_of_error (answered_of_error hread) _, .unread err⟩
  rw [bind_of_ok (answered_of_ok hread)]
  by_cases hsame : same floats found document = true
  swap
  · rw [if_neg hsame]
    exact ⟨_, _, bind_of_error (lift_apply _ _) _, .drifted found (Bool.eq_false_iff.2 hsame)⟩
  rw [if_pos hsame, bind_of_ok (lift_apply _ _)]
  rcases hfirst : w.observe phase (.read (.ok found) :: .write document (.ok ()) :: log)
    with err | first
  · exact ⟨_, _, bind_of_error (answered_of_error hfirst) _, .unseen found err hsame⟩
  rw [bind_of_ok (answered_of_ok hfirst)]
  rcases hsecond : w.observe phase
    (.observe phase (.ok first) :: .read (.ok found) :: .write document (.ok ()) :: log)
    with err | second
  · exact ⟨_, _, bind_of_error (answered_of_error hsecond) _, .halfSeen found first err hsame⟩
  rw [bind_of_ok (answered_of_ok hsecond)]
  exact ⟨_, _, rfl, .seen found first second hsame⟩

/-- How a phase ends, by what it has added to the log. -/
inductive Ended (floats : Floats) (late : List Event) (verdict : Prop) : Option Exn → Prop
  | done (hcalls : callErrors late = []) (hreadback : readbackFailed floats late = false)
      (hverdict : ¬verdict) : Ended floats late verdict none
  | failed (text : String) (hcalls : callErrors late = [])
      (hfailed : readbackFailed floats late = true ∨ verdict) :
      Ended floats late verdict (some (.governance text))
  | called (err : CallError) (hcalls : callErrors late = [err])
      (hreadback : readbackFailed floats late = false) (hverdict : ¬verdict) :
      Ended floats late verdict (some (.call err))
  | refused (err : Exn) (hrefused : (∃ f, err = .flag f) ∨ err = .oracle) (hcalls : callErrors late = [])
      (hreadback : readbackFailed floats late = false) (hverdict : ¬verdict) :
      Ended floats late verdict (some err)

/-- The refusals among what a phase has caught. -/
def refusal : Option Exn → List Exn
  | some (.flag err) => [.flag err]
  | some .oracle => [.oracle]
  | _ => []

/-- The exceptions of calls among what a phase has caught. -/
def calledError : Option Exn → List CallError
  | some (.call err) => [err]
  | _ => []

/-- What the fault phase adds to the log. -/
structure FaultCourse (floats : Floats) (faultClass : String) (original : Document)
    (adapter : FaultAdapter) (outcome : List Observation × Option Exn) (late : List Event) : Prop where
  control : observed .control late = []
  recovery : observed .recovery late = []
  uncut : cutShort late = []
  refusals : refusals late = refusal outcome.2
  oldest : (∃ late' injected result, late = late' ++ [.write injected result] ∧
      mutatedDocument original adapter = .ok injected) ∨
    ∃ err, late = [.caughtInFault (.flag err)]
  observations : outcome.2 = none → outcome.1 = observed .fault late
  ended : Ended floats late (OracleFailed floats faultClass (observed .fault late)) outcome.2

/-- What the clean-up adds to the log. -/
structure CleanupCourse (floats : Floats) (original : Document)
    (outcome : List Observation × Option Exn) (late : List Event) : Prop where
  control : observed .control late = []
  fault : observed .fault late = []
  refusals : refusals late = []
  cut : cutShort late = calledError outcome.2
  oldest : ∃ late' result, late = late' ++ [.write original result]
  raised : ∀ err, outcome.2 = some err → (∃ text, err = .governance text) ∨ ∃ e, err = .call e
  healed : outcome.2 = none → ∃ found first second, outcome.1 = [first, second] ∧
    recoveryState [first, second] = .healthy ∧
    late = [.observe .recovery (.ok second), .observe .recovery (.ok first), .read (.ok found),
      .write original (.ok ())]
  ended : Ended floats late (RecoveryFailed (observed .recovery late)) outcome.2

theorem not_oracleFailed_short {observations : List Observation} (h : observations.length ≠ 2) :
    ¬OracleFailed floats faultClass observations :=
  fun hfailed => h hfailed.1

theorem not_recoveryFailed_short {observations : List Observation} (h : observations.length ≠ 2) :
    ¬RecoveryFailed observations :=
  fun hfailed => h hfailed.1

variable {texts : Texts}

theorem faultPhase_of_error {err : Exn}
    (h : injectAndObserve w floats texts original adapter log = (.error err, log')) :
    faultPhase w floats texts faultClass original adapter log =
      (.ok ([], some err), .caughtInFault err :: log') := by
  have hattempt := attempt_apply (injectAndObserve w floats texts original adapter) log
  rw [h] at hattempt
  rw [faultPhase, bind_of_ok hattempt]
  rfl

theorem faultPhase_of_ok {observations : List Observation}
    (h : injectAndObserve w floats texts original adapter log = (.ok observations, log')) :
    (∃ err, faultState floats faultClass observations = .error err ∧
      faultPhase w floats texts faultClass original adapter log =
        (.ok (observations, some err), .caughtInFault err :: log')) ∨
    (faultState floats faultClass observations = .ok .faultActive ∧
      faultPhase w floats texts faultClass original adapter log = (.ok (observations, none), log')) ∨
    ∃ state, faultState floats faultClass observations = .ok state ∧ state ≠ .faultActive ∧
      faultPhase w floats texts faultClass original adapter log =
        (.ok (observations, some (.governance texts.oracle)),
          .caughtInFault (.governance texts.oracle) :: log') := by
  have hattempt := attempt_apply (injectAndObserve w floats texts original adapter) log
  rw [h] at hattempt
  rw [faultPhase, bind_of_ok hattempt]
  rcases hstate : faultState floats faultClass observations with err | state
  · refine .inl ⟨err, rfl, ?_⟩
    simp only [hstate]
    rfl
  · by_cases hactive : state = .faultActive
    · subst hactive
      refine .inr (.inl ⟨rfl, ?_⟩)
      simp only [hstate, if_true]
      rfl
    · refine .inr (.inr ⟨state, rfl, hactive, ?_⟩)
      simp only [hstate, if_neg hactive]
      rfl

theorem cleanupPhase_of_error {err : Exn}
    (h : restoreAndObserve w floats texts original log = (.error err, log')) :
    cleanupPhase w floats texts original log = (.ok ([], some err), .caughtInCleanup err :: log') := by
  have hattempt := attempt_apply (restoreAndObserve w floats texts original) log
  rw [h] at hattempt
  rw [cleanupPhase, bind_of_ok hattempt]
  rfl

theorem cleanupPhase_of_ok {observations : List Observation}
    (h : restoreAndObserve w floats texts original log = (.ok observations, log')) :
    (recoveryState observations = .healthy ∧
      cleanupPhase w floats texts original log = (.ok (observations, none), log')) ∨
    (recoveryState observations ≠ .healthy ∧
      cleanupPhase w floats texts original log =
        (.ok (observations, some (.governance texts.recovery)),
          .caughtInCleanup (.governance texts.recovery) :: log')) := by
  have hattempt := attempt_apply (restoreAndObserve w floats texts original) log
  rw [h] at hattempt
  rw [cleanupPhase, bind_of_ok hattempt]
  by_cases hhealthy : recoveryState observations = .healthy
  · refine .inl ⟨hhealthy, ?_⟩
    simp only [if_pos hhealthy]
    rfl
  · refine .inr ⟨hhealthy, ?_⟩
    simp only [if_neg hhealthy]
    rfl

end Phases

section Courses

variable (w : World) (floats : Floats) (texts : Texts) (faultClass : String) (original : Document)
  (adapter : FaultAdapter) (log : List Event)

theorem faultCourse_faultPhase :
    ∃ outcome late, faultPhase w floats texts faultClass original adapter log =
      (.ok outcome, late ++ log) ∧ FaultCourse floats faultClass original adapter outcome late := by
  rcases hinjected : mutatedDocument original adapter with err | injected
  · have h : injectAndObserve w floats texts original adapter log = (.error (.flag err), log) := by
      rw [injectAndObserve_eq, hinjected]
      exact bind_of_error (lift_apply _ _) _
    refine ⟨_, [.caughtInFault (.flag err)], faultPhase_of_error h, rfl, rfl, rfl, rfl,
      .inr ⟨err, rfl⟩, nofun, ?_⟩
    exact .refused _ (.inl ⟨err, rfl⟩) rfl rfl (not_oracleFailed_short nofun)
  obtain ⟨result, late, hput, hlate⟩ :=
    put_putAndObserve w floats texts.injection .fault injected log
  have h : injectAndObserve w floats texts original adapter log = (result, late ++ log) := by
    rw [injectAndObserve_eq, hinjected]
    exact hput
  cases hlate with
  | unwritten err =>
    exact ⟨_, [.caughtInFault (.call err), .write injected (.error err)], faultPhase_of_error h, rfl,
      rfl, rfl, rfl, .inl ⟨[_], injected, _, rfl, hinjected⟩, nofun,
      .called err rfl rfl (not_oracleFailed_short nofun)⟩
  | unread err =>
    exact ⟨_, [.caughtInFault (.call err), .read (.error err), .write injected (.ok ())],
      faultPhase_of_error h, rfl, rfl, rfl, rfl, .inl ⟨[_, _], injected, _, rfl, hinjected⟩, nofun,
      .called err rfl rfl (not_oracleFailed_short nofun)⟩
  | drifted found hsame =>
    exact ⟨_, [.caughtInFault (.governance texts.injection), .read (.ok found),
        .write injected (.ok ())],
      faultPhase_of_error h, rfl, rfl, rfl, rfl, .inl ⟨[_, _], injected, _, rfl, hinjected⟩, nofun,
      .failed _ rfl (.inl (by simp [readbackFailed, mismatch, hsame]))⟩
  | unseen found err hsame =>
    exact ⟨_, [.caughtInFault (.call err), .observe .fault (.error err), .read (.ok found),
        .write injected (.ok ())],
      faultPhase_of_error h, rfl, rfl, rfl, rfl, .inl ⟨[_, _, _], injected, _, rfl, hinjected⟩,
      nofun, .called err rfl (by simp [readbackFailed, mismatch, hsame])
        (not_oracleFailed_short nofun)⟩
  | halfSeen found first err hsame =>
    exact ⟨_, [.caughtInFault (.call err), .observe .fault (.error err), .observe .fault (.ok first),
        .read (.ok found), .write injected (.ok ())],
      faultPhase_of_error h, rfl, rfl, rfl, rfl,
      .inl ⟨[_, _, _, _], injected, _, rfl, hinjected⟩, nofun,
      .called err rfl (by simp [readbackFailed, mismatch, hsame]) (not_oracleFailed_short nofun)⟩
  | seen found first second hsame =>
    have hseen : observed .fault [.observe .fault (.ok second), .observe .fault (.ok first),
        .read (.ok found), .write injected (.ok ())] = [first, second] := rfl
    rcases @faultPhase_of_ok w floats original adapter faultClass log _ texts _ h with
      ⟨err, hstate, hrun⟩ | ⟨hstate, hrun⟩ | ⟨state, hstate, hne, hrun⟩
    · have herr := faultState_eq_error hstate
      subst herr
      refine ⟨_, [.caughtInFault .oracle, .observe .fault (.ok second), .observe .fault (.ok first),
        .read (.ok found), .write injected (.ok ())], hrun, rfl, rfl, rfl, rfl,
        .inl ⟨[_, _, _, _], injected, _, rfl, hinjected⟩, nofun,
        .refused _ (.inr rfl) rfl (by simp [readbackFailed, mismatch, hsame]) ?_⟩
      rintro ⟨-, state, hstate', -⟩
      have hcontra := hstate.symm.trans hstate'
      cases hcontra
    · refine ⟨_, [.observe .fault (.ok second), .observe .fault (.ok first), .read (.ok found),
        .write injected (.ok ())], hrun, rfl, rfl, rfl, rfl,
        .inl ⟨[_, _, _], injected, _, rfl, hinjected⟩, fun _ => rfl,
        .done rfl (by simp [readbackFailed, mismatch, hsame]) ?_⟩
      rintro ⟨-, state, hstate', hne⟩
      have heq := hstate.symm.trans hstate'
      cases heq
      exact hne rfl
    · exact ⟨_, [.caughtInFault (.governance texts.oracle), .observe .fault (.ok second),
        .observe .fault (.ok first), .read (.ok found), .write injected (.ok ())], hrun, rfl, rfl,
        rfl, rfl, .inl ⟨[_, _, _, _], injected, _, rfl, hinjected⟩, nofun,
        .failed _ rfl (.inr ⟨rfl, state, hstate, hne⟩)⟩

theorem cleanupCourse_cleanupPhase :
    ∃ outcome late, cleanupPhase w floats texts original log = (.ok outcome, late ++ log) ∧
      CleanupCourse floats original outcome late := by
  obtain ⟨result, late, hput, hlate⟩ :=
    put_putAndObserve w floats texts.restoration .recovery original log
  have h : restoreAndObserve w floats texts original log = (result, late ++ log) := hput
  have hcall : ∀ err e, some (Exn.call err) = some e →
      (∃ text, e = .governance text) ∨ ∃ e', e = .call e' :=
    fun err e heq => .inr ⟨err, (Option.some.inj heq).symm⟩
  have htext : ∀ text e, some (Exn.governance text) = some e →
      (∃ text, e = .governance text) ∨ ∃ e', e = .call e' :=
    fun text e heq => .inl ⟨text, (Option.some.inj heq).symm⟩
  cases hlate with
  | unwritten err =>
    exact ⟨_, [.caughtInCleanup (.call err), .write original (.error err)], cleanupPhase_of_error h,
      rfl, rfl, rfl, rfl, ⟨[_], _, rfl⟩, hcall err, nofun,
      .called err rfl rfl (not_recoveryFailed_short nofun)⟩
  | unread err =>
    exact ⟨_, [.caughtInCleanup (.call err), .read (.error err), .write original (.ok ())],
      cleanupPhase_of_error h, rfl, rfl, rfl, rfl, ⟨[_, _], _, rfl⟩, hcall err, nofun,
      .called err rfl rfl (not_recoveryFailed_short nofun)⟩
  | drifted found hsame =>
    exact ⟨_, [.caughtInCleanup (.governance texts.restoration), .read (.ok found),
        .write original (.ok ())],
      cleanupPhase_of_error h, rfl, rfl, rfl, rfl, ⟨[_, _], _, rfl⟩, htext _, nofun,
      .failed _ rfl (.inl (by simp [readbackFailed, mismatch, hsame]))⟩
  | unseen found err hsame =>
    exact ⟨_, [.caughtInCleanup (.call err), .observe .recovery (.error err), .read (.ok found),
        .write original (.ok ())],
      cleanupPhase_of_error h, rfl, rfl, rfl, rfl, ⟨[_, _, _], _, rfl⟩, hcall err, nofun,
      .called err rfl (by simp [readbackFailed, mismatch, hsame])
        (not_recoveryFailed_short nofun)⟩
  | halfSeen found first err hsame =>
    exact ⟨_, [.caughtInCleanup (.call err), .observe .recovery (.error err),
        .observe .recovery (.ok first), .read (.ok found), .write original (.ok ())],
      cleanupPhase_of_error h, rfl, rfl, rfl, rfl, ⟨[_, _, _, _], _, rfl⟩, hcall err, nofun,
      .called err rfl (by simp [readbackFailed, mismatch, hsame])
        (not_recoveryFailed_short nofun)⟩
  | seen found first second hsame =>
    rcases cleanupPhase_of_ok h with ⟨hhealthy, hrun⟩ | ⟨hill, hrun⟩
    · refine ⟨_, [.observe .recovery (.ok second), .observe .recovery (.ok first),
        .read (.ok found), .write original (.ok ())], hrun, rfl, rfl, rfl, rfl, ⟨[_, _, _], _, rfl⟩,
        nofun, fun _ => ⟨found, first, second, rfl, hhealthy, rfl⟩,
        .done rfl (by simp [readbackFailed, mismatch, hsame]) ?_⟩
      rintro ⟨-, hill⟩
      exact hill hhealthy
    · exact ⟨_, [.caughtInCleanup (.governance texts.recovery), .observe .recovery (.ok second),
        .observe .recovery (.ok first), .read (.ok found), .write original (.ok ())], hrun, rfl, rfl,
        rfl, rfl, ⟨[_, _, _, _], _, rfl⟩, htext _, nofun, .failed _ rfl (.inr ⟨rfl, hill⟩)⟩

end Courses

/-! ### The course of a trial -/

/-- What precedes the fault phase: a control, or a recovery that is taken for one. -/
inductive Early (w : World) (original : Document) : Option (List Observation) → List Event → Prop
  | control (o : Observation) (hseen : w.observe .control [.read (.ok original)] = .ok o)
      (h : isHealthy o = true) :
      Early w original none [.observe .control (.ok o), .read (.ok original)]
  | recovery (observations : List Observation) (h : recoveryState observations = .healthy) :
      Early w original (some observations) [.read (.ok original)]

/-- What follows both phases. -/
inductive Concluded (seed : Seed) (fault cleanup : List Observation × Option Exn) :
    Except Exn (Report × Json) → List Event → Prop
  | cleanup (text : String) (err : Exn) (hcleanup : cleanup.2 = some err) :
      Concluded seed fault cleanup (.error (.wrapped text err)) []
  | primary (err : Exn) (hcleanup : cleanup.2 = none) (hfault : fault.2 = some err) :
      Concluded seed fault cleanup (.error err) []
  | unread (err : CallError) (hcleanup : cleanup.2 = none) (hfault : fault.2 = none) :
      Concluded seed fault cleanup (.error (.call err)) [.read (.error err)]
  | refused (restored : Document) (code : ℕ) (hcleanup : cleanup.2 = none) (hfault : fault.2 = none)
      (hpacket : lib.buildObservationPacket seed.scenario fault.1 = .error code) :
      Concluded seed fault cleanup (.error (.call ⟨false, code⟩)) [.read (.ok restored)]
  | passed (restored : Document) (report : Report) (packet : Json) (hcleanup : cleanup.2 = none)
      (hfault : fault.2 = none)
      (hpacket : lib.buildObservationPacket seed.scenario fault.1 = .ok packet)
      (hrecovery : report.recoveryObservations = cleanup.1) :
      Concluded seed fault cleanup (.ok (report, packet)) [.read (.ok restored)]

/-- The courses of a trial. -/
inductive Course (seed : Seed) (trial : Trial) (precondition : Option (List Observation)) :
    Except Exn (Report × Json) → List Event → Prop
  | unmade (err : CallError) (hmade : trial.made = .error err) :
      Course seed trial precondition (.error (.call err)) []
  | unread (err : CallError) (hmade : trial.made = .ok ()) :
      Course seed trial precondition (.error (.call err)) [.read (.error err)]
  | uncontrolled (original : Document) (err : CallError) (hmade : trial.made = .ok ()) :
      Course seed trial precondition (.error (.call err))
        [.observe .control (.error err), .read (.ok original)]
  | unhealthy (original : Document) (o : Observation) (text : String) (hmade : trial.made = .ok ())
      (h : isHealthy o = false) :
      Course seed trial precondition (.error (.governance text))
        [.observe .control (.ok o), .read (.ok original)]
  | ran (original : Document) (early late late' more : List Event)
      (fault cleanup : List Observation × Option Exn) (result : Except Exn (Report × Json))
      (hmade : trial.made = .ok ()) (hearly : Early trial.world original precondition early)
      (hfault : FaultCourse lib.floats seed.faultClass original seed.adapter fault late)
      (hcleanup : CleanupCourse lib.floats original cleanup late')
      (hconcluded : Concluded lib seed fault cleanup result more) :
      Course seed trial precondition result (more ++ (late' ++ (late ++ early)))

variable {lib}

variable {precondition : Option (List Observation)} {result : Except Exn (Report × Json)}
  {original : Document}

/-- What the report and the packet make of a scenario without exceptions. -/
theorem concluded_conclude (seed : Seed) (w : World) (original : Document)
    (fault cleanup : List Observation × Option Exn) (log : List Event) :
    ∃ result more, (conclude w seed.scenario seed.faultClass original fault.1 fault.2 cleanup.1 cleanup.2
        >>= fun report => (do
          let packet ← lift ((lib.buildObservationPacket seed.scenario report.faultObservations).mapError
            fun code => Exn.call ⟨false, code⟩)
          return (report, packet) : Program (Report × Json))) log = (result, more ++ log) ∧
      Concluded lib seed fault cleanup result more := by
  obtain ⟨faults, primary⟩ := fault
  obtain ⟨recovery, cleanup⟩ := cleanup
  cases cleanup with
  | some err => exact ⟨_, [], bind_of_error (lift_apply _ _) _, .cleanup _ err rfl⟩
  | none =>
    cases primary with
    | some err => exact ⟨_, [], bind_of_error (lift_apply _ _) _, .primary err rfl rfl⟩
    | none =>
      have hid : item seed.scenario "scenario_id" = .ok (.str seed.scenarioId) := by
        rw [item, seed.id_eq]
        rfl
      have hfamily : item seed.scenario "family" = .ok seed.family := by
        rw [item, seed.family_eq]
      rcases hread : w.read log with err | restored
      · have hreport : report w seed.scenario seed.faultClass original faults recovery log =
            (.error (.call err), .read (.error err) :: log) := by
          rw [report, hid, bind_of_ok (lift_apply _ _), hfamily, bind_of_ok (lift_apply _ _)]
          exact bind_of_error (answered_of_error hread) _
        exact ⟨_, [.read (.error err)], bind_of_error hreport _, .unread err rfl rfl⟩
      · have hreport : report w seed.scenario seed.faultClass original faults recovery log =
            (.ok ⟨.str seed.scenarioId, seed.family, seed.faultClass, original, restored, faults,
              recovery⟩, .read (.ok restored) :: log) := by
          rw [report, hid, bind_of_ok (lift_apply _ _), hfamily, bind_of_ok (lift_apply _ _),
            bind_of_ok (answered_of_ok hread)]
          rfl
        rcases hpacket : lib.buildObservationPacket seed.scenario faults with code | packet
        · refine ⟨_, [.read (.ok restored)], ?_, .refused restored code rfl rfl hpacket⟩
          rw [conclude, bind_of_ok hreport, hpacket]
          rfl
        · refine ⟨_, [.read (.ok restored)], ?_, .passed restored ⟨.str seed.scenarioId,
            seed.family, seed.faultClass, original, restored, faults, recovery⟩ packet rfl rfl
            hpacket rfl⟩
          rw [conclude, bind_of_ok hreport, hpacket]
          rfl

theorem bind_of_eq {α β : Type} {x y : Program α} {log log' : List Event} (h : x log = y log')
    (f : α → Program β) : (x >>= f) log = (y >>= f) log' := by
  rw [bind_apply, bind_apply, h]

/-- **Every trial takes one of the courses.** -/
theorem course_execute (seed : Seed) (trial : Trial) (precondition : Option (List Observation))
    (hprecondition : ∀ observations, precondition = some observations →
      recoveryState observations = .healthy) :
    Course lib seed trial precondition (execute lib seed trial precondition).result
      (execute lib seed trial precondition).log := by
  rw [execute]
  dsimp only
  rcases hmade : trial.made with err | ⟨⟩
  · exact .unmade err hmade
  have hlift : (lift ((Except.ok ()).mapError Exn.call) : Program Unit) [] = (.ok (), []) := rfl
  rw [bind_of_ok hlift]
  rcases hread : trial.world.read [] with err | original
  · have hrun : runScenario trial.world lib.floats seed.scenario precondition [] =
        (.error (.call err), [.read (.error err)]) := by
      rw [runScenario]
      simp only [seed.adapter_eq]
      exact bind_of_error (answered_of_error hread) _
    rw [bind_of_error hrun]
    exact .unread err hmade
  -- the fault phase follows, whatever has been observed before
  have hphases : ∀ early, Early trial.world original precondition early →
      runScenario trial.world lib.floats seed.scenario precondition [] =
        phases trial.world lib.floats scenarioTexts seed.faultClass original seed.adapter
          (conclude trial.world seed.scenario seed.faultClass original) early →
      Course lib seed trial precondition
        ((runScenario trial.world lib.floats seed.scenario precondition >>= fun report => (do
          let packet ← lift ((lib.buildObservationPacket seed.scenario report.faultObservations).mapError
            fun code => Exn.call ⟨false, code⟩)
          return (report, packet) : Program (Report × Json))) []).1
        ((runScenario trial.world lib.floats seed.scenario precondition >>= fun report => (do
          let packet ← lift ((lib.buildObservationPacket seed.scenario report.faultObservations).mapError
            fun code => Exn.call ⟨false, code⟩)
          return (report, packet) : Program (Report × Json))) []).2 := by
    intro early hearly hrun
    obtain ⟨fault, late, hfaultRun, hfault⟩ := faultCourse_faultPhase trial.world lib.floats
      scenarioTexts seed.faultClass original seed.adapter early
    obtain ⟨cleanup, late', hcleanupRun, hcleanup⟩ := cleanupCourse_cleanupPhase trial.world lib.floats
      scenarioTexts original (late ++ early)
    rw [phases, bind_of_ok hfaultRun, bind_of_ok hcleanupRun] at hrun
    obtain ⟨result, more, hconclude, hconcluded⟩ := @concluded_conclude lib seed trial.world original
      fault cleanup (late' ++ (late ++ early))
    rw [bind_of_eq hrun, hconclude]
    exact .ran original early late late' more fault cleanup result hmade hearly hfault hcleanup
      hconcluded
  cases precondition with
  | some observations =>
    have hhealthy := hprecondition observations rfl
    refine hphases _ (.recovery observations hhealthy) ?_
    rw [runScenario]
    simp only [seed.adapter_eq]
    rw [bind_of_ok (answered_of_ok hread)]
    simp only [if_pos hhealthy]
    rw [bind_of_ok (lift_apply _ _)]
    rfl
  | none =>
    rcases hcontrol : trial.world.observe .control [.read (.ok original)] with err | control
    · have hrun : runScenario trial.world lib.floats seed.scenario none [] =
          (.error (.call err), [.observe .control (.error err), .read (.ok original)]) := by
        rw [runScenario]
        simp only [seed.adapter_eq]
        rw [bind_of_ok (answered_of_ok hread)]
        exact bind_of_error (answered_of_error hcontrol) _
      rw [bind_of_error hrun]
      exact .uncontrolled original err hmade
    · by_cases hhealthy : isHealthy control = true
      · refine hphases _ (.control control hcontrol hhealthy) ?_
        have hcheck : requireHealthy control "scenario healthy precondition is not proven" =
            .ok () := by
          rw [requireHealthy, if_pos (of_decide_eq_true hhealthy)]
        rw [runScenario]
        simp only [seed.adapter_eq]
        rw [bind_of_ok (answered_of_ok hread)]
        change (observe trial.world .control >>= fun control => _) [.read (.ok original)] = _
        rw [bind_of_ok (answered_of_ok hcontrol), hcheck, bind_of_ok (lift_apply _ _)]
        rfl
      · have hcheck : requireHealthy control "scenario healthy precondition is not proven" =
            .error (.governance "scenario healthy precondition is not proven") := by
          rw [requireHealthy, if_neg fun h => hhealthy (decide_eq_true h)]
        have hrun : runScenario trial.world lib.floats seed.scenario none [] =
            (.error (.governance "scenario healthy precondition is not proven"),
              [.observe .control (.ok control), .read (.ok original)]) := by
          rw [runScenario]
          simp only [seed.adapter_eq]
          rw [bind_of_ok (answered_of_ok hread)]
          rw [bind_of_ok (answered_of_ok hcontrol), hcheck]
          exact bind_of_error (lift_apply _ _) _
        rw [bind_of_error hrun]
        exact .unhealthy original control _ hmade (Bool.eq_false_iff.2 hhealthy)

/-! ### Trials that stay retryable -/

/-- What both phases and their neighbours add up to. -/
theorem totals_of_ran {seed : Seed} {w : World} {early late late' more : List Event}
    {fault cleanup : List Observation × Option Exn} (hearly : Early w original precondition early)
    (hfault : FaultCourse lib.floats seed.faultClass original seed.adapter fault late)
    (hcleanup : CleanupCourse lib.floats original cleanup late')
    (hconcluded : Concluded lib seed fault cleanup result more) :
    observed .fault (more ++ (late' ++ (late ++ early))) = observed .fault late ∧
    observed .recovery (more ++ (late' ++ (late ++ early))) = observed .recovery late' ∧
    readbackFailed lib.floats (more ++ (late' ++ (late ++ early))) =
      (readbackFailed lib.floats late' || readbackFailed lib.floats late) ∧
    callErrors (more ++ (late' ++ (late ++ early))) =
      callErrors more ++ (callErrors late' ++ callErrors late) ∧
    refusals (more ++ (late' ++ (late ++ early))) = refusal fault.2 ∧
    cutShort (more ++ (late' ++ (late ++ early))) = calledError cleanup.2 := by
  have hstart : observed .fault early = [] ∧ observed .recovery early = [] ∧
      readbackFailed lib.floats early = false ∧ callErrors early = [] ∧ refusals early = [] ∧
      cutShort early = [] := by
    cases hearly with
    | control o hseen h => exact ⟨rfl, rfl, rfl, rfl, rfl, rfl⟩
    | recovery observations h => exact ⟨rfl, rfl, rfl, rfl, rfl, rfl⟩
  obtain ⟨hfault₀, hrecovery₀, hreadback₀, hcalls₀, hrefusals₀, hcut₀⟩ := hstart
  have hend : observed .fault more = [] ∧ observed .recovery more = [] ∧ refusals more = [] ∧
      cutShort more = [] := by
    cases hconcluded <;> exact ⟨rfl, rfl, rfl, rfl⟩
  obtain ⟨hfault₁, hrecovery₁, hrefusals₁, hcut₁⟩ := hend
  have hreadLate : ∀ event ∈ late.getLast?, ∀ before, mismatch lib.floats event before = false := by
    intro event hevent before
    rcases hfault.oldest with ⟨rest, injected, written, rfl, -⟩ | ⟨err, rfl⟩
    · rw [List.getLast?_append, List.getLast?_singleton, Option.some_or] at hevent
      cases hevent
      rfl
    · cases hevent
      rfl
  have hreadLate' : ∀ event ∈ late'.getLast?, ∀ before, mismatch lib.floats event before = false := by
    intro event hevent before
    obtain ⟨rest, written, rfl⟩ := hcleanup.oldest
    rw [List.getLast?_append, List.getLast?_singleton, Option.some_or] at hevent
    cases hevent
    rfl
  -- the last read follows an observation, and not a write
  have hreadMore : ∀ rest, readbackFailed lib.floats (more ++ (late' ++ rest)) =
      readbackFailed lib.floats (late' ++ rest) := by
    intro rest
    have hlast : ∀ answer, cleanup.2 = none →
        readbackFailed lib.floats ([.read answer] ++ (late' ++ rest)) =
          readbackFailed lib.floats (late' ++ rest) := by
      intro answer hnone
      obtain ⟨found, first, second, -, -, rfl⟩ := hcleanup.healed hnone
      cases answer <;> rfl
    cases hconcluded with
    | cleanup text err h => rfl
    | primary err h h' => rfl
    | unread err h h' => exact hlast _ h
    | refused restored code h h' hpacket => exact hlast _ h
    | passed restored report packet h h' hpacket hrecovery => exact hlast _ h
  refine ⟨?_, ?_, ?_, ?_, ?_, ?_⟩
  · rw [observed_append, observed_append, observed_append, hfault₀, hfault₁, hcleanup.fault,
      List.nil_append, List.append_nil, List.append_nil]
  · rw [observed_append, observed_append, observed_append, hrecovery₀, hrecovery₁, hfault.recovery,
      List.nil_append, List.nil_append, List.append_nil]
  · rw [hreadMore, readbackFailed_append _ hreadLate', readbackFailed_append _ hreadLate, hreadback₀,
      Bool.or_false]
  · rw [callErrors_append, callErrors_append, callErrors_append, hcalls₀, List.append_nil]
  · rw [refusals_append, refusals_append, refusals_append, hrefusals₀, hrefusals₁, hcleanup.refusals,
      hfault.refusals, List.nil_append, List.nil_append, List.append_nil]
  · rw [cutShort_append, cutShort_append, cutShort_append, hcut₀, hcut₁, hfault.uncut, hcleanup.cut,
      List.nil_append, List.append_nil, List.append_nil]

/-- The trial is a failed metric only if a verdict has failed, and an infrastructure failure if that
is all that has failed. -/
def Executed.Retryable (lib : Library) (e : Executed) : Prop :=
  (e.status lib = .metricFail → VerdictFailed lib e.seed.faultClass e.log) ∧
    (e.OnlyInfrastructure lib → e.status lib = .infraFailed)

/-- Without a failed verdict, exactly what has been cut short or refused is a failed metric. -/
structure Sorted (lib : Library) (e : Executed) : Prop where
  metric : e.status lib = .metricFail ↔ cutShort e.log ≠ [] ∨ e.Refused lib
  infrastructure : e.OnlyInfrastructure lib → e.status lib ≠ .metricFail → e.status lib = .infraFailed

variable {e : Executed}

theorem retryable_of_sorted (h : ¬VerdictFailed lib e.seed.faultClass e.log → Sorted lib e) :
    e.Retryable lib ↔ e.Uninterrupted lib := by
  by_cases hverdict : VerdictFailed lib e.seed.faultClass e.log
  · constructor
    · intro _
      exact .inl hverdict
    · intro _
      exact ⟨fun _ => hverdict, fun honly => absurd hverdict honly.2.2.2⟩
  · have hsorted := h hverdict
    constructor
    · rintro ⟨hmetric, -⟩
      have hne : e.status lib ≠ .metricFail := fun heq => hverdict (hmetric heq)
      rw [Ne, hsorted.metric, not_or, not_not] at hne
      exact .inr hne
    · rintro (hcontra | ⟨hcut, hrefused⟩)
      · exact absurd hcontra hverdict
      · have hne : e.status lib ≠ .metricFail := by
          rw [Ne, hsorted.metric, not_or, not_not]
          exact ⟨hcut, hrefused⟩
        exact ⟨fun heq => absurd heq hne, fun honly => hsorted.infrastructure honly hne⟩

theorem status_of_error {err : Exn} (h : e.result = .error err) :
    e.status lib = match classOf lib err with
      | .infrastructure => .infraFailed
      | .governance => .metricFail
      | .other => .running := by
  rw [Executed.status, h]

theorem status_metric {err : Exn} (h : e.result = .error err) :
    e.status lib = .metricFail ↔ classOf lib err = .governance := by
  rw [status_of_error h]
  cases classOf lib err <;> decide

/-- A trial that ends with the only exception of a call. -/
theorem sorted_of_call {err : CallError} (hresult : e.result = .error (.call err))
    (hmade : e.trial.made = .ok ()) (hcalls : callErrors e.log = [err])
    (hrefusals : refusals e.log = []) (hcut : cutShort e.log = []) : Sorted lib e := by
  refine ⟨?_, ?_⟩
  · rw [status_metric hresult]
    constructor
    · intro hclass
      refine .inr (.inr (.inl ⟨err, ?_, hclass⟩))
      rw [hcalls]
      exact List.mem_singleton_self err
    · rintro (hcontra | ⟨err', hcontra, -⟩ | ⟨err', hmem, hclass⟩ | hcontra | ⟨-, hcontra, -⟩)
      · exact absurd hcut hcontra
      · rw [hmade] at hcontra
        cases hcontra
      · rw [hcalls] at hmem
        rw [← List.mem_singleton.1 hmem]
        exact hclass
      · rw [hrefusals] at hcontra
        cases hcontra
      · rw [hcalls] at hcontra
        cases hcontra
  · rintro ⟨-, ⟨err', hinfrastructure, hcalls'⟩, -⟩ -
    rw [hcalls] at hcalls'
    cases hcalls'
    rw [status_of_error hresult, classOf, CallError.class, if_pos hinfrastructure]

/-- A trial in which no call has failed, and no clean-up was cut short. -/
theorem sorted_of_quiet (hmade : e.trial.made = .ok ()) (hcalls : callErrors e.log = [])
    (hcut : cutShort e.log = [])
    (hmetric : e.status lib = .metricFail ↔ .flag .governance ∈ refusals e.log ∨
      refusals e.log = [] ∧ ∃ code, lib.buildObservationPacket e.seed.scenario (observed .fault e.log) =
        .error code ∧ lib.kind code ≠ .other) : Sorted lib e := by
  refine ⟨?_, ?_⟩
  · rw [hmetric]
    constructor
    · rintro (hflag | ⟨hrefusals, code, hpacket, hkind⟩)
      · exact .inr (.inr (.inr (.inl hflag)))
      · exact .inr (.inr (.inr (.inr ⟨hmade, hcalls, hrefusals, code, hpacket, hkind⟩)))
    · rintro (hcontra | ⟨err, hcontra, -⟩ | ⟨err, hmem, -⟩ | hflag | ⟨-, -, hrefusals, hpacket⟩)
      · exact absurd hcut hcontra
      · rw [hmade] at hcontra
        cases hcontra
      · rw [hcalls] at hmem
        cases hmem
      · exact .inl hflag
      · exact .inr ⟨hrefusals, hpacket⟩
  · rintro ⟨-, ⟨err, -, hcontra⟩, -⟩ -
    rw [hcalls] at hcontra
    cases hcontra

theorem sorted_of_unmade {seed : Seed} {trial : Trial} {err : CallError}
    (hmade : trial.made = .error err) :
    Sorted lib ⟨seed, trial, precondition, .error (.call err), []⟩ := by
  refine ⟨?_, ?_⟩
  · rw [status_metric rfl]
    constructor
    · intro hclass
      exact .inr (.inl ⟨err, hmade, hclass⟩)
    · rintro (hcontra | ⟨err', hmade', hclass⟩ | ⟨err', hmem, -⟩ | hcontra | ⟨hcontra, -⟩)
      · exact absurd rfl hcontra
      · have heq := hmade.symm.trans hmade'
        cases heq
        exact hclass
      · cases hmem
      · cases hcontra
      · have heq := hmade.symm.trans hcontra
        cases heq
  · rintro ⟨hcontra, -⟩ -
    have heq := hmade.symm.trans hcontra
    cases heq

/-- A trial whose fault was injected and cleaned up without a failed verdict. -/
theorem sorted_of_ran {seed : Seed} {trial : Trial} {early late late' more : List Event}
    {fault cleanup : List Observation × Option Exn} (hmade : trial.made = .ok ())
    (hearly : Early trial.world original precondition early)
    (hfault : FaultCourse lib.floats seed.faultClass original seed.adapter fault late)
    (hcleanup : CleanupCourse lib.floats original cleanup late')
    (hconcluded : Concluded lib seed fault cleanup result more)
    (hverdict : ¬VerdictFailed lib seed.faultClass (more ++ (late' ++ (late ++ early)))) :
    Sorted lib ⟨seed, trial, precondition, result, more ++ (late' ++ (late ++ early))⟩ := by
  obtain ⟨hfaults, hrecoveries, hreadback, hcalls, hrefusals, hcut⟩ :=
    totals_of_ran hearly hfault hcleanup hconcluded
  -- no readback and no oracle of either phase has failed
  have hfault' : ¬(readbackFailed lib.floats late = true ∨
      OracleFailed lib.floats seed.faultClass (observed .fault late)) := by
    rintro (hfailed | hfailed)
    · refine hverdict (.inr (.inl ?_))
      rw [hreadback, hfailed, Bool.or_true]
    · refine hverdict (.inr (.inr (.inl ?_)))
      rw [hfaults]
      exact hfailed
  have hcleanup' : ¬(readbackFailed lib.floats late' = true ∨
      RecoveryFailed (observed .recovery late')) := by
    rintro (hfailed | hfailed)
    · refine hverdict (.inr (.inl ?_))
      rw [hreadback, hfailed, Bool.true_or]
    · refine hverdict (.inr (.inr (.inr (.inl ?_))))
      rw [hrecoveries]
      exact hfailed
  obtain ⟨faults, primary⟩ := fault
  obtain ⟨recovery, cut⟩ := cleanup
  have hendedFault := hfault.ended
  have hendedCleanup := hcleanup.ended
  dsimp only at hendedFault hendedCleanup hrefusals hcut
  cases hconcluded with
  | cleanup text err hsome =>
    -- the clean-up was cut short by a call, as its verdicts have not failed
    dsimp only at hsome
    subst hsome
    cases hendedCleanup with
    | failed text hcalls' hfailed => exact absurd hfailed hcleanup'
    | called err hcalls' =>
      have hmetric : Executed.status lib ⟨seed, trial, precondition,
          .error (.wrapped text (.call err)), [] ++ (late' ++ (late ++ early))⟩ = .metricFail :=
        (status_metric rfl).2 rfl
      refine ⟨⟨fun _ => .inl ?_, fun _ => hmetric⟩, fun _ hne => absurd hmetric hne⟩
      rw [hcut]
      exact List.cons_ne_nil _ _
    | refused err hrefused hcalls' =>
      rcases hcleanup.raised err rfl with ⟨text', rfl⟩ | ⟨call, rfl⟩
      · rcases hrefused with ⟨f, hcontra⟩ | hcontra <;> cases hcontra
      · rcases hrefused with ⟨f, hcontra⟩ | hcontra <;> cases hcontra
  | primary err hnone hsome =>
    dsimp only at hnone hsome
    subst hnone hsome
    cases hendedCleanup with
    | done hcalls' =>
      rw [hcalls', List.nil_append] at hcalls
      cases hendedFault with
      | failed text hcalls'' hfailed => exact absurd hfailed hfault'
      | called err hcalls'' =>
        rw [hcalls''] at hcalls
        exact sorted_of_call rfl hmade hcalls hrefusals hcut
      | refused err hrefused hcalls'' =>
        rw [hcalls''] at hcalls
        refine sorted_of_quiet hmade hcalls hcut ?_
        rw [status_metric rfl]
        dsimp only
        rw [hrefusals]
        rcases hrefused with ⟨f, rfl⟩ | rfl
        · cases f <;> simp [refusal, classOf]
        · simp [refusal, classOf]
  | unread err hnone hnone' =>
    dsimp only at hnone hnone'
    subst hnone hnone'
    cases hendedCleanup with
    | done hcalls' =>
      cases hendedFault with
      | done hcalls'' =>
        rw [hcalls', hcalls''] at hcalls
        exact sorted_of_call rfl hmade hcalls hrefusals hcut
  | refused restored code hnone hnone' hpacket =>
    dsimp only at hnone hnone' hpacket
    subst hnone hnone'
    cases hendedCleanup with
    | done hcalls' =>
      cases hendedFault with
      | done hcalls'' =>
        rw [hcalls', hcalls''] at hcalls
        refine sorted_of_quiet hmade hcalls hcut ?_
        have hseen := hfault.observations rfl
        dsimp only at hseen
        rw [status_metric rfl]
        dsimp only
        rw [hrefusals, hfaults, ← hseen, hpacket]
        simp [refusal, classOf, CallError.class]
  | passed restored report packet hnone hnone' hpacket hrecovery =>
    dsimp only at hnone hnone' hpacket
    subst hnone hnone'
    cases hendedCleanup with
    | done hcalls' =>
      cases hendedFault with
      | done hcalls'' =>
        rw [hcalls', hcalls''] at hcalls
        refine sorted_of_quiet hmade hcalls hcut ?_
        have hseen := hfault.observations rfl
        dsimp only at hseen
        dsimp only
        rw [hrefusals, hfaults, ← hseen, hpacket]
        simp only [Executed.status, refusal]
        split <;> simp

/-- **A trial stays retryable exactly if it is uninterrupted.** -/
theorem retryable_of_course (h : Course lib e.seed e.trial e.precondition e.result e.log) :
    e.Retryable lib ↔ e.Uninterrupted lib := by
  refine retryable_of_sorted fun hverdict => ?_
  obtain ⟨seed, trial, precondition, result, log⟩ := e
  dsimp only at h hverdict
  cases h with
  | unmade err hmade => exact sorted_of_unmade hmade
  | unread err hmade => exact sorted_of_call rfl hmade rfl rfl rfl
  | uncontrolled original err hmade => exact sorted_of_call rfl hmade rfl rfl rfl
  | unhealthy original o text hmade hill =>
    exact absurd (.inl ⟨o, List.mem_singleton_self o, hill⟩) hverdict
  | ran original early late late' more fault cleanup result hmade hearly hfault hcleanup hconcluded =>
    exact sorted_of_ran hmade hearly hfault hcleanup hconcluded hverdict

/-! ### Runs of the matrix -/

namespace Visit

def seed : Visit → Seed
  | .recalled seed => seed
  | .executed e => e.seed

end Visit

variable (lib) in
/-- What a call has visited, the last one first. -/
inductive Visited : List Visit → Prop
  | nil : Visited []
  | recalled {earlier : List Visit} (seed : Seed) (h : Visited earlier) :
      Visited (.recalled seed :: earlier)
  | executed {earlier : List Visit} (e : Executed) (h : Visited earlier)
      (hfirst : e.precondition = none ↔ earlier = [])
      (hpassed : ∀ e', .executed e' ∈ earlier → ∃ report, e'.result = .ok report)
      (hcourse : Course lib e.seed e.trial e.precondition e.result e.log) :
      Visited (.executed e :: earlier)

theorem Visited.suffix {later earlier : List Visit} (h : Visited lib (later ++ earlier)) :
    Visited lib earlier := by
  induction later with
  | nil => exact h
  | cons visit later ih =>
    cases h with
    | recalled seed h => exact ih h
    | executed e h => exact ih h

variable (lib) in
/-- Every trial has left its status in the journal. -/
def Recorded (s : State) : Prop :=
  ∀ e, .executed e ∈ s.visits →
    ∃ record, s.journal e.seed.trialId = some record ∧ record.status = e.status lib

variable (lib) in
/-- A state from which the matrix goes on. -/
structure Ongoing (s : State) : Prop where
  visited : Visited lib s.visits
  recorded : Recorded lib s
  first : s.precondition = none ↔ s.visits = []
  healthy : ∀ observations, s.precondition = some observations →
    recoveryState observations = .healthy
  passed : ∀ e, .executed e ∈ s.visits → ∃ report, e.result = .ok report

theorem healed_of_course {seed : Seed} {trial : Trial} {report : Report} {packet : Json}
    {log : List Event} (h : Course lib seed trial precondition (.ok (report, packet)) log) :
    recoveryState report.recoveryObservations = .healthy ∧
    ∃ restored found first second original early,
      log = [.read (.ok restored), .observe .recovery (.ok second), .observe .recovery (.ok first),
        .read (.ok found), .write original (.ok ())] ++ early ∧
      recoveryState [first, second] = .healthy := by
  cases h with
  | ran original early late late' more fault cleanup result hmade hearly hfault hcleanup hconcluded =>
    cases hconcluded with
    | passed restored report packet hnone hnone' hpacket hrecovery =>
      obtain ⟨found, first, second, hseen, hhealthy, rfl⟩ := hcleanup.healed hnone
      rw [hrecovery, hseen]
      exact ⟨hhealthy, restored, found, first, second, original, late ++ early, rfl, hhealthy⟩

theorem recalled_healthy {payload : List (String × Json)} {observations : List Observation}
    {packet : Json} (h : recalled lib payload = .ok (observations, packet)) :
    recoveryState observations = .healthy := by
  unfold recalled at h
  split at h
  · split at h
    · split at h
      · cases h
      · split at h
        · rename_i hhealthy
          split at h
          · cases h
          · split at h
            · cases h
            · cases h
              exact hhealthy
        · cases h
    · cases h
  · cases h

variable {imageSetDigest producerSha : String} {entry : Seed × Trial} {s s' : State}
  {out : Option (Except Raised Summary)} {r : Except Raised Summary}

theorem record_status (e : Executed) (journal : Journal) :
    (e.record lib imageSetDigest producerSha journal).status = e.status lib := by
  unfold Executed.record
  split
  · rename_i hrunning
    rw [hrunning]
    rfl
  · rfl

theorem recorded_of_trial (hs : Ongoing lib s) {record : Record} {trialId : String}
    (hid : e.seed.trialId = trialId) (hstatus : record.status = e.status lib)
    (hnew : ∀ v ∈ s.visits, v.seed.trialId ≠ trialId) {completed : List Record}
    {packets : List Json} :
    Recorded lib ⟨Experiments.write s.journal trialId record, completed, packets, precondition,
      .executed e :: s.visits⟩ := by
  intro e' hmem
  rcases List.mem_cons.1 hmem with heq | hmem
  · cases heq
    refine ⟨record, ?_, hstatus⟩
    rw [hid]
    exact Experiments.write_self ..
  · obtain ⟨record', hrecord, hstatus'⟩ := hs.recorded e' hmem
    refine ⟨record', ?_, hstatus'⟩
    rw [← hrecord]
    exact Experiments.write_of_ne (hnew (.executed e') hmem) ..

theorem executeSeed_spec (h : executeSeed lib imageSetDigest producerSha entry s = (out, s'))
    (hs : Ongoing lib s) (hnew : ∀ v ∈ s.visits, v.seed.trialId ≠ entry.1.trialId) :
    Visited lib s'.visits ∧ Recorded lib s' ∧ (out = none → Ongoing lib s') ∧
      ∃ v : Visit, v.seed = entry.1 ∧ s'.visits = v :: s.visits := by
  have hcourse := @course_execute lib entry.1 entry.2 s.precondition hs.healthy
  have hseed : (execute lib entry.1 entry.2 s.precondition).seed = entry.1 := rfl
  have htrial : (execute lib entry.1 entry.2 s.precondition).trial = entry.2 := rfl
  have hprecondition : (execute lib entry.1 entry.2 s.precondition).precondition = s.precondition := rfl
  unfold executeSeed at h
  dsimp only at h
  generalize execute lib entry.1 entry.2 s.precondition = e at h hcourse hseed htrial hprecondition
  rw [← hseed, ← htrial, ← hprecondition] at hcourse
  have hvisited : Visited lib (.executed e :: s.visits) :=
    .executed e hs.visited (by rw [hprecondition]; exact hs.first) hs.passed hcourse
  have hid : e.seed.trialId = entry.1.trialId := congrArg Seed.trialId hseed
  cases hresult : e.result with
  | error err =>
    rw [hresult] at h
    dsimp only at h
    have hstopped : ∃ result record, out = some result ∧ record.status = e.status lib ∧
        s' = { s with
          journal := Experiments.write s.journal entry.1.trialId record
          visits := .executed e :: s.visits } := by
      split at h <;> cases h <;> exact ⟨_, _, rfl, record_status e s.journal, rfl⟩
    obtain ⟨result, record, rfl, hstatus, rfl⟩ := hstopped
    exact ⟨hvisited, recorded_of_trial hs hid hstatus hnew, nofun, .executed e, hseed, rfl⟩
  | ok pair =>
    obtain ⟨report, packet⟩ := pair
    rw [hresult] at h hcourse
    dsimp only at h
    split at h
    · cases h
      refine ⟨hvisited, recorded_of_trial hs hid (record_status e s.journal) hnew, fun _ => ?_,
        .executed e, hseed, rfl⟩
      refine ⟨hvisited, recorded_of_trial hs hid (record_status e s.journal) hnew, ?_, ?_, ?_⟩
      · constructor
        · intro hcontra
          cases hcontra
        · intro hcontra
          cases hcontra
      · rintro observations heq
        cases heq
        exact (healed_of_course hcourse).1
      · intro e' hmem
        rcases List.mem_cons.1 hmem with heq | hmem
        · cases heq
          exact ⟨_, hresult⟩
        · exact hs.passed e' hmem
    · cases h
      exact ⟨hvisited, recorded_of_trial hs hid (record_status e s.journal) hnew, nofun,
        .executed e, hseed, rfl⟩

theorem visit_spec (h : visit lib imageSetDigest producerSha entry s = (out, s'))
    (hs : Ongoing lib s) (hnew : ∀ v ∈ s.visits, v.seed.trialId ≠ entry.1.trialId) :
    Visited lib s'.visits ∧ Recorded lib s' ∧ (out = none → Ongoing lib s') ∧
      (s'.visits = s.visits ∨ ∃ v : Visit, v.seed = entry.1 ∧ s'.visits = v :: s.visits) := by
  have hexecute : executeSeed lib imageSetDigest producerSha entry s = (out, s') →
      Visited lib s'.visits ∧ Recorded lib s' ∧ (out = none → Ongoing lib s') ∧
        (s'.visits = s.visits ∨ ∃ v : Visit, v.seed = entry.1 ∧ s'.visits = v :: s.visits) := by
    intro h
    obtain ⟨hvisited, hrecorded, hongoing, hvisits⟩ := executeSeed_spec h hs hnew
    exact ⟨hvisited, hrecorded, hongoing, .inr hvisits⟩
  unfold visit at h
  split at h
  · exact hexecute h
  · split at h
    · split at h
      · split at h
        · cases h
          exact ⟨hs.visited, hs.recorded, nofun, .inl rfl⟩
        · rename_i observations packet hrecalled
          cases h
          have hvisited : Visited lib (.recalled entry.1 :: s.visits) := .recalled _ hs.visited
          have hmem : ∀ e, Visit.executed e ∈ Visit.recalled entry.1 :: s.visits →
              Visit.executed e ∈ s.visits := by
            intro e hmem
            exact (List.mem_cons.1 hmem).resolve_left nofun
          refine ⟨hvisited, fun e h => hs.recorded e (hmem e h), fun _ => ?_, .inr ⟨_, rfl, rfl⟩⟩
          refine ⟨hvisited, fun e h => hs.recorded e (hmem e h), ?_, ?_, fun e h => hs.passed e (hmem e h)⟩
          · constructor
            · intro hcontra
              cases hcontra
            · intro hcontra
              cases hcontra
          · rintro _ ⟨⟩
            exact recalled_healthy hrecalled
      · split at h
        · cases h
          exact ⟨hs.visited, hs.recorded, nofun, .inl rfl⟩
        · exact hexecute h
    · exact hexecute h

/-- **What a call has visited.** -/
theorem visitAll_spec {entries : List (Seed × Trial)}
    (h : visitAll lib imageSetDigest producerSha entries s = (r, s')) (hs : Ongoing lib s)
    (hnodup : (entries.map fun entry => entry.1.trialId).Nodup)
    (hnew : ∀ v ∈ s.visits, v.seed.trialId ∉ entries.map fun entry => entry.1.trialId) :
    Visited lib s'.visits ∧ Recorded lib s' := by
  induction entries generalizing s with
  | nil =>
    rw [visitAll] at h
    split at h <;> cases h <;> exact ⟨hs.visited, hs.recorded⟩
  | cons entry rest ih =>
    obtain ⟨hnot, hrest⟩ := List.nodup_cons.1 hnodup
    rw [visitAll] at h
    rcases hvisit : visit lib imageSetDigest producerSha entry s with ⟨out, s₁⟩
    rw [hvisit] at h
    have hentry : ∀ v ∈ s.visits, v.seed.trialId ≠ entry.1.trialId := by
      intro v hv heq
      refine hnew v hv ?_
      rw [heq]
      exact List.mem_cons_self
    obtain ⟨hvisited, hrecorded, hongoing, hvisits⟩ := visit_spec hvisit hs hentry
    cases out with
    | some result =>
      cases h
      exact ⟨hvisited, hrecorded⟩
    | none =>
      refine ih h (hongoing rfl) hrest ?_
      have hold : ∀ v ∈ s.visits, v.seed.trialId ∉ rest.map fun entry => entry.1.trialId :=
        fun v hv hmem => hnew v hv (List.mem_cons_of_mem _ hmem)
      rcases hvisits with heq | ⟨v, hseed, heq⟩
      · rw [heq]
        exact hold
      · rw [heq]
        intro v' hmem
        rcases List.mem_cons.1 hmem with rfl | hmem
        · rw [hseed]
          exact hnot
        · exact hold v' hmem

/-! ### The catalogue -/

theorem ofDigitChars_fourDigits (n : ℕ) : Nat.ofDigitChars 10 (fourDigits n).toList 0 = n := by
  have hrepr : Nat.ofDigitChars 10 (toString n).toList 0 = n := by
    rw [show (toString n).toList = Nat.toDigits 10 n from String.toList_ofList]
    exact Nat.ofDigitChars_ten_toDigits
  have hzeros : ∀ (k : ℕ) (digits : List Char),
      Nat.ofDigitChars 10 (List.replicate k '0' ++ digits) 0 = Nat.ofDigitChars 10 digits 0 := by
    intro k digits
    induction k with
    | zero => rfl
    | succ k ih =>
      rw [List.replicate_succ, List.cons_append]
      exact ih
  rw [fourDigits, String.toList_append, String.toList_ofList, hzeros, hrepr]

theorem trialId_injective {seed other : Seed} (h : seed.trialId = other.trialId) :
    seed.number = other.number := by
  have hdigits := (String.append_right_inj _).1 h
  have hnumber := congrArg (fun text => Nat.ofDigitChars 10 (String.toList text) 0) hdigits
  simpa only [ofDigitChars_fourDigits] using hnumber

theorem Catalogue.nodup (catalogue : Catalogue) :
    (catalogue.entries.map fun entry => entry.1.trialId).Nodup := by
  have hnumbers : (catalogue.entries.map fun entry => entry.1.number).Nodup := by
    rw [catalogue.numbers]
    exact List.nodup_range'
  rw [List.Nodup, List.pairwise_map] at hnumbers ⊢
  exact hnumbers.imp fun hne heq => hne (trialId_injective heq)

/-- **What a call leaves of its trials.** -/
theorem visited {catalogue : Catalogue} {journal : Journal}
    (h : runScenarioMatrix lib imageSetDigest producerSha catalogue journal = (r, s')) :
    Visited lib s'.visits ∧ Recorded lib s' := by
  refine visitAll_spec h ⟨.nil, ?_, ?_, ?_, ?_⟩ catalogue.nodup ?_
  · intro e hmem
    cases hmem
  · exact ⟨fun _ => rfl, fun _ => rfl⟩
  · intro observations heq
    cases heq
  · intro e hmem
    cases hmem
  · intro v hmem
    cases hmem

/-- **Infrastructure failures stay retryable exactly in uninterrupted trials.**  Every trial of a call
has a record in the journal; it is a failed metric only if a verdict or a readback has failed, and an
infrastructure failure if that is the only failure, exactly if a verdict has failed or no clean-up
was cut short and nothing else was refused. -/
theorem retryable_iff (lib : Library) (imageSetDigest producerSha : String) (catalogue : Catalogue)
    (journal : Journal) (r : Except Raised Summary) (s : State) (e : Executed)
    (h : runScenarioMatrix lib imageSetDigest producerSha catalogue journal = (r, s))
    (he : .executed e ∈ s.visits) :
    ∃ record, s.journal e.seed.trialId = some record ∧
      ((record.status = .metricFail → VerdictFailed lib e.seed.faultClass e.log) ∧
          (e.OnlyInfrastructure lib → record.status = .infraFailed) ↔
        e.Uninterrupted lib) := by
  obtain ⟨hvisited, hrecorded⟩ := visited h
  obtain ⟨record, hrecord, hstatus⟩ := hrecorded e he
  refine ⟨record, hrecord, ?_⟩
  rw [hstatus]
  obtain ⟨later, earlier, hvisits⟩ := List.append_of_mem he
  rw [hvisits] at hvisited
  cases hvisited.suffix with
  | executed e hearlier hfirst hpassed hcourse => exact retryable_of_course hcourse

/-! ### A clean-up that is cut short -/

/-- A seed whose fault is that of the product catalogue. -/
def sampleSeed (n : ℕ) : Seed where
  number := n
  scenario := [("scenario_id", .str ("SEED-G02-" ++ fourDigits n)), ("family", .str "change_config"),
    ("fault_action", .obj [("class", .str "productCatalogFailure")])]
  family := .str "change_config"
  adapter := ⟨"change_config", "productCatalogFailure", "on", ["journey_failed", "correlated_error"]⟩
  id_eq := rfl
  family_eq := rfl
  adapter_eq := rfl

/-- The catalogue in which all trials are the same. -/
def sampleCatalogue (trial : Trial) : Catalogue where
  entries := (List.range' 1 32).map fun n => (sampleSeed n, trial)
  numbers := by
    rw [List.map_map]
    exact List.map_id _

def sampleLibrary : Library where
  sha256 := id
  floats := sampleFloats
  kind _ := .governance
  buildObservationPacket _ _ := .ok .null
  reason _ := ""
  dict := some

/-- The fault is seen, and the recovery cannot be observed. -/
def unobservedRecovery : World where
  read log := .ok ((writes log).headD sampleDocument)
  write _ _ := .ok ()
  observe phase _ :=
    match phase with
    | .control => .ok ⟨[("state", .json (.str "HEALTHY"))], true⟩
    | .fault => .ok ⟨[("journey_failed", .json (.bool true)),
        ("correlated_error", .json (.bool true))], true⟩
    | .recovery => .error ⟨true, 0⟩
  window _ := .ok ⟨[], true⟩

/-- A call ends with a trial that raises something. -/
theorem visitAll_of_error {seed : Seed} {trial : Trial} {rest : List (Seed × Trial)} {s : State}
    {err : Exn} (hfree : s.journal seed.trialId = none)
    (hresult : (execute lib seed trial s.precondition).result = .error err) :
    (visitAll lib imageSetDigest producerSha ((seed, trial) :: rest) s).2.visits =
        .executed (execute lib seed trial s.precondition) :: s.visits ∧
      (visitAll lib imageSetDigest producerSha ((seed, trial) :: rest) s).2.journal seed.trialId =
        some ((execute lib seed trial s.precondition).record lib imageSetDigest producerSha
          s.journal) := by
  have hvisit : ∃ result s', visit lib imageSetDigest producerSha (seed, trial) s =
      (some result, s') ∧ s'.visits = .executed (execute lib seed trial s.precondition) :: s.visits ∧
      s'.journal = Experiments.write s.journal seed.trialId
        ((execute lib seed trial s.precondition).record lib imageSetDigest producerSha s.journal) := by
    simp only [visit, hfree, executeSeed, hresult]
    cases classOf lib err <;> exact ⟨_, _, rfl, rfl, rfl⟩
  obtain ⟨result, s', hvisit, hvisits, hjournal⟩ := hvisit
  rw [visitAll, hvisit]
  dsimp only
  rw [hvisits, hjournal]
  exact ⟨rfl, Experiments.write_self ..⟩

theorem visitAll_of_recalled {entry : Seed × Trial} {rest : List (Seed × Trial)} {s : State}
    {record : Record} {observations : List Observation} {packet : Json}
    (hrecord : s.journal entry.1.trialId = some record)
    (hkey : record.cacheKey = cacheKey lib imageSetDigest entry.1) (hpass : record.status = .pass)
    (hrecalled : recalled lib record.payload = .ok (observations, packet)) :
    visitAll lib imageSetDigest producerSha (entry :: rest) s =
      visitAll lib imageSetDigest producerSha rest { s with
        completed := s.completed ++ [record]
        packets := s.packets ++ [packet]
        precondition := some observations
        visits := .recalled entry.1 :: s.visits } := by
  simp only [visitAll, visit, hrecord, hkey, hpass, if_true, hrecalled]

theorem visits_of_recalled {seed seed' : Seed} {trial trial' : Trial} {rest : List (Seed × Trial)}
    {journal : Journal} {record : Record} {observations : List Observation} {packet : Json} {err : Exn}
    (hrecord : journal seed.trialId = some record)
    (hkey : record.cacheKey = cacheKey lib imageSetDigest seed) (hpass : record.status = .pass)
    (hrecalled : recalled lib record.payload = .ok (observations, packet))
    (hfree : journal seed'.trialId = none)
    (hresult : (execute lib seed' trial' (some observations)).result = .error err) :
    (visitAll lib imageSetDigest producerSha ((seed, trial) :: (seed', trial') :: rest)
        { journal }).2.visits =
      [.executed (execute lib seed' trial' (some observations)), .recalled seed] := by
  rw [@visitAll_of_recalled lib imageSetDigest producerSha (seed, trial) _ ⟨journal, [], [], none, []⟩
    record observations packet hrecord hkey hpass hrecalled]
  exact (@visitAll_of_error lib imageSetDigest producerSha seed' trial' rest
    ⟨journal, [record], [packet], some observations, [.recalled seed]⟩ err hfree hresult).1

/-- The trial of the first seed. -/
def sampleTrial : Executed :=
  execute sampleLibrary (sampleSeed 1) ⟨.ok (), unobservedRecovery⟩ none

theorem sampleTrial_result : sampleTrial.result =
    .error (.wrapped "scenario cleanup blocked and quarantined the SUT" (.call ⟨true, 0⟩)) := by
  rfl

theorem sampleTrial_visited :
    (runScenarioMatrix sampleLibrary "" "" (sampleCatalogue ⟨.ok (), unobservedRecovery⟩)
        fun _ => none).2.visits = [.executed sampleTrial] ∧
      (runScenarioMatrix sampleLibrary "" "" (sampleCatalogue ⟨.ok (), unobservedRecovery⟩)
        fun _ => none).2.journal sampleTrial.seed.trialId =
          some (sampleTrial.record sampleLibrary "" "" fun _ => none) := by
  have hentries : (sampleCatalogue ⟨.ok (), unobservedRecovery⟩).entries =
      (sampleSeed 1, ⟨.ok (), unobservedRecovery⟩) ::
        (List.range' 2 31).map fun n => (sampleSeed n, ⟨.ok (), unobservedRecovery⟩) := rfl
  rw [runScenarioMatrix, hentries]
  exact visitAll_of_error rfl sampleTrial_result

/-- The only failure of the trial is an infrastructure failure. -/
theorem sampleTrial_onlyInfrastructure : sampleTrial.OnlyInfrastructure sampleLibrary := by
  have hcalls : callErrors sampleTrial.log = [⟨true, 0⟩] := by rfl
  refine ⟨rfl, ⟨_, rfl, hcalls⟩, by rfl, ?_⟩
  rintro (⟨o, ho, hill⟩ | hreadback | ⟨-, state, hstate, hne⟩ | ⟨hlength, -⟩ | ⟨err, herr, hclass, -⟩)
  · have hcontrol : observed .control sampleTrial.log = [⟨[("state", .json (.str "HEALTHY"))], true⟩] :=
      by rfl
    rw [hcontrol] at ho
    cases List.mem_singleton.1 ho
    cases hill
  · have hsame : readbackFailed sampleLibrary.floats sampleTrial.log = false := by rfl
    rw [hsame] at hreadback
    cases hreadback
  · have hactive : faultState sampleLibrary.floats sampleTrial.seed.faultClass
        (observed .fault sampleTrial.log) = .ok .faultActive := by rfl
    rw [hactive] at hstate
    cases hstate
    exact hne rfl
  · cases hlength
  · rw [hcalls] at herr
    cases List.mem_singleton.1 herr
    cases hclass

/-- The recovery cannot be observed, and the trial is recorded as a failed metric. -/
theorem not_retryable_recovery :
    ¬∀ (lib : Library) (imageSetDigest producerSha : String) (catalogue : Catalogue)
      (journal : Journal) (r : Except Raised Summary) (s : State) (e : Executed),
      runScenarioMatrix lib imageSetDigest producerSha catalogue journal = (r, s) →
      .executed e ∈ s.visits →
      ∃ record, s.journal e.seed.trialId = some record ∧
        (record.status = .metricFail → VerdictFailed lib e.seed.faultClass e.log) ∧
          (e.OnlyInfrastructure lib → record.status = .infraFailed) := by
  intro h
  obtain ⟨hvisits, hjournal⟩ := sampleTrial_visited
  obtain ⟨record, hrecord, -, hinfra⟩ := h sampleLibrary "" "" _ _ _ _ sampleTrial
    (Prod.mk.eta).symm (by rw [hvisits]; exact List.mem_singleton_self _)
  cases hjournal.symm.trans hrecord
  have hstatus := hinfra sampleTrial_onlyInfrastructure
  rw [record_status] at hstatus
  cases hstatus

theorem retryable_iff_recovery :
    ∃ record, (runScenarioMatrix sampleLibrary "" ""
        (sampleCatalogue ⟨.ok (), unobservedRecovery⟩) fun _ => none).2.journal
          sampleTrial.seed.trialId = some record ∧
      ((record.status = .metricFail →
            VerdictFailed sampleLibrary sampleTrial.seed.faultClass sampleTrial.log) ∧
          (sampleTrial.OnlyInfrastructure sampleLibrary → record.status = .infraFailed) ↔
        sampleTrial.Uninterrupted sampleLibrary) :=
  retryable_iff sampleLibrary "" "" _ _ _ _ sampleTrial (Prod.mk.eta).symm
    (by rw [sampleTrial_visited.1]; exact List.mem_singleton_self _)

end ScenarioMatrix
