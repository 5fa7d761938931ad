/-
**The live observer of the scenarios.**

Every trial has an observer of its own, made for one class of faults.  The control polls the
laboratory until a sample is healthy and its signal is there, and takes the baselines from that
sample; the fault is polled until the oracle sees it, and the recovery until nothing is missing.  A
poll after the deadline is the last one.

The control is run only where the matrix has no recovery to go by.  After a recalled or an executed
scenario the baselines are still those with which the observer was made.

Main definitions:

* `LiveObserver.call` — a call of `LiveScenarioObserver`, with the polls it makes;
* `LiveObserver.after` — the observer after some calls;
* `LiveObserver.ObservedHealthy` — healthy observations since the last write;
* `LiveObserver.Measured` — the baselines are those of a healthy sample.

Main results:

* `LiveObserver.sample_of_control` — what the observer calls healthy is a sample that is ready and whose
  journey has succeeded;
* `LiveObserver.proven_iff` — **an injection is preceded by healthy observations and measured
  baselines exactly if it is the first of the call, or follows one of the call and needs no
  baselines**.
-/

import FaultWitness.ScenarioMatrix

set_option autoImplicit false

namespace LiveObserver

open Python FlagDocuments ScenarioRuns ScenarioMatrix
open Experiments (Journal)

/-! ### Samples -/

/-- What the collector prints; floats are texts. -/
structure Sample where
  recordedAt : String
  ready : Bool
  journeyStatus : ℤ
  cpuRate : String
  workingSet : String
  consumerLag : String
  consumerRecordLag : String
  consumerPollLagSeconds : String
  traceCount : ℕ
  errorSpans : ℕ
  checkoutErrorSpans : ℕ
  paymentConnectionErrors : ℕ
  descriptions : List String
  kafkaLogError : Bool
  kafkaFaultLog : Bool
  absentSeries : Option (List String) := none

namespace Sample

variable (sample : Sample)

/-- The sample as a dictionary. -/
def fields : Document :=
  (sample.absentSeries.map fun names => ("absent_series", Json.arr (names.map .str))).toList ++
    [("checkout_error_spans", .int sample.checkoutErrorSpans),
      ("consumer_lag", .float sample.consumerLag),
      ("consumer_poll_lag_seconds", .float sample.consumerPollLagSeconds),
      ("consumer_record_lag", .float sample.consumerRecordLag),
      ("cpu_rate", .float sample.cpuRate),
      ("descriptions", .arr (sample.descriptions.map .str)),
      ("error_spans", .int sample.errorSpans),
      ("journey_status", .int sample.journeyStatus),
      ("kafka_fault_log", .bool sample.kafkaFaultLog),
      ("kafka_log_error", .bool sample.kafkaLogError),
      ("payment_connection_errors", .int sample.paymentConnectionErrors),
      ("ready", .bool sample.ready),
      ("recorded_at", .str sample.recordedAt),
      ("trace_count", .int sample.traceCount),
      ("working_set", .float sample.workingSet)]

/-- The function `_absent_series`. -/
def absent : List String :=
  ["cpu_rate", "working_set", "consumer_record_lag", "consumer_poll_lag_seconds"].filter
    (· ∈ sample.absentSeries.getD [])

def healthy : Bool := sample.ready && sample.journeyStatus = 200

end Sample

/-- The operations on floats, by their texts. -/
structure Arithmetic where
  lt : String → String → Bool
  le : String → String → Bool
  sub : String → String → String
  mul : String → String → String

/-- The function `max` of two arguments. -/
def Arithmetic.max (A : Arithmetic) (x y : String) : String := if A.lt x y then y else x

/-- The value `float(x or 0.0)`. -/
def orZero (text : String) : String := if text = "-0.0" then "0.0" else text

def EMAIL_MEMORY_MIN_GROWTH_BYTES : String := "1048576"

def EMAIL_MEMORY_MIN_GROWTH_RATIO : String := "0.05"

/-- The codes of the exceptions that the observer itself raises. -/
structure Codes where
  drifted : ℕ
  absentSeries : ℕ
  unsupported : ℕ
  indexError : ℕ
  oracle : ℕ

/-! ### Observers -/

/-- The fields of an observer that are read. -/
structure Observer where
  baselineCpu : String := "0.0"
  baselineWorkingSet : String := "0.0"
  baselineLag : String := "0.0"
  faultStarted : Bool := false
  recoveryStarted : Bool := false
  /-- The active observations with their samples, the last one first. -/
  faultSamples : List (Sample × Observation) := []
  adFaultStimulus : Option Document := none
  adRecoveryStimulus : Option Document := none
  productStimulus : Option Document := none
  emailRuntimeReset : Option Document := none
  emailFaultStimuli : List Document := []
  emailRecoveryStimulus : Option Document := none
  kafkaStimulus : Option Document := none

/-- What the laboratory answers to one call. -/
structure Answers where
  /-- The answer to the request that precedes the polls, if there is one. -/
  prepared : Except CallError Document
  /-- The polls before the deadline. -/
  polls : List (Except CallError Sample)
  /-- The poll after which the deadline has passed. -/
  last : Except CallError Sample

def Answers.samples (answers : Answers) : List (Except CallError Sample) :=
  answers.polls ++ [answers.last]

variable (A : Arithmetic) (floats : Floats) (codes : Codes) (faultClass : String)

/-- The polls of a call, up to one that is accepted. -/
def poll {α : Type} (accept : Sample → Option (Except CallError α))
    (expired : Sample → Except CallError α) (last : Except CallError Sample) :
    List (Except CallError Sample) → Except CallError α
  | [] => last.bind fun sample => (accept sample).getD (expired sample)
  | .error err :: _ => .error err
  | .ok sample :: polls =>
    match accept sample with
    | some result => result
    | none => poll accept expired last polls

/-- A request, and what the observer keeps of its answer. -/
def request (answer : Except CallError Document) (o : Observer) (keep : Document → Observer) :
    Except CallError Unit × Observer :=
  match answer with
  | .error err => (.error err, o)
  | .ok document => (.ok (), keep document)

/-- Assigning several values. -/
def update (fields entries : Document) : Document :=
  entries.foldl (fun fields entry => assign fields entry.1 entry.2) fields

/-- A copy of a document that may be missing. -/
def optional (key : String) (document : Option Document) : Document :=
  (document.map fun fields => (key, Json.obj fields)).toList

def observation (fields : Document) : Observation := ⟨fields.map fun f => (f.1, .json f.2), true⟩

/-! ### The control -/

def prepareControl (prepared : Except CallError Document) (o : Observer) :
    Except CallError Unit × Observer :=
  if faultClass = "emailMemoryLeak" then
    request prepared o fun document => { o with emailRuntimeReset := some document }
  else if faultClass = "adHighCpu" then request prepared o fun _ => o
  else (.ok (), o)

def signalReady (sample : Sample) : Bool :=
  sample.absent = [] &&
    if faultClass = "emailMemoryLeak" then A.lt "0" sample.workingSet
    else if faultClass = "adHighCpu" then A.lt "0" sample.cpuRate
    else true

def acceptControl (sample : Sample) : Option (Except CallError (Option Sample)) :=
  if sample.healthy && signalReady A faultClass sample then some (.ok (some sample)) else none

/-- The baselines of a sample. -/
def takeBaselines (sample : Sample) (o : Observer) : Observer :=
  { o with
    baselineCpu := orZero sample.cpuRate
    baselineWorkingSet := orZero sample.workingSet
    baselineLag := orZero sample.consumerLag }

def control (answers : Answers) (o : Observer) : Except CallError Observation × Observer :=
  match prepareControl faultClass answers.prepared o with
  | (.error err, o) => (.error err, o)
  | (.ok (), o) =>
    match poll (acceptControl A faultClass) (fun _ => .ok none) answers.last answers.polls with
    | .error err => (.error err, o)
    | .ok none => (.ok (observation [("state", .str OracleState.unknown.value)]), o)
    | .ok (some sample) =>
      (.ok (observation [("state", .str OracleState.healthy.value)]), takeBaselines sample o)

/-! ### The fault -/

def prepareFault (prepared : Except CallError Document) (o : Observer) :
    Except CallError Unit × Observer :=
  let first := !o.faultStarted
  let o := { o with faultStarted := true }
  if first ∧ faultClass = "productCatalogFailure" then
    request prepared o fun document => { o with productStimulus := some document }
  else if first ∧ faultClass = "kafkaQueueProblems" then
    request prepared o fun document => { o with kafkaStimulus := some document }
  else if first ∧ faultClass ∈ ["paymentFailure", "paymentUnreachable"] then
    request prepared o fun _ => o
  else if faultClass = "adHighCpu" then
    request prepared o fun document => { o with adFaultStimulus := some document }
  else if faultClass = "emailMemoryLeak" then
    request prepared o fun document =>
      { o with emailFaultStimuli := document :: o.emailFaultStimuli }
  else (.ok (), o)

/-- The function `_active_observation`. -/
def activeObservation (o : Observer) (sample : Sample) : Except CallError Observation :=
  let descriptions := "\n".intercalate sample.descriptions
  if faultClass = "productCatalogFailure" then
    let found := decide ("Product Catalog Fail Feature Flag Enabled".toList <:+: descriptions.toList)
    .ok (observation (update sample.fields ([("journey_failed", .bool found),
      ("correlated_error", .bool found)] ++ optional "product_stimulus" o.productStimulus)))
  else if faultClass = "adHighCpu" then
    .ok (observation (update sample.fields ([("cpu_rate", .float sample.cpuRate),
      ("baseline_cpu_max", .float o.baselineCpu),
      ("correlated_span", .bool (0 < sample.traceCount))] ++
        optional "ad_stimulus" o.adFaultStimulus)))
  else if faultClass = "emailMemoryLeak" then
    .ok (observation (update sample.fields ([("working_set", .float sample.workingSet),
      ("baseline_working_set", .float o.baselineWorkingSet),
      ("metric_service", .str "emailservice"), ("working_set_unit", .str "bytes"),
      ("email_stimulus_count", .int o.emailFaultStimuli.length)] ++
        optional "email_runtime_reset" o.emailRuntimeReset)))
  else if faultClass = "paymentFailure" then
    let found := decide ("Payment".toList <:+: descriptions.toList) && decide (0 < sample.errorSpans)
    .ok (observation (update sample.fields [("checkout_failed", .bool found),
      ("payment_error", .bool found)]))
  else if faultClass = "paymentUnreachable" then
    .ok (observation (update sample.fields
      [("checkout_failed", .bool (0 < sample.checkoutErrorSpans)),
        ("connection_error", .bool (0 < sample.paymentConnectionErrors))]))
  else if faultClass = "kafkaQueueProblems" then
    .ok (observation (update sample.fields ([("consumer_lag", .float sample.consumerLag),
      ("baseline_lag", .float o.baselineLag),
      ("kafka_error", .bool (sample.kafkaLogError || sample.kafkaFaultLog ||
        decide (0 < sample.errorSpans)))] ++ optional "kafka_stimulus" o.kafkaStimulus)))
  else .error ⟨false, codes.unsupported⟩

/-- The two observations that are weighed at a poll. -/
def comparison (o : Observer) (seen : Observation) : List Observation :=
  match o.faultSamples with
  | (_, earlier) :: _ => if faultClass = "emailMemoryLeak" then [earlier, seen] else [seen, seen]
  | [] => [seen, seen]

/-- An observation, and whether it is kept. -/
def acceptFault (o : Observer) (sample : Sample) :
    Option (Except CallError (Sample × Observation × Bool)) :=
  if sample.absent ≠ [] then none
  else
    match activeObservation codes faultClass o sample with
    | .error err => some (.error err)
    | .ok seen =>
      if faultClass = "emailMemoryLeak" ∧ o.faultSamples = [] then some (.ok (sample, seen, true))
      else
        match faultState floats faultClass (comparison faultClass o seen) with
        | .error _ => some (.error ⟨false, codes.oracle⟩)
        | .ok state => if state = .faultActive then some (.ok (sample, seen, true)) else none

def expiredFault (o : Observer) (sample : Sample) :
    Except CallError (Sample × Observation × Bool) :=
  if sample.absent ≠ [] then .error ⟨true, codes.absentSeries⟩
  else (activeObservation codes faultClass o sample).map fun seen => (sample, seen, false)

def fault (answers : Answers) (o : Observer) : Except CallError Observation × Observer :=
  match prepareFault faultClass answers.prepared o with
  | (.error err, o) => (.error err, o)
  | (.ok (), o) =>
    match poll (acceptFault floats codes faultClass o) (expiredFault codes faultClass o)
      answers.last answers.polls with
    | .error err => (.error err, o)
    | .ok (sample, seen, keep) =>
      (.ok seen,
        if keep then { o with faultSamples := (sample, seen) :: o.faultSamples } else o)

/-! ### The recovery -/

def prepareRecovery (prepared : Except CallError Document) (o : Observer) :
    Except CallError Unit × Observer :=
  let first := !o.recoveryStarted
  let o := { o with recoveryStarted := true }
  if first ∧ faultClass = "adHighCpu" then
    request prepared o fun document => { o with adRecoveryStimulus := some document }
  else if first ∧ faultClass = "emailMemoryLeak" then
    request prepared o fun document => { o with emailRecoveryStimulus := some document }
  else (.ok (), o)

/-- Whether the signal is not worse than in the last active observation. -/
def signalOk (o : Observer) (sample : Sample) : Except CallError Bool :=
  if faultClass ∈ ["adHighCpu", "emailMemoryLeak", "kafkaQueueProblems"] then
    match o.faultSamples with
    | [] => .error ⟨false, codes.indexError⟩
    | (active, _) :: _ =>
      if faultClass = "adHighCpu" then
        .ok (A.le sample.cpuRate (A.max o.baselineCpu active.cpuRate))
      else if faultClass = "emailMemoryLeak" then
        .ok (A.lt (A.sub sample.workingSet active.workingSet)
          (A.max EMAIL_MEMORY_MIN_GROWTH_BYTES
            (A.mul o.baselineWorkingSet EMAIL_MEMORY_MIN_GROWTH_RATIO)))
      else .ok (A.le sample.consumerLag active.consumerLag)
  else .ok true

def recoveryObservation (o : Observer) (sample : Sample) (signal : Bool) : Observation :=
  observation (update sample.fields ([("ready", .bool sample.ready),
    ("journey_healthy", .bool (sample.journeyStatus = 200)), ("signal_not_worsening", .bool signal)] ++
      optional "ad_recovery_stimulus" o.adRecoveryStimulus ++
      optional "email_recovery_stimulus" o.emailRecoveryStimulus))

def acceptRecovery (o : Observer) (sample : Sample) : Option (Except CallError Observation) :=
  if sample.absent ≠ [] then none
  else
    match signalOk A codes faultClass o sample with
    | .error err => some (.error err)
    | .ok signal =>
      if sample.healthy && signal then some (.ok (recoveryObservation o sample signal)) else none

def expiredRecovery (o : Observer) (sample : Sample) : Except CallError Observation :=
  if sample.absent ≠ [] then .error ⟨true, codes.absentSeries⟩
  else (signalOk A codes faultClass o sample).map (recoveryObservation o sample)

def recovery (answers : Answers) (o : Observer) : Except CallError Observation × Observer :=
  match prepareRecovery faultClass answers.prepared o with
  | (.error err, o) => (.error err, o)
  | (.ok (), o) =>
    (poll (acceptRecovery A codes faultClass o) (expiredRecovery A codes faultClass o)
      answers.last answers.polls, o)

/-! ### Calls -/

/-- A call of the observer for a phase and a class of faults. -/
def call (answers : Answers) (phase : Phase) (requested : String) (o : Observer) :
    Except CallError Observation × Observer :=
  if requested ≠ faultClass then (.error ⟨false, codes.drifted⟩, o)
  else
    match phase with
    | .control => control A faultClass answers o
    | .fault => fault floats codes faultClass answers o
    | .recovery => recovery A codes faultClass answers o

/-- The phases of the calls in a log. -/
def phasesOf (log : List Event) : List Phase :=
  log.filterMap fun
    | .observe phase _ => some phase
    | _ => none

variable (stream : ℕ → Answers)

/-- The observer after its calls, of which the last one comes first. -/
def after : List Phase → Observer
  | [] => {}
  | phase :: earlier =>
    (call A floats codes faultClass (stream earlier.length) phase faultClass (after earlier)).2

/-- The observer of a trial. -/
def observe (phase : Phase) (log : List Event) : Except CallError Observation :=
  (call A floats codes faultClass (stream (phasesOf log).length) phase faultClass
    (after A floats codes faultClass stream (phasesOf log))).1

/-! ### What the observer has seen -/

variable {A floats codes faultClass stream}

/-- What a call returns comes from one of its polls. -/
theorem poll_eq_ok {α : Type} {accept : Sample → Option (Except CallError α)}
    {expired : Sample → Except CallError α} {polls : List (Except CallError Sample)}
    {last : Except CallError Sample} {a : α} (h : poll accept expired last polls = .ok a) :
    ∃ sample, .ok sample ∈ polls ++ [last] ∧
      (accept sample = some (.ok a) ∨ accept sample = none ∧ expired sample = .ok a) := by
  induction polls with
  | nil =>
    rw [poll] at h
    cases last with
    | error err => cases h
    | ok sample =>
      refine ⟨sample, List.mem_singleton_self _, ?_⟩
      change (accept sample).getD (expired sample) = .ok a at h
      cases haccept : accept sample with
      | none =>
        rw [haccept] at h
        exact .inr ⟨rfl, h⟩
      | some result =>
        rw [haccept] at h
        exact .inl (congrArg some h)
  | cons answer polls ih =>
    cases answer with
    | error err => cases h
    | ok sample =>
      rw [poll] at h
      cases haccept : accept sample with
      | none =>
        rw [haccept] at h
        obtain ⟨later, hmem, hlater⟩ := ih h
        exact ⟨later, List.mem_cons_of_mem _ hmem, hlater⟩
      | some result =>
        rw [haccept] at h
        exact ⟨sample, List.mem_cons_self, .inl (haccept.trans (congrArg some h))⟩

theorem acceptControl_eq_ok {sample : Sample} {found : Option Sample}
    (h : acceptControl A faultClass sample = some (.ok found)) :
    sample.healthy = true ∧ found = some sample := by
  unfold acceptControl at h
  split at h
  · rename_i hready
    cases h
    exact ⟨(Bool.and_eq_true_iff.1 hready).1, rfl⟩
  · cases h

/-- **A control that is healthy has taken its baselines from a healthy sample.** -/
theorem sample_of_control {answers : Answers} {o o' : Observer} {seen : Observation}
    (h : control A faultClass answers o = (.ok seen, o')) (hseen : isHealthy seen = true) :
    ∃ sample, .ok sample ∈ answers.samples ∧ sample.healthy = true ∧
      ∃ o₁, o' = takeBaselines sample o₁ := by
  unfold control at h
  split at h
  · cases h
  · rename_i o₁ hprepared
    split at h
    · cases h
    · cases h
      cases hseen
    · rename_i sample hpoll
      cases h
      obtain ⟨found, hmem, haccept | ⟨-, hcontra⟩⟩ := poll_eq_ok hpoll
      · obtain ⟨hhealthy, heq⟩ := acceptControl_eq_ok haccept
        cases heq
        exact ⟨_, hmem, hhealthy, o₁, rfl⟩
      · cases hcontra

/-! ### Injections -/

/-- The events since the last write of the flags. -/
def sinceWrite (log : List Event) : List Event :=
  log.takeWhile fun
    | .write _ _ => false
    | _ => true

/-- The laboratory has been observed healthy since the last write. -/
def ObservedHealthy (log : List Event) : Prop :=
  (∃ seen, .observe .control (.ok seen) ∈ sinceWrite log ∧ isHealthy seen = true) ∨
    ∃ first second, observed .recovery (sinceWrite log) = [first, second] ∧
      recoveryState [first, second] = .healthy

def logOf : Visit → List Event
  | .recalled _ => []
  | .executed e => e.log

/-- The log of a trial at its injection. -/
structure Injection (e : Executed) (early : List Event) : Prop where
  written : ∃ late document result, e.log = late ++ .write document result :: early
  first : writes early = []
  unfailed : primaryErrors early = []

/-- The oracle of a fault compares with a baseline. -/
def NeedsBaselines (adapter : FaultAdapter) : Prop :=
  ∃ field ∈ adapter.requiredFields,
    field ∈ ["baseline_cpu_max", "baseline_working_set", "baseline_lag"]

variable (A floats codes faultClass stream) in
/-- The baselines are those of a healthy sample that a control has polled. -/
def Measured (calls : List Phase) : Prop :=
  ∃ later earlier sample o, calls = later ++ .control :: earlier ∧
    .ok sample ∈ (stream earlier.length).samples ∧ sample.healthy = true ∧
    after A floats codes faultClass stream calls = takeBaselines sample o

theorem not_measured_nil : ¬Measured A floats codes faultClass stream [] := by
  rintro ⟨later, earlier, sample, o, hcalls, -⟩
  cases later <;> cases hcalls

theorem first_write_unique {late late' early early' : List Event} {document document' : Document}
    {result result' : Except CallError Unit} (hearly : writes early = [])
    (hearly' : writes early' = [])
    (h : late ++ .write document result :: early = late' ++ .write document' result' :: early') :
    early = early' := by
  have hnone : ∀ {early early' mid : List Event} {document document' : Document}
      {result result' : Except CallError Unit}, writes early = [] →
      Event.write document result :: early = mid ++ .write document' result' :: early' →
      early = early' := by
    intro early early' mid document document' result result' hearly h
    cases mid with
    | nil =>
      cases h
      rfl
    | cons event mid =>
      rw [List.cons_append] at h
      obtain ⟨-, rfl⟩ := List.cons_eq_cons.1 h
      rw [writes_append] at hearly
      have hwrite : writes (.write document' result' :: early') = document' :: writes early' := rfl
      rw [hwrite] at hearly
      exact absurd (List.append_eq_nil_iff.1 hearly).2 (List.cons_ne_nil _ _)
  rcases List.append_eq_append_iff.1 h with ⟨mid, rfl, hmid⟩ | ⟨mid, rfl, hmid⟩
  · exact hnone hearly hmid
  · exact (hnone hearly' hmid).symm

/-- What precedes an injection is the read of the document, and the control or a recovery. -/
theorem early_of_injection {lib : Library} {e : Executed} {early : List Event}
    (hcourse : Course lib e.seed e.trial e.precondition e.result e.log) (h : Injection e early) :
    ∃ original, Early e.trial.world original e.precondition early := by
  obtain ⟨late, document, result, hlog⟩ := h.written
  have hwrites : writes e.log ≠ [] := by
    rw [hlog, writes_append]
    exact List.append_ne_nil_of_right_ne_nil _ (List.cons_ne_nil _ _)
  obtain ⟨seed, trial, precondition, outcome, log⟩ := e
  dsimp only at hcourse hlog hwrites ⊢
  cases hcourse with
  | unmade err hmade => exact absurd rfl hwrites
  | unread err hmade => exact absurd rfl hwrites
  | uncontrolled original err hmade => exact absurd rfl hwrites
  | unhealthy original o text hmade hill => exact absurd rfl hwrites
  | ran original before late' late'' more fault cleanup outcome hmade hbefore hfault hcleanup hend =>
    have hquiet : writes before = [] := by
      cases hbefore with
      | control o hseen hhealthy => rfl
      | recovery observations hhealthy => rfl
    rcases hfault.oldest with ⟨rest, injected, written, rfl, -⟩ | ⟨err, rfl⟩
    · have heq : more ++ (late'' ++ (rest ++ [.write injected written] ++ before)) =
          (more ++ (late'' ++ rest)) ++ .write injected written :: before := by
        simp only [List.append_assoc, List.cons_append, List.nil_append]
      rw [heq] at hlog
      rw [← first_write_unique hquiet h.first hlog]
      exact ⟨original, hbefore⟩
    · -- nothing was injected, and the first write is that of the clean-up
      obtain ⟨rest, written, rfl⟩ := hcleanup.oldest
      have heq : more ++ (rest ++ [.write original written] ++ ([.caughtInFault (.flag err)] ++ before)) =
          (more ++ rest) ++ .write original written :: (.caughtInFault (.flag err) :: before) := by
        simp only [List.append_assoc, List.cons_append, List.nil_append]
      rw [heq] at hlog
      have hquiet' : writes (.caughtInFault (.flag err) :: before) = [] := hquiet
      have hraised := h.unfailed
      rw [← first_write_unique hquiet' h.first hlog] at hraised
      cases hraised

theorem measured_of_control {log : List Event} {seen : Observation} (hlog : phasesOf log = [])
    (h : observe A floats codes faultClass stream .control log = .ok seen)
    (hseen : isHealthy seen = true) : Measured A floats codes faultClass stream [.control] := by
  rw [observe, hlog, call, if_neg (not_not_intro rfl)] at h
  dsimp only [List.length_nil] at h
  rcases hcontrol : control A faultClass (stream 0)
    (after A floats codes faultClass stream []) with ⟨answer, o'⟩
  rw [hcontrol] at h
  dsimp only at h
  subst h
  obtain ⟨sample, hmem, hhealthy, o₁, rfl⟩ := sample_of_control hcontrol hseen
  refine ⟨[], [], sample, o₁, rfl, hmem, hhealthy, ?_⟩
  rw [after, call, if_neg (not_not_intro rfl)]
  dsimp only [List.length_nil]
  rw [hcontrol]

/-- **After a recalled or executed scenario, the laboratory has been observed healthy exactly if one
was executed.** -/
theorem observedHealthy_iff {lib : Library} {visits : List Visit} (hvisited : Visited lib visits)
    (hpassed : ∀ e, .executed e ∈ visits → ∃ report, e.result = .ok report) (original : Document) :
    ObservedHealthy ([.read (.ok original)] ++ visits.flatMap logOf) ↔
      ∃ e, .executed e ∈ visits := by
  induction hvisited with
  | nil =>
    constructor
    · rintro (⟨seen, hmem, -⟩ | ⟨first, second, hseen, -⟩)
      · cases List.mem_singleton.1 hmem
      · cases hseen
    · rintro ⟨e, hmem⟩
      cases hmem
  | recalled seed h ih =>
    have hlogs : ∀ rest, (Visit.recalled seed :: rest).flatMap logOf = rest.flatMap logOf :=
      fun _ => List.flatMap_cons
    rw [hlogs, ih fun e hmem => hpassed e (List.mem_cons_of_mem _ hmem)]
    constructor
    · rintro ⟨e, hmem⟩
      exact ⟨e, List.mem_cons_of_mem _ hmem⟩
    · rintro ⟨e, hmem⟩
      exact ⟨e, (List.mem_cons.1 hmem).resolve_left nofun⟩
  | executed e h hfirst hbefore hcourse ih =>
    refine ⟨fun _ => ⟨e, List.mem_cons_self⟩, fun _ => .inr ?_⟩
    obtain ⟨⟨report, packet⟩, hresult⟩ := hpassed e List.mem_cons_self
    rw [hresult] at hcourse
    obtain ⟨-, restored, found, first, second, document, early, hlog, hhealthy⟩ :=
      healed_of_course hcourse
    refine ⟨first, second, ?_, hhealthy⟩
    rw [List.flatMap_cons, logOf, hlog]
    rfl

/-- **An injection is proven safe exactly if it is the first, or follows an execution and needs no
baselines.**  In every call, at every injection, the laboratory was observed healthy after the last
write of this call, and the baselines of the oracle were measured from a healthy sample, exactly if
no scenario came before, or one was executed before and the oracle compares with no baseline. -/
theorem proven_iff (lib : Library) (A : Arithmetic) (codes : Codes) (imageSetDigest producerSha : String)
    (catalogue : Catalogue) (journal : Journal) (r : Except Raised Summary) (s : State)
    (later earlier : List Visit) (e : Executed) (stream : ℕ → Answers) (early : List Event)
    (h : runScenarioMatrix lib imageSetDigest producerSha catalogue journal = (r, s))
    (hvisits : s.visits = later ++ .executed e :: earlier)
    (hlive : e.trial.world.observe = observe A lib.floats codes e.seed.faultClass stream)
    (hinjection : Injection e early) :
    (ObservedHealthy (early ++ earlier.flatMap logOf) ∧
        (NeedsBaselines e.seed.adapter →
          Measured A lib.floats codes e.seed.faultClass stream (phasesOf early))) ↔
      (earlier = [] ∨ (∃ e', .executed e' ∈ earlier) ∧ ¬NeedsBaselines e.seed.adapter) := by
  obtain ⟨hvisited, -⟩ := visited h
  rw [hvisits] at hvisited
  cases hvisited.suffix with
  | executed e hearlier hfirst hpassed hcourse =>
    obtain ⟨original, hearly⟩ := early_of_injection hcourse hinjection
    cases hprecondition : e.precondition with
    | none =>
      rw [hprecondition] at hearly
      have hnil := hfirst.1 hprecondition
      refine ⟨fun _ => .inl hnil, fun _ => ?_⟩
      rw [hnil]
      cases hearly with
      | control seen hseen hhealthy =>
        rw [hlive] at hseen
        exact ⟨.inl ⟨seen, List.mem_cons_self, hhealthy⟩,
          fun _ => measured_of_control rfl hseen hhealthy⟩
    | some observations =>
      rw [hprecondition] at hearly
      have hne : earlier ≠ [] := by
        intro hnil
        rw [hfirst.2 hnil] at hprecondition
        cases hprecondition
      cases hearly with
      | recovery observations hhealthy =>
        rw [observedHealthy_iff hearlier hpassed]
        constructor
        · rintro ⟨hexecuted, hmeasured⟩
          exact .inr ⟨hexecuted, fun hneeds => not_measured_nil (hmeasured hneeds)⟩
        · rintro (hnil | ⟨hexecuted, hneeds⟩)
          · exact absurd hnil hne
          · exact ⟨hexecuted, fun h => absurd h hneeds⟩

/-! ### An injection without an observation -/

def sampleArithmetic : Arithmetic := ⟨fun _ _ => false, fun _ _ => false, fun x _ => x, fun x _ => x⟩

def sampleCodes : Codes := ⟨0, 1, 2, 3, 4⟩

/-- The laboratory answers nothing. -/
def sampleAnswers : Answers := ⟨.error ⟨true, 5⟩, [], .error ⟨true, 5⟩⟩

/-- The flags cannot be written. -/
def sampleWorld : World where
  read _ := .ok sampleDocument
  write _ _ := .error ⟨true, 6⟩
  observe := observe sampleArithmetic sampleFloats sampleCodes "productCatalogFailure"
    fun _ => sampleAnswers
  window _ := .ok ⟨[], true⟩

/-- The first seed has passed in an earlier call. -/
def sampleRecord : Experiments.Record :=
  { Experiments.running none (sampleSeed 1).trialId "" (cacheKey sampleLibrary "" (sampleSeed 1))
      [("result", .obj [("recovery_observations", .arr [sampleRecovery, sampleRecovery])]),
        ("observation_packet", .null)] with
    status := .pass }
where
  sampleRecovery : Json :=
    .obj [("ready", .bool true), ("journey_healthy", .bool true), ("signal_not_worsening", .bool true)]

def sampleJournal : Journal := Experiments.write (fun _ => none) (sampleSeed 1).trialId sampleRecord

def sampleObservation : Observation :=
  observation [("ready", .bool true), ("journey_healthy", .bool true),
    ("signal_not_worsening", .bool true)]

/-- The trial of the second seed. -/
def sampleTrial : Executed :=
  execute sampleLibrary (sampleSeed 2) ⟨.ok (), sampleWorld⟩
    (some [sampleObservation, sampleObservation])

theorem sampleTrial_result : sampleTrial.result =
    .error (.wrapped "scenario cleanup blocked and quarantined the SUT" (.call ⟨true, 6⟩)) := by
  rfl

theorem sampleTrial_visited :
    (runScenarioMatrix sampleLibrary "" "" (sampleCatalogue ⟨.ok (), sampleWorld⟩)
      sampleJournal).2.visits = [] ++ .executed sampleTrial :: [.recalled (sampleSeed 1)] := by
  have hentries : (sampleCatalogue ⟨.ok (), sampleWorld⟩).entries =
      (sampleSeed 1, ⟨.ok (), sampleWorld⟩) :: (sampleSeed 2, ⟨.ok (), sampleWorld⟩) ::
        (List.range' 3 30).map fun n => (sampleSeed n, ⟨.ok (), sampleWorld⟩) := rfl
  have hne : (sampleSeed 2).trialId ≠ (sampleSeed 1).trialId := by
    intro heq
    have hnumber := trialId_injective heq
    cases hnumber
  have hrecalled : recalled sampleLibrary sampleRecord.payload =
      .ok ([sampleObservation, sampleObservation], .null) := by
    rfl
  rw [runScenarioMatrix, hentries]
  exact visits_of_recalled (Experiments.write_self ..) rfl rfl hrecalled
    (Experiments.write_of_ne hne ..) sampleTrial_result

theorem sampleTrial_injection : Injection sampleTrial [.read (.ok sampleDocument)] where
  written := ⟨[.caughtInCleanup (.call ⟨true, 6⟩), .write sampleDocument (.error ⟨true, 6⟩),
      .caughtInFault (.call ⟨true, 6⟩)],
    [("flags", .obj [("productCatalogFailure", .obj [("state", .str "ENABLED"),
      ("variants", .obj [("on", .bool true), ("off", .bool false)]),
      ("defaultVariant", .str "on")])])], .error ⟨true, 6⟩, by rfl⟩
  first := rfl
  unfailed := rfl

/-- The second seed is injected on the evidence of an earlier call. -/
theorem not_proven_recalled :
    ¬∀ (lib : Library) (A : Arithmetic) (codes : Codes) (imageSetDigest producerSha : String)
      (catalogue : Catalogue) (journal : Journal) (r : Except Raised Summary) (s : State)
      (later earlier : List Visit) (e : Executed) (stream : ℕ → Answers) (early : List Event),
      runScenarioMatrix lib imageSetDigest producerSha catalogue journal = (r, s) →
      s.visits = later ++ .executed e :: earlier →
      e.trial.world.observe = observe A lib.floats codes e.seed.faultClass stream →
      Injection e early →
      ObservedHealthy (early ++ earlier.flatMap logOf) ∧
        (NeedsBaselines e.seed.adapter →
          Measured A lib.floats codes e.seed.faultClass stream (phasesOf early)) := by
  intro h
  obtain ⟨hhealthy, -⟩ := h sampleLibrary sampleArithmetic sampleCodes "" "" _ _ _ _ _ _ sampleTrial
    (fun _ => sampleAnswers) _ (Prod.mk.eta).symm sampleTrial_visited rfl sampleTrial_injection
  rcases hhealthy with ⟨seen, hmem, -⟩ | ⟨first, second, hseen, -⟩
  · cases List.mem_singleton.1 hmem
  · cases hseen

theorem proven_iff_recalled :
    (ObservedHealthy ([.read (.ok sampleDocument)] ++ [Visit.recalled (sampleSeed 1)].flatMap logOf) ∧
        (NeedsBaselines sampleTrial.seed.adapter →
          Measured sampleArithmetic sampleFloats sampleCodes sampleTrial.seed.faultClass
            (fun _ => sampleAnswers) (phasesOf [.read (.ok sampleDocument)]))) ↔
      ([Visit.recalled (sampleSeed 1)] = [] ∨
        (∃ e', .executed e' ∈ [Visit.recalled (sampleSeed 1)]) ∧
          ¬NeedsBaselines sampleTrial.seed.adapter) :=
  proven_iff sampleLibrary sampleArithmetic sampleCodes "" "" _ _ _ _ _ _ sampleTrial
    (fun _ => sampleAnswers) _ (Prod.mk.eta).symm sampleTrial_visited rfl sampleTrial_injection

end LiveObserver
