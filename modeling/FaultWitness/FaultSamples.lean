/-
**The samples of a fault, and what is compared with them.**

A call of `LiveScenarioObserver` for the fault returns through one of three branches: the first sample of
a leak, a sample in which the oracle sees the fault, or the last sample before the deadline.  A sample of
the first two branches is kept; one of the third only where `retain_terminal_fault_sample` is set, which
is the case in `LiveReadinessObserverV3`.  That observer also drives the workload of its label between two
polls.  A recovery compares its signal with the last sample that was kept.

The oracle `fault_state` is written out here.  Its operations on numbers are a parameter, and raise on
values which they do not take.

Main definitions:

* `FaultOracle.weigh` — the six predicates of `fault_state`;
* `LiveObserver.Branch`, `LiveObserver.drivenFault`, `LiveObserver.drivenRecovery` — the calls of both
  observers, with the requests between their polls;
* `LiveObserver.afterFaults`, `LiveObserver.branches` — the fault calls of a trial.

Main results:

* `LiveObserver.oracles_agree` — **two calls show the fault to the scenario exactly if they have shown it
  to the observer**;
* `LiveObserver.recovery_returns_iff` — **a recovery returns exactly if it compares with no sample, or a
  sample was kept**.
-/

import FaultWitness.LiveObserver

set_option autoImplicit false

/-! ### The oracle -/

namespace FaultOracle

open Python FlagDocuments ScenarioRuns

/-- The operations on numbers; `none` stands for an exception. -/
structure Operations where
  float : Value → Option Value
  gt : Value → Value → Option Bool
  ge : Value → Value → Option Bool
  mul : Value → Value → Option Value
  sub : Value → Value → Option Value

def AD_CPU_ACTIVE_MIN_CORES : Value := .json (.float "0.5")

def AD_CPU_ACTIVE_MULTIPLIER : Value := .json (.float "5.0")

def EMAIL_MEMORY_MIN_GROWTH_BYTES : Value := .json (.int (1024 * 1024))

def EMAIL_MEMORY_MIN_GROWTH_RATIO : Value := .json (.float "0.05")

variable (ops : Operations)

/-- The function `max` of two arguments. -/
def Operations.max (x y : Value) : Option Value := (ops.gt y x).map fun above => if above then y else x

/-- The operator `and`, on truth values. -/
def both (first : Option Bool) (second : Option Bool) : Option Bool :=
  match first with
  | some true => second
  | answer => answer

/-- The truth value of a field. -/
def field (item : Observation) (key : String) : Option Bool := (item.get key).map Value.truthy

/-- What the oracle asks of each of the two observations, if it asks the same of both. -/
def shows (faultClass : String) (item : Observation) : Option Bool :=
  if faultClass = "productCatalogFailure" then
    both (field item "journey_failed") (field item "correlated_error")
  else if faultClass = "adHighCpu" then
    both
      (do
        let baseline ← ops.mul (← item.get "baseline_cpu_max") AD_CPU_ACTIVE_MULTIPLIER
        ops.ge (← item.get "cpu_rate") (← ops.max AD_CPU_ACTIVE_MIN_CORES baseline))
      (field item "correlated_span")
  else if faultClass = "paymentFailure" then
    both (field item "checkout_failed") (field item "payment_error")
  else if faultClass = "paymentUnreachable" then
    both (field item "checkout_failed") (field item "connection_error")
  else if faultClass = "kafkaQueueProblems" then
    both
      (do ops.gt (← item.get "consumer_lag") (← item.get "baseline_lag"))
      (field item "kafka_error")
  else some false

/-- The growth of the memory from one observation to the next. -/
def grows (first second : Observation) : Option Bool := do
  let baseline ← ops.max (← ops.float (← first.get "baseline_working_set"))
    (← ops.float (← second.get "baseline_working_set"))
  let minimumGrowth ← ops.max EMAIL_MEMORY_MIN_GROWTH_BYTES
    (← ops.mul baseline EMAIL_MEMORY_MIN_GROWTH_RATIO)
  both
    (do ops.ge (← ops.sub (← ops.float (← second.get "working_set")) baseline) minimumGrowth)
    (do ops.ge (← ops.sub (← ops.float (← second.get "working_set"))
      (← ops.float (← first.get "working_set"))) minimumGrowth)

/-- What `fault_state` computes of two observations that have all fields. -/
def weigh (faultClass : String) (first second : Observation) : Option Bool :=
  if faultClass = "emailMemoryLeak" then grows ops first second
  else both (shows ops faultClass first) (shows ops faultClass second)

/-- The operations of the scenarios. -/
def floats (equal : Json → Json → Bool) : Floats := ⟨equal, weigh ops⟩

theorem both_eq_true {first second : Option Bool} :
    both first second = some true ↔ first = some true ∧ second = some true := by
  rcases first with _ | _ | _ <;> simp [both]

variable {ops}

/-- **What the oracle sees in two observations** of a class other than that of the leak. -/
theorem faultState_pair {equal : Json → Json → Bool} {faultClass : String} {first second : Observation}
    (hclass : faultClass ≠ "emailMemoryLeak") :
    faultState (floats ops equal) faultClass [first, second] = .ok .faultActive ↔
      faultState (floats ops equal) faultClass [first, first] = .ok .faultActive ∧
        faultState (floats ops equal) faultClass [second, second] = .ok .faultActive := by
  have hactive : ∀ x y : Observation,
      faultState (floats ops equal) faultClass [x, y] = .ok .faultActive ↔
        ∃ adapter, ADAPTERS.lookup faultClass = some adapter ∧
          (∀ name ∈ adapter.requiredFields, (x.get name).isSome ∧ (y.get name).isSome) ∧
          shows ops faultClass x = some true ∧ shows ops faultClass y = some true := by
    intro x y
    have hweigh : (floats ops equal).weigh faultClass x y = some true ↔
        shows ops faultClass x = some true ∧ shows ops faultClass y = some true := by
      change weigh ops faultClass x y = some true ↔ _
      rw [weigh, if_neg hclass, both_eq_true]
    rw [faultState]
    cases hadapter : ADAPTERS.lookup faultClass with
    | none => simp
    | some adapter =>
      dsimp only
      by_cases hmissing : adapter.requiredFields.any fun name =>
          (x.get name).isNone || (y.get name).isNone
      · rw [if_pos hmissing]
        refine iff_of_false nofun ?_
        rintro ⟨found, hfound, hpresent, -⟩
        cases hfound
        obtain ⟨name, hname, hnone⟩ := List.any_eq_true.1 hmissing
        obtain ⟨hx, hy⟩ := hpresent name hname
        rw [Bool.or_eq_true, Option.isNone_iff_eq_none, Option.isNone_iff_eq_none] at hnone
        rcases hnone with hnone | hnone
        · rw [hnone] at hx
          cases hx
        · rw [hnone] at hy
          cases hy
      · rw [if_neg hmissing]
        have hpresent : ∀ name ∈ adapter.requiredFields,
            (x.get name).isSome ∧ (y.get name).isSome := by
          intro name hname
          rw [Option.isSome_iff_ne_none, Option.isSome_iff_ne_none]
          constructor <;> intro hnone <;>
            exact hmissing (List.any_eq_true.2 ⟨name, hname, by simp [hnone]⟩)
        constructor
        · intro h
          refine ⟨adapter, rfl, hpresent, hweigh.1 ?_⟩
          split at h
          · cases h
          · assumption
          · cases h
        · rintro ⟨found, hfound, -, hshows⟩
          rw [hweigh.2 hshows]
  rw [hactive, hactive, hactive]
  constructor
  · rintro ⟨adapter, hadapter, hfields, hfirst, hsecond⟩
    refine ⟨⟨adapter, hadapter, fun name hname => ?_, hfirst, hfirst⟩,
      ⟨adapter, hadapter, fun name hname => ?_, hsecond, hsecond⟩⟩
    · exact ⟨(hfields name hname).1, (hfields name hname).1⟩
    · exact ⟨(hfields name hname).2, (hfields name hname).2⟩
  · rintro ⟨⟨adapter, hadapter, hfields, hfirst, -⟩, ⟨adapter', hadapter', hfields', hsecond, -⟩⟩
    rw [hadapter] at hadapter'
    cases hadapter'
    refine ⟨adapter, hadapter, fun name hname => ?_, hfirst, hsecond⟩
    exact ⟨(hfields name hname).1, (hfields' name hname).1⟩

end FaultOracle

namespace LiveObserver

open Python FlagDocuments ScenarioRuns

/-! ### Both observers -/

/-- The class attributes in which the observers differ. -/
structure Attributes where
  retainTerminalFaultSample : Bool
  restimulateEachPoll : Bool

def liveScenarioObserver : Attributes := ⟨false, false⟩

def liveReadinessObserverV3 : Attributes := ⟨true, true⟩

/-- How a call for the fault returns. -/
inductive Branch
  /-- With the first sample of a leak. -/
  | first
  /-- With a sample in which the oracle sees the fault. -/
  | active
  /-- With the sample at the deadline. -/
  | terminal
deriving DecidableEq

/-- Whether the sample of a branch is kept. -/
def Attributes.keeps (attributes : Attributes) : Branch → Bool
  | .first | .active => true
  | .terminal => attributes.retainTerminalFaultSample

/-- What the laboratory answers to one call. -/
structure DrivenAnswers where
  /-- The answer to the request that precedes the polls, if there is one. -/
  prepared : Except CallError Document
  /-- The polls before the deadline, each with the answer to the request that may follow it. -/
  polls : List (Except CallError Sample × Except CallError Document)
  /-- The poll after which the deadline has passed. -/
  last : Except CallError Sample

variable (A : Arithmetic) (floats : Floats) (codes : Codes) (attributes : Attributes)
  (faultClass : String)

/-- The function `_drive_label_workload`. -/
def driveLabelWorkload (phase : Phase) (answer : Except CallError Document) (o : Observer) :
    Except CallError Unit × Observer :=
  if faultClass = "adHighCpu" then
    request answer o fun stimulus =>
      if phase = .fault then { o with adFaultStimulus := some stimulus }
      else { o with adRecoveryStimulus := some stimulus }
  else if faultClass = "emailMemoryLeak" then
    request answer o fun stimulus =>
      if phase = .fault then { o with emailFaultStimuli := stimulus :: o.emailFaultStimuli }
      else { o with emailRecoveryStimulus := some stimulus }
  else if faultClass = "productCatalogFailure" then
    request answer o fun stimulus => { o with productStimulus := some stimulus }
  else if faultClass = "kafkaQueueProblems" then
    request answer o fun stimulus => { o with kafkaStimulus := some stimulus }
  else if faultClass ∈ ["paymentFailure", "paymentUnreachable"] then request answer o fun _ => o
  else (.error ⟨false, codes.unsupported⟩, o)

/-- The polls of a call, up to one that is accepted, with the requests between them. -/
def drivenPolls {α : Type} (phase : Phase) (accept : Observer → Sample → Option (Except CallError α))
    (expired : Observer → Sample → Except CallError α) (last : Except CallError Sample) :
    List (Except CallError Sample × Except CallError Document) → Observer → Except CallError α × Observer
  | [], o => (last.bind fun sample => (accept o sample).getD (expired o sample), o)
  | (.error err, _) :: _, o => (.error err, o)
  | (.ok sample, driven) :: polls, o =>
    match accept o sample with
    | some result => (result, o)
    | none =>
      if attributes.restimulateEachPoll then
        match driveLabelWorkload codes faultClass phase driven o with
        | (.error err, o) => (.error err, o)
        | (.ok (), o) => drivenPolls phase accept expired last polls o
      else drivenPolls phase accept expired last polls o

/-- A sample before the deadline, with the branch through which it is returned. -/
def acceptBranch (o : Observer) (sample : Sample) :
    Option (Except CallError (Sample × Observation × Branch)) :=
  if sample.absent ≠ [] then none
  else
    match activeObservation codes faultClass o sample with
    | .error err => some (.error err)
    | .ok seen =>
      if faultClass = "emailMemoryLeak" ∧ o.faultSamples = [] then some (.ok (sample, seen, .first))
      else
        match faultState floats faultClass (comparison faultClass o seen) with
        | .error _ => some (.error ⟨false, codes.oracle⟩)
        | .ok state => if state = .faultActive then some (.ok (sample, seen, .active)) else none

/-- A sample after the deadline. -/
def expiredBranch (o : Observer) (sample : Sample) : Except CallError (Sample × Observation × Branch) :=
  if sample.absent ≠ [] then .error ⟨true, codes.absentSeries⟩
  else (activeObservation codes faultClass o sample).map fun seen => (sample, seen, .terminal)

/-- A call for the fault. -/
def drivenFault (answers : DrivenAnswers) (o : Observer) :
    Except CallError (Observation × Branch) × Observer :=
  match prepareFault faultClass answers.prepared o with
  | (.error err, o) => (.error err, o)
  | (.ok (), o) =>
    match drivenPolls codes attributes faultClass .fault (acceptBranch floats codes faultClass)
      (expiredBranch codes faultClass) answers.last answers.polls o with
    | (.error err, o) => (.error err, o)
    | (.ok (sample, seen, branch), o) =>
      (.ok (seen, branch),
        if attributes.keeps branch then { o with faultSamples := (sample, seen) :: o.faultSamples }
        else o)

/-- A call for the recovery. -/
def drivenRecovery (answers : DrivenAnswers) (o : Observer) : Except CallError Observation × Observer :=
  match prepareRecovery faultClass answers.prepared o with
  | (.error err, o) => (.error err, o)
  | (.ok (), o) =>
    drivenPolls codes attributes faultClass .recovery (acceptRecovery A codes faultClass)
      (expiredRecovery A codes faultClass) answers.last answers.polls o

/-- The observer after some calls for the fault. -/
def afterFaults : List DrivenAnswers → Observer → Observer
  | [], o => o
  | answers :: later, o => afterFaults later (drivenFault floats codes attributes faultClass answers o).2

/-- The branches through which calls for the fault return. -/
def branches : List DrivenAnswers → Observer → List Branch
  | [], _ => []
  | answers :: later, o =>
    let called := drivenFault floats codes attributes faultClass answers o
    (called.1.toOption.map Prod.snd).toList ++ branches later called.2

variable {A floats codes attributes faultClass}

variable {o : Observer}

/-! ### The samples that are kept -/

theorem faultSamples_request {answer : Except CallError Document} {keep : Document → Observer}
    (hkeep : ∀ document, (keep document).faultSamples = o.faultSamples) :
    (request answer o keep).2.faultSamples = o.faultSamples := by
  cases answer with
  | error err => rfl
  | ok document => exact hkeep document

variable (faultClass) in
theorem faultSamples_prepareFault (prepared : Except CallError Document) (o : Observer) :
    (prepareFault faultClass prepared o).2.faultSamples = o.faultSamples := by
  unfold prepareFault
  dsimp only
  split_ifs
  all_goals first | rfl | exact faultSamples_request fun _ => rfl

variable (faultClass) in
theorem faultSamples_prepareRecovery (prepared : Except CallError Document) (o : Observer) :
    (prepareRecovery faultClass prepared o).2.faultSamples = o.faultSamples := by
  unfold prepareRecovery
  dsimp only
  split_ifs
  all_goals first | rfl | exact faultSamples_request fun _ => rfl

variable (codes faultClass) in
theorem faultSamples_driveLabelWorkload (phase : Phase) (answer : Except CallError Document)
    (o : Observer) :
    (driveLabelWorkload codes faultClass phase answer o).2.faultSamples = o.faultSamples := by
  unfold driveLabelWorkload
  split_ifs
  all_goals first | rfl | exact faultSamples_request fun _ => rfl

variable (codes attributes faultClass) in
theorem faultSamples_drivenPolls {α : Type} (phase : Phase)
    (accept : Observer → Sample → Option (Except CallError α))
    (expired : Observer → Sample → Except CallError α)
    (last : Except CallError Sample) (polls : List (Except CallError Sample × Except CallError Document))
    (o : Observer) :
    (drivenPolls codes attributes faultClass phase accept expired last polls o).2.faultSamples =
      o.faultSamples := by
  induction polls generalizing o with
  | nil => rfl
  | cons answers polls ih =>
    obtain ⟨answer, driven⟩ := answers
    cases answer with
    | error err => rfl
    | ok sample =>
      rw [drivenPolls]
      split
      · rfl
      split
      · have hdriven := faultSamples_driveLabelWorkload codes faultClass phase driven o
        split
        · rename_i hdrive
          rw [hdrive] at hdriven
          exact hdriven
        · rename_i o₁ hdrive
          rw [hdrive] at hdriven
          exact (ih o₁).trans hdriven
      · exact ih o

variable {polls : List (Except CallError Sample × Except CallError Document)}
  {last : Except CallError Sample}

/-- What the polls of a call return comes from one of the samples. -/
theorem drivenPolls_eq_ok {α : Type} {phase : Phase}
    {accept : Observer → Sample → Option (Except CallError α)}
    {expired : Observer → Sample → Except CallError α} {o' : Observer} {a : α}
    (h : drivenPolls codes attributes faultClass phase accept expired last polls o = (.ok a, o')) :
    ∃ sample, accept o' sample = some (.ok a) ∨ accept o' sample = none ∧ expired o' sample = .ok a := by
  induction polls generalizing o with
  | nil =>
    rw [drivenPolls] at h
    obtain ⟨hresult, rfl⟩ := Prod.mk.inj h
    obtain ⟨sample, -, hresult⟩ := bind_eq_ok.1 hresult
    refine ⟨sample, ?_⟩
    cases haccept : accept o sample with
    | none =>
      rw [haccept] at hresult
      exact .inr ⟨rfl, hresult⟩
    | some result =>
      rw [haccept] at hresult
      exact .inl (congrArg some hresult)
  | cons answers polls ih =>
    obtain ⟨answer, driven⟩ := answers
    cases answer with
    | error err => cases h
    | ok sample =>
      rw [drivenPolls] at h
      cases haccept : accept o sample with
      | some result =>
        rw [haccept] at h
        obtain ⟨rfl, rfl⟩ := Prod.mk.inj h
        exact ⟨sample, .inl haccept⟩
      | none =>
        rw [haccept] at h
        dsimp only at h
        split at h
        · split at h
          · cases h
          · exact ih h
        · exact ih h

/-- What is judged of a sample that a call for the fault returns. -/
structure Judged (floats : Floats) (faultClass : String) (o : Observer) (seen : Observation)
    (branch : Branch) : Prop where
  first : branch = .first ↔ faultClass = "emailMemoryLeak" ∧ o.faultSamples = []
  active : branch ≠ .first →
    (branch = .active ↔ faultState floats faultClass (comparison faultClass o seen) = .ok .faultActive)

variable {sample : Sample} {seen : Observation}

theorem judged_of_acceptBranch {sample' : Sample} {branch : Branch}
    (h : acceptBranch floats codes faultClass o sample = some (.ok (sample', seen, branch))) :
    Judged floats faultClass o seen branch := by
  unfold acceptBranch at h
  split at h
  · cases h
  split at h
  · cases h
  split at h
  · rename_i hfirst
    cases h
    exact ⟨iff_of_true rfl hfirst, fun hne => absurd rfl hne⟩
  rename_i hlater
  split at h
  · cases h
  split at h
  · rename_i hstate hactive
    cases h
    exact ⟨iff_of_false nofun hlater, fun _ => iff_of_true rfl (hactive ▸ hstate)⟩
  · cases h

theorem judged_of_expiredBranch {sample' : Sample} {branch : Branch}
    (haccept : acceptBranch floats codes faultClass o sample = none)
    (h : expiredBranch codes faultClass o sample = .ok (sample', seen, branch)) :
    Judged floats faultClass o seen branch := by
  unfold expiredBranch at h
  split at h
  · cases h
  rename_i hpresent
  cases hseen : activeObservation codes faultClass o sample with
  | error err =>
    rw [hseen] at h
    cases h
  | ok observed =>
    rw [hseen] at h
    cases h
    rw [acceptBranch, if_neg hpresent, hseen] at haccept
    dsimp only at haccept
    split at haccept
    · cases haccept
    rename_i hlater
    refine ⟨iff_of_false nofun hlater, fun _ => iff_of_false nofun fun hstate => ?_⟩
    rw [hstate] at haccept
    cases haccept

/-- **All that a call for the fault does**: it returns an observation through the branch which its
judgement names, and keeps the sample if that branch does; or it raises and keeps none. -/
theorem drivenFault_cases (answers : DrivenAnswers) (o : Observer) :
    (∃ seen branch sample o', drivenFault floats codes attributes faultClass answers o =
        (.ok (seen, branch), o') ∧ Judged floats faultClass o seen branch ∧
        o'.faultSamples =
          if attributes.keeps branch then (sample, seen) :: o.faultSamples else o.faultSamples) ∨
      ∃ err o', drivenFault floats codes attributes faultClass answers o = (.error err, o') ∧
        o'.faultSamples = o.faultSamples := by
  unfold drivenFault
  have hprepared := faultSamples_prepareFault faultClass answers.prepared o
  rcases hprepare : prepareFault faultClass answers.prepared o with ⟨err | ⟨⟩, o₁⟩
  all_goals
    rw [hprepare] at hprepared
    dsimp only at hprepared ⊢
  · exact .inr ⟨err, o₁, rfl, hprepared⟩
  have hsamples := faultSamples_drivenPolls codes attributes faultClass .fault
    (acceptBranch floats codes faultClass) (expiredBranch codes faultClass) answers.last answers.polls o₁
  rw [hprepared] at hsamples
  rcases hpolls : drivenPolls codes attributes faultClass .fault (acceptBranch floats codes faultClass)
    (expiredBranch codes faultClass) answers.last answers.polls o₁ with ⟨err | ⟨sample, seen, branch⟩, o₂⟩
  · rw [hpolls] at hsamples
    exact .inr ⟨err, o₂, rfl, hsamples⟩
  rw [hpolls] at hsamples
  refine .inl ⟨seen, branch, sample, _, rfl, ?_, ?_⟩
  · have hjudged : Judged floats faultClass o₂ seen branch := by
      obtain ⟨polled, haccept | ⟨haccept, hexpired⟩⟩ := drivenPolls_eq_ok hpolls
      · exact judged_of_acceptBranch haccept
      · exact judged_of_expiredBranch haccept hexpired
    obtain ⟨hfirst, hactive⟩ := hjudged
    rw [hsamples] at hfirst
    rw [comparison, hsamples] at hactive
    exact ⟨hfirst, hactive⟩
  · dsimp only at hsamples
    rw [← hsamples]
    split <;> rfl

/-! ### The two oracles -/

/-- **Both oracles agree**: whatever the laboratory answers to two calls for the fault that follow each
other, the scenario sees the fault in their observations exactly if the second call has returned because
the observer saw it, and so has the first one unless the fault is the leak. -/
theorem oracles_agree (ops : FaultOracle.Operations) (equal : Json → Json → Bool) (codes : Codes)
    (attributes : Attributes) (faultClass : String) (answers₁ answers₂ : DrivenAnswers)
    (o o₁ o₂ : Observer) (seen₁ seen₂ : Observation) (branch₁ branch₂ : Branch) (hfresh : o.faultSamples = [])
    (h₁ : drivenFault (FaultOracle.floats ops equal) codes attributes faultClass answers₁ o =
      (.ok (seen₁, branch₁), o₁))
    (h₂ : drivenFault (FaultOracle.floats ops equal) codes attributes faultClass answers₂ o₁ =
      (.ok (seen₂, branch₂), o₂)) :
    faultState (FaultOracle.floats ops equal) faultClass [seen₁, seen₂] = .ok .faultActive ↔
      branch₂ = .active ∧ (faultClass ≠ "emailMemoryLeak" → branch₁ = .active) := by
  rcases drivenFault_cases answers₁ o with ⟨_, _, sample, _, hcall₁, hjudged₁, hkept⟩ | ⟨_, _, hcall₁, -⟩
  swap
  · rw [hcall₁] at h₁
    cases h₁
  rw [h₁] at hcall₁
  cases hcall₁
  rcases drivenFault_cases answers₂ o₁ with ⟨_, _, _, _, hcall₂, hjudged₂, -⟩ | ⟨_, _, hcall₂, -⟩
  swap
  · rw [hcall₂] at h₂
    cases h₂
  rw [h₂] at hcall₂
  cases hcall₂
  by_cases hleak : faultClass = "emailMemoryLeak"
  · -- the first call has kept its sample, with which the second one is compared
    have hfirst : branch₁ = .first := hjudged₁.first.2 ⟨hleak, hfresh⟩
    subst hfirst
    have hsamples : o₁.faultSamples = [(sample, seen₁)] := by
      rw [hkept, hfresh]
      rfl
    have hlater : branch₂ ≠ .first := fun heq => by
      have hnil := (hjudged₂.first.1 heq).2
      rw [hsamples] at hnil
      cases hnil
    have hactive := hjudged₂.active hlater
    rw [comparison, hsamples] at hactive
    dsimp only at hactive
    rw [if_pos hleak] at hactive
    rw [hactive]
    exact ⟨fun h => ⟨h, fun hne => absurd hleak hne⟩, And.left⟩
  · -- each call has compared its sample with itself
    have hself : ∀ {o : Observer} {seen : Observation} {branch : Branch},
        Judged (FaultOracle.floats ops equal) faultClass o seen branch →
        (branch = .active ↔
          faultState (FaultOracle.floats ops equal) faultClass [seen, seen] = .ok .faultActive) := by
      intro o seen branch hjudged
      have hlater : branch ≠ .first := fun heq => hleak (hjudged.first.1 heq).1
      have hactive := hjudged.active hlater
      have hcomparison : comparison faultClass o seen = [seen, seen] := by
        unfold comparison
        split
        · exact if_neg hleak
        · rfl
      rwa [hcomparison] at hactive
    rw [FaultOracle.faultState_pair hleak, ← hself hjudged₁, ← hself hjudged₂]
    exact ⟨fun h => ⟨h.2, fun _ => h.1⟩, fun h => ⟨h.2 hleak, h.1⟩⟩

/-! ### Recoveries -/

/-- The classes in which a recovery compares its signal with that of the fault. -/
def comparedClasses : List String := ["adHighCpu", "emailMemoryLeak", "kafkaQueueProblems"]

/-- The classes of the adapters. -/
def faultClasses : List String := ADAPTERS.map Prod.fst

/-- The laboratory answers every request, and every poll with all series. -/
structure DrivenAnswers.Complete (answers : DrivenAnswers) : Prop where
  prepared : ∃ document, answers.prepared = .ok document
  polls : ∀ poll ∈ answers.polls, (∃ sample, poll.1 = .ok sample ∧ sample.absent = []) ∧
    ∃ document, poll.2 = .ok document
  last : ∃ sample, answers.last = .ok sample ∧ sample.absent = []

/-- A fault keeps a sample exactly if one of its calls returns through a branch that keeps it. -/
theorem faultSamples_afterFaults (faults : List DrivenAnswers) (o : Observer) :
    (afterFaults floats codes attributes faultClass faults o).faultSamples = [] ↔
      o.faultSamples = [] ∧
        ∀ branch ∈ branches floats codes attributes faultClass faults o,
          attributes.keeps branch = false := by
  induction faults generalizing o with
  | nil => simp [afterFaults, branches]
  | cons answers faults ih =>
    rw [afterFaults, branches, ih]
    rcases drivenFault_cases answers o with
      ⟨seen, branch, sample, o', hcall, -, hkept⟩ | ⟨err, o', hcall, hkept⟩
    · rw [hcall]
      dsimp only
      rw [hkept]
      have hmem : ∀ later : List Branch, (∀ b ∈ ((Except.ok (seen, branch) :
            Except CallError (Observation × Branch)).toOption.map Prod.snd).toList ++ later,
          attributes.keeps b = false) ↔
          attributes.keeps branch = false ∧ ∀ b ∈ later, attributes.keeps b = false :=
        fun later => List.forall_mem_cons
      rw [hmem]
      cases attributes.keeps branch <;> simp
    · rw [hcall]
      dsimp only
      rw [hkept]
      rfl

/-- The signal can be judged exactly if it is compared with nothing, or with a sample that was kept. -/
theorem signalOk_eq_ok_iff (o : Observer) (sample : Sample) :
    (∃ signal, signalOk A codes faultClass o sample = .ok signal) ↔
      faultClass ∉ comparedClasses ∨ o.faultSamples ≠ [] := by
  unfold signalOk
  by_cases hclass : faultClass ∈ comparedClasses
  · have hclass' : faultClass ∈ ["adHighCpu", "emailMemoryLeak", "kafkaQueueProblems"] := hclass
    rw [if_pos hclass']
    cases hsamples : o.faultSamples with
    | nil => exact iff_of_false nofun (by simp [hclass])
    | cons kept earlier =>
      refine iff_of_true ?_ (.inr (List.cons_ne_nil _ _))
      dsimp only
      split_ifs
      all_goals exact ⟨_, rfl⟩
  · have hclass' : faultClass ∉ ["adHighCpu", "emailMemoryLeak", "kafkaQueueProblems"] := hclass
    rw [if_neg hclass']
    exact iff_of_true ⟨true, rfl⟩ (.inl hclass)

variable (codes) in
theorem driveLabelWorkload_answered (hclass : faultClass ∈ faultClasses) (phase : Phase)
    (document : Document) (o : Observer) :
    (driveLabelWorkload codes faultClass phase (.ok document) o).1 = .ok () := by
  simp only [faultClasses, ADAPTERS, List.map_cons, List.map_nil, List.mem_cons, List.not_mem_nil,
    or_false] at hclass
  unfold driveLabelWorkload
  split_ifs
  all_goals first | rfl | simp_all

variable (faultClass) in
theorem prepareRecovery_answered (document : Document) (o : Observer) :
    (prepareRecovery faultClass (.ok document) o).1 = .ok () := by
  unfold prepareRecovery
  dsimp only
  split_ifs
  all_goals rfl

theorem acceptRecovery_cases (o : Observer) (h : sample.absent = []) :
    (∃ err, signalOk A codes faultClass o sample = .error err ∧
        acceptRecovery A codes faultClass o sample = some (.error err)) ∨
      ∃ signal seen, signalOk A codes faultClass o sample = .ok signal ∧
        (acceptRecovery A codes faultClass o sample = some (.ok seen) ∨
          acceptRecovery A codes faultClass o sample = none ∧
            expiredRecovery A codes faultClass o sample = .ok seen) := by
  rw [acceptRecovery, expiredRecovery, if_neg (not_not_intro h), if_neg (not_not_intro h)]
  cases hsignal : signalOk A codes faultClass o sample with
  | error err => exact .inl ⟨err, rfl, rfl⟩
  | ok signal =>
    refine .inr ⟨signal, recoveryObservation o sample signal, rfl, ?_⟩
    dsimp only
    split
    · exact .inl rfl
    · exact .inr ⟨rfl, rfl⟩

/-- The polls of a recovery return exactly if their signal can be judged. -/
theorem recoveryPolls_return_iff (hclass : faultClass ∈ faultClasses)
    (hlast : ∃ sample, last = .ok sample ∧ sample.absent = [])
    (hpolls : ∀ poll ∈ polls, (∃ sample, poll.1 = .ok sample ∧ sample.absent = []) ∧
      ∃ document, poll.2 = .ok document) (o : Observer) :
    (∃ seen, (drivenPolls codes attributes faultClass .recovery (acceptRecovery A codes faultClass)
        (expiredRecovery A codes faultClass) last polls o).1 = .ok seen) ↔
      faultClass ∉ comparedClasses ∨ o.faultSamples ≠ [] := by
  induction polls generalizing o with
  | nil =>
    obtain ⟨sample, rfl, hpresent⟩ := hlast
    rw [← signalOk_eq_ok_iff o sample, drivenPolls]
    change (∃ seen, (acceptRecovery A codes faultClass o sample).getD
      (expiredRecovery A codes faultClass o sample) = .ok seen) ↔ _
    rcases acceptRecovery_cases o hpresent with
      ⟨err, hsignal, haccept⟩ | ⟨signal, seen, hsignal, haccept | ⟨haccept, hexpired⟩⟩
    · rw [haccept, hsignal]
      exact iff_of_false nofun nofun
    · rw [haccept, hsignal]
      exact iff_of_true ⟨seen, rfl⟩ ⟨signal, rfl⟩
    · rw [haccept, hsignal, hexpired]
      exact iff_of_true ⟨seen, rfl⟩ ⟨signal, rfl⟩
  | cons poll polls ih =>
    obtain ⟨answer, driven⟩ := poll
    obtain ⟨⟨⟨sample, rfl, hpresent⟩, ⟨document, rfl⟩⟩, hrest⟩ := List.forall_mem_cons.1 hpolls
    have hlater := ih hrest
    rw [drivenPolls]
    rcases acceptRecovery_cases o hpresent with
      ⟨err, hsignal, haccept⟩ | ⟨signal, seen, hsignal, haccept | ⟨haccept, -⟩⟩
    · rw [haccept, ← signalOk_eq_ok_iff o sample, hsignal]
      exact iff_of_false nofun nofun
    · rw [haccept, ← signalOk_eq_ok_iff o sample, hsignal]
      exact iff_of_true ⟨seen, rfl⟩ ⟨signal, rfl⟩
    · rw [haccept]
      dsimp only
      split
      · have hanswered := driveLabelWorkload_answered codes hclass .recovery document o
        have hkept := faultSamples_driveLabelWorkload codes faultClass .recovery (.ok document) o
        rcases hdriven : driveLabelWorkload codes faultClass .recovery (.ok document) o with
          ⟨result, o'⟩
        rw [hdriven] at hanswered hkept
        dsimp only at hanswered hkept ⊢
        rw [hanswered, ← hkept]
        exact hlater o'
      · exact hlater o

/-- **When a recovery returns.**  Whatever the laboratory has answered to the calls for the fault, a
recovery of which all requests and series are answered returns an observation exactly if its class
compares with no sample, or a call for the fault returned through a branch that keeps its sample. -/
theorem recovery_returns_iff (A : Arithmetic) (floats : Floats) (codes : Codes) (attributes : Attributes)
    (faultClass : String) (faults : List DrivenAnswers) (answers : DrivenAnswers) (o : Observer)
    (hclass : faultClass ∈ faultClasses) (hfresh : o.faultSamples = []) (hanswers : answers.Complete) :
    (∃ seen, (drivenRecovery A codes attributes faultClass answers
        (afterFaults floats codes attributes faultClass faults o)).1 = .ok seen) ↔
      faultClass ∉ comparedClasses ∨
        ∃ branch ∈ branches floats codes attributes faultClass faults o,
          attributes.keeps branch = true := by
  have hkept : (afterFaults floats codes attributes faultClass faults o).faultSamples ≠ [] ↔
      ∃ branch ∈ branches floats codes attributes faultClass faults o,
        attributes.keeps branch = true := by
    rw [Ne, faultSamples_afterFaults]
    simp [hfresh]
  rw [← hkept]
  obtain ⟨document, hprepared⟩ := hanswers.prepared
  unfold drivenRecovery
  rw [hprepared]
  have hanswered := prepareRecovery_answered faultClass document
    (afterFaults floats codes attributes faultClass faults o)
  have hsamples := faultSamples_prepareRecovery faultClass (.ok document)
    (afterFaults floats codes attributes faultClass faults o)
  rcases hprepare : prepareRecovery faultClass (.ok document)
    (afterFaults floats codes attributes faultClass faults o) with ⟨result, o'⟩
  rw [hprepare] at hanswered hsamples
  dsimp only at hanswered hsamples ⊢
  rw [hanswered, ← hsamples]
  exact recoveryPolls_return_iff hclass hanswers.last hanswers.polls o'

/-! ### A fault that is never seen -/

/-- The operations of a laboratory in which nothing grows. -/
def sampleOperations : FaultOracle.Operations :=
  ⟨some, fun _ _ => some false, fun _ _ => some false, fun x _ => some x, fun x _ => some x⟩

/-- An idle sample. -/
def idleSample : Sample where
  recordedAt := ""
  ready := true
  journeyStatus := 200
  cpuRate := "0.01"
  workingSet := "0.0"
  consumerLag := "0.0"
  consumerRecordLag := "0.0"
  consumerPollLagSeconds := "0.0"
  traceCount := 1
  errorSpans := 0
  checkoutErrorSpans := 0
  paymentConnectionErrors := 0
  descriptions := []
  kafkaLogError := false
  kafkaFaultLog := false

def idleAnswers : DrivenAnswers := ⟨.ok [], [], .ok idleSample⟩

theorem complete_idleAnswers : idleAnswers.Complete :=
  ⟨⟨[], rfl⟩, nofun, ⟨idleSample, rfl, rfl⟩⟩

/-- After a fault that was not seen before the deadline, the recovery of the first observer raises. -/
theorem not_recovery_returns : ¬∀ (A : Arithmetic) (ops : FaultOracle.Operations) (codes : Codes)
    (attributes : Attributes) (faultClass : String) (faults : List DrivenAnswers)
    (answers : DrivenAnswers) (o : Observer), attributes ∈ [liveScenarioObserver, liveReadinessObserverV3] →
    faultClass ∈ faultClasses → o.faultSamples = [] → answers.Complete →
    ∃ seen, (drivenRecovery A codes attributes faultClass answers
      (afterFaults (FaultOracle.floats ops fun _ _ => false) codes attributes faultClass faults o)).1 =
        .ok seen := by
  intro h
  obtain ⟨seen, hseen⟩ := h sampleArithmetic sampleOperations sampleCodes liveScenarioObserver "adHighCpu"
    [idleAnswers] idleAnswers {} List.mem_cons_self (by decide) rfl complete_idleAnswers
  cases hseen

theorem recovery_returns_iff_idle :
    (∃ seen, (drivenRecovery sampleArithmetic sampleCodes liveReadinessObserverV3 "adHighCpu" idleAnswers
        (afterFaults (FaultOracle.floats sampleOperations fun _ _ => false) sampleCodes
          liveReadinessObserverV3 "adHighCpu" [idleAnswers] {})).1 = .ok seen) ↔
      "adHighCpu" ∉ comparedClasses ∨
        ∃ branch ∈ branches (FaultOracle.floats sampleOperations fun _ _ => false) sampleCodes
          liveReadinessObserverV3 "adHighCpu" [idleAnswers] {},
            liveReadinessObserverV3.keeps branch = true :=
  recovery_returns_iff sampleArithmetic (FaultOracle.floats sampleOperations fun _ _ => false) sampleCodes
    liveReadinessObserverV3 "adHighCpu" [idleAnswers] idleAnswers {} (by decide) rfl complete_idleAnswers

/-- A sample of a checkout that cannot reach the payment. -/
def failedSample : Sample := { idleSample with checkoutErrorSpans := 1, paymentConnectionErrors := 1 }

def failedAnswers : DrivenAnswers := ⟨.ok [], [], .ok failedSample⟩

def failedObservation : Observation :=
  observation (update failedSample.fields
    [("checkout_failed", .bool true), ("connection_error", .bool true)])

theorem oracles_agree_failed :
    faultState (FaultOracle.floats sampleOperations fun _ _ => false) "paymentUnreachable"
      [failedObservation, failedObservation] = .ok .faultActive :=
  (oracles_agree sampleOperations (fun _ _ => false) sampleCodes liveScenarioObserver "paymentUnreachable"
    failedAnswers failedAnswers {} _ _ failedObservation failedObservation .active .active rfl rfl rfl).2
    ⟨rfl, fun _ => rfl⟩

end LiveObserver
