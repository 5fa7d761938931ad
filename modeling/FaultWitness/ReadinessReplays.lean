/-
**Replays of the readiness scenarios.**

The replay of `faultwitness_dev/g03_readiness.py` goes through the seeds of the catalogue.  A seed that
the journal holds as a pass under its key is recalled; one that it holds as a failed metric or as blocked
ends the replay, unless the reason is a misclassified failure of the transport; every other seed is
measured and recorded.  A fresh run may inherit the passes of another run's journal.

With the passes alone a failed metric does not reach the journal of the fresh run, and the rule against
measuring it again finds nothing there.

What a measurement comes to is an input.  Beside every record stands the run that executed it, which
nothing reads.

Main definitions:

* `Readiness.replayAllScenarios` — the function `replay_all_scenarios_v3`;
* `Readiness.inheritPassingTrials` — the journal that `inherit_passing_trials_v3` leaves;
* `Readiness.Refused` — the source holds a case as a failed metric or as blocked, under its key.

Main results:

* `Readiness.executed_inheriting` — the cases that an inheriting run executes;
* `Readiness.notMeasuredAnew_iff` — **no refused case is measured anew exactly if each one comes after a
  case that is not inherited and is not measured as a pass**.
-/

import FaultWitness.ScenarioMatrix

set_option autoImplicit false

namespace Readiness

open Python
open Experiments (Status Record digest subject running)
open ScenarioMatrix (Seed fourDigits)

/-! ### Seeds and keys -/

/-- The seeds of the catalogue, which has been validated. -/
structure SeedCatalog where
  seeds : List Seed
  numbers : seeds.map Seed.number = List.range' 1 32

def trialId (seed : Seed) : String := "g03-readiness-v3-scenario-seed-g02-" ++ fourDigits seed.number

def METRIC_VERSION : ℤ := 3

def HEALTHY_WINDOW_COUNT : ℤ := 5

def FAULT_WINDOW_COUNT : ℤ := 2

/-- What the keys of a replay cover beside the scenario. -/
structure Contract where
  sha256 : String → String
  imageSetDigest : String
  contractDigest : String
  sutProducerSha : String

def Contract.inputDigest (contract : Contract) (seed : Seed) : String :=
  digest contract.sha256 (.obj [("metric_version", .int METRIC_VERSION), ("scenario", .obj seed.scenario),
    ("sut_producer_sha", .str contract.sutProducerSha), ("healthy_windows", .int HEALTHY_WINDOW_COUNT),
    ("fault_windows", .int FAULT_WINDOW_COUNT)])

def Contract.cacheKey (contract : Contract) (seed : Seed) : String :=
  digest contract.sha256 (subject [("sut", contract.imageSetDigest),
    ("trace_service", contract.contractDigest)] [] (contract.inputDigest seed))

/-! ### Trials -/

/-- The path of a run directory below `.audit/g03-readiness`. -/
abbrev Path := List String

/-- A record, with the run that executed it. -/
structure Trial where
  record : Record
  run : Path

/-- The trials of a journal by their identifiers. -/
abbrev Trials := String → Option Trial

/-- What the measurement of a scenario raises, if it is an `InfrastructureFailure`, a
`DatasetIncompleteError` or another `GovernanceError`. -/
structure CaseError where
  infrastructure : Bool
  datasetIncomplete : Bool
  reason : String
  diagnostics : Option Json

/-- What the measurement of a scenario comes to. -/
inductive Measured
  | returned (result : List (String × Json))
  | failed (error : CaseError)
  /-- Anything else that is raised, or the end of the process. -/
  | stopped

/-- The member of `case_outcomes` for a case. -/
structure CaseOutcome where
  scenarioId : String
  faultClass : String
  status : Status
  inherited : Bool
  reason : Option String := none
  hasDiagnostics : Option Bool := none
  pollStimuli : Option Json := none

inductive ExecutionStatus
  | completed
  | incomplete
  | diagnosticScan
deriving DecidableEq

/-- The document that a replay returns. -/
structure Scenarios where
  status : Status
  executionStatus : ExecutionStatus
  scenarioCount : ℕ
  attemptedCaseCount : Option ℕ := none
  failedCaseCount : Option ℕ := none
  inheritedCaseCount : Option ℕ := none
  replayedCaseCount : Option ℕ := none
  failedTrial : Option String := none
  datasetIncomplete : Bool := false
  trials : List Trial
  caseOutcomes : List CaseOutcome
  observationPackets : List Json := []

inductive Raised
  | governance (text : String)
  | keyError
  /-- What a measurement was stopped by. -/
  | stopped

/-! ### The replay -/

structure State where
  journal : Trials
  completed : List Trial := []
  caseOutcomes : List CaseOutcome := []
  failedRecords : List Trial := []
  /-- The seeds that were measured. -/
  executed : List Seed := []

variable (contract : Contract) (producerSha : String) (run : Path) (measure : Seed → Measured)

/-- The pass that is recalled for a seed. -/
def recalled (journal : Trials) (seed : Seed) : Option Trial :=
  (journal (trialId seed)).filter fun t =>
    t.record.status = .pass && t.record.cacheKey = contract.cacheKey seed

/-- The failure that is not to be measured again. -/
def refused (journal : Trials) (seed : Seed) : Option Trial :=
  (journal (trialId seed)).filter fun t =>
    t.record.cacheKey = contract.cacheKey seed &&
      (t.record.status = .metricFail || t.record.status = .blocked)

def legacyTransportMisclassification (record : Record) : Bool :=
  record.status = .metricFail &&
    match record.payload.lookup "reason" with
    | some (.str reason) =>
      ("metric v3 scenario cleanup blocked and quarantined the SUT: " ++
        "metric-v3 live observation collection produced no result:").toList.isPrefixOf reason.toList
    | _ => false

def basePayload (seed : Seed) : List (String × Json) :=
  [("scenario_id", .str seed.scenarioId), ("fault_class", .str seed.faultClass)]

/-- The record with which a trial begins. -/
def begun (journal : Trials) (seed : Seed) : Record :=
  running ((journal (trialId seed)).map Trial.record) (trialId seed) producerSha
    (contract.cacheKey seed) (basePayload seed)

/-- The record with which it ends. -/
def finished (record : Record) (status : Status) (payload : List (String × Json)) : Record :=
  { record with
    status
    recordVersion := record.recordVersion + 1
    payload
    artifactDigest := some (digest contract.sha256 (.obj payload)) }

def CaseError.status (error : CaseError) : Status :=
  if error.infrastructure then .infraFailed else .metricFail

def CaseError.payload (error : CaseError) (seed : Seed) : List (String × Json) :=
  basePayload seed ++ [("reason", .str error.reason)] ++
    (if error.datasetIncomplete then [("failure_class", .str "dataset_incomplete")] else []) ++
    match error.diagnostics with
    | none => []
    | some diagnostics => [("scenario_diagnostics", diagnostics)]

/-- The trial is written under the identifier of its seed. -/
def State.write (s : State) (seed : Seed) (record : Record) : State :=
  { s with journal := Function.update s.journal (trialId seed) (some ⟨record, run⟩) }

/-- A seed that the journal does not answer. -/
def replaySeed (continueOnCaseFailure : Bool) (seed : Seed) (s : State) :
    Option (Except Raised Scenarios) × State :=
  let started := begun contract producerSha s.journal seed
  let s := { s.write run seed started with executed := s.executed ++ [seed] }
  match measure seed with
  | .stopped => (some (.error .stopped), s)
  | .returned result =>
    match result.lookup "observation_packet" with
    | none => (some (.error .keyError), s)
    | some packet =>
      let record := finished contract started .pass (basePayload seed ++
        [("family", seed.family), ("result", .obj result), ("observation_packet", packet)])
      (none, { s.write run seed record with
        completed := s.completed ++ [⟨record, run⟩]
        caseOutcomes := s.caseOutcomes ++ [{
          scenarioId := seed.scenarioId, faultClass := seed.faultClass, status := .pass
          inherited := false, pollStimuli := some ((result.lookup "poll_stimuli").getD (.obj [])) }] })
  | .failed error =>
    let record := finished contract started error.status (error.payload seed)
    let s := { s.write run seed record with
      failedRecords := s.failedRecords ++ [⟨record, run⟩]
      caseOutcomes := s.caseOutcomes ++ [{
        scenarioId := seed.scenarioId, faultClass := seed.faultClass, status := error.status
        inherited := false, reason := some error.reason
        hasDiagnostics := some error.diagnostics.isSome }] }
    if continueOnCaseFailure then (none, s)
    else
      (some (.ok {
        status := error.status, executionStatus := .incomplete
        scenarioCount := s.completed.length, failedTrial := some (trialId seed)
        trials := s.completed ++ [⟨record, run⟩], caseOutcomes := s.caseOutcomes
        datasetIncomplete := error.datasetIncomplete }), s)

/-- What is done for a seed; a result is that of the whole replay. -/
def visit (continueOnCaseFailure : Bool) (seed : Seed) (s : State) :
    Option (Except Raised Scenarios) × State :=
  match recalled contract s.journal seed, refused contract s.journal seed with
  | some previous, _ =>
    (none, { s with
      completed := s.completed ++ [previous]
      caseOutcomes := s.caseOutcomes ++ [{
        scenarioId := seed.scenarioId, faultClass := seed.faultClass, status := .pass
        inherited := true }] })
  | none, some previous =>
    if continueOnCaseFailure ∨ legacyTransportMisclassification previous.record then
      replaySeed contract producerSha run measure continueOnCaseFailure seed s
    else
      (some (.error (.governance
        ("metric v3 scenario " ++ seed.scenarioId ++ " needs a semantic fix before replay"))), s)
  | none, none => replaySeed contract producerSha run measure continueOnCaseFailure seed s

def packetOf (trial : Trial) : Except Raised Json :=
  match trial.record.payload.lookup "observation_packet" with
  | none => .error .keyError
  | some packet => .ok packet

/-- What is returned after the last of `attempted` seeds. -/
def summarize (continueOnCaseFailure : Bool) (attempted : ℕ) (s : State) : Except Raised Scenarios :=
  if continueOnCaseFailure ∧ s.failedRecords ≠ [] then
    .ok {
      status := .metricFail, executionStatus := .diagnosticScan, scenarioCount := s.completed.length
      attemptedCaseCount := some attempted, failedCaseCount := some s.failedRecords.length
      trials := s.completed ++ s.failedRecords, caseOutcomes := s.caseOutcomes }
  else if s.completed.length ≠ 32 then
    .error (.governance "metric v3 scenario replay did not complete 32 cases")
  else do
    let packets ← s.completed.mapM packetOf
    return {
      status := .pass, executionStatus := .completed, scenarioCount := 32
      inheritedCaseCount := some (s.caseOutcomes.countP (·.inherited))
      replayedCaseCount := some (s.caseOutcomes.countP (!·.inherited))
      trials := s.completed, caseOutcomes := s.caseOutcomes, observationPackets := packets }

def visitAll (continueOnCaseFailure : Bool) (attempted : ℕ) :
    List Seed → State → Except Raised Scenarios × State
  | [], s => (summarize continueOnCaseFailure attempted s, s)
  | seed :: rest, s =>
    match visit contract producerSha run measure continueOnCaseFailure seed s with
    | (some result, s) => (result, s)
    | (none, s) => visitAll continueOnCaseFailure attempted rest s

def replayAllScenarios (continueOnCaseFailure : Bool) (catalog : SeedCatalog) (journal : Trials) :
    Except Raised Scenarios × State :=
  visitAll contract producerSha run measure continueOnCaseFailure catalog.seeds.length catalog.seeds
    { journal }

/-- The journal of a fresh run: the records of the source whose status is a pass. -/
def inheritPassingTrials (source : Trials) : Trials :=
  fun trialId => (source trialId).filter fun t => t.record.status = .pass

/-- The replay of a run that inherits. -/
def inheritingReplay (catalog : SeedCatalog) (source : Trials) : Except Raised Scenarios × State :=
  replayAllScenarios contract producerSha run measure false catalog (inheritPassingTrials source)

/-! ### What is inherited -/

/-- The source holds a pass under the key of the case. -/
def Passed (source : Trials) (seed : Seed) : Prop := (recalled contract source seed).isSome = true

/-- The source holds a failed metric or a blocked case under the key of the case. -/
def Refused (source : Trials) (seed : Seed) : Prop := (refused contract source seed).isSome = true

/-- The case is measured as a pass. -/
def Measured.isPass : Measured → Bool
  | .returned result => (result.lookup "observation_packet").isSome
  | .failed _ => false
  | .stopped => false

variable {contract} {producerSha} {run} {measure}

variable {seed : Seed} {source : Trials}

theorem recalled_inherited (source : Trials) (seed : Seed) :
    recalled contract (inheritPassingTrials source) seed = recalled contract source seed := by
  rw [recalled, recalled, inheritPassingTrials, Option.filter_filter]
  congr 1
  funext t
  cases decide (t.record.status = .pass) <;> rfl

theorem refused_inherited (source : Trials) (seed : Seed) :
    refused contract (inheritPassingTrials source) seed = none := by
  rw [refused, inheritPassingTrials, Option.filter_filter, Option.filter_eq_none_iff]
  intro t _ hboth
  rw [Bool.and_eq_true, decide_eq_true_eq, Bool.and_eq_true, Bool.or_eq_true, decide_eq_true_eq,
    decide_eq_true_eq] at hboth
  obtain ⟨hpass, -, hfail | hblocked⟩ := hboth
  · rw [hpass] at hfail
    cases hfail
  · rw [hpass] at hblocked
    cases hblocked

theorem Refused.not_passed (h : Refused contract source seed) : ¬Passed contract source seed := by
  obtain ⟨t, ht⟩ := Option.isSome_iff_exists.1 h
  obtain ⟨hsome, ht⟩ := Option.filter_eq_some_iff.1 ht
  intro hpassed
  obtain ⟨t', ht'⟩ := Option.isSome_iff_exists.1 hpassed
  obtain ⟨hsome', ht'⟩ := Option.filter_eq_some_iff.1 ht'
  obtain rfl := Option.some.inj (hsome.symm.trans hsome')
  rw [Bool.and_eq_true, decide_eq_true_eq] at ht'
  rw [Bool.and_eq_true, Bool.or_eq_true, decide_eq_true_eq, decide_eq_true_eq, decide_eq_true_eq,
    ht'.1] at ht
  obtain ⟨-, hfail | hblocked⟩ := ht
  · cases hfail
  · cases hblocked

/-! ### What is executed -/

/-- What the replay of one seed does to journal and log, and when it goes on. -/
structure Replayed (seed : Seed) (passes : Bool) (s : State)
    (out : Option (Except Raised Scenarios) × State) : Prop where
  executed : out.2.executed = s.executed ++ [seed]
  journal : ∀ t, t ≠ trialId seed → out.2.journal t = s.journal t
  goes_on : out.1 = none ↔ passes = true

theorem write_self (s : State) (seed : Seed) (record : Record) :
    (s.write run seed record).journal (trialId seed) = some ⟨record, run⟩ := by
  simp only [State.write, Function.update_self]

variable {s : State}

theorem write_of_ne {record : Record} {t : String} (h : t ≠ trialId seed) :
    (s.write run seed record).journal t = s.journal t :=
  Function.update_of_ne h _ _

theorem replayed_replaySeed (seed : Seed) (s : State) :
    Replayed seed (measure seed).isPass s
      (replaySeed contract producerSha run measure false seed s) := by
  unfold replaySeed
  cases hmeasured : measure seed with
  | stopped =>
    exact ⟨rfl, fun t ht => write_of_ne ht, by simp only [Measured.isPass, Bool.false_eq_true,
      reduceCtorEq]⟩
  | failed error =>
    refine ⟨rfl, ?_, by simp only [Measured.isPass, Bool.false_eq_true, if_false, reduceCtorEq]⟩
    intro t ht
    exact (write_of_ne ht).trans (write_of_ne ht)
  | returned result =>
    cases hpacket : result.lookup "observation_packet" with
    | none =>
      refine ⟨by simp only [hpacket], ?_, ?_⟩
      · intro t ht
        simp only [hpacket]
        exact write_of_ne ht
      · simp only [hpacket, Measured.isPass, Option.isSome_none, Bool.false_eq_true, reduceCtorEq]
    | some packet =>
      refine ⟨by simp only [hpacket]; rfl, ?_, ?_⟩
      · intro t ht
        simp only [hpacket]
        exact (write_of_ne ht).trans (write_of_ne ht)
      · simp only [hpacket, Measured.isPass, Option.isSome_some]

theorem trialId_inj {other : Seed} (h : trialId seed = trialId other) :
    seed.number = other.number := by
  have hdigits := (String.append_right_inj _).1 h
  have hnumber := congrArg (fun text => Nat.ofDigitChars 10 (String.toList text) 0) hdigits
  simpa only [ScenarioMatrix.ofDigitChars_fourDigits] using hnumber

theorem SeedCatalog.nodup (catalog : SeedCatalog) : (catalog.seeds.map trialId).Nodup := by
  have hnumbers : (catalog.seeds.map Seed.number).Nodup := by
    rw [catalog.numbers]
    exact List.nodup_range'
  rw [List.Nodup, List.pairwise_map] at hnumbers ⊢
  exact hnumbers.imp fun hne heq => hne (trialId_inj heq)

variable (contract measure) in
/-- The seeds that are measured of a list: those that have not passed, up to the first of them that is
not measured as a pass. -/
def measuredOf (source : Trials) : List Seed → List Seed
  | [] => []
  | seed :: rest =>
    if (recalled contract source seed).isSome then measuredOf source rest
    else seed :: if (measure seed).isPass then measuredOf source rest else []

theorem measuredOf_of_passed (h : Passed contract source seed) (rest : List Seed) :
    measuredOf contract measure source (seed :: rest) = measuredOf contract measure source rest :=
  if_pos h

theorem measuredOf_of_not_passed (h : ¬Passed contract source seed) (rest : List Seed) :
    measuredOf contract measure source (seed :: rest) =
      seed :: if (measure seed).isPass then measuredOf contract measure source rest else [] :=
  if_neg h

/-- The cases that remain hold what was inherited. -/
def Fresh (source : Trials) (seeds : List Seed) (s : State) : Prop :=
  ∀ seed ∈ seeds, s.journal (trialId seed) = inheritPassingTrials source (trialId seed)

theorem recalled_congr {journal journal' : Trials}
    (h : journal (trialId seed) = journal' (trialId seed)) :
    recalled contract journal seed = recalled contract journal' seed := by
  rw [recalled, recalled, h]

theorem refused_congr {journal journal' : Trials}
    (h : journal (trialId seed) = journal' (trialId seed)) :
    refused contract journal seed = refused contract journal' seed := by
  rw [refused, refused, h]

theorem visit_of_passed {t : Trial}
    (hfresh : s.journal (trialId seed) = inheritPassingTrials source (trialId seed))
    (hpassed : recalled contract source seed = some t) (c : Bool) :
    visit contract producerSha run measure c seed s = (none, { s with
      completed := s.completed ++ [t]
      caseOutcomes := s.caseOutcomes ++ [{
        scenarioId := seed.scenarioId, faultClass := seed.faultClass, status := .pass
        inherited := true }] }) := by
  rw [visit, recalled_congr hfresh, recalled_inherited, hpassed]

theorem visit_of_not_passed
    (hfresh : s.journal (trialId seed) = inheritPassingTrials source (trialId seed))
    (hpassed : recalled contract source seed = none) (c : Bool) :
    visit contract producerSha run measure c seed s =
      replaySeed contract producerSha run measure c seed s := by
  rw [visit, recalled_congr hfresh, recalled_inherited, hpassed, refused_congr hfresh, refused_inherited]

theorem executed_visitAll {seeds : List Seed} {n : ℕ} (hnodup : (seeds.map trialId).Nodup)
    (hfresh : Fresh source seeds s) :
    (visitAll contract producerSha run measure false n seeds s).2.executed =
      s.executed ++ measuredOf contract measure source seeds := by
  induction seeds generalizing s with
  | nil => rw [visitAll, measuredOf, List.append_nil]
  | cons seed rest ih =>
    rw [List.map_cons, List.nodup_cons] at hnodup
    obtain ⟨hseed, hnodup⟩ := hnodup
    have hfirst := hfresh seed List.mem_cons_self
    cases hpassed : recalled contract source seed with
    | some t =>
      rw [visitAll, visit_of_passed hfirst hpassed,
        measuredOf_of_passed (Option.isSome_iff_exists.2 ⟨t, hpassed⟩)]
      exact ih hnodup fun seed' hseed' => hfresh seed' (List.mem_cons_of_mem _ hseed')
    | none =>
      have hnot : ¬Passed contract source seed := by
        rw [Passed, hpassed]
        exact Bool.false_ne_true
      rw [visitAll, visit_of_not_passed hfirst hpassed, measuredOf_of_not_passed hnot]
      have hreplayed : Replayed seed (measure seed).isPass s
          (replaySeed contract producerSha run measure false seed s) := replayed_replaySeed seed s
      obtain ⟨out, s', hout⟩ : ∃ out s',
          replaySeed contract producerSha run measure false seed s = (out, s') := ⟨_, _, rfl⟩
      rw [hout] at hreplayed ⊢
      cases out with
      | some result =>
        have hnot : (measure seed).isPass = false := by
          rw [← Bool.not_eq_true, ← hreplayed.goes_on]
          exact Option.some_ne_none result
        rw [hnot, if_neg Bool.false_ne_true]
        exact hreplayed.executed
      | none =>
        rw [hreplayed.goes_on.1 rfl, if_pos rfl]
        -- The other seeds are untouched: their identifiers are different.
        have hrest : Fresh source rest s' := by
          intro seed' hseed'
          have hne : trialId seed' ≠ trialId seed := by
            intro heq
            exact hseed (heq ▸ List.mem_map_of_mem hseed')
          rw [← hfresh seed' (List.mem_cons_of_mem _ hseed')]
          exact hreplayed.journal _ hne
        have hexecuted := ih hnodup hrest
        rw [show s'.executed = s.executed ++ [seed] from hreplayed.executed] at hexecuted
        rw [hexecuted, List.append_assoc, List.singleton_append]

/-- **The cases that an inheriting run executes**: those that have not passed, up to the first of them
that is not measured as a pass. -/
theorem executed_inheriting (catalog : SeedCatalog) (source : Trials) :
    (inheritingReplay contract producerSha run measure catalog source).2.executed =
      measuredOf contract measure source catalog.seeds := by
  rw [inheritingReplay, replayAllScenarios, executed_visitAll catalog.nodup fun _ _ => rfl,
    List.nil_append]

theorem mem_measuredOf {before after : List Seed} (hseed : seed ∉ before)
    (hnot : ¬Passed contract source seed) :
    seed ∈ measuredOf contract measure source (before ++ seed :: after) ↔
      ∀ earlier ∈ before, Passed contract source earlier ∨ (measure earlier).isPass = true := by
  induction before with
  | nil =>
    rw [List.nil_append, measuredOf_of_not_passed hnot]
    exact iff_of_true List.mem_cons_self (fun earlier h => absurd h List.not_mem_nil)
  | cons first rest ih =>
    rw [List.mem_cons, not_or] at hseed
    rw [List.cons_append, List.forall_mem_cons]
    by_cases hpassed : Passed contract source first
    · rw [measuredOf_of_passed hpassed, ih hseed.2]
      exact (and_iff_right (Or.inl hpassed)).symm
    · rw [measuredOf_of_not_passed hpassed, List.mem_cons, or_iff_right hseed.1]
      cases hmeasured : (measure first).isPass with
      | true =>
        rw [if_pos rfl, ih hseed.2]
        exact (and_iff_right (Or.inr rfl)).symm
      | false =>
        rw [if_neg Bool.false_ne_true]
        refine iff_of_false List.not_mem_nil ?_
        rintro ⟨hfirst | hfirst, -⟩
        · exact hpassed hfirst
        · exact Bool.false_ne_true hfirst

variable (contract producerSha run measure)

/-- **No refused case is measured anew exactly if each one comes, in the order of the catalogue, after a
case that is not inherited and is not measured as a pass.** -/
theorem notMeasuredAnew_iff (catalog : SeedCatalog) (source : Trials) :
    (∀ seed ∈ catalog.seeds, Refused contract source seed →
        seed ∉ (inheritingReplay contract producerSha run measure catalog source).2.executed) ↔
      ∀ (before : List Seed) (seed : Seed) (after : List Seed),
        catalog.seeds = before ++ seed :: after → Refused contract source seed →
          ∃ earlier ∈ before, ¬Passed contract source earlier ∧ (measure earlier).isPass = false := by
  have hnodup : catalog.seeds.Nodup := catalog.nodup.of_map _
  rw [executed_inheriting]
  have hmem : ∀ (before : List Seed) (seed : Seed) (after : List Seed),
      catalog.seeds = before ++ seed :: after → Refused contract source seed →
        (seed ∉ measuredOf contract measure source catalog.seeds ↔
          ∃ earlier ∈ before, ¬Passed contract source earlier ∧ (measure earlier).isPass = false) := by
    intro before seed after hseeds hrefused
    have hseed : seed ∉ before := by
      rw [hseeds, List.nodup_append] at hnodup
      exact fun h => hnodup.2.2 seed h seed List.mem_cons_self rfl
    rw [hseeds, mem_measuredOf hseed hrefused.not_passed]
    simp only [not_forall, not_or, exists_prop, Bool.not_eq_true]
  constructor
  · intro h before seed after hseeds hrefused
    exact (hmem before seed after hseeds hrefused).1
      (h seed (hseeds ▸ List.mem_append_right _ List.mem_cons_self) hrefused)
  · intro h seed hseed hrefused
    obtain ⟨before, after, hseeds⟩ := List.append_of_mem hseed
    exact (hmem before seed after hseeds hrefused).2 (h before seed after hseeds hrefused)

/-! ### A failed metric that is measured again -/

def sampleContract : Contract where
  sha256 := id
  imageSetDigest := "images"
  contractDigest := "collector"
  sutProducerSha := "sut"

def sampleCatalog : SeedCatalog where
  seeds := (List.range' 1 32).map ScenarioMatrix.sampleSeed
  numbers := by
    rw [List.map_map]
    exact List.map_id _

/-- The record of the first case as a failed metric. -/
def failedMetric : Record :=
  finished sampleContract (begun sampleContract "producer" (fun _ => none) (ScenarioMatrix.sampleSeed 1))
    .metricFail (basePayload (ScenarioMatrix.sampleSeed 1) ++ [("reason", .str "the oracle did not pass")])

/-- **A failed metric is measured anew** by the first run that inherits. -/
theorem not_notMeasuredAnew :
    ¬∀ (contract : Contract) (producerSha : String) (run : Path) (measure : Seed → Measured)
      (catalog : SeedCatalog) (source : Trials), ∀ seed ∈ catalog.seeds, Refused contract source seed →
        seed ∉ (inheritingReplay contract producerSha run measure catalog source).2.executed := by
  intro h
  have hrefused : Refused sampleContract (fun _ => some ⟨failedMetric, ["first"]⟩)
      (ScenarioMatrix.sampleSeed 1) := by
    rw [Refused, refused, Option.filter_some_pos, Option.isSome_some]
    rw [Bool.and_eq_true, decide_eq_true_eq]
    exact ⟨rfl, rfl⟩
  have hseeds : ∃ rest, sampleCatalog.seeds = ScenarioMatrix.sampleSeed 1 :: rest := ⟨_, rfl⟩
  obtain ⟨rest, hseeds⟩ := hseeds
  refine h sampleContract "producer" ["second"]
    (fun _ => .returned [("observation_packet", .obj [])]) sampleCatalog
    (fun _ => some ⟨failedMetric, ["first"]⟩) (ScenarioMatrix.sampleSeed 1) ?_ hrefused ?_
  · rw [hseeds]
    exact List.mem_cons_self
  · rw [executed_inheriting, hseeds, measuredOf_of_not_passed hrefused.not_passed]
    exact List.mem_cons_self

end Readiness
