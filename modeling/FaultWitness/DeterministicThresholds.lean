/-
**The deterministic thresholds of metric v3.**

For every case and every label, `build_deterministic_thresholds_v3` pools the rises between
consecutive healthy windows of the other 31 cases and takes a percentile of them; a label may have a
floor relative to the healthy median of the case itself.  `deterministic_candidates_v3` compares a packet
with the thresholds of its case, and `deterministic_baseline_v3` makes a result of the candidates.

The validator compares the numbers of samples with `==`, while `_sample_phase` wants integers.

The fixed texts that the registry carries beside the cases, and its digest, are left out.

Main definitions:

* `MetricV3.samplePhase`, `MetricV3.featureValues` — the values of a feature in the windows of a phase;
* `MetricV3.featureThreshold`, `MetricV3.buildDeterministicThresholdsV3` — the thresholds;
* `MetricV3.deterministicCandidatesV3`, `MetricV3.deterministicBaselineV3` — the candidates of a
  packet, and the result;
* `MetricV3.Numbered` — the samples of a kind are numbered with integers.

Main results:

* `MetricV3.exists_featureValues`, `MetricV3.numbered_of_featureValues` — **the values of a feature can
  be read exactly if its samples are numbered with integers**;
* `MetricV3.exists_buildDeterministicThresholdsV3` — **the thresholds can be computed** where every
  sample is.
-/

import FaultWitness.ReadinessDatasets

set_option autoImplicit false

namespace MetricV3

open Python FlagDocuments
open ScenarioRuns (equal integer)

/-! ### Features -/

inductive Feature
  | traceActivity
  | rootSignal
deriving DecidableEq

/-- Where a feature is read, and the quantum of its measurement. -/
structure Signal where
  kind : Kind
  field : String
  quantum : String

def TARGET_SERVICES : Label → Service
  | .productCatalogFailure => .productCatalog
  | .paymentFailure => .payment
  | .paymentUnreachable => .checkout
  | .adHighCpu => .ad
  | .emailMemoryLeak => .email
  | .kafkaQueueProblems => .fraudDetection

def ROOT_SIGNAL_FEATURES : Label → Signal
  | .productCatalogFailure => ⟨.traceErrors, "error_count", "1.0"⟩
  | .paymentFailure => ⟨.traceErrors, "error_count", "1.0"⟩
  | .paymentUnreachable => ⟨.traceErrors, "connection_error_count", "1.0"⟩
  | .adHighCpu => ⟨.cpuWindow, "cpu_cores", "1e-06"⟩
  | .emailMemoryLeak => ⟨.memoryWindow, "working_set_bytes", "1.0"⟩
  | .kafkaQueueProblems => ⟨.queueWindow, "consumer_poll_lag_seconds", "0.001"⟩

def RELATIVE_ROOT_SIGNAL_FLOORS : Label → Option String
  | .emailMemoryLeak => some "0.05"
  | _ => none

/-- Where a feature of a label is read. -/
def signalOf (label : Label) : Feature → Signal
  | .traceActivity => ⟨.traceActivity, "trace_count", "1.0"⟩
  | .rootSignal => ROOT_SIGNAL_FEATURES label

variable {F : Type} (r : Runtime F)

/-- The function `_sample_phase`. -/
def samplePhase (packet sample : Document) : Except Raised String :=
  let invalid := Raised.governance "metric v3 sample has an invalid window index"
  let drifted := Raised.governance "metric v3 packet window registry drifted"
  match integer (get sample "window_index"), get packet "windows" with
  | some n, .arr windows =>
    if n < 0 then .error invalid
    else
      match windows[n.toNat]? with
      | none => .error invalid
      | some item =>
        match mapping item with
        | none => .error drifted
        | some window =>
          if ¬r.same (get window "index") (get sample "window_index") then .error drifted
          else .ok (r.str (get window "phase"))
  | _, _ => .error invalid

/-- The function `_samples_for_kind_v3`. -/
def samplesForKindV3 (packet : Document) (kind : Kind) : Except Raised (String × List Document) := do
  let _ ← validateObservationPacketV3 r packet
  match groupByKind r packet kind with
  | none => throw (.governance ("metric v3 packet lacks evidence kind: " ++ kind.value))
  | some group =>
    match get group "samples" with
    | .arr items => return (r.str (get group "id"), items.filterMap mapping)
    | _ => throw (.governance ("metric v3 evidence kind lacks samples: " ++ kind.value))

/-- What is read from the samples of a phase. -/
def collect (packet : Document) (window : Phase) (read : Document → Except Raised F) :
    List Document → Except Raised (List F)
  | [] => .ok []
  | sample :: samples => do
    let phase ← samplePhase r packet sample
    if phase = window.value then do
      let x ← read sample
      let xs ← collect packet window read samples
      return x :: xs
    else collect packet window read samples

/-- The number of windows of a phase. -/
def expectedCount : Phase → ℕ
  | .healthy => HEALTHY_WINDOW_COUNT
  | .fault => FAULT_WINDOW_COUNT

/-- The function `_feature_values`. -/
def featureValues (packet : Document) (label : Label) (feature : Feature) (window : Phase) :
    Except Raised (List F) := do
  let signal := signalOf label feature
  let (_, samples) ← samplesForKindV3 r packet signal.kind
  let values ← collect r packet window (fun sample => do
    let j ← reading signal.kind (TARGET_SERVICES label) signal.field sample
    r.float j) samples
  if ¬(values.length = expectedCount window ∧ values.all r.isfinite) then
    throw (.governance "metric v3 deterministic feature window is incomplete")
  return values

/-! ### Statistics -/

/-- The function `max` of two arguments. -/
def Runtime.max (x y : F) : F := if r.lt x y then y else x

/-- The function `min` of two arguments. -/
def Runtime.min (x y : F) : F := if r.lt y x then y else x

/-- The function `max` of several values. -/
def maximum : List F → Except Raised F
  | [] => .error .builtin
  | x :: xs => .ok (xs.foldl r.max x)

/-- The function `sorted`. -/
def sortFloats (values : List F) : List F := values.mergeSort fun x y => !r.lt y x

/-- The function `statistics.median`. -/
def median (values : List F) : Except Raised F :=
  let ordered := sortFloats r values
  let middle := values.length / 2
  if values.length % 2 = 1 then (ordered[middle]?).elim (.error .builtin) .ok
  else
    match ordered[middle - 1]?, ordered[middle]? with
    | some x, some y => .ok (r.div (r.add x y) (r.ofText "2.0"))
    | _, _ => .error .builtin

/-- The function `_positive_consecutive_drifts`. -/
def positiveConsecutiveDrifts (values : List F) : Except Raised (List F) :=
  if values.length ≠ HEALTHY_WINDOW_COUNT then
    .error (.governance "metric v3 healthy drift requires five values")
  else
    .ok (List.zipWith (fun left right => r.max (r.ofText "0.0") (r.sub right left)) values values.tail)

/-- The function `_nearest_rank`. -/
def nearestRank (values : List F) (percentile : F) : Except Raised F := do
  if values = [] ∨ ¬(r.lt (r.ofText "0.0") percentile ∧ r.le percentile (r.ofText "1.0")) then
    throw (.governance "metric v3 percentile input is invalid")
  let count ← r.float (.int values.length)
  ((sortFloats r values)[(r.ceil (r.mul percentile count) - 1).toNat]?).elim (.error .builtin) .ok

def DETERMINISTIC_PERCENTILE : String := "0.99"

/-! ### Thresholds -/

/-- The floor of a threshold. -/
structure RelativeFloor (F : Type) where
  fraction : F
  healthyMedian : F
  floor : F

structure FeatureThreshold (F : Type) where
  quantum : F
  kind : Kind
  field : String
  healthyDriftCount : ℕ
  healthyP99 : F
  threshold : F
  relativeFloor : Option (RelativeFloor F)

structure LabelThresholds (F : Type) where
  targetService : Service
  traceActivity : FeatureThreshold F
  rootSignal : FeatureThreshold F

/-- The rises of a feature in the healthy windows of a packet. -/
def driftsOf (label : Label) (feature : Feature) (packet : Document) : Except Raised (List F) := do
  let values ← featureValues r packet label feature .healthy
  positiveConsecutiveDrifts r values

def healthyDrifts (packets : List Document) (label : Label) (feature : Feature) :
    Except Raised (List F) := do
  let drifts ← packets.mapM (driftsOf r label feature)
  return drifts.flatten

/-- The floor that the healthy median of a packet gives. -/
def relativeFloor (packet : Document) (label : Label) (fraction : String) :
    Except Raised (RelativeFloor F) := do
  let values ← featureValues r packet label .rootSignal .healthy
  let level ← median r values
  return ⟨r.ofText fraction, level, r.mul level (r.ofText fraction)⟩

/-- The threshold that the rises of the other packets give. -/
def pooledThreshold (others : List Document) (label : Label) (feature : Feature) :
    Except Raised (FeatureThreshold F) := do
  let signal := signalOf label feature
  let drifts ← healthyDrifts r others label feature
  let p99 ← nearestRank r drifts (r.ofText DETERMINISTIC_PERCENTILE)
  return ⟨r.ofText signal.quantum, signal.kind, signal.field, drifts.length, p99,
    r.add p99 (r.ofText signal.quantum), none⟩

/-- A threshold that is not below a floor. -/
def FeatureThreshold.raise (entry : FeatureThreshold F) (floor : RelativeFloor F) : FeatureThreshold F :=
  { entry with
    threshold := r.max entry.threshold floor.floor
    relativeFloor := some floor }

def featureThreshold (others : List Document) (packet : Document) (label : Label) (feature : Feature) :
    Except Raised (FeatureThreshold F) := do
  let entry ← pooledThreshold r others label feature
  match feature, RELATIVE_ROOT_SIGNAL_FLOORS label with
  | .rootSignal, some fraction => do
    let floor ← relativeFloor r packet label fraction
    return entry.raise r floor
  | _, _ => return entry

def labelThresholds (others : List Document) (packet : Document) (label : Label) :
    Except Raised (Label × LabelThresholds F) := do
  let traceActivity ← featureThreshold r others packet label .traceActivity
  let rootSignal ← featureThreshold r others packet label .rootSignal
  return (label, ⟨TARGET_SERVICES label, traceActivity, rootSignal⟩)

/-- The cases in the order of their identifiers. -/
def sortCases (cases : Cases) : Cases := cases.mergeSort fun c d => c.1 ≤ d.1

/-- The packets of the other cases. -/
def otherPackets (cases : Cases) (caseId : String) : List Document :=
  ((sortCases cases).filter fun entry => entry.1 ≠ caseId).map fun entry => entry.2.packet

def caseOf (cases : Cases) (caseId : String) : Except Raised Case :=
  (cases.lookup caseId).elim (.error .builtin) .ok

abbrev CaseThresholds (F : Type) := List (Label × LabelThresholds F)

def caseThresholds (cases : Cases) (caseId : String) : Except Raised (String × CaseThresholds F) := do
  if (otherPackets cases caseId).length ≠ 31 then
    throw (.governance "metric v3 leave-one-case-out registry is incomplete")
  let case ← caseOf cases caseId
  let thresholds ← ROOT_CAUSE_LABELS.mapM (labelThresholds r (otherPackets cases caseId) case.packet)
  return (caseId, thresholds)

/-- The function `build_deterministic_thresholds_v3`: the thresholds by case. -/
def buildDeterministicThresholdsV3 (document : Document) :
    Except Raised (List (String × CaseThresholds F)) := do
  let cases ← scenarioCasesV3 r document
  (sortTexts (cases.map Prod.fst)).mapM (caseThresholds r cases)

/-! ### Candidates -/

/-- How a feature of a packet compares with its threshold. -/
structure FeatureObservation (F : Type) where
  healthyMedian : F
  faultMax : F
  incidentExcess : F
  threshold : F
  standardizedExcess : F

structure Candidate (F : Type) where
  label : Label
  weakestStandardizedExcess : F
  traceActivity : FeatureObservation F
  rootSignal : FeatureObservation F

def observeFeature (packet : Document) (label : Label) (feature : Feature)
    (threshold : FeatureThreshold F) : Except Raised (FeatureObservation F) := do
  let healthy ← featureValues r packet label feature .healthy
  let fault ← featureValues r packet label feature .fault
  let faultMax ← maximum r fault
  let healthyMedian ← median r healthy
  let excess := r.sub faultMax healthyMedian
  let margin := r.sub excess threshold.threshold
  return ⟨healthyMedian, faultMax, excess, threshold.threshold,
    r.div margin (r.max threshold.threshold threshold.quantum)⟩

/-- A label that reaches both of its thresholds. -/
def candidateOf (packet : Document) (thresholds : CaseThresholds F) (label : Label) :
    Except Raised (Option (Candidate F)) :=
  match thresholds.lookup label with
  | none => .error (.governance "metric v3 deterministic threshold registry lacks a label")
  | some threshold => do
    let activity ← observeFeature r packet label .traceActivity threshold.traceActivity
    let signal ← observeFeature r packet label .rootSignal threshold.rootSignal
    if r.le activity.threshold activity.incidentExcess &&
        r.le signal.threshold signal.incidentExcess then
      return some ⟨label, r.min activity.standardizedExcess signal.standardizedExcess, activity,
        signal⟩
    else return none

/-- The order of pairs of a score, the larger one first, and a label. -/
def Runtime.precedes (x y : F × Label) : Bool :=
  if r.eq (r.neg x.1) (r.neg y.1) then x.2.value < y.2.value else r.lt (r.neg x.1) (r.neg y.1)

def Candidate.key (c : Candidate F) : F × Label := (c.weakestStandardizedExcess, c.label)

def deterministicCandidatesV3 (packet : Document) (thresholds : CaseThresholds F) :
    Except Raised (List (Candidate F)) := do
  let _ ← validateObservationPacketV3 r packet
  let found ← ROOT_CAUSE_LABELS.mapM (candidateOf r packet thresholds)
  return (found.filterMap id).mergeSort fun c d => !r.precedes d.key c.key

/-- The result that names a label, or none, with some candidates. -/
def baselineResult (caseId : String) (root : String) (candidates : List String) (kinds : List Kind) :
    Document :=
  let evidence := Json.arr ((sortTexts (kinds.map (evidenceIdV3 r caseId))).map .str)
  [("schema_version", .str WIRE_SCHEMA_VERSION), ("metric_version", .int METRIC_VERSION),
    ("case_id", .str caseId), ("status", .str "ok"), ("baseline", .str "deterministic"),
    ("root_cause", .str root), ("root_cause_candidates", .arr (candidates.map .str)),
    ("evidence", evidence),
    ("claims", .arr [.obj [("claim_type", .str "root_cause"), ("value", .str root),
      ("evidence_refs", evidence)]])]

/-- The function `deterministic_baseline_v3`: the result and the candidates. -/
def deterministicBaselineV3 (packet : Document) (thresholds : CaseThresholds F) :
    Except Raised (Document × List (Candidate F)) := do
  let candidates ← deterministicCandidatesV3 r packet thresholds
  let caseId := r.str (get packet "case_id")
  let result :=
    match candidates with
    | [] => baselineResult r caseId "unknown" ["unknown"] EVIDENCE_KINDS
    | first :: _ => baselineResult r caseId first.label.value
        ((candidates.take 3).map fun c => c.label.value) (REQUIRED_KINDS first.label)
  return (result, candidates)

variable {r}

/-! ### Samples and their numbers -/

/-- The samples of a kind are numbered with integers. -/
def Numbered (r : Runtime F) (packet : Document) (kind : Kind) : Prop :=
  ∀ samples : List Document, samplesOfKind r packet kind = .ok (.arr (samples.map .obj)) →
    ∀ sample ∈ samples, (integer (get sample "window_index")).isSome

theorem same_int_iff {j : Json} {n m : ℤ} (h : integer j = some n) :
    r.same j (.int m) = true ↔ n = m := by
  rw [Runtime.same]
  cases j <;> cases h <;> simp [equal, integer]

theorem same_of_integer {j k : Json} {n : ℤ} (h : integer k = some n) :
    r.same j k = r.same j (.int n) := by
  rw [Runtime.same, Runtime.same]
  cases k <;> cases h <;> cases j <;> simp [equal, integer, Runtime.floats]

variable {packet : Document} {read : Document → Except Raised F} {samples : List Document}

/-- The phase of a sample that is numbered with an integer. -/
theorem samplePhase_eq_ok {sample : Document} {windows : List Document}
    (hwindows : Registry r packet windows) {i : ℕ} {phase : Phase}
    (hphase : phases[i]? = some phase)
    (hsame : r.same (get sample "window_index") (.int i) = true)
    (hinteger : (integer (get sample "window_index")).isSome) :
    samplePhase r packet sample = .ok phase.value := by
  obtain ⟨n, hn⟩ := Option.isSome_iff_exists.1 hinteger
  obtain rfl : n = i := (same_int_iff hn).1 hsame
  have hi : i < windows.length := by
    rw [hwindows.length]
    exact (List.getElem?_eq_some_iff.1 hphase).1
  have hindex := hwindows.index i hi
  have htext : get windows[i] "phase" = .str phase.value := by
    have hget := congrArg (fun texts => texts[i]?) hwindows.phase
    rw [List.getElem?_map, List.getElem?_map, hphase, List.getElem?_eq_getElem hi] at hget
    exact Option.some.inj hget
  rw [samplePhase, hn, hwindows.registered]
  dsimp only
  rw [if_neg (by omega), Int.toNat_natCast, List.getElem?_map, List.getElem?_eq_getElem hi]
  dsimp only [Option.map_some, mapping]
  rw [same_of_integer hn]
  rw [List.get_eq_getElem] at hindex
  rw [if_neg (not_not_intro hindex), htext]
  rfl

theorem integer_of_samplePhase {sample : Document} {phase : String}
    (h : samplePhase r packet sample = .ok phase) :
    (integer (get sample "window_index")).isSome := by
  rw [samplePhase] at h
  cases hinteger : integer (get sample "window_index") with
  | none =>
    rw [hinteger] at h
    cases h
  | some n => rfl

/-- What is collected from samples of known phases. -/
theorem collect_eq_ok (window : Phase) {order : List Phase} {P : F → Prop}
    (h : List.Forall₂ (fun sample phase => samplePhase r packet sample = .ok phase.value ∧
      ∃ x, read sample = .ok x ∧ P x) samples order) :
    ∃ xs, collect r packet window read samples = .ok xs ∧ xs.length = order.count window ∧
      ∀ x ∈ xs, P x := by
  induction h with
  | nil => exact ⟨[], rfl, rfl, nofun⟩
  | @cons sample phase samples order hsample _ ih =>
    obtain ⟨hphase, x, hread, hx⟩ := hsample
    obtain ⟨xs, hxs, hlength, hall⟩ := ih
    rw [collect]
    by_cases heq : phase = window
    · refine ⟨x :: xs, bind_eq_ok.2 ⟨_, hphase, ?_⟩, ?_, List.forall_mem_cons.2 ⟨hx, hall⟩⟩
      · rw [if_pos (congrArg Phase.value heq)]
        exact bind_eq_ok.2 ⟨x, hread, bind_eq_ok.2 ⟨xs, hxs, rfl⟩⟩
      · rw [heq, List.count_cons_self, List.length_cons, hlength]
    · refine ⟨xs, bind_eq_ok.2 ⟨_, hphase, ?_⟩, ?_, hall⟩
      · have hne : phase.value ≠ window.value := by
          cases phase <;> cases window <;> first | exact absurd rfl heq | decide
        rw [if_neg hne]
        exact hxs
      · rw [hlength, List.count_cons_of_ne heq]

theorem samplePhase_of_collect {window : Phase} {xs : List F}
    (h : collect r packet window read samples = .ok xs) :
    ∀ sample ∈ samples, ∃ phase, samplePhase r packet sample = .ok phase := by
  induction samples generalizing xs with
  | nil => exact nofun
  | cons sample samples ih =>
    obtain ⟨phase, hphase, h⟩ := bind_eq_ok.1 h
    refine List.forall_mem_cons.2 ⟨⟨phase, hphase⟩, ?_⟩
    split at h
    · obtain ⟨x, -, h⟩ := bind_eq_ok.1 h
      obtain ⟨rest, hrest, -⟩ := bind_eq_ok.1 h
      exact ih hrest
    · exact ih h

/-! ### The values of a feature -/

theorem mem_countFields (label : Label) (feature : Feature) :
    (signalOf label feature).field ∈ countFields (signalOf label feature).kind := by
  cases label <;> cases feature <;> decide

theorem float_of_finite {j : Json} (h : Finite r j) : ∃ x, r.float j = .ok x ∧ r.isfinite x = true := by
  unfold Finite finiteMeasurement at h
  cases j with
  | int n | float text =>
    obtain ⟨x, hx, h⟩ := bind_eq_ok.1 h
    exact ⟨x, hx, Except.ok.inj h⟩
  | null | bool | str | arr | obj => cases h

theorem samplesForKindV3_eq_ok (h : Accepted r packet) (kind : Kind) :
    ∃ id samples, samplesForKindV3 r packet kind = .ok (id, samples) ∧
      samplesOfKind r packet kind = .ok (.arr (samples.map .obj)) ∧ Measured r kind samples := by
  obtain ⟨group, samples, hgroup, hget, hsamples, hmeasured⟩ := groupByKind_eq_some h kind
  refine ⟨r.str (get group "id"), samples, ?_, hsamples, hmeasured⟩
  refine bind_eq_ok.2 ⟨_, validate_eq_ok_iff.2 ⟨h, rfl⟩, ?_⟩
  rw [hgroup]
  dsimp only
  rw [hget]
  dsimp only
  rw [filterMap_mapping]
  rfl

variable (r) in
/-- What a feature of a label is in a sample. -/
def readFeature (label : Label) (feature : Feature) (sample : Document) : Except Raised F := do
  let signal := signalOf label feature
  let j ← reading signal.kind (TARGET_SERVICES label) signal.field sample
  r.float j

variable {label : Label} {feature : Feature}

/-- The values of a feature have what its samples have. -/
theorem exists_featureValues_of (h : Accepted r packet)
    (hnumbered : Numbered r packet (signalOf label feature).kind) (window : Phase) {P : F → Prop}
    (hread : ∀ samples : List Document,
      samplesOfKind r packet (signalOf label feature).kind = .ok (.arr (samples.map .obj)) →
        ∀ sample ∈ samples, ∃ x, readFeature r label feature sample = .ok x ∧ r.isfinite x = true ∧ P x) :
    ∃ values, featureValues r packet label feature window = .ok values ∧
      values.length = expectedCount window ∧ ∀ x ∈ values, P x := by
  obtain ⟨id, samples, hsamples, hgroup, hmeasured⟩ :=
    samplesForKindV3_eq_ok h (signalOf label feature).kind
  obtain ⟨windows, hwindows⟩ := exists_windows h
  have hindices := hmeasured.indices
  rw [same_indices_iff] at hindices
  have hall : List.Forall₂ (fun sample phase => samplePhase r packet sample = .ok phase.value ∧
      ∃ x, readFeature r label feature sample = .ok x ∧ r.isfinite x = true ∧ P x) samples phases := by
    refine List.forall₂_iff_get.2 ⟨hmeasured.length.trans rfl, fun i hi hi' => ⟨?_, ?_⟩⟩
    · refine samplePhase_eq_ok hwindows (List.getElem?_eq_getElem hi') ?_
        (hnumbered samples hgroup _ (List.get_mem samples ⟨i, hi⟩))
      have hindex := hindices.2 i (by rwa [List.length_map])
      simpa using hindex
    · exact hread samples hgroup _ (List.get_mem samples ⟨i, hi⟩)
  obtain ⟨values, hvalues, hlength, hsound⟩ := collect_eq_ok window hall
  have hcount : values.length = expectedCount window := by
    rw [hlength]
    cases window <;> rfl
  refine ⟨values, ?_, hcount, fun x hx => (hsound x hx).2⟩
  refine bind_eq_ok.2 ⟨(id, samples), hsamples, bind_eq_ok.2 ⟨values, hvalues, check_eq_ok.2 ⟨?_, rfl⟩⟩⟩
  exact not_not_intro ⟨hcount, List.all_eq_true.2 fun x hx => (hsound x hx).1⟩

/-- **The values of a feature can be read** where its samples are numbered with integers. -/
theorem exists_featureValues (h : Accepted r packet) (label : Label) (feature : Feature)
    (hnumbered : Numbered r packet (signalOf label feature).kind) (window : Phase) :
    ∃ values, featureValues r packet label feature window = .ok values ∧
      values.length = expectedCount window := by
  have hread : ∀ samples : List Document,
      samplesOfKind r packet (signalOf label feature).kind = .ok (.arr (samples.map .obj)) →
        ∀ sample ∈ samples, ∃ x, readFeature r label feature sample = .ok x ∧ r.isfinite x = true ∧
          True := by
    intro samples hgroup sample hsample
    obtain ⟨id, others, -, hothers, hmeasured⟩ := samplesForKindV3_eq_ok h (signalOf label feature).kind
    rw [samples_unique hgroup hothers] at hsample
    obtain ⟨j, hj, hfinite⟩ := hmeasured.values sample hsample (TARGET_SERVICES label) _
      (mem_countFields label feature)
    obtain ⟨x, hx, hx'⟩ := float_of_finite hfinite
    exact ⟨x, bind_eq_ok.2 ⟨j, hj, hx⟩, hx', trivial⟩
  obtain ⟨values, hvalues, hcount, -⟩ := exists_featureValues_of h hnumbered window hread
  exact ⟨values, hvalues, hcount⟩

variable {values : List F}

/-- **The values of a feature cannot be read** where one of its samples is not numbered so. -/
theorem numbered_of_featureValues (h : Accepted r packet) {window : Phase}
    (hvalues : featureValues r packet label feature window = .ok values) :
    Numbered r packet (signalOf label feature).kind := by
  obtain ⟨id, samples, hsamples, hgroup, -⟩ := samplesForKindV3_eq_ok h (signalOf label feature).kind
  obtain ⟨found, hfound, hvalues⟩ := bind_eq_ok.1 hvalues
  rw [hsamples] at hfound
  cases hfound
  obtain ⟨xs, hxs, -⟩ := bind_eq_ok.1 hvalues
  intro others hothers sample hsample
  rw [samples_unique hothers hgroup] at hsample
  obtain ⟨phase, hphase⟩ := samplePhase_of_collect hxs sample hsample
  exact integer_of_samplePhase hphase

/-! ### Numbers of packets that are built -/

theorem get_sample (w : PublicWindow) (kind : Kind) (j : Json) :
    get (w.sample kind j) "window_index" = j :=
  rfl

theorem numbered_packet {t : Trial} {kind : Kind} (h : ∀ i, (integer (t.index kind i)).isSome) :
    Numbered r (t.packet r) kind := by
  intro samples hsamples sample hsample
  rw [samples_unique hsamples (samplesOfKind_packet t kind)] at hsample
  obtain ⟨w, -, i, rfl⟩ := mem_samplesOf hsample
  rw [get_sample]
  exact h i

theorem not_numbered_packet {t : Trial} (ht : t.Sound r) {kind : Kind}
    (h : integer (t.index kind 0) = none) :
    ¬Numbered r (t.packet r) kind := by
  intro hnumbered
  obtain ⟨w, ws, hwindows⟩ := ht.exists_cons
  obtain ⟨later, hsamples⟩ := samplesOf_cons t.index w ws kind
  have hfirst := hnumbered _ (samplesOfKind_packet t kind) (w.sample kind (t.index kind 0))
    (by rw [hwindows, hsamples]; exact List.mem_cons_self)
  rw [get_sample, h] at hfirst
  cases hfirst

/-! ### Thresholds that can be computed -/

/-- What the rank of the percentile needs of the arithmetic. -/
structure Ranked (r : Runtime F) : Prop where
  positive : r.lt (r.ofText "0.0") (r.ofText DETERMINISTIC_PERCENTILE) = true
  bounded : r.le (r.ofText DETERMINISTIC_PERCENTILE) (r.ofText "1.0") = true
  rank : ∃ count, r.ofInt 124 = some count ∧
    r.ceil (r.mul (r.ofText DETERMINISTIC_PERCENTILE) count) ≤ 124

theorem length_sortFloats (values : List F) : (sortFloats r values).length = values.length :=
  List.length_mergeSort values

theorem exists_median (h : values.length = HEALTHY_WINDOW_COUNT) :
    ∃ x, median r values = .ok x := by
  have hmiddle : values.length / 2 < (sortFloats r values).length := by
    rw [length_sortFloats, h]
    decide
  refine ⟨(sortFloats r values)[values.length / 2], ?_⟩
  have hodd : values.length % 2 = 1 := by
    rw [h]
    rfl
  unfold median
  dsimp only
  rw [if_pos hodd, List.getElem?_eq_getElem hmiddle]
  rfl

theorem exists_nearestRank (hranked : Ranked r) (h : values.length = 124) :
    ∃ x, nearestRank r values (r.ofText DETERMINISTIC_PERCENTILE) = .ok x := by
  obtain ⟨count, hcount, hrank⟩ := hranked.rank
  have hnonempty : values ≠ [] := by
    rintro rfl
    cases h
  have hfloat : r.float (.int values.length) = .ok count := by
    change (r.ofInt (values.length : ℤ)).elim (Except.error Raised.builtin) Except.ok = _
    rw [h]
    change (r.ofInt 124).elim (Except.error Raised.builtin) Except.ok = _
    rw [hcount]
    rfl
  have hindex : (r.ceil (r.mul (r.ofText DETERMINISTIC_PERCENTILE) count) - 1).toNat <
      (sortFloats r values).length := by
    rw [length_sortFloats, h]
    omega
  refine ⟨(sortFloats r values)[(r.ceil (r.mul (r.ofText DETERMINISTIC_PERCENTILE) count) - 1).toNat],
    ?_⟩
  refine check_eq_ok.2 ⟨?_, bind_eq_ok.2 ⟨count, hfloat, ?_⟩⟩
  · exact not_or_intro hnonempty (not_not_intro ⟨hranked.positive, hranked.bounded⟩)
  · rw [List.getElem?_eq_getElem hindex]
    rfl

theorem length_of_driftsOf {drifts : List F} (h : driftsOf r label feature packet = .ok drifts) :
    drifts.length = 4 := by
  obtain ⟨values, -, h⟩ := bind_eq_ok.1 h
  unfold positiveConsecutiveDrifts at h
  split at h
  · cases h
  · rename_i hlength
    rw [← Except.ok.inj h, List.length_zipWith, List.length_tail, not_not.1 hlength]
    rfl

theorem exists_driftsOf (h : Accepted r packet)
    (hnumbered : Numbered r packet (signalOf label feature).kind) :
    ∃ drifts, driftsOf r label feature packet = .ok drifts := by
  obtain ⟨values, hvalues, hlength⟩ := exists_featureValues h label feature hnumbered .healthy
  exact ⟨_, bind_eq_ok.2 ⟨values, hvalues, if_neg (not_not_intro hlength)⟩⟩

variable {packets : List Document}

theorem length_of_healthyDrifts {drifts : List F}
    (h : healthyDrifts r packets label feature = .ok drifts) :
    drifts.length = 4 * packets.length := by
  obtain ⟨found, hfound, h⟩ := bind_eq_ok.1 h
  rw [← Except.ok.inj h]
  have hall : ∀ {packets : List Document} {found : List (List F)},
      List.Forall₂ (fun packet own => driftsOf r label feature packet = .ok own) packets found →
        found.flatten.length = 4 * packets.length := by
    intro packets found hall
    induction hall with
    | nil => rfl
    | @cons packet own packets found hown _ ih =>
      have hlength : own.length = 4 := length_of_driftsOf hown
      rw [List.flatten_cons, List.length_append, hlength, ih, List.length_cons]
      omega
  exact hall (mapM_eq_ok.1 hfound)

theorem exists_healthyDrifts
    (h : ∀ packet ∈ packets, Accepted r packet ∧ Numbered r packet (signalOf label feature).kind) :
    ∃ drifts, healthyDrifts r packets label feature = .ok drifts := by
  obtain ⟨found, hfound⟩ := exists_mapM_eq_ok fun packet hpacket =>
    exists_driftsOf (h packet hpacket).1 (h packet hpacket).2
  exact ⟨found.flatten, bind_eq_ok.2 ⟨found, hfound, rfl⟩⟩

theorem exists_relativeFloor (fraction : String) (h : Accepted r packet)
    (hnumbered : Numbered r packet (signalOf label .rootSignal).kind) :
    ∃ floor, relativeFloor r packet label fraction = .ok floor := by
  obtain ⟨values, hvalues, hlength⟩ := exists_featureValues h label .rootSignal hnumbered .healthy
  obtain ⟨level, hlevel⟩ := exists_median hlength
  exact ⟨_, bind_eq_ok.2 ⟨values, hvalues, bind_eq_ok.2 ⟨level, hlevel, rfl⟩⟩⟩

variable {others : List Document} {threshold : FeatureThreshold F}

theorem exists_pooledThreshold (hranked : Ranked r) (hlength : others.length = 31)
    (h : ∀ other ∈ others, Accepted r other ∧ Numbered r other (signalOf label feature).kind) :
    ∃ entry, pooledThreshold r others label feature = .ok entry := by
  obtain ⟨drifts, hdrifts⟩ := exists_healthyDrifts h
  have hcount : drifts.length = 124 := by
    rw [length_of_healthyDrifts hdrifts, hlength]
  obtain ⟨p99, hp99⟩ := exists_nearestRank hranked hcount
  exact ⟨_, bind_eq_ok.2 ⟨drifts, hdrifts, bind_eq_ok.2 ⟨p99, hp99, rfl⟩⟩⟩

theorem activityThreshold_eq (others : List Document) (packet : Document) (label : Label) :
    featureThreshold r others packet label .traceActivity =
      pooledThreshold r others label .traceActivity := by
  rw [featureThreshold]
  cases pooledThreshold r others label .traceActivity <;> rfl

theorem rootThreshold_eq (h : RELATIVE_ROOT_SIGNAL_FLOORS label = none) (others : List Document)
    (packet : Document) :
    featureThreshold r others packet label .rootSignal = pooledThreshold r others label .rootSignal := by
  rw [featureThreshold, h]
  cases pooledThreshold r others label .rootSignal <;> rfl

theorem rootThreshold_eq_ok_iff {fraction : String}
    (h : RELATIVE_ROOT_SIGNAL_FLOORS label = some fraction) :
    featureThreshold r others packet label .rootSignal = .ok threshold ↔
      ∃ entry floor, pooledThreshold r others label .rootSignal = .ok entry ∧
        relativeFloor r packet label fraction = .ok floor ∧ threshold = entry.raise r floor := by
  rw [featureThreshold, h]
  constructor
  · intro hok
    obtain ⟨entry, hentry, hok⟩ := bind_eq_ok.1 hok
    obtain ⟨floor, hfloor, hok⟩ := bind_eq_ok.1 hok
    exact ⟨entry, floor, hentry, hfloor, (Except.ok.inj hok).symm⟩
  · rintro ⟨entry, floor, hentry, hfloor, rfl⟩
    exact bind_eq_ok.2 ⟨entry, hentry, bind_eq_ok.2 ⟨floor, hfloor, rfl⟩⟩

/-- **A threshold can be computed** from packets whose samples of the kind are numbered with integers. -/
theorem exists_featureThreshold (hranked : Ranked r) (hlength : others.length = 31)
    (h : ∀ other ∈ packet :: others, Accepted r other ∧ Numbered r other (signalOf label feature).kind) :
    ∃ entry, featureThreshold r others packet label feature = .ok entry := by
  obtain ⟨hown, hothers⟩ := List.forall_mem_cons.1 h
  obtain ⟨entry, hentry⟩ := exists_pooledThreshold hranked hlength hothers
  cases feature with
  | traceActivity => exact ⟨entry, (activityThreshold_eq others packet label).trans hentry⟩
  | rootSignal =>
    cases hfraction : RELATIVE_ROOT_SIGNAL_FLOORS label with
    | none => exact ⟨entry, (rootThreshold_eq hfraction others packet).trans hentry⟩
    | some fraction =>
      obtain ⟨floor, hfloor⟩ := exists_relativeFloor fraction hown.1 hown.2
      exact ⟨_, (rootThreshold_eq_ok_iff hfraction).2 ⟨entry, floor, hentry, hfloor, rfl⟩⟩

/-! ### Tables -/

variable {cases : Cases} {caseId : String}

theorem exists_lookup_of_mapM {α β : Type} [DecidableEq α] {f : α → Except Raised (α × β)} {keys : List α}
    {table : List (α × β)} (h : keys.mapM f = .ok table)
    (hf : ∀ key entry, f key = .ok entry → entry.1 = key)
    {key : α} (hkey : key ∈ keys) : ∃ value, table.lookup key = some value ∧ f key = .ok (key, value) := by
  have hall := mapM_eq_ok.1 h
  clear h
  induction hall with
  | nil => cases hkey
  | @cons first entry keys table hentry _ ih =>
    obtain ⟨own, value⟩ := entry
    obtain rfl : own = first := hf first _ hentry
    rw [List.lookup_cons]
    by_cases heq : key = own
    · subst heq
      rw [beq_self_eq_true]
      exact ⟨value, rfl, hentry⟩
    · rw [beq_eq_false_iff_ne.2 heq]
      exact ih ((List.mem_cons.1 hkey).resolve_left heq)

theorem fst_of_labelThresholds {entry : Label × LabelThresholds F}
    (h : labelThresholds r others packet label = .ok entry) : entry.1 = label := by
  obtain ⟨activity, -, h⟩ := bind_eq_ok.1 h
  obtain ⟨signal, -, h⟩ := bind_eq_ok.1 h
  rw [← Except.ok.inj h]

theorem fst_of_caseThresholds {entry : String × CaseThresholds F}
    (h : caseThresholds r cases caseId = .ok entry) : entry.1 = caseId := by
  obtain ⟨-, h⟩ := check_eq_ok.1 h
  obtain ⟨case, -, h⟩ := bind_eq_ok.1 h
  obtain ⟨thresholds, -, h⟩ := bind_eq_ok.1 h
  rw [← Except.ok.inj h]

/-- What a table has for a label of a case. -/
def cell {α : Type} (table : List (String × List (Label × α))) (caseId : String) (label : Label) :
    Option α :=
  (table.lookup caseId).bind fun row => row.lookup label

theorem cell_eq_some {α : Type} {table : List (String × List (Label × α))}
    {row : List (Label × α)} {value : α} (hrow : table.lookup caseId = some row)
    (hvalue : row.lookup label = some value) : cell table caseId label = some value := by
  rw [cell, hrow]
  exact hvalue

variable (r) in
/-- The thresholds of a label of a case. -/
structure Registered (cases : Cases) (registry : List (String × CaseThresholds F)) (entry : String × Case)
    (label : Label) (thresholds : LabelThresholds F) : Prop where
  found : cell registry entry.1 label = some thresholds
  target : thresholds.targetService = TARGET_SERVICES label
  traceActivity : featureThreshold r (otherPackets cases entry.1) entry.2.packet label .traceActivity =
    .ok thresholds.traceActivity
  rootSignal : featureThreshold r (otherPackets cases entry.1) entry.2.packet label .rootSignal =
    .ok thresholds.rootSignal

/-! ### The cases in their order -/

variable {entry : String × Case}

theorem perm_sortCases (cases : Cases) : (sortCases cases).Perm cases := List.mergeSort_perm cases _

theorem keys_sortCases (cases : Cases) :
    (sortCases cases).map Prod.fst = sortTexts (cases.map Prod.fst) :=
  List.map_mergeSort (fun _ _ _ _ => rfl)

theorem caseOf_eq_ok (h : (cases.map Prod.fst).Nodup) (hentry : entry ∈ cases) :
    caseOf cases entry.1 = .ok entry.2 := by
  have hlookup : cases.lookup entry.1 = some entry.2 := by
    induction cases with
    | nil => cases hentry
    | cons other cases ih =>
      obtain ⟨hnew, hnodup⟩ := List.nodup_cons.1 h
      rcases List.mem_cons.1 hentry with rfl | hentry
      · exact List.lookup_cons_self
      · have hne : entry.1 ≠ other.1 := fun heq => hnew (heq ▸ List.mem_map_of_mem hentry)
        obtain ⟨key, case⟩ := other
        rw [List.lookup_cons, beq_eq_false_iff_ne.2 hne]
        exact ih hnodup (by assumption)
  rw [caseOf, hlookup]
  rfl

theorem mem_of_caseOf {case : Case} (h : caseOf cases caseId = .ok case) :
    (caseId, case) ∈ cases := by
  unfold caseOf at h
  cases hlookup : cases.lookup caseId with
  | none =>
    rw [hlookup] at h
    cases h
  | some found =>
    rw [hlookup] at h
    cases h
    induction cases with
    | nil => cases hlookup
    | cons other cases ih =>
      obtain ⟨key, value⟩ := other
      rw [List.lookup_cons] at hlookup
      split at hlookup
      · rename_i heq
        cases hlookup
        rw [eq_of_beq heq]
        exact List.mem_cons_self
      · exact List.mem_cons_of_mem _ (ih hlookup)

theorem length_filter_ne {ids : List String} (h : ids.Nodup) {id : String} (hmem : id ∈ ids) :
    (ids.filter fun other => other ≠ id).length = ids.length - 1 := by
  have hfun : (fun other => decide (other ≠ id)) = fun other => other != id := by
    funext other
    rw [bne, beq_eq_decide]
    exact decide_not
  rw [hfun, ← h.erase_eq_filter, List.length_erase_of_mem hmem]

theorem length_otherPackets (h : Dataset r cases) (hmem : caseId ∈ cases.map Prod.fst) :
    (otherPackets cases caseId).length = 31 := by
  have hperm : ((sortCases cases).map Prod.fst).Perm (cases.map Prod.fst) := (perm_sortCases cases).map _
  have hfilter : (otherPackets cases caseId).length =
      (((sortCases cases).map Prod.fst).filter fun other => other ≠ caseId).length := by
    rw [otherPackets, List.length_map, List.filter_map, List.length_map]
    rfl
  rw [hfilter, length_filter_ne (hperm.nodup_iff.2 h.nodup) (hperm.mem_iff.2 hmem), hperm.length_eq,
    List.length_map, h.length]

theorem exists_of_mem_otherPackets (hpacket : packet ∈ otherPackets cases caseId) :
    ∃ entry ∈ cases, entry.2.packet = packet := by
  obtain ⟨entry, hentry, rfl⟩ := List.mem_map.1 hpacket
  exact ⟨entry, (perm_sortCases cases).mem_iff.1 (List.mem_filter.1 hentry).1, rfl⟩

variable (r) in
/-- The samples that features are read from are numbered with integers. -/
def Readable (packet : Document) : Prop :=
  ∀ label feature, Numbered r packet (signalOf label feature).kind

variable {document : Document} {registry : List (String × CaseThresholds F)}

/-- **The thresholds can be computed** where the samples are numbered with integers. -/
theorem exists_buildDeterministicThresholdsV3 (hranked : Ranked r)
    (h : scenarioCasesV3 r document = .ok cases)
    (hnumbered : ∀ entry ∈ cases, Readable r entry.2.packet) :
    ∃ registry, buildDeterministicThresholdsV3 r document = .ok registry := by
  have hdataset := dataset_of_scenarioCases h
  have hreadable : ∀ entry ∈ cases, Accepted r entry.2.packet ∧ Readable r entry.2.packet :=
    fun entry hentry => ⟨(hdataset.sound entry hentry).packet, hnumbered entry hentry⟩
  have hcase : ∀ caseId ∈ sortTexts (cases.map Prod.fst), ∃ thresholds,
      caseThresholds r cases caseId = .ok thresholds := by
    intro caseId hmem
    have hmem : caseId ∈ cases.map Prod.fst := List.mem_mergeSort.1 hmem
    obtain ⟨entry, hentry, rfl⟩ := List.mem_map.1 hmem
    have hlength := length_otherPackets hdataset hmem
    have hpackets : ∀ packet ∈ entry.2.packet :: otherPackets cases entry.1,
        Accepted r packet ∧ Readable r packet := by
      refine List.forall_mem_cons.2 ⟨hreadable entry hentry, fun packet hpacket => ?_⟩
      obtain ⟨other, hother, rfl⟩ := exists_of_mem_otherPackets hpacket
      exact hreadable other hother
    have hfeature : ∀ label feature, ∃ threshold,
        featureThreshold r (otherPackets cases entry.1) entry.2.packet label feature = .ok threshold :=
      fun label feature => exists_featureThreshold hranked hlength
        fun packet hpacket => ⟨(hpackets packet hpacket).1, (hpackets packet hpacket).2 label feature⟩
    have hlabel : ∀ label ∈ ROOT_CAUSE_LABELS, ∃ thresholds,
        labelThresholds r (otherPackets cases entry.1) entry.2.packet label = .ok thresholds := by
      intro label _
      obtain ⟨activity, hactivity⟩ := hfeature label .traceActivity
      obtain ⟨signal, hsignal⟩ := hfeature label .rootSignal
      exact ⟨_, bind_eq_ok.2 ⟨activity, hactivity, bind_eq_ok.2 ⟨signal, hsignal, rfl⟩⟩⟩
    obtain ⟨thresholds, hthresholds⟩ := exists_mapM_eq_ok hlabel
    exact ⟨(entry.1, thresholds), check_eq_ok.2 ⟨not_not_intro hlength, bind_eq_ok.2
      ⟨entry.2, caseOf_eq_ok hdataset.nodup hentry, bind_eq_ok.2 ⟨thresholds, hthresholds, rfl⟩⟩⟩⟩
  obtain ⟨registry, hregistry⟩ := exists_mapM_eq_ok hcase
  exact ⟨registry, bind_eq_ok.2 ⟨cases, h, hregistry⟩⟩

/-- **Each label of each case has its thresholds in the registry.** -/
theorem exists_registered (h : scenarioCasesV3 r document = .ok cases)
    (hregistry : buildDeterministicThresholdsV3 r document = .ok registry)
    (hentry : entry ∈ cases) (label : Label) :
    ∃ thresholds, Registered r cases registry entry label thresholds := by
  obtain ⟨found, hfound, hregistry⟩ := bind_eq_ok.1 hregistry
  rw [h] at hfound
  obtain rfl := Except.ok.inj hfound
  have hkey : entry.1 ∈ sortTexts (cases.map Prod.fst) := List.mem_mergeSort.2 (List.mem_map_of_mem hentry)
  obtain ⟨row, hrow, hcase⟩ := exists_lookup_of_mapM hregistry (fun _ _ => fst_of_caseThresholds) hkey
  obtain ⟨-, hcase⟩ := check_eq_ok.1 hcase
  obtain ⟨case, hcaseOf, hcase⟩ := bind_eq_ok.1 hcase
  rw [caseOf_eq_ok (dataset_of_scenarioCases h).nodup hentry] at hcaseOf
  obtain rfl := Except.ok.inj hcaseOf
  obtain ⟨labels, hlabels, hcase⟩ := bind_eq_ok.1 hcase
  obtain rfl := (Prod.mk.inj (Except.ok.inj hcase)).2
  obtain ⟨thresholds, hlookup, hlabel⟩ :=
    exists_lookup_of_mapM hlabels (fun _ _ => fst_of_labelThresholds) (mem_labels label)
  obtain ⟨activity, hactivity, hlabel⟩ := bind_eq_ok.1 hlabel
  obtain ⟨signal, hsignal, hlabel⟩ := bind_eq_ok.1 hlabel
  obtain rfl := (Prod.mk.inj (Except.ok.inj hlabel)).2
  exact ⟨_, cell_eq_some hrow hlookup, rfl, hactivity, hsignal⟩

theorem mem_otherPackets (hentry : entry ∈ cases) (hne : entry.1 ≠ caseId) :
    entry.2.packet ∈ otherPackets cases caseId :=
  List.mem_map.2 ⟨entry,
    List.mem_filter.2 ⟨(perm_sortCases cases).mem_iff.2 hentry, decide_eq_true hne⟩, rfl⟩

theorem exists_other (h : Dataset r cases) (hentry : entry ∈ cases) :
    ∃ other ∈ cases, entry.1 ≠ other.1 := by
  have hlength := length_otherPackets h (List.mem_map_of_mem hentry)
  have hnonempty : otherPackets cases entry.1 ≠ [] := by
    intro hnil
    rw [hnil] at hlength
    cases hlength
  obtain ⟨packet, hpacket⟩ := List.exists_mem_of_ne_nil _ hnonempty
  obtain ⟨other, hother, -⟩ := List.mem_map.1 hpacket
  obtain ⟨hmem, hne⟩ := List.mem_filter.1 hother
  exact ⟨other, (perm_sortCases cases).mem_iff.1 hmem, fun heq => of_decide_eq_true hne heq.symm⟩

theorem numbered_of_pooledThreshold (h : pooledThreshold r others label feature = .ok threshold)
    (hpacket : packet ∈ others) (haccepted : Accepted r packet) :
    Numbered r packet (signalOf label feature).kind := by
  obtain ⟨drifts, hdrifts, -⟩ := bind_eq_ok.1 h
  obtain ⟨found, hfound, -⟩ := bind_eq_ok.1 hdrifts
  obtain ⟨own, hown⟩ := mem_of_mapM_eq_ok hfound hpacket
  obtain ⟨values, hvalues, -⟩ := bind_eq_ok.1 hown
  exact numbered_of_featureValues haccepted hvalues

/-- **The thresholds cannot be computed** where a sample that is read is not numbered with an integer. -/
theorem readable_of_build (h : scenarioCasesV3 r document = .ok cases)
    (hregistry : buildDeterministicThresholdsV3 r document = .ok registry)
    (hentry : entry ∈ cases) : Readable r entry.2.packet := by
  have hdataset := dataset_of_scenarioCases h
  -- Each packet is one of the other packets of some case.
  obtain ⟨other, hother, hne⟩ := exists_other hdataset hentry
  intro label feature
  obtain ⟨thresholds, hthresholds⟩ := exists_registered h hregistry hother label
  obtain ⟨threshold, hthreshold⟩ : ∃ threshold,
      featureThreshold r (otherPackets cases other.1) other.2.packet label feature = .ok threshold := by
    cases feature
    · exact ⟨_, hthresholds.traceActivity⟩
    · exact ⟨_, hthresholds.rootSignal⟩
  obtain ⟨pooled, hpooled, -⟩ := bind_eq_ok.1 hthreshold
  have haccepted := (hdataset.sound entry hentry).packet
  exact numbered_of_pooledThreshold hpooled (mem_otherPackets hentry hne) haccepted

/-! ### The dataset over the rational numbers -/

theorem ranked_rationals : Ranked rationals where
  positive := by decide +kernel
  bounded := by decide +kernel
  rank := ⟨124, rfl, by decide +kernel⟩

namespace Samples

variable {s : Samples} {n : ℕ} {entry : String × Case}

theorem Holds.numbered (h : s.Holds n entry) {kind : Kind}
    (hindex : ∀ i, (integer (s.index n kind i)).isSome) :
    Numbered rationals entry.2.packet kind := by
  rw [h.packet]
  exact numbered_packet hindex

theorem Holds.not_numbered (h : s.Holds n entry) (hproper : s.Proper) {kind : Kind}
    (hindex : integer (s.index n kind 0) = none) : ¬Numbered rationals entry.2.packet kind := by
  rw [h.packet]
  exact not_numbered_packet (sound_trial hproper n) hindex

end Samples

end MetricV3
