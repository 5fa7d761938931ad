/-
**The probe of what the numbers give away.**

`faultwitness_dev/g03_separability.py` computes the thresholds of the root signals a second time, from
the cases instead of the document, and makes a table of how far each signal of each case is above its
threshold.  From a row of the table it names the label of the case.

Main definitions:

* `MetricV3.frozenThresholdsLoo` — the thresholds;
* `MetricV3.offsetTable`, `MetricV3.classifyFromOffsets` — the table, and what a row of it says.

Main results:

* `MetricV3.frozenSignal_eq` — **a threshold of the probe is one of the registry**;
* `MetricV3.thresholds_agree` — so the probe and the registry agree where both can be computed;
* `MetricV3.classifications_agree` — **a row says what the other probe says of the packet**.
-/

import FaultWitness.LeakageProbes

set_option autoImplicit false

namespace MetricV3

open Python FlagDocuments

variable {F : Type} (r : Runtime F)

/-! ### Thresholds -/

/-- A threshold of the root signal of a label. -/
structure FrozenSignal (F : Type) where
  kind : Kind
  field : String
  service : Service
  quantum : F
  healthyDriftCount : ℕ
  healthyP99 : F
  absoluteThreshold : F
  relativeFloor : Option (RelativeFloor F)
  trainingCaseIds : List String
  threshold : F

/-- The rises in the healthy windows of some cases. -/
def trainingDrifts (cases : Cases) (training : List String) (label : Label) :
    Except Raised (List F) := do
  let drifts ← training.mapM fun other => do
    let case ← caseOf cases other
    driftsOf r label .rootSignal case.packet
  return drifts.flatten

def frozenSignal (cases : Cases) (training : List String) (caseId : String) (label : Label) :
    Except Raised (Label × FrozenSignal F) := do
  let signal := ROOT_SIGNAL_FEATURES label
  let drifts ← trainingDrifts r cases training label
  if drifts.length ≠ 31 * 4 then
    throw (.governance ("leave-one-case-out drift pool has the wrong size: " ++ caseId ++ "/" ++
      label.value ++ " got " ++ str drifts.length))
  let p99 ← nearestRank r drifts (r.ofText DETERMINISTIC_PERCENTILE)
  let threshold := r.add p99 (r.ofText signal.quantum)
  let entry : FrozenSignal F :=
    ⟨signal.kind, signal.field, TARGET_SERVICES label, r.ofText signal.quantum, drifts.length, p99,
      threshold, none, training, threshold⟩
  match RELATIVE_ROOT_SIGNAL_FLOORS label with
  | none => return (label, entry)
  | some fraction => do
    let case ← caseOf cases caseId
    let floor ← relativeFloor r case.packet label fraction
    return (label, { entry with
      relativeFloor := some floor
      threshold := r.max threshold floor.floor })

abbrev FrozenSignals (F : Type) := List (Label × FrozenSignal F)

def frozenCase (cases : Cases) (caseIds : List String) (caseId : String) :
    Except Raised (String × FrozenSignals F) := do
  let training := caseIds.filter fun other => other ≠ caseId
  if caseId ∈ training ∨ training.length ≠ 31 then
    throw (.governance "leave-one-case-out fold retained the held-out case")
  let signals ← LABELS.mapM (frozenSignal r cases training caseId)
  return (caseId, signals)

/-- The function `_frozen_thresholds_loo`. -/
def frozenThresholdsLoo (cases : Cases) : Except Raised (List (String × FrozenSignals F)) := do
  let caseIds := sortTexts (cases.map Prod.fst)
  if caseIds.length ≠ 32 then
    throw (.governance "separability probe requires exactly 32 cases")
  caseIds.mapM (frozenCase r cases caseIds)

/-! ### Offsets -/

inductive Rule
  | p99
  | quantum
deriving DecidableEq

/-- How far a signal is above its thresholds. -/
structure OffsetCell (F : Type) where
  kind : Kind
  field : String
  service : Service
  isTrueFamily : Bool
  healthyMedian : F
  faultMax : F
  incidentExcess : F
  healthyP99 : F
  quantum : F
  p99Threshold : F
  quantumThreshold : F
  excessOverP99ThresholdMultiple : Option F
  excessOverQuantumThresholdMultiple : Option F
  qualifiesP99 : Bool
  qualifiesQuantum : Bool
  standardizedExcessP99 : F
  standardizedExcessQuantum : F

namespace OffsetCell

variable (cell : OffsetCell F)

def qualifies : Rule → Bool
  | .p99 => cell.qualifiesP99
  | .quantum => cell.qualifiesQuantum

def standardizedExcess : Rule → F
  | .p99 => cell.standardizedExcessP99
  | .quantum => cell.standardizedExcessQuantum

end OffsetCell

structure OffsetRow (F : Type) where
  rootCause : String
  signals : List (Label × OffsetCell F)

/-- A quotient by something positive. -/
def multiple (excess cutoff : F) : Option F :=
  if r.lt (r.ofText "0.0") cutoff then some (r.div excess cutoff) else none

def offsetCell (packet : Document) (frozen : FrozenSignals F) (truth : Labels) (caseId : String)
    (label : Label) : Except Raised (Label × OffsetCell F) := do
  let frozen ← (frozen.lookup label).elim (.error .builtin) .ok
  let healthy ← featureValues r packet label .rootSignal .healthy
  let fault ← featureValues r packet label .rootSignal .fault
  let healthyMedian ← median r healthy
  let faultMax ← maximum r fault
  let excess := r.sub faultMax healthyMedian
  let p99Cutoff := frozen.threshold
  let quantum := frozen.quantum
  let quantumCutoff := frozen.relativeFloor.elim quantum fun floor => r.max quantum floor.floor
  let rootCause ← find truth caseId
  return (label, {
    kind := frozen.kind
    field := frozen.field
    service := frozen.service
    isTrueFamily := label.value = rootCause
    healthyMedian
    faultMax
    incidentExcess := excess
    healthyP99 := frozen.healthyP99
    quantum
    p99Threshold := p99Cutoff
    quantumThreshold := quantumCutoff
    excessOverP99ThresholdMultiple := multiple r excess p99Cutoff
    excessOverQuantumThresholdMultiple := multiple r excess quantumCutoff
    qualifiesP99 := r.le p99Cutoff excess
    qualifiesQuantum := r.le quantumCutoff excess
    standardizedExcessP99 := r.div (r.sub excess p99Cutoff) (r.max p99Cutoff quantum)
    standardizedExcessQuantum := r.div (r.sub excess quantumCutoff) (r.max quantumCutoff quantum) })

def offsetCellKeys : List String :=
  ["kind", "field", "service", "is_true_family", "healthy_median", "fault_max", "incident_excess",
    "healthy_p99", "quantum", "p99_threshold", "quantum_threshold", "excess_over_p99_threshold_multiple",
    "excess_over_quantum_threshold_multiple", "qualifies_p99", "qualifies_quantum",
    "standardized_excess_p99", "standardized_excess_quantum"]

def offsetRow (cases : Cases) (thresholds : List (String × FrozenSignals F)) (truth : Labels)
    (caseId : String) : Except Raised (String × OffsetRow F) := do
  let case ← caseOf cases caseId
  let _ ← validateObservationPacketV3 r case.packet
  let frozen ← find thresholds caseId
  let cells ← LABELS.mapM (offsetCell r case.packet frozen truth caseId)
  assertNoForbiddenInput r (LABELS.flatMap fun label => label.value :: offsetCellKeys) "D1" caseId
  let rootCause ← find truth caseId
  return (caseId, ⟨rootCause, cells⟩)

def offsetTable (cases : Cases) (thresholds : List (String × FrozenSignals F)) (truth : Labels) :
    Except Raised (List (String × OffsetRow F)) :=
  (sortTexts (cases.map Prod.fst)).mapM (offsetRow r cases thresholds truth)

/-- The function `classify_from_offsets`. -/
def classifyFromOffsets (row : OffsetRow F) (rule : Rule) (restrictTo : Option Label) : String :=
  leading r ((row.signals.filter fun entry =>
    (restrictTo.all fun label => entry.1 = label) && entry.2.qualifies rule).map fun entry =>
      (entry.2.standardizedExcess rule, entry.1))

variable {r}

/-! ### The probe and the registry -/

variable (r) in
/-- What the probe keeps of a threshold of the registry. -/
def frozenOf (training : List String) (label : Label) (entry : FeatureThreshold F) : FrozenSignal F where
  kind := entry.kind
  field := entry.field
  service := TARGET_SERVICES label
  quantum := entry.quantum
  healthyDriftCount := entry.healthyDriftCount
  healthyP99 := entry.healthyP99
  absoluteThreshold := r.add entry.healthyP99 entry.quantum
  relativeFloor := entry.relativeFloor
  trainingCaseIds := training
  threshold := entry.threshold

theorem mapM_map_congr {ε α β γ δ : Type} {f : β → Except ε δ} {g : γ → Except ε δ} {as : List α}
    {b : α → β} {c : α → γ} (h : ∀ a ∈ as, f (b a) = g (c a)) :
    (as.map b).mapM f = (as.map c).mapM g := by
  induction as with
  | nil => rfl
  | cons a as ih =>
    obtain ⟨hfirst, hrest⟩ := List.forall_mem_cons.1 h
    rw [List.map_cons, List.map_cons, List.mapM_cons, List.mapM_cons, hfirst, ih hrest]

/-- The training cases of a case. -/
def trainingOf (cases : Cases) (caseId : String) : List String :=
  (sortTexts (cases.map Prod.fst)).filter fun other => other ≠ caseId

theorem trainingOf_eq (cases : Cases) (caseId : String) :
    trainingOf cases caseId = ((sortCases cases).filter fun entry => entry.1 ≠ caseId).map Prod.fst := by
  rw [trainingOf, ← keys_sortCases, List.filter_map]
  rfl

variable {cases : Cases}

theorem trainingDrifts_eq (h : (cases.map Prod.fst).Nodup) (caseId : String) (label : Label) :
    trainingDrifts r cases (trainingOf cases caseId) label =
      healthyDrifts r (otherPackets cases caseId) label .rootSignal := by
  have hsame : ∀ entry ∈ (sortCases cases).filter fun entry => entry.1 ≠ caseId,
      (do
        let case ← caseOf cases entry.1
        driftsOf r label .rootSignal case.packet) = driftsOf r label .rootSignal entry.2.packet := by
    intro entry hentry
    have hmem : entry ∈ cases := (perm_sortCases cases).mem_iff.1 (List.mem_filter.1 hentry).1
    rw [caseOf_eq_ok h hmem]
    rfl
  rw [trainingDrifts, healthyDrifts, trainingOf_eq, otherPackets, mapM_map_congr hsame]

variable {entry : String × Case}

/-- **A threshold of the probe is one of the registry.** -/
theorem frozenSignal_eq (h : Dataset r cases) (hentry : entry ∈ cases) (label : Label) :
    frozenSignal r cases (trainingOf cases entry.1) entry.1 label =
      (featureThreshold r (otherPackets cases entry.1) entry.2.packet label .rootSignal).map
        fun threshold => (label, frozenOf r (trainingOf cases entry.1) label threshold) := by
  have hlength : (otherPackets cases entry.1).length = 31 :=
    length_otherPackets h (List.mem_map_of_mem hentry)
  unfold frozenSignal featureThreshold pooledThreshold
  rw [trainingDrifts_eq h.nodup]
  cases hdrifts : healthyDrifts r (otherPackets cases entry.1) label .rootSignal with
  | error err => rfl
  | ok drifts =>
    have hcount : drifts.length = 31 * 4 := by
      rw [length_of_healthyDrifts hdrifts, hlength]
    have hsize : ¬drifts.length ≠ 31 * 4 := not_not_intro hcount
    change (if drifts.length ≠ 31 * 4 then _ else _) = _
    rw [if_neg hsize]
    dsimp only [bind, Except.bind]
    cases nearestRank r drifts (r.ofText DETERMINISTIC_PERCENTILE) with
    | error err => rfl
    | ok p99 =>
      cases RELATIVE_ROOT_SIGNAL_FLOORS label with
      | none => rfl
      | some fraction =>
        rw [caseOf_eq_ok h.nodup hentry]
        dsimp only [pure, Except.pure]
        cases relativeFloor r entry.2.packet label fraction <;> rfl

variable {label : Label} {caseId : String}

theorem fst_of_frozenSignal (h : Dataset r cases) (hentry : entry ∈ cases)
    {signal : Label × FrozenSignal F}
    (hsignal : frozenSignal r cases (trainingOf cases entry.1) entry.1 label = .ok signal) :
    signal.1 = label := by
  rw [frozenSignal_eq h hentry] at hsignal
  cases hthreshold :
    featureThreshold r (otherPackets cases entry.1) entry.2.packet label .rootSignal with
  | error err =>
    rw [hthreshold] at hsignal
    cases hsignal
  | ok threshold =>
    rw [hthreshold] at hsignal
    rw [← Except.ok.inj hsignal]

theorem fst_of_frozenCase {caseIds : List String} {row : String × FrozenSignals F}
    (h : frozenCase r cases caseIds caseId = .ok row) : row.1 = caseId := by
  obtain ⟨-, h⟩ := check_eq_ok.1 h
  obtain ⟨signals, -, h⟩ := bind_eq_ok.1 h
  rw [← Except.ok.inj h]

variable {table : List (String × FrozenSignals F)}

/-- **The thresholds of the probe are those of the registry.** -/
theorem exists_frozen (h : Dataset r cases) (htable : frozenThresholdsLoo r cases = .ok table)
    (hentry : entry ∈ cases) (label : Label) :
    ∃ row threshold, table.lookup entry.1 = some row ∧
      row.lookup label = some (frozenOf r (trainingOf cases entry.1) label threshold) ∧
      featureThreshold r (otherPackets cases entry.1) entry.2.packet label .rootSignal =
        .ok threshold := by
  obtain ⟨-, htable⟩ := check_eq_ok.1 htable
  have hkey : entry.1 ∈ sortTexts (cases.map Prod.fst) :=
    List.mem_mergeSort.2 (List.mem_map_of_mem hentry)
  obtain ⟨row, hrow, hcase⟩ := exists_lookup_of_mapM htable (fun _ _ => fst_of_frozenCase) hkey
  obtain ⟨-, hcase⟩ := check_eq_ok.1 hcase
  obtain ⟨signals, hsignals, hcase⟩ := bind_eq_ok.1 hcase
  obtain rfl := (Prod.mk.inj (Except.ok.inj hcase)).2
  obtain ⟨signal, hlookup, hsignal⟩ :=
    exists_lookup_of_mapM hsignals (fun _ _ => fst_of_frozenSignal h hentry) (mem_LABELS label)
  change frozenSignal r cases (trainingOf cases entry.1) entry.1 label = _ at hsignal
  rw [frozenSignal_eq h hentry] at hsignal
  cases hthreshold :
    featureThreshold r (otherPackets cases entry.1) entry.2.packet label .rootSignal with
  | error err =>
    rw [hthreshold] at hsignal
    cases hsignal
  | ok threshold =>
    rw [hthreshold] at hsignal
    obtain rfl := (Prod.mk.inj (Except.ok.inj hsignal)).2
    exact ⟨signals, threshold, hrow, hlookup, rfl⟩

/-- The probe computes its thresholds where the samples of the signals are numbered with integers. -/
theorem exists_frozenThresholdsLoo (hranked : Ranked r) (h : Dataset r cases)
    (hnumbered : ∀ entry ∈ cases, ∀ label, Numbered r entry.2.packet (ROOT_SIGNAL_FEATURES label).kind) :
    ∃ table, frozenThresholdsLoo r cases = .ok table := by
  have hcase : ∀ caseId ∈ sortTexts (cases.map Prod.fst), ∃ row,
      frozenCase r cases (sortTexts (cases.map Prod.fst)) caseId = .ok row := by
    intro caseId hmem
    have hmem : caseId ∈ cases.map Prod.fst := List.mem_mergeSort.1 hmem
    obtain ⟨entry, hentry, rfl⟩ := List.mem_map.1 hmem
    have hlength := length_otherPackets h hmem
    have hsignal : ∀ label ∈ LABELS, ∃ signal,
        frozenSignal r cases (trainingOf cases entry.1) entry.1 label = .ok signal := by
      intro label _
      have hpackets : ∀ packet ∈ entry.2.packet :: otherPackets cases entry.1,
          Accepted r packet ∧ Numbered r packet (signalOf label .rootSignal).kind := by
        refine List.forall_mem_cons.2 ⟨?_, fun packet hpacket => ?_⟩
        · exact ⟨(h.sound entry hentry).packet, hnumbered entry hentry label⟩
        · obtain ⟨other, hother, rfl⟩ := exists_of_mem_otherPackets hpacket
          exact ⟨(h.sound other hother).packet, hnumbered other hother label⟩
      obtain ⟨threshold, hthreshold⟩ := exists_featureThreshold hranked hlength hpackets
      exact ⟨_, (frozenSignal_eq h hentry label).trans (congrArg _ hthreshold)⟩
    obtain ⟨signals, hsignals⟩ := exists_mapM_eq_ok hsignal
    have htraining : (trainingOf cases entry.1).length = 31 := by
      rw [trainingOf_eq, List.length_map, ← hlength, otherPackets, List.length_map]
    have hout : entry.1 ∉ trainingOf cases entry.1 := fun hin => (mem_training.1 hin).2 rfl
    exact ⟨_, check_eq_ok.2 ⟨not_or_intro hout (not_not_intro htraining),
      bind_eq_ok.2 ⟨signals, hsignals, rfl⟩⟩⟩
  obtain ⟨table, htable⟩ := exists_mapM_eq_ok hcase
  have hlength : (sortTexts (cases.map Prod.fst)).length = 32 := by
    rw [sortTexts, List.length_mergeSort, List.length_map, h.length]
  exact ⟨table, check_eq_ok.2 ⟨not_not_intro hlength, htable⟩⟩

/-- **The probe and the registry agree** on every label of every case, where the samples that are read
are numbered with integers. -/
theorem thresholds_agree (hranked : Ranked r) {document : Document} {cases : Cases}
    (h : scenarioCasesV3 r document = .ok cases)
    (hnumbered : ∀ entry ∈ cases, Readable r entry.2.packet) :
    ∃ registry table, buildDeterministicThresholdsV3 r document = .ok registry ∧
      frozenThresholdsLoo r cases = .ok table ∧ ∀ caseId ∈ cases.map Prod.fst, ∀ label,
        ∃ thresholds signal, cell registry caseId label = some thresholds ∧
          cell table caseId label = some signal ∧
          signal.threshold = thresholds.rootSignal.threshold ∧
          signal.relativeFloor = thresholds.rootSignal.relativeFloor := by
  have hdataset := dataset_of_scenarioCases h
  obtain ⟨registry, hregistry⟩ := exists_buildDeterministicThresholdsV3 hranked h hnumbered
  obtain ⟨table, htable⟩ := exists_frozenThresholdsLoo hranked hdataset
    fun entry hentry label => hnumbered entry hentry label .rootSignal
  refine ⟨registry, table, hregistry, htable, fun caseId hcaseId label => ?_⟩
  obtain ⟨entry, hentry, rfl⟩ := List.mem_map.1 hcaseId
  obtain ⟨thresholds, hthresholds⟩ := exists_registered h hregistry hentry label
  obtain ⟨row, threshold, hrow, hsignal, hthreshold⟩ := exists_frozen hdataset htable hentry label
  -- Both thresholds are computed from the same packets.
  have hsame : thresholds.rootSignal = threshold := by
    have hroot := hthresholds.rootSignal
    rw [hthreshold] at hroot
    exact (Except.ok.inj hroot).symm
  exact ⟨thresholds, _, hthresholds.found, cell_eq_some hrow hsignal, by rw [hsame]; rfl,
    by rw [hsame]; rfl⟩

theorem proper_default : ({} : Samples).Proper where
  length _ := rfl
  numbering _ _ _ := .inl rfl
  windows n w hw := by
    rw [List.eq_of_mem_replicate hw]
    exact ⟨by decide, rfl⟩

/-- One of a few measured values. -/
def measured (n : ℕ) : String := ["0.0", "1.0", "2.0", "3.0", "4.0", "5.0", "6.0"].getD (n % 7) "0.0"

/-- A window where all services work and have errors. -/
def loadedWindow (n : ℕ) : PublicWindow where
  recordedAt := "t"
  cpuCores := measured n
  workingSetBytes := measured (2 * n)
  consumerLag := measured (3 * n)
  consumerRecordLag := measured (4 * n)
  consumerPollLagSeconds := measured (5 * n)
  traceActivity _ := n
  traceErrors _ := { connectionErrorCount := n, errorCount := 2 * n }

/-- Trials of all labels whose fault windows are not like the healthy ones. -/
def loaded : Samples where
  label n := ROOT_CAUSE_LABELS.getD (n % 6) .adHighCpu
  windows n := List.replicate 5 (loadedWindow n) ++ List.replicate 2 (loadedWindow (3 * n + 1))

theorem proper_loaded : loaded.Proper where
  length _ := rfl
  numbering _ _ _ := .inl rfl
  windows n w hw := by
    have hnamed : "t" ≠ "" := by decide
    rcases List.mem_append.1 hw with hw | hw
    · rw [List.eq_of_mem_replicate hw]
      exact ⟨hnamed, rfl⟩
    · rw [List.eq_of_mem_replicate hw]
      exact ⟨hnamed, rfl⟩

theorem thresholds_agree_integers : ∃ cases registry table,
    scenarioCasesV3 rationals loaded.document = .ok cases ∧
      buildDeterministicThresholdsV3 rationals loaded.document = .ok registry ∧
      frozenThresholdsLoo rationals cases = .ok table ∧ ∀ caseId ∈ cases.map Prod.fst, ∀ label,
        ∃ thresholds signal, cell registry caseId label = some thresholds ∧
          cell table caseId label = some signal ∧
          signal.threshold = thresholds.rootSignal.threshold ∧
          signal.relativeFloor = thresholds.rootSignal.relativeFloor := by
  obtain ⟨cases, hcases, hall, -⟩ := Samples.exists_cases proper_loaded
  have hnumbered : ∀ entry ∈ cases, Readable rationals entry.2.packet := by
    intro entry hentry label feature
    obtain ⟨n, -, hn⟩ := hall entry hentry
    exact hn.numbered fun _ => rfl
  obtain ⟨registry, table, hagree⟩ := thresholds_agree ranked_rationals hcases hnumbered
  exact ⟨cases, registry, table, hcases, hagree⟩

/-- Trials whose trace activity is numbered with floats. -/
def floatActivity : Samples where
  index _ kind i := if kind = .traceActivity then floatIndex i else .int i

theorem proper_floatActivity : floatActivity.Proper where
  length _ := rfl
  numbering n kind i := by
    by_cases h : kind = .traceActivity
    · exact .inr (if_pos h)
    · exact .inl (if_neg h)
  windows n w hw := by
    rw [List.eq_of_mem_replicate hw]
    exact ⟨by decide, rfl⟩

/-- The registry reads the trace activity, and the probe does not: of an accepted dataset whose trace
activity is numbered with floats, the probe has every threshold and the registry none. -/
theorem registry_missing : ∃ cases table,
    scenarioCasesV3 rationals floatActivity.document = .ok cases ∧
      frozenThresholdsLoo rationals cases = .ok table ∧
      (∀ entry ∈ cases, ∀ label, (cell table entry.1 label).isSome) ∧
      ∀ registry, buildDeterministicThresholdsV3 rationals floatActivity.document ≠ .ok registry := by
  obtain ⟨cases, hcases, hall, hsome⟩ := Samples.exists_cases proper_floatActivity
  have hdataset := dataset_of_scenarioCases hcases
  have hnumbered : ∀ entry ∈ cases, ∀ label,
      Numbered rationals entry.2.packet (ROOT_SIGNAL_FEATURES label).kind := by
    intro entry hentry label
    obtain ⟨n, -, hn⟩ := hall entry hentry
    have hkind : (ROOT_SIGNAL_FEATURES label).kind ≠ .traceActivity := by
      cases label <;> decide
    refine hn.numbered fun i => ?_
    have hindex : floatActivity.index n (ROOT_SIGNAL_FEATURES label).kind i = .int i := if_neg hkind
    rw [hindex]
    rfl
  obtain ⟨table, htable⟩ := exists_frozenThresholdsLoo ranked_rationals hdataset hnumbered
  refine ⟨cases, table, hcases, htable, fun entry hentry label => ?_, fun registry hregistry => ?_⟩
  · obtain ⟨row, threshold, hrow, hsignal, -⟩ := exists_frozen hdataset htable hentry label
    rw [cell_eq_some hrow hsignal]
    rfl
  · obtain ⟨entry, hentry, hn⟩ := hsome 0 (by omega)
    exact hn.not_numbered proper_floatActivity rfl
      (readable_of_build hcases hregistry hentry .adHighCpu .traceActivity)

/-! ### The two classifiers -/

/-- What decides a classification is the same. -/
def SameScore (entry : Label × OffsetCell F) (other : Label × RootSignal F) : Prop :=
  entry.1 = other.1 ∧ entry.2.qualifiesQuantum = other.2.qualifies ∧
    entry.2.standardizedExcessQuantum = other.2.standardizedExcess

variable {features : RootSignalFeatures F}

/-- **Rows with the same scores name the same label**, ties included. -/
theorem classify_eq_of_sameScore {row : OffsetRow F}
    (h : List.Forall₂ SameScore row.signals features.labels) :
    classifyFromOffsets r row .quantum none = classifyRootSignal r features := by
  obtain ⟨rootCause, signals⟩ := row
  obtain ⟨caseId, labels⟩ := features
  change List.Forall₂ SameScore signals labels at h
  have hsame : (signals.filter fun entry => entry.2.qualifiesQuantum).map
      (fun entry => (entry.2.standardizedExcessQuantum, entry.1)) =
      (labels.filter fun entry => entry.2.qualifies).map
        fun entry => (entry.2.standardizedExcess, entry.1) := by
    induction h with
    | nil => rfl
    | @cons entry other entries others hfirst _ ih =>
      obtain ⟨hlabel, hqualifies, hscore⟩ := hfirst
      rw [List.filter_cons, List.filter_cons, hqualifies]
      split
      · rw [List.map_cons, List.map_cons, ih, hlabel, hscore]
      · exact ih
  exact congrArg (leading r) hsame

variable {packet : Document}

theorem median_of_relativeFloor {fraction : String} {floor : RelativeFloor F}
    (h : relativeFloor r packet label fraction = .ok floor) {healthy : List F} {level : F}
    (hhealthy : featureValues r packet label .rootSignal .healthy = .ok healthy)
    (hlevel : median r healthy = .ok level) : floor.floor = r.mul level (r.ofText fraction) := by
  obtain ⟨values, hvalues, h⟩ := bind_eq_ok.1 h
  rw [hhealthy] at hvalues
  obtain rfl := Except.ok.inj hvalues
  obtain ⟨found, hfound, h⟩ := bind_eq_ok.1 h
  rw [hlevel] at hfound
  obtain rfl := Except.ok.inj hfound
  rw [← Except.ok.inj h]

variable {others : List Document} {threshold : FeatureThreshold F}

theorem quantum_of_pooledThreshold {feature : Feature} {entry : FeatureThreshold F}
    (h : pooledThreshold r others label feature = .ok entry) :
    entry.quantum = r.ofText (signalOf label feature).quantum ∧ entry.relativeFloor = none := by
  obtain ⟨drifts, -, h⟩ := bind_eq_ok.1 h
  obtain ⟨p99, -, h⟩ := bind_eq_ok.1 h
  rw [← Except.ok.inj h]
  exact ⟨rfl, rfl⟩

theorem floor_of_rootThreshold
    (h : featureThreshold r others packet label .rootSignal = .ok threshold) {healthy : List F}
    {level : F} (hhealthy : featureValues r packet label .rootSignal .healthy = .ok healthy)
    (hlevel : median r healthy = .ok level) :
    threshold.quantum = r.ofText (ROOT_SIGNAL_FEATURES label).quantum ∧
      threshold.relativeFloor.map RelativeFloor.floor =
        (RELATIVE_ROOT_SIGNAL_FLOORS label).map fun fraction => r.mul level (r.ofText fraction) := by
  cases hfraction : RELATIVE_ROOT_SIGNAL_FLOORS label with
  | none =>
    rw [rootThreshold_eq hfraction] at h
    obtain ⟨hquantum, hfloor⟩ := quantum_of_pooledThreshold h
    exact ⟨hquantum, by rw [hfloor]; rfl⟩
  | some fraction =>
    obtain ⟨entry, floor, hentry, hfloor, rfl⟩ := (rootThreshold_eq_ok_iff hfraction).1 h
    exact ⟨(quantum_of_pooledThreshold hentry).1,
      congrArg some (median_of_relativeFloor hfloor hhealthy hlevel)⟩

variable {truth : Labels}

/-- **A cell of the table scores as the other probe does.** -/
theorem exists_offsetCell {entry : Label × RootSignal F}
    (hentry : rootSignal r packet label = .ok entry)
    (hthreshold : featureThreshold r others packet label .rootSignal = .ok threshold)
    {training : List String} {frozen : FrozenSignals F}
    (hfrozen : frozen.lookup label = some (frozenOf r training label threshold))
    {rootCause : String} (htruth : find truth caseId = .ok rootCause) :
    ∃ cell, offsetCell r packet frozen truth caseId label = .ok cell ∧ SameScore cell entry := by
  obtain ⟨healthy, hhealthy, hentry⟩ := bind_eq_ok.1 hentry
  obtain ⟨fault, hfault, hentry⟩ := bind_eq_ok.1 hentry
  obtain ⟨level, hlevel, hentry⟩ := bind_eq_ok.1 hentry
  obtain ⟨top, htop, hentry⟩ := bind_eq_ok.1 hentry
  obtain ⟨hquantum, hfloor⟩ := floor_of_rootThreshold hthreshold hhealthy hlevel
  -- Both probes compare with the quantum, or with the floor where it is larger.
  have hcutoff : (threshold.relativeFloor.elim threshold.quantum fun floor =>
      r.max threshold.quantum floor.floor) =
      ((RELATIVE_ROOT_SIGNAL_FLOORS label).map fun fraction => r.mul level (r.ofText fraction)).elim
        (r.ofText (ROOT_SIGNAL_FEATURES label).quantum)
        (r.max (r.ofText (ROOT_SIGNAL_FEATURES label).quantum)) := by
    rw [← hfloor, ← hquantum]
    cases threshold.relativeFloor <;> rfl
  have hfind := congrArg (fun found => Option.elim found (Except.error Raised.builtin) Except.ok) hfrozen
  refine ⟨_, bind_eq_ok.2 ⟨_, hfind, bind_eq_ok.2 ⟨healthy, hhealthy, bind_eq_ok.2 ⟨fault, hfault,
    bind_eq_ok.2 ⟨level, hlevel, bind_eq_ok.2 ⟨top, htop, bind_eq_ok.2 ⟨rootCause, htruth, rfl⟩⟩⟩⟩⟩⟩, ?_⟩
  rw [← Except.ok.inj hentry]
  have hscore : ∀ {cutoff cutoff' quantum quantum' : F}, cutoff = cutoff' → quantum = quantum' →
      r.div (r.sub (r.sub top level) cutoff) (r.max cutoff quantum) =
        r.div (r.sub (r.sub top level) cutoff') (r.max cutoff' quantum') := by
    rintro _ _ _ _ rfl rfl
    rfl
  exact ⟨rfl, congrArg (fun cutoff => r.le cutoff (r.sub top level)) hcutoff, hscore hcutoff hquantum⟩

theorem exists_mapM_forall₂ {ε α β γ : Type} {f : α → Except ε β} {g : α → Except ε γ} {R : β → γ → Prop}
    {as : List α} {cs : List γ} (h : as.mapM g = .ok cs)
    (hfollow : ∀ a c, g a = .ok c → ∃ b, f a = .ok b ∧ R b c) :
    ∃ bs, as.mapM f = .ok bs ∧ List.Forall₂ R bs cs := by
  have hall := mapM_eq_ok.1 h
  clear h
  induction hall with
  | nil => exact ⟨[], rfl, List.Forall₂.nil⟩
  | @cons a c as cs hac _ ih =>
    obtain ⟨b, hb, hfirst⟩ := hfollow a c hac
    obtain ⟨bs, hbs, hrest⟩ := ih
    exact ⟨b :: bs, mapM_eq_ok.2 (List.Forall₂.cons hb (mapM_eq_ok.1 hbs)),
      List.Forall₂.cons hfirst hrest⟩

theorem openKey_offsetCellKeys :
    (LABELS.flatMap fun label => label.value :: offsetCellKeys).all openKey = true :=
  openKey_labelled (by decide +kernel)

/-- The row of a case scores as the features of its packet do. -/
theorem exists_offsetRow (hfolds : Folds r) (h : Dataset r cases)
    (htable : frozenThresholdsLoo r cases = .ok table) (hentry : entry ∈ cases)
    (hfeatures : rootSignalFeatures r entry.2.packet = .ok features)
    (htruth : (truth.lookup entry.1).isSome) :
    ∃ row, offsetRow r cases table truth entry.1 = .ok (entry.1, row) ∧
      List.Forall₂ SameScore row.signals features.labels := by
  obtain ⟨rootCause, hroot⟩ := Option.isSome_iff_exists.1 htruth
  have hroot : find truth entry.1 = .ok rootCause := by
    rw [find, hroot]
    rfl
  obtain ⟨frozen, threshold, hrow, -, -⟩ := exists_frozen h htable hentry .adHighCpu
  have hfind : find table entry.1 = .ok frozen := by
    rw [find, hrow]
    rfl
  obtain ⟨-, -, hfeatures⟩ := bind_eq_ok.1 hfeatures
  obtain ⟨entries, hentries, hfeatures⟩ := bind_eq_ok.1 hfeatures
  obtain ⟨-, -, hfeatures⟩ := bind_eq_ok.1 hfeatures
  obtain rfl := Except.ok.inj hfeatures
  have hcell : ∀ label signal, rootSignal r entry.2.packet label = .ok signal →
      ∃ cell, offsetCell r entry.2.packet frozen truth entry.1 label = .ok cell ∧
        SameScore cell signal := by
    intro label signal hsignal
    obtain ⟨row, threshold, hrow', hlookup, hthreshold⟩ := exists_frozen h htable hentry label
    rw [hrow] at hrow'
    obtain rfl := Option.some.inj hrow'
    exact exists_offsetCell hsignal hthreshold hlookup hroot
  obtain ⟨cells, hcells, hsame⟩ := exists_mapM_forall₂ hentries hcell
  have hvalid := validate_eq_ok_iff.2 ⟨(h.sound entry hentry).packet, rfl⟩
  exact ⟨⟨rootCause, cells⟩, bind_eq_ok.2 ⟨entry.2, caseOf_eq_ok h.nodup hentry, bind_eq_ok.2 ⟨_, hvalid,
    bind_eq_ok.2 ⟨frozen, hfind, bind_eq_ok.2 ⟨cells, hcells, bind_eq_ok.2
      ⟨(), assertNoForbiddenInput_eq_ok hfolds openKey_offsetCellKeys _ _, bind_eq_ok.2
        ⟨rootCause, hroot, rfl⟩⟩⟩⟩⟩⟩, hsame⟩

theorem fst_of_offsetRow {row : String × OffsetRow F}
    (h : offsetRow r cases table truth caseId = .ok row) : row.1 = caseId := by
  obtain ⟨case, -, h⟩ := bind_eq_ok.1 h
  obtain ⟨-, -, h⟩ := bind_eq_ok.1 h
  obtain ⟨frozen, -, h⟩ := bind_eq_ok.1 h
  obtain ⟨cells, -, h⟩ := bind_eq_ok.1 h
  obtain ⟨-, -, h⟩ := bind_eq_ok.1 h
  obtain ⟨rootCause, -, h⟩ := bind_eq_ok.1 h
  rw [← Except.ok.inj h]

/-- **A row of the table says what the other probe says of the packet**, where the samples of the signals
are numbered with integers. -/
theorem classifications_agree (hranked : Ranked r) (hfolds : Folds r) {document : Document}
    {cases : Cases} (h : scenarioCasesV3 r document = .ok cases)
    (hnumbered : ∀ entry ∈ cases, ∀ label, Numbered r entry.2.packet (ROOT_SIGNAL_FEATURES label).kind)
    {truth : Labels} (htruth : ∀ entry ∈ cases, (truth.lookup entry.1).isSome) :
    ∃ table rows, frozenThresholdsLoo r cases = .ok table ∧ offsetTable r cases table truth = .ok rows ∧
      ∀ entry ∈ cases, ∃ row features, rows.lookup entry.1 = some row ∧
        rootSignalFeatures r entry.2.packet = .ok features ∧
        classifyFromOffsets r row .quantum none = classifyRootSignal r features := by
  have hdataset := dataset_of_scenarioCases h
  obtain ⟨table, htable⟩ := exists_frozenThresholdsLoo hranked hdataset hnumbered
  have hfeatures : ∀ entry ∈ cases, ∃ features, rootSignalFeatures r entry.2.packet = .ok features :=
    fun entry hentry =>
      exists_rootSignalFeatures hfolds (hdataset.sound entry hentry).packet (hnumbered entry hentry)
  obtain ⟨rows, hrows⟩ : ∃ rows, offsetTable r cases table truth = .ok rows := by
    refine exists_mapM_eq_ok fun caseId hmem => ?_
    have hmem : caseId ∈ cases.map Prod.fst := List.mem_mergeSort.1 hmem
    obtain ⟨entry, hentry, rfl⟩ := List.mem_map.1 hmem
    obtain ⟨features, hfeature⟩ := hfeatures entry hentry
    obtain ⟨row, hrow, -⟩ :=
      exists_offsetRow hfolds hdataset htable hentry hfeature (htruth entry hentry)
    exact ⟨_, hrow⟩
  refine ⟨table, rows, htable, hrows, fun entry hentry => ?_⟩
  obtain ⟨features, hfeature⟩ := hfeatures entry hentry
  obtain ⟨row, hrow, hsame⟩ :=
    exists_offsetRow hfolds hdataset htable hentry hfeature (htruth entry hentry)
  have hkey : entry.1 ∈ sortTexts (cases.map Prod.fst) :=
    List.mem_mergeSort.2 (List.mem_map_of_mem hentry)
  obtain ⟨found, hfound, hrow'⟩ := exists_lookup_of_mapM hrows (fun _ _ => fst_of_offsetRow) hkey
  rw [hrow] at hrow'
  obtain rfl := (Prod.mk.inj (Except.ok.inj hrow')).2
  exact ⟨row, features, hfound, hfeature, classify_eq_of_sameScore hsame⟩

/-- The labels that the cases carry. -/
def sealedLabels (cases : Cases) : Labels :=
  cases.map fun entry => (entry.1, entry.2.groundTruth.rootCause)

theorem isSome_lookup_sealedLabels (hentry : entry ∈ cases) :
    ((sealedLabels cases).lookup entry.1).isSome := by
  have hkey : entry.1 ∈ (sealedLabels cases).map Prod.fst := by
    rw [sealedLabels, List.map_map]
    exact List.mem_map_of_mem hentry
  obtain ⟨label, hlabel⟩ := find_eq_ok_of_mem hkey
  unfold find at hlabel
  cases hlookup : (sealedLabels cases).lookup entry.1 with
  | none =>
    rw [hlookup] at hlabel
    cases hlabel
  | some label => rfl

theorem folds_rationals : Folds rationals := fun _ _ => String.toList_ofList

theorem classifications_agree_integers : ∃ cases table rows,
    scenarioCasesV3 rationals loaded.document = .ok cases ∧
      frozenThresholdsLoo rationals cases = .ok table ∧
      offsetTable rationals cases table (sealedLabels cases) = .ok rows ∧
      ∀ entry ∈ cases, ∃ row features, rows.lookup entry.1 = some row ∧
        rootSignalFeatures rationals entry.2.packet = .ok features ∧
        classifyFromOffsets rationals row .quantum none = classifyRootSignal rationals features := by
  obtain ⟨cases, hcases, hall, -⟩ := Samples.exists_cases proper_loaded
  have hnumbered : ∀ entry ∈ cases, ∀ label,
      Numbered rationals entry.2.packet (ROOT_SIGNAL_FEATURES label).kind := by
    intro entry hentry label
    obtain ⟨n, -, hn⟩ := hall entry hentry
    exact hn.numbered fun _ => rfl
  obtain ⟨table, rows, hagree⟩ := classifications_agree ranked_rationals folds_rationals hcases hnumbered
    fun _ => isSome_lookup_sealedLabels
  exact ⟨cases, table, rows, hcases, hagree⟩

/-- Trials of which the first one is numbered with floats. -/
def floatFirst : Samples where
  index n _ i := if n = 0 then floatIndex i else .int i

theorem proper_floatFirst : floatFirst.Proper where
  length _ := rfl
  numbering n kind i := by
    by_cases h : n = 0
    · exact .inr (if_pos h)
    · exact .inl (if_neg h)
  windows n w hw := by
    rw [List.eq_of_mem_replicate hw]
    exact ⟨by decide, rfl⟩

/-- The table reads all the cases, and the other probe only one: of an accepted dataset with one case
whose samples are numbered with floats there is no table, while another case has its features. -/
theorem table_missing : ∃ cases, scenarioCasesV3 rationals floatFirst.document = .ok cases ∧
    (∀ table, frozenThresholdsLoo rationals cases ≠ .ok table) ∧
    ∃ entry ∈ cases, ∃ features, rootSignalFeatures rationals entry.2.packet = .ok features := by
  obtain ⟨cases, hcases, -, hsome⟩ := Samples.exists_cases proper_floatFirst
  have hdataset := dataset_of_scenarioCases hcases
  obtain ⟨first, hfirst, hn⟩ := hsome 0 (by omega)
  obtain ⟨second, hsecond, hm⟩ := hsome 1 (by omega)
  refine ⟨cases, hcases, fun table htable => ?_, second, hsecond, ?_⟩
  · obtain ⟨other, hother, hne⟩ := exists_other hdataset hfirst
    obtain ⟨row, threshold, -, -, hthreshold⟩ := exists_frozen hdataset htable hother .adHighCpu
    obtain ⟨pooled, hpooled, -⟩ := bind_eq_ok.1 hthreshold
    exact hn.not_numbered proper_floatFirst rfl (numbered_of_pooledThreshold hpooled
      (mem_otherPackets hfirst hne) (hdataset.sound first hfirst).packet)
  · exact exists_rootSignalFeatures folds_rationals (hdataset.sound second hsecond).packet
      fun label => hm.numbered fun _ => rfl

end MetricV3
