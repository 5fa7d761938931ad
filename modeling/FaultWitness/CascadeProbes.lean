/-
**The probe of cascades.**

When a fault is injected into one service, do the services that call it show errors of their own?  For
each case `faultwitness_dev/g03_cascade.py` compares the errors of every service under fault with those
while healthy, and a case shows a cascade if a service that is never injected has more of them.

The text of the method speaks of the largest sum of two counters; the code adds the largest values of
each, which may stand in different windows.  And the question is about the callers of the injected
service, while the code looks at all services that are never injected.

The digest of the dataset, the time and the fixed texts of the report are left out.

Main definitions:

* `MetricV3.caseRow`, `MetricV3.runCascadeProbe` — the row of a case, and the probe;
* `MetricV3.sumOfPeaks`, `MetricV3.peakOfSums` — what the code compares, and what its text says;
* `MetricV3.Rises` — a service has more errors under fault.

Main results:

* `MetricV3.exists_caseRow` — **every case of an accepted dataset has its row**, which compares sums of
  peaks;
* `MetricV3.excess_as_stated_iff` — **when a row says what the text says**;
* `MetricV3.cascadeExists_iff`, `MetricV3.cascade_by_callers_iff` — **when the probe answers its
  question**.
-/

import FaultWitness.LeakageProbes

set_option autoImplicit false

namespace MetricV3

open Python FlagDocuments

/-! ### Services -/

/-- The services that call an injected one. -/
def UPSTREAM_OF : Service → List Service
  | .productCatalog => [.frontend, .recommendation]
  | .payment => [.frontend, .cart]
  | .checkout => [.frontend, .cart]
  | _ => []

def injectedServices : List Service := ROOT_CAUSE_LABELS.map TARGET_SERVICES

def uninjectedServices : List Service :=
  V3_TRACE_QUERY_SERVICES.filter fun service => service ∉ injectedServices

def cascadeCandidateFamilies : List Label :=
  LABELS.filter fun label =>
    (UPSTREAM_OF (TARGET_SERVICES label)).any fun service => service ∈ V3_TRACE_QUERY_SERVICES

/-- The function `sorted`, on services. -/
def sortServices (services : List Service) : List Service :=
  services.mergeSort fun a b => a.value ≤ b.value

def sortLabels (labels : List Label) : List Label := labels.mergeSort fun a b => a.value ≤ b.value

/-! ### The samples of a phase -/

variable {F : Type} (r : Runtime F)

/-- The phases of the windows of a packet. -/
def windowPhases (packet : Document) : Except Raised (List String) := do
  let windows ← member packet "windows"
  (items windows).mapM fun item => do
    let window ← (mapping item).elim (.error .builtin) .ok
    let phase ← member window "phase"
    return r.str phase

/-- The function `_phase_samples`. -/
def phaseSamples (packet : Document) (kind : Kind) (phase : Phase) : Except Raised (List Document) := do
  let windows ← windowPhases r packet
  match (groups packet).find? fun group => r.str (get group "kind") = kind.value with
  | none => throw (.governance ("packet lacks evidence kind: " ++ kind.value))
  | some group =>
    match get group "samples" with
    | .arr samples =>
      if samples.length ≠ windows.length then
        throw (.governance
          ("evidence kind " ++ kind.value ++ " does not align with the window list"))
      -- The samples carry no phase: it comes from the window at the same place.
      let own := (samples.zip windows).filter fun entry => entry.2 = phase.value
      return own.filterMap fun entry => mapping entry.1
    | _ =>
      throw (.governance
        ("evidence kind " ++ kind.value ++ " does not align with the window list"))

/-- The function `max`, on integers. -/
def peak {α : Type} [LinearOrder α] [Zero α] : List α → α
  | [] => 0
  | x :: xs => xs.foldl max x

/-- The largest value of a counter of a service. -/
def maxCount (kind : Kind) (field : String) (service : Service) (samples : List Document) :
    Except Raised ℤ := do
  let counts ← samples.mapM fun sample => do
    let j ← reading kind service field sample
    return r.int j
  if counts = [] then throw .builtin
  else return peak counts

/-- The largest number of traces under fault, if there are samples. -/
def faultTraces (service : Service) (activity : List Document) : Except Raised ℤ :=
  if activity = [] then .ok 0 else maxCount r .traceActivity "trace_count" service activity

/-! ### Rows -/

structure ServiceRow where
  isInjectedTarget : Bool
  isUpstreamOfTarget : Bool
  faultTraceCountMax : ℤ
  observedUnderFault : Bool
  faultErrorMax : ℤ
  faultConnectionErrorMax : ℤ
  healthyErrorMax : ℤ
  healthyConnectionErrorMax : ℤ
  nonzeroInFault : Bool
  nonzeroInHealthy : Bool
  excessOverHealthy : ℤ

/-- Whether every sample has a measurement of a service. -/
def covers (samples : List Document) (service : Service) : Bool :=
  samples.all fun sample =>
    match get sample "services" with
    | .obj services => (services.lookup service.value).isSome
    | _ => false

def serviceRow (caseId : String) (target : Service) (fault healthy activity : List Document)
    (service : Service) : Except Raised (Service × ServiceRow) := do
  if ¬covers (fault ++ healthy) service then
    throw (.governance (caseId ++ " trace_errors does not cover the queried service " ++ service.value))
  if ¬covers activity service then
    throw (.governance (caseId ++ " trace_activity does not cover the queried service " ++ service.value))
  let faultError ← maxCount r .traceErrors "error_count" service fault
  let faultConn ← maxCount r .traceErrors "connection_error_count" service fault
  let healthyError ← maxCount r .traceErrors "error_count" service healthy
  let healthyConn ← maxCount r .traceErrors "connection_error_count" service healthy
  let totalFault := faultError + faultConn
  let totalHealthy := healthyError + healthyConn
  let faultTraces ← faultTraces r service activity
  return (service, {
    isInjectedTarget := service = target
    isUpstreamOfTarget := service ∈ UPSTREAM_OF target
    faultTraceCountMax := faultTraces
    observedUnderFault := 0 < faultTraces
    faultErrorMax := faultError
    faultConnectionErrorMax := faultConn
    healthyErrorMax := healthyError
    healthyConnectionErrorMax := healthyConn
    nonzeroInFault := 0 < totalFault
    nonzeroInHealthy := 0 < totalHealthy
    excessOverHealthy := max 0 (totalFault - totalHealthy) })

structure CaseRow where
  caseId : String
  rootCause : Label
  injectedService : Service
  upstreamServicesQueried : List Service
  unobservedUninjectedServices : List Service
  cascadeUnobservableOnAllUpstream : Bool
  cascadeCandidate : Bool
  injectedServiceExcess : ℤ
  injectedServiceNonzero : Bool
  propagatingUninjectedServices : List Service
  propagatingUpstreamServices : List Service
  cascadeObserved : Bool
  services : List (Service × ServiceRow)

abbrev ServiceRows := List (Service × ServiceRow)

namespace ServiceRows

variable (services : ServiceRows)

/-- The excess of a service; every queried service has its row. -/
def excess (service : Service) : ℤ := (services.lookup service).elim 0 ServiceRow.excessOverHealthy

def observed (service : Service) : Bool :=
  (services.lookup service).elim false ServiceRow.observedUnderFault

/-- The services that are never injected and have an excess. -/
def propagating : List Service :=
  sortServices (uninjectedServices.filter fun service => 0 < services.excess service)

end ServiceRows

/-- What is read off the services of a case. -/
def rowOf (caseId : String) (label : Label) (services : ServiceRows) : CaseRow :=
  let target := TARGET_SERVICES label
  let upstream := UPSTREAM_OF target
  { caseId
    rootCause := label
    injectedService := target
    upstreamServicesQueried := upstream.filter fun service => service ∈ V3_TRACE_QUERY_SERVICES
    unobservedUninjectedServices :=
      sortServices (uninjectedServices.filter fun service => !services.observed service)
    cascadeUnobservableOnAllUpstream :=
      ((upstream.filter fun service => (services.lookup service).isSome).all fun service =>
        !services.observed service) && !upstream.isEmpty
    cascadeCandidate := label ∈ cascadeCandidateFamilies
    injectedServiceExcess := services.excess target
    injectedServiceNonzero := 0 < services.excess target
    propagatingUninjectedServices := services.propagating
    propagatingUpstreamServices := services.propagating.filter fun service => service ∈ upstream
    cascadeObserved := !services.propagating.isEmpty
    services }

def caseRow (caseId : String) (case : Case) : Except Raised CaseRow :=
  match Label.ofText case.groundTruth.rootCause with
  | none => .error (.governance (caseId ++ " carries an unknown sealed label: " ++
      case.groundTruth.rootCause))
  | some label => do
    let fault ← phaseSamples r case.packet .traceErrors .fault
    let healthy ← phaseSamples r case.packet .traceErrors .healthy
    if fault = [] ∨ healthy = [] then
      throw (.governance (caseId ++ " lacks both phases of trace_errors samples"))
    let activity ← phaseSamples r case.packet .traceActivity .fault
    let services ← V3_TRACE_QUERY_SERVICES.mapM
      (serviceRow r caseId (TARGET_SERVICES label) fault healthy activity)
    return rowOf caseId label services

/-! ### The assessment -/

/-- What is counted of the cases of a label. -/
structure FamilyCount where
  n : ℕ
  cascadeObservedCount : ℕ
  cascadeCandidate : Bool
  injectedService : Service
  propagationPatterns : Counter

structure Family (F : Type) extends FamilyCount where
  cascadeObservedRate : F
  distinctPropagationPatterns : ℕ
  propagationPatternIsUnique : Bool

def patternOf (row : CaseRow) : String :=
  if row.propagatingUninjectedServices = [] then "(none)"
  else ",".intercalate (row.propagatingUninjectedServices.map Service.value)

def FamilyCount.add (count : FamilyCount) (row : CaseRow) : FamilyCount :=
  { count with
    n := count.n + 1
    cascadeObservedCount := if row.cascadeObserved then count.cascadeObservedCount + 1
      else count.cascadeObservedCount
    propagationPatterns := increment count.propagationPatterns (patternOf row) }

/-- A row is counted for its label. -/
def addRow (families : List (Label × FamilyCount)) (row : CaseRow) : List (Label × FamilyCount) :=
  if families.any fun entry => entry.1 = row.rootCause then
    families.map fun entry => if entry.1 = row.rootCause then (entry.1, entry.2.add row) else entry
  else
    let fresh : FamilyCount := ⟨0, 0, row.cascadeCandidate, row.injectedService, []⟩
    families ++ [(row.rootCause, fresh.add row)]

/-- The function `_family_summary`. -/
def familySummary (rows : List CaseRow) : List (Label × Family F) :=
  (rows.foldl addRow []).map fun entry =>
    let observed := entry.2.propagationPatterns.filter fun pattern => pattern.1 ≠ "(none)"
    (entry.1, { entry.2 with
      cascadeObservedRate := r.ratio entry.2.cascadeObservedCount entry.2.n
      distinctPropagationPatterns := observed.length
      propagationPatternIsUnique := observed.length = 1 })

structure Assessment where
  candidateCaseCount : ℕ
  candidateCasesWithCascade : ℕ
  candidateCasesWithNoUpstreamTraces : List String
  candidateCasesAnswerable : ℕ
  candidateFamilies : List Label
  familiesWithCascade : List Label
  familiesWithUniquePropagationPattern : List Label
  cascadeExists : Bool
  everyCandidateFamilyCascades : Bool
  propagationIsDeterministic : Bool
  nonCandidateCasesWithCascade : List String
  eVerdict : String
  reading : String

/-- The function `_assessment`. -/
def assessment (rows : List CaseRow) (families : List (Label × Family F)) : Assessment :=
  let candidates := rows.filter CaseRow.cascadeCandidate
  let observed := candidates.filter CaseRow.cascadeObserved
  let unobservable :=
    sortTexts ((candidates.filter CaseRow.cascadeUnobservableOnAllUpstream).map CaseRow.caseId)
  let candidateFamilies := families.filter fun entry => entry.2.cascadeCandidate
  let withCascade := sortLabels
    ((candidateFamilies.filter fun entry => 0 < entry.2.cascadeObservedCount).map Prod.fst)
  let uniquePattern := sortLabels ((candidateFamilies.filter fun entry =>
    0 < entry.2.cascadeObservedCount && entry.2.propagationPatternIsUnique).map Prod.fst)
  let deterministic := !withCascade.isEmpty && uniquePattern = withCascade
  { candidateCaseCount := candidates.length
    candidateCasesWithCascade := observed.length
    candidateCasesWithNoUpstreamTraces := unobservable
    candidateCasesAnswerable := candidates.length - unobservable.length
    candidateFamilies := sortLabels (candidateFamilies.map Prod.fst)
    familiesWithCascade := withCascade
    familiesWithUniquePropagationPattern := uniquePattern
    cascadeExists := !observed.isEmpty
    everyCandidateFamilyCascades :=
      !candidateFamilies.isEmpty && withCascade.length = candidateFamilies.length
    propagationIsDeterministic := deterministic
    nonCandidateCasesWithCascade := sortTexts
      ((rows.filter fun row => !row.cascadeCandidate && row.cascadeObserved).map CaseRow.caseId)
    eVerdict :=
      if observed ≠ [] then "cascade_present"
      -- A negative built on cases where no caller was traced is no negative.
      else if unobservable.length = candidates.length then "cascade_unobservable"
      else "cascade_absent"
    reading :=
      if observed = [] ∧ unobservable.length = candidates.length then
        "cascade_unobservable_no_upstream_traces_in_any_candidate_case"
      else if observed = [] then "cascade_absent_injection_surface_does_not_propagate"
      else if deterministic then "cascade_present_single_pattern_per_family"
      else "cascade_present_varying_pattern" }

structure CascadeReport (F : Type) where
  assessment : Assessment
  families : List (Label × Family F)
  cases : List CaseRow

def runCascadeProbe (document : Document) : Except Raised (CascadeReport F) := do
  if ¬((injectedServices.all fun service => service ∈ V3_TRACE_QUERY_SERVICES) ∧
      uninjectedServices ≠ []) then
    throw (.governance ("cascade probe requires a trace scope strictly wider than the injection " ++
      "targets; with a 1:1 scope propagation is unobservable and a zero reading means nothing"))
  if cascadeCandidateFamilies = [] then
    throw (.governance ("no injected service has a queried upstream caller, so criterion E is " ++
      "unanswerable on this trace scope"))
  let cases ← scenarioCasesV3 r document
  let rows ← (sortTexts (cases.map Prod.fst)).mapM fun caseId => do
    let case ← caseOf cases caseId
    caseRow r caseId case
  let families := familySummary r rows
  return ⟨assessment rows families, families, rows⟩

variable {r}

/-! ### Peaks -/

theorem foldl_max_le_iff {α : Type} [LinearOrder α] {xs : List α} {x b : α} :
    xs.foldl max x ≤ b ↔ x ≤ b ∧ ∀ y ∈ xs, y ≤ b := by
  induction xs generalizing x with
  | nil => simp
  | cons y ys ih =>
    rw [List.foldl_cons, ih, max_le_iff, List.forall_mem_cons, and_assoc]

theorem peak_le_iff {α : Type} [LinearOrder α] [Zero α] {xs : List α} (h : xs ≠ []) {b : α} :
    peak xs ≤ b ↔ ∀ x ∈ xs, x ≤ b := by
  cases xs with
  | nil => exact absurd rfl h
  | cons x xs => rw [peak, foldl_max_le_iff, List.forall_mem_cons]

/-! ### The samples of an accepted packet -/

theorem windowPhases_eq_ok {packet : Document} (h : Accepted r packet) :
    windowPhases r packet = .ok (phases.map Phase.value) := by
  obtain ⟨windows, hregistry⟩ := exists_windows h
  have hall : List.Forall₂ Eq (windows.map fun window => get window "phase")
      (phases.map fun phase => Json.str phase.value) := by
    rw [hregistry.phase, List.forall₂_same]
    exact fun _ _ => rfl
  rw [List.forall₂_map_left_iff, List.forall₂_map_right_iff] at hall
  rw [windowPhases]
  refine bind_eq_ok.2 ⟨_, member_of_get hregistry.registered nofun, ?_⟩
  refine mapM_eq_ok.2 (List.forall₂_map_left_iff.2 (List.forall₂_map_right_iff.2 (hall.imp ?_)))
  intro window phase hphase
  exact bind_eq_ok.2 ⟨window, rfl, bind_eq_ok.2 ⟨_, member_of_get hphase nofun, rfl⟩⟩

/-- **The samples of a kind are those of five healthy windows and two others.** -/
theorem exists_phaseSamples {packet : Document} (h : Accepted r packet) (kind : Kind) :
    ∃ samples, Measured r kind samples ∧ samplesOfKind r packet kind = .ok (.arr (samples.map .obj)) ∧
      phaseSamples r packet kind .healthy = .ok (samples.take 5) ∧
      phaseSamples r packet kind .fault = .ok (samples.drop 5) := by
  obtain ⟨group, samples, hgroup, hsamples, hkind, hmeasured⟩ := groupByKind_eq_some h kind
  refine ⟨samples, hmeasured, hkind, ?_⟩
  -- There is one group of the kind, so that the first one is the last one.
  obtain ⟨only, honly, hown, hunique, -⟩ := exists_group h kind
  have hlast : group = only := by
    refine hunique group (List.mem_reverse.1 (List.mem_of_find?_eq_some hgroup)) ?_
    simpa using List.find?_some hgroup
  have hfind :
      (groups packet).find? (fun group => r.str (get group "kind") = kind.value) = some group := by
    rw [hlast]
    refine find?_of_unique honly (decide_eq_true hown) fun other hother hsame => ?_
    exact hunique other hother (of_decide_eq_true hsame)
  have hselect : ∀ phase, phaseSamples r packet kind phase = .ok ((((samples.map Json.obj).zip
      (phases.map Phase.value)).filter fun entry => entry.2 = phase.value).filterMap fun entry =>
        mapping entry.1) := by
    intro phase
    refine bind_eq_ok.2 ⟨_, windowPhases_eq_ok h, ?_⟩
    rw [hfind]
    dsimp only
    rw [hsamples]
    have hlength : (samples.map Json.obj).length = (phases.map Phase.value).length := by
      rw [List.length_map, hmeasured.length]
      rfl
    dsimp only
    rw [if_neg (not_not_intro hlength)]
    rfl
  rw [hselect, hselect]
  match samples, hmeasured.length with
  | [a, b, c, d, e, f, g], _ => exact ⟨rfl, rfl⟩

/-! ### Counts -/

variable (r) in
/-- The exact value of a counter. -/
def countOf (kind : Kind) (service : Service) (field : String) (sample : Document) : ℚ :=
  (reading kind service field sample).toOption.elim 0 r.exact

variable (r) in
/-- **What the code compares**: the sum of the largest values of the two counters. -/
def sumOfPeaks (service : Service) (samples : List Document) : ℤ :=
  peak (samples.map fun sample => truncate (countOf r .traceErrors service "error_count" sample)) +
    peak (samples.map fun sample =>
      truncate (countOf r .traceErrors service "connection_error_count" sample))

variable (r) in
/-- The errors of a service in a window, as the counters stand. -/
def combined (service : Service) (sample : Document) : ℚ :=
  countOf r .traceErrors service "error_count" sample +
    countOf r .traceErrors service "connection_error_count" sample

variable (r) in
/-- **What the text speaks of**: the largest sum of the two counters. -/
def peakOfSums (service : Service) (samples : List Document) : ℚ :=
  peak (samples.map (combined r service))

variable {service : Service} {samples : List Document} {kind : Kind}

theorem maxCount_eq_ok {field : String} (hsome : samples ≠ [])
    (h : ∀ sample ∈ samples, ∃ j, reading kind service field sample = .ok j) :
    maxCount r kind field service samples =
      .ok (peak (samples.map fun sample => truncate (countOf r kind service field sample))) := by
  refine bind_eq_ok.2 ⟨samples.map fun sample => truncate (countOf r kind service field sample), ?_, ?_⟩
  · refine mapM_eq_ok.2 (List.forall₂_map_right_iff.2 (List.forall₂_same.2 fun sample hsample => ?_))
    obtain ⟨j, hj⟩ := h sample hsample
    rw [countOf, hj]
    rfl
  · rw [if_neg (List.map_eq_nil_iff.not.2 hsome)]
    rfl

theorem covers_of_reading (hkind : kind ∈ [Kind.traceActivity, .traceErrors]) {field : String}
    (h : ∀ sample ∈ samples, ∃ j, reading kind service field sample = .ok j) :
    covers samples service = true := by
  refine List.all_eq_true.2 fun sample hsample => ?_
  obtain ⟨j, hj⟩ := h sample hsample
  have hmembers : ∃ services, memberFields sample "services" = .ok services ∧
      ∃ measurement, memberFields services service.value = .ok measurement := by
    rcases List.mem_cons.1 hkind with rfl | hkind
    · obtain ⟨services, hservices, hj⟩ := bind_eq_ok.1 hj
      obtain ⟨measurement, hmeasurement, -⟩ := bind_eq_ok.1 hj
      exact ⟨services, hservices, measurement, hmeasurement⟩
    · obtain rfl := List.mem_singleton.1 hkind
      obtain ⟨services, hservices, hj⟩ := bind_eq_ok.1 hj
      obtain ⟨measurement, hmeasurement, -⟩ := bind_eq_ok.1 hj
      exact ⟨services, hservices, measurement, hmeasurement⟩
  obtain ⟨services, hservices, measurement, hmeasurement⟩ := hmembers
  have hget : get sample "services" = .obj services := by
    rw [get, lookup_of_memberFields hservices]
    rfl
  rw [hget]
  exact congrArg Option.isSome (lookup_of_memberFields hmeasurement)

/-! ### Rows of an accepted dataset -/

variable {caseId : String} {healthy fault : List Document}

theorem exists_reading {part : List Document} (h : Measured r kind samples)
    (hpart : part ⊆ samples) (service : Service) (field : String)
    (hfield : field ∈ countFields kind) :
    ∀ sample ∈ part, ∃ j, reading kind service field sample = .ok j := by
  intro sample hsample
  obtain ⟨j, hj, -⟩ := h.values sample (hpart hsample) service field hfield
  exact ⟨j, hj⟩

theorem Measured.phases_ne_nil (h : Measured r kind samples) :
    samples.drop 5 ≠ [] ∧ samples.take 5 ≠ [] := by
  match samples, h.length with
  | [a, b, c, d, e, f, g], _ => exact ⟨List.cons_ne_nil _ _, List.cons_ne_nil _ _⟩

theorem exists_serviceRow {errors traces : List Document} (herrors : Measured r .traceErrors errors)
    (htraces : Measured r .traceActivity traces) (caseId : String) (target service : Service) :
    ∃ row, serviceRow r caseId target (errors.drop 5) (errors.take 5) (traces.drop 5) service =
      .ok (service, row) ∧ row.excessOverHealthy =
        max 0 (sumOfPeaks r service (errors.drop 5) - sumOfPeaks r service (errors.take 5)) := by
  obtain ⟨hfault, hhealthy⟩ := herrors.phases_ne_nil
  have hactivity := htraces.phases_ne_nil.1
  have hcovers : covers (errors.drop 5 ++ errors.take 5) service = true := by
    refine covers_of_reading (by decide) (exists_reading herrors ?_ service "error_count" (by decide))
    exact List.append_subset.2 ⟨List.drop_subset 5 errors, List.take_subset 5 errors⟩
  have hcovers' : covers (traces.drop 5) service = true :=
    covers_of_reading (by decide)
      (exists_reading htraces (List.drop_subset 5 traces) service "trace_count" (by decide))
  have hcount : ∀ field ∈ countFields .traceErrors, ∀ part ⊆ errors, part ≠ [] →
      maxCount r .traceErrors field service part =
        .ok (peak (part.map fun sample => truncate (countOf r .traceErrors service field sample))) :=
    fun field hfield part hpart hsome =>
      maxCount_eq_ok hsome (exists_reading herrors hpart service field hfield)
  have htrace : ∃ count, faultTraces r service (traces.drop 5) = .ok count := by
    rw [faultTraces, if_neg hactivity]
    exact ⟨_, maxCount_eq_ok hactivity
      (exists_reading htraces (List.drop_subset 5 traces) service "trace_count" (by decide))⟩
  obtain ⟨count, htrace⟩ := htrace
  refine ⟨_, check_eq_ok.2 ⟨not_not_intro hcovers, check_eq_ok.2 ⟨not_not_intro hcovers', bind_eq_ok.2
    ⟨_, hcount _ (by decide) _ (List.drop_subset 5 errors) hfault, bind_eq_ok.2
      ⟨_, hcount _ (by decide) _ (List.drop_subset 5 errors) hfault, bind_eq_ok.2
        ⟨_, hcount _ (by decide) _ (List.take_subset 5 errors) hhealthy, bind_eq_ok.2
          ⟨_, hcount _ (by decide) _ (List.take_subset 5 errors) hhealthy, bind_eq_ok.2
            ⟨count, htrace, rfl⟩⟩⟩⟩⟩⟩⟩, rfl⟩

theorem fst_of_serviceRow {target : Service} {activity : List Document}
    {entry : Service × ServiceRow}
    (h : serviceRow r caseId target fault healthy activity service = .ok entry) :
    entry.1 = service := by
  obtain ⟨-, h⟩ := check_eq_ok.1 h
  obtain ⟨-, h⟩ := check_eq_ok.1 h
  obtain ⟨faultError, -, h⟩ := bind_eq_ok.1 h
  obtain ⟨faultConn, -, h⟩ := bind_eq_ok.1 h
  obtain ⟨healthyError, -, h⟩ := bind_eq_ok.1 h
  obtain ⟨healthyConn, -, h⟩ := bind_eq_ok.1 h
  obtain ⟨traces, -, h⟩ := bind_eq_ok.1 h
  rw [← Except.ok.inj h]

variable (r) in
/-- What a row says of a case. -/
structure RowOf (caseId : String) (case : Case) (label : Label) (fault healthy : List Document)
    (services : ServiceRows) : Prop where
  truth : case.groundTruth.rootCause = label.value
  row : caseRow r caseId case = .ok (rowOf caseId label services)
  inFault : phaseSamples r case.packet .traceErrors .fault = .ok fault
  whileHealthy : phaseSamples r case.packet .traceErrors .healthy = .ok healthy
  nonempty : fault ≠ [] ∧ healthy ≠ []
  excess : ∀ service, ∃ measured, services.lookup service = some measured ∧
    measured.excessOverHealthy = max 0 (sumOfPeaks r service fault - sumOfPeaks r service healthy)

variable {case : Case}

/-- **Every case of an accepted dataset has its row.** -/
theorem exists_caseRow (h : Sound r caseId case) :
    ∃ label fault healthy services, RowOf r caseId case label fault healthy services := by
  obtain ⟨label, htruth⟩ := h.truth
  obtain ⟨errors, herrors, -, hhealthy, hfault⟩ := exists_phaseSamples h.packet .traceErrors
  obtain ⟨traces, htraces, -, -, hactivity⟩ := exists_phaseSamples h.packet .traceActivity
  obtain ⟨services, hservices⟩ := exists_mapM_eq_ok fun service
      (_ : service ∈ V3_TRACE_QUERY_SERVICES) => by
    obtain ⟨row, hrow, -⟩ := exists_serviceRow herrors htraces caseId (TARGET_SERVICES label) service
    exact ⟨_, hrow⟩
  have hsome := herrors.phases_ne_nil
  have hlabel : Label.ofText case.groundTruth.rootCause = some label := by
    rw [htruth]
    exact Label.ofText_value label
  refine ⟨label, errors.drop 5, errors.take 5, services, by rw [htruth]; rfl, ?_, hfault, hhealthy,
    hsome, fun service => ?_⟩
  · rw [caseRow, hlabel]
    exact bind_eq_ok.2 ⟨_, hfault, bind_eq_ok.2 ⟨_, hhealthy, check_eq_ok.2
      ⟨not_or_intro hsome.1 hsome.2, bind_eq_ok.2 ⟨_, hactivity, bind_eq_ok.2
        ⟨services, hservices, rfl⟩⟩⟩⟩⟩
  · obtain ⟨measured, hlookup, hmeasured⟩ :=
      exists_lookup_of_mapM hservices (fun _ _ => fst_of_serviceRow) (mem_services service)
    obtain ⟨row, hrow, hexcess⟩ :=
      exists_serviceRow herrors htraces caseId (TARGET_SERVICES label) service
    rw [hrow] at hmeasured
    obtain rfl := (Prod.mk.inj (Except.ok.inj hmeasured)).2
    exact ⟨row, hlookup, hexcess⟩

variable {services : ServiceRows} {label : Label}

theorem RowOf.excess_eq (h : RowOf r caseId case label fault healthy services) (service : Service) :
    services.excess service = max 0 (sumOfPeaks r service fault - sumOfPeaks r service healthy) := by
  obtain ⟨measured, hlookup, hexcess⟩ := h.excess service
  rw [ServiceRows.excess, hlookup]
  exact hexcess

theorem mem_propagating :
    service ∈ services.propagating ↔ service ∈ uninjectedServices ∧ 0 < services.excess service := by
  rw [ServiceRows.propagating, sortServices, List.mem_mergeSort, List.mem_filter, decide_eq_true_eq]

/-! ### What the text says -/

variable (r) in
/-- A row says what the text of the method says of a service. -/
structure AsStated (service : Service) (fault healthy : List Document) (row : CaseRow)
    (measured : ServiceRow) : Prop where
  excess : (measured.excessOverHealthy : ℚ) =
    max 0 (peakOfSums r service fault - peakOfSums r service healthy)
  quiet : (∀ sample ∈ fault, combined r service sample ≤ peakOfSums r service healthy) →
    service ∉ row.propagatingUninjectedServices

variable (r) in
/-- By how much the peaks of the two counters together are above the peak of their sum. -/
def gap (service : Service) (samples : List Document) : ℚ :=
  sumOfPeaks r service samples - peakOfSums r service samples

theorem max_zero_eq_iff {x y : ℚ} : max 0 x = max 0 y ↔ x = y ∨ x ≤ 0 ∧ y ≤ 0 := by
  constructor
  · intro h
    rcases le_or_gt x 0 with hx | hx
    · rw [max_eq_left hx] at h
      exact .inr ⟨hx, max_eq_left_iff.1 h.symm⟩
    · rw [max_eq_right hx.le] at h
      rcases le_or_gt y 0 with hy | hy
      · rw [max_eq_left hy] at h
        exact absurd h hx.ne'
      · rw [max_eq_right hy.le] at h
        exact .inl h
  · rintro (rfl | ⟨hx, hy⟩)
    · rfl
    · rw [max_eq_left hx, max_eq_left hy]

/-- **When a row says what the text says**: the two peaks are as far apart under fault as they are while
healthy, or neither the peak of the sum nor the sum of the peaks has risen. -/
theorem asStated_iff (h : RowOf r caseId case label fault healthy services)
    {measured : ServiceRow} (hmeasured : services.lookup service = some measured) :
    AsStated r service fault healthy (rowOf caseId label services) measured ↔
      gap r service fault = gap r service healthy ∨
        peakOfSums r service fault ≤ peakOfSums r service healthy ∧
          sumOfPeaks r service fault ≤ sumOfPeaks r service healthy := by
  obtain ⟨found, hfound, hexcess⟩ := h.excess service
  rw [hmeasured] at hfound
  obtain rfl := Option.some.inj hfound
  have hexact : (measured.excessOverHealthy : ℚ) =
      max 0 ((sumOfPeaks r service fault : ℚ) - sumOfPeaks r service healthy) := by
    rw [hexcess]
    push_cast
    rfl
  have hsame : (measured.excessOverHealthy : ℚ) =
      max 0 (peakOfSums r service fault - peakOfSums r service healthy) ↔
        gap r service fault = gap r service healthy ∨
          peakOfSums r service fault ≤ peakOfSums r service healthy ∧
            sumOfPeaks r service fault ≤ sumOfPeaks r service healthy := by
    rw [hexact, max_zero_eq_iff, gap, gap, sub_nonpos, sub_nonpos, Int.cast_le]
    refine or_congr ?_ and_comm
    constructor <;> intro heq <;> linarith
  refine ⟨fun hstated => hsame.1 hstated.excess,
    fun hcondition => ⟨hsame.2 hcondition, fun hquiet hmem => ?_⟩⟩
  -- The peak of the sum has not risen, so the excess is zero.
  have hpeak : peakOfSums r service fault ≤ peakOfSums r service healthy := by
    rw [peakOfSums, peak_le_iff (List.map_eq_nil_iff.not.2 h.nonempty.1)]
    intro x hx
    obtain ⟨sample, hsample, rfl⟩ := List.mem_map.1 hx
    exact hquiet sample hsample
  have hzero := hsame.2 hcondition
  rw [max_eq_left (sub_nonpos.2 hpeak)] at hzero
  have hpositive := (mem_propagating.1 hmem).2
  rw [ServiceRows.excess, hmeasured] at hpositive
  exact absurd (Int.cast_eq_zero.1 hzero) hpositive.ne'

/-- **When a row says what the text says**, for every service of every case of an accepted dataset. -/
theorem excess_as_stated_iff {document : Document} {cases : Cases}
    (h : scenarioCasesV3 r document = .ok cases) {entry : String × Case} (hentry : entry ∈ cases)
    (service : Service) :
    ∃ row measured fault healthy, caseRow r entry.1 entry.2 = .ok row ∧
      row.services.lookup service = some measured ∧
      phaseSamples r entry.2.packet .traceErrors .fault = .ok fault ∧
      phaseSamples r entry.2.packet .traceErrors .healthy = .ok healthy ∧
      (AsStated r service fault healthy row measured ↔
        gap r service fault = gap r service healthy ∨
          peakOfSums r service fault ≤ peakOfSums r service healthy ∧
            sumOfPeaks r service fault ≤ sumOfPeaks r service healthy) := by
  obtain ⟨label, fault, healthy, services, hrow⟩ :=
    exists_caseRow ((dataset_of_scenarioCases h).sound entry hentry)
  obtain ⟨measured, hmeasured, -⟩ := hrow.excess service
  exact ⟨_, measured, fault, healthy, hrow.row, hmeasured, hrow.inFault, hrow.whileHealthy,
    asStated_iff hrow hmeasured⟩

namespace Samples

variable {s : Samples} {n : ℕ} {entry : String × Case}

theorem Holds.phaseSamples_eq (h : s.Holds n entry) (hproper : s.Proper) (kind : Kind) :
    phaseSamples rationals entry.2.packet kind .healthy =
        .ok ((samplesOf (s.index n) (s.windows n) kind).take 5) ∧
      phaseSamples rationals entry.2.packet kind .fault =
        .ok ((samplesOf (s.index n) (s.windows n) kind).drop 5) := by
  have haccepted : Accepted rationals ((s.trial n).packet rationals) :=
    accepted_packet quiet_rationals (sound_trial hproper n)
  rw [h.packet]
  obtain ⟨samples, -, hsamples, hhealthy, hfault⟩ := exists_phaseSamples haccepted kind
  have heq := samples_unique hsamples (samplesOfKind_packet (s.trial n) kind)
  rw [hhealthy, hfault, heq]
  exact ⟨rfl, rfl⟩

end Samples

/-- A window where a service has errors. -/
def errorWindow (service : Service) (errors connectionErrors : ℤ) : PublicWindow :=
  { quietWindow with traceErrors := fun other =>
      if other = service then { errorCount := errors, connectionErrorCount := connectionErrors }
      else {} }

/-- Trials of a label of which the first one has some windows of its own. -/
def firstWindows (label : Label) (windows : List PublicWindow) : Samples where
  label _ := label
  windows n := if n = 0 then windows else List.replicate 7 quietWindow

theorem proper_firstWindows {windows : List PublicWindow} (hlength : windows.length = 7)
    (h : ∀ w ∈ windows, w.recordedAt ≠ "" ∧ w.journeyStatus = 200) :
    (firstWindows label windows).Proper where
  length n := by
    change (if n = 0 then windows else List.replicate 7 quietWindow).length = 7
    split
    · exact hlength
    · rfl
  numbering _ _ _ := .inl rfl
  windows n w hw := by
    change w ∈ (if n = 0 then windows else List.replicate 7 quietWindow) at hw
    split at hw
    · exact h w hw
    · rw [List.eq_of_mem_replicate hw]
      exact ⟨by decide, rfl⟩

/-- The two counters of a caller have their peaks in different windows under fault. -/
def apartWindows : List PublicWindow :=
  errorWindow .frontend 1 0 :: List.replicate 4 quietWindow ++
    [errorWindow .frontend 1 0, errorWindow .frontend 0 1]

theorem proper_apartWindows : (firstWindows .productCatalogFailure apartWindows).Proper := by
  refine proper_firstWindows rfl fun w hw => ?_
  simp only [apartWindows, List.replicate, List.cons_append, List.nil_append, List.mem_cons,
    List.not_mem_nil, or_false] at hw
  rcases hw with rfl | rfl | rfl | rfl | rfl | rfl | rfl <;> exact ⟨by decide, rfl⟩

theorem excess_as_stated_iff_apart : ∃ cases entry row measured fault healthy,
    scenarioCasesV3 rationals (firstWindows .productCatalogFailure apartWindows).document = .ok cases ∧
      entry ∈ cases ∧ caseRow rationals entry.1 entry.2 = .ok row ∧
      row.services.lookup .frontend = some measured ∧
      phaseSamples rationals entry.2.packet .traceErrors .fault = .ok fault ∧
      phaseSamples rationals entry.2.packet .traceErrors .healthy = .ok healthy ∧
      (AsStated rationals .frontend fault healthy row measured ↔
        gap rationals .frontend fault = gap rationals .frontend healthy ∨
          peakOfSums rationals .frontend fault ≤ peakOfSums rationals .frontend healthy ∧
            sumOfPeaks rationals .frontend fault ≤ sumOfPeaks rationals .frontend healthy) := by
  obtain ⟨cases, hcases, -, hsome⟩ := Samples.exists_cases proper_apartWindows
  obtain ⟨entry, hentry, -⟩ := hsome 0 (by omega)
  obtain ⟨row, measured, fault, healthy, hrow⟩ := excess_as_stated_iff hcases hentry .frontend
  exact ⟨cases, entry, row, measured, fault, healthy, hcases, hentry, hrow⟩

/-- A caller whose errors in no window are more than they were while healthy is reported, because its two
counters have their peaks in different windows. -/
theorem not_excess_as_stated : ∃ cases entry row measured fault healthy,
    scenarioCasesV3 rationals (firstWindows .productCatalogFailure apartWindows).document = .ok cases ∧
      entry ∈ cases ∧ caseRow rationals entry.1 entry.2 = .ok row ∧
      row.services.lookup .frontend = some measured ∧
      phaseSamples rationals entry.2.packet .traceErrors .fault = .ok fault ∧
      phaseSamples rationals entry.2.packet .traceErrors .healthy = .ok healthy ∧
      measured.excessOverHealthy = 1 ∧
      max 0 (peakOfSums rationals .frontend fault - peakOfSums rationals .frontend healthy) = 0 ∧
      (∀ sample ∈ fault, combined rationals .frontend sample ≤ peakOfSums rationals .frontend healthy) ∧
      .frontend ∈ row.propagatingUninjectedServices := by
  obtain ⟨cases, hcases, -, hsome⟩ := Samples.exists_cases proper_apartWindows
  obtain ⟨entry, hentry, hholds⟩ := hsome 0 (by omega)
  obtain ⟨label, fault, healthy, services, hrow⟩ :=
    exists_caseRow ((dataset_of_scenarioCases hcases).sound entry hentry)
  obtain ⟨measured, hmeasured, hexcess⟩ := hrow.excess .frontend
  obtain ⟨hhealthy, hfault⟩ := hholds.phaseSamples_eq proper_apartWindows .traceErrors
  have hfault' := hrow.inFault
  have hhealthy' := hrow.whileHealthy
  rw [hfault] at hfault'
  rw [hhealthy] at hhealthy'
  obtain rfl := Except.ok.inj hfault'
  obtain rfl := Except.ok.inj hhealthy'
  have hone : measured.excessOverHealthy = 1 := by
    rw [hexcess]
    decide +kernel
  refine ⟨cases, entry, _, measured, _, _, hcases, hentry, hrow.row, hmeasured, hrow.inFault,
    hrow.whileHealthy, hone, by decide +kernel, by decide +kernel, mem_propagating.2 ⟨by decide, ?_⟩⟩
  rw [ServiceRows.excess, hmeasured]
  change 0 < measured.excessOverHealthy
  omega

/-! ### The question of the probe -/

variable (r) in
/-- A service has more errors under fault than while healthy, as the code adds them up. -/
def Rises (packet : Document) (service : Service) : Prop :=
  ∃ fault healthy, phaseSamples r packet .traceErrors .fault = .ok fault ∧
    phaseSamples r packet .traceErrors .healthy = .ok healthy ∧
    sumOfPeaks r service healthy < sumOfPeaks r service fault

theorem RowOf.excess_pos_iff (h : RowOf r caseId case label fault healthy services)
    (service : Service) : 0 < services.excess service ↔ Rises r case.packet service := by
  rw [h.excess_eq, lt_max_iff, sub_pos]
  constructor
  · rintro (hself | hrises)
    · exact absurd hself (lt_irrefl 0)
    · exact ⟨fault, healthy, h.inFault, h.whileHealthy, hrises⟩
  · rintro ⟨fault', healthy', hfault, hhealthy, hrises⟩
    obtain rfl := Except.ok.inj (hfault.symm.trans h.inFault)
    obtain rfl := Except.ok.inj (hhealthy.symm.trans h.whileHealthy)
    exact .inr hrises

variable (r) in
/-- In a candidate case, a service of some relation to the injected one has more errors under fault. -/
def CandidateRises (cases : Cases) (related : Service → Service → Prop) : Prop :=
  ∃ entry ∈ cases, ∃ label ∈ cascadeCandidateFamilies, entry.2.groundTruth.rootCause = label.value ∧
    ∃ service, related (TARGET_SERVICES label) service ∧ Rises r entry.2.packet service

/-- A service that calls the injected one. -/
def Calls (target service : Service) : Prop := service ∈ UPSTREAM_OF target

/-- A service that is never injected and does not call the injected one. -/
def Stranger (target service : Service) : Prop :=
  service ∈ uninjectedServices ∧ service ∉ UPSTREAM_OF target

theorem calls_uninjected (h : Calls (TARGET_SERVICES label) service) :
    service ∈ uninjectedServices := by
  have hall : ∀ label : Label, ∀ service ∈ UPSTREAM_OF (TARGET_SERVICES label),
      service ∈ uninjectedServices := by
    intro label
    cases label <;> decide
  exact hall label service h

variable (r) in
/-- The report of a dataset, whose rows are those of its cases. -/
structure ReportOf (document : Document) (cases : Cases) (report : CascadeReport F) : Prop where
  run : runCascadeProbe r document = .ok report
  assessed : ∃ families : List (Label × Family F), report.assessment = assessment report.cases families
  row : ∀ row ∈ report.cases, ∃ entry ∈ cases, caseRow r entry.1 entry.2 = .ok row
  entry : ∀ entry ∈ cases, ∃ row ∈ report.cases, caseRow r entry.1 entry.2 = .ok row

variable {document : Document} {cases : Cases}

/-- **Every accepted dataset has its report.** -/
theorem exists_report (h : scenarioCasesV3 r document = .ok cases) :
    ∃ report, ReportOf r document cases report := by
  have hdataset := dataset_of_scenarioCases h
  have hrow : ∀ caseId ∈ sortTexts (cases.map Prod.fst), ∃ row, (do
      let case ← caseOf cases caseId
      caseRow r caseId case) = .ok row := by
    intro caseId hmem
    obtain ⟨entry, hentry, rfl⟩ := List.mem_map.1 (List.mem_mergeSort.1 hmem)
    obtain ⟨label, fault, healthy, services, hrow⟩ := exists_caseRow (hdataset.sound entry hentry)
    exact ⟨_, bind_eq_ok.2 ⟨entry.2, caseOf_eq_ok hdataset.nodup hentry, hrow.row⟩⟩
  obtain ⟨rows, hrows⟩ := exists_mapM_eq_ok hrow
  have hscope : (injectedServices.all fun service => service ∈ V3_TRACE_QUERY_SERVICES) ∧
      uninjectedServices ≠ [] := by decide
  have hfamilies : cascadeCandidateFamilies ≠ [] := by decide
  refine ⟨⟨assessment rows (familySummary r rows), familySummary r rows, rows⟩, ?_, ⟨_, rfl⟩, ?_, ?_⟩
  · unfold runCascadeProbe
    rw [if_neg (not_not_intro hscope), if_neg hfamilies]
    refine bind_eq_ok.2 ⟨cases, h, ?_⟩
    exact bind_eq_ok.2 ⟨rows, hrows, rfl⟩
  · intro row hmem
    obtain ⟨caseId, -, hcase⟩ := of_mem_mapM_eq_ok hrows hmem
    obtain ⟨case, hcaseOf, hcase⟩ := bind_eq_ok.1 hcase
    exact ⟨(caseId, case), mem_of_caseOf hcaseOf, hcase⟩
  · intro entry hentry
    obtain ⟨row, hmem, hcase⟩ :=
      exists_mem_of_mapM_eq_ok hrows (List.mem_mergeSort.2 (List.mem_map_of_mem hentry))
    obtain ⟨case, hcaseOf, hcase⟩ := bind_eq_ok.1 hcase
    rw [caseOf_eq_ok hdataset.nodup hentry] at hcaseOf
    obtain rfl := Except.ok.inj hcaseOf
    exact ⟨row, hmem, hcase⟩

variable {report : CascadeReport F}

/-- The rows that satisfy something, by the cases of a candidate family. -/
theorem exists_candidate_row_iff (h : Dataset r cases)
    (hreport : ReportOf r document cases report) {P : CaseRow → Prop}
    {related : Service → Service → Prop}
    (hP : ∀ {entry : String × Case} {label fault healthy services}, entry ∈ cases →
      RowOf r entry.1 entry.2 label fault healthy services →
      (P (rowOf entry.1 label services) ↔ ∃ service, related (TARGET_SERVICES label) service ∧
        0 < services.excess service)) :
    (∃ row ∈ report.cases, row.cascadeCandidate = true ∧ P row) ↔ CandidateRises r cases related := by
  constructor
  · rintro ⟨row, hmem, hcandidate, hrow⟩
    obtain ⟨entry, hentry, hcase⟩ := hreport.row row hmem
    obtain ⟨label, fault, healthy, services, hown⟩ := exists_caseRow (h.sound entry hentry)
    obtain rfl := Except.ok.inj (hown.row.symm.trans hcase)
    obtain ⟨service, hrelated, hexcess⟩ := (hP hentry hown).1 hrow
    exact ⟨entry, hentry, label, of_decide_eq_true hcandidate, hown.truth, service, hrelated,
      (hown.excess_pos_iff service).1 hexcess⟩
  · rintro ⟨entry, hentry, label, hlabel, htruth, service, hrelated, hrises⟩
    obtain ⟨row, hmem, hcase⟩ := hreport.entry entry hentry
    obtain ⟨label', fault, healthy, services, hown⟩ := exists_caseRow (h.sound entry hentry)
    obtain rfl := Label.value_injective (htruth.symm.trans hown.truth)
    obtain rfl := Except.ok.inj (hown.row.symm.trans hcase)
    exact ⟨_, hmem, decide_eq_true hlabel, (hP hentry hown).2
      ⟨service, hrelated, (hown.excess_pos_iff service).2 hrises⟩⟩

/-- **What the probe answers**: whether some service that is never injected has more errors. -/
theorem cascadeExists_iff (h : Dataset r cases) (hreport : ReportOf r document cases report) :
    report.assessment.cascadeExists = true ↔
      CandidateRises r cases fun _ service => service ∈ uninjectedServices := by
  obtain ⟨families, hassessment⟩ := hreport.assessed
  have hobserved : report.assessment.cascadeExists = true ↔
      ∃ row ∈ report.cases, row.cascadeCandidate = true ∧ row.cascadeObserved = true := by
    rw [hassessment, assessment, Bool.not_eq_true', List.isEmpty_eq_false_iff_exists_mem]
    refine exists_congr fun row => ?_
    rw [List.mem_filter, List.mem_filter, and_assoc]
  rw [hobserved]
  refine exists_candidate_row_iff h hreport fun _ _ => ?_
  rw [rowOf, Bool.not_eq_true', List.isEmpty_eq_false_iff_exists_mem]
  exact exists_congr fun service => mem_propagating

theorem eVerdict_iff (hreport : ReportOf r document cases report) :
    report.assessment.eVerdict = "cascade_present" ↔ report.assessment.cascadeExists = true := by
  obtain ⟨families, hassessment⟩ := hreport.assessed
  rw [hassessment, assessment]
  dsimp only
  by_cases hobserved : (report.cases.filter CaseRow.cascadeCandidate).filter CaseRow.cascadeObserved = []
  · rw [if_neg (not_not_intro hobserved), hobserved]
    split <;> simp
  · rw [if_pos hobserved, Bool.not_eq_true', List.isEmpty_eq_false_iff]
    exact iff_of_true rfl hobserved

/-- In the row of a candidate case, a caller of the injected service has an excess. -/
def CallerExceeds (report : CascadeReport F) : Prop :=
  ∃ row ∈ report.cases, row.cascadeCandidate = true ∧ ∃ service ∈ UPSTREAM_OF row.injectedService,
    ∃ measured, row.services.lookup service = some measured ∧ 0 < measured.excessOverHealthy

/-- The callers of the injected services decide what the report says. -/
structure ByCallers (report : CascadeReport F) : Prop where
  exists_iff : report.assessment.cascadeExists = true ↔ CallerExceeds report
  verdict_iff : report.assessment.eVerdict = "cascade_present" ↔ CallerExceeds report

theorem callerExceeds_iff (h : Dataset r cases) (hreport : ReportOf r document cases report) :
    CallerExceeds report ↔ CandidateRises r cases Calls := by
  refine exists_candidate_row_iff h hreport fun {entry label fault healthy services} _ hown => ?_
  constructor
  · rintro ⟨service, hservice, measured, hmeasured, hexcess⟩
    refine ⟨service, hservice, ?_⟩
    rw [ServiceRows.excess]
    change services.lookup service = some measured at hmeasured
    rw [hmeasured]
    exact hexcess
  · rintro ⟨service, hservice, hexcess⟩
    obtain ⟨measured, hmeasured, -⟩ := hown.excess service
    rw [ServiceRows.excess, hmeasured] at hexcess
    exact ⟨service, hservice, measured, hmeasured, hexcess⟩

theorem candidateRises_or :
    (CandidateRises r cases fun _ service => service ∈ uninjectedServices) ↔
      CandidateRises r cases Calls ∨ CandidateRises r cases Stranger := by
  constructor
  · rintro ⟨entry, hentry, label, hlabel, htruth, service, hservice, hrises⟩
    by_cases hcalls : service ∈ UPSTREAM_OF (TARGET_SERVICES label)
    · exact .inl ⟨entry, hentry, label, hlabel, htruth, service, hcalls, hrises⟩
    · exact .inr ⟨entry, hentry, label, hlabel, htruth, service, ⟨hservice, hcalls⟩, hrises⟩
  · rintro (⟨entry, hentry, label, hlabel, htruth, service, hcalls, hrises⟩ |
      ⟨entry, hentry, label, hlabel, htruth, service, hstranger, hrises⟩)
    · exact ⟨entry, hentry, label, hlabel, htruth, service, calls_uninjected hcalls, hrises⟩
    · exact ⟨entry, hentry, label, hlabel, htruth, service, hstranger.1, hrises⟩

/-- **The callers decide** unless only strangers have more errors. -/
theorem byCallers_iff (h : Dataset r cases) (hreport : ReportOf r document cases report) :
    ByCallers report ↔ (CandidateRises r cases Stranger → CandidateRises r cases Calls) := by
  have hexists : report.assessment.cascadeExists = true ↔
      CandidateRises r cases Calls ∨ CandidateRises r cases Stranger :=
    (cascadeExists_iff h hreport).trans candidateRises_or
  constructor
  · intro hcallers hstranger
    exact (callerExceeds_iff h hreport).1 (hcallers.exists_iff.1 (hexists.2 (.inr hstranger)))
  · intro himplies
    have hiff : report.assessment.cascadeExists = true ↔ CallerExceeds report := by
      rw [hexists, callerExceeds_iff h hreport]
      exact ⟨fun hany => hany.elim id himplies, .inl⟩
    exact ⟨hiff, (eVerdict_iff hreport).trans hiff⟩

/-- **When the probe answers its question**: some caller has more errors in a candidate case, or no
stranger has. -/
theorem cascade_by_callers_iff {document : Document} {cases : Cases}
    (h : scenarioCasesV3 r document = .ok cases) :
    ∃ report, runCascadeProbe r document = .ok report ∧
      (ByCallers report ↔ CandidateRises r cases Calls ∨ ¬CandidateRises r cases Stranger) := by
  obtain ⟨report, hreport⟩ := exists_report h
  refine ⟨report, hreport.run, (byCallers_iff (dataset_of_scenarioCases h) hreport).trans ?_⟩
  rw [imp_iff_not_or, or_comm]

/-- A service that does not call the injected one has errors under fault. -/
def strangerWindows : List PublicWindow :=
  List.replicate 5 quietWindow ++ [errorWindow .cart 1 0, errorWindow .cart 1 0]

theorem proper_strangerWindows : (firstWindows .productCatalogFailure strangerWindows).Proper := by
  refine proper_firstWindows rfl fun w hw => ?_
  simp only [strangerWindows, List.replicate, List.cons_append, List.nil_append, List.mem_cons,
    List.not_mem_nil, or_false] at hw
  rcases hw with rfl | rfl | rfl | rfl | rfl | rfl | rfl <;> exact ⟨by decide, rfl⟩

theorem cascade_by_callers_iff_stranger : ∃ cases report,
    scenarioCasesV3 rationals (firstWindows .productCatalogFailure strangerWindows).document = .ok cases ∧
      runCascadeProbe rationals (firstWindows .productCatalogFailure strangerWindows).document =
        .ok report ∧
      (ByCallers report ↔
        CandidateRises rationals cases Calls ∨ ¬CandidateRises rationals cases Stranger) := by
  obtain ⟨cases, hcases, -⟩ := Samples.exists_cases proper_strangerWindows
  obtain ⟨report, hreport⟩ := cascade_by_callers_iff hcases
  exact ⟨cases, report, hcases, hreport⟩

theorem Samples.Holds.rises_iff {s : Samples} {n : ℕ} {entry : String × Case} (h : s.Holds n entry)
    (hproper : s.Proper) (service : Service) :
    Rises rationals entry.2.packet service ↔
      sumOfPeaks rationals service ((samplesOf (s.index n) (s.windows n) .traceErrors).take 5) <
        sumOfPeaks rationals service ((samplesOf (s.index n) (s.windows n) .traceErrors).drop 5) := by
  obtain ⟨hhealthy, hfault⟩ := h.phaseSamples_eq hproper .traceErrors
  constructor
  · rintro ⟨fault, healthy, hfault', hhealthy', hrises⟩
    rw [hfault] at hfault'
    rw [hhealthy] at hhealthy'
    rwa [← Except.ok.inj hfault', ← Except.ok.inj hhealthy'] at hrises
  · exact fun hrises => ⟨_, _, hfault, hhealthy, hrises⟩

/-- No caller of the injected service has an excess in any case, and the probe reports a cascade. -/
theorem not_cascade_by_callers : ∃ cases report,
    scenarioCasesV3 rationals (firstWindows .productCatalogFailure strangerWindows).document = .ok cases ∧
      runCascadeProbe rationals (firstWindows .productCatalogFailure strangerWindows).document =
        .ok report ∧
      report.assessment.cascadeExists = true ∧ report.assessment.eVerdict = "cascade_present" ∧
      ¬CallerExceeds report := by
  obtain ⟨cases, hcases, hall, hsome⟩ := Samples.exists_cases proper_strangerWindows
  have hdataset := dataset_of_scenarioCases hcases
  obtain ⟨report, hreport⟩ := exists_report hcases
  obtain ⟨first, hfirst, hholds⟩ := hsome 0 (by omega)
  have hstranger : CandidateRises rationals cases Stranger := by
    refine ⟨first, hfirst, .productCatalogFailure, by decide, by rw [hholds.truth]; rfl, .cart,
      ⟨by decide, by decide⟩, ?_⟩
    rw [hholds.rises_iff proper_strangerWindows]
    decide +kernel
  have hcalls : ¬CandidateRises rationals cases Calls := by
    rintro ⟨entry, hentry, label, -, htruth, service, hservice, hrises⟩
    obtain ⟨n, -, hn⟩ := hall entry hentry
    rw [hn.truth] at htruth
    change Label.productCatalogFailure.value = label.value at htruth
    obtain rfl := Label.value_injective htruth
    rw [hn.rises_iff proper_strangerWindows] at hrises
    have hquiet : ∀ windows ∈ [strangerWindows, List.replicate 7 quietWindow],
        ∀ service ∈ UPSTREAM_OF .productCatalog,
          let samples := samplesOf (fun _ i => .int i) windows .traceErrors
          ¬sumOfPeaks rationals service (samples.take 5) <
            sumOfPeaks rationals service (samples.drop 5) := by
      decide +kernel
    refine hquiet _ ?_ service hservice hrises
    change (if n = 0 then strangerWindows else List.replicate 7 quietWindow) ∈ _
    split
    · exact List.mem_cons_self
    · exact List.mem_cons_of_mem _ List.mem_cons_self
  have hexists : report.assessment.cascadeExists = true :=
    (cascadeExists_iff hdataset hreport).2 (candidateRises_or.2 (.inr hstranger))
  exact ⟨cases, report, hcases, hreport.run, hexists, (eVerdict_iff hreport).2 hexists,
    fun hcallers => hcalls ((callerExceeds_iff hdataset hreport).1 hcallers)⟩

end MetricV3
