/-
**Packets that are built.**

The packets of this module have the form of those that `build_observation_packet_v3` makes of seven
projected windows.  Each group may number its samples in its own way, since the validator compares the
numbers with `==`; the function of the source numbers them with integers.

Main definitions:

* `MetricV3.PublicWindow` — a projected window;
* `MetricV3.packetWith` — the packet of some windows.

Main results:

* `MetricV3.accepted_packetWith` — **what is built from finite measurements is accepted**.
-/

import FaultWitness.ObservationPackets

set_option autoImplicit false

namespace MetricV3

open Python FlagDocuments
open ScenarioRuns (equal equalItems integer)

/-! ### Windows -/

/-- What a window shows of the errors of a service. -/
structure ServiceErrors where
  connectionErrorCount : ℤ := 0
  descriptions : List String := []
  errorCount : ℤ := 0

/-- A window, as `_public_window` projects it; floats are texts. -/
structure PublicWindow where
  recordedAt : String
  ready : Bool := true
  journeyStatus : ℤ := 200
  cpuCores : String := "0.0"
  workingSetBytes : String := "0.0"
  consumerLag : String := "0.0"
  consumerRecordLag : String := "0.0"
  consumerPollLagSeconds : String := "0.0"
  traceActivity : Service → ℤ := fun _ => 0
  traceErrors : Service → ServiceErrors := fun _ => {}

namespace PublicWindow

variable (w : PublicWindow)

/-- What is shown of a service. -/
def service (kind : Kind) (service : Service) : Document :=
  match kind with
  | .traceActivity => [("trace_count", .int (w.traceActivity service))]
  | _ => [("connection_error_count", .int (w.traceErrors service).connectionErrorCount),
      ("descriptions", .arr ((w.traceErrors service).descriptions.map .str)),
      ("error_count", .int (w.traceErrors service).errorCount)]

/-- The services of a sample. -/
def services (kind : Kind) : Document :=
  V3_TRACE_QUERY_SERVICES.map fun service => (service.value, .obj (w.service kind service))

/-- The sample of a window. -/
def sample (kind : Kind) (index : Json) : Document :=
  ("window_index", index) ::
    match kind with
    | .journeyWindow => [("ready", .bool w.ready), ("status_code", .int w.journeyStatus)]
    | .traceActivity => [("services", .obj (w.services .traceActivity))]
    | .traceErrors => [("services", .obj (w.services .traceErrors))]
    | .cpuWindow => [("cpu_cores", .float w.cpuCores)]
    | .memoryWindow => [("working_set_bytes", .float w.workingSetBytes)]
    | .queueWindow => [("consumer_lag", .float w.consumerLag),
        ("consumer_poll_lag_seconds", .float w.consumerPollLagSeconds),
        ("consumer_record_lag", .float w.consumerRecordLag)]

end PublicWindow

/-! ### Packets -/

variable {F : Type} (r : Runtime F)

/-- Where the evidence of a kind comes from. -/
def source : Kind → Document
  | .journeyWindow => [("source", .str "frontend-proxy")]
  | .traceActivity | .traceErrors => [("source", .str "jaeger"), ("service_scope", serviceScope)]
  | .cpuWindow => [("source", .str "prometheus"), ("service", .str "ad"),
      ("metric", .str "container_cpu_usage_rate"), ("unit", .str "cpu_cores")]
  | .memoryWindow => [("source", .str "prometheus"), ("service", .str "email"),
      ("metric", .str "container_memory_working_set"), ("unit", .str "bytes")]
  | .queueWindow => [("source", .str "prometheus"), ("service", .str "fraud-detection"),
      ("metric", .str "consumer_poll_lag"), ("unit", .str "seconds")]

variable (index : Kind → ℕ → Json) (caseId brief : String) (windows : List PublicWindow)

def samplesOf (kind : Kind) : List Document := windows.mapIdx fun i w => w.sample kind (index kind i)

def groupOf (kind : Kind) : Document :=
  [("id", .str (evidenceIdV3 r caseId kind)), ("kind", .str kind.value)] ++ source kind ++
    [("samples", .arr ((samplesOf index windows kind).map .obj))]

def registryOf : List Document :=
  (windows.zip phases).mapIdx fun i window => [("index", .int i), ("phase", .str window.2.value),
    ("recorded_at", .str window.1.recordedAt)]

/-- The packet before its digest is taken. -/
def bodyOf : Document :=
  [("schema_version", .str WIRE_SCHEMA_VERSION), ("metric_version", .int METRIC_VERSION),
    ("case_id", .str caseId), ("problem_brief", .str brief),
    ("evidence_catalog_version", .str "g03-readiness-v3"),
    ("windows", .arr ((registryOf windows).map .obj)),
    ("observations", .arr (EVIDENCE_KINDS.map fun kind => .obj (groupOf r index caseId windows kind)))]

/-- A packet whose groups number their samples as they like. -/
def packetWith : Document :=
  bodyOf r index caseId brief windows ++
    [("packet_digest", .str (digestJson r (.obj (bodyOf r index caseId brief windows))))]

/-! ### What is built is accepted -/

/-- The measurements of a window are finite. -/
structure FiniteWindow (r : Runtime F) (w : PublicWindow) : Prop where
  recorded : w.recordedAt ≠ ""
  activity : ∀ service, Finite r (.int (w.traceActivity service))
  errors : ∀ service, Finite r (.int (w.traceErrors service).errorCount)
  connectionErrors : ∀ service, Finite r (.int (w.traceErrors service).connectionErrorCount)
  floats : ∀ text ∈ [w.cpuCores, w.workingSetBytes, w.consumerLag, w.consumerRecordLag,
    w.consumerPollLagSeconds], Finite r (.float text)

/-- The keys of a packet that is built. -/
def publicKeys : List String :=
  packetFields ++ ["index", "phase", "recorded_at", "window_index"] ++
    EVIDENCE_KINDS.flatMap (fun kind => GROUP_FIELDS kind ++ measurementFields kind ++ serviceFields kind) ++
    V3_TRACE_QUERY_SERVICES.map Service.value

/-- No key of a packet speaks of a stimulus. -/
def Quiet (r : Runtime F) : Prop := ∀ name ∈ publicKeys, ¬"stimulus".toList <:+: (r.casefold name).toList

variable {r index caseId brief windows}

variable {f : Service → Json}

theorem walkFields_cons (hquiet : Quiet r) {name : String} {child : Json} {fields : Document}
    (hname : name ∈ publicKeys) (hchild : walkForbidden r child = []) (hrest : walkFields r fields = []) :
    walkFields r ((name, child) :: fields) = [] := by
  have hpublic : ∀ name ∈ publicKeys, name ∉ FORBIDDEN_PUBLIC_KEYS := by decide
  rw [walkFields, if_neg (not_or_intro (hpublic name hname) (hquiet name hname)), hchild, hrest]
  rfl

theorem walkFields_append (fields others : Document) :
    walkFields r (fields ++ others) = walkFields r fields ++ walkFields r others := by
  induction fields with
  | nil => rfl
  | cons f fields ih =>
    obtain ⟨name, child⟩ := f
    rw [List.cons_append, walkFields, walkFields, ih]
    simp only [List.append_assoc]

theorem walkFields_map (hquiet : Quiet r) {α : Type} {f : α → String × Json} {as : List α}
    (h : ∀ a ∈ as, (f a).1 ∈ publicKeys ∧ walkForbidden r (f a).2 = []) :
    walkFields r (as.map f) = [] := by
  induction as with
  | nil => rfl
  | cons a as ih =>
    obtain ⟨⟨hname, hchild⟩, hrest⟩ := List.forall_mem_cons.1 h
    exact walkFields_cons hquiet hname hchild (ih hrest)

theorem walkItems_map {α : Type} {f : α → Json} {as : List α} (h : ∀ a ∈ as, walkForbidden r (f a) = []) :
    walkItems r (as.map f) = [] := by
  induction as with
  | nil => rfl
  | cons a as ih =>
    obtain ⟨hitem, hrest⟩ := List.forall_mem_cons.1 h
    rw [List.map_cons, walkItems, hitem, ih hrest]
    rfl

theorem lookup_map_services (service : Service) :
    (V3_TRACE_QUERY_SERVICES.map fun s => (s.value, f s)).lookup service.value = some (f service) := by
  cases service <;> rfl

theorem keysAre_services :
    keysAre (V3_TRACE_QUERY_SERVICES.map fun s => (s.value, f s)) (V3_TRACE_QUERY_SERVICES.map Service.value) =
      true := by
  rfl

theorem get_services (service : Service) :
    get (V3_TRACE_QUERY_SERVICES.map fun s => (s.value, f s)) service.value = f service := by
  rw [get, lookup_map_services]
  rfl

theorem mem_samplesOf {kind : Kind} {sample : Document} (h : sample ∈ samplesOf index windows kind) :
    ∃ w ∈ windows, ∃ i, sample = w.sample kind (index kind i) := by
  obtain ⟨i, hi, rfl⟩ := List.mem_mapIdx.1 h
  exact ⟨windows[i], List.getElem_mem hi, i, rfl⟩

theorem checkSamples_samplesOf (hlength : windows.length = 7)
    (hindex : ∀ kind, ∀ i < 7, r.same (index kind i) (.int i) = true) (kind : Kind) :
    checkSamples r kind (.arr ((samplesOf index windows kind).map .obj)) =
      .ok (samplesOf index windows kind) := by
  have hseven : (samplesOf index windows kind).length = 7 := by
    rw [samplesOf, List.length_mapIdx, hlength]
  refine checkSamples_eq_ok_iff.2 ⟨rfl, hseven, fun sample hsample => ?_, ?_⟩
  · obtain ⟨w, -, i, rfl⟩ := mem_samplesOf hsample
    cases kind <;> rfl
  · refine same_indices_iff.2 ⟨by rw [List.length_map, hseven], fun i hi => ?_⟩
    rw [List.length_map] at hi
    have hget : get (samplesOf index windows kind)[i] "window_index" = index kind i := by
      simp only [samplesOf, List.getElem_mapIdx]
      rfl
    simpa only [List.get_eq_getElem, List.getElem_map, hget] using hindex kind i (hseven ▸ hi)

theorem serviceSound_service {w : PublicWindow} (hfinite : FiniteWindow r w) {kind : Kind}
    (hkind : kind ∈ [Kind.traceActivity, .traceErrors]) (service : Service) :
    serviceSound r kind (w.service kind service) = .ok true := by
  rcases List.mem_cons.1 hkind with rfl | hkind
  · exact hfinite.activity service
  · rw [List.mem_singleton.1 hkind]
    refine bind_eq_ok.2 ⟨true, hfinite.connectionErrors service,
      bind_eq_ok.2 ⟨true, hfinite.errors service, ?_⟩⟩
    have hall : descriptionsSound (.arr ((w.traceErrors service).descriptions.map .str)) = true := by
      rw [descriptionsSound, List.all_map]
      exact List.all_eq_true.2 fun _ _ => rfl
    exact congrArg Except.ok hall

theorem checkServices_sample {w : PublicWindow} (hfinite : FiniteWindow r w) {kind : Kind}
    (hkind : kind ∈ [Kind.traceActivity, .traceErrors]) (j : Json) :
    checkServices r kind (w.sample kind j) = .ok () := by
  have hservices : mapping (get (w.sample kind j) "services") = some (w.services kind) := by
    rcases List.mem_cons.1 hkind with rfl | hkind
    · rfl
    · rw [List.mem_singleton.1 hkind]
      rfl
  unfold checkServices
  dsimp only
  rw [hservices]
  dsimp only
  have hkeys : keysAre (w.services kind) (V3_TRACE_QUERY_SERVICES.map Service.value) = true :=
    keysAre_services
  rw [if_neg (not_not_intro hkeys)]
  refine forM_eq_ok.2 fun service _ => ?_
  unfold checkService
  rw [PublicWindow.services, get_services]
  refine bind_eq_ok.2 ⟨true, serviceSound_service hfinite hkind service, rfl⟩

theorem checkMeasurements_samplesOf (hfinite : ∀ w ∈ windows, FiniteWindow r w) (kind : Kind) :
    checkMeasurements r kind (groupOf r index caseId windows kind) (samplesOf index windows kind) =
      .ok () := by
  have hscope : ∀ kind ∈ [Kind.traceActivity, .traceErrors],
      r.same (get (groupOf r index caseId windows kind) "service_scope") serviceScope = true := by
    intro kind hkind
    have hget : get (groupOf r index caseId windows kind) "service_scope" = serviceScope := by
      rcases List.mem_cons.1 hkind with rfl | hkind
      · rfl
      · rw [List.mem_singleton.1 hkind]
        rfl
    have hstrs : serviceScope = .arr ((V3_TRACE_QUERY_SERVICES.map Service.value).map .str) := rfl
    rw [hget, hstrs, same_strs_iff]
  cases kind with
  | journeyWindow =>
    refine if_pos (List.all_eq_true.2 fun sample hsample => ?_)
    obtain ⟨w, -, i, rfl⟩ := mem_samplesOf hsample
    rfl
  | traceActivity | traceErrors =>
    dsimp only [checkMeasurements]
    rw [if_neg (not_not_intro (hscope _ (by decide)))]
    refine forM_eq_ok.2 fun sample hsample => ?_
    obtain ⟨w, hw, i, rfl⟩ := mem_samplesOf hsample
    exact checkServices_sample (hfinite w hw) (by decide) _
  | cpuWindow | memoryWindow | queueWindow =>
    refine bind_eq_ok.2 ⟨true, allM_eq_ok_true.2 fun sample hsample => ?_, rfl⟩
    obtain ⟨w, hw, i, rfl⟩ := mem_samplesOf hsample
    have hfloats := (hfinite w hw).floats
    refine allM_eq_ok_true.2 fun field hfield => ?_
    simp only [measurementFields, List.mem_cons, List.not_mem_nil, or_false] at hfield
    rcases hfield with rfl | rfl | rfl
    all_goals exact hfloats _ (by simp)

theorem checkGroup_groupOf (hlength : windows.length = 7)
    (hindex : ∀ kind, ∀ i < 7, r.same (index kind i) (.int i) = true)
    (hfinite : ∀ w ∈ windows, FiniteWindow r w) (kind : Kind) :
    checkGroup r caseId (.obj (groupOf r index caseId windows kind)) = .ok true := by
  have hsamples : get (groupOf r index caseId windows kind) "samples" =
      .arr ((samplesOf index windows kind).map .obj) := by
    cases kind <;> rfl
  refine checkGroup_eq_ok_iff.2 ⟨rfl, groupOf r index caseId windows kind, kind,
    samplesOf index windows kind, rfl, kindOf_eq_ok_iff.2 ?_, ?_, same_str_iff.2 ?_, ?_,
    checkMeasurements_samplesOf hfinite kind⟩
  · cases kind <;> rfl
  · cases kind <;> rfl
  · cases kind <;> rfl
  · rw [hsamples]
    exact checkSamples_samplesOf hlength hindex kind

theorem walkForbidden_service (hquiet : Quiet r) (w : PublicWindow) (kind : Kind) (service : Service) :
    walkForbidden r (.obj (w.service kind service)) = [] := by
  cases kind with
  | traceActivity => exact walkFields_cons hquiet (by decide) rfl rfl
  | _ =>
    exact walkFields_cons hquiet (by decide) rfl (walkFields_cons hquiet (by decide)
      (walkItems_map fun _ _ => rfl) (walkFields_cons hquiet (by decide) rfl rfl))

theorem walkForbidden_services (hquiet : Quiet r) (w : PublicWindow) (kind : Kind) :
    walkForbidden r (.obj (w.services kind)) = [] := by
  have hpublic : ∀ service : Service, service.value ∈ publicKeys := by
    intro service
    cases service <;> decide
  exact walkFields_map hquiet fun service _ =>
    ⟨hpublic service, walkForbidden_service hquiet w kind service⟩

theorem walkForbidden_sample (hquiet : Quiet r) (w : PublicWindow) (kind : Kind) {j : Json}
    (hj : walkForbidden r j = []) : walkForbidden r (.obj (w.sample kind j)) = [] := by
  refine walkFields_cons hquiet (by decide) hj ?_
  cases kind with
  | journeyWindow =>
    exact walkFields_cons hquiet (by decide) rfl (walkFields_cons hquiet (by decide) rfl rfl)
  | traceActivity | traceErrors =>
    exact walkFields_cons hquiet (by decide) (walkForbidden_services hquiet w _) rfl
  | cpuWindow | memoryWindow => exact walkFields_cons hquiet (by decide) rfl rfl
  | queueWindow =>
    exact walkFields_cons hquiet (by decide) rfl (walkFields_cons hquiet (by decide) rfl
      (walkFields_cons hquiet (by decide) rfl rfl))

theorem walkForbidden_groupOf (hquiet : Quiet r) (hscalar : ∀ kind i, walkForbidden r (index kind i) = [])
    (kind : Kind) : walkForbidden r (.obj (groupOf r index caseId windows kind)) = [] := by
  have hsamples : walkForbidden r (.arr ((samplesOf index windows kind).map .obj)) = [] := by
    refine walkItems_map fun sample hsample => ?_
    obtain ⟨w, -, i, rfl⟩ := mem_samplesOf hsample
    exact walkForbidden_sample hquiet w kind (hscalar kind i)
  have hscope : walkForbidden r serviceScope = [] := walkItems_map fun _ _ => rfl
  have hsource : walkFields r (source kind) = [] := by
    cases kind with
    | journeyWindow => exact walkFields_cons hquiet (by decide) rfl rfl
    | traceActivity | traceErrors =>
      exact walkFields_cons hquiet (by decide) rfl (walkFields_cons hquiet (by decide) hscope rfl)
    | cpuWindow | memoryWindow | queueWindow =>
      exact walkFields_cons hquiet (by decide) rfl (walkFields_cons hquiet (by decide) rfl
        (walkFields_cons hquiet (by decide) rfl (walkFields_cons hquiet (by decide) rfl rfl)))
  change walkFields r (groupOf r index caseId windows kind) = []
  rw [groupOf, walkFields_append, walkFields_append, hsource]
  rw [walkFields_cons hquiet (by decide) rfl (walkFields_cons hquiet (by decide) rfl rfl),
    walkFields_cons hquiet (by decide) hsamples rfl]
  rfl

theorem walkForbidden_packetWith (hquiet : Quiet r)
    (hscalar : ∀ kind i, walkForbidden r (index kind i) = []) :
    walkForbidden r (.obj (packetWith r index caseId brief windows)) = [] := by
  have hregistry : walkForbidden r (.arr ((registryOf windows).map .obj)) = [] := by
    refine walkItems_map fun window hwindow => ?_
    obtain ⟨i, hi, rfl⟩ := List.mem_mapIdx.1 hwindow
    exact walkFields_cons hquiet (by decide) rfl (walkFields_cons hquiet (by decide) rfl
      (walkFields_cons hquiet (by decide) rfl rfl))
  have hgroups : walkForbidden r
      (.arr (EVIDENCE_KINDS.map fun kind => .obj (groupOf r index caseId windows kind))) = [] :=
    walkItems_map fun kind _ => walkForbidden_groupOf hquiet hscalar kind
  change walkFields r (packetWith r index caseId brief windows) = []
  rw [packetWith, walkFields_append, walkFields_cons hquiet (by decide) rfl rfl, List.append_nil, bodyOf]
  exact walkFields_cons hquiet (by decide) rfl (walkFields_cons hquiet (by decide) rfl
    (walkFields_cons hquiet (by decide) rfl (walkFields_cons hquiet (by decide) rfl
      (walkFields_cons hquiet (by decide) rfl (walkFields_cons hquiet (by decide) hregistry
        (walkFields_cons hquiet (by decide) hgroups rfl))))))

theorem windowsComplete_registryOf (hlength : windows.length = 7)
    (hfinite : ∀ w ∈ windows, FiniteWindow r w) :
    windowsComplete r (.arr ((registryOf windows).map .obj)) = true := by
  have hzip : (windows.zip phases).length = 7 := by
    rw [List.length_zip, hlength]
    rfl
  have hseven : (registryOf windows).length = 7 := by rw [registryOf, List.length_mapIdx, hzip]
  have hentry : ∀ i (hi : i < (registryOf windows).length), ∃ (w : PublicWindow) (phase : Phase),
      w ∈ windows ∧ phases[i]? = some phase ∧ (registryOf windows)[i] =
        [("index", .int i), ("phase", .str phase.value), ("recorded_at", .str w.recordedAt)] := by
    intro i hi
    have hi' : i < (windows.zip phases).length := by omega
    refine ⟨(windows.zip phases)[i].1, (windows.zip phases)[i].2, ?_, ?_, ?_⟩
    · exact (List.of_mem_zip (List.getElem_mem hi')).1
    · rw [List.getElem_zip]
      exact List.getElem?_eq_getElem _
    · simp only [registryOf, List.getElem_mapIdx]
  simp only [windowsComplete, Bool.and_eq_true, decide_eq_true_eq]
  rw [filterMap_mapping, List.length_map, hseven]
  refine ⟨⟨⟨rfl, same_indices_iff.2 ⟨by rw [List.length_map, hseven], fun i hi => ?_⟩⟩, ?_⟩, ?_⟩
  · rw [List.length_map] at hi
    obtain ⟨w, phase, -, -, hwindow⟩ := hentry i hi
    simp only [List.get_eq_getElem, List.getElem_map, hwindow]
    rw [Runtime.same]
    simp [get, equal, integer]
  · have hstrs : (phases.map fun phase => Json.str phase.value) = (phases.map Phase.value).map .str := by
      rw [List.map_map]
      rfl
    rw [hstrs, same_strs_iff, ← hstrs]
    refine List.ext_getElem? fun i => ?_
    rw [List.getElem?_map, List.getElem?_map]
    by_cases hi : i < (registryOf windows).length
    · obtain ⟨w, phase, -, hphase, hwindow⟩ := hentry i hi
      rw [List.getElem?_eq_getElem hi, hwindow, hphase]
      rfl
    · have hphases : phases.length ≤ i := by
        have hcount : phases.length = 7 := rfl
        omega
      rw [List.getElem?_eq_none (not_lt.1 hi), List.getElem?_eq_none hphases]
      rfl
  · refine List.all_eq_true.2 fun item hitem => ?_
    obtain ⟨window, hwindow, rfl⟩ := List.mem_map.1 hitem
    obtain ⟨i, hi, rfl⟩ := List.mem_iff_getElem.1 hwindow
    obtain ⟨w, phase, hw, -, hwindow⟩ := hentry i hi
    rw [hwindow]
    exact decide_eq_true (hfinite w hw).recorded

/-- **What is built is accepted**, however its samples are numbered. -/
theorem accepted_packetWith (hquiet : Quiet r) (hlength : windows.length = 7)
    (hindex : ∀ kind, ∀ i < 7, r.same (index kind i) (.int i) = true)
    (hscalar : ∀ kind i, walkForbidden r (index kind i) = [])
    (hfinite : ∀ w ∈ windows, FiniteWindow r w) :
    Accepted r (packetWith r index caseId brief windows) where
  fields := rfl
  schemaVersion := same_str_iff.2 rfl
  metricVersion := by
    rw [Runtime.same]
    rfl
  windows := windowsComplete_registryOf hlength hfinite
  observations := rfl
  kinds := by
    have hkinds : (groups (packetWith r index caseId brief windows)).map
        (fun group => r.str (get group "kind")) = EVIDENCE_KINDS.map Kind.value := rfl
    unfold kindsComplete
    rw [hkinds]
    decide
  groups := by
    intro item hitem
    obtain ⟨kind, -, rfl⟩ := List.mem_map.1 hitem
    exact checkGroup_groupOf hlength hindex hfinite kind
  forbidden := walkForbidden_packetWith hquiet hscalar
  digest := by
    have hbody : digested (packetWith r index caseId brief windows) =
        .obj (bodyOf r index caseId brief windows) := rfl
    rw [hbody]
    exact same_str_iff.2 rfl

theorem same_int (n : ℤ) : r.same (.int n) (.int n) = true := by
  rw [Runtime.same]
  simp [equal, integer]

end MetricV3
