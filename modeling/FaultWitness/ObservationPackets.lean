/-
**The public packets of metric v3.**

A packet of `faultwitness_dev/g03_readiness.py` holds what was measured in seven windows, five of them
healthy, in six groups of evidence.  Here it is a JSON object, and `validate_observation_packet_v3` reads
it member by member, as the source does.

Floats, the hash and the text of a value are parameters.  A float in a document is a text; what is
computed with it needs no law, and `int` and a comparison with an integer are those of its exact value.

Main definitions:

* `MetricV3.Runtime` — what is computed with and not modelled;
* `MetricV3.validateObservationPacketV3` — the validator;
* `MetricV3.Accepted`, `MetricV3.Measured` — what an accepted packet keeps, and what can be read from
  the samples of a group.

Main results:

* `MetricV3.validate_eq_ok_iff` — **the validator accepts what it should**;
* `MetricV3.exists_group` — **an accepted packet has one group of each kind**, with seven samples of
  which every measurement is there and is finite.
-/

import FaultWitness.ScenarioRuns
import Mathlib.Data.Finset.Card
import Mathlib.Data.Rat.Floor

set_option autoImplicit false

namespace MetricV3

open Python FlagDocuments
open ScenarioRuns (Floats equal equalItems integer)

/-! ### What is not modelled -/

/-- The arithmetic of floats. -/
structure Arithmetic (F : Type) where
  /-- The function `float` on an integer, which may be too large. -/
  ofInt : ℤ → Option F
  /-- The float that a document holds. -/
  ofText : String → F
  isfinite : F → Bool
  /-- The exact value of a finite float. -/
  value : F → ℚ
  eq : F → F → Bool
  lt : F → F → Bool
  le : F → F → Bool
  neg : F → F
  add : F → F → F
  sub : F → F → F
  mul : F → F → F
  div : F → F → F
  /-- The operator `/` on two integers. -/
  ratio : ℕ → ℕ → F
  ceil : F → ℤ

/-- What the code computes with. -/
structure Runtime (F : Type) extends Arithmetic F where
  sha256 : String → String
  casefold : String → String
  /-- The text of a value that is no text itself. -/
  repr : Json → String

inductive Raised
  /-- A `DatasetIncompleteError`. -/
  | datasetIncomplete (reason : String)
  /-- Another `GovernanceError`. -/
  | governance (text : String)
  /-- An exception of the language, such as an `OverflowError`. -/
  | builtin
deriving DecidableEq

variable {F : Type} (r : Runtime F)

/-- The operator `==` on a float and an integer. -/
def Runtime.isInt (text : String) (n : ℤ) : Bool :=
  r.isfinite (r.ofText text) && r.value (r.ofText text) = n

/-- The operator `==` where one side is a float. -/
def Runtime.floats : Floats where
  equal j k :=
    match j, k with
    | .float s, .float t => r.eq (r.ofText s) (r.ofText t)
    | .float s, k => (integer k).any (r.isInt s)
    | j, .float t => (integer j).any (r.isInt t)
    | _, _ => false
  weigh _ _ _ := none

/-- The operator `==`. -/
def Runtime.same (j k : Json) : Bool := equal r.floats j k

/-- The function `str`. -/
def Runtime.str : Json → String
  | .str s => s
  | j => r.repr j

/-- The function `float` on a number. -/
def Runtime.float : Json → Except Raised F
  | .int n => (r.ofInt n).elim (.error .builtin) .ok
  | .bool b => (r.ofInt (if b then 1 else 0)).elim (.error .builtin) .ok
  | .float text => .ok (r.ofText text)
  | _ => .error .builtin

/-- A rational number without what stands after the point. -/
def truncate (q : ℚ) : ℤ := if 0 ≤ q then ⌊q⌋ else ⌈q⌉

/-- The exact value of a number. -/
def Runtime.exact : Json → ℚ
  | .int n => n
  | .bool b => if b then 1 else 0
  | .float text => r.value (r.ofText text)
  | _ => 0

/-- The function `int` on a number. -/
def Runtime.int (j : Json) : ℤ := truncate (r.exact j)

/-! ### The registry -/

inductive Kind
  | journeyWindow
  | traceActivity
  | traceErrors
  | cpuWindow
  | memoryWindow
  | queueWindow
deriving DecidableEq

def Kind.value : Kind → String
  | .journeyWindow => "journey_window"
  | .traceActivity => "trace_activity"
  | .traceErrors => "trace_errors"
  | .cpuWindow => "cpu_window"
  | .memoryWindow => "memory_window"
  | .queueWindow => "queue_window"

def EVIDENCE_KINDS : List Kind :=
  [.journeyWindow, .traceActivity, .traceErrors, .cpuWindow, .memoryWindow, .queueWindow]

def GROUP_FIELDS : Kind → List String
  | .journeyWindow => ["id", "kind", "source", "samples"]
  | .traceActivity | .traceErrors => ["id", "kind", "source", "service_scope", "samples"]
  | .cpuWindow | .memoryWindow | .queueWindow =>
    ["id", "kind", "source", "service", "metric", "unit", "samples"]

/-- The fields of a sample that are measured, other than those of a journey. -/
def measurementFields : Kind → List String
  | .journeyWindow => ["ready", "status_code"]
  | .traceActivity | .traceErrors => ["services"]
  | .cpuWindow => ["cpu_cores"]
  | .memoryWindow => ["working_set_bytes"]
  | .queueWindow => ["consumer_lag", "consumer_poll_lag_seconds", "consumer_record_lag"]

def GROUP_SAMPLE_FIELDS (kind : Kind) : List String := "window_index" :: measurementFields kind

inductive Service
  | ad
  | checkout
  | email
  | fraudDetection
  | payment
  | productCatalog
  | cart
  | frontend
  | recommendation
deriving DecidableEq

def Service.value : Service → String
  | .ad => "ad"
  | .checkout => "checkout"
  | .email => "email"
  | .fraudDetection => "fraud-detection"
  | .payment => "payment"
  | .productCatalog => "product-catalog"
  | .cart => "cart"
  | .frontend => "frontend"
  | .recommendation => "recommendation"

def V3_TRACE_QUERY_SERVICES : List Service :=
  [.ad, .checkout, .email, .fraudDetection, .payment, .productCatalog, .cart, .frontend, .recommendation]

inductive Phase
  | healthy
  | fault
deriving DecidableEq

def Phase.value : Phase → String
  | .healthy => "healthy"
  | .fault => "fault"

def HEALTHY_WINDOW_COUNT : ℕ := 5

def FAULT_WINDOW_COUNT : ℕ := 2

/-- The phases of the windows. -/
def phases : List Phase :=
  List.replicate HEALTHY_WINDOW_COUNT .healthy ++ List.replicate FAULT_WINDOW_COUNT .fault

def FORBIDDEN_PUBLIC_KEYS : List String :=
  ["answer", "checkout_failed", "connection_error", "correlated_error", "correlated_span", "fault_action",
    "fault_class", "fault_stimulus", "ground_truth", "ground_truth_ref", "journey_failed", "kafka_error",
    "kafka_fault_log", "kafka_log_error", "locked_test", "payment_error", "sealed_truth"]

theorem mem_kinds (kind : Kind) : kind ∈ EVIDENCE_KINDS := by cases kind <;> decide

theorem mem_services (service : Service) : service ∈ V3_TRACE_QUERY_SERVICES := by
  cases service <;> decide

theorem Kind.value_injective : Function.Injective Kind.value := by
  intro kind kind' h
  cases kind <;> cases kind' <;> first | rfl | exact absurd h (by decide)

/-! ### Mappings -/

def mapping : Json → Option Document
  | .obj fields => some fields
  | _ => none

/-- The method `get`. -/
def get (fields : Document) (key : String) : Json := (fields.lookup key).getD .null

/-- The keys of a mapping are the given ones. -/
def keysAre (fields : Document) (names : List String) : Bool :=
  (fields.all fun f => f.1 ∈ names) && names.all fun name => (fields.lookup name).isSome

/-- The integers below a bound, as a document has them. -/
def indices (n : ℕ) : List Json := (List.range n).map fun (i : ℕ) => .int i

/-! ### The validator -/

def evidenceIdV3 (caseId : String) (kind : Kind) : String :=
  "ev3-" ++ String.ofList ((r.sha256 (caseId ++ "\x00" ++ "3" ++ "\x00" ++ kind.value)).toList.take 24)

def finiteMeasurement : Json → Except Raised Bool
  | .bool _ => .ok false
  | .int n => do
    let x ← r.float (.int n)
    return r.isfinite x
  | .float text => do
    let x ← r.float (.float text)
    return r.isfinite x
  | _ => .ok false

/-- A window of the registry. -/
def windowSound (item : Json) : Bool :=
  match mapping item with
  | none => false
  | some window =>
    keysAre window ["index", "phase", "recorded_at"] &&
      match get window "recorded_at" with
      | .str recordedAt => recordedAt ≠ ""
      | _ => false

def windowsComplete : Json → Bool
  | .arr items =>
    let windows := items.filterMap mapping
    items.length = HEALTHY_WINDOW_COUNT + FAULT_WINDOW_COUNT &&
      r.same (.arr (windows.map fun window => get window "index")) (.arr (indices 7)) &&
      r.same (.arr (windows.map fun window => get window "phase"))
        (.arr (phases.map fun phase => .str phase.value)) &&
      items.all windowSound
  | _ => false

def kindOf (group : Document) : Except Raised Kind :=
  match EVIDENCE_KINDS.find? fun kind => kind.value = r.str (get group "kind") with
  | some kind => .ok kind
  | none => .error .builtin

/-- The samples of a group. -/
def checkSamples (kind : Kind) : Json → Except Raised (List Document)
  | .arr items =>
    let samples := items.filterMap mapping
    if items.length ≠ 7 then
      .error (.datasetIncomplete "metric v3 evidence group must contain seven real samples")
    else if ¬(samples.length = items.length ∧
        samples.all fun sample => keysAre sample (GROUP_SAMPLE_FIELDS kind)) then
      .error (.datasetIncomplete ("metric v3 evidence sample fields drifted for " ++ kind.value))
    else if ¬r.same (.arr (samples.map fun sample => get sample "window_index")) (.arr (indices 7)) then
      .error (.datasetIncomplete "metric v3 evidence samples do not cover all seven windows")
    else .ok samples
  | _ => .error (.datasetIncomplete "metric v3 evidence group must contain seven real samples")

def journeySound (sample : Document) : Bool :=
  match get sample "ready", get sample "status_code" with
  | .bool _, .int _ => true
  | _, _ => false

def descriptionsSound : Json → Bool
  | .arr items => items.all fun
      | .str _ => true
      | _ => false
  | _ => false

/-- The fields of what is measured of a service. -/
def serviceFields : Kind → List String
  | .traceActivity => ["trace_count"]
  | _ => ["connection_error_count", "descriptions", "error_count"]

def serviceSound (kind : Kind) (measurement : Document) : Except Raised Bool :=
  if ¬keysAre measurement (serviceFields kind) then .ok false
  else
    match kind with
    | .traceActivity => finiteMeasurement r (get measurement "trace_count")
    | _ => do
      if ← finiteMeasurement r (get measurement "connection_error_count") then
        if ← finiteMeasurement r (get measurement "error_count") then
          return descriptionsSound (get measurement "descriptions")
        else return false
      else return false

def checkService (kind : Kind) (services : Document) (service : Service) : Except Raised Unit :=
  match mapping (get services service.value) with
  | none => .error (.datasetIncomplete
      ("metric v3 " ++ kind.value ++ " service measurement is not an object"))
  | some measurement => do
    if ← serviceSound r kind measurement then return ()
    else throw (.datasetIncomplete ("metric v3 " ++ kind.value ++ " service fields drifted"))

def checkServices (kind : Kind) (sample : Document) : Except Raised Unit :=
  let drifted := Raised.datasetIncomplete ("metric v3 " ++ kind.value ++ " sample service set drifted")
  match mapping (get sample "services") with
  | none => .error drifted
  | some services =>
    if ¬keysAre services (V3_TRACE_QUERY_SERVICES.map Service.value) then .error drifted
    else V3_TRACE_QUERY_SERVICES.forM (checkService r kind services)

def serviceScope : Json := .arr (V3_TRACE_QUERY_SERVICES.map fun service => .str service.value)

def checkMeasurements (kind : Kind) (group : Document) (samples : List Document) : Except Raised Unit :=
  match kind with
  | .journeyWindow =>
    if samples.all journeySound then .ok ()
    else .error (.datasetIncomplete "metric v3 journey samples contain invalid measurements")
  | .traceActivity | .traceErrors =>
    if ¬r.same (get group "service_scope") serviceScope then
      .error (.datasetIncomplete ("metric v3 " ++ kind.value ++ " service scope drifted"))
    else samples.forM (checkServices r kind)
  | .cpuWindow | .memoryWindow | .queueWindow => do
    let sound ← samples.allM fun sample =>
      (measurementFields kind).allM fun field => finiteMeasurement r (get sample field)
    if sound then return ()
    else throw (.datasetIncomplete
      ("metric v3 " ++ kind.value ++ " samples contain invalid measurements"))

def checkGroup (caseId : String) (item : Json) : Except Raised Bool :=
  match mapping item with
  | none => .error (.datasetIncomplete "metric v3 evidence group is not an object")
  | some group => do
    let kind ← kindOf r group
    if ¬keysAre group (GROUP_FIELDS kind) then
      throw (.datasetIncomplete ("metric v3 evidence group fields drifted for " ++ kind.value))
    if ¬r.same (get group "id") (.str (evidenceIdV3 r caseId kind)) then
      throw (.governance "metric v3 evidence ID is not kind-derived and opaque")
    let samples ← checkSamples r kind (get group "samples")
    checkMeasurements r kind group samples
    return !samples.isEmpty

mutual

/-- The function `_walk_forbidden`, before it makes a set of what it has found. -/
def walkForbidden : Json → List String
  | .obj fields => walkFields fields
  | .arr items => walkItems items
  | _ => []

def walkFields : List (String × Json) → List String
  | [] => []
  | (name, child) :: fields =>
    (if name ∈ FORBIDDEN_PUBLIC_KEYS ∨ "stimulus".toList <:+: (r.casefold name).toList then [name]
      else []) ++ walkForbidden child ++ walkFields fields

def walkItems : List Json → List String
  | [] => []
  | child :: items => walkForbidden child ++ walkItems items

end

def digestJson (value : Json) : String := r.sha256 value.dumps

/-- What the digest of a packet is taken of. -/
def digested (packet : Document) : Json := .obj (packet.filter fun f => f.1 ≠ "packet_digest")

def packetFields : List String :=
  ["schema_version", "metric_version", "case_id", "problem_brief", "evidence_catalog_version", "windows",
    "observations", "packet_digest"]

def WIRE_SCHEMA_VERSION : String := "2.0.0"

def METRIC_VERSION : ℤ := 3

def items : Json → List Json
  | .arr items => items
  | _ => []

/-- The groups of a packet that are mappings. -/
def groups (packet : Document) : List Document := (items (get packet "observations")).filterMap mapping

def observationsComplete : Json → Bool
  | .arr items => items.length = EVIDENCE_KINDS.length
  | _ => false

/-- Each kind is there once. -/
def kindsComplete (packet : Document) : Bool :=
  let kinds := (groups packet).map fun group => r.str (get group "kind")
  (kinds.all fun kind => kind ∈ EVIDENCE_KINDS.map Kind.value) &&
    (EVIDENCE_KINDS.all fun kind => kind.value ∈ kinds) && kinds.length = EVIDENCE_KINDS.length

/-- The function `validate_observation_packet_v3`; the signature of an accepted packet is returned. -/
def validateObservationPacketV3 (packet : Document) : Except Raised (List Bool) := do
  if ¬keysAre packet packetFields then
    throw (.datasetIncomplete "metric v3 public packet top-level shape drifted")
  if ¬r.same (get packet "schema_version") (.str WIRE_SCHEMA_VERSION) then
    throw (.datasetIncomplete "metric v3 wire schema version drifted")
  if ¬r.same (get packet "metric_version") (.int METRIC_VERSION) then
    throw (.datasetIncomplete "metric v3 semantic version drifted")
  if ¬windowsComplete r (get packet "windows") then
    throw (.datasetIncomplete "metric v3 packet window registry is incomplete")
  if ¬observationsComplete (get packet "observations") then
    throw (.datasetIncomplete "metric v3 packet must contain exactly six evidence groups")
  if ¬kindsComplete r packet then
    throw (.datasetIncomplete "metric v3 evidence kinds are incomplete or duplicated")
  let signatures ← (items (get packet "observations")).mapM
    (checkGroup r (r.str (get packet "case_id")))
  let forbidden := ((walkForbidden r (.obj packet)).dedup).mergeSort fun s t => s ≤ t
  if forbidden ≠ [] then
    throw (.governance ("metric v3 public packet contains sealed/evaluator fields: " ++
      ", ".intercalate forbidden))
  if ¬r.same (get packet "packet_digest") (.str (digestJson r (digested packet))) then
    throw (.governance "metric v3 packet digest is stale")
  return signatures

variable {r}

variable {kind : Kind} {j : Json} {samples : List Document}

/-! ### What is accepted -/

theorem filterMap_mapping (samples : List Document) :
    (samples.map Json.obj).filterMap mapping = samples := by
  induction samples with
  | nil => rfl
  | cons sample samples ih =>
    rw [List.map_cons, List.filterMap_cons_some (rfl : mapping (.obj sample) = some sample), ih]

theorem eq_map_of_length {items : List Json} (h : (items.filterMap mapping).length = items.length) :
    items = (items.filterMap mapping).map .obj := by
  induction items with
  | nil => rfl
  | cons item items ih =>
    cases hitem : mapping item with
    | none =>
      rw [List.filterMap_cons_none hitem, List.length_cons] at h
      have hle := List.length_filterMap_le mapping items
      omega
    | some fields =>
      rw [List.filterMap_cons_some hitem, List.length_cons, List.length_cons] at h
      rw [List.filterMap_cons_some hitem, List.map_cons, ← ih (Nat.succ.inj h)]
      cases item <;> cases hitem
      rfl

theorem checkSamples_eq_ok_iff :
    checkSamples r kind j = .ok samples ↔
      j = .arr (samples.map .obj) ∧ samples.length = 7 ∧
        (∀ sample ∈ samples, keysAre sample (GROUP_SAMPLE_FIELDS kind) = true) ∧
        r.same (.arr (samples.map fun sample => get sample "window_index")) (.arr (indices 7)) = true := by
  constructor
  · intro h
    cases j with
    | arr items =>
      dsimp only [checkSamples] at h
      split at h
      · cases h
      rename_i hlength
      split at h
      · cases h
      rename_i hfields
      split at h
      · cases h
      rename_i hindices
      cases h
      obtain ⟨hall, hkeys⟩ := not_not.1 hfields
      refine ⟨congrArg Json.arr (eq_map_of_length hall), hall.trans (not_not.1 hlength), ?_,
        by simpa using hindices⟩
      exact List.all_eq_true.1 hkeys
    | null | bool | int | float | str | obj => cases h
  · rintro ⟨rfl, hlength, hkeys, hindices⟩
    dsimp only [checkSamples]
    rw [filterMap_mapping, List.length_map, if_neg (not_not_intro hlength),
      if_neg (not_not_intro ⟨rfl, List.all_eq_true.2 hkeys⟩), if_neg (not_not_intro hindices)]

/-- What the checks of an accepted packet have found. -/
structure Accepted (r : Runtime F) (packet : Document) : Prop where
  fields : keysAre packet packetFields = true
  schemaVersion : r.same (get packet "schema_version") (.str WIRE_SCHEMA_VERSION) = true
  metricVersion : r.same (get packet "metric_version") (.int METRIC_VERSION) = true
  windows : windowsComplete r (get packet "windows") = true
  observations : observationsComplete (get packet "observations") = true
  kinds : kindsComplete r packet = true
  groups : ∀ item ∈ items (get packet "observations"),
    checkGroup r (r.str (get packet "case_id")) item = .ok true
  forbidden : walkForbidden r (.obj packet) = []
  digest : r.same (get packet "packet_digest") (.str (digestJson r (digested packet))) = true

theorem checkGroup_eq_ok_iff {caseId : String} {item : Json} {b : Bool} :
    checkGroup r caseId item = .ok b ↔
      b = true ∧ ∃ group kind samples, item = .obj group ∧ kindOf r group = .ok kind ∧
        keysAre group (GROUP_FIELDS kind) = true ∧
        r.same (get group "id") (.str (evidenceIdV3 r caseId kind)) = true ∧
        checkSamples r kind (get group "samples") = .ok samples ∧
        checkMeasurements r kind group samples = .ok () := by
  constructor
  · intro h
    cases item with
    | obj group =>
      obtain ⟨kind, hkind, h⟩ := bind_eq_ok.1 h
      simp only [check_eq_ok, not_not] at h
      obtain ⟨hfields, hid, h⟩ := h
      obtain ⟨samples, hsamples, h⟩ := bind_eq_ok.1 h
      obtain ⟨⟨⟩, hmeasured, h⟩ := bind_eq_ok.1 h
      cases h
      refine ⟨?_, group, kind, samples, rfl, hkind, hfields, hid, hsamples, hmeasured⟩
      obtain ⟨-, hlength, -⟩ := checkSamples_eq_ok_iff.1 hsamples
      cases samples with
      | nil => cases hlength
      | cons sample samples => rfl
    | null | bool | int | float | str | arr => cases h
  · rintro ⟨rfl, group, kind, samples, rfl, hkind, hfields, hid, hsamples, hmeasured⟩
    refine bind_eq_ok.2 ⟨kind, hkind, check_eq_ok.2 ⟨not_not_intro hfields, check_eq_ok.2
      ⟨not_not_intro hid, bind_eq_ok.2 ⟨samples, hsamples, bind_eq_ok.2 ⟨(), hmeasured, ?_⟩⟩⟩⟩⟩
    obtain ⟨-, hlength, -⟩ := checkSamples_eq_ok_iff.1 hsamples
    cases samples with
    | nil => cases hlength
    | cons sample samples => rfl

theorem sorted_eq_nil_iff (names : List String) :
    (names.dedup.mergeSort fun s t => decide (s ≤ t)) = [] ↔ names = [] := by
  rw [← List.length_eq_zero_iff, List.length_mergeSort, List.length_eq_zero_iff, List.dedup_eq_nil]

variable {packet : Document}

theorem validate_eq_ok_iff {signatures : List Bool} :
    validateObservationPacketV3 r packet = .ok signatures ↔
      Accepted r packet ∧ signatures = List.replicate 6 true := by
  have hsix : ∀ {found : List Bool}, observationsComplete (get packet "observations") = true →
      (items (get packet "observations")).mapM (checkGroup r (r.str (get packet "case_id"))) = .ok found →
      (∀ item ∈ items (get packet "observations"),
        checkGroup r (r.str (get packet "case_id")) item = .ok true) ∧ found = List.replicate 6 true := by
    intro found hcomplete hfound
    have hlength : (items (get packet "observations")).length = 6 := by
      cases hobservations : get packet "observations" <;> rw [hobservations] at hcomplete <;>
        exact of_decide_eq_true hcomplete
    have hall := mapM_eq_ok.1 hfound
    constructor
    · intro item hitem
      obtain ⟨b, hb⟩ := mem_of_mapM_eq_ok hfound hitem
      rw [hb, (checkGroup_eq_ok_iff.1 hb).1]
    · refine List.eq_replicate_iff.2 ⟨hall.length_eq.symm.trans hlength, fun b hb => ?_⟩
      obtain ⟨item, -, hitem⟩ := of_mem_mapM_eq_ok hfound hb
      exact (checkGroup_eq_ok_iff.1 hitem).1
  unfold validateObservationPacketV3
  simp only [check_eq_ok, bind_eq_ok, not_not]
  constructor
  · rintro ⟨hfields, hschema, hmetric, hwindows, hobservations, hkinds, found, hfound, hforbidden,
      hdigest, h⟩
    cases h
    obtain ⟨hgroups, rfl⟩ := hsix hobservations hfound
    refine ⟨⟨hfields, hschema, hmetric, hwindows, hobservations, hkinds, hgroups, ?_, hdigest⟩, rfl⟩
    exact (sorted_eq_nil_iff _).1 (by simpa using hforbidden)
  · rintro ⟨h, rfl⟩
    obtain ⟨found, hfound⟩ := exists_mapM_eq_ok fun item hitem => ⟨true, h.groups item hitem⟩
    obtain ⟨-, rfl⟩ := hsix h.observations hfound
    refine ⟨h.fields, h.schemaVersion, h.metricVersion, h.windows, h.observations, h.kinds, _, hfound, ?_,
      h.digest, rfl⟩
    exact (sorted_eq_nil_iff _).2 h.forbidden

/-! ### What can be read -/

/-- A number that is finite as a float. -/
def Finite (r : Runtime F) (j : Json) : Prop := finiteMeasurement r j = .ok true

/-- The members of a sample that are counted or measured. -/
def countFields : Kind → List String
  | .journeyWindow => []
  | .traceActivity => ["trace_count"]
  | .traceErrors => ["connection_error_count", "error_count"]
  | kind => measurementFields kind

/-- A member of a mapping. -/
def member (fields : Document) (key : String) : Except Raised Json :=
  (fields.lookup key).elim (.error .builtin) .ok

/-- A member that is a mapping. -/
def memberFields (fields : Document) (key : String) : Except Raised Document := do
  let j ← member fields key
  (mapping j).elim (.error .builtin) .ok

/-- The value of a field in a sample: that of a service, if the kind has services. -/
def reading (kind : Kind) (service : Service) (field : String) (sample : Document) : Except Raised Json :=
  match kind with
  | .traceActivity | .traceErrors => do
    let services ← memberFields sample "services"
    let measurement ← memberFields services service.value
    member measurement field
  | _ => member sample field

/-- What can be read from the samples of a group. -/
structure Measured (r : Runtime F) (kind : Kind) (samples : List Document) : Prop where
  length : samples.length = 7
  fields : ∀ sample ∈ samples, keysAre sample (GROUP_SAMPLE_FIELDS kind) = true
  indices : r.same (.arr (samples.map fun sample => get sample "window_index")) (.arr (indices 7)) = true
  values : ∀ sample ∈ samples, ∀ service, ∀ field ∈ countFields kind,
    ∃ j, reading kind service field sample = .ok j ∧ Finite r j

variable {fields : Document} {key : String} {names : List String} {js : List Json}

theorem member_of_keysAre (h : keysAre fields names = true) (hkey : key ∈ names) :
    member fields key = .ok (get fields key) := by
  have hsome := List.all_eq_true.1 (Bool.and_eq_true_iff.1 h).2 key hkey
  rw [member, get]
  cases hlookup : fields.lookup key with
  | none =>
    rw [hlookup] at hsome
    cases hsome
  | some j => rfl

theorem eq_obj_of_mapping (h : mapping j = some fields) : j = .obj fields := by
  cases j <;> cases h
  rfl

theorem member_of_get (h : get fields key = j) (hj : j ≠ .null) : member fields key = .ok j := by
  rw [get] at h
  rw [member]
  cases hlookup : fields.lookup key with
  | none =>
    rw [hlookup] at h
    exact absurd h.symm hj
  | some value =>
    rw [hlookup] at h
    exact congrArg Except.ok h

theorem lookup_of_member (h : member fields key = .ok j) : fields.lookup key = some j := by
  rw [member] at h
  cases hlookup : fields.lookup key with
  | none =>
    rw [hlookup] at h
    cases h
  | some value =>
    rw [hlookup] at h
    exact congrArg some (Except.ok.inj h)

theorem lookup_of_memberFields {inner : Document} (h : memberFields fields key = .ok inner) :
    fields.lookup key = some (.obj inner) := by
  obtain ⟨j, hj, h⟩ := bind_eq_ok.1 h
  cases hmapping : mapping j with
  | none =>
    rw [hmapping] at h
    cases h
  | some found =>
    rw [hmapping] at h
    rw [lookup_of_member hj, eq_obj_of_mapping hmapping, Except.ok.inj h]

theorem memberFields_of_keysAre {inner : Document} (h : keysAre fields names = true)
    (hkey : key ∈ names) (hinner : get fields key = .obj inner) :
    memberFields fields key = .ok inner := by
  rw [memberFields, member_of_keysAre h hkey, hinner]
  rfl

theorem allM_eq_ok_true {α : Type} {f : α → Except Raised Bool} {as : List α} :
    as.allM f = .ok true ↔ ∀ a ∈ as, f a = .ok true := by
  induction as with
  | nil => simp [List.allM, pure, Except.pure]
  | cons a as ih =>
    rw [List.allM, bind_eq_ok, List.forall_mem_cons, ← ih]
    constructor
    · rintro ⟨b, hb, h⟩
      cases b with
      | false => cases h
      | true => exact ⟨hb, h⟩
    · rintro ⟨ha, h⟩
      exact ⟨true, ha, h⟩

theorem finite_of_serviceSound {measurement : Document}
    (hkind : kind ∈ [Kind.traceActivity, .traceErrors])
    (h : serviceSound r kind measurement = .ok true) :
    keysAre measurement (serviceFields kind) = true ∧
      ∀ field ∈ countFields kind, Finite r (get measurement field) := by
  unfold serviceSound at h
  split at h
  · cases h
  rename_i hkeys
  refine ⟨not_not.1 hkeys, fun field hfield => ?_⟩
  rcases List.mem_cons.1 hkind with rfl | hkind
  · rw [List.mem_singleton.1 hfield]
    exact h
  · rw [List.mem_singleton.1 hkind] at h hfield
    obtain ⟨connection, hconnection, h⟩ := bind_eq_ok.1 h
    cases connection with
    | false => cases h
    | true =>
      obtain ⟨errors, herrors, h⟩ := bind_eq_ok.1 h
      cases errors with
      | false => cases h
      | true =>
        rcases List.mem_cons.1 hfield with rfl | hfield
        · exact hconnection
        · rw [List.mem_singleton.1 hfield]
          exact herrors

theorem readings_of_checkServices {sample : Document}
    (hkind : kind ∈ [Kind.traceActivity, .traceErrors])
    (hfields : keysAre sample (GROUP_SAMPLE_FIELDS kind) = true)
    (h : checkServices r kind sample = .ok ()) (service : Service) {field : String}
    (hfield : field ∈ countFields kind) :
    ∃ j, reading kind service field sample = .ok j ∧ Finite r j := by
  unfold checkServices at h
  dsimp only at h
  split at h
  · cases h
  rename_i services hservices
  split at h
  · cases h
  rename_i hkeys
  have hservice := forM_eq_ok.1 h service (mem_services service)
  unfold checkService at hservice
  split at hservice
  · cases hservice
  rename_i measurement hmeasurement
  obtain ⟨sound, hsound, hservice⟩ := bind_eq_ok.1 hservice
  cases sound with
  | false => cases hservice
  | true =>
    obtain ⟨hmembers, hfinite⟩ := finite_of_serviceSound hkind hsound
    refine ⟨get measurement field, ?_, hfinite field hfield⟩
    have hread : reading kind service field sample = (do
        let services ← memberFields sample "services"
        let measurement ← memberFields services service.value
        member measurement field) := by
      rcases List.mem_cons.1 hkind with rfl | hkind
      · rfl
      · rw [List.mem_singleton.1 hkind]
        rfl
    have hmem : "services" ∈ GROUP_SAMPLE_FIELDS kind := by
      rcases List.mem_cons.1 hkind with rfl | hkind
      · decide
      · rw [List.mem_singleton.1 hkind]
        decide
    have hcount : field ∈ serviceFields kind := by
      rcases List.mem_cons.1 hkind with rfl | hkind
      · exact hfield
      · rw [List.mem_singleton.1 hkind] at hfield ⊢
        simp only [countFields, serviceFields, List.mem_cons, List.not_mem_nil, or_false] at hfield ⊢
        exact hfield.imp_right .inr
    rw [hread]
    refine bind_eq_ok.2 ⟨services, memberFields_of_keysAre hfields hmem ?_, bind_eq_ok.2 ⟨measurement,
      memberFields_of_keysAre (not_not.1 hkeys) (List.mem_map_of_mem (mem_services service)) ?_,
      member_of_keysAre hmembers hcount⟩⟩
    · exact eq_obj_of_mapping hservices
    · exact eq_obj_of_mapping hmeasurement

theorem sound_of_bind {x : Except Raised Bool} {err : Raised}
    (h : (do if ← x then return () else throw err : Except Raised Unit) = .ok ()) : x = .ok true := by
  obtain ⟨sound, hsound, h⟩ := bind_eq_ok.1 h
  cases sound with
  | false => cases h
  | true => exact hsound

theorem measured_of_checks {group : Document} (hsamples : checkSamples r kind j = .ok samples)
    (hmeasured : checkMeasurements r kind group samples = .ok ()) : Measured r kind samples := by
  obtain ⟨-, hlength, hfields, hindices⟩ := checkSamples_eq_ok_iff.1 hsamples
  refine ⟨hlength, hfields, hindices, fun sample hsample service field hfield => ?_⟩
  cases kind with
  | journeyWindow => cases hfield
  | traceActivity | traceErrors =>
    dsimp only [checkMeasurements] at hmeasured
    split at hmeasured
    · cases hmeasured
    · exact readings_of_checkServices (by decide) (hfields sample hsample)
        (forM_eq_ok.1 hmeasured sample hsample) service hfield
  | cpuWindow | memoryWindow | queueWindow =>
    have hall := allM_eq_ok_true.1 (sound_of_bind hmeasured) sample hsample
    exact ⟨get sample field, member_of_keysAre (hfields sample hsample) (List.mem_cons_of_mem _ hfield),
      allM_eq_ok_true.1 hall field hfield⟩

theorem kindOf_eq_ok_iff {group : Document} :
    kindOf r group = .ok kind ↔ r.str (get group "kind") = kind.value := by
  rw [kindOf]
  constructor
  · intro h
    split at h
    · rename_i found hfound
      cases h
      exact (by simpa using List.find?_some hfound : kind.value = _).symm
    · cases h
  · intro h
    cases hfind : EVIDENCE_KINDS.find? fun kind => kind.value = r.str (get group "kind") with
    | none =>
      have hnone := List.find?_eq_none.1 hfind kind (mem_kinds kind)
      simp [h] at hnone
    | some found =>
      have hfound : found.value = r.str (get group "kind") := by simpa using List.find?_some hfind
      rw [Kind.value_injective (hfound.trans h)]

theorem nodup_kinds (h : kindsComplete r packet = true) :
    ((groups packet).map fun group => r.str (get group "kind")).Nodup := by
  unfold kindsComplete at h
  obtain ⟨⟨-, hall⟩, hlength⟩ := (Bool.and_eq_true_iff.1 h).imp_left Bool.and_eq_true_iff.1
  have hnodup : (EVIDENCE_KINDS.map Kind.value).Nodup := by decide
  have hsubset : EVIDENCE_KINDS.map Kind.value ⊆
      (groups packet).map fun group => r.str (get group "kind") := by
    intro value hvalue
    obtain ⟨kind, hkind, rfl⟩ := List.mem_map.1 hvalue
    simpa using List.all_eq_true.1 hall kind hkind
  have hle := (of_decide_eq_true hlength).le
  have hperm := (List.subperm_of_subset hnodup hsubset).perm_of_length_le (by simpa using hle)
  exact hperm.nodup_iff.1 hnodup

theorem find?_of_unique {α : Type} {p : α → Bool} {as : List α} {a : α} (ha : a ∈ as) (hp : p a = true)
    (h : ∀ b ∈ as, p b = true → b = a) : as.find? p = some a := by
  cases hfound : as.find? p with
  | none => exact absurd hp (List.find?_eq_none.1 hfound a ha)
  | some b => rw [h b (List.mem_of_find?_eq_some hfound) (List.find?_some hfound)]

/-- **An accepted packet has one group of each kind**, in whose samples everything can be read. -/
theorem exists_group (h : Accepted r packet) (kind : Kind) :
    ∃ group ∈ groups packet, r.str (get group "kind") = kind.value ∧
      (∀ other ∈ groups packet, r.str (get other "kind") = kind.value → other = group) ∧
      ∃ samples, get group "samples" = .arr (samples.map .obj) ∧ Measured r kind samples := by
  have hkinds := h.kinds
  unfold kindsComplete at hkinds
  obtain ⟨⟨-, hall⟩, -⟩ := (Bool.and_eq_true_iff.1 hkinds).imp_left Bool.and_eq_true_iff.1
  have hmem : kind.value ∈ (groups packet).map fun group => r.str (get group "kind") := by
    simpa using List.all_eq_true.1 hall kind (mem_kinds kind)
  obtain ⟨group, hgroup, hkind⟩ := List.mem_map.1 hmem
  refine ⟨group, hgroup, hkind, fun other hother heq => ?_, ?_⟩
  · exact List.inj_on_of_nodup_map (nodup_kinds h.kinds) hother hgroup (heq.trans hkind.symm)
  · obtain ⟨item, hitem, hmapping⟩ := List.mem_filterMap.1 hgroup
    obtain ⟨-, group', kind', samples, rfl, hkind', -, -, hsamples, hmeasured⟩ :=
      checkGroup_eq_ok_iff.1 (h.groups item hitem)
    cases hmapping
    have heq := (kindOf_eq_ok_iff.1 hkind').symm.trans hkind
    cases Kind.value_injective heq
    exact ⟨samples, (checkSamples_eq_ok_iff.1 hsamples).1, measured_of_checks hsamples hmeasured⟩

/-! ### Comparisons -/

theorem same_str_iff {s : String} : r.same j (.str s) = true ↔ j = .str s := by
  rw [Runtime.same]
  cases j <;> simp [equal, integer]

theorem same_arr_iff {ks : List Json} :
    r.same (.arr js) (.arr ks) = true ↔ List.Forall₂ (fun j k => r.same j k = true) js ks := by
  rw [Runtime.same, equal]
  induction js generalizing ks with
  | nil => cases ks <;> simp [equalItems]
  | cons j js ih =>
    cases ks with
    | nil => simp [equalItems]
    | cons k ks => rw [equalItems, Bool.and_eq_true_iff, ih, List.forall₂_cons, Runtime.same]

theorem same_strs_iff {texts : List String} :
    r.same (.arr js) (.arr (texts.map .str)) = true ↔ js = texts.map .str := by
  rw [same_arr_iff, List.forall₂_map_right_iff]
  simp only [same_str_iff]
  induction texts generalizing js with
  | nil => rw [List.forall₂_nil_right_iff, List.map_nil]
  | cons text texts ih =>
    rw [List.forall₂_cons_right_iff, List.map_cons]
    simp only [ih]
    constructor
    · rintro ⟨j, js, rfl, rfl, rfl⟩
      rfl
    · rintro rfl
      exact ⟨_, _, rfl, rfl, rfl⟩

theorem same_indices_iff {n : ℕ} :
    r.same (.arr js) (.arr (indices n)) = true ↔
      js.length = n ∧ ∀ i (h : i < js.length), r.same (js.get ⟨i, h⟩) (.int i) = true := by
  rw [same_arr_iff, indices, List.forall₂_map_right_iff, List.forall₂_iff_get]
  constructor
  · rintro ⟨hlength, h⟩
    rw [List.length_range] at hlength
    exact ⟨hlength, fun i hi => by simpa using h i hi (by rw [List.length_range]; omega)⟩
  · rintro ⟨hlength, h⟩
    exact ⟨hlength.trans List.length_range.symm, fun i hi hi' => by simpa using h i hi⟩

/-! ### The windows -/

/-- What can be read from the registry of the windows. -/
structure Registry (r : Runtime F) (packet : Document) (windows : List Document) : Prop where
  registered : get packet "windows" = .arr (windows.map .obj)
  length : windows.length = 7
  index : ∀ i (h : i < windows.length), r.same (get (windows.get ⟨i, h⟩) "index") (.int i) = true
  phase : (windows.map fun window => get window "phase") = phases.map fun phase => .str phase.value

theorem exists_windows (h : Accepted r packet) : ∃ windows, Registry r packet windows := by
  have hcomplete := h.windows
  cases hwindows : get packet "windows" with
  | arr items =>
    rw [hwindows] at hcomplete
    simp only [windowsComplete, Bool.and_eq_true, decide_eq_true_eq] at hcomplete
    obtain ⟨⟨⟨hlength, hindices⟩, hphases⟩, hsound⟩ := hcomplete
    have hmappings : (items.filterMap mapping).length = items.length := by
      have hcount := (same_indices_iff.1 hindices).1
      rw [List.length_map] at hcount
      exact hcount.trans hlength.symm
    have hitems := eq_map_of_length hmappings
    refine ⟨items.filterMap mapping, hwindows.trans (congrArg Json.arr hitems),
      hmappings.trans hlength, fun i hi => ?_, ?_⟩
    · have hindex := (same_indices_iff.1 hindices).2 i (by rwa [List.length_map])
      simpa using hindex
    · have hstrs : (phases.map fun phase => Json.str phase.value) =
          (phases.map Phase.value).map .str := by
        rw [List.map_map]
        rfl
      rw [hstrs] at hphases ⊢
      exact same_strs_iff.1 hphases
  | null | bool | int | float | str | obj =>
    rw [hwindows] at hcomplete
    cases hcomplete

end MetricV3
