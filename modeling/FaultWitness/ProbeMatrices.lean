/-
**Probe matrices with a journal.**

A matrix of the isolation gate is a list of items: cells of the access matrix, stages of a trace,
surfaces of a canary scan.  The collector provisions, takes from the journal what it can, asks the
backend for the rest, and records every item.  The access matrix asks for one cell at a time; the
other two ask once for all items and judge both the list (its length, and the order of the names in
it) and every item.  Only the verdict on an item is recorded under it.

A later call goes by the records.  Where the list alone was at fault, all of them are passes, and
the later call passes too; and the record of an item that an earlier call left running keeps its
key, so that under another key the failure is not found again.

Main definitions:
* `ProbeMatrices.reusable`, `ProbeMatrices.terminalResult` - what a record answers
* `ProbeMatrices.ensureProvisioned`, `ProbeMatrices.runAccessMatrix`,
  `ProbeMatrices.runTraceMatrix`, `ProbeMatrices.runCanaryMatrix` - the collectors
* `ProbeMatrices.StaysFailed` - later calls do not pass and do not ask
* `ProbeMatrices.Matrix.settles` - a failed item comes before any record left under another key

Main results:
* `ProbeMatrices.accessMatrix_stays` - a failed access matrix stays failed
* `ProbeMatrices.accessMatrix_recorded` - what an access matrix records for a cell it asks for
* `ProbeMatrices.Matrix.stays_iff` - a matrix collected at once stays failed exactly if it settles
* `ProbeMatrices.failed_matrices` - both together
-/
import FaultWitness.Experiments

set_option autoImplicit false

namespace ProbeMatrices

open Python FlagDocuments Experiments

/-! ### The backend and the journal -/

structure Context where
  producerSha : String
  environmentFingerprint : String

/-- A JSON object, in the order of its fields. -/
abbrev Fields := List (String × Json)

/-- How a call of the backend ends. -/
inductive Outcome
  | returned (fields : Fields)
  /-- `ProbeInfrastructureError`. -/
  | infrastructure (reason : String)
  /-- `ProbeBlockedError`. -/
  | blocked (reason : String)
  /-- Another exception. -/
  | raised

/-- The answers of a backend during one call of a collector. -/
structure Backend where
  provision : Outcome
  accessCell : String → Outcome
  traceMatrix : Outcome
  canaryMatrix : Outcome

inductive Call
  | provision
  | accessCell (cellId : String)
  | traceMatrix
  | canaryMatrix
deriving DecidableEq

/-- The journal, and the calls of the backend so far. -/
structure World where
  journal : Journal
  calls : List Call := []

/-- The exceptions that leave a collector. -/
inductive Raised
  | governance
  | typeError
  | other
deriving DecidableEq

variable (sha256 : String → String) (ctx : Context)

def unitCacheKey (unitId : String) : String :=
  digest sha256 (subject [("environment", ctx.environmentFingerprint)] []
    (digest sha256 (.str unitId)))

def boundPayload (unitId : String) (result : Fields) : Fields :=
  [("producer_sha", .str ctx.producerSha),
    ("environment_fingerprint", .str ctx.environmentFingerprint), ("unit_id", .str unitId),
    ("result", .obj result)]

/-- The function `_begin`. -/
def beginUnit (trialId unitId : String) (journal : Journal) : Journal :=
  write journal trialId (running (journal trialId) trialId ctx.producerSha
    (unitCacheKey sha256 ctx unitId) [("unit_id", .str unitId)])

/-- The method `finish` for a record that is running. -/
def finishRecord (record : Record) (status : Status) (payload : Fields) : Record :=
  { record with
    status
    recordVersion := record.recordVersion + 1
    payload
    artifactDigest := some (digest sha256 (.obj payload)) }

/-- The function `_finish`: a record that is not running is begun first. -/
def finishUnit (trialId unitId : String) (status : Status) (payload : Fields)
    (journal : Journal) : Journal :=
  match journal trialId with
  | some record =>
    if record.status = .running then write journal trialId (finishRecord sha256 record status payload)
    else
      write journal trialId (finishRecord sha256 (running (some record) trialId ctx.producerSha
        (unitCacheKey sha256 ctx unitId) [("unit_id", .str unitId)]) status payload)
  | none =>
    write journal trialId (finishRecord sha256 (running none trialId ctx.producerSha
      (unitCacheKey sha256 ctx unitId) [("unit_id", .str unitId)]) status payload)

/-- The answer of a record whose status is among some. -/
def resultOf (statuses : List Status) (record : Option Record) (unitId : String) :
    Option (Status × Fields) :=
  match record with
  | none => none
  | some record =>
    if record.status ∈ statuses ∧ record.cacheKey = unitCacheKey sha256 ctx unitId ∧
        record.payload.lookup "environment_fingerprint" = some (.str ctx.environmentFingerprint) ∧
        record.payload.lookup "unit_id" = some (.str unitId) then
      match record.payload.lookup "result" with
      | some (.obj result) => some (record.status, result)
      | _ => none
    else none

def reusable (record : Option Record) (unitId : String) : Option Fields :=
  (resultOf sha256 ctx [.pass] record unitId).map Prod.snd

def terminalResult (record : Option Record) (unitId : String) : Option (Status × Fields) :=
  resultOf sha256 ctx [.metricFail, .blocked] record unitId

/-- The truth value of a field, which may be missing. -/
def truthy : Option Json → Bool
  | none => false
  | some .null => false
  | some (.bool b) => b
  | some (.int n) => n ≠ 0
  | some (.float repr) => repr ≠ "0.0" && repr ≠ "-0.0"
  | some (.str s) => s ≠ ""
  | some (.arr items) => !items.isEmpty
  | some (.obj fields) => !fields.isEmpty

/-! ### Provisioning -/

/-- How provisioning ends if it does not succeed. -/
inductive Stopped
  | infrastructure
  | blocked
  | raised
deriving DecidableEq

def provisioned (fields : Fields) : Bool :=
  fields.lookup "status" = some (.str "pass") &&
    fields.lookup "producer_sha" = some (.str ctx.producerSha) &&
    fields.lookup "environment_fingerprint" = some (.str ctx.environmentFingerprint) &&
    truthy (fields.lookup "artifact_ref")

def ensureProvisioned (backend : Backend) (w : World) : Except Stopped Unit × World :=
  let unitId := "isolation-provisioning"
  let trialId := "g02-provisioning"
  match reusable sha256 ctx (w.journal trialId) unitId with
  | some _ => (.ok (), w)
  | none =>
    match terminalResult sha256 ctx (w.journal trialId) unitId with
    | some _ => (.error .blocked, w)
    | none =>
      let journal := beginUnit sha256 ctx trialId unitId w.journal
      let calls := .provision :: w.calls
      let finished status fields :=
        finishUnit sha256 ctx trialId unitId status (boundPayload ctx unitId fields) journal
      match backend.provision with
      | .infrastructure reason =>
        (.error .infrastructure, ⟨finished .infraFailed [("reason_code", .str reason)], calls⟩)
      | .blocked reason =>
        (.error .blocked, ⟨finished .blocked [("reason_code", .str reason)], calls⟩)
      | .raised => (.error .raised, ⟨journal, calls⟩)
      | .returned fields =>
        if provisioned ctx fields then (.ok (), ⟨finished .pass fields, calls⟩)
        else (.error .blocked, ⟨finished .blocked fields, calls⟩)

/-! ### Documents -/

structure MatrixDocument where
  schemaVersion : String
  producerSha : String
  environmentFingerprint : String
  fieldName : String
  values : List Fields
  status : Status

def matrixDocument (status : Status) (fieldName : String) (values : List Fields) :
    MatrixDocument where
  schemaVersion := "1.0.0"
  producerSha := ctx.producerSha
  environmentFingerprint := ctx.environmentFingerprint
  fieldName
  values
  status

/-- The number of a trial, with two digits at least. -/
def twoDigits (n : ℕ) : String := if n < 10 then "0" ++ toString n else toString n

theorem ofDigitChars_twoDigits (n : ℕ) : Nat.ofDigitChars 10 (twoDigits n).toList 0 = n := by
  have hrepr : Nat.ofDigitChars 10 (toString n).toList 0 = n := by
    rw [show (toString n).toList = Nat.toDigits 10 n from String.toList_ofList]
    exact Nat.ofDigitChars_ten_toDigits
  unfold twoDigits
  split
  · rw [String.toList_append]
    exact hrepr
  · exact hrepr

theorem nodup_names {α : Type} (pre : String) (items : List α) :
    ((items.zipIdx.map fun item => pre ++ twoDigits (item.2 + 1))).Nodup := by
  have hindex : (items.zipIdx.map Prod.snd).Nodup := by
    rw [List.zipIdx_map_snd]
    exact List.nodup_range'
  have hname : Function.Injective fun n => pre ++ twoDigits (n + 1) := by
    intro m n h
    have hlist := congrArg String.toList h
    simp only [String.toList_append, List.append_cancel_left_eq] at hlist
    have hnumber := congrArg (fun chars => Nat.ofDigitChars 10 chars 0) hlist
    simp only [ofDigitChars_twoDigits] at hnumber
    omega
  have hnames := hindex.map hname
  rwa [List.map_map] at hnames

/-- The document of a collector, or the exception that leaves it. -/
abbrev Result := Except Raised MatrixDocument × World

/-- A collector whose provisioning did not succeed. -/
def notProvisioned (fieldName : String) (stopped : Stopped) (w : World) : Result :=
  match stopped with
  | .infrastructure => (.ok (matrixDocument ctx .infraFailed fieldName []), w)
  | .blocked => (.ok (matrixDocument ctx .blocked fieldName []), w)
  | .raised => (.error .other, w)

/-! ### The access matrix -/

structure AccessCell where
  cellId : String
  target : String
  probe : String
  expectedAllow : Bool
deriving DecidableEq

def PRODUCT_SCHEMAS : List String :=
  ["incident", "runtime", "checkpoint", "action", "delivery", "trace_buffer"]

def PREFIX_TARGETS : List String :=
  ["scenarios", "trials", "ground-truth", "locked-tests", "evidence"]

def OBSERVABILITY_TARGETS : List String := ["prometheus", "loki", "tempo", "langsmith"]

/-- The targets with their types. -/
def accessTargets : List (String × String) :=
  PRODUCT_SCHEMAS.map (fun name => ("schema", "schema:" ++ name)) ++
    PREFIX_TARGETS.map (fun name => ("s3", "s3:g02/" ++ name ++ "/")) ++
    OBSERVABILITY_TARGETS.map fun name => ("obs", "obs:" ++ name)

def accessProbes : List String :=
  ["canonical-owner", "baseline-agent", "ordinary-developer", "cross-boundary"]

def accessCellContract : List AccessCell :=
  accessTargets.flatMap fun (targetType, target) => accessProbes.map fun probe =>
    { cellId := target ++ "|" ++ probe
      target
      probe
      expectedAllow := probe = "canonical-owner" || (probe = "baseline-agent" && targetType = "obs")
        || (probe = "cross-boundary" && target = "s3:g02/trials/") }

def AccessCell.fields (cell : AccessCell) : Fields :=
  [("cell_id", .str cell.cellId), ("target", .str cell.target), ("probe", .str cell.probe),
    ("expected_allow", .bool cell.expectedAllow)]

/-- The fields of the contract under those of the result. -/
def AccessCell.with (cell : AccessCell) (result : Fields) : Fields :=
  result.foldl (fun fields f => assign fields f.1 f.2) cell.fields

/-- What a cell's answer is worth; `none` if it does not say. -/
def cellStatus (cell : AccessCell) (fields : Fields) : Option Status :=
  match fields.lookup "actual_allow" with
  | some (.bool actual) =>
    if fields.lookup "cell_id" = some (.str cell.cellId) ∧
        truthy (fields.lookup "artifact_ref") = true then
      some (if actual = cell.expectedAllow then .pass else .metricFail)
    else none
  | _ => none

/-- The cells one after the other; the cells so far with the status in the end. -/
def accessCells (backend : Backend) :
    List (String × AccessCell) → List Fields → World → Except Raised (Status × List Fields) × World
  | [], cells, w => (.ok (.pass, cells), w)
  | (trialId, cell) :: rest, cells, w =>
    match terminalResult sha256 ctx (w.journal trialId) cell.cellId with
    | some (status, result) =>
      (.ok (status, if status = .metricFail then cells ++ [cell.with result] else cells), w)
    | none =>
      match reusable sha256 ctx (w.journal trialId) cell.cellId with
      | some result => accessCells backend rest (cells ++ [cell.with result]) w
      | none =>
        let journal := beginUnit sha256 ctx trialId cell.cellId w.journal
        let calls := .accessCell cell.cellId :: w.calls
        let finished status fields :=
          finishUnit sha256 ctx trialId cell.cellId status (boundPayload ctx cell.cellId fields)
            journal
        match backend.accessCell cell.cellId with
        | .infrastructure reason =>
          (.ok (.infraFailed, cells), ⟨finished .infraFailed [("reason_code", .str reason)], calls⟩)
        | .blocked reason =>
          (.ok (.blocked, cells), ⟨finished .blocked [("reason_code", .str reason)], calls⟩)
        | .raised => (.error .other, ⟨journal, calls⟩)
        | .returned fields =>
          match cellStatus cell fields with
          | none => (.ok (.blocked, cells), ⟨finished .blocked fields, calls⟩)
          | some status =>
            if status = .pass then
              accessCells backend rest (cells ++ [cell.with fields]) ⟨finished .pass fields, calls⟩
            else (.ok (status, cells ++ [cell.with fields]), ⟨finished status fields, calls⟩)

/-- The cells with their trials. -/
def accessEntries : List (String × AccessCell) :=
  accessCellContract.zipIdx.map fun (cell, index) => ("access-" ++ twoDigits (index + 1), cell)

def bound (document : MatrixDocument) : Bool :=
  document.producerSha = ctx.producerSha &&
    document.environmentFingerprint = ctx.environmentFingerprint

/-- A value that cannot be a member of a set or the key of a mapping. -/
def unhashable : Option Json → Bool
  | some (.arr _) => true
  | some (.obj _) => true
  | _ => false

/-- The last cell of a name answers for it, and there are no other names. -/
def validateLiveAccessMatrix (document : MatrixDocument) : Except Raised Unit :=
  let named name := document.values.reverse.find? fun fields =>
    fields.lookup "cell_id" = some (.str name)
  if bound ctx document = false then .error .governance
  else if document.values.length ≠ 60 then .error .governance
  else if document.values.any fun fields => unhashable (fields.lookup "cell_id") then
    .error .typeError
  else if document.values.any fun fields =>
      !accessCellContract.any fun cell => fields.lookup "cell_id" = some (.str cell.cellId) then
    .error .governance
  else if accessCellContract.any fun cell =>
      match named cell.cellId with
      | none => true
      | some fields => fields.lookup "actual_allow" ≠ some (.bool cell.expectedAllow) ||
          !truthy (fields.lookup "artifact_ref") then .error .governance
  else .ok ()

def runAccessMatrix (backend : Backend) (w : World) : Result :=
  match ensureProvisioned sha256 ctx backend w with
  | (.error stopped, w) => notProvisioned ctx "cells" stopped w
  | (.ok (), w) =>
    match accessCells sha256 ctx backend accessEntries [] w with
    | (.error err, w) => (.error err, w)
    | (.ok (status, cells), w) =>
      let document := matrixDocument ctx status "cells" cells
      if status = .pass then
        match validateLiveAccessMatrix ctx document with
        | .error err => (.error err, w)
        | .ok () => (.ok document, w)
      else (.ok document, w)

/-! ### Matrices collected at once -/

/-- A matrix whose items the backend answers all at once. -/
structure Matrix where
  /-- The field of the items, in the backend's answer and in the document. -/
  fieldName : String
  /-- The field with the name of an item. -/
  itemName : String
  /-- The trials with the names of their items. -/
  entries : List (String × String)
  collectionTrial : String
  collectionUnit : String
  call : Call
  ask : Backend → Outcome
  /-- The item in place of one that is missing. -/
  missing : String → Fields
  passes : Fields → Bool
  validate : Context → MatrixDocument → Except Raised Unit
  entries_ne : entries ≠ []
  trials_nodup : (entries.map Prod.fst).Nodup
  collection_notMem : collectionTrial ∉ entries.map Prod.fst
  provisioning_notMem : "g02-provisioning" ∉ collectionTrial :: entries.map Prod.fst

/-- What the records of the items say. -/
inductive Scan
  | terminal (status : Status) (items : List Fields)
  | complete (items : List Fields)
  | missing

def scan (journal : Journal) : List (String × String) → List Fields → Scan
  | [], items => .complete items
  | (trialId, unitId) :: rest, items =>
    match terminalResult sha256 ctx (journal trialId) unitId with
    | some (status, _) => .terminal status items
    | none =>
      match reusable sha256 ctx (journal trialId) unitId with
      | none => .missing
      | some result => scan journal rest (items ++ [result])

/-- The name of an item; it can be the key of a mapping unless it is a list or a mapping. -/
def Matrix.nameOf (m : Matrix) (item : Fields) : Except Raised (Option String) :=
  match item.lookup m.itemName with
  | some (.arr _) => .error .typeError
  | some (.obj _) => .error .typeError
  | some (.str name) => .ok (some name)
  -- the names of the matrix are texts, so that other keys need not be told apart
  | _ => .ok none

/-- Assigning an item to a key; a new key comes last. -/
def assignItem : List (Option String × Fields) → Option String → Fields →
    List (Option String × Fields)
  | [], name, item => [(name, item)]
  | (n, i) :: items, name, item =>
    if n = name then (n, item) :: items else (n, i) :: assignItem items name item

/-- The mappings in the backend's list, by their names. -/
def Matrix.byName (m : Matrix) : List Json → Except Raised (List (Option String × Fields)) :=
  List.foldlM (fun items value =>
    match value with
    | .obj item => (m.nameOf item).map fun name => assignItem items name item
    | _ => .ok items) []

/-- The list has one item for each name, in their order. -/
def Matrix.wellShaped (m : Matrix) (values : List Json) (items : List (Option String × Fields)) :
    Bool :=
  values.length = m.entries.length && items.map Prod.fst = m.entries.map fun e => some e.2

def Matrix.itemOf (m : Matrix) (items : List (Option String × Fields)) (unitId : String) : Fields :=
  (items.lookup (some unitId)).getD (m.missing unitId)

/-- Recording the items. -/
def Matrix.record (m : Matrix) (items : List (Option String × Fields)) :
    List (String × String) → Journal → Journal
  | [], journal => journal
  | (trialId, unitId) :: rest, journal =>
    let item := m.itemOf items unitId
    m.record items rest (finishUnit sha256 ctx trialId unitId
      (if m.passes item then .pass else .metricFail) (boundPayload ctx unitId item) journal)

/-- The collection of the items from the backend. -/
def Matrix.collect (m : Matrix) (backend : Backend) (w : World) : Result :=
  let journal := beginUnit sha256 ctx m.collectionTrial m.collectionUnit w.journal
  let calls := m.call :: w.calls
  let finished status fields :=
    finishUnit sha256 ctx m.collectionTrial m.collectionUnit status
      (boundPayload ctx m.collectionUnit fields) journal
  match m.ask backend with
  | .infrastructure reason =>
    (.ok (matrixDocument ctx .infraFailed m.fieldName []),
      ⟨finished .infraFailed [("reason_code", .str reason)], calls⟩)
  | .blocked reason =>
    (.ok (matrixDocument ctx .blocked m.fieldName []),
      ⟨finished .blocked [("reason_code", .str reason)], calls⟩)
  | .raised => (.error .other, ⟨journal, calls⟩)
  | .returned fields =>
    match fields.lookup m.fieldName with
    | some (.arr values) =>
      match m.byName values with
      | .error err => (.error err, ⟨finished .pass fields, calls⟩)
      | .ok items =>
        let ordered := m.entries.map fun e => m.itemOf items e.2
        let status :=
          if m.wellShaped values items && ordered.all m.passes then Status.pass else .metricFail
        let document := matrixDocument ctx status m.fieldName ordered
        let w := ⟨m.record sha256 ctx items m.entries (finished .pass fields), calls⟩
        if status = .pass then
          match m.validate ctx document with
          | .error err => (.error err, w)
          | .ok () => (.ok document, w)
        else (.ok document, w)
    | _ =>
      (.ok (matrixDocument ctx .blocked m.fieldName []), ⟨finished .blocked fields, calls⟩)

def Matrix.run (m : Matrix) (backend : Backend) (w : World) : Result :=
  match ensureProvisioned sha256 ctx backend w with
  | (.error stopped, w) => notProvisioned ctx m.fieldName stopped w
  | (.ok (), w) =>
    match scan sha256 ctx w.journal m.entries [] with
    | .terminal status items => (.ok (matrixDocument ctx status m.fieldName items), w)
    | .complete items =>
      let document := matrixDocument ctx .pass m.fieldName items
      match m.validate ctx document with
      | .error err => (.error err, w)
      | .ok () => (.ok document, w)
    | .missing =>
      match terminalResult sha256 ctx (w.journal m.collectionTrial) m.collectionUnit with
      | some (status, _) => (.ok (matrixDocument ctx status m.fieldName []), w)
      | none => m.collect sha256 ctx backend w

/-! ### The two matrices -/

def TRACE_STAGES : List String :=
  ["api", "persistence", "outbox", "checkpoint", "model-stub", "export"]

def CANARY_SURFACES : List String :=
  ["git-worktree", "git-history", "process-stdout", "process-stderr", "control-http",
    "control-sse", "model-prompt", "application-log", "trace-buffer", "redis-stream",
    "postgresql-state", "minio-archive", "kubernetes-object", "eval-artifact", "langsmith-export",
    "otlp-trace", "otlp-metric", "otlp-log", "g02-scenario-object", "g02-trial-object",
    "g02-evidence-object", "g02-preregistry-publication"]

/-- The trials of the items, which are numbered. -/
def numbered (name : String) (units : List String) : List (String × String) :=
  units.zipIdx.map fun (unit, index) => (name ++ "-" ++ twoDigits (index + 1), unit)

def validateStageMatrix (ctx : Context) (document : MatrixDocument) : Except Raised Unit :=
  let traceIds := document.values.map fun item => item.lookup "trace_id"
  if bound ctx document = false then .error .governance
  else if document.values.map (·.lookup "stage") ≠ TRACE_STAGES.map (fun s => some (.str s)) then
    .error .governance
  else if traceIds.any unhashable then .error .typeError
  else if traceIds.dedup.length ≠ 1 ∨ none ∈ traceIds ∨ some Json.null ∈ traceIds then
    .error .governance
  else if document.values.any fun item => item.lookup "observed" ≠ some (.bool true) ||
      !truthy (item.lookup "artifact_ref") then .error .governance
  else .ok ()

/-- The value compares equal to the number zero. -/
def isZero : Option Json → Bool
  | some (.int n) => n = 0
  | some (.bool b) => !b
  | some (.float repr) => repr = "0.0" || repr = "-0.0"
  | _ => false

def validateAllSurfaceCanary (ctx : Context) (document : MatrixDocument) : Except Raised Unit :=
  if bound ctx document = false then .error .governance
  else if document.values.map (·.lookup "surface") ≠
      CANARY_SURFACES.map (fun s => some (.str s)) then .error .governance
  else if document.values.any fun item => !isZero (item.lookup "hit_count") ||
      !truthy (item.lookup "artifact_ref") || !truthy (item.lookup "canary_digest") then
    .error .governance
  else .ok ()

def traceMatrix : Matrix where
  fieldName := "stages"
  itemName := "stage"
  entries := numbered "trace" TRACE_STAGES
  collectionTrial := "trace-collection"
  collectionUnit := "six-stage-collection"
  call := .traceMatrix
  ask := Backend.traceMatrix
  missing stage := [("stage", .str stage), ("observed", .bool false)]
  passes item := item.lookup "observed" = some (.bool true) && truthy (item.lookup "trace_id") &&
    truthy (item.lookup "artifact_ref")
  validate := validateStageMatrix
  entries_ne := by decide
  trials_nodup := by decide +kernel
  collection_notMem := by decide +kernel
  provisioning_notMem := by decide +kernel

def canaryMatrix : Matrix where
  fieldName := "surfaces"
  itemName := "surface"
  entries := numbered "canary" CANARY_SURFACES
  collectionTrial := "canary-collection"
  collectionUnit := "all-surface-collection"
  call := .canaryMatrix
  ask := Backend.canaryMatrix
  missing surface := [("surface", .str surface), ("hit_count", .int (-1))]
  passes item := isZero (item.lookup "hit_count") && truthy (item.lookup "artifact_ref") &&
    truthy (item.lookup "canary_digest")
  validate := validateAllSurfaceCanary
  entries_ne := by decide
  trials_nodup := by decide +kernel
  collection_notMem := by decide +kernel
  provisioning_notMem := by decide +kernel

def runTraceMatrix : Backend → World → Result := traceMatrix.run sha256 ctx

def runCanaryMatrix : Backend → World → Result := canaryMatrix.run sha256 ctx

/-! ### Records -/

section Records

variable {journal : Journal} {trialId unitId : String}

/-- The record was left running under a key of another context. -/
def leftRunning (journal : Journal) (trialId unitId : String) : Bool :=
  match journal trialId with
  | none => false
  | some record => record.status = .running && record.cacheKey ≠ unitCacheKey sha256 ctx unitId

variable {sha256 ctx}

theorem finishUnit_of_ne {other : String} (h : other ≠ trialId) (status : Status)
    (payload : Fields) :
    finishUnit sha256 ctx trialId unitId status payload journal other = journal other := by
  unfold finishUnit
  cases journal trialId with
  | none => exact write_of_ne h ..
  | some record =>
    by_cases hrunning : record.status = .running
    · simp only [if_pos hrunning]
      exact write_of_ne h ..
    · simp only [if_neg hrunning]
      exact write_of_ne h ..

theorem beginUnit_of_ne {other : String} (h : other ≠ trialId) :
    beginUnit sha256 ctx trialId unitId journal other = journal other :=
  write_of_ne h ..

/-- What finishing records: the key is the unit's own unless another was left there. -/
theorem finishUnit_self (status : Status) (payload : Fields) :
    ∃ record, finishUnit sha256 ctx trialId unitId status payload journal trialId = some record ∧
      record.status = status ∧ record.payload = payload ∧
      (record.cacheKey = unitCacheKey sha256 ctx unitId ↔
        leftRunning sha256 ctx journal trialId unitId = false) := by
  unfold finishUnit leftRunning
  cases hrecord : journal trialId with
  | none => exact ⟨_, write_self .., rfl, rfl, by simp [finishRecord, running]⟩
  | some record =>
    by_cases hrunning : record.status = .running
    · simp only [if_pos hrunning]
      exact ⟨_, write_self .., rfl, rfl, by simp [finishRecord, hrunning]⟩
    · simp only [if_neg hrunning]
      exact ⟨_, write_self .., rfl, rfl, by simp [finishRecord, running, hrunning]⟩

theorem leftRunning_beginUnit :
    leftRunning sha256 ctx (beginUnit sha256 ctx trialId unitId journal) trialId unitId = false := by
  simp [leftRunning, beginUnit, running]

theorem resultOf_finishUnit (statuses : List Status) (status : Status) (fields : Fields) :
    resultOf sha256 ctx statuses (finishUnit sha256 ctx trialId unitId status
      (boundPayload ctx unitId fields) journal trialId) unitId =
      if status ∈ statuses ∧ leftRunning sha256 ctx journal trialId unitId = false then
        some (status, fields) else none := by
  obtain ⟨record, hrecord, hstatus, hpayload, hkey⟩ :=
    @finishUnit_self sha256 ctx journal trialId unitId status (boundPayload ctx unitId fields)
  have hresult : record.payload.lookup "result" = some (.obj fields) := by
    rw [hpayload]
    rfl
  have hbound : record.payload.lookup "environment_fingerprint" =
      some (.str ctx.environmentFingerprint) ∧
      record.payload.lookup "unit_id" = some (.str unitId) := by
    rw [hpayload]
    exact ⟨rfl, rfl⟩
  rw [hrecord, resultOf]
  simp only [hresult, hbound, hstatus, hkey, and_true]

theorem reusable_finishUnit (fields : Fields)
    (h : leftRunning sha256 ctx journal trialId unitId = false) :
    reusable sha256 ctx (finishUnit sha256 ctx trialId unitId .pass
      (boundPayload ctx unitId fields) journal trialId) unitId = some fields := by
  rw [reusable, resultOf_finishUnit, if_pos ⟨by simp, h⟩]
  rfl

theorem terminalResult_pass (fields : Fields) :
    terminalResult sha256 ctx (finishUnit sha256 ctx trialId unitId .pass
      (boundPayload ctx unitId fields) journal trialId) unitId = none := by
  rw [terminalResult, resultOf_finishUnit, if_neg (by simp)]

theorem terminalResult_finishUnit {status : Status} (fields : Fields)
    (hstatus : status = .metricFail ∨ status = .blocked)
    (h : leftRunning sha256 ctx journal trialId unitId = false) :
    terminalResult sha256 ctx (finishUnit sha256 ctx trialId unitId status
      (boundPayload ctx unitId fields) journal trialId) unitId = some (status, fields) := by
  rw [terminalResult, resultOf_finishUnit, if_pos ⟨by simpa using hstatus, h⟩]

theorem resultOf_leftRunning {statuses : List Status} (status : Status) (fields : Fields)
    (h : leftRunning sha256 ctx journal trialId unitId = true) :
    resultOf sha256 ctx statuses (finishUnit sha256 ctx trialId unitId status
      (boundPayload ctx unitId fields) journal trialId) unitId = none := by
  rw [resultOf_finishUnit, if_neg (by simp [h])]

end Records

/-! ### Later calls -/

/-- Later calls, one after the other with any backends, do not pass and do not ask. -/
def StaysFailed (f : Backend → World → Result) : Journal → List Backend → Prop
  | _, [] => True
  | journal, backend :: backends =>
    ∃ document w, f backend ⟨journal, []⟩ = (.ok document, w) ∧ document.status ≠ .pass ∧
      w.calls = [] ∧ StaysFailed f w.journal backends

theorem staysFailed_of_quiet {f : Backend → World → Result} {journal : Journal}
    (h : ∀ backend, ∃ document, f backend ⟨journal, []⟩ = (.ok document, ⟨journal, []⟩) ∧
      document.status ≠ .pass) (backends : List Backend) : StaysFailed f journal backends := by
  induction backends with
  | nil => trivial
  | cons backend backends ih =>
    obtain ⟨document, hrun, hstatus⟩ := h backend
    exact ⟨document, ⟨journal, []⟩, hrun, hstatus, rfl, ih⟩

section Provisioning

variable {sha256 ctx} {backend : Backend} {w w' : World}

/-- What provisioning leaves: its record answers a later call the same way. -/
theorem ensureProvisioned_cases {result : Except Stopped Unit}
    (h : ensureProvisioned sha256 ctx backend w = (result, w')) :
    (∀ trialId, trialId ≠ "g02-provisioning" → w'.journal trialId = w.journal trialId) ∧
    (result = .ok () →
      (reusable sha256 ctx (w'.journal "g02-provisioning") "isolation-provisioning").isSome) ∧
    (result = .error .blocked →
      reusable sha256 ctx (w'.journal "g02-provisioning") "isolation-provisioning" = none ∧
      (terminalResult sha256 ctx (w'.journal "g02-provisioning")
        "isolation-provisioning").isSome) := by
  have hblocked : ∀ fields, reusable sha256 ctx (finishUnit sha256 ctx "g02-provisioning"
      "isolation-provisioning" .blocked (boundPayload ctx "isolation-provisioning" fields)
      (beginUnit sha256 ctx "g02-provisioning" "isolation-provisioning" w.journal)
      "g02-provisioning") "isolation-provisioning" = none := by
    intro fields
    rw [reusable, resultOf_finishUnit, if_neg (by simp)]
    rfl
  have hframe : ∀ status fields trialId, trialId ≠ "g02-provisioning" →
      finishUnit sha256 ctx "g02-provisioning" "isolation-provisioning" status
        (boundPayload ctx "isolation-provisioning" fields)
        (beginUnit sha256 ctx "g02-provisioning" "isolation-provisioning" w.journal) trialId =
      w.journal trialId := by
    intro status fields trialId hne
    rw [finishUnit_of_ne hne, beginUnit_of_ne hne]
  unfold ensureProvisioned at h
  dsimp only at h
  split at h
  · rename_i fields hreusable
    cases h
    exact ⟨fun _ _ => rfl, fun _ => (by rw [hreusable]; rfl), nofun⟩
  · rename_i hreusable
    split at h
    · rename_i result hterminal
      cases h
      exact ⟨fun _ _ => rfl, nofun,
        fun _ => ⟨hreusable, (by rw [hterminal]; rfl)⟩⟩
    · split at h
      · cases h
        exact ⟨hframe _ _, nofun, nofun⟩
      · cases h
        refine ⟨hframe _ _, nofun, fun _ => ⟨hblocked _, ?_⟩⟩
        rw [terminalResult_finishUnit _ (.inr rfl) leftRunning_beginUnit]
        rfl
      · cases h
        exact ⟨fun _ hne => beginUnit_of_ne hne, nofun,
          nofun⟩
      · split at h
        · cases h
          refine ⟨hframe _ _, fun _ => ?_, nofun⟩
          rw [reusable_finishUnit _ leftRunning_beginUnit]
          rfl
        · cases h
          refine ⟨hframe _ _, nofun, fun _ => ⟨hblocked _, ?_⟩⟩
          rw [terminalResult_finishUnit _ (.inr rfl) leftRunning_beginUnit]
          rfl

theorem ensureProvisioned_reusable
    (h : (reusable sha256 ctx (w.journal "g02-provisioning") "isolation-provisioning").isSome) :
    ensureProvisioned sha256 ctx backend w = (.ok (), w) := by
  obtain ⟨fields, hfields⟩ := Option.isSome_iff_exists.1 h
  simp only [ensureProvisioned, hfields]

theorem ensureProvisioned_terminal
    (hnone : reusable sha256 ctx (w.journal "g02-provisioning") "isolation-provisioning" = none)
    (h : (terminalResult sha256 ctx (w.journal "g02-provisioning")
      "isolation-provisioning").isSome) :
    ensureProvisioned sha256 ctx backend w = (.error .blocked, w) := by
  obtain ⟨result, hresult⟩ := Option.isSome_iff_exists.1 h
  simp only [ensureProvisioned, hnone, hresult]

end Provisioning

/-! ### The access matrix stays failed -/

section Access

variable {sha256 ctx} {backend : Backend}

variable {entries : List (String × AccessCell)} {result : Except Raised (Status × List Fields)}
  {cells : List Fields} {trialId : String} {w w' : World}

theorem accessCells_frame (h : accessCells sha256 ctx backend entries cells w = (result, w'))
    (hne : trialId ∉ entries.map Prod.fst) : w'.journal trialId = w.journal trialId := by
  induction entries generalizing cells w with
  | nil =>
    cases h
    rfl
  | cons entry rest ih =>
    obtain ⟨trial, cell⟩ := entry
    have htrial : trialId ≠ trial := List.ne_of_not_mem_cons hne
    have hrest : trialId ∉ rest.map Prod.fst := List.not_mem_of_not_mem_cons hne
    rw [accessCells] at h
    dsimp only at h
    split at h
    · cases h
      rfl
    · split at h
      · exact ih h hrest
      · split at h
        · cases h
          dsimp only
          rw [finishUnit_of_ne htrial, beginUnit_of_ne htrial]
        · cases h
          dsimp only
          rw [finishUnit_of_ne htrial, beginUnit_of_ne htrial]
        · cases h
          exact beginUnit_of_ne htrial
        · split at h
          · cases h
            dsimp only
            rw [finishUnit_of_ne htrial, beginUnit_of_ne htrial]
          · split at h
            · rw [ih h hrest]
              dsimp only
              rw [finishUnit_of_ne htrial, beginUnit_of_ne htrial]
            · cases h
              dsimp only
              rw [finishUnit_of_ne htrial, beginUnit_of_ne htrial]

/-- Cells that ended in a failure end in it again, from the records alone. -/
theorem accessCells_stays (hnodup : (entries.map Prod.fst).Nodup) {out : List Fields}
    {status : Status}
    (h : accessCells sha256 ctx backend entries cells w = (.ok (status, out), w'))
    (hstatus : status = .metricFail ∨ status = .blocked) (backend' : Backend)
    (cells' : List Fields) (calls : List Call) :
    ∃ out', accessCells sha256 ctx backend' entries cells' ⟨w'.journal, calls⟩ =
      (.ok (status, out'), ⟨w'.journal, calls⟩) := by
  induction entries generalizing cells w cells' with
  | nil =>
    cases h
    rcases hstatus with hcontra | hcontra <;> cases hcontra
  | cons entry rest ih =>
    obtain ⟨trial, cell⟩ := entry
    obtain ⟨hnot, hrest⟩ := List.nodup_cons.1 hnodup
    have hfinish : ∀ (status' : Status) fields, status' = .metricFail ∨ status' = .blocked →
        terminalResult sha256 ctx (finishUnit sha256 ctx trial cell.cellId status'
          (boundPayload ctx cell.cellId fields)
          (beginUnit sha256 ctx trial cell.cellId w.journal) trial) cell.cellId =
        some (status', fields) := by
      intro status' fields hstatus'
      exact terminalResult_finishUnit fields hstatus' leftRunning_beginUnit
    rw [accessCells] at h ⊢
    dsimp only at h ⊢
    split at h
    · rename_i result hterminal
      cases h
      simp only [hterminal]
      exact ⟨_, rfl⟩
    · rename_i hterminal
      split at h
      · rename_i result hreusable
        rw [← accessCells_frame h hnot] at hterminal hreusable
        simp only [hterminal, hreusable]
        exact ih hrest h _
      · split at h
        · cases h
          rcases hstatus with hcontra | hcontra <;> cases hcontra
        · cases h
          simp only [hfinish _ _ (.inr rfl)]
          exact ⟨_, rfl⟩
        · cases h
        · split at h
          · cases h
            simp only [hfinish _ _ (.inr rfl)]
            exact ⟨_, rfl⟩
          · rename_i status' hcell
            split at h
            · have hrecord := accessCells_frame h hnot
              rename_i fields _ _ hpass
              have hterminal : terminalResult sha256 ctx (w'.journal trial) cell.cellId = none := by
                rw [hrecord]
                exact terminalResult_pass fields
              have hreusable : reusable sha256 ctx (w'.journal trial) cell.cellId = some fields := by
                rw [hrecord]
                exact reusable_finishUnit fields leftRunning_beginUnit
              simp only [hterminal, hreusable]
              exact ih hrest h _
            · cases h
              simp only [hfinish _ _ hstatus]
              exact ⟨_, rfl⟩

/-- The status recorded for a cell that was asked for. -/
def recordedStatus (cell : AccessCell) : Outcome → Status
  | .infrastructure _ => .infraFailed
  | .blocked _ => .blocked
  | .raised => .running
  | .returned fields => (cellStatus cell fields).getD .blocked

theorem accessCells_calls (h : accessCells sha256 ctx backend entries cells w = (result, w'))
    {unitId : String} (hasked : Call.accessCell unitId ∈ w'.calls) :
    Call.accessCell unitId ∈ w.calls ∨ unitId ∈ entries.map fun e => e.2.cellId := by
  induction entries generalizing cells w with
  | nil =>
    cases h
    exact .inl hasked
  | cons entry rest ih =>
    obtain ⟨trial, cell⟩ := entry
    have hcall : ∀ {calls : List Call}, Call.accessCell unitId ∈ Call.accessCell cell.cellId :: calls →
        Call.accessCell unitId ∈ calls ∨
          unitId ∈ ((trial, cell) :: rest).map fun e => e.2.cellId := by
      intro calls hmem
      rcases List.mem_cons.1 hmem with heq | hmem
      · cases heq
        exact .inr List.mem_cons_self
      · exact .inl hmem
    have hrest : ∀ {w : World} {cells : List Fields},
        accessCells sha256 ctx backend rest cells w = (result, w') →
        Call.accessCell unitId ∈ w.calls ∨
          unitId ∈ ((trial, cell) :: rest).map fun e => e.2.cellId := by
      intro w cells h
      rcases ih h with hmem | hmem
      · exact .inl hmem
      · exact .inr (List.mem_cons_of_mem _ hmem)
    rw [accessCells] at h
    dsimp only at h
    split at h
    · cases h
      exact .inl hasked
    · split at h
      · exact hrest h
      · split at h
        · cases h
          exact hcall hasked
        · cases h
          exact hcall hasked
        · cases h
          exact hcall hasked
        · split at h
          · cases h
            exact hcall hasked
          · split at h
            · rcases hrest h with hmem | hmem
              · exact hcall hmem
              · exact .inr hmem
            · cases h
              exact hcall hasked

theorem subset_calls_accessCells (entries : List (String × AccessCell)) (cells : List Fields)
    (w : World) : w.calls ⊆ (accessCells sha256 ctx backend entries cells w).2.calls := by
  induction entries generalizing cells w with
  | nil => exact List.Subset.refl _
  | cons entry rest ih =>
    obtain ⟨trial, cell⟩ := entry
    rw [accessCells]
    dsimp only
    split
    · exact List.Subset.refl _
    · split
      · exact ih ..
      · split
        · exact List.subset_cons_self ..
        · exact List.subset_cons_self ..
        · exact List.subset_cons_self ..
        · split
          · exact List.subset_cons_self ..
          · split
            · intro call hcall
              exact ih _ _ (List.mem_cons_of_mem _ hcall)
            · exact List.subset_cons_self ..

variable {cell : AccessCell} {document : MatrixDocument}

theorem accessCells_asks
    (hterminal : terminalResult sha256 ctx (w.journal trialId) cell.cellId = none)
    (hreusable : reusable sha256 ctx (w.journal trialId) cell.cellId = none)
    (rest : List (String × AccessCell)) (cells : List Fields) :
    Call.accessCell cell.cellId ∈
      (accessCells sha256 ctx backend ((trialId, cell) :: rest) cells w).2.calls := by
  rw [accessCells]
  simp only [hterminal, hreusable]
  split
  · exact List.mem_cons_self
  · exact List.mem_cons_self
  · exact List.mem_cons_self
  · split
    · exact List.mem_cons_self
    · split
      · exact subset_calls_accessCells _ _ _ List.mem_cons_self
      · exact List.mem_cons_self

/-- A cell that is asked for leaves a record with the status of its answer. -/
theorem accessCells_recorded (hnodup : (entries.map Prod.fst).Nodup)
    (hunits : (entries.map fun e => e.2.cellId).Nodup)
    (h : accessCells sha256 ctx backend entries cells w = (result, w'))
    (hmem : (trialId, cell) ∈ entries) (hnot : Call.accessCell cell.cellId ∉ w.calls)
    (hasked : Call.accessCell cell.cellId ∈ w'.calls) :
    ∃ record, w'.journal trialId = some record ∧
      record.status = recordedStatus cell (backend.accessCell cell.cellId) := by
  induction entries generalizing cells w with
  | nil => cases hmem
  | cons entry rest ih =>
    obtain ⟨trial, other⟩ := entry
    obtain ⟨htrial, hrest⟩ := List.nodup_cons.1 hnodup
    obtain ⟨hunit, hunits⟩ := List.nodup_cons.1 hunits
    rw [accessCells] at h
    dsimp only at h
    rcases List.mem_cons.1 hmem with heq | hmem
    · -- the cell is the first one, and only this call can have asked for it
      cases heq
      have hlater : ∀ {w : World} {cells : List Fields},
          accessCells sha256 ctx backend rest cells w = (result, w') →
          Call.accessCell cell.cellId ∈ w.calls := by
        intro w cells h
        exact (accessCells_calls h hasked).resolve_right hunit
      have hfinish : ∀ status fields, ∃ record,
          finishUnit sha256 ctx trialId cell.cellId status fields
            (beginUnit sha256 ctx trialId cell.cellId w.journal) trialId = some record ∧
          record.status = status := by
        intro status fields
        obtain ⟨record, hrecord, hstatus, -, -⟩ := @finishUnit_self sha256 ctx
          (beginUnit sha256 ctx trialId cell.cellId w.journal) trialId cell.cellId status fields
        exact ⟨record, hrecord, hstatus⟩
      split at h
      · cases h
        exact absurd hasked hnot
      · split at h
        · exact absurd (hlater h) hnot
        · split at h
          · rename_i hanswer
            cases h
            rw [hanswer]
            exact hfinish ..
          · rename_i hanswer
            cases h
            rw [hanswer]
            exact hfinish ..
          · rename_i hanswer
            cases h
            rw [hanswer]
            exact ⟨_, write_self .., rfl⟩
          · rename_i fields hanswer
            rw [hanswer]
            split at h
            · rename_i hnone
              cases h
              simp only [recordedStatus, hnone, Option.getD_none]
              exact hfinish ..
            · rename_i status hsome
              simp only [recordedStatus, hsome, Option.getD_some]
              split at h
              · rename_i hpass
                rw [accessCells_frame h htrial, hpass]
                exact hfinish ..
              · cases h
                exact hfinish ..
    · -- the cell is a later one
      have hne : cell.cellId ≠ other.cellId := by
        intro heq
        exact hunit (List.mem_map.2 ⟨(trialId, cell), hmem, heq⟩)
      have hcall : Call.accessCell cell.cellId ∉ Call.accessCell other.cellId :: w.calls := by
        intro hmem
        rcases List.mem_cons.1 hmem with heq | hmem
        · exact hne (Call.accessCell.inj heq)
        · exact hnot hmem
      split at h
      · cases h
        exact absurd hasked hnot
      · split at h
        · exact ih hrest hunits h hmem hnot
        · split at h
          · cases h
            exact absurd hasked hcall
          · cases h
            exact absurd hasked hcall
          · cases h
            exact absurd hasked hcall
          · split at h
            · cases h
              exact absurd hasked hcall
            · split at h
              · exact ih hrest hunits h hmem hcall
              · cases h
                exact absurd hasked hcall

theorem nodup_cellIds : (accessCellContract.map AccessCell.cellId).Nodup := by
  have htargets : ∀ target ∈ accessTargets.map Prod.snd, '|' ∉ target.toList := by decide +kernel
  have hprobes : ∀ probe ∈ accessProbes, '|' ∉ probe.toList := by decide +kernel
  have hpairs : ((accessTargets.map Prod.snd) ×ˢ accessProbes).Nodup :=
    List.Nodup.product (by decide +kernel) (by decide +kernel)
  have hids : accessCellContract.map AccessCell.cellId =
      ((accessTargets.map Prod.snd) ×ˢ accessProbes).map fun p => p.1 ++ "|" ++ p.2 := by
    simp only [accessCellContract, List.map_flatMap, SProd.sprod, List.product, List.flatMap_map,
      List.map_map]
    rfl
  rw [hids]
  refine hpairs.map_on ?_
  rintro ⟨target, probe⟩ hmem ⟨target', probe'⟩ hmem' heq
  obtain ⟨htarget, hprobe⟩ := List.mem_product.1 hmem
  obtain ⟨-, hprobe'⟩ := List.mem_product.1 hmem'
  have hlist := congrArg String.toList heq
  simp only [String.toList_append] at hlist
  have hbar : "|".toList = ['|'] := by decide
  rw [hbar, List.append_assoc, List.append_assoc, List.singleton_append, List.singleton_append] at hlist
  obtain ⟨h1, -, h2⟩ := (List.append_cons_inj_of_notMem
    (htargets target' (List.mem_product.1 hmem').1) (hprobes probe' hprobe')).1 hlist.symm
  exact Prod.ext (String.toList_inj.1 h1.symm) (String.toList_inj.1 h2.symm)

theorem nodup_accessCells : (accessEntries.map fun e => e.2.cellId).Nodup := by
  have hcells : (accessEntries.map fun e => e.2.cellId) = accessCellContract.map AccessCell.cellId := by
    conv_rhs => rw [← List.zipIdx_map_fst 0 accessCellContract]
    rw [accessEntries, List.map_map, List.map_map]
    rfl
  rw [hcells]
  exact nodup_cellIds

theorem nodup_accessEntries : (accessEntries.map Prod.fst).Nodup := by
  have hnames := nodup_names "access-" accessCellContract
  rw [accessEntries, List.map_map]
  exact hnames

theorem provisioning_notMem_accessEntries :
    "g02-provisioning" ∉ accessEntries.map Prod.fst := by decide

theorem quiet_notProvisioned {stopped : Stopped} {fieldName : String} {w'' : World}
    (h : ensureProvisioned sha256 ctx backend w = (.error stopped, w'))
    (hdocument : notProvisioned ctx fieldName stopped w' = (.ok document, w''))
    (hstatus : document.status = .metricFail ∨ document.status = .blocked) :
    w'' = w' ∧ ∀ backend' calls, ensureProvisioned sha256 ctx backend' ⟨w'.journal, calls⟩ =
      (.error .blocked, ⟨w'.journal, calls⟩) := by
  obtain ⟨-, -, hblocked⟩ := ensureProvisioned_cases h
  cases stopped with
  | infrastructure =>
    cases hdocument
    rcases hstatus with hcontra | hcontra <;> cases hcontra
  | raised => cases hdocument
  | blocked =>
    cases hdocument
    obtain ⟨hnone, hsome⟩ := hblocked rfl
    exact ⟨rfl, fun backend' calls => ensureProvisioned_terminal hnone hsome⟩

/-- **A failed access matrix stays failed.** -/
theorem accessMatrix_stays (h : runAccessMatrix sha256 ctx backend w = (.ok document, w'))
    (hstatus : document.status = .metricFail ∨ document.status = .blocked)
    (backends : List Backend) : StaysFailed (runAccessMatrix sha256 ctx) w'.journal backends := by
  refine staysFailed_of_quiet (fun backend' => ?_) backends
  unfold runAccessMatrix at h
  cases hprovision : ensureProvisioned sha256 ctx backend w with
  | mk result w₁ =>
    rw [hprovision] at h
    cases result with
    | error stopped =>
      obtain ⟨rfl, hagain⟩ := quiet_notProvisioned hprovision h hstatus
      simp only [runAccessMatrix, hagain]
      exact ⟨_, rfl, by simp [matrixDocument]⟩
    | ok u =>
      obtain ⟨-, hok, -⟩ := ensureProvisioned_cases hprovision
      dsimp only at h
      cases hcells : accessCells sha256 ctx backend accessEntries [] w₁ with
      | mk result w₂ =>
        rw [hcells] at h
        cases result with
        | error err => cases h
        | ok pair =>
          obtain ⟨status, cells⟩ := pair
          dsimp only at h
          have hdocument : document.status = status ∧ w' = w₂ ∧ status ≠ .pass := by
            split at h
            · rename_i hpass
              split at h
              · cases h
              · cases h
                rw [hpass] at hstatus
                rcases hstatus with hcontra | hcontra <;> cases hcontra
            · rename_i hpass
              cases h
              exact ⟨rfl, rfl, hpass⟩
          obtain ⟨rfl, rfl, hne⟩ := hdocument
          have hrecord := accessCells_frame hcells provisioning_notMem_accessEntries
          rw [← hrecord] at hok
          obtain ⟨out, hagain⟩ := accessCells_stays nodup_accessEntries hcells hstatus backend' [] []
          have hprovisioned : ensureProvisioned sha256 ctx backend' ⟨w'.journal, []⟩ =
              (.ok (), ⟨w'.journal, []⟩) := ensureProvisioned_reusable (hok rfl)
          simp only [runAccessMatrix, hprovisioned, hagain, if_neg hne]
          exact ⟨_, rfl, hne⟩

theorem ensureProvisioned_calls {result : Except Stopped Unit}
    (h : ensureProvisioned sha256 ctx backend w = (result, w')) {unitId : String}
    (hasked : Call.accessCell unitId ∈ w'.calls) : Call.accessCell unitId ∈ w.calls := by
  have hcall : Call.accessCell unitId ∈ Call.provision :: w.calls →
      Call.accessCell unitId ∈ w.calls := by
    intro hmem
    exact (List.mem_cons.1 hmem).resolve_left nofun
  unfold ensureProvisioned at h
  dsimp only at h
  split at h
  · cases h
    exact hasked
  · split at h
    · cases h
      exact hasked
    · split at h
      · cases h
        exact hcall hasked
      · cases h
        exact hcall hasked
      · cases h
        exact hcall hasked
      · split at h
        · cases h
          exact hcall hasked
        · cases h
          exact hcall hasked

/-- What an access matrix records for a cell it asks for. -/
theorem accessMatrix_recorded {result : Except Raised MatrixDocument}
    (h : runAccessMatrix sha256 ctx backend w = (result, w'))
    (hmem : (trialId, cell) ∈ accessEntries) (hnot : Call.accessCell cell.cellId ∉ w.calls)
    (hasked : Call.accessCell cell.cellId ∈ w'.calls) :
    ∃ record, w'.journal trialId = some record ∧
      record.status = recordedStatus cell (backend.accessCell cell.cellId) := by
  unfold runAccessMatrix at h
  cases hprovision : ensureProvisioned sha256 ctx backend w with
  | mk outcome w₁ =>
    rw [hprovision] at h
    have hnot₁ : Call.accessCell cell.cellId ∉ w₁.calls :=
      fun hmem => hnot (ensureProvisioned_calls hprovision hmem)
    cases outcome with
    | error stopped =>
      have hw : w' = w₁ := by
        cases stopped <;> cases h <;> rfl
      exact absurd (hw ▸ hasked) hnot₁
    | ok u =>
      dsimp only at h
      cases hcells : accessCells sha256 ctx backend accessEntries [] w₁ with
      | mk outcome w₂ =>
        rw [hcells] at h
        have hw : w' = w₂ := by
          cases outcome with
          | error err =>
            cases h
            rfl
          | ok pair =>
            dsimp only at h
            split at h
            · split at h
              · cases h
                rfl
              · cases h
                rfl
            · cases h
              rfl
        subst hw
        exact accessCells_recorded nodup_accessEntries nodup_accessCells hcells hmem hnot₁ hasked

end Access

/-! ### The matrices collected at once -/

section Collected

variable {sha256 ctx} {backend : Backend} {m : Matrix} {journal : Journal}

variable (sha256 ctx) in
/-- Going through the items in their order, one that fails comes before any whose record was left
running under another key, and is not such a one itself. -/
def Matrix.settles (m : Matrix) (journal : Journal) (items : List (Option String × Fields)) :
    List (String × String) → Bool
  | [] => false
  | (trialId, unitId) :: rest =>
    if leftRunning sha256 ctx journal trialId unitId then false
    else if m.passes (m.itemOf items unitId) then m.settles journal items rest
    else true

variable {other : Journal}

theorem leftRunning_congr {trialId unitId : String} (h : journal trialId = other trialId) :
    leftRunning sha256 ctx journal trialId unitId = leftRunning sha256 ctx other trialId unitId := by
  rw [leftRunning, leftRunning, h]

variable {items : List (Option String × Fields)} {entries : List (String × String)}

theorem settles_congr (h : ∀ trialId ∈ entries.map Prod.fst, journal trialId = other trialId) :
    m.settles sha256 ctx journal items entries = m.settles sha256 ctx other items entries := by
  induction entries with
  | nil => rfl
  | cons entry rest ih =>
    obtain ⟨trialId, unitId⟩ := entry
    rw [Matrix.settles, Matrix.settles, leftRunning_congr (h trialId List.mem_cons_self),
      ih fun other hother => h other (List.mem_cons_of_mem _ hother)]

theorem scan_congr {items : List Fields}
    (h : ∀ trialId ∈ entries.map Prod.fst, journal trialId = other trialId) :
    scan sha256 ctx journal entries items = scan sha256 ctx other entries items := by
  induction entries generalizing items with
  | nil => rfl
  | cons entry rest ih =>
    obtain ⟨trialId, unitId⟩ := entry
    have hrest : ∀ items, scan sha256 ctx journal rest items = scan sha256 ctx other rest items :=
      fun _ => ih fun other hother => h other (List.mem_cons_of_mem _ hother)
    simp only [scan, h trialId List.mem_cons_self, hrest]

theorem record_of_notMem {trialId : String} (h : trialId ∉ entries.map Prod.fst) :
    m.record sha256 ctx items entries journal trialId = journal trialId := by
  induction entries generalizing journal with
  | nil => rfl
  | cons entry rest ih =>
    obtain ⟨trial, unitId⟩ := entry
    have htrial : trialId ≠ trial := List.ne_of_not_mem_cons h
    rw [Matrix.record, ih (List.not_mem_of_not_mem_cons h), finishUnit_of_ne htrial]

/-- **What the records of the items say later.**  A failure is found again exactly if the items
settle. -/
theorem scan_record (hnodup : (entries.map Prod.fst).Nodup) (before : List Fields) :
    (m.settles sha256 ctx journal items entries = true →
      ∃ out, scan sha256 ctx (m.record sha256 ctx items entries journal) entries before =
        .terminal .metricFail out) ∧
    (m.settles sha256 ctx journal items entries = false →
      scan sha256 ctx (m.record sha256 ctx items entries journal) entries before = .missing ∨
      ∃ out, scan sha256 ctx (m.record sha256 ctx items entries journal) entries before =
        .complete out) := by
  induction entries generalizing journal before with
  | nil => exact ⟨nofun, fun _ => .inr ⟨before, rfl⟩⟩
  | cons entry rest ih =>
    obtain ⟨trialId, unitId⟩ := entry
    obtain ⟨hnot, hrest⟩ := List.nodup_cons.1 hnodup
    have hsettles : m.settles sha256 ctx (finishUnit sha256 ctx trialId unitId
        (if m.passes (m.itemOf items unitId) then .pass else .metricFail)
        (boundPayload ctx unitId (m.itemOf items unitId)) journal) items rest =
        m.settles sha256 ctx journal items rest := by
      refine settles_congr fun other hother => finishUnit_of_ne ?_ _ _
      rintro rfl
      exact hnot hother
    have hrecord := @record_of_notMem sha256 ctx m (finishUnit sha256 ctx trialId unitId
      (if m.passes (m.itemOf items unitId) then .pass else .metricFail)
      (boundPayload ctx unitId (m.itemOf items unitId)) journal) items rest trialId hnot
    rw [Matrix.settles, Matrix.record, scan, hrecord]
    cases hleft : leftRunning sha256 ctx journal trialId unitId with
    | true =>
      -- under its old key the record answers nothing, and the scan ends here
      refine ⟨fun hcontra => by simp at hcontra, fun _ => .inl ?_⟩
      simp only [terminalResult, reusable, resultOf_leftRunning _ _ hleft, Option.map_none]
    | false =>
      by_cases hpass : m.passes (m.itemOf items unitId) = true
      · simp only [hpass, if_true, Bool.false_eq_true, if_false] at hsettles ⊢
        rw [terminalResult_pass, reusable_finishUnit _ hleft, ← hsettles]
        exact ih hrest _
      · simp only [hpass, Bool.false_eq_true, if_false]
        rw [terminalResult_finishUnit _ (.inl rfl) hleft]
        exact ⟨fun _ => ⟨before, rfl⟩, nofun⟩

theorem calls_collect (w : World) : (m.collect sha256 ctx backend w).2.calls = m.call :: w.calls := by
  unfold Matrix.collect
  dsimp only
  repeat' split
  all_goals rfl

/-- The call reaches the backend, which answers with a list of items. -/
structure Collects (sha256 : String → String) (ctx : Context) (m : Matrix) (backend : Backend)
    (w : World) (items : List (Option String × Fields)) : Prop where
  provisioned : (ensureProvisioned sha256 ctx backend w).1 = .ok ()
  missing : scan sha256 ctx w.journal m.entries [] = .missing
  uncollected : terminalResult sha256 ctx (w.journal m.collectionTrial) m.collectionUnit = none
  answer : ∃ fields values, m.ask backend = .returned fields ∧
    fields.lookup m.fieldName = some (.arr values) ∧ m.byName values = .ok items

/-- Whenever the call reaches the backend and is answered with a list, the items settle. -/
def Matrix.Settles (sha256 : String → String) (ctx : Context) (m : Matrix) (backend : Backend)
    (w : World) : Prop :=
  ∀ items, Collects sha256 ctx m backend w items →
    m.settles sha256 ctx w.journal items m.entries = true

theorem ne_provisioning {trialId : String} (h : trialId ∈ m.entries.map Prod.fst) :
    trialId ≠ "g02-provisioning" := by
  rintro rfl
  exact m.provisioning_notMem (List.mem_cons_of_mem _ h)

theorem ne_collection {trialId : String} (h : trialId ∈ m.entries.map Prod.fst) :
    trialId ≠ m.collectionTrial := by
  rintro rfl
  exact m.collection_notMem h

theorem collection_ne_provisioning : m.collectionTrial ≠ "g02-provisioning" := by
  intro h
  exact m.provisioning_notMem (h ▸ List.mem_cons_self)

variable {status : Status} {w : World}

/-- What a call does that found its records terminal: it fails with them, and leaves them. -/
theorem quiet_terminal (hprovision : (reusable sha256 ctx (w.journal "g02-provisioning")
      "isolation-provisioning").isSome) {items : List Fields}
    (hscan : scan sha256 ctx w.journal m.entries [] = .terminal status items)
    (hstatus : status ≠ .pass) (backend' : Backend) :
    ∃ document, m.run sha256 ctx backend' ⟨w.journal, []⟩ = (.ok document, ⟨w.journal, []⟩) ∧
      document.status ≠ .pass := by
  have hagain : ensureProvisioned sha256 ctx backend' ⟨w.journal, []⟩ =
      (.ok (), ⟨w.journal, []⟩) := ensureProvisioned_reusable hprovision
  simp only [Matrix.run, hagain, hscan]
  exact ⟨_, rfl, hstatus⟩

theorem quiet_collection (hprovision : (reusable sha256 ctx (w.journal "g02-provisioning")
      "isolation-provisioning").isSome)
    (hscan : scan sha256 ctx w.journal m.entries [] = .missing) {result : Fields}
    (hcollection : terminalResult sha256 ctx (w.journal m.collectionTrial) m.collectionUnit =
      some (status, result)) (hstatus : status ≠ .pass) (backend' : Backend) :
    ∃ document, m.run sha256 ctx backend' ⟨w.journal, []⟩ = (.ok document, ⟨w.journal, []⟩) ∧
      document.status ≠ .pass := by
  have hagain : ensureProvisioned sha256 ctx backend' ⟨w.journal, []⟩ =
      (.ok (), ⟨w.journal, []⟩) := ensureProvisioned_reusable hprovision
  simp only [Matrix.run, hagain, hscan, hcollection]
  exact ⟨_, rfl, hstatus⟩

theorem ne_pass_of_failed (h : status = .metricFail ∨ status = .blocked) : status ≠ .pass := by
  rcases h with rfl | rfl <;> decide

variable {document : MatrixDocument}

/-- How a collection ends that fails: blocked and recorded so, or with a list of items, each of
them recorded. -/
theorem collect_cases {w' : World} (h : m.collect sha256 ctx backend w = (.ok document, w'))
    (hstatus : document.status = .metricFail ∨ document.status = .blocked) :
    (∃ fields, w'.journal = finishUnit sha256 ctx m.collectionTrial m.collectionUnit .blocked
        (boundPayload ctx m.collectionUnit fields)
        (beginUnit sha256 ctx m.collectionTrial m.collectionUnit w.journal) ∧
      ∀ items, ¬ ∃ fields values, m.ask backend = .returned fields ∧
        fields.lookup m.fieldName = some (.arr values) ∧ m.byName values = .ok items) ∨
    ∃ fields values items, m.ask backend = .returned fields ∧
      fields.lookup m.fieldName = some (.arr values) ∧ m.byName values = .ok items ∧
      w'.journal = m.record sha256 ctx items m.entries (finishUnit sha256 ctx m.collectionTrial
        m.collectionUnit .pass (boundPayload ctx m.collectionUnit fields)
        (beginUnit sha256 ctx m.collectionTrial m.collectionUnit w.journal)) := by
  unfold Matrix.collect at h
  dsimp only at h
  split at h
  · cases h
    rcases hstatus with hcontra | hcontra <;> cases hcontra
  · rename_i hask
    cases h
    refine .inl ⟨_, rfl, ?_⟩
    rintro items ⟨fields, values, hreturned, -⟩
    rw [hask] at hreturned
    cases hreturned
  · cases h
  · rename_i fields hask
    split at h
    · rename_i values hvalues
      split at h
      · cases h
      · rename_i items hitems
        right
        refine ⟨fields, values, items, hask, hvalues, hitems, ?_⟩
        generalize (if m.wellShaped values items && (m.entries.map fun e => m.itemOf items e.2).all
          m.passes then Status.pass else .metricFail) = status at h
        split at h
        · split at h
          · cases h
          · cases h
            rfl
        · cases h
          rfl
    · rename_i hvalues
      cases h
      refine .inl ⟨_, rfl, ?_⟩
      rintro items ⟨fields', values, hreturned, hlookup, -⟩
      rw [hask] at hreturned
      cases hreturned
      exact hvalues values hlookup

/-- The case of the next theorem in which the call reaches the backend. -/
theorem stays_iff_of_collect {w₁ w' : World}
    (hprovision : ensureProvisioned sha256 ctx backend w = (.ok (), w₁))
    (hmissing : scan sha256 ctx w₁.journal m.entries [] = .missing)
    (huncollected : terminalResult sha256 ctx (w₁.journal m.collectionTrial) m.collectionUnit = none)
    (h : m.collect sha256 ctx backend w₁ = (.ok document, w'))
    (hstatus : document.status = .metricFail ∨ document.status = .blocked) :
    (∀ backends, StaysFailed (m.run sha256 ctx) w'.journal backends) ↔
      m.Settles sha256 ctx backend w := by
  obtain ⟨hframe, hok, -⟩ := ensureProvisioned_cases hprovision
  have hok := hok rfl
  have hne := (collection_ne_provisioning (m := m)).symm
  have hstart : ∀ status fields trialId, trialId ≠ m.collectionTrial →
      finishUnit sha256 ctx m.collectionTrial m.collectionUnit status
        (boundPayload ctx m.collectionUnit fields)
        (beginUnit sha256 ctx m.collectionTrial m.collectionUnit w₁.journal) trialId =
      w₁.journal trialId := by
    intro status fields trialId hother
    rw [finishUnit_of_ne hother, beginUnit_of_ne hother]
  rcases collect_cases h hstatus with
    ⟨fields, hjournal, hno⟩ | ⟨fields, values, items, hask, hvalues, hitems, hjournal⟩
  · refine ⟨fun _ items hcollects => absurd hcollects.answer (hno items),
      fun _ => staysFailed_of_quiet ?_⟩
    have hterminal : terminalResult sha256 ctx (w'.journal m.collectionTrial) m.collectionUnit =
        some (.blocked, fields) := by
      rw [hjournal]
      exact terminalResult_finishUnit fields (.inr rfl) leftRunning_beginUnit
    refine quiet_collection ?_ ?_ hterminal (by decide)
    · rw [hjournal, hstart _ _ _ hne]
      exact hok
    · rw [hjournal, ← hmissing]
      exact scan_congr fun trialId hmem => hstart _ _ _ (ne_collection hmem)
  · have hprovisioned : (reusable sha256 ctx (w'.journal "g02-provisioning")
        "isolation-provisioning").isSome := by
      have hnot : "g02-provisioning" ∉ m.entries.map Prod.fst := fun hmem =>
        m.provisioning_notMem (List.mem_cons_of_mem _ hmem)
      rw [hjournal, record_of_notMem hnot, hstart _ _ _ hne]
      exact hok
    have hsettles : m.settles sha256 ctx (finishUnit sha256 ctx m.collectionTrial
        m.collectionUnit .pass (boundPayload ctx m.collectionUnit fields)
        (beginUnit sha256 ctx m.collectionTrial m.collectionUnit w₁.journal)) items m.entries =
        m.settles sha256 ctx w.journal items m.entries := by
      refine settles_congr fun trialId hmem => ?_
      rw [hstart _ _ _ (ne_collection hmem), hframe _ (ne_provisioning hmem)]
    obtain ⟨hfound, hlost⟩ := @scan_record sha256 ctx m
      (finishUnit sha256 ctx m.collectionTrial m.collectionUnit .pass
        (boundPayload ctx m.collectionUnit fields)
        (beginUnit sha256 ctx m.collectionTrial m.collectionUnit w₁.journal)) items m.entries
      m.trials_nodup []
    rw [hsettles, ← hjournal] at hfound hlost
    constructor
    · intro hall items' hcollects
      have hitems' : items' = items := by
        obtain ⟨fields', values', hask', hvalues', hitems'⟩ := hcollects.answer
        rw [hask] at hask'
        cases hask'
        rw [hvalues] at hvalues'
        cases hvalues'
        rw [hitems] at hitems'
        cases hitems'
        rfl
      subst hitems'
      by_contra hnot
      -- the next call goes by records that show no failure
      obtain ⟨document', w₂, hrun, hpass, hcalls, -⟩ := hall [backend]
      have hagain : ensureProvisioned sha256 ctx backend ⟨w'.journal, []⟩ =
          (.ok (), ⟨w'.journal, []⟩) := ensureProvisioned_reusable hprovisioned
      rcases hlost (Bool.eq_false_iff.2 hnot) with hscan | ⟨out, hscan⟩
      · have hcollection : terminalResult sha256 ctx (w'.journal m.collectionTrial)
            m.collectionUnit = none := by
          rw [hjournal, record_of_notMem m.collection_notMem]
          exact terminalResult_pass fields
        simp only [Matrix.run, hagain, hscan, hcollection] at hrun
        have hasked := @calls_collect sha256 ctx backend m ⟨w'.journal, []⟩
        rw [hrun] at hasked
        rw [hcalls] at hasked
        cases hasked
      · simp only [Matrix.run, hagain, hscan] at hrun
        split at hrun
        · cases hrun
        · cases hrun
          exact hpass rfl
    · intro hS
      have htrue := hS items ⟨by rw [hprovision], ?_, ?_, fields, values, hask, hvalues, hitems⟩
      · obtain ⟨out, hscan⟩ := hfound htrue
        exact staysFailed_of_quiet
          (quiet_terminal hprovisioned hscan (by decide : Status.metricFail ≠ .pass))
      · rw [← hmissing]
        exact (scan_congr fun trialId hmem => hframe trialId (ne_provisioning hmem)).symm
      · rw [← hframe _ collection_ne_provisioning]
        exact huncollected

/-- **A matrix collected at once stays failed exactly if it settles.** -/
theorem Matrix.stays_iff {w' : World} (h : m.run sha256 ctx backend w = (.ok document, w'))
    (hstatus : document.status = .metricFail ∨ document.status = .blocked) :
    (∀ backends, StaysFailed (m.run sha256 ctx) w'.journal backends) ↔
      m.Settles sha256 ctx backend w := by
  unfold Matrix.run at h
  cases hprovision : ensureProvisioned sha256 ctx backend w with
  | mk result w₁ =>
    rw [hprovision] at h
    obtain ⟨hframe, hok, -⟩ := ensureProvisioned_cases hprovision
    have hscan : scan sha256 ctx w₁.journal m.entries [] = scan sha256 ctx w.journal m.entries [] :=
      scan_congr fun trialId hmem => hframe trialId (ne_provisioning hmem)
    have hcollection := hframe m.collectionTrial collection_ne_provisioning
    cases result with
    | error stopped =>
      obtain ⟨rfl, hagain⟩ := quiet_notProvisioned hprovision h hstatus
      refine ⟨fun _ items hcollects => ?_, fun _ => staysFailed_of_quiet fun backend' => ?_⟩
      · have hprovisioned := hcollects.provisioned
        rw [hprovision] at hprovisioned
        cases hprovisioned
      · simp only [Matrix.run, hagain]
        exact ⟨_, rfl, by simp [matrixDocument]⟩
    | ok u =>
      have hok := hok rfl
      dsimp only at h
      split at h
      · rename_i status items hterminal
        cases h
        refine ⟨fun _ items hcollects => ?_, fun _ => staysFailed_of_quiet ?_⟩
        · have hmissing := hcollects.missing
          rw [← hscan, hterminal] at hmissing
          cases hmissing
        · exact quiet_terminal hok hterminal (ne_pass_of_failed hstatus)
      · split at h
        · cases h
        · cases h
          rcases hstatus with hcontra | hcontra <;> cases hcontra
      · rename_i hmissing
        split at h
        · rename_i status result hterminal
          cases h
          refine ⟨fun _ items hcollects => ?_, fun _ => staysFailed_of_quiet ?_⟩
          · have huncollected := hcollects.uncollected
            rw [← hcollection, hterminal] at huncollected
            cases huncollected
          · exact quiet_collection hok hmissing hterminal (ne_pass_of_failed hstatus)
        · rename_i huncollected
          exact stays_iff_of_collect hprovision hmissing huncollected h hstatus

end Collected

/-! ### All matrices -/

/-- **Failed matrices.**  After a call that failed or was blocked, later calls fail without asking
again: always for the access matrix, and exactly where the items settle for the other two. -/
theorem failed_matrices (backend : Backend) (w w' : World) (document : MatrixDocument)
    (hstatus : document.status = .metricFail ∨ document.status = .blocked) :
    (runAccessMatrix sha256 ctx backend w = (.ok document, w') →
      ∀ backends, StaysFailed (runAccessMatrix sha256 ctx) w'.journal backends) ∧
    (runTraceMatrix sha256 ctx backend w = (.ok document, w') →
      ((∀ backends, StaysFailed (runTraceMatrix sha256 ctx) w'.journal backends) ↔
        traceMatrix.Settles sha256 ctx backend w)) ∧
    (runCanaryMatrix sha256 ctx backend w = (.ok document, w') →
      ((∀ backends, StaysFailed (runCanaryMatrix sha256 ctx) w'.journal backends) ↔
        canaryMatrix.Settles sha256 ctx backend w)) := by
  refine ⟨?_, ?_, ?_⟩
  · intro h
    exact accessMatrix_stays h hstatus
  · intro h
    exact Matrix.stays_iff h hstatus
  · intro h
    exact Matrix.stays_iff h hstatus

/-! ### A sample -/

def sampleContext : Context where
  producerSha := "1111111111111111111111111111111111111111"
  environmentFingerprint := "2222222222222222222222222222222222222222222222222222222222222222"

/-- What a stage looks like that was observed. -/
def sampleStage (stage : String) : Json :=
  .obj [("stage", .str stage), ("observed", .bool true), ("trace_id", .str "trace-a"),
    ("artifact_ref", .str "private://artifact")]

/-- A backend that provisions, denies every cell, and returns the stages given. -/
def sampleBackend (stages : List Json) : Backend where
  provision := .returned [("status", .str "pass"), ("producer_sha", .str sampleContext.producerSha),
    ("environment_fingerprint", .str sampleContext.environmentFingerprint),
    ("artifact_ref", .str "private://plan")]
  accessCell cellId := .returned [("cell_id", .str cellId), ("actual_allow", .bool false),
    ("artifact_ref", .str "private://cell")]
  traceMatrix := .returned [("stages", .arr stages)]
  canaryMatrix := .raised

def statusOf (r : Result) : Option Status :=
  match r.1 with
  | .ok document => some document.status
  | .error _ => none

def emptyWorld : World := ⟨fun _ => none, []⟩

def reordered : List Json := TRACE_STAGES.reverse.map sampleStage

/-- The stages were observed, and came in another order: the first call fails, the next one
passes. -/
theorem not_stays_reordered :
    statusOf (runTraceMatrix id sampleContext (sampleBackend reordered) emptyWorld) =
      some .metricFail ∧
    statusOf (runTraceMatrix id sampleContext (sampleBackend reordered)
      ⟨(runTraceMatrix id sampleContext (sampleBackend reordered) emptyWorld).2.journal, []⟩) =
      some .pass := by
  refine ⟨?_, ?_⟩
  · decide +kernel
  · decide +kernel

theorem failed_matrices_denied : ∃ document w,
    runAccessMatrix id sampleContext (sampleBackend []) emptyWorld = (.ok document, w) ∧
      document.status = .metricFail ∧
      ∀ backends, StaysFailed (runAccessMatrix id sampleContext) w.journal backends := by
  have hstatus : statusOf (runAccessMatrix id sampleContext (sampleBackend []) emptyWorld) =
      some .metricFail := by decide +kernel
  cases hrun : runAccessMatrix id sampleContext (sampleBackend []) emptyWorld with
  | mk result w =>
    rw [hrun] at hstatus
    cases result with
    | error err => cases hstatus
    | ok document =>
      have hfail : document.status = .metricFail := Option.some.inj hstatus
      refine ⟨document, w, rfl, hfail, ?_⟩
      exact (failed_matrices id sampleContext (sampleBackend []) emptyWorld w document
        (.inl hfail)).1 hrun

end ProbeMatrices
