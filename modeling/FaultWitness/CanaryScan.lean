/-
**The canary action of the gate probe.**

Two canaries are submitted to the trace service, which has to reject them; then the probe searches
eighteen surfaces for them.  Most reads are checked, and one that fails ends the action.  A log that
cannot be read counts as a log that says so, if it says `not found`; whatever goes wrong while the
objects are listed and printed is swallowed by the shell; and `rglob` passes over a directory of a
volume that is missing or may not be listed.  Such a surface is reported with what was read of it.

Main definitions:

* `CanaryScan.canary` — the action;
* `CanaryScan.persistentVolumeHits` — the search through the files of a volume;
* `CanaryScan.readsOf` — the reads that make up a surface, and what they have printed;
* `CanaryScan.searched` — the texts of a surface in which the tokens are searched.

Main results:

* `CanaryScan.persistentVolumeHits_eq_ok` — the files that are listed are searched completely;
* `CanaryScan.failsClosed_iff` — **a surface without hits was read completely and holds no canary,
  exactly if none of its tolerated reads has failed, or a canary was found anyway**.
-/

import FaultWitness.AccessProbe
import FaultWitness.Substrings

set_option autoImplicit false

namespace CanaryScan

open Python ProbeMatrices RemoteCommands AccessProbe Substrings

abbrev Bytes := List UInt8

/-- The method `encode`. -/
def encode (text : String) : Bytes := text.toUTF8.data.toList

/-! ### Commands -/

/-- The commands of the action, with what distinguishes one from another. -/
inductive Command
  | submit (canary : String)
  | drain (after : Bool)
  | deploymentLogs («namespace» deployment : String)
  | podNames («namespace» : String)
  | podLogs («namespace» : String) (index : ℕ) (pod : String)
  | dump
  | pod («namespace» pod : String)
  | claim («namespace» pod claim : String)
  | volume (pod volume : String)
  | objects

/-- A file that is read in chunks, perhaps not to its end. -/
structure FileRead where
  chunks : List Bytes
  complete : Bool

/-- How `rglob` and `is_file` get on with a directory or with an entry of one. -/
inductive Visit
  | complete
  /-- It is missing or may not be read, and is passed over. -/
  | skipped
  | failed
deriving DecidableEq

/-- A path of the host: whether it lies in the storage, what is visited under it, and the regular files
that are found. -/
structure Directory where
  safe : Bool
  visits : List Visit
  files : List FileRead

/-- How an object is printed. -/
structure ObjectRead where
  returncode : ℤ
  stdout : String

/-- How the script runs that finds the objects and prints them. -/
inductive MinioRun
  | missing
  | ioError
  /-- It does not get to the listing, or does not come back. -/
  | aborted (result : Completed)
  /-- The listing ends with a code of its own. -/
  | listed (returncode : ℤ) (objects : List ObjectRead)

/-- What comes back of it: the shell goes on after a failed listing, and throws its errors away. -/
def MinioRun.answer : MinioRun → Answer
  | .missing => .missing
  | .ioError => .ioError
  | .aborted result => .completed result
  | .listed _ objects => .completed ⟨0, String.join (objects.map (·.stdout)), ""⟩

/-- How the commands and the files behave during one action. -/
structure Behaviour where
  secrets : AccessProbe.Behaviour
  answer : Command → Answer
  minio : String → MinioRun
  /-- `none` if the path cannot be resolved. -/
  directory : String → Option Directory

/-- What the action uses of the language's library besides. -/
structure Library where
  decodeBytes : String → Option Bytes
  int : Json → Except Failure ℤ
  dict : Json → Except Failure Json
  str : Json → String

variable (probe : Probe) (ctx : Context) (lib : Library) (b : Behaviour)

/-! ### Documents -/

/-- The call `value.get(key, default)`. -/
def getField (value : Json) (key : String) (default : Json) : Except Failure Json :=
  match value with
  | .obj fields => .ok ((fields.lookup key).getD default)
  | _ => .error .unexpected

/-- What a loop over a value goes through. -/
def iterate : Json → Except Failure (List Json)
  | .arr items => .ok items
  | .obj fields => .ok (fields.map fun f => .str f.1)
  | .str text => .ok (text.toList.map fun c => .str (String.ofList [c]))
  | _ => .error .malformed

def loads (text : String) : Except Failure Json :=
  match Json.loads text with
  | some value => .ok value
  | none => .error .malformed

mutual

/-- The text of `json.dumps` with sorted keys and its usual separators. -/
def dumpsSorted : Json → String
  | .arr items => "[" ++ ", ".intercalate (dumpsSortedItems items) ++ "]"
  | .obj fields =>
    "\x7b" ++ ", ".intercalate (((dumpsSortedFields fields).insertionSort fun a b => a.1 ≤ b.1).map
      fun f => quote f.1 ++ ": " ++ f.2) ++ "\x7d"
  | value => value.dumps

def dumpsSortedItems : List Json → List String
  | [] => []
  | j :: js => dumpsSorted j :: dumpsSortedItems js

def dumpsSortedFields : List (String × Json) → List (String × String)
  | [] => []
  | (k, j) :: fs => (k, dumpsSorted j) :: dumpsSortedFields fs

end

/-- The method `split`. -/
def split (text : String) : List String :=
  ((text.toList.splitOnP (isBlank false)).filter (· ≠ [])).map String.ofList

/-! ### Canaries -/

def canaries : List String :=
  let seed := String.ofList
    ((probe.sha256 (ctx.environmentFingerprint ++ "|g02-canary-v1")).toList.take 24)
  ["FW_SECRET_CANARY_" ++ seed, "fw_pii_canary_" ++ seed ++ "@example.invalid"]

def canaryTokens : List Bytes := (canaries probe ctx).map encode

/-- The function `scan_tokens`, of bytes. -/
def scanTokens (payload : Bytes) (tokens : List Bytes) : ℕ :=
  (tokens.map fun token => count token payload).sum

structure Submission where
  body : Json
  stdout : String
  stderr : String

/-- Submitting a canary, which has to be rejected. -/
def submitCanary (canary : String) : Except Failure Submission := do
  let result ← run probe.casefold (b.answer (.submit canary)) true
  match ← loads result.stdout with
  | .obj document =>
    match document.lookup "status", document.lookup "body" with
    | some status, some body =>
      let status ← lib.int status
      let body ← lib.dict body
      if status ≠ 422 then throw (.blocked "canary_ingest_not_rejected")
      return ⟨body, result.stdout, result.stderr⟩
    | _, _ => throw .malformed
  | _ => throw .malformed

/-- The status that `drain_trace_service` returns. -/
def drainStatus (after : Bool) : Except Failure Json := do
  let result ← run probe.casefold (b.answer (.drain after)) true
  getField (← loads result.stdout) "status" (.obj [])

/-! ### Logs -/

def kubernetesLogs (command : Command) : Except Failure String := do
  let result ← run probe.casefold (b.answer command) false
  if result.returncode ≠ 0 ∧ mentions probe.casefold ["not found"] result.stderr = false then
    throw (.blocked "log_surface_unreadable")
  return result.stdout ++ result.stderr

def podNames («namespace» : String) : Except Failure (List (String × ℕ)) := do
  let result ← run probe.casefold (b.answer (.podNames «namespace»)) true
  return (split result.stdout).zipIdx

def namespaceLogs («namespace» : String) : Except Failure String := do
  let pods ← podNames probe b «namespace»
  let logs ← pods.mapM fun pod => kubernetesLogs probe b (.podLogs «namespace» pod.2 pod.1)
  return String.join logs

def namespaces : List String :=
  ["fw-control", "fw-data", "fw-observability", "fw-sut", "fw-baseline", "fw-eval"]

/-! ### Volumes -/

/-- The name of the first volume that is mounted at a path. -/
def mountName (mountPath : String) : List Json → Except Failure (Option Json)
  | [] => .ok none
  | mount :: mounts => do
    if (← getField mount "mountPath" .null) = .str mountPath then
      return some (← getField mount "name" .null)
    else mountName mountPath mounts

/-- The name of the volume, from the last container that mounts one. -/
def volumeName (mountPath : String) (document : Json) : Except Failure Json := do
  let containers ← iterate (← getField (← getField document "spec" (.obj [])) "containers" (.arr []))
  containers.foldlM (fun found container => do
    let mounts ← iterate (← getField container "volumeMounts" (.arr []))
    return (← mountName mountPath mounts).getD found) .null

/-- The claim of the first volume with a name. -/
def claimName (name : Json) : List Json → Except Failure Json
  | [] => .ok .null
  | volume :: volumes => do
    if (← getField volume "name" .null) = name then
      getField (← getField volume "persistentVolumeClaim" (.obj [])) "claimName" .null
    else claimName name volumes

/-- The document that a checked command prints. -/
def fetch (command : Command) : Except Failure Json := do
  let result ← run probe.casefold (b.answer command) true
  loads result.stdout

/-- The directory of the host behind a mounted volume. -/
def volumeDirectory («namespace» pod mountPath : String) : Except Failure Directory := do
  let document ← fetch probe b (.pod «namespace» pod)
  let name ← volumeName mountPath document
  if truthy (some name) = false then throw (.blocked "telemetry_volume_missing")
  let volumes ← iterate (← getField (← getField document "spec" (.obj [])) "volumes" (.arr []))
  let claimed ← claimName name volumes
  if truthy (some claimed) = false then throw (.blocked "telemetry_claim_missing")
  let claim ← fetch probe b (.claim «namespace» pod (lib.str claimed))
  let volumeId ← getField (← getField claim "spec" (.obj [])) "volumeName" .null
  if truthy (some volumeId) = false then throw (.blocked "telemetry_volume_unbound")
  let volume ← fetch probe b (.volume pod (lib.str volumeId))
  let spec ← getField volume "spec" (.obj [])
  let localPath ← getField (← getField spec "local" (.obj [])) "path" .null
  let hostPath ← if truthy (some localPath) then pure localPath
    else getField (← getField spec "hostPath" (.obj [])) "path" .null
  match hostPath with
  | .str path =>
    match b.directory path with
    | none => throw .io
    | some directory =>
      if directory.safe then return directory else throw (.blocked "telemetry_host_path_unsafe")
  | _ => throw (.blocked "telemetry_host_path_missing")

/-- The loop over the tokens for one chunk: the hits, and what is kept for each token. -/
def scanChunk (chunk : Bytes) : List Bytes → (Bytes → Bytes) → ℕ × (Bytes → Bytes)
  | [], overlaps => (0, overlaps)
  | token :: tokens, overlaps =>
    let window := overlaps token ++ chunk
    let rest := scanChunk chunk tokens (Function.update overlaps token (overlap token window))
    (count token window + rest.1, rest.2)

def scanChunks (tokens : List Bytes) : List Bytes → (Bytes → Bytes) → ℕ
  | [], _ => 0
  | chunk :: chunks, overlaps =>
    (scanChunk chunk tokens overlaps).1 +
      scanChunks tokens chunks (scanChunk chunk tokens overlaps).2

/-- The hits in a file, which has to be read to its end. -/
def fileHits (tokens : List Bytes) (file : FileRead) : Except Failure ℕ :=
  if file.complete then .ok (scanChunks tokens file.chunks fun _ => []) else .error .io

def persistentVolumeHits («namespace» pod mountPath : String) (tokens : List Bytes) :
    Except Failure ℕ := do
  let directory ← volumeDirectory probe lib b «namespace» pod mountPath
  if .failed ∈ directory.visits then throw .io
  let hits ← directory.files.mapM (fileHits tokens)
  return hits.sum

/-! ### Objects -/

/-- The values of a secret, decoded. -/
def secretBytes (item : Json) : Except Failure Bytes := do
  if (← getField item "kind" .null) ≠ .str "Secret" then return []
  match ← getField item "data" (.obj []) with
  | .obj data =>
    let values ← data.mapM fun f => match f.2 with
      | .str text =>
        match lib.decodeBytes text with
        | some bytes => .ok bytes
        | none => .error (.blocked "kubernetes_secret_invalid_base64")
      | _ => .ok []
    return values.flatten
  | _ => throw .unexpected

def kubernetesObjectPayload : Except Failure Bytes := do
  let result ← run probe.casefold (b.answer .objects) true
  let items ← iterate (← getField (← loads result.stdout) "items" (.arr []))
  let decoded ← items.mapM (secretBytes lib)
  return encode result.stdout ++ decoded.flatten

/-- The objects under a prefix, as far as they are printed. -/
def minioContents (pre : String) : Except Failure String := do
  let result ← run probe.casefold (b.minio pre).answer false
  return result.stdout

/-! ### The action -/

def CANARY_SURFACES : List String :=
  ["process-stdout", "process-stderr", "control-http", "control-sse", "model-prompt",
    "application-log", "trace-buffer", "redis-stream", "postgresql-state", "minio-archive",
    "kubernetes-object", "langsmith-export", "otlp-trace", "otlp-metric", "otlp-log",
    "g02-scenario-object", "g02-trial-object", "g02-evidence-object"]

/-- What the action has gathered: texts to be searched, and the hits in the volumes. -/
structure Scan where
  submissions : List Submission
  before : Json
  after : Json
  controlLogs : String
  modelLogs : String
  allLogs : List String
  postgresDump : String
  redisHits : ℕ
  postgresHits : ℕ
  objects : String
  kubeObjects : Bytes
  tempoHits : ℕ
  prometheusHits : ℕ
  lokiHits : ℕ
  scenarioObjects : String
  trialObjects : String
  evidenceObjects : String

def gather : Except Failure Scan := do
  assertProvisioned probe ctx b.secrets
  let before ← drainStatus probe b false
  let submissions ← (canaries probe ctx).mapM (submitCanary probe lib b)
  let after ← drainStatus probe b true
  if before ≠ after then throw (.blocked "rejected_canary_changed_trace_backlog")
  let controlLogs ← kubernetesLogs probe b (.deploymentLogs "fw-control" "control-api")
  let modelLogs ← kubernetesLogs probe b (.deploymentLogs "fw-control" "model-gateway")
  let allLogs ← namespaces.mapM (namespaceLogs probe b)
  let dump ← run probe.casefold (b.answer .dump) true
  let redisHits ← persistentVolumeHits probe lib b "fw-data" "redis-0" "/data" (canaryTokens probe ctx)
  let postgresHits ← persistentVolumeHits probe lib b "fw-data" "postgres-0"
    "/var/lib/postgresql/data" (canaryTokens probe ctx)
  let objects ← minioContents probe b ""
  let kubeObjects ← kubernetesObjectPayload probe lib b
  let tempoHits ← persistentVolumeHits probe lib b "fw-observability" "tempo-0" "/data"
    (canaryTokens probe ctx)
  let prometheusHits ← persistentVolumeHits probe lib b "fw-observability" "prometheus-0" "/data"
    (canaryTokens probe ctx)
  let lokiHits ← persistentVolumeHits probe lib b "fw-observability" "loki-0" "/data"
    (canaryTokens probe ctx)
  let scenarioObjects ← minioContents probe b "g02/scenarios"
  let trialObjects ← minioContents probe b "g02/trials"
  let evidenceObjects ← minioContents probe b "g02/evidence"
  return { submissions, before, after, controlLogs, modelLogs, allLogs, postgresDump := dump.stdout,
           redisHits, postgresHits, objects, kubeObjects, tempoHits, prometheusHits, lokiHits,
           scenarioObjects, trialObjects, evidenceObjects }

namespace Scan

variable (scan : Scan)

/-- The hits of the surfaces that are not searched as texts. -/
def telemetry (tokens : List Bytes) : List (String × ℕ) :=
  [("otlp-trace", scan.tempoHits), ("otlp-metric", scan.prometheusHits),
    ("otlp-log", scan.lokiHits), ("redis-stream", scan.redisHits),
    ("postgresql-state", scanTokens (encode scan.postgresDump) tokens + scan.postgresHits)]

def inputs : List (String × Bytes) :=
  [("process-stdout", encode (String.join (scan.submissions.map (·.stdout)))),
    ("process-stderr", encode (String.join (scan.submissions.map (·.stderr)))),
    ("control-http", encode (String.join (scan.submissions.map fun s => dumpsSorted s.body))),
    ("control-sse", encode scan.controlLogs), ("model-prompt", encode scan.modelLogs),
    ("application-log", encode (String.join scan.allLogs)),
    ("trace-buffer", encode scan.postgresDump), ("redis-stream", []), ("postgresql-state", []),
    ("minio-archive", encode scan.objects), ("kubernetes-object", scan.kubeObjects),
    ("langsmith-export",
      encode (dumpsSorted (.obj [("before", scan.before), ("after", scan.after)]))),
    ("g02-scenario-object", encode scan.scenarioObjects),
    ("g02-trial-object", encode scan.trialObjects),
    ("g02-evidence-object", encode scan.evidenceObjects)]

def hits (tokens : List Bytes) (surface : String) : ℕ :=
  ((scan.telemetry tokens).lookup surface).getD
    (scanTokens ((scan.inputs.lookup surface).getD []) tokens)

end Scan

structure SurfaceResult where
  surface : String
  hitCount : ℕ
  canaryDigest : String
  artifactRef : String

def surfaceResult (surface : String) (hits : ℕ) : SurfaceResult :=
  let canaryDigest := probe.sha256 (Json.arr ((canaries probe ctx).map .str)).dumps
  { surface
    hitCount := hits
    canaryDigest
    artifactRef := "private://faultwitness/isolation/" ++ ctx.producerSha ++ "/canary/" ++ surface ++
      "/" ++ probe.sha256 (Json.obj [("surface", .str surface), ("hit_count", .int hits),
        ("canary_digest", .str canaryDigest)]).dumps }

/-- The surfaces that the action reports with the status `pass`. -/
def canary : Except Failure (List SurfaceResult) := do
  let scan ← gather probe ctx lib b
  return CANARY_SURFACES.map fun surface =>
    surfaceResult probe ctx surface (scan.hits (canaryTokens probe ctx) surface)

/-! ### What a surface consists of -/

/-- A read of a surface: whether it was complete, and what was printed. -/
structure Read where
  complete : Bool
  content : Bytes

def unread : Read := ⟨false, []⟩

/-- A command that prints a part of a surface. -/
def commandRead (answer : Answer) (content : Completed → String) : Read :=
  match answer with
  | .completed result => ⟨result.returncode = 0, encode (content result)⟩
  | _ => unread

def logRead (command : Command) : Read :=
  commandRead (b.answer command) fun result => result.stdout ++ result.stderr

def minioReads : MinioRun → List Read
  | .listed returncode objects =>
    ⟨returncode = 0, []⟩ :: objects.map fun o => ⟨o.returncode = 0, encode o.stdout⟩
  | .aborted result => [⟨false, encode result.stdout⟩]
  | _ => [unread]

def visitRead (visit : Visit) : Read := ⟨visit = .complete, []⟩

def fileRead (file : FileRead) : Read := ⟨file.complete, file.chunks.flatten⟩

def volumeReads («namespace» pod mountPath : String) : List Read :=
  match volumeDirectory probe lib b «namespace» pod mountPath with
  | .ok directory => directory.visits.map visitRead ++ directory.files.map fileRead
  | .error _ => [unread]

def podLogReads («namespace» : String) : List Read :=
  match podNames probe b «namespace» with
  | .ok pods => pods.map fun pod => logRead b (.podLogs «namespace» pod.2 pod.1)
  | .error _ => [unread]

def bodyRead (canary : String) : Read :=
  match submitCanary probe lib b canary with
  | .ok submission => ⟨true, encode (dumpsSorted submission.body)⟩
  | .error _ => unread

def exportRead : Read :=
  match drainStatus probe b false, drainStatus probe b true with
  | .ok before, .ok after => ⟨true, encode (dumpsSorted (.obj [("before", before), ("after", after)]))⟩
  | _, _ => unread

def objectRead : Read :=
  match kubernetesObjectPayload probe lib b with
  | .ok payload => ⟨true, payload⟩
  | .error _ => unread

def surfaceReads : List (String × List Read) :=
  [("process-stdout", (canaries probe ctx).map fun canary =>
      commandRead (b.answer (.submit canary)) (·.stdout)),
    ("process-stderr", (canaries probe ctx).map fun canary =>
      commandRead (b.answer (.submit canary)) (·.stderr)),
    ("control-http", (canaries probe ctx).map (bodyRead probe lib b)),
    ("control-sse", [logRead b (.deploymentLogs "fw-control" "control-api")]),
    ("model-prompt", [logRead b (.deploymentLogs "fw-control" "model-gateway")]),
    ("application-log", namespaces.flatMap (podLogReads probe b)),
    ("trace-buffer", [commandRead (b.answer .dump) (·.stdout)]),
    ("redis-stream", volumeReads probe lib b "fw-data" "redis-0" "/data"),
    ("postgresql-state", commandRead (b.answer .dump) (·.stdout) ::
      volumeReads probe lib b "fw-data" "postgres-0" "/var/lib/postgresql/data"),
    ("minio-archive", minioReads (b.minio "")),
    ("kubernetes-object", [objectRead probe lib b]),
    ("langsmith-export", [exportRead probe b]),
    ("otlp-trace", volumeReads probe lib b "fw-observability" "tempo-0" "/data"),
    ("otlp-metric", volumeReads probe lib b "fw-observability" "prometheus-0" "/data"),
    ("otlp-log", volumeReads probe lib b "fw-observability" "loki-0" "/data"),
    ("g02-scenario-object", minioReads (b.minio "g02/scenarios")),
    ("g02-trial-object", minioReads (b.minio "g02/trials")),
    ("g02-evidence-object", minioReads (b.minio "g02/evidence"))]

def readsOf (surface : String) : List Read := ((surfaceReads probe ctx lib b).lookup surface).getD []

/-- Everything that was printed of a surface. -/
def printed (reads : List Read) : Bytes := (reads.map (·.content)).flatten

/-- The surfaces of which a volume is a part: each read is searched by itself. -/
def volumeSurfaces : List String :=
  ["redis-stream", "postgresql-state", "otlp-trace", "otlp-metric", "otlp-log"]

/-- The texts of a surface in which the tokens are searched. -/
def searched (surface : String) (reads : List Read) : List Bytes :=
  if surface ∈ volumeSurfaces then reads.map (·.content) else [printed reads]

/-- The surfaces that are searched in what was printed, although some of their reads may fail. -/
def printedSurfaces : List String :=
  ["control-sse", "model-prompt", "application-log", "minio-archive", "g02-scenario-object",
    "g02-trial-object", "g02-evidence-object"]

/-- The surfaces some of whose reads may fail. -/
def toleratedSurfaces : List String := printedSurfaces ++ volumeSurfaces

/-! ### Texts and tokens -/

theorem encode_append (text rest : String) : encode (text ++ rest) = encode text ++ encode rest := by
  rw [encode, encode, encode, String.toUTF8_eq_toByteArray, String.toUTF8_eq_toByteArray,
    String.toUTF8_eq_toByteArray, String.toByteArray_append, ByteArray.data_append,
    Array.toList_append]

theorem encode_join (texts : List String) :
    encode (String.join texts) = (texts.map encode).flatten := by
  have hfold : ∀ text, encode (texts.foldl (fun text rest => text ++ rest) text) =
      encode text ++ (texts.map encode).flatten := by
    induction texts with
    | nil =>
      intro text
      exact (List.append_nil _).symm
    | cons head texts ih =>
      intro text
      rw [List.foldl_cons, ih, encode_append, List.map_cons, List.flatten_cons, List.append_assoc]
  exact hfold ""

variable {probe ctx lib b}

theorem length_canaryTokens {token : Bytes} (h : token ∈ canaryTokens probe ctx) : 2 ≤ token.length := by
  have hstem : ∀ stem rest : String, 2 ≤ (encode stem).length →
      2 ≤ (encode (stem ++ rest)).length := by
    intro stem rest hlength
    rw [encode_append, List.length_append]
    omega
  obtain ⟨text, htext, rfl⟩ := List.mem_map.1 h
  rcases List.mem_cons.1 htext with rfl | htext
  · exact hstem _ _ (by decide)
  · rw [List.mem_singleton.1 htext, String.append_assoc]
    exact hstem _ _ (by decide)

theorem nodup_canaryTokens : (canaryTokens probe ctx).Nodup := by
  have hfirst : encode "FW_SECRET_CANARY_" = 70 :: encode "W_SECRET_CANARY_" := by decide
  have hsecond : encode "fw_pii_canary_" = 102 :: encode "w_pii_canary_" := by decide
  refine List.nodup_cons.2 ⟨fun hmem => ?_, List.nodup_singleton _⟩
  have heq := List.mem_singleton.1 hmem
  rw [encode_append, encode_append, encode_append, hfirst, hsecond] at heq
  exact absurd (List.cons.inj heq).1 (by decide)

theorem scanTokens_eq_zero_iff {payload : Bytes} {tokens : List Bytes}
    (h : ∀ token ∈ tokens, 2 ≤ token.length) :
    scanTokens payload tokens = 0 ↔ ∀ token ∈ tokens, ¬token <:+: payload := by
  rw [scanTokens, List.sum_eq_zero_iff_forall_eq_nat, List.forall_mem_map]
  refine forall₂_congr fun token htoken => ?_
  have hlength := h token htoken
  exact count_eq_zero_iff (List.ne_nil_of_length_pos (by omega))

/-! ### Surfaces that fail closed -/

/-- Without hits, a surface has been read completely and holds none of the tokens. -/
def FailsClosed (tokens : List Bytes) (hits : ℕ) (reads : List Read) : Prop :=
  hits = 0 → ∀ read ∈ reads, read.complete = true ∧ ∀ token ∈ tokens, ¬token <:+: read.content

variable {tokens : List Bytes} {reads : List Read} {hits : ℕ} {space text mountPath : String}

theorem not_infix_of_printed {token : Bytes} (h : ¬token <:+: printed reads) {read : Read}
    (hread : read ∈ reads) : ¬token <:+: read.content :=
  fun hwithin => h (hwithin.trans (List.infix_of_mem_flatten (List.mem_map_of_mem hread)))

/-- A surface that is searched in some texts fails closed exactly if a failed read is made up for by a
token in one of them. -/
theorem failsClosed_texts_iff {texts : List Bytes}
    (hhits : hits = 0 ↔ ∀ token ∈ tokens, ∀ text ∈ texts, ¬token <:+: text)
    (hcover : ∀ token, (∀ text ∈ texts, ¬token <:+: text) → ∀ read ∈ reads, ¬token <:+: read.content) :
    FailsClosed tokens hits reads ↔ ((∃ read ∈ reads, read.complete = false) →
      ∃ token ∈ tokens, ∃ text ∈ texts, token <:+: text) := by
  rw [FailsClosed, hhits]
  constructor
  · rintro hclosed ⟨read, hread, hfailed⟩
    by_contra hnone
    have hcomplete := hclosed (fun token htoken text htext hwithin =>
      hnone ⟨token, htoken, text, htext, hwithin⟩) read hread
    rw [hcomplete.1] at hfailed
    cases hfailed
  · intro hfound hnone read hread
    refine ⟨?_, fun token htoken => hcover token (hnone token htoken) read hread⟩
    by_contra hfailed
    obtain ⟨token, htoken, text, htext, hwithin⟩ :=
      hfound ⟨read, hread, Bool.eq_false_iff.2 hfailed⟩
    exact hnone token htoken text htext hwithin

theorem failsClosed_scan_iff (h : ∀ token ∈ tokens, 2 ≤ token.length) :
    FailsClosed tokens (scanTokens (printed reads) tokens) reads ↔
      ((∃ read ∈ reads, read.complete = false) →
        ∃ token ∈ tokens, ∃ text ∈ [printed reads], token <:+: text) := by
  refine failsClosed_texts_iff ?_ fun token hnone read hread =>
    not_infix_of_printed (hnone _ List.mem_cons_self) hread
  simp only [scanTokens_eq_zero_iff h, List.forall_mem_singleton]

theorem failsClosed_of_complete (h : ∀ token ∈ tokens, 2 ≤ token.length)
    (hreads : ∀ read ∈ reads, read.complete = true)
    (hhits : hits = scanTokens (printed reads) tokens) : FailsClosed tokens hits reads := by
  rw [hhits, failsClosed_scan_iff h]
  rintro ⟨read, hread, hfailed⟩
  rw [hreads read hread] at hfailed
  cases hfailed

/-! ### The reads -/

theorem commandRead_of_run {answer : Answer} {result : Completed}
    (h : run probe.casefold answer true = .ok result) (content : Completed → String) :
    commandRead answer content = ⟨true, encode (content result)⟩ := by
  obtain ⟨rfl, hcode⟩ := run_eq_ok.1 h
  rw [commandRead, decide_eq_true (hcode rfl)]

theorem submitCanary_eq_ok {canary : String} {submission : Submission}
    (h : submitCanary probe lib b canary = .ok submission) :
    commandRead (b.answer (.submit canary)) (·.stdout) = ⟨true, encode submission.stdout⟩ ∧
      commandRead (b.answer (.submit canary)) (·.stderr) = ⟨true, encode submission.stderr⟩ ∧
      bodyRead probe lib b canary = ⟨true, encode (dumpsSorted submission.body)⟩ := by
  have hbody : bodyRead probe lib b canary = ⟨true, encode (dumpsSorted submission.body)⟩ := by
    rw [bodyRead, h]
  obtain ⟨result, hrun, h⟩ := bind_eq_ok.1 h
  have hkept : submission.stdout = result.stdout ∧ submission.stderr = result.stderr := by
    obtain ⟨document, -, h⟩ := bind_eq_ok.1 h
    split at h
    · split at h
      · obtain ⟨status, -, h⟩ := bind_eq_ok.1 h
        obtain ⟨body, -, h⟩ := bind_eq_ok.1 h
        obtain ⟨-, h⟩ := check_eq_ok.1 h
        cases h
        exact ⟨rfl, rfl⟩
      · cases h
    · cases h
  rw [hkept.1, hkept.2]
  exact ⟨commandRead_of_run hrun _, commandRead_of_run hrun _, hbody⟩

/-- The texts of the submissions are those of their reads, and all were complete. -/
theorem submissions_spec {submissions : List Submission} {read : String → Read}
    {content : Submission → String} {canaries : List String}
    (h : canaries.mapM (submitCanary probe lib b) = .ok submissions)
    (hread : ∀ canary submission, submitCanary probe lib b canary = .ok submission →
      read canary = ⟨true, encode (content submission)⟩) :
    (∀ r ∈ canaries.map read, r.complete = true) ∧
      encode (String.join (submissions.map content)) = printed (canaries.map read) := by
  have hall := mapM_eq_ok.1 h
  clear h
  rw [encode_join, List.map_map, printed, List.map_map]
  induction hall with
  | nil => exact ⟨nofun, rfl⟩
  | cons hhead hrest ih =>
    obtain ⟨hcomplete, hcontent⟩ := ih
    have hfirst := hread _ _ hhead
    constructor
    · intro r hr
      rw [List.map_cons, hfirst] at hr
      rcases List.mem_cons.1 hr with rfl | hr
      · rfl
      · exact hcomplete r hr
    · rw [List.map_cons, List.map_cons, List.flatten_cons, List.flatten_cons, hcontent,
        Function.comp_apply, Function.comp_apply, hfirst]

theorem kubernetesLogs_eq_ok {command : Command} (h : kubernetesLogs probe b command = .ok text) :
    (logRead b command).content = encode text := by
  obtain ⟨result, hrun, h⟩ := bind_eq_ok.1 h
  obtain ⟨-, h⟩ := check_eq_ok.1 h
  cases h
  rw [logRead, (run_eq_ok.1 hrun).1]
  rfl

theorem podLogs_spec {pods : List (String × ℕ)} {logs : List String}
    (h : pods.mapM (fun pod => kubernetesLogs probe b (.podLogs space pod.2 pod.1)) = .ok logs) :
    (logs.map encode).flatten =
      printed (pods.map fun pod => logRead b (.podLogs space pod.2 pod.1)) := by
  have hall := mapM_eq_ok.1 h
  clear h
  rw [printed, List.map_map]
  induction hall with
  | nil => rfl
  | cons hhead hrest ih =>
    rw [List.map_cons, List.map_cons, List.flatten_cons, List.flatten_cons, ih,
      Function.comp_apply, kubernetesLogs_eq_ok hhead]

theorem namespaceLogs_eq_ok (h : namespaceLogs probe b space = .ok text) :
    encode text = printed (podLogReads probe b space) := by
  obtain ⟨pods, hpods, h⟩ := bind_eq_ok.1 h
  obtain ⟨logs, hlogs, h⟩ := bind_eq_ok.1 h
  cases h
  rw [encode_join, podLogs_spec hlogs, podLogReads, hpods]

theorem allLogs_eq_ok {spaces texts : List String}
    (h : spaces.mapM (namespaceLogs probe b) = .ok texts) :
    encode (String.join texts) = printed (spaces.flatMap (podLogReads probe b)) := by
  have hall := mapM_eq_ok.1 h
  clear h
  rw [encode_join, printed]
  induction hall with
  | nil => rfl
  | cons hhead hrest ih =>
    rw [List.map_cons, List.flatten_cons, ih, namespaceLogs_eq_ok hhead, printed,
      List.flatMap_cons, List.map_append, List.flatten_append]

theorem minioContents_eq_ok {pre : String} (h : minioContents probe b pre = .ok text) :
    encode text = printed (minioReads (b.minio pre)) := by
  obtain ⟨result, hrun, h⟩ := bind_eq_ok.1 h
  cases h
  have hanswer := (run_eq_ok.1 hrun).1
  cases hminio : b.minio pre with
  | missing =>
    rw [hminio] at hanswer
    cases hanswer
  | ioError =>
    rw [hminio] at hanswer
    cases hanswer
  | aborted other =>
    rw [hminio] at hanswer
    cases hanswer
    exact (List.append_nil _).symm
  | listed returncode objects =>
    rw [hminio] at hanswer
    cases hanswer
    rw [encode_join, minioReads, printed, List.map_cons, List.flatten_cons, List.nil_append,
      List.map_map, List.map_map]
    rfl

/-- For distinct tokens, what is kept for a token depends on that token alone. -/
theorem scanChunk_spec (chunk : Bytes) (hdistinct : tokens.Nodup) (overlaps : Bytes → Bytes) :
    (scanChunk chunk tokens overlaps).1 =
        (tokens.map fun token => count token (overlaps token ++ chunk)).sum ∧
      ∀ token, (scanChunk chunk tokens overlaps).2 token =
        if token ∈ tokens then overlap token (overlaps token ++ chunk) else overlaps token := by
  induction tokens generalizing overlaps with
  | nil => exact ⟨rfl, fun token => (if_neg List.not_mem_nil).symm⟩
  | cons first tokens ih =>
    obtain ⟨hfirst, hdistinct⟩ := List.nodup_cons.1 hdistinct
    obtain ⟨hsum, hkept⟩ :=
      ih hdistinct (Function.update overlaps first (overlap first (overlaps first ++ chunk)))
    have hother : ∀ token ∈ tokens, token ≠ first := fun token htoken heq =>
      hfirst (heq ▸ htoken)
    refine ⟨?_, fun token => ?_⟩
    · rw [scanChunk, hsum, List.map_cons, List.sum_cons]
      refine congrArg (_ + List.sum ·) (List.map_congr_left fun token htoken => ?_)
      rw [Function.update_of_ne (hother token htoken)]
    · rw [scanChunk, hkept token]
      by_cases htoken : token = first
      · subst htoken
        rw [if_neg hfirst, if_pos List.mem_cons_self, Function.update_self]
      · rw [Function.update_of_ne htoken]
        exact if_congr (by rw [List.mem_cons, or_iff_right htoken]) rfl rfl

theorem scanChunks_eq (hdistinct : tokens.Nodup) (chunks : List Bytes) (overlaps : Bytes → Bytes) :
    scanChunks tokens chunks overlaps =
      chunkHits (tokens.map fun token => (token, overlaps token)) chunks := by
  induction chunks generalizing overlaps with
  | nil => rfl
  | cons chunk chunks ih =>
    obtain ⟨hsum, hkept⟩ := scanChunk_spec chunk hdistinct overlaps
    rw [scanChunks, chunkHits, hsum, ih, List.map_map, List.map_map]
    refine congrArg (_ + chunkHits · chunks) (List.map_congr_left fun token htoken => ?_)
    rw [hkept token, if_pos htoken]
    rfl

theorem fileHits_eq_zero_iff (h : ∀ token ∈ tokens, 2 ≤ token.length) (hdistinct : tokens.Nodup)
    {files : List FileRead} {hits : List ℕ} (hhits : files.mapM (fileHits tokens) = .ok hits) :
    hits.sum = 0 ↔ ∀ read ∈ files.map fileRead, ∀ token ∈ tokens, ¬token <:+: read.content := by
  have hall := mapM_eq_ok.1 hhits
  clear hhits
  induction hall with
  | nil => exact ⟨fun _ => nofun, fun _ => rfl⟩
  | @cons file count files hits hhead hrest ih =>
    unfold fileHits at hhead
    split at hhead
    swap
    · cases hhead
    cases hhead
    have hfile : scanChunks tokens file.chunks (fun _ => []) = 0 ↔
        ∀ token ∈ tokens, ¬token <:+: file.chunks.flatten := by
      rw [scanChunks_eq hdistinct, chunkHits_eq_zero_iff, List.forall_mem_map]
      · rfl
      · intro kept hkept
        obtain ⟨token, htoken, rfl⟩ := List.mem_map.1 hkept
        have hlength := h token htoken
        exact ⟨hlength, by change 0 < token.length; omega⟩
    rw [List.map_cons, List.forall_mem_cons, List.sum_cons, Nat.add_eq_zero_iff, hfile]
    exact and_congr_right fun _ => ih

/-- **A volume has no hits exactly if no token occurs in a file that was found.** -/
theorem persistentVolumeHits_eq_ok {pod : String} (h : ∀ token ∈ tokens, 2 ≤ token.length)
    (hdistinct : tokens.Nodup)
    (hhits : persistentVolumeHits probe lib b space pod mountPath tokens = .ok hits) :
    hits = 0 ↔ ∀ read ∈ volumeReads probe lib b space pod mountPath, ∀ token ∈ tokens,
      ¬token <:+: read.content := by
  obtain ⟨directory, hdirectory, hhits⟩ := bind_eq_ok.1 hhits
  obtain ⟨-, hhits⟩ := check_eq_ok.1 hhits
  obtain ⟨counts, hcounts, hhits⟩ := bind_eq_ok.1 hhits
  cases hhits
  rw [volumeReads, hdirectory, fileHits_eq_zero_iff h hdistinct hcounts, List.forall_mem_append]
  refine (and_iff_right ?_).symm
  intro read hread token htoken hwithin
  obtain ⟨visit, -, rfl⟩ := List.mem_map.1 hread
  have hlength := h token htoken
  rw [List.infix_nil.1 hwithin] at hlength
  cases hlength

/-! ### The surfaces of an action -/

/-- What an action has gathered is what its commands have printed. -/
structure Gathered (probe : Probe) (ctx : Context) (lib : Library) (b : Behaviour) (scan : Scan) :
    Prop where
  submissions : (canaries probe ctx).mapM (submitCanary probe lib b) = .ok scan.submissions
  before : drainStatus probe b false = .ok scan.before
  after : drainStatus probe b true = .ok scan.after
  control : kubernetesLogs probe b (.deploymentLogs "fw-control" "control-api") = .ok scan.controlLogs
  model : kubernetesLogs probe b (.deploymentLogs "fw-control" "model-gateway") = .ok scan.modelLogs
  logs : namespaces.mapM (namespaceLogs probe b) = .ok scan.allLogs
  dump : commandRead (b.answer .dump) (·.stdout) = ⟨true, encode scan.postgresDump⟩
  redis : persistentVolumeHits probe lib b "fw-data" "redis-0" "/data" (canaryTokens probe ctx) =
    .ok scan.redisHits
  postgres : persistentVolumeHits probe lib b "fw-data" "postgres-0" "/var/lib/postgresql/data"
    (canaryTokens probe ctx) = .ok scan.postgresHits
  tempo : persistentVolumeHits probe lib b "fw-observability" "tempo-0" "/data" (canaryTokens probe ctx) =
    .ok scan.tempoHits
  prometheus : persistentVolumeHits probe lib b "fw-observability" "prometheus-0" "/data"
    (canaryTokens probe ctx) = .ok scan.prometheusHits
  loki : persistentVolumeHits probe lib b "fw-observability" "loki-0" "/data" (canaryTokens probe ctx) =
    .ok scan.lokiHits
  objects : minioContents probe b "" = .ok scan.objects
  scenario : minioContents probe b "g02/scenarios" = .ok scan.scenarioObjects
  trial : minioContents probe b "g02/trials" = .ok scan.trialObjects
  evidence : minioContents probe b "g02/evidence" = .ok scan.evidenceObjects
  kube : kubernetesObjectPayload probe lib b = .ok scan.kubeObjects

variable {scan : Scan}

theorem gathered_of_gather (h : gather probe ctx lib b = .ok scan) :
    Gathered probe ctx lib b scan := by
  obtain ⟨-, -, h⟩ := bind_eq_ok.1 h
  obtain ⟨before, hbefore, h⟩ := bind_eq_ok.1 h
  obtain ⟨submissions, hsubmissions, h⟩ := bind_eq_ok.1 h
  obtain ⟨after, hafter, h⟩ := bind_eq_ok.1 h
  obtain ⟨-, h⟩ := check_eq_ok.1 h
  obtain ⟨controlLogs, hcontrol, h⟩ := bind_eq_ok.1 h
  obtain ⟨modelLogs, hmodel, h⟩ := bind_eq_ok.1 h
  obtain ⟨allLogs, hlogs, h⟩ := bind_eq_ok.1 h
  obtain ⟨dump, hdump, h⟩ := bind_eq_ok.1 h
  obtain ⟨redisHits, hredis, h⟩ := bind_eq_ok.1 h
  obtain ⟨postgresHits, hpostgres, h⟩ := bind_eq_ok.1 h
  obtain ⟨objects, hobjects, h⟩ := bind_eq_ok.1 h
  obtain ⟨kubeObjects, hkube, h⟩ := bind_eq_ok.1 h
  obtain ⟨tempoHits, htempo, h⟩ := bind_eq_ok.1 h
  obtain ⟨prometheusHits, hprometheus, h⟩ := bind_eq_ok.1 h
  obtain ⟨lokiHits, hloki, h⟩ := bind_eq_ok.1 h
  obtain ⟨scenarioObjects, hscenario, h⟩ := bind_eq_ok.1 h
  obtain ⟨trialObjects, htrial, h⟩ := bind_eq_ok.1 h
  obtain ⟨evidenceObjects, hevidence, h⟩ := bind_eq_ok.1 h
  cases h
  exact ⟨hsubmissions, hbefore, hafter, hcontrol, hmodel, hlogs, commandRead_of_run hdump _, hredis,
    hpostgres, htempo, hprometheus, hloki, hobjects, hscenario, htrial, hevidence, hkube⟩

/-- A surface without volumes whose reads are tolerated is searched in what was printed of it. -/
theorem hits_of_printed (h : Gathered probe ctx lib b scan) {surface : String}
    (hprinted : surface ∈ printedSurfaces) :
    scan.hits (canaryTokens probe ctx) surface =
      scanTokens (printed (readsOf probe ctx lib b surface)) (canaryTokens probe ctx) := by
  have hone : ∀ {command : Command} {text : String}, kubernetesLogs probe b command = .ok text →
      printed [logRead b command] = encode text := by
    intro command text htext
    rw [printed, List.map_singleton, kubernetesLogs_eq_ok htext]
    exact List.append_nil _
  simp only [printedSurfaces, List.mem_cons, List.not_mem_nil, or_false] at hprinted
  rcases hprinted with rfl | rfl | rfl | rfl | rfl | rfl | rfl
  · exact congrArg (scanTokens · _) (hone h.control).symm
  · exact congrArg (scanTokens · _) (hone h.model).symm
  · exact congrArg (scanTokens · _) (allLogs_eq_ok h.logs)
  · exact congrArg (scanTokens · _) (minioContents_eq_ok h.objects)
  · exact congrArg (scanTokens · _) (minioContents_eq_ok h.scenario)
  · exact congrArg (scanTokens · _) (minioContents_eq_ok h.trial)
  · exact congrArg (scanTokens · _) (minioContents_eq_ok h.evidence)

/-- A surface with a volume is searched read by read. -/
theorem hits_of_volume (h : Gathered probe ctx lib b scan) {surface : String}
    (hvolume : surface ∈ volumeSurfaces) :
    scan.hits (canaryTokens probe ctx) surface = 0 ↔ ∀ read ∈ readsOf probe ctx lib b surface,
      ∀ token ∈ canaryTokens probe ctx, ¬token <:+: read.content := by
  have hlength : ∀ token ∈ canaryTokens probe ctx, 2 ≤ token.length := fun token => length_canaryTokens
  have hone : ∀ {pod mountPath : String} {space : String} {hits : ℕ},
      persistentVolumeHits probe lib b space pod mountPath (canaryTokens probe ctx) = .ok hits →
      (hits = 0 ↔ ∀ read ∈ volumeReads probe lib b space pod mountPath,
        ∀ token ∈ canaryTokens probe ctx, ¬token <:+: read.content) :=
    fun hhits => persistentVolumeHits_eq_ok hlength nodup_canaryTokens hhits
  simp only [volumeSurfaces, List.mem_cons, List.not_mem_nil, or_false] at hvolume
  rcases hvolume with rfl | rfl | rfl | rfl | rfl
  · exact hone h.redis
  · have hreads : readsOf probe ctx lib b "postgresql-state" =
        commandRead (b.answer .dump) (·.stdout) ::
          volumeReads probe lib b "fw-data" "postgres-0" "/var/lib/postgresql/data" := rfl
    change scanTokens (encode scan.postgresDump) (canaryTokens probe ctx) + scan.postgresHits = 0 ↔ _
    rw [hreads, List.forall_mem_cons, h.dump, Nat.add_eq_zero_iff, scanTokens_eq_zero_iff hlength,
      hone h.postgres]
  · exact hone h.tempo
  · exact hone h.prometheus
  · exact hone h.loki

/-- **The other surfaces fail closed.** -/
theorem failsClosed_of_not_tolerated (h : Gathered probe ctx lib b scan) {surface : String}
    (hsurface : surface ∈ CANARY_SURFACES) (htolerated : surface ∉ toleratedSurfaces) :
    FailsClosed (canaryTokens probe ctx) (scan.hits (canaryTokens probe ctx) surface)
      (readsOf probe ctx lib b surface) := by
  have hlength : ∀ token ∈ canaryTokens probe ctx, 2 ≤ token.length := fun token => length_canaryTokens
  have hone : ∀ {read : Read} {payload : Bytes}, read = ⟨true, payload⟩ →
      FailsClosed (canaryTokens probe ctx) (scanTokens payload (canaryTokens probe ctx)) [read] := by
    rintro read payload rfl
    refine failsClosed_of_complete hlength (fun read hread => ?_) ?_
    · rw [List.mem_singleton.1 hread]
    · rw [printed, List.map_singleton, List.flatten_cons, List.flatten_nil, List.append_nil]
  have hsubmitted : ∀ {read : String → Read} {content : Submission → String},
      (∀ canary submission, submitCanary probe lib b canary = .ok submission →
        read canary = ⟨true, encode (content submission)⟩) →
      FailsClosed (canaryTokens probe ctx)
        (scanTokens (encode (String.join (scan.submissions.map content))) (canaryTokens probe ctx))
        ((canaries probe ctx).map read) := by
    intro read content hread
    obtain ⟨hcomplete, hprinted⟩ := submissions_spec h.submissions hread
    exact failsClosed_of_complete hlength hcomplete (congrArg (scanTokens · _) hprinted)
  simp only [CANARY_SURFACES, List.mem_cons, List.not_mem_nil, or_false] at hsurface
  rcases hsurface with rfl | rfl | rfl | rfl | rfl | rfl | rfl | rfl | rfl | rfl | rfl | rfl | rfl |
    rfl | rfl | rfl | rfl | rfl
  · exact hsubmitted fun canary submission hsubmit => (submitCanary_eq_ok hsubmit).1
  · exact hsubmitted fun canary submission hsubmit => (submitCanary_eq_ok hsubmit).2.1
  · exact hsubmitted fun canary submission hsubmit => (submitCanary_eq_ok hsubmit).2.2
  · exact absurd (by decide) htolerated
  · exact absurd (by decide) htolerated
  · exact absurd (by decide) htolerated
  · exact hone h.dump
  · exact absurd (by decide) htolerated
  · exact absurd (by decide) htolerated
  · exact absurd (by decide) htolerated
  · have hread : objectRead probe lib b = ⟨true, scan.kubeObjects⟩ := by
      rw [objectRead, h.kube]
    exact hone hread
  · have hread : exportRead probe b =
        ⟨true, encode (dumpsSorted (.obj [("before", scan.before), ("after", scan.after)]))⟩ := by
      rw [exportRead, h.before, h.after]
    exact hone hread
  · exact absurd (by decide) htolerated
  · exact absurd (by decide) htolerated
  · exact absurd (by decide) htolerated
  · exact absurd (by decide) htolerated
  · exact absurd (by decide) htolerated
  · exact absurd (by decide) htolerated

theorem failsClosed_surface_iff (h : Gathered probe ctx lib b scan) {surface : String}
    (hsurface : surface ∈ CANARY_SURFACES) :
    FailsClosed (canaryTokens probe ctx) (scan.hits (canaryTokens probe ctx) surface)
        (readsOf probe ctx lib b surface) ↔
      (surface ∈ toleratedSurfaces →
        (∃ read ∈ readsOf probe ctx lib b surface, read.complete = false) →
        ∃ token ∈ canaryTokens probe ctx,
          ∃ text ∈ searched surface (readsOf probe ctx lib b surface), token <:+: text) := by
  by_cases htolerated : surface ∈ toleratedSurfaces
  swap
  · exact ⟨fun _ hcontra => absurd hcontra htolerated,
      fun _ => failsClosed_of_not_tolerated h hsurface htolerated⟩
  refine Iff.trans ?_ (forall_prop_of_true htolerated).symm
  by_cases hvolume : surface ∈ volumeSurfaces
  · rw [searched, if_pos hvolume]
    refine failsClosed_texts_iff ?_ fun token hnone read hread =>
      hnone _ (List.mem_map_of_mem hread)
    rw [hits_of_volume h hvolume]
    simp only [List.forall_mem_map]
    exact forall₂_comm
  · have hprinted := (List.mem_append.1 htolerated).resolve_right hvolume
    rw [searched, if_neg hvolume, hits_of_printed h hprinted]
    exact failsClosed_scan_iff fun token => length_canaryTokens

/-- **The canary action fails closed exactly where nothing is tolerated.**  Of every surface that is
reported, no hits mean that it was read completely and holds no canary, exactly if none of the reads
of its logs, objects or directories has failed, or a canary was found anyway. -/
theorem failsClosed_iff (probe : Probe) (ctx : Context) (lib : Library) (b : Behaviour)
    (results : List SurfaceResult) (r : SurfaceResult)
    (h : canary probe ctx lib b = .ok results) (hr : r ∈ results) :
    FailsClosed (canaryTokens probe ctx) r.hitCount (readsOf probe ctx lib b r.surface) ↔
      (r.surface ∈ toleratedSurfaces →
        (∃ read ∈ readsOf probe ctx lib b r.surface, read.complete = false) →
        ∃ token ∈ canaryTokens probe ctx,
          ∃ text ∈ searched r.surface (readsOf probe ctx lib b r.surface), token <:+: text) := by
  obtain ⟨scan, hscan, h⟩ := bind_eq_ok.1 h
  cases h
  obtain ⟨surface, hsurface, rfl⟩ := List.mem_map.1 hr
  exact failsClosed_surface_iff (gathered_of_gather hscan) hsurface

/-! ### A listing that fails -/

/-- A document that answers all questions of the action. -/
def sampleDocument : Json :=
  .obj [("body", .obj []), ("items", .arr []),
    ("spec", .obj [("containers", .arr [.obj [("volumeMounts", .arr [mount "/data",
        mount "/var/lib/postgresql/data"])]]),
      ("local", .obj [("path", .str "/p")]), ("volumeName", .str "w"),
      ("volumes", .arr [.obj [("name", .str "v"),
        ("persistentVolumeClaim", .obj [("claimName", .str "c")])]])]),
    ("status", .int 422)]
where
  mount (path : String) : Json := .obj [("mountPath", .str path), ("name", .str "v")]

def sampleLibrary : Library where
  decodeBytes _ := none
  int
    | .int n => .ok n
    | _ => .error .malformed
  dict := .ok
  str
    | .str text => text
    | _ => ""

/-- Everything is empty, and the listing of the archive fails. -/
def sampleBehaviour : Behaviour where
  secrets := AccessProbe.sampleBehaviour ⟨0, "", ""⟩ false
  answer
    | .deploymentLogs _ _ => .completed ⟨0, "", ""⟩
    | .podNames _ => .completed ⟨0, "", ""⟩
    | .podLogs _ _ _ => .completed ⟨0, "", ""⟩
    | _ => .completed ⟨0, sampleDocument.dumps, ""⟩
  minio pre := .listed (if pre = "" then 1 else 0) []
  directory _ := some ⟨true, [.complete], []⟩

theorem loads_sample : loads sampleDocument.dumps = .ok sampleDocument := by
  have hsort : sampleDocument.sortKeys = sampleDocument := by decide +kernel
  rw [loads, Json.loads_dumps (by decide +kernel), hsort]

theorem fetch_sample {b : Behaviour} {command : Command}
    (h : b.answer command = .completed ⟨0, sampleDocument.dumps, ""⟩) :
    fetch sampleProbe b command = .ok sampleDocument :=
  bind_eq_ok.2 ⟨_, run_eq_ok.2 ⟨h, fun _ => rfl⟩, loads_sample⟩

theorem submitCanary_sample (canary : String) :
    submitCanary sampleProbe sampleLibrary sampleBehaviour canary =
      .ok ⟨.obj [], sampleDocument.dumps, ""⟩ :=
  bind_eq_ok.2 ⟨⟨0, sampleDocument.dumps, ""⟩, run_eq_ok.2 ⟨rfl, fun _ => rfl⟩,
    bind_eq_ok.2 ⟨sampleDocument, loads_sample, rfl⟩⟩

theorem drainStatus_sample (after : Bool) :
    drainStatus sampleProbe sampleBehaviour after = .ok (.int 422) :=
  bind_eq_ok.2 ⟨⟨0, sampleDocument.dumps, ""⟩, run_eq_ok.2 ⟨rfl, fun _ => rfl⟩,
    bind_eq_ok.2 ⟨sampleDocument, loads_sample, rfl⟩⟩

theorem volumeDirectory_sample {pod : String} (files : List FileRead)
    (h : volumeName mountPath sampleDocument = .ok (.str "v")) :
    volumeDirectory sampleProbe sampleLibrary
        { sampleBehaviour with directory := fun _ => some ⟨true, [.complete], files⟩ } space pod
        mountPath = .ok ⟨true, [.complete], files⟩ := by
  refine bind_eq_ok.2 ⟨sampleDocument, fetch_sample rfl, bind_eq_ok.2 ⟨_, h, ?_⟩⟩
  refine check_eq_ok.2 ⟨by decide, bind_eq_ok.2 ⟨_, rfl, bind_eq_ok.2 ⟨_, rfl, ?_⟩⟩⟩
  refine bind_eq_ok.2 ⟨_, rfl, bind_eq_ok.2 ⟨.str "c", rfl, check_eq_ok.2 ⟨by decide, ?_⟩⟩⟩
  refine bind_eq_ok.2 ⟨sampleDocument, fetch_sample rfl, bind_eq_ok.2 ⟨_, rfl, ?_⟩⟩
  refine bind_eq_ok.2 ⟨.str "w", rfl, check_eq_ok.2 ⟨by decide, ?_⟩⟩
  refine bind_eq_ok.2 ⟨sampleDocument, fetch_sample rfl, bind_eq_ok.2 ⟨_, rfl, ?_⟩⟩
  exact bind_eq_ok.2 ⟨_, rfl, bind_eq_ok.2 ⟨.str "/p", rfl, rfl⟩⟩

theorem persistentVolumeHits_sample {pod : String} {tokens : List Bytes}
    (h : volumeName mountPath sampleDocument = .ok (.str "v")) :
    persistentVolumeHits sampleProbe sampleLibrary sampleBehaviour space pod mountPath tokens =
      .ok 0 :=
  bind_eq_ok.2 ⟨⟨true, [.complete], []⟩, volumeDirectory_sample [] h, rfl⟩

theorem kubernetesObjectPayload_sample :
    kubernetesObjectPayload sampleProbe sampleLibrary sampleBehaviour =
      .ok (encode sampleDocument.dumps ++ []) := by
  refine bind_eq_ok.2 ⟨⟨0, sampleDocument.dumps, ""⟩, run_eq_ok.2 ⟨rfl, fun _ => rfl⟩, ?_⟩
  refine bind_eq_ok.2 ⟨sampleDocument, loads_sample, bind_eq_ok.2 ⟨.arr [], rfl, ?_⟩⟩
  exact bind_eq_ok.2 ⟨[], rfl, rfl⟩

/-- The action passes, and nothing was printed of the archive. -/
theorem gather_sample : ∃ scan, gather sampleProbe sampleContext sampleLibrary sampleBehaviour =
    .ok scan ∧ scan.objects = "" := by
  have hsubmissions : ∃ submissions, (canaries sampleProbe sampleContext).mapM
      (submitCanary sampleProbe sampleLibrary sampleBehaviour) = .ok submissions :=
    exists_mapM_eq_ok fun canary _ => ⟨_, submitCanary_sample canary⟩
  obtain ⟨submissions, hsubmissions⟩ := hsubmissions
  have hdata : volumeName "/data" sampleDocument = .ok (.str "v") := by rfl
  have hpostgres : volumeName "/var/lib/postgresql/data" sampleDocument = .ok (.str "v") := by rfl
  refine ⟨{ submissions, before := .int 422, after := .int 422, controlLogs := "", modelLogs := ""
            allLogs := ["", "", "", "", "", ""], postgresDump := sampleDocument.dumps, redisHits := 0
            postgresHits := 0, objects := "", kubeObjects := encode sampleDocument.dumps ++ []
            tempoHits := 0, prometheusHits := 0, lokiHits := 0, scenarioObjects := ""
            trialObjects := "", evidenceObjects := "" }, ?_, rfl⟩
  refine bind_eq_ok.2 ⟨(), assertProvisioned_sample _ _, ?_⟩
  refine bind_eq_ok.2 ⟨_, drainStatus_sample false, bind_eq_ok.2 ⟨_, hsubmissions, ?_⟩⟩
  refine bind_eq_ok.2 ⟨_, drainStatus_sample true, check_eq_ok.2 ⟨not_not_intro rfl, ?_⟩⟩
  refine bind_eq_ok.2 ⟨"", rfl, bind_eq_ok.2 ⟨"", rfl, bind_eq_ok.2 ⟨_, rfl, ?_⟩⟩⟩
  refine bind_eq_ok.2 ⟨⟨0, sampleDocument.dumps, ""⟩, run_eq_ok.2 ⟨rfl, fun _ => rfl⟩, ?_⟩
  refine bind_eq_ok.2 ⟨_, persistentVolumeHits_sample hdata, ?_⟩
  refine bind_eq_ok.2 ⟨_, persistentVolumeHits_sample hpostgres, bind_eq_ok.2 ⟨"", rfl, ?_⟩⟩
  refine bind_eq_ok.2 ⟨_, kubernetesObjectPayload_sample, ?_⟩
  refine bind_eq_ok.2 ⟨_, persistentVolumeHits_sample hdata, ?_⟩
  refine bind_eq_ok.2 ⟨_, persistentVolumeHits_sample hdata, ?_⟩
  refine bind_eq_ok.2 ⟨_, persistentVolumeHits_sample hdata, ?_⟩
  exact bind_eq_ok.2 ⟨"", rfl, bind_eq_ok.2 ⟨"", rfl, bind_eq_ok.2 ⟨"", rfl, rfl⟩⟩⟩

theorem canary_sample : ∃ results r,
    canary sampleProbe sampleContext sampleLibrary sampleBehaviour = .ok results ∧ r ∈ results ∧
      r.surface = "minio-archive" ∧ r.hitCount = 0 := by
  obtain ⟨scan, hgather, hobjects⟩ := gather_sample
  refine ⟨_, surfaceResult sampleProbe sampleContext "minio-archive"
    (scan.hits (canaryTokens sampleProbe sampleContext) "minio-archive"),
    bind_eq_ok.2 ⟨scan, hgather, rfl⟩,
    List.mem_map.2 ⟨"minio-archive", by decide, rfl⟩, rfl, ?_⟩
  change scanTokens (encode scan.objects) (canaryTokens sampleProbe sampleContext) = 0
  rw [hobjects, scanTokens_eq_zero_iff fun token => length_canaryTokens]
  intro token htoken hwithin
  have hlength := length_canaryTokens htoken
  rw [show encode "" = [] by rfl, List.infix_nil] at hwithin
  rw [hwithin] at hlength
  cases hlength

/-- The archive cannot be listed, and is reported without hits. -/
theorem not_failsClosed_listing :
    ¬∀ (probe : Probe) (ctx : Context) (lib : Library) (b : Behaviour)
      (results : List SurfaceResult) (r : SurfaceResult),
      canary probe ctx lib b = .ok results → r ∈ results →
      FailsClosed (canaryTokens probe ctx) r.hitCount (readsOf probe ctx lib b r.surface) := by
  intro h
  obtain ⟨results, r, hresults, hr, hsurface, hzero⟩ := canary_sample
  have hclosed := h sampleProbe sampleContext sampleLibrary sampleBehaviour results r hresults hr
  rw [hsurface] at hclosed
  have hread := (hclosed hzero ⟨false, []⟩ List.mem_cons_self).1
  cases hread

theorem failsClosed_iff_listing : ∃ results r,
    canary sampleProbe sampleContext sampleLibrary sampleBehaviour = .ok results ∧ r ∈ results ∧
      (FailsClosed (canaryTokens sampleProbe sampleContext) r.hitCount
          (readsOf sampleProbe sampleContext sampleLibrary sampleBehaviour r.surface) ↔
        (r.surface ∈ toleratedSurfaces →
          (∃ read ∈ readsOf sampleProbe sampleContext sampleLibrary sampleBehaviour r.surface,
            read.complete = false) →
          ∃ token ∈ canaryTokens sampleProbe sampleContext, ∃ text ∈ searched r.surface
            (readsOf sampleProbe sampleContext sampleLibrary sampleBehaviour r.surface),
            token <:+: text)) := by
  obtain ⟨results, r, hresults, hr, -⟩ := canary_sample
  exact ⟨results, r, hresults, hr,
    failsClosed_iff sampleProbe sampleContext sampleLibrary sampleBehaviour results r hresults hr⟩

end CanaryScan
