/-
**The access action of the gate probe.**

For a cell of the access matrix the probe runs one command as a principal: a query of a relation, a
transfer of an object, or a request to an observability service.  A command that succeeds means that
access is allowed; one that fails means that it is denied, or, if its output says that something was
unreachable, that nothing was learned.  The last case stops the probe only where access was expected
to be allowed.

Main definitions:
* `AccessProbe.commandOutcome` - the classifier of a command's result
* `AccessProbe.access`, `AccessProbe.invoke` - the action, and what the collector hears of it
* `AccessProbe.reached` - the result of the cell's own command, if it was run

Main results:
* `AccessProbe.denied_iff` - a denying cell is evidence of isolation exactly if its command, where
  it fails, was refused by the service and does not say that something was unreachable
* `AccessProbe.not_isolation_outage` - an outage that passes as a denial
-/
import FaultWitness.RemoteCommands
import FaultWitness.ProbeMatrices

set_option autoImplicit false

namespace AccessProbe

open Python Experiments ProbeMatrices RemoteCommands

/-! ### Commands -/

/-- The commands of the action, with what distinguishes one from another. -/
inductive Command
  | secretDocument («namespace» name : String)
  | secretValue («namespace» name key : String)
  | queryAsOwner (statement : String)
  | queryAs (role login database relation : String)
  | objectWrite (access secret path : String)
  | objectRead (access secret path : String)
  | connect («namespace» pod host : String) (port : ℕ)
  | fetch («namespace» pod url : String)
deriving DecidableEq

structure SchemaTarget where
  schema : String
  relation : String
  ownerRole : String

structure ObservabilityTarget where
  url : String
  host : Option String
  port : Option ℕ

/-- The request of the action and what the probe uses of the language's library. -/
structure Probe where
  sha256 : String → String
  casefold : String → String
  /-- The text behind its base64 form, which may be checked for other characters. -/
  decode : (validate : Bool) → String → Option String
  planDigest : String
  images : List String
  schemaTargets : List (String × SchemaTarget)
  observabilityTargets : List (String × ObservabilityTarget)
  /-- The namespaces of the probe pods. -/
  probePods : List (String × String)

/-- How the commands behave during one action; and which of them the probed service has answered
with a refusal, which nobody but the service knows. -/
structure Behaviour where
  answer : Command → Answer
  refused : Command → Bool
  /-- The output of the probe comes back. -/
  delivered : Bool

variable (probe : Probe) (ctx : Context)

/-! ### The request -/

def hexadecimal (length : ℕ) (text : String) : Bool :=
  text.toList.length = length &&
    text.toList.all fun c => ('0' ≤ c && c ≤ '9') || ('a' ≤ c && c ≤ 'f')

def validateRequest : Except Failure Unit := do
  if hexadecimal 40 ctx.producerSha = false then throw (.blocked "producer_provenance_invalid")
  if hexadecimal 64 ctx.environmentFingerprint = false then
    throw (.blocked "environment_fingerprint_invalid")
  if probe.images.any fun image => !occursIn "@sha256:".toList image.toList then
    throw (.blocked "probe_image_not_pinned")

/-! ### Secrets -/

def secretNamespace (principal : String) : String :=
  if principal = "scenario-controller" then "fw-sut"
  else if principal = "baseline-agent" then "fw-baseline"
  else "fw-eval"

def secretName (principal : String) : String := "g02-" ++ principal ++ "-probe"

/-- A text that a secret's document binds. -/
def boundValue (data : Fields) (key : String) : Except Failure String :=
  match data.lookup key with
  | none => .error (.blocked "existing_probe_secret_unbound")
  | some (.str text) =>
    match probe.decode false text with
    | none => .error (.blocked "existing_probe_secret_unbound")
    | some value => .ok value
  | some _ => .error .malformed

def existingSecretSemantics (b : Behaviour) («namespace» name : String) :
    Except Failure (Option (String × String)) := do
  let result ← run probe.casefold (b.answer (.secretDocument «namespace» name)) false
  if result.returncode ≠ 0 then return none
  match Json.loads result.stdout with
  | none => throw .malformed
  | some (.obj document) =>
    let data ← match document.lookup "data" with
      | none => pure []
      | some (.obj data) => pure data
      | some _ => throw .malformed
    let fingerprint ← boundValue probe data "ENVIRONMENT_FINGERPRINT"
    let planDigest ← boundValue probe data "PLAN_DIGEST"
    return some (fingerprint, planDigest)
  | some _ => throw .unexpected

def secretValue (b : Behaviour) («namespace» name key : String) : Except Failure String := do
  let result ← run probe.casefold (b.answer (.secretValue «namespace» name key)) true
  match probe.decode true result.stdout with
  | some value => return value
  | none => throw (.blocked "credential_secret_invalid")

def principals : List String :=
  ["scenario-controller", "baseline-agent", "sealed-evaluator", "ordinary-developer"]

def assertProvisioned (b : Behaviour) : Except Failure Unit :=
  principals.forM fun principal => do
    let actual ← existingSecretSemantics probe b (secretNamespace principal) (secretName principal)
    if actual ≠ some (ctx.environmentFingerprint, probe.planDigest) then
      throw (.blocked "probe_semantics_drifted")

/-! ### The command of a cell -/

/-- What the output of a cell's command says if something was unreachable. -/
def infrastructureMarkers : List String :=
  ["connection refused", "connection reset", "i/o timeout", "no route to host",
    "service unavailable", "temporary failure", "unable to resolve host", "bad address"]

def commandOutcome (result : Completed) : Bool × String :=
  if result.returncode = 0 then (true, "allowed")
  else if mentions probe.casefold infrastructureMarkers (result.stdout ++ result.stderr) then
    (false, "infrastructure")
  else (false, "denied")

def databasePrincipal (name : String) : String :=
  if name = "cross-boundary" then "sealed-evaluator" else name

/-- The text after the first separator. -/
def after (separator : Char) (text : String) : String :=
  String.ofList ((text.toList.dropWhile (· ≠ separator)).drop 1)

/-- The command of `database_access`. -/
def databaseCommand (b : Behaviour) (cell : AccessCell) : Except Failure Command := do
  match probe.schemaTargets.lookup (after ':' cell.target) with
  | none => throw .malformed
  | some target =>
    let relation := target.schema ++ "." ++ target.relation
    if cell.probe = "canonical-owner" then
      let statement := if target.ownerRole = "__database_owner__" then ""
        else "SET ROLE " ++ target.ownerRole ++ "; "
      return .queryAsOwner (statement ++ "SELECT 1 FROM " ++ relation ++ " LIMIT 1;")
    let principal := databasePrincipal cell.probe
    let «namespace» := if principal = "baseline-agent" then "fw-baseline" else "fw-eval"
    let role ← secretValue probe b «namespace» (secretName principal) "POSTGRES_USER"
    let login ← secretValue probe b «namespace» (secretName principal) "POSTGRES_PASSWORD"
    let database ← secretValue probe b "fw-data" "fw-postgres-env" "POSTGRES_DB"
    return .queryAs role login database relation

/-- The principal and the operation for a prefix and a probe; `true` is a write. -/
def objectOperation (pre name : String) : Option (String × Bool) :=
  if name = "canonical-owner" then
    [("scenarios/", ("scenario-controller", false)), ("trials/", ("sealed-evaluator", false)),
      ("ground-truth/", ("sealed-evaluator", false)), ("locked-tests/", ("sealed-evaluator", false)),
      ("evidence/", ("sealed-evaluator", true))].lookup pre
  else if name = "baseline-agent" ∨ name = "ordinary-developer" then some (name, false)
  else
    [("scenarios/", ("sealed-evaluator", false)), ("trials/", ("scenario-controller", true)),
      ("ground-truth/", ("scenario-controller", false)),
      ("locked-tests/", ("scenario-controller", false)),
      ("evidence/", ("scenario-controller", false))].lookup pre

/-- The command of `object_access`. -/
def objectCommand (b : Behaviour) (cell : AccessCell) : Except Failure Command := do
  let pre := after '/' cell.target
  match objectOperation pre cell.probe with
  | none => throw .malformed
  | some (principal, write) =>
    let access ← secretValue probe b (secretNamespace principal) (secretName principal)
      "MINIO_ACCESS_KEY"
    let secret ← secretValue probe b (secretNamespace principal) (secretName principal)
      "MINIO_SECRET_KEY"
    if write then
      let path := "probe-" ++ String.ofList
        ((probe.sha256 (Json.obj cell.fields).dumps).toList.take 16)
      return .objectWrite access secret ("g02/" ++ pre ++ path)
    else return .objectRead access secret ("g02/" ++ pre ++ "deny-sentinel")

/-- The command of `observability_access`. -/
def observabilityCommand (cell : AccessCell) : Except Failure Command :=
  match probe.observabilityTargets.lookup (after ':' cell.target), probe.probePods.lookup cell.probe
  with
  | some target, some «namespace» =>
    if after ':' cell.target = "langsmith" then
      match target.host, target.port with
      | some host, some port =>
        if host = "" then throw (.blocked "observability_target_invalid")
        else pure (.connect «namespace» ("g02-probe-" ++ cell.probe) host port)
      | _, _ => throw (.blocked "observability_target_invalid")
    else pure (.fetch «namespace» ("g02-probe-" ++ cell.probe) target.url)
  | _, _ => throw .malformed

/-- The command for a cell, by the kind of its target. -/
def cellCommand (b : Behaviour) (cell : AccessCell) : Except Failure Command :=
  if "schema:".toList <+: cell.target.toList then databaseCommand probe b cell
  else if "s3:g02/".toList <+: cell.target.toList then objectCommand probe b cell
  else if "obs:".toList <+: cell.target.toList then observabilityCommand probe cell
  else throw (.blocked "access_target_unknown")

/-- The command of a cell with its result. -/
def cellResult (b : Behaviour) (cell : AccessCell) : Except Failure (Command × Completed) := do
  validateRequest probe ctx
  assertProvisioned probe ctx b
  if cell.cellId = "" then throw (.blocked "access_cell_invalid")
  let command ← cellCommand probe b cell
  let result ← run probe.casefold (b.answer command) false
  return (command, result)

/-! ### The action -/

def evidence (cell : AccessCell) (allowed : Bool) (outcome : String) : Json :=
  .obj [("cell_id", .str cell.cellId), ("actual_allow", .bool allowed), ("outcome", .str outcome),
    ("producer_sha", .str ctx.producerSha),
    ("environment_fingerprint", .str ctx.environmentFingerprint)]

def artifactRef (cell : AccessCell) (allowed : Bool) (outcome : String) : String :=
  "private://faultwitness/isolation/" ++ ctx.producerSha ++ "/access/" ++ cell.cellId ++ "/" ++
    probe.sha256 (evidence ctx cell allowed outcome).dumps

def access (b : Behaviour) (cell : AccessCell) : Except Failure Fields := do
  let (_, result) ← cellResult probe ctx b cell
  let (allowed, outcome) := commandOutcome probe result
  if allowed = false ∧ cell.expectedAllow = true ∧ outcome = "infrastructure" then
    throw (.infra "access_target_unavailable")
  return [("status", .str "pass"), ("cell_id", .str cell.cellId), ("actual_allow", .bool allowed),
    ("outcome", .str outcome), ("artifact_ref", .str (artifactRef probe ctx cell allowed outcome))]

/-- What the collector hears of the action. -/
def invoke (b : Behaviour) (cell : AccessCell) : ProbeMatrices.Outcome :=
  if b.delivered then
    match access probe ctx b cell with
    | .ok document => .returned document
    | .error failure =>
      if (emitted failure).1 = "infra_failed" then .infrastructure (emitted failure).2
      else .blocked (emitted failure).2
  else .infrastructure "remote_probe_transport"

/-- The backend whose access cells are the probe's; one of them asks elsewhere as well. -/
def probeBackend (base : Backend) (behaviours : String → Behaviour) : Backend :=
  { base with
    accessCell := fun cellId =>
      match accessCellContract.find? fun cell => cell.cellId = cellId with
      | none => base.accessCell cellId
      | some cell =>
        if cell.target = "obs:langsmith" then base.accessCell cellId
        else invoke probe ctx (behaviours cellId) cell }

/-- The cell's own command with its result, if it was run and the collector hears of it. -/
def reached (b : Behaviour) (cell : AccessCell) : Option (Command × Completed) :=
  if b.delivered then (cellResult probe ctx b cell).toOption else none

section Reached

variable {probe ctx} {b : Behaviour} {cell : AccessCell}

/-- A cell whose command was not run is not a pass. -/
theorem invoke_of_not_reached (h : reached probe ctx b cell = none) (fields : Fields) :
    invoke probe ctx b cell ≠ .returned fields := by
  unfold reached at h
  unfold invoke
  by_cases hdelivered : b.delivered = true
  · rw [if_pos hdelivered] at h
    rw [if_pos hdelivered]
    have hresult : ∃ failure, access probe ctx b cell = .error failure := by
      unfold access
      cases hcell : cellResult probe ctx b cell with
      | error failure => exact ⟨failure, rfl⟩
      | ok pair =>
        rw [hcell] at h
        cases h
    obtain ⟨failure, hfailure⟩ := hresult
    rw [hfailure]
    dsimp only
    split <;> nofun
  · rw [if_neg hdelivered]
    nofun

/-- What the collector hears of a denying cell whose command was run: the classifier's answer,
whatever it is. -/
theorem invoke_of_reached (hdeny : cell.expectedAllow = false) {command : Command}
    {result : Completed} (h : reached probe ctx b cell = some (command, result)) :
    invoke probe ctx b cell = .returned [("status", .str "pass"), ("cell_id", .str cell.cellId),
      ("actual_allow", .bool (commandOutcome probe result).1),
      ("outcome", .str (commandOutcome probe result).2),
      ("artifact_ref", .str (artifactRef probe ctx cell (commandOutcome probe result).1
        (commandOutcome probe result).2))] := by
  unfold reached at h
  unfold invoke
  by_cases hdelivered : b.delivered = true
  · rw [if_pos hdelivered] at h
    rw [if_pos hdelivered]
    have hcell : cellResult probe ctx b cell = .ok (command, result) := by
      cases hcell : cellResult probe ctx b cell with
      | error failure =>
        rw [hcell] at h
        cases h
      | ok pair =>
        rw [hcell] at h
        exact congrArg Except.ok (Option.some.inj h)
    simp [access, hcell, hdeny, Bind.bind, Except.bind, pure, Except.pure]
  · rw [if_neg hdelivered] at h
    cases h

end Reached

/-! ### Denials -/

section Denials

variable {probe ctx}

variable {cell : AccessCell}

theorem find_cellId {cells : List AccessCell} (hnodup : (cells.map AccessCell.cellId).Nodup)
    (hmem : cell ∈ cells) : (cells.find? fun other => other.cellId = cell.cellId) = some cell := by
  induction cells with
  | nil => cases hmem
  | cons other rest ih =>
    obtain ⟨hnot, hrest⟩ := List.nodup_cons.1 hnodup
    rw [List.find?_cons]
    rcases List.mem_cons.1 hmem with rfl | hmem
    · simp
    · have hne : other.cellId ≠ cell.cellId := by
        intro heq
        exact hnot (heq ▸ List.mem_map_of_mem hmem)
      simp only [decide_eq_false hne]
      exact ih hrest hmem

theorem find_accessCell {trialId : String} (hmem : (trialId, cell) ∈ accessEntries) :
    (accessCellContract.find? fun other => other.cellId = cell.cellId) = some cell := by
  refine find_cellId nodup_cellIds ?_
  unfold accessEntries at hmem
  obtain ⟨⟨other, index⟩, hother, heq⟩ := List.mem_map.1 hmem
  rw [← (Prod.mk.inj heq).2]
  exact List.fst_mem_of_mem_zipIdx hother

/-- A cell with a product schema or an object prefix as its target is the probe's. -/
theorem accessCell_probeBackend (base : Backend) (behaviours : String → Behaviour)
    {trialId : String} (hmem : (trialId, cell) ∈ accessEntries)
    (htarget : "schema:".toList <+: cell.target.toList ∨ "s3:g02/".toList <+: cell.target.toList) :
    (probeBackend probe ctx base behaviours).accessCell cell.cellId =
      invoke probe ctx (behaviours cell.cellId) cell := by
  have hne : cell.target ≠ "obs:langsmith" := by
    intro heq
    rw [heq] at htarget
    revert htarget
    decide
  simp only [probeBackend, find_accessCell hmem, if_neg hne]

theorem cellStatus_denied (hdeny : cell.expectedAllow = false) (allowed : Bool) (outcome : String) :
    cellStatus cell [("status", .str "pass"), ("cell_id", .str cell.cellId),
      ("actual_allow", .bool allowed), ("outcome", .str outcome),
      ("artifact_ref", .str (artifactRef probe ctx cell allowed outcome))] =
      some (if allowed = false then .pass else .metricFail) := by
  have href : artifactRef probe ctx cell allowed outcome ≠ "" := by
    unfold artifactRef
    simp only [String.append_assoc]
    intro h
    exact absurd (String.append_eq_empty_iff.1 h).1 (by decide)
  cases allowed <;> simp [cellStatus, List.lookup_cons, truthy, href, hdeny]

theorem commandOutcome_infrastructure {result : Completed} :
    (commandOutcome probe result).2 = "infrastructure" ↔ result.returncode ≠ 0 ∧
      mentions probe.casefold infrastructureMarkers (result.stdout ++ result.stderr) = true := by
  unfold commandOutcome
  by_cases hzero : result.returncode = 0
  · simp [hzero]
  · by_cases hmarker : mentions probe.casefold infrastructureMarkers
        (result.stdout ++ result.stderr) = true
    · simp [hzero, hmarker]
    · simp [hzero, hmarker]

theorem commandOutcome_denied {result : Completed} :
    (commandOutcome probe result).1 = false ↔ result.returncode ≠ 0 := by
  unfold commandOutcome
  by_cases hzero : result.returncode = 0
  · simp [hzero]
  · simp only [if_neg hzero]
    split <;> simp [hzero]

/-- **A denying cell is evidence of isolation exactly if a failing command was refused.** A cell
that is a pass was answered and refused by the service, and one whose command was classified as an
outage is recorded as one, exactly if the cell's command, where it was run and failed, was refused
and does not say that something was unreachable. -/
theorem denied_iff (base : Backend) (behaviours : String → Behaviour) (journal : Journal)
    (w' : World) (result : Except Raised MatrixDocument) (trialId : String) (cell : AccessCell)
    (hmem : (trialId, cell) ∈ accessEntries) (hdeny : cell.expectedAllow = false)
    (htarget : "schema:".toList <+: cell.target.toList ∨ "s3:g02/".toList <+: cell.target.toList)
    (hrun : runAccessMatrix probe.sha256 ctx (probeBackend probe ctx base behaviours)
      ⟨journal, []⟩ = (result, w'))
    (hasked : Call.accessCell cell.cellId ∈ w'.calls) :
    ∃ record, w'.journal trialId = some record ∧
      (((record.status = .pass → ∃ command completed,
            reached probe ctx (behaviours cell.cellId) cell = some (command, completed) ∧
              (behaviours cell.cellId).refused command = true) ∧
          ∀ command completed,
            reached probe ctx (behaviours cell.cellId) cell = some (command, completed) →
              (commandOutcome probe completed).2 = "infrastructure" →
                record.status = .infraFailed) ↔
        ∀ command completed,
          reached probe ctx (behaviours cell.cellId) cell = some (command, completed) →
            completed.returncode ≠ 0 →
              (behaviours cell.cellId).refused command = true ∧
                mentions probe.casefold infrastructureMarkers
                  (completed.stdout ++ completed.stderr) = false) := by
  obtain ⟨record, hrecord, hstatus⟩ := accessMatrix_recorded hrun hmem (by simp) hasked
  rw [accessCell_probeBackend base behaviours hmem htarget] at hstatus
  refine ⟨record, hrecord, ?_⟩
  cases hreached : reached probe ctx (behaviours cell.cellId) cell with
  | none =>
    -- the command was not run: there is no pass, and nothing was classified
    have hne : record.status ≠ .pass := by
      rw [hstatus]
      cases hanswer : invoke probe ctx (behaviours cell.cellId) cell with
      | returned fields => exact absurd hanswer (invoke_of_not_reached hreached fields)
      | infrastructure reason => nofun
      | blocked reason => nofun
      | raised => nofun
    constructor
    · rintro - command completed hcontra
      cases hcontra
    · intro _
      exact ⟨fun hpass => absurd hpass hne, nofun⟩
  | some pair =>
    obtain ⟨command, completed⟩ := pair
    rw [invoke_of_reached hdeny hreached, recordedStatus, cellStatus_denied hdeny,
      Option.getD_some] at hstatus
    simp only [commandOutcome_denied] at hstatus
    constructor
    · rintro ⟨hpass, hinfra⟩ command completed heq hfails
      cases heq
      rw [if_pos hfails] at hstatus
      obtain ⟨command', completed', heq, hrefused⟩ := hpass hstatus
      cases heq
      refine ⟨hrefused, Bool.eq_false_iff.2 fun hmarker => ?_⟩
      -- a failing command is a pass, so that it cannot be recorded as an outage
      rw [hinfra _ _ rfl (commandOutcome_infrastructure.2 ⟨hfails, hmarker⟩)] at hstatus
      cases hstatus
    · intro h
      constructor
      · intro hpass
        by_cases hfails : completed.returncode ≠ 0
        · exact ⟨command, completed, rfl, (h _ _ rfl hfails).1⟩
        · rw [if_neg hfails, hpass] at hstatus
          cases hstatus
      · rintro command' completed' heq houtage
        cases heq
        obtain ⟨hfails, hmarker⟩ := commandOutcome_infrastructure.1 houtage
        rw [(h _ _ rfl hfails).2] at hmarker
        cases hmarker

end Denials

/-! ### The parts of an action that runs its command -/

section Parts

variable {probe ctx} {b : Behaviour} {cell : AccessCell}

theorem existingSecretSemantics_eq_ok {space name stdout stderr fingerprint planDigest : String}
    {data : Fields} (hanswer : b.answer (.secretDocument space name) = .completed ⟨0, stdout, stderr⟩)
    (hloads : Json.loads stdout = some (.obj [("data", .obj data)]))
    (hfingerprint : boundValue probe data "ENVIRONMENT_FINGERPRINT" = .ok fingerprint)
    (hplan : boundValue probe data "PLAN_DIGEST" = .ok planDigest) :
    existingSecretSemantics probe b space name = .ok (some (fingerprint, planDigest)) := by
  have hrun : run probe.casefold (.completed ⟨0, stdout, stderr⟩) false = .ok ⟨0, stdout, stderr⟩ :=
    rfl
  rw [existingSecretSemantics, hanswer, hrun]
  simp only [Bind.bind, Except.bind, pure, Except.pure, hloads, ne_eq, not_true, if_false]
  rw [show List.lookup "data" [("data", Json.obj data)] = some (.obj data) from rfl]
  dsimp only
  rw [hfingerprint]
  dsimp only
  rw [hplan]

theorem assertProvisioned_eq_ok (h : ∀ space name, existingSecretSemantics probe b space name =
    .ok (some (ctx.environmentFingerprint, probe.planDigest))) :
    assertProvisioned probe ctx b = .ok () := by
  unfold assertProvisioned
  induction principals with
  | nil => rfl
  | cons name names ih =>
    simp only [List.forM_eq_forM, List.forM_cons, h, Bind.bind, Except.bind, ne_eq, not_true,
      if_false, pure, Except.pure] at ih ⊢
    exact ih

theorem secretValue_eq_ok {space name key text value : String}
    (hanswer : b.answer (.secretValue space name key) = .completed ⟨0, text, ""⟩)
    (hdecode : probe.decode true text = some value) :
    secretValue probe b space name key = .ok value := by
  have hrun : run probe.casefold (.completed ⟨0, text, ""⟩) true = .ok ⟨0, text, ""⟩ := rfl
  rw [secretValue, hanswer, hrun]
  simp only [Bind.bind, Except.bind, hdecode, pure, Except.pure]

theorem reached_eq_some {command : Command} {result : Completed} (hdelivered : b.delivered = true)
    (hvalid : validateRequest probe ctx = .ok ()) (hprovisioned : assertProvisioned probe ctx b = .ok ())
    (hid : cell.cellId ≠ "") (hcommand : cellCommand probe b cell = .ok command)
    (hanswer : b.answer command = .completed result) :
    reached probe ctx b cell = some (command, result) := by
  have hrun : run probe.casefold (.completed result) false = .ok result :=
    run_eq_ok.2 ⟨rfl, nofun⟩
  rw [reached, if_pos hdelivered, cellResult, hvalid, hprovisioned]
  simp only [Bind.bind, Except.bind, if_neg hid, hcommand, hanswer, hrun, pure, Except.pure,
    Except.toOption]

end Parts

/-! ### A sample -/

def samplePlanDigest : String := "3333333333333333333333333333333333333333333333333333333333333333"

def encodedFingerprint : String :=
  "MjIyMjIyMjIyMjIyMjIyMjIyMjIyMjIyMjIyMjIyMjIyMjIyMjIyMjIyMjIyMjIyMjIyMjIyMjIyMjIyMjIyMg=="

def encodedPlanDigest : String :=
  "MzMzMzMzMzMzMzMzMzMzMzMzMzMzMzMzMzMzMzMzMzMzMzMzMzMzMzMzMzMzMzMzMzMzMzMzMzMzMzMzMzMzMw=="

def sampleProbe : Probe where
  sha256 := id
  casefold := String.toLower
  decode _ text := [(encodedFingerprint, sampleContext.environmentFingerprint),
    (encodedPlanDigest, samplePlanDigest),
    ("ZndfZzAyX2Jhc2VsaW5lX2FnZW50", "fw_g02_baseline_agent"), ("bG9naW4=", "login"),
    ("ZmF1bHR3aXRuZXNz", "faultwitness")].lookup text
  planDigest := samplePlanDigest
  images := ["minio/mc@sha256:0"]
  schemaTargets := [("incident", ⟨"incident", "incidents", "incident_owner"⟩)]
  observabilityTargets := []
  probePods := []

def sampleCell : AccessCell where
  cellId := "schema:incident|baseline-agent"
  target := "schema:incident"
  probe := "baseline-agent"
  expectedAllow := false

def sampleDocument : Json :=
  .obj [("data", .obj [("ENVIRONMENT_FINGERPRINT", .str encodedFingerprint),
    ("PLAN_DIGEST", .str encodedPlanDigest)])]

/-- The secrets are bound, and every query ends as given. -/
def sampleBehaviour (query : Completed) (refused : Bool) : Behaviour where
  answer
    | .secretDocument _ _ => .completed ⟨0, sampleDocument.dumps, ""⟩
    | .secretValue _ _ "POSTGRES_USER" => .completed ⟨0, "ZndfZzAyX2Jhc2VsaW5lX2FnZW50", ""⟩
    | .secretValue _ _ "POSTGRES_PASSWORD" => .completed ⟨0, "bG9naW4=", ""⟩
    | .secretValue _ _ "POSTGRES_DB" => .completed ⟨0, "ZmF1bHR3aXRuZXNz", ""⟩
    | _ => .completed query
  refused _ := refused
  delivered := true

/-- Only the sample's cell comes back. -/
def sampleBehaviours (query : Completed) (refused : Bool) (cellId : String) : Behaviour :=
  if cellId = sampleCell.cellId then sampleBehaviour query refused
  else ⟨fun _ => .missing, fun _ => false, false⟩

def sampleQuery : Command := .queryAs "fw_g02_baseline_agent" "login" "faultwitness" "incident.incidents"


theorem accessEntries_sample : accessEntries =
    ("access-01", ⟨"schema:incident|canonical-owner", "schema:incident", "canonical-owner", true⟩) ::
      ("access-02", sampleCell) :: accessEntries.drop 2 := by
  have hcontract : accessCellContract =
      ⟨"schema:incident|canonical-owner", "schema:incident", "canonical-owner", true⟩ ::
        sampleCell :: accessCellContract.drop 2 := by rfl
  have hfirst : "access-" ++ twoDigits 1 = "access-01" := by decide
  have hsecond : "access-" ++ twoDigits 2 = "access-02" := by decide
  rw [accessEntries, hcontract]
  simp only [List.zipIdx_cons, List.map_cons, Nat.zero_add, hfirst, Nat.reduceAdd, hsecond,
    List.drop_succ_cons, List.drop_zero]

theorem mem_accessEntries_sample : ("access-02", sampleCell) ∈ accessEntries := by
  rw [accessEntries_sample]
  exact List.mem_cons_of_mem _ List.mem_cons_self

theorem assertProvisioned_sample (query : Completed) (refused : Bool) :
    assertProvisioned sampleProbe sampleContext (sampleBehaviour query refused) = .ok () := by
  refine assertProvisioned_eq_ok fun space name => ?_
  have hsort : sampleDocument.sortKeys = sampleDocument := by decide +kernel
  have hloads : Json.loads sampleDocument.dumps = some sampleDocument := by
    rw [Json.loads_dumps (by decide +kernel), hsort]
  exact existingSecretSemantics_eq_ok rfl hloads rfl rfl

/-- The sample's query is run, whatever its result. -/
theorem reached_sample (query : Completed) (refused : Bool) :
    reached sampleProbe sampleContext (sampleBehaviour query refused) sampleCell =
      some (sampleQuery, query) := by
  have hcommand : cellCommand sampleProbe (sampleBehaviour query refused) sampleCell =
      .ok sampleQuery := by
    have hschema : "schema:".toList <+: sampleCell.target.toList := by decide +kernel
    have hlookup : sampleProbe.schemaTargets.lookup (after ':' sampleCell.target) =
        some ⟨"incident", "incidents", "incident_owner"⟩ := by rfl
    have huser : secretValue sampleProbe (sampleBehaviour query refused) "fw-baseline"
        (secretName "baseline-agent") "POSTGRES_USER" = .ok "fw_g02_baseline_agent" :=
      secretValue_eq_ok rfl (by decide +kernel)
    have hlogin : secretValue sampleProbe (sampleBehaviour query refused) "fw-baseline"
        (secretName "baseline-agent") "POSTGRES_PASSWORD" = .ok "login" :=
      secretValue_eq_ok rfl (by decide +kernel)
    have hdatabase : secretValue sampleProbe (sampleBehaviour query refused) "fw-data"
        "fw-postgres-env" "POSTGRES_DB" = .ok "faultwitness" :=
      secretValue_eq_ok rfl (by decide +kernel)
    have howner : sampleCell.probe ≠ "canonical-owner" := by decide
    have hprincipal : databasePrincipal sampleCell.probe = "baseline-agent" := by decide
    rw [cellCommand, if_pos hschema, databaseCommand, hlookup]
    simp only [if_neg howner, hprincipal, if_true, huser, hlogin, hdatabase, Bind.bind, Except.bind,
      pure, Except.pure]
    rfl
  exact reached_eq_some rfl rfl (assertProvisioned_sample query refused) (by decide) hcommand rfl

/-- A journal in which the first cell has passed. -/
def sampleJournal : Journal :=
  finishUnit id sampleContext "access-01" "schema:incident|canonical-owner" .pass
    (boundPayload sampleContext "schema:incident|canonical-owner" [])
    (finishUnit id sampleContext "g02-provisioning" "isolation-provisioning" .pass
      (boundPayload sampleContext "isolation-provisioning" []) fun _ => none)

theorem exists_run (sha256 : String → String) (backend : Backend) : ∃ result w',
    runAccessMatrix sha256 sampleContext backend ⟨sampleJournal, []⟩ = (result, w') :=
  ⟨_, _, rfl⟩

theorem asked_sample {backend : Backend} {result : Except Raised MatrixDocument} {w' : World}
    (hrun : runAccessMatrix id sampleContext backend ⟨sampleJournal, []⟩ = (result, w')) :
    Call.accessCell sampleCell.cellId ∈ w'.calls := by
  have hprovision : (reusable id sampleContext (sampleJournal "g02-provisioning")
      "isolation-provisioning").isSome = true := by decide +kernel
  have hprovisioned : ensureProvisioned id sampleContext backend ⟨sampleJournal, []⟩ =
      (.ok (), ⟨sampleJournal, []⟩) := ensureProvisioned_reusable hprovision
  have hterminal : terminalResult id sampleContext (sampleJournal "access-01")
      "schema:incident|canonical-owner" = none := terminalResult_pass _
  have hreusable : reusable id sampleContext (sampleJournal "access-01")
      "schema:incident|canonical-owner" = some [] := reusable_finishUnit _ (by decide +kernel)
  have hasked : Call.accessCell sampleCell.cellId ∈
      (accessCells id sampleContext backend accessEntries [] ⟨sampleJournal, []⟩).2.calls := by
    rw [accessEntries_sample, accessCells]
    simp only [hterminal, hreusable]
    exact accessCells_asks rfl rfl _ _
  rw [runAccessMatrix, hprovisioned] at hrun
  dsimp only at hrun
  generalize accessCells id sampleContext backend accessEntries [] ⟨sampleJournal, []⟩ = cells
    at hrun hasked
  obtain ⟨outcome, w⟩ := cells
  cases outcome with
  | error err =>
    cases hrun
    exact hasked
  | ok pair =>
    dsimp only at hrun
    split at hrun
    · split at hrun <;> cases hrun <;> exact hasked
    · cases hrun
      exact hasked

def outage : Completed := ⟨2, "", "psql: error: Connection refused"⟩

/-- **An outage that passes as a denial.**  The connection is refused, and the cell is a pass. -/
theorem not_isolation_outage : ∃ record result w',
    runAccessMatrix sampleProbe.sha256 sampleContext (probeBackend sampleProbe sampleContext
      (sampleBackend []) (sampleBehaviours outage false)) ⟨sampleJournal, []⟩ = (result, w') ∧
    ("access-02", sampleCell) ∈ accessEntries ∧
    Call.accessCell sampleCell.cellId ∈ w'.calls ∧
    w'.journal "access-02" = some record ∧ record.status = .pass ∧
    reached sampleProbe sampleContext (sampleBehaviours outage false sampleCell.cellId) sampleCell =
      some (sampleQuery, outage) ∧
    (commandOutcome sampleProbe outage).2 = "infrastructure" ∧
    (sampleBehaviours outage false sampleCell.cellId).refused sampleQuery = false := by
  have hreached : reached sampleProbe sampleContext
      (sampleBehaviours outage false sampleCell.cellId) sampleCell = some (sampleQuery, outage) :=
    reached_sample outage false
  have htarget : "schema:".toList <+: sampleCell.target.toList := by decide +kernel
  obtain ⟨result, w', hrun⟩ := exists_run id (probeBackend sampleProbe sampleContext
    (sampleBackend []) (sampleBehaviours outage false))
  have hasked := asked_sample hrun
  obtain ⟨record, hrecord, hstatus⟩ :=
    accessMatrix_recorded hrun mem_accessEntries_sample List.not_mem_nil hasked
  rw [accessCell_probeBackend _ _ mem_accessEntries_sample (.inl htarget),
    invoke_of_reached rfl hreached, recordedStatus, cellStatus_denied rfl, Option.getD_some]
    at hstatus
  have hinfrastructure : (commandOutcome sampleProbe outage).2 = "infrastructure" := by
    decide +kernel
  have hdenied : (commandOutcome sampleProbe outage).1 = false := by decide +kernel
  rw [hdenied] at hstatus
  exact ⟨record, result, w', hrun, mem_accessEntries_sample, hasked, hrecord, hstatus, hreached,
    hinfrastructure, rfl⟩

/-- The answer of a service that refuses. -/
def refusal : Completed := ⟨1, "", "ERROR:  permission denied for schema incident"⟩

theorem denied_iff_refusal : ∃ record result w',
    runAccessMatrix sampleProbe.sha256 sampleContext (probeBackend sampleProbe sampleContext
      (sampleBackend []) (sampleBehaviours refusal true)) ⟨sampleJournal, []⟩ = (result, w') ∧
    w'.journal "access-02" = some record ∧
    (record.status = .pass → ∃ command completed,
      reached sampleProbe sampleContext (sampleBehaviours refusal true sampleCell.cellId) sampleCell =
        some (command, completed) ∧
      (sampleBehaviours refusal true sampleCell.cellId).refused command = true) := by
  have hreached : reached sampleProbe sampleContext
      (sampleBehaviours refusal true sampleCell.cellId) sampleCell = some (sampleQuery, refusal) :=
    reached_sample refusal true
  have htarget : "schema:".toList <+: sampleCell.target.toList := by decide +kernel
  obtain ⟨result, w', hrun⟩ := exists_run id (probeBackend sampleProbe sampleContext
    (sampleBackend []) (sampleBehaviours refusal true))
  obtain ⟨record, hrecord, hiff⟩ := @denied_iff sampleProbe sampleContext (sampleBackend [])
    (sampleBehaviours refusal true) sampleJournal w' result "access-02" sampleCell
    mem_accessEntries_sample rfl (.inl htarget) hrun (asked_sample hrun)
  have hmarker : mentions sampleProbe.casefold infrastructureMarkers
      (refusal.stdout ++ refusal.stderr) = false := by decide +kernel
  refine ⟨record, result, w', hrun, hrecord, (hiff.2 ?_).1⟩
  intro command completed heq hfails
  rw [hreached] at heq
  cases heq
  exact ⟨rfl, hmarker⟩

end AccessProbe
