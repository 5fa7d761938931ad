/-
**Experiments with a journal.**

An experiment is a list of units that depend on each other.  The runner takes them in order and
keeps one record for each in a journal: a unit whose record is a pass under the same key is reused,
any other is executed by its handler.  The key of a unit covers the values of its checkpoints, its
input digest and the records of its dependencies.

A handler sees the record of its unit, makes runtime checkpoints, and returns, or raises one of the
two exceptions that the runner catches, or stops: it raises something else, or the process dies.
Records are written at once, so that a process that dies between two writes leaves the journal as an
exception there does.  The log of the executions is kept for what is said about them, and the times
of the records are left out.

Main definitions:

* `Experiments.affectedUnits` — what changed checkpoints invalidate;
* `Experiments.begin`, `Experiments.checkpoint`, `Experiments.finish` — the journal;
* `Experiments.Runner`, `Experiments.Runner.cacheKey`, `Experiments.Runner.run` — the runner.

Main results:

* `Experiments.subject_inj` — **equal keys have equal inputs**;
* `Experiments.Runner.visit_cases` — all that the runner does with one unit.
-/

import FaultWitness.Closures
import FaultWitness.FlagDocuments
import FaultWitness.Traces

set_option autoImplicit false

namespace Experiments

open Python FlagDocuments

/-! ### Keys -/

inductive Error
  | governance
  | keyError
  /-- Anything else that is raised, or the end of the process. -/
  | stopped
deriving DecidableEq

/-- The function `_digest`. -/
def digest (sha256 : String → String) (value : Json) : String := sha256 value.dumps

/-- The values of checkpoints. -/
abbrev Values := String → Option String

/-- The subject of a key; its text is canonical, so the order of the names does not matter. -/
def subject (checkpoints artifacts : List (String × String)) (inputDigest : String) : Json :=
  .obj [("checkpoints", .obj (checkpoints.map fun c => (c.1, .str c.2))),
    ("dependencies", .obj (artifacts.map fun a => (a.1, .str a.2))),
    ("input_digest", .str inputDigest)]

/-- A checkpoint that a unit requires, with its value. -/
def requiredCheckpoint (checkpointValues : Values) (name : String) : Except Error (String × String) :=
  match checkpointValues name with
  | none => .error .governance
  | some value => .ok (name, value)

def semanticCacheKey (sha256 : String → String) (checkpointValues : Values)
    (requiredCheckpoints : List String) (inputDigest : String)
    (dependencyArtifacts : List (String × String)) : Except Error String := do
  let checkpoints ← requiredCheckpoints.mapM (requiredCheckpoint checkpointValues)
  return digest sha256 (subject checkpoints dependencyArtifacts inputDigest)

/-- The units that changed checkpoints affect: those that require one, and what depends on them. -/
def affectedUnits (checkpointDependencies : List (String × List String))
    (changedCheckpoints : List String) (unitDependencies : List (String × List String)) :
    Finset String :=
  Closures.closure unitDependencies
    (((checkpointDependencies.filter fun e => e.2.any (· ∈ changedCheckpoints)).map
      Prod.fst).toFinset)

structure ExperimentUnit where
  unitId : String
  requiredCheckpoints : List String
  dependsOn : List String
  inputDigest : String
  named : unitId ≠ ""
  checkpoints_nodup : requiredCheckpoints.Nodup
  dependsOn_nodup : dependsOn.Nodup
  digested : inputDigest ≠ ""

/-! ### The journal -/

inductive Status
  | running
  | pass
  | metricFail
  | infraFailed
  | blocked
deriving DecidableEq

def Status.value : Status → String
  | .running => "running"
  | .pass => "pass"
  | .metricFail => "metric_fail"
  | .infraFailed => "infra_failed"
  | .blocked => "blocked"

def TERMINAL_STATUSES : List Status := [.pass, .metricFail, .infraFailed, .blocked]

def RESUMABLE_STATUSES : List Status := [.running, .infraFailed]

/-- A record without its history. -/
structure Entry where
  trialId : String
  status : Status
  executionAttempt : ℕ
  recordVersion : ℕ
  producerSha : String
  cacheKey : String
  runtimeCheckpoints : List (String × Json)
  payload : List (String × Json)
  artifactDigest : Option String

/-- A record of the journal. -/
structure Record extends Entry where
  history : List Entry

/-- The records by trial. -/
abbrev Journal := String → Option Record

def allowed : List Char := "abcdefghijklmnopqrstuvwxyz0123456789-_".toList

def read (journal : Journal) (trialId : String) : Except Error (Option Record) :=
  if trialId = "" ∨ ¬(trialId.toList.all (· ∈ allowed)) then .error .governance
  else .ok (journal trialId)

def write (journal : Journal) (trialId : String) (record : Record) : Journal :=
  Function.update journal trialId (some record)

/-- The record with which an execution begins. -/
def running (previous : Option Record) (trialId producerSha cacheKey : String)
    (payload : List (String × Json)) : Record where
  trialId
  status := .running
  executionAttempt := match previous with
    | none => 1
    | some record => record.executionAttempt + 1
  recordVersion := match previous with
    | none => 1
    | some record => record.recordVersion + 1
  producerSha
  cacheKey
  runtimeCheckpoints := match previous with
    | none => []
    | some record => if record.cacheKey = cacheKey then record.runtimeCheckpoints else []
  payload
  artifactDigest := none
  history := match previous with
    | none => []
    | some record => record.history ++ [record.toEntry]

def begin (journal : Journal) (trialId producerSha cacheKey : String)
    (payload : List (String × Json)) : Except Error (Record × Journal) := do
  let previous ← read journal trialId
  let record := running previous trialId producerSha cacheKey payload
  return (record, write journal trialId record)

/-- What a handler asks to be recorded: a name, an observation and perhaps another payload. -/
structure Checkpoint where
  name : String
  observation : Json
  payload : Option (List (String × Json))

def checkpoint (journal : Journal) (trialId : String) (c : Checkpoint) :
    Except Error (Record × Journal) :=
  if c.name = "" then .error .governance
  else
    match read journal trialId with
    | .error err => .error err
    | .ok none => .error .governance
    | .ok (some previous) =>
      if previous.status = .running then
        let record : Record :=
          { previous with
            recordVersion := previous.recordVersion + 1
            runtimeCheckpoints := assign previous.runtimeCheckpoints c.name c.observation
            payload := c.payload.getD previous.payload }
        .ok (record, write journal trialId record)
      else .error .governance

def finish (sha256 : String → String) (journal : Journal) (trialId : String) (status : Status)
    (payload : List (String × Json)) : Except Error (Record × Journal) :=
  if status ∈ TERMINAL_STATUSES then
    match read journal trialId with
    | .error err => .error err
    | .ok none => .error .governance
    | .ok (some previous) =>
      if previous.status = .running then
        let record : Record :=
          { previous with
            status
            recordVersion := previous.recordVersion + 1
            payload
            artifactDigest := some (digest sha256 (.obj payload)) }
        .ok (record, write journal trialId record)
      else .error .governance
  else .error .governance

/-! ### Handlers -/

/-- How a handler ends. -/
inductive Outcome
  /-- It returns a mapping. -/
  | returned (fields : List (String × Json))
  /-- It raises `ExperimentInfrastructureError`. -/
  | infrastructure (reason : String)
  /-- It raises `ExperimentBlockedError`. -/
  | blocked (reason : String)
  /-- It raises something else, or the process dies. -/
  | stopped

/-- What a handler does: its checkpoints, of which some may be refused, and its end. -/
structure Behaviour where
  checkpoints : List Checkpoint
  outcome : Outcome

/-- A handler sees the record with which its execution begins. -/
abbrev Handler := Record → Behaviour

/-- The status that a handler returns; `none` is no status at all. -/
def returnedStatus (fields : List (String × Json)) : Option Status :=
  match fields.lookup "status" with
  | none => some .pass
  | some (.str text) =>
    [Status.running, .pass, .metricFail, .infraFailed, .blocked].find? fun s => s.value = text
  | some _ => none

/-- The payload that a handler returns, which is all but the status if it names none; `none` if it is
no mapping. -/
def returnedPayload (fields : List (String × Json)) : Option (List (String × Json)) :=
  match fields.lookup "payload" with
  | none => some (fields.filter fun f => f.1 ≠ "status")
  | some (.obj payload) => some payload
  | some _ => none

/-- The checkpoints of a handler, one after another. -/
def checkpoints (journal : Journal) (trialId : String) (cs : List Checkpoint) : Journal :=
  cs.foldl (fun journal c =>
    match checkpoint journal trialId c with
    | .ok (_, journal) => journal
    | .error _ => journal) journal

/-- Ending an execution. -/
def conclude (sha256 : String → String) (journal : Journal) (trialId : String) :
    Outcome → Except Error (Record × Journal)
  | .returned fields =>
    match returnedPayload fields with
    | none => .error .governance
    | some payload =>
      match returnedStatus fields with
      | none => .error .governance
      | some status => finish sha256 journal trialId status payload
  | .infrastructure reason =>
    finish sha256 journal trialId .infraFailed [("reason", .str reason)]
  | .blocked reason => finish sha256 journal trialId .blocked [("reason", .str reason)]
  | .stopped => .error .stopped

/-! ### The runner -/

/-- Every unit comes after its dependencies, and no two have the same name. -/
def isOrdered : List String → List ExperimentUnit → Bool
  | _, [] => true
  | seen, u :: us =>
    u.dependsOn.all (· ∈ seen) && decide (u.unitId ∉ seen) && isOrdered (u.unitId :: seen) us

structure Runner where
  units : List ExperimentUnit
  checkpointValues : Values
  producerSha : String
  ordered : isOrdered [] units = true

/-- What the key of a unit takes from one of its dependencies; `key` is the key of a dependency. -/
def dependencyArtifact (sha256 : String → String) (journal : Journal)
    (key : String → Except Error String) (dependencyId : String) : Except Error (String × String) := do
  match ← read journal dependencyId with
  | none => throw .governance
  | some record =>
    if record.status ≠ .pass then throw .governance
    if record.cacheKey ≠ (← key dependencyId) then throw .governance
    match record.artifactDigest with
    | none => throw .governance
    | some artifact =>
      return (dependencyId, digest sha256 (.obj [("semantic_key", .str record.cacheKey),
        ("artifact_digest", .str artifact)]))

def unitKey (sha256 : String → String) (checkpointValues : Values) (journal : Journal)
    (key : String → Except Error String) (u : ExperimentUnit) : Except Error String := do
  let dependencyArtifacts ← u.dependsOn.mapM (dependencyArtifact sha256 journal key)
  semanticCacheKey sha256 checkpointValues u.requiredCheckpoints u.inputDigest dependencyArtifacts

/-- The key of a unit among units of which the last comes first; its dependencies come after it, so
the recursion ends. -/
def keyAmong (sha256 : String → String) (checkpointValues : Values) (journal : Journal) :
    List ExperimentUnit → String → Except Error String
  | [], _ => .error .keyError
  | u :: us, unitId =>
    if u.unitId = unitId then
      unitKey sha256 checkpointValues journal (keyAmong sha256 checkpointValues journal us) u
    else keyAmong sha256 checkpointValues journal us unitId

/-- The method `cache_key`. -/
def Runner.cacheKey (sha256 : String → String) (runner : Runner) (journal : Journal)
    (unitId : String) : Except Error String :=
  keyAmong sha256 runner.checkpointValues journal runner.units.reverse unitId

/-- An execution of a unit, with the status that its record has in the end. -/
structure Execution where
  unitId : String
  cacheKey : String
  status : Status
deriving DecidableEq

/-- What a run has done so far. -/
structure Loop where
  journal : Journal
  records : List Record
  executed : List String
  reused : List String
  skipped : List String
  failed : List String
  executions : List Execution

/-- Whether the record of a dependency is no pass. -/
def anyNotPass (journal : Journal) : List String → Except Error Bool
  | [] => .ok false
  | dependency :: dependencies =>
    match read journal dependency with
    | .error err => .error err
    | .ok record =>
      if record.map (fun r => r.status) = some .pass then anyNotPass journal dependencies
      else .ok true

/-- Executing a unit. -/
def Runner.execute (sha256 : String → String) (runner : Runner) (handler : Handler) (unitId key : String)
    (previous : Option Record) (s : Loop) : Loop × Option Error :=
  match begin s.journal unitId runner.producerSha key
    [("resuming", .bool (previous.any fun record => record.cacheKey = key))] with
  | .error err => (s, some err)
  | .ok (record, journal) =>
    let journal := checkpoints journal unitId (handler record).checkpoints
    match conclude sha256 journal unitId (handler record).outcome with
    | .error err =>
      ({ s with
          journal
          executed := s.executed ++ [unitId]
          executions := s.executions ++ [⟨unitId, key, .running⟩] }, some err)
    | .ok (record, journal) =>
      ({ s with
          journal
          records := s.records ++ [record]
          executed := s.executed ++ [unitId]
          failed := if record.status = .pass then s.failed else s.failed ++ [unitId]
          executions := s.executions ++ [⟨unitId, key, record.status⟩] }, none)

/-- Executing a unit if it has a handler. -/
def Runner.handle (sha256 : String → String) (runner : Runner) (handlers : String → Option Handler)
    (unitId key : String) (previous : Option Record) (s : Loop) : Loop × Option Error :=
  match handlers unitId with
  | none => (s, some .governance)
  | some handler => runner.execute sha256 handler unitId key previous s

def Loop.skip (s : Loop) (unitId : String) : Loop :=
  { s with skipped := s.skipped ++ [unitId], failed := s.failed ++ [unitId] }

def Loop.reuse (s : Loop) (unitId : String) (record : Record) : Loop :=
  { s with records := s.records ++ [record], reused := s.reused ++ [unitId] }

/-- What the runner does with one unit. -/
def Runner.visit (sha256 : String → String) (runner : Runner) (handlers : String → Option Handler)
    (selected : List String) (s : Loop) (u : ExperimentUnit) : Loop × Option Error :=
  if u.unitId ∉ selected then (s, none)
  else if u.dependsOn.any (· ∈ s.failed) then (s.skip u.unitId, none)
  else
    match runner.cacheKey sha256 s.journal u.unitId with
    | .error .governance =>
      match anyNotPass s.journal u.dependsOn with
      | .error err => (s, some err)
      | .ok true => (s.skip u.unitId, none)
      | .ok false => (s, some .governance)
    | .error err => (s, some err)
    | .ok key =>
      match read s.journal u.unitId with
      | .error err => (s, some err)
      | .ok previous =>
        match previous with
        | none => runner.handle sha256 handlers u.unitId key previous s
        | some record =>
          if record.cacheKey = key then
            if record.status = .pass then (s.reuse u.unitId record, none)
            else if record.status = .metricFail ∨ record.status = .blocked then
              (s, some .governance)
            else if record.status ∉ RESUMABLE_STATUSES then (s, some .governance)
            else runner.handle sha256 handlers u.unitId key previous s
          else runner.handle sha256 handlers u.unitId key previous s

/-- The units one after another, until something is raised. -/
def Runner.visitAll (sha256 : String → String) (runner : Runner)
    (handlers : String → Option Handler) (selected : List String) :
    Loop → List ExperimentUnit → Loop × Option Error
  | s, [] => (s, none)
  | s, u :: us =>
    match runner.visit sha256 handlers selected s u with
    | (s, none) => Runner.visitAll sha256 runner handlers selected s us
    | (s, some err) => (s, some err)

def Loop.start (journal : Journal) : Loop := ⟨journal, [], [], [], [], [], []⟩

/-- The method `run`; the loop that is left holds the journal and the lists of an `ExperimentRun`. -/
def Runner.run (sha256 : String → String) (runner : Runner) (handlers : String → Option Handler)
    (unitIds : Option (List String)) (journal : Journal) : Loop × Option Error :=
  let registered := runner.units.map fun u => u.unitId
  let selected := unitIds.getD registered
  if selected.all (· ∈ registered) then
    runner.visitAll sha256 handlers selected (Loop.start journal) runner.units
  else (Loop.start journal, some .governance)

/-! ### The journal -/

variable {sha256 : String → String} {journal journal' : Journal} {trialId : String}
  {o : Option Record}

theorem read_eq_ok (h : read journal trialId = .ok o) : o = journal trialId := by
  rw [read] at h
  split at h
  · cases h
  · cases h
    rfl

/-- Reading depends on the name of the trial only as far as its characters are allowed. -/
theorem read_of_read {other : Journal} (h : read journal trialId = .ok o) :
    read other trialId = .ok (other trialId) := by
  rw [read] at h ⊢
  split at h
  · cases h
  · rename_i hallowed
    rw [if_neg hallowed]

theorem write_write (journal : Journal) (trialId : String) (record other : Record) :
    write (write journal trialId record) trialId other = write journal trialId other :=
  Function.update_idem ..

@[simp] theorem write_self (journal : Journal) (trialId : String) (record : Record) :
    write journal trialId record trialId = some record :=
  Function.update_self ..

theorem write_of_ne {other : String} (h : other ≠ trialId) (journal : Journal) (record : Record) :
    write journal trialId record other = journal other :=
  Function.update_of_ne h ..

theorem read_write {record : Record} (h : read (write journal trialId record) trialId = .ok o) :
    o = some record := by
  rw [read_eq_ok h, write_self]

/-- A record of a trial that is running under a key with a history. -/
structure Running (trialId key : String) (history : List Entry) (record : Record) : Prop where
  trialId : record.trialId = trialId
  status : record.status = .running
  cacheKey : record.cacheKey = key
  history : record.history = history

/-- A record of a trial that has ended under a key with a history. -/
structure Ended (trialId key : String) (history : List Entry) (record : Record) : Prop where
  trialId : record.trialId = trialId
  status : record.status ≠ .running
  cacheKey : record.cacheKey = key
  history : record.history = history
  artifact : record.artifactDigest ≠ none

theorem checkpoint_eq_ok {key : String} {history : List Entry} {record record' : Record} {c : Checkpoint}
    (hrecord : Running trialId key history record)
    (h : checkpoint (write journal trialId record) trialId c = .ok (record', journal')) :
    journal' = write journal trialId record' ∧ Running trialId key history record' := by
  rw [checkpoint] at h
  split at h
  · cases h
  · split at h
    · cases h
    · cases h
    · rename_i previous hread
      cases read_write hread
      rw [if_pos hrecord.status] at h
      cases h
      exact ⟨write_write .., hrecord.trialId, hrecord.status, hrecord.cacheKey, hrecord.history⟩

theorem checkpoints_write (journal : Journal) (trialId : String) {key : String} {history : List Entry} {record : Record}
    (hrecord : Running trialId key history record) (cs : List Checkpoint) :
    ∃ record', checkpoints (write journal trialId record) trialId cs = write journal trialId record' ∧
      Running trialId key history record' := by
  induction cs generalizing record with
  | nil => exact ⟨record, rfl, hrecord⟩
  | cons c cs ih =>
    rw [checkpoints, List.foldl_cons]
    rcases hc : checkpoint (write journal trialId record) trialId c with err | ⟨record', journal'⟩
    · exact ih hrecord
    · obtain ⟨rfl, hrunning⟩ := checkpoint_eq_ok hrecord hc
      exact ih hrunning

theorem finish_eq_ok {key : String} {history : List Entry} {record record' : Record} {status : Status}
    {payload : List (String × Json)} (hrecord : Running trialId key history record)
    (h : finish sha256 (write journal trialId record) trialId status payload = .ok (record', journal')) :
    journal' = write journal trialId record' ∧ Ended trialId key history record' ∧ record'.status = status := by
  rw [finish] at h
  split at h
  · rename_i hterminal
    split at h
    · cases h
    · cases h
    · rename_i previous hread
      cases read_write hread
      rw [if_pos hrecord.status] at h
      cases h
      have hended : status ≠ .running := by
        rintro rfl
        exact absurd hterminal (by decide)
      exact ⟨write_write .., ⟨hrecord.trialId, hended, hrecord.cacheKey, hrecord.history, nofun⟩, rfl⟩
  · cases h

theorem conclude_eq_ok {key : String} {history : List Entry} {record record' : Record} {outcome : Outcome}
    (hrecord : Running trialId key history record)
    (h : conclude sha256 (write journal trialId record) trialId outcome = .ok (record', journal')) :
    journal' = write journal trialId record' ∧ Ended trialId key history record' := by
  have hfinish : ∀ {status payload},
      finish sha256 (write journal trialId record) trialId status payload = .ok (record', journal') →
      journal' = write journal trialId record' ∧ Ended trialId key history record' := fun h =>
    ⟨(finish_eq_ok hrecord h).1, (finish_eq_ok hrecord h).2.1⟩
  cases outcome with
  | returned fields =>
    rw [conclude] at h
    split at h
    · cases h
    · split at h
      · cases h
      · exact hfinish h
  | infrastructure reason => exact hfinish h
  | blocked reason => exact hfinish h
  | stopped => cases h

/-! ### One unit -/

/-- The entries of a record, the present one last. -/
def Record.trail (record : Record) : List Entry := record.history ++ [record.toEntry]

/-- The entries of a trial. -/
def trailOf (journal : Journal) (trialId : String) : List Entry :=
  match journal trialId with
  | none => []
  | some record => record.trail

/-- What an execution leaves behind. -/
inductive Executed (s : Loop) (unitId key : String) : Loop × Option Error → Prop
  | refused (err : Error) : Executed s unitId key (s, some err)
  | stopped (record : Record) (err : Error)
      (h : Running unitId key (trailOf s.journal unitId) record) :
      Executed s unitId key
        ({ s with
            journal := write s.journal unitId record
            executed := s.executed ++ [unitId]
            executions := s.executions ++ [⟨unitId, key, .running⟩] }, some err)
  | ended (record : Record) (h : Ended unitId key (trailOf s.journal unitId) record) :
      Executed s unitId key
        ({ s with
            journal := write s.journal unitId record
            records := s.records ++ [record]
            executed := s.executed ++ [unitId]
            failed := if record.status = .pass then s.failed else s.failed ++ [unitId]
            executions := s.executions ++ [⟨unitId, key, record.status⟩] }, none)

theorem running_running (previous : Option Record) (trialId producerSha key : String)
    (payload : List (String × Json)) :
    Running trialId key (match previous with
      | none => []
      | some record => record.trail) (running previous trialId producerSha key payload) := by
  cases previous <;> exact ⟨rfl, rfl, rfl, rfl⟩

theorem Runner.executed_execute (sha256 : String → String) (runner : Runner) (handler : Handler)
    (unitId key : String) (previous : Option Record) (s : Loop) :
    Executed s unitId key (runner.execute sha256 handler unitId key previous s) := by
  rw [Runner.execute]
  split
  · exact .refused _
  rename_i record journal hbegin
  obtain ⟨previous', hread, hbegin⟩ := bind_eq_ok.1 hbegin
  have hrunning := running_running previous' unitId runner.producerSha key
    [("resuming", .bool (previous.any fun record => record.cacheKey = key))]
  have hprevious := read_eq_ok hread
  subst hprevious
  obtain ⟨rfl, rfl⟩ := Prod.mk.inj (Except.ok.inj hbegin)
  generalize running (s.journal unitId) unitId runner.producerSha key
    [("resuming", .bool (previous.any fun record => record.cacheKey = key))] = first at hrunning ⊢
  obtain ⟨record, hcheckpoints, hrecord⟩ :=
    checkpoints_write s.journal unitId hrunning (handler first).checkpoints
  simp only [hcheckpoints]
  split
  · exact .stopped record _ hrecord
  · rename_i ended journal hconclude
    obtain ⟨rfl, hended⟩ := conclude_eq_ok hrecord hconclude
    exact .ended ended hended

/-! ### What the keys depend on -/

variable {checkpointValues : Values} {key key' : String → Except Error String} {u : ExperimentUnit}
  {d : String}

/-- A dependency counts only with a pass under its own key. -/
theorem dependencyArtifact_eq_ok {a : String × String} :
    dependencyArtifact sha256 journal key d = .ok a ↔
      ∃ record artifact, read journal d = .ok (some record) ∧ record.status = .pass ∧
        key d = .ok record.cacheKey ∧ record.artifactDigest = some artifact ∧
        a = (d, digest sha256 (.obj [("semantic_key", .str record.cacheKey),
          ("artifact_digest", .str artifact)])) := by
  rw [dependencyArtifact]
  constructor
  · intro h
    obtain ⟨o, hread, h⟩ := bind_eq_ok.1 h
    cases o with
    | none => cases h
    | some record =>
      obtain ⟨hstatus, h⟩ := check_eq_ok.1 h
      obtain ⟨k, hkey, h⟩ := bind_eq_ok.1 h
      obtain ⟨hsame, h⟩ := check_eq_ok.1 h
      split at h
      · cases h
      · rename_i artifact hartifact
        cases h
        rw [not_not] at hstatus hsame
        exact ⟨record, artifact, hread, hstatus, hsame ▸ hkey, hartifact, rfl⟩
  · rintro ⟨record, artifact, hread, hstatus, hkey, hartifact, rfl⟩
    refine bind_eq_ok.2 ⟨some record, hread, check_eq_ok.2 ⟨fun h => h hstatus, ?_⟩⟩
    refine bind_eq_ok.2 ⟨_, hkey, check_eq_ok.2 ⟨fun h => h rfl, ?_⟩⟩
    rw [hartifact]
    rfl

theorem requiredCheckpoint_eq_ok {name : String} {c : String × String} :
    requiredCheckpoint checkpointValues name = .ok c ↔ checkpointValues name = some c.2 ∧ c.1 = name := by
  rw [requiredCheckpoint]
  cases checkpointValues name with
  | none => simp
  | some value => rw [Except.ok.injEq, Prod.ext_iff, Option.some.injEq, and_comm, eq_comm (a := name)]

theorem dependencyArtifact_congr (hread : journal d = journal' d) (hkey : key d = key' d) :
    dependencyArtifact sha256 journal key d = dependencyArtifact sha256 journal' key' d := by
  simp only [dependencyArtifact, read, hread, hkey]

theorem unitKey_congr {values : Values}
    (hvalues : ∀ name ∈ u.requiredCheckpoints, checkpointValues name = values name)
    (hread : ∀ d ∈ u.dependsOn, journal d = journal' d) (hkey : ∀ d ∈ u.dependsOn, key d = key' d) :
    unitKey sha256 checkpointValues journal key u = unitKey sha256 values journal' key' u := by
  rw [unitKey, unitKey, mapM_congr fun d hd => dependencyArtifact_congr (hread d hd) (hkey d hd)]
  have hcheckpoints : ∀ name ∈ u.requiredCheckpoints,
      requiredCheckpoint checkpointValues name = requiredCheckpoint values name := fun name hname => by
    rw [requiredCheckpoint, requiredCheckpoint, hvalues name hname]
  simp only [semanticCacheKey, mapM_congr hcheckpoints]

/-- The names of units. -/
def ids (us : List ExperimentUnit) : List String := us.map fun u => u.unitId

/-- Units of which the last comes first: each is new and comes before its dependencies. -/
inductive Stacked : List ExperimentUnit → Prop
  | nil : Stacked []
  | cons {u : ExperimentUnit} {us : List ExperimentUnit} (h : Stacked us)
      (hnew : u.unitId ∉ ids us) (hdeps : ∀ d ∈ u.dependsOn, d ∈ ids us) : Stacked (u :: us)

variable {us late : List ExperimentUnit}

theorem keyAmong_congr (h : Stacked us) (hread : ∀ d ∈ ids us, journal d = journal' d)
    (unitId : String) :
    keyAmong sha256 checkpointValues journal us unitId =
      keyAmong sha256 checkpointValues journal' us unitId := by
  induction h generalizing unitId with
  | nil => rfl
  | @cons u us _ _ hdeps ih =>
    have htail : ∀ d ∈ ids us, journal d = journal' d := fun d hd => hread d (List.mem_cons_of_mem _ hd)
    rw [keyAmong, keyAmong]
    split
    · exact unitKey_congr (fun _ _ => rfl) (fun d hd => htail d (hdeps d hd)) fun d _ => ih htail d
    · exact ih htail unitId

theorem keyAmong_append {unitId : String} (h : unitId ∉ ids late) :
    keyAmong sha256 checkpointValues journal (late ++ us) unitId =
      keyAmong sha256 checkpointValues journal us unitId := by
  induction late with
  | nil => rfl
  | cons u late ih =>
    rw [ids, List.map_cons, List.mem_cons, not_or] at h
    rw [List.cons_append, keyAmong, if_neg (Ne.symm h.1), ih h.2]

theorem stacked_of_isOrdered {before : List ExperimentUnit} (hbefore : Stacked before)
    {seen : List String} (hseen : ∀ d, d ∈ seen ↔ d ∈ ids before) (h : isOrdered seen us = true) :
    Stacked (us.reverse ++ before) := by
  induction us generalizing before seen with
  | nil => exact hbefore
  | cons u us ih =>
    rw [isOrdered, Bool.and_eq_true, Bool.and_eq_true, List.all_eq_true] at h
    obtain ⟨⟨hdeps, hnew⟩, hrest⟩ := h
    simp only [decide_eq_true_eq, hseen] at hdeps hnew
    rw [List.reverse_cons, List.append_assoc, List.singleton_append]
    refine ih (hbefore.cons hnew hdeps) (fun d => ?_) hrest
    rw [ids, List.map_cons, List.mem_cons, List.mem_cons, hseen]
    rfl

theorem Runner.stacked (runner : Runner) : Stacked runner.units.reverse := by
  have h := stacked_of_isOrdered Stacked.nil (fun d => Iff.rfl) runner.ordered
  rwa [List.append_nil] at h

theorem Stacked.of_append (h : Stacked (late ++ us)) : Stacked us := by
  induction late with
  | nil => exact h
  | cons u late ih =>
    cases h with
    | cons h _ _ => exact ih h

theorem Stacked.notMem_of_append (h : Stacked (late ++ us)) (hd : d ∈ ids us) : d ∉ ids late := by
  induction late with
  | nil => exact List.not_mem_nil
  | cons u late ih =>
    cases h with
    | cons h hnew _ =>
      rw [ids, List.map_cons, List.mem_cons, not_or]
      have hlater : d ∈ ids (late ++ us) := by
        rw [ids, List.map_append]
        exact List.mem_append_right _ hd
      exact ⟨fun heq => hnew (heq ▸ hlater), ih h⟩

variable {runner : Runner}

theorem Runner.cacheKey_eq (sha256 : String → String) {before after : List ExperimentUnit}
    (hunits : runner.units = before ++ u :: after) (journal : Journal) :
    runner.cacheKey sha256 journal u.unitId =
      unitKey sha256 runner.checkpointValues journal
        (keyAmong sha256 runner.checkpointValues journal before.reverse) u := by
  have hstacked := runner.stacked
  rw [hunits, List.reverse_append, List.reverse_cons, List.append_assoc, List.singleton_append]
    at hstacked
  rw [Runner.cacheKey, hunits, List.reverse_append, List.reverse_cons, List.append_assoc,
    List.singleton_append, keyAmong_append (hstacked.notMem_of_append List.mem_cons_self), keyAmong,
    if_pos rfl]

theorem Runner.before {before after : List ExperimentUnit}
    (hunits : runner.units = before ++ u :: after) :
    Stacked before.reverse ∧ u.unitId ∉ ids before ∧ (∀ d ∈ u.dependsOn, d ∈ ids before) ∧
      ∀ (sha256 : String → String) (journal : Journal) (d : String), d ∈ ids before →
        keyAmong sha256 runner.checkpointValues journal before.reverse d =
          runner.cacheKey sha256 journal d := by
  have hmem : ∀ d, d ∈ ids before.reverse ↔ d ∈ ids before := fun d => by
    rw [ids, List.map_reverse, List.mem_reverse]
    rfl
  have hstacked := runner.stacked
  rw [hunits, List.reverse_append, List.reverse_cons] at hstacked
  have hthere := hstacked
  rw [List.append_assoc, List.singleton_append] at hthere
  cases hthere.of_append with
  | cons h hnew hdeps =>
    refine ⟨h, fun hin => hnew ((hmem _).2 hin), fun d hd => (hmem d).1 (hdeps d hd), ?_⟩
    intro sha256 journal d hd
    rw [Runner.cacheKey, hunits, List.reverse_append, List.reverse_cons,
      keyAmong_append (hstacked.notMem_of_append ((hmem d).2 hd))]

/-! ### Equal keys -/

/-- Texts under names, as JSON. -/
def texts (fields : List (String × String)) : List (String × Json) :=
  fields.map fun f => (f.1, .str f.2)

variable {fields : List (String × String)}

theorem sound_texts (h : (fields.map Prod.fst).Nodup) : (Json.obj (texts fields)).sound = true := by
  have hkeys : (texts fields).map Prod.fst = fields.map Prod.fst := by
    rw [texts, List.map_map]
    rfl
  rw [Json.sound, hkeys, decide_eq_true h, Bool.true_and, soundFields_iff]
  intro f hf
  obtain ⟨g, -, rfl⟩ := List.mem_map.1 hf
  rfl

theorem sortFields_texts (fields : List (String × String)) :
    Json.sortFields (texts fields) = texts fields := by
  induction fields with
  | nil => rfl
  | cons f fields ih =>
    rw [texts, List.map_cons, Json.sortFields]
    exact congrArg _ ih

theorem mem_of_sortKeys_texts {others : List (String × String)}
    (h : (Json.obj (texts fields)).sortKeys = (Json.obj (texts others)).sortKeys)
    {f : String × String} (hf : f ∈ fields) : f ∈ others := by
  simp only [Json.sortKeys, sortFields_texts, Json.obj.injEq] at h
  have hperm := List.perm_insertionSort (fun a b : String × Json => a.1 ≤ b.1)
  have hmem : (f.1, Json.str f.2) ∈ texts others := by
    rw [← (hperm (texts others)).mem_iff, ← h, (hperm (texts fields)).mem_iff]
    exact List.mem_map.2 ⟨f, hf, rfl⟩
  obtain ⟨g, hg, heq⟩ := List.mem_map.1 hmem
  obtain ⟨hname, htext⟩ := Prod.mk.inj heq
  rw [← Prod.ext hname (Json.str.inj htext)]
  exact hg

theorem sortKeys_subject (cs as : List (String × String)) (inputDigest : String) :
    (subject cs as inputDigest).sortKeys = .obj [("checkpoints", (Json.obj (texts cs)).sortKeys),
      ("dependencies", (Json.obj (texts as)).sortKeys), ("input_digest", .str inputDigest)] := by
  have hfirst : ("checkpoints" : String) ≤ "dependencies" := by decide
  have hsecond : ("dependencies" : String) ≤ "input_digest" := by decide
  simp [subject, Json.sortKeys, Json.sortFields, List.insertionSort, hfirst, hsecond, texts]

theorem sound_subject {cs as : List (String × String)} {inputDigest : String}
    (hcs : (cs.map Prod.fst).Nodup) (has : (as.map Prod.fst).Nodup) :
    (subject cs as inputDigest).sound = true := by
  rw [subject, Json.sound, Bool.and_eq_true, soundFields_iff]
  refine ⟨by simp, fun f hf => ?_⟩
  simp only [List.mem_cons, List.not_mem_nil, or_false] at hf
  rcases hf with rfl | rfl | rfl
  · exact sound_texts hcs
  · exact sound_texts has
  · rfl

theorem sortKeys_of_digest (hsha : Function.Injective sha256) {j k : Json} (hj : j.sound = true)
    (hk : k.sound = true) (h : digest sha256 j = digest sha256 k) : j.sortKeys = k.sortKeys := by
  have hloads := congrArg Json.loads (hsha h)
  rw [Json.loads_dumps hj, Json.loads_dumps hk] at hloads
  exact Option.some.inj hloads

/-- **Equal keys have equal inputs.** -/
theorem subject_inj (hsha : Function.Injective sha256) {cs as cs' as' : List (String × String)}
    {inputDigest inputDigest' : String} (hcs : (cs.map Prod.fst).Nodup) (has : (as.map Prod.fst).Nodup)
    (hcs' : (cs'.map Prod.fst).Nodup) (has' : (as'.map Prod.fst).Nodup)
    (h : digest sha256 (subject cs as inputDigest) = digest sha256 (subject cs' as' inputDigest')) :
    (∀ c ∈ cs, c ∈ cs') ∧ (∀ a ∈ as, a ∈ as') ∧ inputDigest = inputDigest' := by
  have hsort := sortKeys_of_digest hsha (sound_subject hcs has) (sound_subject hcs' has') h
  rw [sortKeys_subject, sortKeys_subject] at hsort
  simp only [Json.obj.injEq, List.cons.injEq, Prod.mk.injEq, Json.str.injEq, true_and,
    and_true] at hsort
  obtain ⟨hc, ha, hd⟩ := hsort
  exact ⟨fun c => mem_of_sortKeys_texts hc, fun a => mem_of_sortKeys_texts ha, hd⟩

theorem dependency_inj (hsha : Function.Injective sha256) {key artifact key' artifact' : String}
    (h : digest sha256 (.obj [("semantic_key", .str key), ("artifact_digest", .str artifact)]) =
      digest sha256 (.obj [("semantic_key", .str key'), ("artifact_digest", .str artifact')])) :
    key = key' ∧ artifact = artifact' := by
  have hnodup : ∀ k a : String, ([("semantic_key", k), ("artifact_digest", a)].map Prod.fst).Nodup :=
    fun _ _ => by simp
  have hsort := sortKeys_of_digest hsha (sound_texts (hnodup key artifact))
    (sound_texts (hnodup key' artifact')) h
  have hkey := mem_of_sortKeys_texts hsort List.mem_cons_self
  have hartifact := mem_of_sortKeys_texts hsort (List.mem_cons_of_mem _ List.mem_cons_self)
  simp at hkey hartifact
  exact ⟨hkey, hartifact⟩

/-! ### One unit -/

/-- **All that a run does with one unit.** -/
inductive Visited (sha256 : String → String) (runner : Runner) (handlers : String → Option Handler)
    (selected : List String) (s : Loop) (u : ExperimentUnit) :
    Loop × Option Error → Prop
  | passed : Visited sha256 runner handlers selected s u (s, none)
  | skipped : Visited sha256 runner handlers selected s u (s.skip u.unitId, none)
  | raised (err : Error) : Visited sha256 runner handlers selected s u (s, some err)
  | reused (record : Record) (hkey : runner.cacheKey sha256 s.journal u.unitId = .ok record.cacheKey)
      (hread : s.journal u.unitId = some record) (hpass : record.status = .pass) :
      Visited sha256 runner handlers selected s u (s.reuse u.unitId record, none)
  | executed (key : String) (result : Loop × Option Error) (hselected : u.unitId ∈ selected)
      (hdependencies : u.dependsOn.any (· ∈ s.failed) = false)
      (hkey : runner.cacheKey sha256 s.journal u.unitId = .ok key) (hhandled : handlers u.unitId ≠ none)
      (hread : read s.journal u.unitId = .ok (s.journal u.unitId))
      (hguard : ∀ record, s.journal u.unitId = some record → record.cacheKey = key →
        record.status = .running ∨ record.status = .infraFailed)
      (hexecuted : Executed s u.unitId key result) : Visited sha256 runner handlers selected s u result

theorem Runner.visit_cases (sha256 : String → String) (runner : Runner)
    (handlers : String → Option Handler) (selected : List String) (s : Loop) (u : ExperimentUnit) :
    Visited sha256 runner handlers selected s u (runner.visit sha256 handlers selected s u) := by
  rw [Runner.visit]
  split
  · exact .passed
  rename_i hselected
  split
  · exact .skipped
  rename_i hdependencies
  split
  · split
    · exact .raised _
    · exact .skipped
    · exact .raised _
  · exact .raised _
  · rename_i key hkey
    split
    · exact .raised _
    · rename_i previous hread
      cases read_eq_ok hread
      have hexecute : (∀ record, s.journal u.unitId = some record → record.cacheKey = key →
          record.status = .running ∨ record.status = .infraFailed) →
          Visited sha256 runner handlers selected s u
            (runner.handle sha256 handlers u.unitId key (s.journal u.unitId) s) := by
        intro hguard
        rw [Runner.handle]
        split
        · exact .raised _
        · rename_i handler hhandler
          exact .executed key _ (not_not.1 hselected) (Bool.eq_false_of_not_eq_true hdependencies) hkey
            (hhandler ▸ nofun) hread hguard (runner.executed_execute sha256 _ _ _ _ _)
      split
      · rename_i hnone
        exact hexecute fun record hrecord => nomatch hnone.symm.trans hrecord
      · rename_i record hrecord
        have hunique : ∀ other, s.journal u.unitId = some other → other = record := fun other hother =>
          Option.some.inj (hother.symm.trans hrecord)
        split
        · rename_i hsame
          split
          · rename_i hpass
            exact .reused record (hsame ▸ hkey) hrecord hpass
          split
          · exact .raised _
          split
          · exact .raised _
          · rename_i hresumable
            simp only [RESUMABLE_STATUSES, List.mem_cons, List.not_mem_nil, or_false, not_not]
              at hresumable
            exact hexecute fun other hother _ => hunique other hother ▸ hresumable
        · rename_i hother
          exact hexecute fun other hread heq => absurd (hunique other hread ▸ heq) hother

/-! ### Histories of runs -/

/-- A call of `run` with a runner of its own. -/
structure Call where
  runner : Runner
  handlers : String → Option Handler
  unitIds : Option (List String)

def Call.run (sha256 : String → String) (call : Call) (journal : Journal) : Loop × Option Error :=
  call.runner.run sha256 call.handlers call.unitIds journal

/-- The journal after a number of calls, each of which may have raised something. -/
def journalAfter (sha256 : String → String) (calls : List Call) : Journal :=
  calls.foldl (fun journal call => (call.run sha256 journal).1.journal) fun _ => none

variable {handlers : String → Option Handler} {selected : List String}

theorem Runner.visitAll_induct {sha256 : String → String} {P : List ExperimentUnit → Loop → Prop}
    {before : List ExperimentUnit} {s : Loop} (hunits : runner.units = before ++ us)
    (hstart : P before s)
    (hvisit : ∀ before u after s, runner.units = before ++ u :: after → P before s →
      P (before ++ [u]) (runner.visit sha256 handlers selected s u).1) :
    ∃ done, P done (runner.visitAll sha256 handlers selected s us).1 ∧
      ((runner.visitAll sha256 handlers selected s us).2 = none → done = runner.units) := by
  induction us generalizing before s with
  | nil => exact ⟨before, hstart, fun _ => by rw [hunits, List.append_nil]⟩
  | cons u us ih =>
    have hnext := hvisit before u us s hunits hstart
    rw [Runner.visitAll]
    rcases hstep : runner.visit sha256 handlers selected s u with ⟨s', _ | err⟩
    · rw [hstep] at hnext
      exact ih (by rw [hunits, List.append_assoc, List.singleton_append]) hnext
    · rw [hstep] at hnext
      exact ⟨_, hnext, nofun⟩

variable {P : Journal → Prop}

theorem Call.run_induct {sha256 : String → String} {call : Call} {journal : Journal}
    (hstart : P journal) (hvisit : ∀ (selected : List String) (s : Loop) (u : ExperimentUnit)
      (result : Loop × Option Error),
      Visited sha256 call.runner call.handlers selected s u result → P s.journal → P result.1.journal) :
    P (call.run sha256 journal).1.journal := by
  rw [Call.run, Runner.run]
  split
  · obtain ⟨-, h, -⟩ := Runner.visitAll_induct (P := fun _ s => P s.journal)
      (s := Loop.start journal) (show call.runner.units = [] ++ _ from rfl) hstart fun _ u _ s _ h =>
        hvisit _ s u _ (call.runner.visit_cases sha256 call.handlers _ s u) h
    exact h
  · exact hstart

theorem journalAfter_induct (hempty : P fun _ => none)
    (hvisit : ∀ (runner : Runner) (handlers : String → Option Handler) (selected : List String)
      (s : Loop) (u : ExperimentUnit) (result : Loop × Option Error),
      Visited sha256 runner handlers selected s u result → P s.journal → P result.1.journal)
    (calls : List Call) : P (journalAfter sha256 calls) := by
  rw [journalAfter]
  induction calls using List.reverseRecOn with
  | nil => exact hempty
  | append_singleton calls call ih =>
    rw [List.foldl_append]
    exact Call.run_induct ih (hvisit call.runner call.handlers)

/-- Every record can be read and is that of its trial, and one that has ended has an artifact. -/
def WellKept (journal : Journal) : Prop :=
  ∀ trialId record, journal trialId = some record → read journal trialId = .ok (some record) ∧
    record.trialId = trialId ∧ (record.status ≠ .running → record.artifactDigest ≠ none)

theorem wellKept_write (h : WellKept journal) {record : Record}
    (hread : read journal trialId = .ok o) (hid : record.trialId = trialId)
    (hartifact : record.status ≠ .running → record.artifactDigest ≠ none) :
    WellKept (write journal trialId record) := by
  intro other found hfound
  by_cases hother : other = trialId
  · subst hother
    rw [write_self] at hfound
    cases hfound
    rw [read_of_read hread, write_self]
    exact ⟨rfl, hid, hartifact⟩
  · rw [write_of_ne hother] at hfound
    obtain ⟨hfoundread, hrest⟩ := h other found hfound
    rw [read_of_read hfoundread, write_of_ne hother, hfound]
    exact ⟨rfl, hrest⟩

theorem wellKept_visited {s : Loop} {result : Loop × Option Error}
    (hvisited : Visited sha256 runner handlers selected s u result) (h : WellKept s.journal) :
    WellKept result.1.journal := by
  cases hvisited with
  | passed | skipped | raised | reused => exact h
  | executed key result _ _ hkey _ hread hguard hexecuted =>
    cases hexecuted with
    | refused err => exact h
    | stopped record err hrecord =>
      exact wellKept_write h hread hrecord.trialId fun hne => absurd hrecord.status hne
    | ended record hrecord => exact wellKept_write h hread hrecord.trialId fun _ => hrecord.artifact

theorem wellKept_journalAfter (sha256 : String → String) (calls : List Call) :
    WellKept (journalAfter sha256 calls) :=
  journalAfter_induct nofun (fun _ _ _ _ _ _ => wellKept_visited) calls

end Experiments
