/-
**The record of a trial over its calls.**

`TrialJournal` of `faultwitness_dev/experiment.py` keeps one record for a trial, which `begin`,
`checkpoint` and `finish` replace: each builds the next record from the last one and writes it to a
temporary file, which then takes the place of the old one.  Whatever goes wrong on the way ends the call
with an exception.

Here a trial starts without a record, and the calls follow each other in any order, each with a disk that
may fail at any point of the write.

Main definitions:

* `Experiments.writeRecord` — a write, as far as the disk lets it go;
* `Experiments.perform`, `Experiments.after` — one call, and all calls of a run;
* `Experiments.attemptsBefore` — the attempts that were followed by another one, as they last stood;
* `Experiments.SinceEntry` — an observation that was recorded since the trial last entered its key.

Main results:

* `Experiments.perform_cases` — all that a call does to the record;
* `Experiments.kept` — **what holds of the record after any calls**.
-/

import FaultWitness.Experiments

set_option autoImplicit false

namespace Experiments

open Python FlagDocuments

/-! ### Writes -/

/-- The steps of a write that can raise an exception. -/
inductive WriteStep
  /-- Making the directory. -/
  | mkdir
  /-- Printing the record. -/
  | dumps
  /-- Writing the text to the temporary file, of which a part may be there already. -/
  | writeText
  /-- Putting the temporary file in the place of the record. -/
  | replace
deriving DecidableEq

/-- How a write goes: the step that raises, if one does, and whether the temporary file can be removed
afterwards. -/
structure Disk where
  raises : Option WriteStep := none
  unlinks : Bool := true

/-- The files of a trial: its record, and whether a temporary file is left over. -/
structure TrialFiles where
  stored : Option Record := none
  leftover : Bool := false

/-- The function `_write`.  Removing a temporary file that is not there raises nothing. -/
def writeRecord (disk : Disk) (record : Record) (files : TrialFiles) : Except Error Record × TrialFiles :=
  match disk.raises with
  | some .mkdir => (.error .stopped, files)
  | some .dumps => (.error .stopped, { files with leftover := files.leftover && !disk.unlinks })
  | some .writeText | some .replace => (.error .stopped, { files with leftover := !disk.unlinks })
  | none => (.ok record, ⟨some record, false⟩)

/-! ### Calls -/

/-- A call of the journal for a trial; the status may be any text. -/
inductive TrialCall
  | begin (producerSha cacheKey : String) (payload : List (String × Json))
  | checkpoint (c : Checkpoint)
  | finish (status : String) (payload : List (String × Json))

def statuses : List Status := [.running, .pass, .metricFail, .infraFailed, .blocked]

variable (sha256 : String → String) (trialId : String)

/-- The record that a call builds from what is stored. -/
def TrialCall.result (call : TrialCall) (stored : Option Record) : Except Error (Record × Journal) :=
  match call with
  | .begin producerSha cacheKey payload =>
    Experiments.begin (fun _ => stored) trialId producerSha cacheKey payload
  | .checkpoint c => Experiments.checkpoint (fun _ => stored) trialId c
  | .finish text payload =>
    match statuses.find? fun s => s.value = text with
    | none => .error .governance
    | some status => Experiments.finish sha256 (fun _ => stored) trialId status payload

/-- A call with what it leaves on the disk. -/
def perform (call : TrialCall) (disk : Disk) (files : TrialFiles) : Except Error Record × TrialFiles :=
  match call.result sha256 trialId files.stored with
  | .error err => (.error err, files)
  | .ok (record, _) => writeRecord disk record files

/-- The files after some calls, of which the last one comes first. -/
def after : List (TrialCall × Disk) → TrialFiles
  | [] => {}
  | step :: earlier => (perform sha256 trialId step.1 step.2 (after earlier)).2

/-! ### What is said of the record -/

/-- A step that begins an attempt. -/
def begins (step : TrialCall × Disk) (files : TrialFiles) : Bool :=
  match step.1, (perform sha256 trialId step.1 step.2 files).1 with
  | .begin _ _ _, .ok _ => true
  | _, _ => false

/-- The attempts that were followed by another one, each as it stood when that one began. -/
def attemptsBefore : List (TrialCall × Disk) → List Entry
  | [] => []
  | step :: earlier =>
    attemptsBefore earlier ++
      if begins sha256 trialId step (after sha256 trialId earlier) then
        ((after sha256 trialId earlier).stored.map Record.toEntry).toList
      else []

/-- The key under which a trial runs. -/
def TrialFiles.key (files : TrialFiles) : Option String := files.stored.map fun record => record.cacheKey

/-- One of the calls has recorded the observation, and from then on the key has been the same. -/
def SinceEntry (steps : List (TrialCall × Disk)) (name : String) (observation : Json) : Prop :=
  ∃ later earlier payload disk, steps = later ++ (.checkpoint ⟨name, observation, payload⟩, disk) :: earlier ∧
    (∃ record, (perform sha256 trialId (.checkpoint ⟨name, observation, payload⟩) disk
      (after sha256 trialId earlier)).1 = .ok record) ∧
    ∀ between, (∃ last, later = last ++ between) →
      (after sha256 trialId (between ++ (.checkpoint ⟨name, observation, payload⟩, disk) :: earlier)).key =
        (after sha256 trialId steps).key

/-- What is said of a record after some calls. -/
structure Kept (steps : List (TrialCall × Disk)) (record : Record) : Prop where
  length : record.history.length + 1 = record.executionAttempt
  history : record.history = attemptsBefore sha256 trialId steps
  terminal : record.artifactDigest.isSome ↔ record.status ∈ TERMINAL_STATUSES
  digest : ∀ value, record.artifactDigest = some value → value = digest sha256 (.obj record.payload)
  checkpoints : ∀ name observation, (name, observation) ∈ record.runtimeCheckpoints →
    SinceEntry sha256 trialId steps name observation

/-- The version of what is stored; there is none before the first record. -/
def TrialFiles.version (files : TrialFiles) : ℕ :=
  match files.stored with
  | none => 0
  | some record => record.recordVersion

/-! ### What a call does -/

/-- The records that calls build. -/
inductive Built (stored : Option Record) : TrialCall → Record → Prop
  | begin (producerSha cacheKey : String) (payload : List (String × Json)) :
      Built stored (.begin producerSha cacheKey payload)
        (running stored trialId producerSha cacheKey payload)
  | checkpoint {previous : Record} (hstored : stored = some previous)
      (hrunning : previous.status = .running) (c : Checkpoint) :
      Built stored (.checkpoint c)
        { previous with
          recordVersion := previous.recordVersion + 1
          runtimeCheckpoints := assign previous.runtimeCheckpoints c.name c.observation
          payload := c.payload.getD previous.payload }
  | finish {previous : Record} (hstored : stored = some previous)
      (hrunning : previous.status = .running) {status : Status} (hterminal : status ∈ TERMINAL_STATUSES)
      (payload : List (String × Json)) :
      Built stored (.finish status.value payload)
        { previous with
          status
          recordVersion := previous.recordVersion + 1
          payload
          artifactDigest := some (Experiments.digest sha256 (.obj payload)) }

variable {sha256 trialId}

variable {record : Record} {call : TrialCall} {steps : List (TrialCall × Disk)}
  {stored : Option Record} {step : TrialCall × Disk} {files : TrialFiles}

theorem built_of_result {journal : Journal}
    (h : call.result sha256 trialId stored = .ok (record, journal)) :
    Built sha256 trialId stored call record := by
  cases call with
  | begin producerSha cacheKey payload =>
    obtain ⟨previous, hread, h⟩ := bind_eq_ok.1 h
    cases h
    rw [read_eq_ok hread]
    exact .begin producerSha cacheKey payload
  | checkpoint c =>
    simp only [TrialCall.result, Experiments.checkpoint] at h
    split at h
    · cases h
    split at h
    · cases h
    · cases h
    · rename_i previous hread
      split at h
      · rename_i hrunning
        cases h
        exact .checkpoint (read_eq_ok hread).symm hrunning c
      · cases h
  | finish text payload =>
    simp only [TrialCall.result] at h
    split at h
    · cases h
    rename_i status hstatus
    obtain rfl : status.value = text := by simpa using List.find?_some hstatus
    simp only [Experiments.finish] at h
    split at h
    swap
    · cases h
    rename_i hterminal
    split at h
    · cases h
    · cases h
    · rename_i previous hread
      split at h
      · rename_i hrunning
        cases h
        exact .finish (read_eq_ok hread).symm hrunning hterminal payload
      · cases h

/-- **All that a call does**: it stores the record that it builds, or raises and leaves the record. -/
theorem perform_cases (call : TrialCall) (disk : Disk) (files : TrialFiles) :
    (∃ record files', perform sha256 trialId call disk files = (.ok record, files') ∧
      files'.stored = some record ∧ Built sha256 trialId files.stored call record) ∨
    ∃ err files', perform sha256 trialId call disk files = (.error err, files') ∧
      files'.stored = files.stored := by
  unfold perform
  cases hresult : call.result sha256 trialId files.stored with
  | error err => exact .inr ⟨err, files, rfl, rfl⟩
  | ok built =>
    obtain ⟨record, journal⟩ := built
    unfold writeRecord
    cases hraises : disk.raises with
    | none => exact .inl ⟨record, _, rfl, rfl, built_of_result hresult⟩
    | some step => cases step <;> exact .inr ⟨_, _, rfl, rfl⟩

/-! ### Runs -/

theorem mem_assign {fields : Document} {key name : String} {value observation : Json}
    (h : (name, observation) ∈ assign fields key value) :
    (name = key ∧ observation = value) ∨ (name, observation) ∈ fields := by
  induction fields with
  | nil =>
    obtain ⟨rfl, rfl⟩ := Prod.mk.inj (List.mem_singleton.1 h)
    exact .inl ⟨rfl, rfl⟩
  | cons f fields ih =>
    obtain ⟨k, v⟩ := f
    rw [assign] at h
    split at h
    · rename_i hkey
      rcases List.mem_cons.1 h with h | h
      · obtain ⟨rfl, rfl⟩ := Prod.mk.inj h
        exact .inl ⟨hkey, rfl⟩
      · exact .inr (List.mem_cons_of_mem _ h)
    · rcases List.mem_cons.1 h with h | h
      · exact .inr (h ▸ List.mem_cons_self)
      · rcases ih h with h | h
        · exact .inl h
        · exact .inr (List.mem_cons_of_mem _ h)

/-- A step that leaves the key keeps what has been recorded since the trial entered it. -/
theorem SinceEntry.cons {name : String} {observation : Json}
    (h : SinceEntry sha256 trialId steps name observation)
    (hkey : (after sha256 trialId (step :: steps)).key = (after sha256 trialId steps).key) :
    SinceEntry sha256 trialId (step :: steps) name observation := by
  obtain ⟨later, earlier, payload, disk, rfl, hrecorded, hbetween⟩ := h
  refine ⟨step :: later, earlier, payload, disk, rfl, hrecorded, ?_⟩
  rintro between ⟨last, hlast⟩
  cases last with
  | nil =>
    rw [List.nil_append] at hlast
    rw [← hlast]
    rfl
  | cons first last =>
    rw [List.cons_append] at hlast
    rw [hkey]
    exact hbetween between ⟨last, (List.cons.inj hlast).2⟩

theorem attemptsBefore_cons (h : begins sha256 trialId step (after sha256 trialId steps) = false) :
    attemptsBefore sha256 trialId (step :: steps) = attemptsBefore sha256 trialId steps := by
  rw [attemptsBefore, h, if_neg Bool.false_ne_true, List.append_nil]

theorem attemptsBefore_of_none (h : (after sha256 trialId steps).stored = none) :
    attemptsBefore sha256 trialId steps = [] := by
  induction steps with
  | nil => rfl
  | cons step steps ih =>
    obtain ⟨call, disk⟩ := step
    rw [after] at h
    rcases perform_cases call disk (after sha256 trialId steps) with
      ⟨built, files, hperform, hfiles, -⟩ | ⟨err, files, hperform, hfiles⟩
    · rw [hperform, hfiles] at h
      cases h
    · rw [hperform, hfiles] at h
      have hbegins : begins sha256 trialId (call, disk) (after sha256 trialId steps) = false := by
        unfold begins
        rw [hperform]
        cases call <;> rfl
      rw [attemptsBefore_cons hbegins, ih h]

theorem Kept.raised (h : Kept sha256 trialId steps record) {disk : Disk} {err : Error}
    (hraised : perform sha256 trialId call disk (after sha256 trialId steps) = (.error err, files))
    (hfiles : files.stored = (after sha256 trialId steps).stored) :
    Kept sha256 trialId ((call, disk) :: steps) record := by
  have hafter : (after sha256 trialId ((call, disk) :: steps)).stored =
      (after sha256 trialId steps).stored := by
    rw [after, hraised]
    exact hfiles
  have hbegins : begins sha256 trialId (call, disk) (after sha256 trialId steps) = false := by
    unfold begins
    rw [hraised]
    cases call <;> rfl
  refine ⟨h.length, ?_, h.terminal, h.digest, fun name observation hmem => ?_⟩
  · rw [attemptsBefore_cons hbegins, h.history]
  · refine (h.checkpoints name observation hmem).cons ?_
    rw [TrialFiles.key, TrialFiles.key, hafter]

theorem running_not_terminal : Status.running ∉ TERMINAL_STATUSES := by decide

theorem kept_begin (ih : ∀ {previous}, (after sha256 trialId steps).stored = some previous →
      Kept sha256 trialId steps previous) {producerSha cacheKey : String}
    {payload : List (String × Json)} {disk : Disk}
    (hperform : perform sha256 trialId (.begin producerSha cacheKey payload) disk
        (after sha256 trialId steps) =
      (.ok (running (after sha256 trialId steps).stored trialId producerSha cacheKey payload), files))
    (hfiles : files.stored =
      some (running (after sha256 trialId steps).stored trialId producerSha cacheKey payload)) :
    Kept sha256 trialId ((.begin producerSha cacheKey payload, disk) :: steps)
      (running (after sha256 trialId steps).stored trialId producerSha cacheKey payload) := by
  have hbegins : begins sha256 trialId (.begin producerSha cacheKey payload, disk)
      (after sha256 trialId steps) = true := by
    unfold begins
    rw [hperform]
  have hkey : (after sha256 trialId ((.begin producerSha cacheKey payload, disk) :: steps)).key =
      some cacheKey := by
    rw [after, hperform, TrialFiles.key, hfiles]
    rfl
  have hattempts : attemptsBefore sha256 trialId ((.begin producerSha cacheKey payload, disk) :: steps) =
      attemptsBefore sha256 trialId steps ++
        ((after sha256 trialId steps).stored.map Record.toEntry).toList := by
    rw [attemptsBefore, hbegins, if_pos rfl]
  rw [TrialFiles.key] at hkey
  cases hstored : (after sha256 trialId steps).stored with
  | none =>
    rw [hstored, attemptsBefore_of_none hstored] at hattempts
    exact ⟨rfl, hattempts.symm, iff_of_false Bool.false_ne_true running_not_terminal, nofun, nofun⟩
  | some previous =>
    have hprevious := ih hstored
    rw [hstored] at hattempts
    refine ⟨?_, ?_, iff_of_false Bool.false_ne_true running_not_terminal, nofun, ?_⟩
    · change (previous.history ++ [previous.toEntry]).length + 1 = previous.executionAttempt + 1
      rw [List.length_append, List.length_singleton, hprevious.length]
    · rw [hattempts, ← hprevious.history]
      rfl
    · intro name observation hmem
      change (name, observation) ∈
        (if previous.cacheKey = cacheKey then previous.runtimeCheckpoints else []) at hmem
      split at hmem
      · rename_i hsame
        refine (hprevious.checkpoints name observation hmem).cons ?_
        rw [TrialFiles.key, TrialFiles.key, hkey, hstored, ← hsame]
        rfl
      · cases hmem

/-- **What holds of the record after any calls.** -/
theorem kept (sha256 : String → String) (trialId : String) (steps : List (TrialCall × Disk))
    (h : (after sha256 trialId steps).stored = some record) : Kept sha256 trialId steps record := by
  induction steps generalizing record with
  | nil => cases h
  | cons step steps ih =>
    obtain ⟨call, disk⟩ := step
    rw [after] at h
    rcases perform_cases call disk (after sha256 trialId steps) with
      ⟨built, files, hperform, hfiles, hbuilt⟩ | ⟨err, files, hperform, hfiles⟩
    swap
    · rw [hperform, hfiles] at h
      exact (ih h).raised hperform hfiles
    rw [hperform, hfiles] at h
    cases h
    have hafter : (after sha256 trialId ((call, disk) :: steps)).stored = some record := by
      rw [after, hperform]
      exact hfiles
    cases hbuilt with
    | begin producerSha cacheKey payload => exact kept_begin ih hperform hfiles
    | @checkpoint previous hstored hrunning c =>
      have hprevious := ih hstored
      have hkey : (after sha256 trialId ((.checkpoint c, disk) :: steps)).key =
          (after sha256 trialId steps).key := by
        rw [TrialFiles.key, TrialFiles.key, hafter, hstored]
        rfl
      have hdigest : previous.artifactDigest = none := by
        rw [← Option.not_isSome_iff_eq_none, hprevious.terminal, hrunning]
        decide
      refine ⟨hprevious.length, ?_, hprevious.terminal, ?_, fun name observation hmem => ?_⟩
      · rw [attemptsBefore_cons (by unfold begins; rfl), ← hprevious.history]
      · rintro value hvalue
        rw [hdigest] at hvalue
        cases hvalue
      · rcases mem_assign hmem with ⟨rfl, rfl⟩ | hmem
        · refine ⟨[], steps, c.payload, disk, rfl, ⟨_, congrArg Prod.fst hperform⟩, ?_⟩
          rintro between ⟨last, hlast⟩
          obtain ⟨-, rfl⟩ := List.append_eq_nil_iff.1 hlast.symm
          rfl
        · exact (hprevious.checkpoints name observation hmem).cons hkey
    | @finish previous hstored hrunning status hterminal payload =>
      have hprevious := ih hstored
      have hkey : (after sha256 trialId ((.finish status.value payload, disk) :: steps)).key =
          (after sha256 trialId steps).key := by
        rw [TrialFiles.key, TrialFiles.key, hafter, hstored]
        rfl
      refine ⟨hprevious.length, ?_, iff_of_true rfl hterminal, ?_, fun name observation hmem => ?_⟩
      · rw [attemptsBefore_cons (by unfold begins; rfl), ← hprevious.history]
      · rintro value ⟨⟩
        rfl
      · exact (hprevious.checkpoints name observation hmem).cons hkey

theorem Built.version (h : Built sha256 trialId stored call record) (leftover : Bool) :
    record.recordVersion = TrialFiles.version ⟨stored, leftover⟩ + 1 := by
  cases h with
  | begin producerSha cacheKey payload => cases stored <;> rfl
  | checkpoint hstored hrunning c =>
    subst hstored
    rfl
  | finish hstored hrunning hterminal payload =>
    subst hstored
    rfl

/-- **The record over any calls of the journal**: what is said of it holds, a call that succeeds adds one
to its version, and a call that raises leaves it as it is. -/
theorem journal_kept (sha256 : String → String) (trialId : String) (steps : List (TrialCall × Disk)) :
    (∀ record, (after sha256 trialId steps).stored = some record → Kept sha256 trialId steps record) ∧
      ∀ call disk, match perform sha256 trialId call disk (after sha256 trialId steps) with
        | (.ok record, files) => files.stored = some record ∧
            record.recordVersion = (after sha256 trialId steps).version + 1
        | (.error _, files) => files.stored = (after sha256 trialId steps).stored := by
  refine ⟨fun record h => kept sha256 trialId steps h, fun call disk => ?_⟩
  rcases perform_cases call disk (after sha256 trialId steps) with
    ⟨record, files, hperform, hfiles, hbuilt⟩ | ⟨err, files, hperform, hfiles⟩
  · rw [hperform]
    exact ⟨hfiles, hbuilt.version (after sha256 trialId steps).leftover⟩
  · rw [hperform]
    exact hfiles

/-- A trial that is begun, checkpointed, interrupted while it is written, begun again, and finished. -/
def sampleSteps : List (TrialCall × Disk) :=
  [(.finish "pass" [("score", .int 7)], {}), (.begin "b" "k" [], {}),
    (.finish "pass" [], { raises := some .replace }), (.checkpoint ⟨"c", .int 1, none⟩, {}),
    (.begin "a" "k" [], {})]

/-- Its record. -/
def sampleRecord : Record where
  trialId := "t"
  status := .pass
  executionAttempt := 2
  recordVersion := 4
  producerSha := "b"
  cacheKey := "k"
  runtimeCheckpoints := [("c", .int 1)]
  payload := [("score", .int 7)]
  artifactDigest := some (digest id (.obj [("score", .int 7)]))
  history := [{ trialId := "t", status := .running, executionAttempt := 1, recordVersion := 2,
                producerSha := "a", cacheKey := "k", runtimeCheckpoints := [("c", .int 1)],
                payload := [], artifactDigest := none }]

/-- A run with a failed write, a second attempt and its end. -/
theorem journal_kept_sample : Kept id "t" sampleSteps sampleRecord :=
  (journal_kept id "t" sampleSteps).1 sampleRecord rfl

end Experiments
