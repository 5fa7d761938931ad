/-
**Failed metrics.**

A unit that has failed its metric, or is blocked, must not be executed again before its inputs have
changed.  The runner looks at the latest record of the unit only.  A unit whose inputs are changed
and changed back in between is executed again under the key that it has failed under.

Main definitions:

* `Experiments.NoReroll` — no unit is executed under a key after it has failed under it;
* `Experiments.Returning` — a unit comes back to a key that it has failed under;
* `Experiments.Quiet` — in a history of runs no unit does.

Main results:

* `Experiments.noReroll_iff` — **no failed metric is rolled again exactly if no unit comes back to a
  key that it has failed under**.
-/

import FaultWitness.Experiments

set_option autoImplicit false

namespace Experiments

open Python

/-- The statuses after which nothing may be tried again. -/
def Status.isFailure : Status → Bool
  | .metricFail | .blocked => true
  | _ => false

/-- No unit is executed under a key after it has failed under this key. -/
def NoReroll (log : List Execution) : Prop :=
  ∀ unitId, (log.filter fun e => e.unitId = unitId).Pairwise fun early late =>
    early.status.isFailure = true → late.cacheKey ≠ early.cacheKey

/-! ### Visits -/

/-- The states of a run before each of its visits. -/
def Runner.visits (sha256 : String → String) (runner : Runner) (handlers : String → Option Handler)
    (selected : List String) : Loop → List ExperimentUnit → List (Loop × ExperimentUnit)
  | _, [] => []
  | s, u :: us => (s, u) ::
      match runner.visit sha256 handlers selected s u with
      | (s, none) => Runner.visits sha256 runner handlers selected s us
      | (_, some _) => []

/-- The names that a call selects. -/
def Call.selected (call : Call) : List String := call.unitIds.getD (ids call.runner.units)

def Call.visits (sha256 : String → String) (call : Call) (journal : Journal) :
    List (Loop × ExperimentUnit) :=
  if call.selected.all (· ∈ ids call.runner.units) then
    call.runner.visits sha256 call.handlers call.selected (Loop.start journal) call.runner.units
  else []

/-- A unit that is to be executed comes back from another key to one that it has failed under. -/
structure Returning (sha256 : String → String) (runner : Runner) (handlers : String → Option Handler)
    (selected : List String) (s : Loop) (u : ExperimentUnit) (key : String) (record : Record) : Prop where
  selected : u.unitId ∈ selected
  dependencies : u.dependsOn.any (· ∈ s.failed) = false
  keyed : runner.cacheKey sha256 s.journal u.unitId = .ok key
  handled : handlers u.unitId ≠ none
  recorded : read s.journal u.unitId = .ok (some record)
  other : record.cacheKey ≠ key
  failed : ∃ entry ∈ record.history, entry.cacheKey = key ∧ entry.status.isFailure = true

def Call.Returning (sha256 : String → String) (call : Call) (visit : Loop × ExperimentUnit) : Prop :=
  ∃ key record, Experiments.Returning sha256 call.runner call.handlers call.selected visit.1 visit.2 key
    record

/-- In a history of calls no unit comes back to a key that it has failed under. -/
def Quiet (sha256 : String → String) : Journal → List Call → Prop
  | _, [] => True
  | journal, call :: calls =>
    (∀ visit ∈ call.visits sha256 journal, ¬call.Returning sha256 visit) ∧
      Quiet sha256 (call.run sha256 journal).1.journal calls

/-- The executions of a history of calls. -/
def executions (sha256 : String → String) : Journal → List Call → List Execution
  | _, [] => []
  | journal, call :: calls =>
    (call.run sha256 journal).1.executions ++
      executions sha256 (call.run sha256 journal).1.journal calls

/-! ### The journal and the log -/

/-- The journal holds every execution of the log with its key and its status. -/
def Matches (log : List Execution) (journal : Journal) : Prop :=
  ∀ unitId, (trailOf journal unitId).map (fun e => (e.cacheKey, e.status)) =
    (log.filter fun e => e.unitId = unitId).map fun e => (e.cacheKey, e.status)

variable {sha256 : String → String} {runner : Runner} {handlers : String → Option Handler}
  {selected : List String} {s : Loop} {u : ExperimentUnit} {key : String} {record : Record}
  {log past : List Execution} {journal : Journal}

theorem trailOf_write_self (journal : Journal) (unitId : String) (record : Record) :
    trailOf (write journal unitId record) unitId = record.trail := by
  rw [trailOf, write_self]

theorem trailOf_write_of_ne {unitId other : String} (h : other ≠ unitId) (journal : Journal)
    (record : Record) : trailOf (write journal unitId record) other = trailOf journal other := by
  rw [trailOf, write_of_ne h]
  rfl

theorem Matches.write (h : Matches log journal) {unitId : String}
    (hkey : record.cacheKey = key) (hhistory : record.history = trailOf journal unitId) :
    Matches (log ++ [⟨unitId, key, record.status⟩]) (write journal unitId record) := by
  intro other
  by_cases hother : other = unitId
  · subst hother
    rw [trailOf_write_self, Record.trail, hhistory, List.map_append, h other, List.filter_append,
      List.map_append]
    simp [hkey]
  · rw [trailOf_write_of_ne hother, h other, List.filter_append]
    simp [Ne.symm hother]

/-- What is executed next breaks the rule exactly if the journal holds a failure under its key. -/
theorem noReroll_append (h : Matches log journal) (unitId : String) (status : Status) :
    NoReroll (log ++ [⟨unitId, key, status⟩]) ↔ NoReroll log ∧
      ∀ entry ∈ trailOf journal unitId, entry.status.isFailure = true → key ≠ entry.cacheKey := by
  have hmem : (∀ e ∈ log.filter (fun e => e.unitId = unitId), e.status.isFailure = true →
      key ≠ e.cacheKey) ↔
      ∀ entry ∈ trailOf journal unitId, entry.status.isFailure = true → key ≠ entry.cacheKey := by
    have hpairs := h unitId
    constructor
    · intro hall entry hentry
      have hin : (entry.cacheKey, entry.status) ∈
          (log.filter fun e => e.unitId = unitId).map fun e => (e.cacheKey, e.status) := by
        rw [← hpairs]
        exact List.mem_map.2 ⟨entry, hentry, rfl⟩
      obtain ⟨e, he, heq⟩ := List.mem_map.1 hin
      obtain ⟨hk, hs⟩ := Prod.mk.inj heq
      rw [← hk, ← hs]
      exact hall e he
    · intro hall e he
      have hin : (e.cacheKey, e.status) ∈
          (trailOf journal unitId).map fun e => (e.cacheKey, e.status) := by
        rw [hpairs]
        exact List.mem_map.2 ⟨e, he, rfl⟩
      obtain ⟨entry, hentry, heq⟩ := List.mem_map.1 hin
      obtain ⟨hk, hs⟩ := Prod.mk.inj heq
      rw [← hk, ← hs]
      exact hall entry hentry
  rw [← hmem]
  constructor
  · intro hall
    refine ⟨fun other => ?_, ?_⟩
    · have hother := hall other
      rw [List.filter_append] at hother
      exact (List.pairwise_append.1 hother).1
    · have hself := hall unitId
      rw [List.filter_append] at hself
      intro e he
      exact (List.pairwise_append.1 hself).2.2 e he ⟨unitId, key, status⟩ (by simp)
  · rintro ⟨hlog, hlast⟩ other
    rw [List.filter_append]
    refine List.pairwise_append.2 ⟨hlog other, ?_, ?_⟩
    · exact (List.pairwise_singleton _ _).sublist List.filter_sublist
    · intro e he e' he'
      obtain ⟨he', hid⟩ := List.mem_filter.1 he'
      cases List.mem_singleton.1 he'
      rw [decide_eq_true_eq] at hid
      subst hid
      exact hlast e he

/-! ### One visit -/

theorem Returning.visit (h : Returning sha256 runner handlers selected s u key record) :
    ∃ handler, runner.visit sha256 handlers selected s u =
      runner.execute sha256 handler u.unitId key (some record) s := by
  obtain ⟨handler, hhandler⟩ := Option.ne_none_iff_exists'.1 h.handled
  refine ⟨handler, ?_⟩
  rw [Runner.visit, if_neg (not_not.2 h.selected), if_neg (by simp [h.dependencies]), h.keyed]
  simp only [h.recorded, if_neg h.other, Runner.handle, hhandler]

theorem Runner.execute_of_read (runner : Runner) (sha256 : String → String) (handler : Handler)
    {unitId : String} (key : String)
    (h : read s.journal unitId = .ok (some record)) :
    ∃ status, (runner.execute sha256 handler unitId key (some record) s).1.executions =
      s.executions ++ [⟨unitId, key, status⟩] := by
  have hexecuted := runner.executed_execute sha256 handler unitId key (some record) s
  rw [Runner.execute] at hexecuted ⊢
  rw [begin, h] at hexecuted ⊢
  simp only [bind, Except.bind, pure, Except.pure] at hexecuted ⊢
  split
  · exact ⟨_, rfl⟩
  · exact ⟨_, rfl⟩

/-- While the rule holds, the trail of a unit has no entry under a key after a failure under it. -/
theorem Matches.pairwise (h : Matches log journal) (hrule : NoReroll log) (unitId : String) :
    (trailOf journal unitId).Pairwise fun early late =>
      early.status.isFailure = true → late.cacheKey ≠ early.cacheKey := by
  have hrule := hrule unitId
  have hpairs : ((log.filter fun e => e.unitId = unitId).map fun e => (e.cacheKey, e.status)).Pairwise
      fun early late => early.2.isFailure = true → late.1 ≠ early.1 := List.pairwise_map.2 hrule
  rw [← h unitId] at hpairs
  exact List.pairwise_map.1 hpairs

/-- A unit that is executed has failed under its key before exactly if it comes back. -/
theorem noFailure_iff (hmatches : Matches log s.journal) (hrule : NoReroll log)
    (hselected : u.unitId ∈ selected) (hdependencies : u.dependsOn.any (· ∈ s.failed) = false)
    (hkey : runner.cacheKey sha256 s.journal u.unitId = .ok key) (hhandled : handlers u.unitId ≠ none)
    (hread : read s.journal u.unitId = .ok (s.journal u.unitId))
    (hguard : ∀ record, s.journal u.unitId = some record → record.cacheKey = key →
      record.status = .running ∨ record.status = .infraFailed) :
    (∀ entry ∈ trailOf s.journal u.unitId, entry.status.isFailure = true → key ≠ entry.cacheKey) ↔
      ¬∃ key record, Returning sha256 runner handlers selected s u key record := by
  constructor
  · rintro hall ⟨key', record, h⟩
    have hsame : key' = key := Except.ok.inj (h.keyed.symm.trans hkey)
    subst hsame
    obtain ⟨entry, hentry, hentrykey, hfailed⟩ := h.failed
    have hrecord := read_eq_ok h.recorded
    refine hall entry ?_ hfailed hentrykey.symm
    rw [trailOf, ← hrecord]
    exact List.mem_append_left _ hentry
  · intro hnot entry hentry hfailed hsame
    rw [trailOf] at hentry
    rcases hrecord : s.journal u.unitId with _ | record
    · rw [hrecord] at hentry
      exact absurd hentry List.not_mem_nil
    rw [hrecord] at hentry
    rcases List.mem_append.1 hentry with hhistory | hlast
    · by_cases hcurrent : record.cacheKey = key
      · have hpairs := hmatches.pairwise hrule u.unitId
        rw [trailOf, hrecord] at hpairs
        exact (List.pairwise_append.1 hpairs).2.2 entry hhistory record.toEntry
          (List.mem_singleton_self _) hfailed (hcurrent.trans hsame)
      · exact hnot ⟨key, record, hselected, hdependencies, hkey, hhandled, hrecord ▸ hread, hcurrent,
          entry, hhistory, hsame.symm, hfailed⟩
    · cases List.mem_singleton.1 hlast
      rcases hguard record hrecord hsame.symm with hstatus | hstatus <;>
      · rw [hstatus] at hfailed
        cases hfailed

/-- **One visit.**  It keeps the rule exactly if the unit does not come back. -/
theorem noReroll_visit (sha256 : String → String) (runner : Runner) (handlers : String → Option Handler) (selected : List String)
    (s : Loop) (u : ExperimentUnit) (hmatches : Matches (past ++ s.executions) s.journal) :
    Matches (past ++ (runner.visit sha256 handlers selected s u).1.executions)
        (runner.visit sha256 handlers selected s u).1.journal ∧
      (NoReroll (past ++ (runner.visit sha256 handlers selected s u).1.executions) ↔
        NoReroll (past ++ s.executions) ∧
          ¬∃ key record, Returning sha256 runner handlers selected s u key record) := by
  have hreturning : (∃ key record, Returning sha256 runner handlers selected s u key record) →
      ∃ e, (runner.visit sha256 handlers selected s u).1.executions = s.executions ++ [e] := by
    rintro ⟨key, record, h⟩
    obtain ⟨handler, hvisit⟩ := h.visit
    obtain ⟨status, hstatus⟩ := runner.execute_of_read sha256 handler key h.recorded
    exact ⟨_, hvisit ▸ hstatus⟩
  have hcases := runner.visit_cases sha256 handlers selected s u
  generalize runner.visit sha256 handlers selected s u = result at hreturning hcases ⊢
  have hquiet : result.1.executions = s.executions →
      ¬∃ key record, Returning sha256 runner handlers selected s u key record := by
    intro hsame hex
    obtain ⟨e, he⟩ := hreturning hex
    rw [hsame] at he
    exact absurd (congrArg List.length he) (by simp)
  cases hcases with
  | passed | skipped | raised | reused =>
    exact ⟨hmatches, ⟨fun h => ⟨h, hquiet rfl⟩, And.left⟩⟩
  | executed key result hselected hdependencies hkey hhandled hread hguard hexecuted =>
    cases hexecuted with
    | refused err => exact ⟨hmatches, ⟨fun h => ⟨h, hquiet rfl⟩, And.left⟩⟩
    | stopped record err hrecord =>
      have hstatus := hrecord.status
      rw [← hstatus, ← List.append_assoc]
      refine ⟨hmatches.write hrecord.cacheKey hrecord.history, ?_⟩
      rw [noReroll_append hmatches]
      exact and_congr_right fun hrule =>
        noFailure_iff hmatches hrule hselected hdependencies hkey hhandled hread hguard
    | ended record hrecord =>
      rw [← List.append_assoc]
      refine ⟨hmatches.write hrecord.cacheKey hrecord.history, ?_⟩
      rw [noReroll_append hmatches]
      exact and_congr_right fun hrule =>
        noFailure_iff hmatches hrule hselected hdependencies hkey hhandled hread hguard

/-! ### Histories -/

/-- The visits of a run keep the rule exactly if no unit comes back. -/
theorem noReroll_visitAll (sha256 : String → String) (runner : Runner) (handlers : String → Option Handler)
    (selected : List String) (us : List ExperimentUnit) (s : Loop)
    (hmatches : Matches (past ++ s.executions) s.journal) :
    Matches (past ++ (runner.visitAll sha256 handlers selected s us).1.executions)
        (runner.visitAll sha256 handlers selected s us).1.journal ∧
      (NoReroll (past ++ (runner.visitAll sha256 handlers selected s us).1.executions) ↔
        NoReroll (past ++ s.executions) ∧ ∀ visit ∈ runner.visits sha256 handlers selected s us,
          ¬∃ key record, Returning sha256 runner handlers selected visit.1 visit.2 key record) := by
  induction us generalizing s with
  | nil => exact ⟨hmatches, ⟨fun h => ⟨h, fun _ hv => absurd hv List.not_mem_nil⟩, And.left⟩⟩
  | cons u us ih =>
    obtain ⟨hnext, hiff⟩ := noReroll_visit sha256 runner handlers selected s u hmatches
    rw [Runner.visitAll, Runner.visits]
    rcases hvisit : runner.visit sha256 handlers selected s u with ⟨s', _ | err⟩
    · rw [hvisit] at hnext hiff
      obtain ⟨hlast, hrest⟩ := ih s' hnext
      refine ⟨hlast, ?_⟩
      rw [hrest, hiff, and_assoc, List.forall_mem_cons]
    · rw [hvisit] at hnext hiff
      refine ⟨hnext, ?_⟩
      rw [hiff, List.forall_mem_singleton]

theorem Call.run_eq (call : Call) (journal : Journal) : call.run sha256 journal =
    if call.selected.all (· ∈ ids call.runner.units) then
      call.runner.visitAll sha256 call.handlers call.selected (Loop.start journal) call.runner.units
    else (Loop.start journal, some .governance) := rfl

theorem noReroll_call (sha256 : String → String) (call : Call) (hmatches : Matches past journal) :
    Matches (past ++ (call.run sha256 journal).1.executions) (call.run sha256 journal).1.journal ∧
      (NoReroll (past ++ (call.run sha256 journal).1.executions) ↔
        NoReroll past ∧ ∀ visit ∈ call.visits sha256 journal, ¬call.Returning sha256 visit) := by
  have hstart : Matches (past ++ (Loop.start journal).executions) (Loop.start journal).journal := by
    rw [Loop.start, List.append_nil]
    exact hmatches
  rw [Call.run_eq, Call.visits]
  by_cases hselected : call.selected.all (· ∈ ids call.runner.units) = true
  · have h := noReroll_visitAll sha256 call.runner call.handlers call.selected
      call.runner.units (Loop.start journal) hstart
    rw [if_pos hselected, if_pos hselected]
    rw [show past ++ (Loop.start journal).executions = past from List.append_nil past] at h
    exact h
  · rw [if_neg hselected, if_neg hselected]
    refine ⟨hstart, ?_⟩
    rw [Loop.start, List.append_nil]
    exact ⟨fun h => ⟨h, fun _ hv => absurd hv List.not_mem_nil⟩, And.left⟩

theorem noReroll_calls (sha256 : String → String) (calls : List Call) (hmatches : Matches past journal) :
    NoReroll (past ++ executions sha256 journal calls) ↔
      NoReroll past ∧ Quiet sha256 journal calls := by
  induction calls generalizing past journal with
  | nil =>
    rw [executions, List.append_nil]
    exact ⟨fun h => ⟨h, trivial⟩, And.left⟩
  | cons call calls ih =>
    obtain ⟨hnext, hcall⟩ := noReroll_call sha256 call hmatches
    rw [executions, ← List.append_assoc, ih hnext, hcall, Quiet, and_assoc]

/-- **No failed metric is rolled again exactly if no unit comes back to a key that it has failed
under.** -/
theorem noReroll_iff (sha256 : String → String) (calls : List Call) :
    NoReroll (executions sha256 (fun _ => none) calls) ↔ Quiet sha256 (fun _ => none) calls := by
  have hempty : Matches [] fun _ => none := fun _ => rfl
  have h := noReroll_calls sha256 calls hempty
  rw [List.nil_append] at h
  rw [h]
  exact ⟨And.right, fun hquiet => ⟨fun _ => List.Pairwise.nil, hquiet⟩⟩

/-! ### Away and back -/

/-- A call with one unit, the value of its checkpoint, and what its handler returns. -/
def sampleCall (value status : String) : Call where
  runner :=
    { units := [⟨"metric", ["sut"], [], "bootstrap-b2000", by decide, by decide, by decide, by decide⟩]
      checkpointValues := fun name => if name = "sut" then some value else none
      producerSha := "f"
      ordered := by decide }
  handlers _ := some fun _ => ⟨[], .returned [("status", .str status)]⟩
  unitIds := none

/-- The metric fails, is measured with another checkpoint, and then with the first one again. -/
theorem not_noReroll_awayAndBack :
    ¬∀ (sha256 : String → String), Function.Injective sha256 → ∀ calls : List Call,
      NoReroll (executions sha256 (fun _ => none) calls) := by
  intro h
  have hrule := h id Function.injective_id
    [sampleCall "v1" "metric_fail", sampleCall "v2" "pass", sampleCall "v1" "pass"] "metric"
  exact absurd hrule (by decide +kernel)

end Experiments
