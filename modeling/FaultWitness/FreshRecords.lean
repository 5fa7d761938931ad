/-
**No stale evidence.**

A run returns records, new ones and reused ones.  A returned pass is the record of its unit in the
journal, under the key that the unit has now, and so are the records of all units that it depends
on; whatever earlier runs have done to the journal, and whether or not they came to an end.

Main definitions:

* `Experiments.Runner.Needs` — a unit depends on another;
* `Experiments.FreshPass` — a pass that is fresh, with all that it depends on.

Main results:

* `Experiments.fresh_of_run` — **every pass that a run returns is fresh**.
-/

import FaultWitness.Experiments
import Mathlib.Logic.Relation

set_option autoImplicit false

namespace Experiments

open Python

/-- A unit names another among its dependencies. -/
def Runner.Needs (runner : Runner) (unitId dependencyId : String) : Prop :=
  ∃ u ∈ runner.units, u.unitId = unitId ∧ dependencyId ∈ u.dependsOn

/-- A record is that of its unit, under the key of the unit, and so are those it depends on. -/
structure FreshPass (sha256 : String → String) (runner : Runner) (journal : Journal)
    (record : Record) : Prop where
  recorded : journal record.trialId = some record
  key : runner.cacheKey sha256 journal record.trialId = .ok record.cacheKey
  dependencies : ∀ dependencyId, Relation.TransGen runner.Needs record.trialId dependencyId →
    ∃ dependency, journal dependencyId = some dependency ∧ dependency.status = .pass ∧
      runner.cacheKey sha256 journal dependencyId = .ok dependency.cacheKey

variable {sha256 : String → String} {runner : Runner} {handlers : String → Option Handler}
  {selected : List String} {journal journal' : Journal} {u : ExperimentUnit}
  {before after : List ExperimentUnit}

theorem Runner.cacheKey_congr (hunits : runner.units = before ++ u :: after)
    (hread : ∀ d ∈ ids before, journal d = journal' d) :
    runner.cacheKey sha256 journal u.unitId = runner.cacheKey sha256 journal' u.unitId := by
  obtain ⟨hstacked, -, hdeps, -⟩ := Runner.before hunits
  have hread' : ∀ d ∈ ids before.reverse, journal d = journal' d := fun d hd => by
    rw [ids, List.map_reverse, List.mem_reverse] at hd
    exact hread d hd
  rw [Runner.cacheKey_eq sha256 hunits, Runner.cacheKey_eq sha256 hunits]
  exact unitKey_congr (fun _ _ => rfl) (fun d hd => hread d (hdeps d hd)) fun d _ =>
    keyAmong_congr hstacked hread' d

theorem Runner.dependency_of_cacheKey {unitId key d : String} (hneeds : runner.Needs unitId d)
    (hkey : runner.cacheKey sha256 journal unitId = .ok key) :
    ∃ dependency, journal d = some dependency ∧ dependency.status = .pass ∧
      runner.cacheKey sha256 journal d = .ok dependency.cacheKey := by
  obtain ⟨u, hu, rfl, hd⟩ := hneeds
  obtain ⟨before, after, hunits⟩ := List.append_of_mem hu
  obtain ⟨-, -, hdeps, hkeys⟩ := Runner.before hunits
  rw [Runner.cacheKey_eq sha256 hunits] at hkey
  obtain ⟨artifacts, hartifacts, -⟩ := bind_eq_ok.1 hkey
  obtain ⟨artifact, hartifact⟩ := mem_of_mapM_eq_ok hartifacts hd
  obtain ⟨record, -, hread, hpass, hrecord, -⟩ := dependencyArtifact_eq_ok.1 hartifact
  rw [hkeys sha256 journal d (hdeps d hd)] at hrecord
  exact ⟨record, (read_eq_ok hread).symm, hpass, hrecord⟩

theorem freshPass_of_key {record : Record} (hrecorded : journal record.trialId = some record)
    (hkey : runner.cacheKey sha256 journal record.trialId = .ok record.cacheKey) :
    FreshPass sha256 runner journal record := by
  refine ⟨hrecorded, hkey, fun d hd => ?_⟩
  induction hd with
  | single hneeds => exact Runner.dependency_of_cacheKey hneeds hkey
  | tail _ hneeds ih =>
    obtain ⟨dependency, -, -, hdependency⟩ := ih
    exact Runner.dependency_of_cacheKey hneeds hdependency

/-- The passes of a loop are those of units it has visited, under their keys. -/
structure Fresh (sha256 : String → String) (runner : Runner) (done : List ExperimentUnit)
    (s : Loop) : Prop where
  kept : WellKept s.journal
  passes : ∀ record ∈ s.records, record.status = .pass → ∃ u ∈ done, record.trialId = u.unitId ∧
    s.journal u.unitId = some record ∧
    runner.cacheKey sha256 s.journal u.unitId = .ok record.cacheKey

theorem Runner.cacheKey_write (hunits : runner.units = before ++ u :: after) {w : ExperimentUnit}
    (hw : w ∈ before) (record : Record) :
    runner.cacheKey sha256 (write journal u.unitId record) w.unitId =
      runner.cacheKey sha256 journal w.unitId := by
  obtain ⟨-, hnew, -⟩ := Runner.before hunits
  obtain ⟨early, late, rfl⟩ := List.append_of_mem hw
  have hunits' : runner.units = early ++ w :: (late ++ u :: after) := by rw [hunits]; simp
  refine Runner.cacheKey_congr hunits' fun d hd => write_of_ne (fun heq => hnew ?_) _ _
  rw [← heq, ids, List.map_append]
  exact List.mem_append_left _ hd

theorem Runner.ne_of_mem_before (hunits : runner.units = before ++ u :: after) {w : ExperimentUnit}
    (hw : w ∈ before) : w.unitId ≠ u.unitId := fun heq =>
  (Runner.before hunits).2.1 (heq ▸ List.mem_map.2 ⟨w, hw, rfl⟩)

theorem Fresh.write {s : Loop} (h : Fresh sha256 runner before s)
    (hunits : runner.units = before ++ u :: after) (record : Record) :
    ∀ pass ∈ s.records, pass.status = .pass → ∃ w ∈ before, pass.trialId = w.unitId ∧
      write s.journal u.unitId record w.unitId = some pass ∧
      runner.cacheKey sha256 (Experiments.write s.journal u.unitId record) w.unitId =
        .ok pass.cacheKey := by
  intro pass hpass hstatus
  obtain ⟨w, hw, hid, hread, hkey⟩ := h.passes pass hpass hstatus
  refine ⟨w, hw, hid, ?_, ?_⟩
  · rw [write_of_ne (Runner.ne_of_mem_before hunits hw), hread]
  · rw [Runner.cacheKey_write hunits hw, hkey]

theorem Fresh.mono {s : Loop} (h : Fresh sha256 runner before s) :
    Fresh sha256 runner (before ++ [u]) s :=
  ⟨h.kept, fun record hrecord hstatus =>
    let ⟨w, hw, hrest⟩ := h.passes record hrecord hstatus
    ⟨w, List.mem_append_left _ hw, hrest⟩⟩

theorem Fresh.visited {s : Loop} {result : Loop × Option Error} (h : Fresh sha256 runner before s)
    (hunits : runner.units = before ++ u :: after) (hvisited : Visited sha256 runner handlers selected s u result) :
    Fresh sha256 runner (before ++ [u]) result.1 := by
  have hkept := wellKept_visited hvisited h.kept
  cases hvisited with
  | passed | skipped | raised => exact ⟨hkept, h.mono.passes⟩
  | reused record hkey hread hpass =>
    refine ⟨hkept, fun pass hmem hstatus => ?_⟩
    rcases List.mem_append.1 hmem with hmem | hmem
    · exact h.mono.passes pass hmem hstatus
    · cases List.mem_singleton.1 hmem
      exact ⟨u, List.mem_append_right _ (List.mem_singleton_self u), (h.kept _ _ hread).2.1, hread, hkey⟩
  | executed key result _ _ hkey _ _ hguard hexecuted =>
    have hold := fun record => h.write hunits record
    cases hexecuted with
    | refused err => exact h.mono
    | stopped record err hrecord =>
      refine ⟨hkept, fun pass hmem hstatus => ?_⟩
      obtain ⟨w, hw, hrest⟩ := hold record pass hmem hstatus
      exact ⟨w, List.mem_append_left _ hw, hrest⟩
    | ended record hrecord =>
      refine ⟨hkept, fun pass hmem hstatus => ?_⟩
      rcases List.mem_append.1 hmem with hmem | hmem
      · obtain ⟨w, hw, hrest⟩ := hold record pass hmem hstatus
        exact ⟨w, List.mem_append_left _ hw, hrest⟩
      · cases List.mem_singleton.1 hmem
        refine ⟨u, List.mem_append_right _ (List.mem_singleton_self u), hrecord.trialId,
          write_self .., ?_⟩
        rw [hrecord.cacheKey, ← hkey]
        obtain ⟨-, hnew, -⟩ := Runner.before hunits
        exact Runner.cacheKey_congr hunits fun d hd =>
          write_of_ne (fun heq : d = u.unitId => hnew (heq ▸ hd)) _ _

theorem Call.fresh (sha256 : String → String) (call : Call) (h : WellKept journal) :
    ∃ done, Fresh sha256 call.runner done (call.run sha256 journal).1 := by
  have hstart : Fresh sha256 call.runner [] (Loop.start journal) :=
    ⟨h, fun record hmem => absurd hmem List.not_mem_nil⟩
  rw [Call.run, Runner.run]
  split
  · obtain ⟨done, hfresh, -⟩ := Runner.visitAll_induct (show call.runner.units = [] ++ _ from rfl) hstart
      fun before u after s hunits h => h.visited hunits
        (call.runner.visit_cases sha256 call.handlers _ s u)
    exact ⟨done, hfresh⟩
  · exact ⟨[], hstart⟩

/-- **Every pass that a run returns is fresh.**  So are those that it had when it raised something. -/
theorem fresh_of_run (sha256 : String → String) (calls : List Call) (call : Call) :
    ∀ record ∈ (call.run sha256 (journalAfter sha256 calls)).1.records, record.status = .pass →
      FreshPass sha256 call.runner (call.run sha256 (journalAfter sha256 calls)).1.journal record := by
  obtain ⟨done, hfresh⟩ := call.fresh sha256 (wellKept_journalAfter sha256 calls)
  intro record hmem hstatus
  obtain ⟨u, -, hid, hread, hkey⟩ := hfresh.passes record hmem hstatus
  rw [← hid] at hread hkey
  exact freshPass_of_key hread hkey

theorem metric_named : "metric" ≠ "" := by decide

/-- A report that needs a metric; both pass. -/
def reportCall : Call where
  runner :=
    { units := [⟨"metric", ["sut"], [], "m1", metric_named, List.nodup_singleton "sut", List.nodup_nil,
          by decide⟩,
        ⟨"report", ["writer_surfaces"], ["metric"], "r1", by decide,
          List.nodup_singleton "writer_surfaces", List.nodup_singleton "metric", by decide⟩]
      checkpointValues := fun _ => some "v1"
      producerSha := "f"
      ordered := by decide }
  handlers _ := some fun _ => ⟨[], .returned []⟩
  unitIds := none

theorem fresh_of_run_report : ∃ record ∈ (reportCall.run id (journalAfter id [])).1.records,
    record.trialId = "report" ∧
      FreshPass id reportCall.runner (reportCall.run id (journalAfter id [])).1.journal record := by
  have hreport : ((reportCall.run id (journalAfter id [])).1.records.any fun record =>
      record.trialId = "report" ∧ record.status = .pass) = true := by
    decide +kernel
  obtain ⟨record, hmem, hrecord⟩ := List.any_eq_true.1 hreport
  obtain ⟨hid, hstatus⟩ := of_decide_eq_true hrecord
  exact ⟨record, hmem, hid, fresh_of_run id [] reportCall record hmem hstatus⟩

end Experiments
