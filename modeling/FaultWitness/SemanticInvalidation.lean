/-
**Exact semantic invalidation.**

After a run in which all units have passed, the values of some checkpoints are changed and the units
are run again.  What is executed then is what `affected_units` names: the units that require a changed
checkpoint and all that depend on them, in however many steps.  All others are reused with the records
that they have.

A unit is executed again because its key has changed.  Its key covers the keys of its dependencies
as well as their artifacts, so it changes even where a dependency has made the same artifact again.

Main definitions:

* `Experiments.AllPassed` — a run has returned a pass for each unit;
* `Experiments.Handler.Passes` — a handler ends with a pass.

Main results:

* `Experiments.mem_affected_iff` — what affects a unit;
* `Experiments.exact_invalidation` — **what is executed is what is affected**.
-/

import FaultWitness.FreshRecords

set_option autoImplicit false

namespace Experiments

open Python

/-! ### What is affected -/

/-- The units that a change of checkpoints affects. -/
def affected (units : List ExperimentUnit) (changed : List String) : Finset String :=
  affectedUnits (units.map fun u => (u.unitId, u.requiredCheckpoints)) changed
    (units.map fun u => (u.unitId, u.dependsOn))

variable {sha256 : String → String} {runner : Runner} {journal journal' : Journal}
  {u : ExperimentUnit} {before after : List ExperimentUnit} {changed : List String}
  {w : ExperimentUnit}

theorem Runner.unique (hunits : runner.units = before ++ u :: after) (hw : w ∈ runner.units)
    (hid : w.unitId = u.unitId) : w = u := by
  obtain ⟨-, hnew, -⟩ := Runner.before hunits
  rw [hunits] at hw
  rcases List.mem_append.1 hw with hw | hw
  · exact absurd (hid ▸ List.mem_map.2 ⟨w, hw, rfl⟩) hnew
  rcases List.mem_cons.1 hw with hw | hw
  · exact hw
  · obtain ⟨early, late, rfl⟩ := List.append_of_mem hw
    have hunits' : runner.units = (before ++ u :: early) ++ w :: late := by rw [hunits]; simp
    obtain ⟨-, hlater, -⟩ := Runner.before hunits'
    rw [hid] at hlater
    exact absurd (by simp [ids]) hlater

/-- **A unit is affected** if it requires a changed checkpoint or depends on an affected unit. -/
theorem mem_affected_iff (hunits : runner.units = before ++ u :: after) :
    u.unitId ∈ affected runner.units changed ↔
      (∃ name ∈ u.requiredCheckpoints, name ∈ changed) ∨
        ∃ d ∈ u.dependsOn, d ∈ affected runner.units changed := by
  have hu : u ∈ runner.units := by rw [hunits]; simp
  simp only [affected, affectedUnits, Closures.mem_closure]
  constructor
  · intro h
    generalize hid : u.unitId = unitId at h
    cases h with
    | start h =>
      simp only [List.mem_toFinset, List.mem_map, List.mem_filter, List.any_eq_true,
        decide_eq_true_eq] at h
      obtain ⟨e, ⟨⟨w, hw, rfl⟩, name, hname, hchanged⟩, hwid⟩ := h
      cases Runner.unique hunits hw (hwid.trans hid.symm)
      exact .inl ⟨name, hname, hchanged⟩
    | step he hd h =>
      obtain ⟨w, hw, rfl⟩ := List.mem_map.1 he
      cases Runner.unique hunits hw hid.symm
      exact .inr ⟨_, hd, h⟩
  · rintro (⟨name, hname, hchanged⟩ | ⟨d, hd, h⟩)
    · refine .start ?_
      simp only [List.mem_toFinset, List.mem_map, List.mem_filter, List.any_eq_true,
        decide_eq_true_eq]
      exact ⟨_, ⟨⟨u, hu, rfl⟩, name, hname, hchanged⟩, rfl⟩
    · exact .step (List.mem_map.2 ⟨u, hu, rfl⟩) hd h

/-! ### Handlers that pass -/

/-- A handler that returns a payload with the status of a pass, whatever record it is given. -/
def Handler.Passes (handler : Handler) : Prop :=
  ∀ record, ∃ fields payload, (handler record).outcome = .returned fields ∧
    returnedStatus fields = some .pass ∧ returnedPayload fields = some payload

variable {record : Record}

theorem finish_of_running (sha256 : String → String) {unitId key : String} {history : List Entry}
    {o : Option Record} (hread : read journal unitId = .ok o)
    (hrecord : Running unitId key history record) (payload : List (String × Json)) :
    ∃ ended, finish sha256 (write journal unitId record) unitId .pass payload =
      .ok (ended, write journal unitId ended) ∧ Ended unitId key history ended ∧
        ended.status = .pass := by
  have hfinish : ∃ ended journal', finish sha256 (write journal unitId record) unitId .pass payload =
      .ok (ended, journal') := by
    rw [finish, if_pos (by decide), read_of_read hread, write_self]
    simp only [if_pos hrecord.status]
    exact ⟨_, _, rfl⟩
  obtain ⟨ended, journal', hfinish⟩ := hfinish
  obtain ⟨rfl, hended, hstatus⟩ := finish_eq_ok hrecord hfinish
  exact ⟨ended, hfinish, hended, hstatus⟩

/-- **Executing a unit with a handler that passes.** -/
theorem Runner.execute_of_passes (runner : Runner) (sha256 : String → String) {handler : Handler} (hpasses : handler.Passes)
    {unitId : String} (key : String) (previous : Option Record) {s : Loop} {o : Option Record}
    (hread : read s.journal unitId = .ok o) :
    ∃ record, runner.execute sha256 handler unitId key previous s =
      ({ s with
          journal := write s.journal unitId record
          records := s.records ++ [record]
          executed := s.executed ++ [unitId]
          executions := s.executions ++ [⟨unitId, key, .pass⟩] }, none) ∧
      Ended unitId key (trailOf s.journal unitId) record ∧ record.status = .pass := by
  rw [Runner.execute, begin, read_of_read hread]
  simp only [bind, Except.bind, pure, Except.pure]
  have hrunning := running_running (s.journal unitId) unitId runner.producerSha key
    [("resuming", .bool (previous.any fun record => record.cacheKey = key))]
  generalize running (s.journal unitId) unitId runner.producerSha key
    [("resuming", .bool (previous.any fun record => record.cacheKey = key))] = first at hrunning ⊢
  obtain ⟨record, hcheckpoints, hrecord⟩ :=
    checkpoints_write s.journal unitId hrunning (handler first).checkpoints
  obtain ⟨fields, payload, houtcome, hstatus, hpayload⟩ := hpasses first
  obtain ⟨ended, hfinish, hended, hpass⟩ :=
    finish_of_running sha256 hread hrecord payload
  refine ⟨ended, ?_, hended, hpass⟩
  simp only [hcheckpoints, houtcome, conclude, hpayload, hstatus, hfinish, hpass, if_true]

/-! ### Equal keys -/

variable {values values' : Values} {key key' : String → Except Error String} {k : String}

theorem unitKey_eq_ok :
    unitKey sha256 values journal key u = .ok k ↔
      ∃ artifacts checkpoints, u.dependsOn.mapM (dependencyArtifact sha256 journal key) = .ok artifacts ∧
        u.requiredCheckpoints.mapM (requiredCheckpoint values) = .ok checkpoints ∧
        k = digest sha256 (subject checkpoints artifacts u.inputDigest) := by
  rw [unitKey, bind_eq_ok]
  constructor
  · rintro ⟨artifacts, hartifacts, h⟩
    obtain ⟨checkpoints, hcheckpoints, h⟩ := bind_eq_ok.1 h
    exact ⟨artifacts, checkpoints, hartifacts, hcheckpoints, (Except.ok.inj h).symm⟩
  · rintro ⟨artifacts, checkpoints, hartifacts, hcheckpoints, rfl⟩
    exact ⟨artifacts, hartifacts, bind_eq_ok.2 ⟨checkpoints, hcheckpoints, rfl⟩⟩

theorem fst_of_dependencyArtifact (d : String) (a : String × String)
    (h : dependencyArtifact sha256 journal key d = .ok a) : a.1 = d := by
  obtain ⟨record, artifact, -, -, -, -, rfl⟩ := dependencyArtifact_eq_ok.1 h
  rfl

theorem fst_of_requiredCheckpoint (name : String) (c : String × String)
    (h : requiredCheckpoint values name = .ok c) : c.1 = name :=
  (requiredCheckpoint_eq_ok.1 h).2

/-- **Equal keys of a unit** come from equal values of its checkpoints, and from records of its
dependencies with equal keys. -/
theorem unitKey_inj (hsha : Function.Injective sha256)
    (h : unitKey sha256 values journal key u = .ok k)
    (h' : unitKey sha256 values' journal' key' u = .ok k) :
    (∀ name ∈ u.requiredCheckpoints, values name = values' name) ∧
      ∀ d ∈ u.dependsOn, ∃ record record', journal d = some record ∧ journal' d = some record' ∧
        record.cacheKey = record'.cacheKey := by
  obtain ⟨artifacts, checkpoints, hartifacts, hcheckpoints, rfl⟩ := unitKey_eq_ok.1 h
  obtain ⟨artifacts', checkpoints', hartifacts', hcheckpoints', hk⟩ := unitKey_eq_ok.1 h'
  have hnodup : ∀ {cs : List (String × String)} {v : Values},
      u.requiredCheckpoints.mapM (requiredCheckpoint v) = .ok cs → (cs.map Prod.fst).Nodup := fun hcs => by
    rw [map_of_mapM_eq_ok hcs fst_of_requiredCheckpoint]
    exact u.checkpoints_nodup
  have hnodup' : ∀ {as : List (String × String)} {j : Journal} {f : String → Except Error String},
      u.dependsOn.mapM (dependencyArtifact sha256 j f) = .ok as → (as.map Prod.fst).Nodup := fun has => by
    rw [map_of_mapM_eq_ok has fst_of_dependencyArtifact]
    exact u.dependsOn_nodup
  obtain ⟨hc, ha, -⟩ := subject_inj hsha (hnodup hcheckpoints) (hnodup' hartifacts)
    (hnodup hcheckpoints') (hnodup' hartifacts') hk
  constructor
  · intro name hname
    obtain ⟨c, hmem, hvalue⟩ := exists_mem_of_mapM_eq_ok hcheckpoints hname
    obtain ⟨name', -, hvalue'⟩ := of_mem_mapM_eq_ok hcheckpoints' (hc c hmem)
    obtain ⟨hsome, hfst⟩ := requiredCheckpoint_eq_ok.1 hvalue
    obtain ⟨hsome', hfst'⟩ := requiredCheckpoint_eq_ok.1 hvalue'
    rw [hsome, ← hsome', ← hfst', hfst]
  · intro d hd
    obtain ⟨a, hmem, hartifact⟩ := exists_mem_of_mapM_eq_ok hartifacts hd
    obtain ⟨d', -, hartifact'⟩ := of_mem_mapM_eq_ok hartifacts' (ha a hmem)
    obtain ⟨record, artifact, hread, -, -, -, rfl⟩ := dependencyArtifact_eq_ok.1 hartifact
    obtain ⟨record', artifact', hread', -, -, -, heq⟩ := dependencyArtifact_eq_ok.1 hartifact'
    obtain ⟨rfl, hdigest⟩ := Prod.mk.inj heq
    exact ⟨record, record', (read_eq_ok hread).symm, (read_eq_ok hread').symm,
      (dependency_inj hsha hdigest).1⟩

/-- A unit has a key if its checkpoints have values and its dependencies have passed. -/
theorem exists_unitKey (hvalues : ∀ name ∈ u.requiredCheckpoints, values name ≠ none)
    (hdeps : ∀ d ∈ u.dependsOn, ∃ a, dependencyArtifact sha256 journal key d = .ok a) :
    ∃ k, unitKey sha256 values journal key u = .ok k := by
  obtain ⟨artifacts, hartifacts⟩ := exists_mapM_eq_ok hdeps
  obtain ⟨checkpoints, hcheckpoints⟩ := exists_mapM_eq_ok fun name hname =>
    let ⟨value, hvalue⟩ := Option.ne_none_iff_exists'.1 (hvalues name hname)
    ⟨(name, value), requiredCheckpoint_eq_ok.2 ⟨hvalue, rfl⟩⟩
  exact ⟨_, unitKey_eq_ok.2 ⟨artifacts, checkpoints, hartifacts, hcheckpoints, rfl⟩⟩

theorem value_of_unitKey (h : unitKey sha256 values journal key u = .ok k) {name : String}
    (hname : name ∈ u.requiredCheckpoints) : values name ≠ none := by
  obtain ⟨artifacts, checkpoints, -, hcheckpoints, -⟩ := unitKey_eq_ok.1 h
  obtain ⟨c, -, hvalue⟩ := exists_mem_of_mapM_eq_ok hcheckpoints hname
  rw [(requiredCheckpoint_eq_ok.1 hvalue).1]
  nofun

/-! ### Running again -/

/-- A unit has passed under its key. -/
structure Valid (sha256 : String → String) (runner : Runner) (journal : Journal) (u : ExperimentUnit)
    (record : Record) : Prop where
  recorded : read journal u.unitId = .ok (some record)
  pass : record.status = .pass
  artifact : record.artifactDigest ≠ none
  key : runner.cacheKey sha256 journal u.unitId = .ok record.cacheKey

/-- A run has returned a pass for each unit. -/
def AllPassed (runner : Runner) (s : Loop) : Prop :=
  ∀ u ∈ runner.units, ∃ record ∈ s.records, record.trialId = u.unitId ∧ record.status = .pass

theorem Valid.write (h : Valid sha256 runner journal w record)
    (hunits : runner.units = before ++ u :: after) (hw : w ∈ before) (new : Record) :
    Valid sha256 runner (write journal u.unitId new) w record := by
  refine ⟨?_, h.pass, h.artifact, ?_⟩
  · rw [read_of_read h.recorded, write_of_ne (Runner.ne_of_mem_before hunits hw),
      ← read_eq_ok h.recorded]
  · rw [Runner.cacheKey_write hunits hw, h.key]

theorem Valid.dependencyArtifact (h : Valid sha256 runner journal w record)
    (hunits : runner.units = before ++ u :: after) (hw : w ∈ before) :
    ∃ a, dependencyArtifact sha256 journal
      (keyAmong sha256 runner.checkpointValues journal before.reverse) w.unitId = .ok a := by
  obtain ⟨artifact, hartifact⟩ := Option.ne_none_iff_exists'.1 h.artifact
  obtain ⟨-, -, -, hkeys⟩ := Runner.before hunits
  refine ⟨_, dependencyArtifact_eq_ok.2 ⟨record, artifact, h.recorded, h.pass, ?_, hartifact, rfl⟩⟩
  rw [hkeys sha256 journal _ (List.mem_map.2 ⟨w, hw, rfl⟩), h.key]

/-- A run of runs that has returned a pass for each unit leaves each with a pass under its key. -/
theorem valid_of_allPassed (calls : List Call) (call : Call)
    (h : AllPassed call.runner (call.run sha256 (journalAfter sha256 calls)).1) :
    ∀ u ∈ call.runner.units, ∃ record, Valid sha256 call.runner
      (call.run sha256 (journalAfter sha256 calls)).1.journal u record := by
  intro u hu
  obtain ⟨record, hmem, hid, hstatus⟩ := h u hu
  obtain ⟨done, hfresh⟩ := call.fresh sha256 (wellKept_journalAfter sha256 calls)
  obtain ⟨w, -, hwid, hread, hkey⟩ := hfresh.passes record hmem hstatus
  rw [← hwid, hid] at hread hkey
  obtain ⟨hrecorded, -, hartifact⟩ := hfresh.kept _ _ hread
  exact ⟨record, hrecorded, hstatus, hartifact (by rw [hstatus]; nofun), hkey⟩

/-- The second run, after some of the units. -/
structure Rerun (sha256 : String → String) (runner : Runner) (old : Journal) (changed : List String)
    (done : List ExperimentUnit) (s : Loop) : Prop where
  failed : s.failed = []
  skipped : s.skipped = []
  executed : s.executed = (ids done).filter (· ∈ affected runner.units changed)
  reused : s.reused = (ids done).filter (· ∉ affected runner.units changed)
  rest : ∀ d, d ∉ ids done → s.journal d = old d
  units : ∀ u ∈ done, ∃ record previous, Valid sha256 runner s.journal u record ∧
    old u.unitId = some previous ∧ record ∈ s.records ∧
    (u.unitId ∈ affected runner.units changed → record.cacheKey ≠ previous.cacheKey) ∧
    (u.unitId ∉ affected runner.units changed → record = previous)

/-- The values of the checkpoints are the same, apart from the changed ones, which have others. -/
def ChangedTo (values : Values) (changed : List String) (values' : Values) : Prop :=
  ∀ name, (name ∈ changed → values' name ≠ none ∧ values' name ≠ values name) ∧
    (name ∉ changed → values' name = values name)

section

variable {first : Runner} {old : Journal} {s : Loop} {previous : Record}
  {handlers : String → Option Handler}

/-- The second run finds a key for each unit, which is the old one exactly if the unit is not
affected. -/
theorem Rerun.exists_key (hsha : Function.Injective sha256) (h : Rerun sha256 runner old changed before s)
    (hunits : runner.units = before ++ u :: after) (hfirst : first.units = runner.units)
    (hvalues : ChangedTo first.checkpointValues changed runner.checkpointValues)
    (hold : ∀ w ∈ first.units, ∃ record, Valid sha256 first old w record)
    (hprevious : Valid sha256 first old u previous) :
    ∃ key, runner.cacheKey sha256 s.journal u.unitId = .ok key ∧
      (u.unitId ∈ affected runner.units changed → key ≠ previous.cacheKey) ∧
      (u.unitId ∉ affected runner.units changed → key = previous.cacheKey) := by
  have hfirstunits := hfirst.trans hunits
  obtain ⟨-, -, hdeps, hkeys⟩ := Runner.before hunits
  obtain ⟨-, -, -, hfirstkeys⟩ := Runner.before hfirstunits
  have hbefore : ∀ d ∈ u.dependsOn, ∃ w ∈ before, w.unitId = d := fun d hd =>
    List.mem_map.1 (hdeps d hd)
  have hfirstkey := hprevious.key
  rw [Runner.cacheKey_eq sha256 hfirstunits] at hfirstkey
  obtain ⟨key, hkey⟩ : ∃ key, unitKey sha256 runner.checkpointValues s.journal
      (keyAmong sha256 runner.checkpointValues s.journal before.reverse) u = .ok key := by
    refine exists_unitKey (fun name hname => ?_) fun d hd => ?_
    · by_cases hchanged : name ∈ changed
      · exact ((hvalues name).1 hchanged).1
      · rw [(hvalues name).2 hchanged]
        exact value_of_unitKey hfirstkey hname
    · obtain ⟨w, hw, rfl⟩ := hbefore d hd
      obtain ⟨record, -, hvalid, -⟩ := h.units w hw
      exact hvalid.dependencyArtifact hunits hw
  refine ⟨key, by rw [Runner.cacheKey_eq sha256 hunits, hkey], fun haffected hsame => ?_,
    fun hunaffected => ?_⟩
  · -- an equal key would have equal inputs, but one of them has changed
    rw [hsame] at hkey
    obtain ⟨hsamevalues, hsamedeps⟩ := unitKey_inj hsha hkey hfirstkey
    rcases (mem_affected_iff hunits).1 haffected with ⟨name, hname, hchanged⟩ | ⟨d, hd, hdaffected⟩
    · exact ((hvalues name).1 hchanged).2 (hsamevalues name hname)
    · obtain ⟨w, hw, rfl⟩ := hbefore d hd
      obtain ⟨record, wold, hvalid, hwold, -, hdiffers, -⟩ := h.units w hw
      obtain ⟨record', wold', hread, hread', hsamekey⟩ := hsamedeps _ hd
      cases hread.symm.trans (read_eq_ok hvalid.recorded).symm
      cases hread'.symm.trans hwold
      exact hdiffers hdaffected hsamekey
  · have hdirect : ∀ name ∈ u.requiredCheckpoints, name ∉ changed := fun name hname hchanged =>
      hunaffected ((mem_affected_iff hunits).2 (.inl ⟨name, hname, hchanged⟩))
    have hindirect : ∀ d ∈ u.dependsOn, d ∉ affected runner.units changed := fun d hd hdaffected =>
      hunaffected ((mem_affected_iff hunits).2 (.inr ⟨d, hd, hdaffected⟩))
    have hsamedeps : ∀ d ∈ u.dependsOn, s.journal d = old d ∧
        runner.cacheKey sha256 s.journal d = first.cacheKey sha256 old d := by
      intro d hd
      obtain ⟨w, hw, rfl⟩ := hbefore d hd
      obtain ⟨record, wold, hvalid, hwold, -, -, hsame⟩ := h.units w hw
      cases hsame (hindirect _ hd)
      obtain ⟨wold', hwvalid⟩ := hold w (by rw [hfirstunits]; exact List.mem_append_left _ hw)
      cases hwold.symm.trans (read_eq_ok hwvalid.recorded).symm
      exact ⟨(read_eq_ok hvalid.recorded).symm.trans hwold.symm, hvalid.key.trans hwvalid.key.symm⟩
    have hcongr : unitKey sha256 runner.checkpointValues s.journal
          (keyAmong sha256 runner.checkpointValues s.journal before.reverse) u =
        unitKey sha256 first.checkpointValues old
          (keyAmong sha256 first.checkpointValues old before.reverse) u := unitKey_congr
      (fun name hname => (hvalues name).2 (hdirect name hname)) (fun d hd => (hsamedeps d hd).1)
      fun d hd => by
        rw [hkeys sha256 _ d (hdeps d hd), hfirstkeys sha256 _ d (hdeps d hd), (hsamedeps d hd).2]
    rw [hkey, hfirstkey] at hcongr
    exact Except.ok.inj hcongr

/-- Adding the unit that has been visited to the account of the second run. -/
theorem Rerun.next {s' : Loop} (h : Rerun sha256 runner old changed before s) (record : Record)
    (hread : old u.unitId = some previous)
    (hfailed : s'.failed = []) (hskipped : s'.skipped = [])
    (hexecuted : s'.executed =
      s.executed ++ [u.unitId].filter (· ∈ affected runner.units changed))
    (hreused : s'.reused = s.reused ++ [u.unitId].filter (· ∉ affected runner.units changed))
    (hrecords : s'.records = s.records ++ [record])
    (hother : ∀ d, d ≠ u.unitId → s'.journal d = s.journal d)
    (hbefore : ∀ w ∈ before, ∀ r, Valid sha256 runner s.journal w r → Valid sha256 runner s'.journal w r)
    (hvalid : Valid sha256 runner s'.journal u record)
    (haffected : u.unitId ∈ affected runner.units changed → record.cacheKey ≠ previous.cacheKey)
    (hunaffected : u.unitId ∉ affected runner.units changed → record = previous) :
    Rerun sha256 runner old changed (before ++ [u]) s' := by
  have hids : ids (before ++ [u]) = ids before ++ [u.unitId] := by simp [ids]
  refine ⟨hfailed, hskipped, ?_, ?_, fun d hd => ?_, fun w hw => ?_⟩
  · rw [hexecuted, h.executed, hids, List.filter_append]
  · rw [hreused, h.reused, hids, List.filter_append]
  · rw [hids, List.mem_append, not_or, List.mem_singleton] at hd
    rw [hother d hd.2, h.rest d hd.1]
  · rcases List.mem_append.1 hw with hw | hw
    · obtain ⟨r, p, hr, hp, hmem, hrest⟩ := h.units w hw
      exact ⟨r, p, hbefore w hw r hr, hp, hrecords ▸ List.mem_append_left _ hmem, hrest⟩
    · cases List.mem_singleton.1 hw
      exact ⟨record, previous, hvalid, hread,
        hrecords ▸ List.mem_append_right _ (List.mem_singleton_self _), haffected, hunaffected⟩

/-- **One unit of the second run.** -/
theorem Rerun.visit (hsha : Function.Injective sha256)
    (h : Rerun sha256 runner old changed before s) (hunits : runner.units = before ++ u :: after)
    (hfirst : first.units = runner.units)
    (hvalues : ChangedTo first.checkpointValues changed runner.checkpointValues)
    (hold : ∀ w ∈ first.units, ∃ record, Valid sha256 first old w record)
    (hhandlers : ∃ handler, handlers u.unitId = some handler ∧ handler.Passes)
    {selected : List String} (hselected : u.unitId ∈ selected) :
    ∃ s', runner.visit sha256 handlers selected s u = (s', none) ∧
      Rerun sha256 runner old changed (before ++ [u]) s' := by
  obtain ⟨previous, hprevious⟩ := hold u (by rw [hfirst, hunits]; simp)
  obtain ⟨key, hkey, hdiffers, hsame⟩ := h.exists_key hsha hunits hfirst hvalues hold hprevious
  obtain ⟨-, hnew, -⟩ := Runner.before hunits
  have hread : old u.unitId = some previous := (read_eq_ok hprevious.recorded).symm
  have hreads : read s.journal u.unitId = .ok (some previous) := by
    rw [read_of_read hprevious.recorded, h.rest u.unitId hnew, hread]
  have hvisit : runner.visit sha256 handlers selected s u =
      if previous.cacheKey = key then (s.reuse u.unitId previous, none)
      else runner.handle sha256 handlers u.unitId key (some previous) s := by
    rw [Runner.visit, if_neg (not_not.2 hselected), if_neg (by rw [h.failed]; simp), hkey]
    simp only [hreads, if_pos hprevious.pass]
  rw [hvisit]
  by_cases haffected : u.unitId ∈ affected runner.units changed
  · obtain ⟨handler, hhandler, hpasses⟩ := hhandlers
    obtain ⟨record, hexecute, hended, hpass⟩ :=
      runner.execute_of_passes sha256 hpasses key (some previous) hreads
    rw [if_neg (Ne.symm (hdiffers haffected)), Runner.handle, hhandler]
    refine ⟨_, hexecute, h.next record hread h.failed h.skipped ?_ ?_ rfl ?_ ?_ ?_
      (fun _ => hended.cacheKey ▸ hdiffers haffected) (absurd haffected)⟩
    · simp [haffected]
    · simp [haffected]
    · exact fun d hd => write_of_ne hd _ _
    · exact fun w hw r hr => hr.write hunits hw record
    · refine ⟨?_, hpass, hended.artifact, ?_⟩
      · rw [read_of_read hreads]
        exact congrArg _ (write_self ..)
      · rw [hended.cacheKey, ← hkey]
        exact Runner.cacheKey_congr hunits fun d hd =>
          write_of_ne (fun heq : d = u.unitId => hnew (heq ▸ hd)) _ _
  · rw [if_pos (hsame haffected).symm]
    refine ⟨_, rfl, h.next previous hread h.failed h.skipped ?_ ?_ rfl
      (fun _ _ => rfl) (fun _ _ _ hr => hr) ?_ (fun hin => absurd hin haffected) fun _ => rfl⟩
    · simp [haffected, Loop.reuse]
    · simp [haffected, Loop.reuse]
    · exact ⟨hreads, hprevious.pass, hprevious.artifact, hsame haffected ▸ hkey⟩

theorem Rerun.visitAll (hsha : Function.Injective sha256) (hfirst : first.units = runner.units)
    (hvalues : ChangedTo first.checkpointValues changed runner.checkpointValues)
    (hold : ∀ w ∈ first.units, ∃ record, Valid sha256 first old w record)
    (hhandlers : ∀ u ∈ runner.units, ∃ handler, handlers u.unitId = some handler ∧ handler.Passes)
    {us : List ExperimentUnit} (hunits : runner.units = before ++ us)
    (h : Rerun sha256 runner old changed before s) :
    ∃ s', runner.visitAll sha256 handlers (ids runner.units) s us = (s', none) ∧
      Rerun sha256 runner old changed runner.units s' := by
  induction us generalizing before s with
  | nil =>
    rw [List.append_nil] at hunits
    exact ⟨s, rfl, hunits ▸ h⟩
  | cons u us ih =>
    have hu : u ∈ runner.units := by rw [hunits]; simp
    have hselected : u.unitId ∈ ids runner.units := List.mem_map.2 ⟨u, hu, rfl⟩
    obtain ⟨s', hvisit, hnext⟩ := h.visit hsha hunits hfirst hvalues hold (hhandlers u hu) hselected
    rw [Runner.visitAll, hvisit]
    exact ih (by rw [hunits, List.append_assoc, List.singleton_append]) hnext

end

/-- **What is executed is what is affected.**  After a run in which all units have passed, a runner
with changed values of some checkpoints executes the affected units, in their order, and reuses all
others with the records that they have. -/
theorem exact_invalidation (sha256 : String → String) (hsha : Function.Injective sha256)
    (calls : List Call) (call : Call)
    (hpassed : AllPassed call.runner (call.run sha256 (journalAfter sha256 calls)).1)
    (runner : Runner) (hunits : runner.units = call.runner.units) (changed : List String)
    (hvalues : ChangedTo call.runner.checkpointValues changed runner.checkpointValues)
    (handlers : String → Option Handler)
    (hhandlers : ∀ u ∈ runner.units, ∃ handler, handlers u.unitId = some handler ∧ handler.Passes) :
    let journal := (call.run sha256 (journalAfter sha256 calls)).1.journal
    let result := runner.run sha256 handlers none journal
    result.2 = none ∧
      result.1.executed = (ids runner.units).filter (· ∈ affected runner.units changed) ∧
      result.1.reused = (ids runner.units).filter (· ∉ affected runner.units changed) ∧
      result.1.skipped = [] ∧
      ∀ u ∈ runner.units, u.unitId ∉ affected runner.units changed →
        ∃ record ∈ result.1.records, journal u.unitId = some record ∧
          result.1.journal u.unitId = some record := by
  have hold := valid_of_allPassed calls call hpassed
  have hstart : Rerun sha256 runner (call.run sha256 (journalAfter sha256 calls)).1.journal changed []
      (Loop.start (call.run sha256 (journalAfter sha256 calls)).1.journal) :=
    ⟨rfl, rfl, rfl, rfl, fun _ _ => rfl, fun u hu => absurd hu List.not_mem_nil⟩
  obtain ⟨s, hrun, h⟩ := hstart.visitAll hsha hunits.symm hvalues hold hhandlers rfl
  have hselected : ((none : Option (List String)).getD (ids runner.units)).all
      (· ∈ ids runner.units) = true := by simp
  have hresult : runner.run sha256 handlers none
      (call.run sha256 (journalAfter sha256 calls)).1.journal = (s, none) := by
    rw [← hrun]
    exact if_pos hselected
  intro journal result
  rw [show result = (s, none) from hresult]
  refine ⟨rfl, h.executed, h.reused, h.skipped, fun u hu hunaffected => ?_⟩
  obtain ⟨record, previous, hvalid, hprevious, hmem, -, hsame⟩ := h.units u hu
  cases hsame hunaffected
  exact ⟨record, hmem, hprevious, (read_eq_ok hvalid.recorded).symm⟩

/-- A scenario, a baseline that depends on it, and a canary that does not. -/
def sampleRunner (sut : String) : Runner where
  units := [⟨"scenario-01", ["sut"], [], "s1", by decide, List.nodup_singleton "sut",
      List.nodup_nil, by decide⟩,
    ⟨"baseline-01", ["model_route"], ["scenario-01"], "b1", by decide,
      List.nodup_singleton "model_route", List.nodup_singleton "scenario-01", by decide⟩,
    ⟨"canary-01", ["writer_surfaces"], [], "c1", by decide, List.nodup_singleton "writer_surfaces",
      List.nodup_nil, by decide⟩]
  checkpointValues := fun name => if name = "sut" then some sut else some "v1"
  producerSha := "f"
  ordered := by decide

/-- A handler that makes the same artifact whenever it is called. -/
def sampleHandlers (unitId : String) : Option Handler :=
  some fun _ => ⟨[], .returned [("payload", .obj [("unit", .str unitId)])]⟩

theorem exact_invalidation_sut :
    let journal := (Call.run id ⟨sampleRunner "v1", sampleHandlers, none⟩
      (journalAfter id [])).1.journal
    let result := (sampleRunner "v2").run id sampleHandlers none journal
    result.2 = none ∧ result.1.executed = ["scenario-01", "baseline-01", "canary-01"].filter
      (· ∈ affected (sampleRunner "v2").units ["sut"]) := by
  have hpassed : AllPassed (sampleRunner "v1")
      (Call.run id ⟨sampleRunner "v1", sampleHandlers, none⟩ (journalAfter id [])).1 := by
    unfold AllPassed
    decide +kernel
  have hvalues : ChangedTo (sampleRunner "v1").checkpointValues ["sut"]
      (sampleRunner "v2").checkpointValues := by
    intro name
    by_cases hname : name = "sut" <;> simp [sampleRunner, hname]
  obtain ⟨hreturned, hexecuted, -⟩ := exact_invalidation id Function.injective_id []
    ⟨sampleRunner "v1", sampleHandlers, none⟩ hpassed (sampleRunner "v2") rfl ["sut"] hvalues
    sampleHandlers fun u _ => ⟨_, rfl, fun _ => ⟨_, _, rfl, rfl, rfl⟩⟩
  exact ⟨hreturned, hexecuted⟩

end Experiments
