/-
**Runs of the readiness baselines.**

An invocation of `run_retest_baselines_v3` either prepares a run in a new empty directory or resumes one.
A preparation replays the scenarios, perhaps with the passes of another run.  With
`continue_on_case_failure` it goes on after failed cases and then ends as a diagnostic scan, which is never
promoted: it does not inherit, and a resume refuses its directory.  Nothing asks how the run ended whose
passes are inherited.

What the invocation takes from the repository, the cluster and the matrices is its environment.

Main definitions:

* `Readiness.runRetestBaselines` — the function `run_retest_baselines_v3`;
* `Readiness.DiagnosticScan` — the run of a directory ended as a diagnostic scan;
* `Readiness.Unpromoted` — no run that passed holds a trial that a diagnostic scan executed.

Main results:

* `Readiness.kept_runRetestBaselines` — what an invocation keeps;
* `Readiness.unpromoted_of_sources` — **no diagnostic scan is promoted where none is inherited from**.
-/

import FaultWitness.ReadinessReplays
import FaultWitness.Runs

set_option autoImplicit false

namespace Readiness

open Python Runs
open Experiments (Record)
open ScenarioMatrix (Seed)

/-! ### Directories -/

/-- The summary of a preparation. -/
inductive Preflight
  | diagnosticScan (caseOutcomes : List CaseOutcome) (failedCaseCount attemptedCaseCount : Option ℕ)
  /-- The scenarios are not complete; the blocker is `dataset_incomplete` or
  `scenario_replay_incomplete`. -/
  | incomplete (blocker : String)
  /-- The scenarios are complete; the preparation passes if nothing blocks it. -/
  | completed (blockers : List String)

def Preflight.isPass : Preflight → Bool
  | .completed blockers => blockers = []
  | _ => false

def Preflight.isDiagnostic : Preflight → Bool
  | .diagnosticScan _ _ _ => true
  | _ => false

/-- The files of a run directory that an invocation reads. -/
structure RunDirectory where
  /-- The directory `journals/scenarios/trials`, if it exists. -/
  journal : Option Trials := none
  /-- Whether `run-manifest.json` exists. -/
  manifest : Bool := false
  scenarios : Option Scenarios := none
  /-- The file `preflight-summary.json`. -/
  preflight : Option Preflight := none

def RunDirectory.isEmpty (d : RunDirectory) : Bool :=
  d.journal.isNone && !d.manifest && d.scenarios.isNone && d.preflight.isNone

/-- The run directories by their paths. -/
abbrev Directories := List (Path × RunDirectory)

def put (dirs : Directories) (path : Path) (d : RunDirectory) : Directories :=
  (path, d) :: dirs.filter fun e => e.1 ≠ path

/-- There is something in the directory: a file, or another directory. -/
def occupied (dirs : Directories) (path : Path) : Bool :=
  dirs.any fun e => path.isPrefixOf e.1 && (e.1 ≠ path || !e.2.isEmpty)

/-! ### Invocations -/

structure Options where
  /-- The output directory; `none` is one that is not below the readiness root. -/
  outputDir : Option Path
  skipLive : Bool
  resume : Bool
  repetitions : Option ℤ
  metricVersion : ℤ
  continueOnCaseFailure : Bool
  inheritFrom : Option (Option Path)

/-- What `_run_identity_v3` and the lab configuration give to the replay. -/
structure Identity where
  producerSha : String
  contract : Contract
  catalog : SeedCatalog

/-- What an invocation meets. -/
structure Environment where
  /-- Where a file `INVALIDATION.md` is. -/
  marked : Path → Bool
  /-- The names that contain `-invalidated-` in any case. -/
  invalidatedName : String → Bool
  identity : Except Raised Identity
  /-- The checks of the replay before its first case. -/
  prepared : Except Raised Unit
  measure : Seed → Measured
  /-- The blockers that the probes and matrices find. -/
  evaluate : Scenarios → Except Raised (List String)
  protectedUnchanged : Except Raised Unit
  /-- How a resume goes on after the checks that are modelled. -/
  live : Except Raised Unit

variable (env : Environment)

def validateOutputDir (dirs : Directories) (outputDir : Option Path) (resume : Bool) :
    Except Raised Path :=
  match outputDir with
  | none => .error (.governance "metric v3 output directory must be under .audit/g03-readiness")
  | some path => do
    if path = [] then
      throw (.governance "metric v3 output directory cannot be the readiness root")
    if path.any env.invalidatedName ∨ path.inits.any env.marked ∨ path.head? = some "invalidated" then
      throw (.governance "metric v3 cannot read or resume an invalidated directory")
    if resume then
      if ¬occupied dirs path then
        throw (.governance "metric v3 --resume requires a non-empty active run directory")
      if ¬(dirs.lookup path).any RunDirectory.manifest then
        throw (.governance "metric v3 --resume target lacks an active run manifest")
    else if occupied dirs path then
      throw (.governance "metric v3 preflight requires a new empty output directory")
    return path

/-- The checks of the options. -/
def checkOptions (options : Options) : Except Raised Unit := do
  if options.metricVersion ≠ METRIC_VERSION then
    throw (.governance "metric v3 requires metric_version=3")
  if options.skipLive = options.resume then
    throw (.governance "metric v3 requires exactly one of --skip-live or --resume")
  if options.inheritFrom.isSome ∧ ¬options.skipLive then
    throw (.governance "metric v3 trial inheritance applies only to a preflight")
  if options.inheritFrom.isSome ∧ options.continueOnCaseFailure then
    throw (.governance "metric v3 diagnostic scan cannot inherit trials; it is never gate evidence")
  if options.continueOnCaseFailure ∧ ¬options.skipLive then
    throw (.governance "metric v3 diagnostic scan requires --skip-live and cannot be resumed")

/-- The journal that is inherited, if there is a source. -/
def inherit (dirs : Directories) (path : Path) (inheritFrom : Option (Option Path)) :
    Except Raised (Option Trials) :=
  match inheritFrom with
  | none => .ok none
  | some source => do
    let source ← validateOutputDir env dirs source true
    if source = path then
      throw (.governance "metric v3 trial inheritance source cannot be the output directory")
    match (dirs.lookup source).bind RunDirectory.journal with
    | none => throw (.governance "metric v3 trial inheritance source has no scenario journal")
    | some journal => return some (inheritPassingTrials journal)

/-- The summary of scenarios that are not a pass. -/
def Scenarios.preflight (scenarios : Scenarios) : Preflight :=
  if scenarios.executionStatus = .diagnosticScan then
    .diagnosticScan scenarios.caseOutcomes scenarios.failedCaseCount scenarios.attemptedCaseCount
  else
    .incomplete (if scenarios.datasetIncomplete then "dataset_incomplete"
      else "scenario_replay_incomplete")

/-- The preparation of a run after the journal was set up: what is raised, and the directory. -/
def prepare (options : Options) (path : Path) (journal : Option Trials) :
    Except Raised Unit × RunDirectory :=
  match env.identity with
  | .error err => (.error err, { journal })
  | .ok identity =>
    match env.prepared with
    | .error err => (.error err, { journal, manifest := true })
    | .ok () =>
      let replay := replayAllScenarios identity.contract identity.producerSha path env.measure
        options.continueOnCaseFailure identity.catalog (journal.getD fun _ => none)
      let d : RunDirectory := { journal := some replay.2.journal, manifest := true }
      match replay.1 with
      | .error err => (.error err, d)
      | .ok scenarios =>
        let d := { d with scenarios := some scenarios }
        if scenarios.status ≠ .pass then
          let d := { d with preflight := some scenarios.preflight }
          match env.protectedUnchanged with
          | .error err => (.error err, d)
          | .ok () =>
            (.error (.governance (if scenarios.executionStatus = .diagnosticScan then
              "metric v3 diagnostic scan completed with " ++
                toString (scenarios.failedCaseCount.getD 0) ++
                " failed cases; diagnostic_only evidence is never promotable"
            else "metric v3 fresh scenario replay is incomplete")), d)
        else
          match env.evaluate scenarios with
          | .error err => (.error err, d)
          | .ok blockers =>
            let d := { d with preflight := some (.completed blockers) }
            match env.protectedUnchanged with
            | .error err => (.error err, d)
            | .ok () =>
              (if blockers = [] then .ok ()
                else .error (.governance ("metric v3 preflight is blocked: " ++
                  ", ".intercalate blockers)), d)

/-- The checks of a resume that look at how the preparation ended. -/
def checkResume (dirs : Directories) (options : Options) (path : Path) : Except Raised Unit := do
  if ¬(options.repetitions = some 3 ∨ options.repetitions = some 5) then
    throw (.governance "metric v3 live resume requires --repetitions 3 or 5")
  match (dirs.lookup path).bind RunDirectory.preflight with
  | none => throw (.governance "metric v3 artifact is unreadable")
  | some preflight =>
    if preflight.isDiagnostic then
      throw (.governance ("metric v3 cannot resume a diagnostic-only scan; readiness requires a " ++
        "new empty directory and a clean 32-case replay"))
    if ¬preflight.isPass then
      throw (.governance "metric v3 live cannot resume a blocked preflight")

def runRetestBaselines (options : Options) (dirs : Directories) : Except Raised Unit × Directories :=
  match checkOptions options with
  | .error err => (.error err, dirs)
  | .ok () =>
    match validateOutputDir env dirs options.outputDir options.resume with
    | .error err => (.error err, dirs)
    | .ok path =>
      if options.skipLive then
        if options.repetitions.isSome then
          (.error (.governance "metric v3 preflight does not accept a repetition count"), dirs)
        else
          match inherit env dirs path options.inheritFrom with
          | .error err => (.error err, put dirs path {})
          | .ok journal =>
            let prepared := prepare env options path journal
            (prepared.1, put dirs path prepared.2)
      else
        match checkResume dirs options path with
        | .error err => (.error err, dirs)
        | .ok () => (env.live, dirs)

/-- An invocation as a step. -/
def invoke (dirs : Directories) (invocation : Environment × Options) : Option Directories :=
  some (runRetestBaselines invocation.1 invocation.2 dirs).2

/-! ### Diagnostic scans -/

/-- The run of the directory ended as a diagnostic scan. -/
def DiagnosticScan (dirs : Directories) (path : Path) : Prop :=
  ((dirs.lookup path).bind RunDirectory.preflight).any Preflight.isDiagnostic = true

/-- No run that passed holds a trial that a diagnostic scan executed. -/
def Unpromoted (dirs : Directories) : Prop :=
  ∀ (path : Path) (d : RunDirectory) (preflight : Preflight) (scenarios : Scenarios),
    dirs.lookup path = some d → d.preflight = some preflight → preflight.isPass = true →
      d.scenarios = some scenarios → ∀ t ∈ scenarios.trials, ¬DiagnosticScan dirs t.run

/-- The invocation does not inherit from the directory of a diagnostic scan. -/
def SoundSource (dirs : Directories) (invocation : Environment × Options) : Prop :=
  ∀ source, invocation.2.inheritFrom = some (some source) → ¬DiagnosticScan dirs source

/-! ### The trials of a replay -/

section Replay

variable (contract : Contract) (producerSha : String) {run : Path} (measure : Seed → Measured)
  {Q : Trial → Prop}

/-- All trials of a replay have a property. -/
structure AllTrials (Q : Trial → Prop) (s : State) : Prop where
  journal : ∀ id t, s.journal id = some t → Q t
  completed : ∀ t ∈ s.completed, Q t
  failedRecords : ∀ t ∈ s.failedRecords, Q t

/-- What a replay returns holds no other trials. -/
def AllReturned (Q : Trial → Prop) (out : Option (Except Raised Scenarios)) : Prop :=
  ∀ scenarios, out = some (.ok scenarios) → ∀ t ∈ scenarios.trials, Q t

theorem allReturned_none : AllReturned Q none := by
  intro scenarios h
  cases h

theorem allReturned_error (err : Raised) : AllReturned Q (some (.error err)) := by
  intro scenarios h
  cases h

variable {s : State}

theorem AllTrials.write (h : AllTrials Q s) (hrun : ∀ record, Q ⟨record, run⟩) (seed : Seed)
    (record : Record) : AllTrials Q (s.write run seed record) := by
  refine ⟨?_, h.completed, h.failedRecords⟩
  intro id t ht
  by_cases hid : id = trialId seed
  · rw [hid, write_self] at ht
    obtain rfl := Option.some.inj ht
    exact hrun record
  · rw [write_of_ne hid] at ht
    exact h.journal id t ht

theorem forall_mem_append_singleton {ts : List Trial} {t : Trial} (h : ∀ t ∈ ts, Q t) (ht : Q t) :
    ∀ t' ∈ ts ++ [t], Q t' := by
  intro t' ht'
  rcases List.mem_append.1 ht' with hmem | hmem
  · exact h t' hmem
  · obtain rfl := List.mem_singleton.1 hmem
    exact ht

theorem AllTrials.replaySeed (h : AllTrials Q s) (hrun : ∀ record, Q ⟨record, run⟩) (c : Bool)
    (seed : Seed) : AllReturned Q (replaySeed contract producerSha run measure c seed s).1 ∧
      AllTrials Q (replaySeed contract producerSha run measure c seed s).2 := by
  have hstarted := h.write hrun seed (begun contract producerSha s.journal seed)
  unfold Readiness.replaySeed
  cases measure seed with
  | stopped => exact ⟨allReturned_error _, hstarted.journal, h.completed, h.failedRecords⟩
  | returned result =>
    cases hpacket : result.lookup "observation_packet" with
    | none =>
      simp only [hpacket]
      exact ⟨allReturned_error _, hstarted.journal, h.completed, h.failedRecords⟩
    | some packet =>
      simp only [hpacket]
      exact ⟨allReturned_none, (hstarted.write hrun seed _).journal,
        forall_mem_append_singleton h.completed (hrun _), h.failedRecords⟩
  | failed error =>
    dsimp only
    have hfailed := forall_mem_append_singleton h.failedRecords
      (hrun (finished contract (begun contract producerSha s.journal seed) error.status
        (error.payload seed)))
    split
    · exact ⟨allReturned_none, (hstarted.write hrun seed _).journal, h.completed, hfailed⟩
    · refine ⟨?_, (hstarted.write hrun seed _).journal, h.completed, hfailed⟩
      intro scenarios hscenarios
      obtain rfl := Except.ok.inj (Option.some.inj hscenarios)
      exact forall_mem_append_singleton h.completed (hrun _)

theorem AllTrials.visit (h : AllTrials Q s) (hrun : ∀ record, Q ⟨record, run⟩) (c : Bool)
    (seed : Seed) : AllReturned Q (visit contract producerSha run measure c seed s).1 ∧
      AllTrials Q (visit contract producerSha run measure c seed s).2 := by
  unfold Readiness.visit
  split
  · rename_i previous hprevious
    have hQ : Q previous := h.journal _ previous (Option.filter_eq_some_iff.1 hprevious).1
    exact ⟨allReturned_none, h.journal, forall_mem_append_singleton h.completed hQ, h.failedRecords⟩
  · split
    · exact h.replaySeed contract producerSha measure hrun c seed
    · exact ⟨allReturned_error _, h⟩
  · exact h.replaySeed contract producerSha measure hrun c seed

theorem AllTrials.summarize (h : AllTrials Q s) (c : Bool) (n : ℕ) :
    AllReturned Q (some (summarize c n s)) := by
  intro scenarios hscenarios
  have hok := Option.some.inj hscenarios
  unfold Readiness.summarize at hok
  split at hok
  · obtain rfl := Except.ok.inj hok
    intro t ht
    rcases List.mem_append.1 ht with ht | ht
    · exact h.completed t ht
    · exact h.failedRecords t ht
  · split at hok
    · cases hok
    · obtain ⟨packets, -, hok⟩ := bind_eq_ok.1 hok
      obtain rfl := Except.ok.inj hok
      exact h.completed

theorem AllTrials.visitAll (seeds : List Seed) (h : AllTrials Q s)
    (hrun : ∀ record, Q ⟨record, run⟩) (c : Bool) (n : ℕ) :
    AllReturned Q (some (visitAll contract producerSha run measure c n seeds s).1) ∧
      AllTrials Q (visitAll contract producerSha run measure c n seeds s).2 := by
  induction seeds generalizing s with
  | nil => exact ⟨h.summarize c n, h⟩
  | cons seed rest ih =>
    have hvisit := h.visit contract producerSha measure hrun c seed
    rw [Readiness.visitAll]
    split
    · rename_i result s' hout
      rw [hout] at hvisit
      exact hvisit
    · rename_i s' hout
      rw [hout] at hvisit
      exact ih hvisit.2

theorem allTrials_replay {journal : Trials} (hjournal : ∀ id t, journal id = some t → Q t)
    (hrun : ∀ record, Q ⟨record, run⟩) (c : Bool) (catalog : SeedCatalog) :
    (∀ scenarios, (replayAllScenarios contract producerSha run measure c catalog journal).1 =
        .ok scenarios → ∀ t ∈ scenarios.trials, Q t) ∧
      ∀ id t, (replayAllScenarios contract producerSha run measure c catalog journal).2.journal id =
        some t → Q t := by
  have hstart : AllTrials Q { journal } :=
    ⟨hjournal, fun _ h => absurd h List.not_mem_nil, fun _ h => absurd h List.not_mem_nil⟩
  obtain ⟨hreturned, hall⟩ :=
    hstart.visitAll contract producerSha measure catalog.seeds hrun c catalog.seeds.length
  exact ⟨fun scenarios h => hreturned scenarios (congrArg some h), hall.journal⟩

end Replay

/-! ### What an invocation keeps -/

/-- Nothing will run in the directory again, and no diagnostic scan has ended there. -/
def Settled (dirs : Directories) (path : Path) : Prop :=
  occupied dirs path = true ∧ ¬DiagnosticScan dirs path

/-- All trials in the files of a directory have a property. -/
structure RunDirectory.Holds (Q : Trial → Prop) (d : RunDirectory) : Prop where
  journal : ∀ journal, d.journal = some journal → ∀ id t, journal id = some t → Q t
  scenarios : ∀ scenarios, d.scenarios = some scenarios → ∀ t ∈ scenarios.trials, Q t

/-- The run of the directory has executed the trial, or one that is settled. -/
def Stems (dirs : Directories) (path : Path) (t : Trial) : Prop :=
  t.run = path ∨ Settled dirs t.run

/-- Every trial stems from its directory or from a settled one. -/
def Kept (dirs : Directories) : Prop :=
  ∀ path d, dirs.lookup path = some d → d.Holds (Stems dirs path)

variable {Q : Trial → Prop}

theorem RunDirectory.Holds.mono {R : Trial → Prop} {d : RunDirectory} (h : d.Holds Q)
    (hQR : ∀ t, Q t → R t) : d.Holds R :=
  ⟨fun journal hd id t ht => hQR t (h.journal journal hd id t ht),
    fun scenarios hd t ht => hQR t (h.scenarios scenarios hd t ht)⟩

theorem holds_unreplayed {journal : Option Trials}
    (h : ∀ trials, journal = some trials → ∀ id t, trials id = some t → Q t) (manifest : Bool) :
    RunDirectory.Holds Q ⟨journal, manifest, none, none⟩ := by
  refine ⟨h, ?_⟩
  intro scenarios hnone
  cases hnone

theorem lookup_filter_ne (dirs : Directories) {path q : Path} (h : q ≠ path) :
    (dirs.filter fun e => e.1 ≠ path).lookup q = dirs.lookup q := by
  induction dirs with
  | nil => rfl
  | cons e dirs ih =>
    obtain ⟨p, d⟩ := e
    by_cases hp : p = path
    · have hq : (q == p) = false := by
        rw [beq_eq_false_iff_ne, hp]
        exact h
      have hremoved : ¬decide (p ≠ path) = true := fun hne => of_decide_eq_true hne hp
      rw [List.filter_cons, if_neg hremoved, List.lookup_cons, hq, ih]
    · rw [List.filter_cons, if_pos (decide_eq_true hp), List.lookup_cons, List.lookup_cons, ih]

theorem lookup_put_self (dirs : Directories) (path : Path) (d : RunDirectory) :
    (put dirs path d).lookup path = some d := by
  rw [put, List.lookup_cons, beq_self_eq_true]

theorem lookup_put_of_ne (dirs : Directories) {path q : Path} (d : RunDirectory) (h : q ≠ path) :
    (put dirs path d).lookup q = dirs.lookup q := by
  have hq : (q == path) = false := beq_eq_false_iff_ne.2 h
  rw [put, List.lookup_cons, hq]
  exact lookup_filter_ne dirs h

variable {dirs : Directories}

theorem occupied_iff {path : Path} :
    occupied dirs path = true ↔
      ∃ e ∈ dirs, path <+: e.1 ∧ (e.1 ≠ path ∨ e.2.isEmpty = false) := by
  simp only [occupied, List.any_eq_true, Bool.and_eq_true, List.isPrefixOf_iff_prefix, Bool.or_eq_true,
    decide_eq_true_eq, Bool.not_eq_true']

theorem occupied_put {path q : Path} (d : RunDirectory) (hpath : occupied dirs path = false)
    (hq : occupied dirs q = true) : occupied (put dirs path d) q = true := by
  obtain ⟨e, he, hprefix, hfilled⟩ := occupied_iff.1 hq
  by_cases hsame : e.1 = path
  · -- The entry was empty, so that it is below what is occupied.
    have hempty : e.2.isEmpty ≠ false := by
      intro hfalse
      rw [← Bool.not_eq_true, occupied_iff] at hpath
      exact hpath ⟨e, he, hsame ▸ List.prefix_refl _, Or.inr hfalse⟩
    refine occupied_iff.2 ⟨(path, d), List.mem_cons_self, hsame ▸ hprefix, Or.inl ?_⟩
    rw [← hsame]
    exact hfilled.resolve_right hempty
  · refine occupied_iff.2 ⟨e, List.mem_cons_of_mem _ (List.mem_filter.2 ⟨he, ?_⟩), hprefix, hfilled⟩
    exact decide_eq_true hsame

theorem Settled.put {path q : Path} (d : RunDirectory) (hpath : occupied dirs path = false)
    (hq : Settled dirs q) : Settled (put dirs path d) q := by
  obtain ⟨hoccupied, hscan⟩ := hq
  have hne : q ≠ path := by
    rintro rfl
    rw [hpath] at hoccupied
    exact Bool.false_ne_true hoccupied
  refine ⟨occupied_put d hpath hoccupied, ?_⟩
  rw [DiagnosticScan, lookup_put_of_ne dirs d hne]
  exact hscan

theorem Kept.put (h : Kept dirs) {path : Path} {d : RunDirectory}
    (hpath : occupied dirs path = false) (hd : d.Holds (Stems dirs path)) :
    Kept (put dirs path d) := by
  have hstems : ∀ (q : Path) (t : Trial), Stems dirs q t → Stems (Readiness.put dirs path d) q t :=
    fun q t ht => ht.imp_right fun hsettled => hsettled.put d hpath
  intro q d' hlookup
  by_cases hq : q = path
  · rw [hq, lookup_put_self] at hlookup
    obtain rfl := Option.some.inj hlookup
    rw [hq]
    exact hd.mono (hstems path)
  · rw [lookup_put_of_ne dirs d hq] at hlookup
    exact (h q d' hlookup).mono (hstems q)

variable {env}

variable {options : Options}

theorem validateOutputDir_eq_ok {outputDir : Option Path} {resume : Bool} {path : Path}
    (h : validateOutputDir env dirs outputDir resume = .ok path) :
    outputDir = some path ∧ occupied dirs path = resume := by
  cases outputDir with
  | none => cases h
  | some path' =>
    obtain ⟨-, h⟩ := check_eq_ok.1 h
    obtain ⟨-, h⟩ := check_eq_ok.1 h
    cases resume with
    | true =>
      obtain ⟨hoccupied, h⟩ := check_eq_ok.1 h
      obtain ⟨-, h⟩ := check_eq_ok.1 h
      obtain rfl := Except.ok.inj h
      exact ⟨rfl, not_not.1 hoccupied⟩
    | false =>
      obtain ⟨hfree, h⟩ := check_eq_ok.1 h
      obtain rfl := Except.ok.inj h
      exact ⟨rfl, Bool.not_eq_true _ ▸ hfree⟩

theorem inherit_eq_ok {path : Path} {inheritFrom : Option (Option Path)} {journal : Option Trials}
    (h : inherit env dirs path inheritFrom = .ok journal) :
    journal = none ∨ ∃ source d trials, inheritFrom = some (some source) ∧
      occupied dirs source = true ∧ dirs.lookup source = some d ∧ d.journal = some trials ∧
        journal = some (inheritPassingTrials trials) := by
  cases inheritFrom with
  | none => exact Or.inl (Except.ok.inj h).symm
  | some outputDir =>
    obtain ⟨source, hsource, h⟩ := bind_eq_ok.1 h
    obtain ⟨houtput, hoccupied⟩ := validateOutputDir_eq_ok hsource
    obtain ⟨-, h⟩ := check_eq_ok.1 h
    split at h
    · cases h
    · rename_i trials htrials
      obtain ⟨d, hlookup, hjournal⟩ := Option.bind_eq_some_iff.1 htrials
      exact Or.inr ⟨source, d, trials, congrArg some houtput, hoccupied, hlookup, hjournal,
        (Except.ok.inj h).symm⟩

/-- What a preparation leaves are trials of the journal and of its own run. -/
theorem holds_prepare (options : Options) {path : Path} {journal : Option Trials}
    (hjournal : ∀ trials, journal = some trials → ∀ id t, trials id = some t → Q t)
    (hrun : ∀ record, Q ⟨record, path⟩) : (prepare env options path journal).2.Holds Q := by
  unfold prepare
  split
  · exact holds_unreplayed hjournal false
  · rename_i identity _
    split
    · exact holds_unreplayed hjournal true
    · have hstart : ∀ id t, (journal.getD fun _ => none) id = some t → Q t := by
        intro id t ht
        cases hsome : journal with
        | none =>
          rw [hsome] at ht
          cases ht
        | some trials =>
          rw [hsome] at ht
          exact hjournal trials hsome id t ht
      obtain ⟨hreturned, hleft⟩ := allTrials_replay identity.contract identity.producerSha env.measure
        hstart hrun options.continueOnCaseFailure identity.catalog
      dsimp only
      split
      · exact holds_unreplayed (fun trials htrials => Option.some.inj htrials ▸ hleft) true
      · rename_i scenarios hscenarios
        -- However it ends, the directory holds the journal and the scenarios of the replay.
        have hholds : ∀ preflight, RunDirectory.Holds Q ⟨some (replayAllScenarios identity.contract
            identity.producerSha path env.measure options.continueOnCaseFailure identity.catalog
            (journal.getD fun _ => none)).2.journal, true, some scenarios, preflight⟩ := by
          intro preflight
          refine ⟨fun trials htrials => Option.some.inj htrials ▸ hleft, ?_⟩
          intro scenarios' heq
          obtain rfl := Option.some.inj heq
          exact hreturned scenarios hscenarios
        split
        · split
          · exact hholds _
          · exact hholds _
        · split
          · exact hholds _
          · split
            · exact hholds _
            · exact hholds _

theorem checkOptions_eq_ok {u : Unit} (h : checkOptions options = .ok u) :
    options.skipLive ≠ options.resume := by
  obtain ⟨-, h⟩ := check_eq_ok.1 h
  obtain ⟨hne, -⟩ := check_eq_ok.1 h
  exact hne

theorem kept_nil : Kept [] := by
  intro path d hlookup
  cases hlookup

/-- **What an invocation keeps** that does not inherit from a diagnostic scan. -/
theorem kept_runRetestBaselines (h : Kept dirs) (hsource : SoundSource dirs (env, options)) :
    Kept (runRetestBaselines env options dirs).2 := by
  unfold runRetestBaselines
  split
  · exact h
  · rename_i hoptions
    split
    · exact h
    · rename_i path hpath
      obtain ⟨-, hoccupied⟩ := validateOutputDir_eq_ok hpath
      split
      · rename_i hskip
        have hfree : occupied dirs path = false := by
          rw [hoccupied, ← Bool.not_eq_true]
          intro hresume
          exact checkOptions_eq_ok hoptions (hskip.trans hresume.symm)
        split
        · exact h
        · split
          · refine h.put hfree (holds_unreplayed ?_ false)
            intro trials hnone
            cases hnone
          · rename_i journal hjournal
            refine h.put hfree (holds_prepare options ?_ fun record => Or.inl rfl)
            intro trials htrials id t ht
            rcases inherit_eq_ok hjournal with
              hnone | ⟨source, d, inherited, hfrom, hfilled, hlookup, hd, hsome⟩
            · rw [hnone] at htrials
              cases htrials
            · obtain rfl := Option.some.inj (hsome.symm.trans htrials)
              obtain ⟨hin, -⟩ := Option.filter_eq_some_iff.1 ht
              rcases (h source d hlookup).journal inherited hd id t hin with hrun | hsettled
              · refine Or.inr ?_
                rw [hrun]
                exact ⟨hfilled, hsource source hfrom⟩
              · exact Or.inr hsettled
      · split
        · exact h
        · exact h

theorem Kept.unpromoted (h : Kept dirs) : Unpromoted dirs := by
  intro path d preflight scenarios hlookup hpreflight hpass hscenarios t ht hscan
  rcases (h path d hlookup).scenarios scenarios hscenarios t ht with hrun | hsettled
  · rw [hrun, DiagnosticScan, hlookup, Option.bind_some, hpreflight, Option.any_some] at hscan
    cases preflight with
    | diagnosticScan caseOutcomes failed attempted => cases hpass
    | incomplete blocker => cases hscan
    | completed blockers => cases hscan
  · exact hsettled.2 hscan

/-- **No diagnostic scan is promoted in a run of invocations none of which inherits from one.** -/
theorem unpromoted_of_sources {dirs : Directories} (h : Reaches invoke SoundSource [] dirs) :
    Unpromoted dirs := by
  have hkept : Kept dirs := by
    refine h.invariant kept_nil ?_
    intro before invocation after hbefore hsource hstep
    obtain rfl := Option.some.inj hstep
    exact kept_runRetestBaselines hbefore hsource
  exact hkept.unpromoted

/-! ### Replays that conclude -/

section Conclusion

variable {contract : Contract} {producerSha : String} {run : Path} {measure : Seed → Measured}

/-- A pass that the run has executed for a seed. -/
structure PassOf (contract : Contract) (run : Path) (seed : Seed) (t : Trial) : Prop where
  executed : t.run = run
  status : t.record.status = .pass
  cacheKey : t.record.cacheKey = contract.cacheKey seed
  packet : (t.record.payload.lookup "observation_packet").isSome = true

variable {seed : Seed}

theorem PassOf.recalled_of_inherited {t : Trial} (h : PassOf contract run seed t)
    {source : Trials} (hsource : source (trialId seed) = some t) :
    recalled contract source seed = some t := by
  rw [recalled, hsource, Option.filter_some_pos]
  rw [Bool.and_eq_true, decide_eq_true_eq, decide_eq_true_eq]
  exact ⟨h.status, h.cacheKey⟩

variable (contract producerSha run) in
/-- What the replay of a seed does that is measured as a pass. -/
theorem replaySeed_of_isPass (h : (measure seed).isPass = true) (c : Bool) (s : State) :
    ∃ t s', PassOf contract run seed t ∧
      replaySeed contract producerSha run measure c seed s = (none, s') ∧
      s'.journal = Function.update s.journal (trialId seed) (some t) ∧
      s'.completed = s.completed ++ [t] ∧ s'.failedRecords = s.failedRecords := by
  unfold replaySeed
  cases hmeasured : measure seed with
  | stopped =>
    rw [hmeasured] at h
    cases h
  | failed error =>
    rw [hmeasured] at h
    cases h
  | returned result =>
    rw [hmeasured] at h
    obtain ⟨packet, hpacket⟩ := Option.isSome_iff_exists.1 h
    simp only [hpacket]
    refine ⟨⟨finished contract (begun contract producerSha s.journal seed) .pass (basePayload seed ++
      [("family", seed.family), ("result", .obj result), ("observation_packet", packet)]), run⟩, _,
      ⟨rfl, rfl, rfl, rfl⟩, rfl, ?_, rfl, rfl⟩
    simp only [State.write, Function.update_idem]

variable (contract producerSha run) in
theorem replaySeed_of_failed {error : CaseError} (h : measure seed = .failed error) (s : State) :
    ∃ t s', t.record.status ≠ .pass ∧
      replaySeed contract producerSha run measure true seed s = (none, s') ∧
      s'.journal = Function.update s.journal (trialId seed) (some t) ∧
      s'.completed = s.completed ∧ s'.failedRecords = s.failedRecords ++ [t] := by
  unfold replaySeed
  simp only [h, if_true]
  refine ⟨⟨finished contract (begun contract producerSha s.journal seed) error.status
    (error.payload seed), run⟩, _, ?_, rfl, ?_, rfl, rfl⟩
  · rw [finished, CaseError.status]
    cases error.infrastructure with
    | true => exact nofun
    | false => exact nofun
  · simp only [State.write, Function.update_idem]

variable (contract producerSha run) in
theorem replaySeed_ends {error : CaseError} (h : measure seed = .failed error) (s : State) :
    ∃ t s' scenarios, t.record.status ≠ .pass ∧
      replaySeed contract producerSha run measure false seed s = (some (.ok scenarios), s') ∧
      scenarios.status ≠ .pass ∧ scenarios.executionStatus = .incomplete ∧
      s'.journal = Function.update s.journal (trialId seed) (some t) := by
  have hstatus : error.status ≠ .pass := by
    rw [CaseError.status]
    cases error.infrastructure with
    | true => exact nofun
    | false => exact nofun
  unfold replaySeed
  simp only [h, Bool.false_eq_true, if_false]
  refine ⟨⟨finished contract (begun contract producerSha s.journal seed) error.status
    (error.payload seed), run⟩, _, _, hstatus, rfl, hstatus, rfl, ?_⟩
  simp only [State.write, Function.update_idem]

/-- The case does not end the replay: it is recalled, measured as a pass, or fails in a scan. -/
inductive Concludes (contract : Contract) (measure : Seed → Measured) (source : Trials) (scan : Bool)
    (seed : Seed) : Prop
  | recalled (h : Passed contract source seed)
  | passes (h : ¬Passed contract source seed) (h' : (measure seed).isPass = true)
  | fails (h : ¬Passed contract source seed) (error : CaseError) (h' : measure seed = .failed error)
      (hscan : scan = true)

def HasPacket (t : Trial) : Prop := (t.record.payload.lookup "observation_packet").isSome = true

/-- What a replay leaves that goes through all seeds. -/
structure Concluded (contract : Contract) (run : Path) (measure : Seed → Measured) (source : Trials)
    (seeds : List Seed) (s s' : State) : Prop where
  total : s'.completed.length + s'.failedRecords.length =
    s.completed.length + s.failedRecords.length + seeds.length
  kept : ∀ t ∈ s.completed, t ∈ s'.completed
  packets : (∀ t ∈ s.completed, HasPacket t) → ∀ t ∈ s'.completed, HasPacket t
  recalled : ∀ seed ∈ seeds, ∀ t, recalled contract source seed = some t → t ∈ s'.completed
  passes : ∀ seed ∈ seeds, ¬Passed contract source seed → (measure seed).isPass = true →
    ∃ t, PassOf contract run seed t ∧ s'.journal (trialId seed) = some t
  fails : ∀ seed ∈ seeds, ¬Passed contract source seed → (measure seed).isPass = false →
    ∃ t, t.record.status ≠ .pass ∧ s'.journal (trialId seed) = some t
  frame : ∀ id, id ∉ seeds.map trialId → s'.journal id = s.journal id
  unfailed : (∀ seed ∈ seeds, ¬Passed contract source seed → (measure seed).isPass = true) →
    s'.failedRecords = s.failedRecords
  failed : (s.failedRecords ≠ [] ∨ ∃ seed ∈ seeds, ¬Passed contract source seed ∧
    (measure seed).isPass = false) → s'.failedRecords ≠ []

variable {source : Trials} {s : State} {scan : Bool}

theorem concluded_nil (s : State) : Concluded contract run measure source [] s s where
  total := rfl
  kept _ ht := ht
  packets h := h
  recalled _ hseed := absurd hseed List.not_mem_nil
  passes _ hseed := absurd hseed List.not_mem_nil
  fails _ hseed := absurd hseed List.not_mem_nil
  frame _ _ := rfl
  unfailed _ := rfl
  failed h := h.resolve_right fun ⟨_, hseed, _⟩ => List.not_mem_nil hseed

theorem Concluded.cons {rest : List Seed} {s₁ s₂ s₃ : State}
    (h₁ : Concluded contract run measure source [seed] s₁ s₂)
    (h₂ : Concluded contract run measure source rest s₂ s₃)
    (hseed : trialId seed ∉ rest.map trialId) :
    Concluded contract run measure source (seed :: rest) s₁ s₃ where
  total := by
    rw [h₂.total, h₁.total, List.length_singleton, List.length_cons]
    omega
  kept t ht := h₂.kept t (h₁.kept t ht)
  packets h := h₂.packets (h₁.packets h)
  recalled := by
    intro seed' hmem t ht
    rcases List.mem_cons.1 hmem with rfl | hrest
    · exact h₂.kept t (h₁.recalled _ List.mem_cons_self t ht)
    · exact h₂.recalled seed' hrest t ht
  passes := by
    intro seed' hmem hnot hpass
    rcases List.mem_cons.1 hmem with rfl | hrest
    · obtain ⟨t, ht, hjournal⟩ := h₁.passes _ List.mem_cons_self hnot hpass
      exact ⟨t, ht, (h₂.frame _ hseed).trans hjournal⟩
    · exact h₂.passes seed' hrest hnot hpass
  fails := by
    intro seed' hmem hnot hfails
    rcases List.mem_cons.1 hmem with rfl | hrest
    · obtain ⟨t, ht, hjournal⟩ := h₁.fails _ List.mem_cons_self hnot hfails
      exact ⟨t, ht, (h₂.frame _ hseed).trans hjournal⟩
    · exact h₂.fails seed' hrest hnot hfails
  frame := by
    intro id hid
    rw [List.map_cons, List.mem_cons, not_or] at hid
    rw [h₂.frame id hid.2]
    refine h₁.frame id ?_
    rw [List.map_cons, List.map_nil, List.mem_singleton]
    exact hid.1
  unfailed h := by
    rw [h₂.unfailed fun seed' hrest => h seed' (List.mem_cons_of_mem _ hrest)]
    refine h₁.unfailed fun seed' hmem => ?_
    rw [List.mem_singleton.1 hmem]
    exact h seed List.mem_cons_self
  failed h := by
    rcases h with hbefore | ⟨seed', hmem, hfails⟩
    · exact h₂.failed (Or.inl (h₁.failed (Or.inl hbefore)))
    · rcases List.mem_cons.1 hmem with rfl | hrest
      · exact h₂.failed (Or.inl (h₁.failed (Or.inr ⟨_, List.mem_cons_self, hfails⟩)))
      · exact h₂.failed (Or.inr ⟨seed', hrest, hfails⟩)

variable (producerSha run) in
/-- What is done for one seed that does not end the replay. -/
theorem concluded_visit (hsource : ∀ t, recalled contract source seed = some t → HasPacket t)
    (hfresh : s.journal (trialId seed) = inheritPassingTrials source (trialId seed))
    (h : Concludes contract measure source scan seed) :
    ∃ s', visit contract producerSha run measure scan seed s = (none, s') ∧
      Concluded contract run measure source [seed] s s' := by
  have hframe : ∀ {s' : State} {t : Trial},
      s'.journal = Function.update s.journal (trialId seed) (some t) →
        ∀ id, id ∉ [seed].map trialId → s'.journal id = s.journal id := by
    intro s' t hjournal id hid
    rw [hjournal]
    exact Function.update_of_ne (fun heq => hid (List.mem_singleton.2 heq)) _ _
  have hnone : ¬Passed contract source seed → recalled contract source seed = none := by
    intro hnot
    rwa [Passed, Option.not_isSome_iff_eq_none] at hnot
  cases h with
  | recalled hpassed =>
    obtain ⟨t, ht⟩ := Option.isSome_iff_exists.1 hpassed
    refine ⟨_, visit_of_passed hfresh ht scan, ?_⟩
    exact {
      total := by simp only [List.length_append, List.length_singleton]; omega
      kept := fun t' ht' => List.mem_append_left _ ht'
      packets := fun hpackets => forall_mem_append_singleton hpackets (hsource t ht)
      recalled := by
        intro seed' hmem t' ht'
        rw [List.mem_singleton.1 hmem, ht] at ht'
        obtain rfl := Option.some.inj ht'
        exact List.mem_append_right _ List.mem_cons_self
      passes := fun seed' hmem hnot _ => absurd (List.mem_singleton.1 hmem ▸ hpassed) hnot
      fails := fun seed' hmem hnot _ => absurd (List.mem_singleton.1 hmem ▸ hpassed) hnot
      frame := fun id _ => rfl
      unfailed := fun _ => rfl
      failed := by
        rintro (hbefore | ⟨seed', hmem, hnot, -⟩)
        · exact hbefore
        · exact absurd (List.mem_singleton.1 hmem ▸ hpassed) hnot }
  | passes hnot hpass =>
    obtain ⟨t, s', ht, hreplay, hjournal, hcompleted, hfailed⟩ :=
      replaySeed_of_isPass contract producerSha run hpass scan s
    refine ⟨s', (visit_of_not_passed hfresh (hnone hnot) scan).trans hreplay, ?_⟩
    exact {
      total := by
        rw [hcompleted, hfailed, List.length_append, List.length_singleton, List.length_singleton]
        omega
      kept := fun t' ht' => hcompleted ▸ List.mem_append_left _ ht'
      packets := fun hpackets => hcompleted ▸ forall_mem_append_singleton hpackets ht.packet
      recalled := by
        intro seed' hmem t' ht'
        rw [List.mem_singleton.1 hmem, hnone hnot] at ht'
        cases ht'
      passes := by
        intro seed' hmem _ _
        rw [List.mem_singleton.1 hmem]
        exact ⟨t, ht, by rw [hjournal, Function.update_self]⟩
      fails := by
        intro seed' hmem _ hfails
        rw [List.mem_singleton.1 hmem, hpass] at hfails
        cases hfails
      frame := hframe hjournal
      unfailed := fun _ => hfailed
      failed := by
        rintro (hbefore | ⟨seed', hmem, -, hfails⟩)
        · rwa [hfailed]
        · rw [List.mem_singleton.1 hmem, hpass] at hfails
          cases hfails }
  | fails hnot error hmeasured hscan =>
    obtain ⟨t, s', hstatus, hreplay, hjournal, hcompleted, hfailed⟩ :=
      replaySeed_of_failed contract producerSha run hmeasured s
    have hpass : (measure seed).isPass = false := by
      rw [hmeasured]
      rfl
    subst hscan
    refine ⟨s', (visit_of_not_passed hfresh (hnone hnot) true).trans hreplay, ?_⟩
    exact {
      total := by
        rw [hcompleted, hfailed, List.length_append, List.length_singleton, List.length_singleton]
        omega
      kept := fun t' ht' => hcompleted ▸ ht'
      packets := fun hpackets => hcompleted ▸ hpackets
      recalled := by
        intro seed' hmem t' ht'
        rw [List.mem_singleton.1 hmem, hnone hnot] at ht'
        cases ht'
      passes := by
        intro seed' hmem _ hpass'
        rw [List.mem_singleton.1 hmem, hpass] at hpass'
        cases hpass'
      fails := by
        intro seed' hmem _ _
        rw [List.mem_singleton.1 hmem]
        exact ⟨t, hstatus, by rw [hjournal, Function.update_self]⟩
      frame := hframe hjournal
      unfailed := by
        intro hall
        have hpass' := hall seed List.mem_cons_self hnot
        rw [hpass] at hpass'
        cases hpass'
      failed := by
        intro _
        rw [hfailed]
        exact List.append_ne_nil_of_right_ne_nil _ (List.cons_ne_nil _ _) }

variable (producerSha run) in
/-- **A replay goes through all seeds** of which none ends it. -/
theorem concluded_visitAll {seeds : List Seed} (rest : List Seed) (n : ℕ)
    (hsource : ∀ seed ∈ seeds, ∀ t, recalled contract source seed = some t → HasPacket t)
    (hnodup : (seeds.map trialId).Nodup) (hfresh : Fresh source seeds s)
    (h : ∀ seed ∈ seeds, Concludes contract measure source scan seed) :
    ∃ s', visitAll contract producerSha run measure scan n (seeds ++ rest) s =
        visitAll contract producerSha run measure scan n rest s' ∧
      Concluded contract run measure source seeds s s' := by
  -- the seeds that remain hold what was inherited, since a visit writes under its own seed only
  induction seeds generalizing s with
  | nil => exact ⟨s, rfl, concluded_nil s⟩
  | cons seed seeds ih =>
    rw [List.map_cons, List.nodup_cons] at hnodup
    obtain ⟨hseed, hnodup⟩ := hnodup
    obtain ⟨s', hvisit, hfirst⟩ := concluded_visit producerSha run
      (hsource seed List.mem_cons_self) (hfresh seed List.mem_cons_self) (h seed List.mem_cons_self)
    have hrest : Fresh source seeds s' := by
      intro seed' hmem
      rw [← hfresh seed' (List.mem_cons_of_mem _ hmem)]
      refine hfirst.frame _ fun hid => hseed ?_
      rw [← List.mem_singleton.1 hid]
      exact List.mem_map_of_mem hmem
    obtain ⟨s'', hall, hlate⟩ := ih (fun seed' hmem => hsource seed' (List.mem_cons_of_mem _ hmem)) hnodup
      hrest fun seed' hmem => h seed' (List.mem_cons_of_mem _ hmem)
    refine ⟨s'', ?_, hfirst.cons hlate hseed⟩
    rw [List.cons_append, visitAll, hvisit]
    exact hall

variable (producerSha run) in
theorem concluded_replay {catalog : SeedCatalog} {journal : Trials}
    (hjournal : ∀ id, journal id = inheritPassingTrials source id)
    (hsource : ∀ seed ∈ catalog.seeds, ∀ t, recalled contract source seed = some t → HasPacket t)
    (h : ∀ seed ∈ catalog.seeds, Concludes contract measure source scan seed) :
    ∃ s', replayAllScenarios contract producerSha run measure scan catalog journal =
        (summarize scan catalog.seeds.length s', s') ∧
      Concluded contract run measure source catalog.seeds { journal } s' := by
  have hfresh : Fresh source catalog.seeds { journal } := fun seed _ => hjournal (trialId seed)
  obtain ⟨s', hall, hconcluded⟩ := concluded_visitAll producerSha run [] catalog.seeds.length hsource
    catalog.nodup hfresh h
  rw [List.append_nil] at hall
  exact ⟨s', hall, hconcluded⟩

theorem Concluded.hasPacket {seeds : List Seed} {s' : State}
    (h : Concluded contract run measure (fun _ => none) seeds s s') (hseed : seed ∈ seeds) {t : Trial}
    (ht : Readiness.recalled contract s'.journal seed = some t) : HasPacket t := by
  obtain ⟨hin, hpass⟩ := Option.filter_eq_some_iff.1 ht
  cases hmeasured : (measure seed).isPass with
  | true =>
    obtain ⟨t', ht', hjournal⟩ := h.passes seed hseed Bool.false_ne_true hmeasured
    obtain rfl := Option.some.inj (hin.symm.trans hjournal)
    exact ht'.packet
  | false =>
    obtain ⟨t', ht', hjournal⟩ := h.fails seed hseed Bool.false_ne_true hmeasured
    obtain rfl := Option.some.inj (hin.symm.trans hjournal)
    rw [Bool.and_eq_true, decide_eq_true_eq] at hpass
    exact absurd hpass.1 ht'

theorem summarize_scan (h : s.failedRecords ≠ []) (n : ℕ) :
    ∃ scenarios, summarize true n s = .ok scenarios ∧ scenarios.status = .metricFail ∧
      scenarios.executionStatus = .diagnosticScan := by
  rw [summarize, if_pos ⟨rfl, h⟩]
  exact ⟨_, rfl, rfl, rfl⟩

theorem summarize_pass (hlength : s.completed.length = 32)
    (hpackets : ∀ t ∈ s.completed, HasPacket t) (n : ℕ) :
    ∃ scenarios, summarize false n s = .ok scenarios ∧ scenarios.status = .pass ∧
      scenarios.trials = s.completed := by
  obtain ⟨packets, hok⟩ : ∃ packets, s.completed.mapM packetOf = .ok packets := by
    refine exists_mapM_eq_ok fun t ht => ?_
    obtain ⟨packet, hpacket⟩ := Option.isSome_iff_exists.1 (hpackets t ht)
    exact ⟨packet, by rw [packetOf, hpacket]⟩
  rw [summarize, if_neg (fun h => Bool.false_ne_true h.1), if_neg (not_not.2 hlength), hok]
  exact ⟨_, rfl, rfl, rfl⟩

end Conclusion

/-! ### A diagnostic scan that is promoted -/

/-- The directory that a preparation leaves whose replay has returned. -/
theorem prepare_of_scenarios {path : Path} {journal : Option Trials} {identity : Identity}
    {scenarios : Scenarios} {s : State} (hidentity : env.identity = .ok identity)
    (hprepared : env.prepared = .ok ())
    (hreplay : replayAllScenarios identity.contract identity.producerSha path env.measure
      options.continueOnCaseFailure identity.catalog (journal.getD fun _ => none) = (.ok scenarios, s)) :
    (scenarios.status ≠ .pass → (prepare env options path journal).2 =
        ⟨some s.journal, true, some scenarios, some scenarios.preflight⟩) ∧
      ∀ blockers, scenarios.status = .pass → env.evaluate scenarios = .ok blockers →
        (prepare env options path journal).2 =
          ⟨some s.journal, true, some scenarios, some (.completed blockers)⟩ := by
  simp only [prepare, hidentity, hprepared, hreplay]
  constructor
  · intro hstatus
    rw [if_pos hstatus]
    split
    · rfl
    · rfl
  · intro blockers hstatus hevaluate
    rw [if_neg (not_not.2 hstatus), hevaluate]
    dsimp only
    split
    · rfl
    · rfl

theorem runRetestBaselines_of_journal {path : Path} {journal : Option Trials}
    (hoptions : checkOptions options = .ok ())
    (hpath : validateOutputDir env dirs options.outputDir options.resume = .ok path)
    (hskip : options.skipLive = true) (hrepetitions : options.repetitions = none)
    (hjournal : inherit env dirs path options.inheritFrom = .ok journal) :
    (runRetestBaselines env options dirs).2 = put dirs path (prepare env options path journal).2 := by
  simp only [runRetestBaselines, hoptions, hpath, hskip, if_true, hrepetitions, Option.isSome_none,
    Bool.false_eq_true, if_false, hjournal]

def plainEnvironment (measure : Seed → Measured) : Environment where
  marked _ := false
  invalidatedName _ := false
  identity := .ok ⟨"producer", sampleContract, sampleCatalog⟩
  prepared := .ok ()
  measure
  evaluate _ := .ok []
  protectedUnchanged := .ok ()
  live := .ok ()

def measuredPass (_ : Seed) : Measured := .returned [("observation_packet", .obj [])]

/-- Every case but the last one is measured as a pass. -/
def lastFails (seed : Seed) : Measured :=
  if seed.number = 32 then .failed ⟨false, false, "the oracle did not pass", none⟩ else measuredPass seed

def preparation (path : Path) (scan : Bool) (inheritFrom : Option (Option Path)) : Options where
  outputDir := some path
  skipLive := true
  resume := false
  repetitions := none
  metricVersion := METRIC_VERSION
  continueOnCaseFailure := scan
  inheritFrom

theorem checkOptions_preparation (path : Path) (inheritFrom : Option (Option Path)) :
    checkOptions (preparation path false inheritFrom) = .ok () := by
  cases inheritFrom with
  | none => rfl
  | some source => rfl

/-- What a preparation leaves in which no case ends the replay, and none fails. -/
theorem passes_of_concludes {path : Path} {inheritFrom : Option (Option Path)}
    {journal : Option Trials} {source : Trials} {measure : Seed → Measured}
    (hpath : validateOutputDir (plainEnvironment measure) dirs (some path) false = .ok path)
    (hjournal : inherit (plainEnvironment measure) dirs path inheritFrom = .ok journal)
    (hsource : ∀ id, (journal.getD fun _ => none) id = inheritPassingTrials source id)
    (hpackets : ∀ seed ∈ sampleCatalog.seeds, ∀ t, recalled sampleContract source seed = some t →
      HasPacket t) (h : ∀ seed ∈ sampleCatalog.seeds,
      Passed sampleContract source seed ∨ (measure seed).isPass = true) :
    ∃ d scenarios, (runRetestBaselines (plainEnvironment measure) (preparation path false inheritFrom)
        dirs).2 = put dirs path d ∧ d.preflight = some (.completed []) ∧ d.scenarios = some scenarios ∧
      ∀ seed ∈ sampleCatalog.seeds, ∀ t, recalled sampleContract source seed = some t →
        t ∈ scenarios.trials := by
  have hconcludes : ∀ seed ∈ sampleCatalog.seeds, Concludes sampleContract measure source false seed := by
    intro seed hseed
    by_cases hpassed : Passed sampleContract source seed
    · exact .recalled hpassed
    · exact .passes hpassed ((h seed hseed).resolve_left hpassed)
  obtain ⟨s, hreplay, hconcluded⟩ := concluded_replay "producer" path hsource hpackets hconcludes
  have hfailed : s.failedRecords = [] :=
    hconcluded.unfailed fun seed hseed hnot => (h seed hseed).resolve_left hnot
  have hlength : s.completed.length = 32 := by
    have htotal := hconcluded.total
    rw [hfailed] at htotal
    exact htotal
  obtain ⟨scenarios, hok, hstatus, htrials⟩ := summarize_pass hlength
    (hconcluded.packets fun t ht => absurd ht List.not_mem_nil) sampleCatalog.seeds.length
  rw [hok] at hreplay
  refine ⟨⟨some s.journal, true, some scenarios, some (.completed [])⟩, scenarios, ?_, rfl, rfl, ?_⟩
  · rw [runRetestBaselines_of_journal (checkOptions_preparation path inheritFrom) hpath rfl rfl hjournal]
    exact congrArg (put dirs path) ((prepare_of_scenarios rfl rfl hreplay).2 [] hstatus rfl)
  · rw [htrials]
    exact hconcluded.recalled

/-- The scan leaves a diagnostic summary, passes with packets, and the first case as a pass of its own. -/
theorem exists_scan :
    ∃ d t journal, (runRetestBaselines (plainEnvironment lastFails) (preparation ["scan"] true none)
        []).2 = put [] ["scan"] d ∧ d.manifest = true ∧ d.preflight.any Preflight.isDiagnostic = true ∧
      d.journal = some journal ∧
      (∀ seed ∈ sampleCatalog.seeds, ∀ t, recalled sampleContract journal seed = some t → HasPacket t) ∧
      PassOf sampleContract ["scan"] (ScenarioMatrix.sampleSeed 1) t ∧
      recalled sampleContract journal (ScenarioMatrix.sampleSeed 1) = some t := by
  have hconcludes : ∀ seed ∈ sampleCatalog.seeds,
      Concludes sampleContract lastFails (fun _ => none) true seed := by
    intro seed _
    by_cases hlast : seed.number = 32
    · exact .fails Bool.false_ne_true _ (if_pos hlast) rfl
    · refine .passes Bool.false_ne_true ?_
      rw [lastFails, if_neg hlast]
      rfl
  have hempty : ∀ id, ((none : Option Trials).getD fun _ => none) id =
      inheritPassingTrials (fun _ => none) id := fun _ => rfl
  obtain ⟨s, hreplay, hconcluded⟩ := concluded_replay "producer" ["scan"] hempty
    (fun _ _ _ h => by cases h) hconcludes
  have hmem : ∀ n, 1 ≤ n → n ≤ 32 → ScenarioMatrix.sampleSeed n ∈ sampleCatalog.seeds := by
    intro n hone hlast
    exact List.mem_map_of_mem (List.mem_range'_1.2 ⟨hone, by omega⟩)
  have hfailed : s.failedRecords ≠ [] :=
    hconcluded.failed (Or.inr ⟨_, hmem 32 (by omega) le_rfl, Bool.false_ne_true, rfl⟩)
  obtain ⟨scenarios, hok, hstatus, hscan⟩ := summarize_scan hfailed sampleCatalog.seeds.length
  obtain ⟨t, ht, hjournal⟩ := hconcluded.passes _ (hmem 1 le_rfl (by omega)) Bool.false_ne_true rfl
  rw [hok] at hreplay
  have hnot : scenarios.status ≠ .pass := by
    rw [hstatus]
    intro h
    cases h
  refine ⟨⟨some s.journal, true, some scenarios, some scenarios.preflight⟩, t, s.journal, ?_, rfl, ?_,
    rfl, ?_, ht, ht.recalled_of_inherited hjournal⟩
  · rw [runRetestBaselines_of_journal rfl rfl rfl rfl rfl]
    have hleft := (@prepare_of_scenarios (plainEnvironment lastFails) (preparation ["scan"] true none)
      ["scan"] none ⟨"producer", sampleContract, sampleCatalog⟩ scenarios s rfl rfl hreplay).1 hnot
    exact congrArg (put [] ["scan"]) hleft
  · rw [Option.any_some, Scenarios.preflight, if_pos hscan]
    rfl
  · exact fun seed hseed t' hrecalled => hconcluded.hasPacket hseed hrecalled

/-- A case ends the replay of the run, and the passes before it stay in the journal. -/
theorem exists_failing
    (hpath : validateOutputDir (plainEnvironment lastFails) dirs (some ["failed"]) false = .ok ["failed"]) :
    ∃ d t journal, (runRetestBaselines (plainEnvironment lastFails) (preparation ["failed"] false none)
        dirs).2 = put dirs ["failed"] d ∧ d.manifest = true ∧
      (∃ code, d.preflight = some (.incomplete code)) ∧ d.journal = some journal ∧
      (∀ seed ∈ sampleCatalog.seeds, ∀ t, recalled sampleContract journal seed = some t → HasPacket t) ∧
      PassOf sampleContract ["failed"] (ScenarioMatrix.sampleSeed 1) t ∧
      recalled sampleContract journal (ScenarioMatrix.sampleSeed 1) = some t := by
  let seeds := (List.range' 1 31).map ScenarioMatrix.sampleSeed
  let last := ScenarioMatrix.sampleSeed 32
  have hseeds : sampleCatalog.seeds = seeds ++ [last] := rfl
  have hnodup : (seeds.map trialId).Nodup ∧ trialId last ∉ seeds.map trialId := by
    have hall := sampleCatalog.nodup
    rw [hseeds, List.map_append, List.map_singleton, List.nodup_append] at hall
    exact ⟨hall.1, fun hmem => hall.2.2 _ hmem _ (List.mem_singleton_self _) rfl⟩
  have hpass : ∀ seed ∈ seeds, (lastFails seed).isPass = true := by
    intro seed hseed
    obtain ⟨n, hn, rfl⟩ := List.mem_map.1 hseed
    have hne : (ScenarioMatrix.sampleSeed n).number ≠ 32 := by
      have hlt := (List.mem_range'_1.1 hn).2
      exact fun heq => absurd (show n = 32 from heq) (by omega)
    rw [lastFails, if_neg hne]
    rfl
  have hconcludes : ∀ seed ∈ seeds, Concludes sampleContract lastFails (fun _ => none) false seed :=
    fun seed hseed => .passes Bool.false_ne_true (hpass seed hseed)
  have hfresh : Fresh (fun _ => none) seeds { journal := fun _ => none } := fun _ _ => rfl
  obtain ⟨s, hall, hconcluded⟩ := concluded_visitAll "producer" ["failed"] [last] 32
    (fun _ _ _ h => by cases h) hnodup.1 hfresh hconcludes
  -- the last case is measured anew, fails, and ends the replay
  have hlast : s.journal (trialId last) = inheritPassingTrials (fun _ => none) (trialId last) :=
    hconcluded.frame _ hnodup.2
  have hmeasured : lastFails last = .failed ⟨false, false, "the oracle did not pass", none⟩ := rfl
  obtain ⟨failed, s', scenarios, hfailed, hends, hstatus, hexecution, hjournal⟩ :=
    replaySeed_ends sampleContract "producer" ["failed"] hmeasured s
  have hreplay : replayAllScenarios sampleContract "producer" ["failed"] lastFails false sampleCatalog
      (fun _ => none) = (.ok scenarios, s') := by
    rw [replayAllScenarios, hseeds]
    refine hall.trans ?_
    rw [visitAll, visit_of_not_passed hlast rfl, hends]
  have hfirst : ScenarioMatrix.sampleSeed 1 ∈ seeds := List.mem_cons_self
  have hkept : ∀ seed ∈ seeds, s'.journal (trialId seed) = s.journal (trialId seed) := by
    intro seed hseed
    rw [hjournal]
    refine Function.update_of_ne (fun heq => hnodup.2 ?_) _ _
    rw [← heq]
    exact List.mem_map_of_mem hseed
  obtain ⟨t, ht, hin⟩ := hconcluded.passes _ hfirst Bool.false_ne_true (hpass _ hfirst)
  refine ⟨⟨some s'.journal, true, some scenarios, some scenarios.preflight⟩, t, s'.journal, ?_, rfl, ?_,
    rfl, ?_, ht, ht.recalled_of_inherited ((hkept _ hfirst).trans hin)⟩
  · rw [runRetestBaselines_of_journal rfl hpath rfl rfl rfl]
    have hleft := (@prepare_of_scenarios (plainEnvironment lastFails) (preparation ["failed"] false none)
      ["failed"] none ⟨"producer", sampleContract, sampleCatalog⟩ scenarios s' rfl rfl hreplay).1 hstatus
    exact congrArg (put dirs ["failed"]) hleft
  · rw [Scenarios.preflight, hexecution]
    exact ⟨_, rfl⟩
  · intro seed hseed t' hrecalled
    rw [hseeds] at hseed
    rcases List.mem_append.1 hseed with hseed | hseed
    · exact hconcluded.hasPacket hseed ((recalled_congr (hkept seed hseed)).symm.trans hrecalled)
    · cases List.mem_singleton.1 hseed
      obtain ⟨hin', hpassed⟩ := Option.filter_eq_some_iff.1 hrecalled
      rw [hjournal, Function.update_self] at hin'
      cases hin'
      rw [Bool.and_eq_true, decide_eq_true_eq] at hpassed
      exact absurd hpassed.1 hfailed

/-- A run may take its source from a directory that has a journal and a manifest. -/
theorem inherit_of_journal {measure : Seed → Measured} {source path : Path} {d : RunDirectory}
    {journal : Trials} (hname : source ≠ [] ∧ source.head? ≠ some "invalidated")
    (hmanifest : d.manifest = true) (hjournal : d.journal = some journal) (hpath : source ≠ path) :
    inherit (plainEnvironment measure) (put dirs source d) path (some (some source)) =
      .ok (some (inheritPassingTrials journal)) := by
  have hsource : validateOutputDir (plainEnvironment measure) (put dirs source d) (some source) true =
      .ok source := by
    have hempty : d.isEmpty = false := by
      rw [RunDirectory.isEmpty, hjournal]
      rfl
    have hoccupied : occupied (put dirs source d) source = true :=
      occupied_iff.2 ⟨_, List.mem_cons_self, List.prefix_refl _, Or.inr hempty⟩
    have hactive : ((put dirs source d).lookup source).any RunDirectory.manifest = true := by
      rw [lookup_put_self]
      exact hmanifest
    simp [validateOutputDir, plainEnvironment, hname, hoccupied, hactive]
    rfl
  have hin : ((put dirs source d).lookup source).bind RunDirectory.journal = some journal := by
    rw [lookup_put_self]
    exact hjournal
  refine bind_eq_ok.2 ⟨source, hsource, check_eq_ok.2 ⟨hpath, ?_⟩⟩
  rw [hin]
  rfl

/-- After a scan and a run that fails, a run inherits the passes of the one that failed. -/
theorem unpromoted_of_sources_inherited : ∃ dirs scan failed gate scenarios t,
    Reaches invoke SoundSource [] dirs ∧
      dirs.lookup ["scan"] = some scan ∧ scan.preflight.any Preflight.isDiagnostic = true ∧
      dirs.lookup ["failed"] = some failed ∧ failed.preflight.any Preflight.isPass = false ∧
      dirs.lookup ["gate"] = some gate ∧ gate.preflight = some (.completed []) ∧
      gate.scenarios = some scenarios ∧ t ∈ scenarios.trials ∧ t.run = ["failed"] ∧ Unpromoted dirs := by
  obtain ⟨scan, -, -, hscan, -, hdiagnostic, -⟩ := exists_scan
  obtain ⟨failed, t, journal, hfailed, hmanifest, ⟨code, hcode⟩, hjournal, hpackets, ht, hrecalled⟩ :=
    @exists_failing (put [] ["scan"] scan) rfl
  obtain ⟨gate, scenarios, hgate, hpass, hscenarios, htrials⟩ :=
    @passes_of_concludes (put (put [] ["scan"] scan) ["failed"] failed) ["gate"] (some (some ["failed"]))
      _ journal measuredPass rfl (inherit_of_journal ⟨by decide, by decide⟩ hmanifest hjournal (by decide))
      (fun _ => rfl) hpackets (fun _ _ => Or.inr rfl)
  have hreaches : Reaches invoke SoundSource []
      (put (put (put [] ["scan"] scan) ["failed"] failed) ["gate"] gate) := by
    refine ((Reaches.single (l := (plainEnvironment lastFails, preparation ["scan"] true none)) ?_
      (congrArg some hscan)).tail (l := (plainEnvironment lastFails, preparation ["failed"] false none)) ?_
      (congrArg some hfailed)).tail (l := (plainEnvironment measuredPass,
        preparation ["gate"] false (some (some ["failed"])))) ?_ (congrArg some hgate)
    · exact fun source hsource => by cases hsource
    · exact fun source hsource => by cases hsource
    · rintro source hsource hsourceScan
      cases hsource
      rw [DiagnosticScan, lookup_put_self, Option.bind_some, hcode] at hsourceScan
      cases hsourceScan
  have hseed : ScenarioMatrix.sampleSeed 1 ∈ sampleCatalog.seeds :=
    List.mem_map_of_mem (List.mem_range'_1.2 ⟨le_rfl, by omega⟩)
  refine ⟨_, scan, failed, gate, scenarios, t, hreaches, rfl, hdiagnostic, rfl, ?_, rfl, hpass, hscenarios,
    htrials _ hseed t hrecalled, ht.executed, unpromoted_of_sources hreaches⟩
  rw [hcode]
  rfl

/-- **A pass of a diagnostic scan is promoted** by a preparation that inherits it. -/
theorem not_unpromoted : ¬∀ dirs, Reachable invoke [] dirs → Unpromoted dirs := by
  intro h
  obtain ⟨scan, t, journal, hscan, hmanifest, hdiagnostic, hjournal, hpackets, hpassOf, hrecalled⟩ :=
    exists_scan
  have hpath : validateOutputDir (plainEnvironment measuredPass) (put [] ["scan"] scan)
      (some ["gate"]) false = .ok ["gate"] := rfl
  have hinherit : inherit (plainEnvironment measuredPass) (put [] ["scan"] scan) ["gate"]
      (some (some ["scan"])) = .ok (some (inheritPassingTrials journal)) :=
    inherit_of_journal ⟨by decide, by decide⟩ hmanifest hjournal (by decide)
  obtain ⟨d, scenarios, hrun, hpass, hscenarios, htrials⟩ :=
    passes_of_concludes hpath hinherit (fun _ => rfl) hpackets fun _ _ => Or.inr rfl
  have hreaches : Reachable invoke [] (put (put [] ["scan"] scan) ["gate"] d) :=
    (Reaches.single (l := (plainEnvironment lastFails, preparation ["scan"] true none)) trivial
      (congrArg some hscan)).tail (l := (plainEnvironment measuredPass,
        preparation ["gate"] false (some (some ["scan"])))) trivial (congrArg some hrun)
  have hseed : ScenarioMatrix.sampleSeed 1 ∈ sampleCatalog.seeds :=
    List.mem_map_of_mem (List.mem_range'_1.2 ⟨le_rfl, by omega⟩)
  refine h _ hreaches ["gate"] d (.completed []) scenarios rfl hpass rfl hscenarios t
    (htrials _ hseed t hrecalled) ?_
  rw [hpassOf.executed]
  exact hdiagnostic

end Readiness
