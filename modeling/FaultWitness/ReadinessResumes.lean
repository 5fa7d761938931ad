/-
**Resuming a readiness run.**

The second phase of `run_retest_baselines_v3` reads the artifacts that the preparation has left in the
directory of the run, and computes an aggregate from them and from live calls.  `run-manifest.json` has
frozen the digests of three artifacts.  Of these `_assert_resume_identity_v3` compares the bytes of the
scenarios with their digest, and the definition of the metric with the recomputed one as a document; the
rows of the deterministic baseline are read as they are.

The files of the directory are bytes.  What the live calls and the aggregation come to is an input.

Main definitions:

* `ReadinessResume.assertResumeIdentity` — the function `_assert_resume_identity_v3`;
* `ReadinessResume.resume` — the resume of a run, with whether live calls are made;
* `ReadinessResume.Unchanged` — an artifact has the bytes whose digest the manifest records;
* `ReadinessResume.Admits` — the checks that look at neither the definition nor the rows.

Main results:

* `ReadinessResume.liveCalls_iff` — when live calls are made;
* `ReadinessResume.truthful_iff` — **every resume computes from frozen artifacts exactly if the two
  artifacts whose bytes are not compared are unchanged or cannot be used**.
-/

import FaultWitness.ScenarioRuns

set_option autoImplicit false

namespace ReadinessResume

open Python
open ScenarioRuns (Floats equal)

/-! ### Files -/

/-- The files of a run directory by their names. -/
abbrev Files := String → Option ByteArray

/-- An object of JSON. -/
abbrev Fields := List (String × Json)

inductive Error
  | governance (text : String)
  | keyError
  /-- Anything else that is raised. -/
  | other

/-- The function `_read_json_v3`.  Bytes that are no UTF-8 raise a `UnicodeDecodeError`. -/
def readJson (files : Files) (name : String) : Except Error Fields :=
  match files name with
  | none => .error (.governance ("metric v3 artifact is unreadable: " ++ name))
  | some raw =>
    match String.fromUTF8? raw with
    | none => .error .other
    | some text =>
      match Json.loads text with
      | none => .error (.governance ("metric v3 artifact is unreadable: " ++ name))
      | some (.obj fields) => .ok fields
      | some _ => .error (.governance ("metric v3 artifact root is not an object: " ++ name))

/-- What a resume takes from the library and from functions on documents. -/
structure Library where
  sha256 : ByteArray → String
  floats : Floats
  /-- The function `str`, of a value that is no text. -/
  str : Json → String
  datasetDigest : Fields → Except Error String

/-- What a resume meets. -/
structure Environment where
  /-- The checks of `_validate_output_dir_v3`. -/
  validated : Except Error Unit
  /-- The result of `_run_identity_v3`. -/
  identity : Except Error Fields
  /-- The definition of the metric, recomputed. -/
  definition : Fields
  /-- The document of the live calls, which are made for a producer, a dataset, the scenarios and a
  number of repetitions. -/
  live : String → String → Fields → ℤ → Except Error Fields
  /-- The aggregate of scenarios, deterministic rows and live document. -/
  aggregateReference : Fields → Fields → Fields → String → Except Error Fields
  /-- What follows when the aggregate is written. -/
  closing : Except Error Unit

variable (lib : Library) (env : Environment)

/-! ### The identity of a run -/

/-- `document.get(key)`. -/
def get (document : Fields) (key : String) : Json := (document.lookup key).getD .null

/-- `document[key]`. -/
def member (document : Fields) (key : String) : Except Error Json :=
  match document.lookup key with
  | none => .error .keyError
  | some value => .ok value

/-- Whether a value is false in a condition. -/
def isFalsy : Json → Bool
  | .null => true
  | .bool b => !b
  | .int n => n = 0
  | .float repr => repr = "0.0" || repr = "-0.0"
  | .str text => text = ""
  | .arr items => items.isEmpty
  | .obj fields => fields.isEmpty

def text : Json → String
  | .str s => s
  | value => lib.str value

/-- The digest that the manifest records under a key: `str(manifest.get(key) or "")`. -/
def recordedDigest (manifest : Fields) (key : String) : String :=
  if isFalsy (get manifest key) then "" else text lib (get manifest key)

def identityKeys : List String :=
  ["metric_version", "wire_schema_version", "producer_sha", "relevant_source_digest", "config_digest",
    "amd_digest", "metric_definition_digest", "checkpoint_identities"]

def isDiagnostic (summary : Fields) : Bool :=
  (match summary.lookup "diagnostic_only" with
    | some (.bool true) => true
    | _ => false) ||
  (match summary.lookup "promotable_to_gate_evidence" with
    | some (.bool false) => true
    | _ => false) ||
  match summary.lookup "execution_status" with
  | some (.str status) => status = "diagnostic_scan"
  | _ => false

/-- A member of a document is a text. -/
def isText (document : Fields) (key value : String) : Bool :=
  match document.lookup key with
  | some (.str s) => s = value
  | _ => false

def diagnosticText : String :=
  "metric v3 cannot resume a diagnostic-only scan; readiness requires a " ++
    "new empty directory and a clean 32-case replay"

/-- The check of the summary before anything else, if there is one. -/
def checkProbe (files : Files) : Except Error Unit :=
  match files "preflight-summary.json" with
  | none => .ok ()
  | some _ => do
    let probe ← readJson files "preflight-summary.json"
    if isDiagnostic probe then throw (.governance diagnosticText)

def checkKeys (manifest current : Fields) : Except Error Unit :=
  identityKeys.forM fun key =>
    if ¬equal lib.floats (get manifest key) (get current key) then
      throw (.governance ("metric v3 --resume identity mismatch: " ++ key))
    else pure ()

/-- The comparison of the bytes of the scenarios. -/
def checkScenarioBytes (files : Files) (manifest : Fields) : Except Error Unit :=
  match files "scenarios.json" with
  | none => .error .other
  | some raw =>
    if lib.sha256 raw ≠ recordedDigest lib manifest "scenario_artifact_digest" then
      .error (.governance "metric v3 scenario artifact bytes changed after preflight")
    else .ok ()

def assertResumeIdentity (files : Files) : Except Error (Fields × Fields) := do
  let manifest ← readJson files "run-manifest.json"
  checkProbe files
  let current ← env.identity
  checkKeys lib manifest current
  let frozenDefinition ← readJson files "metric-definition.json"
  if ¬equal lib.floats (.obj frozenDefinition) (.obj env.definition) then
    throw (.governance "metric v3 runtime definition differs from frozen preflight")
  checkScenarioBytes lib files manifest
  let scenarios ← readJson files "scenarios.json"
  let datasetDigest ← lib.datasetDigest scenarios
  if ¬equal lib.floats (.str datasetDigest) (get manifest "dataset_digest") then
    throw (.governance "metric v3 dataset digest changed after preflight")
  if isText scenarios "execution_status" "diagnostic_scan" then throw (.governance diagnosticText)
  let preflight ← readJson files "preflight-summary.json"
  if ¬isText preflight "preflight_status" "pass" then
    throw (.governance "metric v3 live cannot resume a blocked preflight")
  return (manifest, scenarios)

/-! ### The resume -/

/-- Five repetitions need an aggregate of three that authorizes them. -/
def checkExtension (files : Files) (repetitions : ℤ) : Except Error Unit :=
  if repetitions = 5 then
    match files "aggregate-r3.json" with
    | none => .error (.governance "metric v3 r5 requires a completed r3 aggregate")
    | some _ => do
      let aggregate ← readJson files "aggregate-r3.json"
      match aggregate.lookup "extension_authorized" with
      | some (.bool true) => return ()
      | _ => throw (.governance "metric v3 r5 is not authorized by the frozen r3 rule")
  else .ok ()

/-- What live calls and aggregation are made from. -/
structure Inputs where
  scenarios : Fields
  deterministic : Fields
  datasetDigest : String
  producerSha : String
  repetitions : ℤ

/-- What is done before the live calls. -/
def inputs (files : Files) (repetitions : Option ℤ) : Except Error Inputs := do
  env.validated
  match repetitions with
  | none => throw (.governance "metric v3 live resume requires --repetitions 3 or 5")
  | some repetitions =>
    if ¬(repetitions = 3 ∨ repetitions = 5) then
      throw (.governance "metric v3 live resume requires --repetitions 3 or 5")
    let (manifest, scenarios) ← assertResumeIdentity lib env files
    checkExtension files repetitions
    let _ ← member manifest "protected_assets_start"
    let deterministic ← readJson files "deterministic.json"
    let datasetDigest ← member manifest "dataset_digest"
    let producerSha ← member manifest "producer_sha"
    return ⟨scenarios, deterministic, text lib datasetDigest, text lib producerSha, repetitions⟩

/-- How a resume ends, whether live calls were made, and the aggregate that it has written. -/
structure Outcome where
  result : Except Error Unit
  liveCalls : Bool := false
  aggregate : Option Fields := none

def shouldExtend (aggregate : Fields) : Bool :=
  equal lib.floats (get aggregate "repetitions") (.int 3) && isText aggregate "readiness_status" "blocked" &&
    equal lib.floats (get aggregate "readiness_blockers")
      (.arr [.str "deterministic_live_significance_not_established"])

def resume (files : Files) (repetitions : Option ℤ) : Outcome :=
  match inputs lib env files repetitions with
  | .error err => { result := .error err }
  | .ok i =>
    match env.live i.producerSha i.datasetDigest i.scenarios i.repetitions with
    | .error err => { result := .error err, liveCalls := true }
    | .ok live =>
      if ¬isText live "status" "pass" then
        { result := .error (.governance "metric v3 live reference has resumable failures")
          liveCalls := true }
      else
        match env.aggregateReference i.scenarios i.deterministic live i.datasetDigest with
        | .error err => { result := .error err, liveCalls := true }
        | .ok aggregate =>
          { result := env.closing
            liveCalls := true
            aggregate := some (FlagDocuments.assign aggregate "extension_authorized"
              (.bool (shouldExtend lib aggregate))) }

/-! ### Frozen artifacts -/

/-- The artifact has the bytes whose digest the manifest records. -/
def Unchanged (files : Files) (name key : String) : Prop :=
  ∃ manifest raw, readJson files "run-manifest.json" = .ok manifest ∧ files name = some raw ∧
    lib.sha256 raw = recordedDigest lib manifest key

structure Frozen (files : Files) : Prop where
  definition : Unchanged lib files "metric-definition.json" "metric_definition_artifact_digest"
  scenarios : Unchanged lib files "scenarios.json" "scenario_artifact_digest"
  deterministic : Unchanged lib files "deterministic.json" "deterministic_artifact_digest"

/-- What is promised of a resume: it returns, writes an aggregate and makes live calls from frozen
artifacts only. -/
def Truthful (files : Files) (repetitions : Option ℤ) : Prop :=
  ((resume lib env files repetitions).result = .ok () ∨
      (resume lib env files repetitions).aggregate ≠ none → Frozen lib files) ∧
    ((resume lib env files repetitions).liveCalls = true → Frozen lib files)

/-- The checks that look at neither the definition nor the deterministic rows. -/
structure Admits (files : Files) (repetitions : Option ℤ) : Prop where
  validated : env.validated = .ok ()
  repetitions : ∃ n, repetitions = some n ∧ (n = 3 ∨ n = 5) ∧ checkExtension files n = .ok ()
  artifacts : ∃ manifest current scenarios digest preflight,
    readJson files "run-manifest.json" = .ok manifest ∧ checkProbe files = .ok () ∧
      env.identity = .ok current ∧ checkKeys lib manifest current = .ok () ∧
      checkScenarioBytes lib files manifest = .ok () ∧
      readJson files "scenarios.json" = .ok scenarios ∧ lib.datasetDigest scenarios = .ok digest ∧
      equal lib.floats (.str digest) (get manifest "dataset_digest") = true ∧
      isText scenarios "execution_status" "diagnostic_scan" = false ∧
      readJson files "preflight-summary.json" = .ok preflight ∧
      isText preflight "preflight_status" "pass" = true ∧
      (manifest.lookup "protected_assets_start").isSome = true ∧
      (manifest.lookup "producer_sha").isSome = true

/-- The definition in the directory is the recomputed one, as a document. -/
def DefinitionReads (files : Files) : Prop :=
  ∃ definition, readJson files "metric-definition.json" = .ok definition ∧
    equal lib.floats (.obj definition) (.obj env.definition) = true

/-- The deterministic rows can be read. -/
def DeterministicReads (files : Files) : Prop :=
  ∃ rows, readJson files "deterministic.json" = .ok rows

variable {lib env}

variable {document : Fields} {files : Files} {repetitions : Option ℤ}

/-! ### When live calls are made -/

theorem member_eq_ok {key : String} {value : Json} :
    member document key = .ok value ↔ document.lookup key = some value := by
  rw [member]
  cases document.lookup key with
  | none => simp
  | some value' => simp

theorem assertResumeIdentity_eq_ok {manifest scenarios : Fields} :
    assertResumeIdentity lib env files = .ok (manifest, scenarios) ↔
      readJson files "run-manifest.json" = .ok manifest ∧ checkProbe files = .ok () ∧
      (∃ current, env.identity = .ok current ∧ checkKeys lib manifest current = .ok ()) ∧
      DefinitionReads lib env files ∧ checkScenarioBytes lib files manifest = .ok () ∧
      readJson files "scenarios.json" = .ok scenarios ∧
      (∃ digest, lib.datasetDigest scenarios = .ok digest ∧
        equal lib.floats (.str digest) (get manifest "dataset_digest") = true) ∧
      isText scenarios "execution_status" "diagnostic_scan" = false ∧
      ∃ preflight, readJson files "preflight-summary.json" = .ok preflight ∧
        isText preflight "preflight_status" "pass" = true := by
  unfold assertResumeIdentity DefinitionReads
  constructor
  · intro h
    obtain ⟨manifest', hmanifest, h⟩ := bind_eq_ok.1 h
    obtain ⟨⟨⟩, hprobe, h⟩ := bind_eq_ok.1 h
    obtain ⟨current, hcurrent, h⟩ := bind_eq_ok.1 h
    obtain ⟨⟨⟩, hkeys, h⟩ := bind_eq_ok.1 h
    obtain ⟨definition, hdefinition, h⟩ := bind_eq_ok.1 h
    obtain ⟨hequal, h⟩ := check_eq_ok.1 h
    obtain ⟨⟨⟩, hbytes, h⟩ := bind_eq_ok.1 h
    obtain ⟨scenarios', hscenarios, h⟩ := bind_eq_ok.1 h
    obtain ⟨digest, hdigest, h⟩ := bind_eq_ok.1 h
    obtain ⟨hdataset, h⟩ := check_eq_ok.1 h
    obtain ⟨hscan, h⟩ := check_eq_ok.1 h
    obtain ⟨preflight, hpreflight, h⟩ := bind_eq_ok.1 h
    obtain ⟨hpass, h⟩ := check_eq_ok.1 h
    cases h
    exact ⟨hmanifest, hprobe, ⟨current, hcurrent, hkeys⟩, ⟨definition, hdefinition, not_not.1 hequal⟩,
      hbytes, hscenarios, ⟨digest, hdigest, not_not.1 hdataset⟩, Bool.not_eq_true _ ▸ hscan, preflight,
      hpreflight, not_not.1 hpass⟩
  · rintro ⟨hmanifest, hprobe, ⟨current, hcurrent, hkeys⟩, ⟨definition, hdefinition, hequal⟩, hbytes,
      hscenarios, ⟨digest, hdigest, hdataset⟩, hscan, preflight, hpreflight, hpass⟩
    refine bind_eq_ok.2 ⟨_, hmanifest, bind_eq_ok.2 ⟨(), hprobe, bind_eq_ok.2 ⟨_, hcurrent,
      bind_eq_ok.2 ⟨(), hkeys, bind_eq_ok.2 ⟨_, hdefinition, check_eq_ok.2 ⟨not_not.2 hequal,
      bind_eq_ok.2 ⟨(), hbytes, bind_eq_ok.2 ⟨_, hscenarios, bind_eq_ok.2 ⟨_, hdigest,
      check_eq_ok.2 ⟨not_not.2 hdataset, check_eq_ok.2 ⟨?_, bind_eq_ok.2 ⟨_, hpreflight,
      check_eq_ok.2 ⟨not_not.2 hpass, rfl⟩⟩⟩⟩⟩⟩⟩⟩⟩⟩⟩⟩⟩
    rw [hscan]
    exact Bool.false_ne_true

/-- What stands before the live calls ends normally exactly if every check passes. -/
theorem inputs_eq_ok :
    (∃ i, inputs lib env files repetitions = .ok i) ↔
      Admits lib env files repetitions ∧ DefinitionReads lib env files ∧ DeterministicReads files := by
  unfold inputs
  constructor
  · rintro ⟨i, h⟩
    obtain ⟨⟨⟩, hvalidated, h⟩ := bind_eq_ok.1 h
    cases repetitions with
    | none => cases h
    | some n =>
      obtain ⟨hn, h⟩ := check_eq_ok.1 h
      obtain ⟨⟨manifest, scenarios⟩, hidentity, h⟩ := bind_eq_ok.1 h
      obtain ⟨⟨⟩, hextension, h⟩ := bind_eq_ok.1 h
      obtain ⟨start, hstart, h⟩ := bind_eq_ok.1 h
      obtain ⟨rows, hrows, h⟩ := bind_eq_ok.1 h
      obtain ⟨dataset, -, h⟩ := bind_eq_ok.1 h
      obtain ⟨producer, hproducer, h⟩ := bind_eq_ok.1 h
      obtain ⟨hmanifest, hprobe, ⟨current, hcurrent, hkeys⟩, hdefinition, hbytes, hscenarios,
        ⟨digest, hdigest, hdataset⟩, hscan, preflight, hpreflight, hpass⟩ :=
        assertResumeIdentity_eq_ok.1 hidentity
      refine ⟨⟨hvalidated, ⟨n, rfl, not_not.1 hn, hextension⟩, manifest, current, scenarios, digest,
        preflight, hmanifest, hprobe, hcurrent, hkeys, hbytes, hscenarios, hdigest, hdataset, hscan,
        hpreflight, hpass, ?_, ?_⟩, hdefinition, rows, hrows⟩
      · rw [member_eq_ok.1 hstart, Option.isSome_some]
      · rw [member_eq_ok.1 hproducer, Option.isSome_some]
  · rintro ⟨⟨hvalidated, ⟨n, rfl, hn, hextension⟩, manifest, current, scenarios, digest, preflight,
      hmanifest, hprobe, hcurrent, hkeys, hbytes, hscenarios, hdigest, hdataset, hscan, hpreflight, hpass,
      hstart, hproducer⟩, hdefinition, rows, hrows⟩
    have hidentity : assertResumeIdentity lib env files = .ok (manifest, scenarios) :=
      assertResumeIdentity_eq_ok.2 ⟨hmanifest, hprobe, ⟨current, hcurrent, hkeys⟩, hdefinition, hbytes,
        hscenarios, ⟨digest, hdigest, hdataset⟩, hscan, preflight, hpreflight, hpass⟩
    obtain ⟨start, hstart⟩ := Option.isSome_iff_exists.1 hstart
    obtain ⟨producer, hproducer⟩ := Option.isSome_iff_exists.1 hproducer
    -- A digest is equal to no value but a text, so the manifest has the member.
    obtain ⟨dataset, hmember⟩ : ∃ dataset, manifest.lookup "dataset_digest" = some dataset := by
      rw [get] at hdataset
      cases hlookup : manifest.lookup "dataset_digest" with
      | none =>
        rw [hlookup, Option.getD_none, equal] at hdataset
        · cases hdataset
        all_goals nofun
      | some dataset => exact ⟨dataset, rfl⟩
    exact ⟨_, bind_eq_ok.2 ⟨(), hvalidated, check_eq_ok.2 ⟨not_not.2 hn, bind_eq_ok.2 ⟨_, hidentity,
      bind_eq_ok.2 ⟨(), hextension, bind_eq_ok.2 ⟨start, member_eq_ok.2 hstart, bind_eq_ok.2 ⟨rows, hrows,
      bind_eq_ok.2 ⟨dataset, member_eq_ok.2 hmember, bind_eq_ok.2 ⟨producer, member_eq_ok.2 hproducer,
      rfl⟩⟩⟩⟩⟩⟩⟩⟩⟩

theorem resume_of_error {err : Error} (h : inputs lib env files repetitions = .error err) :
    resume lib env files repetitions = { result := .error err } := by
  rw [resume, h]

theorem liveCalls_of_ok {i : Inputs} (h : inputs lib env files repetitions = .ok i) :
    (resume lib env files repetitions).liveCalls = true := by
  rw [resume, h]
  dsimp only
  split
  · rfl
  · split
    · rfl
    · split
      · rfl
      · rfl

/-- **Live calls are made exactly if all checks pass**, the two that read documents without comparing their
bytes among them. -/
theorem liveCalls_iff :
    (resume lib env files repetitions).liveCalls = true ↔
      Admits lib env files repetitions ∧ DefinitionReads lib env files ∧ DeterministicReads files := by
  rw [← inputs_eq_ok]
  constructor
  · intro h
    cases hinputs : inputs lib env files repetitions with
    | error err =>
      rw [resume_of_error hinputs] at h
      cases h
    | ok i => exact ⟨i, rfl⟩
  · rintro ⟨i, hinputs⟩
    exact liveCalls_of_ok hinputs

theorem liveCalls_of_result (h : (resume lib env files repetitions).result = .ok () ∨
      (resume lib env files repetitions).aggregate ≠ none) :
    (resume lib env files repetitions).liveCalls = true := by
  cases hinputs : inputs lib env files repetitions with
  | error err =>
    rw [resume_of_error hinputs] at h
    rcases h with h | h
    · cases h
    · exact absurd rfl h
  | ok i => exact liveCalls_of_ok hinputs

theorem Admits.scenarios_unchanged (h : Admits lib env files repetitions) :
    Unchanged lib files "scenarios.json" "scenario_artifact_digest" := by
  obtain ⟨manifest, _, _, _, _, hmanifest, -, -, -, hbytes, -⟩ := h.artifacts
  rw [checkScenarioBytes] at hbytes
  split at hbytes
  · cases hbytes
  · rename_i raw hraw
    split at hbytes
    · cases hbytes
    · rename_i hdigest
      exact ⟨manifest, raw, hmanifest, hraw, not_not.1 hdigest⟩

variable (lib env)

/-- **Every resume computes from frozen artifacts exactly if the two artifacts whose bytes are not compared
are unchanged** or a check refuses the directory. -/
theorem truthful_iff (files : Files) (repetitions : Option ℤ) :
    Truthful lib env files repetitions ↔
      (Admits lib env files repetitions → DefinitionReads lib env files → DeterministicReads files →
        Unchanged lib files "metric-definition.json" "metric_definition_artifact_digest" ∧
          Unchanged lib files "deterministic.json" "deterministic_artifact_digest") := by
  constructor
  · intro h hadmits hdefinition hrows
    have hfrozen : Frozen lib files := h.2 (liveCalls_iff.2 ⟨hadmits, hdefinition, hrows⟩)
    exact ⟨hfrozen.definition, hfrozen.deterministic⟩
  · intro h
    have hlive : (resume lib env files repetitions).liveCalls = true → Frozen lib files := by
      intro hcalls
      obtain ⟨hadmits, hdefinition, hrows⟩ := liveCalls_iff.1 hcalls
      obtain ⟨hsame, hsame'⟩ := h hadmits hdefinition hrows
      exact ⟨hsame, hadmits.scenarios_unchanged, hsame'⟩
    exact ⟨fun hresult => hlive (liveCalls_of_result hresult), hlive⟩

/-! ### Rows that are edited after the preparation -/

/-- The file of a document. -/
def fileOf (document : Fields) : ByteArray := (Json.obj document).dumps.toUTF8

/-- A document can be printed and read back as it is. -/
def Printable (document : Fields) : Prop :=
  (Json.obj document).sound = true ∧ (Json.obj document).sortKeys = .obj document

theorem readJson_fileOf {name : String} (h : files name = some (fileOf document))
    (hprintable : Printable document) : readJson files name = .ok document := by
  simp only [readJson, h, fileOf, fromUTF8?_toUTF8, Json.loads_dumps hprintable.1, hprintable.2]

/-- In place of the digest the text of a file. -/
def plainLibrary : Library where
  sha256 raw := (String.fromUTF8? raw).getD ""
  floats := ScenarioRuns.sampleFloats
  str _ := ""
  datasetDigest _ := .ok "dataset"

theorem sha256_fileOf (document : Fields) :
    plainLibrary.sha256 (fileOf document) = (Json.obj document).dumps := by
  simp only [plainLibrary, fileOf, fromUTF8?_toUTF8, Option.getD_some]

def frozenDefinition : Fields := [("metric_version", .int 3)]

def frozenScenarios : Fields := [("execution_status", .str "completed"), ("status", .str "pass")]

def frozenRows : Fields := [("rows", .arr [.obj [("core_e2e", .bool false)]])]

def editedRows : Fields := [("rows", .arr [.obj [("core_e2e", .bool true)]])]

def passedPreflight : Fields := [("preflight_status", .str "pass")]

def plainManifest : Fields :=
  [("amd_digest", .str "amendment"), ("checkpoint_identities", .obj []), ("config_digest", .str "config"),
    ("dataset_digest", .str "dataset"),
    ("deterministic_artifact_digest", .str (Json.obj frozenRows).dumps),
    ("metric_definition_artifact_digest", .str (Json.obj frozenDefinition).dumps),
    ("metric_definition_digest", .str "definition"), ("metric_version", .int 3),
    ("producer_sha", .str "producer"), ("protected_assets_start", .obj []),
    ("relevant_source_digest", .str "source"),
    ("scenario_artifact_digest", .str (Json.obj frozenScenarios).dumps),
    ("wire_schema_version", .str "1.0.0")]

/-- The directory after the preparation, but for the deterministic rows. -/
def editedDirectory : Files := fun name =>
  [("run-manifest.json", fileOf plainManifest), ("metric-definition.json", fileOf frozenDefinition),
    ("scenarios.json", fileOf frozenScenarios), ("deterministic.json", fileOf editedRows),
    ("preflight-summary.json", fileOf passedPreflight)].lookup name

def plainEnvironment : Environment where
  validated := .ok ()
  identity := .ok plainManifest
  definition := frozenDefinition
  live _ _ _ _ := .ok [("status", .str "pass")]
  aggregateReference _ _ _ _ := .ok []
  closing := .ok ()

theorem readJson_plainManifest :
    readJson editedDirectory "run-manifest.json" = .ok plainManifest :=
  readJson_fileOf rfl ⟨by decide +kernel, rfl⟩

theorem recordedDigest_plainManifest {key : String}
    (h : plainManifest.lookup key = some (.str (Json.obj document).dumps))
    (hne : (Json.obj document).dumps ≠ "") :
    recordedDigest plainLibrary plainManifest key = (Json.obj document).dumps := by
  simp only [recordedDigest, get, h, Option.getD_some, isFalsy, hne, decide_false, Bool.false_eq_true,
    if_false, text]

theorem admits_editedDirectory : Admits plainLibrary plainEnvironment editedDirectory (some 3) := by
  have hpreflight : readJson editedDirectory "preflight-summary.json" = .ok passedPreflight :=
    readJson_fileOf rfl ⟨by decide, rfl⟩
  have hscenarios : readJson editedDirectory "scenarios.json" = .ok frozenScenarios :=
    readJson_fileOf rfl ⟨by decide, rfl⟩
  have hprobe : checkProbe editedDirectory = .ok () := bind_eq_ok.2 ⟨_, hpreflight, rfl⟩
  have hbytes : checkScenarioBytes plainLibrary editedDirectory plainManifest = .ok () := by
    have hfile : editedDirectory "scenarios.json" = some (fileOf frozenScenarios) := rfl
    rw [checkScenarioBytes, hfile]
    dsimp only
    rw [sha256_fileOf, recordedDigest_plainManifest rfl (by decide +kernel), if_neg (not_not.2 rfl)]
  have hkeys : checkKeys plainLibrary plainManifest plainManifest = .ok () := rfl
  exact ⟨rfl, ⟨3, rfl, Or.inl rfl, rfl⟩, plainManifest, plainManifest, frozenScenarios, "dataset",
    passedPreflight, readJson_plainManifest, hprobe, rfl, hkeys, hbytes, hscenarios, rfl,
    by decide +kernel, rfl, hpreflight, rfl, rfl, rfl⟩

/-- **Edited rows reach the live calls and the aggregate**: nothing compares their bytes. -/
theorem not_truthful :
    ¬∀ (lib : Library) (env : Environment) (files : Files) (repetitions : Option ℤ),
      Truthful lib env files repetitions := by
  intro h
  have hcalls : (resume plainLibrary plainEnvironment editedDirectory (some 3)).liveCalls = true := by
    refine liveCalls_iff.2 ⟨admits_editedDirectory, ⟨frozenDefinition, ?_, ?_⟩, editedRows, ?_⟩
    · exact readJson_fileOf rfl ⟨by decide, rfl⟩
    · decide +kernel
    · exact readJson_fileOf rfl ⟨by decide, rfl⟩
  obtain ⟨manifest, raw, hmanifest, hraw, hdigest⟩ :=
    ((h plainLibrary plainEnvironment editedDirectory (some 3)).2 hcalls).deterministic
  rw [readJson_plainManifest] at hmanifest
  obtain rfl := Except.ok.inj hmanifest
  obtain rfl : fileOf editedRows = raw := Option.some.inj hraw
  rw [sha256_fileOf, recordedDigest_plainManifest rfl (by decide +kernel)] at hdigest
  exact absurd hdigest (by decide +kernel)

end ReadinessResume
