/-
**The scores of metric v3.**

A baseline names the root cause of a case and the evidence for it.  `score_result_v3` compares its result
with the sealed truth of the case: first the schema of results, then the case, the labels, the claim and
the evidence, and the first test that fails gives the class of the failure.

The keywords of the schema are predicates here.  What the validating library says of a result that it
rejects is a parameter, and the scores are rational numbers.

Main definitions:

* `MetricV3.RESULT_SCHEMA_V3` — the schema of results;
* `MetricV3.scoreResultV3` — the score of a result;
* `MetricV3.Supported` — a result that is right.

Main results:

* `MetricV3.exists_judged` — **every result has its score**, full exactly if the result is right;
* `MetricV3.schema_baselineResult` — **what the deterministic baseline returns is well formed** if its
  case has a name;
* `MetricV3.core_of_result_and_baseline` — so the baseline is right exactly if its first candidate is.
-/

import FaultWitness.DeterministicThresholds
import Mathlib.Data.Finset.Image
import Mathlib.Data.Finset.Lattice.Lemmas

set_option autoImplicit false

namespace MetricV3

open Python FlagDocuments

variable {F : Type} (r : Runtime F)

/-! ### Schemas -/

abbrev Schema := Json → Bool

namespace Schema

/-- The keyword `const`. -/
def const (value : Json) : Schema := fun j => r.same j value

/-- The keyword `enum`. -/
def enum (values : List Json) : Schema := fun j => values.any (r.same j)

/-- A text of some length. -/
def string (minLength : ℕ) : Schema
  | .str s => minLength ≤ s.length
  | _ => false

/-- An integer that is not negative; a float may be one. -/
def natural : Schema
  | .int n => 0 ≤ n
  | .float text =>
    let x := r.ofText text
    r.isfinite x && (r.value x).den = 1 && 0 ≤ r.value x
  | _ => false

/-- A number that is not below zero. -/
def nonnegative : Schema
  | .int n => 0 ≤ n
  | .float text => !r.lt (r.ofText text) (r.ofText "0.0")
  | _ => false

/-- The keyword `uniqueItems`. -/
def uniqueItems (items : List Json) : Bool := items.Pairwise fun j k => r.same j k = false

def array (item : Schema) (minItems : ℕ) (maxItems : Option ℕ) : Schema
  | .arr items => items.all item && minItems ≤ items.length && maxItems.all fun n => items.length ≤ n
  | _ => false

/-- A list of texts, each of them once. -/
def distinctTexts (minItems : ℕ) (maxItems : Option ℕ) : Schema := fun j =>
  array (string 1) minItems maxItems j && uniqueItems r (items j)

/-- An object without other properties. -/
def object (properties : List (String × Schema)) (required : List String) : Schema
  | .obj fields =>
    (properties.all fun property => (fields.lookup property.1).all property.2) &&
      (required.all fun name => (fields.lookup name).isSome) &&
      fields.all fun f => (properties.lookup f.1).isSome
  | _ => false

end Schema

open Schema

/-- The properties that every result has; that of the version is overridden. -/
def RESULT_METADATA_PROPERTIES : List (String × Schema) :=
  [("case_id", string 1), ("status", enum r [.str "ok", .str "failed"]), ("baseline", string 0),
    ("model_id", string 0), ("fallback_count", natural r), ("input_tokens", natural r),
    ("output_tokens", natural r), ("latency_ms", nonnegative r)]

/-- The schema of a claim. -/
def claimSchema : Schema :=
  object [("claim_type", const r (.str "root_cause")), ("value", string 1),
    ("evidence_refs", distinctTexts r 1 none)] ["claim_type", "value", "evidence_refs"]

def RESULT_PROPERTIES_V2 : List (String × Schema) :=
  RESULT_METADATA_PROPERTIES r ++
    [("schema_version", const r (.str "2.0.0")), ("root_cause", string 1),
      ("root_cause_candidates", distinctTexts r 0 (some 3)), ("evidence", distinctTexts r 1 none),
      ("claims", array (claimSchema r) 1 (some 1))]

def RESULT_SCHEMA_V3 : Schema :=
  object (RESULT_PROPERTIES_V2 r ++ [("metric_version", const r (.int METRIC_VERSION))])
    ["schema_version", "metric_version", "case_id", "status", "root_cause", "root_cause_candidates",
      "evidence", "claims"]

/-! ### The score -/

inductive FailureClass
  | malformed
  | caseIdMismatch
  | invalidLabel
  | claimContract
  | unknownEvidence
  | distractorEvidence
  | wrongRootCause
  | missingRequiredEvidence
  | unsupportedCriticalClaim
deriving DecidableEq

inductive ScoreStatus
  | scored
  | scoredFailure

structure Score where
  status : ScoreStatus
  failureClass : Option FailureClass
  reason : Option String := none
  coreE2e : ℚ
  rootCauseTop3 : ℚ
  evidencePrecision : ℚ
  unsupportedCriticalClaim : ℚ
  toolSchemaValidity : Option ℚ := none
  outputSchemaValidity : ℚ

/-- What the validating library says of a value that it rejects. -/
structure Complaint where
  absolutePath : List String
  message : String

variable (complaint : Document → Complaint)

def REGISTERED_METRIC_VERSIONS : List ℤ := [METRIC_VERSION]

def requireV3MetricVersion (metricVersion : ℤ) : Except Raised Unit :=
  if metricVersion ∉ REGISTERED_METRIC_VERSIONS then
    .error (.governance ("unsupported G03 readiness metric version: " ++ toString metricVersion))
  else .ok ()

def validateResultV3 (result : Document) (metricVersion : ℤ) : Except Raised Unit := do
  let _ ← requireV3MetricVersion metricVersion
  if ¬RESULT_SCHEMA_V3 r (.obj result) then
    let error := complaint result
    let path := ".".intercalate error.absolutePath
    let location := if path = "" then "<root>" else path
    throw (.governance
      ("baseline result violates metric v3 schema at " ++ location ++ ": " ++ error.message))

/-- The function `_failure_v3`. -/
def failureV3 (reason : String) (failureClass : FailureClass) : Score where
  status := .scoredFailure
  failureClass := some failureClass
  reason := some reason
  coreE2e := 0
  rootCauseTop3 := 0
  evidencePrecision := 0
  unsupportedCriticalClaim := 1
  outputSchemaValidity := if failureClass = .malformed then 0 else 1

/-- The texts of a list. -/
def textsOf (j : Json) : List String := (items j).map r.str

/-- The first claim of a result. -/
def claimOf (result : Document) : Document := ((items (get result "claims")).head?.bind mapping).getD []

namespace GroundTruth

variable (truth : GroundTruth)

def required : Finset String := truth.requiredEvidence.toFinset

def distractors : Finset String := truth.distractorEvidence.toFinset

/-- The truth is incomplete or contradictory. -/
def contradictory : Bool :=
  (Label.ofText truth.rootCause).isNone || truth.required.card < 2 ||
    (truth.required ∩ truth.distractors).Nonempty ||
    (truth.required ∪ truth.distractors).card ≠ EVIDENCE_KINDS.length

end GroundTruth

/-- The grade of a result that is consistent in itself. -/
def grade (truth : GroundTruth) (actual : String) (candidates : List String)
    (selected : Finset String) : Score :=
  let expected := truth.rootCause
  let citedDistractors := selected ∩ truth.distractors
  let complete := truth.required ⊆ selected
  let supported := actual = expected ∧ complete ∧ ¬citedDistractors.Nonempty
  let top3 := actual = expected ∨ expected ∈ candidates.take 3
  { status := .scored
    failureClass :=
      if citedDistractors.Nonempty then some .distractorEvidence
      else if actual ≠ expected then some .wrongRootCause
      else if ¬complete then some .missingRequiredEvidence
      else if ¬supported then some .unsupportedCriticalClaim
      else none
    coreE2e := if supported then 1 else 0
    rootCauseTop3 := if top3 then 1 else 0
    evidencePrecision :=
      if selected.Nonempty then (selected ∩ truth.required).card / selected.card else 0
    unsupportedCriticalClaim := if supported then 0 else 1
    outputSchemaValidity := 1 }

/-- What a result of the schema scores; it has all members that are read. -/
def scoreValid (result : Document) (truth : GroundTruth) : Except Raised Score := do
  if r.str (get result "case_id") ≠ truth.caseId then
    return failureV3 "result case_id does not match the sealed case" .caseIdMismatch
  if truth.contradictory then
    throw (.governance "metric v3 ground truth is incomplete or contradictory")
  let actual := r.str (get result "root_cause")
  let candidates := textsOf r (get result "root_cause_candidates")
  let claimValue := r.str (get (claimOf result) "value")
  let invalidLabels :=
    (actual :: candidates ++ [claimValue]).filter fun label => (Label.ofText label).isNone
  if invalidLabels ≠ [] then
    return failureV3 ("closed root-cause labels were not used: " ++
      ", ".intercalate (sortTexts invalidLabels.dedup)) .invalidLabel
  if claimValue ≠ actual then
    return failureV3 "typed root-cause claim does not match root_cause" .claimContract
  let evidence := textsOf r (get result "evidence")
  let claimRefs := textsOf r (get (claimOf result) "evidence_refs")
  if evidence.toFinset ≠ claimRefs.toFinset then
    return failureV3 "top-level evidence and typed-claim evidence_refs differ" .claimContract
  let unknown := evidence.filter fun id => id ∉ truth.required ∪ truth.distractors
  if unknown ≠ [] then
    return failureV3 ("diagnosis references unknown evidence: " ++
      ", ".intercalate (sortTexts unknown.dedup)) .unknownEvidence
  return grade truth actual candidates evidence.toFinset

def scoreResultV3 (result : Document) (truth : GroundTruth) (metricVersion : ℤ) :
    Except Raised Score := do
  let _ ← requireV3MetricVersion metricVersion
  match validateResultV3 r complaint result metricVersion with
  | .error (.governance text) => return failureV3 text .malformed
  | .error raised => throw raised
  | .ok () => scoreValid r result truth

variable {r}

variable {texts : List String}

/-! ### Members of a result -/

theorem lookup_of_object {properties : List (String × Schema)} {required : List String}
    {fields : Document} (h : object properties required (.obj fields) = true) {name : String}
    (hrequired : name ∈ required) {schema : Schema} (hproperty : (name, schema) ∈ properties) :
    ∃ j, fields.lookup name = some j ∧ schema j = true := by
  simp only [object, Bool.and_eq_true, List.all_eq_true] at h
  obtain ⟨⟨hproperties, hpresent⟩, -⟩ := h
  obtain ⟨j, hj⟩ := Option.isSome_iff_exists.1 (hpresent name hrequired)
  have hschema := hproperties _ hproperty
  rw [hj] at hschema
  exact ⟨j, hj, hschema⟩

/-! ### The sealed truth -/

theorem mem_sortTexts {text : String} : text ∈ sortTexts texts ↔ text ∈ texts :=
  List.mem_mergeSort

theorem toFinset_ids (caseId : String) (kinds : List Kind) :
    (sortTexts (kinds.map (evidenceIdV3 r caseId))).toFinset =
      kinds.toFinset.image (evidenceIdV3 r caseId) := by
  ext id
  rw [List.mem_toFinset, mem_sortTexts, List.mem_map, Finset.mem_image]
  simp only [List.mem_toFinset]

theorem required_truthOf (caseId : String) (label : Label) :
    (truthOf r caseId label).required =
      (REQUIRED_KINDS label).toFinset.image (evidenceIdV3 r caseId) :=
  toFinset_ids caseId (REQUIRED_KINDS label)

theorem distractors_truthOf (caseId : String) (label : Label) :
    (truthOf r caseId label).distractors =
      (distractorKinds label).toFinset.image (evidenceIdV3 r caseId) :=
  toFinset_ids caseId (distractorKinds label)

section

variable {caseId : String} (hids : Function.Injective (evidenceIdV3 r caseId)) (label : Label)

include hids

theorem card_required : (truthOf r caseId label).required.card = 2 := by
  rw [required_truthOf, Finset.card_image_of_injective _ hids]
  cases label <;> rfl

theorem inter_distractors :
    (truthOf r caseId label).required ∩ (truthOf r caseId label).distractors = ∅ := by
  rw [required_truthOf, distractors_truthOf, ← Finset.image_inter _ _ hids, Finset.image_eq_empty]
  cases label <;> rfl

theorem card_union :
    ((truthOf r caseId label).required ∪ (truthOf r caseId label).distractors).card =
      EVIDENCE_KINDS.length := by
  rw [required_truthOf, distractors_truthOf, ← Finset.image_union, Finset.card_image_of_injective _ hids]
  cases label <;> rfl

/-- **A sealed truth is complete**, where the kinds have different identifiers. -/
theorem not_contradictory : (truthOf r caseId label).contradictory = false := by
  have hlabel : Label.ofText (truthOf r caseId label).rootCause = some label := Label.ofText_value label
  rw [GroundTruth.contradictory, hlabel, card_required hids, inter_distractors hids, card_union hids]
  rfl

end

/-! ### Results that are right -/

variable (r) in
/-- A result that is right: all that it says of the case is the truth. -/
structure Supported (result : Document) (truth : GroundTruth) : Prop where
  schema : RESULT_SCHEMA_V3 r (.obj result) = true
  caseId : r.str (get result "case_id") = truth.caseId
  candidates : ∀ text ∈ textsOf r (get result "root_cause_candidates"),
    ∃ label : Label, text = label.value
  rootCause : r.str (get result "root_cause") = truth.rootCause
  claimValue : r.str (get (claimOf result) "value") = truth.rootCause
  evidence : (textsOf r (get result "evidence")).toFinset = truth.required
  evidenceRefs : (textsOf r (get (claimOf result) "evidence_refs")).toFinset = truth.required

variable (r) in
/-- A score says whether a result is right. -/
structure Judged (result : Document) (truth : GroundTruth) (score : Score) : Prop where
  core : score.coreE2e = 1 ↔ Supported r result truth
  failureClass : score.failureClass = none ↔ Supported r result truth
  full : Supported r result truth →
    score.evidencePrecision = 1 ∧ score.rootCauseTop3 = 1 ∧ score.unsupportedCriticalClaim = 0
  neverUnsupported : score.failureClass ≠ some .unsupportedCriticalClaim

variable {result : Document} {truth : GroundTruth}

theorem judged_failureV3 {reason : String} {failureClass : FailureClass}
    (hclass : failureClass ≠ .unsupportedCriticalClaim) (h : ¬Supported r result truth) :
    Judged r result truth (failureV3 reason failureClass) where
  core := iff_of_false zero_ne_one h
  failureClass := iff_of_false (Option.some_ne_none _) h
  full hright := absurd hright h
  neverUnsupported hsame := hclass (Option.some.inj hsame)

/-- The grade of known evidence is full exactly if the cause and the evidence are right. -/
theorem grade_full_iff (hdisjoint : truth.required ∩ truth.distractors = ∅) {actual : String}
    {selected : Finset String} (hknown : selected ⊆ truth.required ∪ truth.distractors) :
    actual = truth.rootCause ∧ truth.required ⊆ selected ∧ ¬(selected ∩ truth.distractors).Nonempty ↔
      actual = truth.rootCause ∧ selected = truth.required := by
  refine and_congr_right fun _ => ?_
  rw [Finset.not_nonempty_iff_eq_empty]
  constructor
  · rintro ⟨hcomplete, hcited⟩
    refine Finset.Subset.antisymm (fun id hid => ?_) hcomplete
    rcases Finset.mem_union.1 (hknown hid) with hrequired | hdistractor
    · exact hrequired
    · have hmem := Finset.mem_inter.2 ⟨hid, hdistractor⟩
      rw [hcited] at hmem
      exact absurd hmem (Finset.notMem_empty id)
  · rintro rfl
    exact ⟨Finset.Subset.refl _, hdisjoint⟩

theorem grade_failureClass (truth : GroundTruth) (actual : String) (candidates : List String)
    (selected : Finset String) :
    (grade truth actual candidates selected).failureClass =
      if (selected ∩ truth.distractors).Nonempty then some .distractorEvidence
      else if actual ≠ truth.rootCause then some .wrongRootCause
      else if ¬truth.required ⊆ selected then some .missingRequiredEvidence
      else none := by
  rw [grade]
  dsimp only
  by_cases hcited : (selected ∩ truth.distractors).Nonempty
  · rw [if_pos hcited, if_pos hcited]
  by_cases hactual : actual = truth.rootCause
  · by_cases hcomplete : truth.required ⊆ selected
    · simp only [hcited, hactual, hcomplete, ne_eq, not_true_eq_false, not_false_eq_true, and_self,
        if_false]
    · simp only [hcited, hactual, hcomplete, ne_eq, not_true_eq_false, not_false_eq_true, if_false,
        if_true]
  · simp only [hcited, hactual, ne_eq, not_false_eq_true, if_false, if_true]

theorem judged_grade (hdisjoint : truth.required ∩ truth.distractors = ∅)
    (hsome : truth.required.Nonempty) {actual : String} {candidates : List String}
    {selected : Finset String} (hknown : selected ⊆ truth.required ∪ truth.distractors)
    (h : Supported r result truth ↔ actual = truth.rootCause ∧ selected = truth.required) :
    Judged r result truth (grade truth actual candidates selected) := by
  have hfull := h.trans (grade_full_iff hdisjoint hknown).symm
  refine ⟨?_, ?_, fun hright => ?_, ?_⟩
  · rw [hfull, grade]
    dsimp only
    split
    · rename_i hright
      exact iff_of_true rfl hright
    · rename_i hwrong
      exact iff_of_false zero_ne_one hwrong
  · rw [grade_failureClass, hfull]
    split
    · simp [*]
    split
    · simp [*]
    split <;> simp_all
  · obtain ⟨hactual, rfl⟩ := h.1 hright
    refine ⟨?_, if_pos (.inl hactual), if_pos (hfull.1 hright)⟩
    have hcard : (truth.required.card : ℚ) ≠ 0 := Nat.cast_ne_zero.2 (Finset.card_ne_zero.2 hsome)
    rw [grade]
    dsimp only
    rw [if_pos hsome, Finset.inter_self, div_self hcard]
  · rw [grade_failureClass]
    split
    · exact nofun
    split
    · exact nofun
    split <;> exact nofun

/-! ### The score of a result -/

variable {caseId : String} {thresholds : CaseThresholds F} {packet : Document}
  {candidates : List (Candidate F)}

theorem invalidLabels_eq_nil_iff :
    (texts.filter fun label => (Label.ofText label).isNone) = [] ↔
      ∀ text ∈ texts, ∃ label : Label, text = label.value := by
  rw [List.filter_eq_nil_iff]
  refine forall₂_congr fun text _ => ?_
  constructor
  · intro hsome
    cases hlabel : Label.ofText text with
    | none =>
      rw [hlabel] at hsome
      exact absurd rfl hsome
    | some label => exact ⟨label, (Label.ofText_eq_some hlabel).symm⟩
  · rintro ⟨label, rfl⟩
    rw [Label.ofText_value]
    exact Bool.false_ne_true

theorem unknown_eq_nil_iff {evidence : List String} {known : Finset String} :
    (evidence.filter fun id => id ∉ known) = [] ↔ evidence.toFinset ⊆ known := by
  rw [List.filter_eq_nil_iff, Finset.subset_iff]
  refine forall_congr' fun id => ?_
  rw [List.mem_toFinset, decide_eq_true_eq, not_not]

theorem exists_judged_valid (hids : Function.Injective (evidenceIdV3 r caseId)) (label : Label)
    (hschema : RESULT_SCHEMA_V3 r (.obj result) = true) :
    ∃ score, scoreValid r result (truthOf r caseId label) = .ok score ∧
      Judged r result (truthOf r caseId label) score := by
  have hcontradictory := not_contradictory hids label
  have hdisjoint := inter_distractors hids label
  have hsome : (truthOf r caseId label).required.Nonempty := by
    rw [← Finset.card_pos, card_required hids]
    decide
  have hlabel : (truthOf r caseId label).rootCause = label.value := rfl
  generalize truthOf r caseId label = truth at *
  rw [scoreValid]
  by_cases hcase : r.str (get result "case_id") = truth.caseId
  swap
  · rw [if_pos hcase]
    exact ⟨_, rfl, judged_failureV3 (by decide) fun hright => hcase hright.caseId⟩
  rw [if_neg (not_not_intro hcase), hcontradictory, if_neg Bool.false_ne_true]
  dsimp only
  by_cases hinvalid : ((r.str (get result "root_cause") ::
      textsOf r (get result "root_cause_candidates") ++ [r.str (get (claimOf result) "value")]).filter
        fun label => (Label.ofText label).isNone) = []
  swap
  · rw [if_pos hinvalid]
    refine ⟨_, rfl, judged_failureV3 (by decide) fun hright => hinvalid ?_⟩
    rw [invalidLabels_eq_nil_iff, List.forall_mem_append, List.forall_mem_cons,
      List.forall_mem_singleton]
    exact ⟨⟨⟨label, hright.rootCause.trans hlabel⟩, hright.candidates⟩,
      ⟨label, hright.claimValue.trans hlabel⟩⟩
  rw [if_neg (not_not_intro hinvalid)]
  by_cases hclaim : r.str (get (claimOf result) "value") = r.str (get result "root_cause")
  swap
  · rw [if_pos hclaim]
    exact ⟨_, rfl, judged_failureV3 (by decide) fun hright =>
      hclaim (hright.claimValue.trans hright.rootCause.symm)⟩
  rw [if_neg (not_not_intro hclaim)]
  by_cases hrefs : (textsOf r (get result "evidence")).toFinset =
      (textsOf r (get (claimOf result) "evidence_refs")).toFinset
  swap
  · rw [if_pos hrefs]
    exact ⟨_, rfl, judged_failureV3 (by decide) fun hright =>
      hrefs (hright.evidence.trans hright.evidenceRefs.symm)⟩
  rw [if_neg (not_not_intro hrefs)]
  by_cases hunknown : ((textsOf r (get result "evidence")).filter fun id =>
      id ∉ truth.required ∪ truth.distractors) = []
  swap
  · rw [if_pos hunknown]
    refine ⟨_, rfl, judged_failureV3 (by decide) fun hright => hunknown ?_⟩
    rw [unknown_eq_nil_iff, hright.evidence]
    exact Finset.subset_union_left
  rw [if_neg (not_not_intro hunknown)]
  rw [invalidLabels_eq_nil_iff, List.forall_mem_append, List.forall_mem_cons] at hinvalid
  refine ⟨_, rfl, judged_grade hdisjoint hsome (unknown_eq_nil_iff.1 hunknown) ?_⟩
  constructor
  · exact fun hright => ⟨hright.rootCause, hright.evidence⟩
  · rintro ⟨hactual, hselected⟩
    exact ⟨hschema, hcase, hinvalid.1.2, hactual, hclaim.trans hactual, hselected,
      hrefs.symm.trans hselected⟩

theorem score_of_malformed (complaint : Document → Complaint)
    (h : ¬RESULT_SCHEMA_V3 r (.obj result) = true) (truth : GroundTruth) :
    ∃ text, scoreResultV3 r complaint result truth METRIC_VERSION = .ok (failureV3 text .malformed) := by
  have hversion : requireV3MetricVersion METRIC_VERSION = .ok () := rfl
  obtain ⟨text, htext⟩ : ∃ text, validateResultV3 r complaint result METRIC_VERSION =
      .error (.governance text) := by
    rw [validateResultV3, hversion]
    dsimp only [bind, Except.bind]
    rw [if_pos h]
    exact ⟨_, rfl⟩
  refine ⟨text, ?_⟩
  rw [scoreResultV3, hversion, htext]
  rfl

/-- **Every result has its score, which is full exactly if the result is right.** -/
theorem exists_judged (complaint : Document → Complaint)
    (hids : Function.Injective (evidenceIdV3 r caseId)) (label : Label) (result : Document) :
    ∃ score, scoreResultV3 r complaint result (truthOf r caseId label) METRIC_VERSION = .ok score ∧
      Judged r result (truthOf r caseId label) score := by
  have hversion : requireV3MetricVersion METRIC_VERSION = .ok () := rfl
  by_cases hschema : RESULT_SCHEMA_V3 r (.obj result) = true
  · obtain ⟨score, hscore, hjudged⟩ := exists_judged_valid hids label hschema
    refine ⟨score, ?_, hjudged⟩
    rw [scoreResultV3, hversion, validateResultV3, hversion]
    dsimp only [bind, Except.bind]
    rw [if_neg (not_not_intro hschema)]
    exact hscore
  · obtain ⟨text, htext⟩ := score_of_malformed complaint hschema (truthOf r caseId label)
    exact ⟨_, htext, judged_failureV3 (by decide) fun hright => hschema hright.schema⟩

/-! ### The result of the baseline -/

theorem uniqueItems_iff : uniqueItems r (texts.map .str) = true ↔ texts.Nodup := by
  rw [uniqueItems, decide_eq_true_eq, List.pairwise_map, List.nodup_iff_pairwise_ne]
  refine List.Pairwise.iff fun s t => ?_
  rw [← Bool.not_eq_true, same_str_iff, Json.str.injEq]

theorem string_one_iff {text : String} : string 1 (.str text) = true ↔ text ≠ "" := by
  rw [string, decide_eq_true_eq, Nat.one_le_iff_ne_zero, Ne, String.length_eq_zero_iff]

theorem distinctTexts_iff {minItems : ℕ} {maxItems : Option ℕ} :
    distinctTexts r minItems maxItems (.arr (texts.map .str)) = true ↔
      (∀ text ∈ texts, text ≠ "") ∧ minItems ≤ texts.length ∧ (∀ n ∈ maxItems, texts.length ≤ n) ∧
        texts.Nodup := by
  rw [distinctTexts, Bool.and_eq_true, items, uniqueItems_iff, array, List.length_map]
  simp only [Bool.and_eq_true, List.all_eq_true, List.forall_mem_map, string_one_iff, decide_eq_true_eq,
    Option.all_eq_true, and_assoc]
  rfl

theorem evidenceIdV3_ne_empty (caseId : String) (kind : Kind) : evidenceIdV3 r caseId kind ≠ "" := by
  intro h
  have hlength := congrArg String.length h
  rw [evidenceIdV3, String.length_append] at hlength
  exact absurd hlength (by rw [show "ev3-".length = 4 from rfl, show "".length = 0 from rfl]; omega)

/-- **What the baseline returns is well formed** if its case has a name. -/
theorem schema_baselineResult {root : String} {candidates : List String} {kinds : List Kind}
    (hids : Function.Injective (evidenceIdV3 r caseId)) (hcase : caseId ≠ "") (hroot : root ≠ "")
    (hcandidates : ∀ text ∈ candidates, text ≠ "") (hlength : candidates.length ≤ 3)
    (hdistinct : candidates.Nodup) (hkinds : kinds.Nodup) (hsome : kinds ≠ []) :
    RESULT_SCHEMA_V3 r (.obj (baselineResult r caseId root candidates kinds)) = true := by
  have hevidence : distinctTexts r 1 none
      (.arr ((sortTexts (kinds.map (evidenceIdV3 r caseId))).map .str)) = true := by
    refine distinctTexts_iff.2 ⟨fun id hid => ?_, ?_, nofun, ?_⟩
    · obtain ⟨kind, -, rfl⟩ := List.mem_map.1 (mem_sortTexts.1 hid)
      exact evidenceIdV3_ne_empty caseId kind
    · rw [sortTexts, List.length_mergeSort, List.length_map]
      exact List.length_pos_iff.2 hsome
    · exact (List.mergeSort_perm _ _).nodup_iff.2 (hkinds.map hids)
  have hnames : distinctTexts r 0 (some 3) (.arr (candidates.map .str)) = true := by
    refine distinctTexts_iff.2 ⟨hcandidates, Nat.zero_le _, fun n hn => ?_, hdistinct⟩
    rwa [← Option.some.inj hn]
  have hbaseline : string 0 (.str "deterministic") = true := rfl
  have hcaseId := string_one_iff.2 hcase
  have hcause := string_one_iff.2 hroot
  rw [baselineResult]
  generalize Json.arr ((sortTexts (kinds.map (evidenceIdV3 r caseId))).map .str) = evidence at *
  simp [RESULT_SCHEMA_V3, RESULT_PROPERTIES_V2, RESULT_METADATA_PROPERTIES, claimSchema, object, array,
    List.lookup_cons, const, enum, same_str_iff, same_int, hevidence, hnames, hbaseline, hcaseId, hcause,
    WIRE_SCHEMA_VERSION]

/-! ### The candidates of the baseline -/

theorem label_of_candidateOf {label : Label} {c : Candidate F}
    (h : candidateOf r packet thresholds label = .ok (some c)) : c.label = label := by
  unfold candidateOf at h
  split at h
  · cases h
  · obtain ⟨activity, -, h⟩ := bind_eq_ok.1 h
    obtain ⟨signal, -, h⟩ := bind_eq_ok.1 h
    split at h
    · cases h
      rfl
    · cases h

theorem candidates_sublist {labels : List Label} {found : List (Option (Candidate F))}
    (h : List.Forall₂ (fun label option => candidateOf r packet thresholds label = .ok option) labels
      found) : ((found.filterMap id).map Candidate.label).Sublist labels := by
  induction h with
  | nil => exact List.Sublist.refl _
  | @cons label option labels found hoption _ ih =>
    cases option with
    | none => exact ih.cons label
    | some c =>
      rw [← label_of_candidateOf hoption]
      exact ih.cons_cons c.label

/-- **No label is a candidate twice.** -/
theorem nodup_candidates (h : deterministicCandidatesV3 r packet thresholds = .ok candidates) :
    (candidates.map Candidate.label).Nodup := by
  obtain ⟨-, -, h⟩ := bind_eq_ok.1 h
  obtain ⟨found, hfound, h⟩ := bind_eq_ok.1 h
  rw [← Except.ok.inj h, ((List.mergeSort_perm _ _).map Candidate.label).nodup_iff]
  exact (candidates_sublist (mapM_eq_ok.1 hfound)).nodup (by decide)

variable (r) in
/-- The result that names the first of some candidates. -/
def resultOf (caseId : String) : List (Candidate F) → Document
  | [] => baselineResult r caseId "unknown" ["unknown"] EVIDENCE_KINDS
  | first :: rest => baselineResult r caseId first.label.value
      (((first :: rest).take 3).map fun c => c.label.value) (REQUIRED_KINDS first.label)

theorem deterministicBaselineV3_eq_ok
    (h : deterministicBaselineV3 r packet thresholds = .ok (result, candidates)) :
    deterministicCandidatesV3 r packet thresholds = .ok candidates ∧
      result = resultOf r (r.str (get packet "case_id")) candidates := by
  obtain ⟨found, hfound, h⟩ := bind_eq_ok.1 h
  obtain ⟨hresult, rfl⟩ := Prod.mk.inj (Except.ok.inj h)
  refine ⟨hfound, hresult.symm.trans ?_⟩
  cases found <;> rfl

theorem textsOf_strs (texts : List String) : textsOf r (.arr (texts.map .str)) = texts := by
  rw [textsOf, items, List.map_map]
  exact List.map_id texts

theorem schema_resultOf (hids : Function.Injective (evidenceIdV3 r caseId)) (hcase : caseId ≠ "")
    (h : (candidates.map Candidate.label).Nodup) :
    RESULT_SCHEMA_V3 r (.obj (resultOf r caseId candidates)) = true := by
  have hvalues : ∀ label : Label, label.value ≠ "" := by
    intro label
    cases label <;> decide
  cases candidates with
  | nil =>
    exact schema_baselineResult hids hcase (by decide) (by decide) (by decide) (by decide) (by decide)
      (by decide)
  | cons first rest =>
    refine schema_baselineResult hids hcase (hvalues _) (fun text htext => ?_) ?_ ?_ ?_ ?_
    · obtain ⟨c, -, rfl⟩ := List.mem_map.1 htext
      exact hvalues c.label
    · rw [List.length_map]
      exact List.length_take_le 3 _
    · have hlabels : (((first :: rest).take 3).map Candidate.label).Nodup :=
        h.sublist ((List.take_sublist 3 _).map Candidate.label)
      have hmapped := hlabels.map Label.value_injective
      rwa [List.map_map] at hmapped
    · cases first.label <;> decide
    · cases first.label <;> decide

theorem not_schema_resultOf (candidates : List (Candidate F)) :
    ¬RESULT_SCHEMA_V3 r (.obj (resultOf r "" candidates)) = true := by
  intro h
  have hmember : ∃ j, (resultOf r "" candidates).lookup "case_id" = some j ∧ string 1 j = true :=
    lookup_of_object h (by decide) (by simp [RESULT_PROPERTIES_V2, RESULT_METADATA_PROPERTIES])
  obtain ⟨j, hj, htext⟩ := hmember
  have hempty : (resultOf r "" candidates).lookup "case_id" = some (.str "") := by
    cases candidates <;> rfl
  rw [hempty] at hj
  rw [← Option.some.inj hj] at htext
  exact string_one_iff.1 htext rfl

/-- **The result of the baseline is right exactly if its first candidate is.** -/
theorem supported_iff_first (hcaseId : r.str (get packet "case_id") = caseId)
    (hids : Function.Injective (evidenceIdV3 r caseId)) (hcase : caseId ≠ "")
    (h : deterministicBaselineV3 r packet thresholds = .ok (result, candidates)) (label : Label) :
    Supported r result (truthOf r caseId label) ↔ candidates.head?.map Candidate.label = some label := by
  obtain ⟨hcandidates, hresult⟩ := deterministicBaselineV3_eq_ok h
  have hnodup := nodup_candidates hcandidates
  rw [hcaseId] at hresult
  subst hresult
  cases candidates with
  | nil =>
    refine iff_of_false (fun hright => ?_) nofun
    have hunknown : ∀ label : Label, "unknown" ≠ label.value := by
      intro label
      cases label <;> decide
    exact hunknown label hright.rootCause
  | cons first rest =>
    have hhead : (first :: rest).head?.map Candidate.label = some label ↔ first.label = label :=
      Option.some_inj
    rw [hhead]
    constructor
    · exact fun hright => Label.value_injective hright.rootCause
    · rintro rfl
      have hevidence : (textsOf r (.arr ((sortTexts
          ((REQUIRED_KINDS first.label).map (evidenceIdV3 r caseId))).map .str))).toFinset =
            (truthOf r caseId first.label).required := by
        rw [textsOf_strs]
        rfl
      refine ⟨schema_resultOf hids hcase hnodup, rfl, fun text htext => ?_, rfl, rfl, hevidence,
        hevidence⟩
      change text ∈ textsOf r
        (.arr ((((first :: rest).take 3).map fun c => c.label.value).map .str)) at htext
      rw [textsOf_strs] at htext
      obtain ⟨c, -, rfl⟩ := List.mem_map.1 htext
      exact ⟨c.label, rfl⟩

/-! ### The score of a result and of the baseline -/

/-- **The score of a result is full exactly if the result is right**; that of the baseline, exactly if
its first candidate is the cause. -/
theorem core_of_result_and_baseline (complaint : Document → Complaint) {caseId rootCause : String}
    {truth : GroundTruth} (htruth : groundTruthV3 r caseId rootCause = .ok truth)
    (hids : Function.Injective (evidenceIdV3 r caseId)) :
    (∀ result, ∃ score, scoreResultV3 r complaint result truth METRIC_VERSION = .ok score ∧
        Judged r result truth score) ∧
      ∀ packet thresholds result candidates, r.str (get packet "case_id") = caseId → caseId ≠ "" →
        deterministicBaselineV3 r packet thresholds = .ok (result, candidates) →
          ∃ score, scoreResultV3 r complaint result truth METRIC_VERSION = .ok score ∧
            (score.coreE2e = 1 ↔
              candidates.head?.map (fun c => c.label.value) = some truth.rootCause) := by
  obtain ⟨label, rfl⟩ : ∃ label, truth = truthOf r caseId label := by
    rw [groundTruthV3] at htruth
    split at htruth
    · cases htruth
    · exact ⟨_, (Except.ok.inj htruth).symm⟩
  refine ⟨exists_judged complaint hids label, ?_⟩
  intro packet thresholds result candidates hcaseId hcase hbaseline
  obtain ⟨score, hscore, hjudged⟩ := exists_judged complaint hids label result
  have hfirst := supported_iff_first hcaseId hids hcase hbaseline label
  refine ⟨score, hscore, hjudged.core.trans (hfirst.trans ?_)⟩
  cases candidates with
  | nil => exact iff_of_false (by simp) (by simp)
  | cons first rest => simp [truthOf, Label.value_injective.eq_iff]

/-! ### A packet without a name -/

/-- A trial in which nothing is measured. -/
def quietTrial (caseId : String) : Trial :=
  { caseId, label := .adHighCpu, windows := List.replicate 7 quietWindow }

theorem accepted_quietTrial (caseId : String) :
    Accepted rationals ((quietTrial caseId).packet rationals) := by
  refine accepted_packet quiet_rationals ⟨rfl, fun _ _ _ => same_int _, fun _ _ => rfl, ?_, ?_⟩
  · intro w hw
    rw [List.eq_of_mem_replicate hw]
    exact finiteWindow_rationals (by decide)
  · intro w hw
    rw [List.eq_of_mem_replicate hw]
    decide +kernel

theorem featureValues_quietTrial (caseId : String) (label : Label) (feature : Feature) (window : Phase) :
    featureValues rationals ((quietTrial caseId).packet rationals) label feature window =
      .ok (List.replicate (expectedCount window) 0) := by
  have hread : ∀ samples : List Document, samplesOfKind rationals ((quietTrial caseId).packet rationals)
      (signalOf label feature).kind = .ok (.arr (samples.map .obj)) →
        ∀ sample ∈ samples, ∃ x, readFeature rationals label feature sample = .ok x ∧
          rationals.isfinite x = true ∧ x = 0 := by
    intro samples hsamples sample hsample
    rw [samples_unique hsamples (samplesOfKind_packet _ _)] at hsample
    obtain ⟨w, hw, i, rfl⟩ := mem_samplesOf hsample
    rw [List.eq_of_mem_replicate hw]
    refine ⟨0, ?_, rfl, rfl⟩
    cases label <;> cases feature <;> rfl
  obtain ⟨values, hvalues, hlength, hzero⟩ := exists_featureValues_of (accepted_quietTrial caseId)
    (numbered_packet fun _ => rfl) window hread
  rw [hvalues, List.eq_replicate_iff.2 ⟨hlength, hzero⟩]

theorem median_healthy : median rationals (List.replicate (expectedCount .healthy) 0) = .ok 0 := by
  have hsorted : sortFloats rationals (List.replicate 5 0) = List.replicate 5 0 :=
    List.perm_replicate.1 (List.mergeSort_perm _ _)
  change median rationals (List.replicate 5 0) = .ok 0
  rw [median, hsorted]
  rfl

theorem observe_quietTrial (caseId : String) (label : Label) (feature : Feature)
    (threshold : FeatureThreshold ℚ) : ∃ observation,
    observeFeature rationals ((quietTrial caseId).packet rationals) label feature threshold =
        .ok observation ∧
      observation.incidentExcess = 0 ∧ observation.threshold = threshold.threshold := by
  refine ⟨_, bind_eq_ok.2 ⟨_, featureValues_quietTrial caseId label feature .healthy, bind_eq_ok.2
    ⟨_, featureValues_quietTrial caseId label feature .fault, bind_eq_ok.2
      ⟨0, rfl, bind_eq_ok.2 ⟨0, median_healthy, rfl⟩⟩⟩⟩, ?_, rfl⟩
  exact sub_zero 0

/-- A threshold for a label and a feature. -/
def thresholdAt (label : Label) (feature : Feature) (cutoff : ℚ) : FeatureThreshold ℚ where
  quantum := 1
  kind := (signalOf label feature).kind
  field := (signalOf label feature).field
  healthyDriftCount := 124
  healthyP99 := cutoff
  threshold := cutoff
  relativeFloor := none

/-- Thresholds that only one label reaches where nothing is measured. -/
def cutoffOf (reached label : Label) : ℚ := if label = reached then 0 else 1

def thresholdsOf (reached label : Label) : LabelThresholds ℚ where
  targetService := TARGET_SERVICES label
  traceActivity := thresholdAt label .traceActivity (cutoffOf reached label)
  rootSignal := thresholdAt label .rootSignal (cutoffOf reached label)

def thresholdsFor (reached : Label) : CaseThresholds ℚ :=
  ROOT_CAUSE_LABELS.map fun label => (label, thresholdsOf reached label)

theorem exists_candidateOf_quietTrial (caseId : String) (reached label : Label) : ∃ option,
    candidateOf rationals ((quietTrial caseId).packet rationals) (thresholdsFor reached) label =
      .ok option ∧ (option.isSome = true ↔ label = reached) := by
  have hlookup : (thresholdsFor reached).lookup label = some (thresholdsOf reached label) := by
    cases label <;> rfl
  obtain ⟨activity, hactivity, hrise, hcutoff⟩ :=
    observe_quietTrial caseId label .traceActivity (thresholdsOf reached label).traceActivity
  obtain ⟨signal, hsignal, hrise', hcutoff'⟩ :=
    observe_quietTrial caseId label .rootSignal (thresholdsOf reached label).rootSignal
  have hreaches : ∀ observation : FeatureObservation ℚ, observation.incidentExcess = 0 →
      observation.threshold = cutoffOf reached label →
        (rationals.le observation.threshold observation.incidentExcess = true ↔ label = reached) := by
    intro observation hzero hown
    rw [hzero, hown, cutoffOf]
    by_cases hlabel : label = reached
    · rw [if_pos hlabel]
      exact iff_of_true rfl hlabel
    · rw [if_neg hlabel]
      exact iff_of_false (by decide +kernel) hlabel
  have hboth : (rationals.le activity.threshold activity.incidentExcess &&
      rationals.le signal.threshold signal.incidentExcess) = true ↔ label = reached := by
    rw [Bool.and_eq_true, hreaches activity hrise hcutoff, hreaches signal hrise' hcutoff', and_self]
  rw [candidateOf, hlookup]
  dsimp only
  rw [hactivity, hsignal]
  dsimp only [bind, Except.bind]
  by_cases hlabel : label = reached
  · rw [if_pos (hboth.2 hlabel)]
    exact ⟨_, rfl, iff_of_true rfl hlabel⟩
  · rw [if_neg (hboth.not.2 hlabel)]
    exact ⟨none, rfl, iff_of_false Bool.false_ne_true hlabel⟩

theorem exists_baseline_quietTrial (caseId : String) : ∃ result candidates,
    deterministicBaselineV3 rationals ((quietTrial caseId).packet rationals) (thresholdsFor .adHighCpu) =
      .ok (result, candidates) ∧ candidates.map Candidate.label = [.adHighCpu] := by
  have hall := exists_candidateOf_quietTrial caseId .adHighCpu
  choose option hoption hsome using hall
  have hnone : ∀ label, label ≠ .adHighCpu → option label = none := fun label hlabel =>
    Option.not_isSome_iff_eq_none.1 fun h => hlabel ((hsome label).1 h)
  obtain ⟨c, hc⟩ := Option.isSome_iff_exists.1 ((hsome .adHighCpu).2 rfl)
  have hfound : ROOT_CAUSE_LABELS.mapM
      (candidateOf rationals ((quietTrial caseId).packet rationals) (thresholdsFor .adHighCpu)) =
        .ok (ROOT_CAUSE_LABELS.map option) :=
    mapM_eq_ok.2 (List.forall₂_map_right_iff.2 (List.forall₂_same.2 fun label _ => hoption label))
  have hfilter : (ROOT_CAUSE_LABELS.map option).filterMap id = [c] := by
    simp [ROOT_CAUSE_LABELS, hc, hnone]
  have hcandidates : deterministicCandidatesV3 rationals ((quietTrial caseId).packet rationals)
      (thresholdsFor .adHighCpu) = .ok [c] := by
    refine bind_eq_ok.2 ⟨_, validate_eq_ok_iff.2 ⟨accepted_quietTrial caseId, rfl⟩,
      bind_eq_ok.2 ⟨_, hfound, ?_⟩⟩
    rw [hfilter]
    exact congrArg Except.ok (List.mergeSort_singleton c)
  refine ⟨_, [c], bind_eq_ok.2 ⟨_, hcandidates, rfl⟩, ?_⟩
  have hlabel := hoption .adHighCpu
  rw [hc] at hlabel
  exact congrArg (fun label => [label]) (label_of_candidateOf hlabel)

theorem evidenceIdV3_rationals_injective (h : caseId ∈ ["", "c"]) :
    Function.Injective (evidenceIdV3 rationals caseId) := by
  have hall : ∀ caseId ∈ ["", "c"], ∀ kind ∈ EVIDENCE_KINDS, ∀ other ∈ EVIDENCE_KINDS,
      evidenceIdV3 rationals caseId kind = evidenceIdV3 rationals caseId other → kind = other := by
    decide +kernel
  exact fun kind other => hall caseId h kind (mem_kinds kind) other (mem_kinds other)

theorem core_of_result_and_baseline_quiet : ∃ result candidates score,
    deterministicBaselineV3 rationals ((quietTrial "c").packet rationals) (thresholdsFor .adHighCpu) =
        .ok (result, candidates) ∧
      scoreResultV3 rationals (fun _ => ⟨[], "invalid"⟩) result (truthOf rationals "c" .adHighCpu)
        METRIC_VERSION = .ok score ∧ score.coreE2e = 1 := by
  obtain ⟨result, candidates, hbaseline, hlabels⟩ := exists_baseline_quietTrial "c"
  have hids : Function.Injective (evidenceIdV3 rationals "c") :=
    evidenceIdV3_rationals_injective (by decide)
  obtain ⟨score, hscore, hcore⟩ :=
    (@core_of_result_and_baseline _ rationals (fun _ => ⟨[], "invalid"⟩) "c" "adHighCpu"
      (truthOf rationals "c" .adHighCpu) rfl hids).2 _ _ result candidates rfl (by decide) hbaseline
  refine ⟨result, candidates, score, hbaseline, hscore, hcore.2 ?_⟩
  cases candidates with
  | nil => cases hlabels
  | cons first rest =>
    rw [List.map_cons] at hlabels
    exact congrArg (fun label => some label.value) (List.cons.inj hlabels).1

/-- A packet without a name is accepted, and its first candidate may be the cause, but its result is
malformed. -/
theorem not_core_without_name : ∃ result candidates,
    Accepted rationals ((quietTrial "").packet rationals) ∧
      Function.Injective (evidenceIdV3 rationals "") ∧
      groundTruthV3 rationals "" "adHighCpu" = .ok (truthOf rationals "" .adHighCpu) ∧
      deterministicBaselineV3 rationals ((quietTrial "").packet rationals) (thresholdsFor .adHighCpu) =
        .ok (result, candidates) ∧
      candidates.map Candidate.label = [.adHighCpu] ∧
      ∃ score, scoreResultV3 rationals (fun _ => ⟨[], "invalid"⟩) result
          (truthOf rationals "" .adHighCpu) METRIC_VERSION = .ok score ∧
        score.failureClass = some .malformed ∧ score.coreE2e = 0 := by
  obtain ⟨result, candidates, hbaseline, hlabels⟩ := exists_baseline_quietTrial ""
  refine ⟨result, candidates, accepted_quietTrial "", evidenceIdV3_rationals_injective (by decide), rfl,
    hbaseline, hlabels, ?_⟩
  have hmalformed : ¬RESULT_SCHEMA_V3 rationals (.obj result) = true := by
    rw [(deterministicBaselineV3_eq_ok hbaseline).2]
    exact not_schema_resultOf candidates
  obtain ⟨text, htext⟩ := score_of_malformed (fun _ => ⟨[], "invalid"⟩) hmalformed
    (truthOf rationals "" .adHighCpu)
  exact ⟨_, htext, rfl, rfl⟩

end MetricV3
