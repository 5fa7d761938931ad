/-
**The datasets of metric v3.**

`scenario_cases_v3` reads 32 trials, of which each has passed and carries a packet and a label, and
returns the cases by their identifiers.  The ground truth of a case says which kinds of evidence its label
requires; every other kind is a distractor, and one of them must show something.

A copy of a packet that went through `json.dumps` is the packet: the order of its keys is never looked at.

Main definitions:

* `MetricV3.groundTruthV3` — the truth of a case;
* `MetricV3.scenarioCasesV3` — the cases of a document;
* `MetricV3.Dataset` — what holds of the cases of an accepted document.

Main results:

* `MetricV3.dataset_of_scenarioCases` — **the cases that are returned are a dataset**;
* `MetricV3.scenarioCases_documentOf` — **a document of packets that are built is accepted**;
* `MetricV3.Samples.exists_cases` — so there are datasets, over floats that do not round.
-/

import FaultWitness.PacketBuilding

set_option autoImplicit false

namespace MetricV3

open Python FlagDocuments
open ScenarioRuns (equal integer Value)

/-! ### Labels -/

inductive Label
  | productCatalogFailure
  | adHighCpu
  | emailMemoryLeak
  | paymentFailure
  | paymentUnreachable
  | kafkaQueueProblems
deriving DecidableEq

def Label.value : Label → String
  | .productCatalogFailure => "productCatalogFailure"
  | .adHighCpu => "adHighCpu"
  | .emailMemoryLeak => "emailMemoryLeak"
  | .paymentFailure => "paymentFailure"
  | .paymentUnreachable => "paymentUnreachable"
  | .kafkaQueueProblems => "kafkaQueueProblems"

def ROOT_CAUSE_LABELS : List Label :=
  [.productCatalogFailure, .adHighCpu, .emailMemoryLeak, .paymentFailure, .paymentUnreachable,
    .kafkaQueueProblems]

def Label.ofText (text : String) : Option Label := ROOT_CAUSE_LABELS.find? fun label => label.value = text

theorem mem_labels (label : Label) : label ∈ ROOT_CAUSE_LABELS := by cases label <;> decide

theorem Label.value_injective : Function.Injective Label.value := by
  intro label label' h
  cases label <;> cases label' <;> first | rfl | exact absurd h (by decide)

@[simp] theorem Label.ofText_value (label : Label) : Label.ofText label.value = some label := by
  cases label <;> rfl

theorem Label.ofText_eq_some {text : String} {label : Label} (h : Label.ofText text = some label) :
    label.value = text := by
  simpa using List.find?_some h

def REQUIRED_KINDS : Label → List Kind
  | .productCatalogFailure | .paymentFailure | .paymentUnreachable => [.traceActivity, .traceErrors]
  | .adHighCpu => [.traceActivity, .cpuWindow]
  | .emailMemoryLeak => [.traceActivity, .memoryWindow]
  | .kafkaQueueProblems => [.traceActivity, .queueWindow]

/-- The kinds that a label does not require. -/
def distractorKinds (label : Label) : List Kind :=
  EVIDENCE_KINDS.filter fun kind => kind ∉ REQUIRED_KINDS label

/-! ### The ground truth -/

structure GroundTruth where
  caseId : String
  rootCause : String
  requiredEvidence : List String
  distractorEvidence : List String
  requiredKinds : List String
  distractorKinds : List String
deriving DecidableEq

/-- The function `sorted`. -/
def sortTexts (texts : List String) : List String := texts.mergeSort fun s t => s ≤ t

variable {F : Type} (r : Runtime F)

/-- The truth of a case with one of the labels. -/
def truthOf (caseId : String) (label : Label) : GroundTruth where
  caseId
  rootCause := label.value
  requiredEvidence := sortTexts ((REQUIRED_KINDS label).map (evidenceIdV3 r caseId))
  distractorEvidence := sortTexts ((MetricV3.distractorKinds label).map (evidenceIdV3 r caseId))
  requiredKinds := sortTexts ((REQUIRED_KINDS label).map Kind.value)
  distractorKinds := sortTexts ((MetricV3.distractorKinds label).map Kind.value)

def groundTruthV3 (caseId rootCause : String) : Except Raised GroundTruth :=
  match Label.ofText rootCause with
  | none => .error (.governance ("metric v3 received an unknown sealed label: " ++ rootCause))
  | some label => .ok (truthOf r caseId label)

/-! ### Distractors -/

mutual

/-- The function `_contains_observed_nonzero`. -/
def containsObservedNonzero : Json → Except Raised Bool
  | .bool _ => .ok false
  | .int n => do
    let x ← r.float (.int n)
    return r.isfinite x && !r.eq x (r.ofText "0.0")
  | .float text => .ok (r.isfinite (r.ofText text) && !r.eq (r.ofText text) (r.ofText "0.0"))
  | .obj fields => nonzeroFields fields
  | .arr items => nonzeroItems items
  | _ => .ok false

def nonzeroFields : List (String × Json) → Except Raised Bool
  | [] => .ok false
  | (key, child) :: fields =>
    if key = "window_index" then nonzeroFields fields
    else do
      if ← containsObservedNonzero child then return true
      else nonzeroFields fields

def nonzeroItems : List Json → Except Raised Bool
  | [] => .ok false
  | child :: items => do
    if ← containsObservedNonzero child then return true
    else nonzeroItems items

end

/-- The comprehension over the kinds whose samples show something. -/
def nonzeroKinds (samples : Kind → Except Raised Json) : List Kind → Except Raised (List Kind)
  | [] => .ok []
  | kind :: kinds => do
    let observed ← samples kind
    let nonzero ← containsObservedNonzero r observed
    let rest ← nonzeroKinds samples kinds
    return if nonzero then kind :: rest else rest

/-! ### Cases -/

structure Case where
  packet : Document
  groundTruth : GroundTruth
  family : String
  nonzeroDistractorKinds : List String

/-- The groups by their kinds, of which a later one replaces an earlier one. -/
def groupByKind (packet : Document) (kind : Kind) : Option Document :=
  (groups packet).reverse.find? fun group => r.str (get group "kind") = kind.value

/-- The kinds that some texts name. -/
def kindsOf (texts : List String) : List Kind :=
  texts.filterMap fun text => EVIDENCE_KINDS.find? fun kind => kind.value = text

/-- The samples of a group. -/
def samplesOfKind (packet : Document) (kind : Kind) : Except Raised Json :=
  match groupByKind r packet kind with
  | none => .error .builtin
  | some group => member group "samples"

/-- The keys of the first sample. -/
def firstFields : Json → Except Raised (List String)
  | .arr (.obj sample :: _) => .ok (sortTexts (sample.map Prod.fst))
  | _ => .error .builtin

/-- The family of a trial. -/
def familyOf (payload : Document) : Except Raised String :=
  if (Value.json (get payload "family")).truthy then .ok (r.str (get payload "family"))
  else
    match payload.lookup "result" with
    | none => .ok ""
    | some (.obj result) => .ok (r.str ((result.lookup "family").getD (.str "")))
    | some _ => .error .builtin

/-- The sample fields of the first case. -/
abbrev Canonical := Option (List (List String))

/-- The packet and the payload of a trial that has passed. -/
def openRecord (record : Json) : Except Raised (Document × Document) :=
  match mapping record with
  | none => .error (.datasetIncomplete "metric v3 dataset contains an incomplete scenario")
  | some record =>
    if ¬r.same (get record "status") (.str "pass") then
      .error (.datasetIncomplete "metric v3 dataset contains an incomplete scenario")
    else
      match mapping (get record "payload") with
      | none => .error (.datasetIncomplete "metric v3 scenario trial lacks a payload")
      | some payload =>
        match mapping (get payload "observation_packet") with
        | none => .error (.datasetIncomplete "metric v3 scenario trial lacks a public packet")
        | some packet => .ok (packet, payload)

/-- The case of a trial. -/
def visitRecord (canonical : Canonical) (record : Json) :
    Except Raised (String × Case × List (List String)) := do
  let (packet, payload) ← openRecord r record
  let _ ← validateObservationPacketV3 r packet
  let caseId := r.str (get packet "case_id")
  let truth ← groundTruthV3 r caseId (r.str ((payload.lookup "fault_class").getD (.str "")))
  let fields ← EVIDENCE_KINDS.mapM fun kind => do
    let samples ← samplesOfKind r packet kind
    firstFields samples
  if ¬(canonical = none ∨ canonical = some fields) then
    throw (.datasetIncomplete "metric v3 sample fields differ across cases")
  let nonzero ← nonzeroKinds r (samplesOfKind r packet) (kindsOf truth.distractorKinds)
  if nonzero = [] then
    throw (.datasetIncomplete
      ("metric v3 case " ++ caseId ++ " lacks a real non-zero distractor signal"))
  let family ← familyOf r payload
  return (caseId, ⟨packet, truth, family, sortTexts (nonzero.map Kind.value)⟩, fields)

abbrev Cases := List (String × Case)

/-- Assigning a case. -/
def assignCase (cases : Cases) (caseId : String) (case : Case) : Cases :=
  if cases.any fun entry => entry.1 = caseId then
    cases.map fun entry => if entry.1 = caseId then (caseId, case) else entry
  else cases ++ [(caseId, case)]

def visitRecords : List Json → Canonical → Cases → Except Raised Cases
  | [], _, cases => .ok cases
  | record :: records, canonical, cases => do
    let (caseId, case, fields) ← visitRecord r canonical record
    visitRecords records (canonical.or (some fields)) (assignCase cases caseId case)

def scenarioCasesV3 (document : Document) : Except Raised Cases :=
  match get document "trials" with
  | .arr trials =>
    if trials.length ≠ 32 then
      .error (.datasetIncomplete "metric v3 dataset requires exactly 32 fresh scenario trials")
    else do
      let cases ← visitRecords r trials none []
      if cases.length ≠ 32 then
        throw (.datasetIncomplete "metric v3 case IDs are not unique")
      return cases
  | _ => .error (.datasetIncomplete "metric v3 dataset requires exactly 32 fresh scenario trials")

variable {r}

/-! ### What is accepted -/

/-- What holds of the cases of an accepted document. -/
structure Sound (r : Runtime F) (caseId : String) (case : Case) : Prop where
  packet : Accepted r case.packet
  identified : caseId = r.str (get case.packet "case_id")
  truth : ∃ label, case.groundTruth = truthOf r caseId label

structure Dataset (r : Runtime F) (cases : Cases) : Prop where
  length : cases.length = 32
  nodup : (cases.map Prod.fst).Nodup
  sound : ∀ entry ∈ cases, Sound r entry.1 entry.2

theorem keys_assignCase (cases : Cases) (caseId : String) (case : Case) :
    (assignCase cases caseId case).map Prod.fst =
      if caseId ∈ cases.map Prod.fst then cases.map Prod.fst else cases.map Prod.fst ++ [caseId] := by
  have hany : (cases.any fun entry => entry.1 = caseId) = true ↔ caseId ∈ cases.map Prod.fst := by
    rw [List.any_eq_true, List.mem_map]
    exact exists_congr fun entry => and_congr_right fun _ => decide_eq_true_iff
  unfold assignCase
  by_cases hmem : caseId ∈ cases.map Prod.fst
  · rw [if_pos (hany.2 hmem), if_pos hmem, List.map_map]
    refine List.map_congr_left fun entry _ => ?_
    change (if entry.1 = caseId then (caseId, case) else entry).1 = entry.1
    split
    · rename_i heq
      exact heq.symm
    · rfl
  · rw [if_neg fun h => hmem (hany.1 h), if_neg hmem, List.map_append]
    rfl

theorem mem_assignCase {cases : Cases} {caseId : String} {case : Case} {entry : String × Case}
    (h : entry ∈ assignCase cases caseId case) : entry = (caseId, case) ∨ entry ∈ cases := by
  unfold assignCase at h
  split at h
  · obtain ⟨other, hother, rfl⟩ := List.mem_map.1 h
    by_cases heq : other.1 = caseId
    · exact .inl (if_pos heq)
    · rw [if_neg heq]
      exact .inr hother
  · rcases List.mem_append.1 h with h | h
    · exact .inr h
    · exact .inl (List.mem_singleton.1 h)

variable {canonical : Canonical}

theorem sound_of_visitRecord {record : Json} {caseId : String} {case : Case}
    {fields : List (List String)}
    (h : visitRecord r canonical record = .ok (caseId, case, fields)) : Sound r caseId case := by
  obtain ⟨⟨packet, payload⟩, -, h⟩ := bind_eq_ok.1 h
  obtain ⟨signatures, hvalid, h⟩ := bind_eq_ok.1 h
  obtain ⟨truth, htruth, h⟩ := bind_eq_ok.1 h
  obtain ⟨found, -, h⟩ := bind_eq_ok.1 h
  obtain ⟨-, h⟩ := check_eq_ok.1 h
  obtain ⟨nonzero, -, h⟩ := bind_eq_ok.1 h
  obtain ⟨-, h⟩ := check_eq_ok.1 h
  obtain ⟨family, -, h⟩ := bind_eq_ok.1 h
  cases h
  refine ⟨(validate_eq_ok_iff.1 hvalid).1, rfl, ?_⟩
  unfold groundTruthV3 at htruth
  split at htruth
  · cases htruth
  · rename_i label _
    cases htruth
    exact ⟨label, rfl⟩

theorem sound_of_visitRecords {records : List Json} {cases found : Cases}
    (hnodup : (cases.map Prod.fst).Nodup) (hsound : ∀ entry ∈ cases, Sound r entry.1 entry.2)
    (h : visitRecords r records canonical cases = .ok found) :
    (found.map Prod.fst).Nodup ∧ ∀ entry ∈ found, Sound r entry.1 entry.2 := by
  induction records generalizing canonical cases with
  | nil =>
    cases h
    exact ⟨hnodup, hsound⟩
  | cons record records ih =>
    obtain ⟨⟨caseId, case, fields⟩, hrecord, h⟩ := bind_eq_ok.1 h
    refine ih ?_ (fun entry hentry => ?_) h
    · rw [keys_assignCase]
      split
      · exact hnodup
      · rename_i hnew
        refine List.nodup_append.2 ⟨hnodup, List.nodup_singleton _, fun a ha b hb => ?_⟩
        rw [List.mem_singleton.1 hb]
        exact fun heq => hnew (heq ▸ ha)
    · rcases mem_assignCase hentry with rfl | hentry
      · exact sound_of_visitRecord hrecord
      · exact hsound entry hentry

/-- **The cases that are returned are a dataset.** -/
theorem dataset_of_scenarioCases {document : Document} {cases : Cases}
    (h : scenarioCasesV3 r document = .ok cases) : Dataset r cases := by
  unfold scenarioCasesV3 at h
  split at h
  · split at h
    · cases h
    · obtain ⟨found, hfound, h⟩ := bind_eq_ok.1 h
      obtain ⟨hlength, h⟩ := check_eq_ok.1 h
      cases h
      have hempty : (([] : Cases).map Prod.fst).Nodup := List.nodup_nil
      have hnone : ∀ entry ∈ ([] : Cases), Sound r entry.1 entry.2 := nofun
      obtain ⟨hnodup, hsound⟩ := sound_of_visitRecords hempty hnone hfound
      exact ⟨not_not.1 hlength, hnodup, hsound⟩
  · cases h

theorem groupByKind_eq_some {packet : Document} (h : Accepted r packet) (kind : Kind) :
    ∃ group samples, groupByKind r packet kind = some group ∧
      get group "samples" = .arr (samples.map .obj) ∧
      samplesOfKind r packet kind = .ok (.arr (samples.map .obj)) ∧
      Measured r kind samples := by
  obtain ⟨group, hgroup, hkind, hunique, samples, hsamples, hmeasured⟩ := exists_group h kind
  have hfind : groupByKind r packet kind = some group := by
    refine find?_of_unique (List.mem_reverse.2 hgroup) (decide_eq_true hkind) fun other hother hsame => ?_
    exact hunique other (List.mem_reverse.1 hother) (of_decide_eq_true hsame)
  refine ⟨group, samples, hfind, hsamples, ?_, hmeasured⟩
  rw [samplesOfKind, hfind]
  exact member_of_get hsamples nofun

/-! ### Documents of packets that are built -/

/-- What a trial is made of. -/
structure Trial where
  caseId : String
  label : Label
  index : Kind → ℕ → Json := fun _ i => .int i
  windows : List PublicWindow

namespace Trial

variable (r) (t : Trial)

def packet : Document := packetWith r t.index t.caseId "brief" t.windows

/-- The record of a trial that has passed. -/
def record : Json :=
  .obj [("status", .str "pass"), ("payload", .obj [("observation_packet", .obj (t.packet r)),
    ("fault_class", .str t.label.value), ("family", .str t.label.value)])]

/-- What is needed for a trial to be accepted. -/
structure Sound : Prop where
  length : t.windows.length = 7
  index : ∀ kind, ∀ i < 7, r.same (t.index kind i) (.int i) = true
  scalar : ∀ kind i, walkForbidden r (t.index kind i) = []
  finite : ∀ w ∈ t.windows, FiniteWindow r w
  status : ∀ w ∈ t.windows, containsObservedNonzero r (.int w.journeyStatus) = .ok true

end Trial

variable (r) in
/-- The document of some trials. -/
def documentOf (trials : List Trial) : Document := [("trials", .arr (trials.map (Trial.record r)))]

variable {t : Trial}

theorem accepted_packet (hquiet : Quiet r) (h : t.Sound r) : Accepted r (t.packet r) :=
  accepted_packetWith hquiet h.length h.index h.scalar h.finite

theorem samplesOfKind_packet (t : Trial) (kind : Kind) :
    samplesOfKind r (t.packet r) kind = .ok (.arr ((samplesOf t.index t.windows kind).map .obj)) := by
  cases kind <;> rfl

theorem samples_unique {packet : Document} {kind : Kind} {samples others : List Document}
    (h : samplesOfKind r packet kind = .ok (.arr (samples.map .obj)))
    (h' : samplesOfKind r packet kind = .ok (.arr (others.map .obj))) : samples = others := by
  have heq : samples.map Json.obj = others.map Json.obj :=
    Json.arr.inj (Except.ok.inj (h.symm.trans h'))
  rw [← filterMap_mapping samples, heq, filterMap_mapping]

mutual

theorem exists_containsObservedNonzero (hints : ∀ n, (r.ofInt n).isSome) :
    ∀ j, ∃ b, containsObservedNonzero r j = .ok b
  | .null | .str _ | .bool _ => ⟨false, rfl⟩
  | .int n => by
    obtain ⟨x, hx⟩ := Option.isSome_iff_exists.1 (hints n)
    exact ⟨_, by rw [containsObservedNonzero, Runtime.float, hx]; rfl⟩
  | .float _ => ⟨_, rfl⟩
  | .arr items => exists_nonzeroItems hints items
  | .obj fields => exists_nonzeroFields hints fields

theorem exists_nonzeroFields (hints : ∀ n, (r.ofInt n).isSome) :
    ∀ fields, ∃ b, nonzeroFields r fields = .ok b
  | [] => ⟨false, rfl⟩
  | (key, child) :: fields => by
    obtain ⟨b, hb⟩ := exists_containsObservedNonzero hints child
    obtain ⟨rest, hrest⟩ := exists_nonzeroFields hints fields
    rw [nonzeroFields, hb, hrest]
    split
    · exact ⟨rest, rfl⟩
    · cases b
      · exact ⟨rest, rfl⟩
      · exact ⟨true, rfl⟩

theorem exists_nonzeroItems (hints : ∀ n, (r.ofInt n).isSome) :
    ∀ items, ∃ b, nonzeroItems r items = .ok b
  | [] => ⟨false, rfl⟩
  | child :: items => by
    obtain ⟨b, hb⟩ := exists_containsObservedNonzero hints child
    obtain ⟨rest, hrest⟩ := exists_nonzeroItems hints items
    rw [nonzeroItems, hb, hrest]
    cases b
    · exact ⟨rest, rfl⟩
    · exact ⟨true, rfl⟩

end

theorem exists_nonzeroKinds (hints : ∀ n, (r.ofInt n).isSome) {samples : Kind → Except Raised Json}
    (hsamples : ∀ kind, ∃ j, samples kind = .ok j) {nonzero : Kind}
    (hnonzero : ∀ j, samples nonzero = .ok j → containsObservedNonzero r j = .ok true)
    (kinds : List Kind) :
    ∃ found, nonzeroKinds r samples kinds = .ok found ∧ (nonzero ∈ kinds → nonzero ∈ found) := by
  induction kinds with
  | nil => exact ⟨[], rfl, id⟩
  | cons kind kinds ih =>
    obtain ⟨rest, hrest, hmem⟩ := ih
    obtain ⟨j, hj⟩ := hsamples kind
    obtain ⟨b, hb⟩ := exists_containsObservedNonzero hints j
    refine ⟨if b then kind :: rest else rest, ?_, fun h => ?_⟩
    · rw [nonzeroKinds]
      exact bind_eq_ok.2 ⟨j, hj, bind_eq_ok.2 ⟨b, hb, bind_eq_ok.2 ⟨rest, hrest, rfl⟩⟩⟩
    · rcases List.mem_cons.1 h with rfl | h
      · have htrue := hnonzero j hj
        rw [hb] at htrue
        cases htrue
        exact List.mem_cons_self
      · split
        · exact List.mem_cons_of_mem _ (hmem h)
        · exact hmem h

theorem journey_mem_kindsOf (caseId : String) (label : Label) :
    Kind.journeyWindow ∈ kindsOf (truthOf r caseId label).distractorKinds := by
  refine List.mem_filterMap.2 ⟨"journey_window", ?_, rfl⟩
  refine List.mem_mergeSort.2 (List.mem_map.2 ⟨.journeyWindow, ?_, rfl⟩)
  cases label <;> decide

/-- The sample fields of a packet that is built. -/
def builtFields : List (List String) := EVIDENCE_KINDS.map fun kind => sortTexts (GROUP_SAMPLE_FIELDS kind)

theorem samplesOf_cons (index : Kind → ℕ → Json) (w : PublicWindow) (ws : List PublicWindow)
    (kind : Kind) :
    ∃ later, samplesOf index (w :: ws) kind = w.sample kind (index kind 0) :: later :=
  ⟨_, List.mapIdx_cons⟩

theorem Trial.Sound.exists_cons (h : t.Sound r) : ∃ w ws, t.windows = w :: ws := by
  have hlength := h.length
  cases hwindows : t.windows with
  | nil =>
    rw [hwindows] at hlength
    cases hlength
  | cons w ws => exact ⟨w, ws, rfl⟩

theorem fields_packet (h : t.Sound r) :
    (EVIDENCE_KINDS.mapM fun kind => do
      let samples ← samplesOfKind r (t.packet r) kind
      firstFields samples) = .ok builtFields := by
  obtain ⟨w, ws, hwindows⟩ := h.exists_cons
  refine mapM_eq_ok.2 (List.forall₂_map_right_iff.2 (List.forall₂_same.2 fun kind _ => ?_))
  refine bind_eq_ok.2 ⟨_, samplesOfKind_packet t kind, ?_⟩
  obtain ⟨later, hsamples⟩ := samplesOf_cons t.index w ws kind
  rw [hwindows, hsamples]
  cases kind <;> rfl

theorem nonzero_journey (h : t.Sound r) {j : Json}
    (hj : samplesOfKind r (t.packet r) .journeyWindow = .ok j) :
    containsObservedNonzero r j = .ok true := by
  obtain ⟨w, ws, hwindows⟩ := h.exists_cons
  obtain ⟨later, hsamples⟩ := samplesOf_cons t.index w ws .journeyWindow
  rw [samplesOfKind_packet, hwindows, hsamples] at hj
  cases hj
  have hstatus := h.status w (by rw [hwindows]; exact List.mem_cons_self)
  have hfirst : nonzeroFields r (w.sample .journeyWindow (t.index .journeyWindow 0)) = .ok true := by
    change nonzeroFields r [("window_index", _), ("ready", .bool w.ready),
      ("status_code", .int w.journeyStatus)] = _
    rw [nonzeroFields, if_pos rfl, nonzeroFields, if_neg (by decide)]
    refine bind_eq_ok.2 ⟨false, rfl, ?_⟩
    rw [if_neg Bool.false_ne_true, nonzeroFields, if_neg (by decide)]
    exact bind_eq_ok.2 ⟨true, hstatus, rfl⟩
  exact bind_eq_ok.2 ⟨true, hfirst, rfl⟩

theorem visitRecord_record (hquiet : Quiet r) (hints : ∀ n, (r.ofInt n).isSome) (h : t.Sound r)
    (hcanonical : canonical = none ∨ canonical = some builtFields) :
    ∃ case, visitRecord r canonical (t.record r) = .ok (t.caseId, case, builtFields) ∧
      case.packet = t.packet r ∧ case.groundTruth = truthOf r t.caseId t.label := by
  have hpass : r.same (.str "pass") (.str "pass") = true := same_str_iff.2 rfl
  have hopen : openRecord r (t.record r) = .ok (t.packet r, [("observation_packet", .obj (t.packet r)),
      ("fault_class", .str t.label.value), ("family", .str t.label.value)]) := by
    have hstatus : get [("status", Json.str "pass"), ("payload", .obj
        [("observation_packet", .obj (t.packet r)), ("fault_class", .str t.label.value),
          ("family", .str t.label.value)])] "status" = .str "pass" := rfl
    rw [Trial.record, openRecord, mapping]
    dsimp only
    rw [hstatus, if_neg (not_not_intro hpass)]
    rfl
  have htruth : groundTruthV3 r t.caseId t.label.value = .ok (truthOf r t.caseId t.label) := by
    rw [groundTruthV3, Label.ofText_value]
  obtain ⟨nonzero, hnonzero, hmem⟩ := exists_nonzeroKinds hints
    (fun kind => ⟨_, samplesOfKind_packet t kind⟩) (fun j hj => nonzero_journey h hj)
    (kindsOf (truthOf r t.caseId t.label).distractorKinds)
  have hne : nonzero ≠ [] := List.ne_nil_of_mem (hmem (journey_mem_kindsOf t.caseId t.label))
  have hfamily : ∃ family, familyOf r [("observation_packet", .obj (t.packet r)),
      ("fault_class", .str t.label.value), ("family", .str t.label.value)] = .ok family := by
    cases t.label <;> exact ⟨_, rfl⟩
  obtain ⟨family, hfamily⟩ := hfamily
  refine ⟨⟨t.packet r, truthOf r t.caseId t.label, family, sortTexts (nonzero.map Kind.value)⟩, ?_,
    rfl, rfl⟩
  refine bind_eq_ok.2 ⟨_, hopen, bind_eq_ok.2 ⟨_, validate_eq_ok_iff.2 ⟨accepted_packet hquiet h, rfl⟩,
    bind_eq_ok.2 ⟨_, htruth, bind_eq_ok.2 ⟨_, fields_packet h, check_eq_ok.2 ⟨not_not_intro hcanonical,
      bind_eq_ok.2 ⟨nonzero, hnonzero, check_eq_ok.2 ⟨hne, bind_eq_ok.2 ⟨family, hfamily, rfl⟩⟩⟩⟩⟩⟩⟩⟩

/-- **A document of packets that are built is accepted**, if its cases have different identifiers. -/
theorem scenarioCases_documentOf (hquiet : Quiet r) (hints : ∀ n, (r.ofInt n).isSome) {trials : List Trial}
    (hlength : trials.length = 32) (hnodup : (trials.map Trial.caseId).Nodup)
    (hsound : ∀ t ∈ trials, t.Sound r) :
    ∃ cases, scenarioCasesV3 r (documentOf r trials) = .ok cases ∧
      List.Forall₂ (fun t entry => entry.1 = t.caseId ∧ entry.2.packet = t.packet r ∧
        entry.2.groundTruth = truthOf r t.caseId t.label) trials cases := by
  have hloop : ∀ (ts : List Trial) (canonical : Canonical) (cases : Cases),
      (canonical = none ∨ canonical = some builtFields) → (∀ t ∈ ts, t.Sound r) →
      (cases.map Prod.fst ++ ts.map Trial.caseId).Nodup →
      ∃ found, visitRecords r (ts.map (Trial.record r)) canonical cases = .ok (cases ++ found) ∧
        List.Forall₂ (fun t entry => entry.1 = t.caseId ∧ entry.2.packet = t.packet r ∧
          entry.2.groundTruth = truthOf r t.caseId t.label) ts found := by
    intro ts
    induction ts with
    | nil => exact fun canonical cases _ _ _ => ⟨[], by rw [List.append_nil]; rfl, List.Forall₂.nil⟩
    | cons t ts ih =>
      intro canonical cases hcanonical hts hdistinct
      obtain ⟨ht, hts⟩ := List.forall_mem_cons.1 hts
      obtain ⟨case, hcase, hpacket, htruth⟩ := visitRecord_record hquiet hints ht hcanonical
      have hnew : t.caseId ∉ cases.map Prod.fst := fun hmem =>
        (List.nodup_append.1 hdistinct).2.2 _ hmem _ List.mem_cons_self rfl
      have hassign : assignCase cases t.caseId case = cases ++ [(t.caseId, case)] := by
        refine if_neg fun hany => hnew ?_
        obtain ⟨entry, hentry, heq⟩ := List.any_eq_true.1 hany
        exact of_decide_eq_true heq ▸ List.mem_map_of_mem hentry
      have hcanonical' : canonical.or (some builtFields) = some builtFields := by
        rcases hcanonical with rfl | rfl <;> rfl
      obtain ⟨found, hfound, hall⟩ := ih (some builtFields) (cases ++ [(t.caseId, case)]) (.inr rfl) hts
        (by simpa using hdistinct)
      refine ⟨(t.caseId, case) :: found, ?_, List.Forall₂.cons ⟨rfl, hpacket, htruth⟩ hall⟩
      refine bind_eq_ok.2 ⟨_, hcase, ?_⟩
      dsimp only
      rw [hassign, hcanonical', hfound, List.append_assoc]
      rfl
  obtain ⟨found, hfound, hall⟩ := hloop trials none [] (.inl rfl) hsound hnodup
  refine ⟨found, ?_, hall⟩
  have htrials : get (documentOf r trials) "trials" = .arr (trials.map (Trial.record r)) := rfl
  unfold scenarioCasesV3
  rw [htrials]
  dsimp only
  rw [List.length_map, if_neg (not_not_intro hlength)]
  refine bind_eq_ok.2 ⟨found, hfound, check_eq_ok.2 ⟨not_not_intro ?_, rfl⟩⟩
  exact hall.length_eq.symm.trans hlength

/-! ### A dataset over the rational numbers -/

/-- Floats without rounding, of which the texts that are used are known. -/
def rationals : Runtime ℚ where
  ofInt n := some n
  ofText text := (List.lookup text [("1.0", 1), ("2.0", 2), ("3.0", 3), ("4.0", 4), ("5.0", 5), ("6.0", 6),
    ("0.99", 99 / 100), ("0.05", 1 / 20), ("0.001", 1 / 1000), ("1e-06", 1 / 1000000)]).getD 0
  isfinite _ := true
  value := id
  eq x y := x = y
  lt x y := x < y
  le x y := x ≤ y
  neg := Neg.neg
  add := Add.add
  sub := Sub.sub
  mul := Mul.mul
  div := Div.div
  ratio m n := m / n
  ceil x := ⌈x⌉
  sha256 := id
  casefold s := String.ofList (s.toList.map Char.toLower)
  repr := Json.dumps

theorem quiet_rationals : Quiet rationals := by
  have hkeys : ∀ name ∈ publicKeys, ¬"stimulus".toList <:+: name.toList.map Char.toLower := by
    decide +kernel
  intro name hname
  have hfold : (rationals.casefold name).toList = name.toList.map Char.toLower := String.toList_ofList
  rw [hfold]
  exact hkeys name hname

theorem finiteWindow_rationals {w : PublicWindow} (h : w.recordedAt ≠ "") : FiniteWindow rationals w :=
  ⟨h, fun _ => rfl, fun _ => rfl, fun _ => rfl, fun _ _ => rfl⟩

/-- The identifiers of the cases. -/
def sampleId (n : ℕ) : String := String.ofList (List.replicate (n + 1) 'c')

theorem sampleId_injective : Function.Injective sampleId := by
  intro n m h
  have hlength := congrArg (fun s : String => s.toList.length) h
  simp only [sampleId, String.toList_ofList, List.length_replicate] at hlength
  omega

/-- A window where nothing is measured. -/
def quietWindow : PublicWindow := { recordedAt := "t" }

/-- The numbers of samples, as floats. -/
def floatIndex (n : ℕ) : Json := .float (["0.0", "1.0", "2.0", "3.0", "4.0", "5.0", "6.0"].getD n "0.0")

theorem same_floatIndex : ∀ i < 7, rationals.same (floatIndex i) (.int i) = true := by
  intro i hi
  have hvalue : ∀ i < 7, rationals.isInt (["0.0", "1.0", "2.0", "3.0", "4.0", "5.0", "6.0"].getD i "0.0") i
      = true := by decide +kernel
  rw [Runtime.same, floatIndex]
  simpa [equal, Runtime.floats, integer] using hvalue i hi

/-- A numbering that is compared as the integers are. -/
def Numbering (index : Kind → ℕ → Json) : Prop :=
  ∀ kind i, index kind i = .int i ∨ index kind i = floatIndex i

/-- What the trials of a dataset are made of. -/
structure Samples where
  label : ℕ → Label := fun _ => .adHighCpu
  index : ℕ → Kind → ℕ → Json := fun _ _ i => .int i
  windows : ℕ → List PublicWindow := fun _ => List.replicate 7 quietWindow

namespace Samples

variable (s : Samples)

def trial (n : ℕ) : Trial :=
  { caseId := sampleId n, label := s.label n, index := s.index n, windows := s.windows n }

def document : Document := documentOf rationals ((List.range 32).map s.trial)

/-- A case that is made of a trial. -/
structure Holds (n : ℕ) (entry : String × Case) : Prop where
  identified : entry.1 = sampleId n
  packet : entry.2.packet = (s.trial n).packet rationals
  truth : entry.2.groundTruth = truthOf rationals (sampleId n) (s.label n)

/-- What is asked of the trials. -/
structure Proper : Prop where
  length : ∀ n, (s.windows n).length = 7
  numbering : ∀ n, Numbering (s.index n)
  windows : ∀ n, ∀ w ∈ s.windows n, w.recordedAt ≠ "" ∧ w.journeyStatus = 200

variable {s}

theorem sound_trial (h : s.Proper) (n : ℕ) : (s.trial n).Sound rationals where
  length := h.length n
  index kind i hi := by
    change rationals.same (s.index n kind i) (.int i) = true
    rcases h.numbering n kind i with heq | heq
    · rw [heq]
      exact same_int _
    · rw [heq]
      exact same_floatIndex i hi
  scalar kind i := by
    change walkForbidden rationals (s.index n kind i) = []
    rcases h.numbering n kind i with heq | heq <;> rw [heq] <;> rfl
  finite w hw := finiteWindow_rationals (h.windows n w hw).1
  status w hw := by
    rw [(h.windows n w hw).2]
    decide +kernel

/-- **The document of proper trials is accepted.** -/
theorem exists_cases (h : s.Proper) : ∃ cases, scenarioCasesV3 rationals s.document = .ok cases ∧
    (∀ entry ∈ cases, ∃ n < 32, s.Holds n entry) ∧ ∀ n < 32, ∃ entry ∈ cases, s.Holds n entry := by
  have hnodup : (((List.range 32).map s.trial).map Trial.caseId).Nodup := by
    rw [List.map_map]
    exact List.nodup_range.map sampleId_injective
  have hsound : ∀ t ∈ (List.range 32).map s.trial, t.Sound rationals := by
    intro t ht
    obtain ⟨n, -, rfl⟩ := List.mem_map.1 ht
    exact sound_trial h n
  have hlength : ((List.range 32).map s.trial).length = 32 := by
    rw [List.length_map, List.length_range]
  obtain ⟨cases, hcases, hall⟩ :=
    scenarioCases_documentOf quiet_rationals (fun _ => rfl) hlength hnodup hsound
  rw [List.forall₂_map_left_iff] at hall
  refine ⟨cases, hcases, fun entry hentry => ?_, fun n hn => ?_⟩
  · obtain ⟨i, hi, rfl⟩ := List.getElem_of_mem hentry
    have hi' : i < (List.range 32).length := hall.length_eq ▸ hi
    obtain ⟨hid, hpacket, htruth⟩ := hall.get hi' hi
    simp only [List.get_eq_getElem, List.getElem_range] at hid hpacket htruth
    rw [List.length_range] at hi'
    exact ⟨i, hi', hid, hpacket, htruth⟩
  · have hi : n < (List.range 32).length := List.length_range.symm ▸ hn
    have hi' : n < cases.length := hall.length_eq ▸ hi
    obtain ⟨hid, hpacket, htruth⟩ := hall.get hi hi'
    simp only [List.get_eq_getElem, List.getElem_range] at hid hpacket htruth
    exact ⟨cases[n], List.getElem_mem hi', hid, hpacket, htruth⟩

end Samples

end MetricV3
