/-
**The probe of what descriptions give away.**

`faultwitness_dev/g03_leakage_probe.py` has two classifiers that name the label of a case.  The first
one reads the words of error descriptions: a word that only one label has in the other cases is a vote
for it.  The second one reads one number for each label, and takes the label with the largest excess.

The words of a case are given; how they are found in its packet is left out.

Main definitions:

* `MetricV3.keywordTable`, `MetricV3.foldOf`, `MetricV3.classifyDescriptionsLoo` — the words;
* `MetricV3.rootSignalFeatures`, `MetricV3.classifyRootSignal` — the numbers.

Main results:

* `MetricV3.foldOf_of_agree` — **the fold of a case does not depend on the label of the case**;
* `MetricV3.exists_classification` — other labels of the same cases can be classified as well.
-/

import FaultWitness.DeterministicThresholds

set_option autoImplicit false

namespace MetricV3

open Python FlagDocuments

/-! ### Labels and counters -/

/-- The labels in the order of their texts. -/
def LABELS : List Label :=
  [.adHighCpu, .emailMemoryLeak, .kafkaQueueProblems, .paymentFailure, .paymentUnreachable,
    .productCatalogFailure]

def ABSTAIN : String := "unknown"

theorem mem_LABELS (label : Label) : label ∈ LABELS := by cases label <;> decide

abbrev Counter := List (String × ℕ)

/-- One more of a key. -/
def increment (counter : Counter) (key : String) : Counter :=
  if counter.any fun entry => entry.1 = key then
    counter.map fun entry => if entry.1 = key then (key, entry.2 + 1) else entry
  else counter ++ [(key, 1)]

def countAll (counter : Counter) (keys : List String) : Counter := keys.foldl increment counter

/-- The key with the largest count, the first one in their order where counts are equal. -/
def mostFrequent : Counter → Option String
  | [] => none
  | entry :: entries =>
    some (entries.foldl (fun best other =>
      if best.2 < other.2 ∨ best.2 = other.2 ∧ other.1 < best.1 then other else best) entry).1

/-! ### Words -/

/-- The words of the cases. -/
abbrev Words := List (String × List String)

/-- The labels of the cases. -/
abbrev Labels := List (String × String)

/-- A member of a mapping. -/
def find {α : Type} (entries : List (String × α)) (key : String) : Except Raised α :=
  (entries.lookup key).elim (.error .builtin) .ok

/-- The words that each label has. -/
abbrev Families := Label → Counter

/-- The words of a case are counted for its label. -/
def addWords (families : Families) (label : String) (words : List String) : Except Raised Families :=
  if words = [] then .ok families
  else
    match Label.ofText label with
    | none => .error .builtin
    | some family => .ok (Function.update families family (countAll (families family) words))

def familiesOf (words : Words) (labels : Labels) (caseIds : List String) : Except Raised Families :=
  caseIds.foldlM (fun families caseId => do
    let label ← find labels caseId
    let tokens ← find words caseId
    addWords families label tokens) fun _ => []

structure KeywordTable where
  trainingCaseCount : ℕ
  discriminativeTokens : Label → Counter
  tokensSharedAcrossFamilies : List String

/-- The entries of a counter, sorted by their keys. -/
def sortCounter (counter : Counter) : Counter := counter.mergeSort fun a b => a.1 ≤ b.1

/-- The function `_keyword_table`. -/
def keywordTable (words : Words) (labels : Labels) (caseIds : List String) :
    Except Raised KeywordTable := do
  let families ← familiesOf words labels caseIds
  let familiesPerToken := countAll [] (LABELS.flatMap fun label => (families label).map Prod.fst)
  return {
    trainingCaseCount := caseIds.length
    discriminativeTokens := fun label =>
      (sortCounter (families label)).filter fun entry => familiesPerToken.lookup entry.1 = some 1
    tokensSharedAcrossFamilies :=
      sortTexts ((familiesPerToken.filter fun entry => 1 < entry.2).map Prod.fst) }

variable {F : Type} (r : Runtime F)

/-- The function `_jaccard`. -/
def jaccard (left right : List String) : F :=
  if left = [] ∧ right = [] then r.ofText "1.0"
  else r.ratio (left.dedup.filter fun word => word ∈ right).length (left ++ right).dedup.length

/-- What is found for a case that is held out. -/
structure Fold (F : Type) where
  caseId : String
  trainingCaseIds : List String
  incidentTokens : List String
  votes : Counter
  matchedTokens : List (String × List String)
  prediction : String
  nearestNeighbourPrediction : String
  nearestNeighbourSimilarity : F

/-- The words of a case that speak for a label. -/
def hits (table : KeywordTable) (tokens : List String) (label : Label) : List String :=
  tokens.filter fun token => ((table.discriminativeTokens label).lookup token).isSome

/-- The words that speak for each label, where there are some. -/
def matched (table : KeywordTable) (tokens : List String) : List (String × List String) :=
  LABELS.filterMap fun label =>
    if hits table tokens label = [] then none else some (label.value, hits table tokens label)

/-- The votes of the neighbours that are most alike. -/
def neighbourVotes (labels : Labels) (similarities : List (F × String)) (best : F) :
    Except Raised Counter := do
  let found ← ((similarities.filter fun entry => r.eq entry.1 best).map Prod.snd).mapM (find labels)
  return countAll [] found

def foldOf (words : Words) (labels : Labels) (caseIds : List String) (caseId : String) :
    Except Raised (Fold F) := do
  let training := caseIds.filter fun other => other ≠ caseId
  if training.length ≠ caseIds.length - 1 ∨ caseId ∈ training then
    throw (.governance "leave-one-out fold retained the held-out case")
  let table ← keywordTable words labels training
  let heldOut ← find words caseId
  let found := matched table heldOut
  let votes := found.map fun entry => (entry.1, entry.2.length)
  let similarities ← training.mapM fun other => do
    let tokens ← find words other
    return (jaccard r heldOut tokens, other)
  let best ← maximum r (similarities.map Prod.fst)
  let neighbours ← neighbourVotes r labels similarities best
  let nearest ← (mostFrequent neighbours).elim (.error .builtin) .ok
  return {
    caseId
    trainingCaseIds := training
    incidentTokens := heldOut
    votes
    matchedTokens := found
    prediction := (mostFrequent votes).getD ABSTAIN
    nearestNeighbourPrediction := nearest
    nearestNeighbourSimilarity := best }

structure Classification (F : Type) where
  folds : List (Fold F)
  displayKeywordTable : KeywordTable

/-- The function `classify_descriptions_loo`. -/
def classifyDescriptionsLoo (words : Words) (labels : Labels) : Except Raised (Classification F) := do
  let caseIds := sortTexts (words.map Prod.fst)
  let folds ← caseIds.mapM (foldOf r words labels caseIds)
  let table ← keywordTable words labels caseIds
  return ⟨folds, table⟩

/-- The predictions by case. -/
def Classification.predictions (run : Classification F) : List (String × String) :=
  run.folds.map fun fold => (fold.caseId, fold.prediction)

def Classification.nearestNeighbourPredictions (run : Classification F) : List (String × String) :=
  run.folds.map fun fold => (fold.caseId, fold.nearestNeighbourPrediction)

/-! ### Numbers -/

/-- Whether a key is sealed. -/
def Sealed (name : String) : Prop :=
  name ∈ FORBIDDEN_PUBLIC_KEYS ∨ "stimulus".toList <:+: (r.casefold name).toList

instance (name : String) : Decidable (Sealed r name) := inferInstanceAs (Decidable (_ ∨ _))

/-- The function `_assert_no_forbidden_input`, on all the keys of what a classifier is given. -/
def assertNoForbiddenInput (keys : List String) (classifier caseId : String) : Except Raised Unit :=
  let found := sortTexts (keys.filter fun name => Sealed r name).dedup
  if found ≠ [] then
    .error (.governance ("classifier " ++ classifier ++ " input for " ++ caseId ++
      " carries sealed keys: " ++ ", ".intercalate found))
  else .ok ()

/-- The function `casefold` on texts of ASCII characters. -/
def Folds (r : Runtime F) : Prop :=
  ∀ s : String, (∀ c ∈ s.toList, c.val < 128) → (r.casefold s).toList = s.toList.map Char.toLower

/-- What is measured of the signal of a label. -/
structure RootSignal (F : Type) where
  kind : Kind
  field : String
  service : Service
  quantum : F
  relativeFloorFraction : Option F
  relativeFloor : Option F
  healthyMedian : F
  faultMax : F
  incidentExcess : F
  threshold : F
  qualifies : Bool
  standardizedExcess : F

def rootSignalKeys : List String :=
  ["kind", "field", "service", "quantum", "relative_floor_fraction", "relative_floor", "healthy_median",
    "fault_max", "incident_excess", "threshold", "qualifies", "standardized_excess"]

def rootSignal (packet : Document) (label : Label) : Except Raised (Label × RootSignal F) := do
  let signal := ROOT_SIGNAL_FEATURES label
  let healthy ← featureValues r packet label .rootSignal .healthy
  let fault ← featureValues r packet label .rootSignal .fault
  let healthyMedian ← median r healthy
  let faultMax ← maximum r fault
  let excess := r.sub faultMax healthyMedian
  let quantum := r.ofText signal.quantum
  let floor := (RELATIVE_ROOT_SIGNAL_FLOORS label).map fun fraction =>
    r.mul healthyMedian (r.ofText fraction)
  let threshold := floor.elim quantum (r.max quantum)
  return (label, {
    kind := signal.kind
    field := signal.field
    service := TARGET_SERVICES label
    quantum
    relativeFloorFraction := (RELATIVE_ROOT_SIGNAL_FLOORS label).map r.ofText
    relativeFloor := floor
    healthyMedian
    faultMax
    incidentExcess := excess
    threshold
    qualifies := r.le threshold excess
    standardizedExcess := r.div (r.sub excess threshold) (r.max threshold quantum) })

structure RootSignalFeatures (F : Type) where
  caseId : String
  labels : List (Label × RootSignal F)

/-- The keys of the features of a packet. -/
def rootSignalFeatureKeys : List String :=
  ["case_id", "labels"] ++ LABELS.flatMap fun label => label.value :: rootSignalKeys

def rootSignalFeatures (packet : Document) : Except Raised (RootSignalFeatures F) := do
  let _ ← validateObservationPacketV3 r packet
  let caseId := r.str (get packet "case_id")
  let labels ← LABELS.mapM (rootSignal r packet)
  assertNoForbiddenInput r rootSignalFeatureKeys "B" caseId
  return ⟨caseId, labels⟩

/-- The label that comes first in the order of scores and labels. -/
def leading : List (F × Label) → String
  | [] => ABSTAIN
  | first :: others =>
    (others.foldl (fun best other => if r.precedes other best then other else best) first).2.value

def classifyRootSignal (features : RootSignalFeatures F) : String :=
  leading r ((features.labels.filter fun entry => entry.2.qualifies).map fun entry =>
    (entry.2.standardizedExcess, entry.1))

variable {r}

/-! ### Keys that are not sealed -/

/-- A key that is open to a classifier. -/
def openKey (name : String) : Bool :=
  (name.toList.all fun c => decide (c.val < 128)) && decide (name ∉ FORBIDDEN_PUBLIC_KEYS) &&
    decide ¬"stimulus".toList <:+: name.toList.map Char.toLower

theorem not_sealed_of_openKey (hfolds : Folds r) {name : String} (h : openKey name = true) :
    ¬Sealed r name := by
  rw [openKey, Bool.and_eq_true, Bool.and_eq_true, List.all_eq_true] at h
  obtain ⟨⟨hascii, hpublic⟩, hstimulus⟩ := h
  rw [Sealed, hfolds name fun c hc => of_decide_eq_true (hascii c hc)]
  exact not_or_intro (of_decide_eq_true hpublic) (of_decide_eq_true hstimulus)

variable {keys : List String}

theorem assertNoForbiddenInput_eq_ok (hfolds : Folds r) (h : keys.all openKey = true)
    (classifier caseId : String) : assertNoForbiddenInput r keys classifier caseId = .ok () := by
  have hnone : keys.filter (fun name => Sealed r name) = [] := by
    refine List.filter_eq_nil_iff.2 fun name hname => ?_
    rw [decide_eq_true_eq]
    exact not_sealed_of_openKey hfolds (List.all_eq_true.1 h name hname)
  unfold assertNoForbiddenInput
  dsimp only
  rw [hnone, List.dedup_nil, sortTexts, List.mergeSort_nil]
  exact if_neg (not_not_intro rfl)

theorem openKey_value (label : Label) : openKey label.value = true := by
  cases label <;> decide +kernel

theorem openKey_labelled (h : keys.all openKey = true) :
    (LABELS.flatMap fun label => label.value :: keys).all openKey = true := by
  refine List.all_eq_true.2 fun name hname => ?_
  obtain ⟨label, -, hname⟩ := List.mem_flatMap.1 hname
  rcases List.mem_cons.1 hname with rfl | hname
  · exact openKey_value label
  · exact List.all_eq_true.1 h name hname

theorem openKey_rootSignalFeatureKeys : rootSignalFeatureKeys.all openKey = true := by
  rw [rootSignalFeatureKeys, List.all_append, Bool.and_eq_true]
  exact ⟨by decide +kernel, openKey_labelled (by decide +kernel)⟩

/-! ### The numbers of an accepted packet -/

variable {caseIds : List String} {words : Words} {labels labels' : Labels} {caseId : String}

theorem exists_maximum {values : List F} (h : values ≠ []) : ∃ x, maximum r values = .ok x := by
  cases values with
  | nil => exact absurd rfl h
  | cons x xs => exact ⟨_, rfl⟩

/-- **The signal of a label can be measured** where its samples are numbered with integers. -/
theorem exists_rootSignal {packet : Document} (h : Accepted r packet) (label : Label)
    (hnumbered : Numbered r packet (ROOT_SIGNAL_FEATURES label).kind) :
    ∃ entry, rootSignal r packet label = .ok entry := by
  obtain ⟨healthy, hhealthy, hcount⟩ := exists_featureValues h label .rootSignal hnumbered .healthy
  obtain ⟨fault, hfault, hlength⟩ := exists_featureValues h label .rootSignal hnumbered .fault
  obtain ⟨level, hlevel⟩ := exists_median hcount
  obtain ⟨top, htop⟩ : ∃ top, maximum r fault = .ok top := by
    refine exists_maximum ?_
    rintro rfl
    cases hlength
  exact ⟨_, bind_eq_ok.2 ⟨healthy, hhealthy, bind_eq_ok.2 ⟨fault, hfault, bind_eq_ok.2 ⟨level, hlevel,
    bind_eq_ok.2 ⟨top, htop, rfl⟩⟩⟩⟩⟩

theorem exists_rootSignalFeatures (hfolds : Folds r) {packet : Document} (h : Accepted r packet)
    (hnumbered : ∀ label, Numbered r packet (ROOT_SIGNAL_FEATURES label).kind) :
    ∃ features, rootSignalFeatures r packet = .ok features := by
  obtain ⟨entries, hentries⟩ := exists_mapM_eq_ok fun label (_ : label ∈ LABELS) =>
    exists_rootSignal h label (hnumbered label)
  exact ⟨_, bind_eq_ok.2 ⟨_, validate_eq_ok_iff.2 ⟨h, rfl⟩, bind_eq_ok.2 ⟨entries, hentries,
    bind_eq_ok.2 ⟨(), assertNoForbiddenInput_eq_ok hfolds openKey_rootSignalFeatureKeys _ _, rfl⟩⟩⟩⟩

/-! ### The held-out case -/

/-- A table depends only on the labels of its cases. -/
theorem keywordTable_congr (h : ∀ caseId ∈ caseIds, labels.lookup caseId = labels'.lookup caseId) :
    keywordTable words labels caseIds = keywordTable words labels' caseIds := by
  have hfold : ∀ (caseIds : List String) (families : Families),
      (∀ caseId ∈ caseIds, labels.lookup caseId = labels'.lookup caseId) →
      caseIds.foldlM (fun families caseId => do
        let label ← find labels caseId
        let tokens ← find words caseId
        addWords families label tokens) families =
      caseIds.foldlM (fun families caseId => do
        let label ← find labels' caseId
        let tokens ← find words caseId
        addWords families label tokens) families := by
    intro caseIds
    induction caseIds with
    | nil => exact fun _ _ => rfl
    | cons caseId caseIds ih =>
      intro families h
      obtain ⟨hcase, hrest⟩ := List.forall_mem_cons.1 h
      rw [List.foldlM_cons, List.foldlM_cons, find, find, hcase]
      exact congrArg _ (funext fun families => ih families hrest)
  rw [keywordTable, keywordTable, familiesOf, hfold caseIds _ h]
  rfl

theorem mem_training {other : String} :
    other ∈ (caseIds.filter fun other => other ≠ caseId) ↔ other ∈ caseIds ∧ other ≠ caseId := by
  rw [List.mem_filter, decide_eq_true_eq]

theorem snd_of_similarities {heldOut : List String} {training : List String}
    {similarities : List (F × String)} (h : training.mapM (fun other => do
      let tokens ← find words other
      return (jaccard r heldOut tokens, other)) = Except.ok (ε := Raised) similarities) :
    similarities.map Prod.snd = training := by
  refine map_of_mapM_eq_ok h fun other entry hentry => ?_
  obtain ⟨tokens, -, hentry⟩ := bind_eq_ok.1 hentry
  rw [← Except.ok.inj hentry]

/-- **The fold of a case does not depend on the label of the case.** -/
theorem foldOf_of_agree (h : ∀ other, other ≠ caseId → labels.lookup other = labels'.lookup other)
    {fold : Fold F} (hfold : foldOf r words labels caseIds caseId = .ok fold) :
    foldOf r words labels' caseIds caseId = .ok fold := by
  obtain ⟨hlength, hfold⟩ := check_eq_ok.1 hfold
  obtain ⟨table, htable, hfold⟩ := bind_eq_ok.1 hfold
  obtain ⟨heldOut, hheld, hfold⟩ := bind_eq_ok.1 hfold
  obtain ⟨similarities, hsimilarities, hfold⟩ := bind_eq_ok.1 hfold
  obtain ⟨best, hbest, hfold⟩ := bind_eq_ok.1 hfold
  obtain ⟨neighbours, hneighbours, hfold⟩ := bind_eq_ok.1 hfold
  rw [keywordTable_congr fun other hother => h other (mem_training.1 hother).2] at htable
  have hothers : ∀ other ∈ (similarities.filter fun entry => r.eq entry.1 best).map Prod.snd,
      find labels other = find labels' other := by
    intro other hother
    obtain ⟨entry, hentry, rfl⟩ := List.mem_map.1 hother
    have hmem : entry.2 ∈ similarities.map Prod.snd :=
      List.mem_map_of_mem (List.mem_filter.1 hentry).1
    rw [snd_of_similarities hsimilarities] at hmem
    rw [find, find, h _ (mem_training.1 hmem).2]
  unfold neighbourVotes at hneighbours
  rw [mapM_congr hothers] at hneighbours
  exact check_eq_ok.2 ⟨hlength, bind_eq_ok.2 ⟨table, htable, bind_eq_ok.2 ⟨heldOut, hheld,
    bind_eq_ok.2 ⟨similarities, hsimilarities, bind_eq_ok.2 ⟨best, hbest,
      bind_eq_ok.2 ⟨neighbours, hneighbours, hfold⟩⟩⟩⟩⟩⟩

/-! ### Other labels -/

theorem find_eq_ok_of_mem {α : Type} {entries : List (String × α)} {key : String}
    (h : key ∈ entries.map Prod.fst) : ∃ value, find entries key = .ok value := by
  induction entries with
  | nil => cases h
  | cons entry entries ih =>
    obtain ⟨other, value⟩ := entry
    rw [find, List.lookup_cons]
    by_cases heq : key = other
    · rw [heq, beq_self_eq_true]
      exact ⟨value, rfl⟩
    · rw [beq_eq_false_iff_ne.2 heq]
      exact ih ((List.mem_cons.1 h).resolve_left heq)

theorem increment_ne_nil (counter : Counter) (key : String) : increment counter key ≠ [] := by
  unfold increment
  split
  · rename_i hany
    rintro hmap
    rw [List.map_eq_nil_iff.1 hmap] at hany
    cases hany
  · exact List.append_ne_nil_of_right_ne_nil _ (List.cons_ne_nil _ _)

theorem countAll_ne_nil (h : keys ≠ []) (counter : Counter) : countAll counter keys ≠ [] := by
  have hkeep : ∀ (keys : List String) (counter : Counter),
      counter ≠ [] → countAll counter keys ≠ [] := by
    intro keys
    induction keys with
    | nil => exact fun _ h => h
    | cons key keys ih => exact fun counter _ => ih _ (increment_ne_nil counter key)
  cases keys with
  | nil => exact absurd rfl h
  | cons key keys => exact hkeep keys _ (increment_ne_nil counter key)

/-- Every case has a label that is registered. -/
def Assigned (labels : Labels) (caseIds : List String) : Prop :=
  ∀ caseId ∈ caseIds, ∃ label : Label, labels.lookup caseId = some label.value

theorem find_of_assigned {label : Label} (h : labels.lookup caseId = some label.value) :
    find labels caseId = .ok label.value := by
  rw [find, h]
  rfl

theorem exists_addWords (families : Families) (label : Label) (tokens : List String) :
    ∃ later, addWords families label.value tokens = .ok later := by
  unfold addWords
  rw [Label.ofText_value]
  split
  · exact ⟨families, rfl⟩
  · exact ⟨_, rfl⟩

theorem exists_keywordTable (hwords : ∀ caseId ∈ caseIds, caseId ∈ words.map Prod.fst)
    (h : Assigned labels caseIds) : ∃ table, keywordTable words labels caseIds = .ok table := by
  have hfamilies : ∀ families, ∃ later, caseIds.foldlM (fun families caseId => do
      let label ← find labels caseId
      let tokens ← find words caseId
      addWords families label tokens) families = Except.ok (ε := Raised) later := by
    induction caseIds with
    | nil => exact fun families => ⟨families, rfl⟩
    | cons caseId caseIds ih =>
      intro families
      obtain ⟨hword, hwords⟩ := List.forall_mem_cons.1 hwords
      obtain ⟨hlabel, h⟩ := List.forall_mem_cons.1 h
      obtain ⟨label, hlabel⟩ := hlabel
      obtain ⟨tokens, htokens⟩ := find_eq_ok_of_mem hword
      obtain ⟨later, hlater⟩ := exists_addWords families label tokens
      obtain ⟨last, hlast⟩ := ih hwords h later
      refine ⟨last, ?_⟩
      rw [List.foldlM_cons]
      exact bind_eq_ok.2 ⟨later, bind_eq_ok.2 ⟨_, find_of_assigned hlabel,
        bind_eq_ok.2 ⟨tokens, htokens, hlater⟩⟩, hlast⟩
  obtain ⟨families, hfamilies⟩ := hfamilies fun _ => []
  exact ⟨_, bind_eq_ok.2 ⟨families, hfamilies, rfl⟩⟩

/-- A fold that exists for some labels exists for others. -/
theorem exists_foldOf (hwords : ∀ caseId ∈ caseIds, caseId ∈ words.map Prod.fst)
    (h : Assigned labels' caseIds) {fold : Fold F}
    (hfold : foldOf r words labels caseIds caseId = .ok fold) :
    ∃ fold', foldOf r words labels' caseIds caseId = .ok fold' := by
  obtain ⟨hlength, hfold⟩ := check_eq_ok.1 hfold
  obtain ⟨table, -, hfold⟩ := bind_eq_ok.1 hfold
  obtain ⟨heldOut, hheld, hfold⟩ := bind_eq_ok.1 hfold
  obtain ⟨similarities, hsimilarities, hfold⟩ := bind_eq_ok.1 hfold
  obtain ⟨best, hbest, hfold⟩ := bind_eq_ok.1 hfold
  obtain ⟨neighbours, hneighbours, hfold⟩ := bind_eq_ok.1 hfold
  obtain ⟨nearest, hnearest, -⟩ := bind_eq_ok.1 hfold
  have htraining : Assigned labels' (caseIds.filter fun other => other ≠ caseId) :=
    fun other hother => h other (mem_training.1 hother).1
  obtain ⟨table', htable'⟩ := exists_keywordTable
    (fun other hother => hwords other (mem_training.1 hother).1) htraining
  obtain ⟨found, hfound, hcounted⟩ := bind_eq_ok.1 hneighbours
  -- The neighbours are the same, and there is one of them.
  have hsome : found ≠ [] := by
    rintro rfl
    cases hcounted
    cases hnearest
  obtain ⟨found', hfound'⟩ : ∃ found', ((similarities.filter fun entry => r.eq entry.1 best).map
      Prod.snd).mapM (find labels') = .ok found' := by
    refine exists_mapM_eq_ok fun other hother => ?_
    obtain ⟨entry, hentry, rfl⟩ := List.mem_map.1 hother
    have hmem : entry.2 ∈ similarities.map Prod.snd :=
      List.mem_map_of_mem (List.mem_filter.1 hentry).1
    rw [snd_of_similarities hsimilarities] at hmem
    obtain ⟨label, hlabel⟩ := h _ (mem_training.1 hmem).1
    exact ⟨_, find_of_assigned hlabel⟩
  have hsome' : found' ≠ [] := by
    have hlength' := (mapM_eq_ok.1 hfound').length_eq.symm.trans (mapM_eq_ok.1 hfound).length_eq
    rintro rfl
    exact hsome (List.length_eq_zero_iff.1 hlength'.symm)
  cases hcounter : countAll [] found' with
  | nil => exact absurd hcounter (countAll_ne_nil hsome' [])
  | cons entry entries =>
    have hvotes : neighbourVotes r labels' similarities best = .ok (entry :: entries) :=
      bind_eq_ok.2 ⟨found', hfound', congrArg Except.ok hcounter⟩
    exact ⟨_, check_eq_ok.2 ⟨hlength, bind_eq_ok.2 ⟨table', htable', bind_eq_ok.2 ⟨heldOut, hheld,
      bind_eq_ok.2 ⟨similarities, hsimilarities, bind_eq_ok.2 ⟨best, hbest,
        bind_eq_ok.2 ⟨_, hvotes, bind_eq_ok.2 ⟨_, rfl, rfl⟩⟩⟩⟩⟩⟩⟩⟩

/-- **Other labels of the same cases can be classified as well.** -/
theorem exists_classification {run : Classification F} (h : Assigned labels' (words.map Prod.fst))
    (hrun : classifyDescriptionsLoo r words labels = .ok run) :
    ∃ run', classifyDescriptionsLoo r words labels' = .ok run' := by
  obtain ⟨folds, hfolds, -⟩ := bind_eq_ok.1 hrun
  have hwords : ∀ caseId ∈ sortTexts (words.map Prod.fst), caseId ∈ words.map Prod.fst :=
    fun caseId hcaseId => List.mem_mergeSort.1 hcaseId
  have hassigned : Assigned labels' (sortTexts (words.map Prod.fst)) :=
    fun caseId hcaseId => h caseId (hwords caseId hcaseId)
  obtain ⟨folds', hfolds'⟩ : ∃ folds', (sortTexts (words.map Prod.fst)).mapM
      (foldOf r words labels' (sortTexts (words.map Prod.fst))) = .ok folds' := by
    refine exists_mapM_eq_ok fun caseId hcaseId => ?_
    obtain ⟨fold, hfold⟩ := mem_of_mapM_eq_ok hfolds hcaseId
    exact exists_foldOf hwords hassigned hfold
  obtain ⟨table', htable'⟩ := exists_keywordTable hwords hassigned
  exact ⟨_, bind_eq_ok.2 ⟨folds', hfolds', bind_eq_ok.2 ⟨table', htable', rfl⟩⟩⟩

theorem caseId_of_foldOf {fold : Fold F} (hfold : foldOf r words labels caseIds caseId = .ok fold) :
    fold.caseId = caseId := by
  obtain ⟨-, hfold⟩ := check_eq_ok.1 hfold
  obtain ⟨table, -, hfold⟩ := bind_eq_ok.1 hfold
  obtain ⟨heldOut, -, hfold⟩ := bind_eq_ok.1 hfold
  obtain ⟨similarities, -, hfold⟩ := bind_eq_ok.1 hfold
  obtain ⟨best, -, hfold⟩ := bind_eq_ok.1 hfold
  obtain ⟨neighbours, -, hfold⟩ := bind_eq_ok.1 hfold
  obtain ⟨nearest, -, hfold⟩ := bind_eq_ok.1 hfold
  rw [← Except.ok.inj hfold]

/-- What two runs say of a case that they find the same for. -/
theorem lookup_of_folds {f f' : String → Except Raised (Fold F)} {α : Type} (value : Fold F → α)
    {folds folds' : List (Fold F)} (hf : ∀ id fold, f id = .ok fold → fold.caseId = id)
    (hf' : ∀ id fold, f' id = .ok fold → fold.caseId = id)
    (hsame : ∀ fold, f caseId = .ok fold → f' caseId = .ok fold) (h : caseIds.mapM f = .ok folds)
    (h' : caseIds.mapM f' = .ok folds') :
    (folds.map fun fold => (fold.caseId, value fold)).lookup caseId =
      (folds'.map fun fold => (fold.caseId, value fold)).lookup caseId := by
  have hall := mapM_eq_ok.1 h
  have hall' := mapM_eq_ok.1 h'
  clear h h'
  induction hall generalizing folds' with
  | nil =>
    cases hall'
    rfl
  | @cons id fold ids folds hfold _ ih =>
    cases hall' with
    | @cons _ fold' _ folds' hfold' hrest =>
      rw [List.map_cons, List.map_cons, List.lookup_cons, List.lookup_cons, hf id fold hfold,
        hf' id fold' hfold']
      by_cases heq : caseId = id
      · subst heq
        rw [hsame fold hfold] at hfold'
        cases hfold'
        rw [beq_self_eq_true]
      · rw [beq_eq_false_iff_ne.2 heq]
        exact ih hrest

end MetricV3
