/-
**The probe of which groups are there.**

`presence_only_probe_v3` asks how much of the labels the mere presence of evidence gives away.  The
signature of a packet is the list of the kinds of its groups that hold samples; for each signature the
labels of its cases are counted, and a classifier that knows the signature names the most frequent label,
or the three most frequent ones.

A packet is only accepted if each of the six kinds has a group with seven samples.  So there is one
signature, and what the probe reports depends on how often each label is sealed, and on nothing in the
packets.

Main definitions:

* `MetricV3.signatureOf`, `MetricV3.ordered` — the signature of a packet, and a counter in its order;
* `MetricV3.presenceOnlyProbeV3` — the probe;
* `MetricV3.faultClasses` — the labels of a document;
* `MetricV3.largestCounts` — how often the most frequent ones of some labels occur.

Main results:

* `MetricV3.signatureOf_accepted` — an accepted packet has all kinds in its signature;
* `MetricV3.rootCauses_of_scenarioCases` — the cases have the labels of the document;
* `MetricV3.presenceOnlyProbeV3_eq` — **what the probe reports**;
* `MetricV3.presence_blind` — **the probe does not see what the packets contain**.
-/

import FaultWitness.Groupings
import FaultWitness.HeldOutCases
import FaultWitness.OrderStatistics

set_option autoImplicit false

namespace MetricV3

open Python FlagDocuments
open ScenarioRuns (Value)

variable {F : Type} (r : Runtime F)

/-! ### The probe -/

/-- What a loop over a value goes through. -/
def elements : Json → Except Raised (List Json)
  | .arr items => .ok items
  | .obj fields => .ok (fields.map fun field => .str field.1)
  | .str text => .ok (text.toList.map fun c => .str c.toString)
  | _ => .error .builtin

/-- The kinds of the groups of a packet that hold samples. -/
def signatureOf (packet : Document) : Except Raised (List String) := do
  let observations ← member packet "observations"
  let observations ← elements observations
  let present := (observations.filterMap mapping).filter fun group =>
    (Value.json (get group "samples")).truthy
  let kinds ← present.mapM fun group => do
    let kind ← member group "kind"
    return r.str kind
  return sortTexts kinds

abbrev SignatureLabels := List (List String × Counter)

/-- One more of a label for a signature, whose counter is empty before its first label. -/
def updateLabels (signature : List String) (label : String) : SignatureLabels → SignatureLabels
  | [] => [(signature, increment [] label)]
  | (other, counts) :: rest =>
    if other = signature then (other, increment counts label) :: rest
    else (other, counts) :: updateLabels signature label rest

def signatureLabels : Cases → SignatureLabels → Except Raised SignatureLabels
  | [], labels => .ok labels
  | (_, case) :: cases, labels => do
    let signature ← signatureOf r case.packet
    signatureLabels cases (updateLabels signature case.groundTruth.rootCause labels)

/-- The items of a counter: the largest counts first, and equal counts by their labels. -/
def ordered (counts : Counter) : Counter :=
  counts.mergeSort fun a b => b.2 < a.2 || (a.2 = b.2 && a.1 ≤ b.1)

/-- How many cases one label for each signature names, and how many three labels name. -/
def topCounts : SignatureLabels → Except Raised (ℕ × ℕ)
  | [] => .ok (0, 0)
  | (_, counts) :: rest =>
    match ordered counts with
    | [] => .error .builtin
    | first :: others => do
      let (top1, top3) ← topCounts rest
      return (first.2 + top1, (((first :: others).take 3).map Prod.snd).sum + top3)

structure GroupCompleteness where
  status : String
  requiredGroups : List String
  completeCaseCount : ℕ
  incompleteCaseIds : List String

structure PresenceReport (F : Type) where
  classifier : String
  groupCompleteness : GroupCompleteness
  signatureCount : ℕ
  caseCount : ℕ
  top1Count : ℕ
  top1 : F
  top3Count : ℕ
  top3 : F
  expectedTop1Count : ℕ
  maximumTop3Count : ℕ
  status : String

/-- The report of so many signatures and cases. -/
def presenceReport (signatureCount caseCount top1 top3 : ℕ) : PresenceReport F where
  classifier := "nonempty-group-signature-majority-prior"
  groupCompleteness :=
    { status := "pass", requiredGroups := EVIDENCE_KINDS.map Kind.value, completeCaseCount := caseCount,
      incompleteCaseIds := [] }
  signatureCount
  caseCount
  top1Count := top1
  top1 := r.ratio top1 caseCount
  top3Count := top3
  top3 := r.ratio top3 caseCount
  expectedTop1Count := 8
  maximumTop3Count := 20
  status := if top1 = 8 ∧ top3 ≤ 20 then "pass" else "fail"

def presenceOnlyProbeV3 (document : Document) : Except Raised (PresenceReport F) := do
  let cases ← scenarioCasesV3 r document
  let labels ← signatureLabels r cases []
  let (top1, top3) ← topCounts labels
  return presenceReport r labels.length cases.length top1 top3

/-! ### What the probe is about -/

/-- The label that a trial is sealed with. -/
def faultClass (record : Json) : Option String := do
  let record ← mapping record
  let payload ← mapping (get record "payload")
  return r.str ((payload.lookup "fault_class").getD (.str ""))

/-- The labels of the trials of a document. -/
def faultClasses (document : Document) : List String :=
  (items (get document "trials")).filterMap (faultClass r)

/-- How often each of some labels occurs, the largest count first. -/
def descendingCounts (labels : List String) : List ℕ :=
  (OrderStatistics.sorted (labels.eraseDups.map fun label => labels.count label)).reverse

/-- How often the most frequent ones of some labels occur together. -/
def largestCounts (k : ℕ) (labels : List String) : ℕ := ((descendingCounts labels).take k).sum

theorem descendingCounts_eq_of_perm {labels labels' : List String} (h : labels.Perm labels') :
    descendingCounts labels = descendingCounts labels' := by
  have hcount : (fun label => labels.count label) = fun label => labels'.count label := by
    funext label
    exact h.count_eq label
  unfold descendingCounts
  rw [hcount, OrderStatistics.sorted_eq_of_perm ((Groupings.keys_perm h).map _)]

theorem isGreatest_head {labels : List String} {count : ℕ} {counts : List ℕ}
    (h : descendingCounts labels = count :: counts) :
    IsGreatest (Set.range fun label => labels.count label) count := by
  have hmem : ∀ n, n ∈ count :: counts ↔ ∃ label ∈ labels, labels.count label = n := by
    intro n
    rw [← h, descendingCounts, List.mem_reverse, OrderStatistics.mem_sorted, List.mem_map]
    simp only [List.mem_eraseDups]
  have hsorted : (count :: counts).Pairwise fun m n => n ≤ m := by
    rw [← h, descendingCounts, List.pairwise_reverse]
    exact OrderStatistics.pairwise_sorted _
  refine ⟨?_, ?_⟩
  · obtain ⟨label, -, hlabel⟩ := (hmem count).1 List.mem_cons_self
    exact ⟨label, hlabel⟩
  · rintro n ⟨label, rfl⟩
    by_cases hlabel : label ∈ labels
    · rcases List.mem_cons.1 ((hmem _).2 ⟨label, hlabel, rfl⟩) with heq | hrest
      · exact heq.le
      · exact (List.pairwise_cons.1 hsorted).1 _ hrest
    · simp [List.count_eq_zero_of_not_mem hlabel]

/-! ### Counting -/

theorem increment_map {keys : List String} (counts : String → ℕ) (key : String) :
    increment (keys.map fun k => (k, counts k)) key =
      if key ∈ keys then keys.map fun k => (k, if k = key then counts k + 1 else counts k)
      else (keys.map fun k => (k, counts k)) ++ [(key, 1)] := by
  have hany : ((keys.map fun k => (k, counts k)).any fun entry => entry.1 = key) = true ↔ key ∈ keys := by
    simp
  unfold increment
  by_cases hmem : key ∈ keys
  · rw [if_pos (hany.2 hmem), if_pos hmem, List.map_map]
    refine List.map_congr_left ?_
    intro k _
    by_cases heq : k = key
    · simp [heq]
    · simp [heq]
  · rw [if_neg fun h => hmem (hany.1 h), if_neg hmem]

/-- What a counter holds: each key once, with the number of its occurrences. -/
theorem countAll_eq (keys : List String) :
    countAll [] keys = keys.eraseDups.map fun key => (key, keys.count key) := by
  induction keys using List.reverseRecOn with
  | nil => simp [countAll]
  | append_singleton keys key ih =>
    have hstep : countAll [] (keys ++ [key]) = increment (countAll [] keys) key := by
      simp [countAll, List.foldl_append]
    rw [hstep, ih, increment_map, Groupings.eraseDups_concat]
    simp only [List.mem_eraseDups]
    by_cases hmem : key ∈ keys
    · rw [if_pos hmem, if_pos hmem]
      refine List.map_congr_left ?_
      intro k _
      by_cases heq : k = key
      · simp [heq]
      · have hne : key ≠ k := fun h => heq h.symm
        simp [heq, List.count_append, hne]
    · rw [if_neg hmem, if_neg hmem, List.map_append]
      congr 1
      · refine List.map_congr_left ?_
        intro k hk
        have hne : key ≠ k := by
          intro h
          exact hmem (h ▸ List.mem_eraseDups.1 hk)
        simp [List.count_append, hne]
      · simp [List.count_append, List.count_eq_zero_of_not_mem hmem]

theorem map_snd_ordered (keys : List String) :
    (ordered (countAll [] keys)).map Prod.snd = descendingCounts keys := by
  have hperm : ((ordered (countAll [] keys)).map Prod.snd).Perm
      (keys.eraseDups.map fun key => keys.count key) := by
    have h := (List.mergeSort_perm (countAll [] keys) fun a b => b.2 < a.2 || (a.2 = b.2 && a.1 ≤ b.1)).map
      Prod.snd
    rw [countAll_eq, List.map_map] at h
    rw [countAll_eq]
    exact h
  have hsorted : ((ordered (countAll [] keys)).map Prod.snd).Pairwise fun m n => n ≤ m := by
    rw [List.pairwise_map]
    refine (List.pairwise_mergeSort ?_ ?_ (countAll [] keys)).imp ?_
    · intro a b c hab hbc
      simp only [Bool.or_eq_true, Bool.and_eq_true, decide_eq_true_eq] at hab hbc ⊢
      rcases hab with hab | ⟨hab, hab'⟩
      · omega
      · rcases hbc with hbc | ⟨hbc, hbc'⟩
        · omega
        · exact .inr ⟨hab.trans hbc, String.le_trans hab' hbc'⟩
    · intro a b
      simp only [Bool.or_eq_true, Bool.and_eq_true, decide_eq_true_eq]
      have htotal := String.le_total a.1 b.1
      by_cases heq : a.2 = b.2
      · rcases htotal with h | h
        · exact .inl (.inr ⟨heq, h⟩)
        · exact .inr (.inr ⟨heq.symm, h⟩)
      · omega
    · intro a b hab
      simp only [Bool.or_eq_true, Bool.and_eq_true, decide_eq_true_eq] at hab
      omega
  unfold descendingCounts
  rw [← OrderStatistics.eq_sorted ((List.reverse_perm _).trans hperm) (List.pairwise_reverse.2 hsorted),
    List.reverse_reverse]

variable {r}

variable {packet : Document}

/-! ### The signature of an accepted packet -/

theorem perm_kinds (h : kindsComplete r packet = true) :
    ((groups packet).map fun group => r.str (get group "kind")).Perm (EVIDENCE_KINDS.map Kind.value) := by
  have hnodup := nodup_kinds h
  unfold kindsComplete at h
  obtain ⟨⟨hsubset, hall⟩, -⟩ := (Bool.and_eq_true_iff.1 h).imp_left Bool.and_eq_true_iff.1
  have hvalues : (EVIDENCE_KINDS.map Kind.value).Nodup := by decide
  rw [List.perm_ext_iff_of_nodup hnodup hvalues]
  intro value
  constructor
  · intro hvalue
    simpa using List.all_eq_true.1 hsubset value hvalue
  · intro hvalue
    obtain ⟨kind, hkind, rfl⟩ := List.mem_map.1 hvalue
    simpa using List.all_eq_true.1 hall kind hkind

theorem present_of_accepted {group : Document} (h : Accepted r packet)
    (hgroup : group ∈ groups packet) :
    (Value.json (get group "samples")).truthy = true ∧ member group "kind" = .ok (get group "kind") := by
  obtain ⟨item, hitem, hmapping⟩ := List.mem_filterMap.1 hgroup
  obtain ⟨-, other, kind, samples, rfl, -, hfields, -, hsamples, -⟩ :=
    checkGroup_eq_ok_iff.1 (h.groups item hitem)
  cases hmapping
  obtain ⟨hget, hlength, -⟩ := checkSamples_eq_ok_iff.1 hsamples
  constructor
  · rw [hget]
    cases samples with
    | nil => cases hlength
    | cons sample samples => rfl
  · refine member_of_keysAre hfields ?_
    cases kind <;> decide

/-- The signature with all kinds. -/
def fullSignature : List String := sortTexts (EVIDENCE_KINDS.map Kind.value)

/-- **An accepted packet has all kinds in its signature.** -/
theorem signatureOf_accepted (h : Accepted r packet) :
    signatureOf r packet = .ok fullSignature := by
  have hobservations := h.observations
  cases hitems : get packet "observations" with
  | arr observations =>
    have hgroups : groups packet = observations.filterMap mapping := by
      rw [groups, hitems]
      rfl
    have hpresent : ((observations.filterMap mapping).filter fun group =>
        (Value.json (get group "samples")).truthy) = groups packet := by
      rw [← hgroups, List.filter_eq_self]
      intro group hgroup
      exact (present_of_accepted h hgroup).1
    have hkinds : ((groups packet).mapM fun group => do
        let kind ← member group "kind"
        return r.str kind) = .ok ((groups packet).map fun group => r.str (get group "kind")) := by
      refine mapM_eq_ok.2 (List.forall₂_map_right_iff.2 (List.forall₂_same.2 ?_))
      intro group hgroup
      exact bind_eq_ok.2 ⟨_, (present_of_accepted h hgroup).2, rfl⟩
    refine bind_eq_ok.2 ⟨_, member_of_get hitems nofun, bind_eq_ok.2 ⟨observations, rfl, ?_⟩⟩
    dsimp only
    rw [hpresent]
    refine bind_eq_ok.2 ⟨_, hkinds, ?_⟩
    rw [sortTexts_eq_of_perm (perm_kinds h.kinds)]
    rfl
  | null | bool | int | float | str | obj =>
    rw [hitems] at hobservations
    cases hobservations

/-! ### The labels of the cases -/

variable {cases : Cases} {canonical : Canonical} {records : List Json} {document : Document}

theorem length_assignCase_le (cases : Cases) (caseId : String) (case : Case) :
    (assignCase cases caseId case).length ≤ cases.length + 1 := by
  unfold assignCase
  split
  · rw [List.length_map]
    omega
  · rw [List.length_append, List.length_singleton]

theorem length_visitRecords_le {found : Cases}
    (h : visitRecords r records canonical cases = .ok found) :
    found.length ≤ cases.length + records.length := by
  induction records generalizing canonical cases with
  | nil =>
    cases h
    exact le_rfl
  | cons record records ih =>
    obtain ⟨⟨caseId, case, fields⟩, -, h⟩ := bind_eq_ok.1 h
    have hlength := ih h
    have hassign := length_assignCase_le cases caseId case
    rw [List.length_cons]
    omega

/-- The case of a trial has the label of the trial. -/
theorem faultClass_of_visitRecord {record : Json} {caseId : String} {case : Case}
    {fields : List (List String)}
    (h : visitRecord r canonical record = .ok (caseId, case, fields)) :
    faultClass r record = some case.groundTruth.rootCause := by
  obtain ⟨⟨packet, payload⟩, hopen, h⟩ := bind_eq_ok.1 h
  obtain ⟨signatures, -, h⟩ := bind_eq_ok.1 h
  obtain ⟨truth, htruth, h⟩ := bind_eq_ok.1 h
  obtain ⟨found, -, h⟩ := bind_eq_ok.1 h
  obtain ⟨-, h⟩ := check_eq_ok.1 h
  obtain ⟨nonzero, -, h⟩ := bind_eq_ok.1 h
  obtain ⟨-, h⟩ := check_eq_ok.1 h
  obtain ⟨family, -, h⟩ := bind_eq_ok.1 h
  cases h
  have hroot : truth.rootCause = r.str ((payload.lookup "fault_class").getD (.str "")) := by
    unfold groundTruthV3 at htruth
    split at htruth
    · cases htruth
    · rename_i label hlabel
      cases htruth
      exact Label.ofText_eq_some hlabel
  change faultClass r record = some truth.rootCause
  rw [hroot]
  unfold openRecord at hopen
  split at hopen
  · cases hopen
  · rename_i entries hentries
    split at hopen
    · cases hopen
    · split at hopen
      · cases hopen
      · rename_i fields hfields
        split at hopen
        · cases hopen
        · cases hopen
          simp [faultClass, hentries, hfields]

/-- Where every trial has a case of its own, the cases have the labels of the trials. -/
theorem rootCauses_of_visitRecords {found : Cases}
    (h : visitRecords r records canonical cases = .ok found)
    (hlength : found.length = cases.length + records.length) :
    found.map (fun entry => entry.2.groundTruth.rootCause) =
      cases.map (fun entry => entry.2.groundTruth.rootCause) ++ records.filterMap (faultClass r) := by
  induction records generalizing canonical cases with
  | nil =>
    cases h
    simp
  | cons record records ih =>
    obtain ⟨⟨caseId, case, fields⟩, hrecord, h⟩ := bind_eq_ok.1 h
    have hle := length_visitRecords_le h
    have hassign : assignCase cases caseId case = cases ++ [(caseId, case)] := by
      -- A case that replaces another one would leave too few of them.
      unfold assignCase at hle ⊢
      split
      · rename_i hany
        rw [if_pos hany, List.length_map] at hle
        rw [List.length_cons] at hlength
        omega
      · rfl
    dsimp only at h
    rw [hassign] at h
    rw [ih h (by simp only [List.length_append, List.length_cons, List.length_nil] at hlength ⊢; omega),
      List.filterMap_cons_some (faultClass_of_visitRecord hrecord)]
    simp

theorem rootCauses_of_scenarioCases (h : scenarioCasesV3 r document = .ok cases) :
    cases.map (fun entry => entry.2.groundTruth.rootCause) = faultClasses r document := by
  unfold scenarioCasesV3 at h
  unfold faultClasses
  split at h
  · rename_i trials htrials
    split at h
    · cases h
    · rename_i htrialsLength
      obtain ⟨found, hfound, h⟩ := bind_eq_ok.1 h
      obtain ⟨hlength, h⟩ := check_eq_ok.1 h
      cases h
      rw [htrials, rootCauses_of_visitRecords hfound]
      · rfl
      · rw [not_not] at hlength htrialsLength
        rw [hlength, htrialsLength]
        rfl
  · cases h

/-! ### What the probe reports -/

theorem signatureLabels_eq {signature : List String} (counts : Counter)
    (h : ∀ entry ∈ cases, signatureOf r entry.2.packet = .ok signature) :
    signatureLabels r cases [(signature, counts)] =
      .ok [(signature, countAll counts (cases.map fun entry => entry.2.groundTruth.rootCause))] := by
  induction cases generalizing counts with
  | nil => rfl
  | cons entry cases ih =>
    obtain ⟨caseId, case⟩ := entry
    obtain ⟨hentry, hcases⟩ := List.forall_mem_cons.1 h
    have hupdate : updateLabels signature case.groundTruth.rootCause [(signature, counts)] =
        [(signature, increment counts case.groundTruth.rootCause)] := by
      simp [updateLabels]
    refine bind_eq_ok.2 ⟨signature, hentry, ?_⟩
    rw [hupdate, ih _ hcases]
    rfl

/-- **What the probe reports**: one signature, and how often the most frequent labels occur. -/
theorem presenceOnlyProbeV3_eq (h : scenarioCasesV3 r document = .ok cases) :
    presenceOnlyProbeV3 r document = .ok (presenceReport r 1 32
      (largestCounts 1 (faultClasses r document)) (largestCounts 3 (faultClasses r document))) := by
  have hdataset := dataset_of_scenarioCases h
  have hlabels := rootCauses_of_scenarioCases h
  have hsignature : ∀ entry ∈ cases, signatureOf r entry.2.packet = .ok fullSignature := by
    intro entry hentry
    exact signatureOf_accepted (hdataset.sound entry hentry).packet
  have htable : signatureLabels r cases [] =
      .ok [(fullSignature, countAll [] (faultClasses r document))] := by
    rw [← hlabels]
    cases cases with
    | nil => exact absurd hdataset.length (by decide)
    | cons entry cases =>
      obtain ⟨hentry, hcases⟩ := List.forall_mem_cons.1 hsignature
      refine bind_eq_ok.2 ⟨fullSignature, hentry, ?_⟩
      exact signatureLabels_eq _ hcases
  have hne : faultClasses r document ≠ [] := by
    intro hnil
    rw [hnil] at hlabels
    have hlength := hdataset.length
    rw [List.map_eq_nil_iff.1 hlabels] at hlength
    cases hlength
  have hcounts := map_snd_ordered (faultClasses r document)
  have htops : topCounts [(fullSignature, countAll [] (faultClasses r document))] =
      .ok (largestCounts 1 (faultClasses r document), largestCounts 3 (faultClasses r document)) := by
    unfold largestCounts
    rw [← hcounts, topCounts]
    cases hordered : ordered (countAll [] (faultClasses r document)) with
    | nil =>
      have hperm := List.mergeSort_perm (countAll [] (faultClasses r document))
        fun a b => b.2 < a.2 || (a.2 = b.2 && a.1 ≤ b.1)
      rw [← ordered, hordered] at hperm
      exact absurd (List.nil_perm.1 hperm) (countAll_ne_nil hne [])
    | cons first others =>
      refine bind_eq_ok.2 ⟨(0, 0), rfl, ?_⟩
      simp only [List.map_take, List.map_cons, List.take_succ_cons, List.take_zero, List.sum_cons,
        List.sum_nil]
      rfl
  refine bind_eq_ok.2 ⟨cases, h, bind_eq_ok.2 ⟨_, htable, bind_eq_ok.2 ⟨_, htops, ?_⟩⟩⟩
  dsimp only
  rw [hdataset.length]
  rfl

theorem isGreatest_largestCounts (labels : List String) (hne : labels ≠ []) :
    IsGreatest (Set.range fun label => labels.count label) (largestCounts 1 labels) := by
  cases hcounts : descendingCounts labels with
  | nil =>
    have hlength : (descendingCounts labels).length = labels.eraseDups.length := by
      rw [descendingCounts, List.length_reverse, OrderStatistics.length_sorted, List.length_map]
    rw [hcounts] at hlength
    obtain ⟨label, hlabel⟩ := List.exists_mem_of_ne_nil labels hne
    have hmem := List.mem_eraseDups.2 hlabel
    rw [List.length_eq_zero_iff.1 hlength.symm] at hmem
    cases hmem
  | cons count counts =>
    have hhead : largestCounts 1 labels = count := by
      rw [largestCounts, hcounts]
      simp
    rw [hhead]
    exact isGreatest_head hcounts

/-- **The probe does not see what the packets contain**: it returns the same report for any two accepted
documents whose labels are the same up to their order. -/
theorem presence_blind {document document' : Document}
    (haccepted : ∃ cases, scenarioCasesV3 r document = .ok cases)
    (haccepted' : ∃ cases, scenarioCasesV3 r document' = .ok cases)
    (hlabels : (faultClasses r document).Perm (faultClasses r document')) :
    ∃ report, presenceOnlyProbeV3 r document = .ok report ∧
      presenceOnlyProbeV3 r document' = .ok report ∧
      report.signatureCount = 1 ∧
      IsGreatest (Set.range fun label => (faultClasses r document).count label) report.top1Count ∧
      report.top3Count = largestCounts 3 (faultClasses r document) := by
  obtain ⟨cases, hcases⟩ := haccepted
  obtain ⟨cases', hcases'⟩ := haccepted'
  have hcounts := descendingCounts_eq_of_perm hlabels
  have hreport' := presenceOnlyProbeV3_eq hcases'
  have hlargest : ∀ k, largestCounts k (faultClasses r document') =
      largestCounts k (faultClasses r document) := by
    intro k
    rw [largestCounts, ← hcounts, largestCounts]
  rw [hlargest, hlargest] at hreport'
  have hne : faultClasses r document ≠ [] := by
    intro hnil
    have hlength := congrArg List.length (rootCauses_of_scenarioCases hcases)
    rw [hnil, List.length_map, (dataset_of_scenarioCases hcases).length] at hlength
    cases hlength
  exact ⟨_, presenceOnlyProbeV3_eq hcases, hreport', rfl, isGreatest_largestCounts _ hne, rfl⟩

/-! ### Two documents -/

theorem faultClasses_documentOf (trials : List Trial) :
    faultClasses r (documentOf r trials) = trials.map fun t => t.label.value := by
  have htrials : items (get (documentOf r trials) "trials") = trials.map (Trial.record r) := rfl
  unfold faultClasses
  rw [htrials]
  induction trials with
  | nil => rfl
  | cons t trials ih =>
    have hlabel : faultClass r (t.record r) = some t.label.value := rfl
    rw [List.map_cons, List.filterMap_cons_some hlabel, ih rfl, List.map_cons]

/-- Trials of which one has another label, and whose windows use some memory or none. -/
def leakAt (case : ℕ) (workingSetBytes : String) : Samples where
  label n := if n = case then .emailMemoryLeak else .adHighCpu
  windows _ := List.replicate 7 { quietWindow with workingSetBytes }

theorem proper_leakAt (case : ℕ) (workingSetBytes : String) : (leakAt case workingSetBytes).Proper where
  length _ := rfl
  numbering _ _ _ := .inl rfl
  windows n w hw := by
    have hnamed : quietWindow.recordedAt ≠ "" := by decide
    rw [List.eq_of_mem_replicate hw]
    exact ⟨hnamed, rfl⟩

theorem faultClasses_leakAt (case : ℕ) (workingSetBytes : String) :
    faultClasses rationals (leakAt case workingSetBytes).document =
      (List.range 32).map fun n => if n = case then "emailMemoryLeak" else "adHighCpu" := by
  rw [Samples.document, faultClasses_documentOf, List.map_map]
  refine List.map_congr_left ?_
  intro n _
  change (if n = case then Label.emailMemoryLeak else .adHighCpu).value = _
  split <;> rfl

theorem presence_blind_leakAt : ∃ report,
    presenceOnlyProbeV3 rationals (leakAt 0 "0.0").document = .ok report ∧
      presenceOnlyProbeV3 rationals (leakAt 1 "1.0").document = .ok report ∧
      report.signatureCount = 1 ∧
      IsGreatest (Set.range fun label => (faultClasses rationals (leakAt 0 "0.0").document).count label)
        report.top1Count ∧
      report.top3Count = largestCounts 3 (faultClasses rationals (leakAt 0 "0.0").document) := by
  obtain ⟨cases, hcases, -, -⟩ := Samples.exists_cases (proper_leakAt 0 "0.0")
  obtain ⟨cases', hcases', -, -⟩ := Samples.exists_cases (proper_leakAt 1 "1.0")
  refine presence_blind ⟨cases, hcases⟩ ⟨cases', hcases'⟩ ?_
  rw [faultClasses_leakAt, faultClasses_leakAt]
  exact List.Perm.swap _ _ _

end MetricV3
