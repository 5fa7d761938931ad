/-
**What a held-out case gives away.**

The thresholds of a case come from the other cases, but for the floor of a label that has one; the words
of a case are compared with those of the other cases, and with their labels.  So two datasets that differ
only in the packet of a case give it the same thresholds but for the floors, and labels that differ only
on a case give it the same predictions.

Main definitions:

* `MetricV3.DifferOnly` — datasets that differ only in the packet of a case;
* `MetricV3.Unread` — what the packet of a case may change in its own thresholds.

Main results:

* `MetricV3.otherPackets_eq` — **the other packets are the same**;
* `MetricV3.exists_classification_of_assigned` — two or more cases can be classified;
* `MetricV3.held_out_unread` — **nothing but a healthy median is read of the held-out case**.
-/

import FaultWitness.SeparabilityProbes

set_option autoImplicit false

namespace MetricV3

open Python FlagDocuments

/-! ### Two datasets -/

/-- The cases are the same, and so are the packets of all of them but one. -/
structure DifferOnly (caseId : String) (cases cases' : Cases) : Prop where
  ids : ∀ id, id ∈ cases.map Prod.fst ↔ id ∈ cases'.map Prod.fst
  packets : ∀ entry ∈ cases, ∀ entry' ∈ cases', entry.1 = entry'.1 → entry.1 ≠ caseId →
    entry.2.packet = entry'.2.packet

theorem sortTexts_eq_of_perm {texts texts' : List String} (h : texts.Perm texts') :
    sortTexts texts = sortTexts texts' := by
  have hsorted : ∀ texts, (sortTexts texts).Pairwise fun s t => s ≤ t := by
    intro texts
    refine (List.pairwise_mergeSort (fun a b c hab hbc => ?_) (fun a b => ?_) texts).imp fun h => ?_
    · exact decide_eq_true (String.le_trans (of_decide_eq_true hab) (of_decide_eq_true hbc))
    · exact Bool.or_eq_true_iff.2 ((String.le_total a b).imp decide_eq_true decide_eq_true)
    · exact of_decide_eq_true h
  have hperm : (sortTexts texts).Perm (sortTexts texts') :=
    (List.mergeSort_perm texts _).trans (h.trans (List.mergeSort_perm texts' _).symm)
  exact hperm.eq_of_pairwise (fun a b _ _ => String.le_antisymm) (hsorted texts) (hsorted texts')

theorem map_eq_of_keys {α β : Type} {f : α → β} {entries entries' : List (String × α)}
    (hkeys : entries.map Prod.fst = entries'.map Prod.fst)
    (h : ∀ entry ∈ entries, ∀ entry' ∈ entries', entry.1 = entry'.1 → f entry.2 = f entry'.2) :
    (entries.map fun entry => f entry.2) = entries'.map fun entry => f entry.2 := by
  induction entries generalizing entries' with
  | nil =>
    rw [List.map_eq_nil_iff.1 hkeys.symm]
  | cons entry entries ih =>
    cases entries' with
    | nil => cases hkeys
    | cons entry' entries' =>
      obtain ⟨hkey, hkeys⟩ := List.cons.inj hkeys
      rw [List.map_cons, List.map_cons, h entry List.mem_cons_self entry' List.mem_cons_self hkey,
        ih hkeys fun a ha b hb => h a (List.mem_cons_of_mem _ ha) b (List.mem_cons_of_mem _ hb)]

variable {F : Type} {r : Runtime F}

/-- **The other packets are the same.** -/
theorem otherPackets_eq {cases cases' : Cases} (h : Dataset r cases) (h' : Dataset r cases')
    {caseId : String} (hdiffer : DifferOnly caseId cases cases') :
    otherPackets cases caseId = otherPackets cases' caseId := by
  have hperm : (cases.map Prod.fst).Perm (cases'.map Prod.fst) :=
    (List.perm_ext_iff_of_nodup h.nodup h'.nodup).2 hdiffer.ids
  refine map_eq_of_keys ?_ fun entry hentry entry' hentry' hkey => ?_
  · have htraining : trainingOf cases caseId = trainingOf cases' caseId := by
      rw [trainingOf, trainingOf, sortTexts_eq_of_perm hperm]
    rw [← trainingOf_eq, ← trainingOf_eq, htraining]
  · obtain ⟨hmem, hne⟩ := List.mem_filter.1 hentry
    obtain ⟨hmem', -⟩ := List.mem_filter.1 hentry'
    exact hdiffer.packets entry ((perm_sortCases cases).mem_iff.1 hmem) entry'
      ((perm_sortCases cases').mem_iff.1 hmem') hkey (of_decide_eq_true hne)

variable (r) in
/-- The healthy median of a root signal. -/
def healthyLevel (packet : Document) (label : Label) : Except Raised F := do
  let values ← featureValues r packet label .rootSignal .healthy
  median r values

variable (r) in
/-- The floor at a healthy median. -/
def floorAt (fraction : String) (level : F) : RelativeFloor F :=
  ⟨r.ofText fraction, level, r.mul level (r.ofText fraction)⟩

theorem relativeFloor_eq_ok {packet : Document} {label : Label} {fraction : String}
    {floor : RelativeFloor F} (h : relativeFloor r packet label fraction = .ok floor) :
    ∃ level, healthyLevel r packet label = .ok level ∧ floor = floorAt r fraction level := by
  obtain ⟨values, hvalues, h⟩ := bind_eq_ok.1 h
  obtain ⟨level, hlevel, h⟩ := bind_eq_ok.1 h
  exact ⟨level, bind_eq_ok.2 ⟨values, hvalues, hlevel⟩, (Except.ok.inj h).symm⟩

variable (r) in
/-- The thresholds of a label that two packets of a case give it, next to the same other packets. -/
structure Unread (others : List Document) (packet packet' : Document) (label : Label)
    (thresholds thresholds' : LabelThresholds F) : Prop where
  targetService : thresholds.targetService = thresholds'.targetService
  traceActivity : thresholds.traceActivity = thresholds'.traceActivity
  unfloored : RELATIVE_ROOT_SIGNAL_FLOORS label = none → thresholds.rootSignal = thresholds'.rootSignal
  floored : ∀ fraction, RELATIVE_ROOT_SIGNAL_FLOORS label = some fraction →
    ∃ pooled level level', pooledThreshold r others label .rootSignal = .ok pooled ∧
      healthyLevel r packet label = .ok level ∧ healthyLevel r packet' label = .ok level' ∧
      thresholds.rootSignal = pooled.raise r (floorAt r fraction level) ∧
      thresholds'.rootSignal = pooled.raise r (floorAt r fraction level')

/-- **The thresholds of a case do not depend on its packet**, but for its healthy medians. -/
theorem unread_of_registered {cases cases' : Cases}
    {registry registry' : List (String × CaseThresholds F)} {entry entry' : String × Case}
    {label : Label} {thresholds thresholds' : LabelThresholds F}
    (hothers : otherPackets cases entry.1 = otherPackets cases' entry'.1)
    (h : Registered r cases registry entry label thresholds)
    (h' : Registered r cases' registry' entry' label thresholds') :
    Unread r (otherPackets cases entry.1) entry.2.packet entry'.2.packet label thresholds
      thresholds' := by
  have hroot := h.rootSignal
  have hroot' := h'.rootSignal
  have hactivity := h.traceActivity
  have hactivity' := h'.traceActivity
  rw [← hothers] at hroot' hactivity'
  rw [activityThreshold_eq] at hactivity hactivity'
  refine ⟨h.target.trans h'.target.symm, Except.ok.inj (hactivity.symm.trans hactivity'),
    fun hfloor => ?_, fun fraction hfloor => ?_⟩
  · rw [rootThreshold_eq hfloor] at hroot hroot'
    exact Except.ok.inj (hroot.symm.trans hroot')
  · obtain ⟨pooled, floor, hpooled, hown, heq⟩ := (rootThreshold_eq_ok_iff hfloor).1 hroot
    obtain ⟨pooled', floor', hpooled', hown', heq'⟩ := (rootThreshold_eq_ok_iff hfloor).1 hroot'
    obtain rfl := Except.ok.inj (hpooled.symm.trans hpooled')
    obtain ⟨level, hlevel, rfl⟩ := relativeFloor_eq_ok hown
    obtain ⟨level', hlevel', rfl⟩ := relativeFloor_eq_ok hown'
    exact ⟨pooled, level, level', hpooled, hlevel, hlevel', heq, heq'⟩

/-! ### Classifications that exist -/

theorem mem_of_maximum {values : List F} {best : F} (h : maximum r values = .ok best) :
    best ∈ values := by
  have hkeep : ∀ (xs : List F) (x : F), xs.foldl r.max x ∈ x :: xs := by
    intro xs
    induction xs with
    | nil => exact fun x => List.mem_cons_self
    | cons y ys ih =>
      intro x
      rcases List.mem_cons.1 (ih (r.max x y)) with hmax | hmem
      · have hone : r.max x y = x ∨ r.max x y = y := by
          unfold Runtime.max
          split
          · exact .inr rfl
          · exact .inl rfl
        rw [List.foldl_cons, hmax]
        rcases hone with hx | hy
        · rw [hx]
          exact List.mem_cons_self
        · rw [hy]
          exact List.mem_cons_of_mem x List.mem_cons_self
      · exact List.mem_cons_of_mem x (List.mem_cons_of_mem y hmem)
  cases values with
  | nil => cases h
  | cons x xs =>
    rw [← Except.ok.inj h]
    exact hkeep xs x

/-- The neighbours that are most alike have a label that is most frequent. -/
theorem exists_nearest (hself : ∀ left right, r.eq (jaccard r left right) (jaccard r left right) = true)
    {words : Words} {labels : Labels} {training : List String} (hnonempty : training ≠ [])
    (hwords : ∀ other ∈ training, other ∈ words.map Prod.fst) (h : Assigned labels training)
    (heldOut : List String) :
    ∃ similarities best neighbours nearest,
      training.mapM (fun other => do
        let tokens ← find words other
        return (jaccard r heldOut tokens, other)) = Except.ok (ε := Raised) similarities ∧
      maximum r (similarities.map Prod.fst) = .ok best ∧
      neighbourVotes r labels similarities best = .ok neighbours ∧
      mostFrequent neighbours = some nearest := by
  have hsimilarity : ∀ other ∈ training, ∃ similarity, (do
      let tokens ← find words other
      return (jaccard r heldOut tokens, other)) = Except.ok (ε := Raised) similarity := by
    intro other hother
    obtain ⟨tokens, htokens⟩ := find_eq_ok_of_mem (hwords other hother)
    exact ⟨_, bind_eq_ok.2 ⟨tokens, htokens, rfl⟩⟩
  obtain ⟨similarities, hsimilarities⟩ := exists_mapM_eq_ok hsimilarity
  have hsnd := snd_of_similarities hsimilarities
  have hsome : similarities.map Prod.fst ≠ [] := by
    intro hnil
    rw [List.map_eq_nil_iff.1 hnil] at hsnd
    exact hnonempty hsnd.symm
  obtain ⟨best, hbest⟩ := exists_maximum hsome
  -- The best similarity is one of those that were found, and is equal to itself.
  obtain ⟨entry, hentry, hfirst⟩ := List.mem_map.1 (mem_of_maximum hbest)
  have hequal : r.eq entry.1 best = true := by
    obtain ⟨other, -, hother⟩ := of_mem_mapM_eq_ok hsimilarities hentry
    obtain ⟨tokens, -, hother⟩ := bind_eq_ok.1 hother
    rw [← hfirst, ← Except.ok.inj hother]
    exact hself heldOut tokens
  have hvotes : ∀ other ∈ (similarities.filter fun entry => r.eq entry.1 best).map Prod.snd,
      ∃ label, find labels other = .ok label := by
    intro other hother
    obtain ⟨near, hnear, rfl⟩ := List.mem_map.1 hother
    have hmem : near.2 ∈ training := hsnd ▸ List.mem_map_of_mem (List.mem_filter.1 hnear).1
    obtain ⟨label, hlabel⟩ := h near.2 hmem
    exact ⟨_, find_of_assigned hlabel⟩
  obtain ⟨found, hfound⟩ := exists_mapM_eq_ok hvotes
  have hvoted : found ≠ [] := by
    rintro rfl
    have hlength := (mapM_eq_ok.1 hfound).length_eq
    rw [List.length_map] at hlength
    exact List.not_mem_nil (List.length_eq_zero_iff.1 hlength ▸ List.mem_filter.2 ⟨hentry, hequal⟩)
  cases hcounter : countAll [] found with
  | nil => exact absurd hcounter (countAll_ne_nil hvoted [])
  | cons first rest =>
    exact ⟨similarities, best, first :: rest, _, hsimilarities, hbest,
      bind_eq_ok.2 ⟨found, hfound, congrArg Except.ok hcounter⟩, rfl⟩

/-- **Two or more cases can be classified**, where a similarity is equal to itself. -/
theorem exists_classification_of_assigned
    (hself : ∀ left right, r.eq (jaccard r left right) (jaccard r left right) = true) {words : Words}
    (hnodup : (words.map Prod.fst).Nodup) (hmany : 2 ≤ words.length) {labels : Labels}
    (h : Assigned labels (words.map Prod.fst)) :
    ∃ run, classifyDescriptionsLoo r words labels = .ok run := by
  have hperm : (sortTexts (words.map Prod.fst)).Perm (words.map Prod.fst) := List.mergeSort_perm _ _
  have hwords : ∀ caseId ∈ sortTexts (words.map Prod.fst), caseId ∈ words.map Prod.fst :=
    fun caseId hcaseId => hperm.mem_iff.1 hcaseId
  have hassigned : Assigned labels (sortTexts (words.map Prod.fst)) :=
    fun caseId hcaseId => h caseId (hwords caseId hcaseId)
  generalize hids : sortTexts (words.map Prod.fst) = caseIds at hperm hwords hassigned
  have hdistinct : caseIds.Nodup := hperm.nodup_iff.2 hnodup
  have hlength : 2 ≤ caseIds.length := by
    rw [hperm.length_eq, List.length_map]
    exact hmany
  have hfold : ∀ caseId ∈ caseIds, ∃ fold, foldOf r words labels caseIds caseId = .ok fold := by
    intro caseId hcaseId
    have hcount := length_filter_ne hdistinct hcaseId
    have hout : caseId ∉ caseIds.filter fun other => other ≠ caseId :=
      fun hin => (mem_training.1 hin).2 rfl
    have htraining : ∀ other ∈ caseIds.filter fun other => other ≠ caseId, other ∈ caseIds :=
      fun other hother => (mem_training.1 hother).1
    have hothers : (caseIds.filter fun other => other ≠ caseId) ≠ [] := by
      intro hnil
      rw [hnil, List.length_nil] at hcount
      omega
    obtain ⟨table, htable⟩ := exists_keywordTable
      (fun other hother => hwords other (htraining other hother))
      fun other hother => hassigned other (htraining other hother)
    obtain ⟨heldOut, hheld⟩ := find_eq_ok_of_mem (hwords caseId hcaseId)
    obtain ⟨similarities, best, neighbours, nearest, hsimilarities, hbest, hneighbours, hnearest⟩ :=
      exists_nearest hself hothers (fun other hother => hwords other (htraining other hother))
        (fun other hother => hassigned other (htraining other hother)) heldOut
    have hlast :=
      congrArg (fun found => Option.elim found (Except.error Raised.builtin) Except.ok) hnearest
    exact ⟨_, check_eq_ok.2 ⟨not_or_intro (not_not_intro hcount) hout, bind_eq_ok.2 ⟨table, htable,
      bind_eq_ok.2 ⟨heldOut, hheld, bind_eq_ok.2 ⟨similarities, hsimilarities, bind_eq_ok.2 ⟨best, hbest,
        bind_eq_ok.2 ⟨neighbours, hneighbours, bind_eq_ok.2 ⟨nearest, hlast, rfl⟩⟩⟩⟩⟩⟩⟩⟩
  obtain ⟨folds, hfolds⟩ := exists_mapM_eq_ok hfold
  obtain ⟨table, htable⟩ := exists_keywordTable hwords hassigned
  refine ⟨⟨folds, table⟩, ?_⟩
  rw [classifyDescriptionsLoo, hids]
  exact bind_eq_ok.2 ⟨folds, hfolds, bind_eq_ok.2 ⟨table, htable, rfl⟩⟩

/-! ### The held-out case -/

/-- **Nothing but a healthy median is read of the held-out case**, where the samples that are read are
numbered with integers, and nothing of its label. -/
theorem held_out_unread (hranked : Ranked r) :
    (∀ document document' cases cases' caseId, scenarioCasesV3 r document = .ok cases →
      scenarioCasesV3 r document' = .ok cases' → DifferOnly caseId cases cases' →
      (∀ entry ∈ cases, Readable r entry.2.packet) → (∀ entry ∈ cases', Readable r entry.2.packet) →
      ∃ registry registry', buildDeterministicThresholdsV3 r document = .ok registry ∧
        buildDeterministicThresholdsV3 r document' = .ok registry' ∧
        ∀ case case', (caseId, case) ∈ cases → (caseId, case') ∈ cases' → ∀ label,
          ∃ thresholds thresholds', cell registry caseId label = some thresholds ∧
            cell registry' caseId label = some thresholds' ∧
            Unread r (otherPackets cases caseId) case.packet case'.packet label thresholds thresholds') ∧
    ∀ words labels labels' caseId,
      (∀ other, other ≠ caseId → labels.lookup other = labels'.lookup other) →
      Assigned labels' (words.map Prod.fst) → ∀ run, classifyDescriptionsLoo r words labels = .ok run →
      ∃ run', classifyDescriptionsLoo r words labels' = .ok run' ∧
        run.predictions.lookup caseId = run'.predictions.lookup caseId ∧
        run.nearestNeighbourPredictions.lookup caseId =
          run'.nearestNeighbourPredictions.lookup caseId := by
  constructor
  · intro document document' cases cases' caseId h h' hdiffer hnumbered hnumbered'
    obtain ⟨registry, hregistry⟩ := exists_buildDeterministicThresholdsV3 hranked h hnumbered
    obtain ⟨registry', hregistry'⟩ := exists_buildDeterministicThresholdsV3 hranked h' hnumbered'
    refine ⟨registry, registry', hregistry, hregistry', fun case case' hcase hcase' label => ?_⟩
    have hothers := otherPackets_eq (dataset_of_scenarioCases h) (dataset_of_scenarioCases h') hdiffer
    obtain ⟨thresholds, hthresholds⟩ := exists_registered h hregistry hcase label
    obtain ⟨thresholds', hthresholds'⟩ := exists_registered h' hregistry' hcase' label
    exact ⟨thresholds, thresholds', hthresholds.found, hthresholds'.found,
      unread_of_registered hothers hthresholds hthresholds'⟩
  · intro words labels labels' caseId hagree hassigned run hrun
    obtain ⟨run', hrun'⟩ := exists_classification hassigned hrun
    obtain ⟨folds, hfolds, hlast⟩ := bind_eq_ok.1 hrun
    obtain ⟨table, -, hlast⟩ := bind_eq_ok.1 hlast
    obtain rfl := Except.ok.inj hlast
    have hrun'' := hrun'
    obtain ⟨folds', hfolds', hlast'⟩ := bind_eq_ok.1 hrun''
    obtain ⟨table', -, hlast'⟩ := bind_eq_ok.1 hlast'
    obtain rfl := Except.ok.inj hlast'
    exact ⟨_, hrun', lookup_of_folds Fold.prediction (fun _ _ => caseId_of_foldOf)
      (fun _ _ => caseId_of_foldOf) (fun _ => foldOf_of_agree hagree) hfolds hfolds',
      lookup_of_folds Fold.nearestNeighbourPrediction (fun _ _ => caseId_of_foldOf)
        (fun _ _ => caseId_of_foldOf) (fun _ => foldOf_of_agree hagree) hfolds hfolds'⟩

/-! ### Datasets over the rational numbers -/

/-- Trials that are the same but for the first one. -/
theorem differOnly_of_trials {s s' : Samples} (htrials : ∀ n ≠ 0, s.trial n = s'.trial n)
    {cases cases' : Cases} (h : ∀ entry ∈ cases, ∃ n < 32, s.Holds n entry)
    (hsome : ∀ n < 32, ∃ entry ∈ cases, s.Holds n entry)
    (h' : ∀ entry ∈ cases', ∃ n < 32, s'.Holds n entry)
    (hsome' : ∀ n < 32, ∃ entry ∈ cases', s'.Holds n entry) : DifferOnly (sampleId 0) cases cases' where
  ids id := by
    constructor
    · intro hmem
      obtain ⟨entry, hentry, rfl⟩ := List.mem_map.1 hmem
      obtain ⟨n, hn, hholds⟩ := h entry hentry
      obtain ⟨entry', hentry', hholds'⟩ := hsome' n hn
      exact List.mem_map.2 ⟨entry', hentry', hholds'.identified.trans hholds.identified.symm⟩
    · intro hmem
      obtain ⟨entry', hentry', rfl⟩ := List.mem_map.1 hmem
      obtain ⟨n, hn, hholds'⟩ := h' entry' hentry'
      obtain ⟨entry, hentry, hholds⟩ := hsome n hn
      exact List.mem_map.2 ⟨entry, hentry, hholds.identified.trans hholds'.identified.symm⟩
  packets entry hentry entry' hentry' hkey hne := by
    obtain ⟨n, -, hholds⟩ := h entry hentry
    obtain ⟨m, -, hholds'⟩ := h' entry' hentry'
    rw [hholds.identified, hholds'.identified] at hkey
    obtain rfl := sampleId_injective hkey
    have hn : n ≠ 0 := by
      rintro rfl
      exact hne hholds.identified
    rw [hholds.packet, hholds'.packet, htrials n hn]

/-- Trials of which the first one uses some memory. -/
def memoryFirst : Samples where
  windows n := List.replicate 7
    (if n = 0 then { quietWindow with workingSetBytes := "1.0" } else quietWindow)

theorem proper_memoryFirst : memoryFirst.Proper where
  length _ := rfl
  numbering _ _ _ := .inl rfl
  windows n w hw := by
    rw [List.eq_of_mem_replicate hw]
    split <;> exact ⟨by decide, rfl⟩

theorem held_out_unread_memory : ∃ cases cases' registry registry' run run',
    scenarioCasesV3 rationals ({} : Samples).document = .ok cases ∧
      scenarioCasesV3 rationals memoryFirst.document = .ok cases' ∧
      buildDeterministicThresholdsV3 rationals ({} : Samples).document = .ok registry ∧
      buildDeterministicThresholdsV3 rationals memoryFirst.document = .ok registry' ∧
      (∀ case case', (sampleId 0, case) ∈ cases → (sampleId 0, case') ∈ cases' → ∀ label,
        ∃ thresholds thresholds', cell registry (sampleId 0) label = some thresholds ∧
          cell registry' (sampleId 0) label = some thresholds' ∧
          Unread rationals (otherPackets cases (sampleId 0)) case.packet case'.packet label thresholds
            thresholds') ∧
      classifyDescriptionsLoo rationals [("a", ["x"]), ("b", ["x", "y"])]
        [("a", "adHighCpu"), ("b", "adHighCpu")] = .ok run ∧
      classifyDescriptionsLoo rationals [("a", ["x"]), ("b", ["x", "y"])]
        [("a", "adHighCpu"), ("b", "paymentFailure")] = .ok run' ∧
      run.predictions.lookup "b" = run'.predictions.lookup "b" ∧
      run.nearestNeighbourPredictions.lookup "b" = run'.nearestNeighbourPredictions.lookup "b" := by
  obtain ⟨cases, hcases, hall, hsome⟩ := Samples.exists_cases proper_default
  obtain ⟨cases', hcases', hall', hsome'⟩ := Samples.exists_cases proper_memoryFirst
  have htrials : ∀ n ≠ 0, ({} : Samples).trial n = memoryFirst.trial n := by
    intro n hn
    have hwindows : memoryFirst.windows n = List.replicate 7 quietWindow :=
      congrArg (List.replicate 7) (if_neg hn)
    rw [Samples.trial, Samples.trial, hwindows]
    rfl
  have hnumbered : ∀ entry ∈ cases, Readable rationals entry.2.packet := by
    intro entry hentry label feature
    obtain ⟨n, -, hn⟩ := hall entry hentry
    exact hn.numbered fun _ => rfl
  have hnumbered' : ∀ entry ∈ cases', Readable rationals entry.2.packet := by
    intro entry hentry label feature
    obtain ⟨n, -, hn⟩ := hall' entry hentry
    exact hn.numbered fun _ => rfl
  obtain ⟨registry, registry', hregistry, hregistry', hunread⟩ :=
    (held_out_unread ranked_rationals).1 _ _ cases cases' (sampleId 0) hcases hcases'
      (differOnly_of_trials htrials hall hsome hall' hsome') hnumbered hnumbered'
  have hassigned : ∀ second : Label, Assigned [("a", "adHighCpu"), ("b", second.value)] ["a", "b"] := by
    intro second caseId hcaseId
    simp only [List.mem_cons, List.not_mem_nil, or_false] at hcaseId
    rcases hcaseId with rfl | rfl
    · exact ⟨.adHighCpu, rfl⟩
    · exact ⟨second, rfl⟩
  have hexists : ∃ run, classifyDescriptionsLoo rationals [("a", ["x"]), ("b", ["x", "y"])]
      [("a", "adHighCpu"), ("b", "adHighCpu")] = .ok run :=
    exists_classification_of_assigned (fun _ _ => decide_eq_true rfl) (by decide) le_rfl
      (hassigned .adHighCpu)
  obtain ⟨run, hrun⟩ := hexists
  have hagree : ∀ other, other ≠ "b" → List.lookup other [("a", "adHighCpu"), ("b", "adHighCpu")] =
      List.lookup other [("a", "adHighCpu"), ("b", "paymentFailure")] := by
    intro other hother
    have hlast : (other == "b") = false := beq_eq_false_iff_ne.2 hother
    simp only [List.lookup_cons, hlast]
  obtain ⟨run', hrun', hsame⟩ := (held_out_unread ranked_rationals).2 [("a", ["x"]), ("b", ["x", "y"])] _
    [("a", "adHighCpu"), ("b", "paymentFailure")] "b" hagree (hassigned .paymentFailure) run hrun
  exact ⟨cases, cases', registry, registry', run, run', hcases, hcases', hregistry, hregistry', hunread,
    hrun, hrun', hsame⟩

/-- The samples of the held-out case are read all the same: of two accepted datasets that differ only in
the first packet, whose samples the second one numbers with floats, only the first has thresholds. -/
theorem registry_refused : ∃ cases cases' registry,
    scenarioCasesV3 rationals ({} : Samples).document = .ok cases ∧
      scenarioCasesV3 rationals floatFirst.document = .ok cases' ∧
      DifferOnly (sampleId 0) cases cases' ∧
      buildDeterministicThresholdsV3 rationals ({} : Samples).document = .ok registry ∧
      ∀ registry', buildDeterministicThresholdsV3 rationals floatFirst.document ≠ .ok registry' := by
  obtain ⟨cases, hcases, hall, hsome⟩ := Samples.exists_cases proper_default
  obtain ⟨cases', hcases', hall', hsome'⟩ := Samples.exists_cases proper_floatFirst
  have htrials : ∀ n ≠ 0, ({} : Samples).trial n = floatFirst.trial n := by
    intro n hn
    have hindex : floatFirst.index n = fun _ i => .int i := by
      funext kind i
      exact if_neg hn
    rw [Samples.trial, Samples.trial, hindex]
    rfl
  obtain ⟨registry, hregistry⟩ := exists_buildDeterministicThresholdsV3 ranked_rationals hcases
    fun entry hentry label feature => by
      obtain ⟨n, -, hn⟩ := hall entry hentry
      exact hn.numbered fun _ => rfl
  refine ⟨cases, cases', registry, hcases, hcases', differOnly_of_trials htrials hall hsome hall' hsome',
    hregistry, fun registry' hregistry' => ?_⟩
  obtain ⟨first, hfirst, hn⟩ := hsome' 0 (by omega)
  exact hn.not_numbered proper_floatFirst rfl
    (readable_of_build hcases' hregistry' hfirst .adHighCpu .traceActivity)

end MetricV3
