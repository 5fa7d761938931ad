/-
**Paired bootstrap intervals.**

`paired_cluster_bootstrap_v3` of `faultwitness_dev/g03_readiness.py` matches the trials of two arms by their
case and repetition, takes the difference of each pair, and resamples the cases as the intervals of one arm
do.  `aggregate_reference_v3` gives it the rows of the deterministic arm once for each repetition, and calls
a difference significant if its interval lies on one side of zero.

With 2000 resamples the two positions that the interval is read from mirror each other, so that an interval
turns around when the arms are swapped.

Main definitions:

* `ClusterBootstrap.pairedClusterBootstrapV3` — the function;
* `ClusterBootstrap.Aligned` — arms that it accepts;
* `ClusterBootstrap.deterministicPaired` — an arm, once for each repetition;
* `ClusterBootstrap.Interval.significant` — the test of `aggregate_reference_v3`.

Main results:

* `ClusterBootstrap.pairedClusterBootstrapV3_eq` — what is resampled are the differences of the case means;
* `ClusterBootstrap.resample_neg` — **turned clusters turn the interval around**;
* `ClusterBootstrap.paired_intervals` — **estimates of pairs, replicated arms and swapped arms**.
-/

import FaultWitness.ClusterBootstraps
import Mathlib.Data.Prod.Lex

set_option autoImplicit false

namespace ClusterBootstrap

open Groupings OrderStatistics Python

/-! ### Pairs of trials -/

/-- What a trial is known by, in the order of tuples. -/
abbrev TrialKey := String ×ₗ ℤ

def Row.trialKey (row : Row) : TrialKey := toLex (row.caseId, row.repetition.getD 1)

/-- The rounds of `indexed` that are left, on top of the keys so far. -/
def indexedFrom (result : List (TrialKey × ℚ)) : List Row → Except Raised (List (TrialKey × ℚ))
  | [] => .ok result
  | row :: rows =>
    if row.trialKey ∈ result.map Prod.fst then
      .error (.governance "metric v3 paired bootstrap found duplicate trial keys")
    else
      match row.metric "core_e2e" with
      | none => .error .builtin
      | some value => indexedFrom (result ++ [(row.trialKey, value)]) rows

def indexed (rows : List Row) : Except Raised (List (TrialKey × ℚ)) := indexedFrom [] rows

/-- Subscripting what `indexed` returns. -/
def trialAt (trials : List (TrialKey × ℚ)) (key : TrialKey) : Except Raised ℚ :=
  match trials.find? fun trial => trial.1 = key with
  | none => .error .builtin
  | some trial => .ok trial.2

variable (random : String → Generator)

def pairedClusterBootstrapV3 (leftRows rightRows : List Row) (seed : String) (B : ℤ) :
    Except Raised Interval := do
  let left ← indexed leftRows
  let right ← indexed rightRows
  if ¬(left.map Prod.fst ⊆ right.map Prod.fst ∧ right.map Prod.fst ⊆ left.map Prod.fst) then
    throw (.governance "metric v3 paired bootstrap arms are not aligned")
  let differences ← (sorted (left.map Prod.fst)).mapM fun key => do
    let l ← trialAt left key
    let r ← trialAt right key
    return ((ofLex key).1, l - r)
  let groups := group differences
  let clusters ← (sorted (groups.map Prod.fst)).mapM (groupAt groups)
  if clusters.length ≠ 32 then
    throw (.governance "metric v3 paired bootstrap requires 32 case clusters")
  resample (random seed) clusters B

/-- An arm with one row for a case, once for each repetition. -/
def deterministicPaired (repetitions : ℕ) (rows : List Row) : List Row :=
  rows.flatMap fun row => (List.range repetitions).map fun i : ℕ => { row with repetition := some (i + 1) }

/-- An interval on one side of zero. -/
def Interval.significant (interval : Interval) : Bool := 0 < interval.lower || interval.upper < 0

/-- The interval of the opposite difference. -/
def Interval.swapped (interval : Interval) : Interval :=
  { interval with
    estimate := -interval.estimate
    lower := -interval.upper
    upper := -interval.lower }

variable {random}

theorem significant_swapped (interval : Interval) :
    interval.swapped.significant = interval.significant := by
  simp only [Interval.significant, Interval.swapped, Left.neg_pos_iff, Left.neg_neg_iff]
  rw [Bool.or_comm]

/-! ### Arms that are accepted -/

/-- Two arms with the same trials, of 32 cases. -/
structure Aligned (left right : List Row) : Prop where
  left_nodup : (left.map Row.trialKey).Nodup
  right_nodup : (right.map Row.trialKey).Nodup
  same : ∀ key, key ∈ left.map Row.trialKey ↔ key ∈ right.map Row.trialKey
  left_computed : Computed "core_e2e" left
  right_computed : Computed "core_e2e" right
  cases : (caseIds left).length = 32

def Row.score (row : Row) : ℚ := (row.metric "core_e2e").getD 0

/-- The scores of an arm by their trials. -/
def scored (rows : List Row) : List (TrialKey × ℚ) := rows.map fun row => (row.trialKey, row.score)

def scoreAt (rows : List Row) (key : TrialKey) : ℚ :=
  ((rows.find? fun row => row.trialKey = key).map Row.score).getD 0

theorem keys_scored (rows : List Row) : (scored rows).map Prod.fst = rows.map Row.trialKey := by
  rw [scored, List.map_map]
  rfl

variable {rows : List Row}

theorem indexedFrom_eq_ok {result : List (TrialKey × ℚ)}
    (hnodup : (result.map Prod.fst ++ rows.map Row.trialKey).Nodup) (h : Computed "core_e2e" rows) :
    indexedFrom result rows = .ok (result ++ scored rows) := by
  induction rows generalizing result with
  | nil => simp [indexedFrom, scored]
  | cons row rows ih =>
    have hnew : row.trialKey ∉ result.map Prod.fst := by
      intro hmem
      exact (List.nodup_append.1 hnodup).2.2 _ hmem _ List.mem_cons_self rfl
    obtain ⟨value, hvalue⟩ := Option.ne_none_iff_exists'.1 (h row List.mem_cons_self)
    have hscore : row.score = value := by simp [Row.score, hvalue]
    rw [indexedFrom, if_neg hnew, hvalue]
    change indexedFrom _ rows = _
    rw [ih (by simpa using hnodup) fun r hr => h r (List.mem_cons_of_mem row hr)]
    simp [scored, hscore]

theorem indexed_eq_ok (hnodup : (rows.map Row.trialKey).Nodup) (h : Computed "core_e2e" rows) :
    indexed rows = .ok (scored rows) := by
  rw [indexed, indexedFrom_eq_ok (by simpa using hnodup) h, List.nil_append]

theorem find?_trialKey (hnodup : (rows.map Row.trialKey).Nodup) {row : Row} (hrow : row ∈ rows) :
    (rows.find? fun other => other.trialKey = row.trialKey) = some row := by
  induction rows with
  | nil => cases hrow
  | cons other rows ih =>
    rw [List.map_cons, List.nodup_cons] at hnodup
    rcases List.mem_cons.1 hrow with rfl | hrow
    · simp
    · have hne : other.trialKey ≠ row.trialKey := by
        intro heq
        exact hnodup.1 (heq ▸ List.mem_map_of_mem hrow)
      rw [List.find?_cons_of_neg (by simpa using hne)]
      exact ih hnodup.2 hrow

theorem scoreAt_trialKey (hnodup : (rows.map Row.trialKey).Nodup) {row : Row} (hrow : row ∈ rows) :
    scoreAt rows row.trialKey = row.score := by
  simp [scoreAt, find?_trialKey hnodup hrow]

theorem trialAt_eq_ok (hnodup : (rows.map Row.trialKey).Nodup) {key : TrialKey}
    (hkey : key ∈ rows.map Row.trialKey) : trialAt (scored rows) key = .ok (scoreAt rows key) := by
  obtain ⟨row, hrow, rfl⟩ := List.mem_map.1 hkey
  have hfind : ((scored rows).find? fun trial => trial.1 = row.trialKey) =
      some (row.trialKey, row.score) := by
    rw [scored, List.find?_map]
    exact congrArg (Option.map _) (find?_trialKey hnodup hrow)
  rw [trialAt, hfind, scoreAt_trialKey hnodup hrow]

namespace Aligned

variable {left right : List Row}

theorem perm (h : Aligned left right) : (left.map Row.trialKey).Perm (right.map Row.trialKey) :=
  (List.perm_ext_iff_of_nodup h.left_nodup h.right_nodup).2 h.same

theorem map_fst_trialKey (rows : List Row) :
    (rows.map Row.trialKey).map (fun key => (ofLex key).1) = rows.map Row.caseId := by
  rw [List.map_map]
  rfl

theorem sorted_caseIds (h : Aligned left right) : sorted (caseIds left) = sorted (caseIds right) := by
  refine sorted_eq_of_perm (keys_perm ?_)
  rw [← map_fst_trialKey, ← map_fst_trialKey]
  exact h.perm.map _

theorem symm (h : Aligned left right) : Aligned right left where
  left_nodup := h.right_nodup
  right_nodup := h.left_nodup
  same key := (h.same key).symm
  left_computed := h.right_computed
  right_computed := h.left_computed
  cases := by
    have hlength := congrArg List.length h.sorted_caseIds
    rw [length_sorted, length_sorted] at hlength
    exact hlength.symm.trans h.cases

theorem ne_nil (h : Aligned left right) : left ≠ [] := by
  rintro rfl
  exact absurd h.cases (by decide)

end Aligned

theorem mean_scoreAt (hnodup : (rows.map Row.trialKey).Nodup) {keys : List TrialKey}
    (hkeys : keys.Perm (rows.map Row.trialKey)) (caseId : String) :
    mean ((keys.filter fun key => (ofLex key).1 = caseId).map (scoreAt rows)) =
      caseMean "core_e2e" rows caseId := by
  refine mean_eq_of_perm (((hkeys.filter _).map _).trans (List.Perm.of_eq ?_))
  rw [List.filter_map, List.map_map]
  refine List.map_congr_left ?_
  intro row hrow
  exact scoreAt_trialKey hnodup (List.mem_of_mem_filter hrow)

/-- **What is resampled** are the differences of the means of the cases. -/
theorem pairedClusterBootstrapV3_eq (random : String → Generator) {left right : List Row}
    (h : Aligned left right) (seed : String) (B : ℤ) :
    ∃ clusters, clusters.map mean = (sorted (caseIds left)).map (fun caseId =>
        caseMean "core_e2e" left caseId - caseMean "core_e2e" right caseId) ∧
      pairedClusterBootstrapV3 random left right seed B = resample (random seed) clusters B := by
  let keys := sorted (left.map Row.trialKey)
  let differences := keys.map fun key => ((ofLex key).1, scoreAt left key - scoreAt right key)
  have hperm : keys.Perm (left.map Row.trialKey) := sorted_perm _
  have hdifferences : (sorted ((scored left).map Prod.fst)).mapM (fun key => do
      let l ← trialAt (scored left) key
      let r ← trialAt (scored right) key
      return ((ofLex key).1, l - r)) = .ok differences := by
    rw [keys_scored]
    refine mapM_eq_ok.2 (List.forall₂_map_right_iff.2 (List.forall₂_same.2 ?_))
    intro key hkey
    have hleft : key ∈ left.map Row.trialKey := hperm.mem_iff.1 hkey
    rw [trialAt_eq_ok h.left_nodup hleft, trialAt_eq_ok h.right_nodup ((h.same key).1 hleft)]
    rfl
  -- The keys of the groups are the cases of the arms.
  have hcases : differences.map Prod.fst = keys.map fun key => (ofLex key).1 := by
    rw [List.map_map]
    rfl
  have hsorted : sorted ((group differences).map Prod.fst) = sorted (caseIds left) := by
    rw [keys_group, hcases]
    refine sorted_eq_of_perm (keys_perm ?_)
    rw [← Aligned.map_fst_trialKey]
    exact hperm.map _
  have hclusters : (sorted ((group differences).map Prod.fst)).mapM (groupAt (group differences)) =
      .ok ((sorted (caseIds left)).map fun caseId => valuesAt caseId differences) := by
    rw [hsorted]
    refine mapM_eq_ok.2 (List.forall₂_map_right_iff.2 (List.forall₂_same.2 ?_))
    intro caseId hcase
    have hmem : caseId ∈ differences.map Prod.fst := by
      rw [← hsorted, mem_sorted, keys_group] at hcase
      exact List.mem_eraseDups.1 hcase
    rw [groupAt, lookup_group hmem]
  refine ⟨(sorted (caseIds left)).map fun caseId => valuesAt caseId differences, ?_, ?_⟩
  · rw [List.map_map]
    refine List.map_congr_left ?_
    intro caseId _
    have hvalues : valuesAt caseId differences =
        (keys.filter fun key => (ofLex key).1 = caseId).map fun key =>
          scoreAt left key - scoreAt right key := by
      unfold valuesAt
      rw [List.filter_map, List.map_map]
      rfl
    rw [Function.comp_apply, hvalues, mean_map_sub, mean_scoreAt h.left_nodup hperm,
      mean_scoreAt h.right_nodup (hperm.trans h.perm)]
  · have haligned : (scored left).map Prod.fst ⊆ (scored right).map Prod.fst ∧
        (scored right).map Prod.fst ⊆ (scored left).map Prod.fst := by
      rw [keys_scored, keys_scored]
      exact ⟨fun key hkey => (h.same key).1 hkey, fun key hkey => (h.same key).2 hkey⟩
    have hlength : ((sorted (caseIds left)).map fun caseId => valuesAt caseId differences).length = 32 := by
      rw [List.length_map, length_sorted]
      exact h.cases
    unfold pairedClusterBootstrapV3
    rw [indexed_eq_ok h.left_nodup h.left_computed, indexed_eq_ok h.right_nodup h.right_computed]
    change (if _ then _ else _) = _
    rw [if_neg (not_not_intro haligned), hdifferences]
    change ((sorted ((group differences).map Prod.fst)).mapM (groupAt (group differences)) >>= _) = _
    rw [hclusters]
    change (if _ then _ else _) = _
    rw [if_neg (not_not_intro hlength)]

/-! ### Swapped arms -/

variable {repetitions : ℕ}

theorem antitone_neg : Antitone fun x : ℚ => -x := fun _ _ h => neg_le_neg h

theorem drawnMean_neg (rng : Generator) (means : List ℚ) (round : ℕ) :
    drawnMean rng (means.map fun m => -m) round = -drawnMean rng means round := by
  unfold drawnMean
  rw [List.length_map, ← mean_map_neg]
  refine congrArg mean (List.map_congr_left ?_)
  intro j hj
  have hpos : 0 < means.length := by
    have := List.mem_range.1 hj
    omega
  have hlt := rng.randrange_lt (round * means.length + j) means.length hpos
  have hlt' : rng.randrange (round * means.length + j) means.length <
      (means.map fun m => -m).length := by
    rwa [List.length_map]
  rw [List.getD_eq_getElem _ _ hlt, List.getD_eq_getElem _ _ hlt', List.getElem_map]

theorem getElem_order_neg (rng : Generator) (means : List ℚ) (B : ℤ) {i j : ℕ}
    (hij : (i : ℤ) + j = B - 1) (hi : i < (order rng (means.map fun m => -m) B).length)
    (hj : j < (order rng means B).length) :
    (order rng (means.map fun m => -m) B)[i] = -(order rng means B)[j] := by
  have hmap : (List.range B.toNat).map (drawnMean rng (means.map fun m => -m)) =
      ((List.range B.toNat).map (drawnMean rng means)).map fun x => -x := by
    rw [List.map_map]
    exact List.map_congr_left fun round _ => drawnMean_neg rng means round
  rw [length_order] at hi hj
  have hlength : i < ((List.range B.toNat).map (drawnMean rng means)).length := by
    rwa [List.length_map, List.length_range]
  have hmirror := getElem?_sorted_map antitone_neg hlength
  have hposition : ((List.range B.toNat).map (drawnMean rng means)).length - 1 - i = j := by
    rw [List.length_map, List.length_range]
    omega
  rw [← hmap, hposition] at hmirror
  change (order rng (means.map fun m => -m) B)[i]? = ((order rng means B)[j]?).map _ at hmirror
  rw [List.getElem?_eq_getElem (by rwa [length_order]), List.getElem?_eq_getElem (by rwa [length_order]),
    Option.map_some, Option.some.injEq] at hmirror
  exact hmirror

/-- **Turned clusters turn the interval around**, where the two positions mirror each other. -/
theorem resample_neg (rng : Generator) {clusters clusters' : List (List ℚ)} {B : ℤ} (hB : 1 ≤ B)
    (hmirror : lowerIndex B + upperIndex B = B - 1)
    (h : clusters'.map mean = (clusters.map mean).map fun m => -m) :
    ∃ interval, resample rng clusters B = .ok interval ∧
      resample rng clusters' B = .ok interval.swapped := by
  obtain ⟨lower, upper, hle, hlt, hlower, hupper, hok⟩ := exists_resample rng clusters hB
  obtain ⟨lower', upper', hle', hlt', hlower', hupper', hok'⟩ := exists_resample rng clusters' hB
  refine ⟨_, hok, hok'.trans (congrArg Except.ok ?_)⟩
  have hpoint : mean (clusters'.map mean) = -mean (clusters.map mean) := by
    rw [h, mean_map_neg, List.map_id']
  have hlow : (order rng (clusters'.map mean) B)[lower'] = -(order rng (clusters.map mean) B)[upper] := by
    simp only [h]
    exact getElem_order_neg rng _ B (by omega) _ _
  have hup : (order rng (clusters'.map mean) B)[upper'] = -(order rng (clusters.map mean) B)[lower] := by
    simp only [h]
    exact getElem_order_neg rng _ B (by omega) _ _
  rw [Interval.swapped, hpoint, hlow, hup]

theorem positions_mirror : lowerIndex 2000 + upperIndex 2000 = 2000 - 1 := by
  rw [lowerIndex_eq, upperIndex_eq]
  omega

/-! ### Replicated arms -/

theorem computed_deterministicPaired (hpos : 0 < repetitions) (metric : String) (rows : List Row) :
    Computed metric (deterministicPaired repetitions rows) ↔ Computed metric rows := by
  constructor
  · intro h row hrow
    refine h { row with repetition := some ((0 : ℕ) + 1) } (List.mem_flatMap.2 ⟨row, hrow, ?_⟩)
    exact List.mem_map.2 ⟨0, List.mem_range.2 hpos, rfl⟩
  · intro h row hrow
    obtain ⟨original, horiginal, hcopy⟩ := List.mem_flatMap.1 hrow
    obtain ⟨i, -, rfl⟩ := List.mem_map.1 hcopy
    exact h original horiginal

theorem mem_caseId_deterministicPaired (hpos : 0 < repetitions) (rows : List Row)
    (caseId : String) :
    caseId ∈ (deterministicPaired repetitions rows).map Row.caseId ↔ caseId ∈ rows.map Row.caseId := by
  simp only [deterministicPaired, List.mem_map, List.mem_flatMap, List.mem_range]
  constructor
  · rintro ⟨-, ⟨row, hrow, i, -, rfl⟩, rfl⟩
    exact ⟨row, hrow, rfl⟩
  · rintro ⟨row, hrow, rfl⟩
    exact ⟨_, ⟨row, hrow, 0, hpos, rfl⟩, rfl⟩

/-- Every value counts as often as there are repetitions. -/
theorem values_deterministicPaired (repetitions : ℕ) (metric caseId : String) (rows : List Row) :
    (((deterministicPaired repetitions rows).filter fun row => row.caseId = caseId).map fun row =>
      (row.metric metric).getD 0) =
    ((rows.filter fun row => row.caseId = caseId).map fun row => (row.metric metric).getD 0).flatMap
      (List.replicate repetitions) := by
  induction rows with
  | nil => rfl
  | cons row rows ih =>
    have hcopies : (((List.range repetitions).map fun i : ℕ =>
        { row with repetition := some ((i : ℤ) + 1) }).filter fun r => r.caseId = caseId).map
          (fun r : Row => (r.metric metric).getD 0) =
        if row.caseId = caseId then List.replicate repetitions ((row.metric metric).getD 0) else [] := by
      rw [List.filter_map, List.map_map]
      by_cases hcase : row.caseId = caseId
      · rw [if_pos hcase, List.filter_eq_self.2 fun i _ => by simpa using hcase]
        exact List.eq_replicate_iff.2 ⟨by simp, by simp⟩
      · rw [if_neg hcase, List.filter_eq_nil_iff.2 fun i _ => by simpa using hcase]
        rfl
    rw [deterministicPaired, List.flatMap_cons, List.filter_append, List.map_append, hcopies]
    rw [deterministicPaired] at ih
    rw [ih, List.filter_cons]
    by_cases hcase : row.caseId = caseId
    · simp [hcase]
    · simp [hcase]

theorem caseMean_deterministicPaired (hpos : 0 < repetitions) (metric : String) (rows : List Row) :
    caseMean metric (deterministicPaired repetitions rows) = caseMean metric rows := by
  funext caseId
  rw [caseMean, values_deterministicPaired, mean_flatMap_replicate hpos, caseMean]

theorem sorted_caseIds_deterministicPaired (hpos : 0 < repetitions) (rows : List Row) :
    sorted (caseIds (deterministicPaired repetitions rows)) = sorted (caseIds rows) := by
  refine sorted_eq_of_perm ((List.perm_ext_iff_of_nodup (nodup_eraseDups _) (nodup_eraseDups _)).2 ?_)
  intro caseId
  rw [List.mem_eraseDups, List.mem_eraseDups]
  exact mem_caseId_deterministicPaired hpos rows caseId

/-- **An arm that is given once for each repetition** has the same interval. -/
theorem percentileClusterBootstrapV3_deterministicPaired (random : String → Generator)
    (hpos : 0 < repetitions) (rows : List Row) (metric seed : String) (B : ℤ) :
    percentileClusterBootstrapV3 random (deterministicPaired repetitions rows) metric seed B =
      percentileClusterBootstrapV3 random rows metric seed B := by
  by_cases hcomputed : Computed metric rows
  · rcases eq_or_ne rows [] with rfl | hne
    · rfl
    have hne' : deterministicPaired repetitions rows ≠ [] := by
      obtain ⟨row, hrow⟩ := List.exists_mem_of_ne_nil rows hne
      have hmem := (mem_caseId_deterministicPaired hpos rows row.caseId).2 (List.mem_map_of_mem hrow)
      intro hnil
      rw [hnil] at hmem
      cases hmem
    obtain ⟨clusters, hmeans, heq⟩ := percentileClusterBootstrapV3_eq random hne hcomputed seed B
    obtain ⟨clusters', hmeans', heq'⟩ := percentileClusterBootstrapV3_eq random hne'
      ((computed_deterministicPaired hpos metric rows).2 hcomputed) seed B
    rw [heq, heq']
    refine resample_congr ?_ B
    rw [hmeans, hmeans', sorted_caseIds_deterministicPaired hpos, caseMean_deterministicPaired hpos]
  · have hcomputed' : ¬Computed metric (deterministicPaired repetitions rows) := fun h =>
      hcomputed ((computed_deterministicPaired hpos metric rows).1 h)
    unfold percentileClusterBootstrapV3
    rw [grouped_eq_error hcomputed, grouped_eq_error hcomputed']

/-! ### Estimates -/

theorem estimate_paired (random : String → Generator) {left right : List Row} (h : Aligned left right)
    (seed leftSeed rightSeed : String) {B : ℤ} (hB : 1 ≤ B) :
    ∃ paired l r, pairedClusterBootstrapV3 random left right seed B = .ok paired ∧
      percentileClusterBootstrapV3 random left "core_e2e" leftSeed B = .ok l ∧
      percentileClusterBootstrapV3 random right "core_e2e" rightSeed B = .ok r ∧
      paired.estimate = l.estimate - r.estimate := by
  obtain ⟨clusters, hmeans, heq⟩ := pairedClusterBootstrapV3_eq random h seed B
  obtain ⟨left', hleft, heqleft⟩ :=
    percentileClusterBootstrapV3_eq random h.ne_nil h.left_computed leftSeed B
  obtain ⟨right', hright, heqright⟩ :=
    percentileClusterBootstrapV3_eq random h.symm.ne_nil h.right_computed rightSeed B
  obtain ⟨lower, upper, hle, hlt, -, -, hok⟩ := exists_resample (random seed) clusters hB
  obtain ⟨lowerl, upperl, hlel, hltl, -, -, hokl⟩ := exists_resample (random leftSeed) left' hB
  obtain ⟨lowerr, upperr, hler, hltr, -, -, hokr⟩ := exists_resample (random rightSeed) right' hB
  refine ⟨_, _, _, heq.trans hok, heqleft.trans hokl, heqright.trans hokr, ?_⟩
  change mean (clusters.map mean) = mean (left'.map mean) - mean (right'.map mean)
  rw [hmeans, hleft, hright, mean_map_sub, h.sorted_caseIds]

/-- **Estimates of pairs, replicated arms and swapped arms.**  The estimate of two aligned arms is the
difference of theirs, an arm that is given once for each repetition keeps its interval, and with 2000
resamples the interval of swapped arms is the one of the arms turned around. -/
theorem paired_intervals (random : String → Generator) (left right : List Row) (seed : String)
    (h : Aligned left right) :
    (∀ (leftSeed rightSeed : String) (B : ℤ), 1 ≤ B →
      ∃ paired l r, pairedClusterBootstrapV3 random left right seed B = .ok paired ∧
        percentileClusterBootstrapV3 random left "core_e2e" leftSeed B = .ok l ∧
        percentileClusterBootstrapV3 random right "core_e2e" rightSeed B = .ok r ∧
        paired.estimate = l.estimate - r.estimate) ∧
    (∀ (arm : List Row) (repetitions : ℕ) (metric armSeed : String) (B : ℤ), 0 < repetitions →
      percentileClusterBootstrapV3 random (deterministicPaired repetitions arm) metric armSeed B =
        percentileClusterBootstrapV3 random arm metric armSeed B) ∧
    ∃ paired, pairedClusterBootstrapV3 random left right seed 2000 = .ok paired ∧
      pairedClusterBootstrapV3 random right left seed 2000 = .ok paired.swapped ∧
      paired.swapped.significant = paired.significant := by
  refine ⟨?_, ?_, ?_⟩
  · intro leftSeed rightSeed B hB
    exact estimate_paired random h seed leftSeed rightSeed hB
  · intro arm repetitions metric armSeed B hpos
    exact percentileClusterBootstrapV3_deterministicPaired random hpos arm metric armSeed B
  · obtain ⟨clusters, hmeans, heq⟩ := pairedClusterBootstrapV3_eq random h seed 2000
    obtain ⟨clusters', hmeans', heq'⟩ := pairedClusterBootstrapV3_eq random h.symm seed 2000
    have hturned : clusters'.map mean = (clusters.map mean).map fun m => -m := by
      rw [hmeans, hmeans', h.sorted_caseIds, List.map_map]
      refine List.map_congr_left ?_
      intro caseId _
      simp
    obtain ⟨interval, hok, hok'⟩ := resample_neg (random seed) (by decide) positions_mirror hturned
    exact ⟨interval, heq.trans hok, heq'.trans hok', significant_swapped interval⟩

/-! ### Arms of 32 cases -/

/-- An arm of 32 cases with three repetitions each. -/
def repeatedArm (score : ℕ → ℚ) : List Row :=
  (List.range 96).map fun i =>
    { caseId := str (i / 3 : ℕ), repetition := some (i % 3 + 1 : ℕ), metric := fun _ => some (score i) }

theorem nodup_trialKey_repeatedArm (score : ℕ → ℚ) : ((repeatedArm score).map Row.trialKey).Nodup := by
  rw [repeatedArm, List.map_map]
  refine List.nodup_range.map fun i j hij => ?_
  obtain ⟨hcase, hrepetition⟩ := Prod.mk.inj (toLex_inj.1 hij)
  have hcase : i / 3 = j / 3 := str_injective hcase
  have hrepetition : ((i % 3 + 1 : ℕ) : ℤ) = (j % 3 + 1 : ℕ) := hrepetition
  omega

theorem trialKeys_repeatedArm (score score' : ℕ → ℚ) :
    (repeatedArm score).map Row.trialKey = (repeatedArm score').map Row.trialKey := by
  rw [repeatedArm, repeatedArm, List.map_map, List.map_map]
  rfl

theorem caseIds_repeatedArm (score : ℕ → ℚ) :
    (caseIds (repeatedArm score)).Perm ((List.range 32).map fun n : ℕ => str n) := by
  refine (List.perm_ext_iff_of_nodup (nodup_eraseDups _) (List.nodup_range.map str_injective)).2 ?_
  intro caseId
  rw [List.mem_eraseDups, repeatedArm, List.map_map, List.mem_map, List.mem_map]
  constructor
  · rintro ⟨i, hi, rfl⟩
    exact ⟨i / 3, List.mem_range.2 (by have := List.mem_range.1 hi; omega), rfl⟩
  · rintro ⟨n, hn, rfl⟩
    refine ⟨3 * n, List.mem_range.2 (by have := List.mem_range.1 hn; omega), ?_⟩
    exact congrArg (fun m : ℕ => str m) (Nat.mul_div_cancel_left n (by omega))

theorem aligned_repeatedArm (score score' : ℕ → ℚ) :
    Aligned (repeatedArm score) (repeatedArm score').reverse where
  left_nodup := nodup_trialKey_repeatedArm score
  right_nodup := by
    rw [List.map_reverse]
    exact List.nodup_reverse.2 (nodup_trialKey_repeatedArm score')
  same key := by rw [List.map_reverse, List.mem_reverse, trialKeys_repeatedArm score score']
  left_computed := by
    intro row hrow
    obtain ⟨i, -, rfl⟩ := List.mem_map.1 hrow
    simp
  right_computed := by
    intro row hrow
    obtain ⟨i, -, rfl⟩ := List.mem_map.1 (List.mem_reverse.1 hrow)
    simp
  cases := by
    rw [(caseIds_repeatedArm score).length_eq]
    simp

/-- Draws that go through the clusters. -/
def stepping : Generator where
  randrange call n := 7 * call % n
  randrange_lt _ _ hn := Nat.mod_lt _ hn

/-- The scores of one arm grow, those of the other one alternate, and its rows come in another order. -/
theorem paired_intervals_repeatedArm :
    ∃ left right paired l r, left = repeatedArm (fun i => i) ∧
      right = (repeatedArm fun i => (i % 2 : ℕ)).reverse ∧
      pairedClusterBootstrapV3 (fun _ => stepping) left right "positive" 2000 = .ok paired ∧
      percentileClusterBootstrapV3 (fun _ => stepping) left "core_e2e" "left" 2000 = .ok l ∧
      percentileClusterBootstrapV3 (fun _ => stepping) right "core_e2e" "right" 2000 = .ok r ∧
      paired.estimate = l.estimate - r.estimate ∧
      percentileClusterBootstrapV3 (fun _ => stepping) (deterministicPaired 3 left) "core_e2e" "left" 2000 =
        .ok l ∧
      pairedClusterBootstrapV3 (fun _ => stepping) right left "positive" 2000 = .ok paired.swapped ∧
      paired.swapped.significant = paired.significant := by
  obtain ⟨hestimate, hreplicated, paired, hok, hswapped, hsignificant⟩ :=
    paired_intervals (fun _ => stepping) _ _ "positive" (aligned_repeatedArm (fun i => i) fun i => (i % 2 : ℕ))
  obtain ⟨paired', l, r, hok', hl, hr, hsum⟩ := hestimate "left" "right" 2000 (by decide)
  obtain rfl := Except.ok.inj (hok.symm.trans hok')
  exact ⟨_, _, paired, l, r, rfl, rfl, hok, hl, hr, hsum,
    (hreplicated _ 3 "core_e2e" "left" 2000 (by decide)).trans hl, hswapped, hsignificant⟩

end ClusterBootstrap
