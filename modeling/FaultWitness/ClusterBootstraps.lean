/-
**Bootstrap intervals over case clusters.**

`percentile_cluster_bootstrap` of `faultwitness_dev/g02_baselines.py` and `percentile_cluster_bootstrap_v3`
of `faultwitness_dev/g03_readiness.py` group the rows of an arm by their cases, resample the clusters with
replacement, and return two order statistics of the resampled means.  They draw the same indices from a
generator that is seeded with a text, but one lists the clusters as they come and the other one in the order
of their keys.

Floats are rational numbers here.  A generator is the sequence of the values that its calls return.

Main definitions:

* `ClusterBootstrap.Generator` — what `randrange` returns, call by call;
* `ClusterBootstrap.resample` — the loop over the resamples, and the interval that it ends with;
* `ClusterBootstrap.percentileClusterBootstrap`, `ClusterBootstrap.percentileClusterBootstrapV3` — the two
  functions;
* `ClusterBootstrap.caseMean` — the mean of a metric over the rows of a case.

Main results:

* `ClusterBootstrap.resample_eq` — **what the loop computes**, from the means of the clusters alone;
* `ClusterBootstrap.interval_sound` — the interval of G03 exists, does not depend on the order of the rows,
  and is within the means of the cases;
* `ClusterBootstrap.intervals_agree_iff` — **when both functions return the same interval** for every stream
  of indices;
* `ClusterBootstrap.not_intervals_agree` — rows whose interval depends on their order.
-/

import FaultWitness.Groupings
import FaultWitness.OrderStatistics
import FaultWitness.Python
import Mathlib.Data.Finset.Lattice.Fold
import Mathlib.Data.List.GetD
import Mathlib.Data.Rat.Floor
import Mathlib.Data.String.Basic
import Mathlib.Tactic.NormNum
import Mathlib.Tactic.Linarith

set_option autoImplicit false

namespace ClusterBootstrap

open Groupings OrderStatistics Python

/-! ### Rows and generators -/

inductive Raised
  /-- A `GovernanceError`. -/
  | governance (text : String)
  | indexError
  /-- Another exception of the language, a `KeyError` or a `TypeError`. -/
  | builtin
deriving DecidableEq

/-- A row of scores.  A metric that is missing or `None` is `none`. -/
structure Row where
  caseId : String
  /-- The member `repetition`, if the row has it. -/
  repetition : Option ℤ := none
  metric : String → Option ℚ

/-- What the calls of `randrange` return: the number of the call, and the argument. -/
structure Generator where
  randrange : ℕ → ℕ → ℕ
  randrange_lt : ∀ call n, 0 < n → randrange call n < n

/-- Subscripting a list; a negative index counts from the end. -/
def item {α : Type} (xs : List α) (i : ℤ) : Except Raised α :=
  let position := if i < 0 then i + xs.length else i
  if position < 0 then .error .indexError
  else
    match xs[position.toNat]? with
    | some x => .ok x
    | none => .error .indexError

variable {i : ℕ}

theorem item_eq_ok {α : Type} {xs : List α} (hi : i < xs.length) : item xs i = .ok xs[i] := by
  have hnonneg : ¬(i : ℤ) < 0 := by omega
  unfold item
  simp [hnonneg, hi]

theorem item_of_length_le {α : Type} {xs : List α} (hi : xs.length ≤ i) :
    item xs i = .error .indexError := by
  have hnonneg : ¬(i : ℤ) < 0 := by omega
  unfold item
  simp [hnonneg, hi]

/-! ### Resampling -/

structure Interval where
  estimate : ℚ
  lower : ℚ
  upper : ℚ
  B : ℤ
deriving DecidableEq

def lowerIndex (B : ℤ) : ℤ := max 0 (⌊(25 / 1000 : ℚ) * B⌋ - 1)

def upperIndex (B : ℤ) : ℤ := min (B - 1) ⌊(975 / 1000 : ℚ) * B⌋

/-- The clusters of one resample, drawn one after the other. -/
def picked (rng : Generator) (clusters : List (List ℚ)) (round : ℕ) : Except Raised (List (List ℚ)) :=
  (List.range clusters.length).mapM fun j =>
    item clusters (rng.randrange (round * clusters.length + j) clusters.length)

def samples (rng : Generator) (clusters : List (List ℚ)) (B : ℤ) : Except Raised (List ℚ) :=
  (List.range B.toNat).mapM fun round => do
    let drawn ← picked rng clusters round
    return mean (drawn.map mean)

/-- What both functions do with their clusters. -/
def resample (rng : Generator) (clusters : List (List ℚ)) (B : ℤ) : Except Raised Interval := do
  let point := mean (clusters.map mean)
  let drawn ← samples rng clusters B
  let lower ← item (sorted drawn) (lowerIndex B)
  let upper ← item (sorted drawn) (upperIndex B)
  return ⟨point, lower, upper, B⟩

/-- The loop that groups the values of a metric by the cases. -/
def grouped (uncomputed : String) (metric : String) (rows : List Row) :
    Except Raised (List (String × List ℚ)) := do
  let values ← rows.mapM fun row =>
    match row.metric metric with
    | none => .error (.governance uncomputed)
    | some value => .ok (row.caseId, value)
  return group values

/-- The values of a group. -/
def groupAt (groups : List (String × List ℚ)) (key : String) : Except Raised (List ℚ) :=
  match groups.lookup key with
  | none => .error .builtin
  | some values => .ok values

variable (random : String → Generator)

/-- The function of G02.  `random` is the generator that a text seeds. -/
def percentileClusterBootstrap (rows : List Row) (metric : String) (seed : String) (B : ℤ) :
    Except Raised Interval := do
  let groups ← grouped ("bootstrap metric was not computed: " ++ metric) metric rows
  if groups = [] then throw (.governance "bootstrap requires at least one case cluster")
  let clusters := groups.map Prod.snd
  resample (random seed) clusters B

/-- The function of G03. -/
def percentileClusterBootstrapV3 (rows : List Row) (metric : String) (seed : String) (B : ℤ) :
    Except Raised Interval := do
  let groups ← grouped ("metric v3 bootstrap metric was not computed: " ++ metric) metric rows
  if groups = [] then throw (.governance "metric v3 bootstrap requires case clusters")
  let clusters ← (sorted (groups.map Prod.fst)).mapM (groupAt groups)
  resample (random seed) clusters B

/-! ### What the loop computes -/

/-- The mean of one resample, from the means of the clusters. -/
def drawnMean (rng : Generator) (means : List ℚ) (round : ℕ) : ℚ :=
  mean ((List.range means.length).map fun j =>
    means.getD (rng.randrange (round * means.length + j) means.length) 0)

/-- The means of all resamples in ascending order. -/
def order (rng : Generator) (means : List ℚ) (B : ℤ) : List ℚ :=
  sorted ((List.range B.toNat).map (drawnMean rng means))

variable {random}

variable {B : ℤ}

@[simp] theorem length_order (rng : Generator) (means : List ℚ) (B : ℤ) :
    (order rng means B).length = B.toNat := by
  simp [order]

theorem samples_eq_ok (rng : Generator) (clusters : List (List ℚ)) (B : ℤ) :
    samples rng clusters B =
      .ok ((List.range B.toNat).map (drawnMean rng (clusters.map mean))) := by
  refine mapM_eq_ok.2 (List.forall₂_map_right_iff.2 (List.forall₂_same.2 ?_))
  intro round _
  -- No draw is out of range, so the round ends normally.
  have hdrawn : picked rng clusters round = .ok ((List.range clusters.length).map fun j =>
      clusters.getD (rng.randrange (round * clusters.length + j) clusters.length) []) := by
    refine mapM_eq_ok.2 (List.forall₂_map_right_iff.2 (List.forall₂_same.2 ?_))
    intro j hj
    have hpos : 0 < clusters.length := by
      have := List.mem_range.1 hj
      omega
    have hlt := rng.randrange_lt (round * clusters.length + j) clusters.length hpos
    rw [item_eq_ok hlt, List.getD_eq_getElem _ _ hlt]
  refine bind_eq_ok.2 ⟨_, hdrawn, ?_⟩
  rw [drawnMean, List.length_map, List.map_map]
  refine congrArg Except.ok (congrArg mean (List.map_congr_left ?_))
  intro j hj
  have hpos : 0 < clusters.length := by
    have := List.mem_range.1 hj
    omega
  have hlt := rng.randrange_lt (round * clusters.length + j) clusters.length hpos
  have hlt' : rng.randrange (round * clusters.length + j) clusters.length <
      (clusters.map mean).length := by
    rwa [List.length_map]
  rw [Function.comp_apply, List.getD_eq_getElem _ _ hlt, List.getD_eq_getElem _ _ hlt', List.getElem_map]

/-- **What the loop computes** depends on the clusters through their means alone. -/
theorem resample_eq (rng : Generator) (clusters : List (List ℚ)) (B : ℤ) :
    resample rng clusters B = (do
      let lower ← item (order rng (clusters.map mean) B) (lowerIndex B)
      let upper ← item (order rng (clusters.map mean) B) (upperIndex B)
      return ⟨mean (clusters.map mean), lower, upper, B⟩) := by
  unfold resample
  rw [samples_eq_ok]
  rfl

theorem resample_congr {rng : Generator} {clusters clusters' : List (List ℚ)}
    (h : clusters.map mean = clusters'.map mean) (B : ℤ) :
    resample rng clusters B = resample rng clusters' B := by
  rw [resample_eq, resample_eq, h]

/-! ### The two positions -/

theorem lowerIndex_eq (B : ℤ) : lowerIndex B = max 0 (B / 40 - 1) := by
  have hfloor : ⌊(25 / 1000 : ℚ) * B⌋ = B / 40 := by
    rw [show (25 / 1000 : ℚ) * B = (B : ℚ) / ((40 : ℤ) : ℚ) by push_cast; ring]
    exact Rat.floor_intCast_div_natCast B 40
  rw [lowerIndex, hfloor]

theorem upperIndex_eq (B : ℤ) : upperIndex B = min (B - 1) (39 * B / 40) := by
  have hfloor : ⌊(975 / 1000 : ℚ) * B⌋ = 39 * B / 40 := by
    rw [show (975 / 1000 : ℚ) * B = ((39 * B : ℤ) : ℚ) / ((40 : ℤ) : ℚ) by push_cast; ring]
    exact Rat.floor_intCast_div_natCast (39 * B) 40
  rw [upperIndex, hfloor]

theorem lowerIndex_nonneg (B : ℤ) : 0 ≤ lowerIndex B := le_max_left _ _

theorem lowerIndex_le_upperIndex (hB : 1 ≤ B) : lowerIndex B ≤ upperIndex B := by
  rw [lowerIndex_eq, upperIndex_eq]
  omega

theorem upperIndex_lt (B : ℤ) : upperIndex B < B := by
  rw [upperIndex_eq]
  omega

/-- With at least one resample both positions are there. -/
theorem exists_resample (rng : Generator) (clusters : List (List ℚ)) (hB : 1 ≤ B) :
    ∃ (lower upper : ℕ) (hle : lower ≤ upper)
      (hlt : upper < (order rng (clusters.map mean) B).length),
      (lower : ℤ) = lowerIndex B ∧ (upper : ℤ) = upperIndex B ∧
      resample rng clusters B = .ok ⟨mean (clusters.map mean),
        (order rng (clusters.map mean) B)[lower], (order rng (clusters.map mean) B)[upper], B⟩ := by
  obtain ⟨lower, hlower⟩ := Int.eq_ofNat_of_zero_le (lowerIndex_nonneg B)
  obtain ⟨upper, hupper⟩ :=
    Int.eq_ofNat_of_zero_le ((lowerIndex_nonneg B).trans (lowerIndex_le_upperIndex hB))
  have hle : lower ≤ upper := by
    have := lowerIndex_le_upperIndex hB
    omega
  have hlt : upper < (order rng (clusters.map mean) B).length := by
    have := upperIndex_lt B
    rw [length_order]
    omega
  refine ⟨lower, upper, hle, hlt, hlower.symm, hupper.symm, ?_⟩
  rw [resample_eq, hlower, hupper]
  exact bind_eq_ok.2 ⟨_, item_eq_ok (hle.trans_lt hlt), bind_eq_ok.2 ⟨_, item_eq_ok hlt, rfl⟩⟩

theorem resample_of_lt (hB : B < 1) (rng : Generator) (clusters : List (List ℚ)) :
    resample rng clusters B = .error .indexError := by
  have hlower : lowerIndex B = (0 : ℕ) := by
    rw [lowerIndex_eq]
    omega
  have hempty : (order rng (clusters.map mean) B).length ≤ 0 := by
    rw [length_order]
    omega
  rw [resample_eq, hlower, item_of_length_le hempty]
  rfl

/-! ### The clusters of some rows -/

/-- Every row has the metric. -/
def Computed (metric : String) (rows : List Row) : Prop := ∀ row ∈ rows, row.metric metric ≠ none

/-- The cases as they are first listed. -/
def caseIds (rows : List Row) : List String := (rows.map Row.caseId).eraseDups

/-- The mean of a metric over the rows of a case. -/
def caseMean (metric : String) (rows : List Row) (caseId : String) : ℚ :=
  mean ((rows.filter fun row => row.caseId = caseId).map fun row => (row.metric metric).getD 0)

/-- What a row gives to the groups. -/
def valueOf (metric : String) (row : Row) : String × ℚ := (row.caseId, (row.metric metric).getD 0)

variable {rows : List Row} {metric : String}

theorem grouped_eq_ok (h : Computed metric rows) (uncomputed : String) :
    grouped uncomputed metric rows = .ok (group (rows.map (valueOf metric))) := by
  refine bind_eq_ok.2 ⟨rows.map (valueOf metric), mapM_eq_ok.2 ?_, rfl⟩
  refine List.forall₂_map_right_iff.2 (List.forall₂_same.2 ?_)
  intro row hrow
  obtain ⟨value, hvalue⟩ := Option.ne_none_iff_exists'.1 (h row hrow)
  simp [valueOf, hvalue]

/-- Where a row lacks the metric, that is what is raised. -/
theorem grouped_eq_error (h : ¬Computed metric rows) (uncomputed : String) :
    grouped uncomputed metric rows = .error (.governance uncomputed) := by
  cases hvalues : grouped uncomputed metric rows with
  | ok groups =>
    obtain ⟨values, hall, -⟩ := bind_eq_ok.1 hvalues
    refine absurd ?_ h
    intro row hrow hnone
    obtain ⟨value, hvalue⟩ := mem_of_mapM_eq_ok hall hrow
    rw [hnone] at hvalue
    cases hvalue
  | error err =>
    rcases bind_eq_error.1 hvalues with hraised | ⟨values, -, hraised⟩
    · obtain ⟨before, row, after, -, -, hrow⟩ := mapM_eq_error_iff.1 hraised
      cases hvalue : row.metric metric with
      | none =>
        rw [hvalue] at hrow
        cases hrow
        rfl
      | some value =>
        rw [hvalue] at hrow
        cases hrow
    · cases hraised

theorem keys_valueOf (metric : String) (rows : List Row) :
    (rows.map (valueOf metric)).map Prod.fst = rows.map Row.caseId := by
  rw [List.map_map]
  rfl

theorem mean_valuesAt (metric : String) (rows : List Row) (caseId : String) :
    mean (valuesAt caseId (rows.map (valueOf metric))) = caseMean metric rows caseId := by
  unfold valuesAt caseMean
  rw [List.filter_map, List.map_map]
  rfl

theorem caseIds_ne_nil (h : rows ≠ []) : caseIds rows ≠ [] := by
  obtain ⟨row, hrow⟩ := List.exists_mem_of_ne_nil rows h
  exact List.ne_nil_of_mem (List.mem_eraseDups.2 (List.mem_map_of_mem hrow))

theorem group_ne_nil (h : rows ≠ []) : group (rows.map (valueOf metric)) ≠ [] := by
  intro hnil
  have hkeys := keys_group (rows.map (valueOf metric))
  rw [hnil, keys_valueOf] at hkeys
  exact caseIds_ne_nil h hkeys.symm

theorem percentileClusterBootstrap_eq (random : String → Generator) (hne : rows ≠ [])
    (h : Computed metric rows) (seed : String) (B : ℤ) :
    ∃ clusters, clusters.map mean = (caseIds rows).map (caseMean metric rows) ∧
      percentileClusterBootstrap random rows metric seed B = resample (random seed) clusters B := by
  refine ⟨(group (rows.map (valueOf metric))).map Prod.snd, ?_, ?_⟩
  · rw [group_eq, List.map_map, List.map_map, keys_valueOf]
    refine List.map_congr_left ?_
    intro caseId _
    exact mean_valuesAt metric rows caseId
  · unfold percentileClusterBootstrap
    rw [grouped_eq_ok h]
    change (if _ then _ else _) = _
    rw [if_neg (group_ne_nil hne)]

/-- The function of G03 resamples them in the order of their keys. -/
theorem percentileClusterBootstrapV3_eq (random : String → Generator) (hne : rows ≠ [])
    (h : Computed metric rows) (seed : String) (B : ℤ) :
    ∃ clusters, clusters.map mean = (sorted (caseIds rows)).map (caseMean metric rows) ∧
      percentileClusterBootstrapV3 random rows metric seed B = resample (random seed) clusters B := by
  have hclusters : (sorted ((group (rows.map (valueOf metric))).map Prod.fst)).mapM
      (groupAt (group (rows.map (valueOf metric)))) =
        .ok ((sorted (caseIds rows)).map fun caseId =>
          valuesAt caseId (rows.map (valueOf metric))) := by
    rw [keys_group, keys_valueOf]
    refine mapM_eq_ok.2 (List.forall₂_map_right_iff.2 (List.forall₂_same.2 ?_))
    intro caseId hcase
    have hmem : caseId ∈ (rows.map (valueOf metric)).map Prod.fst := by
      rw [keys_valueOf]
      exact List.mem_eraseDups.1 (mem_sorted.1 hcase)
    rw [groupAt, lookup_group hmem]
  refine ⟨(sorted (caseIds rows)).map fun caseId => valuesAt caseId (rows.map (valueOf metric)), ?_, ?_⟩
  · rw [List.map_map]
    refine List.map_congr_left ?_
    intro caseId _
    exact mean_valuesAt metric rows caseId
  · unfold percentileClusterBootstrapV3
    rw [grouped_eq_ok h]
    change (if _ then _ else _) = _
    rw [if_neg (group_ne_nil hne)]
    exact congrArg (· >>= fun clusters => resample (random seed) clusters B) hclusters

/-! ### The interval of G03 -/

theorem caseIds_nonempty (h : rows ≠ []) : (caseIds rows).toFinset.Nonempty := by
  rw [List.toFinset_nonempty_iff]
  exact caseIds_ne_nil h

/-- The lowest mean of a case. -/
def lowestMean (metric : String) (rows : List Row) (h : rows ≠ []) : ℚ :=
  (caseIds rows).toFinset.inf' (caseIds_nonempty h) (caseMean metric rows)

/-- The highest mean of a case. -/
def highestMean (metric : String) (rows : List Row) (h : rows ≠ []) : ℚ :=
  (caseIds rows).toFinset.sup' (caseIds_nonempty h) (caseMean metric rows)

variable {means : List ℚ}

/-- Every resampled mean is within the bounds of the means of the clusters. -/
theorem drawnMean_within {low high : ℚ} (hne : means ≠ []) (h : ∀ m ∈ means, low ≤ m ∧ m ≤ high)
    (rng : Generator) (round : ℕ) :
    low ≤ drawnMean rng means round ∧ drawnMean rng means round ≤ high := by
  have hpos : 0 < means.length := List.length_pos_of_ne_nil hne
  have hdrawn : (List.range means.length).map (fun j =>
      means.getD (rng.randrange (round * means.length + j) means.length) 0) ≠ [] := by
    intro hnil
    rw [List.map_eq_nil_iff, List.range_eq_nil] at hnil
    omega
  have hmem : ∀ x ∈ (List.range means.length).map (fun j =>
      means.getD (rng.randrange (round * means.length + j) means.length) 0), low ≤ x ∧ x ≤ high := by
    intro x hx
    obtain ⟨j, -, rfl⟩ := List.mem_map.1 hx
    have hlt := rng.randrange_lt (round * means.length + j) means.length hpos
    rw [List.getD_eq_getElem _ _ hlt]
    exact h _ (List.getElem_mem hlt)
  constructor
  · exact le_mean hdrawn fun x hx => (hmem x hx).1
  · exact mean_le hdrawn fun x hx => (hmem x hx).2

theorem order_within {low high : ℚ} (hne : means ≠ []) (h : ∀ m ∈ means, low ≤ m ∧ m ≤ high)
    (rng : Generator) (B : ℤ) : ∀ x ∈ order rng means B, low ≤ x ∧ x ≤ high := by
  intro x hx
  obtain ⟨round, -, rfl⟩ := List.mem_map.1 (mem_sorted.1 hx)
  exact drawnMean_within hne h rng round

theorem computed_of_perm {rows' : List Row} (h : rows.Perm rows')
    (hcomputed : Computed metric rows) : Computed metric rows' := by
  intro row hrow
  exact hcomputed row (h.mem_iff.2 hrow)

theorem caseMean_eq_of_perm {rows' : List Row} (h : rows.Perm rows') (metric : String) :
    caseMean metric rows = caseMean metric rows' := by
  funext caseId
  exact mean_eq_of_perm ((h.filter _).map _)

/-- **The interval of G03** exists for every stream of indices, does not depend on the order of the rows, and
is within the means of the cases, as its estimate is. -/
theorem interval_sound (random : String → Generator) (rows : List Row) (metric seed : String) (B : ℤ)
    (hne : rows ≠ []) (hcomputed : Computed metric rows) (hB : 1 ≤ B) :
    ∃ interval, percentileClusterBootstrapV3 random rows metric seed B = .ok interval ∧
      (∀ rows', rows.Perm rows' →
        percentileClusterBootstrapV3 random rows' metric seed B = .ok interval) ∧
      lowestMean metric rows hne ≤ interval.lower ∧ interval.lower ≤ interval.upper ∧
      interval.upper ≤ highestMean metric rows hne ∧
      lowestMean metric rows hne ≤ interval.estimate ∧
      interval.estimate ≤ highestMean metric rows hne := by
  obtain ⟨clusters, hmeans, heq⟩ :=
    percentileClusterBootstrapV3_eq random hne hcomputed seed B
  obtain ⟨lower, upper, hle, hlt, -, -, hok⟩ := exists_resample (random seed) clusters hB
  have hmeans_ne : clusters.map mean ≠ [] := by
    rw [hmeans]
    intro hnil
    rw [List.map_eq_nil_iff] at hnil
    have hlength := congrArg List.length hnil
    rw [length_sorted] at hlength
    exact caseIds_ne_nil hne (List.length_eq_zero_iff.1 hlength)
  have hwithin : ∀ m ∈ clusters.map mean,
      lowestMean metric rows hne ≤ m ∧ m ≤ highestMean metric rows hne := by
    rw [hmeans]
    intro m hm
    obtain ⟨caseId, hcase, rfl⟩ := List.mem_map.1 hm
    have hmem : caseId ∈ (caseIds rows).toFinset := List.mem_toFinset.2 (mem_sorted.1 hcase)
    exact ⟨Finset.inf'_le _ hmem, Finset.le_sup' _ hmem⟩
  have horder := order_within hmeans_ne hwithin (random seed) B
  refine ⟨_, heq.trans hok, ?_, ?_, ?_, ?_, ?_, ?_⟩
  · -- Rearranged rows have the same cases in the order of their keys.
    intro rows' hperm
    have hne' : rows' ≠ [] := fun hnil => hne (hnil ▸ hperm).eq_nil
    obtain ⟨clusters', hmeans', heq'⟩ := percentileClusterBootstrapV3_eq random hne'
      (computed_of_perm hperm hcomputed) seed B
    have hcases : sorted (caseIds rows) = sorted (caseIds rows') :=
      sorted_eq_of_perm (keys_perm (hperm.map Row.caseId))
    rw [heq', ← hok]
    refine resample_congr ?_ B
    rw [hmeans, hmeans', hcases, caseMean_eq_of_perm hperm]
  · exact (horder _ (List.getElem_mem (hle.trans_lt hlt))).1
  · exact getElem_sorted_le hle hlt
  · exact (horder _ (List.getElem_mem hlt)).2
  · exact le_mean hmeans_ne fun m hm => (hwithin m hm).1
  · exact mean_le hmeans_ne fun m hm => (hwithin m hm).2

/-! ### Both functions -/

/-- A generator that always draws the same index. -/
def always (i : ℕ) : Generator where
  randrange _ n := i % n
  randrange_lt _ _ hn := Nat.mod_lt i hn

theorem order_always (hi : i < means.length) (B : ℤ) :
    ∀ x ∈ order (always i) means B, x = means[i] := by
  intro x hx
  obtain ⟨round, -, rfl⟩ := List.mem_map.1 (mem_sorted.1 hx)
  have hne : (List.range means.length).map (fun j =>
      means.getD ((always i).randrange (round * means.length + j) means.length) 0) ≠ [] := by
    intro hnil
    rw [List.map_eq_nil_iff, List.range_eq_nil] at hnil
    omega
  refine mean_eq hne ?_
  intro m hm
  obtain ⟨j, -, rfl⟩ := List.mem_map.1 hm
  change means.getD (i % means.length) 0 = means[i]
  rw [Nat.mod_eq_of_lt hi, List.getD_eq_getElem _ _ hi]

theorem resample_always (clusters : List (List ℚ)) (hi : i < (clusters.map mean).length)
    (hB : 1 ≤ B) :
    ∃ interval, resample (always i) clusters B = .ok interval ∧
      interval.lower = (clusters.map mean)[i] := by
  obtain ⟨lower, upper, hle, hlt, -, -, hok⟩ := exists_resample (always i) clusters hB
  exact ⟨_, hok, order_always hi B _ (List.getElem_mem _)⟩

/-- The cases have the same means in the order in which they are first listed as in the order of their
keys. -/
def ListedInOrder (metric : String) (rows : List Row) : Prop :=
  (caseIds rows).map (caseMean metric rows) = (sorted (caseIds rows)).map (caseMean metric rows)

theorem not_computed_eq (random : String → Generator) (h : ¬Computed metric rows) (seed : String)
    (B : ℤ) :
    (percentileClusterBootstrap random rows metric seed B).toOption = none ∧
      (percentileClusterBootstrapV3 random rows metric seed B).toOption = none := by
  unfold percentileClusterBootstrap percentileClusterBootstrapV3
  rw [grouped_eq_error h, grouped_eq_error h]
  exact ⟨rfl, rfl⟩

/-- **When both functions return the same interval**, for every stream of indices: with no interval at all,
or where the means of the cases stand in the same order. -/
theorem intervals_agree_iff (rows : List Row) (metric seed : String) (B : ℤ) :
    (∀ random : String → Generator, (percentileClusterBootstrap random rows metric seed B).toOption =
      (percentileClusterBootstrapV3 random rows metric seed B).toOption) ↔
    B < 1 ∨ ¬Computed metric rows ∨ ListedInOrder metric rows := by
  by_cases hcomputed : Computed metric rows
  · rcases eq_or_ne rows [] with rfl | hne
    · -- Without rows both raise.
      refine iff_of_true (fun random => rfl) (Or.inr (Or.inr rfl))
    constructor
    · intro hagree
      rcases lt_or_ge B 1 with hB | hB
      · exact Or.inl hB
      refine Or.inr (Or.inr ?_)
      have hlength : (sorted (caseIds rows)).length = (caseIds rows).length := length_sorted _
      refine List.ext_getElem (by simp) ?_
      intro i hi hi'
      -- The stream that always draws one index shows the mean that stands there.
      obtain ⟨clusters, hmeans, heq⟩ :=
        percentileClusterBootstrap_eq (fun _ => always i) hne hcomputed seed B
      obtain ⟨clusters', hmeans', heq'⟩ :=
        percentileClusterBootstrapV3_eq (fun _ => always i) hne hcomputed seed B
      obtain ⟨interval, hinterval, hlower⟩ :=
        resample_always clusters (by rwa [hmeans] : i < (clusters.map mean).length) hB
      obtain ⟨interval', hinterval', hlower'⟩ :=
        resample_always clusters' (by rwa [hmeans'] : i < (clusters'.map mean).length) hB
      have hsame := hagree fun _ => always i
      rw [heq, heq', hinterval, hinterval'] at hsame
      obtain rfl : interval = interval' := Option.some.inj hsame
      rw [hlower] at hlower'
      simpa only [hmeans, hmeans'] using hlower'
    · rintro (hB | hnot | hlisted) random
      · obtain ⟨clusters, -, heq⟩ :=
          percentileClusterBootstrap_eq random hne hcomputed seed B
        obtain ⟨clusters', -, heq'⟩ :=
          percentileClusterBootstrapV3_eq random hne hcomputed seed B
        rw [heq, heq', resample_of_lt hB, resample_of_lt hB]
      · exact absurd hcomputed hnot
      · obtain ⟨clusters, hmeans, heq⟩ :=
          percentileClusterBootstrap_eq random hne hcomputed seed B
        obtain ⟨clusters', hmeans', heq'⟩ :=
          percentileClusterBootstrapV3_eq random hne hcomputed seed B
        have hsame : clusters.map mean = clusters'.map mean := by
          rw [hmeans, hmeans']
          exact hlisted
        rw [heq, heq', resample_congr hsame]
  · refine iff_of_true ?_ (Or.inr (Or.inl hcomputed))
    intro random
    obtain ⟨hnone, hnone'⟩ := not_computed_eq random hcomputed seed B
    rw [hnone, hnone']

/-! ### Rows out of order -/

/-- A case that succeeds, listed before one with an earlier name that fails. -/
def outOfOrder : List Row :=
  [{ caseId := "case-b", metric := fun name => if name = "core_e2e" then some 1 else none },
    { caseId := "case-a", metric := fun name => if name = "core_e2e" then some 0 else none }]

/-- **The interval depends on the order of the rows**: the same draws find another cluster. -/
theorem not_intervals_agree :
    ¬∀ (random : String → Generator) (rows : List Row) (metric seed : String) (B : ℤ),
      (percentileClusterBootstrap random rows metric seed B).toOption =
        (percentileClusterBootstrapV3 random rows metric seed B).toOption := by
  intro h
  have hsame := h (fun _ => always 0) outOfOrder "core_e2e" "digest" 1
  revert hsame
  decide +kernel

theorem interval_sound_outOfOrder :
    ∃ interval, percentileClusterBootstrapV3 (fun _ => always 0) outOfOrder "core_e2e" "digest" 2000 =
      .ok interval ∧ interval.lower ≤ interval.upper := by
  have hcomputed : Computed "core_e2e" outOfOrder := by
    intro row hrow
    rcases List.mem_pair.1 hrow with rfl | rfl
    · simp
    · simp
  obtain ⟨interval, hok, -, -, hle, -⟩ :=
    interval_sound (fun _ => always 0) outOfOrder "core_e2e" "digest" 2000 (by simp [outOfOrder])
      hcomputed (by decide)
  exact ⟨interval, hok, hle⟩

end ClusterBootstrap
