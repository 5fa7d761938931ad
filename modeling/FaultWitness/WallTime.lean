/-
**The time that spans cover.**

The function `reconcile_wall_time` compares the time on the wall with the time that the spans of a trace
cover together.  It sorts their intervals and merges them in one pass, which looks at the last merged
interval only.

Instants are numbers of microseconds, and the times are exact where the code computes with
floating-point numbers of milliseconds.

Main definitions:

* `WallTime.mergeStep` — what the loop does with an interval;
* `WallTime.reconcileWallTime` — the function.

Main results:

* `WallTime.merged_spec` — the merged intervals are apart and cover what was read;
* `WallTime.traceUnion_exact` — **the time is the measure of the union of the spans**.
-/

import FaultWitness.IntervalUnions
import FaultWitness.Traces

set_option autoImplicit false

namespace WallTime

open Python Traces IntervalUnions MeasureTheory

/-! ### The function -/

inductive WallTimeError
  /-- Wall-clock timestamps must be timezone aware. -/
  | naiveTimestamp
  /-- Wall-clock end precedes start. -/
  | endPrecedesStart
  /-- A text of a span is no timestamp. -/
  | valueError
deriving DecidableEq

/-- A `datetime` of the caller. -/
structure WallClock where
  instant : ℤ
  aware : Bool

structure LatencyReconciliation where
  wallDuration : ℤ
  traceUnion : ℤ
  difference : ℤ
  tolerance : ℚ
  passed : Bool

/-- The order of pairs. -/
def le (a b : ℤ × ℤ) : Prop := a.1 < b.1 ∨ a.1 = b.1 ∧ a.2 ≤ b.2

instance : DecidableRel le := fun _ _ => inferInstanceAs (Decidable (_ ∨ _ ∧ _))

/-- What the loop does with an interval; the last merged interval stands first. -/
def mergeStep (merged : List (ℤ × ℤ)) (interval : ℤ × ℤ) : List (ℤ × ℤ) :=
  match merged with
  | [] => [interval]
  | last :: rest =>
    if last.2 < interval.1 then interval :: last :: rest
    else (last.1, max last.2 interval.2) :: rest

/-- The time that intervals cover together. -/
def traceUnion (intervals : List (ℤ × ℤ)) : ℤ :=
  total ((intervals.insertionSort le).foldl mergeStep [])

/-- The timestamps of a span, as the library reads them. -/
def interval (fromisoformat : String → Option ℤ) (span : SanitizedSpan) :
    Except WallTimeError (ℤ × ℤ) :=
  match fromisoformat span.startedAt, fromisoformat span.endedAt with
  | some start, some ended => .ok (start, ended)
  | _, _ => .error .valueError

def reconcileWallTime (fromisoformat : String → Option ℤ) (trace : SanitizedTrace)
    (wallStartedAt wallEndedAt : WallClock) : Except WallTimeError LatencyReconciliation := do
  if ¬(wallStartedAt.aware ∧ wallEndedAt.aware) then throw .naiveTimestamp
  if wallEndedAt.instant < wallStartedAt.instant then throw .endPrecedesStart
  let intervals ← trace.spans.mapM (interval fromisoformat)
  let wall := wallEndedAt.instant - wallStartedAt.instant
  let difference := |wall - traceUnion intervals|
  -- fifty milliseconds, or five of a hundred parts of the time on the wall
  let tolerance : ℚ := max 50000 (wall / 20)
  return { wallDuration := wall
           traceUnion := traceUnion intervals
           difference
           tolerance
           passed := decide ((difference : ℚ) ≤ tolerance) }

/-! ### The order -/

instance : Std.Total le where
  total a b := by
    unfold le
    omega

instance : IsTrans (ℤ × ℤ) le where
  trans a b c := by
    unfold le
    omega

theorem start_le_of_le {a b : ℤ × ℤ} (h : le a b) : a.1 ≤ b.1 := by
  unfold le at h
  omega

/-! ### Merging -/

/-- What the merged intervals are after some of the intervals were read: apart, the cover of what was
read, and started before all that is to come. -/
structure Merged (read coming : List (ℤ × ℤ)) (merged : List (ℤ × ℤ)) : Prop where
  apart : Apart merged
  covers : covered merged = covered read
  started : ∀ i ∈ merged, ∀ j ∈ coming, i.1 ≤ j.1

variable {i : ℤ × ℤ}

theorem Merged.step {read coming merged : List (ℤ × ℤ)} (h : Merged read (i :: coming) merged)
    (hproper : i.1 ≤ i.2) (hnext : ∀ j ∈ coming, i.1 ≤ j.1) :
    Merged (i :: read) coming (mergeStep merged i) := by
  cases merged with
  | nil =>
    refine ⟨⟨?_, List.pairwise_singleton _ _⟩, ?_, ?_⟩
    · intro j hj
      obtain rfl := List.mem_singleton.1 hj
      exact hproper
    · rw [mergeStep, covered_cons, h.covers, covered_cons]
    · intro j hj
      obtain rfl := List.mem_singleton.1 hj
      exact hnext
  | cons last rest =>
    obtain ⟨hbefore, hrest⟩ := List.pairwise_cons.1 h.apart.before
    have hlast : last.1 ≤ last.2 := h.apart.proper last List.mem_cons_self
    have hstart : last.1 ≤ i.1 := h.started last List.mem_cons_self i List.mem_cons_self
    have hcoming : ∀ j ∈ last :: rest, ∀ k ∈ coming, j.1 ≤ k.1 :=
      fun j hj k hk => h.started j hj k (List.mem_cons_of_mem _ hk)
    rw [mergeStep]
    split
    · -- the interval lies behind the last one, and so behind all of them
      next hgap =>
      refine ⟨⟨List.forall_mem_cons.2 ⟨hproper, h.apart.proper⟩, List.pairwise_cons.2 ⟨?_,
        h.apart.before⟩⟩, ?_, List.forall_mem_cons.2 ⟨hnext, hcoming⟩⟩
      · intro j hj
        rcases List.mem_cons.1 hj with rfl | hj
        · exact hgap
        · have hlt := hbefore j hj
          omega
      · rw [covered_cons, h.covers, covered_cons]
    · next hmeet =>
      obtain ⟨hlastComing, hrestComing⟩ := List.forall_mem_cons.1 hcoming
      have hrestProper : ∀ j ∈ rest, j.1 ≤ j.2 :=
        fun j hj => h.apart.proper j (List.mem_cons_of_mem _ hj)
      refine ⟨⟨List.forall_mem_cons.2 ⟨hlast.trans (le_max_left _ _), hrestProper⟩,
        List.pairwise_cons.2 ⟨hbefore, hrest⟩⟩, ?_, List.forall_mem_cons.2 ⟨hlastComing, hrestComing⟩⟩
      rw [covered_cons, points_union hproper hstart (not_lt.1 hmeet), covered_cons, ← h.covers,
        covered_cons, Set.union_comm (points last), Set.union_assoc]

variable {intervals : List (ℤ × ℤ)}

theorem Merged.foldl {read merged : List (ℤ × ℤ)} (h : Merged read intervals merged)
    (hproper : ∀ i ∈ intervals, i.1 ≤ i.2) (hsorted : intervals.Pairwise le) :
    Apart (intervals.foldl mergeStep merged) ∧
      covered (intervals.foldl mergeStep merged) = covered read ∪ covered intervals := by
  induction intervals generalizing read merged with
  | nil => exact ⟨h.apart, by rw [List.foldl_nil, h.covers, covered_nil, Set.union_empty]⟩
  | cons i intervals ih =>
    obtain ⟨hfirst, hsorted⟩ := List.pairwise_cons.1 hsorted
    obtain ⟨hi, hproper⟩ := List.forall_mem_cons.1 hproper
    have hstep := h.step hi fun j hj => start_le_of_le (hfirst j hj)
    obtain ⟨hapart, hcovers⟩ := ih hstep hproper hsorted
    refine ⟨hapart, hcovers.trans ?_⟩
    rw [covered_cons, covered_cons, Set.union_comm (points i), Set.union_assoc]

/-- **The merged intervals are apart and cover what was read.** -/
theorem merged_spec (h : ∀ i ∈ intervals, i.1 ≤ i.2) :
    Apart ((intervals.insertionSort le).foldl mergeStep []) ∧
      covered ((intervals.insertionSort le).foldl mergeStep []) = covered intervals := by
  have hperm := List.perm_insertionSort le intervals
  have hinit : Merged [] (intervals.insertionSort le) [] :=
    ⟨⟨fun _ hnone => absurd hnone List.not_mem_nil, .nil⟩, rfl,
      fun _ hnone => absurd hnone List.not_mem_nil⟩
  obtain ⟨hapart, hcovers⟩ := hinit.foldl (fun i hi => h i (hperm.mem_iff.1 hi))
    (List.pairwise_insertionSort le intervals)
  refine ⟨hapart, hcovers.trans ?_⟩
  rw [covered_nil, Set.empty_union]
  exact Set.Subset.antisymm (covered_mono hperm.subset) (covered_mono hperm.symm.subset)

/-! ### The time -/

theorem traceUnion_nonneg (h : ∀ i ∈ intervals, i.1 ≤ i.2) : 0 ≤ traceUnion intervals :=
  total_nonneg (merged_spec h).1.proper

theorem volume_covered_eq (h : ∀ i ∈ intervals, i.1 ≤ i.2) :
    volume (covered intervals) = ENNReal.ofReal (traceUnion intervals) := by
  obtain ⟨hapart, hcovers⟩ := merged_spec h
  rw [← hcovers, volume_covered hapart, traceUnion]

theorem le_of_ofReal_le {a b : ℤ} (hb : 0 ≤ b)
    (h : ENNReal.ofReal (a : ℝ) ≤ ENNReal.ofReal (b : ℝ)) : a ≤ b := by
  have hb' : (0 : ℝ) ≤ b := by exact_mod_cast hb
  exact_mod_cast (ENNReal.ofReal_le_ofReal_iff hb').1 h

theorem traceUnion_mono {others : List (ℤ × ℤ)} (h : ∀ i ∈ others, i.1 ≤ i.2)
    (hsub : intervals ⊆ others) : traceUnion intervals ≤ traceUnion others := by
  refine le_of_ofReal_le (traceUnion_nonneg h) ?_
  rw [← volume_covered_eq h, ← volume_covered_eq fun i hi => h i (hsub hi)]
  exact measure_mono (covered_mono hsub)

theorem length_le_traceUnion (h : ∀ i ∈ intervals, i.1 ≤ i.2) (hi : i ∈ intervals) :
    i.2 - i.1 ≤ traceUnion intervals := by
  refine le_of_ofReal_le (traceUnion_nonneg h) ?_
  rw [← volume_covered_eq h, ← volume_points]
  exact measure_mono (points_subset_covered hi)

theorem traceUnion_le_total (h : ∀ i ∈ intervals, i.1 ≤ i.2) :
    traceUnion intervals ≤ total intervals := by
  refine le_of_ofReal_le (total_nonneg h) ?_
  rw [← volume_covered_eq h]
  exact volume_covered_le h

theorem traceUnion_le (hne : intervals ≠ []) (h : ∀ i ∈ intervals, i.1 ≤ i.2) {lo hi : ℤ}
    (hbounds : ∀ i ∈ intervals, lo ≤ i.1 ∧ i.2 ≤ hi) : traceUnion intervals ≤ hi - lo := by
  obtain ⟨i, hi⟩ := List.exists_mem_of_ne_nil intervals hne
  have hle := h i hi
  obtain ⟨hlo, hhi⟩ := hbounds i hi
  refine le_of_ofReal_le (by omega) ?_
  rw [← volume_covered_eq h, ← volume_points (lo, _)]
  refine measure_mono ?_
  rintro x ⟨j, hj, hx⟩
  obtain ⟨hlo, hhi⟩ := hbounds j hj
  exact ⟨(Int.cast_le.2 hlo).trans hx.1, hx.2.trans (Int.cast_le.2 hhi)⟩

/-! ### Traces -/

variable {fromisoformat : String → Option ℤ}

/-- The points of time at which a span of the trace runs. -/
def running (fromisoformat : String → Option ℤ) (trace : SanitizedTrace) : Set ℝ :=
  {x | ∃ span ∈ trace.spans, ∃ i, interval fromisoformat span = .ok i ∧ x ∈ points i}

/-- The spans of the trace start before they end. -/
def Proper (fromisoformat : String → Option ℤ) (trace : SanitizedTrace) : Prop :=
  ∀ span ∈ trace.spans, ∀ i, interval fromisoformat span = .ok i → i.1 ≤ i.2

/-- The time is that at which a span runs: its measure, which does not depend on the order of the spans
and counts no time twice. -/
structure Exact (fromisoformat : String → Option ℤ) (trace : SanitizedTrace) (time : ℤ) : Prop where
  measure : volume (running fromisoformat trace) = ENNReal.ofReal time
  unordered : ∀ trace' start ended r, (∀ span, span ∈ trace'.spans ↔ span ∈ trace.spans) →
    reconcileWallTime fromisoformat trace' start ended = .ok r → r.traceUnion = time
  longest : ∀ span ∈ trace.spans, ∀ i, interval fromisoformat span = .ok i → i.2 - i.1 ≤ time
  sum : ∀ intervals, trace.spans.mapM (interval fromisoformat) = .ok intervals → time ≤ total intervals
  extent : ∀ lo hi, (∀ span ∈ trace.spans, ∀ i, interval fromisoformat span = .ok i →
    lo ≤ i.1 ∧ i.2 ≤ hi) → time ≤ hi - lo

variable {trace : SanitizedTrace}

theorem reconcileWallTime_eq_ok {start ended : WallClock} {r : LatencyReconciliation}
    (h : reconcileWallTime fromisoformat trace start ended = .ok r) :
    ∃ intervals, trace.spans.mapM (interval fromisoformat) = .ok intervals ∧
      r.traceUnion = traceUnion intervals := by
  rw [reconcileWallTime] at h
  obtain ⟨-, h⟩ := check_eq_ok.1 h
  obtain ⟨-, h⟩ := check_eq_ok.1 h
  obtain ⟨intervals, hintervals, h⟩ := bind_eq_ok.1 h
  cases h
  exact ⟨intervals, hintervals, rfl⟩

theorem mem_intervals_iff (h : trace.spans.mapM (interval fromisoformat) = .ok intervals) :
    i ∈ intervals ↔ ∃ span ∈ trace.spans, interval fromisoformat span = .ok i := by
  constructor
  · exact fun hi => of_mem_mapM_eq_ok h hi
  · rintro ⟨span, hspan, hinterval⟩
    obtain ⟨i', hi', hinterval'⟩ := exists_mem_of_mapM_eq_ok h hspan
    rw [hinterval] at hinterval'
    cases hinterval'
    exact hi'

theorem covered_eq_running (h : trace.spans.mapM (interval fromisoformat) = .ok intervals) :
    covered intervals = running fromisoformat trace := by
  ext x
  constructor
  · rintro ⟨i, hi, hx⟩
    obtain ⟨span, hspan, hinterval⟩ := (mem_intervals_iff h).1 hi
    exact ⟨span, hspan, i, hinterval, hx⟩
  · rintro ⟨span, hspan, i, hinterval, hx⟩
    exact ⟨i, (mem_intervals_iff h).2 ⟨span, hspan, hinterval⟩, hx⟩

/-- **The time that is reported is exactly that at which the spans run.** -/
theorem traceUnion_exact {trace : SanitizedTrace} {start ended : WallClock} {r : LatencyReconciliation}
    (hne : trace.spans ≠ []) (hproper : Proper fromisoformat trace)
    (h : reconcileWallTime fromisoformat trace start ended = .ok r) :
    Exact fromisoformat trace r.traceUnion := by
  obtain ⟨intervals, hintervals, htime⟩ := reconcileWallTime_eq_ok h
  have hmem := fun i => mem_intervals_iff (i := i) hintervals
  have hle : ∀ i ∈ intervals, i.1 ≤ i.2 := by
    intro i hi
    obtain ⟨span, hspan, hinterval⟩ := (hmem i).1 hi
    exact hproper span hspan i hinterval
  have hsome : intervals ≠ [] := by
    obtain ⟨span, hspan⟩ := List.exists_mem_of_ne_nil _ hne
    obtain ⟨i, hi, -⟩ := exists_mem_of_mapM_eq_ok hintervals hspan
    exact List.ne_nil_of_mem hi
  rw [htime]
  refine ⟨?_, ?_, ?_, ?_, ?_⟩
  · rw [← covered_eq_running hintervals, volume_covered_eq hle]
  · intro trace' start' ended' r' hsame h'
    obtain ⟨others, hothers, htime'⟩ := reconcileWallTime_eq_ok h'
    have hiff : ∀ i, i ∈ others ↔ i ∈ intervals := by
      intro i
      rw [hmem, mem_intervals_iff hothers]
      exact exists_congr fun span => and_congr_left fun _ => hsame span
    rw [htime']
    exact le_antisymm (traceUnion_mono hle fun i hi => (hiff i).1 hi)
      (traceUnion_mono (fun i hi => hle i ((hiff i).1 hi)) fun i hi => (hiff i).2 hi)
  · intro span hspan i hi
    exact length_le_traceUnion hle ((hmem i).2 ⟨span, hspan, hi⟩)
  · intro others hothers
    rw [hintervals] at hothers
    cases hothers
    exact traceUnion_le_total hle
  · intro lo hi hbounds
    refine traceUnion_le hsome hle fun i hi' => ?_
    obtain ⟨span, hspan, hinterval⟩ := (hmem i).1 hi'
    exact hbounds span hspan i hinterval

/-! ### A sample -/

/-- What the library reads from some timestamps. -/
def sampleInstants : List (String × ℤ) :=
  [("2026-01-01T00:00:00+00:00", 1767225600000000), ("2026-01-01T00:00:00.100000+00:00", 1767225600100000),
    ("2026-01-01T00:00:00.200000+00:00", 1767225600200000),
    ("2026-01-01T00:00:00.400000+00:00", 1767225600400000)]

def sampleSpan (ref started ended : String) : SanitizedSpan where
  spanRef := ref
  remoteId := ref
  otlpSpanId := ref
  parentSpanRef := none
  name := "api.request"
  stage := "api"
  startedAt := started
  endedAt := ended
  status := "ok"
  attributes := ⟨[], .nil⟩

/-- A span, one that touches it, and one inside the first. -/
def sampleSpans : SanitizedTrace :=
  { sampleTrace "trace-a" with
    spans := [sampleSpan "a" "2026-01-01T00:00:00+00:00" "2026-01-01T00:00:00.200000+00:00",
      sampleSpan "b" "2026-01-01T00:00:00.200000+00:00" "2026-01-01T00:00:00.400000+00:00",
      sampleSpan "c" "2026-01-01T00:00:00.100000+00:00" "2026-01-01T00:00:00.200000+00:00"] }

theorem traceUnion_exact_sample : ∃ r,
    reconcileWallTime (sampleInstants.lookup ·) sampleSpans ⟨1767225600000000, true⟩
      ⟨1767225600410000, true⟩ = .ok r ∧ r.traceUnion = 400000 ∧
      Exact (sampleInstants.lookup ·) sampleSpans r.traceUnion := by
  obtain ⟨r, hrun, htime⟩ : ∃ r, reconcileWallTime (sampleInstants.lookup ·) sampleSpans
      ⟨1767225600000000, true⟩ ⟨1767225600410000, true⟩ = .ok r ∧ r.traceUnion = 400000 :=
    ⟨_, rfl, by decide⟩
  refine ⟨r, hrun, htime, traceUnion_exact (by simp [sampleSpans]) ?_ hrun⟩
  intro span hspan i hi
  simp only [sampleSpans, List.mem_cons, List.not_mem_nil, or_false] at hspan
  rcases hspan with rfl | rfl | rfl
  · cases hi
    decide
  · cases hi
    decide
  · cases hi
    decide

end WallTime
