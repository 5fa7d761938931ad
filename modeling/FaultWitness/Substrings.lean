/-
**Searching a text that comes in chunks.**

A text that is read in chunks can be searched chunk by chunk, if from each chunk the last letters are
kept, one less than the pattern has: an occurrence that begins in one chunk and ends in another is
then found with the later one.

Main definitions:

* `Substrings.count` — the number of occurrences of a pattern that do not overlap;
* `Substrings.overlap` — the letters that are kept of a window;
* `Substrings.chunkHits` — the occurrences found in the chunks;
* `Substrings.occurrences`, `Substrings.BorderFree` — all occurrences, and patterns whose occurrences
  cannot overlap.

Main results:

* `Substrings.count_eq_zero_iff` — nothing is counted exactly if the pattern does not occur;
* `Substrings.chunkHits_eq_zero_iff` — **nothing is found in the chunks exactly if the pattern does
  not occur in the text**;
* `Substrings.chunkHits_eq` — **patterns without borders are found as often as they occur**.
-/

import Mathlib.Algebra.BigOperators.Group.List.Basic
import Mathlib.Data.List.Infix
import Mathlib.Algebra.GroupWithZero.Nat

set_option autoImplicit false

namespace Substrings

variable {α : Type} [DecidableEq α] {pattern text window : List α}

/-! ### Counting -/

/-- The occurrences from the letter `skip` on. -/
def countFrom (pattern : List α) : ℕ → List α → ℕ
  | _, [] => 0
  | skip + 1, _ :: text => countFrom pattern skip text
  | 0, a :: text =>
    if pattern <+: a :: text then countFrom pattern (pattern.length - 1) text + 1
    else countFrom pattern 0 text

/-- The number of occurrences that do not overlap; the empty pattern occurs between all letters. -/
def count (pattern text : List α) : ℕ :=
  if pattern = [] then text.length + 1 else countFrom pattern 0 text

theorem countFrom_eq_zero_iff (h : pattern ≠ []) :
    countFrom pattern 0 text = 0 ↔ ¬pattern <:+: text := by
  induction text with
  | nil =>
    rw [List.infix_nil]
    exact ⟨fun _ => h, fun _ => rfl⟩
  | cons a text ih =>
    rw [countFrom, List.infix_cons_iff, not_or]
    split
    · rename_i hfront
      exact ⟨fun hzero => absurd hzero (Nat.succ_ne_zero _), fun hnot => absurd hfront hnot.1⟩
    · rename_i hfront
      rw [ih]
      exact ⟨fun hwithin => ⟨hfront, hwithin⟩, fun hnot => hnot.2⟩

theorem count_eq_zero_iff (h : pattern ≠ []) : count pattern text = 0 ↔ ¬pattern <:+: text := by
  rw [count, if_neg h, countFrom_eq_zero_iff h]

/-! ### Windows -/

/-- The slice of a window from its letter `1 - pattern.length` on, which counts from the end if it is
negative. -/
def overlap (pattern window : List α) : List α :=
  if pattern.length ≤ 1 then window.drop (1 - pattern.length)
  else window.drop (window.length - (pattern.length - 1))

omit [DecidableEq α] in
theorem length_overlap_lt (h : 2 ≤ pattern.length) :
    (overlap pattern window).length < pattern.length := by
  rw [overlap, if_neg (by omega), List.length_drop]
  omega

omit [DecidableEq α] in
/-- An occurrence is in the window, or begins in the letters that are kept. -/
theorem infix_append_iff (h : 2 ≤ pattern.length) (rest : List α) :
    pattern <:+: window ++ rest ↔ pattern <:+: window ∨ pattern <:+: overlap pattern window ++ rest := by
  have hkeep : overlap pattern window = window.drop (window.length - (pattern.length - 1)) := by
    rw [overlap, if_neg (by omega)]
  have hdrop : (window ++ rest).drop (window.length - (pattern.length - 1)) =
      overlap pattern window ++ rest := by
    rw [hkeep, List.drop_append_of_le_length (Nat.sub_le _ _)]
  constructor
  · rintro ⟨before, after, heq⟩
    by_cases hend : before.length + pattern.length ≤ window.length
    · left
      have hfront : before ++ pattern <+: window := by
        refine List.prefix_of_prefix_length_le ⟨after, heq⟩ (List.prefix_append _ _) ?_
        rw [List.length_append]
        exact hend
      obtain ⟨mid, hmid⟩ := hfront
      exact ⟨before, mid, hmid⟩
    · right
      rw [← hdrop, ← heq, List.append_assoc,
        List.drop_append_of_le_length (by omega), ← List.append_assoc]
      exact ⟨_, after, rfl⟩
  · rintro (hwithin | hwithin)
    · exact hwithin.trans (List.prefix_append _ _).isInfix
    · rw [← hdrop] at hwithin
      exact hwithin.trans (List.drop_suffix _ _).isInfix

/-! ### Chunks -/

/-- What is found in the chunks for several patterns, each with the letters kept for it. -/
def chunkHits : List (List α × List α) → List (List α) → ℕ
  | _, [] => 0
  | kept, chunk :: chunks =>
    (kept.map fun k => count k.1 (k.2 ++ chunk)).sum +
      chunkHits (kept.map fun k => (k.1, overlap k.1 (k.2 ++ chunk))) chunks

variable {kept : List (List α × List α)} {chunks : List (List α)}

/-- **Nothing is found exactly if no pattern occurs in the text.** -/
theorem chunkHits_eq_zero_iff (h : ∀ k ∈ kept, 2 ≤ k.1.length ∧ k.2.length < k.1.length) :
    chunkHits kept chunks = 0 ↔ ∀ k ∈ kept, ¬k.1 <:+: k.2 ++ chunks.flatten := by
  induction chunks generalizing kept with
  | nil =>
    refine ⟨fun _ k hk hwithin => ?_, fun _ => rfl⟩
    rw [List.flatten_nil, List.append_nil] at hwithin
    have hlength := hwithin.length_le
    have hshort := (h k hk).2
    omega
  | cons chunk chunks ih =>
    have hnext : ∀ k ∈ kept.map fun k => (k.1, overlap k.1 (k.2 ++ chunk)),
        2 ≤ k.1.length ∧ k.2.length < k.1.length := by
      intro k hk
      obtain ⟨k', hk', rfl⟩ := List.mem_map.1 hk
      exact ⟨(h k' hk').1, length_overlap_lt (h k' hk').1⟩
    rw [chunkHits, Nat.add_eq_zero_iff, ih hnext, List.sum_eq_zero_iff_forall_eq_nat]
    simp only [List.forall_mem_map, List.flatten_cons, ← List.append_assoc]
    rw [← forall₂_and]
    refine forall₂_congr fun k hk => ?_
    have hne : k.1 ≠ [] := List.ne_nil_of_length_pos (by have := (h k hk).1; omega)
    rw [count_eq_zero_iff hne, @infix_append_iff _ _ (k.2 ++ chunk) (h k hk).1 chunks.flatten, not_or]

/-! ### All occurrences -/

/-- The number of places where the pattern occurs. -/
def occurrences (pattern : List α) : List α → ℕ
  | [] => if pattern = [] then 1 else 0
  | a :: text => (if pattern <+: a :: text then 1 else 0) + occurrences pattern text

/-- No part of the pattern is at its beginning and at its end, apart from nothing and the whole. -/
def BorderFree (pattern : List α) : Prop :=
  ∀ border, border <+: pattern → border <:+ pattern → border = [] ∨ border = pattern

theorem occurrences_of_short (h : text.length < pattern.length) : occurrences pattern text = 0 := by
  induction text with
  | nil =>
    have hne : pattern ≠ [] := List.ne_nil_of_length_pos (by simpa using h)
    rw [occurrences, if_neg hne]
  | cons a text ih =>
    have hfront : ¬pattern <+: a :: text := fun hpre => absurd hpre.length_le (Nat.not_le.2 h)
    rw [List.length_cons] at h
    rw [occurrences, if_neg hfront, ih (by omega)]

theorem occurrences_drop {k : ℕ} (h : ∀ i < k, ¬pattern <+: text.drop i) :
    occurrences pattern (text.drop k) = occurrences pattern text := by
  induction k generalizing text with
  | zero => rw [List.drop_zero]
  | succ k ih =>
    cases text with
    | nil => rw [List.drop_nil]
    | cons a text =>
      have hfront : ¬pattern <+: a :: text := h 0 (Nat.succ_pos k)
      rw [List.drop_succ_cons, occurrences, if_neg hfront, Nat.zero_add]
      exact ih fun i hi => h (i + 1) (Nat.succ_lt_succ hi)

omit [DecidableEq α] in
theorem BorderFree.not_prefix_drop (hfree : BorderFree pattern) (hfront : pattern <+: text) {k : ℕ}
    (hpos : 0 < k) (hk : k < pattern.length) : ¬pattern <+: text.drop k := by
  obtain ⟨rest, rfl⟩ := hfront
  rw [List.drop_append_of_le_length hk.le]
  intro hlater
  have hborder : pattern.drop k <+: pattern :=
    List.prefix_of_prefix_length_le (List.prefix_append _ rest) hlater (by simp)
  rcases hfree _ hborder (List.drop_suffix k pattern) with hnil | hall
  · rw [List.drop_eq_nil_iff] at hnil
    omega
  · have hlength := congrArg List.length hall
    rw [List.length_drop] at hlength
    omega

/-- **The occurrences that do not overlap are all**, if the pattern has no borders. -/
theorem countFrom_eq_occurrences (hne : pattern ≠ []) (hfree : BorderFree pattern) (skip : ℕ) :
    countFrom pattern skip text = occurrences pattern (text.drop skip) := by
  induction text generalizing skip with
  | nil => rw [countFrom, List.drop_nil, occurrences, if_neg hne]
  | cons a text ih =>
    cases skip with
    | succ skip => rw [countFrom, List.drop_succ_cons, ih]
    | zero =>
      rw [countFrom, List.drop_zero, occurrences]
      split
      · rename_i hfront
        have hskip : occurrences pattern (text.drop (pattern.length - 1)) =
            occurrences pattern text := by
          refine occurrences_drop fun i hi => ?_
          exact hfree.not_prefix_drop hfront (Nat.succ_pos i) (by omega)
        rw [ih, hskip, Nat.add_comm]
      · rw [ih, List.drop_zero, Nat.zero_add]

theorem count_eq_occurrences (hne : pattern ≠ []) (hfree : BorderFree pattern) :
    count pattern text = occurrences pattern text := by
  rw [count, if_neg hne, countFrom_eq_occurrences hne hfree, List.drop_zero]

/-- An occurrence is in the window or begins in the letters that are kept, and not both. -/
theorem occurrences_append (h : 2 ≤ pattern.length) (window rest : List α) :
    occurrences pattern (window ++ rest) =
      occurrences pattern window + occurrences pattern (overlap pattern window ++ rest) := by
  have hkeep : ∀ window : List α,
      overlap pattern window = window.drop (window.length - (pattern.length - 1)) := by
    intro window
    rw [overlap, if_neg (by omega)]
  induction window with
  | nil =>
    have hnone : occurrences pattern ([] : List α) = 0 :=
      occurrences_of_short (by rw [List.length_nil]; omega)
    rw [hkeep, List.drop_nil, hnone, Nat.zero_add]
  | cons a window ih =>
    by_cases hshort : (a :: window).length < pattern.length
    · rw [hkeep, Nat.sub_eq_zero_of_le (by omega), List.drop_zero, occurrences_of_short hshort,
        Nat.zero_add]
    · rw [List.length_cons] at hshort
      have hdrop : overlap pattern (a :: window) = overlap pattern window := by
        rw [hkeep, hkeep, List.length_cons,
          show window.length + 1 - (pattern.length - 1) =
            window.length - (pattern.length - 1) + 1 by omega,
          List.drop_succ_cons]
      have hfront : pattern <+: a :: (window ++ rest) ↔ pattern <+: a :: window := by
        rw [← List.cons_append]
        refine ⟨fun hpre => ?_, fun hpre => hpre.trans (List.prefix_append _ rest)⟩
        exact List.prefix_of_prefix_length_le hpre (List.prefix_append _ rest)
          (by rw [List.length_cons]; omega)
      rw [List.cons_append, occurrences, occurrences, ih, hdrop, if_congr hfront rfl rfl,
        Nat.add_assoc]

/-- **In the chunks every occurrence is found, and once.** -/
theorem chunkHits_eq (h : ∀ k ∈ kept, 2 ≤ k.1.length ∧ BorderFree k.1 ∧ k.2.length < k.1.length) :
    chunkHits kept chunks =
      (kept.map fun k => occurrences k.1 (k.2 ++ chunks.flatten)).sum := by
  induction chunks generalizing kept with
  | nil =>
    rw [chunkHits, eq_comm, List.sum_eq_zero_iff_forall_eq_nat, List.forall_mem_map]
    intro k hk
    rw [List.flatten_nil, List.append_nil]
    exact occurrences_of_short (h k hk).2.2
  | cons chunk chunks ih =>
    have hnext : ∀ k ∈ kept.map fun k => (k.1, overlap k.1 (k.2 ++ chunk)),
        2 ≤ k.1.length ∧ BorderFree k.1 ∧ k.2.length < k.1.length := by
      intro k hk
      obtain ⟨k', hk', rfl⟩ := List.mem_map.1 hk
      exact ⟨(h k' hk').1, (h k' hk').2.1, length_overlap_lt (h k' hk').1⟩
    rw [chunkHits, ih hnext, List.map_map, ← List.sum_map_add]
    refine congrArg List.sum (List.map_congr_left fun k hk => ?_)
    have hne : k.1 ≠ [] := List.ne_nil_of_length_pos (by have := (h k hk).1; omega)
    rw [count_eq_occurrences hne (h k hk).2.1, Function.comp_apply, List.flatten_cons,
      ← List.append_assoc, occurrences_append (h k hk).1 (k.2 ++ chunk)]

omit [DecidableEq α] in
theorem borderFree_of_first {a : α} (h : a ∉ text) : BorderFree (a :: text) := by
  intro border hpre hsuf
  cases border with
  | nil => exact .inl rfl
  | cons b border =>
    obtain rfl : b = a := (List.cons_prefix_cons.1 hpre).1
    rcases List.suffix_cons_iff.1 hsuf with hall | hlater
    · exact .inr hall
    · exact absurd (hlater.mem List.mem_cons_self) h

omit [DecidableEq α] in
/-- The second letter does not come again, and the last one is not the first. -/
theorem borderFree_of_second {a b : α} (h : b ∉ text)
    (hlast : (a :: b :: text).getLast (List.cons_ne_nil _ _) ≠ a) : BorderFree (a :: b :: text) := by
  intro border hpre hsuf
  cases border with
  | nil => exact .inl rfl
  | cons c border =>
    obtain ⟨rfl, hrest⟩ := List.cons_prefix_cons.1 hpre
    cases border with
    | nil =>
      refine absurd ?_ hlast
      obtain ⟨before, heq⟩ := hsuf
      simp only [← heq, List.getLast_append_singleton]
    | cons d border =>
      have hd : d = b := (List.cons_prefix_cons.1 hrest).1
      subst hd
      rcases List.suffix_cons_iff.1 hsuf with hall | hlater
      · exact .inr hall
      · rcases List.suffix_cons_iff.1 hlater with hrest | hrest
        · refine absurd ?_ h
          rw [← (List.cons.inj hrest).2]
          exact List.mem_cons_self
        · exact absurd (hrest.mem (List.mem_cons_of_mem _ List.mem_cons_self)) h

theorem chunkHits_eq_sum (kept : List (List α × List α)) (chunks : List (List α)) :
    chunkHits kept chunks = (kept.map fun k => chunkHits [k] chunks).sum := by
  induction chunks generalizing kept with
  | nil => simp [chunkHits]
  | cons chunk chunks ih =>
    simp only [chunkHits, List.map_cons, List.map_nil, List.sum_singleton, List.sum_map_add]
    rw [ih, List.map_map]
    rfl

end Substrings
