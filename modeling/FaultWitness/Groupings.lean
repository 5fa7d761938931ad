/-
**Grouping the rows of a table by a key.**

A loop that appends every value to the list of its key, as `grouped.setdefault(key, []).append(value)` does
on a dictionary that keeps its keys in the order in which they came.  What the loop leaves is read off the
rows: a key stands where it was first seen, with its values in their order.

This module names nothing of a program; the clusters of the bootstrap intervals are such groups.

Main definitions:

* `Groupings.append`, `Groupings.group` — one round of the loop, and the loop;
* `Groupings.valuesAt` — the values of a key.

Main results:

* `Groupings.group_eq` — **what the loop leaves**;
* `Groupings.keys_perm` — the keys of rearranged rows are rearranged;
* `Groupings.lookup_group` — the values that are found under a key.
-/

import Mathlib.Data.List.Perm.Basic
import Mathlib.Data.List.Induction
import Mathlib.Data.List.Nodup

set_option autoImplicit false

namespace Groupings

variable {κ α : Type} [DecidableEq κ]

/-- Appending a value to the list of its key. -/
def append (key : κ) (value : α) : List (κ × List α) → List (κ × List α)
  | [] => [(key, [value])]
  | (other, values) :: groups =>
    if other = key then (other, values ++ [value]) :: groups
    else (other, values) :: append key value groups

/-- The groups of some rows. -/
def group (rows : List (κ × α)) : List (κ × List α) :=
  rows.foldl (fun groups row => append row.1 row.2 groups) []

/-- The values of a key. -/
def valuesAt (key : κ) (rows : List (κ × α)) : List α :=
  (rows.filter fun row => row.1 = key).map Prod.snd

/-! ### Keys without repetitions -/

variable {keys : List κ} {rows : List (κ × α)} {key : κ}

theorem eraseDups_concat (keys : List κ) (key : κ) :
    (keys ++ [key]).eraseDups = if key ∈ keys then keys.eraseDups else keys.eraseDups ++ [key] := by
  rw [List.eraseDups_append]
  by_cases hmem : key ∈ keys
  · simp [List.removeAll, hmem]
  · simp [List.removeAll, hmem, List.eraseDups_cons]

theorem nodup_eraseDups (keys : List κ) : keys.eraseDups.Nodup := by
  induction keys using List.reverseRecOn with
  | nil => simp
  | append_singleton keys key ih =>
    rw [eraseDups_concat]
    split
    · exact ih
    · rename_i hnew
      refine List.nodup_append.2 ⟨ih, List.nodup_singleton key, ?_⟩
      intro a ha b hb heq
      rw [List.mem_singleton] at hb
      subst hb
      subst heq
      exact hnew (List.mem_eraseDups.1 ha)

theorem keys_perm {keys' : List κ} (h : keys.Perm keys') : keys.eraseDups.Perm keys'.eraseDups := by
  rw [List.perm_ext_iff_of_nodup (nodup_eraseDups keys) (nodup_eraseDups keys')]
  intro key
  rw [List.mem_eraseDups, List.mem_eraseDups]
  exact h.mem_iff

/-! ### What the loop leaves -/

theorem append_map (hnodup : keys.Nodup) (values : κ → List α) (key : κ) (value : α) :
    append key value (keys.map fun k => (k, values k)) =
      if key ∈ keys then keys.map fun k => (k, if k = key then values k ++ [value] else values k)
      else (keys.map fun k => (k, values k)) ++ [(key, [value])] := by
  induction keys with
  | nil => simp [append]
  | cons k keys ih =>
    obtain ⟨hk, hkeys⟩ := List.nodup_cons.1 hnodup
    rw [List.map_cons, append]
    by_cases heq : k = key
    · -- The key stands first, and the other groups stay as they are.
      subst heq
      have hrest : (keys.map fun k' => (k', if k' = k then values k' ++ [value] else values k')) =
          keys.map fun k' => (k', values k') := by
        refine List.map_congr_left ?_
        intro k' hk'
        have hne : k' ≠ k := fun h => hk (h ▸ hk')
        simp [hne]
      simp [hrest]
    · have hne : key ≠ k := fun h => heq h.symm
      rw [if_neg heq, ih hkeys]
      by_cases hmem : key ∈ keys
      · simp [hmem, heq]
      · simp [hmem, hne]

theorem valuesAt_concat (rows : List (κ × α)) (row : κ × α) (key : κ) :
    valuesAt key (rows ++ [row]) =
      if key = row.1 then valuesAt key rows ++ [row.2] else valuesAt key rows := by
  by_cases heq : key = row.1
  · simp [valuesAt, heq]
  · have hne : row.1 ≠ key := fun h => heq h.symm
    simp [valuesAt, heq, hne]

theorem valuesAt_of_notMem (h : key ∉ rows.map Prod.fst) : valuesAt key rows = [] := by
  unfold valuesAt
  rw [List.map_eq_nil_iff, List.filter_eq_nil_iff]
  intro row hrow heq
  exact h (List.mem_map.2 ⟨row, hrow, of_decide_eq_true heq⟩)

/-- **What the loop leaves**: the keys as they were first seen, each with its values. -/
theorem group_eq (rows : List (κ × α)) :
    group rows = (rows.map Prod.fst).eraseDups.map fun key => (key, valuesAt key rows) := by
  induction rows using List.reverseRecOn with
  | nil => simp [group]
  | append_singleton rows row ih =>
    have hstep : group (rows ++ [row]) = append row.1 row.2 (group rows) := by
      simp [group, List.foldl_append]
    rw [hstep, ih, append_map (nodup_eraseDups _), List.map_append, List.map_cons, List.map_nil,
      eraseDups_concat]
    simp only [List.mem_eraseDups, valuesAt_concat]
    by_cases hmem : row.1 ∈ rows.map Prod.fst
    · rw [if_pos hmem, if_pos hmem]
    · rw [if_neg hmem, if_neg hmem, List.map_append]
      congr 1
      · refine List.map_congr_left ?_
        intro key hkey
        have hne : key ≠ row.1 := fun h => hmem (h ▸ List.mem_eraseDups.1 hkey)
        rw [if_neg hne]
      · simp [valuesAt_of_notMem hmem]

theorem keys_group (rows : List (κ × α)) :
    (group rows).map Prod.fst = (rows.map Prod.fst).eraseDups := by
  rw [group_eq, List.map_map]
  exact List.map_id _

theorem lookup_map (values : κ → List α) (h : key ∈ keys) :
    (keys.map fun k => (k, values k)).lookup key = some (values key) := by
  induction keys with
  | nil => cases h
  | cons k keys ih =>
    rw [List.map_cons, List.lookup_cons]
    by_cases heq : key = k
    · simp [heq]
    · have hbeq : (key == k) = false := by simpa using heq
      rw [hbeq]
      rcases List.mem_cons.1 h with hk | hk
      · exact absurd hk heq
      · exact ih hk

theorem lookup_group (h : key ∈ rows.map Prod.fst) :
    (group rows).lookup key = some (valuesAt key rows) := by
  rw [group_eq]
  exact lookup_map (fun k => valuesAt k rows) (List.mem_eraseDups.2 h)

end Groupings
