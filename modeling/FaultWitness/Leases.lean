/-
**Leases without an identity.**

Workers take keys from a table, each for a limited time, and later finish them or give them back.
The table keeps for a key only until when it is leased, not by whom, so it cannot tell the worker
that holds the lease from one whose lease has run out.

A *holding* records that a worker was handed a key and has not settled it.  The rules below are
those under which holdings are exclusive: a key may be taken when it is free or its lease has run
out, anyone may finish a key, and a key may be given back unless it is finished or another worker
holds it under a lease that still runs.

Main definitions:

* `Leases.Table` — the table, with the holdings and the keys that were finished;
* `Leases.Step` — the rules;
* `Leases.Inv` — the invariant.

Main results:

* `Leases.Step.inv` — every rule keeps the invariant;
* `Leases.Inv.exclusive` — **what can be taken is neither finished nor held under a running lease**.
-/

import Mathlib.Data.List.Basic
import Mathlib.Data.Int.Order.Basic
import Mathlib.Logic.Function.Basic

set_option autoImplicit false

namespace Leases

/-- What the table says of a key. -/
inductive Status
  | free
  | leased (deadline : ℤ)
  | done
deriving DecidableEq

/-- A worker was handed a key, with a lease up to an instant, and has not settled it. -/
structure Holding (K W : Type) where
  worker : W
  key : K
  deadline : ℤ
deriving DecidableEq

structure Table (K W : Type) where
  clock : ℤ
  status : K → Status
  held : List (Holding K W)
  finished : List K

variable {K W : Type} [DecidableEq K] [DecidableEq W]

/-- The key may be taken: it is free, or its lease has run out. -/
def Available (t : Table K W) (k : K) : Prop :=
  t.status k = .free ∨ ∃ deadline, t.status k = .leased deadline ∧ deadline ≤ t.clock

/-- Nobody but the worker holds the key under a lease that still runs. -/
def OthersExpired (t : Table K W) (w : W) (k : K) : Prop :=
  ∀ h ∈ t.held, h.key = k → h.worker ≠ w → h.deadline ≤ t.clock

/-- The holdings after a worker has settled a key. -/
def settled (held : List (Holding K W)) (w : W) (k : K) : List (Holding K W) :=
  held.filter fun h => ¬ (h.worker = w ∧ h.key = k)

/-- The rules. -/
inductive Step : Table K W → Table K W → Prop
  | wait {t : Table K W} {clock : ℤ} (h : t.clock ≤ clock) : Step t { t with clock := clock }
  /-- Keys are leased, and some of them reach the worker. -/
  | take {t : Table K W} {status : K → Status} (w : W) (ks : List K) (deadline : ℤ)
      (handed : List K) (havailable : ∀ k ∈ ks, Available t k)
      (htaken : ∀ k ∈ ks, status k = .leased deadline)
      (hothers : ∀ k, k ∉ ks → status k = t.status k) (hhanded : ∀ k ∈ handed, k ∈ ks) :
      Step t { t with
        status := status
        held := handed.map (fun k => ⟨w, k, deadline⟩) ++ t.held }
  | finish {t : Table K W} (w : W) (k : K) :
      Step t { t with
        status := Function.update t.status k .done
        held := settled t.held w k
        finished := k :: t.finished }
  | release {t : Table K W} (w : W) (k : K) (hdone : t.status k ≠ .done)
      (hothers : OthersExpired t w k) :
      Step t { t with
        status := Function.update t.status k .free
        held := settled t.held w k }

/-- A holding whose lease runs is the lease of its key, unless the key is finished; and finished
keys stay so. -/
structure Inv (t : Table K W) : Prop where
  held : ∀ h ∈ t.held, t.clock < h.deadline →
    t.status h.key = .done ∨ t.status h.key = .leased h.deadline
  finished : ∀ k ∈ t.finished, t.status k = .done

omit [DecidableEq K] [DecidableEq W] in
theorem Available.ne_done {t : Table K W} {k : K} (h : Available t k) : t.status k ≠ .done := by
  intro hdone
  rcases h with h | ⟨_, h, -⟩
  · rw [hdone] at h
    cases h
  · rw [hdone] at h
    cases h

omit [DecidableEq K] [DecidableEq W] in
/-- **What can be taken is neither finished nor held under a running lease.** -/
theorem Inv.exclusive {t : Table K W} (h : Inv t) {k : K} (hk : Available t k) :
    k ∉ t.finished ∧ ∀ held ∈ t.held, held.key = k → held.deadline ≤ t.clock := by
  refine ⟨fun hf => hk.ne_done (h.finished k hf), fun held hheld hkey => ?_⟩
  by_contra hlt
  rw [not_le] at hlt
  rcases h.held held hheld hlt with hdone | hleased
  · exact hk.ne_done (hkey ▸ hdone)
  · rw [hkey] at hleased
    rcases hk with hfree | ⟨deadline, hother, hle⟩
    · rw [hleased] at hfree
      cases hfree
    · rw [hleased] at hother
      cases hother
      omega

/-- **The rules keep the invariant.** -/
theorem Step.inv {t t' : Table K W} (h : Step t t') (hi : Inv t) : Inv t' := by
  cases h with
  | wait hclock =>
    refine ⟨fun held hheld hlt => ?_, hi.finished⟩
    exact hi.held held hheld (lt_of_le_of_lt hclock hlt)
  | take w ks deadline handed havailable htaken hothers hhanded =>
    refine ⟨fun held hheld hlt => ?_, fun k hk => ?_⟩
    · rcases List.mem_append.1 hheld with hnew | hold
      · obtain ⟨k, hk, rfl⟩ := List.mem_map.1 hnew
        exact Or.inr (htaken k (hhanded k hk))
      · -- a running lease cannot have been taken over
        have hnot : held.key ∉ ks := fun hk =>
          absurd ((hi.exclusive (havailable _ hk)).2 held hold rfl) (not_le.2 hlt)
        simp only [hothers _ hnot]
        exact hi.held held hold hlt
    · have hnot : k ∉ ks := fun hks => (havailable k hks).ne_done (hi.finished k hk)
      simp only [hothers _ hnot]
      exact hi.finished k hk
  | finish w k =>
    refine ⟨fun held hheld hlt => ?_, fun l hl => ?_⟩
    · by_cases hkey : held.key = k
      · left
        simp only [hkey, Function.update_self]
      · simp only [Function.update_of_ne hkey]
        exact hi.held held (List.mem_of_mem_filter hheld) hlt
    · by_cases hkey : l = k
      · simp only [hkey, Function.update_self]
      · simp only [Function.update_of_ne hkey]
        rcases List.mem_cons.1 hl with hl | hl
        · exact absurd hl hkey
        · exact hi.finished l hl
  | release w k hdone hothers =>
    refine ⟨fun held hheld hlt => ?_, fun l hl => ?_⟩
    · obtain ⟨hmem, hne⟩ := List.mem_filter.1 hheld
      have hkey : held.key ≠ k := by
        intro hkey
        have hworker : held.worker ≠ w := fun hw => by simp [hw, hkey] at hne
        exact absurd (hothers held hmem hkey hworker) (not_le.2 hlt)
      simp only [Function.update_of_ne hkey]
      exact hi.held held hmem hlt
    · have hkey : l ≠ k := fun hkey => hdone (hkey ▸ hi.finished l hl)
      simp only [Function.update_of_ne hkey]
      exact hi.finished l hl

end Leases
