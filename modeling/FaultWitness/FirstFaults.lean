/-
**The first of the faults on the way of a computation.**

A computation that stops at its first exception is described by the list of all faults that lie on
its way, in the order in which it would meet them: it fails with the first one, and ends normally if
there is none.  The description is compositional.  What comes after a part is only reached when that
part ends normally, so that nothing has to be known of it otherwise.

A fault may mean different exceptions, depending on where it is met.  Then the meaning of a part's
first fault only has to be right where it is the first fault of the whole.

Main definitions:

* `FirstFaults.Meets` — the computation fails with the first of the faults.

Main results:

* `FirstFaults.Meets.bind` — **a block meets the faults of its parts, one after the other**;
* `FirstFaults.meets_mapM_of_first` — a comprehension, where only the first fault of all matters;
* `FirstFaults.Meets.forall_error_iff` — what holds of the exceptions of a computation holds of the
  first fault.
-/

import FaultWitness.Python

set_option autoImplicit false

namespace FirstFaults

open Python

variable {ε φ α β : Type}

/-- The computation fails with the first of the faults, and ends normally if there is none. -/
def Meets (r : Except ε α) (faults : List ε) : Prop :=
  ∀ err, r = .error err ↔ faults.head? = some err

theorem meets_ok (a : α) : Meets (.ok a : Except ε α) [] := by
  intro err
  simp

theorem meets_error (err : ε) (rest : List ε) : Meets (.error err : Except ε α) (err :: rest) := by
  intro err'
  simp

theorem Meets.eq_nil {r : Except ε α} {faults : List ε} (h : Meets r faults) {a : α}
    (hr : r = .ok a) : faults = [] := by
  cases faults with
  | nil => rfl
  | cons err rest =>
    have herror := (h err).2 rfl
    rw [hr] at herror
    cases herror

variable {x : Except ε α} {f : α → Except ε β} {xs : List ε}

/-- **A block meets the faults of its first part and then those of the rest**, which is reached only
when the first part ends normally. -/
theorem Meets.bind {ys : List ε} (hx : Meets x xs) (hf : ∀ a, x = .ok a → Meets (f a) ys) :
    Meets (x >>= f) (xs ++ ys) := by
  cases x with
  | ok a =>
    have hnil := hx.eq_nil rfl
    rw [hnil, List.nil_append]
    exact hf a rfl
  | error err =>
    have hhead := (hx err).1 rfl
    intro err'
    rw [List.head?_append, hhead]
    simp [Bind.bind, Except.bind]

theorem Meets.map (hx : Meets x xs) (g : α → β) : Meets (x >>= fun a => .ok (g a)) xs := by
  have h := hx.bind (f := fun a => .ok (g a)) fun a _ => meets_ok (g a)
  rwa [List.append_nil] at h

theorem meets_check {p : Prop} [Decidable p] {err : ε} {f : β → Except ε α}
    (hx : ¬ p → Meets x xs) :
    Meets (if p then throw err >>= f else x) ((if p then [err] else []) ++ xs) := by
  by_cases hp : p
  · rw [if_pos hp, if_pos hp]
    exact meets_error err xs
  · rw [if_neg hp, if_neg hp]
    exact hx hp

theorem Meets.mapError {ε' : Type} (hx : Meets x xs) (t : ε → ε') :
    Meets (x.mapError t) (xs.map t) := by
  cases x with
  | ok a =>
    rw [hx.eq_nil rfl]
    exact meets_ok a
  | error err =>
    have hhead := (hx err).1 rfl
    intro err'
    rw [List.head?_map, hhead]
    simp [Except.mapError]

theorem of_mapError_eq_ok {ε' : Type} {t : ε → ε'} {a : α} (h : x.mapError t = .ok a) :
    x = .ok a := by
  cases x with
  | ok b =>
    cases h
    rfl
  | error err => cases h

/-- **A comprehension meets the faults of its items in turn.**  What an item's fault means has to be
known only for the first fault of all. -/
theorem meets_mapM_of_first {P : φ → Prop} {t : φ → ε} {g : α → List φ} {as : List α}
    (h : ∀ a ∈ as, (∀ e, (g a).head? = some e → P e) → Meets (f a) ((g a).map t))
    (hP : ∀ e, (as.flatMap g).head? = some e → P e) : Meets (as.mapM f) ((as.flatMap g).map t) := by
  induction as with
  | nil =>
    rw [List.mapM_nil, List.flatMap_nil, List.map_nil]
    exact meets_ok []
  | cons a as ih =>
    rw [List.mapM_cons, List.flatMap_cons, List.map_append]
    rw [List.flatMap_cons] at hP
    refine Meets.bind (h a List.mem_cons_self fun e he => ?_) fun b hb => ?_
    · refine hP e ?_
      rw [List.head?_append, he]
      rfl
    · -- the item ended normally, so that the first fault is one of the rest
      have hitem : (∀ e, (g a).head? = some e → P e) := by
        intro e he
        refine hP e ?_
        rw [List.head?_append, he]
        rfl
      have hnil : g a = [] := by
        have hmap := (h a List.mem_cons_self hitem).eq_nil hb
        exact List.map_eq_nil_iff.1 hmap
      rw [hnil, List.nil_append] at hP
      exact (ih (fun a' ha' => h a' (List.mem_cons_of_mem a ha')) hP).map (b :: ·)

theorem meets_mapM {g : α → List ε} {as : List α} (h : ∀ a ∈ as, Meets (f a) (g a)) :
    Meets (as.mapM f) (as.flatMap g) := by
  have hmap := meets_mapM_of_first (P := fun _ => True) (t := id) (f := f) (g := g)
    (fun a ha _ => by
      rw [List.map_id]
      exact h a ha) fun _ _ => trivial
  rwa [List.map_id] at hmap

omit α in
/-- If each part has the same first fault as another or a certain one, so has the whole. -/
theorem head?_flatMap_or {f g : β → List φ} {e : φ} {bs : List β}
    (h : ∀ b ∈ bs, (f b).head? = (g b).head? ∨ (f b).head? = some e) :
    (bs.flatMap f).head? = (bs.flatMap g).head? ∨ (bs.flatMap f).head? = some e := by
  induction bs with
  | nil => exact Or.inl rfl
  | cons b bs ih =>
    rw [List.flatMap_cons, List.flatMap_cons, List.head?_append, List.head?_append]
    rcases h b List.mem_cons_self with hb | hb
    · rw [hb]
      cases (g b).head? with
      | some first => exact Or.inl rfl
      | none => exact ih fun b' hb' => h b' (List.mem_cons_of_mem b hb')
    · rw [hb]
      exact Or.inr rfl

theorem Meets.forall_error_iff {r : Except ε α} {faults : List ε} (h : Meets r faults)
    (P : ε → Prop) : (∀ err, r = .error err → P err) ↔ ∀ err ∈ faults.head?, P err := by
  constructor
  · intro hall err hhead
    exact hall err ((h err).2 hhead)
  · intro hall err herror
    exact hall err ((h err).1 herror)

end FirstFaults
