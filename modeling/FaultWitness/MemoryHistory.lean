/-
**Histories of the reference store.**

A run of `MemoryIncidentStore` from the empty store, one call after the other, together with the
answers it has given.  Whoever proposes actions is part of the run (`setPending`), since nothing in
the repository does so.

From the answers one reads off the log of an incident: the events of the calls that were served
afresh, in order.  The store itself keeps the end of that log, as much as its retention allows.

Main definitions:

* `MemoryHistory.Sys`, `MemoryHistory.step` — the store and its answers;
* `MemoryHistory.log` — the log of an incident.

Main results:

* `MemoryHistory.inv_reaches` — in every run the list of events that the store keeps is the end of
  the log, and every record was made by a call that was answered afresh.
-/

import FaultWitness.MemoryStore

set_option autoImplicit false

namespace MemoryHistory

open Incidents MemoryStore Runs

/-! ### Runs -/

/-- The store, and every answer it has given. -/
structure Sys where
  store : Store := {}
  answered : List (Call × Reply) := []

inductive Label
  | call (c : Call) (d : Draw)
  | setPending (incidentId : String) (action : String × String)
deriving DecidableEq

variable (cfg : Config) (sha256 : String → String)

/-- A call; one that raises is not answered. -/
def stepCall (s : Sys) (c : Call) (d : Draw) : Sys :=
  match perform cfg sha256 s.store c d with
  | (store, .ok reply) => { store := store, answered := s.answered ++ [(c, reply)] }
  | (store, .error _) => { s with store := store }

def step (s : Sys) : Label → Option Sys
  | .call c d => some (stepCall cfg sha256 s c d)
  | .setPending incidentId action =>
    some { s with store := setPending s.store incidentId action }

/-- The event that a call has appended to the incident `key`. -/
def appended (key : String × String) : Call × Reply → Option IncidentEvent
  | (c, .fresh _ e) => if (c.slot.1, e.incidentId) = key then some e else none
  | (_, .replayed _) => none

/-- The log of an incident. -/
def log (s : Sys) (key : String × String) : List IncidentEvent :=
  s.answered.filterMap (appended key)

/-! ### What a call does to a history -/

/-- The ways in which a call moves a history. -/
inductive Called (s : Sys) (c : Call) (d : Draw) : Sys → Prop
  | replayed (prior : String × Response) (hprior : s.store.idempotency c.slot = some prior)
      (hdigest : prior.1 = c.digest sha256) :
      Called s c d { s with answered := s.answered ++ [(c, .replayed prior.2)] }
  | refused : Called s c d s
  | emptied (store : Store) (key : String × String)
      (hidem : store.idempotency = s.store.idempotency)
      (hevents : store.events = Function.update s.store.events key [])
      (hinc : store.incidents = s.store.incidents ∨ c.slot.2.1 = .create ∧
        ∃ incident : Incident, incident.snapshot.state = .new ∧ incident.pendingAction = none ∧
          store.incidents = Function.update s.store.incidents ("inc_" ++ d.uuid) (some incident)) :
      Called s c d { s with store := store }
  | fresh (store : Store) (response : Response) (e : IncidentEvent)
      (h : Appends cfg sha256 s.store store c d response e) :
      Called s c d { store := store, answered := s.answered ++ [(c, .fresh response e)] }

variable {cfg sha256}

theorem called_stepCall (s : Sys) (c : Call) (d : Draw) :
    Called cfg sha256 s c d (stepCall cfg sha256 s c d) := by
  have hperf := performed cfg sha256 s.store d c
  unfold stepCall
  cases hp : perform cfg sha256 s.store c d with
  | mk store r =>
    rw [hp] at hperf
    simp only at hperf
    cases hperf with
    | replayed prior hprior hdigest => exact .replayed prior hprior hdigest
    | refused err herr => exact .refused
    | emptied _ tenantId incidentId e he hprune hidem hevents hinc =>
      exact .emptied store (tenantId, incidentId) hidem hevents hinc
    | fresh _ response e ha => exact .fresh store response e ha

theorem setPending_events (s : Store) (incidentId : String) (action : String × String) :
    (setPending s incidentId action).events = s.events ∧
      (setPending s incidentId action).idempotency = s.idempotency := by
  unfold setPending
  split <;> exact ⟨rfl, rfl⟩

/-! ### What holds in every run -/

variable (sha256) in
structure Inv (s : Sys) : Prop where
  /-- The store keeps the end of the log. -/
  window : ∀ key, s.store.events key <:+ log s key
  /-- A record was made by a call that was answered afresh. -/
  recorded : ∀ slot prior, s.store.idempotency slot = some prior →
    ∃ c e, (c, .fresh prior.2 e) ∈ s.answered ∧ c.slot = slot ∧ c.digest sha256 = prior.1
  advance : ∀ c response e, (c, .fresh response e) ∈ s.answered →
    ∃ d before after, Advance d c before after e response

theorem log_append (s : Sys) (store : Store) (p : Call × Reply) (key : String × String) :
    log { store := store, answered := s.answered ++ [p] } key =
      log s key ++ (appended key p).toList := by
  simp only [log, List.filterMap_append, List.filterMap_cons, List.filterMap_nil]
  cases appended key p <;> rfl

theorem Inv.called {s s' : Sys} (h : Inv sha256 s) {c : Call} {d : Draw}
    (hc : Called cfg sha256 s c d s') : Inv sha256 s' := by
  cases hc with
  | replayed prior hprior hdigest =>
    refine ⟨fun key => ?_, fun slot prior hslot => ?_, fun c' response e hmem => ?_⟩
    · rw [log_append]
      simpa [appended] using h.window key
    · obtain ⟨c', e, hmem, hc⟩ := h.recorded slot prior hslot
      exact ⟨c', e, List.mem_append_left _ hmem, hc⟩
    · refine h.advance c' response e ?_
      simpa using hmem
  | refused => exact h
  | emptied store key hidem hevents hinc =>
    refine ⟨fun key' => ?_, fun slot prior hslot => ?_, h.advance⟩
    · show store.events key' <:+ log s key'
      rw [hevents]
      by_cases hk : key' = key
      · subst hk
        rw [Function.update_self]
        exact List.nil_suffix
      · rw [Function.update_of_ne hk]
        exact h.window key'
    · exact h.recorded slot prior (by rw [← hidem]; exact hslot)
  | fresh store response e ha =>
    refine ⟨fun key => ?_, fun slot prior hslot => ?_, fun c' response' e' hmem => ?_⟩
    · obtain ⟨kept, hprune, hevents⟩ := ha.kept
      rw [log_append]
      show store.events key <:+ _
      rw [hevents]
      by_cases hk : key = (c.slot.1, e.incidentId)
      · subst hk
        rw [Function.update_self]
        simp only [appended, if_true, Option.toList_some]
        refine (prune_suffix hprune).1.trans ?_
        obtain ⟨pre, hpre⟩ := h.window (c.slot.1, e.incidentId)
        exact ⟨pre, by rw [← hpre, List.append_assoc]⟩
      · rw [Function.update_of_ne hk]
        simpa [appended, Ne.symm hk] using h.window key
    · rw [show ({ store := store, answered := s.answered ++ [(c, .fresh response e)] } : Sys).store =
        store from rfl, ha.recorded] at hslot
      by_cases hs : slot = c.slot
      · subst hs
        rw [Function.update_self] at hslot
        cases hslot
        exact ⟨c, e, List.mem_append_right _ List.mem_cons_self, rfl, rfl⟩
      · rw [Function.update_of_ne hs] at hslot
        obtain ⟨c', e', hmem, hc⟩ := h.recorded slot prior hslot
        exact ⟨c', e', List.mem_append_left _ hmem, hc⟩
    · rcases List.mem_append.1 hmem with hmem | hmem
      · exact h.advance c' response' e' hmem
      · simp only [List.mem_singleton, Prod.mk.injEq, Reply.fresh.injEq] at hmem
        obtain ⟨rfl, rfl, rfl⟩ := hmem
        obtain ⟨after, hadv, -⟩ := ha.advance
        exact ⟨d, _, after, hadv⟩

theorem inv_step {s s' : Sys} {l : Label} (h : Inv sha256 s)
    (hs : step cfg sha256 s l = some s') : Inv sha256 s' := by
  cases l with
  | call c d =>
    cases hs
    exact h.called (called_stepCall s c d)
  | setPending incidentId action =>
    cases hs
    obtain ⟨hev, hid⟩ := setPending_events s.store incidentId action
    refine ⟨fun key => ?_, fun slot prior hslot => ?_, h.advance⟩
    · show (setPending s.store incidentId action).events key <:+ log s key
      rw [hev]
      exact h.window key
    · exact h.recorded slot prior (by rw [← hid]; exact hslot)

theorem inv_initial : Inv sha256 {} :=
  ⟨fun _ => List.suffix_refl _, by simp, by simp⟩

/-- **In every run the store keeps the end of every log, and its records come from answers.** -/
theorem inv_reaches {C : Sys → Label → Prop} {s : Sys}
    (h : Reaches (step cfg sha256) C {} s) : Inv sha256 s :=
  h.invariant inv_initial fun _ _ _ hi _ hs => inv_step hi hs

end MemoryHistory
