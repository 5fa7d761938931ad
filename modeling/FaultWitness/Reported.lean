/-
**What a result reports is in the log.**

A client that is told that its feedback was recorded, or that its decision was taken, should find
the event of it in the log of the incident it has addressed.  A call that is served afresh appends
that event.  A call that is answered from the record repeats the result of an earlier call, and the
record is found by tenant, operation and key, and compared by the digest of the body alone, which
does not name the incident.  So the result may be that of a call on another incident.

Both stores are right as long as that does not happen: no key is looked up by a call that addresses
another incident than the call recorded under it, with the same body.

Main definitions:

* `Reported.Reports` — the event that a result reports;
* `MemoryHistory.SameTarget`, `PostgresStore.SameTarget` — the condition on a step;
* `MemoryHistory.Reported`, `PostgresStore.Reported` — every result is in the log.

Main results:

* `Reported.reported_reaches` — **in every run of either store whose steps meet the condition, every
  result that feedback or an approval has returned is in the log of the incident addressed**.
-/

import FaultWitness.MemoryHistory
import FaultWitness.PostgresDuplicates

set_option autoImplicit false

namespace Reported

open Incidents Python

/-- The event that a result reports. -/
def Reports : Response → IncidentEvent → Prop
  | .feedback r, e => e.eventType = .feedbackRecorded ∧ ("feedback_id", .str r.feedbackId) ∈ e.payload
  | .approval r, e => e.eventType = .approvalDecided ∧
      ("action_id", .str r.actionId) ∈ e.payload ∧ ("decision", .str r.decision.value) ∈ e.payload
  | .snapshot r, e => str e.sequence = r.eventCursor

instance (response : Response) (e : IncidentEvent) : Decidable (Reports response e) :=
  match response with
  | .feedback _ => inferInstanceAs (Decidable (_ ∧ _))
  | .approval _ => inferInstanceAs (Decidable (_ ∧ _ ∧ _))
  | .snapshot _ => inferInstanceAs (Decidable (_ = _))

end Reported

/-! ### The reference store -/

namespace MemoryHistory

open Incidents MemoryStore Runs Reported

variable {cfg : Config} {sha256 : String → String} {c : Call} {response : Response}

/-- A call that is served afresh reports its own event, on the incident it addresses. -/
theorem reports_of_advance {d : Draw} {before : Option Incident} {after : Incident}
    {e : IncidentEvent} (h : Advance d c before after e response) :
    Reports response e ∧ ∀ incidentId, c.target = some incidentId → e.incidentId = incidentId := by
  cases h with
  | create => exact ⟨rfl, by simp [Call.target]⟩
  | cancel hv ht => exact ⟨rfl, by simp [Call.target]⟩
  | feedback hv => exact ⟨⟨rfl, by simp [feedbackPayload]⟩, by simp [Call.target]⟩
  | approval hv hp => exact ⟨⟨rfl, by simp [approvalPayload]⟩, by simp [Call.target]⟩

variable (sha256) in
/-- The call recorded under the key with the same body addressed the same incident. -/
def SameTarget (s : Sys) : Label → Prop
  | .call c _ => ∀ p ∈ s.answered, p.2.isFresh → p.1.slot = c.slot →
      p.1.digest sha256 = c.digest sha256 → p.1.target = c.target
  | .setPending .. => True

instance (s : Sys) (l : Label) : Decidable (SameTarget sha256 s l) :=
  match l with
  | .call _ _ => inferInstanceAs (Decidable (∀ p ∈ s.answered, _))
  | .setPending _ _ => isTrue trivial

/-- Every result of feedback or of an approval is in the log of the incident addressed. -/
def Reported (s : Sys) : Prop :=
  ∀ p ∈ s.answered, ∀ incidentId, p.1.target = some incidentId →
    ∃ e ∈ log s (p.1.slot.1, incidentId), Reports p.2.response e

instance (s : Sys) : Decidable (Reported s) :=
  inferInstanceAs (Decidable (∀ p ∈ s.answered, ∀ _, _))

variable {s : Sys}

theorem mem_log {e : IncidentEvent} (h : (c, .fresh response e) ∈ s.answered) :
    e ∈ log s (c.slot.1, e.incidentId) :=
  List.mem_filterMap.2 ⟨_, h, by simp [appended]⟩

theorem Reported.append (h : Reported s) (store : Store) {p : Call × Reply}
    (hp : ∀ incidentId, p.1.target = some incidentId →
      ∃ e ∈ log s (p.1.slot.1, incidentId) ++ (appended (p.1.slot.1, incidentId) p).toList,
        Reports p.2.response e) : Reported { store := store, answered := s.answered ++ [p] } := by
  intro q hq incidentId htarget
  rw [log_append]
  rcases List.mem_append.1 hq with hq | hq
  · obtain ⟨e, he, hr⟩ := h q hq incidentId htarget
    exact ⟨e, List.mem_append_left _ he, hr⟩
  · cases List.mem_singleton.1 hq
    exact hp incidentId htarget

theorem Reported.called {s' : Sys} (h : Reported s) (hinv : Inv sha256 s) {d : Draw}
    (hsame : SameTarget sha256 s (.call c d)) (hc : Called cfg sha256 s c d s') : Reported s' := by
  cases hc with
  | replayed prior hprior hdigest =>
    refine h.append _ fun incidentId htarget => ?_
    -- the recorded call addressed this incident, so its event is in this log
    obtain ⟨c', e, hmem, hslot, hd⟩ := hinv.recorded c.slot prior hprior
    have hsame := hsame (c', .fresh prior.2 e) hmem rfl hslot (hd.trans hdigest)
    obtain ⟨d', before, after, hadv⟩ := hinv.advance c' prior.2 e hmem
    obtain ⟨hr, hid⟩ := reports_of_advance hadv
    have hlog := mem_log hmem
    rw [hid incidentId (hsame.trans htarget), hslot] at hlog
    exact ⟨e, List.mem_append_left _ hlog, hr⟩
  | refused => exact h
  | emptied store key hidem hevents hinc => exact h
  | fresh store response e ha =>
    refine h.append store fun incidentId htarget => ?_
    obtain ⟨after, hadv, -⟩ := ha.advance
    obtain ⟨hr, hid⟩ := reports_of_advance hadv
    refine ⟨e, List.mem_append_right _ ?_, hr⟩
    simp [appended, hid incidentId htarget]

theorem reported_memory (h : Reaches (step cfg sha256) (SameTarget sha256) {} s) : Reported s := by
  have hboth : Inv sha256 s ∧ Reported s := by
    refine h.invariant (I := fun s => Inv sha256 s ∧ Reported s)
      ⟨inv_initial, by simp [Reported]⟩ ?_
    rintro s l s' ⟨hinv, hr⟩ hl hs
    refine ⟨inv_step hinv hs, ?_⟩
    cases l with
    | call c d =>
      cases hs
      exact hr.called hinv hl (called_stepCall s c d)
    | setPending incidentId action =>
      cases hs
      exact hr
  exact hboth.2

end MemoryHistory

/-! ### The durable store -/

namespace PostgresStore

open Incidents ReadCommitted Runs Reported

variable {sha256 : String → String} {response : Response} {c : Call} {d : Draw}

theorem reports_of_advance {before : Option IncidentRow} {after : IncidentRow} {e : IncidentEvent}
    (h : Advance d c before after e response) :
    Reports response e ∧ ∀ incidentId, c.target = some incidentId → e.incidentId = incidentId := by
  cases h with
  | create => exact ⟨(by decide : Python.str 1 = "1"), by simp [Call.target]⟩
  | cancel hv ht => exact ⟨rfl, by simp [Call.target]⟩
  | feedback hv => exact ⟨⟨rfl, by simp [feedbackPayload]⟩, by simp [Call.target]⟩
  | approval hv => exact ⟨⟨rfl, by simp [approvalPayload]⟩, by simp [Call.target]⟩

variable (sha256) in
/-- When a connection is about to look its key up, the call recorded under the key with the same
body has addressed the same incident. -/
def SameTarget (s : Sys) : Label Request → Prop
  | .exec j => ∀ c d tx, s.txs j = .running (.call c d) tx → tx.reads = [] →
      ∀ i c' d' response e, Fresh s i c' d' response e → c'.slot = c.slot →
        c'.digest sha256 = c.digest sha256 → c'.target = c.target
  | _ => True

/-- Every result of feedback or of an approval is in the log of the incident addressed. -/
def Reported (s : Sys) : Prop :=
  ∀ j c d reply incidentId, s.txs j = .done (.call c d) (.committed (.reply reply)) →
    c.target = some incidentId →
    ∃ e ∈ projection s.db c.slot.1 incidentId, Reports reply.response e

/-- A response that some call on the same incident was the first to give. -/
def Authored (s : Sys) (c : Call) (response : Response) : Prop :=
  ∃ i c' d' e, Fresh s i c' d' response e ∧ c'.slot = c.slot ∧ c'.target = c.target ∧
    Reports response e ∧ ∀ incidentId, c'.target = some incidentId → e.incidentId = incidentId

variable {s s' : Sys}

theorem Authored.step (h : Authored s c response) {l : Label Request}
    (hs : step (body sha256) s l = some s') : Authored s' c response := by
  obtain ⟨i, c', d', e, hf, h⟩ := h
  exact ⟨i, c', d', e, (seen_of_step hs i).done hf, h⟩

variable (sha256) in
/-- Where the results come from: a call is before its lookup, or it repeats a response that was
given on the incident it addresses, or it has been refused, or it has found its key unrecorded. -/
structure Sourced (s : Sys) : Prop where
  told : ∀ i c d response e, Fresh s i c d response e →
    Reports response e ∧ ∀ incidentId, c.target = some incidentId → e.incidentId = incidentId
  opened : ∀ j c d tx, s.txs j = .running (.call c d) tx →
    tx = { rest := body sha256 (.call c d) } ∨
      (∃ response, tx.rest = .commit (.reply (.replayed response)) ∧ Authored s c response) ∨
      (∃ err, tx.rest = .raise err) ∨ ⟨.idempotency c.slot, none⟩ ∈ tx.reads
  replayed : ∀ j c d response,
    s.txs j = .done (.call c d) (.committed (.reply (.replayed response))) → Authored s c response

theorem not_replayed_of_missing (hinv : Inv (body sha256) s) {j : ℕ}
    {tx : Tx Row Answer StoreError} (hj : s.txs j = .running (.call c d) tx)
    (hmem : ⟨.idempotency c.slot, none⟩ ∈ tx.reads)
    (hr : tx.rest = .commit (.reply (.replayed response))) : False := by
  have htx := hinv j _ tx hj
  have hg := htx.guarded
  rw [hr] at hg
  rcases htx.missing _ hmem with ha | ⟨-, hnone⟩
  · rw [show tx.absent = [] from hg] at ha
    exact absurd ha (by simp)
  · rcases exec_body (commit_serial hinv hj hr) with ⟨row, hrow, -⟩ | ⟨response', e, ha, -⟩
    · rw [hrow] at hnone
      exact absurd hnone (by simp)
    · cases ha

theorem Sourced.lookup (h : Sourced sha256 s) (hledger : Ledger sha256 s) {j : ℕ}
    {tx' : Tx Row Answer StoreError} (hsame : SameTarget sha256 s (.exec j))
    (hj : s.txs j = .running (.call c d) { rest := body sha256 (.call c d) })
    (hstep : stepTx s j (.call c d) { rest := body sha256 (.call c d) } = some s')
    (hj' : s'.txs j = .running (.call c d) tx') :
    (∃ response, tx'.rest = .commit (.reply (.replayed response)) ∧ Authored s c response) ∨
      (∃ err, tx'.rest = .raise err) ∨ ⟨.idempotency c.slot, none⟩ ∈ tx'.reads := by
  rcases stepTx_body hstep with ⟨-, htxs⟩ | ⟨-, fresh, tx₂, htxs, hmem, hrest⟩
  · rw [htxs, Function.update_self] at hj'
    cases hj'
  · rw [htxs, Function.update_self] at hj'
    cases hj'
    cases hrow : s.db.lookup (.idempotency c.slot) with
    | none =>
      rw [hrow] at hmem
      exact Or.inr (Or.inr hmem)
    | some row =>
      rw [hrow, recordedOr] at hrest
      split at hrest
      · exact Or.inr (Or.inl ⟨_, hrest⟩)
      · rename_i hdigest
        obtain ⟨i, c', d', response, e, hf, hslot⟩ := hledger.caller _ row hrow
        obtain ⟨status, hrec⟩ := hledger.recorded i c' d' response e hf
        rw [hslot, hrow, Option.some.injEq] at hrec
        subst hrec
        have htarget := hsame c d _ hj rfl i c' d' response e hf hslot (not_not.1 hdigest)
        exact Or.inl ⟨response, hrest, i, c', d', e, hf, hslot, htarget,
          h.told i c' d' response e hf⟩

theorem Sourced.step (h : Sourced sha256 s) (hinv : Inv (body sha256) s)
    (hledger : Ledger sha256 s) {l : Label Request} (hl : SameTarget sha256 s l)
    (hs : ReadCommitted.step (body sha256) s l = some s') : Sourced sha256 s' := by
  refine ⟨fun i c d response e hf => ?_, fun j c d tx' hj' => ?_, fun j c d response hj' => ?_⟩
  · by_cases hold : Fresh s i c d response e
    · exact h.told i c d response e hold
    · obtain ⟨before, after, -, -, hadv⟩ := (appends_of_fresh hinv hs hold hf).1.advance
      exact reports_of_advance hadv
  · cases seen_of_step hs j with
    | same hj =>
      rcases h.opened j c d tx' (hj ▸ hj') with htx | ⟨response, hr, ha⟩ | hrest
      · exact Or.inl htx
      · exact Or.inr (Or.inl ⟨response, hr, ha.step hs⟩)
      · exact Or.inr (Or.inr hrest)
    | start r hj hr =>
      rw [hr] at hj'
      cases hj'
      exact Or.inl rfl
    | goOn r tx tx₁ hj hstep hreads hr =>
      rw [hr] at hj'
      cases hj'
      obtain ⟨k, hk⟩ := hreads
      refine Or.inr ?_
      rcases h.opened j c d tx hj with rfl | ⟨response, hrest, -⟩ | ⟨err, hrest⟩ | hmem
      · have hl' : l = .exec j := by
          refine exec_of_ne hs hj ?_ (by simp [hr])
          rw [hr, hj]
          intro heq
          cases heq
          simp at hk
        subst hl'
        rcases h.lookup hledger hl hj hstep hr with ⟨response, hrest, ha⟩ | hrest
        · exact Or.inl ⟨response, hrest, ha.step hs⟩
        · exact Or.inr hrest
      · simp only [stepTx, hrest, Option.some.injEq] at hstep
        subst hstep
        rw [finish_txs_self] at hr
        cases hr
      · simp only [stepTx, hrest, Option.some.injEq] at hstep
        subst hstep
        rw [finish_txs_self] at hr
        cases hr
      · exact Or.inr (Or.inr (by rw [hk]; exact List.mem_cons_of_mem _ hmem))
    | commit r tx a hj _ hr =>
      rw [hr] at hj'
      cases hj'
    | fail r tx o hj _ _ hr =>
      rw [hr] at hj'
      cases hj'
  · cases seen_of_step hs j with
    | same hj => exact (h.replayed j c d response (hj ▸ hj')).step hs
    | start r hj hr =>
      rw [hr] at hj'
      cases hj'
    | goOn r tx tx₁ hj _ _ hr =>
      rw [hr] at hj'
      cases hj'
    | commit r tx a hj ha hr =>
      rw [hr] at hj'
      cases hj'
      rcases h.opened j c d tx hj with rfl | ⟨response', hrest, hauth⟩ | ⟨err, hrest⟩ | hmem
      · obtain ⟨fresh, hb⟩ := body_call sha256 c d
        simp only [hb, idempotent, stmt] at ha
        split at ha <;> cases ha
      · rw [hrest] at ha
        cases ha
        exact hauth.step hs
      · rw [hrest] at ha
        cases ha
      · exact (not_replayed_of_missing hinv hj hmem ha).elim
    | fail r tx o hj _ ho hr =>
      rw [hr] at hj'
      cases hj'
      exact absurd rfl (ho _)

theorem sourced_reaches (h : Reaches (step (body sha256)) (SameTarget sha256) (initial ∅) s) :
    Ledger sha256 s ∧ Sourced sha256 s := by
  have hall : Inv (body sha256) s ∧ Ledger sha256 s ∧ Sourced sha256 s := by
    refine h.invariant (I := fun s => Inv (body sha256) s ∧ Ledger sha256 s ∧ Sourced sha256 s)
      ⟨inv_initial _ _, ledger_initial, ?_⟩ ?_
    · constructor <;> simp [Fresh, initial]
    · rintro s l s' ⟨hinv, hledger, hsrc⟩ hl hs
      exact ⟨inv_step guards_body hinv hs, hledger.step hinv hs, hsrc.step hinv hledger hl hs⟩
  exact hall.2

theorem mem_projection {t : Tables} (h : WellFormed t) {tenantId incidentId : String} {n : ℕ}
    {e : IncidentEvent} (he : t.lookup (.event tenantId incidentId n) = some e) :
    e ∈ projection t tenantId incidentId := by
  have hc : Contiguous t tenantId incidentId _ := h.contiguous rfl
  have hpos := (hc n).1 (by rw [he]; rfl)
  obtain ⟨m, rfl⟩ : ∃ m, n = m + 1 := ⟨n - 1, by omega⟩
  exact List.mem_of_getElem? ((hc.getElem? m).trans he)

theorem reported_postgres (h : Reaches (step (body sha256)) (SameTarget sha256) (initial ∅) s) :
    Reported s := by
  obtain ⟨hledger, hsrc⟩ := sourced_reaches h
  have hwf := wellFormed_reachable h.reachable
  intro j c d reply incidentId hj htarget
  cases reply with
  | fresh response e =>
    obtain ⟨hr, hid⟩ := hsrc.told j c d response e hj
    have he := hledger.numbered j c d response e hj
    rw [hid incidentId htarget] at he
    exact ⟨e, mem_projection hwf he, hr⟩
  | replayed response =>
    obtain ⟨i, c', d', e, hf, hslot, hsame, hr, hid⟩ := hsrc.replayed j c d response hj
    have he := hledger.numbered i c' d' response e hf
    rw [hid incidentId (hsame.trans htarget), hslot] at he
    exact ⟨e, mem_projection hwf he, hr⟩

end PostgresStore

/-! ### Both stores -/

namespace Reported

open Incidents Runs ReadCommitted

/-- **In every run of either store in which no key is looked up for another incident with the same
body, every result that feedback or an approval has returned is in the log of the incident
addressed**, and the reference store keeps the end of that log. -/
theorem reported_reaches (cfg : MemoryStore.Config) (sha256 : String → String) :
    (∀ s : MemoryHistory.Sys,
      Reaches (MemoryHistory.step cfg sha256) (MemoryHistory.SameTarget sha256) {} s →
        MemoryHistory.Reported s ∧ ∀ key, s.store.events key <:+ MemoryHistory.log s key) ∧
    ∀ s : PostgresStore.Sys,
      Reaches (step (PostgresStore.body sha256)) (PostgresStore.SameTarget sha256) (initial ∅) s →
        PostgresStore.Reported s :=
  ⟨fun _ h => ⟨MemoryHistory.reported_memory h, (MemoryHistory.inv_reaches h).window⟩,
    fun _ h => PostgresStore.reported_postgres h⟩

/-- A test for `PostgresStore.SameTarget` over the first `n` connections. -/
def sameTarget (n : ℕ) (s : PostgresStore.Sys) : Label PostgresStore.Request → Bool
  | .exec j =>
    match s.txs j with
    | .running (.call c _) tx =>
      !tx.reads.isEmpty || (s.db.lookup (.idempotency c.slot)).isNone ||
        (List.range n).any fun i =>
          match s.txs i with
          | .done (.call c' _) (.committed (.reply (.fresh _ _))) =>
            decide (c'.slot = c.slot) && decide (c'.target = c.target)
          | _ => false
    | _ => true
  | _ => true

theorem sameTarget_of_test {sha256 : String → String} {n : ℕ} (s : PostgresStore.Sys)
    (l : Label PostgresStore.Request)
    (hs : Reaches (step (PostgresStore.body sha256)) (PostgresStore.SameTarget sha256) (initial ∅) s)
    (h : sameTarget n s l = true) : PostgresStore.SameTarget sha256 s l := by
  cases l with
  | exec j =>
    intro c d tx hj hreads i c' d' response e hf hslot _
    have hledger := PostgresStore.ledger_reachable hs.reachable
    obtain ⟨status, hrow⟩ := hledger.recorded i c' d' response e hf
    rw [hslot] at hrow
    simp only [sameTarget, hj, hreads, hrow, List.isEmpty_nil, Bool.not_true, Option.isNone_some,
      Bool.false_or, List.any_eq_true] at h
    obtain ⟨k, -, hk⟩ := h
    split at hk
    · rename_i c₁ d₁ r₁ e₁ hfk
      rw [Bool.and_eq_true, decide_eq_true_eq, decide_eq_true_eq] at hk
      have hki := hledger.slot_inj k i _ _ _ _ _ _ _ _ hfk hf (hk.1.trans hslot.symm)
      subst hki
      rw [PostgresStore.Fresh, hfk] at hf
      cases hf
      exact hk.2
    · cases hk
  | start i c => exact trivial
  | abort i => exact trivial

/-- The requests of a client that creates an incident and sends feedback on it. -/
def created (uuid key : String) : Call × Draw :=
  (.create "tenant-a" key sampleCreate, { uuid := uuid })

def sent (incidentId uuid : String) : Call × Draw :=
  (.feedback "tenant-a" "user-b" incidentId "key-2" sampleFeedback, { uuid := uuid })

/-- Feedback that is sent twice, to the same incident. -/
theorem reported_feedback :
    (∃ s : MemoryHistory.Sys,
      Reaches (MemoryHistory.step {} sampleSha256) (MemoryHistory.SameTarget sampleSha256) {} s ∧
        s.answered.length = 3 ∧ MemoryHistory.Reported s) ∧
    ∃ s : PostgresStore.Sys,
      Reaches (step (PostgresStore.body sampleSha256)) (PostgresStore.SameTarget sampleSha256)
        (initial ∅) s ∧
        (s.txs 2).answer = some (.call (sent "inc_7" "9").1 (sent "inc_7" "9").2,
          .committed (.reply (.replayed (.feedback ⟨"feedback_8", 0⟩)))) ∧
        PostgresStore.Reported s := by
  constructor
  · obtain ⟨s, hs, hp⟩ := exists_reaches_of_test (MemoryHistory.step {} sampleSha256)
      (C := MemoryHistory.SameTarget sampleSha256)
      (c := fun s l => decide (MemoryHistory.SameTarget sampleSha256 s l))
      (p := fun s => decide (s.answered.length = 3)) (fun s l _ h => of_decide_eq_true h) (a := {})
      ([created "7" "key-1", sent "inc_7" "8", sent "inc_7" "9"].map fun p => .call p.1 p.2)
      (by decide +kernel)
    exact ⟨s, hs, of_decide_eq_true hp, ((reported_reaches {} sampleSha256).1 s hs).1⟩
  · obtain ⟨s, hs, hp⟩ := exists_reaches_of_test (step (PostgresStore.body sampleSha256))
      (C := PostgresStore.SameTarget sampleSha256) (c := sameTarget 2)
      (p := fun s => decide ((s.txs 2).answer = some (.call (sent "inc_7" "9").1 (sent "inc_7" "9").2,
          .committed (.reply (.replayed (.feedback ⟨"feedback_8", 0⟩))))))
      sameTarget_of_test (a := initial ∅)
      (.start 0 (.call (created "7" "key-1").1 (created "7" "key-1").2) ::
        List.replicate 6 (.exec 0) ++
        .start 1 (.call (sent "inc_7" "8").1 (sent "inc_7" "8").2) :: List.replicate 8 (.exec 1) ++
        .start 2 (.call (sent "inc_7" "9").1 (sent "inc_7" "9").2) :: List.replicate 2 (.exec 2))
      (by decide +kernel)
    exact ⟨s, hs, of_decide_eq_true hp, (reported_reaches {} sampleSha256).2 s hs⟩

/-- Feedback that is sent to one incident and then, under the same key, to another one: the second
call succeeds, and nothing of it is in the log. -/
theorem not_reported_reused_key :
    (∃ s : MemoryHistory.Sys, Reachable (MemoryHistory.step {} sampleSha256) {} s ∧
      ¬ MemoryHistory.Reported s) ∧
    ∃ s : PostgresStore.Sys, Reachable (step (PostgresStore.body sampleSha256)) (initial ∅) s ∧
      ¬ PostgresStore.Reported s := by
  constructor
  · obtain ⟨s, hs, hp⟩ := exists_reachable_of_test (MemoryHistory.step {} sampleSha256)
      (p := fun s => decide (¬ MemoryHistory.Reported s)) (a := {})
      ([created "7" "key-1", created "70" "key-3", sent "inc_7" "8", sent "inc_70" "9"].map
        fun p => .call p.1 p.2)
      (by decide +kernel)
    exact ⟨s, hs, of_decide_eq_true hp⟩
  · obtain ⟨s, hs, hp⟩ := exists_reachable_of_test (step (PostgresStore.body sampleSha256))
      (p := fun s => decide ((s.txs 3).answer = some (.call (sent "inc_70" "9").1 (sent "inc_70" "9").2,
          .committed (.reply (.replayed (.feedback ⟨"feedback_8", 0⟩)))) ∧
        (PostgresStore.projection s.db "tenant-a" "inc_70").map IncidentEvent.eventType = [.created]))
      (a := initial ∅)
      (.start 0 (.call (created "7" "key-1").1 (created "7" "key-1").2) ::
        List.replicate 6 (.exec 0) ++
        .start 1 (.call (created "70" "key-3").1 (created "70" "key-3").2) ::
        List.replicate 6 (.exec 1) ++
        .start 2 (.call (sent "inc_7" "8").1 (sent "inc_7" "8").2) :: List.replicate 8 (.exec 2) ++
        .start 3 (.call (sent "inc_70" "9").1 (sent "inc_70" "9").2) :: List.replicate 2 (.exec 3))
      (by decide +kernel)
    obtain ⟨hanswer, hlog⟩ := of_decide_eq_true hp
    refine ⟨s, hs, fun h => ?_⟩
    obtain ⟨e, he, hr⟩ := h 3 _ _ _ "inc_70" (Status.answer_eq_some.1 hanswer) rfl
    have htype := List.mem_map_of_mem (f := IncidentEvent.eventType) he
    rw [show (sent "inc_70" "9").1.slot.1 = "tenant-a" from rfl, hlog, List.mem_singleton] at htype
    rw [hr.1] at htype
    exact absurd htype (by decide)

end Reported
