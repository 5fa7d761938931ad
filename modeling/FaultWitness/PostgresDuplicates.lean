/-
**Overlapping duplicates of one request.**

A client that repeats a request under its idempotency key expects the recorded response.  The
lookup that finds the record locks nothing while there is none, so what a duplicate gets depends on
where it stands when the first call commits: a duplicate that has not looked yet will find the
record and answer from it; one that has looked and found nothing is committed to doing the work
again, and ends in whatever its remaining statements run into.

Main definitions:

* `PostgresStore.Duplicate` — same tenant, operation, key and body;
* `PostgresStore.Unlooked` — a connection that has not executed its lookup.

Main results:

* `PostgresStore.duplicate_replays_iff` — **a duplicate returns the recorded response exactly when
  it had not looked before the response was recorded**.
-/

import FaultWitness.PostgresInvariants

set_option autoImplicit false

namespace PostgresStore

open Incidents ReadCommitted Python Runs

variable {sha256 : String → String}

/-- Two calls of one operation with the same tenant, key and body. -/
def Duplicate (c c' : Call) : Prop := c.slot = c'.slot ∧ c.document = c'.document

/-- The connection has not executed the lookup with which a call begins. -/
def Unlooked (s : Sys) (j : ℕ) : Prop :=
  s.txs j = .idle ∨ ∃ r tx, s.txs j = .running r tx ∧ tx.reads = []

/-! ### The lookup -/

variable (sha256) in
theorem body_call (c : Call) (d : Draw) :
    ∃ fresh, body sha256 (.call c d) = idempotent c.slot (c.digest sha256) fresh := by
  cases c <;> exact ⟨_, rfl⟩

variable {s s' : Sys}

/-- The first statement of a call: it fails on a text that cannot be sent, or it looks the key
up. -/
theorem stepTx_idempotent {i : ℕ} {r : Request} {slot : String × Operation × String}
    {digest : String} {fresh : Block}
    (hs : stepTx s i r { rest := idempotent slot digest fresh } = some s') :
    (storable slot.1 && storable slot.2.2) = false ∧
        s'.txs = Function.update s.txs i (.done r (.raised .dataError)) ∨
      (storable slot.1 && storable slot.2.2) = true ∧
        ∃ tx', s'.txs = Function.update s.txs i (.running r tx') ∧ tx'.writes = [] ∧
        ⟨.idempotency slot, s.db.lookup (.idempotency slot)⟩ ∈ tx'.reads ∧
        tx'.rest = recordedOr digest fresh (s.db.lookup (.idempotency slot)) := by
  cases hst : storable slot.1 && storable slot.2.2 with
  | false =>
    simp only [stepTx, idempotent, stmt, List.all_cons, List.all_nil, Bool.and_true, hst,
      Bool.false_eq_true, if_false, Option.some.injEq] at hs
    subst hs
    exact Or.inl ⟨rfl, rfl⟩
  | true =>
    simp only [stepTx, idempotent, stmt, List.all_cons, List.all_nil, Bool.and_true, hst,
      if_true, apply_nil] at hs
    cases hrow : s.db.lookup (.idempotency slot) with
    | none =>
      simp only [hrow, Option.some.injEq] at hs
      subst hs
      exact Or.inr ⟨rfl, _, rfl, rfl, List.mem_cons_self, rfl⟩
    | some row =>
      simp only [hrow] at hs
      split at hs
      · cases hs
        exact Or.inr ⟨rfl, _, rfl, rfl, List.mem_cons_self, rfl⟩
      · cases hs

theorem stepTx_body {i : ℕ} {c : Call} {d : Draw}
    (hs : stepTx s i (.call c d) { rest := body sha256 (.call c d) } = some s') :
    (storable c.slot.1 && storable c.slot.2.2) = false ∧
        s'.txs = Function.update s.txs i (.done (.call c d) (.raised .dataError)) ∨
      (storable c.slot.1 && storable c.slot.2.2) = true ∧
        ∃ fresh tx', s'.txs = Function.update s.txs i (.running (.call c d) tx') ∧
        ⟨.idempotency c.slot, s.db.lookup (.idempotency c.slot)⟩ ∈ tx'.reads ∧
        tx'.rest = recordedOr (c.digest sha256) fresh (s.db.lookup (.idempotency c.slot)) := by
  obtain ⟨fresh, hb⟩ := body_call sha256 c d
  rw [hb] at hs
  refine (stepTx_idempotent hs).imp id fun h => ?_
  obtain ⟨hst, tx', htxs, -, hmem, hrest⟩ := h
  exact ⟨hst, fresh, tx', htxs, hmem, hrest⟩

theorem storable_of_exec {c : Call} {d : Draw} {t t' : Tables} {a : Answer}
    (h : exec (body sha256 (.call c d)) t = (.committed a, t')) :
    (storable c.slot.1 && storable c.slot.2.2) = true := by
  obtain ⟨fresh, hb⟩ := body_call sha256 c d
  rw [hb, idempotent, stmt] at h
  split at h
  · rename_i hst
    simpa using hst
  · simp [exec] at h

variable (sha256) in
/-- Where a connection that serves a call stands: at the beginning, or past its lookup. -/
def Looking (s : Sys) : Prop :=
  ∀ j c d tx, s.txs j = .running (.call c d) tx →
    tx = { rest := body sha256 (.call c d) } ∨ ∃ o, ⟨.idempotency c.slot, o⟩ ∈ tx.reads

variable {l : Label Request}

theorem Looking.step (h : Looking sha256 s) (hs : ReadCommitted.step (body sha256) s l = some s') :
    Looking sha256 s' := by
  intro j c d tx' hj'
  cases seen_of_step hs j with
  | same hj => exact h j c d tx' (hj ▸ hj')
  | start r hj hr =>
    rw [hr] at hj'
    cases hj'
    exact Or.inl rfl
  | goOn r tx tx₁ hj hstep hreads hr =>
    rw [hr] at hj'
    cases hj'
    rcases h j c d tx hj with rfl | ⟨o, ho⟩
    · rcases stepTx_body hstep with ⟨-, htxs⟩ | ⟨-, fresh, tx₂, htxs, hmem, -⟩
      · rw [htxs, Function.update_self] at hr
        cases hr
      · rw [htxs, Function.update_self] at hr
        cases hr
        exact Or.inr ⟨_, hmem⟩
    · obtain ⟨k, hk⟩ := hreads
      exact Or.inr ⟨o, by rw [hk]; exact List.mem_cons_of_mem _ ho⟩
  | commit r tx a hj _ hr =>
    rw [hr] at hj'
    cases hj'
  | fail r tx o hj _ _ hr =>
    rw [hr] at hj'
    cases hj'

theorem looking_reachable (h : Reachable (step (body sha256)) (initial ∅) s) : Looking sha256 s :=
  h.invariant (by simp [Looking, initial]) fun _ _ _ hl _ hs => hl.step hs

/-! ### A duplicate that looked too early -/

variable {c : Call} {row : IdempotencyRow} {j : ℕ}

/-- The key is recorded, and the connection has found it unrecorded. -/
def Doomed (c : Call) (row : IdempotencyRow) (j : ℕ) (s : Sys) : Prop :=
  s.db.lookup (.idempotency c.slot) = some row ∧
    ((∃ r tx, s.txs j = .running r tx ∧ ⟨.idempotency c.slot, none⟩ ∈ tx.reads) ∨
      ∃ r o, s.txs j = .done r o ∧ ∀ a, o ≠ .committed a)

/-- It will not commit any more: what it looked up and did not find it would have to insert. -/
theorem Doomed.step (h : Doomed c row j s) (hinv : Inv (body sha256) s)
    (hs : ReadCommitted.step (body sha256) s l = some s') : Doomed c row j s' := by
  obtain ⟨hrow, h⟩ := h
  refine ⟨lookup_idempotency_step hinv hs hrow, ?_⟩
  rcases h with ⟨r, tx, hj, hmem⟩ | ⟨r, o, hj, ho⟩
  · cases seen_of_step hs j with
    | same hj' => exact Or.inl ⟨r, tx, hj'.trans hj, hmem⟩
    | start r' hj' => simp [hj] at hj'
    | goOn r' tx₁ tx' hj₁ _ hreads hj' =>
      rw [hj] at hj₁
      cases hj₁
      obtain ⟨k, hk⟩ := hreads
      exact Or.inl ⟨r, tx', hj', by rw [hk]; exact List.mem_cons_of_mem _ hmem⟩
    | commit r' tx₁ a hj₁ hr hj' =>
      rw [hj] at hj₁
      cases hj₁
      have htx := hinv j r tx hj
      have hg := htx.guarded
      rw [hr] at hg
      rcases htx.missing _ hmem with ha | ⟨-, hnone⟩
      · rw [show tx.absent = [] from hg] at ha
        exact absurd ha (by simp)
      · rw [hrow] at hnone
        exact absurd hnone (by simp)
    | fail r' tx₁ o hj₁ _ ho hj' => exact Or.inr ⟨r', o, hj', ho⟩
  · exact Or.inr ⟨r, o, (seen_of_step hs j).done hj, ho⟩

/-! ### A duplicate that looks in time -/

variable (sha256) in
/-- The key is recorded, and the connection, when it serves a duplicate, has nothing to do but to
find the record. -/
def Bound (c : Call) (row : IdempotencyRow) (j : ℕ) (s : Sys) : Prop :=
  s.db.lookup (.idempotency c.slot) = some row ∧
    (∀ c' d tx, s.txs j = .running (.call c' d) tx → Duplicate c c' →
      tx = { rest := body sha256 (.call c' d) } ∨
        tx.rest = .commit (.reply (.replayed row.response))) ∧
    ∀ c' d o, s.txs j = .done (.call c' d) o → Duplicate c c' →
      o = .aborted ∨ o = .committed (.reply (.replayed row.response))

theorem Bound.step (h : Bound sha256 c row j s) (hdigest : row.requestDigest = c.digest sha256)
    (hstorable : (storable c.slot.1 && storable c.slot.2.2) = true) (hinv : Inv (body sha256) s)
    (hs : ReadCommitted.step (body sha256) s l = some s') : Bound sha256 c row j s' := by
  obtain ⟨hrow, hrun, hdone⟩ := h
  -- the first statement of a duplicate finds the record
  have hfirst : ∀ c' d, Duplicate c c' →
      stepTx s j (.call c' d) { rest := body sha256 (.call c' d) } = some s' →
      ∃ tx', s'.txs j = .running (.call c' d) tx' ∧
        tx'.rest = .commit (.reply (.replayed row.response)) := by
    rintro c' d ⟨hslot, hdoc⟩ hstep
    rcases stepTx_body hstep with ⟨hst, -⟩ | ⟨-, fresh, tx', htxs, -, hrest⟩
    · rw [← hslot, hstorable] at hst
      exact absurd hst (by simp)
    · refine ⟨tx', by rw [htxs, Function.update_self], ?_⟩
      rw [hrest, ← hslot, hrow, recordedOr, hdigest, Call.digest, Call.digest, hdoc]
      simp
  -- the statement after it is the commit
  have hlast : ∀ r (tx : Tx Row Answer StoreError),
      tx.rest = .commit (.reply (.replayed row.response)) → stepTx s j r tx = some s' →
      s'.txs j = .done r (.committed (.reply (.replayed row.response))) := by
    intro r tx hrest hstep
    simp only [stepTx, hrest, Option.some.injEq] at hstep
    subst hstep
    exact finish_txs_self ..
  refine ⟨lookup_idempotency_step hinv hs hrow, ?_, ?_⟩
  · intro c' d tx' hj' hdup
    cases seen_of_step hs j with
    | same hj => exact hrun c' d tx' (hj ▸ hj') hdup
    | start r hj hr =>
      rw [hr] at hj'
      cases hj'
      exact Or.inl rfl
    | goOn r tx tx₁ hj hstep _ hr =>
      rw [hr] at hj'
      cases hj'
      rcases hrun c' d tx hj hdup with rfl | hrest
      · obtain ⟨tx₂, hr₂, hrest₂⟩ := hfirst c' d hdup hstep
        rw [hr] at hr₂
        cases hr₂
        exact Or.inr hrest₂
      · have hd := hlast _ tx hrest hstep
        rw [hr] at hd
        cases hd
    | commit r tx a hj _ hr =>
      rw [hr] at hj'
      cases hj'
    | fail r tx o hj _ _ hr =>
      rw [hr] at hj'
      cases hj'
  · intro c' d o hj' hdup
    cases seen_of_step hs j with
    | same hj => exact hdone c' d o (hj ▸ hj') hdup
    | start r hj hr =>
      rw [hr] at hj'
      cases hj'
    | goOn r tx tx₁ hj _ _ hr =>
      rw [hr] at hj'
      cases hj'
    | commit r tx a hj ha hr =>
      rw [hr] at hj'
      cases hj'
      rcases hrun c' d tx hj hdup with rfl | hrest
      · obtain ⟨fresh, hb⟩ := body_call sha256 c' d
        simp only [hb, idempotent, stmt] at ha
        split at ha <;> cases ha
      · rw [hrest] at ha
        cases ha
        exact Or.inr rfl
    | fail r tx o' hj hstep ho hr =>
      rw [hr] at hj'
      cases hj'
      by_cases hab : o = .aborted
      · exact Or.inl hab
      · rcases hrun c' d tx hj hdup with rfl | hrest
        · obtain ⟨tx', hr', -⟩ := hfirst c' d hdup (hstep hab)
          rw [hr] at hr'
          cases hr'
        · have hd := hlast _ tx hrest (hstep hab)
          rw [hr] at hd
          cases hd
          exact Or.inr rfl

/-! ### What a duplicate gets -/

theorem request_stable (h : Reachable (step (body sha256)) s s') {r : Request}
    {tx : Tx Row Answer StoreError} (hj : s.txs j = .running r tx) :
    (∃ tx', s'.txs j = .running r tx') ∨ ∃ o, s'.txs j = .done r o := by
  refine h.invariant (I := fun s => (∃ tx', s.txs j = .running r tx') ∨ ∃ o, s.txs j = .done r o)
    (Or.inl ⟨tx, hj⟩) ?_
  rintro s l s' (⟨tx', hj⟩ | ⟨o, hj⟩) - hs
  · cases seen_of_step hs j with
    | same hj' => exact Or.inl ⟨tx', hj'.trans hj⟩
    | start r' hj' => simp [hj] at hj'
    | goOn r' tx₁ tx₂ hj₁ _ _ hj' =>
      rw [hj] at hj₁
      cases hj₁
      exact Or.inl ⟨tx₂, hj'⟩
    | commit r' tx₁ a hj₁ _ hj' =>
      rw [hj] at hj₁
      cases hj₁
      exact Or.inr ⟨_, hj'⟩
    | fail r' tx₁ o hj₁ _ _ hj' =>
      rw [hj] at hj₁
      cases hj₁
      exact Or.inr ⟨_, hj'⟩
  · exact Or.inr ⟨o, (seen_of_step hs j).done hj⟩

theorem appends_of_fresh (hinv : Inv (body sha256) s) (hs : step (body sha256) s l = some s')
    {i : ℕ} {d : Draw} {response : Response} {e : IncidentEvent}
    (hold : ¬ Fresh s i c d response e) (hnew : Fresh s' i c d response e) :
    Appends sha256 s.db s'.db c d response e ∧ (∀ j, j ≠ i → s'.txs j = s.txs j) ∧
      (storable c.slot.1 && storable c.slot.2.2) = true := by
  rcases step_cases hinv hs with ⟨-, htxs⟩ | ⟨k, r, tx, a, hk, -, htxs, hexec⟩
  · exact absurd ((htxs i _ _).1 hnew) hold
  · by_cases hik : i = k
    · subst hik
      rw [Fresh, htxs, Function.update_self] at hnew
      cases hnew
      rcases exec_body hexec with ⟨row, -, -, ha, -⟩ | ⟨response', e', ha, happ⟩
      · cases ha
      · cases ha
        exact ⟨happ, fun j hj => by rw [htxs, Function.update_of_ne hj], storable_of_exec hexec⟩
    · rw [Fresh, htxs, Function.update_of_ne hik] at hnew
      exact absurd hnew hold

/-- **A duplicate returns the recorded response exactly when it had not looked before the response
was recorded.**  Connection `i` records the response between `s₁` and `s₂`; connection `j`, which
serves a duplicate, has ended in `s₃`. -/
theorem duplicate_replays_iff {s₁ s₂ s₃ : Sys} {l : Label Request} {i j : ℕ} {c c' : Call}
    {d d' : Draw} {response : Response} {e : IncidentEvent} {o : Outcome Answer StoreError}
    (h₁ : Reachable (step (body sha256)) (initial ∅) s₁)
    (hs : step (body sha256) s₁ l = some s₂)
    (hold : ¬ Fresh s₁ i c d response e) (hnew : Fresh s₂ i c d response e)
    (h₂ : Reachable (step (body sha256)) s₂ s₃)
    (hj : s₃.txs j = .done (.call c' d') o) (hdup : Duplicate c c') (hji : j ≠ i)
    (ho : o ≠ .aborted) :
    o = .committed (.reply (.replayed response)) ↔ Unlooked s₁ j := by
  have hinv₁ := inv_reachable guards_body h₁
  have hinv₂ := inv_step guards_body hinv₁ hs
  obtain ⟨happ, hothers, hstorable⟩ := appends_of_fresh hinv₁ hs hold hnew
  have hsame := hothers j hji
  obtain ⟨row, hrow, hdigest, rfl⟩ : ∃ row : IdempotencyRow,
      s₂.db.lookup (.idempotency c.slot) = some row ∧ row.requestDigest = c.digest sha256 ∧
        row.response = response := by
    obtain ⟨status, hrow⟩ := happ.recorded
    exact ⟨_, hrow, rfl, rfl⟩
  constructor
  · rintro rfl
    by_contra hlooked
    cases hst : s₁.txs j with
    | idle => exact hlooked (Or.inl hst)
    | running r tx =>
      have hr : r = .call c' d' := by
        rcases request_stable h₂ (hsame.trans hst) with ⟨tx', h⟩ | ⟨o', h⟩
        · rw [hj] at h
          cases h
        · rw [hj] at h
          cases h
          rfl
      subst hr
      rcases looking_reachable h₁ j c' d' tx hst with rfl | ⟨v, hv⟩
      · exact hlooked (Or.inr ⟨_, _, hst, rfl⟩)
      · rw [← hdup.1] at hv
        cases v with
        | some row' =>
          have hdb := ((hinv₁ j _ tx hst).present _ _ hv).2
          rw [happ.unrecorded] at hdb
          exact absurd hdb (by simp)
        | none =>
          have hdoom : Inv (body sha256) s₃ ∧ Doomed c row j s₃ := by
            refine h₂.invariant (I := fun s => Inv (body sha256) s ∧ Doomed c row j s)
              ⟨hinv₂, hrow, Or.inl ⟨_, tx, hsame.trans hst, hv⟩⟩ ?_
            rintro s l s' ⟨hinv, hd⟩ - hs
            exact ⟨inv_step guards_body hinv hs, hd.step hinv hs⟩
          rcases hdoom.2.2 with ⟨r, tx', hrun, -⟩ | ⟨r, o', hdone, hne⟩
          · rw [hj] at hrun
            cases hrun
          · rw [hj] at hdone
            cases hdone
            exact hne _ rfl
    | done r o' =>
      have hst₂ := hsame.trans hst
      have hst₃ : s₃.txs j = .done r o' :=
        h₂.invariant (I := fun s => s.txs j = .done r o') hst₂
          fun _ _ _ hd _ hs => (seen_of_step hs j).done hd
      rw [hj] at hst₃
      cases hst₃
      obtain ⟨row', hrow₁, -⟩ := replays_reachable h₁ j c' d' row.response hst
      rw [← hdup.1, happ.unrecorded] at hrow₁
      exact absurd hrow₁ (by simp)
  · intro hun
    have hbound : Bound sha256 c row j s₂ := by
      refine ⟨hrow, ?_, ?_⟩
      · intro c'' d'' tx htx _
        rw [hsame] at htx
        rcases hun with hidle | ⟨r, tx', hrun, hreads⟩
        · rw [hidle] at htx
          cases htx
        · rw [hrun] at htx
          cases htx
          rcases looking_reachable h₁ j c'' d'' tx hrun with h | ⟨v, hv⟩
          · exact Or.inl h
          · rw [hreads] at hv
            exact absurd hv (by simp)
      · intro c'' d'' o' hdone _
        rw [hsame] at hdone
        rcases hun with hidle | ⟨r, tx', hrun, -⟩
        · rw [hidle] at hdone
          cases hdone
        · rw [hrun] at hdone
          cases hdone
    have hfinal : Inv (body sha256) s₃ ∧ Bound sha256 c row j s₃ := by
      refine h₂.invariant
        (I := fun s => Inv (body sha256) s ∧ Bound sha256 c row j s)
        ⟨hinv₂, hbound⟩ ?_
      rintro s l s' ⟨hinv, hb⟩ - hs
      exact ⟨inv_step guards_body hinv hs, hb.step hdigest hstorable hinv hs⟩
    exact (hfinal.2.2.2 c' d' o hj hdup).resolve_left ho

/-- A feedback call, and its repetition after it was recorded. -/
theorem duplicate_replays_feedback : ∃ s₁ s₃ : Sys,
    Reachable (step (body sampleSha256)) s₁ s₃ ∧ Unlooked s₁ 2 ∧
      s₃.txs 2 = .done (.call (.feedback "tenant-a" "user-b" "inc_7" "key-2" sampleFeedback) {})
        (.committed (.reply (.replayed (.feedback ⟨"feedback_8", 3⟩)))) := by
  let call : Request := .call (.feedback "tenant-a" "user-b" "inc_7" "key-2" sampleFeedback)
    { uuid := "8", acceptedAt := 3, occurredAt := 4 }
  let again : Request := .call (.feedback "tenant-a" "user-b" "inc_7" "key-2" sampleFeedback) {}
  let e := event "inc_7" 2 .feedbackRecorded
    (feedbackPayload ⟨"feedback_8", 3⟩ sampleFeedback) { occurredAt := 4 }
  let ended : Sys → Bool := fun s =>
    decide ((s.txs 2).answer =
      some (again, .committed (.reply (.replayed (.feedback ⟨"feedback_8", 3⟩)))))
  let before : Sys → Bool := fun s =>
    decide ((s.txs 1).answer = none ∧ (s.txs 2).isIdle) &&
      match step (body sampleSha256) s (.exec 1) with
      | some s' =>
        decide ((s'.txs 1).answer =
          some (call, .committed (.reply (.fresh (.feedback ⟨"feedback_8", 3⟩) e)))) &&
        test (step (body sampleSha256)) (fun _ _ => true) ended s'
          [.start 2 again, .exec 2, .exec 2]
      | none => false
  obtain ⟨s₁, h₁, hb⟩ := exists_reachable_of_test (step (body sampleSha256)) (p := before)
    (a := initial ∅)
    ([.start 0 (.call (.create "tenant-a" "key-1" sampleCreate) { uuid := "7" }), .exec 0,
      .exec 0, .exec 0, .exec 0, .exec 0, .exec 0, .start 1 call, .exec 1, .exec 1, .exec 1,
      .exec 1, .exec 1, .exec 1, .exec 1]) (by decide +kernel)
  simp only [before, Bool.and_eq_true, decide_eq_true_eq] at hb
  obtain ⟨⟨hnone, hidle⟩, hb⟩ := hb
  split at hb
  · rename_i s₂ hs
    rw [Bool.and_eq_true, decide_eq_true_eq, Status.answer_eq_some] at hb
    obtain ⟨s₃, h₃, hended⟩ := exists_reachable_of_test _ _ hb.2
    simp only [ended, decide_eq_true_eq] at hended
    have hun : Unlooked s₁ 2 := Or.inl (Status.isIdle_iff.1 hidle)
    refine ⟨s₁, s₃, (Reaches.single trivial hs).trans h₃, hun, ?_⟩
    rw [Status.answer_eq_some] at hended
    rw [hended, (duplicate_replays_iff h₁ hs ?_ hb.1 h₃ hended ⟨rfl, rfl⟩ (by decide)
      (by decide)).2 hun]
    intro hf
    rw [Fresh.eq_1] at hf
    rw [hf] at hnone
    exact absurd hnone (by simp [Status.answer])
  · exact absurd hb (by simp)

/-- The expectation: once a response is recorded, every duplicate that runs to its end returns
it. -/
def DuplicatesReplay (sha256 : String → String) : Prop :=
  ∀ (s : Sys) (i j : ℕ) (c c' : Call) (d d' : Draw) (response : Response) (e : IncidentEvent)
    (o : Outcome Answer StoreError), Reachable (step (body sha256)) (initial ∅) s →
    Fresh s i c d response e → s.txs j = .done (.call c' d') o → Duplicate c c' → j ≠ i →
    o ≠ .aborted → o = .committed (.reply (.replayed response))

/-- Two cancellations that overlap: both look the key up, one commits, the other then finds the
version it was given stale. -/
theorem not_duplicatesReplay : ¬ DuplicatesReplay sampleSha256 := by
  intro h
  let call : Request := .call (.cancel "tenant-a" "inc_7" "key-2" 0) {}
  let response : Response := .snapshot
    { incidentId := "inc_7", state := .cancelled, stateVersion := 1, eventCursor := "2"
      finalReportRef := none }
  let e := event "inc_7" 2 .cancelRequested [] {}
  obtain ⟨s, hs, hp⟩ := exists_reachable_of_test (step (body sampleSha256))
    (p := fun s : Sys =>
      decide ((s.txs 1).answer = some (call, .committed (.reply (.fresh response e))) ∧
        (s.txs 2).answer = some (call, .raised .stateConflict)))
    (a := initial ∅)
    ([.start 0 (.call (.create "tenant-a" "key-1" sampleCreate) { uuid := "7" }), .exec 0,
      .exec 0, .exec 0, .exec 0, .exec 0, .exec 0, .start 1 call, .exec 1, .start 2 call, .exec 2,
      .exec 1, .exec 1, .exec 1, .exec 1, .exec 1, .exec 1, .exec 2, .exec 2]) (by decide +kernel)
  simp only [decide_eq_true_eq, Status.answer_eq_some] at hp
  have := h s 1 2 _ _ _ _ response e _ hs hp.1 hp.2 ⟨rfl, rfl⟩ (by decide) (by decide)
  cases this

end PostgresStore
