/-
**Applied decisions are recorded once.**

Any number of connections apply decisions, write checkpoints and change leases; each of them may
fail at any statement.  The records of idempotency keys and the decisions in the outboxes stay in
one-to-one correspondence, a recorded key is answered from its record, and a call that raises
changes nothing.

Main definitions:

* `StateStore.Correspondence` — records and outbox rows, row by row;
* `StateStore.Fresh` — the connection applied a decision under a key;
* `StateStore.Ledger` — the records are those of the calls that were applied;
* `StateStore.Optimistic` — a decision is applied exactly if it was made on the stored version.

Main results:

* `StateStore.recorded_reachable` — **the store is idempotent and atomic** under every interleaving
  of calls and faults;
* `StateStore.optimistic_iff` — **the version is checked where the aggregate has a row**, and where it
  has none only for decisions on version zero.
-/

import FaultWitness.StateStore

set_option autoImplicit false

namespace StateStore

open ReadCommitted TransitionKernel Runs

/-! ### Records and outbox rows -/

/-- Every record has its outbox row, and every decision in the outbox its record. -/
structure Correspondence (t : Tables) (schema : OwnerSchema) : Prop where
  recorded : ∀ tenantId key (row : IdempotencyRow),
    t.lookup (.idempotency schema tenantId key) = some row → ∃ d : TransitionDecision,
      t.lookup (.outbox schema row.outboxId) = some (transitionRow tenantId row.eventId d) ∧
      d.idempotencyKey = some key ∧ d.requestDigest = row.requestDigest
  published : ∀ outboxId (row : OutboxRow) d, t.lookup (.outbox schema outboxId) = some row →
    row.payload = .transition d → ∃ key, d.idempotencyKey = some key ∧
      t.lookup (.idempotency schema row.tenantId key) =
        some (⟨d.requestDigest, row.eventId, outboxId⟩ : IdempotencyRow)

variable {schema : OwnerSchema} {t t' : Tables}

/-- The correspondence depends only on the records and the decisions in the outbox. -/
theorem Correspondence.congr (h : Correspondence t schema)
    (hid : ∀ tenantId key, t'.lookup (.idempotency schema tenantId key) =
      t.lookup (.idempotency schema tenantId key))
    (hkept : ∀ outboxId (row : OutboxRow), t.lookup (.outbox schema outboxId) = some row →
      t'.lookup (.outbox schema outboxId) = some row)
    (hnew : ∀ outboxId (row : OutboxRow) d, t'.lookup (.outbox schema outboxId) = some row →
      row.payload = .transition d → t.lookup (.outbox schema outboxId) = some row) :
    Correspondence t' schema := by
  constructor
  · intro tenantId key row hrow
    rw [hid] at hrow
    obtain ⟨d, hout, hkey, hdigest⟩ := h.recorded tenantId key row hrow
    exact ⟨d, hkept _ _ hout, hkey, hdigest⟩
  · intro outboxId row d hrow hd
    obtain ⟨key, hkey, hrec⟩ := h.published outboxId row d (hnew outboxId row d hrow hd) hd
    exact ⟨key, hkey, by rw [hid, hrec]⟩

variable {d : TransitionDecision} {r : Request}

theorem Correspondence.applied {schema' : OwnerSchema} {tenantId eventId outboxId : String}
    {x : AppliedTransition} (h : Correspondence t schema')
    (ha : Applied schema d tenantId eventId outboxId t x t') : Correspondence t' schema' := by
  cases ha with
  | replayed key row hkey hrow hdigest => exact h
  | fresh key hkey hun hrange hversion hid hevent =>
    constructor
    · intro tenantId' key' row hrow
      rw [lookup_idempotency_fresh] at hrow
      split at hrow
      · rename_i hslot
        obtain ⟨rfl, rfl, rfl⟩ := hslot
        cases hrow
        refine ⟨d, ?_, hkey, rfl⟩
        rw [lookup_outbox_fresh, if_pos ⟨rfl, rfl⟩]
      · obtain ⟨d', hout, hkey', hdigest⟩ := h.recorded tenantId' key' row hrow
        refine ⟨d', ?_, hkey', hdigest⟩
        rw [lookup_outbox_fresh, if_neg, hout]
        -- the row of an earlier record is there, so its identifier was not free
        rintro ⟨rfl, hob⟩
        rw [hob, hid] at hout
        cases hout
    · intro outboxId' row d' hrow hd
      rw [lookup_outbox_fresh] at hrow
      split at hrow
      · rename_i hslot
        obtain ⟨rfl, rfl⟩ := hslot
        cases hrow
        cases hd
        exact ⟨key, hkey, by rw [lookup_idempotency_fresh, if_pos ⟨rfl, rfl, rfl⟩]; rfl⟩
      · obtain ⟨key', hkey', hrec⟩ := h.published outboxId' row d' hrow hd
        refine ⟨key', hkey', ?_⟩
        rw [lookup_idempotency_fresh, if_neg, hrec]
        rintro ⟨rfl, htenant, rfl⟩
        rw [htenant, hun] at hrec
        cases hrec

theorem Correspondence.checkpointed {c : CheckpointCall} {now : ℤ} (h : Correspondence t schema)
    (hc : Checkpointed c now t t') : Correspondence t' schema := by
  have hout : ∀ outboxId, outboxId ≠ c.outboxId ∨ schema ≠ .graphOwner →
      t'.lookup (.outbox schema outboxId) = t.lookup (.outbox schema outboxId) := by
    intro outboxId hne
    rw [hc.tables]
    refine lookup_apply_of_notMem ?_ t
    simp only [List.map_cons, List.map_nil, List.mem_cons, reduceCtorEq, Key.outbox.injEq,
      List.not_mem_nil, or_false, false_or, not_and]
    intro hschema hid
    rcases hne with hne | hne
    · exact hne hid
    · exact hne hschema
  have hown : t'.lookup (.outbox .graphOwner c.outboxId) = some c.outboxRow := by
    rw [hc.tables]
    exact lookup_apply_of_mem (by simp) (by simp) t
  refine h.congr (fun tenantId key => ?_) (fun outboxId row hrow => ?_)
    fun outboxId row d hrow hd => ?_
  · rw [hc.tables]
    exact lookup_apply_of_notMem (by simp) t
  · by_cases hne : outboxId ≠ c.outboxId ∨ schema ≠ .graphOwner
    · rw [hout outboxId hne, hrow]
    · simp only [not_or, not_not] at hne
      obtain ⟨rfl, rfl⟩ := hne
      rw [hc.unused] at hrow
      cases hrow
  · by_cases hne : outboxId ≠ c.outboxId ∨ schema ≠ .graphOwner
    · rwa [hout outboxId hne] at hrow
    · simp only [not_or, not_not] at hne
      obtain ⟨rfl, rfl⟩ := hne
      rw [hown] at hrow
      cases hrow
      cases hd

/-- What a request that commits does to the correspondence. -/
theorem Correspondence.exec {a : Answer} (h : ∀ schema, Correspondence t schema)
    (he : exec (body r) t = (.committed a, t')) : ∀ schema, Correspondence t' schema := by
  intro schema
  have he := exec_body he
  cases hcall : r.call with
  | applyTransition schema' d tenantId eventId outboxId =>
    rw [hcall] at he
    obtain ⟨x, -, ha⟩ := exec_applyTransition he
    exact (h schema).applied ha
  | writeCheckpoint c now =>
    rw [hcall] at he
    exact (h schema).checkpointed (exec_writeCheckpoint he).2
  | changeLease tenantId taskId new =>
    rw [hcall] at he
    obtain ⟨-, rfl, -⟩ := exec_changeLease he
    refine (h schema).congr (fun tenantId key => ?_) (fun outboxId row hrow => ?_)
      fun outboxId row d hrow hd => ?_
    · exact lookup_put_of_ne (by simp) _
    · rw [lookup_put_of_ne (by simp), hrow]
    · rwa [lookup_put_of_ne (by simp)] at hrow

variable {s : Sys}

theorem correspondence_reachable (h : Reachable (step body) (initial ∅) s) :
    ∀ schema, Correspondence s.db schema :=
  db_invariant guards_body (fun _ _ _ _ hI he => Correspondence.exec hI he)
    (fun schema => ⟨by simp, by simp⟩) h

/-- The slots of the records of a schema. -/
def recordedSlots (t : Tables) (schema : OwnerSchema) : Set (String × String) :=
  {slot | (t.lookup (.idempotency schema slot.1 slot.2)).isSome}

/-- The identifiers of the decisions in the outbox of a schema. -/
def transitionOutbox (t : Tables) (schema : OwnerSchema) : Set String :=
  {outboxId | ∃ (row : OutboxRow) (d : TransitionDecision),
    t.lookup (.outbox schema outboxId) = some row ∧ row.payload = .transition d}

/-- The outbox row that a record points to. -/
def responseOutboxId (t : Tables) (schema : OwnerSchema) (slot : String × String) : String :=
  ((t.lookup (.idempotency schema slot.1 slot.2) : Option IdempotencyRow).map (·.outboxId)).getD ""

/-- Following the records leads to every decision in the outbox exactly once. -/
theorem Correspondence.bijOn (h : Correspondence t schema) :
    Set.BijOn (responseOutboxId t schema) (recordedSlots t schema) (transitionOutbox t schema) := by
  have hrow : ∀ slot ∈ recordedSlots t schema, ∃ row : IdempotencyRow,
      t.lookup (.idempotency schema slot.1 slot.2) = some row ∧
        responseOutboxId t schema slot = row.outboxId := by
    intro slot hslot
    obtain ⟨row, hr⟩ : ∃ row : IdempotencyRow,
        t.lookup (.idempotency schema slot.1 slot.2) = some row := Option.isSome_iff_exists.1 hslot
    exact ⟨row, hr, by simp [responseOutboxId, hr]⟩
  refine ⟨fun slot hslot => ?_, fun slot hslot slot' hslot' heq => ?_, fun outboxId hout => ?_⟩
  · obtain ⟨row, hr, hid⟩ := hrow slot hslot
    obtain ⟨d, hout, -, -⟩ := h.recorded _ _ row hr
    exact ⟨_, d, by rw [hid, hout], rfl⟩
  · obtain ⟨row, hr, hid⟩ := hrow slot hslot
    obtain ⟨row', hr', hid'⟩ := hrow slot' hslot'
    obtain ⟨d, hout, hkey, -⟩ := h.recorded _ _ row hr
    obtain ⟨d', hout', hkey', -⟩ := h.recorded _ _ row' hr'
    rw [← hid, heq, hid', hout'] at hout
    simp only [transitionRow, Option.some.injEq, OutboxRow.mk.injEq, Payload.transition.injEq] at hout
    obtain ⟨htenant, -, -, -, rfl⟩ := hout
    rw [hkey] at hkey'
    exact Prod.ext htenant.symm (by simpa using hkey')
  · obtain ⟨row, d, hout, hd⟩ := hout
    obtain ⟨key, -, hrec⟩ := h.published outboxId row d hout hd
    refine ⟨(row.tenantId, key), ?_, ?_⟩
    · show (t.lookup (.idempotency schema row.tenantId key)).isSome
      rw [hrec]
      rfl
    · simp [responseOutboxId, hrec]

/-! ### The calls that were applied -/

/-- The connection applied the decision under the key, with these identifiers. -/
def Fresh (s : Sys) (i : ℕ) (schema : OwnerSchema) (tenantId key : String) (d : TransitionDecision)
    (eventId outboxId : String) : Prop :=
  d.idempotencyKey = some key ∧ ∃ fault,
    s.txs i = .done ⟨.applyTransition schema d tenantId eventId outboxId, fault⟩
      (.committed (.applied ⟨d, eventId, outboxId, false⟩))

/-- Every record belongs to exactly one call that was applied. -/
structure Ledger (s : Sys) : Prop where
  caller : ∀ schema tenantId key (row : IdempotencyRow),
    s.db.lookup (.idempotency schema tenantId key) = some row →
      ∃ i d, Fresh s i schema tenantId key d row.eventId row.outboxId ∧
        d.requestDigest = row.requestDigest
  kept : ∀ i schema tenantId key d eventId outboxId,
    Fresh s i schema tenantId key d eventId outboxId →
      s.db.lookup (.idempotency schema tenantId key) =
        some (⟨d.requestDigest, eventId, outboxId⟩ : IdempotencyRow)
  once : ∀ i j schema tenantId key d d' eventId eventId' outboxId outboxId',
    Fresh s i schema tenantId key d eventId outboxId →
      Fresh s j schema tenantId key d' eventId' outboxId' → i = j

variable {s' : Sys}

theorem Ledger.congr (h : Ledger s)
    (hid : ∀ schema tenantId key, s'.db.lookup (.idempotency schema tenantId key) =
      s.db.lookup (.idempotency schema tenantId key))
    (hfresh : ∀ i schema tenantId key d eventId outboxId,
      Fresh s' i schema tenantId key d eventId outboxId ↔
        Fresh s i schema tenantId key d eventId outboxId) : Ledger s' := by
  constructor
  · intro schema tenantId key row hrow
    rw [hid] at hrow
    obtain ⟨i, d, hf, hd⟩ := h.caller schema tenantId key row hrow
    exact ⟨i, d, (hfresh ..).2 hf, hd⟩
  · intro i schema tenantId key d eventId outboxId hf
    rw [hid]
    exact h.kept i schema tenantId key d eventId outboxId ((hfresh ..).1 hf)
  · intro i j schema tenantId key d d' eventId eventId' outboxId outboxId' hf hf'
    exact h.once i j schema tenantId key d d' eventId eventId' outboxId outboxId' ((hfresh ..).1 hf)
      ((hfresh ..).1 hf')

/-- A request that commits without applying a decision. -/
theorem fresh_of_not_applied {i : ℕ} {a : Answer}
    (htxs : s'.txs = Function.update s.txs i (.done r (.committed a)))
    (hrun : ∀ r' o, s.txs i ≠ .done r' o) (ha : ∀ d e o, a ≠ .applied ⟨d, e, o, false⟩) (j : ℕ)
    (schema : OwnerSchema) (tenantId key : String) (d : TransitionDecision)
    (eventId outboxId : String) :
    Fresh s' j schema tenantId key d eventId outboxId ↔
      Fresh s j schema tenantId key d eventId outboxId := by
  unfold Fresh
  rw [htxs]
  by_cases hj : j = i
  · subst hj
    rw [Function.update_self]
    constructor
    · rintro ⟨-, fault, heq⟩
      cases heq
      exact absurd rfl (ha d eventId outboxId)
    · rintro ⟨-, fault, heq⟩
      exact absurd heq (hrun _ _)
  · rw [Function.update_of_ne hj]

/-- A decision was applied: one more call, and one more record. -/
theorem Ledger.applied (h : Ledger s) {i : ℕ} {fault : Option ℕ}
    {key tenantId eventId outboxId : String} {before : Option AggregateRow}
    (hrun : ∀ r' o, s.txs i ≠ .done r' o) (htxs : s'.txs = Function.update s.txs i
      (.done ⟨.applyTransition schema d tenantId eventId outboxId, fault⟩
        (.committed (.applied ⟨d, eventId, outboxId, false⟩))))
    (hkey : d.idempotencyKey = some key)
    (hun : s.db.lookup (.idempotency schema tenantId key) = none)
    (hdb : s'.db = apply (freshWrites schema d key tenantId eventId outboxId before) s.db) :
    Ledger s' := by
  have hold : ∀ {j schema' tenantId' key' d' eventId' outboxId'}, j ≠ i →
      (Fresh s' j schema' tenantId' key' d' eventId' outboxId' ↔
        Fresh s j schema' tenantId' key' d' eventId' outboxId') := by
    intro j schema' tenantId' key' d' eventId' outboxId' hj
    unfold Fresh
    rw [htxs, Function.update_of_ne hj]
  have hnew : ∀ {schema' tenantId' key' d' eventId' outboxId'},
      Fresh s' i schema' tenantId' key' d' eventId' outboxId' →
        schema' = schema ∧ tenantId' = tenantId ∧ key' = key ∧ d' = d ∧ eventId' = eventId ∧
          outboxId' = outboxId := by
    rintro schema' tenantId' key' d' eventId' outboxId' ⟨hk, fault', heq⟩
    rw [htxs, Function.update_self] at heq
    cases heq
    rw [hkey] at hk
    exact ⟨rfl, rfl, (Option.some.inj hk).symm, rfl, rfl, rfl⟩
  have hself : Fresh s' i schema tenantId key d eventId outboxId :=
    ⟨hkey, fault, by rw [htxs, Function.update_self]⟩
  -- a call that was applied before had another slot, as this one was free
  have hother : ∀ {j schema' tenantId' key' d' eventId' outboxId'},
      Fresh s j schema' tenantId' key' d' eventId' outboxId' →
        ¬ (schema' = schema ∧ tenantId' = tenantId ∧ key' = key) := by
    rintro j schema' tenantId' key' d' eventId' outboxId' hf ⟨rfl, rfl, rfl⟩
    rw [h.kept _ _ _ _ _ _ _ hf] at hun
    cases hun
  constructor
  · intro schema' tenantId' key' row hrow
    rw [hdb, lookup_idempotency_fresh] at hrow
    split at hrow
    · rename_i hslot
      obtain ⟨rfl, rfl, rfl⟩ := hslot
      cases hrow
      exact ⟨i, d, hself, rfl⟩
    · obtain ⟨j, d', hf, hd⟩ := h.caller schema' tenantId' key' row hrow
      refine ⟨j, d', (hold ?_).2 hf, hd⟩
      rintro rfl
      obtain ⟨-, fault', heq⟩ := hf
      exact hrun _ _ heq
  · intro j schema' tenantId' key' d' eventId' outboxId' hf
    rw [hdb, lookup_idempotency_fresh]
    by_cases hj : j = i
    · subst hj
      obtain ⟨rfl, rfl, rfl, rfl, rfl, rfl⟩ := hnew hf
      rw [if_pos ⟨rfl, rfl, rfl⟩]
    · have hf := (hold hj).1 hf
      rw [if_neg (hother hf)]
      exact h.kept _ _ _ _ _ _ _ hf
  · intro j j' schema' tenantId' key' d' d'' eventId' eventId'' outboxId' outboxId'' hf hf'
    by_cases hj : j = i <;> by_cases hj' : j' = i
    · rw [hj, hj']
    · subst hj
      obtain ⟨rfl, rfl, rfl, -⟩ := hnew hf
      exact absurd ⟨rfl, rfl, rfl⟩ (hother ((hold hj').1 hf'))
    · subst hj'
      obtain ⟨rfl, rfl, rfl, -⟩ := hnew hf'
      exact absurd ⟨rfl, rfl, rfl⟩ (hother ((hold hj).1 hf))
    · exact h.once _ _ _ _ _ _ _ _ _ _ _ ((hold hj).1 hf) ((hold hj').1 hf')

theorem Ledger.step {l : Label Request} (h : Ledger s) (hinv : Inv body s)
    (hs : step body s l = some s') : Ledger s' := by
  rcases step_cases hinv hs with ⟨hdb, hdone⟩ | ⟨i, r, tx, a, hi, hr, htxs, he⟩
  · refine h.congr (fun schema tenantId key => by rw [hdb]) fun i schema tenantId key d e o => ?_
    unfold Fresh
    refine and_congr_right fun _ => exists_congr fun fault => ?_
    exact hdone i _ _
  · have hrun : ∀ r' o, s.txs i ≠ .done r' o := by
      intro r' o hdone
      rw [hi] at hdone
      cases hdone
    have hcall := exec_body he
    obtain ⟨call, fault⟩ := r
    cases call with
    | applyTransition schema d tenantId eventId outboxId =>
      obtain ⟨x, rfl, ha⟩ := exec_applyTransition hcall
      generalize hdb : s'.db = t at ha
      cases ha with
      | replayed key row hkey hrow hdigest =>
        exact h.congr (fun _ _ _ => by rw [hdb]) (fresh_of_not_applied htxs hrun (by simp))
      | fresh key hkey hun hrange hversion hid hevent =>
        exact h.applied hrun htxs hkey hun hdb
    | writeCheckpoint c now =>
      obtain ⟨rfl, hc⟩ := exec_writeCheckpoint hcall
      refine h.congr (fun schema tenantId key => ?_) (fresh_of_not_applied htxs hrun (by simp))
      rw [hc.tables]
      exact lookup_apply_of_notMem (by simp) _
    | changeLease tenantId taskId new =>
      obtain ⟨rfl, hdb, -⟩ := exec_changeLease hcall
      refine h.congr (fun schema tenantId key => ?_) (fresh_of_not_applied htxs hrun (by simp))
      rw [hdb]
      exact lookup_put_of_ne (by simp) _

theorem ledger_reachable (h : Reachable (step body) (initial ∅) s) : Ledger s := by
  have hboth : Inv body s ∧ Ledger s := by
    refine h.invariant (I := fun s => Inv body s ∧ Ledger s) ⟨inv_initial _ _, ?_⟩ ?_
    · constructor <;> simp [Fresh, initial]
    · rintro s l s' ⟨hinv, hl⟩ - hs
      exact ⟨inv_step guards_body hinv hs, hl.step hinv hs⟩
  exact hboth.2

/-! ### The store is idempotent and atomic -/

theorem transact_recorded {key tenantId eventId outboxId : String} {row : IdempotencyRow}
    (hkey : d.idempotencyKey = some key)
    (hrow : t.lookup (.idempotency schema tenantId key) = some row) :
    transact (body ⟨.applyTransition schema d tenantId eventId outboxId, none⟩) t =
      if row.requestDigest = d.requestDigest then
        (.committed (.applied ⟨d, row.eventId, row.outboxId, true⟩), t)
      else (.raised .duplicateCommand, t) := by
  by_cases hdigest : row.requestDigest = d.requestDigest
  · simp [transact, body, Call.body, applyTransition, hkey, exec, hrow, hdigest]
  · simp [transact, body, Call.body, applyTransition, hkey, exec, hrow, hdigest]

theorem step_of_raised {l : Label Request} (hinv : Inv body s) (hs : step body s l = some s')
    {i : ℕ} {o : Outcome Answer StateError} (hi : s'.txs i = .done r o)
    (hnew : s.txs i ≠ .done r o) (ho : ∀ a, o ≠ .committed a) : s'.db = s.db := by
  rcases step_cases hinv hs with ⟨hdb, -⟩ | ⟨j, r', tx, a, hj, -, htxs, -⟩
  · exact hdb
  · exfalso
    rw [htxs] at hi
    by_cases hij : i = j
    · subst hij
      rw [Function.update_self] at hi
      cases hi
      exact ho a rfl
    · rw [Function.update_of_ne hij] at hi
      exact hnew hi

/-- The store is idempotent and atomic in a state of a run. -/
structure Recorded (s : Sys) : Prop where
  /-- Following the records leads to every decision in the outbox exactly once. -/
  bijection : ∀ schema, Set.BijOn (responseOutboxId s.db schema) (recordedSlots s.db schema)
    (transitionOutbox s.db schema)
  /-- A record and the row it leads to carry the same identifiers. -/
  identifiers : ∀ schema tenantId key (row : IdempotencyRow),
    s.db.lookup (.idempotency schema tenantId key) = some row → ∃ d : TransitionDecision,
      s.db.lookup (.outbox schema row.outboxId) = some (transitionRow tenantId row.eventId d)
  /-- A recorded key with the same digest: the answer of the one call that was applied. -/
  replay : ∀ schema tenantId key (row : IdempotencyRow) d eventId outboxId,
    s.db.lookup (.idempotency schema tenantId key) = some row → d.idempotencyKey = some key →
      row.requestDigest = d.requestDigest →
      transact (body ⟨.applyTransition schema d tenantId eventId outboxId, none⟩) s.db =
          (.committed (.applied ⟨d, row.eventId, row.outboxId, true⟩), s.db) ∧
        ∃! i, ∃ first eventId' outboxId', Fresh s i schema tenantId key first eventId' outboxId' ∧
          eventId' = row.eventId ∧ outboxId' = row.outboxId ∧
          first.requestDigest = row.requestDigest
  /-- A recorded key with another digest. -/
  conflict : ∀ schema tenantId key (row : IdempotencyRow) d eventId outboxId,
    s.db.lookup (.idempotency schema tenantId key) = some row → d.idempotencyKey = some key →
      row.requestDigest ≠ d.requestDigest →
      transact (body ⟨.applyTransition schema d tenantId eventId outboxId, none⟩) s.db =
        (.raised .duplicateCommand, s.db)
  /-- A call that ends without a commit, at whichever statement, changes nothing. -/
  atomic : ∀ l s' i r o, step body s l = some s' → s'.txs i = .done r o → s.txs i ≠ .done r o →
    (∀ a, o ≠ .committed a) → s'.db = s.db

/-- **Under every interleaving of calls and faults the store is idempotent and atomic.** -/
theorem recorded_reachable {s : Sys} (h : Reachable (step body) (initial ∅) s) : Recorded s := by
  have hcorr := correspondence_reachable h
  have hl := ledger_reachable h
  constructor
  · exact fun schema => (hcorr schema).bijOn
  · intro schema tenantId key row hrow
    obtain ⟨d, hout, -⟩ := (hcorr schema).recorded tenantId key row hrow
    exact ⟨d, hout⟩
  · intro schema tenantId key row d eventId outboxId hrow hkey hdigest
    refine ⟨by rw [transact_recorded hkey hrow, if_pos hdigest], ?_⟩
    obtain ⟨i, first, hf, hd⟩ := hl.caller schema tenantId key row hrow
    refine ⟨i, ⟨first, _, _, hf, rfl, rfl, hd⟩, ?_⟩
    rintro j ⟨first', eventId', outboxId', hf', -, -, -⟩
    exact hl.once _ _ _ _ _ _ _ _ _ _ _ hf' hf
  · intro schema tenantId key row d eventId outboxId hrow hkey hdigest
    rw [transact_recorded hkey hrow, if_neg hdigest]
  · intro l s' i r o hs hi hnew ho
    exact step_of_raised (inv_reachable guards_body h) hs hi hnew ho

/-- A decision as a client may hand it over. -/
def sampleDecision : TransitionDecision where
  machineId := "incident"
  ownerComponent := "CMP-CONTROL-API"
  transitionId := "TR-INCIDENT-CREATE"
  actor := "CMP-CONTROL-API"
  aggregateId := "inc-1"
  previousState := "NEW"
  nextState := "QUEUED"
  previousStateVersion := 0
  nextStateVersion := 1
  command := "CMD-CREATE-INCIDENT"
  event := "EVT-INCIDENT-CREATED"
  schemaVersion := "1.1.0"
  automatic := false
  idempotencyKey := some "key-1"
  requestDigest := "digest-1"
  evaluatedPredicates := []
  decisionDigest := "digest-2"

/-- A decision that is applied beside a call that fails at its third statement. -/
theorem recorded_after_fault : ∃ s : Sys, Reachable (step body) (initial ∅) s ∧ Recorded s ∧
    ("tenant-a", "key-1") ∈ recordedSlots s.db .incidentOwner ∧
    (s.txs 0).answer.map Prod.snd = some (.raised .databaseError) := by
  obtain ⟨s, hs, hp⟩ := exists_reachable_of_test (step body)
    (p := fun s : Sys => (s.db.lookup (.idempotency .incidentOwner "tenant-a" "key-1")).isSome &&
      decide ((s.txs 0).answer.map Prod.snd = some (.raised .databaseError))) (a := initial ∅)
    (.start 0 ⟨.applyTransition .incidentOwner sampleDecision "tenant-a" "evt-1" "out-1", some 2⟩ ::
      List.replicate 3 (.exec 0) ++
      .start 1 ⟨.applyTransition .incidentOwner sampleDecision "tenant-a" "evt-2" "out-2", none⟩ ::
      List.replicate 6 (.exec 1)) (by decide +kernel)
  rw [Bool.and_eq_true, decide_eq_true_eq] at hp
  exact ⟨s, hs, recorded_reachable hs, hp.1, hp.2⟩

/-! ### The check of the version -/

/-- The version of an aggregate, which is zero as long as it has no row. -/
def storedVersion (t : Tables) (schema : OwnerSchema) (tenantId aggregateId : String) : ℕ :=
  match (t.lookup (.aggregate schema tenantId aggregateId) : Option AggregateRow) with
  | some row => row.stateVersion
  | none => 0

/-- The decision is applied exactly if it was made on the stored version, and refused without a trace if
it was not. -/
def Optimistic (schema : OwnerSchema) (d : TransitionDecision) (tenantId eventId outboxId : String)
    (t : Tables) : Prop :=
  ((∃ a t', transact (applyTransition schema d tenantId eventId outboxId) t = (.committed a, t')) ↔
      (storedVersion t schema tenantId d.aggregateId : ℤ) = d.previousStateVersion) ∧
    ((storedVersion t schema tenantId d.aggregateId : ℤ) ≠ d.previousStateVersion →
      transact (applyTransition schema d tenantId eventId outboxId) t = (.raised .versionConflict, t))

section Version

variable {schema : OwnerSchema} {d : TransitionDecision} {key tenantId eventId outboxId : String}
  {t : Tables} (hkey : d.idempotencyKey = some key)
  (hrecorded : t.lookup (.idempotency schema tenantId key) = none)

include hkey hrecorded

theorem exec_unrecorded : exec (applyTransition schema d tenantId eventId outboxId) t =
    exec (applyFresh schema d key tenantId eventId outboxId) t := by
  simp only [applyTransition, hkey, exec, hrecorded]

theorem transact_refused (hrange : ¬(0 ≤ d.nextStateVersion ∧ Bigint d.nextStateVersion)) :
    ∃ err, err ≠ .versionConflict ∧
      transact (applyTransition schema d tenantId eventId outboxId) t = (.raised err, t) := by
  rw [transact, exec_unrecorded hkey hrecorded, applyFresh, upsertAggregate]
  by_cases hbig : Bigint d.nextStateVersion
  · have hneg : d.nextStateVersion < 0 := by
      by_contra hpos
      exact hrange ⟨by omega, hbig⟩
    rw [if_neg (not_not.2 hbig), if_pos hneg]
    exact ⟨.checkViolation, nofun, rfl⟩
  · rw [if_pos hbig]
    exact ⟨.outOfRange, nofun, rfl⟩

theorem transact_conflict (hrange : 0 ≤ d.nextStateVersion ∧ Bigint d.nextStateVersion)
    {row : AggregateRow} (hrow : t.lookup (.aggregate schema tenantId d.aggregateId) = some row)
    (hversion : (row.stateVersion : ℤ) ≠ d.previousStateVersion) :
    transact (applyTransition schema d tenantId eventId outboxId) t =
      (.raised .versionConflict, t) := by
  rw [transact, exec_unrecorded hkey hrecorded, applyFresh, upsertAggregate,
    if_neg (not_not.2 hrange.2), if_neg (by omega)]
  simp only [exec, hrow, replacement, if_neg hversion]
  rfl

/-- A decision that meets no row, or one with its version. -/
theorem transact_applied (hid : t.lookup (.outbox schema outboxId) = none)
    (hevent : t.lookup (.outboxEvent schema eventId) = none)
    (hrange : 0 ≤ d.nextStateVersion ∧ Bigint d.nextStateVersion)
    (hversion : ∀ row : AggregateRow,
      t.lookup (.aggregate schema tenantId d.aggregateId) = some row →
        (row.stateVersion : ℤ) = d.previousStateVersion) :
    ∃ a t', transact (applyTransition schema d tenantId eventId outboxId) t = (.committed a, t') := by
  have hupserted : exec (applyFresh schema d key tenantId eventId outboxId) t =
      exec (insertOutbox schema outboxId (transitionRow tenantId eventId d) <|
          .insert (.idempotency schema tenantId key) ⟨d.requestDigest, eventId, outboxId⟩ <|
          .commit (.applied ⟨d, eventId, outboxId, false⟩))
        (put t (.aggregate schema tenantId d.aggregateId)
          (some (advanced d (t.lookup (.aggregate schema tenantId d.aggregateId))))) := by
    rw [applyFresh, upsertAggregate, if_neg (not_not.2 hrange.2), if_neg (by omega)]
    cases hrow : (t.lookup (.aggregate schema tenantId d.aggregateId) : Option AggregateRow) with
    | none =>
      simp only [exec, hrow, replacement]
      rfl
    | some row =>
      simp only [exec, hrow, replacement, if_pos (hversion row hrow)]
      rfl
  rw [transact, exec_unrecorded hkey hrecorded, hupserted]
  simp [insertOutbox, exec, transitionRow, lookup_put_of_ne, hid, hevent, hrecorded]

end Version

/-- **The version of an aggregate is checked exactly if it has a row or the decision was made on version
zero**, and the new version fits the column. -/
theorem optimistic_iff {schema : OwnerSchema} {d : TransitionDecision}
    {key tenantId eventId outboxId : String} {t : Tables} (hkey : d.idempotencyKey = some key)
    (hrecorded : t.lookup (.idempotency schema tenantId key) = none)
    (hid : t.lookup (.outbox schema outboxId) = none)
    (hevent : t.lookup (.outboxEvent schema eventId) = none) :
    Optimistic schema d tenantId eventId outboxId t ↔
      (0 ≤ d.nextStateVersion ∧ Bigint d.nextStateVersion) ∧
        ((∃ row : AggregateRow, t.lookup (.aggregate schema tenantId d.aggregateId) = some row) ∨
          d.previousStateVersion = 0) := by
  by_cases hrange : 0 ≤ d.nextStateVersion ∧ Bigint d.nextStateVersion
  swap
  · obtain ⟨err, herr, hrefused⟩ := transact_refused hkey hrecorded hrange
    refine iff_of_false ?_ fun h => hrange h.1
    rintro ⟨happlied, hconflict⟩
    rw [hrefused] at happlied hconflict
    by_cases hversion : (storedVersion t schema tenantId d.aggregateId : ℤ) = d.previousStateVersion
    · obtain ⟨a, t', h⟩ := happlied.2 hversion
      cases h
    · cases hconflict hversion
      exact herr rfl
  rw [and_iff_right hrange]
  cases hrow : (t.lookup (.aggregate schema tenantId d.aggregateId) : Option AggregateRow) with
  | none =>
    have hstored : storedVersion t schema tenantId d.aggregateId = 0 := by
      rw [storedVersion, hrow]
    have happlied := transact_applied hkey hrecorded hid hevent hrange fun row h => by
      rw [hrow] at h
      cases h
    rw [Optimistic, hstored]
    constructor
    · intro h
      exact Or.inr (h.1.1 happlied).symm
    · rintro (⟨row, h⟩ | hzero)
      · cases h
      · exact ⟨iff_of_true happlied hzero.symm, fun hne => absurd hzero.symm hne⟩
  | some row =>
    have hstored : storedVersion t schema tenantId d.aggregateId = row.stateVersion := by
      rw [storedVersion, hrow]
    refine iff_of_true ?_ (Or.inl ⟨row, rfl⟩)
    rw [Optimistic, hstored]
    by_cases hversion : (row.stateVersion : ℤ) = d.previousStateVersion
    · have happlied := transact_applied hkey hrecorded hid hevent hrange fun row' h => by
        rw [hrow] at h
        cases h
        exact hversion
      exact ⟨iff_of_true happlied hversion, fun hne => absurd hversion hne⟩
    · have hconflict : transact (applyTransition schema d tenantId eventId outboxId) t =
          (.raised .versionConflict, t) := transact_conflict hkey hrecorded hrange hrow hversion
      refine ⟨iff_of_false ?_ hversion, fun _ => hconflict⟩
      rintro ⟨a, t', h⟩
      cases hconflict.symm.trans h

/-- A decision on an aggregate that has no row. -/
def staleDecision : TransitionDecision :=
  { sampleDecision with previousStateVersion := 5, nextStateVersion := 6 }

/-- A decision that was made on version five of an aggregate without a row is applied. -/
theorem not_optimistic : ¬∀ (schema : OwnerSchema) (d : TransitionDecision)
    (key tenantId eventId outboxId : String) (t : Tables), d.idempotencyKey = some key →
    t.lookup (.idempotency schema tenantId key) = none →
    t.lookup (.outbox schema outboxId) = none → t.lookup (.outboxEvent schema eventId) = none →
    Optimistic schema d tenantId eventId outboxId t := by
  intro hall
  have hstale := hall .incidentOwner staleDecision "key-1" "tenant-a" "evt-1" "out-1" ∅ rfl rfl rfl rfl
  have hconflict := hstale.2 (by decide)
  obtain ⟨a, t', happlied⟩ := transact_applied (show staleDecision.idempotencyKey = some "key-1" from rfl)
    (show (∅ : Tables).lookup (.idempotency .incidentOwner "tenant-a" "key-1") = none from rfl)
    (show (∅ : Tables).lookup (.outbox .incidentOwner "out-1") = none from rfl)
    (show (∅ : Tables).lookup (.outboxEvent .incidentOwner "evt-1") = none from rfl) (by decide) nofun
  cases happlied.symm.trans hconflict

/-- The tables after a first decision on the aggregate. -/
def afterFirst : Tables :=
  (transact (applyTransition .incidentOwner sampleDecision "tenant-a" "evt-1" "out-1") ∅).2

/-- A later decision on the aggregate. -/
def laterDecision (previous next : ℤ) : TransitionDecision :=
  { sampleDecision with
    idempotencyKey := some "key-2", previousStateVersion := previous, nextStateVersion := next }

/-- A decision on the stored version is applied, one on the version before it leaves no trace. -/
theorem optimistic_stored : storedVersion afterFirst .incidentOwner "tenant-a" "inc-1" = 1 ∧
    Optimistic .incidentOwner (laterDecision 1 2) "tenant-a" "evt-2" "out-2" afterFirst ∧
      Optimistic .incidentOwner (laterDecision 0 1) "tenant-a" "evt-2" "out-2" afterFirst := by
  have hkey : ∀ previous next, (laterDecision previous next).idempotencyKey = some "key-2" :=
    fun _ _ => rfl
  exact ⟨rfl, (optimistic_iff (hkey 1 2) rfl rfl rfl).2 ⟨by decide, Or.inl ⟨_, rfl⟩⟩,
    (optimistic_iff (hkey 0 1) rfl rfl rfl).2 ⟨by decide, Or.inl ⟨_, rfl⟩⟩⟩

end StateStore
