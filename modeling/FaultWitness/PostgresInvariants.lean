/-
**What holds of the durable store under every interleaving.**

Any number of connections serve requests, one statement at a time.  A committed transaction is
serialisable, so an invariant of the tables need only be kept by the four transactions run alone;
what remains is to find one.  Per incident it is `IncidentOk`: the projection holds exactly the
sequences up to the cursor, and the state and its version are those the cancellations among them
give.

The second half relates the tables to the calls that made them.  A call that commits afresh records
itself and appends an event, nothing ever removes either, and both are claimed by a primary key.  So
the recorded calls, the rows of `api_idempotency` and the events are in bijection (`Ledger`).

Main results:

* `PostgresStore.wellFormed_reachable` — every incident is as described in every state reached;
* `PostgresStore.ledger_reachable` — **the bijection**, in every state reached;
* `PostgresStore.consistent_reachable` — both, in terms of the tables.
-/

import FaultWitness.PostgresStore

set_option autoImplicit false

namespace PostgresStore

open Incidents ReadCommitted Python Runs

variable {sha256 : String → String}

/-- The tables with the connections to them. -/
abbrev Sys := System Request Row Answer StoreError

/-! ### The projection of one incident -/

section Projection

variable {t t' : Tables} {tenantId incidentId : String} {n : ℕ}

theorem mem_sequences :
    n ∈ sequences t tenantId incidentId ↔ (t.lookup (.event tenantId incidentId n)).isSome := by
  rw [AList.lookup_isSome, AList.mem_keys, sequences, List.mem_filterMap]
  constructor
  · rintro ⟨k, hk, hn⟩
    cases k with
    | event a b m =>
      simp only [Key.sequenceOf, Option.ite_none_right_eq_some, Option.some.injEq] at hn
      obtain ⟨⟨rfl, rfl⟩, rfl⟩ := hn
      exact hk
    | _ => simp [Key.sequenceOf] at hn
  · intro hk
    exact ⟨_, hk, by simp [Key.sequenceOf]⟩

theorem le_foldr_max {ns : List ℕ} (h : n ∈ ns) : n ≤ ns.foldr max 0 := by
  induction ns with
  | nil => simp at h
  | cons m ns ih =>
    rw [List.foldr_cons]
    rcases List.mem_cons.1 h with rfl | h
    · exact le_max_left ..
    · exact (ih h).trans (le_max_right ..)

theorem foldr_max_mem (ns : List ℕ) : ns.foldr max 0 = 0 ∨ ns.foldr max 0 ∈ ns := by
  induction ns with
  | nil => simp
  | cons m ns ih =>
    rw [List.foldr_cons]
    rcases le_total m (ns.foldr max 0) with h | h
    · rw [max_eq_right h]
      exact ih.imp id (List.mem_cons_of_mem _)
    · rw [max_eq_left h]
      exact Or.inr List.mem_cons_self

/-- The projection holds exactly the sequences from one to `n`. -/
def Contiguous (t : Tables) (tenantId incidentId : String) (n : ℕ) : Prop :=
  ∀ m, (t.lookup (.event tenantId incidentId m)).isSome ↔ 1 ≤ m ∧ m ≤ n

theorem Contiguous.maxSequence (h : Contiguous t tenantId incidentId n) :
    (sequences t tenantId incidentId).foldr max 0 = n := by
  have hmem : ∀ m, m ∈ sequences t tenantId incidentId ↔ 1 ≤ m ∧ m ≤ n :=
    fun m => mem_sequences.trans (h m)
  refine le_antisymm ?_ ?_
  · rcases foldr_max_mem (sequences t tenantId incidentId) with h₀ | h₀
    · omega
    · exact ((hmem _).1 h₀).2
  · rcases Nat.eq_zero_or_pos n with rfl | hn
    · exact Nat.zero_le _
    · exact le_foldr_max ((hmem n).2 ⟨hn, le_rfl⟩)

theorem Contiguous.projection (h : Contiguous t tenantId incidentId n) :
    projection t tenantId incidentId =
      (List.range n).filterMap fun m => t.lookup (.event tenantId incidentId (m + 1)) := by
  have h₀ : t.lookup (.event tenantId incidentId 0) = none := by
    have := (h 0).not.2 (by omega)
    simpa using this
  rw [PostgresStore.projection, h.maxSequence, List.range_succ_eq_map, List.filterMap_cons, h₀,
    List.filterMap_map]
  rfl

theorem filterMap_range_spec {α : Type} {f : ℕ → Option α} (h : ∀ m, m < n → (f m).isSome) :
    ((List.range n).filterMap f).length = n ∧
      ∀ i, ((List.range n).filterMap f)[i]? = if i < n then f i else none := by
  induction n with
  | zero => simp
  | succ n ih =>
    obtain ⟨hlen, hget⟩ := ih fun m hm => h m (by omega)
    obtain ⟨v, hv⟩ := Option.isSome_iff_exists.1 (h n (Nat.lt_succ_self n))
    have hsucc : (List.range (n + 1)).filterMap f = (List.range n).filterMap f ++ [v] := by
      simp [List.range_succ, List.filterMap_append, hv]
    rw [hsucc]
    refine ⟨by simp [hlen], fun i => ?_⟩
    rcases Nat.lt_trichotomy i n with hi | rfl | hi
    · rw [List.getElem?_append_left (by omega), hget, if_pos hi, if_pos (by omega)]
    · rw [List.getElem?_append_right (by omega), hlen, if_pos (by omega), hv]
      simp
    · rw [List.getElem?_eq_none (by simp; omega), if_neg (by omega)]

theorem Contiguous.getElem? (h : Contiguous t tenantId incidentId n) (i : ℕ) :
    (PostgresStore.projection t tenantId incidentId)[i]? =
      t.lookup (.event tenantId incidentId (i + 1)) := by
  rw [h.projection, (filterMap_range_spec fun m hm => (h (m + 1)).2 ⟨by omega, by omega⟩).2]
  split
  · rfl
  · rename_i hi
    have := (h (i + 1)).not.2 (by omega)
    exact (by simpa using this : t.lookup _ = none).symm

theorem Contiguous.length (h : Contiguous t tenantId incidentId n) :
    (PostgresStore.projection t tenantId incidentId).length = n := by
  rw [h.projection]
  exact (filterMap_range_spec fun m hm => (h (m + 1)).2 ⟨by omega, by omega⟩).1

theorem Contiguous.projection_congr (h : Contiguous t tenantId incidentId n)
    (heq : ∀ m, t'.lookup (.event tenantId incidentId m) = t.lookup (.event tenantId incidentId m)) :
    Contiguous t' tenantId incidentId n ∧
      PostgresStore.projection t' tenantId incidentId =
        PostgresStore.projection t tenantId incidentId := by
  have h' : Contiguous t' tenantId incidentId n := fun m => by rw [heq m]; exact h m
  refine ⟨h', ?_⟩
  rw [h'.projection, h.projection]
  simp only [heq]

/-- Inserting the next event appends it to the projection. -/
theorem Contiguous.projection_append (h : Contiguous t tenantId incidentId n) {e : IncidentEvent}
    (he : t'.lookup (.event tenantId incidentId (n + 1)) = some e) (heq : ∀ m, m ≠ n + 1 →
      t'.lookup (.event tenantId incidentId m) = t.lookup (.event tenantId incidentId m)) :
    Contiguous t' tenantId incidentId (n + 1) ∧
      PostgresStore.projection t' tenantId incidentId =
        PostgresStore.projection t tenantId incidentId ++ [e] := by
  have h' : Contiguous t' tenantId incidentId (n + 1) := by
    intro m
    by_cases hm : m = n + 1
    · subst hm
      simp [he]
    · rw [heq m hm, h m]
      omega
  refine ⟨h', ?_⟩
  rw [h'.projection, h.projection, List.range_succ, List.filterMap_append]
  congr 1
  · refine List.filterMap_congr fun m hm => heq _ ?_
    have := List.mem_range.1 hm
    omega
  · simp [he]

end Projection

/-! ### One incident -/

/-- How often an incident was cancelled. -/
def cancels (es : List IncidentEvent) : ℕ := es.countP fun e => e.eventType = .cancelRequested

/-- What holds of an incident row and the events that belong to it. -/
structure IncidentOk (t : Tables) (tenantId incidentId : String) (row : IncidentRow) : Prop where
  contiguous : Contiguous t tenantId incidentId row.eventCursor
  labelled : ∀ n e, t.lookup (.event tenantId incidentId n) = some e →
    e.incidentId = incidentId ∧ e.sequence = n
  version : row.stateVersion = cancels (projection t tenantId incidentId)
  state : (row.state = .new ∧ cancels (projection t tenantId incidentId) = 0) ∨
    (row.state = .cancelled ∧ cancels (projection t tenantId incidentId) = 1)

/-- Every incident is as described, and there are no events without an incident. -/
structure WellFormed (t : Tables) : Prop where
  present : ∀ tenantId incidentId (row : IncidentRow),
    t.lookup (.incident tenantId incidentId) = some row → IncidentOk t tenantId incidentId row
  absent : ∀ tenantId incidentId, t.lookup (.incident tenantId incidentId) = none →
    ∀ n, t.lookup (.event tenantId incidentId n) = none

theorem wellFormed_empty : WellFormed ∅ := by
  constructor
  · intro tenantId incidentId row h
    simp at h
  · intro tenantId incidentId _ n
    simp

variable {t t' : Tables}

theorem WellFormed.congr (h : WellFormed t) (hinc : ∀ tenantId incidentId,
      t'.lookup (.incident tenantId incidentId) = t.lookup (.incident tenantId incidentId))
    (hev : ∀ tenantId incidentId n,
      t'.lookup (.event tenantId incidentId n) = t.lookup (.event tenantId incidentId n)) :
    WellFormed t' where
  present tenantId incidentId row hrow := by
    rw [hinc] at hrow
    have hok := h.present _ _ _ hrow
    obtain ⟨hc, hp⟩ := hok.contiguous.projection_congr (hev tenantId incidentId)
    refine ⟨hc, fun n e he => hok.labelled n e (by rwa [hev] at he), ?_, ?_⟩
    · rw [hp]
      exact hok.version
    · rw [hp]
      exact hok.state
  absent tenantId incidentId hrow n := by
    rw [hinc] at hrow
    rw [hev]
    exact h.absent _ _ hrow n

/-- The cursor of an incident that may not exist yet. -/
def rowCursor : Option IncidentRow → ℕ
  | some row => row.eventCursor
  | none => 0

variable {e : IncidentEvent} {response : Response} {before : Option IncidentRow} {d : Draw}
  {c : Call} {after : IncidentRow}

theorem Advance.sequence (h : Advance d c before after e response) :
    e.sequence = rowCursor before + 1 ∧ after.eventCursor = e.sequence := by
  cases h <;> exact ⟨rfl, rfl⟩

variable {incidentId tenantId : String}

theorem WellFormed.contiguous (h : WellFormed t)
    (hrow : t.lookup (.incident tenantId incidentId) = before) :
    Contiguous t tenantId incidentId (rowCursor before) := by
  cases before with
  | some row => exact (h.present _ _ _ hrow).contiguous
  | none =>
    intro m
    rw [h.absent _ _ hrow m]
    simp only [rowCursor, Option.isSome_none, Bool.false_eq_true, false_iff]
    omega

theorem WellFormed.labelled (h : WellFormed t) {n : ℕ}
    (he : t.lookup (.event tenantId incidentId n) = some e) :
    e.incidentId = incidentId ∧ e.sequence = n := by
  cases hrow : t.lookup (.incident tenantId incidentId) with
  | some row => exact (h.present _ _ _ hrow).labelled n e he
  | none =>
    rw [h.absent _ _ hrow n] at he
    simp at he

theorem Appends.event_of_ne (h : Appends sha256 t t' c d response e) {n : ℕ}
    (hne : ¬ (tenantId = c.slot.1 ∧ incidentId = e.incidentId ∧ n = e.sequence)) :
    t'.lookup (.event tenantId incidentId n) = t.lookup (.event tenantId incidentId n) :=
  h.frame _ (by simp) (by simp) (by simpa using hne) (by simp) (by simp) (by simp)

theorem Appends.incident_of_ne (h : Appends sha256 t t' c d response e)
    (hne : ¬ (tenantId = c.slot.1 ∧ incidentId = e.incidentId)) :
    t'.lookup (.incident tenantId incidentId) = t.lookup (.incident tenantId incidentId) :=
  h.frame _ (by simpa using hne) (by simp) (by simp) (by simp) (by simp) (by simp)

theorem WellFormed.incidentOk_appends (h : WellFormed t) (ha : Appends sha256 t t' c d response e)
    (hrow : t.lookup (.incident c.slot.1 e.incidentId) = before)
    (hadv : Advance d c before after e response) :
    IncidentOk t' c.slot.1 e.incidentId after ∧
      projection t' c.slot.1 e.incidentId = projection t c.slot.1 e.incidentId ++ [e] := by
  obtain ⟨hseq, hcur⟩ := hadv.sequence
  have hcont := h.contiguous hrow
  have hnew := ha.numbered
  rw [hseq] at hnew
  obtain ⟨hcont', hproj⟩ := hcont.projection_append hnew fun m hm =>
    ha.event_of_ne (fun hn => hm (hn.2.2.trans hseq))
  have hproj₀ : before = none → projection t c.slot.1 e.incidentId = [] := by
    rintro rfl
    rw [hcont.projection]
    rfl
  have hcancels : cancels (projection t c.slot.1 e.incidentId ++ [e]) =
      cancels (projection t c.slot.1 e.incidentId) +
        if e.eventType = .cancelRequested then 1 else 0 := by
    simp [cancels, List.countP_append, List.countP_singleton]
  refine ⟨⟨by rwa [hcur, hseq], ?_, ?_, ?_⟩, hproj⟩
  · intro n x hx
    by_cases hn : n = e.sequence
    · subst hn
      rw [ha.numbered] at hx
      cases hx
      exact ⟨rfl, rfl⟩
    · rw [ha.event_of_ne (fun h => hn h.2.2)] at hx
      exact h.labelled hx
  · rw [hproj, hcancels]
    cases hadv with
    | create =>
      rw [hproj₀ rfl]
      rfl
    | cancel hv _ => rw [← (h.present _ _ _ hrow).version]; simp [hv, event]
    | feedback hv => rw [← (h.present _ _ _ hrow).version]; rfl
    | approval hv => rw [← (h.present _ _ _ hrow).version]; rfl
  · rw [hproj, hcancels]
    cases hadv with
    | create =>
      rw [hproj₀ rfl]
      exact Or.inl ⟨rfl, rfl⟩
    | cancel hv ht =>
      -- a cancelled incident is terminal, so this is its first cancellation
      rcases (h.present _ _ _ hrow).state with ⟨-, h₀⟩ | ⟨hst, -⟩
      · exact Or.inr ⟨rfl, by rw [h₀]; rfl⟩
      · rw [hst] at ht
        exact absurd ht (by decide)
    | feedback hv => exact (h.present _ _ _ hrow).state
    | approval hv => exact (h.present _ _ _ hrow).state

/-- **A call keeps the tables well formed.** -/
theorem WellFormed.appends (h : WellFormed t) (ha : Appends sha256 t t' c d response e) :
    WellFormed t' := by
  obtain ⟨before, after, hbefore, hafter, hadv⟩ := ha.advance
  have hok := (h.incidentOk_appends ha hbefore hadv).1
  constructor
  · intro tenantId incidentId row hrow
    by_cases hk : tenantId = c.slot.1 ∧ incidentId = e.incidentId
    · obtain ⟨rfl, rfl⟩ := hk
      rw [hafter] at hrow
      cases hrow
      exact hok
    · rw [ha.incident_of_ne hk] at hrow
      have hok := h.present _ _ _ hrow
      have hev : ∀ m, t'.lookup (.event tenantId incidentId m) =
          t.lookup (.event tenantId incidentId m) :=
        fun m => ha.event_of_ne (fun hn => hk ⟨hn.1, hn.2.1⟩)
      obtain ⟨hc, hp⟩ := hok.contiguous.projection_congr hev
      refine ⟨hc, fun n x hx => hok.labelled n x (by rwa [hev] at hx), ?_, ?_⟩
      · rw [hp]
        exact hok.version
      · rw [hp]
        exact hok.state
  · intro tenantId incidentId hrow n
    by_cases hk : tenantId = c.slot.1 ∧ incidentId = e.incidentId
    · obtain ⟨rfl, rfl⟩ := hk
      rw [hafter] at hrow
      simp at hrow
    · rw [ha.incident_of_ne hk] at hrow
      rw [ha.event_of_ne (fun hn => hk ⟨hn.1, hn.2.1⟩)]
      exact h.absent _ _ hrow n

theorem WellFormed.exec_body (h : WellFormed t) {r : Request} {a : Answer}
    (hr : exec (body sha256 r) t = (.committed a, t')) : WellFormed t' := by
  cases r with
  | call c d =>
    rcases PostgresStore.exec_body hr with ⟨row, -, -, -, rfl⟩ | ⟨response, e, -, ha⟩
    · exact h
    · exact h.appends ha
  | registerPending tenantId incidentId actionId actionDigest =>
    obtain ⟨-, -, -, rfl⟩ := exec_registerPending hr
    exact h.congr (fun _ _ => lookup_put_of_ne (by simp) _) fun _ _ _ => lookup_put_of_ne (by simp) _

variable {s : Sys}

theorem wellFormed_reachable (h : Reachable (step (body sha256)) (initial ∅) s) : WellFormed s.db :=
  db_invariant guards_body (fun _ _ _ _ ht hr => ht.exec_body hr) wellFormed_empty h

/-! ### Calls, records and events -/

/-- Connection `i` has served the call `c` afresh: it answered `response` and appended `e`. -/
def Fresh (s : Sys) (i : ℕ) (c : Call) (d : Draw) (response : Response) (e : IncidentEvent) : Prop :=
  s.txs i = .done (.call c d) (.committed (.reply (.fresh response e)))

/-- Tables that agree on incidents, on events and on the records of calls. -/
def Quiet (t t' : Tables) : Prop :=
  (∀ slot, t'.lookup (.idempotency slot) = t.lookup (.idempotency slot)) ∧
    (∀ tenantId incidentId n,
      t'.lookup (.event tenantId incidentId n) = t.lookup (.event tenantId incidentId n)) ∧
    ∀ tenantId incidentId,
      t'.lookup (.incident tenantId incidentId) = t.lookup (.incident tenantId incidentId)

theorem quiet_refl (t : Tables) : Quiet t t := ⟨fun _ => rfl, fun _ _ _ => rfl, fun _ _ => rfl⟩

variable {l : Label Request} {s' : Sys}

/-- **One move**: either no call is recorded by it, or exactly one is, with its effect. -/
theorem step_effect (hinv : Inv (body sha256) s) (hs : step (body sha256) s l = some s') :
    (Quiet s.db s'.db ∧ ∀ j c d response e, Fresh s' j c d response e ↔ Fresh s j c d response e) ∨
      ∃ i c d response e, Appends sha256 s.db s'.db c d response e ∧ Fresh s' i c d response e ∧
        (∀ j, j ≠ i → s'.txs j = s.txs j) ∧
        ∃ tx, s.txs i = .running (.call c d) tx := by
  rcases step_cases hinv hs with ⟨hdb, htxs⟩ | ⟨i, r, tx, a, hi, -, htxs, hexec⟩
  · exact Or.inl ⟨by rw [hdb]; exact quiet_refl _, fun j c d response e => htxs j _ _⟩
  -- a connection that commits something else than a fresh reply changes none of these rows
  have hother : ∀ j, (∀ c d response e, j = i → ¬ (r = .call c d ∧ a = .reply (.fresh response e))) →
      ∀ c d response e, Fresh s' j c d response e ↔ Fresh s j c d response e := by
    intro j hj c d response e
    refine ⟨fun h => ?_, (seen_of_step hs j).done⟩
    by_cases hji : j = i
    · have hne := hj c d response e hji
      subst hji
      rw [Fresh, htxs, Function.update_self] at h
      cases h
      exact absurd ⟨rfl, rfl⟩ hne
    · rwa [Fresh, htxs, Function.update_of_ne hji] at h
  cases r with
  | registerPending tenantId incidentId actionId actionDigest =>
    obtain ⟨-, -, -, hdb⟩ := exec_registerPending hexec
    refine Or.inl ⟨?_, fun j => hother j (by simp)⟩
    rw [hdb]
    exact ⟨fun _ => lookup_put_of_ne (by simp) _, fun _ _ _ => lookup_put_of_ne (by simp) _,
      fun _ _ => lookup_put_of_ne (by simp) _⟩
  | call c d =>
    rcases exec_body hexec with ⟨row, -, -, rfl, hdb⟩ | ⟨response, e, rfl, ha⟩
    · refine Or.inl ⟨?_, fun j => hother j (by simp)⟩
      rw [hdb]
      exact quiet_refl _
    · refine Or.inr ⟨i, c, d, response, e, ha, ?_, ?_, tx, hi⟩
      · rw [Fresh, htxs, Function.update_self]
      · intro j hji
        rw [htxs, Function.update_of_ne hji]

theorem lookup_idempotency_step (hinv : Inv (body sha256) s)
    (hs : step (body sha256) s l = some s') {slot : String × Operation × String}
    {row : IdempotencyRow} (hrow : s.db.lookup (.idempotency slot) = some row) :
    s'.db.lookup (.idempotency slot) = some row := by
  rcases step_effect hinv hs with ⟨⟨hid, -, -⟩, -⟩ | ⟨i, c, d, response, e, ha, -⟩
  · rw [hid, hrow]
  · rw [← hrow]
    refine ha.frame _ (by simp) ?_ (by simp) (by simp) (by simp) (by simp)
    intro hslot
    rw [Key.idempotency.injEq] at hslot
    rw [hslot, ha.unrecorded] at hrow
    exact absurd hrow (by simp)

variable (sha256) in
/-- The calls served afresh, the rows of `api_idempotency` and the events correspond one to one. -/
structure Ledger (s : Sys) : Prop where
  recorded : ∀ i c d response e, Fresh s i c d response e →
    ∃ status : ℕ, s.db.lookup (.idempotency c.slot) = some ⟨c.digest sha256, response, status⟩
  numbered : ∀ i c d response e, Fresh s i c d response e →
    s.db.lookup (.event c.slot.1 e.incidentId e.sequence) = some e
  caller : ∀ slot (row : IdempotencyRow), s.db.lookup (.idempotency slot) = some row →
    ∃ i c d response e, Fresh s i c d response e ∧ c.slot = slot
  author : ∀ tenantId incidentId n (e : IncidentEvent),
    s.db.lookup (.event tenantId incidentId n) = some e →
      ∃ i c d response, Fresh s i c d response e ∧ c.slot.1 = tenantId
  slot_inj : ∀ i j c c' d d' response response' e e', Fresh s i c d response e →
    Fresh s j c' d' response' e' → c.slot = c'.slot → i = j
  event_inj : ∀ i j c c' d d' response response' e e', Fresh s i c d response e →
    Fresh s j c' d' response' e' → c.slot.1 = c'.slot.1 → e.incidentId = e'.incidentId →
      e.sequence = e'.sequence → i = j

theorem ledger_initial : Ledger sha256 (initial ∅) := by
  constructor <;> simp [Fresh, initial]

theorem Ledger.step (h : Ledger sha256 s) (hinv : Inv (body sha256) s)
    (hs : ReadCommitted.step (body sha256) s l = some s') : Ledger sha256 s' := by
  rcases step_effect hinv hs with ⟨⟨hid, hev, -⟩, hfresh⟩ | ⟨i, c, d, response, e, ha, hi, hold, tx, -⟩
  · constructor
    · intro i c d response e hf
      rw [hid]
      exact h.recorded i c d response e ((hfresh ..).1 hf)
    · intro i c d response e hf
      rw [hev]
      exact h.numbered i c d response e ((hfresh ..).1 hf)
    · intro slot row hrow
      rw [hid] at hrow
      obtain ⟨i, c, d, response, e, hf, hslot⟩ := h.caller slot row hrow
      exact ⟨i, c, d, response, e, (hfresh ..).2 hf, hslot⟩
    · intro tenantId incidentId n e he
      rw [hev] at he
      obtain ⟨i, c, d, response, hf, ht⟩ := h.author tenantId incidentId n e he
      exact ⟨i, c, d, response, (hfresh ..).2 hf, ht⟩
    · intro i j c c' d d' r r' e e' hi hj
      exact h.slot_inj i j c c' d d' r r' e e' ((hfresh ..).1 hi) ((hfresh ..).1 hj)
    · intro i j c c' d d' r r' e e' hi hj
      exact h.event_inj i j c c' d d' r r' e e' ((hfresh ..).1 hi) ((hfresh ..).1 hj)
  -- what a recorded call left behind is still there
  have hdone : ∀ j c' d' r' e', Fresh s j c' d' r' e' → Fresh s' j c' d' r' e' :=
    fun j c' d' r' e' hj => (seen_of_step hs j).done hj
  have hslot : ∀ j c' d' r' e', Fresh s j c' d' r' e' → c'.slot ≠ c.slot := by
    intro j c' d' r' e' hj hslot
    obtain ⟨status, hrow⟩ := h.recorded j c' d' r' e' hj
    rw [hslot, ha.unrecorded] at hrow
    exact absurd hrow (by simp)
  have hkey : ∀ j c' d' r' e', Fresh s j c' d' r' e' →
      ¬ (c'.slot.1 = c.slot.1 ∧ e'.incidentId = e.incidentId ∧ e'.sequence = e.sequence) := by
    rintro j c' d' r' e' hj ⟨h₁, h₂, h₃⟩
    have hrow := h.numbered j c' d' r' e' hj
    rw [h₁, h₂, h₃, ha.unnumbered] at hrow
    exact absurd hrow (by simp)
  have hcases : ∀ j c' d' r' e', Fresh s' j c' d' r' e' → Fresh s j c' d' r' e' ∨
      (j = i ∧ c' = c ∧ d' = d ∧ r' = response ∧ e' = e) := by
    intro j c' d' r' e' hj
    by_cases hji : j = i
    · subst hji
      rw [Fresh, hi] at hj
      cases hj
      exact Or.inr ⟨rfl, rfl, rfl, rfl, rfl⟩
    · exact Or.inl ((hold j hji).symm.trans hj)
  constructor
  · intro j c' d' r' e' hj
    rcases hcases j c' d' r' e' hj with hj | ⟨rfl, rfl, rfl, rfl, rfl⟩
    · rw [ha.frame _ (by simp) (by simpa using hslot _ _ _ _ _ hj) (by simp) (by simp) (by simp)
        (by simp)]
      exact h.recorded j c' d' r' e' hj
    · exact ha.recorded
  · intro j c' d' r' e' hj
    rcases hcases j c' d' r' e' hj with hj | ⟨rfl, rfl, rfl, rfl, rfl⟩
    · rw [ha.event_of_ne (hkey _ _ _ _ _ hj)]
      exact h.numbered j c' d' r' e' hj
    · exact ha.numbered
  · intro slot row hrow
    by_cases hk : slot = c.slot
    · exact ⟨i, c, d, response, e, hi, hk.symm⟩
    · rw [ha.frame _ (by simp) (by simpa using hk) (by simp) (by simp) (by simp) (by simp)] at hrow
      obtain ⟨j, c', d', r', e', hf, hs⟩ := h.caller slot row hrow
      exact ⟨j, c', d', r', e', hdone _ _ _ _ _ hf, hs⟩
  · intro tenantId incidentId n x hx
    by_cases hk : tenantId = c.slot.1 ∧ incidentId = e.incidentId ∧ n = e.sequence
    · obtain ⟨rfl, rfl, rfl⟩ := hk
      rw [ha.numbered] at hx
      cases hx
      exact ⟨i, c, d, response, hi, rfl⟩
    · rw [ha.event_of_ne hk] at hx
      obtain ⟨j, c', d', r', hf, ht⟩ := h.author tenantId incidentId n x hx
      exact ⟨j, c', d', r', hdone _ _ _ _ _ hf, ht⟩
  · intro j k c₁ c₂ d₁ d₂ r₁ r₂ e₁ e₂ hj hk hs
    rcases hcases _ _ _ _ _ hj with hj' | ⟨rfl, rfl, -, -, -⟩ <;>
      rcases hcases _ _ _ _ _ hk with hk' | ⟨rfl, rfl, -, -, -⟩
    · exact h.slot_inj _ _ _ _ _ _ _ _ _ _ hj' hk' hs
    · exact absurd hs (hslot _ _ _ _ _ hj')
    · exact absurd hs.symm (hslot _ _ _ _ _ hk')
    · rfl
  · intro j k c₁ c₂ d₁ d₂ r₁ r₂ e₁ e₂ hj hk h₁ h₂ h₃
    rcases hcases _ _ _ _ _ hj with hj' | ⟨rfl, rfl, -, -, rfl⟩ <;>
      rcases hcases _ _ _ _ _ hk with hk' | ⟨rfl, rfl, -, -, rfl⟩
    · exact h.event_inj _ _ _ _ _ _ _ _ _ _ hj' hk' h₁ h₂ h₃
    · exact absurd ⟨h₁, h₂, h₃⟩ (hkey _ _ _ _ _ hj')
    · exact absurd ⟨h₁.symm, h₂.symm, h₃.symm⟩ (hkey _ _ _ _ _ hk')
    · rfl

/-- **In every state reached, the calls served afresh, their records and their events correspond one
to one.** -/
theorem ledger_reachable (h : Reachable (step (body sha256)) (initial ∅) s) : Ledger sha256 s := by
  have hboth : Inv (body sha256) s ∧ Ledger sha256 s := by
    refine h.invariant (I := fun s => Inv (body sha256) s ∧ Ledger sha256 s)
      ⟨inv_initial _ _, ledger_initial⟩ ?_
    rintro s l s' ⟨hinv, hl⟩ - hs
    exact ⟨inv_step guards_body hinv hs, hl.step hinv hs⟩
  exact hboth.2

/-! ### The tables in every state reached -/

variable (sha256) in
/-- Every reply that was not fresh repeats the record of the call. -/
def Replays (s : Sys) : Prop :=
  ∀ j c d response, s.txs j = .done (.call c d) (.committed (.reply (.replayed response))) →
    ∃ row : IdempotencyRow, s.db.lookup (.idempotency c.slot) = some row ∧
      row.requestDigest = c.digest sha256 ∧ row.response = response

theorem Replays.step (h : Replays sha256 s) (hinv : Inv (body sha256) s)
    (hs : ReadCommitted.step (body sha256) s l = some s') : Replays sha256 s' := by
  intro j c d response hj
  have hold : s.txs j = .done (.call c d) (.committed (.reply (.replayed response))) →
      ∃ row : IdempotencyRow, s'.db.lookup (.idempotency c.slot) = some row ∧
        row.requestDigest = c.digest sha256 ∧ row.response = response := by
    intro hj
    obtain ⟨row, hrow, hr⟩ := h j c d response hj
    exact ⟨row, lookup_idempotency_step hinv hs hrow, hr⟩
  rcases step_cases hinv hs with ⟨-, htxs⟩ | ⟨i, r, tx, a, -, -, htxs, hexec⟩
  · exact hold ((htxs j _ _).1 hj)
  · by_cases hji : j = i
    · subst hji
      rw [htxs, Function.update_self] at hj
      cases hj
      rcases exec_body hexec with ⟨row, hrow, hd, ha, hdb⟩ | ⟨response', e, ha, -⟩
      · cases ha
        exact ⟨row, by rw [hdb, hrow], hd, rfl⟩
      · cases ha
    · rw [htxs, Function.update_of_ne hji] at hj
      exact hold hj

theorem replays_reachable (h : Reachable (step (body sha256)) (initial ∅) s) :
    Replays sha256 s := by
  have hboth : Inv (body sha256) s ∧ Replays sha256 s := by
    refine h.invariant (I := fun s => Inv (body sha256) s ∧ Replays sha256 s)
      ⟨inv_initial _ _, by simp [Replays, initial]⟩ ?_
    rintro s l s' ⟨hinv, hr⟩ - hs
    exact ⟨inv_step guards_body hinv hs, hr.step hinv hs⟩
  exact hboth.2

variable (sha256) in
/-- What the tables look like from outside. -/
structure Consistent (s : Sys) : Prop where
  incidents : ∀ tenantId incidentId (row : IncidentRow),
    s.db.lookup (.incident tenantId incidentId) = some row →
      (∀ n, (s.db.lookup (.event tenantId incidentId n)).isSome ↔ 1 ≤ n ∧ n ≤ row.eventCursor) ∧
      row.stateVersion = cancels (projection s.db tenantId incidentId) ∧
      (row.state = .cancelled ↔ cancels (projection s.db tenantId incidentId) = 1)
  orphans : ∀ tenantId incidentId, s.db.lookup (.incident tenantId incidentId) = none →
    ∀ n, s.db.lookup (.event tenantId incidentId n) = none
  /-- Only a call served afresh changes these tables. -/
  effects : ∀ l s', step (body sha256) s l = some s' →
    Quiet s.db s'.db ∨ ∃ i c d response e, ¬ Fresh s i c d response e ∧ Fresh s' i c d response e
  once : ∀ i j c c' d d' response response' e e', Fresh s i c d response e →
    Fresh s j c' d' response' e' → c.slot = c'.slot → i = j
  records : ∀ slot, (s.db.lookup (.idempotency slot)).isSome ↔
    ∃ i c d response e, Fresh s i c d response e ∧ c.slot = slot
  /-- The event of a recorded call is its own, and there are no others. -/
  events : ∀ tenantId incidentId n, (s.db.lookup (.event tenantId incidentId n)).isSome ↔
    ∃! i, ∃ c d response e, Fresh s i c d response e ∧ c.slot.1 = tenantId ∧
      e.incidentId = incidentId ∧ e.sequence = n

/-- **Under every interleaving the tables stay consistent.** -/
theorem consistent_reachable {s : Sys} (h : Reachable (step (body sha256)) (initial ∅) s) :
    Consistent sha256 s := by
  have hwf := wellFormed_reachable h
  have hl := ledger_reachable h
  constructor
  · intro tenantId incidentId row hrow
    have hok := hwf.present _ _ _ hrow
    refine ⟨hok.contiguous, hok.version, ?_⟩
    rcases hok.state with ⟨hst, hc⟩ | ⟨hst, hc⟩
    · simp [hst, hc]
    · simp [hst, hc]
  · exact hwf.absent
  · intro l s' hs
    rcases step_effect (inv_reachable guards_body h) hs with
      ⟨hq, -⟩ | ⟨i, c, d, response, e, -, hi, -, tx, hrun⟩
    · exact Or.inl hq
    · refine Or.inr ⟨i, c, d, response, e, fun hf => ?_, hi⟩
      rw [Fresh, hrun] at hf
      cases hf
  · exact hl.slot_inj
  · intro slot
    constructor
    · intro hrow
      obtain ⟨row, hrow⟩ := Option.isSome_iff_exists.1 hrow
      exact hl.caller slot row hrow
    · rintro ⟨i, c, d, response, e, hf, rfl⟩
      obtain ⟨status, hrow⟩ := hl.recorded i c d response e hf
      simp [hrow]
  · intro tenantId incidentId n
    constructor
    · intro he
      obtain ⟨e, he⟩ : ∃ e : IncidentEvent,
          s.db.lookup (.event tenantId incidentId n) = some e := Option.isSome_iff_exists.1 he
      obtain ⟨rfl, rfl⟩ := hwf.labelled he
      obtain ⟨i, c, d, response, hf, rfl⟩ := hl.author _ _ _ e he
      refine ⟨i, ⟨c, d, response, e, hf, rfl, rfl, rfl⟩, ?_⟩
      rintro j ⟨c', d', response', e', hj, h₁, h₂, h₃⟩
      exact hl.event_inj _ _ _ _ _ _ _ _ _ _ hj hf h₁ h₂ h₃
    · rintro ⟨i, ⟨c, d, response, e, hf, ht, hi, hn⟩, -⟩
      subst ht hi hn
      simp [hl.numbered i c d response e hf]

/-- Two creations overlap, then two cancellations of the first incident: one of these commits, the other
one finds its version stale. -/
theorem consistent_after_overlaps : ∃ s : Sys,
    Reachable (step (body sampleSha256)) (initial ∅) s ∧ Consistent sampleSha256 s ∧
      (s.db.lookup (.event "tenant-b" "inc_9" 1)).isSome ∧
      (s.db.lookup (.event "tenant-a" "inc_7" 2)).isSome ∧
      (s.txs 3).answer = some (.call (.cancel "tenant-a" "inc_7" "key-3" 0) {}, .raised .stateConflict) := by
  let create (tenantId uuid : String) : Request :=
    .call (.create tenantId "key-1" sampleCreate) { uuid := uuid }
  let cancel (key : String) : Request := .call (.cancel "tenant-a" "inc_7" key 0) {}
  obtain ⟨s, hs, hp⟩ := exists_reachable_of_test (step (body sampleSha256))
    (p := fun s : Sys => decide ((s.db.lookup (.event "tenant-b" "inc_9" 1)).isSome ∧
      (s.db.lookup (.event "tenant-a" "inc_7" 2)).isSome ∧
      (s.txs 3).answer = some (cancel "key-3", .raised .stateConflict))) (a := initial ∅)
    ([.start 0 (create "tenant-a" "7"), .exec 0, .start 1 (create "tenant-b" "9"), .exec 0, .exec 1,
      .exec 0, .exec 1, .exec 1, .exec 0, .exec 1, .exec 0, .exec 0, .exec 1, .exec 1,
      .start 2 (cancel "key-2"), .exec 2, .start 3 (cancel "key-3"), .exec 3] ++
      List.replicate 6 (.exec 2) ++ [.exec 3, .exec 3]) (by decide +kernel)
  exact ⟨s, hs, consistent_reachable hs, of_decide_eq_true hp⟩

end PostgresStore
