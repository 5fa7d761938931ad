/-
**The durable store against its reference: runs.**

The reads of the two stores, and the result for whole runs: from the empty stores, two runs of the
same operations give the same answers if and only if every operation meets the condition `Agrees` in
the state in which the reference serves it.

Main results:

* `StoreRefinement.agree_step` — related stores answer an operation alike exactly under the
  condition, and are related again;
* `StoreRefinement.agree_iff` — **two runs agree if and only if every operation meets the
  condition**.
-/

import FaultWitness.StoreCalls

set_option autoImplicit false

namespace StoreRefinement

open Incidents Python ReadCommitted

variable {cfg : MemoryStore.Config} {sha256 : String → String}

/-! ### Reads -/

section Step

variable {used : List String} {m : MemoryStore.Store} {t : PostgresStore.Tables}
  {incidentId tenantId : String} {f : IncidentEvent} {last : Option String}

theorem agree_get (h : Rel used m t) (tenantId incidentId : String) :
    (serve cfg sha256 m (.get tenantId incidentId)).2 =
        (serveDurable sha256 t (.get tenantId incidentId)).2 ↔
      Agrees cfg m (.get tenantId incidentId) := by
  simp only [serve, serveDurable, MemoryStore.get, PostgresStore.get, Agrees]
  cases hown : MemoryStore.owned m tenantId incidentId with
  | none =>
    obtain ⟨hrow, hev⟩ := h.absent _ _ hown
    cases hst : storable tenantId && storable incidentId with
    | false => simp [ofGet, classOf]
    | true => simp [ofGet, hrow, hev]
  | some incident =>
    obtain ⟨row, hrow, hsame⟩ := h.present _ _ _ hown
    obtain ⟨k, hk, -, hiff⟩ := hsame.cursor
    rw [hsame.texts, if_pos rfl, hrow]
    simp only [ofGet, Output.snapshot.injEq, true_and]
    rw [← hiff]
    constructor
    · intro heq
      have := congrArg IncidentSnapshot.eventCursor heq
      rw [hk] at this
      exact str_injective this
    · rintro rfl
      have hs : incident.snapshot = PostgresStore.snapshot incidentId row := by
        cases hsnap : incident.snapshot
        simp only [PostgresStore.snapshot, IncidentSnapshot.mk.injEq]
        have h₁ := hsame.named
        have h₂ := hsame.state
        have h₃ := hsame.stateVersion
        have h₅ := hsame.unreported
        rw [hsnap] at hk h₁ h₂ h₃ h₅
        exact ⟨h₁, h₂, h₃, hk, h₅.1.trans h₅.2.symm⟩
      exact hs

/-- Lists that agree up to `strip` are equal when none of their events is feedback. -/
theorem eq_map_strip_iff {es : List IncidentEvent}
    (hmark : ∀ e ∈ es, strip e = e ↔ e.eventType ≠ .feedbackRecorded) :
    es = es.map strip ↔ ∀ e ∈ es, e.eventType ≠ .feedbackRecorded := by
  nth_rewrite 1 [← List.map_id es]
  rw [List.map_inj_left]
  refine forall₂_congr fun e he => ?_
  rw [← hmark e he, id, eq_comm]

/-- What the durable store replays, in terms of the window of the reference. -/
theorem Rel.replayRows (h : Rel used m t) {c : ℕ}
    (hf : (m.events (tenantId, incidentId)).head? = some f) :
    (f.sequence ≤ c + 1 → PostgresStore.replayRows t tenantId incidentId c =
        ((m.events (tenantId, incidentId)).filter fun e => c < e.sequence).map strip) ∧
      (c + 1 < f.sequence → ∃ x ∈ PostgresStore.replayRows t tenantId incidentId c,
        x.sequence < f.sequence) := by
  obtain ⟨pre, hpre⟩ := h.window tenantId incidentId
  have hnum : ∀ i e, (PostgresStore.projection t tenantId incidentId)[i]? = some e →
      e.sequence = i + 1 := by
    intro i e he
    rw [h.getElem?] at he
    exact (h.wellFormed.labelled he).2
  obtain ⟨rest, hrest⟩ : ∃ rest, m.events (tenantId, incidentId) = f :: rest := by
    cases hev : m.events (tenantId, incidentId) with
    | nil => simp [hev] at hf
    | cons x rest =>
      rw [hev] at hf
      cases hf
      exact ⟨rest, rfl⟩
  have hfseq : f.sequence = pre.length + 1 := by
    have := hnum pre.length (strip f) (by
      rw [← hpre, List.getElem?_append_right le_rfl, Nat.sub_self, hrest]
      rfl)
    rwa [strip_sequence] at this
  constructor
  · intro hle
    have hdrop : pre.filter (fun e => decide (c < e.sequence)) = [] := by
      rw [List.filter_eq_nil_iff]
      intro e he
      obtain ⟨i, hi, rfl⟩ := List.getElem_of_mem he
      have := hnum i pre[i] (by
        rw [← hpre, List.getElem?_append_left hi]
        exact List.getElem?_eq_getElem hi)
      simp only [decide_eq_true_eq]
      omega
    rw [PostgresStore.replayRows, ← hpre, List.filter_append, hdrop, List.nil_append,
      List.filter_map]
    congr 2
    funext e
    simp
  · intro hlt
    have hc : c < pre.length := by omega
    refine ⟨pre[c], ?_, ?_⟩
    · refine List.mem_filter.2 ⟨?_, ?_⟩
      · rw [← hpre]
        exact List.mem_append_left _ (List.getElem_mem hc)
      · have := hnum c pre[c] (by
          rw [← hpre, List.getElem?_append_left hc]
          exact List.getElem?_eq_getElem hc)
        simp only [decide_eq_true_eq]
        omega
    · have := hnum c pre[c] (by
        rw [← hpre, List.getElem?_append_left hc]
        exact List.getElem?_eq_getElem hc)
      omega

theorem Rel.replayEarliest (h : Rel used m t) (tenantId incidentId : String) (c : ℕ) :
    PostgresStore.replayEarliest t tenantId incidentId c = .ok () := by
  unfold PostgresStore.replayEarliest
  split
  · rename_i e he
    rw [List.head?_eq_getElem?, h.getElem?] at he
    have := (h.wellFormed.labelled he).2
    rw [if_neg (by omega)]
  · rfl

theorem Rel.head_le (h : Rel used m t) {x : IncidentEvent}
    (hf : (m.events (tenantId, incidentId)).head? = some f)
    (hx : x ∈ m.events (tenantId, incidentId)) : f.sequence ≤ x.sequence := by
  obtain ⟨pre, hpre⟩ := h.window tenantId incidentId
  have hnum : ∀ i e, (m.events (tenantId, incidentId))[i]? = some e →
      e.sequence = pre.length + i + 1 := by
    intro i e he
    have hat : (PostgresStore.projection t tenantId incidentId)[pre.length + i]? = some (strip e) := by
      rw [← hpre, List.getElem?_append_right (by omega), Nat.add_sub_cancel_left,
        List.getElem?_map, he]
      rfl
    rw [h.getElem?] at hat
    have := (h.wellFormed.labelled hat).2
    rwa [strip_sequence] at this
  rw [List.head?_eq_getElem?] at hf
  obtain ⟨i, hi⟩ := List.mem_iff_getElem?.1 hx
  rw [hnum 0 f hf, hnum i x hi]
  omega

theorem Rel.replay_iff (h : Rel used m t) {c : ℕ}
    (hf : (m.events (tenantId, incidentId)).head? = some f) :
    ((m.events (tenantId, incidentId)).filter fun e => c < e.sequence) =
        PostgresStore.replayRows t tenantId incidentId c ↔
      f.sequence ≤ c + 1 ∧ ∀ e ∈ m.events (tenantId, incidentId), c < e.sequence →
        e.eventType ≠ .feedbackRecorded := by
  obtain ⟨hsame, hgap⟩ := h.replayRows (c := c) hf
  have hmark : ∀ e ∈ (m.events (tenantId, incidentId)).filter fun e => c < e.sequence,
      strip e = e ↔ e.eventType ≠ .feedbackRecorded :=
    fun e he => h.marked _ e (List.mem_filter.1 he).1
  by_cases hle : f.sequence ≤ c + 1
  · rw [hsame hle, eq_map_strip_iff hmark]
    simp [hle, List.mem_filter]
  · obtain ⟨x, hx, hlt⟩ := hgap (by omega)
    refine iff_of_false (fun heq => ?_) fun hand => hle hand.1
    rw [← heq] at hx
    have := h.head_le hf (List.mem_filter.1 hx).1
    omega

theorem cursor_error {err : StoreError} (h : PostgresStore.cursor last = .error err) :
    err = .cursorError := by
  unfold PostgresStore.cursor at h
  split at h <;> cases h <;> rfl

theorem cursor_some {text : String} (ht : text ≠ "") :
    PostgresStore.cursor (some text) = match intParse text with
      | none => .error .cursorError
      | some (.ofNat n) => .ok n
      | some (.negSucc _) => .error .cursorError := by
  unfold PostgresStore.cursor
  split
  · rename_i hn
    split at hn
    · cases hn
    · cases hn
    · rename_i heq
      cases heq
      rw [hn]
  · rename_i n hn
    split at hn
    · rename_i heq
      cases heq
    · rename_i heq
      exact absurd (Option.some.inj heq) ht
    · rename_i heq
      cases heq
      rw [hn]
  · rename_i n hn
    split at hn
    · cases hn
    · cases hn
    · rename_i heq
      cases heq
      rw [hn]

theorem replay_reference {text : String} {incident : MemoryStore.Incident}
    (hown : MemoryStore.owned m tenantId incidentId = some incident) {c : ℕ}
    (hparse : intParse text = some (.ofNat c)) {x : IncidentEvent}
    (hlast : (m.events (tenantId, incidentId)).getLast? = some x)
    (hhead : (m.events (tenantId, incidentId)).head? = some f) :
    MemoryStore.replay m tenantId incidentId (some text) =
      if x.sequence < c then .error .cursorError
      else if c + 1 < f.sequence then .error (.retentionGap (str f.sequence))
      else .ok ((m.events (tenantId, incidentId)).filter fun e => c < e.sequence) := by
  simp only [MemoryStore.replay, hown, hparse, hlast, hhead, Option.any_some, Int.ofNat_eq_natCast,
    Int.ofNat_lt, decide_eq_true_eq]
  by_cases hlt : x.sequence < c
  · rw [if_pos (Or.inr hlt), if_pos hlt]
  · rw [if_neg (by omega), if_neg hlt]
    by_cases hgap : c + 1 < f.sequence
    · rw [if_pos (by omega), if_pos hgap]
    · rw [if_neg (by omega), if_neg hgap]

theorem Rel.replay_durable (h : Rel used m t)
    (htexts : (storable tenantId && storable incidentId) = true) {row : PostgresStore.IncidentRow}
    (hrow : t.lookup (.incident tenantId incidentId) = some row) {c : ℕ}
    (hc : PostgresStore.cursor last = .ok c) :
    PostgresStore.replay t tenantId incidentId last =
      if row.eventCursor < c then .error .cursorError
      else .ok (PostgresStore.replayRows t tenantId incidentId c) := by
  simp only [PostgresStore.replay, hc, PostgresStore.replayCursor, htexts, if_true, hrow]
  by_cases hlt : row.eventCursor < c
  · simp [hlt]
  · simp [hlt, h.replayEarliest]

theorem ofReplay_of_cursor_error {t : PostgresStore.Tables}
    (hc : PostgresStore.cursor last = .error .cursorError) :
    ofReplay (PostgresStore.replay t tenantId incidentId last) = .raised .cursorError := by
  simp [PostgresStore.replay, hc, ofReplay, classOf]

theorem Rel.sequence_pos (h : Rel used m t)
    (hhead : (m.events (tenantId, incidentId)).head? = some f) : 0 < f.sequence := by
  obtain ⟨pre, hpre⟩ := h.window tenantId incidentId
  have hmem : strip f ∈ PostgresStore.projection t tenantId incidentId := by
    rw [← hpre]
    exact List.mem_append_right _ (List.mem_map_of_mem (List.mem_of_head? hhead))
  obtain ⟨i, hi⟩ := List.mem_iff_getElem?.1 hmem
  rw [h.getElem?] at hi
  have hlabel := (h.wellFormed.labelled hi).2
  rw [strip_sequence] at hlabel
  omega

theorem agree_replay_absent (h : Rel used m t)
    (hown : MemoryStore.owned m tenantId incidentId = none) (last : Option String) :
    (serve cfg sha256 m (.replay tenantId incidentId last)).2 =
        (serveDurable sha256 t (.replay tenantId incidentId last)).2 ↔
      Agrees cfg m (.replay tenantId incidentId last) := by
  obtain ⟨hrow, -⟩ := h.absent _ _ hown
  simp only [serve, serveDurable, Agrees, MemoryStore.replay, hown]
  cases hc : PostgresStore.cursor last with
  | error err =>
    cases cursor_error hc
    rw [ofReplay_of_cursor_error hc]
    simp [ofReplay, classOf]
  | ok c =>
    simp only [PostgresStore.replay, hc, PostgresStore.replayCursor, hrow]
    cases hst : storable tenantId && storable incidentId with
    | false => simp [ofReplay, classOf]
    | true => simp [ofReplay]

theorem agree_replay (h : Rel used m t) (tenantId incidentId : String) (last : Option String) :
    (serve cfg sha256 m (.replay tenantId incidentId last)).2 =
        (serveDurable sha256 t (.replay tenantId incidentId last)).2 ↔
      Agrees cfg m (.replay tenantId incidentId last) := by
  cases hown : MemoryStore.owned m tenantId incidentId with
  | none => exact agree_replay_absent h hown last
  | some incident =>
    simp only [serve, serveDurable, Agrees, hown]
    obtain ⟨row, hrow, hsame⟩ := h.present _ _ _ hown
    have hlast := List.getLast?_eq_some_getLast hsame.nonempty
    have hseq := h.getLast? hrow hlast
    have hhead := List.head?_eq_some_head hsame.nonempty
    generalize (m.events (tenantId, incidentId)).getLast hsame.nonempty = x at hlast hseq
    generalize (m.events (tenantId, incidentId)).head hsame.nonempty = f at hhead
    simp only [hlast, hhead, Option.mem_def, Option.some.injEq, forall_eq']
    -- a cursor within the log, on both sides
    have hlists : ∀ c : ℕ, PostgresStore.cursor last = .ok c →
        (Output.events ((m.events (tenantId, incidentId)).filter fun e => c < e.sequence) =
          .events (PostgresStore.replayRows t tenantId incidentId c) ↔
        ∀ c', PostgresStore.cursor last = .ok c' → c' ≤ x.sequence → f.sequence ≤ c' + 1 ∧
          ∀ e ∈ m.events (tenantId, incidentId), c' < e.sequence →
            e.eventType ≠ .feedbackRecorded) ∨ x.sequence < c := by
      intro c hc
      by_cases hle : c ≤ x.sequence
      · refine Or.inl ?_
        rw [Output.events.injEq, h.replay_iff hhead]
        constructor
        · intro hand c' hc' _
          rw [hc] at hc'
          cases hc'
          exact hand
        · exact fun hall => hall c hc hle
      · exact Or.inr (by omega)
    cases last with
    | none =>
      have hc : PostgresStore.cursor none = .ok 0 := rfl
      have hall : (m.events (tenantId, incidentId)).filter (fun e => 0 < e.sequence) =
          m.events (tenantId, incidentId) := by
        rw [List.filter_eq_self]
        intro e he
        have hpos := h.sequence_pos hhead
        have := h.head_le hhead he
        simp only [decide_eq_true_eq]
        omega
      rw [h.replay_durable hsame.texts hrow hc, if_neg (by omega)]
      simp only [MemoryStore.replay, hown, ofReplay]
      have := (hlists 0 hc).resolve_right (by omega)
      rw [hall] at this
      rw [this]
      simp
    | some text =>
      by_cases ht : text = ""
      · subst ht
        have hc : PostgresStore.cursor (some "") = .ok 0 := rfl
        rw [h.replay_durable hsame.texts hrow hc, if_neg (by omega)]
        simp [MemoryStore.replay, hown, ofReplay]
      · have hcur := cursor_some ht
        cases hparse : intParse text with
        | none =>
          rw [hparse] at hcur
          rw [ofReplay_of_cursor_error hcur]
          simp [MemoryStore.replay, hown, hparse, ofReplay, classOf, hcur, ht]
        | some z =>
          cases z with
          | negSucc n =>
            rw [hparse] at hcur
            rw [ofReplay_of_cursor_error hcur]
            simp [MemoryStore.replay, hown, hparse, ofReplay, classOf, hcur, ht]
          | ofNat c =>
            rw [hparse] at hcur
            rw [h.replay_durable hsame.texts hrow hcur, replay_reference hown hparse hlast hhead,
              hseq]
            rw [hseq] at hlists
            by_cases hlt : row.eventCursor < c
            · rw [if_pos hlt, if_pos hlt]
              refine iff_of_true rfl ⟨by simp [ht], fun c' hc' hle => ?_⟩
              rw [hcur] at hc'
              cases hc'
              omega
            · rw [if_neg hlt, if_neg hlt]
              have hiff := (hlists c hcur).resolve_right hlt
              by_cases hgap : c + 1 < f.sequence
              · rw [if_pos hgap]
                refine iff_of_false (by simp [ofReplay]) fun hand => ?_
                have := (hand.2 c hcur (by omega)).1
                omega
              · rw [if_neg hgap]
                simp only [ofReplay]
                rw [hiff]
                simp [ht]

variable (cfg sha256) in
/-- **Related stores answer an operation alike exactly under the condition, and are related
again.** -/
theorem agree_step (h : Rel used m t) (op : Op)
    (hdrawn : ∀ u ∈ op.drawn, u ∉ used ∧ storable u = true) :
    ((serve cfg sha256 m op).2 = (serveDurable sha256 t op).2 ↔ Agrees cfg m op) ∧
      (Agrees cfg m op → Rel (drawnBy used op) (serve cfg sha256 m op).1
        (serveDurable sha256 t op).1) := by
  cases op with
  | call c d => exact agree_call h hdrawn
  | get tenantId incidentId => exact ⟨agree_get h tenantId incidentId, fun _ => h.drawnBy _⟩
  | replay tenantId incidentId last =>
    exact ⟨agree_replay h tenantId incidentId last, fun _ => h.drawnBy _⟩

end Step

/-! ### Runs -/

theorem Rel.agree_all_iff {used : List String} {m : MemoryStore.Store} {t : PostgresStore.Tables}
    (h : Rel used m t) {ops : List Op} (hnodup : (ops.filterMap Op.drawn).Nodup)
    (hdrawn : ∀ u ∈ ops.filterMap Op.drawn, u ∉ used ∧ storable u = true) :
    Agree cfg sha256 m t ops ↔ Meets cfg sha256 m ops := by
  induction ops generalizing used m t with
  | nil => exact Iff.rfl
  | cons op ops ih =>
    have hmem : ∀ u ∈ op.drawn, u ∈ (op :: ops).filterMap Op.drawn := by
      intro u hu
      exact List.mem_filterMap.2 ⟨op, List.mem_cons_self, hu⟩
    have hmem' : ∀ u ∈ ops.filterMap Op.drawn, u ∈ (op :: ops).filterMap Op.drawn := by
      intro u hu
      obtain ⟨op', hop, hu⟩ := List.mem_filterMap.1 hu
      exact List.mem_filterMap.2 ⟨op', List.mem_cons_of_mem _ hop, hu⟩
    obtain ⟨hiff, hrel⟩ := agree_step cfg sha256 h op
      fun u hu => hdrawn u (hmem u hu)
    have hnodup' : (ops.filterMap Op.drawn).Nodup ∧
        ∀ u ∈ op.drawn, u ∉ ops.filterMap Op.drawn := by
      cases hop : op.drawn with
      | none =>
        rw [List.filterMap_cons_none hop] at hnodup
        exact ⟨hnodup, by simp⟩
      | some u =>
        rw [List.filterMap_cons_some hop, List.nodup_cons] at hnodup
        exact ⟨hnodup.2, by simpa using hnodup.1⟩
    simp only [Agree, Meets, hiff]
    refine and_congr_right fun hagrees => ih (hrel hagrees) hnodup'.1 fun u hu => ⟨?_, ?_⟩
    · intro hused
      rcases List.mem_append.1 hused with hop | hused
      · exact hnodup'.2 u (Option.mem_toList.1 hop) hu
      · exact (hdrawn u (hmem' u hu)).1 hused
    · exact (hdrawn u (hmem' u hu)).2

/-- **Two runs from the empty stores, with the same fresh identifiers and the same clock, agree if
and only if every operation meets the condition.** -/
theorem agree_iff (cfg : MemoryStore.Config) (sha256 : String → String) (ops : List Op)
    (hnodup : (ops.filterMap Op.drawn).Nodup)
    (hstorable : ∀ u ∈ ops.filterMap Op.drawn, storable u = true) :
    Agree cfg sha256 {} ∅ ops ↔ Meets cfg sha256 {} ops :=
  rel_initial.agree_all_iff hnodup fun u hu => ⟨by simp, hstorable u hu⟩

instance decidableAgree (cfg : MemoryStore.Config) (sha256 : String → String) :
    ∀ m t ops, Decidable (Agree cfg sha256 m t ops)
  | _, _, [] => isTrue trivial
  | m, t, op :: ops =>
    @instDecidableAnd _ _ (inferInstanceAs (Decidable (_ = _)))
      (decidableAgree cfg sha256 (serve cfg sha256 m op).1 (serveDurable sha256 t op).1 ops)

/-- An incident that is created, cancelled and read. -/
def cancelled : List Op :=
  [.call (.create "tenant-a" "key-1" sampleCreate) { uuid := "7" },
    .call (.cancel "tenant-a" "inc_7" "key-2" 0) {}, .get "tenant-a" "inc_7",
    .replay "tenant-a" "inc_7" none]

theorem agree_cancelled : Agree {} sampleSha256 {} ∅ cancelled ∧ Meets {} sampleSha256 {} cancelled := by
  have h : Agree {} sampleSha256 {} ∅ cancelled := by decide +kernel
  exact ⟨h, (agree_iff {} sampleSha256 cancelled (by decide) (by decide)).1 h⟩

/-- After feedback the snapshots of the two stores have different cursors. -/
theorem not_agree_feedback : ¬ Agree {} sampleSha256 {} ∅
    [.call (.create "tenant-a" "key-1" sampleCreate) { uuid := "7" },
      .call (.feedback "tenant-a" "user-b" "inc_7" "key-2" sampleFeedback) { uuid := "8" },
      .get "tenant-a" "inc_7"] := by
  decide +kernel

end StoreRefinement
