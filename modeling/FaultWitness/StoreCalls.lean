/-
**The durable store against its reference: the calls.**

What each store does with a call, as a function of the state of the reference alone: a call whose
key is recorded is answered from the record; otherwise it may fail on a text, be refused, or append.
Put side by side, the two stores answer a call alike exactly under the condition `Agrees`.

Main results:

* `StoreRefinement.agree_call` — related stores answer a call alike exactly under the condition, and
  are related again.
-/

import FaultWitness.StoreRelation

set_option autoImplicit false

namespace StoreRefinement

open Incidents Python ReadCommitted

variable {cfg : MemoryStore.Config} {sha256 : String → String}

/-! ### Transactions that run alone -/

section Exec

variable {t : PostgresStore.Tables} {slot : String × Operation × String}
  {fresh next : PostgresStore.Block} {digest tenantId : String} {p : PostgresStore.Block}
  {documents : List Json} {texts : List String} {incidentId : String}

theorem exec_stmt_of (h : (texts.all storable && documents.all Json.nulFree) = true) :
    exec (PostgresStore.stmt texts documents p) t = exec p t := by
  rw [PostgresStore.stmt, if_pos h]

theorem exec_stmt_not (h : (texts.all storable && documents.all Json.nulFree) = false) :
    exec (PostgresStore.stmt texts documents p) t = (.raised .dataError, t) := by
  rw [PostgresStore.stmt, h]
  rfl

theorem exec_idempotent_not (h : (storable slot.1 && storable slot.2.2) = false) :
    exec (PostgresStore.idempotent slot digest fresh) t = (.raised .dataError, t) :=
  exec_stmt_not (by simpa using h)

theorem exec_idempotent_some (h : (storable slot.1 && storable slot.2.2) = true)
    {row : PostgresStore.IdempotencyRow} (hrow : t.lookup (.idempotency slot) = some row) :
    exec (PostgresStore.idempotent slot digest fresh) t =
      (if row.requestDigest ≠ digest then .raised .idempotencyConflict
        else .committed (.reply (.replayed row.response)), t) := by
  rw [PostgresStore.idempotent, exec_stmt_of (by simpa using h), exec, hrow, PostgresStore.recordedOr]
  split <;> rfl

theorem exec_idempotent_none (slot : String × Operation × String)
    (h : (storable slot.1 && storable slot.2.2) = true)
    (hrow : t.lookup (.idempotency slot) = none) :
    exec (PostgresStore.idempotent slot digest fresh) t = exec fresh t := by
  rw [PostgresStore.idempotent, exec_stmt_of (by simpa using h), exec, hrow, PostgresStore.recordedOr]

theorem exec_lockIncident_some {next : PostgresStore.IncidentRow → PostgresStore.Block}
    (h : (storable tenantId && storable incidentId) = true) {row : PostgresStore.IncidentRow}
    (hrow : t.lookup (.incident tenantId incidentId) = some row) :
    exec (PostgresStore.lockIncident tenantId incidentId next) t = exec (next row) t := by
  rw [PostgresStore.lockIncident, exec_stmt_of (by simpa using h), exec, hrow]

theorem exec_lockIncident_none {next : PostgresStore.IncidentRow → PostgresStore.Block}
    (h : (storable tenantId && storable incidentId) = true)
    (hrow : t.lookup (.incident tenantId incidentId) = none) :
    exec (PostgresStore.lockIncident tenantId incidentId next) t = (.raised .incidentNotFound, t) := by
  rw [PostgresStore.lockIncident, exec_stmt_of (by simpa using h), exec, hrow, exec]

theorem exec_insert_of {k : PostgresStore.Key} {v : PostgresStore.Row k} (hk : t.lookup k = none) :
    exec (.insert k v next) t = exec next (put t k (some v)) := by
  rw [exec, hk]

theorem exec_insertEvent_of {e : IncidentEvent}
    (hst : (storable tenantId && storable e.incidentId) = true) (hid : storable e.eventId = true)
    (hpay : Json.nulFreeFields e.payload = true)
    (hev : t.lookup (.event tenantId e.incidentId e.sequence) = none)
    (hun : t.lookup (.eventId e.eventId) = none) :
    exec (PostgresStore.insertEvent tenantId e next) t =
      exec next (put (put t (.event tenantId e.incidentId e.sequence) (some e))
        (.eventId e.eventId) (some ())) := by
  rw [Bool.and_eq_true] at hst
  rw [PostgresStore.insertEvent, exec_stmt_of (by simp [hst, hid, Json.nulFree, hpay]),
    exec_insert_of hev, exec_insert_of (by rw [lookup_put_of_ne (by simp), hun])]

theorem exec_updateIncident_of {f : PostgresStore.IncidentRow → PostgresStore.IncidentRow}
    (row : PostgresStore.IncidentRow) (hrow : t.lookup (.incident tenantId incidentId) = some row) :
    exec (PostgresStore.updateIncident tenantId incidentId f next) t =
      exec next (put t (.incident tenantId incidentId) (some (f row))) := by
  rw [PostgresStore.updateIncident, exec, hrow]
  rfl

theorem exec_saveIdempotency_of {response : Response} {status : ℕ} {e : IncidentEvent}
    (hst : (storable slot.1 && storable slot.2.2) = true)
    (hresponse : (PostgresStore.responseTexts response).all storable = true)
    (hrow : t.lookup (.idempotency slot) = none) :
    ∃ t' response' e', exec (PostgresStore.saveIdempotency slot digest response status e) t =
      (.committed (.reply (.fresh response' e')), t') := by
  rw [Bool.and_eq_true] at hst
  rw [PostgresStore.saveIdempotency,
    exec_stmt_of (by simpa [hst] using hresponse), exec_insert_of hrow]
  exact ⟨_, _, _, rfl⟩

end Exec

/-! ### Calls that are not recorded -/

section Calls

variable {used : List String} {m : MemoryStore.Store} {t : PostgresStore.Tables} {d : Draw}
  {c : Call} {err : StoreError}

variable (cfg sha256 d) in
theorem perform_refused (h : Rel used m t) (hun : m.idempotency c.slot = none)
    (hr : refusal m c = some err) : MemoryStore.perform cfg sha256 m c d = (m, .error err) := by
  cases c with
  | create tenantId key request => simp [refusal] at hr
  | cancel tenantId incidentId key version =>
    simp only [refusal] at hr
    simp only [MemoryStore.perform, MemoryStore.cancel, MemoryStore.idempotent, hun]
    cases hown : MemoryStore.owned m tenantId incidentId with
    | none =>
      rw [hown] at hr
      cases hr
      rfl
    | some incident =>
      simp only [hown] at hr
      split at hr
      · rename_i hcond
        cases hr
        by_cases hv : incident.snapshot.stateVersion = version
        · simp [hv, hcond.resolve_left (not_not.2 hv)]
        · simp [hv]
      · cases hr
  | feedback tenantId userId incidentId key request =>
    simp only [refusal] at hr
    simp only [MemoryStore.perform, MemoryStore.feedback, MemoryStore.idempotent, hun]
    cases hown : MemoryStore.owned m tenantId incidentId with
    | none =>
      rw [hown] at hr
      cases hr
      rfl
    | some incident =>
      simp only [hown] at hr
      split at hr
      · rename_i hcond
        cases hr
        simp [hcond]
      · cases hr
  | approval tenantId incidentId key request =>
    simp only [refusal] at hr
    simp only [MemoryStore.perform, MemoryStore.approval, MemoryStore.idempotent, hun]
    cases hown : MemoryStore.owned m tenantId incidentId with
    | none =>
      rw [hown] at hr
      cases hr
      rfl
    | some incident =>
      obtain ⟨row, -, hsame⟩ := h.present _ _ _ hown
      simp only [hown] at hr
      split at hr
      · rename_i hcond
        cases hr
        simp [hcond]
      · rename_i hcond
        cases hr
        simp [not_not.1 hcond, hsame.unpending]

variable (cfg) in
/-- Appending in the reference fails exactly when its retention drops the event at once. -/
theorem appendLocked_keeps (m : MemoryStore.Store) (tenantId incidentId : String)
    (eventType : EventType) (payload : List (String × Json)) (d : Draw) :
    (keeps cfg (m.events (tenantId, incidentId)) d = false ∧
        ∃ m', MemoryStore.appendLocked cfg m tenantId incidentId eventType payload d =
          (m', .error .indexError)) ∨
      (keeps cfg (m.events (tenantId, incidentId)) d = true ∧
        ∃ m' e, MemoryStore.appendLocked cfg m tenantId incidentId eventType payload d =
          (m', .ok e)) := by
  rw [← prune_isSome (m.events (tenantId, incidentId)) d
    (e := event incidentId (MemoryStore.nextSequence (m.events (tenantId, incidentId))) eventType
      payload d) rfl]
  simp only [MemoryStore.appendLocked]
  cases MemoryStore.prune cfg.retentionCount (d.prunedAt - cfg.retentionAge)
      (m.events (tenantId, incidentId) ++ [event incidentId
        (MemoryStore.nextSequence (m.events (tenantId, incidentId))) eventType payload d]) with
  | none => exact Or.inl ⟨rfl, _, rfl⟩
  | some kept => exact Or.inr ⟨rfl, _, _, rfl⟩

variable (cfg sha256 d) in
/-- The reference appends, unless its retention drops the event at once. -/
theorem perform_appends (hun : m.idempotency c.slot = none) (hr : refusal m c = none) :
    (keeps cfg (m.events (subject d c)) d = false ∧
        (MemoryStore.perform cfg sha256 m c d).2 = .error .indexError) ∨
      (keeps cfg (m.events (subject d c)) d = true ∧
        ∃ m' response e, MemoryStore.perform cfg sha256 m c d = (m', .ok (.fresh response e))) := by
  cases c with
  | create tenantId key request =>
    simp only [MemoryStore.perform, MemoryStore.create, MemoryStore.idempotent, hun]
    rcases appendLocked_keeps cfg (MemoryStore.setIncident m ("inc_" ++ d.uuid) _) tenantId
      ("inc_" ++ d.uuid) .created createdPayload d with ⟨hk, m', ha⟩ | ⟨hk, m', e, ha⟩
    · exact Or.inl ⟨hk, by rw [ha]⟩
    · exact Or.inr ⟨hk, by rw [ha]; exact ⟨_, _, _, rfl⟩⟩
  | cancel tenantId incidentId key version =>
    simp only [refusal] at hr
    simp only [MemoryStore.perform, MemoryStore.cancel, MemoryStore.idempotent, hun]
    cases hown : MemoryStore.owned m tenantId incidentId with
    | none => simp [hown] at hr
    | some incident =>
      simp only [hown] at hr
      split at hr
      · cases hr
      rename_i hcond
      simp only [ne_eq, not_or, not_not, Bool.not_eq_true] at hcond
      simp only [hcond, ne_eq, not_true_eq_false, if_false, Bool.false_eq_true]
      rcases appendLocked_keeps cfg m tenantId incidentId .cancelRequested [] d with
        ⟨hk, m', ha⟩ | ⟨hk, m', e, ha⟩
      · exact Or.inl ⟨hk, by rw [ha]⟩
      · exact Or.inr ⟨hk, by rw [ha]; exact ⟨_, _, _, rfl⟩⟩
  | feedback tenantId userId incidentId key request =>
    simp only [refusal] at hr
    simp only [MemoryStore.perform, MemoryStore.feedback, MemoryStore.idempotent, hun]
    cases hown : MemoryStore.owned m tenantId incidentId with
    | none => simp [hown] at hr
    | some incident =>
      simp only [hown] at hr
      split at hr
      · cases hr
      rename_i hcond
      simp only [not_not.1 hcond, ne_eq, not_true_eq_false, if_false]
      rcases appendLocked_keeps cfg m tenantId incidentId .feedbackRecorded
        (MemoryStore.feedbackPayload ⟨"feedback_" ++ d.uuid, d.acceptedAt⟩ request userId) d with
        ⟨hk, m', ha⟩ | ⟨hk, m', e, ha⟩
      · exact Or.inl ⟨hk, by rw [ha]⟩
      · exact Or.inr ⟨hk, by rw [ha]; exact ⟨_, _, _, rfl⟩⟩
  | approval tenantId incidentId key request =>
    simp only [refusal] at hr
    split at hr
    · cases hr
    · split at hr <;> cases hr

theorem Rel.unrecorded (h : Rel used m t) {slot : String × Operation × String}
    (hun : m.idempotency slot = none) : t.lookup (.idempotency slot) = none := by
  have := h.records slot
  rw [hun] at this
  simpa using this.symm

variable (sha256 d) in
theorem exec_unsendable (h : Rel used m t)
    (hslot : (storable c.slot.1 && storable c.slot.2.2) = true)
    (hun : m.idempotency c.slot = none) (hs : sendable m c = false) :
    ∃ t', exec (PostgresStore.body sha256 (.call c d)) t = (.raised .dataError, t') := by
  have hrow := h.unrecorded hun
  cases c with
  | create tenantId key request =>
    simp only [PostgresStore.body, PostgresStore.create]
    rw [exec_idempotent_none _ hslot hrow, exec_stmt_not]
    · exact ⟨t, rfl⟩
    · simp only [sendable] at hs
      simp [hs]
  | cancel tenantId incidentId key version =>
    simp only [PostgresStore.body, PostgresStore.cancel]
    rw [exec_idempotent_none _ hslot hrow, PostgresStore.lockIncident, exec_stmt_not]
    · exact ⟨t, rfl⟩
    · simp only [sendable] at hs
      simp [hs]
  | feedback tenantId userId incidentId key request =>
    simp only [PostgresStore.body, PostgresStore.feedback]
    rw [exec_idempotent_none _ hslot hrow]
    simp only [sendable, Bool.and_eq_false_iff] at hs
    by_cases hid : storable incidentId = true
    · replace hs := hs.resolve_left (by simp [hid])
      cases hown : MemoryStore.owned m tenantId incidentId with
      | none => simp [hown] at hs
      | some incident =>
        obtain ⟨row, hinc, hsame⟩ := h.present _ _ _ hown
        simp only [hown, Bool.or_eq_false_iff, decide_eq_false_iff_not, not_not] at hs
        rw [exec_lockIncident_some hsame.texts hinc, ← hsame.stateVersion, hs.1,
          if_neg (by simp), exec_stmt_not]
        · exact ⟨t, rfl⟩
        · have hall := hs.2
          simp only [List.all_cons] at hall
          simp only [List.cons_append, List.nil_append, List.all_cons, hall, Bool.and_false,
            Bool.false_and]
    · rw [PostgresStore.lockIncident, exec_stmt_not]
      · exact ⟨t, rfl⟩
      · simp [hid]
  | approval tenantId incidentId key request =>
    simp only [PostgresStore.body, PostgresStore.approval]
    rw [exec_idempotent_none _ hslot hrow]
    simp only [sendable, Bool.and_eq_false_iff] at hs
    by_cases hid : storable incidentId = true
    · replace hs := hs.resolve_left (by simp [hid])
      cases hown : MemoryStore.owned m tenantId incidentId with
      | none => simp [hown] at hs
      | some incident =>
        obtain ⟨row, hinc, hsame⟩ := h.present _ _ _ hown
        simp only [hown, Bool.or_eq_false_iff, decide_eq_false_iff_not, not_not] at hs
        rw [exec_lockIncident_some hsame.texts hinc, ← hsame.stateVersion, hs.1,
          if_neg (by simp), exec_stmt_not]
        · exact ⟨t, rfl⟩
        · simp [hs.2]
    · rw [PostgresStore.lockIncident, exec_stmt_not]
      · exact ⟨t, rfl⟩
      · simp [hid]

variable {tenantId incidentId : String}

/-- A call that locks its incident is refused, for want of the incident or by what follows. -/
theorem exec_lockIncident_refused (h : Rel used m t)
    {next : PostgresStore.IncidentRow → PostgresStore.Block}
    (htexts : (storable tenantId && storable incidentId) = true)
    (hnone : MemoryStore.owned m tenantId incidentId = none → err = .incidentNotFound)
    (hsome : ∀ incident row, MemoryStore.owned m tenantId incidentId = some incident →
      Same (m.events (tenantId, incidentId)) tenantId incidentId incident row →
      ∃ t', exec (next row) t = (.raised err, t')) :
    ∃ t', exec (PostgresStore.lockIncident tenantId incidentId next) t = (.raised err, t') := by
  cases hown : MemoryStore.owned m tenantId incidentId with
  | none =>
    rw [hnone hown]
    exact ⟨t, exec_lockIncident_none htexts (h.absent _ _ hown).1⟩
  | some incident =>
    obtain ⟨row, hinc, hsame⟩ := h.present _ _ _ hown
    rw [exec_lockIncident_some hsame.texts hinc]
    exact hsome incident row hown hsame

variable (sha256 d) in
theorem exec_refused (h : Rel used m t)
    (hslot : (storable c.slot.1 && storable c.slot.2.2) = true)
    (hun : m.idempotency c.slot = none) (hs : sendable m c = true) (hr : refusal m c = some err) :
    ∃ t', exec (PostgresStore.body sha256 (.call c d)) t = (.raised err, t') := by
  have hrow := h.unrecorded hun
  have htenant : storable c.slot.1 = true := by
    rw [Bool.and_eq_true] at hslot
    exact hslot.1
  -- the texts with which an incident is looked for can be sent
  have htexts : ∀ incidentId, storable incidentId = true →
      (storable c.slot.1 && storable incidentId) = true := by
    intro incidentId hid
    rw [htenant, hid]
    rfl
  cases c with
  | create tenantId key request => simp [refusal] at hr
  | cancel tenantId incidentId key version =>
    simp only [PostgresStore.body, PostgresStore.cancel]
    rw [exec_idempotent_none _ hslot hrow]
    simp only [refusal] at hr
    refine exec_lockIncident_refused h (htexts _ hs) (fun hown => ?_) fun incident row hown hsame => ?_
    · rw [hown] at hr
      exact (Option.some.inj hr).symm
    · simp only [hown] at hr
      split at hr
      · rename_i hcond
        cases hr
        rw [hsame.stateVersion, hsame.state] at hcond
        rw [if_pos hcond]
        exact ⟨t, rfl⟩
      · cases hr
  | feedback tenantId userId incidentId key request =>
    simp only [PostgresStore.body, PostgresStore.feedback]
    rw [exec_idempotent_none _ hslot hrow]
    simp only [sendable, Bool.and_eq_true] at hs
    simp only [refusal] at hr
    refine exec_lockIncident_refused h (htexts _ hs.1) (fun hown => ?_) fun incident row hown hsame => ?_
    · rw [hown] at hr
      exact (Option.some.inj hr).symm
    · simp only [hown] at hr
      split at hr
      · rename_i hcond
        cases hr
        rw [hsame.stateVersion] at hcond
        rw [if_pos hcond]
        exact ⟨t, rfl⟩
      · cases hr
  | approval tenantId incidentId key request =>
    simp only [PostgresStore.body, PostgresStore.approval]
    rw [exec_idempotent_none _ hslot hrow]
    simp only [sendable, Bool.and_eq_true] at hs
    simp only [refusal] at hr
    refine exec_lockIncident_refused h (htexts _ hs.1) (fun hown => ?_) fun incident row hown hsame => ?_
    · rw [hown] at hr
      exact (Option.some.inj hr).symm
    · simp only [hown] at hr hs
      split at hr
      · rename_i hcond
        cases hr
        rw [hsame.stateVersion] at hcond
        rw [if_pos hcond]
        exact ⟨t, rfl⟩
      · rename_i hcond
        cases hr
        have hid := hs.2
        simp only [hcond, decide_false, Bool.false_or] at hid
        rw [hsame.stateVersion] at hcond
        rw [if_neg hcond, exec_stmt_of (by simpa [hid] using ⟨htenant, hs.1⟩), exec,
          h.unpending, exec]
        exact ⟨t, rfl⟩

theorem exec_create_appends (h : Rel used m t) {key : String} {request : IncidentCreate}
    (hslot : (storable tenantId && storable key) = true)
    (hun : m.idempotency (tenantId, .create, key) = none) (hs : request.document.nulFree = true)
    (hu : d.uuid ∉ used) (hst : storable d.uuid = true) :
    ∃ t' response e, exec (PostgresStore.create sha256 tenantId key request d) t =
      (.committed (.reply (.fresh response e)), t') := by
  have hid : storable ("inc_" ++ d.uuid) = true := storable_append (by decide) hst
  have htexts : (storable tenantId && storable ("inc_" ++ d.uuid)) = true := by
    rw [Bool.and_eq_true] at hslot ⊢
    exact ⟨hslot.1, hid⟩
  have hinc : t.lookup (.incident tenantId ("inc_" ++ d.uuid)) = none := by
    refine (h.absent _ _ ?_).1
    simp [MemoryStore.owned, h.unowned_new hu]
  have hrow := h.unrecorded hun
  simp only [PostgresStore.create, Call.slot]
  rw [exec_idempotent_none ((tenantId, .create, key)) hslot hrow, exec_stmt_of (by simpa [hs] using htexts),
    exec_insert_of hinc,
    exec_insertEvent_of (e := event ("inc_" ++ d.uuid) 1 .created createdPayload d) htexts
      (storable_eventId hid 1) (show Json.nulFreeFields createdPayload = true by decide)
      (by rw [lookup_put_of_ne (by simp)]; exact h.wellFormed.absent _ _ hinc _)
      (by rw [lookup_put_of_ne (by simp)]; exact h.unnamed_new hu 1)]
  refine exec_saveIdempotency_of hslot ?_ ?_
  · simp [PostgresStore.responseTexts, hid, show storable "1" = true by decide]
  · rw [lookup_put_of_ne (by simp), lookup_put_of_ne (by simp), lookup_put_of_ne (by simp)]
    exact hrow

variable {incident : MemoryStore.Incident}

theorem exec_cancel_appends (h : Rel used m t) {key : String} {version : ℕ}
    (hslot : (storable tenantId && storable key) = true)
    (hun : m.idempotency (tenantId, .cancel, key) = none)
    (hown : MemoryStore.owned m tenantId incidentId = some incident)
    (hv : incident.snapshot.stateVersion = version)
    (hterm : incident.snapshot.state.terminal = false) :
    ∃ t' response e, exec (PostgresStore.cancel sha256 tenantId incidentId key version d) t =
      (.committed (.reply (.fresh response e)), t') := by
  obtain ⟨row, hinc, hsame⟩ := h.present _ _ _ hown
  have hid : storable incidentId = true := by
    have := hsame.texts
    rw [Bool.and_eq_true] at this
    exact this.2
  have hrow := h.unrecorded hun
  simp only [PostgresStore.cancel, Call.slot]
  rw [exec_idempotent_none ((tenantId, .cancel, key)) hslot hrow, exec_lockIncident_some hsame.texts hinc,
    if_neg (by rw [← hsame.stateVersion, ← hsame.state]; simp [hv, hterm]),
    exec_updateIncident_of _ hinc,
    exec_insertEvent_of (e := event incidentId (row.eventCursor + 1) .cancelRequested [] d)
      hsame.texts (storable_eventId hid _) (by simp [Json.nulFreeFields])
      (by rw [lookup_put_of_ne (by simp)]; exact h.unnumbered hinc)
      (by rw [lookup_put_of_ne (by simp)]; exact h.unnamed_next hown hinc)]
  refine exec_saveIdempotency_of hslot ?_ ?_
  · simp [PostgresStore.responseTexts, hid, storable_str, hsame.unreported.2]
  · rw [lookup_put_of_ne (by simp), lookup_put_of_ne (by simp), lookup_put_of_ne (by simp)]
    exact hrow

theorem exec_feedback_appends (h : Rel used m t) {userId key : String} {request : FeedbackRequest}
    (hslot : (storable tenantId && storable key) = true)
    (hun : m.idempotency (tenantId, .feedback, key) = none)
    (hown : MemoryStore.owned m tenantId incidentId = some incident)
    (hv : incident.snapshot.stateVersion = request.expectedStateVersion)
    (htexts : (userId :: request.comment.toList).all storable = true) (hu : d.uuid ∉ used)
    (hst : storable d.uuid = true) :
    ∃ t' response e,
      exec (PostgresStore.feedback sha256 tenantId userId incidentId key request d) t =
        (.committed (.reply (.fresh response e)), t') := by
  obtain ⟨row, hinc, hsame⟩ := h.present _ _ _ hown
  have hfid : storable ("feedback_" ++ d.uuid) = true := storable_append (by decide) hst
  have hboth := hsame.texts
  rw [Bool.and_eq_true] at hboth
  have hrow := h.unrecorded hun
  have hpay : Json.nulFreeFields (PostgresStore.feedbackPayload
      ⟨"feedback_" ++ d.uuid, d.acceptedAt⟩ request) = true := by
    simp only [PostgresStore.feedbackPayload, Json.nulFreeFields, Json.nulFree, Bool.and_true,
      Bool.and_eq_true]
    exact ⟨⟨by decide, hfid⟩, by decide⟩
  simp only [PostgresStore.feedback, Call.slot]
  rw [exec_idempotent_none ((tenantId, .feedback, key)) hslot hrow, exec_lockIncident_some hsame.texts hinc,
    if_neg (by rw [← hsame.stateVersion]; simp [hv]),
    exec_stmt_of (by
      simp only [List.all_cons, Bool.and_eq_true] at htexts
      simp [hfid, hboth, htexts]),
    exec_insert_of (h.unused_feedback hu),
    exec_insertEvent_of (e := event incidentId (row.eventCursor + 1) .feedbackRecorded
        (PostgresStore.feedbackPayload ⟨"feedback_" ++ d.uuid, d.acceptedAt⟩ request) d)
      hsame.texts (storable_eventId hboth.2 _) hpay
      (by rw [lookup_put_of_ne (by simp)]; exact h.unnumbered hinc)
      (by rw [lookup_put_of_ne (by simp)]; exact h.unnamed_next hown hinc),
    exec_updateIncident_of row (by
      rw [lookup_put_of_ne (by simp), lookup_put_of_ne (by simp), lookup_put_of_ne (by simp)]
      exact hinc)]
  refine exec_saveIdempotency_of hslot ?_ ?_
  · simp [PostgresStore.responseTexts, hfid]
  · rw [lookup_put_of_ne (by simp), lookup_put_of_ne (by simp), lookup_put_of_ne (by simp),
      lookup_put_of_ne (by simp)]
    exact hrow

variable (sha256) in
theorem exec_appends (h : Rel used m t)
    (hslot : (storable c.slot.1 && storable c.slot.2.2) = true)
    (hun : m.idempotency c.slot = none) (hs : sendable m c = true) (hr : refusal m c = none)
    (hdrawn : ∀ u ∈ (Op.call c d).drawn, u ∉ used ∧ storable u = true) :
    ∃ t' response e, exec (PostgresStore.body sha256 (.call c d)) t =
      (.committed (.reply (.fresh response e)), t') := by
  cases c with
  | create tenantId key request =>
    obtain ⟨hu, hst⟩ := hdrawn d.uuid rfl
    exact exec_create_appends h hslot hun hs hu hst
  | cancel tenantId incidentId key version =>
    simp only [refusal] at hr
    cases hown : MemoryStore.owned m tenantId incidentId with
    | none => simp [hown] at hr
    | some incident =>
      simp only [hown] at hr
      split at hr
      · cases hr
      · rename_i hcond
        simp only [ne_eq, not_or, not_not, Bool.not_eq_true] at hcond
        exact exec_cancel_appends h hslot hun hown hcond.1 hcond.2
  | feedback tenantId userId incidentId key request =>
    obtain ⟨hu, hst⟩ := hdrawn d.uuid rfl
    simp only [refusal] at hr
    simp only [sendable, Bool.and_eq_true] at hs
    cases hown : MemoryStore.owned m tenantId incidentId with
    | none => simp [hown] at hr
    | some incident =>
      simp only [hown] at hr hs
      split at hr
      · cases hr
      · rename_i hcond
        have htexts := hs.2
        simp only [hcond, decide_false, Bool.false_or] at htexts
        exact exec_feedback_appends h hslot hun hown (not_not.1 hcond) htexts hu hst
  | approval tenantId incidentId key request =>
    simp only [refusal] at hr
    split at hr
    · cases hr
    · split at hr <;> cases hr

end Calls

/-! ### Calls -/

section Step

variable {used : List String} {m : MemoryStore.Store} {t : PostgresStore.Tables} {d : Draw}
  {c : Call} {t' : PostgresStore.Tables}

theorem Rel.mono (h : Rel used m t) {used' : List String} (hsub : used ⊆ used') : Rel used' m t :=
  { h with
    drawn := fun incidentId hi => by
      obtain ⟨u, hu, heq⟩ := h.drawn incidentId hi
      exact ⟨u, hsub hu, heq⟩
    feedbacks := fun u hu => hsub (h.feedbacks u hu) }

theorem Rel.drawnBy (h : Rel used m t) (op : Op) : Rel (StoreRefinement.drawnBy used op) m t :=
  h.mono (List.subset_append_right ..)

theorem ofReply_perform_ne (m : MemoryStore.Store) (c : Call) (d : Draw) :
    ofReply c (MemoryStore.perform cfg sha256 m c d).2 ≠ .raised .dataError := by
  have hperf := MemoryStore.performed cfg sha256 m d c
  generalize (MemoryStore.perform cfg sha256 m c d).1 = m' at hperf
  generalize (MemoryStore.perform cfg sha256 m c d).2 = r at hperf ⊢
  cases hperf with
  | replayed prior hprior hdigest => simp [ofReply]
  | refused err herr =>
    have := herr.2
    cases err <;> simp_all [ofReply, classOf]
  | emptied tenantId incidentId e he hprune hidem hevents hinc => simp [ofReply, classOf]
  | fresh response e ha => simp [ofReply]

theorem serveDurable_raised {err : StoreError}
    (hexec : exec (PostgresStore.body sha256 (.call c d)) t = (.raised err, t')) :
    serveDurable sha256 t (.call c d) = (t, .raised (classOf err)) := by
  simp only [serveDurable, transact, hexec, ofOutcome]

theorem serveDurable_committed {reply : Reply}
    (hexec : exec (PostgresStore.body sha256 (.call c d)) t = (.committed (.reply reply), t')) :
    serveDurable sha256 t (.call c d) = (t', .response reply.response (created c reply)) := by
  simp only [serveDurable, transact, hexec, ofOutcome]

variable (cfg sha256 d) in
/-- A call whose key is recorded is answered alike by both stores. -/
theorem agree_recorded (h : Rel used m t) (hslot : (storable c.slot.1 && storable c.slot.2.2) = true)
    {prior : String × Response} (hprior : m.idempotency c.slot = some prior) :
    (serve cfg sha256 m (.call c d)).2 = (serveDurable sha256 t (.call c d)).2 ∧
      (serve cfg sha256 m (.call c d)).1 = m ∧ (serveDurable sha256 t (.call c d)).1 = t := by
  obtain ⟨row, hrow, rfl⟩ : ∃ row : PostgresStore.IdempotencyRow,
      t.lookup (.idempotency c.slot) = some row ∧ (row.requestDigest, row.response) = prior := by
    have := h.records c.slot
    rw [hprior] at this
    exact Option.map_eq_some_iff.1 this.symm
  have hexec : exec (PostgresStore.body sha256 (.call c d)) t =
      (if row.requestDigest ≠ c.digest sha256 then .raised .idempotencyConflict
        else .committed (.reply (.replayed row.response)), t) := by
    cases c <;> exact exec_idempotent_some hslot hrow
  have hperf : MemoryStore.perform cfg sha256 m c d =
      (m, if row.requestDigest ≠ c.digest sha256 then .error .idempotencyConflict
        else .ok (.replayed row.response)) := by
    have hidem : ∀ fresh, MemoryStore.idempotent sha256 m c fresh =
        (m, if row.requestDigest ≠ c.digest sha256 then .error .idempotencyConflict
          else .ok (.replayed row.response)) := by
      intro fresh
      simp only [MemoryStore.idempotent, hprior]
      split <;> rfl
    cases c <;> exact hidem _
  by_cases hdigest : row.requestDigest = c.digest sha256
  · simp only [hdigest, ne_eq, not_true_eq_false, if_false] at hexec hperf
    rw [serveDurable_committed hexec]
    simp [serve, hperf, ofReply]
  · simp only [ne_eq, hdigest, not_false_eq_true, if_true] at hexec hperf
    rw [serveDurable_raised hexec]
    simp [serve, hperf, ofReply]

/-- **Related stores answer a call alike exactly under the condition, and are related again.** -/
theorem agree_call (h : Rel used m t)
    (hdrawn : ∀ u ∈ (Op.call c d).drawn, u ∉ used ∧ storable u = true) :
    ((serve cfg sha256 m (.call c d)).2 = (serveDurable sha256 t (.call c d)).2 ↔
        Agrees cfg m (.call c d)) ∧
      (Agrees cfg m (.call c d) → Rel (drawnBy used (.call c d))
        (serve cfg sha256 m (.call c d)).1 (serveDurable sha256 t (.call c d)).1) := by
  -- where PostgreSQL refuses a text the answers differ
  have hdata : ∀ t', exec (PostgresStore.body sha256 (.call c d)) t = (.raised .dataError, t') →
      (serve cfg sha256 m (.call c d)).2 ≠ (serveDurable sha256 t (.call c d)).2 := by
    intro t' hexec heq
    rw [serveDurable_raised hexec] at heq
    exact ofReply_perform_ne m c d heq
  cases hslot : storable c.slot.1 && storable c.slot.2.2 with
  | false =>
    have hnot : ¬ Agrees cfg m (.call c d) := by simp [Agrees, hslot]
    refine ⟨iff_of_false (hdata t ?_) hnot, fun ha => absurd ha hnot⟩
    cases c <;> exact exec_idempotent_not hslot
  | true =>
    cases hprior : m.idempotency c.slot with
    | some prior =>
      obtain ⟨heq, hm, ht⟩ := agree_recorded cfg sha256 d h hslot
        hprior
      rw [hm, ht]
      exact ⟨iff_of_true heq (by simp [Agrees, hslot, hprior]), fun _ => h.drawnBy _⟩
    | none =>
      cases hs : sendable m c with
      | false =>
        have hnot : ¬ Agrees cfg m (.call c d) := by simp [Agrees, hslot, hprior, hs]
        obtain ⟨t', hexec⟩ := exec_unsendable sha256 d h hslot hprior hs
        exact ⟨iff_of_false (hdata t' hexec) hnot, fun ha => absurd ha hnot⟩
      | true =>
        cases hr : refusal m c with
        | some err =>
          obtain ⟨t', hexec⟩ := exec_refused sha256 d h hslot hprior hs hr
          have hperf := perform_refused cfg sha256 d h hprior hr
          rw [serveDurable_raised hexec]
          simp only [serve, hperf, ofReply]
          exact ⟨iff_of_true trivial (by simp [Agrees, hslot, hprior, hs, hr]),
            fun _ => h.drawnBy _⟩
        | none =>
          obtain ⟨t', response', e', hexec⟩ :=
            exec_appends sha256 h hslot hprior hs hr hdrawn
          rcases perform_appends cfg sha256 d hprior hr with
            ⟨hkeeps, hperf⟩ | ⟨hkeeps, m', response, e, hperf⟩
          · have hnot : ¬ Agrees cfg m (.call c d) := by
              simp [Agrees, hslot, hprior, hs, hr, hkeeps]
            refine ⟨iff_of_false ?_ hnot, fun ha => absurd ha hnot⟩
            rw [serveDurable_committed hexec]
            simp [serve, hperf, ofReply]
          · have hm : MemoryStore.Appends cfg sha256 m m' c d response e := by
              have hp := MemoryStore.performed cfg sha256 m
                d c
              rw [hperf] at hp
              cases hp with
              | fresh _ _ _ ha => exact ha
            have ht : PostgresStore.Appends sha256 t t' c d response' e' := by
              rcases PostgresStore.exec_body hexec with ⟨row, -, -, ha, -⟩ |
                ⟨response, e, ha, happ⟩
              · cases ha
              · cases ha
                exact happ
            obtain ⟨rfl, hrel⟩ := h.appends hdrawn (by simp_all) hm ht
            rw [serveDurable_committed hexec]
            simp only [serve, hperf, ofReply]
            refine ⟨iff_of_true ?_ (by simp [Agrees, hslot, hprior, hs, hr, hkeeps]),
              fun _ => hrel⟩
            simp [Reply.response, created, Reply.isFresh]

end Step

end StoreRefinement
