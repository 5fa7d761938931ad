/-
**Approvals after the end of an incident.**

A decision on a proposed action must not be taken on an incident that has ended.  Neither store
looks at the state of the incident in `approval`; both look for the pending action.  And neither
store withdraws the pending action in `cancel`, although a cancellation is meant to invalidate every
later approval.  So an action that is pending when its incident is cancelled can still be approved,
at the new state version.

Both stores are right in the runs in which this does not come about: an incident is cancelled only
while no action is pending on it, and an action is proposed only on an incident that has not ended.

Main definitions:

* `MemoryHistory.Orderly`, `PostgresStore.Orderly` — the condition on a step;
* `MemoryHistory.Refuses`, `PostgresStore.Refuses` — approvals on an incident that has ended fail.

Main results:

* `Approvals.refuses_reaches` — **in every orderly run of either store, no approval that is not
  answered from the record succeeds on an incident that has ended**.
-/

import FaultWitness.MemoryHistory
import FaultWitness.PostgresDuplicates

set_option autoImplicit false

/-! ### The reference store -/

namespace MemoryHistory

open Incidents MemoryStore Runs

variable {cfg : Config} {sha256 : String → String}

/-- An incident is cancelled only while no action is pending, an action is proposed only on an
incident that has not ended, and an incident is created under an identifier that is not in use. -/
def Orderly (s : Sys) : Label → Prop
  | .call (.create ..) d => s.store.incidents ("inc_" ++ d.uuid) = none
  | .call (.cancel tenantId incidentId _ version) _ =>
    ∀ incident ∈ owned s.store tenantId incidentId, incident.snapshot.stateVersion = version →
      incident.snapshot.state.terminal = false → incident.pendingAction = none
  | .call _ _ => True
  | .setPending incidentId _ =>
    ∀ incident ∈ s.store.incidents incidentId, incident.snapshot.state.terminal = false

instance (s : Sys) (l : Label) : Decidable (Orderly s l) :=
  match l with
  | .call (.create _ _ _) _ => inferInstanceAs (Decidable (_ = _))
  | .call (.cancel tenantId incidentId _ _) _ =>
    inferInstanceAs (Decidable (∀ incident ∈ owned s.store tenantId incidentId, _))
  | .call (.feedback _ _ _ _ _) _ => isTrue trivial
  | .call (.approval _ _ _ _) _ => isTrue trivial
  | .setPending incidentId _ =>
    inferInstanceAs (Decidable (∀ incident ∈ s.store.incidents incidentId, _))

variable (cfg sha256) in
/-- What is expected of approvals in a state of the store. -/
structure Refuses (s : Sys) : Prop where
  /-- An approval on an incident that has ended changes nothing and raises a conflict, whatever it
  carries. -/
  ended : ∀ tenantId incidentId incident, owned s.store tenantId incidentId = some incident →
    incident.snapshot.state.terminal = true → ∀ key request d,
      s.store.idempotency (tenantId, .approval, key) = none →
      ∃ err, (err = .stateConflict ∨ err = .approvalConflict) ∧
        perform cfg sha256 s.store (.approval tenantId incidentId key request) d =
          (s.store, .error err)
  /-- An incident whose cancellation has succeeded has ended. -/
  cancelled : ∀ tenantId incidentId key version response e,
    (.cancel tenantId incidentId key version, .fresh response e) ∈ s.answered →
      ∃ incident, owned s.store tenantId incidentId = some incident ∧
        incident.snapshot.state.terminal = true

/-- The invariant: on an incident that has ended no action is pending. -/
structure Settled (s : Sys) : Prop where
  pending : ∀ incidentId incident, s.store.incidents incidentId = some incident →
    incident.snapshot.state.terminal = true → incident.pendingAction = none
  cancelled : ∀ tenantId incidentId key version response e,
    (.cancel tenantId incidentId key version, .fresh response e) ∈ s.answered →
      ∃ incident, owned s.store tenantId incidentId = some incident ∧
        incident.snapshot.state.terminal = true

/-- How the incidents of a store move: those that have ended stay, and nothing is pending on them. -/
structure Keeps (s s' : Store) : Prop where
  pending : ∀ incidentId incident, s'.incidents incidentId = some incident →
    incident.snapshot.state.terminal = true → incident.pendingAction = none
  ended : ∀ incidentId incident, s.incidents incidentId = some incident →
    incident.snapshot.state.terminal = true → ∃ incident', s'.incidents incidentId = some incident' ∧
      incident'.tenantId = incident.tenantId ∧ incident'.snapshot.state.terminal = true

variable {s : Sys} {store : Store}

theorem keeps_of_eq (h : Settled s) (heq : store.incidents = s.store.incidents) :
    Keeps s.store store where
  pending := by rw [heq]; exact h.pending
  ended id incident hi ht := ⟨incident, by rw [heq]; exact hi, rfl, ht⟩

theorem keeps_of_update (h : Settled s) {id : String} {after : Incident}
    (heq : store.incidents = Function.update s.store.incidents id (some after))
    (hafter : after.snapshot.state.terminal = true → after.pendingAction = none)
    (hended : ∀ incident, s.store.incidents id = some incident →
      incident.snapshot.state.terminal = true →
        after.tenantId = incident.tenantId ∧ after.snapshot.state.terminal = true) :
    Keeps s.store store := by
  constructor
  · intro id' incident hi ht
    rw [heq] at hi
    by_cases hid : id' = id
    · subst hid
      rw [Function.update_self] at hi
      cases hi
      exact hafter ht
    · rw [Function.update_of_ne hid] at hi
      exact h.pending id' incident hi ht
  · intro id' incident hi ht
    rw [heq]
    by_cases hid : id' = id
    · subst hid
      exact ⟨after, Function.update_self .., hended incident hi ht⟩
    · exact ⟨incident, by rw [Function.update_of_ne hid]; exact hi, rfl, ht⟩

theorem Settled.keeps_of_appends (h : Settled s) {c : Call} {d : Draw} {response : Response}
    {e : IncidentEvent} (hl : Orderly s (.call c d))
    (ha : Appends cfg sha256 s.store store c d response e) : Keeps s.store store := by
  obtain ⟨after, hadv, heq⟩ := ha.advance
  refine keeps_of_update h heq ?_ ?_
  · intro ht
    generalize hb : s.store.incidents e.incidentId = before at hadv
    cases hadv with
    | create => rfl
    | cancel hv hterm =>
      have hnone := hl _ (owned_eq_some.2 ⟨hb, rfl⟩) hv hterm
      exact hnone
    | feedback hv => exact h.pending _ _ hb ht
    | approval hv hp => rfl
  · intro incident hi ht
    generalize hb : s.store.incidents e.incidentId = before at hadv
    rw [hb] at hi
    subst hi
    cases hadv with
    | create =>
      rw [event_incidentId] at hb
      exact absurd (hl.symm.trans hb) (by simp)
    | cancel hv hterm => exact ⟨rfl, rfl⟩
    | feedback hv => exact ⟨rfl, ht⟩
    | approval hv hp => exact ⟨rfl, ht⟩

theorem Settled.of_keeps (h : Settled s) (hk : Keeps s.store store) {l : List (Call × Reply)}
    (hl : ∀ p ∈ l, ∀ tenantId incidentId key version response e,
      p = (.cancel tenantId incidentId key version, .fresh response e) →
        ∃ incident, owned store tenantId incidentId = some incident ∧
          incident.snapshot.state.terminal = true) :
    Settled { store := store, answered := s.answered ++ l } := by
  refine ⟨hk.pending, fun tenantId incidentId key version response e hmem => ?_⟩
  rcases List.mem_append.1 hmem with hmem | hmem
  · obtain ⟨incident, hown, ht⟩ := h.cancelled _ _ _ _ _ _ hmem
    obtain ⟨hi, rfl⟩ := owned_eq_some.1 hown
    obtain ⟨incident', hi', htenant, ht'⟩ := hk.ended _ _ hi ht
    exact ⟨incident', owned_eq_some.2 ⟨hi', htenant⟩, ht'⟩
  · exact hl _ hmem _ _ _ _ _ _ rfl

theorem Settled.called {s' : Sys} (h : Settled s) {c : Call} {d : Draw}
    (hl : Orderly s (.call c d)) (hc : Called cfg sha256 s c d s') : Settled s' := by
  cases hc with
  | replayed prior hprior hdigest => exact h.of_keeps (keeps_of_eq h rfl) (by simp)
  | refused => exact h
  | emptied store key hidem hevents hinc =>
    have hkeeps : Keeps s.store store := by
      rcases hinc with heq | ⟨hop, incident, hstate, hpending, heq⟩
      · exact keeps_of_eq h heq
      · refine keeps_of_update h heq (fun _ => hpending) fun incident' hi _ => ?_
        have hnew : s.store.incidents ("inc_" ++ d.uuid) = none := by
          cases c with
          | create tenantId key request => exact hl
          | cancel tenantId incidentId key version => simp [Call.slot] at hop
          | feedback tenantId userId incidentId key request => simp [Call.slot] at hop
          | approval tenantId incidentId key request => simp [Call.slot] at hop
        exact absurd (hnew.symm.trans hi) (by simp)
    have := h.of_keeps hkeeps (l := []) (by simp)
    rwa [List.append_nil] at this
  | fresh store response e ha =>
    refine h.of_keeps (h.keeps_of_appends hl ha) ?_
    rintro p hp tenantId incidentId key version response' e' rfl
    cases List.mem_singleton.1 hp
    obtain ⟨after, hadv, heq⟩ := ha.advance
    generalize s.store.incidents e.incidentId = before at hadv
    cases hadv with
    | cancel hv hterm =>
      have hi := congrFun heq incidentId
      rw [event_incidentId, Function.update_self] at hi
      exact ⟨_, owned_eq_some.2 ⟨hi, rfl⟩, rfl⟩

theorem Settled.setPending (h : Settled s) {incidentId : String} {action : String × String}
    (hl : Orderly s (.setPending incidentId action)) :
    Settled { s with store := setPending s.store incidentId action } := by
  have hkeeps : Keeps s.store (MemoryStore.setPending s.store incidentId action) := by
    unfold MemoryStore.setPending
    split
    · rename_i incident hi
      have hopen := hl incident hi
      refine keeps_of_update h rfl (fun ht => ?_) fun incident' hi' ht => ?_
      · exact absurd (hopen.symm.trans ht) (by simp)
      · rw [hi] at hi'
        cases hi'
        exact absurd (hopen.symm.trans ht) (by simp)
    · exact keeps_of_eq h rfl
  have := h.of_keeps hkeeps (l := []) (by simp)
  rwa [List.append_nil] at this

theorem settled_reaches (h : Reaches (step cfg sha256) Orderly {} s) : Settled s := by
  refine h.invariant ⟨by simp, by simp⟩ ?_
  intro s l s' hi hl hs
  cases l with
  | call c d =>
    cases hs
    exact hi.called hl (called_stepCall s c d)
  | setPending incidentId action =>
    cases hs
    exact hi.setPending hl

theorem refuses_memory (h : Reaches (step cfg sha256) Orderly {} s) : Refuses cfg sha256 s := by
  have hs := settled_reaches h
  refine ⟨fun tenantId incidentId incident hown hterm key request d hun => ?_, hs.cancelled⟩
  obtain ⟨hi, rfl⟩ := owned_eq_some.1 hown
  have hpending := hs.pending _ _ hi hterm
  simp only [perform, approval, idempotent, Call.slot, hun, hown]
  by_cases hv : incident.snapshot.stateVersion = request.expectedStateVersion
  · refine ⟨.approvalConflict, Or.inr rfl, ?_⟩
    simp [hv, hpending]
  · refine ⟨.stateConflict, Or.inl rfl, ?_⟩
    simp [hv]

end MemoryHistory

/-! ### The durable store -/

namespace PostgresStore

open Incidents ReadCommitted Runs

variable {sha256 : String → String}

/-- A cancellation commits only while no action is pending on the incident, and a proposed action
only while the incident has not ended. -/
def Orderly (s : Sys) : Label Request → Prop
  | .exec j =>
    (∀ tenantId incidentId key version d tx response e,
      s.txs j = .running (.call (.cancel tenantId incidentId key version) d) tx →
      tx.rest = .commit (.reply (.fresh response e)) →
      ∀ actionId, s.db.lookup (.pending tenantId incidentId actionId) = none) ∧
    ∀ tenantId incidentId actionId actionDigest tx,
      s.txs j = .running (.registerPending tenantId incidentId actionId actionDigest) tx →
      tx.rest = .commit .registered →
      ∀ row : IncidentRow, s.db.lookup (.incident tenantId incidentId) = some row →
        row.state.terminal = false
  | _ => True

/-- The incident is there and has ended. -/
def Ended (t : Tables) (tenantId incidentId : String) : Prop :=
  ∃ row : IncidentRow, t.lookup (.incident tenantId incidentId) = some row ∧
    row.state.terminal = true

/-- On an incident that has ended no action is pending. -/
def Settled (t : Tables) : Prop :=
  ∀ tenantId incidentId, Ended t tenantId incidentId →
    ∀ actionId, t.lookup (.pending tenantId incidentId actionId) = none

/-- How an approval on an incident that has ended may end: in a conflict, cut off from outside, with
a text that cannot be sent, or, when its key is recorded, from the record. -/
def Turned (s : Sys) (c : Call) (o : Outcome Answer StoreError) : Prop :=
  o = .raised .stateConflict ∨ o = .raised .approvalConflict ∨ o = .aborted ∨
    (o = .raised .dataError ∧ ¬ ([c.slot.1, c.slot.2.2] ++ c.target.toList ++ c.actionId.toList).all
      storable) ∨
    ((s.db.lookup (.idempotency c.slot)).isSome ∧
      (o = .raised .idempotencyConflict ∨ ∃ r, o = .committed (.reply (.replayed r))))

variable (sha256) in
/-- What is expected of approvals in a state `s` and in every state reached from it. -/
structure Refuses (s : Sys) : Prop where
  /-- No approval commits afresh on an incident that has ended. -/
  fresh : ∀ l s', step (body sha256) s l = some s' →
    ∀ i tenantId incidentId key request d response e,
      ¬ Fresh s i (.approval tenantId incidentId key request) d response e →
      Fresh s' i (.approval tenantId incidentId key request) d response e →
      ¬ Ended s.db tenantId incidentId
  /-- An approval that has not looked its key up when the incident ends is turned away, whatever it
  carries. -/
  later : ∀ tenantId incidentId, Ended s.db tenantId incidentId → ∀ j, Unlooked s j →
    ∀ s', Reaches (step (body sha256)) Orderly s s' → ∀ key request d o,
      s'.txs j = .done (.call (.approval tenantId incidentId key request) d) o →
      Turned s' (.approval tenantId incidentId key request) o
  /-- An incident whose cancellation has succeeded has ended. -/
  cancelled : ∀ i tenantId incidentId key version d response e,
    Fresh s i (.cancel tenantId incidentId key version) d response e →
      Ended s.db tenantId incidentId

/-! ### Incidents that have ended -/

section Ended

variable {t t' : Tables} {c : Call} {d : Draw} {response : Response} {e : IncidentEvent}

theorem Ended.appends {tenantId incidentId : String} (h : Ended t tenantId incidentId)
    (ha : Appends sha256 t t' c d response e) : Ended t' tenantId incidentId := by
  obtain ⟨row, hrow, hterm⟩ := h
  by_cases hk : tenantId = c.slot.1 ∧ incidentId = e.incidentId
  · obtain ⟨rfl, rfl⟩ := hk
    obtain ⟨before, after, hbefore, hafter, hadv⟩ := ha.advance
    refine ⟨after, hafter, ?_⟩
    rw [hrow] at hbefore
    subst hbefore
    cases hadv with
    | cancel hv ht => rfl
    | feedback hv => exact hterm
    | approval hv => exact hterm
  · exact ⟨row, by rw [ha.incident_of_ne hk]; exact hrow, hterm⟩

theorem ended_of_appends {tenantId incidentId : String} (ha : Appends sha256 t t' c d response e)
    (h : Ended t' tenantId incidentId) : Ended t tenantId incidentId ∨
      ∃ key version, c = .cancel tenantId incidentId key version := by
  obtain ⟨row, hrow, hterm⟩ := h
  by_cases hk : tenantId = c.slot.1 ∧ incidentId = e.incidentId
  · obtain ⟨rfl, rfl⟩ := hk
    obtain ⟨before, after, hbefore, hafter, hadv⟩ := ha.advance
    rw [hrow, Option.some.injEq] at hafter
    subst hafter
    cases hadv with
    | create => simp [IncidentState.terminal] at hterm
    | cancel hv ht => exact Or.inr ⟨_, _, rfl⟩
    | feedback hv => exact Or.inl ⟨_, hbefore, hterm⟩
    | approval hv => exact Or.inl ⟨_, hbefore, hterm⟩
  · exact Or.inl ⟨row, by rw [← ha.incident_of_ne hk]; exact hrow, hterm⟩

theorem Settled.appends (h : Settled t) (ha : Appends sha256 t t' c d response e)
    (hc : ∀ tenantId incidentId key version, c = .cancel tenantId incidentId key version →
      ∀ actionId, t.lookup (.pending tenantId incidentId actionId) = none) : Settled t' := by
  intro tenantId incidentId hended actionId
  have hnone : t.lookup (.pending tenantId incidentId actionId) = none := by
    rcases ended_of_appends ha hended with hended | ⟨key, version, hcancel⟩
    · exact h tenantId incidentId hended actionId
    · exact hc tenantId incidentId key version hcancel actionId
  rw [ha.pending, hnone, ite_self]

end Ended

variable {l : Label Request} {s s' : Sys}

/-- **Every orderly step keeps the incidents that have ended as they are**, and nothing pending on
them. -/
theorem settled_step (hinv : Inv (body sha256) s) (h : Settled s.db) (hl : Orderly s l)
    (hs : step (body sha256) s l = some s') :
    Settled s'.db ∧ ∀ tenantId incidentId, Ended s.db tenantId incidentId →
      Ended s'.db tenantId incidentId := by
  rcases step_cases hinv hs with ⟨hdb, -⟩ | ⟨i, r, tx, a, hi, hrest, htxs, hexec⟩
  · rw [hdb]
    exact ⟨h, fun _ _ hended => hended⟩
  have hl' : l = .exec i := by
    refine exec_of_ne hs hi ?_ ?_
    · rw [htxs, Function.update_self, hi]
      simp
    · simp [htxs]
  subst hl'
  cases r with
  | registerPending tenantId incidentId actionId actionDigest =>
    obtain ⟨rfl, ⟨row, hrow⟩, -, hdb⟩ := exec_registerPending hexec
    have hopen := hl.2 _ _ _ _ _ hi hrest row hrow
    have hinc : ∀ tenantId' incidentId', s'.db.lookup (.incident tenantId' incidentId') =
        s.db.lookup (.incident tenantId' incidentId') := by
      intro tenantId' incidentId'
      rw [hdb, lookup_put_of_ne (by simp)]
    refine ⟨fun tenantId' incidentId' hended actionId' => ?_, fun _ _ hended => ?_⟩
    · rw [Ended, hinc] at hended
      have hne : Key.pending tenantId' incidentId' actionId' ≠
          .pending tenantId incidentId actionId := by
        intro heq
        obtain ⟨rfl, rfl, rfl⟩ := Key.pending.inj heq
        obtain ⟨row', hrow', hterm⟩ := hended
        rw [hrow, Option.some.injEq] at hrow'
        subst hrow'
        exact absurd (hopen.symm.trans hterm) (by simp)
      rw [hdb, lookup_put_of_ne hne]
      exact h tenantId' incidentId' hended actionId'
    · rw [Ended, hinc]
      exact hended
  | call c d =>
    rcases exec_body hexec with ⟨row, -, -, -, hdb⟩ | ⟨response, e, rfl, ha⟩
    · rw [hdb]
      exact ⟨h, fun _ _ hended => hended⟩
    · refine ⟨h.appends ha ?_, fun _ _ hended => hended.appends ha⟩
      rintro tenantId incidentId key version rfl
      exact hl.1 _ _ _ _ _ _ _ _ hi hrest

/-! ### An approval that comes too late -/

theorem Turned.step (hinv : Inv (body sha256) s) (hs : step (body sha256) s l = some s')
    {c : Call} {o : Outcome Answer StoreError} (h : Turned s c o) : Turned s' c o := by
  rcases h with h | h | h | h | ⟨hrec, h⟩
  · exact Or.inl h
  · exact Or.inr (Or.inl h)
  · exact Or.inr (Or.inr (Or.inl h))
  · exact Or.inr (Or.inr (Or.inr (Or.inl h)))
  · obtain ⟨row, hrow⟩ := Option.isSome_iff_exists.1 hrec
    refine Or.inr (Or.inr (Or.inr (Or.inr ⟨?_, h⟩)))
    rw [lookup_idempotency_step hinv hs hrow]
    rfl

/-- The tables of an incident that has ended with nothing pending. -/
def Closed (tenantId incidentId : String) (t : Tables) : Prop :=
  Ended t tenantId incidentId ∧ ∀ actionId, t.lookup (.pending tenantId incidentId actionId) = none

theorem reads_stmt {D : Tables → Prop} {P : Outcome Answer StoreError → Prop} {texts : List String}
    {p : Block} (hp : Reads D P p) (hdata : ¬ texts.all storable → P (.raised .dataError)) :
    Reads D P (stmt texts [] p) := by
  unfold stmt
  split
  · exact hp
  · rename_i hst
    exact hdata (by simpa using hst)

variable (sha256) in
/-- After its lookup in vain, an approval only reads. -/
theorem reads_approval (s : Sys) (tenantId incidentId key : String) (request : ApprovalRequest)
    (d : Draw) : ∃ fresh,
      body sha256 (.call (.approval tenantId incidentId key request) d) =
        idempotent (tenantId, .approval, key)
          ((Call.approval tenantId incidentId key request).digest sha256) fresh ∧
      Reads (Closed tenantId incidentId) (Turned s (.approval tenantId incidentId key request))
        fresh := by
  refine ⟨_, rfl, ?_⟩
  have hdata : ∀ texts : List String, texts ⊆ [tenantId, key, incidentId, request.actionId] →
      ¬ texts.all storable →
      Turned s (.approval tenantId incidentId key request) (.raised .dataError) := by
    intro texts hsub hst
    refine Or.inr (Or.inr (Or.inr (Or.inl ⟨rfl, fun hall => hst ?_⟩)))
    simp only [Call.slot, Call.target, Call.actionId, Option.toList_some, List.cons_append,
      List.nil_append, List.all_eq_true] at hall ⊢
    exact fun x hx => hall x (hsub hx)
  refine reads_stmt ?_ (hdata _ (by simp))
  rintro t ⟨⟨row, hrow, -⟩, hpending⟩
  rw [hrow]
  dsimp only
  split
  · exact Or.inl rfl
  · refine reads_stmt ?_ (hdata _ (by simp))
    rintro t ⟨-, hpending⟩
    rw [hpending]
    exact Or.inr (Or.inl rfl)

variable (sha256) in
/-- Where an approval stands that had not looked when the incident ended. -/
structure Late (tenantId incidentId : String) (j : ℕ) (s : Sys) : Prop where
  running : ∀ key request d tx,
    s.txs j = .running (.call (.approval tenantId incidentId key request) d) tx →
      tx = { rest := body sha256 (.call (.approval tenantId incidentId key request) d) } ∨
        tx.writes = [] ∧ Reads (Closed tenantId incidentId)
          (Turned s (.approval tenantId incidentId key request)) tx.rest
  done : ∀ key request d o,
    s.txs j = .done (.call (.approval tenantId incidentId key request) d) o →
      Turned s (.approval tenantId incidentId key request) o

variable {incidentId tenantId : String}

/-- The lookup of an approval, and what it may lead to. -/
theorem late_lookup {key : String} {request : ApprovalRequest} {d : Draw} {j : ℕ}
    (hstep : stepTx s j (.call (.approval tenantId incidentId key request) d)
      { rest := body sha256 (.call (.approval tenantId incidentId key request) d) } = some s') :
    (∃ tx', s'.txs j = .running (.call (.approval tenantId incidentId key request) d) tx' ∧
        tx'.writes = [] ∧ Reads (Closed tenantId incidentId)
          (Turned s (.approval tenantId incidentId key request)) tx'.rest) ∨
      s'.txs j = .done (.call (.approval tenantId incidentId key request) d) (.raised .dataError) ∧
        Turned s (.approval tenantId incidentId key request) (.raised .dataError) := by
  obtain ⟨fresh, hb, hreads⟩ := reads_approval sha256 s tenantId incidentId key request d
  rw [hb] at hstep
  rcases stepTx_idempotent hstep with ⟨hst, htxs⟩ | ⟨-, tx', htxs, hw, -, hrest⟩
  · refine Or.inr ⟨by rw [htxs, Function.update_self], Or.inr (Or.inr (Or.inr (Or.inl ⟨rfl, ?_⟩)))⟩
    rw [List.append_assoc, List.all_append]
    simp only [Call.slot, List.all_cons, List.all_nil, Bool.and_true, hst, Bool.false_and,
      Bool.false_eq_true, not_false_eq_true]
  · refine Or.inl ⟨tx', by rw [htxs, Function.update_self], hw, ?_⟩
    rw [hrest]
    cases hrow : s.db.lookup (.idempotency (tenantId, .approval, key)) with
    | none => exact hreads
    | some row =>
      have hrec : ∀ o : Outcome Answer StoreError,
          (o = .raised .idempotencyConflict ∨ ∃ r, o = .committed (.reply (.replayed r))) →
          Turned s (.approval tenantId incidentId key request) o := by
        intro o ho
        refine Or.inr (Or.inr (Or.inr (Or.inr ⟨?_, ho⟩)))
        simp [Call.slot, hrow]
      simp only [recordedOr]
      split
      · exact hrec _ (Or.inl rfl)
      · exact hrec _ (Or.inr ⟨_, rfl⟩)

theorem Late.step {j : ℕ} (h : Late sha256 tenantId incidentId j s) (hinv : Inv (body sha256) s)
    (hclosed : Closed tenantId incidentId s.db)
    (hs : ReadCommitted.step (body sha256) s l = some s') :
    Late sha256 tenantId incidentId j s' := by
  have hmono : ∀ key request (o : Outcome Answer StoreError),
      Turned s (.approval tenantId incidentId key request) o →
      Turned s' (.approval tenantId incidentId key request) o :=
    fun key request o => Turned.step hinv hs
  -- what a statement of such an approval leads to
  have hstmt : ∀ key request d (tx : Tx Row Answer StoreError),
      s.txs j = .running (.call (.approval tenantId incidentId key request) d) tx →
      stepTx s j (.call (.approval tenantId incidentId key request) d) tx = some s' →
      (∃ tx', s'.txs j = .running (.call (.approval tenantId incidentId key request) d) tx' ∧
          tx'.writes = [] ∧ Reads (Closed tenantId incidentId)
            (Turned s (.approval tenantId incidentId key request)) tx'.rest) ∨
        ∃ o, s'.txs j = .done (.call (.approval tenantId incidentId key request) d) o ∧
          Turned s (.approval tenantId incidentId key request) o := by
    intro key request d tx hj hstep
    rcases h.running key request d tx hj with rfl | ⟨hw, hreads⟩
    · exact (late_lookup hstep).imp id fun h => ⟨_, h⟩
    · exact hreads.stepTx hw hclosed hstep
  constructor
  · intro key request d tx' hj'
    cases seen_of_step hs j with
    | same hj =>
      exact (h.running key request d tx' (hj ▸ hj')).imp id fun h => ⟨h.1, h.2.mono (hmono _ _)⟩
    | start r hj hr =>
      rw [hr] at hj'
      cases hj'
      exact Or.inl rfl
    | goOn r tx tx₁ hj hstep _ hr =>
      rw [hr] at hj'
      cases hj'
      rcases hstmt key request d tx hj hstep with ⟨tx₂, hr₂, hw, hreads⟩ | ⟨o, hr₂, -⟩
      · rw [hr] at hr₂
        cases hr₂
        exact Or.inr ⟨hw, hreads.mono (hmono _ _)⟩
      · rw [hr] at hr₂
        cases hr₂
    | commit r tx a hj _ hr =>
      rw [hr] at hj'
      cases hj'
    | fail r tx o hj _ _ hr =>
      rw [hr] at hj'
      cases hj'
  · intro key request d o hj'
    have hend : ∀ tx, s.txs j = .running (.call (.approval tenantId incidentId key request) d) tx →
        stepTx s j (.call (.approval tenantId incidentId key request) d) tx = some s' →
        Turned s' (.approval tenantId incidentId key request) o := by
      intro tx hj hstep
      rcases hstmt key request d tx hj hstep with ⟨tx₂, hr₂, -⟩ | ⟨o', hr₂, ho'⟩
      · rw [hj'] at hr₂
        cases hr₂
      · rw [hj'] at hr₂
        cases hr₂
        exact hmono _ _ _ ho'
    cases seen_of_step hs j with
    | same hj => exact hmono _ _ _ (h.done key request d o (hj ▸ hj'))
    | start r hj hr =>
      rw [hr] at hj'
      cases hj'
    | goOn r tx tx₁ hj _ _ hr =>
      rw [hr] at hj'
      cases hj'
    | commit r tx a hj ha hr =>
      have hreq := hr.symm.trans hj'
      cases hreq
      refine hend tx hj ?_
      have hl : l = .exec j := exec_of_ne hs hj (by simp [hr, hj]) (by simp [hr])
      subst hl
      simpa only [ReadCommitted.step, hj] using hs
    | fail r tx o' hj hstep _ hr =>
      have hreq := hr.symm.trans hj'
      cases hreq
      by_cases hab : o = .aborted
      · exact Or.inr (Or.inr (Or.inl hab))
      · exact hend tx hj (hstep hab)

/-! ### Orderly runs -/

variable (sha256) in
/-- What holds in every orderly run. -/
structure Order (s : Sys) : Prop where
  inv : Inv (body sha256) s
  settled : Settled s.db
  cancelled : ∀ i tenantId incidentId key version d response e,
    Fresh s i (.cancel tenantId incidentId key version) d response e →
      Ended s.db tenantId incidentId

theorem Order.step (h : Order sha256 s) (hl : Orderly s l)
    (hs : ReadCommitted.step (body sha256) s l = some s') : Order sha256 s' := by
  obtain ⟨hsettled, hended⟩ := settled_step h.inv h.settled hl hs
  refine ⟨inv_step guards_body h.inv hs, hsettled, ?_⟩
  intro i tenantId incidentId key version d response e hf
  by_cases hold : Fresh s i (.cancel tenantId incidentId key version) d response e
  · exact hended _ _ (h.cancelled _ _ _ _ _ _ _ _ hold)
  · obtain ⟨before, after, -, hafter, hadv⟩ := (appends_of_fresh h.inv hs hold hf).1.advance
    cases hadv with
    | cancel hv ht => exact ⟨_, hafter, rfl⟩

theorem order_reaches (h : Reaches (step (body sha256)) Orderly (initial ∅) s) :
    Order sha256 s := by
  refine h.invariant ⟨inv_initial _ _, ?_, by simp [Fresh, initial]⟩ fun _ _ _ hi hl hs =>
    hi.step hl hs
  rintro tenantId incidentId ⟨row, hrow, -⟩
  simp [initial] at hrow

/-- An approval that had not looked when the incident ended is late in every state after that. -/
theorem late_reaches (hs : Order sha256 s) (hended : Ended s.db tenantId incidentId) {j : ℕ}
    (hlook : Looking sha256 s) (hj : Unlooked s j) (h : Reaches (step (body sha256)) Orderly s s') :
    Late sha256 tenantId incidentId j s' := by
  have hall : Order sha256 s' ∧ Ended s'.db tenantId incidentId ∧
      Late sha256 tenantId incidentId j s' := by
    refine h.invariant (I := fun s => Order sha256 s ∧ Ended s.db tenantId incidentId ∧
      Late sha256 tenantId incidentId j s) ⟨hs, hended, ?_⟩ ?_
    · constructor
      · intro key request d tx htx
        rcases hj with hidle | ⟨r, tx', hrun, hreads⟩
        · rw [hidle] at htx
          cases htx
        · rw [hrun] at htx
          cases htx
          refine (hlook j _ _ _ hrun).imp id ?_
          rintro ⟨o, ho⟩
          rw [hreads] at ho
          exact absurd ho (by simp)
      · intro key request d o hdone
        rcases hj with hidle | ⟨r, tx', hrun, -⟩
        · rw [hidle] at hdone
          cases hdone
        · rw [hrun] at hdone
          cases hdone
    · rintro s l s' ⟨hord, hended, hlate⟩ hl hstep
      exact ⟨hord.step hl hstep, (settled_step hord.inv hord.settled hl hstep).2 _ _ hended,
        hlate.step hord.inv ⟨hended, hord.settled _ _ hended⟩ hstep⟩
  exact hall.2.2

theorem refuses_postgres (h : Reaches (step (body sha256)) Orderly (initial ∅) s) :
    Refuses sha256 s := by
  have hord := order_reaches h
  refine ⟨?_, ?_, hord.cancelled⟩
  · intro l s' hs i tenantId incidentId key request d response e hold hnew hended
    obtain ⟨ha, -⟩ := appends_of_fresh hord.inv hs hold hnew
    have hid : e.incidentId = incidentId := by
      obtain ⟨before, after, -, -, hadv⟩ := ha.advance
      cases hadv
      rfl
    have happ := ha.approved request.actionId rfl
    rw [hid] at happ
    have hnone := hord.settled tenantId incidentId hended request.actionId
    exact absurd (hnone.symm.trans happ) (by simp [Call.actionDigest])
  · intro tenantId incidentId hended j hj s' hs' key request d o hdone
    exact (late_reaches hord hended (looking_reachable h.reachable) hj hs').done key request d o hdone

end PostgresStore

/-! ### Both stores -/

namespace Approvals

open Incidents Runs ReadCommitted

/-- **In every orderly run of either store, no approval succeeds on an incident that has ended,
unless it is answered from the record.** -/
theorem refuses_reaches (cfg : MemoryStore.Config) (sha256 : String → String) :
    (∀ s : MemoryHistory.Sys, Reaches (MemoryHistory.step cfg sha256) MemoryHistory.Orderly {} s →
      MemoryHistory.Refuses cfg sha256 s) ∧
    ∀ s : PostgresStore.Sys,
      Reaches (step (PostgresStore.body sha256)) PostgresStore.Orderly (initial ∅) s →
        PostgresStore.Refuses sha256 s :=
  ⟨fun _ h => MemoryHistory.refuses_memory h, fun _ h => PostgresStore.refuses_postgres h⟩

/-- A test for `PostgresStore.Orderly`: no action is pending, and none is being proposed. -/
def orderly (s : PostgresStore.Sys) : Label PostgresStore.Request → Bool
  | .exec j =>
    (match s.txs j with
      | .running (.registerPending ..) _ => false
      | _ => true) &&
    s.db.keys.all fun
      | .pending .. => false
      | _ => true
  | _ => true

theorem orderly_of_test {sha256 : String → String} (s : PostgresStore.Sys)
    (l : Label PostgresStore.Request)
    (_ : Reaches (step (PostgresStore.body sha256)) PostgresStore.Orderly (initial ∅) s)
    (h : orderly s l = true) : PostgresStore.Orderly s l := by
  cases l with
  | exec j =>
    simp only [orderly, Bool.and_eq_true, List.all_eq_true] at h
    refine ⟨fun tenantId incidentId key version d tx response e _ _ actionId => ?_,
      fun tenantId incidentId actionId actionDigest tx hj => ?_⟩
    · refine AList.lookup_eq_none.2 fun hmem => ?_
      exact absurd (h.2 _ hmem) (by simp)
    · rw [hj] at h
      exact absurd h.1 (by simp)
  | start i c => exact trivial
  | abort i => exact trivial

/-- The calls of a client that creates an incident, cancels it and approves an action on it. -/
def opening : Call := .create "tenant-a" "key-1" sampleCreate

def cancelling : Call := .cancel "tenant-a" "inc_7" "key-2" 0

def approving : Call := .approval "tenant-a" "inc_7" "key-3" sampleApproval

/-- A cancellation with nothing pending. -/
theorem refuses_cancelled :
    (∃ s : MemoryHistory.Sys,
      Reaches (MemoryHistory.step {} sampleSha256) MemoryHistory.Orderly {} s ∧
        s.answered.length = 2 ∧ MemoryHistory.Refuses {} sampleSha256 s) ∧
    ∃ s : PostgresStore.Sys,
      Reaches (step (PostgresStore.body sampleSha256)) PostgresStore.Orderly (initial ∅) s ∧
        ((s.txs 1).answer.map Prod.fst) = some (.call cancelling {}) ∧
        PostgresStore.Refuses sampleSha256 s := by
  constructor
  · obtain ⟨s, hs, hp⟩ := exists_reaches_of_test (MemoryHistory.step {} sampleSha256)
      (C := MemoryHistory.Orderly) (c := fun s l => decide (MemoryHistory.Orderly s l))
      (p := fun s => decide (s.answered.length = 2)) (fun s l _ h => of_decide_eq_true h) (a := {})
      ([.call opening { uuid := "7" }, .call cancelling {}]) (by decide +kernel)
    exact ⟨s, hs, of_decide_eq_true hp, (refuses_reaches {} sampleSha256).1 s hs⟩
  · obtain ⟨s, hs, hp⟩ := exists_reaches_of_test (step (PostgresStore.body sampleSha256))
      (C := PostgresStore.Orderly) (c := orderly)
      (p := fun s => decide ((s.txs 1).answer.map Prod.fst = some (.call cancelling {})))
      orderly_of_test (a := initial ∅)
      (.start 0 (.call opening { uuid := "7" }) :: List.replicate 6 (.exec 0) ++
        .start 1 (.call cancelling {}) :: List.replicate 7 (.exec 1))
      (by decide +kernel)
    exact ⟨s, hs, of_decide_eq_true hp, (refuses_reaches {} sampleSha256).2 s hs⟩

/-- The reference store approves an action on an incident that has ended. -/
def approves (s : MemoryHistory.Sys) : Bool :=
  (match MemoryStore.owned s.store "tenant-a" "inc_7" with
    | some incident => incident.snapshot.state.terminal
    | none => false) &&
  (s.store.idempotency approving.slot).isNone &&
  match (MemoryStore.perform {} sampleSha256 s.store approving {}).2 with
  | .ok _ => true
  | .error _ => false

/-- The durable store is about to do so. -/
def committing (s : PostgresStore.Sys) : Bool :=
  decide ((s.txs 3).answer = none) &&
  (match (s.db.lookup (.incident "tenant-a" "inc_7") : Option PostgresStore.IncidentRow) with
    | some row => row.state.terminal
    | none => false) &&
  match step (PostgresStore.body sampleSha256) s (.exec 3) with
  | some s' =>
    match s'.txs 3 with
    | .done r (.committed (.reply (.fresh _ _))) => decide (r = .call approving {})
    | _ => false
  | none => false

/-- An action that is pending when its incident is cancelled is approved afterwards. -/
theorem not_refuses_pending :
    (∃ s : MemoryHistory.Sys, Reachable (MemoryHistory.step {} sampleSha256) {} s ∧
      ¬ MemoryHistory.Refuses {} sampleSha256 s) ∧
    ∃ s : PostgresStore.Sys, Reachable (step (PostgresStore.body sampleSha256)) (initial ∅) s ∧
      ¬ PostgresStore.Refuses sampleSha256 s := by
  constructor
  · obtain ⟨s, hs, hp⟩ := exists_reachable_of_test (MemoryHistory.step {} sampleSha256)
      (p := approves) (a := {})
      ([.call opening { uuid := "7" },
        .setPending "inc_7" (sampleApproval.actionId, sampleApproval.actionDigest),
        .call cancelling {}])
      (by decide +kernel)
    refine ⟨s, hs, fun h => ?_⟩
    simp only [approves, Bool.and_eq_true, Option.isNone_iff_eq_none] at hp
    obtain ⟨⟨hended, hun⟩, hok⟩ := hp
    split at hended
    · rename_i incident hown
      obtain ⟨err, -, herr⟩ := h.ended _ _ incident hown hended "key-3" sampleApproval {} hun
      rw [approving, herr] at hok
      exact absurd hok (by simp)
    · exact absurd hended (by simp)
  · obtain ⟨s, hs, hp⟩ := exists_reachable_of_test (step (PostgresStore.body sampleSha256))
      (p := committing) (a := initial ∅)
      (.start 0 (.call opening { uuid := "7" }) :: List.replicate 6 (.exec 0) ++
        .start 1 (.registerPending "tenant-a" "inc_7" sampleApproval.actionId
          sampleApproval.actionDigest) :: List.replicate 3 (.exec 1) ++
        .start 2 (.call cancelling {}) :: List.replicate 7 (.exec 2) ++
        .start 3 (.call approving {}) :: List.replicate 8 (.exec 3))
      (by decide +kernel)
    refine ⟨s, hs, fun h => ?_⟩
    simp only [committing, Bool.and_eq_true, decide_eq_true_eq] at hp
    obtain ⟨⟨hrun, hended⟩, hcommit⟩ := hp
    split at hended
    · rename_i row hrow
      split at hcommit
      · rename_i s' hstep
        split at hcommit
        · rename_i r response e hdone
          rw [decide_eq_true_eq] at hcommit
          subst hcommit
          refine h.fresh _ s' hstep 3 "tenant-a" "inc_7" "key-3" sampleApproval {} response e ?_ hdone
            ⟨row, hrow, hended⟩
          intro hf
          rw [PostgresStore.Fresh] at hf
          rw [hf] at hrun
          exact absurd hrun (by simp [Status.answer])
        · exact absurd hcommit (by simp)
      · exact absurd hcommit (by simp)
    · exact absurd hended (by simp)

end Approvals
