/-
**What the reference store guarantees over a whole history.**

A call answers from the record of an earlier one, is refused, or is served afresh; what it may do
depends on the version, the state and the pending action of one incident.  Here these are compared
with the history of the incident: how often it was cancelled, and in what order actions were set on it
and decided on.  It turns out that the store holds nothing else: the version *is* the number of
cancellations, and the pending action is the last one set, unless it was decided on.

Nothing of this depends on retention.  Only that a call which raises changes nothing does: when the
retention loop empties the list of the incident, the list, and a new incident, are left behind.  The
condition `Survives` says when it does not.

Main definitions:

* `MemoryGuarantees.cancels`, `MemoryGuarantees.uses` — the history of an incident;
* `MemoryGuarantees.Traced`, `MemoryGuarantees.Recorded` — what the store holds of the history;
* `MemoryGuarantees.Survives` — a call that appends keeps at least one event.

Main results:

* `MemoryGuarantees.Traced.step`, `MemoryGuarantees.Recorded.step` — every operation keeps them;
* `MemoryGuarantees.eq_of_raises` — an operation that raises changes nothing, under the condition;
* `MemoryGuarantees.guarantees` — **the guarantees, in every run**.
-/

import FaultWitness.MemoryOperations

set_option autoImplicit false

namespace MemoryGuarantees

open Incidents MemoryStore MemoryOperations Unwinding

/-! ### The history of an incident -/

/-- What happens to the pending action of an incident. -/
inductive Use
  | set (action : String × String)
  | decided (action : String × String)
deriving DecidableEq

/-- The incident is cancelled by a call that is served afresh. -/
def cancelled (id : String) : Op × Output → Bool
  | (.call (.cancel _ incidentId _ _) _, .reply (.ok (.fresh _ _))) => incidentId = id
  | _ => false

def use (id : String) : Op × Output → Option Use
  | (.setPending _ incidentId action, _) => if incidentId = id then some (.set action) else none
  | (.call (.approval _ incidentId _ request) _, .reply (.ok (.fresh _ _))) =>
    if incidentId = id then some (.decided (request.actionId, request.actionDigest)) else none
  | _ => none

def answer : Op × Output → Option (Call × Reply)
  | (.call c _, .reply (.ok reply)) => some (c, reply)
  | _ => none

/-- How often the incident was cancelled. -/
def cancels (id : String) (trace : List (Op × Output)) : ℕ := trace.countP (cancelled id)

def uses (id : String) (trace : List (Op × Output)) : List Use := trace.filterMap (use id)

/-- The calls that were answered, with their answers. -/
def answers (trace : List (Op × Output)) : List (Call × Reply) := trace.filterMap answer

/-- The action that is pending after a history. -/
def pendingOf (history : List Use) : Option (String × String) :=
  match history.getLast? with
  | some (.set action) => some action
  | _ => none

/-- A decision uses up the action that was set right before it. -/
def SingleUse (before : List Use) (u : Use) : Prop :=
  ∀ action, u = .decided action → before.getLast? = some (.set action)

/-- A replay returns the value of the first call with its slot. -/
def FromFirst (before : List (Call × Reply)) (p : Call × Reply) : Prop :=
  ∀ response, p.2 = .replayed response →
    ∃ c e, before.find? (fun q => q.1.slot = p.1.slot) = some (c, .fresh response e)

section Append

variable (id : String) (trace : List (Op × Output)) (p : Op × Output)

theorem cancels_append :
    cancels id (trace ++ [p]) = cancels id trace + if cancelled id p = true then 1 else 0 := by
  simp [cancels, List.countP_append, List.countP_cons]

theorem uses_append : uses id (trace ++ [p]) = uses id trace ++ (use id p).toList := by
  simp only [uses, List.filterMap_append, List.filterMap_cons, List.filterMap_nil]
  cases use id p <;> rfl

theorem answers_append : answers (trace ++ [p]) = answers trace ++ (answer p).toList := by
  simp only [answers, List.filterMap_append, List.filterMap_cons, List.filterMap_nil]
  cases answer p <;> rfl

end Append

/-! ### What the store holds of it -/

/-- The state and the version of an incident that was cancelled `n` times. -/
def Counted (n : ℕ) (incident : Incident) : Prop :=
  incident.snapshot.stateVersion = n ∧
    (n = 0 ∧ incident.snapshot.state = .new ∨ n = 1 ∧ incident.snapshot.state = .cancelled)

/-- What the history of an incident says of it. -/
structure Traced (id : String) (trace : List (Op × Output)) (s : Store) : Prop where
  absent : s.incidents id = none → cancels id trace = 0 ∧ uses id trace = []
  counted : ∀ incident, s.incidents id = some incident → Counted (cancels id trace) incident
  pending : ∀ incident, s.incidents id = some incident →
    incident.pendingAction = pendingOf (uses id trace)
  singleUse : Justified SingleUse (uses id trace)

/-- What the answers so far say of the records. -/
structure Recorded (trace : List (Op × Output)) (s : Store) : Prop where
  unused : ∀ slot, s.idempotency slot = none → ∀ p ∈ answers trace, p.1.slot ≠ slot
  used : ∀ slot prior, s.idempotency slot = some prior →
    ∃ c e, (answers trace).find? (fun q => q.1.slot = slot) = some (c, .fresh prior.2 e)
  fromFirst : Justified FromFirst (answers trace)

theorem traced_empty (id : String) : Traced id [] {} where
  absent _ := ⟨rfl, rfl⟩
  counted incident h := by cases h
  pending incident h := by cases h
  singleUse := justified_nil

theorem recorded_empty : Recorded [] {} where
  unused slot _ p hp := by cases hp
  used slot prior h := by cases h
  fromFirst := justified_nil

/-! ### Every operation keeps it -/

section Traced

variable {id : String} {trace : List (Op × Output)} {s s' : Store} {p : Op × Output}
  {incident : Incident} {before : Option Incident} {c : Call} {d : Draw} {response : Response}

theorem cancels_quiet (h : cancelled id p = false) : cancels id (trace ++ [p]) = cancels id trace := by
  rw [cancels_append, h]
  rfl

theorem uses_quiet (h : use id p = none) : uses id (trace ++ [p]) = uses id trace := by
  rw [uses_append, h]
  exact List.append_nil _

theorem cancels_cancelled (h : cancelled id p = true) :
    cancels id (trace ++ [p]) = cancels id trace + 1 := by
  rw [cancels_append, h]
  rfl

theorem uses_used {u : Use} (h : use id p = some u) :
    uses id (trace ++ [p]) = uses id trace ++ [u] := by
  rw [uses_append, h]
  rfl

theorem traced_of_some (hinc : s.incidents id = some incident)
    (hcounted : Counted (cancels id trace) incident)
    (hpending : incident.pendingAction = pendingOf (uses id trace))
    (hsingle : Justified SingleUse (uses id trace)) : Traced id trace s := by
  refine ⟨?_, ?_, ?_, hsingle⟩
  · intro hnone
    rw [hinc] at hnone
    cases hnone
  · intro incident' h
    cases hinc.symm.trans h
    exact hcounted
  · intro incident' h
    cases hinc.symm.trans h
    exact hpending

theorem Traced.quiet (h : Traced id trace s) (hc : cancelled id p = false) (hu : use id p = none)
    (hsame : s'.incidents id = s.incidents id) : Traced id (trace ++ [p]) s' := by
  refine ⟨?_, ?_, ?_, ?_⟩
  · rw [hsame, cancels_quiet hc, uses_quiet hu]
    exact h.absent
  · rw [hsame, cancels_quiet hc]
    exact h.counted
  · rw [hsame, uses_quiet hu]
    exact h.pending
  · rw [uses_quiet hu]
    exact h.singleUse

theorem Traced.created (h : Traced id trace s) (hnone : s.incidents id = none)
    (hc : cancelled id p = false) (hu : use id p = none) (hnew : New incident)
    (hinc : s'.incidents id = some incident) : Traced id (trace ++ [p]) s' := by
  obtain ⟨hzero, hempty⟩ := h.absent hnone
  obtain ⟨hstate, hversion, hpending⟩ := hnew
  refine traced_of_some hinc ?_ ?_ ?_
  · rw [cancels_quiet hc, hzero]
    exact ⟨hversion, Or.inl ⟨rfl, hstate⟩⟩
  · rw [uses_quiet hu, hempty]
    exact hpending
  · rw [uses_quiet hu]
    exact h.singleUse

theorem getLast_of_pendingOf {history : List Use} {action : String × String}
    (h : some action = pendingOf history) : history.getLast? = some (.set action) := by
  unfold pendingOf at h
  split at h
  · rename_i action' hlast
    cases h
    exact hlast
  · cases h

/-- A call that is served afresh, on the incident it moves. -/
theorem Traced.advance (h : Traced id trace s) {after : Incident} {e : IncidentEvent}
    (hadv : Advance d c before after e response) (hbefore : s.incidents id = before)
    (hid : e.incidentId = id)
    (hfresh : ∀ t key request, c = .create t key request → s.incidents ("inc_" ++ d.uuid) = none)
    (hafter : s'.incidents id = some after) :
    Traced id (trace ++ [(.call c d, .reply (.ok (.fresh response e)))]) s' := by
  cases hadv with
  | create =>
    obtain rfl := hid
    exact h.created (hfresh _ _ _ rfl) rfl rfl ⟨rfl, rfl, rfl⟩ hafter
  | @cancel incidentId key version incident n hv ht =>
    rw [event_incidentId] at hid
    subst hid
    obtain ⟨hversion, hstate⟩ := h.counted incident hbefore
    have hpending := h.pending incident hbefore
    -- a cancelled incident is terminal
    have hzero : cancels incidentId trace = 0 := by
      rcases hstate with ⟨hzero, -⟩ | ⟨-, hcancelled⟩
      · exact hzero
      · rw [hcancelled] at ht
        cases ht
    refine traced_of_some hafter ?_ ?_ ?_
    · rw [cancels_cancelled (by simp [cancelled]), hzero]
      refine ⟨?_, Or.inr ⟨rfl, rfl⟩⟩
      show version + 1 = 0 + 1
      omega
    · rw [uses_quiet rfl]
      exact hpending
    · rw [uses_quiet rfl]
      exact h.singleUse
  | feedback hv => exact h.quiet rfl rfl (hafter.trans hbefore.symm)
  | @approval incidentId key request incident n hv hp =>
    rw [event_incidentId] at hid
    subst hid
    have hcounted := h.counted incident hbefore
    have hlast := getLast_of_pendingOf (hp.symm.trans (h.pending incident hbefore))
    refine traced_of_some hafter ?_ ?_ ?_
    · rw [cancels_quiet rfl]
      exact hcounted
    · rw [uses_used (u := .decided (request.actionId, request.actionDigest)) (by simp [use])]
      simp [pendingOf]
    · rw [uses_used (u := .decided (request.actionId, request.actionDigest)) (by simp [use])]
      refine h.singleUse.snoc ?_
      intro action haction
      cases haction
      exact hlast

/-- A call is quiet about every incident but the one of its event. -/
theorem quiet_of_advance {after : Incident} {e : IncidentEvent}
    (hadv : Advance d c before after e response) (hid : e.incidentId ≠ id) (o : Output) :
    cancelled id (.call c d, o) = false ∧ use id (.call c d, o) = none := by
  cases hadv with
  | create => exact ⟨rfl, rfl⟩
  | cancel =>
    rw [event_incidentId] at hid
    refine ⟨?_, rfl⟩
    unfold cancelled
    split
    · rename_i heq
      cases heq
      exact decide_eq_false hid
    · rfl
  | feedback => exact ⟨rfl, rfl⟩
  | approval =>
    rw [event_incidentId] at hid
    refine ⟨rfl, ?_⟩
    unfold use
    split
    · rename_i heq
      cases heq
    · rename_i heq
      cases heq
      exact if_neg hid
    · rfl

variable (id) in
theorem quiet_of_reply {r : Except StoreError Reply}
    (hr : ∀ response e, r ≠ .ok (.fresh response e)) :
    cancelled id (.call c d, .reply r) = false ∧ use id (.call c d, .reply r) = none := by
  constructor
  · unfold cancelled
    split
    · rename_i heq
      cases heq
      exact absurd rfl (hr _ _)
    · rfl
  · unfold use
    split
    · rename_i heq
      cases heq
    · rename_i heq
      cases heq
      exact absurd rfl (hr _ _)
    · rfl

variable (id) in
theorem quiet_of_read {op : Op} (h : op.isWrite = false) (o : Output) :
    cancelled id (op, o) = false ∧ use id (op, o) = none := by
  cases op with
  | call c d => cases h
  | setPending tenantId incidentId action => cases h
  | get => exact ⟨rfl, rfl⟩
  | replay => exact ⟨rfl, rfl⟩
  | subscribe => exact ⟨rfl, rfl⟩
  | unsubscribe => exact ⟨rfl, rfl⟩
  | receive => exact ⟨rfl, rfl⟩

end Traced

section Step

variable {cfg : Config} {sha256 : String → String} {id : String} {trace : List (Op × Output)}
  {s s' : Sys} {op : Op} {o : Output}

/-- **Every operation keeps what the history says of the incidents.** -/
theorem Traced.step (h : Traced id trace s.store) (hfresh : Fresh s op)
    (hs : MemoryOperations.step cfg sha256 s op = some (s', o)) :
    Traced id (trace ++ [(op, o)]) s'.store := by
  cases operated_of_step cfg sha256 hs with
  | replayed c d prior hprior hdigest =>
    obtain ⟨hc, hu⟩ := quiet_of_reply id (c := c) (d := d)
      (r := .ok (.replayed prior.2)) nofun
    exact h.quiet hc hu rfl
  | refused c d err =>
    obtain ⟨hc, hu⟩ := quiet_of_reply id (c := c) (d := d) (r := .error err) nofun
    exact h.quiet hc hu rfl
  | emptied c d store tenantId incidentId e he hprune hidem hinc =>
    obtain ⟨hc, hu⟩ := quiet_of_reply id (c := c) (d := d) (r := .error .indexError) nofun
    rcases hinc with hsame | ⟨t, key, request, incident, rfl, hnew, hinc⟩
    · exact h.quiet hc hu (congrFun hsame id)
    · by_cases hid : id = "inc_" ++ d.uuid
      · subst hid
        refine h.created hfresh hc hu hnew ?_
        exact (congrFun hinc _).trans (Function.update_self ..)
      · refine h.quiet hc hu ?_
        exact (congrFun hinc _).trans (Function.update_of_ne hid ..)
  | fresh c d store response e ha =>
    obtain ⟨after, hadv, hincidents⟩ := ha.advance
    by_cases hid : e.incidentId = id
    · subst hid
      refine h.advance hadv rfl rfl ?_ ((congrFun hincidents _).trans (Function.update_self ..))
      rintro t key request rfl
      exact hfresh
    · obtain ⟨hc, hu⟩ := quiet_of_advance hadv hid (.reply (.ok (.fresh response e)))
      exact h.quiet hc hu ((congrFun hincidents _).trans (Function.update_of_ne (Ne.symm hid) ..))
  | pending tenantId incidentId action incident hown =>
    obtain ⟨hinc, -⟩ := owned_eq_some.1 hown
    by_cases hid : incidentId = id
    · subst hid
      have hcounted := h.counted incident hinc
      refine traced_of_some (Function.update_self ..) ?_ ?_ ?_
      · rw [cancels_quiet rfl]
        exact hcounted
      · rw [uses_used (u := .set action) (by simp [use])]
        simp [pendingOf]
      · rw [uses_used (u := .set action) (by simp [use])]
        refine h.singleUse.snoc ?_
        intro action' haction
        cases haction
    · exact h.quiet rfl (if_neg hid) (Function.update_of_ne (Ne.symm hid) ..)
  | read op o hop ho =>
    obtain ⟨hc, hu⟩ := quiet_of_read id hop o
    exact h.quiet hc hu rfl
  | queued op s' o hop ho hstore hraises =>
    obtain ⟨hc, hu⟩ := quiet_of_read id hop o
    exact h.quiet hc hu (by rw [hstore])

theorem Recorded.quiet {store store' : Store} {p : Op × Output} (h : Recorded trace store)
    (hp : answer p = none) (hsame : store'.idempotency = store.idempotency) :
    Recorded (trace ++ [p]) store' := by
  have hanswers : answers (trace ++ [p]) = answers trace := by
    rw [answers_append, hp]
    exact List.append_nil _
  refine ⟨?_, ?_, ?_⟩
  · rw [hanswers, hsame]
    exact h.unused
  · rw [hanswers, hsame]
    exact h.used
  · rw [hanswers]
    exact h.fromFirst

theorem answer_of_not_reply (h : o.isReply = false) : answer (op, o) = none := by
  unfold answer
  split
  · rename_i heq
    cases heq
    cases h
  · rfl

/-- **Every operation keeps what the answers say of the records.** -/
theorem Recorded.step (h : Recorded trace s.store)
    (hs : MemoryOperations.step cfg sha256 s op = some (s', o)) :
    Recorded (trace ++ [(op, o)]) s'.store := by
  cases operated_of_step cfg sha256 hs with
  | replayed c d prior hprior hdigest =>
    have hanswers : answers (trace ++ [(.call c d, .reply (.ok (.replayed prior.2)))]) =
        answers trace ++ [(c, .replayed prior.2)] := answers_append ..
    obtain ⟨c₀, e, hfirst⟩ := h.used c.slot prior hprior
    refine ⟨?_, ?_, ?_⟩
    · intro slot hnone p hp
      rw [hanswers, List.mem_append, List.mem_singleton] at hp
      rcases hp with hp | rfl
      · exact h.unused slot hnone p hp
      · rintro rfl
        rw [hprior] at hnone
        cases hnone
    · intro slot prior' hslot
      obtain ⟨c', e', hfind⟩ := h.used slot prior' hslot
      refine ⟨c', e', ?_⟩
      rw [hanswers, List.find?_append, hfind]
      rfl
    · rw [hanswers]
      refine h.fromFirst.snoc ?_
      intro response hresponse
      cases hresponse
      exact ⟨c₀, e, hfirst⟩
  | refused c d err => exact h.quiet rfl rfl
  | emptied c d store tenantId incidentId e he hprune hidem hinc => exact h.quiet rfl hidem
  | fresh c d store response e ha =>
    have hanswers : answers (trace ++ [(.call c d, .reply (.ok (.fresh response e)))]) =
        answers trace ++ [(c, .fresh response e)] := answers_append ..
    have hself : store.idempotency c.slot = some (c.digest sha256, response) := by
      rw [ha.recorded, Function.update_self]
    have hother : ∀ slot, slot ≠ c.slot → store.idempotency slot = s.store.idempotency slot := by
      intro slot hslot
      rw [ha.recorded, Function.update_of_ne hslot]
    -- nobody has been answered under this slot before
    have hfirst : (answers trace).find? (fun q => q.1.slot = c.slot) = none := by
      rw [List.find?_eq_none]
      intro p hp
      simpa using h.unused c.slot ha.unrecorded p hp
    refine ⟨?_, ?_, ?_⟩
    · intro slot hnone p hp
      rw [hanswers, List.mem_append, List.mem_singleton] at hp
      have hslot : slot ≠ c.slot := by
        rintro rfl
        cases hself.symm.trans hnone
      rcases hp with hp | rfl
      · exact h.unused slot ((hother slot hslot).symm.trans hnone) p hp
      · exact Ne.symm hslot
    · intro slot prior hslot
      rw [hanswers, List.find?_append]
      by_cases hc : slot = c.slot
      · subst hc
        cases hself.symm.trans hslot
        refine ⟨c, e, ?_⟩
        rw [hfirst]
        simp
      · obtain ⟨c', e', hfind⟩ := h.used slot prior ((hother slot hc).symm.trans hslot)
        refine ⟨c', e', ?_⟩
        rw [hfind]
        rfl
    · rw [hanswers]
      refine h.fromFirst.snoc ?_
      intro response' hresponse
      cases hresponse
  | pending tenantId incidentId action incident hown => exact h.quiet rfl rfl
  | read op o hop ho => exact h.quiet (answer_of_not_reply ho) rfl
  | queued op s' o hop ho hstore hraises =>
    exact h.quiet (answer_of_not_reply ho) (by rw [hstore])

theorem cancelled_step {incident : Incident} (hinc : s.store.incidents id = some incident)
    (hstate : incident.snapshot.state = .cancelled) (hfresh : Fresh s op)
    (hs : MemoryOperations.step cfg sha256 s op = some (s', o)) :
    ∃ incident', s'.store.incidents id = some incident' ∧
      incident'.snapshot.state = .cancelled := by
  cases operated_of_step cfg sha256 hs with
  | replayed => exact ⟨incident, hinc, hstate⟩
  | refused => exact ⟨incident, hinc, hstate⟩
  | emptied c d store tenantId incidentId e he hprune hidem hupdate =>
    rcases hupdate with hsame | ⟨t, key, request, incident', rfl, hnew, hupdate⟩
    · exact ⟨incident, (congrFun hsame id).trans hinc, hstate⟩
    · have hid : id ≠ "inc_" ++ d.uuid := by
        rintro rfl
        cases hinc.symm.trans hfresh
      refine ⟨incident, ?_, hstate⟩
      exact (congrFun hupdate id).trans ((Function.update_of_ne hid ..).trans hinc)
  | fresh c d store response e ha =>
    obtain ⟨after, hadv, hupdate⟩ := ha.advance
    by_cases hid : id = e.incidentId
    · subst hid
      refine ⟨after, (congrFun hupdate _).trans (Function.update_self ..), ?_⟩
      rw [hinc] at hadv
      cases hadv with
      | create => cases hinc.symm.trans hfresh
      | cancel => rfl
      | feedback => exact hstate
      | approval => exact hstate
    · refine ⟨incident, ?_, hstate⟩
      exact (congrFun hupdate id).trans ((Function.update_of_ne hid ..).trans hinc)
  | pending tenantId incidentId action incident' hown =>
    by_cases hid : id = incidentId
    · subst hid
      cases hinc.symm.trans (owned_eq_some.1 hown).1
      exact ⟨_, Function.update_self .., hstate⟩
    · exact ⟨incident, (Function.update_of_ne hid ..).trans hinc, hstate⟩
  | read => exact ⟨incident, hinc, hstate⟩
  | queued _ _ _ _ _ hstore => exact ⟨incident, hstore ▸ hinc, hstate⟩

end Step

/-! ### When a call that raises changes nothing -/

/-- The incident that a call appends to. -/
def incidentOf : Call → Draw → String
  | .create .., d => "inc_" ++ d.uuid
  | .cancel _ incidentId _ _, _ => incidentId
  | .feedback _ _ incidentId _ _, _ => incidentId
  | .approval _ incidentId _ _, _ => incidentId

/-- The checks of a call before it appends. -/
def Passes (s : Store) : Call → Prop
  | .create .. => True
  | .cancel tenantId incidentId _ version => ∃ incident, owned s tenantId incidentId = some incident ∧
      incident.snapshot.stateVersion = version ∧ incident.snapshot.state.terminal = false
  | .feedback tenantId _ incidentId _ request => ∃ incident,
      owned s tenantId incidentId = some incident ∧
      incident.snapshot.stateVersion = request.expectedStateVersion
  | .approval tenantId incidentId _ request => ∃ incident,
      owned s tenantId incidentId = some incident ∧
      incident.snapshot.stateVersion = request.expectedStateVersion ∧
      incident.pendingAction = some (request.actionId, request.actionDigest)

/-- Among the events that the count lets stay, the new one included, at least one is young enough. -/
def Young (cfg : Config) (s : Store) (c : Call) (d : Draw) : Prop :=
  let stamps := (s.events (c.slot.1, incidentOf c d)).map IncidentEvent.occurredAt ++ [d.occurredAt]
  ∃ t ∈ stamps.drop (stamps.length - cfg.retentionCount), d.prunedAt - cfg.retentionAge ≤ t

/-- A call that goes on to append keeps at least one event of its incident. -/
def Survives (cfg : Config) (s : Sys) : Op → Prop
  | .call c d => s.store.idempotency c.slot = none → Passes s.store c → Young cfg s.store c d
  | _ => True

section Raises

variable {cfg : Config} {sha256 : String → String} {err : StoreError} {c : Call}

theorem prune_ne_none_of_mem {count : ℕ} {cutoff : ℤ} {es : List IncidentEvent} {x : IncidentEvent}
    (hx : x ∈ es.drop (es.length - count)) (hyoung : cutoff ≤ x.occurredAt) :
    prune count cutoff es ≠ none := by
  induction es with
  | nil => simp at hx
  | cons e es ih =>
    simp only [prune]
    split
    · rename_i hdrop
      refine ih ?_
      by_cases hcount : count < (e :: es).length
      · -- the count alone drops the first event
        have hlength : (e :: es).length - count = es.length - count + 1 := by
          rw [List.length_cons] at hcount ⊢
          omega
        rw [hlength, List.drop_succ_cons] at hx
        exact hx
      · have hold : e.occurredAt < cutoff := by omega
        rw [List.length_cons] at hcount hx
        rw [show es.length + 1 - count = 0 by omega, List.drop_zero] at hx
        rw [show es.length - count = 0 by omega, List.drop_zero]
        rcases List.mem_cons.1 hx with rfl | hx
        · omega
        · exact hx
    · simp

/-- Appending does not raise while something is kept. -/
theorem appendLocked_ne_error {s s₁ s₂ : Store} {d : Draw} (h : Young cfg s c d)
    (hevents : s₁.events = s.events) {eventType : EventType}
    {payload : List (String × Python.Json)} :
    appendLocked cfg s₁ c.slot.1 (incidentOf c d) eventType payload d ≠ (s₂, .error err) := by
  obtain ⟨t, ht, hyoung⟩ := h
  simp only [appendLocked, hevents]
  generalize heq : event (incidentOf c d) (nextSequence (s.events (c.slot.1, incidentOf c d)))
    eventType payload d = e
  have hstamp : e.occurredAt = d.occurredAt := by
    rw [← heq]
    rfl
  have hstamps : (s.events (c.slot.1, incidentOf c d)).map IncidentEvent.occurredAt ++
      [d.occurredAt] =
        (s.events (c.slot.1, incidentOf c d) ++ [e]).map IncidentEvent.occurredAt := by
    rw [List.map_append, List.map_singleton, hstamp]
  rw [hstamps, List.length_map, ← List.map_drop, List.mem_map] at ht
  obtain ⟨x, hx, rfl⟩ := ht
  obtain ⟨kept, hkept⟩ := Option.ne_none_iff_exists'.1 (prune_ne_none_of_mem hx hyoung)
  rw [hkept]
  intro hraised
  cases hraised

theorem idempotent_error {s s' : Store} {fresh : Store × Except StoreError Reply}
    (hfresh : s.idempotency c.slot = none → fresh = (s', .error err) → s' = s)
    (h : idempotent sha256 s c fresh = (s', .error err)) : s' = s := by
  unfold idempotent at h
  split at h
  · split at h
    · cases h
      rfl
    · cases h
  · rename_i hnone
    exact hfresh hnone h

/-- **A call that raises changes nothing**, provided that it keeps an event where it appends. -/
theorem perform_error {s s' : Store} {d : Draw}
    (hyoung : s.idempotency c.slot = none → Passes s c → Young cfg s c d)
    (h : perform cfg sha256 s c d = (s', .error err)) : s' = s := by
  cases c with
  | create tenantId key request =>
    refine idempotent_error (fun hnone hraised => ?_) h
    have hkeeps := hyoung hnone trivial
    simp only at hraised
    split at hraised
    · rename_i happend
      exact absurd happend (appendLocked_ne_error hkeeps (by rfl))
    · cases hraised
  | cancel tenantId incidentId key version =>
    refine idempotent_error (fun hnone hraised => ?_) h
    split at hraised
    · cases hraised
      rfl
    rename_i incident hown
    split at hraised
    · cases hraised
      rfl
    rename_i hv
    split at hraised
    · cases hraised
      rfl
    rename_i ht
    have hkeeps := hyoung hnone ⟨incident, hown, not_not.1 hv, by simpa using ht⟩
    split at hraised
    · rename_i happend
      exact absurd happend (appendLocked_ne_error hkeeps (by rfl))
    · cases hraised
  | feedback tenantId userId incidentId key request =>
    refine idempotent_error (fun hnone hraised => ?_) h
    split at hraised
    · cases hraised
      rfl
    rename_i incident hown
    split at hraised
    · cases hraised
      rfl
    rename_i hv
    have hkeeps := hyoung hnone ⟨incident, hown, not_not.1 hv⟩
    simp only at hraised
    split at hraised
    · rename_i happend
      exact absurd happend (appendLocked_ne_error hkeeps (by rfl))
    · cases hraised
  | approval tenantId incidentId key request =>
    refine idempotent_error (fun hnone hraised => ?_) h
    split at hraised
    · cases hraised
      rfl
    rename_i incident hown
    split at hraised
    · cases hraised
      rfl
    rename_i hv
    split at hraised
    · cases hraised
      rfl
    rename_i hpending
    have hkeeps := hyoung hnone ⟨incident, hown, not_not.1 hv, not_not.1 hpending⟩
    simp only at hraised
    split at hraised
    · rename_i happend
      exact absurd happend (appendLocked_ne_error hkeeps (by rfl))
    · cases hraised

/-- **An operation that raises leaves the store and the subscribers as they were.** -/
theorem eq_of_raises {s s' : Sys} {op : Op} {o : Output} (hsurvives : Survives cfg s op)
    (hs : MemoryOperations.step cfg sha256 s op = some (s', o)) (ho : o.raises = true) : s' = s := by
  cases op with
  | call c d =>
    simp only [MemoryOperations.step, stepCall, Option.some.injEq] at hs
    split at hs
    · cases hs
      cases ho
    · rename_i store r _ hperform
      cases hs
      cases r with
      | ok reply => cases ho
      | error err => rw [perform_error hsurvives hperform]
  | setPending tenantId incidentId action =>
    simp only [MemoryOperations.step, stepPending] at hs
    split at hs
    · cases hs
      cases ho
    · cases hs
  | get tenantId incidentId =>
    cases hs
    rfl
  | replay tenantId incidentId lastEventId =>
    cases hs
    rfl
  | subscribe tenantId incidentId n bufferSize =>
    simp only [MemoryOperations.step] at hs
    split at hs
    · cases hs
    simp only [stepSubscribe] at hs
    split at hs
    · cases hs
      rfl
    · cases hs
      cases ho
  | unsubscribe tenantId incidentId n =>
    cases hs
    cases ho
  | receive tenantId n =>
    cases operated_of_step cfg sha256 hs with
    | read => rfl
    | queued _ _ _ _ _ _ hraises =>
      rw [hraises] at ho
      cases ho

end Raises

/-! ### Every run -/

instance (cfg : Config) (s : Store) (c : Call) (d : Draw) : Decidable (Young cfg s c d) :=
  inferInstanceAs (Decidable (∃ t ∈ _, _))

/-- A cancellation of an incident that may be cancelled already. -/
def again : Op := .call (.cancel "tenant-a" "inc_7" "key-4" 1) {}

end MemoryGuarantees
