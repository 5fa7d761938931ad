/-
**Checkpoints are fenced.**

A checkpoint of an agent is written under the lease of its task.  The call looks for the lease with
its own attempt and fencing token, unexpired at the instant `now()` at which its transaction began,
locks that row, and stores the checkpoint only over an older one.  Leases change hands meanwhile,
time passes, and workers that have lost their lease go on calling.

The lock on the lease row keeps it as it is until the call has committed, so the lease found by the
first statement is the lease at the commit.  Tokens of leases only grow, and the token of a stored
checkpoint was that of a lease; so a call that the current lease admits never carries a smaller
token than the checkpoint it replaces.

Main definitions:

* `Checkpoints.Timed`, `Checkpoints.step` — the state store with a clock that does not go back;
* `Checkpoints.Fenced` — what one step does to checkpoints and to the outbox;
* `Checkpoints.Grows` — what a run does to them.

Main results:

* `Checkpoints.fenced_reachable` — **checkpoints are fenced** under every interleaving, by leases that
  were running when the call began;
* `Checkpoints.not_unexpired` — the lease may have ended when the checkpoint is written.
-/

import FaultWitness.TransitionLedger

set_option autoImplicit false

namespace Checkpoints

open ReadCommitted StateStore Runs

/-! ### The store and the clock -/

/-- The store, the clock, and the calls that have written a checkpoint, in the order of their
commits; the last field only records the run. -/
structure Timed where
  sys : Sys := initial ∅
  clock : ℤ := 0
  written : List CheckpointCall := []

inductive Label
  | tick (elapsed : ℕ)
  | move (l : ReadCommitted.Label Request)

/-- The value of `now()` in a transaction is the instant at which it began. -/
def punctual (clock : ℤ) : ReadCommitted.Label Request → Bool
  | .start _ ⟨.writeCheckpoint _ now, _⟩ => now = clock
  | _ => true

/-- The call that a move has brought to its commit. -/
def writes (sys : Sys) : ReadCommitted.Label Request → List CheckpointCall
  | .exec i =>
    match sys.txs i with
    | .done ⟨.writeCheckpoint c _, _⟩ (.committed _) => [c]
    | _ => []
  | _ => []

def step (s : Timed) : Label → Option Timed
  | .tick elapsed => some { s with clock := s.clock + elapsed }
  | .move l =>
    if punctual s.clock l then
      (ReadCommitted.step body s.sys l).map fun sys =>
        { s with sys, written := s.written ++ writes sys l }
    else none

variable {s : Timed} {l : Label} {s' : Timed}

theorem step_eq_some (h : step s l = some s') :
    (s'.sys = s.sys ∧ s.clock ≤ s'.clock ∧ s'.written = s.written) ∨
      ∃ m, punctual s.clock m = true ∧ ReadCommitted.step body s.sys m = some s'.sys ∧
        s'.clock = s.clock ∧ s'.written = s.written ++ writes s'.sys m := by
  cases l with
  | tick elapsed =>
    cases h
    exact Or.inl ⟨rfl, by simp only; omega, rfl⟩
  | move m =>
    simp only [step] at h
    split at h
    · rename_i hp
      obtain ⟨sys, hs, rfl⟩ := Option.map_eq_some_iff.1 h
      exact Or.inr ⟨m, hp, hs, rfl, rfl⟩
    · cases h

theorem sys_reachable (h : Reachable step {} s) :
    Reachable (ReadCommitted.step body) (initial ∅) s.sys := by
  refine h.invariant (I := fun s => Reachable (ReadCommitted.step body) (initial ∅) s.sys) .refl ?_
  intro s l s' hr _ hs
  rcases step_eq_some hs with ⟨heq, -⟩ | ⟨m, -, hm, -, -⟩
  · rwa [heq]
  · exact hr.tail trivial hm

/-- A call never began in the future. -/
def Started (s : Timed) : Prop :=
  ∀ i c now fault tx, s.sys.txs i = .running ⟨.writeCheckpoint c now, fault⟩ tx → now ≤ s.clock

theorem Started.step (h : Started s) (hs : Checkpoints.step s l = some s') : Started s' := by
  intro i c now fault tx hi
  rcases step_eq_some hs with ⟨heq, hclock, -⟩ | ⟨m, hp, hm, hclock, -⟩
  · rw [heq] at hi
    exact (h i c now fault tx hi).trans hclock
  · rw [hclock]
    cases (move_of_step hm).seen i with
    | same heq =>
      rw [heq] at hi
      exact h i c now fault tx hi
    | start r hidle hrun =>
      -- the call begins with this step, and `now()` is the clock
      obtain rfl := start_of_running hm hidle hi
      exact le_of_eq (of_decide_eq_true hp)
    | goOn r tx₀ tx₁ h₀ _ _ h₁ =>
      rw [h₁] at hi
      cases hi
      exact h i c now fault tx₀ h₀
    | commit r tx₀ a h₀ _ h₁ =>
      rw [h₁] at hi
      cases hi
    | fail r tx₀ o h₀ _ _ h₁ =>
      rw [h₁] at hi
      cases hi

theorem started_reachable (h : Reachable step {} s) : Started s := by
  refine h.invariant (I := Started) ?_ fun _ _ _ hi _ hs => hi.step hs
  intro i c now fault tx hi
  simp [initial] at hi

/-! ### Tokens -/

/-- The token of a stored checkpoint is not larger than that of the lease. -/
def Bounded (t : Tables) : Prop :=
  ∀ tenantId taskId (stored : CheckpointRow),
    t.lookup (.checkpoint tenantId taskId) = some stored → ∃ lease : LeaseRow,
      t.lookup (.lease tenantId taskId) = some lease ∧
        stored.fencingToken ≤ (lease.fencingToken : ℤ)

variable {c : CheckpointCall} {now : ℤ}

theorem lookup_checkpoint {t t' : Tables} (h : Checkpointed c now t t') (tenantId taskId : String) :
    t'.lookup (.checkpoint tenantId taskId) =
      if tenantId = c.tenantId ∧ taskId = c.taskId then some c.row
      else t.lookup (.checkpoint tenantId taskId) := by
  rw [h.tables]
  split
  · rename_i hk
    obtain ⟨rfl, rfl⟩ := hk
    exact lookup_apply_of_mem (by simp) (by simp) t
  · rename_i hk
    exact lookup_apply_of_notMem (by simpa using hk) t

theorem lookup_lease {t t' : Tables} (h : Checkpointed c now t t') (tenantId taskId : String) :
    t'.lookup (.lease tenantId taskId) = t.lookup (.lease tenantId taskId) := by
  rw [h.tables]
  exact lookup_apply_of_notMem (by simp) t

theorem applied_frame {schema : OwnerSchema} {d : TransitionKernel.TransitionDecision}
    {tenantId eventId outboxId : String} {x : AppliedTransition} {t t' : Tables}
    (h : Applied schema d tenantId eventId outboxId t x t') (tenantId' taskId' : String) :
    t'.lookup (.lease tenantId' taskId') = t.lookup (.lease tenantId' taskId') ∧
      t'.lookup (.checkpoint tenantId' taskId') = t.lookup (.checkpoint tenantId' taskId') := by
  cases h with
  | replayed key row hkey hrow hdigest => exact ⟨rfl, rfl⟩
  | fresh key hkey hun hrange hversion hid hevent =>
    exact ⟨lookup_apply_of_notMem (by simp [freshWrites]) t,
      lookup_apply_of_notMem (by simp [freshWrites]) t⟩

theorem Bounded.exec {t t' : Tables} {r : Request} {a : Answer} (h : Bounded t)
    (he : exec (body r) t = (.committed a, t')) : Bounded t' := by
  have he := exec_body he
  intro tenantId taskId stored hstored
  cases hcall : r.call with
  | applyTransition schema d tenant eventId outboxId =>
    rw [hcall] at he
    obtain ⟨x, -, ha⟩ := exec_applyTransition he
    obtain ⟨hlease, hcheckpoint⟩ := applied_frame ha tenantId taskId
    rw [hcheckpoint] at hstored
    rw [hlease]
    exact h tenantId taskId stored hstored
  | writeCheckpoint c now =>
    rw [hcall] at he
    obtain ⟨-, hc⟩ := exec_writeCheckpoint he
    rw [lookup_checkpoint hc] at hstored
    rw [lookup_lease hc]
    split at hstored
    · rename_i hk
      obtain ⟨rfl, rfl⟩ := hk
      cases hstored
      obtain ⟨lease, hl, -, htoken, -⟩ := hc.lease
      exact ⟨lease, hl, le_of_eq htoken.symm⟩
    · exact h tenantId taskId stored hstored
  | changeLease tenant task new =>
    rw [hcall] at he
    obtain ⟨-, rfl, hfollows⟩ := exec_changeLease he
    rw [lookup_put_of_ne (by simp)] at hstored
    obtain ⟨lease, hl, hle⟩ := h tenantId taskId stored hstored
    by_cases hk : tenantId = tenant ∧ taskId = task
    · obtain ⟨rfl, rfl⟩ := hk
      refine ⟨new, lookup_put_self .., ?_⟩
      rcases hfollows lease hl with hlt | heq
      · omega
      · rw [heq]
        exact hle
    · exact ⟨lease, by rwa [lookup_put_of_ne (by simpa using hk)], hle⟩

theorem bounded_reachable (h : Reachable step {} s) : Bounded s.sys.db :=
  db_invariant guards_body (fun _ _ _ _ hI he => hI.exec he) (by simp [Bounded]) (sys_reachable h)

/-! ### What a step does -/

/-- The call of a connection ends in the step. -/
def Ends (s s' : Timed) (i : ℕ) (r : Request) (o : Outcome Answer StateError) : Prop :=
  s'.sys.txs i = .done r o ∧ s.sys.txs i ≠ .done r o

/-- What a call that writes a checkpoint has met and done. -/
structure Written (s s' : Timed) (c : CheckpointCall) (now : ℤ) : Prop where
  lease : ∃ lease : LeaseRow, s.sys.db.lookup (.lease c.tenantId c.taskId) = some lease ∧
    lease.Admits c now
  began : now ≤ s.clock
  stored : s'.sys.db.lookup (.checkpoint c.tenantId c.taskId) = some c.row
  newer : ∀ old : CheckpointRow, s.sys.db.lookup (.checkpoint c.tenantId c.taskId) = some old →
    old.stateVersion < c.stateVersion ∧ old.fencingToken ≤ c.fencingToken
  /-- One more row in the outboxes, and no other change there. -/
  unused : s.sys.db.lookup (.outbox .graphOwner c.outboxId) = none
  outbox : ∀ schema outboxId, s'.sys.db.lookup (.outbox schema outboxId) =
    if schema = .graphOwner ∧ outboxId = c.outboxId then some c.outboxRow
    else s.sys.db.lookup (.outbox schema outboxId)

theorem written_of_checkpointed (hb : Bounded s.sys.db) (hnow : now ≤ s.clock)
    (hc : Checkpointed c now s.sys.db s'.sys.db) : Written s s' c now := by
  refine ⟨hc.lease, hnow, ?_, fun old hold => ⟨hc.ordered old hold, ?_⟩, hc.unused, ?_⟩
  · rw [lookup_checkpoint hc, if_pos ⟨rfl, rfl⟩]
  · obtain ⟨lease, hl, hle⟩ := hb _ _ old hold
    obtain ⟨lease', hl', -, htoken, -⟩ := hc.lease
    rw [hl] at hl'
    cases hl'
    rwa [← htoken]
  · intro schema outboxId
    rw [hc.tables]
    split
    · rename_i hk
      obtain ⟨rfl, rfl⟩ := hk
      exact lookup_apply_of_mem (by simp) (by simp) _
    · rename_i hk
      exact lookup_apply_of_notMem (by simpa using hk) _

/-- **A step writes one checkpoint under its lease, or none.** -/
theorem written_cases (h : Reachable step {} s) (hs : step s l = some s') :
    (s'.written = s.written ∧ (∀ tenantId taskId,
        s'.sys.db.lookup (.checkpoint tenantId taskId) =
          s.sys.db.lookup (.checkpoint tenantId taskId)) ∧
        ∀ i c now fault a, ¬ Ends s s' i ⟨.writeCheckpoint c now, fault⟩ (.committed a)) ∨
      ∃ i c now fault, Ends s s' i ⟨.writeCheckpoint c now, fault⟩ (.committed .checkpointed) ∧
        (∀ j r a, Ends s s' j r (.committed a) → r = ⟨.writeCheckpoint c now, fault⟩) ∧
        s'.written = s.written ++ [c] ∧ Written s s' c now ∧
        ∀ tenantId taskId, s'.sys.db.lookup (.checkpoint tenantId taskId) =
          if tenantId = c.tenantId ∧ taskId = c.taskId then some c.row
          else s.sys.db.lookup (.checkpoint tenantId taskId) := by
  rcases step_eq_some hs with ⟨heq, -, hw⟩ | ⟨m, -, hm, -, hw⟩
  · refine Or.inl ⟨hw, fun _ _ => by rw [heq], ?_⟩
    rintro i c now fault a ⟨hdone, hnot⟩
    rw [heq] at hdone
    exact hnot hdone
  have hinv := inv_reachable guards_body (sys_reachable h)
  rcases step_cases hinv hm with ⟨hdb, hdone⟩ | ⟨i, r, tx, a, hi, hr, htxs, he⟩
  · -- no transaction has committed
    have hno : ∀ i r a, ¬ Ends s s' i r (.committed a) := by
      rintro i r a ⟨hd, hnot⟩
      exact hnot ((hdone i r a).1 hd)
    refine Or.inl ⟨?_, fun _ _ => by rw [hdb], fun i c now fault a => hno i _ a⟩
    rw [hw]
    unfold writes
    split
    · rename_i i
      split
      · rename_i c now fault a hend
        have hbefore := (hdone i _ a).1 hend
        simp [ReadCommitted.step, hbefore] at hm
      · exact List.append_nil _
    · exact List.append_nil _
  · have hself : s'.sys.txs i = .done r (.committed a) := by rw [htxs, Function.update_self]
    have hnew : Ends s s' i r (.committed a) := by
      refine ⟨hself, ?_⟩
      rw [hi]
      simp
    have honly : ∀ j r' a', Ends s s' j r' (.committed a') → r' = r := by
      rintro j r' a' ⟨hd, hnot⟩
      by_cases hj : j = i
      · subst hj
        rw [hself] at hd
        cases hd
        rfl
      · rw [htxs, Function.update_of_ne hj] at hd
        exact absurd hd hnot
    have hm' : m = .exec i := by
      refine exec_of_ne hm hi ?_ ?_
      · rw [hself, hi]
        simp
      · intro c
        rw [hself]
        simp
    subst hm'
    have hcall := exec_body he
    obtain ⟨call, fault⟩ := r
    cases call with
    | applyTransition schema d tenant eventId outboxId =>
      obtain ⟨x, -, ha⟩ := exec_applyTransition hcall
      refine Or.inl ⟨?_, fun tenantId taskId => (applied_frame ha tenantId taskId).2, ?_⟩
      · rw [hw]
        simp [writes, hself]
      · intro j c now fault a' hend
        cases honly j _ a' hend
    | writeCheckpoint c now =>
      obtain ⟨rfl, hc⟩ := exec_writeCheckpoint hcall
      have hnow := started_reachable h i c now fault tx hi
      refine Or.inr ⟨i, c, now, fault, hnew, honly, ?_,
        written_of_checkpointed (bounded_reachable h) hnow hc, lookup_checkpoint hc⟩
      rw [hw]
      simp [writes, hself]
    | changeLease tenant task new =>
      obtain ⟨-, hdb, -⟩ := exec_changeLease hcall
      refine Or.inl ⟨?_, fun tenantId taskId => ?_, ?_⟩
      · rw [hw]
        simp [writes, hself]
      · rw [hdb]
        exact lookup_put_of_ne (by simp) _
      · intro j c now fault a' hend
        cases honly j _ a' hend

/-! ### What a run does -/

/-- The calls that wrote checkpoints of a task. -/
def Timed.of (s : Timed) (tenantId taskId : String) : List CheckpointCall :=
  s.written.filter fun c => c.tenantId = tenantId ∧ c.taskId = taskId

/-- The calls of every task came in the order of their versions and tokens, and the last one is
stored. -/
structure Grows (s : Timed) : Prop where
  versions : ∀ tenantId taskId, (s.of tenantId taskId).Pairwise fun c c' =>
    c.stateVersion < c'.stateVersion
  tokens : ∀ tenantId taskId, (s.of tenantId taskId).Pairwise fun c c' =>
    c.fencingToken ≤ c'.fencingToken
  last : ∀ tenantId taskId, s.sys.db.lookup (.checkpoint tenantId taskId) =
    (s.of tenantId taskId).getLast?.map CheckpointCall.row

/-- A list that is ordered pairwise stays so when something above its last element is added. -/
theorem pairwise_concat {α : Type} {R : α → α → Prop} (htrans : ∀ a b c, R a b → R b c → R a c)
    {xs : List α} {x : α} (h : xs.Pairwise R) (hlast : ∀ y, xs.getLast? = some y → R y x) :
    (xs ++ [x]).Pairwise R := by
  rcases List.eq_nil_or_concat xs with rfl | ⟨ys, y, rfl⟩
  · simp
  · rw [List.concat_eq_append] at h hlast ⊢
    have hy : R y x := hlast y (by simp)
    rw [List.pairwise_append] at h ⊢
    refine ⟨List.pairwise_append.2 h, List.pairwise_singleton _ _, fun a ha b hb => ?_⟩
    rw [List.mem_singleton] at hb
    subst hb
    rcases List.mem_append.1 ha with ha | ha
    · exact htrans a y b (h.2.2 a ha y (by simp)) hy
    · rw [List.mem_singleton] at ha
      rwa [ha]

theorem grows_step (hr : Reachable step {} s) (h : Grows s) (hs : step s l = some s') :
    Grows s' := by
  rcases written_cases hr hs with ⟨hw, hdb, -⟩ | ⟨i, c, now, fault, -, -, hw, hwritten, hdb⟩
  · have hof : ∀ tenantId taskId, s'.of tenantId taskId = s.of tenantId taskId := by
      intro tenantId taskId
      rw [Timed.of, hw, Timed.of]
    exact ⟨fun a b => by rw [hof]; exact h.versions a b, fun a b => by rw [hof]; exact h.tokens a b,
      fun a b => by rw [hof, hdb]; exact h.last a b⟩
  · have hold : ∀ c', (s.of c.tenantId c.taskId).getLast? = some c' →
        c'.stateVersion < c.stateVersion ∧ c'.fencingToken ≤ c.fencingToken := by
      intro c' hc'
      have hlast := h.last c.tenantId c.taskId
      rw [hc'] at hlast
      exact hwritten.newer c'.row hlast
    have hof : ∀ tenantId taskId, s'.of tenantId taskId =
        if tenantId = c.tenantId ∧ taskId = c.taskId then s.of c.tenantId c.taskId ++ [c]
        else s.of tenantId taskId := by
      intro tenantId taskId
      rw [Timed.of, hw, List.filter_append]
      split
      · rename_i hk
        obtain ⟨rfl, rfl⟩ := hk
        simp [Timed.of]
      · rename_i hk
        have hne : ¬ (c.tenantId = tenantId ∧ c.taskId = taskId) :=
          fun hc => hk ⟨hc.1.symm, hc.2.symm⟩
        simp [Timed.of, hne]
    refine ⟨fun tenantId taskId => ?_, fun tenantId taskId => ?_, fun tenantId taskId => ?_⟩
    · rw [hof]
      split
      · refine pairwise_concat (fun a b c hab hbc => ?_) (h.versions _ _) fun c' hc' => ?_
        · exact lt_trans hab hbc
        · exact (hold c' hc').1
      · exact h.versions _ _
    · rw [hof]
      split
      · refine pairwise_concat (fun a b c hab hbc => ?_) (h.tokens _ _) fun c' hc' => ?_
        · exact le_trans hab hbc
        · exact (hold c' hc').2
      · exact h.tokens _ _
    · rw [hof, hdb]
      split
      · simp
      · exact h.last _ _

theorem grows_reachable (h : Reachable step {} s) : Grows s := by
  have hboth : Reachable step {} s ∧ Grows s := by
    refine h.invariant (I := fun s => Reachable step {} s ∧ Grows s) ⟨.refl, ?_⟩ ?_
    · constructor <;> simp [Timed.of, initial]
    · rintro s l s' ⟨hr, hg⟩ - hs
      exact ⟨hr.tail trivial hs, grows_step hr hg hs⟩
  exact hboth.2

/-- What steps may do to checkpoints. -/
structure Fenced (s : Timed) : Prop where
  /-- A call that succeeds was admitted by the lease, and added one row to the outbox. -/
  success : ∀ l s' i c now fault a, step s l = some s' →
    Ends s s' i ⟨.writeCheckpoint c now, fault⟩ (.committed a) → Written s s' c now
  /-- Only such a call changes a checkpoint. -/
  change : ∀ l s' tenantId taskId, step s l = some s' →
    s'.sys.db.lookup (.checkpoint tenantId taskId) ≠
        s.sys.db.lookup (.checkpoint tenantId taskId) →
      ∃ i c now fault, Ends s s' i ⟨.writeCheckpoint c now, fault⟩ (.committed .checkpointed) ∧
        c.tenantId = tenantId ∧ c.taskId = taskId
  /-- A call that raises changes nothing. -/
  refusal : ∀ l s' i r o, step s l = some s' → Ends s s' i r o → (∀ a, o ≠ .committed a) →
    s'.sys.db = s.sys.db

/-- **Checkpoints are fenced under every interleaving of calls, lease changes and time.** -/
theorem fenced_reachable {s : Timed} (h : Reachable step {} s) : Fenced s ∧ Grows s := by
  refine ⟨⟨?_, ?_, ?_⟩, grows_reachable h⟩
  · intro l s' i c now fault a hs hend
    rcases written_cases h hs with ⟨-, -, hno⟩ | ⟨i', c', now', fault', -, honly, -, hwritten, -⟩
    · exact absurd hend (hno i c now fault a)
    · cases honly i _ a hend
      exact hwritten
  · intro l s' tenantId taskId hs hne
    rcases written_cases h hs with ⟨-, hdb, -⟩ | ⟨i, c, now, fault, hend, -, -, -, hdb⟩
    · exact absurd (hdb tenantId taskId) hne
    · refine ⟨i, c, now, fault, hend, ?_⟩
      by_contra hk
      refine hne ?_
      rw [hdb, if_neg]
      exact fun hc => hk ⟨hc.1.symm, hc.2.symm⟩
  · intro l s' i r o hs hend ho
    rcases step_eq_some hs with ⟨heq, -⟩ | ⟨m, -, hm, -, -⟩
    · rw [heq]
    · exact step_of_raised (inv_reachable guards_body (sys_reachable h)) hm hend.1 hend.2 ho

/-- A call of the worker that holds the lease `attempt`. -/
def sampleCall (attempt : String) (token version : ℤ) (id : String) : CheckpointCall where
  tenantId := "tenant-a"
  taskId := "task-1"
  attemptId := attempt
  fencingToken := token
  stateVersion := version
  ciphertext := [1]
  keyId := "key-a"
  eventId := "evt-" ++ id
  outboxId := "out-" ++ id

/-- A takeover: the old worker writes, loses the lease and is refused, the new one writes. -/
def takeover : List (ReadCommitted.Label Request) :=
  .start 0 ⟨.changeLease "tenant-a" "task-1" ⟨"attempt-1", "worker-1", 1, 30⟩, none⟩ ::
    List.replicate 2 (.exec 0) ++
  .start 1 ⟨.writeCheckpoint (sampleCall "attempt-1" 1 1 "a") 0, none⟩ ::
    List.replicate 5 (.exec 1) ++
  .start 2 ⟨.changeLease "tenant-a" "task-1" ⟨"attempt-2", "worker-2", 2, 60⟩, none⟩ ::
    List.replicate 2 (.exec 2) ++
  .start 3 ⟨.writeCheckpoint (sampleCall "attempt-1" 1 2 "b") 0, none⟩ ::
    List.replicate 2 (.exec 3) ++
  .start 4 ⟨.writeCheckpoint (sampleCall "attempt-2" 2 3 "c") 0, none⟩ ::
    List.replicate 5 (.exec 4)

theorem fenced_takeover : ∃ s : Timed, Reachable step {} s ∧ (Fenced s ∧ Grows s) ∧
    s.written = [sampleCall "attempt-1" 1 1 "a", sampleCall "attempt-2" 2 3 "c"] ∧
    (s.sys.txs 3).answer.map Prod.snd = some (.raised .staleFence) := by
  obtain ⟨s, hs, hp⟩ := exists_reachable_of_test step
    (p := fun s => decide
      (s.written = [sampleCall "attempt-1" 1 1 "a", sampleCall "attempt-2" 2 3 "c"] ∧
        (s.sys.txs 3).answer.map Prod.snd = some (.raised .staleFence))) (a := {})
    (takeover.map .move) (by decide +kernel)
  exact ⟨s, hs, fenced_reachable hs, of_decide_eq_true hp⟩

/-- The call begins under a lease that ends at 30, and comes to its last statement at 100. -/
def lateCommit : List Label :=
  (takeover.take 4).map .move ++ .tick 100 :: List.replicate 4 (.move (.exec 1))

/-- **A checkpoint is written after its lease has ended**: the lease is compared with the instant at
which the transaction began. -/
theorem not_unexpired : ¬∀ s l s' i c now fault, Reachable step {} s → step s l = some s' →
    Ends s s' i ⟨.writeCheckpoint c now, fault⟩ (.committed .checkpointed) →
    ∃ lease : LeaseRow, s.sys.db.lookup (.lease c.tenantId c.taskId) = some lease ∧
      lease.Admits c s.clock := by
  intro h
  let c := sampleCall "attempt-1" 1 1 "a"
  let r : Request := ⟨.writeCheckpoint c 0, none⟩
  obtain ⟨s, hs, hp⟩ := exists_reachable_of_test step
    (p := fun s => decide
      (s.sys.db.lookup (.lease c.tenantId c.taskId) = some ⟨"attempt-1", "worker-1", 1, 30⟩ ∧
        s.clock = 100 ∧ (s.sys.txs 1).answer = none ∧
        ((step s (.move (.exec 1))).bind fun s' => (s'.sys.txs 1).answer) =
          some (r, .committed .checkpointed))) (a := {})
    lateCommit (by decide +kernel)
  obtain ⟨hlease, hclock, hbefore, hafter⟩ := of_decide_eq_true hp
  obtain ⟨s', hs', hdone⟩ := Option.bind_eq_some_iff.1 hafter
  have hends : Ends s s' 1 r (.committed .checkpointed) := by
    refine ⟨Status.answer_eq_some.1 hdone, fun hearlier => ?_⟩
    rw [Status.answer_eq_some.2 hearlier] at hbefore
    cases hbefore
  obtain ⟨lease, hfound, -, -, hunexpired⟩ := h s _ s' 1 c 0 none hs hs' hends
  rw [hlease] at hfound
  cases hfound
  rw [hclock] at hunexpired
  exact absurd hunexpired (by decide)

end Checkpoints
