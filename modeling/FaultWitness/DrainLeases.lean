/-
**Claims that exclude each other, and the constraints of the table.**

While a worker holds a delivery under a lease that still runs, no claim should hand it out again, and
what is acknowledged should never be handed out.  Neither `acknowledge` nor `retry` says which lease
it settles, so a worker whose lease has run out still acts on a delivery that another worker holds or
has finished: a late `retry` frees a delivery under the lease of another, and brings back one that is
acknowledged.  In PostgreSQL the latter leaves `acked_at` behind, which the table refuses, and the
exception ends the worker.

Main definitions:

* `DrainWorkers.Exclusive` — what the next claim hands out is nobody's;
* `DrainWorkers.CarefulMemory`, `DrainWorkers.CarefulPostgres` — no late `retry`;
* `DrainWorkers.Violates`, `DrainWorkers.GivesAcked` — a violated constraint, and its cause.

Main results:

* `DrainWorkers.exclusive_reachable` — **claims are exclusive in every run in which no worker gives
  back what is finished or what another worker holds**;
* `DrainWorkers.violates_iff` — **an update violates a constraint of the table exactly if it gives
  back what is acknowledged**.
-/

import FaultWitness.DrainWorkers

set_option autoImplicit false

namespace DrainWorkers

open Traces Leases Runs
open PostgresBuffer (Moment)

variable {B : Type} {st : Store B} {automatic : Option (List DeliverySink)}
  {statusOf : B → Key → Status} {I : B → Prop} {s s' : Sys B} {l : Label}

/-! ### Exclusive claims -/

/-- What the next claim hands out was not acknowledged before, and nobody holds it under a lease
that still runs. -/
def Exclusive (st : Store B) (automatic : Option (List DeliverySink)) (s : Sys B) : Prop :=
  ∀ w m s' drain, step st automatic s (.claim w m) = some s' → s'.workers w = .running drain →
    ∀ d ∈ drain.deliveries, d.key ∉ s.finished ∧
      ∀ h ∈ s.held, h.key = d.key → h.deadline ≤ s.clock

theorem exclusive_of_inv (hl : Lawful st statusOf I) (hi : I s.store)
    (ht : Leases.Inv (table statusOf s)) : Exclusive st automatic s := by
  intro w m s' drain hs hw d hd
  cases moved_of_step hs with
  | claimFailed w m d' sink sinks err b hw' hsinks hnone hnow hcall =>
    simp [Sys.setWorker] at hw
  | claimed w m d' sink sinks ds b hw' hsinks hnone hnow hcall =>
    simp only [Sys.setWorker, Function.update_self, Worker.running.injEq] at hw
    subst hw
    obtain ⟨-, keys, havailable, -, -, hhanded⟩ := hl.claim _ _ _ _ _ _ _ hi hcall
    refine ht.exclusive (k := d.key) ?_
    exact (havailable _ (hhanded ds rfl d hd)).imp id
      fun ⟨deadline, h, hle⟩ => ⟨deadline, h, hle.trans hnow⟩

theorem inv_of_reaches (hl : Lawful st statusOf I) {s₀ : Sys B} (h₀ : I s₀.store)
    (ht₀ : Leases.Inv (table statusOf s₀))
    (h : Reaches (step st automatic) (Careful st statusOf I) s₀ s) :
    I s.store ∧ Leases.Inv (table statusOf s) := by
  refine h.invariant (I := fun s => I s.store ∧ Leases.Inv (table statusOf s)) ⟨h₀, ht₀⟩ ?_
  rintro a l b ⟨hi, ht⟩ hc hs
  obtain ⟨hi', hsim⟩ := step_table hl hi hs
  rcases hsim hc with heq | hstep
  · exact ⟨hi', heq ▸ ht⟩
  · exact ⟨hi', hstep.inv ht⟩

/-- In the memory buffer: what is given back was not acknowledged, and no other worker holds it
under a lease that still runs. -/
def CarefulMemory (s : Sys MemoryBuffer.Buffer) (l : Label) : Prop :=
  ∀ w key, gives s l = some (w, key) →
    MemoryBuffer.statusOf s.store key ≠ .done ∧
      OthersExpired (table MemoryBuffer.statusOf s) w key

/-- In PostgreSQL: what is given back was acknowledged, so that the table refuses it, or no other
worker holds it under a lease that still runs. -/
def CarefulPostgres (s : Sys PostgresBuffer.Tables) (l : Label) : Prop :=
  ∀ w key, gives s l = some (w, key) →
    PostgresBuffer.statusOf s.store key = .done ∨
      OthersExpired (table PostgresBuffer.statusOf s) w key

theorem refuses_postgres (cfg : PostgresBuffer.Config) :
    Refuses (postgres cfg) PostgresBuffer.statusOf fun t =>
      PostgresBuffer.Sound t ∧ PostgresBuffer.Linked t := by
  intro m t ref sink code t' h hretry
  simp only [postgres] at hretry
  rcases PostgresBuffer.retry_cases m t ref sink code h.1 with
    ⟨-, heq⟩ | ⟨-, hnone, -⟩ | ⟨_, -, -, heq⟩ | ⟨-, r, hr, -, hres⟩
  · rw [heq] at hretry
    cases hretry
  · simp [PostgresBuffer.statusOf, hnone]
  · rw [heq] at hretry
    cases hretry
  · rcases hres with ⟨-, heq⟩ | ⟨hnot, -⟩
    · rw [heq] at hretry
      cases hretry
    · simp only [PostgresBuffer.statusOf, hr, PostgresBuffer.DeliveryRow.status]
      split
      · exact absurd ‹_› hnot
      · simp
      · simp

/-- **Claims are exclusive in every run in which no worker gives back what is finished or what
another worker holds.** -/
theorem exclusive_reachable (mem : MemoryBuffer.Config) (pg : PostgresBuffer.Config)
    (automatic : Option (List DeliverySink)) :
    (∀ s, Reaches (step (memory mem) automatic) CarefulMemory { store := ∅ } s →
        Exclusive (memory mem) automatic s) ∧
      ∀ s, Reaches (step (postgres pg) automatic) CarefulPostgres { store := {} } s →
        Exclusive (postgres pg) automatic s := by
  constructor
  · intro s h
    have hcareful := h.mono (D := Careful (memory mem) MemoryBuffer.statusOf fun _ => True)
      fun s l hc w key hgives => ⟨Or.inl (hc w key hgives).1, Or.inr (hc w key hgives).2⟩
    obtain ⟨hi, ht⟩ := inv_of_reaches (lawful_memory mem) trivial ⟨by simp [table], by simp [table]⟩
      hcareful
    exact exclusive_of_inv (lawful_memory mem) hi ht
  · intro s h
    have hcareful := h.mono (D := Careful (postgres pg) PostgresBuffer.statusOf fun t =>
        PostgresBuffer.Sound t ∧ PostgresBuffer.Linked t)
      fun s l hc w key hgives => ⟨Or.inr (refuses_postgres pg), hc w key hgives⟩
    obtain ⟨hi, ht⟩ := inv_of_reaches (lawful_postgres pg)
      ⟨PostgresBuffer.sound_empty, PostgresBuffer.linked_empty⟩ ⟨by simp [table], by simp [table]⟩
      hcareful
    exact exclusive_of_inv (lawful_postgres pg) hi ht

/-! ### Violated constraints -/

theorem raised_setWorker {w w₀ : ℕ} {x : Worker} {err : BufferError}
    (h : (s.setWorker w₀ x).workers w = .raised err) :
    s.workers w = .raised err ∨ w₀ = w ∧ x = .raised err := by
  by_cases hw : w = w₀
  · subst hw
    simp only [Sys.setWorker, Function.update_self] at h
    exact Or.inr ⟨rfl, h⟩
  · simp only [Sys.setWorker, Function.update_of_ne hw] at h
    exact Or.inl h

theorem raised_of_step (hs : step st automatic s l = some s') {w : ℕ} {err : BufferError}
    (hw : s'.workers w = .raised err) : s.workers w = .raised err ∨
      (∃ m sink limit b, l = .claim w m ∧
        st.claim m s.store sink limit leaseSeconds = some (.error err, b)) ∨
      ∃ m drain d ds outcome, l = .settle w m ∧ s.workers w = .running drain ∧
        drain.deliveries = d :: ds ∧ drain.outcome = some outcome ∧
        (settleCall st m s.store d outcome).1 = .error err := by
  cases moved_of_step hs with
  | waited => exact Or.inl hw
  | ingested => exact Or.inl hw
  | refused => exact Or.inl hw
  | started => exact Or.inl ((raised_setWorker hw).resolve_right (by simp))
  | claimFailed w₀ m d sink sinks err' b hw₀ hsinks hnone hnow hcall =>
    rcases raised_setWorker hw with h | ⟨rfl, h⟩
    · exact Or.inl h
    · cases h
      exact Or.inr (Or.inl ⟨m, _, _, b, rfl, hcall⟩)
  | claimed => exact Or.inl ((raised_setWorker hw).resolve_right (by simp))
  | exported => exact Or.inl ((raised_setWorker hw).resolve_right (by simp))
  | settleFailed w₀ m drain d ds outcome err' b hw₀ hds hout hcall =>
    rcases raised_setWorker hw with h | ⟨rfl, h⟩
    · exact Or.inl h
    · cases h
      exact Or.inr (Or.inr ⟨m, drain, d, ds, outcome, rfl, hw₀, hds, hout, by rw [hcall]⟩)
  | acknowledged => exact Or.inl ((raised_setWorker hw).resolve_right (by simp))
  | gaveBack => exact Or.inl ((raised_setWorker hw).resolve_right (by simp))
  | finished => exact Or.inl ((raised_setWorker hw).resolve_right (by simp))
  | stopped => exact Or.inl ((raised_setWorker hw).resolve_right (by simp))

/-- An update of the step violates a constraint of the table of deliveries, and its exception ends a
call of `drain_once`. -/
def Violates (st : Store B) (automatic : Option (List DeliverySink)) (s : Sys B) (l : Label) :
    Prop :=
  ∃ s' w, step st automatic s l = some s' ∧ s'.workers w = .raised .checkViolation ∧
    s.workers w ≠ .raised .checkViolation

/-- The step gives back a delivery that is acknowledged. -/
def GivesAcked (s : Sys PostgresBuffer.Tables) (l : Label) : Prop :=
  ∃ w key r, gives s l = some (w, key) ∧ s.store.row key = some r ∧ r.state = .acked ∧
    r.attemptCount < 2147483647

theorem sound_reachable {pg : PostgresBuffer.Config} {s : Sys PostgresBuffer.Tables}
    (h : Reachable (step (postgres pg) automatic) { store := {} } s) :
    PostgresBuffer.Sound s.store ∧ PostgresBuffer.Linked s.store :=
  h.invariant (I := fun s => PostgresBuffer.Sound s.store ∧ PostgresBuffer.Linked s.store)
    ⟨PostgresBuffer.sound_empty, PostgresBuffer.linked_empty⟩
    fun _ _ _ hi _ hs => (step_table (lawful_postgres pg) hi hs).1

/-- In a reachable state a step violates a constraint exactly if it gives back what is
acknowledged. -/
theorem violates_iff_givesAcked {pg : PostgresBuffer.Config} {s : Sys PostgresBuffer.Tables}
    (h : Reachable (step (postgres pg) automatic) { store := {} } s) (l : Label) :
    Violates (postgres pg) automatic s l ↔ GivesAcked s l := by
  obtain ⟨hsound, -⟩ := sound_reachable h
  constructor
  · rintro ⟨s', w, hs, hraised, hnot⟩
    rcases raised_of_step hs hraised with heq | ⟨m, sink, limit, b, -, hclaim⟩ |
      ⟨m, drain, d, ds, outcome, rfl, hworker, hds, hout, hcall⟩
    · exact absurd heq hnot
    · exact absurd rfl (PostgresBuffer.claim_ne_checkViolation hsound hclaim)
    · cases hcode : outcome.code with
      | none =>
        simp only [settleCall, hcode, postgres] at hcall
        exact absurd hcall (PostgresBuffer.acknowledge_ne_checkViolation _ _ _ _)
      | some code =>
        simp only [settleCall, hcode, postgres] at hcall
        obtain ⟨hvalid, r, hr, hmax, hacked⟩ :=
          (PostgresBuffer.retry_checkViolation hsound m _ _ code).1 hcall
        exact ⟨w, d.key, r, gives_settle hworker hds hout hcode hvalid, hr, hacked, hmax⟩
  · rintro ⟨w, key, r, hgives, hr, hacked, hmax⟩
    unfold gives at hgives
    split at hgives
    case h_2 => cases hgives
    rename_i w' m
    split at hgives
    case h_2 => cases hgives
    rename_i limit sinks d ds outcome acked retried claimed hworker
    split at hgives
    case h_2 => cases hgives
    rename_i code hcode
    split at hgives
    case isFalse => cases hgives
    rename_i hvalid
    cases hgives
    have hcall := (PostgresBuffer.retry_checkViolation hsound m d.trace.traceRef d.sink code).2
      ⟨hvalid, r, hr, hmax, hacked⟩
    have hsettle : (settleCall (postgres pg) m s.store d outcome).1 = .error .checkViolation := by
      simp only [settleCall, hcode, postgres]
      exact hcall
    generalize hres : settleCall (postgres pg) m s.store d outcome = result at hsettle
    obtain ⟨outcome', b⟩ := result
    simp only at hsettle
    subst hsettle
    refine ⟨{ s.setWorker w (.raised .checkViolation) with store := b }, w, ?_, ?_, ?_⟩
    · simp only [step, hworker, hres]
    · simp [Sys.setWorker]
    · rw [hworker]
      simp

/-- **An update violates a constraint of the table exactly if it gives back what is acknowledged; in
a run without such a step no check error ends a worker.** -/
theorem violates_iff (pg : PostgresBuffer.Config) (automatic : Option (List DeliverySink)) :
    (∀ s, Reachable (step (postgres pg) automatic) { store := {} } s →
        ∀ l, Violates (postgres pg) automatic s l ↔ GivesAcked s l) ∧
      ∀ s, Reaches (step (postgres pg) automatic) (fun s l => ¬ GivesAcked s l) { store := {} } s →
        ∀ w, s.workers w ≠ .raised .checkViolation := by
  refine ⟨fun s h l => violates_iff_givesAcked h l, fun s h => ?_⟩
  induction h with
  | refl =>
    intro w hw
    cases hw
  | tail hreach hcond hs ih =>
    intro w hw
    exact hcond ((violates_iff_givesAcked hreach.reachable _).1 ⟨_, w, hs, hw, ih w⟩)

/-! ### Two workers and one delivery -/

/-- The calls in which a trace is taken in and two workers claim its delivery to the archive, the
second after the lease of the first has run out. -/
structure Takeover (st : Store B) (trace : SanitizedTrace) (m₀ m₁ m₂ : Moment) (b₀ b₁ b₂ b : B) :
    Prop where
  enqueue : st.enqueue m₀ b₀ trace = (.ok true, b₁)
  first : st.claim m₁ b₁ .archive 10 leaseSeconds = some (.ok [⟨trace, .archive, 0⟩], b₂)
  first_now : m₁.now = 0
  second : st.claim m₂ b₂ .archive 10 leaseSeconds = some (.ok [⟨trace, .archive, 0⟩], b)
  second_now : m₂.now = 31000000

/-- A worker that has claimed the delivery to the archive, and its count of claims. -/
def holder (trace : SanitizedTrace) (outcome : Option ExportOutcome) : Worker :=
  .running { limit := 10, sinks := [], deliveries := [⟨trace, .archive, 0⟩], outcome, claimed := 1 }

/-- Both workers have claimed the delivery. -/
def takenOver (trace : SanitizedTrace) (b : B) : Sys B where
  store := b
  clock := 31000000
  workers := Function.update (Function.update (fun _ => .idle) 0 (holder trace none)) 1
    (holder trace none)
  held := [⟨1, (trace.traceRef, .archive), 61000000⟩, ⟨0, (trace.traceRef, .archive), 30000000⟩]
  ingested := [trace]

section Takeover

variable {trace : SanitizedTrace} {m₀ m₁ m₂ m₃ : Moment} {b₀ b₁ b₂ b b' b'' : B}

theorem seconds_leaseSeconds : seconds leaseSeconds = 30000000 := rfl

theorem Takeover.reachable (h : Takeover st trace m₀ m₁ m₂ b₀ b₁ b₂ b) :
    Reachable (step st none) { store := b₀ } (takenOver trace b) := by
  refine Reaches.of_run [.ingest m₀ trace, .start 0 10 (some [.archive]), .claim 0 m₁,
    .wait 31000000, .start 1 10 (some [.archive]), .claim 1 m₂] (fun _ _ _ => trivial) ?_
  simp [run, step, Sys.setWorker, drainSinks, h.enqueue, h.first, h.first_now, h.second,
    h.second_now, takenOver, holder, Delivery.key, seconds_leaseSeconds]

/-- The first worker gives back what the second one holds, and a third one claims it. -/
theorem Takeover.not_exclusive (h : Takeover st trace m₀ m₁ m₂ b₀ b₁ b₂ b) (m₃ m₄ : Moment)
    (hretry : st.retry m₃ b trace.traceRef .archive "unexpected_export_error" = (.ok (), b'))
    (hclaim : st.claim m₄ b' .archive 10 leaseSeconds = some (.ok [⟨trace, .archive, 1⟩], b''))
    (hnow : m₄.now = 33000000) :
    ∃ s, Reachable (step st none) { store := b₀ } s ∧ ¬ Exclusive st none s := by
  have hrun : ∃ s, run (step st none) (takenOver trace b) [.exporting 0 .unexpected, .settle 0 m₃,
      .wait 2000000, .start 2 10 (some [.archive])] = some s ∧ s.clock = 33000000 ∧
      (⟨1, (trace.traceRef, .archive), 61000000⟩ : Holding Key ℕ) ∈ s.held ∧ s.store = b' ∧
      s.workers 2 = .running { limit := 10, sinks := [.archive] } := by
    simp [run, step, Sys.setWorker, drainSinks, settleCall, ExportOutcome.code, settled, hretry,
      takenOver, holder, Delivery.key]
  obtain ⟨s, hs, hclock, hheld, hstore, hworker⟩ := hrun
  refine ⟨s, h.reachable.trans (Reaches.of_run _ (fun _ _ _ => trivial) hs), fun hexclusive => ?_⟩
  have hstep : ∃ s', step st none s (.claim 2 m₄) = some s' ∧ s'.workers 2 =
      .running { limit := 10, sinks := [], deliveries := [⟨trace, .archive, 1⟩], claimed := 1 } := by
    simp [step, Sys.setWorker, hworker, hstore, hclaim, hclock, hnow]
  obtain ⟨s', hs', hw⟩ := hstep
  have hexpired := (hexclusive 2 m₄ s' _ hs' hw _ List.mem_cons_self).2 _ hheld rfl
  rw [hclock] at hexpired
  simp at hexpired

/-- The second worker has acknowledged the delivery, and the export of the first one has failed. -/
def lateFailure (trace : SanitizedTrace) (b : B) : Sys B where
  store := b
  clock := 31000000
  workers := Function.update (Function.update (Function.update (fun _ => .idle) 0
    (holder trace none)) 1 (.running { limit := 10, sinks := [], acked := 1, claimed := 1 })) 0
    (holder trace (some .unexpected))
  held := [⟨0, (trace.traceRef, .archive), 30000000⟩]
  finished := [(trace.traceRef, .archive)]
  exports := [⟨.archive, trace, .unexpected⟩, ⟨.archive, trace, .returned⟩]
  ingested := [trace]

theorem Takeover.lateFailure_reachable (h : Takeover st trace m₀ m₁ m₂ b₀ b₁ b₂ b)
    (hack : st.acknowledge m₃ b trace.traceRef .archive = (.ok (), b')) :
    Reachable (step st none) { store := b₀ } (lateFailure trace b') := by
  refine h.reachable.trans (Reaches.of_run [.exporting 1 .returned, .settle 1 m₃,
    .exporting 0 .unexpected] (fun _ _ _ => trivial) ?_)
  simp [run, step, Sys.setWorker, settleCall, ExportOutcome.code, settled, hack, holder,
    takenOver, lateFailure, Delivery.key]

theorem Takeover.returns_finished (h : Takeover st trace m₀ m₁ m₂ b₀ b₁ b₂ b) (m₃ m₄ : Moment)
    (hack : st.acknowledge m₃ b trace.traceRef .archive = (.ok (), b'))
    (hretry : st.retry m₃ b' trace.traceRef .archive "unexpected_export_error" = (.ok (), b''))
    {b₃ : B} (hclaim : st.claim m₄ b'' .archive 10 leaseSeconds =
      some (.ok [⟨trace, .archive, 1⟩], b₃)) (hnow : m₄.now = 33000000) :
    ∃ s w drain, Reachable (step st none) { store := b₀ } s ∧ s.workers w = .running drain ∧
      drain.outcome = none ∧ ∃ d ∈ drain.deliveries, d.key ∈ s.finished := by
  have hrun : ∃ s, run (step st none) (lateFailure trace b') [.settle 0 m₃, .wait 2000000,
      .start 2 10 (some [.archive]), .claim 2 m₄] = some s ∧
      s.finished = [(trace.traceRef, .archive)] ∧ s.workers 2 = .running
        { limit := 10, sinks := [], deliveries := [⟨trace, .archive, 1⟩], claimed := 1 } := by
    simp [run, step, Sys.setWorker, drainSinks, settleCall, ExportOutcome.code, settled, hretry,
      hclaim, hnow, lateFailure, holder]
  obtain ⟨s, hs, hfinished, hworker⟩ := hrun
  refine ⟨s, 2, _, (h.lateFailure_reachable hack).trans (Reaches.of_run _ (fun _ _ _ => trivial) hs),
    hworker, rfl, _, List.mem_cons_self, ?_⟩
  rw [hfinished]
  exact List.mem_cons_self

end Takeover

/-! ### The defect in the buffers -/

def sampleMemory : MemoryBuffer.Config := ⟨sampleCipher, 1000, by decide⟩

theorem open_sampleMemory (ref : String) :
    sampleMemory.cipher.open ref (samplePayload ref) = .ok (sampleTrace ref) := by
  have hcipher : sampleMemory.cipher = sampleCipher := rfl
  rw [hcipher, open_sample]

/-- The delivery of the sample trace to the archive. -/
def sampleRecord (d : MemoryBuffer.MemoryDelivery) : MemoryBuffer.MemoryRecord :=
  MemoryBuffer.MemoryRecord.set ⟨samplePayload "trace-a", fun _ => {}⟩ .archive d

/-- The memory buffer with the sample trace. -/
def sampleBuffer (d : MemoryBuffer.MemoryDelivery) : MemoryBuffer.Buffer :=
  AList.singleton "trace-a" (sampleRecord d)

theorem claim_sampleBuffer (d : MemoryBuffer.MemoryDelivery) (now : ℤ) (hfree : ¬ d.Busy now) :
    (memory sampleMemory).claim { now } (sampleBuffer d) .archive 10 leaseSeconds =
      some (.ok [⟨sampleTrace "trace-a", .archive, d.attemptCount⟩],
        sampleBuffer (d.lease (now + 30000000))) := by
  have hopen : sampleMemory.cipher.open "trace-a" (sampleRecord d).payload =
      .ok (sampleTrace "trace-a") := open_sampleMemory "trace-a"
  have hfree' : ¬ ((sampleRecord d).deliveries .archive).Busy now := by
    simpa [sampleRecord] using hfree
  have h := MemoryBuffer.claim_singleton (sampleRecord d) hopen hfree' 10 leaseSeconds
  simp only [memory, sampleBuffer, h]
  simp [sampleRecord, MemoryBuffer.MemoryRecord.lease, MemoryBuffer.MemoryRecord.set,
    seconds_leaseSeconds]

theorem retry_sampleBuffer (d : MemoryBuffer.MemoryDelivery) (m : Moment) :
    (memory sampleMemory).retry m (sampleBuffer d) "trace-a" .archive "unexpected_export_error" =
      (.ok (), sampleBuffer
        ⟨.pending, d.attemptCount + 1, none, some "unexpected_export_error"⟩) := by
  have hcode : ValidCode "unexpected_export_error" := by decide
  have h := MemoryBuffer.retry_singleton "trace-a" (sampleRecord d) .archive hcode
  simp only [memory, sampleBuffer, h]
  simp [sampleRecord, MemoryBuffer.MemoryRecord.set]

theorem acknowledge_sampleBuffer (d : MemoryBuffer.MemoryDelivery) (m : Moment) :
    (memory sampleMemory).acknowledge m (sampleBuffer d) "trace-a" .archive =
      (.ok (), sampleBuffer
        { d with state := .acked, leaseUntil := none, lastErrorCode := none }) := by
  have h := MemoryBuffer.acknowledge_singleton "trace-a" (sampleRecord d) .archive
  simp only [memory, sampleBuffer, h]
  simp [sampleRecord, MemoryBuffer.MemoryRecord.set]

theorem enqueue_sampleBuffer :
    (memory sampleMemory).enqueue { now := 0, nonce := sampleNonce } ∅ (sampleTrace "trace-a") =
      (.ok true, sampleBuffer {}) := by
  have hseal : sampleMemory.cipher.seal (sampleTrace "trace-a") sampleNonce =
      .ok (samplePayload "trace-a") := seal_sample "trace-a"
  have h := MemoryBuffer.enqueue_empty hseal
  simp only [memory, sampleBuffer, h]
  simp [sampleRecord, MemoryBuffer.MemoryRecord.set, sampleTrace]

theorem takeover_memory : Takeover (memory sampleMemory) (sampleTrace "trace-a")
    { now := 0, nonce := sampleNonce } { now := 0 } { now := 31000000 } ∅ (sampleBuffer {})
    (sampleBuffer { state := .leased, leaseUntil := some 30000000 })
    (sampleBuffer { state := .leased, leaseUntil := some 61000000 }) :=
  ⟨enqueue_sampleBuffer, claim_sampleBuffer _ 0 (by decide), rfl,
    claim_sampleBuffer _ 31000000 (by decide), rfl⟩

open PostgresBuffer in
theorem takeover_postgres : Takeover (postgres sampleConfig) (sampleTrace sampleRef)
    { now := 0, nonce := sampleNonce } { now := 0, chosen := [sampleRef] }
    { now := 31000000, chosen := [sampleRef] } {} (sampleTables sampleRow)
    (sampleTables (sampleRow.lease 30000000)) (sampleTables (sampleRow.lease 61000000)) where
  enqueue := enqueue_sampleTables
  first := claim_sampleTables sampleRow 0 10 leaseSeconds (by decide) (by decide +kernel) (by decide)
  first_now := rfl
  second := claim_sampleTables (sampleRow.lease 30000000) 31000000 10 leaseSeconds (by decide)
    (by decide +kernel) (by decide)
  second_now := rfl

open PostgresBuffer in
/-- A late `retry` makes both buffers hand out what another worker holds, and the one in memory also
what is acknowledged. -/
theorem not_exclusive_late_retry :
    (∃ s, Reachable (step (memory sampleMemory) none) { store := ∅ } s ∧
      ¬ Exclusive (memory sampleMemory) none s) ∧
    (∃ s, Reachable (step (postgres sampleConfig) none) { store := {} } s ∧
      ¬ Exclusive (postgres sampleConfig) none s) ∧
    ∃ s w drain, Reachable (step (memory sampleMemory) none) { store := ∅ } s ∧
      s.workers w = .running drain ∧ drain.outcome = none ∧
      ∃ d ∈ drain.deliveries, d.key ∈ s.finished := by
  refine ⟨?_, ?_, ?_⟩
  · exact takeover_memory.not_exclusive { now := 31000000 } { now := 33000000 }
      (retry_sampleBuffer _ _) (claim_sampleBuffer _ 33000000 (by decide)) rfl
  · exact takeover_postgres.not_exclusive { now := 31000000 }
      { now := 33000000, chosen := [sampleRef] }
      (retry_sampleTables (sampleRow.lease 61000000) { now := 31000000 } "unexpected_export_error"
        (by decide) (by decide) (by decide))
      (claim_sampleTables ((sampleRow.lease 61000000).retried 31000000 "unexpected_export_error")
        33000000 10 leaseSeconds (by decide) (by decide +kernel) (by decide)) rfl
  · exact takeover_memory.returns_finished { now := 31000000 } { now := 33000000 }
      (acknowledge_sampleBuffer _ _) (retry_sampleBuffer _ _)
      (claim_sampleBuffer _ 33000000 (by decide)) rfl

open PostgresBuffer in
/-- A late `retry` violates a constraint of the table. -/
theorem violates_late_retry : ∃ s l, Reachable (step (postgres sampleConfig) none) { store := {} } s ∧
    Violates (postgres sampleConfig) none s l := by
  have hreach := takeover_postgres.lateFailure_reachable
    (acknowledge_sampleTables (sampleRow.lease 61000000) { now := 31000000 } (by decide))
  refine ⟨_, .settle 0 { now := 31000000 }, hreach, (violates_iff_givesAcked hreach _).2 ?_⟩
  refine ⟨0, (sampleRef, .archive), _, ?_, row_sampleTables _, rfl, by decide⟩
  rfl

/-! ### A delivery given back in time -/

/-- The worker that claimed the delivery saw its export fail. -/
def failed (trace : SanitizedTrace) (b : B) : Sys B where
  store := b
  workers := Function.update (fun _ => .idle) 0 (holder trace (some .unexpected))
  held := [⟨0, (trace.traceRef, .archive), 30000000⟩]
  exports := [⟨.archive, trace, .unexpected⟩]
  ingested := [trace]

/-- It has given the delivery back. -/
def givenBack (trace : SanitizedTrace) (b : B) : Sys B where
  store := b
  workers := Function.update (fun _ => .idle) 0
    (.running { limit := 10, sinks := [], retried := 1, claimed := 1 })
  exports := [⟨.archive, trace, .unexpected⟩]
  ingested := [trace]

theorem reaches_givenBack {C : Sys B → Label → Prop} {trace : SanitizedTrace}
    (m₀ m₁ m₂ : Moment) {b₀ b₁ b₂ b : B} (hC : ∀ s l, gives s l = none → C s l)
    (hsettle : C (failed trace b₂) (.settle 0 m₂))
    (henqueue : st.enqueue m₀ b₀ trace = (.ok true, b₁))
    (hclaim : st.claim m₁ b₁ .archive 10 leaseSeconds = some (.ok [⟨trace, .archive, 0⟩], b₂))
    (hnow : m₁.now = 0)
    (hretry : st.retry m₂ b₂ trace.traceRef .archive "unexpected_export_error" = (.ok (), b)) :
    Reaches (step st none) C { store := b₀ } (givenBack trace b) := by
  have hfailed : Reaches (step st none) C { store := b₀ } (failed trace b₂) := by
    refine Reaches.of_run [.ingest m₀ trace, .start 0 10 (some [.archive]), .claim 0 m₁,
      .exporting 0 .unexpected] (fun l hl s => hC s l ?_) ?_
    · simp only [List.mem_cons, List.not_mem_nil, or_false] at hl
      rcases hl with rfl | rfl | rfl | rfl <;> rfl
    · simp [run, step, Sys.setWorker, drainSinks, henqueue, hclaim, hnow, failed, holder,
        Delivery.key, seconds_leaseSeconds]
  refine hfailed.tail hsettle ?_
  simp [step, Sys.setWorker, settleCall, ExportOutcome.code, settled, hretry, failed, holder,
    givenBack, Delivery.key]

theorem othersExpired_failed (statusOf : B → Key → Status) (trace : SanitizedTrace) (b : B) :
    OthersExpired (table statusOf (failed trace b)) 0 (trace.traceRef, .archive) := by
  intro held hheld _ hne
  rw [List.mem_singleton.1 hheld] at hne
  exact absurd rfl hne

theorem reaches_givenBack_memory {C : Sys MemoryBuffer.Buffer → Label → Prop}
    (hC : ∀ s l, gives s l = none → C s l)
    (hsettle : C (failed (sampleTrace "trace-a")
      (sampleBuffer { state := .leased, leaseUntil := some 30000000 })) (.settle 0 { now := 0 })) :
    Reaches (step (memory sampleMemory) none) C { store := ∅ } (givenBack (sampleTrace "trace-a")
      (sampleBuffer ⟨.pending, 1, none, some "unexpected_export_error"⟩)) :=
  reaches_givenBack { now := 0, nonce := sampleNonce } { now := 0 } { now := 0 } hC hsettle
    enqueue_sampleBuffer (claim_sampleBuffer _ 0 (by decide)) rfl (retry_sampleBuffer _ _)

open PostgresBuffer in
theorem reaches_givenBack_postgres {C : Sys Tables → Label → Prop}
    (hC : ∀ s l, gives s l = none → C s l)
    (hsettle : C (failed (sampleTrace sampleRef) (sampleTables (sampleRow.lease 30000000)))
      (.settle 0 { now := 0 })) :
    Reaches (step (postgres sampleConfig) none) C { store := {} } (givenBack (sampleTrace sampleRef)
      (sampleTables ((sampleRow.lease 30000000).retried 0 "unexpected_export_error"))) :=
  reaches_givenBack { now := 0, nonce := sampleNonce } { now := 0, chosen := [sampleRef] }
    { now := 0 } hC hsettle enqueue_sampleTables
    (claim_sampleTables sampleRow 0 10 leaseSeconds (by decide) (by decide +kernel) (by decide)) rfl
    (retry_sampleTables (sampleRow.lease 30000000) { now := 0 } "unexpected_export_error"
      (by decide) (by decide) (by decide))

open PostgresBuffer in
theorem exclusive_givenBack :
    Exclusive (memory sampleMemory) none (givenBack (sampleTrace "trace-a")
      (sampleBuffer ⟨.pending, 1, none, some "unexpected_export_error"⟩)) ∧
    Exclusive (postgres sampleConfig) none (givenBack (sampleTrace sampleRef)
      (sampleTables ((sampleRow.lease 30000000).retried 0 "unexpected_export_error"))) := by
  have h := exclusive_reachable sampleMemory sampleConfig none
  refine ⟨h.1 _ (reaches_givenBack_memory ?_ ?_), h.2 _ (reaches_givenBack_postgres ?_ ?_)⟩
  · intro s l hl w key hgives
    rw [hl] at hgives
    cases hgives
  · intro w key hgives
    cases hgives
    exact ⟨by decide, othersExpired_failed _ _ _⟩
  · intro s l hl w key hgives
    rw [hl] at hgives
    cases hgives
  · intro w key hgives
    cases hgives
    exact Or.inr (othersExpired_failed _ _ _)

open PostgresBuffer in
theorem not_raised_givenBack :
    (givenBack (sampleTrace sampleRef) (sampleTables
      ((sampleRow.lease 30000000).retried 0 "unexpected_export_error"))).workers 0 ≠
        .raised .checkViolation := by
  refine (violates_iff sampleConfig none).2 _ (reaches_givenBack_postgres ?_ ?_) 0
  · rintro s l hl ⟨w, key, r, hgives, -⟩
    rw [hl] at hgives
    cases hgives
  · rintro ⟨w, key, r, hgives, hr, hacked, -⟩
    cases hgives
    have hrow := row_sampleTables (sampleRow.lease 30000000)
    rw [Tables.row] at hr
    cases hr.symm.trans hrow
    cases hacked

end DrainWorkers
