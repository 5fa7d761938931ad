/-
**Workers that drain a trace buffer.**

`TraceExportService.drain_once` claims the deliveries of one sink after the other, exports each of
them and settles it: `acknowledge` after an export that returned, `retry` after one that failed.  Any
number of workers do so, each step of each at any time; exports fail in any way, workers stop
between any two steps, and leases run out while an export is still under way.

The workers run over a store, which is either buffer; what the proofs need of one is `Lawful`: how
each call changes what the store says of a delivery.

Main definitions:

* `DrainWorkers.Store`, `DrainWorkers.memory`, `DrainWorkers.postgres` — the two buffers;
* `DrainWorkers.Sys`, `DrainWorkers.step` — the workers over a store;
* `DrainWorkers.Lawful` — what the calls of a store do to a delivery.

Main results:

* `DrainWorkers.lawful_memory`, `DrainWorkers.lawful_postgres` — both buffers are lawful;
* `DrainWorkers.step_table` — **every careful step of a worker is a step of the leases**.
-/

import FaultWitness.MemoryBuffer
import FaultWitness.PostgresBuffer
import FaultWitness.Runs

set_option autoImplicit false

namespace DrainWorkers

open Traces Leases Runs
open PostgresBuffer (Moment)

/-! ### Stores -/

/-- The calls of a trace buffer.  A claim is `none` where its surroundings do not allow the choice
of rows that it is given. -/
structure Store (B : Type) where
  enqueue : Moment → B → SanitizedTrace → Except BufferError Bool × B
  claim : Moment → B → DeliverySink → (limit leaseSeconds : ℤ) →
    Option (Except BufferError (List Delivery) × B)
  acknowledge : Moment → B → String → DeliverySink → Except BufferError Unit × B
  retry : Moment → B → String → DeliverySink → String → Except BufferError Unit × B

def memory (cfg : MemoryBuffer.Config) : Store MemoryBuffer.Buffer where
  enqueue m b trace := MemoryBuffer.enqueue cfg b trace m.nonce
  claim m b sink limit leaseSeconds := some (MemoryBuffer.claim cfg b sink limit leaseSeconds m.now)
  acknowledge _ b ref sink := MemoryBuffer.acknowledge b ref sink
  retry _ b ref sink code := MemoryBuffer.retry b ref sink code

def postgres (cfg : PostgresBuffer.Config) : Store PostgresBuffer.Tables where
  enqueue := PostgresBuffer.enqueue cfg
  claim := PostgresBuffer.claim cfg
  acknowledge := PostgresBuffer.acknowledge
  retry := PostgresBuffer.retry

/-! ### Workers -/

/-- How a call of `export` ends. -/
inductive ExportOutcome
  | returned
  /-- An `ExportFailure` with its code. -/
  | failed (code : String)
  /-- Any other exception. -/
  | unexpected
deriving DecidableEq

/-- The code with which a delivery is given back. -/
def ExportOutcome.code : ExportOutcome → Option String
  | .returned => none
  | .failed code => some code
  | .unexpected => some "unexpected_export_error"

/-- A call of `drain_once` under way: the sinks not claimed yet, the deliveries claimed and not
settled, the outcome of exporting the first of them, and the counts. -/
structure Drain where
  limit : ℤ
  sinks : List DeliverySink
  deliveries : List Delivery := []
  outcome : Option ExportOutcome := none
  acked : ℕ := 0
  retried : ℕ := 0
  claimed : ℕ := 0

inductive Worker
  | idle
  | running (d : Drain)
  | returned (acked retried claimed : ℕ)
  | raised (err : BufferError)
  | stopped

/-- The sinks that `drain_once` goes through. -/
def drainSinks (automatic given : Option (List DeliverySink)) : List DeliverySink :=
  match given with
  | some (sink :: sinks) => sink :: sinks
  | _ =>
    match automatic with
    | some (sink :: sinks) => sink :: sinks
    | _ => DeliverySink.all

/-- A call of `export` that has ended. -/
structure Export where
  sink : DeliverySink
  trace : SanitizedTrace
  outcome : ExportOutcome
deriving DecidableEq

/-- The store and its workers.  The last four fields record the run: what workers hold, what was
acknowledged, the exports that ended, and the traces that were taken in. -/
structure Sys (B : Type) where
  store : B
  clock : ℤ := 0
  workers : ℕ → Worker := fun _ => .idle
  held : List (Holding Key ℕ) := []
  finished : List Key := []
  exports : List Export := []
  ingested : List SanitizedTrace := []

/-- A step. -/
inductive Label
  | wait (n : ℕ)
  | ingest (m : Moment) (trace : SanitizedTrace)
  | start (w : ℕ) (limit : ℤ) (sinks : Option (List DeliverySink))
  | claim (w : ℕ) (m : Moment)
  | exporting (w : ℕ) (outcome : ExportOutcome)
  | settle (w : ℕ) (m : Moment)
  | finish (w : ℕ)
  | stop (w : ℕ)

/-- The default of `lease_seconds`. -/
def leaseSeconds : ℤ := 30

variable {B : Type} (st : Store B) (automatic : Option (List DeliverySink))

/-- The call that settles a delivery. -/
def settleCall (m : Moment) (b : B) (d : Delivery) (o : ExportOutcome) :
    Except BufferError Unit × B :=
  match o.code with
  | none => st.acknowledge m b d.trace.traceRef d.sink
  | some code => st.retry m b d.trace.traceRef d.sink code

def Sys.setWorker (s : Sys B) (w : ℕ) (worker : Worker) : Sys B :=
  { s with workers := Function.update s.workers w worker }

def step (s : Sys B) : Label → Option (Sys B)
  | .wait n => some { s with clock := s.clock + n }
  | .ingest m trace =>
    match st.enqueue m s.store trace with
    | (.ok true, b) => some { s with store := b, ingested := trace :: s.ingested }
    | (_, b) => some { s with store := b }
  | .start w limit sinks =>
    match s.workers w with
    | .running _ => none
    | _ => some (s.setWorker w (.running { limit, sinks := drainSinks automatic sinks }))
  | .claim w m =>
    match s.workers w with
    | .running ⟨limit, sink :: sinks, [], _, acked, retried, claimed⟩ =>
      if m.now ≤ s.clock then
        match st.claim m s.store sink limit leaseSeconds with
        | none => none
        | some (.error err, b) => some { s.setWorker w (.raised err) with store := b }
        | some (.ok ds, b) =>
          some { s.setWorker w
              (.running ⟨limit, sinks, ds, none, acked, retried, claimed + ds.length⟩) with
            store := b
            held := (ds.map Delivery.key).map (fun key =>
              ⟨w, key, m.now + seconds leaseSeconds⟩) ++ s.held }
      else none
    | _ => none
  | .exporting w outcome =>
    match s.workers w with
    | .running ⟨limit, sinks, d :: ds, none, acked, retried, claimed⟩ =>
      some { s.setWorker w
          (.running ⟨limit, sinks, d :: ds, some outcome, acked, retried, claimed⟩) with
        exports := ⟨d.sink, d.trace, outcome⟩ :: s.exports }
    | _ => none
  | .settle w m =>
    match s.workers w with
    | .running ⟨limit, sinks, d :: ds, some outcome, acked, retried, claimed⟩ =>
      match settleCall st m s.store d outcome with
      | (.error err, b) => some { s.setWorker w (.raised err) with store := b }
      | (.ok (), b) =>
        match outcome.code with
        | none =>
          some { s.setWorker w
              (.running ⟨limit, sinks, ds, none, acked + 1, retried, claimed⟩) with
            store := b
            held := settled s.held w d.key
            finished := d.key :: s.finished }
        | some _ =>
          some { s.setWorker w
              (.running ⟨limit, sinks, ds, none, acked, retried + 1, claimed⟩) with
            store := b
            held := settled s.held w d.key }
    | _ => none
  | .finish w =>
    match s.workers w with
    | .running ⟨_, [], [], _, acked, retried, claimed⟩ =>
      some (s.setWorker w (.returned acked retried claimed))
    | _ => none
  | .stop w => some (s.setWorker w .stopped)

variable {st automatic}

variable {m : Moment} {ds : List Delivery}

theorem step_ingest {s : Sys B} {trace : SanitizedTrace} {b : B}
    (hcall : st.enqueue m s.store trace = (.ok true, b)) :
    step st automatic s (.ingest m trace) =
      some { s with store := b, ingested := trace :: s.ingested } := by
  rw [step, hcall]

theorem step_claim {s : Sys B} {w : ℕ} {limit : ℤ} {sink : DeliverySink}
    {sinks : List DeliverySink} {last : Option ExportOutcome} {acked retried claimed : ℕ}
    (hworker : s.workers w = .running ⟨limit, sink :: sinks, [], last, acked, retried, claimed⟩)
    (hnow : m.now ≤ s.clock) {b : B}
    (hcall : st.claim m s.store sink limit leaseSeconds = some (.ok ds, b)) :
    step st automatic s (.claim w m) = some
      { s.setWorker w (.running ⟨limit, sinks, ds, none, acked, retried, claimed + ds.length⟩) with
        store := b
        held := (ds.map Delivery.key).map (fun key => ⟨w, key, m.now + seconds leaseSeconds⟩) ++
          s.held } := by
  simp only [step, hworker, if_pos hnow, hcall]

variable (st automatic)

/-! ### What a step does -/

/-- The steps of the system, one case for each way in which a label is carried out. -/
inductive Moved (st : Store B) (automatic : Option (List DeliverySink)) (s : Sys B) :
    Label → Sys B → Prop
  | waited (n : ℕ) : Moved st automatic s (.wait n) { s with clock := s.clock + n }
  | ingested (m : Moment) (trace : SanitizedTrace) (b : B)
      (hcall : st.enqueue m s.store trace = (.ok true, b)) :
      Moved st automatic s (.ingest m trace)
        { s with store := b, ingested := trace :: s.ingested }
  | refused (m : Moment) (trace : SanitizedTrace) (r : Except BufferError Bool) (b : B)
      (hcall : st.enqueue m s.store trace = (r, b)) (hr : r ≠ .ok true) :
      Moved st automatic s (.ingest m trace) { s with store := b }
  | started (w : ℕ) (limit : ℤ) (sinks : Option (List DeliverySink))
      (hw : ∀ d, s.workers w ≠ .running d) :
      Moved st automatic s (.start w limit sinks)
        (s.setWorker w (.running { limit, sinks := drainSinks automatic sinks }))
  | claimFailed (w : ℕ) (m : Moment) (d : Drain) (sink : DeliverySink) (sinks : List DeliverySink)
      (err : BufferError) (b : B) (hw : s.workers w = .running d) (hsinks : d.sinks = sink :: sinks)
      (hnone : d.deliveries = []) (hnow : m.now ≤ s.clock)
      (hcall : st.claim m s.store sink d.limit leaseSeconds = some (.error err, b)) :
      Moved st automatic s (.claim w m) { s.setWorker w (.raised err) with store := b }
  | claimed (w : ℕ) (m : Moment) (d : Drain) (sink : DeliverySink) (sinks : List DeliverySink)
      (ds : List Delivery) (b : B) (hw : s.workers w = .running d) (hsinks : d.sinks = sink :: sinks)
      (hnone : d.deliveries = []) (hnow : m.now ≤ s.clock)
      (hcall : st.claim m s.store sink d.limit leaseSeconds = some (.ok ds, b)) :
      Moved st automatic s (.claim w m)
        { s.setWorker w (.running
            ⟨d.limit, sinks, ds, none, d.acked, d.retried, d.claimed + ds.length⟩) with
          store := b
          held := (ds.map Delivery.key).map (fun key =>
            ⟨w, key, m.now + seconds leaseSeconds⟩) ++ s.held }
  | exported (w : ℕ) (outcome : ExportOutcome) (drain : Drain) (d : Delivery) (ds : List Delivery)
      (hw : s.workers w = .running drain) (hds : drain.deliveries = d :: ds)
      (hnone : drain.outcome = none) :
      Moved st automatic s (.exporting w outcome)
        { s.setWorker w (.running { drain with outcome := some outcome }) with
          exports := ⟨d.sink, d.trace, outcome⟩ :: s.exports }
  | settleFailed (w : ℕ) (m : Moment) (drain : Drain) (d : Delivery) (ds : List Delivery)
      (outcome : ExportOutcome) (err : BufferError) (b : B) (hw : s.workers w = .running drain)
      (hds : drain.deliveries = d :: ds) (hout : drain.outcome = some outcome)
      (hcall : settleCall st m s.store d outcome = (.error err, b)) :
      Moved st automatic s (.settle w m) { s.setWorker w (.raised err) with store := b }
  | acknowledged (w : ℕ) (m : Moment) (drain : Drain) (d : Delivery) (ds : List Delivery) (b : B)
      (hw : s.workers w = .running drain) (hds : drain.deliveries = d :: ds)
      (hout : drain.outcome = some .returned)
      (hcall : st.acknowledge m s.store d.trace.traceRef d.sink = (.ok (), b)) :
      Moved st automatic s (.settle w m)
        { s.setWorker w (.running ⟨drain.limit, drain.sinks, ds, none, drain.acked + 1,
            drain.retried, drain.claimed⟩) with
          store := b
          held := settled s.held w d.key
          finished := d.key :: s.finished }
  | gaveBack (w : ℕ) (m : Moment) (drain : Drain) (d : Delivery) (ds : List Delivery)
      (outcome : ExportOutcome) (code : String) (b : B) (hw : s.workers w = .running drain)
      (hds : drain.deliveries = d :: ds) (hout : drain.outcome = some outcome)
      (hcode : outcome.code = some code)
      (hcall : st.retry m s.store d.trace.traceRef d.sink code = (.ok (), b)) :
      Moved st automatic s (.settle w m)
        { s.setWorker w (.running ⟨drain.limit, drain.sinks, ds, none, drain.acked,
            drain.retried + 1, drain.claimed⟩) with
          store := b
          held := settled s.held w d.key }
  | finished (w : ℕ) (d : Drain) (hw : s.workers w = .running d) (hsinks : d.sinks = [])
      (hds : d.deliveries = []) :
      Moved st automatic s (.finish w) (s.setWorker w (.returned d.acked d.retried d.claimed))
  | stopped (w : ℕ) : Moved st automatic s (.stop w) (s.setWorker w .stopped)

theorem ExportOutcome.code_eq_none {o : ExportOutcome} : o.code = none ↔ o = .returned := by
  cases o <;> simp [ExportOutcome.code]

/-- **Every step is one of the cases.** -/
theorem moved_of_step {st : Store B} {automatic : Option (List DeliverySink)} {s s' : Sys B}
    {l : Label} (hs : step st automatic s l = some s') : Moved st automatic s l s' := by
  cases l with
  | wait n =>
    cases hs
    exact .waited n
  | ingest m trace =>
    simp only [step] at hs
    split at hs
    · rename_i b hcall
      cases hs
      exact .ingested m trace b hcall
    · rename_i r b hr hcall
      cases hs
      exact .refused m trace r b hcall hr
  | start w limit sinks =>
    simp only [step] at hs
    split at hs
    · cases hs
    · rename_i hw
      cases hs
      exact .started w limit sinks hw
  | claim w m =>
    simp only [step] at hs
    split at hs
    case h_2 => cases hs
    rename_i limit sink sinks outcome acked retried claimed hw
    split at hs
    case isFalse => cases hs
    rename_i hnow
    split at hs
    · cases hs
    · rename_i err b hcall
      cases hs
      exact .claimFailed w m _ sink sinks err b hw rfl rfl hnow hcall
    · rename_i ds b hcall
      cases hs
      exact .claimed w m _ sink sinks ds b hw rfl rfl hnow hcall
  | exporting w outcome =>
    simp only [step] at hs
    split at hs
    · rename_i limit sinks d ds acked retried claimed hw
      cases hs
      exact .exported w outcome _ d ds hw rfl rfl
    · cases hs
  | settle w m =>
    simp only [step] at hs
    split at hs
    case h_2 => cases hs
    rename_i limit sinks d ds outcome acked retried claimed hw
    split at hs
    · rename_i err b hcall
      cases hs
      exact .settleFailed w m _ d ds outcome err b hw rfl rfl hcall
    · rename_i b hcall
      split at hs
      · rename_i hcode
        cases hs
        obtain rfl := ExportOutcome.code_eq_none.1 hcode
        exact .acknowledged w m _ d ds b hw rfl rfl hcall
      · rename_i code hcode
        cases hs
        simp only [settleCall, hcode] at hcall
        exact .gaveBack w m _ d ds outcome code b hw rfl rfl hcode hcall
  | finish w =>
    simp only [step] at hs
    split at hs
    · rename_i limit outcome acked retried claimed hw
      cases hs
      exact .finished w _ hw rfl rfl
    · cases hs
  | stop w =>
    cases hs
    exact .stopped w

/-! ### What the calls do to a delivery -/

/-- How the calls of a store change what it says of deliveries, on stores that meet `I`. -/
structure Lawful (st : Store B) (statusOf : B → Key → Status) (I : B → Prop) : Prop where
  enqueue : ∀ m b trace, I b →
    I (st.enqueue m b trace).2 ∧ statusOf (st.enqueue m b trace).2 = statusOf b
  claim : ∀ m b sink limit lease result b', I b →
    st.claim m b sink limit lease = some (result, b') →
      I b' ∧ ∃ keys : List Key,
        (∀ key ∈ keys, statusOf b key = .free ∨
          ∃ deadline, statusOf b key = .leased deadline ∧ deadline ≤ m.now) ∧
        (∀ key ∈ keys, statusOf b' key = .leased (m.now + seconds lease)) ∧
        (∀ key, key ∉ keys → statusOf b' key = statusOf b key) ∧
        ∀ ds, result = .ok ds → ∀ d ∈ ds, d.key ∈ keys
  acknowledge : ∀ m b ref sink, I b →
    (∃ err, st.acknowledge m b ref sink = (.error err, b)) ∨
      ∃ b', st.acknowledge m b ref sink = (.ok (), b') ∧ I b' ∧
        statusOf b' = Function.update (statusOf b) (ref, sink) .done
  retry : ∀ m b ref sink code, I b →
    (∃ err, st.retry m b ref sink code = (.error err, b)) ∨
      ∃ b', st.retry m b ref sink code = (.ok (), b') ∧ ValidCode code ∧ I b' ∧
        statusOf b' = Function.update (statusOf b) (ref, sink) .free

theorem statusOf_put {b : MemoryBuffer.Buffer} {ref : String} {r : MemoryBuffer.MemoryRecord}
    (hr : b.lookup ref = some r) (sink : DeliverySink) (d : MemoryBuffer.MemoryDelivery) :
    MemoryBuffer.statusOf (MemoryBuffer.put b ref r sink d) =
      Function.update (MemoryBuffer.statusOf b) (ref, sink) d.status := by
  funext key
  obtain ⟨ref', sink'⟩ := key
  simp only [MemoryBuffer.statusOf, MemoryBuffer.lookup_put, Function.update_apply, Prod.mk.injEq]
  by_cases hr' : ref' = ref
  · subst hr'
    by_cases hsink : sink' = sink
    · simp [hsink]
    · simp [hr, hsink]
  · simp [hr']

theorem available_of_not_busy {d : MemoryBuffer.MemoryDelivery} {now : ℤ} (h : ¬ d.Busy now) :
    d.status = .free ∨ ∃ deadline, d.status = .leased deadline ∧ deadline ≤ now := by
  simp only [MemoryBuffer.MemoryDelivery.Busy, not_or, not_and, not_exists] at h
  obtain ⟨hacked, hleased⟩ := h
  unfold MemoryBuffer.MemoryDelivery.status
  cases hstate : d.state with
  | acked => exact absurd hstate hacked
  | pending => exact Or.inl rfl
  | leased =>
    cases huntil : d.leaseUntil with
    | none => exact Or.inl rfl
    | some deadline => exact Or.inr ⟨deadline, rfl, not_lt.1 (hleased hstate deadline huntil)⟩

theorem lawful_memory (cfg : MemoryBuffer.Config) :
    Lawful (memory cfg) MemoryBuffer.statusOf fun _ => True where
  enqueue m b trace _ := by
    refine ⟨trivial, ?_⟩
    rcases MemoryBuffer.enqueue_cases cfg b trace m.nonce with ⟨hb, -⟩ | ⟨p, -, hnone, -, heq⟩
    · exact congrArg MemoryBuffer.statusOf hb
    · simp only [memory, heq]
      funext key
      simp only [MemoryBuffer.statusOf]
      by_cases hkey : key.1 = trace.traceRef
      · rw [hkey, AList.lookup_insert, hnone]
        rfl
      · rw [AList.lookup_insert_ne hkey]
  claim m b sink limit lease result b' _ h := by
    simp only [memory, Option.some.injEq] at h
    obtain ⟨leased, hloop⟩ := MemoryBuffer.loop_claim cfg b sink limit lease m.now
    rw [h] at hloop
    refine ⟨trivial, leased.map fun ref => (ref, sink), ?_, ?_, ?_, ?_⟩
    · intro key hkey
      obtain ⟨ref, href, rfl⟩ := List.mem_map.1 hkey
      obtain ⟨r, hr, hfree⟩ := hloop.leases.free ref href
      simp only [MemoryBuffer.statusOf, hr]
      exact available_of_not_busy hfree
    · intro key hkey
      obtain ⟨ref, href, rfl⟩ := List.mem_map.1 hkey
      obtain ⟨r, hr, -⟩ := hloop.leases.free ref href
      simp [MemoryBuffer.statusOf, hloop.leases.lookup, href, hr, MemoryBuffer.MemoryRecord.lease,
        MemoryBuffer.MemoryDelivery.lease, MemoryBuffer.MemoryDelivery.status]
    · rintro ⟨ref, sink'⟩ hkey
      simp only [MemoryBuffer.statusOf, hloop.leases.lookup]
      by_cases href : ref ∈ leased
      · -- the delivery of another sink
        obtain ⟨r, hr, -⟩ := hloop.leases.free ref href
        have hsink : sink' ≠ sink := by
          rintro rfl
          exact hkey (List.mem_map_of_mem href)
        simp [href, hr, hsink, MemoryBuffer.MemoryRecord.lease]
      · simp [href]
    · intro ds hds d hd
      obtain ⟨new, hnew, hall⟩ := hloop.handed ds hds
      rw [hnew, List.nil_append] at hd
      obtain ⟨ref, href, hhands⟩ := MemoryBuffer.exists_of_forall₂ hall hd
      rw [hhands.key]
      exact List.mem_map_of_mem href
  acknowledge m b ref sink _ := by
    rcases MemoryBuffer.acknowledge_cases b ref sink with ⟨-, h⟩ | ⟨record, hr, h⟩
    · exact Or.inl ⟨_, h⟩
    · refine Or.inr ⟨_, h, trivial, ?_⟩
      rw [statusOf_put hr]
      rfl
  retry m b ref sink code _ := by
    rcases MemoryBuffer.retry_cases b ref sink code with ⟨hb, h⟩ | ⟨record, hr, hcode, h⟩
    · refine Or.inl ?_
      rcases h with ⟨h, -⟩ | ⟨h, -⟩
      · exact ⟨_, Prod.ext h hb⟩
      · exact ⟨_, Prod.ext h hb⟩
    · refine Or.inr ⟨_, h, hcode, trivial, ?_⟩
      rw [statusOf_put hr]
      rfl

theorem lawful_postgres (cfg : PostgresBuffer.Config) :
    Lawful (postgres cfg) PostgresBuffer.statusOf fun t =>
      PostgresBuffer.Sound t ∧ PostgresBuffer.Linked t where
  enqueue m t trace h := by
    obtain ⟨hsound, hlinked⟩ := h
    rcases PostgresBuffer.enqueue_cases cfg m t trace with ⟨ht, -⟩ | ⟨hnone, -, ⟨row, hp⟩, hr⟩
    · simp only [postgres, ht]
      exact ⟨⟨hsound, hlinked⟩, trivial⟩
    · refine ⟨⟨fun key r h => ?_, fun key r h => ?_⟩, ?_⟩
      · simp only [postgres, hr key] at h
        split at h
        · cases h
          exact ⟨by simp, by simp⟩
        · exact hsound key r h
      · simp only [postgres, hr key, hp] at h ⊢
        by_cases hkey : key.1 = trace.traceRef
        · rw [hkey, AList.lookup_insert]
          simp
        · rw [if_neg hkey] at h
          rw [AList.lookup_insert_ne hkey]
          exact hlinked key r h
      · funext key
        simp only [postgres, PostgresBuffer.statusOf, hr key]
        by_cases hkey : key.1 = trace.traceRef
        · -- no row stood under a reference without a payload
          have habsent : t.row key = none := by
            cases hrow : t.row key with
            | none => rfl
            | some r => exact absurd (hkey ▸ hnone) (hlinked key r hrow)
          rw [if_pos hkey, habsent]
          rfl
        · rw [if_neg hkey]
  claim m t sink limit lease result t' h hclaim := by
    obtain ⟨hsound, hlinked⟩ := h
    rcases PostgresBuffer.claim_cases hsound hclaim with ⟨⟨_, -, rfl⟩, rfl⟩ | ⟨hselects, hup, rfl⟩
    · exact ⟨⟨hsound, hlinked⟩, [], by simp, by simp, by simp, by simp⟩
    · have hready : ∀ ref ∈ m.chosen, ∃ r, t.row (ref, sink) = some r ∧ r.Ready m.now :=
        fun ref href => (PostgresBuffer.mem_candidates.1 (hselects.2.1 ref href)).2
      refine ⟨⟨hup.sound hsound, hup.linked hlinked⟩, _, fun key hkey => ?_, fun key hkey => ?_,
        fun key hkey => hup.statusOf_of_not_mem hkey, fun ds hds d hd => ?_⟩
      · obtain ⟨ref, href, rfl⟩ := List.mem_map.1 hkey
        obtain ⟨r, hr, hr'⟩ := hready ref href
        simp only [PostgresBuffer.statusOf, hr]
        exact PostgresBuffer.available_of_ready hr'
      · obtain ⟨ref, href, rfl⟩ := List.mem_map.1 hkey
        obtain ⟨r, hr, -⟩ := hready ref href
        rw [hup.statusOf_of_mem hkey hr]
        rfl
      · cases hopen : PostgresBuffer.openAll cfg t' sink (m.chosen.insertionSort (· ≤ ·)) with
        | error err =>
          rw [hopen] at hds
          cases hds
        | ok ds' =>
          rw [hopen] at hds
          cases hds
          obtain ⟨ref, href, hkey⟩ := PostgresBuffer.key_of_openAll hopen hd
          rw [hkey]
          exact List.mem_map_of_mem ((List.perm_insertionSort _ _).mem_iff.1 href)
  acknowledge m t ref sink h := by
    rcases PostgresBuffer.acknowledge_cases m t ref sink with ⟨-, heq⟩ | ⟨r, t', hr, heq, hup⟩
    · exact Or.inl ⟨_, heq⟩
    · exact Or.inr ⟨t', heq, ⟨hup.sound h.1, hup.linked h.2⟩, hup.statusOf_single hr rfl⟩
  retry m t ref sink code h := by
    rcases PostgresBuffer.retry_cases m t ref sink code h.1 with
      ⟨-, heq⟩ | ⟨hcode, hnone, heq⟩ | ⟨_, -, -, heq⟩ | ⟨hcode, r, hr, -, hres⟩
    · exact Or.inl ⟨_, heq⟩
    · -- giving back what does not exist is no error
      refine Or.inr ⟨t, heq, hcode, h, ?_⟩
      have hfree : PostgresBuffer.statusOf t (ref, sink) = .free := by
        rw [PostgresBuffer.statusOf, hnone]
      rw [← hfree, Function.update_eq_self]
    · exact Or.inl ⟨_, heq⟩
    · rcases hres with ⟨-, heq⟩ | ⟨-, t', heq, hup⟩
      · exact Or.inl ⟨_, heq⟩
      · exact Or.inr ⟨t', heq, hcode, ⟨hup.sound h.1, hup.linked h.2⟩, hup.statusOf_single hr rfl⟩

/-! ### The workers keep to the rules of leases -/

/-- The store with the holdings of the workers, as a table of leases. -/
def table (statusOf : B → Key → Status) (s : Sys B) : Table Key ℕ :=
  ⟨s.clock, statusOf s.store, s.held, s.finished⟩

/-- The worker and the delivery that a step gives back. -/
def gives (s : Sys B) : Label → Option (ℕ × Key)
  | .settle w _ =>
    match s.workers w with
    | .running ⟨_, _, d :: _, some outcome, _, _, _⟩ =>
      match outcome.code with
      | some code => if ValidCode code then some (w, d.key) else none
      | none => none
    | _ => none
  | _ => none

/-- The store does not take back what is finished. -/
def Refuses (st : Store B) (statusOf : B → Key → Status) (I : B → Prop) : Prop :=
  ∀ m b ref sink code b', I b → st.retry m b ref sink code = (.ok (), b') →
    statusOf b (ref, sink) ≠ .done

/-- The condition on a step: what is given back is not finished, or the store refuses it, and
otherwise no other worker holds it under a running lease. -/
def Careful (st : Store B) (statusOf : B → Key → Status) (I : B → Prop) (s : Sys B) (l : Label) :
    Prop :=
  ∀ w key, gives s l = some (w, key) →
    (statusOf s.store key ≠ .done ∨ Refuses st statusOf I) ∧
      (statusOf s.store key = .done ∨ OthersExpired (table statusOf s) w key)

variable {st automatic} {statusOf : B → Key → Status} {I : B → Prop} {s s' : Sys B} {l : Label}

variable {outcome : ExportOutcome}

theorem Lawful.settle_error (hl : Lawful st statusOf I) {b b' : B} (hi : I b) {d : Delivery}
    {err : BufferError} (h : settleCall st m b d outcome = (.error err, b')) : b' = b := by
  cases hcode : outcome.code with
  | none =>
    simp only [settleCall, hcode] at h
    rcases hl.acknowledge m b d.trace.traceRef d.sink hi with ⟨err', heq⟩ | ⟨b'', heq, -⟩
    · cases h.symm.trans heq
      rfl
    · cases h.symm.trans heq
  | some code =>
    simp only [settleCall, hcode] at h
    rcases hl.retry m b d.trace.traceRef d.sink code hi with ⟨err', heq⟩ | ⟨b'', heq, -⟩
    · cases h.symm.trans heq
      rfl
    · cases h.symm.trans heq

theorem gives_settle {w : ℕ} {drain : Drain} {d : Delivery} {code : String}
    (hw : s.workers w = .running drain) (hds : drain.deliveries = d :: ds)
    (hout : drain.outcome = some outcome) (hcode : outcome.code = some code)
    (hvalid : ValidCode code) : gives s (.settle w m) = some (w, d.key) := by
  obtain ⟨limit, sinks, deliveries, out, acked, retried, claimed⟩ := drain
  simp only at hds hout
  subst hds hout
  simp [gives, hw, hcode, hvalid]

/-- **Every careful step of a worker is a step of the leases, or changes nothing there.** -/
theorem step_table (hl : Lawful st statusOf I) (hi : I s.store)
    (hs : step st automatic s l = some s') :
    I s'.store ∧ (Careful st statusOf I s l →
      table statusOf s' = table statusOf s ∨ Leases.Step (table statusOf s) (table statusOf s')) := by
  cases moved_of_step hs with
  | waited n => exact ⟨hi, fun _ => Or.inr (.wait (by simp only [table]; omega))⟩
  | ingested m trace b hcall =>
    obtain ⟨hinv, hstatus⟩ := hl.enqueue m s.store trace hi
    rw [hcall] at hinv hstatus
    exact ⟨hinv, fun _ => Or.inl (by simp only [table, hstatus])⟩
  | refused m trace r b hcall hr =>
    obtain ⟨hinv, hstatus⟩ := hl.enqueue m s.store trace hi
    rw [hcall] at hinv hstatus
    exact ⟨hinv, fun _ => Or.inl (by simp only [table, hstatus])⟩
  | started w limit sinks hw => exact ⟨hi, fun _ => Or.inl rfl⟩
  | claimFailed w m d sink sinks err b hw hsinks hnone hnow hcall =>
    obtain ⟨hinv, keys, havailable, htaken, hothers, -⟩ := hl.claim _ _ _ _ _ _ _ hi hcall
    refine ⟨hinv, fun _ => Or.inr ?_⟩
    exact Leases.Step.take (t := table statusOf s) w keys (m.now + seconds leaseSeconds) []
      (fun key hkey => (havailable key hkey).imp id
        fun ⟨deadline, h, hle⟩ => ⟨deadline, h, hle.trans hnow⟩) htaken hothers (by simp)
  | claimed w m d sink sinks ds b hw hsinks hnone hnow hcall =>
    obtain ⟨hinv, keys, havailable, htaken, hothers, hhanded⟩ := hl.claim _ _ _ _ _ _ _ hi hcall
    refine ⟨hinv, fun _ => Or.inr ?_⟩
    exact Leases.Step.take (t := table statusOf s) w keys (m.now + seconds leaseSeconds)
      (ds.map Delivery.key)
      (fun key hkey => (havailable key hkey).imp id
        fun ⟨deadline, h, hle⟩ => ⟨deadline, h, hle.trans hnow⟩) htaken hothers
      (fun key hkey => by
        obtain ⟨d, hd, rfl⟩ := List.mem_map.1 hkey
        exact hhanded ds rfl d hd)
  | exported w outcome drain d ds hw hds hnone => exact ⟨hi, fun _ => Or.inl rfl⟩
  | settleFailed w m drain d ds outcome err b hw hds hout hcall =>
    obtain rfl := hl.settle_error hi hcall
    exact ⟨hi, fun _ => Or.inl rfl⟩
  | acknowledged w m drain d ds b hw hds hout hcall =>
    rcases hl.acknowledge m s.store d.trace.traceRef d.sink hi with
      ⟨err, heq⟩ | ⟨b', heq, hinv, hstatus⟩
    · cases hcall.symm.trans heq
    · cases hcall.symm.trans heq
      refine ⟨hinv, fun _ => Or.inr ?_⟩
      have hfinish := Leases.Step.finish (t := table statusOf s) w d.key
      simp only [table, Delivery.key, ← hstatus] at hfinish
      exact hfinish
  | gaveBack w m drain d ds outcome code b hw hds hout hcode hcall =>
    rcases hl.retry m s.store d.trace.traceRef d.sink code hi with
      ⟨err, heq⟩ | ⟨b', heq, hvalid, hinv, hstatus⟩
    · cases hcall.symm.trans heq
    · cases hcall.symm.trans heq
      refine ⟨hinv, fun hc => Or.inr ?_⟩
      obtain ⟨hrefuses, hothers⟩ := hc w d.key (gives_settle hw hds hout hcode hvalid)
      have hdone : statusOf s.store d.key ≠ .done := by
        rcases hrefuses with h | h
        · exact h
        · exact h m s.store _ _ code b hi hcall
      have hrelease := Leases.Step.release (t := table statusOf s) w d.key hdone
        (hothers.resolve_left hdone)
      simp only [table, Delivery.key, ← hstatus] at hrelease
      exact hrelease
  | finished w d hw hsinks hds => exact ⟨hi, fun _ => Or.inl rfl⟩
  | stopped w => exact ⟨hi, fun _ => Or.inl rfl⟩

end DrainWorkers
