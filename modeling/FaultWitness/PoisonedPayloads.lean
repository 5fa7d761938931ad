/-
**Payloads that cannot be opened.**

A payload that was written under another key, in another format, or that is damaged, makes
`PayloadCipher.open` raise.  A claim opens the payloads of its batch one after the other, after or
while it has leased them, and handles no exception: one such payload ends the claim, the call of
`drain_once` around it and the drain loop around that, and leaves what was leased before it leased,
though nobody was handed it.  The exports of one call, by contrast, are kept apart from each other.

So a payload is isolated exactly by the claims whose batch has none of this kind.  In a run of such
claims no worker ends in an exception of the cipher, and every lease belongs to a worker.

Main definitions:

* `DrainWorkers.Isolates` — a claim returns, and leases nothing that it does not hand out;
* `DrainWorkers.Unpoisoned` — the payloads of the batch of the next claim can be opened;
* `DrainWorkers.Undisturbed` — a step in which no worker is cancelled and no settling fails.

Main results:

* `DrainWorkers.isolates_clean_batches` — **which claims isolate payloads that cannot be opened, and
  what holds in every run of these**.
-/

import FaultWitness.ClaimBatches
import FaultWitness.DrainLeases

set_option autoImplicit false

namespace DrainWorkers

open Traces Leases Runs
open PostgresBuffer (Moment Tables)

variable {B : Type} {st : Store B} {automatic : Option (List DeliverySink)}
  {statusOf : B → Key → Status} {I : B → Prop} {s s' : Sys B} {l : Label}

/-! ### One claim -/

/-- The claim returns, and puts no delivery under a lease that could be opened without handing it
out. -/
def Isolates (statusOf : B → Key → Status) (opens : B → String → Prop) (sink : DeliverySink) (b : B)
    (r : Except BufferError (List Delivery) × B) : Prop :=
  ∃ ds, r.1 = .ok ds ∧ ∀ ref, opens b ref →
    statusOf r.2 (ref, sink) = statusOf b (ref, sink) ∨ (ref, sink) ∈ ds.map Delivery.key

variable {sink : DeliverySink} {ds : List Delivery}

/-- A claim in memory that returns has leased what it hands out. -/
theorem leased_memory {cfg : MemoryBuffer.Config} {b : MemoryBuffer.Buffer} {limit lease now : ℤ}
    (h : (MemoryBuffer.claim cfg b sink limit lease now).1 = .ok ds) (key : Key) :
    MemoryBuffer.statusOf (MemoryBuffer.claim cfg b sink limit lease now).2 key =
        MemoryBuffer.statusOf b key ∨ key ∈ ds.map Delivery.key := by
  obtain ⟨ref, sink'⟩ := key
  obtain ⟨leased, hloop⟩ := MemoryBuffer.loop_claim cfg b sink limit lease now
  obtain ⟨new, hnew, hall⟩ := hloop.handed ds h
  rw [List.nil_append] at hnew
  subst hnew
  by_cases href : ref ∈ leased
  · obtain ⟨i, hi, rfl⟩ := List.getElem_of_mem href
    have hlen : i < ds.length := hall.length_eq ▸ hi
    have hhands : MemoryBuffer.Hands cfg b sink leased[i] ds[i] :=
      List.forall₂_iff_get.1 hall |>.2 i hi hlen
    by_cases hsink : sink' = sink
    · right
      rw [hsink, ← hhands.key]
      exact List.mem_map_of_mem (List.getElem_mem hlen)
    · left
      obtain ⟨r, hr, -⟩ := hloop.leases.free _ href
      simp [MemoryBuffer.statusOf, hloop.leases.lookup, hr, hsink, MemoryBuffer.MemoryRecord.lease]
  · left
    simp only [MemoryBuffer.statusOf, hloop.leases.lookup, if_neg href]

theorem leased_postgres {cfg : PostgresBuffer.Config} {t t' : Tables}
    (hs : PostgresBuffer.Sound t) (hl : PostgresBuffer.Linked t) {m : Moment} {limit lease : ℤ}
    (h : PostgresBuffer.claim cfg m t sink limit lease = some (.ok ds, t')) (key : Key) :
    PostgresBuffer.statusOf t' key = PostgresBuffer.statusOf t key ∨
      key ∈ ds.map Delivery.key := by
  have hkeys := PostgresBuffer.keys_of_claim hs hl h
  rcases PostgresBuffer.claim_cases hs h with ⟨⟨_, -, herr⟩, -⟩ | ⟨-, hup, -⟩
  · cases herr
  · by_cases hkey : key ∈ m.chosen.map fun ref => (ref, sink)
    · exact Or.inr (hkeys.mem_iff.2 hkey)
    · exact Or.inl (hup.statusOf_of_not_mem hkey)

theorem isolates_memory (cfg : MemoryBuffer.Config) (b : MemoryBuffer.Buffer) (sink : DeliverySink)
    (limit lease now : ℤ) :
    Isolates MemoryBuffer.statusOf (MemoryBuffer.Opens cfg) sink b
        (MemoryBuffer.claim cfg b sink limit lease now) ↔
      ∀ e ∈ MemoryBuffer.batch b sink limit now, MemoryBuffer.Opens cfg b e.1 := by
  have hopens : ∀ e ∈ MemoryBuffer.batch b sink limit now, MemoryBuffer.Opens cfg b e.1 ↔
      ∃ trace, cfg.cipher.open e.1 e.2.payload = .ok trace := by
    intro e he
    have hr := (MemoryBuffer.mem_claimable.1 (List.mem_of_mem_take he)).1
    constructor
    · rintro ⟨r, trace, hr', hopen⟩
      rw [hr] at hr'
      cases hr'
      exact ⟨trace, hopen⟩
    · rintro ⟨trace, hopen⟩
      exact ⟨e.2, trace, hr, hopen⟩
  constructor
  · rintro ⟨ds, hds, -⟩ e he
    exact (hopens e he).2 ((MemoryBuffer.claim_eq_ok cfg b sink limit lease now).1 ⟨ds, hds⟩ e he)
  · intro hall
    obtain ⟨ds, hds⟩ := (MemoryBuffer.claim_eq_ok cfg b sink limit lease now).2
      fun e he => (hopens e he).1 (hall e he)
    exact ⟨ds, hds, fun ref _ => leased_memory hds (ref, sink)⟩

theorem isolates_postgres (cfg : PostgresBuffer.Config) {t : Tables} (hs : PostgresBuffer.Sound t)
    (hl : PostgresBuffer.Linked t) {m : Moment} {limit lease : ℤ}
    {r : Except BufferError (List Delivery) × Tables}
    (h : PostgresBuffer.claim cfg m t sink limit lease = some r) :
    Isolates PostgresBuffer.statusOf (PostgresBuffer.Opens cfg) sink t r ↔
      (0 ≤ limit ∧ limit < 9223372036854775808) ∧ ∀ ref ∈ m.chosen, PostgresBuffer.Opens cfg t ref := by
  obtain ⟨result, t'⟩ := r
  rw [← PostgresBuffer.claim_eq_ok hs hl h]
  constructor
  · rintro ⟨ds, hds, -⟩
    exact ⟨ds, hds⟩
  · rintro ⟨ds, rfl⟩
    exact ⟨ds, rfl, fun ref _ => leased_postgres hs hl h (ref, sink)⟩

/-! ### Runs -/

/-- What the runs need of a store: a claim of a clean batch isolates, and settling a delivery opens
no payload. -/
structure Isolating (st : Store B) (statusOf : B → Key → Status) (I : B → Prop)
    (clean : Moment → B → DeliverySink → ℤ → Prop) : Prop where
  claim : ∀ m b sink limit lease r b', I b → clean m b sink limit →
    st.claim m b sink limit lease = some (r, b') → ∃ ds, r = .ok ds ∧
      ∀ key, statusOf b' key = statusOf b key ∨ key ∈ ds.map Delivery.key
  settle : ∀ m b d outcome cause, I b → (settleCall st m b d outcome).1 ≠ .error (.cipher cause)

/-- The batch of the claim, if the step is one, is clean. -/
def Unpoisoned (clean : Moment → B → DeliverySink → ℤ → Prop) (s : Sys B) (l : Label) : Prop :=
  ∀ w m drain sink sinks, l = .claim w m → s.workers w = .running drain →
    drain.sinks = sink :: sinks → clean m s.store sink drain.limit

/-- No worker is cancelled in the step, and what it settles is settled. -/
def Undisturbed (st : Store B) (s : Sys B) : Label → Prop
  | .stop _ => False
  | .settle w m => ∀ drain d ds outcome, s.workers w = .running drain →
      drain.deliveries = d :: ds → drain.outcome = some outcome →
      (settleCall st m s.store d outcome).1 = .ok ()
  | _ => True

/-- No worker has ended in an exception of the cipher, and every delivery leased since the start is
one that a worker was handed. -/
structure Isolated (statusOf : B → Key → Status) (b : B) (s : Sys B) : Prop where
  workers : ∀ w cause, s.workers w ≠ .raised (.cipher cause)
  leases : ∀ key deadline, statusOf s.store key = .leased deadline →
    statusOf b key = .leased deadline ∨ ∃ h ∈ s.held, h.key = key ∧ h.deadline = deadline

/-- Whoever holds a delivery is a worker that has not settled it yet. -/
def InHands (s : Sys B) : Prop :=
  ∀ h ∈ s.held, ∃ drain, s.workers h.worker = .running drain ∧
    h.key ∈ drain.deliveries.map Delivery.key

variable {w : ℕ}

/-- A step keeps the leases of deliveries in order if it changes only one that is no longer leased,
and takes back only holdings of that one. -/
theorem Isolated.settled {b : B} (h : Isolated statusOf b s) {b' : B} {key : Key}
    {status : Status} (hstatus : statusOf b' = Function.update (statusOf s.store) key status)
    (hfree : ∀ deadline, status ≠ .leased deadline) (k : Key) (deadline : ℤ)
    (hk : statusOf b' k = .leased deadline) : statusOf b k = .leased deadline ∨
      ∃ h ∈ Leases.settled s.held w key, h.key = k ∧ h.deadline = deadline := by
  rw [hstatus] at hk
  by_cases hkey : k = key
  · rw [hkey, Function.update_self] at hk
    exact absurd hk (hfree deadline)
  · rw [Function.update_of_ne hkey] at hk
    refine (h.leases k deadline hk).imp id ?_
    rintro ⟨held, hheld, hk', hd⟩
    refine ⟨held, List.mem_filter.2 ⟨hheld, ?_⟩, hk', hd⟩
    simp [hk', hkey]

variable {clean : Moment → B → DeliverySink → ℤ → Prop}

theorem Isolated.step (hl : Lawful st statusOf I) (hiso : Isolating st statusOf I clean) {b : B}
    (hi : I s.store) (h : Isolated statusOf b s) (hclean : Unpoisoned clean s l)
    (hs : step st automatic s l = some s') : I s'.store ∧ Isolated statusOf b s' := by
  have hworkers : ∀ w cause, s'.workers w ≠ .raised (.cipher cause) := by
    intro w cause hw
    rcases raised_of_step hs hw with hw | ⟨m, sink, limit, b', rfl, hcall⟩ |
      ⟨m, drain, d, ds, outcome, -, -, -, -, hcall⟩
    · exact h.workers w cause hw
    · -- a claim of a clean batch returns
      cases moved_of_step hs with
      | claimFailed w₀ m₀ d sink₀ sinks err b₀ hw₀ hsinks hnone hnow hcall₀ =>
        obtain ⟨ds, hds, -⟩ := hiso.claim _ _ _ _ _ _ _ hi
          (hclean w m d sink₀ sinks rfl hw₀ hsinks) hcall₀
        cases hds
      | claimed w₀ m₀ d sink₀ sinks ds b₀ hw₀ hsinks hnone hnow hcall₀ =>
        simp [Sys.setWorker] at hw
    · exact hiso.settle m s.store d outcome cause hi hcall
  refine ⟨(step_table hl hi hs).1, hworkers, ?_⟩
  intro key deadline hkey
  cases moved_of_step hs with
  | waited n => exact h.leases key deadline hkey
  | ingested m trace b' hcall =>
    obtain ⟨-, hstatus⟩ := hl.enqueue m s.store trace hi
    rw [hcall] at hstatus
    rw [hstatus] at hkey
    exact h.leases key deadline hkey
  | refused m trace r b' hcall hr =>
    obtain ⟨-, hstatus⟩ := hl.enqueue m s.store trace hi
    rw [hcall] at hstatus
    rw [hstatus] at hkey
    exact h.leases key deadline hkey
  | started => exact h.leases key deadline hkey
  | claimFailed w m d sink sinks err b' hw hsinks hnone hnow hcall =>
    obtain ⟨ds, hds, -⟩ := hiso.claim _ _ _ _ _ _ _ hi (hclean w m d sink sinks rfl hw hsinks)
      hcall
    cases hds
  | claimed w m d sink sinks ds b' hw hsinks hnone hnow hcall =>
    obtain ⟨_, hds, hleased⟩ := hiso.claim _ _ _ _ _ _ _ hi
      (hclean w m d sink sinks rfl hw hsinks) hcall
    cases hds
    obtain ⟨-, keys, -, htaken, -, hhanded⟩ := hl.claim _ _ _ _ _ _ _ hi hcall
    rcases hleased key with hsame | hmem
    · have hkey' : statusOf s.store key = .leased deadline := hsame ▸ hkey
      refine (h.leases key deadline hkey').imp id ?_
      rintro ⟨held, hheld, hrest⟩
      exact ⟨held, List.mem_append_right _ hheld, hrest⟩
    · right
      obtain ⟨d', hd', rfl⟩ := List.mem_map.1 hmem
      have hdeadline := htaken _ (hhanded ds rfl d' hd')
      rw [hkey] at hdeadline
      cases hdeadline
      exact ⟨_, List.mem_append_left _ (List.mem_map_of_mem hmem), rfl, rfl⟩
  | exported => exact h.leases key deadline hkey
  | settleFailed w m drain d ds outcome err b' hw hds hout hcall =>
    obtain rfl := hl.settle_error hi hcall
    exact h.leases key deadline hkey
  | acknowledged w m drain d ds b' hw hds hout hcall =>
    rcases hl.acknowledge m s.store d.trace.traceRef d.sink hi with
      ⟨err, heq⟩ | ⟨b'', heq, -, hstatus⟩
    · cases hcall.symm.trans heq
    · cases hcall.symm.trans heq
      exact h.settled hstatus (by simp) key deadline hkey
  | gaveBack w m drain d ds outcome code b' hw hds hout hcode hcall =>
    rcases hl.retry m s.store d.trace.traceRef d.sink code hi with
      ⟨err, heq⟩ | ⟨b'', heq, -, -, hstatus⟩
    · cases hcall.symm.trans heq
    · cases hcall.symm.trans heq
      exact h.settled hstatus (by simp) key deadline hkey
  | finished => exact h.leases key deadline hkey
  | stopped => exact h.leases key deadline hkey

variable {held : Holding Key ℕ}

theorem InHands.ne (h : InHands s) (hw : ∀ drain, s.workers w ≠ .running drain)
    (hheld : held ∈ s.held) : held.worker ≠ w := by
  rintro rfl
  obtain ⟨drain, hrunning, -⟩ := h held hheld
  exact hw drain hrunning

theorem InHands.setWorker (h : InHands s) {worker : Worker}
    (hw : ∀ held ∈ s.held, held.worker ≠ w) : InHands (s.setWorker w worker) := by
  intro held hheld
  obtain ⟨drain, hrunning, hmem⟩ := h held hheld
  refine ⟨drain, ?_, hmem⟩
  simp only [Sys.setWorker, Function.update_of_ne (hw held hheld)]
  exact hrunning

theorem InHands.empty (h : InHands s) {drain : Drain} (hw : s.workers w = .running drain)
    (hnone : drain.deliveries = []) (hheld : held ∈ s.held) : held.worker ≠ w := by
  rintro rfl
  obtain ⟨drain', hrunning, hmem⟩ := h held hheld
  rw [hw] at hrunning
  cases hrunning
  rw [hnone] at hmem
  cases hmem

theorem InHands.settled (h : InHands s) {drain : Drain} {d : Delivery}
    (hw : s.workers w = .running drain) (hds : drain.deliveries = d :: ds)
    (hheld : held ∈ Leases.settled s.held w d.key) {next : Drain} (hnext : next.deliveries = ds) :
    ∃ drain', Function.update s.workers w (.running next) held.worker = .running drain' ∧
      held.key ∈ drain'.deliveries.map Delivery.key := by
  obtain ⟨hmem, hne⟩ := List.mem_filter.1 hheld
  obtain ⟨drain', hrunning, hkey⟩ := h held hmem
  by_cases hworker : held.worker = w
  · refine ⟨next, by rw [hworker, Function.update_self], ?_⟩
    rw [hworker, hw] at hrunning
    cases hrunning
    rw [hds, List.map_cons] at hkey
    rw [hnext]
    rcases List.mem_cons.1 hkey with hkey | hkey
    · simp [hworker, hkey] at hne
    · exact hkey
  · exact ⟨drain', by rw [Function.update_of_ne hworker, hrunning], hkey⟩

theorem InHands.step (hiso : Isolating st statusOf I clean) (hi : I s.store) (h : InHands s)
    (hclean : Unpoisoned clean s l) (hquiet : Undisturbed st s l)
    (hs : step st automatic s l = some s') : InHands s' := by
  cases moved_of_step hs with
  | waited => exact h
  | ingested => exact h
  | refused => exact h
  | started w limit sinks hw => exact h.setWorker fun held hheld => h.ne hw hheld
  | claimFailed w m d sink sinks err b' hw hsinks hnone hnow hcall =>
    obtain ⟨ds, hds, -⟩ := hiso.claim _ _ _ _ _ _ _ hi (hclean w m d sink sinks rfl hw hsinks)
      hcall
    cases hds
  | claimed w m d sink sinks ds b' hw hsinks hnone hnow hcall =>
    intro held hheld
    rcases List.mem_append.1 hheld with hnew | hold
    · obtain ⟨key, hkey, rfl⟩ := List.mem_map.1 hnew
      exact ⟨_, Function.update_self w _ s.workers, hkey⟩
    · exact h.setWorker (fun held hheld => h.empty hw hnone hheld) held hold
  | exported w outcome drain d ds hw hds hnone =>
    intro held hheld
    obtain ⟨drain', hrunning, hkey⟩ := h held hheld
    by_cases hworker : held.worker = w
    · subst hworker
      rw [hw] at hrunning
      cases hrunning
      exact ⟨_, Function.update_self held.worker _ s.workers, hkey⟩
    · refine ⟨drain', ?_, hkey⟩
      simp only [Sys.setWorker, Function.update_of_ne hworker]
      exact hrunning
  | settleFailed w m drain d ds outcome err b' hw hds hout hcall =>
    have hok := hquiet drain d ds outcome hw hds hout
    rw [hcall] at hok
    cases hok
  | acknowledged w m drain d ds b' hw hds hout hcall =>
    exact fun held hheld => h.settled hw hds hheld rfl
  | gaveBack w m drain d ds outcome code b' hw hds hout hcode hcall =>
    exact fun held hheld => h.settled hw hds hheld rfl
  | finished w d hw hsinks hds => exact h.setWorker fun held hheld => h.empty hw hds hheld
  | stopped w => exact absurd hquiet id

/-- A system that starts on a store. -/
def fresh (b : B) (clock : ℤ) : Sys B := { store := b, clock }

theorem isolated_of_reaches (hl : Lawful st statusOf I) (hiso : Isolating st statusOf I clean)
    {b : B} {clock : ℤ} (hb : I b)
    (h : Reaches (step st automatic) (Unpoisoned clean) (fresh b clock) s) :
    Isolated statusOf b s := by
  refine (h.invariant (I := fun s => I s.store ∧ Isolated statusOf b s) ⟨hb, ?_, ?_⟩ ?_).2
  · intro w cause hw
    cases hw
  · exact fun key deadline hkey => Or.inl hkey
  · rintro s l s' ⟨hi, h⟩ hclean hs
    exact h.step hl hiso hi hclean hs

theorem inHands_of_reaches (hl : Lawful st statusOf I) (hiso : Isolating st statusOf I clean)
    {b : B} {clock : ℤ} (hb : I b)
    (h : Reaches (step st automatic) (fun s l => Unpoisoned clean s l ∧ Undisturbed st s l)
      (fresh b clock) s) : InHands s := by
  refine (h.invariant (I := fun s => I s.store ∧ InHands s) ⟨hb, ?_⟩ ?_).2
  · intro held hheld
    cases hheld
  · rintro s l s' ⟨hi, h⟩ ⟨hclean, hquiet⟩ hs
    exact ⟨(step_table hl hi hs).1, h.step hiso hi hclean hquiet hs⟩

/-! ### The buffers -/

/-- The payloads of the batch of a claim in memory can be opened. -/
def CleanMemory (cfg : MemoryBuffer.Config) (m : Moment) (b : MemoryBuffer.Buffer)
    (sink : DeliverySink) (limit : ℤ) : Prop :=
  ∀ e ∈ MemoryBuffer.batch b sink limit m.now, MemoryBuffer.Opens cfg b e.1

/-- The payloads of the rows that a claim in PostgreSQL chooses can be opened, and its limit is not
negative and below `2 ^ 63`. -/
def CleanPostgres (cfg : PostgresBuffer.Config) (m : Moment) (t : Tables) (_ : DeliverySink)
    (limit : ℤ) : Prop :=
  (0 ≤ limit ∧ limit < 9223372036854775808) ∧ ∀ ref ∈ m.chosen, PostgresBuffer.Opens cfg t ref

theorem isolating_memory (cfg : MemoryBuffer.Config) :
    Isolating (memory cfg) MemoryBuffer.statusOf (fun _ => True) (CleanMemory cfg) where
  claim m b sink limit lease r b' _ hclean h := by
    simp only [memory, Option.some.injEq] at h
    obtain ⟨ds, hds, -⟩ := (isolates_memory cfg b sink limit lease m.now).2 hclean
    have hr : r = .ok ds := by rw [← hds, h]
    refine ⟨ds, hr, fun key => ?_⟩
    have hleased := leased_memory hds key
    rwa [h] at hleased
  settle m b d outcome cause _ := by
    cases hcode : outcome.code with
    | none =>
      simp only [settleCall, hcode, memory]
      rcases MemoryBuffer.acknowledge_cases b d.trace.traceRef d.sink with ⟨-, h⟩ | ⟨_, -, h⟩
      · simp [h]
      · simp [h]
    | some code =>
      simp only [settleCall, hcode, memory]
      rcases MemoryBuffer.retry_cases b d.trace.traceRef d.sink code with ⟨-, h⟩ | ⟨_, -, -, h⟩
      · rcases h with ⟨h, -⟩ | ⟨h, -⟩
        · simp [h]
        · simp [h]
      · simp [h]

theorem isolating_postgres (cfg : PostgresBuffer.Config) :
    Isolating (postgres cfg) PostgresBuffer.statusOf
      (fun t => PostgresBuffer.Sound t ∧ PostgresBuffer.Linked t) (CleanPostgres cfg) where
  claim m t sink limit lease r t' hi hclean h := by
    obtain ⟨ds, hds⟩ := (PostgresBuffer.claim_eq_ok hi.1 hi.2 h).2 hclean
    subst hds
    exact ⟨ds, rfl, leased_postgres hi.1 hi.2 h⟩
  settle m t d outcome cause hi := by
    cases hcode : outcome.code with
    | none =>
      simp only [settleCall, hcode, postgres]
      rcases PostgresBuffer.acknowledge_cases m t d.trace.traceRef d.sink with
        ⟨-, h⟩ | ⟨_, _, -, h, -⟩
      · simp [h]
      · simp [h]
    | some code =>
      simp only [settleCall, hcode, postgres]
      rcases PostgresBuffer.retry_cases m t d.trace.traceRef d.sink code hi.1 with
        ⟨-, h⟩ | ⟨-, -, h⟩ | ⟨_, -, -, h⟩ | ⟨-, _, -, -, ⟨-, h⟩ | ⟨-, _, h, -⟩⟩
      · simp [h]
      · simp [h]
      · simp [h]
      · simp [h]
      · simp [h]

/-- **A claim isolates the payloads that cannot be opened exactly if its batch has none, in either
buffer.  In every run of such claims no worker ends in an exception of the cipher and every delivery
leased since the start is one that a worker was handed; and while no worker is cancelled and nothing
fails to be settled, this worker is still about to export it.** -/
theorem isolates_clean_batches (mem : MemoryBuffer.Config) (pg : PostgresBuffer.Config)
    (automatic : Option (List DeliverySink)) :
    (∀ b sink limit lease now, Isolates MemoryBuffer.statusOf (MemoryBuffer.Opens mem) sink b
        (MemoryBuffer.claim mem b sink limit lease now) ↔
      ∀ e ∈ MemoryBuffer.batch b sink limit now, MemoryBuffer.Opens mem b e.1) ∧
    (∀ t m sink limit lease r, PostgresBuffer.Sound t → PostgresBuffer.Linked t →
      PostgresBuffer.claim pg m t sink limit lease = some r →
        (Isolates PostgresBuffer.statusOf (PostgresBuffer.Opens pg) sink t r ↔
          (0 ≤ limit ∧ limit < 9223372036854775808) ∧ ∀ ref ∈ m.chosen, PostgresBuffer.Opens pg t ref)) ∧
    (∀ b clock s,
      (Reaches (step (memory mem) automatic) (Unpoisoned (CleanMemory mem)) (fresh b clock) s →
        Isolated MemoryBuffer.statusOf b s) ∧
      (Reaches (step (memory mem) automatic) (fun s l => Unpoisoned (CleanMemory mem) s l ∧
          Undisturbed (memory mem) s l) (fresh b clock) s → InHands s)) ∧
    (∀ t clock s, PostgresBuffer.Sound t → PostgresBuffer.Linked t →
      (Reaches (step (postgres pg) automatic) (Unpoisoned (CleanPostgres pg)) (fresh t clock) s →
        Isolated PostgresBuffer.statusOf t s) ∧
      (Reaches (step (postgres pg) automatic) (fun s l => Unpoisoned (CleanPostgres pg) s l ∧
          Undisturbed (postgres pg) s l) (fresh t clock) s → InHands s)) := by
  refine ⟨fun b sink limit lease now => isolates_memory mem b sink limit lease now,
    fun t m sink limit lease r hs hl h => isolates_postgres pg hs hl h,
    fun b clock s => ⟨fun h => ?_, fun h => ?_⟩, fun t clock s hs hl => ⟨fun h => ?_, fun h => ?_⟩⟩
  · exact isolated_of_reaches (lawful_memory mem) (isolating_memory mem) trivial h
  · exact inHands_of_reaches (lawful_memory mem) (isolating_memory mem) trivial h
  · exact isolated_of_reaches (lawful_postgres pg) (isolating_postgres pg) ⟨hs, hl⟩ h
  · exact inHands_of_reaches (lawful_postgres pg) (isolating_postgres pg) ⟨hs, hl⟩ h

/-! ### A payload under another key -/

/-- A record whose payload was sealed under another key. -/
def poisonedRecord : MemoryBuffer.MemoryRecord :=
  ⟨{ samplePayload "trace-b" with keyId := "key-b" }, fun _ => {}⟩

/-- The buffer with the sample trace and a trace that cannot be opened. -/
def poisonedBuffer : MemoryBuffer.Buffer := (sampleBuffer {}).insert "trace-b" poisonedRecord

theorem sortedEntries_poisonedBuffer : MemoryBuffer.sortedEntries poisonedBuffer =
    [⟨"trace-a", sampleRecord {}⟩, ⟨"trace-b", poisonedRecord⟩] := by
  have hlt : ¬ "trace-b" ≤ "trace-a" := by decide
  have hentries : poisonedBuffer.entries =
      [⟨"trace-b", poisonedRecord⟩, ⟨"trace-a", sampleRecord {}⟩] := rfl
  simp [MemoryBuffer.sortedEntries, hentries, hlt]

theorem opens_poisonedBuffer : MemoryBuffer.Opens sampleMemory poisonedBuffer "trace-a" :=
  ⟨sampleRecord {}, sampleTrace "trace-a", rfl, open_sample "trace-a"⟩

theorem claim_poisonedBuffer (limit : ℤ) (hlimit : 1 < limit) :
    (MemoryBuffer.claim sampleMemory poisonedBuffer .langsmith limit leaseSeconds 0).1 =
        .error (.cipher .unknownFormat) ∧
      MemoryBuffer.statusOf
          (MemoryBuffer.claim sampleMemory poisonedBuffer .langsmith limit leaseSeconds 0).2
          ("trace-a", .langsmith) = .leased 30000000 := by
  have hopen : sampleMemory.cipher.open "trace-a" (sampleRecord {}).payload =
      .ok (sampleTrace "trace-a") := open_sample "trace-a"
  have hpoison : sampleMemory.cipher.open "trace-b" poisonedRecord.payload =
      .error .unknownFormat := rfl
  have hfree : ¬ ((sampleRecord {}).deliveries .langsmith).Busy 0 := by decide
  have hfree' : ¬ (poisonedRecord.deliveries .langsmith).Busy 0 := by decide
  have hmore : ¬ limit ≤ ((1 : ℕ) : ℤ) := not_le.2 hlimit
  simp only [MemoryBuffer.claim, sortedEntries_poisonedBuffer, MemoryBuffer.claimLoop, if_neg hfree,
    if_neg hfree', hopen, hpoison, List.nil_append, List.length_singleton,
    if_neg hmore]
  refine ⟨trivial, ?_⟩
  rfl

/-- **A payload under another key ends the claim, and the drain with it, and leaves a delivery leased
that nobody was handed.** -/
theorem not_isolated_poisoned :
    ¬ Isolates MemoryBuffer.statusOf (MemoryBuffer.Opens sampleMemory) .langsmith poisonedBuffer
        (MemoryBuffer.claim sampleMemory poisonedBuffer .langsmith 10 leaseSeconds 0) ∧
      MemoryBuffer.Opens sampleMemory poisonedBuffer "trace-a" ∧
      MemoryBuffer.statusOf poisonedBuffer ("trace-a", .langsmith) = .free ∧
      MemoryBuffer.statusOf
          (MemoryBuffer.claim sampleMemory poisonedBuffer .langsmith 10 leaseSeconds 0).2
          ("trace-a", .langsmith) = .leased 30000000 ∧
      ∃ s, Reachable (step (memory sampleMemory) none) (fresh poisonedBuffer 0) s ∧
        s.workers 0 = .raised (.cipher .unknownFormat) ∧ s.held = [] ∧ s.exports = [] := by
  obtain ⟨herr, hleased⟩ := claim_poisonedBuffer 10 (by decide)
  refine ⟨?_, opens_poisonedBuffer, rfl, hleased, ?_⟩
  · rintro ⟨ds, hds, -⟩
    rw [herr] at hds
    cases hds
  · have hcall : (memory sampleMemory).claim { now := 0 } poisonedBuffer .langsmith 10 leaseSeconds =
        some (.error (.cipher .unknownFormat),
          (MemoryBuffer.claim sampleMemory poisonedBuffer .langsmith 10 leaseSeconds 0).2) := by
      have hnow : (memory sampleMemory).claim { now := 0 } poisonedBuffer .langsmith 10
          leaseSeconds =
            some (MemoryBuffer.claim sampleMemory poisonedBuffer .langsmith 10 leaseSeconds 0) := rfl
      rw [hnow, ← herr, Prod.mk.eta]
    have hstart : step (memory sampleMemory) none (fresh poisonedBuffer 0) (.start 0 10 none) =
        some ((fresh poisonedBuffer 0).setWorker 0
          (.running { limit := 10, sinks := DeliverySink.all })) := rfl
    refine ⟨{ (fresh poisonedBuffer 0).setWorker 0 (.raised (.cipher .unknownFormat)) with
        store := (MemoryBuffer.claim sampleMemory poisonedBuffer .langsmith 10 leaseSeconds 0).2 },
      (Reaches.refl.tail trivial hstart).tail (l := .claim 0 { now := 0 }) trivial ?_,
      by simp [Sys.setWorker], rfl, rfl⟩
    simp only [step, Sys.setWorker, fresh, Function.update_self, DeliverySink.all, le_refl, if_true,
      hcall, Function.update_idem]

/-- The poisoned payload lies beyond a claim for one delivery. -/
theorem isolated_poisoned :
    Isolates MemoryBuffer.statusOf (MemoryBuffer.Opens sampleMemory) .langsmith poisonedBuffer
      (MemoryBuffer.claim sampleMemory poisonedBuffer .langsmith 1 leaseSeconds 0) := by
  refine ((isolates_clean_batches sampleMemory PostgresBuffer.sampleConfig none).1 poisonedBuffer .langsmith 1
    leaseSeconds 0).2 ?_
  have hbatch : MemoryBuffer.batch poisonedBuffer .langsmith 1 0 =
      [⟨"trace-a", sampleRecord {}⟩] := by
    have hfree : ¬ ((sampleRecord {}).deliveries .langsmith).Busy 0 := by decide
    simp [MemoryBuffer.batch, MemoryBuffer.claimable, sortedEntries_poisonedBuffer,
      MemoryBuffer.claimSize, hfree]
  rw [hbatch]
  intro e he
  rw [List.mem_singleton] at he
  subst he
  exact opens_poisonedBuffer

end DrainWorkers
