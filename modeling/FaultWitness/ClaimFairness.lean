/-
**Deliveries that others keep from being claimed.**

The order in which a claim goes through the deliveries of a sink is fixed: by reference in memory, by
creation in PostgreSQL.  A delivery whose export failed goes back to its old place, in memory at once
and in PostgreSQL after a delay of at most a minute.  So with more deliveries than the limit, the
first ones can be claimed again and again while others wait.

A claim is *fair* if it leaves no delivery out that may be claimed, or takes only deliveries that
have never been claimed.  In runs of fair claims nobody waits behind a delivery that is claimed a
second time.

Main definitions:

* `DrainWorkers.Claims` — a claim that hands out a delivery;
* `DrainWorkers.Rotating` — between two claims of one delivery the others of its sink are claimed;
* `DrainWorkers.FairMemory`, `DrainWorkers.FairPostgres` — fair claims.

Main results:

* `DrainWorkers.rotating_fair` — **runs of fair claims rotate**.
-/

import FaultWitness.ClaimBatches
import FaultWitness.DrainLeases

set_option autoImplicit false

namespace DrainWorkers

open Traces Leases Runs
open PostgresBuffer (Moment Tables)

variable {B : Type} {st : Store B} {automatic : Option (List DeliverySink)} {I : B → Prop}
  {s s' : Sys B} {l : Label}

/-! ### Rotation -/

/-- The worker's claim hands out the delivery. -/
def Claims (st : Store B) (automatic : Option (List DeliverySink)) (s : Sys B) (w : ℕ) (m : Moment)
    (s' : Sys B) (key : Key) : Prop :=
  step st automatic s (.claim w m) = some s' ∧
    ∃ drain, s'.workers w = .running drain ∧ key ∈ drain.deliveries.map Delivery.key

/-- The step is a claim that hands out the delivery. -/
def Takes (st : Store B) (automatic : Option (List DeliverySink)) (s : Sys B) (l : Label)
    (key : Key) : Prop :=
  ∃ w m s', l = .claim w m ∧ Claims st automatic s w m s' key

/-- In the runs whose steps meet `C`: when a delivery is claimed a second time, then every other one
of its sink that could be claimed ever since the first time has been claimed, at the latest
together with it. -/
def Rotating (st : Store B) (automatic : Option (List DeliverySink))
    (claimable : B → ℤ → Key → Prop) (C : Sys B → Label → Prop) (s₀ : Sys B) : Prop :=
  ∀ (s₁ s₁' s₂ s₂' : Sys B) (w₁ w₂ : ℕ) (m₁ m₂ : Moment) (x y : Key),
    Reaches (step st automatic) C s₀ s₁ → C s₁ (.claim w₁ m₁) → Claims st automatic s₁ w₁ m₁ s₁' x →
    Reaches (step st automatic) (fun s l => C s l ∧ claimable s.store s.clock y ∧
      ¬ Takes st automatic s l y) s₁' s₂ →
    C s₂ (.claim w₂ m₂) → Claims st automatic s₂ w₂ m₂ s₂' x →
    claimable s₂.store s₂.clock y → claimable s₂.store m₂.now y → y.2 = x.2 →
    Claims st automatic s₂ w₂ m₂ s₂' y

/-- The claim, if the step is one, is fair. -/
def Fairly (fair : Moment → B → DeliverySink → ℤ → Prop) (s : Sys B) (l : Label) : Prop :=
  ∀ w m drain sink sinks, l = .claim w m → s.workers w = .running drain →
    drain.sinks = sink :: sinks → fair m s.store sink drain.limit

/-- What rotation needs of a store: what has been tried stays so, what is handed out has been tried,
and a fair claim that takes what has been tried leaves nothing out. -/
structure Rotates (st : Store B) (I : B → Prop) (tried : B → Key → Prop)
    (claimable : B → ℤ → Key → Prop) (fair : Moment → B → DeliverySink → ℤ → Prop) : Prop where
  enqueue : ∀ m b trace key, I b → tried b key → tried (st.enqueue m b trace).2 key
  claim : ∀ m b sink limit lease r b' key, I b → st.claim m b sink limit lease = some (r, b') →
    tried b key → tried b' key
  handed : ∀ m b sink limit lease ds b' key, I b →
    st.claim m b sink limit lease = some (.ok ds, b') → key ∈ ds.map Delivery.key →
      key.2 = sink ∧ tried b' key
  acknowledge : ∀ m b ref sink key, I b → tried b key → tried (st.acknowledge m b ref sink).2 key
  retry : ∀ m b ref sink code key, I b → tried b key → tried (st.retry m b ref sink code).2 key
  rotates : ∀ m b sink limit lease ds b' x y, I b → fair m b sink limit →
    st.claim m b sink limit lease = some (.ok ds, b') → x ∈ ds.map Delivery.key → tried b x →
      y.2 = sink → claimable b m.now y → y ∈ ds.map Delivery.key

variable {statusOf : B → Key → Status} {tried : B → Key → Prop} {claimable : B → ℤ → Key → Prop}
  {fair : Moment → B → DeliverySink → ℤ → Prop}

theorem Rotates.settle (hr : Rotates st I tried claimable fair) (m : Moment) {b : B}
    (d : Delivery) (outcome : ExportOutcome) {key : Key} (hi : I b) (h : tried b key) :
    tried (settleCall st m b d outcome).2 key := by
  cases hcode : outcome.code with
  | none =>
    simp only [settleCall, hcode]
    exact hr.acknowledge _ _ _ _ _ hi h
  | some code =>
    simp only [settleCall, hcode]
    exact hr.retry _ _ _ _ _ _ hi h

theorem Rotates.step (hr : Rotates st I tried claimable fair) (hi : I s.store)
    (hs : step st automatic s l = some s') {key : Key} (h : tried s.store key) :
    tried s'.store key := by
  cases moved_of_step hs with
  | waited => exact h
  | ingested m trace b hcall =>
    have := hr.enqueue m s.store trace key hi h
    rwa [hcall] at this
  | refused m trace r b hcall hne =>
    have := hr.enqueue m s.store trace key hi h
    rwa [hcall] at this
  | started => exact h
  | claimFailed w m d sink sinks err b hw hsinks hnone hnow hcall =>
    exact hr.claim _ _ _ _ _ _ _ _ hi hcall h
  | claimed w m d sink sinks ds b hw hsinks hnone hnow hcall =>
    exact hr.claim _ _ _ _ _ _ _ _ hi hcall h
  | exported => exact h
  | settleFailed w m drain d ds outcome err b hw hds hout hcall =>
    have := hr.settle m d outcome hi h
    rwa [hcall] at this
  | acknowledged w m drain d ds b hw hds hout hcall =>
    have := hr.acknowledge m s.store d.trace.traceRef d.sink key hi h
    rwa [hcall] at this
  | gaveBack w m drain d ds outcome code b hw hds hout hcode hcall =>
    have := hr.retry m s.store d.trace.traceRef d.sink code key hi h
    rwa [hcall] at this
  | finished => exact h
  | stopped => exact h

theorem Claims.call {w : ℕ} {m : Moment} {key : Key} (h : Claims st automatic s w m s' key) :
    ∃ drain sink sinks ds, s.workers w = .running drain ∧ drain.sinks = sink :: sinks ∧
      st.claim m s.store sink drain.limit leaseSeconds = some (.ok ds, s'.store) ∧
      ∀ k, Claims st automatic s w m s' k ↔ k ∈ ds.map Delivery.key := by
  obtain ⟨hs, drain, hrunning, hmem⟩ := h
  cases moved_of_step hs with
  | claimFailed w m d sink sinks err b hw hsinks hnone hnow hcall =>
    simp [Sys.setWorker] at hrunning
  | claimed w m d sink sinks ds b hw hsinks hnone hnow hcall =>
    refine ⟨d, sink, sinks, ds, hw, hsinks, hcall, fun k => ?_⟩
    constructor
    · rintro ⟨-, drain', hrunning', hk⟩
      simp only [Sys.setWorker, Function.update_self, Worker.running.injEq] at hrunning'
      subst hrunning'
      exact hk
    · intro hk
      exact ⟨hs, _, Function.update_self w _ s.workers, hk⟩

theorem inv_of_reaches_any (hl : Lawful st statusOf I) {C : Sys B → Label → Prop} {a b : Sys B}
    (ha : I a.store) (h : Reaches (step st automatic) C a b) : I b.store :=
  h.invariant (I := fun s => I s.store) ha fun _ _ _ hi _ hs => (step_table hl hi hs).1

/-- **Fair runs rotate.** -/
theorem rotating_of_fairly (hl : Lawful st statusOf I) (hr : Rotates st I tried claimable fair)
    {s₀ : Sys B} (h₀ : I s₀.store) : Rotating st automatic claimable (Fairly fair) s₀ := by
  intro s₁ s₁' s₂ s₂' w₁ w₂ m₁ m₂ x y hreach _ hfirst hwait hfair hsecond _ hnow hsink
  have hi₁ : I s₁.store := inv_of_reaches_any hl h₀ hreach
  have hi₁' : I s₁'.store := (step_table hl hi₁ hfirst.1).1
  have hi₂ : I s₂.store := inv_of_reaches_any hl hi₁' hwait
  have htried₁ : tried s₁'.store x := by
    obtain ⟨drain, sink, sinks, ds, -, -, hcall, hmem⟩ := hfirst.call
    exact (hr.handed _ _ _ _ _ _ _ x hi₁ hcall ((hmem x).1 hfirst)).2
  have htried₂ : I s₂.store ∧ tried s₂.store x := by
    refine hwait.invariant (I := fun s => I s.store ∧ tried s.store x) ⟨hi₁', htried₁⟩ ?_
    rintro s l s' ⟨hi, htried⟩ - hs
    exact ⟨(step_table hl hi hs).1, hr.step hi hs htried⟩
  obtain ⟨drain, sink, sinks, ds, hw, hsinks, hcall, hmem⟩ := hsecond.call
  have hx := (hmem x).1 hsecond
  have hxsink : x.2 = sink := (hr.handed _ _ _ _ _ _ _ x hi₂ hcall hx).1
  have hfair₂ := hfair w₂ m₂ drain sink sinks rfl hw hsinks
  exact (hmem y).2 (hr.rotates _ _ _ _ _ _ _ x y hi₂ hfair₂ hcall hx htried₂.2
    (hsink.trans hxsink) hnow)

end DrainWorkers

/-! ### The buffer in memory -/

namespace MemoryBuffer

open Traces

/-- The delivery has never been claimed. -/
def MemoryDelivery.Untried (d : MemoryDelivery) : Prop := d.state = .pending ∧ d.attemptCount = 0

/-- The delivery has been claimed. -/
def Tried (b : Buffer) (key : Key) : Prop :=
  ∃ r, b.lookup key.1 = some r ∧ ¬ (r.deliveries key.2).Untried

/-- The delivery can be claimed. -/
def Claimable (b : Buffer) (now : ℤ) (key : Key) : Prop :=
  ∃ r, b.lookup key.1 = some r ∧ ¬ (r.deliveries key.2).Busy now

theorem Tried.put {b : Buffer} {key : Key} (h : Tried b key) {ref : String} {r : MemoryRecord}
    (hr : b.lookup ref = some r) (sink : DeliverySink) {d : MemoryDelivery} (hd : ¬ d.Untried) :
    Tried (put b ref r sink d) key := by
  obtain ⟨r', hr', htried⟩ := h
  rw [Tried]
  by_cases href : key.1 = ref
  · refine ⟨r.set sink d, by rw [lookup_put, if_pos href], ?_⟩
    rw [href, hr] at hr'
    cases hr'
    by_cases hsink : key.2 = sink
    · rw [MemoryRecord.set_deliveries, hsink, Function.update_self]
      exact hd
    · rw [MemoryRecord.set_deliveries, Function.update_of_ne hsink]
      exact htried
  · exact ⟨r', by rw [lookup_put, if_neg href, hr'], htried⟩

theorem not_untried_lease (d : MemoryDelivery) (deadline : ℤ) : ¬ (d.lease deadline).Untried := by
  rintro ⟨hstate, -⟩
  cases hstate

theorem tried_claimed {b b' : Buffer} {sink : DeliverySink} {now deadline : ℤ} {leased : List String}
    (hc : Claimed b b' sink now deadline leased) {key : Key}
    (h : Tried b key ∨ (key.1 ∈ leased ∧ key.2 = sink)) : Tried b' key := by
  by_cases href : key.1 ∈ leased
  · obtain ⟨r, hr, -⟩ := hc.free _ href
    refine ⟨r.lease sink deadline, by rw [hc.lookup, if_pos href, hr]; rfl, ?_⟩
    rw [MemoryRecord.lease, MemoryRecord.set_deliveries]
    by_cases hsink : key.2 = sink
    · rw [hsink, Function.update_self]
      exact not_untried_lease _ _
    · rw [Function.update_of_ne hsink]
      rcases h with ⟨r', hr', htried⟩ | ⟨-, h⟩
      · rw [hr] at hr'
        cases hr'
        exact htried
      · exact absurd h hsink
  · rcases h with ⟨r, hr, htried⟩ | ⟨h, -⟩
    · exact ⟨r, by rw [hc.lookup, if_neg href, hr], htried⟩
    · exact absurd h href

end MemoryBuffer

namespace DrainWorkers

open Traces Leases Runs
open PostgresBuffer (Moment Tables)

/-- The claim covers every delivery that can be claimed, or takes only such as were never claimed. -/
def FairMemory (m : Moment) (b : MemoryBuffer.Buffer) (sink : DeliverySink) (limit : ℤ) : Prop :=
  (MemoryBuffer.claimable b sink m.now).length ≤ MemoryBuffer.claimSize limit ∨
    ∀ e ∈ MemoryBuffer.batch b sink limit m.now, (e.2.deliveries sink).Untried

theorem rotates_memory (cfg : MemoryBuffer.Config) :
    Rotates (memory cfg) (fun _ => True) MemoryBuffer.Tried MemoryBuffer.Claimable FairMemory where
  enqueue m b trace key _ h := by
    simp only [memory]
    rcases MemoryBuffer.enqueue_cases cfg b trace m.nonce with ⟨hb, -⟩ | ⟨p, -, hnone, -, heq⟩
    · rw [hb]
      exact h
    · rw [heq]
      obtain ⟨r, hr, htried⟩ := h
      have hne : key.1 ≠ trace.traceRef := by
        intro heq
        rw [heq, hnone] at hr
        cases hr
      exact ⟨r, by rw [AList.lookup_insert_ne hne, hr], htried⟩
  claim m b sink limit lease r b' key _ hcall h := by
    simp only [memory, Option.some.injEq] at hcall
    obtain ⟨leased, hloop⟩ := MemoryBuffer.loop_claim cfg b sink limit lease m.now
    rw [hcall] at hloop
    exact MemoryBuffer.tried_claimed hloop.leases (Or.inl h)
  handed m b sink limit lease ds b' key _ hcall hmem := by
    simp only [memory, Option.some.injEq] at hcall
    obtain ⟨leased, hloop⟩ := MemoryBuffer.loop_claim cfg b sink limit lease m.now
    rw [hcall] at hloop
    obtain ⟨new, hnew, hall⟩ := hloop.handed ds rfl
    rw [List.nil_append] at hnew
    subst hnew
    obtain ⟨d, hd, rfl⟩ := List.mem_map.1 hmem
    obtain ⟨ref, href, hhands⟩ := MemoryBuffer.exists_of_forall₂ hall hd
    rw [hhands.key]
    exact ⟨rfl, MemoryBuffer.tried_claimed hloop.leases (Or.inr ⟨href, rfl⟩)⟩
  acknowledge m b ref sink key _ h := by
    simp only [memory]
    rcases MemoryBuffer.acknowledge_cases b ref sink with ⟨-, heq⟩ | ⟨r, hr, heq⟩
    · rw [heq]
      exact h
    · rw [heq]
      refine h.put hr sink ?_
      rintro ⟨hstate, -⟩
      cases hstate
  retry m b ref sink code key _ h := by
    simp only [memory]
    rcases MemoryBuffer.retry_cases b ref sink code with ⟨hb, -⟩ | ⟨r, hr, -, heq⟩
    · rw [hb]
      exact h
    · rw [heq]
      refine h.put hr sink ?_
      rintro ⟨-, hcount⟩
      exact absurd hcount (Nat.succ_ne_zero _)
  rotates m b sink limit lease ds b' x y _ hfair hcall hx htried hsink hy := by
    simp only [memory, Option.some.injEq] at hcall
    have hkeys := MemoryBuffer.keys_of_claim (congrArg Prod.fst hcall)
    rw [hkeys] at hx ⊢
    rcases hfair with hcovers | huntried
    · obtain ⟨r, hr, hfree⟩ := hy
      rw [hsink] at hfree
      have hmem : (⟨y.1, r⟩ : Sigma fun _ : String => MemoryBuffer.MemoryRecord) ∈
          MemoryBuffer.claimable b sink m.now := MemoryBuffer.mem_claimable.2 ⟨hr, hfree⟩
      exact List.mem_map.2 ⟨_, MemoryBuffer.mem_batch_of_length_le hcovers hmem,
        Prod.ext rfl hsink.symm⟩
    · -- what has been tried is not in the batch
      obtain ⟨e, he, rfl⟩ := List.mem_map.1 hx
      obtain ⟨r, hr, hnot⟩ := htried
      have hrecord := (MemoryBuffer.mem_claimable.1 (List.mem_of_mem_take he)).1
      rw [hrecord] at hr
      cases hr
      exact absurd (huntried e he) hnot

end DrainWorkers

/-! ### The buffer in PostgreSQL -/

namespace PostgresBuffer

open Traces

/-- The delivery has never been claimed. -/
def DeliveryRow.Untried (r : DeliveryRow) : Prop := r.state = .pending ∧ r.attemptCount = 0

/-- The delivery has been claimed. -/
def Tried (t : Tables) (key : Key) : Prop := ∃ r, t.row key = some r ∧ ¬ r.Untried

/-- The delivery can be claimed. -/
def Claimable (t : Tables) (now : ℤ) (key : Key) : Prop := ∃ r, t.row key = some r ∧ r.Ready now

theorem Updated.tried {t t' : Tables} {keys : List Key} {f : DeliveryRow → DeliveryRow}
    (hup : Updated t t' keys f) (hf : ∀ r, ¬ (f r).Untried) {key : Key}
    (h : Tried t key ∨ (key ∈ keys ∧ ∃ r, t.row key = some r)) : Tried t' key := by
  by_cases hkey : key ∈ keys
  · obtain ⟨r, hr⟩ : ∃ r, t.row key = some r := by
      rcases h with ⟨r, hr, -⟩ | ⟨-, h⟩
      · exact ⟨r, hr⟩
      · exact h
    exact ⟨f r, by rw [hup.row, if_pos hkey, hr]; rfl, hf r⟩
  · rcases h with ⟨r, hr, htried⟩ | ⟨h, -⟩
    · exact ⟨r, by rw [hup.row, if_neg hkey, hr], htried⟩
    · exact absurd h hkey

theorem Selects.mem {m : Moment} {t : Tables} {sink : DeliverySink} {limit : ℕ}
    (h : Selects m t sink limit) (hlimit : (candidates m t sink).length ≤ limit) {ref : String}
    (href : ref ∈ candidates m t sink) : ref ∈ m.chosen := by
  obtain ⟨hnodup, hsub, hlength, -⟩ := h
  have hsubperm : m.chosen.Subperm (candidates m t sink) := List.subperm_of_subset hnodup hsub
  have hperm : m.chosen.Perm (candidates m t sink) :=
    hsubperm.perm_of_length_le (by omega)
  exact hperm.mem_iff.2 href

end PostgresBuffer

namespace DrainWorkers

open Traces Leases Runs
open PostgresBuffer (Moment Tables)

/-- The claim covers every delivery that can be claimed, none of which others have locked, or takes
only such as were never claimed. -/
def FairPostgres (m : Moment) (t : Tables) (sink : DeliverySink) (limit : ℤ) : Prop :=
  ((∀ ref, PostgresBuffer.Claimable t m.now (ref, sink) → ref ∉ m.skipped) ∧
      (PostgresBuffer.candidates m t sink).length ≤ limit.toNat) ∨
    ∀ ref ∈ m.chosen, ∀ r, t.row (ref, sink) = some r → r.Untried

theorem rotates_postgres (cfg : PostgresBuffer.Config) :
    Rotates (postgres cfg) (fun t => PostgresBuffer.Sound t ∧ PostgresBuffer.Linked t)
      PostgresBuffer.Tried PostgresBuffer.Claimable FairPostgres where
  enqueue m t trace key hi h := by
    simp only [postgres]
    rcases PostgresBuffer.enqueue_cases cfg m t trace with ⟨ht, -⟩ | ⟨hnone, -, -, hrow⟩
    · rw [ht]
      exact h
    · obtain ⟨r, hr, htried⟩ := h
      have hne : key.1 ≠ trace.traceRef := by
        intro heq
        exact hi.2 key r hr (heq ▸ hnone)
      exact ⟨r, by rw [hrow, if_neg hne, hr], htried⟩
  claim m t sink limit lease r t' key hi hcall h := by
    rcases PostgresBuffer.claim_cases hi.1 hcall with ⟨-, rfl⟩ | ⟨-, hup, -⟩
    · exact h
    · refine hup.tried (fun r => ?_) (Or.inl h)
      rintro ⟨hstate, -⟩
      cases hstate
  handed m t sink limit lease ds t' key hi hcall hmem := by
    have hkeys := PostgresBuffer.keys_of_claim hi.1 hi.2 hcall
    have hkey := hkeys.mem_iff.1 hmem
    rcases PostgresBuffer.claim_cases hi.1 hcall with ⟨⟨_, -, h⟩, -⟩ | ⟨hselects, hup, -⟩
    · cases h
    · obtain ⟨ref, href, rfl⟩ := List.mem_map.1 hkey
      obtain ⟨-, r, hr, -⟩ := PostgresBuffer.mem_candidates.1 (hselects.2.1 ref href)
      refine ⟨rfl, hup.tried (fun r => ?_) (Or.inr ⟨hkey, r, hr⟩)⟩
      rintro ⟨hstate, -⟩
      cases hstate
  acknowledge m t ref sink key hi h := by
    simp only [postgres]
    rcases PostgresBuffer.acknowledge_cases m t ref sink with ⟨-, heq⟩ | ⟨r, t', -, heq, hup⟩
    · rw [heq]
      exact h
    · rw [heq]
      refine hup.tried (fun r => ?_) (Or.inl h)
      rintro ⟨hstate, -⟩
      cases hstate
  retry m t ref sink code key hi h := by
    simp only [postgres]
    rcases PostgresBuffer.retry_cases m t ref sink code hi.1 with
      ⟨-, heq⟩ | ⟨-, -, heq⟩ | ⟨_, -, -, heq⟩ | ⟨-, r, -, -, ⟨-, heq⟩ | ⟨-, t', heq, hup⟩⟩
    · rw [heq]
      exact h
    · rw [heq]
      exact h
    · rw [heq]
      exact h
    · rw [heq]
      exact h
    · rw [heq]
      refine hup.tried (fun r => ?_) (Or.inl h)
      rintro ⟨-, hcount⟩
      exact absurd hcount (Nat.succ_ne_zero _)
  rotates m t sink limit lease ds t' x y hi hfair hcall hx htried hsink hy := by
    have hkeys := PostgresBuffer.keys_of_claim hi.1 hi.2 hcall
    rcases PostgresBuffer.claim_cases hi.1 hcall with ⟨⟨_, -, h⟩, -⟩ | ⟨hselects, -, -⟩
    · cases h
    obtain ⟨ref, sink'⟩ := y
    simp only at hsink
    subst hsink
    rcases hfair with ⟨hunlocked, hcovers⟩ | huntried
    · obtain ⟨r, hr, hready⟩ := hy
      have hcandidate : ref ∈ PostgresBuffer.candidates m t sink' :=
        PostgresBuffer.mem_candidates.2 ⟨hunlocked ref ⟨r, hr, hready⟩, r, hr, hready⟩
      exact hkeys.mem_iff.2 (List.mem_map_of_mem (hselects.mem hcovers hcandidate))
    · -- what has been tried is not among the rows chosen
      obtain ⟨ref', href', rfl⟩ := List.mem_map.1 (hkeys.mem_iff.1 hx)
      obtain ⟨r, hr, hnot⟩ := htried
      exact absurd (huntried ref' href' r hr) hnot

/-- **Runs of fair claims rotate**, over either buffer, whatever it holds at the start. -/
theorem rotating_fair (mem : MemoryBuffer.Config) (pg : PostgresBuffer.Config)
    (automatic : Option (List DeliverySink)) (clock : ℤ) :
    (∀ b, Rotating (memory mem) automatic MemoryBuffer.Claimable (Fairly FairMemory)
        { store := b, clock }) ∧
      ∀ t, PostgresBuffer.Sound t → PostgresBuffer.Linked t →
        Rotating (postgres pg) automatic PostgresBuffer.Claimable (Fairly FairPostgres)
          { store := t, clock } :=
  ⟨fun _ => rotating_of_fairly (lawful_memory mem) (rotates_memory mem) trivial,
    fun _ hs hl => rotating_of_fairly (lawful_postgres pg) (rotates_postgres pg) ⟨hs, hl⟩⟩

/-! ### A delivery that waits -/

/-- The record of the first trace, with its delivery to LangSmith. -/
def firstRecord (d : MemoryBuffer.MemoryDelivery) : MemoryBuffer.MemoryRecord :=
  MemoryBuffer.MemoryRecord.set ⟨samplePayload "trace-a", fun _ => {}⟩ .langsmith d

/-- The buffer with two traces. -/
def twoTraces (d : MemoryBuffer.MemoryDelivery) : MemoryBuffer.Buffer :=
  (AList.singleton "trace-b" ⟨samplePayload "trace-b", fun _ => {}⟩).insert "trace-a" (firstRecord d)

theorem lookup_twoTraces (d : MemoryBuffer.MemoryDelivery) :
    (twoTraces d).lookup "trace-a" = some (firstRecord d) := AList.lookup_insert _

theorem put_twoTraces (d d' : MemoryBuffer.MemoryDelivery) :
    MemoryBuffer.put (twoTraces d) "trace-a" (firstRecord d) .langsmith d' = twoTraces d' := by
  simp [MemoryBuffer.put, twoTraces, firstRecord, MemoryBuffer.MemoryRecord.set, AList.insert_insert]

theorem claimable_twoTraces (d : MemoryBuffer.MemoryDelivery) :
    MemoryBuffer.Claimable (twoTraces d) 0 ("trace-b", .langsmith) := by
  refine ⟨⟨samplePayload "trace-b", fun _ => {}⟩, ?_, by decide⟩
  rw [twoTraces, AList.lookup_insert_ne (by decide)]
  exact MemoryBuffer.lookup_singleton _ _

theorem sortedEntries_twoTraces (d : MemoryBuffer.MemoryDelivery) :
    MemoryBuffer.sortedEntries (twoTraces d) =
      [⟨"trace-a", firstRecord d⟩, ⟨"trace-b", ⟨samplePayload "trace-b", fun _ => {}⟩⟩] := by
  have hle : "trace-a" ≤ "trace-b" := by decide
  have hentries : (twoTraces d).entries =
      [⟨"trace-a", firstRecord d⟩, ⟨"trace-b", ⟨samplePayload "trace-b", fun _ => {}⟩⟩] := rfl
  simp [MemoryBuffer.sortedEntries, hentries, hle]

variable {d : MemoryBuffer.MemoryDelivery}

theorem claim_twoTraces (hfree : ¬ d.Busy 0) :
    MemoryBuffer.claim sampleMemory (twoTraces d) .langsmith 1 leaseSeconds 0 =
      (.ok [⟨sampleTrace "trace-a", .langsmith, d.attemptCount⟩], twoTraces (d.lease 30000000)) := by
  have hpayload : (firstRecord d).payload = samplePayload "trace-a" := rfl
  have hopen : sampleMemory.cipher.open "trace-a" (firstRecord d).payload =
      .ok (sampleTrace "trace-a") := by
    rw [hpayload, open_sampleMemory]
  have hdelivery : (firstRecord d).deliveries .langsmith = d := by simp [firstRecord]
  have hdeadline : 0 + seconds leaseSeconds = 30000000 := rfl
  have hlimit : (1 : ℤ) ≤ (([] : List Delivery).length + 1 : ℕ) := le_rfl
  rw [MemoryBuffer.claim, sortedEntries_twoTraces,
    MemoryBuffer.claimLoop_last hopen (by rw [hdelivery]; exact hfree) hlimit, hdelivery,
    put_twoTraces, hdeadline, List.nil_append]

theorem retry_twoTraces (d : MemoryBuffer.MemoryDelivery) :
    MemoryBuffer.retry (twoTraces d) "trace-a" .langsmith "unexpected_export_error" =
      (.ok (), twoTraces ⟨.pending, d.attemptCount + 1, none, some "unexpected_export_error"⟩) := by
  have hdelivery : (firstRecord d).deliveries .langsmith = d := by simp [firstRecord]
  rw [MemoryBuffer.retry, if_neg (by decide), lookup_twoTraces]
  simp only [hdelivery, put_twoTraces]

/-- A worker is about to claim deliveries up to a limit. -/
structure AtClaim (s : Sys MemoryBuffer.Buffer) (limit : ℤ) (d : MemoryBuffer.MemoryDelivery) :
    Prop where
  store : s.store = twoTraces d
  clock : s.clock = 0
  worker : s.workers 0 = .running { limit, sinks := [.langsmith] }
  free : ¬ d.Busy 0

/-- The step is no claim, and the second trace can be claimed. -/
def Waits (s : Sys MemoryBuffer.Buffer) (l : Label) : Prop :=
  (∀ w m, l ≠ .claim w m) ∧ MemoryBuffer.Claimable s.store s.clock ("trace-b", .langsmith)

variable {s : Sys MemoryBuffer.Buffer}

theorem Waits.not_takes {l : Label} (h : Waits s l) (key : Key) :
    ¬ Takes (memory sampleMemory) none s l key := by
  rintro ⟨w, m, s', hl, -⟩
  exact h.1 w m hl

theorem Waits.fairly {l : Label} (h : Waits s l) : Fairly FairMemory s l := by
  intro w m drain sink sinks hl
  exact absurd hl (h.1 w m)

/-- A claim of the first trace, whose export then fails, after which the worker starts again. -/
theorem AtClaim.round (h : AtClaim s 1 d) (limit : ℤ) : ∃ s' s'' d',
      Claims (memory sampleMemory) none s 0 { now := 0 } s' ("trace-a", .langsmith) ∧
      ¬ Claims (memory sampleMemory) none s 0 { now := 0 } s' ("trace-b", .langsmith) ∧
      Reaches (step (memory sampleMemory) none) Waits s' s'' ∧ AtClaim s'' limit d' := by
  obtain ⟨store, clock, workers, held, finished, exports, ingested⟩ := s
  obtain ⟨hstore, hclock, hworker, hfree⟩ := h
  simp only at hstore hclock hworker
  subst hstore hclock
  let delivery : Delivery := ⟨sampleTrace "trace-a", .langsmith, d.attemptCount⟩
  let leased : Sys MemoryBuffer.Buffer :=
    { store := twoTraces (d.lease 30000000)
      workers := Function.update workers 0 (.running ⟨1, [], [delivery], none, 0, 0, 1⟩)
      held := ⟨0, ("trace-a", .langsmith), 30000000⟩ :: held, finished, exports, ingested }
  have hclaim : step (memory sampleMemory) none
      { store := twoTraces d, workers, held, finished, exports, ingested } (.claim 0 { now := 0 }) =
        some leased := by
    have hcall : (memory sampleMemory).claim { now := 0 } (twoTraces d) .langsmith 1 leaseSeconds =
        some (.ok [delivery], twoTraces (d.lease 30000000)) := congrArg some (claim_twoTraces hfree)
    exact step_claim hworker le_rfl hcall
  let failed : MemoryBuffer.MemoryDelivery :=
    ⟨.pending, d.attemptCount + 1, none, some "unexpected_export_error"⟩
  let after (b : MemoryBuffer.Buffer) (worker : Worker) : Sys MemoryBuffer.Buffer :=
    { leased with
      store := b, workers := Function.update workers 0 worker
      exports := ⟨.langsmith, sampleTrace "trace-a", .unexpected⟩ :: exports }
  let settled (worker : Worker) : Sys MemoryBuffer.Buffer :=
    { after (twoTraces failed) worker with
      held := Leases.settled leased.held 0 ("trace-a", .langsmith) }
  have hexport : step (memory sampleMemory) none leased (.exporting 0 .unexpected) = some
      (after (twoTraces (d.lease 30000000))
        (.running ⟨1, [], [delivery], some .unexpected, 0, 0, 1⟩)) := by
    simp only [step, leased, after, Sys.setWorker, Function.update_self, Function.update_idem]
    rfl
  have hsettle : step (memory sampleMemory) none (after (twoTraces (d.lease 30000000))
      (.running ⟨1, [], [delivery], some .unexpected, 0, 0, 1⟩)) (.settle 0 { now := 0 }) =
        some (settled (.running ⟨1, [], [], none, 0, 1, 1⟩)) := by
    have hcall : settleCall (memory sampleMemory) { now := 0 } (twoTraces (d.lease 30000000)) delivery
        .unexpected = (.ok (), twoTraces failed) := retry_twoTraces (d.lease 30000000)
    simp only [step, after, settled, Sys.setWorker, Function.update_self, Function.update_idem, hcall]
    rfl
  have hfinish : step (memory sampleMemory) none (settled (.running ⟨1, [], [], none, 0, 1, 1⟩))
      (.finish 0) = some (settled (.returned 0 1 1)) := by
    simp only [step, after, settled, Sys.setWorker, Function.update_self, Function.update_idem]
  have hstart : step (memory sampleMemory) none (settled (.returned 0 1 1))
      (.start 0 limit (some [.langsmith])) =
        some (settled (.running { limit, sinks := [.langsmith] })) := by
    simp only [step, after, settled, Sys.setWorker, Function.update_self, Function.update_idem]
    rfl
  refine ⟨leased, settled (.running { limit, sinks := [.langsmith] }), failed,
    ⟨hclaim, _, Function.update_self 0 _ workers, List.mem_cons_self⟩, ?_, ?_,
    ⟨rfl, rfl, Function.update_self 0 _ workers, ?_⟩⟩
  · rintro ⟨-, drain, hrunning, hmem⟩
    simp only [leased, Function.update_self, Worker.running.injEq] at hrunning
    subst hrunning
    simp [delivery, Delivery.key, sampleTrace] at hmem
  · -- no step on the way is a claim
    have hwaits : ∀ (b d) (l : Label), (∀ w m, l ≠ .claim w m) → b.store = twoTraces d →
        b.clock = 0 → Waits b l := by
      intro b d l hl hstore hclock
      refine ⟨hl, ?_⟩
      rw [hstore, hclock]
      exact claimable_twoTraces d
    refine (((Reaches.refl.tail (hwaits _ _ _ ?_ rfl rfl) hexport).tail
      (hwaits _ _ _ ?_ rfl rfl) hsettle).tail (hwaits _ failed _ ?_ rfl rfl) hfinish).tail
      (hwaits _ failed _ ?_ rfl rfl) hstart
    all_goals simp
  · simp [failed, MemoryBuffer.MemoryDelivery.Busy]

/-- A worker that has just started on the two traces. -/
def startedOn (d : MemoryBuffer.MemoryDelivery) : Sys MemoryBuffer.Buffer :=
  { store := twoTraces d
    workers := Function.update (fun _ => .idle) 0 (.running { limit := 1, sinks := [.langsmith] }) }

theorem atClaim_startedOn (hfree : ¬ d.Busy 0) : AtClaim (startedOn d) 1 d :=
  ⟨rfl, rfl, rfl, hfree⟩

theorem step_startedOn (d : MemoryBuffer.MemoryDelivery) :
    step (memory sampleMemory) none { store := twoTraces d, clock := 0 }
      (.start 0 1 (some [.langsmith])) = some (startedOn d) := rfl

theorem AtClaim.claimable {limit : ℤ} (h : AtClaim s limit d) :
    MemoryBuffer.Claimable s.store s.clock ("trace-b", .langsmith) ∧
      MemoryBuffer.Claimable s.store 0 ("trace-b", .langsmith) := by
  rw [h.store, h.clock]
  exact ⟨claimable_twoTraces d, claimable_twoTraces d⟩

/-- **The first of two traces is claimed twice while the second waits**: its export fails, and with a
limit of one every claim takes it again. -/
theorem not_rotating_twoTraces :
    ¬ Rotating (memory sampleMemory) none MemoryBuffer.Claimable (fun _ _ => True)
      { store := twoTraces {}, clock := 0 } := by
  intro h
  obtain ⟨s₁', s₂, d, hclaim, -, hwait, hsecond⟩ :=
    (atClaim_startedOn (d := {}) (by decide)).round 1
  obtain ⟨s₂', s₃, d', hclaim', hnot, -, -⟩ := hsecond.round 1
  have hreach := Reaches.single (C := fun _ _ => True) trivial (step_startedOn {})
  exact hnot (h (startedOn {}) s₁' s₂ s₂' 0 0 { now := 0 } { now := 0 } ("trace-a", .langsmith)
    ("trace-b", .langsmith) hreach trivial hclaim
    (hwait.mono fun s l hl => ⟨trivial, hl.2, hl.not_takes _⟩) trivial hclaim' hsecond.claimable.1
    hsecond.claimable.2 rfl)

theorem claimable_both (hfree : ¬ d.Busy 0) :
    MemoryBuffer.claimable (twoTraces d) .langsmith 0 =
      [⟨"trace-a", firstRecord d⟩, ⟨"trace-b", ⟨samplePayload "trace-b", fun _ => {}⟩⟩] := by
  have hdelivery : (firstRecord d).deliveries .langsmith = d := by simp [firstRecord]
  have hother : ¬ MemoryBuffer.MemoryDelivery.Busy {} 0 := by decide
  simp [MemoryBuffer.claimable, sortedEntries_twoTraces, hdelivery, hfree, hother]

theorem AtClaim.fairly {limit : ℤ} (h : AtClaim s limit d)
    (hfair : 2 ≤ limit ∨ limit = 1 ∧ d.Untried) : Fairly FairMemory s (.claim 0 { now := 0 }) := by
  intro w m drain sink sinks hl hw hsinks
  cases hl
  rw [h.worker] at hw
  cases hw
  cases hsinks
  rw [h.store, FairMemory, MemoryBuffer.batch, claimable_both h.free]
  rcases hfair with hlimit | ⟨rfl, huntried⟩
  · left
    simp only [List.length_cons, List.length_nil, MemoryBuffer.claimSize]
    omega
  · right
    simpa [MemoryBuffer.claimSize, firstRecord] using huntried

theorem AtClaim.claims_both (h : AtClaim s 2 d) :
    ∃ s', Claims (memory sampleMemory) none s 0 { now := 0 } s' ("trace-a", .langsmith) := by
  have hbatch : MemoryBuffer.batch (twoTraces d) .langsmith 2 0 =
      [⟨"trace-a", firstRecord d⟩, ⟨"trace-b", ⟨samplePayload "trace-b", fun _ => {}⟩⟩] := by
    rw [MemoryBuffer.batch, claimable_both h.free]
    rfl
  have hopen : ∀ e ∈ MemoryBuffer.batch (twoTraces d) .langsmith 2 0,
      ∃ trace, sampleMemory.cipher.open e.1 e.2.payload = .ok trace := by
    rw [hbatch]
    intro e he
    rcases List.mem_cons.1 he with rfl | he
    · exact ⟨_, open_sampleMemory "trace-a"⟩
    · rw [List.mem_singleton] at he
      subst he
      exact ⟨_, open_sampleMemory "trace-b"⟩
  obtain ⟨ds, hds⟩ := (MemoryBuffer.claim_eq_ok sampleMemory (twoTraces d) .langsmith 2 leaseSeconds
    0).2 hopen
  have hkeys := MemoryBuffer.keys_of_claim hds
  rw [hbatch] at hkeys
  have hcall : (memory sampleMemory).claim { now := 0 } (twoTraces d) .langsmith 2 leaseSeconds =
      some (.ok ds, (MemoryBuffer.claim sampleMemory (twoTraces d) .langsmith 2 leaseSeconds 0).2) := by
    have hnow : (memory sampleMemory).claim { now := 0 } (twoTraces d) .langsmith 2 leaseSeconds =
        some (MemoryBuffer.claim sampleMemory (twoTraces d) .langsmith 2 leaseSeconds 0) := rfl
    rw [hnow, ← hds, Prod.mk.eta]
  have hstep : step (memory sampleMemory) none s (.claim 0 { now := 0 }) = some
      { s.setWorker 0 (.running ⟨2, [], ds, none, 0, 0, 0 + ds.length⟩) with
        store := (MemoryBuffer.claim sampleMemory (twoTraces d) .langsmith 2 leaseSeconds 0).2
        held := (ds.map Delivery.key).map (fun key => ⟨0, key, 0 + seconds leaseSeconds⟩) ++
          s.held } := by
    exact step_claim h.worker (Int.le_of_eq h.clock.symm) (h.store.symm ▸ hcall)
  refine ⟨_, hstep, _, Function.update_self 0 _ s.workers, ?_⟩
  rw [hkeys]
  exact List.mem_cons_self

/-- With a limit of two the second trace is claimed along with the first. -/
theorem rotating_twoTraces : ∃ s s',
    Reaches (step (memory sampleMemory) none) (Fairly FairMemory)
      { store := twoTraces {}, clock := 0 } s ∧
    Claims (memory sampleMemory) none s 0 { now := 0 } s' ("trace-b", .langsmith) := by
  have hfirst : AtClaim (startedOn {}) 1 {} := atClaim_startedOn (by decide)
  obtain ⟨s₁', s₂, d, hclaim, -, hwait, hsecond⟩ := hfirst.round 2
  obtain ⟨s₂', hclaim'⟩ := hsecond.claims_both
  have hreach : Reaches (step (memory sampleMemory) none) (Fairly FairMemory)
      { store := twoTraces {}, clock := 0 } (startedOn {}) := by
    refine Reaches.single ?_ (step_startedOn {})
    intro w m drain sink sinks hl
    cases hl
  have hfair := hfirst.fairly (Or.inr ⟨rfl, rfl, rfl⟩)
  have hfair₂ := hsecond.fairly (Or.inl le_rfl)
  have hreach₂ := ((hreach.tail hfair hclaim.1).trans (hwait.mono fun s l hl => hl.fairly))
  refine ⟨s₂, s₂', hreach₂, ?_⟩
  exact (rotating_fair sampleMemory PostgresBuffer.sampleConfig none 0).1 (twoTraces {})
    (startedOn {}) s₁' s₂ s₂' 0 0 { now := 0 } { now := 0 } ("trace-a", .langsmith)
    ("trace-b", .langsmith) hreach hfair hclaim
    (hwait.mono fun s l hl => ⟨hl.fairly, hl.2, hl.not_takes _⟩) hfair₂ hclaim'
    hsecond.claimable.1 hsecond.claimable.2 rfl

end DrainWorkers
