/-
**At-least-once export over the trace buffer in memory.**

`TraceExportService` takes traces in and drains them to the three sinks.  Exports fail in any way and
workers stop between any two steps; a delivery is still never lost, and none counts as exported that
was not.

The invariant `Kept` ties the records of the buffer to the traces that were taken in, the deliveries
in the hands of the workers to the same traces, and the acknowledged deliveries to the exports that
returned.  Payloads are sealed, so the traces are tied to the records by opening what is stored.

Main definitions:

* `DrainWorkers.Kept` — the invariant of the runs;
* `DrainWorkers.Alone` — the steps of one worker, with given exporters.

Main results:

* `DrainWorkers.kept_reachable` — the invariant holds in every reachable state;
* `DrainWorkers.handed_out` — what is open and not under a running lease is handed out by a claim;
* `DrainWorkers.drain_returns` — `drain_once` returns;
* `DrainWorkers.at_least_once` — **the guarantees of the export**.
-/

import FaultWitness.DrainLeases

set_option autoImplicit false

namespace DrainWorkers

open Traces Runs MemoryBuffer
open PostgresBuffer (Moment)

/-! ### Payloads stay -/

/-- The buffer holds the same payloads under the same references. -/
def SamePayloads (b b' : Buffer) : Prop :=
  ∀ ref, (b'.lookup ref).map MemoryRecord.payload = (b.lookup ref).map MemoryRecord.payload

variable {b b' : Buffer}

theorem SamePayloads.symm (h : SamePayloads b b') : SamePayloads b' b :=
  fun ref => (h ref).symm

variable {r : MemoryRecord} {ref : String}

theorem SamePayloads.lookup (h : SamePayloads b b') (hr : b.lookup ref = some r) :
    ∃ r', b'.lookup ref = some r' ∧ r'.payload = r.payload := by
  have href := h ref
  rw [hr, Option.map_some] at href
  exact Option.map_eq_some_iff.1 href

theorem samePayloads_put (hr : b.lookup ref = some r) (sink : DeliverySink) (d : MemoryDelivery) :
    SamePayloads b (put b ref r sink d) := by
  intro ref'
  rw [lookup_put]
  split
  · rename_i heq
    rw [heq, hr]
    rfl
  · rfl

variable {sink : DeliverySink} {now deadline : ℤ} {leased : List String}

theorem samePayloads_claimed (h : Claimed b b' sink now deadline leased) : SamePayloads b b' := by
  intro ref
  rw [h.lookup ref]
  split
  · cases b.lookup ref <;> rfl
  · rfl

/-- The delivery is acknowledged in the buffer. -/
def Acked (b : Buffer) (ref : String) (sink : DeliverySink) : Prop :=
  ∃ r, b.lookup ref = some r ∧ (r.deliveries sink).state = .acked

variable {sink' : DeliverySink} {d : MemoryDelivery}

theorem acked_put {ref' : String} (hr : b.lookup ref = some r)
    (h : Acked (put b ref r sink d) ref' sink') :
    Acked b ref' sink' ∨ (ref' = ref ∧ sink' = sink ∧ d.state = .acked) := by
  obtain ⟨r', hr', hstate⟩ := h
  rw [lookup_put] at hr'
  split at hr'
  · rename_i heq
    subst heq
    cases hr'
    rw [MemoryRecord.set_deliveries] at hstate
    by_cases hsink : sink' = sink
    · subst hsink
      rw [Function.update_self] at hstate
      exact Or.inr ⟨rfl, rfl, hstate⟩
    · rw [Function.update_of_ne hsink] at hstate
      exact Or.inl ⟨r, hr, hstate⟩
  · exact Or.inl ⟨r', hr', hstate⟩

theorem acked_claimed (h : Claimed b b' sink now deadline leased) (hacked : Acked b' ref sink') :
    Acked b ref sink' := by
  obtain ⟨r', hr', hstate⟩ := hacked
  rw [h.lookup ref] at hr'
  split at hr'
  · obtain ⟨r, hr, rfl⟩ := Option.map_eq_some_iff.1 hr'
    refine ⟨r, hr, ?_⟩
    rw [MemoryRecord.lease, MemoryRecord.set_deliveries] at hstate
    by_cases hsink : sink' = sink
    · subst hsink
      rw [Function.update_self] at hstate
      cases hstate
    · rwa [Function.update_of_ne hsink] at hstate
  · exact ⟨r', hr', hstate⟩

/-! ### The invariant -/

/-- A drain in the light of the run: its deliveries carry traces that were taken in, its outcome is
that of an export of its first delivery, and its counts add up. -/
structure Drain.Sound (d : Drain) (ingested : List SanitizedTrace) (exports : List Export) : Prop where
  traces : ∀ x ∈ d.deliveries, x.trace ∈ ingested
  outcome : ∀ o, d.outcome = some o → ∃ x rest, d.deliveries = x :: rest ∧
    (⟨x.sink, x.trace, o⟩ : Export) ∈ exports
  counts : d.acked + d.retried + d.deliveries.length = d.claimed

variable {ingested ingested' : List SanitizedTrace} {exports : List Export}

theorem Drain.Sound.mono {d : Drain} {exports' : List Export} (h : d.Sound ingested exports)
    (hi : ingested ⊆ ingested') (he : exports ⊆ exports') : d.Sound ingested' exports' := by
  refine ⟨fun x hx => hi (h.traces x hx), fun o ho => ?_, h.counts⟩
  obtain ⟨x, rest, hds, hmem⟩ := h.outcome o ho
  exact ⟨x, rest, hds, he hmem⟩

/-- A worker in the light of the run. -/
def Worker.Sound (ingested : List SanitizedTrace) (exports : List Export) : Worker → Prop
  | .running d => d.Sound ingested exports
  | .returned acked retried claimed => acked + retried = claimed
  | _ => True

theorem Worker.Sound.mono {worker : Worker} {exports' : List Export}
    (h : worker.Sound ingested exports) (hi : ingested ⊆ ingested') (he : exports ⊆ exports') :
    worker.Sound ingested' exports' := by
  cases worker with
  | running d => exact Drain.Sound.mono h hi he
  | returned acked retried claimed => exact h
  | _ => trivial

/-- The records of the buffer are the traces that were taken in. -/
structure Stored (cfg : Config) (b : Buffer) (ingested : List SanitizedTrace) : Prop where
  record : ∀ ref r, b.lookup ref = some r →
    ∃ trace ∈ ingested, cfg.cipher.open ref r.payload = .ok trace
  trace : ∀ trace ∈ ingested, ∃ r, b.lookup trace.traceRef = some r ∧
    cfg.cipher.open trace.traceRef r.payload = .ok trace

/-- What holds in every state of a run. -/
structure Kept (cfg : Config) (s : Sys Buffer) : Prop where
  stored : Stored cfg s.store s.ingested
  acked : ∀ ref sink, Acked s.store ref sink → ∃ trace ∈ s.ingested, trace.traceRef = ref ∧
    (⟨sink, trace, .returned⟩ : Export) ∈ s.exports
  workers : ∀ w, (s.workers w).Sound s.ingested s.exports

variable {cfg : Config} {automatic : Option (List DeliverySink)} {s s' : Sys Buffer} {l : Label}
  {trace : SanitizedTrace}

theorem Stored.of_samePayloads (h : Stored cfg b ingested) (hsame : SamePayloads b b') :
    Stored cfg b' ingested := by
  refine ⟨fun ref r hr => ?_, fun trace htrace => ?_⟩
  · obtain ⟨r₀, hr₀, hpayload⟩ := hsame.symm.lookup hr
    rw [← hpayload]
    exact h.record ref r₀ hr₀
  · obtain ⟨r, hr, hopen⟩ := h.trace trace htrace
    obtain ⟨r', hr', hpayload⟩ := hsame.lookup hr
    rw [← hpayload] at hopen
    exact ⟨r', hr', hopen⟩

theorem Stored.unique (h : Stored cfg b ingested) {t t' : SanitizedTrace} (ht : t ∈ ingested)
    (ht' : t' ∈ ingested) (href : t'.traceRef = t.traceRef) : t' = t := by
  obtain ⟨r, hr, hopen⟩ := h.trace t ht
  obtain ⟨r', hr', hopen'⟩ := h.trace t' ht'
  rw [href] at hr' hopen'
  cases hr.symm.trans hr'
  cases hopen.symm.trans hopen'
  rfl

theorem Stored.insert (h : Stored cfg b ingested) {nonce : List UInt8}
    {payload : EncryptedPayload} (hseal : cfg.cipher.seal trace nonce = .ok payload)
    (hnone : b.lookup trace.traceRef = none) :
    Stored cfg (b.insert trace.traceRef ⟨payload, fun _ => {}⟩) (trace :: ingested) := by
  refine ⟨fun ref r hr => ?_, fun t ht => ?_⟩
  · by_cases href : ref = trace.traceRef
    · subst href
      rw [AList.lookup_insert] at hr
      cases hr
      exact ⟨trace, List.mem_cons_self, open_seal hseal⟩
    · rw [AList.lookup_insert_ne href] at hr
      obtain ⟨t, ht, hopen⟩ := h.record ref r hr
      exact ⟨t, List.mem_cons_of_mem _ ht, hopen⟩
  · rcases List.mem_cons.1 ht with rfl | ht
    · exact ⟨_, AList.lookup_insert _, open_seal hseal⟩
    · obtain ⟨r, hr, hopen⟩ := h.trace t ht
      have hne : t.traceRef ≠ trace.traceRef := by
        intro heq
        rw [heq, hnone] at hr
        cases hr
      exact ⟨r, (AList.lookup_insert_ne hne).trans hr, hopen⟩

theorem sound_setWorker {w : ℕ} {worker : Worker} (h : ∀ v, (s.workers v).Sound ingested exports)
    (hw : worker.Sound ingested exports) (v : ℕ) :
    ((s.setWorker w worker).workers v).Sound ingested exports := by
  by_cases hv : v = w
  · subst hv
    simpa only [Sys.setWorker, Function.update_self] using hw
  · simpa only [Sys.setWorker, Function.update_of_ne hv] using h v

theorem Stored.claimed (h : Stored cfg b ingested) {limit lease : ℤ} {ds : List Delivery}
    (hcall : claim cfg b sink limit lease now = (.ok ds, b')) :
    ∀ d ∈ ds, d.trace ∈ ingested ∧ d.sink = sink := by
  obtain ⟨leased, hloop⟩ := loop_claim cfg b sink limit lease now
  rw [hcall] at hloop
  obtain ⟨new, hnew, hall⟩ := hloop.handed ds rfl
  intro d hd
  rw [hnew, List.nil_append] at hd
  obtain ⟨ref, -, r, hr, hopen, hsink, -⟩ := exists_of_forall₂ hall hd
  obtain ⟨trace, htrace, hopen'⟩ := h.record ref r hr
  cases hopen.symm.trans hopen'
  exact ⟨htrace, hsink⟩

theorem Kept.drain (h : Kept cfg s) {w : ℕ} {d : Drain} (hw : s.workers w = .running d) :
    d.Sound s.ingested s.exports := by
  have hsound := h.workers w
  rwa [hw] at hsound

/-- **Every step keeps the invariant.** -/
theorem Kept.step (h : Kept cfg s) (hs : step (memory cfg) automatic s l = some s') :
    Kept cfg s' := by
  cases moved_of_step hs with
  | waited n => exact ⟨h.stored, h.acked, h.workers⟩
  | ingested m trace b hcall =>
    rcases enqueue_cases cfg s.store trace m.nonce with ⟨-, hne⟩ | ⟨p, hseal, hnone, -, heq⟩
    · exact absurd (congrArg Prod.fst hcall) hne
    · cases hcall.symm.trans heq
      refine ⟨h.stored.insert hseal hnone, fun ref sink hacked => ?_, fun w =>
        (h.workers w).mono (List.subset_cons_self _ _) (List.Subset.refl _)⟩
      obtain ⟨r, hr, hstate⟩ := hacked
      by_cases href : ref = trace.traceRef
      · subst href
        rw [AList.lookup_insert] at hr
        cases hr
        cases hstate
      · rw [AList.lookup_insert_ne href] at hr
        obtain ⟨t, ht, hrest⟩ := h.acked ref sink ⟨r, hr, hstate⟩
        exact ⟨t, List.mem_cons_of_mem _ ht, hrest⟩
  | refused m trace r b hcall hr =>
    rcases enqueue_cases cfg s.store trace m.nonce with ⟨hb, -⟩ | ⟨p, -, -, -, heq⟩
    · have hsame : b = s.store := (congrArg Prod.snd hcall).symm.trans hb
      subst hsame
      exact ⟨h.stored, h.acked, h.workers⟩
    · cases hcall.symm.trans heq
      exact absurd rfl hr
  | started w limit sinks hw =>
    exact ⟨h.stored, h.acked, sound_setWorker h.workers ⟨by simp, by simp, rfl⟩⟩
  | claimFailed w m d sink sinks err b hw hsinks hnone hnow hcall =>
    obtain ⟨leased, hloop⟩ := loop_claim cfg s.store sink d.limit leaseSeconds m.now
    simp only [memory, Option.some.injEq] at hcall
    rw [hcall] at hloop
    exact ⟨h.stored.of_samePayloads (samePayloads_claimed hloop.leases),
      fun ref sink' hacked => h.acked ref sink' (acked_claimed hloop.leases hacked),
      sound_setWorker h.workers trivial⟩
  | claimed w m d sink sinks ds b hw hsinks hnone hnow hcall =>
    obtain ⟨leased, hloop⟩ := loop_claim cfg s.store sink d.limit leaseSeconds m.now
    simp only [memory, Option.some.injEq] at hcall
    rw [hcall] at hloop
    have hd := h.drain hw
    have hcounts := hd.counts
    rw [hnone, List.length_nil] at hcounts
    refine ⟨h.stored.of_samePayloads (samePayloads_claimed hloop.leases),
      fun ref sink' hacked => h.acked ref sink' (acked_claimed hloop.leases hacked),
      sound_setWorker h.workers ⟨fun x hx => (h.stored.claimed hcall x hx).1, by simp, ?_⟩⟩
    simp only
    omega
  | exported w outcome drain d ds hw hds hnone =>
    have hd := h.drain hw
    have hsub : s.exports ⊆ ⟨d.sink, d.trace, outcome⟩ :: s.exports := List.subset_cons_self _ _
    refine ⟨h.stored, fun ref sink hacked => ?_, sound_setWorker
      (fun v => (h.workers v).mono (List.Subset.refl _) hsub) ⟨hd.traces, fun o ho => ?_,
        hd.counts⟩⟩
    · obtain ⟨t, ht, href, hmem⟩ := h.acked ref sink hacked
      exact ⟨t, ht, href, hsub hmem⟩
    · cases ho
      exact ⟨d, ds, hds, List.mem_cons_self⟩
  | settleFailed w m drain d ds outcome err b hw hds hout hcall =>
    obtain rfl := (lawful_memory cfg).settle_error trivial hcall
    exact ⟨h.stored, h.acked, sound_setWorker h.workers trivial⟩
  | acknowledged w m drain d ds b hw hds hout hcall =>
    have hd := h.drain hw
    have hcounts := hd.counts
    rw [hds, List.length_cons] at hcounts
    rcases acknowledge_cases s.store d.trace.traceRef d.sink with ⟨-, heq⟩ | ⟨r, hr, heq⟩
    · cases hcall.symm.trans heq
    · cases hcall.symm.trans heq
      refine ⟨h.stored.of_samePayloads (samePayloads_put hr _ _), fun ref sink hacked => ?_,
        sound_setWorker h.workers ⟨fun x hx => hd.traces x (hds ▸ List.mem_cons_of_mem _ hx),
          by simp, by simp only; omega⟩⟩
      rcases acked_put hr hacked with hold | ⟨rfl, rfl, -⟩
      · exact h.acked ref sink hold
      · obtain ⟨x, rest, hx, hmem⟩ := hd.outcome .returned hout
        cases hds.symm.trans hx
        exact ⟨d.trace, hd.traces d (hds ▸ List.mem_cons_self), rfl, hmem⟩
  | gaveBack w m drain d ds outcome code b hw hds hout hcode hcall =>
    have hd := h.drain hw
    have hcounts := hd.counts
    rw [hds, List.length_cons] at hcounts
    rcases retry_cases s.store d.trace.traceRef d.sink code with ⟨-, hne⟩ | ⟨r, hr, -, heq⟩
    · have hok := congrArg Prod.fst hcall
      rcases hne with ⟨hbad, -⟩ | ⟨hbad, -⟩ <;> cases hok.symm.trans hbad
    · cases hcall.symm.trans heq
      refine ⟨h.stored.of_samePayloads (samePayloads_put hr _ _), fun ref sink hacked => ?_,
        sound_setWorker h.workers ⟨fun x hx => hd.traces x (hds ▸ List.mem_cons_of_mem _ hx),
          by simp, by simp only; omega⟩⟩
      rcases acked_put hr hacked with hold | ⟨-, -, hstate⟩
      · exact h.acked ref sink hold
      · cases hstate
  | finished w d hw hsinks hds =>
    have hd := h.drain hw
    have hcounts := hd.counts
    rw [hds] at hcounts
    exact ⟨h.stored, h.acked, sound_setWorker h.workers hcounts⟩
  | stopped w => exact ⟨h.stored, h.acked, sound_setWorker h.workers trivial⟩

theorem kept_init (cfg : Config) : Kept cfg { store := ∅ } := by
  refine ⟨⟨fun ref r hr => ?_, fun t ht => absurd ht List.not_mem_nil⟩, fun ref sink hacked => ?_,
    fun w => trivial⟩
  · cases hr
  · obtain ⟨r, hr, -⟩ := hacked
    cases hr

theorem kept_reachable (h : Reachable (step (memory cfg) automatic) { store := ∅ } s) :
    Kept cfg s :=
  h.invariant (kept_init cfg) fun _ _ _ hk _ hs => hk.step hs

/-! ### Nothing is lost -/

/-- What has been taken in stays, with the payload it was stored with. -/
theorem samePayloads_step (hs : step (memory cfg) automatic s l = some s')
    (hr : s.store.lookup ref = some r) :
    ∃ r', s'.store.lookup ref = some r' ∧ r'.payload = r.payload := by
  cases moved_of_step hs with
  | ingested m trace b hcall =>
    rcases enqueue_cases cfg s.store trace m.nonce with ⟨-, hne⟩ | ⟨p, -, hnone, -, heq⟩
    · exact absurd (congrArg Prod.fst hcall) hne
    · cases hcall.symm.trans heq
      have hne : ref ≠ trace.traceRef := by
        rintro rfl
        rw [hnone] at hr
        cases hr
      exact ⟨r, (AList.lookup_insert_ne hne).trans hr, rfl⟩
  | refused m trace r' b hcall hr' =>
    rcases enqueue_cases cfg s.store trace m.nonce with ⟨hb, -⟩ | ⟨p, -, -, -, heq⟩
    · have hsame : b = s.store := (congrArg Prod.snd hcall).symm.trans hb
      subst hsame
      exact ⟨r, hr, rfl⟩
    · cases hcall.symm.trans heq
      exact absurd rfl hr'
  | claimFailed w m d sink sinks err b hw hsinks hnone hnow hcall =>
    obtain ⟨leased, hloop⟩ := loop_claim cfg s.store sink d.limit leaseSeconds m.now
    simp only [memory, Option.some.injEq] at hcall
    rw [hcall] at hloop
    exact (samePayloads_claimed hloop.leases).lookup hr
  | claimed w m d sink sinks ds b hw hsinks hnone hnow hcall =>
    obtain ⟨leased, hloop⟩ := loop_claim cfg s.store sink d.limit leaseSeconds m.now
    simp only [memory, Option.some.injEq] at hcall
    rw [hcall] at hloop
    exact (samePayloads_claimed hloop.leases).lookup hr
  | settleFailed w m drain d ds outcome err b hw hds hout hcall =>
    obtain rfl := (lawful_memory cfg).settle_error trivial hcall
    exact ⟨r, hr, rfl⟩
  | acknowledged w m drain d ds b hw hds hout hcall =>
    rcases acknowledge_cases s.store d.trace.traceRef d.sink with ⟨-, heq⟩ | ⟨r', hr', heq⟩
    · cases hcall.symm.trans heq
    · cases hcall.symm.trans heq
      exact (samePayloads_put hr' _ _).lookup hr
  | gaveBack w m drain d ds outcome code b hw hds hout hcode hcall =>
    rcases retry_cases s.store d.trace.traceRef d.sink code with ⟨-, hne⟩ | ⟨r', hr', -, heq⟩
    · have hok := congrArg Prod.fst hcall
      rcases hne with ⟨hbad, -⟩ | ⟨hbad, -⟩ <;> cases hok.symm.trans hbad
    · cases hcall.symm.trans heq
      exact (samePayloads_put hr' _ _).lookup hr
  | _ => exact ⟨r, hr, rfl⟩

theorem samePayloads_reachable (h : Reachable (step (memory cfg) automatic) s s')
    (hr : s.store.lookup ref = some r) :
    ∃ r', s'.store.lookup ref = some r' ∧ r'.payload = r.payload := by
  refine h.invariant (I := fun t => ∃ r', t.store.lookup ref = some r' ∧ r'.payload = r.payload)
    ⟨r, hr, rfl⟩ ?_
  rintro t l t' ⟨r₁, hr₁, hpayload⟩ - hs
  obtain ⟨r₂, hr₂, hsame⟩ := samePayloads_step hs hr₁
  exact ⟨r₂, hr₂, hsame.trans hpayload⟩

/-- A claim hands out no more than the records it goes through. -/
theorem length_claimLoop {limit : ℤ} {entries : List (Sigma fun _ : String => MemoryRecord)}
    {before ds : List Delivery}
    (h : claimLoop cfg sink limit now deadline entries b before = (.ok ds, b')) :
    ds.length ≤ before.length + entries.length := by
  induction entries generalizing b before with
  | nil =>
    cases h
    omega
  | cons e entries ih =>
    obtain ⟨ref, record⟩ := e
    rw [claimLoop] at h
    split at h
    · have := ih h
      simp only [List.length_cons]
      omega
    · dsimp only at h
      split at h
      · cases h
      · split at h
        · cases h
          simp only [List.length_append, List.length_cons, List.length_nil]
          omega
        · have := ih h
          simp only [List.length_append, List.length_cons, List.length_nil] at this ⊢
          omega

theorem Stored.claim_ok (h : Stored cfg b ingested) (sink : DeliverySink) (limit lease now : ℤ) :
    ∃ ds b', claim cfg b sink limit lease now = (.ok ds, b') := by
  obtain ⟨leased, hloop⟩ := loop_claim cfg b sink limit lease now
  generalize claim cfg b sink limit lease now = result at hloop
  obtain ⟨outcome, b'⟩ := result
  cases outcome with
  | error err =>
    obtain ⟨e, he, cause, hopen, -⟩ := hloop.error err rfl
    have hlookup : b.lookup e.1 = some e.2 :=
      AList.mem_lookup_iff.2 ((perm_sortedEntries b).mem_iff.1 he)
    obtain ⟨t, -, hopen'⟩ := h.record e.1 e.2 hlookup
    cases hopen.symm.trans hopen'
  | ok ds => exact ⟨ds, b', rfl⟩

/-- **A claim with a large enough limit hands out every delivery that is open and not under a
running lease.** -/
theorem handed_out (h : Stored cfg b ingested) (htrace : trace ∈ ingested)
    (hr : b.lookup trace.traceRef = some r) {limit : ℤ} (lease : ℤ)
    (hfree : ¬ (r.deliveries sink).Busy now) (hlimit : b.entries.length < limit) :
    ∃ ds b', claim cfg b sink limit lease now = (.ok ds, b') ∧
      ∃ d ∈ ds, d.trace = trace ∧ d.sink = sink := by
  obtain ⟨ds, b', hcall⟩ := h.claim_ok sink limit lease now
  obtain ⟨leased, hloop⟩ := loop_claim cfg b sink limit lease now
  rw [hcall] at hloop
  refine ⟨ds, b', hcall, ?_⟩
  have hlength : ds.length ≤ b.entries.length := by
    have hle := length_claimLoop hcall
    rw [(perm_sortedEntries b).length_eq] at hle
    simpa using hle
  have hall := (hloop.complete ds rfl).resolve_left (by omega)
  have hmem : (⟨trace.traceRef, r⟩ : Sigma fun _ : String => MemoryRecord) ∈ sortedEntries b :=
    (perm_sortedEntries b).mem_iff.2 (AList.mem_lookup_iff.1 hr)
  have hleased : trace.traceRef ∈ leased := hall _ hmem hfree
  obtain ⟨new, hnew, hforall⟩ := hloop.handed ds rfl
  obtain ⟨d, hd, r', hr', hopen, hsink, -⟩ := exists_of_forall₂ hforall.flip hleased
  obtain ⟨r₀, hr₀, hopen₀⟩ := h.trace trace htrace
  cases hr'.symm.trans hr₀
  cases hopen.symm.trans hopen₀
  rw [List.nil_append] at hnew
  exact ⟨d, hnew ▸ hd, rfl, hsink⟩

/-! ### A drain returns -/

/-- The steps of one worker, whose exports end as the exporters say. -/
def Alone {B : Type} (exporters : DeliverySink → SanitizedTrace → ExportOutcome) (w : ℕ)
    (s : Sys B) : Label → Prop
  | .claim v _ => v = w
  | .exporting v outcome => v = w ∧ ∀ drain d ds, s.workers w = .running drain →
      drain.deliveries = d :: ds → outcome = exporters d.sink d.trace
  | .settle v _ => v = w
  | .finish v => v = w
  | _ => False

/-- The exporters fail with codes that `retry` accepts. -/
def ValidExporters (exporters : DeliverySink → SanitizedTrace → ExportOutcome) : Prop :=
  ∀ sink trace code, exporters sink trace = .failed code → ValidCode code

theorem ValidExporters.code {exporters : DeliverySink → SanitizedTrace → ExportOutcome}
    (h : ValidExporters exporters) {code : String}
    (hcode : (exporters sink trace).code = some code) : ValidCode code := by
  cases houtcome : exporters sink trace with
  | returned =>
    rw [houtcome] at hcode
    cases hcode
  | failed code' =>
    rw [houtcome] at hcode
    cases hcode
    exact h sink trace code houtcome
  | unexpected =>
    rw [houtcome] at hcode
    cases hcode
    decide

section Returns

variable {exporters : DeliverySink → SanitizedTrace → ExportOutcome} {w : ℕ}
  {sinks : List DeliverySink} {limit : ℤ} {ds : List Delivery}

theorem Kept.reaches {C : Sys Buffer → Label → Prop} (h : Kept cfg s)
    (hr : Reaches (DrainWorkers.step (memory cfg) automatic) C s s') : Kept cfg s' :=
  hr.invariant h fun _ _ _ hk _ hs => hk.step hs

/-- Settling a delivery of a trace that was taken in. -/
theorem settle_ok (h : Kept cfg s) (automatic : Option (List DeliverySink)) {d : Delivery}
    {o : ExportOutcome} {acked retried claimed : ℕ}
    (hw : s.workers w = .running ⟨limit, sinks, d :: ds, some o, acked, retried, claimed⟩)
    (hvalid : ∀ code, o.code = some code → ValidCode code) (m : Moment) :
    ∃ s' acked' retried', step (memory cfg) automatic s (.settle w m) = some s' ∧
      s'.workers w = .running ⟨limit, sinks, ds, none, acked', retried', claimed⟩ := by
  obtain ⟨r, hr, -⟩ := h.stored.trace d.trace ((h.drain hw).traces d List.mem_cons_self)
  cases hcode : o.code with
  | none =>
    rcases acknowledge_cases s.store d.trace.traceRef d.sink with ⟨hnone, -⟩ | ⟨_, -, hcall⟩
    · rw [hr] at hnone
      cases hnone
    · simp only [step, hw, settleCall, hcode, memory, hcall]
      exact ⟨_, acked + 1, retried, rfl, by simp [Sys.setWorker]⟩
  | some code =>
    rcases retry_cases s.store d.trace.traceRef d.sink code with ⟨-, hbad⟩ | ⟨_, -, -, hcall⟩
    · rcases hbad with ⟨-, hbad⟩ | ⟨-, hnone⟩
      · exact absurd (hvalid code hcode) hbad
      · rw [hr] at hnone
        cases hnone
    · simp only [step, hw, settleCall, hcode, memory, hcall]
      exact ⟨_, acked, retried + 1, rfl, by simp [Sys.setWorker]⟩

/-- The deliveries that were claimed are exported and settled one after the other. -/
theorem settles_deliveries (hvalid : ValidExporters exporters)
    (automatic : Option (List DeliverySink)) {acked retried claimed : ℕ} (h : Kept cfg s)
    (hw : s.workers w = .running ⟨limit, sinks, ds, none, acked, retried, claimed⟩) :
    ∃ s' acked' retried', Reaches (step (memory cfg) automatic) (Alone exporters w) s s' ∧
      s'.workers w = .running ⟨limit, sinks, [], none, acked', retried', claimed⟩ := by
  induction ds generalizing s acked retried with
  | nil => exact ⟨s, acked, retried, .refl, hw⟩
  | cons d ds ih =>
    have hexport : ∃ s₁, step (memory cfg) automatic s
        (.exporting w (exporters d.sink d.trace)) = some s₁ ∧ s₁.workers w =
          .running ⟨limit, sinks, d :: ds, some (exporters d.sink d.trace), acked, retried,
            claimed⟩ := by
      simp [step, hw, Sys.setWorker]
    obtain ⟨s₁, hs₁, hw₁⟩ := hexport
    have halone : Alone exporters w s (.exporting w (exporters d.sink d.trace)) := by
      refine ⟨rfl, fun drain d' ds' hdrain hds => ?_⟩
      cases hw.symm.trans hdrain
      cases hds
      rfl
    have h₁ := h.step hs₁
    obtain ⟨s₂, acked₂, retried₂, hs₂, hw₂⟩ :=
      settle_ok h₁ automatic hw₁ (fun code hcode => hvalid.code hcode) { now := s₁.clock }
    obtain ⟨s', acked', retried', hrest, hw'⟩ := ih (h₁.step hs₂) hw₂
    have hsettle : Alone exporters w s₁ (.settle w { now := s₁.clock }) := rfl
    exact ⟨s', acked', retried', ((Reaches.single halone hs₁).tail hsettle hs₂).trans hrest, hw'⟩

/-- **A worker that goes on returns**, with counts that add up. -/
theorem drain_returns (hvalid : ValidExporters exporters) (automatic : Option (List DeliverySink))
    {acked retried claimed : ℕ} (h : Kept cfg s)
    (hw : s.workers w = .running ⟨limit, sinks, [], none, acked, retried, claimed⟩) :
    ∃ s' acked' retried', Reaches (step (memory cfg) automatic) (Alone exporters w) s s' ∧
      s'.workers w = .returned acked' retried' (acked' + retried') := by
  induction sinks generalizing s acked retried claimed with
  | nil =>
    have hfinish : ∃ s', step (memory cfg) automatic s (.finish w) = some s' ∧
        s'.workers w = .returned acked retried claimed := by
      simp [step, hw, Sys.setWorker]
    obtain ⟨s', hs', hw'⟩ := hfinish
    have hcounts : acked + retried = claimed := (h.drain hw).counts
    have halone : Alone exporters w s (.finish w) := rfl
    exact ⟨s', acked, retried, Reaches.single halone hs', hcounts ▸ hw'⟩
  | cons sink sinks ih =>
    obtain ⟨ds, b, hcall⟩ := h.stored.claim_ok sink limit leaseSeconds s.clock
    have hclaim : ∃ s₁, step (memory cfg) automatic s (.claim w { now := s.clock }) = some s₁ ∧
        s₁.workers w = .running ⟨limit, sinks, ds, none, acked, retried, claimed + ds.length⟩ := by
      simp [step, hw, Sys.setWorker, memory, hcall]
    obtain ⟨s₁, hs₁, hw₁⟩ := hclaim
    have h₁ := h.step hs₁
    obtain ⟨s₂, acked₂, retried₂, hrun, hw₂⟩ := settles_deliveries hvalid automatic h₁ hw₁
    obtain ⟨s', acked', retried', hrest, hw'⟩ := ih (h₁.reaches hrun) hw₂
    have halone : Alone exporters w s (.claim w { now := s.clock }) := rfl
    exact ⟨s', acked', retried', ((Reaches.single halone hs₁).trans hrun).trans hrest, hw'⟩

end Returns

/-! ### The guarantees -/

/-- The lease of a delivery does not run at an instant. -/
def Expired (d : MemoryDelivery) (now : ℤ) : Prop :=
  ∀ deadline, d.state = .leased → d.leaseUntil = some deadline → deadline ≤ now

theorem not_busy_of_expired (hstate : d.state ≠ .acked) (h : Expired d now) : ¬ d.Busy now := by
  rintro (hacked | ⟨hleased, deadline, huntil, hlt⟩)
  · exact hstate hacked
  · have := h deadline hleased huntil
    omega

/-- **At-least-once export.**  In every state of every run: (1) what is acknowledged was exported,
with the one trace that was taken in under its reference; (2) what was taken in stays as it is, and a
claim with a large enough limit hands out each of its open deliveries whose lease does not run;
(3) the counts that `drain_once` returns add up to what it claimed, and it does return; (4) `status`
counts the open deliveries and the traces that have one. -/
theorem at_least_once (cfg : Config) (automatic : Option (List DeliverySink)) {s : Sys Buffer}
    (h : Reachable (step (memory cfg) automatic) { store := ∅ } s) :
    (∀ ref sink, Acked s.store ref sink → ∃ trace ∈ s.ingested, trace.traceRef = ref ∧
      (∀ other ∈ s.ingested, other.traceRef = ref → other = trace) ∧
      (⟨sink, trace, .returned⟩ : Export) ∈ s.exports) ∧
    (∀ trace ∈ s.ingested, ∃ r, s.store.lookup trace.traceRef = some r ∧
      (∀ s', Reachable (step (memory cfg) automatic) s s' →
        ∃ r', s'.store.lookup trace.traceRef = some r' ∧ r'.payload = r.payload ∧
          cfg.cipher.open trace.traceRef r'.payload = .ok trace) ∧
      ∀ sink (limit lease now : ℤ), (r.deliveries sink).state ≠ .acked →
        Expired (r.deliveries sink) now → s.store.entries.length < limit →
          ∃ ds b', claim cfg s.store sink limit lease now = (.ok ds, b') ∧
            ∃ d ∈ ds, d.trace = trace ∧ d.sink = sink) ∧
    ((∀ w acked retried claimed, s.workers w = .returned acked retried claimed →
        acked + retried = claimed) ∧
      ∀ w limit sinks s₁, step (memory cfg) automatic s (.start w limit sinks) = some s₁ →
        ∀ exporters, ValidExporters exporters → ∃ s' acked retried,
          Reaches (step (memory cfg) automatic) (Alone exporters w) s₁ s' ∧
            s'.workers w = .returned acked retried (acked + retried)) ∧
    (∀ sink, (status s.store).sinks sink =
      s.store.entries.countP fun e => (e.2.deliveries sink).state ≠ .acked) ∧
    (status s.store).traces = s.store.entries.countP fun e =>
      ∃ sink ∈ DeliverySink.all, (e.2.deliveries sink).state ≠ .acked := by
  have hkept := kept_reachable h
  refine ⟨fun ref sink hacked => ?_, fun trace htrace => ?_, ⟨fun w acked retried claimed hw => ?_,
    fun w limit sinks s₁ hs₁ exporters hvalid => ?_⟩, status_spec s.store⟩
  · obtain ⟨trace, htrace, rfl, hexport⟩ := hkept.acked ref sink hacked
    exact ⟨trace, htrace, rfl, fun other hother href => hkept.stored.unique htrace hother href,
      hexport⟩
  · obtain ⟨r, hr, hopen⟩ := hkept.stored.trace trace htrace
    refine ⟨r, hr, fun s' hs' => ?_, fun sink limit lease now hstate hexpired hlimit => ?_⟩
    · obtain ⟨r', hr', hpayload⟩ := samePayloads_reachable hs' hr
      exact ⟨r', hr', hpayload, hpayload ▸ hopen⟩
    · exact handed_out hkept.stored htrace hr lease (not_busy_of_expired hstate hexpired) hlimit
  · have hsound := hkept.workers w
    rwa [hw] at hsound
  · have hw : s₁.workers w = .running ⟨limit, drainSinks automatic sinks, [], none, 0, 0, 0⟩ := by
      cases moved_of_step hs₁
      simp [Sys.setWorker]
    exact drain_returns hvalid automatic (hkept.step hs₁) hw

/-- The guarantees in a run whose trace is exported to the archive. -/
theorem at_least_once_archived :
    (⟨.archive, sampleTrace "trace-a", .returned⟩ : Export) ∈
        (lateFailure (sampleTrace "trace-a") (sampleBuffer { state := .acked })).exports ∧
      ∃ ds b', claim sampleMemory (sampleBuffer { state := .acked }) .otlp 2 leaseSeconds 0 =
          (.ok ds, b') ∧ ∃ d ∈ ds, d.trace = sampleTrace "trace-a" ∧ d.sink = .otlp := by
  obtain ⟨hacked, hkept, -⟩ := at_least_once sampleMemory none
    (takeover_memory.lateFailure_reachable (acknowledge_sampleBuffer _ { now := 31000000 }))
  constructor
  · obtain ⟨trace, htrace, -, -, hexport⟩ := hacked "trace-a" .archive
      ⟨_, lookup_singleton _ _, rfl⟩
    rw [List.mem_singleton.1 htrace] at hexport
    exact hexport
  · obtain ⟨r, hr, -, hclaim⟩ := hkept (sampleTrace "trace-a") (List.mem_singleton.2 rfl)
    cases hr.symm.trans (lookup_singleton _ _)
    exact hclaim .otlp 2 leaseSeconds 0 (by decide) (fun deadline hleased => by cases hleased)
      (by decide)

end DrainWorkers
