/-
**The endpoints of the trace service.**

The service runs over the PostgreSQL buffer in one of two modes.  In direct mode its workers drain
all sinks; in the mode of the operator relay they leave LangSmith out, and an operator fetches one
trace at a time with `relay_claim`, delivers it, and reports with `relay_ack` or `relay_retry`.

Only `relay_claim` looks at the mode, and no endpoint knows who holds a lease: `relay_ack` and
`relay_retry` act on the delivery of any reference, whatever its state.

Main definitions:

* `RelayEndpoints.relayClaim`, `relayAck`, `relayRetry` — the endpoints;
* `RelayEndpoints.Service`, `RelayEndpoints.step` — the service with its workers;
* `RelayEndpoints.Unforged` — a step acknowledges only what was delivered;
* `RelayEndpoints.RelayOk` — the requests that are in order.

Main results:

* `RelayEndpoints.unforged_iff` — **a step forges no delivery exactly if its request is in order**.
-/

import FaultWitness.ClaimBatches

set_option autoImplicit false

namespace RelayEndpoints

open Traces Leases Runs
open PostgresBuffer
open DrainWorkers (Label Sys Drain Worker Export ExportOutcome moved_of_step)

/-! ### The endpoints -/

/-- The variable `LANGSMITH_EXPORT_MODE`. -/
inductive ExportMode
  | direct
  | operatorRelay
deriving DecidableEq

/-- The sinks that the workers drain. -/
def automaticSinks : ExportMode → List DeliverySink
  | .direct => DeliverySink.all
  | .operatorRelay => [.otlp, .archive]

/-- What an endpoint answers. -/
inductive Response
  | document (trace : SanitizedTrace)
  | noContent
  /-- Status 409. -/
  | conflict
  /-- Status 422. -/
  | unprocessable
  | raised (err : BufferError)
deriving DecidableEq

variable (cfg : Config) (mode : ExportMode)

/-- The lease of a trace that is handed to the relay. -/
def relaySeconds : ℤ := 120

def relayClaim (m : Moment) (t : Tables) : Option (Response × Tables) :=
  if DeliverySink.langsmith ∈ automaticSinks mode then some (.conflict, t)
  else
    match claim cfg m t .langsmith 1 relaySeconds with
    | none => none
    | some (.error err, t') => some (.raised err, t')
    | some (.ok [], t') => some (.noContent, t')
    | some (.ok (d :: _), t') => some (.document d.trace, t')

/-- The answer after a call that returns nothing. -/
def respond : Except BufferError Unit × Tables → Response × Tables
  | (.error err, t) => (.raised err, t)
  | (.ok (), t) => (.noContent, t)

def relayAck (m : Moment) (t : Tables) (traceRef : String) : Response × Tables :=
  if ¬ IsHex 24 traceRef then (.unprocessable, t)
  else respond (acknowledge m t traceRef .langsmith)

def relayRetry (m : Moment) (t : Tables) (traceRef : String) : Response × Tables :=
  if ¬ IsHex 24 traceRef then (.unprocessable, t)
  else respond (retry m t traceRef .langsmith "operator_relay_failure")

/-! ### The service -/

/-- The workers over the buffer, and the references that `relay_claim` has handed out, each with the
deadline of its lease. -/
structure Service where
  sys : Sys Tables
  relayed : List (String × ℤ) := []

/-- What happens to the service: a step of the drain loop, of the endpoint `drain` or of `ingest`, or
a request to the relay. -/
inductive Request
  | work (l : Label)
  | relayClaim (m : Moment)
  | relayAck (m : Moment) (traceRef : String)
  | relayRetry (m : Moment) (traceRef : String)

/-- The request is one to the relay. -/
def Request.relays : Request → Bool
  | .work _ => false
  | _ => true

/-- The calls of `drain_once` in the service take the default limit and the automatic sinks. -/
def calledByService : Label → Bool
  | .start _ limit sinks => limit = 10 && sinks.isNone
  | _ => true

def step (s : Service) : Request → Option Service
  | .work l =>
    if calledByService l then
      (DrainWorkers.step (DrainWorkers.postgres cfg) (some (automaticSinks mode)) s.sys l).map
        fun sys => { s with sys }
    else none
  | .relayClaim m =>
    if m.now ≤ s.sys.clock then
      match relayClaim cfg mode m s.sys.store with
      | none => none
      | some (.document trace, t) =>
        some ⟨{ s.sys with store := t },
          (trace.traceRef, m.now + seconds relaySeconds) :: s.relayed⟩
      | some (_, t) => some { s with sys := { s.sys with store := t } }
    else none
  | .relayAck m traceRef =>
    some { s with sys := { s.sys with store := (relayAck m s.sys.store traceRef).2 } }
  | .relayRetry m traceRef =>
    some { s with sys := { s.sys with store := (relayRetry m s.sys.store traceRef).2 } }

/-! ### Forged deliveries -/

/-- The delivery of the trace to LangSmith is acknowledged. -/
def IsAcked (t : Tables) (ref : String) : Prop :=
  ∃ r, t.row (ref, .langsmith) = some r ∧ r.state = .acked

/-- The trace has been exported, or the relay was handed it under the lease that now runs. -/
def Justified (s : Service) (ref : String) : ExportMode → Prop
  | .direct => ∃ trace : SanitizedTrace, trace.traceRef = ref ∧
      (⟨.langsmith, trace, .returned⟩ : Export) ∈ s.sys.exports
  | .operatorRelay => ∃ deadline, (ref, deadline) ∈ s.relayed ∧
      statusOf s.sys.store (ref, .langsmith) = .leased deadline ∧ s.sys.clock ≤ deadline

/-- The step acknowledges only what was delivered, and in direct mode a request to the relay changes
no delivery. -/
structure Unforged (s s' : Service) (r : Request) : Prop where
  acked : ∀ ref, ¬ IsAcked s.sys.store ref → IsAcked s'.sys.store ref → Justified s ref mode
  untouched : mode = .direct → r.relays = true → ∀ key, s'.sys.store.row key = s.sys.store.row key

/-- The request is in order.  In direct mode the relay may report only on deliveries that do not
exist or on which the statement has no effect; in the other mode it may acknowledge a delivery whose
lease still runs and whose payload can be opened. -/
def RelayOk (s : Service) : Request → Prop
  | .relayAck m ref => IsHex 24 ref → ∀ r, s.sys.store.row (ref, .langsmith) = some r →
      match mode with
      | .direct => r.acknowledged m.now = r
      | .operatorRelay => r.state = .acked ∨ Opens cfg s.sys.store ref ∧
          ∃ deadline, r.status = .leased deadline ∧ s.sys.clock ≤ deadline
  | .relayRetry _ ref => mode = .direct → IsHex 24 ref →
      ∀ r, s.sys.store.row (ref, .langsmith) = some r →
        r.state = .acked ∨ 2147483647 ≤ r.attemptCount
  | _ => True

/-! ### What the workers write -/

variable {cfg mode} {s s' : Service} {t t' : Tables} {automatic : Option (List DeliverySink)}
  {sys sys' : Sys Tables} {l : Label}

/-- The tables after a worker's step. -/
inductive Wrote (sys : Sys Tables) : Tables → Prop
  | nothing : Wrote sys sys.store
  | took (m : Moment) (trace : SanitizedTrace) (row : PayloadRow) (t' : Tables)
      (hnone : sys.store.payloads.lookup trace.traceRef = none)
      (hpayloads : t'.payloads = sys.store.payloads.insert trace.traceRef row)
      (hrow : ∀ key, t'.row key = if key.1 = trace.traceRef then
        some { state := .pending, nextAttemptAt := m.now, createdAt := m.now }
        else sys.store.row key) : Wrote sys t'
  | leased (w : ℕ) (m : Moment) (drain : Drain) (sink : DeliverySink) (sinks : List DeliverySink)
      (t' : Tables) (hw : sys.workers w = .running drain) (hsinks : drain.sinks = sink :: sinks)
      (hup : Updated sys.store t' (m.chosen.map fun ref => (ref, sink))
        (·.lease (m.now + seconds DrainWorkers.leaseSeconds))) : Wrote sys t'
  | acknowledged (w : ℕ) (m : Moment) (drain : Drain) (d : Delivery) (ds : List Delivery)
      (t' : Tables) (hw : sys.workers w = .running drain) (hds : drain.deliveries = d :: ds)
      (hout : drain.outcome = some .returned)
      (hup : Updated sys.store t' [d.key] (·.acknowledged m.now)) : Wrote sys t'
  | gaveBack (w : ℕ) (m : Moment) (drain : Drain) (d : Delivery) (ds : List Delivery)
      (code : String) (t' : Tables) (hw : sys.workers w = .running drain)
      (hds : drain.deliveries = d :: ds)
      (hup : Updated sys.store t' [d.key] (·.retried m.now code)) : Wrote sys t'

/-- **What a worker's step writes.** -/
theorem wrote_of_step (hsound : Sound sys.store) (hlinked : Linked sys.store)
    (hs : DrainWorkers.step (DrainWorkers.postgres cfg) automatic sys l = some sys') :
    Wrote sys sys'.store := by
  cases moved_of_step hs with
  | waited => exact .nothing
  | ingested m trace b hcall =>
    simp only [DrainWorkers.postgres] at hcall
    rcases enqueue_cases cfg m sys.store trace with ⟨ht, -⟩ | ⟨hnone, -, ⟨row, hp⟩, hrow⟩
    · rw [hcall] at ht
      subst ht
      exact .nothing
    · rw [hcall] at hp hrow
      exact .took m trace row b hnone hp hrow
  | refused m trace r b hcall hne =>
    simp only [DrainWorkers.postgres] at hcall
    rcases enqueue_cases cfg m sys.store trace with ⟨ht, -⟩ | ⟨-, hok, -⟩
    · rw [hcall] at ht
      subst ht
      exact .nothing
    · rw [hcall] at hok
      exact absurd hok hne
  | started => exact .nothing
  | claimFailed w m d sink sinks err b hw hsinks hnone hnow hcall =>
    rcases claim_cases hsound hcall with ⟨-, rfl⟩ | ⟨-, hup, -⟩
    · exact .nothing
    · exact .leased w m d sink sinks b hw hsinks hup
  | claimed w m d sink sinks ds b hw hsinks hnone hnow hcall =>
    rcases claim_cases hsound hcall with ⟨-, rfl⟩ | ⟨-, hup, -⟩
    · exact .nothing
    · exact .leased w m d sink sinks b hw hsinks hup
  | exported => exact .nothing
  | settleFailed w m drain d ds outcome err b hw hds hout hcall =>
    obtain rfl := (DrainWorkers.lawful_postgres cfg).settle_error ⟨hsound, hlinked⟩ hcall
    exact .nothing
  | acknowledged w m drain d ds b hw hds hout hcall =>
    simp only [DrainWorkers.postgres] at hcall
    rcases acknowledge_cases m sys.store d.trace.traceRef d.sink with
      ⟨-, heq⟩ | ⟨r, t', hr, heq, hup⟩
    · cases hcall.symm.trans heq
    · cases hcall.symm.trans heq
      exact .acknowledged w m drain d ds b hw hds hout hup
  | gaveBack w m drain d ds outcome code b hw hds hout hcode hcall =>
    simp only [DrainWorkers.postgres] at hcall
    rcases retry_cases m sys.store d.trace.traceRef d.sink code hsound with
      ⟨-, heq⟩ | ⟨-, -, heq⟩ | ⟨_, -, -, heq⟩ | ⟨-, r, -, -, ⟨-, heq⟩ | ⟨-, t', heq, hup⟩⟩
    · cases hcall.symm.trans heq
    · cases hcall.symm.trans heq
      exact .nothing
    · cases hcall.symm.trans heq
    · cases hcall.symm.trans heq
    · cases hcall.symm.trans heq
      exact .gaveBack w m drain d ds code b hw hds hup
  | finished => exact .nothing
  | stopped => exact .nothing

variable {f : DeliveryRow → DeliveryRow} {ref : String} {keys : List Key}

theorem not_acked_of_updated (hup : Updated t t' keys f) (hf : ∀ r, (f r).state ≠ .acked)
    (h : IsAcked t' ref) : IsAcked t ref := by
  obtain ⟨r, hr, hacked⟩ := h
  rw [hup.row] at hr
  split at hr
  · obtain ⟨r₀, -, rfl⟩ := Option.map_eq_some_iff.1 hr
    exact absurd hacked (hf r₀)
  · exact ⟨r, hr, hacked⟩

theorem acked_of_updated {key : Key} {now : ℤ} (hup : Updated t t' [key] (·.acknowledged now))
    (hnot : ¬ IsAcked t ref) (h : IsAcked t' ref) : key = (ref, .langsmith) := by
  obtain ⟨r, hr, hacked⟩ := h
  rw [hup.row] at hr
  split at hr
  · rename_i hmem
    exact (List.mem_singleton.1 hmem).symm
  · exact absurd ⟨r, hr, hacked⟩ hnot

/-- A worker acknowledges a delivery to LangSmith only when it settles it after an export. -/
theorem Wrote.acked (h : Wrote sys t') (hnot : ¬ IsAcked sys.store ref) (hacked : IsAcked t' ref) :
    ∃ w drain d ds, sys.workers w = .running drain ∧
      drain.deliveries = d :: ds ∧ drain.outcome = some .returned ∧ d.key = (ref, .langsmith) := by
  cases h with
  | nothing => exact absurd hacked hnot
  | took m trace row t' hnone hpayloads hrow =>
    obtain ⟨r, hr, hstate⟩ := hacked
    rw [hrow] at hr
    split at hr
    · cases hr
      cases hstate
    · exact absurd ⟨r, hr, hstate⟩ hnot
  | leased w m drain sink sinks t' hw hsinks hup =>
    exact absurd (not_acked_of_updated hup (fun r => by simp [DeliveryRow.lease]) hacked) hnot
  | acknowledged w m drain d ds t' hw hds hout hup =>
    exact ⟨w, drain, d, ds, hw, hds, hout, acked_of_updated hup hnot hacked⟩
  | gaveBack w m drain d ds code t' hw hds hup =>
    exact absurd (not_acked_of_updated hup (fun r => by simp [DeliveryRow.retried]) hacked) hnot

/-- No payload is taken away or replaced. -/
def KeepsPayloads (t t' : Tables) : Prop :=
  ∀ ref row, t.payloads.lookup ref = some row → t'.payloads.lookup ref = some row

theorem KeepsPayloads.opens (h : KeepsPayloads t t') (hopens : Opens cfg t ref) :
    Opens cfg t' ref := by
  obtain ⟨row, trace, hrow, hopen⟩ := hopens
  exact ⟨row, trace, h ref row hrow, hopen⟩

theorem KeepsPayloads.opens_of_row (h : KeepsPayloads t t') (hlinked : Linked t) {key : Key}
    {r : DeliveryRow} (hr : t.row key = some r) (hopens : Opens cfg t' key.1) :
    Opens cfg t key.1 := by
  obtain ⟨row, hrow⟩ := Option.ne_none_iff_exists'.1 (hlinked key r hr)
  obtain ⟨row', trace, hrow', hopen⟩ := hopens
  rw [h _ row hrow] at hrow'
  cases hrow'
  exact ⟨row, trace, hrow, hopen⟩

theorem keepsPayloads_of_updated (hup : Updated t t' keys f) : KeepsPayloads t t' := by
  intro ref row hrow
  rw [hup.payloads, hrow]

theorem Wrote.keepsPayloads (h : Wrote sys t') : KeepsPayloads sys.store t' := by
  cases h with
  | nothing => exact fun ref row hrow => hrow
  | took m trace row t' hnone hpayloads hrow =>
    intro ref row' hrow'
    have hne : ref ≠ trace.traceRef := by
      rintro rfl
      rw [hnone] at hrow'
      cases hrow'
    rw [hpayloads, AList.lookup_insert_ne hne, hrow']
  | leased w m drain sink sinks t' hw hsinks hup => exact keepsPayloads_of_updated hup
  | acknowledged w m drain d ds t' hw hds hout hup => exact keepsPayloads_of_updated hup
  | gaveBack w m drain d ds code t' hw hds hup => exact keepsPayloads_of_updated hup

/-- Workers that leave LangSmith out lease nothing for it. -/
theorem Wrote.leases (h : Wrote sys t') (hothers : ∀ w drain, sys.workers w = .running drain →
      DeliverySink.langsmith ∉ drain.sinks ∧ ∀ d ∈ drain.deliveries, d.sink ≠ .langsmith)
    {deadline : ℤ} (hleased : statusOf t' (ref, .langsmith) = .leased deadline) :
    statusOf sys.store (ref, .langsmith) = .leased deadline := by
  have hsettled : ∀ {w drain d ds f}, sys.workers w = .running drain →
      drain.deliveries = d :: ds → Updated sys.store t' [d.key] f →
        statusOf sys.store (ref, .langsmith) = .leased deadline := by
    intro w drain d ds f hw hds hup
    have hne : d.sink ≠ .langsmith := (hothers w drain hw).2 d (hds ▸ List.mem_cons_self)
    have hother : ((ref, .langsmith) : Key) ∉ [d.key] := fun hmem =>
      hne (congrArg Prod.snd (List.mem_singleton.1 hmem)).symm
    rw [← hup.statusOf_of_not_mem hother]
    exact hleased
  cases h with
  | nothing => exact hleased
  | took m trace row t' hnone hpayloads hrow =>
    rw [statusOf, hrow] at hleased
    split at hleased
    · rename_i r hr
      split at hr
      · cases hr
        cases hleased
      · rw [statusOf, hr]
        exact hleased
    · cases hleased
  | leased w m drain sink sinks t' hw hsinks hup =>
    have hother : ((ref, .langsmith) : Key) ∉ m.chosen.map fun ref => (ref, sink) := by
      intro hmem
      obtain ⟨ref', -, heq⟩ := List.mem_map.1 hmem
      have hsink : sink = .langsmith := congrArg Prod.snd heq
      exact (hothers w drain hw).1 (hsinks ▸ hsink ▸ List.mem_cons_self)
    rw [← hup.statusOf_of_not_mem hother]
    exact hleased
  | acknowledged w m drain d ds t' hw hds hout hup => exact hsettled hw hds hup
  | gaveBack w m drain d ds code t' hw hds hup => exact hsettled hw hds hup

/-! ### The invariant -/

/-- The exports of a drain under way are recorded, and in the mode of the relay it leaves LangSmith
out. -/
structure DrainOk (mode : ExportMode) (exports : List Export) (d : Drain) : Prop where
  exported : ∀ x xs outcome, d.deliveries = x :: xs → d.outcome = some outcome →
    (⟨x.sink, x.trace, outcome⟩ : Export) ∈ exports
  others : mode = .operatorRelay →
    DeliverySink.langsmith ∉ d.sinks ∧ ∀ x ∈ d.deliveries, x.sink ≠ .langsmith

structure Inv (cfg : Config) (mode : ExportMode) (s : Service) : Prop where
  sound : Sound s.sys.store
  linked : Linked s.sys.store
  drains : ∀ w drain, s.sys.workers w = .running drain → DrainOk mode s.sys.exports drain
  opens : ∀ x ∈ s.relayed, Opens cfg s.sys.store x.1
  leases : mode = .operatorRelay → ∀ ref deadline,
    statusOf s.sys.store (ref, .langsmith) = .leased deadline → Opens cfg s.sys.store ref →
      (ref, deadline) ∈ s.relayed

theorem drains_setWorker {exports exports' : List Export}
    (h : ∀ w drain, sys.workers w = .running drain → DrainOk mode exports drain)
    (hsub : exports ⊆ exports') {w : ℕ} {worker : Worker}
    (hworker : ∀ drain, worker = .running drain → DrainOk mode exports' drain) (v : ℕ)
    (drain : Drain) (hv : (sys.setWorker w worker).workers v = .running drain) :
    DrainOk mode exports' drain := by
  by_cases hvw : v = w
  · subst hvw
    simp only [Sys.setWorker, Function.update_self] at hv
    exact hworker drain hv
  · simp only [Sys.setWorker, Function.update_of_ne hvw] at hv
    have hok := h v drain hv
    exact ⟨fun x xs outcome hds hout => hsub (hok.exported x xs outcome hds hout), hok.others⟩

/-- The drains after a worker's step of the service. -/
theorem drains_of_work (hsound : Sound sys.store) (hlinked : Linked sys.store)
    (hcalled : calledByService l = true)
    (h : ∀ w drain, sys.workers w = .running drain → DrainOk mode sys.exports drain)
    (hs : DrainWorkers.step (DrainWorkers.postgres cfg) (some (automaticSinks mode)) sys l =
      some sys') : ∀ w drain, sys'.workers w = .running drain → DrainOk mode sys'.exports drain := by
  have hself : sys.exports ⊆ sys.exports := List.Subset.refl _
  cases moved_of_step hs with
  | waited => exact h
  | ingested => exact h
  | refused => exact h
  | started w limit sinks hw =>
    refine drains_setWorker h hself fun drain hdrain => ?_
    cases hdrain
    refine ⟨fun x xs outcome hds => absurd hds (by simp), fun hmode => ⟨?_, by simp⟩⟩
    simp only [calledByService, Bool.and_eq_true, Option.isNone_iff_eq_none] at hcalled
    rw [hcalled.2, hmode]
    simp [DrainWorkers.drainSinks, automaticSinks]
  | claimFailed => exact drains_setWorker h hself fun drain hdrain => by cases hdrain
  | claimed w m d sink sinks ds b hw hsinks hnone hnow hcall =>
    refine drains_setWorker h hself fun drain hdrain => ?_
    cases hdrain
    refine ⟨fun x xs outcome _ hout => absurd hout (by simp), fun hmode => ?_⟩
    have hothers := ((h w d hw).others hmode).1
    rw [hsinks, List.mem_cons, not_or] at hothers
    refine ⟨hothers.2, fun x hx hsink => ?_⟩
    have hkey := (keys_of_claim hsound hlinked hcall).mem_iff.1 (List.mem_map_of_mem hx)
    obtain ⟨ref, -, heq⟩ := List.mem_map.1 hkey
    have hsame : sink = x.sink := congrArg Prod.snd heq
    exact hothers.1 (hsink.symm.trans hsame.symm)
  | exported w outcome drain d ds hw hds hnone =>
    refine drains_setWorker h (List.subset_cons_self _ _) fun drain' hdrain => ?_
    cases hdrain
    refine ⟨fun x xs o hx ho => ?_, (h w drain hw).others⟩
    simp only at hx ho
    rw [hds] at hx
    cases hx
    cases ho
    exact List.mem_cons_self
  | settleFailed => exact drains_setWorker h hself fun drain hdrain => by cases hdrain
  | acknowledged w m drain d ds b hw hds hout hcall =>
    refine drains_setWorker h hself fun drain' hdrain => ?_
    cases hdrain
    refine ⟨fun x xs outcome _ ho => absurd ho (by simp), fun hmode => ?_⟩
    have hothers := (h w drain hw).others hmode
    exact ⟨hothers.1, fun x hx => hothers.2 x (hds ▸ List.mem_cons_of_mem _ hx)⟩
  | gaveBack w m drain d ds outcome code b hw hds hout hcode hcall =>
    refine drains_setWorker h hself fun drain' hdrain => ?_
    cases hdrain
    refine ⟨fun x xs outcome _ ho => absurd ho (by simp), fun hmode => ?_⟩
    have hothers := (h w drain hw).others hmode
    exact ⟨hothers.1, fun x hx => hothers.2 x (hds ▸ List.mem_cons_of_mem _ hx)⟩
  | finished => exact drains_setWorker h hself fun drain hdrain => by cases hdrain
  | stopped => exact drains_setWorker h hself fun drain hdrain => by cases hdrain

theorem Inv.work (h : Inv cfg mode s) (hs : step cfg mode s (.work l) = some s') :
    Inv cfg mode s' := by
  simp only [step] at hs
  split at hs
  case isFalse => cases hs
  rename_i hcalled
  obtain ⟨sys, hsys, rfl⟩ := Option.map_eq_some_iff.1 hs
  have hwrote := wrote_of_step h.sound h.linked hsys
  have hinv := (DrainWorkers.step_table (DrainWorkers.lawful_postgres cfg) ⟨h.sound, h.linked⟩
    hsys).1
  refine ⟨hinv.1, hinv.2, drains_of_work h.sound h.linked hcalled h.drains hsys,
    fun x hx => hwrote.keepsPayloads.opens (h.opens x hx), fun hmode ref deadline hleased hopens => ?_⟩
  have hothers : ∀ w drain, s.sys.workers w = .running drain →
      DeliverySink.langsmith ∉ drain.sinks ∧ ∀ d ∈ drain.deliveries, d.sink ≠ .langsmith :=
    fun w drain hw => (h.drains w drain hw).others hmode
  have hbefore := hwrote.leases hothers hleased
  obtain ⟨r, hr⟩ : ∃ r, s.sys.store.row (ref, .langsmith) = some r := by
    cases hr : s.sys.store.row (ref, .langsmith) with
    | none => simp [statusOf, hr] at hbefore
    | some r => exact ⟨r, rfl⟩
  exact h.leases hmode ref deadline hbefore
    (hwrote.keepsPayloads.opens_of_row h.linked hr hopens)

variable {m : Moment}

theorem claim_one (hsound : Sound t) (hlinked : Linked t)
    {result : Except BufferError (List Delivery)}
    (h : claim cfg m t .langsmith 1 relaySeconds = some (result, t')) :
    (m.chosen = [] ∧ result = .ok []) ∨
      ∃ ref, m.chosen = [ref] ∧ ((¬ Opens cfg t ref ∧ ∃ err, result = .error err) ∨
        (Opens cfg t ref ∧ ∃ d, result = .ok [d] ∧ d.trace.traceRef = ref)) := by
  rcases claim_openAll hsound hlinked h with ⟨err, hlimit, -⟩ | ⟨-, hselects, hres⟩
  · rw [limitError_eq_none.2 (by decide)] at hlimit
    cases hlimit
  have hlength : m.chosen.length ≤ 1 := by
    have := hselects.2.2.1
    simp only [Int.toNat_one] at this
    omega
  have hone : m.chosen = [] ∨ ∃ ref, m.chosen = [ref] := by
    cases hchosen : m.chosen with
    | nil => exact Or.inl rfl
    | cons ref refs =>
      rw [hchosen, List.length_cons] at hlength
      have hrefs : refs = [] := List.length_eq_zero_iff.1 (by omega)
      exact Or.inr ⟨ref, by rw [hrefs]⟩
  rcases hone with hnil | ⟨ref, hone⟩
  · left
    rw [hnil] at hres
    rcases hres with ⟨⟨ref, href, -⟩, -⟩ | ⟨-, ds, rfl, hperm⟩
    · cases href
    · have hds : ds = [] := by simpa using hperm.length_eq
      exact ⟨hnil, by rw [hds]⟩
  · refine Or.inr ⟨ref, hone, ?_⟩
    rw [hone] at hres
    rcases hres with ⟨⟨bad, hbad, hnot⟩, cause, rfl⟩ | ⟨hall, ds, rfl, hperm⟩
    · rw [List.mem_singleton] at hbad
      subst hbad
      exact Or.inl ⟨hnot, _, rfl⟩
    · have hkeys : ds.map Delivery.key = [(ref, .langsmith)] := List.perm_singleton.1 hperm
      obtain ⟨d, rfl, hkey⟩ := List.map_eq_singleton_iff.1 hkeys
      exact Or.inr ⟨hall ref List.mem_cons_self, d, rfl, congrArg Prod.fst hkey⟩

theorem Inv.updated (h : Inv cfg mode s) (hup : Updated s.sys.store t' keys f)
    {relayed : List (String × ℤ)} (hsub : s.relayed ⊆ relayed)
    (hopens : ∀ x ∈ relayed, Opens cfg s.sys.store x.1)
    (hleases : ∀ ref r deadline, (ref, .langsmith) ∈ keys →
      s.sys.store.row (ref, .langsmith) = some r → (f r).status = .leased deadline →
        Opens cfg s.sys.store ref → (ref, deadline) ∈ relayed) :
    Inv cfg mode ⟨{ s.sys with store := t' }, relayed⟩ := by
  have hkeeps := keepsPayloads_of_updated hup
  refine ⟨hup.sound h.sound, hup.linked h.linked, h.drains,
    fun x hx => hkeeps.opens (hopens x hx), fun hmode ref deadline hleased hopen => ?_⟩
  simp only at hleased hopen
  by_cases hmem : ((ref, .langsmith) : Key) ∈ keys
  · cases hr : s.sys.store.row (ref, .langsmith) with
    | none => simp [statusOf, hup.row, hmem, hr] at hleased
    | some r =>
      rw [hup.statusOf_of_mem hmem hr] at hleased
      exact hleases ref r deadline hmem hr hleased (hkeeps.opens_of_row h.linked hr hopen)
  · rw [hup.statusOf_of_not_mem hmem] at hleased
    cases hr : s.sys.store.row (ref, .langsmith) with
    | none => simp [statusOf, hr] at hleased
    | some r =>
      exact hsub (h.leases hmode ref deadline hleased (hkeeps.opens_of_row h.linked hr hopen))

theorem relayAck_cases (m : Moment) (t : Tables) (ref : String) :
    (relayAck m t ref).2 = t ∧ (IsHex 24 ref → t.row (ref, .langsmith) = none) ∨
      IsHex 24 ref ∧ (∃ r, t.row (ref, .langsmith) = some r) ∧
        Updated t (relayAck m t ref).2 [(ref, .langsmith)] (·.acknowledged m.now) := by
  unfold relayAck
  split
  · rename_i hhex
    exact Or.inl ⟨rfl, fun h => absurd h hhex⟩
  · rename_i hhex
    rcases acknowledge_cases m t ref .langsmith with ⟨hnone, heq⟩ | ⟨r, t', hr, heq, hup⟩
    · rw [heq]
      exact Or.inl ⟨rfl, fun _ => hnone⟩
    · rw [heq]
      exact Or.inr ⟨not_not.1 hhex, ⟨r, hr⟩, hup⟩

theorem relayRetry_cases (hsound : Sound t) (m : Moment) (ref : String) :
    (relayRetry m t ref).2 = t ∧ (IsHex 24 ref → ∀ r, t.row (ref, .langsmith) = some r →
        r.state = .acked ∨ 2147483647 ≤ r.attemptCount) ∨
      IsHex 24 ref ∧ (∃ r, t.row (ref, .langsmith) = some r ∧ r.state ≠ .acked ∧
          r.attemptCount < 2147483647) ∧
        Updated t (relayRetry m t ref).2 [(ref, .langsmith)]
          (·.retried m.now "operator_relay_failure") := by
  unfold relayRetry
  split
  · rename_i hhex
    exact Or.inl ⟨rfl, fun h => absurd h hhex⟩
  rename_i hhex
  rcases retry_cases m t ref .langsmith "operator_relay_failure" hsound with
    ⟨hbad, -⟩ | ⟨-, hnone, heq⟩ | ⟨r, hr, hmax, heq⟩ | ⟨-, r, hr, hlt, hres⟩
  · exact absurd (by decide) hbad
  · rw [heq, respond]
    refine Or.inl ⟨rfl, fun _ r hr => ?_⟩
    rw [hnone] at hr
    cases hr
  · rw [heq, respond]
    refine Or.inl ⟨rfl, fun _ r' hr' => ?_⟩
    rw [hr] at hr'
    cases hr'
    exact Or.inr hmax
  · rcases hres with ⟨hacked, heq⟩ | ⟨hnot, t', heq, hup⟩
    · rw [heq, respond]
      refine Or.inl ⟨rfl, fun _ r' hr' => ?_⟩
      rw [hr] at hr'
      cases hr'
      exact Or.inl hacked
    · rw [heq, respond]
      exact Or.inr ⟨not_not.1 hhex, ⟨r, hr, hnot, hlt⟩, hup⟩

/-- What `relay_claim` has done. -/
inductive Relayed (cfg : Config) (mode : ExportMode) (s : Service) (m : Moment) : Service → Prop
  | refused (hmode : mode = .direct) : Relayed cfg mode s m s
  | claimed (hmode : mode = .operatorRelay) (t' : Tables) (relayed : List (String × ℤ))
      (hup : Updated s.sys.store t' (m.chosen.map fun ref => (ref, .langsmith))
        (·.lease (m.now + seconds relaySeconds)))
      (hsub : s.relayed ⊆ relayed)
      (hopens : ∀ x ∈ relayed, x ∈ s.relayed ∨ Opens cfg s.sys.store x.1)
      (hleases : ∀ ref ∈ m.chosen, Opens cfg s.sys.store ref →
        (ref, m.now + seconds relaySeconds) ∈ relayed) :
      Relayed cfg mode s m ⟨{ s.sys with store := t' }, relayed⟩

theorem relayed_of_step (h : Inv cfg mode s) (hs : step cfg mode s (.relayClaim m) = some s') :
    Relayed cfg mode s m s' := by
  simp only [step] at hs
  split at hs
  case isFalse => cases hs
  cases mode with
  | direct =>
    have hmem : DeliverySink.langsmith ∈ automaticSinks .direct := by decide
    simp only [relayClaim, if_pos hmem] at hs
    cases hs
    exact .refused rfl
  | operatorRelay =>
    have hmem : DeliverySink.langsmith ∉ automaticSinks .operatorRelay := by decide
    simp only [relayClaim, if_neg hmem] at hs
    cases hcall : claim cfg m s.sys.store .langsmith 1 relaySeconds with
    | none => simp [hcall] at hs
    | some r =>
      obtain ⟨result, t'⟩ := r
      have hup := (claim_selects h.sound (by decide) hcall).2.1
      rcases claim_one h.sound h.linked hcall with ⟨hchosen, rfl⟩ | ⟨ref, hchosen, hres⟩
      · simp only [hcall, Option.some.injEq] at hs
        subst hs
        refine .claimed rfl t' s.relayed hup (List.Subset.refl _) (fun x hx => Or.inl hx) ?_
        rw [hchosen]
        exact fun ref href => absurd href List.not_mem_nil
      · rcases hres with ⟨hnot, err, rfl⟩ | ⟨hopen, d, rfl, href⟩
        · simp only [hcall, Option.some.injEq] at hs
          subst hs
          refine .claimed rfl t' s.relayed hup (List.Subset.refl _) (fun x hx => Or.inl hx) ?_
          rw [hchosen]
          intro ref' href' hopen
          rw [List.mem_singleton.1 href'] at hopen
          exact absurd hopen hnot
        · simp only [hcall, Option.some.injEq] at hs
          subst hs
          refine .claimed rfl t' _ hup (List.subset_cons_self _ _) (fun x hx => ?_) ?_
          · rcases List.mem_cons.1 hx with rfl | hx
            · exact Or.inr (href ▸ hopen)
            · exact Or.inl hx
          · rw [hchosen]
            intro ref' href' _
            rw [List.mem_singleton.1 href', href]
            exact List.mem_cons_self

/-- **Every step keeps the invariant**, whether its request is in order or not. -/
theorem Inv.preserved (h : Inv cfg mode s) {r : Request} (hs : step cfg mode s r = some s') :
    Inv cfg mode s' := by
  cases r with
  | work l => exact h.work hs
  | relayClaim m =>
    cases relayed_of_step h hs with
    | refused hmode => exact h
    | claimed hmode t' relayed hup hsub hopens hleases =>
      refine h.updated hup hsub (fun x hx => ?_) fun ref r deadline hmem hr hstatus hopen => ?_
      · rcases hopens x hx with hx | hopen
        · exact h.opens x hx
        · exact hopen
      · obtain ⟨ref', href', heq⟩ := List.mem_map.1 hmem
        cases heq
        cases hstatus
        exact hleases ref href' hopen
  | relayAck m ref =>
    cases hs
    rcases relayAck_cases m s.sys.store ref with ⟨heq, -⟩ | ⟨-, -, hup⟩
    · rw [heq]
      exact h
    · exact h.updated hup (List.Subset.refl _) h.opens
        fun ref r deadline _ _ hstatus => by cases hstatus
  | relayRetry m ref =>
    cases hs
    rcases relayRetry_cases h.sound m ref with ⟨heq, -⟩ | ⟨-, -, hup⟩
    · rw [heq]
      exact h
    · exact h.updated hup (List.Subset.refl _) h.opens
        fun ref r deadline _ _ hstatus => by cases hstatus

theorem inv_init (cfg : Config) (mode : ExportMode) : Inv cfg mode { sys := { store := {} } } := by
  refine ⟨sound_empty, linked_empty, fun w drain hw => ?_, by simp, fun _ ref deadline hleased => ?_⟩
  · cases hw
  · cases hleased

/-! ### Which requests forge a delivery -/

theorem unforged_of_same {r : Request} (h : s'.sys.store = s.sys.store) : Unforged mode s s' r := by
  refine ⟨fun ref hnot hacked => ?_, fun _ _ key => by rw [h]⟩
  rw [h] at hacked
  exact absurd hacked hnot

theorem row_of_updated {key : Key} (hup : Updated t t' [key] f) {r : DeliveryRow}
    (hr : t.row key = some r) : t'.row key = some (f r) := by
  rw [hup.row, if_pos List.mem_cons_self, hr]
  rfl

theorem Inv.unforged_work (h : Inv cfg mode s) (hs : step cfg mode s (.work l) = some s') :
    Unforged mode s s' (.work l) := by
  simp only [step] at hs
  split at hs
  case isFalse => cases hs
  obtain ⟨sys, hsys, rfl⟩ := Option.map_eq_some_iff.1 hs
  refine ⟨fun ref hnot hacked => ?_, fun _ hrelays => by cases hrelays⟩
  obtain ⟨w, drain, d, ds, hw, hds, hout, hkey⟩ :=
    (wrote_of_step h.sound h.linked hsys).acked hnot hacked
  have hok := h.drains w drain hw
  have hsink : d.sink = .langsmith := congrArg Prod.snd hkey
  cases mode with
  | direct =>
    have hexport := hok.exported d ds .returned hds hout
    rw [hsink] at hexport
    exact ⟨d.trace, congrArg Prod.fst hkey, hexport⟩
  | operatorRelay => exact absurd hsink ((hok.others rfl).2 d (hds ▸ List.mem_cons_self))

theorem Inv.unforged_relayAck (h : Inv cfg mode s)
    (hs : step cfg mode s (.relayAck m ref) = some s') :
    Unforged mode s s' (.relayAck m ref) ↔ RelayOk cfg mode s (.relayAck m ref) := by
  cases hs
  rcases relayAck_cases m s.sys.store ref with ⟨heq, hnone⟩ | ⟨hhex, ⟨r, hr⟩, hup⟩
  · refine ⟨fun _ hhex r hr => ?_, fun _ => unforged_of_same heq⟩
    rw [hnone hhex] at hr
    cases hr
  have hrow := row_of_updated hup hr
  constructor
  · intro hforged _ r' hr'
    rw [hr] at hr'
    cases hr'
    cases mode with
    | direct =>
      have hsame := hforged.untouched rfl rfl (ref, .langsmith)
      rw [hr] at hsame
      exact Option.some.inj (hrow.symm.trans hsame)
    | operatorRelay =>
      by_cases hacked : r.state = .acked
      · exact Or.inl hacked
      have hnot : ¬ IsAcked s.sys.store ref := by
        rintro ⟨r', hr', hstate⟩
        rw [hr] at hr'
        cases hr'
        exact hacked hstate
      obtain ⟨deadline, hmem, hstatus, hclock⟩ := hforged.acked ref hnot ⟨_, hrow, rfl⟩
      rw [statusOf, hr] at hstatus
      exact Or.inr ⟨h.opens _ hmem, deadline, hstatus, hclock⟩
  · intro hok
    have hcond := hok hhex r hr
    refine ⟨fun ref' hnot hacked => ?_, fun hmode _ key => ?_⟩
    · -- the delivery acknowledged is the one reported on
      have href : ref = ref' := congrArg Prod.fst (acked_of_updated hup hnot hacked)
      subst href
      cases mode with
      | direct =>
        have hstate : (r.acknowledged m.now).state = .acked := rfl
        rw [hcond] at hstate
        exact absurd ⟨r, hr, hstate⟩ hnot
      | operatorRelay =>
        rcases hcond with hstate | ⟨hopens, deadline, hstatus, hclock⟩
        · exact absurd ⟨r, hr, hstate⟩ hnot
        · have hleased : statusOf s.sys.store (ref, .langsmith) = .leased deadline := by
            rw [statusOf, hr]
            exact hstatus
          exact ⟨deadline, h.leases rfl ref deadline hleased hopens, hleased, hclock⟩
    · subst hmode
      by_cases hkey : key = (ref, .langsmith)
      · subst hkey
        rw [hr, ← hcond]
        exact hrow
      · rw [hup.row, if_neg (by simpa using hkey)]

theorem Inv.unforged_relayRetry (h : Inv cfg mode s)
    (hs : step cfg mode s (.relayRetry m ref) = some s') :
    Unforged mode s s' (.relayRetry m ref) ↔ RelayOk cfg mode s (.relayRetry m ref) := by
  cases hs
  rcases relayRetry_cases h.sound m ref with ⟨heq, hnone⟩ | ⟨hhex, ⟨r, hr, hacked, hlt⟩, hup⟩
  · exact ⟨fun _ _ hhex r hr => hnone hhex r hr, fun _ => unforged_of_same heq⟩
  have hrow := row_of_updated hup hr
  constructor
  · intro hforged hmode _ r' hr'
    rw [hr] at hr'
    cases hr'
    have hsame := hforged.untouched hmode rfl (ref, .langsmith)
    rw [hr] at hsame
    have hcount := congrArg DeliveryRow.attemptCount (Option.some.inj (hrow.symm.trans hsame))
    exact absurd hcount (Nat.succ_ne_self _)
  · intro hok
    refine ⟨fun ref' hnot hacked' => ?_, fun hmode _ => ?_⟩
    · exact absurd (not_acked_of_updated hup (fun r => by simp [DeliveryRow.retried]) hacked') hnot
    · rcases hok hmode hhex r hr with hstate | hmax
      · exact absurd hstate hacked
      · omega

/-- **In every run, a step forges no delivery exactly if its request is in order.** -/
theorem unforged_iff (cfg : Config) (mode : ExportMode) {s s' : Service} {r : Request}
    (h : Reachable (step cfg mode) { sys := { store := {} } } s)
    (hs : step cfg mode s r = some s') : Unforged mode s s' r ↔ RelayOk cfg mode s r := by
  have hinv : Inv cfg mode s :=
    h.invariant (inv_init cfg mode) fun s l s' hi _ hstep => hi.preserved hstep
  cases r with
  | work l => exact ⟨fun _ => trivial, fun _ => hinv.unforged_work hs⟩
  | relayClaim m =>
    refine ⟨fun _ => trivial, fun _ => ?_⟩
    cases relayed_of_step hinv hs with
    | refused hmode => exact unforged_of_same rfl
    | claimed hmode t' relayed hup hsub hopens hleases =>
      refine ⟨fun ref hnot hacked => ?_, fun hdirect => ?_⟩
      · exact absurd (not_acked_of_updated hup (fun r => by simp [DeliveryRow.lease]) hacked)
          hnot
      · rw [hmode] at hdirect
        cases hdirect
  | relayAck m ref => exact hinv.unforged_relayAck hs
  | relayRetry m ref => exact hinv.unforged_relayRetry hs

/-! ### A report on what nobody was handed -/

/-- The service after it has taken in the sample trace. -/
def ingested : Service :=
  { sys := { store := sampleTables sampleRow, ingested := [sampleTrace sampleRef] } }

theorem step_ingested (mode : ExportMode) : step sampleConfig mode { sys := { store := {} } }
    (.work (.ingest { now := 0, nonce := sampleNonce } (sampleTrace sampleRef))) =
      some ingested := by
  have hcall : (DrainWorkers.postgres sampleConfig).enqueue { now := 0, nonce := sampleNonce } {}
      (sampleTrace sampleRef) = (.ok true, sampleTables sampleRow) := enqueue_sampleTables
  have hstep : DrainWorkers.step (DrainWorkers.postgres sampleConfig) (some (automaticSinks mode))
      { store := {} } (.ingest { now := 0, nonce := sampleNonce } (sampleTrace sampleRef)) =
        some ingested.sys := DrainWorkers.step_ingest hcall
  rw [step, if_pos (by rfl), hstep, Option.map_some]
  rfl

theorem row_ingested : (sampleTables sampleRow).row (sampleRef, .langsmith) = some sampleRow := rfl

/-- The relay can acknowledge a delivery that nobody was handed. -/
def Forges (mode : ExportMode) : Prop :=
  ∃ s', step sampleConfig mode ingested (.relayAck { now := 0 } sampleRef) = some s' ∧
    Reachable (step sampleConfig mode) { sys := { store := {} } } ingested ∧
    ¬ Unforged mode ingested s' (.relayAck { now := 0 } sampleRef)

theorem forges (mode : ExportMode) : Forges mode := by
  refine ⟨_, rfl, Reaches.single trivial (step_ingested mode), fun hforged => ?_⟩
  rcases relayAck_cases { now := 0 } (sampleTables sampleRow) sampleRef with
    ⟨-, hnone⟩ | ⟨-, -, hup⟩
  · have hhex : IsHex 24 sampleRef := by decide
    have := hnone hhex
    rw [row_ingested] at this
    cases this
  · have hnot : ¬ IsAcked (sampleTables sampleRow) sampleRef := by
      rintro ⟨r, hr, hstate⟩
      rw [row_ingested] at hr
      cases hr
      cases hstate
    have hjustified := hforged.acked sampleRef hnot ⟨_, row_of_updated hup row_ingested, rfl⟩
    cases mode with
    | direct =>
      obtain ⟨trace, -, hmem⟩ := hjustified
      cases hmem
    | operatorRelay =>
      obtain ⟨deadline, hmem, -⟩ := hjustified
      cases hmem

/-- **In either mode the relay can acknowledge a delivery that nobody was handed.** -/
theorem forged_relayAck : Forges .direct ∧ Forges .operatorRelay :=
  ⟨forges .direct, forges .operatorRelay⟩

theorem opens_ingested : Opens sampleConfig (sampleTables sampleRow) sampleRef := by
  have hcipher : sampleConfig.cipher = sampleCipher := rfl
  have hpayload : samplePayloadRow.payload = samplePayload sampleRef := rfl
  refine ⟨samplePayloadRow, sampleTrace sampleRef,
    AList.mem_lookup_iff.2 (List.mem_singleton.2 rfl), ?_⟩
  rw [hcipher, hpayload, open_sample]

/-- The moment of a claim that locks the sample row. -/
def fetching : Moment := { now := 0, chosen := [sampleRef] }

theorem exists_relayClaim {s : Service} (hnow : m.now ≤ s.sys.clock)
    (hselects : Selects m s.sys.store .langsmith (Int.toNat 1)) :
    ∃ s', step cfg .operatorRelay s (.relayClaim m) = some s' := by
  have hmem : DeliverySink.langsmith ∉ automaticSinks .operatorRelay := by decide
  have hlimit : limitError 1 = none := by decide
  simp only [step, if_pos hnow, relayClaim, if_neg hmem, claim, hlimit, if_pos hselects]
  cases update s.sys.store (m.chosen.map fun ref => (ref, DeliverySink.langsmith))
      (·.lease (m.now + seconds relaySeconds)) with
  | error err => exact ⟨_, rfl⟩
  | ok t' =>
    simp only
    cases openAll cfg t' .langsmith (m.chosen.insertionSort (· ≤ ·)) with
    | error err => exact ⟨_, rfl⟩
    | ok ds =>
      cases ds with
      | nil => exact ⟨_, rfl⟩
      | cons d ds => exact ⟨_, rfl⟩

theorem exists_fetched : ∃ s', step sampleConfig .operatorRelay ingested (.relayClaim fetching) =
    some s' := by
  have hselects : Selects fetching (sampleTables sampleRow) .langsmith (Int.toNat 1) := by
    decide +kernel
  exact exists_relayClaim le_rfl hselects

/-- A trace that the relay has fetched may be acknowledged. -/
theorem unforged_fetched : ∃ s s', Reachable (step sampleConfig .operatorRelay)
      { sys := { store := {} } } s ∧
    step sampleConfig .operatorRelay s (.relayAck { now := 0 } sampleRef) = some s' ∧
    ¬ IsAcked s.sys.store sampleRef ∧ IsAcked s'.sys.store sampleRef ∧
    Unforged .operatorRelay s s' (.relayAck { now := 0 } sampleRef) := by
  obtain ⟨s, hs⟩ := exists_fetched
  have hfirst := Reaches.single (C := fun _ _ => True) trivial (step_ingested .operatorRelay)
  have hinv : Inv sampleConfig .operatorRelay ingested :=
    (inv_init sampleConfig .operatorRelay).preserved (step_ingested .operatorRelay)
  have hreach := hfirst.tail trivial hs
  have hhex : IsHex 24 sampleRef := by decide
  cases relayed_of_step hinv hs with
  | refused hmode => cases hmode
  | claimed hmode t' relayed hup hsub hopens hleases =>
    have hrow : t'.row (sampleRef, .langsmith) =
        some (sampleRow.lease (0 + seconds relaySeconds)) := by
      have hrow := row_of_updated hup row_ingested
      exact hrow
    have hclock : ingested.sys.clock ≤ 0 + seconds relaySeconds := by decide
    have hok : RelayOk sampleConfig .operatorRelay
        ⟨{ ingested.sys with store := t' }, relayed⟩ (.relayAck { now := 0 } sampleRef) := by
      intro _ r hr
      rw [hrow] at hr
      cases hr
      exact Or.inr ⟨(keepsPayloads_of_updated hup).opens opens_ingested, _, rfl, hclock⟩
    refine ⟨_, _, hreach, rfl, ?_, ?_, (unforged_iff sampleConfig .operatorRelay hreach rfl).2 hok⟩
    · rintro ⟨r, hr, hstate⟩
      rw [hrow] at hr
      cases hr
      cases hstate
    · rcases relayAck_cases { now := 0 } t' sampleRef with ⟨-, hnone⟩ | ⟨-, -, hacked⟩
      · rw [hnone hhex] at hrow
        cases hrow
      · exact ⟨_, row_of_updated hacked hrow, rfl⟩

end RelayEndpoints
