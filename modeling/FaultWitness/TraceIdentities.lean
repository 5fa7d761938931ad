/-
**Identifiers of traces across owners.**

The sanitizer makes the reference of a trace from the identifier of the trace and those of its spans
from the identifiers of the spans; the tenant enters none of them.  The trace buffer keys its records
by the references, and `LangSmithExporter` its runs by the identifiers of the spans.

Here `TraceExportService` takes envelopes of any owners in, any number of workers drain the buffer in
memory, and each call of the exporter posts its runs to one server, one request at a time.  An owner is
a tenant together with the identifier of a trace.

Main definitions:

* `TraceIdentities.Service`, `TraceIdentities.step` — the service over the buffer and the server;
* `TraceIdentities.Honest` — no answer of a step is due to a trace of another owner;
* `TraceIdentities.Separated` — the references differ between owners, and all steps are honest;
* `TraceIdentities.Unshared` — no two owners share the identifier of a trace or of a span.

Main results:

* `TraceIdentities.separated_iff` — **owners are kept apart exactly if they share no identifiers**;
* `TraceIdentities.ingest_of_shared` — an identifier that was used is not taken in again;
* `TraceIdentities.exists_run_exportRuns` — the requests of a call together are an attempt of the
  exporter;
* `TraceIdentities.sent_of_run` — **only what the sanitizer has made of envelopes that were taken in
  leaves the service**.
-/

import FaultWitness.AtLeastOnce
import FaultWitness.RunReconciliation
import FaultWitness.SealedTraces
import Mathlib.Data.Set.BooleanAlgebra
import Mathlib.Order.CompletePartialOrder

set_option autoImplicit false

namespace TraceIdentities

open Traces Sanitizer TraceExporters RunReconciliation MemoryBuffer Runs
open DrainWorkers (Sys Drain Worker ExportOutcome Kept memory)
open PostgresBuffer (Moment)

/-! ### The service -/

/-- A tenant and the identifier of a trace. -/
abbrev Owner := String × String

def owner (envelope : TraceEnvelope) : Owner := (envelope.tenantId, envelope.traceId)

/-- A call of `LangSmithExporter.export` under way, with the spans that are not posted yet. -/
structure Attempt where
  trace : SanitizedTrace
  orders : Orders
  root : SanitizedSpan
  spans : List SanitizedSpan

/-- The service with its workers and the server.  The last two fields record the run: the envelopes
that were taken in with their traces, and the owner whose export put a run on the server. -/
structure Service where
  sys : Sys Buffer := { store := ∅ }
  server : Server := ∅
  attempts : ℕ → Option Attempt := fun _ => none
  created : List (TraceEnvelope × SanitizedTrace) := []
  posted : String → Option Owner := fun _ => none

/-- A step. -/
inductive Label
  | ingest (m : Moment) (envelope : TraceEnvelope)
  /-- A worker calls the exporter. -/
  | start (w : ℕ)
  /-- The requests for the next span of the worker's call. -/
  | request (w : ℕ) (fates : Fate × Fate)
  /-- The worker's call returns. -/
  | finish (w : ℕ)
  /-- Any other step of the workers. -/
  | work (l : DrainWorkers.Label)

/-- The trace that a worker is to export to LangSmith. -/
def Service.langsmith (s : Service) (w : ℕ) : Option SanitizedTrace :=
  match s.sys.workers w with
  | .running ⟨_, _, d :: _, none, _, _, _⟩ => if d.sink = .langsmith then some d.trace else none
  | _ => none

/-- The owner of the record under a reference. -/
def Service.ownerOf (s : Service) (ref : String) : Option Owner :=
  (s.created.find? fun e => e.2.traceRef = ref).map fun e => owner e.1

/-- The outcome of a call that raised. -/
def outcomeOf : Raised → ExportOutcome
  | .failure f => .failed f.code
  | _ => .unexpected

/-- A step of the workers that is none of those above. -/
def Service.Other (s : Service) : DrainWorkers.Label → Prop
  | .ingest _ _ => False
  | .exporting w _ => s.langsmith w = none
  | _ => True

instance (s : Service) : DecidablePred s.Other := fun l => by
  cases l <;> unfold Service.Other <;> infer_instance

/-! ### References of accepted envelopes -/

section References

variable {sanitizer : TraceSanitizer} {envelope : TraceEnvelope} {trace : SanitizedTrace}

theorem traceRef_of_sanitize (h : sanitizer.sanitize envelope = .ok trace) :
    trace.traceRef = sanitizer.ref "trace" envelope.traceId 24 := by
  obtain ⟨root, -, htrace⟩ := (sanitizer.sanitized_of_eq_ok h).trace
  rw [htrace]
  rfl

theorem exists_spanId (h : sanitizer.sanitize envelope = .ok trace) {out : SanitizedSpan}
    (hout : out ∈ trace.spans) : ∃ id ∈ spanIds envelope,
      out.remoteId = sanitizer.uuid "langsmith-span" id ∧
        out.otlpSpanId = sanitizer.ref "otlp-span" id 16 := by
  obtain ⟨span, hspan, hcarries⟩ := exists_span (sanitizer.sanitized_of_eq_ok h) hout
  exact ⟨span.spanId, List.mem_map_of_mem hspan, hcarries.remoteId, hcarries.otlpSpanId⟩

theorem exists_out (h : sanitizer.sanitize envelope = .ok trace) {id : String}
    (hid : id ∈ spanIds envelope) :
    ∃ out ∈ trace.spans, out.remoteId = sanitizer.uuid "langsmith-span" id := by
  have hcarries := (sanitizer.sanitized_of_eq_ok h).carries
  have hremote := remoteIds_of_carries hcarries
  obtain ⟨span, hspan, rfl⟩ := List.mem_map.1 hid
  have hmem : sanitizer.uuid "langsmith-span" span.spanId ∈ trace.spans.map SanitizedSpan.remoteId := by
    rw [hremote]
    exact List.mem_map_of_mem (mem_sortSpans.2 hspan)
  obtain ⟨out, hout, heq⟩ := List.mem_map.1 hmem
  exact ⟨out, hout, heq⟩

end References

section Steps

variable (sanitizer : TraceSanitizer) (cfg : Config) (automatic : Option (List DeliverySink))
  (project : String)

/-- The worker's call of the exporter ends. -/
def Service.ended (s : Service) (w : ℕ) (outcome : ExportOutcome) : Option Service :=
  (DrainWorkers.step (memory cfg) automatic s.sys (.exporting w outcome)).map fun sys =>
    { s with sys, attempts := Function.update s.attempts w none }

/-- The envelopes that have been taken in after an answer of `enqueue`. -/
def recorded (entry : TraceEnvelope × SanitizedTrace) (created : List (TraceEnvelope × SanitizedTrace)) :
    Except BufferError Bool → List (TraceEnvelope × SanitizedTrace)
  | .ok true => entry :: created
  | _ => created

/-- The owner of a run is the one whose request put it there. -/
def attributed (posted : String → Option Owner) (server server' : Server) (o : Option Owner)
    (id : String) : Option Owner :=
  if server.lookup id = none ∧ server'.lookup id ≠ none then o else posted id

/-- A worker that stops leaves its call of the exporter. -/
def withdrawn (attempts : ℕ → Option Attempt) : DrainWorkers.Label → ℕ → Option Attempt
  | .stop w => Function.update attempts w none
  | _ => attempts

def step (s : Service) : Label → Option Service
  | .ingest m envelope =>
    match sanitizer.sanitize envelope with
    | .error _ => some s
    | .ok trace =>
      (DrainWorkers.step (memory cfg) automatic s.sys (.ingest m trace)).map fun sys =>
        { s with
          sys
          created := recorded (envelope, trace) s.created (enqueue cfg s.sys.store trace m.nonce).1 }
  | .start w =>
    match s.attempts w, s.langsmith w with
    | none, some trace =>
      match preparation trace with
      | .error _ => s.ended cfg automatic w .unexpected
      | .ok (orders, root) => some { s with
          attempts := Function.update s.attempts w (some ⟨trace, orders, root, trace.spans⟩) }
    | _, _ => none
  | .request w fates =>
    match s.attempts w with
    | some ⟨trace, orders, root, span :: spans⟩ =>
      match langsmithBody project trace orders root span with
      | .error _ => s.ended cfg automatic w .unexpected
      | .ok body =>
        let result := postRun trace span body fates s.server
        let s := { s with
          server := result.2
          posted := attributed s.posted s.server result.2 (s.ownerOf trace.traceRef) }
        match result.1 with
        | .error raised => s.ended cfg automatic w (outcomeOf raised)
        | .ok _ => some { s with
            attempts := Function.update s.attempts w (some ⟨trace, orders, root, spans⟩) }
    | _ => none
  | .finish w =>
    match s.attempts w with
    | some ⟨_, _, _, []⟩ => s.ended cfg automatic w .returned
    | _ => none
  | .work l =>
    if s.Other l then
      (DrainWorkers.step (memory cfg) automatic s.sys l).map fun sys =>
        { s with sys, attempts := withdrawn s.attempts l }
    else none

/-! ### Owners that are kept apart -/

/-- An envelope of the run that the sanitizer accepts, with its trace. -/
def Accepted (labels : List Label) (envelope : TraceEnvelope) (trace : SanitizedTrace) : Prop :=
  (∃ m, .ingest m envelope ∈ labels) ∧ sanitizer.sanitize envelope = .ok trace

/-- An envelope is refused or answered as a duplicate only for a record of its own owner, and a call of
the exporter can find under the identifiers of its trace only runs of the trace's owner. -/
def Honest (s : Service) : Label → Prop
  | .ingest m envelope => ∀ trace, sanitizer.sanitize envelope = .ok trace →
      (enqueue cfg s.sys.store trace m.nonce).1 = .error .payloadConflict ∨
        (enqueue cfg s.sys.store trace m.nonce).1 = .ok false →
      s.ownerOf trace.traceRef = some (owner envelope)
  | .request w _ => ∀ a, s.attempts w = some a → ∀ span ∈ a.trace.spans, ∀ o,
      s.posted span.remoteId = some o → s.ownerOf a.trace.traceRef = some o
  | _ => True

/-- The references of two traces have nothing in common. -/
structure Apart (t t' : SanitizedTrace) : Prop where
  traceRef : t.traceRef ≠ t'.traceRef
  remoteId : ∀ x ∈ t.spans, ∀ y ∈ t'.spans, x.remoteId ≠ y.remoteId
  otlpSpanId : ∀ x ∈ t.spans, ∀ y ∈ t'.spans, x.otlpSpanId ≠ y.otlpSpanId

structure Separated (labels : List Label) : Prop where
  apart : ∀ e t e' t', Accepted sanitizer labels e t → Accepted sanitizer labels e' t' →
    owner e ≠ owner e' → Apart t t'
  honest : ∀ before l after, labels = before ++ l :: after → ∀ s,
    run (step sanitizer cfg automatic project) {} before = some s → Honest sanitizer cfg s l

/-- No two owners share the identifier of a trace or of a span. -/
def Unshared (labels : List Label) : Prop :=
  ∀ e t e' t', Accepted sanitizer labels e t → Accepted sanitizer labels e' t' → owner e ≠ owner e' →
    e.traceId ≠ e'.traceId ∧ Disjoint (spanIds e) (spanIds e')

def traceIdsOf (labels : List Label) : Set String :=
  {id | ∃ e t, Accepted sanitizer labels e t ∧ id = e.traceId}

def spanIdsOf (labels : List Label) : Set String :=
  {id | ∃ e t, Accepted sanitizer labels e t ∧ id ∈ spanIds e}

/-- The truncated digests of the identifiers of the run do not collide. -/
structure NoCollision (labels : List Label) : Prop where
  trace : Set.InjOn (fun id => sanitizer.ref "trace" id 24) (traceIdsOf sanitizer labels)
  remote : Set.InjOn (fun id => sanitizer.uuid "langsmith-span" id) (spanIdsOf sanitizer labels)
  otlp : Set.InjOn (fun id => sanitizer.ref "otlp-span" id 16) (spanIdsOf sanitizer labels)

/-! ### The invariant -/

/-- What holds in every state of a run: the workers' own invariant, the traces that were taken in are
those of accepted envelopes, and every attempt and every run on the server belongs to one of them. -/
structure Invariant (labels : List Label) (s : Service) : Prop where
  kept : Kept cfg s.sys
  ingested : s.sys.ingested = s.created.map Prod.snd
  accepted : ∀ e ∈ s.created, Accepted sanitizer labels e.1 e.2
  distinct : (s.created.map fun e => e.2.traceRef).Nodup
  attempts : ∀ w a, s.attempts w = some a → a.trace ∈ s.sys.ingested ∧ a.spans ⊆ a.trace.spans
  posted : ∀ id o, s.posted id = some o →
    ∃ e ∈ s.created, owner e.1 = o ∧ ∃ x ∈ e.2.spans, x.remoteId = id

variable {sanitizer cfg automatic project} {labels : List Label} {s s' : Service} {l : Label}

variable {trace : SanitizedTrace} {w : ℕ} {span : SanitizedSpan}

theorem Service.exists_of_ownerOf {ref : String} {o : Owner} (h : s.ownerOf ref = some o) :
    ∃ e ∈ s.created, e.2.traceRef = ref ∧ owner e.1 = o := by
  obtain ⟨e, he, rfl⟩ := Option.map_eq_some_iff.1 h
  exact ⟨e, List.mem_of_find?_eq_some he, by simpa using List.find?_some he, rfl⟩

theorem Invariant.ownerOf (h : Invariant sanitizer cfg labels s)
    {e : TraceEnvelope × SanitizedTrace} (he : e ∈ s.created) :
    s.ownerOf e.2.traceRef = some (owner e.1) := by
  cases hfind : s.created.find? fun x => x.2.traceRef = e.2.traceRef with
  | none => exact absurd (List.find?_eq_none.1 hfind e he) (by simp)
  | some x =>
    have href : x.2.traceRef = e.2.traceRef := by simpa using List.find?_some hfind
    obtain rfl := List.inj_on_of_nodup_map h.distinct (List.mem_of_find?_eq_some hfind) he href
    rw [Service.ownerOf, hfind, Option.map_some]

theorem Invariant.exists_created (h : Invariant sanitizer cfg labels s)
    {ref : String} {r : MemoryRecord} (hr : s.sys.store.lookup ref = some r) :
    ∃ e ∈ s.created, e.2.traceRef = ref := by
  obtain ⟨trace, htrace, hopen⟩ := h.kept.stored.record ref r hr
  rw [h.ingested] at htrace
  obtain ⟨e, he, rfl⟩ := List.mem_map.1 htrace
  exact ⟨e, he, traceRef_of_open hopen⟩

theorem Invariant.notMem_of_created (h : Invariant sanitizer cfg labels s) {m : Moment}
    {b : Buffer} (hcall : (memory cfg).enqueue m s.sys.store trace = (.ok true, b)) :
    trace.traceRef ∉ s.created.map fun e => e.2.traceRef := by
  intro hmem
  obtain ⟨e, he, href⟩ := List.mem_map.1 hmem
  have htrace : e.2 ∈ s.sys.ingested := h.ingested ▸ List.mem_map_of_mem he
  obtain ⟨r, hr, -⟩ := h.kept.stored.trace e.2 htrace
  rcases enqueue_cases cfg s.sys.store trace m.nonce with ⟨-, hne⟩ | ⟨p, -, hnone, -, -⟩
  · exact hne (congrArg Prod.fst hcall)
  · rw [href] at hr
    cases hnone.symm.trans hr

theorem mem_of_langsmith (h : Kept cfg s.sys) (hw : s.langsmith w = some trace) :
    trace ∈ s.sys.ingested := by
  rw [Service.langsmith] at hw
  split at hw
  · rename_i d _ _ _ _ hrunning
    split at hw
    · cases hw
      exact (h.drain hrunning).traces d List.mem_cons_self
    · cases hw
  · cases hw

theorem ingested_of_step {sys sys' : Sys Buffer} {l : DrainWorkers.Label}
    (hs : DrainWorkers.step (memory cfg) automatic sys l = some sys')
    (hl : ∀ m trace, l ≠ .ingest m trace) : sys'.ingested = sys.ingested := by
  cases DrainWorkers.moved_of_step hs with
  | ingested m trace b hcall => exact absurd rfl (hl m trace)
  | refused m trace r b hcall hr => exact absurd rfl (hl m trace)
  | _ => rfl

theorem Invariant.worked (h : Invariant sanitizer cfg labels s)
    {sys' : Sys Buffer} {l : DrainWorkers.Label}
    (hs : DrainWorkers.step (memory cfg) automatic s.sys l = some sys')
    (hl : ∀ m trace, l ≠ .ingest m trace) {attempts' : ℕ → Option Attempt}
    (hattempts : ∀ w a, attempts' w = some a → s.attempts w = some a) :
    Invariant sanitizer cfg labels { s with sys := sys', attempts := attempts' } := by
  have hingested := ingested_of_step hs hl
  exact ⟨h.kept.step hs, hingested.trans h.ingested, h.accepted, h.distinct,
    fun w a ha => hingested ▸ h.attempts w a (hattempts w a ha), h.posted⟩

theorem of_update_none {attempts : ℕ → Option Attempt} {v : ℕ} {a : Attempt}
    (h : Function.update attempts w none v = some a) : attempts v = some a := by
  by_cases hv : v = w
  · subst hv
    rw [Function.update_self] at h
    cases h
  · rwa [Function.update_of_ne hv] at h

theorem Invariant.ended (h : Invariant sanitizer cfg labels s) {outcome : ExportOutcome}
    (hs : s.ended cfg automatic w outcome = some s') : Invariant sanitizer cfg labels s' := by
  obtain ⟨sys, hsys, rfl⟩ := Option.map_eq_some_iff.1 hs
  exact h.worked hsys (by simp) fun _ _ => of_update_none

theorem Invariant.attempted (h : Invariant sanitizer cfg labels s) {a : Attempt}
    (ha : a.trace ∈ s.sys.ingested) (hspans : a.spans ⊆ a.trace.spans) :
    Invariant sanitizer cfg labels
      { s with attempts := Function.update s.attempts w (some a) } := by
  refine ⟨h.kept, h.ingested, h.accepted, h.distinct, fun v b hb => ?_, h.posted⟩
  change Function.update s.attempts w (some a) v = some b at hb
  by_cases hv : v = w
  · subst hv
    rw [Function.update_self] at hb
    cases hb
    exact ⟨ha, hspans⟩
  · rw [Function.update_of_ne hv] at hb
    exact h.attempts v b hb

/-- The requests for a span leave the server as it is, or with the body of the span. -/
theorem postRun_server (trace : SanitizedTrace) (span : SanitizedSpan) (body : Document)
    (fates : Fate × Fate) (server : Server) :
    (postRun trace span body fates server).2 = server ∨
      (postRun trace span body fates server).2 = (server.post span.remoteId body).2 := by
  have hpost := request_server (Server.post · span.remoteId body) server fates.1
  rw [postRun]
  cases hrequest : fates.1.request (Server.post · span.remoteId body) server with
  | mk answer server' =>
    rw [hrequest] at hpost
    cases answer with
    | error failure => exact hpost
    | ok status =>
      dsimp only
      split
      · -- reading a run changes nothing
        rw [verifyExisting]
        have hread := request_server (Server.read · span.remoteId) server' fates.2
        cases hrequest : fates.2.request (Server.read · span.remoteId) server' with
        | mk found server'' =>
          rw [hrequest] at hread
          obtain rfl : server'' = server' := hread.elim id id
          rcases found with failure | _ | body <;> exact hpost
      · exact hpost

theorem eq_of_posted {body : Document} {fates : Fate × Fate} {server : Server} {id : String}
    (hnone : server.lookup id = none)
    (hsome : (postRun trace span body fates server).2.lookup id ≠ none) : id = span.remoteId := by
  by_contra hne
  rcases postRun_server trace span body fates server with heq | heq
  · rw [heq] at hsome
    exact hsome hnone
  · rw [heq, lookup_post_of_ne server hne] at hsome
    exact hsome hnone

theorem Invariant.requested (h : Invariant sanitizer cfg labels s)
    (htrace : trace ∈ s.sys.ingested) (hspan : span ∈ trace.spans) (body : Document)
    (fates : Fate × Fate) :
    Invariant sanitizer cfg labels
      { s with
        server := (postRun trace span body fates s.server).2
        posted := attributed s.posted s.server (postRun trace span body fates s.server).2
          (s.ownerOf trace.traceRef) } := by
  refine ⟨h.kept, h.ingested, h.accepted, h.distinct, h.attempts, fun id o ho => ?_⟩
  change attributed s.posted _ _ _ id = some o at ho
  rw [attributed] at ho
  split at ho
  · rename_i hnew
    obtain ⟨e, he, href, howner⟩ := Service.exists_of_ownerOf ho
    have hmem : e.2 ∈ s.sys.ingested := h.ingested ▸ List.mem_map_of_mem he
    obtain rfl := h.kept.stored.unique htrace hmem href
    exact ⟨e, he, howner, span, hspan, (eq_of_posted hnew.1 hnew.2).symm⟩
  · exact h.posted id o ho

/-- **Every step keeps the invariant.** -/
theorem Invariant.step (h : Invariant sanitizer cfg labels s)
    (hl : l ∈ labels) (hs : step sanitizer cfg automatic project s l = some s') :
    Invariant sanitizer cfg labels s' := by
  cases l with
  | ingest m envelope =>
    rw [TraceIdentities.step] at hs
    split at hs
    · cases hs
      exact h
    · rename_i trace htrace
      obtain ⟨sys, hsys, rfl⟩ := Option.map_eq_some_iff.1 hs
      have hkept := h.kept.step hsys
      cases DrainWorkers.moved_of_step hsys with
      | ingested m trace b hcall =>
        have hanswer : (enqueue cfg s.sys.store trace m.nonce).1 = .ok true := congrArg Prod.fst hcall
        rw [hanswer]
        refine ⟨hkept, congrArg (trace :: ·) h.ingested, fun e he => ?_,
          List.nodup_cons.2 ⟨h.notMem_of_created hcall, h.distinct⟩, fun w a ha => ?_, fun id o ho => ?_⟩
        · rcases List.mem_cons.1 he with rfl | he
          · exact ⟨⟨m, hl⟩, htrace⟩
          · exact h.accepted e he
        · exact (h.attempts w a ha).imp (List.mem_cons_of_mem _) id
        · obtain ⟨e, he, hrest⟩ := h.posted id o ho
          exact ⟨e, List.mem_cons_of_mem _ he, hrest⟩
      | refused m trace r b hcall hr =>
        have hanswer : (enqueue cfg s.sys.store trace m.nonce).1 = r := congrArg Prod.fst hcall
        have hsame : recorded (envelope, trace) s.created r = s.created := by
          unfold recorded
          split
          · exact absurd rfl hr
          · rfl
        rw [hanswer, hsame]
        exact ⟨hkept, h.ingested, h.accepted, h.distinct, h.attempts, h.posted⟩
  | start w =>
    rw [TraceIdentities.step] at hs
    split at hs
    · rename_i trace hnone htrace
      split at hs
      · exact h.ended hs
      · cases hs
        exact h.attempted (mem_of_langsmith h.kept htrace) (List.Subset.refl _)
    · cases hs
  | request w fates =>
    rw [TraceIdentities.step] at hs
    split at hs
    · rename_i trace orders root span spans ha
      obtain ⟨htrace, hspans⟩ := h.attempts w _ ha
      obtain ⟨hspan, hrest⟩ := List.cons_subset.1 hspans
      split at hs
      · exact h.ended hs
      · rename_i body hbody
        have hrequested := h.requested htrace hspan body fates
        dsimp only at hs
        split at hs
        · exact hrequested.ended hs
        · cases hs
          exact hrequested.attempted htrace hrest
    · cases hs
  | finish w =>
    rw [TraceIdentities.step] at hs
    split at hs
    · exact h.ended hs
    · cases hs
  | work l =>
    rw [TraceIdentities.step] at hs
    split at hs
    · rename_i hother
      obtain ⟨sys, hsys, rfl⟩ := Option.map_eq_some_iff.1 hs
      refine h.worked hsys (fun m trace heq => ?_) fun v a ha => ?_
      · subst heq
        exact hother
      · unfold withdrawn at ha
        split at ha
        · exact of_update_none ha
        · exact ha
    · cases hs

theorem invariant_init : Invariant sanitizer cfg labels {} := by
  refine ⟨DrainWorkers.kept_init cfg, rfl, fun _ he => absurd he List.not_mem_nil, List.nodup_nil,
    fun _ _ ha => (by cases ha), fun _ _ ho => (by cases ho)⟩

theorem invariant_of_run {before : List Label} (hbefore : before ⊆ labels)
    (hs : run (TraceIdentities.step sanitizer cfg automatic project) {} before = some s) :
    Invariant sanitizer cfg labels s := by
  have hreaches : Reaches (TraceIdentities.step sanitizer cfg automatic project)
      (fun _ l => l ∈ labels) {} s := Reaches.of_run before (fun l hl _ => hbefore hl) hs
  exact hreaches.invariant invariant_init fun _ _ _ h hl hstep => h.step hl hstep

/-! ### Owners that share nothing -/

theorem Invariant.honest (h : Invariant sanitizer cfg labels s)
    (hcollision : NoCollision sanitizer labels) (hunshared : Unshared sanitizer labels)
    (hl : l ∈ labels) : Honest sanitizer cfg s l := by
  cases l with
  | ingest m envelope =>
    intro trace htrace hanswer
    have haccepted : Accepted sanitizer labels envelope trace := ⟨⟨m, hl⟩, htrace⟩
    have hrecord : ∃ r, s.sys.store.lookup trace.traceRef = some r := by
      cases hlookup : s.sys.store.lookup trace.traceRef with
      | some r => exact ⟨r, rfl⟩
      | none =>
        -- a new reference is taken in, or there is another refusal
        rw [enqueue, hlookup] at hanswer
        dsimp only at hanswer
        split at hanswer
        · rcases hanswer with hanswer | hanswer <;> cases hanswer
        · split at hanswer
          · rcases hanswer with hanswer | hanswer <;> cases hanswer
          · rcases hanswer with hanswer | hanswer <;> cases hanswer
    obtain ⟨r, hr⟩ := hrecord
    obtain ⟨e, he, href⟩ := h.exists_created hr
    have howner : owner e.1 = owner envelope := by
      by_contra hne
      have hids := (hunshared e.1 e.2 envelope trace (h.accepted e he) haccepted hne).1
      refine hids (hcollision.trace ⟨e.1, e.2, h.accepted e he, rfl⟩ ⟨envelope, trace, haccepted, rfl⟩ ?_)
      rwa [traceRef_of_sanitize (h.accepted e he).2, traceRef_of_sanitize htrace] at href
    rw [← href, h.ownerOf he, howner]
  | request w fates =>
    intro a ha span hspan o ho
    obtain ⟨e, he, rfl, x, hx, hid⟩ := h.posted _ o ho
    have htrace := (h.attempts w a ha).1
    rw [h.ingested] at htrace
    obtain ⟨own, hown, heq⟩ := List.mem_map.1 htrace
    rw [← heq] at hspan ⊢
    rw [h.ownerOf hown]
    by_contra hne
    have hdisjoint := (hunshared e.1 e.2 own.1 own.2 (h.accepted e he) (h.accepted own hown)
      fun heq => hne (congrArg some heq.symm)).2
    obtain ⟨i, hi, hix⟩ := exists_spanId (h.accepted e he).2 hx
    obtain ⟨j, hj, hjs⟩ := exists_spanId (h.accepted own hown).2 hspan
    refine Set.disjoint_left.1 hdisjoint hi ?_
    rw [hix.1, hjs.1] at hid
    rwa [hcollision.remote ⟨e.1, e.2, h.accepted e he, hi⟩ ⟨own.1, own.2, h.accepted own hown, hj⟩ hid]
  | start w => trivial
  | finish w => trivial
  | work l => trivial

theorem apart_of_unshared (hcollision : NoCollision sanitizer labels)
    (hunshared : Unshared sanitizer labels) {e e' : TraceEnvelope} {t t' : SanitizedTrace}
    (h : Accepted sanitizer labels e t) (h' : Accepted sanitizer labels e' t')
    (howner : owner e ≠ owner e') : Apart t t' := by
  obtain ⟨htrace, hspans⟩ := hunshared e t e' t' h h' howner
  refine ⟨fun heq => htrace ?_, fun x hx y hy heq => ?_, fun x hx y hy heq => ?_⟩
  · rw [traceRef_of_sanitize h.2, traceRef_of_sanitize h'.2] at heq
    exact hcollision.trace ⟨e, t, h, rfl⟩ ⟨e', t', h', rfl⟩ heq
  · obtain ⟨i, hi, hix⟩ := exists_spanId h.2 hx
    obtain ⟨j, hj, hjy⟩ := exists_spanId h'.2 hy
    rw [hix.1, hjy.1] at heq
    refine Set.disjoint_left.1 hspans hi ?_
    rwa [hcollision.remote ⟨e, t, h, hi⟩ ⟨e', t', h', hj⟩ heq]
  · obtain ⟨i, hi, hix⟩ := exists_spanId h.2 hx
    obtain ⟨j, hj, hjy⟩ := exists_spanId h'.2 hy
    rw [hix.2, hjy.2] at heq
    refine Set.disjoint_left.1 hspans hi ?_
    rwa [hcollision.otlp ⟨e, t, h, hi⟩ ⟨e', t', h', hj⟩ heq]

theorem unshared_of_apart
    (hapart : ∀ e t e' t', Accepted sanitizer labels e t → Accepted sanitizer labels e' t' →
      owner e ≠ owner e' → Apart t t') : Unshared sanitizer labels := by
  intro e t e' t' h h' howner
  have hrefs := hapart e t e' t' h h' howner
  refine ⟨fun heq => hrefs.traceRef ?_, Set.disjoint_left.2 fun id hid hid' => ?_⟩
  · rw [traceRef_of_sanitize h.2, traceRef_of_sanitize h'.2, heq]
  · obtain ⟨x, hx, hremote⟩ := exists_out h.2 hid
    obtain ⟨y, hy, hremote'⟩ := exists_out h'.2 hid'
    exact hrefs.remoteId x hx y hy (hremote.trans hremote'.symm)

/-- **The service keeps owners apart exactly if no two of them share the identifier of a trace or of a
span**: then their references differ, no envelope is refused or taken for a duplicate because of
another owner's, and the exporter finds no run of another owner under an identifier of its own. -/
theorem separated_iff (sanitizer : TraceSanitizer) (cfg : Config)
    (automatic : Option (List DeliverySink)) (project : String) (labels : List Label)
    (hcollision : NoCollision sanitizer labels) :
    Separated sanitizer cfg automatic project labels ↔ Unshared sanitizer labels := by
  constructor
  · intro h
    exact unshared_of_apart h.apart
  · intro hunshared
    refine ⟨fun e t e' t' h h' => apart_of_unshared hcollision hunshared h h', ?_⟩
    rintro before l after rfl s hs
    have hinvariant := invariant_of_run (List.subset_append_left before (l :: after)) hs
    exact hinvariant.honest hcollision hunshared (by simp)

/-! ### What sharing leads to -/

/-- **An envelope with the identifier of a trace that was taken in** is not taken in, whosever it is: after
any steps it is refused, or answered as a duplicate of the first owner's. -/
theorem ingest_of_shared (hsha256 : cfg.cipher.sha256 = sanitizer.sha256)
    (hs : run (TraceIdentities.step sanitizer cfg automatic project) {} labels = some s)
    {e : TraceEnvelope × SanitizedTrace} (he : e ∈ s.created) {envelope : TraceEnvelope}
    (htrace : sanitizer.sanitize envelope = .ok trace) (hshared : envelope.traceId = e.1.traceId)
    (nonce : List UInt8) :
    ((enqueue cfg s.sys.store trace nonce).1 = .error .payloadConflict ∨
      (enqueue cfg s.sys.store trace nonce).1 = .ok false) ∧
      s.ownerOf trace.traceRef = some (owner e.1) := by
  have h : Invariant sanitizer cfg labels s := invariant_of_run (List.Subset.refl labels) hs
  have href : trace.traceRef = e.2.traceRef := by
    rw [traceRef_of_sanitize htrace, traceRef_of_sanitize (h.accepted e he).2, hshared]
  refine ⟨?_, href ▸ h.ownerOf he⟩
  have hsanitized := sanitizer.sanitized_of_eq_ok htrace
  obtain ⟨payload, hseal⟩ := exists_seal (c := cfg.cipher) hsanitized.sound
    (hsha256 ▸ hsanitized.digest) nonce
  have hmem : e.2 ∈ s.sys.ingested := h.ingested ▸ List.mem_map_of_mem he
  obtain ⟨r, hr, -⟩ := h.kept.stored.trace e.2 hmem
  rw [enqueue, hseal, href, hr]
  dsimp only
  split
  · exact .inl rfl
  · exact .inr rfl

/-! ### What leaves the service -/

/-- The body is what the exporter writes for a span of an envelope that was taken in, as the sanitizer
has carried the envelope over. -/
def Exported (sanitizer : TraceSanitizer) (project : String)
    (created : List (TraceEnvelope × SanitizedTrace)) (id : String) (body : Document) : Prop :=
  ∃ envelope trace orders root span, (envelope, trace) ∈ created ∧
    sanitizer.sanitize envelope = .ok trace ∧ sanitizer.Sanitized envelope trace ∧
    preparation trace = .ok (orders, root) ∧ span ∈ trace.spans ∧ span.remoteId = id ∧
    langsmithBody project trace orders root span = .ok body

variable (sanitizer project) in
/-- What holds of the exports in every state of a run. -/
structure Sent (s : Service) : Prop where
  attempts : ∀ w a, s.attempts w = some a → preparation a.trace = .ok (a.orders, a.root)
  server : ∀ id body, s.server.lookup id = some body → Exported sanitizer project s.created id body
  exports : ∀ e ∈ s.sys.exports, e.trace ∈ s.sys.ingested

theorem Exported.mono {created created' : List (TraceEnvelope × SanitizedTrace)} {id : String}
    {body : Document} (h : Exported sanitizer project created id body) (hsub : created ⊆ created') :
    Exported sanitizer project created' id body := by
  obtain ⟨envelope, trace, orders, root, span, hcreated, hrest⟩ := h
  exact ⟨envelope, trace, orders, root, span, hsub hcreated, hrest⟩

theorem subset_recorded (entry : TraceEnvelope × SanitizedTrace)
    (created : List (TraceEnvelope × SanitizedTrace)) (answer : Except BufferError Bool) :
    created ⊆ recorded entry created answer := by
  unfold recorded
  split
  · exact List.subset_cons_self entry created
  · exact List.Subset.refl created

theorem exports_of_step {sys sys' : Sys Buffer} {l : DrainWorkers.Label} (h : Kept cfg sys)
    (hexports : ∀ e ∈ sys.exports, e.trace ∈ sys.ingested)
    (hs : DrainWorkers.step (memory cfg) automatic sys l = some sys') :
    ∀ e ∈ sys'.exports, e.trace ∈ sys'.ingested := by
  cases DrainWorkers.moved_of_step hs with
  | ingested m trace b hcall => exact fun e he => List.mem_cons_of_mem _ (hexports e he)
  | exported w outcome drain d ds hw hds hnone =>
    have htrace := (h.drain hw).traces d (hds ▸ List.mem_cons_self)
    exact List.forall_mem_cons.2 ⟨htrace, hexports⟩
  | _ => exact hexports

theorem Sent.worked (h : Sent sanitizer project s) (hkept : Kept cfg s.sys) {sys' : Sys Buffer}
    {l : DrainWorkers.Label} (hs : DrainWorkers.step (memory cfg) automatic s.sys l = some sys')
    {attempts' : ℕ → Option Attempt}
    (hattempts : ∀ w a, attempts' w = some a → s.attempts w = some a) :
    Sent sanitizer project { s with sys := sys', attempts := attempts' } :=
  ⟨fun w a ha => h.attempts w a (hattempts w a ha), h.server, exports_of_step hkept h.exports hs⟩

theorem Sent.ended (h : Sent sanitizer project s) (hkept : Kept cfg s.sys)
    {outcome : ExportOutcome} (hs : s.ended cfg automatic w outcome = some s') :
    Sent sanitizer project s' := by
  obtain ⟨sys, hsys, rfl⟩ := Option.map_eq_some_iff.1 hs
  exact h.worked hkept hsys fun _ _ => of_update_none

theorem Sent.attempted (h : Sent sanitizer project s) {a : Attempt}
    (ha : preparation a.trace = .ok (a.orders, a.root)) :
    Sent sanitizer project { s with attempts := Function.update s.attempts w (some a) } := by
  refine ⟨fun v b hb => ?_, h.server, h.exports⟩
  change Function.update s.attempts w (some a) v = some b at hb
  by_cases hv : v = w
  · subst hv
    rw [Function.update_self] at hb
    cases hb
    exact ha
  · rw [Function.update_of_ne hv] at hb
    exact h.attempts v b hb

/-- A request puts at most the body of its span on the server. -/
theorem Sent.requested (h : Sent sanitizer project s) (trace : SanitizedTrace)
    {body : Document} (hbody : Exported sanitizer project s.created span.remoteId body)
    (fates : Fate × Fate)
    (posted : String → Option Owner) :
    Sent sanitizer project
      { s with server := (postRun trace span body fates s.server).2, posted } := by
  refine ⟨h.attempts, fun id found hfound => ?_, h.exports⟩
  rcases postRun_server trace span body fates s.server with heq | heq
  · exact h.server id found (heq ▸ hfound)
  · change (postRun trace span body fates s.server).2.lookup id = some found at hfound
    rw [heq] at hfound
    by_cases hid : id = span.remoteId
    · subst hid
      rw [lookup_post] at hfound
      cases hold : s.server.lookup span.remoteId with
      | none =>
        rw [hold] at hfound
        cases hfound
        exact hbody
      | some old =>
        rw [hold] at hfound
        cases hfound
        exact h.server _ _ hold
    · rw [lookup_post_of_ne s.server hid] at hfound
      exact h.server id found hfound

/-- **A step sends nothing but bodies of envelopes that were taken in.** -/
theorem Sent.step (h : Sent sanitizer project s) (hinv : Invariant sanitizer cfg labels s)
    (hs : TraceIdentities.step sanitizer cfg automatic project s l = some s') :
    Sent sanitizer project s' := by
  cases l with
  | ingest m envelope =>
    rw [TraceIdentities.step] at hs
    split at hs
    · cases hs
      exact h
    · obtain ⟨sys, hsys, rfl⟩ := Option.map_eq_some_iff.1 hs
      exact ⟨h.attempts, fun id body hbody => (h.server id body hbody).mono (subset_recorded ..),
        exports_of_step hinv.kept h.exports hsys⟩
  | start w =>
    rw [TraceIdentities.step] at hs
    split at hs
    · split at hs
      · exact h.ended hinv.kept hs
      · rename_i hpreparation
        cases hs
        exact h.attempted hpreparation
    · cases hs
  | request w fates =>
    rw [TraceIdentities.step] at hs
    split at hs
    · rename_i trace orders root span spans ha
      obtain ⟨htrace, hspans⟩ := hinv.attempts w _ ha
      have hpreparation := h.attempts w _ ha
      split at hs
      · exact h.ended hinv.kept hs
      · rename_i body hbody
        -- the trace of an attempt was taken in with an envelope that the sanitizer accepts
        rw [hinv.ingested] at htrace
        obtain ⟨e, he, rfl⟩ := List.mem_map.1 htrace
        have haccepted := (hinv.accepted _ he).2
        have hexported : Exported sanitizer project s.created span.remoteId body :=
          ⟨e.1, e.2, orders, root, span, he, haccepted, sanitizer.sanitized_of_eq_ok haccepted,
            hpreparation, hspans List.mem_cons_self, rfl, hbody⟩
        have hsent := h.requested e.2 hexported fates
        dsimp only at hs
        split at hs
        · exact (hsent _).ended hinv.kept hs
        · cases hs
          exact (hsent _).attempted hpreparation
    · cases hs
  | finish w =>
    rw [TraceIdentities.step] at hs
    split at hs
    · exact h.ended hinv.kept hs
    · cases hs
  | work l =>
    rw [TraceIdentities.step] at hs
    split at hs
    · obtain ⟨sys, hsys, rfl⟩ := Option.map_eq_some_iff.1 hs
      refine h.worked hinv.kept hsys fun v a ha => ?_
      unfold withdrawn at ha
      split at ha
      · exact of_update_none ha
      · exact ha
    · cases hs

/-- **Nothing leaves the service but what the sanitizer has made of an envelope that was taken in**:
after any steps of its callers, its workers and the server, every run on the server is the body of a span
of such an envelope, and every trace that an exporter was called with is that of one. -/
theorem sent_of_run (hs : run (TraceIdentities.step sanitizer cfg automatic project) {} labels = some s) :
    (∀ id body, s.server.lookup id = some body → Exported sanitizer project s.created id body) ∧
      (∀ e ∈ s.sys.exports, ∃ envelope, (envelope, e.trace) ∈ s.created) ∧
      ∀ e ∈ s.created, Accepted sanitizer labels e.1 e.2 := by
  have hreaches : Reaches (TraceIdentities.step sanitizer cfg automatic project)
      (fun _ l => l ∈ labels) {} s := Reaches.of_run labels (fun l hl _ => hl) hs
  obtain ⟨hinv, hsent⟩ : Invariant sanitizer cfg labels s ∧ Sent sanitizer project s := by
    refine hreaches.invariant (I := fun s => Invariant sanitizer cfg labels s ∧
      Sent sanitizer project s) ⟨invariant_init, ⟨?_, ?_, ?_⟩⟩ ?_
    · rintro w a ⟨⟩
    · rintro id body ⟨⟩
    · rintro e ⟨⟩
    · rintro s l s' ⟨hinv, hsent⟩ hl hstep
      exact ⟨hinv.step hl hstep, hsent.step hinv hstep⟩
  refine ⟨hsent.server, fun e he => ?_, hinv.accepted⟩
  have htrace := hsent.exports e he
  rw [hinv.ingested] at htrace
  obtain ⟨created, hcreated, heq⟩ := List.mem_map.1 htrace
  exact ⟨created.1, heq ▸ hcreated⟩

/-! ### Calls of the exporter -/

/-- How a call of the exporter ends. -/
def endingOf {α : Type} : Except Raised α → ExportOutcome
  | .ok _ => .returned
  | .error raised => outcomeOf raised

theorem Service.exists_ended (hw : s.langsmith w = some trace) (outcome : ExportOutcome) :
    ∃ s', s.ended cfg automatic w outcome = some s' ∧
      s'.server = s.server ∧
      DrainWorkers.step (memory cfg) automatic s.sys (.exporting w outcome) = some s'.sys := by
  rw [Service.langsmith] at hw
  split at hw
  · rename_i limit sinks d ds acked retried claimed hrunning
    have hstep : ∃ sys, DrainWorkers.step (memory cfg) automatic s.sys (.exporting w outcome) = some sys := by
      rw [DrainWorkers.step, hrunning]
      exact ⟨_, rfl⟩
    obtain ⟨sys, hsys⟩ := hstep
    exact ⟨{ s with sys, attempts := Function.update s.attempts w none },
      by rw [Service.ended, hsys, Option.map_some], rfl, hsys⟩
  · cases hw

/-- The requests for so many spans, and the end of the call. -/
def requestLabels (w : ℕ) : ℕ → (ℕ → Fate × Fate) → List Label
  | 0, _ => [.finish w]
  | n + 1, fates => .request w (fates 0) :: requestLabels w n fun k => fates (k + 1)

/-- The steps of a call for a trace with so many spans, which an exception cuts short. -/
def callLabels (w n : ℕ) (fates : ℕ → Fate × Fate) : List Label := .start w :: requestLabels w n fates

/-- The first ones of these labels end the worker's call with an outcome and a server. -/
def Ends (sanitizer : TraceSanitizer) (cfg : Config) (automatic : Option (List DeliverySink))
    (project : String) (s : Service) (w : ℕ) (calls : List Label) (outcome : ExportOutcome)
    (server : Server) : Prop :=
  ∃ labels s', labels <+: calls ∧
    run (TraceIdentities.step sanitizer cfg automatic project) s labels = some s' ∧
    s'.server = server ∧
    DrainWorkers.step (memory cfg) automatic s.sys (.exporting w outcome) = some s'.sys

variable {calls : List Label}

theorem ends_of_step (s₁ : Service) {outcome : ExportOutcome} (hw : s.langsmith w = some trace)
    (hsys : s₁.sys = s.sys)
    (hs : TraceIdentities.step sanitizer cfg automatic project s l = s₁.ended cfg automatic w outcome) :
    Ends sanitizer cfg automatic project s w (l :: calls) outcome s₁.server := by
  have hw₁ : s₁.langsmith w = some trace := by rwa [Service.langsmith, hsys]
  obtain ⟨s', hended, hserver, hstep⟩ := s₁.exists_ended hw₁ outcome
  exact ⟨[l], s', List.cons_prefix_cons.2 ⟨rfl, List.nil_prefix⟩, by rw [run, hs, hended]; rfl, hserver,
    hsys ▸ hstep⟩

theorem Ends.cons {outcome : ExportOutcome} {server : Server}
    (hs : TraceIdentities.step sanitizer cfg automatic project s l = some s') (hsys : s'.sys = s.sys)
    (h : Ends sanitizer cfg automatic project s' w calls outcome server) :
    Ends sanitizer cfg automatic project s w (l :: calls) outcome server := by
  obtain ⟨labels, s'', hlabels, hrun, hserver, hstep⟩ := h
  rw [hsys] at hstep
  exact ⟨l :: labels, s'', List.cons_prefix_cons.2 ⟨rfl, hlabels⟩, by rw [run, hs]; exact hrun, hserver,
    hstep⟩

/-- The requests for the spans that are left do what the loop of the exporter does. -/
theorem ends_postRuns {orders : Orders} {root : SanitizedSpan}
    (spans : List SanitizedSpan) (fates : ℕ → Fate × Fate) (hw : s.langsmith w = some trace)
    (ha : s.attempts w = some ⟨trace, orders, root, spans⟩) :
    Ends sanitizer cfg automatic project s w (requestLabels w spans.length fates)
      (endingOf (postRuns trace (langsmithBody project trace orders root) spans fates s.server).1)
      (postRuns trace (langsmithBody project trace orders root) spans fates s.server).2 := by
  induction spans generalizing s fates with
  | nil =>
    refine ends_of_step (l := .finish w) s hw rfl ?_
    rw [TraceIdentities.step, ha]
    rfl
  | cons span spans ih =>
    rw [postRuns]
    cases hbody : langsmithBody project trace orders root span with
    | error error =>
      refine ends_of_step (l := .request w (fates 0)) s hw rfl ?_
      simp only [TraceIdentities.step, ha, hbody]
      rfl
    | ok body =>
      dsimp only
      cases hpost : postRun trace span body (fates 0) s.server with
      | mk answer server =>
        let posted := attributed s.posted s.server server (s.ownerOf trace.traceRef)
        cases answer with
        | error raised =>
          refine ends_of_step (l := .request w (fates 0)) { s with server, posted } hw rfl ?_
          simp only [TraceIdentities.step, ha, hbody, hpost]
          rfl
        | ok _ =>
          let s' := { s with
            server, posted
            attempts := Function.update s.attempts w (some ⟨trace, orders, root, spans⟩) }
          have hstep : TraceIdentities.step sanitizer cfg automatic project s
              (.request w (fates 0)) = some s' := by
            simp only [TraceIdentities.step, ha, hbody, hpost]
            rfl
          have hw' : s'.langsmith w = some trace := hw
          exact Ends.cons hstep rfl (ih (fun n => fates (n + 1)) hw' (Function.update_self ..))

theorem ends_exportRuns (hw : s.langsmith w = some trace) (hnone : s.attempts w = none)
    (fates : ℕ → Fate × Fate) :
    Ends sanitizer cfg automatic project s w (callLabels w trace.spans.length fates)
      (endingOf (exportRuns project trace fates s.server).1)
      (exportRuns project trace fates s.server).2 := by
  rw [exportRuns, callLabels]
  cases hprepared : preparation trace with
  | error error =>
    refine ends_of_step (l := .start w) s hw rfl ?_
    simp only [TraceIdentities.step, hnone, hw, hprepared]
    rfl
  | ok prepared =>
    obtain ⟨orders, root⟩ := prepared
    let s' := { s with
      attempts := Function.update s.attempts w (some ⟨trace, orders, root, trace.spans⟩) }
    have hw' : s'.langsmith w = some trace := hw
    have hloop : Ends sanitizer cfg automatic project s' w _ _ _ :=
      ends_postRuns trace.spans fates hw' (Function.update_self ..)
    have hstep : TraceIdentities.step sanitizer cfg automatic project s (.start w) = some s' := by
      simp only [TraceIdentities.step, hnone, hw, hprepared]
      rfl
    refine Ends.cons hstep rfl ?_
    dsimp only
    cases hrun : postRuns trace (langsmithBody project trace orders root) trace.spans fates s.server with
    | mk answer server =>
      rw [show s'.server = s.server from rfl, hrun] at hloop
      cases answer with
      | error raised => exact hloop
      | ok _ => exact hloop

/-- **The steps of one call that has not begun are an attempt of the exporter**, when nothing comes in
between. -/
theorem exists_run_exportRuns (hw : s.langsmith w = some trace)
    (hnone : s.attempts w = none) (fates : ℕ → Fate × Fate) :
    Ends sanitizer cfg automatic project s w (callLabels w trace.spans.length fates)
      (endingOf (exportRuns project trace fates s.server).1)
      (exportRuns project trace fates s.server).2 :=
  ends_exportRuns hw hnone fates

theorem exists_ingest (s : Service) (m : Moment) (envelope : TraceEnvelope) :
    ∃ s', step sanitizer cfg automatic project s (.ingest m envelope) = some s' ∧
      s'.server = s.server := by
  cases hsan : sanitizer.sanitize envelope with
  | error e => exact ⟨s, by simp only [step, hsan], rfl⟩
  | ok trace =>
    have hsys : ∃ sys, DrainWorkers.step (memory cfg) automatic s.sys (.ingest m trace) = some sys := by
      simp only [DrainWorkers.step]
      split <;> exact ⟨_, rfl⟩
    obtain ⟨sys, hsys⟩ := hsys
    refine ⟨{ s with
      sys
      created := recorded (envelope, trace) s.created (enqueue cfg s.sys.store trace m.nonce).1 },
      ?_, rfl⟩
    simp only [step, hsan, hsys, Option.map_some]

end Steps

/-! ### Two tenants -/

/-- The sample as another tenant sends it, with the same identifiers. -/
def foreignEnvelope : TraceEnvelope := { sampleEnvelope with tenantId := "ten_01K0000000000000000000000B" }

/-- A trace of another tenant with identifiers of its own. -/
def otherEnvelope : TraceEnvelope := { foreignEnvelope with
  traceId := "trace_01K0000000000000000000000C"
  spans := [{ sampleRoot with spanId := "span_01K0000000000000000000000C" }]
  spans_ne := by simp }

def sampleMoment : Moment := { now := 0, nonce := sampleNonce }

def takenIn (envelopes : List TraceEnvelope) : List Label := envelopes.map (.ingest sampleMoment)

variable {envelopes : List TraceEnvelope} {labels : List Label}

theorem mem_takenIn {m : Moment} {e : TraceEnvelope} (h : .ingest m e ∈ takenIn envelopes) :
    e ∈ envelopes := by
  obtain ⟨e', he', heq⟩ := List.mem_map.1 h
  cases heq
  exact he'

theorem injOn_of_nodup {f : String → String} {ids : List String} {set : Set String}
    (hset : ∀ id ∈ set, id ∈ ids) (h : (ids.map f).Nodup) : Set.InjOn f set :=
  fun a ha b hb heq => List.inj_on_of_nodup_map h (hset a ha) (hset b hb) heq

/-- Envelopes do not collide whose identifiers are among some that have different references. -/
theorem noCollision_of_mem (hlabels : ∀ m e, .ingest m e ∈ labels → e ∈ envelopes)
    (ids spans : List String)
    (hmem : ∀ e ∈ envelopes, e.traceId ∈ ids ∧ ∀ span ∈ e.spans, span.spanId ∈ spans)
    (htrace : (ids.map fun id => sampleSanitizer.ref "trace" id 24).Nodup)
    (hremote : (spans.map fun id => sampleSanitizer.uuid "langsmith-span" id).Nodup)
    (hotlp : (spans.map fun id => sampleSanitizer.ref "otlp-span" id 16).Nodup) :
    NoCollision sampleSanitizer labels := by
  have hspans : ∀ id ∈ spanIdsOf sampleSanitizer labels, id ∈ spans := by
    rintro id ⟨e, t, ⟨⟨m, hm⟩, -⟩, hid⟩
    obtain ⟨span, hspan, rfl⟩ := List.mem_map.1 hid
    exact (hmem e (hlabels m e hm)).2 span hspan
  refine ⟨injOn_of_nodup ?_ htrace, injOn_of_nodup hspans hremote, injOn_of_nodup hspans hotlp⟩
  rintro id ⟨e, t, ⟨⟨m, hm⟩, -⟩, rfl⟩
  exact (hmem e (hlabels m e hm)).1

/-- The sample is taken in, and a worker claims it for LangSmith. -/
def claimLabels : List Label := takenIn [sampleEnvelope] ++
  [.work (.start 0 10 (some [.langsmith])), .work (.claim 0 sampleMoment)]

theorem claimed_sample : ∃ s t, sampleSanitizer.sanitize sampleEnvelope = .ok t ∧
    run (step sampleSanitizer DrainWorkers.sampleMemory none "faultwitness") {} claimLabels = some s ∧
      s.langsmith 0 = some t ∧ s.attempts 0 = none ∧ s.server = ∅ ∧ s.sys.exports = [] := by
  obtain ⟨t, ht⟩ := exists_sanitize_sample
  have hsanitized := sampleSanitizer.sanitized_of_eq_ok ht
  obtain ⟨payload, hseal⟩ := exists_seal (c := DrainWorkers.sampleMemory.cipher) hsanitized.sound
    hsanitized.digest sampleNonce
  let record : MemoryRecord := ⟨payload, fun _ => {}⟩
  let drain : Drain := { limit := 10, sinks := [.langsmith] }
  let s₁ : Service :=
    { sys := { store := AList.singleton t.traceRef record, ingested := [t] }
      created := [(sampleEnvelope, t)] }
  let s₂ : Service := { s₁ with sys := s₁.sys.setWorker 0 (.running drain) }
  have henqueue := enqueue_empty hseal
  have hingest : step sampleSanitizer DrainWorkers.sampleMemory none "faultwitness" {}
      (.ingest sampleMoment sampleEnvelope) = some s₁ := by
    rw [step, ht]
    dsimp only
    rw [DrainWorkers.step_ingest henqueue, Option.map_some]
    have hanswer : (enqueue DrainWorkers.sampleMemory ({} : Service).sys.store t
        sampleMoment.nonce).1 = .ok true := congrArg Prod.fst henqueue
    rw [hanswer]
    rfl
  have hstart : step sampleSanitizer DrainWorkers.sampleMemory none "faultwitness" s₁
      (.work (.start 0 10 (some [.langsmith]))) = some s₂ := rfl
  have hfree : ¬(record.deliveries .langsmith).Busy 0 := by simp [record, MemoryDelivery.Busy]
  have hclaim : (memory DrainWorkers.sampleMemory).claim sampleMoment s₂.sys.store .langsmith 10
      DrainWorkers.leaseSeconds = _ :=
    congrArg some (claim_singleton record (open_seal hseal) hfree 10 DrainWorkers.leaseSeconds)
  have hworker : s₂.sys.workers 0 = .running ⟨10, .langsmith :: [], [], none, 0, 0, 0⟩ := rfl
  have hclaimed := @DrainWorkers.step_claim _ _ none _ _ s₂.sys _ _ _ _ _ _ _ _ hworker le_rfl _ hclaim
  have hwork : ∃ s₃, step sampleSanitizer DrainWorkers.sampleMemory none "faultwitness" s₂
      (.work (.claim 0 sampleMoment)) = some s₃ ∧ s₃.langsmith 0 = some t ∧ s₃.attempts 0 = none ∧
        s₃.server = ∅ ∧ s₃.sys.exports = [] := by
    have hother : s₂.Other (.claim 0 sampleMoment) := trivial
    rw [step, if_pos hother, hclaimed]
    exact ⟨_, rfl, rfl, rfl, rfl, rfl⟩
  obtain ⟨s₃, hs₃, hlangsmith, hrest⟩ := hwork
  refine ⟨s₃, t, ht, ?_, hlangsmith, hrest⟩
  simp only [claimLabels, takenIn, List.map_cons, List.map_nil, List.cons_append, List.nil_append, run,
    hingest, hstart, hs₃, Option.bind_some]

/-- Every request of the sample is answered. -/
def sampleFates (_ : ℕ) : Fate × Fate := (.answered, .answered)

theorem exportRuns_sample : ((sampleSanitizer.sanitize sampleEnvelope).toOption.map fun t =>
    let result := exportRuns "faultwitness" t sampleFates ∅
    (endingOf result.1, result.2.entries.length)) = some (.returned, 2) := by decide +kernel

theorem not_ingest_of_mem {w n : ℕ} {fates : ℕ → Fate × Fate} {l : Label}
    (h : l ∈ requestLabels w n fates) (m : Moment) (e : TraceEnvelope) : l ≠ .ingest m e := by
  induction n generalizing fates with
  | zero =>
    rw [List.mem_singleton.1 h]
    nofun
  | succ n ih =>
    rcases List.mem_cons.1 h with rfl | h
    · nofun
    · exact ih h

/-- A worker takes the sample from its envelope to the server. -/
theorem exported_sample : ∃ labels s,
    run (step sampleSanitizer DrainWorkers.sampleMemory none "faultwitness") {} labels = some s ∧
      s.server.entries.length = 2 ∧ s.sys.exports.length = 1 ∧
      ∀ m e, .ingest m e ∈ labels → e = sampleEnvelope := by
  obtain ⟨s, t, ht, hrun, hlangsmith, hnone, hserver, hexports⟩ := claimed_sample
  have hresult := exportRuns_sample
  rw [ht, Except.toOption, Option.map_some, Option.some.injEq, Prod.mk.injEq] at hresult
  obtain ⟨labels, s', hlabels, hcall, hserver', hended⟩ :=
    @ends_exportRuns sampleSanitizer DrainWorkers.sampleMemory none "faultwitness" s t 0 hlangsmith hnone
      sampleFates
  have hlength : s'.sys.exports.length = s.sys.exports.length + 1 := by
    generalize s'.sys = sys at hended
    cases DrainWorkers.moved_of_step hended with
    | exported => rfl
  rw [hexports] at hlength
  refine ⟨claimLabels ++ labels, s', ?_, ?_, hlength, fun m e hmem => ?_⟩
  · rw [run_append, hrun]
    exact hcall
  · rw [hserver', hserver]
    exact hresult.2
  · rcases List.mem_append.1 hmem with hmem | hmem
    · rcases List.mem_append.1 hmem with hmem | hmem
      · exact List.mem_singleton.1 (mem_takenIn hmem)
      · simp at hmem
    · rcases List.mem_cons.1 (hlabels.subset hmem) with heq | hmem
      · cases heq
      · exact absurd rfl (not_ingest_of_mem hmem m e)

/-- Two tenants with identifiers of their own are kept apart: the other one's envelope is taken in after
the sample was exported. -/
theorem separated_iff_sample : ∃ labels s,
    run (step sampleSanitizer DrainWorkers.sampleMemory none "faultwitness") {}
        (labels ++ takenIn [otherEnvelope]) = some s ∧ s.server.entries.length = 2 ∧
      Separated sampleSanitizer DrainWorkers.sampleMemory none "faultwitness"
        (labels ++ takenIn [otherEnvelope]) := by
  obtain ⟨labels, s, hrun, hserver, -, honly⟩ := exported_sample
  have hlabels : ∀ m e, .ingest m e ∈ labels ++ takenIn [otherEnvelope] →
      e ∈ [sampleEnvelope, otherEnvelope] := by
    intro m e hmem
    rcases List.mem_append.1 hmem with hmem | hmem
    · exact List.mem_cons.2 (.inl (honly m e hmem))
    · exact List.mem_cons_of_mem _ (mem_takenIn hmem)
  have hcollision : NoCollision sampleSanitizer (labels ++ takenIn [otherEnvelope]) :=
    noCollision_of_mem hlabels [sampleEnvelope.traceId, otherEnvelope.traceId]
      [sampleChild.spanId, sampleRoot.spanId, "span_01K0000000000000000000000C"]
      (by decide +kernel) (by decide +kernel) (by decide +kernel) (by decide +kernel)
  have hlast : ∃ s', run (step sampleSanitizer DrainWorkers.sampleMemory none "faultwitness") {}
      (labels ++ takenIn [otherEnvelope]) = some s' ∧ s'.server = s.server := by
    obtain ⟨s', (hstep : step sampleSanitizer DrainWorkers.sampleMemory none "faultwitness" s _ = some s'),
      hsame⟩ := exists_ingest s sampleMoment otherEnvelope
    refine ⟨s', ?_, hsame⟩
    rw [run_append, hrun]
    simp only [takenIn, List.map_cons, List.map_nil, Option.bind_some, run, hstep]
  obtain ⟨s', hs', hsame⟩ := hlast
  refine ⟨labels, s', hs', hsame ▸ hserver, (separated_iff sampleSanitizer DrainWorkers.sampleMemory none
    "faultwitness" _ hcollision).2 ?_⟩
  rintro e t e' t' ⟨⟨m, hm⟩, -⟩ ⟨⟨m', hm'⟩, -⟩ howner
  have hapart : sampleEnvelope.traceId ≠ otherEnvelope.traceId ∧
      Disjoint (spanIds sampleEnvelope) (spanIds otherEnvelope) := by
    have hids : ∀ id ∈ otherEnvelope.spans.map SpanRecord.spanId,
        id ∉ sampleEnvelope.spans.map SpanRecord.spanId := by decide +kernel
    exact ⟨by decide +kernel, Set.disjoint_left.2 fun id hid hid' => hids id hid' hid⟩
  have hmem := hlabels m e hm
  have hmem' := hlabels m' e' hm'
  simp only [List.mem_cons, List.not_mem_nil, or_false] at hmem hmem'
  rcases hmem with rfl | rfl <;> rcases hmem' with rfl | rfl
  · exact absurd rfl howner
  · exact hapart
  · exact ⟨hapart.1.symm, hapart.2.symm⟩
  · exact absurd rfl howner

theorem sent_of_run_sample : ∃ labels s,
    run (step sampleSanitizer DrainWorkers.sampleMemory none "faultwitness") {} labels = some s ∧
      s.server.entries.length = 2 ∧ s.sys.exports.length = 1 ∧
      (∀ id body, s.server.lookup id = some body →
        Exported sampleSanitizer "faultwitness" s.created id body) ∧
      (∀ e ∈ s.sys.exports, ∃ envelope, (envelope, e.trace) ∈ s.created) ∧
      ∀ e ∈ s.created, Accepted sampleSanitizer labels e.1 e.2 := by
  obtain ⟨labels, s, hrun, hserver, hexports, -⟩ := exported_sample
  exact ⟨labels, s, hrun, hserver, hexports, sent_of_run hrun⟩

/-- The other tenant's envelope comes after the sample. -/
theorem ingest_of_shared_foreign : ∃ s : Service, ∃ t, ∃ e ∈ s.created,
    sampleSanitizer.sanitize foreignEnvelope = .ok t ∧
      ((enqueue DrainWorkers.sampleMemory s.sys.store t sampleNonce).1 = .error .payloadConflict ∨
        (enqueue DrainWorkers.sampleMemory s.sys.store t sampleNonce).1 = .ok false) ∧
      s.ownerOf t.traceRef = some (owner e.1) := by
  have hrun : ((run (step sampleSanitizer DrainWorkers.sampleMemory none "faultwitness") {}
      (takenIn [sampleEnvelope])).map fun s => s.created.map fun e => e.1.traceId) =
        some [foreignEnvelope.traceId] := by decide +kernel
  obtain ⟨s, hs, hcreated⟩ := Option.map_eq_some_iff.1 hrun
  obtain ⟨e, he, hid⟩ := List.mem_map.1 (hcreated ▸ List.mem_singleton_self _)
  obtain ⟨t, ht⟩ : ∃ t, sampleSanitizer.sanitize foreignEnvelope = .ok t :=
    sampleSanitizer.exists_sanitize validateGraph_sample fits_sample
  exact ⟨s, t, e, he, ht, ingest_of_shared rfl hs he ht hid.symm sampleNonce⟩

theorem exists_run_exportRuns_claimed : ∃ s t,
    run (step sampleSanitizer DrainWorkers.sampleMemory none "faultwitness") {} claimLabels = some s ∧
      s.langsmith 0 = some t ∧
      (endingOf (exportRuns "faultwitness" t sampleFates s.server).1 = .returned ∧
        (exportRuns "faultwitness" t sampleFates s.server).2.entries.length = 2) ∧
      Ends sampleSanitizer DrainWorkers.sampleMemory none "faultwitness" s 0
        (callLabels 0 t.spans.length sampleFates)
        (endingOf (exportRuns "faultwitness" t sampleFates s.server).1)
        (exportRuns "faultwitness" t sampleFates s.server).2 := by
  obtain ⟨s, t, ht, hrun, hlangsmith, hnone, hserver, -⟩ := claimed_sample
  have hresult := exportRuns_sample
  rw [ht, Except.toOption, Option.map_some, Option.some.injEq, Prod.mk.injEq] at hresult
  exact ⟨s, t, hrun, hlangsmith, hserver ▸ hresult,
    exists_run_exportRuns hlangsmith hnone sampleFates⟩

/-- Two tenants send the same identifiers: though no references collide, the second one is not kept
apart from the first. -/
theorem not_separated : NoCollision sampleSanitizer (takenIn [sampleEnvelope, foreignEnvelope]) ∧
    ¬ Separated sampleSanitizer DrainWorkers.sampleMemory none "faultwitness"
      (takenIn [sampleEnvelope, foreignEnvelope]) := by
  refine ⟨noCollision_of_mem (fun _ _ => mem_takenIn) [sampleEnvelope.traceId]
    [sampleChild.spanId, sampleRoot.spanId]
    (by decide +kernel) (by decide +kernel) (by decide +kernel) (by decide +kernel), fun h => ?_⟩
  obtain ⟨t, ht⟩ := exists_sanitize_sample
  obtain ⟨t', ht'⟩ : ∃ t', sampleSanitizer.sanitize foreignEnvelope = .ok t' :=
    sampleSanitizer.exists_sanitize validateGraph_sample fits_sample
  have hrefs := h.apart sampleEnvelope t foreignEnvelope t' ⟨⟨sampleMoment, by simp [takenIn]⟩, ht⟩
    ⟨⟨sampleMoment, by simp [takenIn]⟩, ht'⟩ (by decide)
  refine hrefs.traceRef ?_
  rw [traceRef_of_sanitize ht, traceRef_of_sanitize ht']
  rfl

end TraceIdentities
