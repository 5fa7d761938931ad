/-
**Attempts to export runs.**

The class `LangSmithExporter` posts a run for every span of a trace, one after the other, and reads the
run back where the server answers that it exists.  Every request may fail, with its effect or without it,
and then the attempt ends with an exception.

The server is a map from the identifiers of runs to their bodies.  A run that exists is kept.

Main definitions:

* `RunReconciliation.Server` — the server, with `post` and `read`;
* `RunReconciliation.Fate` — what happens to a request;
* `RunReconciliation.exportRuns` — an attempt;
* `RunReconciliation.Agrees` — the server holds nothing for the spans but their own bodies.

Main results:

* `RunReconciliation.exportRuns_spec` — what an attempt does to a server that agrees with the trace;
* `RunReconciliation.reconciled` — **no attempts, however they fail, lead to a conflict, and one that
  returns leaves exactly one run for each span**.
-/

import FaultWitness.TraceExporters
import FaultWitness.Runs

set_option autoImplicit false

namespace RunReconciliation

open Python Timestamps Traces Sanitizer TraceExporters Runs

/-! ### The server -/

/-- The runs of the server by their identifiers. -/
abbrev Server := AList fun _ : String => Document

/-- The answer to a `POST` and what is stored then. -/
def Server.post (server : Server) (id : String) (body : Document) : ℕ × Server :=
  match server.lookup id with
  | none => (202, server.insert id body)
  | some _ => (409, server)

/-- The answer to a `GET`. -/
def Server.read (server : Server) (id : String) : Option Document × Server :=
  (server.lookup id, server)

/-- How a request fails. -/
inductive Failure
  | timeout
  | transport
  /-- The answer has a status that is none of a run that is stored. -/
  | status (code : ℕ) (failed : code ∉ [200, 201, 202, 409])

inductive Fate
  | answered
  | failedBefore (failure : Failure)
  | failedAfter (failure : Failure)

def Fate.request {α : Type} (effect : Server → α × Server) (server : Server) :
    Fate → Except Failure α × Server
  | .answered => (.ok (effect server).1, (effect server).2)
  | .failedBefore failure => (.error failure, server)
  | .failedAfter failure => (.error failure, (effect server).2)

/-! ### An attempt -/

structure ExportFailure where
  code : String
  retryable : Bool

/-- What an attempt raises. -/
inductive Raised
  | failure (failure : ExportFailure)
  | exporter (error : ExporterError)
  | attributeError

def httpFailure (service : String) (status : ℕ) : ExportFailure where
  code := service ++ "_http_" ++ toString status
  retryable := status ∈ [408, 409, 425, 429, 500, 502, 503, 504]

/-- The exception of a request that failed. -/
def Failure.raised (service : String) : Failure → Raised
  | .timeout => .failure ⟨"langsmith_timeout", true⟩
  | .transport => .failure ⟨"langsmith_transport", true⟩
  | .status code _ => .failure (httpFailure service code)

/-- The comparison of an existing run with the trace. -/
def compareRun (trace : SanitizedTrace) (body : Document) : Except Raised Unit :=
  match (body.lookup "extra").getD (.obj []) with
  | .obj extra =>
    match (extra.lookup "metadata").getD (.obj []) with
    | .obj metadata =>
      if metadata.lookup "payload_digest" = some (.str trace.payloadDigest) then .ok ()
      else .error (.failure ⟨"langsmith_identity_conflict", false⟩)
    | _ => .error .attributeError
  | _ => .error (.failure ⟨"langsmith_reconcile_invalid", false⟩)

def verifyExisting (trace : SanitizedTrace) (span : SanitizedSpan) (fate : Fate) (server : Server) :
    Except Raised Unit × Server :=
  match fate.request (Server.read · span.remoteId) server with
  | (.error failure, server) => (.error (failure.raised "langsmith_reconcile"), server)
  | (.ok none, server) => (.error (.failure (httpFailure "langsmith_reconcile" 404)), server)
  | (.ok (some body), server) => (compareRun trace body, server)

/-- The requests for a span, with the fates of both. -/
def postRun (trace : SanitizedTrace) (span : SanitizedSpan) (body : Document) (fates : Fate × Fate)
    (server : Server) : Except Raised Unit × Server :=
  match fates.1.request (Server.post · span.remoteId body) server with
  | (.error failure, server) => (.error (failure.raised "langsmith"), server)
  | (.ok status, server) =>
    if status = 409 then verifyExisting trace span fates.2 server else (.ok (), server)

/-- The loop over the spans.  The body of a span is written before its requests. -/
def postRuns (trace : SanitizedTrace) (bodyOf : SanitizedSpan → Except ExporterError Document) :
    List SanitizedSpan → (ℕ → Fate × Fate) → Server → Except Raised Unit × Server
  | [], _, server => (.ok (), server)
  | span :: spans, fates, server =>
    match bodyOf span with
    | .error error => (.error (.exporter error), server)
    | .ok body =>
      match postRun trace span body (fates 0) server with
      | (.error raised, server) => (.error raised, server)
      | (.ok _, server) => postRuns trace bodyOf spans (fun n => fates (n + 1)) server

/-- What an attempt returns. -/
structure Receipt where
  sink : String
  traceRef : String
  remoteTraceId : String
  spanCount : ℕ

/-- The orders and the root, which are computed before the loop. -/
def preparation (trace : SanitizedTrace) : Except ExporterError (Orders × SanitizedSpan) := do
  let orders ← langsmithOrder trace
  let root ← rootOf trace
  return (orders, root)

def exportRuns (project : String) (trace : SanitizedTrace) (fates : ℕ → Fate × Fate) (server : Server) :
    Except Raised Receipt × Server :=
  match preparation trace with
  | .error error => (.error (.exporter error), server)
  | .ok (orders, root) =>
    match postRuns trace (langsmithBody project trace orders root) trace.spans fates server with
    | (.error raised, server) => (.error raised, server)
    | (.ok _, server) =>
      (.ok ⟨"langsmith", trace.traceRef, root.remoteId, trace.spans.length⟩, server)

/-- One attempt after the other. -/
def step (project : String) (trace : SanitizedTrace) (server : Server) (fates : ℕ → Fate × Fate) :
    Option Server :=
  some (exportRuns project trace fates server).2

/-- The body of a span in the runs of a trace. -/
def runBody (project : String) (trace : SanitizedTrace) (span : SanitizedSpan) :
    Except ExporterError Document := do
  let (orders, root) ← preparation trace
  langsmithBody project trace orders root span

/-! ### Exceptions -/

/-- The exception for a run of another trace under an identifier of this one. -/
def identityConflict : ExportFailure := ⟨"langsmith_identity_conflict", false⟩

/-- No conflict is raised. -/
def Raised.Harmless : Raised → Prop
  | .failure f => f.code ≠ identityConflict.code
  | _ => True

theorem httpFailure_harmless {service : String} (status : ℕ)
    (h : ¬(service ++ "_http_").toList <+: identityConflict.code.toList) :
    (Raised.failure (httpFailure service status)).Harmless := by
  intro hcode
  refine h ?_
  rw [← hcode]
  change _ <+: (service ++ "_http_" ++ toString status).toList
  rw [String.toList_append (s := service ++ "_http_")]
  exact List.prefix_append _ _

theorem Failure.raised_harmless {service : String} (failure : Failure)
    (h : ¬(service ++ "_http_").toList <+: identityConflict.code.toList) :
    (failure.raised service).Harmless := by
  cases failure with
  | timeout => exact (by decide : "langsmith_timeout" ≠ identityConflict.code)
  | transport => exact (by decide : "langsmith_transport" ≠ identityConflict.code)
  | status code failed => exact httpFailure_harmless code h

/-! ### One request -/

/-- A run that the server holds stays. -/
def Extends (server server' : Server) : Prop :=
  ∀ id body, server.lookup id = some body → server'.lookup id = some body

theorem Extends.trans {a b c : Server} (hab : Extends a b) (hbc : Extends b c) : Extends a c :=
  fun id body h => hbc id body (hab id body h)

theorem extends_post (server : Server) (id : String) (body : Document) :
    Extends server (server.post id body).2 := by
  intro other found hfound
  rw [Server.post]
  cases hid : server.lookup id with
  | none =>
    have hne : other ≠ id := by
      rintro rfl
      rw [hid] at hfound
      cases hfound
    exact (AList.lookup_insert_ne hne).trans hfound
  | some _ => exact hfound

theorem lookup_post (server : Server) (id : String) (body : Document) :
    (server.post id body).2.lookup id = some ((server.lookup id).getD body) := by
  rw [Server.post]
  cases hid : server.lookup id with
  | none => exact AList.lookup_insert server
  | some found => exact hid

theorem lookup_post_of_ne (server : Server) {id other : String} (h : other ≠ id) (body : Document) :
    (server.post id body).2.lookup other = server.lookup other := by
  rw [Server.post]
  cases server.lookup id with
  | none => exact AList.lookup_insert_ne h
  | some found => rfl

theorem request_server {α : Type} (effect : Server → α × Server) (server : Server) (fate : Fate) :
    (fate.request effect server).2 = server ∨ (fate.request effect server).2 = (effect server).2 := by
  cases fate with
  | answered => exact .inr rfl
  | failedBefore failure => exact .inl rfl
  | failedAfter failure => exact .inr rfl

theorem request_eq_ok {α : Type} {effect : Server → α × Server} {server server' : Server} {fate : Fate}
    {a : α} (h : fate.request effect server = (.ok a, server')) : effect server = (a, server') := by
  cases fate with
  | answered =>
    cases h
    rfl
  | failedBefore failure => cases h
  | failedAfter failure => cases h

/-! ### The requests for a span -/

section Attempts

variable {trace : SanitizedTrace} {bodyOf : SanitizedSpan → Except ExporterError Document}

/-- The server holds nothing for the spans but their own bodies, and the rest of what it held. -/
structure Agrees (trace : SanitizedTrace) (bodyOf : SanitizedSpan → Except ExporterError Document)
    (start server : Server) : Prop where
  own : ∀ span ∈ trace.spans, ∀ body, server.lookup span.remoteId = some body → bodyOf span = .ok body
  others : ∀ id, id ∉ trace.spans.map SanitizedSpan.remoteId → server.lookup id = start.lookup id

/-- The spans have different runs, and no attribute hides the digest of the trace. -/
structure Exportable (trace : SanitizedTrace) : Prop where
  nodup : (trace.spans.map SanitizedSpan.remoteId).Nodup
  plain : ∀ span ∈ trace.spans, span.attributes.entries.lookup "payload_digest" = none

variable {span : SanitizedSpan}

theorem Agrees.post (hexport : Exportable trace) {start server : Server}
    (h : Agrees trace bodyOf start server) (hspan : span ∈ trace.spans) {body : Document}
    (hbody : bodyOf span = .ok body) :
    Agrees trace bodyOf start (server.post span.remoteId body).2 := by
  refine ⟨?_, ?_⟩
  · intro other hother found hfound
    by_cases hid : other.remoteId = span.remoteId
    · cases List.inj_on_of_nodup_map hexport.nodup hother hspan hid
      rw [lookup_post] at hfound
      cases hlookup : server.lookup span.remoteId with
      | none =>
        rw [hlookup] at hfound
        cases hfound
        exact hbody
      | some kept =>
        rw [hlookup] at hfound
        cases hfound
        exact h.own span hspan kept hlookup
    · rw [lookup_post_of_ne server hid] at hfound
      exact h.own other hother found hfound
  · intro id hid
    have hne : id ≠ span.remoteId := fun heq => hid (heq ▸ List.mem_map_of_mem hspan)
    rw [lookup_post_of_ne server hne, h.others id hid]

theorem lookup_map_value {α β : Type} (f : α → β) (entries : List (String × α)) (key : String) :
    (entries.map fun e => (e.1, f e.2)).lookup key = (entries.lookup key).map f := by
  induction entries with
  | nil => rfl
  | cons e entries ih =>
    rw [List.map_cons, List.lookup_cons, List.lookup_cons, ih]
    cases key == e.1 with
    | true => rfl
    | false => rfl

/-- The bodies carry the digest of the trace, so that comparing them with it succeeds. -/
def Carried (trace : SanitizedTrace) (bodyOf : SanitizedSpan → Except ExporterError Document) : Prop :=
  ∀ span ∈ trace.spans, ∀ body, bodyOf span = .ok body → compareRun trace body = .ok ()

theorem carried_langsmithBody (hexport : Exportable trace) (project : String) (orders : Orders)
    (root : SanitizedSpan) : Carried trace (langsmithBody project trace orders root) := by
  intro span hspan body hbody
  have hplain : (span.attributes.entries.map fun e => (e.1, e.2.json)).lookup "payload_digest" = none := by
    rw [lookup_map_value, hexport.plain span hspan, Option.map_none]
  have hmetadata : (metadata trace span).lookup "payload_digest" = some (.str trace.payloadDigest) := by
    simp [metadata, merge, List.lookup_cons, hplain]
  have hextra : body.lookup "extra" = some (.obj [("metadata", .obj (metadata trace span))]) := by
    rw [langsmithBody] at hbody
    obtain ⟨parent, -, hbody⟩ := bind_eq_ok.1 hbody
    split at hbody
    · cases hbody
    · cases hbody
      cases parent with
      | none => rfl
      | some p => rfl
  rw [compareRun, hextra]
  exact if_pos hmetadata

/-- What the requests for a span do to a server that agrees with the trace. -/
structure Posted (trace : SanitizedTrace) (bodyOf : SanitizedSpan → Except ExporterError Document)
    (start server : Server) (spans : List SanitizedSpan) {α : Type}
    (result : Except Raised α × Server) : Prop where
  agrees : Agrees trace bodyOf start result.2
  extends_ : Extends server result.2
  harmless : ∀ raised, result.1 = .error raised → raised.Harmless
  stored : ∀ a, result.1 = .ok a → ∀ span ∈ spans, ∃ body, bodyOf span = .ok body ∧
    result.2.lookup span.remoteId = some body

theorem verifyExisting_spec (hcarried : Carried trace bodyOf) {start server : Server}
    (h : Agrees trace bodyOf start server) (hspan : span ∈ trace.spans) (fate : Fate) :
    (verifyExisting trace span fate server).2 = server ∧
      ∀ raised, (verifyExisting trace span fate server).1 = .error raised → raised.Harmless := by
  have hserver : (fate.request (Server.read · span.remoteId) server).2 = server :=
    (request_server _ server fate).elim id id
  rw [verifyExisting]
  cases hrequest : fate.request (Server.read · span.remoteId) server with
  | mk answer server' =>
    rw [hrequest] at hserver
    obtain rfl : server' = server := hserver
    match answer with
    | .error failure =>
      refine ⟨rfl, fun raised hraised => ?_⟩
      cases hraised
      exact failure.raised_harmless (by decide)
    | .ok none =>
      refine ⟨rfl, fun raised hraised => ?_⟩
      cases hraised
      exact httpFailure_harmless 404 (by decide)
    | .ok (some body) =>
      -- what the server holds for the span is its body
      have hread : server'.lookup span.remoteId = some body :=
        congrArg Prod.fst (request_eq_ok hrequest)
      refine ⟨rfl, fun raised hraised => ?_⟩
      dsimp only at hraised
      rw [hcarried span hspan body (h.own span hspan body hread)] at hraised
      cases hraised

theorem postRun_spec (hexport : Exportable trace) (hcarried : Carried trace bodyOf)
    {start server : Server} (h : Agrees trace bodyOf start server) (hspan : span ∈ trace.spans)
    {body : Document} (hbody : bodyOf span = .ok body) (fates : Fate × Fate) :
    Posted trace bodyOf start server [span] (postRun trace span body fates server) := by
  let posted := (server.post span.remoteId body).2
  have hposted : Agrees trace bodyOf start posted := h.post hexport hspan hbody
  have hextends : Extends server posted := extends_post server span.remoteId body
  have hstored : ∃ found, bodyOf span = .ok found ∧ posted.lookup span.remoteId = some found :=
    ⟨_, hposted.own span hspan _ (lookup_post ..), lookup_post ..⟩
  rw [postRun]
  cases hrequest : fates.1.request (Server.post · span.remoteId body) server with
  | mk answer server' =>
    cases answer with
    | error failure =>
      have hserver := request_server (Server.post · span.remoteId body) server fates.1
      rw [hrequest] at hserver
      refine ⟨?_, ?_, ?_, ?_⟩
      · rcases hserver with rfl | rfl
        · exact h
        · exact hposted
      · rcases hserver with rfl | rfl
        · exact fun _ _ hfound => hfound
        · exact hextends
      · intro raised hraised
        cases hraised
        exact failure.raised_harmless (by decide)
      · intro a ha
        cases ha
    | ok status =>
      obtain rfl : posted = server' := congrArg Prod.snd (request_eq_ok hrequest)
      dsimp only
      split
      · obtain ⟨hserver, hharmless⟩ := verifyExisting_spec hcarried hposted hspan fates.2
        refine ⟨by rwa [hserver], by rwa [hserver], hharmless, ?_⟩
        intro _ _ other hother
        obtain rfl := List.mem_singleton.1 hother
        rwa [hserver]
      · refine ⟨hposted, hextends, fun _ hraised => (by cases hraised), ?_⟩
        intro _ _ other hother
        obtain rfl := List.mem_singleton.1 hother
        exact hstored

theorem postRuns_spec (hexport : Exportable trace) (hcarried : Carried trace bodyOf)
    {spans : List SanitizedSpan} (hspans : spans ⊆ trace.spans) (fates : ℕ → Fate × Fate)
    {start server : Server} (h : Agrees trace bodyOf start server) :
    Posted trace bodyOf start server spans (postRuns trace bodyOf spans fates server) := by
  induction spans generalizing fates server with
  | nil =>
    refine ⟨h, fun _ _ hfound => hfound, fun _ hraised => (by cases hraised), ?_⟩
    exact fun _ _ _ hnone => absurd hnone List.not_mem_nil
  | cons span spans ih =>
    obtain ⟨hspan, hspans⟩ := List.cons_subset.1 hspans
    rw [postRuns]
    cases hbody : bodyOf span with
    | error error =>
      refine ⟨h, fun _ _ hfound => hfound, fun raised hraised => ?_, fun _ ha => (by cases ha)⟩
      cases hraised
      trivial
    | ok body =>
      have hfirst := postRun_spec hexport hcarried h hspan hbody (fates 0)
      dsimp only
      cases hrun : postRun trace span body (fates 0) server with
      | mk answer server' =>
        rw [hrun] at hfirst
        cases answer with
        | error raised =>
          refine ⟨hfirst.agrees, hfirst.extends_, fun other hother => ?_,
            fun _ ha => (by cases ha)⟩
          cases hother
          exact hfirst.harmless raised rfl
        | ok _ =>
          have hrest := ih hspans (fun n => fates (n + 1)) hfirst.agrees
          refine ⟨hrest.agrees, hfirst.extends_.trans hrest.extends_, hrest.harmless, ?_⟩
          intro a ha other hother
          rcases List.mem_cons.1 hother with rfl | hother
          · obtain ⟨found, hfound, hlookup⟩ :=
              hfirst.stored () rfl other (List.mem_singleton_self other)
            exact ⟨found, hfound, hrest.extends_ _ _ hlookup⟩
          · exact hrest.stored a ha other hother

end Attempts

/-! ### Attempts -/

variable {trace : SanitizedTrace} {start server : Server}

theorem runBody_of_prepared {orders : Orders} {root : SanitizedSpan}
    (h : preparation trace = .ok (orders, root)) (project : String) :
    runBody project trace = langsmithBody project trace orders root := by
  funext span
  rw [runBody, h]
  rfl

/-- **What an attempt does to a server that agrees with the trace**, however its requests fail. -/
theorem exportRuns_spec (hexport : Exportable trace) (project : String) (fates : ℕ → Fate × Fate)
    (h : Agrees trace (runBody project trace) start server) :
    Posted trace (runBody project trace) start server trace.spans
      (exportRuns project trace fates server) := by
  rw [exportRuns]
  cases hprepared : preparation trace with
  | error error =>
    refine ⟨h, fun _ _ hfound => hfound, fun raised hraised => ?_, fun _ ha => (by cases ha)⟩
    cases hraised
    trivial
  | ok prepared =>
    obtain ⟨orders, root⟩ := prepared
    rw [runBody_of_prepared hprepared] at h ⊢
    have hloop := postRuns_spec hexport (carried_langsmithBody hexport project orders root)
      (List.Subset.refl _) fates h
    dsimp only
    cases hrun : postRuns trace (langsmithBody project trace orders root) trace.spans fates server with
    | mk answer server' =>
      rw [hrun] at hloop
      cases answer with
      | error raised =>
        refine ⟨hloop.agrees, hloop.extends_, fun other hother => ?_, fun _ ha => (by cases ha)⟩
        cases hother
        exact hloop.harmless raised rfl
      | ok _ =>
        refine ⟨hloop.agrees, hloop.extends_, fun _ hraised => (by cases hraised), ?_⟩
        intro _ _
        exact hloop.stored () rfl

theorem agrees_reachable (hexport : Exportable trace) {project : String}
    (hnew : ∀ span ∈ trace.spans, start.lookup span.remoteId = none)
    (hs : Reachable (step project trace) start server) :
    Agrees trace (runBody project trace) start server := by
  refine hs.invariant ?_ ?_
  · refine ⟨fun span hspan body hbody => ?_, fun _ _ => rfl⟩
    rw [hnew span hspan] at hbody
    cases hbody
  · intro a fates b ha _ hstep
    obtain rfl := Option.some.inj hstep
    exact (exportRuns_spec hexport project fates ha).agrees

theorem perm_runs (hexport : Exportable trace)
    (h : ∀ span ∈ trace.spans, ∃ body, server.lookup span.remoteId = some body) :
    (server.keys.filter fun id => id ∈ trace.spans.map SanitizedSpan.remoteId).Perm
      (trace.spans.map SanitizedSpan.remoteId) := by
  refine (List.perm_ext_iff_of_nodup (server.nodupKeys.filter _) hexport.nodup).2 fun id => ?_
  rw [List.mem_filter, decide_eq_true_eq]
  refine ⟨fun hid => hid.2, fun hid => ⟨?_, hid⟩⟩
  obtain ⟨span, hspan, rfl⟩ := List.mem_map.1 hid
  obtain ⟨body, hbody⟩ := h span hspan
  refine AList.mem_keys.2 (AList.lookup_isSome.1 ?_)
  rw [hbody, Option.isSome_some]

theorem remoteIds_of_carries {s : TraceSanitizer} {spans : List SpanRecord} {outs : List SanitizedSpan}
    (h : List.Forall₂ s.Carries spans outs) :
    outs.map SanitizedSpan.remoteId = spans.map fun span => s.uuid "langsmith-span" span.spanId := by
  induction h with
  | nil => rfl
  | cons hfirst _ ih => rw [List.map_cons, List.map_cons, hfirst.remoteId, ih]

theorem exportable_of_sanitized {s : TraceSanitizer} {envelope : TraceEnvelope}
    (h : s.Sanitized envelope trace)
    (hremote : Set.InjOn (fun id => s.uuid "langsmith-span" id) (spanIds envelope)) :
    Exportable trace := by
  refine ⟨?_, ?_⟩
  · rw [remoteIds_of_carries h.carries]
    have hsorted : ((sortSpans envelope.spans).map SpanRecord.spanId).Nodup :=
      ((List.perm_insertionSort SpanRecord.le envelope.spans).map _).nodup_iff.2 h.graph.nodup
    refine List.Nodup.map_on ?_ hsorted.of_map
    intro a ha b hb heq
    exact List.inj_on_of_nodup_map hsorted ha hb
      (hremote (List.mem_map_of_mem (mem_sortSpans.1 ha)) (List.mem_map_of_mem (mem_sortSpans.1 hb)) heq)
  · -- the name is not among those that are allowed
    intro out hout
    obtain ⟨span, hspan, hcarries⟩ := exists_span h hout
    rw [List.lookup_eq_none_iff]
    intro e he
    have hmem := hcarries.attributes.mem_iff.1 (List.mem_map_of_mem he)
    have hallowed : e.1 ∈ allowedAttributes := ((h.fits span hspan).2 _ hmem).1
    have hdigest : "payload_digest" ∉ allowedAttributes := by decide
    rw [bne_iff_ne]
    intro heq
    exact hdigest (heq ▸ hallowed)

/-- What an attempt leaves: a result that is no conflict, the runs of the trace with their own bodies
beside all others, and after a return exactly one run for each span. -/
structure Reconciled (project : String) (trace : SanitizedTrace) (start : Server)
    (result : Except Raised Receipt × Server) : Prop where
  harmless : ∀ f, result.1 = .error (.failure f) → f.code ≠ "langsmith_identity_conflict"
  bodies : ∀ span ∈ trace.spans, ∀ body, result.2.lookup span.remoteId = some body →
    runBody project trace span = .ok body
  others : ∀ id, id ∉ trace.spans.map SanitizedSpan.remoteId → result.2.lookup id = start.lookup id
  complete : ∀ receipt, result.1 = .ok receipt →
    (result.2.keys.filter fun id => id ∈ trace.spans.map SanitizedSpan.remoteId).Perm
      (trace.spans.map SanitizedSpan.remoteId) ∧
    ∀ span ∈ trace.spans, ∃ body, runBody project trace span = .ok body ∧
      result.2.lookup span.remoteId = some body

/-- **However the attempts before it failed**, an attempt raises no conflict, and one that returns leaves
exactly one run for each span, which holds the body of the span. -/
theorem reconciled (s : TraceSanitizer) (project : String) {envelope : TraceEnvelope}
    (h : s.sanitize envelope = .ok trace)
    (hremote : Set.InjOn (fun id => s.uuid "langsmith-span" id) (spanIds envelope))
    (hnew : ∀ span ∈ trace.spans, start.lookup span.remoteId = none)
    (hs : Reachable (step project trace) start server) (fates : ℕ → Fate × Fate) :
    Reconciled project trace start (exportRuns project trace fates server) := by
  have hexport := exportable_of_sanitized (s.sanitized_of_eq_ok h) hremote
  have hrun := exportRuns_spec hexport project fates (agrees_reachable hexport hnew hs)
  refine ⟨fun f hf => hrun.harmless _ hf, hrun.agrees.own, hrun.agrees.others, fun receipt hreturns => ?_⟩
  have hstored := hrun.stored receipt hreturns
  refine ⟨perm_runs hexport fun span hspan => ?_, hstored⟩
  obtain ⟨body, -, hbody⟩ := hstored span hspan
  exact ⟨body, hbody⟩

/-- Two attempts with the trace of the sample: of the first, the second request fails after its effect. -/
theorem reconciled_sample :
    ∃ trace server, sampleSanitizer.sanitize sampleEnvelope = .ok trace ∧
      (∀ span ∈ trace.spans, (∅ : Server).lookup span.remoteId = none) ∧
      Reachable (step "faultwitness" trace) ∅ server ∧
      Reconciled "faultwitness" trace ∅
        (exportRuns "faultwitness" trace (fun _ => (.answered, .answered)) server) := by
  obtain ⟨trace, htrace⟩ := exists_sanitize_sample
  let fates : ℕ → Fate × Fate := fun n => (if n = 1 then .failedAfter .timeout else .answered, .answered)
  have hnew : ∀ span ∈ trace.spans, (∅ : Server).lookup span.remoteId = none := fun _ _ => rfl
  have hs : Reachable (step "faultwitness" trace) ∅ (exportRuns "faultwitness" trace fates ∅).2 :=
    .single trivial rfl
  exact ⟨trace, _, htrace, hnew, hs, reconciled sampleSanitizer "faultwitness" htrace
    (injOn_sample (by decide +kernel)) hnew hs fun _ => (.answered, .answered)⟩

end RunReconciliation
