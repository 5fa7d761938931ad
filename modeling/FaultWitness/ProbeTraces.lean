/-
**Traces of the gate probe.**

The trace probe submits a small trace to the trace service, and the canary probe submits one with a
token in it.  The identifiers of the trace are made from the environment fingerprint, so that a
rerun under one fingerprint submits the same trace again; but its contents also name the producer
and the instant of the request.  The buffer keeps one payload for a trace reference: a rerun by
another producer, or at another instant, is refused as a conflict.

Main definitions:
* `ProbeTraces.traceEnvelope` - the trace of a probe request
* `ProbeTraces.Compatible` - two requests that either have identifiers of their own or agree in
  everything the trace is made of
* `ProbeTraces.step` - the trace service, with the probe among those who submit traces

Main results:
* `ProbeTraces.envelope_eq_iff` - equal identifiers go with equal traces exactly for compatible
  requests
* `ProbeTraces.probes_agree` - with it, a run whose probe requests are compatible has no conflict
* `ProbeTraces.conflict_otherProducer` - a rerun by another producer conflicts
-/
import FaultWitness.Runs
import FaultWitness.SealedTraces
import FaultWitness.PostgresBuffer

set_option autoImplicit false

namespace ProbeTraces

open Timestamps Traces Sanitizer PostgresBuffer

/-! ### Requests and documents -/

structure ProbeRequest where
  producerSha : String
  environmentFingerprint : String
  producerTimestamp : String
deriving DecidableEq

/-- An instant as it is read from a text. -/
inductive Parsed
  | invalid
  /-- There is no offset. -/
  | naive
  /-- The instant in UTC, unless UTC has no year for it. -/
  | aware (utc : Option DateTime)
deriving DecidableEq

/-- What the probe uses of the language's library. -/
structure Libraries where
  sha256 : List UInt8 → List UInt8
  fromisoformat : String → Parsed

inductive Failure
  | blocked (reason : String)
  | overflow
deriving DecidableEq

structure SpanDocument where
  spanId : String
  parentSpanId : Option String
  name : String
  stage : String
  startedAt : String
  endedAt : String
  status : String
  attributes : List (String × Scalar)
deriving DecidableEq

structure EnvelopeDocument where
  traceId : String
  tenantId : String
  correlationId : String
  causationId : Option String
  incidentId : Option String
  taskId : Option String
  actionId : Option String
  contractsVersion : String
  candidateSha : String
  spans : List SpanDocument
  emittedAt : String
deriving DecidableEq

/-! ### The trace of a request -/

def alphabet : List Char := "0123456789ABCDEFGHJKMNPQRSTVWXYZ".toList

/-- The number whose big-endian bytes these are. -/
def ofBytes (bytes : List UInt8) : ℕ := bytes.foldl (fun n b => 256 * n + b.toNat) 0

def crockfordLoop : ℕ → ℕ → List Char → List Char
  | 0, _, result => result
  | rounds + 1, number, result =>
    crockfordLoop rounds (number / 32) (alphabet.getD (number % 32) '0' :: result)

def crockford (value : List UInt8) : String := String.ofList (crockfordLoop 26 (ofBytes value) [])

/-- The bytes of a text. -/
def encode (text : String) : List UInt8 := text.toList.flatMap String.utf8EncodeChar

/-- The text with `+00:00` in place of every `Z`. -/
def replaceZulu (text : String) : String :=
  String.ofList (text.toList.flatMap fun c => if c = 'Z' then "+00:00".toList else [c])

/-- The text that the identifiers of a trace are made from. -/
def seedText (q : ProbeRequest) (canary : Option String) : String :=
  q.environmentFingerprint ++
    (match canary with
      | none => "trace"
      | some token => if token = "" then "trace" else token)

/-- The names of the spans with their stages. -/
def stages : List (String × String) :=
  [("api.g02-probe", "api"), ("state.persistence", "state_transition"),
    ("state.outbox", "state_transition"), ("checkpoint.g02-probe", "checkpoint"),
    ("model.stub", "model"), ("export.g02-probe", "export")]

section
variable (lib : Libraries)

def spanId (seed : List UInt8) (index : ℕ) : String :=
  "span_" ++ crockford ((lib.sha256 (seed ++ [index.toUInt8])).take 17)

def attributes (canary : Option String) (index : ℕ) : List (String × Scalar) :=
  ("sequence", .int index) ::
    match canary with
    | some token => if index = 0 then [("outcome", .str token)] else []
    | none => []

/-- The document for a seed, with the instant of the request as its text. -/
def document (seed : List UInt8) (base producerSha : String) (canary : Option String) :
    EnvelopeDocument :=
  let suffix := crockford (seed.take 17)
  { traceId := "trace_" ++ suffix
    tenantId := "ten_" ++ suffix
    correlationId := "corr_" ++ suffix
    causationId := none
    incidentId := none
    taskId := none
    actionId := none
    contractsVersion := "1.1.0"
    candidateSha := producerSha
    spans := stages.zipIdx.map fun ((name, stage), index) =>
      { spanId := spanId lib seed index
        parentSpanId := if index = 0 then none else some (spanId lib seed 0)
        name
        stage
        startedAt := base
        endedAt := base
        status := "ok"
        attributes := attributes canary index }
    emittedAt := base }

def traceEnvelope (q : ProbeRequest) (canary : Option String) :
    Except Failure EnvelopeDocument :=
  match lib.fromisoformat (replaceZulu q.producerTimestamp) with
  | .invalid => throw (.blocked "producer_timestamp_invalid")
  | .naive => throw (.blocked "producer_timestamp_invalid")
  | .aware none => throw .overflow
  | .aware (some instant) =>
    let seed := lib.sha256 (encode (seedText q canary))
    pure (document lib seed instant.isoformat q.producerSha canary)

/-! ### Equal identifiers -/

/-- A request with the token that goes into its trace. -/
structure Call where
  request : ProbeRequest
  canary : Option String := none
deriving DecidableEq

def Call.seed (c : Call) : List UInt8 := lib.sha256 (encode (seedText c.request c.canary))

def Call.traceId (c : Call) : String := "trace_" ++ crockford ((c.seed lib).take 17)

def Call.envelope (c : Call) : Except Failure EnvelopeDocument :=
  traceEnvelope lib c.request c.canary

/-- The instant of the request. -/
def Call.instant (c : Call) : Option DateTime :=
  match lib.fromisoformat (replaceZulu c.request.producerTimestamp) with
  | .aware instant => instant
  | _ => none

/-- The part of the hashes that the identifiers show does not collide on the two seeds. -/
def HashApart (a b : Call) : Prop :=
  a.traceId lib = b.traceId lib → seedText a.request a.canary = seedText b.request b.canary

/-- The calls have identifiers of their own, or they agree in what the trace is made of. -/
def Compatible (a b : Call) : Prop :=
  seedText a.request a.canary = seedText b.request b.canary →
    a.request.producerSha = b.request.producerSha ∧ a.instant lib = b.instant lib ∧
      a.canary = b.canary

variable {e : EnvelopeDocument}

theorem envelope_eq_ok {c : Call} :
    c.envelope lib = .ok e ↔ ∃ instant, c.instant lib = some instant ∧
      e = document lib (c.seed lib) instant.isoformat c.request.producerSha c.canary := by
  unfold Call.envelope traceEnvelope Call.instant Call.seed
  cases lib.fromisoformat (replaceZulu c.request.producerTimestamp) with
  | invalid => simp [throw, throwThe, MonadExceptOf.throw]
  | naive => simp [throw, throwThe, MonadExceptOf.throw]
  | aware utc =>
    cases utc with
    | none => simp [throw, throwThe, MonadExceptOf.throw]
    | some instant => simp [pure, Except.pure, eq_comm]

theorem traceId_of_envelope {c : Call} (h : c.envelope lib = .ok e) :
    e.traceId = c.traceId lib := by
  obtain ⟨instant, -, rfl⟩ := (envelope_eq_ok lib).1 h
  rfl

theorem canary_of_document {seed seed' : List UInt8} {base base' sha sha' : String}
    {canary canary' : Option String}
    (h : document lib seed base sha canary = document lib seed' base' sha' canary') :
    canary = canary' := by
  have hspans := congrArg EnvelopeDocument.spans h
  have hattributes : attributes canary 0 = attributes canary' 0 := by
    have hhead := congrArg (fun spans : List SpanDocument =>
      (spans.head?).map SpanDocument.attributes) hspans
    simpa [document, stages, List.zipIdx] using hhead
  cases canary <;> cases canary' <;> simp_all [attributes]

/-- **Equal identifiers go with equal traces exactly for compatible requests.** -/
theorem envelope_eq_iff {a b : Call} {e' : EnvelopeDocument} (ha : a.envelope lib = .ok e)
    (hb : b.envelope lib = .ok e') (hhash : HashApart lib a b) :
    (e.traceId = e'.traceId → e = e') ↔ Compatible lib a b := by
  obtain ⟨instant, hinstant, rfl⟩ := (envelope_eq_ok lib).1 ha
  obtain ⟨instant', hinstant', rfl⟩ := (envelope_eq_ok lib).1 hb
  constructor
  · intro h hseed
    have hsame : a.seed lib = b.seed lib := by rw [Call.seed, Call.seed, hseed]
    have heq := h (by simp only [document, hsame])
    refine ⟨?_, ?_, canary_of_document lib heq⟩
    · exact congrArg EnvelopeDocument.candidateSha heq
    · have hbase : instant.isoformat = instant'.isoformat :=
        congrArg EnvelopeDocument.emittedAt heq
      rw [hinstant, hinstant', isoformat_injective hbase]
  · intro hcompatible hid
    have hseed := hhash hid
    obtain ⟨hsha, htime, hcanary⟩ := hcompatible hseed
    rw [hinstant, hinstant', Option.some_inj] at htime
    have hsame : a.seed lib = b.seed lib := by rw [Call.seed, Call.seed, hseed]
    rw [hsame, htime, hsha, hcanary]

end

/-! ### The trace service -/

def readStage (stage : String) : Option TraceStage :=
  [TraceStage.api, .stateTransition, .checkpoint, .model, .tool, .policy, .action, .export].find?
    fun s => s.value = stage

def readStatus (status : String) : Option SpanStatus :=
  [SpanStatus.ok, .error, .unset].find? fun s => s.value = status

def readSpan (span : SpanDocument) : Option SpanRecord := do
  let stage ← readStage span.stage
  let startedAt ← fromisoformat span.startedAt
  let endedAt ← fromisoformat span.endedAt
  let status ← readStatus span.status
  let attributes := span.attributes.map fun entry => (entry.1, AttributeValue.scalar entry.2)
  if h : (attributes.map Prod.fst).Nodup then
    some { spanId := span.spanId, parentSpanId := span.parentSpanId, name := span.name, stage,
           startedAt, endedAt := some endedAt, status, attributes, attributes_nodup := h }
  else none

/-- The envelope of a submitted document. -/
def parseTraceEnvelope (doc : EnvelopeDocument) : Option TraceEnvelope := do
  let spans ← doc.spans.mapM readSpan
  let emittedAt ← fromisoformat doc.emittedAt
  if h : spans ≠ [] then
    some { traceId := doc.traceId, tenantId := doc.tenantId, correlationId := doc.correlationId,
           causationId := doc.causationId, incidentId := doc.incidentId, taskId := doc.taskId,
           actionId := doc.actionId, contractsVersion := doc.contractsVersion,
           candidateSha := doc.candidateSha, spans, emittedAt, spans_ne := h }
  else none

variable {doc : EnvelopeDocument}

theorem parseTraceEnvelope_eq_some {spans : List SpanRecord} {emittedAt : DateTime}
    (hspans : doc.spans.mapM readSpan = some spans)
    (hemittedAt : fromisoformat doc.emittedAt = some emittedAt) (hne : spans ≠ []) :
    ∃ envelope, parseTraceEnvelope doc = some envelope ∧ envelope.spans = spans ∧
      envelope.candidateSha = doc.candidateSha := by
  simp only [parseTraceEnvelope, hspans, hemittedAt, Option.bind_eq_bind, Option.bind_some,
    dif_pos hne]
  exact ⟨_, rfl, rfl, rfl⟩

inductive Rejected
  | unreadable
  | sanitizer (err : SanitizerError)
  | buffer (err : BufferError)
deriving DecidableEq

variable (s : TraceSanitizer) (cfg : Config)

def sanitized (doc : EnvelopeDocument) : Except Rejected SanitizedTrace :=
  match parseTraceEnvelope doc with
  | none => throw .unreadable
  | some envelope => (s.sanitize envelope).mapError .sanitizer

/-- The trace of a document goes into the buffer; `true` says it is new there. -/
def ingest (m : Moment) (t : Tables) (doc : EnvelopeDocument) : Except Rejected Bool × Tables :=
  match sanitized s doc with
  | .error err => (.error err, t)
  | .ok trace => ((enqueue cfg m t trace).1.mapError .buffer, (enqueue cfg m t trace).2)

/-- The service as the probe sees it: its tables, the calls that reached it, the references that
others have used, and the answers to the calls. -/
structure Service where
  tables : Tables
  asked : List Call := []
  others : List String
  answers : List (Except Rejected Bool) := []

inductive Event
  | probe (m : Moment) (call : Call)
  /-- A trace that does not come from the probe. -/
  | submit (m : Moment) (trace : SanitizedTrace)
  | claim (m : Moment) (sink : DeliverySink) (limit leaseSeconds : ℤ)
  | acknowledge (m : Moment) (ref : String) (sink : DeliverySink)
  | retry (m : Moment) (ref : String) (sink : DeliverySink) (code : String)

variable (lib : Libraries)

def step (svc : Service) : Event → Option Service
  | .probe m call =>
    match call.envelope lib with
    | .error _ => some svc
    | .ok doc =>
      some { svc with
        tables := (ingest s cfg m svc.tables doc).2
        asked := call :: svc.asked
        answers := (ingest s cfg m svc.tables doc).1 :: svc.answers }
  | .submit m trace =>
    some { svc with
      tables := (enqueue cfg m svc.tables trace).2
      others := trace.traceRef :: svc.others }
  | .claim m sink limit leaseSeconds =>
    (claim cfg m svc.tables sink limit leaseSeconds).map fun r => { svc with tables := r.2 }
  | .acknowledge m ref sink => some { svc with tables := (acknowledge m svc.tables ref sink).2 }
  | .retry m ref sink code => some { svc with tables := (retry m svc.tables ref sink code).2 }

/-- A service that the probe has not asked yet. -/
def start (t : Tables) : Service := { tables := t, others := t.payloads.keys }

/-! ### What the tables keep -/

variable {t : Tables} {m : Moment} {trace : SanitizedTrace}

theorem payloads_update {t' : Tables} {keys : List Key} {f : DeliveryRow → DeliveryRow}
    (h : update t keys f = .ok t') : t'.payloads = t.payloads := by
  induction keys generalizing t with
  | nil =>
    cases h
    rfl
  | cons key keys ih =>
    rw [update, List.foldlM_cons] at h
    obtain ⟨mid, hkey, hrest⟩ := Python.bind_eq_ok.1 h
    rw [ih hrest]
    split at hkey
    · cases hkey
      rfl
    · split at hkey
      · cases hkey
        rfl
      · cases hkey

theorem payloads_claim {t' : Tables} {sink : DeliverySink} {limit leaseSeconds : ℤ}
    {result : Except BufferError (List Delivery)}
    (h : claim cfg m t sink limit leaseSeconds = some (result, t')) : t'.payloads = t.payloads := by
  unfold claim at h
  split at h
  · cases h
    rfl
  · split at h
    · split at h
      · cases h
        rfl
      · rename_i hupdate
        cases h
        exact payloads_update hupdate
    · cases h

theorem payloads_acknowledge (m : Moment) (t : Tables) (ref : String) (sink : DeliverySink) :
    (acknowledge m t ref sink).2.payloads = t.payloads := by
  unfold acknowledge
  split
  · rfl
  · split
    · rfl
    · rename_i hupdate
      exact payloads_update hupdate

theorem payloads_retry (m : Moment) (t : Tables) (ref : String) (sink : DeliverySink)
    (code : String) : (retry m t ref sink code).2.payloads = t.payloads := by
  unfold retry
  split
  · rfl
  · split
    · rfl
    · split
      · rfl
      · split
        · rfl
        · rename_i hupdate
          exact payloads_update hupdate

/-- A trace that goes in leaves the other payloads, and its own has its digest. -/
theorem payloads_enqueue {ref : String} {row : PayloadRow}
    (h : (enqueue cfg m t trace).2.payloads.lookup ref = some row) :
    t.payloads.lookup ref = some row ∨
      ref = trace.traceRef ∧ row.payload.payloadDigest = trace.payloadDigest := by
  unfold enqueue at h
  split at h
  · exact .inl h
  · rename_i payload hseal
    split at h
    · split at h
      · exact .inl h
      · exact .inl h
    · split at h
      · exact .inl h
      · dsimp only at h
        split at h
        · by_cases href : ref = trace.traceRef
          · subst href
            right
            dsimp only at h
            rw [AList.lookup_insert] at h
            cases h
            obtain ⟨_, _, -, -, -, rfl⟩ := seal_eq_ok hseal
            exact ⟨rfl, rfl⟩
          · left
            dsimp only at h
            rwa [AList.lookup_insert_ne href] at h
        · exact .inl h

theorem enqueue_known {payload : EncryptedPayload} {prior : PayloadRow}
    (hseal : cfg.cipher.seal trace m.nonce = .ok payload)
    (hprior : t.payloads.lookup trace.traceRef = some prior) :
    enqueue cfg m t trace =
      (if prior.payload.payloadDigest ≠ trace.payloadDigest then .error .payloadConflict
        else .ok false, t) := by
  rw [enqueue, hseal]
  simp only [hprior]
  split <;> rfl

theorem prior_of_conflict (h : (enqueue cfg m t trace).1 = .error .payloadConflict) :
    ∃ prior, t.payloads.lookup trace.traceRef = some prior ∧
      prior.payload.payloadDigest ≠ trace.payloadDigest := by
  unfold enqueue at h
  split at h
  · cases h
  · split at h
    · rename_i prior hprior
      split at h
      · rename_i hne
        exact ⟨prior, hprior, hne⟩
      · cases h
    · split at h
      · cases h
      · dsimp only at h
        split at h <;> cases h

/-! ### Runs -/

/-- The references of the traces of two calls collide only if their identifiers are the same. -/
def RefApart (a b : Call) : Prop :=
  s.ref "trace" (a.traceId lib) 24 = s.ref "trace" (b.traceId lib) 24 →
    a.traceId lib = b.traceId lib

/-- What a run of compatible requests asks for: of an earlier call the identifiers are apart, as
far as hashes go, and the contents compatible; and nobody else uses the reference. -/
def Allowed (svc : Service) : Event → Prop
  | .probe _ call =>
    (∀ earlier ∈ svc.asked, Compatible lib call earlier ∧ HashApart lib call earlier ∧
      RefApart s lib call earlier) ∧
    s.ref "trace" (call.traceId lib) 24 ∉ svc.others
  | _ => True

/-- Every payload is another's, or it is the trace of a call. -/
def Recorded (svc : Service) : Prop :=
  ∀ ref row, svc.tables.payloads.lookup ref = some row →
    ref ∈ svc.others ∨ ∃ call ∈ svc.asked, ∃ doc trace, call.envelope lib = .ok doc ∧
      sanitized s doc = .ok trace ∧ trace.traceRef = ref ∧
      trace.payloadDigest = row.payload.payloadDigest

variable {svc : Service}

theorem recorded_of_payloads (h : Recorded s lib svc) (ht : t.payloads = svc.tables.payloads) :
    Recorded s lib { svc with tables := t } := by
  intro ref row hrow
  exact h ref row (ht ▸ hrow)

theorem recorded_start (t : Tables) : Recorded s lib (start t) := by
  intro ref row hrow
  left
  have hsome : (t.payloads.lookup ref).isSome = true := by
    rw [show t.payloads.lookup ref = some row from hrow]
    rfl
  exact AList.lookup_isSome.1 hsome

/-- The reference of a trace is made from its identifier alone. -/
theorem traceRef_of_sanitized {call : Call} (hdoc : call.envelope lib = .ok doc)
    (h : sanitized s doc = .ok trace) : trace.traceRef = s.ref "trace" (call.traceId lib) 24 := by
  rw [← traceId_of_envelope lib hdoc]
  unfold sanitized at h
  split at h
  · cases h
  · rename_i envelope hparse
    have hid : envelope.traceId = doc.traceId := by
      unfold parseTraceEnvelope at hparse
      obtain ⟨spans, -, hparse⟩ := Option.bind_eq_some_iff.1 hparse
      obtain ⟨emittedAt, -, hparse⟩ := Option.bind_eq_some_iff.1 hparse
      split at hparse
      · cases hparse
        rfl
      · cases hparse
    cases hsanitize : s.sanitize envelope with
    | error err =>
      rw [hsanitize] at h
      cases h
    | ok t =>
      rw [hsanitize] at h
      cases h
      obtain ⟨root, -, htrace⟩ := (s.sanitized_of_eq_ok hsanitize).trace
      rw [htrace, ← hid]
      rfl

theorem recorded_step {svc' : Service} {ev : Event} (h : Recorded s lib svc)
    (hstep : step s cfg lib svc ev = some svc') : Recorded s lib svc' := by
  cases ev with
  | probe m call =>
    rw [step] at hstep
    split at hstep
    · cases hstep
      exact h
    · rename_i doc hdoc
      cases hstep
      intro ref row hrow
      have hold : ∀ {r : PayloadRow}, svc.tables.payloads.lookup ref = some r →
          ref ∈ svc.others ∨ ∃ c ∈ call :: svc.asked, ∃ doc trace, c.envelope lib = .ok doc ∧
            sanitized s doc = .ok trace ∧ trace.traceRef = ref ∧
            trace.payloadDigest = r.payload.payloadDigest := by
        intro r hr
        rcases h ref r hr with hother | ⟨c, hc, hrest⟩
        · exact .inl hother
        · exact .inr ⟨c, List.mem_cons_of_mem _ hc, hrest⟩
      cases hsanitized : sanitized s doc with
      | error err =>
        simp only [ingest, hsanitized] at hrow
        exact hold hrow
      | ok trace =>
        simp only [ingest, hsanitized] at hrow
        rcases payloads_enqueue cfg hrow with hrow | ⟨rfl, hdigest⟩
        · exact hold hrow
        · exact .inr ⟨call, List.mem_cons_self, doc, trace, hdoc, hsanitized, rfl, hdigest.symm⟩
  | submit m trace =>
    cases hstep
    intro ref row hrow
    rcases payloads_enqueue cfg hrow with hrow | ⟨rfl, -⟩
    · rcases h ref row hrow with hother | hcall
      · exact .inl (List.mem_cons_of_mem _ hother)
      · exact .inr hcall
    · exact .inl List.mem_cons_self
  | claim m sink limit leaseSeconds =>
    obtain ⟨⟨result, t⟩, hclaim, rfl⟩ := Option.map_eq_some_iff.1 hstep
    exact recorded_of_payloads s lib h (payloads_claim cfg hclaim)
  | acknowledge m ref sink =>
    cases hstep
    exact recorded_of_payloads s lib h (payloads_acknowledge m svc.tables ref sink)
  | retry m ref sink code =>
    cases hstep
    exact recorded_of_payloads s lib h (payloads_retry m svc.tables ref sink code)

/-- A compatible call does not conflict with what the tables keep. -/
theorem ingest_ne_conflict {call : Call} (h : Recorded s lib svc)
    (hallowed : Allowed s lib svc (.probe m call)) (hdoc : call.envelope lib = .ok doc) :
    (ingest s cfg m svc.tables doc).1 ≠ .error (.buffer .payloadConflict) := by
  obtain ⟨hearlier, hother⟩ := hallowed
  intro hconflict
  unfold ingest at hconflict
  cases hsanitized : sanitized s doc with
  | error err =>
    rw [hsanitized] at hconflict
    unfold sanitized at hsanitized
    split at hsanitized
    · cases hsanitized
      cases hconflict
    · rename_i envelope _
      cases hs : s.sanitize envelope with
      | error err' =>
        rw [hs] at hsanitized
        cases hsanitized
        cases hconflict
      | ok t =>
        rw [hs] at hsanitized
        cases hsanitized
  | ok trace =>
    rw [hsanitized] at hconflict
    have henqueue : (enqueue cfg m svc.tables trace).1 = .error .payloadConflict := by
      dsimp only at hconflict
      cases hresult : (enqueue cfg m svc.tables trace).1 with
      | error err =>
        rw [hresult] at hconflict
        cases hconflict
        rfl
      | ok created =>
        rw [hresult] at hconflict
        cases hconflict
    obtain ⟨prior, hprior, hne⟩ := prior_of_conflict cfg henqueue
    have href := traceRef_of_sanitized s lib hdoc hsanitized
    rcases h _ _ hprior with hmem | ⟨earlier, hmem, doc', trace', hdoc', hsanitized', href', hdigest⟩
    · exact hother (href ▸ hmem)
    · -- the payload is that of an earlier call with the same identifier, so with the same trace
      obtain ⟨hcompatible, hhash, hapart⟩ := hearlier earlier hmem
      have hid : call.traceId lib = earlier.traceId lib := by
        refine hapart ?_
        rw [← href, ← href', traceRef_of_sanitized s lib hdoc' hsanitized']
      have heq : doc = doc' := by
        refine (envelope_eq_iff lib hdoc hdoc' hhash).2 hcompatible ?_
        rw [traceId_of_envelope lib hdoc, traceId_of_envelope lib hdoc', hid]
      subst heq
      rw [hsanitized] at hsanitized'
      cases hsanitized'
      exact hne hdigest.symm

theorem answers_step {svc' : Service} {ev : Event} (h : Recorded s lib svc)
    (hanswers : .error (.buffer .payloadConflict) ∉ svc.answers) (hallowed : Allowed s lib svc ev)
    (hstep : step s cfg lib svc ev = some svc') :
    .error (.buffer .payloadConflict) ∉ svc'.answers := by
  cases ev with
  | probe m call =>
    rw [step] at hstep
    split at hstep
    · cases hstep
      exact hanswers
    · rename_i doc hdoc
      cases hstep
      intro hmem
      rcases List.mem_cons.1 hmem with heq | hmem
      · exact ingest_ne_conflict s cfg lib h hallowed hdoc heq.symm
      · exact hanswers hmem
  | submit m trace =>
    cases hstep
    exact hanswers
  | claim m sink limit leaseSeconds =>
    obtain ⟨r, -, rfl⟩ := Option.map_eq_some_iff.1 hstep
    exact hanswers
  | acknowledge m ref sink =>
    cases hstep
    exact hanswers
  | retry m ref sink code =>
    cases hstep
    exact hanswers

/-- **Probe traces.**  Equal identifiers go with equal traces exactly for compatible requests; and
while the requests of a run are compatible, no call is answered with a conflict. -/
theorem probes_agree :
    (∀ a b e e', a.envelope lib = .ok e → b.envelope lib = .ok e' → HashApart lib a b →
      ((e.traceId = e'.traceId → e = e') ↔ Compatible lib a b)) ∧
    ∀ t svc, Runs.Reaches (step s cfg lib) (Allowed s lib) (start t) svc →
      .error (.buffer .payloadConflict) ∉ svc.answers := by
  refine ⟨?_, ?_⟩
  · intro a b e e' ha hb hhash
    exact envelope_eq_iff lib ha hb hhash
  · intro t svc hrun
    have hboth : Recorded s lib svc ∧ .error (.buffer .payloadConflict) ∉ svc.answers := by
      refine hrun.invariant (I := fun svc => Recorded s lib svc ∧
        .error (.buffer .payloadConflict) ∉ svc.answers)
        ⟨recorded_start s lib t, List.not_mem_nil⟩ ?_
      intro svc ev svc' ⟨hrecorded, hanswers⟩ hallowed hstep
      exact ⟨recorded_step s cfg lib hrecorded hstep,
        answers_step s cfg lib hrecorded hanswers hallowed hstep⟩
    exact hboth.2

/-! ### A sample -/

/-- The last bytes, in place of the hash. -/
def sampleLib : Libraries where
  sha256 bytes := (0 :: bytes.reverse ++ List.replicate 32 0).take 32
  fromisoformat text :=
    match fromisoformat text with
    | some instant => .aware (some instant)
    | none => .invalid

def sampleRequest (producerSha : String) : ProbeRequest where
  producerSha
  environmentFingerprint := "2222222222222222222222222222222222222222222222222222222222222222"
  producerTimestamp := "2026-01-01T00:00:00Z"

def firstProducer : String := "0000000000000000000000000000000000000000"

def otherProducer : String := "3333333333333333333333333333333333333333"

def otherDigest : String := "60303ae22b998861bce3b28f33eec1be758a213c86c93c076dbe9f558c11c752"

/-- A hash that tells the documents of the first producer from all others. -/
@[irreducible] def sampleHash (content : String) : String :=
  match Python.Json.loads content with
  | some (.obj fields) =>
    if Traces.text fields "candidate_sha" = .ok firstProducer then sampleDigest else otherDigest
  | _ => otherDigest

def tellingSanitizer : TraceSanitizer := ⟨sampleHmac, sampleHash, sampleUnicode⟩

def tellingConfig : Config :=
  ⟨⟨"key-a", sampleAead, sampleHash⟩, 10000, PostgresBuffer.sampleConfig.positive⟩

def sampleMoment : Moment := { now := 0, nonce := sampleNonce }

def sampleCall (producerSha : String) : Call := ⟨sampleRequest producerSha, none⟩

def sampleDoc (producerSha : String) : EnvelopeDocument :=
  document sampleLib ((sampleCall firstProducer).seed sampleLib) sampleInstant.isoformat producerSha
    none

theorem envelope_sampleCall (producerSha : String) :
    (sampleCall producerSha).envelope sampleLib = .ok (sampleDoc producerSha) := by
  have hinstant : (sampleCall producerSha).instant sampleLib = some sampleInstant := by
    have hread : fromisoformat (replaceZulu "2026-01-01T00:00:00Z") = some sampleInstant := by
      decide +kernel
    simp only [Call.instant, sampleCall, sampleRequest, sampleLib, hread]
  exact (envelope_eq_ok sampleLib).2 ⟨sampleInstant, hinstant, rfl⟩

/-- The spans of the sample: their ordinals, names and stages. -/
def sampleRows : List (ℕ × String × TraceStage) :=
  [(0, "api.g02-probe", .api), (1, "state.persistence", .stateTransition),
    (2, "state.outbox", .stateTransition), (3, "checkpoint.g02-probe", .checkpoint),
    (4, "model.stub", .model), (5, "export.g02-probe", .export)]

def sampleSpanId (ordinal : ℕ) : String :=
  "span_0" ++ toString ordinal ++ "68S34CHJ68S34CHJ68S34CHJ"

def sampleSpan (row : ℕ × String × TraceStage) : SpanRecord where
  spanId := sampleSpanId row.1
  parentSpanId := if row.1 = 0 then none else some (sampleSpanId 0)
  name := row.2.1
  stage := row.2.2
  startedAt := sampleInstant
  endedAt := some sampleInstant
  status := .ok
  attributes := [("sequence", .scalar (.int row.1))]
  attributes_nodup := List.nodup_singleton _

def sampleSpans : List SpanRecord := sampleRows.map sampleSpan

/-- The document of a span of the sample. -/
def sampleSpanDocument (row : ℕ × String × TraceStage) : SpanDocument where
  spanId := sampleSpanId row.1
  parentSpanId := if row.1 = 0 then none else some (sampleSpanId 0)
  name := row.2.1
  stage := row.2.2.value
  startedAt := sampleInstant.isoformat
  endedAt := sampleInstant.isoformat
  status := "ok"
  attributes := [("sequence", .int row.1)]

theorem readSpan_sampleSpanDocument (row : ℕ × String × TraceStage) :
    readSpan (sampleSpanDocument row) = some (sampleSpan row) := by
  have hstage : readStage row.2.2.value = some row.2.2 := by
    cases row.2.2 <;> rfl
  have hstatus : readStatus "ok" = some .ok := rfl
  have hinstant := fromisoformat_isoformat sampleInstant
  simp [readSpan, sampleSpanDocument, sampleSpan, hstage, hstatus, hinstant]

theorem readSpan_sampleDoc : (sampleDoc firstProducer).spans.mapM readSpan = some sampleSpans := by
  have hspans : (sampleDoc firstProducer).spans = sampleRows.map sampleSpanDocument := by
    decide +kernel
  have hread : ∀ rows : List (ℕ × String × TraceStage),
      (rows.map sampleSpanDocument).mapM readSpan = some (rows.map sampleSpan) := by
    intro rows
    induction rows with
    | nil => rfl
    | cons row rows ih =>
      rw [List.map_cons, List.mapM_cons, readSpan_sampleSpanDocument, ih]
      rfl
  rw [hspans]
  exact hread sampleRows

theorem validateGraph_sampleSpans : validateGraph sampleSpans = .ok () := rfl

theorem fits_sampleSpans : ∀ span ∈ sampleSpans, tellingSanitizer.FitsSpan span := by
  have hall : sampleSpans.all (fun span =>
      (tellingSanitizer.sanitizeName span.name span.stage).isOk &&
        span.attributes.all fun entry => (tellingSanitizer.sanitizeAttribute entry).isOk) = true := by
    decide +kernel
  intro span hspan
  have hspan := List.all_eq_true.1 hall span hspan
  rw [Bool.and_eq_true, List.all_eq_true] at hspan
  refine ⟨?_, ?_⟩
  · cases hname : tellingSanitizer.sanitizeName span.name span.stage with
    | error err => simp [hname, Except.isOk, Except.toBool] at hspan
    | ok name => exact (tellingSanitizer.sanitizeName_eq_ok.1 hname).1
  · intro entry hentry
    have hok := hspan.2 entry hentry
    cases hresult : tellingSanitizer.sanitizeAttribute entry with
    | error err => simp [hresult, Except.isOk, Except.toBool] at hok
    | ok result => exact (tellingSanitizer.sanitizeAttribute_eq_ok.1 hresult).1

/-- What is known of the trace of a sample. -/
structure SampleTrace (producerSha : String) (t : SanitizedTrace) : Prop where
  sanitized : sanitized tellingSanitizer (sampleDoc producerSha) = .ok t
  ref : t.traceRef = tellingSanitizer.ref "trace" ((sampleCall firstProducer).traceId sampleLib) 24
  candidateSha : t.candidateSha = producerSha
  sound : (t.document false).sound = true
  digest : sampleHash (t.document false).dumps = t.payloadDigest

theorem exists_sampleTrace (producerSha : String) : ∃ t, SampleTrace producerSha t := by
  have hspans : (sampleDoc producerSha).spans.mapM readSpan = some sampleSpans := readSpan_sampleDoc
  have hne : sampleSpans ≠ [] := List.cons_ne_nil _ _
  obtain ⟨envelope, hparse, henvelope, hsha⟩ :=
    parseTraceEnvelope_eq_some hspans (fromisoformat_isoformat sampleInstant) hne
  obtain ⟨t, ht⟩ : ∃ t, tellingSanitizer.sanitize envelope = .ok t :=
    tellingSanitizer.exists_sanitize (henvelope ▸ validateGraph_sampleSpans)
      (henvelope ▸ fits_sampleSpans)
  have hs := tellingSanitizer.sanitized_of_eq_ok ht
  obtain ⟨root, -, htrace⟩ := hs.trace
  have hsanitized : sanitized tellingSanitizer (sampleDoc producerSha) = .ok t := by
    simp only [sanitized, hparse, ht]
    rfl
  have href := traceRef_of_sanitized tellingSanitizer sampleLib (envelope_sampleCall producerSha)
    hsanitized
  refine ⟨t, hsanitized, href, ?_, hs.sound, hs.digest⟩
  rw [htrace]
  exact hsha

variable {producerSha : String}

theorem SampleTrace.payloadDigest {t : SanitizedTrace} (h : SampleTrace producerSha t) :
    t.payloadDigest = if producerSha = firstProducer then sampleDigest else otherDigest := by
  have hload := Python.Json.loads_dumps h.sound
  have hkeys : ((t.content).map Prod.fst).Nodup := by
    simp [SanitizedTrace.content]
  have hcontent : t.document false = .obj t.content := by
    simp [SanitizedTrace.document]
  have htext : Traces.text (sortedFields t.content) "candidate_sha" = .ok producerSha := by
    refine text_sorted hkeys ?_
    rw [← h.candidateSha]
    simp [SanitizedTrace.content]
  have hsorted : (t.document false).sortKeys = .obj (sortedFields t.content) := by
    rw [hcontent]
    rfl
  rw [← h.digest]
  simp only [sampleHash, hload, hsorted, htext, Except.ok.injEq]

theorem SampleTrace.seal {t : SanitizedTrace} (h : SampleTrace producerSha t) :
    ∃ payload, tellingConfig.cipher.seal t sampleMoment.nonce = .ok payload := by
  have hhash : tellingConfig.cipher.sha256 = sampleHash := rfl
  have hdigest : tellingConfig.cipher.sha256 (t.document false).dumps = t.payloadDigest := by
    rw [hhash]
    exact h.digest
  exact exists_seal h.sound hdigest sampleMoment.nonce

/-- A trace of the sample goes in as what its digest makes of it. -/
theorem ingest_again {row : PayloadRow} (hrow : t.payloads.lookup
      (tellingSanitizer.ref "trace" ((sampleCall firstProducer).traceId sampleLib) 24) = some row)
    (hdigest : row.payload.payloadDigest = sampleDigest) :
    ingest tellingSanitizer tellingConfig sampleMoment t (sampleDoc producerSha) =
      (if producerSha = firstProducer then .ok false else .error (.buffer .payloadConflict), t) := by
  obtain ⟨trace, h⟩ := exists_sampleTrace producerSha
  obtain ⟨payload, hseal⟩ := h.seal
  have hne : sampleDigest ≠ otherDigest := by decide
  rw [← h.ref] at hrow
  rw [ingest, h.sanitized]
  dsimp only
  rw [enqueue_known tellingConfig hseal hrow]
  by_cases hfirst : producerSha = firstProducer
  · have hsame : row.payload.payloadDigest = trace.payloadDigest := by
      rw [hdigest, h.payloadDigest, if_pos hfirst]
    rw [if_neg (not_not.2 hsame), if_pos hfirst]
    rfl
  · have hother : row.payload.payloadDigest ≠ trace.payloadDigest := by
      rw [hdigest, h.payloadDigest, if_neg hfirst]
      exact hne
    rw [if_pos hother, if_neg hfirst]
    rfl

theorem ingest_first : ∃ t row,
    ingest tellingSanitizer tellingConfig sampleMoment {} (sampleDoc firstProducer) =
      (.ok true, t) ∧
    t.payloads.lookup
      (tellingSanitizer.ref "trace" ((sampleCall firstProducer).traceId sampleLib) 24) =
        some row ∧ row.payload.payloadDigest = sampleDigest := by
  obtain ⟨trace, h⟩ := exists_sampleTrace firstProducer
  obtain ⟨payload, hseal⟩ := h.seal
  obtain ⟨_, _, -, -, -, hpayload⟩ := seal_eq_ok hseal
  have hok : PayloadRow.Ok trace.traceRef ⟨payload, trace.candidateSha⟩ := by
    have hhex : IsHex 24
        (tellingSanitizer.ref "trace" ((sampleCall firstProducer).traceId sampleLib) 24) := by
      decide +kernel
    have hsha : IsHex 40 firstProducer := by decide
    have hdigest : IsHex 64 sampleDigest := by decide
    rw [hpayload, h.ref, h.candidateSha]
    refine ⟨hhex, ?_, rfl, rfl, hsha⟩
    rw [h.payloadDigest, if_pos rfl]
    exact hdigest
  have hnone : ({} : Tables).payloads.lookup trace.traceRef = none := rfl
  obtain ⟨t, henqueue, hpayloads, -⟩ := enqueue_new hseal hnone (by decide) hok
  refine ⟨t, ⟨payload, trace.candidateSha⟩, ?_, ?_, ?_⟩
  · rw [ingest, h.sanitized]
    dsimp only
    rw [henqueue]
    rfl
  · rw [hpayloads, ← h.ref, AList.lookup_insert]
  · rw [hpayload]
    exact h.payloadDigest.trans (if_pos rfl)

theorem run_twice (producerSha : String) : ∃ svc,
    Runs.run (step tellingSanitizer tellingConfig sampleLib) (start {})
      [.probe sampleMoment (sampleCall firstProducer),
        .probe sampleMoment (sampleCall producerSha)] = some svc ∧
    svc.answers = [if producerSha = firstProducer then .ok false
      else .error (.buffer .payloadConflict), .ok true] := by
  obtain ⟨t, row, hfirst, hrow, hdigest⟩ := ingest_first
  have hagain : ingest tellingSanitizer tellingConfig sampleMoment _ (sampleDoc producerSha) = _ :=
    ingest_again hrow hdigest
  simp only [Runs.run, step, envelope_sampleCall, start, hfirst, hagain, Option.bind_some]
  exact ⟨_, rfl, rfl⟩

/-- **A rerun by another producer conflicts.**  The two traces have one identifier and differ. -/
theorem conflict_otherProducer :
    (∃ e e', (sampleCall firstProducer).envelope sampleLib = .ok e ∧
      (sampleCall otherProducer).envelope sampleLib = .ok e' ∧ e.traceId = e'.traceId ∧ e ≠ e') ∧
    ∃ svc, Runs.run (step tellingSanitizer tellingConfig sampleLib) (start {})
        [.probe sampleMoment (sampleCall firstProducer),
          .probe sampleMoment (sampleCall otherProducer)] = some svc ∧
      svc.answers = [.error (.buffer .payloadConflict), .ok true] := by
  have hne : ¬ otherProducer = firstProducer := by decide
  refine ⟨⟨_, _, envelope_sampleCall _, envelope_sampleCall _, rfl, ?_⟩, ?_⟩
  · intro heq
    exact hne (congrArg EnvelopeDocument.candidateSha heq).symm
  · obtain ⟨svc, hrun, hanswers⟩ := run_twice otherProducer
    rw [if_neg hne] at hanswers
    exact ⟨svc, hrun, hanswers⟩

/-- The same producer submits its trace twice: the second time it is there already. -/
theorem probes_agree_rerun :
    ∃ svc, Runs.run (step tellingSanitizer tellingConfig sampleLib) (start {})
        [.probe sampleMoment (sampleCall firstProducer),
          .probe sampleMoment (sampleCall firstProducer)] = some svc ∧
      svc.answers = [.ok false, .ok true] ∧
      .error (.buffer .payloadConflict) ∉ svc.answers := by
  obtain ⟨svc, hrun, hanswers⟩ := run_twice firstProducer
  rw [if_pos rfl] at hanswers
  refine ⟨svc, hrun, hanswers, ?_⟩
  refine (probes_agree tellingSanitizer tellingConfig sampleLib).2 {} svc ?_
  obtain ⟨mid, hfirst, hrest⟩ := Option.bind_eq_some_iff.1 hrun
  obtain ⟨last, hsecond, hlast⟩ := Option.bind_eq_some_iff.1 hrest
  cases hlast
  have hstart : Allowed tellingSanitizer sampleLib (start {})
      (.probe sampleMoment (sampleCall firstProducer)) :=
    ⟨fun earlier h => absurd h List.not_mem_nil, List.not_mem_nil⟩
  have hmid : Allowed tellingSanitizer sampleLib mid
      (.probe sampleMoment (sampleCall firstProducer)) := by
    simp only [step, envelope_sampleCall, Option.some.injEq] at hfirst
    subst hfirst
    refine ⟨?_, List.not_mem_nil⟩
    intro earlier h
    rw [List.mem_singleton.1 h]
    exact ⟨fun _ => ⟨rfl, rfl, rfl⟩, fun _ => rfl, fun _ => rfl⟩
  exact (Runs.Reaches.refl.tail hstart hfirst).tail hmid hsecond

end ProbeTraces
