/-
**Sanitized traces and their sealing.**

A sanitized trace is a record of texts with a tuple of spans; it is stored only in encrypted form.
`PayloadCipher.seal` prints the trace as canonical JSON, checks that the digest it carries is the
digest of its content, and encrypts the text with the reference and the digest as associated data;
`PayloadCipher.open` goes the other way and checks the identity of what it has read.

The authenticated encryption is a parameter with the one law that decryption inverts encryption, and
so is the hash.  A text stands for its UTF-8 bytes.  Attributes are kept with their keys in order,
which is the order in which the sanitizer leaves them.

Main definitions:

* `Traces.SanitizedTrace`, `Traces.SanitizedTrace.document` — a trace and its document;
* `Traces.fromDocument` — reading a document;
* `Traces.PayloadCipher.seal`, `Traces.PayloadCipher.open`.

Main results:

* `Traces.open_seal` — **opening what was sealed gives the trace back**.
-/

import FaultWitness.JsonCodec

set_option autoImplicit false

namespace Traces

open Python

/-! ### Traces -/

/-- A value of an attribute. -/
inductive Scalar
  | str (s : String)
  | int (n : ℤ)
  | float (text : { s : String // isFloatText s = true })
  | bool (b : Bool)
deriving DecidableEq

/-- The attributes of a span, in the order of their keys. -/
structure Attributes where
  entries : List (String × Scalar)
  sorted : (entries.map Prod.fst).Pairwise (· < ·)
deriving DecidableEq

structure SanitizedSpan where
  spanRef : String
  remoteId : String
  otlpSpanId : String
  parentSpanRef : Option String
  name : String
  stage : String
  startedAt : String
  endedAt : String
  status : String
  attributes : Attributes
deriving DecidableEq

structure SanitizedTrace where
  schemaVersion : String
  traceRef : String
  remoteTraceId : String
  otlpTraceId : String
  tenantRef : String
  correlationRef : String
  causationRef : Option String
  incidentRef : Option String
  taskRef : Option String
  actionRef : Option String
  contractsVersion : String
  candidateSha : String
  emittedAt : String
  spans : List SanitizedSpan
  payloadDigest : String
deriving DecidableEq

def Scalar.json : Scalar → Json
  | .str s => .str s
  | .int n => .int n
  | .float text => .float text.1
  | .bool b => .bool b

def Attributes.json (a : Attributes) : Json := .obj (a.entries.map fun e => (e.1, e.2.json))

def SanitizedSpan.json (s : SanitizedSpan) : Json :=
  .obj [("span_ref", .str s.spanRef), ("remote_id", .str s.remoteId),
    ("otlp_span_id", .str s.otlpSpanId), ("parent_span_ref", Json.optStr s.parentSpanRef),
    ("name", .str s.name), ("stage", .str s.stage), ("started_at", .str s.startedAt),
    ("ended_at", .str s.endedAt), ("status", .str s.status), ("attributes", s.attributes.json)]

/-- The fields of a trace apart from its digest. -/
def SanitizedTrace.content (t : SanitizedTrace) : List (String × Json) :=
  [("schema_version", .str t.schemaVersion), ("trace_ref", .str t.traceRef),
    ("remote_trace_id", .str t.remoteTraceId), ("otlp_trace_id", .str t.otlpTraceId),
    ("tenant_ref", .str t.tenantRef), ("correlation_ref", .str t.correlationRef),
    ("causation_ref", Json.optStr t.causationRef), ("incident_ref", Json.optStr t.incidentRef),
    ("task_ref", Json.optStr t.taskRef), ("action_ref", Json.optStr t.actionRef),
    ("contracts_version", .str t.contractsVersion), ("candidate_sha", .str t.candidateSha),
    ("emitted_at", .str t.emittedAt), ("spans", .arr (t.spans.map SanitizedSpan.json))]

def SanitizedTrace.document (t : SanitizedTrace) (includeDigest : Bool) : Json :=
  .obj (t.content ++ if includeDigest then [("payload_digest", .str t.payloadDigest)] else [])

/-! ### Errors -/

/-- The exceptions of the cipher. -/
inductive CipherError
  /-- An integer with more digits than `str` prints. -/
  | unprintable
  | digestDrifted
  | unknownFormat
  | invalidTag
  /-- What was decrypted is no JSON document of a trace. -/
  | malformed
  | identityMismatch
deriving DecidableEq

/-- The exceptions of the trace buffers. -/
inductive BufferError
  | cipher (err : CipherError)
  | payloadConflict
  | bufferFull
  /-- A delivery that does not exist. -/
  | keyError
  | badErrorCode
  /-- A delivery row that violates a `CHECK` of its table. -/
  | checkViolation
  /-- A payload row that violates a `CHECK` of its table. -/
  | payloadViolation
  | integerOutOfRange
  | negativeLimit
  /-- An argument that the driver cannot encode. -/
  | dataError
deriving DecidableEq

/-- Printing a document; `json.dumps` refuses integers that are too long. -/
def canonical (document : Json) : Except CipherError String :=
  if document.sound then .ok document.dumps else .error .unprintable

def SanitizedTrace.canonicalBytes (t : SanitizedTrace) : Except CipherError String :=
  canonical (t.document true)

def SanitizedTrace.contentBytes (t : SanitizedTrace) : Except CipherError String :=
  canonical (t.document false)

/-! ### Reading a document -/

def Scalar.ofJson : Json → Except CipherError Scalar
  | .str s => .ok (.str s)
  | .int n => .ok (.int n)
  | .float text => if h : isFloatText text = true then .ok (.float ⟨text, h⟩) else .error .malformed
  | .bool b => .ok (.bool b)
  | _ => .error .malformed

/-- Applying a reader to every item. -/
def readAll {α β : Type} (read : α → Except CipherError β) : List α → Except CipherError (List β)
  | [] => .ok []
  | item :: items => do
    let value ← read item
    let values ← readAll read items
    return value :: values

def Attributes.ofJson : Json → Except CipherError Attributes
  | .obj fields => do
    let entries ← readAll (fun f : String × Json => do return (f.1, ← Scalar.ofJson f.2)) fields
    let sorted := entries.insertionSort fun a b => a.1 ≤ b.1
    if h : (sorted.map Prod.fst).Pairwise (· < ·) then return ⟨sorted, h⟩ else throw .malformed
  | _ => .error .malformed

/-- The keyword argument under a name. -/
def argument (fields : List (String × Json)) (key : String) : Except CipherError Json :=
  match fields.lookup key with
  | some value => .ok value
  | none => .error .malformed

def text (fields : List (String × Json)) (key : String) : Except CipherError String := do
  match ← argument fields key with
  | .str s => return s
  | _ => throw .malformed

def optionalText (fields : List (String × Json)) (key : String) :
    Except CipherError (Option String) := do
  match ← argument fields key with
  | .str s => return some s
  | .null => return none
  | _ => throw .malformed

/-- Whether every argument is one of those named. -/
def onlyArguments (names : List String) (fields : List (String × Json)) : Except CipherError Unit :=
  if fields.all fun f => names.contains f.1 then .ok () else .error .malformed

def spanNames : List String :=
  ["span_ref", "remote_id", "otlp_span_id", "parent_span_ref", "name", "stage", "started_at",
    "ended_at", "status", "attributes"]

def SanitizedSpan.ofJson : Json → Except CipherError SanitizedSpan
  | .obj fields => do
    onlyArguments spanNames fields
    let spanRef ← text fields "span_ref"
    let remoteId ← text fields "remote_id"
    let otlpSpanId ← text fields "otlp_span_id"
    let parentSpanRef ← optionalText fields "parent_span_ref"
    let name ← text fields "name"
    let stage ← text fields "stage"
    let startedAt ← text fields "started_at"
    let endedAt ← text fields "ended_at"
    let status ← text fields "status"
    let attributes ← Attributes.ofJson (← argument fields "attributes")
    return { spanRef, remoteId, otlpSpanId, parentSpanRef, name, stage, startedAt, endedAt,
             status, attributes }
  | _ => .error .malformed

def traceNames : List String :=
  ["schema_version", "trace_ref", "remote_trace_id", "otlp_trace_id", "tenant_ref",
    "correlation_ref", "causation_ref", "incident_ref", "task_ref", "action_ref",
    "contracts_version", "candidate_sha", "emitted_at", "spans", "payload_digest"]

def readSpans : Json → Except CipherError (List SanitizedSpan)
  | .arr items => readAll SanitizedSpan.ofJson items
  | _ => .error .malformed

/-- The constructor `SanitizedTrace.from_document`. -/
def fromDocument : Json → Except CipherError SanitizedTrace
  | .obj fields => do
    let spans ← readSpans (← argument fields "spans")
    onlyArguments traceNames fields
    let schemaVersion ← text fields "schema_version"
    let traceRef ← text fields "trace_ref"
    let remoteTraceId ← text fields "remote_trace_id"
    let otlpTraceId ← text fields "otlp_trace_id"
    let tenantRef ← text fields "tenant_ref"
    let correlationRef ← text fields "correlation_ref"
    let causationRef ← optionalText fields "causation_ref"
    let incidentRef ← optionalText fields "incident_ref"
    let taskRef ← optionalText fields "task_ref"
    let actionRef ← optionalText fields "action_ref"
    let contractsVersion ← text fields "contracts_version"
    let candidateSha ← text fields "candidate_sha"
    let emittedAt ← text fields "emitted_at"
    let payloadDigest ← text fields "payload_digest"
    return { schemaVersion, traceRef, remoteTraceId, otlpTraceId, tenantRef, correlationRef,
             causationRef, incidentRef, taskRef, actionRef, contractsVersion, candidateSha,
             emittedAt, spans, payloadDigest }
  | _ => .error .malformed

/-! ### The cipher -/

/-- Authenticated encryption with a fixed key. -/
structure AESGCM where
  encrypt : (nonce : List UInt8) → (body aad : String) → List UInt8
  decrypt : (nonce ciphertext : List UInt8) → (aad : String) → Option String
  decrypt_encrypt : ∀ nonce body aad, decrypt nonce (encrypt nonce body aad) aad = some body

structure EncryptedPayload where
  keyId : String
  nonce : List UInt8
  ciphertext : List UInt8
  payloadDigest : String
  formatVersion : ℤ := 1
deriving DecidableEq

/-- A cipher: the name of its key, the encryption under it, and the hash of contents. -/
structure PayloadCipher where
  keyId : String
  cipher : AESGCM
  sha256 : String → String

/-- The associated data of a payload. -/
def aad (traceRef digest : String) : String := "faultwitness-trace:v1:" ++ traceRef ++ ":" ++ digest

def PayloadCipher.seal (c : PayloadCipher) (t : SanitizedTrace) (nonce : List UInt8) :
    Except CipherError EncryptedPayload := do
  let body ← t.canonicalBytes
  let digest := c.sha256 (← t.contentBytes)
  if digest ≠ t.payloadDigest then throw .digestDrifted
  return { keyId := c.keyId, nonce
           ciphertext := c.cipher.encrypt nonce body (aad t.traceRef digest)
           payloadDigest := digest }

def PayloadCipher.open (c : PayloadCipher) (traceRef : String) (payload : EncryptedPayload) :
    Except CipherError SanitizedTrace := do
  if payload.formatVersion ≠ 1 ∨ payload.keyId ≠ c.keyId then throw .unknownFormat
  match c.cipher.decrypt payload.nonce payload.ciphertext (aad traceRef payload.payloadDigest) with
  | none => throw .invalidTag
  | some body =>
    match Json.loads body with
    | none => throw .malformed
    | some document =>
      let t ← fromDocument document
      if t.traceRef ≠ traceRef ∨ t.payloadDigest ≠ payload.payloadDigest then
        throw .identityMismatch
      if c.sha256 (← t.contentBytes) ≠ payload.payloadDigest then throw .identityMismatch
      return t

/-! ### The round trip -/

/-- The sorted object of a document. -/
def sortedFields (fs : List (String × Json)) : List (String × Json) :=
  (Json.sortFields fs).insertionSort fun a b => a.1 ≤ b.1

variable {fs : List (String × Json)}

theorem mem_sortFields {k : String} {j : Json} (h : (k, j) ∈ fs) :
    (k, j.sortKeys) ∈ Json.sortFields fs := by
  induction fs with
  | nil => cases h
  | cons f fs ih =>
    obtain ⟨l, i⟩ := f
    rw [Json.sortFields]
    rcases List.mem_cons.1 h with h | h
    · cases h
      exact List.mem_cons_self
    · exact List.mem_cons_of_mem _ (ih h)

section Lookup

variable {fs : List (String × Json)} (hk : (fs.map Prod.fst).Nodup) {k : String}

include hk

theorem argument_sorted {j : Json} (h : (k, j) ∈ fs) :
    argument (sortedFields fs) k = .ok j.sortKeys := by
  have hperm := List.perm_insertionSort (fun a b : String × Json => a.1 ≤ b.1) (Json.sortFields fs)
  have hnodup : ((sortedFields fs).map Prod.fst).Nodup :=
    (hperm.map Prod.fst).nodup_iff.2 (by rw [keys_sortFields]; exact hk)
  have hlookup := (lookup_eq_some_iff hnodup).2 (hperm.mem_iff.2 (mem_sortFields h))
  rw [argument, hlookup]

theorem text_sorted {s : String} (h : (k, Json.str s) ∈ fs) : text (sortedFields fs) k = .ok s := by
  rw [text, argument_sorted hk h]
  rfl

theorem optionalText_sorted {s : Option String} (h : (k, Json.optStr s) ∈ fs) :
    optionalText (sortedFields fs) k = .ok s := by
  rw [optionalText, argument_sorted hk h]
  cases s <;> rfl

end Lookup

theorem onlyArguments_sorted : onlyArguments (fs.map Prod.fst) (sortedFields fs) = .ok () := by
  have hperm := List.perm_insertionSort (fun a b : String × Json => a.1 ≤ b.1) (Json.sortFields fs)
  rw [onlyArguments, if_pos]
  rw [List.all_eq_true]
  intro f hf
  rw [List.contains_iff_mem, ← keys_sortFields]
  exact List.mem_map_of_mem (hperm.mem_iff.1 hf)

theorem readAll_map {α β : Type} {read : α → Except CipherError β} {print : β → α}
    (h : ∀ b, read (print b) = .ok b) (bs : List β) : readAll read (bs.map print) = .ok bs := by
  induction bs with
  | nil => rfl
  | cons b bs ih =>
    rw [List.map_cons, readAll, h, ih]
    rfl

theorem Scalar.ofJson_json (v : Scalar) : Scalar.ofJson v.json.sortKeys = .ok v := by
  cases v with
  | float text => simp [Scalar.json, Json.sortKeys, Scalar.ofJson, text.2]
  | _ => rfl

theorem sortFields_json (es : List (String × Scalar)) :
    Json.sortFields (es.map fun e => (e.1, e.2.json)) = es.map fun e => (e.1, e.2.json) := by
  induction es with
  | nil => rfl
  | cons e es ih =>
    have hscalar : e.2.json.sortKeys = e.2.json := by cases e.2 <;> rfl
    rw [List.map_cons, Json.sortFields, ih, hscalar]

theorem Attributes.ofJson_json (a : Attributes) : Attributes.ofJson a.json.sortKeys = .ok a := by
  have hle : (a.entries).Pairwise fun x y => x.1 ≤ y.1 :=
    (List.pairwise_map.1 a.sorted).imp fun h => String.lt_asymm h
  have hsort : ((a.entries.map fun e => (e.1, e.2.json)).insertionSort fun x y => x.1 ≤ y.1) =
      a.entries.map fun e => (e.1, e.2.json) := by
    rw [map_sort, hle.insertionSort_eq]
  have hread : readAll (fun f : String × Json => do return (f.1, ← Scalar.ofJson f.2))
      (a.entries.map fun e => (e.1, e.2.json)) = .ok a.entries := by
    refine readAll_map (fun e => ?_) a.entries
    have := Scalar.ofJson_json e.2
    rw [show e.2.json.sortKeys = e.2.json by cases e.2 <;> rfl] at this
    rw [this]
    rfl
  rw [Attributes.json, Json.sortKeys, sortFields_json, hsort, Attributes.ofJson, hread]
  simp only [bind, Except.bind, hle.insertionSort_eq, dif_pos a.sorted]
  rfl

theorem SanitizedSpan.ofJson_json (s : SanitizedSpan) :
    SanitizedSpan.ofJson s.json.sortKeys = .ok s := by
  generalize hfs : [("span_ref", Json.str s.spanRef), ("remote_id", .str s.remoteId),
    ("otlp_span_id", .str s.otlpSpanId), ("parent_span_ref", Json.optStr s.parentSpanRef),
    ("name", .str s.name), ("stage", .str s.stage), ("started_at", .str s.startedAt),
    ("ended_at", .str s.endedAt), ("status", .str s.status),
    ("attributes", s.attributes.json)] = fs
  have hkeys : fs.map Prod.fst = spanNames := by rw [← hfs]; rfl
  have hk : (fs.map Prod.fst).Nodup := by rw [hkeys]; decide
  have honly : onlyArguments spanNames (sortedFields fs) = .ok () := hkeys ▸ onlyArguments_sorted
  have hjson : s.json.sortKeys = .obj (sortedFields fs) := by
    rw [SanitizedSpan.json, hfs, Json.sortKeys]
    rfl
  have hattributes := argument_sorted hk (k := "attributes") (j := s.attributes.json)
    (by rw [← hfs]; simp)
  rw [hjson, SanitizedSpan.ofJson, honly,
    text_sorted hk (k := "span_ref") (s := s.spanRef) (by rw [← hfs]; simp),
    text_sorted hk (k := "remote_id") (s := s.remoteId) (by rw [← hfs]; simp),
    text_sorted hk (k := "otlp_span_id") (s := s.otlpSpanId) (by rw [← hfs]; simp),
    optionalText_sorted hk (k := "parent_span_ref") (s := s.parentSpanRef) (by rw [← hfs]; simp),
    text_sorted hk (k := "name") (s := s.name) (by rw [← hfs]; simp),
    text_sorted hk (k := "stage") (s := s.stage) (by rw [← hfs]; simp),
    text_sorted hk (k := "started_at") (s := s.startedAt) (by rw [← hfs]; simp),
    text_sorted hk (k := "ended_at") (s := s.endedAt) (by rw [← hfs]; simp),
    text_sorted hk (k := "status") (s := s.status) (by rw [← hfs]; simp), hattributes]
  simp only [bind, Except.bind, Attributes.ofJson_json]
  rfl

theorem sortItems_map {α : Type} (f : α → Json) (items : List α) :
    Json.sortItems (items.map f) = items.map fun a => (f a).sortKeys := by
  induction items with
  | nil => rfl
  | cons a items ih => rw [List.map_cons, Json.sortItems, ih, List.map_cons]

/-- **Reading the document of a trace gives the trace.** -/
theorem fromDocument_document (t : SanitizedTrace) :
    fromDocument (t.document true).sortKeys = .ok t := by
  generalize hfs : t.content ++ [("payload_digest", Json.str t.payloadDigest)] = fs
  have hkeys : fs.map Prod.fst = traceNames := by rw [← hfs]; rfl
  have hk : (fs.map Prod.fst).Nodup := by rw [hkeys]; decide
  have honly : onlyArguments traceNames (sortedFields fs) = .ok () := hkeys ▸ onlyArguments_sorted
  have hjson : (t.document true).sortKeys = .obj (sortedFields fs) := by
    rw [SanitizedTrace.document, if_pos rfl, hfs, Json.sortKeys]
    rfl
  have hspans := argument_sorted hk (k := "spans") (j := .arr (t.spans.map SanitizedSpan.json))
    (by rw [← hfs]; simp [SanitizedTrace.content])
  have hread : readSpans (Json.arr (t.spans.map SanitizedSpan.json)).sortKeys = .ok t.spans := by
    rw [Json.sortKeys, sortItems_map, readSpans]
    exact readAll_map SanitizedSpan.ofJson_json t.spans
  have htext : ∀ k s, (k, Json.str s) ∈ fs → text (sortedFields fs) k = .ok s := fun _ _ h =>
    text_sorted hk h
  have hopt : ∀ k s, (k, Json.optStr s) ∈ fs → optionalText (sortedFields fs) k = .ok s :=
    fun _ _ h => optionalText_sorted hk h
  rw [hjson, fromDocument, hspans, honly,
    htext "schema_version" t.schemaVersion (by rw [← hfs]; simp [SanitizedTrace.content]),
    htext "trace_ref" t.traceRef (by rw [← hfs]; simp [SanitizedTrace.content]),
    htext "remote_trace_id" t.remoteTraceId (by rw [← hfs]; simp [SanitizedTrace.content]),
    htext "otlp_trace_id" t.otlpTraceId (by rw [← hfs]; simp [SanitizedTrace.content]),
    htext "tenant_ref" t.tenantRef (by rw [← hfs]; simp [SanitizedTrace.content]),
    htext "correlation_ref" t.correlationRef (by rw [← hfs]; simp [SanitizedTrace.content]),
    hopt "causation_ref" t.causationRef (by rw [← hfs]; simp [SanitizedTrace.content]),
    hopt "incident_ref" t.incidentRef (by rw [← hfs]; simp [SanitizedTrace.content]),
    hopt "task_ref" t.taskRef (by rw [← hfs]; simp [SanitizedTrace.content]),
    hopt "action_ref" t.actionRef (by rw [← hfs]; simp [SanitizedTrace.content]),
    htext "contracts_version" t.contractsVersion (by rw [← hfs]; simp [SanitizedTrace.content]),
    htext "candidate_sha" t.candidateSha (by rw [← hfs]; simp [SanitizedTrace.content]),
    htext "emitted_at" t.emittedAt (by rw [← hfs]; simp [SanitizedTrace.content]),
    htext "payload_digest" t.payloadDigest (by rw [← hfs]; simp)]
  simp only [bind, Except.bind, hread]
  rfl

variable {t : SanitizedTrace} {payload : EncryptedPayload} {c : PayloadCipher} {nonce : List UInt8}

theorem seal_eq_ok (h : c.seal t nonce = .ok payload) :
    ∃ body content, t.canonicalBytes = .ok body ∧ t.contentBytes = .ok content ∧
      c.sha256 content = t.payloadDigest ∧
      payload = ⟨c.keyId, nonce, c.cipher.encrypt nonce body (aad t.traceRef t.payloadDigest),
        t.payloadDigest, 1⟩ := by
  unfold PayloadCipher.seal at h
  obtain ⟨body, hbody, h⟩ := bind_eq_ok.1 h
  obtain ⟨content, hcontent, h⟩ := bind_eq_ok.1 h
  dsimp only at h
  split at h
  · cases h
  · rename_i hdigest
    rw [not_not] at hdigest
    refine ⟨body, content, hbody, hcontent, hdigest, ?_⟩
    cases h
    rw [hdigest]

theorem seal_cases (c : PayloadCipher) (t : SanitizedTrace) (nonce nonce' : List UInt8) :
    (∃ err, c.seal t nonce = .error err ∧ c.seal t nonce' = .error err) ∨
      ∃ payload payload', c.seal t nonce = .ok payload ∧ c.seal t nonce' = .ok payload' := by
  unfold PayloadCipher.seal
  cases t.canonicalBytes with
  | error err => exact .inl ⟨err, rfl, rfl⟩
  | ok body =>
    cases t.contentBytes with
    | error err => exact .inl ⟨err, rfl, rfl⟩
    | ok content =>
      by_cases hdigest : c.sha256 content = t.payloadDigest
      · exact .inr ⟨_, _, if_neg (not_not.2 hdigest), if_neg (not_not.2 hdigest)⟩
      · exact .inl ⟨.digestDrifted, if_pos hdigest, if_pos hdigest⟩

theorem load_of_canonicalBytes {body : String} (h : t.canonicalBytes = .ok body) :
    Json.loads body = some (t.document true).sortKeys := by
  unfold SanitizedTrace.canonicalBytes canonical at h
  split at h
  · rename_i hsound
    cases h
    exact Json.loads_dumps hsound
  · cases h

/-- **Opening what was sealed gives the trace back.** -/
theorem open_seal (h : c.seal t nonce = .ok payload) : c.open t.traceRef payload = .ok t := by
  obtain ⟨body, content, hbody, hcontent, hdigest, rfl⟩ := seal_eq_ok h
  have hload := load_of_canonicalBytes hbody
  simp [PayloadCipher.open, c.cipher.decrypt_encrypt, hload, fromDocument_document, hcontent,
    hdigest, bind, Except.bind, pure, Except.pure]

/-- What was opened carries the reference under which it was stored. -/
theorem traceRef_of_open {traceRef : String} (h : c.open traceRef payload = .ok t) :
    t.traceRef = traceRef := by
  unfold PayloadCipher.open at h
  dsimp only at h
  split at h
  · cases h
  split at h
  · cases h
  split at h
  · cases h
  obtain ⟨t', -, h⟩ := bind_eq_ok.1 h
  split at h
  · cases h
  rename_i hid
  obtain ⟨content, -, h⟩ := bind_eq_ok.1 h
  split at h
  · cases h
  cases h
  by_contra hne
  exact hid (Or.inl hne)

/-! ### Deliveries -/

inductive DeliverySink
  | langsmith
  | otlp
  | archive
deriving DecidableEq

/-- The sinks in the order in which the enumeration lists them. -/
def DeliverySink.all : List DeliverySink := [.langsmith, .otlp, .archive]

theorem DeliverySink.mem_all (sink : DeliverySink) : sink ∈ DeliverySink.all := by
  cases sink <;> decide

inductive DeliveryState
  | pending
  | leased
  | acked
deriving DecidableEq

/-- What a claim hands out. -/
structure Delivery where
  trace : SanitizedTrace
  sink : DeliverySink
  attemptCount : ℕ
deriving DecidableEq

/-- A trace and a sink. -/
abbrev Key := String × DeliverySink

def Delivery.key (d : Delivery) : Key := (d.trace.traceRef, d.sink)

/-- An error code that `retry` takes. -/
def ValidCode (code : String) : Prop := code ≠ "" ∧ code.length ≤ 64

instance (code : String) : Decidable (ValidCode code) := inferInstanceAs (Decidable (_ ∧ _))

/-- Seconds in the unit of instants. -/
def seconds (n : ℤ) : ℤ := 1000000 * n

/-! ### A sample -/

/-- Three bytes for each character. -/
def sampleBytes (cs : List Char) : List UInt8 :=
  cs.flatMap fun c => [(c.toNat / 65536).toUInt8, (c.toNat / 256).toUInt8, c.toNat.toUInt8]

def sampleChars : List UInt8 → Option (List Char)
  | [] => some []
  | a :: b :: c :: rest =>
    (sampleChars rest).map fun cs =>
      Char.ofNat (65536 * a.toNat + 256 * b.toNat + c.toNat) :: cs
  | _ => none

theorem sampleChars_sampleBytes (cs : List Char) : sampleChars (sampleBytes cs) = some cs := by
  induction cs with
  | nil => rfl
  | cons c cs ih =>
    have hlt : c.toNat < 0x110000 := by
      rcases c.valid with h | h
      · exact lt_trans h (by decide)
      · exact h.2
    have hsum : 65536 * (c.toNat / 65536).toUInt8.toNat + 256 * (c.toNat / 256).toUInt8.toNat +
        c.toNat.toUInt8.toNat = c.toNat := by
      simp only [Nat.toUInt8_eq, UInt8.toNat_ofNat']
      omega
    have hcons : sampleBytes (c :: cs) = (c.toNat / 65536).toUInt8 :: (c.toNat / 256).toUInt8 ::
        c.toNat.toUInt8 :: sampleBytes cs := rfl
    rw [hcons, sampleChars, ih, hsum, Char.ofNat_toNat]
    rfl

/-- Texts in the clear behind their associated data. -/
def sampleAead : AESGCM where
  encrypt _ body aad := sampleBytes aad.toList ++ 255 :: sampleBytes body.toList
  decrypt _ ciphertext aad :=
    if (sampleBytes aad.toList ++ [255]).isPrefixOf ciphertext then
      (sampleChars (ciphertext.drop ((sampleBytes aad.toList).length + 1))).map String.ofList
    else none
  decrypt_encrypt nonce body aad := by
    have h : (sampleBytes aad.toList ++ [255]).isPrefixOf
        (sampleBytes aad.toList ++ 255 :: sampleBytes body.toList) = true := by
      rw [List.isPrefixOf_iff_prefix]
      exact ⟨sampleBytes body.toList, by simp⟩
    rw [if_pos h, List.drop_append, List.drop_eq_nil_of_le (by omega)]
    simp [sampleChars_sampleBytes]

def sampleDigest : String := "9f86d081884c7d659a2feaa0c55ad015a3bf4f1b2b0b822cd15d6c15b0f00a08"

def sampleCipher : PayloadCipher := ⟨"key-a", sampleAead, fun _ => sampleDigest⟩

def sampleTrace (ref : String) : SanitizedTrace where
  schemaVersion := "1.0.0"
  traceRef := ref
  remoteTraceId := "0e3f9d5c-1b7a-5c39-9a51-0f1f3b0c7d21"
  otlpTraceId := "4bf92f3577b34da6a3ce929d0e0e4736"
  tenantRef := "a0a0a0a0a0a0a0a0a0a0a0a0"
  correlationRef := "b1b1b1b1b1b1b1b1b1b1b1b1"
  causationRef := none
  incidentRef := none
  taskRef := none
  actionRef := none
  contractsVersion := "1.1.0"
  candidateSha := "0123456789abcdef0123456789abcdef01234567"
  emittedAt := "2026-01-01T00:00:00+00:00"
  spans := []
  payloadDigest := sampleDigest

/-- A nonce of twelve bytes. -/
def sampleNonce : List UInt8 := List.replicate 12 7

/-- The sealed form of a sample trace. -/
def samplePayload (ref : String) : EncryptedPayload :=
  ⟨"key-a", sampleNonce, sampleAead.encrypt sampleNonce ((sampleTrace ref).document true).dumps
    (aad ref sampleDigest), sampleDigest, 1⟩

theorem seal_sample (ref : String) :
    sampleCipher.seal (sampleTrace ref) sampleNonce = .ok (samplePayload ref) := by
  have hbody : (sampleTrace ref).canonicalBytes = .ok ((sampleTrace ref).document true).dumps := by
    have hsound : ((sampleTrace ref).document true).sound = true := rfl
    rw [SanitizedTrace.canonicalBytes, canonical, if_pos hsound]
  have hcontent : (sampleTrace ref).contentBytes = .ok ((sampleTrace ref).document false).dumps := by
    have hsound : ((sampleTrace ref).document false).sound = true := rfl
    rw [SanitizedTrace.contentBytes, canonical, if_pos hsound]
  rw [PayloadCipher.seal, hbody, hcontent]
  rfl

theorem open_sample (ref : String) :
    sampleCipher.open ref (samplePayload ref) = .ok (sampleTrace ref) := by
  have h := open_seal (seal_sample ref)
  exact h

end Traces
