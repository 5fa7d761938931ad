/-
**The exported trees.**

The exporters write the tree of a sanitized trace three times: LangSmith gets for each span the
dotted order of its ancestors, which a recursion with a memo computes, and the run of its parent,
which a search finds; OTLP gets the identifier of its parent, which a map gives.  The spans are
sorted by time, so a child may come before its parent.

Instants in nanoseconds pass through floating-point numbers, so they are a parameter here.

Main definitions:

* `TraceExporters.langsmithOrder`, `TraceExporters.langsmithBody` — what LangSmith gets;
* `TraceExporters.otlpSpan`, `TraceExporters.payload` — what OTLP gets;
* `TraceExporters.Order` — the dotted order of a span, as a relation;
* `TraceExporters.ExportedTree` — what is exported is the tree of the envelope.

Main results:

* `TraceExporters.visit_order` — the recursion ends and finds the dotted order;
* `TraceExporters.exported_tree` — **the exported trees are the tree that was sanitized**.
-/

import FaultWitness.Sanitizer
import Mathlib.Data.Set.Function

set_option autoImplicit false

namespace TraceExporters

open Python Timestamps Traces Sanitizer

/-! ### Dictionaries -/

/-- A dictionary with texts as its keys. -/
abbrev Document := List (String × Json)

/-- `{**fields, **others}`: a key of both keeps its place and takes the later value. -/
def merge {α : Type} (fields others : List (String × α)) : List (String × α) :=
  fields.map (fun f => (f.1, (others.lookup f.1).getD f.2)) ++
    others.filter fun o => o.1 ∉ fields.map Prod.fst

/-- The spans by their references; of several with one reference the last one counts. -/
def byRef (spans : List SanitizedSpan) : AList fun _ : String => SanitizedSpan :=
  spans.foldl (fun d span => d.insert span.spanRef span) ∅

/-! ### LangSmith -/

/-- The exceptions of the exporters. -/
inductive ExporterError
  | valueError
  | keyError
  | stopIteration
  /-- The recursion was cut off; it never is. -/
  | exhausted
deriving DecidableEq

abbrev Orders := AList fun _ : String => String

/-- The last segment of the order of a span. -/
def own (span : SanitizedSpan) : Except ExporterError String :=
  match fromisoformat span.startedAt with
  | none => .error .valueError
  | some started => .ok (String.ofList started.compact ++ span.remoteId)

def visit (spans : AList fun _ : String => SanitizedSpan) :
    ℕ → Orders → SanitizedSpan → Except ExporterError (String × Orders)
  | 0, _, _ => .error .exhausted
  | fuel + 1, orders, span =>
    match orders.lookup span.spanRef with
    | some order => .ok (order, orders)
    | none => do
      let own ← own span
      match span.parentSpanRef with
      | none => return (own, orders.insert span.spanRef own)
      | some ref =>
        match spans.lookup ref with
        | none => throw .keyError
        | some parent =>
          let (above, orders) ← visit spans fuel orders parent
          return (above ++ "." ++ own, orders.insert span.spanRef (above ++ "." ++ own))

/-- The loop over the spans. -/
def visitAll (spans : AList fun _ : String => SanitizedSpan) (fuel : ℕ) :
    List SanitizedSpan → Orders → Except ExporterError Orders
  | [], orders => .ok orders
  | item :: items, orders => do
    let (_, orders) ← visit spans fuel orders item
    visitAll spans fuel items orders

def langsmithOrder (trace : SanitizedTrace) : Except ExporterError Orders :=
  visitAll (byRef trace.spans) trace.spans.length trace.spans ∅

def parentRemoteId (trace : SanitizedTrace) (span : SanitizedSpan) :
    Except ExporterError (Option String) :=
  match span.parentSpanRef with
  | none => .ok none
  | some ref =>
    match trace.spans.find? fun item => item.spanRef = ref with
    | none => .error .stopIteration
    | some item => .ok (some item.remoteId)

def runType (stage : String) : String :=
  if stage = "model" then "llm" else if stage = "tool" then "tool" else "chain"

/-- The metadata of a run. -/
def metadata (trace : SanitizedTrace) (span : SanitizedSpan) : Document :=
  merge [("candidate_sha", .str trace.candidateSha),
    ("contracts_version", .str trace.contractsVersion),
    ("correlation_ref", .str trace.correlationRef), ("payload_digest", .str trace.payloadDigest)]
    (span.attributes.entries.map fun e => (e.1, e.2.json))

/-- The body that is posted for a span. -/
def langsmithBody (project : String) (trace : SanitizedTrace) (orders : Orders)
    (root span : SanitizedSpan) : Except ExporterError Document := do
  let parent ← parentRemoteId trace span
  match orders.lookup span.spanRef with
  | none => throw .keyError
  | some order =>
    -- a missing parent is taken out of the body again
    return [("id", .str span.remoteId), ("trace_id", .str root.remoteId)] ++
      parent.toList.map (fun p => ("parent_run_id", .str p)) ++
      [("dotted_order", .str order), ("name", .str span.name),
        ("run_type", .str (runType span.stage)), ("session_name", .str project),
        ("start_time", .str span.startedAt), ("end_time", .str span.endedAt),
        ("inputs", .obj [("trace_ref", .str trace.traceRef), ("stage", .str span.stage)]),
        ("outputs", .obj [("status", .str span.status)]),
        ("extra", .obj [("metadata", .obj (metadata trace span))]),
        ("tags", .arr [.str "faultwitness", .str "g01", .str span.stage])]

/-- The root of a trace. -/
def rootOf (trace : SanitizedTrace) : Except ExporterError SanitizedSpan :=
  match trace.spans.find? fun span => span.parentSpanRef = none with
  | none => .error .stopIteration
  | some root => .ok root

/-- The bodies of all spans. -/
def langsmithBodies (project : String) (trace : SanitizedTrace) :
    Except ExporterError (List Document) := do
  let orders ← langsmithOrder trace
  let root ← rootOf trace
  trace.spans.mapM (langsmithBody project trace orders root)

/-! ### OTLP -/

variable (unixNano : DateTime → ℤ)

def anyValue : Scalar → Except ExporterError Json
  | .bool b => .ok (.obj [("boolValue", .bool b)])
  | .int n =>
    match scalarText (.int n) with
    | none => .error .valueError
    | some text => .ok (.obj [("intValue", .str text)])
  | .float text => .ok (.obj [("doubleValue", .float text.1)])
  | .str text => .ok (.obj [("stringValue", .str text)])

def nanoText (text : String) : Except ExporterError String :=
  match fromisoformat text with
  | none => .error .valueError
  | some instant => .ok (toString (unixNano instant))

def statusCode (status : String) : Except ExporterError ℤ :=
  if status = "unset" then .ok 0
  else if status = "ok" then .ok 1
  else if status = "error" then .ok 2
  else .error .keyError

/-- An attribute of an OTLP document. -/
def keyValue (e : String × Scalar) : Except ExporterError Json := do
  let value ← anyValue e.2
  return .obj [("key", .str e.1), ("value", value)]

/-- The attributes of a span, in the order of their keys. -/
def otlpAttributes (trace : SanitizedTrace) (span : SanitizedSpan) : List (String × Scalar) :=
  (merge [("faultwitness.trace_ref", .str trace.traceRef),
    ("faultwitness.correlation_ref", .str trace.correlationRef),
    ("faultwitness.candidate_sha", .str trace.candidateSha),
    ("faultwitness.contracts_version", .str trace.contractsVersion),
    ("faultwitness.stage", .str span.stage)] span.attributes.entries).insertionSort
      fun a b => a.1 ≤ b.1

def otlpSpan (trace : SanitizedTrace) (spans : AList fun _ : String => SanitizedSpan)
    (span : SanitizedSpan) : Except ExporterError Document := do
  let started ← nanoText unixNano span.startedAt
  let ended ← nanoText unixNano span.endedAt
  let attributes ← (otlpAttributes trace span).mapM keyValue
  let code ← statusCode span.status
  let document : Document := [("traceId", .str trace.otlpTraceId), ("spanId", .str span.otlpSpanId),
    ("name", .str span.name), ("kind", .int 1), ("startTimeUnixNano", .str started),
    ("endTimeUnixNano", .str ended), ("attributes", .arr attributes),
    ("status", .obj [("code", .int code)])]
  match span.parentSpanRef with
  | none => return document
  | some ref =>
    match spans.lookup ref with
    | none => throw .keyError
    | some parent => return document ++ [("parentSpanId", .str parent.otlpSpanId)]

/-- The frame around the documents of the spans. -/
def resourceSpans (trace : SanitizedTrace) (spans : List Document) : Json :=
  .obj [("resourceSpans", .arr [.obj [
    ("resource", .obj [("attributes", .arr [
      .obj [("key", .str "service.name"), ("value", .obj [("stringValue", .str "faultwitness")])],
      .obj [("key", .str "service.version"),
        ("value", .obj [("stringValue", .str trace.candidateSha)])]])]),
    ("scopeSpans", .arr [.obj [
      ("scope", .obj [("name", .str "faultwitness.observability"), ("version", .str "1.0.0")]),
      ("spans", .arr (spans.map Json.obj))]])]])]

def payload (trace : SanitizedTrace) : Except ExporterError Json := do
  let spans ← trace.spans.mapM (otlpSpan unixNano trace (byRef trace.spans))
  return resourceSpans trace spans

/-! ### The dotted order -/

/-- No two spans have one reference. -/
def Distinct (spans : List SanitizedSpan) : Prop :=
  ∀ a ∈ spans, ∀ b ∈ spans, a.spanRef = b.spanRef → a = b

theorem lookup_foldl_byRef (spans : List SanitizedSpan)
    (d : AList fun _ : String => SanitizedSpan) (ref : String) :
    (∃ span ∈ spans, span.spanRef = ref ∧
      (spans.foldl (fun d span => d.insert span.spanRef span) d).lookup ref = some span) ∨
      (ref ∉ spans.map SanitizedSpan.spanRef ∧
        (spans.foldl (fun d span => d.insert span.spanRef span) d).lookup ref = d.lookup ref) := by
  induction spans generalizing d with
  | nil => exact .inr ⟨List.not_mem_nil, rfl⟩
  | cons first spans ih =>
    rw [List.foldl_cons]
    rcases ih (d.insert first.spanRef first) with ⟨span, hspan, href, hlookup⟩ | ⟨hnot, hlookup⟩
    · exact .inl ⟨span, List.mem_cons_of_mem _ hspan, href, hlookup⟩
    · by_cases hfirst : first.spanRef = ref
      · subst hfirst
        refine .inl ⟨first, List.mem_cons_self, rfl, ?_⟩
        rw [hlookup, AList.lookup_insert]
      · refine .inr ⟨?_, ?_⟩
        · rw [List.map_cons, List.mem_cons]
          rintro (heq | hmem)
          · exact hfirst heq.symm
          · exact hnot hmem
        · rw [hlookup, AList.lookup_insert_ne fun heq => hfirst heq.symm]

section Order

variable {spans : List SanitizedSpan} {span : SanitizedSpan}

theorem Distinct.lookup_byRef (h : Distinct spans) (hspan : span ∈ spans) :
    (byRef spans).lookup span.spanRef = some span := by
  rcases lookup_foldl_byRef spans ∅ span.spanRef with ⟨other, hother, href, hlookup⟩ | ⟨hnot, -⟩
  · rw [byRef, hlookup, h other hother span hspan href]
  · exact absurd (List.mem_map_of_mem hspan) hnot

theorem Distinct.find_ref (h : Distinct spans) (hspan : span ∈ spans) :
    spans.find? (fun item => item.spanRef = span.spanRef) = some span := by
  cases hfind : spans.find? fun item => item.spanRef = span.spanRef with
  | none => exact absurd (decide_eq_true rfl) (List.find?_eq_none.1 hfind span hspan)
  | some other =>
    have href : other.spanRef = span.spanRef := by simpa using List.find?_some hfind
    rw [h other (List.mem_of_find?_eq_some hfind) span hspan href]

/-- `Order spans n span order`: the span is at depth `n - 1` of a tree, and `order` joins the
segments of its ancestors and its own. -/
inductive Order (spans : List SanitizedSpan) : ℕ → SanitizedSpan → String → Prop
  | root {span : SanitizedSpan} {segment : String} : span ∈ spans → span.parentSpanRef = none →
      own span = .ok segment → Order spans 1 span segment
  | child {n : ℕ} {span parent : SanitizedSpan} {above segment : String} : span ∈ spans →
      span.parentSpanRef = some parent.spanRef → Order spans n parent above →
      own span = .ok segment → Order spans (n + 1) span (above ++ "." ++ segment)

variable {order : String} {n : ℕ}

theorem Order.mem (h : Order spans n span order) : span ∈ spans := by
  cases h with
  | root hmem _ _ => exact hmem
  | child hmem _ _ _ => exact hmem

theorem Order.unique (hdistinct : Distinct spans) {m : ℕ} {order' : String}
    (h : Order spans m span order) (h' : Order spans n span order') : order = order' := by
  induction h generalizing n order' with
  | root _ hroot hown =>
    cases h' with
    | root _ _ hown' =>
      rw [hown] at hown'
      exact Except.ok.inj hown'
    | child _ hparent _ _ =>
      rw [hroot] at hparent
      cases hparent
  | child _ hparent habove hown ih =>
    cases h' with
    | root _ hroot _ =>
      rw [hparent] at hroot
      cases hroot
    | child _ hparent' habove' hown' =>
      rw [hparent] at hparent'
      cases hdistinct _ habove.mem _ habove'.mem (Option.some.inj hparent')
      rw [hown] at hown'
      rw [ih habove', Except.ok.inj hown']

/-- What the memo holds are orders of spans. -/
def Memo (spans : List SanitizedSpan) (orders : Orders) : Prop :=
  ∀ ref order, orders.lookup ref = some order →
    ∃ n span, span.spanRef = ref ∧ Order spans n span order

/-- The memo holds more. -/
def Grows (orders orders' : Orders) : Prop :=
  ∀ ref order, orders.lookup ref = some order → orders'.lookup ref = some order

variable {orders : Orders}

theorem Memo.insert (h : Memo spans orders) (horder : Order spans n span order) :
    Memo spans (orders.insert span.spanRef order) := by
  intro ref order' hlookup
  by_cases href : ref = span.spanRef
  · subst href
    rw [AList.lookup_insert] at hlookup
    cases hlookup
    exact ⟨n, span, rfl, horder⟩
  · rw [AList.lookup_insert_ne href] at hlookup
    exact h ref order' hlookup

/-- **The recursion ends and finds the order of the span.** -/
theorem visit_order (hdistinct : Distinct spans) (h : Order spans n span order) {fuel : ℕ}
    (hfuel : n ≤ fuel) (hmemo : Memo spans orders) :
    ∃ orders', visit (byRef spans) fuel orders span = .ok (order, orders') ∧ Memo spans orders' ∧
      Grows orders orders' ∧ orders'.lookup span.spanRef = some order := by
  -- by induction on the depth of the span; the memo is anything sound
  induction h generalizing fuel orders with
  | @root span segment hmem hroot hown =>
    have horder : Order spans 1 span segment := .root hmem hroot hown
    cases fuel with
    | zero => exact absurd hfuel (by decide)
    | succ fuel =>
      rw [visit]
      cases hlookup : orders.lookup span.spanRef with
      | some found =>
        obtain ⟨m, other, href, hfound⟩ := hmemo _ _ hlookup
        cases hdistinct other hfound.mem span hmem href
        cases hfound.unique hdistinct horder
        exact ⟨orders, rfl, hmemo, fun _ _ h => h, hlookup⟩
      | none =>
        refine ⟨orders.insert span.spanRef segment, ?_, hmemo.insert horder, ?_,
          AList.lookup_insert _⟩
        · rw [hown, hroot]
          rfl
        · intro ref found hfound
          have hne : ref ≠ span.spanRef := by
            rintro rfl
            rw [hlookup] at hfound
            cases hfound
          rw [AList.lookup_insert_ne hne, hfound]
  | @child n span parent above segment hmem hparent habove hown ih =>
    have horder : Order spans (n + 1) span (above ++ "." ++ segment) :=
      .child hmem hparent habove hown
    cases fuel with
    | zero => exact absurd hfuel (by omega)
    | succ fuel =>
      rw [visit]
      cases hlookup : orders.lookup span.spanRef with
      | some found =>
        obtain ⟨m, other, href, hfound⟩ := hmemo _ _ hlookup
        cases hdistinct other hfound.mem span hmem href
        cases hfound.unique hdistinct horder
        exact ⟨orders, rfl, hmemo, fun _ _ h => h, hlookup⟩
      | none =>
        obtain ⟨orders', hvisit, hmemo', hgrows, -⟩ :=
          ih (Nat.le_of_succ_le_succ hfuel) hmemo
        refine ⟨orders'.insert span.spanRef (above ++ "." ++ segment), ?_,
          hmemo'.insert horder, ?_, AList.lookup_insert _⟩
        · rw [hown, hparent]
          simp only [hdistinct.lookup_byRef habove.mem, bind, Except.bind, hvisit]
          rfl
        · intro ref found hfound
          by_cases hne : ref = span.spanRef
          · subst hne
            rw [hlookup] at hfound
            cases hfound
          · rw [AList.lookup_insert_ne hne, hgrows ref found hfound]

theorem visitAll_order (hdistinct : Distinct spans) {fuel : ℕ} {items : List SanitizedSpan}
    (hitems : ∀ item ∈ items, ∃ n order, Order spans n item order ∧ n ≤ fuel)
    (hmemo : Memo spans orders) :
    ∃ orders', visitAll (byRef spans) fuel items orders = .ok orders' ∧ Grows orders orders' ∧
      ∀ item ∈ items, ∀ n order, Order spans n item order →
        orders'.lookup item.spanRef = some order := by
  induction items generalizing orders with
  | nil => exact ⟨orders, rfl, fun _ _ h => h, fun item hitem => absurd hitem List.not_mem_nil⟩
  | cons first items ih =>
    obtain ⟨n, order, horder, hfuel⟩ := hitems first List.mem_cons_self
    obtain ⟨orders₁, hvisit, hmemo₁, hgrows₁, hfirst⟩ := visit_order hdistinct horder hfuel hmemo
    obtain ⟨orders₂, hall, hgrows₂, hrest⟩ :=
      ih (fun item hitem => hitems item (List.mem_cons_of_mem _ hitem)) hmemo₁
    refine ⟨orders₂, ?_, fun ref o h => hgrows₂ ref o (hgrows₁ ref o h), ?_⟩
    · rw [visitAll, hvisit]
      exact hall
    · intro item hitem m order' horder'
      rcases List.mem_cons.1 hitem with rfl | hitem
      · rw [horder'.unique hdistinct horder]
        exact hgrows₂ _ _ hfirst
      · exact hrest item hitem m order' horder'

/-- The segments of a dotted order. -/
def segments (order : String) : List (List Char) := order.toList.splitOnP (· = '.')

theorem Order.length_segments (hdots : ∀ span ∈ spans, ∀ segment, own span = .ok segment →
    '.' ∉ segment.toList) (h : Order spans n span order) : (segments order).length = n := by
  have hsingle : ∀ span ∈ spans, ∀ segment, own span = .ok segment →
      segment.toList.splitOnP (· = '.') = [segment.toList] := by
    intro span hspan segment hown
    refine List.splitOnP_eq_singleton fun c hc => decide_eq_false ?_
    rintro rfl
    exact hdots span hspan segment hown hc
  induction h with
  | root hmem _ hown =>
    rw [segments, hsingle _ hmem _ hown]
    rfl
  | @child n span parent above segment hmem _ _ hown ih =>
    have htext : (above ++ "." ++ segment).toList = above.toList ++ '.' :: segment.toList := by
      simp [String.toList_append]
    rw [segments, htext, List.splitOnP_append_cons above.toList segment.toList (by simp), hsingle _ hmem _ hown,
      List.length_append, List.length_singleton]
    rw [segments] at ih
    rw [ih]

theorem Order.suffix (h : Order spans n span order) : span.remoteId.toList <:+ order.toList := by
  have hown : ∀ segment, own span = .ok segment → span.remoteId.toList <:+ segment.toList := by
    intro segment hown
    rw [own] at hown
    split at hown
    · cases hown
    · obtain rfl := Except.ok.inj hown
      rw [String.toList_append]
      exact List.suffix_append _ _
  cases h with
  | root _ _ hsegment => exact hown _ hsegment
  | child _ _ _ hsegment =>
    refine (hown _ hsegment).trans ?_
    rw [String.toList_append]
    exact List.suffix_append _ _

end Order

/-! ### The spans of a sanitized trace -/

section Sanitized

variable {s : TraceSanitizer} {envelope : TraceEnvelope} {t : SanitizedTrace}

/-- The identifiers of the spans of an envelope. -/
def spanIds (envelope : TraceEnvelope) : Set String :=
  {id | id ∈ envelope.spans.map SpanRecord.spanId}

/-- The segment that a span has in the dotted orders. -/
def segment (s : TraceSanitizer) (span : SpanRecord) : String :=
  String.ofList span.startedAt.compact ++ s.uuid "langsmith-span" span.spanId

variable {span : SpanRecord} {out : SanitizedSpan}

theorem own_of_carries (h : s.Carries span out) : own out = .ok (segment s span) := by
  rw [own, h.startedAt, fromisoformat_isoformat, h.remoteId]
  rfl

theorem dot_notMem_segment (s : TraceSanitizer) (span : SpanRecord) :
    '.' ∉ (segment s span).toList := by
  rw [segment, String.toList_append, String.toList_ofList, List.mem_append]
  rintro (hmem | hmem)
  · exact span.startedAt.dot_notMem_compact hmem
  · exact s.dot_notMem_uuid _ _ hmem

theorem carries_of_eq_ok (h : s.Sanitized envelope t) (hspan : span ∈ envelope.spans)
    (hout : s.sanitizeSpan (s.spanRefs envelope.spans) span = .ok out) : s.Carries span out := by
  rcases s.sanitizeSpan_cases h.graph hspan with ⟨⟨err, herr⟩, -⟩ | ⟨-, out', hout', hc⟩
  · rw [hout] at herr
    cases herr
  · rw [hout] at hout'
    cases hout'
    exact hc

theorem exists_out (h : s.Sanitized envelope t) (hspan : span ∈ envelope.spans) :
    ∃ out ∈ t.spans, s.Carries span out := by
  obtain ⟨out, hmem, hout⟩ := exists_mem_of_mapM_eq_ok h.spans (mem_sortSpans.2 hspan)
  exact ⟨out, hmem, carries_of_eq_ok h hspan hout⟩

theorem exists_span (h : s.Sanitized envelope t) (hmem : out ∈ t.spans) :
    ∃ span ∈ envelope.spans, s.Carries span out := by
  obtain ⟨span, hspan, hout⟩ := of_mem_mapM_eq_ok h.spans hmem
  exact ⟨span, mem_sortSpans.1 hspan, carries_of_eq_ok h (mem_sortSpans.1 hspan) hout⟩

theorem distinct_spans (h : s.Sanitized envelope t)
    (hrefs : Set.InjOn (fun id => s.ref "span" id 24) (spanIds envelope)) : Distinct t.spans := by
  intro a ha b hb href
  obtain ⟨x, hx, hxa⟩ := of_mem_mapM_eq_ok h.spans ha
  obtain ⟨y, hy, hyb⟩ := of_mem_mapM_eq_ok h.spans hb
  have hx := mem_sortSpans.1 hx
  have hy := mem_sortSpans.1 hy
  rw [(carries_of_eq_ok h hx hxa).spanRef, (carries_of_eq_ok h hy hyb).spanRef] at href
  have hids := hrefs (List.mem_map_of_mem hx) (List.mem_map_of_mem hy) href
  cases List.inj_on_of_nodup_map h.graph.nodup hx hy hids
  rw [hxa] at hyb
  exact Except.ok.inj hyb

theorem exists_parent (h : s.Sanitized envelope t) (hspan : span ∈ envelope.spans)
    (hout : s.Carries span out) {p : String} (hp : span.parentSpanId = some p) :
    ∃ parent ∈ envelope.spans, parent.spanId = p ∧ ∃ above ∈ t.spans, s.Carries parent above ∧
      out.parentSpanRef = some above.spanRef := by
  obtain ⟨parent, hparent, hid⟩ := List.mem_map.1 (h.graph.inside span hspan p hp)
  obtain ⟨above, habove, hcarries⟩ := exists_out h hparent
  refine ⟨parent, hparent, hid, above, habove, hcarries, ?_⟩
  rw [hout.parentSpanRef, hp, hcarries.spanRef, hid]
  rfl

/-- Every span has an order, with a segment for each span on its way. -/
theorem exists_order (h : s.Sanitized envelope t) {id : String} {way : List String}
    (hway : ParentForests.Way (parentIn envelope.spans) id way) :
    ∀ span ∈ envelope.spans, span.spanId = id → ∀ out ∈ t.spans, s.Carries span out →
      ∃ order, Order t.spans way.length out order := by
  -- the order grows along the way down from the root
  induction hway with
  | root hroot =>
    rintro span hspan rfl out hout hcarries
    rw [parentIn_of_mem h.graph.nodup hspan] at hroot
    exact ⟨_, .root hout (by rw [hcarries.parentSpanRef, hroot]; rfl) (own_of_carries hcarries)⟩
  | @child a b as hparent _ ih =>
    rintro span hspan rfl out hout hcarries
    rw [parentIn_of_mem h.graph.nodup hspan] at hparent
    obtain ⟨parent, hmem, hid, above, habove, hcarries', href⟩ :=
      exists_parent h hspan hcarries hparent
    obtain ⟨order, horder⟩ := ih parent hmem hid above habove hcarries'
    refine ⟨order ++ "." ++ segment s span, ?_⟩
    rw [List.length_append, List.length_singleton]
    exact .child hout href horder (own_of_carries hcarries)

theorem length_way_le (h : s.Sanitized envelope t) (hspan : span ∈ envelope.spans)
    {way : List String} (hway : ParentForests.Way (parentIn envelope.spans) span.spanId way) :
    way.length ≤ t.spans.length := by
  have hclosed : ∀ a ∈ envelope.spans.map SpanRecord.spanId, ∀ b,
      parentIn envelope.spans a = some b → b ∈ envelope.spans.map SpanRecord.spanId := by
    intro a ha b hb
    obtain ⟨child, hchild, rfl⟩ := List.mem_map.1 ha
    rw [parentIn_of_mem h.graph.nodup hchild] at hb
    exact h.graph.inside child hchild b hb
  have hle := hway.length_le hclosed (List.mem_map_of_mem hspan)
  rw [List.length_map, ← (List.perm_insertionSort SpanRecord.le envelope.spans).length_eq] at hle
  exact h.carries.length_eq ▸ hle

/-- **The dotted orders of a sanitized trace.** -/
theorem langsmithOrder_spec (h : s.Sanitized envelope t)
    (hrefs : Set.InjOn (fun id => s.ref "span" id 24) (spanIds envelope)) :
    ∃ orders, langsmithOrder t = .ok orders ∧ ∀ span ∈ envelope.spans, ∀ out ∈ t.spans,
      s.Carries span out → ∃ way order,
        ParentForests.Way (parentIn envelope.spans) span.spanId way ∧
        Order t.spans way.length out order ∧ orders.lookup out.spanRef = some order := by
  have hdistinct := distinct_spans h hrefs
  have hitems : ∀ span ∈ envelope.spans, ∀ out ∈ t.spans, s.Carries span out → ∃ way order,
      ParentForests.Way (parentIn envelope.spans) span.spanId way ∧
        Order t.spans way.length out order := by
    intro span hspan out hout hcarries
    obtain ⟨way, hway⟩ := h.graph.way span hspan
    obtain ⟨order, horder⟩ := exists_order h hway span hspan rfl out hout hcarries
    exact ⟨way, order, hway, horder⟩
  have hfuel : ∀ item ∈ t.spans, ∃ n order, Order t.spans n item order ∧ n ≤ t.spans.length := by
    intro out hout
    obtain ⟨span, hspan, hcarries⟩ := exists_span h hout
    obtain ⟨way, order, hway, horder⟩ := hitems span hspan out hout hcarries
    exact ⟨way.length, order, horder, length_way_le h hspan hway⟩
  obtain ⟨orders, hall, -, hlookup⟩ := visitAll_order hdistinct hfuel 
    (show Memo t.spans ∅ from fun ref order hnone => by cases hnone)
  refine ⟨orders, hall, fun span hspan out hout hcarries => ?_⟩
  obtain ⟨way, order, hway, horder⟩ := hitems span hspan out hout hcarries
  exact ⟨way, order, hway, horder, hlookup out hout _ order horder⟩

/-! ### The exported trees -/

/-- A run posted to LangSmith stands for the span. -/
structure RunOf (s : TraceSanitizer) (order : String → String) (span : SpanRecord)
    (body : Document) : Prop where
  id : body.lookup "id" = some (.str (s.uuid "langsmith-span" span.spanId))
  parent : body.lookup "parent_run_id" =
    span.parentSpanId.map fun p => .str (s.uuid "langsmith-span" p)
  order : body.lookup "dotted_order" = some (.str (order span.spanId))

/-- A document of OTLP stands for the span. -/
structure DocumentOf (s : TraceSanitizer) (span : SpanRecord) (document : Document) : Prop where
  id : document.lookup "spanId" = some (.str (s.ref "otlp-span" span.spanId 16))
  parent : document.lookup "parentSpanId" =
    span.parentSpanId.map fun p => .str (s.ref "otlp-span" p 16)

/-- What is exported is the tree of the envelope. -/
structure ExportedTree (s : TraceSanitizer) (envelope : TraceEnvelope) (order : String → String)
    (runs documents : List Document) : Prop where
  root : ∃ root, envelope.spans.filter (fun span => span.parentSpanId = none) = [root]
  dotted : ∀ span ∈ envelope.spans, '.' ∉ (segment s span).toList ∧ order span.spanId =
    match span.parentSpanId with
    | none => segment s span
    | some p => order p ++ "." ++ segment s span
  depth : ∀ span ∈ envelope.spans, ∃ way,
    ParentForests.Way (parentIn envelope.spans) span.spanId way ∧
      (segments (order span.spanId)).length = way.length
  injective : Set.InjOn order (spanIds envelope)
  runs : List.Forall₂ (RunOf s order) (sortSpans envelope.spans) runs
  documents : List.Forall₂ (DocumentOf s) (sortSpans envelope.spans) documents

theorem parentRemoteId_of_carries (h : s.Sanitized envelope t)
    (hrefs : Set.InjOn (fun id => s.ref "span" id 24) (spanIds envelope))
    (hspan : span ∈ envelope.spans) (hcarries : s.Carries span out) :
    parentRemoteId t out = .ok (span.parentSpanId.map fun p => s.uuid "langsmith-span" p) := by
  rw [parentRemoteId]
  cases hp : span.parentSpanId with
  | none =>
    rw [hcarries.parentSpanRef, hp]
    rfl
  | some p =>
    obtain ⟨parent, -, rfl, above, habove, hparent, href⟩ := exists_parent h hspan hcarries hp
    rw [href]
    simp only [(distinct_spans h hrefs).find_ref habove, hparent.remoteId, Option.map_some]

theorem exists_rootOf (h : s.Sanitized envelope t) : ∃ root, rootOf t = .ok root := by
  obtain ⟨root, hroot⟩ := h.graph.root
  have hmem : root ∈ envelope.spans.filter fun span => span.parentSpanId = none := by
    rw [hroot]
    exact List.mem_singleton_self _
  obtain ⟨hspan, hparent⟩ := List.mem_filter.1 hmem
  rw [decide_eq_true_eq] at hparent
  obtain ⟨out, hout, hcarries⟩ := exists_out h hspan
  have hnone : out.parentSpanRef = none := by rw [hcarries.parentSpanRef, hparent, Option.map_none]
  rw [rootOf]
  cases hfind : t.spans.find? fun span => span.parentSpanRef = none with
  | none => exact absurd (decide_eq_true hnone) (List.find?_eq_none.1 hfind out hout)
  | some first => exact ⟨first, rfl⟩

theorem langsmithBody_of_carries (project : String) (h : s.Sanitized envelope t)
    (hrefs : Set.InjOn (fun id => s.ref "span" id 24) (spanIds envelope))
    (hspan : span ∈ envelope.spans) (hcarries : s.Carries span out) {orders : Orders}
    {order : String → String} (horder : orders.lookup out.spanRef = some (order span.spanId))
    (root : SanitizedSpan) :
    ∃ body, langsmithBody project t orders root out = .ok body ∧ RunOf s order span body := by
  rw [langsmithBody, parentRemoteId_of_carries h hrefs hspan hcarries]
  simp only [bind, Except.bind, horder]
  refine ⟨_, rfl, ?_, ?_, ?_⟩
  · rw [hcarries.remoteId]
    rfl
  · cases span.parentSpanId <;> simp [List.lookup_cons]
  · cases span.parentSpanId <;> simp [List.lookup_cons]

theorem exists_anyValue {v : Scalar} (h : ∃ text, scalarText v = some text) :
    ∃ value, anyValue v = .ok value := by
  obtain ⟨text, htext⟩ := h
  cases v with
  | int n =>
    rw [anyValue, htext]
    exact ⟨_, rfl⟩
  | bool b => exact ⟨_, rfl⟩
  | float text => exact ⟨_, rfl⟩
  | str text => exact ⟨_, rfl⟩

/-- The attributes of a span that was allowed can be written. -/
theorem exists_attributes (hfits : s.FitsSpan span) (hcarries : s.Carries span out) :
    ∃ attributes, (otlpAttributes t out).mapM keyValue = .ok attributes := by
  have hbase : ∀ e ∈ [("faultwitness.trace_ref", Scalar.str t.traceRef),
      ("faultwitness.correlation_ref", .str t.correlationRef),
      ("faultwitness.candidate_sha", .str t.candidateSha),
      ("faultwitness.contracts_version", .str t.contractsVersion),
      ("faultwitness.stage", .str out.stage)], ∃ text, scalarText e.2 = some text := by
    intro e he
    simp only [List.mem_cons, List.not_mem_nil, or_false] at he
    rcases he with rfl | rfl | rfl | rfl | rfl <;> exact ⟨_, rfl⟩
  have hown : ∀ e ∈ out.attributes.entries, ∃ text, scalarText e.2 = some text := by
    intro e he
    have hmem := hcarries.attributes.mem_iff.1 (List.mem_map_of_mem he)
    obtain ⟨-, v, hv, -, text, htext, -⟩ := hfits.2 _ hmem
    cases hv
    exact ⟨text, htext⟩
  refine exists_mapM_eq_ok fun e he => ?_
  have hprinted : ∃ text, scalarText e.2 = some text := by
    have he := (List.perm_insertionSort _ _).mem_iff.1 he
    rcases List.mem_append.1 he with he | he
    · obtain ⟨f, hf, rfl⟩ := List.mem_map.1 he
      cases hlookup : out.attributes.entries.lookup f.1 with
      | none => simpa [hlookup] using hbase f hf
      | some v =>
        have hnodup : (out.attributes.entries.map Prod.fst).Nodup := by
          refine out.attributes.sorted.imp ?_
          intro a b hlt heq
          exact String.lt_irrefl b (heq ▸ hlt)
        simpa [hlookup] using hown _ ((lookup_eq_some_iff hnodup).1 hlookup)
    · exact hown e (List.mem_of_mem_filter he)
  obtain ⟨value, hvalue⟩ := exists_anyValue hprinted
  rw [keyValue, hvalue]
  exact ⟨_, rfl⟩

theorem statusCode_value (status : SpanStatus) : ∃ code, statusCode status.value = .ok code := by
  cases status <;> exact ⟨_, rfl⟩

theorem otlpSpan_of_carries (unixNano : DateTime → ℤ) (h : s.Sanitized envelope t)
    (hrefs : Set.InjOn (fun id => s.ref "span" id 24) (spanIds envelope))
    (hspan : span ∈ envelope.spans) (hcarries : s.Carries span out) :
    ∃ document, otlpSpan unixNano t (byRef t.spans) out = .ok document ∧
      DocumentOf s span document := by
  obtain ⟨attributes, hattributes⟩ := exists_attributes (t := t) (h.fits span hspan) hcarries
  obtain ⟨code, hcode⟩ := statusCode_value span.status
  have hended := hcarries.endedAt
  obtain ⟨ended, -, hended⟩ := Option.map_eq_some_iff.1 hended
  have hcode' : statusCode out.status = .ok code := by rw [hcarries.status, hcode]
  have hstarted : nanoText unixNano out.startedAt =
      .ok (toString (unixNano span.startedAt)) := by
    rw [nanoText, hcarries.startedAt, fromisoformat_isoformat]
  have hended' : nanoText unixNano out.endedAt = .ok (toString (unixNano ended)) := by
    rw [nanoText, ← hended, fromisoformat_isoformat]
  rw [otlpSpan]
  simp only [bind, Except.bind, hstarted, hended', hattributes, hcode']
  cases hp : span.parentSpanId with
  | none =>
    have hnone : out.parentSpanRef = none := by rw [hcarries.parentSpanRef, hp, Option.map_none]
    simp only [hnone]
    refine ⟨_, rfl, ?_, ?_⟩
    · rw [hcarries.otlpSpanId]
      rfl
    · rw [hp]
      rfl
  | some p =>
    obtain ⟨parent, -, rfl, above, habove, hparent, href⟩ := exists_parent h hspan hcarries hp
    simp only [href, (distinct_spans h hrefs).lookup_byRef habove]
    refine ⟨_, rfl, ?_, ?_⟩
    · rw [hcarries.otlpSpanId]
      rfl
    · rw [hp, hparent.otlpSpanId]
      rfl

/-- What holds of each span and its image, holds of what is made of the images. -/
theorem forall₂_mapM {T : SpanRecord → Document → Prop} (h : s.Sanitized envelope t)
    {f : SanitizedSpan → Except ExporterError Document}
    (hf : ∀ span ∈ envelope.spans, ∀ out ∈ t.spans, s.Carries span out →
      ∃ document, f out = .ok document ∧ T span document) :
    ∃ documents, t.spans.mapM f = .ok documents ∧
      List.Forall₂ T (sortSpans envelope.spans) documents := by
  have hsorted : ∀ span ∈ sortSpans envelope.spans, ∀ out ∈ t.spans, s.Carries span out →
      ∃ document, f out = .ok document ∧ T span document := fun span hspan =>
    hf span (mem_sortSpans.1 hspan)
  have hcarries := h.carries
  clear hf h
  generalize sortSpans envelope.spans = spans at hsorted hcarries ⊢
  generalize t.spans = outs at hsorted hcarries ⊢
  induction hcarries with
  | nil => exact ⟨[], rfl, .nil⟩
  | @cons span out spans outs hc _ ih =>
    obtain ⟨document, hdocument, hT⟩ :=
      hsorted span List.mem_cons_self out List.mem_cons_self hc
    obtain ⟨documents, hdocuments, hTs⟩ := ih fun span' hspan' out' hout' =>
      hsorted span' (List.mem_cons_of_mem _ hspan') out' (List.mem_cons_of_mem _ hout')
    refine ⟨document :: documents, ?_, .cons hT hTs⟩
    exact mapM_eq_ok.2 (.cons hdocument (mapM_eq_ok.1 hdocuments))

/-- The order that a map of orders gives to an identifier. -/
def orderIn (s : TraceSanitizer) (orders : Orders) (id : String) : String :=
  (orders.lookup (s.ref "span" id 24)).getD ""

/-- **The exported trees are the tree that was sanitized.** -/
theorem exported_tree (s : TraceSanitizer) (project : String) (unixNano : DateTime → ℤ)
    {envelope : TraceEnvelope} {t : SanitizedTrace} (h : s.sanitize envelope = .ok t)
    (hrefs : Set.InjOn (fun id => s.ref "span" id 24) (spanIds envelope))
    (hremote : Set.InjOn (fun id => s.uuid "langsmith-span" id) (spanIds envelope)) :
    ∃ orders runs documents, langsmithOrder t = .ok orders ∧ langsmithBodies project t = .ok runs ∧
      payload unixNano t = .ok (resourceSpans t documents) ∧
        ExportedTree s envelope (orderIn s orders) runs documents := by
  have hs := s.sanitized_of_eq_ok h
  have hdistinct := distinct_spans hs hrefs
  obtain ⟨orders, horders, hspec⟩ := langsmithOrder_spec hs hrefs
  obtain ⟨root, hroot⟩ := exists_rootOf hs
  have hlookup : ∀ span ∈ envelope.spans, ∀ out ∈ t.spans, s.Carries span out → ∃ way,
      ParentForests.Way (parentIn envelope.spans) span.spanId way ∧
        Order t.spans way.length out (orderIn s orders span.spanId) ∧
          orders.lookup out.spanRef = some (orderIn s orders span.spanId) := by
    intro span hspan out hout hcarries
    obtain ⟨way, order, hway, horder, hfound⟩ := hspec span hspan out hout hcarries
    have heq : orderIn s orders span.spanId = order := by
      rw [orderIn, ← hcarries.spanRef, hfound, Option.getD_some]
    rw [heq]
    exact ⟨way, hway, horder, hfound⟩
  have hruns : ∀ span ∈ envelope.spans, ∀ out ∈ t.spans, s.Carries span out →
      ∃ body, langsmithBody project t orders root out = .ok body ∧
        RunOf s (orderIn s orders) span body := by
    intro span hspan out hout hcarries
    obtain ⟨way, -, -, hfound⟩ := hlookup span hspan out hout hcarries
    exact langsmithBody_of_carries project hs hrefs hspan hcarries hfound root
  obtain ⟨runs, hmap, hallRuns⟩ := forall₂_mapM hs hruns
  obtain ⟨documents, hmap', hallDocuments⟩ := forall₂_mapM hs fun span hspan out _ hcarries =>
    otlpSpan_of_carries unixNano hs hrefs hspan hcarries
  refine ⟨orders, runs, documents, horders, ?_, ?_, ?_⟩
  · rw [langsmithBodies, horders]
    simp only [bind, Except.bind, hroot, hmap]
  · rw [payload, hmap']
    rfl
  refine ⟨hs.graph.root, fun span hspan => ⟨dot_notMem_segment s span, ?_⟩, fun span hspan => ?_, ?_,
    hallRuns, hallDocuments⟩
  · obtain ⟨out, hout, hcarries⟩ := exists_out hs hspan
    obtain ⟨way, -, horder, -⟩ := hlookup span hspan out hout hcarries
    cases hp : span.parentSpanId with
    | none =>
      have hnone : out.parentSpanRef = none := by rw [hcarries.parentSpanRef, hp, Option.map_none]
      exact horder.unique hdistinct (.root hout hnone (own_of_carries hcarries))
    | some p =>
      obtain ⟨parent, hparent, rfl, above, habove, hcarries', href⟩ :=
        exists_parent hs hspan hcarries hp
      obtain ⟨way', -, horder', -⟩ := hlookup parent hparent above habove hcarries'
      exact horder.unique hdistinct (.child hout href horder' (own_of_carries hcarries))
  · obtain ⟨out, hout, hcarries⟩ := exists_out hs hspan
    obtain ⟨way, hway, horder, -⟩ := hlookup span hspan out hout hcarries
    refine ⟨way, hway, horder.length_segments fun other hother segment hown => ?_⟩
    obtain ⟨record, -, hrecord⟩ := exists_span hs hother
    rw [own_of_carries hrecord] at hown
    obtain rfl := Except.ok.inj hown
    exact dot_notMem_segment s record
  · -- an order ends with the identifier of its span, and all identifiers have one length
    intro id hid id' hid' heq
    obtain ⟨span, hspan, rfl⟩ := List.mem_map.1 hid
    obtain ⟨span', hspan', rfl⟩ := List.mem_map.1 hid'
    obtain ⟨out, hout, hcarries⟩ := exists_out hs hspan
    obtain ⟨out', hout', hcarries'⟩ := exists_out hs hspan'
    obtain ⟨way, -, horder, -⟩ := hlookup span hspan out hout hcarries
    obtain ⟨way', -, horder', -⟩ := hlookup span' hspan' out' hout' hcarries'
    have hsuffix := horder.suffix
    have hsuffix' := horder'.suffix
    rw [← heq, hcarries'.remoteId] at hsuffix'
    rw [hcarries.remoteId] at hsuffix
    have hlength : (s.uuid "langsmith-span" span.spanId).toList.length =
        (s.uuid "langsmith-span" span'.spanId).toList.length := by
      rw [s.length_uuid, s.length_uuid]
    have hsame := (List.suffix_of_suffix_length_le hsuffix hsuffix' hlength.le).eq_of_length hlength
    exact hremote hid hid' (String.toList_inj.1 hsame)

end Sanitized

/-- The references of the two spans of the sample differ, and so do their identifiers. -/
theorem injOn_sample {f : String → String}
    (h : f sampleChild.spanId ≠ f sampleRoot.spanId) : Set.InjOn f (spanIds sampleEnvelope) := by
  have hmem : ∀ id ∈ spanIds sampleEnvelope, id = sampleChild.spanId ∨ id = sampleRoot.spanId := by
    intro id hid
    rcases List.mem_cons.1 hid with hid | hid
    · exact .inl hid
    · exact .inr (List.mem_singleton.1 hid)
  intro a ha b hb heq
  rcases hmem a ha with rfl | rfl <;> rcases hmem b hb with rfl | rfl
  · rfl
  · exact absurd heq h
  · exact absurd heq.symm h
  · rfl

theorem exported_tree_sample : ∃ t orders runs documents,
    sampleSanitizer.sanitize sampleEnvelope = .ok t ∧ langsmithOrder t = .ok orders ∧
      langsmithBodies "faultwitness" t = .ok runs ∧
      payload (fun _ => 0) t = .ok (resourceSpans t documents) ∧
      ExportedTree sampleSanitizer sampleEnvelope (orderIn sampleSanitizer orders) runs documents := by
  obtain ⟨t, ht⟩ := exists_sanitize_sample
  obtain ⟨orders, runs, documents, h⟩ := exported_tree sampleSanitizer "faultwitness" (fun _ => 0) ht
    (injOn_sample (by decide +kernel)) (injOn_sample (by decide +kernel))
  exact ⟨t, orders, runs, documents, ht, h⟩

end TraceExporters
