/-
**Reordered envelopes.**

The spans of an envelope and the attributes of a span may arrive in any order.  The sanitizer sorts the
spans by their start and their identifier and the attributes by their keys, and finds the root and the
parents by their values, so that the trace does not depend on the order.  The buffer then answers that
it has the trace already.

Main definitions:

* `Sanitizer.SpanRecord.Reordered`, `Sanitizer.TraceEnvelope.Reordered` — the same content in another
  order.

Main results:

* `Sanitizer.sanitize_unique` — reordered envelopes have one trace;
* `Sanitizer.reordered_duplicate` — **a reordered envelope has the same trace, and the buffer answers it
  as a duplicate**.
-/

import FaultWitness.SealedTraces
import FaultWitness.BufferCapacity
import FaultWitness.AtLeastOnce
import Mathlib.Data.List.Lex

set_option autoImplicit false

namespace Sanitizer

open Python Traces Runs MemoryBuffer DrainWorkers

/-! ### Orders -/

/-- The span with its attributes in another order. -/
def SpanRecord.Reordered (a b : SpanRecord) : Prop :=
  ∃ attributes attributes_nodup, b = { a with attributes, attributes_nodup } ∧
    attributes.Perm a.attributes

/-- The envelope with its spans in another order, and with their attributes in other orders. -/
def TraceEnvelope.Reordered (a b : TraceEnvelope) : Prop :=
  ∃ spans spans_ne mid, b = { a with spans, spans_ne } ∧ mid.Perm a.spans ∧
    List.Forall₂ SpanRecord.Reordered mid spans

/-- The span with its attributes in the order of their keys. -/
def SpanRecord.ordered (span : SpanRecord) : SpanRecord where
  spanId := span.spanId
  parentSpanId := span.parentSpanId
  name := span.name
  stage := span.stage
  startedAt := span.startedAt
  endedAt := span.endedAt
  status := span.status
  attributes := span.attributes.insertionSort fun a b => a.1 ≤ b.1
  attributes_nodup :=
    ((List.perm_insertionSort (fun a b => a.1 ≤ b.1) span.attributes).map Prod.fst).nodup_iff.2
      span.attributes_nodup

/-- Lists with distinct keys that are in the order of their keys are equal if they have the same entries. -/
theorem eq_of_perm_of_keys {α : Type} {l l' : List (String × α)} (hperm : l.Perm l')
    (hkeys : (l.map Prod.fst).Nodup) (h : l.Pairwise fun a b => a.1 ≤ b.1)
    (h' : l'.Pairwise fun a b => a.1 ≤ b.1) : l = l' := by
  refine hperm.eq_of_pairwise ?_ h h'
  intro a b ha hb hab hba
  exact List.inj_on_of_nodup_map hkeys ha (hperm.mem_iff.2 hb) (String.le_antisymm hab hba)

theorem SpanRecord.Reordered.ordered_eq {a b : SpanRecord} (h : a.Reordered b) :
    a.ordered = b.ordered := by
  obtain ⟨attributes, attributes_nodup, rfl, hperm⟩ := h
  have hsort (l : List (String × AttributeValue)) :
      (l.insertionSort fun a b => a.1 ≤ b.1).Pairwise fun a b => a.1 ≤ b.1 :=
    List.pairwise_insertionSort _ l
  have hattributes : (a.attributes.insertionSort fun a b => a.1 ≤ b.1) =
      attributes.insertionSort fun a b => a.1 ≤ b.1 := by
    refine eq_of_perm_of_keys ?_ ?_ (hsort _) (hsort _)
    · exact ((List.perm_insertionSort _ _).trans hperm.symm).trans (List.perm_insertionSort _ _).symm
    · exact a.ordered.attributes_nodup
  simp only [SpanRecord.ordered, hattributes]

instance : Std.Total SpanRecord.le where
  total a b := by
    rcases lt_trichotomy a.startedAt.key b.startedAt.key with hlt | heq | hgt
    · exact .inl (.inl hlt)
    · exact (String.le_total a.spanId b.spanId).imp (fun h => .inr ⟨heq, h⟩) fun h => .inr ⟨heq.symm, h⟩
    · exact .inr (.inl hgt)

instance : IsTrans SpanRecord SpanRecord.le where
  trans a b c hab hbc := by
    rcases hab with hab | ⟨hab, hid⟩
    · refine .inl ?_
      rcases hbc with hbc | ⟨hbc, -⟩
      · exact hab.trans hbc
      · exact hbc ▸ hab
    · rcases hbc with hbc | ⟨hbc, hid'⟩
      · exact .inl (hab ▸ hbc)
      · exact .inr ⟨hab.trans hbc, String.le_trans hid hid'⟩

theorem SpanRecord.le_ordered (a b : SpanRecord) : a.le b ↔ a.ordered.le b.ordered := Iff.rfl

theorem map_sortSpans (spans : List SpanRecord) :
    (sortSpans spans).map SpanRecord.ordered = sortSpans (spans.map SpanRecord.ordered) :=
  List.map_insertionSort SpanRecord.le SpanRecord.le SpanRecord.ordered spans
    fun a _ b _ => SpanRecord.le_ordered a b

theorem sortSpans_eq_of_perm {spans spans' : List SpanRecord} (hids : (spans.map SpanRecord.spanId).Nodup)
    (h : spans.Perm spans') : sortSpans spans = sortSpans spans' := by
  have hperm : (sortSpans spans).Perm (sortSpans spans') :=
    ((List.perm_insertionSort _ spans).trans h).trans (List.perm_insertionSort _ spans').symm
  refine hperm.eq_of_pairwise ?_ (List.pairwise_insertionSort _ _) (List.pairwise_insertionSort _ _)
  intro a b ha hb hab hba
  have hid : a.spanId = b.spanId := by
    rcases hab with hab | ⟨heq, hab⟩
    · rcases hba with hba | ⟨heq, -⟩
      · exact absurd (hab.trans hba) (lt_irrefl _)
      · exact absurd hab (heq ▸ lt_irrefl _)
    · rcases hba with hba | ⟨-, hba⟩
      · exact absurd hba (heq ▸ lt_irrefl _)
      · exact String.le_antisymm hab hba
  exact List.inj_on_of_nodup_map hids (mem_sortSpans.1 ha) (h.mem_iff.2 (mem_sortSpans.1 hb)) hid

/-! ### The trace -/

variable {s : TraceSanitizer} {t : SanitizedTrace}

/-- What carries the attributes of a span has them in the order of their keys. -/
theorem attributes_eq_of_perm {a b : Attributes}
    (h : (a.entries.map fun e => (e.1, AttributeValue.scalar e.2)).Perm
      (b.entries.map fun e => (e.1, AttributeValue.scalar e.2))) : a = b := by
  have hinj : Function.Injective fun e : String × Scalar => (e.1, AttributeValue.scalar e.2) := by
    intro e f hef
    obtain ⟨hkey, hvalue⟩ := Prod.mk.inj hef
    exact Prod.ext hkey (AttributeValue.scalar.inj hvalue)
  have hperm : a.entries.Perm b.entries := (List.map_perm_map_iff hinj).1 h
  have hkeys : (a.entries.map Prod.fst).Nodup := by
    refine a.sorted.imp ?_
    intro k k' hlt heq
    exact String.lt_irrefl k' (heq ▸ hlt)
  have hle (c : Attributes) : c.entries.Pairwise fun a b => a.1 ≤ b.1 :=
    (List.pairwise_map.1 c.sorted).imp fun hlt => Std.le_of_lt hlt
  have hentries := eq_of_perm_of_keys hperm hkeys (hle a) (hle b)
  cases a
  cases b
  cases hentries
  rfl

/-- Spans that differ in the order of their attributes are turned into one. -/
theorem carries_unique {a b : SpanRecord} {out out' : SanitizedSpan} (hab : a.ordered = b.ordered)
    (h : s.Carries a out) (h' : s.Carries b out') : out = out' := by
  have hperm (span : SpanRecord) : span.ordered.attributes.Perm span.attributes :=
    List.perm_insertionSort _ _
  obtain ⟨hid, hparent, hname, hstage, hstart, hend, hstatus, hsorted⟩ := SpanRecord.mk.inj hab
  have hattributes : a.attributes.Perm b.attributes := by
    refine (hperm a).symm.trans ?_
    rw [hab]
    exact hperm b
  have hsame : out.attributes = out'.attributes :=
    attributes_eq_of_perm ((h.attributes.trans hattributes).trans h'.attributes.symm)
  have hended : out.endedAt = out'.endedAt := by
    refine Option.some.inj ?_
    rw [← h.endedAt, hend, h'.endedAt]
  obtain ⟨hspanRef, hremoteId, hotlp, hparentRef, hname₁, hstage₁, hstarted, -, hstatus₁, -⟩ := h
  obtain ⟨hspanRef', hremoteId', hotlp', hparentRef', hname', hstage', hstarted', -, hstatus', -⟩ := h'
  rw [← hid] at hspanRef' hremoteId' hotlp'
  rw [← hparent] at hparentRef'
  rw [← hname] at hname'
  rw [← hstage] at hstage'
  rw [← hstart] at hstarted'
  rw [← hstatus] at hstatus'
  cases out
  cases out'
  simp only [SanitizedSpan.mk.injEq]
  exact ⟨hspanRef.trans hspanRef'.symm, hremoteId.trans hremoteId'.symm, hotlp.trans hotlp'.symm,
    hparentRef.trans hparentRef'.symm, hname₁.trans hname'.symm, hstage₁.trans hstage'.symm,
    hstarted.trans hstarted'.symm, hended, hstatus₁.trans hstatus'.symm, hsame⟩

theorem eq_of_carries {spans spans' : List SpanRecord} {outs outs' : List SanitizedSpan}
    (h : spans.map SpanRecord.ordered = spans'.map SpanRecord.ordered)
    (houts : List.Forall₂ s.Carries spans outs) (houts' : List.Forall₂ s.Carries spans' outs') :
    outs = outs' := by
  induction houts generalizing spans' outs' with
  | nil =>
    cases houts' with
    | nil => rfl
    | cons _ _ => cases h
  | cons hfirst _ ih =>
    cases houts' with
    | nil => cases h
    | cons hfirst' hrest' =>
      obtain ⟨hordered, hrest⟩ := List.cons.inj h
      rw [carries_unique hordered hfirst hfirst', ih hrest hrest']

theorem TraceEnvelope.Reordered.perm_ordered {a b : TraceEnvelope} (h : a.Reordered b) :
    (a.spans.map SpanRecord.ordered).Perm (b.spans.map SpanRecord.ordered) := by
  obtain ⟨spans, spans_ne, mid, rfl, hperm, hspans⟩ := h
  have hmid : mid.map SpanRecord.ordered = spans.map SpanRecord.ordered := by
    clear hperm spans_ne
    induction hspans with
    | nil => rfl
    | cons hfirst _ ih => rw [List.map_cons, List.map_cons, hfirst.ordered_eq, ih]
  exact hmid ▸ (hperm.map SpanRecord.ordered).symm

theorem map_spanId_ordered (spans : List SpanRecord) :
    (spans.map SpanRecord.ordered).map SpanRecord.spanId = spans.map SpanRecord.spanId := by
  rw [List.map_map]
  rfl

/-- The roots of reordered envelopes have one identifier. -/
theorem root_unique {a b : List SpanRecord} (hgraph : ValidGraph b)
    (hperm : (a.map SpanRecord.ordered).Perm (b.map SpanRecord.ordered)) {root root' : SpanRecord}
    (hroot : a.find? (fun span => span.parentSpanId = none) = some root)
    (hroot' : b.find? (fun span => span.parentSpanId = none) = some root') :
    root.spanId = root'.spanId := by
  obtain ⟨other, hother, hordered⟩ := List.mem_map.1
    (hperm.mem_iff.1 (List.mem_map_of_mem (List.mem_of_find?_eq_some hroot)))
  have hnone : other.parentSpanId = none := by
    have hparent : other.parentSpanId = root.parentSpanId := (SpanRecord.mk.inj hordered).2.1
    rw [hparent]
    simpa using List.find?_some hroot
  have hid : other.spanId = root.spanId := (SpanRecord.mk.inj hordered).1
  obtain ⟨unique, hfilter⟩ := hgraph.root
  have hmem : ∀ span ∈ b, span.parentSpanId = none → span = unique := by
    intro span hspan hparent
    rw [← List.mem_singleton (b := unique), ← hfilter, List.mem_filter, decide_eq_true_eq]
    exact ⟨hspan, hparent⟩
  have hnone' : root'.parentSpanId = none := by simpa using List.find?_some hroot'
  rw [← hid, hmem other hother hnone, hmem root' (List.mem_of_find?_eq_some hroot') hnone']

/-- **Reordered envelopes have one trace.** -/
theorem sanitize_unique {a b : TraceEnvelope} (hab : a.Reordered b) {t' : SanitizedTrace}
    (h : s.sanitize a = .ok t) (h' : s.sanitize b = .ok t') : t = t' := by
  have hs := s.sanitized_of_eq_ok h
  have hs' := s.sanitized_of_eq_ok h'
  have hperm := hab.perm_ordered
  have hids : ((a.spans.map SpanRecord.ordered).map SpanRecord.spanId).Nodup := by
    rw [map_spanId_ordered]
    exact hs.graph.nodup
  have hsorted : (sortSpans a.spans).map SpanRecord.ordered =
      (sortSpans b.spans).map SpanRecord.ordered := by
    rw [map_sortSpans, map_sortSpans, sortSpans_eq_of_perm hids hperm]
  have hspans := eq_of_carries hsorted hs.carries hs'.carries
  obtain ⟨root, hroot, ht⟩ := hs.trace
  obtain ⟨root', hroot', ht'⟩ := hs'.trace
  have hid := root_unique hs'.graph hperm hroot hroot'
  have htrace : ∀ digest, s.trace a root t.spans digest = s.trace b root' t'.spans digest := by
    intro digest
    obtain ⟨spans, spans_ne, mid, rfl, -, -⟩ := hab
    simp only [TraceSanitizer.trace, hid, hspans]
  have hvalues : s.values a root t.spans = s.values b root' t'.spans := by
    obtain ⟨spans, spans_ne, mid, rfl, -, -⟩ := hab
    simp only [TraceSanitizer.values, hid, hspans]
  rw [ht, ht', htrace, hvalues]

/-! ### The buffer -/

variable {cfg : Config}

/-- The buffer has a record of the trace, with its digest. -/
def Recorded (b : Buffer) (t : SanitizedTrace) : Prop :=
  ∃ record, b.lookup t.traceRef = some record ∧ record.payload.payloadDigest = t.payloadDigest

variable {b : Buffer}

theorem Recorded.samePayloads {b' : Buffer} (h : Recorded b t) (hsame : SamePayloads b b') :
    Recorded b' t := by
  obtain ⟨record, hrecord, hdigest⟩ := h
  obtain ⟨record', hrecord', hpayload⟩ := hsame.lookup hrecord
  exact ⟨record', hrecord', hpayload ▸ hdigest⟩

variable {nonce : List UInt8}

/-- A trace that was taken in, or that was there already, is recorded. -/
theorem recorded_of_answered {answer : Bool} (h : (enqueue cfg b t nonce).1 = .ok answer) :
    Recorded (enqueue cfg b t nonce).2 t := by
  rw [enqueue] at h ⊢
  cases hseal : cfg.cipher.seal t nonce with
  | error err =>
    rw [hseal] at h
    cases h
  | ok payload =>
    rw [hseal] at h
    cases hprior : b.lookup t.traceRef with
    | some prior =>
      simp only [hprior] at h ⊢
      by_cases hdigest : prior.payload.payloadDigest = t.payloadDigest
      · rw [if_neg (not_not.2 hdigest)]
        exact ⟨prior, hprior, hdigest⟩
      · rw [if_pos hdigest] at h
        cases h
    | none =>
      simp only [hprior] at h ⊢
      by_cases hfull : cfg.capacity ≤ pending b
      · rw [if_pos hfull] at h
        cases h
      · obtain ⟨body, content, -, -, -, rfl⟩ := seal_eq_ok hseal
        rw [if_neg hfull]
        exact ⟨_, AList.lookup_insert b, rfl⟩

/-- No call removes a record or changes its payload. -/
theorem Recorded.perform {b' : Buffer} (h : Recorded b t) {call : Call}
    (hcall : perform cfg b call = some b') : Recorded b' t := by
  cases call with
  | enqueue trace nonce =>
    obtain rfl := Option.some.inj hcall
    rcases enqueue_cases cfg b trace nonce with ⟨hsame, -⟩ | ⟨payload, -, hnone, -, hinsert⟩
    · rw [hsame]
      exact h
    · obtain ⟨record, hrecord, hdigest⟩ := h
      have hne : t.traceRef ≠ trace.traceRef := by
        intro heq
        rw [heq, hnone] at hrecord
        cases hrecord
      rw [hinsert]
      exact ⟨record, (AList.lookup_insert_ne hne).trans hrecord, hdigest⟩
  | claim sink limit leaseSeconds now =>
    obtain rfl := Option.some.inj hcall
    obtain ⟨leased, hloop⟩ := loop_claim cfg b sink limit leaseSeconds now
    exact h.samePayloads (samePayloads_claimed hloop.leases)
  | acknowledge ref sink =>
    obtain rfl := Option.some.inj hcall
    rcases acknowledge_cases b ref sink with ⟨-, hsame⟩ | ⟨record, hrecord, hput⟩
    · rw [hsame]
      exact h
    · rw [hput]
      exact h.samePayloads (samePayloads_put hrecord _ _)
  | retry ref sink errorCode =>
    obtain rfl := Option.some.inj hcall
    rcases retry_cases b ref sink errorCode with ⟨hsame, -⟩ | ⟨record, hrecord, -, hput⟩
    · rw [hsame]
      exact h
    · rw [hput]
      exact h.samePayloads (samePayloads_put hrecord _ _)

theorem Recorded.enqueue_eq (h : Recorded b t) {payload : EncryptedPayload}
    (hseal : cfg.cipher.seal t nonce = .ok payload) : enqueue cfg b t nonce = (.ok false, b) := by
  obtain ⟨record, hrecord, hdigest⟩ := h
  rw [enqueue, hseal]
  simp only [hrecord]
  exact if_neg (not_not.2 hdigest)

/-- **A reordered envelope has the same trace, and the buffer answers it as a duplicate**, whatever calls
came between. -/
theorem reordered_duplicate (s : TraceSanitizer) (cfg : Config) (hsha256 : cfg.cipher.sha256 = s.sha256)
    {a b : TraceEnvelope} (hab : a.Reordered b) {t t' : SanitizedTrace} (h : s.sanitize a = .ok t)
    (h' : s.sanitize b = .ok t') :
    t = t' ∧ t.payloadDigest = t'.payloadDigest ∧
      ∀ before nonce answer, (enqueue cfg before t nonce).1 = .ok answer →
        ∀ after, Reachable (perform cfg) (enqueue cfg before t nonce).2 after → ∀ nonce',
          enqueue cfg after t' nonce' = (.ok false, after) := by
  obtain rfl := sanitize_unique hab h h'
  refine ⟨rfl, rfl, fun before nonce answer hanswer after hafter nonce' => ?_⟩
  have hs := s.sanitized_of_eq_ok h
  have hdigest : cfg.cipher.sha256 (t.document false).dumps = t.payloadDigest := by
    rw [hsha256, hs.digest]
  obtain ⟨payload, hseal⟩ := exists_seal hs.sound hdigest nonce'
  have hrecorded : Recorded after t :=
    hafter.invariant (I := fun b => Recorded b t) (recorded_of_answered hanswer)
      fun _ _ _ hb _ hcall => hb.perform hcall
  exact hrecorded.enqueue_eq hseal

/-! ### A sample -/

/-- The span of the sample below the root, with its attributes the other way round. -/
def reversedChild : SpanRecord :=
  { sampleChild with
    attributes := [("retry.attempt", .scalar (.int 1)), ("model.family", .scalar (.str "qwen"))]
    attributes_nodup := by decide }

def reversedEnvelope : TraceEnvelope :=
  { sampleEnvelope with spans := [sampleRoot, reversedChild], spans_ne := by simp }

theorem reordered_sample : sampleEnvelope.Reordered reversedEnvelope :=
  ⟨[sampleRoot, reversedChild], _, [sampleRoot, sampleChild], rfl, List.Perm.swap _ _ _,
    .cons ⟨_, sampleRoot.attributes_nodup, rfl, .refl _⟩
      (.cons ⟨_, reversedChild.attributes_nodup, rfl, List.Perm.swap _ _ _⟩ .nil)⟩

theorem exists_sanitize_reversed : ∃ t, sampleSanitizer.sanitize reversedEnvelope = .ok t := by
  refine sampleSanitizer.exists_sanitize (by decide +kernel) ?_
  intro span hspan
  rcases List.mem_cons.1 hspan with rfl | hspan
  · exact fits_sample sampleRoot (List.mem_cons_of_mem _ List.mem_cons_self)
  · obtain rfl := List.mem_singleton.1 hspan
    obtain ⟨hname, hattributes⟩ := fits_sample sampleChild List.mem_cons_self
    exact ⟨hname, fun entry hentry => hattributes entry ((List.Perm.swap _ _ []).mem_iff.1 hentry)⟩

theorem reordered_duplicate_sample : ∃ t t', sampleSanitizer.sanitize sampleEnvelope = .ok t ∧
    sampleSanitizer.sanitize reversedEnvelope = .ok t' ∧ t = t' ∧ t.payloadDigest = t'.payloadDigest ∧
      enqueue sampleSmall (enqueue sampleSmall ∅ t sampleNonce).2 t' sampleNonce =
        (.ok false, (enqueue sampleSmall ∅ t sampleNonce).2) := by
  obtain ⟨t, ht⟩ := exists_sanitize_sample
  obtain ⟨t', ht'⟩ := exists_sanitize_reversed
  obtain ⟨heq, hdigest, hagain⟩ :=
    reordered_duplicate sampleSanitizer sampleSmall rfl reordered_sample ht ht'
  obtain ⟨payload, hseal⟩ : ∃ payload, sampleSmall.cipher.seal t sampleNonce = .ok payload := by
    have hs := sampleSanitizer.sanitized_of_eq_ok ht
    exact exists_seal hs.sound hs.digest sampleNonce
  have hfirst : (enqueue sampleSmall ∅ t sampleNonce).1 = .ok true := by
    rw [enqueue_empty hseal]
  exact ⟨t, t', ht, ht', heq, hdigest, hagain ∅ sampleNonce true hfirst _ .refl sampleNonce⟩

end Sanitizer
