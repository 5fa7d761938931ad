/-
**All or nothing, and identifiers only as references.**

A trace is either refused as a whole or leaves with every span as it came: its name, its stage, its
status, its times and its attributes.  The identifiers of the owner, the correlation, the cause, the
incident, the task and the action leave only in the references made from them.

Main definitions:

* `Sanitizer.SameRest` — two envelopes that differ at most in those identifiers;
* `Sanitizer.SameOutput` — two traces that differ at most in the references made from them.

Main results:

* `Sanitizer.all_or_nothing` — **what is accepted, what is kept, and what depends on what**.
-/

import FaultWitness.Sanitizer

set_option autoImplicit false

namespace Sanitizer

open Timestamps Traces

/-! ### Two envelopes -/

/-- The envelopes differ at most in the identifiers that leave as references. -/
structure SameRest (e e' : TraceEnvelope) : Prop where
  traceId : e'.traceId = e.traceId
  contractsVersion : e'.contractsVersion = e.contractsVersion
  candidateSha : e'.candidateSha = e.candidateSha
  spans : e'.spans = e.spans
  emittedAt : e'.emittedAt = e.emittedAt

/-- The traces differ at most in the digest and in the references of the identifiers in which the
envelopes differ. -/
structure SameOutput (e e' : TraceEnvelope) (t t' : SanitizedTrace) : Prop where
  rest : t' = { t with
    tenantRef := t'.tenantRef, correlationRef := t'.correlationRef, causationRef := t'.causationRef
    incidentRef := t'.incidentRef, taskRef := t'.taskRef, actionRef := t'.actionRef
    payloadDigest := t'.payloadDigest }
  tenantRef : e'.tenantId = e.tenantId → t'.tenantRef = t.tenantRef
  correlationRef : e'.correlationId = e.correlationId → t'.correlationRef = t.correlationRef
  causationRef : e'.causationId = e.causationId → t'.causationRef = t.causationRef
  incidentRef : e'.incidentId = e.incidentId → t'.incidentRef = t.incidentRef
  taskRef : e'.taskId = e.taskId → t'.taskRef = t.taskRef
  actionRef : e'.actionId = e.actionId → t'.actionRef = t.actionRef

theorem TraceSanitizer.Sanitized.sameOutput {s : TraceSanitizer} {e e' : TraceEnvelope}
    {t t' : SanitizedTrace} (h : s.Sanitized e t) (h' : s.Sanitized e' t') (hsame : SameRest e e') :
    SameOutput e e' t t' := by
  have hspans : t'.spans = t.spans := by
    have hmap := h'.spans
    rw [hsame.spans, h.spans] at hmap
    exact (Except.ok.inj hmap).symm
  obtain ⟨root, hroot, ht⟩ := h.trace
  obtain ⟨root', hroot', ht'⟩ := h'.trace
  have hsameRoot : root' = root := by
    rw [hsame.spans, hroot] at hroot'
    cases hroot'
    rfl
  subst hsameRoot
  rw [hspans] at ht'
  rw [ht, ht']
  refine ⟨?_, ?_, ?_, ?_, ?_, ?_, ?_⟩
  · simp only [TraceSanitizer.trace, hsame.traceId, hsame.contractsVersion, hsame.candidateSha,
      hsame.emittedAt]
  all_goals
    intro heq
    simp only [TraceSanitizer.trace, heq]

/-! ### The guarantee -/

/-- **A trace is accepted if and only if all its names and attributes are allowed; it then carries
exactly the spans of the envelope, and what tells its owner and its purpose only as references.** -/
theorem all_or_nothing (s : TraceSanitizer) (e : TraceEnvelope)
    (hvalid : validateGraph e.spans = .ok ()) :
    ((∃ t, s.sanitize e = .ok t) ↔ ∀ span ∈ e.spans, s.FitsName span.name span.stage ∧
      ∀ entry ∈ span.attributes, s.FitsAttribute entry) ∧
    (∀ t, s.sanitize e = .ok t →
      (sortSpans e.spans).Perm e.spans ∧ List.Forall₂ s.Carries (sortSpans e.spans) t.spans) ∧
    ∀ e' t t', SameRest e e' → s.sanitize e = .ok t → s.sanitize e' = .ok t' →
      SameOutput e e' t t' := by
  refine ⟨⟨?_, s.exists_sanitize hvalid⟩, ?_, ?_⟩
  · rintro ⟨t, ht⟩
    exact (s.sanitized_of_eq_ok ht).fits
  · intro t ht
    exact ⟨List.perm_insertionSort _ e.spans, (s.sanitized_of_eq_ok ht).carries⟩
  · intro e' t t' hsame ht ht'
    exact (s.sanitized_of_eq_ok ht).sameOutput (s.sanitized_of_eq_ok ht') hsame

/-- The sample for another owner differs in the reference to the owner and in the digest. -/
theorem all_or_nothing_sample : ∃ t t', sampleSanitizer.sanitize sampleEnvelope = .ok t ∧
    sampleSanitizer.sanitize { sampleEnvelope with tenantId := "ten_01K0000000000000000000000B" } =
      .ok t' ∧
    t' = { t with tenantRef := t'.tenantRef, payloadDigest := t'.payloadDigest } := by
  let other : TraceEnvelope :=
    { sampleEnvelope with tenantId := "ten_01K0000000000000000000000B" }
  obtain ⟨haccepts, -, htwo⟩ := all_or_nothing sampleSanitizer sampleEnvelope validateGraph_sample
  obtain ⟨t, ht⟩ := haccepts.2 fits_sample
  obtain ⟨t', ht'⟩ : ∃ t', sampleSanitizer.sanitize other = .ok t' :=
    sampleSanitizer.exists_sanitize validateGraph_sample fits_sample
  have hsame := htwo other t t' ⟨rfl, rfl, rfl, rfl, rfl⟩ ht ht'
  have hrest := hsame.rest
  rw [hsame.correlationRef rfl, hsame.causationRef rfl, hsame.incidentRef rfl, hsame.taskRef rfl,
    hsame.actionRef rfl] at hrest
  exact ⟨t, t', ht, ht', hrest⟩

end Sanitizer
