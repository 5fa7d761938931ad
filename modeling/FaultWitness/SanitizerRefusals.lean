/-
**The exceptions of the sanitizer.**

`sanitize` is meant to end in a trace or in a `SanitizationRejected`.  The check of the graph walks up
from every span in the order of the list, and it looks up the parent of a parent before that one has had
its turn.  So a span whose ancestors lead out of the trace ends the check with a `KeyError` if it stands
before all ancestors of it that would be rejected.  The only other way out is an integer with more
digits than `str` prints.

Main definitions:

* `Sanitizer.Walk` — where the walk up the parents ends, and after how many steps;
* `Sanitizer.LeadsOut` — the first span that is not in order leads out of the trace;
* `Sanitizer.Oversized` — the first value that is not allowed is an integer that `str` refuses.

Main results:

* `Sanitizer.climb_of_walk` — **the loop finds the end of the walk**;
* `Sanitizer.handled_iff` — **a trace or a rejection, exactly if neither of the two comes first**.
-/

import FaultWitness.Sanitizer

set_option autoImplicit false

namespace Sanitizer

open Python Traces

/-! ### The walk up the parents -/

/-- The walk from a parent ends after some steps, at a root or at a parent that is no span. -/
inductive Walk (spans : List SpanRecord) : Option String → ℕ → Bool → Prop
  | top : Walk spans none 0 true
  | out {parent : String} : parentOf spans parent = none → Walk spans (some parent) 0 false
  | up {parent : String} {next : Option String} {n : ℕ} {inside : Bool} :
      parentOf spans parent = some next → Walk spans next n inside →
      Walk spans (some parent) (n + 1) inside

variable {spans : List SpanRecord} {parent : Option String} {span : SpanRecord} {inside : Bool}
  {visited : List String}

theorem Walk.unique {n n' : ℕ} {inside' : Bool} (h : Walk spans parent n inside)
    (h' : Walk spans parent n' inside') : n = n' ∧ inside = inside' := by
  induction h generalizing n' with
  | top =>
    cases h' with
    | top => exact ⟨rfl, rfl⟩
  | out hout =>
    cases h' with
    | out _ => exact ⟨rfl, rfl⟩
    | up hnext _ =>
      rw [hout] at hnext
      cases hnext
  | up hnext _ ih =>
    cases h' with
    | out hout =>
      rw [hnext] at hout
      cases hout
    | up hnext' hwalk' =>
      rw [hnext] at hnext'
      cases hnext'
      obtain ⟨hn, hinside⟩ := ih hwalk'
      exact ⟨congrArg (· + 1) hn, hinside⟩

/-- A loop that ends normally or with a `KeyError` has come to the end of the walk. -/
theorem walk_of_climb {fuel : ℕ}
    (h : climb spans fuel visited parent = if inside then .ok () else .error .keyError) :
    ∃ n, Walk spans parent n inside := by
  induction fuel generalizing visited parent with
  | zero =>
    cases parent with
    | none =>
      cases inside with
      | true => exact ⟨0, .top⟩
      | false => cases h
    | some p => cases inside <;> cases h
  | succ fuel ih =>
    cases parent with
    | none =>
      cases inside with
      | true => exact ⟨0, .top⟩
      | false => cases h
    | some p =>
      rw [climb] at h
      split at h
      · cases inside <;> cases h
      cases hnext : parentOf spans p with
      | none =>
        rw [hnext] at h
        cases inside with
        | true => cases h
        | false => exact ⟨0, .out hnext⟩
      | some next =>
        rw [hnext] at h
        obtain ⟨n, hwalk⟩ := ih h
        exact ⟨n + 1, .up hnext hwalk⟩

/-- **The loop finds the end of the walk**, if the spans it has visited are further from it. -/
theorem climb_of_walk {n : ℕ} (h : Walk spans parent n inside) {fuel : ℕ}
    (hvisited : ∀ v ∈ visited, ∃ m inside', Walk spans (some v) m inside' ∧ n < m) :
    climb spans fuel visited parent = .error .exhausted ∨
      climb spans fuel visited parent = if inside then .ok () else .error .keyError := by
  induction h generalizing fuel visited with
  | top =>
    right
    cases fuel <;> rfl
  | @out p hout =>
    cases fuel with
    | zero => exact Or.inl rfl
    | succ fuel =>
      right
      have hnew : p ∉ visited := by
        intro hmem
        obtain ⟨m, inside', hwalk, hlt⟩ := hvisited p hmem
        have hzero := (hwalk.unique (.out hout)).1
        omega
      rw [climb, if_neg hnew, hout]
      rfl
  | @up p next n inside hnext hwalk ih =>
    cases fuel with
    | zero => exact Or.inl rfl
    | succ fuel =>
      have hnew : p ∉ visited := by
        intro hmem
        obtain ⟨m, inside', hwalk', hlt⟩ := hvisited p hmem
        have hsame := (hwalk'.unique (.up hnext hwalk)).1
        omega
      rw [climb, if_neg hnew, hnext]
      refine ih fun v hv => ?_
      rcases List.mem_cons.1 hv with rfl | hv
      · exact ⟨n + 1, inside, .up hnext hwalk, Nat.lt_succ_self n⟩
      · obtain ⟨m, inside', hwalk', hlt⟩ := hvisited v hv
        exact ⟨m, inside', hwalk', by omega⟩

theorem climb_eq_iff (hids : (spans.map SpanRecord.spanId).Nodup) (hspan : span ∈ spans)
    (inside : Bool) :
    (climb spans spans.length [span.spanId] span.parentSpanId =
        if inside then .ok () else .error .keyError) ↔
      ∃ n, Walk spans span.parentSpanId n inside := by
  refine ⟨walk_of_climb, ?_⟩
  rintro ⟨n, hwalk⟩
  have hvisited : ∀ v ∈ [span.spanId], ∃ m inside', Walk spans (some v) m inside' ∧ n < m := by
    intro v hv
    rw [List.mem_singleton] at hv
    subst hv
    exact ⟨n + 1, inside, .up (parentOf_of_mem hids hspan) hwalk, Nat.lt_succ_self n⟩
  exact (climb_of_walk hwalk hvisited).resolve_left (climb_from_ne_exhausted hspan)

/-! ### The check of the graph -/

/-- A span that has ended and whose ancestors lead to a root. -/
def InOrder (spans : List SpanRecord) (span : SpanRecord) : Prop :=
  span.endedAt ≠ none ∧ ∃ n, Walk spans span.parentSpanId n true

/-- The identifiers are distinct, there is one root, and the first span that is not in order has ended
and has a parent in the trace, from which the parents lead to one outside. -/
def LeadsOut (spans : List SpanRecord) : Prop :=
  (spans.map SpanRecord.spanId).Nodup ∧
    (spans.filter fun span => span.parentSpanId = none).length = 1 ∧
    ∃ before span after, spans = before ++ span :: after ∧ (∀ x ∈ before, InOrder spans x) ∧
      span.endedAt ≠ none ∧ ∃ n, Walk spans span.parentSpanId (n + 1) false

/-- The identifiers are distinct, there is one root, and all spans are in order. -/
def Ordered (spans : List SpanRecord) : Prop :=
  (spans.map SpanRecord.spanId).Nodup ∧
    (spans.filter fun span => span.parentSpanId = none).length = 1 ∧
    ∀ span ∈ spans, InOrder spans span

theorem checkSpan_eq_ok_iff (hids : (spans.map SpanRecord.spanId).Nodup) (hspan : span ∈ spans) :
    checkSpan spans span = .ok () ↔ InOrder spans span := by
  rw [checkSpan]
  by_cases hended : span.endedAt = none
  · rw [if_pos hended]
    exact iff_of_false (by simp) fun h => h.1 hended
  rw [if_neg hended]
  by_cases hout : ∃ parent ∈ span.parentSpanId, parent ∉ spans.map SpanRecord.spanId
  · rw [if_pos hout]
    refine iff_of_false (by simp) ?_
    rintro ⟨-, n, hwalk⟩
    obtain ⟨parent, hparent, hnot⟩ := hout
    rw [Option.mem_def.1 hparent] at hwalk
    cases hwalk with
    | up hnext _ => exact hnot (mem_of_parentOf hnext)
  · rw [if_neg hout]
    exact (climb_eq_iff hids hspan true).trans (and_iff_right hended).symm

theorem mem_iff_parentOf {spanId : String} :
    spanId ∈ spans.map SpanRecord.spanId ↔ parentOf spans spanId ≠ none := by
  constructor
  · intro hmem hnone
    obtain ⟨span, hspan, rfl⟩ := List.mem_map.1 hmem
    rw [parentOf, Option.map_eq_none_iff, List.find?_eq_none] at hnone
    exact hnone span hspan (decide_eq_true rfl)
  · intro hsome
    obtain ⟨parent, hparent⟩ := Option.ne_none_iff_exists'.1 hsome
    exact mem_of_parentOf hparent

theorem checkSpan_eq_keyError_iff (hids : (spans.map SpanRecord.spanId).Nodup)
    (hspan : span ∈ spans) : checkSpan spans span = .error .keyError ↔
      span.endedAt ≠ none ∧ ∃ n, Walk spans span.parentSpanId (n + 1) false := by
  rw [checkSpan]
  by_cases hended : span.endedAt = none
  · rw [if_pos hended]
    exact iff_of_false (by simp) fun h => h.1 hended
  rw [if_neg hended]
  by_cases hout : ∃ parent ∈ span.parentSpanId, parent ∉ spans.map SpanRecord.spanId
  · rw [if_pos hout]
    refine iff_of_false (by simp) ?_
    rintro ⟨-, n, hwalk⟩
    obtain ⟨parent, hparent, hnot⟩ := hout
    rw [Option.mem_def.1 hparent] at hwalk
    cases hwalk with
    | up hnext _ => exact hnot (mem_of_parentOf hnext)
  · rw [if_neg hout]
    refine (climb_eq_iff hids hspan false).trans ?_
    rw [and_iff_right hended]
    constructor
    · rintro ⟨n, hwalk⟩
      generalize hparent : span.parentSpanId = parent at hwalk hout
      cases hwalk with
      | @out p hnone =>
        refine absurd ⟨p, rfl, ?_⟩ hout
        rw [mem_iff_parentOf]
        exact not_not.2 hnone
      | @up p next n _ hnext hwalk => exact ⟨n, .up hnext hwalk⟩
    · rintro ⟨n, hwalk⟩
      exact ⟨n + 1, hwalk⟩

/-- **When the check of the graph ends with a `KeyError`.** -/
theorem validateGraph_eq_keyError_iff (spans : List SpanRecord) :
    validateGraph spans = .error .keyError ↔ LeadsOut spans := by
  rw [validateGraph, LeadsOut]
  by_cases hids : (spans.map SpanRecord.spanId).Nodup
  swap
  · rw [if_pos hids]
    exact iff_of_false (by simp) fun h => hids h.1
  rw [if_neg (not_not.2 hids)]
  by_cases hroot : (spans.filter fun span => span.parentSpanId = none).length = 1
  swap
  · rw [if_pos hroot]
    exact iff_of_false (by simp) fun h => hroot h.2.1
  rw [if_neg (not_not.2 hroot), forM_eq_error_iff, and_iff_right hids, and_iff_right hroot]
  refine exists_congr fun before => exists_congr fun span => exists_congr fun after => ?_
  refine and_congr_right fun hsplit => ?_
  have hbefore : ∀ x ∈ before, x ∈ spans := by
    intro x hx
    rw [hsplit]
    exact List.mem_append_left _ hx
  have hspan : span ∈ spans := by
    rw [hsplit]
    exact List.mem_append_right _ List.mem_cons_self
  rw [checkSpan_eq_keyError_iff hids hspan]
  refine and_congr_left fun _ => forall_congr' fun x => forall_congr' fun hx => ?_
  exact checkSpan_eq_ok_iff hids (hbefore x hx)

/-- **When the graph is accepted.** -/
theorem validateGraph_eq_ok_iff (spans : List SpanRecord) :
    validateGraph spans = .ok () ↔ Ordered spans := by
  rw [validateGraph, Ordered]
  by_cases hids : (spans.map SpanRecord.spanId).Nodup
  swap
  · rw [if_pos hids]
    exact iff_of_false (by simp) fun h => hids h.1
  rw [if_neg (not_not.2 hids)]
  by_cases hroot : (spans.filter fun span => span.parentSpanId = none).length = 1
  swap
  · rw [if_pos hroot]
    exact iff_of_false (by simp) fun h => hroot h.2.1
  rw [if_neg (not_not.2 hroot), forM_eq_ok, and_iff_right hids, and_iff_right hroot]
  exact forall_congr' fun span => forall_congr' fun hspan => checkSpan_eq_ok_iff hids hspan

/-! ### Exceptions -/

/-- The exceptions of the class `SanitizationRejected`. -/
def SanitizerError.rejected : SanitizerError → Bool
  | .keyError | .stopIteration | .attributeError | .unprintable | .exhausted => false
  | _ => true

variable {err : SanitizerError}

theorem rejected_of_checkSpan (h : checkSpan spans span = .error err) :
    err.rejected = true ∨ err = .keyError ∨ err = .exhausted := by
  have hclimb : ∀ {fuel : ℕ} {visited : List String} {parent : Option String},
      climb spans fuel visited parent = .error err →
        err.rejected = true ∨ err = .keyError ∨ err = .exhausted := by
    intro fuel
    induction fuel with
    | zero =>
      intro visited parent h
      cases parent with
      | none => cases h
      | some p =>
        cases h
        exact Or.inr (Or.inr rfl)
    | succ fuel ih =>
      intro visited parent h
      cases parent with
      | none => cases h
      | some p =>
        rw [climb] at h
        split at h
        · cases h
          exact Or.inl rfl
        cases hnext : parentOf spans p with
        | none =>
          rw [hnext] at h
          cases h
          exact Or.inr (Or.inl rfl)
        | some next =>
          rw [hnext] at h
          exact ih h
  rw [checkSpan] at h
  split at h
  · cases h
    exact Or.inl rfl
  split at h
  · cases h
    exact Or.inl rfl
  · exact hclimb h

theorem rejected_of_validateGraph (h : validateGraph spans = .error err) :
    err.rejected = true ∨ err = .keyError := by
  have hne : err ≠ .exhausted := by
    rintro rfl
    exact validateGraph_ne_exhausted spans h
  rw [validateGraph] at h
  split at h
  · cases h
    exact Or.inl rfl
  split at h
  · cases h
    exact Or.inl rfl
  obtain ⟨span, -, hspan⟩ := forM_eq_error h
  rcases rejected_of_checkSpan hspan with hrejected | hkey | hexhausted
  · exact Or.inl hrejected
  · exact Or.inr hkey
  · exact absurd hexhausted hne

variable (s : TraceSanitizer)

theorem rejected_of_scanValue {value : String} (h : s.scanValue value = .error err) :
    err.rejected = true := by
  rw [TraceSanitizer.scanValue] at h
  split at h
  · cases h
    rfl
  · cases h

/-- An integer that `str` refuses. -/
def TooManyDigits (v : Scalar) : Prop :=
  ∃ n, v = .int n ∧ 4300 < (Nat.toDigits 10 n.natAbs).length

theorem scalarText_eq_none_iff {v : Scalar} : scalarText v = none ↔ TooManyDigits v := by
  cases v with
  | str text => exact iff_of_false nofun fun ⟨_, h, _⟩ => by cases h
  | float text => exact iff_of_false nofun fun ⟨_, h, _⟩ => by cases h
  | bool b => exact iff_of_false nofun fun ⟨_, h, _⟩ => by cases h
  | int n =>
    rw [scalarText]
    constructor
    · intro h
      refine ⟨n, rfl, ?_⟩
      by_contra hle
      rw [if_pos (Nat.not_lt.1 hle)] at h
      cases h
    · rintro ⟨n', heq, hlt⟩
      cases heq
      exact if_neg (Nat.not_le.2 hlt)

variable {entry : String × AttributeValue}

/-- An attribute is refused with a rejection, unless it is an integer with too many digits. -/
theorem sanitizeAttribute_error (h : s.sanitizeAttribute entry = .error err) :
    (err.rejected = true ∧ ¬(entry.1 ∈ allowedAttributes ∧
        ∃ v, entry.2 = .scalar v ∧ TooManyDigits v)) ∨
      err = .unprintable ∧ entry.1 ∈ allowedAttributes ∧ ∃ v, entry.2 = .scalar v ∧ TooManyDigits v := by
  obtain ⟨key, value⟩ := entry
  rw [TraceSanitizer.sanitizeAttribute] at h
  by_cases hallowed : key ∈ allowedAttributes
  swap
  · rw [if_pos (Or.inl hallowed)] at h
    cases h
    exact Or.inl ⟨rfl, fun hnot => hallowed hnot.1⟩
  rw [if_neg (not_or.2 ⟨not_not.2 hallowed, s.not_denied hallowed⟩)] at h
  cases value with
  | other =>
    cases h
    refine Or.inl ⟨rfl, ?_⟩
    rintro ⟨-, v, hv, -⟩
    cases hv
  | scalar v =>
    dsimp only at h
    by_cases hlong : tooLong v = true
    · rw [if_pos hlong] at h
      cases h
      refine Or.inl ⟨rfl, ?_⟩
      rintro ⟨-, v', hv, n, hn, -⟩
      cases hv
      rw [hn] at hlong
      cases hlong
    rw [if_neg hlong] at h
    cases htext : scalarText v with
    | none =>
      rw [htext] at h
      cases h
      exact Or.inr ⟨rfl, hallowed, v, rfl, scalarText_eq_none_iff.1 htext⟩
    | some text =>
      rw [htext] at h
      dsimp only at h
      refine Or.inl ⟨?_, ?_⟩
      · cases hscan : s.scanValue text with
        | error err' =>
          rw [hscan] at h
          cases h
          exact rejected_of_scanValue s hscan
        | ok u =>
          rw [hscan] at h
          cases h
      · rintro ⟨-, v', hv, hdigits⟩
        cases hv
        rw [scalarText_eq_none_iff.2 hdigits] at htext
        cases htext

/-- The first attribute that is not allowed has an allowed name and too many digits. -/
def OversizedAttributes (attributes : List (String × AttributeValue)) : Prop :=
  ∃ before entry after, attributes = before ++ entry :: after ∧
    (∀ e ∈ before, s.FitsAttribute e) ∧ entry.1 ∈ allowedAttributes ∧
    ∃ v, entry.2 = .scalar v ∧ TooManyDigits v

/-- The first span, in the order of the trace, whose name or attributes are not allowed has an allowed
name and an attribute with too many digits. -/
def Oversized (spans : List SpanRecord) : Prop :=
  ∃ before span after, sortSpans spans = before ++ span :: after ∧ (∀ x ∈ before, s.FitsSpan x) ∧
    s.FitsName span.name span.stage ∧ OversizedAttributes s span.attributes

theorem exists_sanitizeAttribute_iff :
    (∃ result, s.sanitizeAttribute entry = .ok result) ↔ s.FitsAttribute entry := by
  constructor
  · rintro ⟨result, h⟩
    exact (s.sanitizeAttribute_eq_ok.1 h).1
  · rintro ⟨hallowed, v, hv, hvalue⟩
    refine ⟨(entry.1, v), s.sanitizeAttribute_eq_ok.2 ⟨⟨hallowed, v, hv, hvalue⟩, ?_⟩⟩
    rw [← hv]

theorem sanitizeAttributes_error (h : s.sanitizeAttributes span = .error err) :
    (err.rejected = true ∧ ¬OversizedAttributes s span.attributes) ∨
      err = .unprintable ∧ OversizedAttributes s span.attributes := by
  have hmap : span.attributes.mapM s.sanitizeAttribute = .error err := by
    rw [TraceSanitizer.sanitizeAttributes] at h
    split at h
    · rename_i err' hmap
      cases h
      exact hmap
    · cases h
  obtain ⟨before, entry, after, hsplit, hbefore, hentry⟩ := mapM_eq_error_iff.1 hmap
  have hfits : ∀ e ∈ before, s.FitsAttribute e := fun e he =>
    (exists_sanitizeAttribute_iff s).1 (hbefore e he)
  rcases sanitizeAttribute_error s hentry with ⟨hrejected, hnot⟩ | ⟨rfl, hallowed, hdigits⟩
  · refine Or.inl ⟨hrejected, ?_⟩
    rintro ⟨before', entry', after', hsplit', hbefore', hallowed, v, hv, hdigits⟩
    have hoversized : s.sanitizeAttribute entry' = .error .unprintable := by
      cases hresult : s.sanitizeAttribute entry' with
      | error err' =>
        rcases sanitizeAttribute_error s hresult with ⟨-, hnot'⟩ | ⟨rfl, -⟩
        · exact absurd ⟨hallowed, v, hv, hdigits⟩ hnot'
        · rfl
      | ok result =>
        obtain ⟨⟨-, v', hv', hshort, text, htext, -⟩, -⟩ := s.sanitizeAttribute_eq_ok.1 hresult
        rw [hv] at hv'
        cases hv'
        rw [scalarText_eq_none_iff.2 hdigits] at htext
        cases htext
    have hsame := mapM_eq_error_iff.2 ⟨before', entry', after', hsplit',
      fun e he => (exists_sanitizeAttribute_iff s).2 (hbefore' e he), hoversized⟩
    rw [hmap] at hsame
    cases hsame
    cases hrejected
  · exact Or.inr ⟨rfl, before, entry, after, hsplit, hfits, hallowed, hdigits⟩

theorem sanitizeName_error {name : String} {stage : TraceStage}
    (h : s.sanitizeName name stage = .error err) : err.rejected = true := by
  rw [TraceSanitizer.sanitizeName] at h
  split at h
  · cases h
    rfl
  · cases hscan : s.scanValue name with
    | error err' =>
      rw [hscan] at h
      cases h
      exact rejected_of_scanValue s hscan
    | ok u =>
      rw [hscan] at h
      cases h

/-- A span is refused with a rejection, unless it holds an integer with too many digits. -/
theorem sanitizeSpan_error (hspan : span ∈ spans) (hended : span.endedAt ≠ none)
    (h : s.sanitizeSpan (s.spanRefs spans) span = .error err) :
    (err.rejected = true ∧
        ¬(s.FitsName span.name span.stage ∧ OversizedAttributes s span.attributes)) ∨
      err = .unprintable ∧ s.FitsName span.name span.stage ∧
        OversizedAttributes s span.attributes := by
  have href := s.lookup_spanRefs (List.mem_map_of_mem (f := SpanRecord.spanId) hspan)
  obtain ⟨endedAt, hended⟩ := Option.ne_none_iff_exists'.1 hended
  rw [TraceSanitizer.sanitizeSpan, href, hended] at h
  dsimp only at h
  cases hname : s.sanitizeName span.name span.stage with
  | error err' =>
    rw [hname] at h
    cases h
    refine Or.inl ⟨sanitizeName_error s hname, ?_⟩
    rintro ⟨hfits, -⟩
    rw [s.sanitizeName_eq_ok.2 ⟨hfits, rfl⟩] at hname
    cases hname
  | ok name =>
    have hfits := (s.sanitizeName_eq_ok.1 hname).1
    rw [hname] at h
    cases hattributes : s.sanitizeAttributes span with
    | error err' =>
      change (s.sanitizeAttributes span >>= fun _ => _) = _ at h
      rw [hattributes] at h
      cases h
      rcases sanitizeAttributes_error s hattributes with ⟨hrejected, hnot⟩ | ⟨rfl, hoversized⟩
      · exact Or.inl ⟨hrejected, fun h => hnot h.2⟩
      · exact Or.inr ⟨rfl, hfits, hoversized⟩
    | ok attributes =>
      change (s.sanitizeAttributes span >>= fun _ => _) = _ at h
      rw [hattributes] at h
      cases h

theorem not_fits_of_oversized (h : OversizedAttributes s span.attributes) : ¬s.FitsSpan span := by
  rintro ⟨-, hfits⟩
  obtain ⟨before, entry, after, hentries, -, -, v, hv, hdigits⟩ := h
  have hentry : entry ∈ span.attributes := by
    rw [hentries]
    exact List.mem_append_right _ List.mem_cons_self
  obtain ⟨-, v', hv', -, text, htext, -⟩ := hfits entry hentry
  rw [hv] at hv'
  cases hv'
  rw [scalarText_eq_none_iff.2 hdigits] at htext
  cases htext

/-- Spans of an accepted graph that are not all carried over. -/
theorem mapM_sanitizeSpan_error (hgraph : ValidGraph spans)
    (h : (sortSpans spans).mapM (s.sanitizeSpan (s.spanRefs spans)) = .error err) :
    (err.rejected = true ∧ ¬Oversized s spans) ∨ err = .unprintable ∧ Oversized s spans := by
  have hcarried : ∀ span ∈ spans,
      (∃ out, s.sanitizeSpan (s.spanRefs spans) span = .ok out) ↔ s.FitsSpan span := by
    intro span hspan
    rcases s.sanitizeSpan_cases hgraph hspan with ⟨⟨err', herr⟩, hnot⟩ | ⟨hfits, out, hout, -⟩
    · refine iff_of_false ?_ hnot
      rintro ⟨out, hout⟩
      rw [herr] at hout
      cases hout
    · exact iff_of_true ⟨out, hout⟩ hfits
  have hmem : ∀ {before after : List SpanRecord} {span : SpanRecord},
      sortSpans spans = before ++ span :: after → ∀ x ∈ before, x ∈ spans := by
    intro before after span hsplit x hx
    rw [← mem_sortSpans, hsplit]
    exact List.mem_append_left _ hx
  have hlast : ∀ {before after : List SpanRecord} {span : SpanRecord},
      sortSpans spans = before ++ span :: after → span ∈ spans := by
    intro before after span hsplit
    rw [← mem_sortSpans, hsplit]
    exact List.mem_append_right _ List.mem_cons_self
  obtain ⟨before, span, after, hsplit, hbefore, hspan⟩ := mapM_eq_error_iff.1 h
  have hfits : ∀ x ∈ before, s.FitsSpan x := fun x hx =>
    (hcarried x (hmem hsplit x hx)).1 (hbefore x hx)
  rcases sanitizeSpan_error s (hlast hsplit) (hgraph.ended span (hlast hsplit)) hspan with
    ⟨hrejected, hnot⟩ | ⟨rfl, hname, hoversized⟩
  · refine Or.inl ⟨hrejected, ?_⟩
    rintro ⟨before', span', after', hsplit', hbefore', hname, hoversized⟩
    have hrefused : s.sanitizeSpan (s.spanRefs spans) span' = .error .unprintable := by
      rcases s.sanitizeSpan_cases hgraph (hlast hsplit') with ⟨⟨err', herr⟩, -⟩ | ⟨hfits', -⟩
      · rcases sanitizeSpan_error s (hlast hsplit') (hgraph.ended span' (hlast hsplit')) herr with
          ⟨-, hnot'⟩ | ⟨rfl, -⟩
        · exact absurd ⟨hname, hoversized⟩ hnot'
        · exact herr
      · exact absurd hfits' (not_fits_of_oversized s hoversized)
    have hsame := mapM_eq_error_iff.2 ⟨before', span', after', hsplit',
      fun x hx => (hcarried x (hmem hsplit' x hx)).2 (hbefore' x hx), hrefused⟩
    rw [h] at hsame
    cases hsame
    cases hrejected
  · exact Or.inr ⟨rfl, before, span, after, hsplit, hfits, hname, hoversized⟩

/-! ### Traces and rejections -/

/-- The call returns a trace or raises a `SanitizationRejected`. -/
def Handled (envelope : TraceEnvelope) : Prop :=
  (∃ t, s.sanitize envelope = .ok t) ∨
    ∃ err, s.sanitize envelope = .error err ∧ err.rejected = true

/-- **A trace or a rejection**: exactly if the first span that is not in order does not lead out of the
trace, and, where all are, the first value that is not allowed is no integer with too many digits. -/
theorem handled_iff (envelope : TraceEnvelope) :
    Handled s envelope ↔ ¬LeadsOut envelope.spans ∧
      ¬(Ordered envelope.spans ∧ Oversized s envelope.spans) := by
  rw [Handled, ← validateGraph_eq_keyError_iff, ← validateGraph_eq_ok_iff]
  cases hgraph : validateGraph envelope.spans with
  | error err =>
    have hsanitize : s.sanitize envelope = .error err := by
      rw [TraceSanitizer.sanitize, hgraph]
      rfl
    rw [hsanitize]
    rcases rejected_of_validateGraph hgraph with hrejected | rfl
    · refine iff_of_true (Or.inr ⟨err, rfl, hrejected⟩) ⟨?_, by simp⟩
      intro h
      cases h
      cases hrejected
    · refine iff_of_false ?_ fun h => h.1 rfl
      rintro (⟨t, h⟩ | ⟨err, h, hrejected⟩)
      · cases h
      · cases h
        cases hrejected
  | ok u =>
    have hvalid := validGraph_of_validateGraph hgraph
    have hright : (¬(Except.ok u : Except SanitizerError Unit) = .error .keyError ∧
        ¬((Except.ok u : Except SanitizerError Unit) = .ok () ∧ Oversized s envelope.spans)) ↔
          ¬Oversized s envelope.spans :=
      ⟨fun h hoversized => h.2 ⟨rfl, hoversized⟩, fun h => ⟨by simp, fun hboth => h hboth.2⟩⟩
    rw [hright]
    cases hspans : (sortSpans envelope.spans).mapM (s.sanitizeSpan (s.spanRefs envelope.spans)) with
    | ok outs =>
      -- every span has been carried over, so all of them fit
      have hfits : ∀ span ∈ envelope.spans, s.FitsSpan span := by
        intro span hspan
        obtain ⟨out, hout⟩ := mem_of_mapM_eq_ok hspans (mem_sortSpans.2 hspan)
        rcases s.sanitizeSpan_cases hvalid hspan with ⟨⟨err, herr⟩, -⟩ | ⟨hfits, -⟩
        · rw [hout] at herr
          cases herr
        · exact hfits
      refine iff_of_true (Or.inl (s.exists_sanitize hgraph hfits)) ?_
      rintro ⟨before, span, after, hsplit, -, -, hoversized⟩
      have hspan : span ∈ envelope.spans := by
        rw [← mem_sortSpans, hsplit]
        exact List.mem_append_right _ List.mem_cons_self
      exact not_fits_of_oversized s hoversized (hfits span hspan)
    | error err =>
      obtain ⟨root, hfind⟩ := hvalid.exists_root
      have hsanitize : s.sanitize envelope = .error err := by
        rw [TraceSanitizer.sanitize, hgraph]
        simp only [bind, Except.bind, hfind, hspans]
      rw [hsanitize]
      rcases mapM_sanitizeSpan_error s hvalid hspans with ⟨hrejected, hnot⟩ | ⟨rfl, hoversized⟩
      · exact iff_of_true (Or.inr ⟨err, rfl, hrejected⟩) hnot
      · refine iff_of_false ?_ (not_not.2 hoversized)
        rintro (⟨t, h⟩ | ⟨err, h, hrejected⟩)
        · cases h
        · cases h
          cases hrejected

/-! ### A parent whose parent is missing -/

/-- A span below one that has no parent in the trace; it comes first. -/
def strayChild : SpanRecord :=
  { sampleChild with parentSpanId := some "span_01K0000000000000000000000C" }

def strayParent : SpanRecord :=
  { sampleChild with
    spanId := "span_01K0000000000000000000000C"
    parentSpanId := some "span_01K0000000000000000000000D" }

def strayEnvelope : TraceEnvelope :=
  { sampleEnvelope with spans := [strayChild, strayParent, sampleRoot], spans_ne := by simp }

/-- The parent of a parent is looked up before the parent has been checked. -/
theorem not_handled : ¬∀ (s : TraceSanitizer) (envelope : TraceEnvelope), Handled s envelope := by
  intro hall
  have hgraph : validateGraph strayEnvelope.spans = .error .keyError := by decide +kernel
  have hsanitize : sampleSanitizer.sanitize strayEnvelope = .error .keyError := by
    rw [TraceSanitizer.sanitize, hgraph]
    rfl
  rcases hall sampleSanitizer strayEnvelope with ⟨t, h⟩ | ⟨err, h, hrejected⟩
  · rw [hsanitize] at h
    cases h
  · rw [hsanitize] at h
    cases h
    cases hrejected

end Sanitizer
