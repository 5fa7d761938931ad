/-
**The check of the graph and the trees.**

The function `_validate_graph` walks from every span up its parents, with a set of the spans that it has
visited.  The walk ends for any list of spans, with cycles or with parents outside, and it returns for
exactly those that form one tree.

Main definitions:

* `Sanitizer.IsParent` — the parent of a span, as a relation on identifiers;
* `Sanitizer.IsTree` — the spans form one tree.

Main results:

* `Sanitizer.IsTree.reaches` — every span of a tree reaches its root;
* `Sanitizer.validateGraph_iff_tree` — **the check ends, and it returns exactly for a tree**.
-/

import FaultWitness.Sanitizer

set_option autoImplicit false

namespace Sanitizer

open Python

variable {spans : List SpanRecord}

/-- The span with the first identifier has the second one as its parent. -/
def IsParent (spans : List SpanRecord) (a b : String) : Prop :=
  ∃ span ∈ spans, span.spanId = a ∧ span.parentSpanId = some b

/-- The spans form one tree, and all have ended. -/
structure IsTree (spans : List SpanRecord) : Prop where
  distinct : spans.Pairwise fun a b => a.spanId ≠ b.spanId
  root : ∃! root, root ∈ spans ∧ root.parentSpanId = none
  ended : ∀ span ∈ spans, span.endedAt ≠ none
  inside : ∀ span ∈ spans, ∀ parent, span.parentSpanId = some parent →
    ∃ other ∈ spans, other.spanId = parent
  acyclic : ∀ id, ¬Relation.TransGen (IsParent spans) id id

theorem nodup_spanIds : (spans.map SpanRecord.spanId).Nodup ↔
    spans.Pairwise fun a b => a.spanId ≠ b.spanId :=
  List.pairwise_map

theorem isParent_iff (hids : (spans.map SpanRecord.spanId).Nodup) {a b : String} :
    IsParent spans a b ↔ parentIn spans a = some b := by
  constructor
  · rintro ⟨span, hspan, rfl, hparent⟩
    rw [parentIn_of_mem hids hspan, hparent]
  · intro h
    rw [parentIn, Option.join_eq_some_iff] at h
    obtain ⟨span, hspan, rfl⟩ := List.mem_map.1 (mem_of_parentOf h)
    rw [parentOf_of_mem hids hspan] at h
    exact ⟨span, hspan, rfl, Option.some.inj h⟩

/-! ### What is accepted is a tree -/

theorem existsUnique_root (h : ∃ root, spans.filter (fun span => span.parentSpanId = none) = [root]) :
    ∃! root, root ∈ spans ∧ root.parentSpanId = none := by
  obtain ⟨root, hroot⟩ := h
  have hmem : ∀ span, (span ∈ spans ∧ span.parentSpanId = none) ↔ span = root := by
    intro span
    rw [← List.mem_singleton (b := root), ← hroot, List.mem_filter, decide_eq_true_eq]
  exact ⟨root, (hmem root).2 rfl, fun span hspan => (hmem span).1 hspan⟩

theorem ValidGraph.isTree (h : ValidGraph spans) : IsTree spans := by
  refine ⟨nodup_spanIds.1 h.nodup, existsUnique_root h.root, h.ended, ?_, ?_⟩
  · intro span hspan parent hparent
    obtain ⟨other, hother, hid⟩ := List.mem_map.1 (h.inside span hspan parent hparent)
    exact ⟨other, hother, hid⟩
  · intro id hcycle
    -- a span on a cycle has a way to it like all others
    have hcycle' : Relation.TransGen (fun a b => parentIn spans a = some b) id id :=
      Relation.TransGen.mono (fun _ _ => (isParent_iff h.nodup).1) _ _ hcycle
    obtain ⟨next, ⟨span, hspan, rfl, -⟩, -⟩ := Relation.TransGen.head'_iff.1 hcycle
    obtain ⟨way, hway⟩ := h.way span hspan
    exact hway.acyclic hcycle'

/-! ### A tree is accepted -/

/-- Without cycles the walk comes to an end above the spans that it has visited. -/
theorem climb_of_acyclic (hids : (spans.map SpanRecord.spanId).Nodup) (h : IsTree spans) {fuel : ℕ}
    {visited : List String} {parent : Option String}
    (hparent : ∀ p, parent = some p → ∃ other ∈ spans, other.spanId = p)
    (hvisited : ∀ p, parent = some p → ∀ v ∈ visited, Relation.TransGen (IsParent spans) v p) :
    climb spans fuel visited parent = .ok () ∨ climb spans fuel visited parent = .error .exhausted := by
  induction fuel generalizing visited parent with
  | zero =>
    cases parent with
    | none => exact .inl rfl
    | some p => exact .inr rfl
  | succ fuel ih =>
    cases parent with
    | none => exact .inl rfl
    | some p =>
      obtain ⟨span, hspan, rfl⟩ := hparent p rfl
      have hnew : span.spanId ∉ visited := fun hmem => h.acyclic _ (hvisited _ rfl _ hmem)
      rw [climb, if_neg hnew, parentOf_of_mem hids hspan]
      refine ih (h.inside span hspan) ?_
      intro next hnext v hv
      have hlast : IsParent spans span.spanId next := ⟨span, hspan, rfl, hnext⟩
      rcases List.mem_cons.1 hv with rfl | hv
      · exact .single hlast
      · exact (hvisited _ rfl v hv).tail hlast

theorem IsTree.checkSpan_eq_ok (h : IsTree spans) {span : SpanRecord} (hspan : span ∈ spans) :
    checkSpan spans span = .ok () := by
  have hinside : ¬∃ parent ∈ span.parentSpanId, parent ∉ spans.map SpanRecord.spanId := by
    rintro ⟨parent, hparent, hnot⟩
    obtain ⟨other, hother, rfl⟩ := h.inside span hspan parent hparent
    exact hnot (List.mem_map_of_mem hother)
  rw [checkSpan, if_neg (h.ended span hspan), if_neg hinside]
  have hends := climb_from_ne_exhausted hspan
  refine (climb_of_acyclic (nodup_spanIds.2 h.distinct) h (h.inside span hspan) ?_).resolve_right hends
  intro p hp v hv
  obtain rfl := List.mem_singleton.1 hv
  exact .single ⟨span, hspan, rfl, hp⟩

theorem IsTree.length_filter (h : IsTree spans) :
    (spans.filter fun span => span.parentSpanId = none).length = 1 := by
  obtain ⟨root, ⟨hroot, hnone⟩, hunique⟩ := h.root
  have hnodup : spans.Nodup := (nodup_spanIds.2 h.distinct).of_map
  refine List.length_eq_one_iff.2 ⟨root, ?_⟩
  refine List.perm_singleton.1 ((List.perm_ext_iff_of_nodup (hnodup.filter _)
    (List.nodup_singleton root)).2 fun span => ?_)
  rw [List.mem_filter, decide_eq_true_eq, List.mem_singleton]
  constructor
  · exact fun hspan => hunique span hspan
  · rintro rfl
    exact ⟨hroot, hnone⟩

theorem IsTree.validateGraph_eq_ok (h : IsTree spans) : validateGraph spans = .ok () := by
  rw [validateGraph, if_neg (not_not.2 (nodup_spanIds.2 h.distinct)),
    if_neg (not_not.2 h.length_filter)]
  exact forM_eq_ok.2 fun span hspan => h.checkSpan_eq_ok hspan

theorem IsTree.reaches (h : IsTree spans) : ∃ root ∈ spans, root.parentSpanId = none ∧
    ∀ span ∈ spans, Relation.ReflTransGen (IsParent spans) span.spanId root.spanId := by
  obtain ⟨root, ⟨hroot, hnone⟩, hunique⟩ := h.root
  have hgraph := validGraph_of_validateGraph h.validateGraph_eq_ok
  refine ⟨root, hroot, hnone, fun span hspan => ?_⟩
  obtain ⟨way, hway⟩ := hgraph.way span hspan
  -- the induction follows the way down from the root
  generalize hid : span.spanId = id at hway
  induction hway generalizing span with
  | root hparent =>
    rw [← hid, parentIn_of_mem hgraph.nodup hspan] at hparent
    rw [← hid, hunique span ⟨hspan, hparent⟩]
  | @child a b way hparent _ ih =>
    have hfirst := (isParent_iff hgraph.nodup).2 hparent
    rw [← hid, parentIn_of_mem hgraph.nodup hspan] at hparent
    obtain ⟨other, hother, hb⟩ := h.inside span hspan b hparent
    exact .head hfirst (ih other hother hb)

/-- **The check of the graph ends for every list of spans, and it returns exactly for a tree**, in which
every span reaches the root. -/
theorem validateGraph_iff_tree (spans : List SpanRecord) :
    validateGraph spans ≠ .error .exhausted ∧ (validateGraph spans = .ok () ↔ IsTree spans) ∧
      (IsTree spans → ∃ root ∈ spans, root.parentSpanId = none ∧
        ∀ span ∈ spans, Relation.ReflTransGen (IsParent spans) span.spanId root.spanId) :=
  ⟨validateGraph_ne_exhausted spans,
    ⟨fun h => (validGraph_of_validateGraph h).isTree, IsTree.validateGraph_eq_ok⟩, IsTree.reaches⟩

end Sanitizer
