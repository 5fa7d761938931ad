/-
**The capacity of the trace buffer in memory.**

`enqueue` refuses a new trace when as many traces as the buffer has capacity for are *open*, that is
have a delivery that is not acknowledged.  It is the only call that looks at the capacity, and not the
only one that opens a trace: `retry` sets a delivery to pending in whatever state it is, so a late
`retry` reopens a trace that is acknowledged on every sink, after its place was given to another one.

Main definitions:

* `MemoryBuffer.Call`, `MemoryBuffer.perform` — the buffer under any sequence of calls;
* `MemoryBuffer.openTraces` — the references of the open traces;
* `MemoryBuffer.Overfills` — a `retry` that reopens a trace in a full buffer.

Main results:

* `MemoryBuffer.pending_perform` — what each call does to the number of open traces;
* `MemoryBuffer.pending_le_capacity` — **the capacity is exceeded exactly by a call that reopens a
  trace in a full buffer**.
-/

import FaultWitness.MemoryBuffer
import FaultWitness.Runs
import Mathlib.Data.Finset.Card

set_option autoImplicit false

namespace MemoryBuffer

open Traces Runs

/-! ### Calls -/

/-- A call of the buffer, by any worker. -/
inductive Call
  | enqueue (trace : SanitizedTrace) (nonce : List UInt8)
  | claim (sink : DeliverySink) (limit leaseSeconds now : ℤ)
  | acknowledge (ref : String) (sink : DeliverySink)
  | retry (ref : String) (sink : DeliverySink) (errorCode : String)

/-- The buffer after a call. -/
def perform (cfg : Config) (b : Buffer) : Call → Option Buffer
  | .enqueue trace nonce => some (enqueue cfg b trace nonce).2
  | .claim sink limit leaseSeconds now => some (claim cfg b sink limit leaseSeconds now).2
  | .acknowledge ref sink => some (acknowledge b ref sink).2
  | .retry ref sink errorCode => some (retry b ref sink errorCode).2

/-! ### Open traces -/

/-- The references of the traces with a delivery that is not acknowledged. -/
def openTraces (b : Buffer) : Finset String :=
  ((b.entries.filter fun e => e.2.unsettled).map Sigma.fst).toFinset

theorem mem_openTraces {b : Buffer} {ref : String} :
    ref ∈ openTraces b ↔ ∃ r, b.lookup ref = some r ∧ r.unsettled = true := by
  simp only [openTraces, List.mem_toFinset, List.mem_map, List.mem_filter]
  constructor
  · rintro ⟨⟨ref', r⟩, ⟨hmem, hopen⟩, rfl⟩
    exact ⟨r, AList.mem_lookup_iff.2 hmem, hopen⟩
  · rintro ⟨r, hr, hopen⟩
    exact ⟨⟨ref, r⟩, ⟨AList.mem_lookup_iff.1 hr, hopen⟩, rfl⟩

theorem card_openTraces (b : Buffer) : (openTraces b).card = pending b := by
  have hnodup : ((b.entries.filter fun e => e.2.unsettled).map Sigma.fst).Nodup :=
    List.Nodup.sublist (List.filter_sublist.map _) b.nodupKeys
  rw [openTraces, List.toFinset_card_of_nodup hnodup, List.length_map, pending,
    List.countP_eq_length_filter]

theorem openTraces_insert (b : Buffer) (ref : String) (r : MemoryRecord) :
    openTraces (b.insert ref r) =
      if r.unsettled then insert ref (openTraces b) else (openTraces b).erase ref := by
  ext ref'
  by_cases href : ref' = ref
  · subst href
    rw [mem_openTraces, AList.lookup_insert]
    split
    · rename_i h
      simp [h]
    · rename_i h
      simp [h]
  · rw [mem_openTraces, AList.lookup_insert_ne href, ← mem_openTraces]
    split
    · simp [href]
    · simp [href]

theorem unsettled_of_state {r : MemoryRecord} (sink : DeliverySink)
    (h : (r.deliveries sink).state ≠ .acked) : r.unsettled = true :=
  (unsettled_iff r).2 ⟨sink, DeliverySink.mem_all sink, h⟩

/-- A claim leases deliveries of open traces, which stay open. -/
theorem openTraces_claimed {b b' : Buffer} {sink : DeliverySink} {now deadline : ℤ}
    {leased : List String} (h : Claimed b b' sink now deadline leased) :
    openTraces b' = openTraces b := by
  ext ref
  rw [mem_openTraces, mem_openTraces, h.lookup ref]
  split
  · rename_i hmem
    obtain ⟨r, hr, hfree⟩ := h.free ref hmem
    have hbefore : r.unsettled = true :=
      unsettled_of_state sink fun hacked => hfree (Or.inl hacked)
    have hafter : (r.lease sink deadline).unsettled = true :=
      unsettled_of_state sink (by simp [MemoryRecord.lease, MemoryDelivery.lease])
    rw [hr]
    constructor
    · intro _
      exact ⟨r, rfl, hbefore⟩
    · intro _
      exact ⟨_, rfl, hafter⟩
  · rfl

/-! ### The bound -/

/-- A `retry` that reopens a trace while as many traces are open as the buffer has capacity for. -/
def Overfills (cfg : Config) (b : Buffer) : Call → Prop
  | .retry ref _ errorCode => ValidCode errorCode ∧ ref ∉ openTraces b ∧ b.lookup ref ≠ none ∧
      cfg.capacity ≤ pending b
  | _ => False

theorem pending_acknowledge (b : Buffer) (ref : String) (sink : DeliverySink) :
    pending (acknowledge b ref sink).2 ≤ pending b := by
  rcases acknowledge_cases b ref sink with ⟨-, heq⟩ | ⟨r, hr, heq⟩
  · rw [heq]
  · rw [heq, ← card_openTraces, ← card_openTraces]
    refine Finset.card_le_card ?_
    rw [put, openTraces_insert]
    split
    · rename_i hopen
      -- another sink keeps the trace open
      refine Finset.insert_subset ?_ (Finset.Subset.refl _)
      obtain ⟨sink', -, hstate⟩ := (unsettled_iff _).1 hopen
      have hne : sink' ≠ sink := by
        rintro rfl
        simp at hstate
      rw [MemoryRecord.set_deliveries, Function.update_of_ne hne] at hstate
      exact mem_openTraces.2 ⟨r, hr, unsettled_of_state sink' hstate⟩
    · exact Finset.erase_subset _ _

theorem openTraces_retry {b : Buffer} {ref : String} (sink : DeliverySink) {code : String}
    (hcode : ValidCode code) (href : b.lookup ref ≠ none) :
    openTraces (retry b ref sink code).2 = insert ref (openTraces b) := by
  rcases retry_cases b ref sink code with ⟨-, ⟨-, hbad⟩ | ⟨-, hnone⟩⟩ | ⟨r, hr, -, heq⟩
  · exact absurd hcode hbad
  · exact absurd hnone href
  · have hopen : (r.set sink ⟨.pending, (r.deliveries sink).attemptCount + 1, none,
        some code⟩).unsettled = true := unsettled_of_state sink (by simp)
    rw [heq, put, openTraces_insert, if_pos hopen]

/-- What a call does to the number of open traces, in a buffer within its capacity. -/
theorem pending_perform {cfg : Config} {b b' : Buffer} {call : Call}
    (h : pending b ≤ cfg.capacity) (hs : perform cfg b call = some b') :
    pending b' ≤ cfg.capacity ↔ ¬ Overfills cfg b call := by
  cases call with
  | enqueue trace nonce =>
    cases hs
    refine iff_of_true ?_ id
    rcases enqueue_cases cfg b trace nonce with ⟨heq, -⟩ | ⟨payload, -, -, hlt, heq⟩
    · rwa [heq]
    · have hopen : (⟨payload, fun _ => {}⟩ : MemoryRecord).unsettled = true := rfl
      rw [heq, ← card_openTraces, openTraces_insert, if_pos hopen]
      refine (Finset.card_insert_le _ _).trans ?_
      rw [card_openTraces]
      omega
  | claim sink limit leaseSeconds now =>
    cases hs
    refine iff_of_true ?_ id
    obtain ⟨leased, hloop⟩ := loop_claim cfg b sink limit leaseSeconds now
    rw [← card_openTraces, openTraces_claimed hloop.leases, card_openTraces]
    exact h
  | acknowledge ref sink =>
    cases hs
    exact iff_of_true ((pending_acknowledge b ref sink).trans h) id
  | retry ref sink code =>
    cases hs
    by_cases hcall : ValidCode code ∧ b.lookup ref ≠ none
    · obtain ⟨hcode, href⟩ := hcall
      rw [← card_openTraces, openTraces_retry sink hcode href]
      by_cases hmem : ref ∈ openTraces b
      · -- the trace is open already
        rw [Finset.insert_eq_of_mem hmem, card_openTraces]
        exact iff_of_true h fun hover => hover.2.1 hmem
      · rw [Finset.card_insert_of_notMem hmem, card_openTraces, Overfills]
        constructor
        · rintro hle ⟨-, -, -, hfull⟩
          omega
        · intro hnot
          have hlt : ¬ cfg.capacity ≤ pending b := fun hfull => hnot ⟨hcode, hmem, href, hfull⟩
          omega
    · have hsame : (retry b ref sink code).2 = b := by
        rcases retry_cases b ref sink code with ⟨heq, -⟩ | ⟨r, hr, hcode, -⟩
        · exact heq
        · exact absurd ⟨hcode, by simp [hr]⟩ hcall
      rw [hsame]
      exact iff_of_true h fun hover => hcall ⟨hover.1, hover.2.2.1⟩

/-- **The capacity is exceeded exactly by a `retry` that reopens a trace in a full buffer**: within
the capacity any other call stays there, and so does every run without such a call. -/
theorem pending_le_capacity (cfg : Config) :
    (∀ b, Reaches (perform cfg) (fun b call => ¬ Overfills cfg b call) ∅ b →
        pending b ≤ cfg.capacity) ∧
      ∀ b call b', pending b ≤ cfg.capacity → perform cfg b call = some b' →
        (pending b' ≤ cfg.capacity ↔ ¬ Overfills cfg b call) := by
  refine ⟨fun b hb => ?_, fun b call b' h hs => pending_perform h hs⟩
  refine hb.invariant (I := fun b => pending b ≤ cfg.capacity) (Nat.zero_le _) ?_
  intro a call a' ha hcond hs
  exact (pending_perform ha hs).2 hcond

/-! ### A full buffer -/

def sampleSmall : Config := ⟨sampleCipher, 1, Nat.one_pos⟩

/-- The buffer with the first trace. -/
def sampleRecords (ds : DeliverySink → MemoryDelivery) : Buffer :=
  AList.singleton "trace-a" ⟨samplePayload "trace-a", ds⟩

section Small

variable {ds : DeliverySink → MemoryDelivery}

theorem perform_claim (sink : DeliverySink) (now : ℤ) (hfree : ¬ (ds sink).Busy now) :
    perform sampleSmall (sampleRecords ds) (.claim sink 10 30 now) =
      some (sampleRecords (Function.update ds sink ((ds sink).lease (now + seconds 30)))) := by
  have hopen : sampleSmall.cipher.open "trace-a" (samplePayload "trace-a") =
      .ok (sampleTrace "trace-a") := open_sample "trace-a"
  have hclaim := claim_singleton ⟨samplePayload "trace-a", ds⟩ hopen hfree 10 30
  rw [perform, sampleRecords, hclaim]
  rfl

theorem perform_acknowledge (sink : DeliverySink) :
    perform sampleSmall (sampleRecords ds) (.acknowledge "trace-a" sink) =
      some (sampleRecords (Function.update ds sink { ds sink with
        state := .acked, leaseUntil := none, lastErrorCode := none })) := by
  rw [perform, sampleRecords, acknowledge_singleton]
  rfl

theorem perform_enqueue_first :
    perform sampleSmall ∅ (.enqueue (sampleTrace "trace-a") sampleNonce) =
      some (sampleRecords fun _ => {}) := by
  have hseal : sampleSmall.cipher.seal (sampleTrace "trace-a") sampleNonce =
      .ok (samplePayload "trace-a") := seal_sample "trace-a"
  rw [perform, enqueue_empty hseal]
  rfl

theorem perform_enqueue_second (hacked : ∀ sink ∈ DeliverySink.all, (ds sink).state = .acked) :
    perform sampleSmall (sampleRecords ds) (.enqueue (sampleTrace "trace-b") sampleNonce) =
      some ((sampleRecords ds).insert "trace-b" ⟨samplePayload "trace-b", fun _ => {}⟩) := by
  have hseal : sampleSmall.cipher.seal (sampleTrace "trace-b") sampleNonce =
      .ok (samplePayload "trace-b") := seal_sample "trace-b"
  have hsettled : (⟨samplePayload "trace-a", ds⟩ : MemoryRecord).unsettled = false := by
    simp [MemoryRecord.unsettled, hacked, DeliverySink.mem_all]
  have hpending : ¬ sampleSmall.capacity ≤ pending (sampleRecords ds) := by
    simp [pending, sampleRecords, AList.singleton_entries, hsettled, sampleSmall]
  have hlookup : (sampleRecords ds).lookup (sampleTrace "trace-b").traceRef = none := rfl
  rw [perform, enqueue, hseal]
  simp only [hlookup, if_neg hpending]
  rfl

theorem perform_retry :
    perform sampleSmall ((sampleRecords ds).insert "trace-b" ⟨samplePayload "trace-b", fun _ => {}⟩)
        (.retry "trace-a" .archive "unexpected_export_error") =
      some (put ((sampleRecords ds).insert "trace-b" ⟨samplePayload "trace-b", fun _ => {}⟩)
        "trace-a" ⟨samplePayload "trace-a", ds⟩ .archive
        ⟨.pending, (ds .archive).attemptCount + 1, none, some "unexpected_export_error"⟩) := by
  have hcode : ¬ ¬ ValidCode "unexpected_export_error" := by decide
  have hlookup : ((sampleRecords ds).insert "trace-b"
      ⟨samplePayload "trace-b", fun _ => {}⟩).lookup "trace-a" =
        some ⟨samplePayload "trace-a", ds⟩ := rfl
  rw [perform, retry, if_neg hcode, hlookup]

/-- Two workers claim the first trace for the archive, the second one after the lease of the first
has run out; it exports and acknowledges the trace, and so do others for the other sinks.  When a
second trace has come in, the export of the first worker fails. -/
theorem pending_late_retry :
    ∃ b, Reachable (perform sampleSmall) ∅ b ∧ ¬ pending b ≤ sampleSmall.capacity := by
  have h₁ : Reachable (perform sampleSmall) ∅ (sampleRecords fun _ => {}) :=
    Reaches.single trivial perform_enqueue_first
  have h₂ := h₁.tail trivial (perform_claim .archive 0 (by decide))
  have h₃ := h₂.tail trivial (perform_claim .archive 31000000 (by decide))
  have h₄ := h₃.tail trivial (perform_acknowledge .archive)
  have h₅ := h₄.tail trivial (perform_claim .langsmith 31000000 (by decide))
  have h₆ := h₅.tail trivial (perform_acknowledge .langsmith)
  have h₇ := h₆.tail trivial (perform_claim .otlp 31000000 (by decide))
  have h₈ := h₇.tail trivial (perform_acknowledge .otlp)
  have h₉ := h₈.tail trivial (perform_enqueue_second (by decide))
  exact ⟨_, h₉.tail trivial perform_retry, by decide⟩

theorem pending_claimed : ∃ ds, pending (sampleRecords ds) = 1 ∧
    pending (sampleRecords ds) ≤ sampleSmall.capacity := by
  have h₁ : Reaches (perform sampleSmall) (fun b call => ¬ Overfills sampleSmall b call) ∅
      (sampleRecords fun _ => {}) := Reaches.single id perform_enqueue_first
  have h₂ := h₁.tail id (perform_claim .archive 0 (by decide))
  exact ⟨_, rfl, (pending_le_capacity sampleSmall).1 _ h₂⟩

end Small

end MemoryBuffer
