/-
**The trace buffer in memory.**

`InMemoryTraceBuffer` keeps for each trace reference the sealed payload and one delivery for each
sink.  A call takes its lock without waiting, since no call waits while it holds it, so every call is
one step.

`claim` walks through the records in the order of their references, leases what is neither
acknowledged nor under a running lease, and opens the payloads as it goes; it stops after the
delivery that reaches its limit, and an exception leaves the deliveries before it leased.
`acknowledge` and `retry` carry no identity of a lease and act on a delivery in any state.  The end of
a lease is taken to be a datetime here.

Main definitions:

* `MemoryBuffer.Buffer` — the records;
* `MemoryBuffer.enqueue`, `claim`, `acknowledge`, `retry`, `status` — the calls;
* `MemoryBuffer.Claimed` — what a claim has done.

Main results:

* `MemoryBuffer.loop_claim` — the effect of a claim;
* `MemoryBuffer.claim_all` — a claim with room for everything;
* `MemoryBuffer.status_spec` — the counts of `status`.
-/

import FaultWitness.Leases
import FaultWitness.Traces

set_option autoImplicit false

namespace MemoryBuffer

open Traces

/-! ### The records -/

structure MemoryDelivery where
  state : DeliveryState := .pending
  attemptCount : ℕ := 0
  leaseUntil : Option ℤ := none
  lastErrorCode : Option String := none
deriving DecidableEq

structure MemoryRecord where
  payload : EncryptedPayload
  deliveries : DeliverySink → MemoryDelivery

abbrev Buffer := AList fun _ : String => MemoryRecord

/-- The cipher and the capacity of a buffer. -/
structure Config where
  cipher : PayloadCipher
  capacity : ℕ
  positive : 1 ≤ capacity

/-- Some delivery of the record is not acknowledged. -/
def MemoryRecord.unsettled (r : MemoryRecord) : Bool :=
  DeliverySink.all.any fun sink => (r.deliveries sink).state ≠ .acked

/-- The number of traces that count against the capacity. -/
def pending (b : Buffer) : ℕ := b.entries.countP fun e => e.2.unsettled

/-- The record with another delivery for a sink. -/
def MemoryRecord.set (r : MemoryRecord) (sink : DeliverySink) (d : MemoryDelivery) : MemoryRecord :=
  { r with deliveries := Function.update r.deliveries sink d }

@[simp] theorem MemoryRecord.set_deliveries (r : MemoryRecord) (sink : DeliverySink)
    (d : MemoryDelivery) : (r.set sink d).deliveries = Function.update r.deliveries sink d := rfl

/-- Setting the delivery of a record. -/
def put (b : Buffer) (ref : String) (r : MemoryRecord) (sink : DeliverySink) (d : MemoryDelivery) :
    Buffer :=
  b.insert ref (r.set sink d)

/-! ### The calls -/

variable (cfg : Config)

def enqueue (b : Buffer) (trace : SanitizedTrace) (nonce : List UInt8) :
    Except BufferError Bool × Buffer :=
  match cfg.cipher.seal trace nonce with
  | .error err => (.error (.cipher err), b)
  | .ok encrypted =>
    match b.lookup trace.traceRef with
    | some prior =>
      if prior.payload.payloadDigest ≠ trace.payloadDigest then (.error .payloadConflict, b)
      else (.ok false, b)
    | none =>
      if cfg.capacity ≤ pending b then (.error .bufferFull, b)
      else (.ok true, b.insert trace.traceRef ⟨encrypted, fun _ => {}⟩)

/-- A claim passes over the delivery. -/
def MemoryDelivery.Busy (d : MemoryDelivery) (now : ℤ) : Prop :=
  d.state = .acked ∨ (d.state = .leased ∧ ∃ deadline ∈ d.leaseUntil, now < deadline)

instance (d : MemoryDelivery) (now : ℤ) : Decidable (d.Busy now) :=
  inferInstanceAs (Decidable (_ ∨ _ ∧ ∃ deadline ∈ d.leaseUntil, now < deadline))

/-- The delivery under a new lease. -/
def MemoryDelivery.lease (d : MemoryDelivery) (deadline : ℤ) : MemoryDelivery :=
  { d with state := .leased, leaseUntil := some deadline }

/-- The loop of `claim` over the remaining records, with the deliveries claimed so far. -/
def claimLoop (sink : DeliverySink) (limit now deadline : ℤ) :
    List (Sigma fun _ : String => MemoryRecord) → Buffer → List Delivery →
      Except BufferError (List Delivery) × Buffer
  | [], b, claimed => (.ok claimed, b)
  | ⟨ref, record⟩ :: rest, b, claimed =>
    let delivery := record.deliveries sink
    if delivery.Busy now then claimLoop sink limit now deadline rest b claimed
    else
      let b := put b ref record sink (delivery.lease deadline)
      match cfg.cipher.open ref record.payload with
      | .error err => (.error (.cipher err), b)
      | .ok trace =>
        let claimed := claimed ++ [⟨trace, sink, delivery.attemptCount⟩]
        if limit ≤ claimed.length then (.ok claimed, b)
        else claimLoop sink limit now deadline rest b claimed

/-- The records in the order of their references. -/
def sortedEntries (b : Buffer) : List (Sigma fun _ : String => MemoryRecord) :=
  b.entries.insertionSort fun x y => x.1 ≤ y.1

def claim (b : Buffer) (sink : DeliverySink) (limit leaseSeconds now : ℤ) :
    Except BufferError (List Delivery) × Buffer :=
  claimLoop cfg sink limit now (now + seconds leaseSeconds) (sortedEntries b) b []

def acknowledge (b : Buffer) (ref : String) (sink : DeliverySink) :
    Except BufferError Unit × Buffer :=
  match b.lookup ref with
  | none => (.error .keyError, b)
  | some record =>
    (.ok (), put b ref record sink { record.deliveries sink with
      state := .acked, leaseUntil := none, lastErrorCode := none })

def retry (b : Buffer) (ref : String) (sink : DeliverySink) (errorCode : String) :
    Except BufferError Unit × Buffer :=
  if ¬ ValidCode errorCode then (.error .badErrorCode, b)
  else
    match b.lookup ref with
    | none => (.error .keyError, b)
    | some record =>
      let delivery := record.deliveries sink
      (.ok (), put b ref record sink ⟨.pending, delivery.attemptCount + 1, none, some errorCode⟩)

/-- The counts that `status` reports. -/
structure Status where
  sinks : DeliverySink → ℕ
  traces : ℕ

/-- Counting the deliveries of one record. -/
def countRecord (counts : DeliverySink → ℕ) (record : MemoryRecord) : DeliverySink → ℕ :=
  DeliverySink.all.foldl (fun counts sink =>
    if (record.deliveries sink).state ≠ .acked then
      Function.update counts sink (counts sink + 1)
    else counts) counts

def status (b : Buffer) : Status where
  sinks := b.entries.foldl (fun counts e => countRecord counts e.2) fun _ => 0
  traces := pending b

/-! ### The effect of a claim -/

/-- The record with the delivery of a sink under a new lease. -/
def MemoryRecord.lease (r : MemoryRecord) (sink : DeliverySink) (deadline : ℤ) : MemoryRecord :=
  r.set sink ((r.deliveries sink).lease deadline)

theorem lookup_put (b : Buffer) (ref : String) (r : MemoryRecord) (sink : DeliverySink)
    (d : MemoryDelivery) (ref' : String) : (put b ref r sink d).lookup ref' =
      if ref' = ref then some (r.set sink d) else b.lookup ref' := by
  rw [put]
  split
  · rename_i h
    rw [h, AList.lookup_insert]
  · rename_i h
    rw [AList.lookup_insert_ne h]

/-- The deliveries of the references are leased, and nothing else has changed. -/
structure Claimed (b b' : Buffer) (sink : DeliverySink) (now deadline : ℤ) (leased : List String) :
    Prop where
  free : ∀ ref ∈ leased, ∃ r, b.lookup ref = some r ∧ ¬ (r.deliveries sink).Busy now
  lookup : ∀ ref, b'.lookup ref =
    if ref ∈ leased then (b.lookup ref).map fun r => r.lease sink deadline else b.lookup ref

/-- The delivery is what a claim hands out for the reference. -/
def Hands (b : Buffer) (sink : DeliverySink) (ref : String) (d : Delivery) : Prop :=
  ∃ r, b.lookup ref = some r ∧ cfg.cipher.open ref r.payload = .ok d.trace ∧ d.sink = sink ∧
    d.attemptCount = (r.deliveries sink).attemptCount

variable {cfg} {sink : DeliverySink} {limit now deadline : ℤ}

variable {b : Buffer}

theorem Hands.key {ref : String} {d : Delivery} (h : Hands cfg b sink ref d) :
    d.key = (ref, sink) := by
  obtain ⟨r, -, hopen, hsink, -⟩ := h
  rw [Delivery.key, traceRef_of_open hopen, hsink]

/-- What the loop of a claim does from a point on: what it leases, what it hands out after the
deliveries `before`, and that it passes nothing over unless it stops early. -/
structure Loop (cfg : Config) (sink : DeliverySink) (limit now deadline : ℤ)
    (entries : List (Sigma fun _ : String => MemoryRecord)) (b : Buffer) (before : List Delivery)
    (result : Except BufferError (List Delivery)) (b' : Buffer) (leased : List String) : Prop where
  leases : Claimed b b' sink now deadline leased
  visited : ∀ ref ∈ leased, ref ∈ entries.map Sigma.fst
  handed : ∀ ds, result = .ok ds →
    ∃ new, ds = before ++ new ∧ List.Forall₂ (Hands cfg b sink) leased new
  error : ∀ err, result = .error err →
    ∃ e ∈ entries, ∃ cause, cfg.cipher.open e.1 e.2.payload = .error cause ∧ err = .cipher cause
  complete : ∀ ds, result = .ok ds → limit ≤ ds.length ∨
    ∀ e ∈ entries, ¬ (e.2.deliveries sink).Busy now → e.1 ∈ leased

section Loop

variable {entries : List (Sigma fun _ : String => MemoryRecord)} {b b' : Buffer}
  {before : List Delivery} {result : Except BufferError (List Delivery)} {leased : List String}
  {ref : String} {record : MemoryRecord}

theorem Loop.skip (h : Loop cfg sink limit now deadline entries b before result b' leased)
    (hbusy : (record.deliveries sink).Busy now) :
    Loop cfg sink limit now deadline (⟨ref, record⟩ :: entries) b before result b' leased := by
  refine ⟨h.leases, fun r hr => List.mem_cons_of_mem _ (h.visited r hr), h.handed,
    fun err herr => ?_, fun ds hds => ?_⟩
  · obtain ⟨e, he, hopen⟩ := h.error err herr
    exact ⟨e, List.mem_cons_of_mem _ he, hopen⟩
  · refine (h.complete ds hds).imp id fun hall e he hfree => ?_
    rcases List.mem_cons.1 he with rfl | he
    · exact absurd hbusy hfree
    · exact hall e he hfree

theorem claimed_put (hrecord : b.lookup ref = some record)
    (hfree : ¬ (record.deliveries sink).Busy now) :
    Claimed b (put b ref record sink ((record.deliveries sink).lease deadline)) sink now deadline
      [ref] := by
  refine ⟨fun r hr => ?_, fun r => ?_⟩
  · rw [List.mem_singleton] at hr
    subst hr
    exact ⟨record, hrecord, hfree⟩
  · rw [lookup_put]
    by_cases hr : r = ref
    · subst hr
      simp [hrecord, MemoryRecord.lease]
    · simp [hr]

/-- A delivery is leased and handed out, and the loop goes on. -/
theorem Loop.lease {d : Delivery} (hrecord : b.lookup ref = some record)
    (hfree : ¬ (record.deliveries sink).Busy now) (hnot : ref ∉ entries.map Sigma.fst)
    (hd : Hands cfg b sink ref d)
    (h : Loop cfg sink limit now deadline entries
      (put b ref record sink ((record.deliveries sink).lease deadline)) (before ++ [d]) result b'
      leased) :
    Loop cfg sink limit now deadline (⟨ref, record⟩ :: entries) b before result b'
      (ref :: leased) := by
  have hne : ∀ r ∈ leased, r ≠ ref := fun r hr heq => hnot (heq ▸ h.visited r hr)
  have hother : ∀ r ∈ leased, (put b ref record sink ((record.deliveries sink).lease
      deadline)).lookup r = b.lookup r := fun r hr => by rw [lookup_put, if_neg (hne r hr)]
  refine ⟨⟨fun r hr => ?_, fun r => ?_⟩, fun r hr => ?_, fun ds hds => ?_, fun err herr => ?_,
    fun ds hds => ?_⟩
  · rcases List.mem_cons.1 hr with rfl | hr
    · exact ⟨record, hrecord, hfree⟩
    · obtain ⟨r', hr', hf⟩ := h.leases.free r hr
      exact ⟨r', hother r hr ▸ hr', hf⟩
  · rw [h.leases.lookup r, lookup_put]
    by_cases hr : r = ref
    · subst hr
      have hmem : r ∉ leased := fun hmem => hne r hmem rfl
      simp [hmem, hrecord, MemoryRecord.lease]
    · simp [hr]
  · rcases List.mem_cons.1 hr with rfl | hr
    · exact List.mem_cons_self
    · exact List.mem_cons_of_mem _ (h.visited r hr)
  · obtain ⟨new, hnew, hall⟩ := h.handed ds hds
    refine ⟨d :: new, by rw [hnew, List.append_assoc, List.singleton_append], .cons hd ?_⟩
    refine ((List.forall₂_and_left leased new).2 ⟨hother, hall⟩).imp ?_
    rintro r d' ⟨hsame, r', hr', hrest⟩
    exact ⟨r', hsame ▸ hr', hrest⟩
  · obtain ⟨e, he, hopen'⟩ := h.error err herr
    exact ⟨e, List.mem_cons_of_mem _ he, hopen'⟩
  · refine (h.complete ds hds).imp id fun hall e he hfree' => ?_
    rcases List.mem_cons.1 he with rfl | he
    · exact List.mem_cons_self
    · exact List.mem_cons_of_mem _ (hall e he hfree')

theorem loop_nil : Loop cfg sink limit now deadline [] b before (.ok before) b [] := by
  refine ⟨⟨fun ref h => absurd h List.not_mem_nil, fun ref => rfl⟩,
    fun ref h => absurd h List.not_mem_nil, fun ds hds => ?_, fun err herr => ?_,
    fun ds _ => Or.inr fun e he => absurd he List.not_mem_nil⟩
  · cases hds
    exact ⟨[], (List.append_nil before).symm, .nil⟩
  · cases herr

end Loop

variable {entries : List (Sigma fun _ : String => MemoryRecord)}

theorem loop_claimLoop (before : List Delivery) (hkeys : (entries.map Sigma.fst).Nodup)
    (hentries : ∀ e ∈ entries, b.lookup e.1 = some e.2) :
    ∃ leased, Loop cfg sink limit now deadline entries b before
      (claimLoop cfg sink limit now deadline entries b before).1
      (claimLoop cfg sink limit now deadline entries b before).2 leased := by
  induction entries generalizing b before with
  | nil => exact ⟨[], loop_nil⟩
  | cons e entries ih =>
    obtain ⟨ref, record⟩ := e
    rw [List.map_cons, List.nodup_cons] at hkeys
    have hrecord : b.lookup ref = some record := hentries ⟨ref, record⟩ List.mem_cons_self
    rw [claimLoop]
    split
    · rename_i hbusy
      obtain ⟨leased, h⟩ := ih before hkeys.2 fun e he =>
        hentries e (List.mem_cons_of_mem _ he)
      exact ⟨leased, h.skip hbusy⟩
    · rename_i hfree
      have hlater : ∀ e ∈ entries,
          (put b ref record sink ((record.deliveries sink).lease deadline)).lookup e.1 =
            some e.2 := by
        intro e he
        have hne : e.1 ≠ ref := fun heq => hkeys.1 (List.mem_map.2 ⟨e, he, heq⟩)
        rw [lookup_put, if_neg hne]
        exact hentries e (List.mem_cons_of_mem _ he)
      have hvisited : ∀ r ∈ [ref], r ∈ (⟨ref, record⟩ :: entries : List (Sigma _)).map Sigma.fst :=
        fun r hr => by
          rw [List.mem_singleton.1 hr]
          exact List.mem_cons_self
      dsimp only
      split
      · rename_i err hopen
        refine ⟨[ref], claimed_put hrecord hfree, hvisited, fun ds hds => ?_, fun err' herr => ?_,
          fun ds hds => ?_⟩
        · cases hds
        · cases herr
          exact ⟨_, List.mem_cons_self, err, hopen, rfl⟩
        · cases hds
      · rename_i trace hopen
        have hhands : Hands cfg b sink ref ⟨trace, sink, (record.deliveries sink).attemptCount⟩ :=
          ⟨record, hrecord, hopen, rfl, rfl⟩
        split
        · rename_i hlimit
          refine ⟨[ref], claimed_put hrecord hfree, hvisited, fun ds hds => ?_,
            fun err herr => ?_, fun ds hds => ?_⟩
          · cases hds
            exact ⟨_, rfl, .cons hhands .nil⟩
          · cases herr
          · cases hds
            exact Or.inl hlimit
        · obtain ⟨leased, h⟩ := ih
            (before ++ [⟨trace, sink, (record.deliveries sink).attemptCount⟩])
            hkeys.2 hlater
          exact ⟨ref :: leased, h.lease hrecord hfree hkeys.1 hhands⟩

theorem exists_of_forall₂ {α β : Type} {R : α → β → Prop} {xs : List α} {ys : List β}
    (h : List.Forall₂ R xs ys) {y : β} (hy : y ∈ ys) : ∃ x ∈ xs, R x y := by
  induction h with
  | nil => cases hy
  | cons hxy _ ih =>
    rcases List.mem_cons.1 hy with rfl | hy
    · exact ⟨_, List.mem_cons_self, hxy⟩
    · obtain ⟨x, hx, hr⟩ := ih hy
      exact ⟨x, List.mem_cons_of_mem _ hx, hr⟩

theorem perm_sortedEntries (b : Buffer) : (sortedEntries b).Perm b.entries :=
  List.perm_insertionSort _ _

/-- **What a claim does.** -/
theorem loop_claim (cfg : Config) (b : Buffer) (sink : DeliverySink) (limit leaseSeconds now : ℤ) :
    ∃ leased, Loop cfg sink limit now (now + seconds leaseSeconds) (sortedEntries b) b []
      (claim cfg b sink limit leaseSeconds now).1 (claim cfg b sink limit leaseSeconds now).2
      leased := by
  refine loop_claimLoop [] ?_ fun e he => ?_
  · exact ((perm_sortedEntries b).map Sigma.fst).nodup_iff.2 b.nodupKeys
  · exact AList.mem_lookup_iff.2 ((perm_sortedEntries b).mem_iff.1 he)

/-- The references of the records that a claim does not pass over. -/
def free (sink : DeliverySink) (now : ℤ) (entries : List (Sigma fun _ : String => MemoryRecord)) :
    List String :=
  (entries.filter fun e => ¬(e.2.deliveries sink).Busy now).map Sigma.fst

/-- With payloads that open and a limit that is large enough, the loop leases and hands out all that
is free. -/
theorem claimLoop_all (before : List Delivery) (hkeys : (entries.map Sigma.fst).Nodup)
    (hentries : ∀ e ∈ entries, b.lookup e.1 = some e.2)
    (hopens : ∀ e ∈ entries, ∃ trace, cfg.cipher.open e.1 e.2.payload = .ok trace)
    (hlimit : ((before.length + (free sink now entries).length : ℕ) : ℤ) ≤ limit) :
    ∃ ds b', claimLoop cfg sink limit now deadline entries b before = (.ok (before ++ ds), b') ∧
      List.Forall₂ (Hands cfg b sink) (free sink now entries) ds ∧
      ∀ ref, b'.lookup ref = if ref ∈ free sink now entries then
        (b.lookup ref).map fun r => r.lease sink deadline else b.lookup ref := by
  induction entries generalizing b before with
  | nil => exact ⟨[], b, by rw [claimLoop, List.append_nil], .nil, fun ref => rfl⟩
  | cons e entries ih =>
    obtain ⟨ref, record⟩ := e
    rw [List.map_cons, List.nodup_cons] at hkeys
    have hrecord : b.lookup ref = some record := hentries ⟨ref, record⟩ List.mem_cons_self
    have hopens' := fun e he => hopens e (List.mem_cons_of_mem _ he)
    rw [claimLoop]
    by_cases hbusy : (record.deliveries sink).Busy now
    · have hfree : free sink now (⟨ref, record⟩ :: entries) = free sink now entries := by
        rw [free, free, List.filter_cons_of_neg (by simpa using hbusy)]
      rw [if_pos hbusy, hfree]
      rw [hfree] at hlimit
      exact ih before hkeys.2 (fun e he => hentries e (List.mem_cons_of_mem _ he)) hopens' hlimit
    · have hfree : free sink now (⟨ref, record⟩ :: entries) = ref :: free sink now entries := by
        rw [free, free, List.filter_cons_of_pos (by simpa using hbusy), List.map_cons]
      obtain ⟨trace, hopen⟩ := hopens ⟨ref, record⟩ List.mem_cons_self
      have hhands : Hands cfg b sink ref ⟨trace, sink, (record.deliveries sink).attemptCount⟩ :=
        ⟨record, hrecord, hopen, rfl, rfl⟩
      have hnotin : ref ∉ free sink now entries := by
        intro hmem
        obtain ⟨e, he, hfst⟩ := List.mem_map.1 hmem
        exact hkeys.1 (List.mem_map.2 ⟨e, List.mem_of_mem_filter he, hfst⟩)
      rw [if_neg hbusy, hfree]
      rw [hfree] at hlimit
      simp only [hopen]
      split
      · -- the limit is reached, so nothing else was free
        rename_i hreached
        have hnone : free sink now entries = [] := by
          rw [← List.length_eq_zero_iff]
          simp only [List.length_append, List.length_cons, List.length_nil] at hreached hlimit
          omega
        refine ⟨[_], _, rfl, ?_, fun r => ?_⟩
        · rw [hnone]
          exact .cons hhands .nil
        · rw [lookup_put, hnone]
          by_cases hr : r = ref
          · subst hr
            simp [hrecord, MemoryRecord.lease]
          · simp [hr]
      · have hother : ∀ r, r ≠ ref →
            (put b ref record sink ((record.deliveries sink).lease deadline)).lookup r = b.lookup r :=
          fun r hr => by rw [lookup_put, if_neg hr]
        have hne : ∀ e ∈ entries, e.1 ≠ ref := fun e he heq => hkeys.1 (List.mem_map.2 ⟨e, he, heq⟩)
        obtain ⟨ds, b', hloop, hhanded, hlookup⟩ := ih (before ++ [_]) hkeys.2
          (fun e he => by
            rw [hother e.1 (hne e he)]
            exact hentries e (List.mem_cons_of_mem _ he)) hopens'
          (by
            simp only [List.length_append, List.length_cons, List.length_nil] at hlimit ⊢
            push_cast at hlimit ⊢
            omega)
        refine ⟨_ :: ds, b', ?_, .cons hhands ?_, fun r => ?_⟩
        · rw [hloop, List.append_assoc, List.singleton_append]
        · have hsame : ∀ r ∈ free sink now entries,
              (put b ref record sink ((record.deliveries sink).lease deadline)).lookup r =
                b.lookup r := fun r hr => hother r fun heq => hnotin (heq ▸ hr)
          refine ((List.forall₂_and_left _ ds).2 ⟨hsame, hhanded⟩).imp ?_
          rintro r d ⟨hr, record', hrecord', hrest⟩
          exact ⟨record', hr ▸ hrecord', hrest⟩
        · rw [hlookup r, lookup_put]
          by_cases hr : r = ref
          · subst hr
            rw [if_neg hnotin, if_pos rfl, if_pos List.mem_cons_self, hrecord]
            rfl
          · simp [hr]

/-- **A claim whose limit is large enough takes all that is free.** -/
theorem claim_all {leaseSeconds : ℤ} (hopens : ∀ ref record, b.lookup ref = some record →
      ∃ trace, cfg.cipher.open ref record.payload = .ok trace)
    (hlimit : ((free sink now (sortedEntries b)).length : ℤ) ≤ limit) :
    ∃ ds b', claim cfg b sink limit leaseSeconds now = (.ok ds, b') ∧
      List.Forall₂ (Hands cfg b sink) (free sink now (sortedEntries b)) ds ∧
      ∀ ref, b'.lookup ref = if ref ∈ free sink now (sortedEntries b) then
        (b.lookup ref).map fun r => r.lease sink (now + seconds leaseSeconds) else b.lookup ref := by
  have hentries : ∀ e ∈ sortedEntries b, b.lookup e.1 = some e.2 := fun e he =>
    AList.mem_lookup_iff.2 ((perm_sortedEntries b).mem_iff.1 he)
  have hkeys : ((sortedEntries b).map Sigma.fst).Nodup :=
    ((perm_sortedEntries b).map Sigma.fst).nodup_iff.2 b.nodupKeys
  exact claimLoop_all [] hkeys hentries (fun e he => hopens e.1 e.2 (hentries e he))
    (by simpa using hlimit)

theorem mem_free {ref : String} : ref ∈ free sink now (sortedEntries b) ↔
    ∃ record, b.lookup ref = some record ∧ ¬(record.deliveries sink).Busy now := by
  rw [free, List.mem_map]
  constructor
  · rintro ⟨e, he, rfl⟩
    obtain ⟨hmem, hfree⟩ := List.mem_filter.1 he
    rw [decide_eq_true_eq] at hfree
    exact ⟨e.2, AList.mem_lookup_iff.2 ((perm_sortedEntries b).mem_iff.1 hmem), hfree⟩
  · rintro ⟨record, hrecord, hfree⟩
    refine ⟨⟨ref, record⟩, List.mem_filter.2 ⟨?_, by simpa using hfree⟩, rfl⟩
    exact (perm_sortedEntries b).mem_iff.2 (AList.mem_lookup_iff.1 hrecord)

/-! ### The effect of the other calls -/

theorem enqueue_cases (cfg : Config) (b : Buffer) (trace : SanitizedTrace) (nonce : List UInt8) :
    ((enqueue cfg b trace nonce).2 = b ∧ (enqueue cfg b trace nonce).1 ≠ .ok true) ∨
      ∃ payload, cfg.cipher.seal trace nonce = .ok payload ∧ b.lookup trace.traceRef = none ∧
        pending b < cfg.capacity ∧
        enqueue cfg b trace nonce = (.ok true, b.insert trace.traceRef ⟨payload, fun _ => {}⟩) := by
  unfold enqueue
  split
  · exact Or.inl ⟨rfl, by simp⟩
  · rename_i payload hseal
    split
    · split
      · exact Or.inl ⟨rfl, by simp⟩
      · exact Or.inl ⟨rfl, by simp⟩
    · rename_i hnone
      split
      · exact Or.inl ⟨rfl, by simp⟩
      · rename_i hfull
        exact Or.inr ⟨payload, hseal, hnone, not_le.1 hfull, rfl⟩

theorem acknowledge_cases (b : Buffer) (ref : String) (sink : DeliverySink) :
    (b.lookup ref = none ∧ acknowledge b ref sink = (.error .keyError, b)) ∨
      ∃ record, b.lookup ref = some record ∧ acknowledge b ref sink =
        (.ok (), put b ref record sink { record.deliveries sink with
          state := .acked, leaseUntil := none, lastErrorCode := none }) := by
  unfold acknowledge
  split
  · rename_i hnone
    exact Or.inl ⟨hnone, rfl⟩
  · rename_i record hrecord
    exact Or.inr ⟨record, hrecord, rfl⟩

theorem retry_cases (b : Buffer) (ref : String) (sink : DeliverySink) (code : String) :
    ((retry b ref sink code).2 = b ∧ ((retry b ref sink code).1 = .error .badErrorCode ∧
        ¬ ValidCode code ∨ (retry b ref sink code).1 = .error .keyError ∧ b.lookup ref = none)) ∨
      ∃ record, b.lookup ref = some record ∧ ValidCode code ∧ retry b ref sink code =
        (.ok (), put b ref record sink
          ⟨.pending, (record.deliveries sink).attemptCount + 1, none, some code⟩) := by
  unfold retry
  split
  · rename_i hcode
    exact Or.inl ⟨rfl, Or.inl ⟨rfl, hcode⟩⟩
  · rename_i hcode
    split
    · rename_i hnone
      exact Or.inl ⟨rfl, Or.inr ⟨rfl, hnone⟩⟩
    · rename_i record hrecord
      exact Or.inr ⟨record, hrecord, not_not.1 hcode, rfl⟩

/-! ### The counts -/

theorem countRecord_apply (counts : DeliverySink → ℕ) (record : MemoryRecord)
    (sink : DeliverySink) : countRecord counts record sink =
      counts sink + if (record.deliveries sink).state ≠ .acked then 1 else 0 := by
  simp only [countRecord, DeliverySink.all, List.foldl_cons, List.foldl_nil]
  cases sink <;> split_ifs <;> simp_all

theorem foldl_countRecord (entries : List (Sigma fun _ : String => MemoryRecord))
    (counts : DeliverySink → ℕ) (sink : DeliverySink) :
    entries.foldl (fun counts e => countRecord counts e.2) counts sink =
      counts sink + entries.countP fun e => (e.2.deliveries sink).state ≠ .acked := by
  induction entries generalizing counts with
  | nil => rfl
  | cons e entries ih =>
    rw [List.foldl_cons, ih, countRecord_apply, List.countP_cons]
    simp only [decide_eq_true_eq]
    omega

theorem unsettled_iff (r : MemoryRecord) :
    r.unsettled = true ↔ ∃ sink ∈ DeliverySink.all, (r.deliveries sink).state ≠ .acked := by
  simp [MemoryRecord.unsettled]

/-- **The counts of `status` are the numbers of open deliveries and of open traces.** -/
theorem status_spec (b : Buffer) :
    (∀ sink, (status b).sinks sink =
      b.entries.countP fun e => (e.2.deliveries sink).state ≠ .acked) ∧
      (status b).traces = b.entries.countP fun e =>
        ∃ sink ∈ DeliverySink.all, (e.2.deliveries sink).state ≠ .acked := by
  refine ⟨fun sink => ?_, ?_⟩
  · simp only [status, foldl_countRecord, Nat.zero_add]
  · refine List.countP_congr fun e _ => ?_
    rw [unsettled_iff, decide_eq_true_eq]

/-! ### A buffer with one record -/

section Single

theorem lookup_singleton (ref : String) (r : MemoryRecord) :
    (AList.singleton ref r : Buffer).lookup ref = some r :=
  AList.mem_lookup_iff.2 (List.mem_singleton.2 rfl)

theorem put_singleton (ref : String) (r : MemoryRecord) (sink : DeliverySink) (d : MemoryDelivery) :
    put (AList.singleton ref r) ref r sink d =
      AList.singleton ref (r.set sink d) :=
  AList.insert_singleton_eq

variable {trace : SanitizedTrace}

theorem claimLoop_last {cfg : Config} {ref : String} {r : MemoryRecord}
    (hopen : cfg.cipher.open ref r.payload = .ok trace) {sink : DeliverySink} {now : ℤ}
    (hfree : ¬ (r.deliveries sink).Busy now) {limit : ℤ} {claimed : List Delivery}
    (hlimit : limit ≤ (claimed.length + 1 : ℕ)) (deadline : ℤ)
    (rest : List (Sigma fun _ : String => MemoryRecord)) (b : Buffer) :
    claimLoop cfg sink limit now deadline (⟨ref, r⟩ :: rest) b claimed =
      (.ok (claimed ++ [⟨trace, sink, (r.deliveries sink).attemptCount⟩]),
        put b ref r sink ((r.deliveries sink).lease deadline)) := by
  rw [claimLoop, if_neg hfree]
  simp only [hopen, List.length_append, List.length_singleton, if_pos hlimit]

theorem claim_singleton {cfg : Config} {ref : String} (r : MemoryRecord)
    (hopen : cfg.cipher.open ref r.payload = .ok trace) {sink : DeliverySink} {now : ℤ}
    (hfree : ¬ (r.deliveries sink).Busy now) (limit leaseSeconds : ℤ) :
    claim cfg (AList.singleton ref r) sink limit leaseSeconds now =
      (.ok [⟨trace, sink, (r.deliveries sink).attemptCount⟩],
        AList.singleton ref (r.lease sink (now + seconds leaseSeconds))) := by
  have hsorted : sortedEntries (AList.singleton ref r) = [⟨ref, r⟩] := rfl
  rw [claim, hsorted, claimLoop, if_neg hfree]
  simp only [hopen, put_singleton, claimLoop, List.nil_append, ite_self]
  rfl

theorem acknowledge_singleton (ref : String) (r : MemoryRecord) (sink : DeliverySink) :
    acknowledge (AList.singleton ref r) ref sink =
      (.ok (), AList.singleton ref (r.set sink { r.deliveries sink with
        state := .acked, leaseUntil := none, lastErrorCode := none })) := by
  rw [acknowledge, lookup_singleton]
  simp only [put_singleton]

theorem retry_singleton (ref : String) (r : MemoryRecord) (sink : DeliverySink) {code : String}
    (hcode : ValidCode code) :
    retry (AList.singleton ref r) ref sink code =
      (.ok (), AList.singleton ref
        (r.set sink ⟨.pending, (r.deliveries sink).attemptCount + 1, none, some code⟩)) := by
  rw [retry, if_neg (not_not.2 hcode), lookup_singleton]
  simp only [put_singleton]

theorem enqueue_empty {cfg : Config} {nonce : List UInt8} {payload : EncryptedPayload}
    (hseal : cfg.cipher.seal trace nonce = .ok payload) :
    enqueue cfg ∅ trace nonce =
      (.ok true, AList.singleton trace.traceRef ⟨payload, fun _ => {}⟩) := by
  have hcapacity : ¬ cfg.capacity ≤ pending ∅ := by
    have := cfg.positive
    have hzero : pending ∅ = 0 := rfl
    omega
  rw [enqueue, hseal]
  simp only [AList.lookup_empty, if_neg hcapacity]
  rfl

end Single

/-! ### Deliveries as leases -/

/-- What a delivery says to a claim. -/
def MemoryDelivery.status (d : MemoryDelivery) : Leases.Status :=
  match d.state, d.leaseUntil with
  | .acked, _ => .done
  | .leased, some deadline => .leased deadline
  | _, _ => .free

def statusOf (b : Buffer) (key : Key) : Leases.Status :=
  match b.lookup key.1 with
  | some r => (r.deliveries key.2).status
  | none => .free

end MemoryBuffer
