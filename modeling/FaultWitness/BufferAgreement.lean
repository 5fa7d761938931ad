/-
**The two trace buffers side by side.**

The buffer in memory is the semantic reference of the one in PostgreSQL.  This module runs both on one
serial sequence of calls, with the same capacity and the same readings of the clock, and compares
what they return: the flag of `enqueue`, the set of traces and attempts of `claim`, the counts of
`status`, or the class of the exception.

They agree only under conditions on the call and on the state before it.  A `retry` of an unknown
reference raises `KeyError` in memory and does nothing in PostgreSQL; a `retry` of an acknowledged
delivery reopens it in memory and violates a constraint in PostgreSQL; a lease that ends at the very
instant of a claim has ended in memory and not yet in PostgreSQL; a trace that was taken in later than
the clock of a claim is claimed in memory and not in PostgreSQL; a lease may end beyond the datetimes
or the timestamps; and the tables refuse what their `CHECK` constraints, their integers or the encoding
of their texts do not allow.

A serial run sees no rows locked by others, and the count of pending traces that `enqueue` makes is
the current one.

Main definitions:

* `BufferAgreement.Call`, `BufferAgreement.Outcome` — calls and what they return;
* `BufferAgreement.performMemory`, `BufferAgreement.performPostgres` — a call on each buffer;
* `BufferAgreement.Within` — the condition on a call;
* `BufferAgreement.Related` — the simulation relation.

Main results:

* `BufferAgreement.Related.simulates` — one call is answered alike exactly under the condition, and
  then the states stay related;
* `BufferAgreement.buffers_agree_iff` — **a run agrees exactly if each of its calls meets the condition**.
-/

import FaultWitness.MemoryBuffer
import FaultWitness.PostgresBuffer

set_option autoImplicit false

namespace BufferAgreement

open Traces

/-! ### Calls -/

/-- The classes of the exceptions. -/
inductive ExceptionClass
  | valueError
  | invalidTag
  | payloadConflict
  | bufferFull
  | keyError
  | checkViolation
  | numericValueOutOfRange
  | invalidRowCountInLimit
  /-- A text with the character U+0000, which PostgreSQL does not take. -/
  | characterNotInRepertoire
  /-- An argument outside the numbers of the statement. -/
  | dataError
  /-- An interval or a timestamp out of the range of PostgreSQL. -/
  | datetimeFieldOverflow
  /-- A timedelta or a datetime out of the range of Python. -/
  | overflowError
deriving DecidableEq

def CipherError.class : CipherError → ExceptionClass
  | .invalidTag => .invalidTag
  | _ => .valueError

def BufferError.class : BufferError → ExceptionClass
  | .cipher err => CipherError.class err
  | .payloadConflict => .payloadConflict
  | .bufferFull => .bufferFull
  | .keyError => .keyError
  | .badErrorCode => .valueError
  | .checkViolation => .checkViolation
  | .payloadViolation => .checkViolation
  | .integerOutOfRange => .numericValueOutOfRange
  | .negativeLimit => .invalidRowCountInLimit
  | .dataError => .dataError

inductive Call
  | enqueue (trace : SanitizedTrace)
  | claim (sink : DeliverySink) (limit leaseSeconds : ℤ)
  | acknowledge (ref : String) (sink : DeliverySink)
  | retry (ref : String) (sink : DeliverySink) (errorCode : String)
  | status

/-- The instant is between the years 1 and 9999, as a `datetime` is. -/
def IsDatetime (instant : ℤ) : Prop :=
  -62135596800000000 ≤ instant ∧ instant < 253402300800000000

instance (instant : ℤ) : Decidable (IsDatetime instant) := inferInstanceAs (Decidable (_ ∧ _))

/-- What the two buffers draw from their surroundings for one call: one reading of the clock, a nonce
each, and the rows that the statement of `claim` selects. -/
structure Draw where
  now : ℤ
  isDatetime_now : IsDatetime now
  memoryNonce : List UInt8
  postgresNonce : List UInt8
  /-- `os.urandom(12)`. -/
  length_nonce : postgresNonce.length = 12
  chosen : List String := []
  /-- The plan of `claim` computes the interval of the lease although no row is selected. -/
  eager : Bool := false

structure Step where
  draw : Draw
  call : Call

inductive Outcome
  | flag (b : Bool)
  | deliveries (ds : List (SanitizedTrace × ℕ))
  | done
  | status (counts : MemoryBuffer.Status)
  | raised (class_ : ExceptionClass)

/-- The outcomes are the same; of what is claimed, the set counts. -/
def Outcome.Same : Outcome → Outcome → Prop
  | .deliveries ds, .deliveries es => ∀ p, p ∈ ds ↔ p ∈ es
  | o, o' => o = o'

/-- What a claim reports of a delivery. -/
def report (d : Delivery) : SanitizedTrace × ℕ := (d.trace, d.attemptCount)

/-- The result of a call as an outcome. -/
def outcome {α : Type} (f : α → Outcome) : Except BufferError α → Outcome
  | .ok a => f a
  | .error err => .raised (BufferError.class err)

/-! ### The two buffers -/

/-- The cipher and the capacity that both buffers have. -/
structure Config where
  cipher : PayloadCipher
  capacity : ℕ
  positive : 1 ≤ capacity

def Config.memory (cfg : Config) : MemoryBuffer.Config := ⟨cfg.cipher, cfg.capacity, cfg.positive⟩

def Config.postgres (cfg : Config) : PostgresBuffer.Config :=
  ⟨cfg.cipher, cfg.capacity, cfg.positive⟩

variable (cfg : Config)

/-- The first delivery that the buffer in memory would claim. -/
def firstFree (b : MemoryBuffer.Buffer) (sink : DeliverySink) (now : ℤ) :
    Option (Sigma fun _ : String => MemoryBuffer.MemoryRecord) :=
  (MemoryBuffer.sortedEntries b).find? fun e => ¬(e.2.deliveries sink).Busy now

def performMemory (d : Draw) (b : MemoryBuffer.Buffer) : Call → Outcome × MemoryBuffer.Buffer
  | .enqueue trace =>
    let r := MemoryBuffer.enqueue cfg.memory b trace d.memoryNonce
    (outcome .flag r.1, r.2)
  | .claim sink limit leaseSeconds =>
    match firstFree b sink d.now, decide (IsDatetime (d.now + seconds leaseSeconds)) with
    | some ⟨ref, record⟩, false =>
      -- the state is set before the end of the lease is computed
      (.raised .overflowError, MemoryBuffer.put b ref record sink
        { record.deliveries sink with state := .leased })
    | _, _ =>
      let r := MemoryBuffer.claim cfg.memory b sink limit leaseSeconds d.now
      (outcome (fun ds => .deliveries (ds.map report)) r.1, r.2)
  | .acknowledge ref sink =>
    let r := MemoryBuffer.acknowledge b ref sink
    (outcome (fun _ => .done) r.1, r.2)
  | .retry ref sink errorCode =>
    let r := MemoryBuffer.retry b ref sink errorCode
    (outcome (fun _ => .done) r.1, r.2)
  | .status => (.status (MemoryBuffer.status b), b)

/-- A text that PostgreSQL takes. -/
def Storable (s : String) : Prop := '\x00' ∉ s.toList

instance (s : String) : Decidable (Storable s) := inferInstanceAs (Decidable (_ ∉ _))

/-- The seconds that a double precision argument takes: what does not round to `2 ^ 1024`. -/
def Encodable (leaseSeconds : ℤ) : Prop := leaseSeconds.natAbs < 2 ^ 970 * (2 ^ 54 - 1)

instance (leaseSeconds : ℤ) : Decidable (Encodable leaseSeconds) :=
  inferInstanceAs (Decidable (_ < _))

/-- The seconds whose microseconds an interval takes. -/
def IsInterval (leaseSeconds : ℤ) : Prop := leaseSeconds.natAbs ≤ 9223372036854

instance (leaseSeconds : ℤ) : Decidable (IsInterval leaseSeconds) :=
  inferInstanceAs (Decidable (_ ≤ _))

/-- The instant is between the years 4714 BC and 294276, as a `timestamptz` is. -/
def IsTimestamp (instant : ℤ) : Prop :=
  -210866803200000000 ≤ instant ∧ instant < 9224318016000000000

instance (instant : ℤ) : Decidable (IsTimestamp instant) := inferInstanceAs (Decidable (_ ∧ _))

/-- What a statement draws in a serial run. -/
def Draw.moment (d : Draw) (t : PostgresBuffer.Tables) : PostgresBuffer.Moment where
  now := d.now
  nonce := d.postgresNonce
  seen := PostgresBuffer.pending t
  skipped := []
  chosen := d.chosen

/-- The two counts of `status`. -/
def statusPostgres (t : PostgresBuffer.Tables) : MemoryBuffer.Status where
  sinks sink := t.deliveries.entries.countP fun e => e.1.2 = sink ∧ e.2.state ≠ .acked
  traces := PostgresBuffer.pending t

/-- A call on the tables; `none` if the rows drawn are not those that the statement selects. -/
def performPostgres (d : Draw) (t : PostgresBuffer.Tables) :
    Call → Option (Outcome × PostgresBuffer.Tables)
  | .enqueue trace =>
    match cfg.cipher.seal trace d.postgresNonce with
    | .error err => some (.raised (CipherError.class err), t)
    | .ok _ =>
      -- the texts are encoded when a statement takes them
      if ¬Storable trace.traceRef then some (.raised .characterNotInRepertoire, t)
      else
        let r := PostgresBuffer.enqueue cfg.postgres (d.moment t) t trace
        if (r.1 = .ok true ∨ r.1 = .error .payloadViolation) ∧
            ¬(Storable cfg.cipher.keyId ∧ Storable trace.candidateSha) then
          some (.raised .characterNotInRepertoire, t)
        else some (outcome .flag r.1, r.2)
  | .claim sink limit leaseSeconds =>
    if PostgresBuffer.limitError limit = some .dataError ∨ ¬Encodable leaseSeconds then
      some (.raised .dataError, t)
    else if d.eager ∧ ¬IsInterval leaseSeconds then some (.raised .datetimeFieldOverflow, t)
    else
      (PostgresBuffer.claim cfg.postgres (d.moment t) t sink limit leaseSeconds).map fun r =>
        if (0 ≤ limit ∧ d.chosen ≠ []) ∧
            ¬(IsInterval leaseSeconds ∧ IsTimestamp (d.now + seconds leaseSeconds)) then
          (.raised .datetimeFieldOverflow, t)
        else (outcome (fun ds => .deliveries (ds.map report)) r.1, r.2)
  | .acknowledge ref sink =>
    if ¬Storable ref then some (.raised .characterNotInRepertoire, t)
    else
      let r := PostgresBuffer.acknowledge (d.moment t) t ref sink
      some (outcome (fun _ => .done) r.1, r.2)
  | .retry ref sink errorCode =>
    if ValidCode errorCode ∧ ¬(Storable ref ∧ Storable errorCode) then
      some (.raised .characterNotInRepertoire, t)
    else
      let r := PostgresBuffer.retry (d.moment t) t ref sink errorCode
      some (outcome (fun _ => .done) r.1, r.2)
  | .status => some (.status (statusPostgres t), t)

/-! ### Runs -/

/-- The number of deliveries that the buffer in memory would claim. -/
def claimable (b : MemoryBuffer.Buffer) (sink : DeliverySink) (now : ℤ) : ℕ :=
  b.entries.countP fun e => ¬(e.2.deliveries sink).Busy now

/-- The runs that are compared: when a claim is made, the backoff of each open delivery that was
retried has elapsed, and the limit of the claim is at least the number of claimable deliveries.  The
rows drawn are those that the statement selects. -/
def Due (d : Draw) (b : MemoryBuffer.Buffer) (t : PostgresBuffer.Tables) : Call → Prop
  | .claim sink limit leaseSeconds => (claimable b sink d.now : ℤ) ≤ limit ∧
      (∀ ref r, t.row (ref, sink) = some r → r.state ≠ .acked → 0 < r.attemptCount →
        r.nextAttemptAt ≤ d.now) ∧
      (performPostgres cfg d t (.claim sink limit leaseSeconds)).isSome
  | _ => True

/-- The condition on a call in the states before it. -/
def Within (d : Draw) (b : MemoryBuffer.Buffer) (t : PostgresBuffer.Tables) : Call → Prop
  | .enqueue trace => (∃ payload, cfg.cipher.seal trace d.memoryNonce = .ok payload) →
      b.lookup trace.traceRef = none → Storable trace.traceRef ∧
        (MemoryBuffer.pending b < cfg.capacity → PostgresBuffer.IsHex 24 trace.traceRef ∧
          PostgresBuffer.IsHex 64 trace.payloadDigest ∧ PostgresBuffer.IsHex 40 trace.candidateSha ∧
          Storable cfg.cipher.keyId)
  | .claim sink limit leaseSeconds => limit < 9223372036854775808 ∧ Encodable leaseSeconds ∧
      (d.eager → IsInterval leaseSeconds) ∧
      ∀ ref record, b.lookup ref = some record → ¬(record.deliveries sink).Busy d.now →
        IsDatetime (d.now + seconds leaseSeconds) ∧
        ((record.deliveries sink).state = .leased →
          (record.deliveries sink).leaseUntil ≠ some d.now) ∧
        ((record.deliveries sink).attemptCount = 0 →
          ∀ r, t.row (ref, sink) = some r → r.nextAttemptAt ≤ d.now)
  | .acknowledge ref _ => Storable ref
  | .retry ref sink errorCode => ValidCode errorCode → ∃ record, b.lookup ref = some record ∧
      (record.deliveries sink).state ≠ .acked ∧
      (record.deliveries sink).attemptCount < 2147483647 ∧ Storable errorCode
  | .status => True

/-- Along a run of both buffers, a property of each call and of the states before it. -/
def Along (P : Draw → MemoryBuffer.Buffer → PostgresBuffer.Tables → Call → Prop) :
    MemoryBuffer.Buffer → PostgresBuffer.Tables → List Step → Prop
  | _, _, [] => True
  | b, t, s :: steps => P s.draw b t s.call ∧
      ∀ o t', performPostgres cfg s.draw t s.call = some (o, t') →
        Along P (performMemory cfg s.draw b s.call).2 t' steps

/-- Both buffers answer the call alike. -/
def Agrees (d : Draw) (b : MemoryBuffer.Buffer) (t : PostgresBuffer.Tables) (c : Call) : Prop :=
  ∀ o t', performPostgres cfg d t c = some (o, t') → (performMemory cfg d b c).1.Same o

/-! ### The simulation relation -/

/-- A delivery and a row say the same. -/
structure Tracks (d : MemoryBuffer.MemoryDelivery) (r : PostgresBuffer.DeliveryRow) : Prop where
  state : r.state = d.state
  attemptCount : r.attemptCount = d.attemptCount
  lease : r.leasedUntil = d.leaseUntil

/-- **The simulation relation**: the same references, with payloads that open to the same trace, and
deliveries that say the same. -/
structure Related (b : MemoryBuffer.Buffer) (t : PostgresBuffer.Tables) : Prop where
  sound : PostgresBuffer.Sound t
  missing : ∀ ref, b.lookup ref = none →
    t.payloads.lookup ref = none ∧ ∀ sink, t.row (ref, sink) = none
  storable : ∀ ref record, b.lookup ref = some record → Storable ref
  payload : ∀ ref record, b.lookup ref = some record → ∃ row trace,
    t.payloads.lookup ref = some row ∧ row.payload.payloadDigest = record.payload.payloadDigest ∧
      cfg.cipher.open ref record.payload = .ok trace ∧ cfg.cipher.open ref row.payload = .ok trace
  delivery : ∀ ref record, b.lookup ref = some record → ∀ sink, ∃ r, t.row (ref, sink) = some r ∧
    Tracks (record.deliveries sink) r

variable {cfg} {b : MemoryBuffer.Buffer} {t : PostgresBuffer.Tables} {d : Draw}

theorem related_empty : Related cfg ∅ {} where
  sound := PostgresBuffer.sound_empty
  missing _ _ := ⟨rfl, fun _ => rfl⟩
  storable _ _ h := by cases h
  payload _ _ h := by cases h
  delivery _ _ h := by cases h

theorem storable_of_isHex {n : ℕ} {s : String} (h : PostgresBuffer.IsHex n s) : Storable s := by
  intro hmem
  exact absurd ((List.all_eq_true.1 h.2) _ hmem) (by decide)

section Related

variable (h : Related cfg b t)

include h

theorem Related.lookup_isSome (ref : String) :
    (t.payloads.lookup ref).isSome = (b.lookup ref).isSome := by
  cases hrecord : b.lookup ref with
  | none =>
    rw [(h.missing ref hrecord).1]
    rfl
  | some record =>
    obtain ⟨row, -, hrow, -⟩ := h.payload ref record hrecord
    rw [hrow]
    rfl

theorem Related.row_isSome (ref : String) (sink : DeliverySink) :
    (t.row (ref, sink)).isSome = (b.lookup ref).isSome := by
  cases hrecord : b.lookup ref with
  | none =>
    rw [(h.missing ref hrecord).2 sink]
    rfl
  | some record =>
    obtain ⟨r, hr, -⟩ := h.delivery ref record hrecord sink
    rw [hr]
    rfl

theorem Related.exists_record {ref : String} {sink : DeliverySink} {r : PostgresBuffer.DeliveryRow}
    (hr : t.row (ref, sink) = some r) :
    ∃ record, b.lookup ref = some record ∧ Tracks (record.deliveries sink) r := by
  have hsome := h.row_isSome ref sink
  rw [hr] at hsome
  obtain ⟨record, hrecord⟩ := Option.isSome_iff_exists.1 hsome.symm
  obtain ⟨r', hr', htracks⟩ := h.delivery ref record hrecord sink
  rw [hr] at hr'
  cases hr'
  exact ⟨record, hrecord, htracks⟩

end Related

/-! ### The counts -/

theorem countP_entries (b : MemoryBuffer.Buffer) (p : MemoryBuffer.MemoryRecord → Bool) :
    (b.entries.countP fun e => p e.2) = b.keys.countP fun ref => (b.lookup ref).any p := by
  have hkeys : b.keys = b.entries.map Sigma.fst := rfl
  rw [hkeys, List.countP_map]
  refine List.countP_congr fun e he => ?_
  rw [Function.comp_apply, show b.lookup e.1 = some e.2 from AList.mem_lookup_iff.2 he]
  rfl

theorem mem_keys_iff (b : MemoryBuffer.Buffer) (ref : String) :
    ref ∈ b.keys ↔ (b.lookup ref).isSome = true := by
  rw [AList.lookup_isSome, AList.mem_keys]

theorem Related.keys (h : Related cfg b t) : t.payloads.keys.Perm b.keys := by
  refine (List.perm_ext_iff_of_nodup t.payloads.keys_nodup b.keys_nodup).2 fun ref => ?_
  rw [mem_keys_iff, ← h.lookup_isSome, AList.lookup_isSome, AList.mem_keys]

theorem Related.pending (h : Related cfg b t) :
    PostgresBuffer.pending t = MemoryBuffer.pending b := by
  rw [PostgresBuffer.pending, MemoryBuffer.pending, countP_entries, h.keys.countP_eq]
  refine List.countP_congr fun ref href => ?_
  obtain ⟨record, hrecord⟩ := Option.isSome_iff_exists.1 ((mem_keys_iff b ref).1 href)
  rw [hrecord, Option.any_some, MemoryBuffer.unsettled_iff, List.any_eq_true]
  constructor
  · rintro ⟨⟨⟨ref', sink⟩, r⟩, he, hstate⟩
    rw [decide_eq_true_eq] at hstate
    obtain ⟨rfl, hstate⟩ := hstate
    obtain ⟨record', hrecord', htracks⟩ := h.exists_record (AList.mem_lookup_iff.2 he)
    rw [hrecord] at hrecord'
    cases hrecord'
    exact ⟨sink, DeliverySink.mem_all sink, htracks.state ▸ hstate⟩
  · rintro ⟨sink, -, hstate⟩
    obtain ⟨r, hr, htracks⟩ := h.delivery ref record hrecord sink
    refine ⟨⟨(ref, sink), r⟩, AList.mem_lookup_iff.1 hr, ?_⟩
    rw [decide_eq_true_eq]
    exact ⟨rfl, htracks.state ▸ hstate⟩

/-- The references with a row for a sink. -/
def refs (t : PostgresBuffer.Tables) (sink : DeliverySink) : List String :=
  (t.deliveries.entries.filter fun e => e.1.2 = sink).map fun e => e.1.1

theorem nodup_refs (t : PostgresBuffer.Tables) (sink : DeliverySink)
    (p : (Sigma fun _ : Key => PostgresBuffer.DeliveryRow) → Bool)
    (hp : ∀ e, p e = true → e.1.2 = sink) :
    ((t.deliveries.entries.filter p).map fun e => e.1.1).Nodup := by
  have hkeys : t.deliveries.entries.Nodup := t.deliveries.nodupKeys.nodup
  refine (hkeys.filter _).map_on fun x hx y hy hxy => ?_
  obtain ⟨⟨ref, s⟩, r⟩ := x
  obtain ⟨⟨ref', s'⟩, r'⟩ := y
  obtain ⟨hx₁, hs⟩ := List.mem_filter.1 hx
  obtain ⟨hy₁, hs'⟩ := List.mem_filter.1 hy
  cases hp _ hs
  cases hp _ hs'
  cases hxy
  have hrow : t.deliveries.lookup (ref, s) = some r := AList.mem_lookup_iff.2 hx₁
  have hrow' : t.deliveries.lookup (ref, s) = some r' := AList.mem_lookup_iff.2 hy₁
  rw [hrow] at hrow'
  cases hrow'
  rfl

theorem Related.refs (h : Related cfg b t) (sink : DeliverySink) : (refs t sink).Perm b.keys := by
  refine (List.perm_ext_iff_of_nodup (nodup_refs t sink _ fun e he => of_decide_eq_true he)
    b.keys_nodup).2 fun ref => ?_
  rw [mem_keys_iff, ← h.row_isSome ref sink, List.mem_map, Option.isSome_iff_exists]
  constructor
  · rintro ⟨⟨⟨ref, s⟩, r⟩, he, rfl⟩
    obtain ⟨hmem, hs⟩ := List.mem_filter.1 he
    rw [decide_eq_true_eq] at hs
    cases hs
    exact ⟨r, AList.mem_lookup_iff.2 hmem⟩
  · rintro ⟨r, hr⟩
    exact ⟨⟨(ref, sink), r⟩, List.mem_filter.2 ⟨AList.mem_lookup_iff.1 hr, by simp⟩, rfl⟩

/-- **Both buffers report the same counts.** -/
theorem Related.status (h : Related cfg b t) : statusPostgres t = MemoryBuffer.status b := by
  have hsinks : ∀ sink, (statusPostgres t).sinks sink = (MemoryBuffer.status b).sinks sink := by
    intro sink
    have hrefs : (statusPostgres t).sinks sink = (BufferAgreement.refs t sink).countP
        fun ref => (t.row (ref, sink)).any fun r => r.state ≠ .acked := by
      rw [BufferAgreement.refs, List.countP_map, List.countP_filter, statusPostgres]
      refine List.countP_congr fun e he => ?_
      obtain ⟨⟨ref, s⟩, r⟩ := e
      have hrow : t.row (ref, s) = some r := AList.mem_lookup_iff.2 he
      by_cases hs : s = sink
      · subst hs
        simp [hrow]
      · simp [hs]
    rw [hrefs, (h.refs sink).countP_eq, (MemoryBuffer.status_spec b).1 sink,
      countP_entries b fun record => (record.deliveries sink).state ≠ .acked]
    refine List.countP_congr fun ref href => ?_
    obtain ⟨record, hrecord⟩ := Option.isSome_iff_exists.1 ((mem_keys_iff b ref).1 href)
    obtain ⟨r, hr, htracks⟩ := h.delivery ref record hrecord sink
    rw [hr, hrecord, Option.any_some, Option.any_some, htracks.state]
  have htraces : (statusPostgres t).traces = (MemoryBuffer.status b).traces := h.pending
  cases hmemory : MemoryBuffer.status b
  cases hpostgres : statusPostgres t
  rw [hmemory, hpostgres] at hsinks htraces
  rw [MemoryBuffer.Status.mk.injEq]
  exact ⟨funext hsinks, htraces⟩

/-! ### Claims -/

/-- What a claim hands out for a reference. -/
def Claims (cfg : Config) (b : MemoryBuffer.Buffer) (sink : DeliverySink) (ref : String)
    (p : SanitizedTrace × ℕ) : Prop :=
  ∃ record trace, b.lookup ref = some record ∧ cfg.cipher.open ref record.payload = .ok trace ∧
    p = (trace, (record.deliveries sink).attemptCount)

variable {sink : DeliverySink} {refs : List String}

theorem ref_of_claims {ref : String} {p : SanitizedTrace × ℕ} (h : Claims cfg b sink ref p) :
    p.1.traceRef = ref := by
  obtain ⟨record, trace, -, hopen, rfl⟩ := h
  exact traceRef_of_open hopen

theorem mem_report_iff {free : List String} {ds : List Delivery}
    (h : List.Forall₂ (MemoryBuffer.Hands cfg.memory b sink) free ds) (p : SanitizedTrace × ℕ) :
    p ∈ ds.map report ↔ ∃ ref ∈ free, Claims cfg b sink ref p := by
  induction h with
  | nil => simp
  | @cons ref delivery free ds hd _ ih =>
    obtain ⟨record, hrecord, hopen, -, hattempts⟩ := hd
    have hhead : p = report delivery ↔ Claims cfg b sink ref p := by
      constructor
      · rintro rfl
        exact ⟨record, delivery.trace, hrecord, hopen, by rw [report, hattempts]⟩
      · rintro ⟨record', trace, hrecord', hopen', rfl⟩
        rw [hrecord] at hrecord'
        cases hrecord'
        cases hopen.symm.trans hopen'
        rw [report, hattempts]
    rw [List.map_cons, List.mem_cons, ih, hhead]
    simp

theorem length_free (b : MemoryBuffer.Buffer) (sink : DeliverySink) (now : ℤ) :
    (MemoryBuffer.free sink now (MemoryBuffer.sortedEntries b)).length = claimable b sink now := by
  rw [MemoryBuffer.free, List.length_map, ← List.countP_eq_length_filter,
    (MemoryBuffer.perm_sortedEntries b).countP_eq]
  rfl

/-- Opening rows that are there and whose payloads open. -/
theorem exists_openAll {c : PostgresBuffer.Config} {t : PostgresBuffer.Tables}
    (h : ∀ ref ∈ refs, ∃ row r trace, t.payloads.lookup ref = some row ∧
      t.row (ref, sink) = some r ∧ c.cipher.open ref row.payload = .ok trace) :
    ∃ ds, PostgresBuffer.openAll c t sink refs = .ok ds ∧ ∀ p, p ∈ ds.map report ↔
      ∃ ref ∈ refs, ∃ row r trace, t.payloads.lookup ref = some row ∧ t.row (ref, sink) = some r ∧
        c.cipher.open ref row.payload = .ok trace ∧ p = (trace, r.attemptCount) := by
  induction refs with
  | nil => exact ⟨[], rfl, by simp⟩
  | cons ref refs ih =>
    obtain ⟨ds, hds, hmem⟩ := ih fun r hr => h r (List.mem_cons_of_mem _ hr)
    obtain ⟨row, r, trace, hrow, hr, hopen⟩ := h ref List.mem_cons_self
    refine ⟨⟨trace, sink, r.attemptCount⟩ :: ds, ?_, fun p => ?_⟩
    · rw [PostgresBuffer.Tables.row] at hr
      rw [PostgresBuffer.openAll, hrow, hr]
      simp only [hopen, hds]
      rfl
    · have hhead : p = (trace, r.attemptCount) ↔ ∃ row r trace, t.payloads.lookup ref = some row ∧
          t.row (ref, sink) = some r ∧ c.cipher.open ref row.payload = .ok trace ∧
            p = (trace, r.attemptCount) := by
        constructor
        · rintro rfl
          exact ⟨row, r, trace, hrow, hr, hopen, rfl⟩
        · rintro ⟨row', r', trace', hrow', hr', hopen', rfl⟩
          rw [hrow] at hrow'
          cases hrow'
          rw [hr] at hr'
          cases hr'
          cases hopen.symm.trans hopen'
          rfl
      rw [List.map_cons, List.mem_cons, hmem, report, hhead]
      simp

/-- The loop of a claim runs, unless the lease of the first delivery claimed has no end. -/
theorem performMemory_claim (cfg : Config) (d : Draw) (b : MemoryBuffer.Buffer)
    (sink : DeliverySink) (limit leaseSeconds : ℤ) :
    (∃ b' ref record, performMemory cfg d b (.claim sink limit leaseSeconds) =
        (.raised .overflowError, b') ∧ b.lookup ref = some record ∧
        ¬(record.deliveries sink).Busy d.now ∧ ¬IsDatetime (d.now + seconds leaseSeconds)) ∨
      performMemory cfg d b (.claim sink limit leaseSeconds) =
          (outcome (fun ds => .deliveries (ds.map report))
            (MemoryBuffer.claim cfg.memory b sink limit leaseSeconds d.now).1,
          (MemoryBuffer.claim cfg.memory b sink limit leaseSeconds d.now).2) ∧
        ∀ ref record, b.lookup ref = some record → ¬(record.deliveries sink).Busy d.now →
          IsDatetime (d.now + seconds leaseSeconds) := by
  have hentry : ∀ ref record, b.lookup ref = some record ↔
      ⟨ref, record⟩ ∈ MemoryBuffer.sortedEntries b := fun ref record => by
    rw [(MemoryBuffer.perm_sortedEntries b).mem_iff]
    exact AList.mem_lookup_iff
  by_cases hdatetime : IsDatetime (d.now + seconds leaseSeconds)
  · refine Or.inr ⟨?_, fun _ _ _ _ => hdatetime⟩
    rw [performMemory, decide_eq_true hdatetime]
    cases firstFree b sink d.now <;> rfl
  cases hfirst : firstFree b sink d.now with
  | none =>
    refine Or.inr ⟨?_, fun ref record hrecord hfree => ?_⟩
    · rw [performMemory, hfirst]
    · have hbusy := List.find?_eq_none.1 hfirst _ ((hentry ref record).1 hrecord)
      exact absurd (decide_eq_true hfree) hbusy
  | some e =>
    obtain ⟨ref, record⟩ := e
    have hfree := List.find?_some hfirst
    have hperform : performMemory cfg d b (.claim sink limit leaseSeconds) =
        (.raised .overflowError, MemoryBuffer.put b ref record sink
          { record.deliveries sink with state := .leased }) := by
      rw [performMemory, hfirst, decide_eq_false hdatetime]
    exact Or.inl ⟨_, ref, record, hperform,
      (hentry ref record).2 (List.mem_of_find?_eq_some hfirst), of_decide_eq_true hfree, hdatetime⟩

theorem isInterval_of_isDatetime {now n : ℤ} (hnow : IsDatetime now)
    (h : IsDatetime (now + seconds n)) : IsInterval n := by
  obtain ⟨hlow, hhigh⟩ := hnow
  obtain ⟨hlow', hhigh'⟩ := h
  simp only [seconds] at hlow' hhigh'
  rw [IsInterval]
  omega

theorem encodable_of_isInterval {n : ℤ} (h : IsInterval n) : Encodable n := by
  have hsmall : n.natAbs < 2 ^ 54 - 1 := lt_of_le_of_lt h (by decide)
  have hscaled : ∀ k, n.natAbs < 2 ^ k * (2 ^ 54 - 1) := fun k =>
    lt_of_lt_of_le hsmall (Nat.le_mul_of_pos_left _ (Nat.two_pow_pos k))
  exact hscaled 970

theorem isTimestamp_of_isDatetime {instant : ℤ} (h : IsDatetime instant) : IsTimestamp instant :=
  ⟨le_trans (by decide) h.1, lt_trans h.2 (by decide)⟩

theorem limitError_eq_dataError {limit : ℤ} (hlimit : 0 ≤ limit) :
    PostgresBuffer.limitError limit = some .dataError ↔ ¬limit < 9223372036854775808 := by
  unfold PostgresBuffer.limitError
  split
  · rename_i hout
    exact iff_of_true rfl (by omega)
  · rename_i hin
    rw [if_neg (not_lt.2 hlimit)]
    exact iff_of_false (fun heq => by cases heq) (by omega)

section Claim

variable {sink : DeliverySink} {limit leaseSeconds : ℤ} (h : Related cfg b t)

include h

theorem Related.free_of_ready {ref : String} {r : PostgresBuffer.DeliveryRow} {now : ℤ}
    (hr : t.row (ref, sink) = some r) (hready : r.Ready now) :
    ∃ record, b.lookup ref = some record ∧ ¬(record.deliveries sink).Busy now := by
  obtain ⟨record, hrecord, htracks⟩ := h.exists_record hr
  refine ⟨record, hrecord, ?_⟩
  rintro (hacked | ⟨hleased, deadline, hdeadline, hlt⟩)
  · rw [← htracks.state] at hacked
    rcases hready.1 with hstate | ⟨hstate, -⟩ <;> rw [hacked] at hstate <;> cases hstate
  · rw [← htracks.state] at hleased
    rw [← htracks.lease] at hdeadline
    rcases hready.1 with hstate | ⟨-, deadline', hdeadline', hpast⟩
    · rw [hleased] at hstate
      cases hstate
    · cases Option.mem_unique hdeadline hdeadline'
      omega

/-- What the loop does not pass over, the statement may select, unless a lease ends at the instant. -/
theorem Related.ready_of_free {ref : String} {record : MemoryBuffer.MemoryRecord} {now : ℤ}
    (hrecord : b.lookup ref = some record) (hfree : ¬(record.deliveries sink).Busy now)
    (hdue : ∀ r, t.row (ref, sink) = some r → r.state ≠ .acked → r.nextAttemptAt ≤ now)
    (hedge : (record.deliveries sink).state = .leased →
      (record.deliveries sink).leaseUntil ≠ some now) :
    ∃ r, t.row (ref, sink) = some r ∧ r.Ready now := by
  obtain ⟨r, hr, htracks⟩ := h.delivery ref record hrecord sink
  have hnot : r.state ≠ .acked := fun hacked => hfree (.inl (htracks.state ▸ hacked))
  refine ⟨r, hr, ?_, hdue r hr hnot⟩
  cases hstate : r.state with
  | pending => exact .inl rfl
  | acked => exact absurd hstate hnot
  | leased =>
    obtain ⟨deadline, hdeadline⟩ := Option.isSome_iff_exists.1 (((h.sound _ r hr).1).1 hstate)
    rw [htracks.state] at hstate
    rw [htracks.lease] at hdeadline
    refine .inr ⟨rfl, deadline, htracks.lease ▸ hdeadline, ?_⟩
    have hne : deadline ≠ now := fun heq => hedge hstate (heq ▸ hdeadline)
    have hle : ¬now < deadline := fun hlt => hfree (.inr ⟨hstate, deadline, hdeadline, hlt⟩)
    omega

/-- **The claim in memory**: it hands out all that is free, or computes no end of the lease. -/
theorem Related.claim_memory (leaseSeconds : ℤ) (hcount : (claimable b sink d.now : ℤ) ≤ limit) :
    (∃ b' ref record, performMemory cfg d b (.claim sink limit leaseSeconds) =
        (.raised .overflowError, b') ∧ b.lookup ref = some record ∧
        ¬(record.deliveries sink).Busy d.now ∧ ¬IsDatetime (d.now + seconds leaseSeconds)) ∨
      ∃ ds b', performMemory cfg d b (.claim sink limit leaseSeconds) = (.deliveries ds, b') ∧
        (∀ ref record, b.lookup ref = some record → ¬(record.deliveries sink).Busy d.now →
          IsDatetime (d.now + seconds leaseSeconds)) ∧
        (∀ ref, b'.lookup ref =
          if ref ∈ MemoryBuffer.free sink d.now (MemoryBuffer.sortedEntries b)
          then (b.lookup ref).map fun r => r.lease sink (d.now + seconds leaseSeconds)
          else b.lookup ref) ∧
        ∀ p, p ∈ ds ↔ ∃ ref ∈ MemoryBuffer.free sink d.now (MemoryBuffer.sortedEntries b),
          Claims cfg b sink ref p := by
  rcases performMemory_claim cfg d b sink limit leaseSeconds with hraised | ⟨hperform, hends⟩
  · exact Or.inl hraised
  have hopens : ∀ ref record, b.lookup ref = some record →
      ∃ trace, cfg.memory.cipher.open ref record.payload = .ok trace := by
    intro ref record hrecord
    obtain ⟨row, trace, -, -, hopen, -⟩ := h.payload ref record hrecord
    exact ⟨trace, hopen⟩
  rw [← length_free] at hcount
  obtain ⟨ds, b', hclaim, hhanded, hlookup⟩ :=
    @MemoryBuffer.claim_all cfg.memory sink limit d.now b leaseSeconds hopens hcount
  refine Or.inr ⟨ds.map report, b', ?_, hends, hlookup, mem_report_iff hhanded⟩
  rw [hperform, hclaim]
  rfl

/-- **The claim on the tables**: it hands out what it selects, which is all that is ready, or refuses
an argument or the end of the lease. -/
theorem Related.claim_postgres (hdue : Due cfg d b t (.claim sink limit leaseSeconds)) :
    (∃ err, err ≠ .overflowError ∧
        performPostgres cfg d t (.claim sink limit leaseSeconds) = some (.raised err, t) ∧
        ¬Within cfg d b t (.claim sink limit leaseSeconds)) ∨
      ∃ ds t', performPostgres cfg d t (.claim sink limit leaseSeconds) =
          some (.deliveries ds, t') ∧
        (limit < 9223372036854775808 ∧ Encodable leaseSeconds ∧
          (d.eager → IsInterval leaseSeconds)) ∧
        (∀ ref, ref ∈ d.chosen ↔ ∃ r, t.row (ref, sink) = some r ∧ r.Ready d.now) ∧
        PostgresBuffer.Updated t t' (d.chosen.map fun ref => (ref, sink))
          (·.lease (d.now + seconds leaseSeconds)) ∧
        ∀ p, p ∈ ds ↔ ∃ ref ∈ d.chosen, Claims cfg b sink ref p := by
  obtain ⟨hcount, -, hsome⟩ := hdue
  have hpositive : 0 ≤ limit := le_trans (Int.natCast_nonneg _) hcount
  by_cases hargs : PostgresBuffer.limitError limit = some .dataError ∨ ¬Encodable leaseSeconds
  · refine Or.inl ⟨.dataError, by decide, by rw [performPostgres, if_pos hargs], ?_⟩
    rintro ⟨hlimit, hencodable, -⟩
    rcases hargs with hargs | hargs
    · exact (limitError_eq_dataError hpositive).1 hargs hlimit
    · exact hargs hencodable
  by_cases heager : d.eager ∧ ¬IsInterval leaseSeconds
  · refine Or.inl ⟨.datetimeFieldOverflow, by decide, ?_, fun hwithin =>
      heager.2 (hwithin.2.2.1 heager.1)⟩
    rw [performPostgres, if_neg hargs, if_pos heager]
  rw [performPostgres, if_neg hargs, if_neg heager] at hsome ⊢
  rw [Option.isSome_map] at hsome
  rw [not_or, limitError_eq_dataError hpositive, not_not, not_not] at hargs
  obtain ⟨⟨result, t'⟩, hclaim⟩ := Option.isSome_iff_exists.1 hsome
  obtain ⟨hselects, hupdated, hresult⟩ :=
    PostgresBuffer.claim_selects h.sound (PostgresBuffer.limitError_eq_none.2 ⟨hpositive, hargs.1⟩)
      hclaim
  have hmem : ∀ ref, ref ∈ PostgresBuffer.candidates (d.moment t) t sink ↔
      ∃ r, t.row (ref, sink) = some r ∧ r.Ready d.now := by
    intro ref
    rw [PostgresBuffer.mem_candidates]
    exact and_iff_right List.not_mem_nil
  -- the limit does not cut anything off
  have hchosen : ∀ ref, ref ∈ d.chosen ↔ ∃ r, t.row (ref, sink) = some r ∧ r.Ready d.now := by
    have hnodup : (PostgresBuffer.candidates (d.moment t) t sink).Nodup := by
      refine nodup_refs t sink _ fun e he => ?_
      rw [decide_eq_true_eq] at he
      exact he.1
    have hfree : PostgresBuffer.candidates (d.moment t) t sink ⊆
        MemoryBuffer.free sink d.now (MemoryBuffer.sortedEntries b) := by
      intro ref href
      obtain ⟨r, hr, hready⟩ := (hmem ref).1 href
      exact MemoryBuffer.mem_free.2 (h.free_of_ready hr hready)
    have hle := (List.subperm_of_subset hnodup hfree).length_le
    rw [length_free] at hle
    obtain ⟨hnodup', hsub, hlength, -⟩ := hselects
    have hall : (PostgresBuffer.candidates (d.moment t) t sink).length ≤ d.chosen.length := by
      have hlength' : d.chosen.length = min limit.toNat
        (PostgresBuffer.candidates (d.moment t) t sink).length := hlength
      omega
    have hperm := (List.subperm_of_subset hnodup' hsub).perm_of_length_le hall
    intro ref
    rw [← hmem ref]
    exact hperm.mem_iff
  by_cases hrange : (0 ≤ limit ∧ d.chosen ≠ []) ∧
      ¬(IsInterval leaseSeconds ∧ IsTimestamp (d.now + seconds leaseSeconds))
  · -- a row selected gets no end of its lease
    refine Or.inl ⟨.datetimeFieldOverflow, by decide, ?_, fun hwithin => hrange.2 ?_⟩
    · rw [hclaim, Option.map_some, if_pos hrange]
    · obtain ⟨ref, href⟩ := List.exists_mem_of_ne_nil _ hrange.1.2
      obtain ⟨r, hr, hready⟩ := (hchosen ref).1 href
      obtain ⟨record, hrecord, hfree⟩ := h.free_of_ready hr hready
      have hdatetime := (hwithin.2.2.2 ref record hrecord hfree).1
      exact ⟨isInterval_of_isDatetime d.isDatetime_now hdatetime,
        isTimestamp_of_isDatetime hdatetime⟩
  have hrow : ∀ ref ∈ d.chosen, ∃ r, t.row (ref, sink) = some r ∧ t'.row (ref, sink) =
      some (r.lease (d.now + seconds leaseSeconds)) := by
    intro ref href
    obtain ⟨r, hr, -⟩ := (hchosen ref).1 href
    refine ⟨r, hr, ?_⟩
    have hmem : (ref, sink) ∈ (d.moment t).chosen.map fun ref => (ref, sink) :=
      List.mem_map_of_mem href
    rw [hupdated.row, if_pos hmem, hr]
    rfl
  have hsorted : ∀ ref, ref ∈ d.chosen.insertionSort (· ≤ ·) ↔ ref ∈ d.chosen := fun ref =>
    (List.perm_insertionSort _ d.chosen).mem_iff
  have hopens : ∀ ref ∈ d.chosen.insertionSort (· ≤ ·), ∃ row r trace,
      t'.payloads.lookup ref = some row ∧ t'.row (ref, sink) = some r ∧
        cfg.postgres.cipher.open ref row.payload = .ok trace := by
    intro ref href
    obtain ⟨r, hr, hr'⟩ := hrow ref ((hsorted ref).1 href)
    obtain ⟨record, hrecord, -⟩ := h.exists_record hr
    obtain ⟨row, trace, hpayload, -, -, hopen⟩ := h.payload ref record hrecord
    exact ⟨row, _, trace, hupdated.payloads ▸ hpayload, hr', hopen⟩
  obtain ⟨ds, hds, hreport⟩ := exists_openAll hopens
  have hinterval : d.eager → IsInterval leaseSeconds := fun hplan =>
    not_not.1 fun hout => heager ⟨hplan, hout⟩
  refine Or.inr ⟨ds.map report, t', ?_, ⟨hargs.1, hargs.2, hinterval⟩, hchosen, hupdated,
    fun p => ?_⟩
  · have hopened : result = .ok ds := by
      rw [hresult]
      show (PostgresBuffer.openAll cfg.postgres t' sink
        (d.chosen.insertionSort (· ≤ ·))).mapError BufferError.cipher = .ok ds
      rw [hds]
      rfl
    rw [hclaim, Option.map_some, if_neg hrange, hopened]
    rfl
  · rw [hreport]
    constructor
    · rintro ⟨ref, href, row, r', trace, hpayload, hr', hopen, rfl⟩
      have href' := (hsorted ref).1 href
      obtain ⟨r, hr, hlease⟩ := hrow ref href'
      rw [hlease] at hr'
      cases hr'
      obtain ⟨record, hrecord, htracks⟩ := h.exists_record hr
      obtain ⟨row', trace', hpayload', -, hmemory, hopen'⟩ := h.payload ref record hrecord
      rw [hupdated.payloads, hpayload'] at hpayload
      cases hpayload
      cases hopen'.symm.trans hopen
      refine ⟨ref, href', record, _, hrecord, hmemory, ?_⟩
      rw [← htracks.attemptCount]
      rfl
    · rintro ⟨ref, href, record, trace, hrecord, hmemory, rfl⟩
      obtain ⟨r, hr, hlease⟩ := hrow ref href
      obtain ⟨record', hrecord', htracks⟩ := h.exists_record hr
      rw [hrecord] at hrecord'
      cases hrecord'
      obtain ⟨row, trace', hpayload, -, hmemory', hopen⟩ := h.payload ref record hrecord
      cases hmemory'.symm.trans hmemory
      refine ⟨ref, (hsorted ref).2 href, row, _, _, hupdated.payloads ▸ hpayload, hlease, hopen, ?_⟩
      rw [← htracks.attemptCount]
      rfl

end Claim

/-! ### One step -/

/-- A call keeps the buffers together exactly under the condition. -/
structure Simulates (cfg : Config) (d : Draw) (b : MemoryBuffer.Buffer) (t : PostgresBuffer.Tables)
    (c : Call) : Prop where
  agrees : Agrees cfg d b t c ↔ Within cfg d b t c
  next : Within cfg d b t c → ∀ o t', performPostgres cfg d t c = some (o, t') →
    Related cfg (performMemory cfg d b c).2 t'

variable {t' : PostgresBuffer.Tables} {b' : MemoryBuffer.Buffer} {c : Call}
  {g : MemoryBuffer.MemoryDelivery → MemoryBuffer.MemoryDelivery}
  {f : PostgresBuffer.DeliveryRow → PostgresBuffer.DeliveryRow} {record : MemoryBuffer.MemoryRecord}

theorem simulates_of_eq {o o' : Outcome} (hmemory : performMemory cfg d b c = (o, b'))
    (hpostgres : performPostgres cfg d t c = some (o', t')) (hsame : o.Same o' ↔ Within cfg d b t c)
    (hnext : Within cfg d b t c → Related cfg b' t') : Simulates cfg d b t c where
  agrees := by
    rw [← hsame, Agrees, hmemory, hpostgres]
    refine ⟨fun h => h o' t' rfl, fun h o₁ t₁ heq => ?_⟩
    cases heq
    exact h
  next hwithin o₁ t₁ heq := by
    rw [hpostgres] at heq
    cases heq
    rw [hmemory]
    exact hnext hwithin

theorem simulates_of_differ {o o' : Outcome} (hmemory : performMemory cfg d b c = (o, b'))
    (hpostgres : performPostgres cfg d t c = some (o', t')) (hdiffer : ¬ o.Same o')
    (hnot : ¬ Within cfg d b t c) : Simulates cfg d b t c :=
  simulates_of_eq hmemory hpostgres (iff_of_false hdiffer hnot) fun hwithin => absurd hwithin hnot

theorem Related.updated (h : Related cfg b t) (hlookup : ∀ ref, b'.lookup ref = if ref ∈ refs then
      (b.lookup ref).map fun r => r.set sink (g (r.deliveries sink)) else b.lookup ref)
    (hup : PostgresBuffer.Updated t t' (refs.map fun ref => (ref, sink)) f)
    (hfg : ∀ m r, Tracks m r → Tracks (g m) (f r)) : Related cfg b' t' := by
  have hmem : ∀ ref s, (ref, s) ∈ (refs.map fun ref => (ref, sink)) ↔ ref ∈ refs ∧ s = sink := by
    intro ref s
    rw [List.mem_map]
    constructor
    · rintro ⟨ref', href, heq⟩
      cases heq
      exact ⟨href, rfl⟩
    · rintro ⟨href, rfl⟩
      exact ⟨ref, href, rfl⟩
  -- every record of the new buffer comes from one of the old buffer
  have hold : ∀ ref record', b'.lookup ref = some record' → ∃ record, b.lookup ref = some record ∧
      record' = if ref ∈ refs then record.set sink (g (record.deliveries sink)) else record := by
    intro ref record' hrecord'
    rw [hlookup ref] at hrecord'
    split at hrecord'
    · rename_i href
      obtain ⟨record, hrecord, rfl⟩ := Option.map_eq_some_iff.1 hrecord'
      exact ⟨record, hrecord, by rw [if_pos href]⟩
    · rename_i href
      exact ⟨record', hrecord', by rw [if_neg href]⟩
  refine ⟨hup.sound h.sound, fun ref hnone => ?_, fun ref record' hrecord' => ?_,
    fun ref record' hrecord' => ?_, fun ref record' hrecord' s => ?_⟩
  · have hnone' : b.lookup ref = none := by
      rw [hlookup ref] at hnone
      split at hnone
      · exact Option.map_eq_none_iff.1 hnone
      · exact hnone
    obtain ⟨hpayload, hrows⟩ := h.missing ref hnone'
    refine ⟨hup.payloads ▸ hpayload, fun s => ?_⟩
    rw [hup.row, hrows s]
    exact ite_self _
  · obtain ⟨record, hrecord, -⟩ := hold ref record' hrecord'
    exact h.storable ref record hrecord
  · obtain ⟨record, hrecord, rfl⟩ := hold ref record' hrecord'
    have hpayload : (if ref ∈ refs then record.set sink (g (record.deliveries sink))
        else record).payload = record.payload := by
      split <;> rfl
    rw [hpayload, hup.payloads]
    exact h.payload ref record hrecord
  · obtain ⟨record, hrecord, rfl⟩ := hold ref record' hrecord'
    obtain ⟨r, hr, htracks⟩ := h.delivery ref record hrecord s
    rw [hup.row, hr]
    by_cases href : ref ∈ refs
    · rw [if_pos href]
      by_cases hs : s = sink
      · subst hs
        rw [if_pos ((hmem ref s).2 ⟨href, rfl⟩), MemoryBuffer.MemoryRecord.set_deliveries,
          Function.update_self]
        exact ⟨f r, rfl, hfg _ _ htracks⟩
      · rw [if_neg fun hin => hs ((hmem ref s).1 hin).2, MemoryBuffer.MemoryRecord.set_deliveries,
          Function.update_of_ne hs]
        exact ⟨r, rfl, htracks⟩
    · rw [if_neg href, if_neg fun hin => href ((hmem ref s).1 hin).1]
      exact ⟨r, rfl, htracks⟩

theorem Related.put (h : Related cfg b t) {ref : String} (hrecord : b.lookup ref = some record)
    (hup : PostgresBuffer.Updated t t' [(ref, sink)] f)
    (hfg : ∀ m r, Tracks m r → Tracks (g m) (f r)) :
    Related cfg (MemoryBuffer.put b ref record sink (g (record.deliveries sink))) t' := by
  have hlookup : ∀ ref', (MemoryBuffer.put b ref record sink (g (record.deliveries sink))).lookup
      ref' = if ref' ∈ [ref] then (b.lookup ref').map fun r => r.set sink (g (r.deliveries sink))
        else b.lookup ref' := by
    intro ref'
    rw [MemoryBuffer.lookup_put]
    by_cases href : ref' = ref
    · subst href
      rw [if_pos rfl, if_pos List.mem_cons_self, hrecord]
      rfl
    · rw [if_neg href, if_neg fun hin => href (List.mem_singleton.1 hin)]
  exact h.updated hlookup hup hfg

theorem Related.simulates_claim (h : Related cfg b t) {limit leaseSeconds : ℤ}
    (hdue : Due cfg d b t (.claim sink limit leaseSeconds)) :
    Simulates cfg d b t (.claim sink limit leaseSeconds) := by
  rcases h.claim_memory leaseSeconds hdue.1 with
    ⟨b', ref, record, hmemory, hrecord, hfree, hends⟩ | ⟨ds, b', hmemory, hends, hlookup, hds⟩
  · -- memory finds no end of the lease, and PostgreSQL raises no such exception
    have hnot : ¬Within cfg d b t (.claim sink limit leaseSeconds) := fun hwithin =>
      hends (hwithin.2.2.2 ref record hrecord hfree).1
    rcases h.claim_postgres hdue with ⟨err, herr, hpostgres, -⟩ | ⟨es, t', hpostgres, -⟩
    · exact simulates_of_differ hmemory hpostgres (fun heq => by cases heq; exact herr rfl) hnot
    · exact simulates_of_differ hmemory hpostgres (fun heq => by cases heq) hnot
  rcases h.claim_postgres hdue with
    ⟨err, -, hpostgres, hnot⟩ | ⟨es, t', hpostgres, hargs, hchosen, hup, hes⟩
  · exact simulates_of_differ hmemory hpostgres (fun heq => by cases heq) hnot
  have hready : ∀ ref, ref ∈ d.chosen →
      ref ∈ MemoryBuffer.free sink d.now (MemoryBuffer.sortedEntries b) := by
    intro ref href
    obtain ⟨r, hr, hready⟩ := (hchosen ref).1 href
    exact MemoryBuffer.mem_free.2 (h.free_of_ready hr hready)
  have hsame : Within cfg d b t (.claim sink limit leaseSeconds) →
      ∀ ref, ref ∈ MemoryBuffer.free sink d.now (MemoryBuffer.sortedEntries b) ↔
        ref ∈ d.chosen := by
    refine fun hwithin ref => ⟨fun href => ?_, hready ref⟩
    obtain ⟨record, hrecord, hfree⟩ := MemoryBuffer.mem_free.1 href
    obtain ⟨-, hedge, hfirst⟩ := hwithin.2.2.2 ref record hrecord hfree
    refine (hchosen ref).2 (h.ready_of_free hrecord hfree (fun r hr hopen => ?_) hedge)
    obtain ⟨r', hr', htracks⟩ := h.delivery ref record hrecord sink
    rw [hr] at hr'
    cases hr'
    rcases Nat.eq_zero_or_pos r.attemptCount with hzero | hpos
    · exact hfirst (htracks.attemptCount ▸ hzero) r hr
    · exact hdue.2.1 ref r hr hopen hpos
  refine simulates_of_eq hmemory hpostgres ⟨fun hall => ?_, fun hwithin p => ?_⟩ fun hwithin => ?_
  · -- what memory hands out, PostgreSQL has selected
    refine ⟨hargs.1, hargs.2.1, hargs.2.2, fun ref record hrecord hfree => ?_⟩
    obtain ⟨-, trace, -, -, hopen, -⟩ := h.payload ref record hrecord
    have hclaims : Claims cfg b sink ref (trace, (record.deliveries sink).attemptCount) :=
      ⟨record, trace, hrecord, hopen, rfl⟩
    obtain ⟨ref', href', hclaims'⟩ := (hes _).1 ((hall _).1 ((hds _).2
      ⟨ref, MemoryBuffer.mem_free.2 ⟨record, hrecord, hfree⟩, hclaims⟩))
    cases (ref_of_claims hclaims').symm.trans (ref_of_claims hclaims)
    obtain ⟨r, hr, hready⟩ := (hchosen _).1 href'
    obtain ⟨record', hrecord', htracks⟩ := h.exists_record hr
    rw [hrecord] at hrecord'
    cases hrecord'
    refine ⟨hends ref record hrecord hfree, fun hleased hnow => ?_, fun _ r' hr' => ?_⟩
    · rcases hready.1 with hstate | ⟨-, deadline, hdeadline, hlt⟩
      · rw [htracks.state, hleased] at hstate
        cases hstate
      · rw [htracks.lease] at hdeadline
        cases Option.mem_unique hdeadline hnow
        exact absurd hlt (lt_irrefl _)
    · rw [hr] at hr'
      cases hr'
      exact hready.2
  · rw [hds, hes]
    exact exists_congr fun ref => and_congr_left fun _ => hsame hwithin ref
  · refine h.updated (g := fun m => m.lease (d.now + seconds leaseSeconds)) (fun ref => ?_) hup
      fun m r htracks => ⟨rfl, htracks.attemptCount, rfl⟩
    rw [hlookup ref]
    exact if_congr (hsame hwithin ref) rfl rfl

theorem Related.simulates_acknowledge (h : Related cfg b t) (ref : String) (sink : DeliverySink) :
    Simulates cfg d b t (.acknowledge ref sink) := by
  have hunknown : b.lookup ref = none → performMemory cfg d b (.acknowledge ref sink) =
      (.raised .keyError, b) := by
    intro hnone
    rw [performMemory, MemoryBuffer.acknowledge, hnone]
    rfl
  by_cases href : Storable ref
  · have hpostgres : performPostgres cfg d t (.acknowledge ref sink) =
        some (outcome (fun _ => .done) (PostgresBuffer.acknowledge (d.moment t) t ref sink).1,
          (PostgresBuffer.acknowledge (d.moment t) t ref sink).2) := by
      rw [performPostgres, if_neg (not_not.2 href)]
    rcases PostgresBuffer.acknowledge_cases (d.moment t) t ref sink with
      ⟨hnone, heq⟩ | ⟨r, t', hr, heq, hup⟩
    · rw [heq] at hpostgres
      have hlookup : b.lookup ref = none := by
        rw [← Option.isNone_iff_eq_none, ← Option.not_isSome, ← h.row_isSome ref sink, hnone]
        rfl
      exact simulates_of_eq (hunknown hlookup) hpostgres (iff_of_true rfl href) fun _ => h
    · rw [heq] at hpostgres
      obtain ⟨record, hrecord, -⟩ := h.exists_record hr
      have hmemory : performMemory cfg d b (.acknowledge ref sink) =
          (.done, MemoryBuffer.put b ref record sink { record.deliveries sink with
            state := .acked, leaseUntil := none, lastErrorCode := none }) := by
        rw [performMemory, MemoryBuffer.acknowledge, hrecord]
        rfl
      refine simulates_of_eq hmemory hpostgres (iff_of_true rfl href) fun _ => ?_
      exact h.put (g := fun m => { m with state := .acked, leaseUntil := none, lastErrorCode := none })
        hrecord hup fun m r htracks => ⟨rfl, htracks.attemptCount, rfl⟩
  · have hlookup : b.lookup ref = none := by
      cases hrecord : b.lookup ref with
      | none => rfl
      | some record => exact absurd (h.storable ref record hrecord) href
    have hpostgres : performPostgres cfg d t (.acknowledge ref sink) =
        some (.raised .characterNotInRepertoire, t) := by
      rw [performPostgres, if_pos href]
    exact simulates_of_differ (hunknown hlookup) hpostgres (fun h => by cases h) href

theorem Related.simulates_retry (h : Related cfg b t) (ref : String) (sink : DeliverySink)
    (errorCode : String) : Simulates cfg d b t (.retry ref sink errorCode) := by
  by_cases hcode : ValidCode errorCode
  swap
  · -- both refuse the code
    have hmemory : performMemory cfg d b (.retry ref sink errorCode) = (.raised .valueError, b) := by
      rw [performMemory, MemoryBuffer.retry, if_pos hcode]
      rfl
    have hpostgres : performPostgres cfg d t (.retry ref sink errorCode) =
        some (.raised .valueError, t) := by
      rw [performPostgres, if_neg fun hand => hcode hand.1, PostgresBuffer.retry, if_pos hcode]
      rfl
    exact simulates_of_eq hmemory hpostgres (iff_of_true rfl fun hvalid => absurd hvalid hcode)
      fun _ => h
  cases hrecord : b.lookup ref with
  | none =>
    -- memory does not know the reference; PostgreSQL says nothing, or refuses a text
    have hmemory : performMemory cfg d b (.retry ref sink errorCode) = (.raised .keyError, b) := by
      rw [performMemory, MemoryBuffer.retry, if_neg (not_not.2 hcode), hrecord]
      rfl
    have hnot : ¬Within cfg d b t (.retry ref sink errorCode) := by
      intro hwithin
      obtain ⟨record, hsome, -⟩ := hwithin hcode
      rw [hrecord] at hsome
      cases hsome
    by_cases htexts : Storable ref ∧ Storable errorCode
    · have hrow : t.deliveries.lookup (ref, sink) = none := (h.missing ref hrecord).2 sink
      have hpostgres : performPostgres cfg d t (.retry ref sink errorCode) = some (.done, t) := by
        rw [performPostgres, if_neg fun hand => hand.2 htexts, PostgresBuffer.retry,
          if_neg (not_not.2 hcode), hrow]
        rfl
      exact simulates_of_differ hmemory hpostgres (fun h => by cases h) hnot
    · have hpostgres : performPostgres cfg d t (.retry ref sink errorCode) =
          some (.raised .characterNotInRepertoire, t) := by
        rw [performPostgres, if_pos ⟨hcode, htexts⟩]
      exact simulates_of_differ hmemory hpostgres (fun h => by cases h) hnot
  | some record =>
    have href : Storable ref := h.storable ref record hrecord
    obtain ⟨r, hr, htracks⟩ := h.delivery ref record hrecord sink
    have hmemory : performMemory cfg d b (.retry ref sink errorCode) =
        (.done, MemoryBuffer.put b ref record sink
          ⟨.pending, (record.deliveries sink).attemptCount + 1, none, some errorCode⟩) := by
      rw [performMemory, MemoryBuffer.retry, if_neg (not_not.2 hcode), hrecord]
      rfl
    have hwithin : Within cfg d b t (.retry ref sink errorCode) ↔ r.state ≠ .acked ∧
        r.attemptCount < 2147483647 ∧ Storable errorCode := by
      rw [htracks.state, htracks.attemptCount]
      constructor
      · intro hwithin
        obtain ⟨record', hrecord', hcond⟩ := hwithin hcode
        rw [hrecord] at hrecord'
        cases hrecord'
        exact hcond
      · exact fun hcond _ => ⟨record, hrecord, hcond⟩
    by_cases hstorable : Storable errorCode
    swap
    · have hpostgres : performPostgres cfg d t (.retry ref sink errorCode) =
          some (.raised .characterNotInRepertoire, t) := by
        rw [performPostgres, if_pos ⟨hcode, fun hand => hstorable hand.2⟩]
      have hnot : ¬Within cfg d b t (.retry ref sink errorCode) := fun hin =>
        hstorable (hwithin.1 hin).2.2
      exact simulates_of_differ hmemory hpostgres (fun h => by cases h) hnot
    have hpostgres : performPostgres cfg d t (.retry ref sink errorCode) =
        some (outcome (fun _ => .done) (PostgresBuffer.retry (d.moment t) t ref sink errorCode).1,
          (PostgresBuffer.retry (d.moment t) t ref sink errorCode).2) := by
      rw [performPostgres, if_neg fun hand => hand.2 ⟨href, hstorable⟩]
    rcases PostgresBuffer.retry_cases (d.moment t) t ref sink errorCode h.sound with
      ⟨hbad, -⟩ | ⟨-, hnone, -⟩ | ⟨r', hr', hmax, heq⟩ | ⟨-, r', hr', hmax, hcases⟩
    · exact absurd hcode hbad
    · rw [hr] at hnone
      cases hnone
    · rw [hr] at hr'
      cases hr'
      rw [heq] at hpostgres
      have hnot : ¬Within cfg d b t (.retry ref sink errorCode) := fun hin =>
        absurd (hwithin.1 hin).2.1 (not_lt.2 hmax)
      exact simulates_of_differ hmemory hpostgres (fun h => by cases h) hnot
    · rw [hr] at hr'
      cases hr'
      rcases hcases with ⟨hacked, heq⟩ | ⟨hopen, t', heq, hup⟩
      · rw [heq] at hpostgres
        have hnot : ¬Within cfg d b t (.retry ref sink errorCode) := fun hin =>
          (hwithin.1 hin).1 hacked
        exact simulates_of_differ hmemory hpostgres (fun h => by cases h) hnot
      · rw [heq] at hpostgres
        refine simulates_of_eq hmemory hpostgres
          (iff_of_true rfl (hwithin.2 ⟨hopen, hmax, hstorable⟩)) fun _ => ?_
        exact h.put (g := fun m => ⟨.pending, m.attemptCount + 1, none, some errorCode⟩) hrecord
          hup fun m r htracks => ⟨rfl, congrArg (· + 1) htracks.attemptCount, rfl⟩

theorem Related.simulates_status (h : Related cfg b t) : Simulates cfg d b t .status :=
  simulates_of_eq rfl rfl (iff_of_true (congrArg Outcome.status h.status.symm) trivial) fun _ => h

variable {trace : SanitizedTrace} {payload' payload : EncryptedPayload}

theorem Related.insert (h : Related cfg b t) {nonce nonce' : List UInt8}
    (hseal : cfg.cipher.seal trace nonce = .ok payload)
    (hseal' : cfg.cipher.seal trace nonce' = .ok payload') (href : Storable trace.traceRef)
    {now : ℤ}
    (hpayloads : t'.payloads = t.payloads.insert trace.traceRef ⟨payload', trace.candidateSha⟩)
    (hrows : ∀ key, t'.row key = if key.1 = trace.traceRef then
      some { state := .pending, nextAttemptAt := now, createdAt := now } else t.row key) :
    Related cfg (b.insert trace.traceRef ⟨payload, fun _ => {}⟩) t' := by
  have hdigest : payload'.payloadDigest = payload.payloadDigest := by
    obtain ⟨-, -, -, -, -, rfl⟩ := seal_eq_ok hseal
    obtain ⟨-, -, -, -, -, rfl⟩ := seal_eq_ok hseal'
    rfl
  have hother : ∀ ref record, (b.insert trace.traceRef ⟨payload, fun _ => {}⟩).lookup ref =
      some record → ref ≠ trace.traceRef → b.lookup ref = some record := by
    intro ref record hrecord hne
    rwa [AList.lookup_insert_ne hne] at hrecord
  have hself : ∀ record, (b.insert trace.traceRef ⟨payload, fun _ => {}⟩).lookup trace.traceRef =
      some record → record = ⟨payload, fun _ => {}⟩ := by
    intro record hrecord
    rw [AList.lookup_insert] at hrecord
    cases hrecord
    rfl
  refine ⟨fun key r hr => ?_, fun ref hnone => ?_, fun ref record hrecord => ?_,
    fun ref record hrecord => ?_, fun ref record hrecord sink => ?_⟩
  · rw [hrows key] at hr
    split at hr
    · cases hr
      exact ⟨by simp, by simp⟩
    · exact h.sound key r hr
  · have hne : ref ≠ trace.traceRef := by
      rintro rfl
      rw [AList.lookup_insert] at hnone
      cases hnone
    rw [AList.lookup_insert_ne hne] at hnone
    obtain ⟨hpayload, hrow⟩ := h.missing ref hnone
    refine ⟨by rw [hpayloads, AList.lookup_insert_ne hne, hpayload], fun sink => ?_⟩
    rw [hrows, if_neg hne, hrow sink]
  · by_cases hne : ref = trace.traceRef
    · rw [hne]
      exact href
    · exact h.storable ref record (hother ref record hrecord hne)
  · by_cases hne : ref = trace.traceRef
    · subst hne
      cases hself record hrecord
      rw [hpayloads, AList.lookup_insert]
      exact ⟨_, trace, rfl, hdigest, open_seal hseal, open_seal hseal'⟩
    · rw [hpayloads, AList.lookup_insert_ne hne]
      exact h.payload ref record (hother ref record hrecord hne)
  · by_cases hne : ref = trace.traceRef
    · subst hne
      cases hself record hrecord
      rw [hrows, if_pos rfl]
      exact ⟨_, rfl, rfl, rfl, rfl⟩
    · rw [hrows, if_neg hne]
      exact h.delivery ref record (hother ref record hrecord hne) sink

theorem Related.simulates_enqueue_known (h : Related cfg b t)
    (hseal : cfg.cipher.seal trace d.memoryNonce = .ok payload)
    (hseal' : cfg.cipher.seal trace d.postgresNonce = .ok payload')
    (hrecord : b.lookup trace.traceRef = some record) : Simulates cfg d b t (.enqueue trace) := by
  have hwithin : Within cfg d b t (.enqueue trace) := by
    intro _ hnone
    rw [hrecord] at hnone
    cases hnone
  have href : Storable trace.traceRef := h.storable _ record hrecord
  obtain ⟨row, -, hrow, hdigest, -⟩ := h.payload _ record hrecord
  have hmemory : performMemory cfg d b (.enqueue trace) =
      (if record.payload.payloadDigest ≠ trace.payloadDigest then .raised .payloadConflict
        else .flag false, b) := by
    rw [performMemory, MemoryBuffer.enqueue, show cfg.memory.cipher.seal trace d.memoryNonce =
      .ok payload from hseal]
    simp only [hrecord]
    split <;> rfl
  have hpostgres : performPostgres cfg d t (.enqueue trace) =
      some (if record.payload.payloadDigest ≠ trace.payloadDigest then .raised .payloadConflict
        else .flag false, t) := by
    have henqueue : PostgresBuffer.enqueue cfg.postgres (d.moment t) t trace =
        (if record.payload.payloadDigest ≠ trace.payloadDigest then .error .payloadConflict
          else .ok false, t) := by
      rw [PostgresBuffer.enqueue, show cfg.postgres.cipher.seal trace (d.moment t).nonce =
        .ok payload' from hseal']
      simp only [hrow, hdigest]
      split <;> rfl
    simp only [performPostgres, hseal', henqueue, if_neg (not_not.2 href)]
    split
    · rw [if_neg (by simp)]
      rfl
    · rw [if_neg (by simp)]
      rfl
  refine simulates_of_eq hmemory hpostgres (iff_of_true ?_ hwithin) fun _ => h
  split <;> rfl

theorem Related.simulates_enqueue_new (h : Related cfg b t)
    (hseal : cfg.cipher.seal trace d.memoryNonce = .ok payload)
    (hseal' : cfg.cipher.seal trace d.postgresNonce = .ok payload')
    (hnone : b.lookup trace.traceRef = none) : Simulates cfg d b t (.enqueue trace) := by
  have hmemory : performMemory cfg d b (.enqueue trace) =
      if cfg.capacity ≤ MemoryBuffer.pending b then (.raised .bufferFull, b)
      else (.flag true, b.insert trace.traceRef ⟨payload, fun _ => {}⟩) := by
    rw [performMemory, MemoryBuffer.enqueue, show cfg.memory.cipher.seal trace d.memoryNonce =
      .ok payload from hseal]
    simp only [hnone]
    by_cases hfull : cfg.capacity ≤ MemoryBuffer.pending b
    · rw [if_pos hfull, if_pos (show cfg.memory.capacity ≤ _ from hfull)]
      rfl
    · rw [if_neg hfull, if_neg (show ¬cfg.memory.capacity ≤ _ from hfull)]
      rfl
  have hsealed : ∃ payload, cfg.cipher.seal trace d.memoryNonce = .ok payload := ⟨payload, hseal⟩
  by_cases href : Storable trace.traceRef
  swap
  · have hpostgres : performPostgres cfg d t (.enqueue trace) =
        some (.raised .characterNotInRepertoire, t) := by
      simp only [performPostgres, hseal', if_pos href]
    have hnot : ¬Within cfg d b t (.enqueue trace) := fun hwithin => href (hwithin hsealed hnone).1
    by_cases hfull : cfg.capacity ≤ MemoryBuffer.pending b
    · rw [if_pos hfull] at hmemory
      exact simulates_of_differ hmemory hpostgres (fun h => by cases h) hnot
    · rw [if_neg hfull] at hmemory
      exact simulates_of_differ hmemory hpostgres (fun h => by cases h) hnot
  have hpayload : t.payloads.lookup trace.traceRef = none := (h.missing _ hnone).1
  have hperform : performPostgres cfg d t (.enqueue trace) =
      if ((PostgresBuffer.enqueue cfg.postgres (d.moment t) t trace).1 = .ok true ∨
          (PostgresBuffer.enqueue cfg.postgres (d.moment t) t trace).1 =
            .error .payloadViolation) ∧
          ¬(Storable cfg.cipher.keyId ∧ Storable trace.candidateSha) then
        some (.raised .characterNotInRepertoire, t)
      else some (outcome .flag (PostgresBuffer.enqueue cfg.postgres (d.moment t) t trace).1,
        (PostgresBuffer.enqueue cfg.postgres (d.moment t) t trace).2) := by
    simp only [performPostgres, hseal', if_neg (not_not.2 href)]
  have hseal'' : cfg.postgres.cipher.seal trace (d.moment t).nonce = .ok payload' := hseal'
  by_cases hfull : cfg.capacity ≤ MemoryBuffer.pending b
  · -- both are full
    rw [if_pos hfull] at hmemory
    have henqueue : PostgresBuffer.enqueue cfg.postgres (d.moment t) t trace =
        (.error .bufferFull, t) := by
      rw [PostgresBuffer.enqueue, hseal'']
      simp only [hpayload]
      have hseen : cfg.postgres.capacity ≤ (d.moment t).seen := by
        show cfg.capacity ≤ PostgresBuffer.pending t
        rwa [h.pending]
      exact if_pos hseen
    rw [henqueue, if_neg (by simp)] at hperform
    exact simulates_of_eq hmemory hperform
      (iff_of_true rfl fun _ _ => ⟨href, fun hlt => absurd hfull (not_le.2 hlt)⟩) fun _ => h
  · rw [if_neg hfull] at hmemory
    have hroom : ¬cfg.postgres.capacity ≤ (d.moment t).seen := by
      show ¬cfg.capacity ≤ PostgresBuffer.pending t
      rwa [h.pending]
    have hwithin : Within cfg d b t (.enqueue trace) ↔ PostgresBuffer.PayloadRow.Ok trace.traceRef
        ⟨payload', trace.candidateSha⟩ ∧ Storable cfg.cipher.keyId := by
      obtain ⟨-, -, -, -, -, rfl⟩ := seal_eq_ok hseal'
      constructor
      · intro hwithin
        obtain ⟨hhex, hdigest, hsha, hkey⟩ := (hwithin hsealed hnone).2 (not_le.1 hfull)
        exact ⟨⟨hhex, hdigest, d.length_nonce, rfl, hsha⟩, hkey⟩
      · rintro ⟨⟨hhex, hdigest, -, -, hsha⟩, hkey⟩ _ _
        exact ⟨href, fun _ => ⟨hhex, hdigest, hsha, hkey⟩⟩
    by_cases hok : PostgresBuffer.PayloadRow.Ok trace.traceRef ⟨payload', trace.candidateSha⟩
    · obtain ⟨t', henqueue, hpayloads, hrows⟩ :=
        PostgresBuffer.enqueue_new hseal'' hpayload hroom hok
      have hsha : Storable trace.candidateSha := storable_of_isHex hok.2.2.2.2
      rw [henqueue] at hperform
      by_cases hkey : Storable cfg.cipher.keyId
      · rw [if_neg fun hand => hand.2 ⟨hkey, hsha⟩] at hperform
        exact simulates_of_eq hmemory hperform (iff_of_true rfl (hwithin.2 ⟨hok, hkey⟩))
          fun _ => h.insert hseal hseal' href hpayloads hrows
      · rw [if_pos ⟨.inl rfl, fun hand => hkey hand.1⟩] at hperform
        have hnot : ¬Within cfg d b t (.enqueue trace) := fun hin => hkey (hwithin.1 hin).2
        exact simulates_of_differ hmemory hperform (fun h => by cases h) hnot
    · have henqueue : PostgresBuffer.enqueue cfg.postgres (d.moment t) t trace =
          (.error .payloadViolation, t) := by
        rw [PostgresBuffer.enqueue, hseal'']
        simp only [hpayload, if_neg hroom, if_neg hok]
      have hnot : ¬Within cfg d b t (.enqueue trace) := fun hin => hok (hwithin.1 hin).1
      rw [henqueue] at hperform
      by_cases htexts : Storable cfg.cipher.keyId ∧ Storable trace.candidateSha
      · rw [if_neg fun hand => hand.2 htexts] at hperform
        exact simulates_of_differ hmemory hperform (fun h => by cases h) hnot
      · rw [if_pos ⟨.inr rfl, htexts⟩] at hperform
        exact simulates_of_differ hmemory hperform (fun h => by cases h) hnot

theorem Related.simulates_enqueue (h : Related cfg b t) (trace : SanitizedTrace) :
    Simulates cfg d b t (.enqueue trace) := by
  rcases seal_cases cfg.cipher trace d.memoryNonce d.postgresNonce with
    ⟨err, hseal, hseal'⟩ | ⟨payload, payload', hseal, hseal'⟩
  · -- neither seals the trace
    have hmemory : performMemory cfg d b (.enqueue trace) = (.raised (CipherError.class err), b) := by
      rw [performMemory, MemoryBuffer.enqueue, show cfg.memory.cipher.seal trace d.memoryNonce =
        .error err from hseal]
      rfl
    have hpostgres : performPostgres cfg d t (.enqueue trace) =
        some (.raised (CipherError.class err), t) := by
      simp only [performPostgres, hseal']
    refine simulates_of_eq hmemory hpostgres (iff_of_true rfl ?_) fun _ => h
    rintro ⟨payload, hpayload⟩
    rw [hseal] at hpayload
    cases hpayload
  · cases hrecord : b.lookup trace.traceRef with
    | none => exact h.simulates_enqueue_new hseal hseal' hrecord
    | some record => exact h.simulates_enqueue_known hseal hseal' hrecord

/-- **Every call on related states is answered alike exactly under the condition, and then the states
stay related.** -/
theorem Related.simulates (h : Related cfg b t) (hdue : Due cfg d b t c) :
    Simulates cfg d b t c := by
  cases c with
  | enqueue trace => exact h.simulates_enqueue trace
  | claim sink limit leaseSeconds => exact h.simulates_claim hdue
  | acknowledge ref sink => exact h.simulates_acknowledge ref sink
  | retry ref sink errorCode => exact h.simulates_retry ref sink errorCode
  | status => exact h.simulates_status

/-! ### Runs of both buffers -/

theorem Related.along_iff (h : Related cfg b t) {steps : List Step}
    (hdue : Along cfg (Due cfg) b t steps) :
    Along cfg (Agrees cfg) b t steps ↔ Along cfg (Within cfg) b t steps := by
  induction steps generalizing b t with
  | nil => exact Iff.rfl
  | cons s steps ih =>
    obtain ⟨hnow, hlater⟩ := hdue
    have hstep := h.simulates hnow
    rw [Along, Along, hstep.agrees]
    refine and_congr_right fun hwithin => ?_
    refine forall_congr' fun o => forall_congr' fun t' => forall_congr' fun hperform => ?_
    exact ih (hstep.next hwithin o t' hperform) (hlater o t' hperform)

/-- **The buffer in PostgreSQL agrees with the one in memory exactly along the runs whose calls meet
the condition.** -/
theorem buffers_agree_iff (cfg : Config) (steps : List Step) (hdue : Along cfg (Due cfg) ∅ {} steps) :
    Along cfg (Agrees cfg) ∅ {} steps ↔
      Along cfg (Within cfg) ∅ {} steps :=
  related_empty.along_iff hdue

def sampleConfig : Config := ⟨sampleCipher, 10000, PostgresBuffer.sampleConfig.positive⟩

def sampleDraw : Draw where
  now := 0
  isDatetime_now := by decide
  memoryNonce := sampleNonce
  postgresNonce := sampleNonce
  length_nonce := rfl

/-- What is drawn at an instant after the sample trace was taken in. -/
def laterDraw (now : ℤ) (h : IsDatetime now) : Draw :=
  { sampleDraw with now := now, isDatetime_now := h, chosen := [PostgresBuffer.sampleRef] }

/-- A trace is taken in, claimed and put back for a sink; after the backoff it is claimed again,
delivered and counted. -/
def sampleSteps : List Step :=
  [⟨sampleDraw, .enqueue (sampleTrace PostgresBuffer.sampleRef)⟩,
    ⟨laterDraw 0 (by decide), .claim .archive 10 30⟩,
    ⟨laterDraw 1000000 (by decide), .retry PostgresBuffer.sampleRef .archive "SINK_ERROR"⟩,
    ⟨laterDraw 2000000 (by decide), .claim .archive 10 30⟩,
    ⟨laterDraw 3000000 (by decide), .acknowledge PostgresBuffer.sampleRef .archive⟩,
    ⟨laterDraw 3000000 (by decide), .status⟩]

theorem along_cons {P : Draw → MemoryBuffer.Buffer → PostgresBuffer.Tables → Call → Prop} {s : Step}
    {steps : List Step} {o : Outcome} (hP : P s.draw b t s.call)
    (hmemory : (performMemory cfg s.draw b s.call).2 = b')
    (hpostgres : performPostgres cfg s.draw t s.call = some (o, t'))
    (hrest : Along cfg P b' t' steps) : Along cfg P b t (s :: steps) := by
  refine ⟨hP, fun o₁ t₁ heq => ?_⟩
  rw [hpostgres] at heq
  cases heq
  rw [hmemory]
  exact hrest

variable {now : ℤ}

theorem row_of_sampleTables {ref : String} {r row : PostgresBuffer.DeliveryRow}
    (h : (PostgresBuffer.sampleTables row).row (ref, .archive) = some r) : r = row := by
  rw [PostgresBuffer.Tables.row] at h
  by_cases href : ref = PostgresBuffer.sampleRef
  · subst href
    rw [PostgresBuffer.row_sampleTables] at h
    exact (Option.some.inj h).symm
  · have hne : ((ref, DeliverySink.archive) : Key) ≠ (PostgresBuffer.sampleRef, .archive) :=
      fun heq => href (Prod.mk.inj heq).1
    have hothers : PostgresBuffer.sampleOthers.lookup (ref, .archive) = none := by
      rw [AList.lookup_eq_none]
      rintro hmem
      simp [PostgresBuffer.sampleOthers, AList.mem_keys] at hmem
    rw [PostgresBuffer.sampleTables, AList.lookup_insert_ne hne, hothers] at h
    cases h

/-- A claim of the sample trace at an instant when its row is ready. -/
theorem perform_claim_sample (row : PostgresBuffer.DeliveryRow) (hnow : IsDatetime now)
    (hselects : PostgresBuffer.Selects { now, chosen := [PostgresBuffer.sampleRef] }
      (PostgresBuffer.sampleTables row) .archive (Int.toNat 10))
    (hok : (row.lease (now + seconds 30)).Ok) :
    ∃ o, performPostgres sampleConfig (laterDraw now hnow) (PostgresBuffer.sampleTables row)
      (.claim .archive 10 30) =
        some (o, PostgresBuffer.sampleTables (row.lease (now + seconds 30))) := by
  have hclaim : PostgresBuffer.claim sampleConfig.postgres
      ((laterDraw now hnow).moment (PostgresBuffer.sampleTables row))
      (PostgresBuffer.sampleTables row) .archive 10 30 = _ :=
    PostgresBuffer.claim_sampleTables row now 10 30 (by decide) hselects hok
  have hinterval : IsInterval 30 := by decide
  have hargs : ¬(PostgresBuffer.limitError 10 = some .dataError ∨ ¬Encodable 30) :=
    not_or.2 ⟨by decide, not_not.2 (encodable_of_isInterval hinterval)⟩
  have heager : ¬((laterDraw now hnow).eager ∧ ¬IsInterval 30) := fun hand => hand.2 hinterval
  have hend : IsTimestamp (now + seconds 30) := by
    obtain ⟨hlow, hhigh⟩ := hnow
    simp only [IsTimestamp, seconds]
    omega
  rw [performPostgres, if_neg hargs, if_neg heager, hclaim, Option.map_some,
    if_neg fun hand => hand.2 ⟨by decide, hend⟩]
  exact ⟨_, rfl⟩

/-- The row of the sample trace after the claim and the retry. -/
def retriedRow : PostgresBuffer.DeliveryRow :=
  (PostgresBuffer.sampleRow.lease (seconds 30)).retried 1000000 "SINK_ERROR"

theorem perform_claim_first : ∃ o, performPostgres sampleConfig (laterDraw 0 (by decide))
    (PostgresBuffer.sampleTables PostgresBuffer.sampleRow) (.claim .archive 10 30) =
      some (o, PostgresBuffer.sampleTables (PostgresBuffer.sampleRow.lease (0 + seconds 30))) :=
  perform_claim_sample _ (by decide) (by decide +kernel) (by decide)

theorem perform_claim_again : ∃ o, performPostgres sampleConfig (laterDraw 2000000 (by decide))
    (PostgresBuffer.sampleTables retriedRow) (.claim .archive 10 30) =
      some (o, PostgresBuffer.sampleTables (retriedRow.lease (2000000 + seconds 30))) :=
  perform_claim_sample _ (by decide) (by decide +kernel) (by decide)

/-- The buffer in memory with the sample trace. -/
def sampleMemory (ds : DeliverySink → MemoryBuffer.MemoryDelivery) : MemoryBuffer.Buffer :=
  AList.singleton PostgresBuffer.sampleRef ⟨samplePayload PostgresBuffer.sampleRef, ds⟩

variable (ds : DeliverySink → MemoryBuffer.MemoryDelivery)

theorem claimable_sample : (claimable (sampleMemory ds) .archive now : ℤ) ≤ 10 := by
  have hcount : claimable (sampleMemory ds) .archive now ≤ 1 := List.countP_le_length
  omega

theorem memory_enqueue_sample : (performMemory sampleConfig sampleDraw ∅
    (.enqueue (sampleTrace PostgresBuffer.sampleRef))).2 = sampleMemory fun _ => {} := by
  have hseal : sampleConfig.memory.cipher.seal (sampleTrace PostgresBuffer.sampleRef)
      sampleDraw.memoryNonce = .ok (samplePayload PostgresBuffer.sampleRef) :=
    seal_sample PostgresBuffer.sampleRef
  rw [performMemory, MemoryBuffer.enqueue_empty hseal]
  rfl

theorem memory_claim_sample (hnow : IsDatetime now) (hend : IsDatetime (now + seconds 30))
    (hfree : ¬(ds .archive).Busy now) : (performMemory sampleConfig (laterDraw now hnow)
      (sampleMemory ds) (.claim .archive 10 30)).2 =
        sampleMemory (Function.update ds .archive ((ds .archive).lease (now + seconds 30))) := by
  have hopen : sampleConfig.memory.cipher.open PostgresBuffer.sampleRef
      (samplePayload PostgresBuffer.sampleRef) = .ok (sampleTrace PostgresBuffer.sampleRef) :=
    open_sample PostgresBuffer.sampleRef
  rcases performMemory_claim sampleConfig (laterDraw now hnow) (sampleMemory ds) .archive 10 30 with
    ⟨_, _, _, -, -, -, hbeyond⟩ | ⟨hperform, -⟩
  · exact absurd hend hbeyond
  · rw [hperform]
    exact congrArg Prod.snd (MemoryBuffer.claim_singleton
      ⟨samplePayload PostgresBuffer.sampleRef, ds⟩ hopen hfree 10 30)

theorem memory_retry_sample (d : Draw) : (performMemory sampleConfig d (sampleMemory ds)
    (.retry PostgresBuffer.sampleRef .archive "SINK_ERROR")).2 = sampleMemory (Function.update ds
      .archive ⟨.pending, (ds .archive).attemptCount + 1, none, some "SINK_ERROR"⟩) := by
  have hretry := MemoryBuffer.retry_singleton PostgresBuffer.sampleRef
    ⟨samplePayload PostgresBuffer.sampleRef, ds⟩ .archive
    (show ValidCode "SINK_ERROR" by decide)
  exact congrArg Prod.snd hretry

theorem perform_retry_sample : performPostgres sampleConfig (laterDraw 1000000 (by decide))
    (PostgresBuffer.sampleTables (PostgresBuffer.sampleRow.lease (0 + seconds 30)))
    (.retry PostgresBuffer.sampleRef .archive "SINK_ERROR") =
      some (.done, PostgresBuffer.sampleTables retriedRow) := by
  have htexts : ¬(ValidCode "SINK_ERROR" ∧
      ¬(Storable PostgresBuffer.sampleRef ∧ Storable "SINK_ERROR")) := by decide +kernel
  have hretry := PostgresBuffer.retry_sampleTables (PostgresBuffer.sampleRow.lease (0 + seconds 30))
    ((laterDraw 1000000 (by decide)).moment (PostgresBuffer.sampleTables
      (PostgresBuffer.sampleRow.lease (0 + seconds 30)))) "SINK_ERROR" (by decide) (by decide)
      (by decide)
  rw [performPostgres, if_neg htexts, hretry]
  rfl

theorem perform_enqueue_sample : performPostgres sampleConfig sampleDraw {}
    (.enqueue (sampleTrace PostgresBuffer.sampleRef)) =
      some (.flag true, PostgresBuffer.sampleTables PostgresBuffer.sampleRow) := by
  have hseal : sampleConfig.cipher.seal (sampleTrace PostgresBuffer.sampleRef)
      sampleDraw.postgresNonce = .ok (samplePayload PostgresBuffer.sampleRef) :=
    seal_sample PostgresBuffer.sampleRef
  have henqueue : PostgresBuffer.enqueue sampleConfig.postgres (sampleDraw.moment {}) {}
      (sampleTrace PostgresBuffer.sampleRef) = _ := PostgresBuffer.enqueue_sampleTables
  have htexts : Storable (sampleTrace PostgresBuffer.sampleRef).traceRef ∧
      Storable sampleConfig.cipher.keyId ∧
      Storable (sampleTrace PostgresBuffer.sampleRef).candidateSha := by decide +kernel
  rw [performPostgres, hseal]
  simp only [henqueue, if_neg (not_not.2 htexts.1)]
  rw [if_neg fun hand => hand.2 htexts.2]
  rfl

theorem buffers_agree_iff_sample : Along sampleConfig (Agrees sampleConfig) ∅ {} sampleSteps ↔
    Along sampleConfig (Within sampleConfig) ∅ {} sampleSteps := by
  obtain ⟨o, hclaim⟩ := perform_claim_first
  obtain ⟨o', hclaim'⟩ := perform_claim_again
  refine buffers_agree_iff sampleConfig sampleSteps ?_
  refine along_cons trivial memory_enqueue_sample perform_enqueue_sample ?_
  refine along_cons ⟨claimable_sample _, fun ref r hr _ hretried => ?_, by rw [hclaim]; rfl⟩
    (memory_claim_sample _ _ (by decide) (by decide)) hclaim ?_
  · rw [row_of_sampleTables hr] at hretried
    exact absurd hretried (by decide)
  refine along_cons trivial (memory_retry_sample _ _) perform_retry_sample ?_
  refine along_cons ⟨claimable_sample _, fun ref r hr _ _ => ?_, by rw [hclaim']; rfl⟩
    (memory_claim_sample _ _ (by decide) ?_) hclaim' ?_
  · rw [row_of_sampleTables hr]
    decide
  · simp [MemoryBuffer.MemoryDelivery.Busy]
  · exact ⟨trivial, fun _ _ _ => ⟨trivial, fun _ _ _ => trivial⟩⟩

/-- The retry of a reference that was never taken in: an exception in memory, nothing in
PostgreSQL. -/
def unknownRetry : Step := ⟨sampleDraw, .retry PostgresBuffer.sampleRef .archive "SINK_ERROR"⟩

theorem not_agree_unknownRetry : ¬∀ (cfg : Config) (steps : List Step),
    Along cfg (Due cfg) ∅ {} steps → Along cfg (Agrees cfg) ∅ {} steps := by
  intro h
  have hagrees := (h sampleConfig [unknownRetry] ⟨trivial, fun _ _ _ => trivial⟩).1
  have hpostgres : performPostgres sampleConfig unknownRetry.draw {} unknownRetry.call =
      some (.done, {}) := by
    have htexts : ¬(ValidCode "SINK_ERROR" ∧
        ¬(Storable PostgresBuffer.sampleRef ∧ Storable "SINK_ERROR")) := by decide +kernel
    have hcode : ¬¬ValidCode "SINK_ERROR" := by decide
    show performPostgres sampleConfig sampleDraw {}
      (.retry PostgresBuffer.sampleRef .archive "SINK_ERROR") = _
    rw [performPostgres, if_neg htexts, PostgresBuffer.retry, if_neg hcode]
    rfl
  have hmemory : (performMemory sampleConfig unknownRetry.draw ∅ unknownRetry.call).1 =
      .raised .keyError := rfl
  have hsame := hagrees _ _ hpostgres
  rw [hmemory] at hsame
  cases hsame

end BufferAgreement
