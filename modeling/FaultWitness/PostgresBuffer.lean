/-
**The trace buffer in PostgreSQL.**

`PostgresTraceBuffer` keeps the sealed payloads in one table and a row for each reference and sink in
another, whose `CHECK` constraints tie the state of a delivery to its columns: a row is leased exactly
if it has a deadline, and acknowledged exactly if it has the instant of that.

Every call but `enqueue` writes in one statement, so it is one step: the rows a statement locks stay
as they are until it commits.  What a statement draws from its surroundings is an argument here: the
instant `now()` at which its transaction began, the rows that `SKIP LOCKED` passed over because
others had locked them, and among rows of one age those that the sort put first.  The count of
pending traces in `enqueue` is what that statement saw, since acknowledgements do not wait for the
advisory lock.

Main definitions:

* `PostgresBuffer.Tables`, `PostgresBuffer.DeliveryRow.Ok` — the tables and their constraints;
* `PostgresBuffer.enqueue`, `claim`, `acknowledge`, `retry` — the calls;
* `PostgresBuffer.Sound` — every row meets the constraints.

Main results:

* `PostgresBuffer.retry_checkViolation` — `retry` violates a constraint exactly on an acknowledged
  delivery;
* `PostgresBuffer.claim_ne_checkViolation`, `PostgresBuffer.acknowledge_ne_checkViolation` — the
  other calls never do.
-/

import FaultWitness.Leases
import FaultWitness.Traces
import Mathlib.Algebra.Group.Int.Defs

set_option autoImplicit false

namespace PostgresBuffer

open Traces

/-! ### The tables -/

structure PayloadRow where
  payload : EncryptedPayload
  candidateSha : String
deriving DecidableEq

structure DeliveryRow where
  state : DeliveryState
  attemptCount : ℕ := 0
  nextAttemptAt : ℤ
  leasedUntil : Option ℤ := none
  ackedAt : Option ℤ := none
  lastErrorCode : Option String := none
  createdAt : ℤ
deriving DecidableEq

structure Tables where
  payloads : AList fun _ : String => PayloadRow := ∅
  deliveries : AList fun _ : Key => DeliveryRow := ∅

/-- A text of hexadecimal digits of a given length. -/
def IsHex (n : ℕ) (s : String) : Prop :=
  s.length = n ∧ s.toList.all fun c => ('0' ≤ c && c ≤ '9') || ('a' ≤ c && c ≤ 'f')

instance (n : ℕ) (s : String) : Decidable (IsHex n s) := inferInstanceAs (Decidable (_ ∧ _))

/-- The constraints of the table of payloads. -/
def PayloadRow.Ok (ref : String) (r : PayloadRow) : Prop :=
  IsHex 24 ref ∧ IsHex 64 r.payload.payloadDigest ∧ r.payload.nonce.length = 12 ∧
    r.payload.formatVersion = 1 ∧ IsHex 40 r.candidateSha

instance (ref : String) (r : PayloadRow) : Decidable (r.Ok ref) :=
  inferInstanceAs (Decidable (_ ∧ _ ∧ _ ∧ _ ∧ _))

/-- The constraints of the table of deliveries. -/
def DeliveryRow.Ok (r : DeliveryRow) : Prop :=
  (r.state = .leased ↔ r.leasedUntil.isSome) ∧ (r.state = .acked ↔ r.ackedAt.isSome)

instance (r : DeliveryRow) : Decidable r.Ok := inferInstanceAs (Decidable ((_ ↔ _) ∧ (_ ↔ _)))

/-- What a call draws from its surroundings. -/
structure Moment where
  /-- The instant at which the transaction began. -/
  now : ℤ
  nonce : List UInt8 := []
  /-- The number of pending traces that the count of `enqueue` saw. -/
  seen : ℕ := 0
  /-- The rows that others had locked. -/
  skipped : List String := []
  /-- The rows that `claim` locked. -/
  chosen : List String := []
deriving DecidableEq

/-- The cipher and the capacity of a buffer. -/
structure Config where
  cipher : PayloadCipher
  capacity : ℕ
  positive : 1 ≤ capacity

/-! ### The calls -/

/-- The traces with a delivery that is not acknowledged. -/
def pending (t : Tables) : ℕ :=
  t.payloads.keys.countP fun ref => t.deliveries.entries.any fun e =>
    e.1.1 = ref ∧ e.2.state ≠ .acked

variable (cfg : Config)

def enqueue (m : Moment) (t : Tables) (trace : SanitizedTrace) :
    Except BufferError Bool × Tables :=
  match cfg.cipher.seal trace m.nonce with
  | .error err => (.error (.cipher err), t)
  | .ok payload =>
    match t.payloads.lookup trace.traceRef with
    | some prior =>
      if prior.payload.payloadDigest ≠ trace.payloadDigest then (.error .payloadConflict, t)
      else (.ok false, t)
    | none =>
      if cfg.capacity ≤ m.seen then (.error .bufferFull, t)
      else
        let row : PayloadRow := ⟨payload, trace.candidateSha⟩
        if row.Ok trace.traceRef then
          (.ok true,
            { payloads := t.payloads.insert trace.traceRef row
              deliveries := DeliverySink.all.foldl (fun ds sink =>
                ds.insert (trace.traceRef, sink)
                  { state := .pending, nextAttemptAt := m.now, createdAt := m.now })
                t.deliveries })
        else (.error .payloadViolation, t)

/-- The condition of the `SELECT` in `claim`. -/
def DeliveryRow.Ready (r : DeliveryRow) (now : ℤ) : Prop :=
  (r.state = .pending ∨ (r.state = .leased ∧ ∃ deadline ∈ r.leasedUntil, deadline < now)) ∧
    r.nextAttemptAt ≤ now

instance (r : DeliveryRow) (now : ℤ) : Decidable (r.Ready now) :=
  inferInstanceAs (Decidable ((_ ∨ (_ ∧ ∃ deadline ∈ r.leasedUntil, deadline < now)) ∧ _))

/-- The references that `claim` may lock. -/
def candidates (m : Moment) (t : Tables) (sink : DeliverySink) : List String :=
  (t.deliveries.entries.filter fun e =>
    e.1.2 = sink ∧ e.2.Ready m.now ∧ e.1.1 ∉ m.skipped).map fun e => e.1.1

/-- The instant at which a delivery was created. -/
def createdAt (t : Tables) (sink : DeliverySink) (ref : String) : ℤ :=
  match t.deliveries.lookup (ref, sink) with
  | some r => r.createdAt
  | none => 0

/-- The rows chosen are the first ones in the order of creation, up to the limit. -/
def Selects (m : Moment) (t : Tables) (sink : DeliverySink) (limit : ℕ) : Prop :=
  m.chosen.Nodup ∧ (∀ ref ∈ m.chosen, ref ∈ candidates m t sink) ∧
    m.chosen.length = min limit (candidates m t sink).length ∧
    ∀ ref ∈ m.chosen, ∀ other ∈ candidates m t sink, other ∉ m.chosen →
      createdAt t sink ref ≤ createdAt t sink other

instance (m : Moment) (t : Tables) (sink : DeliverySink) (limit : ℕ) :
    Decidable (Selects m t sink limit) := inferInstanceAs (Decidable (_ ∧ _ ∧ _ ∧ _))

/-- The row under a new lease. -/
def DeliveryRow.lease (r : DeliveryRow) (deadline : ℤ) : DeliveryRow :=
  { r with state := .leased, leasedUntil := some deadline }

/-- The row after an acknowledgement. -/
def DeliveryRow.acknowledged (r : DeliveryRow) (now : ℤ) : DeliveryRow :=
  { r with state := .acked, ackedAt := some now, leasedUntil := none, lastErrorCode := none }

/-- The delay before the next attempt, in seconds. -/
def backoff (attemptCount : ℕ) : ℤ := min 60 (2 ^ min attemptCount 5)

/-- The row after a retry. -/
def DeliveryRow.retried (r : DeliveryRow) (now : ℤ) (code : String) : DeliveryRow :=
  { r with
    state := .pending, attemptCount := r.attemptCount + 1, leasedUntil := none
    lastErrorCode := some code, nextAttemptAt := now + seconds (backoff r.attemptCount) }

/-- An update of rows; none is written if one violates a constraint. -/
def update (t : Tables) (keys : List Key) (f : DeliveryRow → DeliveryRow) :
    Except BufferError Tables :=
  keys.foldlM (fun t key =>
    match t.deliveries.lookup key with
    | none => .ok t
    | some r =>
      if (f r).Ok then .ok { t with deliveries := t.deliveries.insert key (f r) }
      else .error .checkViolation) t

/-- Opening the payloads of the rows that were claimed. -/
def openAll (t : Tables) (sink : DeliverySink) : List String → Except CipherError (List Delivery)
  | [] => .ok []
  | ref :: refs =>
    match t.payloads.lookup ref, t.deliveries.lookup (ref, sink) with
    | some row, some r => do
      let trace ← cfg.cipher.open ref row.payload
      let rest ← openAll t sink refs
      return ⟨trace, sink, r.attemptCount⟩ :: rest
    | _, _ => openAll t sink refs

/-- What is raised for a limit, which is a `bigint` for the driver and must not be negative. -/
def limitError (limit : ℤ) : Option BufferError :=
  if limit < -9223372036854775808 ∨ 9223372036854775808 ≤ limit then some .dataError
  else if limit < 0 then some .negativeLimit
  else none

theorem limitError_eq_none {limit : ℤ} :
    limitError limit = none ↔ 0 ≤ limit ∧ limit < 9223372036854775808 := by
  unfold limitError
  split
  · exact iff_of_false (by simp) (by omega)
  · split
    · exact iff_of_false (by simp) (by omega)
    · exact iff_of_true rfl (by omega)

/-- The call `claim`; `none` if the rows chosen are not those the statement locks. -/
def claim (m : Moment) (t : Tables) (sink : DeliverySink) (limit leaseSeconds : ℤ) :
    Option (Except BufferError (List Delivery) × Tables) :=
  match limitError limit with
  | some err => some (.error err, t)
  | none =>
    if Selects m t sink limit.toNat then
      match update t (m.chosen.map fun ref => (ref, sink))
          (·.lease (m.now + seconds leaseSeconds)) with
      | .error err => some (.error err, t)
      | .ok t' =>
        some ((openAll cfg t' sink (m.chosen.insertionSort (· ≤ ·))).mapError .cipher, t')
    else none

def acknowledge (m : Moment) (t : Tables) (ref : String) (sink : DeliverySink) :
    Except BufferError Unit × Tables :=
  match t.deliveries.lookup (ref, sink) with
  | none => (.error .keyError, t)
  | some _ =>
    match update t [(ref, sink)] (·.acknowledged m.now) with
    | .error err => (.error err, t)
    | .ok t' => (.ok (), t')

def retry (m : Moment) (t : Tables) (ref : String) (sink : DeliverySink) (errorCode : String) :
    Except BufferError Unit × Tables :=
  if ¬ ValidCode errorCode then (.error .badErrorCode, t)
  else
    match t.deliveries.lookup (ref, sink) with
    | none => (.ok (), t)
    | some r =>
      if 2147483647 ≤ r.attemptCount then (.error .integerOutOfRange, t)
      else
        match update t [(ref, sink)] (·.retried m.now errorCode) with
        | .error err => (.error err, t)
        | .ok t' => (.ok (), t')

/-! ### Updates -/

/-- The row under a key. -/
def Tables.row (t : Tables) (key : Key) : Option DeliveryRow := t.deliveries.lookup key

/-- Every row meets the constraints. -/
def Sound (t : Tables) : Prop := ∀ key r, t.row key = some r → r.Ok

/-- Every delivery belongs to a payload. -/
def Linked (t : Tables) : Prop := ∀ key r, t.row key = some r → t.payloads.lookup key.1 ≠ none

theorem sound_empty : Sound {} := by
  intro key r hr
  cases hr

theorem linked_empty : Linked {} := by
  intro key r hr
  cases hr

variable {cfg} {t t' : Tables} {keys : List Key} {f : DeliveryRow → DeliveryRow}

/-- What an update has written. -/
structure Updated (t t' : Tables) (keys : List Key) (f : DeliveryRow → DeliveryRow) : Prop where
  payloads : t'.payloads = t.payloads
  row : ∀ key, t'.row key = if key ∈ keys then (t.row key).map f else t.row key
  ok : ∀ key ∈ keys, ∀ r, t.row key = some r → (f r).Ok

theorem Updated.sound (h : Updated t t' keys f) (hs : Sound t) : Sound t' := by
  intro key r hr
  rw [h.row key] at hr
  split at hr
  · rename_i hmem
    obtain ⟨r₀, hr₀, rfl⟩ := Option.map_eq_some_iff.1 hr
    exact h.ok key hmem r₀ hr₀
  · exact hs key r hr

theorem Updated.linked (h : Updated t t' keys f) (hl : Linked t) : Linked t' := by
  intro key r hr
  rw [h.payloads]
  rw [h.row key] at hr
  split at hr
  · obtain ⟨r₀, hr₀, -⟩ := Option.map_eq_some_iff.1 hr
    exact hl key r₀ hr₀
  · exact hl key r hr

theorem row_insert (t : Tables) (key : Key) (r : DeliveryRow) (key' : Key) :
    ({ t with deliveries := t.deliveries.insert key r } : Tables).row key' =
      if key' = key then some r else t.row key' := by
  simp only [Tables.row]
  split
  · rename_i h
    rw [h, AList.lookup_insert]
  · rename_i h
    rw [AList.lookup_insert_ne h]

/-- An update writes all its rows, or finds one that violates a constraint. -/
theorem update_cases (t : Tables) (f : DeliveryRow → DeliveryRow) (hkeys : keys.Nodup) :
    (∃ t', update t keys f = .ok t' ∧ Updated t t' keys f) ∨
      (update t keys f = .error .checkViolation ∧
        ∃ key ∈ keys, ∃ r, t.row key = some r ∧ ¬ (f r).Ok) := by
  induction keys generalizing t with
  | nil => exact Or.inl ⟨t, rfl, rfl, fun key => rfl, fun key h => absurd h List.not_mem_nil⟩
  | cons key keys ih =>
    rw [List.nodup_cons] at hkeys
    cases hrow : t.row key with
    | none =>
      have hstep : update t (key :: keys) f = update t keys f := by
        simp only [Tables.row] at hrow
        simp only [update, List.foldlM_cons, hrow]
        rfl
      rw [hstep]
      rcases ih t hkeys.2 with ⟨t', ht', h⟩ | ⟨ht', k, hk, r, hr, hbad⟩
      · refine Or.inl ⟨t', ht', h.payloads, fun k => ?_, fun k hk r hr => ?_⟩
        · rw [h.row k]
          by_cases hk : k = key
          · subst hk
            simp [hrow]
          · simp [hk]
        · rcases List.mem_cons.1 hk with rfl | hk
          · rw [hrow] at hr
            cases hr
          · exact h.ok k hk r hr
      · exact Or.inr ⟨ht', k, List.mem_cons_of_mem _ hk, r, hr, hbad⟩
    | some r₀ =>
      by_cases hok : (f r₀).Ok
      · have hstep : update t (key :: keys) f =
            update { t with deliveries := t.deliveries.insert key (f r₀) } keys f := by
          simp only [Tables.row] at hrow
          simp only [update, List.foldlM_cons, hrow, if_pos hok]
          rfl
        have hother : ∀ k ∈ keys,
            ({ t with deliveries := t.deliveries.insert key (f r₀) } : Tables).row k =
              t.row k := by
          intro k hk
          have hne : k ≠ key := fun heq => hkeys.1 (heq ▸ hk)
          rw [row_insert, if_neg hne]
        rw [hstep]
        rcases ih { t with deliveries := t.deliveries.insert key (f r₀) } hkeys.2 with
          ⟨t', ht', h⟩ | ⟨ht', k, hk, r, hr, hbad⟩
        · refine Or.inl ⟨t', ht', h.payloads, fun k => ?_, fun k hk r hr => ?_⟩
          · rw [h.row k, row_insert]
            by_cases hk : k = key
            · subst hk
              simp [hkeys.1, hrow]
            · simp [hk]
          · rcases List.mem_cons.1 hk with rfl | hk
            · rw [hrow] at hr
              cases hr
              exact hok
            · exact h.ok k hk r (hother k hk ▸ hr)
        · exact Or.inr ⟨ht', k, List.mem_cons_of_mem _ hk, r, hother k hk ▸ hr, hbad⟩
      · refine Or.inr ⟨?_, key, List.mem_cons_self, r₀, hrow, hok⟩
        simp only [Tables.row] at hrow
        simp only [update, List.foldlM_cons, hrow, if_neg hok]
        rfl

variable {r : DeliveryRow} {key : Key}

theorem update_single (t : Tables) (f : DeliveryRow → DeliveryRow) (hr : t.row key = some r) :
    ((f r).Ok ∧ ∃ t', update t [key] f = .ok t' ∧ Updated t t' [key] f) ∨
      (¬ (f r).Ok ∧ update t [key] f = .error .checkViolation) := by
  rcases update_cases t f (List.nodup_singleton key) with ⟨t', ht', h⟩ | ⟨herr, k, hk, r', hr', hbad⟩
  · exact Or.inl ⟨h.ok key List.mem_cons_self r hr, t', ht', h⟩
  · rw [List.mem_singleton] at hk
    subst hk
    rw [hr] at hr'
    cases hr'
    exact Or.inr ⟨hbad, herr⟩

/-! ### Which calls violate a constraint -/

variable {sink : DeliverySink} {m : Moment} {result : Except BufferError (List Delivery)}

theorem DeliveryRow.Ok.lease (h : r.Ok) {now : ℤ} (hr : r.Ready now) (deadline : ℤ) :
    (r.lease deadline).Ok := by
  have hacked : r.ackedAt.isSome = false := by
    rw [← Bool.not_eq_true, ← h.2]
    rcases hr.1 with hs | ⟨hs, -⟩
    · rw [hs]
      decide
    · rw [hs]
      decide
  refine ⟨by simp [DeliveryRow.lease], ?_⟩
  simp [DeliveryRow.lease, hacked]

theorem mem_candidates {ref : String} :
    ref ∈ candidates m t sink ↔
      ref ∉ m.skipped ∧ ∃ r, t.row (ref, sink) = some r ∧ r.Ready m.now := by
  simp only [candidates, List.mem_map, List.mem_filter, decide_eq_true_eq, Tables.row]
  constructor
  · rintro ⟨⟨⟨ref', sink'⟩, r⟩, ⟨hmem, rfl, hready, hskip⟩, rfl⟩
    exact ⟨hskip, r, AList.mem_lookup_iff.2 hmem, hready⟩
  · rintro ⟨hskip, r, hr, hready⟩
    exact ⟨⟨(ref, sink), r⟩, ⟨AList.mem_lookup_iff.1 hr, rfl, hready, hskip⟩, rfl⟩

/-- What a claim with a limit that is taken has done. -/
theorem claim_selects (hs : Sound t) {limit leaseSeconds : ℤ} (hlimit : limitError limit = none)
    (h : claim cfg m t sink limit leaseSeconds = some (result, t')) :
    Selects m t sink limit.toNat ∧ Updated t t' (m.chosen.map fun ref => (ref, sink))
        (·.lease (m.now + seconds leaseSeconds)) ∧
      result = (openAll cfg t' sink (m.chosen.insertionSort (· ≤ ·))).mapError .cipher := by
  rw [claim, hlimit] at h
  dsimp only at h
  split at h
  case isFalse => cases h
  rename_i hselects
  have hnodup : (m.chosen.map fun ref => (ref, sink)).Nodup :=
    hselects.1.map fun a b hab => (Prod.mk.inj hab).1
  rcases update_cases t (·.lease (m.now + seconds leaseSeconds)) hnodup with
    ⟨t₁, ht₁, hup⟩ | ⟨-, key, hkey, r, hr, hbad⟩
  · rw [ht₁] at h
    cases h
    exact ⟨hselects, hup, rfl⟩
  · -- the rows chosen are ready, so they can be leased
    obtain ⟨ref, href, rfl⟩ := List.mem_map.1 hkey
    obtain ⟨-, r', hr', hready⟩ := mem_candidates.1 (hselects.2.1 ref href)
    rw [hr] at hr'
    cases hr'
    exact absurd ((hs _ r hr).lease hready _) hbad

theorem claim_cases (hs : Sound t) {limit leaseSeconds : ℤ}
    (h : claim cfg m t sink limit leaseSeconds = some (result, t')) :
    ((∃ err, limitError limit = some err ∧ result = .error err) ∧ t' = t) ∨
      (Selects m t sink limit.toNat ∧ Updated t t' (m.chosen.map fun ref => (ref, sink))
          (·.lease (m.now + seconds leaseSeconds)) ∧
        result = (openAll cfg t' sink (m.chosen.insertionSort (· ≤ ·))).mapError .cipher) := by
  cases hlimit : limitError limit with
  | some err =>
    rw [claim, hlimit] at h
    cases h
    exact Or.inl ⟨⟨err, rfl, rfl⟩, rfl⟩
  | none => exact Or.inr (claim_selects hs hlimit h)

/-- What is handed out belongs to a row that was claimed. -/
theorem key_of_openAll {refs : List String} {ds : List Delivery}
    (h : openAll cfg t sink refs = .ok ds) {d : Delivery} (hd : d ∈ ds) :
    ∃ ref ∈ refs, d.key = (ref, sink) := by
  induction refs generalizing ds with
  | nil =>
    cases h
    cases hd
  | cons ref refs ih =>
    rw [openAll] at h
    split at h
    · obtain ⟨trace, hopen, h⟩ := Python.bind_eq_ok.1 h
      obtain ⟨rest, hrest, h⟩ := Python.bind_eq_ok.1 h
      cases h
      rcases List.mem_cons.1 hd with rfl | hd
      · exact ⟨ref, List.mem_cons_self, by rw [Delivery.key, traceRef_of_open hopen]⟩
      · obtain ⟨ref', href', hkey⟩ := ih hrest hd
        exact ⟨ref', List.mem_cons_of_mem _ href', hkey⟩
    · obtain ⟨ref', href', hkey⟩ := ih h hd
      exact ⟨ref', List.mem_cons_of_mem _ href', hkey⟩

theorem claim_ne_checkViolation (hs : Sound t) {limit leaseSeconds : ℤ}
    (h : claim cfg m t sink limit leaseSeconds = some (result, t')) :
    result ≠ .error .checkViolation := by
  rcases claim_cases hs h with ⟨⟨err, hlimit, rfl⟩, -⟩ | ⟨-, -, rfl⟩
  · rintro heq
    cases heq
    unfold limitError at hlimit
    split_ifs at hlimit
    · cases hlimit
    · cases hlimit
  · cases openAll cfg t' sink (m.chosen.insertionSort (· ≤ ·)) with
    | error err => simp [Except.mapError]
    | ok ds => simp [Except.mapError]

theorem acknowledge_cases (m : Moment) (t : Tables) (ref : String) (sink : DeliverySink) :
    (t.row (ref, sink) = none ∧ acknowledge m t ref sink = (.error .keyError, t)) ∨
      ∃ r t', t.row (ref, sink) = some r ∧ acknowledge m t ref sink = (.ok (), t') ∧
        Updated t t' [(ref, sink)] (·.acknowledged m.now) := by
  unfold acknowledge
  cases hr : t.deliveries.lookup (ref, sink) with
  | none => exact Or.inl ⟨hr, rfl⟩
  | some r =>
    rcases update_single t (·.acknowledged m.now) hr with ⟨-, t', ht', hup⟩ | ⟨hbad, -⟩
    · exact Or.inr ⟨r, t', hr, by rw [ht'], hup⟩
    · refine absurd ⟨?_, ?_⟩ hbad
      · simp [DeliveryRow.acknowledged]
      · simp [DeliveryRow.acknowledged]

theorem acknowledge_ne_checkViolation (m : Moment) (t : Tables) (ref : String)
    (sink : DeliverySink) : (acknowledge m t ref sink).1 ≠ .error .checkViolation := by
  rcases acknowledge_cases m t ref sink with ⟨-, h⟩ | ⟨_, _, -, h, -⟩
  · rw [h]
    simp
  · rw [h]
    simp

theorem DeliveryRow.retried_ok (h : r.Ok) (now : ℤ) (code : String) :
    (r.retried now code).Ok ↔ r.state ≠ .acked := by
  rw [DeliveryRow.Ok, DeliveryRow.retried]
  simp [h.2]

theorem retry_cases (m : Moment) (t : Tables) (ref : String) (sink : DeliverySink)
    (code : String) (hs : Sound t) :
    (¬ ValidCode code ∧ retry m t ref sink code = (.error .badErrorCode, t)) ∨
      (ValidCode code ∧ t.row (ref, sink) = none ∧ retry m t ref sink code = (.ok (), t)) ∨
      (∃ r, t.row (ref, sink) = some r ∧ 2147483647 ≤ r.attemptCount ∧
        retry m t ref sink code = (.error .integerOutOfRange, t)) ∨
      (ValidCode code ∧ ∃ r, t.row (ref, sink) = some r ∧ r.attemptCount < 2147483647 ∧
        ((r.state = .acked ∧ retry m t ref sink code = (.error .checkViolation, t)) ∨
          (r.state ≠ .acked ∧ ∃ t', retry m t ref sink code = (.ok (), t') ∧
            Updated t t' [(ref, sink)] (·.retried m.now code)))) := by
  unfold retry
  split
  · rename_i hcode
    exact Or.inl ⟨hcode, rfl⟩
  · rename_i hcode
    cases hr : t.deliveries.lookup (ref, sink) with
    | none => exact Or.inr (Or.inl ⟨not_not.1 hcode, hr, rfl⟩)
    | some r =>
      dsimp only
      split
      · rename_i hmax
        exact Or.inr (Or.inr (Or.inl ⟨r, hr, hmax, rfl⟩))
      · rename_i hmax
        refine Or.inr (Or.inr (Or.inr ⟨not_not.1 hcode, r, hr, not_le.1 hmax, ?_⟩))
        have hok := DeliveryRow.retried_ok (hs _ r hr) m.now code
        rcases update_single t (·.retried m.now code) hr with ⟨hgood, t', ht', hup⟩ | ⟨hbad, herr⟩
        · refine Or.inr ⟨hok.1 hgood, t', ?_, hup⟩
          rw [ht']
        · refine Or.inl ⟨?_, ?_⟩
          · by_contra hne
            exact hbad (hok.2 hne)
          · rw [herr]

/-- **A retry violates a constraint exactly on an acknowledged delivery.** -/
theorem retry_checkViolation (hs : Sound t) (m : Moment) (ref : String) (sink : DeliverySink)
    (code : String) : (retry m t ref sink code).1 = .error .checkViolation ↔
      ValidCode code ∧ ∃ r, t.row (ref, sink) = some r ∧ r.attemptCount < 2147483647 ∧
        r.state = .acked := by
  rcases retry_cases m t ref sink code hs with
    ⟨hbad, heq⟩ | ⟨-, hnone, heq⟩ | ⟨r, hr, hmax, heq⟩ | ⟨hcode, r, hr, hmax, h⟩
  · rw [heq]
    exact ⟨fun h => by simp at h, fun h => absurd h.1 hbad⟩
  · rw [heq]
    refine ⟨fun h => by simp at h, ?_⟩
    rintro ⟨-, r, hr, -⟩
    rw [hnone] at hr
    cases hr
  · rw [heq]
    refine ⟨fun h => by simp at h, ?_⟩
    rintro ⟨-, r', hr', hmax', -⟩
    rw [hr] at hr'
    cases hr'
    omega
  · rcases h with ⟨hacked, heq⟩ | ⟨hnot, t', heq, -⟩
    · rw [heq]
      exact ⟨fun _ => ⟨hcode, r, hr, hmax, hacked⟩, fun _ => rfl⟩
    · rw [heq]
      refine ⟨fun h => by simp at h, ?_⟩
      rintro ⟨-, r', hr', -, hacked⟩
      rw [hr] at hr'
      cases hr'
      exact absurd hacked hnot

/-! ### Insertions -/

theorem row_foldl_insert (ref : String) (r : DeliveryRow) (sinks : List DeliverySink)
    (t : Tables) (key : Key) :
    ({ t with deliveries := sinks.foldl (fun ds sink => ds.insert (ref, sink) r) t.deliveries } :
      Tables).row key = if key.1 = ref ∧ key.2 ∈ sinks then some r else t.row key := by
  induction sinks generalizing t with
  | nil => simp [Tables.row]
  | cons sink sinks ih =>
    have := ih { t with deliveries := t.deliveries.insert (ref, sink) r }
    simp only [List.foldl_cons] at this ⊢
    rw [this, row_insert]
    obtain ⟨ref', sink'⟩ := key
    by_cases hr : ref' = ref <;> by_cases hs : sink' = sink <;> simp [hr, hs]

theorem row_inserted (t : Tables) (payloads : AList fun _ : String => PayloadRow) (ref : String)
    (r : DeliveryRow) (key : Key) :
    ({ payloads
       deliveries := DeliverySink.all.foldl (fun ds sink => ds.insert (ref, sink) r)
        t.deliveries } : Tables).row key = if key.1 = ref then some r else t.row key := by
  have := row_foldl_insert ref r DeliverySink.all { t with payloads := payloads } key
  simpa [DeliverySink.mem_all, Tables.row] using this

theorem enqueue_cases (cfg : Config) (m : Moment) (t : Tables) (trace : SanitizedTrace) :
    ((enqueue cfg m t trace).2 = t ∧ (enqueue cfg m t trace).1 ≠ .ok true) ∨
      (t.payloads.lookup trace.traceRef = none ∧ (enqueue cfg m t trace).1 = .ok true ∧
        (∃ row, (enqueue cfg m t trace).2.payloads = t.payloads.insert trace.traceRef row) ∧
        ∀ key, (enqueue cfg m t trace).2.row key = if key.1 = trace.traceRef then
          some { state := .pending, nextAttemptAt := m.now, createdAt := m.now } else t.row key) := by
  unfold enqueue
  split
  · exact Or.inl ⟨rfl, by simp⟩
  · rename_i payload hseal
    split
    · split
      · exact Or.inl ⟨rfl, by simp⟩
      · exact Or.inl ⟨rfl, by simp⟩
    · rename_i hnone
      split
      · exact Or.inl ⟨rfl, by simp⟩
      · dsimp only
        split
        · exact Or.inr ⟨hnone, rfl, ⟨_, rfl⟩, row_inserted t _ trace.traceRef _⟩
        · exact Or.inl ⟨rfl, by simp⟩

theorem enqueue_new {trace : SanitizedTrace} {payload : EncryptedPayload}
    (hseal : cfg.cipher.seal trace m.nonce = .ok payload)
    (hnone : t.payloads.lookup trace.traceRef = none) (hcapacity : ¬cfg.capacity ≤ m.seen)
    (hok : PayloadRow.Ok trace.traceRef ⟨payload, trace.candidateSha⟩) :
    ∃ t', enqueue cfg m t trace = (.ok true, t') ∧
      t'.payloads = t.payloads.insert trace.traceRef ⟨payload, trace.candidateSha⟩ ∧
      ∀ key, t'.row key = if key.1 = trace.traceRef then
        some { state := .pending, nextAttemptAt := m.now, createdAt := m.now } else t.row key := by
  rw [enqueue, hseal]
  simp only [hnone, if_neg hcapacity, if_pos hok]
  exact ⟨_, rfl, rfl, row_inserted t _ trace.traceRef _⟩

/-! ### Deliveries as leases -/

/-- What a row says to a claim. -/
def DeliveryRow.status (r : DeliveryRow) : Leases.Status :=
  match r.state, r.leasedUntil with
  | .acked, _ => .done
  | .leased, some deadline => .leased deadline
  | _, _ => .free

def statusOf (t : Tables) (key : Key) : Leases.Status :=
  match t.row key with
  | some r => r.status
  | none => .free

theorem available_of_ready {now : ℤ} (h : r.Ready now) :
    r.status = .free ∨ ∃ deadline, r.status = .leased deadline ∧ deadline ≤ now := by
  rcases h.1 with hstate | ⟨hstate, deadline, hdeadline, hlt⟩
  · left
    simp [DeliveryRow.status, hstate]
  · right
    rw [Option.mem_def] at hdeadline
    exact ⟨deadline, by simp [DeliveryRow.status, hstate, hdeadline], hlt.le⟩

theorem Updated.statusOf_of_mem (h : Updated t t' keys f) (hkey : key ∈ keys)
    (hr : t.row key = some r) : statusOf t' key = (f r).status := by
  simp [statusOf, h.row key, hkey, hr]

theorem Updated.statusOf_of_not_mem (h : Updated t t' keys f) (hkey : key ∉ keys) :
    statusOf t' key = statusOf t key := by
  simp [statusOf, h.row key, hkey]

theorem Updated.statusOf_single {status : Leases.Status} (h : Updated t t' [key] f)
    (hr : t.row key = some r) (hstatus : (f r).status = status) :
    statusOf t' = Function.update (statusOf t) key status := by
  funext k
  by_cases hk : k = key
  · subst hk
    rw [Function.update_self, h.statusOf_of_mem List.mem_cons_self hr, hstatus]
  · rw [Function.update_of_ne hk, h.statusOf_of_not_mem (by simpa using hk)]

/-! ### Tables with one trace -/

def sampleConfig : Config := ⟨sampleCipher, 10000, by decide⟩

def sampleRef : String := "aaaaaaaaaaaaaaaaaaaaaaaa"

def sampleRow : DeliveryRow := { state := .pending, nextAttemptAt := 0, createdAt := 0 }

def samplePayloadRow : PayloadRow := ⟨samplePayload sampleRef, (sampleTrace sampleRef).candidateSha⟩

/-- The deliveries of the sample trace to the other sinks. -/
def sampleOthers : AList fun _ : Key => DeliveryRow :=
  [DeliverySink.langsmith, .otlp].foldl (fun ds sink => ds.insert (sampleRef, sink) sampleRow) ∅

/-- The tables with the sample trace and a row for its last sink. -/
def sampleTables (row : DeliveryRow) : Tables where
  payloads := AList.singleton sampleRef samplePayloadRow
  deliveries := sampleOthers.insert (sampleRef, .archive) row

variable (row : DeliveryRow)

theorem row_sampleTables : (sampleTables row).deliveries.lookup (sampleRef, .archive) = some row :=
  AList.lookup_insert _

theorem update_sampleTables (f : DeliveryRow → DeliveryRow) (h : (f row).Ok) :
    update (sampleTables row) [(sampleRef, .archive)] f = .ok (sampleTables (f row)) := by
  have hinsert : ({ sampleTables row with
      deliveries := (sampleTables row).deliveries.insert (sampleRef, .archive) (f row) } : Tables) =
        sampleTables (f row) := by
    simp only [sampleTables, AList.insert_insert]
  simp only [update, List.foldlM_cons, row_sampleTables, if_pos h, hinsert]
  rfl

theorem openAll_sampleTables :
    openAll sampleConfig (sampleTables row) .archive [sampleRef] =
      .ok [⟨sampleTrace sampleRef, .archive, row.attemptCount⟩] := by
  have hpayload : (sampleTables row).payloads.lookup sampleRef = some samplePayloadRow :=
    AList.mem_lookup_iff.2 (List.mem_singleton.2 rfl)
  have hopen : sampleConfig.cipher.open sampleRef samplePayloadRow.payload =
      .ok (sampleTrace sampleRef) := open_sample sampleRef
  rw [openAll, hpayload, row_sampleTables]
  simp only [hopen, openAll]
  rfl

theorem claim_sampleTables (now limit leaseSeconds : ℤ) (hlimit : limitError limit = none)
    (hselects : Selects { now, chosen := [sampleRef] } (sampleTables row) .archive limit.toNat)
    (hok : (row.lease (now + seconds leaseSeconds)).Ok) :
    claim sampleConfig { now, chosen := [sampleRef] } (sampleTables row) .archive limit
        leaseSeconds =
      some (.ok [⟨sampleTrace sampleRef, .archive, row.attemptCount⟩],
        sampleTables (row.lease (now + seconds leaseSeconds))) := by
  have hsorted : List.insertionSort (· ≤ ·) [sampleRef] = [sampleRef] := rfl
  have hupdate := update_sampleTables row (·.lease (now + seconds leaseSeconds)) hok
  rw [claim, hlimit]
  simp only [if_pos hselects, List.map_cons, List.map_nil, hupdate]
  rw [hsorted, openAll_sampleTables]
  rfl

theorem acknowledge_sampleTables (m : Moment) (h : (row.acknowledged m.now).Ok) :
    acknowledge m (sampleTables row) sampleRef .archive =
      (.ok (), sampleTables (row.acknowledged m.now)) := by
  have hupdate := update_sampleTables row (·.acknowledged m.now) h
  rw [acknowledge, row_sampleTables]
  simp only [hupdate]

theorem retry_sampleTables (m : Moment) (code : String) (hcode : ValidCode code)
    (hmax : ¬ 2147483647 ≤ row.attemptCount) (h : (row.retried m.now code).Ok) :
    retry m (sampleTables row) sampleRef .archive code =
      (.ok (), sampleTables (row.retried m.now code)) := by
  have hupdate := update_sampleTables row (·.retried m.now code) h
  rw [retry, if_neg (not_not.2 hcode), row_sampleTables]
  simp only [if_neg hmax, hupdate]

theorem enqueue_sampleTables :
    enqueue sampleConfig { now := 0, nonce := sampleNonce } {} (sampleTrace sampleRef) =
      (.ok true, sampleTables sampleRow) := by
  have hseal : sampleConfig.cipher.seal (sampleTrace sampleRef) sampleNonce =
      .ok (samplePayload sampleRef) := seal_sample sampleRef
  have hok : samplePayloadRow.Ok (sampleTrace sampleRef).traceRef := by decide +kernel
  rw [enqueue, hseal]
  simp only [AList.lookup_empty]
  rw [if_neg (by decide)]
  simp only [samplePayloadRow] at hok
  simp only [if_pos hok]
  rfl

end PostgresBuffer
