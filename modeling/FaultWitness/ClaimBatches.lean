/-
**Which deliveries a claim takes.**

A claim of either trace buffer goes through the deliveries of a sink that may be claimed, in a fixed
order, and takes the first ones up to its limit: in memory in the order of the references, and at
least one; in PostgreSQL in the order of creation, apart from the rows that others have locked.  It
returns exactly if the payload of each of these can be opened, and then hands out exactly these.

Main definitions:

* `MemoryBuffer.claimable`, `MemoryBuffer.batch` — what a claim in memory goes through and takes;
* `MemoryBuffer.Opens`, `PostgresBuffer.Opens` — the payload of a trace can be opened.

Main results:

* `MemoryBuffer.claim_eq_ok`, `PostgresBuffer.claim_eq_ok` — **when a claim returns**;
* `MemoryBuffer.keys_of_claim`, `PostgresBuffer.keys_of_claim` — **what it then hands out**.
-/

import FaultWitness.DrainWorkers

set_option autoImplicit false

/-! ### The buffer in memory -/

namespace MemoryBuffer

open Traces

/-- The records whose delivery a claim does not pass over, in the order of their references. -/
def claimable (b : Buffer) (sink : DeliverySink) (now : ℤ) :
    List (Sigma fun _ : String => MemoryRecord) :=
  (sortedEntries b).filter fun e => ¬ (e.2.deliveries sink).Busy now

/-- The number of deliveries that a claim with a limit takes at most. -/
def claimSize (limit : ℤ) : ℕ := max 1 limit.toNat

/-- The records whose delivery a claim takes. -/
def batch (b : Buffer) (sink : DeliverySink) (limit now : ℤ) :
    List (Sigma fun _ : String => MemoryRecord) :=
  (claimable b sink now).take (claimSize limit)

/-- The payload under the reference can be opened. -/
def Opens (cfg : Config) (b : Buffer) (ref : String) : Prop :=
  ∃ r trace, b.lookup ref = some r ∧ cfg.cipher.open ref r.payload = .ok trace

variable {cfg : Config} {sink : DeliverySink} {limit now deadline : ℤ} {b : Buffer}
  {e : Sigma fun _ : String => MemoryRecord}

/-- The loop of a claim from a point at which it has not reached its limit. -/
theorem claimLoop_batch (cfg : Config) (sink : DeliverySink) (limit now deadline : ℤ)
    (entries : List (Sigma fun _ : String => MemoryRecord)) (b : Buffer) (before : List Delivery)
    (hbefore : before.length < claimSize limit) :
    let rest := (entries.filter fun e => ¬ (e.2.deliveries sink).Busy now).take
      (claimSize limit - before.length)
    ((∃ e ∈ rest, ∃ cause, cfg.cipher.open e.1 e.2.payload = .error cause) ∧
        ∃ cause, (claimLoop cfg sink limit now deadline entries b before).1 =
          .error (.cipher cause)) ∨
      ((∀ e ∈ rest, ∃ trace, cfg.cipher.open e.1 e.2.payload = .ok trace) ∧
        ∃ ds, (claimLoop cfg sink limit now deadline entries b before).1 = .ok ds ∧
          ds.map Delivery.key = before.map Delivery.key ++ rest.map fun e => (e.1, sink)) := by
  induction entries generalizing b before with
  | nil =>
    right
    simp only [List.filter_nil, List.take_nil]
    exact ⟨fun e he => absurd he List.not_mem_nil, before, rfl, by simp⟩
  | cons e entries ih =>
    obtain ⟨ref, record⟩ := e
    intro rest
    rw [claimLoop]
    by_cases hbusy : (record.deliveries sink).Busy now
    · -- the loop goes on with the next record
      have hrest : rest = (entries.filter fun e => ¬ (e.2.deliveries sink).Busy now).take
          (claimSize limit - before.length) := by
        simp only [rest]
        rw [List.filter_cons_of_neg (by simpa using hbusy)]
      rw [if_pos hbusy, hrest]
      exact ih b before hbefore
    · -- the record is the first of the rest
      obtain ⟨k, hk⟩ : ∃ k, claimSize limit - before.length = k + 1 :=
        ⟨claimSize limit - before.length - 1, by omega⟩
      have hrest : rest = (⟨ref, record⟩ : Sigma fun _ : String => MemoryRecord) ::
          (entries.filter fun e => ¬ (e.2.deliveries sink).Busy now).take k := by
        simp only [rest]
        rw [List.filter_cons_of_pos (by simpa using hbusy), hk, List.take_succ_cons]
      rw [if_neg hbusy, hrest]
      dsimp only
      cases hopen : cfg.cipher.open ref record.payload with
      | error cause =>
        exact Or.inl ⟨⟨_, List.mem_cons_self, cause, hopen⟩, cause, rfl⟩
      | ok trace =>
        dsimp only
        have hkey : Delivery.key ⟨trace, sink, (record.deliveries sink).attemptCount⟩ =
            (ref, sink) := by
          rw [Delivery.key, traceRef_of_open hopen]
        generalize Delivery.mk trace sink (record.deliveries sink).attemptCount = d at hkey ⊢
        by_cases hlimit : limit ≤ ((before ++ [d]).length : ℤ)
        · -- the limit is reached
          have hlast : k = 0 := by
            rw [List.length_append, List.length_singleton] at hlimit
            rw [claimSize] at hk hbefore
            omega
          subst hlast
          rw [if_pos hlimit]
          refine Or.inr ⟨fun e he => ?_, _, rfl, ?_⟩
          · rw [List.take_zero, List.mem_singleton] at he
            subst he
            exact ⟨trace, hopen⟩
          · rw [List.map_append, List.take_zero, List.map_singleton, List.map_singleton, hkey]
        · rw [if_neg hlimit]
          have hmore : (before ++ [d]).length < claimSize limit := by
            rw [List.length_append, List.length_singleton] at hlimit ⊢
            rw [claimSize]
            omega
          have hcount : claimSize limit - (before ++ [d]).length = k := by
            rw [List.length_append, List.length_singleton]
            omega
          have hnext := ih (put b ref record sink ((record.deliveries sink).lease deadline))
            (before ++ [d]) hmore
          rw [hcount] at hnext
          rcases hnext with ⟨⟨e, he, hbad⟩, herr⟩ | ⟨hall, ds, hds, hkeys⟩
          · exact Or.inl ⟨⟨e, List.mem_cons_of_mem _ he, hbad⟩, herr⟩
          · refine Or.inr ⟨fun e he => ?_, ds, hds, ?_⟩
            · rcases List.mem_cons.1 he with rfl | he
              · exact ⟨trace, hopen⟩
              · exact hall e he
            · rw [hkeys, List.map_append, List.map_singleton, hkey, List.append_assoc,
                List.singleton_append, List.map_cons]

theorem claimSize_pos (limit : ℤ) : 0 < claimSize limit := by
  rw [claimSize]
  omega

/-- **A claim in memory returns exactly if it can open the payloads of its batch.** -/
theorem claim_eq_ok (cfg : Config) (b : Buffer) (sink : DeliverySink)
    (limit leaseSeconds now : ℤ) :
    (∃ ds, (claim cfg b sink limit leaseSeconds now).1 = .ok ds) ↔
      ∀ e ∈ batch b sink limit now, ∃ trace, cfg.cipher.open e.1 e.2.payload = .ok trace := by
  rcases claimLoop_batch cfg sink limit now (now + seconds leaseSeconds) (sortedEntries b) b []
      (claimSize_pos limit) with ⟨⟨e, he, cause, hbad⟩, err, herr⟩ | ⟨hall, ds, hds, -⟩
  · refine ⟨fun h => ?_, fun h => ?_⟩
    · obtain ⟨ds, hds⟩ := h
      cases hds.symm.trans herr
    · obtain ⟨trace, hopen⟩ := h e he
      rw [hopen] at hbad
      cases hbad
  · exact ⟨fun _ => hall, fun _ => ⟨ds, hds⟩⟩

/-- **A claim in memory that returns hands out its batch.** -/
theorem keys_of_claim {leaseSeconds : ℤ} {ds : List Delivery}
    (h : (claim cfg b sink limit leaseSeconds now).1 = .ok ds) :
    ds.map Delivery.key = (batch b sink limit now).map fun e => (e.1, sink) := by
  rcases claimLoop_batch cfg sink limit now (now + seconds leaseSeconds) (sortedEntries b) b []
      (claimSize_pos limit) with ⟨-, err, herr⟩ | ⟨-, ds', hds, hkeys⟩
  · cases h.symm.trans herr
  · cases h.symm.trans hds
    exact hkeys

theorem mem_claimable :
    e ∈ claimable b sink now ↔
      b.lookup e.1 = some e.2 ∧ ¬ (e.2.deliveries sink).Busy now := by
  rw [claimable, List.mem_filter, (perm_sortedEntries b).mem_iff, ← Option.mem_def,
    AList.mem_lookup_iff]
  simp

/-- A batch that does not leave anything out has all deliveries that may be claimed. -/
theorem mem_batch_of_length_le (h : (claimable b sink now).length ≤ claimSize limit)
    (he : e ∈ claimable b sink now) : e ∈ batch b sink limit now := by
  rw [batch, List.take_of_length_le h]
  exact he

end MemoryBuffer

/-! ### The buffer in PostgreSQL -/

namespace PostgresBuffer

open Traces

/-- The payload under the reference can be opened. -/
def Opens (cfg : Config) (t : Tables) (ref : String) : Prop :=
  ∃ row trace, t.payloads.lookup ref = some row ∧ cfg.cipher.open ref row.payload = .ok trace

variable {cfg : Config} {sink : DeliverySink} {t t' : Tables}
  {result : Except BufferError (List Delivery)} {leaseSeconds : ℤ} {m : Moment}

theorem openAll_cases (cfg : Config) (refs : List String)
    (hpayloads : ∀ ref ∈ refs, t.payloads.lookup ref ≠ none)
    (hrows : ∀ ref ∈ refs, t.row (ref, sink) ≠ none) :
    ((∃ ref ∈ refs, ¬ Opens cfg t ref) ∧ ∃ cause, openAll cfg t sink refs = .error cause) ∨
      ((∀ ref ∈ refs, Opens cfg t ref) ∧ ∃ ds, openAll cfg t sink refs = .ok ds ∧
        ds.map Delivery.key = refs.map fun ref => (ref, sink)) := by
  induction refs with
  | nil => exact Or.inr ⟨fun ref h => absurd h List.not_mem_nil, [], rfl, rfl⟩
  | cons ref refs ih =>
    obtain ⟨row, hrow⟩ := Option.ne_none_iff_exists'.1 (hpayloads ref List.mem_cons_self)
    obtain ⟨r, hr⟩ := Option.ne_none_iff_exists'.1 (hrows ref List.mem_cons_self)
    have hr' : t.deliveries.lookup (ref, sink) = some r := hr
    rw [openAll, hrow, hr']
    dsimp only
    cases hopen : cfg.cipher.open ref row.payload with
    | error cause =>
      refine Or.inl ⟨⟨ref, List.mem_cons_self, ?_⟩, cause, rfl⟩
      rintro ⟨row', trace, hrow', hopen'⟩
      rw [hrow] at hrow'
      cases hrow'
      rw [hopen] at hopen'
      cases hopen'
    | ok trace =>
      have hopens : Opens cfg t ref := ⟨row, trace, hrow, hopen⟩
      rcases ih (fun r hr => hpayloads r (List.mem_cons_of_mem _ hr))
          (fun r hr => hrows r (List.mem_cons_of_mem _ hr)) with
        ⟨⟨bad, hbad, hnot⟩, cause, herr⟩ | ⟨hall, ds, hds, hkeys⟩
      · rw [herr]
        exact Or.inl ⟨⟨bad, List.mem_cons_of_mem _ hbad, hnot⟩, cause, rfl⟩
      · rw [hds]
        refine Or.inr ⟨fun ref' href' => ?_, _, rfl, ?_⟩
        · rcases List.mem_cons.1 href' with rfl | href'
          · exact hopens
          · exact hall ref' href'
        · rw [List.map_cons, List.map_cons, hkeys, Delivery.key, traceRef_of_open hopen]

theorem claim_openAll (hs : Sound t) (hl : Linked t) {limit : ℤ}
    (h : claim cfg m t sink limit leaseSeconds = some (result, t')) :
    (∃ err, limitError limit = some err ∧ result = .error err) ∨
      (limitError limit = none ∧ Selects m t sink limit.toNat ∧
        (((∃ ref ∈ m.chosen, ¬ Opens cfg t ref) ∧ ∃ cause, result = .error (.cipher cause)) ∨
          ((∀ ref ∈ m.chosen, Opens cfg t ref) ∧ ∃ ds, result = .ok ds ∧
            (ds.map Delivery.key).Perm (m.chosen.map fun ref => (ref, sink))))) := by
  cases hlimit : limitError limit with
  | some err =>
    rw [claim, hlimit] at h
    cases h
    exact Or.inl ⟨err, rfl, rfl⟩
  | none =>
    right
    obtain ⟨hselects, hup, rfl⟩ := claim_selects hs hlimit h
    refine ⟨rfl, hselects, ?_⟩
    have hperm := List.perm_insertionSort (fun a b : String => a ≤ b) m.chosen
    have hrows : ∀ ref ∈ m.chosen, ∃ r, t.row (ref, sink) = some r := by
      intro ref href
      obtain ⟨-, r, hr, -⟩ := mem_candidates.1 (hselects.2.1 ref href)
      exact ⟨r, hr⟩
    have hsame : ∀ ref, Opens cfg t' ref ↔ Opens cfg t ref := by
      intro ref
      rw [Opens, Opens, hup.payloads]
    have hpayloads : ∀ ref ∈ m.chosen.insertionSort (· ≤ ·), t'.payloads.lookup ref ≠ none := by
      intro ref href
      obtain ⟨r, hr⟩ := hrows ref (hperm.mem_iff.1 href)
      rw [hup.payloads]
      exact hl _ r hr
    have hleased : ∀ ref ∈ m.chosen.insertionSort (· ≤ ·), t'.row (ref, sink) ≠ none := by
      intro ref href
      obtain ⟨r, hr⟩ := hrows ref (hperm.mem_iff.1 href)
      rw [hup.row, hr]
      split
      · simp
      · simp
    rcases openAll_cases cfg _ hpayloads hleased with
      ⟨⟨ref, href, hbad⟩, cause, herr⟩ | ⟨hall, ds, hds, hkeys⟩
    · left
      rw [herr]
      exact ⟨⟨ref, hperm.mem_iff.1 href, fun h => hbad ((hsame ref).2 h)⟩, cause, rfl⟩
    · right
      rw [hds]
      refine ⟨fun ref href => (hsame ref).1 (hall ref (hperm.mem_iff.2 href)), ds, rfl, ?_⟩
      rw [hkeys]
      exact hperm.map _

/-- **A claim in PostgreSQL returns exactly if its limit is taken and it can open the payloads of the
rows it chooses.** -/
theorem claim_eq_ok (hs : Sound t) (hl : Linked t) {limit : ℤ}
    (h : claim cfg m t sink limit leaseSeconds = some (result, t')) :
    (∃ ds, result = .ok ds) ↔
      (0 ≤ limit ∧ limit < 9223372036854775808) ∧ ∀ ref ∈ m.chosen, Opens cfg t ref := by
  rw [← limitError_eq_none]
  rcases claim_openAll hs hl h with
    ⟨err, hlimit, rfl⟩ | ⟨hlimit, -, ⟨⟨ref, href, hbad⟩, cause, rfl⟩ | ⟨hall, ds, rfl, -⟩⟩
  · refine ⟨fun hds => ?_, fun hcond => ?_⟩
    · obtain ⟨ds, hds⟩ := hds
      cases hds
    · rw [hlimit] at hcond
      cases hcond.1
  · refine ⟨fun hds => ?_, fun hcond => absurd (hcond.2 ref href) hbad⟩
    obtain ⟨ds, hds⟩ := hds
    cases hds
  · exact ⟨fun _ => ⟨hlimit, hall⟩, fun _ => ⟨ds, rfl⟩⟩

/-- **A claim in PostgreSQL that returns hands out the rows it chooses.** -/
theorem keys_of_claim (hs : Sound t) (hl : Linked t) {limit : ℤ} {ds : List Delivery}
    (h : claim cfg m t sink limit leaseSeconds = some (.ok ds, t')) :
    (ds.map Delivery.key).Perm (m.chosen.map fun ref => (ref, sink)) := by
  rcases claim_openAll hs hl h with ⟨_, -, h⟩ | ⟨-, -, ⟨-, cause, h⟩ | ⟨-, ds', h, hperm⟩⟩
  · cases h
  · cases h
  · cases h
    exact hperm

end PostgresBuffer
