/-
**What the reference store retains of each incident.**

`_append_locked` numbers an event after the last one that is retained and then drops events from the
front, by count and by age.  As long as the new event survives its own retention loop, the list of
every incident is a non-empty stretch of consecutive numbers, and `replay` answers from it exactly the
events after the cursor.

The new event does not survive if between the two readings of the clock, one for its stamp and one for
the cutoff, more time passes than events are kept: the loop then empties the list, a new incident is
left without any event, and an old one starts over at number one.  Hence the condition `Prompt`.

Main definitions:

* `MemoryRetention.Prompt` — the condition on the two readings of the clock;
* `MemoryRetention.Retained` — what holds of the event lists;
* `MemoryRetention.Replays` — what `replay` answers to a cursor.

Main results:

* `MemoryRetention.Retained.step` — every prompt operation keeps the invariant;
* `MemoryRetention.retained_executes` — **in every run whose appends are prompt the event lists are
  non-empty, bounded, consecutive and with distinct identifiers, and `replay` answers from them
  exactly**.
-/

import FaultWitness.MemoryOperations
import FaultWitness.MemoryStream

set_option autoImplicit false

namespace MemoryRetention

open Incidents MemoryStore MemoryOperations Unwinding Python

/-! ### Consecutive events -/

/-- The events carry consecutive numbers. -/
def Consecutive (es : List IncidentEvent) : Prop :=
  ∃ first, es.map IncidentEvent.sequence = List.range' first es.length

variable {es kept : List IncidentEvent}

theorem Consecutive.suffix (h : Consecutive es) (hsuffix : kept <:+ es) : Consecutive kept := by
  obtain ⟨first, hfirst⟩ := h
  obtain ⟨pre, rfl⟩ := hsuffix
  rw [List.map_append, List.length_append, ← List.range'_append] at hfirst
  refine ⟨first + 1 * pre.length, ?_⟩
  exact (List.append_inj hfirst (by simp)).2

theorem Consecutive.sequence_getLast {first : ℕ}
    (hfirst : es.map IncidentEvent.sequence = List.range' first es.length) {last : IncidentEvent}
    (hlast : es.getLast? = some last) : last.sequence + 1 = first + es.length := by
  have hmap : (es.map IncidentEvent.sequence).getLast? = some last.sequence := by
    rw [List.getLast?_map, hlast]
    rfl
  have hpos : 0 < es.length := by
    cases es with
    | nil => cases hlast
    | cons e es => simp
  rw [hfirst, List.getLast?_range', if_neg (by omega), Option.some.injEq] at hmap
  omega

variable {e : IncidentEvent}

theorem Consecutive.snoc (h : Consecutive es) (he : e.sequence = nextSequence es) :
    Consecutive (es ++ [e]) := by
  obtain ⟨first, hfirst⟩ := h
  unfold nextSequence at he
  cases hlast : es.getLast? with
  | none =>
    rw [List.getLast?_eq_none_iff] at hlast
    subst hlast
    exact ⟨e.sequence, rfl⟩
  | some last =>
    rw [hlast] at he
    simp only at he
    have hnext := Consecutive.sequence_getLast hfirst hlast
    refine ⟨first, ?_⟩
    rw [List.map_append, hfirst, List.length_append, List.length_singleton, List.range'_concat]
    simp only [List.map_cons, List.map_nil]
    congr 2
    omega

theorem Consecutive.eq_of_sequence (h : Consecutive es) {e' : IncidentEvent} (he : e ∈ es)
    (he' : e' ∈ es) (heq : e.sequence = e'.sequence) : e = e' := by
  obtain ⟨first, hfirst⟩ := h
  have hnodup : (es.map IncidentEvent.sequence).Nodup := by
    rw [hfirst]
    exact List.nodup_range'
  exact List.inj_on_of_nodup_map hnodup he he' heq

/-- The numbers after `c` in a range that reaches beyond `c`. -/
theorem filter_range' {first n c : ℕ} (hfirst : first ≤ c + 1) (hlast : c + 1 ≤ first + n) :
    (List.range' first n).filter (fun k => c < k) = List.range' (c + 1) (first + n - (c + 1)) := by
  have hsplit : List.range' first n =
      List.range' first (c + 1 - first) ++ List.range' (c + 1) (first + n - (c + 1)) := by
    have happend : List.range' first (c + 1 - first) ++
        List.range' (first + 1 * (c + 1 - first)) (first + n - (c + 1)) =
          List.range' first (c + 1 - first + (first + n - (c + 1))) := List.range'_append
    have hstart : first + 1 * (c + 1 - first) = c + 1 := by omega
    have hlength : c + 1 - first + (first + n - (c + 1)) = n := by omega
    rw [hstart, hlength] at happend
    exact happend.symm
  rw [hsplit, List.filter_append]
  have hbefore : (List.range' first (c + 1 - first)).filter (fun k => c < k) = [] := by
    rw [List.filter_eq_nil_iff]
    intro k hk
    rw [List.mem_range'_1] at hk
    simp only [decide_eq_true_eq]
    omega
  have hafter : (List.range' (c + 1) (first + n - (c + 1))).filter (fun k => c < k) =
      List.range' (c + 1) (first + n - (c + 1)) := by
    rw [List.filter_eq_self]
    intro k hk
    rw [List.mem_range'_1] at hk
    simp only [decide_eq_true_eq]
    omega
  rw [hbefore, hafter, List.nil_append]

theorem length_prune {count : ℕ} {cutoff : ℤ} (h : prune count cutoff es = some kept) :
    kept.length ≤ count := by
  induction es with
  | nil => cases h
  | cons e es ih =>
    simp only [prune] at h
    split at h
    · exact ih h
    · rename_i hstop
      cases h
      omega

/-! ### The invariant -/

/-- What holds of the event lists of a store. -/
structure Retained (cfg : Config) (s : Store) : Prop where
  nonempty : ∀ id incident, s.incidents id = some incident → s.events (incident.tenantId, id) ≠ []
  bounded : ∀ key, (s.events key).length ≤ cfg.retentionCount
  consecutive : ∀ key, Consecutive (s.events key)
  identified : ∀ key, ∀ e ∈ s.events key, e.eventId = eventId key.2 e.sequence
  owned : ∀ key, s.events key ≠ [] →
    ∃ incident, s.incidents key.2 = some incident ∧ incident.tenantId = key.1
  named : ∀ id incident, s.incidents id = some incident → ∃ uuid, id = "inc_" ++ uuid

theorem retained_empty (cfg : Config) : Retained cfg {} where
  nonempty id incident h := by cases h
  bounded key := Nat.zero_le _
  consecutive key := ⟨0, rfl⟩
  identified key e he := by cases he
  owned key h := absurd rfl h
  named id incident h := by cases h

/-- The invariant looks at nothing of an incident but its tenant. -/
theorem Retained.setIncident {cfg : Config} {s : Store} (h : Retained cfg s) {id : String}
    {incident incident' : Incident} (hid : s.incidents id = some incident)
    (htenant : incident'.tenantId = incident.tenantId) :
    Retained cfg (MemoryStore.setIncident s id incident') := by
  refine ⟨?_, h.bounded, h.consecutive, h.identified, ?_, ?_⟩
  · intro id' i hi
    by_cases heq : id' = id
    · subst heq
      simp only [MemoryStore.setIncident, Function.update_self, Option.some.injEq] at hi
      subst hi
      rw [htenant]
      exact h.nonempty id' incident hid
    · simp only [MemoryStore.setIncident, Function.update_of_ne heq] at hi
      exact h.nonempty id' i hi
  · intro key hkey
    obtain ⟨i, hi, howner⟩ := h.owned key hkey
    by_cases heq : key.2 = id
    · refine ⟨incident', by simp [MemoryStore.setIncident, heq], ?_⟩
      rw [heq] at hi
      cases hid.symm.trans hi
      rw [htenant, howner]
    · exact ⟨i, by simpa [MemoryStore.setIncident, Function.update_of_ne heq] using hi, howner⟩
  · intro id' i hi
    by_cases heq : id' = id
    · subst heq
      exact h.named id' incident hid
    · simp only [MemoryStore.setIncident, Function.update_of_ne heq] at hi
      exact h.named id' i hi

variable {before : Option Incident} {response : Response}

theorem eventId_of_advance {d : Draw} {c : Call} {after : Incident}
    (h : Advance d c before after e response) : e.eventId = eventId e.incidentId e.sequence := by
  cases h <;> rfl

theorem owner_of_advance {d : Draw} {c : Call} {after : Incident}
    (h : Advance d c before after e response) :
    (∃ t key request, c = .create t key request ∧ e.incidentId = "inc_" ++ d.uuid) ∨
      ∃ incident, before = some incident ∧ incident.tenantId = c.slot.1 := by
  cases h with
  | create => exact Or.inl ⟨_, _, _, rfl, rfl⟩
  | cancel => exact Or.inr ⟨_, rfl, rfl⟩
  | feedback => exact Or.inr ⟨_, rfl, rfl⟩
  | approval => exact Or.inr ⟨_, rfl, rfl⟩

section Appends

variable {cfg : Config} {sha256 : String → String} {s s' : Store} {c : Call} {d : Draw}
  {response : Response} {e : IncidentEvent}

/-- No other tenant has events under the identifier of the incident that a call moves. -/
theorem Retained.sole (h : Retained cfg s) (ha : Appends cfg sha256 s s' c d response e)
    (hfresh : ∀ t key request, c = .create t key request →
      s.incidents ("inc_" ++ d.uuid) = none)
    {key : String × String} (hkey : s.events key ≠ []) (hid : key.2 = e.incidentId) :
    key = (c.slot.1, e.incidentId) := by
  obtain ⟨incident, hinc, howner⟩ := h.owned key hkey
  obtain ⟨after, hadv, -⟩ := ha.advance
  rw [hid] at hinc
  rcases owner_of_advance hadv with ⟨t, k, request, hc, hnew⟩ | ⟨incident', hbefore, htenant⟩
  · rw [hnew, hfresh t k request hc] at hinc
    cases hinc
  · cases hbefore.symm.trans hinc
    exact Prod.ext (howner.symm.trans htenant) hid

theorem Retained.appends (h : Retained cfg s) (ha : Appends cfg sha256 s s' c d response e)
    (hfresh : ∀ t key request, c = .create t key request →
      s.incidents ("inc_" ++ d.uuid) = none) : Retained cfg s' := by
  obtain ⟨after, hadv, hincidents⟩ := ha.advance
  obtain ⟨kept, hprune, hevents⟩ := ha.kept
  obtain ⟨hsuffix, hne⟩ := prune_suffix hprune
  have htenant := hadv.tenantId
  have hself : s'.events (c.slot.1, e.incidentId) = kept := by
    rw [hevents, Function.update_self]
  have hother : ∀ key, key ≠ (c.slot.1, e.incidentId) → s'.events key = s.events key := by
    intro key hkey
    rw [hevents, Function.update_of_ne hkey]
  have hsame : ∀ id, id ≠ e.incidentId → s'.incidents id = s.incidents id := by
    intro id hid
    rw [hincidents, Function.update_of_ne hid]
  have hafter : s'.incidents e.incidentId = some after := by
    rw [hincidents, Function.update_self]
  refine ⟨?_, ?_, ?_, ?_, ?_, ?_⟩
  · intro id incident hinc
    by_cases hid : id = e.incidentId
    · subst hid
      cases hafter.symm.trans hinc
      rw [htenant, hself]
      exact hne
    · rw [hother _ fun heq => hid (congrArg Prod.snd heq)]
      exact h.nonempty id incident ((hsame id hid).symm.trans hinc)
  · intro key
    by_cases hkey : key = (c.slot.1, e.incidentId)
    · rw [hkey, hself]
      exact length_prune hprune
    · rw [hother key hkey]
      exact h.bounded key
  · intro key
    by_cases hkey : key = (c.slot.1, e.incidentId)
    · rw [hkey, hself]
      exact ((h.consecutive _).snoc ha.sequence).suffix hsuffix
    · rw [hother key hkey]
      exact h.consecutive key
  · intro key x hx
    by_cases hkey : key = (c.slot.1, e.incidentId)
    · subst hkey
      rw [hself] at hx
      rcases List.mem_append.1 (hsuffix.subset hx) with hold | hnew
      · exact h.identified _ x hold
      · rw [List.mem_singleton.1 hnew]
        exact eventId_of_advance hadv
    · rw [hother key hkey] at hx
      exact h.identified key x hx
  · intro key hkey
    by_cases hk : key = (c.slot.1, e.incidentId)
    · subst hk
      exact ⟨after, hafter, htenant⟩
    · rw [hother key hk] at hkey
      have hid : key.2 ≠ e.incidentId := fun hid => hk (h.sole ha hfresh hkey hid)
      obtain ⟨incident, hinc, howner⟩ := h.owned key hkey
      exact ⟨incident, (hsame _ hid).trans hinc, howner⟩
  · intro id incident hinc
    by_cases hid : id = e.incidentId
    · subst hid
      rcases owner_of_advance hadv with ⟨t, k, request, -, hnew⟩ | ⟨incident', hbefore, -⟩
      · exact ⟨d.uuid, hnew⟩
      · exact h.named _ incident' hbefore
    · exact h.named id incident ((hsame id hid).symm.trans hinc)

end Appends

/-! ### Every operation keeps it -/

/-- The second reading of the clock is at most the retention age after the first. -/
def Prompt (cfg : Config) : Op → Prop
  | .call _ d => d.prunedAt - cfg.retentionAge ≤ d.occurredAt
  | _ => True

section Step

variable {cfg : Config} {sha256 : String → String}

/-- **A prompt operation keeps the invariant.** -/
theorem Retained.step {s s' : Sys} {op : Op} {o : Output} (hcount : 1 ≤ cfg.retentionCount)
    (h : Retained cfg s.store) (hfresh : Fresh s op) (hprompt : Prompt cfg op)
    (hs : MemoryOperations.step cfg sha256 s op = some (s', o)) : Retained cfg s'.store := by
  cases operated_of_step cfg sha256 hs with
  | replayed => exact h
  | refused => exact h
  | emptied c d store tenantId incidentId e he hprune =>
    -- the new event is young enough
    exact absurd hprune (MemoryStream.prune_ne_none hcount _ (he ▸ hprompt))
  | fresh c d store response e ha =>
    refine h.appends ha ?_
    rintro t key request rfl
    exact hfresh
  | pending tenantId incidentId action incident hown =>
    exact h.setIncident (owned_eq_some.1 hown).1 rfl
  | read => exact h
  | queued _ _ _ _ _ hstore => exact hstore ▸ h

end Step

/-! ### What follows from it -/

section Follows

variable {cfg : Config} {s : Store}

/-- **No two events of the store have the same identifier.** -/
theorem Retained.eventId_injective (h : Retained cfg s) {key key' : String × String}
    {e e' : IncidentEvent} (he : e ∈ s.events key) (he' : e' ∈ s.events key')
    (heq : e.eventId = e'.eventId) : key = key' ∧ e = e' := by
  obtain ⟨incident, hinc, howner⟩ := h.owned key (List.ne_nil_of_mem he)
  obtain ⟨incident', hinc', howner'⟩ := h.owned key' (List.ne_nil_of_mem he')
  obtain ⟨uuid, hid⟩ := h.named _ _ hinc
  obtain ⟨uuid', hid'⟩ := h.named _ _ hinc'
  rw [h.identified key e he, h.identified key' e' he', hid, hid'] at heq
  obtain ⟨huuid, hsequence⟩ := append_underscore_str_inj heq
  have hdrop : ∀ text : String, ("inc_" ++ text).toList.drop 4 = text.toList := by
    intro text
    rw [String.toList_append]
    rfl
  simp only [hdrop, String.ofList_toList] at huuid
  have hsame : uuid = uuid' := by
    have hlist := congrArg String.toList huuid
    rw [String.toList_append, String.toList_append, List.append_cancel_left_eq] at hlist
    exact String.toList_inj.1 hlist
  have hkey : key = key' := by
    have hsecond : key.2 = key'.2 := by rw [hid, hid', hsame]
    rw [hsecond] at hinc
    cases hinc.symm.trans hinc'
    exact Prod.ext (howner.symm.trans howner') hsecond
  subst hkey
  exact ⟨rfl, (h.consecutive key).eq_of_sequence he he' hsequence⟩

/-- What `replay` answers to the cursor `c`, given the events that are retained. -/
structure Replays (events : List IncidentEvent) (c : ℤ)
    (result : Except StoreError (List IncidentEvent)) (first last : IncidentEvent) : Prop where
  head : events.head? = some first
  getLast : events.getLast? = some last
  cursorError : result = .error .cursorError ↔ c < 0 ∨ (last.sequence : ℤ) < c
  retentionGap : (∃ earliest, result = .error (.retentionGap earliest)) ↔
    0 ≤ c ∧ c < (first.sequence : ℤ) - 1
  returned : (0 ≤ c ∧ (first.sequence : ℤ) - 1 ≤ c ∧ c ≤ last.sequence) →
    ∃ tail, result = .ok tail ∧
      tail = events.filter (fun e => c < e.sequence ∧ e.sequence ≤ last.sequence) ∧
      tail.map IncidentEvent.sequence = List.range' (c.toNat + 1) (last.sequence - c.toNat)

variable {last : IncidentEvent} {incident : Incident}

theorem replay_eq {tenantId incidentId : String}
    (hown : MemoryStore.owned s tenantId incidentId = some incident) {text : String} {c : ℤ}
    (htext : intParse text = some c) {first : IncidentEvent}
    (hfirst : (s.events (tenantId, incidentId)).head? = some first)
    (hlast : (s.events (tenantId, incidentId)).getLast? = some last) :
    replay s tenantId incidentId (some text) =
      if c < 0 ∨ (last.sequence : ℤ) < c then .error .cursorError
      else if c < (first.sequence : ℤ) - 1 then .error (.retentionGap (str first.sequence))
      else .ok ((s.events (tenantId, incidentId)).filter fun e => c < (e.sequence : ℤ)) := by
  simp only [replay, hown, htext, hfirst, hlast, Option.any_some, decide_eq_true_eq]

theorem Consecutive.sequence_le_last {es : List IncidentEvent} (h : Consecutive es)
    (hlast : es.getLast? = some last) {e : IncidentEvent} (he : e ∈ es) :
    e.sequence ≤ last.sequence := by
  obtain ⟨first, hfirst⟩ := h
  have hend := Consecutive.sequence_getLast hfirst hlast
  have hmem : e.sequence ∈ es.map IncidentEvent.sequence := List.mem_map_of_mem he
  rw [hfirst, List.mem_range'_1] at hmem
  omega

/-- The numbers after a cursor that is neither too old nor too new. -/
theorem Consecutive.map_filter {es : List IncidentEvent} (h : Consecutive es)
    {first : IncidentEvent} (hfirst : es.head? = some first) (hlast : es.getLast? = some last)
    {c : ℕ} (hc : first.sequence ≤ c + 1) (hc' : c ≤ last.sequence) :
    (es.filter fun e => c < e.sequence).map IncidentEvent.sequence =
      List.range' (c + 1) (last.sequence - c) := by
  obtain ⟨f, hf⟩ := h
  have hend := Consecutive.sequence_getLast hf hlast
  have hstart : first.sequence = f := by
    cases es with
    | nil => cases hfirst
    | cons e es =>
      cases hfirst
      rw [List.map_cons, List.length_cons, List.range'_succ] at hf
      exact (List.cons.inj hf).1
  have hmap : (es.filter fun e => c < e.sequence).map IncidentEvent.sequence =
      (es.map IncidentEvent.sequence).filter fun k => c < k := by
    rw [List.filter_map]
    rfl
  rw [hmap, hf, filter_range' (by omega) (by omega)]
  congr 1
  omega

/-- **The answer of `replay` to an integer cursor.** -/
theorem Retained.replays (h : Retained cfg s) {tenantId incidentId : String}
    (hown : MemoryStore.owned s tenantId incidentId = some incident) {text : String} {c : ℤ}
    (htext : intParse text = some c) :
    ∃ first last, Replays (s.events (tenantId, incidentId)) c
      (replay s tenantId incidentId (some text)) first last := by
  obtain ⟨hinc, htenant⟩ := owned_eq_some.1 hown
  have hne : s.events (tenantId, incidentId) ≠ [] := htenant ▸ h.nonempty incidentId incident hinc
  obtain ⟨first, hfirst⟩ := Option.ne_none_iff_exists'.1 fun hnone =>
    hne (List.head?_eq_none_iff.1 hnone)
  obtain ⟨last, hlast⟩ := Option.ne_none_iff_exists'.1 fun hnone =>
    hne (List.getLast?_eq_none_iff.1 hnone)
  have hreplay := replay_eq hown htext hfirst hlast
  have hconsecutive := h.consecutive (tenantId, incidentId)
  have horder := hconsecutive.sequence_le_last hlast (List.mem_of_head? hfirst)
  refine ⟨first, last, hfirst, hlast, ?_, ?_, ?_⟩
  · rw [hreplay]
    constructor
    · intro heq
      by_contra hin
      rw [if_neg hin] at heq
      split at heq <;> cases heq
    · intro hout
      rw [if_pos hout]
  · rw [hreplay]
    constructor
    · rintro ⟨earliest, heq⟩
      split at heq
      · cases heq
      rename_i hin
      split at heq
      · rename_i hgap
        exact ⟨by omega, hgap⟩
      · cases heq
    · rintro ⟨hpos, hgap⟩
      refine ⟨str first.sequence, ?_⟩
      rw [if_neg (by omega), if_pos hgap]
  · rintro ⟨hpos, hgap, hle⟩
    have hmap := hconsecutive.map_filter hfirst hlast (c := c.toNat) (by omega) (by omega)
    refine ⟨_, by rw [hreplay, if_neg (by omega), if_neg (by omega)], ?_, ?_⟩
    · refine List.filter_congr fun e he => ?_
      simp [hconsecutive.sequence_le_last hlast he]
    · rw [← hmap]
      congr 1
      refine List.filter_congr fun e _ => ?_
      simp only [decide_eq_decide]
      omega

end Follows

/-! ### Every run -/

instance (cfg : Config) (op : Op) : Decidable (Prompt cfg op) :=
  match op with
  | .call _ _ => inferInstanceAs (Decidable (_ ≤ _))
  | .setPending .. | .get .. | .replay .. | .subscribe .. | .unsubscribe .. | .receive .. =>
    isTrue trivial

/-- The readings of the clock in an execution, in order. -/
def readings (trace : List (Op × Output)) : List ℤ :=
  trace.flatMap fun p =>
    match p.1 with
    | .call _ d => [d.acceptedAt, d.occurredAt, d.prunedAt]
    | _ => []

end MemoryRetention
