/-
**The durable store against its reference: the relation.**

`MemoryIncidentStore` calls itself the reference whose semantics production adapters preserve.  Both
stores are made to serve the same operations, one after the other, with the same fresh identifiers
and the same clock.

The answers do differ: the reference does not advance the cursor of a snapshot with feedback, it
puts the user into the payload of a feedback event, it forgets events beyond its retention, it reads
an empty cursor as an error and looks for the incident before it reads the cursor; PostgreSQL stores
no text with the character U+0000.  `Agrees` lists all this as a condition on the next operation and
the state of the reference.  The two states are related by `Rel`, which says nothing about these
points and everything about the rest.

Main definitions:

* `StoreRefinement.Op`, `StoreRefinement.serve`, `StoreRefinement.serveDurable` — the operations and
  what each store answers;
* `StoreRefinement.Agrees` — the condition;
* `StoreRefinement.Rel` — the simulation relation.

Main results:

* `StoreRefinement.Rel.appends` — a call that both stores serve afresh is answered alike and leaves
  them related.
-/

import FaultWitness.MemoryStore
import FaultWitness.PostgresInvariants

set_option autoImplicit false

namespace StoreRefinement

open Incidents Python ReadCommitted

/-! ### Operations and answers -/

inductive Op
  | call (c : Call) (d : Draw)
  | get (tenantId incidentId : String)
  | replay (tenantId incidentId : String) (lastEventId : Option String)
deriving DecidableEq

/-- The identifier an operation draws, where it draws one. -/
def Op.drawn : Op → Option String
  | .call (.create ..) d => some d.uuid
  | .call (.feedback ..) d => some d.uuid
  | _ => none

/-- What a caller sees.  Of an exception it is the class; a creation also tells whether it was
served afresh. -/
inductive Output
  | response (r : Response) (created : Option Bool)
  | snapshot (s : IncidentSnapshot)
  | events (es : List IncidentEvent)
  | raised (e : StoreError)
  | uniqueViolation
deriving DecidableEq

/-- The class of an exception. -/
def classOf : StoreError → StoreError
  | .retentionGap _ => .retentionGap ""
  | e => e

def created (c : Call) (reply : Reply) : Option Bool :=
  if c.slot.2.1 = .create then some reply.isFresh else none

def ofReply (c : Call) : Except StoreError Reply → Output
  | .ok reply => .response reply.response (created c reply)
  | .error e => .raised (classOf e)

def ofOutcome (c : Call) : Outcome PostgresStore.Answer StoreError → Output
  | .committed (.reply reply) => .response reply.response (created c reply)
  | .committed .registered => .uniqueViolation
  | .raised e => .raised (classOf e)
  | .uniqueViolation => .uniqueViolation
  | .aborted => .uniqueViolation

def ofGet : Except StoreError IncidentSnapshot → Output
  | .ok s => .snapshot s
  | .error e => .raised (classOf e)

def ofReplay : Except StoreError (List IncidentEvent) → Output
  | .ok es => .events es
  | .error e => .raised (classOf e)

variable (cfg : MemoryStore.Config) (sha256 : String → String)

/-- The reference serves an operation. -/
def serve (m : MemoryStore.Store) : Op → MemoryStore.Store × Output
  | .call c d =>
    let r := MemoryStore.perform cfg sha256 m c d
    (r.1, ofReply c r.2)
  | .get tenantId incidentId => (m, ofGet (MemoryStore.get m tenantId incidentId))
  | .replay tenantId incidentId last => (m, ofReplay (MemoryStore.replay m tenantId incidentId last))

/-- The durable store serves an operation, with nothing else going on. -/
def serveDurable (t : PostgresStore.Tables) : Op → PostgresStore.Tables × Output
  | .call c d =>
    let r := transact (PostgresStore.body sha256 (.call c d)) t
    (r.2, ofOutcome c r.1)
  | .get tenantId incidentId => (t, ofGet (PostgresStore.get t tenantId incidentId))
  | .replay tenantId incidentId last =>
    (t, ofReplay (PostgresStore.replay t tenantId incidentId last))

/-- Two runs answer alike at every step. -/
def Agree : MemoryStore.Store → PostgresStore.Tables → List Op → Prop
  | _, _, [] => True
  | m, t, op :: ops =>
    (serve cfg sha256 m op).2 = (serveDurable sha256 t op).2 ∧
      Agree (serve cfg sha256 m op).1 (serveDurable sha256 t op).1 ops

/-! ### The condition -/

/-- Why the reference refuses a call that is not recorded, given that nothing is pending. -/
def refusal (m : MemoryStore.Store) : Call → Option StoreError
  | .create .. => none
  | .cancel tenantId incidentId _ version =>
    match MemoryStore.owned m tenantId incidentId with
    | none => some .incidentNotFound
    | some incident =>
      if incident.snapshot.stateVersion ≠ version ∨ incident.snapshot.state.terminal then
        some .stateConflict
      else none
  | .feedback tenantId _ incidentId _ request =>
    match MemoryStore.owned m tenantId incidentId with
    | none => some .incidentNotFound
    | some incident =>
      if incident.snapshot.stateVersion ≠ request.expectedStateVersion then some .stateConflict
      else none
  | .approval tenantId incidentId _ request =>
    match MemoryStore.owned m tenantId incidentId with
    | none => some .incidentNotFound
    | some incident =>
      if incident.snapshot.stateVersion ≠ request.expectedStateVersion then some .stateConflict
      else some .approvalConflict

/-- The texts of a call that is not recorded can be stored, as far as it gets. -/
def sendable (m : MemoryStore.Store) : Call → Bool
  | .create _ _ request => request.document.nulFree
  | .cancel _ incidentId _ _ => storable incidentId
  | .feedback tenantId userId incidentId _ request =>
    storable incidentId &&
      match MemoryStore.owned m tenantId incidentId with
      | some incident =>
        decide (incident.snapshot.stateVersion ≠ request.expectedStateVersion) ||
          (userId :: request.comment.toList).all storable
      | none => true
  | .approval tenantId incidentId _ request =>
    storable incidentId &&
      match MemoryStore.owned m tenantId incidentId with
      | some incident =>
        decide (incident.snapshot.stateVersion ≠ request.expectedStateVersion) ||
          storable request.actionId
      | none => true

/-- The incident a call appends to. -/
def subject (d : Draw) : Call → String × String
  | .create tenantId _ _ => (tenantId, "inc_" ++ d.uuid)
  | .cancel tenantId incidentId _ _ => (tenantId, incidentId)
  | .feedback tenantId _ incidentId _ _ => (tenantId, incidentId)
  | .approval tenantId incidentId _ _ => (tenantId, incidentId)

/-- The retention of the reference does not drop the event it is about to append. -/
def keeps (events : List IncidentEvent) (d : Draw) : Bool :=
  (MemoryStore.prune cfg.retentionCount (d.prunedAt - cfg.retentionAge)
    (events ++ [event "" 0 .created [] d])).isSome

/-- The condition under which the two stores answer an operation alike. -/
def Agrees (m : MemoryStore.Store) : Op → Prop
  | .call c d =>
    (storable c.slot.1 && storable c.slot.2.2) = true ∧
      (m.idempotency c.slot = none →
        sendable m c = true ∧ (refusal m c = none → keeps cfg (m.events (subject d c)) d = true))
  | .get tenantId incidentId =>
    (storable tenantId && storable incidentId) = true ∧
      ∀ e ∈ (m.events (tenantId, incidentId)).getLast?, e.eventType ≠ .feedbackRecorded
  | .replay tenantId incidentId last =>
    match MemoryStore.owned m tenantId incidentId with
    | none =>
      (storable tenantId && storable incidentId) = true ∧ ∃ c, PostgresStore.cursor last = .ok c
    | some _ =>
      last ≠ some "" ∧ ∀ c, PostgresStore.cursor last = .ok c →
        (∀ e ∈ (m.events (tenantId, incidentId)).getLast?, c ≤ e.sequence) →
        (∀ e ∈ (m.events (tenantId, incidentId)).head?, e.sequence ≤ c + 1) ∧
          ∀ e ∈ m.events (tenantId, incidentId), c < e.sequence →
            e.eventType ≠ .feedbackRecorded

/-- Every operation of a run meets the condition in the state in which the reference serves it. -/
def Meets : MemoryStore.Store → List Op → Prop
  | _, [] => True
  | m, op :: ops => Agrees cfg m op ∧ Meets (serve cfg sha256 m op).1 ops

/-! ### The relation -/

/-- The event as the durable store has it: without the user of a feedback event. -/
def strip (e : IncidentEvent) : IncidentEvent :=
  if e.eventType = .feedbackRecorded then { e with payload := e.payload.take 2 } else e

variable {cfg sha256}

/-- An incident of the reference and its row. -/
structure Same (events : List IncidentEvent) (tenantId incidentId : String)
    (incident : MemoryStore.Incident) (row : PostgresStore.IncidentRow) : Prop where
  named : incident.snapshot.incidentId = incidentId
  state : incident.snapshot.state = row.state
  stateVersion : incident.snapshot.stateVersion = row.stateVersion
  unreported : incident.snapshot.finalReportRef = none ∧ row.finalReportRef = none
  unpending : incident.pendingAction = none
  texts : (storable tenantId && storable incidentId) = true
  nonempty : events ≠ []
  /-- The snapshot keeps the cursor of the last event that was not feedback. -/
  cursor : ∃ k, incident.snapshot.eventCursor = str k ∧ k ≤ row.eventCursor ∧
    (k = row.eventCursor ↔ ∀ e ∈ events.getLast?, e.eventType ≠ .feedbackRecorded)

/-- The two stores agree up to what `Agrees` speaks about; `used` lists the identifiers drawn so
far. -/
structure Rel (used : List String) (m : MemoryStore.Store) (t : PostgresStore.Tables) : Prop where
  wellFormed : PostgresStore.WellFormed t
  present : ∀ tenantId incidentId incident,
    MemoryStore.owned m tenantId incidentId = some incident →
      ∃ row : PostgresStore.IncidentRow, t.lookup (.incident tenantId incidentId) = some row ∧
        Same (m.events (tenantId, incidentId)) tenantId incidentId incident row
  absent : ∀ tenantId incidentId, MemoryStore.owned m tenantId incidentId = none →
    t.lookup (.incident tenantId incidentId) = none ∧ m.events (tenantId, incidentId) = []
  records : ∀ slot, m.idempotency slot =
    (t.lookup (.idempotency slot) : Option PostgresStore.IdempotencyRow).map
      fun row => (row.requestDigest, row.response)
  /-- The reference keeps the end of the log. -/
  window : ∀ tenantId incidentId, (m.events (tenantId, incidentId)).map strip <:+
    PostgresStore.projection t tenantId incidentId
  marked : ∀ key, ∀ e ∈ m.events key, strip e = e ↔ e.eventType ≠ .feedbackRecorded
  unpending : ∀ tenantId incidentId actionId,
    t.lookup (.pending tenantId incidentId actionId) = none
  named : ∀ x, t.lookup (.eventId x) ≠ none → ∃ tenantId incidentId n,
    t.lookup (.event tenantId incidentId n) ≠ none ∧ x = eventId incidentId n
  drawn : ∀ incidentId, m.incidents incidentId ≠ none → ∃ u ∈ used, incidentId = "inc_" ++ u
  feedbacks : ∀ u, t.lookup (.feedback ("feedback_" ++ u)) ≠ none → u ∈ used

theorem rel_initial : Rel [] {} ∅ where
  wellFormed := PostgresStore.wellFormed_empty
  present tenantId incidentId incident h := by simp [MemoryStore.owned] at h
  absent tenantId incidentId _ := ⟨by simp, rfl⟩
  records slot := by simp
  window tenantId incidentId := by simp
  marked key e he := by simp at he
  unpending tenantId incidentId actionId := by simp
  named x hx := by simp at hx
  drawn incidentId h := by simp at h
  feedbacks u h := by simp at h

/-! ### Texts -/

theorem storable_append {a b : String} (ha : storable a = true) (hb : storable b = true) :
    storable (a ++ b) = true := by
  simp only [storable, String.toList_append, List.contains_eq_mem, List.mem_append, Bool.not_eq_true',
    decide_eq_false_iff_not, not_or] at ha hb ⊢
  exact ⟨ha, hb⟩

theorem storable_str (n : ℕ) : storable (str n) = true := by
  simp only [storable, toList_str, List.contains_eq_mem, Bool.not_eq_true', decide_eq_false_iff_not]
  intro h
  exact absurd (Nat.isDigit_of_mem_toDigits (by decide) (by decide) h) (by decide)

theorem storable_eventId {incidentId : String} (h : storable incidentId = true) (n : ℕ) :
    storable (eventId incidentId n) = true := by
  have hdrop : storable (String.ofList (incidentId.toList.drop 4)) = true := by
    simp only [storable, String.toList_ofList, List.contains_eq_mem, Bool.not_eq_true',
      decide_eq_false_iff_not] at h ⊢
    exact fun hmem => h (List.mem_of_mem_drop hmem)
  exact storable_append (storable_append (storable_append (by decide) hdrop) (by decide))
    (storable_str n)

theorem eventId_inj {u u' : String} {n n' : ℕ}
    (h : eventId ("inc_" ++ u) n = eventId ("inc_" ++ u') n') : u = u' ∧ n = n' := by
  obtain ⟨h, hn⟩ := append_underscore_str_inj h
  refine ⟨?_, hn⟩
  have hl := congrArg String.toList h
  simp only [String.toList_append, String.toList_ofList, List.append_cancel_left_eq] at hl
  exact String.toList_inj.1 hl

theorem prune_isSome_congr {count : ℕ} {cutoff : ℤ} {es fs : List IncidentEvent}
    (h : es.map IncidentEvent.occurredAt = fs.map IncidentEvent.occurredAt) :
    (MemoryStore.prune count cutoff es).isSome = (MemoryStore.prune count cutoff fs).isSome := by
  induction es generalizing fs with
  | nil =>
    cases fs with
    | nil => rfl
    | cons f fs => simp at h
  | cons e es ih =>
    cases fs with
    | nil => simp at h
    | cons f fs =>
      simp only [List.map_cons, List.cons.injEq] at h
      have hlen : es.length = fs.length := by simpa using congrArg List.length h.2
      simp only [MemoryStore.prune, List.length_cons, h.1, hlen]
      split
      · exact ih h.2
      · rfl

theorem prune_isSome (events : List IncidentEvent) (d : Draw) {e : IncidentEvent}
    (he : e.occurredAt = d.occurredAt) :
    (MemoryStore.prune cfg.retentionCount (d.prunedAt - cfg.retentionAge) (events ++ [e])).isSome =
      keeps cfg events d :=
  prune_isSome_congr (by simp [he, event])

/-! ### Identifiers that are not in use -/

section Names

variable {used : List String} {m : MemoryStore.Store} {t : PostgresStore.Tables} {u : String}
  {row : PostgresStore.IncidentRow}

/-- An event identifier in use belongs to an event of an incident of the reference. -/
theorem Rel.owned_of_named (h : Rel used m t) {x : String} (hx : t.lookup (.eventId x) ≠ none) :
    ∃ tenantId u n incident, u ∈ used ∧
      MemoryStore.owned m tenantId ("inc_" ++ u) = some incident ∧
      t.lookup (.event tenantId ("inc_" ++ u) n) ≠ none ∧ x = eventId ("inc_" ++ u) n := by
  obtain ⟨tenantId, incidentId, n, he, rfl⟩ := h.named x hx
  cases hown : MemoryStore.owned m tenantId incidentId with
  | none => exact absurd (h.wellFormed.absent _ _ (h.absent _ _ hown).1 n) he
  | some incident =>
    obtain ⟨u, hu, rfl⟩ := h.drawn incidentId (by simp [(MemoryStore.owned_eq_some.1 hown).1])
    exact ⟨tenantId, u, n, incident, hu, hown, he, rfl⟩

theorem Rel.unnamed_new (h : Rel used m t) (hu : u ∉ used) (n : ℕ) :
    t.lookup (.eventId (eventId ("inc_" ++ u) n)) = none := by
  by_contra hx
  obtain ⟨tenantId, u', n', incident, hu', -, -, heq⟩ := h.owned_of_named hx
  rw [(eventId_inj heq).1] at hu
  exact hu hu'

theorem Rel.unnumbered (h : Rel used m t) {tenantId incidentId : String}
    (hrow : t.lookup (.incident tenantId incidentId) = some row) :
    t.lookup (.event tenantId incidentId (row.eventCursor + 1)) = none := by
  have hc := h.wellFormed.contiguous hrow (row.eventCursor + 1)
  simp only [PostgresStore.rowCursor] at hc
  cases he : t.lookup (.event tenantId incidentId (row.eventCursor + 1)) with
  | none => rfl
  | some e =>
    have := hc.1 (by rw [he]; rfl)
    omega

theorem Rel.unnamed_next (h : Rel used m t) {tenantId incidentId : String}
    {incident : MemoryStore.Incident}
    (hown : MemoryStore.owned m tenantId incidentId = some incident)
    (hrow : t.lookup (.incident tenantId incidentId) = some row) :
    t.lookup (.eventId (eventId incidentId (row.eventCursor + 1))) = none := by
  by_contra hx
  obtain ⟨hi, rfl⟩ := MemoryStore.owned_eq_some.1 hown
  obtain ⟨u, -, rfl⟩ := h.drawn incidentId (by simp [hi])
  obtain ⟨tenantId', u', n', incident', -, hown', he, heq⟩ := h.owned_of_named hx
  obtain ⟨rfl, rfl⟩ := eventId_inj heq
  -- an incident has one tenant, so this is the next event of the incident itself
  obtain ⟨hi', rfl⟩ := MemoryStore.owned_eq_some.1 hown'
  rw [hi, Option.some.injEq] at hi'
  subst hi'
  exact he (h.unnumbered hrow)

theorem Rel.unowned_new (h : Rel used m t) (hu : u ∉ used) : m.incidents ("inc_" ++ u) = none := by
  by_contra hi
  obtain ⟨u', hu', heq⟩ := h.drawn _ hi
  rw [String.append_right_inj] at heq
  exact hu (heq ▸ hu')

theorem Rel.unused_feedback (h : Rel used m t) (hu : u ∉ used) :
    t.lookup (.feedback ("feedback_" ++ u)) = none := by
  by_contra hf
  exact hu (h.feedbacks u hf)

end Names

/-! ### Appending on both sides -/

section Appends

variable {used : List String} {m m' : MemoryStore.Store} {t t' : PostgresStore.Tables} {d : Draw}
  {c : Call} {response response' : Response} {e e' : IncidentEvent}
  {before : Option MemoryStore.Incident} {after : MemoryStore.Incident}
  {rowBefore : Option PostgresStore.IncidentRow} {rowAfter : PostgresStore.IncidentRow}

@[simp] theorem strip_sequence (e : IncidentEvent) : (strip e).sequence = e.sequence := by
  unfold strip
  split <;> rfl

theorem Rel.getElem? (h : Rel used m t) (tenantId incidentId : String) (i : ℕ) :
    (PostgresStore.projection t tenantId incidentId)[i]? =
      t.lookup (.event tenantId incidentId (i + 1)) :=
  (h.wellFormed.contiguous rfl).getElem? i

theorem Rel.getLast? (h : Rel used m t) {tenantId incidentId : String} {row : PostgresStore.IncidentRow}
    (hrow : t.lookup (.incident tenantId incidentId) = some row) {x : IncidentEvent}
    (hx : (m.events (tenantId, incidentId)).getLast? = some x) : x.sequence = row.eventCursor := by
  have hlen := (h.wellFormed.contiguous hrow).length
  simp only [PostgresStore.rowCursor] at hlen
  obtain ⟨pre, hpre⟩ := h.window tenantId incidentId
  have hlast : (PostgresStore.projection t tenantId incidentId).getLast? = some (strip x) := by
    rw [← hpre, List.getLast?_append, List.getLast?_map, hx]
    rfl
  rw [List.getLast?_eq_getElem?, hlen] at hlast
  have hpos : row.eventCursor ≠ 0 := by
    intro h0
    rw [h0] at hlen
    rw [List.length_eq_zero_iff.1 hlen] at hlast
    simp at hlast
  rw [h.getElem?, show row.eventCursor - 1 + 1 = row.eventCursor by omega] at hlast
  have := (h.wellFormed.labelled hlast).2
  rwa [strip_sequence] at this

theorem Rel.nextSequence (h : Rel used m t) (tenantId incidentId : String) :
    MemoryStore.nextSequence (m.events (tenantId, incidentId)) =
      PostgresStore.rowCursor (t.lookup (.incident tenantId incidentId)) + 1 := by
  cases hown : MemoryStore.owned m tenantId incidentId with
  | none =>
    obtain ⟨hrow, hev⟩ := h.absent _ _ hown
    rw [hrow, hev]
    rfl
  | some incident =>
    obtain ⟨row, hrow, hsame⟩ := h.present _ _ _ hown
    rw [hrow]
    have hlast := List.getLast?_eq_some_getLast hsame.nonempty
    unfold MemoryStore.nextSequence
    rw [hlast]
    simp only [PostgresStore.rowCursor, h.getLast? hrow hlast]

/-- What a call does to an incident and to its row, side by side. -/
theorem advance_same (hm : MemoryStore.Advance d c before after e response)
    (ht : PostgresStore.Advance d c rowBefore rowAfter e' response')
    (hseq : e.sequence = e'.sequence) (events kept : List IncidentEvent)
    (hsame : ∀ incident, before = some incident → c.slot.2.1 ≠ .create →
      ∃ row, rowBefore = some row ∧ Same events c.slot.1 e.incidentId incident row)
    (htexts : c.slot.2.1 = .create → (storable c.slot.1 && storable e.incidentId) = true)
    (hkept : kept.getLast? = some e) :
    response = response' ∧ strip e = e' ∧ (strip e = e ↔ e.eventType ≠ .feedbackRecorded) ∧
      Same kept c.slot.1 e.incidentId after rowAfter := by
  have hne : kept ≠ [] := by
    rintro rfl
    simp at hkept
  cases hm with
  | create =>
    cases ht
    simp only [event_sequence] at hseq
    subst hseq
    refine ⟨rfl, rfl, by simp [strip], rfl, rfl, rfl, ⟨rfl, rfl⟩, rfl, htexts rfl, hne, 1, rfl, le_rfl, ?_⟩
    simp [hkept]
  | cancel hv hterm =>
    obtain ⟨row, rfl, hs⟩ := hsame _ rfl (by simp [Call.slot])
    cases ht
    simp only [event_sequence] at hseq
    subst hseq
    refine ⟨?_, rfl, by simp [strip], hs.named, rfl, rfl, hs.unreported, hs.unpending, hs.texts,
      hne, _, rfl, le_rfl, ?_⟩
    · have hn := hs.named
      rw [event_incidentId] at hn
      simp [hn, hs.unreported.1, hs.unreported.2]
    · simp [hkept]
  | feedback hv =>
    obtain ⟨row, rfl, hs⟩ := hsame _ rfl (by simp [Call.slot])
    cases ht
    simp only [event_sequence] at hseq
    subst hseq
    obtain ⟨k, hk, hle, -⟩ := hs.cursor
    refine ⟨rfl, rfl, ?_, hs.named, hs.state, hs.stateVersion, hs.unreported, hs.unpending,
      hs.texts, hne, k, hk, by show k ≤ row.eventCursor + 1; omega, ?_⟩
    · simp [strip, event, MemoryStore.feedbackPayload]
    · simp only [hkept, Option.mem_def, Option.some.injEq, forall_eq', event_eventType, ne_eq,
        not_true_eq_false, iff_false]
      omega
  | approval hv hp =>
    obtain ⟨row, -, hs⟩ := hsame _ rfl (by simp [Call.slot])
    rw [hs.unpending] at hp
    exact absurd hp (by simp)

/-- The identifiers drawn after an operation. -/
def drawnBy (used : List String) (op : Op) : List String := op.drawn.toList ++ used

theorem incidents_before (hm : MemoryStore.Advance d c before after e response) :
    (c.slot.2.1 = .create ∧ e.incidentId = "inc_" ++ d.uuid) ∨
      (c.slot.2.1 ≠ .create ∧ ∃ incident, before = some incident ∧ incident.tenantId = c.slot.1) := by
  cases hm with
  | create => exact Or.inl ⟨rfl, rfl⟩
  | cancel hv ht => exact Or.inr ⟨by simp [Call.slot], _, rfl, rfl⟩
  | feedback hv => exact Or.inr ⟨by simp [Call.slot], _, rfl, rfl⟩
  | approval hv hp => exact Or.inr ⟨by simp [Call.slot], _, rfl, rfl⟩

theorem advance_incidentId (hm : MemoryStore.Advance d c before after e response)
    (ht : PostgresStore.Advance d c rowBefore rowAfter e' response') :
    e'.incidentId = e.incidentId ∧ e'.eventId = eventId e'.incidentId e'.sequence := by
  cases hm <;> cases ht <;> exact ⟨rfl, rfl⟩

theorem drawn_of_create (hc : c.slot.2.1 = .create) : (Op.call c d).drawn = some d.uuid := by
  cases c with
  | create tenantId key request => rfl
  | cancel tenantId incidentId key version => simp [Call.slot] at hc
  | feedback tenantId userId incidentId key request => simp [Call.slot] at hc
  | approval tenantId incidentId key request => simp [Call.slot] at hc

theorem drawn_of_feedback (hc : c.slot.2.1 = .feedback) : (Op.call c d).drawn = some d.uuid := by
  cases c with
  | create tenantId key request => simp [Call.slot] at hc
  | cancel tenantId incidentId key version => simp [Call.slot] at hc
  | feedback tenantId userId incidentId key request => rfl
  | approval tenantId incidentId key request => simp [Call.slot] at hc

/-- What one call has appended to both stores. -/
structure Paired (m m' : MemoryStore.Store) (t t' : PostgresStore.Tables) (c : Call) (d : Draw)
    (response response' : Response) (e e' : IncidentEvent) (after : MemoryStore.Incident)
    (rowAfter : PostgresStore.IncidentRow) (kept : List IncidentEvent) : Prop where
  advance : MemoryStore.Advance d c (m.incidents e.incidentId) after e response
  incidents : m'.incidents = Function.update m.incidents e.incidentId (some after)
  events : m'.events = Function.update m.events (c.slot.1, e.incidentId) kept
  suffix : kept <:+ m.events (c.slot.1, e.incidentId) ++ [e]
  incidentId : e'.incidentId = e.incidentId
  named : e'.eventId = eventId e'.incidentId e'.sequence
  row : t'.lookup (.incident c.slot.1 e.incidentId) = some rowAfter
  projected : PostgresStore.projection t' c.slot.1 e.incidentId =
    PostgresStore.projection t c.slot.1 e.incidentId ++ [e']
  answered : response = response'
  stripped : strip e = e'
  marked : strip e = e ↔ e.eventType ≠ .feedbackRecorded
  same : Same kept c.slot.1 e.incidentId after rowAfter
  /-- The incident before the call belongs to the tenant, if it is there. -/
  owner : ∀ incident, m.incidents e.incidentId = some incident → incident.tenantId = c.slot.1

theorem Rel.paired (h : Rel used m t)
    (hdrawn : ∀ u ∈ (Op.call c d).drawn, u ∉ used ∧ storable u = true)
    (hslot : storable c.slot.1 = true)
    (hm : MemoryStore.Appends cfg sha256 m m' c d response e)
    (ht : PostgresStore.Appends sha256 t t' c d response' e') :
    ∃ after rowAfter kept, Paired m m' t t' c d response response' e e' after rowAfter kept := by
  obtain ⟨after, hadv, hinc⟩ := hm.advance
  obtain ⟨rowBefore, rowAfter, hrow, hrow', hadv'⟩ := ht.advance
  obtain ⟨kept, hprune, hevents⟩ := hm.kept
  obtain ⟨hid, heid⟩ := advance_incidentId hadv hadv'
  obtain ⟨hsuffix, hne⟩ := MemoryStore.prune_suffix hprune
  have hproj := (h.wellFormed.incidentOk_appends ht hrow hadv').2
  have hkept : kept.getLast? = some e := by
    obtain ⟨pre, hpre⟩ := hsuffix
    have := congrArg List.getLast? hpre
    rw [List.getLast?_append, List.getLast?_append] at this
    simpa [List.getLast?_eq_some_getLast hne] using this
  rw [hid] at hrow hrow' hproj
  have hseq : e.sequence = e'.sequence := by
    rw [hm.sequence, h.nextSequence, hrow, hadv'.sequence.1]
  have howner : ∀ incident, m.incidents e.incidentId = some incident →
      incident.tenantId = c.slot.1 := by
    intro incident hi
    rcases incidents_before hadv with ⟨hc, hnew⟩ | ⟨-, incident', hb, htenant⟩
    · rw [hnew, h.unowned_new (hdrawn _ (drawn_of_create hc)).1] at hi
      cases hi
    · rw [hi, Option.some.injEq] at hb
      rw [hb, htenant]
  obtain ⟨hresponse, hstrip, hmark, hsame⟩ := advance_same hadv hadv' hseq
    (m.events (c.slot.1, e.incidentId)) kept
    (by
      intro incident hi _
      obtain ⟨row, hr, hs⟩ := h.present c.slot.1 e.incidentId incident
        (MemoryStore.owned_eq_some.2 ⟨hi, howner incident hi⟩)
      exact ⟨row, by rw [← hrow]; exact hr, hs⟩)
    (by
      intro hc
      rcases incidents_before hadv with ⟨-, hnew⟩ | ⟨hnc, -⟩
      · rw [hnew, hslot, storable_append (by decide) (hdrawn _ (drawn_of_create hc)).2]
        rfl
      · exact absurd hc hnc)
    hkept
  exact ⟨after, rowAfter, kept, hadv, hinc, hevents, hsuffix, hid, heid, hrow', hproj, hresponse,
    hstrip, hmark, hsame, howner⟩

section Paired

variable {after : MemoryStore.Incident} {rowAfter : PostgresStore.IncidentRow}
  {kept : List IncidentEvent} {incidentId : String}

theorem Paired.present (hp : Paired m m' t t' c d response response' e e' after rowAfter kept)
    (h : Rel used m t) (ht : PostgresStore.Appends sha256 t t' c d response' e')
    {tenantId : String} {incident : MemoryStore.Incident}
    (hown : MemoryStore.owned m' tenantId incidentId = some incident) :
    ∃ row : PostgresStore.IncidentRow, t'.lookup (.incident tenantId incidentId) = some row ∧
      Same (m'.events (tenantId, incidentId)) tenantId incidentId incident row := by
  obtain ⟨hi, htenant⟩ := MemoryStore.owned_eq_some.1 hown
  rw [hp.incidents] at hi
  rw [hp.events]
  by_cases hk : incidentId = e.incidentId
  · subst hk
    rw [Function.update_self, Option.some.injEq] at hi
    subst hi
    obtain rfl : tenantId = c.slot.1 := by rw [← htenant, hp.advance.tenantId]
    rw [Function.update_self]
    exact ⟨rowAfter, hp.row, hp.same⟩
  · rw [Function.update_of_ne hk] at hi
    rw [Function.update_of_ne (by simp [hk]),
      ht.incident_of_ne (by rw [hp.incidentId]; exact fun hn => hk hn.2)]
    exact h.present _ _ _ (MemoryStore.owned_eq_some.2 ⟨hi, htenant⟩)

theorem Paired.absent (hp : Paired m m' t t' c d response response' e e' after rowAfter kept)
    (h : Rel used m t) (ht : PostgresStore.Appends sha256 t t' c d response' e')
    {tenantId : String} (hown : MemoryStore.owned m' tenantId incidentId = none) :
    t'.lookup (.incident tenantId incidentId) = none ∧ m'.events (tenantId, incidentId) = [] := by
  have hkey : ¬ (tenantId = c.slot.1 ∧ incidentId = e.incidentId) := by
    rintro ⟨rfl, rfl⟩
    have howned : MemoryStore.owned m' c.slot.1 e.incidentId = some after :=
      MemoryStore.owned_eq_some.2
        ⟨by rw [hp.incidents, Function.update_self], hp.advance.tenantId⟩
    rw [hown] at howned
    cases howned
  have hold : MemoryStore.owned m tenantId incidentId = none := by
    by_cases hk : incidentId = e.incidentId
    · subst hk
      cases hown' : MemoryStore.owned m tenantId e.incidentId with
      | none => rfl
      | some incident =>
        obtain ⟨hi, htenant⟩ := MemoryStore.owned_eq_some.1 hown'
        exact absurd ⟨htenant ▸ hp.owner incident hi, rfl⟩ hkey
    · simp only [MemoryStore.owned, hp.incidents, Function.update_of_ne hk] at hown ⊢
      exact hown
  rw [ht.incident_of_ne (by rw [hp.incidentId]; exact hkey), hp.events,
    Function.update_of_ne (by simpa using hkey)]
  exact h.absent _ _ hold

theorem Paired.window (hp : Paired m m' t t' c d response response' e e' after rowAfter kept)
    (h : Rel used m t) (ht : PostgresStore.Appends sha256 t t' c d response' e')
    (tenantId incidentId : String) : (m'.events (tenantId, incidentId)).map strip <:+
      PostgresStore.projection t' tenantId incidentId := by
  rw [hp.events]
  by_cases hk : tenantId = c.slot.1 ∧ incidentId = e.incidentId
  · obtain ⟨rfl, rfl⟩ := hk
    rw [Function.update_self, hp.projected]
    obtain ⟨pre, hpre⟩ := hp.suffix
    obtain ⟨pre', hpre'⟩ := h.window c.slot.1 e.incidentId
    refine ⟨pre' ++ pre.map strip, ?_⟩
    rw [← hpre', List.append_assoc, ← List.map_append, hpre, List.map_append, List.map_singleton,
      hp.stripped, List.append_assoc]
  · rw [Function.update_of_ne (by simpa using hk)]
    rw [((h.wellFormed.contiguous rfl).projection_congr fun n => ht.event_of_ne (by
      rw [hp.incidentId]
      exact fun hn => hk ⟨hn.1, hn.2.1⟩)).2]
    exact h.window tenantId incidentId

/-- Every name in the table is that of an event in the log. -/
theorem Paired.named_event
    (hp : Paired m m' t t' c d response response' e e' after rowAfter kept)
    (h : Rel used m t) (ht : PostgresStore.Appends sha256 t t' c d response' e') {x : String}
    (hx : t'.lookup (.eventId x) ≠ none) : ∃ tenantId incidentId n,
      t'.lookup (.event tenantId incidentId n) ≠ none ∧ x = eventId incidentId n := by
  -- the event of the call, where the durable store has put it
  have hnumbered : t'.lookup (.event c.slot.1 e.incidentId e'.sequence) = some e' := by
    rw [← hp.incidentId]
    exact ht.numbered
  by_cases hk : x = e'.eventId
  · refine ⟨c.slot.1, e.incidentId, e'.sequence, by rw [hnumbered]; simp, ?_⟩
    rw [hk, hp.named, hp.incidentId]
  · rw [ht.frame _ (by simp) (by simp) (by simp) (by simpa using hk) (by simp) (by simp)] at hx
    obtain ⟨tenantId, incidentId, n, hev, rfl⟩ := h.named x hx
    refine ⟨tenantId, incidentId, n, ?_, rfl⟩
    by_cases hn : tenantId = c.slot.1 ∧ incidentId = e.incidentId ∧ n = e'.sequence
    · obtain ⟨rfl, rfl, rfl⟩ := hn
      rw [hnumbered]
      simp
    · rw [ht.event_of_ne (by rw [hp.incidentId]; exact hn)]
      exact hev

theorem Paired.drawn (hp : Paired m m' t t' c d response response' e e' after rowAfter kept)
    (h : Rel used m t) (hi : m'.incidents incidentId ≠ none) :
    ∃ u ∈ drawnBy used (.call c d), incidentId = "inc_" ++ u := by
  rw [hp.incidents] at hi
  by_cases hk : incidentId = e.incidentId
  · subst hk
    rcases incidents_before hp.advance with ⟨hc, hnew⟩ | ⟨-, incident, hb, -⟩
    · exact ⟨d.uuid, List.mem_append_left _ (by rw [drawn_of_create hc]; simp), hnew⟩
    · obtain ⟨u, hu, heq⟩ := h.drawn e.incidentId (by rw [hb]; simp)
      exact ⟨u, List.mem_append_right _ hu, heq⟩
  · rw [Function.update_of_ne hk] at hi
    obtain ⟨u, hu, heq⟩ := h.drawn incidentId hi
    exact ⟨u, List.mem_append_right _ hu, heq⟩

end Paired

/-- **A call that both stores serve afresh is answered alike, and leaves them related.** -/
theorem Rel.appends (h : Rel used m t)
    (hdrawn : ∀ u ∈ (Op.call c d).drawn, u ∉ used ∧ storable u = true)
    (hslot : storable c.slot.1 = true)
    (hm : MemoryStore.Appends cfg sha256 m m' c d response e)
    (ht : PostgresStore.Appends sha256 t t' c d response' e') :
    response = response' ∧ Rel (drawnBy used (.call c d)) m' t' := by
  obtain ⟨after, rowAfter, kept, hp⟩ := h.paired hdrawn hslot hm ht
  refine ⟨hp.answered, ?_⟩
  constructor
  · exact h.wellFormed.appends ht
  · intro tenantId incidentId incident hown
    exact hp.present h ht hown
  · intro tenantId incidentId hown
    exact hp.absent h ht hown
  · intro slot
    rw [hm.recorded]
    by_cases hk : slot = c.slot
    · subst hk
      obtain ⟨status, hrec⟩ := ht.recorded
      rw [Function.update_self, hrec, hp.answered]
      rfl
    · rw [Function.update_of_ne hk, h.records,
        ht.frame _ (by simp) (by simpa using hk) (by simp) (by simp) (by simp) (by simp)]
  · intro tenantId incidentId
    exact hp.window h ht tenantId incidentId
  · intro key x hx
    rw [hp.events] at hx
    by_cases hk : key = (c.slot.1, e.incidentId)
    · subst hk
      rw [Function.update_self] at hx
      rcases List.mem_append.1 (hp.suffix.subset hx) with hx | hx
      · exact h.marked _ x hx
      · cases List.mem_singleton.1 hx
        exact hp.marked
    · rw [Function.update_of_ne hk] at hx
      exact h.marked key x hx
  · intro tenantId incidentId actionId
    rw [ht.pending, h.unpending, ite_self]
  · intro x hx
    exact hp.named_event h ht hx
  · intro incidentId hi
    exact hp.drawn h hi
  · intro u hu
    rcases ht.feedbacks _ hu with hu | ⟨hc, heq⟩
    · exact List.mem_append_right _ (h.feedbacks u hu)
    · rw [String.append_right_inj] at heq
      subst heq
      exact List.mem_append_left _ (by rw [drawn_of_feedback hc]; simp)

end Appends

end StoreRefinement
