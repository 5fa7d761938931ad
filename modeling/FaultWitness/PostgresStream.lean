/-
**Streams over the durable store.**

Here an event is published only after its transaction has committed, by a step of its own that holds
no lock of the database, and the two halves of a subscription and the three statements of a replay
are steps of their own as well.  Everything else may happen in between.

So a stream replays from one log, the committed events of its incident in order, and is fed from
another, the events in the order in which they were published.  The generator drops whatever is not
beyond the last event it has emitted; an event that is published after a later one of its incident
is therefore lost to every stream that has already taken the later one.  The streams are right as
long as this does not happen (`InOrder`), because then the one log is a prefix of the other.

Main definitions:

* `PostgresStream.Sys`, `PostgresStream.step` — the database, the pending publications, and the
  streams;
* `PostgresStream.InOrder` — no event overtakes an earlier one of its incident;
* `PostgresStream.Gapless` — no committed event is skipped.

Main results:

* `PostgresStream.inv_step` — every step that meets the condition keeps the invariant;
* `PostgresStream.gapless_reaches` — **in every run that publishes in order, no stream skips an
  event**.
-/

import FaultWitness.PostgresInvariants
import FaultWitness.EventStream

set_option autoImplicit false

namespace PostgresStream

open Incidents PostgresStore EventStream BoundedFeed Python Runs

/-! ### The system -/

/-- The stages of a request before its generator starts. -/
inductive Opening
  /-- The first half of `subscribe` has found the incident. -/
  | found
  | registered
  /-- The cursor has passed the first statement of `replay`. -/
  | cursorChecked (cursor : ℕ)
  | earliestChecked (cursor : ℕ)

/-- The database with its connections, which of these have published their event, the members of
`_subscribers`, and the streams.  The last field only records the run: the events of each incident
in the order in which they were published. -/
structure Sys where
  db : PostgresStore.Sys := ReadCommitted.initial ∅
  published : ℕ → Bool := fun _ => false
  subscribers : ℕ → Option Subscriber := fun _ => none
  streams : ℕ → Stream Opening := fun _ => {}
  feed : String × String → List IncidentEvent := fun _ => []

inductive Label
  | db (l : ReadCommitted.Label Request)
  | publish (i : ℕ)
  | get (n : ℕ) (key : String × String) (lastEventId : Option String)
  | register (n : ℕ)
  | replayCursor (n : ℕ)
  | replayEarliest (n : ℕ)
  | replayRows (n : ℕ)
  | act (n : ℕ) (a : Act)

/-- Replacing a stream. -/
def Sys.setStream (s : Sys) (n : ℕ) (st : Stream Opening) : Sys :=
  { s with streams := Function.update s.streams n st }

/-- A stream is refused; the handler unsubscribes where it catches the exception. -/
def Sys.refuse (s : Sys) (n : ℕ) : StoreError → Sys
  | .retentionGap earliest =>
    { s.setStream n ((s.streams n).finish (.retentionGap earliest)) with
      subscribers := Function.update s.subscribers n none }
  | .cursorError =>
    { s.setStream n ((s.streams n).finish .cursorError) with
      subscribers := Function.update s.subscribers n none }
  | .incidentNotFound => s.setStream n ((s.streams n).finish .notFound)
  | _ => s.setStream n ((s.streams n).finish .failed)

/-- Going on to the next stage, or being refused. -/
def Sys.advance (s : Sys) (n : ℕ) (o : Opening) : Except StoreError Unit → Sys
  | .ok () => s.setStream n { s.streams n with phase := .opening o }
  | .error e => s.refuse n e

/-- The publication of a committed call: `_publish`. -/
def stepPublish (s : Sys) (i : ℕ) : Option Sys :=
  match s.db.txs i with
  | .done (.call c _) (.committed (.reply (.fresh _ e))) =>
    if s.published i then none
    else
      let key := (c.slot.1, e.incidentId)
      some { s with published := Function.update s.published i true
                    subscribers := publish key e s.subscribers
                    feed := Function.update s.feed key (s.feed key ++ [e]) }
  | _ => none

variable (sha256 : String → String)

def step (s : Sys) : Label → Option Sys
  | .db l =>
    match ReadCommitted.step (body sha256) s.db l with
    | some db => some { s with db := db }
    | none => none
  | .publish i => stepPublish s i
  | .get n key lastEventId =>
    match (s.streams n).phase with
    | .idle =>
      let s := s.setStream n { key := key, lastEventId := lastEventId }
      match PostgresStore.get s.db.db key.1 key.2 with
      | .ok _ => some (s.advance n .found (.ok ()))
      | .error e => some (s.refuse n e)
    | _ => none
  | .register n =>
    let st := s.streams n
    match st.phase with
    | .opening .found =>
      let x : Subscriber := { key := st.key, mailbox := { maxsize := bufferSize } }
      some { s.setStream n { st with phase := .opening .registered } with
        subscribers := Function.update s.subscribers n (some x) }
    | _ => none
  | .replayCursor n =>
    let st := s.streams n
    match st.phase with
    | .opening .registered =>
      match cursor st.lastEventId with
      | .ok c =>
        some (s.advance n (.cursorChecked c) (replayCursor s.db.db st.key.1 st.key.2 c))
      | .error e => some (s.refuse n e)
    | _ => none
  | .replayEarliest n =>
    let st := s.streams n
    match st.phase with
    | .opening (.cursorChecked c) =>
      some (s.advance n (.earliestChecked c) (replayEarliest s.db.db st.key.1 st.key.2 c))
    | _ => none
  | .replayRows n =>
    let st := s.streams n
    match st.phase with
    | .opening (.earliestChecked c) =>
      some (s.setStream n
        { st with phase := .replaying (replayRows s.db.db st.key.1 st.key.2 c)
                  delivered := cursorOf st.lastEventId
                  retained := projection s.db.db st.key.1 st.key.2 })
    | _ => none
  | .act n a =>
    match EventStream.act (s.subscribers n) (s.streams n) a with
    | some (sub, st) =>
      some { s.setStream n st with subscribers := Function.update s.subscribers n sub }
    | none => none

/-- Every event of the incident that was committed with a smaller sequence has been published. -/
def InOrder (s : Sys) : Label → Prop
  | .publish i => ∀ c d response e, Fresh s.db i c d response e →
      ∀ j c' d' response' e', Fresh s.db j c' d' response' e' → c'.slot.1 = c.slot.1 →
        e'.incidentId = e.incidentId → e'.sequence < e.sequence → s.published j = true
  | _ => True

/-! ### The committed log of an incident -/

variable {sha256}

/-- The committed events of an incident, in order. -/
def committed (s : Sys) (key : String × String) : List IncidentEvent :=
  projection s.db.db key.1 key.2

theorem WellFormed.getElem? {t : Tables} (h : WellFormed t) (tenantId incidentId : String) (i : ℕ) :
    (projection t tenantId incidentId)[i]? = t.lookup (.event tenantId incidentId (i + 1)) :=
  (h.contiguous rfl).getElem? i

theorem WellFormed.numbered {t : Tables} (h : WellFormed t) (tenantId incidentId : String) :
    Numbered IncidentEvent.sequence (projection t tenantId incidentId) := by
  intro i e he
  rw [WellFormed.getElem? h] at he
  exact (h.labelled he).2

variable {l : ReadCommitted.Label Request}

/-- A move of the database leaves a log alone, or appends the event of the call that commits. -/
theorem committed_step {db db' : PostgresStore.Sys} (hinv : ReadCommitted.Inv (body sha256) db)
    (hwf : WellFormed db.db) (hs : ReadCommitted.step (body sha256) db l = some db') :
    ((∀ tenantId incidentId,
        projection db'.db tenantId incidentId = projection db.db tenantId incidentId) ∧
      ∀ j c d response e, Fresh db' j c d response e ↔ Fresh db j c d response e) ∨
    ∃ i c d response e, Fresh db' i c d response e ∧
      (∀ j, j ≠ i → db'.txs j = db.txs j) ∧ (∃ tx, db.txs i = .running (.call c d) tx) ∧
      e.sequence = (projection db.db c.slot.1 e.incidentId).length + 1 ∧
      projection db'.db c.slot.1 e.incidentId = projection db.db c.slot.1 e.incidentId ++ [e] ∧
      ∀ tenantId incidentId, (tenantId, incidentId) ≠ (c.slot.1, e.incidentId) →
        projection db'.db tenantId incidentId = projection db.db tenantId incidentId := by
  rcases step_effect hinv hs with ⟨⟨-, hev, -⟩, hfresh⟩ | ⟨i, c, d, response, e, ha, hi, hothers, hrun⟩
  · refine Or.inl ⟨fun tenantId incidentId => ?_, hfresh⟩
    exact ((hwf.contiguous rfl).projection_congr (hev tenantId incidentId)).2
  · obtain ⟨before, after, hbefore, -, hadv⟩ := ha.advance
    refine Or.inr ⟨i, c, d, response, e, hi, hothers, hrun, ?_,
      (hwf.incidentOk_appends ha hbefore hadv).2, ?_⟩
    · rw [(hwf.contiguous hbefore).length]
      exact hadv.sequence.1
    · intro tenantId incidentId hne
      refine ((hwf.contiguous rfl).projection_congr fun m => ha.event_of_ne ?_).2
      rintro ⟨rfl, rfl, -⟩
      exact hne rfl

/-! ### The invariant -/

/-- The stages at which a request is subscribed. -/
def Opening.subscribed : Opening → Prop
  | .found => False
  | _ => True

/-- The cursor that a stage carries is the client's, and lies within the log. -/
def Checked (full : List IncidentEvent) (st : Stream Opening) : Prop :=
  match st.phase with
  | .opening (.cursorChecked c) => cursor st.lastEventId = .ok c ∧ c ≤ full.length
  | .opening (.earliestChecked c) => cursor st.lastEventId = .ok c ∧ c ≤ full.length
  | _ => True

/-- What holds of a stream that replays from `full` and is fed from `feed`. -/
structure StreamInv (full feed : List IncidentEvent) (sub : Option Subscriber)
    (st : Stream Opening) : Prop where
  ok : StreamOk Opening.subscribed full feed sub st
  checked : Checked full st
  first : ∀ f, st.retained.head? = some f → f.sequence = 1

variable (sha256) in
structure Inv (s : Sys) : Prop where
  db : ReadCommitted.Inv (body sha256) s.db
  wellFormed : WellFormed s.db.db
  ledger : Ledger sha256 s.db
  lag : ∀ key, s.feed key <+: committed s key
  fresh : ∀ i, s.published i = true → ∃ c d response e, Fresh s.db i c d response e
  published : ∀ i c d response e, Fresh s.db i c d response e →
    (s.published i = true ↔ e.sequence ≤ (s.feed (c.slot.1, e.incidentId)).length)
  stream : ∀ n, StreamInv (committed s (s.streams n).key) (s.feed (s.streams n).key)
    (s.subscribers n) (s.streams n)

variable {s : Sys}

theorem Inv.numbered (h : Inv sha256 s) (key : String × String) :
    Numbered IncidentEvent.sequence (committed s key) :=
  WellFormed.numbered h.wellFormed key.1 key.2

theorem inv_initial : Inv sha256 {} where
  db := ReadCommitted.inv_initial _ _
  wellFormed := wellFormed_empty
  ledger := ledger_initial
  lag _ := List.nil_prefix
  fresh _ h := by simp at h
  published i c d response e h := by simp [Fresh, ReadCommitted.initial] at h
  stream _ := ⟨rfl, trivial, by simp⟩

variable {st : Stream Opening} {sub : Option Subscriber} {n : ℕ}

theorem StreamInv.grow {full feed : List IncidentEvent} (h : StreamInv full feed sub st)
    (l : List IncidentEvent) : StreamInv (full ++ l) feed sub st where
  ok := h.ok.grow l
  checked := by
    have hc := h.checked
    unfold Checked at hc ⊢
    split
    · rename_i c hp
      rw [hp] at hc
      exact ⟨hc.1, hc.2.trans (by simp)⟩
    · rename_i c hp
      rw [hp] at hc
      exact ⟨hc.1, hc.2.trans (by simp)⟩
    · trivial
  first := h.first

/-! ### Steps of the database -/

theorem Inv.step_db (h : Inv sha256 s) {db : PostgresStore.Sys}
    (hs : ReadCommitted.step (body sha256) s.db l = some db) : Inv sha256 { s with db := db } := by
  have hdb := ReadCommitted.inv_step guards_body h.db hs
  have hwf : WellFormed db.db := by
    rcases ReadCommitted.step_cases h.db hs with ⟨he, -⟩ | ⟨i, c, tx, r, -, -, -, he⟩
    · rw [he]
      exact h.wellFormed
    · exact h.wellFormed.exec_body he
  have hledger := h.ledger.step h.db hs
  rcases committed_step h.db h.wellFormed hs with ⟨hproj, hfresh⟩ |
    ⟨i, c, d, response, e, hi, hothers, ⟨tx, hrun⟩, hseq, hproj, hne⟩
  · have hcomm : ∀ key, committed { s with db := db } key = committed s key :=
      fun key => hproj key.1 key.2
    refine ⟨hdb, hwf, hledger, fun key => ?_, fun j hj => ?_, fun j c d response e hj => ?_,
      fun n => ?_⟩
    · rw [hcomm]
      exact h.lag key
    · obtain ⟨c, d, response, e, hf⟩ := h.fresh j hj
      exact ⟨c, d, response, e, (hfresh ..).2 hf⟩
    · exact h.published j c d response e ((hfresh ..).1 hj)
    · rw [hcomm]
      exact h.stream n
  · have hcomm : ∀ key, ∃ l, committed { s with db := db } key = committed s key ++ l := by
      intro key
      by_cases hk : key = (c.slot.1, e.incidentId)
      · subst hk
        exact ⟨[e], hproj⟩
      · exact ⟨[], by rw [List.append_nil]; exact hne key.1 key.2 hk⟩
    refine ⟨hdb, hwf, hledger, fun key => ?_, fun j hj => ?_, fun j c' d' response' e' hj => ?_,
      fun n => ?_⟩
    · obtain ⟨l, hl⟩ := hcomm key
      rw [hl]
      exact (h.lag key).trans (List.prefix_append ..)
    · obtain ⟨c', d', response', e', hf⟩ := h.fresh j hj
      refine ⟨c', d', response', e', ?_⟩
      have hji : j ≠ i := by
        rintro rfl
        rw [Fresh, hrun] at hf
        cases hf
      rw [Fresh, hothers j hji]
      exact hf
    · by_cases hji : j = i
      · subst hji
        rw [Fresh, hi] at hj
        cases hj
        -- the event just committed has not been published, and is beyond what has
        have hunpub : ¬ s.published j = true := by
          intro hp
          obtain ⟨c', d', response', e', hf⟩ := h.fresh j hp
          rw [Fresh, hrun] at hf
          cases hf
        refine iff_of_false hunpub ?_
        have hlen := (h.lag (c.slot.1, e.incidentId)).length_le
        show ¬ e.sequence ≤ (s.feed (c.slot.1, e.incidentId)).length
        rw [hseq]
        simp only [committed] at hlen
        omega
      · rw [Fresh, hothers j hji] at hj
        exact h.published j c' d' response' e' hj
    · obtain ⟨l, hl⟩ := hcomm (s.streams n).key
      rw [hl]
      exact (h.stream n).grow l

/-! ### Publication -/

/-- The next event to be published in order is the next of the committed log. -/
theorem Inv.next_of_inOrder (h : Inv sha256 s) {i : ℕ} (hord : InOrder s (.publish i)) {c : Call}
    {d : Draw} {response : Response} {e : IncidentEvent} (hi : Fresh s.db i c d response e)
    (hunpub : s.published i = false) :
    e.sequence = (s.feed (c.slot.1, e.incidentId)).length + 1 ∧
      (committed s (c.slot.1, e.incidentId))[(s.feed (c.slot.1, e.incidentId)).length]? =
        some e := by
  have hnum := h.ledger.numbered i c d response e hi
  have hgt : ¬ e.sequence ≤ (s.feed (c.slot.1, e.incidentId)).length := by
    intro hle
    rw [(h.published i c d response e hi).2 hle] at hunpub
    exact absurd hunpub (by simp)
  -- were there a gap, the event right before this one would still be unpublished
  have hle : e.sequence ≤ (s.feed (c.slot.1, e.incidentId)).length + 1 := by
    by_contra hlt
    obtain ⟨n, hn⟩ : ∃ n, e.sequence = n + 1 := ⟨e.sequence - 1, by omega⟩
    have hrange := ((h.wellFormed.contiguous rfl) e.sequence).1 (by rw [hnum]; rfl)
    obtain ⟨x, hx⟩ : ∃ x : IncidentEvent,
        s.db.db.lookup (.event c.slot.1 e.incidentId n) = some x :=
      Option.isSome_iff_exists.1 (((h.wellFormed.contiguous rfl) n).2 ⟨by omega, by omega⟩)
    obtain ⟨hxi, hxs⟩ := h.wellFormed.labelled hx
    obtain ⟨j, c', d', response', hj, htenant⟩ := h.ledger.author _ _ _ x hx
    have hpub := hord c d response e hi j c' d' response' x hj htenant hxi (by omega)
    have := (h.published j c' d' response' x hj).1 hpub
    rw [htenant, hxi] at this
    omega
  have hseq : e.sequence = (s.feed (c.slot.1, e.incidentId)).length + 1 := by omega
  refine ⟨hseq, ?_⟩
  rw [committed, WellFormed.getElem? h.wellFormed, ← hseq, hnum]

theorem Inv.stepPublish {s' : Sys} (h : Inv sha256 s) {i : ℕ} (hord : InOrder s (.publish i))
    (hs : stepPublish s i = some s') : Inv sha256 s' := by
  unfold PostgresStream.stepPublish at hs
  split at hs
  · rename_i c d response e hi
    split at hs
    · cases hs
    rename_i hunpub
    cases hs
    obtain ⟨hseq, hat⟩ := h.next_of_inOrder hord hi (by simpa using hunpub)
    constructor
    · exact h.db
    · exact h.wellFormed
    · exact h.ledger
    · intro key
      by_cases hk : key = (c.slot.1, e.incidentId)
      · subst hk
        simp only [Function.update_self]
        obtain ⟨r, hr⟩ := h.lag (c.slot.1, e.incidentId)
        rw [← hr, List.getElem?_append_right le_rfl, Nat.sub_self] at hat
        obtain ⟨r', hr'⟩ : ∃ r', r = e :: r' := by
          cases r with
          | nil => simp at hat
          | cons x r' =>
            simp only [List.getElem?_cons_zero, Option.some.injEq] at hat
            exact ⟨r', by rw [hat]⟩
        refine ⟨r', ?_⟩
        show _ = committed s (c.slot.1, e.incidentId)
        rw [← hr, hr', List.append_assoc, List.singleton_append]
      · simp only [Function.update_of_ne hk]
        exact h.lag key
    · intro j hj
      by_cases hji : j = i
      · subst hji
        exact ⟨c, d, response, e, hi⟩
      · simp only [Function.update_of_ne hji] at hj
        exact h.fresh j hj
    · intro j c' d' response' e' hj
      have hj : Fresh s.db j c' d' response' e' := hj
      by_cases hji : j = i
      · subst hji
        rw [Fresh, hi] at hj
        cases hj
        simp [hseq]
      · by_cases hk : (c'.slot.1, e'.incidentId) = (c.slot.1, e.incidentId)
        · obtain ⟨h₁, h₂⟩ := Prod.mk.inj hk
          have hne : e'.sequence ≠ (s.feed (c.slot.1, e.incidentId)).length + 1 := by
            intro heq
            exact hji (h.ledger.event_inj _ _ _ _ _ _ _ _ _ _ hj hi h₁ h₂ (heq.trans hseq.symm))
          have := h.published j c' d' response' e' hj
          rw [hk] at this
          simp only [Function.update_of_ne hji, hk, Function.update_self, List.length_append,
            List.length_singleton]
          rw [this]
          omega
        · simp only [Function.update_of_ne hji, Function.update_of_ne hk]
          exact h.published j c' d' response' e' hj
    · intro n
      have hn := h.stream n
      by_cases hk : (s.streams n).key = (c.slot.1, e.incidentId)
      · simp only [hk, Function.update_self]
        rw [hk] at hn
        have hok := hn.ok.publish ((h.numbered _).of_isPrefix (h.lag _)) e
        rw [hk] at hok
        exact ⟨hok, hn.checked, hn.first⟩
      · simp only [Function.update_of_ne hk]
        exact ⟨hn.ok.publish_of_ne hk e, hn.checked, hn.first⟩
  · cases hs

/-! ### Steps of a stream -/

theorem Inv.setStream (h : Inv sha256 s) (n : ℕ)
    (hst : StreamInv (committed s st.key) (s.feed st.key) sub st) :
    Inv sha256 { s.setStream n st with subscribers := Function.update s.subscribers n sub } where
  db := h.db
  wellFormed := h.wellFormed
  ledger := h.ledger
  lag := h.lag
  fresh := h.fresh
  published := h.published
  stream m := by
    by_cases hm : m = n
    · subst hm
      simp only [Sys.setStream, Function.update_self]
      exact hst
    · simp only [Sys.setStream, Function.update_of_ne hm]
      exact h.stream m

theorem Inv.setStream_same (h : Inv sha256 s) (n : ℕ)
    (hst : StreamInv (committed s st.key) (s.feed st.key) (s.subscribers n) st) :
    Inv sha256 (s.setStream n st) := by
  have := h.setStream n hst
  rwa [Function.update_eq_self] at this

/-- A stream that has emitted nothing may be refused. -/
theorem Inv.refuse (h : Inv sha256 s) (hem : (s.streams n).emitted = []) (err : StoreError) :
    Inv sha256 (s.refuse n err) := by
  have hend : ∀ how sub, (∀ r, how ≠ .slowConsumer r) →
      StreamInv (committed s (s.streams n).key) (s.feed (s.streams n).key) sub
        ((s.streams n).finish how) := by
    intro how sub hhow
    refine ⟨⟨⟨?_, fun hne => absurd hem hne⟩, fun r hr => absurd hr (hhow r)⟩, trivial,
      (h.stream n).first⟩
    show (s.streams n).emitted = segment _ (s.streams n).start
      ((s.streams n).start + (s.streams n).emitted.length)
    simp [hem]
  cases err with
  | retentionGap earliest => exact h.setStream n (hend _ _ (by simp))
  | cursorError => exact h.setStream n (hend _ _ (by simp))
  | incidentNotFound => exact h.setStream_same n (hend _ _ (by simp))
  | stateConflict => exact h.setStream_same n (hend _ _ (by simp))
  | idempotencyConflict => exact h.setStream_same n (hend _ _ (by simp))
  | approvalConflict => exact h.setStream_same n (hend _ _ (by simp))
  | indexError => exact h.setStream_same n (hend _ _ (by simp))
  | dataError => exact h.setStream_same n (hend _ _ (by simp))

theorem Inv.advance (h : Inv sha256 s) (hem : (s.streams n).emitted = []) {o : Opening}
    {r : Except StoreError Unit}
    (hreg : o.subscribed → ∃ m, s.subscribers n = some ⟨(s.streams n).key, m⟩ ∧
      Tracks (s.feed (s.streams n).key) m (committed s (s.streams n).key).length)
    (hchk : r = .ok () → Checked (committed s (s.streams n).key)
      { s.streams n with phase := .opening o }) : Inv sha256 (s.advance n o r) := by
  cases r with
  | error e => exact h.refuse hem e
  | ok u => exact h.setStream_same n ⟨⟨hem, hreg⟩, hchk rfl, (h.stream n).first⟩

theorem Inv.opening (h : Inv sha256 s) {o : Opening} (hp : (s.streams n).phase = .opening o) :
    (s.streams n).emitted = [] ∧
      (o.subscribed → ∃ m, s.subscribers n = some ⟨(s.streams n).key, m⟩ ∧
        Tracks (s.feed (s.streams n).key) m (committed s (s.streams n).key).length) := by
  have hok := (h.stream n).ok
  simp only [StreamOk, hp] at hok
  exact hok

theorem cursorOf_eq {lastEventId : Option String} {c : ℕ} (h : cursor lastEventId = .ok c) :
    cursorOf lastEventId = c := by
  unfold cursor at h
  unfold cursorOf
  match lastEventId with
  | none =>
    simp only [Except.ok.injEq] at h
    simp [← h]
  | some text =>
    by_cases ht : text = ""
    · subst ht
      simp only [Except.ok.injEq] at h
      simp [← h]
    · simp only [Option.bind_some]
      split at h
      · cases h
      · rename_i n hn
        cases h
        split at hn
        · rename_i heq
          cases heq
        · rename_i heq
          exact absurd (Option.some.inj heq) ht
        · rename_i heq
          cases heq
          rw [hn]
          rfl
      · cases h

theorem StreamInv.start_eq {full feed : List IncidentEvent} (h : StreamInv full feed sub st) :
    st.start = (cursorOf st.lastEventId).toNat := by
  unfold Stream.start
  cases hl : st.lastEventId with
  | some text => rfl
  | none =>
    cases hr : st.retained.head? with
    | none => simp [cursorOf]
    | some f => simp [cursorOf, h.first f hr]

/-- The last statement of a replay, after which the generator starts. -/
theorem Inv.replayRows (h : Inv sha256 s) {c : ℕ}
    (hp : (s.streams n).phase = .opening (.earliestChecked c)) :
    Inv sha256 (s.setStream n
      { s.streams n with
        phase := .replaying (replayRows s.db.db (s.streams n).key.1 (s.streams n).key.2 c)
        delivered := cursorOf (s.streams n).lastEventId
        retained := projection s.db.db (s.streams n).key.1 (s.streams n).key.2 }) := by
  obtain ⟨hem, hreg⟩ := h.opening hp
  obtain ⟨m, hsub, ht⟩ := hreg trivial
  have hchk := (h.stream n).checked
  simp only [Checked, hp] at hchk
  have hcur := cursorOf_eq hchk.1
  have hnum := h.numbered (s.streams n).key
  have hfirst : ∀ f, (projection s.db.db (s.streams n).key.1 (s.streams n).key.2).head? = some f →
      f.sequence = 1 := by
    intro f hf
    rw [List.head?_eq_getElem?] at hf
    exact hnum 0 f hf
  have hstart : ∀ st : Stream Opening, st.lastEventId = (s.streams n).lastEventId →
      st.retained = projection s.db.db (s.streams n).key.1 (s.streams n).key.2 → st.start = c := by
    intro st hl hr
    unfold Stream.start
    rw [hl, hr]
    cases hl' : (s.streams n).lastEventId with
    | some text =>
      rw [hl'] at hcur
      simp only [hcur, Int.toNat_natCast]
    | none =>
      have hc : (c : ℤ) = 0 := by
        rw [← hcur, hl']
        rfl
      cases hh : (projection s.db.db (s.streams n).key.1 (s.streams n).key.2).head? with
      | none =>
        simp only [Option.map_none, Option.getD_none]
        omega
      | some f =>
        simp only [Option.map_some, Option.getD_some, hfirst f hh]
        omega
  refine h.setStream_same n ⟨?_, trivial, hfirst⟩
  generalize hst : ({ s.streams n with
    phase := .replaying (PostgresStore.replayRows s.db.db (s.streams n).key.1 (s.streams n).key.2 c)
    delivered := cursorOf (s.streams n).lastEventId
    retained := projection s.db.db (s.streams n).key.1 (s.streams n).key.2 } : Stream Opening) = st
  have hst' := hstart st (by rw [← hst]) (by rw [← hst])
  refine streamOk_replaying (by rw [← hst]) (by rw [← hst]; exact hsub) (by rw [← hst]; exact hem)
    ?_ ?_ (by rw [← hst]; exact ht) ?_
  · rw [hst', ← hst]
    have := hnum.filter_drop (Nat.zero_le c) hchk.2
    rwa [List.drop_zero] at this
  · rw [hst', ← hst]
    exact hchk.2
  · intro _
    rw [hst', ← hst]
    exact hcur

/-- **Every step that meets the condition keeps the invariant.** -/
theorem inv_step {s' : Sys} {l : Label} (h : Inv sha256 s) (hl : InOrder s l)
    (hs : step sha256 s l = some s') : Inv sha256 s' := by
  cases l with
  | db l =>
    simp only [step] at hs
    split at hs
    · rename_i db hdb
      cases hs
      exact h.step_db hdb
    · cases hs
  | publish i => exact h.stepPublish hl hs
  | get n key lastEventId =>
    simp only [step] at hs
    split at hs
    · have hidle : Inv sha256 (s.setStream n { key := key, lastEventId := lastEventId }) :=
        h.setStream_same n ⟨rfl, trivial, by simp⟩
      have hem : ((s.setStream n { key := key, lastEventId := lastEventId }).streams n).emitted =
          [] := by simp [Sys.setStream]
      split at hs
      · cases hs
        exact hidle.advance hem (fun hr => hr.elim) fun _ => trivial
      · cases hs
        exact hidle.refuse hem _
    · cases hs
  | register n =>
    simp only [step] at hs
    split at hs
    · rename_i hp
      cases hs
      obtain ⟨hem, -⟩ := h.opening hp
      refine h.setStream n ⟨⟨hem, fun _ => ⟨_, rfl, tracks_nil ?_⟩⟩, trivial, (h.stream n).first⟩
      exact (h.lag _).length_le
    · cases hs
  | replayCursor n =>
    simp only [step] at hs
    split at hs
    · rename_i hp
      obtain ⟨hem, hreg⟩ := h.opening hp
      split at hs
      · rename_i c hc
        cases hs
        refine h.advance hem (fun _ => hreg trivial) fun hok => ⟨hc, ?_⟩
        unfold PostgresStore.replayCursor at hok
        split at hok
        · split at hok
          · rename_i row hrow
            split at hok
            · cases hok
            · rename_i hlt
              rw [committed, (h.wellFormed.contiguous hrow).length]
              exact not_lt.1 hlt
          · cases hok
        · cases hok
      · cases hs
        exact h.refuse hem _
    · cases hs
  | replayEarliest n =>
    simp only [step] at hs
    split at hs
    · rename_i c hp
      cases hs
      obtain ⟨hem, hreg⟩ := h.opening hp
      have hchk := (h.stream n).checked
      simp only [Checked, hp] at hchk
      exact h.advance hem (fun _ => hreg trivial) fun _ => hchk
    · cases hs
  | replayRows n =>
    simp only [step] at hs
    split at hs
    · rename_i c hp
      cases hs
      exact h.replayRows hp
    · cases hs
  | act n a =>
    simp only [step] at hs
    split at hs
    · rename_i sub st hact
      cases hs
      have hacted := acted_of_act hact
      have hn := h.stream n
      have hok := hn.ok.act (h.numbered _) (h.lag _) hact
      rw [← hacted.same.1] at hok
      refine h.setStream n ⟨hok, ?_, by rw [hacted.same.2]; exact hn.first⟩
      cases hacted <;> exact trivial
    · cases hs

theorem inv_reaches (h : Reaches (step sha256) InOrder {} s) : Inv sha256 s :=
  h.invariant inv_initial fun _ _ _ hi hl hs => inv_step hi hl hs

/-! ### What the streams deliver -/

/-- Between the cursor of a client and the last event it was sent, every committed event was
sent. -/
structure Gapless (s : Sys) : Prop where
  consecutive : ∀ n, (s.streams n).emitted.map IncidentEvent.sequence =
    List.range' ((cursorOf (s.streams n).lastEventId).toNat + 1) (s.streams n).emitted.length
  complete : ∀ n m e last,
    s.db.db.lookup (.event (s.streams n).key.1 (s.streams n).key.2 m) = some e →
    cursorOf (s.streams n).lastEventId < m → last ∈ (s.streams n).emitted → m ≤ last.sequence →
    e ∈ (s.streams n).emitted

theorem Inv.consecutive (h : Inv sha256 s) (n : ℕ) :
    (s.streams n).emitted.map IncidentEvent.sequence =
      List.range' ((cursorOf (s.streams n).lastEventId).toNat + 1) (s.streams n).emitted.length := by
  obtain ⟨h₁, h₂⟩ := (h.stream n).ok.follows
  by_cases hne : (s.streams n).emitted = []
  · simp [hne]
  · have hmap := (h.numbered _).map_segment (a := (s.streams n).start)
      (Nat.le_add_right ..) (h₂ hne)
    rw [← h₁, Nat.add_sub_cancel_left] at hmap
    rw [hmap, (h.stream n).start_eq]

theorem Inv.gapless (h : Inv sha256 s) : Gapless s := by
  refine ⟨h.consecutive, fun n m e last he hlt hlast hle => ?_⟩
  have hseq := h.consecutive n
  have hpos := ((h.wellFormed.contiguous rfl) m).1 (by rw [he]; rfl)
  -- the sequence `m` was emitted, and the log has one event under it
  have hmem : m ∈ (s.streams n).emitted.map IncidentEvent.sequence := by
    have hl := List.mem_map_of_mem (f := IncidentEvent.sequence) hlast
    rw [hseq, List.mem_range'_1] at hl
    rw [hseq, List.mem_range'_1]
    omega
  obtain ⟨x, hx, rfl⟩ := List.mem_map.1 hmem
  have hxlog : x ∈ committed s (s.streams n).key := by
    have hf := (h.stream n).ok.follows.1
    rw [hf] at hx
    exact List.mem_of_mem_take (List.mem_of_mem_drop hx)
  obtain ⟨d, hd⟩ : ∃ d, x.sequence = d + 1 := ⟨x.sequence - 1, by omega⟩
  have hat := (h.numbered _).getElem? hxlog hd
  rw [committed, WellFormed.getElem? h.wellFormed, ← hd, he] at hat
  cases hat
  exact hx

/-- **In every run that publishes in order, no stream skips an event.** -/
theorem gapless_reaches {s : Sys} (h : Reaches (step sha256) InOrder {} s) : Gapless s :=
  (inv_reaches h).gapless

/-! ### Two runs -/

/-- A test for `InOrder`: the event is the next one of its incident. -/
def next (s : Sys) : Label → Bool
  | .publish i =>
    match s.db.txs i with
    | .done (.call c _) (.committed (.reply (.fresh _ e))) =>
      e.sequence == (s.feed (c.slot.1, e.incidentId)).length + 1
    | _ => true
  | _ => true

theorem inOrder_of_next (s : Sys) (l : Label) (hs : Reaches (step sha256) InOrder {} s)
    (h : next s l = true) : InOrder s l := by
  cases l with
  | publish i =>
    intro c d response e hi j c' d' response' e' hj htenant hid hlt
    have hnext : e.sequence = (s.feed (c.slot.1, e.incidentId)).length + 1 := by
      simp only [next] at h
      rw [Fresh] at hi
      rw [hi] at h
      simpa using h
    refine ((inv_reaches hs).published j c' d' response' e' hj).2 ?_
    rw [htenant, hid]
    omega
  | _ => exact trivial

/-- Connection `i` begins a request and executes `n` statements. -/
def serve (i : ℕ) (r : Request) (n : ℕ) : List Label :=
  .db (.start i r) :: List.replicate n (.db (.exec i))

/-- A client whose stream has replayed the creation of an incident and now waits. -/
def subscribed : List Label :=
  serve 0 (.call (.create "tenant-a" "key-1" sampleCreate) { uuid := "7" }) 6 ++
  [.publish 0, .get 0 ("tenant-a", "inc_7") none, .register 0, .replayCursor 0, .replayEarliest 0,
    .replayRows 0, .act 0 .emit, .act 0 .emit, .act 0 (.check true)]

/-- Feedback on that incident from two connections. -/
def feedbacks : List Label :=
  serve 1 (.call (.feedback "tenant-a" "user-b" "inc_7" "key-2" sampleFeedback) { uuid := "8" }) 8 ++
  serve 2 (.call (.feedback "tenant-a" "user-b" "inc_7" "key-3" sampleFeedback) { uuid := "9" }) 8

/-- Published in order, both events reach the stream. -/
theorem gapless_feedback : ∃ s : Sys, Reaches (step sampleSha256) InOrder {} s ∧ Gapless s ∧
    (s.streams 0).emitted.map IncidentEvent.sequence = [1, 2, 3] := by
  obtain ⟨s, hs, hp⟩ := exists_reaches_of_test (step sampleSha256) (C := InOrder) (c := next)
    (p := fun s => decide ((s.streams 0).emitted.map IncidentEvent.sequence = [1, 2, 3]))
    inOrder_of_next (a := {})
    (subscribed ++ feedbacks ++
      [.publish 1, .publish 2, .act 0 .take, .act 0 (.check true), .act 0 .take])
    (by decide +kernel)
  exact ⟨s, hs, gapless_reaches hs, of_decide_eq_true hp⟩

/-- Published out of order, the earlier event is lost to the stream. -/
theorem not_gapless_overtaking : ∃ s : Sys, Reachable (step sampleSha256) {} s ∧ ¬ Gapless s := by
  obtain ⟨s, hs, hp⟩ := exists_reachable_of_test (step sampleSha256)
    (p := fun s => decide ((s.streams 0).emitted.map IncidentEvent.sequence = [1, 3] ∧
      (s.streams 0).lastEventId = none))
    (a := {})
    (subscribed ++ feedbacks ++
      [.publish 2, .act 0 .take, .publish 1, .act 0 (.check true), .act 0 .take])
    (by decide +kernel)
  obtain ⟨hem, hl⟩ := of_decide_eq_true hp
  refine ⟨s, hs, fun h => ?_⟩
  have hlen : (s.streams 0).emitted.length = 2 := by simpa using congrArg List.length hem
  have := h.consecutive 0
  rw [hem, hl, hlen] at this
  exact absurd this (by decide)

end PostgresStream
