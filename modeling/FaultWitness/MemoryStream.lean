/-
**Streams over the reference store.**

Any number of clients call the store and any number of streams run over it, one step at a time.  An
event is published inside the lock under which it was appended, so the log a stream is fed from and
the log it replays from are the same; the store keeps only the last part of it.

The one thing that can go wrong is the retention loop.  It compares the age of every event, the new
one included, with a second reading of the clock; should the new event be too old by then, the list
ends up empty, the event is never published, and the next one is numbered from one again.  Hence the
condition `Prompt`: between the two readings no more time passes than the retention age.

Main definitions:

* `MemoryStream.Sys`, `MemoryStream.step` — the store, its subscribers and the streams;
* `MemoryStream.Prompt` — the condition on the two readings of the clock;
* `MemoryStream.Delivers` — what every stream, and every chain of reconnects, owes to its client.

Main results:

* `MemoryStream.inv_step` — every step that meets the condition keeps the invariant;
* `MemoryStream.delivers_reaches` — **in every run whose appends are prompt, every stream emits a
  contiguous stretch of the log, and every chain of reconnects delivers every event exactly once, in
  order**.
-/

import FaultWitness.MemoryStore
import FaultWitness.EventStream

set_option autoImplicit false

namespace MemoryStream

open Incidents MemoryStore EventStream BoundedFeed Python Runs

/-! ### The system -/

/-- The store, the members of `_subscribers`, and the streams.  The last two fields only record the
run: every event ever appended to an incident, and the last reading of the clock. -/
structure Sys where
  store : Store := {}
  subscribers : ℕ → Option Subscriber := fun _ => none
  streams : ℕ → Stream Unit := fun _ => {}
  log : String × String → List IncidentEvent := fun _ => []
  clock : ℤ := 0

inductive Label
  | call (c : Call) (d : Draw)
  | setPending (incidentId : String) (action : String × String)
  | subscribe (n : ℕ) (key : String × String) (lastEventId : Option String)
  | replay (n : ℕ)
  | act (n : ℕ) (a : Act)
deriving DecidableEq

variable (cfg : Config) (sha256 : String → String)

/-- A call of the store, which publishes the event it appends. -/
def stepCall (s : Sys) (c : Call) (d : Draw) : Sys :=
  match perform cfg sha256 s.store c d with
  | (store, .ok (.fresh _ e)) =>
    let key := (c.slot.1, e.incidentId)
    { s with store := store
             subscribers := publish key e s.subscribers
             log := Function.update s.log key (s.log key ++ [e])
             clock := d.prunedAt }
  | (store, _) => { s with store := store, clock := d.prunedAt }

/-- The subscription of a stream. -/
def stepSubscribe (s : Sys) (n : ℕ) (key : String × String) (lastEventId : Option String) : Sys :=
  let st : Stream Unit := { key := key, lastEventId := lastEventId }
  match owned s.store key.1 key.2 with
  | none => { s with streams := Function.update s.streams n (st.finish .notFound) }
  | some _ =>
    { s with
      subscribers :=
        Function.update s.subscribers n (some { key := key, mailbox := { maxsize := bufferSize } })
      streams := Function.update s.streams n { st with phase := .opening () } }

/-- The replay of a stream. -/
def stepReplay (s : Sys) (n : ℕ) : Sys :=
  let st := s.streams n
  let refuse (how : Ending) : Sys :=
    { s with subscribers := Function.update s.subscribers n none
             streams := Function.update s.streams n (st.finish how) }
  match replay s.store st.key.1 st.key.2 st.lastEventId with
  | .ok events =>
    let st := { st with phase := .replaying events
                        delivered := cursorOf st.lastEventId
                        retained := s.store.events st.key }
    { s with streams := Function.update s.streams n st }
  | .error (.retentionGap earliest) => refuse (.retentionGap earliest)
  | .error .cursorError => refuse .cursorError
  | .error .incidentNotFound =>
    { s with streams := Function.update s.streams n (st.finish .notFound) }
  | .error _ => { s with streams := Function.update s.streams n (st.finish .failed) }

def step (s : Sys) : Label → Option Sys
  | .call c d => some (stepCall cfg sha256 s c d)
  | .setPending incidentId action =>
    some { s with store := setPending s.store incidentId action }
  | .subscribe n key lastEventId =>
    match (s.streams n).phase with
    | .idle => some (stepSubscribe s n key lastEventId)
    | _ => none
  | .replay n =>
    match (s.streams n).phase with
    | .opening _ => some (stepReplay s n)
    | _ => none
  | .act n a =>
    match EventStream.act (s.subscribers n) (s.streams n) a with
    | some (sub, st) =>
      some { s with subscribers := Function.update s.subscribers n sub
                    streams := Function.update s.streams n st }
    | none => none

/-- The second reading of the clock is at most the retention age after the first. -/
def Prompt (_ : Sys) : Label → Prop
  | .call _ d => d.prunedAt - cfg.retentionAge ≤ d.occurredAt
  | _ => True

/-- The readings of the clock never go back. -/
def Monotone (s : Sys) : Label → Prop
  | .call _ d => s.clock ≤ d.acceptedAt ∧ d.acceptedAt ≤ d.occurredAt ∧ d.occurredAt ≤ d.prunedAt
  | _ => True

instance (s : Sys) (l : Label) : Decidable (Prompt cfg s l) :=
  match l with
  | .call _ _ => inferInstanceAs (Decidable (_ ≤ _))
  | .setPending _ _ | .subscribe _ _ _ | .replay _ | .act _ _ => isTrue trivial

instance (s : Sys) (l : Label) : Decidable (Monotone s l) :=
  match l with
  | .call _ _ => inferInstanceAs (Decidable (_ ∧ _))
  | .setPending _ _ | .subscribe _ _ _ | .replay _ | .act _ _ => isTrue trivial

/-! ### Retention -/

variable {e : IncidentEvent}

theorem prune_ne_none {count : ℕ} {cutoff : ℤ} (hcount : 1 ≤ count) (es : List IncidentEvent)
    (he : cutoff ≤ e.occurredAt) : prune count cutoff (es ++ [e]) ≠ none := by
  induction es with
  | nil =>
    simp only [List.nil_append, prune, List.length_singleton]
    rw [if_neg (by omega)]
    simp
  | cons x es ih =>
    simp only [List.cons_append, prune]
    split
    · exact ih
    · simp

/-! ### The invariant -/

/-- What holds of the log of one incident and the part of it that is retained. -/
structure LogOk (log retained : List IncidentEvent) : Prop where
  numbered : Numbered IncidentEvent.sequence log
  suffix : retained <:+ log
  nonempty : log ≠ [] → retained ≠ []

/-- What holds of a stream over the log of its incident. -/
structure StreamInv (log : List IncidentEvent) (sub : Option Subscriber) (st : Stream Unit) :
    Prop where
  ok : StreamOk (fun _ => True) log log sub st
  resuming : Resuming st
  /-- The generator runs after a replay, which found an event retained. -/
  retained : st.phase.running = true ∨ st.emitted ≠ [] → st.retained ≠ []
  first : ∀ f, st.retained.head? = some f → 1 ≤ f.sequence ∧ log[f.sequence - 1]? = some f

structure Inv (s : Sys) : Prop where
  log : ∀ key, LogOk (s.log key) (s.store.events key)
  owned : ∀ tenantId incidentId incident,
    owned s.store tenantId incidentId = some incident → s.log (tenantId, incidentId) ≠ []
  stream : ∀ n, StreamInv (s.log (s.streams n).key) (s.subscribers n) (s.streams n)

theorem inv_initial : Inv {} where
  log _ := ⟨by intro i e he; simp at he, List.suffix_refl _, fun h => absurd rfl h⟩
  owned _ _ _ h := by simp [MemoryStore.owned] at h
  stream _ := ⟨rfl, trivial, by simp [Phase.running], by simp⟩

variable {log retained : List IncidentEvent}

theorem LogOk.getLast? (h : LogOk log retained) (hne : log ≠ []) :
    ∃ e, retained.getLast? = some e ∧ e.sequence = log.length := by
  obtain ⟨pre, hpre⟩ := h.suffix
  have hlast := List.getLast?_eq_some_getLast (h.nonempty hne)
  refine ⟨_, hlast, h.numbered.getLast?_segment (a := 0) le_rfl ?_⟩
  rw [segment_length, List.drop_zero, ← hlast]
  conv_lhs => rw [← hpre]
  rw [List.getLast?_append, hlast]
  rfl

theorem LogOk.nextSequence (h : LogOk log retained) : nextSequence retained = log.length + 1 := by
  unfold MemoryStore.nextSequence
  by_cases hlog : log = []
  · have hr : retained = [] := by
      rw [hlog] at h
      exact List.suffix_nil.1 h.suffix
    simp [hlog, hr]
  · obtain ⟨e, hlast, hseq⟩ := h.getLast? hlog
    rw [hlast]
    show e.sequence + 1 = log.length + 1
    rw [hseq]

theorem LogOk.append {kept : List IncidentEvent} (h : LogOk log retained)
    (hseq : e.sequence = MemoryStore.nextSequence retained) {count : ℕ} {cutoff : ℤ}
    (hk : prune count cutoff (retained ++ [e]) = some kept) : LogOk (log ++ [e]) kept := by
  obtain ⟨hs, hne⟩ := prune_suffix hk
  refine ⟨h.numbered.append (by rw [hseq, h.nextSequence]), hs.trans ?_, fun _ => hne⟩
  obtain ⟨pre, hpre⟩ := h.suffix
  exact ⟨pre, by rw [← hpre, List.append_assoc]⟩

/-- A replay that is answered reaches from the start of the stream to the end of the log. -/
theorem replay_segment {store : Store} (st : Stream Unit) {events : List IncidentEvent}
    (hlog : LogOk log (store.events st.key)) (hne : log ≠ [])
    (h : replay store st.key.1 st.key.2 st.lastEventId = .ok events)
    (hret : st.retained = store.events st.key) :
    events = segment log st.start log.length ∧ st.start ≤ log.length ∧
      (events = [] → cursorOf st.lastEventId = st.start) := by
  obtain ⟨pre, hpre⟩ := hlog.suffix
  obtain ⟨first, rest, hfirst⟩ := List.exists_cons_of_ne_nil (hlog.nonempty hne)
  have hdrop : store.events st.key = log.drop pre.length := by
    rw [← hpre, List.drop_left]
  have hseq : first.sequence = pre.length + 1 := by
    refine hlog.numbered pre.length first ?_
    rw [← hpre, hfirst, List.getElem?_append_right le_rfl, Nat.sub_self, List.getElem?_cons_zero]
  have hlen : pre.length < log.length := by
    rw [← hpre, hfirst]
    simp
  simp only [replay] at h
  cases hown : owned store st.key.1 st.key.2 with
  | none => simp [hown] at h
  | some incident =>
    simp only [hown] at h
    cases htext : st.lastEventId with
    | none =>
      have hstart : st.start = pre.length := by
        simp [Stream.start, htext, hret, hfirst, hseq]
      simp only [htext, Except.ok.injEq, Prod.mk.eta] at h
      rw [hstart, segment_length, ← hdrop]
      refine ⟨h.symm, hlen.le, fun hnil => ?_⟩
      rw [← h, hfirst] at hnil
      simp at hnil
    | some text =>
      simp only [htext, Prod.mk.eta] at h
      cases hc : intParse text with
      | none => simp [hc] at h
      | some cursor =>
        simp only [hc] at h
        split at h
        · simp at h
        rename_i hrange
        rw [not_or] at hrange
        simp only [hfirst, List.head?_cons] at h
        split at h
        · simp at h
        rename_i hgap
        -- the cursor lies between the events dropped and the end of the log
        obtain ⟨c, rfl⟩ := Int.eq_ofNat_of_zero_le (not_lt.1 hrange.1)
        have hstart : st.start = c := by
          simp [Stream.start, htext, cursorOf, hc]
        have hge : pre.length ≤ c := by
          rw [hseq] at hgap
          push_cast at hgap
          omega
        have hle : c ≤ log.length := by
          by_contra hgt
          obtain ⟨e, hlast, hend⟩ := hlog.getLast? hne
          refine hrange.2 ?_
          rw [hlast]
          simp only [Option.any_some, decide_eq_true_eq, hend]
          omega
        simp only [← hfirst, Except.ok.injEq] at h
        rw [hstart, ← h, hdrop]
        refine ⟨?_, hle, fun _ => by simp [cursorOf, hc]⟩
        rw [← hlog.numbered.filter_drop hge hle]
        simp

/-! ### Every step keeps the invariant -/

variable {cfg sha256}

variable {s : Sys} {st : Stream Unit} {sub : Option Subscriber}

theorem Inv.appends (h : Inv s) {store : Store} {c : Call} {d : Draw} {response : Response}
    (ha : Appends cfg sha256 s.store store c d response e) (clock : ℤ) :
    Inv { s with store := store
                 subscribers := publish (c.slot.1, e.incidentId) e s.subscribers
                 log := Function.update s.log (c.slot.1, e.incidentId)
                   (s.log (c.slot.1, e.incidentId) ++ [e])
                 clock := clock } := by
  obtain ⟨after, hadv, hinc⟩ := ha.advance
  obtain ⟨kept, hprune, hevents⟩ := ha.kept
  constructor
  · intro key
    by_cases hk : key = (c.slot.1, e.incidentId)
    · subst hk
      simp only [hevents, Function.update_self]
      exact (h.log _).append ha.sequence hprune
    · simp only [hevents, Function.update_of_ne hk]
      exact h.log key
  · intro tenantId incidentId incident hown
    obtain ⟨hi, rfl⟩ := owned_eq_some.1 hown
    simp only [hinc] at hi
    by_cases hid : incidentId = e.incidentId
    · subst hid
      rw [Function.update_self, Option.some.injEq] at hi
      subst hi
      simp [hadv.tenantId]
    · rw [Function.update_of_ne hid] at hi
      have hne : (incident.tenantId, incidentId) ≠ (c.slot.1, e.incidentId) :=
        fun heq => hid (Prod.mk.inj heq).2
      simp only [Function.update_of_ne hne]
      exact h.owned _ _ incident (owned_eq_some.2 ⟨hi, rfl⟩)
  · intro n
    have hn := h.stream n
    by_cases hk : (s.streams n).key = (c.slot.1, e.incidentId)
    · simp only [hk, Function.update_self] at hn ⊢
      have hok := (hn.ok.grow [e]).publish (h.log _).numbered e
      rw [hk] at hok
      refine ⟨hok, hn.resuming, hn.retained, fun f hf => ?_⟩
      obtain ⟨h₁, h₂⟩ := hn.first f hf
      exact ⟨h₁, by rw [List.getElem?_append_left (List.getElem?_eq_some_iff.1 h₂).1, h₂]⟩
    · simp only [Function.update_of_ne hk]
      exact ⟨hn.ok.publish_of_ne hk e, hn.resuming, hn.retained, hn.first⟩

theorem Inv.stepCall (hcount : 1 ≤ cfg.retentionCount) (h : Inv s) (c : Call) (d : Draw)
    (hprompt : d.prunedAt - cfg.retentionAge ≤ d.occurredAt) : Inv (stepCall cfg sha256 s c d) := by
  have hperf := performed cfg sha256 s.store d c
  unfold MemoryStream.stepCall
  cases hp : perform cfg sha256 s.store c d with
  | mk store r =>
    rw [hp] at hperf
    simp only at hperf
    cases hperf with
    | replayed prior hprior hdigest => exact ⟨h.log, h.owned, h.stream⟩
    | refused err herr => exact ⟨h.log, h.owned, h.stream⟩
    | emptied _ tenantId incidentId e he hprune =>
      exact absurd hprune (prune_ne_none hcount _ (by rw [he]; exact hprompt))
    | fresh _ response e ha => exact h.appends ha d.prunedAt

theorem Inv.setStream (h : Inv s) (n : ℕ) (hst : StreamInv (s.log st.key) sub st) :
    Inv { s with subscribers := Function.update s.subscribers n sub
                 streams := Function.update s.streams n st } where
  log := h.log
  owned := h.owned
  stream m := by
    by_cases hm : m = n
    · subst hm
      simpa using hst
    · simpa [Function.update_of_ne hm] using h.stream m

theorem Inv.setStream_same (h : Inv s) (n : ℕ)
    (hst : StreamInv (s.log st.key) (s.subscribers n) st) :
    Inv { s with streams := Function.update s.streams n st } := by
  have := h.setStream n hst
  rwa [Function.update_eq_self] at this

theorem streamInv_refused (hem : st.emitted = [])
    (hfirst : ∀ f, st.retained.head? = some f → 1 ≤ f.sequence ∧ log[f.sequence - 1]? = some f)
    {how : Ending} (hhow : ∀ r, how ≠ .slowConsumer r) : StreamInv log sub (st.finish how) where
  ok := by
    refine ⟨⟨?_, fun hne => absurd hem hne⟩, fun r hr => absurd hr (hhow r)⟩
    show st.emitted = segment log st.start (st.start + st.emitted.length)
    simp [hem]
  resuming r hr := absurd hr (hhow r)
  retained h := by simp [Stream.finish, Phase.running, hem] at h
  first := hfirst

theorem Inv.stepSubscribe (h : Inv s) (n : ℕ) (key : String × String)
    (lastEventId : Option String) : Inv (stepSubscribe s n key lastEventId) := by
  unfold MemoryStream.stepSubscribe
  cases hown : MemoryStore.owned s.store key.1 key.2 with
  | none => exact h.setStream_same n (streamInv_refused rfl (by simp) (by simp))
  | some incident =>
    refine h.setStream n ⟨⟨rfl, fun _ => ⟨_, rfl, tracks_nil le_rfl⟩⟩, trivial, ?_, by simp⟩
    simp [Phase.running]

theorem LogOk.head? (h : LogOk log retained) {f : IncidentEvent} (hf : retained.head? = some f) :
    1 ≤ f.sequence ∧ log[f.sequence - 1]? = some f := by
  obtain ⟨pre, hpre⟩ := h.suffix
  have hat : log[pre.length]? = some f := by
    rw [← hpre, List.getElem?_append_right le_rfl, Nat.sub_self, ← List.head?_eq_getElem?, hf]
  have hseq := h.numbered _ _ hat
  exact ⟨by omega, by rw [hseq, Nat.add_sub_cancel, hat]⟩

theorem Inv.stepReplay (h : Inv s) {n : ℕ} {o : Unit} (hphase : (s.streams n).phase = .opening o) :
    Inv (stepReplay s n) := by
  have hn := (h.stream n).ok
  simp only [StreamOk, hphase] at hn
  obtain ⟨hem, hsub⟩ := hn
  obtain ⟨m, hsub, ht⟩ := hsub trivial
  have hend : ∀ how sub, (∀ r, how ≠ .slowConsumer r) →
      StreamInv (s.log (s.streams n).key) sub ((s.streams n).finish how) :=
    fun how sub hhow => streamInv_refused hem (h.stream n).first hhow
  unfold MemoryStream.stepReplay
  simp only
  split
  · rename_i events hr
    have hne : s.log (s.streams n).key ≠ [] := by
      cases hown : MemoryStore.owned s.store (s.streams n).key.1 (s.streams n).key.2 with
      | none => simp [replay, hown] at hr
      | some incident => exact h.owned _ _ incident hown
    obtain ⟨hev, hle, hdel⟩ := replay_segment
      { s.streams n with
        phase := .replaying events
        delivered := cursorOf (s.streams n).lastEventId
        retained := s.store.events (s.streams n).key }
      (h.log _) hne hr rfl
    refine h.setStream_same n ⟨streamOk_replaying rfl hsub hem hev hle ht hdel, ?_, ?_, ?_⟩
    · show cursorOf _ = Stream.resume _
      simp [Stream.resume, hem]
    · exact fun _ => (h.log _).nonempty hne
    · exact fun f hf => (h.log _).head? hf
  · exact h.setStream n (hend _ _ (by simp))
  · exact h.setStream n (hend _ _ (by simp))
  · exact h.setStream_same n (hend _ _ (by simp))
  · exact h.setStream_same n (hend _ _ (by simp))

theorem StreamInv.act {sub' : Option Subscriber} {st' : Stream Unit} (h : StreamInv log sub st)
    (hnum : Numbered IncidentEvent.sequence log) {a : Act}
    (hs : EventStream.act sub st a = some (sub', st')) : StreamInv log sub' st' where
  ok := h.ok.act hnum (List.prefix_refl _) hs
  resuming := h.resuming.act hs
  retained _ := by
    rw [(acted_of_act hs).same.2]
    exact h.retained (Or.inl (acted_of_act hs).running)
  first := by
    rw [(acted_of_act hs).same.2]
    exact h.first

/-- **Every step that meets the condition keeps the invariant.** -/
theorem inv_step (hcount : 1 ≤ cfg.retentionCount) {s' : Sys} {l : Label} (h : Inv s)
    (hl : Prompt cfg s l) (hs : step cfg sha256 s l = some s') : Inv s' := by
  cases l with
  | call c d =>
    cases hs
    exact h.stepCall hcount c d hl
  | setPending incidentId action =>
    cases hs
    refine ⟨?_, ?_, h.stream⟩
    · intro key
      have : (setPending s.store incidentId action).events = s.store.events := by
        unfold setPending
        split <;> rfl
      simp only [this]
      exact h.log key
    · intro tenantId id incident hown
      obtain ⟨hi, rfl⟩ := owned_eq_some.1 hown
      unfold setPending at hi
      split at hi
      · rename_i old hold
        simp only [setIncident] at hi
        by_cases hid : id = incidentId
        · subst hid
          rw [Function.update_self, Option.some.injEq] at hi
          subst hi
          exact h.owned _ _ old (owned_eq_some.2 ⟨hold, rfl⟩)
        · rw [Function.update_of_ne hid] at hi
          exact h.owned _ _ incident (owned_eq_some.2 ⟨hi, rfl⟩)
      · exact h.owned _ _ incident (owned_eq_some.2 ⟨hi, rfl⟩)
  | subscribe n key lastEventId =>
    simp only [step] at hs
    split at hs
    · cases hs
      exact h.stepSubscribe n key lastEventId
    · cases hs
  | replay n =>
    simp only [step] at hs
    split at hs
    · rename_i o hphase
      cases hs
      exact h.stepReplay hphase
    · cases hs
  | act n a =>
    simp only [step] at hs
    split at hs
    · rename_i sub st hact
      cases hs
      have hst := (h.stream n).act (h.log _).numbered hact
      rw [← (acted_of_act hact).same.1] at hst
      exact h.setStream n hst
    · cases hs

theorem inv_reaches (hcount : 1 ≤ cfg.retentionCount)
    (h : Reaches (step cfg sha256) (Prompt cfg) {} s) : Inv s :=
  h.invariant inv_initial fun _ _ _ hi hl hs => inv_step hcount hi hl hs

/-! ### What the streams deliver -/

/-- What a stream of the incident `key`, and a chain of reconnects to it, owes to its client. -/
structure Delivers (s : Sys) : Prop where
  /-- The sequences a stream has emitted are consecutive, so they increase and none repeats; they
  begin right after the cursor, or with the first event retained. -/
  sequences : ∀ n, (s.streams n).emitted.map IncidentEvent.sequence =
    List.range' ((s.streams n).start + 1) (s.streams n).emitted.length
  cursor : ∀ n text c, (s.streams n).lastEventId = some text → intParse text = some (c : ℤ) →
    0 ≤ c → ((s.streams n).start : ℤ) = c
  first : ∀ n, (s.streams n).lastEventId = none → (s.streams n).emitted ≠ [] →
    (s.streams n).emitted.head? = (s.streams n).retained.head?
  /-- What is emitted are the events of the log under these sequences. -/
  events : ∀ n, (s.streams n).emitted = segment (s.log (s.streams n).key) (s.streams n).start
    ((s.streams n).start + (s.streams n).emitted.length)
  /-- A slow consumer is told to resume after the last event emitted, or at its cursor. -/
  slow : ∀ n r, (s.streams n).phase = .ended (.slowConsumer r) → r = (s.streams n).resume
  /-- A chain of reconnects delivers a stretch of the log. -/
  chain : ∀ n ns, List.IsChain Resumes ((n :: ns).map s.streams) →
    ∃ a, (n :: ns).flatMap (fun m => (s.streams m).emitted) =
        segment (s.log (s.streams n).key) a
          (a + ((n :: ns).flatMap fun m => (s.streams m).emitted).length) ∧
      ((s.streams n).lastEventId ≠ none → a = (s.streams n).start)

theorem Inv.delivers (h : Inv s) : Delivers s := by
  have hf : ∀ n, Follows (s.log (s.streams n).key) (s.streams n) := fun n => (h.stream n).ok.follows
  constructor
  · intro n
    obtain ⟨h₁, h₂⟩ := hf n
    by_cases hne : (s.streams n).emitted = []
    · simp [hne]
    · have hmap := (h.log _).numbered.map_segment (a := (s.streams n).start)
        (Nat.le_add_right ..) (h₂ hne)
      rwa [← h₁, Nat.add_sub_cancel_left] at hmap
  · intro n text c hlast hparse hc
    simp only [Stream.start, hlast, cursorOf, Option.bind_some, hparse, Option.getD_some]
    exact Int.toNat_of_nonneg hc
  · intro n hlast hne
    have hn := h.stream n
    obtain ⟨f, rest, hret⟩ := List.exists_cons_of_ne_nil (hn.retained (Or.inr hne))
    obtain ⟨e, es, hem⟩ := List.exists_cons_of_ne_nil hne
    obtain ⟨-, hat⟩ := hn.first f (by rw [hret]; rfl)
    have hstart : (s.streams n).start = f.sequence - 1 := by
      simp [Stream.start, hlast, hret]
    have hseg := (hf n).1
    rw [hem] at hseg
    have he := (segment_eq_cons hseg.symm).1
    rw [hstart, hat] at he
    rw [hem, hret]
    exact he.symm
  · exact fun n => (hf n).1
  · intro n r hp
    have hr := (h.stream n).resuming
    simp only [Resuming, hp] at hr
    exact hr r rfl
  · intro n ns hchain
    have hkey := chain_key _ _ hchain
    have hfollows : ∀ x ∈ s.streams n :: ns.map s.streams,
        Follows (s.log (s.streams n).key) x := by
      intro x hx
      rw [← List.map_cons] at hx
      obtain ⟨m, hm, rfl⟩ := List.mem_map.1 hx
      have := hf m
      rwa [hkey _ (by rw [← List.map_cons]; exact List.mem_map_of_mem hm)] at this
    obtain ⟨a, ha, -, hstart⟩ := chain_follows (h.log _).numbered _ _ hchain hfollows
    rw [← List.map_cons, List.flatMap_map] at ha
    exact ⟨a, ha, hstart⟩

/-- **In every run whose appends are prompt, every stream emits a contiguous stretch of the log,
and every chain of reconnects delivers every event exactly once, in order.** -/
theorem delivers_reaches (hcount : 1 ≤ cfg.retentionCount) {s : Sys}
    (h : Reaches (step cfg sha256) (Prompt cfg) {} s) : Delivers s :=
  (inv_reaches hcount h).delivers

/-- A stream that replays the creation and then receives a feedback event live. -/
theorem delivers_live : ∃ s : Sys,
    Reaches (step {} sampleSha256) (Prompt {}) {} s ∧ Delivers s ∧
      (s.streams 0).emitted.map IncidentEvent.sequence = [1, 2] := by
  obtain ⟨s, hs, hp⟩ := exists_reaches_of_test (step {} sampleSha256) (C := Prompt {})
    (c := fun s l => decide (Prompt {} s l))
    (p := fun s => decide ((s.streams 0).emitted.map IncidentEvent.sequence = [1, 2]))
    (fun s l _ h => of_decide_eq_true h) (a := {})
    ([.call (.create "tenant-a" "key-1" sampleCreate) { uuid := "7" },
      .subscribe 0 ("tenant-a", "inc_7") none, .replay 0, .act 0 .emit, .act 0 .emit,
      .act 0 (.check true),
      .call (.feedback "tenant-a" "user-b" "inc_7" "key-2" sampleFeedback)
        { uuid := "8", acceptedAt := 1, occurredAt := 2, prunedAt := 3 },
      .act 0 .take]) (by decide +kernel)
  exact ⟨s, hs, delivers_reaches (by decide) hs, of_decide_eq_true hp⟩

/-- With a retention of zero days a stream loses an event: the second event is pruned as soon as it
is appended, the third is numbered one again and is skipped as a duplicate, and the fourth is
emitted as the second. -/
theorem not_delivers_zero_retention : ∃ s : Sys,
    Reaches (step { retentionAge := 0 } sampleSha256) Monotone {} s ∧ ¬ Delivers s := by
  obtain ⟨s, hs, hp⟩ := exists_reaches_of_test (step { retentionAge := 0 } sampleSha256)
    (C := Monotone) (c := fun s l => decide (Monotone s l))
    (p := fun s => decide ((s.streams 0).emitted ≠
      segment (s.log (s.streams 0).key) (s.streams 0).start
        ((s.streams 0).start + (s.streams 0).emitted.length)))
    (fun s l _ h => of_decide_eq_true h) (a := {})
    ([.call (.create "tenant-a" "key-1" sampleCreate) { uuid := "7" },
      .subscribe 0 ("tenant-a", "inc_7") none, .replay 0, .act 0 .emit, .act 0 .emit,
      .call (.feedback "tenant-a" "user-b" "inc_7" "key-2" sampleFeedback)
        { uuid := "8", acceptedAt := 1, occurredAt := 1, prunedAt := 2 },
      .call (.feedback "tenant-a" "user-b" "inc_7" "key-3" sampleFeedback)
        { uuid := "9", acceptedAt := 3, occurredAt := 3, prunedAt := 3 },
      .call (.feedback "tenant-a" "user-b" "inc_7" "key-4" sampleFeedback)
        { uuid := "10", acceptedAt := 3, occurredAt := 3, prunedAt := 3 },
      .act 0 (.check true), .act 0 .take, .act 0 (.check true), .act 0 .take])
    (by decide +kernel)
  exact ⟨s, hs, fun h => of_decide_eq_true hp (h.events 0)⟩

end MemoryStream
