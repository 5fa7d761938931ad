/-
**Streaming the events of an incident.**

The generator `event_stream` inside `stream_incident_events` of `faultwitness/api/app.py`, as a
state machine.  A stream first subscribes and replays (how that happens depends on the store, and is
the type parameter `O` here), then emits what was replayed, and then loops: it checks that the
client is still entitled and connected, looks at the mark of its subscriber, and waits for the next
event of its queue, of which it passes on those beyond the last one it has emitted.  The store and
all other streams may move between any two of these steps.

A stream is judged by the log of its incident.  What it owes is `Follows`: everything it has emitted
is a contiguous stretch of the log.  The log it is fed from may lag behind the log it replays from
(`published` and `full` below); as long as the one is a prefix of the other, every step keeps the
invariant `StreamOk`, from which `Follows` is read off.

Main definitions:

* `EventStream.Stream`, `EventStream.act` — the generator;
* `EventStream.publish` — handing an event to the subscribers of its incident;
* `EventStream.StreamOk` — the invariant.

Main results:

* `EventStream.StreamOk.act`, `EventStream.StreamOk.publish`, `EventStream.StreamOk.grow` — every
  step of the stream and every step of the store keeps it;
* `EventStream.StreamOk.follows` — **what a stream has emitted is a stretch of the log**.
-/

import FaultWitness.BoundedFeed
import FaultWitness.Incidents

set_option autoImplicit false

namespace EventStream

open Incidents BoundedFeed Python

/-! ### Subscribers -/

/-- A member of `_subscribers[key]`. -/
structure Subscriber where
  key : String × String
  mailbox : Mailbox IncidentEvent

/-- The `buffer_size` that a stream subscribes with. -/
def bufferSize : ℕ := 100

/-- Handing an event to a subscriber of the incident `key`. -/
def Subscriber.offer (key : String × String) (e : IncidentEvent) (x : Subscriber) : Subscriber :=
  if x.key = key then { x with mailbox := x.mailbox.put e } else x

/-- Handing an event to every subscriber of the incident `key`.  Subscribers are told apart by the
stream they belong to. -/
def publish (key : String × String) (e : IncidentEvent) (subscribers : ℕ → Option Subscriber) :
    ℕ → Option Subscriber :=
  fun n => (subscribers n).map (Subscriber.offer key e)

/-! ### The generator -/

/-- Why a stream ended. -/
inductive Ending
  | notFound
  | cursorError
  | retentionGap (earliestCursor : String)
  | failed
  | slowConsumer (resumeFrom : ℤ)
  | closed
deriving DecidableEq

/-- Where a stream stands. -/
inductive Phase (O : Type)
  | idle
  /-- Subscribing and replaying, before the generator starts. -/
  | opening (o : O)
  /-- In the loop over the replayed events, with these left. -/
  | replaying (rest : List IncidentEvent)
  /-- Before the condition of the `while` loop. -/
  | top
  /-- In `await subscriber.queue.get()`. -/
  | waiting
  | ended (how : Ending)

/-- The cursor a client gives, `int(last_event_id or 0)`. -/
def cursorOf (lastEventId : Option String) : ℤ := (lastEventId.bind intParse).getD 0

/-- A request for the stream of an incident, and how far it is.  The events it has emitted are
recorded, and so are the events that were retained when it replayed. -/
structure Stream (O : Type) where
  key : String × String := ("", "")
  lastEventId : Option String := none
  phase : Phase O := .idle
  delivered : ℤ := 0
  emitted : List IncidentEvent := []
  retained : List IncidentEvent := []

/-- The steps of the generator. -/
inductive Act
  /-- The loop over the replayed events goes on. -/
  | emit
  /-- The condition of the `while` loop is evaluated, and the mark after it. -/
  | check (connected : Bool)
  /-- The queue yields an event. -/
  | take
  /-- The wait times out. -/
  | timeout
  /-- The client goes away. -/
  | disconnect
deriving DecidableEq

namespace Stream

variable {O : Type}

/-- Emitting an event. -/
def yield (st : Stream O) (e : IncidentEvent) (next : Phase O) : Stream O :=
  { st with delivered := e.sequence, emitted := st.emitted ++ [e], phase := next }

/-- The stream ends. -/
def finish (st : Stream O) (how : Ending) : Stream O := { st with phase := .ended how }

/-- The sequence before the first one that the stream has to emit: the cursor it was given, or what
precedes the first event retained. -/
def start (st : Stream O) : ℕ :=
  match st.lastEventId with
  | some _ => (cursorOf st.lastEventId).toNat
  | none => (st.retained.head?.map IncidentEvent.sequence).getD 1 - 1

/-- Where a client resumes: after the last event emitted, or at the cursor it had given. -/
def resume (st : Stream O) : ℤ :=
  (st.emitted.getLast?.map fun e => (e.sequence : ℤ)).getD (cursorOf st.lastEventId)

end Stream

variable {O : Type}

/-- A step of the generator, with the subscriber it reads from; ending unsubscribes. -/
def act (sub : Option Subscriber) (st : Stream O) : Act → Option (Option Subscriber × Stream O)
  | .emit =>
    match st.phase with
    | .replaying (e :: rest) => some (sub, st.yield e (.replaying rest))
    | .replaying [] => some (sub, { st with phase := .top })
    | _ => none
  | .check connected =>
    match st.phase, sub with
    | .top, some x =>
      if connected then
        if x.mailbox.closed then some (none, st.finish (.slowConsumer st.delivered))
        else some (sub, { st with phase := .waiting })
      else some (none, st.finish .closed)
    | _, _ => none
  | .take =>
    match st.phase, sub with
    | .waiting, some x =>
      match x.mailbox.queue with
      | e :: rest =>
        let sub := some { x with mailbox := { x.mailbox with queue := rest } }
        if (e.sequence : ℤ) ≤ st.delivered then some (sub, { st with phase := .top })
        else some (sub, st.yield e .top)
      | [] => none
    | _, _ => none
  | .timeout =>
    match st.phase with
    | .waiting => some (sub, { st with phase := .top })
    | _ => none
  | .disconnect =>
    match st.phase with
    | .replaying _ => some (none, st.finish .closed)
    | .top => some (none, st.finish .closed)
    | .waiting => some (none, st.finish .closed)
    | _ => none

/-- The phases in which the generator runs. -/
def Phase.running : Phase O → Bool
  | .replaying _ => true
  | .top => true
  | .waiting => true
  | _ => false

/-- What a step of the generator can do. -/
inductive Acted (sub : Option Subscriber) (st : Stream O) : Option Subscriber → Stream O → Prop
  | emit {e : IncidentEvent} {rest : List IncidentEvent} (hp : st.phase = .replaying (e :: rest)) :
      Acted sub st sub (st.yield e (.replaying rest))
  | replayed (hp : st.phase = .replaying []) : Acted sub st sub { st with phase := .top }
  | slow {x : Subscriber} (hp : st.phase = .top) (hsub : sub = some x)
      (hc : x.mailbox.closed = true) :
      Acted sub st none (st.finish (.slowConsumer st.delivered))
  | wait {x : Subscriber} (hp : st.phase = .top) (hsub : sub = some x)
      (hc : x.mailbox.closed = false) : Acted sub st sub { st with phase := .waiting }
  | skip {x : Subscriber} {e : IncidentEvent} {rest : List IncidentEvent}
      (hp : st.phase = .waiting) (hsub : sub = some x) (hq : x.mailbox.queue = e :: rest)
      (hle : (e.sequence : ℤ) ≤ st.delivered) :
      Acted sub st (some { x with mailbox := { x.mailbox with queue := rest } })
        { st with phase := .top }
  | take {x : Subscriber} {e : IncidentEvent} {rest : List IncidentEvent}
      (hp : st.phase = .waiting) (hsub : sub = some x) (hq : x.mailbox.queue = e :: rest)
      (hgt : ¬ (e.sequence : ℤ) ≤ st.delivered) :
      Acted sub st (some { x with mailbox := { x.mailbox with queue := rest } }) (st.yield e .top)
  | timeout (hp : st.phase = .waiting) : Acted sub st sub { st with phase := .top }
  | closed (hp : st.phase.running = true) : Acted sub st none (st.finish .closed)

theorem acted_of_act {sub sub' : Option Subscriber} {st st' : Stream O} {a : Act}
    (hs : act sub st a = some (sub', st')) : Acted sub st sub' st' := by
  cases a with
  | emit =>
    simp only [act] at hs
    split at hs
    · rename_i hp
      cases hs
      exact .emit hp
    · rename_i hp
      cases hs
      exact .replayed hp
    · cases hs
  | check connected =>
    simp only [act] at hs
    split at hs
    · rename_i x hp
      split at hs
      · split at hs
        · rename_i hc
          cases hs
          exact .slow hp rfl hc
        · rename_i hc
          cases hs
          exact .wait hp rfl (by simpa using hc)
      · cases hs
        exact .closed (by rw [hp]; rfl)
    · cases hs
  | take =>
    simp only [act] at hs
    split at hs
    · rename_i x hp
      split at hs
      · rename_i e rest hq
        split at hs
        · rename_i hle
          cases hs
          exact .skip hp rfl hq hle
        · rename_i hgt
          cases hs
          exact .take hp rfl hq hgt
      · cases hs
    · cases hs
  | timeout =>
    simp only [act] at hs
    split at hs
    · rename_i hp
      cases hs
      exact .timeout hp
    · cases hs
  | disconnect =>
    simp only [act] at hs
    split at hs
    · rename_i hp
      cases hs
      exact .closed (by rw [hp]; rfl)
    · rename_i hp
      cases hs
      exact .closed (by rw [hp]; rfl)
    · rename_i hp
      cases hs
      exact .closed (by rw [hp]; rfl)
    · cases hs

/-- A step of the generator does not change what was asked for, nor what was retained then. -/
theorem Acted.same {sub sub' : Option Subscriber} {st st' : Stream O} (h : Acted sub st sub' st') :
    st'.key = st.key ∧ st'.retained = st.retained := by
  cases h <;> exact ⟨rfl, rfl⟩

theorem Acted.running {sub sub' : Option Subscriber} {st st' : Stream O}
    (h : Acted sub st sub' st') : st.phase.running = true := by
  cases h with
  | closed hp => exact hp
  | _ => simp_all [Phase.running]

/-! ### What a stream owes -/

/-- Everything emitted is a contiguous stretch of the log. -/
def Follows (full : List IncidentEvent) (st : Stream O) : Prop :=
  st.emitted = segment full st.start (st.start + st.emitted.length) ∧
    (st.emitted ≠ [] → st.start + st.emitted.length ≤ full.length)

/-- The stream has caught up to where its `delivered` says, and its mailbox takes over from there. -/
structure Current (full : List IncidentEvent) (st : Stream O) : Prop where
  emitted : st.emitted = segment full st.start (st.start + st.emitted.length)
  bound : st.start + st.emitted.length ≤ full.length
  delivered : st.delivered = (st.start + st.emitted.length : ℕ)

/-- The invariant of a stream that replays from the log `full` and is fed from `published`; `reg`
says at which stages of its opening it is already subscribed. -/
def StreamOk (reg : O → Prop) (full published : List IncidentEvent) (sub : Option Subscriber)
    (st : Stream O) : Prop :=
  match st.phase with
  | .idle => st.emitted = []
  | .opening o => st.emitted = [] ∧
      (reg o → ∃ m, sub = some ⟨st.key, m⟩ ∧ Tracks published m full.length)
  | .replaying rest => ∃ m R, sub = some ⟨st.key, m⟩ ∧
      st.emitted ++ rest = segment full st.start R ∧ st.start ≤ R ∧ R ≤ full.length ∧
      Tracks published m R ∧
      (st.emitted = [] → rest ≠ [] ∨ st.delivered = st.start) ∧
      (st.emitted ≠ [] → st.delivered = (st.start + st.emitted.length : ℕ))
  | .top => ∃ m, sub = some ⟨st.key, m⟩ ∧ Current full st ∧
      Tracks published m (st.start + st.emitted.length)
  | .waiting => ∃ m, sub = some ⟨st.key, m⟩ ∧ Current full st ∧
      Waits IncidentEvent.sequence published m (st.start + st.emitted.length)
  | .ended how => Follows full st ∧
      ∀ r, how = .slowConsumer r → st.start + st.emitted.length ≤ full.length ∧
        r = (st.start + st.emitted.length : ℕ)

section Invariant

variable {reg : O → Prop} {full published : List IncidentEvent} {sub : Option Subscriber}
  {st : Stream O} {rest : List IncidentEvent} {st' : Stream O} {sub' : Option Subscriber}

theorem Current.follows (h : Current full st) : Follows full st := ⟨h.emitted, fun _ => h.bound⟩

theorem Current.setPhase (h : Current full st) (p : Phase O) :
    Current full { st with phase := p } := ⟨h.emitted, h.bound, h.delivered⟩

theorem follows_of_append {R : ℕ} (h : st.emitted ++ rest = segment full st.start R)
    (hR : R ≤ full.length) : Follows full st := by
  refine ⟨eq_segment_of_append h, fun hne => ?_⟩
  have hlen := congrArg List.length h
  rw [List.length_append, length_segment hR] at hlen
  have := List.length_pos_of_ne_nil hne
  omega

/-- **What a stream has emitted is a stretch of the log.** -/
theorem StreamOk.follows (h : StreamOk reg full published sub st) : Follows full st := by
  unfold StreamOk at h
  split at h
  · exact ⟨by simp [h], fun hne => absurd h hne⟩
  · exact ⟨by simp [h.1], fun hne => absurd h.1 hne⟩
  · obtain ⟨m, R, -, hrest, -, hR, -⟩ := h
    exact follows_of_append hrest hR
  · obtain ⟨m, -, hc, -⟩ := h
    exact hc.follows
  · obtain ⟨m, -, hc, -⟩ := h
    exact hc.follows
  · exact h.1

/-! ### Steps of the store -/

theorem Follows.grow (h : Follows full st) (l : List IncidentEvent) : Follows (full ++ l) st := by
  obtain ⟨h₁, h₂⟩ := h
  by_cases hne : st.emitted = []
  · exact ⟨by simp [hne], fun h => absurd hne h⟩
  · have hb := h₂ hne
    refine ⟨?_, fun _ => by rw [List.length_append]; omega⟩
    rw [segment_append hb]
    exact h₁

theorem Current.grow (h : Current full st) (l : List IncidentEvent) : Current (full ++ l) st where
  emitted := by rw [segment_append h.bound]; exact h.emitted
  bound := by rw [List.length_append]; have := h.bound; omega
  delivered := h.delivered

theorem StreamOk.grow (h : StreamOk reg full published sub st) (l : List IncidentEvent) :
    StreamOk reg (full ++ l) published sub st := by
  unfold StreamOk at h ⊢
  cases hp : st.phase with
  | idle =>
    rw [hp] at h
    exact h
  | opening o =>
    rw [hp] at h
    refine ⟨h.1, fun hr => ?_⟩
    obtain ⟨m, hsub, ht⟩ := h.2 hr
    exact ⟨m, hsub, ht.mono (by rw [List.length_append]; omega)⟩
  | replaying rest =>
    rw [hp] at h
    obtain ⟨m, R, hsub, hrest, hle, hR, ht⟩ := h
    exact ⟨m, R, hsub, by rw [segment_append hR, hrest], hle, by rw [List.length_append]; omega, ht⟩
  | top =>
    rw [hp] at h
    obtain ⟨m, hsub, hc, ht⟩ := h
    exact ⟨m, hsub, hc.grow l, ht⟩
  | waiting =>
    rw [hp] at h
    obtain ⟨m, hsub, hc, hw⟩ := h
    exact ⟨m, hsub, hc.grow l, hw⟩
  | ended how =>
    rw [hp] at h
    refine ⟨h.1.grow l, fun r hr => ?_⟩
    obtain ⟨hb, hr⟩ := h.2 r hr
    exact ⟨by rw [List.length_append]; omega, hr⟩

theorem StreamOk.publish (h : StreamOk reg full published sub st)
    (hnum : Numbered IncidentEvent.sequence published) (e : IncidentEvent) :
    StreamOk reg full (published ++ [e]) (sub.map (Subscriber.offer st.key e)) st := by
  have hoffer : ∀ m, (some ⟨st.key, m⟩ : Option Subscriber).map (Subscriber.offer st.key e) =
      some ⟨st.key, m.put e⟩ := by
    intro m
    simp [Subscriber.offer]
  unfold StreamOk at h ⊢
  cases hp : st.phase with
  | idle =>
    rw [hp] at h
    exact h
  | opening o =>
    rw [hp] at h
    refine ⟨h.1, fun hr => ?_⟩
    obtain ⟨m, rfl, ht⟩ := h.2 hr
    exact ⟨_, hoffer m, ht.put e⟩
  | replaying rest =>
    rw [hp] at h
    obtain ⟨m, R, rfl, hrest, hle, hR, ht, hd⟩ := h
    exact ⟨_, R, hoffer m, hrest, hle, hR, ht.put e, hd⟩
  | top =>
    rw [hp] at h
    obtain ⟨m, rfl, hc, ht⟩ := h
    exact ⟨_, hoffer m, hc, ht.put e⟩
  | waiting =>
    rw [hp] at h
    obtain ⟨m, rfl, hc, hw⟩ := h
    exact ⟨_, hoffer m, hc, hw.put hnum e⟩
  | ended how =>
    rw [hp] at h
    exact h

theorem StreamOk.publish_of_ne (h : StreamOk reg full published sub st) {key : String × String}
    (hkey : st.key ≠ key) (e : IncidentEvent) :
    StreamOk reg full published (sub.map (Subscriber.offer key e)) st := by
  have hoffer : ∀ m, (some ⟨st.key, m⟩ : Option Subscriber).map (Subscriber.offer key e) =
      some ⟨st.key, m⟩ := by
    intro m
    simp [Subscriber.offer, hkey]
  unfold StreamOk at h ⊢
  cases hp : st.phase with
  | idle =>
    rw [hp] at h
    exact h
  | opening o =>
    rw [hp] at h
    refine ⟨h.1, fun hr => ?_⟩
    obtain ⟨m, rfl, ht⟩ := h.2 hr
    exact ⟨m, hoffer m, ht⟩
  | replaying rest =>
    rw [hp] at h
    obtain ⟨m, R, rfl, hrest⟩ := h
    exact ⟨m, R, hoffer m, hrest⟩
  | top =>
    rw [hp] at h
    obtain ⟨m, rfl, hc⟩ := h
    exact ⟨m, hoffer m, hc⟩
  | waiting =>
    rw [hp] at h
    obtain ⟨m, rfl, hc⟩ := h
    exact ⟨m, hoffer m, hc⟩
  | ended how =>
    rw [hp] at h
    exact h

/-! ### Steps of the stream -/

theorem Current.yield (h : Current full st) {e : IncidentEvent}
    (he : full[st.start + st.emitted.length]? = some e)
    (hseq : e.sequence = st.start + st.emitted.length + 1) (next : Phase O) :
    Current full (st.yield e next) := by
  have hlt := (List.getElem?_eq_some_iff.1 he).1
  have hlen : (st.emitted ++ [e]).length = st.emitted.length + 1 := by simp
  constructor
  · show st.emitted ++ [e] = segment full st.start (st.start + (st.emitted ++ [e]).length)
    rw [hlen, ← Nat.add_assoc, segment_succ (Nat.le_add_right ..) he, ← h.emitted]
  · show st.start + (st.emitted ++ [e]).length ≤ full.length
    rw [hlen]
    omega
  · show ((e.sequence : ℕ) : ℤ) = ((st.start + (st.emitted ++ [e]).length : ℕ) : ℤ)
    rw [hlen, hseq, Nat.add_assoc]

theorem current_of_replayed {R : ℕ} (h : st.emitted = segment full st.start R) (hle : st.start ≤ R)
    (hR : R ≤ full.length) (h₀ : st.emitted = [] → st.delivered = st.start)
    (h₁ : st.emitted ≠ [] → st.delivered = (st.start + st.emitted.length : ℕ)) :
    Current full st ∧ R = st.start + st.emitted.length := by
  have hlen : st.emitted.length = R - st.start := by
    rw [h, length_segment hR]
  have hReq : R = st.start + st.emitted.length := by omega
  refine ⟨⟨by rw [← hReq]; exact h, by omega, ?_⟩, hReq⟩
  by_cases he : st.emitted = []
  · rw [h₀ he, he]
    simp
  · exact h₁ he

theorem streamOk_closed (h : Follows full st) :
    StreamOk reg full published none (st.finish .closed) :=
  ⟨h, fun r hr => by cases hr⟩

theorem streamOk_emit {e : IncidentEvent} (hnum : Numbered IncidentEvent.sequence full)
    (hp : st.phase = .replaying (e :: rest)) (h : StreamOk reg full published sub st) :
    StreamOk reg full published sub (st.yield e (.replaying rest)) := by
  simp only [StreamOk, hp] at h
  obtain ⟨m, R, hsub, hrest, hle, hR, ht, -, -⟩ := h
  have happ : (st.emitted ++ [e]) ++ rest = segment full st.start R := by
    rw [← hrest, List.append_assoc, List.singleton_append]
  -- the number of the event just emitted is its place in the log
  have hlast : (st.emitted ++ [e]).getLast? = some e := by simp
  rw [eq_segment_of_append happ] at hlast
  have hb : st.start + (st.emitted ++ [e]).length ≤ full.length := by
    have := congrArg List.length happ
    rw [List.length_append, length_segment hR] at this
    omega
  have hseq := hnum.getLast?_segment hb hlast
  refine ⟨m, R, hsub, happ, hle, hR, ht, fun he => ?_, fun _ => ?_⟩
  · exact absurd he (by simp [Stream.yield])
  · show ((e.sequence : ℕ) : ℤ) = _
    rw [hseq]
    rfl

/-- **Every step of the generator keeps the invariant.** -/
theorem StreamOk.act (h : StreamOk reg full published sub st)
    (hnum : Numbered IncidentEvent.sequence full) (hpre : published <+: full) {a : Act}
    (hs : EventStream.act sub st a = some (sub', st')) : StreamOk reg full published sub' st' := by
  have hpub := hnum.of_isPrefix hpre
  cases acted_of_act hs with
  | emit hp => exact streamOk_emit hnum hp h
  | replayed hp =>
    simp only [StreamOk, hp] at h
    obtain ⟨m, R, hsub, hrest, hle, hR, ht, h₀, h₁⟩ := h
    rw [List.append_nil] at hrest
    obtain ⟨hc, hReq⟩ := current_of_replayed hrest hle hR
      (fun he => (h₀ he).resolve_left (fun hn => hn rfl)) h₁
    exact ⟨m, hsub, hc.setPhase _, hReq ▸ ht⟩
  | slow hp hsub hc =>
    have hf := h.follows
    simp only [StreamOk, hp] at h
    obtain ⟨m, -, hcur, -⟩ := h
    refine ⟨hf, fun r hr => ?_⟩
    cases hr
    exact ⟨hcur.bound, hcur.delivered⟩
  | wait hp hsub hopen =>
    simp only [StreamOk, hp] at h
    obtain ⟨m, rfl, hc, ht⟩ := h
    cases hsub
    exact ⟨m, rfl, hc.setPhase _, ht.waits hopen⟩
  | skip hp hsub hq hle =>
    simp only [StreamOk, hp] at h
    obtain ⟨m, rfl, hc, hw⟩ := h
    cases hsub
    rw [hc.delivered] at hle
    exact ⟨_, rfl, hc.setPhase _, hw.1.pop hpub hq (by exact_mod_cast hle)⟩
  | take hp hsub hq hgt =>
    rename_i x e rest
    simp only [StreamOk, hp] at h
    obtain ⟨m, rfl, hc, hw⟩ := h
    cases hsub
    obtain ⟨hmem, hle⟩ := hw.head hpub hq
    rw [hc.delivered] at hgt
    have hseq : e.sequence = st.start + st.emitted.length + 1 := by
      have : ¬ e.sequence ≤ st.start + st.emitted.length := by exact_mod_cast hgt
      omega
    have he := hnum.getElem? (hpre.subset hmem) hseq
    refine ⟨_, rfl, hc.yield he hseq .top, ?_⟩
    show Tracks _ _ (st.start + (st.emitted ++ [e]).length)
    rw [List.length_append, List.length_singleton]
    exact hw.1.pop hpub hq (by omega)
  | timeout hp =>
    simp only [StreamOk, hp] at h
    obtain ⟨m, hsub, hc, hw⟩ := h
    exact ⟨m, hsub, hc.setPhase _, hw.1⟩
  | closed hp => exact streamOk_closed h.follows

/-- The generator starts with the events of a replay that reaches to the end of the log. -/
theorem streamOk_replaying {m : Mailbox IncidentEvent} (hphase : st.phase = .replaying rest)
    (hsub : sub = some ⟨st.key, m⟩) (hem : st.emitted = [])
    (hrest : rest = segment full st.start full.length) (hle : st.start ≤ full.length)
    (ht : Tracks published m full.length) (hd : rest = [] → st.delivered = st.start) :
    StreamOk reg full published sub st := by
  simp only [StreamOk, hphase]
  refine ⟨m, full.length, hsub, by rw [hem, hrest, List.nil_append], hle, le_rfl, ht, fun _ => ?_,
    fun hne => absurd hem hne⟩
  by_cases hr : rest = []
  · exact Or.inr (hd hr)
  · exact Or.inl hr

/-! ### Resuming -/

/-- The generator's `delivered` is where a client resumes, and so is what a slow consumer is
told. -/
def Resuming (st : Stream O) : Prop :=
  match st.phase with
  | .idle => True
  | .opening _ => True
  | .ended how => ∀ r, how = .slowConsumer r → r = st.resume
  | _ => st.delivered = st.resume

theorem resume_yield (e : IncidentEvent) (next : Phase O) :
    (st.yield e next).resume = e.sequence := by
  simp [Stream.resume, Stream.yield]

theorem Resuming.act (h : Resuming st) {a : Act}
    (hs : EventStream.act sub st a = some (sub', st')) : Resuming st' := by
  cases acted_of_act hs with
  | emit hp => exact (resume_yield _ _).symm
  | replayed hp =>
    simp only [Resuming, hp] at h
    exact h
  | slow hp hsub hc =>
    simp only [Resuming, hp] at h
    intro r hr
    cases hr
    exact h
  | wait hp hsub hc =>
    simp only [Resuming, hp] at h
    exact h
  | skip hp hsub hq hle =>
    simp only [Resuming, hp] at h
    exact h
  | take hp hsub hq hgt => exact (resume_yield _ _).symm
  | timeout hp =>
    simp only [Resuming, hp] at h
    exact h
  | closed hp => exact fun r hr => by cases hr

/-- A client that was served `st` connects again as `st'`: it resumes after the last event it has
received, or repeats its request when it has received none. -/
def Resumes (st st' : Stream O) : Prop :=
  st'.key = st.key ∧
    ((st.emitted = [] ∧ st'.lastEventId = st.lastEventId) ∨
      ∃ e text, st.emitted.getLast? = some e ∧ st'.lastEventId = some text ∧
        intParse text = some (e.sequence : ℤ))

theorem Stream.start_eq_of_lastEventId {st : Stream O} (h : st'.lastEventId = st.lastEventId)
    (hne : st.lastEventId ≠ none) : st'.start = st.start := by
  unfold Stream.start
  rw [h]
  cases hl : st.lastEventId with
  | none => exact absurd hl hne
  | some text => rfl

theorem chain_key : ∀ (st : Stream O) (sts : List (Stream O)), List.IsChain Resumes (st :: sts) →
    ∀ x ∈ st :: sts, x.key = st.key
  | st, [], _, x, hx => by
    rw [List.mem_singleton] at hx
    rw [hx]
  | st, st' :: sts, hc, x, hx => by
    rw [List.isChain_cons_cons] at hc
    rcases List.mem_cons.1 hx with rfl | hx
    · rfl
    · rw [chain_key st' sts hc.2 x hx, hc.1.1]

/-- **A chain of reconnects delivers a stretch of the log**: every event exactly once, in order. -/
theorem chain_follows (hnum : Numbered IncidentEvent.sequence full) :
    ∀ (st : Stream O) (sts : List (Stream O)), List.IsChain Resumes (st :: sts) →
      (∀ x ∈ st :: sts, Follows full x) →
      ∃ a, ((st :: sts).flatMap Stream.emitted) =
          segment full a (a + ((st :: sts).flatMap Stream.emitted).length) ∧
        ((st :: sts).flatMap Stream.emitted ≠ [] →
          a + ((st :: sts).flatMap Stream.emitted).length ≤ full.length) ∧
        (st.lastEventId ≠ none → a = st.start)
  | st, [], _, hf => by
    have h := hf st List.mem_cons_self
    simp only [List.flatMap_cons, List.flatMap_nil, List.append_nil]
    exact ⟨st.start, h.1, h.2, fun _ => rfl⟩
  | st, st' :: sts, hc, hf => by
    rw [List.isChain_cons_cons] at hc
    obtain ⟨⟨hkey, hres⟩, hc⟩ := hc
    have h := hf st List.mem_cons_self
    obtain ⟨a, ha, hb, hstart⟩ := chain_follows hnum st' sts hc
      fun x hx => hf x (List.mem_cons_of_mem _ hx)
    rw [List.flatMap_cons]
    rcases hres with ⟨hnil, hlast⟩ | ⟨e, text, he, hlast, hparse⟩
    · -- nothing was received, so the request is repeated
      rw [hnil, List.nil_append]
      refine ⟨a, ha, hb, fun hne => ?_⟩
      rw [hstart (by rwa [hlast])]
      exact Stream.start_eq_of_lastEventId hlast hne
    · have hne : st.emitted ≠ [] := by
        intro hn
        rw [hn] at he
        simp at he
      have hend : e.sequence = st.start + st.emitted.length := by
        rw [h.1] at he
        exact hnum.getLast?_segment (h.2 hne) he
      have ha' : a = st.start + st.emitted.length := by
        rw [hstart (by simp [hlast]), Stream.start, hlast]
        simp only [cursorOf, Option.bind_some, hparse, Option.getD_some, Int.toNat_natCast, hend]
      subst ha'
      refine ⟨st.start, ?_, fun _ => ?_, fun _ => rfl⟩
      · by_cases hrest : (st' :: sts).flatMap Stream.emitted = []
        · rw [hrest, List.append_nil]
          exact h.1
        · rw [List.length_append, ← Nat.add_assoc,
            ← segment_trans (Nat.le_add_right ..) (Nat.le_add_right ..) (hb hrest), ← h.1, ← ha]
      · by_cases hrest : (st' :: sts).flatMap Stream.emitted = []
        · rw [hrest, List.append_nil]
          exact h.2 hne
        · rw [List.length_append, ← Nat.add_assoc]
          exact hb hrest

end Invariant

end EventStream
