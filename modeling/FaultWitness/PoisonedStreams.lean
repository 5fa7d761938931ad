/-
**Malformed entries of a stream.**

The class `RedisEventStream` reads batches of entries for a group of consumers and decodes each batch in
one loop, which an entry ends with an exception that is no event.  The server has delivered the batch by
then: its entries are pending, and only `recover` hands them out again, from the oldest one on.

The server is modelled by what these calls need of it: the entries in their order, how many of them were
delivered to the group, and which are pending since when.  Entries are added with any fields.

Main definitions:

* `RedisEventStream.decode` — the loop;
* `RedisEventStream.Stream` — the server, with `fetch` for the calls of `receive` and `recover`;
* `RedisEventStream.Isolates` — a call returns all events of its batch;
* `RedisEventStream.WellFormed` — an entry is an event.

Main results:

* `RedisEventStream.isolates_iff` — **a call returns the events of its batch exactly if all its entries
  are events**;
* `RedisEventStream.blocked` — an entry that is none blocks recovery until it is acknowledged.
-/

import FaultWitness.Runs
import FaultWitness.JsonCodec

set_option autoImplicit false

namespace RedisEventStream

open Python Runs

/-! ### Entries -/

/-- A text or bytes, as the client gives them. -/
inductive Raw
  | str (s : String)
  | bytes (b : ByteArray)

/-- `_text`; `none` is its `UnicodeDecodeError`. -/
def Raw.text : Raw → Option String
  | .str s => some s
  | .bytes b => String.fromUTF8? b

/-- An entry with the identifier that the server gave it. -/
structure Entry where
  streamId : String
  fields : List (Raw × Raw)

/-- `json.loads`, and which of its values are objects. -/
structure Library (J : Type) where
  loads : String → Option J
  isObject : J → Bool

structure StreamMessage (J : Type) where
  streamId : String
  eventId : String
  tenantId : String
  payload : J
deriving DecidableEq

inductive StreamError
  | unicodeDecodeError
  | keyError
  | jsonDecodeError
  /-- Stream payload must be an object. -/
  | notAnObject
deriving DecidableEq

/-! ### Decoding -/

section Decoding

variable {J : Type} (lib : Library J)

/-- The dictionary of the texts; of several fields with one name the last one counts. -/
def normalize : List (Raw × Raw) → AList (fun _ : String => String) →
    Except StreamError (AList fun _ : String => String)
  | [], normalized => .ok normalized
  | (key, value) :: fields, normalized =>
    match key.text, value.text with
    | some key, some value => normalize fields (normalized.insert key value)
    | _, _ => .error .unicodeDecodeError

def member (normalized : AList fun _ : String => String) (key : String) : Except StreamError String :=
  match normalized.lookup key with
  | none => .error .keyError
  | some value => .ok value

/-- The loop body. -/
def decodeEntry (entry : Entry) : Except StreamError (StreamMessage J) := do
  let normalized ← normalize entry.fields ∅
  let text ← member normalized "payload"
  match lib.loads text with
  | none => throw .jsonDecodeError
  | some payload =>
    if ¬lib.isObject payload then throw .notAnObject
    let eventId ← member normalized "event_id"
    let tenantId ← member normalized "tenant_id"
    return { streamId := entry.streamId, eventId, tenantId, payload }

def decode (entries : List Entry) : Except StreamError (List (StreamMessage J)) :=
  entries.mapM (decodeEntry lib)

end Decoding

/-! ### The server -/

/-- An entry, by its place, that was delivered and is not acknowledged. -/
structure Pending where
  place : ℕ
  since : ℤ
deriving DecidableEq

structure Stream where
  entries : List Entry := []
  delivered : ℕ := 0
  pending : List Pending := []

/-- A call that reads a batch. -/
inductive Fetch
  | receive (count : ℕ)
  | recover (minimumIdle : ℤ) (count : ℕ)

/-- The pending entries that are idle long enough, from the oldest one on. -/
def Stream.claimed (st : Stream) (minimumIdle : ℤ) (count : ℕ) (now : ℤ) : List Pending :=
  (st.pending.filter fun p => minimumIdle ≤ now - p.since).take count

/-- The entries that the server answers with. -/
def Stream.batch (st : Stream) (now : ℤ) : Fetch → List Entry
  | .receive count => (st.entries.drop st.delivered).take count
  | .recover minimumIdle count =>
    (st.claimed minimumIdle count now).filterMap fun p => st.entries[p.place]?

/-- The server after its answer. -/
def Stream.serve (st : Stream) (now : ℤ) : Fetch → Stream
  | .receive count =>
    let read := ((st.entries.drop st.delivered).take count).length
    { st with
      delivered := st.delivered + read
      pending := st.pending ++ (List.range read).map fun n => ⟨st.delivered + n, now⟩ }
  | .recover minimumIdle count =>
    { st with
      pending := st.pending.map fun p =>
        if p ∈ st.claimed minimumIdle count now then { p with since := now } else p }

/-- A call of `receive` or `recover`. -/
def fetch {J : Type} (lib : Library J) (st : Stream) (now : ℤ) (call : Fetch) :
    Except StreamError (List (StreamMessage J)) × Stream :=
  (decode lib (st.batch now call), st.serve now call)

inductive Label
  | add (entry : Entry)
  | fetch (now : ℤ) (call : Fetch)
  | acknowledge (place : ℕ)

/-- What happens to the server. -/
def step (st : Stream) : Label → Option Stream
  | .add entry => some { st with entries := st.entries ++ [entry] }
  | .fetch now call => some (st.serve now call)
  | .acknowledge place => some { st with pending := st.pending.filter fun p => p.place ≠ place }

/-! ### Events -/

/-- The value of the last field with a name. -/
def valueOf : List (Raw × Raw) → String → Option String
  | [], _ => none
  | (key, value) :: fields, name =>
    (valueOf fields name).or (if key.text = some name then value.text else none)

/-- The entry is an event with the content of the message. -/
structure Reads {J : Type} (lib : Library J) (entry : Entry) (message : StreamMessage J) : Prop where
  readable : ∀ f ∈ entry.fields, f.1.text ≠ none ∧ f.2.text ≠ none
  payload : ∃ text, valueOf entry.fields "payload" = some text ∧ lib.loads text = some message.payload
  object : lib.isObject message.payload = true
  eventId : valueOf entry.fields "event_id" = some message.eventId
  tenantId : valueOf entry.fields "tenant_id" = some message.tenantId
  streamId : message.streamId = entry.streamId

/-- The entry is an event. -/
def WellFormed {J : Type} (lib : Library J) (entry : Entry) : Prop :=
  ∃ message, Reads lib entry message

/-- The call returns all events of its batch. -/
def Isolates {J : Type} (lib : Library J) (st : Stream) (now : ℤ) (call : Fetch) : Prop :=
  ∃ messages, (fetch lib st now call).1 = .ok messages ∧
    ∀ entry ∈ st.batch now call, ∀ message, Reads lib entry message → message ∈ messages

/-! ### What is decoded -/

section Decoded

variable {J : Type} {lib : Library J}

theorem normalize_eq_ok {fields : List (Raw × Raw)} {d d' : AList fun _ : String => String}
    (h : normalize fields d = .ok d') : (∀ f ∈ fields, f.1.text ≠ none ∧ f.2.text ≠ none) ∧
      ∀ name, d'.lookup name = (valueOf fields name).or (d.lookup name) := by
  induction fields generalizing d with
  | nil =>
    cases h
    exact ⟨fun _ hnone => absurd hnone List.not_mem_nil, fun _ => rfl⟩
  | cons f fields ih =>
    obtain ⟨key, value⟩ := f
    rw [normalize] at h
    cases hkey : key.text with
    | none => simp [hkey] at h
    | some k =>
      cases hvalue : value.text with
      | none => simp [hkey, hvalue] at h
      | some v =>
        simp only [hkey, hvalue] at h
        obtain ⟨hreadable, hlookup⟩ := ih h
        refine ⟨List.forall_mem_cons.2 ⟨⟨by simp [hkey], by simp [hvalue]⟩, hreadable⟩, ?_⟩
        intro name
        rw [hlookup, valueOf, hkey]
        by_cases hname : name = k
        · rw [hname, AList.lookup_insert, if_pos rfl, hvalue]
          cases valueOf fields k <;> rfl
        · have hother : ¬some k = some name := fun heq => hname (Option.some.inj heq).symm
          rw [AList.lookup_insert_ne hname, if_neg hother, Option.or_none]

theorem exists_normalize {fields : List (Raw × Raw)}
    (h : ∀ f ∈ fields, f.1.text ≠ none ∧ f.2.text ≠ none) (d : AList fun _ : String => String) :
    ∃ d', normalize fields d = .ok d' := by
  induction fields generalizing d with
  | nil => exact ⟨d, rfl⟩
  | cons f fields ih =>
    obtain ⟨⟨hkey, hvalue⟩, hrest⟩ := List.forall_mem_cons.1 h
    obtain ⟨k, hk⟩ := Option.ne_none_iff_exists'.1 hkey
    obtain ⟨v, hv⟩ := Option.ne_none_iff_exists'.1 hvalue
    rw [normalize]
    simp only [hk, hv]
    exact ih hrest _

theorem member_eq_ok {d : AList fun _ : String => String} {key value : String} :
    member d key = .ok value ↔ d.lookup key = some value := by
  rw [member]
  cases d.lookup key with
  | none => simp
  | some v => simp

/-- **The loop body decodes the events.** -/
theorem decodeEntry_eq_ok {entry : Entry} {message : StreamMessage J} :
    decodeEntry lib entry = .ok message ↔ Reads lib entry message := by
  constructor
  · intro h
    obtain ⟨d, hd, h⟩ := bind_eq_ok.1 h
    obtain ⟨text, htext, h⟩ := bind_eq_ok.1 h
    obtain ⟨hreadable, hlookup⟩ := normalize_eq_ok hd
    have hvalue : ∀ name, d.lookup name = valueOf entry.fields name := by
      intro name
      rw [hlookup, AList.lookup_empty, Option.or_none]
    rw [member_eq_ok, hvalue] at htext
    cases hpayload : lib.loads text with
    | none =>
      rw [hpayload] at h
      cases h
    | some payload =>
      rw [hpayload] at h
      obtain ⟨hobject, h⟩ := check_eq_ok.1 h
      obtain ⟨eventId, hevent, h⟩ := bind_eq_ok.1 h
      obtain ⟨tenantId, htenant, h⟩ := bind_eq_ok.1 h
      rw [member_eq_ok, hvalue] at hevent htenant
      cases h
      exact ⟨hreadable, ⟨text, htext, hpayload⟩, not_not.1 hobject, hevent, htenant, rfl⟩
  · rintro ⟨hreadable, ⟨text, htext, hpayload⟩, hobject, hevent, htenant, hid⟩
    obtain ⟨d, hd⟩ := exists_normalize hreadable ∅
    have hvalue : ∀ name, d.lookup name = valueOf entry.fields name := by
      intro name
      rw [(normalize_eq_ok hd).2, AList.lookup_empty, Option.or_none]
    refine bind_eq_ok.2 ⟨d, hd, bind_eq_ok.2 ⟨text, member_eq_ok.2 ((hvalue _).trans htext), ?_⟩⟩
    rw [hpayload]
    refine check_eq_ok.2 ⟨not_not.2 hobject, ?_⟩
    refine bind_eq_ok.2 ⟨_, member_eq_ok.2 ((hvalue _).trans hevent), ?_⟩
    refine bind_eq_ok.2 ⟨_, member_eq_ok.2 ((hvalue _).trans htenant), ?_⟩
    rw [← hid]
    rfl

theorem exists_decode_iff {entries : List Entry} :
    (∃ messages, decode lib entries = .ok messages) ↔ ∀ entry ∈ entries, WellFormed lib entry := by
  constructor
  · rintro ⟨messages, h⟩ entry hentry
    obtain ⟨message, hmessage⟩ := mem_of_mapM_eq_ok h hentry
    exact ⟨message, decodeEntry_eq_ok.1 hmessage⟩
  · intro h
    refine exists_mapM_eq_ok fun entry hentry => ?_
    obtain ⟨message, hmessage⟩ := h entry hentry
    exact ⟨message, decodeEntry_eq_ok.2 hmessage⟩

end Decoded

/-! ### Batches -/

variable {J : Type}

/-- **A call returns the events of its batch exactly if all its entries are events.** -/
theorem isolates_iff (lib : Library J) (st : Stream) (now : ℤ) (call : Fetch) :
    Isolates lib st now call ↔ ∀ entry ∈ st.batch now call, WellFormed lib entry := by
  constructor
  · rintro ⟨messages, hmessages, -⟩
    exact exists_decode_iff.1 ⟨messages, hmessages⟩
  · intro h
    obtain ⟨messages, hmessages⟩ := exists_decode_iff.2 h
    refine ⟨messages, hmessages, fun entry hentry message hreads => ?_⟩
    obtain ⟨found, hfound, hdecode⟩ := exists_mem_of_mapM_eq_ok hmessages hentry
    rw [decodeEntry_eq_ok.2 hreads] at hdecode
    cases hdecode
    exact hfound

/-! ### Recovery -/

variable {place count : ℕ} {st st' : Stream} {label : Label} {entry : Entry}

/-- The entry at a place is pending, with fewer than so many pending ones before it. -/
def Early (place count : ℕ) (st : Stream) : Prop :=
  ∃ before p after, st.pending = before ++ p :: after ∧ p.place = place ∧ before.length < count

/-- Nothing but its acknowledgement takes it from there. -/
theorem Early.step (h : Early place count st) (hkept : label ≠ .acknowledge place)
    (hstep : step st label = some st') : Early place count st' := by
  obtain ⟨before, p, after, hpending, hplace, hlength⟩ := h
  cases label with
  | add entry =>
    obtain rfl := Option.some.inj hstep
    exact ⟨before, p, after, hpending, hplace, hlength⟩
  | fetch now call =>
    obtain rfl := Option.some.inj hstep
    cases call with
    | receive n =>
      rw [Stream.serve, hpending, Early]
      exact ⟨before, p, _, List.append_assoc _ _ _, hplace, hlength⟩
    | recover minimumIdle n =>
      rw [Stream.serve, hpending, Early]
      refine ⟨_, _, _, List.map_append.trans (congrArg _ List.map_cons), ?_, ?_⟩
      · split
        · exact hplace
        · exact hplace
      · rwa [List.length_map]
  | acknowledge other =>
    obtain rfl := Option.some.inj hstep
    have hother : other ≠ place := fun heq => hkept (heq ▸ rfl)
    let others : Pending → Bool := fun p => decide (p.place ≠ other)
    have hp : others p = true := decide_eq_true (hplace ▸ hother.symm)
    refine ⟨before.filter others, p, after.filter others, ?_, hplace,
      (List.length_filter_le others before).trans_lt hlength⟩
    rw [hpending, List.filter_append, List.filter_cons_of_pos hp]

theorem entries_step (h : st.entries[place]? = some entry) (hstep : step st label = some st') :
    st'.entries[place]? = some entry := by
  cases label with
  | add other =>
    obtain rfl := Option.some.inj hstep
    obtain ⟨hlt, -⟩ := List.getElem?_eq_some_iff.1 h
    exact (List.getElem?_append_left hlt).trans h
  | fetch now call =>
    obtain rfl := Option.some.inj hstep
    cases call with
    | receive n => exact h
    | recover minimumIdle n => exact h
  | acknowledge other =>
    obtain rfl := Option.some.inj hstep
    exact h

/-- A recovery that is offered an early entry gets it. -/
theorem Early.mem_batch (h : Early place count st) (hentry : st.entries[place]? = some entry)
    {now minimumIdle : ℤ}
    (hidle : ∀ p ∈ st.pending, p.place = place → minimumIdle ≤ now - p.since) :
    entry ∈ st.batch now (.recover minimumIdle count) := by
  obtain ⟨before, p, after, hpending, hplace, hlength⟩ := h
  have hp : minimumIdle ≤ now - p.since := by
    refine hidle p ?_ hplace
    rw [hpending]
    exact List.mem_append_right _ List.mem_cons_self
  refine List.mem_filterMap.2 ⟨p, ?_, hplace ▸ hentry⟩
  let idle : Pending → Bool := fun p => decide (minimumIdle ≤ now - p.since)
  have hidle' : idle p = true := decide_eq_true hp
  have hfew := List.length_filter_le idle before
  rw [Stream.claimed, hpending, List.filter_append, List.filter_cons_of_pos (p := idle) hidle',
    List.take_append, List.mem_append]
  refine .inr ?_
  obtain ⟨n, hn⟩ : ∃ n, count - (before.filter idle).length = n + 1 :=
    Nat.exists_eq_succ_of_ne_zero (by omega)
  rw [hn, List.take_succ_cons]
  exact List.mem_cons_self

/-- **An entry that is no event blocks recovery**: after any calls but its acknowledgement, a recovery for
which it is idle long enough ends with an exception. -/
theorem blocked (lib : Library J) (hearly : Early place count st)
    (hentry : st.entries[place]? = some entry) (hbad : ¬WellFormed lib entry)
    (h : Reaches step (fun _ label => label ≠ .acknowledge place) st st') {now minimumIdle : ℤ}
    (hidle : ∀ p ∈ st'.pending, p.place = place → minimumIdle ≤ now - p.since) :
    ∃ err, (fetch lib st' now (.recover minimumIdle count)).1 = .error err := by
  obtain ⟨hearly', hentry'⟩ : Early place count st' ∧ st'.entries[place]? = some entry := by
    refine h.invariant (I := fun st => Early place count st ∧ st.entries[place]? = some entry)
      ⟨hearly, hentry⟩ ?_
    rintro a label b ⟨ha, hplace⟩ hkept hstep
    exact ⟨ha.step hkept hstep, entries_step hplace hstep⟩
  have hmem := hearly'.mem_batch hentry' hidle
  cases hrun : (fetch lib st' now (.recover minimumIdle count)).1 with
  | error err => exact ⟨err, rfl⟩
  | ok messages => exact absurd (exists_decode_iff.1 ⟨messages, hrun⟩ entry hmem) hbad

/-! ### A batch -/

def jsonLibrary : Library Json where
  loads := Json.loads
  isObject
    | .obj _ => true
    | _ => false

/-- An entry without an identifier of its event. -/
def anonymous : Entry := ⟨"1-0", [(.str "payload", .str "\x7b\x7d"), (.str "tenant_id", .str "tenant-a")]⟩

def event : Entry :=
  ⟨"2-0", [(.str "event_id", .str "event-b"), (.str "payload", .str "\x7b\x7d"),
    (.str "tenant_id", .str "tenant-a")]⟩

theorem event_wellFormed : WellFormed jsonLibrary event := by
  refine ⟨⟨"2-0", "event-b", "tenant-a", .obj []⟩, ?_, ⟨_, rfl, by decide⟩, rfl, rfl, rfl, rfl⟩
  intro f hf
  simp only [event, List.mem_cons, List.not_mem_nil, or_false] at hf
  rcases hf with rfl | rfl | rfl <;> exact ⟨nofun, nofun⟩

theorem anonymous_malformed : ¬WellFormed jsonLibrary anonymous := by
  rintro ⟨message, hreads⟩
  exact absurd hreads.eventId (by simp [anonymous, valueOf, Raw.text])

/-- The malformed entry is pending when the event is added; recovery ends with an exception. -/
theorem blocked_anonymous : ∃ st, Reaches step (fun _ label => label ≠ .acknowledge 0)
      { entries := [anonymous], delivered := 1, pending := [⟨0, 0⟩] } st ∧
    st.entries = [anonymous, event] ∧
      ∃ err, (fetch jsonLibrary st 60 (.recover 30 10)).1 = .error err := by
  have hadded : Reaches step (fun _ label => label ≠ .acknowledge 0)
      { entries := [anonymous], delivered := 1, pending := [⟨0, 0⟩] }
      { entries := [anonymous, event], delivered := 1, pending := [⟨0, 0⟩] } :=
    Reaches.single (by simp) (l := .add event) rfl
  refine ⟨_, hadded, rfl, blocked jsonLibrary ⟨[], ⟨0, 0⟩, [], rfl, rfl, by simp⟩ rfl
    anonymous_malformed hadded ?_⟩
  rintro p hp -
  rw [List.mem_singleton.1 hp]
  decide

/-- **An event may be lost beside an entry that is none**: both are received in one batch. -/
theorem not_isolates : ∃ st, Reachable step {} st ∧
    (∃ entry ∈ st.batch 0 (.receive 10), WellFormed jsonLibrary entry) ∧
      ¬Isolates jsonLibrary st 0 (.receive 10) := by
  have hfirst : step {} (.add anonymous) = some { entries := [anonymous] } := rfl
  have hsecond : step { entries := [anonymous] } (.add event) = some { entries := [anonymous, event] } := rfl
  refine ⟨_, (Reaches.single trivial hfirst).tail trivial hsecond, ⟨event, ?_, event_wellFormed⟩, ?_⟩
  · exact List.mem_cons_of_mem _ List.mem_cons_self
  · intro h
    exact anonymous_malformed ((isolates_iff jsonLibrary _ _ _).1 h anonymous List.mem_cons_self)

end RedisEventStream
