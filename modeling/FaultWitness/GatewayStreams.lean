/-
**Streams of the gateway.**

`ModelGateway.stream` of `faultwitness/models/gateway.py` on top of `OpenAICompatibleChannel.stream`.
Every chunk of an attempt is passed on at once.  After a failure the attempt is repeated, or another
profile is tried, unless a visible chunk was among them; a chunk without a text, which carries a role, a
usage or a reason, does not keep the gateway from either.

Each attempt numbers its chunks from zero.  So the numbers that a caller sees increase only where one
attempt yields all chunks.  What is visible comes from the last attempt, and the number that a
`PartialModelFailure` carries is the number of visible chunks unless the last line was counted and then
refused.

Main definitions:

* `ModelGateway.streamPass`, `ModelGateway.streamAttempts`, `ModelGateway.streamFallbacks` — the loops;
* `ModelGateway.stream` — the whole stream;
* `ModelGateway.Streamed` — the attempts of a stream, their chunks and its end.

Main results:

* `ModelGateway.streamed_stream` — **what a stream consists of**;
* `ModelGateway.increasing_iff` — **the numbers increase exactly if one attempt at most yields chunks**;
* `ModelGateway.visibleOnce_iff` — **nothing follows a visible chunk but its attempt**, and it is counted,
  exactly if no visible stream ends in a refused chunk that was counted or in an uncaught exception.
-/

import FaultWitness.CompletionStreams

set_option autoImplicit false

namespace ModelGateway

open OpenAICompatibleChannel (GatewayChunk StreamError StreamEnd Readers Upstream HttpError shown)

/-! ### The loops -/

/-- How the channels stream: from the number of calls before and what is sent. -/
def StreamChannel := ℕ → Sent → List GatewayChunk × StreamEnd

/-- The adapter on its upstreams. -/
def adapter (lib : Readers) (upstreams : ℕ → Sent → Upstream) : StreamChannel := fun n call =>
  OpenAICompatibleChannel.stream lib call.request call.route (upstreams n call)

/-- The variables of the loop. -/
structure StreamProgress where
  attempt : ℕ := 0
  lastError : Option ModelFailure := none
  sent : List Sent := []
  chunks : List GatewayChunk := []

/-- How a pass through the loop over attempts ends: with a failure that may be retried, or for good. -/
inductive StreamPass
  | transient
  | ended (e : StreamEnd)

section Loop

variable (g : Gateway) (channel : StreamChannel) (traceId : String) (request : ModelRequest)

/-- One pass through the loop over attempts. -/
def streamPass (profile : ModelProfile) (fallbackCount : ℕ) (st : StreamProgress) :
    StreamProgress × StreamPass :=
  let st := { st with attempt := st.attempt + 1 }
  match route g traceId request profile st.attempt fallbackCount 0 none with
  | none => (st, .ended (.raised (.plain .validationError)))
  | some r =>
    let call : Sent := ⟨request, profile, r⟩
    let answer := channel st.sent.length call
    let st := { st with sent := st.sent ++ [call], chunks := st.chunks ++ answer.1 }
    match answer.2 with
    | .raised (.plain (.failure e)) =>
      let st := { st with lastError := some e }
      let visible := answer.1.countP GatewayChunk.visible
      if visible ≠ 0 then (st, .ended (.raised (.partialModelFailure e.code visible)))
      else if e.retryable then (st, .transient)
      else (st, .ended (.raised (.plain (.failure e))))
    | e => (st, .ended e)

/-- The loop over attempts; `none` where it is left for the next profile. -/
def streamAttempts (profile : ModelProfile) (fallbackCount : ℕ) :
    ℕ → StreamProgress → StreamProgress × Option StreamEnd
  | 0, st =>
    match streamPass g channel traceId request profile fallbackCount st with
    | (st, .ended e) => (st, some e)
    | (st, .transient) => (st, none)
  | retries + 1, st =>
    match streamPass g channel traceId request profile fallbackCount st with
    | (st, .ended e) => (st, some e)
    | (st, .transient) => streamAttempts profile fallbackCount retries st

/-- The loop over the profiles. -/
def streamFallbacks : ℕ → List ModelProfile → StreamProgress → StreamProgress × StreamEnd
  | _, [], st =>
    (st, .raised (.plain (.failure
      (st.lastError.getD { code := .configuration, retryable := false }))))
  | k, profile :: rest, st =>
    if g.channels profile.channel then
      match streamAttempts g channel traceId request profile k
        g.catalog.routePolicy.maxTransientRetries st with
      | (st, some e) => (st, e)
      | (st, none) => streamFallbacks (k + 1) rest st
    else streamFallbacks (k + 1) rest st

/-- A whole stream: what it sends, what it yields, and how it ends. -/
def stream (isLetter : Char → Bool) : StreamProgress × StreamEnd :=
  if rejectSensitiveRequest isLetter request then
    ({}, .raised (.plain (.failure { code := .policyRejected, retryable := false })))
  else if request.stream = false then
    ({}, .raised (.plain (.failure { code := .configuration, retryable := false })))
  else
    match candidates g.catalog request.modelFamily .stream with
    | none => ({}, .raised (.plain .keyError))
    | some [] => ({}, .raised (.plain (.failure { code := .configuration, retryable := false })))
    | some (profile :: rest) => streamFallbacks g channel traceId request 0 (profile :: rest) {}

end Loop

/-! ### The attempts of a stream -/

/-- How the gateway ends a stream with an attempt. -/
def settled (answer : List GatewayChunk × StreamEnd) : StreamEnd :=
  match answer.2 with
  | .raised (.plain (.failure e)) =>
    if answer.1.countP GatewayChunk.visible ≠ 0 then
      .raised (.partialModelFailure e.code (answer.1.countP GatewayChunk.visible))
    else .raised (.plain (.failure e))
  | e => e

/-- The calls of a stream with the chunks that they yield.  All but the last call yield nothing
visible, and the last one may end the stream. -/
inductive Streamed (channel : StreamChannel) :
    ℕ → List Sent → List GatewayChunk → Option StreamEnd → Prop
  | broke (n : ℕ) : Streamed channel n [] [] none
  | refused (n : ℕ) (err : GatewayError) : Streamed channel n [] [] (some (.raised (.plain err)))
  | last (n : ℕ) (call : Sent) :
      Streamed channel n [call] (channel n call).1 (some (settled (channel n call)))
  | quiet {n : ℕ} {call : Sent} {calls : List Sent} {chunks : List GatewayChunk} {e : Option StreamEnd}
      (hquiet : (channel n call).1.any GatewayChunk.visible = false)
      (hrest : Streamed channel (n + 1) calls chunks e) :
      Streamed channel n (call :: calls) ((channel n call).1 ++ chunks) e

variable {channel : StreamChannel} {e : Option StreamEnd} {chunks : List GatewayChunk}
  {calls : List Sent} {n : ℕ}

theorem Streamed.append {calls' : List Sent} {chunks' : List GatewayChunk}
    (h : Streamed channel n calls chunks none)
    (h' : Streamed channel (n + calls.length) calls' chunks' e) :
    Streamed channel n (calls ++ calls') (chunks ++ chunks') e := by
  generalize hnone : (none : Option StreamEnd) = outcome at h
  induction h with
  | broke n => exact h'
  | refused n err => cases hnone
  | last n call => cases hnone
  | quiet hquiet hrest ih =>
    rw [List.append_assoc]
    refine .quiet hquiet (ih ?_ hnone)
    rw [List.length_cons] at h'
    rwa [Nat.add_right_comm, Nat.add_assoc]

/-- What a part of a stream adds. -/
def Adds (channel : StreamChannel) (st st' : StreamProgress) (e : Option StreamEnd) : Prop :=
  ∃ calls chunks, st'.sent = st.sent ++ calls ∧ st'.chunks = st.chunks ++ chunks ∧
    Streamed channel st.sent.length calls chunks e

theorem Adds.refl {st : StreamProgress} (h : Streamed channel st.sent.length [] [] e) :
    Adds channel st st e :=
  ⟨[], [], (List.append_nil _).symm, (List.append_nil _).symm, h⟩

theorem Adds.trans {st st₁ st₂ : StreamProgress} (h : Adds channel st st₁ none)
    (h' : Adds channel st₁ st₂ e) : Adds channel st st₂ e := by
  obtain ⟨calls, chunks, hsent, hchunks, hstreamed⟩ := h
  obtain ⟨calls', chunks', hsent', hchunks', hstreamed'⟩ := h'
  refine ⟨calls ++ calls', chunks ++ chunks', ?_, ?_, ?_⟩
  · rw [hsent', hsent, List.append_assoc]
  · rw [hchunks', hchunks, List.append_assoc]
  · rw [hsent, List.length_append] at hstreamed'
    exact hstreamed.append hstreamed'

variable {g : Gateway} {traceId : String} {request : ModelRequest}

variable (channel g traceId request) in
/-- **What one pass adds.** -/
theorem adds_streamPass (profile : ModelProfile) (k : ℕ) (st : StreamProgress) :
    match streamPass g channel traceId request profile k st with
    | (st', .ended e) => Adds channel st st' (some e)
    | (st', .transient) => Adds channel st st' none := by
  simp only [streamPass]
  cases route g traceId request profile (st.attempt + 1) k 0 none with
  | none => exact ⟨[], [], (List.append_nil _).symm, (List.append_nil _).symm, .refused _ _⟩
  | some r =>
    dsimp only
    have hlast : ∀ st' : StreamProgress, st'.sent = st.sent ++ [⟨request, profile, r⟩] →
        st'.chunks = st.chunks ++ (channel st.sent.length ⟨request, profile, r⟩).1 →
        Adds channel st st' (some (settled (channel st.sent.length ⟨request, profile, r⟩))) :=
      fun st' hsent hchunks => ⟨_, _, hsent, hchunks, .last _ _⟩
    have hquiet : (channel st.sent.length ⟨request, profile, r⟩).1.any GatewayChunk.visible = false →
        ∀ st' : StreamProgress, st'.sent = st.sent ++ [⟨request, profile, r⟩] →
        st'.chunks = st.chunks ++ (channel st.sent.length ⟨request, profile, r⟩).1 →
        Adds channel st st' none := by
      intro hnone st' hsent hchunks
      refine ⟨_, (channel st.sent.length ⟨request, profile, r⟩).1 ++ [], hsent, ?_, .quiet hnone (.broke _)⟩
      rw [hchunks, List.append_nil]
    generalize channel st.sent.length ⟨request, profile, r⟩ = answer at hlast hquiet ⊢
    obtain ⟨chunks, e⟩ := answer
    cases e with
    | returned => exact hlast _ rfl rfl
    | raised err =>
      cases err with
      | partialModelFailure code n => exact hlast _ rfl rfl
      | plain err =>
        cases err with
        | keyError => exact hlast _ rfl rfl
        | validationError => exact hlast _ rfl rfl
        | assertionError => exact hlast _ rfl rfl
        | other => exact hlast _ rfl rfl
        | failure e =>
          dsimp only at hlast hquiet ⊢
          by_cases hvisible : chunks.countP GatewayChunk.visible ≠ 0
          · have hsettled : settled (chunks, .raised (.plain (.failure e))) =
                .raised (.partialModelFailure e.code (chunks.countP GatewayChunk.visible)) :=
              if_pos hvisible
            rw [hsettled] at hlast
            rw [if_pos hvisible]
            exact hlast _ rfl rfl
          have hsettled : settled (chunks, .raised (.plain (.failure e))) =
              .raised (.plain (.failure e)) := if_neg hvisible
          rw [hsettled] at hlast
          rw [if_neg hvisible]
          cases hretry : e.retryable with
          | false => exact hlast _ rfl rfl
          | true =>
            refine hquiet ?_ _ rfl rfl
            rw [List.any_eq_false]
            exact List.countP_eq_zero.1 (not_not.1 hvisible)

variable (channel g traceId request) in
theorem adds_streamAttempts (profile : ModelProfile) (k retries : ℕ) (st : StreamProgress) :
    Adds channel st (streamAttempts g channel traceId request profile k retries st).1
      (streamAttempts g channel traceId request profile k retries st).2 := by
  induction retries generalizing st with
  | zero =>
    have hpass := adds_streamPass channel g traceId request profile k st
    rw [streamAttempts]
    generalize streamPass g channel traceId request profile k st = result at hpass ⊢
    obtain ⟨st', p⟩ := result
    cases p with
    | transient => exact hpass
    | ended e => exact hpass
  | succ retries ih =>
    have hpass := adds_streamPass channel g traceId request profile k st
    rw [streamAttempts]
    generalize streamPass g channel traceId request profile k st = result at hpass ⊢
    obtain ⟨st', p⟩ := result
    cases p with
    | transient => exact hpass.trans (ih st')
    | ended e => exact hpass

theorem adds_streamFallbacks (profiles : List ModelProfile) (k : ℕ) (st : StreamProgress) :
    Adds channel st (streamFallbacks g channel traceId request k profiles st).1
      (some (streamFallbacks g channel traceId request k profiles st).2) := by
  induction profiles generalizing k st with
  | nil => exact .refl (.refused _ _)
  | cons profile rest ih =>
    rw [streamFallbacks]
    split
    · have hattempts := adds_streamAttempts channel g traceId request profile k g.catalog.routePolicy.maxTransientRetries st
      generalize streamAttempts g channel traceId request profile k _ st = result at hattempts ⊢
      obtain ⟨st', e⟩ := result
      cases e with
      | none => exact hattempts.trans (ih (k + 1) st')
      | some e => exact hattempts
    · exact ih (k + 1) st

/-- **What a stream consists of.** -/
theorem streamed_stream (g : Gateway) (channel : StreamChannel) (traceId : String)
    (request : ModelRequest) (isLetter : Char → Bool) :
    Streamed channel 0 (stream g channel traceId request isLetter).1.sent
      (stream g channel traceId request isLetter).1.chunks
      (some (stream g channel traceId request isLetter).2) := by
  have hadds : Adds channel {} (stream g channel traceId request isLetter).1
      (some (stream g channel traceId request isLetter).2) := by
    unfold stream
    split
    · exact .refl (.refused _ _)
    split
    · exact .refl (.refused _ _)
    split
    · exact .refl (.refused _ _)
    · exact .refl (.refused _ _)
    · exact adds_streamFallbacks _ 0 {}
  obtain ⟨calls, chunks, hsent, hchunks, hstreamed⟩ := hadds
  rw [List.nil_append] at hsent hchunks
  rw [hsent, hchunks]
  exact hstreamed

/-! ### The numbers of the chunks -/

/-- The numbers of the chunks increase. -/
def Increasing (chunks : List GatewayChunk) : Prop :=
  (chunks.map GatewayChunk.sequence).Pairwise (· < ·)

/-- Every attempt numbers its chunks from zero. -/
def Numbers (channel : StreamChannel) : Prop :=
  ∀ n call, (channel n call).1.map GatewayChunk.sequence = List.range (channel n call).1.length

theorem Numbers.increasing (hnumbers : Numbers channel) (n : ℕ) (call : Sent) :
    Increasing (channel n call).1 := by
  rw [Increasing, hnumbers n call]
  exact List.pairwise_lt_range

variable {call : Sent}

theorem Numbers.zero_mem (hnumbers : Numbers channel) (hne : (channel n call).1 ≠ []) :
    0 ∈ (channel n call).1.map GatewayChunk.sequence := by
  rw [hnumbers n call, List.mem_range]
  exact List.length_pos_iff.2 hne

theorem Streamed.chunks_eq_nil_iff (h : Streamed channel n calls chunks e) :
    chunks = [] ↔ ∀ (i : ℕ) (call : Sent), calls[i]? = some call → (channel (n + i) call).1 = [] := by
  induction h with
  | broke n => exact iff_of_true rfl fun i call hcall => by cases hcall
  | refused n err => exact iff_of_true rfl fun i call hcall => by cases hcall
  | last n call =>
    constructor
    · intro hnil i call' hcall
      cases i with
      | zero =>
        cases hcall
        exact hnil
      | succ i => cases hcall
    · intro hall
      exact hall 0 call rfl
  | @quiet n call calls chunks e hquiet hrest ih =>
    rw [List.append_eq_nil_iff, ih]
    constructor
    · rintro ⟨hfirst, hlater⟩ i call' hcall
      cases i with
      | zero =>
        cases hcall
        exact hfirst
      | succ i =>
        have hnil := hlater i call' hcall
        rwa [Nat.add_right_comm, Nat.add_assoc] at hnil
    · intro hall
      refine ⟨hall 0 call rfl, fun i call' hcall => ?_⟩
      rw [Nat.add_right_comm, Nat.add_assoc]
      exact hall (i + 1) call' hcall

theorem Streamed.zero_mem (hnumbers : Numbers channel) (h : Streamed channel n calls chunks e)
    (hne : chunks ≠ []) : 0 ∈ chunks.map GatewayChunk.sequence := by
  induction h with
  | broke n => exact absurd rfl hne
  | refused n err => exact absurd rfl hne
  | last n call => exact hnumbers.zero_mem hne
  | @quiet n call calls chunks e hquiet hrest ih =>
    rw [List.map_append, List.mem_append]
    by_cases hfirst : (channel n call).1 = []
    · rw [hfirst, List.nil_append] at hne
      exact Or.inr (ih hne)
    · exact Or.inl (hnumbers.zero_mem hfirst)

/-- **The numbers of a stream increase exactly if no attempt that yields a chunk is followed by another
one that does.** -/
theorem Streamed.increasing_iff_of_numbers (hnumbers : Numbers channel)
    (h : Streamed channel n calls chunks e) :
    Increasing chunks ↔ ∀ (i j : ℕ) (call call' : Sent), calls[i]? = some call →
      calls[j]? = some call' → i < j →
      (channel (n + i) call).1 = [] ∨ (channel (n + j) call').1 = [] := by
  induction h with
  | broke n => exact iff_of_true List.Pairwise.nil fun i j call call' hcall => by cases hcall
  | refused n err => exact iff_of_true List.Pairwise.nil fun i j call call' hcall => by cases hcall
  | last n call =>
    refine iff_of_true (hnumbers.increasing n call) ?_
    intro i j call' call'' _ hcall hlt
    have hj := (List.getElem?_eq_some_iff.1 hcall).1
    rw [List.length_singleton] at hj
    omega
  | @quiet n call calls chunks e hquiet hrest ih =>
    have hsplit : Increasing ((channel n call).1 ++ chunks) ↔
        ((channel n call).1 = [] ∨ chunks = []) ∧ Increasing chunks := by
      rw [Increasing, List.map_append, List.pairwise_append]
      constructor
      · rintro ⟨-, hchunks, hbetween⟩
        refine ⟨?_, hchunks⟩
        by_contra hboth
        rw [not_or] at hboth
        -- both parts have a chunk with the number zero
        exact absurd (hbetween 0 (hnumbers.zero_mem hboth.1) 0 (hrest.zero_mem hnumbers hboth.2))
          (Nat.lt_irrefl 0)
      · rintro ⟨hnil, hchunks⟩
        refine ⟨hnumbers.increasing n call, hchunks, ?_⟩
        intro a ha b hb
        rcases hnil with hnil | hnil
        · rw [hnil] at ha
          cases ha
        · rw [hnil] at hb
          cases hb
    rw [hsplit, ih, hrest.chunks_eq_nil_iff]
    constructor
    · rintro ⟨hfirst, hlater⟩ i j call' call'' hcall hcall' hlt
      cases j with
      | zero => omega
      | succ j =>
        have hindex : n + (j + 1) = n + 1 + j := by omega
        rw [hindex]
        cases i with
        | zero =>
          cases hcall
          exact hfirst.imp_right fun hnil => hnil j call'' hcall'
        | succ i =>
          have hindex' : n + (i + 1) = n + 1 + i := by omega
          rw [hindex']
          exact hlater i j call' call'' hcall hcall' (by omega)
    · intro hall
      refine ⟨?_, fun i j call' call'' hcall hcall' hlt => ?_⟩
      · by_cases hfirst : (channel n call).1 = []
        · exact Or.inl hfirst
        · refine Or.inr fun j call' hcall => ?_
          have hnil := hall 0 (j + 1) call call' rfl hcall (Nat.succ_pos j)
          rw [show n + (j + 1) = n + 1 + j by omega] at hnil
          exact hnil.resolve_left hfirst
      · have hnil := hall (i + 1) (j + 1) call' call'' hcall hcall' (by omega)
        rwa [show n + (i + 1) = n + 1 + i by omega, show n + (j + 1) = n + 1 + j by omega] at hnil

variable (lib : Readers) (upstreams : ℕ → Sent → Upstream)

theorem numbers_adapter : Numbers (adapter lib upstreams) := fun n call =>
  (OpenAICompatibleChannel.map_stream lib call.request call.route (upstreams n call)).2

theorem map_visible_adapter (n : ℕ) (call : Sent) :
    (adapter lib upstreams n call).1.map GatewayChunk.visible =
      shown lib call.request (upstreams n call) :=
  (OpenAICompatibleChannel.map_stream lib call.request call.route (upstreams n call)).1

/-- **The numbers that a caller sees increase exactly if no attempt that yields a chunk is followed by
another one that does.** -/
theorem increasing_iff (g : Gateway) (traceId : String) (request : ModelRequest)
    (isLetter : Char → Bool) :
    Increasing (stream g (adapter lib upstreams) traceId request isLetter).1.chunks ↔
      ∀ (i j : ℕ) (call call' : Sent),
        (stream g (adapter lib upstreams) traceId request isLetter).1.sent[i]? = some call →
        (stream g (adapter lib upstreams) traceId request isLetter).1.sent[j]? = some call' → i < j →
        shown lib call.request (upstreams i call) = [] ∨
          shown lib call'.request (upstreams j call') = [] := by
  have hnil : ∀ n call, (adapter lib upstreams n call).1 = [] ↔
      shown lib call.request (upstreams n call) = [] := by
    intro n call
    rw [← map_visible_adapter, List.map_eq_nil_iff]
  rw [(streamed_stream g (adapter lib upstreams) traceId request isLetter).increasing_iff_of_numbers
    (numbers_adapter lib upstreams)]
  simp only [Nat.zero_add, hnil]

/-! ### What is visible -/

/-- After a visible chunk nothing is called: the stream goes on with the chunks of the attempt, of which
alone something is visible, and it ends without an exception or with a `PartialModelFailure` that tells
how many visible chunks there were. -/
def VisibleOnce (channel : StreamChannel) (run : StreamProgress × StreamEnd) : Prop :=
  ∀ (n : ℕ) (call : Sent), run.1.sent[n]? = some call →
    (channel n call).1.any GatewayChunk.visible = true →
    n + 1 = run.1.sent.length ∧ (channel n call).1 <:+ run.1.chunks ∧
      run.1.chunks.filter GatewayChunk.visible = (channel n call).1.filter GatewayChunk.visible ∧
      (run.2 = .returned ∨
        ∃ code, run.2 = .raised (.partialModelFailure code (run.1.chunks.countP GatewayChunk.visible)))

/-- The end of a stream tells how many visible chunks there were, if there is an exception. -/
def Counts (visible : ℕ) (e : StreamEnd) : Prop :=
  e = .returned ∨ ∃ code, e = .raised (.partialModelFailure code visible)

/-- **A visible chunk comes from the last attempt, and the end of that attempt is the end of the
stream.** -/
theorem Streamed.visible (h : Streamed channel n calls chunks e) {i : ℕ}
    (hcall : calls[i]? = some call)
    (hvisible : (channel (n + i) call).1.any GatewayChunk.visible = true) :
    i + 1 = calls.length ∧ e = some (settled (channel (n + i) call)) ∧
      (channel (n + i) call).1 <:+ chunks ∧
      chunks.filter GatewayChunk.visible = (channel (n + i) call).1.filter GatewayChunk.visible := by
  induction h generalizing i with
  | broke n => cases hcall
  | refused n err => cases hcall
  | last n call' =>
    cases i with
    | zero =>
      cases hcall
      exact ⟨rfl, rfl, List.suffix_refl _, rfl⟩
    | succ i => cases hcall
  | @quiet n call' calls chunks e hquiet hrest ih =>
    cases i with
    | zero =>
      cases hcall
      rw [Nat.add_zero, hquiet] at hvisible
      cases hvisible
    | succ i =>
      rw [show n + (i + 1) = n + 1 + i by omega] at hvisible ⊢
      obtain ⟨hlength, hend, hsuffix, hfilter⟩ := ih hcall hvisible
      refine ⟨by rw [List.length_cons, hlength], hend, ?_, ?_⟩
      · exact hsuffix.trans (List.suffix_append _ _)
      · have hnone : (channel n call').1.filter GatewayChunk.visible = [] := by
          rw [List.filter_eq_nil_iff]
          exact List.any_eq_false.1 hquiet
        rw [List.filter_append, hnone, List.nil_append, hfilter]

theorem visibleOnce_of_channel (g : Gateway) (channel : StreamChannel) (traceId : String)
    (request : ModelRequest) (isLetter : Char → Bool) :
    VisibleOnce channel (stream g channel traceId request isLetter) ↔
      ∀ (n : ℕ) (call : Sent),
        (stream g channel traceId request isLetter).1.sent[n]? = some call →
        (channel n call).1.any GatewayChunk.visible = true →
        Counts ((channel n call).1.countP GatewayChunk.visible) (settled (channel n call)) := by
  have hstreamed := streamed_stream g channel traceId request isLetter
  generalize stream g channel traceId request isLetter = run at hstreamed ⊢
  refine forall_congr' fun n => forall_congr' fun call => forall_congr' fun hcall =>
    forall_congr' fun hvisible => ?_
  have hlast := hstreamed.visible hcall (by rwa [Nat.zero_add])
  rw [Nat.zero_add] at hlast
  obtain ⟨hlength, hend, hsuffix, hfilter⟩ := hlast
  have hcount : run.1.chunks.countP GatewayChunk.visible =
      (channel n call).1.countP GatewayChunk.visible := by
    rw [List.countP_eq_length_filter, hfilter, ← List.countP_eq_length_filter]
  rw [Option.some.inj hend, hcount]
  exact ⟨fun h => h.2.2.2, fun h => ⟨hlength, hsuffix, hfilter, h⟩⟩

/-- The lines that are left by the loop, and the end of the body: `[DONE]`, a refused document that has
not been counted, or an end that is not an uncaught exception. -/
def TellsAfter (ending : Option HttpError) : List String → Prop
  | [] => ending ≠ some .other
  | line :: _ =>
    OpenAICompatibleChannel.kindOf lib line = .done ∨
      OpenAICompatibleChannel.kindOf lib line = .refused false

/-- After a visible chunk the stream of the upstream ends without an exception, or tells how many visible
chunks there were. -/
def Tells : Upstream → Prop
  | .refused _ => True
  | .answered _ lines ending =>
    TellsAfter lib ending (lines.dropWhile (OpenAICompatibleChannel.passes lib))

variable {visible : ℕ}

theorem counts_interrupted (chunks : List GatewayChunk) :
    Counts visible (settled (chunks, .raised (.partialModelFailure .interruptedStream n))) ↔
      n = visible := by
  constructor
  · rintro (h | ⟨code, h⟩)
    · cases h
    · cases h
      rfl
  · rintro rfl
    exact Or.inr ⟨_, rfl⟩

theorem not_counts_other (chunks : List GatewayChunk) :
    ¬Counts visible (settled (chunks, .raised (.plain .other))) := by
  rintro (h | ⟨code, h⟩)
  · cases h
  · cases h

/-- The end of the loop over the lines after a visible chunk. -/
theorem counts_endOf {rest : List String} {ending : Option HttpError} (hvisible : visible ≠ 0)
    (chunks : List GatewayChunk)
    (hrest : ∀ line ∈ rest.head?, OpenAICompatibleChannel.passes lib line = false) :
    Counts visible (settled (chunks, OpenAICompatibleChannel.endOf lib ending visible rest)) ↔
      TellsAfter lib ending rest := by
  cases rest with
  | nil =>
    cases ending with
    | none => exact iff_of_true (Or.inl rfl) (fun h => by cases h)
    | some err =>
      cases err with
      | timeout =>
        rw [OpenAICompatibleChannel.endOf, OpenAICompatibleChannel.interrupted, if_pos hvisible,
          counts_interrupted]
        exact iff_of_true rfl (fun h => by cases h)
      | transport =>
        rw [OpenAICompatibleChannel.endOf, OpenAICompatibleChannel.interrupted, if_pos hvisible,
          counts_interrupted]
        exact iff_of_true rfl (fun h => by cases h)
      | other => exact iff_of_false (not_counts_other chunks) fun h => h rfl
  | cons line rest =>
    have hstops := hrest line rfl
    rw [OpenAICompatibleChannel.endOf, TellsAfter]
    rw [OpenAICompatibleChannel.passes] at hstops
    cases hkind : OpenAICompatibleChannel.kindOf lib line with
    | ignored =>
      rw [hkind] at hstops
      cases hstops
    | yields seen =>
      rw [hkind] at hstops
      cases hstops
    | done => exact iff_of_true (Or.inl rfl) (Or.inl rfl)
    | refused counted =>
      dsimp only
      rw [OpenAICompatibleChannel.malformed, if_pos (by omega), counts_interrupted]
      cases counted with
      | false => exact iff_of_true (Nat.add_zero _) (Or.inr rfl)
      | true => exact iff_of_false (Nat.succ_ne_self _) (by simp)
    | crashed => exact iff_of_false (not_counts_other chunks) (by simp)

theorem counts_adapter (n : ℕ) (call : Sent)
    (hshown : true ∈ shown lib call.request (upstreams n call)) :
    Counts ((adapter lib upstreams n call).1.countP GatewayChunk.visible)
      (settled (adapter lib upstreams n call)) ↔ Tells lib (upstreams n call) := by
  unfold adapter
  cases hupstream : upstreams n call with
  | refused err =>
    rw [hupstream] at hshown
    cases hshown
  | answered status lines ending =>
    rw [hupstream, shown] at hshown
    split at hshown
    swap
    · cases hshown
    rename_i haccepted
    obtain ⟨chunks, hstream, hvisible, -⟩ := OpenAICompatibleChannel.stream_eq lib haccepted.1
      call.route (show ¬400 ≤ status by omega) lines ending
    have hcount : chunks.countP GatewayChunk.visible =
        (OpenAICompatibleChannel.yielded lib lines).count true := by
      rw [← hvisible, List.count, List.countP_map]
      exact List.countP_congr fun chunk _ => by simp
    have hne : (OpenAICompatibleChannel.yielded lib lines).count true ≠ 0 := by
      have hpos := List.count_pos_iff.2 hshown
      omega
    rw [hstream, hcount]
    refine counts_endOf lib hne chunks fun line hline => ?_
    obtain ⟨rest, hrest⟩ := List.head?_eq_some_iff.1 (Option.mem_def.1 hline)
    exact (OpenAICompatibleChannel.mem_of_dropWhile lib hrest).2

/-- **After a visible chunk nothing is called, and the caller is told of what it has seen**, exactly if no
attempt with a visible chunk ends in a document that was counted and then refused, or in an exception
that nothing catches. -/
theorem visibleOnce_iff (g : Gateway) (traceId : String) (request : ModelRequest)
    (isLetter : Char → Bool) :
    VisibleOnce (adapter lib upstreams) (stream g (adapter lib upstreams) traceId request isLetter) ↔
      ∀ (n : ℕ) (call : Sent),
        (stream g (adapter lib upstreams) traceId request isLetter).1.sent[n]? = some call →
        true ∈ shown lib call.request (upstreams n call) → Tells lib (upstreams n call) := by
  rw [visibleOnce_of_channel]
  refine forall_congr' fun n => forall_congr' fun call => forall_congr' fun _ => ?_
  have hany : (adapter lib upstreams n call).1.any GatewayChunk.visible = true ↔
      true ∈ shown lib call.request (upstreams n call) := by
    rw [← map_visible_adapter, List.any_eq_true, List.mem_map]
  rw [hany]
  exact forall_congr' fun hshown => counts_adapter lib upstreams n call hshown

/-! ### Streams that are repeated and streams that are refused -/

/-- A line with the role of a message. -/
def roleLine : String :=
  "data: \x7b\"choices\":[\x7b\"delta\":\x7b\"role\":\"assistant\"\x7d\x7d]\x7d"

/-- A line with a word and a reason that is no text. -/
def oddLine : String :=
  "data: \x7b\"choices\":[\x7b\"delta\":\x7b\"content\":\"b\"\x7d,\"finish_reason\":1\x7d]\x7d"

/-- The upstreams that stop sending after the role, and answer the second call. -/
def slow : ℕ → Sent → Upstream := fun n _ =>
  if n = 0 then .answered 200 [roleLine] (some .timeout) else .answered 200 [roleLine, "data: [DONE]"] none

/-- The number zero is yielded twice. -/
theorem not_increasing : ¬∀ (lib : Readers) (upstreams : ℕ → Sent → Upstream) (g : Gateway)
    (traceId : String) (request : ModelRequest) (isLetter : Char → Bool),
    Increasing (stream g (adapter lib upstreams) traceId request isLetter).1.chunks := by
  intro hall
  have hincreasing := hall OpenAICompatibleChannel.sampleReaders slow shipped "trace"
    OpenAICompatibleChannel.streamRequest fun _ => false
  have hnumbers : (stream shipped (adapter OpenAICompatibleChannel.sampleReaders slow) "trace"
      OpenAICompatibleChannel.streamRequest fun _ => false).1.chunks.map GatewayChunk.sequence =
      [0, 0] := by decide +kernel
  rw [Increasing, hnumbers] at hincreasing
  exact absurd hincreasing (by decide)

/-- The upstreams that answer with a word and a document that is refused. -/
def odd : ℕ → Sent → Upstream := fun _ _ =>
  .answered 200 [OpenAICompatibleChannel.wordLine, oddLine] none

theorem Streamed.any_of_single (h : Streamed channel n [call] chunks e)
    (hvisible : chunks.any GatewayChunk.visible = true) :
    (channel n call).1.any GatewayChunk.visible = true := by
  cases h with
  | last => exact hvisible
  | quiet hquiet hrest =>
    cases hrest with
    | broke => rwa [List.append_nil] at hvisible
    | refused => rwa [List.append_nil] at hvisible

/-- A stream of one call that reports more visible chunks than it has yielded. -/
theorem not_visibleOnce_of_run {run : StreamProgress × StreamEnd} {code : ModelFailureCode}
    (hstreamed : Streamed channel 0 run.1.sent run.1.chunks (some run.2))
    (hrun : (run.1.sent.length, run.1.chunks.map GatewayChunk.visible, run.2) =
      (1, [true], .raised (.partialModelFailure code 2))) : ¬VisibleOnce channel run := by
  intro honce
  simp only [Prod.mk.injEq] at hrun
  obtain ⟨hlength, hchunks, he⟩ := hrun
  obtain ⟨call, hcall⟩ := List.length_eq_one_iff.1 hlength
  have hvisible : run.1.chunks.any GatewayChunk.visible = true := by
    have hmem : true ∈ run.1.chunks.map GatewayChunk.visible := by
      rw [hchunks]
      exact List.mem_cons_self
    rw [List.any_eq_true]
    exact List.mem_map.1 hmem
  have hcount : run.1.chunks.countP GatewayChunk.visible = 1 := by
    have hcount : (run.1.chunks.map GatewayChunk.visible).count true = 1 := by
      rw [hchunks]
      rfl
    rw [List.count, List.countP_map] at hcount
    rw [← hcount]
    exact List.countP_congr fun chunk _ => by simp
  rw [hcall] at hstreamed
  have hsent : run.1.sent[0]? = some call := by
    rw [hcall]
    rfl
  obtain ⟨-, -, -, hend⟩ := honce 0 call hsent (hstreamed.any_of_single hvisible)
  rw [he, hcount] at hend
  rcases hend with hend | ⟨code', hend⟩
  · cases hend
  · cases hend

/-- One visible chunk is yielded, and two are reported. -/
theorem not_visibleOnce : ¬∀ (lib : Readers) (upstreams : ℕ → Sent → Upstream) (g : Gateway)
    (traceId : String) (request : ModelRequest) (isLetter : Char → Bool),
    VisibleOnce (adapter lib upstreams)
      (stream g (adapter lib upstreams) traceId request isLetter) := by
  intro hall
  have hrun : ((stream shipped (adapter OpenAICompatibleChannel.sampleReaders odd) "trace"
        OpenAICompatibleChannel.streamRequest fun _ => false).1.sent.length,
      (stream shipped (adapter OpenAICompatibleChannel.sampleReaders odd) "trace"
        OpenAICompatibleChannel.streamRequest fun _ => false).1.chunks.map GatewayChunk.visible,
      (stream shipped (adapter OpenAICompatibleChannel.sampleReaders odd) "trace"
        OpenAICompatibleChannel.streamRequest fun _ => false).2) =
      (1, [true], .raised (.partialModelFailure .interruptedStream 2)) := by decide +kernel
  exact not_visibleOnce_of_run (streamed_stream _ _ _ _ _) hrun (hall _ _ _ _ _ _)

end ModelGateway
