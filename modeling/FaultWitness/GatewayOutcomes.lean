/-
**What a call of the gateway returns and reports.**

A response of `complete` is made of the answer to the last call, which has passed the checks that the
request asks for.  The observer hears of the beginning of every attempt; of its end it hears where the
attempt succeeds or fails with a `ModelFailure`.  An attempt whose structured output is repaired, and
one that ends with another exception, leave no event behind.

Main definitions:

* `ModelGateway.Built` — the response is made of a result that has passed its checks;
* `ModelGateway.WellBracketed` — every attempt that was started is closed before the next one;
* `ModelGateway.Closes` — the answer to a call leads to a closing event.

Main results:

* `ModelGateway.complete_spec` — **a call ends within the bound, and its response is built from the
  last answer**;
* `ModelGateway.wellBracketed_iff` — **the events are well bracketed exactly if every answer closes its
  attempt**.
-/

import FaultWitness.GatewayAttempts

set_option autoImplicit false

namespace ModelGateway

open Python

variable (lib : Libraries) (g : Gateway) (channel : ModelChannel) (traceId : String)

/-! ### Events -/

def ObserverEvent.isStarted : ObserverEvent → Bool
  | .started _ _ => true
  | _ => false

/-- The event closes the attempt with a number. -/
def ObserverEvent.closes (attempt : ℕ) : ObserverEvent → Bool
  | .started _ _ => false
  | .completed _ r => r.attempt = attempt
  | .failed _ _ r => r.attempt = attempt

/-- Every attempt that was started is closed exactly once before the next one is started. -/
def WellBracketed : List ObserverEvent → Prop
  | [] => True
  | .started _ r :: events =>
    (∃ event, (events.takeWhile fun event => !event.isStarted).filter
      (fun event => event.closes r.attempt) = [event]) ∧ WellBracketed events
  | _ :: events => WellBracketed events

variable {r : RouteMetadata} {id : String}

theorem takeWhile_append_started {events rest : List ObserverEvent} :
    (events ++ .started id r :: rest).takeWhile (fun event => !event.isStarted) =
      events.takeWhile fun event => !event.isStarted := by
  induction events with
  | nil => rfl
  | cons event events ih =>
    rw [List.cons_append, List.takeWhile_cons, List.takeWhile_cons, ih]

theorem wellBracketed_append_started {events rest : List ObserverEvent} :
    WellBracketed (events ++ .started id r :: rest) ↔
      WellBracketed events ∧ WellBracketed (.started id r :: rest) := by
  induction events with
  | nil => exact ⟨fun h => ⟨trivial, h⟩, fun h => h.2⟩
  | cons event events ih =>
    cases event with
    | started id' r' =>
      rw [List.cons_append, WellBracketed, takeWhile_append_started, ih]
      exact and_assoc.symm
    | completed id' r' => exact ih
    | failed id' code r' => exact ih

/-! ### Answers -/

/-- The check of the tool calls, if the request asks for them. -/
def checkTools (request : ModelRequest) (result : ChannelResult) : Except GatewayError Unit :=
  if request.toolSchemas = [] then .ok () else validateToolCalls lib result request.toolSchemas

/-- The structured output, if the request asks for it. -/
def structuredOutput (request : ModelRequest) (result : ChannelResult) :
    Except GatewayError (Option Json) :=
  match request.targetJsonSchema with
  | none => .ok none
  | some schema => (validateStructured lib result schema).map some

/-- The answer is a `ModelFailure`, or a result whose checks end in one or pass; and if it is the
structured output that fails, no repair is left. -/
def Closes (call : Sent) : Except GatewayError ChannelResult → Prop
  | .error err => ∃ e, err = .failure e
  | .ok result =>
    match checkTools lib call.request result with
    | .error err => ∃ e, err = .failure e
    | .ok () =>
      match structuredOutput lib call.request result with
      | .ok _ => True
      | .error err =>
        (∃ e, err = .failure e) ∧ g.catalog.routePolicy.maxRepairs ≤ call.route.repairCount

theorem settle_eq (profile : ModelProfile) (k : ℕ) (r : RouteMetadata) (st : Progress)
    (result : ChannelResult) : settle lib g traceId profile k r st result =
      match checkTools lib st.request result with
      | .error err => raise r st err
      | .ok () =>
        match structuredOutput lib st.request result with
        | .ok structured => respond g traceId profile k st result structured
        | .error (.failure e) =>
          if g.catalog.routePolicy.maxRepairs ≤ st.repairCount then recover r st e
          else ({ st with
            repairCount := st.repairCount + 1
            request := repairRequest st.request }, .again)
        | .error err => (st, .ended (.raised err)) := by
  unfold settle structuredOutput
  change (match checkTools lib st.request result with
    | .error err => raise r st err
    | .ok () => _) = _
  cases checkTools lib st.request result with
  | error err => rfl
  | ok u =>
    cases st.request.targetJsonSchema with
    | none => rfl
    | some schema =>
      dsimp only
      cases validateStructured lib result schema with
      | ok value => rfl
      | error err => cases err <;> rfl

variable {lib g channel traceId}

variable {profile : ModelProfile} {k : ℕ}

theorem exists_resolved_route {request : ModelRequest} {attempt repairs : ℕ}
    (h : route g traceId request profile attempt k repairs none = some r) (resolvedModel : String) :
    r.attempt = attempt ∧ r.repairCount = repairs ∧
      ∃ resolved, route g traceId request profile attempt k repairs (some resolvedModel) =
        some resolved ∧ resolved.attempt = attempt ∧ resolved.fallbackCount = k := by
  unfold route at h ⊢
  dsimp only at h ⊢
  split at h
  · rename_i hvalid
    cases h
    refine ⟨rfl, rfl, _, if_pos ?_, rfl, rfl⟩
    simp only [RouteMetadata.valid, Bool.and_eq_true, decide_eq_true_eq] at hvalid ⊢
    obtain ⟨⟨⟨⟨hrequested, -⟩, hattempt⟩, hrepairs⟩, htrace⟩ := hvalid
    refine ⟨⟨⟨⟨hrequested, ?_⟩, hattempt⟩, hrepairs⟩, htrace⟩
    cases hfilter : (some resolvedModel).filter (· ≠ "") with
    | none => exact profile.modelId_ne
    | some model => exact of_decide_eq_true (Option.filter_eq_some_iff.1 hfilter).2
  · cases h

/-! ### What a pass reports -/

variable (lib g channel) in
/-- What a part of a call has sent and reported: the calls beside the answers to them. -/
def Reports (st st' : Progress) : Prop :=
  ∃ calls, st'.sent = st.sent ++ calls ∧
    (WellBracketed st'.events ↔ WellBracketed st.events ∧
      ∀ n call, calls[n]? = some call → Closes lib g call (channel (st.sent.length + n) call))

variable {st st' : Progress}

theorem Reports.refl (hsent : st'.sent = st.sent) (hevents : st'.events = st.events) :
    Reports lib g channel st st' := by
  refine ⟨[], by rw [hsent, List.append_nil], ?_⟩
  rw [hevents]
  refine ⟨fun h => ⟨h, fun n call hcall => ?_⟩, fun h => h.1⟩
  rw [List.getElem?_nil] at hcall
  exact absurd hcall (Option.some_ne_none call).symm

theorem Reports.trans {st₁ st₂ : Progress} (h : Reports lib g channel st st₁)
    (h' : Reports lib g channel st₁ st₂) : Reports lib g channel st st₂ := by
  obtain ⟨calls, hsent, hiff⟩ := h
  obtain ⟨calls', hsent', hiff'⟩ := h'
  refine ⟨calls ++ calls', by rw [hsent', hsent, List.append_assoc], ?_⟩
  rw [hiff', hiff, and_assoc]
  refine and_congr_right fun _ => ⟨?_, fun hall => ⟨?_, ?_⟩⟩
  · rintro ⟨hcalls, hcalls'⟩ n call hcall
    rcases Nat.lt_or_ge n calls.length with hlt | hge
    · rw [List.getElem?_append_left hlt] at hcall
      exact hcalls n call hcall
    · rw [List.getElem?_append_right hge] at hcall
      have hlater := hcalls' _ call hcall
      rw [hsent, List.length_append] at hlater
      have hindex : st.sent.length + calls.length + (n - calls.length) = st.sent.length + n := by
        omega
      rwa [hindex] at hlater
  · intro n call hcall
    have hlt := (List.getElem?_eq_some_iff.1 hcall).1
    exact hall n call (by rw [List.getElem?_append_left hlt, hcall])
  · intro n call hcall
    have hlater := hall (calls.length + n) call
      (by rw [List.getElem?_append_right (Nat.le_add_right _ _), Nat.add_sub_cancel_left, hcall])
    rwa [hsent, List.length_append, Nat.add_assoc]

theorem reports_of_closed {call : Sent} {event : ObserverEvent}
    (hsent : st'.sent = st.sent ++ [call])
    (hevents : st'.events = st.events ++ [.started id call.route] ++ [event])
    (hcloses : event.closes call.route.attempt = true)
    (hanswer : Closes lib g call (channel st.sent.length call)) : Reports lib g channel st st' := by
  refine ⟨[call], hsent, ?_⟩
  rw [hevents, List.append_assoc, List.cons_append, List.nil_append, wellBracketed_append_started]
  refine and_congr_right fun _ => ⟨fun _ n call' hcall => ?_, fun _ => ?_⟩
  · obtain ⟨hn, rfl⟩ := List.getElem?_eq_some_iff.1 hcall
    have hzero : n = 0 := by
      rw [List.length_singleton] at hn
      omega
    subst hzero
    exact hanswer
  · cases event with
    | started id' r => cases hcloses
    | completed id' r =>
      refine ⟨⟨.completed id' r, ?_⟩, trivial⟩
      rw [List.takeWhile_cons_of_pos rfl, List.takeWhile_nil, List.filter_cons_of_pos hcloses]
      rfl
    | failed id' code r =>
      refine ⟨⟨.failed id' code r, ?_⟩, trivial⟩
      rw [List.takeWhile_cons_of_pos rfl, List.takeWhile_nil, List.filter_cons_of_pos hcloses]
      rfl

theorem reports_of_open {call : Sent} (hsent : st'.sent = st.sent ++ [call])
    (hevents : st'.events = st.events ++ [.started id call.route])
    (hanswer : ¬Closes lib g call (channel st.sent.length call)) :
    Reports lib g channel st st' := by
  refine ⟨[call], hsent, ?_⟩
  rw [hevents, wellBracketed_append_started]
  refine and_congr_right fun _ => ⟨?_, fun hall => absurd (hall 0 call rfl) hanswer⟩
  rintro ⟨⟨event, hevent⟩, -⟩
  cases hevent

variable (lib g channel traceId) in
/-- **What a pass reports.** -/
theorem reports_pass (profile : ModelProfile) (k : ℕ) (st : Progress) :
    Reports lib g channel st (pass lib g channel traceId profile k st).1 := by
  simp only [pass]
  split
  · exact Reports.refl rfl rfl
  rename_i r hroute
  have hcount := (exists_resolved_route hroute "").2.1
  have hrecover : ∀ (st₁ : Progress) (e : ModelFailure), st₁.sent = st.sent ++ [⟨st.request, profile, r⟩] →
      st₁.events = st.events ++ [.started st.request.requestId r] →
      Closes lib g ⟨st.request, profile, r⟩ (channel st.sent.length ⟨st.request, profile, r⟩) →
      Reports lib g channel st (recover r st₁ e).1 := by
    intro st₁ e hsent hevents hanswer
    have hfailed : (recover r st₁ e).1.sent = st₁.sent ∧ (recover r st₁ e).1.events =
        st₁.events ++ [.failed st₁.request.requestId e.code r] := by
      simp only [recover]
      split
      · exact ⟨rfl, rfl⟩
      · split <;> exact ⟨rfl, rfl⟩
    have hcloses : (ObserverEvent.failed st₁.request.requestId e.code r).closes r.attempt = true :=
      decide_eq_true rfl
    have hevents' : (recover r st₁ e).1.events = st.events ++ [.started st.request.requestId r] ++
        [.failed st₁.request.requestId e.code r] := by
      rw [hfailed.2, hevents]
    exact reports_of_closed (hfailed.1.trans hsent) hevents' hcloses hanswer
  have hraise : ∀ (st₁ : Progress) (err : GatewayError),
      st₁.sent = st.sent ++ [⟨st.request, profile, r⟩] →
      st₁.events = st.events ++ [.started st.request.requestId r] →
      (Closes lib g ⟨st.request, profile, r⟩ (channel st.sent.length ⟨st.request, profile, r⟩) ↔
        ∃ e, err = .failure e) →
      Reports lib g channel st (raise r st₁ err).1 := by
    intro st₁ err hsent hevents hanswer
    cases err with
    | failure e => exact hrecover st₁ e hsent hevents (hanswer.2 ⟨e, rfl⟩)
    | keyError => exact reports_of_open hsent hevents fun h => by cases (hanswer.1 h).choose_spec
    | validationError => exact reports_of_open hsent hevents fun h => by cases (hanswer.1 h).choose_spec
    | assertionError => exact reports_of_open hsent hevents fun h => by cases (hanswer.1 h).choose_spec
    | other => exact reports_of_open hsent hevents fun h => by cases (hanswer.1 h).choose_spec
  split
  · rename_i err hanswer
    exact hraise _ err rfl rfl (by rw [hanswer]; rfl)
  rename_i result hanswer
  rw [settle_eq]
  dsimp only
  cases htools : checkTools lib st.request result with
  | error err =>
    refine hraise _ err rfl rfl ?_
    rw [hanswer]
    simp only [Closes, htools]
  | ok u =>
    cases houtput : structuredOutput lib st.request result with
    | ok structured =>
      obtain ⟨-, -, resolved, hresolved, hattempt, -⟩ :=
        exists_resolved_route hroute result.resolvedModel
      have hcloses : Closes lib g ⟨st.request, profile, r⟩
          (channel st.sent.length ⟨st.request, profile, r⟩) := by
        rw [hanswer]
        simp only [Closes, htools, houtput]
      simp only [respond, hresolved]
      refine reports_of_closed rfl rfl (decide_eq_true ?_) hcloses
      rw [hattempt, (exists_resolved_route hroute "").1]
    | error err =>
      have hcloses : Closes lib g ⟨st.request, profile, r⟩
          (channel st.sent.length ⟨st.request, profile, r⟩) ↔
          (∃ e, err = .failure e) ∧ g.catalog.routePolicy.maxRepairs ≤ st.repairCount := by
        rw [hanswer]
        simp only [Closes, htools, houtput, hcount]
      cases err with
      | failure e =>
        dsimp only
        split
        · rename_i hmax
          exact hrecover _ e rfl rfl (hcloses.2 ⟨⟨e, rfl⟩, hmax⟩)
        · rename_i hmax
          exact reports_of_open rfl rfl fun h => hmax (hcloses.1 h).2
      | keyError => exact reports_of_open rfl rfl fun h => by cases (hcloses.1 h).1.choose_spec
      | validationError => exact reports_of_open rfl rfl fun h => by cases (hcloses.1 h).1.choose_spec
      | assertionError => exact reports_of_open rfl rfl fun h => by cases (hcloses.1 h).1.choose_spec
      | other => exact reports_of_open rfl rfl fun h => by cases (hcloses.1 h).1.choose_spec

variable (lib g channel traceId) in
theorem reports_attempts (profile : ModelProfile) (k : ℕ) (st : Progress) :
    Reports lib g channel st (attempts lib g channel traceId profile k st).1 := by
  fun_induction attempts lib g channel traceId profile k st with
  | case1 st st' hpass hleft ih =>
    have hreports := reports_pass lib g channel traceId profile k st
    rw [hpass] at hreports
    exact hreports.trans ih
  | case2 st st' e hpass =>
    have hreports := reports_pass lib g channel traceId profile k st
    rw [hpass] at hreports
    exact hreports

variable (lib g channel traceId) in
theorem reports_fallbacks (profiles : List ModelProfile) (k : ℕ) (st : Progress) :
    Reports lib g channel st (fallbacks lib g channel traceId k profiles st).1 := by
  induction profiles generalizing k st with
  | nil =>
    simp only [fallbacks]
    split <;> exact Reports.refl rfl rfl
  | cons profile rest ih =>
    simp only [fallbacks]
    split
    · have hstart : Reports lib g channel st
          { st with retries := g.catalog.routePolicy.maxTransientRetries } := Reports.refl rfl rfl
      have hreports := hstart.trans (reports_attempts lib g channel traceId profile k _)
      split
      · rename_i heq
        rwa [heq] at hreports
      · rename_i heq
        rwa [heq] at hreports
      · rename_i st' heq
        rw [heq] at hreports
        split
        · split
          · exact hreports.trans (ih (k + 1) st')
          · exact hreports
        · exact hreports.trans (ih (k + 1) st')
    · exact (Reports.refl rfl rfl).trans (ih (k + 1) _)

/-- **The events of a call are well bracketed exactly if every answer closes its attempt**: it is a
`ModelFailure`, or a result whose checks pass or end in one, and if its structured output fails, no
repair is left. -/
theorem wellBracketed_iff (lib : Libraries) (g : Gateway) (channel : ModelChannel) (traceId : String)
    (request : ModelRequest) :
    WellBracketed (complete lib g channel traceId request).1.events ↔
      ∀ n call, (complete lib g channel traceId request).1.sent[n]? = some call →
        Closes lib g call (channel n call) := by
  have hreports : Reports lib g channel { request := request }
      (complete lib g channel traceId request).1 := by
    simp only [complete]
    split
    · exact Reports.refl rfl rfl
    · split
      · exact Reports.refl rfl rfl
      · split
        · exact Reports.refl rfl rfl
        · exact Reports.refl rfl rfl
        · exact reports_fallbacks lib g channel traceId _ 0 _
  obtain ⟨calls, hsent, hiff⟩ := hreports
  rw [hiff, hsent]
  constructor
  · rintro ⟨-, hall⟩ n call hcall
    have hcloses := hall n call hcall
    rwa [show ([] : List Sent).length + n = n from Nat.zero_add n] at hcloses
  · intro hall
    refine ⟨trivial, fun n call hcall => ?_⟩
    have hcloses := hall n call hcall
    rwa [← show ([] : List Sent).length + n = n from Nat.zero_add n] at hcloses

/-! ### Responses -/

variable (lib) in
/-- The response is made of a result that has passed the checks of the request. -/
structure Built (request : ModelRequest) (result : ChannelResult) (response : GatewayResponse) :
    Prop where
  requestId : response.requestId = request.requestId
  responseId : response.responseId = result.responseId
  content : response.content = result.content
  toolCalls : response.toolCalls = result.toolCalls
  finishReason : response.finishReason = result.finishReason
  usage : response.usage = result.usage
  unstructured : request.targetJsonSchema = none → response.structuredOutput = none
  structured : ∀ schema, request.targetJsonSchema = some schema → ∃ fields,
    lib.loads result.content = .ok (.obj fields) ∧ lib.checkSchema (.obj schema) = .ok () ∧
    lib.validate (.obj schema) (.obj fields) = .ok () ∧
    response.structuredOutput = some (.obj fields)
  tools : request.toolSchemas ≠ [] → result.toolCalls ≠ [] ∧ ∃ definitions,
    toolDefinitions request.toolSchemas = .ok definitions ∧ ∀ call ∈ result.toolCalls,
      ∃ schema, definitions.lookup call.name = some schema ∧ lib.checkSchema schema = .ok () ∧
        lib.validate schema (.obj call.arguments) = .ok ()

theorem mapError_eq_ok {ε ε' α : Type} {x : Except ε α} {f : ε → ε'} {a : α}
    (h : x.mapError f = .ok a) : x = .ok a := by
  cases x with
  | error err => cases h
  | ok b =>
    cases h
    rfl

variable {result : ChannelResult}

theorem validateStructured_eq_ok {schema : List (String × Json)} {value : Json}
    (h : validateStructured lib result schema = .ok value) :
    ∃ fields, lib.loads result.content = .ok (.obj fields) ∧ lib.checkSchema (.obj schema) = .ok () ∧
      lib.validate (.obj schema) (.obj fields) = .ok () ∧ value = .obj fields := by
  obtain ⟨u, hschema, h⟩ := bind_eq_ok.1 (mapError_eq_ok h)
  obtain ⟨document, hloads, h⟩ := bind_eq_ok.1 h
  cases document with
  | obj fields =>
    obtain ⟨u', hvalid, h⟩ := bind_eq_ok.1 h
    cases h
    exact ⟨fields, hloads, hschema, hvalid, rfl⟩
  | null => cases h
  | bool b => cases h
  | int n => cases h
  | float repr => cases h
  | str s => cases h
  | arr items => cases h

theorem validateToolCalls_eq_ok {schemas : List (List (String × Json))}
    (h : validateToolCalls lib result schemas = .ok ()) :
    result.toolCalls ≠ [] ∧ ∃ definitions, toolDefinitions schemas = .ok definitions ∧
      ∀ call ∈ result.toolCalls, ∃ schema, definitions.lookup call.name = some schema ∧
        lib.checkSchema schema = .ok () ∧ lib.validate schema (.obj call.arguments) = .ok () := by
  unfold validateToolCalls at h
  split at h
  · cases h
  rename_i hcalls
  obtain ⟨definitions, hdefinitions, h⟩ := bind_eq_ok.1 (mapError_eq_ok h)
  refine ⟨hcalls, definitions, hdefinitions, fun call hcall => ?_⟩
  have hchecked := forM_eq_ok.1 h call hcall
  unfold checkToolCall at hchecked
  split at hchecked
  · cases hchecked
  rename_i schema hschema
  obtain ⟨u, hcheck, hvalid⟩ := bind_eq_ok.1 hchecked
  exact ⟨schema, hschema, hcheck, hvalid⟩

variable {response : GatewayResponse}

theorem built_of_pass
    (h : pass lib g channel traceId profile k st = (st', .ended (.returned response))) :
    ∃ call result, st'.sent = st.sent ++ [call] ∧ channel st.sent.length call = .ok result ∧
      call.profile = profile ∧ Built lib st.request result response ∧
      response.route.attempt = st.attempt + 1 ∧ response.route.fallbackCount = k := by
  have hrecover : ∀ {st₁ st' : Progress} {r : RouteMetadata} {e : ModelFailure},
      recover r st₁ e ≠ (st', .ended (.returned response)) := by
    intro st₁ st' r e heq
    simp only [recover] at heq
    split at heq
    · cases heq
    · split at heq <;> cases heq
  have hraise : ∀ {st₁ st' : Progress} {r : RouteMetadata} {err : GatewayError},
      raise r st₁ err ≠ (st', .ended (.returned response)) := by
    intro st₁ st' r err heq
    cases err with
    | failure e => exact hrecover heq
    | keyError => cases heq
    | validationError => cases heq
    | assertionError => cases heq
    | other => cases heq
  simp only [pass] at h
  split at h
  · cases h
  rename_i r hroute
  split at h
  · exact absurd h hraise
  rename_i result hanswer
  rw [settle_eq] at h
  dsimp only at h
  split at h
  · exact absurd h hraise
  rename_i htools
  split at h
  swap
  · split at h
    · exact absurd h hrecover
    · cases h
  swap
  · cases h
  rename_i structured houtput
  obtain ⟨-, -, resolved, hresolved, hattempt, hfallback⟩ :=
    exists_resolved_route hroute result.resolvedModel
  simp only [respond, hresolved] at h
  cases h
  refine ⟨⟨st.request, profile, r⟩, result, rfl, hanswer, rfl, ?_, hattempt, hfallback⟩
  refine ⟨rfl, rfl, rfl, rfl, rfl, rfl, fun hnone => ?_, fun schema hschema => ?_, fun hne => ?_⟩
  · rw [structuredOutput, hnone] at houtput
    cases houtput
    rfl
  · rw [structuredOutput, hschema] at houtput
    dsimp only at houtput
    cases hvalue : validateStructured lib result schema with
    | error err =>
      rw [hvalue] at houtput
      cases houtput
    | ok value =>
      rw [hvalue] at houtput
      cases houtput
      obtain ⟨fields, hloads, hcheck, hvalid, rfl⟩ := validateStructured_eq_ok hvalue
      exact ⟨fields, hloads, hcheck, hvalid, rfl⟩
  · rw [checkTools, if_neg hne] at htools
    exact validateToolCalls_eq_ok htools

/-! ### What the loops keep -/

/-- What stays of the request, and the attempts count the calls. -/
structure Kept (request : ModelRequest) (st : Progress) : Prop where
  requestId : st.request.requestId = request.requestId
  targetJsonSchema : st.request.targetJsonSchema = request.targetJsonSchema
  toolSchemas : st.request.toolSchemas = request.toolSchemas
  counted : st.attempt = st.sent.length

variable {request : ModelRequest}

theorem Kept.built (hkept : Kept request st) (h : Built lib st.request result response) :
    Built lib request result response := by
  refine ⟨?_, h.responseId, h.content, h.toolCalls, h.finishReason, h.usage, ?_, ?_, ?_⟩
  · rw [← hkept.requestId]
    exact h.requestId
  · rw [← hkept.targetJsonSchema]
    exact h.unstructured
  · rw [← hkept.targetJsonSchema]
    exact h.structured
  · rw [← hkept.toolSchemas]
    exact h.tools

theorem kept_recover {e : ModelFailure} (hkept : Kept request st) :
    Kept request (recover r st e).1 := by
  obtain ⟨hid, hschema, htools, hcounted⟩ := hkept
  simp only [recover]
  split
  · exact ⟨hid, hschema, htools, hcounted⟩
  · split <;> exact ⟨hid, hschema, htools, hcounted⟩

theorem kept_raise {err : GatewayError} (hkept : Kept request st) :
    Kept request (raise r st err).1 := by
  cases err with
  | failure e => exact kept_recover hkept
  | keyError => exact hkept
  | validationError => exact hkept
  | assertionError => exact hkept
  | other => exact hkept

theorem kept_settle (hkept : Kept request st) :
    Kept request (settle lib g traceId profile k r st result).1 := by
  have hrespond : ∀ structured, Kept request (respond g traceId profile k st result structured).1 := by
    intro structured
    unfold respond
    split
    · exact hkept
    · exact ⟨hkept.requestId, hkept.targetJsonSchema, hkept.toolSchemas, hkept.counted⟩
  rw [settle_eq]
  split
  · exact kept_raise hkept
  split
  · exact hrespond _
  · split
    · exact kept_recover hkept
    · exact ⟨hkept.requestId, hkept.targetJsonSchema, hkept.toolSchemas, hkept.counted⟩
  · exact hkept

theorem kept_pass {p : Pass} (h : pass lib g channel traceId profile k st = (st', p))
    (hp : ∀ err, p ≠ .ended (.raised err)) (hkept : Kept request st) : Kept request st' := by
  have hsent : ∀ (call : Sent) (events : List ObserverEvent),
      Kept request { st with
        attempt := st.attempt + 1, sent := st.sent ++ [call], events := events } := by
    intro call events
    refine ⟨hkept.requestId, hkept.targetJsonSchema, hkept.toolSchemas, ?_⟩
    show st.attempt + 1 = (st.sent ++ [call]).length
    rw [List.length_append, List.length_singleton, hkept.counted]
  simp only [pass] at h
  split at h
  · cases h
    exact absurd rfl (hp _)
  split at h
  · obtain rfl := congrArg Prod.fst h
    exact kept_raise (hsent _ _)
  · obtain rfl := congrArg Prod.fst h
    exact kept_settle (hsent _ _)

theorem kept_attempts (h : attempts lib g channel traceId profile k st = (st', .broke))
    (hkept : Kept request st) : Kept request st' := by
  fun_induction attempts lib g channel traceId profile k st with
  | case1 st st₁ hpass hleft ih => exact ih h (kept_pass hpass (by simp) hkept)
  | case2 st st₁ e hpass =>
    cases h
    exact kept_pass hpass (by simp) hkept

/-! ### What the loops return -/

theorem built_of_attempts
    (h : attempts lib g channel traceId profile k st = (st', .returned response))
    (hkept : Kept request st) :
    ∃ calls call result, st'.sent = calls ++ [call] ∧ channel calls.length call = .ok result ∧
      call.profile = profile ∧ Built lib request result response ∧
      response.route.attempt = st'.sent.length ∧ response.route.fallbackCount = k := by
  fun_induction attempts lib g channel traceId profile k st with
  | case1 st st₁ hpass hleft ih => exact ih h (kept_pass hpass (by simp) hkept)
  | case2 st st₁ e hpass =>
    cases h
    obtain ⟨call, result, hsent, hanswer, hprofile, hbuilt, hattempt, hfallback⟩ :=
      built_of_pass hpass
    refine ⟨st.sent, call, result, hsent, hanswer, hprofile, hkept.built hbuilt, ?_, hfallback⟩
    rw [hattempt, hkept.counted, hsent, List.length_append, List.length_singleton]

/-- A response that is returned on a list of profiles: the fallbacks count the profiles before. -/
theorem built_of_fallbacks {profiles : List ModelProfile}
    (h : fallbacks lib g channel traceId k profiles st = (st', .ok response))
    (hkept : Kept request st) :
    ∃ calls call result n, st'.sent = calls ++ [call] ∧ channel calls.length call = .ok result ∧
      Built lib request result response ∧ response.route.attempt = st'.sent.length ∧
      response.route.fallbackCount = k + n ∧ profiles[n]? = some call.profile := by
  induction profiles generalizing k st with
  | nil =>
    simp only [fallbacks] at h
    split at h <;> cases h
  | cons profile rest ih =>
    -- what is returned on the rest is one further from the first profile
    have hrest : ∀ {st₁ : Progress}, Kept request st₁ →
        fallbacks lib g channel traceId (k + 1) rest st₁ = (st', .ok response) →
        ∃ calls call result n, st'.sent = calls ++ [call] ∧
          channel calls.length call = .ok result ∧ Built lib request result response ∧
          response.route.attempt = st'.sent.length ∧ response.route.fallbackCount = k + n ∧
          (profile :: rest)[n]? = some call.profile := by
      intro st₁ hkept₁ h₁
      obtain ⟨calls, call, result, n, hsent, hanswer, hbuilt, hattempt, hfallback, hprofile⟩ :=
        ih h₁ hkept₁
      exact ⟨calls, call, result, n + 1, hsent, hanswer, hbuilt, hattempt, by omega, hprofile⟩
    have hstart : Kept request { st with retries := g.catalog.routePolicy.maxTransientRetries } :=
      ⟨hkept.requestId, hkept.targetJsonSchema, hkept.toolSchemas, hkept.counted⟩
    simp only [fallbacks] at h
    split at h
    · split at h
      · rename_i hattempts
        cases h
        obtain ⟨calls, call, result, hsent, hanswer, hprofile, hbuilt, hattempt, hfallback⟩ :=
          built_of_attempts hattempts hstart
        refine ⟨calls, call, result, 0, hsent, hanswer, hbuilt, hattempt, hfallback, ?_⟩
        rw [hprofile]
        rfl
      · cases h
      · rename_i hattempts
        have hkept' := kept_attempts hattempts hstart
        split at h
        · split at h
          · exact hrest hkept' h
          · cases h
        · exact hrest hkept' h
    · refine hrest ?_ h
      exact ⟨hkept.requestId, hkept.targetJsonSchema, hkept.toolSchemas, hkept.counted⟩

theorem callBound_le (lib : Libraries) (g : Gateway) (request : ModelRequest) :
    callBound lib g request ≤
      ((candidates g.catalog request.modelFamily (capability request)).getD []).length *
        (1 + g.catalog.routePolicy.maxTransientRetries) + g.catalog.routePolicy.maxRepairs := by
  have hserved : (served lib g request).length ≤
      ((candidates g.catalog request.modelFamily (capability request)).getD []).length := by
    unfold served
    split
    · exact Nat.zero_le _
    · exact List.length_filter_le _ _
  have hrepairs : repairsLeft lib g request 0 ≤ g.catalog.routePolicy.maxRepairs := by
    unfold repairsLeft
    split <;> omega
  unfold callBound
  split
  · exact Nat.zero_le _
  · exact Nat.add_le_add (Nat.mul_le_mul_right _ hserved) hrepairs

/-- **A call ends within the bound, and its response is built from the answer to the last call**: the
answer has passed the checks of the request, the attempts count the calls, and the fallbacks are the
place of the profile among the candidates. -/
theorem complete_spec (lib : Libraries) (g : Gateway) (channel : ModelChannel) (traceId : String)
    (request : ModelRequest) :
    (complete lib g channel traceId request).1.sent.length ≤
        ((candidates g.catalog request.modelFamily (capability request)).getD []).length *
          (1 + g.catalog.routePolicy.maxTransientRetries) + g.catalog.routePolicy.maxRepairs ∧
      ∀ response, (complete lib g channel traceId request).2 = .ok response →
        ∃ calls call result profiles,
          (complete lib g channel traceId request).1.sent = calls ++ [call] ∧
          channel calls.length call = .ok result ∧ Built lib request result response ∧
          response.route.attempt = (complete lib g channel traceId request).1.sent.length ∧
          candidates g.catalog request.modelFamily (capability request) = some profiles ∧
          profiles[response.route.fallbackCount]? = some call.profile := by
  refine ⟨(length_complete_le lib g channel traceId request).trans (callBound_le lib g request), ?_⟩
  intro response hresponse
  cases hcandidates : candidates g.catalog request.modelFamily (capability request) with
  | none =>
    simp only [complete, hcandidates] at hresponse
    split at hresponse
    · cases hresponse
    · split at hresponse <;> cases hresponse
  | some profiles =>
    have hcomplete : complete lib g channel traceId request =
        fallbacks lib g channel traceId 0 profiles { request := request } := by
      simp only [complete, hcandidates] at hresponse ⊢
      split at hresponse
      · cases hresponse
      rename_i hsafe
      split at hresponse
      · cases hresponse
      rename_i hstream
      rw [if_neg hsafe, if_neg hstream]
      cases profiles with
      | nil => cases hresponse
      | cons profile rest => rfl
    rw [hcomplete] at hresponse ⊢
    obtain ⟨calls, call, result, n, hsent, hanswer, hbuilt, hattempt, hfallback, hprofile⟩ :=
      built_of_fallbacks (Prod.ext rfl hresponse) ⟨rfl, rfl, rfl, rfl⟩
    refine ⟨calls, call, result, profiles, hsent, hanswer, hbuilt, hattempt, rfl, ?_⟩
    rwa [hfallback, Nat.zero_add]

/-! ### A repaired request -/

section Passes

variable {profile : ModelProfile} {k : ℕ} {st : Progress} {r : RouteMetadata} {result : ChannelResult}
  (hroute : route g traceId st.request profile (st.attempt + 1) k st.repairCount none = some r)
  (hanswer : ∀ call, channel st.sent.length call = .ok result)
  (htools : checkTools lib st.request result = .ok ())

include hroute hanswer htools

theorem pass_checked {structured : Option Json}
    (houtput : structuredOutput lib st.request result = .ok structured) :
    ∃ st' resolved response,
      pass lib g channel traceId profile k st = (st', .ended (.returned response)) ∧
      st'.events = st.events ++ [.started st.request.requestId r] ++
        [.completed st.request.requestId resolved] := by
  obtain ⟨-, -, resolved, hresolved, -, -⟩ := exists_resolved_route hroute result.resolvedModel
  simp only [pass, hroute, hanswer, settle_eq, htools, houtput, respond, hresolved]
  exact ⟨_, _, _, rfl, rfl⟩

theorem pass_unsatisfied {e : ModelFailure}
    (houtput : structuredOutput lib st.request result = .error (.failure e))
    (hmax : st.repairCount < g.catalog.routePolicy.maxRepairs) :
    ∃ st', pass lib g channel traceId profile k st = (st', .again) ∧
      st'.request = repairRequest st.request ∧ st'.attempt = st.attempt + 1 ∧
      st'.repairCount = st.repairCount + 1 ∧ st'.sent.length = st.sent.length + 1 ∧
      st'.events = st.events ++ [.started st.request.requestId r] := by
  simp only [pass, hroute, hanswer, settle_eq, htools, houtput]
  rw [if_neg (by omega)]
  exact ⟨_, rfl, rfl, rfl, rfl, by simp, rfl⟩

end Passes

/-- Libraries that read the empty object only. -/
def emptyObjects : Libraries where
  loads text := if text = "\x7b\x7d" then .ok (.obj []) else .error .jsonDecodeError
  checkSchema _ := .ok ()
  validate _ _ := .ok ()
  isLetter _ := false

theorem validateStructured_word (hcontent : result.content ≠ "\x7b\x7d") :
    validateStructured emptyObjects result [] =
      .error (.failure { code := .invalidStructuredOutput, retryable := false }) := by
  have hloads : emptyObjects.loads result.content = .error .jsonDecodeError := if_neg hcontent
  simp only [validateStructured, hloads]
  rfl

theorem validateStructured_object (hcontent : result.content = "\x7b\x7d") :
    validateStructured emptyObjects result [] = .ok (.obj []) := by
  have hloads : emptyObjects.loads result.content = .ok (.obj []) := if_pos hcontent
  simp only [validateStructured, hloads]
  rfl

/-- A request for an object. -/
def structuredRequest : ModelRequest :=
  { sampleRequest with targetJsonSchema := some [] }

def sampleResult (content : String) : ChannelResult where
  responseId := "resp_1"
  resolvedModel := "qwen3.7-plus-2026-05-26"
  content := content
  toolCalls := []
  finishReason := "stop"
  usage := none

/-- The channel that answers with a word first and with an object afterwards. -/
def corrected : ModelChannel := fun n _ =>
  .ok (sampleResult (if n = 0 then "done" else "\x7b\x7d"))

theorem candidates_shipped : ∃ profile rest,
    candidates shipped.catalog .qwen .structured = some (profile :: rest) ∧
      shipped.channels profile.channel = true := by
  have hfirst : (shippedProfiles "qwen_primary").filter (fun p => p.supports .structured) = some
      (shippedProfile .qwen "qwen3.7-plus-2026-05-26" [("enable_thinking", false)] (by decide)) := by
    rw [shippedProfiles, if_pos rfl]
    rfl
  refine ⟨_, _, congrArg some (List.filterMap_cons_some hfirst), ?_⟩
  rfl

/-- The request is repaired, and its second call is answered. -/
theorem complete_corrected : ∃ first second resolved response,
    (complete emptyObjects shipped corrected "trace" structuredRequest).1.events =
        [.started structuredRequest.requestId first, .started structuredRequest.requestId second,
          .completed structuredRequest.requestId resolved] ∧
      (complete emptyObjects shipped corrected "trace" structuredRequest).2 = .ok response := by
  have hsafe : rejectSensitiveRequest emptyObjects.isLetter structuredRequest = false := by
    decide +kernel
  have htrace : "trace" ≠ "" := by decide
  obtain ⟨profile, rest, hprofiles, hchannel⟩ := candidates_shipped
  obtain ⟨first, hfirst⟩ := exists_route shipped htrace structuredRequest profile (Nat.le_refl 1) 0
    (Nat.zero_le 1)
  obtain ⟨second, hsecond⟩ := exists_route shipped htrace (repairRequest structuredRequest) profile
    (show 1 ≤ 2 by decide) 0 (Nat.le_refl 1)
  have hword : structuredOutput emptyObjects structuredRequest (sampleResult "done") =
      .error (.failure { code := .invalidStructuredOutput, retryable := false }) := by
    have hinvalid := validateStructured_word (show (sampleResult "done").content ≠ _ by decide)
    rw [structuredOutput, show structuredRequest.targetJsonSchema = some [] from rfl]
    dsimp only
    rw [hinvalid]
    rfl
  have hobject : structuredOutput emptyObjects (repairRequest structuredRequest)
      (sampleResult "\x7b\x7d") = .ok (some (.obj [])) := by
    have hvalid := validateStructured_object (show (sampleResult "\x7b\x7d").content = _ from rfl)
    rw [structuredOutput, show (repairRequest structuredRequest).targetJsonSchema = some [] from rfl]
    dsimp only
    rw [hvalid]
    rfl
  have hstart : ∃ st₁, pass emptyObjects shipped corrected "trace" profile 0
      { request := structuredRequest, retries := 1 } = (st₁, .again) ∧
      st₁.request = repairRequest structuredRequest ∧ st₁.attempt = 1 ∧ st₁.repairCount = 1 ∧
      st₁.sent.length = 1 ∧ st₁.events = [.started structuredRequest.requestId first] :=
    pass_unsatisfied hfirst (fun _ => rfl) rfl hword (by decide)
  obtain ⟨st₁, hpass, hrequest, hattempt, hrepairs, hlength, hevents⟩ := hstart
  have hroute : route shipped "trace" st₁.request profile (st₁.attempt + 1) 0 st₁.repairCount none =
      some second := by
    rw [hrequest, hattempt, hrepairs]
    exact hsecond
  have hanswer : ∀ call, corrected st₁.sent.length call = .ok (sampleResult "\x7b\x7d") := by
    rw [hlength]
    exact fun _ => rfl
  have htools : checkTools emptyObjects st₁.request (sampleResult "\x7b\x7d") = .ok () := by
    rw [hrequest]
    rfl
  have houtput : structuredOutput emptyObjects st₁.request (sampleResult "\x7b\x7d") =
      .ok (some (.obj [])) := by
    rw [hrequest]
    exact hobject
  obtain ⟨st₂, resolved, response, hpass', hevents'⟩ := pass_checked hroute hanswer htools houtput
  have hcomplete : complete emptyObjects shipped corrected "trace" structuredRequest =
      fallbacks emptyObjects shipped corrected "trace" 0 (profile :: rest)
        { request := structuredRequest } := by
    have hstream : (structuredRequest.modelFamily, capability structuredRequest) =
        (.qwen, .structured) := rfl
    obtain ⟨hfamily, hcapability⟩ := Prod.mk.inj hstream
    simp only [complete, hsafe, hfamily, hcapability, hprofiles]
    rfl
  have hreturned : fallbacks emptyObjects shipped corrected "trace" 0 (profile :: rest)
      { request := structuredRequest } = (st₂, .ok response) := by
    have hattempts := (attempts_again hpass).trans (attempts_ended hpass')
    simp only [fallbacks, hchannel, if_true]
    rw [show shipped.catalog.routePolicy.maxTransientRetries = 1 from rfl, hattempts]
  refine ⟨first, second, resolved, response, ?_, ?_⟩
  · rw [hcomplete, hreturned]
    dsimp only
    rw [hevents', hevents, hrequest]
    rfl
  · rw [hcomplete, hreturned]

/-- The first call is left open when its output is repaired. -/
theorem not_wellBracketed : ¬∀ (lib : Libraries) (g : Gateway) (channel : ModelChannel)
    (traceId : String) (request : ModelRequest),
    WellBracketed (complete lib g channel traceId request).1.events := by
  intro hall
  have hcorrected := hall emptyObjects shipped corrected "trace" structuredRequest
  obtain ⟨first, second, resolved, response, hevents, -⟩ := complete_corrected
  rw [hevents] at hcorrected
  obtain ⟨⟨event, hevent⟩, -⟩ := hcorrected
  cases hevent

/-- The response to the repaired request is built from the second answer. -/
theorem complete_spec_corrected : ∃ response calls call result profiles,
    (complete emptyObjects shipped corrected "trace" structuredRequest).1.sent = calls ++ [call] ∧
      corrected calls.length call = .ok result ∧
      Built emptyObjects structuredRequest result response ∧
      response.route.attempt =
        (complete emptyObjects shipped corrected "trace" structuredRequest).1.sent.length ∧
      candidates shipped.catalog structuredRequest.modelFamily (capability structuredRequest) =
        some profiles ∧
      profiles[response.route.fallbackCount]? = some call.profile := by
  obtain ⟨first, second, resolved, response, -, hresponse⟩ := complete_corrected
  exact ⟨response, (complete_spec emptyObjects shipped corrected "trace" structuredRequest).2
    response hresponse⟩

end ModelGateway
