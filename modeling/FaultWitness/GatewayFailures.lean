/-
**The exceptions of a call over an upstream.**

A call of the gateway runs over results whose content may be any JSON value, which only `json.loads`
and the record of the response look at.  A pass over such results is a pass over a channel whose
contents are texts and that raises, for the others, what the gateway raises because of them.  With it,
what gets out of a call is told from the exchanges alone: a response or a `ModelFailure`, unless one of
them leads to an exception that nothing catches, or the family of the request has no route.

Main definitions:

* `ModelGateway.passOver`, `ModelGateway.completeOver` — a pass and a call over an upstream;
* `ModelGateway.channelOver` — the channel that the gateway makes of the upstream;
* `ModelGateway.Foreign` — the exchanges of which an exception comes that is no `ModelFailure`.

Main results:

* `ModelGateway.passOver_eq`, `ModelGateway.completeOver_eq` — a call over the upstream is a call over
  that channel;
* `ModelGateway.answered_complete` — what gets out is a failure as long as the channel answers;
* `ModelGateway.closed_iff` — **a call returns or raises a `ModelFailure` exactly if the family has a
  route and no exchange is foreign**.
-/

import FaultWitness.CompletionCalls
import FaultWitness.GatewayOutcomes

set_option autoImplicit false

namespace ModelGateway

open Python
open OpenAICompatibleChannel (Readers Exchange RawResult)

/-! ### A pass over results of any content -/

/-- The result with a text for its content. -/
def withContent (raw : RawResult) (content : String) : ChannelResult where
  responseId := raw.responseId
  resolvedModel := raw.resolvedModel
  content := content
  toolCalls := raw.toolCalls
  finishReason := raw.finishReason
  usage := raw.usage

section Over

variable (lib : Libraries) (g : Gateway) (traceId : String)

/-- `_validate_tool_calls` does not look at the content. -/
def checkRawTools (request : ModelRequest) (raw : RawResult) : Except GatewayError Unit :=
  checkTools lib request (withContent raw "")

/-- `_validate_structured`: `json.loads` of what is no text raises a `TypeError`. -/
def validateRaw (raw : RawResult) (schema : List (String × Json)) : Except GatewayError Json :=
  match raw.content with
  | .str text => validateStructured lib (withContent raw text) schema
  | _ => (do
      lib.checkSchema (.obj schema)
      throw .typeError : Except LibraryError Json).mapError
      (convert [.schemaError, .validationError, .jsonDecodeError] .invalidStructuredOutput)

/-- The record of a response refuses a content that is no text. -/
def respondRaw (profile : ModelProfile) (fallbackCount : ℕ) (st : Progress) (raw : RawResult)
    (structured : Option Json) : Progress × Pass :=
  match raw.content with
  | .str text => respond g traceId profile fallbackCount st (withContent raw text) structured
  | _ => (st, .ended (.raised .validationError))

/-- The checks of a result. -/
def settleRaw (profile : ModelProfile) (fallbackCount : ℕ) (r : RouteMetadata) (st : Progress)
    (raw : RawResult) : Progress × Pass :=
  match checkRawTools lib st.request raw with
  | .error err => raise r st err
  | .ok () =>
    match st.request.targetJsonSchema with
    | none => respondRaw g traceId profile fallbackCount st raw none
    | some schema =>
      match validateRaw lib raw schema with
      | .ok value => respondRaw g traceId profile fallbackCount st raw (some value)
      | .error (.failure e) =>
        if g.catalog.routePolicy.maxRepairs ≤ st.repairCount then recover r st e
        else
          ({ st with
            repairCount := st.repairCount + 1
            request := repairRequest st.request }, .again)
      | .error err => (st, .ended (.raised err))

/-- How the upstream answers: from the number of calls before and what is sent. -/
abbrev Upstreams := ℕ → Sent → Exchange

variable (readers : Readers) (upstreams : Upstreams)

/-- One pass through the loop over attempts. -/
def passOver (profile : ModelProfile) (fallbackCount : ℕ) (st : Progress) : Progress × Pass :=
  let st := { st with attempt := st.attempt + 1 }
  match route g traceId st.request profile st.attempt fallbackCount st.repairCount none with
  | none => (st, .ended (.raised .validationError))
  | some r =>
    let call : Sent := ⟨st.request, profile, r⟩
    let answer := OpenAICompatibleChannel.complete readers st.request profile
      (upstreams st.sent.length call)
    let st := { st with
      sent := st.sent ++ [call]
      events := st.events ++ [.started st.request.requestId r] }
    match answer with
    | .error err => raise r st err
    | .ok raw => settleRaw lib g traceId profile fallbackCount r st raw

/-- What a result comes to for a gateway whose results have texts for contents: where the content is no
text, the exception that the gateway raises because of it, unless a check fails before. -/
def regarded (request : ModelRequest) (raw : RawResult) : Except GatewayError ChannelResult :=
  match raw.content with
  | .str text => .ok (withContent raw text)
  | _ =>
    match checkRawTools lib request raw with
    | .error err => .error err
    | .ok () =>
      match request.targetJsonSchema with
      | none => .error .validationError
      | some schema =>
        match lib.checkSchema (.obj schema) with
        | .ok () => .error .other
        | .error _ => .ok (withContent raw "")

/-- The channel over the upstream. -/
def channelOver : ModelChannel := fun n call =>
  (OpenAICompatibleChannel.complete readers call.request call.profile (upstreams n call)).bind
    (regarded lib call.request)

variable {lib g traceId readers upstreams}

/-- The content is no text. -/
def Untexted (raw : RawResult) : Prop := ∀ text, raw.content ≠ .str text

variable {raw : RawResult}

theorem respondRaw_of_untexted (h : Untexted raw) (profile : ModelProfile) (k : ℕ) (st : Progress)
    (structured : Option Json) :
    respondRaw g traceId profile k st raw structured = (st, .ended (.raised .validationError)) := by
  unfold respondRaw
  split
  · rename_i text htext
    exact absurd htext (h text)
  · rfl

theorem validateRaw_of_untexted (h : Untexted raw) (schema : List (String × Json)) :
    validateRaw lib raw schema = .error (match lib.checkSchema (.obj schema) with
      | .ok () => .other
      | .error err =>
        convert [.schemaError, .validationError, .jsonDecodeError] .invalidStructuredOutput err) := by
  unfold validateRaw
  split
  · rename_i text htext
    exact absurd htext (h text)
  · cases lib.checkSchema (.obj schema) with
    | error err => rfl
    | ok u => rfl

theorem regarded_of_untexted (h : Untexted raw) (request : ModelRequest) :
    regarded lib request raw =
      match checkRawTools lib request raw with
      | .error err => .error err
      | .ok () =>
        match request.targetJsonSchema with
        | none => .error .validationError
        | some schema =>
          match lib.checkSchema (.obj schema) with
          | .ok () => .error .other
          | .error _ => .ok (withContent raw "") := by
  unfold regarded
  split
  · rename_i text htext
    exact absurd htext (h text)
  · rfl

theorem validateStructured_of_checkSchema {schema : List (String × Json)} {err : LibraryError}
    (h : lib.checkSchema (.obj schema) = .error err) (result : ChannelResult) :
    validateStructured lib result schema = .error
      (convert [.schemaError, .validationError, .jsonDecodeError] .invalidStructuredOutput err) := by
  rw [validateStructured, h]
  rfl

/-- The checks do to a result what they do to what it comes to. -/
theorem settleRaw_eq (profile : ModelProfile) (k : ℕ) (r : RouteMetadata) (st : Progress)
    (raw : RawResult) : settleRaw lib g traceId profile k r st raw =
      match regarded lib st.request raw with
      | .error err => raise r st err
      | .ok result => settle lib g traceId profile k r st result := by
  have htools : ∀ text, checkTools lib st.request (withContent raw text) =
      checkRawTools lib st.request raw := fun _ => rfl
  by_cases htext : ∃ text, raw.content = .str text
  · obtain ⟨text, htext⟩ := htext
    simp only [settleRaw, regarded, htext, settle_eq, htools, structuredOutput, validateRaw, respondRaw]
    cases checkRawTools lib st.request raw with
    | error err => rfl
    | ok u =>
      cases st.request.targetJsonSchema with
      | none => rfl
      | some schema =>
        dsimp only
        cases validateStructured lib (withContent raw text) schema with
        | ok value => rfl
        | error err => cases err <;> rfl
  · have huntexted : Untexted raw := fun text heq => htext ⟨text, heq⟩
    rw [settleRaw, regarded_of_untexted huntexted]
    simp only [respondRaw_of_untexted huntexted, validateRaw_of_untexted huntexted]
    cases hcheck : checkRawTools lib st.request raw with
    | error err => rfl
    | ok u =>
      cases htarget : st.request.targetJsonSchema with
      | none => rfl
      | some schema =>
        dsimp only
        cases hschema : lib.checkSchema (.obj schema) with
        | ok u => rfl
        | error err =>
          simp only [settle_eq, htools, hcheck, structuredOutput, htarget,
            validateStructured_of_checkSchema hschema]
          cases convert [.schemaError, .validationError, .jsonDecodeError]
            .invalidStructuredOutput err <;> rfl

/-- **A pass over the upstream is a pass over the channel that the gateway makes of it.** -/
theorem passOver_eq (profile : ModelProfile) (k : ℕ) (st : Progress) :
    passOver lib g traceId readers upstreams profile k st =
      pass lib g (channelOver lib readers upstreams) traceId profile k st := by
  simp only [passOver, pass, channelOver]
  cases route g traceId st.request profile (st.attempt + 1) k st.repairCount none with
  | none => rfl
  | some r =>
    dsimp only
    cases OpenAICompatibleChannel.complete readers st.request profile
      (upstreams st.sent.length ⟨st.request, profile, r⟩) with
    | error err => rfl
    | ok raw => exact settleRaw_eq profile k r _ raw

variable (lib g traceId readers upstreams)

/-- The loop over attempts. -/
def attemptsOver (profile : ModelProfile) (fallbackCount : ℕ) (st : Progress) : Progress × Ended :=
  match h : passOver lib g traceId readers upstreams profile fallbackCount st with
  | (st', .again) =>
    have := left_lt_of_again ((passOver_eq profile fallbackCount st).symm.trans h)
    attemptsOver profile fallbackCount st'
  | (st', .ended e) => (st', e)
termination_by st.left g

/-- The loop over the profiles. -/
def fallbacksOver :
    ℕ → List ModelProfile → Progress → Progress × Except GatewayError GatewayResponse
  | _, [], st =>
    match st.lastError with
    | some e => (st, .error (.failure e))
    | none => (st, .error .assertionError)
  | k, profile :: rest, st =>
    if g.channels profile.channel then
      match attemptsOver lib g traceId readers upstreams profile k
        { st with retries := g.catalog.routePolicy.maxTransientRetries } with
      | (st, .returned response) => (st, .ok response)
      | (st, .raised err) => (st, .error err)
      | (st, .broke) =>
        match st.lastError with
        | some e => if e.preOutput then fallbacksOver (k + 1) rest st else (st, .error (.failure e))
        | none => fallbacksOver (k + 1) rest st
    else
      fallbacksOver (k + 1) rest
        { st with lastError := some { code := .configuration, retryable := false } }

/-- A whole call over the upstream. -/
def completeOver (request : ModelRequest) : Progress × Except GatewayError GatewayResponse :=
  let st : Progress := { request := request }
  if rejectSensitiveRequest lib.isLetter request then
    (st, .error (.failure { code := .policyRejected, retryable := false }))
  else if capability request = .stream then
    (st, .error (.failure { code := .configuration, retryable := false }))
  else
    match candidates g.catalog request.modelFamily (capability request) with
    | none => (st, .error .keyError)
    | some [] => (st, .error (.failure { code := .configuration, retryable := false }))
    | some (profile :: rest) =>
      fallbacksOver lib g traceId readers upstreams 0 (profile :: rest) st

variable {lib g traceId readers upstreams}

theorem attemptsOver_eq (profile : ModelProfile) (k : ℕ) (st : Progress) :
    attemptsOver lib g traceId readers upstreams profile k st =
      attempts lib g (channelOver lib readers upstreams) traceId profile k st := by
  fun_induction attemptsOver lib g traceId readers upstreams profile k st with
  | case1 st st' hpass hleft ih =>
    rw [passOver_eq] at hpass
    rw [ih, attempts_again hpass]
  | case2 st st' e hpass =>
    rw [passOver_eq] at hpass
    rw [attempts_ended hpass]

theorem fallbacksOver_eq (k : ℕ) (profiles : List ModelProfile) (st : Progress) :
    fallbacksOver lib g traceId readers upstreams k profiles st =
      fallbacks lib g (channelOver lib readers upstreams) traceId k profiles st := by
  induction profiles generalizing k st with
  | nil => rfl
  | cons profile rest ih =>
    rw [fallbacksOver, fallbacks, attemptsOver_eq]
    refine if_congr Iff.rfl ?_ (ih (k + 1) _)
    obtain ⟨st', response | err | _⟩ := attempts lib g (channelOver lib readers upstreams) traceId
      profile k { st with retries := g.catalog.routePolicy.maxTransientRetries }
    · rfl
    · rfl
    · cases hlast : st'.lastError with
      | none => simpa only [hlast] using ih (k + 1) st'
      | some e =>
        simp only [hlast]
        exact if_congr Iff.rfl (ih (k + 1) st') rfl

/-- **A call over the upstream is a call over the channel that the gateway makes of it.** -/
theorem completeOver_eq (request : ModelRequest) :
    completeOver lib g traceId readers upstreams request =
      complete lib g (channelOver lib readers upstreams) traceId request := by
  unfold completeOver complete
  refine if_congr Iff.rfl rfl (if_congr Iff.rfl rfl ?_)
  cases candidates g.catalog request.modelFamily (capability request) with
  | none => rfl
  | some profiles =>
    cases profiles with
    | nil => rfl
    | cons profile rest => exact fallbacksOver_eq 0 (profile :: rest) _

end Over

/-! ### What the checks raise -/

/-- The libraries raise the exceptions that they document. -/
structure Documented (lib : Libraries) : Prop where
  checkSchema : ∀ schema err, lib.checkSchema schema = .error err → err = .schemaError
  validate : ∀ schema value err, lib.validate schema value = .error err → err = .validationError
  loads : ∀ text err, lib.loads text = .error err → err = .jsonDecodeError

/-- An answer is a result or a failure. -/
def Answered {α : Type} (answer : Except GatewayError α) : Prop :=
  ∀ err, answer = .error err → ∃ e, err = .failure e

section Checks

variable {lib : Libraries}

theorem answered_mapError {α : Type} {x : Except LibraryError α} {caught : List LibraryError}
    {code : ModelFailureCode} (h : ∀ err, x = .error err → err ∈ caught) :
    Answered (x.mapError (convert caught code)) := by
  intro err herr
  cases x with
  | ok a => cases herr
  | error cause =>
    cases herr
    exact ⟨_, if_pos (List.elem_eq_true_of_mem (h cause rfl))⟩

theorem toolDefinitions_error {schemas : List (List (String × Json))} {err : LibraryError}
    (h : toolDefinitions schemas = .error err) : err = .keyError := by
  unfold toolDefinitions at h
  generalize ([] : List (String × Json)) = definitions at h
  induction schemas generalizing definitions with
  | nil => cases h
  | cons schema schemas ih =>
    rw [List.foldlM_cons] at h
    rcases bind_eq_error.1 h with hfirst | ⟨next, -, hrest⟩
    · split at hfirst
      · cases hfirst
        rfl
      · split at hfirst
        · split at hfirst <;> cases hfirst
        · cases hfirst
          rfl
    · exact ih next hrest

theorem checkToolCall_error (hlib : Documented lib) {definitions : List (String × Json)}
    {call : ToolInvocation} {err : LibraryError} (h : checkToolCall lib definitions call = .error err) :
    err ∈ [LibraryError.keyError, .schemaError, .validationError, .typeError] := by
  unfold checkToolCall at h
  split at h
  · cases h
    decide
  · rcases bind_eq_error.1 h with hschema | ⟨u, -, hvalid⟩
    · rw [hlib.checkSchema _ _ hschema]
      decide
    · rw [hlib.validate _ _ _ hvalid]
      decide

theorem answered_checkTools (hlib : Documented lib) (request : ModelRequest) (result : ChannelResult) :
    Answered (checkTools lib request result) := by
  unfold checkTools
  split
  · exact nofun
  · unfold validateToolCalls
    split
    · rintro err ⟨⟩
      exact ⟨_, rfl⟩
    · refine answered_mapError fun err herr => ?_
      rcases bind_eq_error.1 herr with hdefinitions | ⟨definitions, -, hcalls⟩
      · rw [toolDefinitions_error hdefinitions]
        decide
      · obtain ⟨call, -, hcall⟩ := forM_eq_error hcalls
        exact checkToolCall_error hlib hcall

theorem answered_structuredOutput (hlib : Documented lib) (request : ModelRequest)
    (result : ChannelResult) : Answered (structuredOutput lib request result) := by
  unfold structuredOutput
  split
  · exact nofun
  · rename_i schema _
    have hvalidate : Answered (validateStructured lib result schema) := by
      refine answered_mapError fun err herr => ?_
      rcases bind_eq_error.1 herr with hschema | ⟨u, -, hrest⟩
      · rw [hlib.checkSchema _ _ hschema]
        decide
      rcases bind_eq_error.1 hrest with hloads | ⟨value, -, hrest⟩
      · rw [hlib.loads _ _ hloads]
        decide
      cases value with
      | obj fields =>
        rcases bind_eq_error.1 hrest with hvalid | ⟨u, -, hreturn⟩
        · rw [hlib.validate _ _ _ hvalid]
          decide
        · cases hreturn
      | _ =>
        cases hrest
        decide
    intro err herr
    cases hresult : validateStructured lib result schema with
    | ok value =>
      rw [hresult] at herr
      cases herr
    | error cause =>
      rw [hresult] at herr
      cases herr
      exact hvalidate err hresult

end Checks

/-! ### What gets out of the loops -/

section Loops

variable {lib : Libraries} {g : Gateway} {channel : ModelChannel} {traceId : String}

/-- Every call that was made was answered. -/
def AllAnswered (channel : ModelChannel) (sent : List Sent) : Prop :=
  ∀ n call, sent[n]? = some call → Answered (channel n call)

theorem allAnswered_append {sent : List Sent} {call : Sent} :
    AllAnswered channel (sent ++ [call]) ↔
      AllAnswered channel sent ∧ Answered (channel sent.length call) := by
  constructor
  · intro h
    refine ⟨fun n c hc => h n c ?_, h _ _ ?_⟩
    · obtain ⟨hlt, -⟩ := List.getElem?_eq_some_iff.1 hc
      rwa [List.getElem?_append_left hlt]
    · rw [List.getElem?_append_right (Nat.le_refl _), Nat.sub_self]
      rfl
  · rintro ⟨h, hlast⟩ n c hc
    rcases Nat.lt_trichotomy n sent.length with hlt | rfl | hgt
    · exact h n c (by rwa [List.getElem?_append_left hlt] at hc)
    · rw [List.getElem?_append_right (Nat.le_refl _), Nat.sub_self] at hc
      cases hc
      exact hlast
    · rw [List.getElem?_append_right (Nat.le_of_lt hgt), List.getElem?_eq_none (by simp; omega)] at hc
      cases hc

/-- What ends raises at most a failure. -/
def Ended.Contained (e : Ended) : Prop := ∀ err, e = .raised err → ∃ f, err = .failure f

def Pass.Contained (p : Pass) : Prop := ∀ e, p = .ended e → e.Contained

theorem contained_again : Pass.again.Contained := by
  intro e he
  cases he

theorem contained_recover (r : RouteMetadata) (st : Progress) (e : ModelFailure) :
    (recover r st e).2.Contained ∧ (recover r st e).1.sent = st.sent := by
  simp only [recover]
  split
  · exact ⟨contained_again, rfl⟩
  · split
    · refine ⟨?_, rfl⟩
      rintro _ ⟨⟩ err ⟨⟩
      exact ⟨e, rfl⟩
    · refine ⟨?_, rfl⟩
      rintro _ ⟨⟩ err ⟨⟩

theorem contained_raise (r : RouteMetadata) (st : Progress) (err : GatewayError) :
    ((raise r st err).2.Contained ↔ ∃ e, err = .failure e) ∧ (raise r st err).1.sent = st.sent := by
  cases err with
  | failure e =>
    exact ⟨iff_of_true (contained_recover r st e).1 ⟨e, rfl⟩, (contained_recover r st e).2⟩
  | _ =>
    refine ⟨iff_of_false (fun h => ?_) nofun, rfl⟩
    obtain ⟨f, hf⟩ := h _ rfl _ rfl
    cases hf

variable {profile : ModelProfile}

theorem contained_settle (hlib : Documented lib) {k : ℕ} {r : RouteMetadata} {st : Progress}
    (result : ChannelResult)
    (hroute : route g traceId st.request profile st.attempt k st.repairCount none = some r) :
    (settle lib g traceId profile k r st result).2.Contained ∧
      (settle lib g traceId profile k r st result).1.sent = st.sent := by
  rw [settle_eq]
  cases hcheck : checkTools lib st.request result with
  | error err =>
    have hraise := contained_raise r st err
    exact ⟨hraise.1.2 (answered_checkTools hlib st.request result err hcheck), hraise.2⟩
  | ok u =>
    dsimp only
    cases houtput : structuredOutput lib st.request result with
    | ok structured =>
      obtain ⟨-, -, resolved, hresolved, -⟩ := exists_resolved_route hroute result.resolvedModel
      simp only [respond, hresolved]
      refine ⟨?_, trivial⟩
      rintro _ ⟨⟩ err ⟨⟩
    | error err =>
      obtain ⟨e, rfl⟩ := answered_structuredOutput hlib st.request result err houtput
      dsimp only
      split
      · exact contained_recover r st e
      · exact ⟨contained_again, rfl⟩

/-- **A pass is contained exactly if its call is answered.** -/
theorem contained_pass (hlib : Documented lib) (htrace : traceId ≠ "") (profile : ModelProfile)
    (k : ℕ) (st : Progress) (hrepairs : st.repairCount ≤ 1) (hsent : AllAnswered channel st.sent) :
    (pass lib g channel traceId profile k st).2.Contained ↔
      AllAnswered channel (pass lib g channel traceId profile k st).1.sent := by
  obtain ⟨r, hr⟩ :=
    exists_route g htrace st.request profile (Nat.le_add_left 1 st.attempt) k hrepairs
  simp only [pass, hr]
  cases hanswer : channel st.sent.length ⟨st.request, profile, r⟩ with
  | error err =>
    have hraise := contained_raise r { st with
      attempt := st.attempt + 1
      sent := st.sent ++ [⟨st.request, profile, r⟩]
      events := st.events ++ [.started st.request.requestId r] } err
    dsimp only
    rw [hraise.1, hraise.2, allAnswered_append, and_iff_right hsent, hanswer]
    constructor
    · rintro ⟨e, rfl⟩ err ⟨⟩
      exact ⟨e, rfl⟩
    · intro h
      exact h err rfl
  | ok result =>
    dsimp only
    let sending : Progress := { st with
      attempt := st.attempt + 1
      sent := st.sent ++ [⟨st.request, profile, r⟩]
      events := st.events ++ [.started st.request.requestId r] }
    have hsettle : (settle lib g traceId profile k r sending result).2.Contained ∧
        (settle lib g traceId profile k r sending result).1.sent = sending.sent :=
      contained_settle hlib result hr
    rw [hsettle.2, allAnswered_append, and_iff_right hsent, hanswer]
    exact iff_of_true hsettle.1 (fun _ h => by cases h)

theorem lastError_of_pass {k : ℕ} {st st' : Progress}
    (h : pass lib g channel traceId profile k st = (st', .ended .broke)) :
    st'.lastError ≠ none := by
  have hrecover : ∀ r st₁ e, recover r st₁ e = (st', .ended .broke) → st'.lastError ≠ none := by
    intro r st₁ e heq
    simp only [recover] at heq
    split at heq
    · cases heq
    · split at heq
      · cases heq
      · cases heq
        simp
  have hraise : ∀ r st₁ err, raise r st₁ err = (st', .ended .broke) → st'.lastError ≠ none := by
    intro r st₁ err heq
    cases err with
    | failure e => exact hrecover r st₁ e heq
    | _ => cases heq
  simp only [pass] at h
  split at h
  · cases h
  split at h
  · exact hraise _ _ _ h
  rw [settle_eq] at h
  split at h
  · exact hraise _ _ _ h
  split at h
  · simp only [respond] at h
    split at h <;> cases h
  · split at h
    · exact hrecover _ _ _ h
    · cases h
  · cases h

theorem repairCount_of_pass {k : ℕ} {st st' : Progress} {p : Pass}
    (h : pass lib g channel traceId profile k st = (st', p))
    (hrepairs : st.repairCount ≤ g.catalog.routePolicy.maxRepairs) :
    st'.repairCount ≤ g.catalog.routePolicy.maxRepairs := by
  have hpassed := passed lib g channel traceId profile k st
  rw [h] at hpassed
  cases hpassed with
  | refused err hsent hcount hrequest => exact hcount.trans_le hrepairs
  | ended e hsent hcount hrequest => exact hcount.trans_le hrepairs
  | retried hsent hretries hcount hrequest => exact hcount.trans_le hrepairs
  | repaired hsent hretries hcount hmax hrequest hrepairable => exact hcount.trans_le hmax

/-- What is known of the loop over attempts once it has ended. -/
structure Attempted (g : Gateway) (channel : ModelChannel) (st : Progress) (e : Ended) : Prop where
  contained : e.Contained ↔ AllAnswered channel st.sent
  broke : e = .broke → st.lastError ≠ none
  repairs : st.repairCount ≤ g.catalog.routePolicy.maxRepairs

theorem attempted (hlib : Documented lib) (htrace : traceId ≠ "") (profile : ModelProfile)
    (k : ℕ) (st : Progress) (hrepairs : st.repairCount ≤ g.catalog.routePolicy.maxRepairs)
    (hsent : AllAnswered channel st.sent) :
    Attempted g channel (attempts lib g channel traceId profile k st).1
      (attempts lib g channel traceId profile k st).2 := by
  fun_induction attempts lib g channel traceId profile k st with
  | case1 st st₁ hpass hleft ih =>
    have hcontained := contained_pass (g := g) hlib htrace profile k st
      (hrepairs.trans g.catalog.routePolicy.maxRepairs_le) hsent
    rw [hpass] at hcontained
    exact ih (repairCount_of_pass hpass hrepairs) (hcontained.1 contained_again)
  | case2 st st₁ e hpass =>
    have hcontained := contained_pass (g := g) hlib htrace profile k st
      (hrepairs.trans g.catalog.routePolicy.maxRepairs_le) hsent
    rw [hpass] at hcontained
    refine ⟨?_, ?_, repairCount_of_pass hpass hrepairs⟩
    · rw [← hcontained]
      exact ⟨fun h _ he => (by cases he; exact h), fun h => h e rfl⟩
    · rintro rfl
      exact lastError_of_pass hpass

/-- The loop over the profiles returns or raises a failure exactly if its calls are answered. -/
theorem answered_fallbacks (hlib : Documented lib) (htrace : traceId ≠ "")
    (profiles : List ModelProfile) (k : ℕ) (st : Progress)
    (hrepairs : st.repairCount ≤ g.catalog.routePolicy.maxRepairs)
    (hsent : AllAnswered channel st.sent) (hnone : profiles = [] → st.lastError ≠ none) :
    Answered (fallbacks lib g channel traceId k profiles st).2 ↔
      AllAnswered channel (fallbacks lib g channel traceId k profiles st).1.sent := by
  induction profiles generalizing k st with
  | nil =>
    simp only [fallbacks]
    cases hlast : st.lastError with
    | none => exact absurd hlast (hnone rfl)
    | some e =>
      refine iff_of_true ?_ hsent
      rintro err ⟨⟩
      exact ⟨e, rfl⟩
  | cons profile rest ih =>
    rw [fallbacks]
    split
    · have hattempted := attempted (g := g) hlib htrace profile k
        { st with retries := g.catalog.routePolicy.maxTransientRetries } hrepairs hsent
      split
      · rename_i st₁ response heq
        rw [heq] at hattempted
        exact iff_of_true (fun _ h => by cases h) (hattempted.contained.1 (fun _ h => by cases h))
      · rename_i st₁ err heq
        rw [heq] at hattempted
        rw [← hattempted.contained]
        exact ⟨fun h err' herr => (by cases herr; exact h err rfl),
          fun h err' herr => (by cases herr; exact h err rfl)⟩
      · rename_i st₁ heq
        rw [heq] at hattempted
        have hanswered : AllAnswered channel st₁.sent := hattempted.contained.1 (fun _ h => by cases h)
        split
        · rename_i e hlast
          split
          · exact ih (k + 1) st₁ hattempted.repairs hanswered fun _ => hattempted.broke rfl
          · refine iff_of_true ?_ hanswered
            rintro err ⟨⟩
            exact ⟨e, rfl⟩
        · exact ih (k + 1) st₁ hattempted.repairs hanswered fun _ => hattempted.broke rfl
    · exact ih (k + 1) _ hrepairs hsent fun _ => by simp

/-- The family of the request has a route, if the call gets as far as looking for it. -/
def Routed (lib : Libraries) (g : Gateway) (request : ModelRequest) : Prop :=
  rejectSensitiveRequest lib.isLetter request = false → capability request ≠ .stream →
    g.catalog.routePolicy.routes request.modelFamily ≠ none

/-- **A call returns or raises a failure exactly if the family has a route and the channel answers.** -/
theorem answered_complete (hlib : Documented lib) (htrace : traceId ≠ "") (request : ModelRequest) :
    Answered (complete lib g channel traceId request).2 ↔
      Routed lib g request ∧ AllAnswered channel (complete lib g channel traceId request).1.sent := by
  have hempty : AllAnswered channel [] := by
    intro n call hcall
    rw [List.getElem?_nil] at hcall
    cases hcall
  have hrefused : ∀ (e : ModelFailure),
      Answered (.error (.failure e) : Except GatewayError GatewayResponse) := by
    rintro e err ⟨⟩
    exact ⟨e, rfl⟩
  unfold Routed
  simp only [complete]
  cases hreject : rejectSensitiveRequest lib.isLetter request with
  | true => exact iff_of_true (hrefused _) ⟨by simp, hempty⟩
  | false =>
    rw [if_neg Bool.false_ne_true]
    by_cases hstream : capability request = .stream
    · rw [if_pos hstream]
      exact iff_of_true (hrefused _) ⟨fun _ hnot => absurd hstream hnot, hempty⟩
    · rw [if_neg hstream]
      cases hroute : g.catalog.routePolicy.routes request.modelFamily with
      | none =>
        simp only [candidates, hroute, Option.map_none]
        refine iff_of_false (fun h => ?_) fun h => h.1 trivial hstream rfl
        obtain ⟨e, he⟩ := h _ rfl
        cases he
      | some names =>
        simp only [candidates, hroute, Option.map_some]
        rw [and_iff_right (fun _ _ => by simp)]
        split
        · rename_i heq
          cases heq
        · exact iff_of_true (hrefused _) hempty
        · exact answered_fallbacks hlib htrace _ 0 _ (Nat.zero_le _) hempty (by simp)

end Loops

/-! ### Foreign exchanges -/

section Foreign

variable (lib : Libraries) (readers : Readers)

/-- No check fails before the content is read. -/
def Unchecked (request : ModelRequest) (raw : RawResult) : Prop :=
  checkRawTools lib request raw = .ok () ∧
    ∀ schema, request.targetJsonSchema = some schema → lib.checkSchema (.obj schema) = .ok ()

/-- The exchanges of which an exception comes that is no `ModelFailure`: the HTTP library raises another
one, or the response is accepted and its message is no object, its usage counts infinitely many tokens,
or its content is no text where that matters. -/
def Foreign (call : Sent) : Exchange → Prop
  | .refused err => OpenAICompatibleChannel.payloadBuilt call.request = true ∧ err = .other
  | .answered status body =>
    OpenAICompatibleChannel.payloadBuilt call.request = true ∧ status < 400 ∧
      ∃ document, body = some document ∧
        (OpenAICompatibleChannel.Messageless document ∨
          OpenAICompatibleChannel.Uncountable readers document ∨
          ∃ raw, OpenAICompatibleChannel.readResponse readers call.profile document = .ok raw ∧
            Untexted raw ∧ Unchecked lib call.request raw)

variable {lib readers}

theorem answered_failed {α : Type} (code : ModelFailureCode) (retryable : Bool) :
    Answered (.error (OpenAICompatibleChannel.failed code retryable) : Except GatewayError α) := by
  rintro err ⟨⟩
  exact ⟨_, rfl⟩

theorem not_answered_other {α : Type} : ¬ Answered (.error .other : Except GatewayError α) := by
  intro h
  obtain ⟨e, he⟩ := h _ rfl
  cases he

/-- What a result comes to is no foreign exception, unless its content is none that the checks read. -/
theorem answered_regarded (hlib : Documented lib) (request : ModelRequest) (raw : RawResult) :
    Answered (regarded lib request raw) ↔ ¬ (Untexted raw ∧ Unchecked lib request raw) := by
  by_cases htext : ∃ text, raw.content = .str text
  · obtain ⟨text, htext⟩ := htext
    rw [regarded, htext]
    exact iff_of_true nofun fun h => h.1 text htext
  · have huntexted : Untexted raw := fun text heq => htext ⟨text, heq⟩
    rw [regarded_of_untexted huntexted, Unchecked]
    cases hcheck : checkRawTools lib request raw with
    | error err =>
      refine iff_of_true ?_ fun h => nomatch h.2.1
      rintro _ ⟨⟩
      exact answered_checkTools hlib request _ err hcheck
    | ok u =>
      cases htarget : request.targetJsonSchema with
      | none =>
        refine iff_of_false (fun h => ?_) fun h => h ⟨huntexted, rfl, nofun⟩
        obtain ⟨e, he⟩ := h _ rfl
        cases he
      | some schema =>
        dsimp only
        cases hschema : lib.checkSchema (.obj schema) with
        | ok u =>
          refine iff_of_false not_answered_other fun h => h ⟨huntexted, rfl, ?_⟩
          rintro _ ⟨⟩
          exact hschema
        | error err =>
          refine iff_of_true nofun fun h => ?_
          have hok := h.2.2 schema rfl
          rw [hschema] at hok
          cases hok

/-- **A call of the upstream is answered exactly if its exchange is not foreign.** -/
theorem answered_over (hlib : Documented lib) (upstreams : Upstreams) (n : ℕ) (call : Sent) :
    Answered (channelOver lib readers upstreams n call) ↔
      ¬ Foreign lib readers call (upstreams n call) := by
  unfold channelOver OpenAICompatibleChannel.complete
  by_cases hpayload : OpenAICompatibleChannel.payloadBuilt call.request = true
  swap
  · rw [if_neg hpayload]
    refine iff_of_true (answered_failed _ _) fun h => hpayload ?_
    cases hexchange : upstreams n call with
    | refused err =>
      rw [hexchange] at h
      exact h.1
    | answered status body =>
      rw [hexchange] at h
      exact h.1
  rw [if_pos hpayload]
  cases upstreams n call with
  | refused err =>
    cases err with
    | timeout => exact iff_of_true (answered_failed _ _) fun h => nomatch h.2
    | transport => exact iff_of_true (answered_failed _ _) fun h => nomatch h.2
    | other => exact iff_of_false not_answered_other fun h => h ⟨hpayload, rfl⟩
  | answered status body =>
    dsimp only [Foreign]
    by_cases hstatus : 400 ≤ status
    · rw [if_pos hstatus]
      refine iff_of_true ?_ fun h => absurd hstatus (Nat.not_le.2 h.2.1)
      rintro err ⟨⟩
      exact ⟨_, rfl⟩
    rw [if_neg hstatus, and_iff_right hpayload, and_iff_right (Nat.not_le.1 hstatus)]
    cases body with
    | none => exact iff_of_true (answered_failed _ _) fun ⟨_, h, _⟩ => nomatch h
    | some document =>
      simp only [Option.some.injEq, exists_eq_left']
      rw [← or_assoc,
        ← OpenAICompatibleChannel.readResponse_escapes readers call.profile document]
      cases hread : OpenAICompatibleChannel.readResponse readers call.profile document with
      | error cause =>
        have hanswered : Answered (.error cause.raised : Except GatewayError ChannelResult) ↔
            ¬ cause.Escapes := by
          constructor
          · rintro h hescapes
            obtain ⟨e, he⟩ := h _ rfl
            exact hescapes e he
          · rintro h err ⟨⟩
            exact not_forall_not.1 h
        refine hanswered.trans (not_congr ⟨fun h => .inl ⟨cause, rfl, h⟩, ?_⟩)
        rintro (⟨_, ⟨⟩, h⟩ | ⟨_, ⟨⟩, -⟩)
        exact h
      | ok raw =>
        refine (answered_regarded hlib call.request raw).trans
          (not_congr ⟨fun h => .inr ⟨raw, rfl, h⟩, ?_⟩)
        rintro (⟨_, ⟨⟩, -⟩ | ⟨_, ⟨⟩, h⟩)
        exact h

end Foreign

/-- **A call over the upstream returns a response or raises a `ModelFailure` exactly if the family has a
route, where the call looks for it, and none of its exchanges is foreign.** -/
theorem closed_iff (lib : Libraries) (hlib : Documented lib) (readers : Readers) (g : Gateway)
    (upstreams : Upstreams) (traceId : String) (htrace : traceId ≠ "") (request : ModelRequest) :
    Answered (completeOver lib g traceId readers upstreams request).2 ↔
      Routed lib g request ∧ ∀ n call,
        (completeOver lib g traceId readers upstreams request).1.sent[n]? = some call →
          ¬ Foreign lib readers call (upstreams n call) := by
  rw [completeOver_eq, answered_complete hlib htrace]
  exact and_congr_right fun _ => forall₃_congr fun n call _ => answered_over hlib upstreams n call

/-! ### A message that is null -/

theorem documented_emptyObjects : Documented emptyObjects := by
  refine ⟨nofun, nofun, fun text err h => ?_⟩
  unfold emptyObjects at h
  dsimp only at h
  split at h
  · cases h
  · cases h
    rfl

/-- The document of an upstream with a content. -/
def sampleDocument (message : Json) : Json :=
  .obj [("id", .str "resp_1"), ("choices", .arr [.obj [("message", message)]])]

def sampleUpstream (message : Json) : Upstreams := fun _ _ =>
  .answered 200 (some (sampleDocument message))

/-- A word is answered with a word. -/
theorem closed_iff_sample : Answered (completeOver emptyObjects shipped "trace"
    OpenAICompatibleChannel.sampleReaders (sampleUpstream (.obj [("content", .str "done")]))
    structuredRequest).2 := by
  refine (closed_iff emptyObjects documented_emptyObjects OpenAICompatibleChannel.sampleReaders shipped _
    "trace" (by decide) structuredRequest).2 ⟨fun _ _ => nofun, fun n call _ => ?_⟩
  rintro ⟨-, -, document, ⟨⟩, hmessage | ⟨choice, message, fields, -, ⟨⟩, -, -, hinfinite⟩ |
    ⟨raw, hraw, huntexted, -⟩⟩
  · obtain ⟨choice, message, ⟨fields, rest, ⟨⟩, ⟨⟩, ⟨⟩⟩, hnot⟩ := hmessage
    exact hnot _ rfl
  · obtain ⟨usage, prompt, husage, -⟩ := hinfinite
    cases husage
  · cases hraw
    exact huntexted "done" rfl

/-- A message that is null gets out as an `AttributeError`. -/
theorem not_closed : ¬ Answered (completeOver emptyObjects shipped "trace"
    OpenAICompatibleChannel.sampleReaders (sampleUpstream .null) structuredRequest).2 := by
  have hsafe : rejectSensitiveRequest emptyObjects.isLetter structuredRequest = false := by
    decide +kernel
  have htrace : "trace" ≠ "" := by decide
  obtain ⟨profile, rest, hprofiles, hchannel⟩ := candidates_shipped
  obtain ⟨r, hr⟩ :=
    exists_route shipped htrace structuredRequest profile (Nat.le_refl 1) 0 (Nat.zero_le 1)
  have hpass : ∃ st, pass emptyObjects shipped
      (channelOver emptyObjects OpenAICompatibleChannel.sampleReaders (sampleUpstream .null)) "trace" profile 0
      { request := structuredRequest, retries := 1 } = (st, .ended (.raised .other)) := by
    simp only [pass, hr]
    exact ⟨_, rfl⟩
  obtain ⟨st, hpass⟩ := hpass
  have hcomplete : complete emptyObjects shipped
      (channelOver emptyObjects OpenAICompatibleChannel.sampleReaders (sampleUpstream .null)) "trace"
      structuredRequest = (st, .error .other) := by
    have hstream : (structuredRequest.modelFamily, capability structuredRequest) =
        (.qwen, .structured) := rfl
    obtain ⟨hfamily, hcapability⟩ := Prod.mk.inj hstream
    have hattempts := attempts_ended hpass
    simp only [complete, hsafe, hfamily, hcapability, hprofiles, fallbacks, hchannel, if_true]
    rw [show shipped.catalog.routePolicy.maxTransientRetries = 1 from rfl, hattempts]
    rfl
  rw [completeOver_eq, hcomplete]
  exact not_answered_other

end ModelGateway

