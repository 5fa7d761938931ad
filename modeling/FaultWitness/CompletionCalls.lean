/-
**Reading a completion.**

`OpenAICompatibleChannel.complete` of `faultwitness/models/channel.py` reads a result out of the
document that the upstream sends, which may be any JSON value.  Its handler catches four classes of
exceptions.  `message.get` of a message that is no object raises none of them, nor does `int` of an
infinite float; and a content that is no text becomes that of the result.

Main definitions:

* `OpenAICompatibleChannel.readResponse` — the result that is read from a document;
* `OpenAICompatibleChannel.complete` — a call of the channel;
* `OpenAICompatibleChannel.Messageless`, `OpenAICompatibleChannel.Uncountable` — documents whose first
  message is no object, or whose usage counts infinitely many tokens.

Main results:

* `OpenAICompatibleChannel.usageOf_eq_error` — only an infinite count gets out of the reader of usages;
* `OpenAICompatibleChannel.readResponse_escapes` — **the documents whose exceptions nothing catches**.
-/

import FaultWitness.CompletionStreams

set_option autoImplicit false

namespace OpenAICompatibleChannel

open Python ModelGateway

/-! ### Exchanges -/

/-- How the upstream answers.  A response without a body is one that `response.json()` refuses. -/
inductive Exchange
  | refused (err : HttpError)
  | answered (status : ℕ) (body : Option Json)

/-- A `ChannelResult`, whose content nothing has checked yet. -/
structure RawResult where
  responseId : String
  resolvedModel : String
  content : Json
  toolCalls : List ToolInvocation
  finishReason : String
  usage : Option ModelUsage

/-- What the readers of a document raise. -/
inductive CallError
  | line (err : LineError)
  | failure (e : ModelFailure)

def CallError.lift {α : Type} (x : Except LineError α) : Except CallError α := x.mapError .line

/-! ### Reading a response -/

variable (lib : Readers)

/-- `value[key]`. -/
def item (value : Json) (key : String) : Except LineError Json :=
  match value with
  | .obj fields =>
    match fields.lookup key with
    | some found => .ok found
    | none => .error .keyError
  | _ => .error .typeError

/-- `str(value)`. -/
def strOf (value : Json) : String := (nameText value).getD (lib.display value)

/-- A `ToolInvocation`, which its record may refuse. -/
def invocation (callId name : Json) (arguments : List (String × Json)) :
    Except LineError ToolInvocation :=
  match callId, name with
  | .str callId, .str name =>
    if h : (1 ≤ callId.length ∧ callId.length ≤ 256) ∧ isToolName name = true then
      .ok ⟨callId, name, arguments, h.1, h.2⟩
    else .error .valueError
  | _, _ => .error .valueError

/-- One call of a tool. -/
def toolCall (raw : Json) : Except LineError ToolInvocation := do
  let function ← item raw "function"
  match ← item function "arguments" with
  | .str text =>
    match lib.loads text with
    | some (.obj arguments) => do
      let callId ← item raw "id"
      let name ← item function "name"
      invocation callId name arguments
    | _ => .error .valueError
  | _ => .error .typeError

/-- `_tool_calls`: every exception of a single call is a failure. -/
def toolCalls (message : Json) : Except CallError (List ToolInvocation) := do
  let calls ← CallError.lift (get message "tool_calls")
  let items ← CallError.lift (itemsOf (orElse calls (.arr [])))
  (items.mapM (toolCall lib)).mapError fun _ =>
    .failure { code := .invalidToolArguments, retryable := false }

/-- `document["choices"][0]` with its message. -/
def firstMessage (document : Json) : Except LineError (Json × Json) := do
  let choices ← item document "choices"
  let choice ← firstOf choices
  let message ← item choice "message"
  return (choice, message)

/-- The result that is read from a document. -/
def readResponse (profile : ModelProfile) (document : Json) : Except CallError RawResult := do
  let (choice, message) ← CallError.lift (firstMessage document)
  let content ← CallError.lift (get message "content")
  let responseId ← CallError.lift (item document "id")
  let model ← CallError.lift (get document "model")
  let calls ← toolCalls lib message
  let reason ← CallError.lift (get choice "finish_reason")
  let usage ← CallError.lift (get document "usage")
  let usage ← CallError.lift (usageOf lib usage)
  return { responseId := strOf lib responseId
           resolvedModel := strOf lib (orElse model (.str profile.modelId))
           content := orElse content (.str "")
           toolCalls := calls
           finishReason := strOf lib (orElse reason (.str "unknown"))
           usage := usage }

def failed (code : ModelFailureCode) (retryable : Bool) : GatewayError :=
  .failure { code := code, retryable := retryable }

/-- The exceptions of `_request`. -/
def HttpError.raised : HttpError → GatewayError
  | .timeout => failed .timeout true
  | .transport => failed .upstreamUnavailable true
  | .other => .other

/-- The handler around the readers. -/
def CallError.raised : CallError → GatewayError
  | .failure e => .failure e
  | .line err => if err.caught then failed .invalidResponse false else .other

def complete (request : ModelRequest) (profile : ModelProfile) (exchange : Exchange) :
    Except GatewayError RawResult :=
  if payloadBuilt request then
    match exchange with
    | .refused err => .error err.raised
    | .answered status body =>
      if 400 ≤ status then .error (.failure (raiseStatus status))
      else
        match body with
        | none => .error (failed .invalidResponse false)
        | some document => (readResponse lib profile document).mapError CallError.raised
  else .error (failed .configuration false)

/-! ### Documents whose exceptions nothing catches -/

/-- The first choice of a document, which is an object, and its message. -/
def Chosen (document : Json) (choice : List (String × Json)) (message : Json) : Prop :=
  ∃ fields rest, document = .obj fields ∧
    fields.lookup "choices" = some (.arr (.obj choice :: rest)) ∧
    choice.lookup "message" = some message

/-- The message is there but is no object. -/
def Messageless (document : Json) : Prop :=
  ∃ choice message, Chosen document choice message ∧ ∀ fields, message ≠ .obj fields

def infinite : Json → Bool
  | .float repr => repr = "Infinity" || repr = "-Infinity"
  | _ => false

/-- The first of the two counts that is no integer is an infinite float. -/
def Infinite (usage : Json) : Prop :=
  ∃ fields prompt, usage = .obj fields ∧ fields.lookup "prompt_tokens" = some prompt ∧
    (infinite prompt = true ∨ (∃ n, toInt lib prompt = .ok n) ∧
      ∃ completion, fields.lookup "completion_tokens" = some completion ∧ infinite completion = true)

/-- The document can be read up to its usage, which counts infinitely many tokens. -/
def Uncountable (document : Json) : Prop :=
  ∃ choice message fields, Chosen document choice (.obj message) ∧ document = .obj fields ∧
    (∃ id, fields.lookup "id" = some id) ∧ (∃ calls, toolCalls lib (.obj message) = .ok calls) ∧
    Infinite lib ((fields.lookup "usage").getD .null)

variable {lib}

variable {err : LineError} {value document : Json}

theorem toInt_overflowError : toInt lib value = .error .overflowError ↔ infinite value = true := by
  cases value with
  | float repr =>
    simp only [toInt, infinite, Bool.or_eq_true, decide_eq_true_eq]
    by_cases hnan : repr = "NaN"
    · subst hnan
      exact iff_of_false nofun (by decide)
    · rw [if_neg hnan]
      by_cases hinf : repr = "Infinity" ∨ repr = "-Infinity"
      · exact iff_of_true (if_pos hinf) hinf
      · rw [if_neg hinf]
        exact iff_of_false nofun hinf
  | str s =>
    simp only [toInt, infinite]
    split <;> exact iff_of_false nofun nofun
  | _ => exact iff_of_false nofun nofun

/-- A count that is no integer is an infinite float, or is no count. -/
theorem toInt_cases (lib : Readers) (value : Json) :
    (∃ n, toInt lib value = .ok n ∧ infinite value = false) ∨
      (toInt lib value = .error .overflowError ∧ infinite value = true) ∨
      ∃ err, toInt lib value = .error err ∧
        [LineError.keyError, .typeError, .valueError].contains err = true ∧
        infinite value = false := by
  cases hint : infinite value with
  | true => exact .inr (.inl ⟨toInt_overflowError.2 hint, rfl⟩)
  | false =>
    cases hvalue : toInt lib value with
    | ok n => exact .inl ⟨n, rfl, rfl⟩
    | error err =>
      refine .inr (.inr ⟨err, rfl, ?_, rfl⟩)
      cases value with
      | float repr =>
        simp only [toInt] at hvalue
        split at hvalue
        · cases hvalue
          rfl
        · split at hvalue
          · rename_i hinf
            simp only [infinite, Bool.or_eq_false_iff, decide_eq_false_iff_not] at hint
            exact absurd hinf (not_or.2 hint)
          · cases hvalue
      | str s =>
        simp only [toInt] at hvalue
        split at hvalue
        · cases hvalue
        · cases hvalue
          rfl
      | null | arr items | obj fields =>
        cases hvalue
        rfl
      | bool b | int n => cases hvalue

theorem usageOf_eq_error {usage : Json} :
    usageOf lib usage = .error err ↔ err = .overflowError ∧ Infinite lib usage := by
  cases usage with
  | obj fields =>
    have hinfinite : Infinite lib (.obj fields) ↔
        ∃ prompt, fields.lookup "prompt_tokens" = some prompt ∧
          (infinite prompt = true ∨ (∃ n, toInt lib prompt = .ok n) ∧
            ∃ completion, fields.lookup "completion_tokens" = some completion ∧
              infinite completion = true) := by
      constructor
      · rintro ⟨_, prompt, ⟨⟩, h⟩
        exact ⟨prompt, h⟩
      · rintro ⟨prompt, h⟩
        exact ⟨fields, prompt, rfl, h⟩
    rw [hinfinite]
    simp only [usageOf, bind, Except.bind, pure, Except.pure]
    cases hprompt : fields.lookup "prompt_tokens" with
    | none => exact iff_of_false nofun fun ⟨_, _, h, _⟩ => nomatch h
    | some prompt =>
      simp only [Option.some.injEq, exists_eq_left']
      rcases toInt_cases lib prompt with ⟨n, hn, hfinite⟩ | ⟨hn, hinf⟩ |
        ⟨cause, hn, hcaught, hfinite⟩
      · simp only [hn, hfinite, Bool.false_eq_true, false_or, Except.ok.injEq, exists_eq',
          true_and]
        cases hcompletion : fields.lookup "completion_tokens" with
        | none => exact iff_of_false nofun fun ⟨_, _, h, _⟩ => nomatch h
        | some completion =>
          simp only [Option.some.injEq, exists_eq_left']
          rcases toInt_cases lib completion with ⟨m, hm, hcount⟩ | ⟨hm, hcount⟩ |
            ⟨cause, hm, hcaught, hcount⟩
          · simp only [hm, hcount, Bool.false_eq_true, and_false, iff_false]
            split <;> exact nofun
          · simp only [hm, hcount, and_true]
            exact ⟨fun h => (by cases h; rfl), fun h => (by cases h; rfl)⟩
          · simp only [hm, hcaught, hcount, if_true, Bool.false_eq_true, and_false,
              iff_false]
            exact nofun
      · simp only [hn, hinf, true_or, and_true]
        exact ⟨fun h => (by cases h; rfl), fun h => (by cases h; rfl)⟩
      · simp only [hn, hcaught, hfinite, if_true, Bool.false_eq_true, false_or, reduceCtorEq,
          exists_false, false_and, and_false]
  | _ => exact iff_of_false nofun fun ⟨_, _, _, h, _⟩ => nomatch h

theorem item_eq_ok {found : Json} {key : String} :
    item value key = .ok found ↔ ∃ fields, value = .obj fields ∧ fields.lookup key = some found := by
  constructor
  · intro h
    cases value with
    | obj fields =>
      rw [item] at h
      cases hfound : fields.lookup key with
      | none =>
        rw [hfound] at h
        cases h
      | some other =>
        rw [hfound] at h
        cases h
        exact ⟨fields, rfl, hfound⟩
    | _ => cases h
  · rintro ⟨fields, rfl, hfound⟩
    rw [item, hfound]

theorem caught_item {key : String} (h : item value key = .error err) : err.caught = true := by
  unfold item at h
  split at h
  · split at h <;> cases h
    rfl
  · cases h
    rfl

theorem caught_firstOf {choices : Json} (h : firstOf choices = .error err) : err.caught = true := by
  unfold firstOf at h
  split at h
  case h_1 => cases h
  case h_3 => split at h <;> cases h; rfl
  all_goals
    cases h
    rfl

theorem caught_firstMessage (h : firstMessage document = .error err) : err.caught = true := by
  rcases bind_eq_error.1 h with hchoices | ⟨choices, -, h⟩
  · exact caught_item hchoices
  rcases bind_eq_error.1 h with hchoice | ⟨choice, -, h⟩
  · exact caught_firstOf hchoice
  rcases bind_eq_error.1 h with hmessage | ⟨message, -, h⟩
  · exact caught_item hmessage
  · cases h

theorem firstMessage_eq_ok {choice message : Json} :
    firstMessage document = .ok (choice, message) ↔
      ∃ fields, choice = .obj fields ∧ Chosen document fields message := by
  constructor
  · intro h
    obtain ⟨choices, hchoices, h⟩ := bind_eq_ok.1 h
    obtain ⟨first, hfirst, h⟩ := bind_eq_ok.1 h
    obtain ⟨found, hfound, h⟩ := bind_eq_ok.1 h
    cases h
    obtain ⟨fields, rfl, hlookup⟩ := item_eq_ok.1 hchoices
    obtain ⟨chosen, rfl, hmessage⟩ := item_eq_ok.1 hfound
    unfold firstOf at hfirst
    split at hfirst
    · rename_i rest
      cases hfirst
      exact ⟨chosen, rfl, fields, rest, rfl, hlookup, hmessage⟩
    · cases hfirst
    · split at hfirst <;> cases hfirst
    · cases hfirst
    · cases hfirst
  · rintro ⟨_, rfl, fields, rest, rfl, hchoices, hmessage⟩
    refine bind_eq_ok.2 ⟨_, item_eq_ok.2 ⟨fields, rfl, hchoices⟩, bind_eq_ok.2 ⟨_, rfl, ?_⟩⟩
    exact bind_eq_ok.2 ⟨_, item_eq_ok.2 ⟨_, rfl, hmessage⟩, rfl⟩

/-- An exception that the handler around the readers lets through. -/
def CallError.Escapes (cause : CallError) : Prop := ∀ e, cause.raised ≠ .failure e

theorem escapes_line : (CallError.line err).Escapes ↔ err.caught = false := by
  rw [CallError.Escapes, CallError.raised]
  cases hcaught : err.caught with
  | true =>
    rw [if_pos rfl]
    exact iff_of_false (fun h => h _ rfl) nofun
  | false =>
    rw [if_neg Bool.false_ne_true]
    exact iff_of_true nofun rfl

theorem not_escapes_failure (e : ModelFailure) : ¬ (CallError.failure e).Escapes := fun h => h e rfl

/-- The tool calls raise nothing else than what is caught. -/
theorem not_escapes_toolCalls {fields : List (String × Json)} {cause : CallError}
    (h : toolCalls lib (.obj fields) = .error cause) : ¬ cause.Escapes := by
  rcases bind_eq_error.1 h with hcalls | ⟨calls, -, h⟩
  · cases hcalls
  rcases bind_eq_error.1 h with hitems | ⟨items, -, h⟩
  · cases hvalue : itemsOf (orElse calls (.arr [])) with
    | ok items =>
      rw [hvalue] at hitems
      cases hitems
    | error err =>
      rw [hvalue] at hitems
      cases hitems
      have hcaught : err.caught = true := by
        unfold itemsOf at hvalue
        split at hvalue <;> cases hvalue
        rfl
      rw [escapes_line, hcaught]
      exact nofun
  · cases hmap : items.mapM (toolCall lib) with
    | ok found =>
      rw [hmap] at h
      cases h
    | error err =>
      rw [hmap] at h
      cases h
      exact not_escapes_failure _

theorem Chosen.unique {message message' : Json} {choice choice' : List (String × Json)}
    (h : Chosen document choice message) (h' : Chosen document choice' message') :
    choice = choice' ∧ message = message' := by
  obtain ⟨fields, rest, rfl, hchoices, hmessage⟩ := h
  obtain ⟨_, rest', ⟨⟩, hchoices', hmessage'⟩ := h'
  cases hchoices.symm.trans hchoices'
  exact ⟨rfl, Option.some.inj (hmessage.symm.trans hmessage')⟩

/-- A message that is an object, in a document with more to read. -/
theorem readResponse_obj {profile : ModelProfile} {fields choice message : List (String × Json)}
    (h : Chosen (.obj fields) choice (.obj message)) :
    (∃ cause, readResponse lib profile (.obj fields) = .error cause ∧ cause.Escapes) ↔
      (∃ id, fields.lookup "id" = some id) ∧ (∃ calls, toolCalls lib (.obj message) = .ok calls) ∧
        Infinite lib ((fields.lookup "usage").getD .null) := by
  have hfirst : firstMessage (.obj fields) = .ok (.obj choice, .obj message) :=
    firstMessage_eq_ok.2 ⟨choice, rfl, h⟩
  simp only [readResponse, hfirst, CallError.lift, Except.mapError, bind, Except.bind, get, item]
  cases hid : fields.lookup "id" with
  | none =>
    refine iff_of_false ?_ (by simp)
    rintro ⟨cause, ⟨⟩, hescapes⟩
    cases escapes_line.1 hescapes
  | some id =>
    dsimp only
    cases hcalls : toolCalls lib (.obj message) with
    | error cause =>
      refine iff_of_false ?_ ?_
      · rintro ⟨_, ⟨⟩, hescapes⟩
        exact not_escapes_toolCalls hcalls hescapes
      · rintro ⟨-, ⟨_, h⟩, -⟩
        cases h
    | ok calls =>
      dsimp only
      cases husage : usageOf lib ((fields.lookup "usage").getD .null) with
      | error err =>
        obtain ⟨rfl, hinfinite⟩ := usageOf_eq_error.1 husage
        exact iff_of_true ⟨_, rfl, escapes_line.2 rfl⟩
          ⟨⟨id, rfl⟩, ⟨calls, rfl⟩, hinfinite⟩
      | ok usage =>
        refine iff_of_false (fun h => ?_) ?_
        · obtain ⟨cause, ⟨⟩, -⟩ := h
        · rintro ⟨-, -, hinfinite⟩
          rw [usageOf_eq_error.2 ⟨rfl, hinfinite⟩] at husage
          cases husage

/-- **The documents whose exceptions nothing catches**: the message is no object, or the usage counts
infinitely many tokens. -/
theorem readResponse_escapes (lib : Readers) (profile : ModelProfile) (document : Json) :
    (∃ cause, readResponse lib profile document = .error cause ∧ cause.Escapes) ↔
      Messageless document ∨ Uncountable lib document := by
  cases hfirst : firstMessage document with
  | error err =>
    have hnone : ¬ ∃ choice message, Chosen document choice message := by
      rintro ⟨choice, message, hchosen⟩
      rw [firstMessage_eq_ok.2 ⟨choice, rfl, hchosen⟩] at hfirst
      cases hfirst
    refine iff_of_false ?_ ?_
    · rintro ⟨cause, hcause, hescapes⟩
      rw [readResponse, hfirst] at hcause
      cases hcause
      rw [escapes_line, caught_firstMessage hfirst] at hescapes
      cases hescapes
    · rintro (⟨choice, message, hchosen, -⟩ | ⟨choice, message, fields, hchosen, -⟩)
      · exact hnone ⟨choice, message, hchosen⟩
      · exact hnone ⟨choice, _, hchosen⟩
  | ok found =>
    obtain ⟨choice, message⟩ := found
    obtain ⟨chosen, rfl, hchosen⟩ := firstMessage_eq_ok.1 hfirst
    cases message with
    | obj message =>
      obtain ⟨fields, rest, rfl, -⟩ := id hchosen
      rw [readResponse_obj hchosen]
      constructor
      · rintro ⟨hid, hcalls, hinfinite⟩
        exact .inr ⟨chosen, message, fields, hchosen, rfl, hid, hcalls, hinfinite⟩
      · rintro (⟨choice', message', hchosen', hnot⟩ |
          ⟨choice', message', _, hchosen', ⟨⟩, hrest⟩)
        · exact absurd (hchosen.unique hchosen').2.symm (hnot message)
        · cases (hchosen.unique hchosen').2
          exact hrest
    | _ =>
      refine iff_of_true ⟨.line .attributeError, ?_, escapes_line.2 rfl⟩
        (.inl ⟨chosen, _, hchosen, nofun⟩)
      rw [readResponse, hfirst]
      rfl

end OpenAICompatibleChannel
