/-
**The model gateway.**

`ModelGateway.complete` of `faultwitness/models/gateway.py`.  A request is refused if it holds a
secret, if it asks for a stream, or if no profile of the catalog can serve it.  Otherwise the gateway
goes through the profiles of the route.  On each it calls the channel, again after a transient failure
as often as the policy allows, and again with an additional message when the structured output does
not satisfy its schema, as often as the policy allows for the whole request.

A channel answers each call as it likes: an answer is a function of how many calls there were before
and of what is sent.  What the gateway sends is kept, and so are the events it reports to its
observer.  The validators of JSON schemas, the reader of JSON and the table of letters are parameters.

Main definitions:

* `ModelGateway.CapabilityCatalog`, `ModelGateway.candidates` — the catalog and its routes;
* `ModelGateway.rejectSensitiveRequest` — the search for secrets;
* `ModelGateway.pass` — one pass through the loop over attempts;
* `ModelGateway.attempts`, `ModelGateway.fallbacks` — the two loops;
* `ModelGateway.complete` — the whole call.

Main results:

* `ModelGateway.Passed`, `ModelGateway.passed` — **what one pass does**: at most one call, and another
  pass only for a retry or a repair.
-/

import FaultWitness.Python
import FaultWitness.TextPatterns

set_option autoImplicit false

namespace ModelGateway

open Python TextPatterns

/-! ### Requests -/

inductive ModelFamily
  | qwen
  | deepseek
  | glm
deriving DecidableEq

inductive ChannelName
  | bailian
  | newapi
deriving DecidableEq

inductive ModelCapability
  | complete
  | structured
  | forcedTool
  | stream
deriving DecidableEq

inductive Role
  | system
  | user
  | assistant
  | tool
deriving DecidableEq

structure ModelMessage where
  role : Role
  content : String
  name : Option String := none
  toolCallId : Option String := none

/-- The part of a budget that bounds the calls; the gateway reads none of it. -/
structure AgentBudget where
  maxModelCalls : ℕ

structure ModelRequest where
  requestId : String
  tenantId : String
  correlationId : String
  modelFamily : ModelFamily
  modelId : String
  messages : List ModelMessage
  targetJsonSchema : Option (List (String × Json)) := none
  toolSchemas : List (List (String × Json)) := []
  stream : Bool := false
  budget : AgentBudget
  modelId_ne : modelId ≠ ""
  messages_ne : messages ≠ []

/-! ### Failures -/

inductive ModelFailureCode
  | timeout
  | rateLimited
  | upstreamUnavailable
  | authentication
  | configuration
  | invalidResponse
  | invalidStructuredOutput
  | invalidToolArguments
  | interruptedStream
  | policyRejected
deriving DecidableEq

/-- A `ModelFailure`; nothing reads the status code that it may carry. -/
structure ModelFailure where
  code : ModelFailureCode
  retryable : Bool
  preOutput : Bool := true
deriving DecidableEq

/-- What a call of the gateway can raise. -/
inductive GatewayError
  | failure (e : ModelFailure)
  /-- `routes[family]` for a family without a route. -/
  | keyError
  /-- A record of the gateway refuses a value. -/
  | validationError
  | assertionError
  /-- What a channel or a library raises beside the failures it is known for. -/
  | other
deriving DecidableEq

/-! ### The catalog -/

structure ModelProfile where
  family : ModelFamily
  channel : ChannelName
  modelId : String
  capabilities : List ModelCapability
  requestOverrides : List (String × Bool) := []
  modelId_ne : modelId ≠ ""

def ModelProfile.supports (p : ModelProfile) (capability : ModelCapability) : Bool :=
  p.capabilities.contains capability

structure RoutePolicy where
  version : String
  routes : ModelFamily → Option (List String)
  maxTransientRetries : ℕ := 1
  maxRepairs : ℕ := 1
  maxTransientRetries_le : maxTransientRetries ≤ 1 := by decide
  maxRepairs_le : maxRepairs ≤ 1 := by decide

/-- A catalog that its validators accept: every route is a list of profiles, and the first has the
family of the route. -/
structure CapabilityCatalog where
  catalogVersion : String
  profiles : String → Option ModelProfile
  routePolicy : RoutePolicy
  routes_ne : ∀ family names, routePolicy.routes family = some names → names ≠ []
  routes_known : ∀ family names, routePolicy.routes family = some names →
    ∀ name ∈ names, (profiles name).isSome
  routes_primary : ∀ family name names, routePolicy.routes family = some (name :: names) →
    ∀ profile, profiles name = some profile → profile.family = family

/-- The profiles of a route with the capability; `none` is the `KeyError` of a family that has no
route.  Every name of a route has a profile. -/
def candidates (c : CapabilityCatalog) (family : ModelFamily) (capability : ModelCapability) :
    Option (List ModelProfile) :=
  (c.routePolicy.routes family).map fun names =>
    names.filterMap fun name => (c.profiles name).filter fun p => p.supports capability

/-! ### Secrets -/

mutual

/-- The text of a value as `json.dumps(value, sort_keys=True)` prints it, with blanks after commas and
colons. -/
def spaced : Json → String
  | .null => "null"
  | .bool b => if b then "true" else "false"
  | .int n => toString n
  | .float repr => repr
  | .str s => quote s
  | .arr items => "[" ++ ", ".intercalate (spacedItems items) ++ "]"
  | .obj fields =>
    "\x7b" ++ ", ".intercalate (((spacedFields fields).insertionSort fun a b => a.1 ≤ b.1).map
      fun f => quote f.1 ++ ": " ++ f.2) ++ "\x7d"

def spacedItems : List Json → List String
  | [] => []
  | j :: js => spaced j :: spacedItems js

def spacedFields : List (String × Json) → List (String × String)
  | [] => []
  | (k, j) :: fs => (k, spaced j) :: spacedFields fs

end

def isTokenChar (c : Char) : Bool := c.isAlphanum || c = '_' || c = '-'

/-- A character of a bearer token, in either case. -/
def isBearerChar (c : Char) : Bool :=
  isTokenChar c || c = '.' || ['i', 's', 'k'].any fun x => foldsTo x c

def isJoint (c : Char) : Bool := c = '_' || c = ' ' || c = '-'

/-- The patterns of secrets. -/
def secretPatterns : List Pattern :=
  [.all [.boundary, .word (· == ·) "sk-", .many 16 isTokenChar, .boundary],
    .all [.boundary, .word foldsTo "bearer", .many 1 (isBlank false), .many 12 isBearerChar, .boundary],
    .all [.word foldsTo "fw_",
      .alt (.word foldsTo "secret") (.alt (.word foldsTo "pii") (.word foldsTo "cot")),
      .word foldsTo "_canary"],
    .all [.boundary,
      .alt (.all [.word foldsTo "chain", .maybe isJoint, .word foldsTo "of", .maybe isJoint,
          .word foldsTo "thought"])
        (.all [.word foldsTo "private", .maybe isJoint, .word foldsTo "reasoning"]),
      .boundary]]

/-- The texts that are searched: the contents of the messages and the schemas. -/
def searched (request : ModelRequest) : List String :=
  request.messages.map ModelMessage.content ++
    [spaced (.obj [("target_json_schema", (request.targetJsonSchema.map Json.obj).getD .null),
      ("tool_schemas", .arr (request.toolSchemas.map Json.obj))])]

def rejectSensitiveRequest (isLetter : Char → Bool) (request : ModelRequest) : Bool :=
  (searched request).any fun value => secretPatterns.any fun p => p.search isLetter value

/-! ### Results and their checks -/

/-- The characters of the name of a tool. -/
def isToolName (name : String) : Bool :=
  match name.toList with
  | [] => false
  | c :: cs => (c.isAlpha || c = '_') && cs.all isTokenChar && cs.length ≤ 63

structure ToolInvocation where
  callId : String
  name : String
  arguments : List (String × Json)
  callId_length : 1 ≤ callId.length ∧ callId.length ≤ 256
  isToolName_name : isToolName name = true

structure ModelUsage where
  inputTokens : ℕ
  outputTokens : ℕ
  totalTokens : ℕ
  totalTokens_eq : totalTokens = inputTokens + outputTokens

structure ChannelResult where
  responseId : String
  resolvedModel : String
  content : String
  toolCalls : List ToolInvocation
  finishReason : String
  usage : Option ModelUsage

/-- The exceptions of the libraries behind the checks. -/
inductive LibraryError
  | schemaError
  | validationError
  | jsonDecodeError
  | keyError
  | typeError
  | other
deriving DecidableEq

/-- What the gateway takes from libraries: `json.loads`, `Draft202012Validator.check_schema` and
`validate` on a schema and a value, and the letters and digits beyond ASCII. -/
structure Libraries where
  loads : String → Except LibraryError Json
  checkSchema : Json → Except LibraryError Unit
  validate : Json → Json → Except LibraryError Unit
  isLetter : Char → Bool

variable (lib : Libraries)

/-- The value of a key; `none` is the `KeyError` or the `TypeError` of a value without it. -/
def getItem (j : Json) (key : String) : Option Json :=
  match j with
  | .obj fields => fields.lookup key
  | _ => none

/-- A name as `str` prints it.  A list or an object prints with a bracket, which no tool has in its
name. -/
def nameText : Json → Option String
  | .null => some "None"
  | .bool b => some (if b then "True" else "False")
  | .int n => some (toString n)
  | .float repr =>
    some (if repr = "NaN" then "nan" else if repr = "Infinity" then "inf"
      else if repr = "-Infinity" then "-inf" else repr)
  | .str s => some s
  | .arr _ | .obj _ => none

/-- The parameters of the tools by their names, the last one first. -/
def toolDefinitions (schemas : List (List (String × Json))) :
    Except LibraryError (List (String × Json)) :=
  schemas.foldlM (fun definitions item =>
    match getItem (.obj item) "function" with
    | none => .error .keyError
    | some function =>
      match getItem function "parameters", getItem function "name" with
      | some parameters, some name =>
        match nameText name with
        | some text => .ok ((text, parameters) :: definitions)
        | none => .ok definitions
      | _, _ => .error .keyError) []

def checkToolCall (definitions : List (String × Json)) (call : ToolInvocation) :
    Except LibraryError Unit :=
  match definitions.lookup call.name with
  | none => .error .keyError
  | some schema => do
    lib.checkSchema schema
    lib.validate schema (.obj call.arguments)

/-- An exception that the check of a result turns into a failure, or passes on. -/
def convert (caught : List LibraryError) (code : ModelFailureCode) (err : LibraryError) :
    GatewayError :=
  if caught.contains err then .failure { code := code, retryable := false } else .other

def validateToolCalls (result : ChannelResult) (schemas : List (List (String × Json))) :
    Except GatewayError Unit :=
  if result.toolCalls = [] then
    .error (.failure { code := .invalidToolArguments, retryable := false })
  else
    (do
      let definitions ← toolDefinitions schemas
      result.toolCalls.forM (checkToolCall lib definitions) :
        Except LibraryError Unit).mapError
      (convert [.keyError, .schemaError, .validationError, .typeError] .invalidToolArguments)

def validateStructured (result : ChannelResult) (schema : List (String × Json)) :
    Except GatewayError Json :=
  (do
    lib.checkSchema (.obj schema)
    let value ← lib.loads result.content
    match value with
    | .obj fields =>
      lib.validate (.obj schema) (.obj fields)
      return .obj fields
    | _ => throw .validationError : Except LibraryError Json).mapError
    (convert [.schemaError, .validationError, .jsonDecodeError] .invalidStructuredOutput)

/-! ### Routes, calls and events -/

structure RouteMetadata where
  channel : ChannelName
  modelFamily : ModelFamily
  requestedModel : String
  resolvedModel : String
  routePolicyVersion : String
  catalogVersion : String
  attempt : ℕ
  fallbackCount : ℕ
  repairCount : ℕ
  traceId : String

/-- The bounds that the record of a route checks.  The versions have the form that the catalog has
checked already. -/
def RouteMetadata.valid (r : RouteMetadata) : Bool :=
  r.requestedModel ≠ "" && r.resolvedModel ≠ "" && 1 ≤ r.attempt && r.repairCount ≤ 1 && r.traceId ≠ ""

/-- One call of a channel. -/
structure Sent where
  request : ModelRequest
  profile : ModelProfile
  route : RouteMetadata

/-- How the channels answer: from the number of calls before and what is sent. -/
def ModelChannel := ℕ → Sent → Except GatewayError ChannelResult

inductive ObserverEvent
  | started (requestId : String) (route : RouteMetadata)
  | completed (requestId : String) (route : RouteMetadata)
  | failed (requestId : String) (failureCode : ModelFailureCode) (route : RouteMetadata)

structure GatewayResponse where
  requestId : String
  responseId : String
  content : String
  structuredOutput : Option Json
  toolCalls : List ToolInvocation
  finishReason : String
  usage : Option ModelUsage
  usageUnavailableReason : Option String
  route : RouteMetadata

/-- A gateway: its catalog and the channels it is configured with. -/
structure Gateway where
  catalog : CapabilityCatalog
  channels : ChannelName → Bool

def capability (request : ModelRequest) : ModelCapability :=
  if request.stream then .stream
  else if request.toolSchemas ≠ [] then .forcedTool
  else if request.targetJsonSchema.isSome then .structured
  else .complete

def repairInstruction : String :=
  "Return only one JSON object that strictly satisfies the supplied JSON schema. " ++
    "Do not add markdown, commentary, or private reasoning."

/-- The request with an additional message, made from the first one. -/
def repairRequest (request : ModelRequest) : ModelRequest :=
  { request with
    messages := request.messages ++ [{ request.messages.head request.messages_ne with
      role := .user, content := repairInstruction }]
    messages_ne := by simp }

/-! ### One pass -/

/-- The variables of the loop. -/
structure Progress where
  request : ModelRequest
  attempt : ℕ := 0
  repairCount : ℕ := 0
  retries : ℕ := 0
  lastError : Option ModelFailure := none
  sent : List Sent := []
  events : List ObserverEvent := []

/-- How the loop over attempts ends. -/
inductive Ended
  | returned (response : GatewayResponse)
  | raised (err : GatewayError)
  | broke

/-- How a pass through it ends. -/
inductive Pass
  | again
  | ended (e : Ended)

/-- The failures after which no other profile is tried. -/
def ModelFailureCode.fatal (code : ModelFailureCode) : Bool :=
  [authentication, configuration, invalidToolArguments, policyRejected].contains code

section Loop

variable (g : Gateway) (channel : ModelChannel) (traceId : String)

/-- `_route`; `none` when the record refuses a value. -/
def route (request : ModelRequest) (profile : ModelProfile)
    (attempt fallbackCount repairCount : ℕ) (resolvedModel : Option String) : Option RouteMetadata :=
  let r : RouteMetadata :=
    { channel := profile.channel, modelFamily := profile.family, requestedModel := request.modelId
      resolvedModel := ((resolvedModel.filter (· ≠ "")).getD profile.modelId)
      routePolicyVersion := g.catalog.routePolicy.version
      catalogVersion := g.catalog.catalogVersion
      attempt := attempt, fallbackCount := fallbackCount, repairCount := repairCount
      traceId := traceId }
  if r.valid then some r else none

/-- The handler of a failure. -/
def recover (r : RouteMetadata) (st : Progress) (e : ModelFailure) : Progress × Pass :=
  let st := { st with
    lastError := some e
    events := st.events ++ [.failed st.request.requestId e.code r] }
  if e.retryable = true ∧ 0 < st.retries then ({ st with retries := st.retries - 1 }, .again)
  else if e.code.fatal then (st, .ended (.raised (.failure e)))
  else (st, .ended .broke)

/-- An exception within an attempt. -/
def raise (r : RouteMetadata) (st : Progress) : GatewayError → Progress × Pass
  | .failure e => recover r st e
  | err => (st, .ended (.raised err))

/-- Returning a result that has passed its checks. -/
def respond (profile : ModelProfile) (fallbackCount : ℕ) (st : Progress) (result : ChannelResult)
    (structured : Option Json) : Progress × Pass :=
  match route g traceId st.request profile st.attempt fallbackCount st.repairCount
    (some result.resolvedModel) with
  | none => (st, .ended (.raised .validationError))
  | some resolved =>
    ({ st with events := st.events ++ [.completed st.request.requestId resolved] },
      .ended (.returned
        { requestId := st.request.requestId, responseId := result.responseId
          content := result.content, structuredOutput := structured, toolCalls := result.toolCalls
          finishReason := result.finishReason, usage := result.usage
          usageUnavailableReason :=
            if result.usage.isSome then none else some "upstream_omitted_usage"
          route := resolved }))

/-- The checks of a result. -/
def settle (profile : ModelProfile) (fallbackCount : ℕ) (r : RouteMetadata) (st : Progress)
    (result : ChannelResult) : Progress × Pass :=
  match (if st.request.toolSchemas = [] then .ok () else
      validateToolCalls lib result st.request.toolSchemas) with
  | .error err => raise r st err
  | .ok () =>
    match st.request.targetJsonSchema with
    | none => respond g traceId profile fallbackCount st result none
    | some schema =>
      match validateStructured lib result schema with
      | .ok value => respond g traceId profile fallbackCount st result (some value)
      | .error (.failure e) =>
        if g.catalog.routePolicy.maxRepairs ≤ st.repairCount then recover r st e
        else
          ({ st with
            repairCount := st.repairCount + 1
            request := repairRequest st.request }, .again)
      | .error err => (st, .ended (.raised err))

/-- One pass through the loop over attempts. -/
def pass (profile : ModelProfile) (fallbackCount : ℕ) (st : Progress) : Progress × Pass :=
  let st := { st with attempt := st.attempt + 1 }
  match route g traceId st.request profile st.attempt fallbackCount st.repairCount none with
  | none => (st, .ended (.raised .validationError))
  | some r =>
    let call : Sent := ⟨st.request, profile, r⟩
    let answer := channel st.sent.length call
    let st := { st with
      sent := st.sent ++ [call]
      events := st.events ++ [.started st.request.requestId r] }
    match answer with
    | .error err => raise r st err
    | .ok result => settle lib g traceId profile fallbackCount r st result

/-! ### What one pass does -/

/-- The result passes the check of its tool calls and fails the one of its structured output. -/
def Unsatisfied (request : ModelRequest) (result : ChannelResult) : Prop :=
  ∃ schema e, request.targetJsonSchema = some schema ∧
    (request.toolSchemas = [] ∨ validateToolCalls lib result request.toolSchemas = .ok ()) ∧
    validateStructured lib result schema = .error (.failure e)

/-- There are results for which the request is repaired. -/
def Repairable (request : ModelRequest) : Prop := ∃ result, Unsatisfied lib request result

/-- The ways in which a pass ends. -/
inductive Passed (st st' : Progress) : Pass → Prop
  /-- The record of the route is refused, and nothing is sent. -/
  | refused (err : GatewayError) (hsent : st'.sent = st.sent)
      (hrepairs : st'.repairCount = st.repairCount) (hrequest : st'.request = st.request) :
      Passed st st' (.ended (.raised err))
  | ended (e : Ended) (hsent : st'.sent.length = st.sent.length + 1)
      (hrepairs : st'.repairCount = st.repairCount) (hrequest : st'.request = st.request) :
      Passed st st' (.ended e)
  | retried (hsent : st'.sent.length = st.sent.length + 1) (hretries : st'.retries + 1 = st.retries)
      (hrepairs : st'.repairCount = st.repairCount) (hrequest : st'.request = st.request) :
      Passed st st' .again
  | repaired (hsent : st'.sent.length = st.sent.length + 1) (hretries : st'.retries = st.retries)
      (hrepairs : st'.repairCount = st.repairCount + 1)
      (hmax : st.repairCount < g.catalog.routePolicy.maxRepairs)
      (hrequest : st'.request = repairRequest st.request) (hrepairable : Repairable lib st.request) :
      Passed st st' .again

variable {lib g channel traceId}

variable {st : Progress} {r : RouteMetadata} {profile : ModelProfile} {k : ℕ} {st₁ : Progress}
  {result : ChannelResult}

theorem passed_recover {e : ModelFailure} (hsent : st₁.sent.length = st.sent.length + 1)
    (hretries : st₁.retries = st.retries) (hrepairs : st₁.repairCount = st.repairCount)
    (hrequest : st₁.request = st.request) :
    Passed lib g st (recover r st₁ e).1 (recover r st₁ e).2 := by
  simp only [recover]
  split
  · rename_i hretry
    refine .retried hsent ?_ hrepairs hrequest
    have hpos : 0 < st₁.retries := hretry.2
    show st₁.retries - 1 + 1 = st.retries
    omega
  · split
    · exact .ended _ hsent hrepairs hrequest
    · exact .ended _ hsent hrepairs hrequest

theorem passed_raise {err : GatewayError} (hsent : st₁.sent.length = st.sent.length + 1)
    (hretries : st₁.retries = st.retries) (hrepairs : st₁.repairCount = st.repairCount)
    (hrequest : st₁.request = st.request) :
    Passed lib g st (raise r st₁ err).1 (raise r st₁ err).2 := by
  cases err with
  | failure e => exact passed_recover hsent hretries hrepairs hrequest
  | keyError => exact .ended _ hsent hrepairs hrequest
  | validationError => exact .ended _ hsent hrepairs hrequest
  | assertionError => exact .ended _ hsent hrepairs hrequest
  | other => exact .ended _ hsent hrepairs hrequest

theorem passed_respond {structured : Option Json} (hsent : st₁.sent.length = st.sent.length + 1)
    (hrepairs : st₁.repairCount = st.repairCount) (hrequest : st₁.request = st.request) :
    Passed lib g st (respond g traceId profile k st₁ result structured).1
      (respond g traceId profile k st₁ result structured).2 := by
  unfold respond
  split
  · exact .ended _ hsent hrepairs hrequest
  · exact .ended _ hsent hrepairs hrequest

theorem passed_settle (hsent : st₁.sent.length = st.sent.length + 1)
    (hretries : st₁.retries = st.retries) (hrepairs : st₁.repairCount = st.repairCount)
    (hrequest : st₁.request = st.request) :
    Passed lib g st (settle lib g traceId profile k r st₁ result).1
      (settle lib g traceId profile k r st₁ result).2 := by
  unfold settle
  split
  · exact passed_raise hsent hretries hrepairs hrequest
  rename_i htools
  split
  · exact passed_respond hsent hrepairs hrequest
  rename_i schema hschema
  split
  · exact passed_respond hsent hrepairs hrequest
  · rename_i e he
    split
    · exact passed_recover hsent hretries hrepairs hrequest
    · rename_i hmax
      refine .repaired hsent hretries (congrArg (· + 1) hrepairs) (by omega)
        (congrArg repairRequest hrequest) ?_
      rw [← hrequest]
      refine ⟨result, schema, e, hschema, ?_, he⟩
      by_cases hnone : st₁.request.toolSchemas = []
      · exact Or.inl hnone
      · rw [if_neg hnone] at htools
        exact Or.inr htools
  · exact .ended _ hsent hrepairs hrequest

variable (lib g channel traceId) in
/-- **What one pass does.** -/
theorem passed (profile : ModelProfile) (k : ℕ) (st : Progress) :
    Passed lib g st (pass lib g channel traceId profile k st).1
      (pass lib g channel traceId profile k st).2 := by
  simp only [pass]
  split
  · exact .refused _ rfl rfl rfl
  · have hlength : ∀ call : Sent, (st.sent ++ [call]).length = st.sent.length + 1 := by
      intro call
      simp
    split
    · exact passed_raise (hlength _) rfl rfl rfl
    · exact passed_settle (hlength _) rfl rfl rfl

/-! ### The loops -/

variable (lib g channel traceId)

/-- The passes that the loop over attempts has left at most, after the present one. -/
def Progress.left (st : Progress) : ℕ :=
  st.retries + (g.catalog.routePolicy.maxRepairs - st.repairCount)

variable {lib g channel traceId} in
theorem left_lt_of_again {st' : Progress}
    (h : pass lib g channel traceId profile k st = (st', .again)) : st'.left g < st.left g := by
  have hpassed := passed lib g channel traceId profile k st
  rw [h] at hpassed
  simp only at hpassed
  unfold Progress.left
  cases hpassed with
  | retried hsent hretries hrepairs hrequest => omega
  | repaired hsent hretries hrepairs hmax hrequest hrepairable => omega

/-- The loop over attempts. -/
def attempts (profile : ModelProfile) (fallbackCount : ℕ) (st : Progress) : Progress × Ended :=
  match h : pass lib g channel traceId profile fallbackCount st with
  | (st', .again) =>
    have := left_lt_of_again h
    attempts profile fallbackCount st'
  | (st', .ended e) => (st', e)
termination_by st.left g

variable {lib g channel traceId} in
theorem attempts_again {st' : Progress}
    (h : pass lib g channel traceId profile k st = (st', .again)) :
    attempts lib g channel traceId profile k st = attempts lib g channel traceId profile k st' := by
  rw [attempts]
  split
  · rename_i heq
    cases h.symm.trans heq
    rfl
  · rename_i heq
    cases h.symm.trans heq

variable {lib g channel traceId} in
theorem attempts_ended {st' : Progress} {e : Ended}
    (h : pass lib g channel traceId profile k st = (st', .ended e)) :
    attempts lib g channel traceId profile k st = (st', e) := by
  rw [attempts]
  split
  · rename_i heq
    cases h.symm.trans heq
  · rename_i heq
    cases h.symm.trans heq
    rfl

/-- The loop over the profiles. -/
def fallbacks : ℕ → List ModelProfile → Progress → Progress × Except GatewayError GatewayResponse
  | _, [], st =>
    match st.lastError with
    | some e => (st, .error (.failure e))
    | none => (st, .error .assertionError)
  | k, profile :: rest, st =>
    if g.channels profile.channel then
      match attempts lib g channel traceId profile k
        { st with retries := g.catalog.routePolicy.maxTransientRetries } with
      | (st, .returned response) => (st, .ok response)
      | (st, .raised err) => (st, .error err)
      | (st, .broke) =>
        match st.lastError with
        | some e => if e.preOutput then fallbacks (k + 1) rest st else (st, .error (.failure e))
        | none => fallbacks (k + 1) rest st
    else
      fallbacks (k + 1) rest
        { st with lastError := some { code := .configuration, retryable := false } }

/-- A whole call: what it sends, what it reports, and its result. -/
def complete (request : ModelRequest) : Progress × Except GatewayError GatewayResponse :=
  let st : Progress := { request := request }
  if rejectSensitiveRequest lib.isLetter request then
    (st, .error (.failure { code := .policyRejected, retryable := false }))
  else if capability request = .stream then
    (st, .error (.failure { code := .configuration, retryable := false }))
  else
    match candidates g.catalog request.modelFamily (capability request) with
    | none => (st, .error .keyError)
    | some [] => (st, .error (.failure { code := .configuration, retryable := false }))
    | some (profile :: rest) => fallbacks lib g channel traceId 0 (profile :: rest) st

end Loop

end ModelGateway
