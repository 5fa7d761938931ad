/-
**Streams of chat completions.**

`OpenAICompatibleChannel.stream` of `faultwitness/models/channel.py`.  The upstream refuses the exchange
or answers it with a status, lines and the way in which its body ends.  Of the lines that begin with
`data:`, one with the text `[DONE]` ends the stream; every other carries a document, from which a chunk
is made, or which is malformed.

The count of visible chunks is raised before the chunk is built, so a document whose chunk is refused
counts although nothing is yielded.  Lines that run out are no failure, whether `[DONE]` was among them
or not.

The reader of JSON, the truncation of floats and the texts of lists and objects are parameters.

Main definitions:

* `OpenAICompatibleChannel.readDocument` — the parts of a document;
* `OpenAICompatibleChannel.readLine`, `OpenAICompatibleChannel.readLines` — the loop over the lines;
* `OpenAICompatibleChannel.stream` — the whole stream;
* `OpenAICompatibleChannel.Kind` — what a line does to the stream.

Main results:

* `OpenAICompatibleChannel.readLines_eq` — **the chunks and the end of a stream**, read off the kinds of
  its lines;
* `OpenAICompatibleChannel.endsTruthfully_iff` — **a stream reports a complete completion only if it is
  one**, exactly if the lines are not cut off between chunks and no refused line is the last one read.
-/

import FaultWitness.SafetyPaths
import FaultWitness.JsonCodec
import FaultWitness.GatewayAttempts

set_option autoImplicit false

namespace OpenAICompatibleChannel

open Python ModelGateway

/-! ### Upstreams -/

/-- The exceptions of the HTTP library: the two that are caught, and the others. -/
inductive HttpError
  | timeout
  | transport
  | other
deriving DecidableEq

/-- How the upstream behaves.  A body without an error is closed after its last line. -/
inductive Upstream
  | refused (err : HttpError)
  | answered (status : ℕ) (lines : List String) (ending : Option HttpError)

def Upstream.lines : Upstream → List String
  | .refused _ => []
  | .answered _ lines _ => lines

/-! ### Chunks -/

structure GatewayChunk where
  requestId : String
  sequence : ℕ
  delta : String := ""
  toolCallDelta : String := ""
  finishReason : Option String := none
  usage : Option ModelUsage := none
  route : RouteMetadata

def GatewayChunk.visible (chunk : GatewayChunk) : Bool :=
  chunk.delta ≠ "" || chunk.toolCallDelta ≠ ""

/-- What a stream raises: a `PartialModelFailure`, or any other exception. -/
inductive StreamError
  | partialModelFailure (code : ModelFailureCode) (visibleChunks : ℕ)
  | plain (err : GatewayError)
deriving DecidableEq

inductive StreamEnd
  | returned
  | raised (err : StreamError)
deriving DecidableEq

/-! ### Documents -/

/-- What a line can raise. -/
inductive LineError
  | keyError
  | indexError
  | typeError
  | valueError
  | attributeError
  | overflowError
deriving DecidableEq

/-- The exceptions that the loop turns into a failure. -/
def LineError.caught (err : LineError) : Bool :=
  [keyError, indexError, typeError, valueError].contains err

/-- What the stream takes from the library: `json.loads`, whose `none` is a `ValueError`, `int` of a
finite float, and `str` of a list or an object. -/
structure Readers where
  loads : String → Option Json
  truncate : String → ℤ
  display : Json → String

variable (lib : Readers)

/-- `value.get(key)`. -/
def get (value : Json) (key : String) : Except LineError Json :=
  match value with
  | .obj fields => .ok ((fields.lookup key).getD .null)
  | _ => .error .attributeError

/-- `int(value)`. -/
def toInt : Json → Except LineError ℤ
  | .bool b => .ok (if b then 1 else 0)
  | .int n => .ok n
  | .float repr =>
    if repr = "NaN" then .error .valueError
    else if repr = "Infinity" ∨ repr = "-Infinity" then .error .overflowError
    else .ok (lib.truncate repr)
  | .str s =>
    match intParse s with
    | some n => .ok n
    | none => .error .valueError
  | _ => .error .typeError

/-- `_usage`: a record that is refused is no usage. -/
def usageOf : Json → Except LineError (Option ModelUsage)
  | .obj fields =>
    let number (key : String) : Except LineError ℤ :=
      match fields.lookup key with
      | some value => toInt lib value
      | none => .error .keyError
    match (do
      let prompt ← number "prompt_tokens"
      let completion ← number "completion_tokens"
      return (prompt, completion) : Except LineError (ℤ × ℤ)) with
    | .ok (prompt, completion) =>
      if 0 ≤ prompt ∧ 0 ≤ completion then
        .ok (some
          { inputTokens := prompt.toNat
            outputTokens := completion.toNat
            totalTokens := prompt.toNat + completion.toNat
            totalTokens_eq := rfl })
      else .ok none
    | .error err =>
      if [LineError.keyError, .typeError, .valueError].contains err then .ok none else .error err
  | _ => .ok none

/-- `choices[0]`. -/
def firstOf : Json → Except LineError Json
  | .arr (item :: _) => .ok item
  | .arr [] => .error .indexError
  | .str s =>
    match s.toList with
    | c :: _ => .ok (.str c.toString)
    | [] => .error .indexError
  | .obj _ => .error .keyError
  | _ => .error .typeError

/-- The items that a `for` loop visits. -/
def itemsOf : Json → Except LineError (List Json)
  | .arr items => .ok items
  | .obj fields => .ok (fields.map fun field => .str field.1)
  | .str s => .ok (s.toList.map fun c => .str c.toString)
  | _ => .error .typeError

/-- `str(value or "")`. -/
def textOf (value : Json) : String :=
  if SafetyPaths.truthy value then (nameText value).getD (lib.display value) else ""

/-- The arguments of one tool call. -/
def argumentsOf (item : Json) : Except LineError String :=
  match item with
  | .obj fields => do
    let value ← get ((fields.lookup "function").getD (.obj [])) "arguments"
    return textOf lib value
  | _ => .error .attributeError

/-- `value or default`. -/
def orElse (value default : Json) : Json := if SafetyPaths.truthy value then value else default

/-- What a document holds: a usage without choices, or the first choice. -/
inductive Parts
  | usageOnly (usage : ModelUsage)
  | choice (content : Json) (toolDelta : String) (finishReason : Json) (usage : Option ModelUsage)

/-- The parts of a document, up to the chunk that is made of them. -/
def readDocument (data : String) : Except LineError Parts :=
  match lib.loads data with
  | none => .error .valueError
  | some document => do
    let choices := orElse (← get document "choices") (.arr [])
    let usage ← usageOf lib (← get document "usage")
    match SafetyPaths.truthy choices, usage with
    | false, some usage => return .usageOnly usage
    | _, usage =>
      let choice ← firstOf choices
      let delta := orElse (← get choice "delta") (.obj [])
      let content := orElse (← get delta "content") (.str "")
      let items ← itemsOf (orElse (← get delta "tool_calls") (.arr []))
      let arguments ← items.mapM (argumentsOf lib)
      return .choice content (String.join arguments) (← get choice "finish_reason") usage

/-! ### Lines -/

/-- `text.strip()`. -/
def strip (text : List Char) : String :=
  String.ofList (((text.dropWhile (isBlank false)).reverse.dropWhile (isBlank false)).reverse)

/-- The text of a line that begins with `data:`. -/
def dataOf (line : String) : Option String :=
  match line.toList with
  | 'd' :: 'a' :: 't' :: 'a' :: ':' :: text => some (strip text)
  | _ => none

/-- The variables of the loop. -/
structure Reading where
  visible : ℕ := 0
  sequence : ℕ := 0
  chunks : List GatewayChunk := []

/-- How a pass through the loop ends. -/
inductive Next
  | next
  | ended (e : StreamEnd)

/-- The handler of a caught exception. -/
def malformed (visible : ℕ) : StreamError :=
  if visible ≠ 0 then .partialModelFailure .interruptedStream visible
  else .plain (.failure { code := .invalidResponse, retryable := false })

section Stream

variable (request : ModelRequest) (route : RouteMetadata)

/-- Yielding a chunk. -/
def Reading.emit (st : Reading) (delta toolDelta : String) (finishReason : Option String)
    (usage : Option ModelUsage) : Reading :=
  { st with
    sequence := st.sequence + 1
    chunks := st.chunks ++
      [{ requestId := request.requestId, sequence := st.sequence, delta := delta
         toolCallDelta := toolDelta, finishReason := finishReason, usage := usage
         route := route }] }

/-- The fields of a chunk that its record accepts: texts, and no reason or a text. -/
def accepted (content finishReason : Json) : Option (String × Option String) :=
  match content, finishReason with
  | .str delta, .null => some (delta, none)
  | .str delta, .str reason => some (delta, some reason)
  | _, _ => none

/-- One pass through the loop over the lines. -/
def readLine (line : String) (st : Reading) : Reading × Next :=
  match dataOf line with
  | none => (st, .next)
  | some data =>
    if data = "[DONE]" then (st, .ended .returned)
    else
      match readDocument lib data with
      | .error err =>
        if err.caught then (st, .ended (.raised (malformed st.visible)))
        else (st, .ended (.raised (.plain .other)))
      | .ok (.usageOnly usage) => (st.emit request route "" "" none (some usage), .next)
      | .ok (.choice content toolDelta finishReason usage) =>
        let st := if SafetyPaths.truthy content ∨ toolDelta ≠ "" then
          { st with visible := st.visible + 1 } else st
        match accepted content finishReason with
        | some (delta, reason) => (st.emit request route delta toolDelta reason usage, .next)
        | none => (st, .ended (.raised (malformed st.visible)))

/-- The handlers of the exceptions of the HTTP library. -/
def interrupted (visible : ℕ) : HttpError → StreamError
  | .timeout =>
    if visible ≠ 0 then .partialModelFailure .interruptedStream visible
    else .plain (.failure { code := .timeout, retryable := true })
  | .transport =>
    if visible ≠ 0 then .partialModelFailure .interruptedStream visible
    else .plain (.failure { code := .upstreamUnavailable, retryable := true })
  | .other => .plain .other

/-- The loop over the lines of a body. -/
def readLines (ending : Option HttpError) : List String → Reading → Reading × StreamEnd
  | [], st =>
    match ending with
    | none => (st, .returned)
    | some err => (st, .raised (interrupted st.visible err))
  | line :: lines, st =>
    match readLine lib request route line st with
    | (st, .next) => readLines ending lines st
    | (st, .ended e) => (st, e)

/-- `_raise_status`. -/
def raiseStatus (status : ℕ) : ModelFailure :=
  if status = 429 then { code := .rateLimited, retryable := true }
  else if [408, 500, 502, 503, 504].contains status then
    { code := .upstreamUnavailable, retryable := true }
  else if [401, 403].contains status then { code := .authentication, retryable := false }
  else { code := .configuration, retryable := false }

/-- The name of the tool that a payload forces, where the request has one. -/
def payloadBuilt (request : ModelRequest) : Bool :=
  match request.toolSchemas with
  | [] => true
  | schema :: _ =>
    ((ModelGateway.getItem (.obj schema) "function").bind fun function =>
      ModelGateway.getItem function "name").isSome

/-- The chunks that are yielded, and how the stream ends. -/
def stream (upstream : Upstream) : List GatewayChunk × StreamEnd :=
  if payloadBuilt request then
    match upstream with
    | .refused err => ([], .raised (interrupted 0 err))
    | .answered status lines ending =>
      if 400 ≤ status then ([], .raised (.plain (.failure (raiseStatus status))))
      else
        let (st, e) := readLines lib request route ending lines {}
        (st.chunks, e)
  else ([], .raised (.plain (.failure { code := .configuration, retryable := false })))

end Stream

/-! ### What a line does -/

/-- What a line does to the stream: nothing, it ends it, it yields a chunk, its chunk is refused, with
or without having been counted as a visible one, or it raises an exception that nothing catches. -/
inductive Kind
  | ignored
  | done
  | yields (visible : Bool)
  | refused (counted : Bool)
  | crashed
deriving DecidableEq

def kindOf (line : String) : Kind :=
  match dataOf line with
  | none => .ignored
  | some data =>
    if data = "[DONE]" then .done
    else
      match readDocument lib data with
      | .error err => if err.caught then .refused false else .crashed
      | .ok (.usageOnly _) => .yields false
      | .ok (.choice content toolDelta finishReason _) =>
        let counted : Bool := SafetyPaths.truthy content || toolDelta ≠ ""
        if (accepted content finishReason).isSome then .yields counted else .refused counted

/-- The loop goes on after the line. -/
def passes (line : String) : Bool :=
  match kindOf lib line with
  | .ignored | .yields _ => true
  | _ => false

/-- The visibility of the chunk that a line yields. -/
def carried (line : String) : Option Bool :=
  match kindOf lib line with
  | .yields visible => some visible
  | _ => none

/-- The visibilities of the chunks that lines yield. -/
def yielded (lines : List String) : List Bool := (lines.takeWhile (passes lib)).filterMap (carried lib)

/-- What a pass does, by the kind of its line. -/
inductive Read (request : ModelRequest) (route : RouteMetadata) (st : Reading) :
    Kind → Reading × Next → Prop
  | ignored : Read request route st .ignored (st, .next)
  | done : Read request route st .done (st, .ended .returned)
  | yields (chunk : GatewayChunk) (visible : Bool) (hvisible : chunk.visible = visible)
      (hsequence : chunk.sequence = st.sequence) :
      Read request route st (.yields visible)
        ({ visible := st.visible + visible.toNat
           sequence := st.sequence + 1
           chunks := st.chunks ++ [chunk] }, .next)
  | refused (counted : Bool) (st' : Reading) (hchunks : st'.chunks = st.chunks) :
      Read request route st (.refused counted)
        (st', .ended (.raised (malformed (st.visible + counted.toNat))))
  | crashed : Read request route st .crashed (st, .ended (.raised (.plain .other)))

/-- **What a line does.** -/
theorem read (request : ModelRequest) (route : RouteMetadata) (line : String) (st : Reading) :
    Read request route st (kindOf lib line) (readLine lib request route line st) := by
  unfold kindOf readLine
  cases dataOf line with
  | none => exact .ignored
  | some data =>
    dsimp only
    by_cases hdone : data = "[DONE]"
    · rw [if_pos hdone, if_pos hdone]
      exact .done
    rw [if_neg hdone, if_neg hdone]
    cases readDocument lib data with
    | error err =>
      dsimp only
      cases err.caught with
      | true => exact .refused false st rfl
      | false => exact .crashed
    | ok parts =>
      cases parts with
      | usageOnly usage => exact .yields _ false rfl rfl
      | choice content toolDelta finishReason usage =>
        dsimp only
        -- the count is raised before the chunk is built
        obtain ⟨st₁, hst₁, hvisible, hsequence, hchunks⟩ : ∃ st₁ : Reading,
            (if SafetyPaths.truthy content ∨ toolDelta ≠ "" then
              { st with visible := st.visible + 1 } else st) = st₁ ∧
            st₁.visible = st.visible +
              (SafetyPaths.truthy content || decide (toolDelta ≠ "")).toNat ∧
            st₁.sequence = st.sequence ∧ st₁.chunks = st.chunks := by
          by_cases hcounted : SafetyPaths.truthy content ∨ toolDelta ≠ ""
          · refine ⟨_, if_pos hcounted, ?_, rfl, rfl⟩
            have : (SafetyPaths.truthy content || decide (toolDelta ≠ "")) = true := by
              simpa using hcounted
            rw [this]
            rfl
          · refine ⟨_, if_neg hcounted, ?_, rfl, rfl⟩
            have : (SafetyPaths.truthy content || decide (toolDelta ≠ "")) = false := by
              simpa using hcounted
            rw [this]
            rfl
        rw [hst₁]
        cases haccepted : accepted content finishReason with
        | none =>
          dsimp only
          rw [hvisible]
          exact .refused _ st₁ hchunks
        | some fields =>
          obtain ⟨delta, reason⟩ := fields
          have hcontent : content = .str delta := by
            unfold accepted at haccepted
            split at haccepted <;> cases haccepted <;> rfl
          have hemit : st₁.emit request route delta toolDelta reason usage =
              { visible := st.visible +
                  (SafetyPaths.truthy content || decide (toolDelta ≠ "")).toNat
                sequence := st.sequence + 1
                chunks := st.chunks ++
                  [{ requestId := request.requestId, sequence := st.sequence, delta := delta
                     toolCallDelta := toolDelta, finishReason := reason, usage := usage
                     route := route }] } := by
            rw [Reading.emit, hvisible, hsequence, hchunks]
          dsimp only
          rw [hemit]
          refine .yields _ _ ?_ rfl
          rw [hcontent]
          rfl

/-! ### The lines of a body -/

/-- How a stream ends that has counted visible chunks, with the lines that are left. -/
def endOf (ending : Option HttpError) (visible : ℕ) : List String → StreamEnd
  | [] =>
    match ending with
    | none => .returned
    | some err => .raised (interrupted visible err)
  | line :: _ =>
    match kindOf lib line with
    | .done => .returned
    | .refused counted => .raised (malformed (visible + counted.toNat))
    | _ => .raised (.plain .other)

/-- **The chunks and the end of the loop**, read off the kinds of the lines. -/
theorem readLines_eq (request : ModelRequest) (route : RouteMetadata) (ending : Option HttpError)
    (lines : List String) (st : Reading) :
    ∃ chunks, (readLines lib request route ending lines st).1.chunks = st.chunks ++ chunks ∧
      chunks.map GatewayChunk.visible = yielded lib lines ∧
      chunks.map GatewayChunk.sequence = List.range' st.sequence chunks.length ∧
      (readLines lib request route ending lines st).2 =
        endOf lib ending (st.visible + (yielded lib lines).count true)
          (lines.dropWhile (passes lib)) := by
  induction lines generalizing st with
  | nil =>
    cases ending with
    | none => exact ⟨[], (List.append_nil _).symm, rfl, rfl, rfl⟩
    | some err => exact ⟨[], (List.append_nil _).symm, rfl, rfl, rfl⟩
  | cons line lines ih =>
    have hread := read lib request route line st
    rw [readLines]
    generalize readLine lib request route line st = result at hread ⊢
    cases hkind : kindOf lib line with
    | ignored =>
      have hpasses : passes lib line = true := by rw [passes, hkind]
      have hcarried : carried lib line = none := by rw [carried, hkind]
      rw [hkind] at hread
      cases hread
      obtain ⟨chunks, hchunks, hvisible, hsequence, hend⟩ := ih st
      have hyielded : yielded lib (line :: lines) = yielded lib lines := by
        rw [yielded, List.takeWhile_cons_of_pos hpasses, List.filterMap_cons_none hcarried, yielded]
      rw [hyielded, List.dropWhile_cons_of_pos hpasses]
      exact ⟨chunks, hchunks, hvisible, hsequence, hend⟩
    | yields visible =>
      have hpasses : passes lib line = true := by rw [passes, hkind]
      have hcarried : carried lib line = some visible := by rw [carried, hkind]
      rw [hkind] at hread
      cases hread with
      | yields chunk _ hseen hnumber =>
      obtain ⟨chunks, hchunks, hvisible, hsequence, hend⟩ :=
        ih { visible := st.visible + visible.toNat, sequence := st.sequence + 1
             chunks := st.chunks ++ [chunk] }
      have hyielded : yielded lib (line :: lines) = visible :: yielded lib lines := by
        rw [yielded, List.takeWhile_cons_of_pos hpasses, List.filterMap_cons_some hcarried, yielded]
      rw [hyielded, List.dropWhile_cons_of_pos hpasses]
      refine ⟨chunk :: chunks, ?_, ?_, ?_, ?_⟩
      · rw [hchunks, List.append_assoc, List.singleton_append]
      · rw [List.map_cons, hvisible, hseen]
      · rw [List.map_cons, hsequence, hnumber, List.length_cons, List.range'_succ]
      · rw [hend, List.count_cons]
        have hcount : st.visible + visible.toNat + (yielded lib lines).count true =
            st.visible + ((yielded lib lines).count true + if (visible == true) = true then 1 else 0) := by
          cases visible with
          | false => rw [Bool.toNat_false]; simp
          | true => rw [Bool.toNat_true]; simp; omega
        rw [hcount]
    | done =>
      have hstops : ¬passes lib line = true := by
        rw [passes, hkind]
        exact Bool.false_ne_true
      rw [hkind] at hread
      cases hread
      rw [yielded, List.takeWhile_cons_of_neg hstops, List.dropWhile_cons_of_neg hstops]
      refine ⟨[], (List.append_nil _).symm, rfl, rfl, ?_⟩
      rw [endOf, hkind]
    | refused counted =>
      have hstops : ¬passes lib line = true := by
        rw [passes, hkind]
        exact Bool.false_ne_true
      rw [hkind] at hread
      cases hread with
      | refused _ st' hchunks =>
      rw [yielded, List.takeWhile_cons_of_neg hstops, List.dropWhile_cons_of_neg hstops]
      refine ⟨[], by rw [hchunks, List.append_nil], rfl, rfl, ?_⟩
      rw [endOf, hkind]
      rfl
    | crashed =>
      have hstops : ¬passes lib line = true := by
        rw [passes, hkind]
        exact Bool.false_ne_true
      rw [hkind] at hread
      cases hread
      rw [yielded, List.takeWhile_cons_of_neg hstops, List.dropWhile_cons_of_neg hstops]
      refine ⟨[], (List.append_nil _).symm, rfl, rfl, ?_⟩
      rw [endOf, hkind]

variable {request : ModelRequest}

theorem stream_unbuilt (hpayload : ¬payloadBuilt request = true) (route : RouteMetadata)
    (upstream : Upstream) : stream lib request route upstream =
      ([], .raised (.plain (.failure { code := .configuration, retryable := false }))) :=
  if_neg hpayload

theorem stream_refused (hpayload : payloadBuilt request = true) (route : RouteMetadata)
    (err : HttpError) :
    stream lib request route (.refused err) = ([], .raised (interrupted 0 err)) :=
  if_pos hpayload

theorem stream_status (hpayload : payloadBuilt request = true) (route : RouteMetadata)
    {status : ℕ} (hstatus : 400 ≤ status) (lines : List String) (ending : Option HttpError) :
    stream lib request route (.answered status lines ending) =
      ([], .raised (.plain (.failure (raiseStatus status)))) := by
  rw [stream, if_pos hpayload]
  exact if_pos hstatus

/-- A stream whose payload is built and whose status is accepted is the loop over the lines. -/
theorem stream_eq (hpayload : payloadBuilt request = true) (route : RouteMetadata) {status : ℕ}
    (hstatus : ¬400 ≤ status) (lines : List String) (ending : Option HttpError) :
    ∃ chunks, stream lib request route (.answered status lines ending) =
        (chunks, endOf lib ending ((yielded lib lines).count true) (lines.dropWhile (passes lib))) ∧
      chunks.map GatewayChunk.visible = yielded lib lines ∧
      chunks.map GatewayChunk.sequence = List.range chunks.length := by
  obtain ⟨chunks, hchunks, hvisible, hsequence, hend⟩ :=
    readLines_eq lib request route ending lines {}
  refine ⟨chunks, ?_, hvisible, hsequence.trans List.range_eq_range'.symm⟩
  rw [Nat.zero_add] at hend
  rw [List.nil_append] at hchunks
  rw [stream, if_pos hpayload]
  dsimp only
  rw [if_neg hstatus, hchunks, hend]

/-- The visibilities of the chunks that an upstream brings about. -/
def shown (request : ModelRequest) : Upstream → List Bool
  | .refused _ => []
  | .answered status lines _ =>
    if payloadBuilt request = true ∧ status < 400 then yielded lib lines else []

/-- **The chunks of a stream**: their visibilities, and their numbers, which start at zero. -/
theorem map_stream (request : ModelRequest) (route : RouteMetadata) (upstream : Upstream) :
    (stream lib request route upstream).1.map GatewayChunk.visible = shown lib request upstream ∧
      (stream lib request route upstream).1.map GatewayChunk.sequence =
        List.range (stream lib request route upstream).1.length := by
  by_cases hpayload : payloadBuilt request = true
  · cases upstream with
    | refused err =>
      rw [stream_refused lib hpayload]
      exact ⟨rfl, rfl⟩
    | answered status lines ending =>
      by_cases hstatus : 400 ≤ status
      · rw [stream_status lib hpayload route hstatus, shown, if_neg fun h => by omega]
        exact ⟨rfl, rfl⟩
      · obtain ⟨chunks, hstream, hvisible, hsequence⟩ :=
          stream_eq lib hpayload route hstatus lines ending
        rw [hstream, shown, if_pos ⟨hpayload, by omega⟩]
        exact ⟨hvisible, hsequence⟩
  · rw [stream_unbuilt lib hpayload]
    cases upstream with
    | refused err => exact ⟨rfl, rfl⟩
    | answered status lines ending =>
      rw [shown, if_neg fun h => hpayload h.1]
      exact ⟨rfl, rfl⟩

/-! ### Completions that are cut off -/

def isDone (line : String) : Bool := dataOf line = some "[DONE]"

/-- A stream ends without an exception only after a line with `[DONE]`.  Where the body ends without
such a line, it raises a `PartialModelFailure` if a visible chunk was yielded, and a `ModelFailure` of
another class if none was. -/
def EndsTruthfully (request : ModelRequest) (route : RouteMetadata) (upstream : Upstream) : Prop :=
  ((stream lib request route upstream).2 = .returned → ∃ line ∈ upstream.lines, isDone line = true) ∧
    ∀ status lines ending, upstream = .answered status lines ending → ending ≠ some .other →
      (∀ line ∈ lines, isDone line = false) →
      if (stream lib request route upstream).1.any GatewayChunk.visible = true then
        ∃ code n, (stream lib request route upstream).2 = .raised (.partialModelFailure code n)
      else ∃ e, (stream lib request route upstream).2 = .raised (.plain (.failure e))

/-- The lines up to the first one that ends the loop: where there is none, the body is broken off, and
where there is one, its chunk is refused, having been counted only after a visible chunk. -/
def BrokenOff (lines : List String) (ending : Option HttpError) : Prop :=
  match lines.dropWhile (passes lib) with
  | [] => ending ≠ none
  | line :: _ =>
    match kindOf lib line with
    | .refused counted => counted = true → true ∈ yielded lib lines
    | _ => False

/-- The upstreams whose streams end truthfully. -/
def Regular (request : ModelRequest) : Upstream → Prop
  | .refused _ => True
  | .answered status lines ending =>
    payloadBuilt request = false ∨ 400 ≤ status ∨ ending = some .other ∨
      (∃ line ∈ lines, isDone line = true) ∨ BrokenOff lib lines ending

theorem kindOf_eq_done {line : String} : kindOf lib line = .done ↔ isDone line = true := by
  unfold kindOf isDone
  cases dataOf line with
  | none => exact ⟨nofun, nofun⟩
  | some data =>
    dsimp only
    by_cases hdone : data = "[DONE]"
    · rw [if_pos hdone, hdone]
      exact ⟨fun _ => decide_eq_true rfl, fun _ => rfl⟩
    · rw [if_neg hdone]
      refine ⟨fun h => ?_, fun h => absurd (Option.some.inj (of_decide_eq_true h)) hdone⟩
      split at h
      · split at h <;> cases h
      · cases h
      · split at h <;> cases h

theorem mem_of_dropWhile {lines rest : List String} {line : String}
    (h : lines.dropWhile (passes lib) = line :: rest) : line ∈ lines ∧ passes lib line = false := by
  refine ⟨(List.dropWhile_suffix (passes lib)).subset (h ▸ List.mem_cons_self), ?_⟩
  induction lines with
  | nil => cases h
  | cons first lines ih =>
    by_cases hpasses : passes lib first = true
    · rw [List.dropWhile_cons_of_pos hpasses] at h
      exact ih h
    · rw [List.dropWhile_cons_of_neg hpasses] at h
      cases h
      exact Bool.eq_false_iff.2 hpasses

theorem any_visible {chunks : List GatewayChunk} {seen : List Bool}
    (h : chunks.map GatewayChunk.visible = seen) :
    chunks.any GatewayChunk.visible = true ↔ seen.count true ≠ 0 := by
  rw [← h, Nat.ne_zero_iff_zero_lt, List.count_pos_iff, List.any_eq_true, List.mem_map]

/-- An exception that tells whether something was visible. -/
def Honest (visible : ℕ) (e : StreamEnd) : Prop :=
  if visible ≠ 0 then ∃ code n, e = .raised (.partialModelFailure code n)
  else ∃ failure, e = .raised (.plain (.failure failure))

theorem honest_malformed {visible : ℕ} {counted : Bool} :
    Honest visible (.raised (malformed (visible + counted.toNat))) ↔ (counted = true → visible ≠ 0) := by
  unfold Honest malformed
  by_cases hvisible : visible = 0
  · rw [if_neg (not_not.2 hvisible), hvisible, Nat.zero_add]
    cases counted with
    | false => exact iff_of_true ⟨_, rfl⟩ nofun
    | true =>
      refine iff_of_false ?_ fun h => h rfl rfl
      rintro ⟨failure, hfailure⟩
      cases hfailure
  · rw [if_pos hvisible, if_pos (by omega)]
    exact iff_of_true ⟨_, _, rfl⟩ fun _ => hvisible

theorem honest_interrupted {visible : ℕ} {err : HttpError} (h : err ≠ .other) :
    Honest visible (.raised (interrupted visible err)) := by
  unfold Honest
  by_cases hvisible : visible ≠ 0
  · rw [if_pos hvisible]
    cases err with
    | timeout => exact ⟨_, _, congrArg StreamEnd.raised (if_pos hvisible)⟩
    | transport => exact ⟨_, _, congrArg StreamEnd.raised (if_pos hvisible)⟩
    | other => exact absurd rfl h
  · rw [if_neg hvisible]
    cases err with
    | timeout => exact ⟨_, congrArg StreamEnd.raised (if_neg hvisible)⟩
    | transport => exact ⟨_, congrArg StreamEnd.raised (if_neg hvisible)⟩
    | other => exact absurd rfl h

theorem honest_endOf {lines : List String} {ending : Option HttpError}
    (hnone : ∀ line ∈ lines, isDone line = false) :
    (endOf lib ending ((yielded lib lines).count true) (lines.dropWhile (passes lib)) ≠ .returned ∧
        (ending ≠ some .other →
          Honest ((yielded lib lines).count true)
            (endOf lib ending ((yielded lib lines).count true) (lines.dropWhile (passes lib))))) ↔
      ending = some .other ∨ BrokenOff lib lines ending := by
  unfold BrokenOff
  cases hrest : lines.dropWhile (passes lib) with
  | nil =>
    cases ending with
    | none => exact iff_of_false (fun h => h.1 rfl) (by simp)
    | some err =>
      refine iff_of_true ⟨nofun, fun hother => ?_⟩ (Or.inr nofun)
      exact honest_interrupted fun h => hother (congrArg some h)
  | cons line rest =>
    obtain ⟨hline, hstops⟩ := mem_of_dropWhile lib hrest
    dsimp only [endOf]
    cases hkind : kindOf lib line with
    | ignored =>
      rw [passes, hkind] at hstops
      cases hstops
    | yields visible =>
      rw [passes, hkind] at hstops
      cases hstops
    | done =>
      have hdone := (kindOf_eq_done lib).1 hkind
      rw [hnone line hline] at hdone
      cases hdone
    | refused counted =>
      dsimp only
      rw [honest_malformed]
      have hcount : (yielded lib lines).count true ≠ 0 ↔ true ∈ yielded lib lines := by
        rw [Nat.ne_zero_iff_zero_lt, List.count_pos_iff]
      rw [hcount]
      constructor
      · rintro ⟨-, h⟩
        by_cases hother : ending = some .other
        · exact Or.inl hother
        · exact Or.inr (h hother)
      · rintro (hother | h)
        · exact ⟨nofun, fun hnot => absurd hother hnot⟩
        · exact ⟨nofun, fun _ => h⟩
    | crashed =>
      dsimp only
      constructor
      · rintro ⟨-, h⟩
        by_cases hother : ending = some .other
        · exact Or.inl hother
        · have hhonest := h hother
          unfold Honest at hhonest
          split at hhonest
          · obtain ⟨code, n, hcode⟩ := hhonest
            cases hcode
          · obtain ⟨failure, hfailure⟩ := hhonest
            cases hfailure
      · rintro (hother | h)
        · exact ⟨nofun, fun hnot => absurd hother hnot⟩
        · exact h.elim

/-- **The streams that end truthfully**: those with a line `[DONE]`, and of the others those that are
broken off. -/
theorem endsTruthfully_iff (request : ModelRequest) (route : RouteMetadata) (upstream : Upstream) :
    EndsTruthfully lib request route upstream ↔ Regular lib request upstream := by
  by_cases hpayload : payloadBuilt request = true
  swap
  · have hstream := stream_unbuilt lib hpayload route upstream
    have hregular : Regular lib request upstream := by
      cases upstream with
      | refused err => trivial
      | answered status lines ending => exact Or.inl (Bool.eq_false_iff.2 hpayload)
    refine iff_of_true ⟨?_, ?_⟩ hregular
    · rw [hstream]
      exact nofun
    · rw [hstream]
      exact fun _ _ _ _ _ _ => ⟨_, rfl⟩
  cases upstream with
  | refused err =>
    have hstream := stream_refused lib hpayload route err
    refine iff_of_true ⟨?_, nofun⟩ trivial
    rw [hstream]
    exact nofun
  | answered status lines ending =>
    by_cases hstatus : 400 ≤ status
    · have hstream := stream_status lib hpayload route hstatus lines ending
      refine iff_of_true ⟨?_, ?_⟩ (Or.inr (Or.inl hstatus))
      · rw [hstream]
        exact nofun
      · rw [hstream]
        exact fun _ _ _ _ _ _ => ⟨_, rfl⟩
    obtain ⟨chunks, hstream, hvisible, -⟩ := stream_eq lib hpayload route hstatus lines ending
    unfold EndsTruthfully
    rw [hstream]
    by_cases hdone : ∃ line ∈ lines, isDone line = true
    · refine iff_of_true ⟨fun _ => hdone, ?_⟩ (Or.inr (Or.inr (Or.inr (Or.inl hdone))))
      intro _ lines' _ heq _ hnone
      cases heq
      obtain ⟨line, hline, hdone⟩ := hdone
      rw [hnone line hline] at hdone
      cases hdone
    have hnone : ∀ line ∈ lines, isDone line = false := by
      intro line hline
      by_contra hline'
      exact hdone ⟨line, hline, (Bool.not_eq_false _).mp hline'⟩
    have hregular : Regular lib request (.answered status lines ending) ↔
        ending = some .other ∨ BrokenOff lib lines ending := by
      simp only [Regular, hpayload, hstatus, hdone, Bool.true_eq_false, false_or]
    rw [hregular, ← honest_endOf lib hnone]
    refine and_congr ⟨fun h hreturned => hdone (h hreturned), fun h hreturned => absurd hreturned h⟩ ?_
    have hhonest : (if chunks.any GatewayChunk.visible = true then
          ∃ code n, endOf lib ending ((yielded lib lines).count true)
            (lines.dropWhile (passes lib)) = .raised (.partialModelFailure code n)
        else ∃ e, endOf lib ending ((yielded lib lines).count true)
          (lines.dropWhile (passes lib)) = .raised (.plain (.failure e))) ↔
        Honest ((yielded lib lines).count true)
          (endOf lib ending ((yielded lib lines).count true) (lines.dropWhile (passes lib))) := by
      unfold Honest
      simp only [any_visible hvisible]
    constructor
    · intro h hother
      exact hhonest.1 (h status lines ending rfl hother hnone)
    · intro h status' lines' ending' heq hother _
      cases heq
      exact hhonest.2 (h hother)

/-! ### A body that is closed early -/

/-- A reader of documents without floats. -/
def sampleReaders : Readers where
  loads := Json.loads
  truncate _ := 0
  display _ := ""

/-- A line with one word of a message. -/
def wordLine : String := "data: \x7b\"choices\":[\x7b\"delta\":\x7b\"content\":\"a\"\x7d\x7d]\x7d"

theorem kindOf_wordLine : kindOf sampleReaders wordLine = .yields true := by decide +kernel

/-- The request of a server for a stream. -/
def streamRequest : ModelRequest := { sampleRequest with stream := true }

def sampleRoute : RouteMetadata where
  channel := .bailian
  modelFamily := .qwen
  requestedModel := "qwen3.7-plus-2026-05-26"
  resolvedModel := "qwen3.7-plus-2026-05-26"
  routePolicyVersion := "1.0.0"
  catalogVersion := "1.0.0"
  attempt := 1
  fallbackCount := 0
  repairCount := 0
  traceId := "trace"

/-- The connection is closed after the first word, and the stream ends as a complete one does. -/
theorem not_endsTruthfully : ¬∀ (lib : Readers) (request : ModelRequest) (route : RouteMetadata)
    (upstream : Upstream), EndsTruthfully lib request route upstream := by
  intro hall
  have hends := (hall sampleReaders streamRequest sampleRoute (.answered 200 [wordLine] none)).1
  obtain ⟨chunks, hstream, -, -⟩ := stream_eq sampleReaders (show payloadBuilt streamRequest = true from rfl)
    sampleRoute (show ¬400 ≤ 200 by decide) [wordLine] none
  have hpasses : passes sampleReaders wordLine = true := by rw [passes, kindOf_wordLine]
  rw [hstream, List.dropWhile_cons_of_pos hpasses] at hends
  obtain ⟨line, hline, hdone⟩ := hends rfl
  rw [Upstream.lines, List.mem_singleton] at hline
  rw [hline, ← kindOf_eq_done sampleReaders, kindOf_wordLine] at hdone
  cases hdone

end OpenAICompatibleChannel
