/-
**The sanitizer of traces.**

`TraceSanitizer.sanitize` turns the envelope of a trace into the form that is stored and exported.  It
checks the graph of the spans, refuses the whole trace if a name or an attribute of one of them is not
allowed, and replaces every identifier by a part of its HMAC under the reference key.

The HMAC, the hash and the tables of Unicode are parameters.  Whatever an attribute may hold beside a
scalar is refused alike, so it is one value here.

Main definitions:

* `Sanitizer.TraceEnvelope` — what is sanitized;
* `Sanitizer.validateGraph` — the check of the graph;
* `Sanitizer.TraceSanitizer.sanitize` — the whole call.

Main results:

* `Sanitizer.validateGraph_ne_exhausted` — the walk up the parents ends;
* `Sanitizer.TraceSanitizer.exists_sanitize` — **when a trace is accepted**;
* `Sanitizer.TraceSanitizer.sanitized_of_eq_ok` — **what an accepted trace is turned into**.
-/

import FaultWitness.ParentForests
import FaultWitness.TextPatterns
import FaultWitness.Timestamps
import FaultWitness.Traces

set_option autoImplicit false

namespace Sanitizer

open Python TextPatterns Timestamps Traces

/-! ### Envelopes -/

inductive TraceStage
  | api
  | stateTransition
  | checkpoint
  | model
  | tool
  | policy
  | action
  | export
deriving DecidableEq

def TraceStage.value : TraceStage → String
  | .api => "api"
  | .stateTransition => "state_transition"
  | .checkpoint => "checkpoint"
  | .model => "model"
  | .tool => "tool"
  | .policy => "policy"
  | .action => "action"
  | .export => "export"

inductive SpanStatus
  | ok
  | error
  | unset
deriving DecidableEq

def SpanStatus.value : SpanStatus → String
  | .ok => "ok"
  | .error => "error"
  | .unset => "unset"

/-- The value of an attribute of a span. -/
inductive AttributeValue
  | scalar (v : Scalar)
  /-- Anything but a text, a number or a truth value. -/
  | other
deriving DecidableEq

structure SpanRecord where
  spanId : String
  parentSpanId : Option String := none
  name : String
  stage : TraceStage
  startedAt : DateTime
  endedAt : Option DateTime := none
  status : SpanStatus := .unset
  attributes : List (String × AttributeValue) := []
  attributes_nodup : (attributes.map Prod.fst).Nodup := by decide

structure TraceEnvelope where
  traceId : String
  tenantId : String
  correlationId : String
  causationId : Option String := none
  incidentId : Option String := none
  taskId : Option String := none
  actionId : Option String := none
  contractsVersion : String := "1.1.0"
  candidateSha : String
  spans : List SpanRecord
  emittedAt : DateTime
  spans_ne : spans ≠ [] := by simp

/-! ### What is allowed -/

def stagePrefixOf : TraceStage → String
  | .api => "api."
  | .stateTransition => "state."
  | .checkpoint => "checkpoint."
  | .model => "model."
  | .tool => "tool."
  | .policy => "policy."
  | .action => "action."
  | .export => "export."

def isLowerAlnum (c : Char) : Bool := ('a' ≤ c && c ≤ 'z') || ('0' ≤ c && c ≤ '9')

def isSeparator (c : Char) : Bool := c = '.' || c = '_' || c = '-'

/-- The names `[a-z][a-z0-9]*(?:[._-][a-z0-9]+){1,7}`. -/
def isSafeName (name : String) : Bool :=
  match name.toList.splitOnP isSeparator with
  | [] => false
  | first :: rest =>
    (match first with
      | [] => false
      | c :: cs => ('a' ≤ c && c ≤ 'z') && cs.all isLowerAlnum) &&
    rest.all (fun piece => !piece.isEmpty && piece.all isLowerAlnum) &&
      (1 ≤ rest.length && rest.length ≤ 7)

def allowedAttributes : List String :=
  ["db.operation", "error.type", "event.type", "http.request.method", "http.response.status_code",
    "http.route", "messaging.destination.template", "messaging.operation", "model.family",
    "model.route", "model.snapshot", "outcome", "retry.attempt", "sequence", "state.from",
    "state.to"]

def deniedKeyParts : List String :=
  ["authorization", "chain_of_thought", "cookie", "credential", "email", "hidden_reasoning", "host",
    "internal_monologue", "ip", "password", "private_reasoning", "prompt", "reasoning_content",
    "secret", "server", "token", "user"]

/-- A letter or digit of ASCII, in either case. -/
def isAlnum (c : Char) : Bool := c.isAlphanum || ['i', 's', 'k'].any fun x => foldsTo x c

def isLetterOf (c : Char) : Bool := c.isAlpha || ['i', 's', 'k'].any fun x => foldsTo x c

def oneOf (cs : List Char) (c : Char) : Bool := cs.contains c

/-- The patterns of sensitive values; `isDigit` tells the digits of all scripts. -/
def sensitiveValuePatterns (isDigit : Char → Bool) : List Pattern :=
  let group : Pattern := .all [.one isDigit, .maybe isDigit, .maybe isDigit]
  [.all [.boundary, .word foldsTo "bearer", .many 1 (isBlank false),
      .many 8 fun c => isAlnum c || oneOf ['.', '_', '~', '+', '/', '=', '-'] c],
    .all [.word foldsTo "-----begin ", .many 1 fun c => isLetterOf c || c = ' ',
      .word foldsTo "private key-----"],
    .all [.boundary, .alt (.word foldsTo "sk") (.alt (.word foldsTo "lsv2") (.word foldsTo "api")),
      .one (oneOf ['_', '-']), .many 12 fun c => isAlnum c || oneOf ['_', '-'] c],
    .all [.boundary, .many 1 fun c => isAlnum c || oneOf ['.', '_', '%', '+', '-'] c,
      .one (oneOf ['@']), .many 1 fun c => isAlnum c || oneOf ['.', '-'] c, .one (oneOf ['.']),
      .many 2 isLetterOf, .boundary],
    .all [.notBefore isAlnum, group, .one (oneOf ['.']), group, .one (oneOf ['.']), group,
      .one (oneOf ['.']), group, .notAfter isAlnum],
    .all [.word foldsTo "fw_",
      .alt (.word foldsTo "secret")
        (.alt (.word foldsTo "pii") (.word foldsTo "private_reasoning")),
      .word foldsTo "_canary"]]

/-! ### The parameters -/

/-- HMAC-SHA-256 under the reference key. -/
structure Hmac where
  digest : String → List UInt8
  digest_length : ∀ text, (digest text).length = 32

/-- The tables of Unicode that the sanitizer reads. -/
structure Unicode where
  isLetter : Char → Bool
  isDigit : Char → Bool
  casefold : String → String
  /-- Lower-case texts of ASCII stay as they are. -/
  casefold_lower : ∀ s, s.toList.all (fun c => c.toNat < 128 && !c.isUpper) = true → casefold s = s

structure TraceSanitizer where
  hmac : Hmac
  sha256 : String → String
  unicode : Unicode

/-- The digits `\d` of a text. -/
def Unicode.isDecimal (u : Unicode) (c : Char) : Bool := if c.toNat < 128 then c.isDigit else u.isDigit c

inductive SanitizerError
  | duplicateSpan
  | rootCount
  | unfinishedSpan
  | unknownParent
  | cycle
  | nameOutside
  | attributeOutside
  | notBounded
  | sensitive
  /-- The parent of a parent is no span of the trace. -/
  | keyError
  /-- There is no root; there always is. -/
  | stopIteration
  /-- A span has not ended; it always has. -/
  | attributeError
  /-- An integer with more digits than `str` prints. -/
  | unprintable
  /-- The walk up the parents was cut off; it never is. -/
  | exhausted
deriving DecidableEq

/-! ### The graph -/

/-- The parent of the span with an identifier; `none` if there is no such span. -/
def parentOf (spans : List SpanRecord) (spanId : String) : Option (Option String) :=
  (spans.find? fun span => span.spanId = spanId).map SpanRecord.parentSpanId

/-- The loop that walks up the parents. -/
def climb (spans : List SpanRecord) : ℕ → List String → Option String → Except SanitizerError Unit
  | _, _, none => .ok ()
  | 0, _, some _ => .error .exhausted
  | fuel + 1, visited, some parent =>
    if parent ∈ visited then .error .cycle
    else
      match parentOf spans parent with
      | none => .error .keyError
      | some next => climb spans fuel (parent :: visited) next

def checkSpan (spans : List SpanRecord) (span : SpanRecord) : Except SanitizerError Unit :=
  if span.endedAt = none then .error .unfinishedSpan
  else if ∃ parent ∈ span.parentSpanId, parent ∉ spans.map SpanRecord.spanId then
    .error .unknownParent
  else climb spans spans.length [span.spanId] span.parentSpanId

def validateGraph (spans : List SpanRecord) : Except SanitizerError Unit :=
  if ¬ (spans.map SpanRecord.spanId).Nodup then .error .duplicateSpan
  else if (spans.filter fun span => span.parentSpanId = none).length ≠ 1 then .error .rootCount
  else spans.forM (checkSpan spans)

/-- The parent of a span in a graph. -/
def parentIn (spans : List SpanRecord) (spanId : String) : Option String :=
  (parentOf spans spanId).join

/-- The list of spans holds the parent of each. -/
def ParentsInside (spans : List SpanRecord) : Prop :=
  ∀ span ∈ spans, ∀ parent ∈ span.parentSpanId, parent ∈ spans.map SpanRecord.spanId

variable {spans : List SpanRecord} {span : SpanRecord} {parent : Option String}
  {visited : List String}

theorem parentOf_of_mem (hids : (spans.map SpanRecord.spanId).Nodup) (h : span ∈ spans) :
    parentOf spans span.spanId = some span.parentSpanId := by
  induction spans with
  | nil => cases h
  | cons first spans ih =>
    rw [List.map_cons, List.nodup_cons] at hids
    rw [parentOf, List.find?_cons]
    rcases List.mem_cons.1 h with rfl | h
    · simp
    · have hne : first.spanId ≠ span.spanId := by
        intro heq
        exact hids.1 (heq ▸ List.mem_map_of_mem h)
      simp only [hne, decide_false]
      exact ih hids.2 h

theorem parentIn_of_mem (hids : (spans.map SpanRecord.spanId).Nodup) (h : span ∈ spans) :
    parentIn spans span.spanId = span.parentSpanId := by
  rw [parentIn, parentOf_of_mem hids h, Option.join_some]

theorem mem_of_parentOf {spanId : String} (h : parentOf spans spanId = some parent) :
    spanId ∈ spans.map SpanRecord.spanId := by
  obtain ⟨span, hfind, -⟩ := Option.map_eq_some_iff.1 h
  have hid : span.spanId = spanId := by simpa using List.find?_some hfind
  exact List.mem_map.2 ⟨span, List.mem_of_find?_eq_some hfind, hid⟩

/-- A walk that ends has followed the way to the root. -/
theorem way_of_climb {fuel : ℕ} {parent : String}
    (h : climb spans fuel visited (some parent) = .ok ()) :
    ∃ way, ParentForests.Way (parentIn spans) parent way := by
  induction fuel generalizing visited parent with
  | zero => cases h
  | succ fuel ih =>
    rw [climb] at h
    split at h
    · cases h
    cases hparent : parentOf spans parent with
    | none =>
      rw [hparent] at h
      cases h
    | some next =>
      rw [hparent] at h
      have hnext : parentIn spans parent = next := by rw [parentIn, hparent, Option.join_some]
      cases next with
      | none => exact ⟨_, .root hnext⟩
      | some p =>
        obtain ⟨way, hway⟩ := ih h
        exact ⟨_, .child hnext hway⟩

/-- The walk ends before the fuel does, for it visits every span at most once. -/
theorem climb_ne_exhausted {fuel : ℕ} (hnodup : visited.Nodup)
    (hvisited : visited ⊆ spans.map SpanRecord.spanId)
    (hfuel : spans.length < fuel + visited.length) :
    climb spans fuel visited parent ≠ .error .exhausted := by
  induction fuel generalizing visited parent with
  | zero =>
    have hle := (List.subperm_of_subset hnodup hvisited).length_le
    rw [List.length_map] at hle
    omega
  | succ fuel ih =>
    cases parent with
    | none => simp [climb]
    | some p =>
      rw [climb]
      split
      · simp
      rename_i hnew
      cases hnext : parentOf spans p with
      | none => simp
      | some next =>
        refine ih (List.nodup_cons.2 ⟨hnew, hnodup⟩) ?_ ?_
        · exact List.cons_subset.2 ⟨mem_of_parentOf hnext, hvisited⟩
        · rw [List.length_cons]
          omega

/-- What the check of the graph establishes. -/
structure ValidGraph (spans : List SpanRecord) : Prop where
  nodup : (spans.map SpanRecord.spanId).Nodup
  root : ∃ root, spans.filter (fun span => span.parentSpanId = none) = [root]
  ended : ∀ span ∈ spans, span.endedAt ≠ none
  inside : ParentsInside spans
  way : ∀ span ∈ spans, ∃ way, ParentForests.Way (parentIn spans) span.spanId way

theorem ValidGraph.exists_root (hgraph : ValidGraph spans) :
    ∃ root, spans.find? (fun span => span.parentSpanId = none) = some root := by
  obtain ⟨root, hroot⟩ := hgraph.root
  have hmem : root ∈ spans.filter fun span => span.parentSpanId = none := by
    rw [hroot]
    exact List.mem_singleton_self _
  obtain ⟨hmem, hparent⟩ := List.mem_filter.1 hmem
  refine Option.ne_none_iff_exists'.1 fun hnone => ?_
  exact List.find?_eq_none.1 hnone root hmem hparent

/-- **A graph that is accepted is a tree of completed spans.** -/
theorem validGraph_of_validateGraph (h : validateGraph spans = .ok ()) : ValidGraph spans := by
  rw [validateGraph] at h
  split at h
  · cases h
  rename_i hids
  split at h
  · cases h
  rename_i hroot
  have hnodup := not_not.1 hids
  have hchecked := forM_eq_ok.1 h
  have hsteps : ∀ span ∈ spans, span.endedAt ≠ none ∧
      (∀ parent ∈ span.parentSpanId, parent ∈ spans.map SpanRecord.spanId) ∧
      climb spans spans.length [span.spanId] span.parentSpanId = .ok () := by
    intro span hspan
    have hspan := hchecked span hspan
    rw [checkSpan] at hspan
    split at hspan
    · cases hspan
    split at hspan
    · cases hspan
    rename_i hended hparent
    refine ⟨hended, ?_, hspan⟩
    intro parent hmem
    by_contra hnot
    exact hparent ⟨parent, hmem, hnot⟩
  refine ⟨hnodup, List.length_eq_one_iff.1 (not_not.1 hroot), fun span hspan => (hsteps span hspan).1,
    fun span hspan => (hsteps span hspan).2.1, ?_⟩
  intro span hspan
  have hclimb := (hsteps span hspan).2.2
  have hparent := parentIn_of_mem hnodup hspan
  cases hp : span.parentSpanId with
  | none => exact ⟨_, .root (hparent.trans hp)⟩
  | some p =>
    rw [hp] at hclimb
    obtain ⟨way, hway⟩ := way_of_climb hclimb
    exact ⟨_, .child (hparent.trans hp) hway⟩

theorem climb_from_ne_exhausted (hspan : span ∈ spans) :
    climb spans spans.length [span.spanId] span.parentSpanId ≠ .error .exhausted := by
  refine climb_ne_exhausted (List.nodup_singleton _) ?_ ?_
  · exact List.cons_subset.2 ⟨List.mem_map_of_mem hspan, List.nil_subset _⟩
  · rw [List.length_singleton]
    omega

theorem validateGraph_ne_exhausted (spans : List SpanRecord) :
    validateGraph spans ≠ .error .exhausted := by
  intro h
  rw [validateGraph] at h
  split at h
  · cases h
  split at h
  · cases h
  obtain ⟨span, hspan, herr⟩ := forM_eq_error h
  rw [checkSpan] at herr
  split at herr
  · cases herr
  split at herr
  · cases herr
  exact climb_from_ne_exhausted hspan herr

/-! ### Names and attributes -/

variable (s : TraceSanitizer)

/-- Some pattern of sensitive values matches. -/
def TraceSanitizer.isSensitive (value : String) : Bool :=
  (sensitiveValuePatterns s.unicode.isDecimal).any fun p => p.search s.unicode.isLetter value

def TraceSanitizer.scanValue (value : String) : Except SanitizerError Unit :=
  if s.isSensitive value then .error .sensitive else .ok ()

def TraceSanitizer.sanitizeName (name : String) (stage : TraceStage) : Except SanitizerError String := do
  if ¬ (isSafeName name = true ∧ (stagePrefixOf stage).toList <+: name.toList) then
    throw .nameOutside
  s.scanValue name
  return name

/-- The text of a scalar, as `str` prints it. -/
def scalarText : Scalar → Option String
  | .str text => some text
  | .int n => if (Nat.toDigits 10 n.natAbs).length ≤ 4300 then some (toString n) else none
  | .float text =>
    some (if text.1 = "NaN" then "nan" else if text.1 = "Infinity" then "inf"
      else if text.1 = "-Infinity" then "-inf" else text.1)
  | .bool b => some (if b then "True" else "False")

/-- The key with its case folded and its hyphens replaced. -/
def TraceSanitizer.normalized (key : String) : List Char :=
  (s.unicode.casefold key).toList.map fun c => if c = '-' then '_' else c

/-- Whether a value is a text of more than 256 characters. -/
def tooLong : Scalar → Bool
  | .str text => 256 < text.length
  | _ => false

def TraceSanitizer.sanitizeAttribute (entry : String × AttributeValue) :
    Except SanitizerError (String × Scalar) := do
  if entry.1 ∉ allowedAttributes ∨
      ∃ part ∈ deniedKeyParts, part.toList <:+: s.normalized entry.1 then
    throw .attributeOutside
  match entry.2 with
  | .other => throw .notBounded
  | .scalar v =>
    if tooLong v then throw .notBounded
    match scalarText v with
    | none => throw .unprintable
    | some text =>
      s.scanValue text
      return (entry.1, v)

/-- The names that the taxonomy of the stages allows. -/
def TraceSanitizer.FitsName (name : String) (stage : TraceStage) : Prop :=
  isSafeName name = true ∧ (stagePrefixOf stage).toList <+: name.toList ∧ s.isSensitive name = false

/-- The values that may leave: scalars whose text is bounded and holds nothing sensitive. -/
def TraceSanitizer.FitsValue (v : Scalar) : Prop :=
  tooLong v = false ∧ ∃ text, scalarText v = some text ∧ s.isSensitive text = false

def TraceSanitizer.FitsAttribute (entry : String × AttributeValue) : Prop :=
  entry.1 ∈ allowedAttributes ∧ ∃ v, entry.2 = .scalar v ∧ s.FitsValue v

theorem TraceSanitizer.scanValue_eq_ok {value : String} {u : Unit} :
    s.scanValue value = .ok u ↔ s.isSensitive value = false := by
  rw [TraceSanitizer.scanValue]
  split <;> simp_all

theorem TraceSanitizer.sanitizeName_eq_ok {name result : String} {stage : TraceStage} :
    s.sanitizeName name stage = .ok result ↔ s.FitsName name stage ∧ result = name := by
  rw [TraceSanitizer.sanitizeName, check_eq_ok]
  constructor
  · rintro ⟨hsafe, h⟩
    obtain ⟨u, hscan, h⟩ := bind_eq_ok.1 h
    have hfits := not_not.1 hsafe
    cases h
    exact ⟨⟨hfits.1, hfits.2, s.scanValue_eq_ok.1 hscan⟩, rfl⟩
  · rintro ⟨⟨hsafe, hstart, hscan⟩, rfl⟩
    exact ⟨not_not.2 ⟨hsafe, hstart⟩, bind_eq_ok.2 ⟨(), s.scanValue_eq_ok.2 hscan, rfl⟩⟩

theorem lower_of_allowed : ∀ key ∈ allowedAttributes,
    key.toList.all (fun c => c.toNat < 128 && !c.isUpper) = true := by
  decide +kernel

theorem not_denied_of_allowed : ∀ key ∈ allowedAttributes,
    ¬ ∃ part ∈ deniedKeyParts, part.toList <:+: key.toList.map fun c => if c = '-' then '_' else c := by
  decide +kernel

theorem TraceSanitizer.not_denied {key : String} (h : key ∈ allowedAttributes) :
    ¬ ∃ part ∈ deniedKeyParts, part.toList <:+: s.normalized key := by
  rw [TraceSanitizer.normalized, s.unicode.casefold_lower key (lower_of_allowed key h)]
  exact not_denied_of_allowed key h

theorem TraceSanitizer.sanitizeAttribute_eq_ok {entry : String × AttributeValue}
    {result : String × Scalar} : s.sanitizeAttribute entry = .ok result ↔
      s.FitsAttribute entry ∧ (result.1, AttributeValue.scalar result.2) = entry := by
  obtain ⟨key, value⟩ := entry
  rw [TraceSanitizer.sanitizeAttribute, check_eq_ok]
  constructor
  · rintro ⟨hkey, h⟩
    have hallowed : key ∈ allowedAttributes := by
      by_contra hnot
      exact hkey (Or.inl hnot)
    cases value with
    | other => cases h
    | scalar v =>
      obtain ⟨hshort, h⟩ := check_eq_ok.1 h
      cases htext : scalarText v with
      | none => simp [htext, throw, throwThe, MonadExceptOf.throw] at h
      | some text =>
        rw [htext] at h
        obtain ⟨u, hscan, h⟩ := bind_eq_ok.1 h
        cases h
        exact ⟨⟨hallowed, v, rfl, by simpa using hshort, text, htext,
          s.scanValue_eq_ok.1 hscan⟩, rfl⟩
  · rintro ⟨⟨hallowed, v, hv, hshort, text, htext, hscan⟩, heq⟩
    cases hv
    cases heq
    refine ⟨?_, check_eq_ok.2 ⟨by simpa using hshort, ?_⟩⟩
    · rintro (hnot | hdenied)
      · exact hnot hallowed
      · exact s.not_denied hallowed hdenied
    · rw [htext]
      exact bind_eq_ok.2 ⟨(), s.scanValue_eq_ok.2 hscan, rfl⟩

/-! ### All attributes of a span -/

theorem pairwise_sorted {entries : List (String × Scalar)} (h : (entries.map Prod.fst).Nodup) :
    ((entries.insertionSort fun a b => a.1 ≤ b.1).map Prod.fst).Pairwise (· < ·) := by
  have hsorted := List.pairwise_insertionSort (fun a b : String × Scalar => a.1 ≤ b.1) entries
  have hperm := List.perm_insertionSort (fun a b : String × Scalar => a.1 ≤ b.1) entries
  have hnodup := (hperm.map Prod.fst).nodup_iff.2 h
  rw [List.Nodup, List.pairwise_map] at hnodup
  rw [List.pairwise_map]
  refine (hsorted.and hnodup).imp ?_
  intro a b hab
  exact Std.lt_of_le_of_ne hab.1 hab.2

/-- Sorting entries by their keys. -/
def sortAttributes (entries : List (String × Scalar)) (h : (entries.map Prod.fst).Nodup) :
    Attributes := ⟨entries.insertionSort fun a b => a.1 ≤ b.1, pairwise_sorted h⟩

variable {entries : List (String × AttributeValue)} {results : List (String × Scalar)}

theorem TraceSanitizer.of_mapM_sanitizeAttribute
    (h : entries.mapM s.sanitizeAttribute = .ok results) :
    results.map (fun r => (r.1, AttributeValue.scalar r.2)) = entries := by
  induction mapM_eq_ok.1 h with
  | nil => rfl
  | cons hentry hrest ih =>
    rw [List.map_cons, ih (mapM_eq_ok.2 hrest), (s.sanitizeAttribute_eq_ok.1 hentry).2]

theorem TraceSanitizer.keys_mapM_sanitizeAttribute
    (h : entries.mapM s.sanitizeAttribute = .ok results) :
    results.map Prod.fst = entries.map Prod.fst := by
  rw [← s.of_mapM_sanitizeAttribute h, List.map_map]
  rfl

def TraceSanitizer.sanitizeAttributes (span : SpanRecord) : Except SanitizerError Attributes :=
  match h : span.attributes.mapM s.sanitizeAttribute with
  | .error err => .error err
  | .ok results =>
    .ok (sortAttributes results (by
      rw [s.keys_mapM_sanitizeAttribute h]
      exact span.attributes_nodup))

/-- The attributes are refused, or they are those of the span in the order of their keys. -/
theorem TraceSanitizer.sanitizeAttributes_cases (span : SpanRecord) :
    ((∃ err, s.sanitizeAttributes span = .error err) ∧
        ¬ ∀ entry ∈ span.attributes, s.FitsAttribute entry) ∨
      (∀ entry ∈ span.attributes, s.FitsAttribute entry) ∧
        ∃ a, s.sanitizeAttributes span = .ok a ∧
          (a.entries.map fun e => (e.1, AttributeValue.scalar e.2)).Perm span.attributes := by
  rw [TraceSanitizer.sanitizeAttributes]
  split
  · rename_i err h
    refine Or.inl ⟨⟨err, rfl⟩, ?_⟩
    intro hfits
    have hok : ∃ results, span.attributes.mapM s.sanitizeAttribute = .ok results := by
      refine exists_mapM_eq_ok ?_
      intro entry hentry
      obtain ⟨hallowed, v, hv, hvalue⟩ := hfits entry hentry
      refine ⟨(entry.1, v), s.sanitizeAttribute_eq_ok.2 ⟨⟨hallowed, v, hv, hvalue⟩, ?_⟩⟩
      rw [← hv]
    obtain ⟨results, hok⟩ := hok
    rw [h] at hok
    cases hok
  · rename_i results h
    refine Or.inr ⟨?_, _, rfl, ?_⟩
    · intro entry hentry
      obtain ⟨result, hresult⟩ := mem_of_mapM_eq_ok h hentry
      exact (s.sanitizeAttribute_eq_ok.1 hresult).1
    · have hperm := (List.perm_insertionSort (fun a b : String × Scalar => a.1 ≤ b.1) results).map
        fun e => (e.1, AttributeValue.scalar e.2)
      rw [s.of_mapM_sanitizeAttribute h] at hperm
      exact hperm

/-! ### References -/

/-- The lower-case hexadecimal digits of bytes. -/
def hexdigest (bytes : List UInt8) : List Char :=
  bytes.flatMap fun b => [Nat.digitChar (b.toNat / 16), Nat.digitChar (b.toNat % 16)]

/-- The HMAC of a value of a kind. -/
def TraceSanitizer.mac (kind value : String) : List UInt8 := s.hmac.digest (kind ++ ":" ++ value)

def TraceSanitizer.ref (kind value : String) (length : ℕ) : String :=
  String.ofList ((hexdigest (s.mac kind value)).take length)

def TraceSanitizer.optionalRef (kind : String) (value : Option String) : Option String :=
  value.map fun value => s.ref kind value 24

/-- The dashed form of sixteen bytes. -/
def uuidText (raw : List UInt8) : List Char :=
  let hex := hexdigest raw
  hex.take 8 ++ '-' :: ((hex.drop 8).take 4 ++ '-' :: ((hex.drop 12).take 4 ++
    '-' :: ((hex.drop 16).take 4 ++ '-' :: (hex.drop 20).take 12)))

/-- The first sixteen bytes with the bits of the version and the variant set. -/
def uuidBytes (digest : List UInt8) : List UInt8 :=
  ((digest.take 16).modify 6 fun b => (b &&& 0x0f) ||| 0x50).modify 8 fun b => (b &&& 0x3f) ||| 0x80

def TraceSanitizer.uuid (kind value : String) : String :=
  String.ofList (uuidText (uuidBytes (s.mac kind value)))

theorem length_hexdigest (bytes : List UInt8) : (hexdigest bytes).length = 2 * bytes.length := by
  induction bytes with
  | nil => rfl
  | cons b bytes ih =>
    rw [hexdigest, List.flatMap_cons, List.length_append, List.length_cons]
    rw [hexdigest] at ih
    rw [ih]
    simp only [List.length_cons, List.length_nil]
    omega

theorem dot_ne_digitChar : ∀ d < 16, Nat.digitChar d ≠ '.' := by decide

theorem dot_notMem_hexdigest (bytes : List UInt8) : '.' ∉ hexdigest bytes := by
  intro h
  obtain ⟨b, -, hb⟩ := List.mem_flatMap.1 h
  have hlt : b.toNat < 256 := b.toNat_lt
  have hhigh := dot_ne_digitChar (b.toNat / 16) (by omega)
  have hlow := dot_ne_digitChar (b.toNat % 16) (by omega)
  rcases List.mem_cons.1 hb with hb | hb
  · exact hhigh hb.symm
  · exact hlow (List.mem_singleton.1 hb).symm

theorem TraceSanitizer.length_uuid (kind value : String) : (s.uuid kind value).toList.length = 36 := by
  have hraw : (uuidBytes (s.mac kind value)).length = 16 := by
    simp [uuidBytes, TraceSanitizer.mac, s.hmac.digest_length]
  have hhex := length_hexdigest (uuidBytes (s.mac kind value))
  rw [TraceSanitizer.uuid, String.toList_ofList, uuidText]
  simp only [List.length_append, List.length_cons, List.length_take, List.length_drop, hhex, hraw]
  rfl

theorem TraceSanitizer.dot_notMem_uuid (kind value : String) : '.' ∉ (s.uuid kind value).toList := by
  have hhex := dot_notMem_hexdigest (uuidBytes (s.mac kind value))
  have htake : ∀ i n, '.' ∉ ((hexdigest (uuidBytes (s.mac kind value))).drop i).take n := by
    intro i n hmem
    exact hhex (List.mem_of_mem_drop (List.mem_of_mem_take hmem))
  have hfirst := htake 0
  rw [List.drop_zero] at hfirst
  rw [TraceSanitizer.uuid, String.toList_ofList, uuidText]
  simp [htake, hfirst]

/-! ### Sanitizing -/

def TraceSanitizer.spanRefs (spans : List SpanRecord) : List (String × String) :=
  spans.map fun span => (span.spanId, s.ref "span" span.spanId 24)

def TraceSanitizer.sanitizeSpan (spanRefs : List (String × String)) (span : SpanRecord) :
    Except SanitizerError SanitizedSpan :=
  match spanRefs.lookup span.spanId with
  | none => .error .keyError
  | some spanRef => do
    let name ← s.sanitizeName span.name span.stage
    match span.endedAt with
    | none => throw .attributeError
    | some endedAt =>
      let attributes ← s.sanitizeAttributes span
      return { spanRef
               remoteId := s.uuid "langsmith-span" span.spanId
               otlpSpanId := s.ref "otlp-span" span.spanId 16
               parentSpanRef := span.parentSpanId.bind fun parent => spanRefs.lookup parent
               name
               stage := span.stage.value
               startedAt := span.startedAt.isoformat
               endedAt := endedAt.isoformat
               status := span.status.value
               attributes }

/-- The order of the spans: by their start, then by their identifier. -/
def SpanRecord.le (a b : SpanRecord) : Prop :=
  a.startedAt.key < b.startedAt.key ∨ a.startedAt.key = b.startedAt.key ∧ a.spanId ≤ b.spanId

instance : DecidableRel SpanRecord.le := fun _ _ => inferInstanceAs (Decidable (_ ∨ _ ∧ _))

def sortSpans (spans : List SpanRecord) : List SpanRecord := spans.insertionSort SpanRecord.le

/-- The trace of an envelope with given spans and a digest. -/
def TraceSanitizer.trace (envelope : TraceEnvelope) (root : SpanRecord) (spans : List SanitizedSpan)
    (payloadDigest : String) : SanitizedTrace where
  schemaVersion := "1.0.0"
  traceRef := s.ref "trace" envelope.traceId 24
  remoteTraceId := s.uuid "langsmith-trace" root.spanId
  otlpTraceId := s.ref "otlp-trace" envelope.traceId 32
  tenantRef := s.ref "tenant" envelope.tenantId 24
  correlationRef := s.ref "correlation" envelope.correlationId 24
  causationRef := s.optionalRef "causation" envelope.causationId
  incidentRef := s.optionalRef "incident" envelope.incidentId
  taskRef := s.optionalRef "task" envelope.taskId
  actionRef := s.optionalRef "action" envelope.actionId
  contractsVersion := envelope.contractsVersion
  candidateSha := envelope.candidateSha
  emittedAt := envelope.emittedAt.isoformat
  spans := spans
  payloadDigest := payloadDigest

/-- The document that is hashed. -/
def TraceSanitizer.values (envelope : TraceEnvelope) (root : SpanRecord)
    (spans : List SanitizedSpan) : Json :=
  .obj [("schema_version", .str "1.0.0"),
    ("trace_ref", .str (s.ref "trace" envelope.traceId 24)),
    ("remote_trace_id", .str (s.uuid "langsmith-trace" root.spanId)),
    ("otlp_trace_id", .str (s.ref "otlp-trace" envelope.traceId 32)),
    ("tenant_ref", .str (s.ref "tenant" envelope.tenantId 24)),
    ("correlation_ref", .str (s.ref "correlation" envelope.correlationId 24)),
    ("causation_ref", Json.optStr (s.optionalRef "causation" envelope.causationId)),
    ("incident_ref", Json.optStr (s.optionalRef "incident" envelope.incidentId)),
    ("task_ref", Json.optStr (s.optionalRef "task" envelope.taskId)),
    ("action_ref", Json.optStr (s.optionalRef "action" envelope.actionId)),
    ("contracts_version", .str envelope.contractsVersion),
    ("candidate_sha", .str envelope.candidateSha),
    ("emitted_at", .str envelope.emittedAt.isoformat),
    ("spans", .arr (spans.map SanitizedSpan.json))]

def TraceSanitizer.sanitize (envelope : TraceEnvelope) : Except SanitizerError SanitizedTrace := do
  validateGraph envelope.spans
  match envelope.spans.find? fun span => span.parentSpanId = none with
  | none => throw .stopIteration
  | some root =>
    let spans ← (sortSpans envelope.spans).mapM (s.sanitizeSpan (s.spanRefs envelope.spans))
    let values := s.values envelope root spans
    if ¬ values.sound then throw .unprintable
    return s.trace envelope root spans (s.sha256 values.dumps)

/-! ### What is accepted -/

/-- A span whose name and attributes are allowed. -/
def TraceSanitizer.FitsSpan (span : SpanRecord) : Prop :=
  s.FitsName span.name span.stage ∧ ∀ entry ∈ span.attributes, s.FitsAttribute entry

/-- What a span is turned into. -/
structure TraceSanitizer.Carries (span : SpanRecord) (out : SanitizedSpan) : Prop where
  spanRef : out.spanRef = s.ref "span" span.spanId 24
  remoteId : out.remoteId = s.uuid "langsmith-span" span.spanId
  otlpSpanId : out.otlpSpanId = s.ref "otlp-span" span.spanId 16
  parentSpanRef : out.parentSpanRef = span.parentSpanId.map fun parent => s.ref "span" parent 24
  name : out.name = span.name
  stage : out.stage = span.stage.value
  startedAt : out.startedAt = span.startedAt.isoformat
  endedAt : span.endedAt.map DateTime.isoformat = some out.endedAt
  status : out.status = span.status.value
  attributes : (out.attributes.entries.map fun e => (e.1, AttributeValue.scalar e.2)).Perm
    span.attributes

theorem TraceSanitizer.lookup_spanRefs {spanId : String}
    (h : spanId ∈ spans.map SpanRecord.spanId) :
    (s.spanRefs spans).lookup spanId = some (s.ref "span" spanId 24) := by
  induction spans with
  | nil => cases h
  | cons span spans ih =>
    rw [TraceSanitizer.spanRefs, List.map_cons, List.lookup_cons]
    by_cases heq : spanId = span.spanId
    · rw [heq, beq_self_eq_true]
    · have hne : (spanId == span.spanId) = false := by simpa using heq
      rw [hne]
      refine ih ?_
      rcases List.mem_cons.1 h with h | h
      · exact absurd h heq
      · exact h

/-- A span of a tree is refused, or it is carried over. -/
theorem TraceSanitizer.sanitizeSpan_cases (hgraph : ValidGraph spans) (hspan : span ∈ spans) :
    ((∃ err, s.sanitizeSpan (s.spanRefs spans) span = .error err) ∧ ¬ s.FitsSpan span) ∨
      s.FitsSpan span ∧
        ∃ out, s.sanitizeSpan (s.spanRefs spans) span = .ok out ∧ s.Carries span out := by
  have href := s.lookup_spanRefs (List.mem_map_of_mem (f := SpanRecord.spanId) hspan)
  have hparent : (span.parentSpanId.bind fun parent => (s.spanRefs spans).lookup parent) =
      span.parentSpanId.map fun parent => s.ref "span" parent 24 := by
    cases hp : span.parentSpanId with
    | none => rfl
    | some parent => exact s.lookup_spanRefs (hgraph.inside span hspan parent hp)
  obtain ⟨endedAt, hended⟩ := Option.ne_none_iff_exists'.1 (hgraph.ended span hspan)
  rw [TraceSanitizer.sanitizeSpan, href, hparent, hended]
  cases hname : s.sanitizeName span.name span.stage with
  | error err =>
    refine Or.inl ⟨⟨err, rfl⟩, ?_⟩
    intro hfits
    rw [s.sanitizeName_eq_ok.2 ⟨hfits.1, rfl⟩] at hname
    cases hname
  | ok name =>
    obtain ⟨hfits, hsame⟩ := s.sanitizeName_eq_ok.1 hname
    rcases s.sanitizeAttributes_cases span with ⟨⟨err, herr⟩, hnot⟩ | ⟨hall, a, ha, hperm⟩
    · refine Or.inl ⟨⟨err, ?_⟩, fun h => hnot h.2⟩
      rw [herr]
      rfl
    · let out : SanitizedSpan :=
        { spanRef := s.ref "span" span.spanId 24
          remoteId := s.uuid "langsmith-span" span.spanId
          otlpSpanId := s.ref "otlp-span" span.spanId 16
          parentSpanRef := span.parentSpanId.map fun parent => s.ref "span" parent 24
          name
          stage := span.stage.value
          startedAt := span.startedAt.isoformat
          endedAt := endedAt.isoformat
          status := span.status.value
          attributes := a }
      refine Or.inr ⟨⟨hfits, hall⟩, out, ?_, ?_⟩
      · rw [ha]
        rfl
      · exact ⟨rfl, rfl, rfl, rfl, hsame, rfl, rfl, by rw [hended]; rfl, rfl, hperm⟩

theorem mem_sortSpans :
    span ∈ sortSpans spans ↔ span ∈ spans := (List.perm_insertionSort _ spans).mem_iff

theorem TraceSanitizer.FitsValue.sound {s : TraceSanitizer} {v : Scalar} (h : s.FitsValue v) :
    v.json.sound = true := by
  obtain ⟨-, text, htext, -⟩ := h
  cases v with
  | int n =>
    rw [scalarText] at htext
    split at htext
    · rename_i hdigits
      simpa [Scalar.json, Json.sound] using hdigits
    · cases htext
  | float text => exact text.2
  | str text => rfl
  | bool b => rfl

theorem TraceSanitizer.Carries.sound {s : TraceSanitizer} {out : SanitizedSpan}
    (hfits : s.FitsSpan span) (h : s.Carries span out) : out.json.sound = true := by
  have hentries : ∀ e ∈ out.attributes.entries, e.2.json.sound = true := by
    intro e he
    have hmem := h.attributes.mem_iff.1 (List.mem_map_of_mem he)
    obtain ⟨-, v, hv, hvalue⟩ := hfits.2 _ hmem
    cases hv
    exact hvalue.sound
  have hattributes : out.attributes.json.sound = true := by
    have hkeys : (out.attributes.entries.map fun e => (e.1, e.2.json)).map Prod.fst =
        out.attributes.entries.map Prod.fst := by
      rw [List.map_map]
      rfl
    rw [Attributes.json, Json.sound, hkeys, Bool.and_eq_true, decide_eq_true_eq, soundFields_iff]
    refine ⟨out.attributes.sorted.imp ?_, ?_⟩
    · intro a b hlt heq
      exact String.lt_irrefl b (heq ▸ hlt)
    intro f hf
    obtain ⟨e, he, rfl⟩ := List.mem_map.1 hf
    exact hentries e he
  have hopt : ∀ o : Option String, (Json.optStr o).sound = true := by
    intro o
    cases o <;> rfl
  simp [SanitizedSpan.json, Json.sound, Json.soundFields, hattributes, hopt]

theorem soundItems_iff (items : List Json) :
    Json.soundItems items = true ↔ ∀ j ∈ items, j.sound = true := by
  induction items with
  | nil => simp [Json.soundItems]
  | cons j items ih => simp [Json.soundItems, ih]

theorem TraceSanitizer.sound_values (envelope : TraceEnvelope) (root : SpanRecord)
    {spans : List SanitizedSpan} (h : ∀ out ∈ spans, out.json.sound = true) :
    (s.values envelope root spans).sound = true := by
  have hspans : Json.soundItems (spans.map SanitizedSpan.json) = true := by
    rw [soundItems_iff]
    intro j hj
    obtain ⟨out, hout, rfl⟩ := List.mem_map.1 hj
    exact h out hout
  have hopt : ∀ o : Option String, (Json.optStr o).sound = true := by
    intro o
    cases o <;> rfl
  simp [TraceSanitizer.values, Json.sound, Json.soundFields, hspans, hopt]

/-- What is known of a trace that has been sanitized. -/
structure TraceSanitizer.Sanitized (envelope : TraceEnvelope) (t : SanitizedTrace) : Prop where
  graph : ValidGraph envelope.spans
  fits : ∀ span ∈ envelope.spans, s.FitsSpan span
  spans : (sortSpans envelope.spans).mapM (s.sanitizeSpan (s.spanRefs envelope.spans)) = .ok t.spans
  trace : ∃ root, envelope.spans.find? (fun span => span.parentSpanId = none) = some root ∧
    t = s.trace envelope root t.spans (s.sha256 (s.values envelope root t.spans).dumps)
  sound : (t.document false).sound = true

variable {envelope : TraceEnvelope} {t : SanitizedTrace}

theorem TraceSanitizer.sanitized_of_eq_ok (h : s.sanitize envelope = .ok t) :
    s.Sanitized envelope t := by
  obtain ⟨u, hvalid, h⟩ := bind_eq_ok.1 h
  have hgraph := validGraph_of_validateGraph hvalid
  cases hroot : envelope.spans.find? fun span => span.parentSpanId = none with
  | none =>
    rw [hroot] at h
    cases h
  | some root =>
    rw [hroot] at h
    obtain ⟨spans, hspans, h⟩ := bind_eq_ok.1 h
    obtain ⟨hsound, h⟩ := check_eq_ok.1 h
    cases h
    refine ⟨hgraph, ?_, hspans, ⟨root, hroot, rfl⟩, not_not.1 hsound⟩
    intro span hspan
    obtain ⟨out, hout⟩ := mem_of_mapM_eq_ok hspans (mem_sortSpans.2 hspan)
    rcases s.sanitizeSpan_cases hgraph hspan with ⟨⟨err, herr⟩, -⟩ | ⟨hfits, -⟩
    · rw [hout] at herr
      cases herr
    · exact hfits

theorem TraceSanitizer.Sanitized.carries {s : TraceSanitizer} (h : s.Sanitized envelope t) :
    List.Forall₂ s.Carries (sortSpans envelope.spans) t.spans := by
  refine forall₂_of_mapM h.spans ?_
  intro span hspan out hout
  rcases s.sanitizeSpan_cases h.graph (mem_sortSpans.1 hspan) with
    ⟨⟨err, herr⟩, -⟩ | ⟨-, out', hout', hc⟩
  · rw [hout] at herr
    cases herr
  · rw [hout] at hout'
    cases hout'
    exact hc

/-- **A tree all of whose spans are allowed is accepted.** -/
theorem TraceSanitizer.exists_sanitize (hvalid : validateGraph envelope.spans = .ok ())
    (hfits : ∀ span ∈ envelope.spans, s.FitsSpan span) : ∃ t, s.sanitize envelope = .ok t := by
  have hgraph := validGraph_of_validateGraph hvalid
  obtain ⟨root, hfind⟩ := hgraph.exists_root
  have hout : ∀ span ∈ sortSpans envelope.spans,
      ∃ out, s.sanitizeSpan (s.spanRefs envelope.spans) span = .ok out := by
    intro span hspan
    have hspan := mem_sortSpans.1 hspan
    rcases s.sanitizeSpan_cases hgraph hspan with ⟨-, hnot⟩ | ⟨-, out, hout, -⟩
    · exact absurd (hfits span hspan) hnot
    · exact ⟨out, hout⟩
  obtain ⟨spans, hspans⟩ := exists_mapM_eq_ok hout
  have hsound : ∀ out ∈ spans, out.json.sound = true := by
    intro out hmem
    obtain ⟨span, hspan, hout⟩ := of_mem_mapM_eq_ok hspans hmem
    have hspan := mem_sortSpans.1 hspan
    rcases s.sanitizeSpan_cases hgraph hspan with ⟨⟨err, herr⟩, -⟩ | ⟨hspanFits, out', hout', hc⟩
    · rw [hout] at herr
      cases herr
    · rw [hout] at hout'
      cases hout'
      exact hc.sound hspanFits
  refine ⟨s.trace envelope root spans (s.sha256 (s.values envelope root spans).dumps), ?_⟩
  rw [TraceSanitizer.sanitize, hvalid]
  simp only [bind, Except.bind, hfind, hspans, s.sound_values envelope root hsound]
  rfl

/-! ### A sample -/

/-- The last characters of a text, in place of its HMAC. -/
def sampleHmac : Hmac where
  digest text := (text.toList.reverse.map (fun c : Char => c.toNat.toUInt8) ++ List.replicate 32 0).take 32
  digest_length text := by simp

def sampleUnicode : Unicode := ⟨Char.isAlpha, Char.isDigit, id, fun _ _ => rfl⟩

def sampleSanitizer : TraceSanitizer := ⟨sampleHmac, fun _ => sampleDigest, sampleUnicode⟩

def sampleInstant : DateTime := ⟨⟨2026, 1, 1, 0, 0, 0, 0⟩, by decide⟩

/-- The span at the root of the sample. -/
def sampleRoot : SpanRecord where
  spanId := "span_01K0000000000000000000000A"
  name := "api.request"
  stage := .api
  startedAt := sampleInstant
  endedAt := some sampleInstant

/-- The span below the root; it comes first among the spans. -/
def sampleChild : SpanRecord where
  spanId := "span_01K0000000000000000000000B"
  parentSpanId := some "span_01K0000000000000000000000A"
  name := "model.call"
  stage := .model
  startedAt := sampleInstant
  endedAt := some sampleInstant
  attributes := [("model.family", .scalar (.str "qwen")), ("retry.attempt", .scalar (.int 1))]

def sampleEnvelope : TraceEnvelope where
  traceId := "trace_01K0000000000000000000000A"
  tenantId := "ten_01K0000000000000000000000A"
  correlationId := "corr_01K0000000000000000000000A"
  candidateSha := "0123456789abcdef0123456789abcdef01234567"
  spans := [sampleChild, sampleRoot]
  emittedAt := sampleInstant

theorem validateGraph_sample : validateGraph sampleEnvelope.spans = .ok () := by decide +kernel

theorem fits_sample : ∀ span ∈ sampleEnvelope.spans, sampleSanitizer.FitsSpan span := by
  have hchild : sampleSanitizer.FitsSpan sampleChild := by
    refine ⟨by unfold TraceSanitizer.FitsName; decide +kernel, ?_⟩
    intro entry hentry
    rcases List.mem_cons.1 hentry with rfl | hentry
    · exact ⟨by decide, .str "qwen", rfl, rfl, "qwen", rfl, by decide +kernel⟩
    · rw [List.mem_singleton] at hentry
      subst hentry
      exact ⟨by decide, .int 1, rfl, rfl, "1", by decide +kernel, by decide +kernel⟩
  have hroot : sampleSanitizer.FitsSpan sampleRoot := by
    refine ⟨by unfold TraceSanitizer.FitsName; decide +kernel, ?_⟩
    intro entry hentry
    cases hentry
  intro span hspan
  rcases List.mem_cons.1 hspan with rfl | hspan
  · exact hchild
  · rw [List.mem_singleton.1 hspan]
    exact hroot

theorem exists_sanitize_sample : ∃ t, sampleSanitizer.sanitize sampleEnvelope = .ok t :=
  sampleSanitizer.exists_sanitize validateGraph_sample fits_sample

end Sanitizer
