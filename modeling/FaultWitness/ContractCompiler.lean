/-
**The contract compiler.**

The compiler turns the nine YAML sources of its manifest into one resource: a JSON text with the
canonical documents, the digest of each source, and a digest of all that.  Decoding the resource
computes the digest again and refuses what does not carry it.

The resource is a byte array, the UTF-8 of its text; decoding begins with the encoding that the first
bytes show, as `json.loads` does.  SHA-256 is a parameter.

Main definitions:

* `ContractCompiler.SOURCE_SPECS` — the manifest;
* `ContractCompiler.parseSource`, `ContractCompiler.compileSourceBytes` — the compiler;
* `ContractCompiler.decodeGeneratedResource` — the decoder;
* `ContractCompiler.Compiles` — what a source set is compiled to, without the order of the checks.

Main results:

* `ContractCompiler.compileSourceBytes_iff` — **what the compiler accepts and what it writes**;
* `ContractCompiler.decode_compiled` — **what was compiled is decoded**;
* `ContractCompiler.decode_iff` — **what is decoded carries the digest of its contents**;
* `ContractCompiler.compile_decode` — the round trip, and what follows from the digest.
-/

import FaultWitness.YamlDocuments

set_option autoImplicit false

namespace ContractCompiler

open Python

/-! ### The manifest -/

def CONTRACTS_VERSION : String := "1.1.0"

def RESOURCE_FORMAT_VERSION : String := "1.0.0"

structure SourceSpec where
  path : String
  requiredKeys : List String
  allowedKeys : List String
  identity : Option (String × String) := none

def machineKeys : List String :=
  ["schema_version", "id", "owner_component", "authoritative_store", "initial_state",
    "terminal_states", "states", "transitions", "invariants"]

/-- The entry of a state machine. -/
def stateMachine (name : String) : SourceSpec where
  path := "docs/contracts/state-machines/" ++ name ++ ".yaml"
  requiredKeys := machineKeys
  allowedKeys := machineKeys
  identity := some ("id", name)

def SOURCE_SPECS : List (String × SourceSpec) :=
  [("commands_events",
      { path := "docs/contracts/COMMAND_EVENT_CATALOG.yaml"
        requiredKeys := ["schema_version", "commands", "events"]
        allowedKeys := ["schema_version", "commands", "events"] }),
    ("types",
      { path := "docs/contracts/TYPE_CATALOG.yaml"
        requiredKeys := ["schema_version", "types"]
        allowedKeys := ["schema_version", "types"] }),
    ("failures",
      { path := "docs/contracts/FAILURE_SEMANTICS.yaml"
        requiredKeys := ["schema_version", "errors", "failures"]
        allowedKeys := ["schema_version", "errors", "failures"] }),
    ("state_machine.action_transaction", stateMachine "action_transaction"),
    ("state_machine.agent_graph", stateMachine "agent_graph"),
    ("state_machine.incident", stateMachine "incident"),
    ("state_machine.runtime_task", stateMachine "runtime_task"),
    ("openapi",
      { path := "docs/contracts/openapi.yaml"
        requiredKeys := ["openapi", "info", "security", "paths", "components"]
        allowedKeys := ["openapi", "info", "security", "paths", "components"]
        identity := some ("openapi", "3.1.0") }),
    ("asyncapi",
      { path := "docs/contracts/asyncapi.yaml"
        requiredKeys := ["asyncapi", "info", "defaultContentType", "channels", "operations", "components"]
        allowedKeys := ["asyncapi", "info", "defaultContentType", "channels", "operations", "components"]
        identity := some ("asyncapi", "3.0.0") })]

/-- The manifest in the order in which it is compiled. -/
def sortedSpecs : List (String × SourceSpec) := SOURCE_SPECS.insertionSort fun a b => a.1 ≤ b.1

/-- A source set: one payload for each name. -/
structure Sources where
  entries : List (String × ByteArray)
  distinct : (entries.map Prod.fst).Nodup

def Sources.names (s : Sources) : List String := s.entries.map Prod.fst

def Sources.get (s : Sources) (name : String) : Option ByteArray := s.entries.lookup name

/-! ### The compiler -/

variable (lib : Library) (sha256 : ByteArray → String)

/-- The text that stands under a key of a dictionary. -/
def textUnder (parsed : List (Scalar × Tree Scalar)) (key : String) : Option String :=
  match parsed.lookup (.str key) with
  | some (.scalar (.str s)) => some s
  | _ => none

/-- What `_parse_source` checks of the document before it is canonicalised. -/
def checkDocument (name : String) (spec : SourceSpec) (parsed : List (Scalar × Tree Scalar)) :
    Except Error Unit := do
  let keys := parsed.map Prod.fst
  let missing := spec.requiredKeys.filter fun key => .str key ∉ keys
  if missing ≠ [] then throw (.missingKeys spec.path (missing.insertionSort (· ≤ ·)))
  let unknown := keys.filter fun key => ∀ allowed ∈ spec.allowedKeys, key ≠ .str allowed
  if unknown ≠ [] then throw (.unknownKeys spec.path unknown)
  match spec.identity with
  | some (field, expected) =>
    if textUnder parsed field ≠ some expected then throw (.wrongIdentity spec.path field expected)
  | none => pure ()
  if name ∉ ["openapi", "asyncapi"] ∧
      ¬∃ version ∈ textUnder parsed "schema_version", version.toList.count '.' = 2 then
    throw (.malformedVersion spec.path)

/-- `_parse_source` for a name of the manifest and its entry. -/
def parseSource (name : String) (spec : SourceSpec) (raw : ByteArray) : Except Error Json :=
  match String.fromUTF8? raw with
  | none => .error (.notUtf8 spec.path)
  | some text =>
    match lib.compose text with
    | none => .error (.malformedYaml spec.path)
    | some node => do
      match ← construct lib node with
      | .mapping parsed =>
        checkDocument name spec parsed
        canonical lib spec.path (.mapping parsed)
      | _ => throw (.notMapping spec.path)

/-- `_json_bytes`. -/
def jsonBytes (value : Json) : Except Error ByteArray :=
  if value.sound then .ok (value.dumpsWith quoteRaw ++ "\n").toUTF8 else .error .unprintable

/-- What the resource says of a source. -/
def record (spec : SourceSpec) (digest : String) : Json :=
  .obj [("path", .str spec.path), ("sha256", .str digest)]

/-- One source of the manifest: its name, its document and its record. -/
def compileSource (sources : Sources) (p : String × SourceSpec) : Except Error (String × Json × Json) :=
  match sources.get p.1 with
  | none => .error (.missingSources [p.1])
  | some raw => do
    let document ← parseSource lib p.1 p.2 raw
    return (p.1, document, record p.2 (sha256 raw))

/-- What the digest of a resource is computed from. -/
def digestInput (contractsVersion documents formatVersion sources : Json) : Json :=
  .obj [("contracts_version", contractsVersion), ("documents", documents),
    ("format_version", formatVersion), ("sources", sources)]

/-- A resource with its digest. -/
def bundle (digest : String) (documents records : Json) : List (String × Json) :=
  [("artifact_sha256", .str digest), ("contracts_version", .str CONTRACTS_VERSION),
    ("documents", documents), ("format_version", .str RESOURCE_FORMAT_VERSION), ("sources", records)]

def compileSourceBytes (sources : Sources) : Except Error ByteArray := do
  let missing := (SOURCE_SPECS.map Prod.fst).filter (· ∉ sources.names)
  if missing ≠ [] then throw (.missingSources (missing.insertionSort (· ≤ ·)))
  let unknown := sources.names.filter (· ∉ SOURCE_SPECS.map Prod.fst)
  if unknown ≠ [] then throw (.unknownSources (unknown.insertionSort (· ≤ ·)))
  let compiled ← sortedSpecs.mapM (compileSource lib sha256 sources)
  let documents := Json.obj (compiled.map fun c => (c.1, c.2.1))
  let records := Json.obj (compiled.map fun c => (c.1, c.2.2))
  let input ← jsonBytes
    (digestInput (.str CONTRACTS_VERSION) documents (.str RESOURCE_FORMAT_VERSION) records)
  jsonBytes (.obj (bundle (sha256 input) documents records))

/-! ### The decoder -/

/-- `json.detect_encoding`. -/
def detectEncoding (b : List UInt8) : Encoding :=
  if [0x00, 0x00, 0xfe, 0xff].isPrefixOf b ∨ [0xff, 0xfe, 0x00, 0x00].isPrefixOf b then .utf32
  else if [0xfe, 0xff].isPrefixOf b ∨ [0xff, 0xfe].isPrefixOf b then .utf16
  else if [0xef, 0xbb, 0xbf].isPrefixOf b then .utf8sig
  else
    match b with
    | b₀ :: b₁ :: b₂ :: b₃ :: _ =>
      if b₀ = 0 then if b₁ ≠ 0 then .utf16be else .utf32be
      else if b₁ = 0 then if b₂ ≠ 0 ∨ b₃ ≠ 0 then .utf16le else .utf32le
      else .utf8
    | [b₀, b₁] => if b₀ = 0 then .utf16be else if b₁ = 0 then .utf16le else .utf8
    | _ => .utf8

/-- `json.loads` of bytes; a float becomes what `repr` prints of it. -/
def loadsBytes (raw : ByteArray) : Option Json := do
  let text ← match detectEncoding raw.data.toList with
    | .utf8 => String.fromUTF8? raw
    | encoding => lib.decode encoding raw
  (Json.loads text).map (mapFloats lib.repr)

/-- `value.get(key)`. -/
def get (value : List (String × Json)) (key : String) : Json := (value.lookup key).getD .null

/-- The digest that the contents of a resource have. -/
def recomputed (value : List (String × Json)) : Except Error String := do
  return sha256 (← jsonBytes (digestInput (get value "contracts_version") (get value "documents")
    (get value "format_version") (get value "sources")))

def decodeGeneratedResource (raw : ByteArray) (label : String) :
    Except Error (List (String × Json)) :=
  match loadsBytes lib raw with
  | none => .error (.malformedResource label)
  | some (.obj value) => do
    if get value "contracts_version" ≠ .str CONTRACTS_VERSION then throw .unknownVersion
    if get value "format_version" ≠ .str RESOURCE_FORMAT_VERSION then throw .unknownFormat
    let expected ← recomputed sha256 value
    if get value "artifact_sha256" ≠ .str expected then throw .integrity
    return value
  | some _ => .error .notObject

/-! ### What the checks let through -/

/-- The fields of a canonical document that the checks let through. -/
structure Accepted (name : String) (spec : SourceSpec) (fs : List (String × Json)) : Prop where
  required : ∀ key ∈ spec.requiredKeys, key ∈ fs.map Prod.fst
  allowed : ∀ key ∈ fs.map Prod.fst, key ∈ spec.allowedKeys
  identity : ∀ field expected, spec.identity = some (field, expected) → (field, .str expected) ∈ fs
  version : name ∉ ["openapi", "asyncapi"] →
    ∃ version : String, ("schema_version", .str version) ∈ fs ∧ version.toList.count '.' = 2

variable {name : String} {spec : SourceSpec}

theorem Accepted.of_perm {fs gs : List (String × Json)} (h : Accepted name spec fs)
    (hperm : fs.Perm gs) : Accepted name spec gs where
  required key hkey := (hperm.map Prod.fst).mem_iff.1 (h.required key hkey)
  allowed key hkey := h.allowed key ((hperm.map Prod.fst).mem_iff.2 hkey)
  identity field expected hspec := hperm.mem_iff.1 (h.identity field expected hspec)
  version hname := by
    obtain ⟨version, hmem, hcount⟩ := h.version hname
    exact ⟨version, hperm.mem_iff.1 hmem, hcount⟩

variable {lib sha256} {source : String} {parsed : List (Scalar × Tree Scalar)}
  {fs : List (String × Json)}

variable {s : String}

theorem canonical_eq_str {value : Tree Scalar} :
    canonical lib source value = .ok (.str s) ↔ value = .scalar (.str s) := by
  cases value with
  | scalar scalar => cases scalar <;> simp [canonical, Scalar.json]
  | seq items =>
    rw [canonical, bind_eq_ok]
    constructor
    · rintro ⟨js, -, h⟩
      cases h
    · intro h
      cases h
  | mapping pairs =>
    rw [canonical_mapping_eq_ok]
    constructor
    · rintro ⟨fs, -, h⟩
      cases h
    · intro h
      cases h

theorem mem_text_iff (h : List.Forall₂ (Canonicalises lib source) parsed fs) {key : String} :
    (Scalar.str key, Tree.scalar (.str s)) ∈ parsed ↔ (key, Json.str s) ∈ fs := by
  induction h with
  | nil => simp
  | @cons q f parsed fs hq _ ih =>
    obtain ⟨k, value⟩ := q
    obtain ⟨l, j⟩ := f
    obtain ⟨hkey, hvalue⟩ := hq
    cases hkey
    rw [List.mem_cons, List.mem_cons, ih, Prod.mk.injEq, Prod.mk.injEq, Scalar.str.injEq]
    refine or_congr_left (and_congr_right fun _ => ?_)
    constructor
    · rintro rfl
      cases hvalue
      rfl
    · rintro rfl
      exact (canonical_eq_str.1 hvalue).symm

theorem textUnder_eq_some (h : List.Forall₂ (Canonicalises lib source) parsed fs)
    (hnodup : (fs.map Prod.fst).Nodup) {key : String} :
    textUnder parsed key = some s ↔ (key, .str s) ∈ fs := by
  have hkeys : (parsed.map Prod.fst).Nodup := by
    rw [keys_of_forall₂ h, ← Function.comp_def Scalar.str Prod.fst, ← List.map_map]
    exact hnodup.map fun a b hab => Scalar.str.inj hab
  rw [← mem_text_iff h, ← lookup_eq_some_iff hkeys, textUnder]
  split
  · rename_i hlookup
    rw [hlookup]
    simp
  · rename_i hlookup
    constructor
    · intro hnone
      cases hnone
    · intro hsome
      exact absurd hsome (hlookup s)

/-- The checks of a document, read off its canonical form. -/
theorem checkDocument_eq_ok (h : List.Forall₂ (Canonicalises lib source) parsed fs)
    (hnodup : (fs.map Prod.fst).Nodup) :
    checkDocument name spec parsed = .ok () ↔ Accepted name spec fs := by
  have hmem : ∀ key : String, Scalar.str key ∈ parsed.map Prod.fst ↔ key ∈ fs.map Prod.fst := by
    intro key
    rw [keys_of_forall₂ h]
    simp
  have hmissing : (spec.requiredKeys.filter fun key => Scalar.str key ∉ parsed.map Prod.fst) = [] ↔
      ∀ key ∈ spec.requiredKeys, key ∈ fs.map Prod.fst := by
    rw [List.filter_eq_nil_iff]
    refine forall₂_congr fun key _ => ?_
    rw [decide_eq_true_eq, not_not, hmem]
  have hunknown : ((parsed.map Prod.fst).filter fun key =>
      ∀ allowed ∈ spec.allowedKeys, key ≠ .str allowed) = [] ↔
      ∀ key ∈ fs.map Prod.fst, key ∈ spec.allowedKeys := by
    rw [List.filter_eq_nil_iff, keys_of_forall₂ h]
    constructor
    · intro hall key hkey
      obtain ⟨f, hf, rfl⟩ := List.mem_map.1 hkey
      have hknown := hall (.str f.1) (List.mem_map_of_mem hf)
      rw [decide_eq_true_eq] at hknown
      push Not at hknown
      obtain ⟨allowed, hmem, heq⟩ := hknown
      exact Scalar.str.inj heq ▸ hmem
    · intro hall key hkey
      obtain ⟨f, hf, rfl⟩ := List.mem_map.1 hkey
      rw [decide_eq_true_eq]
      exact fun hne => hne f.1 (hall _ (List.mem_map_of_mem hf)) rfl
  have hidentity : (∀ field expected, spec.identity = some (field, expected) →
      textUnder parsed field = some expected) ↔
      ∀ field expected, spec.identity = some (field, expected) → (field, .str expected) ∈ fs := by
    simp only [textUnder_eq_some h hnodup]
  have hversion : (∃ version ∈ textUnder parsed "schema_version", version.toList.count '.' = 2) ↔
      ∃ version : String, ("schema_version", .str version) ∈ fs ∧ version.toList.count '.' = 2 := by
    refine exists_congr fun version => and_congr_left fun _ => ?_
    rw [Option.mem_def, textUnder_eq_some h hnodup]
  have hchecks : checkDocument name spec parsed = .ok () ↔
      (∀ key ∈ spec.requiredKeys, key ∈ fs.map Prod.fst) ∧
      (∀ key ∈ fs.map Prod.fst, key ∈ spec.allowedKeys) ∧
      (∀ field expected, spec.identity = some (field, expected) →
        textUnder parsed field = some expected) ∧
      ¬(name ∉ ["openapi", "asyncapi"] ∧
        ¬∃ version ∈ textUnder parsed "schema_version", version.toList.count '.' = 2) := by
    rw [← hmissing, ← hunknown]
    unfold checkDocument
    cases spec.identity with
    | none =>
      have hnone : (∀ f e, none = some (f, e) → textUnder parsed f = some e) ↔ True := by simp
      simp only [check_eq_ok, guard_eq_ok, ne_eq, not_not, hnone, true_and]
    | some identity =>
      obtain ⟨field, expected⟩ := identity
      have hone : (∀ f e, some (field, expected) = some (f, e) → textUnder parsed f = some e) ↔
          textUnder parsed field = some expected := by simp
      simp only [check_eq_ok, guard_eq_ok, ne_eq, not_not, hone]
  rw [hchecks, hidentity, hversion]
  constructor
  · rintro ⟨hrequired, hallowed, hidentity, hversion⟩
    exact ⟨hrequired, hallowed, hidentity, fun hname => not_not.1 fun h => hversion ⟨hname, h⟩⟩
  · rintro ⟨hrequired, hallowed, hidentity, hversion⟩
    exact ⟨hrequired, hallowed, hidentity, fun h => h.2 (hversion h.1)⟩

/-- The node that the bytes of a source are composed to. -/
def nodeOf (lib : Library) (raw : ByteArray) : Option (Tree Key) :=
  (String.fromUTF8? raw).bind lib.compose

variable {raw : ByteArray} {j : Json}

/-- **What a source is parsed to**: the JSON value its node stands for, if the checks let it through. -/
theorem parseSource_iff :
    parseSource lib name spec raw = .ok j ↔ ∃ node fs, nodeOf lib raw = some node ∧
      Denotes lib node (.obj fs) ∧ Accepted name spec fs ∧ j = .obj fs := by
  rw [parseSource, nodeOf]
  cases String.fromUTF8? raw with
  | none => simp
  | some text =>
    rw [Option.bind_some]
    cases hcompose : lib.compose text with
    | none => simp [hcompose]
    | some node =>
      simp only [hcompose, Option.some.injEq, exists_and_left, exists_eq_left']
      rw [bind_eq_ok]
      constructor
      · rintro ⟨value, hvalue, h⟩
        cases value with
        | scalar s => cases h
        | seq items => cases h
        | mapping parsed =>
          obtain ⟨u, hcheck, hcanonical⟩ := bind_eq_ok.1 h
          have hdenotes := (denotes_iff spec.path node j).2 ⟨_, hvalue, hcanonical⟩
          obtain ⟨fs, hfs, rfl⟩ := canonical_mapping_eq_ok.1 hcanonical
          have hperm := List.perm_insertionSort (fun a b : String × Json => a.1 ≤ b.1) fs
          have hnodup := nodup_of_construct hvalue hfs
          exact ⟨_, hdenotes, ((checkDocument_eq_ok hfs hnodup).1 hcheck).of_perm hperm.symm, rfl⟩
      · rintro ⟨fields, hdenotes, haccepted, rfl⟩
        obtain ⟨value, hvalue, hcanonical⟩ := (denotes_iff spec.path node _).1 hdenotes
        refine ⟨value, hvalue, ?_⟩
        cases value with
        | scalar s => cases s <;> simp [canonical, Scalar.json] at hcanonical
        | seq items =>
          rw [canonical] at hcanonical
          obtain ⟨js, -, h⟩ := bind_eq_ok.1 hcanonical
          cases h
        | mapping parsed =>
          obtain ⟨fs, hfs, hfields⟩ := canonical_mapping_eq_ok.1 hcanonical
          have hperm := List.perm_insertionSort (fun a b : String × Json => a.1 ≤ b.1) fs
          have hnodup := nodup_of_construct hvalue hfs
          cases hfields
          exact bind_eq_ok.2
            ⟨(), (checkDocument_eq_ok hfs hnodup).2 (haccepted.of_perm hperm), hcanonical⟩

theorem parseSource_of_reordered {raw' : ByteArray} {node node' : Tree Key}
    (hnode : nodeOf lib raw = some node) (hnode' : nodeOf lib raw' = some node')
    (hreordered : Reordered node node') (h : parseSource lib name spec raw = .ok j) :
    parseSource lib name spec raw' = .ok j := by
  obtain ⟨n, fs, hn, hdenotes, haccepted, rfl⟩ := parseSource_iff.1 h
  cases hnode.symm.trans hn
  exact parseSource_iff.2
    ⟨node', fs, hnode', denotes_of_reordered node node' _ hreordered hdenotes, haccepted, rfl⟩

theorem canonical_of_parseSource (h : parseSource lib name spec raw = .ok j) : Canonical lib j := by
  obtain ⟨node, fs, -, hdenotes, -, rfl⟩ := parseSource_iff.1 h
  exact canonical_of_denotes node _ hdenotes

/-! ### Printing and reading -/

variable {b : ByteArray} {fields : List (String × Json)}

/-- **What was printed determines the value**, up to the order of its keys. -/
theorem sortKeys_eq_of_jsonBytes {k : Json} (hj : jsonBytes j = .ok b) (hk : jsonBytes k = .ok b) :
    j.sortKeys = k.sortKeys := by
  rw [jsonBytes] at hj hk
  split at hj
  · rename_i hsound
    split at hk
    · rename_i hsound'
      cases hj
      have htext := Except.ok.inj hk
      rw [String.toUTF8_eq_toByteArray, String.toUTF8_eq_toByteArray, String.toByteArray_inj] at htext
      have hloads : Json.loads (j.dumpsWith quoteRaw ++ "\n") = some j.sortKeys :=
        Json.loads_dumpsWith reads_quoteRaw hsound (by decide)
      rw [← htext, Json.loads_dumpsWith reads_quoteRaw hsound' (by decide)] at hloads
      exact (Option.some.inj hloads).symm
    · cases hk
  · cases hj

/-- The bytes of an object begin with a brace and a quote, so they are read as UTF-8. -/
theorem detectEncoding_of_object {cs : List Char} (h : s.toList = '\x7b' :: '"' :: cs) :
    detectEncoding s.toUTF8.data.toList = .utf8 := by
  have hbytes : s.toUTF8.data.toList = 0x7b :: 0x22 :: cs.flatMap String.utf8EncodeChar := by
    have hbrace : String.utf8EncodeChar '\x7b' = [0x7b] := by decide
    have hquote : String.utf8EncodeChar '"' = [0x22] := by decide
    rw [String.toUTF8_eq_toByteArray, ← String.utf8Encode_toList, h, List.utf8Encode]
    simp [hbrace, hquote]
  rw [hbytes]
  rcases cs.flatMap String.utf8EncodeChar with _ | ⟨b₂, _ | ⟨b₃, rest⟩⟩
  · decide
  · simp [detectEncoding]
  · simp [detectEncoding]

/-- **An object in canonical form is read back as it is.** -/
theorem loadsBytes_of_jsonBytes {p : String × Json}
    (hcanonical : Canonical lib (.obj (p :: fields))) (h : jsonBytes (.obj (p :: fields)) = .ok b) :
    loadsBytes lib b = some (.obj (p :: fields)) := by
  rw [jsonBytes] at h
  split at h
  · rename_i hsound
    cases h
    obtain ⟨qs, hqs, -⟩ := reads_quoteRaw p.1
    have htext : (Json.dumpsWith quoteRaw (.obj (p :: fields)) ++ "\n").toList =
        '\x7b' :: '"' :: (qs ++ ':' :: p.2.textWith quoteRaw ++
          encloseTail '\x7d' (Json.textFieldsWith quoteRaw fields) ++ ['\n']) := by
      obtain ⟨k, j⟩ := p
      rw [String.toList_append, toList_dumpsWith, hcanonical.1, Json.textWith, Json.textFieldsWith,
        enclose, hqs]
      simp
    have hloads : Json.loads (Json.dumpsWith quoteRaw (.obj (p :: fields)) ++ "\n") =
        some (Json.obj (p :: fields)).sortKeys :=
      Json.loads_dumpsWith reads_quoteRaw hsound (by decide)
    rw [hcanonical.1] at hloads
    rw [loadsBytes, detectEncoding_of_object htext]
    simp only [fromUTF8?_toUTF8, hloads, bind, Option.bind, Option.map_some, hcanonical.2]
  · cases h

/-! ### The compiler -/

/-- The canonical parsed documents of a source set. -/
def parsedDocuments (lib : Library) (sources : Sources) : Except Error (List (String × Json)) :=
  sortedSpecs.mapM fun p =>
    match sources.get p.1 with
    | none => .error (.missingSources [p.1])
    | some raw => do return (p.1, ← parseSource lib p.1 p.2 raw)

/-- Each entry of the manifest, in order, with what it was compiled to. -/
def Compiles (lib : Library) (sha256 : ByteArray → String) (sources : Sources)
    (compiled : List (String × Json × Json)) : Prop :=
  List.Forall₂ (fun p c => compileSource lib sha256 sources p = .ok c) sortedSpecs compiled

def documentsOf (compiled : List (String × Json × Json)) : List (String × Json) :=
  compiled.map fun c => (c.1, c.2.1)

def recordsOf (compiled : List (String × Json × Json)) : List (String × Json) :=
  compiled.map fun c => (c.1, c.2.2)

variable {sources sources' : Sources} {compiled : List (String × Json × Json)} {label : String}
  {p : String × SourceSpec}

/-- **What the compiler accepts and what it writes.** -/
theorem compileSourceBytes_iff : compileSourceBytes lib sha256 sources = .ok b ↔
    (∀ name, name ∈ sources.names ↔ name ∈ SOURCE_SPECS.map Prod.fst) ∧
      ∃ compiled input, Compiles lib sha256 sources compiled ∧
        jsonBytes (digestInput (.str CONTRACTS_VERSION) (.obj (documentsOf compiled))
          (.str RESOURCE_FORMAT_VERSION) (.obj (recordsOf compiled))) = .ok input ∧
        jsonBytes (.obj (bundle (sha256 input) (.obj (documentsOf compiled))
          (.obj (recordsOf compiled)))) = .ok b := by
  have hnames : ((SOURCE_SPECS.map Prod.fst).filter (· ∉ sources.names) = [] ∧
      sources.names.filter (· ∉ SOURCE_SPECS.map Prod.fst) = []) ↔
        ∀ name, name ∈ sources.names ↔ name ∈ SOURCE_SPECS.map Prod.fst := by
    rw [List.filter_eq_nil_iff, List.filter_eq_nil_iff]
    simp only [decide_eq_true_eq, not_not]
    exact ⟨fun h name => ⟨h.2 name, h.1 name⟩, fun h => ⟨fun name => (h name).2, fun name => (h name).1⟩⟩
  rw [← hnames]
  unfold compileSourceBytes
  simp only [check_eq_ok, ne_eq, not_not, and_assoc, bind_eq_ok, mapM_eq_ok]
  refine and_congr_right fun _ => and_congr_right fun _ => exists_congr fun compiled => ?_
  rw [← exists_and_left]
  rfl

theorem compileSource_eq_ok {c : String × Json × Json} :
    compileSource lib sha256 sources p = .ok c ↔ ∃ raw document, sources.get p.1 = some raw ∧
      parseSource lib p.1 p.2 raw = .ok document ∧ c = (p.1, document, record p.2 (sha256 raw)) := by
  rw [compileSource]
  cases sources.get p.1 with
  | none => simp
  | some raw =>
    simp only [Option.some.injEq, exists_and_left, exists_eq_left', bind_eq_ok, pure, Except.pure,
      Except.ok.injEq]
    exact exists_congr fun document => and_congr_right fun _ => eq_comm

theorem sorted_of_keys {keys : List String} (hkeys : fields.map Prod.fst = keys)
    (h : keys.Pairwise (· ≤ ·)) : fields.Pairwise fun a b => a.1 ≤ b.1 := by
  rw [← hkeys] at h
  exact List.pairwise_map.1 h

section Compiles

variable (h : Compiles lib sha256 sources compiled)

include h

theorem keys_of_compiles : compiled.map Prod.fst = sortedSpecs.map Prod.fst := by
  have hsame : List.Forall₂ (fun p c => p.1 = c.1) sortedSpecs compiled := by
    refine h.imp fun p c hc => ?_
    obtain ⟨raw, document, -, -, rfl⟩ := compileSource_eq_ok.1 hc
    rfl
  have hkeys : List.Forall₂ (· = ·) (sortedSpecs.map Prod.fst) (compiled.map Prod.fst) :=
    List.forall₂_map_left_iff.2 (List.forall₂_map_right_iff.2 hsame)
  rw [List.forall₂_eq_eq_eq] at hkeys
  exact hkeys.symm

theorem mem_of_compiles {c : String × Json × Json} (hc : c ∈ compiled) :
    ∃ p, compileSource lib sha256 sources p = .ok c := by
  obtain ⟨p, -, hp⟩ := of_mem_mapM_eq_ok (mapM_eq_ok.2 h) hc
  exact ⟨p, hp⟩

theorem parsedDocuments_of_compiles : parsedDocuments lib sources = .ok (documentsOf compiled) := by
  rw [parsedDocuments, mapM_eq_ok, documentsOf, List.forall₂_map_right_iff]
  refine h.imp fun p c hc => ?_
  obtain ⟨raw, document, hraw, hparse, rfl⟩ := compileSource_eq_ok.1 hc
  simp only [hraw, hparse]
  rfl

theorem pairwise_of_compiles {fields : List (String × Json)}
    (hkeys : fields.map Prod.fst = compiled.map Prod.fst) : fields.Pairwise fun a b => a.1 ≤ b.1 := by
  refine sorted_of_keys (hkeys.trans (keys_of_compiles h)) ?_
  exact List.pairwise_map.2 (List.pairwise_insertionSort _ SOURCE_SPECS)

theorem nodup_of_compiles : (compiled.map Prod.fst).Nodup := by
  have hperm := List.perm_insertionSort (fun a b : String × SourceSpec => a.1 ≤ b.1) SOURCE_SPECS
  rw [keys_of_compiles h]
  exact (hperm.map Prod.fst).nodup_iff.2 (by decide)

theorem canonical_documents : Canonical lib (.obj (documentsOf compiled)) := by
  refine canonical_obj (pairwise_of_compiles h (by rw [documentsOf, List.map_map]; rfl)) ?_
  intro f hf
  obtain ⟨c, hc, rfl⟩ := List.mem_map.1 hf
  obtain ⟨p, hp⟩ := mem_of_compiles h hc
  obtain ⟨raw, document, -, hparse, rfl⟩ := compileSource_eq_ok.1 hp
  exact canonical_of_parseSource hparse

theorem canonical_records : Canonical lib (.obj (recordsOf compiled)) := by
  refine canonical_obj (pairwise_of_compiles h (by rw [recordsOf, List.map_map]; rfl)) ?_
  intro f hf
  obtain ⟨c, hc, rfl⟩ := List.mem_map.1 hf
  obtain ⟨p, hp⟩ := mem_of_compiles h hc
  obtain ⟨raw, document, -, -, rfl⟩ := compileSource_eq_ok.1 hp
  refine canonical_obj (sorted_of_keys (show _ = ["path", "sha256"] from rfl) (by decide)) ?_
  intro f hf
  simp only [List.mem_cons, List.not_mem_nil, or_false] at hf
  rcases hf with rfl | rfl <;> exact ⟨rfl, rfl⟩

theorem sound_records : (Json.obj (recordsOf compiled)).sound = true := by
  have hkeys : (recordsOf compiled).map Prod.fst = compiled.map Prod.fst := by
    rw [recordsOf, List.map_map]
    rfl
  rw [Json.sound, Bool.and_eq_true, decide_eq_true_eq, hkeys]
  refine ⟨nodup_of_compiles h, (soundFields_iff _).2 fun f hf => ?_⟩
  obtain ⟨c, hc, rfl⟩ := List.mem_map.1 hf
  obtain ⟨p, hp⟩ := mem_of_compiles h hc
  obtain ⟨raw, document, -, -, rfl⟩ := compileSource_eq_ok.1 hp
  rw [record, Json.sound, Bool.and_eq_true, decide_eq_true_eq]
  have hnodup : ["path", "sha256"].Nodup := by decide
  exact ⟨hnodup, rfl⟩

end Compiles

/-! ### The resource -/

variable {digest : String} {documents records : Json}

theorem sound_digestInput {a b : String} :
    (digestInput (.str a) documents (.str b) records).sound = true ↔
      documents.sound = true ∧ records.sound = true := by
  simp [digestInput, Json.sound, Json.soundFields]

theorem sound_bundle :
    (Json.obj (bundle digest documents records)).sound = true ↔
      documents.sound = true ∧ records.sound = true := by
  simp [bundle, Json.sound, Json.soundFields]

theorem canonical_bundle (hdocuments : Canonical lib documents) (hrecords : Canonical lib records) :
    Canonical lib (.obj (bundle digest documents records)) := by
  refine canonical_obj ?_ ?_
  · exact sorted_of_keys (show _ = ["artifact_sha256", "contracts_version", "documents",
      "format_version", "sources"] from rfl) (by decide)
  · intro f hf
    simp only [bundle, List.mem_cons, List.not_mem_nil, or_false] at hf
    rcases hf with rfl | rfl | rfl | rfl | rfl
    · exact ⟨rfl, rfl⟩
    · exact ⟨rfl, rfl⟩
    · exact hdocuments
    · exact ⟨rfl, rfl⟩
    · exact hrecords

theorem sortKeys_digestInput (a documents b records : Json) :
    (digestInput a documents b records).sortKeys =
      digestInput a.sortKeys documents.sortKeys b.sortKeys records.sortKeys := by
  have hsorted : [("contracts_version", a.sortKeys), ("documents", documents.sortKeys),
      ("format_version", b.sortKeys), ("sources", records.sortKeys)].Pairwise
        fun x y => x.1 ≤ y.1 :=
    sorted_of_keys (show _ = ["contracts_version", "documents", "format_version", "sources"] from rfl)
      (by decide)
  rw [digestInput, Json.sortKeys]
  simp only [Json.sortFields]
  rw [hsorted.insertionSort_eq]
  rfl

/-- **What is decoded carries the digest of its contents**, and everything that does is decoded. -/
theorem decode_iff {value result : List (String × Json)}
    (hloads : loadsBytes lib raw = some (.obj value))
    (hversion : get value "contracts_version" = .str CONTRACTS_VERSION)
    (hformat : get value "format_version" = .str RESOURCE_FORMAT_VERSION) :
    decodeGeneratedResource lib sha256 raw label = .ok result ↔ result = value ∧
      ∃ digest, recomputed sha256 value = .ok digest ∧ get value "artifact_sha256" = .str digest := by
  unfold decodeGeneratedResource
  simp only [hloads, check_eq_ok, ne_eq, not_not, hversion, hformat, true_and, bind_eq_ok]
  rw [← exists_and_left]
  refine exists_congr fun digest => ?_
  have hpure : (pure value : Except Error (List (String × Json))) = .ok result ↔ result = value := by
    constructor
    · intro h
      cases h
      rfl
    · rintro rfl
      rfl
  rw [hpure]
  tauto

/-- **What was compiled is decoded.** -/
theorem decode_compiled (label : String) (h : compileSourceBytes lib sha256 sources = .ok b) :
    ∃ compiled input, Compiles lib sha256 sources compiled ∧
      jsonBytes (digestInput (.str CONTRACTS_VERSION) (.obj (documentsOf compiled))
        (.str RESOURCE_FORMAT_VERSION) (.obj (recordsOf compiled))) = .ok input ∧
      decodeGeneratedResource lib sha256 b label = .ok (bundle (sha256 input)
        (.obj (documentsOf compiled)) (.obj (recordsOf compiled))) := by
  obtain ⟨-, compiled, input, hcompiled, hinput, hb⟩ := compileSourceBytes_iff.1 h
  have hloads := loadsBytes_of_jsonBytes
    (canonical_bundle (canonical_documents hcompiled) (canonical_records hcompiled)) hb
  refine ⟨compiled, input, hcompiled, hinput, (decode_iff hloads rfl rfl).2 ⟨rfl, sha256 input, ?_, rfl⟩⟩
  exact bind_eq_ok.2 ⟨input, hinput, rfl⟩

/-- Two source sets with the same names, whose sources differ in the order of their mappings.  The
order of the sets themselves does not count, since they are read by name. -/
def Sources.Reordered (lib : Library) (s s' : Sources) : Prop :=
  ∀ name, Option.Rel (fun raw raw' => ∃ node node', nodeOf lib raw = some node ∧
    nodeOf lib raw' = some node' ∧ ContractCompiler.Reordered node node') (s.get name) (s'.get name)

theorem mem_names_iff : name ∈ sources.names ↔ ∃ raw, sources.get name = some raw := by
  rw [Sources.names, List.mem_map]
  constructor
  · rintro ⟨⟨name, raw⟩, hmem, rfl⟩
    exact ⟨raw, (lookup_eq_some_iff sources.distinct).2 hmem⟩
  · rintro ⟨raw, hraw⟩
    exact ⟨(name, raw), (lookup_eq_some_iff sources.distinct).1 hraw, rfl⟩

theorem Sources.Reordered.names (h : Sources.Reordered lib sources sources') (name : String) :
    name ∈ sources'.names ↔ name ∈ sources.names := by
  rw [mem_names_iff, mem_names_iff]
  have hname := h name
  cases hraw : sources.get name with
  | none =>
    rw [hraw] at hname
    cases hraw' : sources'.get name with
    | none => simp
    | some raw' =>
      rw [hraw'] at hname
      cases hname
  | some raw =>
    rw [hraw] at hname
    cases hraw' : sources'.get name with
    | none =>
      rw [hraw'] at hname
      cases hname
    | some raw' => simp

/-- Reordered sources are compiled to the same documents. -/
theorem exists_compiled (h : Sources.Reordered lib sources sources')
    (hcompiled : Compiles lib sha256 sources compiled) :
    ∃ compiled', Compiles lib sha256 sources' compiled' ∧ documentsOf compiled' = documentsOf compiled := by
  unfold Compiles at hcompiled ⊢
  generalize sortedSpecs = specs at hcompiled ⊢
  induction hcompiled with
  | nil => exact ⟨[], .nil, rfl⟩
  | @cons p c _ _ hc _ ih =>
    obtain ⟨compiled', hcompiled', hdocuments⟩ := ih
    obtain ⟨raw, document, hraw, hparse, rfl⟩ := compileSource_eq_ok.1 hc
    have hname := h p.1
    rw [hraw] at hname
    cases hraw' : sources'.get p.1 with
    | none =>
      rw [hraw'] at hname
      cases hname
    | some raw' =>
      rw [hraw'] at hname
      cases hname with
      | some hnodes =>
        obtain ⟨node, node', hnode, hnode', hreordered⟩ := hnodes
        have hparse' := parseSource_of_reordered hnode hnode' hreordered hparse
        refine ⟨_ :: compiled', .cons (compileSource_eq_ok.2
          ⟨raw', document, hraw', hparse', rfl⟩) hcompiled', ?_⟩
        rw [documentsOf, documentsOf, List.map_cons, List.map_cons]
        exact congrArg _ hdocuments

/-- **Reordered sources are compiled too**, to a resource with the same documents. -/
theorem compile_of_reordered (h : Sources.Reordered lib sources sources')
    (hcompile : compileSourceBytes lib sha256 sources = .ok b) :
    ∃ b' value value', compileSourceBytes lib sha256 sources' = .ok b' ∧
      decodeGeneratedResource lib sha256 b label = .ok value ∧
      decodeGeneratedResource lib sha256 b' label = .ok value' ∧
      get value' "documents" = get value "documents" := by
  obtain ⟨hnames, compiled, input, hcompiled, hinput, hb⟩ := compileSourceBytes_iff.1 hcompile
  obtain ⟨compiled', hcompiled', hdocuments⟩ := exists_compiled h hcompiled
  -- what is new are the digests of the sources, and they are printed like the old ones
  have hsound : (Json.obj (documentsOf compiled')).sound = true := by
    rw [hdocuments]
    rw [jsonBytes] at hinput
    split at hinput
    · rename_i hsound
      exact (sound_digestInput.1 hsound).1
    · cases hinput
  have hrecords := sound_records hcompiled'
  obtain ⟨input', hinput'⟩ : ∃ input', jsonBytes (digestInput (.str CONTRACTS_VERSION)
      (.obj (documentsOf compiled')) (.str RESOURCE_FORMAT_VERSION) (.obj (recordsOf compiled'))) =
        .ok input' :=
    ⟨_, if_pos (sound_digestInput.2 ⟨hsound, hrecords⟩)⟩
  obtain ⟨b', hb'⟩ : ∃ b', jsonBytes (.obj (bundle (sha256 input') (.obj (documentsOf compiled'))
      (.obj (recordsOf compiled')))) = .ok b' :=
    ⟨_, if_pos (sound_bundle.2 ⟨hsound, hrecords⟩)⟩
  have hcompile' : compileSourceBytes lib sha256 sources' = .ok b' :=
    compileSourceBytes_iff.2 ⟨fun name => (h.names name).trans (hnames name), compiled', input',
      hcompiled', hinput', hb'⟩
  obtain ⟨old, oldInput, hold, -, hdecode⟩ := decode_compiled label hcompile
  obtain ⟨new, newInput, hnew, -, hdecode'⟩ := decode_compiled label hcompile'
  refine ⟨b', _, _, hcompile', hdecode, hdecode', ?_⟩
  have hold' := (parsedDocuments_of_compiles hold).symm.trans (parsedDocuments_of_compiles hcompiled)
  have hnew' := (parsedDocuments_of_compiles hnew).symm.trans (parsedDocuments_of_compiles hcompiled')
  show Json.obj (documentsOf new) = .obj (documentsOf old)
  rw [Except.ok.inj hold', Except.ok.inj hnew', hdocuments]

theorem documents_eq_of_recomputed (hsha : Function.Injective sha256)
    {value value' : List (String × Json)} (h : recomputed sha256 value = .ok digest)
    (h' : recomputed sha256 value' = .ok digest) :
    (get value "documents").sortKeys = (get value' "documents").sortKeys := by
  obtain ⟨input, hinput, h⟩ := bind_eq_ok.1 h
  obtain ⟨input', hinput', h'⟩ := bind_eq_ok.1 h'
  cases hsha (Except.ok.inj (h.trans h'.symm))
  have hsorted := sortKeys_eq_of_jsonBytes hinput hinput'
  rw [sortKeys_digestInput, sortKeys_digestInput, digestInput, digestInput, Json.obj.injEq,
    List.cons.injEq, List.cons.injEq, Prod.mk.injEq, Prod.mk.injEq] at hsorted
  exact hsorted.2.1.2

/-- **The round trip of the compiler, and what its digest protects.**  What is compiled is decoded,
with the canonical parsed documents; the order of the mappings and of the source set does not show in
the documents; an object of the supported versions is accepted exactly if it carries the digest of
its contents; and a compiled resource with other documents is refused. -/
theorem compile_decode (lib : Library) (sha256 : ByteArray → String)
    (hsha : Function.Injective sha256) (label : String) :
    (∀ sources b, compileSourceBytes lib sha256 sources = .ok b → ∃ value documents,
      decodeGeneratedResource lib sha256 b label = .ok value ∧
        parsedDocuments lib sources = .ok documents ∧ get value "documents" = .obj documents) ∧
    (∀ sources sources' b, Sources.Reordered lib sources sources' →
      compileSourceBytes lib sha256 sources = .ok b → ∃ b' value value',
        compileSourceBytes lib sha256 sources' = .ok b' ∧
        decodeGeneratedResource lib sha256 b label = .ok value ∧
        decodeGeneratedResource lib sha256 b' label = .ok value' ∧
        get value' "documents" = get value "documents") ∧
    (∀ raw value, loadsBytes lib raw = some (.obj value) →
      get value "contracts_version" = .str CONTRACTS_VERSION →
      get value "format_version" = .str RESOURCE_FORMAT_VERSION →
        (decodeGeneratedResource lib sha256 raw label = .ok value ↔
          ∃ digest, recomputed sha256 value = .ok digest ∧
            get value "artifact_sha256" = .str digest)) ∧
    ∀ sources b value raw value', compileSourceBytes lib sha256 sources = .ok b →
      decodeGeneratedResource lib sha256 b label = .ok value →
      loadsBytes lib raw = some (.obj value') →
      (∀ key, key ≠ "documents" → get value' key = get value key) →
      (get value' "documents").sortKeys ≠ (get value "documents").sortKeys →
        ∃ err, decodeGeneratedResource lib sha256 raw label = .error err := by
  refine ⟨?_, ?_, ?_, ?_⟩
  · intro sources b h
    obtain ⟨compiled, input, hcompiled, -, hdecode⟩ := decode_compiled label h
    exact ⟨_, documentsOf compiled, hdecode, parsedDocuments_of_compiles hcompiled, rfl⟩
  · intro sources sources' b hreordered h
    exact compile_of_reordered hreordered h
  · intro raw value hloads hversion hformat
    rw [decode_iff hloads hversion hformat, eq_self_iff_true, true_and]
  · intro sources b value raw value' h hvalue hloads hsame hchanged
    obtain ⟨compiled, input, hcompiled, hinput, hdecode⟩ := decode_compiled label h
    cases hdecode.symm.trans hvalue
    have hdigest : recomputed sha256 (bundle (sha256 input) (.obj (documentsOf compiled))
        (.obj (recordsOf compiled))) = .ok (sha256 input) := bind_eq_ok.2 ⟨input, hinput, rfl⟩
    cases hresult : decodeGeneratedResource lib sha256 raw label with
    | error err => exact ⟨err, rfl⟩
    | ok result =>
      have hversion : get value' "contracts_version" = .str CONTRACTS_VERSION := hsame _ (by decide)
      have hformat : get value' "format_version" = .str RESOURCE_FORMAT_VERSION := hsame _ (by decide)
      obtain ⟨-, digest, hdigest', hartifact⟩ := (decode_iff hloads hversion hformat).1 hresult
      have hsaid : get value' "artifact_sha256" = .str (sha256 input) := hsame _ (by decide)
      cases hsaid.symm.trans hartifact
      exact absurd (documents_eq_of_recomputed hsha hdigest' hdigest) hchanged

/-! ### A source set -/

/-- The text under a key of a sample document: what the manifest wants, or a version. -/
def sampleText (spec : SourceSpec) (key : String) : String :=
  match spec.identity with
  | some (field, expected) => if key = field then expected else "1.0.0"
  | none => "1.0.0"

def sampleFields (spec : SourceSpec) : List (String × Json) :=
  spec.requiredKeys.map fun key => (key, .str (sampleText spec key))

/-- The node of a flat JSON object, which is a flow mapping with quoted scalars. -/
def flatNode : Json → Option (Tree Key)
  | .obj fs => some (.mapping (fs.map fun f => (.scalar (.str f.1), .scalar
      (match f.2 with
        | .str s => .str s
        | _ => .null))))
  | _ => none

/-- A composer for flat JSON objects with texts. -/
def sampleLibrary : Library where
  compose text := (Json.loads text).bind flatNode
  same a b := a = b
  repr := id
  decode _ _ := none
  isFloatText_repr h := h
  repr_repr _ := rfl

def sampleSources : Sources where
  entries := SOURCE_SPECS.map fun p => (p.1, (Json.obj (sampleFields p.2)).dumps.toUTF8)
  distinct := by
    rw [List.map_map]
    exact (show (SOURCE_SPECS.map Prod.fst).Nodup by decide)

def sampleSha256 (b : ByteArray) : String := String.ofList (b.data.toList.map fun x => Char.ofNat x.toNat)

theorem sampleSha256_injective : Function.Injective sampleSha256 := by
  have hchar : Function.Injective fun x : UInt8 => Char.ofNat x.toNat := by
    intro x y h
    have hvalid : ∀ z : UInt8, (Char.ofNat z.toNat).toNat = z.toNat := by
      intro z
      have hz : z.toNat.isValidChar := .inl (by have := z.toNat_lt; omega)
      rw [Char.ofNat, dif_pos hz]
      rfl
    have hnat := congrArg Char.toNat h
    simp only [hvalid] at hnat
    exact UInt8.toNat_inj.1 hnat
  intro a b h
  have hlist := List.map_injective_iff.2 hchar (String.ofList_injective h)
  exact ByteArray.ext (Array.toList_inj.1 hlist)

theorem denotesPairs_flat (fs : List (String × String)) :
    DenotesPairs lib (fs.map fun f => (Key.scalar (.str f.1), Tree.scalar (.str f.2)))
      (fs.map fun f => (f.1, .str f.2)) := by
  induction fs with
  | nil => rfl
  | cons f fs ih => exact ⟨f.1, .str f.2, _, rfl, rfl, ih, rfl⟩

/-- The texts of a sample document, with sorted keys. -/
def sampleTexts (spec : SourceSpec) : List (String × String) :=
  (spec.requiredKeys.map fun key => (key, sampleText spec key)).insertionSort fun a b => a.1 ≤ b.1

theorem sortKeys_sample (spec : SourceSpec) : (Json.obj (sampleFields spec)).sortKeys =
    .obj ((sampleTexts spec).map fun f => (f.1, .str f.2)) := by
  have hfields : Json.sortFields (sampleFields spec) = sampleFields spec := by
    refine sortFields_eq_self fun f hf => ?_
    obtain ⟨key, -, rfl⟩ := List.mem_map.1 hf
    rfl
  rw [Json.sortKeys, hfields, sampleTexts, ← map_sort, List.map_map]
  rfl

theorem accepted_sample : ∀ p ∈ SOURCE_SPECS, p.2.requiredKeys.Nodup ∧
    (∀ key ∈ p.2.requiredKeys, key ∈ p.2.allowedKeys) ∧
    (∀ i ∈ p.2.identity, i.1 ∈ p.2.requiredKeys ∧ i.1 ≠ "schema_version") ∧
    (p.1 ∉ ["openapi", "asyncapi"] → "schema_version" ∈ p.2.requiredKeys) := by
  decide +kernel

theorem sound_sample (hp : p ∈ SOURCE_SPECS) : (Json.obj (sampleFields p.2)).sound = true := by
  have hkeys : (sampleFields p.2).map Prod.fst = p.2.requiredKeys := by
    rw [sampleFields, List.map_map]
    exact List.map_id _
  rw [Json.sound, Bool.and_eq_true, decide_eq_true_eq, hkeys]
  refine ⟨(accepted_sample p hp).1, (soundFields_iff _).2 fun f hf => ?_⟩
  obtain ⟨key, -, rfl⟩ := List.mem_map.1 hf
  rfl

theorem parseSource_sample (hp : p ∈ SOURCE_SPECS) :
    parseSource sampleLibrary p.1 p.2 (Json.obj (sampleFields p.2)).dumps.toUTF8 =
      .ok (.obj ((sampleTexts p.2).map fun f => (f.1, .str f.2))) := by
  obtain ⟨hnodup, hallowed, hidentity, hversion⟩ := accepted_sample p hp
  have hkeys : (sampleFields p.2).map Prod.fst = p.2.requiredKeys := by
    rw [sampleFields, List.map_map]
    exact List.map_id _
  have hperm := List.perm_insertionSort (fun a b : String × String => a.1 ≤ b.1)
    (p.2.requiredKeys.map fun key => (key, sampleText p.2 key))
  have hsorted : ((sampleTexts p.2).map fun f => (f.1, Json.str f.2)).Perm (sampleFields p.2) := by
    have hmap := hperm.map fun f => (f.1, Json.str f.2)
    rwa [List.map_map] at hmap
  have hnode : nodeOf sampleLibrary (Json.obj (sampleFields p.2)).dumps.toUTF8 =
      some (.mapping ((sampleTexts p.2).map fun f => (.scalar (.str f.1), .scalar (.str f.2)))) := by
    rw [nodeOf, fromUTF8?_toUTF8, Option.bind_some]
    show (Json.loads (Json.obj (sampleFields p.2)).dumps).bind flatNode = _
    rw [Json.loads_dumps (sound_sample hp), sortKeys_sample, Option.bind_some, flatNode, List.map_map]
    rfl
  have hstays : ((sampleTexts p.2).map fun f => (f.1, Json.str f.2)).insertionSort
      (fun a b => a.1 ≤ b.1) = (sampleTexts p.2).map fun f => (f.1, .str f.2) := by
    have hordered : (sampleTexts p.2).Pairwise fun a b => a.1 ≤ b.1 := List.pairwise_insertionSort _ _
    rw [map_sort, hordered.insertionSort_eq]
  have haccepted : Accepted p.1 p.2 (sampleFields p.2) := by
    have hmem : ∀ key ∈ p.2.requiredKeys, (key, Json.str (sampleText p.2 key)) ∈ sampleFields p.2 :=
      fun key hkey => List.mem_map_of_mem hkey
    refine ⟨fun key hkey => hkeys ▸ hkey, fun key hkey => hallowed key (hkeys ▸ hkey), ?_, ?_⟩
    · intro field expected hspec
      have hfield := hmem field (hidentity _ hspec).1
      have htext : sampleText p.2 field = expected := by
        rw [sampleText, hspec]
        exact if_pos rfl
      rwa [htext] at hfield
    · intro hname
      have htext : sampleText p.2 "schema_version" = "1.0.0" := by
        rw [sampleText]
        split
        · rename_i field expected hspec
          exact if_neg (Ne.symm (hidentity _ hspec).2)
        · rfl
      exact ⟨"1.0.0", htext ▸ hmem _ (hversion hname), by decide⟩
  refine parseSource_iff.2 ⟨_, _, hnode, ⟨_, denotesPairs_flat _, ?_, ?_⟩, haccepted.of_perm hsorted.symm, rfl⟩
  · rw [(hsorted.map Prod.fst).nodup_iff, hkeys]
    exact hnodup
  · rw [hstays]

theorem get_sample (hp : p ∈ SOURCE_SPECS) :
    sampleSources.get p.1 = some (Json.obj (sampleFields p.2)).dumps.toUTF8 :=
  (lookup_eq_some_iff sampleSources.distinct).2 (List.mem_map_of_mem hp)

theorem compile_sample : ∃ b, compileSourceBytes sampleLibrary sampleSha256 sampleSources = .ok b := by
  have hspecs : ∀ p ∈ sortedSpecs, p ∈ SOURCE_SPECS := fun p hp =>
    (List.perm_insertionSort _ SOURCE_SPECS).mem_iff.1 hp
  obtain ⟨compiled, hcompiled⟩ :=
    exists_mapM_eq_ok (f := compileSource sampleLibrary sampleSha256 sampleSources) fun p hp =>
      ⟨_, compileSource_eq_ok.2
        ⟨_, _, get_sample (hspecs p hp), parseSource_sample (hspecs p hp), rfl⟩⟩
  have hcompiles : Compiles sampleLibrary sampleSha256 sampleSources compiled := mapM_eq_ok.1 hcompiled
  have hdocuments : (Json.obj (documentsOf compiled)).sound = true := by
    have hkeys : (documentsOf compiled).map Prod.fst = compiled.map Prod.fst := by
      rw [documentsOf, List.map_map]
      rfl
    rw [Json.sound, Bool.and_eq_true, decide_eq_true_eq, hkeys]
    refine ⟨nodup_of_compiles hcompiles, (soundFields_iff _).2 fun f hf => ?_⟩
    obtain ⟨c, hc, rfl⟩ := List.mem_map.1 hf
    obtain ⟨p, hp, hpc⟩ := of_mem_mapM_eq_ok hcompiled hc
    obtain ⟨raw, document, hraw, hparse, rfl⟩ := compileSource_eq_ok.1 hpc
    cases (get_sample (hspecs p hp)).symm.trans hraw
    cases (parseSource_sample (hspecs p hp)).symm.trans hparse
    rw [← sortKeys_sample]
    exact sound_sortKeys _ (sound_sample (hspecs p hp))
  have hrecords := sound_records hcompiles
  have hnames : ∀ name, name ∈ sampleSources.names ↔ name ∈ SOURCE_SPECS.map Prod.fst := by
    intro name
    rw [Sources.names, sampleSources, List.map_map]
    rfl
  exact ⟨_, compileSourceBytes_iff.2 ⟨hnames, compiled, _, hcompiles,
    if_pos (sound_digestInput.2 ⟨hdocuments, hrecords⟩),
    if_pos (sound_bundle.2 ⟨hdocuments, hrecords⟩)⟩⟩

theorem compile_decode_sample : ∃ b value documents,
    compileSourceBytes sampleLibrary sampleSha256 sampleSources = .ok b ∧
      decodeGeneratedResource sampleLibrary sampleSha256 b "contracts" = .ok value ∧
      parsedDocuments sampleLibrary sampleSources = .ok documents ∧
      get value "documents" = .obj documents := by
  obtain ⟨b, hb⟩ := compile_sample
  obtain ⟨hround, -⟩ := compile_decode sampleLibrary sampleSha256 sampleSha256_injective "contracts"
  obtain ⟨value, documents, hdecode, hdocuments, hvalue⟩ := hround sampleSources b hb
  exact ⟨b, value, documents, hb, hdecode, hdocuments, hvalue⟩

end ContractCompiler
