/-
**The exceptions that leave the contract compiler.**

The compiler has one exception of its own, `ContractCompilationError`, and translates `YAMLError` and
undecodable bytes into it.  Other exceptions are not translated: what a constructor of the loader
raises, `TypeError` where unknown keys of different types are sorted, `ValueError` where a long
integer is printed, `RecursionError` where the canonical form follows a reference back or a value lies
deeper than the stack has room for, and `UnicodeEncodeError` where a lone surrogate is written.  What the
canonical form has gone through is taken to be written with less of the stack, and the memory to suffice.

What leaves the compiler is the first fault of the source set: the names first, then source by source
what reading, loading, checking and canonicalising it meet, at last what cannot be written.  Hence
the compiler ends with bytes or with its own exception exactly if that fault is its own.

Main definitions:

* `CompilerExceptions.parseSource`, `CompilerExceptions.compileSourceBytes` — the compiler;
* `CompilerExceptions.compileFaults` — the faults of a source set, in the order in which they are met;
* `CompilerExceptions.Contained` — the compiler ends with bytes or with its own exception.

Main results:

* `CompilerExceptions.compileSourceBytes_meets` — **what is raised is the first fault**;
* `CompilerExceptions.contained_iff` — **nothing else leaves the compiler exactly if the first fault
  is its own**.
-/

import FaultWitness.YamlLoading

set_option autoImplicit false

namespace CompilerExceptions

open Python FirstFaults
open ContractCompiler (SOURCE_SPECS SourceSpec sortedSpecs Sources CONTRACTS_VERSION
  RESOURCE_FORMAT_VERSION)

/-! ### What is printed -/

mutual

/-- The scalars in a node, the keys among them. -/
def Node.scalars : Node → List Scalar
  | .scalar s => [s]
  | .seq items => scalarsItems items
  | .special _ parts => scalarsItems parts
  | .mapping pairs => scalarsPairs pairs
  | _ => []

def scalarsItems : List Node → List Scalar
  | [] => []
  | node :: nodes => node.scalars ++ scalarsItems nodes

def scalarsPairs : List (Node × Node) → List Scalar
  | [] => []
  | (key, value) :: pairs => key.scalars ++ (value.scalars ++ scalarsPairs pairs)

end

mutual

/-- The node refers to the collection that is so many collections away from it. -/
def Node.refersTo : ℕ → Node → Bool
  | away, .openAlias between => between = away
  | away, .seq items => refersItems (away + 1) items
  | away, .special _ parts => refersItems (away + 1) parts
  | away, .mapping pairs => refersPairs (away + 1) pairs
  | _, _ => false

def refersItems : ℕ → List Node → Bool
  | _, [] => false
  | away, node :: nodes => node.refersTo away || refersItems away nodes

def refersPairs : ℕ → List (Node × Node) → Bool
  | _, [] => false
  | away, (key, value) :: pairs =>
    key.refersTo away || (value.refersTo away || refersPairs away pairs)

end

mutual

def Document.scalars : Document → List Scalar
  | .scalar s => [s]
  | .list items => scalarsList items
  | .dict fields => scalarsDict fields

def scalarsList : List Document → List Scalar
  | [] => []
  | document :: documents => document.scalars ++ scalarsList documents

def scalarsDict : List (Text × Document) → List Scalar
  | [] => []
  | (key, document) :: fields => .str key :: (document.scalars ++ scalarsDict fields)

end

/-- UTF-8 has no lone surrogates. -/
def Scalar.encodable : Scalar → Bool
  | .str t => t.all fun c => !(0xD800 ≤ c && c ≤ 0xDFFF)
  | _ => true

/-! ### The compiler -/

/-- What a scalar can be compared with. -/
inductive Kind
  | null
  | number
  | text
  | other (name : String)
deriving DecidableEq

variable (lib : Library) (sha256 : ByteArray → String)

def Library.kind : Scalar → Kind
  | .null => .null
  | .bool _ | .int _ | .float _ => .number
  | .str _ => .text
  | .other typeName text => .other (lib.order typeName text)

/-- What is raised for unknown keys: they are sorted, and the message shows them. -/
def unknownKeys (spec : SourceSpec) (unknown : List Scalar) : Raised :=
  if ∃ a ∈ unknown, ∃ b ∈ unknown, lib.kind a ≠ lib.kind b then .foreign .typeError
  else if unknown.all Scalar.printable then .compilation (.unknownKeys spec.path unknown)
  else .foreign .valueError

/-- `parsed[key]`. -/
def valueUnder (parsed : List (Node × Node)) (key : String) : Option Node :=
  (parsed.find? fun p => p.1.text? = some (points key)).map Prod.snd

def textUnder (parsed : List (Node × Node)) (key : String) : Option Text :=
  (valueUnder parsed key).bind Node.text?

/-- What `repr` prints of a value in the document: what the value holds, and all of the document if
the value refers to it. -/
def shown (parsed : List (Node × Node)) (value : Node) : List Scalar :=
  value.scalars ++ if value.refersTo 0 then scalarsPairs parsed else []

/-- What is raised for another identity: the message shows the value. -/
def wrongIdentity (spec : SourceSpec) (parsed : List (Node × Node)) (field expected : String) :
    Raised :=
  if (valueUnder parsed field).any (lib.overflows parsed) then .foreign .recursionError
  else if ((valueUnder parsed field).toList.flatMap (shown parsed)).all Scalar.printable then
    .compilation (.wrongIdentity spec.path field expected)
  else .foreign .valueError

def missingOf (spec : SourceSpec) (parsed : List (Node × Node)) : List String :=
  spec.requiredKeys.filter fun key => parsed.all fun p => p.1.text? ≠ some (points key)

def unknownOf (spec : SourceSpec) (parsed : List (Node × Node)) : List Scalar :=
  (parsed.filterMap fun p => p.1.scalar?).filter fun key =>
    spec.allowedKeys.all fun allowed => key ≠ .str (points allowed)

/-- The version has the form that is asked for. -/
def wellVersioned (parsed : List (Node × Node)) : Bool :=
  (textUnder parsed "schema_version").any fun version => version.count '.'.toNat = 2

/-- What `_parse_source` checks of the document before it is canonicalised. -/
def checkDocument (name : String) (spec : SourceSpec) (parsed : List (Node × Node)) :
    Except Raised Unit := do
  let missing := missingOf spec parsed
  if missing ≠ [] then
    throw (.compilation (.missingKeys spec.path (missing.insertionSort (· ≤ ·))))
  let unknown := unknownOf spec parsed
  if unknown ≠ [] then throw (unknownKeys lib spec unknown)
  match spec.identity with
  | some (field, expected) =>
    if textUnder parsed field ≠ some (points expected) then
      throw (wrongIdentity lib spec parsed field expected)
  | none => pure ()
  if name ∉ ["openapi", "asyncapi"] ∧ wellVersioned parsed = false then
    throw (.compilation (.malformedVersion spec.path))

/-- `yaml.load`. -/
def Library.load (text : String) : Except Raised (Option Node) := do
  match ← (lib.compose text).mapError .foreign with
  | none => .ok none
  | some node => do
    CompilerExceptions.load lib node
    .ok (some node)

/-- `YAMLError` is the only exception that is translated. -/
def translate (path : String) : Raised → Raised
  | .foreign .yamlError => .compilation (.malformedYaml path)
  | e => e

/-- `_parse_source` for a name of the manifest and its entry, where the stack has room for so many calls
of `_canonical`. -/
def parseSource (limit : ℕ) (name : String) (spec : SourceSpec) (raw : ByteArray) :
    Except Raised Document :=
  match String.fromUTF8? raw with
  | none => .error (.compilation (.notUtf8 spec.path))
  | some text => do
    match ← (lib.load text).mapError (translate spec.path) with
    | some (.mapping parsed) => do
      checkDocument lib name spec parsed
      canonical spec.path limit [] (.mapping parsed)
    | _ => .error (.compilation (.notMapping spec.path))

mutual

/-- What `json.dumps` is given. -/
def Document.json : Document → Json
  | .scalar .null => .null
  | .scalar (.bool b) => .bool b
  | .scalar (.int n) => .int n
  | .scalar (.float text) => .float (lib.repr text)
  | .scalar (.str t) => .str (String.ofList (t.map Char.ofNat))
  | .scalar (.other _ text) => .str text
  | .list items => .arr (jsonList items)
  | .dict fields => .obj (jsonDict fields)

def jsonList : List Document → List Json
  | [] => []
  | document :: documents => document.json :: jsonList documents

def jsonDict : List (Text × Document) → List (String × Json)
  | [] => []
  | (key, document) :: fields =>
    (String.ofList (key.map Char.ofNat), document.json) :: jsonDict fields

end

/-- `_json_bytes`. -/
def jsonBytes (value : Document) : Except Raised ByteArray :=
  if value.scalars.all Scalar.printable = false then .error (.foreign .valueError)
  else if value.scalars.all Scalar.encodable = false then .error (.foreign .unicodeEncodeError)
  else .ok ((value.json lib).dumpsWith quoteRaw ++ "\n").toUTF8

def text (s : String) : Document := .scalar (.str (points s))

def record (spec : SourceSpec) (digest : String) : Document :=
  .dict [(points "path", text spec.path), (points "sha256", text digest)]

def compileSource (limit : ℕ) (sources : Sources) (p : String × SourceSpec) :
    Except Raised (String × Document × Document) :=
  match sources.get p.1 with
  | none => .error (.compilation (.missingSources [p.1]))
  | some raw => do
    let document ← parseSource lib limit p.1 p.2 raw
    .ok (p.1, document, record p.2 (sha256 raw))

def digestInput (compiled : List (String × Document × Document)) : List (Text × Document) :=
  [(points "contracts_version", text CONTRACTS_VERSION),
    (points "documents", .dict (compiled.map fun c => (points c.1, c.2.1))),
    (points "format_version", text RESOURCE_FORMAT_VERSION),
    (points "sources", .dict (compiled.map fun c => (points c.1, c.2.2)))]

def compileSourceBytes (limit : ℕ) (sources : Sources) : Except Raised ByteArray := do
  let missing := (SOURCE_SPECS.map Prod.fst).filter (· ∉ sources.names)
  if missing ≠ [] then throw (.compilation (.missingSources (missing.insertionSort (· ≤ ·))))
  let unknown := sources.names.filter (· ∉ SOURCE_SPECS.map Prod.fst)
  if unknown ≠ [] then throw (.compilation (.unknownSources (unknown.insertionSort (· ≤ ·))))
  let compiled ← sortedSpecs.mapM (compileSource lib sha256 limit sources)
  let input ← jsonBytes lib (.dict (digestInput compiled))
  jsonBytes lib (.dict ((points "artifact_sha256", text (sha256 input)) :: digestInput compiled))

/-! ### The faults of a source set -/

/-- What the checks of a document can meet. -/
def documentFaults (name : String) (spec : SourceSpec) (parsed : List (Node × Node)) : List Raised :=
  let missing := missingOf spec parsed
  let unknown := unknownOf spec parsed
  (if missing ≠ [] then
    [.compilation (.missingKeys spec.path (missing.insertionSort (· ≤ ·)))] else []) ++
  ((if unknown ≠ [] then [unknownKeys lib spec unknown] else []) ++
  ((match spec.identity with
    | some (field, expected) =>
      if textUnder parsed field ≠ some (points expected) then
        [wrongIdentity lib spec parsed field expected] else []
    | none => []) ++
  (if name ∉ ["openapi", "asyncapi"] ∧ wellVersioned parsed = false then
    [.compilation (.malformedVersion spec.path)] else [])))

/-- What a composed document can meet. -/
def nodeFaults (limit : ℕ) (name : String) (spec : SourceSpec) (node : Node) : List Raised :=
  (loadFaults lib node).map (translate spec.path) ++
    match node with
    | .mapping parsed => documentFaults lib name spec parsed ++ canonicalFaults spec.path limit node
    | _ => [.compilation (.notMapping spec.path)]

/-- What the bytes of a source can meet. -/
def sourceFaults (limit : ℕ) (name : String) (spec : SourceSpec) (raw : ByteArray) : List Raised :=
  match String.fromUTF8? raw with
  | none => [.compilation (.notUtf8 spec.path)]
  | some text =>
    match lib.compose text with
    | .error e => [translate spec.path (.foreign e)]
    | .ok none => [.compilation (.notMapping spec.path)]
    | .ok (some node) => nodeFaults lib limit name spec node

/-- The node that the bytes of a source are composed to. -/
def nodeOf (raw : ByteArray) : Option Node :=
  (String.fromUTF8? raw).bind fun text => (lib.compose text).toOption.join

/-- The scalars that are written. -/
def written (sources : Sources) : List Scalar :=
  sortedSpecs.flatMap fun p => (((sources.get p.1).bind (nodeOf lib)).toList).flatMap Node.scalars

/-- What writing the documents can meet. -/
def writingFaults (sources : Sources) : List Raised :=
  if (written lib sources).all Scalar.printable = false then [.foreign .valueError]
  else if (written lib sources).all Scalar.encodable = false then [.foreign .unicodeEncodeError]
  else []

/-- **The faults of a source set**, in the order in which the compiler can meet them. -/
def compileFaults (limit : ℕ) (sources : Sources) : List Raised :=
  let missing := (SOURCE_SPECS.map Prod.fst).filter (· ∉ sources.names)
  let unknown := sources.names.filter (· ∉ SOURCE_SPECS.map Prod.fst)
  (if missing ≠ [] then
    [.compilation (.missingSources (missing.insertionSort (· ≤ ·)))] else []) ++
  ((if unknown ≠ [] then
    [.compilation (.unknownSources (unknown.insertionSort (· ≤ ·)))] else []) ++
  ((sortedSpecs.flatMap fun p =>
    ((sources.get p.1).toList).flatMap (sourceFaults lib limit p.1 p.2)) ++
    writingFaults lib sources))

/-- The compiler ends with bytes or with its own exception. -/
def Contained (r : Except Raised ByteArray) : Prop :=
  ∀ e, r = .error e → ∃ refusal, e = .compilation refusal

/-! ### A source raises its first fault -/

variable {lib} {sha256}

variable {p : String × SourceSpec}

theorem checkDocument_meets (name : String) (spec : SourceSpec) (parsed : List (Node × Node)) :
    Meets (checkDocument lib name spec parsed) (documentFaults lib name spec parsed) := by
  have hversion : ∀ err : Raised, Meets
      (if name ∉ ["openapi", "asyncapi"] ∧ wellVersioned parsed = false then throw err
        else pure () : Except Raised Unit)
      (if name ∉ ["openapi", "asyncapi"] ∧ wellVersioned parsed = false then [err] else []) := by
    intro err
    split
    · exact meets_error err []
    · exact meets_ok ()
  rw [checkDocument, documentFaults]
  refine meets_check fun _ => meets_check fun _ => ?_
  cases spec.identity with
  | none => exact hversion _
  | some identity =>
    obtain ⟨field, expected⟩ := identity
    exact meets_check fun _ => hversion _

theorem load_eq_ok {text : String} {loaded : Option Node} (h : lib.load text = .ok loaded) :
    lib.compose text = .ok loaded := by
  obtain ⟨composed, hcomposed, h⟩ := bind_eq_ok.1 h
  have hcompose := of_mapError_eq_ok hcomposed
  cases composed with
  | none =>
    cases h
    exact hcompose
  | some node =>
    obtain ⟨_, -, h⟩ := bind_eq_ok.1 h
    cases h
    exact hcompose

theorem parseSource_meets (limit : ℕ) (name : String) (spec : SourceSpec) (raw : ByteArray) :
    Meets (parseSource lib limit name spec raw) (sourceFaults lib limit name spec raw) := by
  rw [parseSource, sourceFaults]
  cases String.fromUTF8? raw with
  | none => exact meets_error _ []
  | some text =>
    dsimp only
    cases hcompose : lib.compose text with
    | error e =>
      rw [Library.load, hcompose]
      exact meets_error _ []
    | ok composed =>
      cases composed with
      | none =>
        rw [Library.load, hcompose]
        exact meets_error _ []
      | some node =>
        have hload : Meets ((lib.load text).mapError (translate spec.path))
            ((loadFaults lib node).map (translate spec.path)) := by
          refine Meets.mapError ?_ _
          rw [Library.load, hcompose]
          exact (load_meets node).map fun _ => some node
        refine hload.bind fun loaded hloaded => ?_
        have hnode := (load_eq_ok (of_mapError_eq_ok hloaded)).symm.trans hcompose
        cases hnode
        cases node with
        | mapping parsed =>
          refine (checkDocument_meets name spec parsed).bind fun _ _ => ?_
          exact canonical_meets spec.path limit (.mapping parsed)
        | scalar s => exact meets_error _ []
        | raises e => exact meets_error _ []
        | seq items => exact meets_error _ []
        | special typeName parts => exact meets_error _ []
        | openAlias between => exact meets_error _ []

/-! ### What is written -/

theorem scalarsItems_eq_flatMap (nodes : List Node) :
    scalarsItems nodes = nodes.flatMap Node.scalars := by
  induction nodes with
  | nil => rfl
  | cons node nodes ih => rw [scalarsItems, ih, List.flatMap_cons]

theorem scalarsPairs_eq_flatMap (pairs : List (Node × Node)) :
    scalarsPairs pairs = pairs.flatMap fun p => p.1.scalars ++ p.2.scalars := by
  induction pairs with
  | nil => rfl
  | cons p pairs ih => rw [scalarsPairs, ih, List.flatMap_cons, List.append_assoc]

theorem scalarsList_eq_flatMap (documents : List Document) :
    scalarsList documents = documents.flatMap Document.scalars := by
  induction documents with
  | nil => rfl
  | cons document documents ih => rw [scalarsList, ih, List.flatMap_cons]

theorem scalarsDict_eq_flatMap (fields : List (Text × Document)) :
    scalarsDict fields = fields.flatMap fun f => .str f.1 :: f.2.scalars := by
  induction fields with
  | nil => rfl
  | cons f fields ih => rw [scalarsDict, ih, List.flatMap_cons, List.cons_append]

theorem text?_eq_some {node : Node} {t : Text} : node.text? = some t ↔ node = .scalar (.str t) := by
  constructor
  · intro h
    unfold Node.text? at h
    split at h
    · cases h
      rfl
    · cases h
  · rintro rfl
    rfl

/-- The scalars of a mapping are its keys and those of its values. -/
theorem mem_scalars_mapping {pairs : List (Node × Node)} (hkeys : textKeys pairs = true) (s : Scalar) :
    s ∈ (Node.mapping pairs).scalars ↔ ∃ q ∈ sorted pairs, s = .str q.1 ∨ s ∈ q.2.scalars := by
  have hsorted : ∀ q, q ∈ sorted pairs ↔ ∃ p ∈ pairs, (p.1.text?.getD [], p.2) = q := by
    intro q
    rw [sorted, (List.perm_insertionSort _ _).mem_iff, keyed, List.mem_map]
  have hpair : ∀ p ∈ pairs, s ∈ p.1.scalars ++ p.2.scalars ↔
      s = .str (p.1.text?.getD []) ∨ s ∈ p.2.scalars := by
    intro p hp
    have hkey := List.all_eq_true.1 hkeys p hp
    obtain ⟨t, ht⟩ := Option.isSome_iff_exists.1 hkey
    rw [ht, text?_eq_some.1 ht, List.mem_append, Node.scalars, List.mem_singleton]
    rfl
  rw [Node.scalars, scalarsPairs_eq_flatMap, List.mem_flatMap]
  constructor
  · rintro ⟨p, hp, hs⟩
    exact ⟨_, (hsorted _).2 ⟨p, hp, rfl⟩, (hpair p hp).1 hs⟩
  · rintro ⟨q, hq, hs⟩
    obtain ⟨p, hp, rfl⟩ := (hsorted q).1 hq
    exact ⟨p, hp, (hpair p hp).2 hs⟩

/-- The canonical form has the scalars of the node. -/
theorem mem_scalars_canonical {source : String} (room : ℕ) : ∀ env node document,
    stops source room env.length node = [] → canonical source room env node = .ok document →
      ∀ s, s ∈ document.scalars ↔ s ∈ node.scalars := by
  induction room with
  | zero =>
    intro env node document hstops
    cases hstops
  | succ room ih =>
    intro env node document hstops h s
    cases node with
    | scalar value =>
      rw [canonical, resolve_scalar] at h
      dsimp only at h
      rw [stops] at hstops
      cases hunsupported : value.unsupported? with
      | some typeName =>
        rw [hunsupported] at hstops
        cases hstops
      | none =>
        rw [hunsupported] at h
        cases h
        exact Iff.rfl
    | raises e => cases h
    | seq items =>
      rw [canonical, resolve_seq] at h
      dsimp only at h
      rw [stops, List.flatMap_eq_nil_iff] at hstops
      obtain ⟨documents, hdocuments, h⟩ := bind_eq_ok.1 h
      cases h
      rw [Document.scalars, Node.scalars, scalarsList_eq_flatMap, scalarsItems_eq_flatMap,
        List.mem_flatMap, List.mem_flatMap]
      constructor
      · rintro ⟨document, hdocument, hs⟩
        obtain ⟨item, hitem, hcanonical⟩ := of_mem_mapM_eq_ok hdocuments hdocument
        exact ⟨item, hitem,
          (ih (.seq items :: env) item document (hstops item hitem) hcanonical s).1 hs⟩
      · rintro ⟨item, hitem, hs⟩
        obtain ⟨document, hdocument, hcanonical⟩ := exists_mem_of_mapM_eq_ok hdocuments hitem
        exact ⟨document, hdocument,
          (ih (.seq items :: env) item document (hstops item hitem) hcanonical s).2 hs⟩
    | special typeName parts => cases h
    | mapping pairs =>
      rw [canonical, resolve_mapping] at h
      dsimp only at h
      rw [stops] at hstops
      by_cases hkeys : textKeys pairs = true
      swap
      · rw [if_neg hkeys] at h
        cases h
      rw [if_pos hkeys] at h
      rw [if_pos hkeys, List.flatMap_eq_nil_iff] at hstops
      obtain ⟨fields, hfields, h⟩ := bind_eq_ok.1 h
      cases h
      have hvalue : ∀ q ∈ sorted pairs, ∀ value,
          canonical source room (.mapping pairs :: env) q.2 = .ok value →
          (s ∈ value.scalars ↔ s ∈ q.2.scalars) := fun q hq value hcanonical =>
        ih (.mapping pairs :: env) q.2 value (hstops q hq) hcanonical s
      rw [Document.scalars, scalarsDict_eq_flatMap, List.mem_flatMap, mem_scalars_mapping hkeys]
      constructor
      · rintro ⟨f, hf, hs⟩
        obtain ⟨q, hq, hfield⟩ := of_mem_mapM_eq_ok hfields hf
        obtain ⟨value, hcanonical, hfield⟩ := bind_eq_ok.1 hfield
        cases hfield
        exact ⟨q, hq, (List.mem_cons.1 hs).imp_right (hvalue q hq value hcanonical).1⟩
      · rintro ⟨q, hq, hs⟩
        obtain ⟨f, hf, hfield⟩ := exists_mem_of_mapM_eq_ok hfields hq
        obtain ⟨value, hcanonical, hfield⟩ := bind_eq_ok.1 hfield
        cases hfield
        exact ⟨_, hf, List.mem_cons.2 (hs.imp_right (hvalue q hq value hcanonical).2)⟩
    | openAlias between =>
      rw [stops] at hstops
      split at hstops
      · cases hstops
      · cases hstops

/-- The scalars of a parsed source are those of its node. -/
theorem mem_scalars_parseSource {limit : ℕ} {name : String} {spec : SourceSpec} {raw : ByteArray}
    {document : Document} (h : parseSource lib limit name spec raw = .ok document) :
    ∃ node, nodeOf lib raw = some node ∧ ∀ s, s ∈ document.scalars ↔ s ∈ node.scalars := by
  rw [parseSource] at h
  rw [nodeOf]
  cases hdecode : String.fromUTF8? raw with
  | none =>
    rw [hdecode] at h
    cases h
  | some text =>
    rw [hdecode] at h
    obtain ⟨loaded, hloaded, h⟩ := bind_eq_ok.1 h
    have hcompose := load_eq_ok (of_mapError_eq_ok hloaded)
    cases loaded with
    | none => cases h
    | some node =>
      refine ⟨node, ?_, ?_⟩
      · rw [Option.bind_some, hcompose]
        rfl
      · cases node with
        | mapping parsed =>
          obtain ⟨_, -, hcanonical⟩ := bind_eq_ok.1 h
          have hnone := (canonical_meets spec.path limit (.mapping parsed)).eq_nil hcanonical
          exact mem_scalars_canonical limit [] _ document (List.map_eq_nil_iff.1 hnone) hcanonical
        | scalar s => cases h
        | raises e => cases h
        | seq items => cases h
        | special typeName parts => cases h
        | openAlias between => cases h

/-! ### The compiler raises the first fault -/

theorem jsonBytes_meets (lib : Library) (value : Document) : Meets (jsonBytes lib value)
    (if value.scalars.all Scalar.printable = false then [.foreign .valueError]
      else if value.scalars.all Scalar.encodable = false then [.foreign .unicodeEncodeError]
      else []) := by
  rw [jsonBytes]
  split
  · exact meets_error _ []
  · split
    · exact meets_error _ []
    · exact meets_ok _

theorem encodable_points (s : String) : (Scalar.str (points s)).encodable = true := by
  rw [Scalar.encodable, List.all_eq_true]
  intro c hc
  obtain ⟨ch, -, rfl⟩ := List.mem_map.1 hc
  have hvalid := ch.valid
  simp only [Bool.not_eq_true', Bool.and_eq_false_iff, decide_eq_false_iff_not]
  rcases hvalid with hlow | ⟨hhigh, -⟩
  · left
    exact Nat.not_le_of_lt hlow
  · right
    exact Nat.not_le_of_lt hhigh

theorem compileSource_eq_ok {limit : ℕ} {sources : Sources} {c : String × Document × Document}
    (h : compileSource lib sha256 limit sources p = .ok c) :
    ∃ raw document, sources.get p.1 = some raw ∧ parseSource lib limit p.1 p.2 raw = .ok document ∧
      c = (p.1, document, record p.2 (sha256 raw)) := by
  rw [compileSource] at h
  cases hget : sources.get p.1 with
  | none =>
    rw [hget] at h
    cases h
  | some raw =>
    rw [hget] at h
    obtain ⟨document, hparse, h⟩ := bind_eq_ok.1 h
    cases h
    exact ⟨raw, document, rfl, hparse, rfl⟩

theorem all_dict (q : Scalar → Bool) (fields : List (Text × Document)) :
    (Document.dict fields).scalars.all q =
      fields.all fun f => q (.str f.1) && f.2.scalars.all q := by
  rw [Document.scalars, scalarsDict_eq_flatMap, List.all_flatMap]
  rfl

section Resource

variable {limit : ℕ} {sources : Sources} {compiled : List (String × Document × Document)}
  {q : Scalar → Bool}

/-- The scalars of the documents are those that are written. -/
theorem all_documents (hcompiled : sortedSpecs.mapM (compileSource lib sha256 limit sources) =
      .ok compiled) (q : Scalar → Bool) :
    (compiled.all fun c => c.2.1.scalars.all q) = (written lib sources).all q := by
  rw [Bool.eq_iff_iff, List.all_eq_true, List.all_eq_true]
  constructor
  · intro hall s hs
    obtain ⟨p, hp, hs⟩ := List.mem_flatMap.1 hs
    obtain ⟨node, hnode, hs⟩ := List.mem_flatMap.1 hs
    obtain ⟨c, hc, hcompile⟩ := exists_mem_of_mapM_eq_ok hcompiled hp
    obtain ⟨raw, document, hget, hparse, rfl⟩ := compileSource_eq_ok hcompile
    obtain ⟨node', hnode', hscalars⟩ := mem_scalars_parseSource hparse
    rw [hget, Option.bind_some, hnode', Option.mem_toList] at hnode
    cases hnode
    exact List.all_eq_true.1 (hall _ hc) s ((hscalars s).2 hs)
  · intro hall c hc
    obtain ⟨p, hp, hcompile⟩ := of_mem_mapM_eq_ok hcompiled hc
    obtain ⟨raw, document, hget, hparse, rfl⟩ := compileSource_eq_ok hcompile
    obtain ⟨node, hnode, hscalars⟩ := mem_scalars_parseSource hparse
    rw [List.all_eq_true]
    intro s hs
    refine hall s (List.mem_flatMap.2 ⟨p, hp, List.mem_flatMap.2 ⟨node, ?_, (hscalars s).1 hs⟩⟩)
    rw [hget, Option.bind_some, hnode, Option.mem_toList]

theorem all_record (hq : ∀ s, q (.str (points s)) = true)
    (hcompiled : sortedSpecs.mapM (compileSource lib sha256 limit sources) = .ok compiled)
    {c : String × Document × Document} (hc : c ∈ compiled) : c.2.2.scalars.all q = true := by
  obtain ⟨p, -, hcompile⟩ := of_mem_mapM_eq_ok hcompiled hc
  obtain ⟨raw, document, -, -, rfl⟩ := compileSource_eq_ok hcompile
  rw [record, all_dict]
  simp [text, Document.scalars, hq]

/-- What can be checked of the scalars of the resource is checked of those that are written. -/
theorem all_digestInput (hq : ∀ s, q (.str (points s)) = true)
    (hcompiled : sortedSpecs.mapM (compileSource lib sha256 limit sources) = .ok compiled) :
    (Document.dict (digestInput compiled)).scalars.all q = (written lib sources).all q := by
  have hdocuments : (Document.dict (compiled.map fun c => (points c.1, c.2.1))).scalars.all q =
      (written lib sources).all q := by
    rw [all_dict, List.all_map, ← all_documents hcompiled]
    simp [hq, Function.comp_def]
  have hrecords : (Document.dict (compiled.map fun c => (points c.1, c.2.2))).scalars.all q =
      true := by
    rw [all_dict, List.all_map, List.all_eq_true]
    intro c hc
    rw [Function.comp_apply, hq, all_record hq hcompiled hc]
    rfl
  rw [all_dict, digestInput, List.all_cons, List.all_cons, List.all_cons, List.all_cons, hdocuments,
    hrecords]
  simp [text, Document.scalars, hq]

theorem all_bundle (hq : ∀ s, q (.str (points s)) = true) (digest : String)
    (hcompiled : sortedSpecs.mapM (compileSource lib sha256 limit sources) = .ok compiled) :
    (Document.dict ((points "artifact_sha256", text digest) :: digestInput compiled)).scalars.all q =
      (written lib sources).all q := by
  rw [← all_digestInput hq hcompiled, all_dict, all_dict, List.all_cons]
  simp [text, Document.scalars, hq]

theorem compileSource_meets (hnames : ∀ p ∈ sortedSpecs, ∃ raw, sources.get p.1 = some raw)
    {p : String × SourceSpec} (hp : p ∈ sortedSpecs) :
    Meets (compileSource lib sha256 limit sources p)
      (((sources.get p.1).toList).flatMap (sourceFaults lib limit p.1 p.2)) := by
  obtain ⟨raw, hraw⟩ := hnames p hp
  rw [compileSource, hraw, Option.toList_some, List.flatMap_singleton]
  exact (parseSource_meets limit p.1 p.2 raw).map _

end Resource

theorem mem_specs (hp : p ∈ sortedSpecs) : p ∈ SOURCE_SPECS :=
  (List.perm_insertionSort _ SOURCE_SPECS).mem_iff.1 hp

theorem get_of_names {sources : Sources}
    (h : (SOURCE_SPECS.map Prod.fst).filter (· ∉ sources.names) = []) :
    ∀ p ∈ sortedSpecs, ∃ raw, sources.get p.1 = some raw := by
  intro p hp
  have hname := List.filter_eq_nil_iff.1 h p.1 (List.mem_map_of_mem (mem_specs hp))
  rw [decide_eq_true_eq, not_not] at hname
  obtain ⟨entry, hentry, hfst⟩ := List.mem_map.1 hname
  exact ⟨entry.2, (lookup_eq_some_iff sources.distinct).2 (hfst ▸ hentry)⟩

/-- **What the compiler raises is the first fault of the source set.** -/
theorem compileSourceBytes_meets (limit : ℕ) (sources : Sources) :
    Meets (compileSourceBytes lib sha256 limit sources) (compileFaults lib limit sources) := by
  rw [compileSourceBytes, compileFaults]
  refine meets_check fun hmissing => meets_check fun _ => ?_
  have hnames := get_of_names (not_not.1 hmissing)
  refine (meets_mapM fun p hp => compileSource_meets hnames hp).bind fun compiled hcompiled => ?_
  have hinput := jsonBytes_meets lib (.dict (digestInput compiled))
  rw [all_digestInput (fun s => rfl) hcompiled, all_digestInput encodable_points hcompiled] at hinput
  rw [← List.append_nil (writingFaults lib sources)]
  refine hinput.bind fun input hok => ?_
  -- the resource has the scalars of the input of its digest, which could be written
  have hnone := hinput.eq_nil hok
  have hbundle := jsonBytes_meets lib
    (.dict ((points "artifact_sha256", text (sha256 input)) :: digestInput compiled))
  rw [all_bundle (fun s => rfl) _ hcompiled, all_bundle encodable_points _ hcompiled, hnone] at hbundle
  exact hbundle

/-- **Nothing but its own exception leaves the compiler exactly if the first fault of the source set
is its own.** -/
theorem contained_iff (lib : Library) (sha256 : ByteArray → String) (limit : ℕ) (sources : Sources) :
    Contained (compileSourceBytes lib sha256 limit sources) ↔
      ∀ e ∈ (compileFaults lib limit sources).head?, ∃ refusal, e = .compilation refusal :=
  (compileSourceBytes_meets limit sources).forall_error_iff _

/-! ### Unknown keys of two types -/

def sampleText : String :=
  "asyncapi: 3.0.0\ninfo: a\ndefaultContentType: a\nchannels: a\noperations: a\ncomponents: a\n" ++
    "1: a\nextra: a\n"

def sampleEntry (key value : String) : Node × Node :=
  (.scalar (.str (points key)), .scalar (.str (points value)))

/-- What the text is composed to: of the two unknown keys one is a number. -/
def sampleFields : List (Node × Node) :=
  [sampleEntry "asyncapi" "3.0.0", sampleEntry "info" "a", sampleEntry "defaultContentType" "a",
    sampleEntry "channels" "a", sampleEntry "operations" "a", sampleEntry "components" "a",
    (.scalar (.int 1), .scalar (.str (points "a"))), sampleEntry "extra" "a"]

def sampleLibrary : Library where
  compose text := if text = sampleText then .ok (some (.mapping sampleFields)) else .error .yamlError
  same a b := a = b
  order typeName _ := typeName
  repr := id
  overflows _ _ := false

/-- The nested calls that the stack has room for. -/
def sampleLimit : ℕ := 500

/-- The text under every name of the manifest. -/
def sampleSources : Sources where
  entries := SOURCE_SPECS.map fun p => (p.1, sampleText.toUTF8)
  distinct := by
    rw [List.map_map]
    exact (by decide +kernel : (SOURCE_SPECS.map Prod.fst).Nodup)

theorem names_sample : sampleSources.names = SOURCE_SPECS.map Prod.fst := by
  rw [Sources.names, sampleSources, List.map_map]
  rfl

theorem get_sample (hp : p ∈ SOURCE_SPECS) : sampleSources.get p.1 = some sampleText.toUTF8 :=
  (lookup_eq_some_iff sampleSources.distinct).2 (List.mem_map_of_mem hp)

theorem head_nodeFaults_sample : ∃ p rest, sortedSpecs = p :: rest ∧
    (nodeFaults sampleLibrary sampleLimit p.1 p.2 (.mapping sampleFields)).head? = some (.foreign .typeError) := by
  refine ⟨_, _, rfl, ?_⟩
  decide +kernel

theorem head_compileFaults_sample :
    (compileFaults sampleLibrary sampleLimit sampleSources).head? = some (.foreign .typeError) := by
  obtain ⟨p, rest, hspecs, hhead⟩ := head_nodeFaults_sample
  have hp : p ∈ SOURCE_SPECS := mem_specs (hspecs ▸ List.mem_cons_self)
  have hfaults : sourceFaults sampleLibrary sampleLimit p.1 p.2 sampleText.toUTF8 =
      nodeFaults sampleLibrary sampleLimit p.1 p.2 (.mapping sampleFields) := by
    rw [sourceFaults, fromUTF8?_toUTF8]
    simp only [sampleLibrary, if_pos]
  have hmissing : (SOURCE_SPECS.map Prod.fst).filter (· ∉ sampleSources.names) = [] := by
    rw [names_sample, List.filter_eq_nil_iff]
    intro name hname
    rw [decide_eq_true_eq, not_not]
    exact hname
  have hunknown : sampleSources.names.filter (· ∉ SOURCE_SPECS.map Prod.fst) = [] := by
    rw [names_sample] at hmissing ⊢
    exact hmissing
  rw [compileFaults, hmissing, hunknown, hspecs, List.flatMap_cons, get_sample hp,
    Option.toList_some, List.flatMap_singleton, hfaults]
  simp only [ne_eq, not_true_eq_false, if_false, List.nil_append, List.append_assoc]
  rw [List.head?_append, hhead]
  rfl

/-- **A `TypeError` leaves the compiler**, for a number and a text among the unknown keys. -/
theorem not_contained : ¬ ∀ (lib : Library) (sha256 : ByteArray → String) (limit : ℕ)
    (sources : Sources), Contained (compileSourceBytes lib sha256 limit sources) := by
  intro h
  have hcontained := h sampleLibrary (fun _ => "") sampleLimit sampleSources
  have hmeets : Meets (compileSourceBytes sampleLibrary (fun _ => "") sampleLimit sampleSources)
      (compileFaults sampleLibrary sampleLimit sampleSources) :=
    compileSourceBytes_meets sampleLimit sampleSources
  obtain ⟨refusal, hrefusal⟩ := hcontained _ ((hmeets _).2 head_compileFaults_sample)
  cases hrefusal

end CompilerExceptions
