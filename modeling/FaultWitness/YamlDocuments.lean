/-
**YAML documents as the contract compiler reads them.**

The compiler loads each source with a safe loader that refuses a mapping in which a key comes twice,
and brings the result into a canonical JSON form: the keys of every mapping are sorted, and a key
that is no text or a value of another type than JSON has is refused.

What the loader composes, a tree of scalars, sequences and mappings, is a parameter; constructing
the values and canonicalising them is modelled.  A float is given by a text that stands for it, and
`repr` of it is the text that `json.dumps` prints.

The module also says what a node stands for, without the order in which the two functions work:
`Denotes`.  From it follows what the compiler relies on, that the order of a mapping does not matter.

Main definitions:

* `ContractCompiler.Tree`, `ContractCompiler.Key` — composed nodes and constructed values;
* `ContractCompiler.construct`, `ContractCompiler.canonical` — the two functions;
* `ContractCompiler.Denotes` — the JSON value a node stands for;
* `ContractCompiler.Reordered` — nodes that differ in the order of their mappings.

Main results:

* `ContractCompiler.canonical_iff` — **the two functions compute what the node stands for**;
* `ContractCompiler.denotes_of_reordered` — **reordering mappings changes nothing**.
-/

import FaultWitness.JsonCodec

set_option autoImplicit false

namespace ContractCompiler

open Python

/-! ### Nodes and values -/

/-- What the loader makes of a scalar.  A value of a type that JSON does not have, a date for
instance, is known by its type and its text. -/
inductive Scalar
  | null
  | bool (b : Bool)
  | int (n : ℤ)
  | float (text : String) (isFloat : isFloatText text = true)
  | str (s : String)
  | other (typeName text : String)
deriving DecidableEq

/-- A key of a mapping; a sequence or a mapping is no key, since it has no hash. -/
inductive Key
  | scalar (s : Scalar)
  | collection

/-- A tree of scalars, sequences and mappings.  With keys of type `Key` it is what is composed, with
scalars as keys what is constructed. -/
inductive Tree (K : Type)
  | scalar (s : Scalar)
  | seq (items : List (Tree K))
  | mapping (pairs : List (K × Tree K))

/-- The encodings that `json.loads` tells apart by the first bytes. -/
inductive Encoding
  | utf8
  | utf8sig
  | utf16
  | utf16be
  | utf16le
  | utf32
  | utf32be
  | utf32le
deriving DecidableEq

/-- The libraries under the compiler. -/
structure Library where
  /-- `yaml.compose`, with the keys that `<<` merges in their places; `none` is `YAMLError`. -/
  compose : String → Option (Tree Key)
  /-- Whether a dictionary takes two keys that are no texts for one. -/
  same : Scalar → Scalar → Bool
  /-- What `json.dumps` prints for the float that a text stands for. -/
  repr : String → String
  /-- Decoding bytes that are not in UTF-8. -/
  decode : Encoding → ByteArray → Option String
  isFloatText_repr : ∀ {text}, isFloatText text = true → isFloatText (repr text) = true
  /-- What is printed for a float stands for it. -/
  repr_repr : ∀ {text}, isFloatText text = true → repr (repr text) = repr text

/-- The ways in which compiling a source or decoding a resource fails. -/
inductive Error
  | missingSources (names : List String)
  | unknownSources (names : List String)
  | notUtf8 (path : String)
  | malformedYaml (path : String)
  | nonScalarKey
  | duplicateKey (key : Scalar)
  | notMapping (path : String)
  | missingKeys (path : String) (keys : List String)
  | unknownKeys (path : String) (keys : List Scalar)
  | wrongIdentity (path field expected : String)
  | malformedVersion (path : String)
  | keyNotText (source : String)
  | unsupported (source typeName : String)
  /-- `ValueError` of `json.dumps`, for an integer that `str` does not print. -/
  | unprintable
  | malformedResource (label : String)
  | notObject
  | unknownVersion
  | unknownFormat
  | integrity
deriving DecidableEq

/-! ### Constructing values -/

variable (lib : Library)

/-- Whether two keys are one key of a dictionary. -/
def Library.sameKey : Scalar → Scalar → Bool
  | .str s, .str t => s = t
  | .str _, _ => false
  | _, .str _ => false
  | a, b => lib.same a b

mutual

/-- `construct_object`. -/
def construct : Tree Key → Except Error (Tree Scalar)
  | .scalar s => .ok (.scalar s)
  | .seq items => do return .seq (← constructItems items)
  | .mapping pairs => do return .mapping (← constructMapping pairs [])

def constructItems : List (Tree Key) → Except Error (List (Tree Scalar))
  | [] => .ok []
  | node :: nodes => do
    let value ← construct node
    return value :: (← constructItems nodes)

/-- The loop of `_construct_mapping`. -/
def constructMapping : List (Key × Tree Key) → List (Scalar × Tree Scalar) →
    Except Error (List (Scalar × Tree Scalar))
  | [], result => .ok result
  | (.collection, _) :: _, _ => .error .nonScalarKey
  | (.scalar key, node) :: pairs, result =>
    if result.any fun entry => lib.sameKey entry.1 key then .error (.duplicateKey key)
    else do
      let value ← construct node
      constructMapping pairs (result ++ [(key, value)])

end

/-! ### The canonical form -/

/-- The JSON value of a scalar, `none` for a type that JSON does not have. -/
def Scalar.json : Scalar → Option Json
  | .null => some .null
  | .bool b => some (.bool b)
  | .int n => some (.int n)
  | .float text _ => some (.float (lib.repr text))
  | .str s => some (.str s)
  | .other _ _ => none

def Scalar.text? : Scalar → Option String
  | .str s => some s
  | _ => none

def Scalar.typeName : Scalar → String
  | .other name _ => name
  | _ => ""

mutual

/-- `_canonical`: the keys of a mapping are visited in their order. -/
def canonical (source : String) : Tree Scalar → Except Error Json
  | .mapping pairs =>
    if pairs.all fun p => p.1.text?.isSome then do
      let fields ← ((canonicalPairs source pairs).insertionSort fun a b => a.1 ≤ b.1).mapM
        fun p => do return (p.1, ← p.2)
      return .obj fields
    else .error (.keyNotText source)
  | .seq items => do return .arr (← canonicalItems source items)
  | .scalar s =>
    match s.json lib with
    | some j => .ok j
    | none => .error (.unsupported source s.typeName)

def canonicalItems (source : String) : List (Tree Scalar) → Except Error (List Json)
  | [] => .ok []
  | value :: values => do
    let item ← canonical source value
    return item :: (← canonicalItems source values)

/-- The canonical form of each value, under its key. -/
def canonicalPairs (source : String) : List (Scalar × Tree Scalar) → List (String × Except Error Json)
  | [] => []
  | (key, value) :: pairs => (key.text?.getD "", canonical source value) :: canonicalPairs source pairs

end

/-! ### What a node stands for -/

mutual

/-- **The JSON value that a node stands for**: every key is a text and comes once, every scalar has a
type of JSON, and the keys are sorted. -/
def Denotes : Tree Key → Json → Prop
  | .scalar s, j => s.json lib = some j
  | .seq items, j => ∃ js, DenotesItems items js ∧ j = .arr js
  | .mapping pairs, j => ∃ fs, DenotesPairs pairs fs ∧ (fs.map Prod.fst).Nodup ∧
      j = .obj (fs.insertionSort fun a b => a.1 ≤ b.1)

def DenotesItems : List (Tree Key) → List Json → Prop
  | [], js => js = []
  | node :: nodes, js => ∃ j js', Denotes node j ∧ DenotesItems nodes js' ∧ js = j :: js'

def DenotesPairs : List (Key × Tree Key) → List (String × Json) → Prop
  | [], fs => fs = []
  | (key, node) :: pairs, fs => ∃ s j fs', key = .scalar (.str s) ∧ Denotes node j ∧
      DenotesPairs pairs fs' ∧ fs = (s, j) :: fs'

end

/-! ### The two functions compute it -/

/-- No two keys are one. -/
def Apart (entries : List (Scalar × Tree Scalar)) : Prop :=
  entries.Pairwise fun a b => lib.sameKey a.1 b.1 = false

/-- A pair is constructed to an entry. -/
def Constructs (p : Key × Tree Key) (q : Scalar × Tree Scalar) : Prop :=
  p.1 = .scalar q.1 ∧ construct lib p.2 = .ok q.2

/-- An entry is canonicalised to a field. -/
def Canonicalises (source : String) (q : Scalar × Tree Scalar) (f : String × Json) : Prop :=
  q.1 = .str f.1 ∧ canonical lib source q.2 = .ok f.2

variable {lib}

variable {entries : List (Scalar × Tree Scalar)} {source : String} {fs : List (String × Json)}
  {values : List (Tree Scalar)}

theorem constructItems_eq_mapM (nodes : List (Tree Key)) :
    constructItems lib nodes = nodes.mapM (construct lib) := by
  induction nodes with
  | nil => rfl
  | cons node nodes ih =>
    rw [constructItems, ih, List.mapM_cons]

theorem constructItems_eq_ok {nodes : List (Tree Key)} :
    constructItems lib nodes = .ok values ↔
      List.Forall₂ (fun n v => construct lib n = .ok v) nodes values := by
  rw [constructItems_eq_mapM]
  exact mapM_eq_ok

theorem apart_append {new : List (Scalar × Tree Scalar)} {q : Scalar × Tree Scalar} :
    Apart lib (entries ++ q :: new) → entries.any (fun e => lib.sameKey e.1 q.1) = false := by
  intro h
  rw [List.any_eq_false]
  intro e he
  rw [Apart, List.pairwise_append] at h
  rw [h.2.2 e he q List.mem_cons_self]
  exact Bool.false_ne_true

/-- The loop adds an entry for each pair, as long as the keys are apart. -/
theorem constructMapping_eq_ok {pairs : List (Key × Tree Key)}
    {result : List (Scalar × Tree Scalar)} (hresult : Apart lib result) :
    constructMapping lib pairs result = .ok entries ↔
      ∃ new, entries = result ++ new ∧ List.Forall₂ (Constructs lib) pairs new ∧ Apart lib entries := by
  induction pairs generalizing result with
  | nil =>
    rw [constructMapping]
    constructor
    · intro h
      cases h
      exact ⟨[], (List.append_nil _).symm, .nil, hresult⟩
    · rintro ⟨new, rfl, hnew, -⟩
      rw [List.forall₂_nil_left_iff.1 hnew, List.append_nil]
  | cons p pairs ih =>
    obtain ⟨key, node⟩ := p
    cases key with
    | collection =>
      rw [constructMapping]
      constructor
      · intro h
        cases h
      · rintro ⟨new, -, hnew, -⟩
        obtain ⟨q, -, hq, -, -⟩ := List.forall₂_cons_left_iff.1 hnew
        cases hq.1
    | scalar key =>
      rw [constructMapping]
      have happend : ∀ q : Scalar × Tree Scalar, ∀ new, result ++ [q] ++ new = result ++ q :: new :=
        fun q new => by rw [List.append_assoc, List.singleton_append]
      have hsnoc : ∀ value, (result.any fun e => lib.sameKey e.1 key) = false →
          Apart lib (result ++ [(key, value)]) := by
        intro value hfresh
        rw [Apart, List.pairwise_append]
        refine ⟨hresult, List.pairwise_singleton _ _, fun e he q hq => ?_⟩
        rw [List.mem_singleton.1 hq]
        simpa using (List.any_eq_false.1 hfresh) e he
      split
      · rename_i hdup
        constructor
        · intro h
          cases h
        · rintro ⟨new, rfl, hnew, hapart⟩
          obtain ⟨q, new, ⟨hkey, -⟩, -, rfl⟩ := List.forall₂_cons_left_iff.1 hnew
          cases hkey
          rw [apart_append hapart] at hdup
          cases hdup
      · rename_i hfresh
        rw [Bool.not_eq_true] at hfresh
        rw [bind_eq_ok]
        constructor
        · rintro ⟨value, hvalue, h⟩
          obtain ⟨new, rfl, hnew, hapart⟩ := (ih (hsnoc value hfresh)).1 h
          rw [happend] at hapart ⊢
          exact ⟨_, rfl, .cons ⟨rfl, hvalue⟩ hnew, hapart⟩
        · rintro ⟨new, rfl, hnew, hapart⟩
          obtain ⟨q, rest, ⟨hkey, hvalue⟩, hrest, rfl⟩ := List.forall₂_cons_left_iff.1 hnew
          cases hkey
          exact ⟨q.2, hvalue, (ih (hsnoc q.2 hfresh)).2 ⟨rest, (happend q rest).symm, hrest, hapart⟩⟩

theorem canonicalItems_eq_mapM (source : String) (values : List (Tree Scalar)) :
    canonicalItems lib source values = values.mapM (canonical lib source) := by
  induction values with
  | nil => rfl
  | cons value values ih =>
    rw [canonicalItems, ih, List.mapM_cons]

theorem canonicalItems_eq_ok {js : List Json} :
    canonicalItems lib source values = .ok js ↔
      List.Forall₂ (fun v j => canonical lib source v = .ok j) values js := by
  rw [canonicalItems_eq_mapM]
  exact mapM_eq_ok

theorem canonicalPairs_eq_map (source : String) (entries : List (Scalar × Tree Scalar)) :
    canonicalPairs lib source entries =
      entries.map fun q => (q.1.text?.getD "", canonical lib source q.2) := by
  induction entries with
  | nil => rfl
  | cons q entries ih => rw [canonicalPairs, ih, List.map_cons]

theorem text_eq_some {s : Scalar} {t : String} : s.text? = some t ↔ s = .str t := by
  cases s <;> simp [Scalar.text?]

theorem canonicalPairs_of_forall₂ (h : List.Forall₂ (Canonicalises lib source) entries fs) :
    canonicalPairs lib source entries = fs.map fun f => (f.1, .ok f.2) := by
  induction h with
  | nil => rfl
  | @cons q f entries fs hq _ ih =>
    obtain ⟨hkey, hvalue⟩ := hq
    obtain ⟨key, value⟩ := q
    cases hkey
    rw [canonicalPairs, ih, hvalue, List.map_cons]
    rfl

theorem mapM_ok (fs : List (String × Json)) :
    (fs.map fun f => (f.1, Except.ok f.2)).mapM
      (fun p : String × Except Error Json => do return (p.1, ← p.2)) = .ok fs := by
  induction fs with
  | nil => rfl
  | cons f fs ih =>
    rw [List.map_cons, List.mapM_cons, ih]
    rfl

theorem keys_of_forall₂ (h : List.Forall₂ (Canonicalises lib source) entries fs) :
    entries.map Prod.fst = fs.map fun f => Scalar.str f.1 := by
  induction h with
  | nil => rfl
  | cons hq _ ih => rw [List.map_cons, List.map_cons, ih, hq.1]

theorem exists_fields (h : ∀ q ∈ entries, ∃ f, Canonicalises lib source q f) :
    ∃ fs, List.Forall₂ (Canonicalises lib source) entries fs := by
  induction entries with
  | nil => exact ⟨[], .nil⟩
  | cons q entries ih =>
    obtain ⟨f, hf⟩ := h q List.mem_cons_self
    obtain ⟨fs, hfs⟩ := ih fun p hp => h p (List.mem_cons_of_mem _ hp)
    exact ⟨f :: fs, .cons hf hfs⟩

/-- A mapping is canonicalised field by field, and the fields are sorted. -/
theorem canonical_mapping_eq_ok {j : Json} :
    canonical lib source (.mapping entries) = .ok j ↔
      ∃ fs, List.Forall₂ (Canonicalises lib source) entries fs ∧
        j = .obj (fs.insertionSort fun a b => a.1 ≤ b.1) := by
  have hsorted : ∀ fs, List.Forall₂ (Canonicalises lib source) entries fs →
      ((canonicalPairs lib source entries).insertionSort fun a b => a.1 ≤ b.1).mapM
        (fun p : String × Except Error Json => do return (p.1, ← p.2)) =
          .ok (fs.insertionSort fun a b => a.1 ≤ b.1) := by
    intro fs hfs
    rw [canonicalPairs_of_forall₂ hfs, map_sort, mapM_ok]
  rw [canonical]
  constructor
  · intro h
    split at h
    · rename_i htext
      obtain ⟨fields, hfields, h⟩ := bind_eq_ok.1 h
      have hvalues : ∀ q ∈ entries, ∃ f, Canonicalises lib source q f := by
        intro q hq
        obtain ⟨t, ht⟩ := Option.isSome_iff_exists.1 ((List.all_eq_true.1 htext) q hq)
        have hmem : (q.1.text?.getD "", canonical lib source q.2) ∈
            (canonicalPairs lib source entries).insertionSort fun a b => a.1 ≤ b.1 := by
          rw [(List.perm_insertionSort _ _).mem_iff, canonicalPairs_eq_map]
          exact List.mem_map_of_mem hq
        obtain ⟨f, -, hf⟩ := exists_mem_of_mapM_eq_ok hfields hmem
        obtain ⟨j, hj, -⟩ := bind_eq_ok.1 hf
        exact ⟨(t, j), text_eq_some.1 ht, hj⟩
      obtain ⟨fs, hfs⟩ := exists_fields hvalues
      cases h
      cases (hsorted fs hfs).symm.trans hfields
      exact ⟨fs, hfs, rfl⟩
    · cases h
  · rintro ⟨fs, hfs, rfl⟩
    have htext : (entries.all fun q => q.1.text?.isSome) = true := by
      rw [List.all_eq_true]
      intro q hq
      have hmem := List.mem_map_of_mem (f := Prod.fst) hq
      rw [keys_of_forall₂ hfs] at hmem
      obtain ⟨f, -, hf⟩ := List.mem_map.1 hmem
      rw [← hf]
      rfl
    rw [if_pos htext, hsorted fs hfs]
    rfl

/-- Keys that are texts are apart if they are distinct. -/
theorem apart_iff (h : List.Forall₂ (Canonicalises lib source) entries fs) :
    Apart lib entries ↔ (fs.map Prod.fst).Nodup := by
  induction h with
  | nil => simp [Apart]
  | @cons q f entries fs hq hrest ih =>
    rw [Apart, List.pairwise_cons, List.map_cons, List.nodup_cons, ← ih, Apart]
    refine and_congr_left fun _ => ?_
    have hall : (∀ p ∈ entries, lib.sameKey q.1 p.1 = false) ↔
        ∀ key ∈ entries.map Prod.fst, lib.sameKey q.1 key = false := by simp
    rw [hall, keys_of_forall₂ hrest, hq.1]
    constructor
    · intro h hmem
      obtain ⟨g, hg, heq⟩ := List.mem_map.1 hmem
      have hsame := h _ (List.mem_map_of_mem hg)
      simp [Library.sameKey, heq] at hsame
    · intro h key hkey
      obtain ⟨g, hg, rfl⟩ := List.mem_map.1 hkey
      have hne : f.1 ≠ g.1 := fun heq => h (heq ▸ List.mem_map_of_mem hg)
      simp [Library.sameKey, hne]

theorem nodup_of_construct {node : Tree Key} (hnode : construct lib node = .ok (.mapping entries))
    (hfs : List.Forall₂ (Canonicalises lib source) entries fs) : (fs.map Prod.fst).Nodup := by
  cases node with
  | scalar s => cases hnode
  | seq items =>
    rw [construct] at hnode
    obtain ⟨values, -, h⟩ := bind_eq_ok.1 hnode
    cases h
  | mapping pairs =>
    rw [construct] at hnode
    obtain ⟨entries, hentries, h⟩ := bind_eq_ok.1 hnode
    cases h
    obtain ⟨-, -, -, hapart⟩ := (constructMapping_eq_ok List.Pairwise.nil).1 hentries
    exact (apart_iff hfs).1 hapart

mutual

theorem denotes_iff (source : String) : ∀ (node : Tree Key) (j : Json), Denotes lib node j ↔
    ∃ value, construct lib node = .ok value ∧ canonical lib source value = .ok j
  | .scalar s, j => by
    simp only [Denotes, construct, Except.ok.injEq, exists_eq_left', canonical]
    cases s.json lib <;> simp
  | .seq nodes, j => by
    rw [Denotes]
    constructor
    · rintro ⟨js, hjs, rfl⟩
      obtain ⟨values, hvalues, hcanonical⟩ := (denotesItems_iff source nodes js).1 hjs
      refine ⟨.seq values, ?_, ?_⟩
      · rw [construct, constructItems_eq_ok.2 hvalues]
        rfl
      · rw [canonical, canonicalItems_eq_ok.2 hcanonical]
        rfl
    · rintro ⟨value, hvalue, hj⟩
      rw [construct] at hvalue
      obtain ⟨values, hvalues, hvalue⟩ := bind_eq_ok.1 hvalue
      cases hvalue
      rw [canonical] at hj
      obtain ⟨js, hjs, hj⟩ := bind_eq_ok.1 hj
      cases hj
      exact ⟨js, (denotesItems_iff source nodes js).2
        ⟨values, constructItems_eq_ok.1 hvalues, canonicalItems_eq_ok.1 hjs⟩, rfl⟩
  | .mapping pairs, j => by
    rw [Denotes]
    have hstart : Apart lib [] := List.Pairwise.nil
    constructor
    · rintro ⟨fs, hfs, hnodup, rfl⟩
      obtain ⟨entries, hentries, hcanonical⟩ := (denotesPairs_iff source pairs fs).1 hfs
      have hapart : Apart lib entries := (apart_iff hcanonical).2 hnodup
      refine ⟨.mapping entries, ?_, canonical_mapping_eq_ok.2 ⟨fs, hcanonical, rfl⟩⟩
      have hmapping := (constructMapping_eq_ok hstart).2 ⟨entries, rfl, hentries, hapart⟩
      rw [List.nil_append] at hmapping
      rw [construct, hmapping]
      rfl
    · rintro ⟨value, hvalue, hj⟩
      rw [construct] at hvalue
      obtain ⟨entries, hentries, hvalue⟩ := bind_eq_ok.1 hvalue
      cases hvalue
      obtain ⟨new, hnew, hpairs, hapart⟩ := (constructMapping_eq_ok hstart).1 hentries
      rw [List.nil_append] at hnew
      subst hnew
      obtain ⟨fs, hfs, rfl⟩ := canonical_mapping_eq_ok.1 hj
      exact ⟨fs, (denotesPairs_iff source pairs fs).2 ⟨_, hpairs, hfs⟩, (apart_iff hfs).1 hapart, rfl⟩

theorem denotesItems_iff (source : String) : ∀ (nodes : List (Tree Key)) (js : List Json),
    DenotesItems lib nodes js ↔ ∃ values, List.Forall₂ (fun n v => construct lib n = .ok v) nodes values ∧
      List.Forall₂ (fun v j => canonical lib source v = .ok j) values js
  | [], js => by simp [DenotesItems]
  | node :: nodes, js => by
    rw [DenotesItems]
    constructor
    · rintro ⟨j, js, hj, hjs, rfl⟩
      obtain ⟨value, hvalue, hcanonical⟩ := (denotes_iff source node j).1 hj
      obtain ⟨values, hvalues, hrest⟩ := (denotesItems_iff source nodes js).1 hjs
      exact ⟨value :: values, .cons hvalue hvalues, .cons hcanonical hrest⟩
    · rintro ⟨values, hvalues, hjs⟩
      obtain ⟨value, rest, hvalue, hrest, rfl⟩ := List.forall₂_cons_left_iff.1 hvalues
      obtain ⟨j, is, hj, his, rfl⟩ := List.forall₂_cons_left_iff.1 hjs
      exact ⟨j, is, (denotes_iff source node j).2 ⟨value, hvalue, hj⟩,
        (denotesItems_iff source nodes is).2 ⟨rest, hrest, his⟩, rfl⟩

theorem denotesPairs_iff (source : String) : ∀ (pairs : List (Key × Tree Key))
    (fs : List (String × Json)), DenotesPairs lib pairs fs ↔
      ∃ entries, List.Forall₂ (Constructs lib) pairs entries ∧
        List.Forall₂ (Canonicalises lib source) entries fs
  | [], fs => by simp [DenotesPairs]
  | (key, node) :: pairs, fs => by
    rw [DenotesPairs]
    constructor
    · rintro ⟨s, j, fs, rfl, hj, hfs, rfl⟩
      obtain ⟨value, hvalue, hcanonical⟩ := (denotes_iff source node j).1 hj
      obtain ⟨entries, hentries, hrest⟩ := (denotesPairs_iff source pairs fs).1 hfs
      exact ⟨(.str s, value) :: entries, .cons ⟨rfl, hvalue⟩ hentries, .cons ⟨rfl, hcanonical⟩ hrest⟩
    · rintro ⟨entries, hentries, hfs⟩
      obtain ⟨⟨k, value⟩, rest, ⟨hkey, hvalue⟩, hrest, rfl⟩ := List.forall₂_cons_left_iff.1 hentries
      obtain ⟨⟨s, j⟩, gs, ⟨htext, hj⟩, hgs, rfl⟩ := List.forall₂_cons_left_iff.1 hfs
      cases htext
      exact ⟨s, j, gs, hkey, (denotes_iff source node j).2 ⟨value, hvalue, hj⟩,
        (denotesPairs_iff source pairs gs).2 ⟨rest, hrest, hgs⟩, rfl⟩

end

/-- **The two functions compute what the node stands for.** -/
theorem canonical_iff (source : String) {node : Tree Key} {j : Json} :
    (construct lib node >>= canonical lib source) = .ok j ↔ Denotes lib node j := by
  rw [bind_eq_ok, denotes_iff source]

/-! ### Reordered mappings -/

mutual

/-- The trees are the same apart from the order of the pairs in their mappings. -/
def Reordered {K : Type} : Tree K → Tree K → Prop
  | .scalar s, u => u = .scalar s
  | .seq items, u => ∃ items', ReorderedItems items items' ∧ u = .seq items'
  | .mapping pairs, u => ∃ pairs' pairs'', ReorderedPairs pairs pairs' ∧ pairs'.Perm pairs'' ∧
      u = .mapping pairs''

def ReorderedItems {K : Type} : List (Tree K) → List (Tree K) → Prop
  | [], us => us = []
  | t :: ts, us => ∃ u us', Reordered t u ∧ ReorderedItems ts us' ∧ us = u :: us'

def ReorderedPairs {K : Type} : List (K × Tree K) → List (K × Tree K) → Prop
  | [], us => us = []
  | (key, t) :: ts, us => ∃ u us', Reordered t u ∧ ReorderedPairs ts us' ∧ us = (key, u) :: us'

end

theorem denotesPairs_of_perm {pairs pairs' : List (Key × Tree Key)} (hperm : pairs.Perm pairs')
    (h : DenotesPairs lib pairs fs) : ∃ fs', DenotesPairs lib pairs' fs' ∧ fs.Perm fs' := by
  induction hperm generalizing fs with
  | nil => exact ⟨fs, h, .refl _⟩
  | @cons p pairs pairs' _ ih =>
    obtain ⟨key, node⟩ := p
    obtain ⟨s, j, fs, hkey, hj, hfs, rfl⟩ := h
    obtain ⟨fs', hfs', hperm⟩ := ih hfs
    exact ⟨(s, j) :: fs', ⟨s, j, fs', hkey, hj, hfs', rfl⟩, hperm.cons _⟩
  | swap p q pairs =>
    obtain ⟨key, node⟩ := p
    obtain ⟨key', node'⟩ := q
    obtain ⟨s', j', fs, hkey', hj', ⟨s, j, fs, hkey, hj, hfs, rfl⟩, rfl⟩ := h
    exact ⟨(s, j) :: (s', j') :: fs, ⟨s, j, _, hkey, hj, ⟨s', j', fs, hkey', hj', hfs, rfl⟩, rfl⟩,
      .swap _ _ _⟩
  | trans _ _ ih ih' =>
    obtain ⟨fs', hfs', hperm⟩ := ih h
    obtain ⟨fs'', hfs'', hperm'⟩ := ih' hfs'
    exact ⟨fs'', hfs'', hperm.trans hperm'⟩

theorem insertionSort_eq_of_perm {α : Type} {fs gs : List (String × α)} (hperm : fs.Perm gs)
    (hnodup : (fs.map Prod.fst).Nodup) :
    (fs.insertionSort fun a b => a.1 ≤ b.1) = gs.insertionSort fun a b => a.1 ≤ b.1 := by
  have hsort := List.perm_insertionSort (fun a b : String × α => a.1 ≤ b.1)
  refine List.Perm.eq_of_pairwise ?_ (List.pairwise_insertionSort _ fs)
    (List.pairwise_insertionSort _ gs) ((hsort fs).trans (hperm.trans (hsort gs).symm))
  intro a b ha hb hab hba
  -- two fields of one key are one field
  have hkey : a.1 = b.1 := String.le_antisymm hab hba
  have ha' := (hsort fs).mem_iff.1 ha
  have hb' := hperm.mem_iff.2 ((hsort gs).mem_iff.1 hb)
  exact List.inj_on_of_nodup_map hnodup ha' hb' hkey

mutual

/-- **Reordering the mappings of a node does not change what it stands for.** -/
theorem denotes_of_reordered : ∀ (node node' : Tree Key) (j : Json), Reordered node node' →
    Denotes lib node j → Denotes lib node' j
  | .scalar _, _, _, rfl, h => h
  | .seq items, _, _, ⟨items', hitems, rfl⟩, ⟨js, hjs, rfl⟩ =>
    ⟨js, denotesItems_of_reordered items items' js hitems hjs, rfl⟩
  | .mapping pairs, _, _, ⟨pairs', pairs'', hpairs, hperm, rfl⟩, ⟨fs, hfs, hnodup, rfl⟩ => by
    have hfs' := denotesPairs_of_reordered pairs pairs' fs hpairs hfs
    obtain ⟨gs, hgs, hfields⟩ := denotesPairs_of_perm hperm hfs'
    refine ⟨gs, hgs, (hfields.map Prod.fst).nodup_iff.1 hnodup, ?_⟩
    rw [insertionSort_eq_of_perm hfields hnodup]

theorem denotesItems_of_reordered : ∀ (nodes nodes' : List (Tree Key)) (js : List Json),
    ReorderedItems nodes nodes' → DenotesItems lib nodes js → DenotesItems lib nodes' js
  | [], _, _, rfl, h => h
  | node :: nodes, _, _, ⟨node', nodes', hnode, hnodes, rfl⟩, ⟨j, js, hj, hjs, rfl⟩ =>
    ⟨j, js, denotes_of_reordered node node' j hnode hj,
      denotesItems_of_reordered nodes nodes' js hnodes hjs, rfl⟩

theorem denotesPairs_of_reordered : ∀ (pairs pairs' : List (Key × Tree Key))
    (fs : List (String × Json)), ReorderedPairs pairs pairs' → DenotesPairs lib pairs fs →
      DenotesPairs lib pairs' fs
  | [], _, _, rfl, h => h
  | (_, node) :: pairs, _, _, ⟨node', pairs', hnode, hpairs, rfl⟩, ⟨s, j, fs, hkey, hj, hfs, rfl⟩ =>
    ⟨s, j, fs, hkey, denotes_of_reordered node node' j hnode hj,
      denotesPairs_of_reordered pairs pairs' fs hpairs hfs, rfl⟩

end

/-! ### Canonical values -/

mutual

/-- The value with each float printed anew, as `json.loads` and `json.dumps` together leave it. -/
def mapFloats (f : String → String) : Json → Json
  | .float text => .float (f text)
  | .arr items => .arr (mapFloatsItems f items)
  | .obj fields => .obj (mapFloatsFields f fields)
  | j => j

def mapFloatsItems (f : String → String) : List Json → List Json
  | [] => []
  | j :: js => mapFloats f j :: mapFloatsItems f js

def mapFloatsFields (f : String → String) : List (String × Json) → List (String × Json)
  | [] => []
  | (k, j) :: fs => (k, mapFloats f j) :: mapFloatsFields f fs

end

theorem mapFloatsFields_eq_self {f : String → String} (h : ∀ p ∈ fs, mapFloats f p.2 = p.2) :
    mapFloatsFields f fs = fs := by
  induction fs with
  | nil => rfl
  | cons p fs ih =>
    obtain ⟨k, j⟩ := p
    rw [mapFloatsFields, h (k, j) List.mem_cons_self, ih fun q hq => h q (List.mem_cons_of_mem _ hq)]

/-- The value is in canonical form: its keys are sorted, and its floats are printed as `repr` does. -/
def Canonical (lib : Library) (j : Json) : Prop := j.sortKeys = j ∧ mapFloats lib.repr j = j

theorem canonical_obj (hsorted : fs.Pairwise fun a b => a.1 ≤ b.1)
    (h : ∀ p ∈ fs, Canonical lib p.2) : Canonical lib (.obj fs) := by
  constructor
  · rw [Json.sortKeys, sortFields_eq_self fun p hp => (h p hp).1, hsorted.insertionSort_eq]
  · rw [mapFloats, mapFloatsFields_eq_self fun p hp => (h p hp).2]

mutual

theorem canonical_of_denotes : ∀ (node : Tree Key) (j : Json), Denotes lib node j → Canonical lib j
  | .scalar s, j, h => by
    cases s with
    | float text isFloat =>
      cases h
      exact ⟨rfl, congrArg Json.float (lib.repr_repr isFloat)⟩
    | other name text => cases h
    | null => cases h; exact ⟨rfl, rfl⟩
    | bool b => cases h; exact ⟨rfl, rfl⟩
    | int n => cases h; exact ⟨rfl, rfl⟩
    | str s => cases h; exact ⟨rfl, rfl⟩
  | .seq nodes, _, ⟨js, hjs, rfl⟩ => by
    obtain ⟨hsort, hfloats⟩ := canonical_of_denotesItems nodes js hjs
    exact ⟨congrArg Json.arr hsort, congrArg Json.arr hfloats⟩
  | .mapping pairs, _, ⟨fs, hfs, _, rfl⟩ => by
    refine canonical_obj (List.pairwise_insertionSort _ fs) fun p hp => ?_
    exact canonical_of_denotesPairs pairs fs hfs p ((List.perm_insertionSort _ fs).mem_iff.1 hp)

theorem canonical_of_denotesItems : ∀ (nodes : List (Tree Key)) (js : List Json),
    DenotesItems lib nodes js → Json.sortItems js = js ∧ mapFloatsItems lib.repr js = js
  | [], _, rfl => ⟨rfl, rfl⟩
  | node :: nodes, _, ⟨j, js, hj, hjs, rfl⟩ => by
    obtain ⟨hsort, hfloats⟩ := canonical_of_denotes node j hj
    obtain ⟨hsorts, hrest⟩ := canonical_of_denotesItems nodes js hjs
    exact ⟨by rw [Json.sortItems, hsort, hsorts], by rw [mapFloatsItems, hfloats, hrest]⟩

theorem canonical_of_denotesPairs : ∀ (pairs : List (Key × Tree Key)) (fs : List (String × Json)),
    DenotesPairs lib pairs fs → ∀ p ∈ fs, Canonical lib p.2
  | [], _, rfl => fun _ hp => absurd hp List.not_mem_nil
  | (_, node) :: pairs, _, ⟨s, j, fs, _, hj, hfs, rfl⟩ => by
    intro p hp
    rcases List.mem_cons.1 hp with rfl | hp
    · exact canonical_of_denotes node j hj
    · exact canonical_of_denotesPairs pairs fs hfs p hp

end

end ContractCompiler
