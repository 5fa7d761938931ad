/-
**What the loader and the canonical form of the contract compiler can raise.**

`YamlDocuments` takes a composed source for a tree of scalars, sequences and mappings.  Here a source
is what the loader really meets: nodes whose constructors raise, keys that are no scalars, texts with
lone surrogates, and references back to a collection that is still open, so that the value becomes
cyclic.

Which exception is raised depends on the order in which the nodes are met.  A mapping is filled at
once, a list only after everything that was begun before it; hence the loader works in rounds, and a
reference back is refused exactly if no list lies between.  The canonical form goes depth first,
through the keys of a mapping in their order, as deep as the interpreter's stack has room: a reference
back is followed until it is full, and aliases of closed collections may stand for more than it takes,
however flat the text is.

Main definitions:

* `CompilerExceptions.Node` — composed nodes;
* `CompilerExceptions.construct`, `CompilerExceptions.load` — the loader, with its rounds;
* `CompilerExceptions.canonical` — the canonical form;
* `CompilerExceptions.loadFaults`, `CompilerExceptions.canonicalFaults` — the faults of a node, in the
  order in which they are met.

Main results:

* `CompilerExceptions.load_meets` — **the loader raises the first fault, round by round**;
* `CompilerExceptions.canonical_meets` — **the canonical form raises the first fault, depth first**;
  a reference back is one, and so is what lies deeper than the stack has room for.
-/

import FaultWitness.FirstFaults
import FaultWitness.ContractCompiler
import Mathlib.Data.List.Lex

set_option autoImplicit false

namespace CompilerExceptions

open Python FirstFaults

/-! ### Nodes -/

/-- A text: its code points, of which some may be lone surrogates. -/
abbrev Text := List ℕ

/-- The code points of a text without lone surrogates. -/
def points (s : String) : Text := s.toList.map Char.toNat

/-- What the loader makes of a scalar.  A float is given by a text that stands for it, a value of a
type that JSON does not have by its type and its text. -/
inductive Scalar
  | null
  | bool (b : Bool)
  | int (n : ℤ)
  | float (text : String)
  | str (t : Text)
  | other (typeName text : String)
deriving DecidableEq

/-- The exceptions that are not the compiler's own. -/
inductive Foreign
  | yamlError
  | typeError
  | valueError
  | recursionError
  | unicodeEncodeError
  | other (name : String)
deriving DecidableEq

/-- What a `ContractCompilationError` says. -/
inductive Refusal
  | missingSources (names : List String)
  | unknownSources (names : List String)
  | notUtf8 (path : String)
  | malformedYaml (path : String)
  | nonScalarKey
  | duplicateKey (key : Scalar)
  | notMapping (path : String)
  | missingKeys (path : String) (keys : List String)
  | unknownKeys (path : String) (keys : List Scalar)
  | wrongIdentity (path field expected : String)
  | malformedVersion (path : String)
  | keyNotText (source : String)
  | unsupported (source typeName : String)
deriving DecidableEq

inductive Raised
  | compilation (refusal : Refusal)
  | foreign (e : Foreign)
deriving DecidableEq

/-- A composed node.  An alias of a collection that is closed stands as a copy of its node, or as a
node that raises where the loader has not constructed it and finds no room for it on the stack; an alias
of an open one says how many collections lie between. -/
inductive Node
  | scalar (s : Scalar)
  /-- A node whose constructor raises, or whose `<<` cannot be merged. -/
  | raises (e : Foreign)
  | seq (items : List Node)
  /-- `!!set`, `!!omap` and `!!pairs`, which are filled as late as a list. -/
  | special (typeName : String) (parts : List Node)
  | mapping (pairs : List (Node × Node))
  | openAlias (between : ℕ)

theorem Node.induction {motive : Node → Prop} (scalar : ∀ s, motive (.scalar s))
    (raises : ∀ e, motive (.raises e)) (seq : ∀ items, (∀ n ∈ items, motive n) → motive (.seq items))
    (special : ∀ typeName parts, (∀ n ∈ parts, motive n) → motive (.special typeName parts))
    (mapping : ∀ pairs, (∀ p ∈ pairs, motive p.1 ∧ motive p.2) → motive (.mapping pairs))
    (openAlias : ∀ between, motive (.openAlias between)) (node : Node) : motive node := by
  refine @Node.rec motive (fun items => ∀ n ∈ items, motive n)
    (fun pairs => ∀ p ∈ pairs, motive p.1 ∧ motive p.2) (fun p => motive p.1 ∧ motive p.2)
    scalar raises seq special mapping openAlias ?_ ?_ ?_ ?_ ?_ node
  · intro n hn
    cases hn
  · intro head tail hhead htail n hn
    rcases List.mem_cons.1 hn with rfl | hn
    · exact hhead
    · exact htail n hn
  · intro p hp
    cases hp
  · intro head tail hhead htail p hp
    rcases List.mem_cons.1 hp with rfl | hp
    · exact hhead
    · exact htail p hp
  · intro key value hkey hvalue
    exact ⟨hkey, hvalue⟩

mutual

/-- The number of nodes. -/
def Node.size : Node → ℕ
  | .seq items => 1 + sizeItems items
  | .special _ parts => 1 + sizeItems parts
  | .mapping pairs => 1 + sizePairs pairs
  | _ => 1

def sizeItems : List Node → ℕ
  | [] => 0
  | node :: nodes => node.size + sizeItems nodes

def sizePairs : List (Node × Node) → ℕ
  | [] => 0
  | (key, value) :: pairs => key.size + value.size + sizePairs pairs

end

/-- The libraries under the compiler. -/
structure Library where
  /-- `get_single_node`: `none` for an empty stream. -/
  compose : String → Except Foreign (Option Node)
  /-- Whether a dictionary takes two keys that are no texts for one. -/
  same : Scalar → Scalar → Bool
  /-- What the values are compared with that are of this type and print so. -/
  order : String → String → String
  /-- What `json.dumps` prints for the float that a text stands for. -/
  repr : String → String
  /-- Whether `repr` of a value of a document fills the stack before it ends otherwise. -/
  overflows : List (Node × Node) → Node → Bool

variable (lib : Library)

/-- Whether two keys are one key of a dictionary. -/
def Library.sameKey : Scalar → Scalar → Bool
  | .str s, .str t => s = t
  | .str _, _ => false
  | _, .str _ => false
  | a, b => lib.same a b

/-- `str` prints the integer. -/
def Scalar.printable : Scalar → Bool
  | .int n => (Nat.toDigits 10 n.natAbs).length ≤ 4300
  | _ => true

def Node.scalar? : Node → Option Scalar
  | .scalar s => some s
  | _ => none

/-! ### The loader -/

/-- What is raised for a second key: its message shows the key. -/
def duplicate (key : Scalar) : Raised :=
  if key.printable then .compilation (.duplicateKey key) else .foreign .valueError

/-- A key of a mapping: it must have a hash, and be new. -/
def newKey (before : List Scalar) : Node → Except Raised Scalar
  | .scalar key => if before.any (lib.sameKey · key) then .error (duplicate key) else .ok key
  | _ => .error (.compilation .nonScalarKey)

mutual

/-- `construct_object` under so many mappings that are not yet constructed.  The result are the
contents of the lists that are left for the next round. -/
def construct : ℕ → Node → Except Raised (List (List Node))
  | _, .scalar _ => .ok []
  | _, .raises e => .error (.foreign e)
  | _, .seq items => .ok [items]
  | _, .special _ parts => .ok [parts]
  | depth, .mapping pairs => constructMapping (depth + 1) pairs []
  -- a mapping that is not yet constructed is a `ConstructorError`
  | depth, .openAlias between => if between < depth then .error (.foreign .yamlError) else .ok []

/-- The loop of `_construct_mapping`. -/
def constructMapping : ℕ → List (Node × Node) → List Scalar → Except Raised (List (List Node))
  | _, [], _ => .ok []
  | depth, (key, value) :: pairs, before => do
    let ofKey ← construct depth key
    let new ← newKey lib before key
    let ofValue ← construct depth value
    let rest ← constructMapping depth pairs (before ++ [new])
    .ok (ofKey ++ (ofValue ++ rest))

end

mutual

/-- The contents of the lists in a node that are no deeper than mappings. -/
def deferred : Node → List (List Node)
  | .seq items => [items]
  | .special _ parts => [parts]
  | .mapping pairs => deferredPairs pairs
  | _ => []

def deferredPairs : List (Node × Node) → List (List Node)
  | [] => []
  | (key, value) :: pairs => deferred key ++ (deferred value ++ deferredPairs pairs)

end

/-- A key that has no hash, or that comes a second time. -/
def keyFaults (before : List Scalar) : Node → List Raised
  | .scalar key => if before.any (lib.sameKey · key) then [duplicate key] else []
  | _ => [.compilation .nonScalarKey]

mutual

/-- The faults that a node has before its lists are filled. -/
def faults : ℕ → Node → List Raised
  | _, .scalar _ => []
  | _, .raises e => [.foreign e]
  | _, .seq _ => []
  | _, .special _ _ => []
  | depth, .mapping pairs => mappingFaults (depth + 1) pairs []
  | depth, .openAlias between => if between < depth then [.foreign .yamlError] else []

def mappingFaults : ℕ → List (Node × Node) → List Scalar → List Raised
  | _, [], _ => []
  | depth, (key, value) :: pairs, before =>
    faults depth key ++ (keyFaults lib before key ++
      (faults depth value ++ mappingFaults depth pairs (before ++ key.scalar?.toList)))

end

/-! ### The loader raises the first fault -/

variable {lib}

theorem newKey_meets (before : List Scalar) (key : Node) :
    Meets (newKey lib before key) (keyFaults lib before key) := by
  cases key with
  | scalar k =>
    rw [newKey, keyFaults]
    split
    · exact meets_error _ _
    · exact meets_ok _
  | raises e => exact meets_error _ _
  | seq items => exact meets_error _ _
  | special typeName parts => exact meets_error _ _
  | mapping pairs => exact meets_error _ _
  | openAlias between => exact meets_error _ _

theorem scalar?_of_newKey {before : List Scalar} {key : Node} {new : Scalar}
    (h : newKey lib before key = .ok new) : key.scalar? = some new := by
  cases key with
  | scalar k =>
    rw [newKey] at h
    split at h
    · cases h
    · cases h
      rfl
  | raises e => cases h
  | seq items => cases h
  | special typeName parts => cases h
  | mapping pairs => cases h
  | openAlias between => cases h

/-- What is to be shown of constructing a node. -/
def Constructs (lib : Library) (node : Node) : Prop :=
  ∀ depth, Meets (construct lib depth node) (faults lib depth node) ∧
    ∀ lists, construct lib depth node = .ok lists → lists = deferred node

theorem constructMapping_meets {pairs : List (Node × Node)}
    (h : ∀ p ∈ pairs, Constructs lib p.1 ∧ Constructs lib p.2) (depth : ℕ) (before : List Scalar) :
    Meets (constructMapping lib depth pairs before) (mappingFaults lib depth pairs before) ∧
      ∀ lists, constructMapping lib depth pairs before = .ok lists → lists = deferredPairs pairs := by
  induction pairs generalizing before with
  | nil =>
    refine ⟨meets_ok [], ?_⟩
    intro lists hlists
    cases hlists
    rfl
  | cons p pairs ih =>
    obtain ⟨key, value⟩ := p
    obtain ⟨hkey, hvalue⟩ := h (key, value) List.mem_cons_self
    have hrest := ih fun q hq => h q (List.mem_cons_of_mem _ hq)
    rw [constructMapping, mappingFaults]
    constructor
    · refine (hkey depth).1.bind fun ofKey _ => ?_
      refine (newKey_meets before key).bind fun new hnew => ?_
      refine (hvalue depth).1.bind fun ofValue _ => ?_
      rw [scalar?_of_newKey hnew]
      exact (hrest (before ++ [new])).1.map fun rest => ofKey ++ (ofValue ++ rest)
    · intro lists hlists
      obtain ⟨ofKey, hofKey, hlists⟩ := bind_eq_ok.1 hlists
      obtain ⟨new, -, hlists⟩ := bind_eq_ok.1 hlists
      obtain ⟨ofValue, hofValue, hlists⟩ := bind_eq_ok.1 hlists
      obtain ⟨rest, hofRest, hlists⟩ := bind_eq_ok.1 hlists
      cases hlists
      rw [(hkey depth).2 _ hofKey, (hvalue depth).2 _ hofValue, (hrest _).2 _ hofRest, deferredPairs]

theorem constructs (node : Node) : Constructs lib node := by
  induction node using Node.induction with
  | scalar s =>
    intro depth
    refine ⟨meets_ok [], fun lists h => ?_⟩
    cases h
    rfl
  | raises e =>
    intro depth
    refine ⟨meets_error _ [], fun lists h => ?_⟩
    cases h
  | seq items _ =>
    intro depth
    refine ⟨meets_ok _, fun lists h => ?_⟩
    cases h
    rfl
  | special typeName parts _ =>
    intro depth
    refine ⟨meets_ok _, fun lists h => ?_⟩
    cases h
    rfl
  | mapping pairs ih =>
    intro depth
    rw [construct, faults, deferred]
    exact constructMapping_meets ih (depth + 1) []
  | openAlias between =>
    intro depth
    rw [construct, faults]
    split
    · refine ⟨meets_error _ [], fun lists h => ?_⟩
      cases h
    · refine ⟨meets_ok _, fun lists h => ?_⟩
      cases h
      rfl

/-! ### Rounds -/

/-- A measure of what is left to be filled. -/
def weight (batch : List (List Node)) : ℕ := batch.length + sizeItems batch.flatten

theorem sizeItems_append (nodes nodes' : List Node) :
    sizeItems (nodes ++ nodes') = sizeItems nodes + sizeItems nodes' := by
  induction nodes with
  | nil => rw [List.nil_append, sizeItems, Nat.zero_add]
  | cons node nodes ih => rw [List.cons_append, sizeItems, sizeItems, ih, Nat.add_assoc]

theorem weight_append (batch batch' : List (List Node)) :
    weight (batch ++ batch') = weight batch + weight batch' := by
  rw [weight, weight, weight, List.length_append, List.flatten_append, sizeItems_append]
  omega

theorem weight_singleton (items : List Node) : weight [items] = 1 + sizeItems items := by
  rw [weight, List.flatten_singleton, List.length_singleton]

theorem weight_deferredPairs {pairs : List (Node × Node)}
    (h : ∀ p ∈ pairs, weight (deferred p.1) ≤ p.1.size ∧ weight (deferred p.2) ≤ p.2.size) :
    weight (deferredPairs pairs) ≤ sizePairs pairs := by
  induction pairs with
  | nil => exact Nat.le_refl 0
  | cons p pairs ih =>
    obtain ⟨hkey, hvalue⟩ := h p List.mem_cons_self
    have hrest := ih fun q hq => h q (List.mem_cons_of_mem _ hq)
    rw [deferredPairs, sizePairs, weight_append, weight_append]
    omega

theorem weight_deferred (node : Node) : weight (deferred node) ≤ node.size := by
  induction node using Node.induction with
  | scalar s => exact Nat.zero_le _
  | raises e => exact Nat.zero_le _
  | seq items _ =>
    rw [deferred, Node.size, weight_singleton]
  | special typeName parts _ =>
    rw [deferred, Node.size, weight_singleton]
  | mapping pairs ih =>
    have hpairs := weight_deferredPairs ih
    rw [deferred, Node.size]
    omega
  | openAlias between => exact Nat.zero_le _

theorem weight_flatMap_deferred (nodes : List Node) :
    weight (nodes.flatMap deferred) ≤ sizeItems nodes := by
  induction nodes with
  | nil => exact Nat.le_refl 0
  | cons node nodes ih =>
    have hnode := weight_deferred node
    rw [List.flatMap_cons, weight_append, sizeItems]
    omega

theorem flatten_of_mapM {nodes : List Node} {nexts : List (List (List Node))}
    (h : nodes.mapM (construct lib 0) = .ok nexts) : nexts.flatten = nodes.flatMap deferred := by
  induction mapM_eq_ok.1 h with
  | nil => rfl
  | cons hhead hrest ih =>
    rw [List.flatten_cons, List.flatMap_cons, ih (mapM_eq_ok.2 hrest), (constructs _ 0).2 _ hhead]

variable (lib)

/-- The loop of `construct_document`: each round fills the lists that the last one left. -/
def constructRounds (batch : List (List Node)) : Except Raised Unit :=
  if _hbatch : batch = [] then .ok ()
  else
    match _hround : batch.flatten.mapM (construct lib 0) with
    | .error e => .error e
    | .ok nexts => constructRounds nexts.flatten
termination_by weight batch
decreasing_by
  have hlight := weight_flatMap_deferred batch.flatten
  have hlength := List.length_pos_of_ne_nil _hbatch
  rw [flatten_of_mapM _hround, weight.eq_1 batch]
  omega

/-- `construct_document`. -/
def load (node : Node) : Except Raised Unit := do
  let generators ← construct lib 0 node
  constructRounds lib generators

/-- The faults of the first rounds that begin with these nodes. -/
def roundFaults : ℕ → List Node → List Raised
  | 0, _ => []
  | n + 1, nodes => nodes.flatMap (faults lib 0) ++ roundFaults n (nodes.flatMap deferred).flatten

/-- **The faults that the loader can meet in a node**, round by round. -/
def loadFaults (node : Node) : List Raised := roundFaults lib (node.size + 1) [node]

variable {lib}

theorem roundFaults_nil (n : ℕ) : roundFaults lib n [] = [] := by
  induction n with
  | zero => rfl
  | succ n ih =>
    rw [roundFaults, List.flatMap_nil, List.flatMap_nil, List.flatten_nil, ih, List.append_nil]

theorem constructRounds_meets (n : ℕ) : ∀ batch : List (List Node), weight batch ≤ n →
    Meets (constructRounds lib batch) (roundFaults lib n batch.flatten) := by
  induction n with
  | zero =>
    intro batch hweight
    have hlength : batch.length = 0 := by
      rw [weight] at hweight
      omega
    rw [List.eq_nil_of_length_eq_zero hlength, constructRounds, dif_pos rfl]
    exact meets_ok ()
  | succ n ih =>
    intro batch hweight
    rw [constructRounds]
    by_cases hbatch : batch = []
    · rw [dif_pos hbatch, hbatch, List.flatten_nil, roundFaults_nil]
      exact meets_ok ()
    · have hitems : Meets (batch.flatten.mapM (construct lib 0))
          (batch.flatten.flatMap (faults lib 0)) := meets_mapM fun node _ => (constructs node 0).1
      have hlight := weight_flatMap_deferred batch.flatten
      have hlength := List.length_pos_of_ne_nil hbatch
      rw [dif_neg hbatch, roundFaults]
      have hrest : ∀ nexts, batch.flatten.mapM (construct lib 0) = .ok nexts →
          Meets (constructRounds lib nexts.flatten)
            (roundFaults lib n (batch.flatten.flatMap deferred).flatten) := by
        intro nexts hnexts
        rw [flatten_of_mapM hnexts]
        refine ih _ ?_
        rw [weight.eq_1 batch] at hweight
        omega
      refine Eq.mp ?_ (hitems.bind hrest)
      congr 1
      cases hround : batch.flatten.mapM (construct lib 0) with
      | error e => rfl
      | ok nexts => rfl

/-- **The loader raises the first fault of a node.** -/
theorem load_meets (node : Node) : Meets (load lib node) (loadFaults lib node) := by
  have hconstructs : Constructs lib node := constructs node
  have hweight := weight_deferred node
  rw [loadFaults, roundFaults, List.flatMap_singleton, List.flatMap_singleton]
  refine (hconstructs 0).1.bind fun generators hgenerators => ?_
  rw [(hconstructs 0).2 _ hgenerators]
  exact constructRounds_meets node.size _ hweight

/-! ### The canonical form -/

/-- A document in canonical form. -/
inductive Document
  | scalar (s : Scalar)
  | list (items : List Document)
  | dict (fields : List (Text × Document))

def Node.text? : Node → Option Text
  | .scalar (.str t) => some t
  | _ => none

def textKeys (pairs : List (Node × Node)) : Bool := pairs.all fun p => p.1.text?.isSome

/-- The values of a mapping under the texts of their keys. -/
def keyed (pairs : List (Node × Node)) : List (Text × Node) :=
  pairs.map fun p => (p.1.text?.getD [], p.2)

/-- The values of a mapping in the order of their keys. -/
def sorted (pairs : List (Node × Node)) : List (Text × Node) :=
  (keyed pairs).insertionSort fun a b => a.1 ≤ b.1

/-- The type of a scalar that JSON does not have. -/
def Scalar.unsupported? : Scalar → Option String
  | .other typeName _ => some typeName
  | _ => none

/-- The value of a node under these collections, the innermost one first: a reference back is the
collection that it leads to, under those that lie around that one. -/
def resolve (env : List Node) : Node → List Node × Node
  | .openAlias between =>
    match env[between]? with
    | some node => (env.drop (between + 1), node)
    | none => (env, .raises .recursionError)
  | node => (env, node)

@[simp] theorem resolve_scalar (env : List Node) (s : Scalar) : resolve env (.scalar s) = (env, .scalar s) :=
  rfl

@[simp] theorem resolve_seq (env items : List Node) : resolve env (.seq items) = (env, .seq items) := rfl

@[simp] theorem resolve_mapping (env : List Node) (pairs : List (Node × Node)) :
    resolve env (.mapping pairs) = (env, .mapping pairs) := rfl

/-- `_canonical` of a node where the stack has room for so many nested calls. -/
def canonical (source : String) : ℕ → List Node → Node → Except Raised Document
  | 0, _, _ => .error (.foreign .recursionError)
  | room + 1, env, node =>
    match resolve env node with
    | (env, .mapping pairs) =>
      if textKeys pairs then do
        let fields ← (sorted pairs).mapM fun q => do
          let value ← canonical source room (.mapping pairs :: env) q.2
          .ok (q.1, value)
        .ok (.dict fields)
      else .error (.compilation (.keyNotText source))
    | (env, .seq items) => do
      let items ← items.mapM (canonical source room (.seq items :: env))
      .ok (.list items)
    | (_, .scalar s) =>
      match s.unsupported? with
      | some typeName => .error (.compilation (.unsupported source typeName))
      | none => .ok (.scalar s)
    | (_, .special typeName _) => .error (.compilation (.unsupported source typeName))
    | (_, .raises e) => .error (.foreign e)
    | (_, .openAlias _) => .error (.foreign .recursionError)

/-- Where the canonical form of a node ends: at an exception, or by going back to the collection
that lies under so many others. -/
inductive Stop
  | raised (e : Raised)
  | back (depth : ℕ)

/-- Going back never ends. -/
def Stop.exception : Stop → Raised
  | .raised e => e
  | .back _ => .foreign .recursionError

/-- The stops of a node under so many collections, as deep as there is room. -/
def stops (source : String) : ℕ → ℕ → Node → List Stop
  | 0, _, _ => [.raised (.foreign .recursionError)]
  | room + 1, depth, .mapping pairs =>
    if textKeys pairs then (sorted pairs).flatMap fun q => stops source room (depth + 1) q.2
    else [.raised (.compilation (.keyNotText source))]
  | room + 1, depth, .seq items => items.flatMap (stops source room (depth + 1))
  | _ + 1, _, .scalar s =>
    match s.unsupported? with
    | some typeName => [.raised (.compilation (.unsupported source typeName))]
    | none => []
  | _ + 1, _, .special typeName _ => [.raised (.compilation (.unsupported source typeName))]
  | _ + 1, depth, .openAlias between =>
    if between < depth then [.back (depth - 1 - between)] else [.raised (.foreign .recursionError)]
  | _ + 1, _, .raises e => [.raised (.foreign e)]

/-- **The faults that the canonical form of a document can meet**, depth first. -/
def canonicalFaults (source : String) (room : ℕ) (node : Node) : List Raised :=
  (stops source room 0 node).map Stop.exception

/-! ### The canonical form raises the first fault -/

section Canonical

variable {source : String} {pairs : List (Node × Node)} {room : ℕ}

/-- **With less room, the first stop is the same, or the stack is full before it.** -/
theorem head_stops_or (source : String) (room extra : ℕ) : ∀ depth node,
    (stops source room depth node).head? = (stops source (room + extra) depth node).head? ∨
      (stops source room depth node).head? = some (.raised (.foreign .recursionError)) := by
  -- on the room; the extra room stays as it is
  induction room with
  | zero => exact fun depth node => Or.inr rfl
  | succ room ih =>
    intro depth node
    rw [Nat.add_right_comm]
    cases node with
    | scalar s => exact Or.inl rfl
    | raises e => exact Or.inl rfl
    | seq items =>
      rw [stops, stops]
      exact head?_flatMap_or fun item _ => ih (depth + 1) item
    | special typeName parts => exact Or.inl rfl
    | mapping pairs =>
      rw [stops, stops]
      by_cases hkeys : textKeys pairs = true
      · rw [if_pos hkeys, if_pos hkeys]
        exact head?_flatMap_or fun q _ => ih (depth + 1) q.2
      · rw [if_neg hkeys, if_neg hkeys]
        exact Or.inl rfl
    | openAlias between => exact Or.inl rfl

/-- A stop goes back to a collection that has it as its own first stop, with the room there. -/
def Live (source : String) (room : ℕ) (env : List Node) (stop : Stop) : Prop :=
  ∀ between node, env[between]? = some node → stop = .back (env.length - 1 - between) →
    ∃ extra, (stops source (room + extra) (env.length - 1 - between) node).head? = some stop

theorem Live.cons {env : List Node} {stop : Stop} (h : Live source (room + 1) env stop) {node : Node}
    (hnode : (stops source (room + 1) env.length node).head? = some stop) :
    Live source room (node :: env) stop := by
  intro between outer houter hback
  rw [List.length_cons, Nat.add_sub_cancel] at hback ⊢
  cases between with
  | zero =>
    cases houter
    exact ⟨1, hnode⟩
  | succ between =>
    have hlength : env.length - (between + 1) = env.length - 1 - between := by omega
    rw [List.getElem?_cons_succ] at houter
    rw [hlength] at hback ⊢
    obtain ⟨extra, hfirst⟩ := h between outer houter hback
    rw [Nat.add_assoc] at hfirst
    exact ⟨1 + extra, hfirst⟩

/-- What is to be shown of the canonical form with so much room. -/
def Stopped (source : String) (room : ℕ) (env : List Node) (node : Node) : Prop :=
  (∀ stop, (stops source room env.length node).head? = some stop → Live source room env stop) →
    Meets (canonical source room env node) ((stops source room env.length node).map Stop.exception)

theorem stopped_value (ih : ∀ env node, Stopped source room env node) (env : List Node) {node : Node}
    (hnode : ∀ between, node ≠ .openAlias between) : Stopped source (room + 1) env node := by
  intro hlive
  cases node with
  | scalar s =>
    rw [canonical, stops, resolve_scalar]
    dsimp only
    cases s.unsupported? with
    | some typeName => exact meets_error _ []
    | none => exact meets_ok _
  | raises e => exact meets_error _ []
  | seq items =>
    rw [stops] at hlive ⊢
    refine Meets.map (meets_mapM_of_first (P := Live source room (.seq items :: env)) ?_ ?_)
      Document.list
    · exact fun item _ hfirst => ih (.seq items :: env) item hfirst
    · intro stop hstop
      refine (hlive stop hstop).cons ?_
      rw [stops]
      exact hstop
  | special typeName parts => exact meets_error _ []
  | mapping pairs =>
    rw [stops] at hlive ⊢
    rw [canonical, resolve_mapping]
    dsimp only
    by_cases hkeys : textKeys pairs = true
    · rw [if_pos hkeys] at hlive ⊢
      rw [if_pos hkeys]
      refine Meets.map (meets_mapM_of_first (P := Live source room (.mapping pairs :: env)) ?_ ?_)
        Document.dict
      · exact fun q _ hfirst => (ih (.mapping pairs :: env) q.2 hfirst).map (q.1, ·)
      · intro stop hstop
        refine (hlive stop hstop).cons ?_
        rw [stops, if_pos hkeys]
        exact hstop
    · rw [if_neg hkeys, if_neg hkeys]
      exact meets_error _ []
  | openAlias between => exact absurd rfl (hnode between)

/-- A collection whose first stop goes back to itself fills the stack. -/
theorem canonical_of_back (ih : ∀ env node, Stopped source room env node) {env : List Node}
    {node : Node} (hnode : ∀ between, node ≠ .openAlias between) {extra : ℕ}
    (hback : (stops source (room + 1 + extra) env.length node).head? = some (.back env.length)) :
    canonical source (room + 1) env node = .error (.foreign .recursionError) := by
  have hfirst : ∃ stop, (stops source (room + 1) env.length node).head? = some stop ∧
      stop.exception = .foreign .recursionError ∧ Live source (room + 1) env stop := by
    rcases head_stops_or source (room + 1) extra env.length node with hsame | hfull
    · refine ⟨_, hsame.trans hback, rfl, fun between outer houter hlevel => ?_⟩
      -- no collection around the node lies as deep as the node itself
      obtain ⟨hlt, -⟩ := List.getElem?_eq_some_iff.1 houter
      injection hlevel with hlevel
      omega
    · exact ⟨_, hfull, rfl, fun between outer _ hlevel => by cases hlevel⟩
  obtain ⟨stop, hstop, hexception, hlive⟩ := hfirst
  refine (stopped_value ih env hnode (fun stop' hstop' => ?_) _).2 ?_
  · rw [hstop] at hstop'
    cases hstop'
    exact hlive
  · rw [List.head?_map, hstop, ← hexception]
    rfl

/-- Where the first stop goes back, it goes back until the stack is full. -/
theorem stopped (source : String) (room : ℕ) : ∀ env node, Stopped source room env node := by
  induction room with
  | zero => exact fun env node _ => meets_error _ []
  | succ room ih =>
    intro env node
    by_cases hnode : ∀ between, node ≠ .openAlias between
    · exact stopped_value ih env hnode
    obtain ⟨between, hnode⟩ := not_forall.1 hnode
    rw [not_not] at hnode
    subst hnode
    intro hlive
    rw [stops] at hlive ⊢
    by_cases hbetween : between < env.length
    swap
    · have hcanonical : canonical source (room + 1) env (.openAlias between) =
          .error (.foreign .recursionError) := by
        rw [canonical, resolve, List.getElem?_eq_none (Nat.le_of_not_lt hbetween)]
      rw [if_neg hbetween, hcanonical]
      exact meets_error _ []
    rw [if_pos hbetween] at hlive ⊢
    have houter : env[between]? = some env[between] := List.getElem?_eq_getElem hbetween
    have hdrop : (env.drop (between + 1)).length = env.length - 1 - between := by
      rw [List.length_drop]
      omega
    obtain ⟨extra, hback⟩ := hlive _ rfl between _ houter rfl
    rw [← hdrop] at hback
    have hvalue : ∀ between', env[between] ≠ .openAlias between' := by
      intro between' halias
      rw [halias, Nat.add_right_comm, stops] at hback
      split at hback
      · injection hback with hback
        injection hback with hback
        omega
      · cases hback
    have hcanonical : canonical source (room + 1) env (.openAlias between) =
        canonical source (room + 1) (env.drop (between + 1)) env[between] := by
      have hresolve : resolve (env.drop (between + 1)) env[between] =
          (env.drop (between + 1), env[between]) := by
        cases hcases : env[between] with
        | openAlias between' => exact absurd hcases (hvalue between')
        | _ => rfl
      rw [canonical, canonical, hresolve, resolve, houter]
    rw [hcanonical, canonical_of_back ih hvalue hback]
    exact meets_error _ []

/-- **The canonical form of a document raises its first fault**, for every size of the stack. -/
theorem canonical_meets (source : String) (room : ℕ) (node : Node) :
    Meets (canonical source room [] node) (canonicalFaults source room node) := by
  refine stopped source room [] node ?_
  intro stop _ between outer houter
  cases houter

end Canonical

end CompilerExceptions
