/-
**Flag documents and the faults of the laboratory.**

A fault is switched on by changing the default variant of one flag in the document that the flag
service serves.  Documents are dictionaries as `json.loads` makes them, one value under each key.

Main definitions:

* `FlagDocuments.ADAPTERS` — the faults, each with its flag and the variant that switches it on;
* `FlagDocuments.setVariant` — the document with another default variant;
* `FlagDocuments.mutatedDocument` — the same behind the checks of the scenarios.

Main results:

* `FlagDocuments.onlyVariant_of_setVariant` — **nothing but the default variant is changed**.
-/

import FaultWitness.Python

set_option autoImplicit false

namespace FlagDocuments

open Python

/-- A dictionary with texts as its keys. -/
abbrev Document := List (String × Json)

/-! ### Dictionaries -/

/-- Assigning a value to a key; a new key comes last. -/
def assign : Document → String → Json → Document
  | [], key, value => [(key, value)]
  | (k, v) :: fields, key, value =>
    if k = key then (k, value) :: fields else (k, v) :: assign fields key value

theorem lookup_assign_self (fields : Document) (key : String) (value : Json) :
    (assign fields key value).lookup key = some value := by
  induction fields with
  | nil => simp [assign]
  | cons f fields ih =>
    obtain ⟨k, v⟩ := f
    rw [assign]
    split
    · rename_i h
      subst h
      simp
    · rename_i h
      have hne : (key == k) = false := beq_false_of_ne fun heq => h heq.symm
      rw [List.lookup_cons, hne]
      exact ih

theorem lookup_assign_of_ne {key other : String} (h : other ≠ key) (fields : Document)
    (value : Json) : (assign fields key value).lookup other = fields.lookup other := by
  induction fields with
  | nil =>
    have hne : (other == key) = false := beq_false_of_ne h
    rw [assign, List.lookup_cons, hne]
  | cons f fields ih =>
    obtain ⟨k, v⟩ := f
    rw [assign]
    split
    · rename_i hk
      subst hk
      have hne : (other == k) = false := beq_false_of_ne h
      rw [List.lookup_cons, List.lookup_cons, hne]
    · rw [List.lookup_cons, List.lookup_cons, ih]

/-! ### Faults -/

structure FaultAdapter where
  family : String
  flagKey : String
  variant : String
  requiredFields : List String
deriving DecidableEq

def ADAPTERS : List (String × FaultAdapter) :=
  [("productCatalogFailure",
      ⟨"change_config", "productCatalogFailure", "on", ["journey_failed", "correlated_error"]⟩),
    ("adHighCpu",
      ⟨"resource_capacity", "adHighCpu", "on", ["cpu_rate", "baseline_cpu_max", "correlated_span"]⟩),
    ("emailMemoryLeak",
      ⟨"resource_capacity", "emailMemoryLeak", "100x", ["working_set", "baseline_working_set"]⟩),
    ("paymentFailure",
      ⟨"dependency_network", "paymentFailure", "100%", ["checkout_failed", "payment_error"]⟩),
    ("paymentUnreachable",
      ⟨"dependency_network", "paymentUnreachable", "on", ["checkout_failed", "connection_error"]⟩),
    ("kafkaQueueProblems",
      ⟨"runtime_data", "kafkaQueueProblems", "on", ["consumer_lag", "baseline_lag", "kafka_error"]⟩)]

/-- The exceptions of a change. -/
inductive FlagError
  | governance
  | keyError
  | typeError
deriving DecidableEq

/-- The change `document["flags"][flag_key]["defaultVariant"] = variant`. -/
def setVariant (document : Document) (flagKey variant : String) : Except FlagError Document :=
  match document.lookup "flags" with
  | none => .error .keyError
  | some (.obj flags) =>
    match flags.lookup flagKey with
    | none => .error .keyError
    | some (.obj flag) =>
      let flag := assign flag "defaultVariant" (.str variant)
      .ok (assign document "flags" (.obj (assign flags flagKey (.obj flag))))
    | some _ => .error .typeError
  | some _ => .error .typeError

/-- The flags of a document. -/
def flagsOf (document : Document) : Document :=
  match document.lookup "flags" with
  | some (.obj flags) => flags
  | _ => []

/-- The keys of the flags that differ. -/
def changedFlags (document other : Document) : List String :=
  (flagsOf document).filterMap fun f =>
    if (flagsOf other).lookup f.1 = (flagsOf document).lookup f.1 then none else some f.1

/-- The documents differ only in the default variant of one flag. -/
structure OnlyVariant (document other : Document) (flagKey variant : String) : Prop where
  rest : ∀ key, key ≠ "flags" → other.lookup key = document.lookup key
  flags : ∃ flags flags' flag flag', document.lookup "flags" = some (.obj flags) ∧
    other.lookup "flags" = some (.obj flags') ∧ flags.lookup flagKey = some (.obj flag) ∧
    flags'.lookup flagKey = some (.obj flag') ∧
    (∀ key, key ≠ flagKey → flags'.lookup key = flags.lookup key) ∧
    (∀ key, key ≠ "defaultVariant" → flag'.lookup key = flag.lookup key) ∧
    flag'.lookup "defaultVariant" = some (.str variant)

/-- **Nothing but the default variant is changed.** -/
theorem onlyVariant_of_setVariant {document other : Document} {flagKey variant : String}
    (h : setVariant document flagKey variant = .ok other) :
    OnlyVariant document other flagKey variant := by
  rw [setVariant] at h
  split at h
  · cases h
  · rename_i flags hflags
    split at h
    · cases h
    · rename_i flag hflag
      cases h
      refine ⟨fun key hkey => lookup_assign_of_ne hkey document _, flags, _, flag, _, hflags,
        lookup_assign_self document "flags" _, hflag, lookup_assign_self flags flagKey _, ?_, ?_, ?_⟩
      · intro key hkey
        exact lookup_assign_of_ne hkey flags _
      · intro key hkey
        exact lookup_assign_of_ne hkey flag _
      · exact lookup_assign_self flag "defaultVariant" _
    · cases h
  · cases h

/-! ### The change of a scenario -/

/-- The operator `in` on a value; `none` is `TypeError`. -/
def contains (variant : String) : Json → Option Bool
  | .obj fields => some (fields.any fun f => f.1 = variant)
  | .arr items => some (items.any fun item => item = .str variant)
  | .str text => some (decide (variant.toList <:+: text.toList))
  | _ => none

/-- Changing the flag of a fault, if the document has it and the variant. -/
def mutatedDocument (original : Document) (adapter : FaultAdapter) : Except FlagError Document :=
  match original.lookup "flags" with
  | some (.obj flags) =>
    match flags.lookup adapter.flagKey with
    | some (.obj flag) =>
      match contains adapter.variant ((flag.lookup "variants").getD (.obj [])) with
      | none => .error .typeError
      | some false => .error .governance
      | some true => do
        let document ← setVariant original adapter.flagKey adapter.variant
        if changedFlags document original ≠ [adapter.flagKey] then throw .governance
        return document
    | _ => .error .governance
  | _ => .error .governance

theorem setVariant_of_mutatedDocument {original document : Document} {adapter : FaultAdapter}
    (h : mutatedDocument original adapter = .ok document) :
    setVariant original adapter.flagKey adapter.variant = .ok document := by
  rw [mutatedDocument] at h
  split at h
  · split at h
    · split at h
      · cases h
      · cases h
      · obtain ⟨document', hset, h⟩ := bind_eq_ok.1 h
        obtain ⟨-, h⟩ := check_eq_ok.1 h
        cases h
        exact hset
    · cases h
  · cases h

end FlagDocuments
