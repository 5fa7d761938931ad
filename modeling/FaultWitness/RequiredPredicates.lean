/-
**The predicates that a resource requires.**

`TransitionKernel.required_predicates` walks the same documents as the constructor of the kernel,
with far fewer checks, and returns the names of the guard predicates for which a registry has to be
supplied.  The two walks are separate code.  This module follows them side by side: wherever the
constructor accepts a transition, a machine or a whole resource, the helper reads the same names
from it, so a registry made of the names that the helper returns is never refused as incomplete or
as too large.

Main definitions:

* `TransitionKernel.requiredPredicates` — the static helper;
* `TransitionKernel.Kernel.predicateNames` — the names that an accepted kernel publishes;
* `TransitionKernel.Spares` — a computation that never ends with a registry mismatch.

Main results:

* `TransitionKernel.requiredPredicates_of_readMachines` — the helper reads from machines that the
  constructor accepts exactly the predicates of their transitions;
* `TransitionKernel.spares_init` — a registry with exactly the names that the machines use is never
  refused as a mismatch, whatever else is wrong with the resource;
* `TransitionKernel.requiredPredicates_serves` — **the helper and the constructor agree**.
-/

import FaultWitness.TransitionClients
import Mathlib.Data.Finset.Dedup

set_option autoImplicit false

namespace TransitionKernel

open Python SafetyPaths TransitionClients

/-! ### The static helper -/

/-- The names that one transition requires: its guard predicate and its preconditions. -/
def requiredOf (machineId : String) (transition : Json) : Except KernelError (List String) := do
  let item ← mapping (some transition) (machineId ++ ".transition")
  let transitionId ← nonemptyString (item.lookup "id") "transition.id"
  match item.lookup "preconditions" with
  | some (.arr preconditions) => do
    let names ← strings "transition.precondition" preconditions
    return (guardPrefix ++ transitionId) :: names
  | _ => throw (.contractRegistry .preconditionList)

/-- The names that one machine document requires. -/
def requiredMachine (documents : Fields) (machineId : String) :
    Except KernelError (List String) := do
  let machine ← mapping (documents.lookup ("state_machine." ++ machineId))
    ("state_machine." ++ machineId)
  let transitions ← transitionList (machine.lookup "transitions") machineId
  let names ← transitions.mapM (requiredOf machineId)
  return names.flatten

/-- `TransitionKernel.required_predicates`. -/
def requiredPredicates (resource : Fields) : Except KernelError (Finset String) := do
  let documents ← mapping (resource.lookup "documents") "resource.documents"
  let names ← machineOwners.mapM fun owner => requiredMachine documents owner.1
  return names.flatten.toFinset

/-- The attribute `predicate_names` of an accepted kernel. -/
def Kernel.predicateNames (k : Kernel) : Finset String := (usedPredicates k.machines).toFinset

/-! ### The two walks side by side -/

/-- The names that a transition of an accepted machine uses. -/
def Transition.predicates (t : Transition) : List String := t.guardPredicate :: t.preconditions

variable {value : Option Json} {field : String}

theorem nonemptyString_field {field' s : String} (h : nonemptyString value field = .ok s) :
    nonemptyString value field' = .ok s := by
  unfold nonemptyString at h ⊢
  split at h
  · split at h
    · cases h
    · rename_i hs
      rw [if_neg hs]
      exact h
  · cases h

theorem nonemptyString_ne_empty {s : String} (h : nonemptyString value field = .ok s) : s ≠ "" := by
  unfold nonemptyString at h
  split at h
  · split at h
    · cases h
    · rename_i hs
      cases h
      exact hs
  · cases h

/-- Reading a list of names does not depend on the field that its errors would show. -/
theorem strings_field {field' : String} {items : List Json} {ss : List String}
    (h : strings field items = .ok ss) : strings field' items = .ok ss := by
  induction items generalizing ss with
  | nil => exact h
  | cons item items ih =>
    simp only [strings] at h ⊢
    cases hs : nonemptyString (some item) field with
    | error err =>
      rw [hs] at h
      cases h
    | ok s =>
      rw [hs] at h
      rw [nonemptyString_field hs]
      cases hrest : strings field items with
      | error err =>
        rw [hrest] at h
        cases h
      | ok rest =>
        rw [hrest] at h
        rw [ih hrest]
        exact h

theorem empty_not_mem_strings {items : List Json} {ss : List String}
    (h : strings field items = .ok ss) : "" ∉ ss := by
  induction items generalizing ss with
  | nil =>
    cases h
    exact List.not_mem_nil
  | cons item items ih =>
    simp only [strings] at h
    split at h
    · cases h
    · rename_i s hs
      split at h
      · cases h
      · rename_i rest hrest
        cases h
        rw [List.mem_cons, not_or]
        exact ⟨(nonemptyString_ne_empty hs).symm, ih hrest⟩

variable {names : List String}

theorem strings_of_predicateNames {transitionId : String}
    (h : predicateNames value transitionId = .ok names) :
    ∃ items, value = some (.arr items) ∧ strings "transition.precondition" items = .ok names := by
  unfold predicateNames at h
  split at h
  · rename_i item items
    obtain ⟨ss, hss, h⟩ := bind_eq_ok.1 h
    split at h
    · cases h
      exact ⟨item :: items, rfl, strings_field hss⟩
    · cases h
  · cases h

variable {machineId : String} {c : Catalog} {states : List String}
  {seen : List (String × Transition)}

/-- **An accepted transition requires what it uses.** -/
theorem requiredOf_of_readTransition {raw : Json} {t : Transition}
    (h : readTransition c machineId states seen raw = .ok t) :
    requiredOf machineId raw = .ok t.predicates := by
  unfold readTransition at h
  obtain ⟨fields, hfields, h⟩ := bind_eq_ok.1 h
  obtain ⟨id, hid, h⟩ := bind_eq_ok.1 h
  obtain ⟨-, h⟩ := check_eq_ok.1 h
  obtain ⟨actor, -, h⟩ := bind_eq_ok.1 h
  obtain ⟨-, h⟩ := check_eq_ok.1 h
  obtain ⟨guard, -, h⟩ := bind_eq_ok.1 h
  obtain ⟨automatic, -, h⟩ := bind_eq_ok.1 h
  obtain ⟨source, -, h⟩ := bind_eq_ok.1 h
  obtain ⟨target, -, h⟩ := bind_eq_ok.1 h
  obtain ⟨-, h⟩ := check_eq_ok.1 h
  obtain ⟨command, -, h⟩ := bind_eq_ok.1 h
  obtain ⟨event, -, h⟩ := bind_eq_ok.1 h
  obtain ⟨-, h⟩ := check_eq_ok.1 h
  obtain ⟨-, h⟩ := check_eq_ok.1 h
  obtain ⟨names, hnames, h⟩ := bind_eq_ok.1 h
  cases h
  obtain ⟨items, hitems, hstrings⟩ := strings_of_predicateNames hnames
  unfold requiredOf
  refine bind_eq_ok.2 ⟨fields, hfields, bind_eq_ok.2 ⟨id, hid, ?_⟩⟩
  rw [hitems]
  exact bind_eq_ok.2 ⟨names, hstrings, rfl⟩

/-- The loop over the transitions: what it adds to the index is what the helper collects. -/
theorem requiredOf_of_readTransitions {ts : List (String × Transition)} {raws : List Json}
    (h : readTransitions c machineId states seen raws = .ok ts) :
    ∃ new, ts = seen ++ new ∧
      raws.mapM (requiredOf machineId) = .ok (new.map fun t => t.2.predicates) := by
  induction raws generalizing seen with
  | nil =>
    cases h
    exact ⟨[], by simp, rfl⟩
  | cons raw raws ih =>
    simp only [readTransitions] at h
    cases ht : readTransition c machineId states seen raw with
    | error err =>
      rw [ht] at h
      cases h
    | ok t =>
      rw [ht] at h
      obtain ⟨new, hts, hnew⟩ := ih h
      refine ⟨(t.id, t) :: new, by rw [hts, List.append_assoc, List.singleton_append], ?_⟩
      rw [List.mapM_cons]
      exact bind_eq_ok.2 ⟨t.predicates, requiredOf_of_readTransition ht,
        bind_eq_ok.2 ⟨_, hnew, rfl⟩⟩

variable {documents : Fields} {machines : List (String × Machine)}

theorem requiredMachine_of_readMachine {owner : String} {machine : Machine}
    (h : readMachine c documents machineId owner = .ok machine) :
    requiredMachine documents machineId =
      .ok (machine.transitions.flatMap fun t => t.2.predicates) := by
  unfold readMachine at h
  obtain ⟨raw, hraw, h⟩ := bind_eq_ok.1 h
  obtain ⟨-, h⟩ := check_eq_ok.1 h
  obtain ⟨-, h⟩ := check_eq_ok.1 h
  obtain ⟨states, -, h⟩ := bind_eq_ok.1 h
  obtain ⟨terminal, -, h⟩ := bind_eq_ok.1 h
  obtain ⟨-, h⟩ := check_eq_ok.1 h
  obtain ⟨raws, hraws, h⟩ := bind_eq_ok.1 h
  obtain ⟨ts, hts, h⟩ := bind_eq_ok.1 h
  cases h
  obtain ⟨new, rfl, hnew⟩ := requiredOf_of_readTransitions hts
  unfold requiredMachine
  refine bind_eq_ok.2 ⟨raw, hraw, bind_eq_ok.2 ⟨raws, hraws, bind_eq_ok.2 ⟨_, hnew, ?_⟩⟩⟩
  rw [List.flatMap_def]
  rfl

theorem requiredMachines_of_readMachines {owners : List (String × String)}
    (h : readMachines c documents owners = .ok machines) :
    owners.mapM (fun owner => requiredMachine documents owner.1) =
      .ok (machines.map fun m => m.2.transitions.flatMap fun t => t.2.predicates) := by
  induction owners generalizing machines with
  | nil =>
    cases h
    rfl
  | cons owner owners ih =>
    simp only [readMachines] at h
    cases hm : readMachine c documents owner.1 owner.2 with
    | error err =>
      rw [hm] at h
      cases h
    | ok machine =>
      rw [hm] at h
      cases hrest : readMachines c documents owners with
      | error err =>
        rw [hrest] at h
        cases h
      | ok rest =>
        rw [hrest] at h
        cases h
        rw [List.mapM_cons]
        exact bind_eq_ok.2 ⟨_, requiredMachine_of_readMachine hm,
          bind_eq_ok.2 ⟨_, ih hrest, rfl⟩⟩

variable {resource : Fields}

/-- **From machines that the constructor accepts the helper reads the predicates that they use.** -/
theorem requiredPredicates_of_readMachines
    (hdocuments : mapping (resource.lookup "documents") "resource.documents" = .ok documents)
    (h : readMachines c documents machineOwners = .ok machines) :
    requiredPredicates resource = .ok (usedPredicates machines).toFinset := by
  unfold requiredPredicates
  refine bind_eq_ok.2 ⟨documents, hdocuments,
    bind_eq_ok.2 ⟨_, requiredMachines_of_readMachines h, ?_⟩⟩
  unfold usedPredicates
  rw [List.flatMap_def]
  rfl

/-! ### Only the last check finds a mismatch -/

/-- A computation that does not end with a registry mismatch. -/
def Spares {α : Type} (x : Except KernelError α) : Prop :=
  ∀ missing unknown, x ≠ .error (.contractRegistry (.predicateMismatch missing unknown))

variable {α : Type}

@[simp] theorem spares_ok (a : α) : Spares (.ok a : Except KernelError α) :=
  fun _ _ => nofun

@[simp] theorem spares_pure (a : α) : Spares (pure a : Except KernelError α) :=
  spares_ok a

variable {err : KernelError} {β : Type} {x : Except KernelError α} {f : α → Except KernelError β}

@[simp] theorem spares_error :
    Spares (.error err : Except KernelError α) ↔
      ∀ missing unknown, err ≠ .contractRegistry (.predicateMismatch missing unknown) := by
  simp [Spares]

theorem Spares.handed (hx : Spares x) (h : x = .error err) :
    Spares (.error err : Except KernelError β) := by
  intro missing unknown herr
  cases herr
  exact hx missing unknown h

theorem Spares.bind (hx : Spares x) (hf : ∀ a, x = .ok a → Spares (f a)) : Spares (x >>= f) := by
  cases x with
  | error err => exact hx.handed rfl
  | ok a => exact hf a rfl

theorem Spares.check {p : Prop} [Decidable p] {f : Unit → Except KernelError β}
    {x : Except KernelError β} (herr : Spares (.error err : Except KernelError β)) (hx : Spares x) :
    Spares (if p then throw err >>= f else x) := by
  split
  · exact herr
  · exact hx

theorem Spares.mapM (hf : ∀ a, Spares (f a)) (as : List α) : Spares (as.mapM f) := by
  induction as with
  | nil => exact spares_ok []
  | cons a as ih =>
    rw [List.mapM_cons]
    exact (hf a).bind fun b _ => ih.bind fun bs _ => spares_ok (b :: bs)

theorem spares_mapping (value : Option Json) (field : String) : Spares (mapping value field) := by
  unfold mapping
  split <;> simp

theorem spares_nonemptyString (value : Option Json) (field : String) :
    Spares (nonemptyString value field) := by
  unfold nonemptyString
  split
  · split <;> simp
  · simp

theorem spares_strings (field : String) (items : List Json) : Spares (strings field items) := by
  induction items with
  | nil => exact spares_ok []
  | cons item items ih =>
    unfold strings
    split
    · rename_i err herr
      exact (spares_nonemptyString _ _).handed herr
    · split
      · rename_i err herr
        exact ih.handed herr
      · exact spares_ok _

theorem spares_stringSet (value : Option Json) (field : String) :
    Spares (stringSet value field) := by
  unfold stringSet
  split
  · refine (spares_strings _ _).bind fun ss _ => ?_
    split <;> simp
  · simp

theorem spares_indexItems (kind : String) (indexed : List (String × Fields)) (items : List Json) :
    Spares (indexItems kind indexed items) := by
  induction items generalizing indexed with
  | nil => exact spares_ok indexed
  | cons item items ih =>
    unfold indexItems
    refine (spares_mapping _ _).bind fun entry _ => (spares_nonemptyString _ _).bind fun id _ => ?_
    split
    · simp
    · exact ih _

theorem spares_indexRegistry (value : Option Json) (kind : String) :
    Spares (indexRegistry value kind) := by
  unfold indexRegistry
  split
  · exact spares_indexItems kind [] _
  · simp

theorem spares_readCommand (command : String × Fields) : Spares (readCommand command) := by
  unfold readCommand
  refine (spares_nonemptyString _ _).bind fun owner _ => ?_
  refine Spares.bind ?_ fun idempotency _ => Spares.bind ?_ fun version _ => spares_ok _
  · unfold idempotencyPolicy
    repeat' split
    all_goals simp
  · unfold versionPolicy
    repeat' split
    all_goals simp

theorem spares_readEvent (event : String × Fields) : Spares (readEvent event) := by
  unfold readEvent
  refine (spares_nonemptyString _ _).bind fun producer _ => ?_
  split <;> simp

theorem spares_predicateNames (value : Option Json) (transitionId : String) :
    Spares (predicateNames value transitionId) := by
  unfold predicateNames
  split
  · refine (spares_strings _ _).bind fun ss _ => ?_
    split <;> simp
  · simp

theorem spares_readTransition (c : Catalog) (machineId : String) (states : List String)
    (seen : List (String × Transition)) (raw : Json) :
    Spares (readTransition c machineId states seen raw) := by
  unfold readTransition
  refine (spares_mapping _ _).bind fun transition _ => ?_
  refine (spares_nonemptyString _ _).bind fun id _ => Spares.check (by simp) ?_
  refine (spares_nonemptyString _ _).bind fun actor _ => Spares.check (by simp) ?_
  refine (spares_nonemptyString _ _).bind fun guard _ => ?_
  refine Spares.bind (by unfold boolean; split <;> simp) fun automatic _ => ?_
  refine (spares_nonemptyString _ _).bind fun source _ => ?_
  refine (spares_nonemptyString _ _).bind fun target _ => Spares.check (by simp) ?_
  refine (spares_nonemptyString _ _).bind fun command _ => ?_
  refine (spares_nonemptyString _ _).bind fun event _ => ?_
  refine Spares.check (by simp) (Spares.check (by simp) ?_)
  exact (spares_predicateNames _ _).bind fun names _ => spares_pure _

theorem spares_readTransitions (c : Catalog) (machineId : String) (states : List String)
    (seen : List (String × Transition)) (raws : List Json) :
    Spares (readTransitions c machineId states seen raws) := by
  induction raws generalizing seen with
  | nil => exact spares_ok seen
  | cons raw raws ih =>
    unfold readTransitions
    split
    · rename_i err herr
      exact (spares_readTransition _ _ _ _ _).handed herr
    · exact ih _

theorem spares_readMachine (c : Catalog) (documents : Fields) (machineId owner : String) :
    Spares (readMachine c documents machineId owner) := by
  unfold readMachine
  refine (spares_mapping _ _).bind fun raw _ => Spares.check (by simp) (Spares.check (by simp) ?_)
  refine (spares_stringSet _ _).bind fun states _ => ?_
  refine (spares_stringSet _ _).bind fun terminal _ => Spares.check (by simp) ?_
  refine Spares.bind (by unfold transitionList; split <;> simp) fun raws _ => ?_
  exact (spares_readTransitions _ _ _ _ _).bind fun ts _ => spares_pure _

theorem spares_readMachines (c : Catalog) (documents : Fields) (owners : List (String × String)) :
    Spares (readMachines c documents owners) := by
  induction owners with
  | nil => exact spares_ok []
  | cons owner owners ih =>
    unfold readMachines
    split
    · rename_i err herr
      exact (spares_readMachine _ _ _ _).handed herr
    · split
      · rename_i err herr
        exact ih.handed herr
      · exact spares_ok _

theorem difference_eq_nil {others : List String} (h : ∀ name ∈ names, name ∈ others) :
    difference names others = [] := by
  unfold difference
  have hnone : (names.dedup.filter fun name => name ∉ others) = [] := by
    refine List.filter_eq_nil_iff.2 fun name hname => ?_
    simpa using h name (List.mem_dedup.1 hname)
  rw [hnone]
  rfl

/-- **A registry with exactly the names that the machines use is never a mismatch**: the check
comes after all machines have been read. -/
theorem spares_init {predicates : PredicateRegistry} (h : ∀ documents c machines,
      mapping (resource.lookup "documents") "resource.documents" = .ok documents →
      readMachines c documents machineOwners = .ok machines →
      ∀ name, name ∈ usedPredicates machines ↔ name ∈ predicates.names) :
    Spares (init resource predicates) := by
  unfold init
  refine (spares_nonemptyString _ _).bind fun version _ => Spares.check (by simp) ?_
  refine (spares_mapping _ _).bind fun documents hdocuments => ?_
  refine (spares_mapping _ _).bind fun catalog _ => ?_
  refine (spares_indexRegistry _ _).bind fun rawCommands _ => ?_
  refine (spares_indexRegistry _ _).bind fun rawEvents _ => ?_
  refine (Spares.mapM spares_readCommand _).bind fun commands _ => ?_
  refine (Spares.mapM spares_readEvent _).bind fun events _ => ?_
  refine (spares_readMachines _ _ _).bind fun machines hmachines => ?_
  have hnames := h documents _ machines hdocuments hmachines
  refine Spares.check (by simp) (Spares.check (by simp) ?_)
  rw [difference_eq_nil fun name hname => (hnames name).1 hname,
    difference_eq_nil fun name hname => (hnames name).2 hname]
  exact spares_pure _

/-! ### The helper serves the constructor -/

/-- The names that the helper returns are not empty, so a registry can be made of them. -/
theorem empty_not_mem_requiredOf {transition : Json}
    (h : requiredOf machineId transition = .ok names) : "" ∉ names := by
  unfold requiredOf at h
  obtain ⟨item, -, h⟩ := bind_eq_ok.1 h
  obtain ⟨id, -, h⟩ := bind_eq_ok.1 h
  split at h
  · obtain ⟨ss, hss, h⟩ := bind_eq_ok.1 h
    cases h
    rw [List.mem_cons, not_or]
    refine ⟨fun hguard => ?_, empty_not_mem_strings hss⟩
    have hlength := congrArg String.length hguard
    rw [String.length_append, show guardPrefix.length = 6 from rfl, String.length_empty] at hlength
    omega
  · cases h

theorem empty_not_mem_requiredPredicates {names : Finset String}
    (h : requiredPredicates resource = .ok names) : "" ∉ names := by
  unfold requiredPredicates at h
  obtain ⟨documents, -, h⟩ := bind_eq_ok.1 h
  obtain ⟨ofMachines, hmachines, h⟩ := bind_eq_ok.1 h
  cases h
  rw [List.mem_toFinset, List.mem_flatten]
  rintro ⟨ofMachine, hmem, hempty⟩
  obtain ⟨owner, -, howner⟩ := of_mem_mapM_eq_ok hmachines hmem
  unfold requiredMachine at howner
  obtain ⟨machine, -, howner⟩ := bind_eq_ok.1 howner
  obtain ⟨transitions, -, howner⟩ := bind_eq_ok.1 howner
  obtain ⟨ofTransitions, htransitions, howner⟩ := bind_eq_ok.1 howner
  cases howner
  obtain ⟨ofTransition, hmem, hempty⟩ := List.mem_flatten.1 hempty
  obtain ⟨transition, -, htransition⟩ := of_mem_mapM_eq_ok htransitions hmem
  exact empty_not_mem_requiredOf htransition hempty

/-- **The static helper and the constructor agree.**  A resource that the constructor accepts with
any registry has as its required predicates the names that the kernel publishes; and a registry made
of the required predicates, in any order of the set, is never refused as a mismatch. -/
theorem requiredPredicates_serves (resource : Fields) :
    (∀ predicates k, init resource predicates = .ok k →
      requiredPredicates resource = .ok k.predicateNames) ∧
    ∀ names, requiredPredicates resource = .ok names →
      ∀ ordered : List String, ordered.toFinset = names → ∃ hnames : "" ∉ ordered,
        ∀ missing unknown, init resource (.factRegistry ordered hnames) ≠
          .error (.contractRegistry (.predicateMismatch missing unknown)) := by
  refine ⟨fun predicates k h => ?_, fun names h ordered hordered => ?_⟩
  · obtain ⟨-, documents, catalog, rawCommands, events, hdocuments, -, -, -, hmachines⟩ :=
      init_eq_ok h
    refine requiredPredicates_of_readMachines ?_ hmachines
    rw [hdocuments]
    rfl
  · have hempty : "" ∉ ordered := by
      rw [← List.mem_toFinset, hordered]
      exact empty_not_mem_requiredPredicates h
    refine ⟨hempty, spares_init fun documents c machines hdocuments hmachines name => ?_⟩
    have hused := (requiredPredicates_of_readMachines hdocuments hmachines).symm.trans h
    rw [Except.ok.injEq] at hused
    rw [PredicateRegistry.names, PredicateRegistry.factRegistry, List.map_map]
    rw [← List.mem_toFinset, hused, ← hordered, List.mem_toFinset]
    simp [Function.comp_def]

/-- A resource with four machines, and the registry that its machines require. -/
theorem requiredPredicates_serves_sample :
    requiredPredicates sampleResource = .ok sampleKernel.predicateNames ∧
      ∀ ordered : List String, ordered.toFinset = sampleKernel.predicateNames →
        ∃ hnames : "" ∉ ordered, ∀ missing unknown,
          init sampleResource (.factRegistry ordered hnames) ≠
            .error (.contractRegistry (.predicateMismatch missing unknown)) := by
  obtain ⟨haccepted, hserves⟩ := requiredPredicates_serves sampleResource
  have hrequired := haccepted samplePredicates sampleKernel init_sample
  exact ⟨hrequired, hserves _ hrequired⟩

end TransitionKernel
