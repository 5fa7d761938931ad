/-
**Request digests.**

The kernel digests a part of each request together with the idempotency key and the names of the
predicates.  What it decides depends on nothing else, so equal digests come with equal decisions.  A
request that names a reserved digest is decided only if it is the digest that it has, provided that no
predicate looks at the reserved digest; predicates are given the whole request, and may.

Main definitions:

* `TransitionKernel.TransitionRequest.reserve` — the request with a reserved digest;
* `TransitionKernel.PredicateRegistry.IgnoresReserved` — no predicate looks at it.

Main results:

* `TransitionKernel.digest_determines` — **equal digests come with equal decisions, only the own digest
  can be reserved, and derived keys are equal exactly for equal steps**.
-/

import FaultWitness.FlatJson
import FaultWitness.TransitionClients

set_option autoImplicit false

namespace TransitionKernel

open Python SafetyPaths TransitionClients

/-! ### What is digested -/

/-- The document whose digest is the digest of a request. -/
def material (request : TransitionRequest) (idempotencyKey : Option String)
    (predicateOrder : List String) : Fields :=
  [("action_digest", .optStr request.actionDigest), ("actor", .str request.actor),
    ("aggregate_id", .str request.aggregateId), ("command", .str request.command),
    ("expected_state_version", Kernel.optInt request.expectedStateVersion),
    ("fencing_token", .optStr request.fencingToken),
    ("idempotency_key", .optStr idempotencyKey), ("machine_id", .str request.machineId),
    ("owner_component", .str request.ownerComponent),
    ("predicates", .arr (predicateOrder.map .str)),
    ("schema_version", .str request.schemaVersion), ("state", .str request.state),
    ("state_version", .int request.stateVersion), ("transition_id", .str request.transitionId)]

theorem sortKeys_optStr (s : Option String) : (Json.optStr s).sortKeys = .optStr s := by
  cases s <;> rfl

theorem sortKeys_optInt (n : Option ℕ) : (Kernel.optInt n).sortKeys = Kernel.optInt n := by
  cases n <;> rfl

theorem sortKeys_strings (ss : List String) : (Json.arr (ss.map .str)).sortKeys = .arr (ss.map .str) := by
  have hitems : Json.sortItems (ss.map .str) = ss.map .str := by
    induction ss with
    | nil => rfl
    | cons s ss ih => rw [List.map_cons, Json.sortItems, ih]; rfl
  rw [Json.sortKeys, hitems]

theorem sorted_material (request : TransitionRequest) (key : Option String) (order : List String) :
    Json.Sorted (material request key order) := by
  have hkeys : (material request key order).map Prod.fst = ["action_digest", "actor", "aggregate_id",
      "command", "expected_state_version", "fencing_token", "idempotency_key", "machine_id",
      "owner_component", "predicates", "schema_version", "state", "state_version",
      "transition_id"] := rfl
  refine ⟨hkeys ▸ by decide, fun f hf => ?_⟩
  simp only [material, List.mem_cons, List.not_mem_nil, or_false] at hf
  rcases hf with rfl | rfl | rfl | rfl | rfl | rfl | rfl | rfl | rfl | rfl | rfl | rfl | rfl | rfl <;>
    first | rfl | exact sortKeys_optStr _ | exact sortKeys_optInt _ | exact sortKeys_strings _

theorem separable_optInt (n m : Option ℕ) : (Kernel.optInt n).Separable (Kernel.optInt m) := by
  cases n with
  | none =>
    cases m with
    | none => exact separable_null
    | some m => exact separable_null_int m
  | some n =>
    cases m with
    | none => exact separable_int_null n
    | some m => exact separable_int n m

theorem separable_material (request request' : TransitionRequest) (key key' : Option String)
    (order order' : List String) :
    Json.SeparableFields (material request key order) (material request' key' order') :=
  .cons ⟨rfl, separable_optStr _ _⟩ <| .cons ⟨rfl, separable_str _ _⟩ <|
  .cons ⟨rfl, separable_str _ _⟩ <| .cons ⟨rfl, separable_str _ _⟩ <|
  .cons ⟨rfl, separable_optInt _ _⟩ <| .cons ⟨rfl, separable_optStr _ _⟩ <|
  .cons ⟨rfl, separable_optStr _ _⟩ <| .cons ⟨rfl, separable_str _ _⟩ <|
  .cons ⟨rfl, separable_str _ _⟩ <| .cons ⟨rfl, separable_strings _ _⟩ <|
  .cons ⟨rfl, separable_str _ _⟩ <| .cons ⟨rfl, separable_str _ _⟩ <|
  .cons ⟨rfl, separable_int _ _⟩ <| .cons ⟨rfl, separable_str _ _⟩ .nil

variable {sha256 : String → String} {request request' : TransitionRequest}

/-- What the digest of a request determines of it. -/
structure SameStep (request request' : TransitionRequest) : Prop where
  machineId : request.machineId = request'.machineId
  transitionId : request.transitionId = request'.transitionId
  actor : request.actor = request'.actor
  aggregateId : request.aggregateId = request'.aggregateId
  state : request.state = request'.state
  stateVersion : request.stateVersion = request'.stateVersion
  command : request.command = request'.command

variable {key : Option String}

theorem sameStep_of_digest (hsha : Function.Injective sha256) {key' : Option String}
    {order order' : List String}
    (h : Kernel.requestDigest sha256 request key order = Kernel.requestDigest sha256 request' key' order') :
    SameStep request request' ∧ key = key' := by
  have hfields : material request key order = material request' key' order' :=
    Json.flat_inj (sorted_material _ _ _) (sorted_material _ _ _) (separable_material _ _ _ _ _ _)
      (hsha h)
  have hkey : Json.optStr key = .optStr key' → key = key' := by
    cases key <;> cases key' <;> simp [Json.optStr]
  simp only [material, List.cons.injEq, Prod.mk.injEq, true_and, Json.str.injEq, Json.int.injEq,
    and_true] at hfields
  obtain ⟨-, hactor, haggregate, hcommand, -, -, hid, hmachine, -, -, -, hstate, hversion,
    htransition⟩ := hfields
  exact ⟨⟨hmachine, htransition, hactor, haggregate, hstate, Int.ofNat.inj hversion, hcommand⟩,
    hkey hid⟩

/-! ### Equal digests -/

variable {d : TransitionDecision} {k : Kernel}

/-- **Equal digests come with equal decisions.** -/
theorem decision_of_digest (hsha : Function.Injective sha256) {d' : TransitionDecision}
    (h : k.decide sha256 request = .ok d) (h' : k.decide sha256 request' = .ok d')
    (hdigest : d.requestDigest = d'.requestDigest) : d = d' := by
  obtain ⟨machine, t, command, hd⟩ := decide_eq_ok h
  obtain ⟨machine', t', command', hd'⟩ := decide_eq_ok h'
  have hsame := hdigest
  rw [hd.digest, hd'.digest] at hsame
  obtain ⟨hstep, hkey⟩ := sameStep_of_digest hsha hsame
  -- the machine and the transition are found under names that the digest covers
  have hmachine : machine = machine' := by
    have hlookup := hd.machine_eq
    rw [hstep.machineId, hd'.machine_eq] at hlookup
    exact (Option.some.inj hlookup).symm
  subst hmachine
  have htransition : t = t' := by
    have hlookup := hd.transition_eq
    rw [hstep.transitionId, hd'.transition_eq] at hlookup
    exact (Option.some.inj hlookup).symm
  subst htransition
  rw [hd.decision, hd'.decision, hkey, hdigest]
  simp only [Kernel.decision, hstep.machineId, hstep.transitionId, hstep.actor, hstep.aggregateId,
    hstep.state, hstep.stateVersion, hstep.command]

/-! ### Derived keys -/

/-- The document whose digest is a derived key. -/
def derivedMaterial (request : TransitionRequest) : Fields :=
  [("aggregate_id", .str request.aggregateId), ("command", .str request.command),
    ("machine_id", .str request.machineId), ("state_version", .int request.stateVersion),
    ("transition_id", .str request.transitionId)]

theorem sorted_derivedMaterial (request : TransitionRequest) :
    Json.Sorted (derivedMaterial request) := by
  have hkeys : (derivedMaterial request).map Prod.fst = ["aggregate_id", "command", "machine_id",
      "state_version", "transition_id"] := rfl
  refine ⟨hkeys ▸ by decide, fun f hf => ?_⟩
  simp only [derivedMaterial, List.mem_cons, List.not_mem_nil, or_false] at hf
  rcases hf with rfl | rfl | rfl | rfl | rfl <;> rfl

theorem separable_derivedMaterial (request request' : TransitionRequest) :
    Json.SeparableFields (derivedMaterial request) (derivedMaterial request') :=
  .cons ⟨rfl, separable_str _ _⟩ <| .cons ⟨rfl, separable_str _ _⟩ <|
  .cons ⟨rfl, separable_str _ _⟩ <| .cons ⟨rfl, separable_int _ _⟩ <|
  .cons ⟨rfl, separable_str _ _⟩ .nil

variable {command : Command}

theorem derived_eq_ok (hpolicy : command.idempotency = .derived)
    (h : Kernel.idempotencyKey sha256 request command = .ok key) :
    key = some ("derived:" ++ Kernel.digest sha256 (derivedMaterial request)) := by
  rw [Kernel.idempotencyKey, hpolicy] at h
  cases hsupplied : request.idempotencyKey with
  | none =>
    rw [hsupplied] at h
    cases h
    rfl
  | some supplied =>
    rw [hsupplied] at h
    cases h

/-- **Derived keys are equal exactly for equal steps.** -/
theorem derived_inj (hsha : Function.Injective sha256) {command' : Command} {key' : Option String}
    (hpolicy : command.idempotency = .derived) (hpolicy' : command'.idempotency = .derived)
    (h : Kernel.idempotencyKey sha256 request command = .ok key)
    (h' : Kernel.idempotencyKey sha256 request' command' = .ok key') :
    key = key' ↔ request.aggregateId = request'.aggregateId ∧ request.command = request'.command ∧
      request.machineId = request'.machineId ∧ request.stateVersion = request'.stateVersion ∧
      request.transitionId = request'.transitionId := by
  rw [derived_eq_ok hpolicy h, derived_eq_ok hpolicy' h']
  constructor
  · intro heq
    have htext : Kernel.digest sha256 (derivedMaterial request) =
        Kernel.digest sha256 (derivedMaterial request') :=
      String.append_right_inj "derived:" |>.1 (Option.some.inj heq)
    have hfields := Json.flat_inj (sorted_derivedMaterial _) (sorted_derivedMaterial _)
      (separable_derivedMaterial request request') (hsha htext)
    simp only [derivedMaterial, List.cons.injEq, Prod.mk.injEq, true_and, Json.str.injEq,
      Json.int.injEq, and_true] at hfields
    obtain ⟨haggregate, hcommand, hmachine, hversion, htransition⟩ := hfields
    exact ⟨haggregate, hcommand, hmachine, Int.ofNat.inj hversion, htransition⟩
  · rintro ⟨haggregate, hcommand, hmachine, hversion, htransition⟩
    rw [derivedMaterial, derivedMaterial, haggregate, hcommand, hmachine, hversion, htransition]

/-! ### Reserved digests -/

/-- The request with a reserved digest. -/
def TransitionRequest.reserve (request : TransitionRequest) (digest : String) : TransitionRequest :=
  { request with reservedRequestDigest := some digest }

/-- No predicate looks at the reserved digest. -/
def PredicateRegistry.IgnoresReserved (registry : PredicateRegistry) : Prop :=
  ∀ name request digest, registry.evaluate name (request.reserve digest) = registry.evaluate name request

theorem ignoresReserved_factRegistry (names : List String) (h : "" ∉ names) :
    (PredicateRegistry.factRegistry names h).IgnoresReserved := by
  intro name request digest
  have hlookup : ∀ predicate, (names.map fun name => (name, factPredicate name)).lookup name =
      some predicate → predicate (request.reserve digest) = predicate request := by
    intro predicate hpredicate
    obtain ⟨fact, -, heq⟩ := List.mem_map.1 (mem_of_lookup hpredicate)
    cases heq
    rfl
  simp only [PredicateRegistry.evaluate, PredicateRegistry.factRegistry]
  split
  · rfl
  · rename_i predicate hpredicate
    rw [hlookup predicate hpredicate]

theorem failing_of_guards {registry : PredicateRegistry} {names : List String}
    (h : ∀ name ∈ names, registry.evaluate name request = .ok true) :
    registry.failing request names = .ok [] := by
  induction names with
  | nil => rfl
  | cons name names ih =>
    rw [PredicateRegistry.failing, h name List.mem_cons_self]
    simp only [ih fun other hother => h other (List.mem_cons_of_mem _ hother), if_true]

/-- A request under all the conditions of a decision is decided, but for the reserved digest. -/
theorem decide_of_decided {machine : Machine} {t : Transition}
    (hd : Decided sha256 k request machine t command d) :
    k.decide sha256 request =
      if request.reservedRequestDigest.isSome ∧ request.reservedRequestDigest ≠ some d.requestDigest then
        .error (.idempotency request.command)
      else .ok d := by
  rw [Kernel.decide, if_neg (not_not.2 hd.schema), hd.machine_eq]
  simp only
  rw [if_neg (not_not.2 hd.owner), hd.transition_eq]
  simp only
  rw [if_neg hd.live, if_neg (not_not.2 hd.source), if_neg (not_not.2 hd.actor),
    if_neg (not_not.2 hd.commanded), hd.command_eq]
  simp only [hd.versions, hd.key, failing_of_guards hd.guards, bind, Except.bind, ← hd.digest,
    ← hd.decision, pure, Except.pure]
  rw [if_neg (not_not.2 rfl)]
  split <;> rfl

/-- **Only the own digest can be reserved.** -/
theorem decide_reserve (hpredicates : k.predicates.IgnoresReserved)
    (h : k.decide sha256 request = .ok d) (digest : String) :
    k.decide sha256 (request.reserve digest) =
      if digest = d.requestDigest then .ok d else .error (.idempotency request.command) := by
  obtain ⟨machine, t, command, hd⟩ := decide_eq_ok h
  have hreserved : Decided sha256 k (request.reserve digest) machine t command d :=
    ⟨hd.schema, hd.machine_eq, hd.owner, hd.transition_eq, hd.live, hd.source, hd.actor, hd.commanded,
      hd.command_eq, hd.versions, hd.key,
      fun name hname => (hpredicates name request digest).trans (hd.guards name hname), hd.decision,
      hd.digest⟩
  rw [decide_of_decided hreserved]
  by_cases hdigest : digest = d.requestDigest
  · rw [if_pos hdigest, if_neg]
    rintro ⟨-, hne⟩
    exact hne (congrArg some hdigest)
  · rw [if_neg hdigest, if_pos ⟨rfl, fun heq => hdigest (Option.some.inj heq)⟩]
    rfl

/-- **Equal digests come with equal decisions**, only its own digest can be reserved for a request, and
derived keys are equal exactly for equal steps. -/
theorem digest_determines (sha256 : String → String) (hsha : Function.Injective sha256)
    (resource : Fields) (predicates : PredicateRegistry) (k : Kernel)
    (hk : init resource predicates = .ok k) :
    (∀ request request' d d', k.decide sha256 request = .ok d → k.decide sha256 request' = .ok d' →
      d.requestDigest = d'.requestDigest → d = d') ∧
    (predicates.IgnoresReserved → ∀ request d, k.decide sha256 request = .ok d →
      k.decide sha256 (request.reserve d.requestDigest) = .ok d ∧
      ∀ digest, digest ≠ d.requestDigest →
        k.decide sha256 (request.reserve digest) = .error (.idempotency request.command)) ∧
    ∀ request request' command command' key key',
      Command.idempotency command = .derived → Command.idempotency command' = .derived →
      Kernel.idempotencyKey sha256 request command = .ok key →
      Kernel.idempotencyKey sha256 request' command' = .ok key' →
      (key = key' ↔ request.aggregateId = request'.aggregateId ∧ request.command = request'.command ∧
        request.machineId = request'.machineId ∧ request.stateVersion = request'.stateVersion ∧
        request.transitionId = request'.transitionId) := by
  refine ⟨fun _ _ _ _ => decision_of_digest hsha, fun hignores request d h => ?_,
    fun _ _ _ _ _ _ => derived_inj hsha⟩
  rw [← (init_eq_ok hk).1] at hignores
  refine ⟨?_, fun digest hne => ?_⟩
  · rw [decide_reserve hignores h, if_pos rfl]
  · rw [decide_reserve hignores h, if_neg hne]

theorem digest_determines_dispatch : ∃ d, sampleKernel.decide id sampleDispatch = .ok d ∧
    sampleKernel.decide id (sampleDispatch.reserve d.requestDigest) = .ok d ∧
    sampleKernel.decide id (sampleDispatch.reserve "") = .error (.idempotency "CMD-ADVANCE") := by
  have hsome : (sampleKernel.decide id sampleDispatch).toOption.any (fun d => d.requestDigest ≠ "") =
      true := by decide +kernel
  cases hd : sampleKernel.decide id sampleDispatch with
  | error err => simp [hd, Except.toOption] at hsome
  | ok d =>
    have hne : "" ≠ d.requestDigest := by
      simp only [hd, Except.toOption, Option.any_some, decide_eq_true_eq] at hsome
      exact Ne.symm hsome
    obtain ⟨-, hreserve, -⟩ := digest_determines id Function.injective_id sampleResource
      samplePredicates sampleKernel init_sample
    obtain ⟨hsame, hother⟩ := hreserve (ignoresReserved_factRegistry _ _) sampleDispatch d hd
    exact ⟨d, rfl, hsame, hother "" hne⟩

/-! ### Predicates that look at the reserved digest -/

/-- Predicates of the small contract that hold as long as no digest is reserved. -/
def unreservedPredicates : PredicateRegistry where
  predicates := samplePredicates.predicates.map fun p =>
    (p.1, fun request => .bool (request.reservedRequestDigest = none))
  nonempty := by decide

/-- With its own digest reserved, the dispatch is rejected by its guards. -/
theorem not_decided_unreserved :
    ¬∀ (sha256 : String → String), Function.Injective sha256 →
      ∀ (resource : Fields) (predicates : PredicateRegistry) (k : Kernel),
        init resource predicates = .ok k → ∀ request d, k.decide sha256 request = .ok d →
          k.decide sha256 (request.reserve d.requestDigest) = .ok d := by
  intro h
  have hsome : ((init sampleResource unreservedPredicates).toOption.bind fun k =>
      (k.decide id sampleDispatch).toOption.map fun d =>
        (k.decide id (sampleDispatch.reserve d.requestDigest)).toOption.isNone) = some true := by
    decide +kernel
  cases hk : init sampleResource unreservedPredicates with
  | error err => simp [hk, Except.toOption] at hsome
  | ok k =>
    cases hd : k.decide id sampleDispatch with
    | error err => simp [hk, hd, Except.toOption] at hsome
    | ok d =>
      have hsame := h id Function.injective_id sampleResource unreservedPredicates k hk
        sampleDispatch d hd
      simp [hk, hd, hsame, Except.toOption] at hsome

end TransitionKernel
