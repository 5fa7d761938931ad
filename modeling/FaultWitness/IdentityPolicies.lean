/-
**Identity policies of the sealed evaluation.**

Every principal of the evaluation has a list of denied and a list of allowed rules, a rule names an
action and a shell pattern for resources, and a denial wins.  `simulateIdentityPolicies` accepts a
configuration after asking it about a fixed list of resources for each principal; for the two
sealed prefixes the list holds one resource each, the deny sentinel.  One name under a prefix does
not speak for all of them: a rule may tell them apart.  What acceptance gives is that this is the
only way in.

Main definitions:
* `IdentityPolicies.Config` - the policies by principal
* `IdentityPolicies.authorize`, `IdentityPolicies.simulateIdentityPolicies` - the code
* `IdentityPolicies.sampledPrefixes` - the sealed prefixes a sentinel stands for, by principal
* `IdentityPolicies.Uniform` - a pattern that takes the names under a prefix all alike

Main results:
* `IdentityPolicies.sealed_material` - in an accepted configuration only a rule that tells a name
  from the sentinel can open it, so rules that take the prefix whole keep it closed
* `IdentityPolicies.uniform_star`, `IdentityPolicies.uniform_plain` - the patterns in use are such
-/
import FaultWitness.Python
import FaultWitness.GlobPatterns

set_option autoImplicit false

namespace IdentityPolicies

open Glob (fnmatchcase Plain)

/-! ### Rules and policies -/

/-- A rule without an action matches no request; a resource is used as its text. -/
structure Rule where
  action : Option String
  resource : String
  deriving DecidableEq, Repr

structure Policy where
  deny : List Rule
  allow : List Rule

/-- The principals with their policies, in the order of the file. -/
structure Config where
  principals : List (String × Policy)

structure GovernanceError where
  text : String
  deriving DecidableEq, Repr

inductive Principal
  | scenarioController
  | baselineAgent
  | sealedEvaluator
  | ordinaryDeveloper
  deriving DecidableEq, Repr

def Principal.name : Principal → String
  | .scenarioController => "scenario-controller"
  | .baselineAgent => "baseline-agent"
  | .sealedEvaluator => "sealed-evaluator"
  | .ordinaryDeveloper => "ordinary-developer"

def principals : List Principal :=
  [.scenarioController, .baselineAgent, .sealedEvaluator, .ordinaryDeveloper]

theorem mem_principals (p : Principal) : p ∈ principals := by
  cases p <;> decide

def ruleMatches (rule : Rule) (action resource : String) : Bool :=
  rule.action = some action && fnmatchcase resource rule.resource

def authorize (config : Config) (principal action resource : String) :
    Except GovernanceError Bool :=
  match config.principals.lookup principal with
  | none => throw ⟨s!"unknown G02 isolation principal: {principal}"⟩
  | some policy =>
    if policy.deny.any fun rule => ruleMatches rule action resource then pure false
    else pure (policy.allow.any fun rule => ruleMatches rule action resource)

/-! ### The simulation -/

structure Check where
  action : String
  resource : String
  expected : Bool
  deriving DecidableEq, Repr

def checks : Principal → List Check
  | .scenarioController =>
    [⟨"read", "s3:g02/scenarios/SEED-G02-0001.json", true⟩,
      ⟨"write", "s3:g02/trials/trial.json", true⟩,
      ⟨"read", "s3:g02/ground-truth/deny-sentinel", false⟩,
      ⟨"read", "s3:g02/locked-tests/deny-sentinel", false⟩,
      ⟨"read", "schema:incident", false⟩]
  | .baselineAgent =>
    [⟨"read", "observation:own", true⟩,
      ⟨"write", "trial-sink:own", true⟩,
      ⟨"read", "obs:prometheus", true⟩,
      ⟨"read", "s3:g02/ground-truth/deny-sentinel", false⟩,
      ⟨"connect", "network:fw-eval", false⟩]
  | .sealedEvaluator =>
    [⟨"read", "s3:g02/trials/trial.json", true⟩,
      ⟨"read", "s3:g02/ground-truth/deny-sentinel", true⟩,
      ⟨"read", "s3:g02/locked-tests/deny-sentinel", true⟩,
      ⟨"write", "s3:g02/evidence/result.json", true⟩,
      ⟨"mutate", "sut:flag/productCatalogFailure", false⟩,
      ⟨"use", "credential:baseline-execution", false⟩]
  | .ordinaryDeveloper =>
    [⟨"read", "public:preregistry", true⟩,
      ⟨"read", "s3:g02/ground-truth/deny-sentinel", false⟩,
      ⟨"read", "s3:g02/locked-tests/deny-sentinel", false⟩,
      ⟨"read", "s3:g02/trials/trial.json", false⟩,
      ⟨"read", "schema:incident", false⟩]

structure Observation extends Check where
  actual : Bool
  deriving DecidableEq, Repr

structure Report where
  principal : String
  checks : List Observation
  status : String
  deriving DecidableEq, Repr

def observe (config : Config) (principal : Principal) (check : Check) :
    Except GovernanceError Observation := do
  let actual ← authorize config principal.name check.action check.resource
  if actual ≠ check.expected then
    throw ⟨s!"G02 isolation policy drifted for {principal.name}: {check.resource}"⟩
  pure { check with actual }

def simulateIdentityPolicies (config : Config) : Except GovernanceError (List Report) :=
  principals.mapM fun principal => do
    let observations ← (checks principal).mapM (observe config principal)
    pure { principal := principal.name, checks := observations, status := "pass" }

/-- The configuration of the repository, with the rules about reading. -/
def frozenConfig : Config where
  principals :=
    [("scenario-controller",
        { allow := [⟨some "read", "s3:g02/scenarios/*"⟩, ⟨some "write", "s3:g02/trials/*"⟩,
            ⟨some "mutate", "sut:flag/*"⟩]
          deny := [⟨some "read", "s3:g02/ground-truth/*"⟩, ⟨some "read", "s3:g02/locked-tests/*"⟩,
            ⟨some "read", "schema:*"⟩, ⟨some "mutate", "sut:other/*"⟩] }),
      ("baseline-agent",
        { allow := [⟨some "read", "observation:own"⟩, ⟨some "write", "trial-sink:own"⟩,
            ⟨some "read", "obs:*"⟩]
          deny := [⟨some "read", "s3:g02/scenarios/*"⟩, ⟨some "read", "s3:g02/ground-truth/*"⟩,
            ⟨some "read", "s3:g02/locked-tests/*"⟩, ⟨some "read", "s3:g02/evidence/*"⟩,
            ⟨some "connect", "network:fw-eval"⟩] }),
      ("sealed-evaluator",
        { allow := [⟨some "read", "s3:g02/trials/*"⟩, ⟨some "read", "s3:g02/ground-truth/*"⟩,
            ⟨some "read", "s3:g02/locked-tests/*"⟩, ⟨some "write", "s3:g02/evidence/*"⟩]
          deny := [⟨some "mutate", "sut:*"⟩, ⟨some "use", "credential:baseline-execution"⟩,
            ⟨some "read", "schema:*"⟩] }),
      ("ordinary-developer",
        { allow := [⟨some "read", "public:documentation"⟩, ⟨some "read", "public:preregistry"⟩]
          deny := [⟨some "read", "s3:g02/ground-truth/*"⟩, ⟨some "read", "s3:g02/locked-tests/*"⟩,
            ⟨some "read", "s3:g02/trials/*"⟩, ⟨some "read", "s3:g02/evidence/*"⟩,
            ⟨some "read", "schema:*"⟩] })]

theorem simulate_frozenConfig : (simulateIdentityPolicies frozenConfig).isOk = true := by
  decide +kernel

/-! ### What acceptance says -/

variable {config : Config}

theorem authorize_of_simulate {reports : List Report}
    (h : simulateIdentityPolicies config = .ok reports) {p : Principal} {check : Check}
    (hcheck : check ∈ checks p) :
    authorize config p.name check.action check.resource = .ok check.expected := by
  obtain ⟨report, hreport⟩ := Python.mem_of_mapM_eq_ok h (mem_principals p)
  obtain ⟨observations, hobservations, -⟩ := Python.bind_eq_ok.1 hreport
  obtain ⟨observation, hobserve⟩ := Python.mem_of_mapM_eq_ok hobservations hcheck
  obtain ⟨actual, hactual, hrest⟩ := Python.bind_eq_ok.1 hobserve
  have hsame : ¬ actual ≠ check.expected := by
    intro hne
    rw [if_pos hne] at hrest
    cases hrest
  rw [hactual, not_not.1 hsame]

/-- An answer is the denied rules' or, without one that matches, the allowed rules'. -/
theorem authorize_eq_ok {principal action resource : String} {allowed : Bool} :
    authorize config principal action resource = .ok allowed ↔
      ∃ policy, config.principals.lookup principal = some policy ∧
        (allowed = true ↔ (∃ rule ∈ policy.allow, ruleMatches rule action resource = true) ∧
          ∀ rule ∈ policy.deny, ruleMatches rule action resource = false) := by
  unfold authorize
  cases config.principals.lookup principal with
  | none => simp [throw, throwThe, MonadExceptOf.throw]
  | some policy =>
    simp only [Option.some.injEq, exists_eq_left']
    have hdeny : (policy.deny.any fun rule => ruleMatches rule action resource) = false ↔
        ∀ rule ∈ policy.deny, ruleMatches rule action resource = false := by simp
    rw [← hdeny, ← List.any_eq_true]
    cases policy.deny.any fun rule => ruleMatches rule action resource with
    | true => cases allowed <;> simp [pure, Except.pure]
    | false =>
      simp only [Bool.false_eq_true, if_false, and_true, ← Bool.eq_iff_iff]
      exact ⟨fun h => (Except.ok.inj h).symm, fun h => congrArg Except.ok h.symm⟩

/-! ### The sealed prefixes -/

/-- The resource the simulation asks about in place of all under the prefix. -/
def sentinel (pre : String) : String := pre ++ "deny-sentinel"

/-- The sealed prefixes whose sentinel the simulation expects to be closed to the principal. -/
def sampledPrefixes : Principal → List String
  | .scenarioController => ["s3:g02/ground-truth/", "s3:g02/locked-tests/"]
  | .baselineAgent => ["s3:g02/ground-truth/"]
  | .sealedEvaluator => []
  | .ordinaryDeveloper => ["s3:g02/ground-truth/", "s3:g02/locked-tests/"]

variable {pre : String}

theorem sentinel_mem_checks {p : Principal} (h : pre ∈ sampledPrefixes p) :
    ⟨"read", sentinel pre, false⟩ ∈ checks p := by
  cases p <;> simp only [sampledPrefixes, List.mem_cons, List.not_mem_nil, or_false] at h
  case baselineAgent => subst h; decide
  all_goals rcases h with rfl | rfl <;> decide

/-- The resource is a name under the prefix. -/
def Under (pre resource : String) : Prop := pre.toList <+: resource.toList

theorem under_sentinel (pre : String) : Under pre (sentinel pre) := by
  rw [Under, sentinel, String.toList_append]
  exact List.prefix_append _ _

/-- The pattern takes the names under the prefix all alike. -/
def Uniform (pattern pre : String) : Prop :=
  ∀ resource other, Under pre resource → Under pre other →
    fnmatchcase resource pattern = fnmatchcase other pattern

/-- A stem with a final `*` takes all names under a prefix it is a prefix of, and none under a
prefix that departs from it. -/
theorem uniform_star {stem : String} (hplain : ∀ c ∈ stem.toList, Plain c)
    (h : stem.toList <+: pre.toList ∨ ¬ pre.toList <+: stem.toList) :
    Uniform (stem ++ "*") pre := by
  have hiff : ∀ resource, Under pre resource →
      (fnmatchcase resource (stem ++ "*") = true ↔ stem.toList <+: pre.toList) := by
    intro resource hunder
    rw [Glob.fnmatchcase_star hplain]
    constructor
    · intro hstem
      rcases h with h | h
      · exact h
      · -- two prefixes of one name: one of them is a prefix of the other
        rcases List.prefix_or_prefix_of_prefix hstem hunder with hpre | hpre
        · exact hpre
        · exact absurd hpre h
    · intro hstem
      exact hstem.trans hunder
  intro resource other hresource hother
  exact Bool.eq_iff_iff.2 ((hiff resource hresource).trans (hiff other hother).symm)

theorem uniform_plain {text : String} (hplain : ∀ c ∈ text.toList, Plain c) (h : ¬ Under pre text) :
    Uniform text pre := by
  have hnone : ∀ resource, Under pre resource → fnmatchcase resource text = false := by
    intro resource hunder
    refine Bool.eq_false_iff.2 fun hmatch => h ?_
    rw [Glob.fnmatchcase_plain hplain] at hmatch
    exact hmatch ▸ hunder
  intro resource other hresource hother
  rw [hnone resource hresource, hnone other hother]

theorem any_congr {rules : List Rule} {f g : Rule → Bool} (h : ∀ rule ∈ rules, f rule = g rule) :
    rules.any f = rules.any g := by
  induction rules with
  | nil => rfl
  | cons rule rules ih =>
    rw [List.any_cons, List.any_cons, h rule List.mem_cons_self,
      ih fun other hother => h other (List.mem_cons_of_mem rule hother)]

/-- A test for the patterns of the two kinds. -/
def takesWhole (pattern pre : String) : Bool :=
  let text := pattern.toList
  if text.getLast? = some '*' then
    text.dropLast.all (fun c => decide (Plain c)) &&
      (text.dropLast.isPrefixOf pre.toList || !pre.toList.isPrefixOf text.dropLast)
  else text.all (fun c => decide (Plain c)) && !pre.toList.isPrefixOf text

theorem uniform_of_takesWhole {pattern : String} (h : takesWhole pattern pre = true) :
    Uniform pattern pre := by
  unfold takesWhole at h
  by_cases hstar : pattern.toList.getLast? = some '*'
  · rw [if_pos hstar] at h
    simp only [Bool.and_eq_true, List.all_eq_true, decide_eq_true_eq, Bool.or_eq_true,
      Bool.not_eq_true', Bool.eq_false_iff, ne_eq, List.isPrefixOf_iff_prefix] at h
    have hsplit : pattern = String.ofList pattern.toList.dropLast ++ "*" := by
      rw [← String.toList_inj, String.toList_append, String.toList_ofList]
      exact (List.dropLast_append_getLast? '*' hstar).symm
    rw [hsplit]
    refine uniform_star ?_ ?_
    · simpa using h.1
    · simpa using h.2
  · rw [if_neg hstar] at h
    simp only [Bool.and_eq_true, List.all_eq_true, decide_eq_true_eq, Bool.not_eq_true',
      Bool.eq_false_iff, ne_eq, List.isPrefixOf_iff_prefix] at h
    exact uniform_plain h.1 h.2

/-- Two names that every reading rule of a policy takes alike are both open or both closed. -/
theorem authorize_congr {policy : Policy} {principal resource other : String}
    (hlookup : config.principals.lookup principal = some policy)
    (halike : ∀ rule ∈ policy.deny ++ policy.allow, rule.action = some "read" →
      fnmatchcase resource rule.resource = fnmatchcase other rule.resource) :
    authorize config principal "read" resource = authorize config principal "read" other := by
  have hmatch : ∀ rule ∈ policy.deny ++ policy.allow,
      ruleMatches rule "read" resource = ruleMatches rule "read" other := by
    intro rule hrule
    by_cases hread : rule.action = some "read"
    · simp [ruleMatches, halike rule hrule hread]
    · simp [ruleMatches, hread]
  have hdeny : (policy.deny.any fun rule => ruleMatches rule "read" resource) =
      policy.deny.any fun rule => ruleMatches rule "read" other := by
    refine any_congr fun rule hrule => hmatch rule ?_
    exact List.mem_append_left _ hrule
  have hallow : (policy.allow.any fun rule => ruleMatches rule "read" resource) =
      policy.allow.any fun rule => ruleMatches rule "read" other := by
    refine any_congr fun rule hrule => hmatch rule ?_
    exact List.mem_append_right _ hrule
  simp only [authorize, hlookup, hdeny, hallow]

/-- **Sealed material in an accepted configuration.**  A name under a sampled prefix that is open
is open through a rule that tells it from the sentinel: a denial of the sentinel that leaves the
name out, or a permission of the name that leaves the sentinel out.  So where every reading rule
takes the prefix whole, all of it is denied. -/
theorem sealed_material {config : Config} {reports : List Report}
    (h : simulateIdentityPolicies config = .ok reports) {p : Principal} {pre : String}
    (hpre : pre ∈ sampledPrefixes p) :
    ∃ policy, config.principals.lookup p.name = some policy ∧
      authorize config p.name "read" (sentinel pre) = .ok false ∧
      (∀ resource, Under pre resource →
        authorize config p.name "read" resource = .ok false ∨
        (∃ rule ∈ policy.deny, ruleMatches rule "read" (sentinel pre) = true ∧
          ruleMatches rule "read" resource = false) ∨
        ∃ rule ∈ policy.allow, ruleMatches rule "read" resource = true ∧
          ruleMatches rule "read" (sentinel pre) = false) ∧
      ((∀ rule ∈ policy.deny ++ policy.allow, rule.action = some "read" →
          Uniform rule.resource pre) →
        ∀ resource, Under pre resource →
          authorize config p.name "read" resource = .ok false) := by
  have hsentinel := authorize_of_simulate h (sentinel_mem_checks hpre)
  obtain ⟨policy, hlookup, hclosed⟩ := authorize_eq_ok.1 hsentinel
  refine ⟨policy, hlookup, hsentinel, ?_, ?_⟩
  · intro resource _
    by_cases hopen : (∃ rule ∈ policy.allow, ruleMatches rule "read" resource = true) ∧
        ∀ rule ∈ policy.deny, ruleMatches rule "read" resource = false
    · right
      obtain ⟨⟨rule, hrule, hmatch⟩, hdeny⟩ := hopen
      cases hsent : ruleMatches rule "read" (sentinel pre) with
      | false => exact .inr ⟨rule, hrule, hmatch, hsent⟩
      | true =>
        -- the permission holds for the sentinel too, so a denial must have closed it
        by_contra hnone
        refine absurd (hclosed.2 ⟨⟨rule, hrule, hsent⟩, ?_⟩) (by simp)
        intro denial hdenial
        refine Bool.eq_false_iff.2 fun hdenied => hnone ?_
        exact .inl ⟨denial, hdenial, hdenied, hdeny denial hdenial⟩
    · left
      exact authorize_eq_ok.2 ⟨policy, hlookup, by simpa using hopen⟩
  · intro huniform resource hunder
    rw [← hsentinel]
    refine authorize_congr hlookup fun rule hrule hread => ?_
    exact huniform rule hrule hread resource (sentinel pre) hunder (under_sentinel pre)

/-- The baseline agent under the repository's own configuration: its reading rules take the
prefix of the ground truth whole. -/
theorem sealed_material_frozenConfig :
    ∃ reports, simulateIdentityPolicies frozenConfig = .ok reports ∧
      ∀ resource, Under "s3:g02/ground-truth/" resource →
        authorize frozenConfig "baseline-agent" "read" resource = .ok false := by
  cases hreports : simulateIdentityPolicies frozenConfig with
  | error err =>
    have hok := simulate_frozenConfig
    rw [hreports] at hok
    cases hok
  | ok reports =>
    refine ⟨reports, rfl, ?_⟩
    have hpre : "s3:g02/ground-truth/" ∈ sampledPrefixes .baselineAgent := by decide
    obtain ⟨policy, hlookup, -, -, hall⟩ := sealed_material hreports hpre
    have hwhole : ((frozenConfig.principals.lookup "baseline-agent").all fun policy =>
        (policy.deny ++ policy.allow).all fun rule =>
          takesWhole rule.resource "s3:g02/ground-truth/") = true := by decide +kernel
    refine hall fun rule hrule _ => uniform_of_takesWhole ?_
    rw [show Principal.baselineAgent.name = "baseline-agent" from rfl] at hlookup
    rw [hlookup, Option.all_some] at hwhole
    exact List.all_eq_true.1 hwhole rule hrule

/-- A configuration that closes the sentinel by name and opens what is beside it. -/
def sampledConfig : Config where
  principals := frozenConfig.principals.map fun entry =>
    if entry.1 = "scenario-controller" then
      (entry.1,
        { allow := ⟨some "read", "s3:g02/ground-truth/*"⟩ :: entry.2.allow
          deny := [⟨some "read", "s3:g02/ground-truth/deny-*"⟩,
            ⟨some "read", "s3:g02/locked-tests/*"⟩, ⟨some "read", "schema:*"⟩] })
    else entry

/-- The simulation accepts a configuration under which the scenario controller reads sealed
material. -/
theorem not_sealed_sampledConfig :
    (simulateIdentityPolicies sampledConfig).isOk = true ∧
      Under "s3:g02/ground-truth/" "s3:g02/ground-truth/CORE-0001.json" ∧
      authorize sampledConfig "scenario-controller" "read"
        "s3:g02/ground-truth/CORE-0001.json" = .ok true := by
  refine ⟨by decide +kernel, ?_, ?_⟩
  · exact List.isPrefixOf_iff_prefix.1 (by decide +kernel)
  · exact authorize_eq_ok.2 ⟨_, rfl, by decide +kernel⟩

end IdentityPolicies
