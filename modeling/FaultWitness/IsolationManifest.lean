/-
**The manifest of the namespaces' isolation.**

The validator of the manifest looks up a few network policies by name and reads the namespaces that
their egress rules name by label.  Traffic is admitted by all policies of a pod together, under
selectors of every form: what the validator has not read it has not ruled out.

Main definitions:
* `IsolationManifest.validateNamespaceIsolationManifest` - the validator
* `IsolationManifest.Isolated` - no policy of the manifest that selects a principal's pods admits
  traffic to the pods of a namespace
* `IsolationManifest.Inspected` - the part of this that the validator leaves open

Main results:
* `IsolationManifest.isolated_iff` - an accepted manifest isolates exactly if that part holds
* `IsolationManifest.not_isolated_extraPolicy` - a policy more, which the validator accepts
-/
import FaultWitness.Python
import FaultWitness.ClusterNetwork

set_option autoImplicit false

namespace IsolationManifest

open ClusterNetwork

/-! ### Documents -/

inductive Document
  | secret
  | serviceAccount (metadata : Metadata) (automountServiceAccountToken : Option Bool)
  | networkPolicy (policy : NetworkPolicy)
  | other
deriving DecidableEq

inductive Error
  | governance (text : String)
  | keyError
  /-- A null where a mapping or a list is read. -/
  | typeError
deriving DecidableEq

/-- The method `get` with a default, followed by a use of the value. -/
def get {α : Type} (field : Setting α) (default : α) : Except Error α :=
  match field with
  | .absent => .ok default
  | .null => .error .typeError
  | .given value => .ok value

def accounts (documents : List Document) : List (Metadata × Option Bool) :=
  documents.filterMap fun
    | .serviceAccount metadata automount => some (metadata, automount)
    | _ => none

def policies (documents : List Document) : List NetworkPolicy :=
  documents.filterMap fun
    | .networkPolicy policy => some policy
    | _ => none

/-- The policy of a name: of several documents the last one. -/
def policyNamed (documents : List Document) (name : String) : Option NetworkPolicy :=
  (policies documents).reverse.find? fun p => p.metadata.name = name

def accountNamed (documents : List Document) (name : String) : Option (Metadata × Option Bool) :=
  (accounts documents).reverse.find? fun a => a.1.name = name

/-- The two lists have the same members. -/
def sameMembers (as bs : List String) : Bool := as.all (· ∈ bs) && bs.all (· ∈ as)

/-- The principals with their namespaces. -/
def expectedAccounts : List (String × String) :=
  [("scenario-controller", "fw-sut"), ("baseline-agent", "fw-baseline"),
    ("sealed-evaluator", "fw-eval")]

def PUBLIC_HTTPS_EXCLUSIONS : List String :=
  ["0.0.0.0/8", "10.0.0.0/8", "100.64.0.0/10", "127.0.0.0/8", "169.254.0.0/16", "172.16.0.0/12",
    "192.0.0.0/24", "192.0.2.0/24", "192.168.0.0/16", "198.18.0.0/15", "198.51.100.0/24",
    "203.0.113.0/24", "224.0.0.0/4", "240.0.0.0/4"]

/-! ### The validator -/

def validateAccount (documents : List Document) (expected : String × String) :
    Except Error Unit :=
  match accountNamed documents expected.1 with
  | none => throw .keyError
  | some (metadata, automount) => do
    if metadata.namespace ≠ some expected.2 then
      throw (.governance s!"G02 service-account namespace drifted: {expected.1}")
    if automount ≠ some false then
      throw (.governance s!"G02 service account must not automount a token: {expected.1}")

def validateDefaultDeny (documents : List Document) (principal : String) : Except Error Unit :=
  match policyNamed documents (principal ++ "-default-deny") with
  | none => throw (.governance s!"G02 default-deny policy is missing: {principal}")
  | some policy =>
    match policy.spec with
    | .absent => throw .keyError
    | .null => throw .typeError
    | .given spec => do
      let types ← get spec.policyTypes []
      if sameMembers types ["Ingress", "Egress"] = false then
        throw (.governance s!"G02 default-deny policy is missing: {principal}")
      if spec.ingress.isPresent || spec.egress.isPresent then
        throw (.governance s!"G02 default-deny policy contains an allow rule: {principal}")

/-- The namespace that a target names, if it names one. -/
def targetNamespace (target : Peer) : Except Error (Option String) := do
  let selector ← get target.namespaceSelector {}
  let labels ← get selector.matchLabels []
  pure (labels.lookup nameLabel)

def ruleNamespaces (rule : EgressRule) : Except Error (List (Option String)) := do
  let targets ← get rule.toPeers []
  targets.mapM targetNamespace

def networkPolicyNamespaces (spec : Setting PolicySpec) : Except Error (List String) := do
  let spec ← get spec {}
  let rules ← get spec.egress []
  let names ← rules.mapM ruleNamespaces
  pure (names.flatten.filterMap fun name => name.filter (· ≠ ""))

/-- Whether a target is the block of all addresses. -/
def isPublic (target : Peer) : Except Error Bool := do
  let block ← get target.ipBlock { cidr := none }
  pure (block.cidr = some "0.0.0.0/0")

def validatePublicHttpsEgress (spec : Setting PolicySpec) : Except Error Unit := do
  let spec ← get spec {}
  let rules ← get spec.egress []
  let publicRules ← rules.filterM fun rule => do (← get rule.toPeers []).anyM isPublic
  match publicRules with
  | [rule] =>
    let targets ← get rule.toPeers []
    match (targets.map Peer.ipBlock).filter Setting.isPresent with
    | [block] =>
      let block ← get block { cidr := none }
      let except ← get block.except []
      if except ≠ PUBLIC_HTTPS_EXCLUSIONS then
        throw (.governance "G02 public HTTPS egress does not exclude every private range")
    | _ => throw (.governance "G02 public HTTPS egress does not exclude every private range")
    if rule.ports ≠ .given [{ protocol := some "TCP", number := some 443 }] then
      throw (.governance "G02 public egress must be restricted to HTTPS")
  | _ => throw (.governance "G02 baseline policy must contain one public HTTPS egress rule")

def observabilityExpressions : List Expression :=
  [{ key := "app.kubernetes.io/name", operator := "In", values := ["prometheus", "loki", "tempo"] }]

def observabilitySource : Peer where
  namespaceSelector := .given { matchLabels := .given [(nameLabel, "fw-baseline")] }
  podSelector := .given
    { matchLabels := .given [("faultwitness.dev/principal", "baseline-agent")] }

def observabilityPorts : List Port :=
  [9090, 3100, 3200].map fun number => { protocol := some "TCP", number := some number }

def validateBaselineObservabilityIngress (spec : Setting PolicySpec) : Except Error Unit := do
  let spec ← get spec {}
  let selector ← get spec.podSelector {}
  let expressions := selector.matchExpressions
  if expressions ≠ .given observabilityExpressions then
    throw (.governance "G02 observability ingress target selector drifted")
  match spec.ingress with
  | .given [rule] =>
    if rule.fromPeers ≠ .given [observabilitySource] then
      throw (.governance "G02 observability ingress exceeds the baseline principal")
    if rule.ports ≠ .given observabilityPorts then
      throw (.governance "G02 observability ingress port registry drifted")
  | _ => throw (.governance "G02 observability ingress must contain one exact rule")

/-- The part of a policy that is read, with an empty mapping in place of one that is missing. -/
def specOf (policy : Option NetworkPolicy) : Setting PolicySpec :=
  match policy with
  | none => .absent
  | some policy => policy.spec

structure Report where
  status : String
  serviceAccounts : List String
  networkPolicyCount : ℕ
  credentialObjects : ℕ
  baselineObservabilityNamespaces : List String
  publicHttpsPrivateExclusions : ℕ
  observabilityIngress : String
deriving DecidableEq

def validateNamespaceIsolationManifest (documents : List Document) : Except Error Report := do
  if .secret ∈ documents then
    throw (.governance "G02 isolation manifest must not embed credentials")
  if sameMembers ((accounts documents).map fun a => a.1.name) (expectedAccounts.map Prod.fst) =
      false then
    throw (.governance "G02 isolation manifest service-account registry drifted")
  expectedAccounts.forM (validateAccount documents)
  expectedAccounts.forM fun expected => validateDefaultDeny documents expected.1
  let baseline := specOf (policyNamed documents "baseline-agent-allow-observability")
  let evaluator := specOf (policyNamed documents "sealed-evaluator-allow-object-store")
  let baselineNamespaces ← networkPolicyNamespaces baseline
  let evaluatorNamespaces ← networkPolicyNamespaces evaluator
  if sameMembers baselineNamespaces ["kube-system", "fw-sut", "fw-observability"] = false ∨
      "fw-eval" ∈ baselineNamespaces then
    throw (.governance "G02 baseline network policy exceeds its observability boundary")
  if sameMembers evaluatorNamespaces ["kube-system", "fw-data"] = false ∨
      "fw-sut" ∈ evaluatorNamespaces then
    throw (.governance "G02 evaluator network policy can reach the SUT")
  validatePublicHttpsEgress baseline
  validateBaselineObservabilityIngress
    (specOf (policyNamed documents "allow-baseline-agent-read-observability"))
  pure
    { status := "pass"
      serviceAccounts := expectedAccounts.map Prod.fst
      networkPolicyCount := ((policies documents).map fun p => p.metadata.name).dedup.length
      credentialObjects := 0
      baselineObservabilityNamespaces := ["fw-observability", "fw-sut"]
      publicHttpsPrivateExclusions := PUBLIC_HTTPS_EXCLUSIONS.length
      observabilityIngress := "exact-baseline-principal" }

/-! ### What acceptance says -/

theorem eq_of_get {α : Type} {field : Setting α} {default value given : α}
    (h : get field default = .ok value) (hgiven : field.toOption = some given) : given = value := by
  cases field with
  | absent => cases hgiven
  | null => cases hgiven
  | given other =>
    cases hgiven
    cases h
    rfl

theorem mem_of_get {α : Type} {field : Setting (List α)} {values : List α} {a : α}
    (h : get field [] = .ok values) (ha : a ∈ field.toOption.getD []) : a ∈ values := by
  cases field with
  | absent => cases ha
  | null => cases ha
  | given other =>
    cases h
    exact ha

theorem targetNamespace_of_named {target : Peer} {found : Option String} {name : String}
    (h : targetNamespace target = .ok found) (hname : target.namedNamespace = some name) :
    found = some name := by
  obtain ⟨labels, hlabels, hlookup⟩ := Option.bind_eq_some_iff.1 hname
  obtain ⟨selector, hselector, hmatch⟩ := Option.bind_eq_some_iff.1 hlabels
  obtain ⟨selector', hselector', h⟩ := Python.bind_eq_ok.1 h
  obtain ⟨labels', hlabels', h⟩ := Python.bind_eq_ok.1 h
  cases eq_of_get hselector' hselector
  cases eq_of_get hlabels' hmatch
  cases h
  exact hlookup

/-- Every namespace that the egress rules name by label is among those found. -/
theorem named_of_networkPolicyNamespaces {spec : PolicySpec} {names : List String}
    (h : networkPolicyNamespaces (.given spec) = .ok names) {rule : EgressRule}
    (hrule : rule ∈ spec.egress.toOption.getD []) {target : Peer}
    (htarget : target ∈ rule.toPeers.toOption.getD []) {name : String}
    (hname : target.namedNamespace = some name) : name = "" ∨ name ∈ names := by
  obtain ⟨spec', hspec, h⟩ := Python.bind_eq_ok.1 h
  cases hspec
  obtain ⟨rules, hrules, h⟩ := Python.bind_eq_ok.1 h
  obtain ⟨found, hfound, h⟩ := Python.bind_eq_ok.1 h
  cases h
  obtain ⟨ofRule, hofRule, hruleFound⟩ :=
    Python.exists_mem_of_mapM_eq_ok hfound (mem_of_get hrules hrule)
  obtain ⟨targets, htargets, hruleFound⟩ := Python.bind_eq_ok.1 hruleFound
  obtain ⟨ofTarget, hofTarget, htargetFound⟩ :=
    Python.exists_mem_of_mapM_eq_ok hruleFound (mem_of_get htargets htarget)
  have hsame := targetNamespace_of_named htargetFound hname
  by_cases hempty : name = ""
  · exact .inl hempty
  · refine .inr (List.mem_filterMap.2 ⟨ofTarget, List.mem_flatten.2 ⟨ofRule, hofRule, hofTarget⟩, ?_⟩)
    rw [hsame]
    simp [Option.filter, hempty]

/-- The two namespaces, with the policies that are read for them. -/
structure Accepted (documents : List Document) : Prop where
  closed : ∀ principal ∈ expectedAccounts.map Prod.fst,
    ∃ policy spec, policyNamed documents (principal ++ "-default-deny") = some policy ∧
      policy.spec = .given spec ∧ spec.egress = .absent
  baseline : ∃ names, networkPolicyNamespaces
      (specOf (policyNamed documents "baseline-agent-allow-observability")) = .ok names ∧
    "fw-eval" ∉ names
  evaluator : ∃ names, networkPolicyNamespaces
      (specOf (policyNamed documents "sealed-evaluator-allow-object-store")) = .ok names ∧
    "fw-sut" ∉ names

variable {documents : List Document}

theorem closed_of_validateDefaultDeny {principal : String}
    (h : validateDefaultDeny documents principal = .ok ()) :
    ∃ policy spec, policyNamed documents (principal ++ "-default-deny") = some policy ∧
      policy.spec = .given spec ∧ spec.egress = .absent := by
  unfold validateDefaultDeny at h
  split at h
  · cases h
  · rename_i policy hpolicy
    split at h
    · cases h
    · cases h
    · rename_i spec hspec
      obtain ⟨types, -, h⟩ := Python.bind_eq_ok.1 h
      obtain ⟨-, h⟩ := Python.check_eq_ok.1 h
      have hpresent := Python.guard_eq_ok.1 h
      refine ⟨policy, spec, hpolicy, hspec, ?_⟩
      cases hegress : spec.egress with
      | absent => rfl
      | null => simp [hegress, Setting.isPresent] at hpresent
      | given rules => simp [hegress, Setting.isPresent] at hpresent

theorem accepted_of_eq_ok {report : Report}
    (h : validateNamespaceIsolationManifest documents = .ok report) : Accepted documents := by
  obtain ⟨-, h⟩ := Python.check_eq_ok.1 h
  obtain ⟨-, h⟩ := Python.check_eq_ok.1 h
  obtain ⟨_, _, h⟩ := Python.bind_eq_ok.1 h
  obtain ⟨_, hclosed, h⟩ := Python.bind_eq_ok.1 h
  obtain ⟨baselineNames, hbaseline, h⟩ := Python.bind_eq_ok.1 h
  obtain ⟨evaluatorNames, hevaluator, h⟩ := Python.bind_eq_ok.1 h
  obtain ⟨hbaselineNames, h⟩ := Python.check_eq_ok.1 h
  obtain ⟨hevaluatorNames, h⟩ := Python.check_eq_ok.1 h
  refine ⟨?_, ⟨_, hbaseline, fun hmem => hbaselineNames (.inr hmem)⟩,
    ⟨_, hevaluator, fun hmem => hevaluatorNames (.inr hmem)⟩⟩
  intro principal hprincipal
  obtain ⟨expected, hexpected, rfl⟩ := List.mem_map.1 hprincipal
  exact closed_of_validateDefaultDeny (Python.forM_eq_ok.1 hclosed expected hexpected)

/-! ### Isolation -/

/-- The pods of a principal in its namespace. -/
def IsPrincipal (principal ownNamespace : String) (pod : Pod) : Prop :=
  pod.namespace = ownNamespace ∧ ("faultwitness.dev/principal", principal) ∈ pod.labels

instance (principal ownNamespace : String) (pod : Pod) :
    Decidable (IsPrincipal principal ownNamespace pod) := inferInstanceAs (Decidable (_ ∧ _))

/-- A principal, the namespace of its pods, the policy that the validator reads for it, and the
namespace it must not reach. -/
structure Boundary where
  principal : String
  ownNamespace : String
  allowPolicy : String
  forbidden : String

def baselineBoundary : Boundary :=
  ⟨"baseline-agent", "fw-baseline", "baseline-agent-allow-observability", "fw-eval"⟩

def evaluatorBoundary : Boundary :=
  ⟨"sealed-evaluator", "fw-eval", "sealed-evaluator-allow-object-store", "fw-sut"⟩

/-- The policy selects a pod of the principal. -/
def Boundary.Applies (b : Boundary) (cluster : Cluster) (policy : NetworkPolicy) : Prop :=
  ∃ agent ∈ cluster.pods, IsPrincipal b.principal b.ownNamespace agent ∧
    policy.selects agent = true

instance (b : Boundary) (cluster : Cluster) (policy : NetworkPolicy) :
    Decidable (b.Applies cluster policy) :=
  inferInstanceAs (Decidable (∃ agent ∈ cluster.pods, _))

/-- No policy that selects pods of the principal admits traffic to the namespace. -/
def Isolated (b : Boundary) (cluster : Cluster) (documents : List Document) : Prop :=
  ∀ policy ∈ policies documents, b.Applies cluster policy →
    ∀ pod ∈ cluster.pods, pod.namespace = b.forbidden → policy.admits cluster pod = false

/-- The policy is read by the validator for the principal, or closed as it must be. -/
def Read (b : Boundary) (documents : List Document) (policy : NetworkPolicy) : Prop :=
  policyNamed documents b.allowPolicy = some policy ∨
    ∃ principal ∈ expectedAccounts.map Prod.fst,
      policyNamed documents (principal ++ "-default-deny") = some policy

instance (b : Boundary) (documents : List Document) (policy : NetworkPolicy) :
    Decidable (Read b documents policy) := inferInstanceAs (Decidable (_ ∨ ∃ p ∈ _, _))

/-- The rule admits traffic to the pod without naming a namespace: it names no peers, or a peer
admits it that has no label with a namespace's name. -/
def admitsUnnamed (cluster : Cluster) (rule : EgressRule) (ownNamespace : String) (pod : Pod) :
    Bool :=
  match rule.toPeers.toOption.getD [] with
  | [] => true
  | peers => peers.any fun peer =>
    peer.namedNamespace.getD "" = "" && peer.admits cluster ownNamespace pod

/-- What the validator leaves open: policies it has not read, and rules of the policy it has read
that admit traffic without naming a namespace. -/
structure Inspected (b : Boundary) (cluster : Cluster) (documents : List Document) : Prop where
  unread : ∀ policy ∈ policies documents, ¬ Read b documents policy → b.Applies cluster policy →
    ∀ pod ∈ cluster.pods, pod.namespace = b.forbidden → policy.admits cluster pod = false
  unnamed : ∀ policy ∈ policyNamed documents b.allowPolicy, b.Applies cluster policy →
    ∀ pod ∈ cluster.pods, pod.namespace = b.forbidden →
      ∀ spec ∈ policy.spec.toOption, ∀ rule ∈ spec.egressRules,
        admitsUnnamed cluster rule policy.ownNamespace pod = false

theorem mem_egress_of_mem_egressRules {spec : PolicySpec} {rule : EgressRule}
    (h : rule ∈ spec.egressRules) : rule ∈ spec.egress.toOption.getD [] := by
  unfold PolicySpec.egressRules at h
  split at h
  · exact h
  · split at h
    · exact h
    · cases h

variable {cluster : Cluster}

/-- A rule without unnamed admissions admits nothing in a namespace that it does not name. -/
theorem admits_eq_admitsUnnamed {rule : EgressRule} {ownNamespace : String} {pod : Pod}
    (h : ∀ target ∈ rule.toPeers.toOption.getD [], ∀ name,
      target.namedNamespace = some name → name = "" ∨ name ≠ pod.namespace) :
    rule.admits cluster ownNamespace pod = admitsUnnamed cluster rule ownNamespace pod := by
  unfold EgressRule.admits admitsUnnamed
  cases hpeers : rule.toPeers.toOption.getD [] with
  | nil => rfl
  | cons first rest =>
    rw [hpeers] at h
    have hpeer : ∀ peer ∈ first :: rest, peer.admits cluster ownNamespace pod =
        (peer.namedNamespace.getD "" = "" && peer.admits cluster ownNamespace pod) := by
      intro peer hmem
      cases hname : peer.namedNamespace with
      | none => simp
      | some name =>
        rcases h peer hmem name hname with hempty | hne
        · simp [hempty]
        · rw [Peer.not_admits_of_named hname hne, Bool.and_false]
    refine Bool.eq_iff_iff.2 ?_
    simp only [List.any_eq_true]
    constructor
    · rintro ⟨peer, hmem, hadmits⟩
      exact ⟨peer, hmem, by rw [← hpeer peer hmem]; exact hadmits⟩
    · rintro ⟨peer, hmem, hadmits⟩
      exact ⟨peer, hmem, by rw [hpeer peer hmem]; exact hadmits⟩

variable {documents : List Document} {policy : NetworkPolicy}

theorem mem_of_policyNamed {name : String} (h : policyNamed documents name = some policy) :
    policy ∈ policies documents :=
  List.mem_reverse.1 (List.mem_of_find?_eq_some h)

/-- The policy that is read for a boundary admits to its namespace only what is unnamed. -/
theorem admits_iff_unnamed {b : Boundary} {pod : Pod}
    (hread : ∃ names, networkPolicyNamespaces (specOf (policyNamed documents b.allowPolicy)) =
      .ok names ∧ b.forbidden ∉ names)
    (hnamed : policyNamed documents b.allowPolicy = some policy)
    (hpod : pod.namespace = b.forbidden) :
    policy.admits cluster pod = false ↔ ∀ spec ∈ policy.spec.toOption, ∀ rule ∈ spec.egressRules,
      admitsUnnamed cluster rule policy.ownNamespace pod = false := by
  obtain ⟨names, hnames, hforbidden⟩ := hread
  rw [hnamed, specOf] at hnames
  unfold NetworkPolicy.admits
  cases hspec : policy.spec with
  | absent => simp [Setting.toOption]
  | null => simp [Setting.toOption]
  | given spec =>
    rw [hspec] at hnames
    simp only [Setting.toOption, Option.mem_def, Option.some.injEq, forall_eq', List.any_eq_false,
      Bool.not_eq_true]
    refine forall₂_congr fun rule hrule => ?_
    rw [admits_eq_admitsUnnamed]
    intro target htarget name hname
    rcases named_of_networkPolicyNamespaces hnames (mem_egress_of_mem_egressRules hrule) htarget
      hname with hempty | hmem
    · exact .inl hempty
    · refine .inr ?_
      rintro rfl
      exact hforbidden (hpod ▸ hmem)

theorem isolated_iff_inspected {b : Boundary}
    (hclosed : ∀ principal ∈ expectedAccounts.map Prod.fst,
      ∃ policy spec, policyNamed documents (principal ++ "-default-deny") = some policy ∧
        policy.spec = .given spec ∧ spec.egress = .absent)
    (hread : ∃ names, networkPolicyNamespaces (specOf (policyNamed documents b.allowPolicy)) =
      .ok names ∧ b.forbidden ∉ names) :
    Isolated b cluster documents ↔ Inspected b cluster documents := by
  constructor
  · intro h
    refine ⟨fun policy hmem _ => h policy hmem, ?_⟩
    intro policy hnamed happlies pod hmem hpod
    exact (admits_iff_unnamed hread hnamed hpod).1
      (h policy (mem_of_policyNamed hnamed) happlies pod hmem hpod)
  · intro h policy hpolicy happlies pod hmem hpod
    by_cases hread' : Read b documents policy
    · rcases hread' with hnamed | ⟨principal, hprincipal, hdeny⟩
      · exact (admits_iff_unnamed hread hnamed hpod).2
          (h.unnamed policy hnamed happlies pod hmem hpod)
      · obtain ⟨policy', spec, hdeny', hspec, hegress⟩ := hclosed principal hprincipal
        rw [hdeny] at hdeny'
        cases hdeny'
        exact NetworkPolicy.not_admits_of_closed hspec hegress
    · exact h.unread policy hpolicy hread' happlies pod hmem hpod

/-- **An accepted manifest isolates exactly as far as what the validator leaves open does.** -/
theorem isolated_iff {documents : List Document} {report : Report}
    (h : validateNamespaceIsolationManifest documents = .ok report) (cluster : Cluster) :
    (Isolated baselineBoundary cluster documents ∧ Isolated evaluatorBoundary cluster documents) ↔
      Inspected baselineBoundary cluster documents ∧
        Inspected evaluatorBoundary cluster documents := by
  have haccepted := accepted_of_eq_ok h
  exact and_congr (isolated_iff_inspected haccepted.closed haccepted.baseline)
    (isolated_iff_inspected haccepted.closed haccepted.evaluator)

/-! ### The manifest of the repository -/

def labelled (labels : Labels) : Setting Selector := .given { matchLabels := .given labels }

def principalSelector (principal : String) : Setting Selector :=
  labelled [("faultwitness.dev/principal", principal)]

def tcp (number : ℕ) : Port := { protocol := some "TCP", number := some number }

def toNamespace (name : String) (ports : List Port) : EgressRule where
  toPeers := .given [{ namespaceSelector := labelled [(nameLabel, name)] }]
  ports := .given ports

def dnsRule : EgressRule :=
  toNamespace "kube-system" [{ protocol := some "UDP", number := some 53 }, tcp 53]

def publicBlock : IpBlock :=
  { cidr := some "0.0.0.0/0", except := .given PUBLIC_HTTPS_EXCLUSIONS }

def defaultDeny (principal ownNamespace : String) : Document :=
  .networkPolicy
    { metadata := { name := principal ++ "-default-deny", «namespace» := some ownNamespace }
      spec := .given
        { podSelector := principalSelector principal
          policyTypes := .given ["Ingress", "Egress"] } }

def allowEgress (name ownNamespace principal : String) (rules : List EgressRule) : Document :=
  .networkPolicy
    { metadata := { name, «namespace» := some ownNamespace }
      spec := .given
        { podSelector := principalSelector principal
          policyTypes := .given ["Egress"]
          egress := .given rules } }

def frozenManifest : List Document :=
  [.other, .other,
    .serviceAccount { name := "scenario-controller", «namespace» := some "fw-sut" } (some false),
    .serviceAccount { name := "baseline-agent", «namespace» := some "fw-baseline" } (some false),
    .serviceAccount { name := "sealed-evaluator", «namespace» := some "fw-eval" } (some false),
    defaultDeny "scenario-controller" "fw-sut",
    allowEgress "scenario-controller-allow-required" "fw-sut" "scenario-controller"
      [dnsRule,
        { toPeers := .given [{ podSelector := labelled [("app.kubernetes.io/name", "flagd")] }]
          ports := .given [tcp 4000, tcp 8013] }],
    defaultDeny "baseline-agent" "fw-baseline",
    allowEgress "baseline-agent-allow-observability" "fw-baseline" "baseline-agent"
      [dnsRule, toNamespace "fw-sut" [tcp 8080, tcp 9090, tcp 16686, tcp 4318],
        toNamespace "fw-observability" [tcp 9090, tcp 3100, tcp 3200],
        { toPeers := .given [{ ipBlock := .given publicBlock }], ports := .given [tcp 443] }],
    .networkPolicy
      { metadata :=
          { name := "allow-baseline-agent-read-observability"
            «namespace» := some "fw-observability" }
        spec := .given
          { podSelector := .given { matchExpressions := .given observabilityExpressions }
            policyTypes := .given ["Ingress"]
            ingress := .given
              [{ fromPeers := .given [observabilitySource], ports := .given observabilityPorts }] } },
    defaultDeny "sealed-evaluator" "fw-eval",
    allowEgress "sealed-evaluator-allow-object-store" "fw-eval" "sealed-evaluator"
      [dnsRule,
        { toPeers := .given
            [{ namespaceSelector := labelled [(nameLabel, "fw-data")]
               podSelector := labelled [("app.kubernetes.io/name", "minio")] }]
          ports := .given [tcp 9000] }]]

theorem validate_frozenManifest :
    (validateNamespaceIsolationManifest frozenManifest).isOk = true := by decide +kernel

def principalPod (principal ownNamespace : String) (address : ℕ) : Pod where
  «namespace» := ownNamespace
  labels := [("faultwitness.dev/principal", principal)]
  address

/-- A pod of either principal and one of the system under test, at addresses of the cluster. -/
def sampleCluster : Cluster where
  pods :=
    [principalPod "baseline-agent" "fw-baseline" 0x0a2a0010,
      principalPod "sealed-evaluator" "fw-eval" 0x0a2a0011,
      { «namespace» := "fw-sut", labels := [("app.kubernetes.io/name", "flagd")],
        address := 0x0a2a0012 }]
  labels name := [(nameLabel, name)]
  named name value := by simp

/-- The repository's own manifest isolates the two. -/
theorem isolated_iff_frozenManifest :
    Isolated baselineBoundary sampleCluster frozenManifest ∧
      Isolated evaluatorBoundary sampleCluster frozenManifest := by
  cases hreport : validateNamespaceIsolationManifest frozenManifest with
  | error err =>
    have hok := validate_frozenManifest
    rw [hreport] at hok
    cases hok
  | ok report =>
    refine (isolated_iff hreport sampleCluster).2 ⟨⟨?_, ?_⟩, ⟨?_, ?_⟩⟩
    all_goals decide +kernel

/-- The repository's manifest with a policy more, under a name that is not looked up. -/
def extraPolicyManifest : List Document :=
  frozenManifest ++ [allowEgress "baseline-agent-extra" "fw-baseline" "baseline-agent" [{}]]

/-- The validator accepts a manifest with which the baseline agent reaches the evaluator. -/
theorem not_isolated_extraPolicy :
    (validateNamespaceIsolationManifest extraPolicyManifest).isOk = true ∧
      ¬ Isolated baselineBoundary sampleCluster extraPolicyManifest := by
  refine ⟨by decide +kernel, ?_⟩
  unfold Isolated
  decide +kernel

end IsolationManifest
